/-
  File:      Uprava/Core/Poison.lean
  Subject:   The events of a provider turn, and which of them Core refuses although they are new
             and the Node's own.

  Of the events a Node numbers in a runtime's scope only a request for an approval can be stopped
  by an index: an approval is unique in its turn, and a turn may ask for several.
  Core may do anything between two deliveries; the theorem is about every run of deliveries.
-/
import Uprava.Core.Acceptance
import Uprava.Lib.Run
import Uprava.Node.Provider

namespace Uprava.Core

open Uprava.Protocol
open Uprava.Lib (Table run Meets meets_congr)
open Uprava.Lib.Table

/-! ## 1. The events of a turn -/

/-- An event of some turn run through `send_turn_events`, emitted live or returned. -/
def IsTurnEvent (event : EventEnvelope) : Prop :=
  ∃ source command runtimeSessionId issue world turnId workspacePath,
    event ∈ (Node.issueEvents source Node.codexProviderKey command runtimeSessionId issue
      (Node.sendTurnEvents world turnId workspacePath)).1.map (·.2)

theorem IsTurnEvent.runtimeEvent {event : EventEnvelope} (h : IsTurnEvent event) :
    Node.RuntimeEvent event := by
  obtain ⟨source, command, runtimeSessionId, issue, world, turnId, workspacePath, hmem⟩ := h
  exact Node.runtimeEvent_issueEvents Node.ofRuntime_sendTurnEvents event hmem

/-! ## 2. The one that is refused -/

/-- The event asks for an approval in a turn that has one under another id. -/
def SecondApproval (db : Database) (event : EventEnvelope) : Prop :=
  event.kind = .approvalRequested ∧ event.sessionThreadId ≠ none ∧ event.turnId ≠ none ∧
    ∃ id, eventApprovalId event = some id ∧
      ∃ a ∈ db.approvals.rows, a.approvalId ≠ id ∧ a.turnId = event.turnId

/-- What an owned event needs of the sessions. -/
theorem EventOwned.sessionExists {db : Database} {nodeId : NodeId} {event : EventEnvelope}
    (h : EventOwned db nodeId event) :
    ∀ s, event.sessionThreadId = some s → sessionExists db.sessionThreads s = true := by
  intro s hs
  have howner := h.session s hs
  unfold Database.sessionOwner Database.findSession? at howner
  unfold Core.sessionExists
  cases hfind : db.sessionThreads.find? (·.sessionThreadId == s) with
  | none =>
    rw [hfind] at howner
    cases howner
  | some row => rfl

theorem approvals_fit_iff {db : Database} {event : EventEnvelope}
    (hevent : Node.RuntimeEvent event)
    (hsession : ∀ s, event.sessionThreadId = some s → sessionExists db.sessionThreads s = true) :
    (∃ t, updateApprovalFromEvent db.sessionThreads db.approvals event = .ok t) ↔
      ¬ SecondApproval db event := by
  unfold updateApprovalFromEvent
  split
  · rename_i id s hk hid hs
    refine Iff.trans (upsertApproval_fits_iff ?_ fun r => ?_) ?_
    · exact hsession s hs
    · exact ⟨rfl, rfl⟩
    constructor
    · rintro h ⟨-, -, hturn, id', hid', a, ha, hne, hat⟩
      obtain rfl : id = id' := Option.some.inj (hid.symm.trans hid')
      exact hturn (h a ha hne hat)
    · intro h a ha hne hat
      by_contra hturn
      exact h ⟨hk, by simp [hs], hturn, id, hid, a, ha, hne, hat⟩
  · -- a resolution names no turn
    rename_i id s hk hid hs
    have hturn := hevent.turn hk
    refine iff_of_true (upsertApproval_fits_of_keeps ?_ (fun r => ?_) ?_) ?_
    · exact hsession s hs
    · exact ⟨rfl, by rw [ApprovalRow.resolve, hturn]; rfl⟩
    · exact hturn
    · rintro ⟨hk', -⟩
      rw [hk] at hk'
      cases hk'
  · rename_i hno _
    refine iff_of_true ⟨_, rfl⟩ ?_
    rintro ⟨hk, hs, -, id, hid, -⟩
    obtain ⟨s, hs'⟩ := Option.ne_none_iff_exists'.mp hs
    exact hno id s hk hid hs'

/-- **A new runtime event that is the Node's own is accepted exactly when it is not a second
    approval of its turn.** -/
theorem accepts_runtimeEvent_iff {db : Database} {nodeId : NodeId} {event : EventEnvelope}
    {messageId : MessageId} (hevent : Node.RuntimeEvent event) (hfresh : Fresh db event)
    (hvalid : validateEventOwner db nodeId event = .ok ()) :
    (∃ db', acceptNodeEvent db event messageId = .ok db') ↔ ¬ SecondApproval db event := by
  have hkind := hevent.kind
  have hsession := (validateEventOwner_ok hvalid).sessionExists
  have htask : event.kind ≠ .taskRunStateChanged := by
    intro h
    rw [h] at hkind
    cases hkind
  have hplacement : isWorkspaceSnapshotKind event.kind = false := by
    cases hk : event.kind <;> simp_all [Node.isRuntimeKind, isWorkspaceSnapshotKind]
  rw [acceptNodeEvent_fresh_iff hfresh fun _ => hsession, ← approvals_fit_iff hevent hsession]
  constructor
  · exact fun h => h.2.approvals
  · intro happrovals
    exact ⟨hevent.payload, happrovals, ⟨db.taskRuns, if_pos htask⟩,
      ⟨db.projectPlacements, by simp [projectPlacement, hplacement]⟩⟩

/-! ## 3. Runs of deliveries -/

/-- What happens to Core's database: a Node's event arrives, or Core does something else. -/
inductive Intake where
  | deliver (nodeId : NodeId) (event : EventEnvelope) (messageId : MessageId)
  | other (db : Database)

/-- A refused event leaves the database as it was. -/
def Intake.step (db : Database) : Intake → Option Database
  | .deliver nodeId event messageId =>
    match validateEventOwner db nodeId event, acceptNodeEvent db event messageId with
    | .ok (), .ok db' => some db'
    | _, _ => some db
  | .other db' => some db'

/-- The event an action delivers is a new event of a turn that the owner check lets through. -/
def Intake.Offers (db : Database) (a : Intake) (event : EventEnvelope) (messageId : MessageId) :
    Prop :=
  ∃ nodeId, a = .deliver nodeId event messageId ∧ IsTurnEvent event ∧ Fresh db event ∧
    validateEventOwner db nodeId event = .ok ()

/-- **Along any run, every new event of a turn that is the Node's own is accepted if and only if
    none of them is a second approval of its turn.** -/
theorem turnEvents_accepted_iff (db : Database) (as : List Intake) :
    Meets Intake.step (fun db a => ∀ event messageId, a.Offers db event messageId →
        ∃ db', acceptNodeEvent db event messageId = .ok db') db as ↔
      Meets Intake.step (fun db a => ∀ event messageId, a.Offers db event messageId →
        ¬ SecondApproval db event) db as := by
  refine meets_congr fun db a => forall₂_congr fun event messageId => ?_
  refine imp_congr_right fun hoffers => ?_
  obtain ⟨nodeId, -, hturn, hfresh, hvalid⟩ := hoffers
  exact accepts_runtimeEvent_iff hturn.runtimeEvent hfresh hvalid

/-! ## 4. A turn that asks twice -/

/-- A provider that asks for two approvals and ends well. -/
def asksTwice : Node.TurnWorld where
  authorizedWorkspacePath := .ok
  process :=
    { lines := [.stdout .null (some ⟨"a1", "first?", none⟩) none,
        .stdout .null (some ⟨"a2", "second?", none⟩) none]
      exit := .exited true false false "" }
  assistantContent := ""

/-- The seven events of the turn: started, two activities, two requests, blocked. -/
def asksTwiceEvents : List EventEnvelope :=
  (Node.issueEvents ⟨fun n => "e" ++ toString n, fun _ => 2⟩ Node.codexProviderKey
    Node.sendTurnCommand "r1" ⟨∅, 0⟩ (Node.sendTurnEvents asksTwice "t1" (some "/work"))).1.map (·.2)

/-- Core after it recorded the turn's command. -/
def recordedTurn : Database := (recordCommand twoNodes Node.sendTurnCommand).toOption.getD twoNodes

/-- Core after it received the turn's events up to the first request. -/
def askedOnce : Database :=
  (run Intake.step recordedTurn
    ((asksTwiceEvents.take 5).map fun e => .deliver "n1" e ("m" ++ e.eventId))).getD recordedTurn

/-- The second request is an event of the turn, it is new, it passes the owner check, and the index
    of the approvals refuses it. -/
theorem secondRequest_refused :
    ∃ event ∈ asksTwiceEvents, Fresh askedOnce event ∧
      validateEventOwner askedOnce "n1" event = .ok () ∧
      acceptNodeEvent askedOnce event "m" = .error (.database "approvals_turn_idx") := by
  refine ⟨asksTwiceEvents[5], List.getElem_mem _, ⟨?_, ?_⟩, ?_, ?_⟩
  · decide
  · decide
  · decide
  · rfl

end Uprava.Core
