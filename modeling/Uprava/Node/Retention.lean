/-
  File:      Uprava/Node/Retention.lean
  Subject:   The owner's outbox over the outcomes that are persisted: when it stays within the
             limits of retention, and when the counter of dropped events counts what was dropped.

  Retention is enforced on the copy a command runs on. The merge appends the copy's new events to
  the owner's outbox and takes the larger counter; it removes nothing and counts nothing. What the
  copy dropped of the owner's events is therefore counted and still there, and an outbox that
  others filled meanwhile is not trimmed at all.
-/
import Mathlib.Algebra.Order.BigOperators.Group.List
import Mathlib.Algebra.Order.Group.Nat
import Uprava.Lib.Run
import Uprava.Node.Effects
import Uprava.Node.Merge

namespace Uprava.Node

open Uprava.Protocol
open Uprava.Lib (appendNew appendNew_eq_append_new run Meets run_inv_of_meets check meets_of_check)

variable {source : EventSource} {world : World}

/-! ## 1. What an outcome sends and what it keeps -/

/-- A persisted outcome whose retention counted nothing keeps all it sends. -/
def KeepsSent (s : NodeLocalState) (x : Execution) : Prop :=
  x.localState.droppedEventCount = s.droppedEventCount →
    ∀ e ∈ x.outcome.eventsToSend, e ∈ x.localState.eventOutbox

theorem keepsSent_answer {s s' : NodeLocalState} {drawn : Nat} {command : CommandEnvelope}
    {status : CommandState} {payload : JsonValue} :
    KeepsSent s (answer s' drawn command status payload) := fun _ e he => by cases he

theorem keepsSent_deliverEvents {s s' : NodeLocalState} {drawn : Nat}
    {taken live events : List EventEnvelope} {status : CommandState} {payload : JsonValue}
    (hdropped : s'.droppedEventCount = s.droppedEventCount) :
    KeepsSent s (deliverEvents source world s' drawn taken live events status payload) := by
  intro h e he
  set delivered : NodeLocalState := { s' with eventOutbox := s'.eventOutbox ++ events }
    with hdelivered
  have hnot : (delivered.enforceEventOutboxRetention source world.limits drawn).droppedEventCount =
      delivered.droppedEventCount := h.trans hdropped.symm
  have hnotices : (retentionNotices source world.limits delivered drawn).1 = [] := by
    rw [retentionNotices_of_dropCount (dropCount_of_not_dropped hnot)]
  have hkept := enforce_of_not_dropped hnot
  show e ∈ (delivered.enforceEventOutboxRetention source world.limits drawn).eventOutbox
  have he' : e ∈ events ++ (retentionNotices source world.limits delivered drawn).1 := he
  rw [hnotices, List.append_nil] at he'
  rw [hkept]
  exact List.mem_append_right _ he'

theorem keepsSent_answerByEvents {s s' : NodeLocalState} {drawn : Nat} {command : CommandEnvelope}
    {taken live events : List EventEnvelope}
    (hdropped : s'.droppedEventCount = s.droppedEventCount) :
    KeepsSent s (answerByEvents source world s' drawn command taken live events) :=
  (@keepsSent_deliverEvents source world _ (s'.applyRuntimeStateProjection events) drawn taken live
    events (commandStatusForEvents events) .emptyObject) hdropped

theorem keepsSent_answerWithEvents {s s' : NodeLocalState} {drawn : Nat}
    {command : CommandEnvelope} {status : CommandState} {payload : JsonValue}
    {live events : List EventEnvelope} (hdropped : s'.droppedEventCount = s.droppedEventCount) :
    KeepsSent s (answerWithEvents source world s' drawn command status payload live events) :=
  (@keepsSent_deliverEvents _ _ _ (s'.recordCommandResultPayload command status payload)) hdropped

theorem keepsSent_runtimeBody {s : NodeLocalState} {drawn : Nat} {command : CommandEnvelope} :
    KeepsSent s (runtimeBody source world s drawn command) := by
  unfold runtimeBody
  split
  · exact keepsSent_answerByEvents rfl
  · rename_i runtimeId _
    obtain ⟨-, -, -, -, hdropped⟩ := (@runtimeDrafts_keeps world) s command runtimeId
    exact keepsSent_answerByEvents hdropped

theorem keepsSent_commandBody {s : NodeLocalState} {drawn : Nat} {command : CommandEnvelope} :
    KeepsSent s (commandBody source world s drawn command) := by
  have hsnapshot : ∀ payload, KeepsSent s (snapshotBody source world s drawn command payload) := by
    intro payload
    unfold snapshotBody
    split
    · exact keepsSent_answerByEvents rfl
    · exact keepsSent_answerByEvents rfl
  have hcausal : KeepsSent s (causalBody source world s drawn command) := by
    unfold causalBody
    dsimp only
    split
    · exact keepsSent_answerWithEvents rfl
    · exact keepsSent_answerWithEvents rfl
  have hdeduction : KeepsSent s (deductionBody world s drawn command) := by
    unfold deductionBody
    dsimp only
    split
    · exact keepsSent_answer
    · split
      · exact keepsSent_answer
      · exact keepsSent_answer
  unfold commandBody
  split
  · exact hsnapshot _
  · exact hsnapshot _
  · exact keepsSent_answer
  · exact keepsSent_answer
  · exact keepsSent_answer
  · exact hcausal
  · exact hcausal
  · exact hcausal
  · exact hdeduction
  · exact keepsSent_answer
  · exact keepsSent_answerWithEvents rfl
  · exact keepsSent_answer
  · exact fun _ e he => by cases he
  · exact keepsSent_runtimeBody

/-- **An outcome that changed the state and counted nothing keeps all it sends.** -/
theorem keepsSent_handleCommand {s : NodeLocalState} {drawn : Nat} {command : CommandEnvelope}
    (h : (handleCommand source world s drawn command).outcome.stateChanged = true) :
    KeepsSent s (handleCommand source world s drawn command) := by
  unfold handleCommand at h ⊢
  split
  · exact fun _ e he => List.mem_append_right _ he
  · rename_i haccess
    rw [if_neg haccess] at h
    unfold prepareCommandDispatch at h ⊢
    split
    · rename_i hkind
      rw [if_pos hkind] at h
      cases h
    · rename_i hkind
      rw [if_neg hkind] at h
      cases hstatus : s.commandStatus.lookup command.commandId with
      | some status =>
        rw [hstatus] at h
        cases h
      | none => exact keepsSent_commandBody

/-! ## 2. Runs of the store -/

/-- The owner's state and the outcomes prepared on its snapshots, with what was acknowledged and
    what was dropped so far: an event of the outbox or of an outcome that is in the outbox no more,
    and was not acknowledged. -/
structure OutboxRun where
  owner : NodeLocalState
  prepared : List (NodeLocalState × Execution) := []
  drawn : Nat := 0
  acked : List EventId := []
  dropped : List EventId := []

inductive OutboxAction where
  /-- A command is handled on a snapshot of the owner's state. -/
  | prepare (world : World) (command : CommandEnvelope)
  | persist (i : Nat)
  | ack (ids : List EventId)

/-- The ids among `ids` that are in neither outbox and were neither acknowledged nor dropped. -/
def OutboxRun.missing (o : OutboxRun) (outboxIds : List EventId) (ids : List EventId) :
    List EventId :=
  (ids.filter fun id => !outboxIds.contains id && !o.acked.contains id &&
    !o.dropped.contains id).dedup

/-- The limits of retention, at the time `world` has. -/
def World.limitedBy (world : World) (limits : OutboxLimits) : World :=
  { world with limits := { limits with now := world.limits.now } }

def OutboxRun.step (source : EventSource) (limits : OutboxLimits) (o : OutboxRun) :
    OutboxAction → Option OutboxRun
  | .prepare world command =>
    let x := handleCommand source (world.limitedBy limits) o.owner o.drawn command
    some { o with prepared := o.prepared ++ [(o.owner, x)], drawn := x.drawn }
  | .persist i =>
    match o.prepared[i]? with
    | none => none
    | some (baseline, x) =>
      if x.outcome.stateChanged then
        let owner := o.owner.mergeCommandStateFrom baseline x.localState
        some { o with
          owner
          dropped := o.dropped ++ o.missing owner.outboxIds
            (o.owner.outboxIds ++ x.outcome.eventsToSend.map (·.eventId)) }
      else none
  | .ack ids =>
    some { o with
      owner := applyNodeStateMutation o.owner (.persistEventAck ids)
      acked := o.acked ++ ids }

/-- **The outbox is within its limits, and each event that was dropped is counted once**, from a
    counter that stood at `start`. -/
structure OutboxRun.Bounded (limits : OutboxLimits) (start : Nat) (o : OutboxRun) : Prop where
  count : limits.countExceeded o.owner.eventOutbox = false
  bytes : limits.bytesExceeded o.owner.eventOutbox = false
  distinct : o.dropped.Nodup
  counted : o.owner.droppedEventCount = start + o.dropped.length

/-! ## 3. When a persisted outcome keeps it so -/

/-- The events of an outcome that neither its baseline nor the owner has. -/
def newEvents (owner baseline candidate : NodeLocalState) : List EventEnvelope :=
  appendNew EventEnvelope.eventId [] (baseline.eventOutbox ++ owner.eventOutbox)
    candidate.eventOutbox

/-- The events of an outcome that its own outbox lost, and that are nowhere else. -/
def OutboxRun.lost (o : OutboxRun) (x : Execution) : List EventId :=
  o.missing (x.localState.outboxIds ++ o.owner.outboxIds)
    (x.outcome.eventsToSend.map (·.eventId))

/-- **The outcome fits**: its new events fit the limits beside what the owner has, and its retention
    either counted nothing, or counted just the events of its own that it lost while no other count
    was merged since the snapshot. -/
structure Fits (limits : OutboxLimits) (o : OutboxRun) (baseline : NodeLocalState)
    (x : Execution) : Prop where
  count : limits.countExceeded
    (o.owner.eventOutbox ++ newEvents o.owner baseline x.localState) = false
  bytes : limits.bytesExceeded
    (o.owner.eventOutbox ++ newEvents o.owner baseline x.localState) = false
  counted : x.localState.droppedEventCount = baseline.droppedEventCount ∨
    x.localState.droppedEventCount = baseline.droppedEventCount + (o.lost x).length ∧
      o.owner.droppedEventCount = baseline.droppedEventCount

/-- The condition of a step. -/
def PersistsFit (limits : OutboxLimits) (o : OutboxRun) : OutboxAction → Prop
  | .persist i => ∀ p ∈ o.prepared[i]?, Fits limits o p.1 p.2
  | _ => True

instance (limits : OutboxLimits) (o : OutboxRun) (baseline : NodeLocalState) (x : Execution) :
    Decidable (Fits limits o baseline x) :=
  decidable_of_iff (limits.countExceeded
      (o.owner.eventOutbox ++ newEvents o.owner baseline x.localState) = false ∧
    limits.bytesExceeded
      (o.owner.eventOutbox ++ newEvents o.owner baseline x.localState) = false ∧
    (x.localState.droppedEventCount = baseline.droppedEventCount ∨
      x.localState.droppedEventCount = baseline.droppedEventCount + (o.lost x).length ∧
        o.owner.droppedEventCount = baseline.droppedEventCount))
    ⟨fun h => ⟨h.1, h.2.1, h.2.2⟩, fun h => ⟨h.count, h.bytes, h.counted⟩⟩

instance (limits : OutboxLimits) (o : OutboxRun) : (a : OutboxAction) →
    Decidable (PersistsFit limits o a)
  | .persist i => inferInstanceAs (Decidable (∀ p ∈ o.prepared[i]?, Fits limits o p.1 p.2))
  | .prepare .. | .ack _ => inferInstanceAs (Decidable True)

/-- A prepared outcome: what its command made of a state the owner had, whose counter and whose
    events the owner still has, but for those acknowledged since. -/
structure Prepared (source : EventSource) (o : OutboxRun) (p : NodeLocalState × Execution) :
    Prop where
  counter : p.1.droppedEventCount ≤ o.owner.droppedEventCount
  events : ∀ id ∈ p.1.outboxIds, id ∈ o.owner.outboxIds ∨ id ∈ o.acked
  handled : ∃ world drawn command, p.2 = handleCommand source world p.1 drawn command

/-- What was prepared stays so while the owner's counter grows and its events stay or are
    acknowledged. -/
theorem Prepared.mono {o o' : OutboxRun} {p : NodeLocalState × Execution}
    (h : Prepared source o p)
    (hcounter : o.owner.droppedEventCount ≤ o'.owner.droppedEventCount)
    (hevents : ∀ id, id ∈ o.owner.outboxIds ∨ id ∈ o.acked →
      id ∈ o'.owner.outboxIds ∨ id ∈ o'.acked) : Prepared source o' p :=
  ⟨Nat.le_trans h.counter hcounter, fun id hid => hevents id (h.events id hid), h.handled⟩

theorem mem_missing {o : OutboxRun} {outboxIds ids : List EventId} {id : EventId} :
    id ∈ o.missing outboxIds ids ↔
      id ∈ ids ∧ id ∉ outboxIds ∧ id ∉ o.acked ∧ id ∉ o.dropped := by
  simp [OutboxRun.missing, List.mem_dedup, List.mem_filter, and_assoc]

/-- **What a merge drops are the events its outcome lost.** -/
theorem missing_merge {o : OutboxRun} {baseline : NodeLocalState} {x : Execution}
    (h : Prepared source o (baseline, x)) :
    o.missing (o.owner.mergeCommandStateFrom baseline x.localState).outboxIds
        (o.owner.outboxIds ++ x.outcome.eventsToSend.map (·.eventId)) = o.lost x := by
  unfold OutboxRun.lost OutboxRun.missing
  rw [List.filter_append]
  have howner : (o.owner.outboxIds.filter fun id =>
      !(o.owner.mergeCommandStateFrom baseline x.localState).outboxIds.contains id &&
        !o.acked.contains id && !o.dropped.contains id) = [] := by
    refine List.filter_eq_nil_iff.mpr fun id hid => ?_
    have hkept : id ∈ (o.owner.mergeCommandStateFrom baseline x.localState).outboxIds :=
      mem_outboxIds_merge.mpr (Or.inl hid)
    simp [hkept]
  rw [howner, List.nil_append]
  congr 1
  refine List.filter_congr fun id _ => ?_
  by_cases hacked : id ∈ o.acked
  · simp [hacked]
  · -- an event of the baseline is still the owner's
    have hmerged : id ∈ (o.owner.mergeCommandStateFrom baseline x.localState).outboxIds ↔
        id ∈ x.localState.outboxIds ++ o.owner.outboxIds := by
      rw [mem_outboxIds_merge, List.mem_append]
      constructor
      · exact fun hid => hid.elim Or.inr fun hid => Or.inl hid.1
      · rintro (hid | hid)
        · by_cases hb : id ∈ baseline.outboxIds
          · exact Or.inl ((h.events id hb).resolve_right hacked)
          · exact Or.inr ⟨hid, hb⟩
        · exact Or.inl hid
    simp only [List.contains_eq_mem, hmerged]

/-! ## 4. A step, and a run -/

/-- The invariant of such a run. -/
structure OutboxRun.Sound (source : EventSource) (limits : OutboxLimits) (start : Nat)
    (o : OutboxRun) : Prop extends o.Bounded limits start where
  prepared : ∀ p ∈ o.prepared, Prepared source o p

/-- A persisted outcome that fits keeps the invariant. -/
theorem OutboxRun.Sound.persist {limits : OutboxLimits} {start : Nat} {o : OutboxRun}
    {baseline : NodeLocalState} {x : Execution} (h : o.Sound source limits start)
    (hp : (baseline, x) ∈ o.prepared) (hchanged : x.outcome.stateChanged = true)
    (hfits : Fits limits o baseline x) :
    OutboxRun.Sound source limits start
      { o with
        owner := o.owner.mergeCommandStateFrom baseline x.localState
        dropped := o.dropped ++ o.missing
          (o.owner.mergeCommandStateFrom baseline x.localState).outboxIds
          (o.owner.outboxIds ++ x.outcome.eventsToSend.map (·.eventId)) } := by
  have hprepared := h.prepared _ hp
  have houtbox : (o.owner.mergeCommandStateFrom baseline x.localState).eventOutbox =
      o.owner.eventOutbox ++ newEvents o.owner baseline x.localState :=
    appendNew_eq_append_new _ _ _
  have hcounter : (o.owner.mergeCommandStateFrom baseline x.localState).droppedEventCount =
      o.owner.droppedEventCount + (o.lost x).length := by
    show max o.owner.droppedEventCount x.localState.droppedEventCount = _
    rcases hfits.counted with hcounted | ⟨hcounted, hsince⟩
    · -- retention counted nothing, so nothing was lost
      have hlost : o.lost x = [] := by
        obtain ⟨world, drawn, command, hx⟩ := hprepared.handled
        have hkeeps : KeepsSent baseline x := by
          obtain rfl : x = handleCommand source world baseline drawn command := hx
          exact keepsSent_handleCommand hchanged
        refine List.eq_nil_iff_forall_not_mem.mpr fun id hid => ?_
        obtain ⟨hsent, hmissing, -⟩ := mem_missing.mp hid
        obtain ⟨e, he, rfl⟩ := List.mem_map.mp hsent
        exact hmissing (List.mem_append_left _ (List.mem_map_of_mem (hkeeps hcounted e he)))
      have hle : baseline.droppedEventCount ≤ o.owner.droppedEventCount := hprepared.counter
      rw [hlost, hcounted, List.length_nil]
      omega
    · rw [hcounted, hsince]
      omega
  refine ⟨⟨?_, ?_, ?_, ?_⟩, fun p hp => ?_⟩
  · exact (congrArg limits.countExceeded houtbox).trans hfits.count
  · exact (congrArg limits.bytesExceeded houtbox).trans hfits.bytes
  · refine List.nodup_append.mpr ⟨h.distinct, List.nodup_dedup _, fun id hid id' hid' heq => ?_⟩
    exact (mem_missing.mp hid').2.2.2 (heq ▸ hid)
  · show (o.owner.mergeCommandStateFrom baseline x.localState).droppedEventCount = _
    rw [hcounter, missing_merge hprepared, List.length_append, h.counted, Nat.add_assoc]
  · refine (h.prepared p hp).mono ?_ fun id hid => ?_
    · exact Nat.le_max_left _ _
    · exact hid.imp_left fun hid => mem_outboxIds_merge.mpr (Or.inl hid)

/-- An acknowledgement only takes events away. -/
theorem exceeded_ack {limits : OutboxLimits} {outbox : List EventEnvelope} (ids : List EventId)
    (hcount : limits.countExceeded outbox = false) (hbytes : limits.bytesExceeded outbox = false) :
    limits.countExceeded (removeAckedEvents outbox ids) = false ∧
      limits.bytesExceeded (removeAckedEvents outbox ids) = false := by
  have hlength : (removeAckedEvents outbox ids).length ≤ outbox.length :=
    List.length_filter_le _ _
  have hsize : limits.bytes (removeAckedEvents outbox ids) ≤ limits.bytes outbox :=
    (List.filter_sublist.map _).sum_le_sum fun _ _ => Nat.zero_le _
  simp only [OutboxLimits.countExceeded, OutboxLimits.bytesExceeded, Bool.and_eq_false_iff,
    decide_eq_false_iff_not] at hcount hbytes ⊢
  omega

/-- **A step that meets the condition keeps the invariant.** -/
theorem OutboxRun.Sound.step {limits : OutboxLimits} {start : Nat} {o o' : OutboxRun}
    {a : OutboxAction} (h : o.Sound source limits start) (hfits : PersistsFit limits o a)
    (hstep : o.step source limits a = some o') : o'.Sound source limits start := by
  cases a with
  | prepare world command =>
    obtain rfl := Option.some.inj hstep
    refine ⟨⟨h.count, h.bytes, h.distinct, h.counted⟩, fun p hp => ?_⟩
    rcases List.mem_append.mp hp with hp | hp
    · exact (h.prepared p hp).mono (Nat.le_refl _) fun id hid => hid
    · obtain rfl := List.mem_singleton.mp hp
      exact ⟨Nat.le_refl _, fun id hid => Or.inl hid, _, _, _, rfl⟩
  | persist i =>
    rw [OutboxRun.step] at hstep
    cases hp : o.prepared[i]? with
    | none =>
      rw [hp] at hstep
      cases hstep
    | some p =>
      obtain ⟨baseline, x⟩ := p
      rw [hp] at hstep
      dsimp only at hstep
      split at hstep
      · rename_i hchanged
        obtain rfl := Option.some.inj hstep
        exact h.persist (List.mem_of_getElem? hp) hchanged (hfits _ hp)
      · cases hstep
  | ack ids =>
    obtain rfl := Option.some.inj hstep
    obtain ⟨hcount, hbytes⟩ := exceeded_ack ids h.count h.bytes
    refine ⟨⟨hcount, hbytes, h.distinct, h.counted⟩, fun p hp => ?_⟩
    refine (h.prepared p hp).mono (Nat.le_refl _) fun id hid => ?_
    by_cases hids : id ∈ ids
    · exact Or.inr (List.mem_append_right _ hids)
    · exact hid.imp (fun hid => mem_outboxIds_ack.mpr ⟨hid, hids⟩) fun hid =>
        List.mem_append_left _ hid

/-- **In every run whose persisted outcomes fit, the owner's outbox is within its limits and the
    counter counts what was dropped.** -/
theorem outbox_bounded {limits : OutboxLimits} {s : NodeLocalState}
    (hcount : limits.countExceeded s.eventOutbox = false)
    (hbytes : limits.bytesExceeded s.eventOutbox = false) {as : List OutboxAction} {o : OutboxRun}
    (hfits : Meets (OutboxRun.step source limits) (PersistsFit limits) { owner := s } as)
    (hrun : run (OutboxRun.step source limits) { owner := s } as = some o) :
    o.Bounded limits s.droppedEventCount := by
  have hstart : OutboxRun.Sound source limits s.droppedEventCount { owner := s } :=
    ⟨⟨hcount, hbytes, List.nodup_nil, rfl⟩, fun p hp => by cases hp⟩
  exact (run_inv_of_meets (OutboxRun.Sound source limits s.droppedEventCount)
    (fun _ _ _ hI hC hst => hI.step hC hst) hstart hfits hrun).toBounded

/-! ## 5. Two long messages -/

/-- The limits, where a provider's message is three million bytes long. -/
def longMessages : OutboxLimits where
  encodedLen event :=
    match event.payload with
    | .providerMessageCompleted _ => 3000000
    | _ => 100
  now := 0

def nextTurnCommand : CommandEnvelope := { sendTurnCommand with commandId := "c10" }

/-- One turn after the other. -/
def twoTurns : List OutboxAction :=
  [.prepare quietWorld sendTurnCommand, .persist 0, .prepare quietWorld nextTurnCommand,
    .persist 1]

/-- The second turn's copy drops events of the first. They are counted, they are still there, and
    the outbox is over its limit. -/
theorem twoTurns_overflow :
    ∃ o, run (OutboxRun.step countedSource longMessages) { owner := codexNode } twoTurns = some o ∧
      longMessages.bytesExceeded o.owner.eventOutbox = true ∧ o.dropped = [] ∧
        0 < o.owner.droppedEventCount ∧
          ¬ o.Bounded longMessages codexNode.droppedEventCount := by
  have hbytes : (run (OutboxRun.step countedSource longMessages) { owner := codexNode } twoTurns).map
      (fun o => longMessages.bytesExceeded o.owner.eventOutbox) = some true := by decide
  have hdropped : (run (OutboxRun.step countedSource longMessages) { owner := codexNode }
      twoTurns).map (fun o => (o.dropped, decide (0 < o.owner.droppedEventCount))) =
        some ([], true) := by decide
  obtain ⟨o, ho, hover⟩ := Option.map_eq_some_iff.mp hbytes
  rw [ho] at hdropped
  obtain ⟨hnone, hcounted⟩ := Prod.mk.inj (Option.some.inj hdropped)
  refine ⟨o, ho, hover, hnone, of_decide_eq_true hcounted, fun h => ?_⟩
  exact absurd (hover.symm.trans h.bytes) (by decide)

/-- The same turns with the first acknowledged before the second is handled. -/
theorem outbox_bounded_acknowledged :
    let as : List OutboxAction := [.prepare quietWorld sendTurnCommand, .persist 0,
      .ack ["e0", "e1", "e2", "e3", "e4"], .prepare quietWorld nextTurnCommand, .persist 1]
    ∃ o, run (OutboxRun.step countedSource longMessages) { owner := codexNode } as = some o ∧
      o.Bounded longMessages codexNode.droppedEventCount := by
  intro as
  have hrun : (run (OutboxRun.step countedSource longMessages) { owner := codexNode } as).isSome =
      true := by decide
  obtain ⟨o, ho⟩ := Option.isSome_iff_exists.mp hrun
  have hfits : check (OutboxRun.step countedSource longMessages)
      (fun o a => decide (PersistsFit longMessages o a)) { owner := codexNode } as = true := by decide
  exact ⟨o, ho, outbox_bounded rfl rfl (meets_of_check (fun _ => True) (fun _ _ _ _ _ => trivial)
    (fun _ _ _ h => of_decide_eq_true h) trivial hfits) ho⟩

end Uprava.Node
