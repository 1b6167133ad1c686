/-
  File:      Uprava/Core/Isolation.lean
  Subject:   Which rows of another Node's aggregates an accepted event can reach.

  An event is checked by its scope, its runtime, its session and its command; its projection also
  writes through its turn, its approval, the placement and the task run its payload names.
  `Isolated` says that the rows of every other Node are the same afterwards. `WritesOwn` asks of
  each key the projection writes through that it names rows of the Node, or rows that already hold
  what is written. `isolated_iff` says that the two are the same for every accepted event.
-/
import Uprava.Core.EventOwner
import Uprava.Core.Ingest

namespace Uprava.Core

open Uprava.Protocol
open Uprava.Lib (Table)
open Uprava.Lib.Table

/-! ## 1. The rows of the other Nodes -/

namespace Database

variable (db : Database) (nodeId : NodeId)

def foreignSession (id : SessionThreadId) : Bool := db.sessionOwner id != some nodeId

def foreignPlacement (id : ProjectPlacementId) : Bool := db.placementOwner id != some nodeId

def foreignPlacements : List PlacementRow :=
  db.projectPlacements.select fun r => r.nodeId != nodeId

def foreignSessions : List SessionRow :=
  db.sessionThreads.select fun r => db.foreignPlacement nodeId r.projectPlacementId

def foreignRuntimes : List RuntimeRow :=
  db.runtimeSessions.select fun r => db.foreignSession nodeId r.sessionThreadId

def foreignTurns : List TurnRow :=
  db.turns.select fun r => db.foreignSession nodeId r.sessionThreadId

def foreignApprovals : List ApprovalRow :=
  db.approvals.select fun r => db.foreignSession nodeId r.sessionThreadId

def foreignMessages : List MessageRow :=
  db.messages.select fun r => db.foreignSession nodeId r.sessionThreadId

def foreignTaskRuns : List TaskRunRow :=
  db.taskRuns.select fun r => db.foreignPlacement nodeId r.projectPlacementId

end Database

/-- The rows that do not belong to a placement of the Node are the same in both databases. -/
structure Isolated (nodeId : NodeId) (db db' : Database) : Prop where
  runtimes : db'.foreignRuntimes nodeId = db.foreignRuntimes nodeId
  sessions : db'.foreignSessions nodeId = db.foreignSessions nodeId
  turns : db'.foreignTurns nodeId = db.foreignTurns nodeId
  approvals : db'.foreignApprovals nodeId = db.foreignApprovals nodeId
  messages : db'.foreignMessages nodeId = db.foreignMessages nodeId
  placements : db'.foreignPlacements nodeId = db.foreignPlacements nodeId
  taskRuns : db'.foreignTaskRuns nodeId = db.foreignTaskRuns nodeId

/-! ## 2. The keys a projection writes through -/

/-- The event whose projection a delivery runs: the recorded one of its id if that is not projected
    yet, and the delivered one if none is recorded. -/
def projectedEvent? (db : Database) (event : EventEnvelope) : Option EventEnvelope :=
  match findEvent? db.events event.eventId with
  | some row => if row.projectionState = .projected then none else some row.event
  | none => some event

/-- The task run a task event is about. -/
def eventTaskRunId (event : EventEnvelope) : Option TaskRunId :=
  match event.payload with
  | .taskRunStateChanged taskRunId .. => some taskRunId
  | _ => none

/-- Each key the projection writes through names rows of the Node, or rows that already hold what
    the event writes to them. -/
structure WritesOwn (nodeId : NodeId) (db : Database) (event : EventEnvelope)
    (messageId : MessageId) : Prop where
  runtime : ∀ r ∈ db.runtimeSessions.rows, event.runtimeSessionId = some r.runtimeSessionId →
    db.sessionOwner r.sessionThreadId = some nodeId ∨ r.projectOwn event = r
  session : ∀ r ∈ db.sessionThreads.rows, event.sessionThreadId = some r.sessionThreadId →
    db.placementOwner r.projectPlacementId = some nodeId ∨ r.project event = r
  turn : ∀ r ∈ db.turns.rows, event.turnId = some r.turnId →
    db.sessionOwner r.sessionThreadId = some nodeId ∨ r.project event = r
  approval : ∀ r ∈ db.approvals.rows, eventApprovalId event = some r.approvalId →
    ∀ s, event.sessionThreadId = some s →
      (db.sessionOwner r.sessionThreadId = some nodeId ∧ db.sessionOwner s = some nodeId) ∨
        r.write event s = r
  newApproval : isApprovalKind event.kind = true → ∀ id, eventApprovalId event = some id →
    db.approvals.find? (·.approvalId == id) = none →
      ∀ s, event.sessionThreadId = some s → db.sessionOwner s = some nodeId
  message : ∀ row, messageRow event messageId = some row → ¬ db.messages.Clashes row →
    db.sessionOwner row.sessionThreadId = some nodeId
  placement : ∀ r ∈ db.projectPlacements.rows,
    workspacePlacementId event = some r.projectPlacementId →
      r.nodeId = nodeId ∨ r.project event = r
  taskRun : ∀ r ∈ db.taskRuns.rows, eventTaskRunId event = some r.taskRunId →
    db.placementOwner r.projectPlacementId = some nodeId ∨ r.project event = r

/-! ## 3. Owners stay -/

section Owners

variable {db db' : Database} {event : EventEnvelope} {gap : Option Int} {messageId : MessageId}
  {events : Table EventRow}

theorem PlacementRow.project_id (event : EventEnvelope) (r : PlacementRow) :
    (r.project event).projectPlacementId = r.projectPlacementId ∧
      (r.project event).nodeId = r.nodeId := by
  unfold PlacementRow.project
  split <;> exact ⟨rfl, rfl⟩

theorem Projected.placementOwner (h : Projected db event gap messageId events db')
    (id : ProjectPlacementId) : db'.placementOwner id = db.placementOwner id := by
  have hfind := find?_map_rows (q := (·.projectPlacementId == id))
    (projectPlacement_rows h.projectPlacements) fun r => by
      rw [(PlacementRow.project_id event r).1]
  unfold Database.placementOwner Database.findPlacement?
  rw [hfind, Option.map_map]
  congr 1
  funext r
  exact (PlacementRow.project_id event r).2

theorem Projected.sessionOwner (h : Projected db event gap messageId events db')
    (id : SessionThreadId) : db'.sessionOwner id = db.sessionOwner id := by
  have hrows : db'.sessionThreads.rows = db.sessionThreads.rows.map (.after event gap) := by
    rw [h.sessionThreads, sessionsAfter_rows]
  have hfind := find?_map_rows (q := (·.sessionThreadId == id)) hrows fun r => by
    rw [(SessionRow.after_id event gap r).1]
  unfold Database.sessionOwner Database.findSession?
  rw [hfind, Option.bind_map]
  congr 1
  funext r
  rw [Function.comp_apply, h.placementOwner, (SessionRow.after_id event gap r).2]

end Owners

/-! ## 4. Table by table -/

section Tables

variable {db db' : Database} {event : EventEnvelope} {gap : Option Int} {messageId : MessageId}
  {events : Table EventRow} (nodeId : NodeId)

theorem foreignSession_eq_false {id : SessionThreadId} :
    db.foreignSession nodeId id = false ↔ db.sessionOwner id = some nodeId := by
  simp [Database.foreignSession]

theorem foreignPlacement_eq_false {id : ProjectPlacementId} :
    db.foreignPlacement nodeId id = false ↔ db.placementOwner id = some nodeId := by
  simp [Database.foreignPlacement]

theorem Projected.foreignSession (h : Projected db event gap messageId events db') :
    db'.foreignSession nodeId = db.foreignSession nodeId := by
  funext id
  rw [Database.foreignSession, h.sessionOwner, Database.foreignSession]

theorem Projected.foreignPlacement (h : Projected db event gap messageId events db') :
    db'.foreignPlacement nodeId = db.foreignPlacement nodeId := by
  funext id
  rw [Database.foreignPlacement, h.placementOwner, Database.foreignPlacement]

theorem foreignRuntimes_iff (h : Projected db event gap messageId events db') :
    db'.foreignRuntimes nodeId = db.foreignRuntimes nodeId ↔
      ∀ r ∈ db.runtimeSessions.rows, event.runtimeSessionId = some r.runtimeSessionId →
        db.sessionOwner r.sessionThreadId = some nodeId ∨ r.after event gap = r := by
  unfold Database.foreignRuntimes select
  rw [h.foreignSession nodeId, h.runtimeSessions, runtimesAfter_rows]
  rw [filter_map_eq_iff_of_keeps (P := fun r => event.runtimeSessionId = some r.runtimeSessionId)
    (fun a b e => Or.inl (by rw [e, (RuntimeRow.after_id event gap b).1]))
    (fun r => by rw [(RuntimeRow.after_id event gap r).2])
    (fun r hr => RuntimeRow.after_of_ne hr)]
  simp only [foreignSession_eq_false]

theorem foreignSessions_iff (h : Projected db event gap messageId events db') :
    db'.foreignSessions nodeId = db.foreignSessions nodeId ↔
      ∀ r ∈ db.sessionThreads.rows, event.sessionThreadId = some r.sessionThreadId →
        db.placementOwner r.projectPlacementId = some nodeId ∨ r.after event gap = r := by
  unfold Database.foreignSessions select
  rw [h.foreignPlacement nodeId, h.sessionThreads, sessionsAfter_rows]
  rw [filter_map_eq_iff_of_keeps (P := fun r => event.sessionThreadId = some r.sessionThreadId)
    (fun a b e => Or.inl (by rw [e, (SessionRow.after_id event gap b).1]))
    (fun r => by rw [(SessionRow.after_id event gap r).2])
    (fun r hr => SessionRow.after_of_ne hr)]
  simp only [foreignPlacement_eq_false]

theorem TurnRow.project_id (event : EventEnvelope) (r : TurnRow) :
    (r.project event).turnId = r.turnId ∧ (r.project event).sessionThreadId = r.sessionThreadId := by
  unfold TurnRow.project
  split
  · split <;> exact ⟨rfl, rfl⟩
  · exact ⟨rfl, rfl⟩

theorem TurnRow.project_of_ne {r : TurnRow} (h : event.turnId ≠ some r.turnId) :
    r.project event = r := by
  unfold TurnRow.project
  split
  · exact if_neg h
  · rfl

theorem TaskRunRow.project_id (event : EventEnvelope) (r : TaskRunRow) :
    (r.project event).taskRunId = r.taskRunId ∧
      (r.project event).projectPlacementId = r.projectPlacementId := by
  unfold TaskRunRow.project
  split
  · split <;> exact ⟨rfl, rfl⟩
  · exact ⟨rfl, rfl⟩

theorem TaskRunRow.project_of_ne {r : TaskRunRow} (h : eventTaskRunId event ≠ some r.taskRunId) :
    r.project event = r := by
  unfold TaskRunRow.project
  split
  · rename_i id s cleanup message hpayload
    refine if_neg fun hr => h ?_
    rw [eventTaskRunId, hpayload, hr.2.1]
  · rfl

theorem foreignTurns_iff (h : Projected db event gap messageId events db') :
    db'.foreignTurns nodeId = db.foreignTurns nodeId ↔
      ∀ r ∈ db.turns.rows, event.turnId = some r.turnId →
        db.sessionOwner r.sessionThreadId = some nodeId ∨ r.project event = r := by
  unfold Database.foreignTurns select
  rw [h.foreignSession nodeId, h.turns, updateTurnFromEvent_rows]
  rw [filter_map_eq_iff_of_keeps (P := fun r => event.turnId = some r.turnId)
    (fun a b e => Or.inl (by rw [e, (TurnRow.project_id event b).1]))
    (fun r => by rw [(TurnRow.project_id event r).2])
    (fun r hr => TurnRow.project_of_ne hr)]
  simp only [foreignSession_eq_false]

theorem PlacementRow.project_of_ne {r : PlacementRow}
    (h : workspacePlacementId event ≠ some r.projectPlacementId) : r.project event = r :=
  if_neg fun h' => h h'.2

theorem foreignPlacements_iff (h : Projected db event gap messageId events db') :
    db'.foreignPlacements nodeId = db.foreignPlacements nodeId ↔
      ∀ r ∈ db.projectPlacements.rows, workspacePlacementId event = some r.projectPlacementId →
        r.nodeId = nodeId ∨ r.project event = r := by
  unfold Database.foreignPlacements select
  rw [projectPlacement_rows h.projectPlacements]
  rw [filter_map_eq_iff_of_keeps
    (P := fun r => workspacePlacementId event = some r.projectPlacementId)
    (fun a b e => Or.inl (by rw [e, (PlacementRow.project_id event b).1]))
    (fun r => by rw [(PlacementRow.project_id event r).2])
    (fun r hr => PlacementRow.project_of_ne hr)]
  simp only [bne_eq_false_iff_eq]

theorem foreignTaskRuns_iff (h : Projected db event gap messageId events db') :
    db'.foreignTaskRuns nodeId = db.foreignTaskRuns nodeId ↔
      ∀ r ∈ db.taskRuns.rows, eventTaskRunId event = some r.taskRunId →
        db.placementOwner r.projectPlacementId = some nodeId ∨ r.project event = r := by
  unfold Database.foreignTaskRuns select
  rw [h.foreignPlacement nodeId, projectTaskEvent_rows h.taskRuns]
  rw [filter_map_eq_iff_of_keeps (P := fun r => eventTaskRunId event = some r.taskRunId)
    (fun a b e => (by rw [e, (TaskRunRow.project_id event b).1] : a.taskRunId = b.taskRunId))
    (fun r => by rw [(TaskRunRow.project_id event r).2])
    (fun r hr => TaskRunRow.project_of_ne hr)]
  simp only [foreignPlacement_eq_false]

/-- A new row is out of a filter's sight exactly when the filter drops it. -/
theorem filter_append_singleton_eq_iff {ρ : Type} {rows : List ρ} {row : ρ} {q : ρ → Bool} :
    (rows ++ [row]).filter q = rows.filter q ↔ q row = false := by
  cases hq : q row <;> simp [List.filter_append, hq]

theorem foreignMessages_iff (h : Projected db event gap messageId events db') :
    db'.foreignMessages nodeId = db.foreignMessages nodeId ↔
      ∀ row, messageRow event messageId = some row → ¬ db.messages.Clashes row →
        db.sessionOwner row.sessionThreadId = some nodeId := by
  unfold Database.foreignMessages select
  rw [h.foreignSession nodeId, h.messages]
  cases messageRow event messageId with
  | none => simp
  | some row =>
    rw [Option.map_some, Option.getD_some]
    by_cases hclash : db.messages.Clashes row
    · simp [insertOrIgnore, hclash]
    · rw [insertOrIgnore, dif_neg hclash, rows_push, filter_append_singleton_eq_iff,
        foreignSession_eq_false]
      constructor
      · rintro hown _ ⟨⟩ -
        exact hown
      · exact fun hown => hown row rfl hclash

theorem foreignApprovals_iff (h : Projected db event gap messageId events db') :
    db'.foreignApprovals nodeId = db.foreignApprovals nodeId ↔
      (∀ r ∈ db.approvals.rows, eventApprovalId event = some r.approvalId →
        ∀ s, event.sessionThreadId = some s →
          (db.sessionOwner r.sessionThreadId = some nodeId ∧ db.sessionOwner s = some nodeId) ∨
            r.write event s = r) ∧
      (isApprovalKind event.kind = true → ∀ id, eventApprovalId event = some id →
        db.approvals.find? (·.approvalId == id) = none →
          ∀ s, event.sessionThreadId = some s → db.sessionOwner s = some nodeId) := by
  unfold Database.foreignApprovals select
  rw [h.foreignSession nodeId]
  rcases updateApprovalFromEvent_ok h.approvals with
    ⟨hsame, hno⟩ | ⟨id, s, hkind, hid, hs, ⟨⟨stored, hstored⟩, hrows⟩ | ⟨hnone, row, hrow, hrows⟩⟩
  · -- no statement ran
    refine iff_of_true (by rw [hsame]) ⟨fun r _ hr s hs => Or.inr ?_, fun hkind id hid _ s hs => ?_⟩
    · refine ApprovalRow.write_of_not_kind ?_
      by_contra hkind
      exact hno r.approvalId s (by simpa using hkind) hr hs
    · exact absurd hs (hno id s hkind hid)
  · -- the stored row is written
    have hkey : ∀ a b : ApprovalRow, a = (if b.approvalId = id then b.write event s else b) →
        Lib.Schema.clash a b := by
      rintro a b rfl
      refine Or.inl ?_
      split
      · exact ApprovalRow.write_id event s b
      · rfl
    rw [hrows, filter_map_eq_iff hkey]
    simp only [hid, hs, Option.some.injEq]
    constructor
    · intro hall
      refine ⟨?_, fun _ id' hid' hnone => ?_⟩
      · rintro r hr rfl s' rfl
        have hr' := hall r hr
        rw [if_pos rfl, ApprovalRow.write_session hkind] at hr'
        by_cases hown : db.sessionOwner r.sessionThreadId = some nodeId ∧
            db.sessionOwner s = some nodeId
        · exact Or.inl hown
        · refine Or.inr (hr' ?_)
          by_contra hq
          simp only [not_or, Bool.not_eq_true, foreignSession_eq_false] at hq
          exact hown hq
      · rw [← hid', hstored] at hnone
        cases hnone
    · rintro ⟨hall, -⟩ r hr hq
      by_cases hr' : r.approvalId = id
      · rw [if_pos hr'] at hq ⊢
        rcases hall r hr hr'.symm s rfl with ⟨hown, hown'⟩ | hsame
        · rw [ApprovalRow.write_session hkind] at hq
          rw [← foreignSession_eq_false] at hown hown'
          simp [hown, hown'] at hq
        · exact hsame
      · rw [if_neg hr']
  · -- a row of the event's session is new
    rw [hrows, filter_append_singleton_eq_iff, foreignSession_eq_false, hrow]
    constructor
    · intro hown
      refine ⟨fun r hr hr' => ?_, fun _ _ _ _ s' hs' => ?_⟩
      · rw [hid, Option.some.injEq] at hr'
        have hfind := List.find?_eq_none.mp hnone r hr
        simp [hr'] at hfind
      · rw [hs, Option.some.injEq] at hs'
        rw [← hs']
        exact hown
    · exact fun hall => hall.2 hkind id hid hnone s hs

end Tables

/-! ## 5. Isolation -/

/-- The runtime and the session the event names are the Node's. -/
structure NamesOwn (nodeId : NodeId) (db : Database) (event : EventEnvelope) : Prop where
  runtime : ∀ r ∈ db.runtimeSessions.rows, event.runtimeSessionId = some r.runtimeSessionId →
    db.sessionOwner r.sessionThreadId = some nodeId
  session : ∀ r ∈ db.sessionThreads.rows, event.sessionThreadId = some r.sessionThreadId →
    db.placementOwner r.projectPlacementId = some nodeId

theorem EventOwned.namesOwn {db : Database} {nodeId : NodeId} {event : EventEnvelope}
    (h : EventOwned db nodeId event) : NamesOwn nodeId db event := by
  constructor
  · intro r hr hid
    have howner := h.runtime _ hid
    have hfind : db.findRuntime? r.runtimeSessionId = some r :=
      find?_of_mem hr (by simp) fun a ha => Or.inl (by simpa using ha)
    rwa [Database.runtimeOwner, hfind, Option.bind_some] at howner
  · intro r hr hid
    have howner := h.session _ hid
    have hfind : db.findSession? r.sessionThreadId = some r :=
      find?_of_mem hr (by simp) fun a ha => Or.inl (by simpa using ha)
    rwa [Database.sessionOwner, hfind, Option.bind_some] at howner

theorem isolated_iff_of_projected {db db' : Database} {event : EventEnvelope} {gap : Option Int}
    {messageId : MessageId} {events : Table EventRow} {nodeId : NodeId}
    (h : Projected db event gap messageId events db')
    (hgap : gap = none ∨ NamesOwn nodeId db event) :
    Isolated nodeId db db' ↔ WritesOwn nodeId db event messageId := by
  have hruntime : (∀ r ∈ db.runtimeSessions.rows, event.runtimeSessionId = some r.runtimeSessionId →
        db.sessionOwner r.sessionThreadId = some nodeId ∨ r.after event gap = r) ↔
      ∀ r ∈ db.runtimeSessions.rows, event.runtimeSessionId = some r.runtimeSessionId →
        db.sessionOwner r.sessionThreadId = some nodeId ∨ r.projectOwn event = r := by
    rcases hgap with rfl | hown
    · exact Iff.rfl
    · exact iff_of_true (fun r hr hid => Or.inl (hown.runtime r hr hid))
        (fun r hr hid => Or.inl (hown.runtime r hr hid))
  have hsession : (∀ r ∈ db.sessionThreads.rows, event.sessionThreadId = some r.sessionThreadId →
        db.placementOwner r.projectPlacementId = some nodeId ∨ r.after event gap = r) ↔
      ∀ r ∈ db.sessionThreads.rows, event.sessionThreadId = some r.sessionThreadId →
        db.placementOwner r.projectPlacementId = some nodeId ∨ r.project event = r := by
    rcases hgap with rfl | hown
    · exact Iff.rfl
    · exact iff_of_true (fun r hr hid => Or.inl (hown.session r hr hid))
        (fun r hr hid => Or.inl (hown.session r hr hid))
  constructor
  · intro hi
    have happrovals := (foreignApprovals_iff nodeId h).mp hi.approvals
    exact ⟨hruntime.mp ((foreignRuntimes_iff nodeId h).mp hi.runtimes),
      hsession.mp ((foreignSessions_iff nodeId h).mp hi.sessions),
      (foreignTurns_iff nodeId h).mp hi.turns, happrovals.1, happrovals.2,
      (foreignMessages_iff nodeId h).mp hi.messages,
      (foreignPlacements_iff nodeId h).mp hi.placements,
      (foreignTaskRuns_iff nodeId h).mp hi.taskRuns⟩
  · intro hw
    exact ⟨(foreignRuntimes_iff nodeId h).mpr (hruntime.mpr hw.runtime),
      (foreignSessions_iff nodeId h).mpr (hsession.mpr hw.session),
      (foreignTurns_iff nodeId h).mpr hw.turn,
      (foreignApprovals_iff nodeId h).mpr ⟨hw.approval, hw.newApproval⟩,
      (foreignMessages_iff nodeId h).mpr hw.message,
      (foreignPlacements_iff nodeId h).mpr hw.placement,
      (foreignTaskRuns_iff nodeId h).mpr hw.taskRun⟩

/-- What Core fills in before it records an event is no key of the projection. -/
theorem writesOwn_prepareEvent {db : Database} {nodeId : NodeId} {event : EventEnvelope}
    {messageId : MessageId} :
    WritesOwn nodeId db (prepareEvent db event) messageId ↔
      WritesOwn nodeId db event messageId := by
  constructor
  · exact fun h => ⟨h.runtime, h.session, h.turn, h.approval, h.newApproval, h.message,
      h.placement, h.taskRun⟩
  · exact fun h => ⟨h.runtime, h.session, h.turn, h.approval, h.newApproval, h.message,
      h.placement, h.taskRun⟩

/-- **An accepted event leaves every other Node's rows alone exactly when each key its projection
    writes through names rows of its own Node**, or rows that already hold what it writes. -/
theorem isolated_iff {db db' : Database} {nodeId : NodeId} {event : EventEnvelope}
    {messageId : MessageId} (hvalid : validateEventOwner db nodeId event = .ok ())
    (haccept : acceptNodeEvent db event messageId = .ok db') :
    Isolated nodeId db db' ↔
      ∀ e, projectedEvent? db event = some e → WritesOwn nodeId db e messageId := by
  obtain ⟨-, ⟨row, hrow, hstate, hdb'⟩ | ⟨row, hrow, hstate, hp⟩ |
    ⟨hnone, -, events, -, hp⟩⟩ := acceptNodeEvent_ok haccept
  · -- a duplicate of a projected event
    rw [projectedEvent?, hrow]
    subst hdb'
    exact iff_of_true ⟨rfl, rfl, rfl, rfl, rfl, rfl, rfl⟩ (by simp [hstate])
  · -- the recorded event is projected
    rw [projectedEvent?, hrow]
    simp only [hstate, reduceCtorEq, if_false, Option.some.injEq, forall_eq']
    exact isolated_iff_of_projected hp (Or.inl rfl)
  · -- the event is new
    rw [projectedEvent?, hnone]
    simp only [Option.some.injEq, forall_eq']
    have hown := (validateEventOwner_ok hvalid).namesOwn
    have hown' : NamesOwn nodeId db (prepareEvent db event) := ⟨hown.runtime, hown.session⟩
    exact (isolated_iff_of_projected hp (Or.inr hown')).trans writesOwn_prepareEvent

/-! ## 6. A turn of another Node -/

/-- Node `n1` reports a turn of Node `n2` started, in the scope of its own runtime. -/
def foreignTurnStarted : EventEnvelope where
  eventId := "e1"
  actorRef := .node "n1"
  scopeRef := .runtime "r1"
  nodeId := some "n1"
  runtimeSessionId := some "r1"
  sessionThreadId := some "s1"
  turnId := some "t2"
  seq := 1
  kind := .turnStarted
  happenedAt := 5
  payload := .turnStarted

/-- **The event passes the owner check, is accepted, and changes the turn of the other Node.** -/
theorem foreignTurnStarted_not_isolated :
    ∃ db', validateEventOwner twoNodes "n1" foreignTurnStarted = .ok () ∧
      acceptNodeEvent twoNodes foreignTurnStarted "m1" = .ok db' ∧
      ¬ Isolated "n1" twoNodes db' := by
  refine ⟨(acceptNodeEvent twoNodes foreignTurnStarted "m1").toOption.getD twoNodes, by decide,
    rfl, fun h => ?_⟩
  exact absurd h.turns (by decide)

/-- The same event about the Node's own turn. -/
theorem isolated_iff_ownTurnStarted :
    ∃ db', acceptNodeEvent twoNodes { foreignTurnStarted with turnId := some "t1" } "m1" = .ok db' ∧
      (Isolated "n1" twoNodes db' ↔
        ∀ e, projectedEvent? twoNodes { foreignTurnStarted with turnId := some "t1" } = some e →
          WritesOwn "n1" twoNodes e "m1") :=
  ⟨_, rfl, isolated_iff (by decide) rfl⟩

end Uprava.Core
