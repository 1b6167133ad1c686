/-
  File:      Uprava/Core/Ingest.lean
  Subject:   `accept_node_event`: the duplicate check, the sequence check and the gap check of an
             event, its record, its projection and what completes it, in one transaction.

  An error leaves the database as it was, so acceptance is a function to `Except AppError Database`.
  The message a completed event becomes has a random id; it is an argument here.
-/
import Uprava.Core.Commands
import Uprava.Core.Projection

namespace Uprava.Core

open Uprava.Protocol
open Uprava.Lib (Table)

/-! ## 1. Scopes and their sequence numbers -/

def scopeKey : ScopeRef → String
  | .runtime runtimeSessionId => "runtime:" ++ runtimeSessionId
  | .session sessionThreadId => "session:" ++ sessionThreadId
  | .node nodeId => "node:" ++ nodeId
  | .placement projectPlacementId => "placement:" ++ projectPlacementId
  | .taskRun taskRunId => "task_run:" ++ taskRunId
  | .unknown scope => "unknown:" ++ scope

/-- `select max(seq) from events where scope_key = …`. -/
def maxSeq (events : Table EventRow) (key : String) : Option Int :=
  ((events.select (·.scopeKey == key)).map (·.seq)).max?

/-- `next_seq`: one more than the largest sequence number of the scope. -/
def nextSeq (events : Table EventRow) (key : String) : Int := (maxSeq events key).getD 0 + 1

def nextSessionProjectionSeq (events : Table EventRow) (sessionId : SessionThreadId) : Int :=
  (((events.select (·.sessionThreadId == some sessionId)).filterMap
    (·.sessionProjectionSeq)).max?).getD 0 + 1

def findEvent? (events : Table EventRow) (eventId : EventId) : Option EventRow :=
  events.find? (·.eventId == eventId)

/-- The event that holds a sequence number of a scope. -/
def seqHolder? (events : Table EventRow) (key : String) (seq : Int) : Option EventRow :=
  events.find? fun r => r.scopeKey == key && r.seq == seq

/-- The sequence number the scope expected, when the event's is larger. A task run's numbers are
    sparse by design and leave no gap. -/
def streamGap (events : Table EventRow) (event : EventEnvelope) : Option Int :=
  let expectedSeq := nextSeq events (scopeKey event.scopeRef)
  match event.scopeRef with
  | .taskRun _ => none
  | _ => if expectedSeq < event.seq then some expectedSeq else none

/-! ## 2. Recording an event -/

def commandCorrelationId (db : Database) (commandId : Option CommandId) : Option CorrelationId :=
  commandId.bind fun id => (db.findCommand? id).map (·.command.correlationId)

/-- What Core fills in before it records an event. -/
def prepareEvent (db : Database) (event : EventEnvelope) : EventEnvelope :=
  { event with
    correlationId := event.correlationId.or (commandCorrelationId db event.commandId)
    sessionProjectionSeq := event.sessionThreadId.map (nextSessionProjectionSeq db.events) }

/-- The row an event is recorded as. -/
def EventRow.recorded (event : EventEnvelope) : EventRow where
  eventId := event.eventId
  scopeKey := Core.scopeKey event.scopeRef
  seq := event.seq
  sessionThreadId := event.sessionThreadId
  sessionProjectionSeq := event.sessionProjectionSeq
  event := event
  projectionState := .pending
  projectionAttempts := 0
  projectedAt := none

def insertEventRecord (db : Database) (event : EventEnvelope) : Except AppError Database :=
  match db.events.insert? (.recorded event) with
  | some events => .ok { db with events }
  | none => .error (.database "events")

/-- The reason a gap is recorded with. -/
def gapReason (expectedSeq seq : Int) : String :=
  "event sequence gap: expected " ++ toString expectedSeq ++ ", received " ++ toString seq

/-- A gap leaves the event's runtime stale. -/
def markRuntimeGap (runtimeSessions : Table RuntimeRow) (event : EventEnvelope)
    (expectedSeq : Int) : Table RuntimeRow :=
  match event.runtimeSessionId with
  | none => runtimeSessions
  | some id => runtimeSessions.update (·.runtimeSessionId == id)
      (.markGap (gapReason expectedSeq event.seq) event.happenedAt) ⟨fun _ _ => Iff.rfl⟩

/-- A gap leaves the event's session degraded. -/
def markSessionGap (sessionThreads : Table SessionRow) (event : EventEnvelope) :
    Table SessionRow :=
  match event.sessionThreadId with
  | none => sessionThreads
  | some id => sessionThreads.update (·.sessionThreadId == id)
      (.setState .degraded event.happenedAt) ⟨fun _ _ => Iff.rfl⟩

def markEventStreamGap (db : Database) (event : EventEnvelope) (expectedSeq : Int) : Database :=
  { db with
    runtimeSessions := markRuntimeGap db.runtimeSessions event expectedSeq
    sessionThreads := markSessionGap db.sessionThreads event }

def markGapIfAny (db : Database) (event : EventEnvelope) : Option Int → Database
  | some expectedSeq => markEventStreamGap db event expectedSeq
  | none => db

/-! ## 3. Completing an event -/

/-- The message of the session an event becomes. -/
def durableMessage (event : EventEnvelope) : Option (MessageRole × String) :=
  match event.kind with
  | .providerMessageCompleted => some (.assistant, match event.payload with
      | .providerOutputDelta content | .providerMessageCompleted content => content
      | _ => "Provider completed a message")
  | .runtimeError => some (.runtime, match event.payload with
      | .runtimeError _ message => message
      | _ => "Runtime error")
  | .approvalRequested => some (.approval, match event.payload with
      | .approvalRequested _ prompt .. => prompt
      | _ => "Approval requested")
  | .approvalResolved => some (.approval, match event.payload with
      | .approvalResolved _ _ message => message
      | _ => "Approval resolved")
  | _ => none

/-- `insert into messages … on conflict do nothing`; the session is a foreign key. -/
def insertMessage (db : Database) (row : MessageRow) : Except AppError Database :=
  if db.messages.Clashes row then .ok db
  else if !sessionExists db.sessionThreads row.sessionThreadId then
    .error (.database "messages.session_thread_id")
  else .ok { db with messages := db.messages.insertOrIgnore row }

/-- The row of an event's message, if it becomes one. -/
def messageRow (event : EventEnvelope) (messageId : MessageId) : Option MessageRow :=
  match durableMessage event, event.sessionThreadId with
  | some (role, content), some sessionThreadId =>
    some
      { messageId, sessionThreadId, turnId := event.turnId, role, content
        createdAt := event.happenedAt, completedAt := some event.happenedAt
        sourceEventId := some event.eventId }
  | _, _ => none

def recordDurableMessage (db : Database) (event : EventEnvelope) (messageId : MessageId) :
    Except AppError Database :=
  match messageRow event messageId with
  | some row => insertMessage db row
  | none => .ok db

def EventRow.complete (at' : DateTime) (r : EventRow) : EventRow :=
  { r with projectionState := .projected, projectedAt := some at' }

def enqueueEventPublication (publications : Table PublicationRow) (event : EventEnvelope) :
    Table PublicationRow :=
  publications.insertOrIgnore ⟨event.eventId, event, event.happenedAt⟩

def completeEventProjection (db : Database) (event : EventEnvelope) (messageId : MessageId) :
    Except AppError Database :=
  recordDurableMessage
    { db with
      events := db.events.update
        (fun r => r.eventId == event.eventId && r.projectionState != .projected)
        (.complete event.happenedAt) ⟨fun _ _ => Iff.rfl⟩
      publications := enqueueEventPublication db.publications event }
    event messageId

/-! ## 4. Accepting an event -/

/-- An event that is recorded and not projected yet is projected as it was recorded. -/
def retryProjection (db : Database) (row : EventRow) (messageId : MessageId) :
    Except AppError Database := do
  let db := { db with
    events := db.events.update (·.eventId == row.eventId)
      (fun r => { r with projectionAttempts := r.projectionAttempts + 1 }) ⟨fun _ _ => Iff.rfl⟩ }
  let db ← applyEventProjection db row.event
  completeEventProjection db row.event messageId

/-- An event seen for the first time is recorded, projected and completed; a gap before it marks
    its runtime and its session after the projection. -/
def recordAndProject (db : Database) (event : EventEnvelope) (messageId : MessageId) :
    Except AppError Database := do
  let gap := streamGap db.events event
  let event := prepareEvent db event
  let db ← insertEventRecord (upsertActor db event.actorRef event.happenedAt) event
  let db ← applyEventProjection db event
  completeEventProjection (markGapIfAny db event gap) event messageId

def acceptNodeEvent (db : Database) (event : EventEnvelope) (messageId : MessageId) :
    Except AppError Database :=
  if !event.payload.matchesKind event.kind then
    .error (.badRequest "protocol.event_payload_mismatch"
      "Event payload does not match its event kind")
  else
    match findEvent? db.events event.eventId with
    | some row =>
      if row.projectionState = .projected then
        .ok { db with publications := enqueueEventPublication db.publications row.event }
      else retryProjection db row messageId
    | none =>
      match seqHolder? db.events (scopeKey event.scopeRef) event.seq with
      | some holder =>
        .error (.badRequest "event.seq_conflict" ("Event seq conflicts with " ++ holder.eventId))
      | none => recordAndProject db event messageId

/-! ## 5. What an accepted event did -/

/-- The runtimes after an event's projection and the gap before it. -/
def runtimesAfter (runtimeSessions : Table RuntimeRow) (event : EventEnvelope) (gap : Option Int) :
    Table RuntimeRow :=
  match gap with
  | some expectedSeq => markRuntimeGap (projectRuntime runtimeSessions event) event expectedSeq
  | none => projectRuntime runtimeSessions event

def sessionsAfter (sessionThreads : Table SessionRow) (event : EventEnvelope) (gap : Option Int) :
    Table SessionRow :=
  match gap with
  | some _ => markSessionGap (projectSession sessionThreads event) event
  | none => projectSession sessionThreads event

/-- The projection of `event` led from `db` to `db'`, with `events` recorded and the gap marked:
    every table, after the transaction. -/
structure Projected (db : Database) (event : EventEnvelope) (gap : Option Int)
    (messageId : MessageId) (events : Table EventRow) (db' : Database) : Prop where
  approvals : updateApprovalFromEvent db.sessionThreads db.approvals event = .ok db'.approvals
  taskRuns : projectTaskEvent db.taskRuns event = .ok db'.taskRuns
  projectPlacements : projectPlacement db.projectPlacements event = .ok db'.projectPlacements
  turns : db'.turns = updateTurnFromEvent db.turns event
  runtimeSessions : db'.runtimeSessions = runtimesAfter db.runtimeSessions event gap
  sessionThreads : db'.sessionThreads = sessionsAfter db.sessionThreads event gap
  events : db'.events = events.update
    (fun r => r.eventId == event.eventId && r.projectionState != .projected)
    (.complete event.happenedAt) ⟨fun _ _ => Iff.rfl⟩
  messages : db'.messages = ((messageRow event messageId).map db.messages.insertOrIgnore).getD
    db.messages
  commands : db'.commands = db.commands

theorem insertMessage_ok {db db' : Database} {row : MessageRow}
    (h : insertMessage db row = .ok db') :
    db' = { db with messages := db.messages.insertOrIgnore row } := by
  unfold insertMessage at h
  split at h
  · rename_i hclash
    cases h
    simp [Table.insertOrIgnore, hclash]
  · split at h
    · cases h
    · cases h
      rfl

theorem recordDurableMessage_ok {db db' : Database} {event : EventEnvelope}
    {messageId : MessageId} (h : recordDurableMessage db event messageId = .ok db') :
    db' = { db with
      messages := ((messageRow event messageId).map db.messages.insertOrIgnore).getD
        db.messages } := by
  unfold recordDurableMessage at h
  split at h
  · rename_i row hrow
    rw [insertMessage_ok h, hrow]
    rfl
  · rename_i hrow
    cases h
    rw [hrow]
    rfl

/-- The two transactions end alike: a projection, the gap, the completion. -/
theorem projected_of_ok {db db₁ db' : Database} {event : EventEnvelope} {gap : Option Int}
    {messageId : MessageId} (h : applyEventProjection db event = .ok db₁)
    (h' : completeEventProjection (markGapIfAny db₁ event gap) event messageId = .ok db') :
    Projected db event gap messageId db.events db' := by
  obtain ⟨approvals, taskRuns, projectPlacements, ha, ht, hp, rfl⟩ := applyEventProjection_ok h
  have hdb' := recordDurableMessage_ok h'
  cases gap <;> subst hdb' <;> exact ⟨ha, ht, hp, rfl, rfl, rfl, rfl, rfl, rfl⟩

/-- **What an accepted event did.** It was projected before and nothing but its publication is
    touched; or it was recorded before and its record is projected; or it is new, its scope has no
    other event of its number, and it is recorded and projected. -/
theorem acceptNodeEvent_ok {db db' : Database} {event : EventEnvelope} {messageId : MessageId}
    (h : acceptNodeEvent db event messageId = .ok db') :
    event.payload.matchesKind event.kind = true ∧
    ((∃ row, findEvent? db.events event.eventId = some row ∧ row.projectionState = .projected ∧
        db' = { db with publications := enqueueEventPublication db.publications row.event }) ∨
      (∃ row, findEvent? db.events event.eventId = some row ∧ row.projectionState = .pending ∧
        Projected db row.event none messageId
          (db.events.update (·.eventId == row.eventId)
            (fun r => { r with projectionAttempts := r.projectionAttempts + 1 })
            ⟨fun _ _ => Iff.rfl⟩) db') ∨
      (findEvent? db.events event.eventId = none ∧
        seqHolder? db.events (scopeKey event.scopeRef) event.seq = none ∧
        ∃ events, db.events.insert? (.recorded (prepareEvent db event)) = some events ∧
          Projected db (prepareEvent db event) (streamGap db.events event) messageId events
            db')) := by
  unfold acceptNodeEvent at h
  split at h
  · cases h
  · rename_i hmatch
    refine ⟨by simpa using hmatch, ?_⟩
    split at h
    · rename_i row hrow
      split at h
      · rename_i hprojected
        cases h
        exact Or.inl ⟨row, hrow, hprojected, rfl⟩
      · rename_i hpending
        have hpending' : row.projectionState = .pending := by
          cases hs : row.projectionState with
          | pending => rfl
          | projected => exact absurd hs hpending
        refine Or.inr (Or.inl ⟨row, hrow, hpending', ?_⟩)
        unfold retryProjection at h
        obtain ⟨db₁, h₁, h₂⟩ := bind_eq_ok.mp h
        have hp : Projected _ row.event none messageId _ db' := projected_of_ok h₁ h₂
        exact ⟨hp.approvals, hp.taskRuns, hp.projectPlacements, hp.turns, hp.runtimeSessions,
          hp.sessionThreads, hp.events, hp.messages, hp.commands⟩
    · rename_i hnone
      split at h
      · cases h
      · rename_i hseq
        refine Or.inr (Or.inr ⟨hnone, hseq, ?_⟩)
        unfold recordAndProject at h
        obtain ⟨db₁, h₁, h₂⟩ := bind_eq_ok.mp h
        obtain ⟨db₂, h₃, h₄⟩ := bind_eq_ok.mp h₂
        obtain ⟨actors, hactors⟩ := upsertActor_eq db (prepareEvent db event).actorRef
          (prepareEvent db event).happenedAt
        rw [hactors] at h₁
        unfold insertEventRecord at h₁
        split at h₁
        · rename_i events hevents
          cases h₁
          have hp := projected_of_ok h₃ h₄
          exact ⟨events, hevents, hp.approvals, hp.taskRuns, hp.projectPlacements, hp.turns,
            hp.runtimeSessions, hp.sessionThreads, hp.events, hp.messages, hp.commands⟩
        · cases h₁

/-! ## 6. The runtimes and the sessions, row by row -/

/-- The row of a runtime after an event's projection and the gap before it. -/
def RuntimeRow.after (event : EventEnvelope) (gap : Option Int) (r : RuntimeRow) : RuntimeRow :=
  match gap with
  | none => r.projectOwn event
  | some expectedSeq =>
    if event.runtimeSessionId = some r.runtimeSessionId then
      (r.project event).markGap (gapReason expectedSeq event.seq) event.happenedAt
    else r

def SessionRow.after (event : EventEnvelope) (gap : Option Int) (r : SessionRow) : SessionRow :=
  match gap with
  | none => r.project event
  | some _ =>
    if event.sessionThreadId = some r.sessionThreadId then
      (r.project event).setState .degraded event.happenedAt
    else r

@[simp] theorem RuntimeRow.project_id (event : EventEnvelope) (r : RuntimeRow) :
    (r.project event).runtimeSessionId = r.runtimeSessionId ∧
      (r.project event).sessionThreadId = r.sessionThreadId := by
  unfold RuntimeRow.project
  dsimp only
  split
  · exact ⟨rfl, rfl⟩
  · split
    · split <;> exact ⟨rfl, rfl⟩
    · exact ⟨rfl, rfl⟩

@[simp] theorem SessionRow.project_id (event : EventEnvelope) (r : SessionRow) :
    (r.project event).sessionThreadId = r.sessionThreadId ∧
      (r.project event).projectPlacementId = r.projectPlacementId := by
  unfold SessionRow.project
  split
  · split <;> exact ⟨rfl, rfl⟩
  · exact ⟨rfl, rfl⟩

theorem RuntimeRow.after_of_ne {event : EventEnvelope} {gap : Option Int} {r : RuntimeRow}
    (h : event.runtimeSessionId ≠ some r.runtimeSessionId) : r.after event gap = r := by
  cases gap with
  | none => exact if_neg h
  | some _ => exact if_neg h

theorem SessionRow.project_of_ne {event : EventEnvelope} {r : SessionRow}
    (h : event.sessionThreadId ≠ some r.sessionThreadId) : r.project event = r := by
  unfold SessionRow.project
  split
  · rw [if_neg fun hr => h hr.1]
  · rfl

theorem SessionRow.after_of_ne {event : EventEnvelope} {gap : Option Int} {r : SessionRow}
    (h : event.sessionThreadId ≠ some r.sessionThreadId) : r.after event gap = r := by
  cases gap with
  | none => exact project_of_ne h
  | some _ => exact if_neg h

theorem RuntimeRow.after_id (event : EventEnvelope) (gap : Option Int) (r : RuntimeRow) :
    (r.after event gap).runtimeSessionId = r.runtimeSessionId ∧
      (r.after event gap).sessionThreadId = r.sessionThreadId := by
  by_cases h : event.runtimeSessionId = some r.runtimeSessionId
  · cases gap with
    | none => simp [RuntimeRow.after, RuntimeRow.projectOwn, h]
    | some _ => simp [RuntimeRow.after, h, RuntimeRow.markGap]
  · rw [after_of_ne h]
    exact ⟨rfl, rfl⟩

theorem SessionRow.after_id (event : EventEnvelope) (gap : Option Int) (r : SessionRow) :
    (r.after event gap).sessionThreadId = r.sessionThreadId ∧
      (r.after event gap).projectPlacementId = r.projectPlacementId := by
  by_cases h : event.sessionThreadId = some r.sessionThreadId
  · cases gap with
    | none => simp [SessionRow.after]
    | some _ => simp [SessionRow.after, h, SessionRow.setState]
  · rw [after_of_ne h]
    exact ⟨rfl, rfl⟩

theorem runtimesAfter_rows (t : Table RuntimeRow) (event : EventEnvelope) (gap : Option Int) :
    (runtimesAfter t event gap).rows = t.rows.map (.after event gap) := by
  cases gap with
  | none => exact projectRuntime_rows t event
  | some expectedSeq =>
    show (markRuntimeGap (projectRuntime t event) event expectedSeq).rows = _
    unfold markRuntimeGap
    split
    · rename_i hnone
      rw [projectRuntime_rows]
      refine List.map_congr_left fun r _ => ?_
      simp [RuntimeRow.projectOwn, RuntimeRow.after, hnone]
    · rename_i id hid
      rw [Table.rows_update, projectRuntime_rows, List.map_map]
      refine List.map_congr_left fun r _ => ?_
      by_cases hr : r.runtimeSessionId = id
      · simp [RuntimeRow.projectOwn, RuntimeRow.after, hid, hr]
      · simp [RuntimeRow.projectOwn, RuntimeRow.after, hid, hr, Ne.symm hr]

theorem sessionsAfter_rows (t : Table SessionRow) (event : EventEnvelope) (gap : Option Int) :
    (sessionsAfter t event gap).rows = t.rows.map (.after event gap) := by
  cases gap with
  | none => exact projectSession_rows t event
  | some expectedSeq =>
    show (markSessionGap (projectSession t event) event).rows = _
    unfold markSessionGap
    split
    · rename_i hnone
      rw [projectSession_rows]
      refine List.map_congr_left fun r _ => ?_
      rw [SessionRow.project_of_ne (by simp [hnone]), SessionRow.after_of_ne (by simp [hnone])]
    · rename_i id hid
      rw [Table.rows_update, projectSession_rows, List.map_map]
      refine List.map_congr_left fun r _ => ?_
      by_cases hr : r.sessionThreadId = id
      · simp [SessionRow.after, hid, hr]
      · have hne : event.sessionThreadId ≠ some r.sessionThreadId := by simp [hid, Ne.symm hr]
        rw [SessionRow.after_of_ne hne, Function.comp_apply, SessionRow.project_of_ne hne]
        simp [hr]

end Uprava.Core
