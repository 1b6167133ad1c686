/-
  File:      Uprava/Core/Projection.lean
  Subject:   What an event does to the tables the projection writes: runtimes, sessions, turns,
             approvals, placements and task runs.

  Each statement of the projection is a function on its own table, and what it does to one row is
  a function on the row. `applyEventProjection` runs them in the source's order. A statement that
  can fail on a constraint returns the constraint it failed on; the others are total.
-/
import Uprava.Core.Database

namespace Uprava.Core

open Uprava.Protocol
open Uprava.Lib (Table)

/-! ## 1. What an event says -/

/-- The approval an event is about, unless its id is empty. -/
def eventApprovalId (event : EventEnvelope) : Option ApprovalId :=
  match event.payload with
  | .approvalRequested approvalId .. | .approvalResolved approvalId .. =>
    if approvalId = "" then none else some approvalId
  | _ => none

def turnStateForEvent (event : EventEnvelope) : Option TurnState :=
  match event.kind with
  | .turnStarted => some .running
  | .turnCompleted => some .completed
  | .turnInterrupted => some .interrupted
  | .approvalRequested => some .blockedOnApproval
  | .runtimeError => some .failed
  | _ => none

/-- The states the projection of a kind writes to the event's runtime and to its session. -/
def projectedStates : EventKind → Option (RuntimeSessionState × SessionThreadState)
  | .runtimeStarting => some (.starting, .active)
  | .runtimeReady => some (.ready, .active)
  | .runtimeResuming => some (.resuming, .active)
  | .runtimeRunning => some (.running, .active)
  | .runtimeBlocked => some (.blocked, .active)
  | .runtimeExpired => some (.expired, .degraded)
  | .runtimeStopped => some (.stopped, .stopped)
  | .runtimeError => some (.error, .degraded)
  | .turnInterrupted => some (.interrupted, .active)
  | .approvalRequested => some (.blocked, .active)
  | _ => none

/-- The data a runtime payload carries. -/
def runtimeStateData : EventPayload → Option RuntimeStateEventData
  | .runtimeStarting data | .runtimeReady data | .runtimeRunning data | .runtimeBlocked data
  | .runtimeExpired data | .runtimeResuming data | .runtimeStopped data => some data
  | _ => none

/-- The resume reference of an event. The typed payload has no entry for the two keys the source
    falls back to, so the fallback finds nothing. -/
def eventProviderResumeRef (event : EventEnvelope) : Option JsonValue :=
  ((runtimeStateData event.payload).bind (·.providerResumeRef)).filter (· != .null)

/-- The snapshot of a workspace payload. -/
def workspaceSnapshot : EventPayload → Option WorkspaceSnapshotData
  | .workspaceValidated data | .resourceSnapshotUpdated data => some data
  | _ => none

/-- The `placement_id` entry of a payload. -/
def payloadPlacementId : EventPayload → Option ProjectPlacementId
  | .workspaceValidated data | .resourceSnapshotUpdated data => some data.placementId
  | .workspaceFileWritten placementId .. | .workspaceCommandCompleted placementId ..
  | .workspaceCheckCompleted placementId .. | .workspaceDiffObserved placementId .. =>
    some placementId
  | _ => none

/-- The placement a workspace event is about: its scope's, or the one its payload names. -/
def workspacePlacementId (event : EventEnvelope) : Option ProjectPlacementId :=
  match event.scopeRef with
  | .placement projectPlacementId => some projectPlacementId
  | _ => payloadPlacementId event.payload

def isWorkspaceSnapshotKind : EventKind → Bool
  | .workspaceValidated | .resourceSnapshotUpdated => true
  | _ => false

/-! ## 2. Runtimes -/

def RuntimeRow.touch (at' : DateTime) (r : RuntimeRow) : RuntimeRow :=
  { r with lastRuntimeStepAt := some at', updatedAt := at' }

/-- The states that end a degradation. -/
def clearsDegradedReason : RuntimeSessionState → Bool
  | .starting | .ready | .running | .resuming => true
  | _ => false

def RuntimeRow.setState (s : RuntimeSessionState) (at' : DateTime) (r : RuntimeRow) : RuntimeRow :=
  { r with
    state := s
    degradedReason := if clearsDegradedReason s then none else r.degradedReason
    updatedAt := at' }

def RuntimeRow.setResumeRef (ref : JsonValue) (at' : DateTime) (r : RuntimeRow) : RuntimeRow :=
  { r with providerResumeRef := some ref, updatedAt := at' }

def RuntimeRow.markGap (reason : String) (at' : DateTime) (r : RuntimeRow) : RuntimeRow :=
  { r with state := .stale, degradedReason := some reason, updatedAt := at' }

/-- What the projection of an event does to its runtime's row: the step time, the state of the
    event's kind, and the resume reference of a `runtimeReady`. -/
def RuntimeRow.project (event : EventEnvelope) (r : RuntimeRow) : RuntimeRow :=
  let touched := r.touch event.happenedAt
  match projectedStates event.kind with
  | none => touched
  | some (s, _) =>
    let moved := touched.setState s event.happenedAt
    if event.kind = .runtimeReady then
      match eventProviderResumeRef event with
      | some ref => moved.setResumeRef ref event.happenedAt
      | none => moved
    else moved

/-- The statements on `runtime_sessions`, all of them on the event's own runtime. -/
def projectRuntime (runtimeSessions : Table RuntimeRow) (event : EventEnvelope) :
    Table RuntimeRow :=
  match event.runtimeSessionId with
  | none => runtimeSessions
  | some runtimeSessionId =>
    runtimeSessions.update (·.runtimeSessionId == runtimeSessionId) (.project event)
      ⟨fun _ _ => by
        unfold RuntimeRow.project
        split
        · exact Iff.rfl
        · dsimp only
          split
          · split <;> exact Iff.rfl
          · exact Iff.rfl⟩

/-! ## 3. Turns -/

/-- The states a turn ends in. -/
def isTurnEnd : TurnState → Bool
  | .completed | .interrupted | .failed => true
  | _ => false

def TurnRow.setFromEvent (event : EventEnvelope) (s : TurnState) (r : TurnRow) : TurnRow :=
  { r with
    state := s
    blockedApprovalId := if s = .blockedOnApproval then eventApprovalId event else none
    completedAt := (if isTurnEnd s then some event.happenedAt else none).or r.completedAt
    updatedAt := event.happenedAt }

def updateTurnFromEvent (turns : Table TurnRow) (event : EventEnvelope) : Table TurnRow :=
  match event.turnId, turnStateForEvent event with
  | some turnId, some s =>
    turns.update (·.turnId == turnId) (.setFromEvent event s) ⟨fun _ _ => Iff.rfl⟩
  | _, _ => turns

/-! ## 4. Approvals -/

def sessionExists (sessionThreads : Table SessionRow) (sessionThreadId : SessionThreadId) : Bool :=
  (sessionThreads.find? (·.sessionThreadId == sessionThreadId)).isSome

/-- The row a request inserts. -/
def ApprovalRow.requested (event : EventEnvelope) (approvalId : ApprovalId)
    (sessionThreadId : SessionThreadId) : ApprovalRow where
  approvalId := approvalId
  sessionThreadId := sessionThreadId
  runtimeSessionId := event.runtimeSessionId
  turnId := event.turnId
  state := .requested
  requestPayload := some event.payload
  responsePayload := none
  requestCommandId := event.commandId
  resolveCommandId := none
  requestedEventId := some event.eventId
  resolvedEventId := none
  createdAt := event.happenedAt
  updatedAt := event.happenedAt
  resolvedAt := none

/-- What a request does to a row of the same approval. -/
def ApprovalRow.request (event : EventEnvelope) (sessionThreadId : SessionThreadId)
    (r : ApprovalRow) : ApprovalRow :=
  { r with
    sessionThreadId
    runtimeSessionId := event.runtimeSessionId
    turnId := event.turnId
    state := .requested
    requestPayload := some event.payload
    requestCommandId := event.commandId
    requestedEventId := some event.eventId
    updatedAt := event.happenedAt }

/-- The row a resolution inserts when there was no request. -/
def ApprovalRow.resolved (event : EventEnvelope) (approvalId : ApprovalId)
    (sessionThreadId : SessionThreadId) : ApprovalRow where
  approvalId := approvalId
  sessionThreadId := sessionThreadId
  runtimeSessionId := event.runtimeSessionId
  turnId := event.turnId
  state := .resolved
  requestPayload := none
  responsePayload := some event.payload
  requestCommandId := none
  resolveCommandId := event.commandId
  requestedEventId := none
  resolvedEventId := some event.eventId
  createdAt := event.happenedAt
  updatedAt := event.happenedAt
  resolvedAt := some event.happenedAt

/-- What a resolution does to the row of its approval. -/
def ApprovalRow.resolve (event : EventEnvelope) (sessionThreadId : SessionThreadId)
    (r : ApprovalRow) : ApprovalRow :=
  { r with
    sessionThreadId
    runtimeSessionId := event.runtimeSessionId
    turnId := event.turnId.or r.turnId
    state := .resolved
    responsePayload := some event.payload
    resolveCommandId := event.commandId
    resolvedEventId := some event.eventId
    resolvedAt := some event.happenedAt
    updatedAt := event.happenedAt }

/-- `insert into approvals … on conflict(approval_id) do update`. The session is a foreign key, and
    a turn has one approval. -/
def upsertApproval (sessionThreads : Table SessionRow) (approvals : Table ApprovalRow)
    (row : ApprovalRow) (onConflict : ApprovalRow → ApprovalRow) :
    Except AppError (Table ApprovalRow) :=
  if !sessionExists sessionThreads row.sessionThreadId then
    .error (.database "approvals.session_thread_id")
  else
    dbResult "approvals_turn_idx" <|
      match approvals.find? (·.approvalId == row.approvalId) with
      | some _ => approvals.update? (·.approvalId == row.approvalId) onConflict
      | none => approvals.insert? row

def updateApprovalFromEvent (sessionThreads : Table SessionRow) (approvals : Table ApprovalRow)
    (event : EventEnvelope) : Except AppError (Table ApprovalRow) :=
  match event.kind, eventApprovalId event, event.sessionThreadId with
  | .approvalRequested, some approvalId, some sessionThreadId =>
    upsertApproval sessionThreads approvals (.requested event approvalId sessionThreadId)
      (.request event sessionThreadId)
  | .approvalResolved, some approvalId, some sessionThreadId =>
    upsertApproval sessionThreads approvals (.resolved event approvalId sessionThreadId)
      (.resolve event sessionThreadId)
  | _, _, _ => .ok approvals

/-! ## 5. Task runs -/

/-- The states a task run works in. -/
def isTaskProgress : TaskRunState → Bool
  | .preparingWorkspace | .startingRuntime | .running | .checking | .collectingEvidence => true
  | _ => false

/-- A terminal run stays, and a run that is being cancelled only ends. -/
def TaskRunRow.accepts (s : TaskRunState) (r : TaskRunRow) : Bool :=
  !r.state.isTerminal && (r.state != .cancelling || s.isTerminal)

def TaskRunRow.setState (s : TaskRunState) (cleanup : TaskCleanupState) (at' : DateTime)
    (r : TaskRunRow) : TaskRunRow :=
  { r with
    state := s
    cleanupState := cleanup
    startedAt := if isTaskProgress s then r.startedAt.or (some at') else r.startedAt
    updatedAt := at' }

def projectTaskEvent (taskRuns : Table TaskRunRow) (event : EventEnvelope) :
    Except AppError (Table TaskRunRow) :=
  if event.kind ≠ .taskRunStateChanged then .ok taskRuns
  else
    match event.payload with
    | .taskRunStateChanged taskRunId s cleanup _ =>
      .ok (taskRuns.update (fun r => r.taskRunId == taskRunId && r.accepts s)
        (.setState s cleanup event.happenedAt) ⟨fun _ _ => Iff.rfl⟩)
    | _ =>
      .error (.badRequest "task_run.event_missing_id"
        "Task Run state event is missing task_run_id")

/-! ## 6. Sessions and placements -/

def SessionRow.setState (s : SessionThreadState) (at' : DateTime) (r : SessionRow) : SessionRow :=
  { r with state := s, updatedAt := at' }

/-- A detached session stays detached when its runtime becomes active. -/
def SessionRow.accepts (s : SessionThreadState) (r : SessionRow) : Bool :=
  s != .active || r.state != .detached

def updateSessionStateFromEvent (sessionThreads : Table SessionRow) (event : EventEnvelope)
    (s : SessionThreadState) : Table SessionRow :=
  match event.sessionThreadId with
  | none => sessionThreads
  | some sessionThreadId =>
    sessionThreads.update (fun r => r.sessionThreadId == sessionThreadId && r.accepts s)
      (.setState s event.happenedAt) ⟨fun _ _ => Iff.rfl⟩

def PlacementRow.setSnapshot (event : EventEnvelope) (r : PlacementRow) : PlacementRow :=
  let snapshot := workspaceSnapshot event.payload
  { r with
    displayName := (snapshot.map (·.displayName)).getD r.displayName
    workspacePath := (snapshot.map (·.workspacePath)).getD r.workspacePath
    state := (snapshot.map (·.state)).getD .validated
    resourceBadges := (snapshot.map (·.resourceBadges)).getD (.array .nil)
    gitSnapshot := snapshot.bind (·.gitSnapshot)
    lastValidatedAt := some event.happenedAt
    updatedAt := event.happenedAt }

def updatePlacementFromWorkspaceEvent (projectPlacements : Table PlacementRow)
    (event : EventEnvelope) : Except AppError (Table PlacementRow) :=
  match workspacePlacementId event with
  | none =>
    .error (.badRequest "placement.missing_ref"
      "Workspace validation event is missing placement ref")
  | some projectPlacementId =>
    dbResult "project_placements_identity_idx" <|
      projectPlacements.update? (·.projectPlacementId == projectPlacementId) (.setSnapshot event)

/-! ## 7. The projection of an event -/

/-- The placement statement of a workspace snapshot; no other kind has one. -/
def projectPlacement (projectPlacements : Table PlacementRow) (event : EventEnvelope) :
    Except AppError (Table PlacementRow) :=
  if isWorkspaceSnapshotKind event.kind then
    updatePlacementFromWorkspaceEvent projectPlacements event
  else .ok projectPlacements

/-- The session statement of the kinds that move a runtime. -/
def projectSession (sessionThreads : Table SessionRow) (event : EventEnvelope) :
    Table SessionRow :=
  match projectedStates event.kind with
  | some (_, s) => updateSessionStateFromEvent sessionThreads event s
  | none => sessionThreads

/-- `apply_event_projection`: each statement on its own table, in one transaction. -/
def applyEventProjection (db : Database) (event : EventEnvelope) : Except AppError Database := do
  let turns := updateTurnFromEvent db.turns event
  let approvals ← updateApprovalFromEvent db.sessionThreads db.approvals event
  let taskRuns ← projectTaskEvent db.taskRuns event
  let runtimeSessions := projectRuntime db.runtimeSessions event
  let sessionThreads := projectSession db.sessionThreads event
  let projectPlacements ← projectPlacement db.projectPlacements event
  return { db with turns, approvals, taskRuns, runtimeSessions, sessionThreads, projectPlacements }

/-- **What an accepted projection did**, table by table. -/
theorem applyEventProjection_ok {db db' : Database} {event : EventEnvelope}
    (h : applyEventProjection db event = .ok db') :
    ∃ approvals taskRuns projectPlacements,
      updateApprovalFromEvent db.sessionThreads db.approvals event = .ok approvals ∧
      projectTaskEvent db.taskRuns event = .ok taskRuns ∧
      projectPlacement db.projectPlacements event = .ok projectPlacements ∧
      db' = { db with
        turns := updateTurnFromEvent db.turns event
        approvals
        taskRuns
        runtimeSessions := projectRuntime db.runtimeSessions event
        sessionThreads := projectSession db.sessionThreads event
        projectPlacements } := by
  unfold applyEventProjection at h
  obtain ⟨approvals, ha, h⟩ := bind_eq_ok.mp h
  obtain ⟨taskRuns, ht, h⟩ := bind_eq_ok.mp h
  obtain ⟨projectPlacements, hp, h⟩ := bind_eq_ok.mp h
  cases h
  exact ⟨approvals, taskRuns, projectPlacements, ha, ht, hp, rfl⟩

/-! ## 8. Row by row -/

/-- The row of a table after the statements on the event's runtime. -/
def RuntimeRow.projectOwn (event : EventEnvelope) (r : RuntimeRow) : RuntimeRow :=
  if event.runtimeSessionId = some r.runtimeSessionId then r.project event else r

def SessionRow.project (event : EventEnvelope) (r : SessionRow) : SessionRow :=
  match projectedStates event.kind with
  | some (_, s) =>
    if event.sessionThreadId = some r.sessionThreadId ∧ r.accepts s = true then
      r.setState s event.happenedAt
    else r
  | none => r

def TurnRow.project (event : EventEnvelope) (r : TurnRow) : TurnRow :=
  match turnStateForEvent event with
  | some s => if event.turnId = some r.turnId then r.setFromEvent event s else r
  | none => r

def PlacementRow.project (event : EventEnvelope) (r : PlacementRow) : PlacementRow :=
  if isWorkspaceSnapshotKind event.kind = true ∧
      workspacePlacementId event = some r.projectPlacementId then r.setSnapshot event
  else r

def TaskRunRow.project (event : EventEnvelope) (r : TaskRunRow) : TaskRunRow :=
  match event.payload with
  | .taskRunStateChanged taskRunId s cleanup _ =>
    if event.kind = .taskRunStateChanged ∧ taskRunId = r.taskRunId ∧ r.accepts s = true then
      r.setState s cleanup event.happenedAt
    else r
  | _ => r

theorem projectRuntime_rows (t : Table RuntimeRow) (event : EventEnvelope) :
    (projectRuntime t event).rows = t.rows.map (.projectOwn event) := by
  unfold projectRuntime
  split
  · rename_i hnone
    exact (List.map_id' t.rows).symm.trans
      (List.map_congr_left fun r _ => by rw [RuntimeRow.projectOwn, hnone, if_neg (by simp)])
  · rename_i id hid
    rw [Table.rows_update]
    refine List.map_congr_left fun r _ => ?_
    rw [RuntimeRow.projectOwn, hid]
    by_cases hr : r.runtimeSessionId = id
    · simp [hr]
    · simp [hr, Ne.symm hr]

theorem projectSession_rows (t : Table SessionRow) (event : EventEnvelope) :
    (projectSession t event).rows = t.rows.map (.project event) := by
  unfold projectSession
  split
  · rename_i rs s hstates
    unfold updateSessionStateFromEvent
    split
    · rename_i hnone
      refine (List.map_id' t.rows).symm.trans (List.map_congr_left fun r _ => ?_)
      rw [SessionRow.project, hstates, hnone]
      simp
    · rename_i id hid
      rw [Table.rows_update]
      refine List.map_congr_left fun r _ => ?_
      rw [SessionRow.project, hstates, hid]
      by_cases hr : r.sessionThreadId = id
      · simp [hr]
      · simp [hr, Ne.symm hr]
  · rename_i hnone
    refine (List.map_id' t.rows).symm.trans (List.map_congr_left fun r _ => ?_)
    rw [SessionRow.project, hnone]

theorem updateTurnFromEvent_rows (t : Table TurnRow) (event : EventEnvelope) :
    (updateTurnFromEvent t event).rows = t.rows.map (.project event) := by
  unfold updateTurnFromEvent
  split
  · rename_i id s hid hs
    rw [Table.rows_update]
    refine List.map_congr_left fun r _ => ?_
    rw [TurnRow.project, hs, hid]
    by_cases hr : r.turnId = id
    · simp [hr]
    · simp [hr, Ne.symm hr]
  · rename_i hnone
    refine (List.map_id' t.rows).symm.trans (List.map_congr_left fun r _ => ?_)
    unfold TurnRow.project
    split
    · rename_i s hs
      rw [if_neg fun hid => hnone r.turnId s hid hs]
    · rfl

theorem projectPlacement_rows {t t' : Table PlacementRow} {event : EventEnvelope}
    (h : projectPlacement t event = .ok t') : t'.rows = t.rows.map (.project event) := by
  unfold projectPlacement at h
  split at h
  · rename_i hkind
    unfold updatePlacementFromWorkspaceEvent at h
    split at h
    · cases h
    · rename_i id hid
      rw [Table.update?_eq_some (dbResult_eq_ok.mp h)]
      refine List.map_congr_left fun r _ => ?_
      rw [PlacementRow.project, hid]
      by_cases hr : r.projectPlacementId = id
      · simp [hr, hkind]
      · simp [hr, Ne.symm hr]
  · rename_i hkind
    cases h
    refine (List.map_id' t.rows).symm.trans (List.map_congr_left fun r _ => ?_)
    rw [PlacementRow.project, if_neg fun hr => hkind hr.1]

theorem projectTaskEvent_rows {t t' : Table TaskRunRow} {event : EventEnvelope}
    (h : projectTaskEvent t event = .ok t') : t'.rows = t.rows.map (.project event) := by
  unfold projectTaskEvent at h
  split at h
  · rename_i hkind
    cases h
    refine (List.map_id' t.rows).symm.trans (List.map_congr_left fun r _ => ?_)
    unfold TaskRunRow.project
    split
    · rw [if_neg fun hr => hkind hr.1]
    · rfl
  · rename_i hkind
    split at h
    · rename_i id s cleanup message hpayload
      cases h
      rw [Table.rows_update]
      refine List.map_congr_left fun r _ => ?_
      rw [TaskRunRow.project, hpayload]
      have hkind' : event.kind = .taskRunStateChanged := by simpa using hkind
      by_cases hr : r.taskRunId = id
      · simp [hr, hkind']
      · simp [hr, Ne.symm hr]
    · cases h

/-- What an approval event writes to the stored row of its approval. -/
def ApprovalRow.write (event : EventEnvelope) (sessionThreadId : SessionThreadId)
    (r : ApprovalRow) : ApprovalRow :=
  match event.kind with
  | .approvalRequested => r.request event sessionThreadId
  | .approvalResolved => r.resolve event sessionThreadId
  | _ => r

def isApprovalKind : EventKind → Bool
  | .approvalRequested | .approvalResolved => true
  | _ => false

theorem ApprovalRow.write_of_not_kind {event : EventEnvelope} {s : SessionThreadId}
    {r : ApprovalRow} (h : isApprovalKind event.kind = false) : r.write event s = r := by
  unfold ApprovalRow.write
  split
  · rename_i hk
    simp [hk, isApprovalKind] at h
  · rename_i hk
    simp [hk, isApprovalKind] at h
  · rfl

theorem ApprovalRow.write_id (event : EventEnvelope) (s : SessionThreadId) (r : ApprovalRow) :
    (r.write event s).approvalId = r.approvalId := by
  unfold ApprovalRow.write
  split <;> rfl

theorem ApprovalRow.write_session {event : EventEnvelope} {s : SessionThreadId} {r : ApprovalRow}
    (h : isApprovalKind event.kind = true) : (r.write event s).sessionThreadId = s := by
  unfold ApprovalRow.write
  split
  · rfl
  · rfl
  · rename_i hreq hres
    unfold isApprovalKind at h
    split at h
    · rename_i hk
      exact absurd hk hreq
    · rename_i hk
      exact absurd hk hres
    · cases h

theorem upsertApproval_ok {sessionThreads : Table SessionRow} {t t' : Table ApprovalRow}
    {row : ApprovalRow} {f : ApprovalRow → ApprovalRow}
    (h : upsertApproval sessionThreads t row f = .ok t') :
    ((∃ stored, t.find? (·.approvalId == row.approvalId) = some stored) ∧
        t'.rows = t.rows.map fun r => if r.approvalId = row.approvalId then f r else r) ∨
      (t.find? (·.approvalId == row.approvalId) = none ∧ t'.rows = t.rows ++ [row]) := by
  unfold upsertApproval at h
  split at h
  · cases h
  · have hdb := dbResult_eq_ok.mp h
    split at hdb
    · rename_i stored hstored
      refine Or.inl ⟨⟨stored, hstored⟩, ?_⟩
      rw [Table.update?_eq_some hdb]
      simp only [beq_iff_eq]
    · rename_i hnone
      exact Or.inr ⟨hnone, (Table.insert?_eq_some.mp hdb).2⟩

/-- **What an approval event did**: nothing, or the write of its stored row, or a new row of its
    session. -/
theorem updateApprovalFromEvent_ok {sessionThreads : Table SessionRow} {t t' : Table ApprovalRow}
    {event : EventEnvelope} (h : updateApprovalFromEvent sessionThreads t event = .ok t') :
    (t' = t ∧ ∀ id s, isApprovalKind event.kind = true → eventApprovalId event = some id →
        event.sessionThreadId ≠ some s) ∨
      ∃ id s, isApprovalKind event.kind = true ∧ eventApprovalId event = some id ∧
        event.sessionThreadId = some s ∧
        (((∃ stored, t.find? (·.approvalId == id) = some stored) ∧
            t'.rows = t.rows.map fun r => if r.approvalId = id then r.write event s else r) ∨
          (t.find? (·.approvalId == id) = none ∧
            ∃ row : ApprovalRow, row.sessionThreadId = s ∧ t'.rows = t.rows ++ [row])) := by
  unfold updateApprovalFromEvent at h
  split at h
  · rename_i id s hkind hid hs
    have hwrite : ∀ r : ApprovalRow, r.write event s = r.request event s := fun r => by
      rw [ApprovalRow.write, hkind]
    refine Or.inr ⟨id, s, by rw [hkind]; rfl, hid, hs, ?_⟩
    simp only [hwrite]
    exact (upsertApproval_ok h).imp_right fun ⟨hnone, hrows⟩ => ⟨hnone, _, rfl, hrows⟩
  · rename_i id s hkind hid hs
    have hwrite : ∀ r : ApprovalRow, r.write event s = r.resolve event s := fun r => by
      rw [ApprovalRow.write, hkind]
    refine Or.inr ⟨id, s, by rw [hkind]; rfl, hid, hs, ?_⟩
    simp only [hwrite]
    exact (upsertApproval_ok h).imp_right fun ⟨hnone, hrows⟩ => ⟨hnone, _, rfl, hrows⟩
  · rename_i hreq hres
    cases h
    refine Or.inl ⟨rfl, fun id s hkind hid hs => ?_⟩
    cases hk : event.kind <;> simp [hk, isApprovalKind] at hkind
    · exact hreq id s hk hid hs
    · exact hres id s hk hid hs

end Uprava.Core
