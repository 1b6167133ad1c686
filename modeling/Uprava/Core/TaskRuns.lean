/-
  File:      Uprava/Core/TaskRuns.lean
  Subject:   Task runs: their table, the three statements that write a row (an event, the result of
             the run's command, a cancellation), and whether a run that is over stays as it is.

  The state of a run is stored as a text. An event and a cancellation write rows that are not over
  yet; the result of the run's command writes its row whatever it is, and it is the only one that
  stores the result, the reason and the time the run finished.

  * `TaskRuns.CancellingEnds`: a run that is being cancelled only ends, in every run of Core.
  * `taskRuns_settled_iff`: ended runs stay as they are, and are complete, exactly when no event
    ends a run and each result finds its run open or as it writes it.
-/
import Uprava.Core.CommandLifecycle

namespace Uprava.Core

open Uprava.Protocol
open Uprava.Lib (Schema Table run Meets Always Throughout always_throughout_iff_meets
  throughout_of_inv)
open Uprava.Lib.Table

/-! ## 1. States as texts -/

/-- `format_task_state`. -/
def formatTaskState : TaskRunState → String
  | .queued => "queued"
  | .preparingWorkspace => "preparing_workspace"
  | .startingRuntime => "starting_runtime"
  | .running => "running"
  | .checking => "checking"
  | .collectingEvidence => "collecting_evidence"
  | .succeeded => "succeeded"
  | .failed => "failed"
  | .cancelling => "cancelling"
  | .cancelled => "cancelled"
  | .timedOut => "timed_out"

def formatTaskCleanupState : TaskCleanupState → String
  | .pending => "pending"
  | .completed => "completed"
  | .failed => "failed"

def taskRunStates : List TaskRunState :=
  [.queued, .preparingWorkspace, .startingRuntime, .running, .checking, .collectingEvidence,
    .succeeded, .failed, .cancelling, .cancelled, .timedOut]

/-- `parse_task_state`. -/
def parseTaskState (value : String) : Option TaskRunState :=
  taskRunStates.find? (formatTaskState · == value)

/-- `parse_task_cleanup_state`. -/
def parseTaskCleanupState (value : String) : Option TaskCleanupState :=
  [TaskCleanupState.pending, .completed, .failed].find? (formatTaskCleanupState · == value)

@[simp] theorem parse_formatTaskState (s : TaskRunState) :
    parseTaskState (formatTaskState s) = some s := by
  cases s <;> decide

@[simp] theorem parse_formatTaskCleanupState (s : TaskCleanupState) :
    parseTaskCleanupState (formatTaskCleanupState s) = some s := by
  cases s <;> decide

/-- `state in ('succeeded', 'failed', 'cancelled', 'timed_out')`. -/
def isTerminalTaskText (value : String) : Bool :=
  ["succeeded", "failed", "cancelled", "timed_out"].contains value

@[simp] theorem isTerminalTaskText_format (s : TaskRunState) :
    isTerminalTaskText (formatTaskState s) = s.isTerminal := by
  cases s <;> decide

/-! ## 2. The table -/

/-- What a Node reports of a run at its end. The diff, the checks and the artifacts are one value. -/
structure TaskRunResultPackage where
  taskRunId : TaskRunId
  state : TaskRunState
  cleanupState : TaskCleanupState
  summary : String
  baseRevision : String
  finalRevision : Option String
  branch : String
  worktreePath : String
  runtimeImage : String
  evidence : JsonValue
  terminalReason : Option (String × String)
  deriving DecidableEq

structure TaskRunRecord where
  taskRunId : TaskRunId
  projectPlacementId : ProjectPlacementId
  nodeId : NodeId
  state : String
  cleanupState : String
  commandId : CommandId
  cancelCommandId : Option CommandId
  worktreePath : Option String
  result : Option TaskRunResultPackage
  summary : Option String
  terminalCode : Option String
  terminalMessage : Option String
  queuedAt : DateTime
  startedAt : Option DateTime
  finishedAt : Option DateTime
  updatedAt : DateTime
  deriving DecidableEq

instance : Schema TaskRunRecord where
  clash a b := a.taskRunId = b.taskRunId
  dec _ _ := inferInstanceAs (Decidable (_ = _))
  symm := Eq.symm

/-- What the two routes show of a row. -/
structure TaskRunSummary where
  taskRunId : TaskRunId
  state : TaskRunState
  cleanupState : TaskCleanupState
  startedAt : Option DateTime
  finishedAt : Option DateTime
  summary : Option String
  terminalReason : Option (String × String)
  deriving DecidableEq

def taskSummaryFromRow (r : TaskRunRecord) : Except AppError TaskRunSummary :=
  match parseTaskState r.state, parseTaskCleanupState r.cleanupState with
  | some state, some cleanupState =>
    .ok { taskRunId := r.taskRunId
          state
          cleanupState
          startedAt := r.startedAt
          finishedAt := r.finishedAt
          summary := r.summary
          terminalReason :=
            r.terminalCode.bind fun code => r.terminalMessage.map fun m => (code, m) }
  | _, _ => .error (.database "task_runs.state")

/-- `list_task_runs_route`. -/
def listTaskRuns (runs : Table TaskRunRecord) : Except AppError (List TaskRunSummary) :=
  runs.rows.mapM taskSummaryFromRow

def loadTaskRun (runs : Table TaskRunRecord) (taskRunId : TaskRunId) :
    Except AppError (TaskRunSummary × Option TaskRunResultPackage) :=
  match runs.find? (·.taskRunId == taskRunId) with
  | none => .error (.notFound "task_run.not_found" "Task Run not found")
  | some r => (taskSummaryFromRow r).map fun summary => (summary, r.result)

/-! ## 3. Statements -/

/-- What `create_task_run_route` has built when it starts to write. -/
structure TaskRequest where
  spec : TaskRunSpec
  workspacePath : String
  nodeId : NodeId
  commandId : CommandId
  issuedAt : DateTime
  correlationId : CorrelationId
  deriving DecidableEq

def TaskRequest.command (request : TaskRequest) : CommandEnvelope where
  commandId := request.commandId
  kind := .runTask
  target := .taskRun request.nodeId request.spec.projectPlacementId request.spec.taskRunId
  actorRef := .localUser none
  issuedAt := request.issuedAt
  correlationId := request.correlationId
  payload := .runTask request.workspacePath request.spec

def TaskRunRecord.queued (request : TaskRequest) : TaskRunRecord where
  taskRunId := request.spec.taskRunId
  projectPlacementId := request.spec.projectPlacementId
  nodeId := request.nodeId
  state := "queued"
  cleanupState := "pending"
  commandId := request.commandId
  cancelCommandId := none
  worktreePath := none
  result := none
  summary := none
  terminalCode := none
  terminalMessage := none
  queuedAt := request.issuedAt
  startedAt := none
  finishedAt := none
  updatedAt := request.issuedAt

/-- The transaction of `create_task_run_route`. -/
def createTaskRun (db : Database) (runs : Table TaskRunRecord) (request : TaskRequest) :
    Except AppError (Database × Table TaskRunRecord) := do
  let db ← recordCommand db request.command
  let runs ← dbResult "task_runs.task_run_id" (runs.insert? (.queued request))
  return (db, runs)

def notCancellable (message : String) : AppError :=
  .badRequest "task_run.not_cancellable" message

/-- The checks `cancel_task_run_route` makes before it writes. -/
def checkCancellable (runs : Table TaskRunRecord) (taskRunId : TaskRunId) :
    Except AppError Unit := do
  let (summary, _) ← loadTaskRun runs taskRunId
  if summary.state.isTerminal || summary.state == .cancelling then
    .error (notCancellable "Only an active Task Run can be cancelled")
  else .ok ()

/-- `state not in ('succeeded', 'failed', 'cancelled', 'timed_out', 'cancelling')`. -/
def TaskRunRecord.isActiveOf (taskRunId : TaskRunId) (r : TaskRunRecord) : Bool :=
  r.taskRunId == taskRunId && !isTerminalTaskText r.state && r.state != "cancelling"

def TaskRunRecord.setCancelling (command : CommandEnvelope) (r : TaskRunRecord) : TaskRunRecord :=
  { r with
    state := "cancelling"
    cancelCommandId := some command.commandId
    updatedAt := command.issuedAt }

/-- The transaction of `cancel_task_run_route`. -/
def recordTaskCancellation (db : Database) (runs : Table TaskRunRecord) (taskRunId : TaskRunId)
    (command : CommandEnvelope) : Except AppError (Database × Table TaskRunRecord) := do
  let db ← recordCommand db command
  if (runs.select (TaskRunRecord.isActiveOf taskRunId)).isEmpty then
    .error (notCancellable "Task Run became terminal before cancellation was recorded")
  else return (db, runs.update (TaskRunRecord.isActiveOf taskRunId) (.setCancelling command)
    ⟨fun _ _ => Iff.rfl⟩)

/-- The `where` of an event's update: a run that is over stays, and one that is being cancelled
    only ends. -/
def TaskRunRecord.acceptsEvent (taskRunId : TaskRunId) (state : String) (r : TaskRunRecord) :
    Bool :=
  r.taskRunId == taskRunId && !isTerminalTaskText r.state &&
    (r.state != "cancelling" || isTerminalTaskText state)

/-- `?1 in ('preparing_workspace', …, 'collecting_evidence')`. -/
def isTaskProgressText (value : String) : Bool :=
  ["preparing_workspace", "starting_runtime", "running", "checking",
    "collecting_evidence"].contains value

def TaskRunRecord.setEventState (state cleanupState : String) (happenedAt : DateTime)
    (r : TaskRunRecord) : TaskRunRecord :=
  { r with
    state
    cleanupState
    startedAt := if isTaskProgressText state then r.startedAt.or (some happenedAt) else r.startedAt
    updatedAt := happenedAt }

/-- `project_task_event_on_connection`. The texts it writes are those the payload is serialized
    with. -/
def projectTaskRunEvent (runs : Table TaskRunRecord) (event : EventEnvelope) :
    Except AppError (Table TaskRunRecord) :=
  if event.kind ≠ .taskRunStateChanged then .ok runs
  else
    match event.payload with
    | .taskRunStateChanged taskRunId state cleanupState _ =>
      .ok (runs.update (TaskRunRecord.acceptsEvent taskRunId (formatTaskState state))
        (.setEventState (formatTaskState state) (formatTaskCleanupState cleanupState)
          event.happenedAt) ⟨fun _ _ => Iff.rfl⟩)
    | _ =>
      .error (.badRequest "task_run.event_missing_id"
        "Task Run state event is missing task_run_id")

def isHexDigit (c : Char) : Bool :=
  c.isDigit || ('a' ≤ c && c ≤ 'f') || ('A' ≤ c && c ≤ 'F')

/-- `validate_immutable_revision`. -/
def isImmutableRevision (revision : String) : Bool :=
  decide (40 ≤ revision.utf8ByteSize) && decide (revision.utf8ByteSize ≤ 64) &&
    revision.toList.all isHexDigit

/-- Does a result keep to what was dispatched? -/
def keepsContract (spec : TaskRunSpec) (status : CommandState) (result : TaskRunResultPackage) :
    Bool :=
  status == .completed && result.state.isTerminal && result.taskRunId == spec.taskRunId &&
    result.baseRevision == spec.baseRevision && result.branch == spec.branch &&
    result.runtimeImage == spec.runtimeImage && result.finalRevision.all isImmutableRevision

def TaskRunRecord.setResult (result : TaskRunResultPackage) (now : DateTime) (r : TaskRunRecord) :
    TaskRunRecord :=
  { r with
    state := formatTaskState result.state
    cleanupState := formatTaskCleanupState result.cleanupState
    worktreePath := some result.worktreePath
    result := some result
    summary := some result.summary
    terminalCode := result.terminalReason.map (·.1)
    terminalMessage := result.terminalReason.map (·.2)
    startedAt := r.startedAt.or (some now)
    finishedAt := some now
    updatedAt := now }

def TaskRunRecord.setFailure (code message : String) (now : DateTime) (r : TaskRunRecord) :
    TaskRunRecord :=
  { r with
    state := "failed"
    terminalCode := some code
    terminalMessage := some message
    finishedAt := some now
    updatedAt := now }

def payloadText (payload : JsonValue) (key default : String) : String :=
  ((payload.get key).bind (·.asStr)).getD default

/-- The update a result makes of the run's row, if it makes one. -/
def taskResultWrite (decode : JsonValue → Option TaskRunResultPackage) (spec : TaskRunSpec)
    (status : CommandState) (payload : JsonValue) (now : DateTime) :
    Except AppError (Option (TaskRunRecord → TaskRunRecord)) :=
  match decode payload with
  | some result =>
    if !keepsContract spec status result then
      .error (.badRequest "task_run.result_contract_mismatch"
        "Task result must be terminal and match the immutable dispatched Task Run spec")
    else .ok (some (.setResult result now))
  | none =>
    if status = .failed then
      .ok (some (.setFailure (payloadText payload "error_code" "task_run.execution_failed")
        (payloadText payload "message" "Task Run command failed before evidence was produced")
        now))
    else .ok none

/-- The spec of a command that runs a task. -/
def dispatchedSpec (db : Database) (commandId : CommandId) : Option TaskRunSpec :=
  (db.findCommand? commandId).bind fun row =>
    match row.command.payload with
    | .runTask _ spec => some spec
    | _ => none

theorem taskResultWrite_keeps {decode : JsonValue → Option TaskRunResultPackage}
    {spec : TaskRunSpec} {status : CommandState} {payload : JsonValue} {now : DateTime}
    {write : TaskRunRecord → TaskRunRecord}
    (h : taskResultWrite decode spec status payload now = .ok (some write)) (r : TaskRunRecord) :
    (write r).taskRunId = r.taskRunId := by
  unfold taskResultWrite at h
  split at h
  · split at h
    · cases h
    · cases h
      rfl
  · split at h
    · cases h
      rfl
    · cases h

/-- `project_task_command_result`. -/
def projectTaskCommandResult (decode : JsonValue → Option TaskRunResultPackage) (db : Database)
    (runs : Table TaskRunRecord) (commandId : CommandId) (status : CommandState)
    (payload : JsonValue) (now : DateTime) : Except AppError (Table TaskRunRecord) :=
  match dispatchedSpec db commandId with
  | none => .ok runs
  | some spec =>
    match h : taskResultWrite decode spec status payload now with
    | .error e => .error e
    | .ok none => .ok runs
    | .ok (some write) =>
      .ok (runs.update (·.taskRunId == spec.taskRunId) write
        ⟨fun a b => (by
          show (write a).taskRunId = b.taskRunId ↔ a.taskRunId = b.taskRunId
          rw [taskResultWrite_keeps h a])⟩)

/-- What a command's result is decoded as, with a task's read off the result package. -/
def ResultCodec.withTasks (codec : ResultCodec)
    (decode : JsonValue → Option TaskRunResultPackage) : ResultCodec :=
  { codec with taskRunId := fun payload => (decode payload).map (·.taskRunId) }

/-! ## 4. Calls and events in any order -/

/-- What is left of a call: its next statement or transaction, and what the ones after it need. -/
inductive TaskCall where
  /-- `create_task_run_route` -/
  | create (request : TaskRequest)
  /-- `cancel_task_run_route` -/
  | checkCancel (taskRunId : TaskRunId) (command : CommandEnvelope)
  | cancel (taskRunId : TaskRunId) (command : CommandEnvelope)
  /-- `CommandResult` -/
  | validateResult (nodeId : NodeId) (commandId : CommandId) (status : CommandState)
      (payload : JsonValue)
  | updateResult (commandId : CommandId) (status : CommandState) (payload : JsonValue)
  | projectResult (commandId : CommandId) (status : CommandState) (payload : JsonValue)
  deriving DecidableEq

/-- Core's database, its task runs, and the calls in flight. -/
structure TaskRuns where
  db : Database := {}
  runs : Table TaskRunRecord := .empty
  calls : List TaskCall := []

inductive TaskAction where
  /-- A user starts a run, or asks for its end. -/
  | create (request : TaskRequest)
  | cancelRun (taskRunId : TaskRunId) (command : CommandEnvelope)
  /-- A Node's event is accepted. -/
  | event (event : EventEnvelope)
  /-- A Node's result arrives. -/
  | result (nodeId : NodeId) (commandId : CommandId) (status : CommandState) (payload : JsonValue)
  /-- A command is on its way to the Node. -/
  | advance (commandId : CommandId) (state : CommandState) (now : DateTime)
  /-- The call at a position runs its next step, or is given up. -/
  | run (position : Nat) (now : DateTime)
  | stop (position : Nat)
  deriving DecidableEq

section Step

variable (codec : ResultCodec) (decode : JsonValue → Option TaskRunResultPackage)

/-- Runs the next statement or transaction of a call; nothing is left of one that returned. -/
def TaskCall.step (db : Database) (runs : Table TaskRunRecord) (now : DateTime) :
    TaskCall → (Database × Table TaskRunRecord) × Option TaskCall
  | create request =>
    match createTaskRun db runs request with
    | .ok written => (written, none)
    | .error _ => ((db, runs), none)
  | checkCancel taskRunId command =>
    match checkCancellable runs taskRunId with
    | .ok () => ((db, runs), some (cancel taskRunId command))
    | .error _ => ((db, runs), none)
  | cancel taskRunId command =>
    match recordTaskCancellation db runs taskRunId command with
    | .ok written => (written, none)
    | .error _ => ((db, runs), none)
  | validateResult nodeId commandId status payload =>
    let durable := durableCommandResultPayload payload
    match validateCommandResult (codec.withTasks decode) db nodeId commandId status durable with
    | .ok () => ((db, runs), some (updateResult commandId status durable))
    | .error _ => ((db, runs), none)
  | updateResult commandId status payload =>
    ((updateCommandResult db commandId status payload now, runs),
      some (projectResult commandId status payload))
  | projectResult commandId status payload =>
    match projectTaskCommandResult decode db runs commandId status payload now with
    | .ok runs => ((db, runs), none)
    | .error _ => ((db, runs), none)

def TaskRuns.step (s : TaskRuns) : TaskAction → Option TaskRuns
  | .create request => some { s with calls := .create request :: s.calls }
  | .cancelRun taskRunId command =>
    some { s with calls := .checkCancel taskRunId command :: s.calls }
  | .event event =>
    match projectTaskRunEvent s.runs event with
    | .ok runs => some { s with runs }
    | .error _ => none
  | .result nodeId commandId status payload =>
    some { s with calls := .validateResult nodeId commandId status payload :: s.calls }
  | .advance commandId state now =>
    if isTerminalCommandState state then none
    else some { s with db := updateCommandState s.db commandId state now }
  | .run position now =>
    match s.calls[position]? with
    | none => none
    | some call =>
      let ((db, runs), rest) := call.step codec decode s.db s.runs now
      some ⟨db, runs, rest.toList ++ s.calls.eraseIdx position⟩
  | .stop position => some { s with calls := s.calls.eraseIdx position }

end Step

/-! ## 5. What is claimed of the rows -/

/-- The two rows say the same of how the run ended. -/
structure TaskRunRecord.SameEnd (a b : TaskRunRecord) : Prop where
  state : a.state = b.state
  result : a.result = b.result
  terminalCode : a.terminalCode = b.terminalCode
  terminalMessage : a.terminalMessage = b.terminalMessage

/-- A run that is over stays as it is. -/
def TaskRuns.KeepsEnded (s t : TaskRuns) : Prop :=
  ∀ a ∈ s.runs.rows, isTerminalTaskText a.state = true →
    ∃ b ∈ t.runs.rows, b.taskRunId = a.taskRunId ∧ b.SameEnd a

/-- A run that is being cancelled is still, or is over. -/
def TaskRuns.CancellingEnds (s t : TaskRuns) : Prop :=
  ∀ a ∈ s.runs.rows, a.state = "cancelling" →
    ∃ b ∈ t.runs.rows, b.taskRunId = a.taskRunId ∧
      (b.state = "cancelling" ∨ isTerminalTaskText b.state = true)

/-- A run that is over has the time it finished, and the state its result says. -/
def TaskRunRecord.Complete (r : TaskRunRecord) : Prop :=
  isTerminalTaskText r.state = true →
    r.finishedAt ≠ none ∧ ∀ result ∈ r.result, r.state = formatTaskState result.state

instance (r : TaskRunRecord) : Decidable r.Complete :=
  inferInstanceAs (Decidable (_ → _))

def TaskRuns.AllComplete (s : TaskRuns) : Prop := ∀ r ∈ s.runs.rows, r.Complete

/-- The routes can show every run. -/
structure TaskRuns.Shown (s : TaskRuns) : Prop where
  list : ∃ items, listTaskRuns s.runs = .ok items
  load : ∀ r ∈ s.runs.rows, ∃ shown, loadTaskRun s.runs r.taskRunId = .ok shown

/-- The run is over the way the result of its command would end it. -/
def TaskRunRecord.RepeatsResult (decode : JsonValue → Option TaskRunResultPackage)
    (spec : TaskRunSpec) (status : CommandState) (payload : JsonValue) (r : TaskRunRecord) : Prop :=
  match decode payload with
  | some result => keepsContract spec status result = true →
      r.state = formatTaskState result.state ∧ r.result = some result ∧
      r.terminalCode = result.terminalReason.map (·.1) ∧
      r.terminalMessage = result.terminalReason.map (·.2)
  | none => status = .failed → r.state = "failed" ∧
      r.terminalCode = some (payloadText payload "error_code" "task_run.execution_failed") ∧
      r.terminalMessage = some (payloadText payload "message"
        "Task Run command failed before evidence was produced")

/-- An event that ends a run finds no open run, and a result finds its run open, or over as it would
    end it. -/
def TaskRuns.MeetsGuard (decode : JsonValue → Option TaskRunResultPackage) (s : TaskRuns) :
    TaskAction → Prop
  | .event event => ∀ taskRunId state cleanupState message,
      event.kind = .taskRunStateChanged →
      event.payload = .taskRunStateChanged taskRunId state cleanupState message →
      state.isTerminal = true →
      ∀ r ∈ s.runs.rows, r.taskRunId = taskRunId → isTerminalTaskText r.state = true
  | .run position _ => ∀ commandId status payload spec,
      s.calls[position]? = some (.projectResult commandId status payload) →
      dispatchedSpec s.db commandId = some spec →
      ∀ r ∈ s.runs.rows, r.taskRunId = spec.taskRunId → isTerminalTaskText r.state = true →
        r.RepeatsResult decode spec status payload
  | _ => True

/-! ## 6. What a step writes -/

/-- An update of the rows, by the statement it is. -/
inductive RunUpdate (decode : JsonValue → Option TaskRunResultPackage) (s : TaskRuns) :
    TaskAction → (TaskRunRecord → Bool) → (TaskRunRecord → TaskRunRecord) → Prop
  | cancel (position : Nat) (now : DateTime) (taskRunId : TaskRunId) (command : CommandEnvelope)
      (hcall : s.calls[position]? = some (.cancel taskRunId command)) :
      RunUpdate decode s (.run position now) (TaskRunRecord.isActiveOf taskRunId)
        (.setCancelling command)
  | event (event : EventEnvelope) (taskRunId : TaskRunId) (state : TaskRunState)
      (cleanupState : TaskCleanupState) (message : Option String)
      (hkind : event.kind = .taskRunStateChanged)
      (hpayload : event.payload = .taskRunStateChanged taskRunId state cleanupState message) :
      RunUpdate decode s (.event event)
        (TaskRunRecord.acceptsEvent taskRunId (formatTaskState state))
        (.setEventState (formatTaskState state) (formatTaskCleanupState cleanupState)
          event.happenedAt)
  | result (position : Nat) (now : DateTime) (commandId : CommandId) (status : CommandState)
      (payload : JsonValue) (spec : TaskRunSpec) (write : TaskRunRecord → TaskRunRecord)
      (hcall : s.calls[position]? = some (.projectResult commandId status payload))
      (hspec : dispatchedSpec s.db commandId = some spec)
      (hwrite : taskResultWrite decode spec status payload now = .ok (some write)) :
      RunUpdate decode s (.run position now) (·.taskRunId == spec.taskRunId) write

/-- What a step does to the rows: nothing, one new row, or one of the three updates. A step that is
    no update projects no result and no event on an existing run. -/
inductive RunsStep (decode : JsonValue → Option TaskRunResultPackage) (s t : TaskRuns)
    (a : TaskAction) : Prop
  | same (hruns : t.runs = s.runs) (hguard : s.MeetsGuard decode a)
  | insert (request : TaskRequest) (hruns : s.runs.insert? (.queued request) = some t.runs)
      (hguard : s.MeetsGuard decode a)
  | update (p : TaskRunRecord → Bool) (f : TaskRunRecord → TaskRunRecord)
      (hupdate : RunUpdate decode s a p f)
      (hrows : t.runs.rows = s.runs.rows.map fun r => if p r then f r else r)

section Steps

variable {codec : ResultCodec} {decode : JsonValue → Option TaskRunResultPackage} {s t : TaskRuns}

theorem createTaskRun_eq_ok {db db' : Database} {runs runs' : Table TaskRunRecord}
    {request : TaskRequest} (h : createTaskRun db runs request = .ok (db', runs')) :
    runs.insert? (.queued request) = some runs' := by
  obtain ⟨db₁, -, h⟩ := bind_eq_ok.mp h
  obtain ⟨runs₁, hinsert, h⟩ := bind_eq_ok.mp h
  cases h
  exact dbResult_eq_ok.mp hinsert

theorem recordTaskCancellation_eq_ok {db db' : Database} {runs runs' : Table TaskRunRecord}
    {taskRunId : TaskRunId} {command : CommandEnvelope}
    (h : recordTaskCancellation db runs taskRunId command = .ok (db', runs')) :
    runs'.rows = runs.rows.map fun r =>
      if r.isActiveOf taskRunId then r.setCancelling command else r := by
  obtain ⟨db₁, -, h⟩ := bind_eq_ok.mp h
  split at h
  · cases h
  · cases h
    rfl

theorem projectTaskRunEvent_eq_ok {runs runs' : Table TaskRunRecord} {event : EventEnvelope}
    (h : projectTaskRunEvent runs event = .ok runs') :
    runs' = runs ∧ event.kind ≠ .taskRunStateChanged ∨
    ∃ taskRunId state cleanupState message, event.kind = .taskRunStateChanged ∧
      event.payload = .taskRunStateChanged taskRunId state cleanupState message ∧
      runs'.rows = runs.rows.map fun r =>
        if r.acceptsEvent taskRunId (formatTaskState state) then
          r.setEventState (formatTaskState state) (formatTaskCleanupState cleanupState)
            event.happenedAt
        else r := by
  unfold projectTaskRunEvent at h
  split at h
  · rename_i hkind
    cases h
    exact Or.inl ⟨rfl, hkind⟩
  · rename_i hkind
    split at h
    · rename_i taskRunId state cleanupState message hpayload
      cases h
      exact Or.inr ⟨taskRunId, state, cleanupState, message, not_not.mp hkind, hpayload, rfl⟩
    · cases h

theorem projectTaskCommandResult_eq_ok {db : Database} {runs runs' : Table TaskRunRecord}
    {commandId : CommandId} {status : CommandState} {payload : JsonValue} {now : DateTime}
    (h : projectTaskCommandResult decode db runs commandId status payload now = .ok runs') :
    (runs' = runs ∧ ∀ spec, dispatchedSpec db commandId = some spec →
      taskResultWrite decode spec status payload now = .ok none) ∨
    ∃ spec write, dispatchedSpec db commandId = some spec ∧
      taskResultWrite decode spec status payload now = .ok (some write) ∧
      runs'.rows = runs.rows.map fun r =>
        if r.taskRunId == spec.taskRunId then write r else r := by
  unfold projectTaskCommandResult at h
  split at h
  · rename_i hnone
    cases h
    exact Or.inl ⟨rfl, fun spec hspec => (by rw [hnone] at hspec; cases hspec)⟩
  · rename_i spec hspec
    split at h
    · cases h
    · rename_i hwrite
      cases h
      refine Or.inl ⟨rfl, fun spec' hspec' => ?_⟩
      obtain rfl : spec = spec' := Option.some.inj (hspec.symm.trans hspec')
      exact hwrite
    · rename_i write hwrite
      cases h
      exact Or.inr ⟨spec, write, hspec, hwrite, rfl⟩

/-- A result that writes nothing repeats what every run is. -/
theorem repeatsResult_of_none {spec : TaskRunSpec} {status : CommandState} {payload : JsonValue}
    {now : DateTime} (r : TaskRunRecord)
    (hne : ∀ write, taskResultWrite decode spec status payload now ≠ .ok (some write)) :
    r.RepeatsResult decode spec status payload := by
  unfold TaskRunRecord.RepeatsResult
  unfold taskResultWrite at hne
  split
  · rename_i result hdecode
    intro hkeeps
    rw [hdecode] at hne
    simp only [hkeeps, Bool.not_true, Bool.false_eq_true, if_false] at hne
    exact absurd rfl (hne _)
  · rename_i hdecode
    intro hfailed
    rw [hdecode] at hne
    simp only [hfailed, if_true] at hne
    exact absurd rfl (hne _)

/-- The guard of a call that projects no result. -/
theorem meetsGuard_run {position : Nat} {now : DateTime} {call : TaskCall}
    (hcall : s.calls[position]? = some call)
    (hother : ∀ commandId status payload, call ≠ .projectResult commandId status payload) :
    s.MeetsGuard decode (.run position now) := by
  intro commandId status payload spec hcall'
  exact absurd (Option.some.inj (hcall.symm.trans hcall')) (hother commandId status payload)

/-- **What a step does to the rows.** -/
theorem runsStep_of_step {a : TaskAction} (h : s.step codec decode a = some t) :
    RunsStep decode s t a := by
  cases a with
  | create request => cases h; exact .same rfl trivial
  | cancelRun taskRunId command => cases h; exact .same rfl trivial
  | result nodeId commandId status payload => cases h; exact .same rfl trivial
  | stop position => cases h; exact .same rfl trivial
  | advance commandId state now =>
    simp only [TaskRuns.step] at h
    split at h
    · cases h
    · cases h
      exact .same rfl trivial
  | event event =>
    simp only [TaskRuns.step] at h
    split at h
    · rename_i runs hruns
      cases h
      rcases projectTaskRunEvent_eq_ok hruns with ⟨rfl, hkind⟩ | hupdate
      · exact .same rfl fun _ _ _ _ hkind' => absurd hkind' hkind
      · obtain ⟨taskRunId, state, cleanupState, message, hkind, hpayload, hrows⟩ := hupdate
        exact .update _ _ (.event event taskRunId state cleanupState message hkind hpayload) hrows
    · cases h
  | run position now =>
    simp only [TaskRuns.step] at h
    split at h
    · cases h
    · rename_i call hcall
      cases h
      cases call with
      | create request =>
        have hguard : s.MeetsGuard decode (.run position now) :=
          meetsGuard_run hcall fun _ _ _ => (by simp)
        simp only [TaskCall.step]
        split
        · rename_i written hwritten
          exact .insert request (createTaskRun_eq_ok hwritten) hguard
        · exact .same rfl hguard
      | checkCancel taskRunId command =>
        have hguard : s.MeetsGuard decode (.run position now) :=
          meetsGuard_run hcall fun _ _ _ => (by simp)
        simp only [TaskCall.step]
        split
        · exact .same rfl hguard
        · exact .same rfl hguard
      | cancel taskRunId command =>
        have hguard : s.MeetsGuard decode (.run position now) :=
          meetsGuard_run hcall fun _ _ _ => (by simp)
        simp only [TaskCall.step]
        split
        · rename_i written hwritten
          exact .update _ _ (.cancel position now taskRunId command hcall)
            (recordTaskCancellation_eq_ok hwritten)
        · exact .same rfl hguard
      | validateResult nodeId commandId status payload =>
        have hguard : s.MeetsGuard decode (.run position now) :=
          meetsGuard_run hcall fun _ _ _ => (by simp)
        simp only [TaskCall.step]
        split
        · exact .same rfl hguard
        · exact .same rfl hguard
      | updateResult commandId status payload =>
        exact .same rfl (meetsGuard_run hcall fun _ _ _ => (by simp))
      | projectResult commandId status payload =>
        have hnone : (∀ spec, dispatchedSpec s.db commandId = some spec →
            ∀ write, taskResultWrite decode spec status payload now ≠ .ok (some write)) →
            s.MeetsGuard decode (.run position now) := by
          intro hne commandId' status' payload' spec hcall' hspec r _ _ _
          obtain ⟨rfl, rfl, rfl⟩ :=
            TaskCall.projectResult.inj (Option.some.inj (hcall.symm.trans hcall'))
          exact repeatsResult_of_none r (hne spec hspec)
        simp only [TaskCall.step]
        split
        · rename_i runs hruns
          rcases projectTaskCommandResult_eq_ok hruns with ⟨rfl, hwrites⟩ | hwrites
          · refine .same rfl (hnone fun spec hspec write hwrite => ?_)
            rw [hwrites spec hspec] at hwrite
            cases hwrite
          · obtain ⟨spec, write, hspec, hwrite, hrows⟩ := hwrites
            exact .update _ _
              (.result position now commandId status payload spec write hcall hspec hwrite) hrows
        · rename_i e herror
          refine .same rfl (hnone fun spec hspec write hwrite => ?_)
          unfold projectTaskCommandResult at herror
          rw [hspec] at herror
          dsimp only at herror
          split at herror
          · rename_i e' hwrite'
            rw [hwrite'] at hwrite
            cases hwrite
          · cases herror
          · cases herror

/-! ## 7. Rows after an update -/

/-- An open run has neither the time it finished nor a result, and its states are states. -/
structure TaskRunRecord.Sound (r : TaskRunRecord) : Prop where
  openRun : isTerminalTaskText r.state = false → r.finishedAt = none ∧ r.result = none
  state : ∃ state, r.state = formatTaskState state
  cleanupState : ∃ cleanupState, r.cleanupState = formatTaskCleanupState cleanupState

def TaskRuns.Sound (s : TaskRuns) : Prop := ∀ r ∈ s.runs.rows, r.Sound

theorem taskResultWrite_cases {spec : TaskRunSpec} {status : CommandState} {payload : JsonValue}
    {now : DateTime} {write : TaskRunRecord → TaskRunRecord}
    (h : taskResultWrite decode spec status payload now = .ok (some write)) :
    (∃ result, decode payload = some result ∧ keepsContract spec status result = true ∧
        write = .setResult result now) ∨
    (decode payload = none ∧ status = .failed ∧
        write = .setFailure (payloadText payload "error_code" "task_run.execution_failed")
          (payloadText payload "message" "Task Run command failed before evidence was produced")
          now) := by
  unfold taskResultWrite at h
  split at h
  · rename_i result hdecode
    split at h
    · cases h
    · rename_i hkeeps
      cases h
      exact Or.inl ⟨result, hdecode, by simpa using hkeeps, rfl⟩
  · rename_i hdecode
    split at h
    · rename_i hfailed
      cases h
      exact Or.inr ⟨hdecode, hfailed, rfl⟩
    · cases h

theorem terminal_of_keepsContract {spec : TaskRunSpec} {status : CommandState}
    {result : TaskRunResultPackage} (h : keepsContract spec status result = true) :
    result.state.isTerminal = true := by
  simp only [keepsContract, Bool.and_eq_true] at h
  exact h.1.1.1.1.1.2

theorem RunUpdate.keepsId {a : TaskAction} {p : TaskRunRecord → Bool}
    {f : TaskRunRecord → TaskRunRecord} (h : RunUpdate decode s a p f) (r : TaskRunRecord) :
    (f r).taskRunId = r.taskRunId := by
  cases h with
  | cancel => rfl
  | event => rfl
  | result position now commandId status payload spec write hcall hspec hwrite =>
    exact taskResultWrite_keeps hwrite r

theorem RunUpdate.sound {a : TaskAction} {p : TaskRunRecord → Bool}
    {f : TaskRunRecord → TaskRunRecord} (h : RunUpdate decode s a p f) {r : TaskRunRecord}
    (hr : r.Sound) (hp : p r = true) : (f r).Sound := by
  cases h with
  | cancel position now taskRunId command hcall =>
    have hopen : isTerminalTaskText r.state = false := by
      simp only [TaskRunRecord.isActiveOf, Bool.and_eq_true, Bool.not_eq_true'] at hp
      exact hp.1.2
    exact ⟨fun _ => hr.openRun hopen, ⟨.cancelling, rfl⟩, hr.cleanupState⟩
  | event event taskRunId state cleanupState message hkind hpayload =>
    have hopen : isTerminalTaskText r.state = false := by
      simp only [TaskRunRecord.acceptsEvent, Bool.and_eq_true, Bool.not_eq_true'] at hp
      exact hp.1.2
    exact ⟨fun _ => hr.openRun hopen, ⟨state, rfl⟩, ⟨cleanupState, rfl⟩⟩
  | result position now commandId status payload spec write hcall hspec hwrite =>
    rcases taskResultWrite_cases hwrite with ⟨result, -, hkeeps, rfl⟩ | ⟨-, -, rfl⟩
    · refine ⟨fun hopen => ?_, ⟨result.state, rfl⟩, ⟨result.cleanupState, rfl⟩⟩
      have hterm : isTerminalTaskText (formatTaskState result.state) = true := by
        rw [isTerminalTaskText_format]
        exact terminal_of_keepsContract hkeeps
      exact absurd (hterm.symm.trans hopen) (by simp)
    · have hterm : isTerminalTaskText "failed" = true := by decide
      refine ⟨fun hopen => ?_, ⟨.failed, rfl⟩, hr.cleanupState⟩
      exact absurd (hterm.symm.trans hopen) (by simp)

/-- What an update does to a run that is being cancelled, or over: it is over afterwards, or as it
    was. -/
theorem RunUpdate.ends {a : TaskAction} {p : TaskRunRecord → Bool}
    {f : TaskRunRecord → TaskRunRecord} (h : RunUpdate decode s a p f) {r : TaskRunRecord}
    (hp : p r = true) (hr : r.state = "cancelling" ∨ isTerminalTaskText r.state = true) :
    isTerminalTaskText (f r).state = true := by
  cases h with
  | cancel position now taskRunId command hcall =>
    simp only [TaskRunRecord.isActiveOf, Bool.and_eq_true, Bool.not_eq_true', bne_iff_ne] at hp
    rcases hr with hr | hr
    · exact absurd hr hp.2
    · exact absurd (hr.symm.trans hp.1.2) (by simp)
  | event event taskRunId state cleanupState message hkind hpayload =>
    simp only [TaskRunRecord.acceptsEvent, Bool.and_eq_true, Bool.not_eq_true', Bool.or_eq_true,
      bne_iff_ne] at hp
    rcases hr with hr | hr
    · exact hp.2.resolve_left (not_not_intro hr)
    · exact absurd (hr.symm.trans hp.1.2) (by simp)
  | result position now commandId status payload spec write hcall hspec hwrite =>
    rcases taskResultWrite_cases hwrite with ⟨result, -, hkeeps, rfl⟩ | ⟨-, -, rfl⟩
    · show isTerminalTaskText (formatTaskState result.state) = true
      rw [isTerminalTaskText_format]
      exact terminal_of_keepsContract hkeeps
    · show isTerminalTaskText "failed" = true
      decide

/-- What an update has to do to a row it writes. -/
def TaskRunRecord.WrittenWell (r r' : TaskRunRecord) : Prop :=
  (isTerminalTaskText r.state = true → r'.SameEnd r) ∧ r'.Complete

/-- A result writes an open run well, and an ended run if it repeats its end. -/
theorem writtenWell_result_iff {spec : TaskRunSpec} {status : CommandState} {payload : JsonValue}
    {now : DateTime} {write : TaskRunRecord → TaskRunRecord} {r : TaskRunRecord}
    (hwrite : taskResultWrite decode spec status payload now = .ok (some write)) (hr : r.Sound)
    (hcomplete : r.Complete) :
    r.WrittenWell (write r) ↔
      (isTerminalTaskText r.state = true → r.RepeatsResult decode spec status payload) := by
  rcases taskResultWrite_cases hwrite with ⟨result, hdecode, hkeeps, rfl⟩ | ⟨hdecode, hfailed, rfl⟩
  · have hnew : (r.setResult result now).Complete := by
      refine fun _ => ⟨by simp [TaskRunRecord.setResult], fun result' hresult' => ?_⟩
      obtain rfl : result = result' := Option.some.inj hresult'
      rfl
    simp only [TaskRunRecord.RepeatsResult, hdecode, hkeeps, forall_const]
    constructor
    · intro ⟨hsame, _⟩ hterm
      have h := hsame hterm
      exact ⟨h.state.symm, h.result.symm, h.terminalCode.symm, h.terminalMessage.symm⟩
    · intro h
      refine ⟨fun hterm => ?_, hnew⟩
      obtain ⟨hstate, hresult, hcode, hmessage⟩ := h hterm
      exact ⟨hstate.symm, hresult.symm, hcode.symm, hmessage.symm⟩
  · simp only [TaskRunRecord.RepeatsResult, hdecode, hfailed, forall_const]
    constructor
    · intro ⟨hsame, _⟩ hterm
      have h := hsame hterm
      exact ⟨h.state.symm, h.terminalCode.symm, h.terminalMessage.symm⟩
    · intro h
      refine ⟨fun hterm => ?_, fun _ => ⟨by simp [TaskRunRecord.setFailure], ?_⟩⟩
      · obtain ⟨hstate, hcode, hmessage⟩ := h hterm
        exact ⟨hstate.symm, rfl, hcode.symm, hmessage.symm⟩
      · intro result hresult
        cases hterm : isTerminalTaskText r.state with
        | false =>
          have hnone : r.result = none := (hr.openRun hterm).2
          rw [show r.result = some result from hresult] at hnone
          cases hnone
        | true =>
          rw [← (hcomplete hterm).2 result hresult]
          exact (h hterm).1.symm

/-- **An update writes its rows well exactly when it meets the guard.** -/
theorem RunUpdate.guard_iff {a : TaskAction} {p : TaskRunRecord → Bool}
    {f : TaskRunRecord → TaskRunRecord} (h : RunUpdate decode s a p f) (hsound : s.Sound)
    (hcomplete : s.AllComplete) :
    (∀ r ∈ s.runs.rows, p r = true → r.WrittenWell (f r)) ↔ s.MeetsGuard decode a := by
  cases h with
  | cancel position now taskRunId command hcall =>
    refine iff_of_true (fun r _ hp => ?_) (meetsGuard_run hcall fun _ _ _ => (by simp))
    simp only [TaskRunRecord.isActiveOf, Bool.and_eq_true, Bool.not_eq_true'] at hp
    refine ⟨fun hterm => absurd (hterm.symm.trans hp.1.2) (by simp), fun hterm => ?_⟩
    have hcancelling : isTerminalTaskText "cancelling" = false := by decide
    exact absurd (hcancelling.symm.trans hterm) (by simp)
  | event event taskRunId state cleanupState message hkind hpayload =>
    constructor
    · intro hwell taskRunId' state' cleanupState' message' _ hpayload' hterm r hr hid
      obtain ⟨rfl, rfl, rfl, rfl⟩ :=
        EventPayload.taskRunStateChanged.inj (hpayload.symm.trans hpayload')
      by_contra hopen
      have hopen' : isTerminalTaskText r.state = false := by simpa using hopen
      have hp : r.acceptsEvent taskRunId (formatTaskState state) = true := by
        simp [TaskRunRecord.acceptsEvent, hid, hopen', hterm]
      -- the event would end an open run, which has no time it finished
      have hfinished := ((hwell r hr hp).2 (by
        show isTerminalTaskText (formatTaskState state) = true
        rw [isTerminalTaskText_format, hterm])).1
      exact hfinished ((hsound r hr).openRun hopen').1
    · intro hguard r hr hp
      have hp' := hp
      simp only [TaskRunRecord.acceptsEvent, Bool.and_eq_true, Bool.not_eq_true', beq_iff_eq] at hp
      refine ⟨fun hterm => absurd (hterm.symm.trans hp.1.2) (by simp), fun hterm => ?_⟩
      have hstate : state.isTerminal = true := by
        rw [← isTerminalTaskText_format]
        exact hterm
      have hended := hguard taskRunId state cleanupState message hkind hpayload hstate r hr hp.1.1
      exact absurd (hended.symm.trans hp.1.2) (by simp)
  | result position now commandId status payload spec write hcall hspec hwrite =>
    have hiff : ∀ r ∈ s.runs.rows, (r.WrittenWell (f r) ↔
        (isTerminalTaskText r.state = true → r.RepeatsResult decode spec status payload)) :=
      fun r hr => writtenWell_result_iff hwrite (hsound r hr) (hcomplete r hr)
    constructor
    · intro hwell commandId' status' payload' spec' hcall' hspec' r hr hid
      obtain ⟨rfl, rfl, rfl⟩ :=
        TaskCall.projectResult.inj (Option.some.inj (hcall.symm.trans hcall'))
      obtain rfl : spec = spec' := Option.some.inj (hspec.symm.trans hspec')
      exact (hiff r hr).mp (hwell r hr (by simpa using hid))
    · intro hguard r hr hp
      exact (hiff r hr).mpr
        (hguard commandId status payload spec hcall hspec r hr (by simpa using hp))

end Steps

/-! ## 8. Runs -/

theorem TaskRunRecord.SameEnd.refl (r : TaskRunRecord) : r.SameEnd r := ⟨rfl, rfl, rfl, rfl⟩

theorem TaskRuns.KeepsEnded.refl (s : TaskRuns) : s.KeepsEnded s :=
  fun a ha _ => ⟨a, ha, rfl, .refl a⟩

theorem TaskRuns.KeepsEnded.trans {s t u : TaskRuns} (h : s.KeepsEnded t) (h' : t.KeepsEnded u) :
    s.KeepsEnded u := by
  intro a ha hterm
  obtain ⟨b, hb, hid, hsame⟩ := h a ha hterm
  obtain ⟨c, hc, hid', hsame'⟩ := h' b hb (by rw [hsame.state]; exact hterm)
  exact ⟨c, hc, hid'.trans hid, hsame'.state.trans hsame.state, hsame'.result.trans hsame.result,
    hsame'.terminalCode.trans hsame.terminalCode, hsame'.terminalMessage.trans hsame.terminalMessage⟩

section Runs

variable {codec : ResultCodec} {decode : JsonValue → Option TaskRunResultPackage} {s t : TaskRuns}

theorem rows_insert {request : TaskRequest} (h : s.runs.insert? (.queued request) = some t.runs) :
    t.runs.rows = s.runs.rows ++ [.queued request] := (insert?_eq_some.mp h).2

theorem sound_queued (request : TaskRequest) : (TaskRunRecord.queued request).Sound :=
  ⟨fun _ => ⟨rfl, rfl⟩, ⟨.queued, rfl⟩, ⟨.pending, rfl⟩⟩

theorem complete_queued (request : TaskRequest) : (TaskRunRecord.queued request).Complete := by
  intro hterm
  have hqueued : isTerminalTaskText "queued" = false := by decide
  exact absurd (hqueued.symm.trans hterm) (by simp)

/-- **Every step keeps the rows sound.** -/
theorem TaskRuns.Sound.step {a : TaskAction} (hs : s.Sound)
    (h : s.step codec decode a = some t) : t.Sound := by
  cases runsStep_of_step h with
  | same hruns =>
    intro r hr
    rw [hruns] at hr
    exact hs r hr
  | insert request hruns =>
    intro r hr
    rw [rows_insert hruns] at hr
    rcases List.mem_append.mp hr with hr | hr
    · exact hs r hr
    · obtain rfl := List.mem_singleton.mp hr
      exact sound_queued request
  | update p f hupdate hrows =>
    intro r hr
    rw [hrows] at hr
    obtain ⟨r₀, hr₀, rfl⟩ := List.mem_map.mp hr
    split
    · rename_i hp
      exact hupdate.sound (hs r₀ hr₀) hp
    · exact hs r₀ hr₀

/-- A relation between a run's row before and after that an update keeps, row by row. -/
theorem exists_row_of_update {p : TaskRunRecord → Bool} {f : TaskRunRecord → TaskRunRecord}
    (hrows : t.runs.rows = s.runs.rows.map fun r => if p r then f r else r) {r : TaskRunRecord}
    (hr : r ∈ s.runs.rows) : (if p r then f r else r) ∈ t.runs.rows := by
  rw [hrows]
  exact List.mem_map_of_mem (f := fun r => if p r then f r else r) hr

/-- **A step keeps the ended runs and leaves every run complete exactly when it meets the guard.** -/
theorem TaskRuns.step_settled_iff {a : TaskAction} (hs : s.Sound) (hcomplete : s.AllComplete)
    (h : s.step codec decode a = some t) :
    (s.KeepsEnded t ∧ t.AllComplete) ↔ s.MeetsGuard decode a := by
  cases runsStep_of_step h with
  | same hruns hguard =>
    refine iff_of_true ⟨fun a ha _ => ⟨a, ?_, rfl, .refl a⟩, fun r hr => ?_⟩ hguard
    · rw [hruns]
      exact ha
    · rw [hruns] at hr
      exact hcomplete r hr
  | insert request hruns hguard =>
    refine iff_of_true ⟨fun a ha _ => ⟨a, ?_, rfl, .refl a⟩, fun r hr => ?_⟩ hguard
    · rw [rows_insert hruns]
      exact List.mem_append_left _ ha
    · rw [rows_insert hruns] at hr
      rcases List.mem_append.mp hr with hr | hr
      · exact hcomplete r hr
      · obtain rfl := List.mem_singleton.mp hr
        exact complete_queued request
  | update p f hupdate hrows =>
    rw [← hupdate.guard_iff hs hcomplete]
    constructor
    · intro ⟨hkeeps, hall⟩ r hr hp
      have hmem : f r ∈ t.runs.rows := by simpa [hp] using exists_row_of_update hrows hr
      refine ⟨fun hterm => ?_, hall _ hmem⟩
      obtain ⟨b, hb, hid, hsame⟩ := hkeeps r hr hterm
      obtain rfl : b = f r := eq_of_clash hb hmem (hid.trans (hupdate.keepsId r).symm)
      exact hsame
    · intro hwell
      refine ⟨fun r hr hterm => ⟨_, exists_row_of_update hrows hr, ?_⟩, fun r hr => ?_⟩
      · split
        · rename_i hp
          exact ⟨hupdate.keepsId r, (hwell r hr hp).1 hterm⟩
        · exact ⟨rfl, .refl r⟩
      · rw [hrows] at hr
        obtain ⟨r₀, hr₀, rfl⟩ := List.mem_map.mp hr
        split
        · rename_i hp
          exact (hwell r₀ hr₀ hp).2
        · exact hcomplete r₀ hr₀

/-- Runs that are being cancelled or over stay so. -/
def TaskRuns.Ending (s t : TaskRuns) : Prop :=
  ∀ a ∈ s.runs.rows, a.state = "cancelling" ∨ isTerminalTaskText a.state = true →
    ∃ b ∈ t.runs.rows, b.taskRunId = a.taskRunId ∧
      (b.state = "cancelling" ∨ isTerminalTaskText b.state = true)

/-- **A step never takes a run back from its end**, whatever it is. -/
theorem TaskRuns.Ending.of_step {a : TaskAction} (h : s.step codec decode a = some t) :
    s.Ending t := by
  cases runsStep_of_step h with
  | same hruns =>
    intro r hr hends
    exact ⟨r, by rw [hruns]; exact hr, rfl, hends⟩
  | insert request hruns =>
    intro r hr hends
    exact ⟨r, by rw [rows_insert hruns]; exact List.mem_append_left _ hr, rfl, hends⟩
  | update p f hupdate hrows =>
    intro r hr hends
    refine ⟨_, exists_row_of_update hrows hr, ?_⟩
    split
    · rename_i hp
      exact ⟨hupdate.keepsId r, Or.inr (hupdate.ends hp hends)⟩
    · exact ⟨rfl, hends⟩

theorem always_cancellingEnds (s : TaskRuns) (as : List TaskAction) :
    Always (TaskRuns.step codec decode) TaskRuns.CancellingEnds s as := by
  have hending : Always (TaskRuns.step codec decode) TaskRuns.Ending s as := by
    rw [Uprava.Lib.always_iff_eachStep]
    · exact Uprava.Lib.meets_of_split fun _ _ _ _ _ _ u hu => .of_step hu
    · exact fun s r hr hends => ⟨r, hr, rfl, hends⟩
    · intro s t u h h' r hr hends
      obtain ⟨b, hb, hid, hb'⟩ := h r hr hends
      obtain ⟨c, hc, hid', hc'⟩ := h' b hb hb'
      exact ⟨c, hc, hid'.trans hid, hc'⟩
  intro bs cs ds t u he ht hu r hr hcancelling
  exact hending bs cs ds t u he ht hu r hr (Or.inl hcancelling)

theorem taskSummaryFromRow_sound {r : TaskRunRecord} (hr : r.Sound) :
    ∃ summary, taskSummaryFromRow r = .ok summary := by
  obtain ⟨state, hstate⟩ := hr.state
  obtain ⟨cleanupState, hcleanup⟩ := hr.cleanupState
  rw [taskSummaryFromRow, hstate, hcleanup, parse_formatTaskState, parse_formatTaskCleanupState]
  exact ⟨_, rfl⟩

/-- Sound rows can be shown. -/
theorem TaskRuns.Sound.shown (hs : s.Sound) : s.Shown where
  list := by
    have hlist : ∀ rows : List TaskRunRecord, (∀ r ∈ rows, r.Sound) →
        ∃ items, rows.mapM taskSummaryFromRow = .ok items := by
      intro rows
      induction rows with
      | nil => exact fun _ => ⟨[], rfl⟩
      | cons r rows ih =>
        intro hrows
        obtain ⟨summary, hsummary⟩ := taskSummaryFromRow_sound (hrows r List.mem_cons_self)
        obtain ⟨items, hitems⟩ := ih fun r' hr' => hrows r' (List.mem_cons_of_mem _ hr')
        refine ⟨summary :: items, ?_⟩
        rw [List.mapM_cons, hsummary, hitems]
        rfl
    exact hlist s.runs.rows hs
  load := by
    intro r hr
    have hfind : s.runs.find? (·.taskRunId == r.taskRunId) = some r :=
      find?_of_mem hr (by simp) fun a ha => beq_iff_eq.mp ha
    obtain ⟨summary, hsummary⟩ := taskSummaryFromRow_sound (hs r hr)
    refine ⟨(summary, r.result), ?_⟩
    rw [loadTaskRun, hfind]
    dsimp only
    rw [hsummary]
    rfl

/-- **Runs that are over stay as they are, with their result, their reason and the time they
    finished, exactly when no event ends a run and each result finds its run open or as it writes
    it.** A run that is being cancelled only ends, and every run can be shown, in any case. -/
theorem taskRuns_settled_iff (codec : ResultCodec)
    (decode : JsonValue → Option TaskRunResultPackage) {s t : TaskRuns} {as : List TaskAction}
    (hs : s.runs = .empty) (hrun : run (TaskRuns.step codec decode) s as = some t) :
    (Always (TaskRuns.step codec decode) TaskRuns.KeepsEnded s as ∧
        Throughout (TaskRuns.step codec decode) TaskRuns.AllComplete s as) ∧
      Always (TaskRuns.step codec decode) TaskRuns.CancellingEnds s as ∧
      Throughout (TaskRuns.step codec decode) TaskRuns.Shown s as ↔
    Meets (TaskRuns.step codec decode) (TaskRuns.MeetsGuard decode) s as := by
  have hnone : ∀ r ∈ s.runs.rows, False := by
    rw [hs]
    exact fun r hr => (by cases hr)
  have hsound : s.Sound := fun r hr => (hnone r hr).elim
  have hcomplete : s.AllComplete := fun r hr => (hnone r hr).elim
  have hshown : Throughout (TaskRuns.step codec decode) TaskRuns.Shown s as :=
    fun bs cs u he hu =>
      (throughout_of_inv TaskRuns.Sound (fun _ _ _ hI h => hI.step h) hsound bs cs u he hu).shown
  rw [← always_throughout_iff_meets (R := TaskRuns.KeepsEnded) (G := TaskRuns.AllComplete)
    TaskRuns.Sound .refl (fun _ _ _ => .trans) (fun _ _ _ hI h => hI.step h)
    (fun _ _ _ hI hG h => TaskRuns.step_settled_iff hI hG h) hsound hcomplete hrun]
  constructor
  · intro ⟨hsettled, _, _⟩
    exact hsettled
  · intro hsettled
    exact ⟨hsettled, always_cancellingEnds s as, hshown⟩

end Runs

/-! ## 9. An event that ends a run -/

section Ended

def oneTask : TaskRequest where
  spec := ⟨"t1", "p1", "b1", "uprava/task/t1", "image"⟩
  workspacePath := "/work"
  nodeId := "n1"
  commandId := "c1"
  issuedAt := 0
  correlationId := "k1"

def oneTaskResult : TaskRunResultPackage where
  taskRunId := "t1"
  state := .succeeded
  cleanupState := .completed
  summary := "done"
  baseRevision := "b1"
  finalRevision := none
  branch := "uprava/task/t1"
  worktreePath := "/work/t1"
  runtimeImage := "image"
  evidence := .emptyObject
  terminalReason := none

/-- A Node's report that a run is in a state. -/
def taskStateEvent (state : TaskRunState) (seq : Int) : EventEnvelope where
  eventId := "e" ++ toString seq
  actorRef := .node "n1"
  scopeRef := .taskRun "t1"
  nodeId := some "n1"
  seq := seq
  kind := .taskRunStateChanged
  happenedAt := seq
  payload := .taskRunStateChanged "t1" state .pending none

/-- A run is started and dispatched, and its Node reports that it runs. -/
def startedTask : List TaskAction :=
  [.create oneTask, .run 0 0, .advance "c1" .pendingDispatch 1, .advance "c1" .dispatched 1,
    .event (taskStateEvent .running 40)]

/-- The result of the run's command is stored and projected. -/
def projectedTask : List TaskAction :=
  [.result "n1" "c1" .completed .emptyObject, .run 0 90, .run 0 90, .run 0 90]

def decodesOneTask : JsonValue → Option TaskRunResultPackage := fun _ => some oneTaskResult

/-- The Node reports that the run succeeded. -/
def endedTask : List TaskAction := startedTask ++ [.event (taskStateEvent .succeeded 70)]

/-- Core after the report, and after the result. -/
def reportedRuns : TaskRuns :=
  (run (TaskRuns.step noCodec decodesOneTask) {} endedTask).getD {}

def projectedRuns : TaskRuns :=
  (run (TaskRuns.step noCodec decodesOneTask) reportedRuns projectedTask).getD {}

/-- **A Node reports that a run succeeded before it sends the result**: the run is over without the
    time it finished, and its result is stored afterwards. -/
theorem taskRuns_unsettled :
    (run (TaskRuns.step noCodec decodesOneTask) {}
      (endedTask ++ projectedTask)).isSome = true ∧
    ¬ Throughout (TaskRuns.step noCodec decodesOneTask) TaskRuns.AllComplete {}
      (endedTask ++ projectedTask) ∧
    ¬ Always (TaskRuns.step noCodec decodesOneTask) TaskRuns.KeepsEnded {}
      (endedTask ++ projectedTask) := by
  refine ⟨by decide, fun h => ?_, fun h => ?_⟩
  · have hcomplete : reportedRuns.AllComplete :=
      h endedTask projectedTask _ rfl rfl
    have hrows : ∀ r ∈ reportedRuns.runs.rows, isTerminalTaskText r.state = true →
        r.finishedAt ≠ none := fun r hr hterm => (hcomplete r hr hterm).1
    exact absurd hrows (by decide)
  · have hkeeps : reportedRuns.KeepsEnded projectedRuns :=
      h endedTask projectedTask [] _ _ (List.append_nil _).symm rfl rfl
    have hrows : ∀ a ∈ reportedRuns.runs.rows, isTerminalTaskText a.state = true →
        ∃ b ∈ projectedRuns.runs.rows, b.result = a.result := by
      intro a ha hterm
      obtain ⟨b, hb, -, hsame⟩ := hkeeps a ha hterm
      exact ⟨b, hb, hsame.result⟩
    exact absurd hrows (by decide)

/-- Without that report the theorem's equivalence is about a run of results alone. -/
theorem taskRuns_settled_iff_projectedTask :
    ∃ t, run (TaskRuns.step noCodec decodesOneTask) {} (startedTask ++ projectedTask) = some t ∧
      ((Always (TaskRuns.step noCodec decodesOneTask) TaskRuns.KeepsEnded {}
            (startedTask ++ projectedTask) ∧
          Throughout (TaskRuns.step noCodec decodesOneTask) TaskRuns.AllComplete {}
            (startedTask ++ projectedTask)) ∧
        Always (TaskRuns.step noCodec decodesOneTask) TaskRuns.CancellingEnds {}
          (startedTask ++ projectedTask) ∧
        Throughout (TaskRuns.step noCodec decodesOneTask) TaskRuns.Shown {}
          (startedTask ++ projectedTask) ↔
      Meets (TaskRuns.step noCodec decodesOneTask) (TaskRuns.MeetsGuard decodesOneTask) {}
        (startedTask ++ projectedTask)) := by
  have hrun : (run (TaskRuns.step noCodec decodesOneTask) {}
      (startedTask ++ projectedTask)).isSome := by decide
  exact ⟨_, (Option.some_get hrun).symm,
    taskRuns_settled_iff noCodec decodesOneTask rfl (Option.some_get hrun).symm⟩

end Ended

end Uprava.Core
