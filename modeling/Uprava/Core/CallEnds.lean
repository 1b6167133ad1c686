/-
  File:      Uprava/Core/CallEnds.lean
  Subject:   How tool calls end: requests that execute tools and results that Nodes send, statement
             by statement and in any order.

  A request that has to wait for a Node registers a waiter and ends the call itself; a result that
  finds no waiter ends the call in the request's place. The update that ends a call asks for no
  state of the row, the event is appended in a transaction of its own, and a request that is
  dropped runs no further.

  * `call_ends_iff`: along a run ended calls keep their ends and have one terminal event, and none
    stays open once a result for it is processed, exactly when no step ends, restarts or reports a
    call that has ended, and none gives up on a call that has not.
-/
import Uprava.Core.CommandResults
import Uprava.Core.ToolCalls

namespace Uprava.Core

open Uprava.Protocol
open Uprava.Lib (Schema Table run Meets Always Throughout always_throughout_iff_meets)
open Uprava.Lib.Table

/-! ## 1. Commands of a call -/

/-- Where an external tool's calls go. -/
structure ExternalToolRoute where
  integrationId : IntegrationId
  dependencyInstanceId : McpDependencyInstanceId
  nodeId : NodeId
  deriving DecidableEq

def ExternalToolRoute.binding (route : ExternalToolRoute) (commandId : CommandId) :
    CommandBinding := ⟨commandId, route.integrationId, route.dependencyInstanceId⟩

/-- The command of `execute_external_tool`. -/
def externalToolCommand (call : NewCall) (route : ExternalToolRoute) (commandId : CommandId)
    (now : DateTime) : CommandEnvelope where
  commandId
  kind := .tooling
  target := match call.request.scope.projectPlacementId with
    | some projectPlacementId => .placement route.nodeId projectPlacementId
    | none => .node route.nodeId
  actorRef := call.request.scope.actorRef
  issuedAt := now
  correlationId := call.correlationId
  payload := .tooling ⟨toolingContractVersionV1, .executeExternalTool call.toolCallId
    call.definition.toolId call.definition.schemaHash route.integrationId
    route.dependencyInstanceId call.request.arguments⟩

/-- The command of `dispatch_tool_call_cancel`. -/
def toolCallCancelCommand (call : NewCall) (route : ExternalToolRoute) (commandId : CommandId)
    (now : DateTime) : CommandEnvelope where
  commandId
  kind := .tooling
  target := .node route.nodeId
  actorRef := .system
  issuedAt := now
  correlationId := call.correlationId
  payload := .tooling ⟨toolingContractVersionV1, .cancelToolCall call.toolCallId
    (some "core_timeout")⟩

/-- The call a command is about. -/
def commandToolCall? (command : CommandEnvelope) : Option ToolCallId :=
  match command.payload with
  | .tooling ⟨_, .executeExternalTool toolCallId ..⟩ => some toolCallId
  | .tooling ⟨_, .cancelToolCall toolCallId _⟩ => some toolCallId
  | _ => none

/-- `load_durable_command_result` -/
def loadDurableCommandResult (db : Database) (commandId : CommandId) :
    Option CommandResultNotice :=
  match db.findCommand? commandId with
  | none => none
  | some row =>
    if isTerminalCommandState row.state then
      some ⟨commandId, row.state, row.resultPayload.getD .emptyObject⟩
    else none

/-- `record_command`, unless the database fails. -/
def recordUnless (error : Option AppError) (db : Database) (command : CommandEnvelope) :
    Except AppError Database :=
  match error with
  | some e => .error e
  | none => recordCommand db command

/-- The error of a call that was not answered in time. -/
def timeoutError : ToolExecutionError :=
  toolError .timeout "Timed out waiting for the external tool" true

/-- What `execute_external_tool` makes of the result it waited for. -/
def externalOutcome (decode : JsonValue → Option ExternalToolCommandResult)
    (toolCallId : ToolCallId) (notice : CommandResultNotice) : RouteOutcome :=
  if notice.status ≠ .completed then
    .failed (toolError .backendFailed "Node ToolHive bridge failed" true)
  else
    match decode notice.payload with
    | none => .failed internalToolError
    | some result =>
      if result.status.isSome || !result.definitions.isEmpty then
        .failed (toolError .backendFailed "Node returned an unexpected tooling result" false)
      else
        match result.event with
        | none => .failed (toolError .backendFailed "Node returned no terminal tool event" false)
        | some event =>
          if event.contractVersion ≠ toolingContractVersionV1 then
            .failed (toolError .backendFailed "Node returned an incompatible tooling event" false)
          else
            let mismatch := .failed (toolError .backendFailed
              "Node tool result identity did not match the call" false)
            match event.payload with
            | .toolCallCompleted returnedId result =>
              if returnedId = toolCallId then .external result else mismatch
            | .toolCallFailed returnedId error | .toolCallDenied returnedId error =>
              if returnedId = toolCallId then .failed error else mismatch
            | .other => mismatch

/-! ## 2. Requests and results in hand -/

/-- What a request still has to do. -/
inductive RequestStep where
  /-- A write. When it fails the request is over. -/
  | write (write : CallWrite)
  /-- Asks whether the tool is available and checks the arguments. -/
  | prepare
  | route
  /-- The update of `execute_external_tool`. -/
  | bind (commandId : CommandId) (route : ExternalToolRoute)
  /-- The statements of `record_and_dispatch_command`. -/
  | record (commandId : CommandId) (route : ExternalToolRoute)
  | pend (commandId : CommandId) (route : ExternalToolRoute)
  | dispatch (commandId : CommandId) (route : ExternalToolRoute)
  | await (commandId : CommandId) (route : ExternalToolRoute)
  /-- `dispatch_tool_call_cancel` -/
  | cancel (commandId : CommandId) (route : ExternalToolRoute)
  /-- The route is left, and with it the waiter. -/
  | release (commandId : CommandId)
  /-- The update of `finish_tool_call`, and its event. -/
  | finish (ending : ToolCallEnd)
  | finished (ending : ToolCallEnd)
  deriving DecidableEq

/-- What the handling of a result still has to do. -/
inductive ResultStep where
  | validate
  | update
  | project
  | statement (statement : ToolStatement)
  | finish (toolCallId : ToolCallId) (ending : ToolCallEnd)
  | finished (toolCallId : ToolCallId) (ending : ToolCallEnd)
  | notify
  deriving DecidableEq

inductive CallTask where
  | request (call : NewCall) (todo : List RequestStep)
  | result (frame : ResultFrame) (todo : List ResultStep)
  deriving DecidableEq

/-- Calls, commands, and what is in hand. -/
structure Calls where
  db : Database := {}
  tooling : Tooling := {}
  /-- The commands somebody waits for, and what waiters have been sent. -/
  waiters : List CommandId := []
  delivered : List CommandResultNotice := []
  tasks : List CallTask := []
  /-- The calls a result has been processed for. -/
  processed : List ToolCallId := []
  deriving DecidableEq

/-- What a route answers at once, or the Node it leads to. -/
inductive RouteAnswer where
  | answered (outcome : RouteOutcome)
  | external (route : ExternalToolRoute)
  deriving DecidableEq

/-- What a step finds outside of the tables. -/
structure CallInput where
  now : DateTime
  available : Bool
  answer : RouteAnswer
  /-- The id of a new command. -/
  commandId : CommandId
  /-- The error of the database or of a dispatch, where the request goes on after it. -/
  error : Option AppError
  deriving DecidableEq

/-- What a request does once its call is put down. -/
def requestSteps (call : NewCall) : List RequestStep :=
  .write (.event .requested (.ofFields [("correlation_id", .string call.correlationId),
    ("tool_id", .string call.definition.toolId),
    ("schema_hash", .string call.definition.schemaHash)])) ::
  match policyDecision call.definition call.request.scope with
  | .deny => [.finish (endWithError .denied deniedError)]
  | .requireApproval => approvalWrites.map .write
  | .allow => authorizedWrites.map .write ++ [.prepare]

/-- What a request does once it is allowed. -/
def preparedSteps (call : NewCall) (available : Bool) : List RequestStep :=
  if !available then [.finish (endWithError .failed unavailableError)]
  else
    match validateArguments call.definition.inputSchema call.request.arguments with
    | .error message =>
      [.finish (endWithError .failed (toolError .invalidArguments message false))]
    | .ok () => (startWrites none).map .write ++ [.route]

def resultSteps : List ResultStep := [.validate, .update, .project]

/-! ## 3. One step -/

section Steps

variable (decoders : ResultDecoders) (digest : Digest)

/-- The guard of a waiter is dropped. -/
def Calls.release (s : Calls) (commandId : CommandId) : Calls :=
  { s with waiters := s.waiters.filter (· != commandId) }

/-- A request leaves its route with an answer. -/
def Calls.leaveRoute (s : Calls) (call : NewCall) (commandId : CommandId)
    (outcome : RouteOutcome) : Calls × List RequestStep :=
  (s.release commandId, [.finish (endOfRoute call.definition.redaction outcome)])

/-- A write of a request, and what it goes on with. -/
def Calls.writeCall (s : Calls) (call : NewCall) (now : DateTime) (write : CallWrite)
    (rest : List RequestStep) : Calls × List RequestStep :=
  match write.run digest call now s.tooling with
  | .ok tooling => ({ s with tooling }, rest)
  | .error _ => (s, [])

/-- A step of a request: what it leaves, and what is still to be done. -/
def Calls.requestStep (s : Calls) (call : NewCall) (input : CallInput) (rest : List RequestStep) :
    RequestStep → Calls × List RequestStep
  | .write write => s.writeCall digest call input.now write rest
  | .prepare => (s, preparedSteps call input.available)
  | .route =>
    match input.answer with
    | .answered outcome => (s, [.finish (endOfRoute call.definition.redaction outcome)])
    | .external route =>
      ({ s with waiters := input.commandId :: s.waiters }, [.bind input.commandId route])
  | .bind commandId route =>
    match input.error with
    | some _ => s.leaveRoute call commandId (.failed internalToolError)
    | none => s.writeCall digest call input.now (.bindCommand (route.binding commandId))
        [.record commandId route]
  | .record commandId route =>
    match recordUnless input.error s.db (externalToolCommand call route commandId input.now) with
    | .error e => s.leaveRoute call commandId (.failed (appToolError e))
    | .ok db => ({ s with db }, [.pend commandId route])
  | .pend commandId route =>
    match input.error with
    | some e => s.leaveRoute call commandId (.failed (appToolError e))
    | none => ({ s with db := updateCommandState s.db commandId .pendingDispatch input.now },
        [.dispatch commandId route])
  | .dispatch commandId route =>
    match input.error with
    | some e => s.leaveRoute call commandId (.failed (appToolError e))
    | none => (s, [.await commandId route])
  | .await commandId route =>
    -- what was sent to the waiter, or, when the time is over, what is stored
    match (s.delivered.find? (·.commandId == commandId)).or
        (if input.error.isSome then none else loadDurableCommandResult s.db commandId) with
    | some notice =>
      s.leaveRoute call commandId (externalOutcome decoders.tooling call.toolCallId notice)
    | none => (s, [.cancel commandId route])
  | .cancel commandId route =>
    let rest : List RequestStep :=
      [.release commandId, .finish (endOfRoute call.definition.redaction (.failed timeoutError))]
    match recordUnless input.error s.db
        (toolCallCancelCommand call route input.commandId input.now) with
    | .error _ => (s, rest)
    | .ok db =>
      ({ s with db := updateCommandState db input.commandId .pendingDispatch input.now }, rest)
  | .release commandId => (s.release commandId, rest)
  | .finish ending =>
    ({ s with tooling := finishToolCallRow digest s.tooling call.toolCallId ending input.now },
      .finished ending :: rest)
  | .finished ending =>
    ({ s with tooling := finishToolCallEvent digest s.tooling call.toolCallId ending input.now },
      rest)

/-- The handling of a stored result is over. -/
def Calls.processedResult (s : Calls) (frame : ResultFrame) : Calls × List ResultStep :=
  ({ s with processed :=
      s.processed ++ ((s.db.commandOf? frame.commandId).bind commandToolCall?).toList }, [])

/-- What `project_tooling_command_result` does with a result, `none` when it does not decode. The
    call is ended here only when nobody waits for the command. -/
def projectSteps (s : Calls) (frame : ResultFrame) : Option (List ResultStep) :=
  match s.db.commandOf? frame.commandId with
  | none => some []
  | some command =>
    if command.kind ≠ .tooling ∨ frame.status ≠ .completed then some []
    else (decoders.tooling frame.durable).map fun result =>
      (resultStatements command.target.nodeId result
        (!s.waiters.contains frame.commandId)).map .statement

/-- A step of a result: what it leaves, and what is still to be done. An error ends the handling. -/
def Calls.resultStep (s : Calls) (frame : ResultFrame) (now : DateTime) (rest : List ResultStep) :
    ResultStep → Calls × List ResultStep
  | .validate =>
    match validateCommandResult decoders.check s.db frame.nodeId frame.commandId frame.status
        frame.durable with
    | .error _ => (s, [])
    | .ok () => (s, rest)
  | .update =>
    ({ s with db := updateCommandResult s.db frame.commandId frame.status frame.durable now }, rest)
  | .project =>
    match projectSteps decoders s frame with
    | none => s.processedResult frame
    | some steps => (s, steps ++ [.notify])
  | .statement (.terminalEvent event) =>
    if event.contractVersion ≠ toolingContractVersionV1 then s.processedResult frame
    else
      match terminalToolingEvent event.payload with
      | none => (s, rest)
      | some (toolCallId, ending) => (s, .finish toolCallId ending :: rest)
  | .statement statement =>
    match statement.run digest now s.tooling with
    | .error _ => s.processedResult frame
    | .ok tooling => ({ s with tooling }, rest)
  | .finish toolCallId ending =>
    ({ s with tooling := finishToolCallRow digest s.tooling toolCallId ending now },
      .finished toolCallId ending :: rest)
  | .finished toolCallId ending =>
    -- an event refers to a call
    match findToolCall? s.tooling.toolCalls toolCallId with
    | none => s.processedResult frame
    | some _ =>
      ({ s with tooling := finishToolCallEvent digest s.tooling toolCallId ending now }, rest)
  | .notify =>
    Calls.processedResult
      { s with
        waiters := s.waiters.filter (· != frame.commandId)
        delivered := if s.waiters.contains frame.commandId then
            s.delivered ++ [⟨frame.commandId, frame.status, frame.payload⟩]
          else s.delivered } frame

/-- Calls with a task more. -/
def Calls.put (s : Calls) (task : CallTask) : Calls := { s with tasks := task :: s.tasks }

/-- What is left of a task is in hand, unless nothing is. -/
def Calls.goesOn (s : Calls) (task : CallTask) : Calls :=
  match task with
  | .request _ [] | .result _ [] => s
  | _ => s.put task

/-- A task takes its next step. -/
def Calls.advance (s : Calls) (input : CallInput) : CallTask → Calls
  | .request _ [] | .result _ [] => s
  | .request call (step :: rest) =>
    let (t, todo) := s.requestStep decoders digest call input rest step
    t.goesOn (.request call todo)
  | .result frame (step :: rest) =>
    let (t, todo) := s.resultStep decoders digest frame input.now rest step
    t.goesOn (.result frame todo)

/-- Calls with a task less. -/
def Calls.without (s : Calls) (position : Nat) : Calls :=
  { s with tasks := s.tasks.eraseIdx position }

/-- The waiters a request holds. -/
def RequestStep.waiter? : RequestStep → Option CommandId
  | bind commandId _ | record commandId _ | pend commandId _ | dispatch commandId _
  | await commandId _ | cancel commandId _ | release commandId => some commandId
  | _ => none

/-- A request is dropped where it is. -/
def Calls.dropRequest (s : Calls) (todo : List RequestStep) : Calls :=
  { s with waiters := s.waiters.filter fun w => !(todo.filterMap (·.waiter?)).contains w }

inductive CallAction where
  /-- `execute_tool` begins: the tool is found, and the row of the call is put down. -/
  | begin (toolCallId : ToolCallId) (correlationId : CorrelationId) (request : ExecuteToolRequest)
      (now : DateTime)
  | nodeResult (frame : ResultFrame)
  /-- The task at a position takes its next step. -/
  | advance (position : Nat) (input : CallInput)
  /-- The request at a position is dropped. An error that ends a request is the same. -/
  | drop (position : Nat)
  deriving DecidableEq

/-- One step. The task that takes it stands first afterwards. -/
def Calls.step (s : Calls) : CallAction → Option Calls
  | .begin toolCallId correlationId request now =>
    (loadToolDefinition s.tooling.toolDefinitions request.toolId).bind fun definition =>
      let call : NewCall := ⟨toolCallId, correlationId, definition, request⟩
      -- the id is new
      (s.tooling.toolCalls.insert? (requestedRow digest call now)).map fun toolCalls =>
        Calls.put { s with tooling := { s.tooling with toolCalls } }
          (.request call (requestSteps call))
  | .nodeResult frame => some (s.put (.result frame resultSteps))
  | .advance position input => (s.tasks[position]?).map fun task =>
      Calls.advance decoders digest (s.without position) input task
  | .drop position => (s.tasks[position]?).bind fun
      | .request _ todo => some
          ((s.without position).dropRequest todo)
      | .result .. => none

end Steps

/-! ## 4. How calls end -/

/-- What a row says of the end of its call. -/
structure RecordedEnd where
  state : ToolCallState
  resultHash : Option String
  error : Option ToolExecutionError
  deriving DecidableEq

def ToolCallRow.recordedEnd (r : ToolCallRow) : RecordedEnd := ⟨r.state, r.resultHash, r.error⟩

def ToolCallEnd.recorded (digest : Digest) (ending : ToolCallEnd) : RecordedEnd :=
  ⟨ending.state, ending.result.map fun x => hashText digest (resultText x), ending.error⟩

/-- What the row of a call says of its end. -/
def Tooling.endOf? (s : Tooling) (toolCallId : ToolCallId) : Option RecordedEnd :=
  (findToolCall? s.toolCalls toolCallId).map (·.recordedEnd)

/-- The states of the terminal events of a call. -/
def Tooling.terminalStates (s : Tooling) (toolCallId : ToolCallId) : List ToolCallState :=
  (s.toolCallEvents.select fun r => r.toolCallId == toolCallId && r.state.isTerminal).map (·.state)

/-- The task has ended the call, and its next statement appends the event. -/
def CallTask.Owes (toolCallId : ToolCallId) : CallTask → Prop
  | request call (.finished _ :: _) => call.toolCallId = toolCallId
  | result _ (.finished endedId _ :: _) => endedId = toolCallId
  | _ => False

/-- Does the step end the call, or lead to its endOf? -/
def RequestStep.ends : RequestStep → Bool
  | write _ | release _ | finished _ => false
  | _ => true

/-- The task ends the call when it runs on. -/
def CallTask.Ends (toolCallId : ToolCallId) : CallTask → Prop
  | request call todo => call.toolCallId = toolCallId ∧ ∃ step ∈ todo, step.ends = true
  | result _ (.finish endedId _ :: _) => endedId = toolCallId
  | _ => False

def Calls.Owed (s : Calls) (toolCallId : ToolCallId) : Prop :=
  ∃ task ∈ s.tasks, task.Owes toolCallId

def Calls.Ending (s : Calls) (toolCallId : ToolCallId) : Prop :=
  ∃ task ∈ s.tasks, task.Ends toolCallId

/-- The call has ended, or some task in hand ends it. -/
def Calls.WillEnd (s : Calls) (toolCallId : ToolCallId) : Prop :=
  ∀ e, s.tooling.endOf? toolCallId = some e → e.state.isTerminal = true ∨ s.Ending toolCallId

/-- **Every call that has ended has one terminal event, with its state, unless the event is what a
    task appends next; a call that has not ended has none; and a call for which a result was
    processed has ended or is about to.** -/
structure Calls.Settled (s : Calls) : Prop where
  running : ∀ toolCallId e, s.tooling.endOf? toolCallId = some e → e.state.isTerminal = false →
    s.tooling.terminalStates toolCallId = []
  ended : ∀ toolCallId e, s.tooling.endOf? toolCallId = some e → e.state.isTerminal = true →
    s.tooling.terminalStates toolCallId = [e.state] ∨
      s.tooling.terminalStates toolCallId = [] ∧ s.Owed toolCallId
  processed : ∀ toolCallId ∈ s.processed, s.WillEnd toolCallId

/-- **A call that has ended keeps its state, the hash of its result and its error.** -/
def KeepsEnds (s t : Calls) : Prop :=
  ∀ toolCallId e, s.tooling.endOf? toolCallId = some e → e.state.isTerminal = true →
    t.tooling.endOf? toolCallId = some e

/-! ## 5. Steps that fit -/

/-- The call has not ended. -/
def Tooling.Open (s : Tooling) (toolCallId : ToolCallId) : Prop :=
  ∀ e, s.endOf? toolCallId = some e → e.state.isTerminal = false

/-- The call has not ended otherwise. -/
def Tooling.MayEnd (digest : Digest) (s : Tooling) (toolCallId : ToolCallId)
    (ending : ToolCallEnd) : Prop :=
  ∀ e, s.endOf? toolCallId = some e → e.state.isTerminal = true → e = ending.recorded digest

/-- The call has ended so, and no event says so yet. -/
def Tooling.MayReport (s : Tooling) (toolCallId : ToolCallId) (ending : ToolCallEnd) : Prop :=
  ∀ e, s.endOf? toolCallId = some e → e.state = ending.state ∧ s.terminalStates toolCallId = []

/-- The handling of a result may end: its call has ended, or some other task ends it. -/
def Calls.MayLeave (s : Calls) (frame : ResultFrame) : Prop :=
  ∀ command toolCallId, s.db.commandOf? frame.commandId = some command →
    commandToolCall? command = some toolCallId → s.WillEnd toolCallId

/-- Does a statement of a result end its handling? -/
def ToolStatement.stops (digest : Digest) (now : DateTime) (s : Tooling) : ToolStatement → Bool
  | terminalEvent event => event.contractVersion != toolingContractVersionV1
  | statement => !(statement.run digest now s).isOk

section Fits

variable (decoders : ResultDecoders) (digest : Digest)

/-- A step of a request fits what is stored. -/
def RequestStep.Fits (s : Tooling) (toolCallId : ToolCallId) : RequestStep → Prop
  | write (.setState _) | write .markStarted => s.Open toolCallId
  | finish ending => s.MayEnd digest toolCallId ending
  | finished ending => s.MayReport toolCallId ending
  | _ => True

/-- A step of a result fits what is stored and what else is in hand. -/
def ResultStep.Fits (s : Calls) (frame : ResultFrame) (now : DateTime) : ResultStep → Prop
  | project => projectSteps decoders s frame = none → s.MayLeave frame
  | .statement write => write.stops digest now s.tooling = true → s.MayLeave frame
  | finish toolCallId ending => s.tooling.MayEnd digest toolCallId ending
  | finished toolCallId ending => s.tooling.MayReport toolCallId ending ∧
      (s.tooling.endOf? toolCallId = none → s.MayLeave frame)
  | notify => s.MayLeave frame
  | _ => True

/-- The next step of a task fits. -/
def CallTask.Fits (s : Calls) (now : DateTime) : CallTask → Prop
  | request call (step :: _) => step.Fits digest s.tooling call.toolCallId
  | result frame (step :: _) => step.Fits decoders digest s frame now
  | _ => True

/-- A task can be dropped: it neither owes an event that nobody else appends, nor is it the only one
    that ends a call for which a result was processed. -/
structure CallTask.MayDrop (s : Calls) (task : CallTask) : Prop where
  owes : ∀ toolCallId e, task.Owes toolCallId → s.tooling.endOf? toolCallId = some e →
    e.state.isTerminal = true → s.tooling.terminalStates toolCallId = [] → s.Owed toolCallId
  ends : ∀ toolCallId ∈ s.processed, task.Ends toolCallId → s.WillEnd toolCallId

/-- **A step fits what is stored and what is in hand**: a call is ended, reported or restarted only
    as long as it has not ended otherwise or been reported, and it is given up only when it has
    ended or another task ends it. -/
def Calls.Fits (s : Calls) : CallAction → Prop
  | .advance position input => ∀ task, s.tasks[position]? = some task →
      task.Fits decoders digest (s.without position) input.now
  | .drop position => ∀ task, s.tasks[position]? = some task → task.MayDrop (s.without position)
  | _ => True

end Fits

/-! ## 6. What a write does to the ends of calls -/

section Writes

variable {digest : Digest} {s t : Tooling} {toolCallId : ToolCallId}

/-- The ends and the terminal events are the same. -/
structure SameEnds (s t : Tooling) : Prop where
  ends : ∀ j, t.endOf? j = s.endOf? j
  states : ∀ j, t.terminalStates j = s.terminalStates j

theorem SameEnds.of_eq (hcalls : t.toolCalls = s.toolCalls)
    (hevents : t.toolCallEvents = s.toolCallEvents) : SameEnds s t := by
  refine ⟨fun j => ?_, fun j => ?_⟩
  · rw [Tooling.endOf?, hcalls]
    rfl
  · rw [Tooling.terminalStates, hevents]
    rfl

/-- The ends after an update of one call's row. -/
theorem endOf?_of_rows {f : ToolCallRow → ToolCallRow} {g : RecordedEnd → RecordedEnd}
    (hrows : t.toolCalls.rows =
      s.toolCalls.rows.map fun r => if r.toolCallId == toolCallId then f r else r)
    (hf : ∀ r, (f r).toolCallId = r.toolCallId) (hg : ∀ r, (f r).recordedEnd = g r.recordedEnd)
    (j : ToolCallId) :
    t.endOf? j = (s.endOf? j).map fun e => if j = toolCallId then g e else e := by
  have hkeeps : ∀ r : ToolCallRow,
      ((if r.toolCallId == toolCallId then f r else r).toolCallId == j) = (r.toolCallId == j) := by
    intro r
    split
    · rw [hf]
    · rfl
  rw [Tooling.endOf?, findToolCall?, find?_map_rows hrows hkeeps, Tooling.endOf?, findToolCall?]
  cases hfound : s.toolCalls.find? (·.toolCallId == j) with
  | none => rfl
  | some r =>
    have hid : r.toolCallId = j := by simpa using find?_pos hfound
    simp only [Option.map_some, hid, beq_iff_eq]
    split
    · rw [hg]
    · rfl

theorem states_of_append {state : ToolCallState} {payload : JsonValue} {now : DateTime}
    (hevents : t.toolCallEvents =
      appendToolCallEvent s.toolCallEvents toolCallId state payload now) (j : ToolCallId) :
    t.terminalStates j = s.terminalStates j ++
      if j = toolCallId ∧ state.isTerminal = true then [state] else [] := by
  rw [Tooling.terminalStates, hevents, appendToolCallEvent, select_push, List.map_append,
    Tooling.terminalStates]
  congr 1
  by_cases hid : j = toolCallId
  · subst hid
    cases state.isTerminal <;> simp
  · have hne : (toolCallId == j) = false := by simpa using Ne.symm hid
    simp [hne, hid]

/-- A write a request makes before it ends its call. -/
def CallWrite.Tame : CallWrite → Prop
  | event state _ | setState state => state.isTerminal = false
  | insert | finishRow _ | finishEvent _ => False
  | _ => True

/-- What a write makes of its call's end. -/
def CallWrite.restarted (e : RecordedEnd) : CallWrite → RecordedEnd
  | setState state => { e with state }
  | markStarted => { e with state := .started }
  | _ => e

/-- **A write of a request succeeds, appends no terminal event, and changes its own call's end at
    most.** -/
theorem ends_of_write {call : NewCall} {now : DateTime} {write : CallWrite} (htame : write.Tame) :
    ∃ t, write.run digest call now s = .ok t ∧
      (∀ j, t.endOf? j = (s.endOf? j).map fun e =>
        if j = call.toolCallId then write.restarted e else e) ∧
      ∀ j, t.terminalStates j = s.terminalStates j := by
  have hsame : ∀ {t : Tooling}, t.toolCalls = s.toolCalls → ∀ j,
      t.endOf? j = (s.endOf? j).map fun e => if j = call.toolCallId then e else e := by
    intro t hcalls j
    simp only [ite_self, Option.map_id']
    rw [Tooling.endOf?, hcalls]
    rfl
  have hevent : ∀ {t : Tooling} {state : ToolCallState} {payload : JsonValue},
      state.isTerminal = false → t.toolCallEvents =
        appendToolCallEvent s.toolCallEvents call.toolCallId state payload now →
      ∀ j, t.terminalStates j = s.terminalStates j := by
    intro t state payload hstate hevents j
    rw [states_of_append hevents, hstate]
    simp
  cases write with
  | insert => exact htame.elim
  | event state payload => exact ⟨_, rfl, hsame rfl, hevent htame rfl⟩
  | setState state => exact ⟨_, rfl, endOf?_of_rows rfl (fun _ => rfl) (fun _ => rfl), fun _ => rfl⟩
  | snapshot =>
    have hkeeps : SameEnds s
        (persistSessionToolSnapshot s call.request.scope call.definition now) := by
      unfold persistSessionToolSnapshot
      split <;> exact .of_eq rfl rfl
    refine ⟨_, rfl, fun j => ?_, hkeeps.states⟩
    rw [hkeeps.ends]
    simp [CallWrite.restarted]
  | markStarted => exact ⟨_, rfl, endOf?_of_rows rfl (fun _ => rfl) (fun _ => rfl), fun _ => rfl⟩
  | startedEvent => exact ⟨_, rfl, hsame rfl, hevent rfl rfl⟩
  | bindCommand binding =>
    refine ⟨_, rfl, ?_, fun _ => rfl⟩
    cases hupdate : s.toolCalls.update? (·.toolCallId == call.toolCallId)
        (.bindCommand binding) with
    | none => exact hsame rfl
    | some toolCalls =>
      exact endOf?_of_rows (update?_eq_some hupdate) (fun _ => rfl) (fun _ => rfl)
  | finishRow ending => exact htame.elim
  | finishEvent ending => exact htame.elim

theorem endOf?_finishToolCallRow (ending : ToolCallEnd) (now : DateTime) (j : ToolCallId) :
    (finishToolCallRow digest s toolCallId ending now).endOf? j =
      (s.endOf? j).map fun e => if j = toolCallId then ending.recorded digest else e :=
  endOf?_of_rows (f := .finish digest ending.state ending.result ending.error ending.resultRefs now)
    (g := fun _ => ending.recorded digest) rfl (fun _ => rfl) (fun _ => rfl) j

theorem states_finishToolCallEvent {ending : ToolCallEnd} {now : DateTime}
    (hterminal : ending.state.isTerminal = true) (j : ToolCallId) :
    (finishToolCallEvent digest s toolCallId ending now).terminalStates j =
      s.terminalStates j ++ if j = toolCallId then [ending.state] else [] := by
  rw [states_of_append (s := s) rfl, hterminal]
  simp

/-- The row of a new call. -/
theorem endOf?_insert {call : NewCall} {now : DateTime} {toolCalls : Table ToolCallRow}
    (hinsert : s.toolCalls.insert? (requestedRow digest call now) = some toolCalls)
    (j : ToolCallId) : ({ s with toolCalls }).endOf? j =
      (s.endOf? j).or (if j = call.toolCallId then some ⟨.requested, none, none⟩ else none) := by
  rw [Tooling.endOf?, findToolCall?, find?_insert? hinsert, Tooling.endOf?, findToolCall?,
    Option.map_or]
  congr 1
  by_cases hid : j = call.toolCallId
  · subst hid
    simp [requestedRow, ToolCallRow.recordedEnd]
  · have hne : (call.toolCallId == j) = false := by simpa using Ne.symm hid
    simp [requestedRow, hid, hne]

theorem endOf?_eq_none_of_insert {call : NewCall} {now : DateTime} {toolCalls : Table ToolCallRow}
    (hinsert : s.toolCalls.insert? (requestedRow digest call now) = some toolCalls) :
    s.endOf? call.toolCallId = none := by
  rw [Tooling.endOf?, Option.map_eq_none_iff, findToolCall?, find?, List.find?_eq_none]
  intro r hr hid
  exact (insert?_eq_some.mp hinsert).1 ⟨r, hr, Or.inl (beq_iff_eq.mp hid)⟩

/-- The writes of a result that come before the end of a call. -/
theorem sameEnds_statement {now : DateTime} {statement : ToolStatement}
    (hother : ∀ event, statement ≠ .terminalEvent event)
    (hrun : statement.run digest now s = .ok t) : SameEnds s t := by
  cases statement with
  | dependency status =>
    obtain ⟨_, _, _, rfl⟩ := upsertDependency_eq_ok.mp hrun
    exact .of_eq rfl rfl
  | connection status =>
    cases hrun
    unfold updateConnectionFromDependencyStatus
    split <;> exact .of_eq rfl rfl
  | definitions desired =>
    obtain ⟨_, _, _, rfl⟩ := run_definitions_eq_ok.mp hrun
    exact .of_eq rfl rfl
  | terminalEvent event => exact absurd rfl (hother event)

end Writes

/-! ## 7. What a step does to ends that are settled -/

section Settles

variable {digest : Digest} {o u : Calls} {task next : CallTask} {toolCallId : ToolCallId}

/-- What is in hand after a task has taken its step: the others, and what is left of it. -/
structure LeftWith (o : Calls) (next : CallTask) (u : Calls) : Prop where
  owed : ∀ j, u.Owed j ↔ next.Owes j ∨ o.Owed j
  ending : ∀ j, u.Ending j ↔ next.Ends j ∨ o.Ending j

theorem leftWith_put (o : Calls) (next : CallTask) : LeftWith o next (o.put next) := by
  refine ⟨fun j => ?_, fun j => ?_⟩
  · simp [Calls.Owed, Calls.put]
  · simp [Calls.Ending, Calls.put]

theorem leftWith_goesOn (htasks : u.tasks = o.tasks) (next : CallTask) :
    LeftWith o next (u.goesOn next) := by
  have howed : ∀ j, u.Owed j ↔ o.Owed j := by simp [Calls.Owed, htasks]
  have hending : ∀ j, u.Ending j ↔ o.Ending j := by simp [Calls.Ending, htasks]
  have hput := leftWith_put u next
  unfold Calls.goesOn
  split
  · exact ⟨fun j => by simp [CallTask.Owes, howed], fun j => by simp [CallTask.Ends, hending]⟩
  · exact ⟨fun j => by simp [CallTask.Owes, howed], fun j => by simp [CallTask.Ends, hending]⟩
  · exact ⟨fun j => by rw [hput.owed, howed], fun j => by rw [hput.ending, hending]⟩

@[simp] theorem tooling_goesOn (u : Calls) (next : CallTask) :
    (u.goesOn next).tooling = u.tooling := by
  unfold Calls.goesOn
  split <;> rfl

@[simp] theorem processed_goesOn (u : Calls) (next : CallTask) :
    (u.goesOn next).processed = u.processed := by
  unfold Calls.goesOn
  split <;> rfl

variable (hs : (o.put task).Settled) (hleft : LeftWith o next u)

include hs hleft

/-- A step that changes neither ends nor events. -/
theorem settled_of_quiet (hsame : SameEnds o.tooling u.tooling)
    (hprocessed : u.processed = o.processed) (howes : ∀ j, task.Owes j → next.Owes j)
    (hends : ∀ j, task.Ends j → next.Ends j) : KeepsEnds o u ∧ u.Settled := by
  have hput := leftWith_put o task
  refine ⟨fun j e he _ => (hsame.ends j).trans he, fun j e he hopen => ?_,
    fun j e he hterminal => ?_, fun j hj e he => ?_⟩
  · rw [hsame.states]
    exact hs.running j e ((hsame.ends j).symm.trans he) hopen
  · rw [hsame.states]
    refine (hs.ended j e ((hsame.ends j).symm.trans he) hterminal).imp_right ?_
    intro ⟨hnone, howed⟩
    exact ⟨hnone, (hleft.owed j).mpr (((hput.owed j).mp howed).imp_left (howes j))⟩
  · rw [hprocessed] at hj
    refine (hs.processed j hj e ((hsame.ends j).symm.trans he)).imp_right ?_
    exact fun hending => (hleft.ending j).mpr (((hput.ending j).mp hending).imp_left (hends j))

/-- **The writes of a request before it ends its call: they fit unless they restart a call that has
    ended.** -/
theorem settled_write_iff {write : CallWrite} (htame : write.Tame)
    (hrow : ∀ j, u.tooling.endOf? j = (o.tooling.endOf? j).map fun e =>
      if j = toolCallId then write.restarted e else e)
    (hstates : ∀ j, u.tooling.terminalStates j = o.tooling.terminalStates j)
    (hprocessed : u.processed = o.processed) (howes : ∀ j, task.Owes j → next.Owes j)
    (hends : ∀ j, task.Ends j → next.Ends j) :
    KeepsEnds o u ∧ u.Settled ↔ (RequestStep.write write).Fits digest o.tooling toolCallId := by
  have hquiet : (∀ e, write.restarted e = e) → KeepsEnds o u ∧ u.Settled := by
    intro hid
    refine settled_of_quiet hs hleft ⟨fun j => ?_, hstates⟩ hprocessed howes hends
    rw [hrow]
    simp [hid]
  have hrestart : (∀ e, (write.restarted e).state.isTerminal = false) →
      (KeepsEnds o u ∧ u.Settled ↔ o.tooling.Open toolCallId) := by
    intro hopens
    constructor
    · intro ⟨hkeeps, _⟩ e he
      cases hterminal : e.state.isTerminal with
      | false => rfl
      | true =>
        -- the end that was kept is the restarted one
        have hkept := hkeeps toolCallId e he hterminal
        rw [hrow, he, Option.map_some, if_pos rfl, Option.some_inj] at hkept
        have hopen := hopens e
        rw [hkept, hterminal] at hopen
        cases hopen
    · intro hopen
      have hother : ∀ j e, e.state.isTerminal = true → o.tooling.endOf? j = some e →
          u.tooling.endOf? j = some e := by
        intro j e hterminal he
        rw [hrow, he, Option.map_some, if_neg]
        rintro rfl
        rw [hopen e he] at hterminal
        cases hterminal
      have hback : ∀ j e, u.tooling.endOf? j = some e → ∃ e₀, o.tooling.endOf? j = some e₀ ∧
          (e.state.isTerminal = true → e₀ = e) ∧
          (e.state.isTerminal = false → e₀.state.isTerminal = false) := by
        intro j e he
        rw [hrow, Option.map_eq_some_iff] at he
        obtain ⟨e₀, he₀, rfl⟩ := he
        refine ⟨e₀, he₀, ?_⟩
        split
        · rename_i hid
          subst hid
          refine ⟨fun hterminal => ?_, fun _ => hopen e₀ he₀⟩
          rw [hopens] at hterminal
          cases hterminal
        · exact ⟨fun _ => rfl, id⟩
      have hput := leftWith_put o task
      refine ⟨fun j e he hterminal => hother j e hterminal he, fun j e he hnot => ?_,
        fun j e he hterminal => ?_, fun j hj e he => ?_⟩
      · obtain ⟨e₀, he₀, _, hnot₀⟩ := hback j e he
        rw [hstates]
        exact hs.running j e₀ he₀ (hnot₀ hnot)
      · obtain ⟨e₀, he₀, hsame, _⟩ := hback j e he
        obtain rfl := hsame hterminal
        rw [hstates]
        refine (hs.ended j e₀ he₀ hterminal).imp_right fun h => ⟨h.1, ?_⟩
        exact (hleft.owed j).mpr (((hput.owed j).mp h.2).imp_left (howes j))
      · obtain ⟨e₀, he₀, hsame, hnot⟩ := hback j e he
        cases hterminal : e.state.isTerminal with
        | true => exact Or.inl rfl
        | false =>
          rw [hprocessed] at hj
          rcases hs.processed j hj e₀ he₀ with h | h
          · rw [hnot hterminal] at h
            cases h
          · exact Or.inr ((hleft.ending j).mpr (((hput.ending j).mp h).imp_left (hends j)))
  cases write with
  | setState state => exact hrestart fun _ => htame
  | markStarted => exact hrestart fun _ => rfl
  | _ => exact iff_of_true (hquiet fun _ => rfl) trivial

/-- **The update that ends a call fits unless the call has ended otherwise.** -/
theorem settled_finish_iff {ending : ToolCallEnd} (hterminal : ending.state.isTerminal = true)
    (hrow : ∀ j, u.tooling.endOf? j = (o.tooling.endOf? j).map fun e =>
      if j = toolCallId then ending.recorded digest else e)
    (hstates : ∀ j, u.tooling.terminalStates j = o.tooling.terminalStates j)
    (hprocessed : u.processed = o.processed) (howes : ∀ j, ¬ task.Owes j)
    (hnext : next.Owes toolCallId) (hends : ∀ j, j ≠ toolCallId → task.Ends j → next.Ends j) :
    KeepsEnds o u ∧ u.Settled ↔ o.tooling.MayEnd digest toolCallId ending := by
  constructor
  · intro ⟨hkeeps, _⟩ e he hended
    have hkept := hkeeps toolCallId e he hended
    rw [hrow, he, Option.map_some, if_pos rfl, Option.some_inj] at hkept
    exact hkept.symm
  · intro hmay
    have hput := leftWith_put o task
    have hback : ∀ j e, u.tooling.endOf? j = some e → j ≠ toolCallId →
        o.tooling.endOf? j = some e := by
      intro j e he hne
      rw [hrow] at he
      simpa [hne] using he
    have hnew : ∀ e, u.tooling.endOf? toolCallId = some e → e = ending.recorded digest := by
      intro e he
      rw [hrow, Option.map_eq_some_iff] at he
      obtain ⟨e₀, _, rfl⟩ := he
      rw [if_pos rfl]
    refine ⟨fun j e he hended => ?_, fun j e he hopen => ?_, fun j e he hended => ?_,
      fun j hj e he => ?_⟩
    · rw [hrow, he, Option.map_some]
      split
      · rename_i hid
        subst hid
        rw [hmay e he hended]
      · rfl
    · rw [hstates]
      by_cases hid : j = toolCallId
      · subst hid
        have hrecorded : e.state.isTerminal = true := by
          rw [hnew e he]
          exact hterminal
        rw [hrecorded] at hopen
        cases hopen
      · exact hs.running j e (hback j e he hid) hopen
    · rw [hstates]
      by_cases hid : j = toolCallId
      · subst hid
        have howed : u.Owed j := (hleft.owed j).mpr (Or.inl hnext)
        rw [hrow, Option.map_eq_some_iff] at he
        obtain ⟨e₀, he₀, rfl⟩ := he
        rw [if_pos rfl]
        cases hbefore : e₀.state.isTerminal with
        | false => exact Or.inr ⟨hs.running j e₀ he₀ hbefore, howed⟩
        | true =>
          rw [← hmay e₀ he₀ hbefore]
          exact (hs.ended j e₀ he₀ hbefore).imp_right fun h => ⟨h.1, howed⟩
      · refine (hs.ended j e (hback j e he hid) hended).imp_right fun h => ⟨h.1, ?_⟩
        exact (hleft.owed j).mpr (((hput.owed j).mp h.2).imp_left fun h => absurd h (howes j))
    · by_cases hid : j = toolCallId
      · subst hid
        refine Or.inl ?_
        rw [hnew e he]
        exact hterminal
      · rw [hprocessed] at hj
        refine (hs.processed j hj e (hback j e he hid)).imp_right fun h => ?_
        exact (hleft.ending j).mpr (((hput.ending j).mp h).imp_left (hends j hid))

/-- **The event of an end fits unless the call has not ended so, or an event says so already.** -/
theorem settled_finished_iff {ending : ToolCallEnd} (hterminal : ending.state.isTerminal = true)
    (hrow : ∀ j, u.tooling.endOf? j = o.tooling.endOf? j)
    (hstates : ∀ j, u.tooling.terminalStates j = o.tooling.terminalStates j ++
      if j = toolCallId then [ending.state] else [])
    (hprocessed : u.processed = o.processed) (howes : ∀ j, task.Owes j → j = toolCallId)
    (hends : ∀ j, task.Ends j → next.Ends j) :
    KeepsEnds o u ∧ u.Settled ↔ o.tooling.MayReport toolCallId ending := by
  have hnew : u.tooling.terminalStates toolCallId =
      o.tooling.terminalStates toolCallId ++ [ending.state] := by
    rw [hstates, if_pos rfl]
  constructor
  · intro ⟨_, hsettled⟩ e he
    have he' := (hrow toolCallId).trans he
    cases hended : e.state.isTerminal with
    | false =>
      have hnone := hsettled.running toolCallId e he' hended
      rw [hnew] at hnone
      exact absurd hnone (by simp)
    | true =>
      rcases hsettled.ended toolCallId e he' hended with hone | ⟨hnone, _⟩
      · rw [hnew, List.append_eq_singleton_iff] at hone
        rcases hone with ⟨hnone, hstate⟩ | ⟨_, hstate⟩
        · exact ⟨(List.cons.inj hstate).1.symm, hnone⟩
        · cases hstate
      · rw [hnew] at hnone
        exact absurd hnone (by simp)
  · intro hmay
    have hput := leftWith_put o task
    have hother : ∀ j, j ≠ toolCallId →
        u.tooling.terminalStates j = o.tooling.terminalStates j := by
      intro j hid
      rw [hstates, if_neg hid, List.append_nil]
    refine ⟨fun j e he _ => (hrow j).trans he, fun j e he hopen => ?_, fun j e he hended => ?_,
      fun j hj e he => ?_⟩
    · rw [hrow] at he
      by_cases hid : j = toolCallId
      · subst hid
        rw [(hmay e he).1, hterminal] at hopen
        cases hopen
      · rw [hother j hid]
        exact hs.running j e he hopen
    · rw [hrow] at he
      by_cases hid : j = toolCallId
      · subst hid
        left
        rw [hnew, (hmay e he).2, (hmay e he).1, List.nil_append]
      · rw [hother j hid]
        refine (hs.ended j e he hended).imp_right fun h => ⟨h.1, ?_⟩
        exact (hleft.owed j).mpr (((hput.owed j).mp h.2).imp_left fun h => absurd (howes j h) hid)
    · rw [hrow] at he
      rw [hprocessed] at hj
      refine (hs.processed j hj e he).imp_right fun h => ?_
      exact (hleft.ending j).mpr (((hput.ending j).mp h).imp_left (hends j))

/-- **The handling of a result may end when its call has ended or another task ends it.** -/
theorem settled_leave_iff {frame : ResultFrame} (hsame : SameEnds o.tooling u.tooling)
    (hprocessed : u.processed =
      o.processed ++ ((o.db.commandOf? frame.commandId).bind commandToolCall?).toList)
    (howes : ∀ j, task.Owes j → o.tooling.endOf? j = none) (hends : ∀ j, ¬ task.Ends j)
    (hnext : ∀ j, ¬ next.Ends j) : KeepsEnds o u ∧ u.Settled ↔ o.MayLeave frame := by
  have hput := leftWith_put o task
  have hwill : ∀ j, u.WillEnd j ↔ o.WillEnd j := by
    intro j
    unfold Calls.WillEnd
    simp only [hsame.ends, hleft.ending, hnext, false_or]
  constructor
  · intro ⟨_, hsettled⟩ command j hcommand hcall
    refine (hwill j).mp (hsettled.processed j ?_)
    rw [hprocessed, hcommand, Option.bind_some, hcall]
    simp
  · intro hmay
    refine ⟨fun j e he _ => (hsame.ends j).trans he, fun j e he hopen => ?_,
      fun j e he hended => ?_, fun j hj => (hwill j).mpr ?_⟩
    · rw [hsame.ends] at he
      rw [hsame.states]
      exact hs.running j e he hopen
    · rw [hsame.ends] at he
      rw [hsame.states]
      refine (hs.ended j e he hended).imp_right fun h => ⟨h.1, ?_⟩
      rcases (hput.owed j).mp h.2 with h | h
      · rw [howes j h] at he
        cases he
      · exact (hleft.owed j).mpr (Or.inr h)
    · rw [hprocessed, List.mem_append] at hj
      rcases hj with hj | hj
      · intro e he
        refine (hs.processed j hj e he).imp_right fun h => ?_
        exact ((hput.ending j).mp h).resolve_left (hends j)
      · obtain ⟨command, hcommand, hcall⟩ := Option.bind_eq_some_iff.mp (Option.mem_toList.mp hj)
        exact hmay command j hcommand hcall

/-- **A task may be dropped when nothing that is missing is left to it alone.** -/
theorem settled_drop_iff (htooling : u.tooling = o.tooling) (hprocessed : u.processed = o.processed)
    (howes : ∀ j, ¬ next.Owes j) (hends : ∀ j, ¬ next.Ends j) :
    KeepsEnds o u ∧ u.Settled ↔ task.MayDrop o := by
  have hput := leftWith_put o task
  have howed : ∀ j, u.Owed j ↔ o.Owed j := by simp [hleft.owed, howes]
  have hwill : ∀ j, u.WillEnd j ↔ o.WillEnd j := by
    intro j
    unfold Calls.WillEnd
    simp only [htooling, hleft.ending, hends, false_or]
  constructor
  · intro ⟨_, hsettled⟩
    refine ⟨fun j e _ he hended hnone => ?_, fun j hj _ => (hwill j).mp ?_⟩
    · rw [← htooling] at he hnone
      rcases hsettled.ended j e he hended with hone | h
      · rw [hnone] at hone
        cases hone
      · exact (howed j).mp h.2
    · exact hsettled.processed j (by rw [hprocessed]; exact hj)
  · intro hdrop
    refine ⟨fun j e he _ => by rw [htooling]; exact he, fun j e he hopen => ?_,
      fun j e he hended => ?_, fun j hj => (hwill j).mpr ?_⟩
    · rw [htooling] at he ⊢
      exact hs.running j e he hopen
    · rw [htooling] at he ⊢
      refine (hs.ended j e he hended).imp_right fun h => ⟨h.1, (howed j).mpr ?_⟩
      rcases (hput.owed j).mp h.2 with hmine | hother
      · exact hdrop.owes j e hmine he hended h.1
      · exact hother
    · rw [hprocessed] at hj
      by_cases hmine : task.Ends j
      · exact hdrop.ends j hj hmine
      · intro e he
        exact (hs.processed j hj e he).imp_right fun h => ((hput.ending j).mp h).resolve_left hmine

end Settles

/-! ## 8. The steps of a task -/

section Tasks

variable {decoders : ResultDecoders} {digest : Digest}

/-- The commands that are recorded. -/
def Database.envelopes (db : Database) : List CommandEnvelope := db.commands.rows.map (·.command)

theorem envelopes_recordCommand {db db' : Database} {command : CommandEnvelope}
    (h : recordCommand db command = .ok db') : db'.envelopes = db.envelopes ++ [command] := by
  unfold recordCommand at h
  split at h
  · cases h
  · obtain ⟨actors, hactors⟩ := upsertActor_eq db command.actorRef command.issuedAt
    rw [hactors] at h
    dsimp only at h
    split at h
    · cases h
    · rename_i commands hinsert
      cases h
      have hrows : commands.rows = db.commands.rows ++ [.recorded command] :=
        (insert?_eq_some.mp hinsert).2
      show commands.rows.map _ = _
      rw [hrows, List.map_append]
      rfl

theorem envelopes_update {db : Database} {commandId : CommandId} {f : CommandRow → CommandRow}
    {hf : KeepsKeys f} (hcommand : ∀ r, (f r).command = r.command) :
    ({ db with commands := db.commands.update (·.commandId == commandId) f hf }).envelopes =
      db.envelopes := by
  show List.map _ (List.map _ _) = _
  rw [List.map_map]
  refine List.map_congr_left fun r _ => ?_
  show (if r.commandId == commandId then f r else r).command = r.command
  split
  · exact hcommand r
  · rfl

theorem envelopes_updateCommandState (db : Database) (commandId : CommandId)
    (state : CommandState) (now : DateTime) :
    (updateCommandState db commandId state now).envelopes = db.envelopes := by
  rw [Database.envelopes, updateCommandState, dropTerminal_commands]
  exact envelopes_update fun _ => rfl

theorem envelopes_updateCommandResult (db : Database) (commandId : CommandId)
    (state : CommandState) (payload : JsonValue) (now : DateTime) :
    (updateCommandResult db commandId state payload now).envelopes = db.envelopes := by
  rw [Database.envelopes, updateCommandResult, dropTerminal_commands]
  exact envelopes_update fun _ => rfl

/-- What a step holds keeps to the rules of calls. -/
def RequestStep.Sound : RequestStep → Prop
  | write w => w.Tame
  | finish ending | finished ending => ending.state.isTerminal = true
  | _ => True

def ResultStep.Sound : ResultStep → Prop
  | finish _ ending | finished _ ending => ending.state.isTerminal = true
  | _ => True

theorem terminal_endOfRoute (redaction : ToolRedactionPolicy) (outcome : RouteOutcome) :
    (endOfRoute redaction outcome).state.isTerminal = true := by
  unfold endOfRoute
  split <;> rfl

theorem tame_startWrites {write : CallWrite} (h : write ∈ startWrites none) : write.Tame := by
  simp only [startWrites, Option.toList_none, List.map_nil, List.append_nil, List.mem_cons,
    List.not_mem_nil, or_false] at h
  rcases h with rfl | rfl | rfl <;> trivial

theorem sound_preparedSteps (call : NewCall) (available : Bool) :
    ∀ step ∈ preparedSteps call available, step.Sound := by
  intro step hstep
  unfold preparedSteps at hstep
  split at hstep
  · obtain rfl := List.mem_singleton.mp hstep
    rfl
  · split at hstep
    · obtain rfl := List.mem_singleton.mp hstep
      rfl
    · rcases List.mem_append.mp hstep with hstep | hstep
      · obtain ⟨write, hwrite, rfl⟩ := List.mem_map.mp hstep
        exact tame_startWrites hwrite
      · obtain rfl := List.mem_singleton.mp hstep
        trivial

theorem ends_preparedSteps (call : NewCall) (available : Bool) :
    ∃ step ∈ preparedSteps call available, step.ends = true := by
  unfold preparedSteps
  split
  · exact ⟨_, List.mem_singleton_self _, rfl⟩
  · split
    · exact ⟨_, List.mem_singleton_self _, rfl⟩
    · exact ⟨.route, by simp, rfl⟩

theorem sound_requestSteps (call : NewCall) : ∀ step ∈ requestSteps call, step.Sound := by
  intro step hstep
  unfold requestSteps at hstep
  rcases List.mem_cons.mp hstep with rfl | hstep
  · rfl
  · split at hstep
    · obtain rfl := List.mem_singleton.mp hstep
      rfl
    · obtain ⟨write, hwrite, rfl⟩ := List.mem_map.mp hstep
      simp only [approvalWrites, List.mem_cons, List.not_mem_nil, or_false] at hwrite
      rcases hwrite with rfl | rfl <;> rfl
    · rcases List.mem_append.mp hstep with hstep | hstep
      · obtain ⟨write, hwrite, rfl⟩ := List.mem_map.mp hstep
        obtain rfl := List.mem_singleton.mp hwrite
        rfl
      · obtain rfl := List.mem_singleton.mp hstep
        trivial

/-- What a step of a request that neither writes the row's end nor its event does. -/
structure RequestGoes (s : Calls) (call : NewCall) (step : RequestStep) (rest : List RequestStep)
    (t : Calls) (todo : List RequestStep) : Prop where
  same : SameEnds s.tooling t.tooling
  processed : t.processed = s.processed
  tasks : t.tasks = s.tasks
  commands : ∀ command ∈ t.db.envelopes,
    command ∈ s.db.envelopes ∨ commandToolCall? command = some call.toolCallId
  sound : (∀ x ∈ rest, x.Sound) → ∀ x ∈ todo, x.Sound
  ends : (∃ x ∈ step :: rest, x.ends = true) → ∃ x ∈ todo, x.ends = true

/-- The step of a request that is not about the row of its call. -/
def RequestStep.Plain : RequestStep → Prop
  | write _ | finish _ | finished _ => False
  | _ => True

theorem SameEnds.refl (s : Tooling) : SameEnds s s := ⟨fun _ => rfl, fun _ => rfl⟩

/-- **A step that is not about the row leads on to the end of the call.** -/
theorem goes_requestStep {s : Calls} {call : NewCall} {input : CallInput} {step : RequestStep}
    {rest : List RequestStep} (hplain : step.Plain) :
    RequestGoes s call step rest (s.requestStep decoders digest call input rest step).1
      (s.requestStep decoders digest call input rest step).2 := by
  -- the tables of the calls stay, and what is done next is one of a few steps
  have hon : ∀ {t : Calls} {todo : List RequestStep}, SameEnds s.tooling t.tooling →
      t.processed = s.processed → t.tasks = s.tasks → (∀ command ∈ t.db.envelopes,
        command ∈ s.db.envelopes ∨ commandToolCall? command = some call.toolCallId) →
      (∀ x ∈ todo, x.Sound) → (∃ x ∈ todo, x.ends = true) →
      RequestGoes s call step rest t todo :=
    fun hsame hprocessed htasks hcommands hsound hends =>
      ⟨hsame, hprocessed, htasks, hcommands, fun _ => hsound, fun _ => hends⟩
  have hleave : ∀ commandId outcome, RequestGoes s call step rest
      (s.leaveRoute call commandId outcome).1 (s.leaveRoute call commandId outcome).2 :=
    fun commandId outcome => hon (.refl _) rfl rfl (fun _ => Or.inl)
      (by simp [Calls.leaveRoute, RequestStep.Sound, terminal_endOfRoute])
      (by simp [Calls.leaveRoute, RequestStep.ends])
  have hrecorded : ∀ {error : Option AppError} {db : Database} {command : CommandEnvelope},
      recordUnless error s.db command = .ok db →
      commandToolCall? command = some call.toolCallId → ∀ x ∈ db.envelopes,
        x ∈ s.db.envelopes ∨ commandToolCall? x = some call.toolCallId := by
    intro error db command hrecord hcall x hx
    unfold recordUnless at hrecord
    split at hrecord
    · cases hrecord
    · rw [envelopes_recordCommand hrecord, List.mem_append, List.mem_singleton] at hx
      refine hx.imp_right ?_
      rintro rfl
      exact hcall
  cases step with
  | write w => exact hplain.elim
  | finish ending => exact hplain.elim
  | finished ending => exact hplain.elim
  | prepare =>
    exact hon (.refl _) rfl rfl (fun _ => Or.inl) (sound_preparedSteps call input.available)
      (ends_preparedSteps call input.available)
  | route =>
    dsimp only [Calls.requestStep]
    split
    · exact hon (.refl _) rfl rfl (fun _ => Or.inl)
        (by simp [RequestStep.Sound, terminal_endOfRoute]) (by simp [RequestStep.ends])
    · exact hon (.refl _) rfl rfl (fun _ => Or.inl) (by simp [RequestStep.Sound])
        (by simp [RequestStep.ends])
  | bind commandId route =>
    dsimp only [Calls.requestStep]
    split
    · exact hleave _ _
    · obtain ⟨t, ht, hends, hstates⟩ := (@ends_of_write digest s.tooling call input.now
          (.bindCommand (route.binding commandId))) trivial
      rw [Calls.writeCall, ht]
      refine hon ⟨fun j => ?_, hstates⟩ rfl rfl (fun _ => Or.inl) (by simp [RequestStep.Sound])
        (by simp [RequestStep.ends])
      rw [hends]
      simp [CallWrite.restarted]
  | record commandId route =>
    dsimp only [Calls.requestStep]
    split
    · exact hleave _ _
    · rename_i db hrecord
      refine hon (.refl _) rfl rfl (fun command hmem => ?_) (by simp [RequestStep.Sound])
        (by simp [RequestStep.ends])
      exact hrecorded hrecord rfl command hmem
  | pend commandId route =>
    dsimp only [Calls.requestStep]
    split
    · exact hleave _ _
    · refine hon (.refl _) rfl rfl (fun command hmem => Or.inl ?_) (by simp [RequestStep.Sound])
        (by simp [RequestStep.ends])
      rwa [← envelopes_updateCommandState]
  | dispatch commandId route =>
    dsimp only [Calls.requestStep]
    split
    · exact hleave _ _
    · exact hon (.refl _) rfl rfl (fun _ => Or.inl) (by simp [RequestStep.Sound])
        (by simp [RequestStep.ends])
  | await commandId route =>
    dsimp only [Calls.requestStep]
    split
    · exact hleave _ _
    · exact hon (.refl _) rfl rfl (fun _ => Or.inl) (by simp [RequestStep.Sound])
        (by simp [RequestStep.ends])
  | cancel commandId route =>
    dsimp only [Calls.requestStep]
    split
    · exact hon (.refl _) rfl rfl (fun _ => Or.inl)
        (by simp [RequestStep.Sound, terminal_endOfRoute]) (by simp [RequestStep.ends])
    · rename_i db hrecord
      refine hon (.refl _) rfl rfl (fun command hmem => ?_)
        (by simp [RequestStep.Sound, terminal_endOfRoute]) (by simp [RequestStep.ends])
      rw [envelopes_updateCommandState] at hmem
      exact hrecorded hrecord rfl command hmem
  | release commandId =>
    refine ⟨.refl _, rfl, rfl, fun _ => Or.inl, fun hsound => hsound, fun ⟨x, hx, hends⟩ => ?_⟩
    rcases List.mem_cons.mp hx with rfl | hx
    · cases hends
    · exact ⟨x, hx, hends⟩

/-- A task's steps are sound, and the call of a request has its row. -/
def CallTask.Sound (s : Tooling) : CallTask → Prop
  | request call todo => (s.endOf? call.toolCallId).isSome ∧ ∀ step ∈ todo, step.Sound
  | result _ todo => ∀ step ∈ todo, step.Sound

/-- What is left after a step that ends no call ends the call all the same. -/
theorem ends_tail {call : NewCall} {step : RequestStep} {rest : List RequestStep}
    (hstep : step.ends = false) (j : ToolCallId)
    (h : CallTask.Ends j (.request call (step :: rest))) :
    CallTask.Ends j (.request call rest) := by
  obtain ⟨hid, x, hx, hends⟩ := h
  rcases List.mem_cons.mp hx with rfl | hx
  · rw [hstep] at hends
    cases hends
  · exact ⟨hid, x, hx, hends⟩

/-- **A step of a request fits exactly when it keeps what has ended and leads on to what is
    settled.** -/
theorem settled_request_iff {o : Calls} {call : NewCall} {step : RequestStep}
    {rest : List RequestStep} {input : CallInput}
    (hs : (o.put (.request call (step :: rest))).Settled) (hsound : step.Sound) :
    KeepsEnds o (o.advance decoders digest input (.request call (step :: rest))) ∧
      (o.advance decoders digest input (.request call (step :: rest))).Settled ↔
        step.Fits digest o.tooling call.toolCallId := by
  have hplain : step.Plain →
      KeepsEnds o (o.advance decoders digest input (.request call (step :: rest))) ∧
        (o.advance decoders digest input (.request call (step :: rest))).Settled := by
    intro hplain
    have hgoes := (@goes_requestStep decoders digest o call input _ rest) hplain
    refine settled_of_quiet hs (leftWith_goesOn hgoes.tasks _) ?_ ?_ (fun j h => ?_)
      fun j h => ⟨h.1, hgoes.ends h.2⟩
    · show SameEnds o.tooling (Calls.goesOn _ _).tooling
      rw [tooling_goesOn]
      exact hgoes.same
    · show (Calls.goesOn _ _).processed = o.processed
      rw [processed_goesOn]
      exact hgoes.processed
    · cases step <;> first | exact h.elim | exact hplain.elim
  cases step with
  | write w =>
    obtain ⟨t, ht, hrow, hstates⟩ := (@ends_of_write digest o.tooling call input.now) hsound
    have hadvance : o.advance decoders digest input (.request call (.write w :: rest)) =
        Calls.goesOn { o with tooling := t } (.request call rest) := by
      rw [Calls.advance, Calls.requestStep, Calls.writeCall, ht]
    rw [hadvance]
    have hleft : LeftWith o (.request call rest)
        (Calls.goesOn { o with tooling := t } (.request call rest)) :=
      leftWith_goesOn (o := o) (u := { o with tooling := t }) rfl _
    refine settled_write_iff hs hleft hsound ?_ ?_ ?_ (fun j h => h.elim) (ends_tail rfl)
    · rw [tooling_goesOn]
      exact hrow
    · rw [tooling_goesOn]
      exact hstates
    · rw [processed_goesOn]
  | finish ending =>
    have hleft : LeftWith o (.request call (.finished ending :: rest))
        (o.advance decoders digest input (.request call (.finish ending :: rest))) :=
      leftWith_goesOn (o := o) (u := { o with
        tooling := finishToolCallRow digest o.tooling call.toolCallId ending input.now }) rfl _
    refine settled_finish_iff hs hleft hsound ?_ ?_ ?_ (fun j h => h) rfl
      fun j hne h => absurd h.1.symm hne
    · show ∀ j, (Calls.goesOn _ _).tooling.endOf? j = _
      rw [tooling_goesOn]
      exact endOf?_finishToolCallRow ending input.now
    · show ∀ j, (Calls.goesOn _ _).tooling.terminalStates j = _
      rw [tooling_goesOn]
      exact fun _ => rfl
    · show (Calls.goesOn _ _).processed = _
      rw [processed_goesOn]
  | finished ending =>
    have hleft : LeftWith o (.request call rest)
        (o.advance decoders digest input (.request call (.finished ending :: rest))) :=
      leftWith_goesOn (o := o) (u := { o with
        tooling := finishToolCallEvent digest o.tooling call.toolCallId ending input.now }) rfl _
    refine settled_finished_iff hs hleft hsound ?_ ?_ ?_ (fun j h => h.symm) (ends_tail rfl)
    · show ∀ j, (Calls.goesOn _ _).tooling.endOf? j = _
      rw [tooling_goesOn]
      exact fun _ => rfl
    · show ∀ j, (Calls.goesOn _ _).tooling.terminalStates j = _
      rw [tooling_goesOn]
      exact states_finishToolCallEvent hsound
    · show (Calls.goesOn _ _).processed = _
      rw [processed_goesOn]
  | _ => exact iff_of_true (hplain trivial) trivial

theorem resultStep_statement {s : Calls} {frame : ResultFrame} {now : DateTime}
    {rest : List ResultStep} {statement : ToolStatement}
    (hother : ∀ event, statement ≠ .terminalEvent event) :
    s.resultStep decoders digest frame now rest (.statement statement) =
      match statement.run digest now s.tooling with
      | .error _ => s.processedResult frame
      | .ok tooling => ({ s with tooling }, rest) := by
  cases statement with
  | terminalEvent event => exact absurd rfl (hother event)
  | _ => rfl

theorem stops_statement {s : Tooling} {now : DateTime} {statement : ToolStatement}
    (hother : ∀ event, statement ≠ .terminalEvent event) :
    statement.stops digest now s = !(statement.run digest now s).isOk := by
  cases statement with
  | terminalEvent event => exact absurd rfl (hother event)
  | _ => rfl

/-- **A step of a result fits exactly when it keeps what has ended and leads on to what is
    settled.** -/
theorem settled_result_iff {o : Calls} {frame : ResultFrame} {step : ResultStep}
    {rest : List ResultStep} {input : CallInput}
    (hs : (o.put (.result frame (step :: rest))).Settled) (hsound : step.Sound) :
    KeepsEnds o (o.advance decoders digest input (.result frame (step :: rest))) ∧
      (o.advance decoders digest input (.result frame (step :: rest))).Settled ↔
        step.Fits decoders digest o frame input.now := by
  -- a step that goes on, and one with which the handling is over
  have hon : ∀ {t : Calls} {todo : List ResultStep},
      o.resultStep decoders digest frame input.now rest step = (t, todo) →
      SameEnds o.tooling t.tooling → t.processed = o.processed → t.tasks = o.tasks →
      (∀ j, ¬ CallTask.Owes j (.result frame (step :: rest))) →
      (∀ j, ¬ CallTask.Ends j (.result frame (step :: rest))) →
      KeepsEnds o (o.advance decoders digest input (.result frame (step :: rest))) ∧
        (o.advance decoders digest input (.result frame (step :: rest))).Settled := by
    intro t todo hstep hsame hprocessed htasks howes hends
    have hadvance : o.advance decoders digest input (.result frame (step :: rest)) =
        t.goesOn (.result frame todo) := by
      rw [Calls.advance, hstep]
    rw [hadvance]
    refine settled_of_quiet hs (leftWith_goesOn htasks _) ?_ ?_ (fun j h => absurd h (howes j))
      fun j h => absurd h (hends j)
    · rw [tooling_goesOn]
      exact hsame
    · rw [processed_goesOn]
      exact hprocessed
  have hover : ∀ {t : Calls}, o.resultStep decoders digest frame input.now rest step =
        t.processedResult frame → t.tooling = o.tooling → t.processed = o.processed →
      t.tasks = o.tasks → t.db = o.db →
      (∀ j, CallTask.Owes j (.result frame (step :: rest)) → o.tooling.endOf? j = none) →
      (∀ j, ¬ CallTask.Ends j (.result frame (step :: rest))) →
      (KeepsEnds o (o.advance decoders digest input (.result frame (step :: rest))) ∧
        (o.advance decoders digest input (.result frame (step :: rest))).Settled ↔
          o.MayLeave frame) := by
    intro t hstep htooling hprocessed htasks hdb howes hends
    have hadvance : o.advance decoders digest input (.result frame (step :: rest)) =
        (t.processedResult frame).1 := by
      rw [Calls.advance, hstep]
      rfl
    have hleft : LeftWith o (.result frame []) (t.processedResult frame).1 :=
      leftWith_goesOn (o := o) (u := (t.processedResult frame).1) htasks (.result frame [])
    rw [hadvance]
    refine settled_leave_iff hs hleft (.of_eq ?_ ?_) ?_ howes hends fun j h => h
    · exact congrArg (·.toolCalls) htooling
    · exact congrArg (·.toolCallEvents) htooling
    · show t.processed ++ ((t.db.commandOf? _).bind _).toList = _
      rw [hprocessed, hdb]
  have hwrite : ∀ {statement : ToolStatement}, step = .statement statement →
      (∀ event, statement ≠ .terminalEvent event) →
      (KeepsEnds o (o.advance decoders digest input (.result frame (step :: rest))) ∧
        (o.advance decoders digest input (.result frame (step :: rest))).Settled ↔
          step.Fits decoders digest o frame input.now) := by
    rintro statement rfl hother
    have hstep := (@resultStep_statement decoders digest o frame input.now rest) hother
    rw [ResultStep.Fits, stops_statement hother]
    cases hrun : statement.run digest input.now o.tooling with
    | error e =>
      rw [hrun] at hstep
      refine (@hover o hstep rfl rfl rfl rfl (fun j h => h.elim) fun j h => h).trans ?_
      exact ⟨fun h _ => h, fun h => h rfl⟩
    | ok tooling =>
      rw [hrun] at hstep
      exact iff_of_true (hon hstep (sameEnds_statement hother hrun) rfl rfl (fun j h => h)
        fun j h => h) fun h => (by cases h)
  cases step with
  | validate =>
    refine iff_of_true ?_ trivial
    cases hcheck : validateCommandResult decoders.check o.db frame.nodeId frame.commandId
        frame.status frame.durable with
    | error e =>
      exact @hon o [] (by rw [Calls.resultStep, hcheck]) (.refl _) rfl rfl
        (fun j h => h) fun j h => h
    | ok _ =>
      exact @hon o rest (by rw [Calls.resultStep, hcheck]) (.refl _) rfl rfl
        (fun j h => h) fun j h => h
  | update => exact iff_of_true (hon rfl (.refl _) rfl rfl (fun j h => h) fun j h => h) trivial
  | project =>
    cases hsteps : projectSteps decoders o frame with
    | none =>
      refine (@hover o (by rw [Calls.resultStep, hsteps]) rfl rfl rfl rfl (fun j h => h.elim)
        fun j h => h).trans ?_
      exact ⟨fun h _ => h, fun h => h hsteps⟩
    | some steps =>
      refine iff_of_true (hon (t := o) (by rw [Calls.resultStep, hsteps]) (.refl _) rfl rfl
        (fun j h => h) fun j h => h) fun h => ?_
      rw [hsteps] at h
      cases h
  | statement statement =>
    cases statement with
    | terminalEvent event =>
      by_cases hversion : event.contractVersion = toolingContractVersionV1
      · refine iff_of_true ?_ fun h => ?_
        · cases hterminal : terminalToolingEvent event.payload with
          | none =>
            exact @hon o rest
              (by rw [Calls.resultStep, if_neg (by simpa using hversion), hterminal]) (.refl _) rfl
              rfl (fun j h => h) fun j h => h
          | some ended =>
            exact @hon o (.finish ended.1 ended.2 :: rest)
              (by rw [Calls.resultStep, if_neg (by simpa using hversion), hterminal]) (.refl _) rfl
              rfl (fun j h => h) fun j h => h
        · rw [ToolStatement.stops, hversion] at h
          cases h
      · refine (@hover o (by rw [Calls.resultStep, if_pos hversion]) rfl rfl rfl rfl
          (fun j h => h.elim) fun j h => h).trans ?_
        exact ⟨fun h _ => h, fun h => h (by simpa [ToolStatement.stops] using hversion)⟩
    | dependency status => exact hwrite rfl fun event h => by cases h
    | connection status => exact hwrite rfl fun event h => by cases h
    | definitions desired => exact hwrite rfl fun event h => by cases h
  | finish toolCallId ending =>
    have hleft : LeftWith o (.result frame (.finished toolCallId ending :: rest))
        (o.advance decoders digest input (.result frame (.finish toolCallId ending :: rest))) :=
      leftWith_goesOn (o := o) (u := { o with
        tooling := finishToolCallRow digest o.tooling toolCallId ending input.now }) rfl _
    refine settled_finish_iff hs hleft hsound ?_ ?_ ?_ (fun j h => h) rfl
      fun j hne h => absurd (show toolCallId = j from h).symm hne
    · show ∀ j, (Calls.goesOn _ _).tooling.endOf? j = _
      rw [tooling_goesOn]
      exact endOf?_finishToolCallRow ending input.now
    · show ∀ j, (Calls.goesOn _ _).tooling.terminalStates j = _
      rw [tooling_goesOn]
      exact fun _ => rfl
    · show (Calls.goesOn _ _).processed = _
      rw [processed_goesOn]
  | finished toolCallId ending =>
    cases hfound : findToolCall? o.tooling.toolCalls toolCallId with
    | none =>
      have hnone : o.tooling.endOf? toolCallId = none := by
        rw [Tooling.endOf?, hfound, Option.map_none]
      refine (@hover o (by rw [Calls.resultStep, hfound]) rfl rfl rfl rfl (fun j h => ?_)
        fun j h => h).trans ?_
      · obtain rfl : toolCallId = j := h
        exact hnone
      · refine ⟨fun h => ⟨fun e he => ?_, fun _ => h⟩, fun h => h.2 hnone⟩
        rw [hnone] at he
        cases he
    | some r =>
      have hadvance : o.advance decoders digest input
          (.result frame (.finished toolCallId ending :: rest)) = Calls.goesOn { o with
            tooling := finishToolCallEvent digest o.tooling toolCallId ending input.now }
              (.result frame rest) := by
        rw [Calls.advance, Calls.resultStep, hfound]
      have hleft : LeftWith o (.result frame rest) (Calls.goesOn { o with
            tooling := finishToolCallEvent digest o.tooling toolCallId ending input.now }
              (.result frame rest)) :=
        leftWith_goesOn (o := o) (u := { o with
          tooling := finishToolCallEvent digest o.tooling toolCallId ending input.now }) rfl _
      rw [hadvance]
      refine (@settled_finished_iff _ _ _ _ toolCallId hs hleft ending hsound
        ?_ ?_ ?_ (fun j h => ?_) fun j h => h.elim).trans ?_
      · rw [tooling_goesOn]
        exact fun _ => rfl
      · rw [tooling_goesOn]
        exact states_finishToolCallEvent hsound
      · rw [processed_goesOn]
      · exact (show toolCallId = j from h).symm
      · refine ⟨fun h => ⟨h, fun hnone => ?_⟩, fun h => h.1⟩
        rw [Tooling.endOf?, hfound] at hnone
        cases hnone
  | notify =>
    exact hover (t := { o with
      waiters := o.waiters.filter (· != frame.commandId)
      delivered := if o.waiters.contains frame.commandId then
          o.delivered ++ [⟨frame.commandId, frame.status, frame.payload⟩]
        else o.delivered }) rfl rfl rfl rfl rfl (fun j h => h.elim) fun j h => h

end Tasks

/-! ## 9. What stays true of every run -/

section Runs

variable {decoders : ResultDecoders} {digest : Digest} {o s t : Calls}

/-- Events, commands, results and requests are about calls that have a row, and what is in hand
    keeps to the rules of calls. -/
structure Calls.Sound (s : Calls) : Prop where
  events : ∀ j, s.tooling.endOf? j = none → s.tooling.terminalStates j = []
  commands : ∀ command ∈ s.db.envelopes, ∀ j, commandToolCall? command = some j →
    (s.tooling.endOf? j).isSome
  processed : ∀ j ∈ s.processed, (s.tooling.endOf? j).isSome
  tasks : ∀ task ∈ s.tasks, task.Sound s.tooling

/-- No row is deleted. -/
def Tooling.Grows (s t : Tooling) : Prop := ∀ j, (s.endOf? j).isSome → (t.endOf? j).isSome

theorem SameEnds.grows {s t : Tooling} (h : SameEnds s t) : s.Grows t := fun j hj => by
  rw [h.ends]
  exact hj

theorem grows_of_map {s t : Tooling} {g : ToolCallId → RecordedEnd → RecordedEnd}
    (h : ∀ j, t.endOf? j = (s.endOf? j).map (g j)) : s.Grows t := fun j hj => by
  rw [h, Option.isSome_map]
  exact hj

theorem endOf?_eq_none_of_grows {s t : Tooling} (h : s.Grows t) {j : ToolCallId}
    (hj : t.endOf? j = none) : s.endOf? j = none := by
  cases hs : s.endOf? j with
  | none => rfl
  | some e =>
    have hsome := h j (by rw [hs]; rfl)
    rw [hj] at hsome
    cases hsome

theorem CallTask.Sound.grows {s t : Tooling} {task : CallTask} (hg : s.Grows t)
    (h : task.Sound s) : task.Sound t := by
  cases task with
  | request call todo => exact ⟨hg _ h.1, h.2⟩
  | result frame todo => exact h

theorem sound_put_iff {task : CallTask} :
    (o.put task).Sound ↔ o.Sound ∧ task.Sound o.tooling := by
  constructor
  · intro h
    exact ⟨⟨h.events, h.commands, h.processed, fun x hx => h.tasks x (List.mem_cons_of_mem _ hx)⟩,
      h.tasks task List.mem_cons_self⟩
  · intro ⟨h, htask⟩
    refine ⟨h.events, h.commands, h.processed, fun x hx => ?_⟩
    rcases List.mem_cons.mp hx with rfl | hx
    · exact htask
    · exact h.tasks x hx

theorem Calls.Sound.goesOn {next : CallTask} (h : t.Sound) (hnext : next.Sound t.tooling) :
    (t.goesOn next).Sound := by
  unfold Calls.goesOn
  split
  · exact h
  · exact h
  · exact sound_put_iff.mpr ⟨h, hnext⟩

/-- What a step of a task has to keep. -/
theorem Calls.Sound.step (h : o.Sound) (hgrows : o.tooling.Grows t.tooling)
    (hevents : ∀ j, t.tooling.endOf? j = none → t.tooling.terminalStates j = [])
    (hcommands : ∀ command ∈ t.db.envelopes, command ∈ o.db.envelopes ∨
      ∀ j, commandToolCall? command = some j → (t.tooling.endOf? j).isSome)
    (hprocessed : ∀ j ∈ t.processed, j ∈ o.processed ∨ (t.tooling.endOf? j).isSome)
    (htasks : t.tasks = o.tasks) : t.Sound where
  events := hevents
  commands := fun command hcommand j hj =>
    (hcommands command hcommand).elim (fun hold => hgrows j (h.commands command hold j hj))
      fun hnew => hnew j hj
  processed := fun j hj => (hprocessed j hj).elim (fun hold => hgrows j (h.processed j hold)) id
  tasks := fun task htask => (h.tasks task (htasks ▸ htask)).grows hgrows

/-- A step that changes neither ends nor events, and no commands. -/
theorem Calls.Sound.same (h : o.Sound) (hsame : SameEnds o.tooling t.tooling)
    (hcommands : t.db.envelopes = o.db.envelopes) (hprocessed : t.processed = o.processed)
    (htasks : t.tasks = o.tasks) : t.Sound := by
  refine h.step hsame.grows (fun j hj => ?_) (fun command hcommand => Or.inl ?_)
    (fun j hj => Or.inl ?_) htasks
  · rw [hsame.ends] at hj
    rw [hsame.states]
    exact h.events j hj
  · rwa [← hcommands]
  · rwa [← hprocessed]

theorem sound_finishRow (h : o.Sound) (toolCallId : ToolCallId) (ending : ToolCallEnd)
    (now : DateTime) : Calls.Sound
      { o with tooling := finishToolCallRow digest o.tooling toolCallId ending now } := by
  have hgrows : o.tooling.Grows (finishToolCallRow digest o.tooling toolCallId ending now) :=
    grows_of_map (endOf?_finishToolCallRow ending now)
  exact h.step hgrows (fun j hj => h.events j (endOf?_eq_none_of_grows hgrows hj))
    (fun _ => Or.inl) (fun _ => Or.inl) rfl

theorem sound_finishEvent (h : o.Sound) {toolCallId : ToolCallId} {ending : ToolCallEnd}
    (hterminal : ending.state.isTerminal = true)
    (hsome : (o.tooling.endOf? toolCallId).isSome) (now : DateTime) : Calls.Sound
      { o with tooling := finishToolCallEvent digest o.tooling toolCallId ending now } := by
  refine h.step (fun _ => id) (fun j hj => ?_) (fun _ => Or.inl) (fun _ => Or.inl) rfl
  have hne : j ≠ toolCallId := by
    rintro rfl
    rw [show o.tooling.endOf? j = none from hj] at hsome
    cases hsome
  rw [states_finishToolCallEvent hterminal, if_neg hne, List.append_nil]
  exact h.events j hj

theorem sound_advance_request {call : NewCall} {todo : List RequestStep} {input : CallInput}
    (ho : o.Sound) (htask : CallTask.Sound o.tooling (.request call todo)) :
    (o.advance decoders digest input (.request call todo)).Sound := by
  obtain ⟨hrow, htodo⟩ := htask
  cases todo with
  | nil => exact ho
  | cons step rest =>
    obtain ⟨hstep, hrest⟩ := List.forall_mem_cons.mp htodo
    have hplain : step.Plain →
        (o.advance decoders digest input (.request call (step :: rest))).Sound := by
      intro hplain
      have hgoes := (@goes_requestStep decoders digest o call input _ rest) hplain
      have hadvance : o.advance decoders digest input (.request call (step :: rest)) =
          (o.requestStep decoders digest call input rest step).1.goesOn
            (.request call (o.requestStep decoders digest call input rest step).2) := rfl
      rw [hadvance]
      generalize o.requestStep decoders digest call input rest step = after at hgoes ⊢
      refine Calls.Sound.goesOn ?_ ⟨hgoes.same.grows _ hrow, hgoes.sound hrest⟩
      refine ho.step hgoes.same.grows (fun j hj => ?_) (fun command hcommand => ?_)
        (fun j hj => Or.inl ?_) hgoes.tasks
      · rw [hgoes.same.ends] at hj
        rw [hgoes.same.states]
        exact ho.events j hj
      · refine (hgoes.commands command hcommand).imp_right fun hcall j hj => ?_
        rw [hcall] at hj
        cases hj
        exact hgoes.same.grows _ hrow
      · rw [← hgoes.processed]
        exact hj
    cases step with
    | write w =>
      obtain ⟨tooling, hrun, hends, hstates⟩ :=
          (@ends_of_write digest o.tooling call input.now) hstep
      have hgrows : o.tooling.Grows tooling := grows_of_map hends
      have hadvance : o.advance decoders digest input (.request call (.write w :: rest)) =
          Calls.goesOn { o with tooling } (.request call rest) := by
        rw [Calls.advance, Calls.requestStep, Calls.writeCall, hrun]
      rw [hadvance]
      refine Calls.Sound.goesOn ?_ ⟨hgrows _ hrow, hrest⟩
      refine ho.step hgrows (fun j hj => ?_) (fun _ => Or.inl) (fun _ => Or.inl) rfl
      rw [hstates]
      exact ho.events j (endOf?_eq_none_of_grows hgrows hj)
    | finish ending =>
      have hnext : CallTask.Sound
          (finishToolCallRow digest o.tooling call.toolCallId ending input.now)
          (.request call (.finished ending :: rest)) :=
        ⟨grows_of_map (endOf?_finishToolCallRow ending input.now) _ hrow,
          List.forall_mem_cons.mpr ⟨hstep, hrest⟩⟩
      exact Calls.Sound.goesOn (sound_finishRow ho call.toolCallId ending input.now) hnext
    | finished ending =>
      have hnext : CallTask.Sound
          (finishToolCallEvent digest o.tooling call.toolCallId ending input.now)
          (.request call rest) := ⟨hrow, hrest⟩
      exact Calls.Sound.goesOn (sound_finishEvent ho hstep hrow input.now) hnext
    | _ => exact hplain trivial

theorem sound_processedResult {frame : ResultFrame} (h : o.Sound) :
    (o.processedResult frame).1.Sound := by
  refine h.step (fun _ => id) h.events (fun _ => Or.inl) (fun j hj => ?_) rfl
  rcases List.mem_append.mp hj with hj | hj
  · exact Or.inl hj
  · right
    obtain ⟨command, hcommand, hcall⟩ := Option.bind_eq_some_iff.mp (Option.mem_toList.mp hj)
    obtain ⟨row, hrow, rfl⟩ := Option.map_eq_some_iff.mp hcommand
    exact h.commands row.command (List.mem_map_of_mem (mem_of_find? hrow)) j hcall

/-- What a result makes of its payload holds no ends yet. -/
theorem sound_projectSteps {frame : ResultFrame} {steps : List ResultStep}
    (h : projectSteps decoders o frame = some steps) : ∀ step ∈ steps, step.Sound := by
  intro step hstep
  unfold projectSteps at h
  split at h
  · cases h
    cases hstep
  · split at h
    · cases h
      cases hstep
    · obtain ⟨result, _, rfl⟩ := Option.map_eq_some_iff.mp h
      obtain ⟨statement, _, rfl⟩ := List.mem_map.mp hstep
      trivial

theorem sound_advance_result {frame : ResultFrame} {todo : List ResultStep} {input : CallInput}
    (ho : o.Sound) (htask : CallTask.Sound o.tooling (.result frame todo)) :
    (o.advance decoders digest input (.result frame todo)).Sound := by
  cases todo with
  | nil => exact ho
  | cons step rest =>
    obtain ⟨hstep, hrest⟩ := List.forall_mem_cons.mp htask
    have hon : ∀ {t : Calls} {todo : List ResultStep},
        o.resultStep decoders digest frame input.now rest step = (t, todo) → t.Sound →
        (∀ x ∈ todo, x.Sound) →
        (o.advance decoders digest input (.result frame (step :: rest))).Sound := by
      intro t todo hrun ht htodo
      rw [Calls.advance, hrun]
      exact ht.goesOn htodo
    have hover : ∀ {t : Calls}, o.resultStep decoders digest frame input.now rest step =
        t.processedResult frame → t.Sound →
        (o.advance decoders digest input (.result frame (step :: rest))).Sound := by
      intro t hrun ht
      rw [Calls.advance, hrun]
      exact sound_processedResult ht
    have hwrite : ∀ {statement : ToolStatement}, step = .statement statement →
        (∀ event, statement ≠ .terminalEvent event) →
        (o.advance decoders digest input (.result frame (step :: rest))).Sound := by
      rintro statement rfl hother
      have hrun := (@resultStep_statement decoders digest o frame input.now rest) hother
      cases hresult : statement.run digest input.now o.tooling with
      | error e =>
        rw [hresult] at hrun
        exact hover hrun ho
      | ok tooling =>
        rw [hresult] at hrun
        exact hon hrun (ho.same (sameEnds_statement hother hresult) rfl rfl rfl) hrest
    cases step with
    | validate =>
      cases hcheck : validateCommandResult decoders.check o.db frame.nodeId frame.commandId
          frame.status frame.durable with
      | error e => exact @hon o [] (by rw [Calls.resultStep, hcheck]) ho (by simp)
      | ok _ => exact hon (t := o) (by rw [Calls.resultStep, hcheck]) ho hrest
    | update =>
      refine hon rfl (ho.same (.refl _) ?_ rfl rfl) hrest
      exact envelopes_updateCommandResult ..
    | project =>
      cases hsteps : projectSteps decoders o frame with
      | none => exact @hover o (by rw [Calls.resultStep, hsteps]) ho
      | some steps =>
        refine hon (t := o) (by rw [Calls.resultStep, hsteps]) ho fun x hx => ?_
        rcases List.mem_append.mp hx with hx | hx
        · exact sound_projectSteps hsteps x hx
        · obtain rfl := List.mem_singleton.mp hx
          trivial
    | statement statement =>
      cases statement with
      | terminalEvent event =>
        by_cases hversion : event.contractVersion = toolingContractVersionV1
        · cases hterminal : terminalToolingEvent event.payload with
          | none =>
            exact hon (t := o)
              (by rw [Calls.resultStep, if_neg (by simpa using hversion), hterminal]) ho hrest
          | some ended =>
            refine @hon o (.finish ended.1 ended.2 :: rest)
              (by rw [Calls.resultStep, if_neg (by simpa using hversion), hterminal]) ho ?_
            exact List.forall_mem_cons.mpr ⟨terminal_of_terminalToolingEvent hterminal, hrest⟩
        · exact @hover o (by rw [Calls.resultStep, if_pos hversion]) ho
      | dependency status => exact hwrite rfl fun event h => by cases h
      | connection status => exact hwrite rfl fun event h => by cases h
      | definitions desired => exact hwrite rfl fun event h => by cases h
    | finish toolCallId ending =>
      exact hon rfl (sound_finishRow ho toolCallId ending input.now)
        (List.forall_mem_cons.mpr ⟨hstep, hrest⟩)
    | finished toolCallId ending =>
      cases hfound : findToolCall? o.tooling.toolCalls toolCallId with
      | none => exact @hover o (by rw [Calls.resultStep, hfound]) ho
      | some r =>
        refine hon (by rw [Calls.resultStep, hfound])
          (@sound_finishEvent _ _ ho toolCallId _ hstep ?_ input.now) hrest
        rw [Tooling.endOf?, hfound]
        rfl
    | notify =>
      exact hover (t := { o with
        waiters := o.waiters.filter (· != frame.commandId)
        delivered := if o.waiters.contains frame.commandId then
            o.delivered ++ [⟨frame.commandId, frame.status, frame.payload⟩]
          else o.delivered }) rfl (ho.same (.refl _) rfl rfl rfl)

/-- The task at a position, and the others. -/
theorem mem_tasks_iff {task : CallTask} {position : Nat} (h : s.tasks[position]? = some task)
    (x : CallTask) : x ∈ ((s.without position).put task).tasks ↔ x ∈ s.tasks := by
  obtain ⟨hlt, rfl⟩ := List.getElem?_eq_some_iff.mp h
  exact (List.getElem_cons_eraseIdx_perm hlt).mem_iff

theorem Calls.Settled.put_without {task : CallTask} {position : Nat} (hs : s.Settled)
    (h : s.tasks[position]? = some task) : ((s.without position).put task).Settled := by
  have howed : ∀ j, s.Owed j → ((s.without position).put task).Owed j :=
    fun j ⟨x, hx, hj⟩ => ⟨x, (mem_tasks_iff h x).mpr hx, hj⟩
  have hending : ∀ j, s.Ending j → ((s.without position).put task).Ending j :=
    fun j ⟨x, hx, hj⟩ => ⟨x, (mem_tasks_iff h x).mpr hx, hj⟩
  exact ⟨hs.running, fun j e he hended => (hs.ended j e he hended).imp_right fun h =>
    ⟨h.1, howed j h.2⟩, fun j hj e he => (hs.processed j hj e he).imp_right (hending j)⟩

theorem Calls.Sound.put_without {task : CallTask} {position : Nat} (hs : s.Sound)
    (h : s.tasks[position]? = some task) : ((s.without position).put task).Sound :=
  ⟨hs.events, hs.commands, hs.processed,
    fun x hx => hs.tasks x ((mem_tasks_iff h x).mp hx)⟩

/-- A new call, with nothing but its row. -/
theorem settled_begin {call : NewCall} {now : DateTime} {toolCalls : Table ToolCallRow}
    {task : CallTask} (hsound : s.Sound) (hs : s.Settled)
    (hinsert : s.tooling.toolCalls.insert? (requestedRow digest call now) = some toolCalls) :
    KeepsEnds s (Calls.put { s with tooling := { s.tooling with toolCalls } } task) ∧
      (Calls.put { s with tooling := { s.tooling with toolCalls } } task).Settled := by
  have hnone := endOf?_eq_none_of_insert hinsert
  have hkeeps : ∀ j e, s.tooling.endOf? j = some e →
      Tooling.endOf? { s.tooling with toolCalls } j = some e := by
    intro j e he
    rw [endOf?_insert hinsert, he, Option.some_or]
  have hback : ∀ j e, Tooling.endOf? { s.tooling with toolCalls } j = some e →
      s.tooling.endOf? j = some e ∨ j = call.toolCallId ∧ e = ⟨.requested, none, none⟩ := by
    intro j e he
    rw [endOf?_insert hinsert, Option.or_eq_some_iff] at he
    rcases he with he | ⟨_, he⟩
    · exact Or.inl he
    · split at he
      · rename_i hid
        exact Or.inr ⟨hid, (Option.some_inj.mp he).symm⟩
      · cases he
  have hput := leftWith_put { s with tooling := { s.tooling with toolCalls } } task
  refine ⟨fun j e he _ => hkeeps j e he, fun j e he hopen => ?_, fun j e he hended => ?_,
    fun j hj e he => ?_⟩
  · rcases hback j e he with he | ⟨rfl, _⟩
    · exact hs.running j e he hopen
    · exact hsound.events _ hnone
  · rcases hback j e he with he | ⟨_, rfl⟩
    · exact (hs.ended j e he hended).imp_right fun h => ⟨h.1, (hput.owed j).mpr (Or.inr h.2)⟩
    · cases hended
  · rcases hback j e he with he | ⟨rfl, _⟩
    · exact (hs.processed j hj e he).imp_right fun h => (hput.ending j).mpr (Or.inr h)
    · have hsome := hsound.processed _ hj
      rw [hnone] at hsome
      cases hsome

theorem sound_begin {call : NewCall} {now : DateTime} {toolCalls : Table ToolCallRow}
    (hsound : s.Sound)
    (hinsert : s.tooling.toolCalls.insert? (requestedRow digest call now) = some toolCalls) :
    (Calls.put { s with tooling := { s.tooling with toolCalls } }
      (.request call (requestSteps call))).Sound := by
  have hgrows : s.tooling.Grows { s.tooling with toolCalls } := by
    intro j hj
    rw [endOf?_insert hinsert, Option.isSome_or, hj, Bool.true_or]
  refine sound_put_iff.mpr ⟨hsound.step hgrows (fun j hj => ?_) (fun _ => Or.inl)
    (fun _ => Or.inl) rfl, ?_, sound_requestSteps call⟩
  · exact hsound.events j (endOf?_eq_none_of_grows hgrows hj)
  · show (Tooling.endOf? { s.tooling with toolCalls } call.toolCallId).isSome
    rw [endOf?_insert hinsert, if_pos rfl, Option.isSome_or, Option.isSome_some, Bool.or_true]

theorem step_begin_eq_some {toolCallId : ToolCallId} {correlationId : CorrelationId}
    {request : ExecuteToolRequest} {now : DateTime}
    (h : s.step decoders digest (.begin toolCallId correlationId request now) = some t) :
    ∃ call toolCalls, s.tooling.toolCalls.insert? (requestedRow digest call now) =
      some toolCalls ∧ t = Calls.put { s with tooling := { s.tooling with toolCalls } }
        (.request call (requestSteps call)) := by
  obtain ⟨definition, _, h⟩ := Option.bind_eq_some_iff.mp h
  obtain ⟨toolCalls, hinsert, rfl⟩ := Option.map_eq_some_iff.mp h
  exact ⟨_, toolCalls, hinsert, rfl⟩

/-- **Each step keeps what stays true of every run.** -/
theorem sound_calls_step {a : CallAction} (hs : s.Sound)
    (h : s.step decoders digest a = some t) : t.Sound := by
  cases a with
  | begin toolCallId correlationId request now =>
    obtain ⟨call, toolCalls, hinsert, rfl⟩ := step_begin_eq_some h
    exact sound_begin hs hinsert
  | nodeResult frame =>
    obtain rfl := Option.some_inj.mp h
    refine sound_put_iff.mpr ⟨hs, fun x hx => ?_⟩
    simp only [resultSteps, List.mem_cons, List.not_mem_nil, or_false] at hx
    rcases hx with rfl | rfl | rfl <;> trivial
  | advance position input =>
    obtain ⟨task, htask, rfl⟩ := Option.map_eq_some_iff.mp h
    obtain ⟨ho, hmine⟩ := sound_put_iff.mp (hs.put_without htask)
    cases task with
    | request call todo => exact sound_advance_request ho hmine
    | result frame todo => exact sound_advance_result ho hmine
  | drop position =>
    obtain ⟨task, htask, hdrop⟩ := Option.bind_eq_some_iff.mp h
    have ho := (sound_put_iff.mp (hs.put_without htask)).1
    cases task with
    | request call todo =>
      obtain rfl := Option.some_inj.mp hdrop
      exact ⟨ho.events, ho.commands, ho.processed, ho.tasks⟩
    | result frame todo => cases hdrop

/-- **A step keeps what has ended and leads from what is settled to what is settled exactly when it
    fits.** -/
theorem step_fits_iff {a : CallAction} (hsound : s.Sound) (hs : s.Settled)
    (h : s.step decoders digest a = some t) :
    KeepsEnds s t ∧ t.Settled ↔ s.Fits decoders digest a := by
  cases a with
  | begin toolCallId correlationId request now =>
    obtain ⟨call, toolCalls, hinsert, rfl⟩ := step_begin_eq_some h
    exact iff_of_true (settled_begin hsound hs hinsert) trivial
  | nodeResult frame =>
    obtain rfl := Option.some_inj.mp h
    have hput := leftWith_put s (.result frame resultSteps)
    refine iff_of_true ⟨fun j e he _ => he, hs.running, fun j e he hended => ?_,
      fun j hj e he => ?_⟩ trivial
    · exact (hs.ended j e he hended).imp_right fun h => ⟨h.1, (hput.owed j).mpr (Or.inr h.2)⟩
    · exact (hs.processed j hj e he).imp_right fun h => (hput.ending j).mpr (Or.inr h)
  | advance position input =>
    obtain ⟨task, htask, rfl⟩ := Option.map_eq_some_iff.mp h
    have hputs := hs.put_without htask
    have hmine := (sound_put_iff.mp (hsound.put_without htask)).2
    have hfits : s.Fits decoders digest (.advance position input) ↔
        task.Fits decoders digest (s.without position) input.now := by
      refine ⟨fun h => h task htask, fun h other hother => ?_⟩
      obtain rfl := Option.some_inj.mp (htask.symm.trans hother)
      exact h
    rw [hfits]
    -- a task with nothing left to do is gone
    have hgone : ∀ next : CallTask, next = task → (∀ j, ¬ next.Owes j) → (∀ j, ¬ next.Ends j) →
        (s.without position).goesOn next = s.without position →
        KeepsEnds s (s.without position) ∧ (s.without position).Settled := by
      rintro next rfl howes hends hgoesOn
      have hleft := leftWith_goesOn (o := s.without position) (u := s.without position) rfl next
      rw [hgoesOn] at hleft
      show KeepsEnds (s.without position) (s.without position) ∧ _
      exact settled_of_quiet hputs hleft (.refl _) rfl (fun j h => h) fun j h => h
    cases task with
    | request call todo =>
      cases todo with
      | nil =>
        exact iff_of_true (hgone _ rfl (fun j h => h) (fun j h => by simpa using h.2) rfl) trivial
      | cons step rest =>
        exact settled_request_iff hputs (hmine.2 step List.mem_cons_self)
    | result frame todo =>
      cases todo with
      | nil => exact iff_of_true (hgone _ rfl (fun j h => h) (fun j h => h) rfl) trivial
      | cons step rest => exact settled_result_iff hputs (hmine step List.mem_cons_self)
  | drop position =>
    obtain ⟨task, htask, hdrop⟩ := Option.bind_eq_some_iff.mp h
    have hputs := hs.put_without htask
    cases task with
    | result frame todo => cases hdrop
    | request call todo =>
      obtain rfl := Option.some_inj.mp hdrop
      have hleft : LeftWith (s.without position) (.request call [])
          ((s.without position).dropRequest todo) :=
        leftWith_goesOn (o := s.without position) (u := (s.without position).dropRequest todo) rfl
          (.request call [])
      refine (settled_drop_iff hputs hleft rfl rfl (fun j h => h)
        fun j h => by simpa using h.2).trans ⟨fun h other hother => ?_, fun h => h _ htask⟩
      obtain rfl := Option.some_inj.mp (htask.symm.trans hother)
      exact h

end Runs

/-! ## 10. Runs whose calls end once -/

theorem keepsEnds_refl (s : Calls) : KeepsEnds s s := fun _ _ he _ => he

theorem keepsEnds_trans (s t u : Calls) (h : KeepsEnds s t) (h' : KeepsEnds t u) :
    KeepsEnds s u := fun j e he hended => h' j e (h j e he hended) hended

/-- **Along a run ended calls keep their ends, and in all of its states every call that has ended
    has one terminal event and a processed result leaves none open, exactly when each step fits what
    is stored and what is in hand.** -/
theorem call_ends_iff (decoders : ResultDecoders) (digest : Digest) {s t : Calls}
    {actions : List CallAction} (hsound : s.Sound) (hs : s.Settled)
    (hrun : run (Calls.step decoders digest) s actions = some t) :
    Always (Calls.step decoders digest) KeepsEnds s actions ∧
        Throughout (Calls.step decoders digest) Calls.Settled s actions ↔
      Meets (Calls.step decoders digest) (Calls.Fits decoders digest) s actions :=
  always_throughout_iff_meets Calls.Sound keepsEnds_refl keepsEnds_trans
    (fun _ _ _ h hstep => sound_calls_step h hstep)
    (fun _ _ _ h hs hstep => step_fits_iff h hs hstep) hsound hs hrun

/-! ## 11. A call that is answered in time, and one that is not -/

section Search

instance (s : Tooling) (j : ToolCallId) : Decidable (s.Open j) :=
  inferInstanceAs (Decidable (∀ e ∈ s.endOf? j, e.state.isTerminal = false))

instance (digest : Digest) (s : Tooling) (j : ToolCallId) (ending : ToolCallEnd) :
    Decidable (s.MayEnd digest j ending) :=
  inferInstanceAs (Decidable (∀ e ∈ s.endOf? j, e.state.isTerminal = true →
    e = ending.recorded digest))

instance (s : Tooling) (j : ToolCallId) (ending : ToolCallEnd) :
    Decidable (s.MayReport j ending) :=
  inferInstanceAs (Decidable (∀ e ∈ s.endOf? j, e.state = ending.state ∧ s.terminalStates j = []))

instance (j : ToolCallId) : DecidablePred (CallTask.Ends j)
  | .request call todo =>
    inferInstanceAs (Decidable (call.toolCallId = j ∧ ∃ step ∈ todo, step.ends = true))
  | .result _ (.finish endedId _ :: _) => inferInstanceAs (Decidable (endedId = j))
  | .result _ [] | .result _ (.validate :: _) | .result _ (.update :: _)
  | .result _ (.project :: _) | .result _ (.statement _ :: _) | .result _ (.finished .. :: _)
  | .result _ (.notify :: _) => isFalse fun h => h

instance (s : Calls) (j : ToolCallId) : Decidable (s.WillEnd j) :=
  inferInstanceAs (Decidable (∀ e ∈ s.tooling.endOf? j,
    e.state.isTerminal = true ∨ ∃ task ∈ s.tasks, task.Ends j))

instance (s : Calls) (frame : ResultFrame) : Decidable (s.MayLeave frame) :=
  decidable_of_iff (∀ command ∈ s.db.commandOf? frame.commandId, ∀ j ∈ commandToolCall? command,
    s.WillEnd j) ⟨fun h command j hcommand hj => h command hcommand j hj,
      fun h command hcommand j hj => h command j hcommand hj⟩

instance (digest : Digest) (s : Tooling) (j : ToolCallId) :
    DecidablePred (RequestStep.Fits digest s j)
  | .write (.setState _) | .write .markStarted => inferInstanceAs (Decidable (s.Open j))
  | .finish ending => inferInstanceAs (Decidable (s.MayEnd digest j ending))
  | .finished ending => inferInstanceAs (Decidable (s.MayReport j ending))
  | .write .insert | .write (.event ..) | .write .snapshot | .write .startedEvent
  | .write (.bindCommand _) | .write (.finishRow _) | .write (.finishEvent _) | .prepare | .route
  | .bind .. | .record .. | .pend .. | .dispatch .. | .await .. | .cancel .. | .release _ =>
    isTrue trivial

instance (decoders : ResultDecoders) (digest : Digest) (s : Calls) (frame : ResultFrame)
    (now : DateTime) : DecidablePred (ResultStep.Fits decoders digest s frame now)
  | .validate | .update => isTrue trivial
  | .project =>
    inferInstanceAs (Decidable (projectSteps decoders s frame = none → s.MayLeave frame))
  | .statement write =>
    inferInstanceAs (Decidable (write.stops digest now s.tooling = true → s.MayLeave frame))
  | .finish j ending => inferInstanceAs (Decidable (s.tooling.MayEnd digest j ending))
  | .finished j ending => inferInstanceAs (Decidable (s.tooling.MayReport j ending ∧
      (s.tooling.endOf? j = none → s.MayLeave frame)))
  | .notify => inferInstanceAs (Decidable (s.MayLeave frame))

instance (decoders : ResultDecoders) (digest : Digest) (s : Calls) (now : DateTime) :
    DecidablePred (CallTask.Fits decoders digest s now)
  | .request _ [] | .result _ [] => isTrue trivial
  | .request call (step :: _) =>
    inferInstanceAs (Decidable (step.Fits digest s.tooling call.toolCallId))
  | .result frame (step :: _) =>
    inferInstanceAs (Decidable (step.Fits decoders digest s frame now))

/-- Checks the steps of a run that drops no request. -/
def Calls.fitsAll (decoders : ResultDecoders) (digest : Digest) (s : Calls) : CallAction → Bool
  | .advance position input => decide (∀ task ∈ s.tasks[position]?,
      task.Fits decoders digest (s.without position) input.now)
  | .drop _ => false
  | _ => true

theorem fits_of_fitsAll {decoders : ResultDecoders} {digest : Digest} {s : Calls} {a : CallAction}
    (h : s.fitsAll decoders digest a = true) : s.Fits decoders digest a := by
  cases a with
  | advance position input =>
    have hfits : ∀ task ∈ s.tasks[position]?,
        task.Fits decoders digest (s.without position) input.now := of_decide_eq_true h
    exact hfits
  | drop position => cases h
  | _ => trivial

def searchTool : ToolDefinition where
  toolId := "linear.search"
  sourceId := linearSourceId
  sourceKind := .externalMcp
  sourceToolName := "search"
  version := 1
  displayName := "Search"
  shortDescription := "Searches issues"
  documentationUrl := none
  inputSchema := .ofFields [("type", .string "object")]
  outputSchema := none
  schemaHash := "sha256:1"
  riskLevel := .externalRead
  requiredPermissions := []
  executionKind := .toolhiveMcp
  approvalPolicy := .allow
  redaction := ⟨[], [], false, false, 2048⟩
  state := .active
  createdAt := 0
  updatedAt := 0

/-- A registry with one external tool, and no calls. -/
def searchable : Calls where
  tooling := { toolDefinitions := .single (.desired none searchTool 0) }

theorem sound_searchable : searchable.Sound :=
  ⟨fun _ _ => rfl, fun _ h => (by cases h), fun _ h => (by cases h), fun _ h => (by cases h)⟩

theorem settled_searchable : searchable.Settled :=
  ⟨fun _ _ h => (by cases h), fun _ _ h => (by cases h), fun _ h => (by cases h)⟩

/-- Two texts are results: of the call, and of its cancellation. -/
def searchDecoders : ResultDecoders :=
  { plainDecoders with
    tooling := fun
      | .string "completed" => some ⟨none, [], some ⟨1, .toolCallCompleted "t1"
          ⟨.string "issues", none, false, none, []⟩⟩⟩
      | .string "cancelled" => some ⟨none, [], some ⟨1, .toolCallFailed "t1"
          (toolError .cancelled "External tool call was cancelled" false)⟩⟩
      | _ => none }

def searchInput (commandId : CommandId) : CallInput :=
  ⟨1, true, .external ⟨"i1", "d1", "n1"⟩, commandId, none⟩

/-- A request runs until it waits for its command. -/
def searchWaits : List CallAction :=
  .begin "t1" "r1" ⟨⟨.system, none, none, none, none⟩, "linear.search", .emptyObject⟩ 0 ::
    List.replicate 11 (.advance 0 (searchInput "c1"))

/-- The Node's result is handled, and then the request ends the call. -/
def searchAnswered : List CallAction :=
  searchWaits ++ .nodeResult ⟨"n1", "c1", .completed, .string "completed"⟩ ::
    List.replicate 7 (.advance 0 (searchInput "c1"))

/-- The time is over: the request cancels the command and ends the call, and then the Node's result
    of the cancellation is handled. -/
def searchTimedOut : List CallAction :=
  searchWaits ++ List.replicate 5 (.advance 0 (searchInput "c2")) ++
    .nodeResult ⟨"n1", "c2", .completed, .string "cancelled"⟩ ::
      List.replicate 7 (.advance 0 (searchInput "c2"))

/-- A call that is answered in time ends once. -/
theorem call_ends_iff_answered :
    ((run (Calls.step searchDecoders id) searchable searchAnswered).map fun t =>
      (t.tooling.endOf? "t1").map (·.state)) = some (some .completed) ∧
    Always (Calls.step searchDecoders id) KeepsEnds searchable searchAnswered ∧
      Throughout (Calls.step searchDecoders id) Calls.Settled searchable searchAnswered := by
  have hends : ((run (Calls.step searchDecoders id) searchable searchAnswered).map fun t =>
      (t.tooling.endOf? "t1").map (·.state)) = some (some .completed) := by decide
  obtain ⟨t, hrun, _⟩ := Option.map_eq_some_iff.mp hends
  refine ⟨hends, (call_ends_iff searchDecoders id sound_searchable settled_searchable hrun).mpr ?_⟩
  exact Lib.meets_of_check (c := Calls.fitsAll searchDecoders id) (fun _ => True)
    (fun _ _ _ _ _ => trivial) (fun _ _ _ => fits_of_fitsAll) trivial (by decide)

/-- A call that is not answered in time has failed, and is cancelled afterwards: it has two terminal
    events. -/
theorem call_ends_twice :
    ((run (Calls.step searchDecoders id) searchable searchTimedOut).map fun t =>
      ((t.tooling.endOf? "t1").map (·.state), t.tooling.terminalStates "t1")) =
        some (some .cancelled, [.failed, .cancelled]) ∧
    ¬ Throughout (Calls.step searchDecoders id) Calls.Settled searchable searchTimedOut := by
  have hends : ((run (Calls.step searchDecoders id) searchable searchTimedOut).map fun t =>
      ((t.tooling.endOf? "t1").map (·.state), t.tooling.terminalStates "t1")) =
        some (some .cancelled, [.failed, .cancelled]) := by decide
  refine ⟨hends, fun hall => ?_⟩
  obtain ⟨t, hrun, ht⟩ := Option.map_eq_some_iff.mp hends
  obtain ⟨hstate, hstates⟩ := Prod.mk.inj ht
  obtain ⟨e, he, hcancelled⟩ := Option.map_eq_some_iff.mp hstate
  have hsettled := hall searchTimedOut [] t (List.append_nil _).symm hrun
  rcases hsettled.ended "t1" e he (by rw [hcancelled]; rfl) with hone | ⟨hnone, _⟩
  · rw [hstates] at hone
    exact absurd hone (by simp)
  · rw [hstates] at hnone
    cases hnone

end Search

end Uprava.Core
