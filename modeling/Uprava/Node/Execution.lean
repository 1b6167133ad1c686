/-
  File:      Uprava/Node/Execution.lean
  Subject:   What the Node does with a dispatched command: the answer from its cache, or the body of
             the command's kind, on a copy of the state.

  A body reads the outside through `World`: files, processes, backends, the access request and the
  cancellation signals are what they are when it runs. Its result is an `Execution`: the changed
  copy, the runtime events it numbered, in order, those it emitted live, and its answer.
  What every body does to the counters, the outbox and the commands is stated once, in `Effects`.
-/
import Uprava.Node.Outbox

namespace Uprava.Node

open Uprava.Protocol
open Uprava.Lib (Assoc Numbered)

/-! ## 1. What a body reads from outside -/

structure World where
  limits : OutboxLimits
  turn : TurnWorld
  /-- Does the request for the provider's MCP access succeed? -/
  mcpAccessIssued : Bool
  canonicalWorkspaceRoot : String → Except (String × String) String
  /-- What `validate_command_workspace` finds at a path, under a display name. -/
  workspaceSnapshot : ProjectPlacementId → String → String → WorkspaceSnapshotData
  /-- The status and the payload of a workspace command. -/
  workspaceResult : CommandState × JsonValue
  /-- The placement and the event a completed workspace payload decodes to. -/
  causalPayload : JsonValue → Option (ProjectPlacementId × EventPayload)
  /-- Has the command's cancellation been signalled before it starts? -/
  cancelled : Bool
  deductionResult : CommandState × JsonValue
  /-- The states a task goes through, and whether its execution returned a result. -/
  taskStates : List (TaskRunState × TaskCleanupState × Option String)
  taskReturns : Bool
  taskResult : CommandState × JsonValue
  toolingResult : CommandState × JsonValue
  /-- The tool dependency a tooling command configures. -/
  toolDependency : Option (String × JsonValue)

/-! ## 2. Answers -/

structure CommandDispatchOutcome where
  status : CommandState
  eventsToSend : List EventEnvelope
  resultPayload : JsonValue
  stateChanged : Bool

/-- What a body did: `taken` are the runtime events it numbered, `live` the events it emitted
    while it ran. -/
structure Execution where
  localState : NodeLocalState
  drawn : Nat
  taken : List EventEnvelope := []
  live : List EventEnvelope := []
  outcome : CommandDispatchOutcome

def errorPayload (code message : String) (retryable : Bool) : JsonValue :=
  .ofFields [("error_code", .string code), ("message", .string message),
    ("retryable", .bool retryable)]

def NodeLocalState.recordCommandResultPayload (s : NodeLocalState) (command : CommandEnvelope)
    (status : CommandState) (payload : JsonValue) : NodeLocalState :=
  { s with
    commandStatus := s.commandStatus.insert command.commandId status
    commandResultPayloads := s.commandResultPayloads.insert command.commandId payload }

def outboxEventsForCommand (outbox : List EventEnvelope) (commandId : CommandId) :
    List EventEnvelope :=
  outbox.filter (·.commandId == some commandId)

/-- A command without events, a failed turn and a failed runtime are failures. -/
def commandStatusForEvents (events : List EventEnvelope) : CommandState :=
  if events.isEmpty then .failed
  else if events.any fun e => e.kind == .runtimeError || e.kind == .turnInterrupted then .failed
  else .completed

/-- `deduction_error_payload`, for a deduction's own command. -/
def deductionErrorPayload (command : CommandEnvelope) (provider code message : String) :
    JsonValue :=
  match command.payload with
  | .requestDeduction package =>
    .ofFields [("deduction_id", .string package.deductionId), ("provider", .string provider),
      ("model", .null), ("schema_version", .string "uprava.deduction.v1"),
      ("evidence_snapshot_hash", .string package.evidenceSnapshotHash), ("result", .null),
      ("raw_text", .string ""), ("raw_truncated", .bool false), ("error_code", .string code),
      ("error_message", .string message)]
  | _ => .ofFields [("error_code", .string code), ("message", .string message)]

/-- What is kept of a tooling result. -/
def durableToolingResultPayload (payload : JsonValue) : JsonValue :=
  payload.remove "authorization_url"

/-! ## 3. Metadata of a runtime -/

/-- `command_payload_str(command, "provider")`. -/
def payloadProvider : CommandPayload → Option String
  | .startRuntime provider _ | .resumeRuntime provider _ _ =>
    (some (trim provider)).filter (· ≠ "")
  | _ => none

/-- `command_payload_str(command, "workspace_path")`. -/
def payloadWorkspacePath : CommandPayload → Option String
  | .startRuntime _ path | .resumeRuntime _ path _ | .validateWorkspace _ path
  | .refreshResourceSnapshot _ path | .listWorkspaceTree path _ | .readWorkspaceFile path _
  | .writeWorkspaceFile path _ | .runWorkspaceCommand path _ | .readWorkspaceDiff path _
  | .openWorkspaceTerminal path _ | .runTask path _ => (some (trim path)).filter (· ≠ "")
  | _ => none

/-- `command_payload_str(command, "display_name")`. -/
def payloadDisplayName : CommandPayload → Option String
  | .validateWorkspace name _ | .refreshResourceSnapshot name _ =>
    (some (trim name)).filter (· ≠ "")
  | _ => none

def providerForCommand (s : NodeLocalState) (command : CommandEnvelope) : Option String :=
  (payloadProvider command.payload).or
    (command.target.runtimeSessionId.bind (s.runtimeProviders.lookup ·))

def workspacePathForCommand (s : NodeLocalState) (command : CommandEnvelope) : Option String :=
  (payloadWorkspacePath command.payload).or
    (command.target.runtimeSessionId.bind (s.runtimeWorkspacePaths.lookup ·))

def startsRuntime : CommandKind → Bool
  | .startRuntime | .resumeRuntime => true
  | _ => false

/-- The provider, the workspace and the resume reference a start or a resume names are kept. -/
def rememberRuntimeMetadata (world : World) (s : NodeLocalState) (command : CommandEnvelope) :
    Except (String × String) NodeLocalState :=
  match command.target.runtimeSessionId with
  | none => .ok s
  | some runtimeId =>
    if !startsRuntime command.kind then .ok s
    else do
      let path ← match payloadWorkspacePath command.payload with
        | some path => (world.canonicalWorkspaceRoot path).map some
        | none => .ok none
      let resumeRef := match command.kind, command.payload with
        | .resumeRuntime, .resumeRuntime _ _ ref => ref.bind providerResumeRefFromJson
        | _, _ => none
      return { s with
        runtimeProviders := match payloadProvider command.payload with
          | some provider => s.runtimeProviders.insert runtimeId provider
          | none => s.runtimeProviders
        runtimeProviderResumeRefs := match resumeRef with
          | some ref => s.runtimeProviderResumeRefs.insert runtimeId ref
          | none => s.runtimeProviderResumeRefs
        runtimeWorkspacePaths := match path with
          | some path => s.runtimeWorkspacePaths.insert runtimeId path
          | none => s.runtimeWorkspacePaths }

/-! ## 4. Events that are not a runtime's -/

/-- `placement_event_for_command`: the event, and the state with its placement's counter moved. -/
def placementEventForCommand (source : EventSource) (s : NodeLocalState) (drawn : Nat)
    (command : CommandEnvelope) (placementId : ProjectPlacementId) (payload : EventPayload) :
    EventEnvelope × NodeLocalState :=
  ({ eventId := source.eventId drawn
     commandId := some command.commandId
     correlationId := some command.correlationId
     actorRef := .node command.target.nodeId
     scopeRef := .placement placementId
     nodeId := some command.target.nodeId
     seq := s.placementSeqs.count placementId + 1
     kind := payload.kind
     happenedAt := source.happenedAt drawn
     payload },
    { s with placementSeqs := s.placementSeqs.bump placementId })

/-- The number of a task's state: sparse, and the same for a repeated transition. -/
def taskStateSeq : TaskRunState → Int
  | .queued => 10
  | .preparingWorkspace => 20
  | .startingRuntime => 30
  | .running => 40
  | .checking => 50
  | .collectingEvidence => 60
  | .succeeded => 70
  | .failed => 80
  | .cancelling => 90
  | .cancelled => 100
  | .timedOut => 110

/-- `push_task_state`: its id is the task's and the state's. -/
def taskEvent (happenedAt : DateTime) (command : CommandEnvelope) (taskRunId : TaskRunId)
    (change : TaskRunState × TaskCleanupState × Option String) : EventEnvelope where
  eventId := "task-run:" ++ taskRunId ++ ":" ++ toString (taskStateSeq change.1)
  commandId := some command.commandId
  correlationId := some command.correlationId
  actorRef := .node command.target.nodeId
  scopeRef := .taskRun taskRunId
  nodeId := some command.target.nodeId
  seq := taskStateSeq change.1
  kind := .taskRunStateChanged
  happenedAt := happenedAt
  payload := .taskRunStateChanged taskRunId change.1 change.2.1 change.2.2

def taskEvents (world : World) (command : CommandEnvelope) : List EventEnvelope :=
  match command.target.taskRunId with
  | none => []
  | some taskRunId => world.taskStates.map (taskEvent world.limits.now command taskRunId)

/-! ## 5. Bodies -/

section Bodies

variable (source : EventSource) (world : World)

/-- A body without events: its result is kept and sent. -/
def answer (s : NodeLocalState) (drawn : Nat) (command : CommandEnvelope)
    (status : CommandState) (payload : JsonValue) : Execution where
  localState := s.recordCommandResultPayload command status payload
  drawn := drawn
  outcome := ⟨status, [], payload, true⟩

/-- The events of a body join the outbox, which is held to its limits. -/
def deliverEvents (s : NodeLocalState) (drawn : Nat) (taken live events : List EventEnvelope)
    (status : CommandState) (payload : JsonValue) : Execution :=
  let s := { s with eventOutbox := s.eventOutbox ++ events }
  let (notices, issue) := retentionNotices source world.limits s drawn
  { localState := s.enforceEventOutboxRetention source world.limits drawn
    drawn := issue.drawn
    taken := taken ++ notices
    live
    outcome := ⟨status, events ++ notices, payload, true⟩ }

/-- `workspace_command_outcome`, and the task's: the result is kept and the events delivered. -/
def answerWithEvents (s : NodeLocalState) (drawn : Nat) (command : CommandEnvelope)
    (status : CommandState) (payload : JsonValue) (live events : List EventEnvelope) : Execution :=
  deliverEvents source world (s.recordCommandResultPayload command status payload) drawn [] live
    events status payload

/-- A body that is known by its events alone: its status is theirs and its payload is empty. -/
def answerByEvents (s : NodeLocalState) (drawn : Nat) (command : CommandEnvelope)
    (taken live events : List EventEnvelope) : Execution :=
  let s := s.applyRuntimeStateProjection events
  let x := deliverEvents source world s drawn taken live events (commandStatusForEvents events)
    .emptyObject
  { x with localState := { x.localState with
      commandStatus := x.localState.commandStatus.insert command.commandId
        (commandStatusForEvents events) } }

/-- The body of a runtime command: the drafts of its provider, or of what is wrong with it. -/
def runtimeDrafts (s : NodeLocalState) (command : CommandEnvelope)
    (runtimeId : RuntimeSessionId) : String × List EventDraft × NodeLocalState :=
  match rememberRuntimeMetadata world s command with
  | .error (code, message) =>
    ((providerForCommand s command).getD "unknown", [runtimeErrorDraft none code message], s)
  | .ok s =>
    match providerForCommand s command with
    | none => ("unknown", missingProviderEvents, s)
    | some providerKey =>
      let (drafts, memory) := executeCommand world.turn providerKey command runtimeId
        (workspacePathForCommand s command) ⟨s.runtimeTranscripts, s.runtimeProviderResumeRefs⟩
      (providerKey, drafts,
        { s with
          runtimeTranscripts := memory.transcripts
          runtimeProviderResumeRefs := memory.resumeRefs })

/-- What a runtime command does: its drafts are numbered, some are emitted as they come. -/
def runtimeBody (s : NodeLocalState) (drawn : Nat) (command : CommandEnvelope) : Execution :=
  match command.target.runtimeSessionId with
  | none => answerByEvents source world s drawn command [] [] []
  | some runtimeId =>
    let (providerKey, drafts, s) := runtimeDrafts world s command runtimeId
    let (issued, issue) := issueEvents source providerKey command runtimeId
      ⟨s.runtimeSeqs, drawn⟩ drafts
    let live := (issued.filter (·.1.live)).map (·.2)
    answerByEvents source world
      (NodeLocalState.applyRuntimeStateProjection { s with runtimeSeqs := issue.runtimeSeqs } live)
      issue.drawn command (issued.map (·.2)) live ((issued.filter (·.1.returned)).map (·.2))

/-- `workspace_validation_events`, `resource_snapshot_events`. -/
def snapshotBody (s : NodeLocalState) (drawn : Nat) (command : CommandEnvelope)
    (payload : WorkspaceSnapshotData → EventPayload) : Execution :=
  match command.target.projectPlacementId with
  | none => answerByEvents source world s drawn command [] [] []
  | some placementId =>
    let (event, s) := placementEventForCommand source s drawn command placementId
      (payload (world.workspaceSnapshot placementId
        ((payloadDisplayName command.payload).getD "workspace")
        ((payloadWorkspacePath command.payload).getD "")))
    answerByEvents source world s (drawn + 1) command [] [] [event]

/-- The workspace commands with an event of their own, when they complete. -/
def causalBody (s : NodeLocalState) (drawn : Nat) (command : CommandEnvelope) : Execution :=
  let (status, payload) := world.workspaceResult
  match (if status = .completed then world.causalPayload payload else none) with
  | none => answerWithEvents source world s drawn command status payload [] []
  | some (placementId, eventPayload) =>
    let (event, s) := placementEventForCommand source s drawn command placementId eventPayload
    answerWithEvents source world s (drawn + 1) command status payload [] [event]

def requestedDeduction : CommandPayload → DeductionId
  | .requestDeduction package => package.deductionId
  | _ => ""

def deductionBody (s : NodeLocalState) (drawn : Nat) (command : CommandEnvelope) : Execution :=
  let deductionId := requestedDeduction command.payload
  if s.cancelledDeductions.contains deductionId then
    answer { s with cancelledDeductions := s.cancelledDeductions.filter (· != deductionId) } drawn
      command .failed (deductionErrorPayload command "cancelled" "deduction.cancelled"
        "Deduction was cancelled before provider execution")
  else if world.cancelled then
    answer s drawn command .failed (deductionErrorPayload command "cancelled"
      "deduction.cancelled" "Deduction was cancelled before provider execution")
  else answer s drawn command world.deductionResult.1 world.deductionResult.2

def cancelDeductionBody (s : NodeLocalState) (drawn : Nat) (command : CommandEnvelope)
    (deductionId : DeductionId) : Execution :=
  answer { s with
      cancelledDeductions := rememberCancelledDeduction s.cancelledDeductions deductionId }
    drawn command .completed
    (.ofFields [("deduction_id", .string deductionId), ("cancelled", .bool true)])

def taskBody (s : NodeLocalState) (drawn : Nat) (command : CommandEnvelope) : Execution :=
  answerWithEvents source world s drawn command world.taskResult.1 world.taskResult.2
    (taskEvents world command) (if world.taskReturns then taskEvents world command else [])

/-- A tooling result is kept without its authorization URL and sent with it. -/
def toolingBody (s : NodeLocalState) (drawn : Nat) (command : CommandEnvelope) : Execution :=
  let s := match world.toolDependency with
    | some (id, desired) => { s with toolDependencies := s.toolDependencies.insert id desired }
    | none => s
  let x := answer s drawn command world.toolingResult.1
    (durableToolingResultPayload world.toolingResult.2)
  { x with outcome := { x.outcome with resultPayload := world.toolingResult.2 } }

/-- The body of a command the Node has no status of. -/
def commandBody (s : NodeLocalState) (drawn : Nat) (command : CommandEnvelope) : Execution :=
  match command.kind, command.payload with
  | .validateWorkspace, _ => snapshotBody source world s drawn command .workspaceValidated
  | .refreshResourceSnapshot, _ =>
    snapshotBody source world s drawn command .resourceSnapshotUpdated
  | .listWorkspaceTree, _ | .readWorkspaceFile, _ | .openWorkspaceTerminal, _ =>
    answer s drawn command world.workspaceResult.1 world.workspaceResult.2
  | .writeWorkspaceFile, _ | .runWorkspaceCommand, _ | .readWorkspaceDiff, _ =>
    causalBody source world s drawn command
  | .requestDeduction, _ => deductionBody world s drawn command
  | .cancelDeduction, .cancelDeduction deductionId =>
    cancelDeductionBody s drawn command deductionId
  | .runTask, _ => taskBody source world s drawn command
  | .cancelTaskRun, .cancelTaskRun taskRunId =>
    answer s drawn command .completed
      (.ofFields [("task_run_id", .string taskRunId), ("cancellation_requested", .bool true)])
  | .tooling, _ => toolingBody world s drawn command
  | _, _ => runtimeBody source world s drawn command

/-- The answer of a command whose payload is of another kind. -/
def payloadMismatchOutcome : CommandDispatchOutcome :=
  ⟨.failed, [], errorPayload "protocol.command_payload_mismatch"
    "Command payload does not match its command kind" false, false⟩

/-- The answer of a command the Node has a status of. -/
def cachedOutcome (s : NodeLocalState) (command : CommandEnvelope) (status : CommandState) :
    CommandDispatchOutcome :=
  ⟨status, outboxEventsForCommand s.eventOutbox command.commandId,
    (s.commandResultPayloads.lookup command.commandId).getD .emptyObject, false⟩

/-- `prepare_command_dispatch_with_live_socket`. -/
def prepareCommandDispatch (s : NodeLocalState) (drawn : Nat) (command : CommandEnvelope) :
    Execution :=
  if !command.payload.matchesKind command.kind then
    { localState := s, drawn, outcome := payloadMismatchOutcome }
  else
    match s.commandStatus.lookup command.commandId with
    | some status => { localState := s, drawn, outcome := cachedOutcome s command status }
    | none => commandBody source world s drawn command

/-- `provider_mcp_access_failure_outcome`: the status is kept, the payload is not. -/
def providerMcpAccessFailureOutcome (s : NodeLocalState) (drawn : Nat)
    (command : CommandEnvelope) : Execution :=
  let providerKey := (providerForCommand s command).getD codexProviderKey
  let turnId := match command.payload with
    | .sendTurn _ turnId => some turnId
    | _ => none
  let (events, issue) := match command.target.runtimeSessionId with
    | none => (([] : List (EventDraft × EventEnvelope)), (⟨s.runtimeSeqs, drawn⟩ : Issue))
    | some runtimeId => issueEvents source providerKey command runtimeId ⟨s.runtimeSeqs, drawn⟩
        [runtimeErrorDraft turnId "provider.mcp_access_unavailable"
          "Uprava MCP access could not be issued for this turn"]
  let events := events.map (·.2)
  let s := NodeLocalState.applyRuntimeStateProjection { s with runtimeSeqs := issue.runtimeSeqs }
    events
  { localState := { s with
      eventOutbox := s.eventOutbox ++ events
      commandStatus := s.commandStatus.insert command.commandId .failed }
    drawn := issue.drawn
    taken := events
    outcome := ⟨.failed, events, errorPayload "provider.mcp_access_unavailable"
      "Uprava MCP access could not be issued for this turn" true, true⟩ }

/-- Does a turn fail before its body, because it gets no access? -/
def accessFails (s : NodeLocalState) (command : CommandEnvelope) : Bool :=
  command.kind == .sendTurn && (s.commandStatus.lookup command.commandId).isNone &&
    !world.mcpAccessIssued

/-- `handle_command_dispatch`, between its acknowledgement and its result. -/
def handleCommand (s : NodeLocalState) (drawn : Nat) (command : CommandEnvelope) : Execution :=
  if accessFails world s command then providerMcpAccessFailureOutcome source s drawn command
  else prepareCommandDispatch source world s drawn command

end Bodies

/-! ## 6. An outside in which nothing fails -/

/-- Ids and times of new events. -/
def countedSource : EventSource := ⟨fun n => "e" ++ toString n, fun _ => 2⟩

/-- A Node whose runtime is Codex in a workspace. -/
def codexNode : NodeLocalState where
  nodeId := some "n1"
  runtimeProviders := AList.singleton "r1" codexProviderKey
  runtimeWorkspacePaths := AList.singleton "r1" "/work"

/-- Every request is granted, and a turn's provider answers without an activity. -/
def quietWorld : World where
  limits := { encodedLen := fun _ => 100, now := 0 }
  turn :=
    { authorizedWorkspacePath := .ok
      process := { lines := [], exit := .exited true false false "" }
      assistantContent := "done" }
  mcpAccessIssued := true
  canonicalWorkspaceRoot := .ok
  workspaceSnapshot := fun placementId displayName workspacePath =>
    { placementId, displayName, workspacePath, state := .validated, resourceBadges := .null
      gitSnapshot := none }
  workspaceResult := (.completed, .emptyObject)
  causalPayload := fun _ => none
  cancelled := false
  deductionResult := (.completed, .emptyObject)
  taskStates := []
  taskReturns := true
  taskResult := (.completed, .emptyObject)
  toolingResult := (.completed, .emptyObject)
  toolDependency := none

end Uprava.Node
