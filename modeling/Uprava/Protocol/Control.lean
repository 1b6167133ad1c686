/-
  File:      Uprava/Protocol/Control.lean
  Subject:   The envelopes that travel on the control channel: commands from Core to a Node, events
             from a Node to Core, and the frames that carry them.

  Payloads are typed by their kind. A request or a snapshot that no operation of the two
  processes reads field by field is kept as its JSON value.
-/
import Uprava.Protocol.Domain

namespace Uprava.Protocol

/-! ## 1. Commands -/

/-- The fields of a deduction's evidence package that a result is checked against. -/
structure DeductionInputPackage where
  deductionId : DeductionId
  sessionThreadId : SessionThreadId
  evidenceSnapshotHash : String
  deriving DecidableEq

structure TaskRunSpec where
  taskRunId : TaskRunId
  projectPlacementId : ProjectPlacementId
  baseRevision : String
  branch : String
  runtimeImage : String
  deriving DecidableEq

inductive ToolingCommandPayloadV1 where
  | beginIntegrationAuthorization (dependencyInstanceId integrationId upstreamUrl workloadName
      toolNamespace : String)
  | executeExternalTool (toolCallId toolId schemaHash integrationId dependencyInstanceId : String)
      (arguments : JsonValue)
  | cancelToolCall (toolCallId : String) (reason : Option String)
  | updateDependencyDesiredState (dependencyInstanceId integrationId : String)
      (credentialRef : Option String) (upstreamUrl workloadName toolNamespace : String)
  deriving DecidableEq

structure ToolingCommandV1 where
  contractVersion : Nat
  payload : ToolingCommandPayloadV1
  deriving DecidableEq

inductive CommandPayload where
  | startRuntime (provider workspacePath : String)
  | resumeRuntime (provider workspacePath : String) (providerResumeRef : Option JsonValue)
  | sendTurn (content : String) (turnId : TurnId)
  | resolveApproval (approvalId : ApprovalId) (approved : Bool) (message : Option String)
  | interruptRuntime
  | stopRuntime
  | validateWorkspace (displayName workspacePath : String)
  | refreshResourceSnapshot (displayName workspacePath : String)
  | listWorkspaceTree (workspacePath path : String)
  | readWorkspaceFile (workspacePath path : String)
  | writeWorkspaceFile (workspacePath : String) (request : JsonValue)
  | runWorkspaceCommand (workspacePath : String) (request : JsonValue)
  | readWorkspaceDiff (workspacePath : String) (request : JsonValue)
  | openWorkspaceTerminal (workspacePath : String) (request : JsonValue)
  | attachWorkspaceTerminal (request : JsonValue)
  | resizeWorkspaceTerminal (request : JsonValue)
  | writeWorkspaceTerminal (request : JsonValue)
  | closeWorkspaceTerminal (request : JsonValue)
  | requestDeduction (package : DeductionInputPackage)
  | cancelDeduction (deductionId : DeductionId)
  | runTask (workspacePath : String) (spec : TaskRunSpec)
  | cancelTaskRun (taskRunId : TaskRunId)
  | tooling (command : ToolingCommandV1)
  | extension (name : String) (value : JsonValue)
  deriving DecidableEq

/-- The one kind a payload belongs to. -/
def CommandPayload.kind : CommandPayload → CommandKind
  | .startRuntime .. => .startRuntime
  | .resumeRuntime .. => .resumeRuntime
  | .sendTurn .. => .sendTurn
  | .resolveApproval .. => .resolveApproval
  | .interruptRuntime => .interruptRuntime
  | .stopRuntime => .stopRuntime
  | .validateWorkspace .. => .validateWorkspace
  | .refreshResourceSnapshot .. => .refreshResourceSnapshot
  | .listWorkspaceTree .. => .listWorkspaceTree
  | .readWorkspaceFile .. => .readWorkspaceFile
  | .writeWorkspaceFile .. => .writeWorkspaceFile
  | .runWorkspaceCommand .. => .runWorkspaceCommand
  | .readWorkspaceDiff .. => .readWorkspaceDiff
  | .openWorkspaceTerminal .. => .openWorkspaceTerminal
  | .attachWorkspaceTerminal .. => .attachWorkspaceTerminal
  | .resizeWorkspaceTerminal .. => .resizeWorkspaceTerminal
  | .writeWorkspaceTerminal .. => .writeWorkspaceTerminal
  | .closeWorkspaceTerminal .. => .closeWorkspaceTerminal
  | .requestDeduction .. => .requestDeduction
  | .cancelDeduction .. => .cancelDeduction
  | .runTask .. => .runTask
  | .cancelTaskRun .. => .cancelTaskRun
  | .tooling .. => .tooling
  | .extension .. => .extension

def CommandPayload.matchesKind (payload : CommandPayload) (kind : CommandKind) : Bool :=
  kind == payload.kind

inductive CommandTarget where
  | node (nodeId : NodeId)
  | placement (nodeId : NodeId) (projectPlacementId : ProjectPlacementId)
  | sessionRuntime (nodeId : NodeId) (projectPlacementId : ProjectPlacementId)
      (sessionThreadId : SessionThreadId) (runtimeSessionId : RuntimeSessionId)
  | taskRun (nodeId : NodeId) (projectPlacementId : ProjectPlacementId) (taskRunId : TaskRunId)
  deriving DecidableEq

namespace CommandTarget

def nodeId : CommandTarget → NodeId
  | node n | placement n _ | sessionRuntime n _ _ _ | taskRun n _ _ => n

def projectPlacementId : CommandTarget → Option ProjectPlacementId
  | node _ => none
  | placement _ p | sessionRuntime _ p _ _ | taskRun _ p _ => some p

def sessionThreadId : CommandTarget → Option SessionThreadId
  | sessionRuntime _ _ s _ => some s
  | _ => none

def runtimeSessionId : CommandTarget → Option RuntimeSessionId
  | sessionRuntime _ _ _ r => some r
  | _ => none

def taskRunId : CommandTarget → Option TaskRunId
  | taskRun _ _ t => some t
  | _ => none

end CommandTarget

structure CommandEnvelope where
  commandId : CommandId
  kind : CommandKind
  target : CommandTarget
  actorRef : ActorRef
  issuedAt : DateTime
  correlationId : CorrelationId
  payload : CommandPayload
  deriving DecidableEq

/-! ## 2. Events -/

structure RuntimeStateEventData where
  provider : Option String := none
  mode : Option String := none
  resumeSource : Option String := none
  providerResumeRef : Option JsonValue := none
  transcriptMessages : Option Nat := none
  reason : Option String := none
  code : Option String := none
  message : Option String := none
  expirySeconds : Option Int := none
  deriving DecidableEq, Inhabited

/-- What a Node observed of a workspace: the payload of both workspace snapshots. -/
structure WorkspaceSnapshotData where
  placementId : ProjectPlacementId
  displayName : String
  workspacePath : String
  state : PlacementState
  resourceBadges : JsonValue
  gitSnapshot : Option JsonValue
  deriving DecidableEq

inductive EventPayload where
  | runtimeStarting (data : RuntimeStateEventData)
  | runtimeReady (data : RuntimeStateEventData)
  | runtimeRunning (data : RuntimeStateEventData)
  | runtimeBlocked (data : RuntimeStateEventData)
  | runtimeExpired (data : RuntimeStateEventData)
  | runtimeResuming (data : RuntimeStateEventData)
  | runtimeStopped (data : RuntimeStateEventData)
  | runtimeError (code message : String)
  | turnStarted
  | turnCompleted
  | turnInterrupted (provider code message : Option String)
  | providerActivity (data : JsonValue)
  | providerOutputDelta (content : String)
  | providerMessageCompleted (content : String)
  | approvalRequested (approvalId : ApprovalId) (prompt : String)
      (provider providerEventType source : Option String)
  | approvalResolved (approvalId : ApprovalId) (approved : Bool) (message : String)
  | coordinationWarningAcknowledged (warningKind : String) (message : Option String)
      (affectedRefs : JsonValue)
  | workspaceValidated (data : WorkspaceSnapshotData)
  | resourceSnapshotUpdated (data : WorkspaceSnapshotData)
  | workspaceFileWritten (placementId : ProjectPlacementId) (path editId : String)
  | workspaceCommandCompleted (placementId : ProjectPlacementId) (terminalCommandId : String)
      (success : Bool) (exitCode : Option Int) (stdoutTruncated stderrTruncated : Bool)
  | workspaceCheckCompleted (placementId : ProjectPlacementId) (checkRunId : String)
      (success : Bool) (exitCode : Option Int) (stdoutTruncated stderrTruncated : Bool)
  | workspaceDiffObserved (placementId : ProjectPlacementId) (diffId : String)
      (summaryTruncated diffTruncated : Bool)
  | deductionRequested (deductionId : DeductionId) (scopeRef : JsonValue) (question : String)
  | deductionCompleted (deductionId : DeductionId)
  | deductionInvalid (deductionId : DeductionId) (code message : String)
  | deductionFailed (deductionId : DeductionId) (code message : String)
  | deductionCancelled (deductionId : DeductionId)
  | taskRunStateChanged (taskRunId : TaskRunId) (state : TaskRunState)
      (cleanupState : TaskCleanupState) (message : Option String)
  | extension (name : String) (value : JsonValue)
  deriving DecidableEq

/-- The one kind a payload belongs to. -/
def EventPayload.kind : EventPayload → EventKind
  | .runtimeStarting _ => .runtimeStarting
  | .runtimeReady _ => .runtimeReady
  | .runtimeRunning _ => .runtimeRunning
  | .runtimeBlocked _ => .runtimeBlocked
  | .runtimeExpired _ => .runtimeExpired
  | .runtimeResuming _ => .runtimeResuming
  | .runtimeStopped _ => .runtimeStopped
  | .runtimeError .. => .runtimeError
  | .turnStarted => .turnStarted
  | .turnCompleted => .turnCompleted
  | .turnInterrupted .. => .turnInterrupted
  | .providerActivity _ => .providerActivity
  | .providerOutputDelta _ => .providerOutputDelta
  | .providerMessageCompleted _ => .providerMessageCompleted
  | .approvalRequested .. => .approvalRequested
  | .approvalResolved .. => .approvalResolved
  | .coordinationWarningAcknowledged .. => .coordinationWarningAcknowledged
  | .workspaceValidated _ => .workspaceValidated
  | .resourceSnapshotUpdated _ => .resourceSnapshotUpdated
  | .workspaceFileWritten .. => .workspaceFileWritten
  | .workspaceCommandCompleted .. => .workspaceCommandCompleted
  | .workspaceCheckCompleted .. => .workspaceCheckCompleted
  | .workspaceDiffObserved .. => .workspaceDiffObserved
  | .deductionRequested .. => .deductionRequested
  | .deductionCompleted _ => .deductionCompleted
  | .deductionInvalid .. => .deductionInvalid
  | .deductionFailed .. => .deductionFailed
  | .deductionCancelled _ => .deductionCancelled
  | .taskRunStateChanged .. => .taskRunStateChanged
  | .extension .. => .extension

def EventPayload.matchesKind (payload : EventPayload) (kind : EventKind) : Bool :=
  kind == payload.kind

structure EventEnvelope where
  eventId : EventId
  commandId : Option CommandId := none
  correlationId : Option CorrelationId := none
  actorRef : ActorRef
  scopeRef : ScopeRef
  nodeId : Option NodeId := none
  runtimeSessionId : Option RuntimeSessionId := none
  sessionThreadId : Option SessionThreadId := none
  turnId : Option TurnId := none
  seq : Int
  sessionProjectionSeq : Option Int := none
  kind : EventKind
  happenedAt : DateTime
  payload : EventPayload
  deriving DecidableEq

/-! ## 3. Frames -/

def currentProtocolVersion : String := "v2"

def supportedProtocolVersions : List String := [currentProtocolVersion]

def isSupportedProtocolVersion (version : String) : Bool :=
  supportedProtocolVersions.contains version

/-- A time as it is sent: RFC 3339, to the nanosecond at most. -/
structure TimeText where
  text : String
  text_le : text.length ≤ 35
  deriving DecidableEq

/-- The frames that commands, results and events travel in. -/
inductive ControlFrame where
  | hello (protocolVersion : String) (nodeId : NodeId)
  | helloAck
  | commandDispatch (command : CommandEnvelope)
  | commandAck (commandId : CommandId) (status : CommandState)
  | commandResult (commandId : CommandId) (status : CommandState) (payload : JsonValue)
  | eventBatch (events : List EventEnvelope)
  | eventBatchAck (acceptedEventIds : List EventId)
  deriving DecidableEq

end Uprava.Protocol
