/-
  File:      Uprava/Protocol/Domain.lean
  Subject:   The identifiers and the enumerations Core and Node share.

  An identifier is a string the two processes compare and never take apart. The enumerations are
  the protocol's own, constructor by constructor.
-/
import Uprava.Lib.Json

namespace Uprava.Protocol

/-! ## 1. Identifiers -/

abbrev NodeId := String
abbrev ProjectPlacementId := String
abbrev SessionThreadId := String
abbrev RuntimeSessionId := String
abbrev TurnId := String
abbrev ApprovalId := String
abbrev CommandId := String
abbrev CorrelationId := String
abbrev EventId := String
abbrev MessageId := String
abbrev TaskRunId := String
abbrev DeductionId := String
abbrev EnrollmentId := String
abbrev ActorId := String

/-- An instant, in seconds. -/
abbrev DateTime := Int

abbrev JsonValue := Lib.JsonValue

/-! ## 2. States -/

inductive PlacementState where
  | pending | validated | missing | readOnly | error
  deriving DecidableEq, Inhabited

inductive SessionThreadState where
  | created | active | detached | stopped | degraded
  deriving DecidableEq, Inhabited

inductive RuntimeSessionState where
  | starting | ready | running | blocked | stopping | stopped | interrupted | resuming | stale
  | error | expired
  deriving DecidableEq, Inhabited

inductive TurnState where
  | created | dispatched | running | blockedOnApproval | completed | interrupted | failed
  deriving DecidableEq, Inhabited

inductive TaskRunState where
  | queued | preparingWorkspace | startingRuntime | running | checking | collectingEvidence
  | succeeded | failed | cancelling | cancelled | timedOut
  deriving DecidableEq, Inhabited

def TaskRunState.isTerminal : TaskRunState → Bool
  | .succeeded | .failed | .cancelled | .timedOut => true
  | _ => false

inductive TaskCleanupState where
  | pending | completed | failed
  deriving DecidableEq, Inhabited

inductive CommandState where
  | recorded | pendingDispatch | dispatched | acknowledged | completed | failed | blocked | expired
  deriving DecidableEq, Inhabited

inductive ApprovalState where
  | requested | resolved | expired | cancelled
  deriving DecidableEq, Inhabited

/-! ## 3. Kinds -/

inductive CommandKind where
  | startRuntime | resumeRuntime | sendTurn | resolveApproval | interruptRuntime | stopRuntime
  | validateWorkspace | refreshResourceSnapshot | listWorkspaceTree | readWorkspaceFile
  | writeWorkspaceFile | runWorkspaceCommand | readWorkspaceDiff | openWorkspaceTerminal
  | attachWorkspaceTerminal | resizeWorkspaceTerminal | writeWorkspaceTerminal
  | closeWorkspaceTerminal | requestDeduction | cancelDeduction | runTask | cancelTaskRun
  | tooling | extension
  deriving DecidableEq

inductive EventKind where
  | runtimeStarting | runtimeReady | runtimeRunning | runtimeBlocked | runtimeExpired
  | runtimeResuming | runtimeStopped | runtimeError | turnStarted | turnCompleted
  | turnInterrupted | providerActivity | providerOutputDelta | providerMessageCompleted
  | approvalRequested | approvalResolved | coordinationWarningAcknowledged | workspaceValidated
  | resourceSnapshotUpdated | workspaceFileWritten | workspaceCommandCompleted
  | workspaceCheckCompleted | workspaceDiffObserved | deductionRequested | deductionCompleted
  | deductionInvalid | deductionFailed | deductionCancelled | taskRunStateChanged | extension
  deriving DecidableEq

/-! ## 4. References -/

inductive ActorRef where
  | localUser (actorId : Option ActorId)
  | system
  | node (nodeId : NodeId)
  | provider (provider : String)
  | unknown
  deriving DecidableEq

inductive ScopeRef where
  | runtime (runtimeSessionId : RuntimeSessionId)
  | session (sessionThreadId : SessionThreadId)
  | node (nodeId : NodeId)
  | placement (projectPlacementId : ProjectPlacementId)
  | taskRun (taskRunId : TaskRunId)
  | unknown (scope : String)
  deriving DecidableEq

end Uprava.Protocol
