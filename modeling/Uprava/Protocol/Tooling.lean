/-
  File:      Uprava/Protocol/Tooling.lean
  Subject:   Tools: their definitions, the scope and the state of a call, what a dependency reports
             of itself, and what a Node answers to a tooling command.

  References are kept as JSON values, as in the other payloads.
-/
import Uprava.Protocol.Control

namespace Uprava.Protocol

/-! ## 1. Definitions -/

abbrev ToolId := String
abbrev ToolSourceId := String
abbrev ToolCallId := String
abbrev IntegrationId := String
abbrev McpDependencyInstanceId := String
abbrev ProjectId := String

inductive ToolSourceKind where
  | upravaNative | externalMcp | plugin
  deriving DecidableEq

inductive ToolExecutionKind where
  | coreNative | nodeNative | toolhiveMcp | externalProvider | hybrid
  deriving DecidableEq

inductive ToolRiskLevel where
  | readOnly | workspaceWrite | externalRead | externalWrite | credentialedAction | destructive
  | privilegedLocal | networkBroad
  deriving DecidableEq

inductive ToolDefinitionState where
  | active | deprecated | disabled
  deriving DecidableEq

inductive PolicyDecision where
  | allow | deny | requireApproval
  deriving DecidableEq

structure ToolRedactionPolicy where
  argumentJsonPointers : List String
  resultJsonPointers : List String
  redactAllArguments : Bool
  redactAllResult : Bool
  maxSummaryBytes : Nat
  deriving DecidableEq

structure ToolDefinition where
  toolId : ToolId
  sourceId : ToolSourceId
  sourceKind : ToolSourceKind
  sourceToolName : String
  version : Nat
  displayName : String
  shortDescription : String
  documentationUrl : Option String
  inputSchema : JsonValue
  outputSchema : Option JsonValue
  schemaHash : String
  riskLevel : ToolRiskLevel
  requiredPermissions : List String
  executionKind : ToolExecutionKind
  approvalPolicy : PolicyDecision
  redaction : ToolRedactionPolicy
  state : ToolDefinitionState
  createdAt : DateTime
  updatedAt : DateTime
  deriving DecidableEq

structure ToolScope where
  actorRef : ActorRef
  nodeId : Option NodeId
  projectId : Option ProjectId
  projectPlacementId : Option ProjectPlacementId
  sessionThreadId : Option SessionThreadId
  deriving DecidableEq

/-! ## 2. Integrations and their dependencies -/

inductive IntegrationDesiredState where
  | enabled | disabled
  deriving DecidableEq

inductive IntegrationAuthState where
  | disconnected | connecting | connected | expired | error
  deriving DecidableEq

inductive McpDependencyActualState where
  | toolhiveMissing | missingAuth | installing | starting | running | degraded | failed | stopped
  deriving DecidableEq

/-- What a Node reports of a dependency, the fields Core reads or shows. -/
structure McpDependencyStatus where
  dependencyInstanceId : McpDependencyInstanceId
  integrationId : IntegrationId
  nodeId : NodeId
  desiredState : IntegrationDesiredState
  actualState : McpDependencyActualState
  errorCode : Option String
  observedAt : DateTime
  deriving DecidableEq

structure IntegrationConnectionSummary where
  integrationId : IntegrationId
  sourceId : ToolSourceId
  desiredState : IntegrationDesiredState
  authState : IntegrationAuthState
  nodeId : Option NodeId
  authenticatedActorLabel : Option String
  connectedAt : Option DateTime
  updatedAt : DateTime
  errorCode : Option String
  deriving DecidableEq

/-! ## 3. Calls -/

inductive ToolCallState where
  | requested | authorized | approvalRequired | started | completed | failed | denied | cancelled
  | timedOut
  deriving DecidableEq

def ToolCallState.isTerminal : ToolCallState → Bool
  | .completed | .failed | .denied | .cancelled | .timedOut => true
  | _ => false

inductive ToolExecutionErrorCode where
  | invalidArguments | permissionDenied | approvalRequired | unavailable | schemaChanged
  | rateLimited | requestTooLarge | resultTooLarge | timeout | cancelled | backendFailed
  | toolhiveMissing | notAuthenticated | scopeMismatch | leaseExpired | leaseRevoked
  deriving DecidableEq

structure ToolExecutionError where
  code : ToolExecutionErrorCode
  message : String
  retryable : Bool
  redactedDetails : JsonValue
  deriving DecidableEq

structure ToolResultEnvelope where
  content : JsonValue
  summary : Option String
  truncated : Bool
  originalSizeBytes : Option Nat
  artifactRefs : List JsonValue
  deriving DecidableEq

structure ExecuteToolRequest where
  scope : ToolScope
  toolId : ToolId
  arguments : JsonValue
  deriving DecidableEq

structure ExecuteToolResponse where
  toolCallId : ToolCallId
  state : ToolCallState
  result : Option ToolResultEnvelope
  error : Option ToolExecutionError
  deriving DecidableEq

/-! ## 4. Leases -/

abbrev McpAccessLeaseId := String

structure McpAccessLeaseClaims where
  leaseId : McpAccessLeaseId
  audience : String
  actorRef : ActorRef
  sessionThreadId : SessionThreadId
  projectId : Option ProjectId
  projectPlacementId : ProjectPlacementId
  nodeId : NodeId
  issuedAt : DateTime
  expiresAt : DateTime
  credentialVersion : Nat
  deriving DecidableEq

def upravaMcpLeaseAudience : String := "uprava:mcp"

/-! ## 5. What a Node answers -/

/-- The events of a tooling result that Core reads; `other` stands for the rest. -/
inductive ToolingEventPayloadV1 where
  | toolCallCompleted (toolCallId : ToolCallId) (result : ToolResultEnvelope)
  | toolCallFailed (toolCallId : ToolCallId) (error : ToolExecutionError)
  | toolCallDenied (toolCallId : ToolCallId) (error : ToolExecutionError)
  | other
  deriving DecidableEq

structure ToolingEventV1 where
  contractVersion : Nat
  payload : ToolingEventPayloadV1
  deriving DecidableEq

structure ExternalToolCommandResult where
  status : Option McpDependencyStatus
  definitions : List ToolDefinition
  event : Option ToolingEventV1
  deriving DecidableEq

def toolingContractVersionV1 : Nat := 1

end Uprava.Protocol
