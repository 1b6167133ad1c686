/-
  File:      Uprava/Core/ToolScopes.lean
  Subject:   The native tools that read, and what of the database shows in their answers to a call
             under an MCP lease.

  A lease names a session, and with it a placement, a project and a Node. The scope of a call has to
  be the lease's, and the session's row has to agree with it; what a tool reads is named by the
  arguments. Idle runtimes are expired before a read, so a database here is one after that.

  * `tool_confined_iff`: the answer to a call depends on the lease's own rows alone exactly when the
    call is refused before it reads, or the arguments name the lease's own Node, or its own session
    for the trace of it.
-/
import Uprava.Core.Turns
import Mathlib.Data.List.Sort
import Uprava.Core.McpLeases
import Uprava.Core.Publication
import Uprava.Lib.JsonSize

namespace Uprava.Core

open Uprava.Protocol
open Uprava.Lib (Schema Table)
open Uprava.Lib.Table

/-! ## 1. Tables -/

inductive NodePresence where
  | reachable | stale | offline | revoked
  deriving DecidableEq

def formatPresence : NodePresence → String
  | .reachable => "reachable"
  | .stale => "stale"
  | .offline => "offline"
  | .revoked => "revoked"

structure NodeRow where
  nodeId : NodeId
  displayName : String
  presence : NodePresence
  sleepHint : String
  lastHeartbeatAt : Option DateTime
  activeRuntimeCount : Int
  capabilities : JsonValue
  diagnostics : String
  updatedAt : DateTime
  deriving DecidableEq

instance : Schema NodeRow where
  clash a b := a.nodeId = b.nodeId
  dec _ _ := inferInstanceAs (Decidable (_ = _))
  symm := Eq.symm

structure NodeCapabilityRow where
  nodeId : NodeId
  capabilityKey : String
  value : JsonValue
  updatedAt : DateTime
  deriving DecidableEq

instance : Schema NodeCapabilityRow where
  clash a b := a.nodeId = b.nodeId ∧ a.capabilityKey = b.capabilityKey
  dec _ _ := inferInstanceAs (Decidable (_ ∧ _))
  symm := fun h => ⟨h.1.symm, h.2.symm⟩

/-- The row of a placement with the column that leases read. -/
structure ProjectRow extends PlacementRow where
  projectId : Option ProjectId
  deriving DecidableEq

instance : Schema ProjectRow where
  clash a b := Schema.clash a.toPlacementRow b.toPlacementRow
  dec a b := Schema.dec a.toPlacementRow b.toPlacementRow
  symm := Schema.symm (ρ := PlacementRow)

structure ThreadRow extends SessionRow where
  title : String
  deriving DecidableEq

instance : Schema ThreadRow where
  clash a b := Schema.clash a.toSessionRow b.toSessionRow
  dec a b := Schema.dec a.toSessionRow b.toSessionRow
  symm := Schema.symm (ρ := SessionRow)

structure ProviderRow extends RuntimeRow where
  provider : String
  resumeSupported : Bool
  deriving DecidableEq

instance : Schema ProviderRow where
  clash a b := Schema.clash a.toRuntimeRow b.toRuntimeRow
  dec a b := Schema.dec a.toRuntimeRow b.toRuntimeRow
  symm := Schema.symm (ρ := RuntimeRow)

/-- A message that waits to be sent, as it is shown. -/
structure ScheduledRow where
  scheduledMessageId : String
  sessionThreadId : SessionThreadId
  dueAt : DateTime
  createdAt : DateTime
  shown : JsonValue
  deriving DecidableEq

instance : Schema ScheduledRow where
  clash a b := a.scheduledMessageId = b.scheduledMessageId
  dec _ _ := inferInstanceAs (Decidable (_ = _))
  symm := Eq.symm

/-- What Core's tools read. -/
structure Inventory where
  tooling : Tooling := {}
  nodes : Table NodeRow := .empty
  nodeCapabilities : Table NodeCapabilityRow := .empty
  projectPlacements : Table ProjectRow := .empty
  sessionThreads : Table ThreadRow := .empty
  runtimeSessions : Table ProviderRow := .empty
  messages : Table MessageRow := .empty
  events : Table EventRow := .empty
  scheduledMessages : Table ScheduledRow := .empty

/-! ## 2. The scope of a call -/

/-- `lease_scope_matches` -/
def leaseScopeMatches (claims : McpAccessLeaseClaims) (scope : ToolScope) : Bool :=
  claims.actorRef == scope.actorRef && scope.sessionThreadId == some claims.sessionThreadId &&
    scope.projectId == claims.projectId &&
    scope.projectPlacementId == some claims.projectPlacementId && scope.nodeId == some claims.nodeId

inductive ScopeValidationError where
  | sessionInactive | mismatch
  deriving DecidableEq

/-- `load_scoped_identity_for_session` -/
def loadScopedIdentityForSession (s : Inventory) (sessionThreadId : SessionThreadId) :
    Option ScopedIdentity :=
  (s.sessionThreads.find? (·.sessionThreadId == sessionThreadId)).bind fun st =>
    (s.projectPlacements.find? (·.projectPlacementId == st.projectPlacementId)).map fun pp =>
      ⟨pp.nodeId, pp.projectId, pp.projectPlacementId, st.state⟩

/-- `validate_tool_scope` -/
def validateToolScope (s : Inventory) (scope : ToolScope) :
    Except ScopeValidationError ScopedIdentity :=
  match scope.sessionThreadId.bind (loadScopedIdentityForSession s) with
  | none => .error .mismatch
  | some identity =>
    if identity.sessionState = .stopped then .error .sessionInactive
    else if scope.nodeId ≠ some identity.nodeId ∨
        scope.projectPlacementId ≠ some identity.placementId ∨
        scope.projectId ≠ identity.projectId then .error .mismatch
    else .ok identity

/-- `effective_tool_availability`, for a tool that runs in Core. -/
def nativeToolAvailable (s : Inventory) (definition : ToolDefinition) (scope : ToolScope) : Bool :=
  definition.state == .active && toolIsVisibleToActor scope.actorRef &&
    (validateToolScope s scope).toOption.isSome && definition.approvalPolicy != .requireApproval

/-! ## 3. What the tools read -/

/-- The settings of Core, and how an event and the trace of a session are shown. -/
structure Showing where
  staleAfterSeconds : Int
  offlineAfterSeconds : Int
  event : EventEnvelope → JsonValue
  trace : SessionThreadId → String → List MessageRow → List EventEnvelope → DateTime → JsonValue

/-- `derive_presence` -/
def derivePresence (stored : NodePresence) (heartbeatAgeSeconds : Option Int)
    (staleAfterSeconds offlineAfterSeconds : Int) : NodePresence :=
  if stored = .revoked then .revoked
  else
    match heartbeatAgeSeconds with
    | some age =>
      if age ≥ offlineAfterSeconds then .offline
      else if age ≥ staleAfterSeconds then .stale
      else .reachable
    | none => stored

def optionalInt (value : Option Int) : JsonValue := jsonOption .int value

def optionalText (value : Option String) : JsonValue := jsonOption .string value

def formatPlacementState : PlacementState → String
  | .pending => "pending"
  | .validated => "validated"
  | .missing => "missing"
  | .readOnly => "read_only"
  | .error => "error"

def formatSessionState : SessionThreadState → String
  | .created => "created"
  | .active => "active"
  | .detached => "detached"
  | .stopped => "stopped"
  | .degraded => "degraded"

def formatMessageRole : MessageRole → String
  | .user => "user"
  | .assistant => "assistant"
  | .runtime => "runtime"
  | .approval => "approval"

section Reads

variable (showing : Showing) (now : DateTime) (s : Inventory)

/-- A Node as `load_nodes` shows it. -/
def NodeRow.summary (r : NodeRow) : JsonValue :=
  let heartbeatAgeSeconds := r.lastHeartbeatAt.map fun at' => max (now - at') 0
  .ofFields [("node_id", .string r.nodeId), ("display_name", .string r.displayName),
    ("presence", .string (formatPresence (derivePresence r.presence heartbeatAgeSeconds
      showing.staleAfterSeconds showing.offlineAfterSeconds))),
    ("sleep_hint", .string r.sleepHint),
    ("heartbeat_age_seconds", optionalInt heartbeatAgeSeconds),
    ("active_runtime_count", .int r.activeRuntimeCount), ("capabilities", r.capabilities),
    ("diagnostics", .string r.diagnostics)]

/-- `load_nodes`: all of them, the last updated first. -/
def loadNodes : List NodeRow := s.nodes.rows.insertionSort fun a b => b.updatedAt ≤ a.updatedAt

/-- The runtime of a session, as the projections join it. -/
def runtimeOf (st : ThreadRow) : Option ProviderRow :=
  s.runtimeSessions.find? (·.runtimeSessionId == st.runtimeSessionId)

/-- Does the session keep a workspace busy? -/
def isActiveSession (st : ThreadRow) : Bool :=
  [SessionThreadState.active, .detached, .degraded].contains st.state &&
    match runtimeOf s st with
    | some rs => [RuntimeSessionState.starting, .ready, .running, .blocked, .stopping, .interrupted,
        .resuming, .stale].contains rs.state
    | none => false

/-- The placement of a session. -/
def placementOf (st : ThreadRow) : Option ProjectRow :=
  s.projectPlacements.find? (·.projectPlacementId == st.projectPlacementId)

/-- `active_workspace_session_count` -/
def activeWorkspaceSessionCount (placement : ProjectRow)
    (excludedSessionId : Option SessionThreadId) : Nat :=
  s.sessionThreads.rows.countP fun st =>
    isActiveSession s st && some st.sessionThreadId != excludedSessionId &&
      match placementOf s st with
      | some pp =>
        pp.nodeId == placement.nodeId && pp.workspacePath == placement.workspacePath
      | none => false

/-- The repository and the branch of a placement, if both are known. -/
def ProjectRow.repoBranch (pp : ProjectRow) : Option (String × String) :=
  pp.gitSnapshot.bind fun snapshot =>
    ((snapshot.get "repo_id").bind (·.asStr)).bind fun repoId =>
      ((snapshot.get "branch").bind (·.asStr)).map fun branch => (repoId, branch)

/-- `active_same_repo_branch_count` -/
def activeSameRepoBranchCount (placement : ProjectRow) : Nat :=
  match placement.repoBranch with
  | none => 0
  | some repoBranch =>
    s.sessionThreads.rows.countP fun st =>
      isActiveSession s st &&
        match placementOf s st with
        | some pp =>
          pp.projectPlacementId != placement.projectPlacementId && pp.repoBranch == some repoBranch
        | none => false

def resourceBadge (kind label : String) : JsonValue :=
  .ofFields [("kind", .string kind), ("severity", .string "warning"), ("label", .string label)]

/-- The badge of a count, if there is something to count. -/
def countBadge (kind before after : String) (count : Nat) : List JsonValue :=
  if count > 0 then [resourceBadge kind (before ++ toString count ++ after)] else []

/-- `add_core_resource_badges` -/
def coreResourceBadges (placement : ProjectRow) (excludedSessionId : Option SessionThreadId) :
    List JsonValue :=
  let stored := match placement.resourceBadges with
    | .array items => items.toList
    | _ => []
  stored.filter (fun badge => badge.get "kind" != some (.string "same_workspace_active") &&
      badge.get "kind" != some (.string "same_repo_branch_active")) ++
    countBadge "same_workspace_active" "Workspace already has " " active session(s)"
      (activeWorkspaceSessionCount s placement excludedSessionId) ++
    countBadge "same_repo_branch_active" "Same repository branch has "
      " active session(s) elsewhere" (activeSameRepoBranchCount s placement)

/-- A placement as it is shown, with its badges. -/
def ProjectRow.summary (placement : ProjectRow) (resourceBadges : List JsonValue) : JsonValue :=
  .ofFields [("project_placement_id", .string placement.projectPlacementId),
    ("project_id", optionalText placement.projectId), ("node_id", .string placement.nodeId),
    ("display_name", .string placement.displayName),
    ("workspace_path", .string placement.workspacePath),
    ("state", .string (formatPlacementState placement.state)),
    ("resource_badges", .ofItems resourceBadges),
    ("git_snapshot", jsonOption id placement.gitSnapshot),
    ("last_validated_at", optionalInt placement.lastValidatedAt)]

/-- `load_placement_with_excluded_session` -/
def loadPlacement (placementId : ProjectPlacementId) (excludedSessionId : Option SessionThreadId) :
    Except AppError JsonValue :=
  match s.projectPlacements.find? (·.projectPlacementId == placementId) with
  | none => .error (.notFound "placement.not_found" "Placement not found")
  | some placement => .ok (placement.summary (coreResourceBadges s placement excludedSessionId))

/-- `load_sessions`: all of them with their runtimes, the last updated first. -/
def loadSessions : List (ThreadRow × ProviderRow) :=
  (s.sessionThreads.rows.insertionSort fun a b => b.updatedAt ≤ a.updatedAt).filterMap fun st =>
    (runtimeOf s st).map fun rs => (st, rs)

/-- `load_messages` -/
def loadMessages (sessionThreadId : SessionThreadId) : List MessageRow :=
  (s.messages.select (·.sessionThreadId == sessionThreadId)).insertionSort
    fun a b => a.createdAt ≤ b.createdAt

/-- `load_scheduled_messages` -/
def loadScheduledMessages (sessionThreadId : SessionThreadId) : List JsonValue :=
  ((s.scheduledMessages.select (·.sessionThreadId == sessionThreadId)).insertionSort
    fun a b => b.dueAt < a.dueAt ∨ b.dueAt = a.dueAt ∧ b.createdAt ≤ a.createdAt).map (·.shown)

def MessageRow.shown (m : MessageRow) : JsonValue :=
  .ofFields [("message_id", .string m.messageId), ("session_thread_id", .string m.sessionThreadId),
    ("turn_id", optionalText m.turnId), ("role", .string (formatMessageRole m.role)),
    ("content", .string m.content), ("created_at", .int m.createdAt),
    ("completed_at", optionalInt m.completedAt),
    ("source_event_id", optionalText m.sourceEventId)]

/-- `row_to_session` -/
def sessionSummary (st : ThreadRow) (rs : ProviderRow) (messageCount : Nat) : JsonValue :=
  .ofFields [("session_thread_id", .string st.sessionThreadId),
    ("project_placement_id", .string st.projectPlacementId),
    ("runtime_session_id", .string st.runtimeSessionId), ("title", .string st.title),
    ("state", .string (formatSessionState st.state)),
    ("runtime", .ofFields [("runtime_session_id", .string st.runtimeSessionId),
      ("provider", .string rs.provider), ("state", .string (formatRuntimeState rs.state)),
      ("resume_supported", .bool rs.resumeSupported),
      ("degraded_reason", optionalText rs.degradedReason),
      ("last_runtime_step_at", optionalInt rs.lastRuntimeStepAt)]),
    ("message_count", .int messageCount), ("updated_at", .int st.updatedAt)]

/-- What `load_session_detail` reads. -/
structure SessionDetail where
  session : ThreadRow
  runtime : ProviderRow
  placement : JsonValue
  messages : List MessageRow
  events : List EventEnvelope
  scheduledMessages : List JsonValue

/-- `load_session_detail` -/
def loadSessionDetail (sessionThreadId : SessionThreadId) : Except AppError SessionDetail :=
  match (loadSessions s).find? (·.1.sessionThreadId == sessionThreadId) with
  | none => .error (.notFound "session.not_found" "Session not found")
  | some (st, rs) =>
    (loadPlacement s st.projectPlacementId (some sessionThreadId)).map fun placement =>
      ⟨st, rs, placement, loadMessages s sessionThreadId, loadEvents s.events sessionThreadId 0,
        loadScheduledMessages s sessionThreadId⟩

def SessionDetail.shown (detail : SessionDetail) : JsonValue :=
  .ofFields [("session", sessionSummary detail.session detail.runtime detail.messages.length),
    ("placement", detail.placement), ("messages", .ofItems (detail.messages.map (·.shown))),
    ("events", .ofItems (detail.events.map showing.event)),
    ("scheduled_messages", .ofItems detail.scheduledMessages)]

/-- `build_session_trace_projection` shows the messages and the events of the detail. -/
def sessionTrace (sessionThreadId : SessionThreadId) : Except AppError JsonValue :=
  (loadSessionDetail s sessionThreadId).map fun detail =>
    showing.trace sessionThreadId detail.runtime.provider detail.messages detail.events now

/-- `inspect_capabilities` -/
def capabilityItems (nodeId : NodeId) (capabilityKey : Option String) : List JsonValue :=
  (((s.nodeCapabilities.select (·.nodeId == nodeId)).filter fun r =>
      capabilityKey.isNone || capabilityKey == some r.capabilityKey).insertionSort
    fun a b => a.capabilityKey ≤ b.capabilityKey).map fun r =>
      .ofFields [("capability_key", .string r.capabilityKey), ("value", r.value),
        ("updated_at", .int r.updatedAt)]

def capabilityAnswer (nodeId : NodeId) (items : List JsonValue) : JsonValue :=
  .ofFields [("node_id", .string nodeId), ("items", .ofItems items)]

end Reads

/-! ## 4. Calls -/

/-- The native tools that read. -/
inductive NativeReadTool where
  | nodeInspect | workspaceInspect | sessionInspect | traceResolve | capabilityInspect
  deriving DecidableEq

def NativeReadTool.toolId : NativeReadTool → ToolId
  | nodeInspect => "uprava.node.inspect"
  | workspaceInspect => "uprava.workspace.inspect"
  | sessionInspect => "uprava.session.inspect"
  | traceResolve => "uprava.trace.resolve"
  | capabilityInspect => "uprava.capability.inspect"

/-- The argument that names what a tool reads. -/
def NativeReadTool.argument : NativeReadTool → String
  | nodeInspect | capabilityInspect => "node_id"
  | workspaceInspect => "placement_id"
  | sessionInspect | traceResolve => "session_thread_id"

/-- A reference in a result. -/
def upravaRef (kind key id : String) : JsonValue :=
  .ofFields [("kind", .string kind), (key, .string id)]

/-- What a tool answers about the object that an id names. -/
def NativeReadTool.answer (showing : Showing) (now : DateTime) (s : Inventory)
    (arguments : JsonValue) (id : String) : NativeReadTool →
      Except ToolExecutionError (JsonValue × List JsonValue)
  | nodeInspect =>
    match (loadNodes s).find? (·.nodeId == id) with
    | some node => .ok (node.summary showing now, [upravaRef "node" "node_id" id])
    | none => .error (toolError .backendFailed "Node not found" false)
  | workspaceInspect =>
    match loadPlacement s id none with
    | .ok placement => .ok (placement, [upravaRef "workspace" "placement_id" id])
    | .error e => .error (appToolError e)
  | sessionInspect =>
    match loadSessionDetail s id with
    | .ok detail => .ok (detail.shown showing, [upravaRef "session" "session_thread_id" id])
    | .error e => .error (appToolError e)
  | traceResolve =>
    match sessionTrace showing now s id with
    | .ok trace => .ok (trace, [upravaRef "session" "session_thread_id" id])
    | .error e => .error (appToolError e)
  | capabilityInspect =>
    let capabilityKey := (arguments.get "capability_key").bind (·.asStr)
    .ok (capabilityAnswer id (capabilityItems s id capabilityKey), [upravaRef "node" "node_id" id])

/-- `execute_tool_route`, for these tools. -/
def NativeReadTool.route (tool : NativeReadTool) (showing : Showing) (now : DateTime)
    (s : Inventory) (arguments : JsonValue) : RouteOutcome :=
  match stringArgument arguments tool.argument with
  | .error e => .failed e
  | .ok id =>
    match tool.answer showing now s arguments id with
    | .ok (content, refs) => .content content refs
    | .error e => .failed e

/-- A property of a schema that is a text with something in it. -/
def textProperty (key : String) : String × JsonValue :=
  (key, .ofFields [("type", .string "string"), ("minLength", .int 1)])

def NativeReadTool.inputSchema (tool : NativeReadTool) : JsonValue :=
  let optional := match tool with
    | capabilityInspect => [textProperty "capability_key"]
    | _ => []
  .ofFields [("type", .string "object"),
    ("properties", .ofFields (textProperty tool.argument :: optional)),
    ("required", .ofItems [.string tool.argument]), ("additionalProperties", .bool false)]

/-- `native_tool_definitions`: the name, the title and the description of a tool. -/
def NativeReadTool.texts : NativeReadTool → String × String × String
  | nodeInspect =>
    ("node.inspect", "Inspect node", "Read Core-owned Node state and safe capabilities.")
  | workspaceInspect => ("workspace.inspect", "Inspect workspace",
    "Read Core-owned project placement and workspace state.")
  | sessionInspect => ("session.inspect", "Inspect session",
    "Read one Core-owned agent session and its current projection.")
  | traceResolve =>
    ("trace.resolve", "Resolve trace", "Read the structured trace projection for one session.")
  | capabilityInspect => ("capability.inspect", "Inspect capability",
    "Read safe capability state observed for one Node.")

/-- `native_definition`. The hash of the schema is a parameter. -/
def NativeReadTool.definition (tool : NativeReadTool) (schemaHash : String) (now : DateTime) :
    ToolDefinition where
  toolId := tool.toolId
  sourceId := nativeSourceId
  sourceKind := .upravaNative
  sourceToolName := tool.texts.1
  version := 1
  displayName := tool.texts.2.1
  shortDescription := tool.texts.2.2
  documentationUrl := none
  inputSchema := tool.inputSchema
  outputSchema := none
  schemaHash
  riskLevel := .readOnly
  requiredPermissions := []
  executionKind := .coreNative
  approvalPolicy := .allow
  redaction := ⟨[], [], false, false, toolSummaryMaxBytes⟩
  state := .active
  createdAt := now
  updatedAt := now

/-- A call under a lease: its identifiers, its scope and its arguments. -/
structure LeaseToolCall where
  toolCallId : ToolCallId
  correlationId : CorrelationId
  scope : ToolScope
  arguments : JsonValue

/-- What `execute_tool` answers to a call. -/
def NativeReadTool.respond (tool : NativeReadTool) (digest : Digest) (showing : Showing)
    (now : DateTime) (s : Inventory) (call : LeaseToolCall) :
    Except AppError ExecuteToolResponse :=
  let available := match loadToolDefinition s.tooling.toolDefinitions tool.toolId with
    | some definition => nativeToolAvailable s definition call.scope
    | none => false
  (executeTool digest s.tooling call.toolCallId call.correlationId
    ⟨call.scope, tool.toolId, call.arguments⟩
    ⟨available, none, tool.route showing now s call.arguments⟩ now).2.response

/-! ## 5. Confinement -/

/-- The foreign keys of the tables that the tools read. -/
structure Inventory.References (s : Inventory) : Prop where
  capability : ∀ r ∈ s.nodeCapabilities.rows, ∃ n ∈ s.nodes.rows, n.nodeId = r.nodeId
  placement : ∀ r ∈ s.projectPlacements.rows, ∃ n ∈ s.nodes.rows, n.nodeId = r.nodeId
  session : ∀ r ∈ s.sessionThreads.rows, ∃ p ∈ s.projectPlacements.rows,
    p.projectPlacementId = r.projectPlacementId
  runtime : ∀ r ∈ s.runtimeSessions.rows, ∃ st ∈ s.sessionThreads.rows,
    st.sessionThreadId = r.sessionThreadId
  message : ∀ r ∈ s.messages.rows, ∃ st ∈ s.sessionThreads.rows,
    st.sessionThreadId = r.sessionThreadId
  scheduled : ∀ r ∈ s.scheduledMessages.rows, ∃ st ∈ s.sessionThreads.rows,
    st.sessionThreadId = r.sessionThreadId

/-- A database in which a lease is valid, the tool is registered as Core registers it, and the
    identifier of the call is new. -/
structure LeaseHolds (claims : McpAccessLeaseClaims) (tool : NativeReadTool)
    (toolCallId : ToolCallId) (s : Inventory) : Prop where
  references : s.References
  identity : ∃ sessionState, sessionState ≠ .stopped ∧
    loadScopedIdentityForSession s claims.sessionThreadId =
      some ⟨claims.nodeId, claims.projectId, claims.projectPlacementId, sessionState⟩
  registered : ∃ schemaHash version createdAt updatedAt,
    loadToolDefinition s.tooling.toolDefinitions tool.toolId =
      some { tool.definition schemaHash createdAt with version, updatedAt }
  unused : ∀ r ∈ s.tooling.toolCalls.rows, r.toolCallId ≠ toolCallId

/-- Two databases agree on the rows of a lease's Node, placement and session. -/
structure AgreeOn (claims : McpAccessLeaseClaims) (s t : Inventory) : Prop where
  node : s.nodes.find? (·.nodeId == claims.nodeId) = t.nodes.find? (·.nodeId == claims.nodeId)
  capabilities : s.nodeCapabilities.select (·.nodeId == claims.nodeId) =
    t.nodeCapabilities.select (·.nodeId == claims.nodeId)
  placement : s.projectPlacements.find? (·.projectPlacementId == claims.projectPlacementId) =
    t.projectPlacements.find? (·.projectPlacementId == claims.projectPlacementId)
  session : s.sessionThreads.find? (·.sessionThreadId == claims.sessionThreadId) =
    t.sessionThreads.find? (·.sessionThreadId == claims.sessionThreadId)
  runtime : ∀ st, s.sessionThreads.find? (·.sessionThreadId == claims.sessionThreadId) = some st →
    runtimeOf s st = runtimeOf t st
  messages : s.messages.select (·.sessionThreadId == claims.sessionThreadId) =
    t.messages.select (·.sessionThreadId == claims.sessionThreadId)
  events : s.events.select (·.sessionThreadId == some claims.sessionThreadId) =
    t.events.select (·.sessionThreadId == some claims.sessionThreadId)
  scheduled : s.scheduledMessages.select (·.sessionThreadId == claims.sessionThreadId) =
    t.scheduledMessages.select (·.sessionThreadId == claims.sessionThreadId)

/-- The answer to a call under a lease is the same in all databases that agree on its rows. -/
def NativeReadTool.Confined (tool : NativeReadTool) (showing : Showing)
    (claims : McpAccessLeaseClaims) (arguments : JsonValue) : Prop :=
  ∀ digest now call s t, call.arguments = arguments → leaseScopeMatches claims call.scope = true →
    LeaseHolds claims tool call.toolCallId s → LeaseHolds claims tool call.toolCallId t →
      AgreeOn claims s t →
        tool.respond digest showing now s call = tool.respond digest showing now t call

/-- A result is within the limit. -/
def Fits (content : JsonValue) : Prop := content.encode.utf8ByteSize ≤ toolResultMaxBytes

/-- A row of the lease's placement. -/
def ProjectRow.IsOf (claims : McpAccessLeaseClaims) (row : ProjectRow) : Prop :=
  row.projectPlacementId = claims.projectPlacementId ∧ row.nodeId = claims.nodeId ∧
    row.projectId = claims.projectId

/-- A row of the lease's session. -/
def ThreadRow.IsOf (claims : McpAccessLeaseClaims) (st : ThreadRow) : Prop :=
  st.sessionThreadId = claims.sessionThreadId ∧
    st.projectPlacementId = claims.projectPlacementId ∧ st.state ≠ .stopped

/-- What the arguments name is the lease's own, and nothing else shows in the answer. The badges
    of a placement count the sessions of others, so the lease's own placement, and its session with
    it, are confined only if their identifiers are so long that no answer is within the limit. -/
def NativeReadTool.NamesOwn (showing : Showing) (claims : McpAccessLeaseClaims) (id : String) :
    NativeReadTool → Prop
  | nodeInspect => id = claims.nodeId
  | traceResolve => id = claims.sessionThreadId
  | capabilityInspect => id = claims.nodeId ∨ ¬ Fits (capabilityAnswer id [])
  | workspaceInspect => id = claims.projectPlacementId ∧
      ∀ row : ProjectRow, row.IsOf claims → ¬ Fits (row.summary [])
  | sessionInspect => id = claims.sessionThreadId ∧
      ∀ (row : ProjectRow) (st : ThreadRow) (rs : ProviderRow), row.IsOf claims → st.IsOf claims →
        ¬ Fits ((SessionDetail.mk st rs (row.summary []) [] [] []).shown showing)

/-- The call is refused before it reads, or its arguments name what is the lease's own. -/
def NativeReadTool.ReadsOwn (tool : NativeReadTool) (showing : Showing)
    (claims : McpAccessLeaseClaims) (arguments : JsonValue) : Prop :=
  toolIsVisibleToActor claims.actorRef = true →
    validateArguments tool.inputSchema arguments = .ok () →
      ∀ id, stringArgument arguments tool.argument = .ok id → tool.NamesOwn showing claims id

/-! ## 6. What a lookup finds -/

section Lookups

variable {showing : Showing} {now : DateTime} {s t : Inventory} {claims : McpAccessLeaseClaims}

theorem find?_loadNodes (s : Inventory) (id : NodeId) :
    (loadNodes s).find? (·.nodeId == id) = s.nodes.find? (·.nodeId == id) := by
  refine find?_of_perm (List.perm_insertionSort ..) fun a b ha hb => ?_
  rw [beq_iff_eq] at ha hb
  exact ha.trans hb.symm

/-- The list of sessions has a session with its runtime, if it has one. -/
theorem find?_loadSessions (s : Inventory) (id : SessionThreadId) :
    (loadSessions s).find? (·.1.sessionThreadId == id) =
      (s.sessionThreads.find? (·.sessionThreadId == id)).bind fun st =>
        (runtimeOf s st).map fun rs => (st, rs) := by
  have hperm := List.perm_insertionSort
    (fun a b : ThreadRow => b.updatedAt ≤ a.updatedAt) s.sessionThreads.rows
  have hhas : ∀ st : ThreadRow, ((runtimeOf s st).map fun rs => (st, rs)).any
      (·.1.sessionThreadId == id) = ((runtimeOf s st).isSome && st.sessionThreadId == id) := by
    intro st
    cases runtimeOf s st <;> simp
  have hkey : ∀ a b : ThreadRow, (a.sessionThreadId == id) = true →
      (b.sessionThreadId == id) = true → Schema.clash a b := by
    intro a b ha hb
    rw [beq_iff_eq] at ha hb
    exact Or.inl (ha.trans hb.symm)
  rw [loadSessions, List.find?_filterMap]
  simp only [hhas]
  rw [find?_of_perm hperm fun a b ha hb =>
    hkey a b (Bool.and_eq_true _ _ ▸ ha).2 (Bool.and_eq_true _ _ ▸ hb).2, find?_and hkey]
  cases s.sessionThreads.find? (·.sessionThreadId == id) with
  | none => rfl
  | some st =>
    cases hruntime : runtimeOf s st with
    | none => simp [Option.filter, hruntime]
    | some rs => simp [Option.filter, hruntime]

/-- The session of a lease, with its placement. -/
theorem LeaseHolds.rows {tool : NativeReadTool} {toolCallId : ToolCallId}
    (h : LeaseHolds claims tool toolCallId s) :
    ∃ st pp, s.sessionThreads.find? (·.sessionThreadId == claims.sessionThreadId) = some st ∧
      st.IsOf claims ∧
      s.projectPlacements.find? (·.projectPlacementId == claims.projectPlacementId) = some pp ∧
      pp.IsOf claims := by
  obtain ⟨sessionState, hstate, hidentity⟩ := h.identity
  rw [loadScopedIdentityForSession, Option.bind_eq_some_iff] at hidentity
  obtain ⟨st, hst, hidentity⟩ := hidentity
  obtain ⟨pp, hpp, heq⟩ := Option.map_eq_some_iff.mp hidentity
  injection heq with hnode hproject hplacement hsession
  have hid : st.sessionThreadId = claims.sessionThreadId := by simpa using find?_pos hst
  have hof : pp.projectPlacementId = st.projectPlacementId := by simpa using find?_pos hpp
  have hplaced : st.projectPlacementId = claims.projectPlacementId := hof.symm.trans hplacement
  rw [hplaced] at hpp
  exact ⟨st, pp, hst, ⟨hid, hplaced, hsession ▸ hstate⟩, hpp, hplacement, hnode, hproject⟩

theorem AgreeOn.loadEvents_eq (h : AgreeOn claims s t) :
    loadEvents s.events claims.sessionThreadId 0 = loadEvents t.events claims.sessionThreadId 0 := by
  have hselect : ∀ events : Table EventRow,
      events.select (EventRow.isAfter claims.sessionThreadId 0) =
        (events.select (·.sessionThreadId == some claims.sessionThreadId)).filter
          fun r => r.sessionProjectionSeq.any (0 < ·) := by
    intro events
    rw [select, select, List.filter_filter]
    exact List.filter_congr fun r _ => Bool.and_comm ..
  rw [loadEvents, loadEvents, hselect, hselect, h.events]

end Lookups

/-! ## 7. What a call answers -/

section Answers

variable {tool : NativeReadTool} {digest : Digest} {showing : Showing} {now : DateTime}
  {s t : Inventory} {claims : McpAccessLeaseClaims} {call : LeaseToolCall}

/-- Nothing is redacted in the results of these tools. -/
def nothingRedacted : ToolRedactionPolicy := ⟨[], [], false, false, toolSummaryMaxBytes⟩

/-- What becomes of an answer of a tool. -/
def endOfAnswer (answer : Except ToolExecutionError (JsonValue × List JsonValue)) : ToolCallEnd :=
  endOfRoute nothingRedacted <|
    match answer with
    | .ok (content, refs) => .content content refs
    | .error e => .failed e

/-- How a call ends. -/
def NativeReadTool.ending (tool : NativeReadTool) (showing : Showing) (now : DateTime)
    (s : Inventory) (actorRef : ActorRef) (arguments : JsonValue) : ToolCallEnd :=
  if !toolIsVisibleToActor actorRef then endWithError .denied deniedError
  else
    match validateArguments tool.inputSchema arguments with
    | .error message => endWithError .failed (toolError .invalidArguments message false)
    | .ok () =>
      match stringArgument arguments tool.argument with
      | .error e => endOfAnswer (.error e)
      | .ok id => endOfAnswer (tool.answer showing now s arguments id)

theorem leaseScopeMatches_iff {scope : ToolScope} : leaseScopeMatches claims scope = true ↔
    scope = ⟨claims.actorRef, some claims.nodeId, claims.projectId,
      some claims.projectPlacementId, some claims.sessionThreadId⟩ := by
  obtain ⟨actorRef, nodeId, projectId, placementId, sessionThreadId⟩ := scope
  simp only [leaseScopeMatches, Bool.and_eq_true, beq_iff_eq, ToolScope.mk.injEq]
  constructor
  · intro ⟨⟨⟨⟨hactor, hsession⟩, hproject⟩, hplacement⟩, hnode⟩
    exact ⟨hactor.symm, hnode, hproject, hplacement, hsession⟩
  · intro ⟨hactor, hnode, hproject, hplacement, hsession⟩
    exact ⟨⟨⟨⟨hactor.symm, hsession⟩, hproject⟩, hplacement⟩, hnode⟩

/-- The scope of the call is the session's. -/
theorem LeaseHolds.validateToolScope_isSome (h : LeaseHolds claims tool call.toolCallId s)
    (hscope : leaseScopeMatches claims call.scope = true) :
    (validateToolScope s call.scope).toOption.isSome = true := by
  obtain ⟨sessionState, hstate, hidentity⟩ := h.identity
  rw [leaseScopeMatches_iff] at hscope
  rw [validateToolScope, hscope, Option.bind_some, hidentity]
  simp [hstate, Except.toOption]

/-- A call with a new identifier is put down, and goes its way. -/
theorem runWrites_ok {newCall : NewCall} {tooling : Tooling} (writes : List CallWrite)
    (hunused : ∀ r ∈ tooling.toolCalls.rows, r.toolCallId ≠ newCall.toolCallId)
    (hinsert : CallWrite.insert ∉ writes) :
    (runWrites digest newCall now (openingWrites newCall ++ writes) tooling).2 = .ok () := by
  have hrest : ∀ (writes : List CallWrite) (tooling : Tooling), CallWrite.insert ∉ writes →
      (runWrites digest newCall now writes tooling).2 = .ok () := by
    intro writes
    induction writes with
    | nil => exact fun _ _ => rfl
    | cons write rest ih =>
      intro tooling hnot
      have hrun : ∃ u, write.run digest newCall now tooling = .ok u := by
        cases write with
        | insert => exact absurd (List.mem_cons_self ..) hnot
        | _ => exact ⟨_, rfl⟩
      obtain ⟨u, hu⟩ := hrun
      rw [runWrites, hu]
      exact ih u fun hmem => hnot (List.mem_cons_of_mem _ hmem)
  have hclash : ¬ tooling.toolCalls.Clashes (requestedRow digest newCall now) := by
    intro ⟨r, hr, hclash⟩
    rcases hclash with hid | ⟨hcommand, -, hne⟩
    · exact hunused r hr hid
    · exact hne hcommand
  rw [openingWrites, List.cons_append, runWrites, CallWrite.run, insert?, dif_neg hclash]
  exact hrest _ _ (by simpa using hinsert)

theorem insert_notMem_callWay (newCall : NewCall) (surroundings : Surroundings) :
    CallWrite.insert ∉ (callWay newCall surroundings).1 := by
  rw [callWay]
  dsimp only
  split
  · simp [finishWrites]
  · simp [approvalWrites]
  · split
    · simp [authorizedWrites, finishWrites]
    · split
      · simp [authorizedWrites, finishWrites]
      · simp [authorizedWrites, startWrites, finishWrites]

/-- What a call needs of the definition. -/
theorem LeaseHolds.definition (h : LeaseHolds claims tool call.toolCallId s) :
    ∃ d, loadToolDefinition s.tooling.toolDefinitions tool.toolId = some d ∧ d.state = .active ∧
      d.approvalPolicy = .allow ∧ d.inputSchema = tool.inputSchema ∧
      d.redaction = nothingRedacted := by
  obtain ⟨schemaHash, version, createdAt, updatedAt, hregistered⟩ := h.registered
  exact ⟨_, hregistered, rfl, rfl, rfl, rfl⟩

/-- **What a call under a lease answers.** -/
theorem respond_eq (h : LeaseHolds claims tool call.toolCallId s)
    (hscope : leaseScopeMatches claims call.scope = true) :
    tool.respond digest showing now s call = .ok (responseOf call.toolCallId
      (tool.ending showing now s claims.actorRef call.arguments)) := by
  have hvalid := h.validateToolScope_isSome hscope
  have hactor : call.scope.actorRef = claims.actorRef := by rw [leaseScopeMatches_iff.mp hscope]
  obtain ⟨d, hregistered, hstate, hpolicy, hschema, hredaction⟩ := h.definition
  rw [NativeReadTool.respond, executeTool, hregistered]
  dsimp only [Executed.after]
  rw [runWrites_ok _ h.unused (insert_notMem_callWay _ _)]
  refine congrArg Except.ok ?_
  rw [callWay, NativeReadTool.ending, policyDecision, nativeToolAvailable, hvalid]
  dsimp only
  rw [hactor, hstate, hpolicy, hschema, hredaction]
  cases toolIsVisibleToActor claims.actorRef with
  | false => rfl
  | true =>
    cases validateArguments tool.inputSchema call.arguments with
    | error message => rfl
    | ok _ =>
      rw [NativeReadTool.route]
      cases stringArgument call.arguments tool.argument with
      | error e => rfl
      | ok id => rfl

/-! ### Answers that are told apart -/

theorem endOfAnswer_of_not_fits {content : JsonValue} (refs : List JsonValue)
    (h : ¬ Fits content) : endOfAnswer (.ok (content, refs)) =
      endWithError .failed
        (toolError .resultTooLarge "Tool result exceeds the v1 size limit" false) := by
  have hlarge : content.encode.utf8ByteSize > toolResultMaxBytes := Nat.lt_of_not_le h
  simp [endOfAnswer, endOfRoute, RouteOutcome.result, normalizeToolResult, hlarge]

theorem endOfAnswer_of_fits {content : JsonValue} (refs : List JsonValue) (h : Fits content) :
    ∃ result, endOfAnswer (.ok (content, refs)) = ⟨.completed, some result, none, refs⟩ ∧
      result.content = content := by
  have hsmall : ¬ content.encode.utf8ByteSize > toolResultMaxBytes := Nat.not_lt_of_le h
  simp only [endOfAnswer, endOfRoute, RouteOutcome.result, normalizeToolResult, if_neg hsmall]
  exact ⟨_, rfl, rfl⟩

/-- An answer that is within the limit shows its content. -/
theorem eq_of_responseOf {toolCallId : ToolCallId} {content content' : JsonValue}
    {refs refs' : List JsonValue} (hfits : Fits content)
    (h : responseOf toolCallId (endOfAnswer (.ok (content, refs))) =
      responseOf toolCallId (endOfAnswer (.ok (content', refs')))) : content = content' := by
  obtain ⟨result, hresult, hcontent⟩ := endOfAnswer_of_fits refs hfits
  rw [hresult] at h
  by_cases hfits' : Fits content'
  · obtain ⟨result', hresult', hcontent'⟩ := endOfAnswer_of_fits refs' hfits'
    rw [hresult'] at h
    injection h with _ _ hsame
    rw [← hcontent, Option.some.inj hsame, hcontent']
  · rw [endOfAnswer_of_not_fits refs' hfits'] at h
    injection h with _ hstate
    cases hstate

/-- An error of a route tells that there is no object. -/
theorem responseOf_error_ne {toolCallId : ToolCallId} {message : String} {retryable : Bool}
    {content : JsonValue} {refs : List JsonValue} :
    responseOf toolCallId (endOfAnswer (.error (toolError .backendFailed message retryable))) ≠
      responseOf toolCallId (endOfAnswer (.ok (content, refs))) := by
  intro h
  by_cases hfits : Fits content
  · obtain ⟨result, hresult, -⟩ := endOfAnswer_of_fits refs hfits
    rw [hresult] at h
    injection h with _ hstate
    cases hstate
  · rw [endOfAnswer_of_not_fits refs hfits] at h
    injection h with _ _ _ herror
    injection Option.some.inj herror with hcode
    cases hcode

/-! ### What does not fit stays so -/

theorem fits_iff {content : JsonValue} : Fits content ↔ content.encodedLen ≤ toolResultMaxBytes := by
  rw [Fits, Uprava.Lib.utf8ByteSize_encode]

theorem two_le_encodedLen_ofItems (items : List JsonValue) :
    2 ≤ (Uprava.Lib.JsonValue.ofItems items).encodedLen := by
  rw [Uprava.Lib.encodedLen_ofItems, Uprava.Lib.itemsLen]
  exact Nat.le_add_right ..

theorem encodedLen_ofItems_nil : (Uprava.Lib.JsonValue.ofItems []).encodedLen = 2 := rfl

theorem summary_le (row : ProjectRow) (badges : List JsonValue) :
    (row.summary []).encodedLen ≤ (row.summary badges).encodedLen := by
  have hbadges := two_le_encodedLen_ofItems badges
  refine Uprava.Lib.encodedLen_ofFields_le (by simp) ?_
  simpa using Nat.le_trans (Nat.le_of_eq encodedLen_ofItems_nil) hbadges

theorem encodedLen_int_le (n : Nat) :
    (Uprava.Lib.JsonValue.int (0 : Nat)).encodedLen ≤ (Uprava.Lib.JsonValue.int n).encodedLen := by
  have hlen : ∀ n : Nat, (Uprava.Lib.JsonValue.int n).encodedLen = (Nat.toDigits 10 n).length := by
    intro n
    rw [← Uprava.Lib.chars_natCast]
    exact (String.length_toList (s := toString (n : Int))).symm
  rw [hlen, hlen, Nat.toDigits_zero]
  exact Nat.length_toDigits_pos

theorem shown_le (showing : Showing) (detail : SessionDetail) (row : ProjectRow)
    (badges : List JsonValue) (h : detail.placement = row.summary badges) :
    ((SessionDetail.mk detail.session detail.runtime (row.summary []) [] [] []).shown
      showing).encodedLen ≤ (detail.shown showing).encodedLen := by
  have hplacement := summary_le row badges
  have hsession : (sessionSummary detail.session detail.runtime 0).encodedLen ≤
      (sessionSummary detail.session detail.runtime detail.messages.length).encodedLen := by
    have hcount := encodedLen_int_le detail.messages.length
    refine Uprava.Lib.encodedLen_ofFields_le (by simp) ?_
    simpa using hcount
  have hmessages := two_le_encodedLen_ofItems (detail.messages.map (·.shown))
  have hevents := two_le_encodedLen_ofItems (detail.events.map showing.event)
  have hscheduled := two_le_encodedLen_ofItems detail.scheduledMessages
  refine Uprava.Lib.encodedLen_ofFields_le (by simp) ?_
  exact .cons ⟨rfl, hsession⟩ (.cons ⟨rfl, h ▸ hplacement⟩ (.cons ⟨rfl, hmessages⟩
    (.cons ⟨rfl, hevents⟩ (.cons ⟨rfl, hscheduled⟩ .nil))))

end Answers

/-! ## 8. What is the lease's own shows nothing else -/

section Own

variable {tool : NativeReadTool} {digest : Digest} {showing : Showing} {now : DateTime}
  {s t : Inventory} {claims : McpAccessLeaseClaims} {call : LeaseToolCall} {toolCallId : ToolCallId}

theorem AgreeOn.capabilityItems_eq (h : AgreeOn claims s t) (capabilityKey : Option String) :
    capabilityItems s claims.nodeId capabilityKey = capabilityItems t claims.nodeId capabilityKey := by
  rw [capabilityItems, capabilityItems, h.capabilities]

/-- The session of a lease, with its runtime, in both. -/
theorem AgreeOn.find?_loadSessions_eq (h : AgreeOn claims s t) :
    (loadSessions s).find? (·.1.sessionThreadId == claims.sessionThreadId) =
      (loadSessions t).find? (·.1.sessionThreadId == claims.sessionThreadId) := by
  rw [find?_loadSessions, find?_loadSessions, ← h.session]
  cases hst : s.sessionThreads.find? (·.sessionThreadId == claims.sessionThreadId) with
  | none => rfl
  | some st =>
    rw [Option.bind_some, Option.bind_some, h.runtime st hst]

/-- The detail of a lease's session: not found, or with the session and a placement of the
    lease. -/
theorem LeaseHolds.loadSessionDetail_cases (h : LeaseHolds claims tool toolCallId s) :
    (loadSessions s).find? (·.1.sessionThreadId == claims.sessionThreadId) = none ∧
        loadSessionDetail s claims.sessionThreadId =
          .error (.notFound "session.not_found" "Session not found") ∨
      ∃ (st : ThreadRow) (rs : ProviderRow) (row : ProjectRow) (badges : List JsonValue),
        st.IsOf claims ∧ row.IsOf claims ∧
        (loadSessions s).find? (·.1.sessionThreadId == claims.sessionThreadId) = some (st, rs) ∧
        loadSessionDetail s claims.sessionThreadId = .ok ⟨st, rs, row.summary badges,
          loadMessages s claims.sessionThreadId, loadEvents s.events claims.sessionThreadId 0,
          loadScheduledMessages s claims.sessionThreadId⟩ := by
  obtain ⟨st, pp, hst, hstOf, hpp, hppOf⟩ := h.rows
  have hfind := find?_loadSessions s claims.sessionThreadId
  rw [hst, Option.bind_some] at hfind
  cases hruntime : runtimeOf s st with
  | none =>
    rw [hruntime] at hfind
    exact Or.inl ⟨hfind, by rw [loadSessionDetail, hfind]; rfl⟩
  | some rs =>
    rw [hruntime] at hfind
    refine Or.inr ⟨st, rs, pp, coreResourceBadges s pp (some claims.sessionThreadId), hstOf, hppOf,
      hfind, ?_⟩
    rw [loadSessionDetail, hfind]
    show (loadPlacement s st.projectPlacementId (some claims.sessionThreadId)).map _ = _
    rw [loadPlacement, hstOf.2.1, hpp]
    rfl

/-- The trace shows nothing of the placement. -/
theorem AgreeOn.sessionTrace_eq (hs : LeaseHolds claims tool toolCallId s)
    (ht : LeaseHolds claims tool toolCallId t) (h : AgreeOn claims s t) :
    sessionTrace showing now s claims.sessionThreadId =
      sessionTrace showing now t claims.sessionThreadId := by
  have hmessages : loadMessages s claims.sessionThreadId = loadMessages t claims.sessionThreadId := by
    rw [loadMessages, loadMessages, h.messages]
  rw [sessionTrace, sessionTrace]
  rcases hs.loadSessionDetail_cases with ⟨hnone, hs'⟩ | ⟨st, rs, row, badges, -, -, hsome, hs'⟩ <;>
    rcases ht.loadSessionDetail_cases with ⟨hnone', ht'⟩ | ⟨st', rs', row', badges', -, -, hsome', ht'⟩
  · rw [hs', ht']
  · rw [h.find?_loadSessions_eq, hsome'] at hnone
    cases hnone
  · rw [h.find?_loadSessions_eq, hnone'] at hsome
    cases hsome
  · rw [h.find?_loadSessions_eq, hsome'] at hsome
    injection hsome with hsame
    injection hsame with hst hrs
    rw [hs', ht', hst, hrs, hmessages, h.loadEvents_eq]
    rfl

/-- **What a tool answers about the lease's own depends on the lease's rows alone.** -/
theorem endOfAnswer_eq (hs : LeaseHolds claims tool toolCallId s)
    (ht : LeaseHolds claims tool toolCallId t) (h : AgreeOn claims s t) (arguments : JsonValue)
    {id : String} (hown : tool.NamesOwn showing claims id) :
    endOfAnswer (tool.answer showing now s arguments id) =
      endOfAnswer (tool.answer showing now t arguments id) := by
  cases tool with
  | nodeInspect =>
    obtain rfl : id = claims.nodeId := hown
    rw [NativeReadTool.answer, NativeReadTool.answer, find?_loadNodes, find?_loadNodes, h.node]
  | traceResolve =>
    obtain rfl : id = claims.sessionThreadId := hown
    rw [NativeReadTool.answer, NativeReadTool.answer, h.sessionTrace_eq hs ht]
  | capabilityInspect =>
    rw [NativeReadTool.answer, NativeReadTool.answer]
    rcases hown with rfl | hlong
    · rw [h.capabilityItems_eq]
    · have hlonger : ∀ items, ¬ Fits (capabilityAnswer id items) := by
        intro items hfits
        refine hlong (fits_iff.mpr (Nat.le_trans ?_ (fits_iff.mp hfits)))
        refine Uprava.Lib.encodedLen_ofFields_le (by simp) ?_
        exact .cons ⟨rfl, Nat.le_refl _⟩ (.cons ⟨rfl, two_le_encodedLen_ofItems items⟩ .nil)
      rw [endOfAnswer_of_not_fits _ (hlonger _), endOfAnswer_of_not_fits _ (hlonger _)]
  | workspaceInspect =>
    obtain ⟨rfl, hlong⟩ := hown
    have hanswer : ∀ {u}, LeaseHolds claims .workspaceInspect toolCallId u →
        endOfAnswer (NativeReadTool.answer showing now u arguments claims.projectPlacementId
          .workspaceInspect) = endWithError .failed
            (toolError .resultTooLarge "Tool result exceeds the v1 size limit" false) := by
      intro u hu
      obtain ⟨st, pp, -, -, hpp, hppOf⟩ := hu.rows
      rw [NativeReadTool.answer, loadPlacement, hpp]
      refine endOfAnswer_of_not_fits _ fun hfits => hlong pp hppOf ?_
      exact fits_iff.mpr (Nat.le_trans (summary_le pp _) (fits_iff.mp hfits))
    rw [hanswer hs, hanswer ht]
  | sessionInspect =>
    obtain ⟨rfl, hlong⟩ := hown
    have htooLong : ∀ {st : ThreadRow} {rs : ProviderRow} {row : ProjectRow} {badges messages events
        scheduled}, st.IsOf claims → row.IsOf claims →
          ¬ Fits ((SessionDetail.mk st rs (row.summary badges) messages events scheduled).shown
            showing) := by
      intro st rs row badges messages events scheduled hst hrow hfits
      refine hlong row st rs hrow hst (fits_iff.mpr (Nat.le_trans ?_ (fits_iff.mp hfits)))
      exact shown_le showing ⟨st, rs, row.summary badges, messages, events, scheduled⟩ row badges rfl
    rw [NativeReadTool.answer, NativeReadTool.answer]
    rcases hs.loadSessionDetail_cases with ⟨hnone, hs'⟩ | ⟨st, rs, row, badges, hst, hrow, hsome, hs'⟩ <;>
      rcases ht.loadSessionDetail_cases with
        ⟨hnone', ht'⟩ | ⟨st', rs', row', badges', hst', hrow', hsome', ht'⟩
    · rw [hs', ht']
    · rw [h.find?_loadSessions_eq, hsome'] at hnone
      cases hnone
    · rw [h.find?_loadSessions_eq, hnone'] at hsome
      cases hsome
    · rw [hs', ht']
      dsimp only
      rw [endOfAnswer_of_not_fits _ (htooLong hst hrow), endOfAnswer_of_not_fits _ (htooLong hst' hrow')]

end Own

/-! ## 9. Databases of a lease -/

section Databases

variable (tool : NativeReadTool) (claims : McpAccessLeaseClaims)

/-- The registry of Core with one of its tools. -/
def coreTooling : Tooling where
  toolDefinitions := .single ⟨tool.toolId, nativeSourceId, tool.texts.1, 1, "", .active,
    tool.definition "" 0, 0, 0⟩

def leaseNode : NodeRow := ⟨claims.nodeId, "", .reachable, "awake", none, 0, .emptyObject, "", 0⟩

def leaseRow : ProjectRow where
  projectPlacementId := claims.projectPlacementId
  nodeId := claims.nodeId
  projectId := claims.projectId
  displayName := ""
  workspacePath := ""
  state := .validated
  resourceBadges := .ofItems []
  gitSnapshot := none
  lastValidatedAt := none
  createdAt := 0
  updatedAt := 0

def leaseThread : ThreadRow where
  sessionThreadId := claims.sessionThreadId
  projectPlacementId := claims.projectPlacementId
  runtimeSessionId := ""
  state := .created
  title := ""
  createdAt := 0
  updatedAt := 0

/-- A runtime that is ready. -/
def readyRuntime (sessionThreadId : SessionThreadId) (runtimeSessionId : RuntimeSessionId) :
    ProviderRow where
  sessionThreadId
  runtimeSessionId
  state := .ready
  provider := ""
  resumeSupported := false
  providerResumeRef := none
  degradedReason := none
  lastRuntimeStepAt := none
  createdAt := 0
  updatedAt := 0

/-- A database with a lease's Node, its placement without badges of its own, its session and the
    runtime of it, and nothing else. -/
def leaseInventory (row : ProjectRow) (st : ThreadRow) (rs : ProviderRow) : Inventory where
  tooling := coreTooling tool
  nodes := .single (leaseNode claims)
  projectPlacements := .single { row with resourceBadges := .ofItems [] }
  sessionThreads := .single st
  runtimeSessions := .single { rs with
    runtimeSessionId := st.runtimeSessionId, sessionThreadId := st.sessionThreadId }

variable {tool claims} {s t : Inventory} {toolCallId : ToolCallId}

theorem isOf_leaseRow : (leaseRow claims).IsOf claims := ⟨rfl, rfl, rfl⟩

theorem isOf_leaseThread : (leaseThread claims).IsOf claims := ⟨rfl, rfl, by simp [leaseThread]⟩

theorem loadToolDefinition_coreTooling : loadToolDefinition (coreTooling tool).toolDefinitions
    tool.toolId = some (tool.definition "" 0) := by
  rw [loadToolDefinition, coreTooling, find?_single]
  simp

theorem leaseHolds_leaseInventory {row : ProjectRow} {st : ThreadRow} (rs : ProviderRow)
    (hrow : row.IsOf claims) (hst : st.IsOf claims) :
    LeaseHolds claims tool toolCallId (leaseInventory tool claims row st rs) where
  references := {
    capability := by simp [leaseInventory]
    placement := by simp [leaseInventory, leaseNode, hrow.2.1]
    session := by simp [leaseInventory, hrow.1, hst.2.1]
    runtime := by simp [leaseInventory]
    message := by simp [leaseInventory]
    scheduled := by simp [leaseInventory] }
  identity := by
    refine ⟨st.state, hst.2.2, ?_⟩
    rw [loadScopedIdentityForSession]
    simp [leaseInventory, find?_single, hst.1, hst.2.1, hrow.1, hrow.2.1, hrow.2.2]
  registered := ⟨_, _, _, _, loadToolDefinition_coreTooling⟩
  unused := by simp [leaseInventory, coreTooling]

/-- A lease holds in what agrees on its rows. -/
theorem LeaseHolds.of_agreeOn (hs : LeaseHolds claims tool toolCallId s) (h : AgreeOn claims s t)
    (htooling : t.tooling = s.tooling) (hreferences : t.References) :
    LeaseHolds claims tool toolCallId t where
  references := hreferences
  identity := by
    obtain ⟨st, pp, hst, hstOf, hpp, hppOf⟩ := hs.rows
    refine ⟨st.state, hstOf.2.2, ?_⟩
    rw [loadScopedIdentityForSession, ← h.session, hst, Option.bind_some, hstOf.2.1, ← h.placement,
      hpp, Option.map_some, hppOf.1, hppOf.2.1, hppOf.2.2]
  registered := htooling ▸ hs.registered
  unused := htooling ▸ hs.unused

/-! ### Rows of others -/

/-- A Node of another enters. -/
theorem LeaseHolds.addNode (hs : LeaseHolds claims tool toolCallId s) {n : NodeRow}
    (h : ¬ s.nodes.Clashes n) (hn : n.nodeId ≠ claims.nodeId) :
    LeaseHolds claims tool toolCallId { s with nodes := s.nodes.push n h } ∧
      AgreeOn claims s { s with nodes := s.nodes.push n h } := by
  have hagree : AgreeOn claims s { s with nodes := s.nodes.push n h } :=
    { node := by simp [find?_push, hn], capabilities := rfl, placement := rfl, session := rfl
      runtime := fun _ _ => rfl, messages := rfl, events := rfl, scheduled := rfl }
  have hmem : ∀ {nodeId : NodeId}, (∃ r ∈ s.nodes.rows, r.nodeId = nodeId) →
      ∃ r ∈ (s.nodes.push n h).rows, r.nodeId = nodeId := by
    rintro nodeId ⟨r, hr, hid⟩
    exact ⟨r, List.mem_append_left _ hr, hid⟩
  refine ⟨hs.of_agreeOn hagree rfl ?_, hagree⟩
  exact { hs.references with
    capability := fun r hr => hmem (hs.references.capability r hr)
    placement := fun r hr => hmem (hs.references.placement r hr) }

theorem LeaseHolds.addCapability (hs : LeaseHolds claims tool toolCallId s)
    {c : NodeCapabilityRow} (h : ¬ s.nodeCapabilities.Clashes c) (hc : c.nodeId ≠ claims.nodeId)
    (hnode : ∃ n ∈ s.nodes.rows, n.nodeId = c.nodeId) :
    LeaseHolds claims tool toolCallId { s with nodeCapabilities := s.nodeCapabilities.push c h } ∧
      AgreeOn claims s { s with nodeCapabilities := s.nodeCapabilities.push c h } := by
  have hagree : AgreeOn claims s { s with nodeCapabilities := s.nodeCapabilities.push c h } :=
    { node := rfl, capabilities := by simp [select_push, hc], placement := rfl, session := rfl
      runtime := fun _ _ => rfl, messages := rfl, events := rfl, scheduled := rfl }
  refine ⟨hs.of_agreeOn hagree rfl { hs.references with capability := fun r hr => ?_ }, hagree⟩
  rcases List.mem_append.mp hr with hr | hr
  · exact hs.references.capability r hr
  · obtain rfl := List.mem_singleton.mp hr
    exact hnode

theorem LeaseHolds.addPlacement (hs : LeaseHolds claims tool toolCallId s) {pp : ProjectRow}
    (h : ¬ s.projectPlacements.Clashes pp)
    (hpp : pp.projectPlacementId ≠ claims.projectPlacementId)
    (hnode : ∃ n ∈ s.nodes.rows, n.nodeId = pp.nodeId) :
    LeaseHolds claims tool toolCallId
        { s with projectPlacements := s.projectPlacements.push pp h } ∧
      AgreeOn claims s { s with projectPlacements := s.projectPlacements.push pp h } := by
  have hagree : AgreeOn claims s { s with projectPlacements := s.projectPlacements.push pp h } :=
    { node := rfl, capabilities := rfl, placement := by simp [find?_push, hpp], session := rfl
      runtime := fun _ _ => rfl, messages := rfl, events := rfl, scheduled := rfl }
  refine ⟨hs.of_agreeOn hagree rfl { hs.references with
    placement := fun r hr => ?_
    session := fun r hr => ?_ }, hagree⟩
  · rcases List.mem_append.mp hr with hr | hr
    · exact hs.references.placement r hr
    · obtain rfl := List.mem_singleton.mp hr
      exact hnode
  · obtain ⟨p, hp, hid⟩ := hs.references.session r hr
    exact ⟨p, List.mem_append_left _ hp, hid⟩

/-- A session of another starts, with its runtime. -/
theorem LeaseHolds.addSession (hs : LeaseHolds claims tool toolCallId s) {st : ThreadRow}
    {rs : ProviderRow} (h : ¬ s.sessionThreads.Clashes st) (h' : ¬ s.runtimeSessions.Clashes rs)
    (hst : st.sessionThreadId ≠ claims.sessionThreadId)
    (hplaced : ∃ p ∈ s.projectPlacements.rows, p.projectPlacementId = st.projectPlacementId)
    (hruns : rs.sessionThreadId = st.sessionThreadId)
    (hrs : ∀ a ∈ s.sessionThreads.rows, rs.runtimeSessionId ≠ a.runtimeSessionId) :
    LeaseHolds claims tool toolCallId { s with
        sessionThreads := s.sessionThreads.push st h
        runtimeSessions := s.runtimeSessions.push rs h' } ∧
      AgreeOn claims s { s with
        sessionThreads := s.sessionThreads.push st h
        runtimeSessions := s.runtimeSessions.push rs h' } := by
  have hagree : AgreeOn claims s { s with
      sessionThreads := s.sessionThreads.push st h
      runtimeSessions := s.runtimeSessions.push rs h' } :=
    { node := rfl, capabilities := rfl, placement := rfl, session := by simp [find?_push, hst]
      runtime := fun a ha => by simp [runtimeOf, find?_push, hrs a (mem_of_find? ha)]
      messages := rfl, events := rfl, scheduled := rfl }
  have hmem : ∀ {sessionThreadId : SessionThreadId},
      (∃ a ∈ s.sessionThreads.rows, a.sessionThreadId = sessionThreadId) →
        ∃ a ∈ (s.sessionThreads.push st h).rows, a.sessionThreadId = sessionThreadId := by
    rintro sessionThreadId ⟨a, ha, hid⟩
    exact ⟨a, List.mem_append_left _ ha, hid⟩
  refine ⟨hs.of_agreeOn hagree rfl { hs.references with
    session := fun r hr => ?_
    runtime := fun r hr => ?_
    message := fun r hr => hmem (hs.references.message r hr)
    scheduled := fun r hr => hmem (hs.references.scheduled r hr) }, hagree⟩
  · rcases List.mem_append.mp hr with hr | hr
    · exact hs.references.session r hr
    · obtain rfl := List.mem_singleton.mp hr
      exact hplaced
  · rcases List.mem_append.mp hr with hr | hr
    · exact hmem (hs.references.runtime r hr)
    · obtain rfl := List.mem_singleton.mp hr
      exact ⟨st, List.mem_append_right _ (List.mem_singleton_self st), hruns.symm⟩

/-- Another identifier. -/
def beside (id : String) : String := id ++ "-"

theorem beside_ne (id : String) : beside id ≠ id := by
  intro h
  have hlen := congrArg String.length h
  rw [beside, String.length_append] at hlen
  have hone : ("-").length = 1 := by decide
  omega

end Databases

/-! ## 10. What names another's, shows it -/

section Others

variable {tool : NativeReadTool} {showing : Showing} {claims : McpAccessLeaseClaims}
  {arguments : JsonValue} {id : String}

/-- A call of the lease. -/
def leaseCall (claims : McpAccessLeaseClaims) (arguments : JsonValue) : LeaseToolCall where
  toolCallId := ""
  correlationId := ""
  scope := ⟨claims.actorRef, some claims.nodeId, claims.projectId, some claims.projectPlacementId,
    some claims.sessionThreadId⟩
  arguments

/-- What a tool answers about an object is the same in two databases of a lease. -/
def NativeReadTool.AnswersAlike (tool : NativeReadTool) (showing : Showing)
    (claims : McpAccessLeaseClaims) (arguments : JsonValue) (id : String) : Prop :=
  ∀ s t, LeaseHolds claims tool "" s → LeaseHolds claims tool "" t → AgreeOn claims s t →
    responseOf "" (endOfAnswer (tool.answer showing 0 s arguments id)) =
      responseOf "" (endOfAnswer (tool.answer showing 0 t arguments id))

theorem NativeReadTool.Confined.answersAlike (h : tool.Confined showing claims arguments)
    (hactor : toolIsVisibleToActor claims.actorRef = true)
    (hvalid : validateArguments tool.inputSchema arguments = .ok ())
    (hid : stringArgument arguments tool.argument = .ok id) :
    tool.AnswersAlike showing claims arguments id := by
  intro s t hs ht hagree
  have hscope : leaseScopeMatches claims (leaseCall claims arguments).scope = true :=
    leaseScopeMatches_iff.mpr rfl
  have hsame := h (fun text => text) 0 (leaseCall claims arguments) s t rfl hscope hs ht hagree
  rw [respond_eq hs hscope, respond_eq ht hscope] at hsame
  have hending : ∀ u, tool.ending showing 0 u claims.actorRef (leaseCall claims arguments).arguments =
      endOfAnswer (tool.answer showing 0 u arguments id) := by
    intro u
    rw [NativeReadTool.ending, hactor, leaseCall, hvalid, hid]
    rfl
  rw [hending, hending] at hsame
  exact Except.ok.inj hsame

/-- The database of a lease with the shortest rows. -/
def quietInventory (tool : NativeReadTool) (claims : McpAccessLeaseClaims) : Inventory :=
  leaseInventory tool claims (leaseRow claims) (leaseThread claims) (readyRuntime "" "")

theorem leaseHolds_quiet : LeaseHolds claims tool "" (quietInventory tool claims) :=
  leaseHolds_leaseInventory _ isOf_leaseRow isOf_leaseThread

/-- A Node of another is there. -/
theorem exists_node (hid : id ≠ claims.nodeId) :
    ∃ t n, LeaseHolds claims tool "" t ∧ AgreeOn claims (quietInventory tool claims) t ∧
      t.nodes.find? (·.nodeId == id) = some n ∧ t.nodeCapabilities = .empty := by
  have hclash : ¬ (quietInventory tool claims).nodes.Clashes
      { leaseNode claims with nodeId := id } := by
    intro ⟨a, ha, hclash⟩
    obtain rfl := List.mem_singleton.mp ha
    exact hid hclash.symm
  obtain ⟨ht, hagree⟩ := leaseHolds_quiet.addNode hclash hid
  refine ⟨_, { leaseNode claims with nodeId := id }, ht, hagree, ?_, rfl⟩
  rw [find?_push]
  simp [quietInventory, leaseInventory, find?_single, leaseNode, hid.symm]

theorem nodeInspect_own (h : NativeReadTool.nodeInspect.AnswersAlike showing claims arguments id) :
    id = claims.nodeId := by
  by_contra hid
  obtain ⟨t, n, ht, hagree, hn, -⟩ := (@exists_node .nodeInspect) hid
  have hsame := h _ t leaseHolds_quiet ht hagree
  have hnone : (quietInventory .nodeInspect claims).nodes.find? (·.nodeId == id) = none := by
    rw [quietInventory, leaseInventory, find?_single]
    simp [leaseNode, Ne.symm hid]
  rw [NativeReadTool.answer, NativeReadTool.answer, find?_loadNodes, find?_loadNodes, hn,
    hnone] at hsame
  exact responseOf_error_ne hsame

theorem capabilityItems_one {s : Inventory} {c : NodeCapabilityRow} {key : Option String}
    (hrows : s.nodeCapabilities.rows = [c]) (hc : c.nodeId = id)
    (hkey : c.capabilityKey = key.getD c.capabilityKey) :
    ∃ item, capabilityItems s id key = [item] := by
  have hselected : (key.isNone || key == some c.capabilityKey) = true := by
    cases key with
    | none => rfl
    | some k => simpa using hkey.symm
  rw [capabilityItems, select, hrows]
  simp [hc, hselected]

theorem capabilityInspect_own
    (h : NativeReadTool.capabilityInspect.AnswersAlike showing claims arguments id) :
    id = claims.nodeId ∨ ¬ Fits (capabilityAnswer id []) := by
  by_contra hnot
  rw [not_or, not_not] at hnot
  obtain ⟨hid, hfits⟩ := hnot
  obtain ⟨t, n, ht, hagree, hn, hempty⟩ := (@exists_node .capabilityInspect) hid
  generalize hkey : (arguments.get "capability_key").bind (·.asStr) = key
  have hclash : ¬ t.nodeCapabilities.Clashes ⟨id, key.getD "", .null, 0⟩ := by
    rintro ⟨a, ha, _⟩
    rw [hempty] at ha
    cases ha
  have hnode : n.nodeId = id := by simpa using List.find?_some hn
  obtain ⟨hu, hagree'⟩ := ht.addCapability hclash hid ⟨n, mem_of_find? hn, hnode⟩
  have hsame := h t _ ht hu hagree'
  have hnone : capabilityItems t id key = [] := by
    rw [capabilityItems, hempty]
    rfl
  obtain ⟨item, hitem⟩ := (@capabilityItems_one id
      { t with nodeCapabilities := t.nodeCapabilities.push ⟨id, key.getD "", .null, 0⟩ hclash }
      ⟨id, key.getD "", .null, 0⟩ key) (by rw [rows_push, hempty]; rfl) rfl (by cases key <;> rfl)
  rw [NativeReadTool.answer, NativeReadTool.answer, hkey, hnone, hitem] at hsame
  have hcontent := congrArg (·.get "items") (eq_of_responseOf hfits hsame)
  simp only [capabilityAnswer, Uprava.Lib.JsonValue.get_ofFields] at hcontent
  injection Option.some.inj hcontent with hitems
  cases hitems

/-! ### Placements -/

/-- The session of another on a placement, which is active. -/
def otherThread (claims : McpAccessLeaseClaims) (st : ThreadRow) (id : SessionThreadId) : ThreadRow :=
  { leaseThread claims with
    sessionThreadId := id, runtimeSessionId := beside st.runtimeSessionId, state := .active }

variable {row : ProjectRow} {st : ThreadRow} {rs : ProviderRow}

/-- The database of a lease, with the active session of another on its placement. -/
theorem exists_busy (hrow : row.IsOf claims) (hst : st.IsOf claims)
    (hid : id ≠ claims.sessionThreadId) :
    ∃ t, LeaseHolds claims tool "" t ∧ AgreeOn claims (leaseInventory tool claims row st rs) t ∧
      t.projectPlacements = (leaseInventory tool claims row st rs).projectPlacements ∧
      t.sessionThreads.rows = [st, otherThread claims st id] ∧
      runtimeOf t (otherThread claims st id) =
        some (readyRuntime id (beside st.runtimeSessionId)) := by
  have hs := (@leaseHolds_leaseInventory tool _ ("")) rs hrow hst
  have hne := beside_ne st.runtimeSessionId
  have hst' : st.sessionThreadId ≠ id := hst.1 ▸ hid.symm
  have hclash : ¬ (leaseInventory tool claims row st rs).sessionThreads.Clashes
      (otherThread claims st id) := by
    intro ⟨a, ha, hclash⟩
    obtain rfl := List.mem_singleton.mp ha
    rcases hclash with hsame | hsame
    · exact hst' hsame
    · exact hne hsame.symm
  have hclash' : ¬ (leaseInventory tool claims row st rs).runtimeSessions.Clashes
      (readyRuntime id (beside st.runtimeSessionId)) := by
    intro ⟨a, ha, hclash⟩
    obtain rfl := List.mem_singleton.mp ha
    rcases hclash with hsame | hsame
    · exact hne hsame.symm
    · exact hst' hsame
  obtain ⟨ht, hagree⟩ := hs.addSession hclash hclash' hid
    ⟨_, List.mem_singleton_self _, hrow.1⟩ rfl fun a ha => by
      obtain rfl := List.mem_singleton.mp ha
      exact hne
  refine ⟨_, ht, hagree, rfl, rfl, ?_⟩
  rw [runtimeOf, find?_push]
  simp [leaseInventory, find?_single, otherThread, readyRuntime, hne.symm]

/-- The lease's row as it is stored there: without badges of its own. -/
def ProjectRow.plain (row : ProjectRow) : ProjectRow := { row with resourceBadges := .ofItems [] }

/-- Nobody else is on the placement. -/
theorem coreResourceBadges_alone {excluded : Option SessionThreadId}
    (h : isActiveSession (leaseInventory tool claims row st rs) st = false ∨
      excluded = some st.sessionThreadId) :
    coreResourceBadges (leaseInventory tool claims row st rs) row.plain excluded = [] := by
  have hcount : activeWorkspaceSessionCount (leaseInventory tool claims row st rs) row.plain
      excluded = 0 := by
    rw [activeWorkspaceSessionCount, List.countP_eq_zero]
    intro a ha
    obtain rfl := List.mem_singleton.mp ha
    rcases h with hidle | rfl
    · simp [hidle]
    · simp
  have hbranch : activeSameRepoBranchCount (leaseInventory tool claims row st rs) row.plain = 0 := by
    rw [activeSameRepoBranchCount]
    split
    · rfl
    · rw [List.countP_eq_zero]
      intro a ha
      rw [placementOf, leaseInventory, find?_single]
      split <;> simp_all [ProjectRow.plain]
  rw [coreResourceBadges, hcount, hbranch]
  rfl

/-- The session of another shows in the badges of its placement. -/
theorem coreResourceBadges_busy {s : Inventory} {other : ThreadRow}
    {excluded : Option SessionThreadId} (hmem : other ∈ s.sessionThreads.rows)
    (hactive : isActiveSession s other = true) (hplaced : placementOf s other = some row)
    (hexcluded : some other.sessionThreadId ≠ excluded) : coreResourceBadges s row excluded ≠ [] := by
  have hcount : 0 < activeWorkspaceSessionCount s row excluded := by
    rw [activeWorkspaceSessionCount, List.countP_pos_iff]
    exact ⟨other, hmem, by simp [hactive, hplaced, hexcluded]⟩
  rw [coreResourceBadges, countBadge, if_pos hcount]
  simp

theorem summary_ne {badges : List JsonValue} (h : badges ≠ []) :
    row.summary [] ≠ row.summary badges := by
  intro hsame
  have hget := congrArg (·.get "resource_badges") hsame
  simp only [ProjectRow.summary, Uprava.Lib.JsonValue.get_ofFields] at hget
  cases badges with
  | nil => exact h rfl
  | cons badge rest =>
    injection Option.some.inj hget with hitems
    cases hitems

/-! ### Sessions -/

theorem placementOf_busy {t : Inventory}
    (hplacements : t.projectPlacements = (leaseInventory tool claims row st rs).projectPlacements)
    (hrow : row.IsOf claims) : placementOf t (otherThread claims st id) = some row.plain := by
  rw [placementOf, hplacements, leaseInventory, find?_single]
  simp [otherThread, leaseThread, hrow.1, ProjectRow.plain]

theorem workspaceInspect_own
    (h : NativeReadTool.workspaceInspect.AnswersAlike showing claims arguments id) :
    id = claims.projectPlacementId ∧
      ∀ row : ProjectRow, row.IsOf claims → ¬ Fits (row.summary []) := by
  have hid : id = claims.projectPlacementId := by
    by_contra hid
    have hs : LeaseHolds claims .workspaceInspect "" (quietInventory .workspaceInspect claims) :=
      leaseHolds_quiet
    have hclash : ¬ (quietInventory .workspaceInspect claims).projectPlacements.Clashes
        { leaseRow claims with projectPlacementId := id, workspacePath := "/" } := by
      intro ⟨a, ha, hclash⟩
      obtain rfl := List.mem_singleton.mp ha
      rcases hclash with hsame | ⟨_, hsame⟩
      · exact hid hsame.symm
      · exact absurd (show "" = "/" from hsame) (by decide)
    obtain ⟨ht, hagree⟩ := hs.addPlacement hclash hid ⟨_, List.mem_singleton_self _, rfl⟩
    have hsame := h _ _ hs ht hagree
    have hnone : (quietInventory .workspaceInspect claims).projectPlacements.find?
        (·.projectPlacementId == id) = none := by
      rw [quietInventory, leaseInventory, find?_single]
      simp [leaseRow, Ne.symm hid]
    rw [NativeReadTool.answer, NativeReadTool.answer, loadPlacement, loadPlacement, find?_push,
      hnone] at hsame
    simp only [leaseRow, beq_self_eq_true, Option.none_or, if_true] at hsame
    exact responseOf_error_ne hsame
  refine ⟨hid, fun row hrow hfits => ?_⟩
  have hs := (@leaseHolds_leaseInventory .workspaceInspect _ (""))
    (readyRuntime "" "") hrow ((@isOf_leaseThread claims))
  obtain ⟨t, ht, hagree, hplacements, hrows, hruntime⟩ :=
      (@exists_busy .workspaceInspect _ _ _ _ (readyRuntime "" "")) hrow
    ((@isOf_leaseThread claims)) (beside_ne claims.sessionThreadId)
  have hplacement : (leaseInventory .workspaceInspect claims row (leaseThread claims)
      (readyRuntime "" "")).projectPlacements.find? (·.projectPlacementId == id) =
        some row.plain := by
    rw [leaseInventory, find?_single]
    simp [hrow.1, hid, ProjectRow.plain]
  have hsame := h _ t hs ht hagree
  rw [NativeReadTool.answer, NativeReadTool.answer, loadPlacement, loadPlacement, hplacements,
    hplacement] at hsame
  dsimp only at hsame
  rw [coreResourceBadges_alone (Or.inl rfl)] at hsame
  refine summary_ne ?_ (eq_of_responseOf hfits hsame)
  refine (@coreResourceBadges_busy _ _ (otherThread claims (leaseThread claims) _))
    (hrows ▸ List.mem_cons_of_mem _ (List.mem_singleton_self _)) ?_
    (placementOf_busy hplacements hrow) (by simp)
  rw [isActiveSession, hruntime]
  rfl

/-- A session that is not there is not found; the same session is, once another started it. -/
theorem exists_session (hid : id ≠ claims.sessionThreadId) :
    ∃ t detail, LeaseHolds claims tool "" t ∧ AgreeOn claims (quietInventory tool claims) t ∧
      loadSessionDetail (quietInventory tool claims) id =
        .error (.notFound "session.not_found" "Session not found") ∧
      loadSessionDetail t id = .ok detail := by
  obtain ⟨t, ht, hagree, hplacements, hrows, hruntime⟩ :=
      (@exists_busy tool _ _ _ _ (readyRuntime "" "")) isOf_leaseRow isOf_leaseThread hid
  have hnone : (quietInventory tool claims).sessionThreads.find? (·.sessionThreadId == id) =
      none := by
    rw [quietInventory, leaseInventory, find?_single]
    simp [leaseThread, Ne.symm hid]
  have hsome : t.sessionThreads.find? (·.sessionThreadId == id) =
      some (otherThread claims (leaseThread claims) id) := by
    rw [find?, hrows]
    simp [otherThread, leaseThread, Ne.symm hid]
  have hplacement := (@placementOf_busy _ _ id) hplacements ((@isOf_leaseRow claims))
  have hdetail : ∃ detail, loadSessionDetail t id = .ok detail := by
    rw [loadSessionDetail, find?_loadSessions, hsome, Option.bind_some, hruntime]
    dsimp only [Option.map_some]
    rw [placementOf] at hplacement
    rw [loadPlacement, hplacement]
    exact ⟨_, rfl⟩
  obtain ⟨detail, hdetail⟩ := hdetail
  refine ⟨t, detail, ht, hagree, ?_, hdetail⟩
  rw [loadSessionDetail, find?_loadSessions, hnone]
  rfl

theorem traceResolve_own
    (h : NativeReadTool.traceResolve.AnswersAlike showing claims arguments id) :
    id = claims.sessionThreadId := by
  by_contra hid
  obtain ⟨t, detail, ht, hagree, hnone, hsome⟩ := (@exists_session .traceResolve) hid
  have hsame := h _ t leaseHolds_quiet ht hagree
  rw [NativeReadTool.answer, NativeReadTool.answer, sessionTrace, sessionTrace, hnone,
    hsome] at hsame
  exact responseOf_error_ne hsame

theorem sessionInspect_own
    (h : NativeReadTool.sessionInspect.AnswersAlike showing claims arguments id) :
    id = claims.sessionThreadId ∧
      ∀ (row : ProjectRow) (st : ThreadRow) (rs : ProviderRow), row.IsOf claims → st.IsOf claims →
        ¬ Fits ((SessionDetail.mk st rs (row.summary []) [] [] []).shown showing) := by
  have hid : id = claims.sessionThreadId := by
    by_contra hid
    obtain ⟨t, detail, ht, hagree, hnone, hsome⟩ := (@exists_session .sessionInspect) hid
    have hsame := h _ t leaseHolds_quiet ht hagree
    rw [NativeReadTool.answer, NativeReadTool.answer, hnone, hsome] at hsame
    exact responseOf_error_ne hsame
  refine ⟨hid, fun row st rs hrow hst hfits => ?_⟩
  have hs := (@leaseHolds_leaseInventory .sessionInspect _ ("")) rs hrow hst
  obtain ⟨t, ht, hagree, hplacements, hrows, hruntime⟩ :=
      (@exists_busy .sessionInspect _ _ _ _ rs) hrow hst (beside_ne claims.sessionThreadId)
  have hsame := h _ t hs ht hagree
  -- both find the session with its runtime and the row of its placement
  have hfind : (loadSessions (leaseInventory .sessionInspect claims row st rs)).find?
      (·.1.sessionThreadId == id) = some (st, { rs with
        runtimeSessionId := st.runtimeSessionId, sessionThreadId := st.sessionThreadId }) := by
    rw [find?_loadSessions, leaseInventory, find?_single]
    simp [hid, hst.1, runtimeOf, find?_single]
  have hfind' := hfind
  rw [hid, hagree.find?_loadSessions_eq, ← hid] at hfind'
  have hplacement : (leaseInventory .sessionInspect claims row st rs).projectPlacements.find?
      (·.projectPlacementId == st.projectPlacementId) = some row.plain := by
    rw [leaseInventory, find?_single]
    simp [hst.2.1, hrow.1, ProjectRow.plain]
  have halone : coreResourceBadges (leaseInventory .sessionInspect claims row st rs) row.plain
      (some id) = [] := coreResourceBadges_alone (Or.inr (by rw [hid, hst.1]))
  have hbusy : coreResourceBadges t row.plain (some id) ≠ [] := by
    refine (@coreResourceBadges_busy _ _ (otherThread claims st (beside claims.sessionThreadId)))
      (hrows ▸ List.mem_cons_of_mem _ (List.mem_singleton_self _)) ?_
      (placementOf_busy hplacements hrow) ?_
    · rw [isActiveSession, hruntime]
      rfl
    · intro hsame
      exact beside_ne _ ((Option.some.inj hsame).trans hid)
  rw [NativeReadTool.answer, NativeReadTool.answer, loadSessionDetail, loadSessionDetail, hfind,
    hfind'] at hsame
  dsimp only at hsame
  rw [loadPlacement, loadPlacement, hplacements, hplacement] at hsame
  dsimp only [Except.map] at hsame
  rw [halone] at hsame
  have hcontent := congrArg (·.get "placement") (eq_of_responseOf ?_ hsame)
  · simp only [SessionDetail.shown, Uprava.Lib.JsonValue.get_ofFields] at hcontent
    exact summary_ne hbusy (Option.some.inj hcontent)
  · exact hfits

/-- **What is the same in all databases that agree on a lease's rows is the lease's own.** -/
theorem namesOwn_of_answersAlike (h : tool.AnswersAlike showing claims arguments id) :
    tool.NamesOwn showing claims id := by
  cases tool with
  | nodeInspect => exact nodeInspect_own h
  | workspaceInspect => exact workspaceInspect_own h
  | sessionInspect => exact sessionInspect_own h
  | traceResolve => exact traceResolve_own h
  | capabilityInspect => exact capabilityInspect_own h

end Others

/-! ## 11. Confinement -/

/-- **The answer to a call under a lease is the same in all databases that agree on the lease's
    rows, exactly when the call is refused before it reads, or its arguments name what is the
    lease's own.** -/
theorem tool_confined_iff (tool : NativeReadTool) (showing : Showing)
    (claims : McpAccessLeaseClaims) (arguments : JsonValue) :
    tool.Confined showing claims arguments ↔ tool.ReadsOwn showing claims arguments := by
  constructor
  · intro h hactor hvalid id hid
    exact namesOwn_of_answersAlike (h.answersAlike hactor hvalid hid)
  · intro h digest now call s t hcall hscope hs ht hagree
    have hsame : tool.ending showing now s claims.actorRef call.arguments =
        tool.ending showing now t claims.actorRef call.arguments := by
      rw [NativeReadTool.ending, NativeReadTool.ending, hcall]
      cases hactor : toolIsVisibleToActor claims.actorRef with
      | false => rfl
      | true =>
        cases hvalid : validateArguments tool.inputSchema arguments with
        | error message => rfl
        | ok _ =>
          cases hid : stringArgument arguments tool.argument with
          | error e => rfl
          | ok id => exact endOfAnswer_eq hs ht hagree arguments (h hactor hvalid id hid)
    rw [respond_eq hs hscope, respond_eq ht hscope, hsame]

/-! ### A call that names another Node -/

def nodeLease : McpAccessLeaseClaims where
  leaseId := "lease-1"
  audience := upravaMcpLeaseAudience
  actorRef := .provider "codex"
  sessionThreadId := "session-1"
  projectId := none
  projectPlacementId := "placement-1"
  nodeId := "node-1"
  issuedAt := 0
  expiresAt := 600
  credentialVersion := 1

/-- The thresholds of the configuration; an event and a trace by their ids. -/
def plainShowing : Showing where
  staleAfterSeconds := 15
  offlineAfterSeconds := 45
  event event := .string event.eventId
  trace sessionThreadId _ _ _ _ := .string sessionThreadId

/-- The lease is for `node-1`; whether there is a `node-2` shows in the answer. -/
theorem foreign_node_shows :
    ¬ NativeReadTool.nodeInspect.Confined plainShowing nodeLease
      (.ofFields [("node_id", .string "node-2")]) := by
  intro h
  have hown := nodeInspect_own (h.answersAlike rfl rfl rfl)
  exact absurd hown (by decide)

end Uprava.Core
