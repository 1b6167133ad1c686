/-
  File:      Uprava/Core/ToolRegistry.lean
  Subject:   The tables of the tool registry, of the integrations and of the tool calls, and the
             statements that write them.

  Every function here is one statement or one transaction, or a few of them one after the other
  where the source says so. A column that holds a serialized value holds the value. The hash of a
  text is a parameter (`Digest`).
-/
import Uprava.Lib.JsonText
import Uprava.Core.Database
import Uprava.Protocol.Tooling

namespace Uprava.Core

open Uprava.Protocol
open Uprava.Lib (Schema Table)
open Uprava.Lib.Table

/-! ## 1. Tables -/

structure ToolDefinitionRow where
  toolId : ToolId
  sourceId : ToolSourceId
  sourceToolName : String
  version : Nat
  schemaHash : String
  state : ToolDefinitionState
  definition : ToolDefinition
  createdAt : DateTime
  updatedAt : DateTime
  deriving DecidableEq

/-- `unique(source_id, source_tool_name)` beside the primary key. -/
instance : Schema ToolDefinitionRow where
  clash a b := a.toolId = b.toolId ∨
    (a.sourceId = b.sourceId ∧ a.sourceToolName = b.sourceToolName)
  dec _ _ := inferInstanceAs (Decidable (_ ∨ _ ∧ _))
  symm := by
    rintro a b (h | ⟨h, h'⟩)
    · exact Or.inl h.symm
    · exact Or.inr ⟨h.symm, h'.symm⟩

structure ToolSourceRow where
  sourceId : ToolSourceId
  sourceKind : ToolSourceKind
  displayName : String
  updatedAt : DateTime
  deriving DecidableEq

instance : Schema ToolSourceRow where
  clash a b := a.sourceId = b.sourceId
  dec _ _ := inferInstanceAs (Decidable (_ = _))
  symm := Eq.symm

structure IntegrationConnectionRow where
  integrationId : IntegrationId
  sourceId : ToolSourceId
  desiredState : IntegrationDesiredState
  authState : IntegrationAuthState
  nodeId : Option NodeId
  connection : IntegrationConnectionSummary
  credentialGeneration : Nat
  updatedAt : DateTime
  deriving DecidableEq

instance : Schema IntegrationConnectionRow where
  clash a b := a.integrationId = b.integrationId
  dec _ _ := inferInstanceAs (Decidable (_ = _))
  symm := Eq.symm

structure DependencyInstanceRow where
  dependencyInstanceId : McpDependencyInstanceId
  integrationId : IntegrationId
  nodeId : NodeId
  desiredState : IntegrationDesiredState
  actualState : McpDependencyActualState
  status : McpDependencyStatus
  updatedAt : DateTime
  deriving DecidableEq

/-- `unique(integration_id, node_id)` beside the primary key. -/
instance : Schema DependencyInstanceRow where
  clash a b := a.dependencyInstanceId = b.dependencyInstanceId ∨
    (a.integrationId = b.integrationId ∧ a.nodeId = b.nodeId)
  dec _ _ := inferInstanceAs (Decidable (_ ∨ _ ∧ _))
  symm := by
    rintro a b (h | ⟨h, h'⟩)
    · exact Or.inl h.symm
    · exact Or.inr ⟨h.symm, h'.symm⟩

structure ToolCallRow where
  toolCallId : ToolCallId
  toolId : ToolId
  schemaHash : String
  scope : ToolScope
  sourceKind : ToolSourceKind
  state : ToolCallState
  policyDecision : PolicyDecision
  route : String
  correlationId : CorrelationId
  commandId : Option CommandId
  integrationId : Option IntegrationId
  dependencyInstanceId : Option McpDependencyInstanceId
  argumentHash : String
  resultHash : Option String
  resultSizeBytes : Option Nat
  redactedArgumentsSummary : String
  redactedResultSummary : Option String
  resultRefs : List JsonValue
  error : Option ToolExecutionError
  requestedAt : DateTime
  startedAt : Option DateTime
  completedAt : Option DateTime
  deriving DecidableEq

/-- `tool_calls_command_correlation_idx` beside the primary key. -/
instance : Schema ToolCallRow where
  clash a b := a.toolCallId = b.toolCallId ∨
    (a.commandId = b.commandId ∧ a.correlationId = b.correlationId ∧ a.commandId ≠ none)
  dec _ _ := inferInstanceAs (Decidable (_ ∨ _ ∧ _ ∧ _))
  symm := by
    rintro a b (h | ⟨h, h', hne⟩)
    · exact Or.inl h.symm
    · exact Or.inr ⟨h.symm, h'.symm, h ▸ hne⟩

structure ToolCallEventRow where
  toolCallId : ToolCallId
  sequence : Nat
  state : ToolCallState
  payload : JsonValue
  happenedAt : DateTime
  deriving DecidableEq

instance : Schema ToolCallEventRow where
  clash a b := a.toolCallId = b.toolCallId ∧ a.sequence = b.sequence
  dec _ _ := inferInstanceAs (Decidable (_ ∧ _))
  symm := fun h => ⟨h.1.symm, h.2.symm⟩

structure SessionToolSnapshotRow where
  sessionThreadId : SessionThreadId
  toolId : ToolId
  schemaHash : String
  definitionVersion : Nat
  capturedAt : DateTime
  deriving DecidableEq

instance : Schema SessionToolSnapshotRow where
  clash a b := a.sessionThreadId = b.sessionThreadId ∧ a.toolId = b.toolId
  dec _ _ := inferInstanceAs (Decidable (_ ∧ _))
  symm := fun h => ⟨h.1.symm, h.2.symm⟩

structure Tooling where
  toolSources : Table ToolSourceRow := .empty
  toolDefinitions : Table ToolDefinitionRow := .empty
  connections : Table IntegrationConnectionRow := .empty
  dependencies : Table DependencyInstanceRow := .empty
  toolCalls : Table ToolCallRow := .empty
  toolCallEvents : Table ToolCallEventRow := .empty
  snapshots : Table SessionToolSnapshotRow := .empty
  deriving DecidableEq

/-! ## 2. Definitions -/

def findToolDefinition? (definitions : Table ToolDefinitionRow) (toolId : ToolId) :
    Option ToolDefinitionRow :=
  definitions.find? (·.toolId == toolId)

/-- The version and the time of creation a definition is stored with: the version goes up when the
    hash of the schema is another one. -/
def nextToolVersion (current : Option ToolDefinitionRow) (desired : ToolDefinition)
    (now : DateTime) : Nat × DateTime :=
  match current with
  | some r =>
    if r.schemaHash = desired.schemaHash then (max r.version 1, r.createdAt)
    else (max (r.version + 1) 1, r.createdAt)
  | none => (1, now)

/-- The row a definition is stored as. -/
def ToolDefinitionRow.desired (current : Option ToolDefinitionRow) (desired : ToolDefinition)
    (now : DateTime) : ToolDefinitionRow :=
  let (version, createdAt) := nextToolVersion current desired now
  let definition := { desired with version, createdAt, updatedAt := now }
  { toolId := definition.toolId
    sourceId := definition.sourceId
    sourceToolName := definition.sourceToolName
    version := definition.version
    schemaHash := definition.schemaHash
    state := definition.state
    definition
    createdAt
    updatedAt := now }

/-- `upsert_tool_definition`: `on conflict(tool_id) do update`. -/
def upsertToolDefinition (definitions : Table ToolDefinitionRow) (desired : ToolDefinition)
    (now : DateTime) : Except AppError (Table ToolDefinitionRow) :=
  let current := findToolDefinition? definitions desired.toolId
  dbResult "tool_definitions"
    (definitions.upsert? (·.toolId == desired.toolId) (.desired current desired now))

def upsertToolDefinitions (now : DateTime) :
    List ToolDefinition → Table ToolDefinitionRow → Except AppError (Table ToolDefinitionRow)
  | [], definitions => .ok definitions
  | desired :: rest, definitions => do
    upsertToolDefinitions now rest (← upsertToolDefinition definitions desired now)

/-- `unique(source_id, source_tool_name)` for definitions stored one after the other beside the names
    that tools hold: no definition takes the name of another tool of its source. -/
def NamesFree : List (ToolId × ToolSourceId × String) → List ToolDefinition → Prop
  | _, [] => True
  | held, d :: rest =>
    (∀ k ∈ held, k.2 = (d.sourceId, d.sourceToolName) → k.1 = d.toolId) ∧
      NamesFree ((d.toolId, d.sourceId, d.sourceToolName) :: held.filter (·.1 != d.toolId)) rest

/-- The names that tools hold. -/
def heldNames (definitions : Table ToolDefinitionRow) : List (ToolId × ToolSourceId × String) :=
  definitions.rows.map fun r => (r.toolId, r.sourceId, r.sourceToolName)

section Definitions

variable {t t' : Table ToolDefinitionRow} {d : ToolDefinition} {now : DateTime}

theorem clash_self (r : ToolDefinitionRow) : Schema.clash r r := Or.inl rfl

/-- The row a definition is stored as stands beside the others unless one holds its name. -/
theorem clash_desired_iff {a : ToolDefinitionRow} {current : Option ToolDefinitionRow}
    (hne : a.toolId ≠ d.toolId) : Schema.clash a (ToolDefinitionRow.desired current d now) ↔
      a.sourceId = d.sourceId ∧ a.sourceToolName = d.sourceToolName :=
  ⟨fun h => h.resolve_left hne, Or.inr⟩

/-- Rows with the id of a tool clash. -/
theorem clash_of_toolId (toolId : ToolId) (a b : ToolDefinitionRow) (ha : (a.toolId == toolId) = true)
    (hb : (b.toolId == toolId) = true) : Schema.clash a b :=
  Or.inl ((beq_iff_eq.mp ha).trans (beq_iff_eq.mp hb).symm)

/-- **A definition is stored exactly when no other tool of its source holds its name.** -/
theorem upsertToolDefinition_isOk_iff : (∃ t', upsertToolDefinition t d now = .ok t') ↔
    ∀ a ∈ t.rows, a.sourceId = d.sourceId → a.sourceToolName = d.sourceToolName →
      a.toolId = d.toolId := by
  have hreading : (∃ t', upsertToolDefinition t d now = .ok t') ↔
      (t.upsert? (·.toolId == d.toolId)
        (.desired (findToolDefinition? t d.toolId) d now)).isSome := by
    rw [Option.isSome_iff_exists]
    exact exists_congr fun _ => dbResult_eq_ok
  rw [hreading, isSome_upsert?_iff clash_self (clash_of_toolId d.toolId)]
  refine forall₂_congr fun a _ => ?_
  constructor
  · intro h hsource hname
    by_contra hother
    exact h (by simpa using hother) (Or.inr ⟨hsource, hname⟩)
  · intro h hother hclash
    have hother' : a.toolId ≠ d.toolId := by simpa using hother
    obtain ⟨hsource, hname⟩ := (clash_desired_iff hother').mp hclash
    exact hother' (h hsource hname)

/-- The rows after a definition is stored: those of other tools as they are, and its own. -/
theorem mem_upsertToolDefinition (h : upsertToolDefinition t d now = .ok t')
    {r : ToolDefinitionRow} : r ∈ t'.rows ↔ (r ∈ t.rows ∧ r.toolId ≠ d.toolId) ∨
      r = .desired (findToolDefinition? t d.toolId) d now := by
  rw [mem_upsert? (clash_of_toolId d.toolId) (dbResult_eq_ok.mp h), beq_eq_false_iff_ne]

theorem upsertToolDefinitions_cons {rest : List ToolDefinition} :
    upsertToolDefinitions now (d :: rest) t = .ok t' ↔
      ∃ u, upsertToolDefinition t d now = .ok u ∧ upsertToolDefinitions now rest u = .ok t' :=
  bind_eq_ok

/-- **Definitions are stored exactly when their names are free.** -/
theorem upsertToolDefinitions_isOk_iff {desired : List ToolDefinition}
    {held : List (ToolId × ToolSourceId × String)}
    (hheld : ∀ k, k ∈ held ↔ k ∈ heldNames t) :
    (∃ t', upsertToolDefinitions now desired t = .ok t') ↔ NamesFree held desired := by
  induction desired generalizing t held with
  | nil => exact iff_of_true ⟨t, rfl⟩ trivial
  | cons d rest ih =>
    have hfree : (∃ u, upsertToolDefinition t d now = .ok u) ↔
        ∀ k ∈ held, k.2 = (d.sourceId, d.sourceToolName) → k.1 = d.toolId := by
      rw [upsertToolDefinition_isOk_iff]
      constructor
      · intro h k hk hname
        obtain ⟨r, hr, rfl⟩ := List.mem_map.mp ((hheld k).mp hk)
        obtain ⟨hsource, hname⟩ := Prod.mk.inj hname
        exact h r hr hsource hname
      · intro h a ha hsource hname
        exact h _ ((hheld _).mpr (List.mem_map_of_mem ha)) (Prod.ext hsource hname)
    have hrest : ∀ u, upsertToolDefinition t d now = .ok u →
        ((∃ t', upsertToolDefinitions now rest u = .ok t') ↔ NamesFree
          ((d.toolId, d.sourceId, d.sourceToolName) :: held.filter (·.1 != d.toolId)) rest) := by
      intro u hu
      refine ih fun k => ?_
      rw [List.mem_cons, List.mem_filter, hheld, heldNames, heldNames, List.mem_map, List.mem_map]
      constructor
      · intro hk
        rcases hk with rfl | ⟨⟨r, hr, rfl⟩, hne⟩
        · exact ⟨_, (mem_upsertToolDefinition hu).mpr (Or.inr rfl), rfl⟩
        · exact ⟨r, (mem_upsertToolDefinition hu).mpr (Or.inl ⟨hr, by simpa using hne⟩), rfl⟩
      · intro ⟨r, hr, hk⟩
        rcases (mem_upsertToolDefinition hu).mp hr with ⟨hr, hne⟩ | rfl
        · subst hk
          exact Or.inr ⟨⟨r, hr, rfl⟩, by simpa using hne⟩
        · exact Or.inl hk.symm
    constructor
    · intro ⟨t', ht'⟩
      obtain ⟨u, hu, hr⟩ := upsertToolDefinitions_cons.mp ht'
      exact ⟨hfree.mp ⟨u, hu⟩, (hrest u hu).mp ⟨t', hr⟩⟩
    · intro ⟨hnames, hfollowing⟩
      obtain ⟨u, hu⟩ := hfree.mpr hnames
      obtain ⟨t', hr⟩ := (hrest u hu).mpr hfollowing
      exact ⟨t', upsertToolDefinitions_cons.mpr ⟨u, hu, hr⟩⟩

end Definitions

def upsertToolSource (sources : Table ToolSourceRow) (sourceId : ToolSourceId)
    (sourceKind : ToolSourceKind) (displayName : String) (now : DateTime) : Table ToolSourceRow :=
  match sources.insert? ⟨sourceId, sourceKind, displayName, now⟩ with
  | some sources => sources
  | none =>
    sources.update (·.sourceId == sourceId)
      (fun r => { r with sourceKind, displayName, updatedAt := now }) ⟨fun _ _ => Iff.rfl⟩

/-- The transaction of `register_tool_definitions`. -/
def registerToolDefinitions (s : Tooling) (sourceId : ToolSourceId) (sourceKind : ToolSourceKind)
    (sourceDisplayName : String) (definitions : List ToolDefinition) (now : DateTime) :
    Except AppError Tooling := do
  let toolDefinitions ← upsertToolDefinitions now definitions s.toolDefinitions
  return { s with
    toolSources := upsertToolSource s.toolSources sourceId sourceKind sourceDisplayName now
    toolDefinitions }

def nativeSourceId : ToolSourceId := "uprava-native"

def linearSourceId : ToolSourceId := "linear-remote-mcp"

def mockSourceId : ToolSourceId := "mock-external"

/-- What `project_tooling_command_result` asks of a definition. -/
def isLinearDefinition (definition : ToolDefinition) : Bool :=
  definition.sourceId == linearSourceId && definition.sourceKind == .externalMcp &&
    definition.executionKind == .toolhiveMcp

/-! ## 3. Dependencies and connections -/

def findConnection? (connections : Table IntegrationConnectionRow)
    (integrationId : IntegrationId) : Option IntegrationConnectionRow :=
  connections.find? (·.integrationId == integrationId)

theorem integrationId_of_findConnection? {connections : Table IntegrationConnectionRow}
    {integrationId : IntegrationId} {r : IntegrationConnectionRow}
    (h : findConnection? connections integrationId = some r) : r.integrationId = integrationId :=
  beq_iff_eq.mp (find?_pos (t := connections) h)

def DependencyInstanceRow.reported (status : McpDependencyStatus) : DependencyInstanceRow where
  dependencyInstanceId := status.dependencyInstanceId
  integrationId := status.integrationId
  nodeId := status.nodeId
  desiredState := status.desiredState
  actualState := status.actualState
  status
  updatedAt := status.observedAt

/-- The first statement of `persist_dependency_status`: the status takes the place of the row with
    its id, whatever the row says. The integration has to exist. -/
def upsertDependency (s : Tooling) (status : McpDependencyStatus) : Except AppError Tooling :=
  if (findConnection? s.connections status.integrationId).isNone then
    .error (.database "mcp_dependency_instances.integration_id")
  else
    match s.dependencies.upsert? (·.dependencyInstanceId == status.dependencyInstanceId)
        (.reported status) with
    | some dependencies => .ok { s with dependencies }
    | none => .error (.database "mcp_dependency_instances")

/-- What a status makes of a connection. -/
def connectionAfterStatus (status : McpDependencyStatus)
    (connection : IntegrationConnectionSummary) : IntegrationConnectionSummary :=
  let connection :=
    { connection with updatedAt := status.observedAt, errorCode := status.errorCode }
  match status.actualState with
  | .running => { connection with
      connectedAt := connection.connectedAt.or (some status.observedAt), authState := .connected }
  | .missingAuth => { connection with authState := .disconnected }
  | .failed => { connection with authState := .error }
  | _ => connection

/-- The last statement of `update_connection_from_dependency_status`. -/
def writeConnection (s : Tooling) (integrationId : IntegrationId)
    (connection : IntegrationConnectionSummary) : Tooling :=
  { s with
    connections := s.connections.update (·.integrationId == integrationId)
      (fun r => { r with
        authState := connection.authState, connection, updatedAt := connection.updatedAt })
      ⟨fun _ _ => Iff.rfl⟩ }

/-- `update_connection_from_dependency_status`: what it reads, and then what it writes. -/
def updateConnectionFromDependencyStatus (s : Tooling) (status : McpDependencyStatus) : Tooling :=
  match findConnection? s.connections status.integrationId with
  | none => s
  | some r => writeConnection s status.integrationId (connectionAfterStatus status r.connection)

/-- `persist_dependency_status`. -/
def persistDependencyStatus (s : Tooling) (status : McpDependencyStatus) :
    Except AppError Tooling := do
  let s ← upsertDependency s status
  return updateConnectionFromDependencyStatus s status

/-! ## 4. Tool calls -/

def findToolCall? (calls : Table ToolCallRow) (toolCallId : ToolCallId) : Option ToolCallRow :=
  calls.find? (·.toolCallId == toolCallId)

/-- `coalesce(max(sequence), 0) + 1`. -/
def nextEventSequence (events : Table ToolCallEventRow) (toolCallId : ToolCallId) : Nat :=
  ((events.select (·.toolCallId == toolCallId)).map (·.sequence)).foldl max 0 + 1

theorem lt_nextEventSequence {events : Table ToolCallEventRow} {r : ToolCallEventRow}
    (hr : r ∈ events.rows) : r.sequence < nextEventSequence events r.toolCallId := by
  have hmem : r.sequence ∈ (events.select (·.toolCallId == r.toolCallId)).map (·.sequence) :=
    List.mem_map_of_mem (List.mem_filter.mpr ⟨hr, by simp⟩)
  exact Nat.lt_succ_of_le ((le_foldl_max _ 0).1 _ hmem)

/-- The transaction of `append_tool_call_event`. Its number is always free. -/
def appendToolCallEvent (events : Table ToolCallEventRow) (toolCallId : ToolCallId)
    (state : ToolCallState) (payload : JsonValue) (now : DateTime) : Table ToolCallEventRow :=
  events.push ⟨toolCallId, nextEventSequence events toolCallId, state, payload, now⟩ (by
    intro ⟨r, hr, hid, hsequence⟩
    have hlt := lt_nextEventSequence hr
    rw [hid, hsequence] at hlt
    exact Nat.lt_irrefl _ hlt)

def jsonOption {α : Type} (encode : α → JsonValue) : Option α → JsonValue
  | some a => encode a
  | none => .null

/-- The digest of a text, in hexadecimal digits. -/
abbrev Digest := String → String

/-- A result as it is encoded, the fields in their order. -/
def ToolResultEnvelope.value (result : ToolResultEnvelope) : JsonValue :=
  .object (.cons "content" result.content
    (.cons "summary" (jsonOption .string result.summary)
    (.cons "truncated" (.bool result.truncated)
    (.cons "original_size_bytes" (jsonOption (fun n => .int (n : Nat)) result.originalSizeBytes)
    (.cons "artifact_refs" (.ofItems result.artifactRefs) .nil)))))

def resultText (result : ToolResultEnvelope) : String := (ToolResultEnvelope.value result).encode

/-- `format!("sha256:{:x}", …)` -/
def hashText (digest : Digest) (text : String) : String := "sha256:" ++ digest text

/-- The columns `finish_tool_call` writes, whatever the row's state is. -/
def ToolCallRow.finish (digest : Digest) (state : ToolCallState)
    (result : Option ToolResultEnvelope) (error : Option ToolExecutionError)
    (resultRefs : List JsonValue) (now : DateTime) (r : ToolCallRow) : ToolCallRow :=
  { r with
    state
    resultHash := result.map fun x => hashText digest (resultText x)
    resultSizeBytes := result.map fun x => (resultText x).utf8ByteSize
    redactedResultSummary := result.bind (·.summary)
    resultRefs
    error
    completedAt := some now }

def updateToolCall (s : Tooling) (toolCallId : ToolCallId) (f : ToolCallRow → ToolCallRow)
    (hf : KeepsKeys f) : Tooling :=
  { s with toolCalls := s.toolCalls.update (·.toolCallId == toolCallId) f hf }

/-- How a call ends: the state, the result or the error, and the references of the result. -/
structure ToolCallEnd where
  state : ToolCallState
  result : Option ToolResultEnvelope
  error : Option ToolExecutionError
  resultRefs : List JsonValue
  deriving DecidableEq

/-- The update of `finish_tool_call`. -/
def finishToolCallRow (digest : Digest) (s : Tooling) (toolCallId : ToolCallId)
    (ending : ToolCallEnd) (now : DateTime) : Tooling :=
  updateToolCall s toolCallId
    (.finish digest ending.state ending.result ending.error ending.resultRefs now)
    ⟨fun _ _ => Iff.rfl⟩

/-- The codes of errors as they are encoded. -/
def formatToolErrorCode : ToolExecutionErrorCode → String
  | .invalidArguments => "invalid_arguments"
  | .permissionDenied => "permission_denied"
  | .approvalRequired => "approval_required"
  | .unavailable => "unavailable"
  | .schemaChanged => "schema_changed"
  | .rateLimited => "rate_limited"
  | .requestTooLarge => "request_too_large"
  | .resultTooLarge => "result_too_large"
  | .timeout => "timeout"
  | .cancelled => "cancelled"
  | .backendFailed => "backend_failed"
  | .toolhiveMissing => "toolhive_missing"
  | .notAuthenticated => "not_authenticated"
  | .scopeMismatch => "scope_mismatch"
  | .leaseExpired => "lease_expired"
  | .leaseRevoked => "lease_revoked"

def toolErrorValue (error : ToolExecutionError) : JsonValue :=
  .ofFields [("code", .string (formatToolErrorCode error.code)), ("message", .string error.message),
    ("retryable", .bool error.retryable), ("redacted_details", error.redactedDetails)]

/-- The payload of the event that ends a call. -/
def finishedPayload (digest : Digest) (ending : ToolCallEnd) (now : DateTime) : JsonValue :=
  .ofFields [("completed_at", .int now),
    ("result_hash", jsonOption (fun x => .string (hashText digest (resultText x))) ending.result),
    ("result_size_bytes", jsonOption (fun x => .int (resultText x).utf8ByteSize) ending.result),
    ("error", jsonOption toolErrorValue ending.error)]

/-- The event of `finish_tool_call`. -/
def finishToolCallEvent (digest : Digest) (s : Tooling) (toolCallId : ToolCallId)
    (ending : ToolCallEnd) (now : DateTime) : Tooling :=
  { s with
    toolCallEvents := appendToolCallEvent s.toolCallEvents toolCallId ending.state
      (finishedPayload digest ending now) now }

/-- `finish_tool_call`. -/
def finishToolCall (digest : Digest) (s : Tooling) (toolCallId : ToolCallId) (ending : ToolCallEnd)
    (now : DateTime) : Except AppError Tooling :=
  if !ending.state.isTerminal then
    .error (.badRequest "internal.error" "tool call finish requires terminal state")
  else .ok (finishToolCallEvent digest (finishToolCallRow digest s toolCallId ending now) toolCallId
    ending now)

/-- How a Node's event ends a call, if it is one that does. -/
def terminalToolingEvent : ToolingEventPayloadV1 → Option (ToolCallId × ToolCallEnd)
  | .toolCallCompleted toolCallId result =>
    some (toolCallId, ⟨.completed, some result, none, result.artifactRefs⟩)
  | .toolCallFailed toolCallId error =>
    let state := match error.code with
      | .cancelled => .cancelled
      | .timeout => .timedOut
      | _ => .failed
    some (toolCallId, ⟨state, none, some error, []⟩)
  | .toolCallDenied toolCallId error => some (toolCallId, ⟨.denied, none, some error, []⟩)
  | .other => none

theorem terminal_of_terminalToolingEvent {payload : ToolingEventPayloadV1} {toolCallId : ToolCallId}
    {ending : ToolCallEnd} (h : terminalToolingEvent payload = some (toolCallId, ending)) :
    ending.state.isTerminal = true := by
  cases payload with
  | toolCallCompleted id result => cases h; rfl
  | toolCallFailed id error =>
    cases h
    cases error.code <;> rfl
  | toolCallDenied id error => cases h; rfl
  | other => cases h

/-- The check of `project_terminal_tooling_event`. -/
def eventVersionInvalid : AppError :=
  .badRequest "tool.event_version_invalid" "Node tooling event version is incompatible"

/-- `project_terminal_tooling_event`. -/
def projectTerminalToolingEvent (digest : Digest) (s : Tooling) (event : ToolingEventV1)
    (now : DateTime) : Except AppError Tooling :=
  if event.contractVersion ≠ toolingContractVersionV1 then .error eventVersionInvalid
  else
    match terminalToolingEvent event.payload with
    | some (toolCallId, ending) => finishToolCall digest s toolCallId ending now
    | none => .ok s

def definitionSourceInvalid : AppError :=
  .badRequest "tool.definition_source_invalid"
    "Node returned an invalid external tool definition"

end Uprava.Core
