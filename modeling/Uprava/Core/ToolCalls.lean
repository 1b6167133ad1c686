/-
  File:      Uprava/Core/ToolCalls.lean
  Subject:   Tool calls: the policy, the checks of the arguments, redaction, the row of a call, and
             the writes `execute_tool` makes on each of its ways.

  A way of `execute_tool` is a list of writes, and so are its beginning and its end. `executeTool`
  runs them one after the other without anything in between. What a call finds outside of the
  registry, whether the tool is available and what its route answers, is data of the call.
-/
import Uprava.Lib.JsonPointer
import Uprava.Core.ToolRegistry

namespace Uprava.Core

open Uprava.Protocol
open Uprava.Lib (Table bounded JsonMap JsonArray)
open Uprava.Lib.Table

/-! ## 1. Policy and errors -/

def toolError (code : ToolExecutionErrorCode) (message : String) (retryable : Bool) :
    ToolExecutionError := ⟨code, message, retryable, .emptyObject⟩

/-- `internal_tool_error` -/
def internalToolError : ToolExecutionError :=
  toolError .backendFailed "Core tool execution failed" true

/-- `app_tool_error` -/
def appToolError : AppError → ToolExecutionError
  | .notFound _ message | .badRequest _ message => toolError .backendFailed message false
  | _ => internalToolError

def toolIsVisibleToActor : ActorRef → Bool
  | .localUser _ | .system | .provider _ => true
  | _ => false

def policyDecision (definition : ToolDefinition) (scope : ToolScope) : PolicyDecision :=
  if toolIsVisibleToActor scope.actorRef then definition.approvalPolicy else .deny

def toolPolicyVersion : String := "uprava-tool-policy-v1"

/-! ## 2. Arguments -/

def jsonTypeMatches (expected : Option String) (value : JsonValue) : Bool :=
  match expected, value with
  | none, _ => true
  | some "string", .string _ => true
  | some "boolean", .bool _ => true
  | some "number", .int _ => true
  | some "number", .float _ => true
  | some "integer", .int _ => true
  | some "object", .object _ => true
  | some "array", .array _ => true
  | some "null", .null => true
  | _, _ => false

/-- The fields of an entry that is an object. -/
def objectField? (fields : JsonMap) (key : String) : Option JsonMap :=
  match fields.get key with
  | some (.object entry) => some entry
  | _ => none

/-- The texts of an array. -/
def arrayTexts : JsonArray → List String
  | .nil => []
  | .cons item rest => item.asStr.toList ++ arrayTexts rest

/-- `validate_arguments` -/
def validateArguments (schema arguments : JsonValue) : Except String Unit :=
  match arguments, schema with
  | .object object, .object schemaObject =>
    let properties := objectField? schemaObject "properties"
    let required := match schemaObject.get "required" with
      | some (.array names) => arrayTexts names
      | _ => []
    if (schemaObject.get "type").bind (·.asStr) ≠ some "object" then
      .error "tool schema root must be an object"
    else
      match required.find? fun name => (object.get name).isNone with
      | some name => .error ("missing required argument `" ++ name ++ "`")
      | none =>
        match (if schemaObject.get "additionalProperties" = some (.bool false) then
            object.toList.find? fun entry =>
              ((properties.bind fun items => items.get entry.1)).isNone
          else none) with
        | some (key, _) => .error ("unknown argument `" ++ key ++ "`")
        | none =>
          match object.toList.find? fun entry =>
              match properties.bind fun items => items.get entry.1 with
              | some property => !jsonTypeMatches ((property.get "type").bind (·.asStr)) entry.2
              | none => false with
          | some (key, _) => .error ("argument `" ++ key ++ "` has the wrong JSON type")
          | none => .ok ()
  | .object _, _ => .error "tool schema must be an object"
  | _, _ => .error "arguments must be an object"

/-- `string_argument` -/
def stringArgument (arguments : JsonValue) (key : String) : Except ToolExecutionError String :=
  match (arguments.get key).bind (·.asStr) with
  | some text => .ok text
  | none => .error (toolError .invalidArguments ("Missing string argument `" ++ key ++ "`") false)

/-! ## 3. Redaction -/

def toolSummaryMaxBytes : Nat := 2048

def toolResultMaxBytes : Nat := 1048576

/-- `redact_json` -/
def redactJson (value : JsonValue) (pointers : List String) (redactAll : Bool) : JsonValue :=
  if redactAll then .string "[redacted]" else value.setAll pointers (.string "[redacted]")

/-- `bounded_json_summary` -/
def boundedJsonSummary (value : JsonValue) (maxBytes : Nat) : String :=
  bounded value.encode maxBytes

/-- `redact_and_summarize`, which clamps the bytes. -/
def redactAndSummarize (value : JsonValue) (pointers : List String) (redactAll : Bool)
    (maxBytes : Nat) : String :=
  boundedJsonSummary (redactJson value pointers redactAll)
    (min (max maxBytes 16) toolSummaryMaxBytes)

/-- `normalize_tool_result` -/
def normalizeToolResult (content : JsonValue) (resultRefs : List JsonValue) :
    Except ToolExecutionError (ToolResultEnvelope × List JsonValue) :=
  let size := content.encode.utf8ByteSize
  if size > toolResultMaxBytes then
    .error (toolError .resultTooLarge "Tool result exceeds the v1 size limit" false)
  else .ok (⟨content, some (boundedJsonSummary content toolSummaryMaxBytes), false, some size,
    resultRefs⟩, resultRefs)

/-! ## 4. Rows -/

/-- `load_tool_definition` -/
def loadToolDefinition (definitions : Table ToolDefinitionRow) (toolId : ToolId) :
    Option ToolDefinition :=
  (definitions.find? fun r => r.toolId == toolId && r.state == .active).map (·.definition)

def findSnapshot? (snapshots : Table SessionToolSnapshotRow) (sessionThreadId : SessionThreadId)
    (toolId : ToolId) : Option SessionToolSnapshotRow :=
  snapshots.find? fun r => r.sessionThreadId == sessionThreadId && r.toolId == toolId

/-- `persist_session_tool_snapshot`: `on conflict(session_thread_id, tool_id) do update`, which
    always succeeds. -/
def persistSessionToolSnapshot (s : Tooling) (scope : ToolScope) (definition : ToolDefinition)
    (now : DateTime) : Tooling :=
  match scope.sessionThreadId with
  | none => s
  | some sessionThreadId =>
    { s with
      snapshots := (s.snapshots.upsert?
        (fun r => r.sessionThreadId == sessionThreadId && r.toolId == definition.toolId)
        ⟨sessionThreadId, definition.toolId, definition.schemaHash, definition.version, now⟩).getD
          s.snapshots }

/-- `tool_route` -/
def toolRoute (definition : ToolDefinition) : String :=
  if definition.sourceId = mockSourceId then "mock_external" else "core_native"

/-- A call that is made: its identifiers, and the request with the definition it found. -/
structure NewCall where
  toolCallId : ToolCallId
  correlationId : CorrelationId
  definition : ToolDefinition
  request : ExecuteToolRequest
  deriving DecidableEq

/-- The row `insert_tool_call` inserts. -/
def requestedRow (digest : Digest) (call : NewCall) (now : DateTime) : ToolCallRow where
  toolCallId := call.toolCallId
  toolId := call.definition.toolId
  schemaHash := call.definition.schemaHash
  scope := call.request.scope
  sourceKind := call.definition.sourceKind
  state := .requested
  policyDecision := policyDecision call.definition call.request.scope
  route := toolRoute call.definition
  correlationId := call.correlationId
  commandId := none
  integrationId := none
  dependencyInstanceId := none
  argumentHash := hashText digest call.request.arguments.encode
  resultHash := none
  resultSizeBytes := none
  redactedArgumentsSummary := redactAndSummarize call.request.arguments
    call.definition.redaction.argumentJsonPointers call.definition.redaction.redactAllArguments
    call.definition.redaction.maxSummaryBytes
  redactedResultSummary := none
  resultRefs := []
  error := none
  requestedAt := now
  startedAt := none
  completedAt := none

/-! ## 5. Writes of a call -/

/-- The command an external tool's call is bound to. -/
structure CommandBinding where
  commandId : CommandId
  integrationId : IntegrationId
  dependencyInstanceId : McpDependencyInstanceId
  deriving DecidableEq

/-- The columns `execute_external_tool` writes. -/
def ToolCallRow.bindCommand (binding : CommandBinding) (r : ToolCallRow) : ToolCallRow :=
  { r with
    commandId := some binding.commandId
    integrationId := some binding.integrationId
    dependencyInstanceId := some binding.dependencyInstanceId
    route := "node-toolhive" }

/-- One write of `execute_tool`. -/
inductive CallWrite where
  | insert
  | event (state : ToolCallState) (payload : JsonValue)
  /-- `update_tool_call_state` -/
  | setState (state : ToolCallState)
  | snapshot
  /-- The update of `mark_tool_call_started`, and its event. -/
  | markStarted
  | startedEvent
  /-- The update of `execute_external_tool`. The command's id is new, so no index stops it. -/
  | bindCommand (binding : CommandBinding)
  | finishRow (ending : ToolCallEnd)
  | finishEvent (ending : ToolCallEnd)
  deriving DecidableEq

/-- Runs one write. Only the insert can fail. -/
def CallWrite.run (digest : Digest) (call : NewCall) (now : DateTime) (s : Tooling) :
    CallWrite → Except AppError Tooling
  | insert =>
    match s.toolCalls.insert? (requestedRow digest call now) with
    | some toolCalls => .ok { s with toolCalls }
    | none => .error (.database "tool_calls")
  | event state payload => .ok { s with
      toolCallEvents := appendToolCallEvent s.toolCallEvents call.toolCallId state payload now }
  | setState state =>
    .ok (updateToolCall s call.toolCallId ({ · with state }) ⟨fun _ _ => Iff.rfl⟩)
  | snapshot => .ok (persistSessionToolSnapshot s call.request.scope call.definition now)
  | markStarted => .ok (updateToolCall s call.toolCallId
      (fun r => { r with state := .started, startedAt := some now }) ⟨fun _ _ => Iff.rfl⟩)
  | startedEvent => .ok { s with
      toolCallEvents := appendToolCallEvent s.toolCallEvents call.toolCallId .started
        (.ofFields [("started_at", .int now)]) now }
  | bindCommand binding => .ok { s with
      toolCalls := (s.toolCalls.update? (·.toolCallId == call.toolCallId)
        (.bindCommand binding)).getD s.toolCalls }
  | finishRow ending => .ok (finishToolCallRow digest s call.toolCallId ending now)
  | finishEvent ending => .ok (finishToolCallEvent digest s call.toolCallId ending now)

/-- The writes of `finish_tool_call`. -/
def finishWrites (ending : ToolCallEnd) : List CallWrite := [.finishRow ending, .finishEvent ending]

/-- The call is put down. -/
def openingWrites (call : NewCall) : List CallWrite :=
  [.insert, .event .requested (.ofFields [("correlation_id", .string call.correlationId),
    ("tool_id", .string call.definition.toolId),
    ("schema_hash", .string call.definition.schemaHash)])]

/-- The call fails, or is denied, with an error. -/
def endWithError (state : ToolCallState) (error : ToolExecutionError) : ToolCallEnd :=
  ⟨state, none, some error, []⟩

def deniedError : ToolExecutionError :=
  toolError .permissionDenied "Tool policy denied this call" false

def approvalError : ToolExecutionError :=
  toolError .approvalRequired "Tool call requires approval" false

def unavailableError : ToolExecutionError :=
  toolError .unavailable "Tool is unavailable in this scope" true

/-- The call waits for an approval. -/
def approvalWrites : List CallWrite :=
  [.setState .approvalRequired, .event .approvalRequired (toolErrorValue approvalError)]

/-- The policy allows the call. -/
def authorizedWrites : List CallWrite :=
  [.event .authorized (.ofFields [("policy_version", .string toolPolicyVersion)])]

/-- The call starts, and is bound to its command. -/
def startWrites (binding : Option CommandBinding) : List CallWrite :=
  [.snapshot, .markStarted, .startedEvent] ++ binding.toList.map .bindCommand

/-- What the route of a tool answers: content made in Core, a Node's result, or an error. -/
inductive RouteOutcome where
  | content (content : JsonValue) (resultRefs : List JsonValue)
  | external (result : ToolResultEnvelope)
  | failed (error : ToolExecutionError)
  deriving DecidableEq

/-- `execute_tool_route` -/
def RouteOutcome.result :
    RouteOutcome → Except ToolExecutionError (ToolResultEnvelope × List JsonValue)
  | content value resultRefs => normalizeToolResult value resultRefs
  | external result => .ok (result, [])
  | failed error => .error error

/-- The result as `execute_tool` keeps it: redacted, and with a summary of what is left. -/
def redactResult (redaction : ToolRedactionPolicy) (result : ToolResultEnvelope) :
    ToolResultEnvelope :=
  let content := redactJson result.content redaction.resultJsonPointers redaction.redactAllResult
  { result with
    content, summary := some (boundedJsonSummary content redaction.maxSummaryBytes) }

/-- How a call ends once its route has answered. -/
def endOfRoute (redaction : ToolRedactionPolicy) (outcome : RouteOutcome) : ToolCallEnd :=
  match outcome.result with
  | .ok (result, resultRefs) => ⟨.completed, some (redactResult redaction result), none, resultRefs⟩
  | .error error => endWithError .failed error

/-! ## 6. A call from its beginning to its end -/

/-- Runs writes up to the first that fails. What is stored, and the error. -/
def runWrites (digest : Digest) (call : NewCall) (now : DateTime) :
    List CallWrite → Tooling → Tooling × Except AppError Unit
  | [], s => (s, .ok ())
  | write :: rest, s =>
    match write.run digest call now s with
    | .ok t => runWrites digest call now rest t
    | .error e => (s, .error e)

/-- What a call finds outside of the registry: whether the tool is available, the command it is
    bound to if it is an external tool's and a Node can be commanded, and what its route answers. -/
structure Surroundings where
  available : Bool
  binding : Option CommandBinding
  outcome : RouteOutcome
  deriving DecidableEq

/-- How a call was carried out: the answer, and whether the tool's route was taken. -/
structure Executed where
  response : Except AppError ExecuteToolResponse
  ran : Bool

def responseOf (toolCallId : ToolCallId) (ending : ToolCallEnd) : ExecuteToolResponse :=
  ⟨toolCallId, ending.state, ending.result, ending.error⟩

/-- The answer after some writes, unless one of them failed. -/
def Executed.after (outcome : Except AppError Unit) (response : ExecuteToolResponse) (ran : Bool) :
    Executed := ⟨outcome.map fun _ => response, ran⟩

/-- The way a call takes after it is put down: its writes, its answer, and whether the tool's route
    is taken. -/
def callWay (call : NewCall) (surroundings : Surroundings) :
    List CallWrite × ExecuteToolResponse × Bool :=
  let finish before ending ran :=
    (before ++ finishWrites ending, responseOf call.toolCallId ending, ran)
  match policyDecision call.definition call.request.scope with
  | .deny => finish [] (endWithError .denied deniedError) false
  | .requireApproval =>
    (approvalWrites, ⟨call.toolCallId, .approvalRequired, none, some approvalError⟩, false)
  | .allow =>
    if !surroundings.available then
      finish authorizedWrites (endWithError .failed unavailableError) false
    else
      match validateArguments call.definition.inputSchema call.request.arguments with
      | .error message => finish authorizedWrites
          (endWithError .failed (toolError .invalidArguments message false)) false
      | .ok () => finish (authorizedWrites ++ startWrites surroundings.binding)
          (endOfRoute call.definition.redaction surroundings.outcome) true

/-- `execute_tool`, without anything in between. -/
def executeTool (digest : Digest) (s : Tooling) (toolCallId : ToolCallId)
    (correlationId : CorrelationId) (request : ExecuteToolRequest) (surroundings : Surroundings)
    (now : DateTime) : Tooling × Executed :=
  match loadToolDefinition s.toolDefinitions request.toolId with
  | none =>
    (s, ⟨.ok (responseOf toolCallId (endWithError .denied
      (toolError .permissionDenied "Tool is not visible in this scope" false))), false⟩)
  | some definition =>
    let call : NewCall := ⟨toolCallId, correlationId, definition, request⟩
    let (writes, response, ran) := callWay call surroundings
    let (t, outcome) := runWrites digest call now (openingWrites call ++ writes) s
    (t, .after outcome response (ran && outcome.isOk))

end Uprava.Core
