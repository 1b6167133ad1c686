/-
  File:      Uprava/Core/GeneratedUi.lean
  Subject:   Actions of generated interfaces: the checks of a request, its claim of an idempotency
             key, the effect, and the completion of the claimed row.

  The claim, the effect and the completion are transactions of their own, so a request is a task
  with a stage, and every step of it may be its last. What a step meets outside the tables (a
  statement that fails, the agent's turn, an event that is not recorded) comes with the action.
-/
import Uprava.Lib.Assoc
import Uprava.Lib.JsonSize
import Uprava.Protocol.Domain

namespace Uprava.Core.GeneratedUi

open Uprava.Protocol
open Uprava.Lib (Assoc JsonMap)

/-! ## 1. Artifacts and their actions -/

abbrev ArtifactId := String
abbrev IdempotencyKey := String
abbrev ActionRequestId := String

inductive GeneratedUiCapability where
  | persistState | sendAgentInput | openReference | requestLayoutChange
  deriving DecidableEq

inductive GeneratedUiActionKind where
  | updateArtifactState | sendAgentInput | openReference
  deriving DecidableEq

structure GeneratedUiActionDefinition where
  actionId : String
  kind : GeneratedUiActionKind
  inputSchema : JsonValue
  requiredCapabilities : List GeneratedUiCapability
  confirmationRequired : Bool
  deriving DecidableEq

/-- What the requests read of an artifact and of its payload. `refs` are its source, evidence, cause
    and trace references, in this order. -/
structure GeneratedUiArtifact where
  version : Nat
  scopeRef : ScopeRef
  refs : List JsonValue
  runtimeId : String
  actions : List GeneratedUiActionDefinition
  grantedCapabilities : List GeneratedUiCapability
  deriving DecidableEq

structure GeneratedUiState where
  revision : Nat
  values : JsonValue
  updatedAt : DateTime
  deriving DecidableEq

structure UpdateGeneratedUiStateRequest where
  expectedRevision : Nat
  values : JsonValue
  deriving DecidableEq

structure InvokeGeneratedUiActionRequest where
  artifactVersion : Nat
  idempotencyKey : IdempotencyKey
  input : JsonValue
  confirmed : Bool
  deriving DecidableEq

inductive GeneratedUiError where
  | badRequest (code message : String)
  | notFound (code message : String)
  | conflict (code message : String)
  | auth (code message : String)
  | internal (code message : String)
  | database
  deriving DecidableEq

def GeneratedUiError.code : GeneratedUiError → String
  | .badRequest code _ | .notFound code _ | .conflict code _ | .auth code _ | .internal code _ =>
    code
  | .database => "internal.database"

structure GeneratedUiActionResult where
  actionRequestId : ActionRequestId
  artifactId : ArtifactId
  actionId : String
  kind : GeneratedUiActionKind
  result : JsonValue
  state : Option GeneratedUiState
  commandId : Option CommandId
  completedAt : DateTime
  deriving DecidableEq

/-! ## 2. The checks of a request -/

def maxDynamicUiStateBytes : Nat := 256 * 1024
def maxDynamicUiActionIdChars : Nat := 128
def maxDynamicUiIdempotencyKeyChars : Nat := 200
def maxDynamicUiInputBytes : Nat := 64 * 1024

def validActionId (value : String) : Bool :=
  !value.isEmpty && value.utf8ByteSize ≤ maxDynamicUiActionIdChars && value.toList.contains '.' &&
    value.toList.all fun c =>
      ('a' ≤ c && c ≤ 'z') || ('0' ≤ c && c ≤ '9') || c == '.' || c == '-' || c == '_'

def validateBoundedJson (value : JsonValue) (limit : Nat) (label : String) :
    Except GeneratedUiError Unit :=
  if value.encodedLen ≤ limit then .ok () else
    .error (.badRequest "generated_ui.payload_too_large"
      ("Generated UI " ++ label ++ " exceeds the size limit"))

/-- `is_ascii_control`. -/
def isAsciiControl (c : Char) : Bool := c.toNat < 32 || c.toNat == 127

def validateActionRequest (actionId : String) (request : InvokeGeneratedUiActionRequest) :
    Except GeneratedUiError Unit :=
  if !validActionId actionId || request.idempotencyKey.isEmpty
      || maxDynamicUiIdempotencyKeyChars < request.idempotencyKey.utf8ByteSize
      || request.idempotencyKey.toList.any isAsciiControl then
    .error (.badRequest "generated_ui.action_request_invalid"
      "Generated UI action request identifier is invalid")
  else validateBoundedJson request.input maxDynamicUiInputBytes "action input"

def authorizeAction (action : GeneratedUiActionDefinition) (artifact : GeneratedUiArtifact)
    (confirmed : Bool) : Except GeneratedUiError Unit :=
  if (action.confirmationRequired || action.kind == .sendAgentInput) && !confirmed then
    .error (.badRequest "generated_ui.confirmation_required"
      "Generated UI action requires explicit confirmation")
  else if action.requiredCapabilities.any fun capability =>
      !artifact.grantedCapabilities.contains capability then
    .error (.auth "generated_ui.permission_denied"
      "Generated UI action was not granted its required capabilities")
  else .ok ()

def inputInvalid (message : String) : GeneratedUiError :=
  .badRequest "generated_ui.action_input_invalid" message

def i64Min : Int := -2 ^ 63
def u64Max : Nat := 2 ^ 64 - 1

def jsonValueMatchesType (expected : String) (value : Lib.JsonValue) : Bool :=
  match expected, value with
  | "string", .string _ => true
  | "boolean", .bool _ => true
  | "number", .int _ | "number", .float _ => true
  | "integer", .int n => decide (i64Min ≤ n ∧ n ≤ u64Max)
  | "object", .object _ => true
  | "array", .array _ => true
  | "null", .null => true
  | _, _ => false

/-- The names that a schema requires: the texts of its `required` array. -/
def requiredNames (schema : JsonMap) : List String :=
  match schema.get "required" with
  | some (.array items) => items.toList.filterMap Lib.JsonValue.asStr
  | _ => []

def validateActionInput (schema input : Lib.JsonValue) : Except GeneratedUiError Unit :=
  match schema with
  | .object schema =>
    match input with
    | .object input =>
      match (requiredNames schema).find? fun name => (input.get name).isNone with
      | some name =>
        .error (inputInvalid ("Generated UI action input is missing `" ++ name ++ "`"))
      | none =>
        let properties := match schema.get "properties" with
          | some (.object properties) => some properties
          | _ => none
        if schema.get "additionalProperties" = some (.bool false) && input.toList.any fun entry =>
            properties.all fun items => (items.get entry.1).isNone then
          .error (inputInvalid "Generated UI action input contains an unknown property")
        else
          let expected := fun name => do
            let items ← properties
            let property ← items.get name
            (← property.get "type").asStr
          match input.toList.find? fun entry =>
              (expected entry.1).any fun expected => !jsonValueMatchesType expected entry.2 with
          | some entry =>
            .error (inputInvalid ("Generated UI action input `" ++ entry.1 ++
              "` has the wrong type"))
          | none => .ok ()
    | _ => .error (inputInvalid "Generated UI action input must be an object")
  | _ => .error (.badRequest "generated_ui.action_invalid"
      "Generated UI action identifier, capabilities or input schema are invalid")

/-! ## 3. Tables and surroundings -/

inductive ActionRequestState where
  | requested | completed | failed
  deriving DecidableEq

structure ActionRequestRow where
  actionRequestId : ActionRequestId
  artifactVersion : Nat
  actionId : String
  actionKind : GeneratedUiActionKind
  input : JsonValue
  state : ActionRequestState
  result : Option GeneratedUiActionResult
  errorCode : Option String
  createdAt : DateTime
  completedAt : Option DateTime
  deriving DecidableEq

/-- `generated_ui_action_requests` under its unique pair of artifact and key. -/
structure UiTables where
  artifacts : Assoc ArtifactId GeneratedUiArtifact
  states : Assoc ArtifactId GeneratedUiState
  requests : Assoc (ArtifactId × IdempotencyKey) ActionRequestRow

/-- What becomes of a turn: it is refused; or it is recorded, and a later step fails or not. -/
inductive AgentTurn where
  | refused (e : GeneratedUiError)
  | interrupted (e : GeneratedUiError)
  | accepted (response : JsonValue) (commandId : CommandId)
  deriving DecidableEq

/-- What a step meets outside the tables. -/
structure UiSurroundings where
  runtime : String → Except GeneratedUiError Unit
  decodeReference : JsonValue → Option JsonValue
  turn : SessionThreadId → String → AgentTurn
  stored : Except GeneratedUiError Unit
  event : Except GeneratedUiError Unit
  now : DateTime

/-- Only an artifact of a session has its events recorded. -/
def recordDynamicUiEvent (world : UiSurroundings) (artifact : GeneratedUiArtifact) :
    Except GeneratedUiError Unit :=
  match artifact.scopeRef with
  | .session _ => world.event
  | _ => .ok ()

def loadGeneratedUiRuntimeDetail (s : UiTables) (artifactId : ArtifactId) :
    Except GeneratedUiError (GeneratedUiArtifact × GeneratedUiState) :=
  match s.artifacts.lookup artifactId with
  | none => .error (.notFound "artifact.not_found" "Artifact not found")
  | some artifact =>
    match s.states.lookup artifactId with
    | none => .error (.notFound "generated_ui.state_not_found" "Generated UI state not found")
    | some state => .ok (artifact, state)

def loadCompletedAction (s : UiTables) (artifactId : ArtifactId) (key : IdempotencyKey) :
    Option GeneratedUiActionResult :=
  match s.requests.lookup (artifactId, key) with
  | some row => if row.state = .completed then row.result else none
  | none => none

/-! ## 4. The effects -/

/-- What an action changes: the persisted state, or the session by a turn. -/
inductive UiEffect where
  | state (revision : Nat)
  | turn (content : String)
  deriving DecidableEq

/-- The tables after it, what it changed, and its answer. -/
structure Outcome (α : Type) where
  tables : UiTables
  effect : Option UiEffect
  answer : Except GeneratedUiError α

def i64Max : Nat := 2 ^ 63 - 1

def updateGeneratedUiState (s : UiTables) (world : UiSurroundings) (artifactId : ArtifactId)
    (request : UpdateGeneratedUiStateRequest) : Outcome GeneratedUiState :=
  let checked : Except GeneratedUiError (GeneratedUiArtifact × GeneratedUiState) := do
    let (artifact, state) ← loadGeneratedUiRuntimeDetail s artifactId
    world.runtime artifact.runtimeId
    if !artifact.grantedCapabilities.contains .persistState then
      throw (.auth "generated_ui.permission_denied"
        "Artifact was not granted persisted state access")
    validateBoundedJson request.values maxDynamicUiStateBytes "state"
    if u64Max < request.expectedRevision + 1 then
      throw (.badRequest "generated_ui.state_revision_invalid"
        "Generated UI state revision is exhausted")
    if i64Max < request.expectedRevision + 1 then
      throw (.internal "internal.error" "generated UI persisted state is invalid")
    return (artifact, state)
  match checked with
  | .error e => ⟨s, none, .error e⟩
  | .ok (artifact, state) =>
    if state.revision ≠ request.expectedRevision then
      ⟨s, none, .error (.conflict "generated_ui.state_conflict"
        "Generated UI state changed; reload and retry")⟩
    else
      let updated : GeneratedUiState :=
        ⟨request.expectedRevision + 1, request.values, world.now⟩
      -- the update is committed before the event is recorded
      { tables := { s with states := s.states.insert artifactId updated }
        effect := some (.state updated.revision)
        answer := (recordDynamicUiEvent world artifact).map fun _ => updated }

/-- `serde_json::from_value::<UpdateGeneratedUiStateRequest>` of an object. -/
def decodeUpdate (input : Lib.JsonValue) : Option UpdateGeneratedUiStateRequest :=
  match input.get "expected_revision", input.get "values" with
  | some (.int revision), some values =>
    if 0 ≤ revision ∧ revision ≤ u64Max then some ⟨revision.toNat, values⟩ else none
  | _, _ => none

/-- The result, the state and the command that an execution answers with. -/
structure ActionOutcome where
  result : JsonValue
  state : Option GeneratedUiState
  commandId : Option CommandId
  deriving DecidableEq

def executeGeneratedUiAction (s : UiTables) (world : UiSurroundings) (artifactId : ArtifactId)
    (artifact : GeneratedUiArtifact) (action : GeneratedUiActionDefinition)
    (input : Lib.JsonValue) : Outcome ActionOutcome :=
  match action.kind with
  | .updateArtifactState =>
    match decodeUpdate input with
    | none => ⟨s, none, .error (inputInvalid "State action input is invalid")⟩
    | some request =>
      let updated := updateGeneratedUiState s world artifactId request
      { updated with answer := updated.answer.map fun state =>
          ⟨Lib.JsonValue.ofFields [("revision", .int state.revision)], some state, none⟩ }
  | .sendAgentInput =>
    match (input.get "content").bind Lib.JsonValue.asStr with
    | none => ⟨s, none, .error (inputInvalid "Agent input action is invalid")⟩
    | some content =>
      match artifact.scopeRef with
      | .session sessionThreadId =>
        match world.turn sessionThreadId content with
        | .refused e => ⟨s, none, .error e⟩
        | .interrupted e => ⟨s, some (.turn content), .error e⟩
        | .accepted response commandId =>
          ⟨s, some (.turn content), .ok ⟨response, none, some commandId⟩⟩
      | _ => ⟨s, none, .error (.badRequest "generated_ui.action_scope_invalid"
          "Agent input requires a session-scoped artifact")⟩
  | .openReference =>
    match (input.get "reference").bind world.decodeReference with
    | none => ⟨s, none, .error (inputInvalid "Reference action is invalid")⟩
    | some reference =>
      if artifact.refs.contains reference then
        ⟨s, none, .ok ⟨Lib.JsonValue.ofFields [("reference", reference)], none, none⟩⟩
      else ⟨s, none, .error (.auth "generated_ui.reference_denied"
        "Generated UI may only open a declared artifact reference")⟩

/-! ## 5. Requests side by side -/

/-- What is asked, by which action of which artifact. -/
structure Invocation where
  artifactId : ArtifactId
  actionId : String
  request : InvokeGeneratedUiActionRequest
  deriving DecidableEq

/-- The checks of `invoke_generated_ui_action` before its claim. -/
def checkInvocation (s : UiTables) (world : UiSurroundings) (i : Invocation) :
    Except GeneratedUiError (GeneratedUiArtifact × GeneratedUiActionDefinition) := do
  let (artifact, _) ← loadGeneratedUiRuntimeDetail s i.artifactId
  if i.request.artifactVersion ≠ artifact.version then
    throw (.conflict "generated_ui.artifact_version_conflict"
      "Generated UI artifact changed; reload and retry")
  world.runtime artifact.runtimeId
  match artifact.actions.find? fun action => action.actionId == i.actionId with
  | none => throw (.notFound "generated_ui.action_not_found" "Generated UI action not found")
  | some action =>
    authorizeAction action artifact i.request.confirmed
    validateActionInput action.inputSchema i.request.input
    return (artifact, action)

/-- A request between two of its steps. -/
inductive ActionStage where
  | checked
  | outrun
  | claimed (actionRequestId : ActionRequestId)
  | executed (actionRequestId : ActionRequestId) (answer : Except GeneratedUiError ActionOutcome)
  deriving DecidableEq

structure ActionTask where
  invocation : Invocation
  artifact : GeneratedUiArtifact
  action : GeneratedUiActionDefinition
  stage : ActionStage
  deriving DecidableEq

/-- An execution of a claimed request, for the record. -/
structure Execution where
  actionRequestId : ActionRequestId
  artifactId : ArtifactId
  key : IdempotencyKey
  actionId : String
  input : JsonValue
  effect : Option UiEffect
  answer : Except GeneratedUiError ActionOutcome
  deriving DecidableEq

structure ActionAnswer where
  invocation : Invocation
  answer : Except GeneratedUiError GeneratedUiActionResult
  deriving DecidableEq

/-- `executions` and `answers` have the newest first. -/
structure ActionRequests where
  tables : UiTables
  tasks : List ActionTask := []
  executions : List Execution := []
  answers : List ActionAnswer := []

inductive UiAction where
  | invoke (world : UiSurroundings) (i : Invocation)
  | proceed (world : UiSurroundings) (task : Nat) (drawn : ActionRequestId)
  | drop (task : Nat)
  | updateState (world : UiSurroundings) (artifactId : ArtifactId)
      (request : UpdateGeneratedUiStateRequest)

namespace ActionRequests

def reply (s : ActionRequests) (i : Invocation)
    (answer : Except GeneratedUiError GeneratedUiActionResult) : ActionRequests :=
  { s with answers := ⟨i, answer⟩ :: s.answers }

def goOn (s : ActionRequests) (task : ActionTask) : ActionRequests :=
  { s with tasks := s.tasks ++ [task] }

/-- The request up to its claim. -/
def invoke (s : ActionRequests) (world : UiSurroundings) (i : Invocation) : ActionRequests :=
  match validateActionRequest i.actionId i.request with
  | .error e => s.reply i (.error e)
  | .ok () =>
    match loadCompletedAction s.tables i.artifactId i.request.idempotencyKey with
    | some existing => s.reply i (.ok existing)
    | none =>
      match checkInvocation s.tables world i with
      | .error e => s.reply i (.error e)
      | .ok (artifact, action) => s.goOn ⟨i, artifact, action, .checked⟩

/-- The row that a request claims its key with. -/
def requestedRow (world : UiSurroundings) (task : ActionTask) (drawn : ActionRequestId) :
    ActionRequestRow where
  actionRequestId := drawn
  artifactVersion := task.invocation.request.artifactVersion
  actionId := task.invocation.actionId
  actionKind := task.action.kind
  input := task.invocation.request.input
  state := .requested
  result := none
  errorCode := none
  createdAt := world.now
  completedAt := none

/-- `on conflict(artifact_id, idempotency_key) do nothing`. -/
def claim (s : ActionRequests) (world : UiSurroundings) (task : ActionTask)
    (drawn : ActionRequestId) : ActionRequests :=
  let i := task.invocation
  match world.stored with
  | .error e => s.reply i (.error e)
  | .ok () =>
    if (s.tables.requests.lookup (i.artifactId, i.request.idempotencyKey)).isSome then
      s.goOn { task with stage := .outrun }
    else
      { s with tables := { s.tables with
          requests := s.tables.requests.insert (i.artifactId, i.request.idempotencyKey)
            (requestedRow world task drawn) } }
    |>.goOn { task with stage := .claimed drawn }

def actionInProgress : GeneratedUiError :=
  .conflict "generated_ui.action_in_progress"
    "Generated UI action with this idempotency key is already in progress"

def replay (s : ActionRequests) (i : Invocation) : ActionRequests :=
  match loadCompletedAction s.tables i.artifactId i.request.idempotencyKey with
  | some existing => s.reply i (.ok existing)
  | none => s.reply i (.error actionInProgress)

def execute (s : ActionRequests) (world : UiSurroundings) (task : ActionTask)
    (actionRequestId : ActionRequestId) : ActionRequests :=
  let i := task.invocation
  let outcome := executeGeneratedUiAction s.tables world i.artifactId task.artifact task.action
    i.request.input
  { s with
    tables := outcome.tables
    executions := {
      actionRequestId
      artifactId := i.artifactId
      key := i.request.idempotencyKey
      actionId := i.actionId
      input := i.request.input
      effect := outcome.effect
      answer := outcome.answer } :: s.executions }
    |>.goOn { task with stage := .executed actionRequestId outcome.answer }

/-- `where action_request_id = ?`: the row of the artifact and the key, if it is this one. -/
def setRow (s : UiTables) (i : Invocation) (actionRequestId : ActionRequestId)
    (write : ActionRequestRow → ActionRequestRow) : UiTables :=
  match s.requests.lookup (i.artifactId, i.request.idempotencyKey) with
  | some row =>
    if row.actionRequestId = actionRequestId then
      { s with requests := s.requests.insert (i.artifactId, i.request.idempotencyKey) (write row) }
    else s
  | none => s

/-- The result as it is stored and answered. -/
def actionResult (task : ActionTask) (actionRequestId : ActionRequestId) (outcome : ActionOutcome)
    (completedAt : DateTime) : GeneratedUiActionResult where
  actionRequestId
  artifactId := task.invocation.artifactId
  actionId := task.invocation.actionId
  kind := task.action.kind
  result := outcome.result
  state := outcome.state
  commandId := outcome.commandId
  completedAt

/-- The row is completed or failed, then the event is recorded. -/
def settle (s : ActionRequests) (world : UiSurroundings) (task : ActionTask)
    (actionRequestId : ActionRequestId) (answer : Except GeneratedUiError ActionOutcome) :
    ActionRequests :=
  let i := task.invocation
  match world.stored with
  | .error e => s.reply i (.error e)
  | .ok () =>
    match answer with
    | .error error =>
      { s with tables := setRow s.tables i actionRequestId fun row => { row with
          state := .failed
          errorCode := some error.code
          completedAt := some world.now } }
        |>.reply i (.error (match recordDynamicUiEvent world task.artifact with
          | .error e => e
          | .ok () => error))
    | .ok outcome =>
      let result := actionResult task actionRequestId outcome world.now
      { s with tables := setRow s.tables i actionRequestId fun row => { row with
          state := .completed
          result := some result
          completedAt := some world.now } }
        |>.reply i ((recordDynamicUiEvent world task.artifact).map fun _ => result)

def proceed (s : ActionRequests) (world : UiSurroundings) (drawn : ActionRequestId)
    (task : ActionTask) : ActionRequests :=
  match task.stage with
  | .checked => s.claim world task drawn
  | .outrun => s.replay task.invocation
  | .claimed actionRequestId => s.execute world task actionRequestId
  | .executed actionRequestId answer => s.settle world task actionRequestId answer

/-- An id that is drawn is new. -/
def IsNew (s : ActionRequests) (drawn : ActionRequestId) : Prop :=
  (s.tables.requests.entries.any fun entry => entry.2.actionRequestId == drawn) = false

instance (s : ActionRequests) (drawn : ActionRequestId) : Decidable (s.IsNew drawn) :=
  inferInstanceAs (Decidable (_ = _))

def step (s : ActionRequests) : UiAction → Option ActionRequests
  | .invoke world i => some (s.invoke world i)
  | .proceed world task drawn =>
    if s.IsNew drawn then
      s.tasks[task]?.map fun t =>
        proceed { s with tasks := s.tasks.eraseIdx task } world drawn t
    else none
  | .drop task => s.tasks[task]?.map fun _ => { s with tasks := s.tasks.eraseIdx task }
  | .updateState world artifactId request =>
    some { s with tables := (updateGeneratedUiState s.tables world artifactId request).tables }

end ActionRequests

end Uprava.Core.GeneratedUi
