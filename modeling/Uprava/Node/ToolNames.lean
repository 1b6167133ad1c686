/-
  File:      Uprava/Node/ToolNames.lean
  Subject:   The tools a Node discovers upstream: the definitions it makes of them, and what a
             command that executes one of them calls.

  The id of a definition holds the normalised name of the tool, and the execution looks for a tool
  whose own name is what the id holds. `tools_callable_iff` says for which lists of tools every
  definition is callable, and only it: those whose names are plain and distinct.
-/
import Mathlib.Data.List.Nodup
import Uprava.Lib.Fields
import Uprava.Lib.JsonText
import Uprava.Protocol.Tooling

namespace Uprava.Node

open Uprava.Lib (JsonArray JsonMap mem_splitOn)
open Uprava.Protocol

/-! ## 1. Names -/

def ensure (holds : Bool) (message : String) : Except String Unit :=
  if holds then .ok () else .error message

def maxToolMetadataChars : Nat := 4096
def maxToolDefinitions : Nat := 256
def maxToolSchemaBytes : Nat := 128 * 1024
def maxToolSchemaDepth : Nat := 32
def toolResultMaxBytes : Nat := 1048576
def mcpRequestTimeout : Int := 30

def normalizeCharacter (character : Char) : Char :=
  if character.isAlphanum then character.toLower else '_'

/-- The parts of a name that are not empty. -/
def nameParts (value : List Char) : List (List Char) :=
  ((value.map normalizeCharacter).splitOn '_').filter (· ≠ [])

def normalizeToolName (value : String) : Except String String :=
  let normalized := String.ofList (['_'].intercalate (nameParts value.toList))
  if normalized ≠ "" ∧ normalized.utf8ByteSize ≤ 120 then .ok normalized
  else .error "invalid MCP tool name"

/-- `value.strip_prefix(front)`. -/
def stripPrefix (front value : String) : Option String :=
  (front.toList.isPrefixOf? value.toList).map String.ofList

/-! ## 2. Schemas -/

mutual

def validateUpstreamValue : JsonValue → Nat → Except String Unit
  | .object fields, depth => do
    ensure (depth ≤ maxToolSchemaDepth) "MCP JSON Schema is too deep"
    validateUpstreamFields fields depth
  | .array items, depth => do
    ensure (depth ≤ maxToolSchemaDepth) "MCP JSON Schema is too deep"
    validateUpstreamItems items depth
  | .string s, depth => do
    ensure (depth ≤ maxToolSchemaDepth) "MCP JSON Schema is too deep"
    ensure (s.utf8ByteSize ≤ maxToolMetadataChars) "MCP JSON Schema string is too large"
  | _, depth => ensure (depth ≤ maxToolSchemaDepth) "MCP JSON Schema is too deep"

def validateUpstreamItems : JsonArray → Nat → Except String Unit
  | .nil, _ => .ok ()
  | .cons item rest, depth => do
    validateUpstreamValue item (depth + 1)
    validateUpstreamItems rest depth

def validateUpstreamFields : JsonMap → Nat → Except String Unit
  | .nil, _ => .ok ()
  | .cons key value rest, depth => do
    ensure (key.utf8ByteSize ≤ maxToolMetadataChars) "MCP JSON Schema key is too large"
    validateUpstreamValue value (depth + 1)
    validateUpstreamFields rest depth

end

def isObject : JsonValue → Bool
  | .object _ => true
  | _ => false

def validateUpstreamSchema (schema : JsonValue) : Except String Unit := do
  ensure (isObject schema) "MCP JSON Schema must be an object"
  ensure (schema.encode.utf8ByteSize ≤ maxToolSchemaBytes) "MCP JSON Schema exceeds its byte limit"
  validateUpstreamValue schema 0

mutual

/-- The value with the entries of its objects in key order. -/
def canonicalJson : JsonValue → JsonValue
  | .object fields => .object (canonicalFields fields)
  | .array items => .array (canonicalItems items)
  | scalar => scalar

def canonicalItems : JsonArray → JsonArray
  | .nil => .nil
  | .cons item rest => .cons (canonicalJson item) (canonicalItems rest)

def canonicalFields : JsonMap → JsonMap
  | .nil => .nil
  | .cons key value rest => (canonicalFields rest).insert key (canonicalJson value)

end

/-- The hash of both schemas; `sha256` gives the hexadecimal digest of a text. -/
def computeToolSchemaHash (sha256 : String → String) (inputSchema : JsonValue)
    (outputSchema : Option JsonValue) : String :=
  let material := Lib.JsonValue.ofFields [
    ("input_schema", canonicalJson inputSchema),
    ("output_schema", (outputSchema.map canonicalJson).getD .null)]
  "sha256:" ++ sha256 material.encode

/-! ## 3. Discovery -/

/-- What the Node wants of a dependency. -/
structure ToolDependencyDesired where
  dependencyInstanceId : McpDependencyInstanceId
  integrationId : IntegrationId
  desiredState : IntegrationDesiredState
  credentialRef : Option String
  upstreamUrl : String
  workloadName : String
  toolNamespace : String
  proxyPort : Nat
  deriving DecidableEq

def boundedMetadata (tool : JsonValue) (key : String) : Except String String :=
  match (tool.get key).bind Lib.JsonValue.asStr with
  | none => .error "MCP tool metadata is missing"
  | some value =>
    if value ≠ "" ∧ value.utf8ByteSize ≤ maxToolMetadataChars then .ok value
    else .error "MCP tool metadata exceeds limits"

/-- What is read of an entry of the upstream list. -/
structure UpstreamTool where
  sourceName : String
  normalizedName : String
  description : String
  inputSchema : JsonValue
  outputSchema : Option JsonValue
  schemaHash : String
  deriving DecidableEq

def toolDescription (tool : JsonValue) : String :=
  String.ofList ((((tool.get "description").bind Lib.JsonValue.asStr).getD
    "External Linear MCP tool").toList.take maxToolMetadataChars)

def requiredInputSchema (tool : JsonValue) : Except String JsonValue :=
  match tool.get "inputSchema" with
  | some schema => .ok schema
  | none => .error "MCP tool is missing inputSchema"

def validateOutputSchema : Option JsonValue → Except String Unit
  | some schema => validateUpstreamSchema schema
  | none => .ok ()

def readUpstreamTool (sha256 : String → String) (tool : JsonValue) :
    Except String UpstreamTool := do
  let sourceName ← boundedMetadata tool "name"
  let normalizedName ← normalizeToolName sourceName
  let inputSchema ← requiredInputSchema tool
  validateUpstreamSchema inputSchema
  let outputSchema := tool.get "outputSchema"
  validateOutputSchema outputSchema
  return {
    sourceName, normalizedName, inputSchema, outputSchema
    description := toolDescription tool
    schemaHash := computeToolSchemaHash sha256 inputSchema outputSchema }

def UpstreamTool.definition (desired : ToolDependencyDesired) (now : DateTime)
    (tool : UpstreamTool) : ToolDefinition where
  toolId := desired.toolNamespace ++ "." ++ tool.normalizedName
  sourceId := "linear-remote-mcp"
  sourceKind := .externalMcp
  sourceToolName := tool.sourceName
  version := 1
  displayName := tool.normalizedName.map fun c => if c = '_' then ' ' else c
  shortDescription := tool.description
  documentationUrl := none
  inputSchema := tool.inputSchema
  outputSchema := tool.outputSchema
  schemaHash := tool.schemaHash
  riskLevel := .externalRead
  requiredPermissions := ["integration.linear.read"]
  executionKind := .toolhiveMcp
  approvalPolicy := .allow
  redaction := {
    argumentJsonPointers := []
    resultJsonPointers := []
    redactAllArguments := false
    redactAllResult := false
    maxSummaryBytes := 2048 }
  state := .active
  createdAt := now
  updatedAt := now

/-- The entries of a `tools/list` result. -/
def listedTools (result : JsonValue) : Except String (List JsonValue) :=
  match result.get "tools" with
  | some (.array items) => .ok items.toList
  | _ => .error "MCP tools/list result did not contain tools"

def normalizeToolDefinitions (sha256 : String → String) (desired : ToolDependencyDesired)
    (result : JsonValue) (now : DateTime) : Except String (List ToolDefinition) := do
  let tools ← listedTools result
  ensure (tools.length ≤ maxToolDefinitions) "too many MCP tools"
  tools.mapM fun tool => return (← readUpstreamTool sha256 tool).definition desired now

/-! ## 4. Execution -/

/-- What the dependency answers: to `tools/list`, and to `tools/call` with a name and arguments. -/
structure Upstream where
  toolsList : Option JsonValue
  toolsCall : String → JsonValue → Option JsonValue

/-- The payload of an `ExecuteExternalTool` command, the fields the Node reads. -/
structure ExecuteExternalTool where
  toolCallId : ToolCallId
  toolId : ToolId
  schemaHash : String
  dependencyInstanceId : McpDependencyInstanceId
  arguments : JsonValue
  deadlineAt : DateTime
  maxResultBytes : Nat
  deriving DecidableEq

/-- How the race between the operation, its deadline and a cancellation ends. An operation that
    does not finish has sent so many of its calls. -/
inductive Ending where
  | finished
  | timedOut (sent : Nat)
  | cancelled (sent : Nat)
  deriving DecidableEq

/-- The calls sent to upstream tools, with the answer. -/
structure ToolExecution (α : Type) where
  calls : List (String × JsonValue)
  answer : α
  deriving DecidableEq

def toolError (code : ToolExecutionErrorCode) (message : String) (retryable : Bool) :
    ToolExecutionError where
  code
  message
  retryable
  redactedDetails := Lib.JsonValue.emptyObject

/-- The answer made of what `tools/call` returned. -/
def toolResult (maxResultBytes : Nat) :
    Option JsonValue → Except ToolExecutionError ToolResultEnvelope
  | none => .error (toolError .backendFailed "External MCP call failed" true)
  | some content =>
    let size := content.encode.utf8ByteSize
    if size > maxResultBytes then
      .error (toolError .resultTooLarge "External MCP result exceeds the configured limit" false)
    else .ok {
      content
      summary := none
      truncated := false
      originalSizeBytes := some size
      artifactRefs := [] }

def discoverTools (sha256 : String → String) (upstream : Upstream)
    (desired : ToolDependencyDesired) (now : DateTime) : Except String (List ToolDefinition) :=
  match upstream.toolsList with
  | none => .error "tools/list failed"
  | some result => normalizeToolDefinitions sha256 desired result now

/-- The operation of `call_external_tool`. -/
def externalToolOperation (sha256 : String → String) (upstream : Upstream)
    (desired : ToolDependencyDesired) (now : DateTime) (toolName : String) (arguments : JsonValue)
    (expectedSchemaHash : String) (maxResultBytes : Nat) :
    ToolExecution (Except ToolExecutionError ToolResultEnvelope) :=
  match discoverTools sha256 upstream desired now with
  | .error _ =>
    ⟨[], .error (toolError .backendFailed "Tool discovery failed before execution" true)⟩
  | .ok definitions =>
    match definitions.find? (·.sourceToolName == toolName) with
    | none => ⟨[], .error (toolError .unavailable "Upstream tool is unavailable" true)⟩
    | some definition =>
      if definition.schemaHash ≠ expectedSchemaHash then
        ⟨[], .error (toolError .schemaChanged "Upstream tool schema changed" false)⟩
      else
        ⟨[(toolName, arguments)], toolResult maxResultBytes (upstream.toolsCall toolName arguments)⟩

def callExternalTool (ending : Ending)
    (operation : ToolExecution (Except ToolExecutionError ToolResultEnvelope)) :
    ToolExecution (Except ToolExecutionError ToolResultEnvelope) :=
  match ending with
  | .finished => operation
  | .timedOut sent =>
    ⟨operation.calls.take sent, .error (toolError .timeout "External MCP call timed out" true)⟩
  | .cancelled sent =>
    ⟨operation.calls.take sent,
      .error (toolError .cancelled "External MCP call was cancelled" false)⟩

/-- The answer as the result of the command. -/
def toolingResult (toolCallId : ToolCallId) :
    Except ToolExecutionError ToolResultEnvelope → ExternalToolCommandResult
  | .ok result =>
    ⟨none, [], some ⟨toolingContractVersionV1, .toolCallCompleted toolCallId result⟩⟩
  | .error error =>
    ⟨none, [], some ⟨toolingContractVersionV1, .toolCallFailed toolCallId error⟩⟩

/-- What an `ExecuteExternalTool` command does on a Node that keeps these dependencies. -/
def executeExternalTool (sha256 : String → String) (upstream : Upstream)
    (dependencies : List (McpDependencyInstanceId × ToolDependencyDesired)) (now : DateTime)
    (ending : Ending) (command : ExecuteExternalTool) : ToolExecution ExternalToolCommandResult :=
  let failure (code : ToolExecutionErrorCode) (message : String) (retryable : Bool) :
      ToolExecution ExternalToolCommandResult :=
    ⟨[], toolingResult command.toolCallId (.error (toolError code message retryable))⟩
  match dependencies.lookup command.dependencyInstanceId with
  | none => failure .unavailable "MCP dependency is not configured on this Node" true
  | some desired =>
    if desired.desiredState ≠ .enabled then
      failure .unavailable "MCP dependency is stopped" false
    else if desired.credentialRef = none then
      failure .notAuthenticated "MCP dependency is not authenticated" false
    else if min (command.deadlineAt - now) mcpRequestTimeout ≤ 0 then
      failure .timeout "External tool deadline elapsed before execution" true
    else
      let toolName :=
        (stripPrefix (desired.toolNamespace ++ ".") command.toolId).getD command.toolId
      let maxBytes := min command.maxResultBytes toolResultMaxBytes
      let execution := callExternalTool ending (externalToolOperation sha256 upstream desired now
        toolName command.arguments command.schemaHash maxBytes)
      ⟨execution.calls, toolingResult command.toolCallId execution.answer⟩

/-! ## 5. Plain names -/

def isPlain (c : Char) : Bool := c.isLower || c.isDigit

def isPlainPart (part : List Char) : Bool := !part.isEmpty && part.all isPlain

/-- Lower-case letters and digits, in parts that are not empty with one `_` between them. -/
def PlainName (name : String) : Prop :=
  (∀ part ∈ name.toList.splitOn '_', isPlainPart part) ∧ name.utf8ByteSize ≤ 120

instance (name : String) : Decidable (PlainName name) :=
  inferInstanceAs (Decidable (_ ∧ _))

theorem isPlain_toLower {c : Char} (h : c.isAlphanum) : isPlain c.toLower := by
  delta isPlain Char.toLower Char.isLower Char.isDigit
  delta Char.isAlphanum Char.isAlpha Char.isUpper Char.isLower Char.isDigit at h
  split <;> grind [UInt32.toNat_add, UInt32.le_iff_toNat_le]

theorem normalizeCharacter_of_isPlain {c : Char} (h : isPlain c) : normalizeCharacter c = c := by
  have hword : c.isAlphanum := by
    delta Char.isAlphanum Char.isAlpha
    delta isPlain at h
    grind
  have hlower : c.toLower = c := by
    delta Char.toLower
    delta isPlain Char.isLower Char.isDigit at h
    grind [UInt32.le_iff_toNat_le]
  rw [normalizeCharacter, if_pos hword, hlower]

/-- The parts of a name are plain, whatever the name. -/
theorem nameParts_plain {value part : List Char} (h : part ∈ nameParts value) :
    isPlainPart part ∧ '_' ∉ part := by
  obtain ⟨hpart, hne⟩ := List.mem_filter.mp h
  have hc : ∀ c ∈ part, c ∈ value.map normalizeCharacter ∧ c ≠ '_' :=
    fun c hc => mem_splitOn.mp ⟨part, hpart, hc⟩
  refine ⟨?_, fun hmem => (hc _ hmem).2 rfl⟩
  rw [isPlainPart, Bool.and_eq_true, List.all_eq_true]
  refine ⟨by simpa using hne, fun c hmem => ?_⟩
  obtain ⟨⟨c', -, rfl⟩, hsep⟩ := (hc c hmem).imp_left List.mem_map.mp
  unfold normalizeCharacter at hsep ⊢
  split
  · rename_i hword
    exact isPlain_toLower hword
  · rename_i hword
    rw [if_neg hword] at hsep
    exact absurd rfl hsep

/-- A plain name is cut into its parts, and nothing is lost. -/
theorem nameParts_of_plain {value : List Char} (h : ∀ part ∈ value.splitOn '_', isPlainPart part) :
    nameParts value = value.splitOn '_' := by
  have hparts : ∀ part ∈ value.splitOn '_', part ≠ [] ∧ ∀ c ∈ part, isPlain c := by
    intro part hpart
    obtain ⟨hne, hplain⟩ := Bool.and_eq_true_iff.mp (h part hpart)
    exact ⟨by simpa using hne, List.all_eq_true.mp hplain⟩
  have hmap : value.map normalizeCharacter = value := by
    conv_rhs => rw [← List.map_id value]
    refine List.map_congr_left fun c hc => ?_
    by_cases hsep : c = '_'
    · subst hsep
      rfl
    · obtain ⟨part, hpart, hmem⟩ := mem_splitOn.mpr ⟨hc, hsep⟩
      exact normalizeCharacter_of_isPlain ((hparts part hpart).2 c hmem)
  rw [nameParts, hmap, List.filter_eq_self]
  exact fun part hpart => by simpa using (hparts part hpart).1

/-- **A name is its own normalisation exactly when it is plain.** -/
theorem normalizeToolName_eq_self_iff {name : String} :
    normalizeToolName name = .ok name ↔ PlainName name := by
  unfold normalizeToolName
  constructor
  · intro h
    dsimp only at h
    split at h
    · rename_i hlimits
      have hname : String.ofList (['_'].intercalate (nameParts name.toList)) = name := by
        injection h
      have hparts : nameParts name.toList ≠ [] := by
        intro hnil
        rw [hnil] at hlimits
        exact hlimits.1 rfl
      have hsplit : name.toList.splitOn '_' = nameParts name.toList := by
        conv_lhs => rw [← hname, String.toList_ofList]
        exact List.splitOn_intercalate '_' (fun part hpart => (nameParts_plain hpart).2) hparts
      refine ⟨fun part hpart => ?_, hname ▸ hlimits.2⟩
      rw [hsplit] at hpart
      exact (nameParts_plain hpart).1
    · cases h
  · intro ⟨hplain, hsize⟩
    have hname : String.ofList (['_'].intercalate (nameParts name.toList)) = name := by
      rw [nameParts_of_plain hplain, List.intercalate_splitOn, String.ofList_toList]
    have hne : name ≠ "" := by
      intro hempty
      rw [hempty] at hplain
      have hpart := hplain [] (by simp)
      cases hpart
    dsimp only
    rw [hname, if_pos ⟨hne, hsize⟩]

/-! ## 6. What a definition says of its tool -/

variable {sha256 : String → String} {desired : ToolDependencyDesired} {result : JsonValue}
  {now : DateTime} {tools : List UpstreamTool} {definitions : List ToolDefinition}

/-- The tools that are read of a `tools/list` result. -/
def readUpstreamTools (sha256 : String → String) (result : JsonValue) :
    Except String (List UpstreamTool) := do
  let tools ← listedTools result
  ensure (tools.length ≤ maxToolDefinitions) "too many MCP tools"
  tools.mapM (readUpstreamTool sha256)

theorem mapM_map_eq {α β γ ε : Type} (read : α → Except ε β) (f : β → γ) (items : List α) :
    items.mapM (fun item => do return f (← read item)) =
      (items.mapM read).map (List.map f) := by
  induction items with
  | nil => rfl
  | cons item items ih =>
    rw [List.mapM_cons, List.mapM_cons, ih]
    cases hitem : read item with
    | error message => rfl
    | ok value => cases hrest : items.mapM read <;> rfl

/-- The definitions are the tools that are read, each with its id under the namespace. -/
theorem normalizeToolDefinitions_eq :
    normalizeToolDefinitions sha256 desired result now =
      (readUpstreamTools sha256 result).map (List.map (·.definition desired now)) := by
  unfold normalizeToolDefinitions readUpstreamTools
  cases listedTools result with
  | error message => rfl
  | ok items =>
    show (ensure _ _ >>= fun _ => items.mapM _) =
      Except.map _ (ensure _ _ >>= fun _ => items.mapM _)
    cases ensure (items.length ≤ maxToolDefinitions) "too many MCP tools" with
    | error message => rfl
    | ok _ => exact mapM_map_eq _ _ items

/-- The name of an entry of the list. -/
def entryName (entry : JsonValue) : Option String := (entry.get "name").bind Lib.JsonValue.asStr

/-- The names in a `tools/list` result. -/
def upstreamNames (result : JsonValue) : List String :=
  match result.get "tools" with
  | some (.array items) => items.toList.filterMap entryName
  | _ => []

theorem boundedMetadata_ok {entry : JsonValue} {key value : String}
    (h : boundedMetadata entry key = .ok value) :
    (entry.get key).bind Lib.JsonValue.asStr = some value := by
  unfold boundedMetadata at h
  split at h
  · cases h
  · rename_i value' hvalue
    split at h
    · injection h with h
      rw [hvalue, h]
    · cases h

/-- What is read of an entry: its name, and the normalisation of the name. -/
theorem readUpstreamTool_ok {entry : JsonValue} {tool : UpstreamTool}
    (h : readUpstreamTool sha256 entry = .ok tool) :
    entryName entry = some tool.sourceName ∧
      normalizeToolName tool.sourceName = .ok tool.normalizedName := by
  unfold readUpstreamTool at h
  cases hsource : boundedMetadata entry "name" with
  | error message => simp [hsource, bind, Except.bind] at h
  | ok sourceName =>
    cases hname : normalizeToolName sourceName with
    | error message => simp [hsource, hname, bind, Except.bind] at h
    | ok normalizedName =>
      cases hinput : requiredInputSchema entry with
      | error message => simp [hsource, hname, hinput, bind, Except.bind] at h
      | ok inputSchema =>
        cases hvalid : validateUpstreamSchema inputSchema with
        | error message => simp [hsource, hname, hinput, hvalid, bind, Except.bind] at h
        | ok _ =>
          cases houtput : validateOutputSchema (entry.get "outputSchema") with
          | error message => simp [hsource, hname, hinput, hvalid, houtput, bind, Except.bind] at h
          | ok _ =>
            simp only [hsource, hname, hinput, hvalid, houtput, bind, Except.bind, pure,
              Except.pure, Except.ok.injEq] at h
            subst h
            exact ⟨boundedMetadata_ok hsource, hname⟩

theorem forall₂_of_mapM_ok {α β ε : Type} {read : α → Except ε β} {items : List α} {values : List β}
    (h : items.mapM read = .ok values) :
    List.Forall₂ (fun item value => read item = .ok value) items values := by
  induction items generalizing values with
  | nil =>
    cases h
    exact .nil
  | cons item items ih =>
    rw [List.mapM_cons] at h
    cases hitem : read item with
    | error message => simp [hitem, bind, Except.bind] at h
    | ok first =>
      cases hrest : items.mapM read with
      | error message => simp [hitem, hrest, bind, Except.bind] at h
      | ok rest =>
        simp only [hitem, hrest, bind, Except.bind, pure, Except.pure, Except.ok.injEq] at h
        subst h
        exact .cons hitem (ih hrest)

/-- Entries that are read one by one: their names, and the normalisations. -/
theorem names_of_entries {entries : List JsonValue}
    (h : List.Forall₂ (fun entry tool => readUpstreamTool sha256 entry = .ok tool) entries tools) :
    entries.filterMap entryName = tools.map (·.sourceName) ∧
      ∀ tool ∈ tools, normalizeToolName tool.sourceName = .ok tool.normalizedName := by
  induction h with
  | nil => exact ⟨rfl, by simp⟩
  | cons hentry _ ih =>
    obtain ⟨hname, hnormalized⟩ := readUpstreamTool_ok hentry
    refine ⟨?_, fun tool htool => ?_⟩
    · rw [List.filterMap_cons_some hname, ih.1, List.map_cons]
    · rcases List.mem_cons.mp htool with rfl | htool
      · exact hnormalized
      · exact ih.2 tool htool

/-- **The tools that are read have the names of the list**, in its order. -/
theorem readUpstreamTools_names (h : readUpstreamTools sha256 result = .ok tools) :
    upstreamNames result = tools.map (·.sourceName) ∧
      ∀ tool ∈ tools, normalizeToolName tool.sourceName = .ok tool.normalizedName := by
  unfold readUpstreamTools listedTools at h
  split at h
  · rename_i items hitems
    cases hbound : ensure (items.toList.length ≤ maxToolDefinitions) "too many MCP tools" with
    | error message => simp [hbound, bind, Except.bind] at h
    | ok _ =>
      simp only [hbound, bind, Except.bind] at h
      rw [upstreamNames, hitems]
      exact names_of_entries (forall₂_of_mapM_ok h)
  · cases h

/-- The id without the namespace is the normalised name. -/
theorem stripPrefix_append (front name : String) :
    stripPrefix front (front ++ name) = some name := by
  have hfront : front.toList.isPrefixOf? (front ++ name).toList = some name.toList := by
    rw [List.isPrefixOf?_eq_some_iff_append_eq, String.toList_append]
  rw [stripPrefix, hfront, Option.map_some, String.ofList_toList]

/-- Two tools have one id exactly when their names have one normalisation. -/
theorem toolId_eq_iff {tool tool' : UpstreamTool} :
    (tool.definition desired now).toolId = (tool'.definition desired now).toolId ↔
      tool.normalizedName = tool'.normalizedName := by
  constructor
  · intro h
    have hstrip : ∀ tool : UpstreamTool,
        stripPrefix (desired.toolNamespace ++ ".") (tool.definition desired now).toolId =
          some tool.normalizedName := fun tool => stripPrefix_append _ _
    have h' := congrArg (stripPrefix (desired.toolNamespace ++ ".")) h
    rw [hstrip, hstrip] at h'
    exact Option.some.inj h'
  · intro h
    show desired.toolNamespace ++ "." ++ tool.normalizedName = _
    rw [h]
    rfl

/-! ## 7. Callable, and only it -/

/-- The command finds its dependency enabled and authenticated, before its deadline. -/
def Ready (toolNamespace : String)
    (dependencies : List (McpDependencyInstanceId × ToolDependencyDesired)) (now : DateTime)
    (command : ExecuteExternalTool) : Prop :=
  now < command.deadlineAt ∧
    ∃ desired, dependencies.lookup command.dependencyInstanceId = some desired ∧
      desired.toolNamespace = toolNamespace ∧ desired.desiredState = .enabled ∧
      desired.credentialRef ≠ none

/-- The code of the error that a result reports. -/
def errorCode (result : ExternalToolCommandResult) : Option ToolExecutionErrorCode :=
  match result.event with
  | some ⟨_, .toolCallFailed _ error⟩ => some error.code
  | _ => none

/-- While the list is the one the definitions were made of, each of them executes the tool it was
    built from, and only it. -/
def Callable (sha256 : String → String) (toolNamespace : String) (result : JsonValue)
    (definitions : List ToolDefinition) : Prop :=
  ∀ definition ∈ definitions, ∀ upstream : Upstream, upstream.toolsList = some result →
    ∀ dependencies now command, Ready toolNamespace dependencies now command →
      command.toolId = definition.toolId → command.schemaHash = definition.schemaHash →
        let execution := executeExternalTool sha256 upstream dependencies now .finished command
        execution.calls = [(definition.sourceToolName, command.arguments)] ∧
          errorCode execution.answer ≠ some .unavailable

/-- The operation on a list that reads as these tools: what its search finds. -/
theorem externalToolOperation_read (h : readUpstreamTools sha256 result = .ok tools)
    {upstream : Upstream} (hlist : upstream.toolsList = some result) (toolName : String)
    (arguments : JsonValue) (expectedSchemaHash : String) (maxResultBytes : Nat) :
    externalToolOperation sha256 upstream desired now toolName arguments expectedSchemaHash
        maxResultBytes =
      match tools.find? (·.sourceName == toolName) with
      | none => ⟨[], .error (toolError .unavailable "Upstream tool is unavailable" true)⟩
      | some tool =>
        if tool.schemaHash ≠ expectedSchemaHash then
          ⟨[], .error (toolError .schemaChanged "Upstream tool schema changed" false)⟩
        else
          ⟨[(toolName, arguments)],
            toolResult maxResultBytes (upstream.toolsCall toolName arguments)⟩ := by
  have hdiscover : discoverTools sha256 upstream desired now =
      .ok (tools.map (·.definition desired now)) := by
    rw [discoverTools, hlist]
    dsimp only
    rw [normalizeToolDefinitions_eq, h]
    rfl
  have hfind : (tools.map (·.definition desired now)).find? (·.sourceToolName == toolName) =
      (tools.find? (·.sourceName == toolName)).map (·.definition desired now) := by
    rw [List.find?_map]
    rfl
  rw [externalToolOperation, hdiscover]
  dsimp only
  rw [hfind]
  cases tools.find? (·.sourceName == toolName) with
  | none => rfl
  | some tool => rfl

/-- **A ready command for the id of a tool looks for a tool with the normalised name.** -/
theorem executeExternalTool_ready {toolNamespace : String} {tool : UpstreamTool}
    {upstream : Upstream} {dependencies : List (McpDependencyInstanceId × ToolDependencyDesired)}
    {command : ExecuteExternalTool} (hready : Ready toolNamespace dependencies now command)
    (hid : command.toolId = toolNamespace ++ "." ++ tool.normalizedName) :
    ∃ desired : ToolDependencyDesired,
      executeExternalTool sha256 upstream dependencies now .finished command =
        let operation := externalToolOperation sha256 upstream desired now tool.normalizedName
          command.arguments command.schemaHash (min command.maxResultBytes toolResultMaxBytes)
        ⟨operation.calls, toolingResult command.toolCallId operation.answer⟩ := by
  obtain ⟨hdeadline, desired, hlookup, hnamespace, henabled, hcredential⟩ := hready
  have hremaining : ¬ min (command.deadlineAt - now) mcpRequestTimeout ≤ 0 := by
    have hlimit : (0 : Int) < mcpRequestTimeout := by decide
    exact not_le.mpr (lt_min (Int.sub_pos_of_lt hdeadline) hlimit)
  have hname : stripPrefix (desired.toolNamespace ++ ".") command.toolId =
      some tool.normalizedName := by
    rw [hid, hnamespace]
    exact stripPrefix_append _ _
  refine ⟨desired, ?_⟩
  rw [executeExternalTool, hlookup]
  dsimp only
  rw [if_neg (not_not.mpr henabled), if_neg hcredential, if_neg hremaining, hname]
  rfl

/-- What the operation calls has the name it looks for. -/
theorem externalToolOperation_calls {upstream : Upstream} {toolName expectedSchemaHash : String}
    {arguments : JsonValue} {maxResultBytes : Nat} {call : String × JsonValue}
    (h : call ∈ (externalToolOperation sha256 upstream desired now toolName arguments
      expectedSchemaHash maxResultBytes).calls) : call = (toolName, arguments) := by
  unfold externalToolOperation at h
  split at h
  · cases h
  · split at h
    · cases h
    · split at h
      · cases h
      · exact List.mem_singleton.mp h

theorem toolResult_available (toolCallId : ToolCallId) (maxResultBytes : Nat)
    (content : Option JsonValue) :
    errorCode (toolingResult toolCallId (toolResult maxResultBytes content)) ≠
      some .unavailable := by
  cases content with
  | none => simp [toolResult, toolingResult, errorCode, toolError]
  | some content =>
    unfold toolResult
    dsimp only
    split <;> simp [toolingResult, errorCode, toolError]

/-- Of tools with distinct names the search finds the one it looks for. -/
theorem find?_sourceName (hnodup : (tools.map (·.sourceName)).Nodup) {tool : UpstreamTool}
    (htool : tool ∈ tools) : tools.find? (·.sourceName == tool.sourceName) = some tool := by
  obtain ⟨found, hfound⟩ := List.find?_isSome (p := (·.sourceName == tool.sourceName))
    |>.mpr ⟨tool, htool, by simp⟩ |> Option.isSome_iff_exists.mp
  have hname : found.sourceName = tool.sourceName := by simpa using List.find?_some hfound
  have hmem : found ∈ tools := List.mem_of_find?_eq_some hfound
  rw [hfound, List.inj_on_of_nodup_map hnodup hmem htool hname]

/-- A command for the tool that is ready whenever its dependency is the only one. -/
def readyCommand (tool : ToolDefinition) : ExecuteExternalTool where
  toolCallId := ""
  toolId := tool.toolId
  schemaHash := tool.schemaHash
  dependencyInstanceId := ""
  arguments := .null
  deadlineAt := 1
  maxResultBytes := 0

def readyDependency (toolNamespace : String) : ToolDependencyDesired where
  dependencyInstanceId := ""
  integrationId := ""
  desiredState := .enabled
  credentialRef := some ""
  upstreamUrl := ""
  workloadName := ""
  toolNamespace
  proxyPort := 0

/-- What is callable has a name that is its own normalisation. -/
theorem Callable.normalized
    (hdefinitions : definitions = tools.map (·.definition desired now))
    (h : Callable sha256 desired.toolNamespace result definitions) :
    ∀ tool ∈ tools, tool.sourceName = tool.normalizedName := by
  intro tool htool
  have hmem : tool.definition desired now ∈ definitions := by
    rw [hdefinitions]
    exact List.mem_map_of_mem htool
  have hready : Ready desired.toolNamespace [("", readyDependency desired.toolNamespace)] 0
      (readyCommand (tool.definition desired now)) :=
    ⟨Int.one_pos, _, rfl, rfl, rfl, by simp [readyDependency]⟩
  obtain ⟨hcalls, -⟩ := h _ hmem ⟨some result, fun _ _ => none⟩ rfl _ _ _ hready rfl rfl
  obtain ⟨desired', hexecution⟩ :=
      (@executeExternalTool_ready sha256 _ _ tool ⟨some result, fun _ _ => none⟩) hready rfl
  rw [hexecution] at hcalls
  have hcall := externalToolOperation_calls (hcalls ▸ List.mem_singleton_self _)
  exact congrArg Prod.fst hcall

/-- **For an accepted list, the ids are distinct and every tool is callable, and only it, exactly
    when the names of the list are distinct and each of them is plain.** -/
theorem tools_callable_iff
    (h : normalizeToolDefinitions sha256 desired result now = .ok definitions) :
    (definitions.map (·.toolId)).Nodup ∧
        Callable sha256 desired.toolNamespace result definitions ↔
      (upstreamNames result).Nodup ∧ ∀ name ∈ upstreamNames result, PlainName name := by
  obtain ⟨tools, hread, rfl⟩ : ∃ tools, readUpstreamTools sha256 result = .ok tools ∧
      definitions = tools.map (·.definition desired now) := by
    rw [normalizeToolDefinitions_eq] at h
    cases hread : readUpstreamTools sha256 result with
    | error message =>
      rw [hread] at h
      cases h
    | ok tools =>
      rw [hread] at h
      injection h with h
      exact ⟨tools, rfl, h.symm⟩
  obtain ⟨hnames, hnormalized⟩ := readUpstreamTools_names hread
  rw [hnames]
  have hids : ((tools.map (·.definition desired now)).map (·.toolId)).Nodup ↔
      (tools.map (·.normalizedName)).Nodup := by
    rw [List.map_map, List.nodup_iff_pairwise_ne, List.pairwise_map, List.nodup_iff_pairwise_ne,
      List.pairwise_map]
    simp only [Function.comp, ne_eq, toolId_eq_iff]
  constructor
  · intro ⟨hdistinct, hcallable⟩
    have hself := hcallable.normalized rfl
    have hsame : tools.map (·.sourceName) = tools.map (·.normalizedName) :=
      List.map_congr_left hself
    refine ⟨hsame ▸ hids.mp hdistinct, fun name hname => ?_⟩
    obtain ⟨tool, htool, rfl⟩ := List.mem_map.mp hname
    rw [← normalizeToolName_eq_self_iff]
    conv_rhs => rw [hself tool htool]
    exact hnormalized tool htool
  · intro ⟨hdistinct, hplain⟩
    have hself : ∀ tool ∈ tools, tool.sourceName = tool.normalizedName := by
      intro tool htool
      have hkept := normalizeToolName_eq_self_iff.mpr (hplain _ (List.mem_map_of_mem htool))
      rw [hnormalized tool htool] at hkept
      injection hkept with hkept
      exact hkept.symm
    have hsame : tools.map (·.sourceName) = tools.map (·.normalizedName) :=
      List.map_congr_left hself
    refine ⟨hids.mpr (hsame ▸ hdistinct), ?_⟩
    intro definition hdefinition upstream hlist dependencies now' command hready hid hhash
    obtain ⟨tool, htool, rfl⟩ := List.mem_map.mp hdefinition
    obtain ⟨desired', hexecution⟩ :=
      (@executeExternalTool_ready sha256 _ _ _ upstream) hready hid
    have hfind : tools.find? (·.sourceName == tool.normalizedName) = some tool := by
      rw [← hself tool htool]
      exact find?_sourceName hdistinct htool
    have hkept : ¬ tool.schemaHash ≠ command.schemaHash := by
      rw [hhash]
      exact not_not.mpr rfl
    rw [hexecution, externalToolOperation_read hread hlist, hfind]
    dsimp only
    rw [if_neg hkept, ← hself tool htool]
    exact ⟨rfl, toolResult_available _ _ _⟩

/-! ## 8. Lists of tools -/

/-- The digest of the only material below. -/
def emptySchemaDigest (_ : String) : String :=
  "d1ff67d8a44631e4991e13d21f9ccc5f77b49e2a566740955f31881c1dc6387d"

def linear : ToolDependencyDesired where
  dependencyInstanceId := "dependency-linear"
  integrationId := "integration-linear"
  desiredState := .enabled
  credentialRef := some "credential"
  upstreamUrl := "https://mcp.linear.app/mcp"
  workloadName := "uprava-linear"
  toolNamespace := "linear"
  proxyPort := 18766

/-- A list of tools with these names, that take no arguments. -/
def toolsNamed (names : List String) : JsonValue :=
  .ofFields [("tools", .ofItems (names.map fun name =>
    .ofFields [("name", .string name), ("inputSchema", .emptyObject)]))]

def definitionsNamed (names : List String) : List ToolDefinition :=
  (normalizeToolDefinitions emptySchemaDigest linear (toolsNamed names) 0).toOption.getD []

theorem tools_callable_iff_named :
    (definitionsNamed ["list_issues", "get_issue"]).length = 2 ∧
      ((definitionsNamed ["list_issues", "get_issue"]).map (·.toolId)).Nodup ∧
      Callable emptySchemaDigest "linear" (toolsNamed ["list_issues", "get_issue"])
        (definitionsNamed ["list_issues", "get_issue"]) := by
  have h : normalizeToolDefinitions emptySchemaDigest linear
      (toolsNamed ["list_issues", "get_issue"]) 0 =
        .ok (definitionsNamed ["list_issues", "get_issue"]) := by decide +kernel
  have hplain : (upstreamNames (toolsNamed ["list_issues", "get_issue"])).Nodup ∧
      ∀ name ∈ upstreamNames (toolsNamed ["list_issues", "get_issue"]), PlainName name := by
    decide
  exact ⟨by decide, (tools_callable_iff h).mpr hplain⟩

/-- An upstream with these tools, that answers every call. -/
def upstreamNamed (names : List String) : Upstream where
  toolsList := some (toolsNamed names)
  toolsCall _ _ := some .null

/-- **A tool whose name has a capital letter is discovered and never called.** -/
theorem capital_not_callable :
    ¬ ∀ (desired : ToolDependencyDesired) (result : JsonValue) (now : DateTime)
        (definitions : List ToolDefinition),
      normalizeToolDefinitions emptySchemaDigest desired result now = .ok definitions →
        (definitions.map (·.toolId)).Nodup ∧
          Callable emptySchemaDigest desired.toolNamespace result definitions := by
  intro h
  have hdefinitions : normalizeToolDefinitions emptySchemaDigest linear
      (toolsNamed ["listIssues"]) 0 = .ok (definitionsNamed ["listIssues"]) := by decide +kernel
  obtain ⟨definition, hdefinition⟩ : ∃ definition, definitionsNamed ["listIssues"] = [definition] :=
    List.length_eq_one_iff.mp (by decide)
  obtain ⟨hcalled, -⟩ := (h linear _ 0 _ hdefinitions).2 definition (by simp [hdefinition])
    (upstreamNamed ["listIssues"]) rfl [("", linear)] 0 (readyCommand definition)
    ⟨Int.one_pos, linear, rfl, rfl, rfl, by decide⟩ rfl rfl
  have hcalls : ∀ definition ∈ definitionsNamed ["listIssues"],
      (executeExternalTool emptySchemaDigest (upstreamNamed ["listIssues"]) [("", linear)] 0
        .finished (readyCommand definition)).calls = [] := by decide
  rw [hcalls definition (by simp [hdefinition])] at hcalled
  cases hcalled

end Uprava.Node
