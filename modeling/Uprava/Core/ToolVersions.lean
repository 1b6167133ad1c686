/-
  File:      Uprava/Core/ToolVersions.lean
  Subject:   Versions of tool definitions and snapshots of schemas: sequences of registrations,
             inspections and executions.

  A registration raises the version of a definition when the hash of its schema is another one, and
  looks at nothing else. An execution takes a snapshot of the definition it finds before it runs
  the tool, over the one an inspection took, and compares the two nowhere.

  * `definitions_versioned_iff`: versions rise exactly with the meaning of definitions, and
    executions with a stale snapshot are refused, exactly when the hash of every stored definition
    tells its meaning, and no execution meets a stale snapshot.
-/
import Uprava.Lib.Run
import Uprava.Core.ToolCalls

namespace Uprava.Core

open Uprava.Protocol
open Uprava.Lib (Table run Meets meets_iff_of_inv)
open Uprava.Lib.Table

/-! ## 1. Sequences of calls -/

/-- The registry, and which tools the sessions have inspected. -/
structure ToolSessions where
  tooling : Tooling := {}
  inspected : List (SessionThreadId × ToolId) := []
  deriving DecidableEq

/-- A call to the registry. -/
inductive RegistryCall where
  /-- `register_tool_definitions` -/
  | register (sourceId : ToolSourceId) (sourceKind : ToolSourceKind) (sourceDisplayName : String)
      (desired : List ToolDefinition) (now : DateTime)
  /-- `inspect_tool` -/
  | inspect (scope : ToolScope) (toolId : ToolId) (now : DateTime)
  /-- `execute_tool` -/
  | execute (toolCallId : ToolCallId) (correlationId : CorrelationId)
      (request : ExecuteToolRequest) (surroundings : Surroundings) (now : DateTime)

/-- `inspect_tool`: the snapshot it takes of the definition it shows. -/
def ToolSessions.inspect (s : ToolSessions) (scope : ToolScope) (toolId : ToolId)
    (now : DateTime) : ToolSessions :=
  if !toolIsVisibleToActor scope.actorRef then s
  else
    match loadToolDefinition s.tooling.toolDefinitions toolId with
    | none => s
    | some definition =>
      { tooling := persistSessionToolSnapshot s.tooling scope definition now
        inspected := s.inspected ++ scope.sessionThreadId.toList.map (·, toolId) }

section Calls

variable (digest : Digest)

def ToolSessions.step (s : ToolSessions) : RegistryCall → Option ToolSessions
  | .register sourceId sourceKind sourceDisplayName desired now =>
    match registerToolDefinitions s.tooling sourceId sourceKind sourceDisplayName desired now with
    | .ok tooling => some { s with tooling }
    | .error _ => some s
  | .inspect scope toolId now => some (s.inspect scope toolId now)
  | .execute toolCallId correlationId request surroundings now => some { s with
      tooling :=
        (executeTool digest s.tooling toolCallId correlationId request surroundings now).1 }

end Calls

/-! ## 2. What is asked of versions and of snapshots -/

/-- Two definitions mean the same: the description, the schemas, the risk, the permissions, the
    approval policy, the kind of execution and the redaction. -/
structure SameMeaning (a b : ToolDefinition) : Prop where
  shortDescription : a.shortDescription = b.shortDescription
  inputSchema : a.inputSchema = b.inputSchema
  outputSchema : a.outputSchema = b.outputSchema
  riskLevel : a.riskLevel = b.riskLevel
  requiredPermissions : a.requiredPermissions = b.requiredPermissions
  approvalPolicy : a.approvalPolicy = b.approvalPolicy
  executionKind : a.executionKind = b.executionKind
  redaction : a.redaction = b.redaction

/-- One definition of a batch as a step, which is not enabled when it cannot be stored. -/
def storeDefinition (now : DateTime) (t : Table ToolDefinitionRow) (d : ToolDefinition) :
    Option (Table ToolDefinitionRow) := (upsertToolDefinition t d now).toOption

/-- The version rises when the definition means something else than the stored one, and only
    then. -/
def VersionFollows (now : DateTime) (t : Table ToolDefinitionRow) (d : ToolDefinition) : Prop :=
  ∀ r r' u, findToolDefinition? t d.toolId = some r → storeDefinition now t d = some u →
    findToolDefinition? u d.toolId = some r' →
    (¬ SameMeaning r.definition d → r.version < r'.version) ∧
      (SameMeaning r.definition d → r'.version = r.version)

/-- The hash of the definition is another one than the stored one's exactly when it means something
    else. -/
def HashTells (t : Table ToolDefinitionRow) (d : ToolDefinition) : Prop :=
  ∀ r, findToolDefinition? t d.toolId = some r →
    (r.schemaHash = d.schemaHash ↔ SameMeaning r.definition d)

/-- The versions of a registration follow, if it is stored. -/
def RegistryCall.VersionsFollow (s : ToolSessions) : RegistryCall → Prop
  | register _ _ _ desired now =>
    (∃ t, upsertToolDefinitions now desired s.tooling.toolDefinitions = .ok t) →
      Meets (storeDefinition now) (VersionFollows now) s.tooling.toolDefinitions desired
  | _ => True

/-- The hashes of a registration tell what its definitions mean, if it is stored. -/
def RegistryCall.HashesTell (s : ToolSessions) : RegistryCall → Prop
  | register _ _ _ desired now =>
    NamesFree (heldNames s.tooling.toolDefinitions) desired →
      Meets (storeDefinition now) HashTells s.tooling.toolDefinitions desired
  | _ => True

/-- The session of an execution has inspected the tool, and its snapshot is of another schema than
    the tool's current one. -/
def ToolSessions.Stale (s : ToolSessions) (request : ExecuteToolRequest) : Prop :=
  ∃ definition sessionThreadId snapshot,
    loadToolDefinition s.tooling.toolDefinitions request.toolId = some definition ∧
    request.scope.sessionThreadId = some sessionThreadId ∧
    (sessionThreadId, request.toolId) ∈ s.inspected ∧
    findSnapshot? s.tooling.snapshots sessionThreadId request.toolId = some snapshot ∧
    snapshot.schemaHash ≠ definition.schemaHash

/-- The execution ended with `schema_changed`, and the tool was not run. -/
def Executed.RefusedAsStale (executed : Executed) : Prop :=
  executed.ran = false ∧ ∃ response error, executed.response = .ok response ∧
    response.error = some error ∧ error.code = .schemaChanged

/-- An execution with a stale snapshot is refused. -/
def RegistryCall.RefusesStale (digest : Digest) (s : ToolSessions) : RegistryCall → Prop
  | execute toolCallId correlationId request surroundings now => s.Stale request →
      (executeTool digest s.tooling toolCallId correlationId request surroundings
        now).2.RefusedAsStale
  | _ => True

/-- No execution meets a stale snapshot. -/
def RegistryCall.MeetsFresh (s : ToolSessions) : RegistryCall → Prop
  | execute _ _ request _ _ => ¬ s.Stale request
  | _ => True

/-! ## 3. Versions -/

/-- Stored versions start with one. -/
def VersionsStarted (t : Table ToolDefinitionRow) : Prop := ∀ r ∈ t.rows, 1 ≤ r.version

section Versions

variable {t u : Table ToolDefinitionRow} {d : ToolDefinition} {now : DateTime}

theorem storeDefinition_eq_some :
    storeDefinition now t d = some u ↔ upsertToolDefinition t d now = .ok u := by
  rw [storeDefinition]
  cases upsertToolDefinition t d now <;> simp [Except.toOption]

theorem one_le_desired (current : Option ToolDefinitionRow) :
    1 ≤ (ToolDefinitionRow.desired current d now).version := by
  show 1 ≤ (nextToolVersion current d now).1
  cases current with
  | none => exact Nat.le_refl 1
  | some r =>
    rw [nextToolVersion]
    split <;> exact Nat.le_max_right _ 1

theorem VersionsStarted.store (ht : VersionsStarted t) (h : storeDefinition now t d = some u) :
    VersionsStarted u := by
  intro r hr
  rcases (mem_upsertToolDefinition (storeDefinition_eq_some.mp h)).mp hr with ⟨hr, -⟩ | rfl
  · exact ht r hr
  · exact one_le_desired _

theorem VersionsStarted.storeAll {desired : List ToolDefinition} (ht : VersionsStarted t)
    (h : upsertToolDefinitions now desired t = .ok u) : VersionsStarted u := by
  induction desired generalizing t with
  | nil =>
    obtain rfl : t = u := Except.ok.inj h
    exact ht
  | cons d rest ih =>
    obtain ⟨v, hv, hr⟩ := upsertToolDefinitions_cons.mp h
    exact ih (ht.store (storeDefinition_eq_some.mpr hv)) hr

/-- What is stored under the tool's id is what was desired. -/
theorem findToolDefinition?_stored (h : storeDefinition now t d = some u) :
    findToolDefinition? u d.toolId =
      some (.desired (findToolDefinition? t d.toolId) d now) := by
  have hmem := (mem_upsertToolDefinition (storeDefinition_eq_some.mp h)
    (r := .desired (findToolDefinition? t d.toolId) d now)).mpr (Or.inr rfl)
  exact find?_of_mem hmem (by simp [ToolDefinitionRow.desired]) fun a ha =>
    Or.inl (beq_iff_eq.mp ha)

/-- **A stored version follows the meaning exactly when the hash tells it.** -/
theorem versionFollows_iff (ht : VersionsStarted t) (h : storeDefinition now t d = some u) :
    VersionFollows now t d ↔ HashTells t d := by
  have hversion : ∀ r, findToolDefinition? t d.toolId = some r →
      (ToolDefinitionRow.desired (some r) d now).version =
        if r.schemaHash = d.schemaHash then r.version else r.version + 1 := by
    intro r hr
    have hstarted := ht r (mem_of_find? hr)
    show (nextToolVersion (some r) d now).1 = _
    rw [nextToolVersion]
    split
    · exact Nat.max_eq_left hstarted
    · exact Nat.max_eq_left (Nat.le_add_left 1 r.version)
  constructor
  · intro hfollows r hr
    have hstored := findToolDefinition?_stored h
    rw [hr] at hstored
    obtain ⟨hrises, hstays⟩ := hfollows r _ u hr h hstored
    rw [hversion r hr] at hrises hstays
    constructor
    · intro hsame
      by_contra hother
      have hlt := hrises hother
      rw [if_pos hsame] at hlt
      exact Nat.lt_irrefl _ hlt
    · intro hmeaning
      by_contra hother
      have heq := hstays hmeaning
      rw [if_neg hother] at heq
      omega
  · intro htells r r' u' hr h' hr'
    obtain rfl : u = u' := Option.some.inj (h.symm.trans h')
    have hstored := findToolDefinition?_stored h
    rw [hr] at hstored
    obtain rfl := Option.some.inj (hstored.symm.trans hr')
    rw [hversion r hr]
    constructor
    · intro hother
      rw [if_neg fun hsame => hother ((htells r hr).mp hsame)]
      exact Nat.lt_succ_self _
    · intro hmeaning
      rw [if_pos ((htells r hr).mpr hmeaning)]

/-- The same for a batch that is stored. -/
theorem versionsFollow_iff {desired : List ToolDefinition} (ht : VersionsStarted t)
    (h : upsertToolDefinitions now desired t = .ok u) :
    Meets (storeDefinition now) (VersionFollows now) t desired ↔
      Meets (storeDefinition now) HashTells t desired := by
  induction desired generalizing t with
  | nil => exact Iff.rfl
  | cons d rest ih =>
    obtain ⟨v, hv, hr⟩ := upsertToolDefinitions_cons.mp h
    have hstore : storeDefinition now t d = some v := storeDefinition_eq_some.mpr hv
    refine and_congr (versionFollows_iff ht hstore) (forall₂_congr fun w hw => ?_)
    obtain rfl : v = w := Option.some.inj (hstore.symm.trans hw)
    exact ih (ht.store hstore) hr

end Versions

/-! ## 4. Executions -/

section Executions

variable {digest : Digest} {call : NewCall} {surroundings : Surroundings}

/-- A way that does not run the tool never ends with `schema_changed`. -/
theorem callWay_schemaChanged {error : ToolExecutionError}
    (h : (callWay call surroundings).2.1.error = some error) (hcode : error.code = .schemaChanged) :
    (callWay call surroundings).2.2 = true := by
  rw [callWay] at h ⊢
  cases hpolicy : policyDecision call.definition call.request.scope with
  | deny =>
    rw [hpolicy] at h
    obtain rfl : deniedError = error := Option.some.inj h
    cases hcode
  | requireApproval =>
    rw [hpolicy] at h
    obtain rfl : approvalError = error := Option.some.inj h
    cases hcode
  | allow =>
    rw [hpolicy] at h
    dsimp only at h ⊢
    split at h
    · obtain rfl : unavailableError = error := Option.some.inj h
      cases hcode
    · rename_i havailable
      rw [if_neg havailable]
      split at h
      · rename_i message harguments
        obtain rfl : toolError .invalidArguments message false = error := Option.some.inj h
        cases hcode
      · rfl

/-- **`execute_tool` refuses no call as stale.** -/
theorem not_refusedAsStale {s : Tooling} {toolCallId : ToolCallId} {correlationId : CorrelationId}
    {request : ExecuteToolRequest} {now : DateTime} {definition : ToolDefinition}
    (hdefinition : loadToolDefinition s.toolDefinitions request.toolId = some definition) :
    ¬ (executeTool digest s toolCallId correlationId request surroundings
      now).2.RefusedAsStale := by
  intro ⟨hran, response, error, hresponse, herror, hcode⟩
  rw [executeTool, hdefinition] at hran hresponse
  dsimp only [Executed.after] at hran hresponse
  generalize hoften : runWrites digest _ now _ s = result at hran hresponse
  obtain ⟨t, outcome⟩ := result
  cases outcome with
  | error e => cases hresponse
  | ok x =>
    have hway := Except.ok.inj hresponse
    rw [← hway] at herror
    have htrue := callWay_schemaChanged herror hcode
    rw [htrue] at hran
    cases hran

end Executions

/-! ## 5. Sequences -/

section Sequences

variable {digest : Digest} {s t : ToolSessions}

/-- Only a registration writes definitions. -/
theorem toolDefinitions_runWrites {digest : Digest} {call : NewCall} {now : DateTime}
    (writes : List CallWrite) (s : Tooling) :
    (runWrites digest call now writes s).1.toolDefinitions = s.toolDefinitions := by
  induction writes generalizing s with
  | nil => rfl
  | cons write rest ih =>
    rw [runWrites]
    split
    · rename_i t ht
      rw [ih t]
      cases write with
      | insert =>
        rw [CallWrite.run] at ht
        split at ht
        · obtain rfl := Except.ok.inj ht
          rfl
        · cases ht
      | snapshot =>
        obtain rfl := Except.ok.inj ht
        rw [persistSessionToolSnapshot]
        split <;> rfl
      | _ =>
        obtain rfl := Except.ok.inj ht
        rfl
    · rfl

theorem VersionsStarted.step {c : RegistryCall} (hs : VersionsStarted s.tooling.toolDefinitions)
    (h : s.step digest c = some t) : VersionsStarted t.tooling.toolDefinitions := by
  cases c with
  | register sourceId sourceKind sourceDisplayName desired now =>
    rw [ToolSessions.step] at h
    split at h
    · rename_i tooling hregister
      obtain rfl := Option.some.inj h
      obtain ⟨toolDefinitions, hupsert, htooling⟩ := bind_eq_ok.mp hregister
      obtain rfl := Except.ok.inj htooling
      exact hs.storeAll hupsert
    · obtain rfl := Option.some.inj h
      exact hs
  | inspect scope toolId now =>
    obtain rfl := Option.some.inj h
    rw [ToolSessions.inspect]
    split
    · exact hs
    · split
      · exact hs
      · rw [persistSessionToolSnapshot]
        split <;> exact hs
  | execute toolCallId correlationId request surroundings now =>
    obtain rfl := Option.some.inj h
    dsimp only
    rw [executeTool]
    split
    · exact hs
    · dsimp only
      rw [toolDefinitions_runWrites]
      exact hs

/-- **Versions rise exactly with the meaning of definitions, and executions with a stale snapshot
    are refused, exactly when the hash of every stored definition tells its meaning, and no
    execution meets a stale snapshot.** -/
theorem definitions_versioned_iff (digest : Digest) {s : ToolSessions} {cs : List RegistryCall}
    (hs : VersionsStarted s.tooling.toolDefinitions) :
    Meets (ToolSessions.step digest) (fun s c => c.VersionsFollow s ∧ c.RefusesStale digest s)
        s cs ↔
      Meets (ToolSessions.step digest) (fun s c => c.HashesTell s ∧ c.MeetsFresh s) s cs := by
  refine meets_iff_of_inv (fun s => VersionsStarted s.tooling.toolDefinitions)
    (fun _ _ _ hI h => VersionsStarted.step hI h) (fun s c hI => ?_) hs
  cases c with
  | register sourceId sourceKind sourceDisplayName desired now =>
    refine and_congr_left fun _ => ?_
    rw [RegistryCall.VersionsFollow, RegistryCall.HashesTell,
      ← (@upsertToolDefinitions_isOk_iff _ now) fun _ => Iff.rfl]
    exact forall_congr' fun ⟨u, hu⟩ => versionsFollow_iff hI hu
  | inspect scope toolId now => exact Iff.rfl
  | execute toolCallId correlationId request surroundings now =>
    refine and_congr_right fun _ => ?_
    constructor
    · intro hrefuses hstale
      have hrefused := hrefuses hstale
      obtain ⟨definition, _, _, hdefinition, -⟩ := hstale
      exact not_refusedAsStale hdefinition hrefused
    · exact fun hfresh hstale => absurd hstale hfresh

end Sequences

/-! ## 6. A definition that means something else, and a stale snapshot -/

section Stale

def readTool : ToolDefinition where
  toolId := "uprava.node.inspect"
  sourceId := nativeSourceId
  sourceKind := .upravaNative
  sourceToolName := "node.inspect"
  version := 1
  displayName := "Inspect node"
  shortDescription := "Read one node"
  documentationUrl := none
  inputSchema := .ofFields [("type", .string "object")]
  outputSchema := none
  schemaHash := "sha256:1"
  riskLevel := .readOnly
  requiredPermissions := []
  executionKind := .coreNative
  approvalPolicy := .allow
  redaction := ⟨[], [], false, false, 1024⟩
  state := .active
  createdAt := 0
  updatedAt := 0

def providerScope : ToolScope := ⟨.provider "codex", some "n1", none, some "p1", some "s1"⟩

def registerNative (definition : ToolDefinition) (now : DateTime) : RegistryCall :=
  .register nativeSourceId .upravaNative "Uprava" [definition] now

def executeRead : RegistryCall :=
  .execute "c1" "k1" ⟨providerScope, "uprava.node.inspect", .emptyObject⟩
    ⟨true, none, .content .emptyObject []⟩ 3

/-- The same schema, for a tool that now destroys things. -/
def destructiveTool : ToolDefinition := { readTool with riskLevel := .destructive }

/-- Another schema. -/
def changedTool : ToolDefinition := { readTool with
  inputSchema := .ofFields [("type", .string "object"), ("properties", .emptyObject)]
  schemaHash := "sha256:2" }

/-- Core after the tool is registered. -/
def registeredSessions : ToolSessions := ((ToolSessions.step id {} (registerNative readTool 0)).getD {})

/-- Core after a session has inspected the tool, and after its schema has changed. -/
def inspectedSessions : ToolSessions :=
  ((ToolSessions.step id registeredSessions (.inspect providerScope "uprava.node.inspect" 1)).getD {})

def changedSessions : ToolSessions :=
  ((ToolSessions.step id inspectedSessions (registerNative changedTool 2)).getD {})

/-- **A tool that destroys things keeps the version it had when it only read, and a session runs a
    tool whose schema has changed since it inspected it.** -/
theorem versions_unfollowed :
    ¬ Meets (ToolSessions.step id) (fun s c => c.VersionsFollow s) {}
        [registerNative readTool 0, registerNative destructiveTool 1] ∧
      ¬ Meets (ToolSessions.step id) (fun s c => c.RefusesStale id s) {}
        [registerNative readTool 0, .inspect providerScope "uprava.node.inspect" 1,
          registerNative changedTool 2, executeRead] := by
  refine ⟨fun h => ?_, fun h => ?_⟩
  · have hfollows := (h.2 registeredSessions rfl).1 ⟨_, rfl⟩
    have hrises := (hfollows.1 _ _ _ rfl rfl rfl).1 fun hsame => by cases hsame.riskLevel
    exact absurd hrises (by decide)
  · have hrefuses := (((h.2 registeredSessions rfl).2 inspectedSessions rfl).2
      changedSessions rfl).1
    have hrefused := hrefuses ⟨_, _, _, rfl, rfl, by decide, rfl, by decide⟩
    exact absurd hrefused.1 (by decide)

/-- The theorem's equivalence, for a tool that is registered, inspected and run. -/
theorem definitions_versioned_iff_inspected :
    Meets (ToolSessions.step id) (fun s c => c.VersionsFollow s ∧ c.RefusesStale id s)
        registeredSessions [.inspect providerScope "uprava.node.inspect" 1, executeRead] ↔
      Meets (ToolSessions.step id) (fun s c => c.HashesTell s ∧ c.MeetsFresh s)
        registeredSessions [.inspect providerScope "uprava.node.inspect" 1, executeRead] := by
  have hstarted : VersionsStarted registeredSessions.tooling.toolDefinitions := by
    rw [VersionsStarted]
    decide
  exact definitions_versioned_iff id hstarted

end Stale

end Uprava.Core
