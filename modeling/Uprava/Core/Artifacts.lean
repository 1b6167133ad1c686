/-
  File:      Uprava/Core/Artifacts.lean
  Subject:   Artifacts and their versions: creating an artifact, adding a version to one, and
             storing a deduction as a causality narrative.

  Two counters number the rows of `artifact_versions`: `artifacts.current_version`, which
  `create_artifact_version` compares and advances, and `causality_narratives.current_version`,
  which `persist_deduction` advances and writes over the other one. The requests run side by side;
  what is between two transactions of a request is a step of its own.
-/
import Uprava.Core.Deductions
import Uprava.Lib.Assoc
import Uprava.Lib.JsonSize

namespace Uprava.Core.Artifacts

open Uprava.Protocol
open Uprava.Lib (Assoc JsonArray JsonMap)

/-! ## 1. Requests and rows -/

abbrev ArtifactId := String
abbrev PluginId := String

inductive ArtifactState where
  | active | stale | archived
  deriving DecidableEq

inductive ArtifactError where
  | badRequest (code message : String)
  | notFound (code message : String)
  | conflict (code message : String)
  | internal (message : String)
  | database (message : String)
  deriving DecidableEq

/-- What a version says, as a request carries it and a row keeps it. -/
structure ArtifactContent where
  schemaVersion : Nat
  payload : JsonValue
  fallbackText : String
  sourceVersion : Option String
  sourceRefs : List JsonValue
  evidenceRefs : List JsonValue
  causeRefs : List JsonValue
  traceRefs : List JsonValue
  provenance : JsonValue
  deriving DecidableEq

structure CreateArtifactRequest extends ArtifactContent where
  artifactType : String
  title : String
  scopeRef : ScopeRef
  deriving DecidableEq

structure CreateArtifactVersionRequest extends ArtifactContent where
  expectedCurrentVersion : Nat
  deriving DecidableEq

structure ArtifactRow where
  artifactType : String
  title : String
  scopeRef : ScopeRef
  ownerPluginId : PluginId
  currentVersion : Nat
  state : ArtifactState
  createdBy : ActorRef
  createdAt : DateTime
  updatedAt : DateTime
  deriving DecidableEq

structure ArtifactVersionRow extends ArtifactContent where
  createdAt : DateTime
  deriving DecidableEq

structure NarrativeRow where
  artifactId : ArtifactId
  sessionThreadId : SessionThreadId
  currentVersion : Nat
  createdAt : DateTime
  updatedAt : DateTime
  deriving DecidableEq

structure NarrativeVersionRow where
  block : DeductionBlock
  provenance : DeductionProvenance
  createdAt : DateTime
  deriving DecidableEq

/-- What `persist_deduction` reads and writes of a deduction. -/
structure DeductionRecord where
  sessionThreadId : SessionThreadId
  block : Option DeductionBlock
  artifactId : Option ArtifactId
  updatedAt : DateTime
  deriving DecidableEq

/-- The tables, by their keys: the narratives by the deduction, of which each has one. -/
structure ArtifactStore where
  artifacts : Assoc ArtifactId ArtifactRow
  versions : Assoc (ArtifactId × Nat) ArtifactVersionRow
  narratives : Assoc DeductionId NarrativeRow
  narrativeVersions : Assoc (ArtifactId × Nat) NarrativeVersionRow
  deductions : Assoc DeductionId DeductionRecord

/-- What the requests read outside the tables: the artifact types that active plugins provide,
    which sessions and placements exist, and how a block is written as JSON. -/
structure Surroundings where
  types : String → Option (PluginId × Nat)
  scopeExists : ScopeRef → Bool
  blockJson : DeductionBlock → JsonValue
  provenanceJson : DeductionProvenance → JsonValue

/-! ## 2. The checks of a request -/

def maxArtifactTitleChars : Nat := 240
def maxArtifactFallbackChars : Nat := 65536
def maxArtifactPayloadBytes : Nat := 512 * 1024
def maxArtifactProvenanceBytes : Nat := 64 * 1024
def maxArtifactRefsBytes : Nat := 256 * 1024
def maxArtifactRefs : Nat := 256
def maxArtifactSourceVersionChars : Nat := 1024
def maxArtifactJsonDepth : Nat := 32
def maxArtifactJsonStringChars : Nat := 131072

def payloadTooDeep : ArtifactError :=
  .badRequest "artifact.payload_too_deep" "Artifact payload exceeds the bounded nesting limit"

def payloadStringTooLarge : ArtifactError :=
  .badRequest "artifact.payload_string_too_large" "Artifact payload contains an oversized string"

mutual

def validateArtifactJson (depth : Nat) : Lib.JsonValue → Except ArtifactError Unit
  | .string value =>
    if maxArtifactJsonDepth < depth then .error payloadTooDeep
    else if maxArtifactJsonStringChars < value.length then .error payloadStringTooLarge
    else .ok ()
  | .array items =>
    if maxArtifactJsonDepth < depth then .error payloadTooDeep
    else validateArtifactItems (depth + 1) items
  | .object fields =>
    if maxArtifactJsonDepth < depth then .error payloadTooDeep
    else validateArtifactFields (depth + 1) fields
  | _ => if maxArtifactJsonDepth < depth then .error payloadTooDeep else .ok ()

def validateArtifactItems (depth : Nat) : JsonArray → Except ArtifactError Unit
  | .nil => .ok ()
  | .cons item rest =>
    match validateArtifactJson depth item with
    | .error e => .error e
    | .ok () => validateArtifactItems depth rest

def validateArtifactFields (depth : Nat) : JsonMap → Except ArtifactError Unit
  | .nil => .ok ()
  | .cons _ value rest =>
    match validateArtifactJson depth value with
    | .error e => .error e
    | .ok () => validateArtifactFields depth rest

end

def validateArtifactMetadata (artifactType title : String) (content : ArtifactContent) :
    Except ArtifactError Unit :=
  if artifactType.isEmpty || 128 < artifactType.utf8ByteSize
      || !artifactType.toList.contains '.' || title.isEmpty
      || maxArtifactTitleChars < title.length || content.schemaVersion == 0
      || maxArtifactFallbackChars < content.fallbackText.length
      || maxArtifactRefs < content.sourceRefs.length + content.evidenceRefs.length +
          content.causeRefs.length + content.traceRefs.length then
    .error (.badRequest "artifact.request_invalid"
      "Artifact metadata is empty or exceeds bounded limits")
  else if maxArtifactPayloadBytes < content.payload.encodedLen then
    .error (.badRequest "artifact.payload_too_large"
      "Artifact payload exceeds the bounded storage limit")
  else validateArtifactJson 0 content.payload

def validateArtifactAuxiliary (content : ArtifactContent) : Except ArtifactError Unit :=
  if content.sourceVersion.any fun value =>
      value.isEmpty || maxArtifactSourceVersionChars < value.length then
    .error (.badRequest "artifact.source_version_invalid"
      "Artifact source version is empty or oversized")
  else if maxArtifactProvenanceBytes < content.provenance.encodedLen then
    .error (.badRequest "artifact.provenance_too_large"
      "Artifact provenance exceeds the bounded storage limit")
  else
    match validateArtifactJson 0 content.provenance with
    | .error e => .error e
    | .ok () =>
      let refs := Lib.JsonValue.ofItems <|
        [content.sourceRefs, content.evidenceRefs, content.causeRefs, content.traceRefs].map
          Lib.JsonValue.ofItems
      if maxArtifactRefsBytes < refs.encodedLen then
        .error (.badRequest "artifact.refs_too_large"
          "Artifact references exceed the bounded storage limit")
      else .ok ()

def validateCreateArtifactRequest (request : CreateArtifactRequest) : Except ArtifactError Unit :=
  do
    validateArtifactMetadata request.artifactType request.title request.toArtifactContent
    validateArtifactAuxiliary request.toArtifactContent

def validateArtifactVersionRequest (request : CreateArtifactVersionRequest) :
    Except ArtifactError Unit := do
  validateArtifactMetadata "artifact.version" "artifact version" request.toArtifactContent
  validateArtifactAuxiliary request.toArtifactContent

def validateArtifactScope (world : Surroundings) (scope : ScopeRef) : Except ArtifactError Unit :=
  match scope with
  | .session _ | .placement _ =>
    if world.scopeExists scope then .ok () else
      .error (.notFound "artifact.scope_not_found" "Artifact scope not found")
  | _ => .error (.badRequest "artifact.scope_unsupported"
      "Artifacts currently require a session or placement scope")

def resolveActiveArtifactType (world : Surroundings) (artifactType : String) :
    Except ArtifactError (PluginId × Nat) :=
  match world.types artifactType with
  | some provider => .ok provider
  | none => .error (.badRequest "artifact.type_unavailable"
      "Artifact type is not provided by an active compatible plugin")

def schemaVersionUnsupported : ArtifactError :=
  .badRequest "artifact.schema_version_unsupported"
    "Artifact payload does not match the active artifact type schema version"

/-- The plugin that owns the new artifact. -/
def prepareArtifactCreation (world : Surroundings) (request : CreateArtifactRequest) :
    Except ArtifactError PluginId := do
  validateCreateArtifactRequest request
  validateArtifactScope world request.scopeRef
  let (ownerPluginId, declaredSchemaVersion) ←
    resolveActiveArtifactType world request.artifactType
  if request.schemaVersion ≠ declaredSchemaVersion then throw schemaVersionUnsupported
  return ownerPluginId

/-! ## 3. The transactions -/

/-- An insertion under a primary key. -/
def insertUnique {α β : Type} [DecidableEq α] (constraint : String) (m : Assoc α β) (k : α)
    (b : β) : Except ArtifactError (Assoc α β) :=
  if (m.lookup k).isSome then .error (.database constraint) else .ok (m.insert k b)

def insertPreparedArtifact (s : ArtifactStore) (artifactId : ArtifactId) (ownerPluginId : PluginId)
    (createdBy : ActorRef) (request : CreateArtifactRequest) (now : DateTime) :
    Except ArtifactError ArtifactStore := do
  let artifacts ← insertUnique "artifacts.artifact_id" s.artifacts artifactId {
    artifactType := request.artifactType
    title := request.title
    scopeRef := request.scopeRef
    ownerPluginId
    currentVersion := 1
    state := .active
    createdBy
    createdAt := now
    updatedAt := now }
  let versions ← insertUnique "artifact_versions.version" s.versions (artifactId, 1)
    ⟨request.toArtifactContent, now⟩
  return { s with artifacts, versions }

def versionConflict : ArtifactError :=
  .conflict "artifact.version_conflict" "Artifact changed; reload it before adding a version"

def artifactVersionInvalid : ArtifactError := .internal "artifact version is invalid"

def i64Max : Nat := 2 ^ 63 - 1
def u64Max : Nat := 2 ^ 64 - 1

/-- What `create_artifact_version` reads and checks before its transaction. -/
def checkArtifactVersion (s : ArtifactStore) (world : Surroundings) (artifactId : ArtifactId)
    (request : CreateArtifactVersionRequest) : Except ArtifactError Unit := do
  validateArtifactVersionRequest request
  match s.artifacts.lookup artifactId with
  | none => throw (.notFound "artifact.not_found" "Artifact not found")
  | some row =>
    if (s.versions.lookup (artifactId, row.currentVersion)).isNone then
      throw (.notFound "artifact.version_not_found" "Artifact version not found")
    if row.currentVersion ≠ request.expectedCurrentVersion then throw versionConflict
    let (activeOwnerPluginId, declaredSchemaVersion) ←
      resolveActiveArtifactType world row.artifactType
    if activeOwnerPluginId ≠ row.ownerPluginId then
      throw (.conflict "artifact.type_owner_changed"
        ("The active artifact type provider changed; preserve the stored version and " ++
          "create a new artifact"))
    if request.schemaVersion ≠ declaredSchemaVersion then throw schemaVersionUnsupported
    if u64Max < request.expectedCurrentVersion + 1 then
      throw (.badRequest "artifact.version_invalid" "Artifact version is exhausted")

/-- The transaction of `create_artifact_version`; it writes first. -/
def addArtifactVersion (s : ArtifactStore) (artifactId : ArtifactId)
    (request : CreateArtifactVersionRequest) (now : DateTime) :
    Except ArtifactError ArtifactStore :=
  let version := request.expectedCurrentVersion + 1
  if i64Max < version then .error artifactVersionInvalid
  else
    match s.artifacts.lookup artifactId with
    | none => .error versionConflict
    | some row =>
      if row.currentVersion ≠ request.expectedCurrentVersion then .error versionConflict
      else
        match insertUnique "artifact_versions.version" s.versions (artifactId, version)
            ⟨request.toArtifactContent, now⟩ with
        | .error e => .error e
        | .ok versions =>
          let row := { row with currentVersion := version, state := .active, updatedAt := now }
          .ok { s with artifacts := s.artifacts.insert artifactId row, versions }

def narrativeType : String := "uprava.causality-narrative"

/-- What `persist_deduction` has read when it begins its transaction. -/
structure Persisting where
  deductionId : DeductionId
  sessionThreadId : SessionThreadId
  block : DeductionBlock
  ownerPluginId : PluginId
  schemaVersion : Nat
  payload : JsonValue
  provenance : JsonValue
  now : DateTime
  deriving DecidableEq

def deductionNotFound : ArtifactError := .notFound "deduction.not_found" "Deduction not found"

def deductionNotCompleted : ArtifactError :=
  .badRequest "deduction.not_completed" "Only a completed valid Deduction can be persisted"

/-- The block of a deduction that is there and completed. -/
def completedBlock (s : ArtifactStore) (deductionId : DeductionId) :
    Except ArtifactError (SessionThreadId × DeductionBlock) :=
  match s.deductions.lookup deductionId with
  | none => .error deductionNotFound
  | some record =>
    match record.block with
    | none => .error deductionNotCompleted
    | some block => .ok (record.sessionThreadId, block)

/-- The artifact and the version of the deduction's narrative, from the counter of the
    narrative. -/
def nextNarrative (s : ArtifactStore) (deductionId : DeductionId) (drawn : ArtifactId) :
    ArtifactId × Nat :=
  match s.narratives.lookup deductionId with
  | none => (drawn, 1)
  | some narrative => (narrative.artifactId, narrative.currentVersion + 1)

/-- `on conflict(deduction_id)`: an artifact that is another deduction's narrative is an error. -/
def upsertNarrative (s : ArtifactStore) (p : Persisting) (artifactId : ArtifactId)
    (version : Nat) : Except ArtifactError (Assoc DeductionId NarrativeRow) :=
  match s.narratives.lookup p.deductionId with
  | some narrative => .ok (s.narratives.insert p.deductionId
      { narrative with currentVersion := version, updatedAt := p.now })
  | none =>
    if s.narratives.entries.any fun entry => entry.2.artifactId == artifactId then
      .error (.database "causality_narratives.artifact_id")
    else if (s.deductions.lookup p.deductionId).isNone then
      .error (.database "causality_narratives.deduction_id")
    else .ok (s.narratives.insert p.deductionId
      ⟨artifactId, p.sessionThreadId, version, p.now, p.now⟩)

/-- `on conflict(artifact_id)`: the version is written over the one of the artifact. -/
def upsertArtifact (s : ArtifactStore) (p : Persisting) (artifactId : ArtifactId)
    (version : Nat) : ArtifactRow :=
  match s.artifacts.lookup artifactId with
  | some row => { row with
      title := p.block.result.title
      currentVersion := version
      state := .active
      updatedAt := p.now }
  | none => {
      artifactType := narrativeType
      title := p.block.result.title
      scopeRef := .session p.sessionThreadId
      ownerPluginId := p.ownerPluginId
      currentVersion := version
      state := .active
      createdBy := .system
      createdAt := p.now
      updatedAt := p.now }

def narrativeVersion (p : Persisting) : ArtifactVersionRow :=
  let evidenceRefs := p.block.result.steps.flatMap (·.supportRefs)
  { schemaVersion := p.schemaVersion
    payload := p.payload
    fallbackText := p.block.result.conclusion
    sourceVersion := none
    sourceRefs := [p.block.scopeRef]
    evidenceRefs
    causeRefs := []
    traceRefs := evidenceRefs
    provenance := p.provenance
    createdAt := p.now }

/-- The statements of `persist_deduction` that write. -/
def writeNarrative (s : ArtifactStore) (p : Persisting) (artifactId : ArtifactId) (version : Nat) :
    Except ArtifactError ArtifactStore := do
  let narratives ← upsertNarrative s p artifactId version
  let narrativeVersions ← insertUnique "causality_narrative_versions.version" s.narrativeVersions
    (artifactId, version) ⟨p.block, p.block.provenance, p.now⟩
  let versions ← insertUnique "artifact_versions.version" s.versions (artifactId, version)
    (narrativeVersion p)
  let deductions :=
    match s.deductions.lookup p.deductionId with
    | some record => s.deductions.insert p.deductionId
        { record with artifactId := some artifactId, updatedAt := p.now }
    | none => s.deductions
  return {
    artifacts := s.artifacts.insert artifactId (upsertArtifact s p artifactId version)
    versions, narratives, narrativeVersions, deductions }

/-! ## 4. Requests side by side -/

/-- A request between two of its steps. -/
inductive ArtifactTask where
  | adding (artifactId : ArtifactId) (request : CreateArtifactVersionRequest) (now : DateTime)
  | persisting (p : Persisting)
  | selected (p : Persisting) (artifactId : ArtifactId) (version : Nat) (snapshot : Nat)
  deriving DecidableEq

inductive ArtifactAnswer where
  | created (artifactId : ArtifactId)
  | added (artifactId : ArtifactId) (expected : Nat)
  | outrun (artifactId : ArtifactId) (expected : Nat)
  | refused (e : ArtifactError)
  | persisted (deductionId : DeductionId) (artifactId : ArtifactId) (version : Nat)
  | notCompleted (deductionId : DeductionId) (e : ArtifactError)
  | notPersisted (deductionId : DeductionId) (e : ArtifactError)
  deriving DecidableEq

/-- `writes` counts the transactions that were committed; `answers` has the newest first. -/
structure ArtifactRequests where
  store : ArtifactStore
  writes : Nat := 0
  tasks : List ArtifactTask := []
  answers : List ArtifactAnswer := []

inductive ArtifactAction where
  | create (world : Surroundings) (request : CreateArtifactRequest) (createdBy : ActorRef)
      (drawn : ArtifactId) (now : DateTime)
  | createVersion (world : Surroundings) (artifactId : ArtifactId)
      (request : CreateArtifactVersionRequest) (now : DateTime)
  | persist (world : Surroundings) (deductionId : DeductionId) (now : DateTime)
  | proceed (task : Nat) (drawn : ArtifactId)
  | drop (task : Nat)
  | elsewhere (deduction : Option (DeductionId × DeductionRecord))

namespace ArtifactRequests

def answer (s : ArtifactRequests) (a : ArtifactAnswer) : ArtifactRequests :=
  { s with answers := a :: s.answers }

def commit (s : ArtifactRequests) (store : ArtifactStore) : ArtifactRequests :=
  { s with store, writes := s.writes + 1 }

/-- An id that is drawn is new. -/
def IsNew (s : ArtifactStore) (drawn : ArtifactId) : Prop :=
  (s.artifacts.lookup drawn).isSome = false ∧
    (s.narratives.entries.any fun entry => entry.2.artifactId == drawn) = false

instance (s : ArtifactStore) (drawn : ArtifactId) : Decidable (IsNew s drawn) :=
  inferInstanceAs (Decidable (_ ∧ _))

def create (s : ArtifactRequests) (world : Surroundings) (request : CreateArtifactRequest)
    (createdBy : ActorRef) (drawn : ArtifactId) (now : DateTime) : ArtifactRequests :=
  match prepareArtifactCreation world request with
  | .error e => s.answer (.refused e)
  | .ok ownerPluginId =>
    match insertPreparedArtifact s.store drawn ownerPluginId createdBy request now with
    | .error e => s.answer (.refused e)
    | .ok store => (s.commit store).answer (.created drawn)

def createVersion (s : ArtifactRequests) (world : Surroundings) (artifactId : ArtifactId)
    (request : CreateArtifactVersionRequest) (now : DateTime) : ArtifactRequests :=
  match checkArtifactVersion s.store world artifactId request with
  | .error e => s.answer (.refused e)
  | .ok () => { s with tasks := s.tasks ++ [.adding artifactId request now] }

def persist (s : ArtifactRequests) (world : Surroundings) (deductionId : DeductionId)
    (now : DateTime) : ArtifactRequests :=
  match completedBlock s.store deductionId with
  | .error e => s.answer (.notCompleted deductionId e)
  | .ok (sessionThreadId, block) =>
    match resolveActiveArtifactType world narrativeType with
    | .error e => s.answer (.notPersisted deductionId e)
    | .ok (ownerPluginId, schemaVersion) =>
      { s with tasks := s.tasks ++ [.persisting {
          deductionId, sessionThreadId, block, ownerPluginId, schemaVersion
          payload := world.blockJson block
          provenance := world.provenanceJson block.provenance
          now }] }

/-- The next step of a request. `persist_deduction` selects before it writes: when another
    transaction was committed since, its own can not go on from what it has read. -/
def proceed (s : ArtifactRequests) (drawn : ArtifactId) : ArtifactTask → ArtifactRequests
  | .adding artifactId request now =>
    match addArtifactVersion s.store artifactId request now with
    | .ok store => (s.commit store).answer (.added artifactId request.expectedCurrentVersion)
    | .error e =>
      if e = versionConflict then s.answer (.outrun artifactId request.expectedCurrentVersion)
      else s.answer (.refused e)
  | .persisting p =>
    let (artifactId, version) := nextNarrative s.store p.deductionId drawn
    { s with tasks := s.tasks ++ [.selected p artifactId version s.writes] }
  | .selected p artifactId version snapshot =>
    if snapshot ≠ s.writes then
      s.answer (.notPersisted p.deductionId (.database "database is locked"))
    else
      match writeNarrative s.store p artifactId version with
      | .error e => s.answer (.notPersisted p.deductionId e)
      | .ok store => (s.commit store).answer (.persisted p.deductionId artifactId version)

def step (s : ArtifactRequests) : ArtifactAction → Option ArtifactRequests
  | .create world request createdBy drawn now =>
    if IsNew s.store drawn then some (s.create world request createdBy drawn now) else none
  | .createVersion world artifactId request now =>
    some (s.createVersion world artifactId request now)
  | .persist world deductionId now => some (s.persist world deductionId now)
  | .proceed task drawn =>
    if IsNew s.store drawn then
      s.tasks[task]?.map fun t => proceed { s with tasks := s.tasks.eraseIdx task } drawn t
    else none
  | .drop task =>
    s.tasks[task]?.map fun _ => { s with tasks := s.tasks.eraseIdx task }
  | .elsewhere deduction =>
    match deduction with
    | none => some { s with writes := s.writes + 1 }
    | some (deductionId, record) =>
      some (s.commit
        { s.store with deductions := s.store.deductions.insert deductionId record })

end ArtifactRequests

end Uprava.Core.Artifacts
