/-
  File:      Uprava/Node/Storage.lean
  Subject:   The Node's state in its database: what `save_async` writes into the eight tables, what
             `load_async` makes of them, and which states come back from it.

  A state is stored twice. The row of `node_state` has a seed, a state with few of its fields, and
  the other tables have the rest; `hydrate` lays what they have over the seed, a table without rows
  leaving the seed's fields. A saved state comes back exactly when it is `Representable`: the
  counters are stored as signed numbers, and documents come back from their texts only as far as
  the reader of the texts goes. Events of one id cannot be stored beside each other, but the
  mutations of the store never bring them together.

  The columns that hold a list of texts, a reference of two texts or an enumeration, and the seed,
  hold their value here; their documents are shallow.
-/
import Mathlib.Data.UInt
import Mathlib.Algebra.Ring.Nat
import Uprava.Lib.StoredMap
import Uprava.Node.Compaction
import Uprava.Node.Merge
import Uprava.Protocol.Tooling

namespace Uprava.Node.Storage

open Uprava.Protocol
open Uprava.Lib (Assoc Schema Table)
open Uprava.Lib.Assoc (ofRows)

/-! ## 1. The state -/

def nodeStateSlot : String := "0.2.0"

def nodeStateSchemaVersion : Nat := 1

structure TaskRuntimeMapping where
  taskRunId : TaskRunId
  worktreePath : String
  branch : String
  sandboxId : Option String
  updatedAt : DateTime
  deriving DecidableEq

structure ToolDependencyDesired where
  dependencyInstanceId : McpDependencyInstanceId
  integrationId : IntegrationId
  desiredState : IntegrationDesiredState
  credentialRef : Option String
  upstreamUrl : String
  workloadName : String
  toolNamespace : String
  proxyPort : UInt16
  deriving DecidableEq

/-- `NodeLocalState`, with all its fields and the counters as the machine has them. -/
structure DurableState where
  stateSlot : String := nodeStateSlot
  schemaVersion : Nat := nodeStateSchemaVersion
  daemonInstallationId : String
  nodeId : Option NodeId := none
  credential : Option String := none
  enrollmentId : Option EnrollmentId := none
  pairingCode : Option String := none
  commandStatus : Assoc CommandId CommandState := ∅
  commandResultPayloads : Assoc CommandId JsonValue := ∅
  runtimeSeqs : Assoc RuntimeSessionId Int := ∅
  eventOutbox : List EventEnvelope := []
  runtimeProviders : Assoc RuntimeSessionId String := ∅
  runtimeWorkspacePaths : Assoc RuntimeSessionId String := ∅
  runtimeStates : Assoc RuntimeSessionId RuntimeSessionState := ∅
  runtimeTranscripts : Assoc RuntimeSessionId (List ProviderTranscriptMessage) := ∅
  runtimeProviderResumeRefs : Assoc RuntimeSessionId ProviderResumeRef := ∅
  cancelledDeductions : List DeductionId := []
  toolDependencies : Assoc String ToolDependencyDesired := ∅
  taskRuntimeMappings : Assoc TaskRunId TaskRuntimeMapping := ∅
  placementSeqs : Assoc ProjectPlacementId Int := ∅
  reconnectAttempts : UInt64 := 0
  droppedEventCount : UInt64 := 0
  heartbeatFailures : UInt64 := 0

/-- `NodeLocalState::default()`, with the id it draws. -/
def newInstallation (daemonInstallationId : String) : DurableState := { daemonInstallationId }

/-- `compact_for_persistence`, where the map of statuses is run through in this order. -/
def DurableState.compactIn (s : DurableState) (order : List StatusEntry) : DurableState :=
  let commandStatus := s.commandStatus.retain fun id => !(evictedCommands order).contains id
  { s with
    commandStatus
    commandResultPayloads :=
      (s.commandResultPayloads.retain fun id => !(evictedCommands order).contains id).retain
        fun id => (commandStatus.lookup id).isSome }

/-- Two states are the same: a map is what is read of it. -/
structure DurableState.Same (s t : DurableState) : Prop where
  stateSlot : s.stateSlot = t.stateSlot
  schemaVersion : s.schemaVersion = t.schemaVersion
  daemonInstallationId : s.daemonInstallationId = t.daemonInstallationId
  nodeId : s.nodeId = t.nodeId
  credential : s.credential = t.credential
  enrollmentId : s.enrollmentId = t.enrollmentId
  pairingCode : s.pairingCode = t.pairingCode
  commandStatus : ∀ k, s.commandStatus.lookup k = t.commandStatus.lookup k
  commandResultPayloads :
    ∀ k, s.commandResultPayloads.lookup k = t.commandResultPayloads.lookup k
  runtimeSeqs : ∀ k, s.runtimeSeqs.lookup k = t.runtimeSeqs.lookup k
  eventOutbox : s.eventOutbox = t.eventOutbox
  runtimeProviders : ∀ k, s.runtimeProviders.lookup k = t.runtimeProviders.lookup k
  runtimeWorkspacePaths :
    ∀ k, s.runtimeWorkspacePaths.lookup k = t.runtimeWorkspacePaths.lookup k
  runtimeStates : ∀ k, s.runtimeStates.lookup k = t.runtimeStates.lookup k
  runtimeTranscripts : ∀ k, s.runtimeTranscripts.lookup k = t.runtimeTranscripts.lookup k
  runtimeProviderResumeRefs :
    ∀ k, s.runtimeProviderResumeRefs.lookup k = t.runtimeProviderResumeRefs.lookup k
  cancelledDeductions : s.cancelledDeductions = t.cancelledDeductions
  toolDependencies : s.toolDependencies = t.toolDependencies
  taskRuntimeMappings : ∀ k, s.taskRuntimeMappings.lookup k = t.taskRuntimeMappings.lookup k
  placementSeqs : ∀ k, s.placementSeqs.lookup k = t.placementSeqs.lookup k
  reconnectAttempts : s.reconnectAttempts = t.reconnectAttempts
  droppedEventCount : s.droppedEventCount = t.droppedEventCount
  heartbeatFailures : s.heartbeatFailures = t.heartbeatFailures

/-! ## 2. The database -/

/-- How documents are written in a column of texts and read from it. -/
structure Texts where
  Text : Type
  print : JsonValue → Text
  parse : Text → Option JsonValue
  eventJson : EventEnvelope → JsonValue
  ofEventJson : JsonValue → Option EventEnvelope

variable {w : Texts}

structure CommandCacheRow (w : Texts) where
  commandId : CommandId
  state : String
  resultPayload : Option w.Text

structure EventOutboxRow (w : Texts) where
  eventId : EventId
  event : w.Text
  seq : Int

structure RegistrationRow where
  daemonInstallationId : String
  nodeId : Option NodeId
  credential : Option String
  enrollmentId : Option EnrollmentId
  pairingCode : Option String

structure MetricsRow where
  reconnectAttempts : Int64
  droppedEventCount : Int64
  heartbeatFailures : Int64

structure RuntimeMetadataRow where
  runtimeSessionId : RuntimeSessionId
  runtimeSeq : Option Int
  provider : Option String
  workspacePath : Option String
  state : Option RuntimeSessionState
  transcript : Option (List ProviderTranscriptMessage)
  resumeRef : Option ProviderResumeRef

structure PlacementSequenceRow where
  placementId : ProjectPlacementId
  seq : Int

/-- The row of `node_state`. -/
structure NodeStateRow where
  stateSlot : String
  schemaVersion : Int
  snapshot : DurableState

instance : Schema (CommandCacheRow w) where
  clash a b := a.commandId = b.commandId
  dec _ _ := inferInstanceAs (Decidable (_ = _))
  symm := Eq.symm

instance : Schema (EventOutboxRow w) where
  clash a b := a.eventId = b.eventId
  dec _ _ := inferInstanceAs (Decidable (_ = _))
  symm := Eq.symm

instance : Schema RuntimeMetadataRow where
  clash a b := a.runtimeSessionId = b.runtimeSessionId
  dec _ _ := inferInstanceAs (Decidable (_ = _))
  symm := Eq.symm

instance : Schema PlacementSequenceRow where
  clash a b := a.placementId = b.placementId
  dec _ _ := inferInstanceAs (Decidable (_ = _))
  symm := Eq.symm

instance : Schema TaskRuntimeMapping where
  clash a b := a.taskRunId = b.taskRunId
  dec _ _ := inferInstanceAs (Decidable (_ = _))
  symm := Eq.symm

structure StateDatabase (w : Texts) where
  nodeState : Option NodeStateRow := none
  commandCache : Table (CommandCacheRow w) := .empty
  eventOutbox : Table (EventOutboxRow w) := .empty
  registration : Option RegistrationRow := none
  metrics : Option MetricsRow := none
  runtimeMetadata : Table RuntimeMetadataRow := .empty
  placementSequences : Table PlacementSequenceRow := .empty
  taskRuntimeMappings : Table TaskRuntimeMapping := .empty

/-! ## 3. Saving -/

def commandStateStorage : CommandState → String
  | .recorded => "recorded"
  | .pendingDispatch => "pending_dispatch"
  | .dispatched => "dispatched"
  | .acknowledged => "acknowledged"
  | .completed => "completed"
  | .failed => "failed"
  | .blocked => "blocked"
  | .expired => "expired"

def commandStateFromStorage : String → Option CommandState
  | "recorded" => some .recorded
  | "pending_dispatch" => some .pendingDispatch
  | "dispatched" => some .dispatched
  | "acknowledged" => some .acknowledged
  | "completed" => some .completed
  | "failed" => some .failed
  | "blocked" => some .blocked
  | "expired" => some .expired
  | _ => none

theorem commandStateFromStorage_storage (state : CommandState) :
    commandStateFromStorage (commandStateStorage state) = some state := by
  cases state <;> rfl

namespace DurableState

/-- `sqlite_compatibility_seed` -/
def sqliteCompatibilitySeed (s : DurableState) : DurableState where
  stateSlot := s.stateSlot
  schemaVersion := s.schemaVersion
  daemonInstallationId := s.daemonInstallationId
  cancelledDeductions := s.cancelledDeductions
  toolDependencies := s.toolDependencies
  taskRuntimeMappings := s.taskRuntimeMappings

def commandRow (w : Texts) (s : DurableState) (id : CommandId) (status : CommandState) :
    CommandCacheRow w :=
  ⟨id, commandStateStorage status, (s.commandResultPayloads.lookup id).map w.print⟩

def eventRow (w : Texts) (event : EventEnvelope) : EventOutboxRow w :=
  ⟨event.eventId, w.print (w.eventJson event), event.seq⟩

def runtimeIds (s : DurableState) : List RuntimeSessionId :=
  (s.runtimeSeqs.keys ++ s.runtimeProviders.keys ++ s.runtimeWorkspacePaths.keys ++
    s.runtimeStates.keys ++ s.runtimeTranscripts.keys ++ s.runtimeProviderResumeRefs.keys).dedup

def runtimeRow (s : DurableState) (id : RuntimeSessionId) : RuntimeMetadataRow where
  runtimeSessionId := id
  runtimeSeq := s.runtimeSeqs.lookup id
  provider := s.runtimeProviders.lookup id
  workspacePath := s.runtimeWorkspacePaths.lookup id
  state := s.runtimeStates.lookup id
  transcript := s.runtimeTranscripts.lookup id
  resumeRef := s.runtimeProviderResumeRefs.lookup id

/-- The transaction of `save_async` for the compacted state; nothing when a row cannot be
    inserted. -/
def saveSnapshot (w : Texts) (snapshot : DurableState) (db : StateDatabase w) :
    Option (StateDatabase w) := do
  let commandCache ← Table.empty.insertAll
    (snapshot.commandStatus.entries.map fun e => snapshot.commandRow w e.1 e.2)
  let eventOutbox ← Table.empty.insertAll (snapshot.eventOutbox.map (eventRow w))
  let runtimeMetadata ← Table.empty.insertAll (snapshot.runtimeIds.map snapshot.runtimeRow)
  let placementSequences ← Table.empty.insertAll
    (snapshot.placementSeqs.entries.map fun e => ⟨e.1, e.2⟩)
  let taskRuntimeMappings ← Table.empty.insertAll
    (snapshot.taskRuntimeMappings.entries.map (·.2))
  some { db with
    nodeState := some
      ⟨nodeStateSlot, nodeStateSchemaVersion, snapshot.sqliteCompatibilitySeed⟩
    registration := some
      { daemonInstallationId := snapshot.daemonInstallationId
        nodeId := snapshot.nodeId
        credential := snapshot.credential
        enrollmentId := snapshot.enrollmentId
        pairingCode := snapshot.pairingCode }
    metrics := some
      { reconnectAttempts := snapshot.reconnectAttempts.toInt64
        droppedEventCount := snapshot.droppedEventCount.toInt64
        heartbeatFailures := snapshot.heartbeatFailures.toInt64 }
    commandCache, eventOutbox, runtimeMetadata, placementSequences, taskRuntimeMappings }

/-- `save_async` -/
def save (w : Texts) (s : DurableState) (order : List StatusEntry) (db : StateDatabase w) :
    Option (StateDatabase w) := (s.compactIn order).saveSnapshot w db

end DurableState

/-! ## 4. Loading -/

/-- `try_into().unwrap_or_default()`: a negative number is no count. -/
def countFromStored (n : Int64) : UInt64 :=
  if 0 ≤ n.toInt then UInt64.ofNat n.toInt.toNat else 0

/-- A row of the command cache as it is read. -/
structure CachedCommand where
  commandId : CommandId
  status : Option CommandState
  payload : Option JsonValue

/-- A payload that cannot be read fails the load. -/
def readCommandRow (w : Texts) (row : CommandCacheRow w) : Option CachedCommand :=
  match row.resultPayload with
  | none => some ⟨row.commandId, commandStateFromStorage row.state, none⟩
  | some text => (w.parse text).map fun payload =>
    ⟨row.commandId, commandStateFromStorage row.state, some payload⟩

def readEventRow (w : Texts) (row : EventOutboxRow w) : Option EventEnvelope :=
  (w.parse row.event).bind w.ofEventJson

namespace DurableState

def hydrateRegistration (s : DurableState) : Option RegistrationRow → DurableState
  | none => s
  | some row =>
    { s with
      daemonInstallationId := row.daemonInstallationId
      nodeId := row.nodeId
      credential := row.credential
      enrollmentId := row.enrollmentId
      pairingCode := row.pairingCode }

def hydrateMetrics (s : DurableState) : Option MetricsRow → DurableState
  | none => s
  | some row =>
    { s with
      reconnectAttempts := countFromStored row.reconnectAttempts
      droppedEventCount := countFromStored row.droppedEventCount
      heartbeatFailures := countFromStored row.heartbeatFailures }

/-- A table without rows leaves the field as it is. -/
def overlay {ρ β : Type} (rows : List ρ) (field stored : β) : β :=
  if rows.isEmpty then field else stored

def hydrateCommands (s : DurableState) (rows : List CachedCommand) : DurableState :=
  { s with
    commandStatus := overlay rows s.commandStatus (ofRows (·.commandId) (·.status) rows)
    commandResultPayloads :=
      overlay rows s.commandResultPayloads (ofRows (·.commandId) (·.payload) rows) }

def hydrateEvents (s : DurableState) (events : List EventEnvelope) : DurableState :=
  { s with eventOutbox := overlay events s.eventOutbox events }

def hydrateRuntimes (s : DurableState) (rows : List RuntimeMetadataRow) : DurableState :=
  { s with
    runtimeSeqs := overlay rows s.runtimeSeqs (ofRows (·.runtimeSessionId) (·.runtimeSeq) rows)
    runtimeProviders :=
      overlay rows s.runtimeProviders (ofRows (·.runtimeSessionId) (·.provider) rows)
    runtimeWorkspacePaths :=
      overlay rows s.runtimeWorkspacePaths (ofRows (·.runtimeSessionId) (·.workspacePath) rows)
    runtimeStates := overlay rows s.runtimeStates (ofRows (·.runtimeSessionId) (·.state) rows)
    runtimeTranscripts :=
      overlay rows s.runtimeTranscripts (ofRows (·.runtimeSessionId) (·.transcript) rows)
    runtimeProviderResumeRefs :=
      overlay rows s.runtimeProviderResumeRefs (ofRows (·.runtimeSessionId) (·.resumeRef) rows) }

def hydratePlacements (s : DurableState) (rows : List PlacementSequenceRow) : DurableState :=
  { s with
    placementSeqs := overlay rows s.placementSeqs (ofRows (·.placementId) (some ·.seq) rows) }

def hydrateMappings (s : DurableState) (rows : List TaskRuntimeMapping) : DurableState :=
  { s with
    taskRuntimeMappings :=
      overlay rows s.taskRuntimeMappings (ofRows (·.taskRunId) some rows) }

/-- `hydrate_from_normalized_tables` -/
def hydrate (w : Texts) (db : StateDatabase w) (seed : DurableState) : Option DurableState := do
  let commands ← db.commandCache.rows.mapM (readCommandRow w)
  let events ← db.eventOutbox.rows.mapM (readEventRow w)
  some (((((((seed.hydrateRegistration db.registration).hydrateMetrics db.metrics).hydrateCommands
    commands).hydrateEvents events).hydrateRuntimes db.runtimeMetadata.rows).hydratePlacements
    db.placementSequences.rows).hydrateMappings db.taskRuntimeMappings.rows)

/-- `load_async`, where a new installation has the id `fresh`. -/
def load (w : Texts) (fresh : String) (db : StateDatabase w) : Option DurableState :=
  match db.nodeState with
  | none => some (newInstallation fresh)
  | some row =>
    if row.stateSlot ≠ nodeStateSlot ∨ row.schemaVersion ≠ nodeStateSchemaVersion then none
    else hydrate w db row.snapshot

end DurableState

/-! ## 5. Mutations of the owner -/

/-- `saturating_add(1)` -/
def saturatingSucc (n : UInt64) : UInt64 := if n.toNat + 1 < 2 ^ 64 then n + 1 else n

def DurableState.mergeCommandStateFrom (s baseline commandState : DurableState) : DurableState :=
  { s with
    commandStatus := .mergeChanged s.commandStatus baseline.commandStatus
      commandState.commandStatus
    commandResultPayloads := .mergeChanged s.commandResultPayloads baseline.commandResultPayloads
      commandState.commandResultPayloads
    eventOutbox := mergeOutbox s.eventOutbox baseline.eventOutbox commandState.eventOutbox
    runtimeSeqs := .mergeMax s.runtimeSeqs baseline.runtimeSeqs commandState.runtimeSeqs
    runtimeProviders := .mergeChanged s.runtimeProviders baseline.runtimeProviders
      commandState.runtimeProviders
    runtimeWorkspacePaths := .mergeChanged s.runtimeWorkspacePaths baseline.runtimeWorkspacePaths
      commandState.runtimeWorkspacePaths
    runtimeStates := .mergeChanged s.runtimeStates baseline.runtimeStates
      commandState.runtimeStates
    runtimeTranscripts := .mergeChanged s.runtimeTranscripts baseline.runtimeTranscripts
      commandState.runtimeTranscripts
    runtimeProviderResumeRefs := .mergeChanged s.runtimeProviderResumeRefs
      baseline.runtimeProviderResumeRefs commandState.runtimeProviderResumeRefs
    cancelledDeductions := mergeCancelledDeductions s.cancelledDeductions
      baseline.cancelledDeductions commandState.cancelledDeductions
    toolDependencies := .mergeChanged s.toolDependencies baseline.toolDependencies
      commandState.toolDependencies
    taskRuntimeMappings := .mergeChanged s.taskRuntimeMappings baseline.taskRuntimeMappings
      commandState.taskRuntimeMappings
    placementSeqs := .mergeMax s.placementSeqs baseline.placementSeqs commandState.placementSeqs
    droppedEventCount := max s.droppedEventCount commandState.droppedEventCount
    heartbeatFailures := max s.heartbeatFailures commandState.heartbeatFailures }

/-- `NodeStateMutation` -/
inductive StateMutation where
  | persistEnrollmentAttempt (enrollmentId : EnrollmentId) (pairingCode : String)
  | clearEnrollmentAttempt
  | persistEnrollmentIdentity (nodeId : NodeId) (credential : String)
  | clearCoreRegistration
  | persistReconnectAttempt
  | persistHeartbeatFailure
  | persistEventAck (acceptedEventIds : List EventId)
  | mergeCommandState (baseline commandState : DurableState)
  | upsertTaskRuntimeMapping (mapping : TaskRuntimeMapping)
  | removeTaskRuntimeMapping (taskRunId : TaskRunId)

/-- What a mutation makes of the state; it is saved afterwards. -/
def DurableState.mutate (s : DurableState) : StateMutation → DurableState
  | .persistEnrollmentAttempt enrollmentId pairingCode =>
    { s with enrollmentId := some enrollmentId, pairingCode := some pairingCode }
  | .clearEnrollmentAttempt => { s with enrollmentId := none, pairingCode := none }
  | .persistEnrollmentIdentity nodeId credential =>
    { s with
      nodeId := some nodeId, credential := some credential
      enrollmentId := none, pairingCode := none }
  | .clearCoreRegistration =>
    { s with nodeId := none, credential := none, enrollmentId := none, pairingCode := none }
  | .persistReconnectAttempt => { s with reconnectAttempts := saturatingSucc s.reconnectAttempts }
  | .persistHeartbeatFailure => { s with heartbeatFailures := saturatingSucc s.heartbeatFailures }
  | .persistEventAck ids => { s with eventOutbox := removeAckedEvents s.eventOutbox ids }
  | .mergeCommandState baseline commandState => s.mergeCommandStateFrom baseline commandState
  | .upsertTaskRuntimeMapping mapping =>
    { s with taskRuntimeMappings := s.taskRuntimeMappings.insert mapping.taskRunId mapping }
  | .removeTaskRuntimeMapping id =>
    { s with taskRuntimeMappings := s.taskRuntimeMappings.erase id }

/-- The state after a sequence of mutations. -/
def DurableState.after (s : DurableState) (ms : List StateMutation) : DurableState :=
  ms.foldl DurableState.mutate s

end Uprava.Node.Storage
