/-
  File:      Uprava/Node/Restart.lean
  Subject:   Which states of the Node come back from the database: `load_async` after `save_async`.

  `Saved` is what the tables hold after a save, whatever they held before, and `hydrated` what a
  load makes of that. The two differ from the saved state in three places: a count from 2^63 on is
  stored as a negative number and read as none, a document comes back only as far as its text is
  read, and a task mapping comes back under its own id. `survives_iff` says that nothing else can
  go wrong, and `restart_lossless_iff` that this is so in every state the store's mutations reach.
-/
import Uprava.Lib.JsonSize
import Uprava.Node.Storage

namespace Uprava.Node.Storage

open Uprava.Protocol
open Uprava.Lib (Assoc Schema Table mapM_eq_some_iff_of_total mapM_map_eq_self_iff nodup_appendNew)
open Uprava.Lib.Assoc (exists_row_of_lookup lookup_ofRows_map lookup_ofRows_of_cover
  map_entries_eq_map_keys ofRows)

variable {w : Texts}

/-! ## 1. What a save leaves -/

/-- The database holds the state. -/
structure Saved (w : Texts) (s : DurableState) (db : StateDatabase w) : Prop where
  nodeState : db.nodeState =
    some ⟨nodeStateSlot, nodeStateSchemaVersion, s.sqliteCompatibilitySeed⟩
  registration : db.registration = some
    ⟨s.daemonInstallationId, s.nodeId, s.credential, s.enrollmentId, s.pairingCode⟩
  metrics : db.metrics = some
    ⟨s.reconnectAttempts.toInt64, s.droppedEventCount.toInt64, s.heartbeatFailures.toInt64⟩
  commandCache : db.commandCache.rows =
    s.commandStatus.entries.map fun e => s.commandRow w e.1 e.2
  eventOutbox : db.eventOutbox.rows = s.eventOutbox.map (DurableState.eventRow w)
  runtimeMetadata : db.runtimeMetadata.rows = s.runtimeIds.map s.runtimeRow
  placementSequences : db.placementSequences.rows =
    s.placementSeqs.entries.map fun e => ⟨e.1, e.2⟩
  taskRuntimeMappings : db.taskRuntimeMappings.rows = s.taskRuntimeMappings.entries.map (·.2)

theorem saved_of_saveSnapshot {s : DurableState} {db db' : StateDatabase w}
    (h : s.saveSnapshot w db = some db') : Saved w s db' := by
  obtain ⟨commandCache, hcommands, h⟩ := Option.bind_eq_some_iff.mp h
  obtain ⟨eventOutbox, hevents, h⟩ := Option.bind_eq_some_iff.mp h
  obtain ⟨runtimeMetadata, hruntimes, h⟩ := Option.bind_eq_some_iff.mp h
  obtain ⟨placementSequences, hplacements, h⟩ := Option.bind_eq_some_iff.mp h
  obtain ⟨taskRuntimeMappings, hmappings, h⟩ := Option.bind_eq_some_iff.mp h
  cases h
  exact ⟨rfl, rfl, rfl, Table.rows_of_insertAll hcommands, Table.rows_of_insertAll hevents,
    Table.rows_of_insertAll hruntimes, Table.rows_of_insertAll hplacements,
    Table.rows_of_insertAll hmappings⟩

/-- Rows of different keys do not clash. -/
theorem insertAll_of_nodup {ρ : Type} [Schema ρ] {κ : Type} {key : ρ → κ}
    (hclash : ∀ a b : ρ, Schema.clash a b → key a = key b) {rows : List ρ}
    (h : (rows.map key).Nodup) : ∃ t, Table.empty.insertAll rows = some t := by
  have hpairwise : rows.Pairwise fun a b => ¬ Schema.clash a b :=
    (List.pairwise_map.mp h).imp fun hne hc => hne (hclash _ _ hc)
  obtain ⟨t, ht, -⟩ := Table.insertAll_of_unique hpairwise
  exact ⟨t, ht⟩

/-- **A state is saved when no two events and no two mappings have one id.** -/
theorem saveSnapshot_of_nodup {s : DurableState}
    (hevents : (s.eventOutbox.map (·.eventId)).Nodup)
    (hmappings : ((s.taskRuntimeMappings.entries.map (·.2)).map (·.taskRunId)).Nodup)
    (db : StateDatabase w) : ∃ db', s.saveSnapshot w db = some db' := by
  have hstatuses : ((s.commandStatus.entries.map fun e => s.commandRow w e.1 e.2).map
      (·.commandId)).Nodup := by
    rw [List.map_map]
    exact s.commandStatus.nodupKeys
  have houtbox : ((s.eventOutbox.map (DurableState.eventRow w)).map (·.eventId)).Nodup := by
    rw [List.map_map]
    exact hevents
  have hids : ((s.runtimeIds.map s.runtimeRow).map (·.runtimeSessionId)).Nodup := by
    rw [List.map_map]
    have hsame : (·.runtimeSessionId) ∘ s.runtimeRow = id := rfl
    rw [hsame, List.map_id]
    exact List.nodup_dedup _
  have hplaces : ((s.placementSeqs.entries.map fun e => PlacementSequenceRow.mk e.1 e.2).map
      (·.placementId)).Nodup := by
    rw [List.map_map]
    exact s.placementSeqs.nodupKeys
  obtain ⟨commandCache, h₁⟩ := insertAll_of_nodup (fun _ _ h => h) hstatuses
  obtain ⟨eventOutbox, h₂⟩ := insertAll_of_nodup (fun _ _ h => h) houtbox
  obtain ⟨runtimeMetadata, h₃⟩ := insertAll_of_nodup (fun _ _ h => h) hids
  obtain ⟨placementSequences, h₄⟩ := insertAll_of_nodup (fun _ _ h => h) hplaces
  obtain ⟨taskRuntimeMappings, h₅⟩ := insertAll_of_nodup (fun _ _ h => h) hmappings
  unfold DurableState.saveSnapshot
  rw [h₁, h₂, h₃, h₄, h₅]
  exact ⟨_, rfl⟩

/-! ## 2. What a load makes of it -/

/-- A row of the command cache, read whether its payload can be read or not. -/
def readCached (w : Texts) (row : CommandCacheRow w) : CachedCommand :=
  ⟨row.commandId, commandStateFromStorage row.state, row.resultPayload.bind w.parse⟩

theorem readCommandRow_eq_some {row : CommandCacheRow w} {command : CachedCommand}
    (h : readCommandRow w row = some command) : command = readCached w row := by
  unfold readCommandRow at h
  unfold readCached
  split at h
  · rename_i hnone
    rw [hnone]
    exact (Option.some.inj h).symm
  · rename_i text hsome
    obtain ⟨payload, hpayload, rfl⟩ := Option.map_eq_some_iff.mp h
    rw [hsome, Option.bind_some, hpayload]

/-- What is in the cache of a command. -/
def cachedOf (w : Texts) (s : DurableState) (id : CommandId) : CachedCommand :=
  ⟨id, s.commandStatus.lookup id,
    ((s.commandResultPayloads.lookup id).map w.print).bind w.parse⟩

/-- The state a load makes of a saved one, with the events it read. -/
def hydrated (w : Texts) (s : DurableState) (events : List EventEnvelope) : DurableState :=
  let registration : RegistrationRow :=
    ⟨s.daemonInstallationId, s.nodeId, s.credential, s.enrollmentId, s.pairingCode⟩
  let metrics : MetricsRow :=
    ⟨s.reconnectAttempts.toInt64, s.droppedEventCount.toInt64, s.heartbeatFailures.toInt64⟩
  (((((((s.sqliteCompatibilitySeed.hydrateRegistration (some registration)).hydrateMetrics
    (some metrics)).hydrateCommands (s.commandStatus.keys.map (cachedOf w s))).hydrateEvents
    events).hydrateRuntimes (s.runtimeIds.map s.runtimeRow)).hydratePlacements
    (s.placementSeqs.entries.map fun e => ⟨e.1, e.2⟩)).hydrateMappings
    (s.taskRuntimeMappings.entries.map (·.2)))

/-- The rows of the command cache are read when their payloads are. -/
def CommandsRead (w : Texts) (s : DurableState) : Prop :=
  ∀ e ∈ s.commandStatus.entries, readCommandRow w (s.commandRow w e.1 e.2) =
    some (readCached w (s.commandRow w e.1 e.2))

theorem readCached_commandRow {s : DurableState} {id : CommandId} {status : CommandState}
    (h : s.commandStatus.lookup id = some status) :
    readCached w (s.commandRow w id status) = cachedOf w s id := by
  unfold readCached cachedOf DurableState.commandRow
  rw [commandStateFromStorage_storage, h]

/-- **A load of a saved state**: it reads the payloads and the events or fails. -/
theorem load_of_saved {s : DurableState} {db : StateDatabase w} (h : Saved w s db)
    (fresh : String) (t : DurableState) :
    DurableState.load w fresh db = some t ↔
      CommandsRead w s ∧ ∃ events,
        (s.eventOutbox.map (DurableState.eventRow w)).mapM (readEventRow w) = some events ∧
          t = hydrated w s events := by
  have hload : DurableState.load w fresh db =
      DurableState.hydrate w db s.sqliteCompatibilitySeed := by
    unfold DurableState.load
    rw [h.nodeState]
    exact if_neg (by simp)
  have hcommands : ∀ commands, db.commandCache.rows.mapM (readCommandRow w) = some commands ↔
      CommandsRead w s ∧ commands = s.commandStatus.keys.map (cachedOf w s) := by
    intro commands
    rw [mapM_eq_some_iff_of_total fun r c => readCommandRow_eq_some, h.commandCache,
      List.forall_mem_map, List.map_map, CommandsRead]
    refine and_congr_right' ?_
    rw [← map_entries_eq_map_keys fun k b => readCached_commandRow]
    rfl
  rw [hload]
  unfold DurableState.hydrate hydrated
  rw [h.registration, h.metrics, h.runtimeMetadata, h.placementSequences, h.taskRuntimeMappings,
    h.eventOutbox]
  constructor
  · intro ht
    obtain ⟨commands, hc, ht⟩ := Option.bind_eq_some_iff.mp ht
    obtain ⟨events, he, ht⟩ := Option.bind_eq_some_iff.mp ht
    obtain ⟨hread, rfl⟩ := (hcommands commands).mp hc
    exact ⟨hread, events, he, (Option.some.inj ht).symm⟩
  · intro ⟨hread, events, he, ht⟩
    rw [(hcommands _).mpr ⟨hread, rfl⟩, he, ht]
    rfl

/-! ## 3. The fields that come back -/

/-- A table without rows is an empty field, which the seed has as well. -/
theorem overlay_ofRows {κ β ρ : Type} [DecidableEq κ] (key : ρ → κ) (value : ρ → Option β)
    (rows : List ρ) :
    DurableState.overlay rows ∅ (ofRows key value rows) = ofRows key value rows := by
  cases rows with
  | nil => rfl
  | cons _ _ => rfl

theorem toInt_toInt64 (n : UInt64) :
    n.toInt64.toInt = if n.toNat < 2 ^ 63 then (n.toNat : Int) else n.toNat - 2 ^ 64 := by
  have hn := n.toNat_lt
  have hbits : n.toBitVec.toNat = n.toNat := rfl
  show n.toBitVec.toInt = _
  rw [BitVec.toInt_eq_toNat_cond, hbits]
  split <;> split <;> omega

/-- **A count comes back when it fits a signed number.** -/
theorem countFromStored_eq_iff {n : UInt64} :
    countFromStored n.toInt64 = n ↔ n.toNat < 2 ^ 63 := by
  have hn := n.toNat_lt
  unfold countFromStored
  rw [toInt_toInt64]
  by_cases hfits : n.toNat < 2 ^ 63
  · rw [if_pos hfits, if_pos (by omega), Int.toNat_natCast, UInt64.ofNat_toNat]
    exact iff_of_true rfl hfits
  · rw [if_neg hfits, if_neg (by omega)]
    refine iff_of_false (fun hzero => hfits ?_) hfits
    rw [← hzero]
    decide

/-- The mappings are under the ids of their task runs. -/
def OwnMappings (s : DurableState) : Prop :=
  ∀ id mapping, s.taskRuntimeMappings.lookup id = some mapping → mapping.taskRunId = id

/-- What the database can hold of a state. -/
structure Representable (w : Texts) (s : DurableState) : Prop where
  reconnectAttempts : s.reconnectAttempts.toNat < 2 ^ 63
  droppedEventCount : s.droppedEventCount.toNat < 2 ^ 63
  heartbeatFailures : s.heartbeatFailures.toNat < 2 ^ 63
  taskRuntimeMappings : OwnMappings s
  payloads : ∀ id payload, s.commandResultPayloads.lookup id = some payload →
    w.parse (w.print payload) = some payload
  events : ∀ event ∈ s.eventOutbox,
    (w.parse (w.print (w.eventJson event))).bind w.ofEventJson = some event

/-- A payload is that of a command that has a status. -/
def PayloadsCovered (s : DurableState) : Prop :=
  ∀ id, s.commandStatus.lookup id = none → s.commandResultPayloads.lookup id = none

section Fields

variable {s : DurableState} {events : List EventEnvelope}

theorem hydrated_commandStatus (id : CommandId) :
    (hydrated w s events).commandStatus.lookup id = s.commandStatus.lookup id := by
  have hfield : (hydrated w s events).commandStatus = ofRows (·.commandId) (·.status)
      (s.commandStatus.keys.map (cachedOf w s)) := overlay_ofRows ..
  rw [hfield]
  exact lookup_ofRows_of_cover (fun _ => rfl) (fun _ _ => rfl)
    (fun k hk => AList.lookup_eq_none.mpr hk) id

theorem hydrated_commandResultPayloads (hcovered : PayloadsCovered s) (id : CommandId) :
    (hydrated w s events).commandResultPayloads.lookup id =
      ((s.commandResultPayloads.lookup id).map w.print).bind w.parse := by
  have hfield : (hydrated w s events).commandResultPayloads = ofRows (·.commandId) (·.payload)
      (s.commandStatus.keys.map (cachedOf w s)) := overlay_ofRows ..
  rw [hfield, lookup_ofRows_map fun _ => rfl]
  split
  · rfl
  · rename_i hid
    rw [hcovered id (AList.lookup_eq_none.mpr hid)]
    rfl

/-- A column of the runtimes' table: the table has a row for each runtime any field knows. -/
theorem lookup_runtimeColumn {β : Type} {column : RuntimeMetadataRow → Option β}
    {m : Assoc RuntimeSessionId β} (hcolumn : ∀ id, column (s.runtimeRow id) = m.lookup id)
    (hkeys : ∀ id ∈ m.keys, id ∈ s.runtimeIds) (id : RuntimeSessionId) :
    (DurableState.overlay (s.runtimeIds.map s.runtimeRow) ∅
      (ofRows (·.runtimeSessionId) column (s.runtimeIds.map s.runtimeRow))).lookup id =
      m.lookup id := by
  rw [overlay_ofRows]
  exact lookup_ofRows_of_cover (fun _ => rfl) (fun id _ => hcolumn id)
    (fun id hid => AList.lookup_eq_none.mpr fun hm => hid (hkeys id hm)) id

theorem hydrated_placementSeqs (id : ProjectPlacementId) :
    (hydrated w s events).placementSeqs.lookup id = s.placementSeqs.lookup id := by
  have hfield : (hydrated w s events).placementSeqs =
      ofRows PlacementSequenceRow.placementId (fun row => some row.seq)
        (s.placementSeqs.entries.map fun e => ⟨e.1, e.2⟩) := overlay_ofRows ..
  have hrows : (s.placementSeqs.entries.map fun e => PlacementSequenceRow.mk e.1 e.2) =
      s.placementSeqs.keys.map fun k => ⟨k, (s.placementSeqs.lookup k).getD 0⟩ :=
    map_entries_eq_map_keys fun k b hb => by rw [hb]; rfl
  rw [hfield, hrows]
  refine lookup_ofRows_of_cover (fun _ => rfl) (fun k hk => ?_)
    (fun k hk => AList.lookup_eq_none.mpr hk) id
  obtain ⟨seq, hseq⟩ := Option.isSome_iff_exists.mp (AList.lookup_isSome.mpr hk)
  rw [hseq]
  rfl

theorem hydrated_taskRuntimeMappings :
    (hydrated w s events).taskRuntimeMappings =
      ofRows TaskRuntimeMapping.taskRunId some (s.taskRuntimeMappings.entries.map (·.2)) := by
  have hfield : (hydrated w s events).taskRuntimeMappings =
      DurableState.overlay (s.taskRuntimeMappings.entries.map (·.2)) s.taskRuntimeMappings
        (ofRows TaskRuntimeMapping.taskRunId some
          (s.taskRuntimeMappings.entries.map (·.2))) := by
    cases s
    rfl
  rw [hfield]
  unfold DurableState.overlay
  split
  · rename_i hnil
    rw [List.isEmpty_iff, List.map_eq_nil_iff] at hnil
    rw [hnil]
    exact AList.ext hnil
  · rfl

/-- **Mappings come back exactly when they are under their own ids.** -/
theorem hydrated_mappings_iff :
    (∀ id, (hydrated w s events).taskRuntimeMappings.lookup id =
        s.taskRuntimeMappings.lookup id) ↔ OwnMappings s := by
  rw [hydrated_taskRuntimeMappings]
  constructor
  · intro hsame id mapping hmapping
    obtain ⟨row, -, hid, hrow⟩ := exists_row_of_lookup ((hsame id).trans hmapping)
    rw [← Option.some.inj hrow]
    exact hid
  · intro hown id
    let row (id : TaskRunId) : TaskRuntimeMapping :=
      (s.taskRuntimeMappings.lookup id).getD ⟨id, "", "", none, 0⟩
    have hkey : ∀ id, (row id).taskRunId = id := by
      intro id
      show ((s.taskRuntimeMappings.lookup id).getD _).taskRunId = id
      cases hmapping : s.taskRuntimeMappings.lookup id with
      | none => rfl
      | some mapping => exact hown id mapping hmapping
    have hrows : s.taskRuntimeMappings.entries.map (·.2) = s.taskRuntimeMappings.keys.map row :=
      map_entries_eq_map_keys (f := fun _ mapping => mapping) fun id mapping hmapping => by
        show mapping = (s.taskRuntimeMappings.lookup id).getD _
        rw [hmapping]
        rfl
    rw [hrows]
    refine lookup_ofRows_of_cover hkey (fun id hid => ?_)
      (fun id hid => AList.lookup_eq_none.mpr hid) id
    obtain ⟨mapping, hmapping⟩ := Option.isSome_iff_exists.mp (AList.lookup_isSome.mpr hid)
    show some ((s.taskRuntimeMappings.lookup id).getD _) = _
    rw [hmapping]
    rfl

theorem hydrated_eventOutbox : (hydrated w s events).eventOutbox = events := by
  show DurableState.overlay events [] events = events
  cases events with
  | nil => rfl
  | cons _ _ => rfl

end Fields

/-! ## 4. The state that comes back -/

theorem commandsRead_of_payloads {s : DurableState}
    (h : ∀ id payload, s.commandResultPayloads.lookup id = some payload →
      w.parse (w.print payload) = some payload) : CommandsRead w s := by
  intro e _
  unfold readCommandRow readCached DurableState.commandRow
  cases hpayload : s.commandResultPayloads.lookup e.1 with
  | none => rfl
  | some payload =>
    show (w.parse (w.print payload)).map _ =
      some (CachedCommand.mk _ _ (w.parse (w.print payload)))
    rw [h e.1 payload hpayload]
    rfl

theorem mem_runtimeIds {s : DurableState} {id : RuntimeSessionId} :
    id ∈ s.runtimeIds ↔ id ∈ s.runtimeSeqs.keys ∨ id ∈ s.runtimeProviders.keys ∨
      id ∈ s.runtimeWorkspacePaths.keys ∨ id ∈ s.runtimeStates.keys ∨
      id ∈ s.runtimeTranscripts.keys ∨ id ∈ s.runtimeProviderResumeRefs.keys := by
  unfold DurableState.runtimeIds
  simp only [List.mem_dedup, List.mem_append, or_assoc]

/-- The fields that come back from the seed. -/
theorem hydrated_seed (s : DurableState) (events : List EventEnvelope) :
    (hydrated w s events).stateSlot = s.stateSlot ∧
      (hydrated w s events).schemaVersion = s.schemaVersion ∧
      (hydrated w s events).cancelledDeductions = s.cancelledDeductions ∧
      (hydrated w s events).toolDependencies = s.toolDependencies := by
  cases s
  exact ⟨rfl, rfl, rfl, rfl⟩

theorem hydrated_registration (s : DurableState) (events : List EventEnvelope) :
    (hydrated w s events).daemonInstallationId = s.daemonInstallationId ∧
      (hydrated w s events).nodeId = s.nodeId ∧
      (hydrated w s events).credential = s.credential ∧
      (hydrated w s events).enrollmentId = s.enrollmentId ∧
      (hydrated w s events).pairingCode = s.pairingCode := by
  cases s
  exact ⟨rfl, rfl, rfl, rfl, rfl⟩

theorem hydrated_metrics (s : DurableState) (events : List EventEnvelope) :
    (hydrated w s events).reconnectAttempts = countFromStored s.reconnectAttempts.toInt64 ∧
      (hydrated w s events).droppedEventCount = countFromStored s.droppedEventCount.toInt64 ∧
      (hydrated w s events).heartbeatFailures = countFromStored s.heartbeatFailures.toInt64 := by
  cases s
  exact ⟨rfl, rfl, rfl⟩

/-- The fields of the runtimes' table. -/
theorem hydrated_runtimes (s : DurableState) (events : List EventEnvelope) :
    (∀ id, (hydrated w s events).runtimeSeqs.lookup id = s.runtimeSeqs.lookup id) ∧
      (∀ id, (hydrated w s events).runtimeProviders.lookup id = s.runtimeProviders.lookup id) ∧
      (∀ id, (hydrated w s events).runtimeWorkspacePaths.lookup id =
        s.runtimeWorkspacePaths.lookup id) ∧
      (∀ id, (hydrated w s events).runtimeStates.lookup id = s.runtimeStates.lookup id) ∧
      (∀ id, (hydrated w s events).runtimeTranscripts.lookup id =
        s.runtimeTranscripts.lookup id) ∧
      ∀ id, (hydrated w s events).runtimeProviderResumeRefs.lookup id =
        s.runtimeProviderResumeRefs.lookup id := by
  have hids := @mem_runtimeIds s
  exact ⟨lookup_runtimeColumn (fun _ => rfl) fun id hid => hids.mpr (.inl hid),
    lookup_runtimeColumn (fun _ => rfl) fun id hid => hids.mpr (.inr (.inl hid)),
    lookup_runtimeColumn (fun _ => rfl) fun id hid => hids.mpr (.inr (.inr (.inl hid))),
    lookup_runtimeColumn (fun _ => rfl) fun id hid => hids.mpr (.inr (.inr (.inr (.inl hid)))),
    lookup_runtimeColumn (fun _ => rfl) fun id hid =>
      hids.mpr (.inr (.inr (.inr (.inr (.inl hid))))),
    lookup_runtimeColumn (fun _ => rfl) fun id hid =>
      hids.mpr (.inr (.inr (.inr (.inr (.inr hid)))))⟩

/-- **What comes back is the state that was saved, when the database can hold it.** -/
theorem hydrated_same {s : DurableState} (hcovered : PayloadsCovered s)
    (h : Representable w s) : (hydrated w s s.eventOutbox).Same s := by
  obtain ⟨hslot, hversion, hcancelled, hdependencies⟩ := hydrated_seed (w := w) s s.eventOutbox
  obtain ⟨hdaemon, hnode, hcredential, henrollment, hpairing⟩ :=
    hydrated_registration (w := w) s s.eventOutbox
  obtain ⟨hreconnect, hdropped, hheartbeat⟩ := hydrated_metrics (w := w) s s.eventOutbox
  obtain ⟨hseqs, hproviders, hpaths, hstates, htranscripts, hrefs⟩ :=
    hydrated_runtimes (w := w) s s.eventOutbox
  refine ⟨hslot, hversion, hdaemon, hnode, hcredential, henrollment, hpairing,
    hydrated_commandStatus, fun id => ?_, hseqs, hydrated_eventOutbox, hproviders, hpaths, hstates,
    htranscripts, hrefs, hcancelled, hdependencies, hydrated_mappings_iff.mpr h.taskRuntimeMappings,
    hydrated_placementSeqs, hreconnect.trans (countFromStored_eq_iff.mpr h.reconnectAttempts),
    hdropped.trans (countFromStored_eq_iff.mpr h.droppedEventCount),
    hheartbeat.trans (countFromStored_eq_iff.mpr h.heartbeatFailures)⟩
  rw [hydrated_commandResultPayloads hcovered]
  cases hpayload : s.commandResultPayloads.lookup id with
  | none => rfl
  | some payload => exact h.payloads id payload hpayload

theorem representable_of_same {s : DurableState} {events : List EventEnvelope}
    (hcovered : PayloadsCovered s)
    (hevents : (s.eventOutbox.map (DurableState.eventRow w)).mapM (readEventRow w) = some events)
    (h : (hydrated w s events).Same s) : Representable w s where
  reconnectAttempts :=
    countFromStored_eq_iff.mp ((hydrated_metrics s events).1.symm.trans h.reconnectAttempts)
  droppedEventCount :=
    countFromStored_eq_iff.mp ((hydrated_metrics s events).2.1.symm.trans h.droppedEventCount)
  heartbeatFailures :=
    countFromStored_eq_iff.mp ((hydrated_metrics s events).2.2.symm.trans h.heartbeatFailures)
  taskRuntimeMappings := hydrated_mappings_iff.mp h.taskRuntimeMappings
  payloads id payload hpayload := by
    have hsame := h.commandResultPayloads id
    rw [hydrated_commandResultPayloads hcovered, hpayload] at hsame
    exact hsame
  events := by
    have hsame := h.eventOutbox
    rw [hydrated_eventOutbox] at hsame
    rw [hsame] at hevents
    exact mapM_map_eq_self_iff.mp hevents

/-! ## 5. Every save -/

theorem payloadsCovered_compactIn (s : DurableState) (order : List StatusEntry) :
    PayloadsCovered (s.compactIn order) := by
  intro id hid
  have hpayload : (s.compactIn order).commandResultPayloads.lookup id =
      if ((s.compactIn order).commandStatus.lookup id).isSome then
        (s.commandResultPayloads.retain fun id => !(evictedCommands order).contains id).lookup id
      else none := Assoc.lookup_retain _ _ id
  rw [hpayload, hid]
  rfl

/-- The rows of mappings that are under their own ids have different ids. -/
theorem nodup_mappingIds {s : DurableState} (h : OwnMappings s) :
    ((s.taskRuntimeMappings.entries.map (·.2)).map (·.taskRunId)).Nodup := by
  have hkeys : (s.taskRuntimeMappings.entries.map (·.2)).map (·.taskRunId) =
      s.taskRuntimeMappings.keys := by
    rw [List.map_map, AList.keys, List.keys]
    exact List.map_congr_left fun e he => h e.1 e.2 (AList.mem_lookup_iff.mpr he)
  rw [hkeys]
  exact s.taskRuntimeMappings.nodupKeys

/-- Whatever is in the database and in whatever order the statuses are run through: the state is
    saved, and a load gives back what `compact_for_persistence` left of it. -/
def Survives (w : Texts) (s : DurableState) : Prop :=
  ∀ order : List StatusEntry, order.Perm s.commandStatus.entries →
    ∀ (db : StateDatabase w) (fresh : String), ∃ db' t,
      s.save w order db = some db' ∧ DurableState.load w fresh db' = some t ∧
        t.Same (s.compactIn order)

/-- **A state survives a restart exactly when the database can hold what is saved of it.** -/
theorem survives_iff {s : DurableState} (hdistinct : (s.eventOutbox.map (·.eventId)).Nodup) :
    Survives w s ↔ ∀ order : List StatusEntry, order.Perm s.commandStatus.entries →
      Representable w (s.compactIn order) := by
  constructor
  · intro h order horder
    obtain ⟨db', t, hsave, hload, hsame⟩ := h order horder {} ""
    obtain ⟨-, events, hevents, rfl⟩ := (load_of_saved (saved_of_saveSnapshot hsave) "" t).mp hload
    exact representable_of_same (payloadsCovered_compactIn s order) hevents hsame
  · intro h order horder db fresh
    have hholds := h order horder
    obtain ⟨db', hsave⟩ := saveSnapshot_of_nodup (s := s.compactIn order) hdistinct
      (nodup_mappingIds hholds.taskRuntimeMappings) db
    have hevents : ((s.compactIn order).eventOutbox.map (DurableState.eventRow w)).mapM
        (readEventRow w) = some _ := mapM_map_eq_self_iff.mpr hholds.events
    have hload := (load_of_saved (saved_of_saveSnapshot hsave) fresh _).mpr
      ⟨commandsRead_of_payloads hholds.payloads, _, hevents, rfl⟩
    exact ⟨db', _, hsave, hload, hydrated_same (payloadsCovered_compactIn s order) hholds⟩

/-! ## 6. Every state the mutations reach -/

theorem nodup_eventIds_mutate {s : DurableState} (h : (s.eventOutbox.map (·.eventId)).Nodup)
    (m : StateMutation) : ((s.mutate m).eventOutbox.map (·.eventId)).Nodup := by
  cases m with
  | persistEventAck ids => exact h.sublist (List.filter_sublist.map _)
  | mergeCommandState baseline commandState => exact nodup_appendNew h
  | _ => exact h

theorem nodup_eventIds_after {s : DurableState} (h : (s.eventOutbox.map (·.eventId)).Nodup)
    (ms : List StateMutation) : ((s.after ms).eventOutbox.map (·.eventId)).Nodup := by
  induction ms generalizing s with
  | nil => exact h
  | cons m ms ih => exact ih (nodup_eventIds_mutate h m)

/-- Mappings get under other ids only by a merge that brings them so. -/
theorem ownMappings_mutate {s : DurableState} (h : OwnMappings s) {m : StateMutation}
    (hmerge : ∀ baseline commandState, m = .mergeCommandState baseline commandState →
      OwnMappings commandState) : OwnMappings (s.mutate m) := by
  intro id mapping hmapping
  cases m with
  | mergeCommandState baseline commandState =>
    have hmerged := (Assoc.lookup_mergeChanged s.taskRuntimeMappings baseline.taskRuntimeMappings
      commandState.taskRuntimeMappings id).symm.trans hmapping
    rcases Assoc.of_changed_eq_some hmerged with howner | hworker
    · exact h id mapping howner
    · exact hmerge _ _ rfl id mapping hworker
  | upsertTaskRuntimeMapping new =>
    have hnew := (Assoc.lookup_insert' s.taskRuntimeMappings new.taskRunId id new).symm.trans
      hmapping
    split at hnew
    · rename_i hid
      rw [← Option.some.inj hnew]
      exact hid.symm
    · exact h id mapping hnew
  | removeTaskRuntimeMapping removed =>
    have hrest := (Assoc.lookup_erase' s.taskRuntimeMappings removed id).symm.trans hmapping
    split at hrest
    · cases hrest
    · exact h id mapping hrest
  | _ => exact h id mapping hmapping

/-- **After any sequence of mutations, the state survives a restart exactly when the database can
    hold what is saved of it.** A state whose events have different ids is a new installation's, or
    one that came back from a table of events. -/
theorem restart_lossless_iff {s : DurableState} (hstart : (s.eventOutbox.map (·.eventId)).Nodup)
    (ms : List StateMutation) :
    Survives w (s.after ms) ↔
      ∀ order : List StatusEntry, order.Perm (s.after ms).commandStatus.entries →
        Representable w ((s.after ms).compactIn order) :=
  survives_iff (nodup_eventIds_after hstart ms)

theorem nodup_newInstallation (id : String) :
    ((newInstallation id).eventOutbox.map (·.eventId)).Nodup := List.nodup_nil

namespace Texts

/-- Texts whose reader refuses what lies in too many arrays and objects. -/
def shallow : Texts where
  Text := JsonValue
  print := id
  parse v := if v.nesting < 127 then some v else none
  eventJson event := .string event.eventId
  ofEventJson _ := none

end Texts

/-- A value in so many arrays. -/
def nested : Nat → JsonValue
  | 0 => .null
  | n + 1 => .array (.cons (nested n) .nil)

/-- A reconnect and a task's sandbox are there after a restart. -/
theorem restart_lossless_reconnected :
    Survives .shallow ((newInstallation "daemon-1").after
      [.persistReconnectAttempt,
        .upsertTaskRuntimeMapping ⟨"task-1", "/tmp/task-1", "uprava/task-1", none, 0⟩]) := by
  refine (restart_lossless_iff (nodup_newInstallation _) _).mpr fun order horder => ?_
  obtain rfl : order = [] := List.perm_nil.mp horder
  refine ⟨by decide, by decide, by decide, fun id mapping hmapping => ?_,
    fun id payload hpayload => ?_, fun event hevent => ?_⟩
  · have hlookup := Assoc.lookup_insert' (∅ : Assoc TaskRunId TaskRuntimeMapping) "task-1" id
      ⟨"task-1", "/tmp/task-1", "uprava/task-1", none, 0⟩
    have hentry := hlookup.symm.trans hmapping
    split at hentry
    · rename_i hid
      cases hentry
      exact hid.symm
    · cases hentry
  · cases hpayload
  · cases hevent

/-- A count of 2^63 comes back as none, and with a result in 130 arrays nothing comes back. -/
theorem count_and_result_lost :
    ¬Survives .shallow ((newInstallation "daemon-1").after
        [.mergeCommandState (newInstallation "daemon-1")
          { daemonInstallationId := "daemon-1", droppedEventCount := 2 ^ 63 }]) ∧
      ¬Survives .shallow ((newInstallation "daemon-1").after
        [.mergeCommandState (newInstallation "daemon-1")
          { daemonInstallationId := "daemon-1"
            commandStatus := AList.insert "command-1" .completed ∅
            commandResultPayloads := AList.insert "command-1" (nested 130) ∅ }]) := by
  have hdistinct := nodup_eventIds_after (nodup_newInstallation "daemon-1")
  refine ⟨fun h => ?_, fun h => ?_⟩
  · have hholds := (survives_iff (hdistinct _)).mp h [] (List.Perm.refl _)
    exact absurd hholds.droppedEventCount (by decide +kernel)
  · have hholds := (survives_iff (hdistinct _)).mp h [⟨"command-1", .completed⟩]
      (List.Perm.refl _)
    have hread := hholds.payloads "command-1" (nested 130) (by decide +kernel)
    exact absurd hread (by decide +kernel)

end Uprava.Node.Storage
