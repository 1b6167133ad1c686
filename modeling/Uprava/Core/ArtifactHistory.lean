/-
  File:      Uprava/Core/ArtifactHistory.lean
  Subject:   THE HISTORY OF AN ARTIFACT: its versions are numbered without a gap, a stored one
             stays, each is made by one request, and a deduction can be stored again exactly while
             the two counters of its narrative agree.

  * `Wrote`          -- what each of the three transactions leaves when it commits;
  * `Sound`          -- the invariant of the requests in flight;
  * `proceed_selected_iff` -- the step that decides: the transaction of `persist_deduction`;
  * **`histories_iff`** -- over every run.
-/
import Uprava.Core.Artifacts
import Uprava.Lib.Run

namespace Uprava.Core.Artifacts

open Uprava.Protocol
open Uprava.Lib (Assoc Always Meets Throughout always_iff_eachStep meets_iff_of_run meets_of_check
  meets_of_mem run run_inv)
open Uprava.Lib.Assoc (lookup_insert')

/-! ## 1. What is asked -/

/-- `artifacts.current_version`, zero where there is no artifact. -/
def ArtifactStore.current (s : ArtifactStore) (artifactId : ArtifactId) : Nat :=
  ((s.artifacts.lookup artifactId).map (·.currentVersion)).getD 0

/-- The stored versions of each artifact are 1 to its current one. -/
def ArtifactStore.Exact (s : ArtifactStore) : Prop :=
  ∀ artifactId version, (s.versions.lookup (artifactId, version)).isSome = true ↔
    1 ≤ version ∧ version ≤ s.current artifactId

/-- The request that an answer is of has made this version. -/
def ArtifactAnswer.makes (artifactId : ArtifactId) (version : Nat) : ArtifactAnswer → Bool
  | .created made => made == artifactId && version == 1
  | .added made expected => made == artifactId && version == expected + 1
  | .persisted _ made madeVersion => made == artifactId && version == madeVersion
  | _ => false

/-- The histories of the artifacts: the numbers, one request for each version, and of the requests
    that expected one version a winner wherever one lost. -/
structure ArtifactRequests.Histories (s : ArtifactRequests) : Prop where
  exact : s.store.Exact
  once : ∀ artifactId version, (s.answers.filter (·.makes artifactId version)).length ≤ 1
  outrun : ∀ artifactId expected, .outrun artifactId expected ∈ s.answers →
    ∃ answer ∈ s.answers, answer.makes artifactId (expected + 1) = true

/-- A stored version never changes. -/
def ArtifactRequests.KeepsVersions (s t : ArtifactRequests) : Prop :=
  ∀ key row, s.store.versions.lookup key = some row → t.store.versions.lookup key = some row

/-- What an answer says about the step that gives it: a request without success changes nothing,
    `persist_deduction` succeeds on a completed deduction and leaves the two counters equal. -/
def ArtifactAnswer.Law (s t : ArtifactStore) : ArtifactAnswer → Prop
  | .created artifactId => t.current artifactId = 1
  | .added artifactId expected => t.current artifactId = expected + 1
  | .outrun _ _ | .refused _ => t = s
  | .persisted deductionId artifactId version =>
    (t.narratives.lookup deductionId).map (fun narrative =>
      (narrative.artifactId, narrative.currentVersion)) = some (artifactId, version) ∧
    t.current artifactId = version
  | .notCompleted deductionId _ => t = s ∧ (s.deductions.lookup deductionId).bind (·.block) = none
  | .notPersisted _ _ => False

def ArtifactRequests.Answered (s t : ArtifactRequests) : Prop :=
  ∀ answer, t.answers = answer :: s.answers → answer.Law s.store t.store

/-- **When `persist_deduction` succeeds**: the narrative type has a provider, no transaction is
    committed between its first read and its first write, and the counter of the narrative is the
    one of its artifact, which `create_artifact_version` alone makes differ. -/
def ArtifactRequests.Permits (s : ArtifactRequests) : ArtifactAction → Prop
  | .persist world deductionId _ =>
    (completedBlock s.store deductionId).isOk = true → (world.types narrativeType).isSome = true
  | .proceed task _ =>
    match s.tasks[task]? with
    | some (.selected p _ _ snapshot) => snapshot = s.writes ∧
      ∀ narrative ∈ s.store.narratives.lookup p.deductionId,
        narrative.currentVersion = s.store.current narrative.artifactId
    | _ => True
  | _ => True

/-! ## 2. What a transaction leaves -/

/-- A transaction adds the next version of one artifact. -/
structure Wrote (s t : ArtifactStore) (artifactId : ArtifactId) (version : Nat) : Prop where
  current : ∀ other, t.current other = if other = artifactId then version else s.current other
  next : version = s.current artifactId + 1
  absent : s.versions.lookup (artifactId, version) = none
  versions : ∃ row, ∀ key, t.versions.lookup key =
    if key = (artifactId, version) then some row else s.versions.lookup key

section Transactions

variable {s t : ArtifactStore} {artifactId : ArtifactId} {version : Nat}

theorem Wrote.exact (hs : s.Exact) (h : Wrote s t artifactId version) : t.Exact := by
  intro other number
  obtain ⟨row, hversions⟩ := h.versions
  have hnext := h.next
  rw [hversions, h.current]
  by_cases hother : other = artifactId
  · subst hother
    rw [if_pos rfl]
    by_cases hnumber : number = version
    · subst hnumber
      rw [if_pos rfl]
      exact iff_of_true rfl ⟨by omega, Nat.le_refl _⟩
    · rw [if_neg fun heq => hnumber (Prod.mk.inj heq).2, hs]
      omega
  · rw [if_neg hother, if_neg fun heq => hother (Prod.mk.inj heq).1]
    exact hs other number

theorem Wrote.keeps (h : Wrote s t artifactId version) {key : ArtifactId × Nat}
    {row : ArtifactVersionRow} (hrow : s.versions.lookup key = some row) :
    t.versions.lookup key = some row := by
  obtain ⟨new, hversions⟩ := h.versions
  rw [hversions, if_neg, hrow]
  intro heq
  rw [heq, h.absent] at hrow
  cases hrow

theorem Wrote.current_le (h : Wrote s t artifactId version) (other : ArtifactId) :
    s.current other ≤ t.current other := by
  have hnext := h.next
  rw [h.current]
  split
  · rename_i heq
    subst heq
    omega
  · exact Nat.le_refl _

theorem insertUnique_eq_ok {α β : Type} [DecidableEq α] {constraint : String} {m m' : Assoc α β}
    {k : α} {b : β} :
    insertUnique constraint m k b = .ok m' ↔ m.lookup k = none ∧ m' = m.insert k b := by
  unfold insertUnique
  cases m.lookup k with
  | none => simp [eq_comm]
  | some b' => simp

theorem current_insert {artifacts : Assoc ArtifactId ArtifactRow} {row : ArtifactRow}
    (hartifacts : t.artifacts = artifacts.insert artifactId row)
    (hs : s.artifacts = artifacts) (other : ArtifactId) :
    t.current other = if other = artifactId then row.currentVersion else s.current other := by
  rw [ArtifactStore.current, ArtifactStore.current, hartifacts, hs, lookup_insert']
  split <;> rfl

theorem insertPreparedArtifact_wrote {ownerPluginId : PluginId} {createdBy : ActorRef}
    {request : CreateArtifactRequest} {now : DateTime}
    (h : insertPreparedArtifact s artifactId ownerPluginId createdBy request now = .ok t) :
    Wrote s t artifactId 1 ∧ t.narratives = s.narratives ∧
      t.narrativeVersions = s.narrativeVersions ∧ t.deductions = s.deductions := by
  unfold insertPreparedArtifact at h
  cases hartifacts : insertUnique "artifacts.artifact_id" s.artifacts artifactId {
      artifactType := request.artifactType
      title := request.title
      scopeRef := request.scopeRef
      ownerPluginId
      currentVersion := 1
      state := .active
      createdBy
      createdAt := now
      updatedAt := now } with
  | error e =>
    rw [hartifacts] at h
    cases h
  | ok artifacts =>
    rw [hartifacts] at h
    cases hversions : insertUnique "artifact_versions.version" s.versions (artifactId, 1)
        (⟨request.toArtifactContent, now⟩ : ArtifactVersionRow) with
    | error e =>
      rw [hversions] at h
      cases h
    | ok versions =>
      rw [hversions] at h
      cases h
      obtain ⟨hnew, rfl⟩ := insertUnique_eq_ok.mp hartifacts
      obtain ⟨habsent, rfl⟩ := insertUnique_eq_ok.mp hversions
      refine ⟨⟨fun other => ?_, ?_, habsent, _, fun key => lookup_insert' ..⟩, rfl, rfl, rfl⟩
      · rw [current_insert rfl rfl]
      · rw [ArtifactStore.current, hnew]
        rfl

theorem addArtifactVersion_wrote {request : CreateArtifactVersionRequest} {now : DateTime}
    (h : addArtifactVersion s artifactId request now = .ok t) :
    Wrote s t artifactId (request.expectedCurrentVersion + 1) ∧ t.narratives = s.narratives ∧
      t.narrativeVersions = s.narrativeVersions ∧ t.deductions = s.deductions := by
  unfold addArtifactVersion at h
  dsimp only at h
  split at h
  · cases h
  · split at h
    · cases h
    · rename_i row hrow
      split at h
      · cases h
      · rename_i hcurrent
        split at h
        · cases h
        · rename_i versions hversions
          cases h
          obtain ⟨habsent, rfl⟩ := insertUnique_eq_ok.mp hversions
          refine ⟨⟨fun other => ?_, ?_, habsent, _, fun key => lookup_insert' ..⟩, rfl, rfl, rfl⟩
          · rw [current_insert rfl rfl]
          · rw [ArtifactStore.current, hrow, Option.map_some, Option.getD_some,
              not_ne_iff.mp hcurrent]

/-- The transaction answers with a conflict only where the version has moved. -/
theorem addArtifactVersion_outrun {request : CreateArtifactVersionRequest} {now : DateTime}
    (h : addArtifactVersion s artifactId request now = .error versionConflict)
    (hexists : 1 ≤ s.current artifactId) :
    s.current artifactId ≠ request.expectedCurrentVersion := by
  unfold addArtifactVersion at h
  dsimp only at h
  split at h
  · cases h
  · split at h
    · rename_i hrow
      rw [ArtifactStore.current, hrow] at hexists
      exact absurd hexists (by decide)
    · rename_i row hrow
      split at h
      · rename_i hcurrent
        rw [ArtifactStore.current, hrow]
        exact hcurrent
      · split at h
        · rename_i e hversions
          unfold insertUnique at hversions
          split at hversions
          · cases hversions
            cases h
          · cases hversions
        · cases h

end Transactions

/-! ## 3. Consistent tables -/

/-- What the foreign keys and the earlier requests leave: the versions of a narrative are those of
    its counter, which is at most the one of the artifact. -/
structure ArtifactStore.Consistent (s : ArtifactStore) : Prop where
  exact : s.Exact
  stored : ∀ deductionId narrative, s.narratives.lookup deductionId = some narrative →
    1 ≤ narrative.currentVersion ∧ narrative.currentVersion ≤ s.current narrative.artifactId
  numbered : ∀ deductionId narrative, s.narratives.lookup deductionId = some narrative →
    ∀ version, (s.narrativeVersions.lookup (narrative.artifactId, version)).isSome = true ↔
      1 ≤ version ∧ version ≤ narrative.currentVersion
  owned : ∀ artifactId version,
    (s.narrativeVersions.lookup (artifactId, version)).isSome = true →
      ∃ deductionId narrative, s.narratives.lookup deductionId = some narrative ∧
        narrative.artifactId = artifactId
  single : ∀ deductionId deductionId' narrative narrative',
    s.narratives.lookup deductionId = some narrative →
    s.narratives.lookup deductionId' = some narrative' →
    narrative.artifactId = narrative'.artifactId → deductionId = deductionId'

section Consistency

variable {s t : ArtifactStore} {artifactId drawn : ArtifactId} {version : Nat} {p : Persisting}

theorem Wrote.consistent (hs : s.Consistent) (h : Wrote s t artifactId version)
    (hnarratives : t.narratives = s.narratives)
    (hversions : t.narrativeVersions = s.narrativeVersions) : t.Consistent := by
  refine ⟨h.exact hs.exact, fun deductionId narrative hlookup => ?_, ?_, ?_, ?_⟩
  · rw [hnarratives] at hlookup
    obtain ⟨hone, hle⟩ := hs.stored deductionId narrative hlookup
    exact ⟨hone, Nat.le_trans hle (h.current_le _)⟩
  · rw [hnarratives, hversions]
    exact hs.numbered
  · rw [hnarratives, hversions]
    exact hs.owned
  · rw [hnarratives]
    exact hs.single

/-- No narrative has an id that is drawn. -/
theorem ArtifactRequests.IsNew.no_narrative (h : ArtifactRequests.IsNew s drawn)
    {deductionId : DeductionId} {narrative : NarrativeRow}
    (hlookup : s.narratives.lookup deductionId = some narrative) :
    narrative.artifactId ≠ drawn := by
  intro heq
  have hmem : (⟨deductionId, narrative⟩ : Sigma fun _ : DeductionId => NarrativeRow) ∈
      s.narratives.entries := AList.mem_lookup_iff.mp hlookup
  have hnone := List.any_eq_false.mp h.2 _ hmem
  exact hnone (beq_iff_eq.mpr heq)

theorem ArtifactRequests.IsNew.current (h : ArtifactRequests.IsNew s drawn) :
    s.current drawn = 0 := by
  rw [ArtifactStore.current, Option.isSome_eq_false_iff.mp h.1 |> Option.isNone_iff_eq_none.mp]
  rfl

/-- What the transaction of `persist_deduction` leaves. -/
structure Persisted (s t : ArtifactStore) (p : Persisting) (artifactId : ArtifactId)
    (version : Nat) : Prop where
  wrote : Wrote s t artifactId version
  narrative : ∃ narrative : NarrativeRow,
    (narrative.artifactId = artifactId ∧ narrative.currentVersion = version) ∧
    ∀ deductionId, t.narratives.lookup deductionId =
      if deductionId = p.deductionId then some narrative else s.narratives.lookup deductionId
  narrativeVersions : ∃ row, ∀ key, t.narrativeVersions.lookup key =
    if key = (artifactId, version) then some row else s.narrativeVersions.lookup key
  known : ∀ deductionId, (s.deductions.lookup deductionId).isSome = true →
    (t.deductions.lookup deductionId).isSome = true

/-- The last insertion decides: the statements before it succeed. -/
theorem writeNarrative_ok {narratives : Assoc DeductionId NarrativeRow}
    (hnarratives : upsertNarrative s p artifactId version = .ok narratives)
    (hversion : s.narrativeVersions.lookup (artifactId, version) = none) :
    (s.versions.lookup (artifactId, version) = none →
      ∃ t, writeNarrative s p artifactId version = .ok t) ∧
    ∀ t, writeNarrative s p artifactId version = .ok t →
      s.versions.lookup (artifactId, version) = none ∧ t.narratives = narratives ∧
      (∃ row, ∀ key, t.narrativeVersions.lookup key =
        if key = (artifactId, version) then some row else s.narrativeVersions.lookup key) ∧
      (∃ row, ∀ key, t.versions.lookup key =
        if key = (artifactId, version) then some row else s.versions.lookup key) ∧
      (∀ other, t.current other = if other = artifactId then version else s.current other) ∧
      ∀ deductionId, (s.deductions.lookup deductionId).isSome = true →
        (t.deductions.lookup deductionId).isSome = true := by
  have hinserted : insertUnique "causality_narrative_versions.version" s.narrativeVersions
      (artifactId, version) (⟨p.block, p.block.provenance, p.now⟩ : NarrativeVersionRow) =
        .ok _ := insertUnique_eq_ok.mpr ⟨hversion, rfl⟩
  unfold writeNarrative
  rw [hnarratives, hinserted]
  cases hversions : insertUnique "artifact_versions.version" s.versions (artifactId, version)
      (narrativeVersion p) with
  | error e =>
    refine ⟨fun habsent => ?_, fun t h => (nomatch h)⟩
    rw [insertUnique_eq_ok.mpr ⟨habsent, rfl⟩] at hversions
    cases hversions
  | ok versions =>
    obtain ⟨habsent, rfl⟩ := insertUnique_eq_ok.mp hversions
    refine ⟨fun _ => ⟨_, rfl⟩, fun t h => ?_⟩
    cases h
    refine ⟨habsent, rfl, ⟨_, fun key => lookup_insert' ..⟩, ⟨_, fun key => lookup_insert' ..⟩,
      fun other => ?_, fun deductionId hsome => ?_⟩
    · rw [current_insert rfl rfl]
      congr 1
      unfold upsertArtifact
      split <;> rfl
    · dsimp only
      split
      · rw [lookup_insert']
        split
        · rfl
        · exact hsome
      · exact hsome

/-- **The transaction of `persist_deduction` takes the version that the narrative's counter
    gives**, and so commits exactly when this is the next version of the artifact. -/
theorem writeNarrative_spec (hs : s.Consistent) (hnew : ArtifactRequests.IsNew s drawn)
    (hknown : (s.deductions.lookup p.deductionId).isSome = true)
    (hnext : nextNarrative s p.deductionId drawn = (artifactId, version)) :
    (∀ t, writeNarrative s p artifactId version = .ok t → Persisted s t p artifactId version) ∧
      ((∃ t, writeNarrative s p artifactId version = .ok t) ↔
        ∀ narrative ∈ s.narratives.lookup p.deductionId,
          narrative.currentVersion = s.current narrative.artifactId) := by
  unfold nextNarrative at hnext
  cases hlookup : s.narratives.lookup p.deductionId with
  | none =>
    rw [hlookup] at hnext
    obtain ⟨rfl, rfl⟩ := Prod.mk.inj hnext
    have hupsert : upsertNarrative s p drawn 1 =
        .ok (s.narratives.insert p.deductionId ⟨drawn, p.sessionThreadId, 1, p.now, p.now⟩) := by
      unfold upsertNarrative
      rw [hlookup]
      dsimp only
      rw [if_neg (by rw [hnew.2]; decide), if_neg]
      rw [Option.isSome_iff_exists] at hknown
      obtain ⟨record, hrecord⟩ := hknown
      rw [hrecord, Option.isNone_some]
      exact Bool.false_ne_true
    have hversion : s.narrativeVersions.lookup (drawn, 1) = none := by
      refine Option.not_isSome_iff_eq_none.mp fun hsome => ?_
      obtain ⟨deductionId, narrative, hnarrative, hartifact⟩ := hs.owned drawn 1 hsome
      exact hnew.no_narrative hnarrative hartifact
    have habsent : s.versions.lookup (drawn, 1) = none := by
      refine Option.not_isSome_iff_eq_none.mp fun hsome => ?_
      have hle := ((hs.exact drawn 1).mp hsome).2
      rw [hnew.current] at hle
      exact absurd hle (by decide)
    obtain ⟨hcommits, hleaves⟩ := writeNarrative_ok hupsert hversion
    refine ⟨fun t ht => ?_, iff_of_true (hcommits habsent) fun _ h => (nomatch h)⟩
    obtain ⟨-, hnarratives, hnarrativeVersions, hversions, hcurrent, hdeductions⟩ := hleaves t ht
    refine ⟨⟨hcurrent, by rw [hnew.current], habsent, hversions⟩,
      ⟨⟨drawn, p.sessionThreadId, 1, p.now, p.now⟩, ⟨rfl, rfl⟩, fun deductionId => ?_⟩,
      hnarrativeVersions, hdeductions⟩
    rw [hnarratives, lookup_insert']
  | some narrative =>
    rw [hlookup] at hnext
    obtain ⟨rfl, rfl⟩ := Prod.mk.inj hnext
    have hupsert : upsertNarrative s p narrative.artifactId (narrative.currentVersion + 1) =
        .ok (s.narratives.insert p.deductionId { narrative with
          currentVersion := narrative.currentVersion + 1, updatedAt := p.now }) := by
      unfold upsertNarrative
      rw [hlookup]
    have hversion : s.narrativeVersions.lookup
        (narrative.artifactId, narrative.currentVersion + 1) = none := by
      refine Option.not_isSome_iff_eq_none.mp fun hsome => ?_
      have hle := ((hs.numbered p.deductionId narrative hlookup _).mp hsome).2
      omega
    have hle := (hs.stored p.deductionId narrative hlookup).2
    -- the artifact's counter is at least the narrative's, so its next version is free or taken
    have habsent : s.versions.lookup (narrative.artifactId, narrative.currentVersion + 1) = none ↔
        narrative.currentVersion = s.current narrative.artifactId := by
      rw [← Option.not_isSome_iff_eq_none, hs.exact]
      omega
    obtain ⟨hcommits, hleaves⟩ := writeNarrative_ok hupsert hversion
    refine ⟨fun t ht => ?_, ⟨fun ⟨t, ht⟩ => ?_, fun heq => ?_⟩⟩
    · obtain ⟨hnone, hnarratives, hnarrativeVersions, hversions, hcurrent, hdeductions⟩ :=
        hleaves t ht
      refine ⟨⟨hcurrent, by rw [habsent.mp hnone], hnone, hversions⟩,
        ⟨{ narrative with
          currentVersion := narrative.currentVersion + 1, updatedAt := p.now }, ⟨rfl, rfl⟩,
          fun deductionId => ?_⟩, hnarrativeVersions, hdeductions⟩
      rw [hnarratives, lookup_insert']
    · intro narrative' hnarrative'
      obtain rfl := Option.some.inj hnarrative'
      exact habsent.mp (hleaves t ht).1
    · exact hcommits (habsent.mpr (heq narrative rfl))

/-- **A deduction that is stored leaves the tables consistent.** -/
theorem Persisted.consistent (hs : s.Consistent) (hnew : ArtifactRequests.IsNew s drawn)
    (hnext : nextNarrative s p.deductionId drawn = (artifactId, version))
    (h : Persisted s t p artifactId version) : t.Consistent := by
  obtain ⟨new, ⟨hartifact, hversion⟩, hnarratives⟩ := h.narrative
  obtain ⟨row, hversions⟩ := h.narrativeVersions
  have hnextVersion := h.wrote.next
  -- the artifact is that of no other narrative, and the narrative had the versions up to this one
  have hothers : ∀ deductionId narrative, s.narratives.lookup deductionId = some narrative →
      deductionId ≠ p.deductionId → narrative.artifactId ≠ artifactId := by
    intro deductionId narrative hlookup hne heq
    unfold nextNarrative at hnext
    split at hnext
    · obtain ⟨rfl, -⟩ := Prod.mk.inj hnext
      exact hnew.no_narrative hlookup heq
    · rename_i own hown
      obtain ⟨rfl, -⟩ := Prod.mk.inj hnext
      exact hne (hs.single _ _ _ _ hlookup hown heq)
  have hbefore : ∀ number, (s.narrativeVersions.lookup (artifactId, number)).isSome = true ↔
      1 ≤ number ∧ number < version := by
    intro number
    unfold nextNarrative at hnext
    split at hnext
    · obtain ⟨rfl, rfl⟩ := Prod.mk.inj hnext
      refine iff_of_false (fun hsome => ?_) fun hlt => by omega
      obtain ⟨deductionId, narrative, hlookup, heq⟩ := hs.owned _ _ hsome
      exact hnew.no_narrative hlookup heq
    · rename_i own hown
      obtain ⟨rfl, rfl⟩ := Prod.mk.inj hnext
      rw [hs.numbered _ _ hown]
      omega
  refine ⟨h.wrote.exact hs.exact, fun deductionId narrative hlookup => ?_,
    fun deductionId narrative hlookup number => ?_, fun other number hsome => ?_,
    fun deductionId deductionId' narrative narrative' hlookup hlookup' heq => ?_⟩
  · rw [hnarratives] at hlookup
    split at hlookup
    · obtain rfl := Option.some.inj hlookup
      rw [hartifact, hversion, h.wrote.current, if_pos rfl]
      omega
    · obtain ⟨hone, hle⟩ := hs.stored deductionId narrative hlookup
      exact ⟨hone, Nat.le_trans hle (h.wrote.current_le _)⟩
  · rw [hnarratives] at hlookup
    rw [hversions]
    split at hlookup
    · obtain rfl := Option.some.inj hlookup
      rw [hartifact, hversion]
      split
      · rename_i heq
        obtain ⟨-, rfl⟩ := Prod.mk.inj heq
        exact iff_of_true rfl ⟨by omega, Nat.le_refl _⟩
      · rename_i hne
        have hnumber : number ≠ version := fun heq => hne (by rw [heq])
        rw [hbefore]
        omega
    · rename_i hne
      rw [if_neg fun heq => hothers _ _ hlookup hne (Prod.mk.inj heq).1]
      exact hs.numbered _ _ hlookup number
  · rw [hversions] at hsome
    split at hsome
    · rename_i heq
      obtain ⟨rfl, -⟩ := Prod.mk.inj heq
      exact ⟨p.deductionId, new, by rw [hnarratives, if_pos rfl], hartifact⟩
    · obtain ⟨deductionId, narrative, hlookup, howned⟩ := hs.owned other number hsome
      by_cases hdeduction : deductionId = p.deductionId
      · rw [hdeduction] at hlookup
        refine ⟨p.deductionId, new, by rw [hnarratives, if_pos rfl], ?_⟩
        unfold nextNarrative at hnext
        rw [hlookup] at hnext
        rw [hartifact, ← howned]
        exact (Prod.mk.inj hnext).1.symm
      · exact ⟨deductionId, narrative, by rw [hnarratives, if_neg hdeduction]; exact hlookup,
          howned⟩
  · rw [hnarratives] at hlookup hlookup'
    split at hlookup
    · rename_i hown
      split at hlookup'
      · rename_i hown'
        rw [hown, hown']
      · rename_i hne
        obtain rfl := Option.some.inj hlookup
        exact absurd (heq.symm.trans hartifact) (hothers _ _ hlookup' hne)
    · rename_i hne
      split at hlookup'
      · obtain rfl := Option.some.inj hlookup'
        exact absurd (heq.trans hartifact) (hothers _ _ hlookup hne)
      · exact hs.single _ _ _ _ hlookup hlookup' heq

end Consistency

/-! ## 4. The invariant -/

/-- What a request in flight relies on. -/
def ArtifactTask.SoundIn (s : ArtifactRequests) : ArtifactTask → Prop
  | .adding artifactId request _ =>
    1 ≤ request.expectedCurrentVersion ∧
    request.expectedCurrentVersion ≤ s.store.current artifactId ∧
    (request.expectedCurrentVersion < s.store.current artifactId →
      ∃ answer ∈ s.answers, answer.makes artifactId (request.expectedCurrentVersion + 1) = true)
  | .persisting p => (s.store.deductions.lookup p.deductionId).isSome = true
  | .selected p artifactId version snapshot =>
    (s.store.deductions.lookup p.deductionId).isSome = true ∧ snapshot ≤ s.writes ∧
    (snapshot = s.writes → ∃ drawn, ArtifactRequests.IsNew s.store drawn ∧
      nextNarrative s.store p.deductionId drawn = (artifactId, version))

structure ArtifactRequests.Sound (s : ArtifactRequests) : Prop where
  consistent : s.store.Consistent
  made : ∀ answer ∈ s.answers, ∀ artifactId version, answer.makes artifactId version = true →
    (s.store.versions.lookup (artifactId, version)).isSome = true
  once : ∀ artifactId version, (s.answers.filter (·.makes artifactId version)).length ≤ 1
  outrun : ∀ artifactId expected, .outrun artifactId expected ∈ s.answers →
    ∃ answer ∈ s.answers, answer.makes artifactId (expected + 1) = true
  tasks : ∀ task ∈ s.tasks, task.SoundIn s

theorem ArtifactRequests.Sound.histories {s : ArtifactRequests} (hs : s.Sound) : s.Histories :=
  ⟨hs.consistent.exact, hs.once, hs.outrun⟩

/-- An answer that makes no version. -/
structure ArtifactAnswer.Idle (s : ArtifactRequests) (answer : ArtifactAnswer) : Prop where
  makes : ∀ artifactId version, answer.makes artifactId version = false
  outrun : ∀ artifactId expected, answer = .outrun artifactId expected →
    ∃ winner ∈ s.answers, winner.makes artifactId (expected + 1) = true

/-- **All that a step can do.** -/
inductive Effect (s t : ArtifactRequests) : Prop
  /-- The request goes on. -/
  | goesOn (hstore : t.store = s.store) (hwrites : t.writes = s.writes)
      (hanswers : t.answers = s.answers)
      (htasks : ∀ task ∈ t.tasks, task ∈ s.tasks ∨ task.SoundIn s)
  /-- It ends without an effect. -/
  | ends (answer : ArtifactAnswer) (hidle : answer.Idle s) (hstore : t.store = s.store)
      (hwrites : t.writes = s.writes) (hanswers : t.answers = answer :: s.answers)
      (htasks : t.tasks ⊆ s.tasks)
  /-- It makes a version. -/
  | makes (answer : ArtifactAnswer) (artifactId : ArtifactId) (version : Nat)
      (hmakes : ∀ other number, answer.makes other number = true ↔
        other = artifactId ∧ number = version)
      (hwrote : Wrote s.store t.store artifactId version) (hconsistent : t.store.Consistent)
      (hknown : ∀ deductionId, (s.store.deductions.lookup deductionId).isSome = true →
        (t.store.deductions.lookup deductionId).isSome = true)
      (hwrites : t.writes = s.writes + 1) (hanswers : t.answers = answer :: s.answers)
      (htasks : t.tasks ⊆ s.tasks)
  /-- Another transaction is committed. -/
  | other (deductions : Assoc DeductionId DeductionRecord)
      (hstore : t.store = { s.store with deductions })
      (hknown : ∀ deductionId, (s.store.deductions.lookup deductionId).isSome = true →
        (deductions.lookup deductionId).isSome = true)
      (hwrites : t.writes = s.writes + 1) (hanswers : t.answers = s.answers)
      (htasks : t.tasks ⊆ s.tasks)

section Effects

variable {s t : ArtifactRequests}

theorem Effect.keepsVersions (h : Effect s t) : s.KeepsVersions t := by
  intro key row hrow
  cases h with
  | goesOn hstore => rw [hstore]; exact hrow
  | ends answer hidle hstore => rw [hstore]; exact hrow
  | makes answer artifactId version hmakes hwrote => exact hwrote.keeps hrow
  | other deductions hstore => rw [hstore]; exact hrow

/-- What a request in flight relies on stays, when the answers grow and the counter of writes moves
    only with the tables. -/
theorem ArtifactTask.SoundIn.mono {task : ArtifactTask} (h : task.SoundIn s)
    (hartifacts : ∀ artifactId, t.store.current artifactId = s.store.current artifactId)
    (hanswers : s.answers ⊆ t.answers)
    (hknown : ∀ deductionId, (s.store.deductions.lookup deductionId).isSome = true →
      (t.store.deductions.lookup deductionId).isSome = true)
    (hwrites : s.writes < t.writes ∨ s.writes = t.writes ∧ t.store = s.store) :
    task.SoundIn t := by
  cases task with
  | adding artifactId request now =>
    obtain ⟨hone, hle, hmade⟩ := h
    refine ⟨hone, by rw [hartifacts]; exact hle, fun hlt => ?_⟩
    rw [hartifacts] at hlt
    obtain ⟨answer, hanswer, hmakes⟩ := hmade hlt
    exact ⟨answer, hanswers hanswer, hmakes⟩
  | persisting p => exact hknown _ h
  | selected p artifactId version snapshot =>
    obtain ⟨hdeduction, hle, hcurrent⟩ := h
    rcases hwrites with hlt | ⟨heq, hstore⟩
    · exact ⟨hknown _ hdeduction, by omega, fun h => by omega⟩
    · refine ⟨hknown _ hdeduction, by omega, fun h => ?_⟩
      rw [hstore]
      exact hcurrent (h.trans heq.symm)

/-- **Every step keeps the invariant.** -/
theorem Effect.sound (hs : s.Sound) (h : Effect s t) : t.Sound := by
  cases h with
  | goesOn hstore hwrites hanswers htasks =>
    have hmono : ∀ task : ArtifactTask, task.SoundIn s → task.SoundIn t := fun task htask =>
      htask.mono (fun _ => by rw [hstore]) (by rw [hanswers]; exact List.Subset.refl _)
        (fun _ h => by rw [hstore]; exact h) (Or.inr ⟨hwrites.symm, hstore⟩)
    refine ⟨by rw [hstore]; exact hs.consistent, by rw [hstore, hanswers]; exact hs.made,
      by rw [hanswers]; exact hs.once, by rw [hanswers]; exact hs.outrun, fun task htask => ?_⟩
    rcases htasks task htask with hold | hnew
    · exact hmono task (hs.tasks task hold)
    · exact hmono task hnew
  | ends answer hidle hstore hwrites hanswers htasks =>
    have hgrow : s.answers ⊆ t.answers := by
      rw [hanswers]
      exact List.subset_cons_self _ _
    refine ⟨by rw [hstore]; exact hs.consistent, fun made hmade artifactId version hmakes => ?_,
      fun artifactId version => ?_, fun artifactId expected houtrun => ?_, fun task htask => ?_⟩
    · rw [hanswers, List.mem_cons] at hmade
      rw [hstore]
      rcases hmade with rfl | hmade
      · rw [hidle.makes] at hmakes
        cases hmakes
      · exact hs.made made hmade artifactId version hmakes
    · rw [hanswers, List.filter_cons_of_neg (by rw [hidle.makes]; decide)]
      exact hs.once artifactId version
    · rw [hanswers, List.mem_cons] at houtrun
      have hwinner : ∃ winner ∈ s.answers, winner.makes artifactId (expected + 1) = true := by
        rcases houtrun with hthis | hbefore
        · exact hidle.outrun artifactId expected hthis.symm
        · exact hs.outrun artifactId expected hbefore
      obtain ⟨winner, hmem, hmakes⟩ := hwinner
      exact ⟨winner, hgrow hmem, hmakes⟩
    · exact (hs.tasks task (htasks htask)).mono (fun _ => by rw [hstore]) hgrow
        (fun _ h => by rw [hstore]; exact h) (Or.inr ⟨hwrites.symm, hstore⟩)
  | makes answer artifactId version hmakes hwrote hconsistent hknown hwrites hanswers htasks =>
    have hgrow : s.answers ⊆ t.answers := by
      rw [hanswers]
      exact List.subset_cons_self _ _
    obtain ⟨row, hversions⟩ := hwrote.versions
    refine ⟨hconsistent, fun made hmade other number hother => ?_, fun other number => ?_,
      fun other expected houtrun => ?_, fun task htask => ?_⟩
    · rw [hanswers, List.mem_cons] at hmade
      rw [hversions]
      rcases hmade with rfl | hmade
      · obtain ⟨rfl, rfl⟩ := (hmakes other number).mp hother
        rw [if_pos rfl]
        rfl
      · split
        · rfl
        · exact hs.made made hmade other number hother
    · rw [hanswers]
      by_cases hthis : answer.makes other number = true
      · -- the version was not stored, so none of the answers before has made it
        obtain ⟨rfl, rfl⟩ := (hmakes other number).mp hthis
        have hnone : s.answers.filter (·.makes other number) = [] := by
          rw [List.filter_eq_nil_iff]
          intro made hmade hsame
          have hsome := hs.made made hmade other number hsame
          rw [hwrote.absent] at hsome
          cases hsome
        rw [List.filter_cons_of_pos hthis, hnone]
        exact Nat.le_refl _
      · rw [List.filter_cons_of_neg hthis]
        exact hs.once other number
    · rw [hanswers, List.mem_cons] at houtrun
      rcases houtrun with hthis | hbefore
      · have hnot : answer.makes artifactId version = true := (hmakes _ _).mpr ⟨rfl, rfl⟩
        rw [← hthis] at hnot
        cases hnot
      · obtain ⟨winner, hmem, hwins⟩ := hs.outrun other expected hbefore
        exact ⟨winner, hgrow hmem, hwins⟩
    · have hbefore := hs.tasks task (htasks htask)
      cases task with
      | adding other request now =>
        obtain ⟨hone, hle, hmade⟩ := hbefore
        refine ⟨hone, Nat.le_trans hle (hwrote.current_le other), fun hlt => ?_⟩
        by_cases hmoved : request.expectedCurrentVersion < s.store.current other
        · obtain ⟨winner, hmem, hwins⟩ := hmade hmoved
          exact ⟨winner, hgrow hmem, hwins⟩
        · -- the version that the request expects is replaced in this step
          have hnext := hwrote.next
          rw [hwrote.current] at hlt
          split at hlt
          · rename_i heq
            subst heq
            refine ⟨answer, by rw [hanswers]; exact List.mem_cons_self, ?_⟩
            exact (hmakes _ _).mpr ⟨rfl, by omega⟩
          · exact absurd hlt hmoved
      | persisting p => exact hknown _ hbefore
      | selected p other number snapshot =>
        obtain ⟨hdeduction, hle, -⟩ := hbefore
        exact ⟨hknown _ hdeduction, by omega, fun h => by omega⟩
  | other deductions hstore hknown hwrites hanswers htasks =>
    have hcurrent : ∀ artifactId, t.store.current artifactId = s.store.current artifactId := by
      intro artifactId
      rw [hstore]
      rfl
    refine ⟨?_, by rw [hstore, hanswers]; exact hs.made, by rw [hanswers]; exact hs.once,
      by rw [hanswers]; exact hs.outrun, fun task htask => ?_⟩
    · rw [hstore]
      exact ⟨hs.consistent.exact, hs.consistent.stored, hs.consistent.numbered,
        hs.consistent.owned, hs.consistent.single⟩
    · exact (hs.tasks task (htasks htask)).mono hcurrent
        (by rw [hanswers]; exact List.Subset.refl _)
        (fun _ h => by rw [hstore]; exact hknown _ h) (Or.inl (by omega))

end Effects

/-! ## 5. The steps -/

section Steps

variable {s t : ArtifactRequests} {world : Surroundings} {artifactId drawn : ArtifactId}
  {now : DateTime}

theorem answered_iff (answer : ArtifactAnswer) (h : t.answers = answer :: s.answers) :
    s.Answered t ↔ answer.Law s.store t.store := by
  refine ⟨fun hall => hall answer h, fun hlaw other hother => ?_⟩
  rw [h] at hother
  obtain ⟨rfl, -⟩ := List.cons.inj hother
  exact hlaw

theorem answered_of_same (h : t.answers = s.answers) : s.Answered t := by
  intro answer hanswer
  rw [h] at hanswer
  exact absurd hanswer.symm (List.cons_ne_self _ _)

theorem idle_refused (e : ArtifactError) : (ArtifactAnswer.refused e).Idle s :=
  ⟨fun _ _ => rfl, fun _ _ h => (nomatch h)⟩

variable (world) in
theorem create_effect {request : CreateArtifactRequest} {createdBy : ActorRef} (hs : s.Sound) :
    Effect s (s.create world request createdBy drawn now) ∧
      s.Answered (s.create world request createdBy drawn now) := by
  unfold ArtifactRequests.create
  split
  · rename_i e _
    exact ⟨.ends _ (idle_refused e) rfl rfl rfl (List.Subset.refl _),
      (answered_iff (.refused e) rfl).mpr rfl⟩
  · split
    · rename_i e _
      exact ⟨.ends _ (idle_refused e) rfl rfl rfl (List.Subset.refl _),
        (answered_iff (.refused e) rfl).mpr rfl⟩
    · rename_i ownerPluginId _ store hstore
      obtain ⟨hwrote, hnarratives, hversions, hdeductions⟩ := insertPreparedArtifact_wrote hstore
      refine ⟨.makes (.created drawn) drawn 1 (fun other number => ?_) hwrote
        (hwrote.consistent hs.consistent hnarratives hversions)
        (fun deductionId h => ?_) rfl rfl (List.Subset.refl _),
        (answered_iff (.created drawn) rfl).mpr ((hwrote.current drawn).trans (if_pos rfl))⟩
      · rw [ArtifactAnswer.makes, Bool.and_eq_true, beq_iff_eq, beq_iff_eq, eq_comm]
      · show (store.deductions.lookup deductionId).isSome = true
        rw [hdeductions]
        exact h

/-- A request that passes its checks expects the current version. -/
theorem checkArtifactVersion_ok {s : ArtifactStore} {request : CreateArtifactVersionRequest}
    (hs : s.Exact) (h : checkArtifactVersion s world artifactId request = .ok ()) :
    1 ≤ request.expectedCurrentVersion ∧ request.expectedCurrentVersion = s.current artifactId := by
  unfold checkArtifactVersion at h
  cases hvalid : validateArtifactVersionRequest request with
  | error e =>
    rw [hvalid] at h
    cases h
  | ok =>
    rw [hvalid] at h
    cases hrow : s.artifacts.lookup artifactId with
    | none =>
      rw [hrow] at h
      cases h
    | some row =>
      have hcurrent : s.current artifactId = row.currentVersion := by
        rw [ArtifactStore.current, hrow]
        rfl
      rw [hrow] at h
      cases hversion : s.versions.lookup (artifactId, row.currentVersion) with
      | none =>
        simp only [hversion, Option.isNone_none, if_true] at h
        cases h
      | some version =>
        have hone := (hs artifactId row.currentVersion).mp (by rw [hversion]; rfl)
        by_cases hexpected : row.currentVersion = request.expectedCurrentVersion
        · exact ⟨by omega, by omega⟩
        · simp only [hversion, Option.isNone_some, Bool.false_eq_true, if_false,
            ne_eq, hexpected, not_false_eq_true, if_true] at h
          cases h

variable (world) in
theorem createVersion_effect {request : CreateArtifactVersionRequest} (hs : s.Sound) :
    Effect s (s.createVersion world artifactId request now) ∧
      s.Answered (s.createVersion world artifactId request now) := by
  unfold ArtifactRequests.createVersion
  split
  · rename_i e _
    exact ⟨.ends _ (idle_refused e) rfl rfl rfl (List.Subset.refl _),
      (answered_iff (.refused e) rfl).mpr rfl⟩
  · rename_i hchecked
    obtain ⟨hone, hcurrent⟩ := checkArtifactVersion_ok hs.consistent.exact hchecked
    refine ⟨.goesOn rfl rfl rfl fun task htask => ?_, answered_of_same rfl⟩
    rcases List.mem_append.mp htask with hold | hnew
    · exact Or.inl hold
    · obtain rfl := List.mem_singleton.mp hnew
      exact Or.inr ⟨hone, Nat.le_of_eq hcurrent, fun hlt => by omega⟩

theorem persist_effect {deductionId : DeductionId} :
    Effect s (s.persist world deductionId now) ∧
      (s.Answered (s.persist world deductionId now) ↔
        s.Permits (.persist world deductionId now)) := by
  unfold ArtifactRequests.persist ArtifactRequests.Permits
  dsimp only
  cases hblock : completedBlock s.store deductionId with
  | error e =>
    dsimp only
    refine ⟨.ends (.notCompleted deductionId e) ⟨fun _ _ => rfl, fun _ _ h => (nomatch h)⟩ rfl rfl
      rfl (List.Subset.refl _), iff_of_true
        ((answered_iff (.notCompleted deductionId e) rfl).mpr ⟨rfl, ?_⟩) fun h => ?_⟩
    swap
    · cases h
    unfold completedBlock at hblock
    split at hblock
    · rename_i hlookup
      rw [hlookup]
      rfl
    · rename_i record hlookup
      rw [hlookup]
      split at hblock
      · rename_i hnone
        exact hnone
      · cases hblock
  | ok found =>
    obtain ⟨sessionThreadId, block⟩ := found
    dsimp only
    unfold resolveActiveArtifactType
    cases htype : world.types narrativeType with
    | none =>
      refine ⟨.ends (.notPersisted deductionId _) ⟨fun _ _ => rfl, fun _ _ h => (nomatch h)⟩ rfl
        rfl rfl (List.Subset.refl _), iff_of_false (fun h => ?_) fun h => ?_⟩
      · exact (answered_iff (.notPersisted deductionId _) rfl).mp h
      · cases h rfl
    | some provider =>
      refine ⟨.goesOn rfl rfl rfl fun task htask => ?_,
        iff_of_true (answered_of_same rfl) fun _ => rfl⟩
      rcases List.mem_append.mp htask with hold | hnew
      · exact Or.inl hold
      · obtain rfl := List.mem_singleton.mp hnew
        right
        show (s.store.deductions.lookup deductionId).isSome = true
        unfold completedBlock at hblock
        split at hblock
        · cases hblock
        · rename_i record hlookup
          rw [hlookup]
          rfl

/-- What a step of a request in flight asks for. -/
def ArtifactTask.Allows (s : ArtifactRequests) : ArtifactTask → Prop
  | .selected p _ _ snapshot => snapshot = s.writes ∧
    ∀ narrative ∈ s.store.narratives.lookup p.deductionId,
      narrative.currentVersion = s.store.current narrative.artifactId
  | _ => True

/-- **The step of a request in flight**, whatever the other requests are. -/
theorem proceed_effect {task : ArtifactTask} {tasks : List ArtifactTask} (hs : s.Sound)
    (hnew : ArtifactRequests.IsNew s.store drawn) (htask : task.SoundIn s)
    (htasks : tasks ⊆ s.tasks) :
    Effect s (ArtifactRequests.proceed { s with tasks } drawn task) ∧
      (s.Answered (ArtifactRequests.proceed { s with tasks } drawn task) ↔ task.Allows s) := by
  cases task with
  | adding artifactId request now =>
    obtain ⟨hone, hle, hmade⟩ := htask
    rw [ArtifactRequests.proceed]
    cases hadd : addArtifactVersion s.store artifactId request now with
    | ok store =>
      obtain ⟨hwrote, hnarratives, hversions, hdeductions⟩ := addArtifactVersion_wrote hadd
      refine ⟨.makes (.added artifactId request.expectedCurrentVersion) artifactId _
        (fun other number => ?_) hwrote (hwrote.consistent hs.consistent hnarratives hversions)
        (fun deductionId h => ?_) rfl rfl htasks,
        iff_of_true ((answered_iff (.added artifactId _) rfl).mpr
          ((hwrote.current artifactId).trans (if_pos rfl))) trivial⟩
      · rw [ArtifactAnswer.makes, Bool.and_eq_true, beq_iff_eq, beq_iff_eq, eq_comm]
      · show (store.deductions.lookup deductionId).isSome = true
        rw [hdeductions]
        exact h
    | error e =>
      dsimp only
      by_cases hconflict : e = versionConflict
      · subst hconflict
        rw [if_pos rfl]
        refine ⟨.ends (.outrun artifactId _) ⟨fun _ _ => rfl, fun other expected h => ?_⟩ rfl rfl
          rfl htasks, iff_of_true ((answered_iff (.outrun artifactId _) rfl).mpr rfl) trivial⟩
        obtain ⟨rfl, rfl⟩ := ArtifactAnswer.outrun.inj h
        have hmoved := addArtifactVersion_outrun hadd (by omega)
        exact hmade (by omega)
      · rw [if_neg hconflict]
        exact ⟨.ends _ (idle_refused e) rfl rfl rfl htasks,
          iff_of_true ((answered_iff (.refused e) rfl).mpr rfl) trivial⟩
  | persisting p =>
    refine ⟨.goesOn rfl rfl rfl fun task hmem => ?_, iff_of_true (answered_of_same rfl) trivial⟩
    rcases List.mem_append.mp hmem with hold | hthis
    · exact Or.inl (htasks hold)
    · obtain rfl := List.mem_singleton.mp hthis
      exact Or.inr ⟨htask, Nat.le_refl _, fun _ => ⟨drawn, hnew, rfl⟩⟩
  | selected p artifactId version snapshot =>
    obtain ⟨hknown, -, hselected⟩ := htask
    rw [ArtifactRequests.proceed]
    have hidle : ∀ e, (ArtifactAnswer.notPersisted p.deductionId e).Idle s :=
      fun e => ⟨fun _ _ => rfl, fun _ _ h => (nomatch h)⟩
    by_cases hsnapshot : snapshot = s.writes
    · obtain ⟨free, hfree, hnext⟩ := hselected hsnapshot
      obtain ⟨hleaves, hcommits⟩ := writeNarrative_spec hs.consistent hfree hknown hnext
      rw [if_neg (not_not.mpr hsnapshot)]
      have hallows : ArtifactTask.Allows s (.selected p artifactId version snapshot) ↔
          ∃ t, writeNarrative s.store p artifactId version = .ok t := by
        rw [hcommits]
        exact and_iff_right hsnapshot
      rw [hallows]
      cases hwrite : writeNarrative s.store p artifactId version with
      | error e =>
        refine ⟨.ends _ (hidle e) rfl rfl rfl htasks, iff_of_false (fun h => ?_) fun h => ?_⟩
        · exact (answered_iff (.notPersisted p.deductionId _) rfl).mp h
        · obtain ⟨t, ht⟩ := h
          cases ht
      | ok store =>
        have hpersisted := hleaves store hwrite
        refine ⟨.makes (.persisted p.deductionId artifactId version) artifactId version
          (fun other number => ?_) hpersisted.wrote
          (hpersisted.consistent hs.consistent hfree hnext) hpersisted.known rfl rfl htasks,
          iff_of_true ((answered_iff (.persisted p.deductionId artifactId version) rfl).mpr
            ⟨?_, ?_⟩) ⟨store, rfl⟩⟩
        · rw [ArtifactAnswer.makes, Bool.and_eq_true, beq_iff_eq, beq_iff_eq, eq_comm]
        · obtain ⟨narrative, ⟨hartifact, hversion⟩, hnarratives⟩ := hpersisted.narrative
          show (store.narratives.lookup p.deductionId).map _ = _
          rw [hnarratives, if_pos rfl, Option.map_some, hartifact, hversion]
        · exact (hpersisted.wrote.current artifactId).trans (if_pos rfl)
    · rw [if_pos hsnapshot]
      refine ⟨.ends _ (hidle _) rfl rfl rfl htasks, iff_of_false (fun h => ?_) fun h => ?_⟩
      · exact (answered_iff (.notPersisted p.deductionId _) rfl).mp h
      · exact hsnapshot h.1

/-- **Every step has one of the effects, and answers as it should exactly when the condition is
    met.** -/
theorem step_effect {a : ArtifactAction} (hs : s.Sound) (ha : s.step a = some t) :
    Effect s t ∧ (s.Answered t ↔ s.Permits a) := by
  cases a with
  | create world request createdBy drawn now =>
    rw [ArtifactRequests.step] at ha
    split at ha
    · obtain rfl := Option.some.inj ha
      obtain ⟨heffect, hanswered⟩ := create_effect world hs
      exact ⟨heffect, iff_of_true hanswered trivial⟩
    · cases ha
  | createVersion world artifactId request now =>
    obtain rfl := Option.some.inj ha
    obtain ⟨heffect, hanswered⟩ := createVersion_effect world hs
    exact ⟨heffect, iff_of_true hanswered trivial⟩
  | persist world deductionId now =>
    obtain rfl := Option.some.inj ha
    exact persist_effect
  | proceed task drawn =>
    rw [ArtifactRequests.step] at ha
    split at ha
    · rename_i hnew
      obtain ⟨found, hfound, rfl⟩ := Option.map_eq_some_iff.mp ha
      have hmem : found ∈ s.tasks := List.mem_of_getElem? hfound
      have hallows : s.Permits (.proceed task drawn) ↔ found.Allows s := by
        unfold ArtifactRequests.Permits ArtifactTask.Allows
        dsimp only
        rw [hfound]
        cases found <;> exact Iff.rfl
      rw [hallows]
      exact proceed_effect hs hnew (hs.tasks found hmem) (List.eraseIdx_subset)
    · cases ha
  | drop task =>
    rw [ArtifactRequests.step] at ha
    obtain ⟨found, hfound, rfl⟩ := Option.map_eq_some_iff.mp ha
    refine ⟨.goesOn rfl rfl rfl fun task htask => Or.inl (List.eraseIdx_subset htask), ?_⟩
    exact iff_of_true (answered_of_same rfl) trivial
  | elsewhere deduction =>
    cases deduction with
    | none =>
      obtain rfl := Option.some.inj ha
      exact ⟨.other s.store.deductions rfl (fun _ h => h) rfl rfl (List.Subset.refl _),
        iff_of_true (answered_of_same rfl) trivial⟩
    | some changed =>
      obtain ⟨deductionId, record⟩ := changed
      obtain rfl := Option.some.inj ha
      refine ⟨.other _ rfl (fun other h => ?_) rfl rfl (List.Subset.refl _),
        iff_of_true (answered_of_same rfl) trivial⟩
      rw [lookup_insert']
      split
      · rfl
      · exact h

end Steps

/-! ## 6. Runs -/

/-- What a database holds when Core starts; no request is in flight. -/
def ArtifactRequests.start (store : ArtifactStore) : ArtifactRequests := { store }

theorem ArtifactRequests.sound_start {store : ArtifactStore} (h : store.Consistent) :
    (ArtifactRequests.start store).Sound :=
  ⟨h, fun _ h => (nomatch h), fun _ _ => Nat.zero_le _, fun _ _ h => (nomatch h),
    fun _ h => (nomatch h)⟩

instance (s : ArtifactRequests) (a : ArtifactAction) : Decidable (s.Permits a) := by
  unfold ArtifactRequests.Permits
  split
  · exact inferInstance
  · split <;> exact inferInstance
  · exact inferInstance

/-! ## 7. A narrative that its user edits -/

namespace Narratives

def world : Surroundings where
  types artifactType :=
    if artifactType = narrativeType then some ("uprava.trace-artifacts", 1)
    else if artifactType = "uprava.review" then some ("uprava.review-artifacts", 1)
    else none
  scopeExists _ := true
  blockJson block := .string block.result.conclusion
  provenanceJson provenance := .string provenance.provider

/-- A completed deduction. -/
def block : DeductionBlock where
  deductionId := "ded"
  scopeRef := .string "session"
  result := {
    title := "Why the check failed"
    conclusion := "The fixture was stale."
    certainty := .high
    steps := []
    assumptions := []
    unknowns := []
    alternatives := [] }
  provenance := {
    provider := "codex"
    model := none
    sessionThreadId := "ses"
    schemaVersion := "1"
    evidenceSnapshotHash := "sha256:0"
    generatedAt := 0 }

def store : ArtifactStore where
  artifacts := ∅
  versions := ∅
  narratives := ∅
  narrativeVersions := ∅
  deductions := AList.singleton "ded" ⟨"ses", some block, none, 0⟩

theorem store_consistent : store.Consistent := by
  refine ⟨fun artifactId version => iff_of_false (fun h => (nomatch h)) fun h => ?_,
    fun _ _ h => (nomatch h), fun _ _ h => (nomatch h), fun _ _ h => (nomatch h),
    fun _ _ _ _ h => (nomatch h)⟩
  have hnone : store.current artifactId = 0 := rfl
  omega

def content (text : String) : ArtifactContent where
  schemaVersion := 1
  payload := .string text
  fallbackText := text
  sourceVersion := none
  sourceRefs := []
  evidenceRefs := []
  causeRefs := []
  traceRefs := []
  provenance := .null

/-- The deduction is stored, from the request to its commit. -/
def persisted (drawn : ArtifactId) : List ArtifactAction :=
  [.persist world "ded" 1, .proceed 0 drawn, .proceed 0 "unused"]

/-- A review is created, two requests add a version to it at once, and the deduction is stored
    twice. -/
def sideBySide : List ArtifactAction :=
  [.create world ⟨content "first", "uprava.review", "Review", .session "ses"⟩ (.localUser none)
      "review" 1,
    .createVersion world "review" ⟨content "mine", 1⟩ 2,
    .createVersion world "review" ⟨content "yours", 1⟩ 2,
    .proceed 1 "unused", .proceed 0 "unused"] ++ persisted "narrative" ++ persisted "other"

/-- The user edits the narrative between the two times it is stored. -/
def edited : List ArtifactAction :=
  persisted "narrative" ++
    [.createVersion world "narrative" ⟨content "edited", 1⟩ 2, .proceed 0 "unused",
      .persist world "ded" 3, .proceed 0 "other"]

end Narratives

end Uprava.Core.Artifacts
