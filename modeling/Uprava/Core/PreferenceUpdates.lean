/-
  File:      Uprava/Core/PreferenceUpdates.lean
  Subject:   Updates of the contribution preferences, side by side with one another and with
             changes of the plugins.

  An update reads the active manifests, then the preferences, checks its request against what it
  has read, and only then writes, in one statement that compares the revision once more.

  * `Serial`                  -- the updates stored for a target met its revisions one after the
    other;
  * **`preferences_serialised`** -- so it is in every run, and an update that is refused is not
    among them.
-/
import Uprava.Core.EffectiveContributions
import Uprava.Lib.Run

namespace Uprava.Core.Plugins

open Uprava.Protocol
open Uprava.Lib (Assoc run run_inv run_append_eq_some)
open Uprava.Lib.Assoc (lookup_insert' lookup_erase')

/-! ## 1. The update -/

structure UpdateContributionTargetPreferencesRequest where
  expectedRevision : Nat
  orderedContributions : List ContributionRef
  disabledContributions : List ContributionRef
  deriving DecidableEq

inductive PreferenceError where
  | notFound (code message : String)
  | conflict (code message : String)
  | badRequest (code message : String)
  deriving DecidableEq

section Model

variable {Rest Version : Type}

def contributionMatches (contribution : EffectiveContribution Rest) (reference : ContributionRef) :
    Bool :=
  contribution.pluginId == reference.pluginId &&
    contribution.contributionId == reference.contributionId

/-- `seen` are the keys of the references before. -/
def validateContributionReferences (resolution : ContributionTargetResolution Rest)
    (seen : List String) : List ContributionRef → Except PreferenceError Unit
  | [] => .ok ()
  | reference :: rest =>
    let key := contributionRefKey reference
    if seen.contains key ||
        !(resolution.contributions.any (contributionMatches · reference)) then
      .error (.badRequest "plugin.contribution_preference_invalid"
        "Plugin contribution preference contains an unknown or duplicate entry")
    else validateContributionReferences resolution (key :: seen) rest

def preferenceConflict : PreferenceError :=
  .conflict "plugin.contribution_preference_conflict"
    "Plugin contribution preferences changed; reload and retry"

/-- `u64::checked_add(1)`. -/
def nextRevision (revision : Nat) : Except PreferenceError Nat :=
  if revision + 1 < 2 ^ 64 then .ok (revision + 1)
  else .error (.badRequest "plugin.contribution_revision_invalid"
    "Plugin contribution preference revision is exhausted")

/-- `i64::try_from`. -/
def storableRevision (revision : Nat) : Except PreferenceError Nat :=
  if revision < 2 ^ 63 then .ok revision
  else .error (.badRequest "plugin.contribution_revision_invalid"
    "Plugin contribution preference revision is invalid")

variable (host : PluginSurroundings Rest Version)

/-- What an update checks of what it has read; it answers the next revision. -/
def checkUpdate (manifests : List (PluginManifest (PluginDetails Rest)))
    (preferences : Assoc String StoredContributionPreference) (targetId : String)
    (request : UpdateContributionTargetPreferencesRequest) : Except PreferenceError Nat :=
  match (snapshotOf host manifests preferences 0).resolutions.find? (·.targetId == targetId) with
  | none => .error (.notFound "plugin.contribution_target_not_found"
      "Plugin contribution target not found")
  | some resolution =>
    if resolution.revision ≠ request.expectedRevision then .error preferenceConflict
    else do
      validateContributionReferences resolution [] request.orderedContributions
      validateContributionReferences resolution [] request.disabledContributions
      let next ← nextRevision request.expectedRevision
      let stored ← storableRevision next
      let _ ← storableRevision request.expectedRevision
      return stored

/-- The statement: a row is inserted, or the one with the expected revision is replaced. -/
def writePreference (preferences : Assoc String StoredContributionPreference) (targetId : String)
    (request : UpdateContributionTargetPreferencesRequest) (next : Nat) :
    Option (Assoc String StoredContributionPreference) :=
  let row : StoredContributionPreference :=
    ⟨next, request.orderedContributions, request.disabledContributions⟩
  match preferences.lookup targetId with
  | none => some (preferences.insert targetId row)
  | some old =>
    if old.revision = request.expectedRevision then some (preferences.insert targetId row) else none

/-! ## 2. Updates under way -/

/-- What an update does next. -/
inductive UpdatePosition (Rest : Type) where
  | manifests
  | preferences (manifests : List (PluginManifest (PluginDetails Rest)))
  | write (next : Nat)
  | audit

structure UpdateCall (Rest : Type) where
  targetId : String
  request : UpdateContributionTargetPreferencesRequest
  position : UpdatePosition Rest

inductive UpdateAnswer where
  | updated
  | auditFailed
  | refused (error : PreferenceError)
  deriving DecidableEq

/-- An update whose row was stored. -/
structure StoredUpdate where
  call : Nat
  targetId : String
  request : UpdateContributionTargetPreferencesRequest
  deriving DecidableEq

/-- The database, the updates under way, and what was stored and answered so far. -/
structure UpdateState where
  db : PluginDatabase host
  nextCall : Nat
  calls : Assoc Nat (UpdateCall Rest)
  stored : List StoredUpdate
  answers : List (Nat × UpdateAnswer)

inductive UpdateAction (Rest : Type) where
  | request (targetId : String) (request : UpdateContributionTargetPreferencesRequest)
  | proceed (call : Nat) (auditFails : Bool)
  | abandon (call : Nat)
  | register (bundled : BundledPlugin Rest)
  | setDesiredState (pluginId : PluginId) (desiredState : PluginDesiredState) (now : DateTime)

variable {host}

theorem setPluginDesiredState_packages [LinearOrder Version]
    (s : PluginRegistry (PluginDetails Rest)) (pluginId : PluginId)
    (desiredState : PluginDesiredState) (now : DateTime) :
    (setPluginDesiredState host.pluginHost s pluginId desiredState now).1.packages =
      s.packages := by
  unfold setPluginDesiredState
  split
  · rfl
  · split
    · rfl
    · split <;> rfl

/-- A plugin enabled or disabled. -/
def PluginDatabase.setDesired [LinearOrder Version] (db : PluginDatabase host)
    (pluginId : PluginId) (desiredState : PluginDesiredState) (now : DateTime) :
    PluginDatabase host where
  registry := (setPluginDesiredState host.pluginHost db.registry pluginId desiredState now).1
  preferences := db.preferences
  checked := by
    rw [setPluginDesiredState_packages]
    exact db.checked

def PluginDatabase.revision (db : PluginDatabase host) (targetId : String) : Nat :=
  ((db.preferences.lookup targetId).getD .none).revision

/-- The update ends with an answer. -/
def UpdateState.answer (s : UpdateState host) (call : Nat) (answer : UpdateAnswer) :
    UpdateState host :=
  { s with calls := s.calls.erase call, answers := s.answers ++ [(call, answer)] }

def UpdateState.goOn (s : UpdateState host) (call : Nat) (update : UpdateCall Rest)
    (position : UpdatePosition Rest) : UpdateState host :=
  { s with calls := s.calls.insert call { update with position } }

/-- The row of an update is stored. -/
def UpdateState.store (s : UpdateState host) (call : Nat) (update : UpdateCall Rest)
    (preferences : Assoc String StoredContributionPreference) : UpdateState host :=
  { s.goOn call update .audit with
    db := ⟨s.db.registry, preferences, s.db.checked⟩
    stored := s.stored ++ [⟨call, update.targetId, update.request⟩] }

/-- The next step of an update. -/
def UpdateState.proceed (s : UpdateState host) (call : Nat) (auditFails : Bool)
    (update : UpdateCall Rest) : UpdateState host :=
  match update.position with
  | .manifests => s.goOn call update (.preferences s.db.registry.activeManifests)
  | .preferences manifests =>
    match checkUpdate host manifests s.db.preferences update.targetId update.request with
    | .error e => s.answer call (.refused e)
    | .ok next => s.goOn call update (.write next)
  | .write next =>
    match writePreference s.db.preferences update.targetId update.request next with
    | none => s.answer call (.refused preferenceConflict)
    | some preferences => s.store call update preferences
  | .audit => s.answer call (if auditFails then .auditFailed else .updated)

def UpdateState.step [LinearOrder Version] (s : UpdateState host) :
    UpdateAction Rest → Option (UpdateState host)
  | .request targetId request => some
    { s with
      nextCall := s.nextCall + 1
      calls := s.calls.insert s.nextCall ⟨targetId, request, .manifests⟩ }
  | .proceed call auditFails => (s.calls.lookup call).map fun update =>
    s.proceed call auditFails update
  | .abandon call => some { s with calls := s.calls.erase call }
  | .register bundled => some { s with db := (registerBundled bundled s.db).1 }
  | .setDesiredState pluginId desiredState now => some
    { s with db := s.db.setDesired pluginId desiredState now }

def UpdateState.start (db : PluginDatabase host) : UpdateState host := ⟨db, 0, ∅, [], []⟩

/-! ## 3. What is asked of the updates -/

/-- **The updates stored for a target met its revisions one after the other.** -/
structure Serial (start s : UpdateState host) : Prop where
  revision : ∀ targetId, s.db.revision targetId =
    start.db.revision targetId + s.stored.countP (·.targetId = targetId)
  expected : ∀ before u after, s.stored = before ++ u :: after →
    u.request.expectedRevision =
      start.db.revision u.targetId + before.countP (·.targetId = u.targetId)

/-- **Who was stored**: each update at most once; one that was answered with success or failed at
    the audit was, one that was refused was not. -/
structure Answered (s : UpdateState host) : Prop where
  once : (s.stored.map (·.call)).Nodup
  updated : ∀ call answer, (call, answer) ∈ s.answers →
    ((∃ e, answer = .refused e) ↔ call ∉ s.stored.map (·.call))

/-- **What a step does to the preferences**: it leaves them, or it stores one update whose expected
    revision is the current one, and changes the row of its target. -/
def Stores (s t : UpdateState host) : Prop :=
  (t.stored = s.stored ∧ t.db.preferences = s.db.preferences) ∨
    ∃ u : StoredUpdate, t.stored = s.stored ++ [u] ∧
      s.db.revision u.targetId = u.request.expectedRevision ∧
      t.db.preferences = s.db.preferences.insert u.targetId
        ⟨u.request.expectedRevision + 1, u.request.orderedContributions,
          u.request.disabledContributions⟩

/-! ## 4. What one step of an update does -/

variable {start s t : UpdateState host} {targetId : String}
  {request : UpdateContributionTargetPreferencesRequest}

theorem nextRevision_ok {revision next : Nat} (h : nextRevision revision = .ok next) :
    next = revision + 1 := by
  unfold nextRevision at h
  split at h
  · exact (Except.ok.inj h).symm
  · cases h

theorem storableRevision_ok {revision stored : Nat} (h : storableRevision revision = .ok stored) :
    stored = revision := by
  unfold storableRevision at h
  split at h
  · exact (Except.ok.inj h).symm
  · cases h

/-- An update whose check succeeds expects the revision that it has read. -/
theorem checkUpdate_ok {manifests : List (PluginManifest (PluginDetails Rest))}
    {preferences : Assoc String StoredContributionPreference} {next : Nat}
    (h : checkUpdate host manifests preferences targetId request = .ok next) :
    next = request.expectedRevision + 1 ∧
      ((preferences.lookup targetId).getD .none).revision = request.expectedRevision := by
  unfold checkUpdate at h
  split at h
  · cases h
  · rename_i resolution hfound
    obtain ⟨⟨id, draft⟩, -, rfl⟩ := List.mem_map.mp (List.mem_of_find?_eq_some hfound)
    have hid : (resolveTarget preferences (id, draft)).targetId = targetId := by
      simpa using List.find?_some hfound
    obtain rfl : id = targetId := hid
    split at h
    · cases h
    · rename_i hrevision
      refine ⟨?_, not_ne_iff.mp hrevision⟩
      obtain ⟨-, -, h⟩ := bind_eq_ok.mp h
      obtain ⟨-, -, h⟩ := bind_eq_ok.mp h
      obtain ⟨next', hnext, h⟩ := bind_eq_ok.mp h
      obtain ⟨stored, hstored, h⟩ := bind_eq_ok.mp h
      obtain ⟨-, -, h⟩ := bind_eq_ok.mp h
      obtain rfl : stored = next := Except.ok.inj h
      exact (storableRevision_ok hstored).trans (nextRevision_ok hnext)

/-- The statement stores where there is no row, or the row has the expected revision. -/
theorem writePreference_some {preferences preferences' : Assoc String StoredContributionPreference}
    {next : Nat} (h : writePreference preferences targetId request next = some preferences') :
    preferences' = preferences.insert targetId
        ⟨next, request.orderedContributions, request.disabledContributions⟩ ∧
      (preferences.lookup targetId = none ∨
        ((preferences.lookup targetId).getD .none).revision = request.expectedRevision) := by
  unfold writePreference at h
  dsimp only at h
  split at h
  · rename_i hnone
    cases h
    exact ⟨rfl, .inl hnone⟩
  · rename_i old hold
    split at h
    · rename_i hrevision
      cases h
      rw [hold]
      exact ⟨rfl, .inr hrevision⟩
    · cases h

/-- The update goes on before its row is stored; to write only after it met its revision. -/
def Moves (s : UpdateState host) (update : UpdateCall Rest) (position : UpdatePosition Rest) :
    Prop :=
  position ≠ .audit ∧ update.position ≠ .audit ∧ ∀ next, position = .write next →
    next = update.request.expectedRevision + 1 ∧
      s.db.revision update.targetId = update.request.expectedRevision

/-- **What a step of an update does**: it goes on, is refused, stores its row, or is answered after
    the audit. -/
theorem proceed_cases (s : UpdateState host) (call : Nat) (auditFails : Bool)
    (update : UpdateCall Rest) :
    (∃ position, Moves s update position ∧
        s.proceed call auditFails update = s.goOn call update position) ∨
      (update.position ≠ .audit ∧
        ∃ e, s.proceed call auditFails update = s.answer call (.refused e)) ∨
      (∃ next, update.position = .write next ∧
        (s.db.preferences.lookup update.targetId = none ∨
          s.db.revision update.targetId = update.request.expectedRevision) ∧
        s.proceed call auditFails update =
          s.store call update (s.db.preferences.insert update.targetId
            ⟨next, update.request.orderedContributions,
              update.request.disabledContributions⟩)) ∨
      (update.position = .audit ∧ ∃ answer, (∀ e, answer ≠ .refused e) ∧
        s.proceed call auditFails update = s.answer call answer) := by
  obtain ⟨targetId, request, position⟩ := update
  cases position with
  | manifests =>
    exact .inl ⟨.preferences s.db.registry.activeManifests, ⟨nofun, nofun, nofun⟩, rfl⟩
  | preferences manifests =>
    cases hcheck : checkUpdate host manifests s.db.preferences targetId request with
    | error e => exact .inr (.inl ⟨nofun, e, by simp only [UpdateState.proceed, hcheck]⟩)
    | ok next =>
      refine .inl ⟨.write next, ⟨nofun, nofun, fun next' heq => ?_⟩, by
        simp only [UpdateState.proceed, hcheck]⟩
      cases heq
      exact checkUpdate_ok hcheck
  | write next =>
    cases hwrite : writePreference s.db.preferences targetId request next with
    | none =>
      exact .inr (.inl ⟨nofun, preferenceConflict, by simp only [UpdateState.proceed, hwrite]⟩)
    | some preferences =>
      obtain ⟨rfl, hcan⟩ := writePreference_some hwrite
      exact .inr (.inr (.inl ⟨next, rfl, hcan, by simp only [UpdateState.proceed, hwrite]⟩))
  | audit =>
    refine .inr (.inr (.inr ⟨rfl, _, fun e => ?_, rfl⟩))
    split <;> nofun

section Store

variable (s) (id : Nat) (update : UpdateCall Rest)
  (preferences : Assoc String StoredContributionPreference)

@[simp] theorem store_stored : (s.store id update preferences).stored =
    s.stored ++ [⟨id, update.targetId, update.request⟩] := rfl

@[simp] theorem store_calls : (s.store id update preferences).calls =
    s.calls.insert id { update with position := .audit } := rfl

@[simp] theorem store_answers : (s.store id update preferences).answers = s.answers := rfl

@[simp] theorem store_nextCall : (s.store id update preferences).nextCall = s.nextCall := rfl

@[simp] theorem store_preferences :
    (s.store id update preferences).db.preferences = preferences := rfl

/-- The revisions after a row is stored. -/
theorem store_revision (targetId : String) (row : StoredContributionPreference) :
    (s.store id update (s.db.preferences.insert update.targetId row)).db.revision targetId =
      if targetId = update.targetId then row.revision else s.db.revision targetId := by
  unfold PluginDatabase.revision
  rw [store_preferences, lookup_insert']
  split <;> rfl

end Store

/-! ## 5. The books -/

/-- **Which updates are where**: the calls have ids of their own, an answered one is no longer under
    way, and one waits for the audit exactly when its row was stored. -/
structure Booked (s : UpdateState host) : Prop where
  fresh : ∀ id call, s.calls.lookup id = some call → id < s.nextCall
  storedFresh : ∀ id ∈ s.stored.map (·.call), id < s.nextCall
  answeredFresh : ∀ answer ∈ s.answers, answer.1 < s.nextCall
  done : ∀ answer ∈ s.answers, s.calls.lookup answer.1 = none
  audit : ∀ id call, s.calls.lookup id = some call →
    (call.position = .audit ↔ id ∈ s.stored.map (·.call))

/-- An update about to write had met the revision of its target, which can only have grown. -/
def WritesNext (s : UpdateState host) : Prop :=
  ∀ id call next, s.calls.lookup id = some call → call.position = .write next →
    next = call.request.expectedRevision + 1 ∧
      call.request.expectedRevision ≤ s.db.revision call.targetId

structure UpdatesSound (start s : UpdateState host) : Prop where
  serial : Serial start s
  answered : Answered s
  booked : Booked s
  writes : WritesNext s

theorem UpdatesSound.goOn (h : UpdatesSound start s) {id : Nat} {update : UpdateCall Rest}
    (hcall : s.calls.lookup id = some update) {position : UpdatePosition Rest}
    (hmoves : Moves s update position) : UpdatesSound start (s.goOn id update position) := by
  have hlookup : ∀ id' call', (s.goOn id update position).calls.lookup id' = some call' →
      (id' = id ∧ call' = { update with position }) ∨ s.calls.lookup id' = some call' := by
    intro id' call' h'
    rw [UpdateState.goOn, lookup_insert'] at h'
    split at h'
    · rename_i heq
      exact .inl ⟨heq, (Option.some.inj h').symm⟩
    · exact .inr h'
  refine ⟨⟨h.serial.revision, h.serial.expected⟩, ⟨h.answered.once, h.answered.updated⟩,
    ⟨fun id' call' h' => ?_, h.booked.storedFresh, h.booked.answeredFresh, fun answer ha => ?_,
      fun id' call' h' => ?_⟩, fun id' call' next h' hposition => ?_⟩
  · rcases hlookup id' call' h' with ⟨rfl, -⟩ | h'
    · exact h.booked.fresh _ _ hcall
    · exact h.booked.fresh _ _ h'
  · -- an answered update is not the one that goes on
    have hdone := h.booked.done answer ha
    rw [UpdateState.goOn, lookup_insert', if_neg]
    · exact hdone
    · intro heq
      rw [heq, hcall] at hdone
      cases hdone
  · rcases hlookup id' call' h' with ⟨rfl, rfl⟩ | h'
    · exact iff_of_false hmoves.1 fun hmem => hmoves.2.1 ((h.booked.audit _ _ hcall).mpr hmem)
    · exact h.booked.audit _ _ h'
  · rcases hlookup id' call' h' with ⟨rfl, rfl⟩ | h'
    · obtain ⟨hnext, hrevision⟩ := hmoves.2.2 next hposition
      exact ⟨hnext, hrevision.ge⟩
    · exact h.writes _ _ _ h' hposition

theorem lookup_erase_some {id id' : Nat} {call' : UpdateCall Rest}
    (h : (s.calls.erase id).lookup id' = some call') :
    id' ≠ id ∧ s.calls.lookup id' = some call' := by
  rw [lookup_erase'] at h
  split at h
  · cases h
  · rename_i hne
    exact ⟨hne, h⟩

theorem UpdatesSound.erase (h : UpdatesSound start s) (id : Nat) :
    UpdatesSound start { s with calls := s.calls.erase id } := by
  refine ⟨⟨h.serial.revision, h.serial.expected⟩, ⟨h.answered.once, h.answered.updated⟩,
    ⟨fun _ _ h' => h.booked.fresh _ _ (lookup_erase_some h').2, h.booked.storedFresh,
      h.booked.answeredFresh, fun answer ha => ?_,
      fun _ _ h' => h.booked.audit _ _ (lookup_erase_some h').2⟩,
    fun _ _ _ h' => h.writes _ _ _ (lookup_erase_some h').2⟩
  dsimp only
  rw [lookup_erase']
  split
  · rfl
  · exact h.booked.done answer ha

theorem UpdatesSound.answer (h : UpdatesSound start s) {id : Nat} {update : UpdateCall Rest}
    (hcall : s.calls.lookup id = some update) {answer : UpdateAnswer}
    (hanswer : (∃ e, answer = .refused e) ↔ update.position ≠ .audit) :
    UpdatesSound start (s.answer id answer) := by
  have herased := h.erase id
  have hnew : ∀ a ∈ s.answers ++ [(id, answer)], a ∈ s.answers ∨ a = (id, answer) := fun a ha =>
    (List.mem_append.mp ha).imp_right List.mem_singleton.mp
  refine ⟨⟨h.serial.revision, h.serial.expected⟩, ⟨h.answered.once, fun id' answer' ha => ?_⟩,
    ⟨herased.booked.fresh, h.booked.storedFresh, fun a ha => ?_, fun a ha => ?_,
      herased.booked.audit⟩, herased.writes⟩
  · rcases hnew _ ha with ha | heq
    · exact h.answered.updated id' answer' ha
    · cases heq
      exact hanswer.trans (not_congr (h.booked.audit _ _ hcall))
  · rcases hnew a ha with ha | rfl
    · exact h.booked.answeredFresh a ha
    · exact h.booked.fresh _ _ hcall
  · rcases hnew a ha with ha | rfl
    · exact herased.booked.done a ha
    · exact AList.lookup_erase _ _

/-- **An update that is stored meets the revision of its target and moves it by one.** -/
theorem UpdatesSound.store (h : UpdatesSound start s) {id : Nat} {update : UpdateCall Rest}
    (hcall : s.calls.lookup id = some update) {next : Nat}
    (hposition : update.position = .write next)
    (hcan : s.db.preferences.lookup update.targetId = none ∨
      s.db.revision update.targetId = update.request.expectedRevision) :
    s.db.revision update.targetId = update.request.expectedRevision ∧
      next = update.request.expectedRevision + 1 ∧
      UpdatesSound start (s.store id update (s.db.preferences.insert update.targetId
        ⟨next, update.request.orderedContributions,
          update.request.disabledContributions⟩)) := by
  obtain ⟨hnext, hle⟩ := h.writes _ _ _ hcall hposition
  -- a target without a row has revision 0, and then 0 was expected
  have hmeets : s.db.revision update.targetId = update.request.expectedRevision := by
    rcases hcan with hnone | heq
    · have hzero : s.db.revision update.targetId = 0 := by
        rw [PluginDatabase.revision, hnone]
        rfl
      omega
    · exact heq
  have hnotStored : id ∉ s.stored.map (·.call) := fun hmem => by
    have haudit := (h.booked.audit _ _ hcall).mpr hmem
    rw [hposition] at haudit
    cases haudit
  have hlookup : ∀ id' call', (s.calls.insert id { update with position := .audit }).lookup id' =
      some call' → (id' = id ∧ call' = { update with position := .audit }) ∨
        (id' ≠ id ∧ s.calls.lookup id' = some call') := by
    intro id' call' h'
    rw [lookup_insert'] at h'
    split at h'
    · rename_i heq
      exact .inl ⟨heq, (Option.some.inj h').symm⟩
    · rename_i hne
      exact .inr ⟨hne, h'⟩
  refine ⟨hmeets, hnext, ⟨fun targetId => ?_, fun before u after hsplit => ?_⟩,
    ⟨?_, fun id' answer ha => ?_⟩, ⟨fun id' call' h' => ?_, fun id' hid' => ?_,
      h.booked.answeredFresh, fun answer ha => ?_, fun id' call' h' => ?_⟩,
    fun id' call' next' h' hposition' => ?_⟩
  · rw [store_revision, store_stored, List.countP_append, h.serial.revision, hnext]
    have hrevision := h.serial.revision update.targetId
    by_cases heq : targetId = update.targetId
    · subst heq
      rw [if_pos rfl]
      simp only [List.countP_singleton, decide_true, if_true]
      omega
    · rw [if_neg heq]
      simp [Ne.symm heq]
  · rcases List.eq_nil_or_concat after with rfl | ⟨rest, last, rfl⟩
    · obtain ⟨rfl, hlast⟩ := List.append_inj' hsplit rfl
      obtain rfl := (List.cons.inj hlast).1
      exact hmeets.symm.trans (h.serial.revision _)
    · rw [List.concat_eq_append, ← List.cons_append, ← List.append_assoc] at hsplit
      exact h.serial.expected before u rest (List.append_inj' hsplit rfl).1
  · rw [store_stored, List.map_append]
    refine List.nodup_append.mpr ⟨h.answered.once, List.nodup_singleton _, ?_⟩
    intro a ha b hb heq
    obtain rfl := List.mem_singleton.mp hb
    exact hnotStored (heq ▸ ha)
  · rw [h.answered.updated id' answer ha, store_stored, List.map_append,
      List.mem_append, not_or]
    refine ⟨fun hmem => ⟨hmem, fun heq => ?_⟩, And.left⟩
    have hdone := h.booked.done _ ha
    rw [List.mem_singleton.mp heq, hcall] at hdone
    cases hdone
  · rcases hlookup id' call' h' with ⟨rfl, -⟩ | ⟨-, h'⟩
    · exact h.booked.fresh _ _ hcall
    · exact h.booked.fresh _ _ h'
  · rw [store_stored, List.map_append] at hid'
    rcases List.mem_append.mp hid' with hmem | heq
    · exact h.booked.storedFresh _ hmem
    · rw [List.mem_singleton.mp heq]
      exact h.booked.fresh _ _ hcall
  · have hdone := h.booked.done answer ha
    rw [store_calls, lookup_insert', if_neg]
    · exact hdone
    · intro heq
      rw [heq, hcall] at hdone
      cases hdone
  · rw [store_stored, List.map_append, List.mem_append]
    rcases hlookup id' call' h' with ⟨rfl, rfl⟩ | ⟨hne, h'⟩
    · exact iff_of_true rfl (.inr (List.mem_singleton_self _))
    · rw [h.booked.audit _ _ h']
      exact ⟨.inl, fun hmem => hmem.resolve_right fun heq => hne (List.mem_singleton.mp heq)⟩
  · rcases hlookup id' call' h' with ⟨-, rfl⟩ | ⟨-, h'⟩
    · cases hposition'
    · obtain ⟨hnext', hle'⟩ := h.writes _ _ _ h' hposition'
      refine ⟨hnext', ?_⟩
      rw [store_revision]
      split
      · rename_i heq
        rw [heq] at hle'
        dsimp only
        omega
      · exact hle'

/-! ## 6. Runs -/

theorem UpdatesSound.newCall (h : UpdatesSound start s) (targetId : String)
    (request : UpdateContributionTargetPreferencesRequest) :
    UpdatesSound start { s with
      nextCall := s.nextCall + 1
      calls := s.calls.insert s.nextCall ⟨targetId, request, .manifests⟩ } := by
  have hlookup : ∀ id' call',
      (s.calls.insert s.nextCall ⟨targetId, request, .manifests⟩).lookup id' = some call' →
        (id' = s.nextCall ∧ call' = ⟨targetId, request, .manifests⟩) ∨
          s.calls.lookup id' = some call' := by
    intro id' call' h'
    rw [lookup_insert'] at h'
    split at h'
    · rename_i heq
      exact .inl ⟨heq, (Option.some.inj h').symm⟩
    · exact .inr h'
  refine ⟨⟨h.serial.revision, h.serial.expected⟩, ⟨h.answered.once, h.answered.updated⟩,
    ⟨fun id' call' h' => ?_, fun id' hid' => Nat.lt_succ_of_lt (h.booked.storedFresh id' hid'),
      fun answer ha => Nat.lt_succ_of_lt (h.booked.answeredFresh answer ha), fun answer ha => ?_,
      fun id' call' h' => ?_⟩, fun id' call' next h' hposition => ?_⟩
  · rcases hlookup id' call' h' with ⟨rfl, -⟩ | h'
    · exact Nat.lt_succ_self _
    · exact Nat.lt_succ_of_lt (h.booked.fresh _ _ h')
  · dsimp only
    rw [lookup_insert', if_neg (h.booked.answeredFresh answer ha).ne]
    exact h.booked.done answer ha
  · -- the id of a new call was never stored
    rcases hlookup id' call' h' with ⟨rfl, rfl⟩ | h'
    · exact iff_of_false nofun fun hmem => (h.booked.storedFresh _ hmem).ne rfl
    · exact h.booked.audit _ _ h'
  · rcases hlookup id' call' h' with ⟨-, rfl⟩ | h'
    · cases hposition
    · exact h.writes _ _ _ h' hposition

/-- A change of the plugins leaves the preferences and the updates alone. -/
theorem UpdatesSound.plugins (h : UpdatesSound start s) {db : PluginDatabase host}
    (hpreferences : db.preferences = s.db.preferences) : UpdatesSound start { s with db } := by
  have hrevision : ∀ targetId, db.revision targetId = s.db.revision targetId := fun targetId => by
    unfold PluginDatabase.revision
    rw [hpreferences]
  refine ⟨⟨fun targetId => (hrevision targetId).trans (h.serial.revision targetId),
    h.serial.expected⟩, ⟨h.answered.once, h.answered.updated⟩,
    ⟨h.booked.fresh, h.booked.storedFresh, h.booked.answeredFresh, h.booked.done, h.booked.audit⟩,
    fun id call next hcall hposition => ?_⟩
  obtain ⟨hnext, hle⟩ := h.writes id call next hcall hposition
  exact ⟨hnext, hle.trans (hrevision _).ge⟩

theorem registerBundled_preferences [LinearOrder Version] (bundled : BundledPlugin Rest)
    (db : PluginDatabase host) : (registerBundled bundled db).1.preferences = db.preferences := by
  unfold registerBundled
  split
  · rfl
  · split <;> rfl

/-- **Every step keeps the books, and stores at most one update, at its revision.** -/
theorem UpdatesSound.step [LinearOrder Version] (h : UpdatesSound start s)
    {action : UpdateAction Rest} (hstep : s.step action = some t) :
    UpdatesSound start t ∧ Stores s t := by
  cases action with
  | request targetId request =>
    cases hstep
    exact ⟨h.newCall targetId request, .inl ⟨rfl, rfl⟩⟩
  | abandon call =>
    cases hstep
    exact ⟨h.erase call, .inl ⟨rfl, rfl⟩⟩
  | register bundled =>
    cases hstep
    have hpreferences := registerBundled_preferences bundled s.db
    exact ⟨h.plugins hpreferences, .inl ⟨rfl, hpreferences⟩⟩
  | setDesiredState pluginId desiredState now =>
    cases hstep
    exact ⟨h.plugins rfl, .inl ⟨rfl, rfl⟩⟩
  | proceed call auditFails =>
    obtain ⟨update, hcall, rfl⟩ := Option.map_eq_some_iff.mp hstep
    rcases proceed_cases s call auditFails update with
      ⟨position, hmoves, heq⟩ | ⟨hposition, e, heq⟩ | ⟨next, hposition, hcan, heq⟩ |
        ⟨hposition, answer, hanswer, heq⟩
    · rw [heq]
      exact ⟨h.goOn hcall hmoves, .inl ⟨rfl, rfl⟩⟩
    · rw [heq]
      exact ⟨h.answer hcall (iff_of_true ⟨e, rfl⟩ hposition), .inl ⟨rfl, rfl⟩⟩
    · obtain ⟨hmeets, hnext, hsound⟩ := h.store hcall hposition hcan
      rw [heq]
      refine ⟨hsound, .inr ⟨⟨call, update.targetId, update.request⟩, rfl, hmeets, ?_⟩⟩
      rw [store_preferences, hnext]
    · rw [heq]
      exact ⟨h.answer hcall (iff_of_false (fun ⟨e, he⟩ => hanswer e he) fun hne => hne hposition),
        .inl ⟨rfl, rfl⟩⟩

theorem updatesSound_start (db : PluginDatabase host) :
    UpdatesSound (UpdateState.start db) (UpdateState.start db) := by
  refine ⟨⟨fun _ => rfl, fun before u after hsplit => ?_⟩, ⟨List.nodup_nil, nofun⟩,
    ⟨nofun, nofun, nofun, nofun, nofun⟩, nofun⟩
  exact absurd (congrArg List.length hsplit) (by simp [UpdateState.start])

/-- **Preference updates are serialised**: in every run of updates and changes of the plugins, each
    stored update met the revision of its target and moved it by one; an update that was refused is
    not among them; and no other step changes a preference. -/
theorem preferences_serialised [LinearOrder Version] (db : PluginDatabase host)
    (actions : List (UpdateAction Rest)) {s : UpdateState host}
    (h : run UpdateState.step (.start db) actions = some s) :
    Serial (.start db) s ∧ Answered s ∧
      ∀ action t, s.step action = some t → Stores s t := by
  have hsound : UpdatesSound (.start db) s :=
    run_inv (UpdatesSound (.start db)) (fun _ _ _ hs hstep => (hs.step hstep).1)
      (updatesSound_start db) h
  exact ⟨hsound.serial, hsound.answered, fun _ _ hstep => (hsound.step hstep).2⟩

end Model

/-! ## 7. Two updates that both expect the first revision -/

/-- A target of the renderer that `mermaidPlugin` contributes. -/
def mermaidTargetId : String :=
  plainHost.contributionTargetId (.visualRenderer "chat.assistant_message" "session.conversation"
    .inlineFragment (some "mermaid"))

def disableMermaid : UpdateContributionTargetPreferencesRequest where
  expectedRevision := 0
  orderedContributions := []
  disabledContributions := [⟨"uprava.diagrams", "uprava.diagrams.mermaid"⟩]

/-- Both updates read and are checked before the first one is stored. -/
def twoUpdates : List (UpdateAction Unit) :=
  [.request mermaidTargetId disableMermaid, .request mermaidTargetId disableMermaid,
    .proceed 0 false, .proceed 1 false, .proceed 1 false, .proceed 0 false, .proceed 0 false,
    .proceed 1 false, .setDesiredState "uprava.diagrams" .disabled 1, .proceed 0 false]

/-- **The second of two updates that expect the same revision is refused.** -/
theorem second_update_refused :
    ∃ s, run UpdateState.step (.start (bootstrapBundledPlugins noPlugins [mermaidPlugin]).1)
        twoUpdates = some s ∧
      s.answers = [(1, .refused preferenceConflict), (0, .updated)] ∧
      s.db.revision mermaidTargetId = 1 ∧
      Serial (.start (bootstrapBundledPlugins noPlugins [mermaidPlugin]).1) s ∧ Answered s := by
  have hrun : (run UpdateState.step
      (.start (bootstrapBundledPlugins noPlugins [mermaidPlugin]).1) twoUpdates).map
        (fun s => (s.answers, s.db.revision mermaidTargetId)) =
      some ([(1, .refused preferenceConflict), (0, .updated)], 1) := by decide +kernel
  obtain ⟨s, hs, hpair⟩ := Option.map_eq_some_iff.mp hrun
  obtain ⟨hanswers, hrevision⟩ := Prod.ext_iff.mp hpair
  obtain ⟨hserial, hanswered, -⟩ := preferences_serialised _ twoUpdates hs
  exact ⟨s, hs, hanswers, hrevision, hserial, hanswered⟩

end Uprava.Core.Plugins
