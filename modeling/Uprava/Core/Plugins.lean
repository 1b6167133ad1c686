/-
  File:      Uprava/Core/Plugins.lean
  Subject:   The Plugin Registry: what a bundled manifest registers when Core starts, what enabling
             and disabling a plugin stores, and when the two agree on a plugin's state.

  `set_plugin_desired_state` computes the state from the manifest of the active version and the
  grants. `register_bundled_plugin` computes it from the manifest just discovered, which need not be
  the active one, and reads no grant. `plugins_agree_iff` says in which runs this makes no
  difference.
-/
import Mathlib.Order.Lattice
import Uprava.Lib.Assoc
import Uprava.Lib.Run
import Uprava.Protocol.Control

namespace Uprava.Core.Plugins

open Uprava.Protocol
open Uprava.Lib (Assoc Throughout Meets run throughout_iff_meets meets_of_check)
open Uprava.Lib.Assoc (lookup_insert')

/-! ## 1. Manifests and their compatibility -/

abbrev PluginId := String

structure PluginVersionRange where
  minimum : Option String
  maximumExclusive : Option String
  deriving DecidableEq

structure PluginCompatibilityRequirements where
  core : PluginVersionRange
  web : PluginVersionRange
  protocolVersions : List String
  deriving DecidableEq

/-- A manifest; `details` is what neither of the two functions reads. -/
structure PluginManifest (Details : Type) where
  pluginId : PluginId
  version : String
  compatibility : PluginCompatibilityRequirements
  requestedPermissions : List String
  details : Details
  deriving DecidableEq

inductive PluginCompatibilityState where
  | compatible | incompatible
  deriving DecidableEq

structure PluginCompatibility where
  state : PluginCompatibilityState
  diagnostics : List String
  deriving DecidableEq

inductive PluginDesiredState where
  | enabled | disabled
  deriving DecidableEq

inductive PluginEffectiveState where
  | active | disabled | incompatible | error
  deriving DecidableEq

inductive PluginError where
  | internal (message : String)
  | notFound (code message : String)
  | badRequest (code message : String)
  deriving DecidableEq

/-- What both functions take from outside: the versions and their order, the version of Core, the
    hash of a manifest and its validation. -/
structure PluginHost (Details Version : Type) where
  parse : String → Option Version
  appVersion : String
  computePluginManifestHash : PluginManifest Details → String
  validatePluginManifest : PluginManifest Details → Except PluginError Unit

section Model

variable {Details Version : Type} [LinearOrder Version] (host : PluginHost Details Version)

def versionInRange (version : String) (range : PluginVersionRange) : Bool :=
  match host.parse version with
  | none => false
  | some version =>
    let above := match range.minimum with
      | none => true
      | some minimum =>
        match host.parse minimum with
        | none => false
        | some minimum => !decide (version < minimum)
    let below := match range.maximumExclusive with
      | none => true
      | some maximum =>
        match host.parse maximum with
        | none => false
        | some maximum => !decide (maximum ≤ version)
    above && below

def evaluatePluginCompatibility (manifest : PluginManifest Details) : PluginCompatibility :=
  let core := if versionInRange host host.appVersion manifest.compatibility.core then [] else
    ["Core " ++ host.appVersion ++ " is outside the supported range"]
  let web := if versionInRange host host.appVersion manifest.compatibility.web then [] else
    ["Web " ++ host.appVersion ++ " is outside the supported range"]
  let protocol :=
    if manifest.compatibility.protocolVersions.contains currentProtocolVersion then [] else
      ["Protocol " ++ currentProtocolVersion ++ " is not supported by the plugin"]
  let diagnostics := core ++ web ++ protocol
  { state := if diagnostics.isEmpty then .compatible else .incompatible, diagnostics }

/-! ## 2. The registry -/

structure PluginPackageRow (Details : Type) where
  manifestHash : String
  manifest : PluginManifest Details
  discoveredAt : DateTime
  deriving DecidableEq

structure PluginInstallationRow where
  activeVersion : String
  desiredState : PluginDesiredState
  effectiveState : PluginEffectiveState
  compatibility : PluginCompatibility
  installedAt : DateTime
  updatedAt : DateTime
  lastErrorCode : Option String
  deriving DecidableEq

/-- The tables: packages by plugin and version, installations by plugin, and the decisions about
    permissions. -/
structure PluginRegistry (Details : Type) where
  packages : Assoc (PluginId × String) (PluginPackageRow Details)
  installations : Assoc PluginId PluginInstallationRow
  grants : Assoc (PluginId × String) String

/-- `on conflict do nothing`. -/
def insertNew {α β : Type} [DecidableEq α] (m : Assoc α β) (k : α) (b : β) : Assoc α β :=
  if (m.lookup k).isSome then m else m.insert k b

/-- The permissions of a plugin, granted where nothing was decided. -/
def grantNew (grants : Assoc (PluginId × String) String) (pluginId : PluginId)
    (permissions : List String) : Assoc (PluginId × String) String :=
  permissions.foldl (fun grants permission => insertNew grants (pluginId, permission) "granted")
    grants

def initialEffectiveState : PluginCompatibilityState → PluginDesiredState → PluginEffectiveState
  | .compatible, .enabled => .active
  | .compatible, .disabled => .disabled
  | .incompatible, _ => .incompatible

def reconciledEffectiveState : PluginCompatibilityState → PluginDesiredState → PluginEffectiveState
  | .incompatible, _ => .incompatible
  | .compatible, .enabled => .active
  | .compatible, .disabled => .disabled

def incompatibleCode : String := "plugin.incompatible"

def permissionDeniedCode : String := "plugin.permission_denied"

/-- The last statement of a registration: it writes only what differs. -/
def reconcile (row : PluginInstallationRow) (compatibility : PluginCompatibility) (now : DateTime) :
    PluginInstallationRow :=
  let effectiveState := reconciledEffectiveState compatibility.state row.desiredState
  if row.effectiveState ≠ effectiveState ∨ row.compatibility ≠ compatibility then
    { row with
      effectiveState, compatibility
      updatedAt := now
      lastErrorCode := if effectiveState = .incompatible then some incompatibleCode else none }
  else row

def registerBundledPlugin (s : PluginRegistry Details) (manifest : PluginManifest Details)
    (defaultState : PluginDesiredState) (now : DateTime) :
    Except PluginError (PluginRegistry Details) :=
  let pluginId := manifest.pluginId
  let manifestHash := host.computePluginManifestHash manifest
  let compatibility := evaluatePluginCompatibility host manifest
  let existing := s.packages.lookup (pluginId, manifest.version)
  if existing.any fun package => package.manifestHash ≠ manifestHash then
    .error (.internal ("bundled plugin " ++ pluginId ++ "@" ++ manifest.version ++
      " changed without a version bump"))
  else
    let packages := insertNew s.packages (pluginId, manifest.version)
      ⟨manifestHash, manifest, now⟩
    let installations := insertNew s.installations pluginId {
      activeVersion := manifest.version
      desiredState := defaultState
      effectiveState := initialEffectiveState compatibility.state defaultState
      compatibility
      installedAt := now
      updatedAt := now
      lastErrorCode := none }
    match installations.lookup pluginId with
    | none => .error (.internal "plugin installation is missing")
    | some row =>
      match host.parse row.activeVersion, host.parse manifest.version with
      | none, _ => .error (.internal "installed plugin version is not SemVer")
      | some _, none => .error (.internal "bundled plugin version is not SemVer")
      | some active, some discovered =>
        let row := if active < discovered then
          { row with activeVersion := manifest.version, updatedAt := now } else row
        .ok {
          packages
          installations := installations.insert pluginId (reconcile row compatibility now)
          grants := grantNew s.grants pluginId manifest.requestedPermissions }

/-- What `set_plugin_desired_state` computes: the state, the compatibility and the error code. -/
def effectiveOf (grants : Assoc (PluginId × String) String) (manifest : PluginManifest Details)
    (pluginId : PluginId) (desiredState : PluginDesiredState) :
    PluginEffectiveState × PluginCompatibility × Option String :=
  let compatibility := evaluatePluginCompatibility host manifest
  let permissionGranted := manifest.requestedPermissions.all fun permission =>
    grants.lookup (pluginId, permission) == some "granted"
  match desiredState with
  | .disabled => (.disabled, compatibility, none)
  | .enabled =>
    if compatibility.state = .incompatible then
      (.incompatible, compatibility, some incompatibleCode)
    else if !permissionGranted then (.error, compatibility, some permissionDeniedCode)
    else (.active, compatibility, none)

/-- The registry after the call, and its answer. -/
def setPluginDesiredState (s : PluginRegistry Details) (pluginId : PluginId)
    (desiredState : PluginDesiredState) (now : DateTime) :
    PluginRegistry Details × Except PluginError Unit :=
  match s.installations.lookup pluginId with
  | none => (s, .error (.notFound "plugin.not_found" "Plugin not found"))
  | some row =>
    match s.packages.lookup (pluginId, row.activeVersion) with
    | none => (s, .error (.notFound "plugin.not_found" "Plugin not found"))
    | some package =>
      match host.validatePluginManifest package.manifest with
      | .error e => (s, .error e)
      | .ok () =>
        let (effectiveState, compatibility, lastErrorCode) :=
          effectiveOf host s.grants package.manifest pluginId desiredState
        let row := { row with
          desiredState, effectiveState, compatibility, lastErrorCode
          updatedAt := now }
        ({ s with installations := s.installations.insert pluginId row },
          match lastErrorCode with
          | some code => .error (.badRequest code "Plugin could not be activated")
          | none => .ok ())

inductive PluginCall (Details : Type) where
  | register (manifest : PluginManifest Details) (defaultState : PluginDesiredState)
      (now : DateTime)
  | setDesiredState (pluginId : PluginId) (desiredState : PluginDesiredState) (now : DateTime)

/-- The registry after a call. A call that fails leaves it as it is, unless it fails on the state it
    stored. -/
def PluginRegistry.step (s : PluginRegistry Details) :
    PluginCall Details → Option (PluginRegistry Details)
  | .register manifest defaultState now =>
    match registerBundledPlugin host s manifest defaultState now with
    | .ok t => some t
    | .error _ => some s
  | .setDesiredState pluginId desiredState now =>
    some (setPluginDesiredState host s pluginId desiredState now).1

/-! ## 3. What is asked of the registry -/

/-- What is stored of a plugin's state. -/
def PluginInstallationRow.stored (row : PluginInstallationRow) :
    PluginEffectiveState × PluginCompatibility × Option String :=
  (row.effectiveState, row.compatibility, row.lastErrorCode)

/-- What is stored of a plugin is what `set_plugin_desired_state` computes for it. -/
def PluginRegistry.AgreesOn (s : PluginRegistry Details) (pluginId : PluginId) : Prop :=
  ∀ row, s.installations.lookup pluginId = some row →
    ∃ package, s.packages.lookup (pluginId, row.activeVersion) = some package ∧
      row.stored = effectiveOf host s.grants package.manifest pluginId row.desiredState

def PluginRegistry.Agrees (s : PluginRegistry Details) : Prop :=
  ∀ pluginId, s.AgreesOn host pluginId

/-- The version that is active before a registration; of a plugin that is new, its own. -/
def PluginRegistry.activeBefore (s : PluginRegistry Details) (manifest : PluginManifest Details) :
    String :=
  ((s.installations.lookup manifest.pluginId).map (·.activeVersion)).getD manifest.version

/-- The version that is active after a registration: the later one. -/
def PluginRegistry.activeAfter (s : PluginRegistry Details) (manifest : PluginManifest Details) :
    String :=
  match host.parse (s.activeBefore manifest), host.parse manifest.version with
  | some active, some discovered =>
    if active < discovered then manifest.version else s.activeBefore manifest
  | _, _ => s.activeBefore manifest

/-- The manifest of the version that is active after a registration. -/
def PluginRegistry.manifestAfter (s : PluginRegistry Details) (manifest : PluginManifest Details) :
    PluginManifest Details :=
  ((s.packages.lookup (manifest.pluginId, s.activeAfter host manifest)).map (·.manifest)).getD
    manifest

def PluginRegistry.desiredBefore (s : PluginRegistry Details) (manifest : PluginManifest Details)
    (defaultState : PluginDesiredState) : PluginDesiredState :=
  ((s.installations.lookup manifest.pluginId).map (·.desiredState)).getD defaultState

/-- The decision about a permission after a registration. -/
def PluginRegistry.decisionAfter (s : PluginRegistry Details) (manifest : PluginManifest Details)
    (permission : String) : Option String :=
  (s.grants.lookup (manifest.pluginId, permission)).or
    (if permission ∈ manifest.requestedPermissions then some "granted" else none)

/-- The version is new or was stored with this manifest's hash, and the versions are SemVer. -/
def PluginRegistry.Registers (s : PluginRegistry Details) (manifest : PluginManifest Details) :
    Prop :=
  ((s.packages.lookup (manifest.pluginId, manifest.version)).any fun package =>
      package.manifestHash ≠ host.computePluginManifestHash manifest) = false ∧
    (host.parse (s.activeBefore manifest)).isSome ∧ (host.parse manifest.version).isSome

/-- **What a registration that succeeds may not meet**: a discovered manifest whose compatibility is
    not that of the active one; an incompatible one of a plugin that is new or not wanted; a
    permission of a wanted plugin that is not granted. -/
def PluginRegistry.Keeps (s : PluginRegistry Details) : PluginCall Details → Prop
  | .setDesiredState .. => True
  | .register manifest defaultState _ =>
    let compatibility := evaluatePluginCompatibility host manifest
    s.Registers host manifest →
      compatibility = evaluatePluginCompatibility host (s.manifestAfter host manifest) ∧
      (compatibility.state = .incompatible →
        s.desiredBefore manifest defaultState = .enabled ∧
          (s.installations.lookup manifest.pluginId).isSome) ∧
      (compatibility.state = .compatible → s.desiredBefore manifest defaultState = .enabled →
        ∀ permission ∈ (s.manifestAfter host manifest).requestedPermissions,
          s.decisionAfter manifest permission = some "granted")

instance (s : PluginRegistry Details) (a : PluginCall Details) : Decidable (s.Keeps host a) :=
  match a with
  | .setDesiredState .. => isTrue trivial
  | .register manifest _ _ =>
    have : Decidable (s.Registers host manifest) := by
      unfold PluginRegistry.Registers
      exact inferInstance
    inferInstanceAs (Decidable (_ → _))

/-! ## 4. Tables -/

variable {host} {s t : PluginRegistry Details} {manifest : PluginManifest Details}
  {defaultState : PluginDesiredState} {now : DateTime}

theorem lookup_insertNew {α β : Type} [DecidableEq α] (m : Assoc α β) (k k' : α) (b : β) :
    (insertNew m k b).lookup k' = (m.lookup k').or (if k' = k then some b else none) := by
  unfold insertNew
  by_cases hk : k' = k
  · subst hk
    cases h : m.lookup k' with
    | none => simp [AList.lookup_insert]
    | some b' => simp [h]
  · rw [if_neg hk, Option.or_none]
    split
    · rfl
    · exact AList.lookup_insert_ne hk

theorem lookup_grantNew (grants : Assoc (PluginId × String) String) (pluginId : PluginId)
    (permissions : List String) (key : PluginId × String) :
    (grantNew grants pluginId permissions).lookup key =
      (grants.lookup key).or
        (if key.1 = pluginId ∧ key.2 ∈ permissions then some "granted" else none) := by
  induction permissions generalizing grants with
  | nil => simp [grantNew]
  | cons permission permissions ih =>
    have hcons : grantNew grants pluginId (permission :: permissions) =
        grantNew (insertNew grants (pluginId, permission) "granted") pluginId permissions := rfl
    rw [hcons, ih, lookup_insertNew, Option.or_assoc]
    congr 1
    by_cases hkey : key = (pluginId, permission)
    · subst hkey
      simp
    · have hne : ¬ (key.1 = pluginId ∧ key.2 = permission) := fun h => hkey (Prod.ext h.1 h.2)
      rw [if_neg hkey, Option.none_or]
      refine if_congr ?_ rfl rfl
      constructor
      · exact fun ⟨hid, hmem⟩ => ⟨hid, List.mem_cons_of_mem _ hmem⟩
      · exact fun ⟨hid, hmem⟩ =>
          ⟨hid, (List.mem_cons.mp hmem).resolve_left fun h => hne ⟨hid, h⟩⟩

/-- What a plugin's state depends on of the grants. -/
theorem effectiveOf_congr {grants grants' : Assoc (PluginId × String) String} {pluginId : PluginId}
    (h : ∀ permission, grants.lookup (pluginId, permission) = grants'.lookup (pluginId, permission))
    (desiredState : PluginDesiredState) :
    effectiveOf host grants manifest pluginId desiredState =
      effectiveOf host grants' manifest pluginId desiredState := by
  unfold effectiveOf
  simp only [h]

/-! ## 5. What a registration stores -/

/-- The installation before a registration, or the one that it inserts. -/
def PluginRegistry.installationBefore (host : PluginHost Details Version)
    (s : PluginRegistry Details) (manifest : PluginManifest Details)
    (defaultState : PluginDesiredState) (now : DateTime) : PluginInstallationRow :=
  let compatibility := evaluatePluginCompatibility host manifest
  (s.installations.lookup manifest.pluginId).getD {
    activeVersion := manifest.version
    desiredState := defaultState
    effectiveState := initialEffectiveState compatibility.state defaultState
    compatibility
    installedAt := now
    updatedAt := now
    lastErrorCode := none }

/-- What a registration leaves in the tables. -/
structure Registered (host : PluginHost Details Version) (s t : PluginRegistry Details)
    (manifest : PluginManifest Details) (defaultState : PluginDesiredState) (now : DateTime) :
    Prop where
  packages : ∀ key, t.packages.lookup key = (s.packages.lookup key).or
    (if key = (manifest.pluginId, manifest.version) then
      some ⟨host.computePluginManifestHash manifest, manifest, now⟩ else none)
  grants : ∀ permission, t.grants.lookup (manifest.pluginId, permission) =
    s.decisionAfter manifest permission
  otherGrants : ∀ pluginId ≠ manifest.pluginId, ∀ permission,
    t.grants.lookup (pluginId, permission) = s.grants.lookup (pluginId, permission)
  others : ∀ pluginId ≠ manifest.pluginId,
    t.installations.lookup pluginId = s.installations.lookup pluginId
  installed : ∃ row, t.installations.lookup manifest.pluginId =
      some (reconcile row (evaluatePluginCompatibility host manifest) now) ∧
    row.activeVersion = s.activeAfter host manifest ∧
    row.desiredState = s.desiredBefore manifest defaultState ∧
    row.stored = (s.installationBefore host manifest defaultState now).stored

/-- **A registration that succeeds is one of a new version, or of one with the same hash.** -/
theorem registerBundledPlugin_spec :
    (∀ t, registerBundledPlugin host s manifest defaultState now = .ok t →
        Registered host s t manifest defaultState now) ∧
      ((∃ t, registerBundledPlugin host s manifest defaultState now = .ok t) ↔
        s.Registers host manifest) := by
  unfold registerBundledPlugin PluginRegistry.Registers
  dsimp only
  cases hhash : (s.packages.lookup (manifest.pluginId, manifest.version)).any fun package =>
      decide (package.manifestHash ≠ host.computePluginManifestHash manifest) with
  | true =>
    rw [if_pos rfl]
    exact ⟨fun t h => (nomatch h), ⟨fun ⟨t, h⟩ => (nomatch h), fun h => (nomatch h.1)⟩⟩
  | false =>
    rw [if_neg (by simp)]
    have hinstalled : (insertNew s.installations manifest.pluginId {
        activeVersion := manifest.version
        desiredState := defaultState
        effectiveState :=
          initialEffectiveState (evaluatePluginCompatibility host manifest).state defaultState
        compatibility := evaluatePluginCompatibility host manifest
        installedAt := now
        updatedAt := now
        lastErrorCode := none }).lookup manifest.pluginId =
          some (s.installationBefore host manifest defaultState now) := by
      rw [lookup_insertNew, if_pos rfl, PluginRegistry.installationBefore]
      cases s.installations.lookup manifest.pluginId <;> rfl
    have hactive : (s.installationBefore host manifest defaultState now).activeVersion =
        s.activeBefore manifest := by
      rw [PluginRegistry.installationBefore, PluginRegistry.activeBefore]
      cases s.installations.lookup manifest.pluginId <;> rfl
    have hdesired : (s.installationBefore host manifest defaultState now).desiredState =
        s.desiredBefore manifest defaultState := by
      rw [PluginRegistry.installationBefore, PluginRegistry.desiredBefore]
      cases s.installations.lookup manifest.pluginId <;> rfl
    rw [hinstalled]
    dsimp only
    rw [hactive]
    cases hbefore : host.parse (s.activeBefore manifest) with
    | none =>
      exact ⟨fun t h => (nomatch h), ⟨fun ⟨t, h⟩ => (nomatch h), fun h => (nomatch h.2.1)⟩⟩
    | some active =>
      cases hversion : host.parse manifest.version with
      | none =>
        exact ⟨fun t h => (nomatch h), ⟨fun ⟨t, h⟩ => (nomatch h), fun h => (nomatch h.2.2)⟩⟩
      | some discovered =>
        refine ⟨fun t h => ?_, iff_of_true ⟨_, rfl⟩ ⟨rfl, rfl, rfl⟩⟩
        obtain rfl := Except.ok.inj h
        have hafter : s.activeAfter host manifest =
            if active < discovered then manifest.version else s.activeBefore manifest := by
          rw [PluginRegistry.activeAfter, hbefore, hversion]
        refine ⟨fun key => lookup_insertNew .., fun permission => ?_,
          fun pluginId hne permission => ?_, fun pluginId hne => ?_, _, AList.lookup_insert _, ?_,
          ?_, ?_⟩
        · rw [lookup_grantNew, PluginRegistry.decisionAfter]
          simp
        · rw [lookup_grantNew, if_neg fun h => hne h.1, Option.or_none]
        · rw [AList.lookup_insert_ne hne, lookup_insertNew, if_neg hne, Option.or_none]
        · rw [hafter]
          split
          · rfl
          · exact hactive
        · rw [← hdesired]
          split <;> rfl
        · split <;> rfl

/-! ## 6. When both compute one state -/

variable {row : PluginInstallationRow} {compatibility : PluginCompatibility}
  {grants : Assoc (PluginId × String) String} {pluginId : PluginId}
  {desiredState : PluginDesiredState}

/-- The code that a registration stores with a state. -/
def codeOf (effectiveState : PluginEffectiveState) : Option String :=
  if effectiveState = .incompatible then some incompatibleCode else none

@[simp] theorem reconcile_activeVersion :
    (reconcile row compatibility now).activeVersion = row.activeVersion := by
  unfold reconcile
  dsimp only
  split <;> rfl

@[simp] theorem reconcile_desiredState :
    (reconcile row compatibility now).desiredState = row.desiredState := by
  unfold reconcile
  dsimp only
  split <;> rfl

/-- Over a row whose code is that of its state, a registration stores its state, and the code. -/
theorem reconcile_stored (h : row.effectiveState ≠ .error → row.lastErrorCode =
      codeOf row.effectiveState) :
    (reconcile row compatibility now).stored =
      (reconciledEffectiveState compatibility.state row.desiredState, compatibility,
        codeOf (reconciledEffectiveState compatibility.state row.desiredState)) := by
  unfold reconcile
  dsimp only
  split
  · rfl
  · rename_i hsame
    obtain ⟨heffective, hcompatibility⟩ := not_or.mp hsame
    rw [not_ne_iff] at heffective hcompatibility
    have herror : row.effectiveState ≠ .error := by
      rw [heffective]
      cases compatibility.state <;> cases row.desiredState <;> decide
    rw [PluginInstallationRow.stored, h herror, heffective, hcompatibility]

variable (row) in
/-- A row that agrees has the code of its state. -/
theorem code_of_stored
    (h : row.stored = effectiveOf host grants manifest pluginId desiredState)
    (herror : row.effectiveState ≠ .error) : row.lastErrorCode = codeOf row.effectiveState := by
  have hstate : row.effectiveState = row.stored.1 := rfl
  have hcode : row.lastErrorCode = row.stored.2.2 := rfl
  rw [hstate, h] at herror
  rw [hstate, hcode, h]
  unfold effectiveOf at herror ⊢
  cases desiredState with
  | disabled => rfl
  | enabled =>
    dsimp only at herror ⊢
    split
    · rfl
    · rename_i hcompatible
      rw [if_neg hcompatible] at herror
      split
      · rename_i hdenied
        rw [if_pos hdenied] at herror
        exact absurd rfl herror
      · rfl

/-- Every permission that the manifest requests is granted. -/
def Granted (grants : Assoc (PluginId × String) String) (manifest : PluginManifest Details)
    (pluginId : PluginId) : Prop :=
  ∀ permission ∈ manifest.requestedPermissions,
    grants.lookup (pluginId, permission) = some "granted"

theorem effectiveOf_enabled (h : (evaluatePluginCompatibility host manifest).state = .compatible) :
    effectiveOf host grants manifest pluginId .enabled =
      (.active, evaluatePluginCompatibility host manifest, none) ↔
        Granted grants manifest pluginId := by
  have hall : (manifest.requestedPermissions.all fun permission =>
      grants.lookup (pluginId, permission) == some "granted") = true ↔
        Granted grants manifest pluginId := by
    rw [List.all_eq_true]
    exact forall₂_congr fun permission _ => beq_iff_eq
  unfold effectiveOf
  dsimp only
  rw [if_neg (by rw [h]; decide), ← hall]
  cases manifest.requestedPermissions.all fun permission =>
      grants.lookup (pluginId, permission) == some "granted" <;> simp

/-- **What a registration computes is what the desired state asks for**: the compatibility is that
    of the manifest; if it is incompatible the plugin is wanted; and if the plugin is wanted and
    compatible, its permissions are granted. -/
theorem reconciled_eq_effectiveOf_iff :
    (reconciledEffectiveState compatibility.state desiredState, compatibility,
        codeOf (reconciledEffectiveState compatibility.state desiredState)) =
      effectiveOf host grants manifest pluginId desiredState ↔
    compatibility = evaluatePluginCompatibility host manifest ∧
      (compatibility.state = .incompatible → desiredState = .enabled) ∧
      (compatibility.state = .compatible → desiredState = .enabled →
        Granted grants manifest pluginId) := by
  have hkept : (effectiveOf host grants manifest pluginId desiredState).2.1 =
      evaluatePluginCompatibility host manifest := by
    unfold effectiveOf
    cases desiredState with
    | disabled => rfl
    | enabled =>
      dsimp only
      split
      · rfl
      · split <;> rfl
  by_cases hsame : compatibility = evaluatePluginCompatibility host manifest
  · cases hstate : compatibility.state with
    | incompatible =>
      cases desiredState with
      | disabled =>
        simp [effectiveOf, reconciledEffectiveState]
      | enabled =>
        rw [hsame] at hstate
        simp [effectiveOf, reconciledEffectiveState, hstate, hsame, codeOf]
    | compatible =>
      cases desiredState with
      | disabled => simp [effectiveOf, reconciledEffectiveState, hsame, codeOf]
      | enabled =>
        have hgranted := @effectiveOf_enabled _ _ _ host manifest grants pluginId (hsame ▸ hstate)
        rw [eq_comm, ← hsame] at hgranted
        have hcode : codeOf .active = none := rfl
        rw [reconciledEffectiveState, hcode, hgranted]
        simp [hsame]
  · refine iff_of_false (fun h => hsame ?_) fun h => hsame h.1
    rw [← hkept, ← h]

/-! ## 7. One call -/

/-- A plugin that is new and incompatible is stored without its code. -/
theorem incompatible_new_ne :
    (PluginEffectiveState.incompatible, compatibility, none) ≠
      effectiveOf host grants manifest pluginId desiredState := by
  unfold effectiveOf
  cases desiredState with
  | disabled => simp
  | enabled =>
    dsimp only
    split
    · simp
    · split <;> simp

/-- The manifest of the active version is stored. -/
theorem Registered.package (hs : s.AgreesOn host manifest.pluginId)
    (h : Registered host s t manifest defaultState now) :
    ∃ package, t.packages.lookup (manifest.pluginId, s.activeAfter host manifest) = some package ∧
      package.manifest = s.manifestAfter host manifest := by
  rw [h.packages, PluginRegistry.manifestAfter]
  cases hlookup : s.packages.lookup (manifest.pluginId, s.activeAfter host manifest) with
  | some package => exact ⟨package, rfl, rfl⟩
  | none =>
    have hversion : s.activeAfter host manifest = manifest.version := by
      cases hrow : s.installations.lookup manifest.pluginId with
      | none =>
        have hbefore : s.activeBefore manifest = manifest.version := by
          rw [PluginRegistry.activeBefore, hrow]
          rfl
        rw [PluginRegistry.activeAfter, hbefore]
        split
        · exact ite_self _
        · rfl
      | some row =>
        obtain ⟨package, hpackage, -⟩ := hs row hrow
        have hbefore : s.activeBefore manifest = row.activeVersion := by
          rw [PluginRegistry.activeBefore, hrow]
          rfl
        -- the version that was active has its package, so another one is active now
        by_contra hne
        have hkept : s.activeAfter host manifest = s.activeBefore manifest := by
          unfold PluginRegistry.activeAfter at hne ⊢
          split
          · split
            · rename_i active discovered hactive hdiscovered hlater
              rw [hactive, hdiscovered] at hne
              dsimp only at hne
              rw [if_pos hlater] at hne
              exact absurd rfl hne
            · rfl
          · rfl
        rw [hkept, hbefore, hpackage] at hlookup
        cases hlookup
    rw [hversion, if_pos rfl]
    exact ⟨_, rfl, rfl⟩

/-- **A registration agrees on its plugin exactly when it keeps the condition.** -/
theorem Registered.agreesOn_iff (hs : s.AgreesOn host manifest.pluginId)
    (hregisters : s.Registers host manifest)
    (h : Registered host s t manifest defaultState now) :
    t.AgreesOn host manifest.pluginId ↔ s.Keeps host (.register manifest defaultState now) := by
  obtain ⟨package, hpackage, hmanifest⟩ := h.package hs
  obtain ⟨row, hrow, hactive, hdesired, hstored⟩ := h.installed
  -- the plugin has one installation, and its package is the active one
  have hagrees : t.AgreesOn host manifest.pluginId ↔
      (reconcile row (evaluatePluginCompatibility host manifest) now).stored =
        effectiveOf host t.grants (s.manifestAfter host manifest) manifest.pluginId
          (s.desiredBefore manifest defaultState) := by
    constructor
    · intro hagrees
      obtain ⟨package', hpackage', hstate⟩ := hagrees _ hrow
      rw [reconcile_activeVersion, hactive, hpackage, Option.some.injEq] at hpackage'
      rw [hstate, reconcile_desiredState, hdesired, ← hpackage', hmanifest]
    · intro hstate row' hrow'
      rw [hrow, Option.some.injEq] at hrow'
      subst hrow'
      refine ⟨package, ?_, ?_⟩
      · rw [reconcile_activeVersion, hactive, hpackage]
      · rw [hstate, reconcile_desiredState, hdesired, hmanifest]
  have hgranted : Granted t.grants (s.manifestAfter host manifest) manifest.pluginId ↔
      ∀ permission ∈ (s.manifestAfter host manifest).requestedPermissions,
        s.decisionAfter manifest permission = some "granted" :=
    forall₂_congr fun permission _ => by rw [h.grants]
  have hkeeps : s.Keeps host (.register manifest defaultState now) ↔
      evaluatePluginCompatibility host manifest =
          evaluatePluginCompatibility host (s.manifestAfter host manifest) ∧
        ((evaluatePluginCompatibility host manifest).state = .incompatible →
          s.desiredBefore manifest defaultState = .enabled ∧
            (s.installations.lookup manifest.pluginId).isSome) ∧
        ((evaluatePluginCompatibility host manifest).state = .compatible →
          s.desiredBefore manifest defaultState = .enabled →
            Granted t.grants (s.manifestAfter host manifest) manifest.pluginId) := by
    rw [hgranted]
    exact ⟨fun hkeeps => hkeeps hregisters, fun hkeeps _ => hkeeps⟩
  rw [hagrees, hkeeps]
  rw [PluginRegistry.installationBefore] at hstored
  cases hlookup : s.installations.lookup manifest.pluginId with
  | some old =>
    obtain ⟨oldPackage, -, hold⟩ := hs old hlookup
    rw [hlookup] at hstored
    have hcode := code_of_stored row (hstored.trans hold)
    rw [reconcile_stored hcode, hdesired, reconciled_eq_effectiveOf_iff]
    simp
  | none =>
    rw [hlookup] at hstored
    have hdefault : s.desiredBefore manifest defaultState = defaultState := by
      rw [PluginRegistry.desiredBefore, hlookup]
      rfl
    have hstate : row.effectiveState = initialEffectiveState
        (evaluatePluginCompatibility host manifest).state defaultState := congrArg (·.1) hstored
    have hsame : row.compatibility = evaluatePluginCompatibility host manifest :=
      congrArg (·.2.1) hstored
    have hcode : row.lastErrorCode = none := congrArg (·.2.2) hstored
    cases hcompatible : (evaluatePluginCompatibility host manifest).state with
    | incompatible =>
      -- the state and the compatibility are those of the row, so the code is not written
      rw [hcompatible] at hstate
      have hkept : reconcile row (evaluatePluginCompatibility host manifest) now = row := by
        unfold reconcile
        dsimp only
        rw [if_neg]
        rw [hcompatible, hstate, hsame]
        rintro (h | h)
        · exact h rfl
        · exact h rfl
      refine iff_of_false (fun h => ?_) fun h => ?_
      · rw [hkept, PluginInstallationRow.stored, hstate, hcode] at h
        exact incompatible_new_ne h
      · obtain ⟨-, hnew, -⟩ := h
        exact absurd (hnew rfl).2 (by simp)
    | compatible =>
      rw [hcompatible] at hstate
      have hcodeOf : row.lastErrorCode = codeOf row.effectiveState := by
        rw [hcode, hstate]
        cases defaultState <;> rfl
      rw [reconcile_stored fun _ => hcodeOf, hdesired, hdefault, reconciled_eq_effectiveOf_iff,
        hcompatible]
      simp

/-- Of the other plugins a registration leaves everything as it was. -/
theorem Registered.agreesOn_other (hother : s.AgreesOn host pluginId)
    (hne : pluginId ≠ manifest.pluginId) (h : Registered host s t manifest defaultState now) :
    t.AgreesOn host pluginId := by
  intro row hrow
  rw [h.others pluginId hne] at hrow
  obtain ⟨package, hpackage, hstored⟩ := hother row hrow
  refine ⟨package, ?_, ?_⟩
  · rw [h.packages, hpackage, Option.some_or]
  · rw [hstored]
    exact effectiveOf_congr (fun permission => (h.otherGrants pluginId hne permission).symm) _

/-- `set_plugin_desired_state` stores what it computes. -/
theorem setPluginDesiredState_agrees (hs : s.Agrees host) :
    (setPluginDesiredState host s pluginId desiredState now).1.Agrees host := by
  unfold setPluginDesiredState
  cases hrow : s.installations.lookup pluginId with
  | none => exact hs
  | some row =>
    dsimp only
    cases hpackage : s.packages.lookup (pluginId, row.activeVersion) with
    | none => exact hs
    | some package =>
      dsimp only
      cases host.validatePluginManifest package.manifest with
      | error e => exact hs
      | ok =>
        intro other row' hrow'
        dsimp only at hrow'
        rw [lookup_insert'] at hrow'
        split at hrow'
        · rename_i heq
          subst heq
          obtain rfl := Option.some.inj hrow'
          exact ⟨package, hpackage, rfl⟩
        · exact hs other row' hrow'

/-- **One call keeps the agreement exactly when it meets the condition.** -/
theorem step_agrees_iff {a : PluginCall Details} (hs : s.Agrees host)
    (ha : s.step host a = some t) : t.Agrees host ↔ s.Keeps host a := by
  cases a with
  | setDesiredState pluginId desiredState now =>
    obtain rfl := Option.some.inj ha
    exact iff_of_true (setPluginDesiredState_agrees hs) trivial
  | register manifest defaultState now =>
    rw [PluginRegistry.step] at ha
    obtain ⟨hspec, hsucceeds⟩ := @registerBundledPlugin_spec _ _ _ host s manifest defaultState now
    cases hcall : registerBundledPlugin host s manifest defaultState now with
    | error e =>
      rw [hcall] at ha
      obtain rfl := Option.some.inj ha
      -- the call fails, so it is not under the condition
      refine iff_of_true hs fun hregisters => ?_
      obtain ⟨t, ht⟩ := hsucceeds.mpr hregisters
      rw [hcall] at ht
      cases ht
    | ok t' =>
      rw [hcall] at ha
      obtain rfl := Option.some.inj ha
      have hregistered := hspec t' hcall
      have hregisters := hsucceeds.mp ⟨t', hcall⟩
      rw [← hregistered.agreesOn_iff (hs manifest.pluginId) hregisters]
      refine ⟨fun h => h manifest.pluginId, fun h other => ?_⟩
      by_cases hother : other = manifest.pluginId
      · rw [hother]
        exact h
      · exact hregistered.agreesOn_other (hs other) hother

/-! ## 8. Runs -/

/-- **The two functions agree on every plugin throughout a run exactly when every registration of
    the run meets the condition.** -/
theorem plugins_agree_iff {calls : List (PluginCall Details)} (hs : s.Agrees host)
    (hr : run (PluginRegistry.step host) s calls = some t) :
    Throughout (PluginRegistry.step host) (PluginRegistry.Agrees host) s calls ↔
      Meets (PluginRegistry.step host) (PluginRegistry.Keeps host) s calls :=
  throughout_iff_meets (fun _ _ _ => step_agrees_iff) hs hr

end Model

/-! ## 9. Two versions of a theme -/

namespace Themes

/-- The versions that the manifests name, in their order. -/
def versions : List String := ["0.2.12", "0.2.15", "0.2.19", "0.3.0", "1.0.0", "1.1.0"]

/-- Core 0.2.19; a manifest is told from another by its version. -/
def host : PluginHost Unit Nat where
  parse version := versions.idxOf? version
  appVersion := "0.2.19"
  computePluginManifestHash manifest := "sha256:" ++ manifest.version
  validatePluginManifest _ := .ok ()

/-- A version of the dark theme, made for Core and Web from 0.2.12 to `maximum`. -/
def themeDark (version maximum : String) : PluginManifest Unit where
  pluginId := "uprava.theme-dark"
  version
  compatibility := {
    core := ⟨some "0.2.12", some maximum⟩
    web := ⟨some "0.2.12", some maximum⟩
    protocolVersions := ["v2"] }
  requestedPermissions := ["ui.theme.contribute"]
  details := ()

/-- A database in which nothing is registered. -/
def empty : PluginRegistry Unit := ⟨∅, ∅, ∅⟩

theorem empty_agrees : empty.Agrees host := fun _ _ h => (nomatch h)

/-- A theme is registered, disabled, registered again by the next start, enabled and updated. -/
def updated : List (PluginCall Unit) := [
  .register (themeDark "1.0.0" "0.3.0") .enabled 1,
  .setDesiredState "uprava.theme-dark" .disabled 2,
  .register (themeDark "1.0.0" "0.3.0") .enabled 3,
  .setDesiredState "uprava.theme-dark" .enabled 4,
  .register (themeDark "1.1.0" "0.3.0") .enabled 5]

/-- An older version, made for an earlier Core, is discovered after the newer one. -/
def outOfOrder : List (PluginCall Unit) := [
  .register (themeDark "1.1.0" "0.3.0") .enabled 1,
  .register (themeDark "1.0.0" "0.2.15") .enabled 2]

/-- What is stored of the theme at the end of a run: its version, what was wanted and its state. -/
def storedAfter (calls : List (PluginCall Unit)) :
    Option (String × PluginDesiredState × PluginEffectiveState × Option String) :=
  (run (PluginRegistry.step host) empty calls).bind fun s =>
    (s.installations.lookup "uprava.theme-dark").map fun row =>
      (row.activeVersion, row.desiredState, row.effectiveState, row.lastErrorCode)

theorem plugins_agree_updated :
    Throughout (PluginRegistry.step host) (PluginRegistry.Agrees host) empty updated ∧
      storedAfter updated = some ("1.1.0", .enabled, .active, none) := by
  have hkeeps : Meets (PluginRegistry.step host) (PluginRegistry.Keeps host) empty updated :=
    meets_of_check (fun _ => True) (fun _ _ _ _ _ => trivial)
      (c := fun s a => decide (s.Keeps host a)) (fun _ _ _ h => of_decide_eq_true h) trivial
      (by decide)
  obtain ⟨t, ht⟩ : ∃ t, run (PluginRegistry.step host) empty updated = some t :=
    Option.isSome_iff_exists.mp (by decide)
  exact ⟨(plugins_agree_iff empty_agrees ht).mpr hkeeps, by decide⟩

/-- **The newer version stays active and is stored as incompatible**, though it is compatible. -/
theorem outOfOrder_disagrees :
    ¬ ∀ calls, Throughout (PluginRegistry.step host) (PluginRegistry.Agrees host) empty calls := by
  intro h
  have hstored : storedAfter outOfOrder =
      some ("1.1.0", .enabled, .incompatible, some "plugin.incompatible") := by decide
  have hmanifest : (run (PluginRegistry.step host) empty outOfOrder).bind (fun s =>
      (s.packages.lookup ("uprava.theme-dark", "1.1.0")).map (·.manifest)) =
        some (themeDark "1.1.0" "0.3.0") := by decide
  obtain ⟨t, ht⟩ : ∃ t, run (PluginRegistry.step host) empty outOfOrder = some t :=
    Option.isSome_iff_exists.mp (by decide)
  rw [storedAfter, ht, Option.bind_some, Option.map_eq_some_iff] at hstored
  rw [ht, Option.bind_some, Option.map_eq_some_iff] at hmanifest
  obtain ⟨row, hrow, hstate⟩ := hstored
  obtain ⟨package, hpackage, hthemeDark⟩ := hmanifest
  obtain ⟨hactive, hdesired, heffective, hcode⟩ := by simpa only [Prod.mk.injEq] using hstate
  obtain ⟨package', hpackage', hagrees⟩ :=
    h outOfOrder outOfOrder [] t (List.append_nil _).symm ht _ row hrow
  rw [hactive, hpackage, Option.some.injEq] at hpackage'
  subst hpackage'
  -- what is stored says the plugin is incompatible, its active manifest is compatible
  have hcompatible : (evaluatePluginCompatibility host (themeDark "1.1.0" "0.3.0")).state =
      .compatible := by decide
  have hsome : row.stored.2.2 = some incompatibleCode := hcode
  rw [hagrees, hdesired, hthemeDark, effectiveOf] at hsome
  rw [if_neg (by rw [hcompatible]; decide)] at hsome
  split at hsome
  · exact absurd hsome (by decide)
  · cases hsome

end Themes

end Uprava.Core.Plugins
