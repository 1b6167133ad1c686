/-
  File:      Uprava/Core/Contributions.lean
  Subject:   The contributions of the plugins: what a manifest may contribute, and the snapshot of
             the contributions in effect, target by target, under the stored preferences.

  A visual renderer names one target for each source kind, surface, scope and selector. The check of
  a manifest refuses one that repeats a source kind, a surface or a scope; a repeated selector it
  lets through, and then the renderer is listed twice for one target and conflicts with itself.
  **`effective_contributions_iff`** says that nothing else goes wrong.
-/
import Uprava.Core.Database
import Uprava.Core.Plugins
import Uprava.Lib.Groups
import Uprava.Lib.Loops
import Uprava.Lib.Preference
import Mathlib.Data.String.Basic

namespace Uprava.Core.Plugins

open Uprava.Protocol
open Uprava.Lib (Assoc OrderedMap arrange rank each Separate Fails)

/-! ## 1. What a manifest contributes -/

inductive VisualRendererKind where
  | content | inlineFragment | block | artifactViewer
  deriving DecidableEq

inductive VisualRenderScope where
  | contentEnhancement | inlineFragment | block | artifactViewer | detailView
  deriving DecidableEq

inductive VisualRendererFallback where
  | plainText | source | metadata
  deriving DecidableEq

inductive VisualSourceMatcherV1 where
  | fencedLanguage (languageIds : List String)
  | strictColorLiteral (formats : List String)
  deriving DecidableEq

structure VisualRendererContributionV1 where
  rendererId : String
  implementationId : String
  rendererKind : VisualRendererKind
  acceptedSourceKinds : List String
  renderScopes : List VisualRenderScope
  allowedSurfaces : List String
  fallbackStrategy : VisualRendererFallback
  sourceMatcher : Option VisualSourceMatcherV1
  visualKinds : List String
  actions : List String
  deriving DecidableEq

structure ArtifactTypeContributionV1 where
  artifactTypeId : String
  displayName : String
  description : String
  schemaVersion : Nat
  fallbackStrategy : VisualRendererFallback
  deriving DecidableEq

/-- A contribution of which only its id is read here; `rest` is the rest of it. -/
structure ThemeContributionV1 (Rest : Type) where
  themeId : String
  rest : Rest
  deriving DecidableEq

structure GeneratedUiRuntimeContributionV1 (Rest : Type) where
  runtimeId : String
  rest : Rest
  deriving DecidableEq

structure GeneratedUiSdkContributionV1 (Rest : Type) where
  sdkId : String
  rest : Rest
  deriving DecidableEq

structure GeneratedUiActionBridgeContributionV1 (Rest : Type) where
  bridgeId : String
  rest : Rest
  deriving DecidableEq

inductive PluginContribution (Rest : Type) where
  | uiTheme (contributionId : String) (contractVersion : Nat)
      (contribution : ThemeContributionV1 Rest)
  | visualRenderer (contributionId : String) (contractVersion : Nat)
      (contribution : VisualRendererContributionV1)
  | agentTool (contributionId : String) (contractVersion : Nat) (toolId : String)
  | artifactType (contributionId : String) (contractVersion : Nat)
      (contribution : ArtifactTypeContributionV1)
  | generatedUiRuntime (contributionId : String) (contractVersion : Nat)
      (contribution : GeneratedUiRuntimeContributionV1 Rest)
  | generatedUiSdk (contributionId : String) (contractVersion : Nat)
      (contribution : GeneratedUiSdkContributionV1 Rest)
  | generatedUiActionBridge (contributionId : String) (contractVersion : Nat)
      (contribution : GeneratedUiActionBridgeContributionV1 Rest)
  deriving DecidableEq

def contributionId {Rest : Type} : PluginContribution Rest → String
  | .uiTheme id .. | .visualRenderer id .. | .agentTool id .. | .artifactType id ..
  | .generatedUiRuntime id .. | .generatedUiSdk id .. | .generatedUiActionBridge id .. => id

inductive PluginInstallSource where
  | bundled | localFolder | teamCatalog | communityCatalog
  deriving DecidableEq

inductive PluginTrustLevel where
  | dataOnly | trustedBundled | sandboxedWeb | sandboxedNode | externalService
  deriving DecidableEq

/-- What the check of a manifest and the snapshot read of it besides its identity. -/
structure PluginDetails (Rest : Type) where
  manifestVersion : Nat
  displayName : String
  description : String
  publisher : String
  installSource : PluginInstallSource
  trustLevel : PluginTrustLevel
  contributions : List (PluginContribution Rest)
  deriving DecidableEq

inductive ContributionTarget where
  | uiTheme (themeId : String)
  | visualRenderer (sourceKind surface : String) (renderScope : VisualRenderScope)
      (selector : Option String)
  | artifactType (artifactType : String)
  | generatedUiRuntime (runtimeId : String)
  | generatedUiSdk (sdkId : String)
  | generatedUiActionBridge (bridgeId : String)
  deriving DecidableEq

def pluginManifestVersionV1 : Nat := 1
def themeContributionVersionV1 : Nat := 1
def visualRendererContributionVersionV1 : Nat := 1
def visualRendererContributionVersionV2 : Nat := 2
def artifactTypeContributionVersionV1 : Nat := 1
def generatedUiRuntimeContributionVersionV1 : Nat := 1
def generatedUiSdkContributionVersionV1 : Nat := 1
def generatedUiActionBridgeContributionVersionV1 : Nat := 1

def themeContributionPermission : String := "ui.theme.contribute"
def visualRendererContributionPermission : String := "visual.renderer.contribute"
def artifactTypeContributionPermission : String := "artifact.type.contribute"
def generatedUiRuntimeContributionPermission : String := "generated_ui.runtime.contribute"
def generatedUiSdkContributionPermission : String := "generated_ui.sdk.contribute"
def generatedUiActionBridgeContributionPermission : String :=
  "generated_ui.action_bridge.contribute"

def maxPluginIdChars : Nat := 128
def maxPluginTextChars : Nat := 2000
def maxPluginPermissions : Nat := 64
def maxPluginContributions : Nat := 128
def maxRendererTargets : Nat := 32
def maxNormalizedRendererTargets : Nat := 128

def isSupportedVisualRendererVersion (version : Nat) : Bool :=
  version == visualRendererContributionVersionV1 || version == visualRendererContributionVersionV2

def rendererSelectors (renderer : VisualRendererContributionV1) : List (Option String) :=
  match renderer.sourceMatcher with
  | some (.fencedLanguage languageIds) => languageIds.map some
  | some (.strictColorLiteral formats) => formats.map some
  | none => [none]

/-! ## 2. The check of a manifest -/

/-- What is taken from outside: the versions, the hash of a manifest, the checks of the
    contributions of which only the id is read, and the digest of a target, which tells targets
    apart. -/
structure PluginSurroundings (Rest Version : Type) where
  parse : String → Option Version
  appVersion : String
  computePluginManifestHash : PluginManifest (PluginDetails Rest) → String
  validateThemeContribution : ThemeContributionV1 Rest → Except PluginError Unit
  validateGeneratedUiRuntimeContribution :
    GeneratedUiRuntimeContributionV1 Rest → Except PluginError Unit
  validateGeneratedUiSdkContribution : GeneratedUiSdkContributionV1 Rest → Except PluginError Unit
  validateGeneratedUiActionBridgeContribution :
    GeneratedUiActionBridgeContributionV1 Rest → Except PluginError Unit
  contributionTargetId : ContributionTarget → String
  targetId_inj : Function.Injective contributionTargetId

def pluginManifestError (message : String) : PluginError :=
  .badRequest "plugin.manifest_invalid" message

def demand (holds : Bool) (message : String) : Except PluginError Unit :=
  if holds then .ok () else .error (pluginManifestError message)

/-- The characters of an id: `.`, `-`, `_`, a small letter or a digit. -/
def isIdCharacter (c : Char) : Bool :=
  c.isLower || c.isDigit || c == '.' || c == '-' || c == '_'

def validateNamespacedId (value field : String) : Except PluginError Unit :=
  demand (decide (value.utf8ByteSize ≤ maxPluginIdChars) && value.toList.contains '.' &&
      value.toList.all isIdCharacter)
    ("Plugin " ++ field ++ " must be a bounded namespaced identifier")

def validSelector (value : String) : Bool :=
  value ≠ "" && decide (value.utf8ByteSize ≤ maxPluginIdChars) && value.toList.all isIdCharacter

def hasDuplicates {α : Type} [DecidableEq α] : List α → Bool
  | [] => false
  | value :: rest => rest.contains value || hasDuplicates rest

def scopesMatchRendererKind (renderer : VisualRendererContributionV1) : Bool :=
  match renderer.rendererKind with
  | .content => renderer.renderScopes.all (· == .contentEnhancement)
  | .inlineFragment =>
    renderer.renderScopes.all fun scope => scope == .inlineFragment || scope == .detailView
  | .block => renderer.renderScopes.all (· == .block)
  | .artifactViewer =>
    renderer.renderScopes.all fun scope => scope == .artifactViewer || scope == .detailView

def validateVisualRendererContribution (contractVersion : Nat)
    (renderer : VisualRendererContributionV1) : Except PluginError Unit := do
  validateNamespacedId renderer.rendererId "renderer_id"
  validateNamespacedId renderer.implementationId "implementation_id"
  demand (!(renderer.acceptedSourceKinds.isEmpty || renderer.renderScopes.isEmpty ||
      renderer.allowedSurfaces.isEmpty ||
      decide (maxRendererTargets < renderer.acceptedSourceKinds.length) ||
      decide (maxRendererTargets < renderer.renderScopes.length) ||
      decide (maxRendererTargets < renderer.allowedSurfaces.length)))
    "Visual renderer targets are empty or oversized"
  let selectors := rendererSelectors renderer
  let normalizedTargetCount := renderer.acceptedSourceKinds.length * renderer.renderScopes.length *
    renderer.allowedSurfaces.length * selectors.length
  demand (decide (normalizedTargetCount ≤ maxNormalizedRendererTargets))
    "Visual renderer expands to too many targets"
  demand (!(normalizedTargetCount == 0 || hasDuplicates renderer.acceptedSourceKinds ||
      hasDuplicates renderer.renderScopes || hasDuplicates renderer.allowedSurfaces))
    "Visual renderer targets must be unique"
  renderer.acceptedSourceKinds.forM (validateNamespacedId · "accepted_source_kind")
  renderer.allowedSurfaces.forM (validateNamespacedId · "allowed_surface")
  demand (scopesMatchRendererKind renderer) "Visual renderer kind does not match its render scopes"
  demand ((renderer.rendererKind == .inlineFragment) == renderer.sourceMatcher.isSome)
    "Inline fragment renderers require a declarative source matcher"
  demand (!(contractVersion == visualRendererContributionVersionV1 &&
      (renderer.rendererKind != .content || renderer.renderScopes != [.contentEnhancement] ||
        renderer.sourceMatcher.isSome || !renderer.visualKinds.isEmpty ||
        !renderer.actions.isEmpty)))
    "visual.renderer v1 only supports content enhancement"
  demand (!(renderer.sourceMatcher.isSome && (selectors.isEmpty ||
      decide (maxRendererTargets < selectors.length) ||
      selectors.any fun selector => !(selector.any validSelector))))
    "Visual renderer source matcher is empty or invalid"
  renderer.visualKinds.forM (validateNamespacedId · "visual_kind")
  renderer.actions.forM (validateNamespacedId · "visual_action")

def validateArtifactTypeContribution (contribution : ArtifactTypeContributionV1) :
    Except PluginError Unit := do
  validateNamespacedId contribution.artifactTypeId "artifact_type_id"
  demand (!(contribution.displayName == "" || contribution.description == "" ||
      decide (maxPluginTextChars < contribution.displayName.length) ||
      decide (maxPluginTextChars < contribution.description.length) ||
      contribution.schemaVersion == 0))
    "Artifact type metadata is empty or invalid"

section Check

variable {Rest Version : Type} (host : PluginSurroundings Rest Version)

def requireManifestPermission (manifest : PluginManifest (PluginDetails Rest))
    (permission contributionLabel : String) : Except PluginError Unit :=
  demand (manifest.requestedPermissions.contains permission)
    (contributionLabel ++ " contribution requires " ++ permission)

/-- The branch of the check for a contribution's kind. -/
def validateContribution (manifest : PluginManifest (PluginDetails Rest)) :
    PluginContribution Rest → Except PluginError Unit
  | .uiTheme _ contractVersion contribution => do
    demand (contractVersion == themeContributionVersionV1)
      "Unsupported ui.theme contribution version"
    demand (manifest.requestedPermissions.contains themeContributionPermission)
      "Theme contribution requires ui.theme.contribute"
    host.validateThemeContribution contribution
  | .visualRenderer _ contractVersion contribution => do
    demand (isSupportedVisualRendererVersion contractVersion)
      "Unsupported visual.renderer contribution version"
    demand (manifest.details.trustLevel == .trustedBundled)
      "Visual renderer contribution requires trusted_bundled"
    demand (manifest.requestedPermissions.contains visualRendererContributionPermission)
      "Visual renderer contribution requires visual.renderer.contribute"
    validateVisualRendererContribution contractVersion contribution
  | .artifactType _ contractVersion contribution => do
    demand (contractVersion == artifactTypeContributionVersionV1)
      "Unsupported artifact.type contribution version"
    demand (manifest.requestedPermissions.contains artifactTypeContributionPermission)
      "Artifact type contribution requires artifact.type.contribute"
    validateArtifactTypeContribution contribution
  | .generatedUiRuntime _ contractVersion contribution => do
    demand (contractVersion == generatedUiRuntimeContributionVersionV1)
      "Unsupported generated_ui.runtime contribution version"
    requireManifestPermission manifest generatedUiRuntimeContributionPermission
      "Generated UI runtime"
    host.validateGeneratedUiRuntimeContribution contribution
  | .generatedUiSdk _ contractVersion contribution => do
    demand (contractVersion == generatedUiSdkContributionVersionV1)
      "Unsupported generated_ui.sdk contribution version"
    requireManifestPermission manifest generatedUiSdkContributionPermission "Generated UI SDK"
    host.validateGeneratedUiSdkContribution contribution
  | .generatedUiActionBridge _ contractVersion contribution => do
    demand (contractVersion == generatedUiActionBridgeContributionVersionV1)
      "Unsupported generated_ui.action_bridge contribution version"
    requireManifestPermission manifest generatedUiActionBridgeContributionPermission
      "Generated UI action bridge"
    host.validateGeneratedUiActionBridgeContribution contribution
  | .agentTool .. => .ok ()

/-- The loop over the contributions; `contributionIds` are the ids met so far. -/
def validateContributions (manifest : PluginManifest (PluginDetails Rest))
    (contributionIds : List String) : List (PluginContribution Rest) → Except PluginError Unit
  | [] => .ok ()
  | contribution :: rest => do
    validateNamespacedId (contributionId contribution) "contribution_id"
    demand (!contributionIds.contains (contributionId contribution))
      "Plugin contribution identifiers must be unique"
    validateContribution host manifest contribution
    validateContributions manifest (contributionId contribution :: contributionIds) rest

def supportedPermissions : List String :=
  [themeContributionPermission, visualRendererContributionPermission,
    artifactTypeContributionPermission, generatedUiRuntimeContributionPermission,
    generatedUiSdkContributionPermission, generatedUiActionBridgeContributionPermission]

def validatePluginManifest (manifest : PluginManifest (PluginDetails Rest)) :
    Except PluginError Unit := do
  let details := manifest.details
  demand (details.manifestVersion == pluginManifestVersionV1) "Unsupported plugin manifest version"
  validateNamespacedId manifest.pluginId "plugin_id"
  demand (host.parse manifest.version).isSome "Plugin version must be SemVer"
  [details.displayName, details.description, details.publisher].forM fun value =>
    demand (!(value == "" || decide (maxPluginTextChars < value.length)))
      "Plugin metadata is empty or oversized"
  demand (!(decide (maxPluginPermissions < manifest.requestedPermissions.length) ||
      decide (maxPluginContributions < details.contributions.length)))
    "Plugin manifest has too many entries"
  demand (!(details.installSource != .bundled ||
      !(details.trustLevel == .dataOnly || details.trustLevel == .trustedBundled)))
    "Plugin Registry accepts bundled data-only or trusted packages"
  demand (!manifest.requestedPermissions.any (!supportedPermissions.contains ·))
    "Plugin Registry v1 contains an unsupported permission"
  demand (!("uprava.".toList.isPrefixOf manifest.pluginId.toList &&
      details.installSource != .bundled))
    "Reserved plugin namespace"
  validateContributions host manifest [] details.contributions

end Check

/-! ## 3. The snapshot -/

structure ContributionRef where
  pluginId : PluginId
  contributionId : String
  deriving DecidableEq

inductive EffectiveContributionState where
  | available | disabled
  deriving DecidableEq

inductive ContributionResolutionMode where
  | exclusive | ordered
  deriving DecidableEq

structure EffectiveContribution (Rest : Type) where
  pluginId : PluginId
  pluginVersion : String
  contributionId : String
  extensionPoint : String
  contractVersion : Nat
  target : ContributionTarget
  effectiveState : EffectiveContributionState
  contribution : PluginContribution Rest
  deriving DecidableEq

structure ContributionTargetResolution (Rest : Type) where
  targetId : String
  extensionPoint : String
  mode : ContributionResolutionMode
  target : ContributionTarget
  revision : Nat
  conflict : Bool
  contributions : List (EffectiveContribution Rest)
  deriving DecidableEq

structure EffectivePluginSnapshot (Rest : Type) where
  contributions : List (EffectiveContribution Rest)
  resolutions : List (ContributionTargetResolution Rest)
  generatedAt : DateTime
  deriving DecidableEq

structure StoredContributionPreference where
  revision : Nat
  ordered : List ContributionRef
  disabled : List ContributionRef
  deriving DecidableEq

/-- `unwrap_or_default`. -/
def StoredContributionPreference.none : StoredContributionPreference := ⟨0, [], []⟩

structure TargetGroupDraft (Rest : Type) where
  extensionPoint : String
  target : ContributionTarget
  contributions : List (EffectiveContribution Rest)

structure SnapshotDraft (Rest : Type) where
  directContributions : List (EffectiveContribution Rest)
  targetGroups : OrderedMap String (TargetGroupDraft Rest)

def ContributionRef.sortKey (reference : ContributionRef) : PluginId ×ₗ String :=
  toLex (reference.pluginId, reference.contributionId)

def contributionRefKey (reference : ContributionRef) : String :=
  reference.pluginId ++ "\u001f" ++ reference.contributionId

section Snapshot

variable {Rest Version : Type}

def EffectiveContribution.reference (c : EffectiveContribution Rest) : ContributionRef :=
  ⟨c.pluginId, c.contributionId⟩

/-- `contribution_ref_sort_key`. -/
def contributionRefSortKey (c : EffectiveContribution Rest) : PluginId ×ₗ String :=
  c.reference.sortKey

def effectiveContributionKey (c : EffectiveContribution Rest) : String :=
  contributionRefKey c.reference

/-- A contribution of a manifest for a target, as it is before the preferences are read. -/
def effectiveOn (manifest : PluginManifest (PluginDetails Rest)) (extensionPoint : String)
    (contractVersion : Nat) (contribution : PluginContribution Rest)
    (target : ContributionTarget) : EffectiveContribution Rest where
  pluginId := manifest.pluginId
  pluginVersion := manifest.version
  contributionId := contributionId contribution
  extensionPoint
  contractVersion
  target
  effectiveState := .available
  contribution

variable (host : PluginSurroundings Rest Version)

def pushExclusiveContribution (targetGroups : OrderedMap String (TargetGroupDraft Rest))
    (effective : EffectiveContribution Rest) : OrderedMap String (TargetGroupDraft Rest) :=
  targetGroups.enter (host.contributionTargetId effective.target)
    { extensionPoint := effective.extensionPoint
      target := effective.target
      contributions := [] }
    fun draft => { draft with contributions := draft.contributions ++ [effective] }

/-- The four loops over what a renderer accepts. -/
def rendererTargets (renderer : VisualRendererContributionV1) : List ContributionTarget :=
  renderer.acceptedSourceKinds.flatMap fun sourceKind =>
    renderer.allowedSurfaces.flatMap fun surface =>
      renderer.renderScopes.flatMap fun renderScope =>
        (rendererSelectors renderer).map fun selector =>
          .visualRenderer sourceKind surface renderScope selector

/-- The body of the loop over the contributions of a manifest. -/
def contribute (manifest : PluginManifest (PluginDetails Rest)) (draft : SnapshotDraft Rest)
    (contribution : PluginContribution Rest) : SnapshotDraft Rest :=
  let push (extensionPoint : String) (contractVersion : Nat)
      (targets : List ContributionTarget) : SnapshotDraft Rest :=
    { draft with
      targetGroups := (targets.map (effectiveOn manifest extensionPoint contractVersion
        contribution)).foldl (pushExclusiveContribution host) draft.targetGroups }
  match contribution with
  | .uiTheme _ contractVersion theme =>
    if contractVersion = themeContributionVersionV1 then
      { draft with
        directContributions := draft.directContributions ++
          [effectiveOn manifest "ui.theme" contractVersion contribution (.uiTheme theme.themeId)] }
    else draft
  | .visualRenderer _ contractVersion renderer =>
    if isSupportedVisualRendererVersion contractVersion then
      push "visual.renderer" contractVersion (rendererTargets renderer)
    else draft
  | .artifactType _ contractVersion artifactType =>
    if contractVersion = artifactTypeContributionVersionV1 then
      push "artifact.type" contractVersion [.artifactType artifactType.artifactTypeId]
    else draft
  | .generatedUiRuntime _ contractVersion runtime =>
    if contractVersion = generatedUiRuntimeContributionVersionV1 then
      push "generated_ui.runtime" contractVersion [.generatedUiRuntime runtime.runtimeId]
    else draft
  | .generatedUiSdk _ contractVersion sdk =>
    if contractVersion = generatedUiSdkContributionVersionV1 then
      push "generated_ui.sdk" contractVersion [.generatedUiSdk sdk.sdkId]
    else draft
  | .generatedUiActionBridge _ contractVersion bridge =>
    if contractVersion = generatedUiActionBridgeContributionVersionV1 then
      push "generated_ui.action_bridge" contractVersion [.generatedUiActionBridge bridge.bridgeId]
    else draft
  | .agentTool .. => draft

def snapshotDraft (manifests : List (PluginManifest (PluginDetails Rest))) : SnapshotDraft Rest :=
  manifests.foldl
    (fun draft manifest => manifest.details.contributions.foldl (contribute host manifest) draft)
    ⟨[], .empty⟩

def resolveTarget (preferences : Assoc String StoredContributionPreference)
    (group : String × TargetGroupDraft Rest) : ContributionTargetResolution Rest :=
  let (targetId, draft) := group
  let sorted := draft.contributions.insertionSort fun left right =>
    contributionRefSortKey left ≤ contributionRefSortKey right
  let preference := (preferences.lookup targetId).getD .none
  let ordered := arrange contributionRefSortKey
    (preference.ordered.map ContributionRef.sortKey) sorted
  let disabled := preference.disabled.map contributionRefKey
  let contributions := ordered.map fun candidate =>
    if disabled.contains (effectiveContributionKey candidate) then
      { candidate with effectiveState := .disabled }
    else candidate
  { targetId
    extensionPoint := draft.extensionPoint
    mode := .exclusive
    target := draft.target
    revision := preference.revision
    conflict := decide (1 < contributions.countP (·.effectiveState == .available))
    contributions }

/-- What the snapshot computes of the manifests and the preferences that it has read. -/
def snapshotOf (manifests : List (PluginManifest (PluginDetails Rest)))
    (preferences : Assoc String StoredContributionPreference) (now : DateTime) :
    EffectivePluginSnapshot Rest :=
  let draft := snapshotDraft host manifests
  let resolutions := draft.targetGroups.entries.map (resolveTarget preferences)
  { contributions := draft.directContributions ++ resolutions.flatMap (·.contributions)
    resolutions
    generatedAt := now }

/-- The manifests of the active versions of the active plugins, in the order of the plugins. -/
def PluginRegistry.activeManifests (s : PluginRegistry (PluginDetails Rest)) :
    List (PluginManifest (PluginDetails Rest)) :=
  (s.installations.entries.insertionSort fun a b => a.1 ≤ b.1).filterMap fun installation =>
    if installation.2.effectiveState = .active then
      (s.packages.lookup (installation.1, installation.2.activeVersion)).map (·.manifest)
    else none

/-- The tables of the registry and the preferences. A package is stored under the id and the version
    of its manifest, and its manifest was checked. -/
structure PluginDatabase where
  registry : PluginRegistry (PluginDetails Rest)
  preferences : Assoc String StoredContributionPreference
  checked : ∀ key package, registry.packages.lookup key = some package →
    key = (package.manifest.pluginId, package.manifest.version) ∧
      validatePluginManifest host package.manifest = .ok ()

variable {host}

def effectivePluginSnapshot (db : PluginDatabase host) (now : DateTime) :
    EffectivePluginSnapshot Rest :=
  snapshotOf host db.registry.activeManifests db.preferences now

end Snapshot

/-! ## 4. Registration -/

section Registration

variable {Rest Version : Type} [LinearOrder Version] (host : PluginSurroundings Rest Version)

/-- What the registration of a plugin takes from outside. -/
def PluginSurroundings.pluginHost : PluginHost (PluginDetails Rest) Version where
  parse := host.parse
  appVersion := host.appVersion
  computePluginManifestHash := host.computePluginManifestHash
  validatePluginManifest := validatePluginManifest host

/-- A bundled manifest, with its default state and the time at which it is registered. -/
structure BundledPlugin (Rest : Type) where
  manifest : PluginManifest (PluginDetails Rest)
  defaultState : PluginDesiredState
  now : DateTime

variable {host}

theorem checked_register {db : PluginDatabase host} {bundled : BundledPlugin Rest}
    {t : PluginRegistry (PluginDetails Rest)}
    (hvalid : validatePluginManifest host bundled.manifest = .ok ())
    (h : registerBundledPlugin host.pluginHost db.registry bundled.manifest bundled.defaultState
      bundled.now = .ok t) :
    ∀ key package, t.packages.lookup key = some package →
      key = (package.manifest.pluginId, package.manifest.version) ∧
        validatePluginManifest host package.manifest = .ok () := by
  intro key package hpackage
  rw [(registerBundledPlugin_spec.1 t h).packages] at hpackage
  cases hold : db.registry.packages.lookup key with
  | some old =>
    rw [hold] at hpackage
    cases hpackage
    exact db.checked key package hold
  | none =>
    rw [hold, Option.none_or] at hpackage
    split at hpackage
    · rename_i hkey
      cases hpackage
      exact ⟨hkey, hvalid⟩
    · cases hpackage

/-- The body of the bootstrap: the manifest is checked and registered. -/
def registerBundled (bundled : BundledPlugin Rest) (db : PluginDatabase host) :
    PluginDatabase host × Option PluginError :=
  match hvalid : validatePluginManifest host bundled.manifest with
  | .error e => (db, some e)
  | .ok () =>
    match h : registerBundledPlugin host.pluginHost db.registry bundled.manifest
        bundled.defaultState bundled.now with
    | .error e => (db, some e)
    | .ok registry => (⟨registry, db.preferences, checked_register hvalid h⟩, none)

/-- The bundled plugins one after the other; the first error ends the start of Core. -/
def bootstrapBundledPlugins (db : PluginDatabase host) (bundled : List (BundledPlugin Rest)) :
    PluginDatabase host × Option PluginError :=
  each registerBundled bundled db

end Registration

/-! ## 5. What is asked of a snapshot -/

section Property

variable {Rest Version : Type} {host : PluginSurroundings Rest Version}

/-- The contribution names the target. -/
def PluginContribution.Names : PluginContribution Rest → ContributionTarget → Prop
  | .uiTheme _ contractVersion theme, .uiTheme themeId =>
    contractVersion = themeContributionVersionV1 ∧ themeId = theme.themeId
  | .visualRenderer _ contractVersion renderer,
      .visualRenderer sourceKind surface renderScope selector =>
    isSupportedVisualRendererVersion contractVersion = true ∧
      sourceKind ∈ renderer.acceptedSourceKinds ∧ surface ∈ renderer.allowedSurfaces ∧
      renderScope ∈ renderer.renderScopes ∧ selector ∈ rendererSelectors renderer
  | .artifactType _ contractVersion artifact, .artifactType id =>
    contractVersion = artifactTypeContributionVersionV1 ∧ id = artifact.artifactTypeId
  | .generatedUiRuntime _ contractVersion runtime, .generatedUiRuntime id =>
    contractVersion = generatedUiRuntimeContributionVersionV1 ∧ id = runtime.runtimeId
  | .generatedUiSdk _ contractVersion sdk, .generatedUiSdk id =>
    contractVersion = generatedUiSdkContributionVersionV1 ∧ id = sdk.sdkId
  | .generatedUiActionBridge _ contractVersion bridge, .generatedUiActionBridge id =>
    contractVersion = generatedUiActionBridgeContributionVersionV1 ∧ id = bridge.bridgeId
  | _, _ => False

/-- Themes are chosen by their id; of the other targets one contribution is in effect. -/
def ContributionTarget.Exclusive : ContributionTarget → Prop
  | .uiTheme _ => False
  | _ => True

/-- The plugin is active, and the contribution is one of the manifest of its active version. -/
def PluginDatabase.Contributes (db : PluginDatabase host) (pluginId : PluginId) (version : String)
    (contribution : PluginContribution Rest) : Prop :=
  ∃ installation package, db.registry.installations.lookup pluginId = some installation ∧
    installation.effectiveState = .active ∧ installation.activeVersion = version ∧
    db.registry.packages.lookup (pluginId, version) = some package ∧
    contribution ∈ package.manifest.details.contributions

def PluginDatabase.Names (db : PluginDatabase host) (reference : ContributionRef)
    (target : ContributionTarget) : Prop :=
  ∃ version contribution, db.Contributes reference.pluginId version contribution ∧
    contributionId contribution = reference.contributionId ∧ contribution.Names target

def PluginDatabase.preference (db : PluginDatabase host) (target : ContributionTarget) :
    StoredContributionPreference :=
  (db.preferences.lookup (host.contributionTargetId target)).getD .none

/-- What the snapshot lists for a target. -/
def EffectivePluginSnapshot.listed (snapshot : EffectivePluginSnapshot Rest)
    (target : ContributionTarget) : List (EffectiveContribution Rest) :=
  snapshot.contributions.filter (·.target = target)

/-- **A target resolved by a preference**: the contributions stand by rank, none twice; the disabled
    ones are the ones of the preference; there is a conflict when two different ones are left. -/
structure ContributionTargetResolution.ResolvedBy
    (resolution : ContributionTargetResolution Rest) (preference : StoredContributionPreference) :
    Prop where
  revision : resolution.revision = preference.revision
  ordered : resolution.contributions.Pairwise fun a b =>
    rank (preference.ordered.map ContributionRef.sortKey) (contributionRefSortKey a) <
      rank (preference.ordered.map ContributionRef.sortKey) (contributionRefSortKey b)
  disabled : ∀ c ∈ resolution.contributions,
    c.effectiveState = .disabled ↔ c.reference ∈ preference.disabled
  conflict : resolution.conflict = true ↔
    ∃ a ∈ resolution.contributions, ∃ b ∈ resolution.contributions,
      a.effectiveState = .available ∧ b.effectiveState = .available ∧ a.reference ≠ b.reference

/-- **A snapshot lists the contributions in effect**: for each target those that name it, each once;
    each target that is named has one resolution, by its preference. -/
structure Effective (db : PluginDatabase host) (snapshot : EffectivePluginSnapshot Rest) :
    Prop where
  whole : ∀ c ∈ snapshot.contributions, db.Contributes c.pluginId c.pluginVersion c.contribution ∧
    contributionId c.contribution = c.contributionId
  named : ∀ target reference, reference ∈ (snapshot.listed target).map (·.reference) ↔
    db.Names reference target
  once : ∀ target, ((snapshot.listed target).map (·.reference)).Nodup
  targets : ∀ target, (∃ resolution ∈ snapshot.resolutions, resolution.target = target) ↔
    target.Exclusive ∧ ∃ reference, db.Names reference target
  single : (snapshot.resolutions.map (·.target)).Nodup
  resolved : ∀ resolution ∈ snapshot.resolutions,
    resolution.contributions = snapshot.listed resolution.target ∧
      resolution.ResolvedBy (db.preference resolution.target)

/-- The two databases have the same rows. -/
structure SameRows (db db' : PluginDatabase host) : Prop where
  packages : ∀ key, db.registry.packages.lookup key = db'.registry.packages.lookup key
  installations : ∀ key,
    db.registry.installations.lookup key = db'.registry.installations.lookup key
  preferences : ∀ key, db.preferences.lookup key = db'.preferences.lookup key

/-- **The order does not matter**: not that in which the rows are found, nor that in which
    different plugins are registered at a start of Core. -/
def PluginDatabase.OrderFree [LinearOrder Version] (db : PluginDatabase host) (now : DateTime) :
    Prop :=
  (∀ db', SameRows db db' → effectivePluginSnapshot db' now = effectivePluginSnapshot db now) ∧
    ∀ bundled bundled' : List (BundledPlugin Rest), bundled.Perm bundled' →
      (bundled.map (·.manifest.pluginId)).Nodup → (bootstrapBundledPlugins db bundled).2 = none →
      (bootstrapBundledPlugins db bundled').2 = none ∧
        effectivePluginSnapshot (bootstrapBundledPlugins db bundled').1 now =
          effectivePluginSnapshot (bootstrapBundledPlugins db bundled).1 now

/-- **The selectors of every visual renderer in effect are different.** -/
def PluginDatabase.SelectorsDiffer (db : PluginDatabase host) : Prop :=
  ∀ pluginId version id contractVersion renderer,
    db.Contributes pluginId version (.visualRenderer id contractVersion renderer) →
      (rendererSelectors renderer).Nodup

end Property

end Uprava.Core.Plugins
