/-
  File:      Uprava/Core/EffectiveContributions.lean
  Subject:   When the snapshot of the contributions in effect is what it says.

  * `snapshotDraft_eq`      -- the draft holds what each contribution offers, in the order of the
    manifests;
  * `exclusiveTargets_nodup_iff` -- a checked contribution names a target twice only by a repeated
    selector;
  * **`effective_contributions_iff`** -- the snapshot is right, whatever the preferences, exactly
    when no visual renderer in effect repeats a selector.
-/
import Uprava.Core.Contributions

namespace Uprava.Core.Plugins

open Uprava.Protocol
open Uprava.Lib

section Check

variable {Rest Version : Type} {host : PluginSurroundings Rest Version}

/-! ## 1. What a checked manifest is -/

@[simp] theorem demand_ok {holds : Bool} {message : String} :
    demand holds message = .ok () ↔ holds = true := by
  cases holds <;> simp [demand]

theorem seq_ok {x y : Except PluginError Unit} :
    (x >>= fun _ => y) = .ok () ↔ x = .ok () ∧ y = .ok () := by
  rw [bind_eq_ok]
  exact ⟨fun ⟨(), hx, hy⟩ => ⟨hx, hy⟩, fun ⟨hx, hy⟩ => ⟨(), hx, hy⟩⟩

theorem hasDuplicates_eq_false {α : Type} [DecidableEq α] {xs : List α} :
    hasDuplicates xs = false ↔ xs.Nodup := by
  induction xs with
  | nil => simp [hasDuplicates]
  | cons x xs ih => simp [hasDuplicates, ih]

/-- The text is an id: all its characters are those of ids. -/
def IsId (value : String) : Prop := ∀ c ∈ value.toList, isIdCharacter c = true

theorem isId_of_validate {value field : String} (h : validateNamespacedId value field = .ok ()) :
    IsId value := by
  rw [validateNamespacedId, demand_ok, Bool.and_eq_true] at h
  exact List.all_eq_true.mp h.2

/-- The parts of a renderer that its check keeps free of repetitions. -/
structure VisualRendererContributionV1.Checked (renderer : VisualRendererContributionV1) :
    Prop where
  sourceKinds : renderer.acceptedSourceKinds ≠ [] ∧ renderer.acceptedSourceKinds.Nodup
  scopes : renderer.renderScopes ≠ [] ∧ renderer.renderScopes.Nodup
  surfaces : renderer.allowedSurfaces ≠ [] ∧ renderer.allowedSurfaces.Nodup

theorem checked_of_validate {contractVersion : Nat} {renderer : VisualRendererContributionV1}
    (h : validateVisualRendererContribution contractVersion renderer = .ok ()) :
    renderer.Checked := by
  unfold validateVisualRendererContribution at h
  simp only [seq_ok, demand_ok] at h
  obtain ⟨-, -, hempty, -, hunique, -⟩ := h
  simp only [Bool.not_eq_true', Bool.or_eq_false_iff, List.isEmpty_eq_false_iff,
    hasDuplicates_eq_false] at hempty hunique
  obtain ⟨⟨⟨⟨⟨hkinds, hscopes⟩, hsurfaces⟩, -⟩, -⟩, -⟩ := hempty
  obtain ⟨⟨⟨-, hkinds'⟩, hscopes'⟩, hsurfaces'⟩ := hunique
  exact ⟨⟨hkinds, hkinds'⟩, ⟨hscopes, hscopes'⟩, ⟨hsurfaces, hsurfaces'⟩⟩

theorem of_validateContributions {manifest : PluginManifest (PluginDetails Rest)}
    {ids : List String} {contributions : List (PluginContribution Rest)}
    (h : validateContributions host manifest ids contributions = .ok ()) :
    (contributions.map contributionId).Nodup ∧
      ∀ c ∈ contributions, contributionId c ∉ ids ∧ IsId (contributionId c) ∧
        validateContribution host manifest c = .ok () := by
  induction contributions generalizing ids with
  | nil => simp
  | cons c rest ih =>
    rw [validateContributions] at h
    simp only [seq_ok, demand_ok] at h
    obtain ⟨hid, hnew, hc, hrest⟩ := h
    obtain ⟨hnodup, hall⟩ := ih hrest
    refine ⟨List.nodup_cons.mpr ⟨fun hmem => ?_, hnodup⟩, fun c' hc' => ?_⟩
    · obtain ⟨c', hc', heq⟩ := List.mem_map.mp hmem
      exact (hall c' hc').1 (heq ▸ List.mem_cons_self)
    · rcases List.mem_cons.mp hc' with rfl | hc'
      · exact ⟨by simpa using hnew, isId_of_validate hid, hc⟩
      · obtain ⟨hnotin, hid', hvalid⟩ := hall c' hc'
        exact ⟨fun hmem => hnotin (List.mem_cons_of_mem _ hmem), hid', hvalid⟩

/-- **What the check of a manifest ensures.** -/
structure Lawful (manifest : PluginManifest (PluginDetails Rest)) : Prop where
  pluginId : IsId manifest.pluginId
  ids : (manifest.details.contributions.map contributionId).Nodup
  id : ∀ c ∈ manifest.details.contributions, IsId (contributionId c)
  renderer : ∀ id contractVersion renderer,
    .visualRenderer id contractVersion renderer ∈ manifest.details.contributions →
      isSupportedVisualRendererVersion contractVersion = true ∧ renderer.Checked

theorem lawful_of_validate {manifest : PluginManifest (PluginDetails Rest)}
    (h : validatePluginManifest host manifest = .ok ()) : Lawful manifest := by
  unfold validatePluginManifest at h
  simp only [seq_ok] at h
  obtain ⟨-, hid, -, -, -, -, -, -, hcontributions⟩ := h
  obtain ⟨hnodup, hall⟩ := of_validateContributions hcontributions
  refine ⟨isId_of_validate hid, hnodup, fun c hc => (hall c hc).2.1, ?_⟩
  intro id contractVersion renderer hmem
  have hvalid := (hall _ hmem).2.2
  rw [validateContribution] at hvalid
  simp only [seq_ok, demand_ok] at hvalid
  exact ⟨hvalid.1, checked_of_validate hvalid.2.2.2⟩

/-! ## 2. The key of a reference -/

/-- The text before the first separator, and what follows it. -/
theorem append_sep_inj {sep : Char} {p c p' c' : List Char} (hp : sep ∉ p) (hc : sep ∉ c)
    (h : p ++ sep :: c = p' ++ sep :: c') : p = p' ∧ c = c' := by
  induction p generalizing p' with
  | nil =>
    cases p' with
    | nil => exact ⟨rfl, (List.cons.inj h).2⟩
    | cons x p' =>
      -- a second separator would be in the part after the first
      refine absurd ?_ hc
      rw [(List.cons.inj h).2]
      exact List.mem_append_right _ List.mem_cons_self
  | cons x p ih =>
    cases p' with
    | nil => exact absurd (List.mem_cons.mpr (.inl (List.cons.inj h).1.symm)) hp
    | cons y p' =>
      obtain ⟨rfl, htail⟩ := List.cons.inj h
      obtain ⟨rfl, rfl⟩ := ih (List.not_mem_of_not_mem_cons hp) htail
      exact ⟨rfl, rfl⟩

theorem IsId.no_separator {value : String} (h : IsId value) : '\u001f' ∉ value.toList :=
  fun hmem => absurd (h _ hmem) (by decide)

/-- **The key tells the reference to ids from every other.** -/
theorem contributionRefKey_inj {reference reference' : ContributionRef}
    (hp : IsId reference.pluginId) (hc : IsId reference.contributionId)
    (h : contributionRefKey reference = contributionRefKey reference') :
    reference = reference' := by
  have htexts := congrArg String.toList h
  simp only [contributionRefKey, String.toList_append, List.append_assoc] at htexts
  obtain ⟨hplugin, hcontribution⟩ := append_sep_inj hp.no_separator hc.no_separator htexts
  obtain ⟨p, c⟩ := reference
  obtain ⟨p', c'⟩ := reference'
  obtain rfl : p = p' := String.toList_inj.mp hplugin
  obtain rfl : c = c' := String.toList_inj.mp hcontribution
  rfl

/-! ## 3. What each contribution offers -/

/-- The targets of a contribution of which one contribution is in effect. -/
def exclusiveTargets : PluginContribution Rest → List ContributionTarget
  | .visualRenderer _ contractVersion renderer =>
    if isSupportedVisualRendererVersion contractVersion then rendererTargets renderer else []
  | .artifactType _ contractVersion artifactType =>
    if contractVersion = artifactTypeContributionVersionV1 then
      [.artifactType artifactType.artifactTypeId] else []
  | .generatedUiRuntime _ contractVersion runtime =>
    if contractVersion = generatedUiRuntimeContributionVersionV1 then
      [.generatedUiRuntime runtime.runtimeId] else []
  | .generatedUiSdk _ contractVersion sdk =>
    if contractVersion = generatedUiSdkContributionVersionV1 then [.generatedUiSdk sdk.sdkId]
    else []
  | .generatedUiActionBridge _ contractVersion bridge =>
    if contractVersion = generatedUiActionBridgeContributionVersionV1 then
      [.generatedUiActionBridge bridge.bridgeId] else []
  | .uiTheme .. | .agentTool .. => []

def themeTargets : PluginContribution Rest → List ContributionTarget
  | .uiTheme _ contractVersion theme =>
    if contractVersion = themeContributionVersionV1 then [.uiTheme theme.themeId] else []
  | _ => []

def extensionPoint : PluginContribution Rest → String
  | .uiTheme .. => "ui.theme"
  | .visualRenderer .. => "visual.renderer"
  | .agentTool .. => ""
  | .artifactType .. => "artifact.type"
  | .generatedUiRuntime .. => "generated_ui.runtime"
  | .generatedUiSdk .. => "generated_ui.sdk"
  | .generatedUiActionBridge .. => "generated_ui.action_bridge"

def contractVersion : PluginContribution Rest → Nat
  | .uiTheme _ version _ | .visualRenderer _ version _ | .agentTool _ version _
  | .artifactType _ version _ | .generatedUiRuntime _ version _ | .generatedUiSdk _ version _
  | .generatedUiActionBridge _ version _ => version

/-- What a contribution of the manifest offers for its targets of one sort. -/
def offersOf (targetsOf : PluginContribution Rest → List ContributionTarget)
    (manifest : PluginManifest (PluginDetails Rest)) (contribution : PluginContribution Rest) :
    List (EffectiveContribution Rest) :=
  (targetsOf contribution).map
    (effectiveOn manifest (extensionPoint contribution) (contractVersion contribution) contribution)

/-- All that the manifests offer. -/
def offered (targetsOf : PluginContribution Rest → List ContributionTarget)
    (manifests : List (PluginManifest (PluginDetails Rest))) : List (EffectiveContribution Rest) :=
  manifests.flatMap fun manifest =>
    manifest.details.contributions.flatMap (offersOf targetsOf manifest)

theorem contribute_eq (manifest : PluginManifest (PluginDetails Rest)) (draft : SnapshotDraft Rest)
    (contribution : PluginContribution Rest) :
    contribute host manifest draft contribution =
      { directContributions := draft.directContributions ++
          offersOf themeTargets manifest contribution
        targetGroups := (offersOf exclusiveTargets manifest contribution).foldl
          (pushExclusiveContribution host) draft.targetGroups } := by
  -- for each kind, the version is the supported one or nothing is offered
  cases contribution <;> simp only [contribute, offersOf, themeTargets, exclusiveTargets] <;>
    (try split_ifs) <;> simp [extensionPoint, contractVersion, *]

theorem foldl_contribute (manifest : PluginManifest (PluginDetails Rest))
    (contributions : List (PluginContribution Rest)) (draft : SnapshotDraft Rest) :
    contributions.foldl (contribute host manifest) draft =
      { directContributions := draft.directContributions ++
          contributions.flatMap (offersOf themeTargets manifest)
        targetGroups := (contributions.flatMap (offersOf exclusiveTargets manifest)).foldl
          (pushExclusiveContribution host) draft.targetGroups } := by
  induction contributions generalizing draft with
  | nil => simp
  | cons contribution rest ih =>
    rw [List.foldl_cons, ih, contribute_eq]
    simp [List.flatMap_cons, List.foldl_append]

/-- **The draft holds what the manifests offer**, one after the other. -/
theorem snapshotDraft_eq (manifests : List (PluginManifest (PluginDetails Rest))) :
    snapshotDraft host manifests =
      { directContributions := offered themeTargets manifests
        targetGroups := (offered exclusiveTargets manifests).foldl
          (pushExclusiveContribution host) .empty } := by
  have hfold : ∀ draft : SnapshotDraft Rest, manifests.foldl
      (fun draft manifest => manifest.details.contributions.foldl (contribute host manifest) draft)
      draft =
        { directContributions := draft.directContributions ++ offered themeTargets manifests
          targetGroups := (offered exclusiveTargets manifests).foldl
            (pushExclusiveContribution host) draft.targetGroups } := by
    induction manifests with
    | nil => simp [offered]
    | cons manifest rest ih =>
      intro draft
      rw [List.foldl_cons, ih, foldl_contribute]
      simp [offered, List.flatMap_cons, List.foldl_append]
  rw [snapshotDraft, hfold, List.nil_append]

/-! ## 4. Which targets a contribution names -/

theorem mem_rendererTargets {renderer : VisualRendererContributionV1} {sourceKind surface : String}
    {renderScope : VisualRenderScope} {selector : Option String} :
    .visualRenderer sourceKind surface renderScope selector ∈ rendererTargets renderer ↔
      sourceKind ∈ renderer.acceptedSourceKinds ∧ surface ∈ renderer.allowedSurfaces ∧
        renderScope ∈ renderer.renderScopes ∧ selector ∈ rendererSelectors renderer := by
  simp only [rendererTargets, List.mem_flatMap, List.mem_map]
  constructor
  · intro ⟨_, hkind, _, hsurface, _, hscope, _, hselector, heq⟩
    cases heq
    exact ⟨hkind, hsurface, hscope, hselector⟩
  · intro ⟨hkind, hsurface, hscope, hselector⟩
    exact ⟨_, hkind, _, hsurface, _, hscope, _, hselector, rfl⟩

theorem target_of_mem_rendererTargets {renderer : VisualRendererContributionV1}
    {target : ContributionTarget} (h : target ∈ rendererTargets renderer) :
    ∃ sourceKind surface renderScope selector,
      target = .visualRenderer sourceKind surface renderScope selector := by
  simp only [rendererTargets, List.mem_flatMap, List.mem_map] at h
  obtain ⟨_, _, _, _, _, _, _, _, rfl⟩ := h
  exact ⟨_, _, _, _, rfl⟩

theorem mem_exclusiveTargets {contribution : PluginContribution Rest}
    {target : ContributionTarget} :
    target ∈ exclusiveTargets contribution ↔ target.Exclusive ∧ contribution.Names target := by
  cases contribution with
  | visualRenderer id version renderer =>
    rw [exclusiveTargets, List.mem_ite_nil_right]
    cases target with
    | visualRenderer => simp [ContributionTarget.Exclusive, PluginContribution.Names,
        mem_rendererTargets]
    | uiTheme | artifactType | generatedUiRuntime | generatedUiSdk | generatedUiActionBridge =>
      refine iff_of_false (fun h => ?_) fun h => h.2
      obtain ⟨_, _, _, _, heq⟩ := target_of_mem_rendererTargets h.2
      cases heq
  | uiTheme | agentTool | artifactType | generatedUiRuntime | generatedUiSdk
  | generatedUiActionBridge =>
    cases target <;> simp [exclusiveTargets, ContributionTarget.Exclusive, PluginContribution.Names]

theorem mem_themeTargets {contribution : PluginContribution Rest} {target : ContributionTarget} :
    target ∈ themeTargets contribution ↔ ¬ target.Exclusive ∧ contribution.Names target := by
  cases contribution <;> cases target <;>
    simp [themeTargets, ContributionTarget.Exclusive, PluginContribution.Names]

theorem nodup_themeTargets (contribution : PluginContribution Rest) :
    (themeTargets contribution).Nodup := by
  cases contribution <;> simp only [themeTargets] <;> (try split_ifs) <;> simp

/-- The targets of a checked renderer are different exactly when its selectors are. -/
theorem rendererTargets_nodup_iff {renderer : VisualRendererContributionV1}
    (h : renderer.Checked) :
    (rendererTargets renderer).Nodup ↔ (rendererSelectors renderer).Nodup := by
  obtain ⟨⟨hkinds, hkinds'⟩, ⟨hscopes, hscopes'⟩, ⟨hsurfaces, hsurfaces'⟩⟩ := h
  have hinner : ∀ sourceKind surface renderScope,
      ((rendererSelectors renderer).map (ContributionTarget.visualRenderer sourceKind surface
        renderScope)).Nodup ↔ (rendererSelectors renderer).Nodup := fun _ _ _ =>
    List.nodup_map_iff fun _ _ heq => (ContributionTarget.visualRenderer.inj heq).2.2.2
  constructor
  · intro hall
    obtain ⟨sourceKind, hsourceKind⟩ := List.exists_mem_of_ne_nil _ hkinds
    obtain ⟨surface, hsurface⟩ := List.exists_mem_of_ne_nil _ hsurfaces
    obtain ⟨renderScope, hrenderScope⟩ := List.exists_mem_of_ne_nil _ hscopes
    have h₁ := (List.nodup_flatMap.mp hall).1 sourceKind hsourceKind
    have h₂ := (List.nodup_flatMap.mp h₁).1 surface hsurface
    have h₃ := (List.nodup_flatMap.mp h₂).1 renderScope hrenderScope
    exact (hinner _ _ _).mp h₃
  · intro hselectors
    -- targets with different parts at any of the four places are different
    refine List.nodup_flatMap.mpr ⟨fun sourceKind _ => List.nodup_flatMap.mpr ⟨fun surface _ =>
      List.nodup_flatMap.mpr ⟨fun renderScope _ => (hinner _ _ _).mpr hselectors, ?_⟩, ?_⟩, ?_⟩
    · refine hscopes'.imp fun hne => List.disjoint_left.mpr fun t ht ht' => hne ?_
      obtain ⟨_, _, rfl⟩ := List.mem_map.mp ht
      obtain ⟨_, _, heq⟩ := List.mem_map.mp ht'
      exact (ContributionTarget.visualRenderer.inj heq).2.2.1.symm
    · refine hsurfaces'.imp fun hne => List.disjoint_left.mpr fun t ht ht' => hne ?_
      simp only [List.mem_flatMap, List.mem_map] at ht ht'
      obtain ⟨_, _, _, _, rfl⟩ := ht
      obtain ⟨_, _, _, _, heq⟩ := ht'
      exact (ContributionTarget.visualRenderer.inj heq).2.1.symm
    · refine hkinds'.imp fun hne => List.disjoint_left.mpr fun t ht ht' => hne ?_
      simp only [List.mem_flatMap, List.mem_map] at ht ht'
      obtain ⟨_, _, _, _, _, _, rfl⟩ := ht
      obtain ⟨_, _, _, _, _, _, heq⟩ := ht'
      exact (ContributionTarget.visualRenderer.inj heq).1.symm

/-- **A checked contribution names a target twice only by a repeated selector.** -/
theorem exclusiveTargets_nodup_iff {manifest : PluginManifest (PluginDetails Rest)}
    (hlawful : Lawful manifest) {contribution : PluginContribution Rest}
    (h : contribution ∈ manifest.details.contributions) :
    (exclusiveTargets contribution).Nodup ↔ ∀ id contractVersion renderer,
      contribution = .visualRenderer id contractVersion renderer →
        (rendererSelectors renderer).Nodup := by
  cases contribution with
  | visualRenderer id version renderer =>
    obtain ⟨hversion, hchecked⟩ := hlawful.renderer id version renderer h
    rw [exclusiveTargets, if_pos hversion, rendererTargets_nodup_iff hchecked]
    constructor
    · intro hnodup _ _ _ heq
      cases heq
      exact hnodup
    · exact fun hall => hall id version renderer rfl
  | uiTheme | agentTool | artifactType | generatedUiRuntime | generatedUiSdk
  | generatedUiActionBridge =>
    refine iff_of_true ?_ fun _ _ _ heq => by cases heq
    simp only [exclusiveTargets]
    first
      | exact List.nodup_nil
      | split_ifs <;> simp

/-! ## 5. The active manifests -/

variable {db : PluginDatabase host}

/-- A manifest is active exactly when it is stored for the active version of an active plugin. -/
theorem mem_activeManifests {manifest : PluginManifest (PluginDetails Rest)} :
    manifest ∈ db.registry.activeManifests ↔ ∃ installation package,
      db.registry.installations.lookup manifest.pluginId = some installation ∧
      installation.effectiveState = .active ∧ installation.activeVersion = manifest.version ∧
      db.registry.packages.lookup (manifest.pluginId, manifest.version) = some package ∧
      package.manifest = manifest := by
  rw [PluginRegistry.activeManifests, List.mem_filterMap]
  constructor
  · intro ⟨⟨key, installation⟩, hmem, hmanifest⟩
    dsimp only at hmanifest
    split at hmanifest
    · rename_i hactive
      obtain ⟨package, hpackage, rfl⟩ := Option.map_eq_some_iff.mp hmanifest
      have hkey := Prod.ext_iff.mp (db.checked _ _ hpackage).1
      have hkey₁ : key = package.manifest.pluginId := hkey.1
      have hkey₂ : installation.activeVersion = package.manifest.version := hkey.2
      rw [← hkey₁, ← hkey₂]
      exact ⟨installation, package,
        AList.mem_lookup_iff.mpr ((List.mem_insertionSort _).mp hmem), hactive, rfl, hpackage, rfl⟩
    · cases hmanifest
  · intro ⟨installation, package, hinstallation, hactive, hversion, hpackage, hmanifest⟩
    refine ⟨⟨manifest.pluginId, installation⟩,
      (List.mem_insertionSort _).mpr (AList.mem_lookup_iff.mp hinstallation), ?_⟩
    dsimp only
    rw [if_pos hactive, hversion, hpackage, Option.map_some, hmanifest]

theorem lawful_of_active {manifest : PluginManifest (PluginDetails Rest)}
    (h : manifest ∈ db.registry.activeManifests) : Lawful manifest := by
  obtain ⟨installation, package, -, -, -, hpackage, rfl⟩ := mem_activeManifests.mp h
  exact lawful_of_validate (db.checked _ _ hpackage).2

/-- A contribution is in effect exactly when it is one of an active manifest. -/
theorem contributes_iff {pluginId : PluginId} {version : String}
    {contribution : PluginContribution Rest} :
    db.Contributes pluginId version contribution ↔ ∃ manifest ∈ db.registry.activeManifests,
      manifest.pluginId = pluginId ∧ manifest.version = version ∧
        contribution ∈ manifest.details.contributions := by
  constructor
  · intro ⟨installation, package, hinstallation, hactive, hversion, hpackage, hcontribution⟩
    have hkey := Prod.ext_iff.mp (db.checked _ _ hpackage).1
    have hkey₁ : pluginId = package.manifest.pluginId := hkey.1
    have hkey₂ : version = package.manifest.version := hkey.2
    subst hkey₁
    subst hkey₂
    exact ⟨package.manifest, mem_activeManifests.mpr
      ⟨installation, package, hinstallation, hactive, hversion, hpackage, rfl⟩, rfl, rfl,
      hcontribution⟩
  · intro ⟨manifest, hmanifest, hid, hversion, hcontribution⟩
    obtain ⟨installation, package, hinstallation, hactive, hactiveVersion, hpackage, rfl⟩ :=
      mem_activeManifests.mp hmanifest
    subst hid
    subst hversion
    exact ⟨installation, package, hinstallation, hactive, hactiveVersion, hpackage, hcontribution⟩

theorem activeManifests_sorted :
    db.registry.activeManifests.Pairwise fun a b => a.pluginId < b.pluginId := by
  have hkeys : db.registry.installations.entries.Pairwise fun a b => a.1 ≠ b.1 :=
    List.pairwise_map.mp db.registry.installations.nodupKeys
  have hle := List.pairwise_insertionSort (fun a b : Sigma fun _ : PluginId =>
    PluginInstallationRow => a.1 ≤ b.1) db.registry.installations.entries
  have hne := ((List.perm_insertionSort (fun a b : Sigma fun _ : PluginId =>
    PluginInstallationRow => a.1 ≤ b.1) db.registry.installations.entries).pairwise_iff
      fun h => Ne.symm h).mpr hkeys
  rw [PluginRegistry.activeManifests, List.pairwise_filterMap]
  refine (hle.and hne).imp fun {a b} hab m hm m' hm' => ?_
  split at hm
  · obtain ⟨package, hpackage, rfl⟩ := Option.map_eq_some_iff.mp hm
    split at hm'
    · obtain ⟨package', hpackage', rfl⟩ := Option.map_eq_some_iff.mp hm'
      have h₁ : a.1 = package.manifest.pluginId := (Prod.ext_iff.mp (db.checked _ _ hpackage).1).1
      have h₂ : b.1 = package'.manifest.pluginId :=
        (Prod.ext_iff.mp (db.checked _ _ hpackage').1).1
      rw [← h₁, ← h₂]
      exact lt_of_le_of_ne hab.1 hab.2
    · cases hm'
  · cases hm

/-! ## 6. What is offered -/

variable {targetsOf : PluginContribution Rest → List ContributionTarget}
  {manifests : List (PluginManifest (PluginDetails Rest))}

theorem mem_offered {c : EffectiveContribution Rest} :
    c ∈ offered targetsOf manifests ↔
      ∃ manifest ∈ manifests, ∃ contribution ∈ manifest.details.contributions,
        ∃ target ∈ targetsOf contribution,
          effectiveOn manifest (extensionPoint contribution) (contractVersion contribution)
            contribution target = c := by
  simp only [offered, offersOf, List.mem_flatMap, List.mem_map]

/-- A contribution is offered for a target twice only by naming it twice. -/
theorem offered_pairs_nodup_iff (hmanifests : manifests.Pairwise fun a b => a.pluginId < b.pluginId)
    (hlawful : ∀ manifest ∈ manifests, Lawful manifest) :
    ((offered targetsOf manifests).map fun c => (c.reference, c.target)).Nodup ↔
      ∀ manifest ∈ manifests, ∀ contribution ∈ manifest.details.contributions,
        (targetsOf contribution).Nodup := by
  have hpairs : ((offered targetsOf manifests).map fun c => (c.reference, c.target)) =
      manifests.flatMap fun manifest => manifest.details.contributions.flatMap fun contribution =>
        (targetsOf contribution).map fun target =>
          ((⟨manifest.pluginId, contributionId contribution⟩ : ContributionRef), target) := by
    simp only [offered, offersOf, List.map_flatMap, List.map_map]
    rfl
  have hinner : ∀ (reference : ContributionRef) (targets : List ContributionTarget),
      (targets.map fun target => (reference, target)).Nodup ↔ targets.Nodup := fun _ _ =>
    List.nodup_map_iff fun _ _ heq => (Prod.ext_iff.mp heq).2
  rw [hpairs, List.nodup_flatMap]
  constructor
  · intro ⟨hall, _⟩ manifest hmanifest contribution hcontribution
    have h := (List.nodup_flatMap.mp (hall manifest hmanifest)).1 contribution hcontribution
    exact (hinner _ _).mp h
  · intro hall
    refine ⟨fun manifest hmanifest => List.nodup_flatMap.mpr ⟨fun contribution hcontribution =>
      (hinner _ _).mpr (hall manifest hmanifest contribution hcontribution), ?_⟩, ?_⟩
    · -- the contributions of a manifest have different ids
      refine (List.pairwise_map.mp (hlawful manifest hmanifest).ids).imp fun hne =>
        List.disjoint_left.mpr fun p hp hp' => hne ?_
      obtain ⟨_, _, rfl⟩ := List.mem_map.mp hp
      obtain ⟨_, _, heq⟩ := List.mem_map.mp hp'
      exact (ContributionRef.mk.inj (Prod.ext_iff.mp heq).1).2.symm
    · refine hmanifests.imp fun hlt => List.disjoint_left.mpr fun p hp hp' => hlt.ne ?_
      simp only [List.mem_flatMap, List.mem_map] at hp hp'
      obtain ⟨_, _, _, _, rfl⟩ := hp
      obtain ⟨_, _, _, _, heq⟩ := hp'
      exact (ContributionRef.mk.inj (Prod.ext_iff.mp heq).1).1.symm

/-- **Who is offered for a target**: the contributions in effect that name it. -/
theorem offered_iff {p : ContributionTarget → Prop}
    (htargets : ∀ contribution target, target ∈ targetsOf contribution ↔
      p target ∧ PluginContribution.Names contribution target)
    {reference : ContributionRef} {target : ContributionTarget} :
    (∃ c ∈ offered targetsOf db.registry.activeManifests,
        c.reference = reference ∧ c.target = target) ↔ p target ∧ db.Names reference target := by
  constructor
  · intro ⟨c, hc, href, htarget⟩
    obtain ⟨manifest, hmanifest, contribution, hcontribution, t, ht, rfl⟩ := mem_offered.mp hc
    obtain rfl : t = target := htarget
    subst href
    obtain ⟨hp, hnames⟩ := (htargets _ _).mp ht
    exact ⟨hp, manifest.version, contribution,
      contributes_iff.mpr ⟨manifest, hmanifest, rfl, rfl, hcontribution⟩, rfl, hnames⟩
  · intro ⟨hp, version, contribution, hcontributes, hid, hnames⟩
    obtain ⟨manifest, hmanifest, hplugin, -, hcontribution⟩ := contributes_iff.mp hcontributes
    refine ⟨_, mem_offered.mpr ⟨manifest, hmanifest, contribution, hcontribution, target,
      (htargets _ _).mpr ⟨hp, hnames⟩, rfl⟩, ?_, rfl⟩
    obtain ⟨pluginId, id⟩ := reference
    obtain rfl : manifest.pluginId = pluginId := hplugin
    obtain rfl : contributionId contribution = id := hid
    rfl

/-- What is offered is whole: it is the contribution of the active manifest it is said to be of. -/
theorem offered_whole {c : EffectiveContribution Rest}
    (h : c ∈ offered targetsOf db.registry.activeManifests) :
    db.Contributes c.pluginId c.pluginVersion c.contribution ∧
      contributionId c.contribution = c.contributionId ∧ IsId c.pluginId ∧
        IsId c.contributionId := by
  obtain ⟨manifest, hmanifest, contribution, hcontribution, target, htarget, rfl⟩ :=
    mem_offered.mp h
  have hlawful := lawful_of_active hmanifest
  exact ⟨contributes_iff.mpr ⟨manifest, hmanifest, rfl, rfl, hcontribution⟩, rfl, hlawful.pluginId,
    hlawful.id _ hcontribution⟩

/-! ## 7. The groups and their resolutions -/

/-- The groups, as values collected by their target. -/
def groupsOf (host : PluginSurroundings Rest Version) (xs : List (EffectiveContribution Rest)) :
    OrderedMap String (TargetGroupDraft Rest) :=
  xs.foldl (pushExclusiveContribution host) .empty

theorem foldl_push (xs : List (EffectiveContribution Rest)) (draft : TargetGroupDraft Rest) :
    xs.foldl (fun draft c => { draft with contributions := draft.contributions ++ [c] }) draft =
      { draft with contributions := draft.contributions ++ xs } := by
  induction xs generalizing draft with
  | nil => rw [List.foldl_nil, List.append_nil]
  | cons c xs ih => rw [List.foldl_cons, ih, List.append_assoc, List.singleton_append]

theorem get?_groupsOf (xs : List (EffectiveContribution Rest)) (target : ContributionTarget) :
    (groupsOf host xs).get? (host.contributionTargetId target) =
      (xs.filter (·.target = target)).head?.map fun c =>
        ⟨c.extensionPoint, c.target, xs.filter (·.target = target)⟩ := by
  have hfilter : xs.filter (fun c => host.contributionTargetId c.target =
      host.contributionTargetId target) = xs.filter (·.target = target) :=
    List.filter_congr fun c _ => by simp [host.targetId_inj.eq_iff]
  have h := OrderedMap.get?_collect (fun c => host.contributionTargetId c.target)
    (fun c => (⟨c.extensionPoint, c.target, []⟩ : TargetGroupDraft Rest))
    (fun draft c => { draft with contributions := draft.contributions ++ [c] }) xs
    (host.contributionTargetId target)
  rw [hfilter] at h
  simp only [foldl_push, List.nil_append] at h
  exact h

/-- **A group holds what is offered for its target**, and is not empty. -/
theorem group_spec {xs : List (EffectiveContribution Rest)} {id : String}
    {draft : TargetGroupDraft Rest} (h : (id, draft) ∈ (groupsOf host xs).entries) :
    id = host.contributionTargetId draft.target ∧
      draft.contributions = xs.filter (·.target = draft.target) ∧ draft.contributions ≠ [] := by
  have hget := (OrderedMap.mem_entries_iff _).mp h
  have hcollect := OrderedMap.get?_collect (fun c => host.contributionTargetId c.target)
    (fun c => (⟨c.extensionPoint, c.target, []⟩ : TargetGroupDraft Rest))
    (fun draft c => { draft with contributions := draft.contributions ++ [c] }) xs id
  rw [show OrderedMap.collect _ _ _ xs = groupsOf host xs from rfl, hget] at hcollect
  obtain ⟨c, hc, -⟩ := Option.map_eq_some_iff.mp hcollect.symm
  have hmem := List.mem_of_head? hc
  obtain rfl : host.contributionTargetId c.target = id := by
    simpa using (List.mem_filter.mp hmem).2
  rw [get?_groupsOf] at hget
  obtain ⟨c', hc', rfl⟩ := Option.map_eq_some_iff.mp hget
  have hmem' := List.mem_of_head? hc'
  have htarget : c'.target = c.target := by simpa using (List.mem_filter.mp hmem').2
  dsimp only
  rw [htarget]
  exact ⟨rfl, rfl, List.ne_nil_of_mem hmem'⟩

theorem exists_group {xs : List (EffectiveContribution Rest)} {c : EffectiveContribution Rest}
    (h : c ∈ xs) : ∃ draft, (host.contributionTargetId c.target, draft) ∈
      (groupsOf host xs).entries ∧ draft.target = c.target := by
  have hmem : c ∈ xs.filter (·.target = c.target) := List.mem_filter.mpr ⟨h, by simp⟩
  cases hhead : (xs.filter (·.target = c.target)).head? with
  | none => exact absurd (List.head?_eq_none_iff.mp hhead) (List.ne_nil_of_mem hmem)
  | some c' =>
    have htarget : c'.target = c.target := by
      simpa using (List.mem_filter.mp (List.mem_of_head? hhead)).2
    refine ⟨⟨c'.extensionPoint, c'.target, xs.filter (·.target = c.target)⟩,
      (OrderedMap.mem_entries_iff _).mpr ?_, htarget⟩
    rw [get?_groupsOf, hhead]
    rfl

/-- A contribution, disabled if its key is among those disabled. -/
def marked (disabled : List String) (c : EffectiveContribution Rest) : EffectiveContribution Rest :=
  if disabled.contains (effectiveContributionKey c) then { c with effectiveState := .disabled }
  else c

section Marked

variable (disabled : List String) (c : EffectiveContribution Rest)

@[simp] theorem marked_target : (marked disabled c).target = c.target := by
  unfold marked
  split <;> rfl

@[simp] theorem marked_pluginId : (marked disabled c).pluginId = c.pluginId := by
  unfold marked
  split <;> rfl

@[simp] theorem marked_pluginVersion : (marked disabled c).pluginVersion = c.pluginVersion := by
  unfold marked
  split <;> rfl

@[simp] theorem marked_contributionId : (marked disabled c).contributionId = c.contributionId := by
  unfold marked
  split <;> rfl

@[simp] theorem marked_contribution : (marked disabled c).contribution = c.contribution := by
  unfold marked
  split <;> rfl

@[simp] theorem marked_reference : (marked disabled c).reference = c.reference := by
  simp [EffectiveContribution.reference]

@[simp] theorem marked_sortKey :
    contributionRefSortKey (marked disabled c) = contributionRefSortKey c := by
  simp [contributionRefSortKey]

end Marked

variable {preferences : Assoc String StoredContributionPreference} {id : String}
  {draft : TargetGroupDraft Rest}

theorem resolveTarget_contributions {preference : StoredContributionPreference}
    (hpreference : (preferences.lookup id).getD .none = preference) :
    ∃ ordered : List (EffectiveContribution Rest), ordered.Perm draft.contributions ∧
      (resolveTarget preferences (id, draft)).contributions =
        ordered.map (marked (preference.disabled.map contributionRefKey)) ∧
      ((draft.contributions.map (·.reference)).Nodup → ordered.Pairwise fun a b =>
        rank (preference.ordered.map ContributionRef.sortKey) (contributionRefSortKey a) <
          rank (preference.ordered.map ContributionRef.sortKey) (contributionRefSortKey b)) := by
  subst hpreference
  have hsort := List.perm_insertionSort (fun left right : EffectiveContribution Rest =>
    contributionRefSortKey left ≤ contributionRefSortKey right) draft.contributions
  refine ⟨_, (arrange_perm _ _ _).trans hsort, rfl, fun hnodup => arrange_sorted _ _ ?_⟩
  -- different references have different keys, so the sorted list is strictly sorted
  have hne : draft.contributions.Pairwise fun a b =>
      contributionRefSortKey a ≠ contributionRefSortKey b :=
    (List.pairwise_map.mp hnodup).imp fun hne heq => hne (by
      have hpair := Prod.ext_iff.mp (toLex.injective heq)
      exact congrArg₂ ContributionRef.mk hpair.1 hpair.2)
  have hsorted := List.pairwise_insertionSort (fun left right : EffectiveContribution Rest =>
    contributionRefSortKey left ≤ contributionRefSortKey right) draft.contributions
  exact (hsorted.and ((hsort.pairwise_iff fun h => Ne.symm h).mpr hne)).imp fun h =>
    lt_of_le_of_ne h.1 h.2

/-! ## 8. What a snapshot lists -/

variable {now : DateTime}

theorem snapshot_eq : effectivePluginSnapshot db now =
    { contributions := offered themeTargets db.registry.activeManifests ++
        ((groupsOf host (offered exclusiveTargets db.registry.activeManifests)).entries.map
          (resolveTarget db.preferences)).flatMap (·.contributions)
      resolutions := (groupsOf host (offered exclusiveTargets
        db.registry.activeManifests)).entries.map (resolveTarget db.preferences)
      generatedAt := now } := by
  unfold effectivePluginSnapshot snapshotOf
  rw [snapshotDraft_eq]
  rfl

/-- **What a resolution is made of**: what is offered for its target, arranged and marked by the
    preference for it. -/
theorem resolution_spec {resolution : ContributionTargetResolution Rest}
    (h : resolution ∈ (effectivePluginSnapshot db now).resolutions) :
    resolution.revision = (db.preference resolution.target).revision ∧
      resolution.conflict =
        decide (1 < resolution.contributions.countP (·.effectiveState == .available)) ∧
      (offered exclusiveTargets db.registry.activeManifests).filter
        (·.target = resolution.target) ≠ [] ∧
      ∃ ordered : List (EffectiveContribution Rest),
        ordered.Perm ((offered exclusiveTargets db.registry.activeManifests).filter
          (·.target = resolution.target)) ∧
        resolution.contributions = ordered.map
          (marked ((db.preference resolution.target).disabled.map contributionRefKey)) ∧
        ((((offered exclusiveTargets db.registry.activeManifests).filter
            (·.target = resolution.target)).map (·.reference)).Nodup →
          ordered.Pairwise fun a b =>
            rank ((db.preference resolution.target).ordered.map ContributionRef.sortKey)
                (contributionRefSortKey a) <
              rank ((db.preference resolution.target).ordered.map ContributionRef.sortKey)
                (contributionRefSortKey b)) := by
  rw [snapshot_eq] at h
  obtain ⟨⟨id, draft⟩, hgroup, rfl⟩ := List.mem_map.mp h
  obtain ⟨rfl, hcontributions, hne⟩ := group_spec hgroup
  have hresolved := @resolveTarget_contributions Rest db.preferences
    (host.contributionTargetId draft.target) draft (db.preference draft.target) rfl
  rw [hcontributions] at hresolved hne
  exact ⟨rfl, rfl, hne, hresolved⟩

theorem targets_nodup :
    ((effectivePluginSnapshot db now).resolutions.map (·.target)).Nodup := by
  rw [snapshot_eq]
  dsimp only
  rw [List.map_map]
  refine List.pairwise_map.mpr ?_
  refine (List.pairwise_map.mp (OrderedMap.nodup_keys _)).imp_of_mem fun {a b} ha hb hne heq => ?_
  have htarget : a.2.target = b.2.target := heq
  exact hne ((group_spec ha).1.trans ((congrArg _ htarget).trans (group_spec hb).1.symm))

theorem target_of_mem_resolution {resolution : ContributionTargetResolution Rest}
    (h : resolution ∈ (effectivePluginSnapshot db now).resolutions)
    {c : EffectiveContribution Rest} (hc : c ∈ resolution.contributions) :
    c.target = resolution.target := by
  obtain ⟨-, -, -, ordered, hperm, hcontributions, -⟩ := resolution_spec h
  rw [hcontributions] at hc
  obtain ⟨c, hmem, rfl⟩ := List.mem_map.mp hc
  rw [marked_target]
  simpa using (List.mem_filter.mp (hperm.mem_iff.mp hmem)).2

/-- A target is resolved when something is offered for it. -/
theorem exists_resolution {c : EffectiveContribution Rest}
    (h : c ∈ offered exclusiveTargets db.registry.activeManifests) :
    ∃ resolution ∈ (effectivePluginSnapshot db now).resolutions,
      resolution.target = c.target := by
  obtain ⟨draft, hgroup, htarget⟩ := @exists_group Rest Version host _ _ h
  rw [snapshot_eq]
  exact ⟨_, List.mem_map_of_mem hgroup, htarget⟩

theorem exclusive_of_offered {c : EffectiveContribution Rest}
    (h : c ∈ offered exclusiveTargets manifests) : c.target.Exclusive := by
  obtain ⟨_, _, _, _, target, htarget, rfl⟩ := mem_offered.mp h
  exact (mem_exclusiveTargets.mp htarget).1

theorem not_exclusive_of_offered {c : EffectiveContribution Rest}
    (h : c ∈ offered themeTargets manifests) : ¬ c.target.Exclusive := by
  obtain ⟨_, _, _, _, target, htarget, rfl⟩ := mem_offered.mp h
  exact (mem_themeTargets.mp htarget).1

theorem exclusive_of_resolution {resolution : ContributionTargetResolution Rest}
    (h : resolution ∈ (effectivePluginSnapshot db now).resolutions) :
    resolution.target.Exclusive := by
  obtain ⟨-, -, hne, -⟩ := resolution_spec h
  obtain ⟨c, hc⟩ := List.exists_mem_of_ne_nil _ hne
  obtain ⟨hoffered, htarget⟩ := List.mem_filter.mp hc
  have heq : c.target = resolution.target := by simpa using htarget
  exact heq ▸ exclusive_of_offered hoffered

/-- The resolution of a target is what the snapshot lists for it. -/
theorem listed_resolution {resolution : ContributionTargetResolution Rest}
    (h : resolution ∈ (effectivePluginSnapshot db now).resolutions) :
    (effectivePluginSnapshot db now).listed resolution.target = resolution.contributions := by
  have hparts : ((effectivePluginSnapshot db now).resolutions.flatMap (·.contributions)).filter
      (·.target = resolution.target) = resolution.contributions :=
    filter_flatMap_eq targets_nodup (fun _ hr _ hc => target_of_mem_resolution hr hc) h
  have hexclusive := exclusive_of_resolution h
  rw [snapshot_eq] at hparts ⊢
  rw [EffectivePluginSnapshot.listed, List.filter_append, List.filter_eq_nil_iff.mpr, hparts,
    List.nil_append]
  intro c hc htarget
  have heq : c.target = resolution.target := by simpa using htarget
  exact not_exclusive_of_offered hc (heq ▸ hexclusive)

/-- **What the snapshot lists for a target**: the references of what is offered for it. -/
theorem listed_perm (target : ContributionTarget) :
    (((effectivePluginSnapshot db now).listed target).map (·.reference)).Perm
      (((offered themeTargets db.registry.activeManifests).filter (·.target = target) ++
        (offered exclusiveTargets db.registry.activeManifests).filter (·.target = target)).map
          (·.reference)) := by
  by_cases hresolved : ∃ resolution ∈ (effectivePluginSnapshot db now).resolutions,
      resolution.target = target
  · obtain ⟨resolution, hresolution, rfl⟩ := hresolved
    obtain ⟨-, -, -, ordered, hperm, hcontributions, -⟩ := resolution_spec hresolution
    have hexclusive := exclusive_of_resolution hresolution
    have hthemes : (offered themeTargets db.registry.activeManifests).filter
        (·.target = resolution.target) = [] := by
      refine List.filter_eq_nil_iff.mpr fun c hc htarget => ?_
      have heq : c.target = resolution.target := by simpa using htarget
      exact not_exclusive_of_offered hc (heq ▸ hexclusive)
    have hreferences : (ordered.map
        (marked ((db.preference resolution.target).disabled.map contributionRefKey))).map
          (·.reference) = ordered.map (·.reference) := by
      rw [List.map_map]
      exact List.map_congr_left fun c _ => marked_reference _ c
    rw [listed_resolution hresolution, hthemes, List.nil_append, hcontributions, hreferences]
    exact hperm.map _
  · -- nothing is offered for a target that is not resolved, but a theme
    have hnone : (offered exclusiveTargets db.registry.activeManifests).filter
        (·.target = target) = [] := by
      refine List.filter_eq_nil_iff.mpr fun c hc htarget => hresolved ?_
      obtain ⟨resolution, hresolution, heq⟩ := @exists_resolution Rest Version host db now _ hc
      exact ⟨resolution, hresolution, heq.trans (by simpa using htarget)⟩
    have hparts : ((effectivePluginSnapshot db now).resolutions.flatMap (·.contributions)).filter
        (·.target = target) = [] := by
      refine List.filter_eq_nil_iff.mpr fun c hc htarget => hresolved ?_
      obtain ⟨resolution, hresolution, hmem⟩ := List.mem_flatMap.mp hc
      exact ⟨resolution, hresolution,
        (target_of_mem_resolution hresolution hmem).symm.trans (by simpa using htarget)⟩
    rw [hnone, List.append_nil]
    rw [snapshot_eq] at hparts ⊢
    rw [EffectivePluginSnapshot.listed, List.filter_append, hparts, List.append_nil]

/-- The references listed for each target are different exactly when the selectors of every
    renderer in effect are. -/
theorem listed_nodup_iff :
    (∀ target, (((effectivePluginSnapshot db now).listed target).map (·.reference)).Nodup) ↔
      db.SelectorsDiffer := by
  have hlawful : ∀ manifest ∈ db.registry.activeManifests, Lawful manifest :=
    fun _ h => lawful_of_active h
  have hthemes := (nodup_pairs_iff (fun c : EffectiveContribution Rest => c.reference)
    (fun c => c.target) _).mp ((offered_pairs_nodup_iff activeManifests_sorted hlawful).mpr
      fun _ _ contribution _ => nodup_themeTargets contribution)
  have hexclusive : (∀ target, (((offered exclusiveTargets db.registry.activeManifests).filter
      (·.target = target)).map (·.reference)).Nodup) ↔ db.SelectorsDiffer := by
    rw [← nodup_pairs_iff (fun c : EffectiveContribution Rest => c.reference) (fun c => c.target),
      offered_pairs_nodup_iff activeManifests_sorted hlawful]
    constructor
    · intro hall pluginId version id contractVersion renderer hcontributes
      obtain ⟨manifest, hmanifest, -, -, hmem⟩ := contributes_iff.mp hcontributes
      exact (exclusiveTargets_nodup_iff (hlawful _ hmanifest) hmem).mp
        (hall manifest hmanifest _ hmem) id contractVersion renderer rfl
    · intro hdiffer manifest hmanifest contribution hmem
      refine (exclusiveTargets_nodup_iff (hlawful _ hmanifest) hmem).mpr ?_
      intro id contractVersion renderer heq
      exact hdiffer manifest.pluginId manifest.version id contractVersion renderer
        (contributes_iff.mpr ⟨manifest, hmanifest, rfl, rfl, heq ▸ hmem⟩)
  rw [← hexclusive]
  constructor
  · intro hall target
    have h := (listed_perm target).nodup_iff.mp (hall target)
    rw [List.map_append] at h
    exact h.of_append_right
  · intro hall target
    refine (listed_perm target).nodup_iff.mpr ?_
    rw [List.map_append]
    -- a target is one of themes or an exclusive one
    by_cases htarget : target.Exclusive
    · rw [List.filter_eq_nil_iff.mpr, List.map_nil, List.nil_append]
      · exact hall target
      · intro c hc heq
        have heq : c.target = target := by simpa using heq
        exact not_exclusive_of_offered hc (heq ▸ htarget)
    · rw [List.filter_eq_nil_iff (l := offered exclusiveTargets _) |>.mpr, List.map_nil,
        List.append_nil]
      · exact hthemes target
      · intro c hc heq
        have heq : c.target = target := by simpa using heq
        exact htarget (heq ▸ exclusive_of_offered hc)

/-! ## 9. The order does not matter -/

/-- The snapshot depends on the state and the version of each plugin, on the packages and on the
    preferences. -/
theorem snapshot_congr {db' : PluginDatabase host}
    (hpackages : ∀ key, db.registry.packages.lookup key = db'.registry.packages.lookup key)
    (hinstallations : ∀ key,
      (db.registry.installations.lookup key).map (fun row =>
          (row.effectiveState, row.activeVersion)) =
        (db'.registry.installations.lookup key).map fun row =>
          (row.effectiveState, row.activeVersion))
    (hpreferences : ∀ key, db.preferences.lookup key = db'.preferences.lookup key) :
    effectivePluginSnapshot db' now = effectivePluginSnapshot db now := by
  have hsubset : ∀ {db db' : PluginDatabase host},
      (∀ key, db.registry.packages.lookup key = db'.registry.packages.lookup key) →
      (∀ key, (db.registry.installations.lookup key).map (fun row =>
          (row.effectiveState, row.activeVersion)) =
        (db'.registry.installations.lookup key).map fun row =>
          (row.effectiveState, row.activeVersion)) →
      ∀ manifest ∈ db.registry.activeManifests, manifest ∈ db'.registry.activeManifests := by
    intro db db' hpackages hinstallations manifest hmanifest
    obtain ⟨installation, package, hinstallation, hactive, hversion, hpackage, heq⟩ :=
      mem_activeManifests.mp hmanifest
    have hkey := hinstallations manifest.pluginId
    rw [hinstallation] at hkey
    obtain ⟨installation', hinstallation', hpair⟩ := Option.map_eq_some_iff.mp hkey.symm
    obtain ⟨hstate, hactiveVersion⟩ := Prod.ext_iff.mp hpair
    exact mem_activeManifests.mpr ⟨installation', package, hinstallation', hstate.trans hactive,
      hactiveVersion.trans hversion, (hpackages _).symm.trans hpackage, heq⟩
  have hnodup : ∀ db : PluginDatabase host, db.registry.activeManifests.Nodup := fun db =>
    activeManifests_sorted.imp fun hlt heq => hlt.ne (congrArg _ heq)
  have hperm : db'.registry.activeManifests.Perm db.registry.activeManifests :=
    (List.perm_ext_iff_of_nodup (hnodup _) (hnodup _)).mpr fun manifest =>
      ⟨hsubset (fun key => (hpackages key).symm) (fun key => (hinstallations key).symm) manifest,
        hsubset hpackages hinstallations manifest⟩
  -- the manifests are the same ones, and both lists are in the order of the plugins
  have hmanifests : db'.registry.activeManifests = db.registry.activeManifests :=
    hperm.eq_of_pairwise (fun a b _ _ hab hba => absurd hba hab.asymm) activeManifests_sorted
      activeManifests_sorted
  have hresolve : @resolveTarget Rest db'.preferences = resolveTarget db.preferences := by
    funext ⟨id, draft⟩
    unfold resolveTarget
    dsimp only
    rw [hpreferences]
  rw [snapshot_eq, snapshot_eq, hmanifests, hresolve]

section Bootstrap

variable [LinearOrder Version]

/-- What the registration of a plugin reads and writes, so far as the snapshot reads it. -/
def pluginView (pluginId : PluginId) (db : PluginDatabase host) :
    (String → Option (PluginPackageRow (PluginDetails Rest))) ×
      Option (PluginEffectiveState × PluginDesiredState × String) :=
  (fun version => db.registry.packages.lookup (pluginId, version),
    (db.registry.installations.lookup pluginId).map fun row =>
      (row.effectiveState, row.desiredState, row.activeVersion))

theorem reconcile_effectiveState {row : PluginInstallationRow} {compatibility : PluginCompatibility}
    {now : DateTime} : (reconcile row compatibility now).effectiveState =
      reconciledEffectiveState compatibility.state row.desiredState := by
  unfold reconcile
  dsimp only
  split
  · rfl
  · rename_i hsame
    exact not_ne_iff.mp (not_or.mp hsame).1

/-- What `registerBundled` does: it fails and changes nothing, or the manifest is valid and is
    registered. -/
theorem registerBundled_cases (bundled : BundledPlugin Rest) (db : PluginDatabase host) :
    ((registerBundled bundled db).2.isSome ∧ (registerBundled bundled db).1 = db ∧
        ¬ (validatePluginManifest host bundled.manifest = .ok () ∧
          db.registry.Registers host.pluginHost bundled.manifest)) ∨
      ((registerBundled bundled db).2 = none ∧
        (registerBundled bundled db).1.preferences = db.preferences ∧
        Registered host.pluginHost db.registry (registerBundled bundled db).1.registry
          bundled.manifest bundled.defaultState bundled.now ∧
        (validatePluginManifest host bundled.manifest = .ok () ∧
          db.registry.Registers host.pluginHost bundled.manifest)) := by
  unfold registerBundled
  split
  · rename_i hinvalid
    exact .inl ⟨rfl, rfl, fun h => by rw [h.1] at hinvalid; cases hinvalid⟩
  · rename_i hvalid
    have hspec := @registerBundledPlugin_spec _ _ _ host.pluginHost db.registry bundled.manifest
      bundled.defaultState bundled.now
    split
    · rename_i herror
      refine .inl ⟨rfl, rfl, fun h => ?_⟩
      obtain ⟨t, ht⟩ := hspec.2.mpr h.2
      rw [ht] at herror
      cases herror
    · rename_i t ht
      exact .inr ⟨rfl, rfl, hspec.1 t ht, hvalid, hspec.2.mp ⟨t, ht⟩⟩

/-- A registration leaves the other plugins alone. -/
theorem pluginView_other (bundled : BundledPlugin Rest) {pluginId : PluginId}
    (h : pluginId ≠ bundled.manifest.pluginId) (db : PluginDatabase host) :
    pluginView pluginId (registerBundled bundled db).1 = pluginView pluginId db := by
  rcases registerBundled_cases bundled db with ⟨-, heq, -⟩ | ⟨-, -, hregistered, -⟩
  · rw [heq]
  · unfold pluginView
    rw [hregistered.others pluginId h]
    refine Prod.ext (funext fun version => ?_) rfl
    dsimp only
    rw [hregistered.packages, if_neg fun heq => h (Prod.ext_iff.mp heq).1, Option.or_none]

/-- A registration does with its plugin what rests on the rows of the plugin. -/
theorem pluginView_own (bundled : BundledPlugin Rest) {db db' : PluginDatabase host}
    (h : pluginView bundled.manifest.pluginId db = pluginView bundled.manifest.pluginId db') :
    pluginView bundled.manifest.pluginId (registerBundled bundled db).1 =
        pluginView bundled.manifest.pluginId (registerBundled bundled db').1 ∧
      (Fails registerBundled bundled db ↔ Fails registerBundled bundled db') := by
  obtain ⟨hpackages, hinstallation⟩ := Prod.ext_iff.mp h
  have hpackages : ∀ version, db.registry.packages.lookup (bundled.manifest.pluginId, version) =
      db'.registry.packages.lookup (bundled.manifest.pluginId, version) := congrFun hpackages
  have hbefore : db.registry.activeBefore bundled.manifest =
      db'.registry.activeBefore bundled.manifest := by
    have hversion := congrArg (Option.map fun row => row.2.2) hinstallation
    simp only [pluginView, Option.map_map, Function.comp_def] at hversion
    unfold PluginRegistry.activeBefore
    rw [hversion]
  have hdesired : db.registry.desiredBefore bundled.manifest bundled.defaultState =
      db'.registry.desiredBefore bundled.manifest bundled.defaultState := by
    have hstate := congrArg (Option.map fun row => row.2.1) hinstallation
    simp only [pluginView, Option.map_map, Function.comp_def] at hstate
    unfold PluginRegistry.desiredBefore
    rw [hstate]
  have hregisters : db.registry.Registers host.pluginHost bundled.manifest ↔
      db'.registry.Registers host.pluginHost bundled.manifest := by
    unfold PluginRegistry.Registers
    rw [hpackages, hbefore]
  rcases registerBundled_cases bundled db with ⟨hfails, heq, hnot⟩ | ⟨hok, -, hreg, hcan⟩
  · rcases registerBundled_cases bundled db' with ⟨hfails', heq', -⟩ | ⟨-, -, -, hcan'⟩
    · rw [heq, heq']
      exact ⟨h, iff_of_true hfails hfails'⟩
    · exact absurd ⟨hcan'.1, hregisters.mpr hcan'.2⟩ hnot
  · rcases registerBundled_cases bundled db' with ⟨-, -, hnot'⟩ | ⟨hok', -, hreg', -⟩
    · exact absurd ⟨hcan.1, hregisters.mp hcan.2⟩ hnot'
    · refine ⟨Prod.ext (funext fun version => ?_) ?_, ?_⟩
      · exact ((hreg.packages _).trans (by rw [hpackages])).trans (hreg'.packages _).symm
      · obtain ⟨row, hrow, hversion, hstate⟩ := hreg.installed
        obtain ⟨row', hrow', hversion', hstate'⟩ := hreg'.installed
        have hafter : db.registry.activeAfter host.pluginHost bundled.manifest =
            db'.registry.activeAfter host.pluginHost bundled.manifest := by
          unfold PluginRegistry.activeAfter
          rw [hbefore]
        dsimp only [pluginView]
        rw [hrow, hrow', Option.map_some, Option.map_some, reconcile_effectiveState,
          reconcile_effectiveState, reconcile_desiredState, reconcile_desiredState,
          reconcile_activeVersion, reconcile_activeVersion, hversion, hversion', hstate.1,
          hstate'.1, hdesired, hafter]
      · unfold Fails
        rw [hok, hok']

theorem registrations_separate {bundled : List (BundledPlugin Rest)}
    (h : (bundled.map (·.manifest.pluginId)).Nodup) :
    Separate (@registerBundled Rest Version _ host) (fun b => pluginView b.manifest.pluginId)
      (fun _ _ => True) bundled where
  frame _ hb _ hb' hne db _ :=
    pluginView_other _ (fun heq => hne (List.inj_on_of_nodup_map h hb hb' heq)) db
  kept _ _ _ _ _ _ _ _ := trivial
  rests b _ _ _ _ _ heq := pluginView_own b heq

/-- **Different plugins may be registered in any order.** -/
theorem snapshot_bootstrap {bundled bundled' : List (BundledPlugin Rest)}
    (hperm : bundled.Perm bundled') (hnodup : (bundled.map (·.manifest.pluginId)).Nodup)
    (hok : (bootstrapBundledPlugins db bundled).2 = none) :
    (bootstrapBundledPlugins db bundled').2 = none ∧
      effectivePluginSnapshot (bootstrapBundledPlugins db bundled').1 now =
        effectivePluginSnapshot (bootstrapBundledPlugins db bundled).1 now := by
  have hseparate := @registrations_separate _ _ host _ _ hnodup
  have hnodup' : (bundled'.map (·.manifest.pluginId)).Nodup :=
    (hperm.map _).nodup_iff.mp hnodup
  have hseparate' := @registrations_separate _ _ host _ _ hnodup'
  have hnone := (hseparate.each_ok_iff (fun _ h => h) hnodup.of_map fun _ _ => trivial).mp hok
  have hnone' : ∀ b ∈ bundled', ¬ Fails registerBundled b db := fun b hb =>
    hnone b (hperm.mem_iff.mpr hb)
  refine ⟨(hseparate'.each_ok_iff (fun _ h => h) hnodup'.of_map fun _ _ => trivial).mpr hnone', ?_⟩
  -- every plugin has the rows that its own registration gives it, or those it had
  have hview : ∀ pluginId, pluginView pluginId (bootstrapBundledPlugins db bundled).1 =
      pluginView pluginId (bootstrapBundledPlugins db bundled').1 := by
    intro pluginId
    by_cases hmem : ∃ b ∈ bundled, b.manifest.pluginId = pluginId
    · obtain ⟨b, hb, rfl⟩ := hmem
      have hown := (hseparate.each_isolated_iff hnodup.of_map fun _ _ => trivial).mpr
        (fun before _ _ heq ⟨j, hj, hf⟩ =>
          absurd hf (hnone j (heq ▸ List.mem_append_left _ hj))) b hb
      have hown' := (hseparate'.each_isolated_iff hnodup'.of_map fun _ _ => trivial).mpr
        (fun before _ _ heq ⟨j, hj, hf⟩ =>
          absurd hf (hnone' j (heq ▸ List.mem_append_left _ hj))) b (hperm.mem_iff.mp hb)
      exact hown.trans hown'.symm
    · have hother : ∀ b ∈ bundled, pluginId ≠ b.manifest.pluginId := fun b hb heq =>
        hmem ⟨b, hb, heq.symm⟩
      rw [bootstrapBundledPlugins, bootstrapBundledPlugins,
        each_frame fun b hb s => pluginView_other b (hother b hb) s,
        each_frame fun b hb s => pluginView_other b (hother b (hperm.mem_iff.mpr hb)) s]
  have hpreferences : ∀ bs : List (BundledPlugin Rest),
      (bootstrapBundledPlugins db bs).1.preferences = db.preferences := fun bs =>
    @each_frame _ _ _ _ _ _ PluginDatabase.preferences (fun b _ s => by
      rcases registerBundled_cases b s with ⟨-, heq, -⟩ | ⟨-, heq, -⟩
      · rw [heq]
      · exact heq) db
  refine snapshot_congr (fun key => congrFun (Prod.ext_iff.mp (hview key.1)).1 key.2)
    (fun key => ?_) fun key => by rw [hpreferences, hpreferences]
  have hrow := congrArg (Option.map fun row => (row.1, row.2.2)) (Prod.ext_iff.mp (hview key)).2
  simpa only [pluginView, Option.map_map, Function.comp_def] using hrow

end Bootstrap

/-! ## 10. The snapshot is right -/

theorem resolvedBy_of_nodup {resolution : ContributionTargetResolution Rest}
    (h : resolution ∈ (effectivePluginSnapshot db now).resolutions)
    (hnodup : (((effectivePluginSnapshot db now).listed resolution.target).map
      (·.reference)).Nodup) :
    resolution.ResolvedBy (db.preference resolution.target) := by
  rw [listed_resolution h] at hnodup
  obtain ⟨hrevision, hconflict, -, ordered, hperm, hcontributions, hsorted⟩ := resolution_spec h
  have hreferences : resolution.contributions.map (·.reference) =
      ordered.map (·.reference) := by
    rw [hcontributions, List.map_map]
    exact List.map_congr_left fun c _ => marked_reference _ c
  refine ⟨hrevision, ?_, fun c hc => ?_, ?_⟩
  · rw [hcontributions]
    refine List.pairwise_map.mpr ((hsorted ?_).imp fun hlt => by
      simpa only [marked_sortKey] using hlt)
    exact (hperm.map _).nodup_iff.mp (hreferences ▸ hnodup)
  · rw [hcontributions] at hc
    obtain ⟨c, hmem, rfl⟩ := List.mem_map.mp hc
    have hoffered := (List.mem_filter.mp (hperm.mem_iff.mp hmem)).1
    obtain ⟨-, -, hplugin, hid⟩ := offered_whole hoffered
    have havailable : c.effectiveState = .available := by
      obtain ⟨_, _, _, _, _, _, rfl⟩ := mem_offered.mp hoffered
      rfl
    rw [marked_reference]
    unfold marked
    split
    · rename_i hkey
      obtain ⟨reference, hreference, heq⟩ := List.mem_map.mp (List.contains_iff_mem.mp hkey)
      refine iff_of_true rfl ?_
      rw [@contributionRefKey_inj c.reference _ hplugin hid heq.symm]
      exact hreference
    · rename_i hkey
      refine iff_of_false (by rw [havailable]; decide) fun hdisabled => hkey ?_
      exact List.contains_iff_mem.mpr (List.mem_map_of_mem hdisabled)
  · rw [hconflict, decide_eq_true_eq, one_lt_countP_iff hnodup]
    simp only [beq_iff_eq]

/-- What is offered exclusively for a target, if it is an exclusive one. -/
theorem exclusive_offered_iff {reference : ContributionRef} {target : ContributionTarget} :
    (∃ c ∈ offered exclusiveTargets db.registry.activeManifests,
        c.reference = reference ∧ c.target = target) ↔
      target.Exclusive ∧ db.Names reference target :=
  offered_iff fun _ _ => mem_exclusiveTargets

theorem snapshot_named (target : ContributionTarget) (reference : ContributionRef) :
    reference ∈ ((effectivePluginSnapshot db now).listed target).map (·.reference) ↔
      db.Names reference target := by
  rw [(listed_perm target).mem_iff, List.map_append, List.mem_append]
  simp only [List.mem_map, List.mem_filter, decide_eq_true_eq]
  have hthemes := @offered_iff _ _ _ db _ _ (fun _ _ => mem_themeTargets) reference target
  constructor
  · intro h
    rcases h with ⟨c, ⟨hc, htarget⟩, href⟩ | ⟨c, ⟨hc, htarget⟩, href⟩
    · exact (hthemes.mp ⟨c, hc, href, htarget⟩).2
    · exact (exclusive_offered_iff.mp ⟨c, hc, href, htarget⟩).2
  · intro hnames
    by_cases htarget : target.Exclusive
    · obtain ⟨c, hc, href, heq⟩ := exclusive_offered_iff.mpr ⟨htarget, hnames⟩
      exact .inr ⟨c, ⟨hc, heq⟩, href⟩
    · obtain ⟨c, hc, href, heq⟩ := hthemes.mpr ⟨htarget, hnames⟩
      exact .inl ⟨c, ⟨hc, heq⟩, href⟩

theorem snapshot_whole {c : EffectiveContribution Rest}
    (h : c ∈ (effectivePluginSnapshot db now).contributions) :
    db.Contributes c.pluginId c.pluginVersion c.contribution ∧
      contributionId c.contribution = c.contributionId := by
  rw [snapshot_eq] at h
  rcases List.mem_append.mp h with hc | hc
  · obtain ⟨hcontributes, hid, -⟩ := offered_whole hc
    exact ⟨hcontributes, hid⟩
  · obtain ⟨resolution, hresolution, hc⟩ := List.mem_flatMap.mp hc
    have hmem : resolution ∈ (effectivePluginSnapshot db now).resolutions := by
      rw [snapshot_eq]
      exact hresolution
    obtain ⟨-, -, -, ordered, hperm, hcontributions, -⟩ := resolution_spec hmem
    rw [hcontributions] at hc
    obtain ⟨c, hordered, rfl⟩ := List.mem_map.mp hc
    obtain ⟨hcontributes, hid, -⟩ :=
      offered_whole (List.mem_filter.mp (hperm.mem_iff.mp hordered)).1
    simp only [marked_pluginId, marked_pluginVersion, marked_contribution, marked_contributionId]
    exact ⟨hcontributes, hid⟩

theorem snapshot_targets (target : ContributionTarget) :
    (∃ resolution ∈ (effectivePluginSnapshot db now).resolutions, resolution.target = target) ↔
      target.Exclusive ∧ ∃ reference, db.Names reference target := by
  constructor
  · intro ⟨resolution, hresolution, htarget⟩
    obtain ⟨-, -, hne, -⟩ := resolution_spec hresolution
    obtain ⟨c, hc⟩ := List.exists_mem_of_ne_nil _ hne
    obtain ⟨hoffered, heq⟩ := List.mem_filter.mp hc
    have heq : c.target = target := (by simpa using heq : c.target = _).trans htarget
    obtain ⟨hexclusive, hnames⟩ := exclusive_offered_iff.mp ⟨c, hoffered, rfl, heq⟩
    exact ⟨hexclusive, c.reference, hnames⟩
  · intro ⟨hexclusive, reference, hnames⟩
    obtain ⟨c, hc, -, heq⟩ := exclusive_offered_iff.mpr ⟨hexclusive, hnames⟩
    obtain ⟨resolution, hresolution, htarget⟩ := @exists_resolution Rest Version host db now _ hc
    exact ⟨resolution, hresolution, htarget.trans heq⟩

/-- **The snapshot of the contributions in effect is right, whatever the preferences, exactly when
    no visual renderer in effect repeats a selector.** -/
theorem effective_contributions_iff [LinearOrder Version] (db : PluginDatabase host)
    (now : DateTime) :
    (Effective db (effectivePluginSnapshot db now) ∧ db.OrderFree now) ↔ db.SelectorsDiffer := by
  constructor
  · exact fun h => listed_nodup_iff.mp h.1.once
  · intro hdiffer
    have honce := (@listed_nodup_iff _ _ _ _ now).mpr hdiffer
    refine ⟨⟨fun _ => snapshot_whole, snapshot_named, honce, snapshot_targets, targets_nodup,
      fun r hr => ⟨(listed_resolution hr).symm, resolvedBy_of_nodup hr (honce r.target)⟩⟩, ?_, ?_⟩
    · intro db' hsame
      exact snapshot_congr hsame.packages (fun key => congrArg _ (hsame.installations key))
        hsame.preferences
    · intro bundled bundled' hperm hnodup hok
      exact snapshot_bootstrap hperm hnodup hok

end Check

/-! ## 11. A renderer that repeats a selector -/

/-- A text spelled so that what follows it can be told from it. -/
def spelled (text : String) : List Char := text.toList.flatMap (fun c => ['+', c]) ++ ['.']

theorem spelled_append_inj {a b : String} {x y : List Char}
    (h : spelled a ++ x = spelled b ++ y) : a = b ∧ x = y := by
  have hchars : ∀ as bs : List Char,
      as.flatMap (fun c => ['+', c]) ++ ['.'] ++ x = bs.flatMap (fun c => ['+', c]) ++ ['.'] ++ y →
        as = bs ∧ x = y := by
    intro as
    induction as with
    | nil =>
      intro bs h
      cases bs with
      | nil => exact ⟨rfl, (List.cons.inj h).2⟩
      | cons b bs => exact absurd (List.cons.inj h).1 (by decide)
    | cons a as ih =>
      intro bs h
      cases bs with
      | nil => exact absurd (List.cons.inj h).1 (by decide)
      | cons b bs =>
        obtain ⟨rfl, htail⟩ := List.cons.inj (List.cons.inj h).2
        obtain ⟨rfl, hxy⟩ := ih bs htail
        exact ⟨rfl, hxy⟩
  obtain ⟨htexts, hxy⟩ := hchars _ _ h
  exact ⟨String.toList_inj.mp htexts, hxy⟩

def scopeLetter : VisualRenderScope → Char
  | .contentEnhancement => 'c'
  | .inlineFragment => 'i'
  | .block => 'b'
  | .artifactViewer => 'a'
  | .detailView => 'd'

/-- A digest that tells targets apart. -/
def spelledTarget : ContributionTarget → List Char
  | .uiTheme id => 't' :: spelled id
  | .visualRenderer sourceKind surface renderScope selector =>
    'r' :: (spelled sourceKind ++ (spelled surface ++ scopeLetter renderScope ::
      (match selector with
        | none => []
        | some selector => spelled selector)))
  | .artifactType id => 'a' :: spelled id
  | .generatedUiRuntime id => 'u' :: spelled id
  | .generatedUiSdk id => 's' :: spelled id
  | .generatedUiActionBridge id => 'b' :: spelled id

theorem spelled_inj {a b : String} (h : spelled a = spelled b) : a = b :=
  (spelled_append_inj (x := []) (y := []) (by rw [h])).1

theorem spelledTarget_inj : Function.Injective spelledTarget := by
  intro a b h
  cases a <;> cases b <;> obtain ⟨hletter, htail⟩ := List.cons.inj h <;>
    first
      | exact absurd hletter (by decide)
      | exact congrArg _ (spelled_inj htail)
      | skip
  rename_i kind surface scope selector kind' surface' scope' selector'
  obtain ⟨hkind, hafterKind⟩ := spelled_append_inj htail
  obtain ⟨hsurface, hafterSurface⟩ := spelled_append_inj hafterKind
  obtain ⟨hscope, hlast⟩ := List.cons.inj hafterSurface
  have hscope : scope = scope' := by cases scope <;> cases scope' <;> first | rfl | cases hscope
  have hselector : selector = selector' := by
    cases selector with
    | none =>
      cases selector' with
      | none => rfl
      | some selector' => exact absurd hlast.symm (by simp [spelled])
    | some selector =>
      cases selector' with
      | none => exact absurd hlast (by simp [spelled])
      | some selector' => exact congrArg _ (spelled_inj hlast)
  rw [hkind, hsurface, hscope, hselector]

def plainHost : PluginSurroundings Unit ℕ where
  parse _ := some 0
  appVersion := "0.2.24"
  computePluginManifestHash _ := "sha256"
  validateThemeContribution _ := .ok ()
  validateGeneratedUiRuntimeContribution _ := .ok ()
  validateGeneratedUiSdkContribution _ := .ok ()
  validateGeneratedUiActionBridgeContribution _ := .ok ()
  contributionTargetId target := String.ofList (spelledTarget target)
  targetId_inj _ _ h := spelledTarget_inj (String.ofList_inj.mp h)

def noPlugins : PluginDatabase plainHost := ⟨⟨∅, ∅, ∅⟩, ∅, fun _ _ h => nomatch h⟩

/-- A renderer of mermaid fences that lists its language twice. -/
def mermaidRenderer : VisualRendererContributionV1 where
  rendererId := "uprava.mermaid"
  implementationId := "uprava.mermaid"
  rendererKind := .inlineFragment
  acceptedSourceKinds := ["chat.assistant_message"]
  renderScopes := [.inlineFragment]
  allowedSurfaces := ["session.conversation"]
  fallbackStrategy := .source
  sourceMatcher := some (.fencedLanguage ["mermaid", "mermaid"])
  visualKinds := []
  actions := []

def mermaidPlugin : BundledPlugin Unit where
  manifest := {
    pluginId := "uprava.diagrams"
    version := "1.0.0"
    compatibility := ⟨⟨none, none⟩, ⟨none, none⟩, [currentProtocolVersion]⟩
    requestedPermissions := [visualRendererContributionPermission]
    details := {
      manifestVersion := 1
      displayName := "Diagrams"
      description := "Diagrams"
      publisher := "Uprava"
      installSource := .bundled
      trustLevel := .trustedBundled
      contributions := [.visualRenderer "uprava.diagrams.mermaid" 2 mermaidRenderer] } }
  defaultState := .enabled
  now := 0

/-- **The renderer passes the check, is registered, and conflicts with itself.** -/
theorem renderer_conflicts_with_itself :
    (bootstrapBundledPlugins noPlugins [mermaidPlugin]).2 = none ∧
      (effectivePluginSnapshot
        (bootstrapBundledPlugins noPlugins [mermaidPlugin]).1 0).resolutions.map
          (fun r => (r.conflict, r.contributions.map (·.reference))) =
        [(true, [⟨"uprava.diagrams", "uprava.diagrams.mermaid"⟩,
          ⟨"uprava.diagrams", "uprava.diagrams.mermaid"⟩])] ∧
      ¬ Effective (bootstrapBundledPlugins noPlugins [mermaidPlugin]).1
        (effectivePluginSnapshot (bootstrapBundledPlugins noPlugins [mermaidPlugin]).1 0) := by
  have htwice : (effectivePluginSnapshot
      (bootstrapBundledPlugins noPlugins [mermaidPlugin]).1 0).resolutions.map
        (fun r => (r.conflict, r.contributions.map (·.reference))) =
      [(true, [⟨"uprava.diagrams", "uprava.diagrams.mermaid"⟩,
        ⟨"uprava.diagrams", "uprava.diagrams.mermaid"⟩])] := by decide
  refine ⟨by decide, htwice, fun h => ?_⟩
  obtain ⟨r, hr, hpair⟩ := List.mem_map.mp (htwice.symm ▸ List.mem_singleton_self _)
  have honce := h.once r.target
  have hreferences : r.contributions.map (·.reference) = _ := (Prod.ext_iff.mp hpair).2
  rw [← (h.resolved r hr).1, hreferences] at honce
  exact absurd honce (by decide)

end Uprava.Core.Plugins
