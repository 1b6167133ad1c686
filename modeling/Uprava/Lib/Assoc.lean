/-
  File:      Uprava/Lib/Assoc.lean
  Subject:   Finite maps read by lookup, and the merge of a changed copy of a map into its owner.

  A worker takes a copy of a map (`baseline`), changes the copy (`candidate`) and hands both back;
  the owner's map may have moved on meanwhile. `mergeChanged` writes what the worker changed and
  leaves the rest. `lookup_mergeChanged` is its meaning, key by key.
-/
import Mathlib.Data.List.AList
import Mathlib.Data.List.Dedup

namespace Uprava.Lib

universe u v

/-- A finite map from `α` to `β`. -/
abbrev Assoc (α : Type u) (β : Type v) := AList fun _ : α => β

namespace Assoc

variable {α : Type u} {β : Type v} [DecidableEq α]

theorem lookup_insert' (m : Assoc α β) (k k' : α) (b : β) :
    (m.insert k b).lookup k' = if k' = k then some b else m.lookup k' := by
  by_cases h : k' = k
  · subst h
    rw [if_pos rfl, AList.lookup_insert]
  · rw [if_neg h, AList.lookup_insert_ne h]

theorem lookup_erase' (m : Assoc α β) (k k' : α) :
    (m.erase k).lookup k' = if k' = k then none else m.lookup k' := by
  by_cases h : k' = k
  · subst h
    rw [if_pos rfl, AList.lookup_erase]
  · rw [if_neg h, AList.lookup_erase_ne h]

/-! ## 1. Keeping some keys -/

/-- The entries whose key satisfies `p`. -/
def retain (p : α → Bool) (m : Assoc α β) : Assoc α β :=
  ⟨m.entries.filter fun e => p e.1,
    List.Nodup.sublist (List.filter_sublist.map Sigma.fst) m.nodupKeys⟩

@[simp] theorem lookup_retain (p : α → Bool) (m : Assoc α β) (k : α) :
    (m.retain p).lookup k = if p k then m.lookup k else none := by
  ext b
  have hm : b ∈ (m.retain p).lookup k ↔ (⟨k, b⟩ : Sigma fun _ : α => β) ∈ m.entries ∧ p k := by
    rw [AList.mem_lookup_iff]
    exact List.mem_filter
  rw [← Option.mem_def, hm, ← AList.mem_lookup_iff]
  by_cases hp : p k = true <;> simp [hp]

/-! ## 2. Merging what changed -/

variable [DecidableEq β]

/-- What the owner's entry of a key becomes, from the worker's entry before and after. A removal
    is carried over only while the owner still has the entry the worker removed. -/
def changed (baseline candidate owner : Option β) : Option β :=
  if baseline = candidate then owner
  else
    match candidate with
    | some next => some next
    | none => if owner = baseline then none else owner

def mergeKey (baseline candidate : Assoc α β) (owner : Assoc α β) (k : α) : Assoc α β :=
  match baseline.lookup k, candidate.lookup k with
  | some previous, some next => if previous ≠ next then owner.insert k next else owner
  | none, some next => owner.insert k next
  | some previous, none => if owner.lookup k = some previous then owner.erase k else owner
  | none, none => owner

/-- `merge_changed_map`: every key of either copy is merged. -/
def mergeChanged (owner baseline candidate : Assoc α β) : Assoc α β :=
  (baseline.keys ++ candidate.keys).dedup.foldl (mergeKey baseline candidate) owner

theorem lookup_mergeKey (owner baseline candidate : Assoc α β) (k k' : α) :
    (mergeKey baseline candidate owner k).lookup k' =
      if k' = k then changed (baseline.lookup k) (candidate.lookup k) (owner.lookup k)
      else owner.lookup k' := by
  unfold mergeKey changed
  by_cases hk : k' = k
  · subst hk
    cases hb : baseline.lookup k' with
    | none =>
      cases hc : candidate.lookup k' with
      | none => simp
      | some next => simp
    | some previous =>
      cases hc : candidate.lookup k' with
      | none =>
        by_cases ho : owner.lookup k' = some previous <;> simp [ho]
      | some next =>
        by_cases hn : previous = next <;> simp [hn]
  · cases hb : baseline.lookup k with
    | none =>
      cases hc : candidate.lookup k with
      | none => simp [hk]
      | some next => simp [hk]
    | some previous =>
      cases hc : candidate.lookup k with
      | none => by_cases ho : owner.lookup k = some previous <;> simp [ho, hk]
      | some next => by_cases hn : previous = next <;> simp [hn, hk]

theorem lookup_foldl_mergeKey (baseline candidate : Assoc α β) {ks : List α} (hks : ks.Nodup)
    (owner : Assoc α β) (k : α) :
    (ks.foldl (mergeKey baseline candidate) owner).lookup k =
      if k ∈ ks then changed (baseline.lookup k) (candidate.lookup k) (owner.lookup k)
      else owner.lookup k := by
  induction ks generalizing owner with
  | nil => simp
  | cons k₀ ks ih =>
    obtain ⟨hk₀, hks'⟩ := List.nodup_cons.mp hks
    rw [List.foldl_cons, ih hks', lookup_mergeKey]
    by_cases h : k = k₀
    · subst h
      simp [hk₀]
    · simp [h]

/-- **The merge, key by key.** -/
@[simp] theorem lookup_mergeChanged (owner baseline candidate : Assoc α β) (k : α) :
    (mergeChanged owner baseline candidate).lookup k =
      changed (baseline.lookup k) (candidate.lookup k) (owner.lookup k) := by
  unfold mergeChanged
  rw [lookup_foldl_mergeKey _ _ (List.nodup_dedup _)]
  by_cases h : k ∈ (baseline.keys ++ candidate.keys).dedup
  · rw [if_pos h]
  · -- a key of neither copy is in neither, before and after
    have h' : k ∉ baseline.keys ∧ k ∉ candidate.keys := by simpa using h
    have hb : baseline.lookup k = none := AList.lookup_eq_none.mpr h'.1
    have hc : candidate.lookup k = none := AList.lookup_eq_none.mpr h'.2
    rw [if_neg h, hb, hc]
    rfl

theorem changed_of_eq {baseline candidate owner : Option β} (h : baseline = candidate) :
    changed baseline candidate owner = owner := if_pos h

theorem changed_none_some (next : β) (owner : Option β) :
    changed none (some next) owner = some next := rfl

/-- Two workers of whom only one changed an entry are merged in either order. -/
theorem changed_comm {b₁ c₁ b₂ c₂ : Option β} (h : b₁ = c₁ ∨ b₂ = c₂) (owner : Option β) :
    changed b₂ c₂ (changed b₁ c₁ owner) = changed b₁ c₁ (changed b₂ c₂ owner) := by
  rcases h with h | h
  · rw [changed_of_eq h, changed_of_eq h]
  · rw [changed_of_eq h, changed_of_eq h]

/-- The worker's entry brings the owner nothing: it is as it was, it is what the owner has, or it
    was removed and the owner has another. -/
def Stale (baseline candidate owner : Option β) : Prop :=
  baseline = candidate ∨ candidate = owner ∨ candidate = none ∧ owner ≠ baseline

theorem changed_of_stale {baseline candidate owner : Option β}
    (h : Stale baseline candidate owner) : changed baseline candidate owner = owner := by
  unfold changed
  split
  · rfl
  · rename_i hne
    rcases h with h | rfl | ⟨rfl, h⟩
    · exact absurd h hne
    · cases candidate with
      | none => exact ite_self _
      | some next => rfl
    · exact if_neg h

/-- An entry after the merge is the owner's or the worker's. -/
theorem of_changed_eq_some {baseline candidate owner : Option β} {b : β}
    (h : changed baseline candidate owner = some b) : owner = some b ∨ candidate = some b := by
  unfold changed at h
  split at h
  · exact .inl h
  · cases candidate with
    | some next => exact .inr h
    | none =>
      dsimp only at h
      split at h
      · cases h
      · exact .inl h

end Assoc

end Uprava.Lib
