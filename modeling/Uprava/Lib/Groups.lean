/-
  File:      Uprava/Lib/Groups.lean
  Subject:   Maps whose entries stand in the order of their keys, and values collected in such a map
             by a key.
-/
import Mathlib.Order.Basic
import Mathlib.Data.List.Induction
import Mathlib.Data.List.Sort

namespace Uprava.Lib

/-! ## 1. Ordered maps -/

/-- A map from `κ` to `β` with its entries in the order of the keys. -/
structure OrderedMap (κ β : Type*) [LinearOrder κ] where
  entries : List (κ × β)
  sorted : entries.Pairwise fun a b => a.1 < b.1

namespace OrderedMap

variable {κ β α : Type*} [LinearOrder κ]

def empty : OrderedMap κ β := ⟨[], .nil⟩

/-- The entries after `update` is applied at a key, to `initial` where it is new. -/
def enterList (key : κ) (initial : β) (update : β → β) : List (κ × β) → List (κ × β)
  | [] => [(key, update initial)]
  | (k, b) :: rest =>
    if key < k then (key, update initial) :: (k, b) :: rest
    else if key = k then (k, update b) :: rest
    else (k, b) :: enterList key initial update rest

variable {key : κ} {initial : β} {update : β → β}

theorem mem_enterList {entries : List (κ × β)} {e : κ × β}
    (h : e ∈ enterList key initial update entries) : e.1 = key ∨ e ∈ entries := by
  induction entries with
  | nil => exact .inl (by rw [List.mem_singleton.mp h])
  | cons head rest ih =>
    obtain ⟨k, b⟩ := head
    rw [enterList] at h
    split at h
    · rcases List.mem_cons.mp h with rfl | h
      · exact .inl rfl
      · exact .inr h
    · split at h
      · rename_i hk
        rcases List.mem_cons.mp h with rfl | h
        · exact .inl hk.symm
        · exact .inr (List.mem_cons_of_mem _ h)
      · rcases List.mem_cons.mp h with rfl | h
        · exact .inr List.mem_cons_self
        · exact (ih h).imp_right (List.mem_cons_of_mem _)

theorem sorted_enterList {entries : List (κ × β)}
    (h : entries.Pairwise fun a b => a.1 < b.1) :
    (enterList key initial update entries).Pairwise fun a b => a.1 < b.1 := by
  induction entries with
  | nil => exact List.pairwise_singleton _ _
  | cons head rest ih =>
    obtain ⟨k, b⟩ := head
    obtain ⟨hhead, hrest⟩ := List.pairwise_cons.mp h
    rw [enterList]
    split
    · rename_i hlt
      refine List.pairwise_cons.mpr ⟨fun e he => ?_, h⟩
      rcases List.mem_cons.mp he with rfl | he
      · exact hlt
      · exact hlt.trans (hhead e he)
    · split
      · exact List.pairwise_cons.mpr ⟨hhead, hrest⟩
      · rename_i hnlt hne
        refine List.pairwise_cons.mpr ⟨fun e he => ?_, ih hrest⟩
        rcases mem_enterList he with heq | he
        · rw [heq]
          exact lt_of_le_of_ne (not_lt.mp hnlt) fun h => hne h.symm
        · exact hhead e he

/-- `entry(key).or_insert(initial)`, updated. -/
def enter (m : OrderedMap κ β) (key : κ) (initial : β) (update : β → β) : OrderedMap κ β :=
  ⟨enterList key initial update m.entries, sorted_enterList m.sorted⟩

def get? (m : OrderedMap κ β) (key : κ) : Option β :=
  (m.entries.find? fun e => e.1 = key).map Prod.snd

theorem find?_enterList (entries : List (κ × β)) (k : κ)
    (h : entries.Pairwise fun a b => a.1 < b.1) :
    ((enterList key initial update entries).find? fun e => e.1 = k).map Prod.snd =
      if k = key then
        some (update (((entries.find? fun e => e.1 = k).map Prod.snd).getD initial))
      else (entries.find? fun e => e.1 = k).map Prod.snd := by
  induction entries with
  | nil =>
    by_cases hk : k = key
    · simp [enterList, hk]
    · simp [enterList, hk, Ne.symm hk]
  | cons head rest ih =>
    obtain ⟨k', b⟩ := head
    obtain ⟨hhead, hrest⟩ := List.pairwise_cons.mp h
    rw [enterList]
    split
    · rename_i hlt
      by_cases hk : k = key
      · -- a key below the first is a new one
        subst hk
        have hnone : ((k', b) :: rest).find? (fun e => e.1 = k) = none := by
          refine List.find?_eq_none.mpr fun e he => ?_
          rcases List.mem_cons.mp he with rfl | he
          · simpa using hlt.ne'
          · simpa using (hlt.trans (hhead e he)).ne'
        rw [hnone]
        simp
      · rw [if_neg hk, List.find?_cons_of_neg (by simpa using Ne.symm hk)]
    · split
      · rename_i hkey
        subst hkey
        by_cases hk : k = key
        · subst hk
          simp
        · simp [hk, Ne.symm hk]
      · rename_i hne
        by_cases hk : k' = k
        · subst hk
          simp [Ne.symm hne]
        · rw [List.find?_cons_of_neg (by simpa using hk),
            List.find?_cons_of_neg (by simpa using hk)]
          exact ih hrest

/-- **The map after an entry, key by key.** -/
theorem get?_enter (m : OrderedMap κ β) (k : κ) :
    (m.enter key initial update).get? k =
      if k = key then some (update ((m.get? k).getD initial)) else m.get? k :=
  find?_enterList m.entries k m.sorted

theorem mem_entries_iff (m : OrderedMap κ β) {k : κ} {b : β} :
    (k, b) ∈ m.entries ↔ m.get? k = some b := by
  unfold get?
  constructor
  · intro h
    obtain ⟨e, he⟩ := Option.isSome_iff_exists.mp
      (List.find?_isSome (p := fun e : κ × β => e.1 = k).mpr ⟨(k, b), h, by simp⟩)
    have hmem := List.mem_of_find?_eq_some he
    have hkey : e.1 = k := by simpa using List.find?_some he
    -- two entries of one key would stand in an order
    have heq : e = (k, b) := by
      by_contra hne
      have hsorted : m.entries.Pairwise fun a b => a = b ∨ a.1 < b.1 ∨ b.1 < a.1 :=
        m.sorted.imp fun h => .inr (.inl h)
      have hflip : m.entries.Pairwise (flip fun a b => a = b ∨ a.1 < b.1 ∨ b.1 < a.1) :=
        m.sorted.imp fun h => .inr (.inr h)
      rcases hsorted.forall_of_forall_of_flip (fun _ _ => .inl rfl) hflip hmem h
        with heq | hlt | hlt
      · exact hne heq
      · exact hlt.ne hkey
      · exact hlt.ne hkey.symm
    rw [he, heq]
    rfl
  · intro h
    obtain ⟨e, he, hb⟩ := Option.map_eq_some_iff.mp h
    have hkey : e.1 = k := by simpa using List.find?_some he
    have heq : e = (k, b) := Prod.ext hkey hb
    exact heq ▸ List.mem_of_find?_eq_some he

theorem nodup_keys (m : OrderedMap κ β) : (m.entries.map Prod.fst).Nodup :=
  List.pairwise_map.mpr (m.sorted.imp fun h => h.ne)

/-! ## 2. Collecting -/

/-- The values one after the other, each pushed to what its key has. -/
def collect (key : α → κ) (start : α → β) (push : β → α → β) (xs : List α) : OrderedMap κ β :=
  xs.foldl (fun m x => m.enter (key x) (start x) (push · x)) empty

/-- **What is collected under a key**: its values, pushed to what the first of them starts. -/
theorem get?_collect (key : α → κ) (start : α → β) (push : β → α → β) (xs : List α) (k : κ) :
    (collect key start push xs).get? k =
      (xs.filter (key · = k)).head?.map fun x =>
        (xs.filter (key · = k)).foldl push (start x) := by
  unfold collect
  induction xs using List.reverseRecOn with
  | nil => rfl
  | append_singleton xs x ih =>
    rw [List.foldl_append, List.foldl_cons, List.foldl_nil, get?_enter, ih, List.filter_append]
    by_cases hk : k = key x
    · subst hk
      rw [if_pos rfl, List.filter_cons_of_pos (by simp), List.filter_nil]
      cases hf : xs.filter (key · = key x) with
      | nil => simp
      | cons y ys => simp [List.foldl_append]
    · rw [if_neg hk, List.filter_cons_of_neg (by simpa using Ne.symm hk), List.filter_nil,
        List.append_nil]

end OrderedMap

/-- Values are told apart by two keys together exactly when, among those with the same second key,
    the first one tells them apart. -/
theorem nodup_pairs_iff {α β γ : Type*} [DecidableEq γ] (f : α → β) (g : α → γ) (xs : List α) :
    (xs.map fun x => (f x, g x)).Nodup ↔ ∀ c, ((xs.filter (g · = c)).map f).Nodup := by
  simp only [List.Nodup, List.pairwise_map, List.pairwise_filter, decide_eq_true_eq]
  constructor
  · intro h c
    exact h.imp fun hne ha hb heq => hne (Prod.ext heq (ha.trans hb.symm))
  · intro h
    refine List.pairwise_iff_getElem.mpr fun i j hi hj hij heq => ?_
    have hj' := List.pairwise_iff_getElem.mp (h (g xs[j])) i j hi hj hij
    exact hj' (Prod.ext_iff.mp heq).2 rfl (Prod.ext_iff.mp heq).1

/-- Parts put one after the other, each with a key of its own, are found again by the key. -/
theorem filter_flatMap_eq {α ρ γ : Type*} [DecidableEq γ] {parts : ρ → List α} {key : ρ → γ}
    {keyOf : α → γ} {rs : List ρ} (hkeys : (rs.map key).Nodup)
    (hparts : ∀ r ∈ rs, ∀ a ∈ parts r, keyOf a = key r) {r : ρ} (hr : r ∈ rs) :
    (rs.flatMap parts).filter (keyOf · = key r) = parts r := by
  induction rs with
  | nil => cases hr
  | cons head rest ih =>
    obtain ⟨hhead, hrest⟩ := List.nodup_cons.mp hkeys
    have hparts' := fun r hr => hparts r (List.mem_cons_of_mem _ hr)
    rw [List.flatMap_cons, List.filter_append]
    rcases List.mem_cons.mp hr with rfl | hr
    · rw [List.filter_eq_self.mpr fun a ha => by simpa using hparts r List.mem_cons_self a ha,
        List.filter_eq_nil_iff.mpr, List.append_nil]
      intro a ha hkey
      obtain ⟨r', hr', ha'⟩ := List.mem_flatMap.mp ha
      have heq : key r' = key r := (hparts' r' hr' a ha').symm.trans (by simpa using hkey)
      exact hhead (heq ▸ List.mem_map_of_mem hr')
    · rw [ih hrest hparts' hr, List.filter_eq_nil_iff.mpr, List.nil_append]
      intro a ha hkey
      have heq : key head = key r :=
        (hparts head List.mem_cons_self a ha).symm.trans (by simpa using hkey)
      exact hhead (heq ▸ List.mem_map_of_mem hr)

end Uprava.Lib
