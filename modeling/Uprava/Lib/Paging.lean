/-
  File:      Uprava/Lib/Paging.lean
  Subject:   Reading a list page by page: each page names the cursor that the next is asked with.

  A service answers the k-th request with a page and a cursor, or fails. `PagedReading` is the
  reading that goes on until a page has no cursor. Where every cursor stands at a position of one
  list (`pos`), the reading ends and its pages put together are the list (`exists_reading`); there
  is no other (`PagedReading.unique`).
-/
import Mathlib.Data.List.Basic

namespace Uprava.Lib

variable {α κ ε : Type}

/-- Reading on from a cursor, at the k-th request, gives these pages. -/
inductive PagedReading (next : Nat → Option κ → Except ε (List α × Option κ)) :
    Nat → Option κ → List (List α) → Prop where
  | last {k cursor page} (h : next k cursor = .ok (page, none)) : PagedReading next k cursor [page]
  | more {k cursor page cursor' pages} (h : next k cursor = .ok (page, some cursor'))
      (rest : PagedReading next (k + 1) (some cursor') pages) :
      PagedReading next k cursor (page :: pages)

/-! ## 1. Reading on -/

variable {next : Nat → Option κ → Except ε (List α × Option κ)}

theorem PagedReading.ok {k : Nat} {cursor : Option κ} {pages : List (List α)}
    (h : PagedReading next k cursor pages) : ∃ answer, next k cursor = .ok answer := by
  cases h with
  | last h => exact ⟨_, h⟩
  | more h _ => exact ⟨_, h⟩

theorem PagedReading.unique {k : Nat} {cursor : Option κ} {pages pages' : List (List α)}
    (h : PagedReading next k cursor pages) (h' : PagedReading next k cursor pages') :
    pages = pages' := by
  induction h generalizing pages' with
  | last h =>
    cases h' with
    | last h' => rw [h] at h'; cases h'; rfl
    | more h' _ => rw [h] at h'; cases h'
  | more h _ ih =>
    cases h' with
    | last h' => rw [h] at h'; cases h'
    | more h' rest' =>
      rw [h] at h'
      cases h'
      rw [ih rest']

/-- What a request does at a position: a page from there, and the cursor of what is left. -/
def Stands (next : Nat → Option κ → Except ε (List α × Option κ)) (pos : Option κ → Nat → Prop)
    (full : List α) (k : Nat) (cursor : Option κ) (i : Nat) : Prop :=
  ∃ n, 0 < n ∧ ∃ cursor', next k cursor = .ok ((full.drop i).take n, cursor') ∧
    match cursor' with
    | none => full.length ≤ i + n
    | some cursor' => i + n < full.length ∧ pos (some cursor') (i + n)

/-- **Every reading from a position ends, with the rest of the list**, where what stands at a
    position may depend on the request. -/
theorem exists_reading_at {pos : Nat → Option κ → Nat → Prop} {full : List α}
    (hstep : ∀ k cursor i, pos k cursor i → Stands next (pos (k + 1)) full k cursor i) {k : Nat}
    {cursor : Option κ} {i : Nat} (hpos : pos k cursor i) :
    ∃ pages, PagedReading next k cursor pages ∧ pages.flatten = full.drop i := by
  induction hleft : full.length - i using Nat.strongRecOn generalizing k cursor i with
  | ind left ih =>
    obtain ⟨n, hn, cursor', hnext, hrest⟩ := hstep k cursor i hpos
    cases cursor' with
    | none =>
      refine ⟨[(full.drop i).take n], .last hnext, ?_⟩
      have hall : (full.drop i).length ≤ n := by
        rw [List.length_drop]
        exact Nat.sub_le_of_le_add (Nat.add_comm i n ▸ hrest)
      rw [List.flatten_singleton, List.take_of_length_le hall]
    | some cursor' =>
      obtain ⟨hmore, hpos'⟩ := hrest
      obtain ⟨pages, hreading, hpages⟩ :=
        ih (full.length - (i + n)) (by omega) (k := k + 1) hpos' rfl
      refine ⟨(full.drop i).take n :: pages, .more hnext hreading, ?_⟩
      rw [List.flatten_cons, hpages, ← List.drop_drop, List.take_append_drop]

theorem exists_reading {pos : Option κ → Nat → Prop} {full : List α}
    (hstep : ∀ k cursor i, pos cursor i → Stands next pos full k cursor i) {k : Nat}
    {cursor : Option κ} {i : Nat} (hpos : pos cursor i) :
    ∃ pages, PagedReading next k cursor pages ∧ pages.flatten = full.drop i :=
  @exists_reading_at α κ ε next (fun _ => pos) full hstep k cursor i hpos

/-! ## 2. Reading from a key on -/

section Sorted

variable {le : α → α → Bool} {xs : List α}

/-- Some of the elements, sorted, are some of the sorted elements. -/
theorem mergeSort_filter (p : α → Bool) (htrans : ∀ a b c, le a b → le b c → le a c)
    (htotal : ∀ a b, le a b || le b a) (hanti : ∀ a b, a ∈ xs → b ∈ xs → le a b → le b a → a = b) :
    (xs.filter p).mergeSort le = (xs.mergeSort le).filter p := by
  refine @List.Perm.eq_of_pairwise α (fun a b => le a b = true) _ _ ?_
    (List.pairwise_mergeSort htrans htotal _) ((List.pairwise_mergeSort htrans htotal _).filter p)
    ((List.mergeSort_perm _ _).trans ((List.mergeSort_perm _ _).symm.filter p))
  intro a b ha hb
  refine hanti a b (List.mem_of_mem_filter (List.mem_mergeSort.mp ha)) ?_
  exact List.mem_mergeSort.mp (List.mem_of_mem_filter hb)

/-- Of a list in strict order, what lies beyond one of its elements is what comes after it. -/
theorem filter_beyond (lt : α → α → Prop) {pre post : List α} {r : α} {p : α → Bool}
    (hsorted : (pre ++ r :: post).Pairwise lt) (hirrefl : ¬ lt r r)
    (hasymm : ∀ a, lt a r → ¬ lt r a) (hp : ∀ a ∈ pre ++ r :: post, p a = true ↔ lt r a) :
    (pre ++ r :: post).filter p = post := by
  have hparts := List.pairwise_append.mp hsorted
  have hpre : pre.filter p = [] := by
    rw [List.filter_eq_nil_iff]
    intro a ha hpa
    exact hasymm a (hparts.2.2 a ha r (List.mem_cons_self ..))
      ((hp a (List.mem_append_left _ ha)).mp hpa)
  have hr : p r = false := by
    rw [Bool.eq_false_iff]
    intro hpr
    exact hirrefl ((hp r (by simp)).mp hpr)
  have hpost : post.filter p = post := by
    rw [List.filter_eq_self]
    intro a ha
    exact (hp a (by simp [ha])).mpr ((List.pairwise_cons.mp hparts.2.1).1 a ha)
  rw [List.filter_append, List.filter_cons, hr, hpre, hpost]
  rfl

end Sorted

end Uprava.Lib
