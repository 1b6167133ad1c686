/-
  File:      Uprava/Lib/StableSort.lean
  Subject:   A stable sort by a comparison that may call different elements equal.

  `sortBy_eq_iff` says, pair by pair, when a list is what the sort makes of another one;
  `filter_sortBy` that a filter may be taken before the sort or after it; `sortBy_eq_of_perm` when
  the order of the input does not matter.
-/
import Uprava.Lib.Before

namespace Uprava.Lib

universe u v

variable {ε : Type u} {α : Type v} {cmp : ε → ε → Ordering} {xs ys : List ε} {a b c : ε}

/-- The elements by the comparison; equal ones stay in their order. -/
def sortBy (cmp : ε → ε → Ordering) (xs : List ε) : List ε := xs.mergeSort fun a b => (cmp a b).isLE

theorem perm_sortBy (cmp : ε → ε → Ordering) (xs : List ε) : (sortBy cmp xs).Perm xs :=
  List.mergeSort_perm xs _

theorem mem_sortBy : a ∈ sortBy cmp xs ↔ a ∈ xs := (perm_sortBy cmp xs).mem_iff

theorem map_sortBy (f : ε → α) (cmp : α → α → Ordering) (xs : List ε) :
    (sortBy (fun a b => cmp (f a) (f b)) xs).map f = sortBy cmp (xs.map f) :=
  List.map_mergeSort fun _ _ _ _ => rfl

/-- A comparison of values made of the elements. -/
theorem transCmp_on (cmp : α → α → Ordering) [Std.TransCmp cmp] (f : ε → α) :
    Std.TransCmp fun a b => cmp (f a) (f b) where
  eq_swap {a b} := @Std.OrientedCmp.eq_swap _ cmp _ (f a) (f b)
  isLE_trans {a b c} := @Std.TransCmp.isLE_trans _ cmp _ (f a) (f b) (f c)

section Comparison

variable [Std.TransCmp cmp]

variable (cmp) in
theorem cmp_swap (a b : ε) : cmp b a = (cmp a b).swap := Std.OrientedCmp.eq_swap

theorem isLE_total (a b : ε) : ((cmp a b).isLE || (cmp b a).isLE) = true := by
  rw [cmp_swap cmp a b]
  cases cmp a b <;> rfl

theorem pairwise_sortBy (xs : List ε) :
    (sortBy cmp xs).Pairwise fun a b => (cmp a b).isLE = true :=
  List.pairwise_mergeSort (fun _ _ _ => Std.TransCmp.isLE_trans) isLE_total xs

/-- Two splits of a list into smaller elements and others are the same one. -/
theorem split_unique {p : ε → Bool} {l₁ l₂ m₁ m₂ : List ε} (h : l₁ ++ l₂ = m₁ ++ m₂)
    (hl₁ : ∀ x ∈ l₁, p x = true) (hl₂ : ∀ x ∈ l₂, p x = false) (hm₁ : ∀ x ∈ m₁, p x = true)
    (hm₂ : ∀ x ∈ m₂, p x = false) : l₁ = m₁ ∧ l₂ = m₂ := by
  have hfilter := congrArg (List.filter p) h
  have hnone : ∀ {l : List ε}, (∀ x ∈ l, p x = false) → l.filter p = [] := fun hl =>
    List.filter_eq_nil_iff.mpr fun x hx => Bool.eq_false_iff.mp (hl x hx)
  rw [List.filter_append, List.filter_append, List.filter_eq_self.mpr hl₁, hnone hl₂,
    List.filter_eq_self.mpr hm₁, hnone hm₂, List.append_nil, List.append_nil] at hfilter
  obtain rfl := hfilter
  exact ⟨rfl, List.append_cancel_left h⟩

variable (cmp) in
/-- Where the sort puts the first element: behind the smaller ones, before the others. -/
theorem sortBy_cons (a : ε) (xs : List ε) :
    ∃ l₁ l₂, sortBy cmp (a :: xs) = l₁ ++ a :: l₂ ∧ sortBy cmp xs = l₁ ++ l₂ ∧
      (∀ x ∈ l₁, (!(cmp a x).isLE) = true) ∧ ∀ x ∈ l₂, (!(cmp a x).isLE) = false := by
  obtain ⟨l₁, l₂, hcons, hrest, hsmaller⟩ := @List.mergeSort_cons _ (fun a b => (cmp a b).isLE)
    (fun _ _ _ => Std.TransCmp.isLE_trans) isLE_total a xs
  refine ⟨l₁, l₂, hcons, hrest, hsmaller, fun x hx => ?_⟩
  have hsorted : (sortBy cmp (a :: xs)).Pairwise fun a b => (cmp a b).isLE = true :=
    pairwise_sortBy (a :: xs)
  rw [sortBy, hcons] at hsorted
  have hle := (List.pairwise_cons.mp (List.pairwise_append.mp hsorted).2.1).1 x hx
  rw [hle]
  rfl

/-- **A filter may be taken before the sort or after it.** -/
theorem filter_sortBy (p : ε → Bool) (xs : List ε) :
    (sortBy cmp xs).filter p = sortBy cmp (xs.filter p) := by
  induction xs with
  | nil => rw [sortBy, List.mergeSort_nil, List.filter_nil, sortBy, List.mergeSort_nil]
  | cons a xs ih =>
    obtain ⟨l₁, l₂, hcons, hrest, hsmaller, hothers⟩ := sortBy_cons cmp a xs
    rw [hrest, List.filter_append] at ih
    rw [hcons, List.filter_append]
    by_cases ha : p a = true
    · rw [List.filter_cons_of_pos ha, List.filter_cons_of_pos ha]
      obtain ⟨m₁, m₂, hcons', hrest', hsmaller', hothers'⟩ :=
        sortBy_cons cmp a (xs.filter p)
      obtain ⟨rfl, rfl⟩ := split_unique (ih.trans hrest')
        (fun x hx => hsmaller x (List.mem_of_mem_filter hx))
        (fun x hx => hothers x (List.mem_of_mem_filter hx)) hsmaller' hothers'
      exact hcons'.symm
    · rw [List.filter_cons_of_neg ha, List.filter_cons_of_neg ha]
      exact ih

/-- In the sorted list a smaller element comes first, and of equal ones the one that was first. -/
theorem before_sortBy_iff (hxs : xs.Nodup) (ha : a ∈ xs) (hb : b ∈ xs) (hne : a ≠ b) :
    Before (sortBy cmp xs) a b ↔ cmp a b = .lt ∨ (cmp a b = .eq ∧ Before xs a b) := by
  rw [sortBy, before_mergeSort_iff (fun _ _ _ => Std.TransCmp.isLE_trans) isLE_total hxs ha hb hne,
    cmp_swap cmp a b]
  cases cmp a b <;> simp

theorem pairwise_before (xs : List ε) : xs.Pairwise (Before xs) :=
  List.pairwise_of_forall_sublist id

/-- **What the sort makes of a list**, pair by pair. -/
theorem sortBy_eq_iff (hxs : xs.Nodup) (hperm : ys.Perm xs) :
    sortBy cmp xs = ys ↔
      ys.Pairwise fun a b => cmp a b = .lt ∨ (cmp a b = .eq ∧ Before xs a b) := by
  have hsorted : (sortBy cmp xs).Nodup := (perm_sortBy cmp xs).nodup_iff.mpr hxs
  have hbefore : ∀ {a b}, a ∈ xs → b ∈ xs → a ≠ b →
      (Before (sortBy cmp xs) a b ↔ cmp a b = .lt ∨ (cmp a b = .eq ∧ Before xs a b)) :=
    fun ha hb hne => before_sortBy_iff hxs ha hb hne
  have hpairs : (sortBy cmp xs).Pairwise fun a b =>
      cmp a b = .lt ∨ (cmp a b = .eq ∧ Before xs a b) :=
    (hsorted.and (pairwise_before _)).imp_of_mem fun ha hb h =>
      (hbefore (mem_sortBy.mp ha) (mem_sortBy.mp hb) h.1).mp h.2
  constructor
  · rintro rfl
    exact hpairs
  · intro h
    refine ((perm_sortBy cmp xs).trans hperm.symm).eq_of_pairwise (fun a b ha hb hab hba => ?_)
      hpairs h
    by_contra hne
    have ha := mem_sortBy.mp ha
    have hb := hperm.mem_iff.mp hb
    have hab' := (hbefore ha hb hne).mpr hab
    exact hab'.asymm hsorted ((hbefore hb ha (Ne.symm hne)).mpr hba)

/-- **The order of the input does not matter** when no two elements are called equal. -/
theorem sortBy_eq_of_perm (hperm : xs.Perm ys)
    (hdistinct : ∀ a ∈ xs, ∀ b ∈ xs, cmp a b = .eq → a = b) : sortBy cmp xs = sortBy cmp ys := by
  refine ((perm_sortBy cmp xs).trans (hperm.trans (perm_sortBy cmp ys).symm)).eq_of_pairwise
    (fun a b ha hb hab hba => ?_) (pairwise_sortBy xs) (pairwise_sortBy ys)
  have ha := mem_sortBy.mp ha
  have hb := hperm.mem_iff.mpr (mem_sortBy.mp hb)
  refine hdistinct a ha b hb ?_
  rw [cmp_swap cmp a b] at hba
  cases hcmp : cmp a b with
  | eq => rfl
  | lt =>
    rw [hcmp] at hba
    exact absurd hba (by decide)
  | gt =>
    rw [hcmp] at hab
    exact absurd hab (by decide)

end Comparison

end Uprava.Lib
