/-
  File:      Uprava/Lib/Before.lean
  Subject:   The order in which the elements of a list come, what a stable sort makes of it, and
             the last write of a register in terms of it.

  The elements are told apart: the lists have no duplicates. `before_mergeSort_iff` says when one
  element comes before another in a sorted list, and `lastWrite_eq_iff` which write is the last one,
  both without running over the list.
-/
import Mathlib.Data.List.Induction
import Mathlib.Data.List.Nodup
import Uprava.Lib.LastWrite

namespace Uprava.Lib

universe u v

variable {ε : Type u} {α : Type v} {l : List ε} {a b c : ε}

/-! ## 1. Before -/

/-- `a` comes before `b` in the list. -/
def Before (l : List ε) (a b : ε) : Prop := [a, b].Sublist l

instance [DecidableEq ε] (l : List ε) (a b : ε) : Decidable (Before l a b) :=
  inferInstanceAs (Decidable (List.Sublist _ _))

theorem Before.mem (h : Before l a b) : a ∈ l ∧ b ∈ l :=
  ⟨h.subset (by simp), h.subset (by simp)⟩

/-- What is added at the end comes after the rest. -/
theorem before_concat_iff : Before (l ++ [c]) a b ↔ Before l a b ∨ (a ∈ l ∧ b = c) := by
  constructor
  · intro h
    obtain ⟨l₁, l₂, he, h₁, h₂⟩ := List.sublist_append_iff.mp h
    match l₁ with
    | [] =>
      obtain rfl : l₂ = [a, b] := he.symm
      exact absurd h₂.length_le (by simp)
    | [x] =>
      obtain ⟨rfl, rfl⟩ : a = x ∧ l₂ = [b] := by simpa [eq_comm] using he
      exact Or.inr ⟨List.singleton_sublist.mp h₁, by simpa using h₂⟩
    | x :: y :: l₁ =>
      obtain ⟨rfl, rfl, rfl, rfl⟩ : a = x ∧ b = y ∧ l₁ = [] ∧ l₂ = [] := by simpa using he
      exact Or.inl h₁
  · intro h
    rcases h with h | ⟨ha, rfl⟩
    · exact h.trans (List.sublist_append_left l [c])
    · exact (List.singleton_sublist.mpr ha).append (List.Sublist.refl [b])

theorem Before.asymm (hl : l.Nodup) (h : Before l a b) : ¬ Before l b a := by
  induction l using List.reverseRecOn with
  | nil => exact absurd h.mem.1 List.not_mem_nil
  | append_singleton l c ih =>
    obtain ⟨hnodup, -, hc⟩ := List.nodup_append.mp hl
    have hnot : c ∉ l := fun hmem => hc c hmem c (by simp) rfl
    rw [before_concat_iff] at h ⊢
    rintro (hba | ⟨hb, rfl⟩)
    · rcases h with hab | ⟨-, rfl⟩
      · exact ih hnodup hab hba
      · exact hnot hba.mem.1
    · rcases h with hab | ⟨ha, -⟩
      · exact hnot hab.mem.1
      · exact hnot ha

theorem before_or_before (ha : a ∈ l) (hb : b ∈ l) (hne : a ≠ b) : Before l a b ∨ Before l b a := by
  induction l using List.reverseRecOn with
  | nil => exact absurd ha List.not_mem_nil
  | append_singleton l c ih =>
    rw [before_concat_iff, before_concat_iff]
    rcases List.mem_append.mp ha with ha | ha
    · rcases List.mem_append.mp hb with hb | hb
      · exact (ih ha hb).imp Or.inl Or.inl
      · exact Or.inl (Or.inr ⟨ha, by simpa using hb⟩)
    · obtain rfl : a = c := by simpa using ha
      rcases List.mem_append.mp hb with hb | hb
      · exact Or.inr (Or.inr ⟨hb, rfl⟩)
      · exact absurd (by simpa using hb : b = a).symm hne

theorem Before.trans (hl : l.Nodup) (hab : Before l a b) (hbc : Before l b c) : Before l a c := by
  induction l using List.reverseRecOn with
  | nil => exact absurd hab.mem.1 List.not_mem_nil
  | append_singleton l d ih =>
    obtain ⟨hnodup, -, hd⟩ := List.nodup_append.mp hl
    have hnot : d ∉ l := fun hmem => hd d hmem d (by simp) rfl
    rw [before_concat_iff] at hab hbc ⊢
    rcases hab with hab | ⟨ha, rfl⟩
    · rcases hbc with hbc | ⟨-, rfl⟩
      · exact Or.inl (ih hnodup hab hbc)
      · exact Or.inr ⟨hab.mem.1, rfl⟩
    · rcases hbc with hbc | ⟨hb, -⟩
      · exact absurd hbc.mem.1 hnot
      · exact absurd hb hnot

/-- A filter keeps the order. -/
theorem before_filter_iff {p : ε → Bool} (ha : p a = true) (hb : p b = true) :
    Before (l.filter p) a b ↔ Before l a b := by
  constructor
  · exact fun h => List.Sublist.trans h List.filter_sublist
  · intro h
    have hfilter := List.Sublist.filter p h
    rwa [List.filter_cons_of_pos ha, List.filter_cons_of_pos hb] at hfilter

/-- Of the elements with a property, one is the last. -/
theorem exists_last {P : ε → Prop} (h : ∃ a ∈ l, P a) :
    ∃ m ∈ l, P m ∧ ∀ q ∈ l, P q → q = m ∨ Before l q m := by
  induction l using List.reverseRecOn with
  | nil =>
    obtain ⟨a, ha, -⟩ := h
    exact absurd ha List.not_mem_nil
  | append_singleton l c ih =>
    by_cases hc : P c
    · refine ⟨c, by simp, hc, fun q hq _ => ?_⟩
      rcases List.mem_append.mp hq with hq | hq
      · exact Or.inr (before_concat_iff.mpr (Or.inr ⟨hq, rfl⟩))
      · exact Or.inl (by simpa using hq)
    · have hrest : ∀ {q}, q ∈ l ++ [c] → P q → q ∈ l := by
        intro q hq hPq
        rcases List.mem_append.mp hq with hq | hq
        · exact hq
        · obtain rfl : q = c := by simpa using hq
          exact absurd hPq hc
      obtain ⟨a, ha, hPa⟩ := h
      obtain ⟨m, hm, hPm, hlast⟩ := ih ⟨a, hrest ha hPa, hPa⟩
      refine ⟨m, List.mem_append_left _ hm, hPm, fun q hq hPq => ?_⟩
      exact (hlast q (hrest hq hPq) hPq).imp_right fun h => before_concat_iff.mpr (Or.inl h)

/-- **In a sorted list the smaller element comes first, and of equal ones the one that came first.**
    The sort is stable. -/
theorem before_mergeSort_iff {le : ε → ε → Bool} (htrans : ∀ a b c, le a b → le b c → le a c)
    (htotal : ∀ a b, le a b || le b a) (hl : l.Nodup) (ha : a ∈ l) (hb : b ∈ l) (hne : a ≠ b) :
    Before (l.mergeSort le) a b ↔ le a b = true ∧ (le b a = true → Before l a b) := by
  have hnodup : (l.mergeSort le).Nodup := (List.mergeSort_perm l le).nodup_iff.mpr hl
  have hsorted := List.pairwise_mergeSort htrans htotal l
  have hle : ∀ {x y}, Before (l.mergeSort le) x y → le x y = true := fun h =>
    List.rel_of_pairwise_cons (hsorted.sublist h) (by simp)
  constructor
  · intro h
    refine ⟨hle h, fun hba => ?_⟩
    rcases before_or_before ha hb hne with hab | hba'
    · exact hab
    · exact absurd (List.pair_sublist_mergeSort htrans htotal hba hba') (h.asymm hnodup)
  · intro ⟨hab, hstable⟩
    have hsame : ∀ {x}, x ∈ l → x ∈ l.mergeSort le := List.mem_mergeSort.mpr
    rcases before_or_before (hsame ha) (hsame hb) hne with h | h
    · exact h
    · exact List.pair_sublist_mergeSort htrans htotal hab (hstable (hle h))

/-! ## 2. The last write -/

theorem lastWrite_concat (init : α) (ws : List (Option α)) (w : Option α) :
    lastWrite init (ws ++ [w]) = w.getD (lastWrite init ws) := by
  induction ws generalizing init with
  | nil => rw [List.nil_append, lastWrite_cons, lastWrite_nil, lastWrite_nil]
  | cons v ws ih => rw [List.cons_append, lastWrite_cons, lastWrite_cons, ih]

/-- **A register that started otherwise holds a value exactly when something wrote it and all that
    wrote another value came before.** -/
theorem lastWrite_eq_iff {write : ε → Option α} {init v : α} (hl : l.Nodup) (hv : v ≠ init) :
    lastWrite init (l.map write) = v ↔
      ∃ r ∈ l, write r = some v ∧
        ∀ q ∈ l, (∃ v', write q = some v' ∧ v' ≠ v) → Before l q r := by
  induction l using List.reverseRecOn with
  | nil => exact ⟨fun h => absurd h.symm hv, fun ⟨r, hr, _⟩ => absurd hr List.not_mem_nil⟩
  | append_singleton l c ih =>
    obtain ⟨hnodup, -, hdisjoint⟩ := List.nodup_append.mp hl
    have hc : c ∉ l := fun hmem => hdisjoint c hmem c (by simp) rfl
    rw [List.map_append, List.map_singleton, lastWrite_concat]
    cases hwrite : write c with
    | none =>
      rw [Option.getD_none, ih hnodup]
      constructor
      · intro ⟨r, hr, hr', hq⟩
        refine ⟨r, List.mem_append_left _ hr, hr', fun q hmem hother => ?_⟩
        rcases List.mem_append.mp hmem with hmem | hmem
        · exact before_concat_iff.mpr (Or.inl (hq q hmem hother))
        · obtain rfl : q = c := by simpa using hmem
          obtain ⟨v', hv', -⟩ := hother
          rw [hwrite] at hv'
          cases hv'
      · intro ⟨r, hr, hr', hq⟩
        have hrc : r ≠ c := by
          rintro rfl
          rw [hwrite] at hr'
          cases hr'
        have hrl : r ∈ l := (List.mem_append.mp hr).resolve_right (by simpa using hrc)
        refine ⟨r, hrl, hr', fun q hmem hother => ?_⟩
        rcases before_concat_iff.mp (hq q (List.mem_append_left _ hmem) hother) with h | ⟨-, h⟩
        · exact h
        · exact absurd h hrc
    | some w =>
      rw [Option.getD_some]
      constructor
      · rintro rfl
        refine ⟨c, by simp, hwrite, fun q hmem hother => ?_⟩
        rcases List.mem_append.mp hmem with hmem | hmem
        · exact before_concat_iff.mpr (Or.inr ⟨hmem, rfl⟩)
        · obtain rfl : q = c := by simpa using hmem
          obtain ⟨v', hv', hne⟩ := hother
          exact absurd (Option.some.inj (hv'.symm.trans hwrite)) hne
      · intro ⟨r, hr, hr', hq⟩
        by_contra hne
        have hbefore := hq c (by simp) ⟨w, hwrite, hne⟩
        rcases before_concat_iff.mp hbefore with h | ⟨h, -⟩
        · exact hc h.mem.1
        · exact hc h

end Uprava.Lib
