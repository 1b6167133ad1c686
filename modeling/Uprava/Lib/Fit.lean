/-
  File:      Uprava/Lib/Fit.lean
  Subject:   The longest prefix of a list whose weights fit a budget.
-/
import Mathlib.Algebra.GroupWithZero.Nat
import Mathlib.Data.List.Basic

namespace Uprava.Lib

variable {α : Type} (w : α → Nat)

def weight (xs : List α) : Nat := (xs.map w).sum

/-- As many of the first elements as fit. -/
def fit : Nat → List α → List α
  | _, [] => []
  | n, x :: xs => if w x ≤ n then x :: fit (n - w x) xs else []

/-- A prefix that fits, and none that fits is heavier. -/
def LongestPrefix (n : Nat) (xs p : List α) : Prop :=
  p <+: xs ∧ weight w p ≤ n ∧ ∀ q, q <+: xs → weight w q ≤ n → weight w q ≤ weight w p

@[simp] theorem weight_nil : weight w [] = 0 := rfl

@[simp] theorem weight_cons (x : α) (xs : List α) : weight w (x :: xs) = w x + weight w xs := by
  unfold weight
  rw [List.map_cons, List.sum_cons]

theorem weight_append (xs ys : List α) : weight w (xs ++ ys) = weight w xs + weight w ys := by
  unfold weight
  rw [List.map_append, List.sum_append]

theorem fit_isPrefix (n : Nat) (xs : List α) : fit w n xs <+: xs := by
  induction xs generalizing n with
  | nil => exact List.nil_prefix
  | cons x xs ih =>
    unfold fit
    split
    · exact (List.prefix_cons_inj x).mpr (ih _)
    · exact List.nil_prefix

theorem weight_fit_le (n : Nat) (xs : List α) : weight w (fit w n xs) ≤ n := by
  induction xs generalizing n with
  | nil => exact Nat.zero_le n
  | cons x xs ih =>
    unfold fit
    split
    · have := ih (n - w x)
      rw [weight_cons]
      omega
    · exact Nat.zero_le n

theorem fit_of_le {n : Nat} {xs : List α} (h : weight w xs ≤ n) : fit w n xs = xs := by
  induction xs generalizing n with
  | nil => rfl
  | cons x xs ih =>
    rw [weight_cons] at h
    rw [fit, if_pos (by omega), ih (by omega)]

/-- What is left of the budget goes to what comes next. -/
theorem fit_append_of_le {n : Nat} {xs : List α} (ys : List α) (h : weight w xs ≤ n) :
    fit w n (xs ++ ys) = xs ++ fit w (n - weight w xs) ys := by
  induction xs generalizing n with
  | nil => rfl
  | cons x xs ih =>
    rw [weight_cons] at h
    rw [List.cons_append, fit, if_pos (by omega), ih (by omega), weight_cons, Nat.sub_sub,
      List.cons_append]

/-- Where the budget ends inside a list, what comes next gets nothing. -/
theorem fit_append_of_lt {n : Nat} {xs : List α} (ys : List α) (h : n < weight w xs) :
    fit w n (xs ++ ys) = fit w n xs := by
  induction xs generalizing n with
  | nil => exact absurd h (Nat.not_lt_zero n)
  | cons x xs ih =>
    rw [weight_cons] at h
    rw [List.cons_append, fit, fit]
    split
    · rw [ih (by omega)]
    · rfl

theorem prefix_fit {n : Nat} {p xs : List α} (hp : p <+: xs) (h : weight w p ≤ n) :
    p <+: fit w n xs := by
  obtain ⟨ys, rfl⟩ := hp
  rw [fit_append_of_le w ys h]
  exact List.prefix_append _ _

theorem fit_eq_nil_iff {n : Nat} {xs : List α} :
    fit w n xs = [] ↔ ∀ x, xs.head? = some x → n < w x := by
  cases xs with
  | nil => exact ⟨fun _ => nofun, fun _ => rfl⟩
  | cons x xs =>
    rw [fit, List.head?_cons]
    split
    · rename_i hx
      refine ⟨nofun, fun h => ?_⟩
      have := h x rfl
      omega
    · rename_i hx
      refine ⟨fun _ y hy => ?_, fun _ => rfl⟩
      cases hy
      omega

theorem weight_mono {p xs : List α} (hp : p <+: xs) : weight w p ≤ weight w xs := by
  obtain ⟨ys, rfl⟩ := hp
  rw [weight_append]
  exact Nat.le_add_right _ _

section Positive

variable {w} (hw : ∀ x, 0 < w x)
include hw

theorem eq_nil_of_weight {xs : List α} (h : weight w xs = 0) : xs = [] := by
  cases xs with
  | nil => rfl
  | cons x xs =>
    have := hw x
    rw [weight_cons] at h
    omega

@[simp] theorem fit_zero (xs : List α) : fit w 0 xs = [] :=
  eq_nil_of_weight hw (Nat.le_zero.mp (weight_fit_le w 0 xs))

/-- Where a prefix that fits ends is itself a place to cut. -/
theorem fit_weight_fit (n : Nat) (xs : List α) : fit w (weight w (fit w n xs)) xs = fit w n xs := by
  obtain ⟨ys, hys⟩ := fit_isPrefix w n xs
  have h := fit_append_of_le w ys (Nat.le_refl (weight w (fit w n xs)))
  rw [hys, Nat.sub_self, fit_zero hw, List.append_nil] at h
  exact h

/-- **The longest prefix that fits is `fit`.** -/
theorem longestPrefix_iff {n : Nat} {xs p : List α} :
    LongestPrefix w n xs p ↔ p = fit w n xs := by
  constructor
  · intro ⟨hp, hn, hmost⟩
    obtain ⟨rest, hrest⟩ := prefix_fit w hp hn
    have hle := hmost _ (fit_isPrefix w n xs) (weight_fit_le w n xs)
    rw [← hrest, weight_append] at hle
    have hnil : rest = [] := eq_nil_of_weight hw (by omega)
    rw [← hrest, hnil, List.append_nil]
  · rintro rfl
    exact ⟨fit_isPrefix w n xs, weight_fit_le w n xs,
      fun q hq hqn => weight_mono w (prefix_fit w hq hqn)⟩

end Positive

end Uprava.Lib
