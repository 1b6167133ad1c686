/-
  File:      Uprava/Lib/Cursor.lean
  Subject:   A reader that keeps the largest key it has passed on and drops what is not above it.

  `advance key last xs` is what such a reader passes on of `xs` when `last` is its cursor, and
  `peak key last xs` is its cursor afterwards. What it drops is the interest of both: everything
  that arrives after something larger (`advance_eq_nil`).
-/
import Mathlib.Order.MinMax
import Mathlib.Data.List.Basic

namespace Uprava.Lib

universe u v

variable {α : Type u} {κ : Type v} [LinearOrder κ] (key : α → κ)

/-- The largest of `last` and the keys of the list. -/
def peak (last : κ) (xs : List α) : κ := xs.foldl (fun m x => max m (key x)) last

/-- What a reader passes on: each element whose key is above all before it, and above `last`. -/
def advance : κ → List α → List α
  | _, [] => []
  | last, x :: xs => if last < key x then x :: advance (key x) xs else advance last xs

/-! ## 1. The peak -/

@[simp] theorem peak_nil (last : κ) : peak key last [] = last := rfl

@[simp] theorem peak_cons (last : κ) (x : α) (xs : List α) :
    peak key last (x :: xs) = peak key (max last (key x)) xs := rfl

theorem peak_append (last : κ) (xs ys : List α) :
    peak key last (xs ++ ys) = peak key (peak key last xs) ys := List.foldl_append ..

theorem le_peak (last : κ) (xs : List α) : last ≤ peak key last xs := by
  induction xs generalizing last with
  | nil => exact le_refl last
  | cons x xs ih => exact le_trans (le_max_left last (key x)) (ih _)

theorem key_le_peak {last : κ} {xs : List α} {x : α} (h : x ∈ xs) : key x ≤ peak key last xs := by
  induction xs generalizing last with
  | nil => cases h
  | cons y xs ih =>
    rcases List.mem_cons.mp h with rfl | h
    · exact le_trans (le_max_right last (key x)) (le_peak key _ xs)
    · exact ih h

/-- The peak is the start, or the key of an element. -/
theorem peak_cases (last : κ) (xs : List α) :
    peak key last xs = last ∨ ∃ x ∈ xs, key x = peak key last xs := by
  induction xs generalizing last with
  | nil => exact Or.inl rfl
  | cons x xs ih =>
    rcases ih (max last (key x)) with h | ⟨y, hy, h⟩
    · rcases max_choice last (key x) with hmax | hmax
      · exact Or.inl (h.trans hmax)
      · exact Or.inr ⟨x, List.mem_cons_self, (h.trans hmax).symm⟩
    · exact Or.inr ⟨y, List.mem_cons_of_mem x hy, h⟩

/-- Keys that are not above the start leave the peak. -/
theorem peak_eq_of_le {last : κ} {xs : List α} (h : ∀ x ∈ xs, key x ≤ last) :
    peak key last xs = last := by
  rcases peak_cases key last xs with hp | ⟨x, hx, hp⟩
  · exact hp
  · exact le_antisymm (hp ▸ h x hx) (le_peak key last xs)

/-! ## 2. What is passed on -/

theorem advance_cons (last : κ) (x : α) (xs : List α) :
    advance key last (x :: xs) =
      if last < key x then x :: advance key (key x) xs else advance key last xs := rfl

/-- **A reader goes on from its peak.** -/
theorem advance_append (last : κ) (xs ys : List α) :
    advance key last (xs ++ ys) = advance key last xs ++ advance key (peak key last xs) ys := by
  induction xs generalizing last with
  | nil => rfl
  | cons x xs ih =>
    rw [List.cons_append, advance_cons, advance_cons, peak_cons]
    by_cases hx : last < key x
    · rw [if_pos hx, if_pos hx, ih, max_eq_right (le_of_lt hx), List.cons_append]
    · rw [if_neg hx, if_neg hx, ih, max_eq_left (not_lt.mp hx)]

/-- What is not above the cursor is dropped. -/
theorem advance_eq_nil {last : κ} {xs : List α} (h : ∀ x ∈ xs, key x ≤ last) :
    advance key last xs = [] := by
  induction xs with
  | nil => rfl
  | cons x xs ih =>
    rw [advance_cons, if_neg (not_lt.mpr (h x List.mem_cons_self))]
    exact ih fun y hy => h y (List.mem_cons_of_mem x hy)

/-- What is dropped does not move the cursor. -/
theorem peak_advance (last : κ) (xs : List α) :
    peak key last (advance key last xs) = peak key last xs := by
  induction xs generalizing last with
  | nil => rfl
  | cons x xs ih =>
    rw [advance_cons, peak_cons]
    by_cases hx : last < key x
    · rw [if_pos hx, peak_cons, max_eq_right (le_of_lt hx), ih]
    · rw [if_neg hx, max_eq_left (not_lt.mp hx), ih]

end Uprava.Lib
