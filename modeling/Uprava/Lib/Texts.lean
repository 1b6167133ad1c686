/-
  File:      Uprava/Lib/Texts.lean
  Subject:   Texts made of numbers, and of pieces with a separator between them.
-/

namespace Uprava.Lib

theorem toString_injective {n m : Nat} (h : toString n = toString m) : n = m := by
  have hdigits : Nat.toDigits 10 n = Nat.toDigits 10 m := by
    rw [← Nat.toList_repr, ← Nat.toList_repr]
    exact congrArg String.toList h
  have hvalue := congrArg (Nat.ofDigitChars 10 · 0) hdigits
  simpa using hvalue

theorem intercalate_concat (sep : String) {pieces : List String} (h : pieces ≠ []) (x : String) :
    sep.intercalate (pieces ++ [x]) = sep.intercalate pieces ++ sep ++ x := by
  rw [String.intercalate_append_of_ne_nil h (List.cons_ne_nil x []), String.intercalate_singleton]

theorem intercalate_pair (sep x y : String) : sep.intercalate [x, y] = x ++ sep ++ y := by
  rw [String.intercalate_cons_cons, String.intercalate_singleton]

/-- A text of pieces with something in the first of them is not empty. -/
theorem intercalate_cons_ne_empty (sep : String) {x : String} (hx : x ≠ "")
    (pieces : List String) : sep.intercalate (x :: pieces) ≠ "" := by
  intro h
  have hempty : x = "" := by
    cases pieces with
    | nil => rwa [String.intercalate_singleton] at h
    | cons y pieces =>
      rw [String.intercalate_cons_cons, String.append_assoc] at h
      exact (String.append_eq_empty_iff.mp h).1
  exact hx hempty

/-- What stands around a text makes it another one. -/
theorem append_ne_self {x y : String} (h : y ≠ "") : x ++ y ≠ x := by
  intro he
  have hlength := congrArg String.length he
  rw [String.length_append] at hlength
  exact h (String.length_eq_zero_iff.mp (by omega))

theorem self_ne_append {x y : String} (h : x ≠ "") : x ++ y ≠ y := by
  intro he
  have hlength := congrArg String.length he
  rw [String.length_append] at hlength
  exact h (String.length_eq_zero_iff.mp (by omega))

end Uprava.Lib
