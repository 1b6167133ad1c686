/-
  File:      Uprava/Lib/NextLeast.lean
  Subject:   Going through a set of integers from one element to the next.
-/
import Mathlib

namespace Uprava.Lib

/-- The least element of the set behind a place. -/
def NextLeast (S : Set Int) (a t : Int) : Prop := IsLeast (S ∩ Set.Ioi a) t

/-- `n` steps of a partial function. -/
def steps (next : Int → Option Int) : Nat → Int → Option Int
  | 0, a => some a
  | n + 1, a => (next a).bind (steps next n)

variable {S : Set Int} {next : Int → Option Int}

section Forward

variable (hforward : ∀ t u, next t = some u → t < u)
include hforward

theorem steps_le {n : Nat} {a o : Int} (h : steps next n a = some o) : a + n ≤ o := by
  induction n generalizing a with
  | zero =>
    have : a = o := Option.some.inj h
    omega
  | succ n ih =>
    obtain ⟨u, hu, hrest⟩ := Option.bind_eq_some_iff.mp h
    have := hforward a u hu
    have := ih hrest
    omega

/-- **Where each step goes to the least element behind it, each element is reached, and by one
    number of steps only.** -/
theorem reached_once {a o : Int} (ho : o ∈ S) (hao : a < o)
    (hnext : ∀ t, t = a ∨ (t ∈ S ∧ a < t ∧ t < o) → ∃ u, next t = some u ∧ NextLeast S t u) :
    ∃ n, steps next n a = some o ∧ ∀ m, steps next m a = some o → m = n := by
  induction hk : (o - a).toNat using Nat.strong_induction_on generalizing a with
  | h k ih =>
    obtain ⟨u, hu, ⟨huS, hau⟩, hleast⟩ := hnext a (Or.inl rfl)
    have hau : a < u := hau
    have huo : u ≤ o := hleast ⟨ho, hao⟩
    -- the rest of the way begins at `u`
    have hrest : ∃ n, steps next n u = some o ∧ ∀ m, steps next m u = some o → m = n := by
      rcases Int.lt_or_eq_of_le huo with hlt | rfl
      · refine ih _ (by omega) hlt (fun t ht => hnext t (Or.inr ?_)) rfl
        rcases ht with rfl | ⟨htS, hut, hto⟩
        · exact ⟨huS, hau, hlt⟩
        · exact ⟨htS, Int.lt_trans hau hut, hto⟩
      · refine ⟨0, rfl, fun m hm => ?_⟩
        have := steps_le hforward hm
        omega
    obtain ⟨n, hn, honce⟩ := hrest
    refine ⟨n + 1, ?_, fun m hm => ?_⟩
    · rw [steps, hu]
      exact hn
    · cases m with
      | zero =>
        have : a = o := Option.some.inj hm
        omega
      | succ m =>
        rw [steps, hu] at hm
        rw [honce m hm]

end Forward

end Uprava.Lib
