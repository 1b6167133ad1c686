/-
  File:      Uprava/Lib/Statements.lean
  Subject:   Statements that run one after the other, each on what the ones before it stored, and
             stop at the first that fails. What was stored before stays.

  * `runAll_inv`: what each statement keeps, the sequence keeps, whether it fails or not.
  * `runAll_cutAt_eq_ok`: a sequence that is cut succeeds when it does without the cut, and the cut
    is behind its end.
  * `runStages_spec`: of stages that do not touch what the others read, those that are done are the
    ones before the first that cannot be done.
-/
import Mathlib.Data.List.Nodup

namespace Uprava.Lib

universe u v w

variable {σ : Type u} {ε : Type v} {ι : Type w}

/-! ## 1. Statements -/

/-- Runs statements up to the first that fails. What is stored, and the error. -/
def runAll : List (σ → Except ε σ) → σ → σ × Except ε Unit
  | [], s => (s, .ok ())
  | statement :: rest, s =>
    match statement s with
    | .ok t => runAll rest t
    | .error e => (s, .error e)

section Statements

variable {statement : σ → Except ε σ} {statements rest : List (σ → Except ε σ)} {s t : σ} {e : ε}

@[simp] theorem runAll_nil : runAll ([] : List (σ → Except ε σ)) s = (s, .ok ()) := rfl

theorem runAll_cons_ok (h : statement s = .ok t) : runAll (statement :: rest) s = runAll rest t := by
  rw [runAll, h]

theorem runAll_cons_error (h : statement s = .error e) :
    runAll (statement :: rest) s = (s, .error e) := by
  rw [runAll, h]

/-- A sequence succeeds when its first statement does, and the rest after it. -/
theorem runAll_cons_eq_ok : (runAll (statement :: rest) s).2 = .ok () ↔
    ∃ t, statement s = .ok t ∧ (runAll rest t).2 = .ok () := by
  cases h : statement s with
  | ok t => simp [runAll_cons_ok h]
  | error e => simp [runAll_cons_error h]

/-- A part that fails is the whole. -/
theorem runAll_append : runAll (statements ++ rest) s =
    match runAll statements s with
    | (t, .ok ()) => runAll rest t
    | (t, .error e) => (t, .error e) := by
  induction statements generalizing s with
  | nil => rfl
  | cons statement statements ih =>
    cases h : statement s with
    | ok t => rw [List.cons_append, runAll_cons_ok h, runAll_cons_ok h, ih]
    | error e => rw [List.cons_append, runAll_cons_error h, runAll_cons_error h]

theorem runAll_append_eq_ok : (runAll (statements ++ rest) s).2 = .ok () ↔
    ∃ t, runAll statements s = (t, .ok ()) ∧ (runAll rest t).2 = .ok () := by
  rw [runAll_append]
  obtain ⟨t, outcome⟩ := runAll statements s
  cases outcome with
  | ok x => simp
  | error e => simp

/-- **What each statement keeps, the sequence keeps**, whether it fails or not. -/
theorem runAll_inv {P : σ → Prop}
    (hkeeps : ∀ statement ∈ statements, ∀ s t, P s → statement s = .ok t → P t) (hs : P s) :
    P (runAll statements s).1 := by
  induction statements generalizing s with
  | nil => exact hs
  | cons statement rest ih =>
    cases h : statement s with
    | ok t =>
      rw [runAll_cons_ok h]
      exact ih (fun f hf => hkeeps f (List.mem_cons_of_mem _ hf))
        (hkeeps statement (List.mem_cons_self ..) s t hs h)
    | error e =>
      rw [runAll_cons_error h]
      exact hs

end Statements

/-! ## 2. A failure from outside -/

/-- The statement at a position fails, if there is one. -/
def cutAt (e : ε) (position : Option Nat) (statements : List (σ → Except ε σ)) :
    List (σ → Except ε σ) :=
  match position with
  | none => statements
  | some n => if n < statements.length then statements.take n ++ [fun _ => .error e] else statements

section Cut

variable {statements : List (σ → Except ε σ)} {position : Option Nat} {s : σ} {e : ε}

/-- A cut comes after a part of the sequence. -/
theorem cutAt_cases (e : ε) (position : Option Nat) (statements : List (σ → Except ε σ)) :
    cutAt e position statements = statements ∧ (∀ n, position = some n → statements.length ≤ n) ∨
      ∃ n, position = some n ∧ n < statements.length ∧
        cutAt e position statements = statements.take n ++ [fun _ => .error e] := by
  cases position with
  | none => exact Or.inl ⟨rfl, fun n hn => (by cases hn)⟩
  | some n =>
    by_cases hn : n < statements.length
    · exact Or.inr ⟨n, rfl, hn, by rw [cutAt, if_pos hn]⟩
    · refine Or.inl ⟨by rw [cutAt, if_neg hn], fun m hm => ?_⟩
      obtain rfl := Option.some.inj hm
      exact Nat.le_of_not_lt hn

theorem runAll_cutAt_eq_ok : (runAll (cutAt e position statements) s).2 = .ok () ↔
    (runAll statements s).2 = .ok () ∧ ∀ n, position = some n → statements.length ≤ n := by
  rcases cutAt_cases e position statements with ⟨hsame, hbehind⟩ | ⟨n, hn, hlt, hcut⟩
  · rw [hsame]
    exact ⟨fun h => ⟨h, hbehind⟩, fun h => h.1⟩
  · refine iff_of_false ?_ fun ⟨_, hbehind⟩ => absurd (hbehind n hn) (Nat.not_le_of_lt hlt)
    rw [hcut, runAll_append_eq_ok]
    intro ⟨t, _, hlast⟩
    cases hlast

theorem runAll_cutAt_inv {P : σ → Prop}
    (hkeeps : ∀ statement ∈ statements, ∀ s t, P s → statement s = .ok t → P t) (hs : P s) :
    P (runAll (cutAt e position statements) s).1 := by
  refine runAll_inv (fun statement hmem s t hP hrun => ?_) hs
  rcases cutAt_cases e position statements with ⟨hsame, -⟩ | ⟨n, -, -, hcut⟩
  · exact hkeeps statement (hsame ▸ hmem) s t hP hrun
  · rw [hcut] at hmem
    rcases List.mem_append.mp hmem with hmem | hmem
    · exact hkeeps statement (List.mem_of_mem_take hmem) s t hP hrun
    · obtain rfl := List.mem_singleton.mp hmem
      cases hrun

end Cut

/-! ## 3. Stages -/

/-- Runs stages up to the first that fails: the ones that are done, what is stored, and the
    error. -/
def runStages (stage : ι → σ → σ × Except ε Unit) : List ι → σ → List ι × σ × Except ε Unit
  | [], s => ([], s, .ok ())
  | i :: rest, s =>
    match stage i s with
    | (t, .ok ()) =>
      let (done, u, outcome) := runStages stage rest t
      (i :: done, u, outcome)
    | (t, .error e) => ([], t, .error e)

section Stages

variable {stage : ι → σ → σ × Except ε Unit} {stages : List ι} {s : σ}

theorem runStages_inv {P : σ → Prop} (hkeeps : ∀ i ∈ stages, ∀ s, P s → P (stage i s).1)
    (hs : P s) : P (runStages stage stages s).2.1 := by
  induction stages generalizing s with
  | nil => exact hs
  | cons i rest ih =>
    have ht := hkeeps i (List.mem_cons_self ..) s hs
    rw [runStages]
    split
    · rename_i t hrun
      rw [hrun] at ht
      exact ih (fun j hj => hkeeps j (List.mem_cons_of_mem _ hj)) ht
    · rename_i t e hrun
      rw [hrun] at ht
      exact ht

/-- **Of stages that each succeed exactly when it can be done, whatever the others stored, those
    before the first that cannot are done**, and all of them exactly when there is no error. -/
theorem runStages_spec {View : ι → σ → Prop} {Can : ι → Prop} (hnodup : stages.Nodup)
    (hcan : ∀ i s, View i s → ((stage i s).2 = .ok () ↔ Can i))
    (hviews : ∀ i j s, j ≠ i → View j s → View j (stage i s).1)
    (hs : ∀ i ∈ stages, View i s) :
    ∃ left, stages = (runStages stage stages s).1 ++ left ∧
      (∀ i ∈ (runStages stage stages s).1, Can i) ∧
      ((runStages stage stages s).2.2 = .ok () ∧ left = [] ∨
        (∃ e, (runStages stage stages s).2.2 = .error e) ∧ ∃ i rest, left = i :: rest ∧ ¬ Can i) := by
  induction stages generalizing s with
  | nil => exact ⟨[], rfl, fun i hi => (by cases hi), Or.inl ⟨rfl, rfl⟩⟩
  | cons i rest ih =>
    obtain ⟨hnot, hnodup⟩ := List.nodup_cons.mp hnodup
    have hi := hcan i s (hs i (List.mem_cons_self ..))
    have hrest : ∀ j ∈ rest, View j (stage i s).1 := fun j hj =>
      hviews i j s (fun hji => hnot (hji ▸ hj)) (hs j (List.mem_cons_of_mem _ hj))
    rw [runStages]
    split
    · rename_i t hrun
      rw [hrun] at hi hrest
      obtain ⟨left, hleft, hall, hend⟩ := ih hnodup hrest
      refine ⟨left, congrArg (i :: ·) hleft, ?_, hend⟩
      exact List.forall_mem_cons.mpr ⟨hi.mp rfl, hall⟩
    · rename_i t e hrun
      rw [hrun] at hi
      refine ⟨i :: rest, rfl, fun j hj => (by cases hj), Or.inr ⟨⟨e, rfl⟩, i, rest, rfl, ?_⟩⟩
      intro hdone
      cases hi.mpr hdone

end Stages

end Uprava.Lib
