/-
  File:      Uprava/Lib/Traced.lean
  Subject:   Programs that can fail, with the accesses they make on their way.

  What a program touches before it fails stays in its list. `only_bind` is the one rule for what a
  program touches: the accesses of its first part, and those of the rest for what the first part
  returned.
-/
namespace Uprava.Lib

/-- What a program touched, in order, and how it ended. -/
structure Traced (τ ε α : Type) where
  accesses : List τ
  result : Except ε α

namespace Traced

variable {τ ε α β : Type}

/-- A part that touches nothing. -/
def lift (result : Except ε α) : Traced τ ε α := ⟨[], result⟩

/-- An access whose answer is looked at, be it an error or not. -/
def call {γ : Type} (accesses : List τ) (answer : γ) : Traced τ ε γ := ⟨accesses, .ok answer⟩

def andThen (x : Traced τ ε α) (f : α → Traced τ ε β) : Traced τ ε β :=
  match x.result with
  | .error e => ⟨x.accesses, .error e⟩
  | .ok a => ⟨x.accesses ++ (f a).accesses, (f a).result⟩

instance : Monad (Traced τ ε) where
  pure a := ⟨[], .ok a⟩
  bind := andThen

instance : MonadLift (Except ε) (Traced τ ε) := ⟨lift⟩

/-! ## 1. Results -/

@[simp] theorem result_pure (a : α) : (pure a : Traced τ ε α).result = .ok a := rfl

@[simp] theorem result_lift (r : Except ε α) : (lift r : Traced τ ε α).result = r := rfl

@[simp] theorem liftM_eq (r : Except ε α) : (liftM r : Traced τ ε α) = lift r := rfl

@[simp] theorem result_bind (x : Traced τ ε α) (f : α → Traced τ ε β) :
    (x >>= f).result = (x.result >>= fun a => (f a).result) := by
  change (andThen x f).result = _
  unfold andThen
  cases x.result <;> rfl

theorem result_call_bind {γ : Type} (accesses : List τ) (answer : γ) (f : γ → Traced τ ε β) :
    (call accesses answer >>= f).result = (f answer).result := rfl

/-! ## 2. Accesses -/

/-- Every access of a program satisfies `P`. -/
def Only (P : τ → Prop) (x : Traced τ ε α) : Prop := ∀ t ∈ x.accesses, P t

variable {P : τ → Prop}

theorem Only.imp {Q : τ → Prop} {x : Traced τ ε α} (h : Only P x) (himp : ∀ t, P t → Q t) :
    Only Q x :=
  fun t ht => himp t (h t ht)

theorem mem_call_bind {γ : Type} {accesses : List τ} {answer : γ} {f : γ → Traced τ ε β} {t : τ} :
    t ∈ (call accesses answer >>= f).accesses ↔ t ∈ accesses ∨ t ∈ (f answer).accesses :=
  List.mem_append

@[simp] theorem only_pure (a : α) : Only P (pure a : Traced τ ε α) := by
  intro t ht
  cases ht

@[simp] theorem only_lift (r : Except ε α) : Only P (lift r : Traced τ ε α) := by
  intro t ht
  cases ht

theorem only_bind {x : Traced τ ε α} {f : α → Traced τ ε β} :
    Only P (x >>= f) ↔ Only P x ∧ ∀ a, x.result = .ok a → Only P (f a) := by
  change Only P (andThen x f) ↔ _
  unfold andThen Only
  cases x.result with
  | error e => simp
  | ok a => simp only [List.mem_append, or_imp, forall_and, Except.ok.injEq, forall_eq']

theorem only_call {γ : Type} {accesses : List τ} {answer : γ} :
    Only P (call accesses answer : Traced τ ε γ) ↔ ∀ t ∈ accesses, P t :=
  Iff.rfl

theorem only_lift_bind {r : Except ε α} {f : α → Traced τ ε β} :
    Only P (lift r >>= f) ↔ ∀ a, r = .ok a → Only P (f a) := by
  rw [only_bind]
  exact and_iff_right (only_lift r)

end Traced

end Uprava.Lib
