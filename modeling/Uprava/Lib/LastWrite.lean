/-
  File:      Uprava/Lib/LastWrite.lean
  Subject:   Registers: a value that a sequence of steps overwrites or leaves, and what is read
             after them.

  A step writes a value or writes nothing. After a sequence of steps the register holds the last
  value that was written, or its first value if none was. So two sequences leave the register
  alike exactly when their last writes are alike, whatever else they do and in which order.
-/
import Mathlib.Data.List.Basic

namespace Uprava.Lib

universe u v w

variable {α : Type u} {ρ : Type v} {ε : Type w}

/-- The last value written, or `init` if there is none. -/
def lastWrite (init : α) (writes : List (Option α)) : α :=
  ((writes.filterMap id).getLast?).getD init

@[simp] theorem lastWrite_nil (init : α) : lastWrite init [] = init := rfl

/-- The first step writes, and the others follow. -/
theorem lastWrite_cons (init : α) (w : Option α) (ws : List (Option α)) :
    lastWrite init (w :: ws) = lastWrite (w.getD init) ws := by
  unfold lastWrite
  cases w with
  | none => rfl
  | some a =>
    show ((a :: ws.filterMap id).getLast?).getD init = ((ws.filterMap id).getLast?).getD a
    rw [List.getLast?_cons]
    cases (ws.filterMap id).getLast? <;> rfl

/-- **What a register holds after a sequence of steps**: `read` reads it, each step writes it as
    `write` says while `I` holds, and the steps keep `I`. -/
theorem read_foldl {step : ρ → ε → ρ} {read : ρ → α} {write : ε → Option α} (I : ρ → Prop)
    {es : List ε} (hkeep : ∀ r, ∀ e ∈ es, I r → I (step r e))
    (hwrite : ∀ r, ∀ e ∈ es, I r → read (step r e) = (write e).getD (read r)) {r : ρ} (hr : I r) :
    read (es.foldl step r) = lastWrite (read r) (es.map write) := by
  induction es generalizing r with
  | nil => rfl
  | cons e es ih =>
    have hr' : I (step r e) := hkeep r e List.mem_cons_self hr
    have hrest := ih (fun r e he => hkeep r e (List.mem_cons_of_mem _ he))
      (fun r e he => hwrite r e (List.mem_cons_of_mem _ he)) hr'
    rw [List.foldl_cons, hrest, List.map_cons, lastWrite_cons, hwrite r e List.mem_cons_self hr]

/-- Steps that leave a value alone leave it alone together. -/
theorem foldl_fixed {step : ρ → ε → ρ} {r : ρ} {es : List ε} (h : ∀ e ∈ es, step r e = r) :
    es.foldl step r = r := by
  induction es with
  | nil => rfl
  | cons e es ih =>
    rw [List.foldl_cons, h e List.mem_cons_self, ih fun e he => h e (List.mem_cons_of_mem _ he)]

end Uprava.Lib
