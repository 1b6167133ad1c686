/-
  File:      Uprava/Lib/Utf8Lossy.lean
  Subject:   The lossy decoding of bytes as UTF-8, and what becomes of it where the bytes are cut.

  Each longest beginning of a character that is not completed gives one replacement character, and
  so does each byte that begins none. The decoder goes byte by byte and keeps what it has of a
  character (`Partial`).

    lossy_append          where no character is cut, the parts decode to the parts of the whole
    length_lossy_lt       where one is, they decode to more characters than the whole
    flatten_map_lossy     so the parts of a list decode to the whole exactly where none is cut
-/
import Mathlib.Data.List.Basic

namespace Uprava.Lib

/-! ## 1. The decoder -/

/-- A character that has begun: its bits so far, how many bytes are to come after the next one,
    and what the next one may be. -/
structure Partial where
  value : Nat
  need : Nat
  low : Nat
  high : Nat
  low_ge : 0x80 ≤ low
  high_le : high ≤ 0xBF
  deriving DecidableEq

/-- `U+FFFD`. -/
def replacement : Char := '\uFFFD'

/-- The character that a byte begins. -/
def lead (b : Nat) : Option Partial :=
  if 0xC2 ≤ b ∧ b ≤ 0xDF then some ⟨b % 0x20, 0, 0x80, 0xBF, by decide, by decide⟩
  else if b = 0xE0 then some ⟨b % 0x10, 1, 0xA0, 0xBF, by decide, by decide⟩
  else if b = 0xED then some ⟨b % 0x10, 1, 0x80, 0x9F, by decide, by decide⟩
  else if 0xE1 ≤ b ∧ b ≤ 0xEF then some ⟨b % 0x10, 1, 0x80, 0xBF, by decide, by decide⟩
  else if b = 0xF0 then some ⟨b % 0x08, 2, 0x90, 0xBF, by decide, by decide⟩
  else if 0xF1 ≤ b ∧ b ≤ 0xF3 then some ⟨b % 0x08, 2, 0x80, 0xBF, by decide, by decide⟩
  else if b = 0xF4 then some ⟨b % 0x08, 2, 0x80, 0x8F, by decide, by decide⟩
  else none

/-- A byte where no character has begun. -/
def firstByte (b : Nat) : List Char × Option Partial :=
  if b < 0x80 then ([Char.ofNat b], none)
  else match lead b with
    | some p => ([], some p)
    | none => ([replacement], none)

def Partial.accepts (p : Partial) (b : Nat) : Bool := decide (p.low ≤ b ∧ b ≤ p.high)

/-- The next byte of a character. -/
def Partial.push (p : Partial) (b : Nat) : List Char × Option Partial :=
  let value := p.value * 0x40 + b % 0x40
  if p.need = 0 then ([Char.ofNat value], none)
  else ([], some ⟨value, p.need - 1, 0x80, 0xBF, by decide, by decide⟩)

def decodeByte : Option Partial → Nat → List Char × Option Partial
  | none, b => firstByte b
  | some p, b =>
    if p.accepts b then p.push b
    else (replacement :: (firstByte b).1, (firstByte b).2)

/-- The characters that are complete, and what has begun of the next. -/
def decode : Option Partial → List UInt8 → List Char × Option Partial
  | s, [] => ([], s)
  | s, b :: bytes =>
    let (chars, s) := decodeByte s b.toNat
    let (rest, s) := decode s bytes
    (chars ++ rest, s)

/-- What the end of the bytes makes of a character that has begun. -/
def endOf : Option Partial → List Char
  | none => []
  | some _ => [replacement]

def decodeAll (s : Option Partial) (bytes : List UInt8) : List Char :=
  (decode s bytes).1 ++ endOf (decode s bytes).2

/-- `String::from_utf8_lossy`. -/
def lossy (bytes : List UInt8) : List Char := decodeAll none bytes

/-! ## 2. Cutting the bytes -/

@[simp] theorem decodeAll_nil (s : Option Partial) : decodeAll s [] = endOf s := rfl

theorem decodeAll_cons (s : Option Partial) (b : UInt8) (bytes : List UInt8) :
    decodeAll s (b :: bytes) =
      (decodeByte s b.toNat).1 ++ decodeAll (decodeByte s b.toNat).2 bytes := by
  unfold decodeAll
  rw [decode]
  exact List.append_assoc _ _ _

theorem decode_append (s : Option Partial) (xs ys : List UInt8) :
    decode s (xs ++ ys) =
      ((decode s xs).1 ++ (decode (decode s xs).2 ys).1, (decode (decode s xs).2 ys).2) := by
  induction xs generalizing s with
  | nil => rfl
  | cons b xs ih =>
    rw [List.cons_append, decode, decode]
    dsimp only
    rw [ih, List.append_assoc]

theorem decodeAll_append (s : Option Partial) (xs ys : List UInt8) :
    decodeAll s (xs ++ ys) = (decode s xs).1 ++ decodeAll (decode s xs).2 ys := by
  unfold decodeAll
  rw [decode_append]
  exact List.append_assoc _ _ _

/-- A character that has begun goes on with the next byte. -/
def goesOn (s : Option Partial) (ys : List UInt8) : Bool :=
  match s, ys with
  | some p, b :: _ => p.accepts b.toNat
  | _, _ => false

/-- The bytes are cut inside a character. -/
def cutsChar (xs ys : List UInt8) : Bool := goesOn (decode none xs).2 ys

theorem decodeAll_of_not_goesOn {s : Option Partial} {ys : List UInt8}
    (h : goesOn s ys = false) : decodeAll s ys = endOf s ++ lossy ys := by
  match s, ys with
  | none, ys => rfl
  | some p, [] => rfl
  | some p, b :: ys =>
    change p.accepts b.toNat = false at h
    unfold lossy
    rw [decodeAll_cons, decodeAll_cons]
    simp only [decodeByte, h, Bool.false_eq_true, if_false]
    rfl

/-- **Where no character is cut, the parts decode to the parts of the whole.** -/
theorem lossy_append {xs ys : List UInt8} (h : cutsChar xs ys = false) :
    lossy (xs ++ ys) = lossy xs ++ lossy ys := by
  unfold lossy
  rw [decodeAll_append, decodeAll_of_not_goesOn h, ← List.append_assoc]
  rfl

/-- A byte inside a character begins none. -/
theorem firstByte_of_accepts {p : Partial} {b : Nat} (h : p.accepts b = true) :
    firstByte b = ([replacement], none) := by
  unfold Partial.accepts at h
  rw [decide_eq_true_eq] at h
  have hlow := p.low_ge
  have hhigh := p.high_le
  have hlead : lead b = none := by
    unfold lead
    rw [if_neg (by omega), if_neg (by omega), if_neg (by omega), if_neg (by omega),
      if_neg (by omega), if_neg (by omega), if_neg (by omega)]
  unfold firstByte
  rw [if_neg (by omega), hlead]

/-- A character that has begun costs one character at most. -/
theorem length_decodeAll_le (s : Option Partial) (ys : List UInt8) :
    (decodeAll s ys).length ≤ (endOf s).length + (lossy ys).length ∧
      (goesOn s ys = true → (decodeAll s ys).length < (endOf s).length + (lossy ys).length) := by
  induction ys generalizing s with
  | nil => cases s <;> simp [lossy, goesOn, endOf]
  | cons b ys ih =>
    cases hgo : goesOn s (b :: ys) with
    | false =>
      rw [decodeAll_of_not_goesOn hgo, List.length_append]
      exact ⟨Nat.le_refl _, nofun⟩
    | true =>
      match s with
      | some p =>
        change p.accepts b.toNat = true at hgo
        have hlossy : lossy (b :: ys) = replacement :: lossy ys := by
          unfold lossy
          rw [decodeAll_cons]
          simp only [decodeByte, firstByte_of_accepts hgo]
          rfl
        have hpush : (decodeAll (some p) (b :: ys)).length ≤ 1 + (lossy ys).length := by
          rw [decodeAll_cons]
          simp only [decodeByte, hgo, if_true, Partial.push]
          by_cases hneed : p.need = 0
          · rw [if_pos hneed, List.length_append]
            exact Nat.le_refl _
          · rw [if_neg hneed, List.nil_append]
            exact (ih _).1
        have hlength : (lossy (b :: ys)).length = (lossy ys).length + 1 := by
          rw [hlossy, List.length_cons]
        have hone : (endOf (some p)).length = 1 := rfl
        exact ⟨by omega, fun _ => by omega⟩

theorem length_lossy_le (xs ys : List UInt8) :
    (lossy (xs ++ ys)).length ≤ (lossy xs).length + (lossy ys).length := by
  have h := (length_decodeAll_le (decode none xs).2 ys).1
  have hxs : (lossy xs).length = (decode none xs).1.length + (endOf (decode none xs).2).length :=
    List.length_append
  have hall : (lossy (xs ++ ys)).length =
      (decode none xs).1.length + (decodeAll (decode none xs).2 ys).length := by
    unfold lossy
    rw [decodeAll_append, List.length_append]
  omega

/-- **Where a character is cut, the parts decode to more characters than the whole.** -/
theorem length_lossy_lt {xs ys : List UInt8} (h : cutsChar xs ys = true) :
    (lossy (xs ++ ys)).length < (lossy xs).length + (lossy ys).length := by
  have h := (length_decodeAll_le (decode none xs).2 ys).2 h
  have hxs : (lossy xs).length = (decode none xs).1.length + (endOf (decode none xs).2).length :=
    List.length_append
  have hall : (lossy (xs ++ ys)).length =
      (decode none xs).1.length + (decodeAll (decode none xs).2 ys).length := by
    unfold lossy
    rw [decodeAll_append, List.length_append]
  omega

/-! ## 3. Many parts -/

/-- No part ends inside a character that the bytes after it go on with. -/
def CutsNone : List (List UInt8) → Prop
  | [] => True
  | xs :: rest => cutsChar xs rest.flatten = false ∧ CutsNone rest

theorem length_lossy_flatten_le (parts : List (List UInt8)) :
    (lossy parts.flatten).length ≤ (parts.map lossy).flatten.length := by
  induction parts with
  | nil => exact Nat.le_refl _
  | cons xs parts ih =>
    have hcut := length_lossy_le xs parts.flatten
    rw [List.flatten_cons, List.map_cons, List.flatten_cons, List.length_append]
    omega

/-- **The parts decode to the whole exactly where no character is cut.** -/
theorem flatten_map_lossy (parts : List (List UInt8)) :
    (parts.map lossy).flatten = lossy parts.flatten ↔ CutsNone parts := by
  induction parts with
  | nil => exact ⟨fun _ => trivial, fun _ => rfl⟩
  | cons xs parts ih =>
    rw [List.map_cons, List.flatten_cons, List.flatten_cons]
    constructor
    · intro heq
      have hlengths := congrArg List.length heq
      rw [List.length_append] at hlengths
      have hrest := length_lossy_flatten_le parts
      have hcut : cutsChar xs parts.flatten = false := by
        rw [← Bool.not_eq_true]
        intro hcut
        have hlt := length_lossy_lt hcut
        omega
      rw [lossy_append hcut] at heq
      exact ⟨hcut, ih.mp (List.append_cancel_left heq)⟩
    · intro ⟨hcut, hparts⟩
      rw [lossy_append hcut, ih.mpr hparts]

end Uprava.Lib
