/-
  File:      Uprava/Node/ProcessOutput.lean
  Subject:   The lines of a provider process, as they are kept up to a number of bytes.

  What is kept is a prefix of the text of all lines, and the flag says that the text is longer
  (`appendCappedProcessLine_spec`). A line is kept without its newline where the newline is the
  first byte that does not fit; then the flag is set too.
-/
import Mathlib.Data.List.Induction

namespace Uprava.Node

/-! ## 1. One line -/

def newline : UInt8 := 10

/-- `append_capped_process_line`: what is kept, and whether it was truncated. -/
def appendCappedProcessLine (maxBytes : Nat) (kept : List UInt8 × Bool) (line : String) :
    List UInt8 × Bool :=
  let (output, truncated) := kept
  if maxBytes = 0 then (output, true)
  else
    let remaining := maxBytes - output.length
    if remaining = 0 then (output, true)
    else
      let lineBytes := line.toUTF8.data.toList
      let copied := min lineBytes.length remaining
      let output := output ++ lineBytes.take copied
      if copied < lineBytes.length then (output, true)
      else if output.length < maxBytes then (output ++ [newline], truncated)
      else (output, true)

/-! ## 2. All lines -/

/-- The lines, each with a newline behind it. -/
def processText (lines : List String) : List UInt8 :=
  lines.flatMap fun line => line.toUTF8.data.toList ++ [newline]

/-- What is kept of a text, and whether there is more of it. -/
def keptOf (maxBytes : Nat) (text : List UInt8) : List UInt8 × Bool :=
  (text.take maxBytes, decide (maxBytes < text.length))

/-- **A line is kept behind the text before it.** -/
theorem appendCappedProcessLine_spec (maxBytes : Nat) (text : List UInt8) (line : String) :
    appendCappedProcessLine maxBytes (keptOf maxBytes text) line =
      keptOf maxBytes (text ++ (line.toUTF8.data.toList ++ [newline])) := by
  generalize hbytes : line.toUTF8.data.toList = bytes
  have hlength : (text ++ (bytes ++ [newline])).length = text.length + bytes.length + 1 := by
    rw [List.length_append, List.length_append, List.length_singleton, Nat.add_assoc]
  by_cases hfull : maxBytes ≤ text.length
  · -- the limit was reached before: nothing is added, and there is more text
    have hremaining : maxBytes - (text.take maxBytes).length = 0 := by
      rw [List.length_take]
      omega
    have hmore : maxBytes < (text ++ (bytes ++ [newline])).length := by omega
    rw [keptOf, keptOf, appendCappedProcessLine, hbytes, List.take_append_of_le_length hfull,
      decide_eq_true hmore]
    by_cases hzero : maxBytes = 0
    · rw [if_pos hzero]
    · rw [if_neg hzero, if_pos hremaining]
  · have hkept : text.take maxBytes = text := List.take_of_length_le (by omega)
    have hshort : ¬ maxBytes < text.length := by omega
    have hzero : ¬ maxBytes = 0 := by omega
    have hremaining : ¬ maxBytes - text.length = 0 := by omega
    rw [keptOf, keptOf, appendCappedProcessLine, hbytes, hkept, decide_eq_false hshort]
    dsimp only
    rw [if_neg hzero, if_neg hremaining]
    by_cases hfits : bytes.length ≤ maxBytes - text.length
    · rw [Nat.min_eq_left hfits, List.take_length, if_neg (Nat.lt_irrefl _), List.length_append]
      by_cases hroom : text.length + bytes.length < maxBytes
      · have hall : (text ++ (bytes ++ [newline])).length ≤ maxBytes := by omega
        rw [if_pos hroom, List.take_of_length_le hall, decide_eq_false (by omega),
          List.append_assoc]
      · -- only the newline does not fit
        have hexact : maxBytes = (text ++ bytes).length := by
          rw [List.length_append]
          omega
        have htake : (text ++ (bytes ++ [newline])).take maxBytes = text ++ bytes := by
          rw [hexact, ← List.append_assoc, List.take_left]
        rw [if_neg hroom, htake, decide_eq_true (by omega)]
    · rw [Nat.min_eq_right (by omega), if_pos (by omega), decide_eq_true (by omega),
        List.take_append, List.take_of_length_le (by omega : text.length ≤ maxBytes),
        List.take_append_of_le_length (by omega)]

theorem processText_concat (lines : List String) (line : String) :
    processText (lines ++ [line]) = processText lines ++ (line.toUTF8.data.toList ++ [newline]) := by
  rw [processText, processText, List.flatMap_append, List.flatMap_singleton]

/-- **The lines of a process are kept as the longest prefix of their text that fits, and the flag is
    set, and stays set, exactly when the text is longer.** -/
theorem process_lines_kept (maxBytes : Nat) (lines : List String) :
    lines.foldl (appendCappedProcessLine maxBytes) ([], false) =
        keptOf maxBytes (processText lines) ∧
      ∀ more, (keptOf maxBytes (processText lines)).2 = true →
        (keptOf maxBytes (processText (lines ++ more))).2 = true := by
  constructor
  · induction lines using List.reverseRecOn with
    | nil =>
      have hnone : ¬ maxBytes < ([] : List UInt8).length := Nat.not_lt_zero _
      rw [List.foldl_nil, processText, List.flatMap_nil, keptOf, List.take_nil,
        decide_eq_false hnone]
    | append_singleton lines line ih =>
      rw [List.foldl_append, ih, List.foldl_cons, List.foldl_nil, appendCappedProcessLine_spec,
        processText_concat]
  · intro more hset
    have hlonger := of_decide_eq_true hset
    refine decide_eq_true ?_
    rw [processText, List.flatMap_append, List.length_append]
    exact Nat.lt_add_right _ hlonger

example : ["ab", "c"].foldl (appendCappedProcessLine 3) ([], false) = ([97, 98, 10], true) := by
  decide

end Uprava.Node
