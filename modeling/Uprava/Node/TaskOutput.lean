/-
  File:      Uprava/Node/TaskOutput.lean
  Subject:   The output of a command in a task's sandbox: the events of the command's stream, and
             the text that is kept of each of its two outputs.

  Each text is cut on its own: it is appended as far as what is left of the limit reaches
  (`appendCapped_eq`). So what is kept is the longest prefix that fits only if nothing that comes
  after a cut fits into the bytes that the cut left free; and the flag is set by any text that comes
  when the limit is reached, also by an empty one (`taskOutput_iff`).
-/
import Mathlib.Algebra.Ring.Int.Defs
import Mathlib.Data.List.Induction
import Uprava.Lib.Fit
import Uprava.Lib.Json

namespace Uprava.Node

open Uprava.Lib (JsonValue LongestPrefix fit weight)

/-! ## 1. The events of a command -/

/-- The largest output that is kept, in bytes. -/
def taskOutputBytes : Nat := 64 * 1024

/-- `str::len`, of a text as its characters. -/
def byteLen (value : List Char) : Nat := weight Char.utf8Size value

/-- `str::char_indices`, from a byte on: where each character begins. -/
def charIndices : Nat → List Char → List Nat
  | _, [] => []
  | index, c :: cs => index :: charIndices (index + c.utf8Size) cs

/-- The start of a character that is the last at or before a byte. -/
def boundary (value : List Char) (remaining : Nat) : Nat :=
  (((charIndices 0 value).takeWhile fun index => decide (index ≤ remaining)).getLast?).getD 0

/-- `&value[..index]`, at the start of a character. -/
def sliceTo (value : List Char) (index : Nat) : List Char := fit Char.utf8Size index value

/-- What is kept of an output, and whether it was truncated. -/
def appendCapped (max : Nat) (target : List Char × Bool) (value : List Char) : List Char × Bool :=
  if max ≤ byteLen target.1 then (target.1, true)
  else
    let remaining := max - byteLen target.1
    if byteLen value ≤ remaining then (target.1 ++ value, target.2)
    else (target.1 ++ sliceTo value (boundary value remaining), true)

structure ExecdOutcome where
  commandId : Option (List Char) := none
  exitCode : Option Int := none
  stdout : List Char := []
  stderr : List Char := []
  stdoutTruncated : Bool := false
  stderrTruncated : Bool := false
  cancelled : Bool := false
  streamError : Option String := none
  deriving DecidableEq

def eventType (value : JsonValue) : String := ((value.get "type").bind JsonValue.asStr).getD ""

def eventText (value : JsonValue) : List Char :=
  (((value.get "text").bind JsonValue.asStr).getD "").toList

/-- `i32::try_from`. -/
def i32? (code : Int) : Option Int := if -2 ^ 31 ≤ code ∧ code < 2 ^ 31 then some code else none

def eventExitCode (value : JsonValue) : Option Int :=
  ((((value.get "exit_code").or (value.get "exitCode")).or (value.get "code")).bind
    JsonValue.asInt).bind i32?

/-- The second half of `parse_execd_frame`: what an event does. -/
def applyExecdEvent (outcome : ExecdOutcome) (value : JsonValue) : ExecdOutcome :=
  let text := eventText value
  match eventType value with
  | "init" => if text = [] then outcome else { outcome with commandId := some text }
  | "stdout" =>
    let (stdout, truncated) :=
      appendCapped taskOutputBytes (outcome.stdout, outcome.stdoutTruncated) text
    { outcome with stdout := stdout, stdoutTruncated := truncated }
  | "stderr" | "error" =>
    let (stderr, truncated) :=
      appendCapped taskOutputBytes (outcome.stderr, outcome.stderrTruncated) text
    { outcome with stderr := stderr, stderrTruncated := truncated }
  | "execution_complete" | "status" =>
    { outcome with exitCode := (eventExitCode value).or outcome.exitCode }
  | _ => outcome

def isStdout (value : JsonValue) : Bool := eventType value = "stdout"

def isStderr (value : JsonValue) : Bool := eventType value = "stderr" || eventType value = "error"

def stdoutTexts (events : List JsonValue) : List (List Char) :=
  (events.filter isStdout).map eventText

def stderrTexts (events : List JsonValue) : List (List Char) :=
  (events.filter isStderr).map eventText

/-! ## 2. One text -/

theorem byteLen_append (s t : List Char) : byteLen (s ++ t) = byteLen s + byteLen t :=
  Lib.weight_append Char.utf8Size s t

theorem byteLen_eq_zero {s : List Char} (h : byteLen s = 0) : s = [] :=
  Lib.eq_nil_of_weight Char.utf8Size_pos h

theorem boundary_from {value : List Char} {index remaining : Nat} (hi : index ≤ remaining)
    (h : remaining < index + byteLen value) :
    ((charIndices index value).takeWhile fun i => decide (i ≤ remaining)).getLast? =
      some (index + byteLen (fit Char.utf8Size (remaining - index) value)) := by
  induction value generalizing index with
  | nil => exact absurd h (Nat.not_lt.mpr hi)
  | cons c cs ih =>
    have hlen : byteLen (c :: cs) = c.utf8Size + byteLen cs := Lib.weight_cons _ c cs
    rw [charIndices, List.takeWhile_cons, if_pos (decide_eq_true hi), List.getLast?_cons, fit]
    by_cases hc : index + c.utf8Size ≤ remaining
    · -- the character fits, so the last start is one behind it
      have hcons := Lib.weight_cons Char.utf8Size c
        (fit Char.utf8Size (remaining - index - c.utf8Size) cs)
      rw [ih hc (by omega), if_pos (by omega), Option.getD_some, byteLen, byteLen, hcons,
        Nat.sub_sub, Nat.add_assoc]
    · rw [if_neg (by omega)]
      cases cs with
      | nil => rfl
      | cons d ds =>
        rw [charIndices, List.takeWhile_cons, if_neg (by simpa using hc)]
        rfl

/-- **A text that is too long is cut behind the last character that fits.** -/
theorem sliceTo_boundary {value : List Char} {remaining : Nat} (h : remaining < byteLen value) :
    sliceTo value (boundary value remaining) = fit Char.utf8Size remaining value := by
  have hlast := boundary_from (Nat.zero_le remaining) (by rwa [Nat.zero_add])
  rw [Nat.sub_zero, Nat.zero_add] at hlast
  rw [sliceTo, boundary, hlast, Option.getD_some]
  exact Lib.fit_weight_fit Char.utf8Size_pos remaining value

/-- **A text adds what fits of it, and sets the flag if the limit is reached or not all fits.** -/
theorem appendCapped_eq (max : Nat) (target : List Char × Bool) (value : List Char) :
    appendCapped max target value =
      (target.1 ++ fit Char.utf8Size (max - byteLen target.1) value,
        target.2 || decide (max ≤ byteLen target.1 ∨
          max < byteLen target.1 + byteLen value)) := by
  unfold appendCapped
  by_cases hfull : max ≤ byteLen target.1
  · rw [if_pos hfull, Nat.sub_eq_zero_of_le hfull, Lib.fit_zero Char.utf8Size_pos,
      List.append_nil, decide_eq_true (Or.inl hfull), Bool.or_true]
  · rw [if_neg hfull]
    dsimp only
    by_cases hvalue : byteLen value ≤ max - byteLen target.1
    · rw [if_pos hvalue, Lib.fit_of_le Char.utf8Size hvalue,
        decide_eq_false (by omega), Bool.or_false]
    · rw [if_neg hvalue, sliceTo_boundary (by omega), decide_eq_true (by omega), Bool.or_true]

/-! ## 3. All the texts -/

def appendAll (max : Nat) (target : List Char × Bool) (texts : List (List Char)) :
    List Char × Bool :=
  texts.foldl (appendCapped max) target

/-- What is kept of the texts is the longest prefix of them that fits, and the flag says whether
    something is missing. -/
def Captured (max : Nat) (texts : List (List Char)) (kept : List Char × Bool) : Prop :=
  LongestPrefix Char.utf8Size max texts.flatten kept.1 ∧
    (kept.2 = true ↔ kept.1 ≠ texts.flatten)

/-- If the texts fill the limit exactly then the last one is not empty. -/
def NothingAfterFull (max : Nat) (texts : List (List Char)) : Prop :=
  byteLen texts.flatten = max → texts.getLast? ≠ some []

/-- Where a text goes past the limit, none that comes later begins with a character that fits into
    the bytes that are free. -/
def NothingIntoGap (max : Nat) (texts : List (List Char)) : Prop :=
  ∀ before text rest, texts = before ++ text :: rest →
    byteLen before.flatten ≤ max → max < byteLen (before.flatten ++ text) →
      ∀ later ∈ rest, ∀ c, later.head? = some c →
        max - byteLen (fit Char.utf8Size max texts.flatten) < c.utf8Size

theorem appendAll_append (max : Nat) (target : List Char × Bool) (xs ys : List (List Char)) :
    appendAll max target (xs ++ ys) = appendAll max (appendAll max target xs) ys :=
  List.foldl_append

theorem appendAll_cons (max : Nat) (target : List Char × Bool) (x : List Char)
    (xs : List (List Char)) :
    appendAll max target (x :: xs) = appendAll max (appendCapped max target x) xs := rfl

/-- **Texts that all fit are kept, and the flag is set by an empty one that comes when the limit is
    reached.** -/
theorem appendAll_within {max : Nat} {texts : List (List Char)}
    (h : byteLen texts.flatten ≤ max) :
    (appendAll max ([], false) texts).1 = texts.flatten ∧
      ((appendAll max ([], false) texts).2 = true ↔
        byteLen texts.flatten = max ∧ texts.getLast? = some []) := by
  induction texts using List.reverseRecOn with
  | nil => exact ⟨rfl, nofun, fun h => absurd h.2 (by simp)⟩
  | append_singleton texts text ih =>
    rw [List.flatten_append, List.flatten_singleton, byteLen_append] at h
    obtain ⟨hkept, hflag⟩ := ih (by omega)
    have hstep := appendCapped_eq max (appendAll max ([], false) texts) text
    rw [hkept] at hstep
    have hall : appendAll max ([], false) (texts ++ [text]) =
        appendCapped max (appendAll max ([], false) texts) text :=
      appendAll_append max _ texts [text]
    rw [hall, hstep, List.flatten_append, List.flatten_singleton]
    refine ⟨?_, ?_⟩
    · dsimp only
      rw [Lib.fit_of_le Char.utf8Size (show byteLen text ≤ _ by omega)]
    · rw [List.getLast?_concat, Option.some_inj, Bool.or_eq_true, hflag, decide_eq_true_iff,
        byteLen_append]
      constructor
      · intro hset
        have hfull : byteLen texts.flatten = max := by
          rcases hset with ⟨hfull, _⟩ | hfull
          · exact hfull
          · omega
        exact ⟨by omega, byteLen_eq_zero (by omega)⟩
      · rintro ⟨hfull, rfl⟩
        have hzero : byteLen [] = 0 := rfl
        exact Or.inr (Or.inl (by omega))

/-- The flag is never taken back. -/
theorem appendAll_flag {max : Nat} {target : List Char × Bool} (h : target.2 = true)
    (texts : List (List Char)) : (appendAll max target texts).2 = true := by
  induction texts generalizing target with
  | nil => exact h
  | cons text texts ih =>
    rw [appendAll_cons]
    exact ih (by rw [appendCapped_eq, h, Bool.true_or])

/-- What is kept is never taken back. -/
theorem appendAll_isPrefix (max : Nat) (target : List Char × Bool) (texts : List (List Char)) :
    target.1 <+: (appendAll max target texts).1 := by
  induction texts generalizing target with
  | nil => exact List.prefix_rfl
  | cons text texts ih =>
    rw [appendAll_cons]
    refine List.IsPrefix.trans ?_ (ih _)
    rw [appendCapped_eq]
    exact List.prefix_append _ _

/-- **Nothing more is kept exactly if no later text begins with a character that still fits.** -/
theorem appendAll_same_iff {max : Nat} {target : List Char × Bool} {texts : List (List Char)} :
    (appendAll max target texts).1 = target.1 ↔
      ∀ later ∈ texts, ∀ c, later.head? = some c → max - byteLen target.1 < c.utf8Size := by
  induction texts generalizing target with
  | nil => exact ⟨fun _ => nofun, fun _ => rfl⟩
  | cons text texts ih =>
    have hstep : (appendCapped max target text).1 =
        target.1 ++ fit Char.utf8Size (max - byteLen target.1) text := by rw [appendCapped_eq]
    rw [appendAll_cons, List.forall_mem_cons, ← Lib.fit_eq_nil_iff]
    by_cases hnil : fit Char.utf8Size (max - byteLen target.1) text = []
    · have hsame : (appendCapped max target text).1 = target.1 := by
        rw [hstep, hnil, List.append_nil]
      have ih' := @ih (appendCapped max target text)
      rw [hsame] at ih'
      rw [ih', and_iff_right hnil]
    · refine ⟨fun h => absurd ?_ hnil, fun h => absurd h.1 hnil⟩
      have hlong := (appendAll_isPrefix max (appendCapped max target text) texts).length_le
      rw [h, hstep, List.length_append] at hlong
      exact List.length_eq_zero_iff.mp (by omega)

/-- Texts that do not all fit have one that goes past the limit. -/
theorem exists_crossing {max : Nat} {texts : List (List Char)} (h : max < byteLen texts.flatten) :
    ∃ before text rest, texts = before ++ text :: rest ∧ byteLen before.flatten ≤ max ∧
      max < byteLen (before.flatten ++ text) := by
  induction texts using List.reverseRecOn with
  | nil => exact absurd h (Nat.not_lt_zero max)
  | append_singleton texts text ih =>
    by_cases hbefore : byteLen texts.flatten ≤ max
    · refine ⟨texts, text, [], rfl, hbefore, ?_⟩
      rwa [List.flatten_append, List.flatten_singleton] at h
    · obtain ⟨before, t, rest, rfl, hle, hlt⟩ := ih (by omega)
      exact ⟨before, t, rest ++ [text], by simp, hle, hlt⟩

/-- At the text that goes past the limit the longest prefix is complete. -/
theorem appendAll_crossing {max : Nat} {before rest : List (List Char)} {text : List Char}
    (hle : byteLen before.flatten ≤ max)
    (hlt : max < byteLen (before.flatten ++ text)) :
    appendAll max ([], false) (before ++ text :: rest) =
      appendAll max (fit Char.utf8Size max (before ++ text :: rest).flatten, true) rest := by
  obtain ⟨hkept, -⟩ := appendAll_within hle
  have hwhole : (before ++ text :: rest).flatten = (before.flatten ++ text) ++ rest.flatten := by
    rw [List.flatten_append, List.flatten_cons, List.append_assoc]
  rw [appendAll_append, appendAll_cons, appendCapped_eq, hkept, hwhole,
    Lib.fit_append_of_lt Char.utf8Size _ hlt, Lib.fit_append_of_le Char.utf8Size _ hle]
  rw [byteLen_append] at hlt
  rw [decide_eq_true (Or.inr hlt), Bool.or_true]
  rfl

/-- **What is kept of an output.** -/
theorem captured_iff (max : Nat) (texts : List (List Char)) :
    Captured max texts (appendAll max ([], false) texts) ↔
      NothingAfterFull max texts ∧ NothingIntoGap max texts := by
  unfold Captured
  rw [Lib.longestPrefix_iff Char.utf8Size_pos]
  by_cases htotal : byteLen texts.flatten ≤ max
  · obtain ⟨hkept, hflag⟩ := appendAll_within htotal
    have hgap : NothingIntoGap max texts := by
      intro before text rest hsplit hle hlt
      rw [hsplit, List.flatten_append, List.flatten_cons, ← List.append_assoc,
        byteLen_append] at htotal
      omega
    rw [hkept, hflag, Lib.fit_of_le Char.utf8Size htotal, and_iff_right rfl, and_iff_left hgap]
    unfold NothingAfterFull
    tauto
  · have hfull : NothingAfterFull max texts := fun h => absurd (Nat.le_of_eq h) htotal
    have hcut : fit Char.utf8Size max texts.flatten ≠ texts.flatten := by
      intro h
      have hle := Lib.weight_fit_le Char.utf8Size max texts.flatten
      rw [h] at hle
      exact htotal hle
    rw [and_iff_right hfull]
    constructor
    · rintro ⟨hkept, -⟩ before text rest rfl hle hlt
      rw [appendAll_crossing hle hlt] at hkept
      exact appendAll_same_iff.mp hkept
    · intro hgap
      obtain ⟨before, text, rest, rfl, hle, hlt⟩ := exists_crossing (Nat.lt_of_not_le htotal)
      have hrun := @appendAll_crossing max before rest text hle hlt
      have hkept : (appendAll max
          (fit Char.utf8Size max (before ++ text :: rest).flatten, true) rest).1 =
            fit Char.utf8Size max (before ++ text :: rest).flatten :=
        appendAll_same_iff.mpr (hgap before text rest rfl hle hlt)
      rw [hrun, hkept]
      exact ⟨rfl, fun _ => hcut, fun _ => appendAll_flag rfl rest⟩

/-! ## 4. Both outputs of a command -/

/-- What the events of a command leave. -/
def execdOutcome (events : List JsonValue) : ExecdOutcome := events.foldl applyExecdEvent {}

def ExecdOutcome.out (outcome : ExecdOutcome) : List Char × Bool :=
  (outcome.stdout, outcome.stdoutTruncated)

def ExecdOutcome.err (outcome : ExecdOutcome) : List Char × Bool :=
  (outcome.stderr, outcome.stderrTruncated)

theorem applyExecdEvent_out (outcome : ExecdOutcome) (value : JsonValue) :
    (applyExecdEvent outcome value).out =
      if isStdout value then appendCapped taskOutputBytes outcome.out (eventText value)
      else outcome.out := by
  unfold applyExecdEvent isStdout
  split <;> rename_i h <;> simp only [h] <;> try rfl
  · split <;> rfl
  · rename_i hout _ _ _
    rw [decide_eq_false hout]
    rfl

theorem applyExecdEvent_err (outcome : ExecdOutcome) (value : JsonValue) :
    (applyExecdEvent outcome value).err =
      if isStderr value then appendCapped taskOutputBytes outcome.err (eventText value)
      else outcome.err := by
  unfold applyExecdEvent isStderr
  split <;> rename_i h <;> simp only [h] <;> try rfl
  · split <;> rfl
  · rename_i herr herror _
    rw [decide_eq_false herr, decide_eq_false herror]
    rfl

/-- An output to which only the texts of some events are appended holds what these leave. -/
theorem foldl_output {output : ExecdOutcome → List Char × Bool} {kind : JsonValue → Bool}
    (hstep : ∀ outcome value, output (applyExecdEvent outcome value) =
      if kind value then appendCapped taskOutputBytes (output outcome) (eventText value)
      else output outcome)
    (outcome : ExecdOutcome) (events : List JsonValue) :
    output (events.foldl applyExecdEvent outcome) =
      appendAll taskOutputBytes (output outcome) ((events.filter kind).map eventText) := by
  induction events generalizing outcome with
  | nil => rfl
  | cons value events ih =>
    rw [List.foldl_cons, ih, hstep]
    by_cases hkind : kind value = true
    · rw [if_pos hkind, List.filter_cons_of_pos hkind, List.map_cons, appendAll_cons]
    · rw [if_neg hkind, List.filter_cons_of_neg hkind]

/-- The outputs of a command are the longest prefixes, and the flags say when they are proper. -/
def OutputKept (events : List JsonValue) : Prop :=
  Captured taskOutputBytes (stdoutTexts events) (execdOutcome events).out ∧
    Captured taskOutputBytes (stderrTexts events) (execdOutcome events).err

/-- The texts of one output leave nothing behind the limit. -/
def StopsAtLimit (texts : List (List Char)) : Prop :=
  NothingAfterFull taskOutputBytes texts ∧ NothingIntoGap taskOutputBytes texts

/-- **The kept output of a command is right exactly if in each of its outputs no text comes that is
    empty when the limit is just reached, and none that begins with a character that fits into
    the bytes a cut has left.** -/
theorem taskOutput_iff (events : List JsonValue) :
    OutputKept events ↔
      StopsAtLimit (stdoutTexts events) ∧ StopsAtLimit (stderrTexts events) := by
  have hout : (execdOutcome events).out = appendAll taskOutputBytes ([], false) _ :=
    foldl_output applyExecdEvent_out {} events
  have herr : (execdOutcome events).err = appendAll taskOutputBytes ([], false) _ :=
    foldl_output applyExecdEvent_err {} events
  unfold OutputKept StopsAtLimit
  rw [hout, herr]
  exact and_congr (captured_iff _ _) (captured_iff _ _)

def stdoutEvent (text : List Char) : JsonValue :=
  JsonValue.ofFields [("type", .string "stdout"), ("text", .string (String.ofList text))]

/-- A text whose last character goes past the limit by a byte, and then a text of one byte. -/
def gapEvents : List JsonValue :=
  [stdoutEvent (List.replicate 65535 'a' ++ ['é']), stdoutEvent ['b']]

theorem stdoutTexts_gapEvents :
    stdoutTexts gapEvents = [List.replicate 65535 'a' ++ ['é'], ['b']] := by
  have htype (text : List Char) : isStdout (stdoutEvent text) = true := by
    simp [isStdout, eventType, stdoutEvent, JsonValue.get_ofFields, List.lookup_cons, JsonValue.asStr]
  have htext (text : List Char) : eventText (stdoutEvent text) = text := by
    simp [eventText, stdoutEvent, JsonValue.get_ofFields, JsonValue.asStr]
  unfold stdoutTexts gapEvents
  rw [List.filter_cons_of_pos (htype _), List.filter_cons_of_pos (htype _), List.filter_nil,
    List.map_cons, List.map_cons, List.map_nil, htext, htext]

theorem not_nothingIntoGap {before : List Char} (h : byteLen before = 65535) :
    ¬ NothingIntoGap taskOutputBytes [before ++ ['é'], ['b']] := by
  intro hgap
  have hcut : byteLen (before ++ ['é']) = 65537 := by
    rw [byteLen_append, h]
    rfl
  have hfit : fit Char.utf8Size taskOutputBytes [before ++ ['é'], ['b']].flatten = before := by
    have hover : taskOutputBytes < weight Char.utf8Size (before ++ ['é']) := by
      show _ < byteLen _
      rw [hcut]
      decide
    have hunder : weight Char.utf8Size before ≤ taskOutputBytes := by
      show byteLen _ ≤ _
      rw [h]
      decide
    rw [List.flatten_cons, Lib.fit_append_of_lt Char.utf8Size _ hover,
      Lib.fit_append_of_le Char.utf8Size _ hunder]
    have hnil : fit Char.utf8Size (taskOutputBytes - byteLen before) ['é'] = [] := by
      rw [h]
      decide
    exact (congrArg (before ++ ·) hnil).trans (List.append_nil before)
  have hover : taskOutputBytes < byteLen ([].flatten ++ (before ++ ['é'])) := by
    rw [List.flatten_nil, List.nil_append, hcut]
    decide
  have hsmall := hgap [] _ _ rfl (Nat.zero_le _) hover ['b'] (List.mem_singleton.mpr rfl) 'b' rfl
  rw [hfit, h] at hsmall
  exact absurd hsmall (by decide)

/-- **The text that comes after the cut is kept, and what was cut away before it is not.** -/
theorem taskOutput_gap : ¬ OutputKept gapEvents := by
  rintro ⟨hout, -⟩
  have hlen : byteLen (List.replicate 65535 'a') = 65535 := by
    unfold byteLen weight
    rw [List.map_replicate, List.sum_replicate_nat]
    decide
  have hkept : (execdOutcome gapEvents).out =
      appendAll taskOutputBytes ([], false) (stdoutTexts gapEvents) :=
    foldl_output applyExecdEvent_out {} gapEvents
  rw [hkept, stdoutTexts_gapEvents, captured_iff] at hout
  exact not_nothingIntoGap hlen hout.2

end Uprava.Node
