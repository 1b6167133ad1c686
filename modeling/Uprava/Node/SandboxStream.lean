/-
  File:      Uprava/Node/SandboxStream.lean
  Subject:   The stream of a command in a task's sandbox: how its frames are found in what the
             network brings, and the limit on what is held back.

  Where a frame ends does not depend on the chunks (`sseFraming`). The limit does: it is applied to
  what is held back together with the next chunk, before the frames of that chunk are taken out. So
  a stream that is longer than the limit is given up when it comes in one chunk, and it does not
  matter only if a frame before which nothing is known of the command is longer than the limit
  itself (`sandboxStream_iff`).
-/
import Uprava.Lib.Framing
import Uprava.Lib.Utf8Lossy
import Uprava.Node.GitStatus
import Uprava.Node.TaskOutput

namespace Uprava.Node

open Uprava.Lib (JsonValue Frame Framing lossy)

/-! ## 1. The frames -/

/-- `windows(pattern.len()).position(|window| window == pattern)` -/
def position (pattern : List UInt8) : List UInt8 → Option Nat
  | [] => none
  | b :: bs =>
    if pattern.isPrefixOf (b :: bs) then some 0 else (position pattern bs).map (· + 1)

def lfDelimiter : List UInt8 := [10, 10]

def crlfDelimiter : List UInt8 := [13, 10, 13, 10]

def nextSseFrame (buffer : List UInt8) : Option (Nat × Nat) :=
  match position lfDelimiter buffer, position crlfDelimiter buffer with
  | some left, some right => if left ≤ right then some (left, 2) else some (right, 4)
  | some left, none => some (left, 2)
  | none, some right => some (right, 4)
  | none, none => none

/-- `str::strip_prefix` -/
def lineAfter (pre line : List Char) : Option (List Char) :=
  if pre.isPrefixOf line then some (line.drop pre.length) else none

def trimStart (value : List Char) : List Char := value.dropWhile isWhiteSpace

def trimText (value : List Char) : List Char := (trimStart (trimStart value).reverse).reverse

/-- The first half of `parse_execd_frame`: the text that is read as JSON. -/
def framePayload (frame : List UInt8) : List Char :=
  let text := lossy frame
  let data := (textLines [] text).filterMap fun line =>
    (lineAfter "data:".toList line).map trimStart
  if data = [] then trimText text else trimText (List.intercalate ['\n'] data)

section Stream

-- `serde_json::from_str`.
variable (fromStr : List Char → Option JsonValue)

/-- The event of a frame. -/
def frameEvent (frame : List UInt8) : Option JsonValue :=
  if framePayload frame = [] then none else fromStr (framePayload frame)

def parseExecdFrame (outcome : ExecdOutcome) (frame : List UInt8) : ExecdOutcome :=
  match frameEvent fromStr frame with
  | none => outcome
  | some value => applyExecdEvent outcome value

end Stream

theorem position_isPrefix {pattern b : List UInt8} {i : Nat} (h : position pattern b = some i) :
    pattern <+: b.drop i := by
  induction b generalizing i with
  | nil => cases h
  | cons x xs ih =>
    unfold position at h
    split at h
    · rename_i hp
      cases h
      exact List.isPrefixOf_iff_prefix.mp hp
    · obtain ⟨j, hj, rfl⟩ := Option.map_eq_some_iff.mp h
      exact ih hj

section Position

variable {pattern b : List UInt8} {i : Nat}

theorem position_le (hp : pattern ≠ []) (h : position pattern b = some i) :
    i + pattern.length ≤ b.length := by
  have hlen := (position_isPrefix h).length_le
  have hpos := List.length_pos_of_ne_nil hp
  rw [List.length_drop] at hlen
  omega

/-- A pattern that stands at the start of a longer list and not of this one does not fit. -/
theorem length_lt_of_prefix {c : List UInt8} (h : pattern <+: b ++ c) (hb : ¬ pattern <+: b) :
    b.length < pattern.length := by
  rcases Nat.lt_or_ge b.length pattern.length with hlt | hge
  · exact hlt
  · exact absurd (List.prefix_of_prefix_length_le h (List.prefix_append b c) hge) hb

theorem position_append (c : List UInt8) (h : position pattern b = some i) :
    position pattern (b ++ c) = some i := by
  induction b generalizing i with
  | nil => cases h
  | cons x xs ih =>
    rw [List.cons_append, position, ← List.cons_append]
    unfold position at h
    split at h
    · rename_i hp
      have hp' := (List.isPrefixOf_iff_prefix.mp hp).trans (List.prefix_append (x :: xs) c)
      rw [if_pos (List.isPrefixOf_iff_prefix.mpr hp')]
      exact h
    · rename_i hp
      obtain ⟨j, hj, rfl⟩ := Option.map_eq_some_iff.mp h
      have hnot : ¬ pattern.isPrefixOf (x :: xs ++ c) = true := by
        intro hp'
        have hlt := length_lt_of_prefix (List.isPrefixOf_iff_prefix.mp hp')
          (fun h => hp (List.isPrefixOf_iff_prefix.mpr h))
        have hle := position_le (List.ne_nil_of_length_pos (by omega)) hj
        rw [List.length_cons] at hlt
        omega
      rw [if_neg hnot, ih hj]
      rfl

/-- A pattern that more bytes complete ends behind what was there. -/
theorem position_late {c : List UInt8} (hp : pattern ≠ []) (h : position pattern b = none)
    (hc : position pattern (b ++ c) = some i) : b.length < i + pattern.length := by
  induction b generalizing i with
  | nil =>
    have := List.length_pos_of_ne_nil hp
    rw [List.length_nil]
    omega
  | cons x xs ih =>
    rw [List.cons_append, position, ← List.cons_append] at hc
    unfold position at h
    split at h
    · cases h
    · rename_i hnot
      split at hc
      · rename_i hpre
        have hlt := length_lt_of_prefix (List.isPrefixOf_iff_prefix.mp hpre)
          (fun h => hnot (List.isPrefixOf_iff_prefix.mpr h))
        omega
      · obtain ⟨j, hj, rfl⟩ := Option.map_eq_some_iff.mp hc
        have := ih (Option.map_eq_none_iff.mp h) hj
        rw [List.length_cons]
        omega

theorem position_getElem? (h : position pattern b = some i) {j : Nat} (hj : j < pattern.length) :
    b[i + j]? = pattern[j]? := by
  obtain ⟨t, ht⟩ := position_isPrefix h
  rw [← List.getElem?_drop, ← ht, List.getElem?_append_left hj]

end Position

/-! ## 2. The framing -/

theorem lfDelimiter_ne : lfDelimiter ≠ [] := by decide

theorem crlfDelimiter_ne : crlfDelimiter ≠ [] := by decide

theorem nextSseFrame_some {b : List UInt8} {k : Nat × Nat} (h : nextSseFrame b = some k) :
    (position lfDelimiter b = some k.1 ∧ k.2 = 2) ∨
      (position crlfDelimiter b = some k.1 ∧ k.2 = 4) := by
  unfold nextSseFrame at h
  split at h
  · rename_i left right hl hr
    split at h <;> cases h
    · exact Or.inl ⟨hl, rfl⟩
    · exact Or.inr ⟨hr, rfl⟩
  · rename_i hl hr
    cases h
    exact Or.inl ⟨hl, rfl⟩
  · rename_i hl hr
    cases h
    exact Or.inr ⟨hr, rfl⟩
  · cases h

theorem nextSseFrame_none {b : List UInt8} (h : nextSseFrame b = none) :
    position lfDelimiter b = none ∧ position crlfDelimiter b = none := by
  unfold nextSseFrame at h
  split at h
  · split at h <;> cases h
  · cases h
  · cases h
  · rename_i hl hr
    exact ⟨hl, hr⟩

theorem nextSseFrame_le {b : List UInt8} {k : Nat × Nat} (h : nextSseFrame b = some k) :
    k.1 + k.2 ≤ b.length := by
  rcases nextSseFrame_some h with ⟨hl, h2⟩ | ⟨hr, h4⟩
  · have hle := position_le lfDelimiter_ne hl
    rw [h2]
    exact hle
  · have hle := position_le crlfDelimiter_ne hr
    rw [h4]
    exact hle

theorem nextSseFrame_late {b c : List UInt8} {k : Nat × Nat} (h : nextSseFrame b = none)
    (hc : nextSseFrame (b ++ c) = some k) : b.length < k.1 + k.2 := by
  obtain ⟨hlf, hcrlf⟩ := nextSseFrame_none h
  rcases nextSseFrame_some hc with ⟨hl, h2⟩ | ⟨hr, h4⟩
  · have hlt := position_late lfDelimiter_ne hlf hl
    rw [h2]
    exact hlt
  · have hlt := position_late crlfDelimiter_ne hcrlf hr
    rw [h4]
    exact hlt

/-- **The delimiter that begins first has also ended first**, so that more bytes do not bring
    another one before it. -/
theorem nextSseFrame_append {b : List UInt8} {k : Nat × Nat} (c : List UInt8)
    (h : nextSseFrame b = some k) : nextSseFrame (b ++ c) = some k := by
  unfold nextSseFrame at h ⊢
  split at h
  · rename_i left right hl hr
    rw [position_append c hl, position_append c hr]
    exact h
  · rename_i left hl hr
    have hle := position_le lfDelimiter_ne hl
    rw [position_append c hl]
    cases hright : position crlfDelimiter (b ++ c) with
    | none => exact h
    | some right =>
      -- a CRLF CRLF that begins one byte before has CR where the LF LF has LF
      have hlt := position_late crlfDelimiter_ne hr hright
      have hlf := position_getElem? (position_append c hl) (j := 1) (by decide)
      have hcr := position_getElem? hright (j := 2) (by decide)
      have hne : right + 2 ≠ left + 1 := by
        intro heq
        rw [heq, hlf] at hcr
        exact absurd hcr (by decide)
      have h2 : lfDelimiter.length = 2 := rfl
      have h4 : crlfDelimiter.length = 4 := rfl
      dsimp only
      rw [if_pos (by omega)]
      exact h
  · rename_i right hl hr
    have hle := position_le crlfDelimiter_ne hr
    rw [position_append c hr]
    cases hleft : position lfDelimiter (b ++ c) with
    | none => exact h
    | some left =>
      have hlt := position_late lfDelimiter_ne hl hleft
      have h2 : lfDelimiter.length = 2 := rfl
      have h4 : crlfDelimiter.length = 4 := rfl
      dsimp only
      rw [if_neg (by omega)]
      exact h
  · cases h

/-- The frames of an event stream. -/
def sseFraming : Framing UInt8 where
  next := nextSseFrame
  next_pos h := by
    rcases nextSseFrame_some h with ⟨-, h2⟩ | ⟨-, h4⟩
    · rw [h2]
      decide
    · rw [h4]
      decide
  next_le := nextSseFrame_le
  next_append := nextSseFrame_append
  next_late := nextSseFrame_late

/-! ## 3. The stream -/

/-- The largest number of bytes that are held back. -/
def maxExecdFrameBufferBytes : Nat := 512 * 1024

def overflowError : String := "OpenSandbox execd frame buffer exceeded its limit"

/-- What the loop of a command waits for. -/
inductive SandboxInput where
  | chunk (bytes : List UInt8)
  | failed (error : String)
  | ended
  | timedOut
  /-- The cancellation has been signalled, and whether it asks to cancel. -/
  | cancellation (requested : Bool)
  deriving DecidableEq

structure SandboxStream where
  buffer : List UInt8 := []
  outcome : ExecdOutcome := {}
  /-- The command ids that execd was asked to cancel. -/
  deletes : List (List Char) := []
  stopped : Bool := false
  deriving DecidableEq

/-- `cancel_execd_command`, and the end of the loop. -/
def SandboxStream.cancelWith (s : SandboxStream) (outcome : ExecdOutcome) : SandboxStream :=
  { s with outcome := outcome, deletes := s.deletes ++ outcome.commandId.toList, stopped := true }

section Stream

-- `serde_json::from_str`.
variable (fromStr : List Char → Option JsonValue)

/-- `consume_execd_frames` -/
def consumeFrames (outcome : ExecdOutcome) (frames : List (Frame UInt8)) : ExecdOutcome :=
  frames.foldl (fun outcome frame => parseExecdFrame fromStr outcome frame.content) outcome

def SandboxStream.receive (s : SandboxStream) (input : SandboxInput) : SandboxStream :=
  if s.stopped then s
  else match input with
    | .timedOut => s.cancelWith { s.outcome with streamError := some "timeout" }
    | .cancellation requested =>
      if requested then s.cancelWith { s.outcome with cancelled := true } else s
    | .chunk bytes =>
      if maxExecdFrameBufferBytes < s.buffer.length + bytes.length then
        s.cancelWith { s.outcome with streamError := some overflowError }
      else
        let (frames, rest) := sseFraming.frames (s.buffer ++ bytes)
        { s with buffer := rest, outcome := consumeFrames fromStr s.outcome frames }
    | .failed error =>
      { s with outcome := { s.outcome with streamError := some error }, stopped := true }
    | .ended =>
      -- `consume_final_execd_frame`
      if s.buffer = [] then { s with stopped := true }
      else { s with buffer := [], outcome := parseExecdFrame fromStr s.outcome s.buffer,
                    stopped := true }

def SandboxStream.run (s : SandboxStream) (inputs : List SandboxInput) : SandboxStream :=
  inputs.foldl (SandboxStream.receive fromStr) s

/-- What a command ends with whose stream comes in these chunks. -/
def executeSandboxCommand (chunks : List (List UInt8)) : ExecdOutcome :=
  (SandboxStream.run fromStr {} (chunks.map .chunk ++ [.ended])).outcome

/-- What the frames of a stream leave. -/
def framesOutcome (frames : List (Frame UInt8)) : ExecdOutcome := consumeFrames fromStr {} frames

theorem applyExecdEvent_streamError (outcome : ExecdOutcome) (value : JsonValue) :
    (applyExecdEvent outcome value).streamError = outcome.streamError := by
  unfold applyExecdEvent
  split
  · dsimp only
    split <;> rfl
  all_goals rfl

theorem parseExecdFrame_streamError (outcome : ExecdOutcome) (frame : List UInt8) :
    (parseExecdFrame fromStr outcome frame).streamError = outcome.streamError := by
  unfold parseExecdFrame
  split
  · rfl
  · exact applyExecdEvent_streamError outcome _

theorem consumeFrames_streamError (outcome : ExecdOutcome) (frames : List (Frame UInt8)) :
    (consumeFrames fromStr outcome frames).streamError = outcome.streamError := by
  induction frames generalizing outcome with
  | nil => rfl
  | cons frame frames ih => exact (ih _).trans (parseExecdFrame_streamError fromStr outcome _)

theorem run_stopped {s : SandboxStream} (h : s.stopped = true) (inputs : List SandboxInput) :
    s.run fromStr inputs = s := by
  induction inputs with
  | nil => rfl
  | cons input inputs ih =>
    have hsame : s.receive fromStr input = s := if_pos h
    show (s.receive fromStr input).run fromStr inputs = s
    rw [hsame, ih]

/-- **The loop reads as the framing does**, and parses each frame as it comes out. -/
theorem run_chunks {s : SandboxStream} (h : s.stopped = false) (chunks : List (List UInt8)) :
    let reading := sseFraming.read maxExecdFrameBufferBytes s.buffer chunks
    let outcome := consumeFrames fromStr s.outcome reading.frames
    let after := s.run fromStr (chunks.map .chunk)
    after.stopped = reading.overflow ∧ after.buffer = reading.rest ∧
      after.outcome =
        if reading.overflow then { outcome with streamError := some overflowError }
        else outcome := by
  induction chunks generalizing s with
  | nil => exact ⟨h, rfl, rfl⟩
  | cons chunk chunks ih =>
    have hnot : ¬ s.stopped = true := by rw [h]; decide
    have hrun : s.run fromStr ((chunk :: chunks).map .chunk) =
      (s.receive fromStr (.chunk chunk)).run fromStr (chunks.map .chunk) := rfl
    rw [hrun]
    by_cases hlong : maxExecdFrameBufferBytes < s.buffer.length + chunk.length
    · have hrec : s.receive fromStr (.chunk chunk) =
          s.cancelWith { s.outcome with streamError := some overflowError } := by
        unfold SandboxStream.receive
        rw [if_neg hnot]
        exact if_pos hlong
      rw [Framing.read, if_pos hlong, hrec, run_stopped fromStr rfl]
      exact ⟨rfl, rfl, rfl⟩
    · have hrec : s.receive fromStr (.chunk chunk) =
          { s with
            buffer := (sseFraming.frames (s.buffer ++ chunk)).2
            outcome := consumeFrames fromStr s.outcome
              (sseFraming.frames (s.buffer ++ chunk)).1 } := by
        unfold SandboxStream.receive
        rw [if_neg hnot]
        exact if_neg hlong
      have ih' := @ih (s.receive fromStr (.chunk chunk)) (by rw [hrec]; exact h)
      rw [Framing.read, if_neg hlong]
      rw [hrec] at ih' ⊢
      dsimp only at ih' ⊢
      refine ⟨ih'.1, ih'.2.1, ?_⟩
      rw [ih'.2.2]
      unfold consumeFrames
      rw [List.foldl_append]

/-- **What a command ends with, by the reading of its stream.** -/
theorem executeSandboxCommand_eq (chunks : List (List UInt8)) :
    let reading := sseFraming.read maxExecdFrameBufferBytes [] chunks
    executeSandboxCommand fromStr chunks =
      if reading.overflow then
        { framesOutcome fromStr reading.frames with streamError := some overflowError }
      else framesOutcome fromStr (sseFraming.pieces chunks.flatten) := by
  intro reading
  obtain ⟨hstop, hbuffer, houtcome⟩ :=
    run_chunks fromStr (s := ({} : SandboxStream)) rfl chunks
  have hrun : executeSandboxCommand fromStr chunks =
      (SandboxStream.receive fromStr
        (SandboxStream.run fromStr {} (chunks.map .chunk)) .ended).outcome := by
    unfold executeSandboxCommand SandboxStream.run
    rw [List.foldl_append]
    rfl
  rw [hrun]
  cases hover : reading.overflow with
  | true =>
    unfold SandboxStream.receive
    rw [if_pos (hstop.trans hover), houtcome, if_pos hover, if_pos rfl]
    rfl
  | false =>
    have hwhole := Framing.read_complete (sseFraming.next_nil) hover
    rw [List.nil_append] at hwhole
    have hnot : ¬ (SandboxStream.run fromStr {} (chunks.map .chunk)).stopped = true := by
      rw [hstop, hover]
      decide
    rw [hover] at houtcome
    unfold SandboxStream.receive
    rw [if_neg hnot, if_neg Bool.false_ne_true]
    dsimp only
    rw [hbuffer, houtcome, if_neg Bool.false_ne_true]
    unfold framesOutcome Framing.pieces
    rw [← hwhole]
    by_cases hrest : reading.rest = []
    · rw [if_pos hrest, if_pos hrest, List.append_nil]
    · rw [if_neg hrest, if_neg hrest]
      unfold consumeFrames
      rw [List.foldl_concat]

/-! ## 4. Splits -/

/-- However the stream is split, the command ends with the same outcome. -/
def SameForAllSplits (stream : List UInt8) : Prop :=
  ∀ chunks chunks', chunks.flatten = stream → chunks'.flatten = stream →
    executeSandboxCommand fromStr chunks = executeSandboxCommand fromStr chunks'

/-- The overflow is reported only if a frame of the stream, with its delimiter, is too long. -/
def OverflowOnlyIfLong (stream : List UInt8) : Prop :=
  ∀ chunks, chunks.flatten = stream →
    (executeSandboxCommand fromStr chunks).streamError = some overflowError →
      ∃ frame ∈ sseFraming.pieces stream, maxExecdFrameBufferBytes < frame.bytes.length

/-- An event that leaves an outcome in which nothing is known yet. -/
def SaysNothing (value : JsonValue) : Prop :=
  match eventType value with
  | "init" | "stdout" | "stderr" | "error" => eventText value = []
  | "execution_complete" | "status" => eventExitCode value = none
  | _ => True

def Silent (frame : Frame UInt8) : Prop :=
  ∀ value, frameEvent fromStr frame.content = some value → SaysNothing value

/-- A frame is too long itself, and no frame before it says anything. -/
def LongAfterSilence (stream : List UInt8) : Prop :=
  ∃ before long rest, sseFraming.pieces stream = before ++ long :: rest ∧
    maxExecdFrameBufferBytes < long.bytes.length ∧ ∀ frame ∈ before, Silent fromStr frame

/-- A first text leaves an output as it is only if it is empty. -/
theorem appendCapped_first_iff (text : List Char) :
    appendCapped taskOutputBytes ([], false) text = ([], false) ↔ text = [] := by
  rw [appendCapped_eq]
  constructor
  · intro h
    obtain ⟨hkept, hflag⟩ := Prod.ext_iff.mp h
    have hall : byteLen text ≤ taskOutputBytes := by
      have hno : ¬ (taskOutputBytes ≤ byteLen [] ∨ taskOutputBytes < byteLen [] + byteLen text) :=
        of_decide_eq_false hflag
      have hzero : byteLen [] = 0 := rfl
      omega
    exact (Lib.fit_of_le Char.utf8Size hall).symm.trans hkept
  · rintro rfl
    rfl

theorem applyExecdEvent_empty_iff (value : JsonValue) :
    applyExecdEvent {} value = {} ↔ SaysNothing value := by
  have hfirst := appendCapped_first_iff (eventText value)
  have hout : ∀ kept : List Char × Bool, ({ stdout := kept.1, stdoutTruncated := kept.2 } :
      ExecdOutcome) = {} ↔ kept = ([], false) := fun kept =>
    ⟨fun h => Prod.ext (congrArg ExecdOutcome.stdout h) (congrArg ExecdOutcome.stdoutTruncated h),
      fun h => by rw [h]⟩
  have herr : ∀ kept : List Char × Bool, ({ stderr := kept.1, stderrTruncated := kept.2 } :
      ExecdOutcome) = {} ↔ kept = ([], false) := fun kept =>
    ⟨fun h => Prod.ext (congrArg ExecdOutcome.stderr h) (congrArg ExecdOutcome.stderrTruncated h),
      fun h => by rw [h]⟩
  have hcode : ∀ code : Option Int, ({ exitCode := code.or none } : ExecdOutcome) = {} ↔
      code = none := fun code => by
    rw [Option.or_none]
    exact ⟨fun h => congrArg ExecdOutcome.exitCode h, fun h => by rw [h]⟩
  unfold applyExecdEvent SaysNothing
  generalize eventType value = kind
  split
  · dsimp only
    split
    · rename_i htext
      exact iff_of_true rfl htext
    · rename_i htext
      exact iff_of_false nofun htext
  · exact (hout _).trans hfirst
  · exact (herr _).trans hfirst
  · exact (herr _).trans hfirst
  · exact hcode _
  · exact hcode _
  · next hinit hstdout hstderr herror hcomplete hstatus =>
    refine iff_of_true rfl ?_
    -- the other kinds say nothing, whichever of them it is
    first
    | trivial
    | split
      · exact absurd rfl hinit
      · exact absurd rfl hstdout
      · exact absurd rfl hstderr
      · exact absurd rfl herror
      · exact absurd rfl hcomplete
      · exact absurd rfl hstatus
      · trivial

theorem parseExecdFrame_empty_iff (frame : Frame UInt8) :
    parseExecdFrame fromStr {} frame.content = {} ↔ Silent fromStr frame := by
  unfold parseExecdFrame Silent
  cases frameEvent fromStr frame.content with
  | none => exact iff_of_true rfl nofun
  | some value =>
    exact (applyExecdEvent_empty_iff value).trans
      ⟨fun h _ hvalue => Option.some.inj hvalue ▸ h, fun h => h value rfl⟩

theorem framesOutcome_silent {frames : List (Frame UInt8)}
    (h : ∀ frame ∈ frames, Silent fromStr frame) : framesOutcome fromStr frames = {} := by
  induction frames with
  | nil => rfl
  | cons frame frames ih =>
    have hframe := (parseExecdFrame_empty_iff fromStr frame).mpr (h frame List.mem_cons_self)
    have hstep : framesOutcome fromStr (frame :: frames) =
      consumeFrames fromStr (parseExecdFrame fromStr {} frame.content) frames := rfl
    rw [hstep, hframe]
    exact ih fun f hf => h f (List.mem_cons_of_mem frame hf)

/-- Frames of which no beginning says anything are silent. -/
theorem silent_of_prefixes {frames : List (Frame UInt8)}
    (h : ∀ first, first <+: frames → framesOutcome fromStr first = {}) :
    ∀ frame ∈ frames, Silent fromStr frame := by
  intro frame hframe
  obtain ⟨before, rest, rfl⟩ := List.append_of_mem hframe
  have hbefore := h before (List.prefix_append before _)
  have hwith := h (before ++ [frame]) ⟨rest, by simp⟩
  have hstep : framesOutcome fromStr (before ++ [frame]) =
      parseExecdFrame fromStr (framesOutcome fromStr before) frame.content := List.foldl_concat ..
  rw [hstep, hbefore] at hwith
  exact (parseExecdFrame_empty_iff fromStr frame).mp hwith

/-- An overflow is reported exactly when the reading is given up. -/
theorem reports_overflow_iff (chunks : List (List UInt8)) :
    (executeSandboxCommand fromStr chunks).streamError = some overflowError ↔
      (sseFraming.read maxExecdFrameBufferBytes [] chunks).overflow = true := by
  have hrun := executeSandboxCommand_eq fromStr chunks
  dsimp only at hrun
  rw [hrun]
  split
  · rename_i hover
    exact iff_of_true rfl hover
  · rename_i hover
    refine iff_of_false ?_ hover
    have hnone : (framesOutcome fromStr (sseFraming.pieces chunks.flatten)).streamError = none :=
      consumeFrames_streamError fromStr {} _
    rw [hnone]
    nofun

/-- Where a frame is too long and those before it say nothing, every command ends with the
    overflow and nothing else. -/
theorem execute_long {stream : List UInt8} (h : LongAfterSilence fromStr stream)
    {chunks : List (List UInt8)} (hc : chunks.flatten = stream) :
    executeSandboxCommand fromStr chunks = { streamError := some overflowError } := by
  obtain ⟨before, long, rest, hsplit, hlong, hsilent⟩ := h
  have hmem : long ∈ sseFraming.pieces chunks.flatten := by
    rw [hc, hsplit]
    exact List.mem_append_right _ List.mem_cons_self
  have hover := Framing.read_overflow_of_long hmem hlong
  have hrun := executeSandboxCommand_eq fromStr chunks
  dsimp only at hrun
  rw [hrun, if_pos hover]
  -- what the reading has seen are frames before the one that is too long
  have hseen : (sseFraming.read maxExecdFrameBufferBytes [] chunks).frames <+:
      before ++ long :: rest := by
    have hpre := @Framing.read_prefix UInt8 sseFraming maxExecdFrameBufferBytes [] chunks
    rw [List.nil_append, hc] at hpre
    rw [← hsplit]
    exact hpre.trans (List.prefix_append _ _)
  have hbefore : (sseFraming.read maxExecdFrameBufferBytes [] chunks).frames <+: before := by
    rcases List.prefix_or_prefix_of_prefix hseen
      (show before ++ [long] <+: before ++ long :: rest from ⟨rest, by simp⟩) with hpre | hpre
    · rcases List.prefix_concat_iff.mp hpre with heq | hpre
      · have hle := @Framing.read_frames_le UInt8 sseFraming maxExecdFrameBufferBytes [] chunks long
          (by rw [heq]; exact List.mem_append_right _ (List.mem_singleton.mpr rfl))
        exact absurd hlong (Nat.not_lt.mpr hle)
      · exact hpre
    · have hle := @Framing.read_frames_le UInt8 sseFraming maxExecdFrameBufferBytes [] chunks long
        (hpre.subset (List.mem_append_right _ (List.mem_singleton.mpr rfl)))
      exact absurd hlong (Nat.not_lt.mpr hle)
  rw [framesOutcome_silent fromStr fun f hf => hsilent f (hbefore.subset hf)]

/-- A list with an element of a kind has a first one. -/
theorem exists_first_long {frames : List (Frame UInt8)}
    (h : ∃ frame ∈ frames, maxExecdFrameBufferBytes < frame.bytes.length) :
    ∃ before long rest, frames = before ++ long :: rest ∧
      maxExecdFrameBufferBytes < long.bytes.length ∧
      ∀ frame ∈ before, frame.bytes.length ≤ maxExecdFrameBufferBytes := by
  obtain ⟨frame, hframe, hlong⟩ := h
  have hfind : (frames.find? fun f => decide (maxExecdFrameBufferBytes < f.bytes.length)).isSome :=
    List.find?_isSome.mpr ⟨frame, hframe, decide_eq_true hlong⟩
  obtain ⟨first, hfirst⟩ := Option.isSome_iff_exists.mp hfind
  obtain ⟨hp, before, rest, hsplit, hall⟩ := List.find?_eq_some_iff_append.mp hfirst
  refine ⟨before, first, rest, hsplit, of_decide_eq_true hp, fun f hf => ?_⟩
  have hnot := hall f hf
  rw [Bool.not_eq_true', decide_eq_false_iff_not] at hnot
  omega

/-- Each beginning of the frames before one that is too long is what some split leaves. -/
theorem execute_first {stream : List UInt8} {first after rest : List (Frame UInt8)}
    {long : Frame UInt8} (hsplit : sseFraming.pieces stream = (first ++ after) ++ long :: rest)
    (hlong : maxExecdFrameBufferBytes < long.bytes.length)
    (hle : ∀ frame ∈ first, frame.bytes.length ≤ maxExecdFrameBufferBytes) :
    ∃ chunks, chunks.flatten = stream ∧ executeSandboxCommand fromStr chunks =
      { framesOutcome fromStr first with streamError := some overflowError } := by
  refine ⟨first.map Frame.bytes ++ [Lib.bytesOf (after ++ long :: rest)], ?_, ?_⟩
  · have hbytes := sseFraming.bytesOf_pieces stream
    rw [hsplit, List.append_assoc] at hbytes
    refine Eq.trans ?_ hbytes
    unfold Lib.bytesOf
    rw [List.flatten_append, List.flatten_singleton, ← List.flatten_append, ← List.map_append]
  · have hwhole : ∀ f ∈ first, sseFraming.frames f.bytes = ([f], []) := by
      intro f hf
      have hframes := sseFraming.prefix_frames hsplit
      exact sseFraming.frames_bytes (hframes.subset (List.mem_append_left _ hf))
    have hrest : maxExecdFrameBufferBytes < (Lib.bytesOf (after ++ long :: rest)).length := by
      have := Framing.length_bytes_le
        (show long ∈ after ++ long :: rest from List.mem_append_right _ List.mem_cons_self)
      omega
    have hread := Framing.read_frames_then hwhole hle hrest
    have hrun := executeSandboxCommand_eq fromStr
      (first.map Frame.bytes ++ [Lib.bytesOf (after ++ long :: rest)])
    dsimp only at hrun
    rw [hrun, hread, if_pos rfl]

theorem eq_of_streamError {o o' : ExecdOutcome} {error : Option String}
    (h : { o with streamError := error } = { o' with streamError := error })
    (herror : o.streamError = o'.streamError) : o = o' := by
  cases o
  cases o'
  cases h
  cases herror
  rfl

/-- **A command's outcome does not depend on how its stream is split, and the overflow is reported
    only for a frame that is too long, exactly if the stream as a whole is within the limit or has
    a frame that is not, with nothing said before it.** -/
theorem sandboxStream_iff (stream : List UInt8) :
    (SameForAllSplits fromStr stream ∧ OverflowOnlyIfLong fromStr stream) ↔
      stream.length ≤ maxExecdFrameBufferBytes ∨ LongAfterSilence fromStr stream := by
  constructor
  · rintro ⟨hsame, honly⟩
    rcases Nat.lt_or_ge maxExecdFrameBufferBytes stream.length with hlarge | hsmall
    · right
      have hone : executeSandboxCommand fromStr [stream] =
          { streamError := some overflowError } := by
        have hread := @Framing.read_frames_then UInt8 sseFraming _ [] _ nofun nofun hlarge
        have hrun := executeSandboxCommand_eq fromStr [stream]
        dsimp only at hrun
        rw [hrun]
        rw [List.map_nil, List.nil_append] at hread
        rw [hread]
        rfl
      have hflat : [stream].flatten = stream := List.flatten_singleton ..
      obtain ⟨before, long, rest, hsplit, hlong, hle⟩ :=
        exists_first_long (honly [stream] hflat (by rw [hone]))
      refine ⟨before, long, rest, hsplit, hlong, silent_of_prefixes fromStr ?_⟩
      rintro first ⟨after, rfl⟩
      obtain ⟨chunks, hchunks, hrun⟩ := execute_first fromStr hsplit hlong
        fun f hf => hle f (List.mem_append_left after hf)
      have heq := hsame chunks [stream] hchunks hflat
      rw [hrun, hone] at heq
      exact eq_of_streamError heq (consumeFrames_streamError fromStr {} first)
    · exact Or.inl hsmall
  · rintro (hsmall | hlong)
    · have hno : ∀ chunks : List (List UInt8), chunks.flatten = stream →
          (sseFraming.read maxExecdFrameBufferBytes [] chunks).overflow = false := by
        intro chunks hchunks
        exact Framing.read_within (by rw [List.nil_append, hchunks]; exact hsmall)
      have hall : ∀ chunks : List (List UInt8), chunks.flatten = stream →
          executeSandboxCommand fromStr chunks =
            framesOutcome fromStr (sseFraming.pieces stream) := by
        intro chunks hchunks
        have hrun := executeSandboxCommand_eq fromStr chunks
        dsimp only at hrun
        rw [hrun, hno chunks hchunks, hchunks, if_neg Bool.false_ne_true]
      refine ⟨fun chunks chunks' hc hc' => ?_, fun chunks hc hreport => ?_⟩
      · rw [hall chunks hc, hall chunks' hc']
      · rw [reports_overflow_iff, hno chunks hc] at hreport
        cases hreport
    · refine ⟨fun chunks chunks' hc hc' => ?_, fun chunks _ _ => ?_⟩
      · rw [execute_long fromStr hlong hc, execute_long fromStr hlong hc']
      · obtain ⟨before, long, rest, hsplit, hlen, -⟩ := hlong
        refine ⟨long, ?_, hlen⟩
        rw [hsplit]
        exact List.mem_append_right _ List.mem_cons_self

end Stream

def readyText : String := "\x7b\"type\":\"stdout\",\"text\":\"ready\"\x7d"

/-- What the JSON reader makes of the only text that is not blank. -/
def readyReader (text : List Char) : Option JsonValue :=
  if text = readyText.toList then
    some (JsonValue.ofFields [("type", .string "stdout"), ("text", .string "ready")])
  else none

def readyFrame : List UInt8 := readyText.toList.map (fun c => UInt8.ofNat c.toNat) ++ lfDelimiter

theorem readyFrame_frames : (sseFraming.frames readyFrame).2 = [] := by
  have hnext : sseFraming.next readyFrame = some (32, 2) := by decide
  have hend : readyFrame.drop (32 + 2) = [] := by decide
  rw [sseFraming.frames_some hnext, hend, Framing.frames_nil]

/-- A frame and what comes with it in a second chunk are read to the end. -/
theorem read_ready {rest : List UInt8} (h : rest.length = maxExecdFrameBufferBytes) :
    (sseFraming.read maxExecdFrameBufferBytes [] [readyFrame, rest]).overflow = false := by
  have hshort : ¬ maxExecdFrameBufferBytes < ([] : List UInt8).length + readyFrame.length := by
    decide
  have hrest : ¬ maxExecdFrameBufferBytes < ([] : List UInt8).length + rest.length := by
    rw [h]
    decide
  rw [Framing.read, if_neg hshort, List.nil_append, readyFrame_frames, Framing.read,
    if_neg hrest, Framing.read]

theorem not_overflowOnlyIfLong {rest : List UInt8} (h : rest.length = maxExecdFrameBufferBytes) :
    ¬ OverflowOnlyIfLong readyReader (readyFrame ++ rest) := by
  intro honly
  have hlong : maxExecdFrameBufferBytes <
      ([] : List UInt8).length + (readyFrame ++ rest).length := by
    have : 0 < readyFrame.length := by decide
    rw [List.length_append, h]
    omega
  have hone : (sseFraming.read maxExecdFrameBufferBytes [] [readyFrame ++ rest]).overflow =
      true := by
    rw [Framing.read, if_pos hlong]
  obtain ⟨frame, hframe, hframelong⟩ := honly [readyFrame ++ rest] (List.flatten_singleton ..)
    ((reports_overflow_iff readyReader _).mpr hone)
  have htwo : [readyFrame, rest].flatten = readyFrame ++ rest := by
    rw [List.flatten_cons, List.flatten_singleton]
  rw [← htwo] at hframe
  have hover := Framing.read_overflow_of_long hframe hframelong
  rw [read_ready h] at hover
  cases hover

/-- A short frame, and blanks as many as are held back at most. -/
def blanksAfter : List UInt8 := readyFrame ++ List.replicate maxExecdFrameBufferBytes 32

/-- **A stream without any frame that is too long, in one chunk, is given up.** -/
theorem sandboxStream_one_chunk :
    ¬ (SameForAllSplits readyReader blanksAfter ∧ OverflowOnlyIfLong readyReader blanksAfter) :=
  fun h => not_overflowOnlyIfLong List.length_replicate h.2

end Uprava.Node
