/-
  File:      Uprava/Node/Terminal.lean
  Subject:   The output of a workspace terminal: the frames that the reads of the shell's output
             become, and the buffer that a client that comes back is shown.

  Each read is decoded on its own. So the frames hold the decoding of the whole output exactly where
  no read ends inside a character that the next goes on with, and their numbers follow each other
  as long as the counter does not stop at its end (`terminal_output_iff`). The buffer is what is
  left of the frames when the oldest are taken away (`evict_suffix`).
-/
import Mathlib.Algebra.Ring.Nat
import Mathlib.Algebra.GroupWithZero.Nat
import Uprava.Lib.Utf8Lossy
import Uprava.Protocol.Control

namespace Uprava.Node

open Uprava.Protocol
open Uprava.Lib (lossy CutsNone)

/-! ## 1. The terminal -/

structure WorkspaceTerminalOutputFrame where
  terminalId : String
  seq : Nat
  data : String
  sentAt : DateTime
  deriving DecidableEq

def maxWorkspaceTerminalReplayFrames : Nat := 256

def maxWorkspaceTerminalReplayBytes : Nat := 256 * 1024

/-- The largest `u64`. -/
def maxTerminalSeq : Nat := 2 ^ 64 - 1

/-- What the loop of a terminal waits for. -/
inductive TerminalInput where
  /-- Keys for the shell, and whether they could be written. -/
  | input (written : Bool)
  | resize
  | close
  /-- The other end of the control channel is gone. -/
  | controlGone
  /-- A read that gave these bytes. -/
  | read (bytes : List UInt8) (sentAt : DateTime)
  | readInterrupted
  | readFailed
  deriving DecidableEq

structure Terminal where
  terminalId : String
  seq : Nat := 0
  /-- The frames made so far, each of which is recorded and sent. -/
  frames : List WorkspaceTerminalOutputFrame := []
  replay : List WorkspaceTerminalOutputFrame := []
  ended : Bool := false
  deriving DecidableEq

def terminalReplayBytes (replay : List WorkspaceTerminalOutputFrame) : Nat :=
  (replay.map (·.data.utf8ByteSize)).sum

/-- The loop of `record_terminal_replay`: the oldest frames go until the rest fits. -/
def evict : List WorkspaceTerminalOutputFrame → List WorkspaceTerminalOutputFrame
  | [] => []
  | frame :: replay =>
    if maxWorkspaceTerminalReplayFrames < (frame :: replay).length ∨
        maxWorkspaceTerminalReplayBytes < terminalReplayBytes (frame :: replay) then evict replay
    else frame :: replay

def recordTerminalReplay (replay : List WorkspaceTerminalOutputFrame)
    (frame : WorkspaceTerminalOutputFrame) : List WorkspaceTerminalOutputFrame :=
  evict (replay ++ [frame])

/-- One turn of the loop of `run_workspace_terminal`. -/
def Terminal.turn (t : Terminal) : TerminalInput → Terminal
  | .input written => { t with ended := !written }
  | .resize | .readInterrupted => t
  | .close | .controlGone | .readFailed => { t with ended := true }
  | .read bytes sentAt =>
    if bytes = [] then { t with ended := true }
    else
      let seq := min (t.seq + 1) maxTerminalSeq
      let frame : WorkspaceTerminalOutputFrame :=
        { terminalId := t.terminalId, seq, data := String.ofList (lossy bytes), sentAt }
      { t with seq, frames := t.frames ++ [frame], replay := recordTerminalReplay t.replay frame }

/-- `run_workspace_terminal`: nothing is read any more once the loop is left. -/
def runWorkspaceTerminal (t : Terminal) : List TerminalInput → Terminal
  | [] => t
  | input :: inputs =>
    if (t.turn input).ended then t.turn input else runWorkspaceTerminal (t.turn input) inputs

/-- The reads of a terminal's loop, up to where it ends. -/
def readsOf : List TerminalInput → List (List UInt8)
  | [] => []
  | .read bytes _ :: inputs => if bytes = [] then [] else bytes :: readsOf inputs
  | .input written :: inputs => if written then readsOf inputs else []
  | .resize :: inputs | .readInterrupted :: inputs => readsOf inputs
  | .close :: _ | .controlGone :: _ | .readFailed :: _ => []

/-! ## 2. The replay buffer -/

theorem evict_suffix (replay : List WorkspaceTerminalOutputFrame) : evict replay <:+ replay := by
  induction replay with
  | nil => exact List.suffix_rfl
  | cons frame replay ih =>
    unfold evict
    split
    · exact ih.trans (List.suffix_cons frame replay)
    · exact List.suffix_rfl

/-- The limits of the buffer. -/
def FitsReplay (replay : List WorkspaceTerminalOutputFrame) : Prop :=
  replay.length ≤ maxWorkspaceTerminalReplayFrames ∧
    terminalReplayBytes replay ≤ maxWorkspaceTerminalReplayBytes

theorem evict_fits (replay : List WorkspaceTerminalOutputFrame) : FitsReplay (evict replay) := by
  induction replay with
  | nil => exact ⟨by decide, by decide⟩
  | cons frame replay ih =>
    unfold evict
    split
    · exact ih
    · rename_i hfits
      rw [not_or, Nat.not_lt, Nat.not_lt] at hfits
      exact hfits

/-! ## 3. The frames -/

/-- What the frames of a terminal say about the reads before them. -/
structure Terminal.Sound (t : Terminal) (reads : List (List UInt8)) : Prop where
  data : t.frames.map (·.data.toList) = reads.map lossy
  seqs : t.frames.map (·.seq) =
    (List.range' 1 reads.length).map fun n => min n maxTerminalSeq
  seq : t.seq = min reads.length maxTerminalSeq
  suffix : t.replay <:+ t.frames
  fits : FitsReplay t.replay

theorem Terminal.Sound.ended {t : Terminal} {reads : List (List UInt8)} (h : t.Sound reads)
    (ended : Bool) : Terminal.Sound { t with ended } reads :=
  ⟨h.data, h.seqs, h.seq, h.suffix, h.fits⟩

/-- **One read makes one frame**, the next by number, and the last of the buffer. -/
theorem Terminal.Sound.read {t : Terminal} {reads : List (List UInt8)} (h : t.Sound reads)
    {bytes : List UInt8} (hbytes : bytes ≠ []) (sentAt : DateTime) :
    (t.turn (.read bytes sentAt)).Sound (reads ++ [bytes]) := by
  unfold Terminal.turn
  dsimp only
  rw [if_neg hbytes]
  have hseq : min (t.seq + 1) maxTerminalSeq = min (reads.length + 1) maxTerminalSeq := by
    rw [h.seq]
    omega
  refine ⟨?_, ?_, ?_, ?_, evict_fits _⟩
  · rw [List.map_append, List.map_append, h.data]
    simp
  · rw [List.map_append, h.seqs, List.length_append, List.length_singleton, List.range'_1_concat,
      List.map_append, List.map_singleton, List.map_singleton, hseq, Nat.add_comm 1]
  · rw [List.length_append, List.length_singleton]
    exact hseq
  · obtain ⟨front, hfront⟩ := h.suffix
    refine (evict_suffix _).trans ⟨front, ?_⟩
    rw [← List.append_assoc, hfront]

/-- A whole run: the frames are those of the reads up to its end. -/
theorem Terminal.Sound.run {t : Terminal} {reads : List (List UInt8)} (h : t.Sound reads)
    (ht : t.ended = false) (inputs : List TerminalInput) :
    (runWorkspaceTerminal t inputs).Sound (reads ++ readsOf inputs) := by
  induction inputs generalizing t reads with
  | nil =>
    rw [readsOf, List.append_nil]
    exact h
  | cons input inputs ih =>
    unfold runWorkspaceTerminal
    have hstop : ∀ ended, Terminal.Sound { t with ended } (reads ++ []) := by
      intro ended
      rw [List.append_nil]
      exact h.ended ended
    cases input with
    | resize | readInterrupted =>
      change Terminal.Sound (if t.ended = true then t else _) _
      rw [ht]
      exact ih h ht
    | close | controlGone | readFailed => exact hstop true
    | input written =>
      cases written with
      | false => exact hstop true
      | true => exact ih (h.ended false) rfl
    | read bytes sentAt =>
      by_cases hbytes : bytes = []
      · have hturn : t.turn (.read bytes sentAt) = { t with ended := true } := if_pos hbytes
        rw [hturn, readsOf, if_pos hbytes]
        exact hstop true
      · have hgoes : (t.turn (.read bytes sentAt)).ended = false := by
          unfold Terminal.turn
          dsimp only
          rw [if_neg hbytes]
          exact ht
        have hrest := ih (h.read hbytes sentAt) hgoes
        rw [List.append_assoc] at hrest
        rw [hgoes, readsOf, if_neg hbytes]
        exact hrest

theorem terminal_start (terminalId : String) : Terminal.Sound { terminalId } [] :=
  ⟨rfl, rfl, rfl, List.suffix_rfl, Nat.zero_le _, Nat.zero_le _⟩

/-! ## 4. The output -/

/-- The frames of a terminal that has put out these bytes: together they are the bytes' decoding,
    the numbers go up by one, and the buffer is the last of the frames, within its limits. -/
structure Terminal.Faithful (t : Terminal) (output : List UInt8) : Prop where
  data : t.frames.flatMap (·.data.toList) = lossy output
  seqs : t.frames.map (·.seq) = List.range' 1 t.frames.length
  suffix : t.replay <:+ t.frames
  fits : FitsReplay t.replay
  /-- Nothing was taken from the buffer. -/
  whole : t.replay = t.frames → t.replay.flatMap (·.data.toList) = lossy output

/-- The counter stops at its end. -/
theorem map_min_range' {n most : Nat} :
    ((List.range' 1 n).map fun k => min k most) = List.range' 1 n ↔ n ≤ most := by
  constructor
  · intro h
    by_contra hn
    have hlast := congrArg (fun xs => xs[n - 1]?) h
    have hlt : n - 1 < n := by omega
    simp only [List.getElem?_map, List.getElem?_range' hlt, Option.map_some,
      Option.some.injEq] at hlast
    omega
  · intro hn
    refine (List.map_congr_left fun k hk => ?_).trans (List.map_id _)
    have hrange := List.mem_range'_1.mp hk
    exact Nat.min_eq_left (by omega)

/-- **The frames of a terminal say what its shell put out exactly where no read ends inside a
    character that the next goes on with, and the counter does not run out.** -/
theorem terminal_output_iff (terminalId : String) (inputs : List TerminalInput) :
    (runWorkspaceTerminal { terminalId } inputs).Faithful (readsOf inputs).flatten ↔
      CutsNone (readsOf inputs) ∧ (readsOf inputs).length ≤ maxTerminalSeq := by
  have hsound := (terminal_start terminalId).run rfl inputs
  rw [List.nil_append] at hsound
  generalize runWorkspaceTerminal { terminalId } inputs = t at hsound
  generalize readsOf inputs = reads at hsound
  have hlength : t.frames.length = reads.length := by
    have := congrArg List.length hsound.data
    rwa [List.length_map, List.length_map] at this
  have hdata : t.frames.flatMap (·.data.toList) = (reads.map lossy).flatten := by
    rw [← hsound.data]
    rfl
  constructor
  · intro h
    refine ⟨(Lib.flatten_map_lossy reads).mp (hdata.symm.trans h.data), ?_⟩
    have hseqs := h.seqs
    rw [hsound.seqs, hlength] at hseqs
    exact map_min_range'.mp hseqs
  · intro ⟨hcuts, hcount⟩
    have hwhole : t.frames.flatMap (·.data.toList) = lossy reads.flatten :=
      hdata.trans ((Lib.flatten_map_lossy reads).mpr hcuts)
    refine ⟨hwhole, ?_, hsound.suffix, hsound.fits, fun heq => heq ▸ hwhole⟩
    rw [hsound.seqs, hlength]
    exact map_min_range'.mpr hcount

/-- The two bytes of `é` come in two reads. -/
theorem terminal_output_cut :
    ¬ ∀ (terminalId : String) (inputs : List TerminalInput),
      (runWorkspaceTerminal { terminalId } inputs).Faithful (readsOf inputs).flatten := by
  intro hall
  have hdata := (hall "t1" [.read [0xC3] 0, .read [0xA9] 1]).data
  exact absurd hdata (by decide)

end Uprava.Node
