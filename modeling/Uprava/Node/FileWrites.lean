/-
  File:      Uprava/Node/FileWrites.lean
  Subject:   The write of a workspace file as the steps it asks of the system, each of which may
             fail, and several writes of one file that take their steps in turn.

  A write compares the content that it finds and then empties the file and fills it, all on the
  one file it has open. What fails behind the emptying leaves the file empty, cut or new, or, where
  the write has made it, leaves a file that was not there (`writeWorkspaceFile_iff`). Two writes
  that compare before either has filled the file both succeed; when none compares while another
  stands between its comparison and the end of its filling, at most one does (`atMostOne_run`).
-/
import Uprava.Lib.Run
import Uprava.Node.HostFiles

namespace Uprava.Node.FileWrites

open Uprava.Lib (FileTree run Meets Throughout)
open Uprava.Node (Segments WorkspaceInspectError maxWorkspaceTextBytes joinSegments)

/-! ## 1. The steps of a write -/

abbrev Bytes := List UInt8

abbrev Tree := FileTree String Bytes

def textBytes (text : String) : Bytes := text.toByteArray.data.toList

def isUtf8 (bytes : Bytes) : Bool := (String.fromUTF8? ⟨bytes.toArray⟩).isSome

structure Write where
  target : Segments
  relative : Segments
  content : String
  expectedContent : Option String

/-- The step that a write takes next. -/
inductive Stage where
  | openFile | createNew
  | fileMetadata | seek | readToEnd
  | setLen | rewind | writeAll | syncAll | writtenMetadata
  | done (result : Except WorkspaceInspectError Unit)

/-- Why a step fails, and how much of the content a write that fails has written. -/
structure Fault where
  text : String
  written : Nat

def failed (code message : String) : Stage := .done (.error (code, message))

/-- Bytes written at the beginning of a file. -/
def overlay (bytes content : Bytes) : Bytes := bytes ++ content.drop bytes.length

namespace Write

variable (write : Write)

def shown : String := joinSegments write.relative

/-- `open_workspace_write_target`, up to where the file is open. -/
def openFile (tree : Tree) : Option Fault → Stage
  | some fault => failed "workspace.write_failed"
      ("Failed to open " ++ write.shown ++ " for writing: " ++ fault.text)
  | none =>
    match tree.find write.target with
    | some (.file _) => .fileMetadata
    | some (.symlink _) => failed "workspace.write_symlink"
        "Workspace file writes do not follow symlinks"
    | some .directory => failed "workspace.write_failed"
        ("Failed to open " ++ write.shown ++ " for writing: Is a directory (os error 21)")
    | none =>
      if write.expectedContent = none then .createNew
      else failed "workspace.write_conflict"
        "Workspace file changed before save: target is now missing"

/-- The file is made, empty, where there is none. -/
def createNew (tree : Tree) : Option Fault → Tree × Stage
  | some fault => (tree, failed "workspace.write_failed"
      ("Failed to create " ++ write.shown ++ " for writing: " ++ fault.text))
  | none =>
    match tree.find write.target with
    | some _ => (tree, failed "workspace.write_conflict"
        "Workspace file changed before save; reload before writing")
    | none =>
      if tree.isDirectory write.target.dropLast then (tree.writeFile write.target [], .setLen)
      else (tree, failed "workspace.write_failed" ("Failed to create " ++ write.shown ++
        " for writing: No such file or directory (os error 2)"))

/-- What `validate_opened_write_target` makes of the content. -/
def compare (content : Bytes) : Stage :=
  if content.contains 0 then
    failed "workspace.write_binary_file" "Workspace file writes do not edit binary content"
  else if !isUtf8 content then
    failed "workspace.write_binary_file" "Workspace file writes only edit UTF-8 text"
  else if write.expectedContent.any (fun text => textBytes text ≠ content) then
    failed "workspace.write_conflict" "Workspace file changed before save; reload before writing"
  else .setLen

/-- The bytes of the file that is open. -/
def held (tree : Tree) : Bytes :=
  match tree.find write.target with
  | some (.file content) => content
  | _ => []

/-- One step, which the system lets fail or not. -/
def next (fault : Option Fault) (tree : Tree) : Stage → Tree × Stage
  | .openFile => (tree, write.openFile tree fault)
  | .createNew => write.createNew tree fault
  | .fileMetadata =>
    match fault with
    | some fault => (tree, failed "workspace.metadata_failed"
        ("Failed to inspect " ++ write.shown ++ ": " ++ fault.text))
    | none =>
      if maxWorkspaceTextBytes < (write.held tree).length then
        (tree, failed "workspace.write_large_file"
          "Workspace file write target is too large for lightweight editing")
      else (tree, .seek)
  | .seek =>
    match fault with
    | some fault => (tree, failed "workspace.read_failed"
        ("Failed to seek " ++ write.shown ++ " before writing: " ++ fault.text))
    | none => (tree, .readToEnd)
  | .readToEnd =>
    match fault with
    | some fault => (tree, failed "workspace.read_failed"
        ("Failed to read " ++ write.shown ++ " before writing: " ++ fault.text))
    | none => (tree, write.compare (write.held tree))
  | .setLen =>
    match fault with
    | some fault => (tree, failed "workspace.write_failed"
        ("Failed to truncate " ++ write.shown ++ ": " ++ fault.text))
    | none => (tree.writeFile write.target [], .rewind)
  | .rewind =>
    match fault with
    | some fault => (tree, failed "workspace.write_failed"
        ("Failed to seek " ++ write.shown ++ ": " ++ fault.text))
    | none => (tree, .writeAll)
  | .writeAll =>
    match fault with
    | some fault =>
      (tree.writeFile write.target
          (overlay ((textBytes write.content).take fault.written) (write.held tree)),
        failed "workspace.write_failed"
          ("Failed to write " ++ write.shown ++ ": " ++ fault.text))
    | none =>
      (tree.writeFile write.target (overlay (textBytes write.content) (write.held tree)), .syncAll)
  | .syncAll =>
    match fault with
    | some fault => (tree, failed "workspace.write_failed"
        ("Failed to sync " ++ write.shown ++ ": " ++ fault.text))
    | none => (tree, .writtenMetadata)
  | .writtenMetadata =>
    match fault with
    | some fault => (tree, failed "workspace.metadata_failed"
        ("Failed to inspect written file " ++ write.shown ++ ": " ++ fault.text))
    | none => (tree, .done (.ok ()))
  | .done result => (tree, .done result)

/-- A write that is alone, with the steps that fail. -/
def complete (faults : Stage → Option Fault) : Nat → Tree × Stage → Tree × Stage
  | 0, reached => reached
  | steps + 1, (tree, stage) => complete faults steps (write.next (faults stage) tree stage)

end Write

/-- A write takes nine steps at most. -/
def stepLimit : Nat := 9

/-- `write_workspace_file`: what it returns and the tree it leaves. What the request, the root and
    the path come to is given: so far nothing is written. -/
def writeWorkspaceFile (prepared : Except WorkspaceInspectError Write)
    (faults : Stage → Option Fault) (tree : Tree) : Tree × Stage :=
  match prepared with
  | .error e => (tree, .done (.error e))
  | .ok write => write.complete faults stepLimit (tree, .openFile)

/-! ## 2. All or nothing -/

/-- What the write promises: the new content and nothing else changed, over the content that was
    expected; or an error and nothing changed. -/
def AllOrNothing (prepared : Except WorkspaceInspectError Write) (tree : Tree)
    (reached : Tree × Stage) : Prop :=
  match reached.2 with
  | .done (.ok _) => ∃ write, prepared = .ok write ∧
      reached.1.find write.target = some (.file (textBytes write.content)) ∧
      (∀ path ≠ write.target, reached.1.find path = tree.find path) ∧
      ∀ text, write.expectedContent = some text →
        tree.find write.target = some (.file (textBytes text))
  | .done (.error _) => ∀ path, reached.1.find path = tree.find path
  | _ => False

/-- The steps that change the file, and those that may fail behind them. -/
def fillingStages : List Stage := [.setLen, .rewind, .writeAll, .syncAll, .writtenMetadata]

/-- What a step leaves of the file that fails behind the emptying: nothing, a part of the content,
    or all of it. -/
inductive Remains (faults : Stage → Option Fault) (content bytes : Bytes) : Prop where
  | emptied (hempty : faults .setLen = none) (h : faults .rewind ≠ none) (hbytes : bytes = [])
  | cut (hempty : faults .setLen = none) (hrewind : faults .rewind = none) (fault : Fault)
      (h : faults .writeAll = some fault) (hbytes : bytes = content.take fault.written)
  | full (hempty : faults .setLen = none) (hrewind : faults .rewind = none)
      (hwrite : faults .writeAll = none)
      (h : faults .syncAll ≠ none ∨ faults .writtenMetadata ≠ none) (hbytes : bytes = content)

/-- The write finds a file, and gets past its comparison. -/
structure Passes (write : Write) (faults : Stage → Option Fault) (tree : Tree) (old : Bytes) :
    Prop where
  file : tree.find write.target = some (.file old)
  no_fault : ∀ stage ∈ [Stage.openFile, .fileMetadata, .seek, .readToEnd], faults stage = none
  size : old.length ≤ maxWorkspaceTextBytes
  compared : write.compare old = .setLen

/-- The write finds nothing, and makes the file. -/
structure Creates (write : Write) (faults : Stage → Option Fault) (tree : Tree) : Prop where
  missing : tree.find write.target = none
  folder : tree.isDirectory write.target.dropLast = true
  no_fault : ∀ stage ∈ [Stage.openFile, .createNew], faults stage = none
  not_expected : write.expectedContent = none

/-- No step fails behind the first change of the tree, or what it leaves is the old content. -/
def FailsSafely (prepared : Except WorkspaceInspectError Write) (faults : Stage → Option Fault)
    (tree : Tree) : Prop :=
  ∀ write, prepared = .ok write →
    (∀ old, Passes write faults tree old →
      ∀ bytes, Remains faults (textBytes write.content) bytes → bytes = old) ∧
    (Creates write faults tree → ∀ stage ∈ fillingStages, faults stage = none)

variable {write : Write} {faults : Stage → Option Fault}

theorem complete_succ (steps : Nat) (tree : Tree) (stage : Stage) :
    write.complete faults (steps + 1) (tree, stage) =
      write.complete faults steps (write.next (faults stage) tree stage) := rfl

@[simp] theorem complete_done (steps : Nat) (tree : Tree)
    (result : Except WorkspaceInspectError Unit) :
    write.complete faults steps (tree, .done result) = (tree, .done result) := by
  induction steps with
  | zero => rfl
  | succ steps ih => exact ih

/-- How the filling of a file ends. -/
inductive Filled (write : Write) (faults : Stage → Option Fault) (tree : Tree) :
    Tree × Stage → Prop where
  | untouched (e : WorkspaceInspectError) (h : faults .setLen ≠ none) :
      Filled write faults tree (tree, .done (.error e))
  | remains (e : WorkspaceInspectError) (left : Tree) (bytes : Bytes)
      (hfind : ∀ path, left.find path =
        if path = write.target then some (.file bytes) else tree.find path)
      (h : Remains faults (textBytes write.content) bytes) :
      Filled write faults tree (left, .done (.error e))
  | written (left : Tree)
      (hfind : ∀ path, left.find path = if path = write.target then
        some (.file (textBytes write.content)) else tree.find path)
      (h : ∀ stage ∈ fillingStages, faults stage = none) :
      Filled write faults tree (left, .done (.ok ()))

theorem find_writeFile_twice {tree : Tree} {path : Segments} (h : tree.takesFile path = true)
    (first second : Bytes) (p : Segments) :
    ((tree.writeFile path first).writeFile path second).find p =
      if p = path then some (.file second) else tree.find p := by
  rw [FileTree.find_writeFile (FileTree.takesFile_writeFile h first)]
  split
  · rfl
  · next hne => rw [FileTree.find_writeFile_of_ne hne]

theorem held_writeFile {tree : Tree} (h : tree.takesFile write.target = true) (bytes : Bytes) :
    write.held (tree.writeFile write.target bytes) = bytes := by
  rw [Write.held, FileTree.find_writeFile h, if_pos rfl]

theorem overlay_nil (bytes : Bytes) : overlay bytes [] = bytes := by
  rw [overlay, List.drop_nil, List.append_nil]

/-- **The filling, with every step that may fail.** -/
theorem filled_complete {tree : Tree} (h : tree.takesFile write.target = true) (steps : Nat) :
    Filled write faults tree (write.complete faults (steps + 5) (tree, .setLen)) := by
  have hheld := held_writeFile h ([] : Bytes)
  rw [complete_succ, Write.next.eq_def]
  dsimp only
  cases hset : faults .setLen with
  | some fault =>
    dsimp only [failed]
    rw [complete_done]
    exact .untouched _ (by rw [hset]; nofun)
  | none =>
    dsimp only
    rw [complete_succ, Write.next.eq_def]
    dsimp only
    cases hrewind : faults .rewind with
    | some fault =>
      dsimp only [failed]
      rw [complete_done]
      exact .remains _ _ [] (FileTree.find_writeFile h [])
        (.emptied hset (by rw [hrewind]; nofun) rfl)
    | none =>
      dsimp only
      rw [complete_succ, Write.next.eq_def]
      dsimp only
      rw [hheld]
      cases hwrite : faults .writeAll with
      | some fault =>
        dsimp only [failed]
        rw [complete_done, overlay_nil]
        exact .remains _ _ _ (find_writeFile_twice h _ _) (.cut hset hrewind fault hwrite rfl)
      | none =>
        dsimp only
        rw [complete_succ, Write.next.eq_def, overlay_nil]
        dsimp only
        cases hsync : faults .syncAll with
        | some fault =>
          dsimp only [failed]
          rw [complete_done]
          exact .remains _ _ _ (find_writeFile_twice h _ _)
            (.full hset hrewind hwrite (Or.inl (by rw [hsync]; nofun)) rfl)
        | none =>
          dsimp only
          rw [complete_succ, Write.next.eq_def]
          dsimp only
          cases hmeta : faults .writtenMetadata with
          | some fault =>
            dsimp only [failed]
            rw [complete_done]
            exact .remains _ _ _ (find_writeFile_twice h _ _)
              (.full hset hrewind hwrite (Or.inr (by rw [hmeta]; nofun)) rfl)
          | none =>
            dsimp only
            rw [complete_done]
            exact .written _ (find_writeFile_twice h _ _) (by
              simp [fillingStages, hset, hrewind, hwrite, hsync, hmeta])

/-- How a write comes to the filling, or ends before it. -/
inductive Opened (write : Write) (faults : Stage → Option Fault) (tree : Tree) :
    Tree × Stage → Prop where
  | passes (old : Bytes) (h : Passes write faults tree old) {reached : Tree × Stage}
      (hfilled : Filled write faults tree reached) : Opened write faults tree reached
  | creates (h : Creates write faults tree) {reached : Tree × Stage}
      (hfilled : Filled write faults (tree.writeFile write.target []) reached) :
      Opened write faults tree reached
  | refused (e : WorkspaceInspectError) (hpasses : ∀ old, ¬ Passes write faults tree old)
      (hcreates : ¬ Creates write faults tree) : Opened write faults tree (tree, .done (.error e))

theorem takesFile_of_file {tree : Tree} {path : Segments} {content : Bytes}
    (h : tree.find path = some (.file content)) : tree.takesFile path = true := by
  have hfolder := FileTree.isDirectory_iff.mpr (FileTree.find_dropLast h)
  simp [FileTree.takesFile, h, hfolder]

theorem takesFile_of_folder {tree : Tree} {path : Segments} (h : tree.find path = none)
    (hfolder : tree.isDirectory path.dropLast = true) : tree.takesFile path = true := by
  simp [FileTree.takesFile, h, hfolder]

/-- A comparison ends the write or passes it on to the filling. -/
theorem compare_cases (write : Write) (content : Bytes) :
    write.compare content = .setLen ∨ ∃ e, write.compare content = .done (.error e) := by
  unfold Write.compare failed
  split
  · exact Or.inr ⟨_, rfl⟩
  · split
    · exact Or.inr ⟨_, rfl⟩
    · split
      · exact Or.inr ⟨_, rfl⟩
      · exact Or.inl rfl

/-- A file that is found is looked at, read and compared. -/
theorem opened_file {tree : Tree} {old : Bytes} (hfile : tree.find write.target = some (.file old))
    (hopen : faults .openFile = none) :
    Opened write faults tree (write.complete faults 8 (tree, .fileMetadata)) := by
  have hheld : write.held tree = old := by rw [Write.held, hfile]
  have hcreates : ¬ Creates write faults tree := by
    intro h
    rw [h.missing] at hfile
    cases hfile
  have hrefused (e : WorkspaceInspectError)
      (h : ∀ other, Passes write faults tree other → False) :
      Opened write faults tree (tree, .done (.error e)) := .refused e h hcreates
  rw [complete_succ, Write.next.eq_def]
  dsimp only
  cases hmeta : faults .fileMetadata with
  | some fault =>
    dsimp only [failed]
    rw [complete_done]
    refine hrefused _ fun other h => ?_
    rw [h.no_fault .fileMetadata (by simp)] at hmeta
    cases hmeta
  | none =>
    dsimp only
    rw [hheld]
    by_cases hsize : maxWorkspaceTextBytes < old.length
    · rw [if_pos hsize, failed, complete_done]
      refine hrefused _ fun other h => ?_
      have hsame := h.file
      rw [hfile] at hsame
      cases hsame
      exact absurd h.size (by omega)
    · rw [if_neg hsize, complete_succ, Write.next.eq_def]
      dsimp only
      cases hseek : faults .seek with
      | some fault =>
        dsimp only [failed]
        rw [complete_done]
        refine hrefused _ fun other h => ?_
        rw [h.no_fault .seek (by simp)] at hseek
        cases hseek
      | none =>
        dsimp only
        rw [complete_succ, Write.next.eq_def]
        dsimp only
        cases hread : faults .readToEnd with
        | some fault =>
          dsimp only [failed]
          rw [complete_done]
          refine hrefused _ fun other h => ?_
          rw [h.no_fault .readToEnd (by simp)] at hread
          cases hread
        | none =>
          dsimp only
          rw [hheld]
          rcases compare_cases write old with hcompare | ⟨e, hcompare⟩
          · rw [hcompare]
            exact .passes old ⟨hfile, by simp [hopen, hmeta, hseek, hread], by omega, hcompare⟩
              (filled_complete (takesFile_of_file hfile) 0)
          · rw [hcompare, complete_done]
            refine hrefused _ fun other h => ?_
            have hsame := h.file
            rw [hfile] at hsame
            cases hsame
            rw [h.compared] at hcompare
            cases hcompare

theorem opened_create {tree : Tree} (hmissing : tree.find write.target = none)
    (hopen : faults .openFile = none) (hexpected : write.expectedContent = none) :
    Opened write faults tree (write.complete faults 8 (tree, .createNew)) := by
  have hpasses (old : Bytes) : ¬ Passes write faults tree old := by
    intro h
    rw [h.file] at hmissing
    cases hmissing
  rw [complete_succ, Write.next.eq_def]
  dsimp only
  unfold Write.createNew
  cases hcreate : faults .createNew with
  | some fault =>
    dsimp only [failed]
    rw [complete_done]
    refine .refused _ hpasses fun h => ?_
    rw [h.no_fault .createNew (by simp)] at hcreate
    cases hcreate
  | none =>
    dsimp only
    rw [hmissing]
    dsimp only
    by_cases hfolder : tree.isDirectory write.target.dropLast = true
    · rw [if_pos hfolder]
      have htakes := takesFile_of_folder hmissing hfolder
      exact .creates ⟨hmissing, hfolder, by simp [hopen, hcreate], hexpected⟩
        (filled_complete (FileTree.takesFile_writeFile htakes []) 2)
    · rw [if_neg hfolder, failed, complete_done]
      exact .refused _ hpasses fun h => hfolder h.folder

theorem opened_complete (write : Write) (faults : Stage → Option Fault) (tree : Tree) :
    Opened write faults tree (write.complete faults stepLimit (tree, .openFile)) := by
  rw [stepLimit, complete_succ, Write.next.eq_def]
  dsimp only
  unfold Write.openFile
  cases hopen : faults .openFile with
  | some fault =>
    dsimp only [failed]
    rw [complete_done]
    have hnot {h : faults .openFile = none} : False := by rw [hopen] at h; cases h
    exact .refused _ (fun old h => hnot (h := h.no_fault .openFile (by simp)))
      fun h => hnot (h := h.no_fault .openFile (by simp))
  | none =>
    dsimp only
    have hrefused (e : WorkspaceInspectError)
        (hfile : ∀ old, tree.find write.target ≠ some (.file old))
        (hmissing : tree.find write.target = none → write.expectedContent ≠ none) :
        Opened write faults tree (tree, .done (.error e)) :=
      .refused e (fun old h => hfile old h.file) fun h => hmissing h.missing h.not_expected
    cases hfind : tree.find write.target with
    | none =>
      dsimp only
      by_cases hexpected : write.expectedContent = none
      · rw [if_pos hexpected]
        exact opened_create hfind hopen hexpected
      · rw [if_neg hexpected, failed, complete_done]
        exact hrefused _ (by rw [hfind]; nofun) fun _ => hexpected
    | some entry =>
      cases entry with
      | file old => exact opened_file hfind hopen
      | symlink link =>
        dsimp only [failed]
        rw [complete_done]
        exact hrefused _ (by rw [hfind]; nofun) (by rw [hfind]; nofun)
      | directory =>
        dsimp only [failed]
        rw [complete_done]
        exact hrefused _ (by rw [hfind]; nofun) (by rw [hfind]; nofun)

theorem Remains.unique {content bytes other : Bytes} (h : Remains faults content bytes)
    (hother : Remains faults content other) : bytes = other := by
  cases h with
  | emptied _ hrewind hbytes =>
    cases hother with
    | emptied _ _ hsame => rw [hbytes, hsame]
    | cut _ hnone => exact absurd hnone hrewind
    | full _ hnone => exact absurd hnone hrewind
  | cut _ hrewind fault hwrite hbytes =>
    cases hother with
    | emptied _ hsome => exact absurd hrewind hsome
    | cut _ _ other hsome hsame =>
      rw [hwrite] at hsome
      cases hsome
      rw [hbytes, hsame]
    | full _ _ hnone =>
      rw [hwrite] at hnone
      cases hnone
  | full _ hrewind hwrite _ hbytes =>
    cases hother with
    | emptied _ hsome => exact absurd hrewind hsome
    | cut _ _ fault hsome =>
      rw [hwrite] at hsome
      cases hsome
    | full _ _ _ _ hsame => rw [hbytes, hsame]

/-- Something remains only where a step fails. -/
theorem Remains.fails {content bytes : Bytes} (h : Remains faults content bytes)
    (hnone : ∀ stage ∈ fillingStages, faults stage = none) : False := by
  simp only [fillingStages, List.forall_mem_cons] at hnone
  obtain ⟨-, hrewind, hwrite, hsync, hmeta, -⟩ := hnone
  cases h with
  | emptied _ h => exact h hrewind
  | cut _ _ fault h =>
    rw [hwrite] at h
    cases h
  | full _ _ _ h =>
    rcases h with h | h
    · exact h hsync
    · exact h hmeta

theorem expected_of_compare {content : Bytes} (h : write.compare content = .setLen) {text : String}
    (htext : write.expectedContent = some text) : textBytes text = content := by
  unfold Write.compare failed at h
  rw [htext] at h
  split at h
  · cases h
  · split at h
    · cases h
    · split at h
      · cases h
      · next hsame => simpa using hsame

/-- **A write alone is all or nothing exactly when it fails safely.** -/
theorem allOrNothing_iff (prepared : Except WorkspaceInspectError Write)
    (faults : Stage → Option Fault) (tree : Tree) :
    AllOrNothing prepared tree (writeWorkspaceFile prepared faults tree) ↔
      FailsSafely prepared faults tree := by
  cases prepared with
  | error e => exact iff_of_true (fun _ => rfl) nofun
  | ok write =>
    have hopened := opened_complete write faults tree
    have hsafe : FailsSafely (.ok write) faults tree ↔
        (∀ old, Passes write faults tree old →
          ∀ bytes, Remains faults (textBytes write.content) bytes → bytes = old) ∧
        (Creates write faults tree → ∀ stage ∈ fillingStages, faults stage = none) :=
      ⟨fun h => h write rfl, fun h other hother => by cases hother; exact h⟩
    rw [writeWorkspaceFile, hsafe]
    generalize write.complete faults stepLimit (tree, .openFile) = reached at hopened ⊢
    cases hopened with
    | refused e hpasses hcreates =>
      exact iff_of_true (fun _ => rfl)
        ⟨fun old h => absurd h (hpasses old), fun h => absurd h hcreates⟩
    | passes old hpasses hfilled =>
      have hcreates : ¬ Creates write faults tree := by
        intro h
        have hmissing := h.missing
        rw [hpasses.file] at hmissing
        cases hmissing
      have hold (other : Bytes) (h : Passes write faults tree other) : other = old := by
        have hsame := h.file
        rw [hpasses.file] at hsame
        cases hsame
        rfl
      cases hfilled with
      | untouched e hset =>
        refine iff_of_true (fun _ => rfl) ⟨fun _ _ bytes hremains => ?_, fun h => absurd h hcreates⟩
        cases hremains <;> exact absurd ‹faults .setLen = none› hset
      | remains e left bytes hfind hremains =>
        constructor
        · intro hunchanged
          refine ⟨fun other hother bytes' hbytes' => ?_, fun h => absurd h hcreates⟩
          have htarget := hunchanged write.target
          rw [hfind, if_pos rfl, hpasses.file] at htarget
          cases htarget
          rw [hold other hother, hbytes'.unique hremains]
        · intro hsafely path
          have hbytes : bytes = old := hsafely.1 old hpasses bytes hremains
          change left.find path = tree.find path
          rw [hfind]
          split
          · next hpath => rw [hpath, hpasses.file, hbytes]
          · rfl
      | written left hfind hnone =>
        refine iff_of_true ⟨write, rfl, ?_, fun path hpath => ?_, fun text htext => ?_⟩
          ⟨fun _ _ _ hremains => (hremains.fails hnone).elim, fun h => absurd h hcreates⟩
        · change left.find write.target = _
          rw [hfind, if_pos rfl]
        · change left.find path = _
          rw [hfind, if_neg hpath]
        · rw [hpasses.file, expected_of_compare hpasses.compared htext]
    | creates hcreates hfilled =>
      have hpasses (old : Bytes) (h : Passes write faults tree old) : False := by
        have hfile := h.file
        rw [hcreates.missing] at hfile
        cases hfile
      have htakes := takesFile_of_folder hcreates.missing hcreates.folder
      cases hfilled with
      | untouched e hset =>
        refine iff_of_false (fun hunchanged => ?_) fun hsafely =>
          hset (hsafely.2 hcreates .setLen (by simp [fillingStages]))
        have htarget := hunchanged write.target
        rw [FileTree.find_writeFile htakes, if_pos rfl, hcreates.missing] at htarget
        cases htarget
      | remains e left bytes hfind hremains =>
        refine iff_of_false (fun hunchanged => ?_) fun hsafely =>
          hremains.fails (hsafely.2 hcreates)
        have htarget := hunchanged write.target
        rw [hfind, if_pos rfl, hcreates.missing] at htarget
        cases htarget
      | written left hfind hnone =>
        refine iff_of_true ⟨write, rfl, ?_, fun path hpath => ?_, fun text htext => ?_⟩
          ⟨fun old h => (hpasses old h).elim, fun _ => hnone⟩
        · change left.find write.target = _
          rw [hfind, if_pos rfl]
        · change left.find path = _
          rw [hfind, if_neg hpath, FileTree.find_writeFile_of_ne hpath]
        · rw [hcreates.not_expected] at htext
          cases htext

/-! ## 3. Several writes of one file -/

/-- The tree, and where each write stands. -/
structure Writers (ι : Type) where
  tree : Tree
  stage : ι → Stage

section Interleaved

variable {ι : Type} (writes : ι → Write)

/-- One of the writes takes its next step. -/
def stepOf [DecidableEq ι] (s : Writers ι) (action : ι × Option Fault) : Option (Writers ι) :=
  match s.stage action.1 with
  | .done _ => none
  | stage =>
    let (tree, stage) := (writes action.1).next action.2 s.tree stage
    some ⟨tree, Function.update s.stage action.1 stage⟩

def start (tree : Tree) : Writers ι := ⟨tree, fun _ => .openFile⟩

def AtMostOne (s : Writers ι) : Prop :=
  ∀ i j, s.stage i = .done (.ok ()) → s.stage j = .done (.ok ()) → i = j

/-- Between its comparison and the end of its filling. -/
def Stage.Filling : Stage → Prop
  | .setLen | .rewind | .writeAll => True
  | _ => False

/-- A write does not pass its comparison while another is filling the file. -/
def ComparesAlone (s : Writers ι) (action : ι × Option Fault) : Prop :=
  s.stage action.1 = .readToEnd →
    ((writes action.1).next action.2 s.tree .readToEnd).2 = .setLen →
      ∀ j, j ≠ action.1 → ¬ (s.stage j).Filling

/-- The file is open, and the content that is to be written not yet there. -/
def Stage.Opened : Stage → Prop
  | .fileMetadata | .seek | .readToEnd | .setLen | .rewind | .writeAll => True
  | _ => False

theorem Stage.Filling.opened {stage : Stage} (h : stage.Filling) : stage.Opened := by
  cases stage <;> trivial

/-- The file holds the new content. -/
def Stage.Filled : Stage → Prop
  | .syncAll | .writtenMetadata | .done (.ok _) => True
  | _ => False

/-- What a step of a write that expects a content can do. -/
inductive StepCase (write : Write) (tree : Tree) : Stage → Tree × Stage → Prop where
  | refused (stage : Stage) (e : WorkspaceInspectError) :
      StepCase write tree stage (tree, .done (.error e))
  | opened (content : Bytes) (hfile : tree.find write.target = some (.file content)) :
      StepCase write tree .openFile (tree, .fileMetadata)
  /-- On the way to the comparison. -/
  | ahead (stage next : Stage) (hopened : stage.Opened) (hnext : next = .seek ∨ next = .readToEnd) :
      StepCase write tree stage (tree, next)
  | compared (hpasses : write.compare (write.held tree) = .setLen) :
      StepCase write tree .readToEnd (tree, .setLen)
  | emptied : StepCase write tree .setLen (tree.writeFile write.target [], .rewind)
  | rewound : StepCase write tree .rewind (tree, .writeAll)
  | cut (bytes : Bytes) (e : WorkspaceInspectError) : StepCase write tree .writeAll
      (tree.writeFile write.target bytes, .done (.error e))
  | filled : StepCase write tree .writeAll
      (tree.writeFile write.target (overlay (textBytes write.content) (write.held tree)), .syncAll)
  | kept (stage next : Stage) (hstage : stage.Filled) (hnext : next.Filled) :
      StepCase write tree stage (tree, next)

theorem stepCase_next {write : Write} (hexpected : write.expectedContent ≠ none)
    (fault : Option Fault) (tree : Tree) {stage : Stage} (hstage : stage ≠ .createNew)
    (hdone : ∀ result, stage ≠ .done result) :
    StepCase write tree stage (write.next fault tree stage) := by
  have hfailed (stage : Stage) (code message : String) :
      StepCase write tree stage (tree, failed code message) := .refused stage _
  cases stage with
  | done result => exact absurd rfl (hdone result)
  | createNew => exact absurd rfl hstage
  | openFile =>
    change StepCase write tree .openFile (tree, write.openFile tree fault)
    unfold Write.openFile
    rw [if_neg hexpected]
    split
    · exact hfailed _ _ _
    · split
      · next content hfile => exact .opened content hfile
      · exact hfailed _ _ _
      · exact hfailed _ _ _
      · exact hfailed _ _ _
  | fileMetadata =>
    rw [Write.next.eq_def]
    dsimp only
    split
    · exact hfailed _ _ _
    · split
      · exact hfailed _ _ _
      · exact .ahead _ _ trivial (Or.inl rfl)
  | seek =>
    cases fault with
    | some fault => exact hfailed _ _ _
    | none => exact .ahead _ _ trivial (Or.inr rfl)
  | readToEnd =>
    cases fault with
    | some fault => exact hfailed _ _ _
    | none =>
      change StepCase write tree .readToEnd (tree, write.compare (write.held tree))
      rcases compare_cases write (write.held tree) with h | ⟨e, h⟩
      · rw [h]
        exact .compared h
      · rw [h]
        exact .refused _ e
  | setLen =>
    cases fault with
    | some fault => exact hfailed _ _ _
    | none => exact .emptied
  | rewind =>
    cases fault with
    | some fault => exact hfailed _ _ _
    | none => exact .rewound
  | writeAll =>
    cases fault with
    | some fault => exact .cut _ _
    | none => exact .filled
  | syncAll =>
    cases fault with
    | some fault => exact hfailed _ _ _
    | none => exact .kept _ _ trivial trivial
  | writtenMetadata =>
    cases fault with
    | some fault => exact hfailed _ _ _
    | none => exact .kept _ _ trivial trivial

/-- The writes are of one file, and all expect the same content and would put another there. -/
structure Rivals (target : Segments) (expected : String) : Prop where
  sameTarget : ∀ i, (writes i).target = target
  expects : ∀ i, (writes i).expectedContent = some expected
  differs : ∀ i, (writes i).content ≠ expected

/-- One write fills the file at a time, and when one has filled it no other is filling it. -/
structure Serial (target : Segments) (s : Writers ι) : Prop where
  alone : ∀ i j, (s.stage i).Filling → (s.stage j).Filling → i = j
  file : ∀ i, (s.stage i).Opened → ∃ content, s.tree.find target = some (.file content)
  emptied : ∀ i, s.stage i = .rewind ∨ s.stage i = .writeAll →
    s.tree.find target = some (.file [])
  filled : ∀ i, (s.stage i).Filled →
    s.tree.find target = some (.file (textBytes (writes i).content)) ∧
      (∀ j, ¬ (s.stage j).Filling) ∧ ∀ j, (s.stage j).Filled → j = i
  no_create : ∀ i, s.stage i ≠ .createNew

theorem serial_start (target : Segments) (tree : Tree) :
    Serial writes target (start tree : Writers ι) where
  alone _ _ h := h.elim
  file _ h := h.elim
  emptied _ h := by rcases h with h | h <;> cases h
  filled _ h := h.elim
  no_create _ := nofun

theorem textBytes_injective {text other : String} (h : textBytes text = textBytes other) :
    text = other := by
  have hdata : text.toByteArray.data = other.toByteArray.data := Array.toList_inj.mp h
  have hbytes : text.toByteArray = other.toByteArray := ByteArray.ext hdata
  exact String.toByteArray_inj.mp hbytes

variable {writes}

/-- What a step is, when it can be taken. -/
theorem stepOf_eq_some [DecidableEq ι] {s t : Writers ι} {action : ι × Option Fault}
    (h : stepOf writes s action = some t) :
    (∀ result, s.stage action.1 ≠ .done result) ∧
      t = ⟨((writes action.1).next action.2 s.tree (s.stage action.1)).1,
        Function.update s.stage action.1
          ((writes action.1).next action.2 s.tree (s.stage action.1)).2⟩ := by
  unfold stepOf at h
  split at h
  · cases h
  · next hdone =>
    cases h
    exact ⟨fun result hresult => hdone result hresult, rfl⟩

theorem held_of_find {tree : Tree} {content : Bytes}
    (h : tree.find write.target = some (.file content)) : write.held tree = content := by
  rw [Write.held, h]

/-- A stage after a step is the new one of the write, or an old one of another. -/
theorem of_update [DecidableEq ι] {P : Stage → Prop} {stage : ι → Stage} {i j : ι} {next : Stage}
    (h : P (Function.update stage i next j)) : j = i ∧ P next ∨ j ≠ i ∧ P (stage j) := by
  by_cases hj : j = i
  · subst hj
    rw [Function.update_self] at h
    exact Or.inl ⟨rfl, h⟩
  · rw [Function.update_of_ne hj] at h
    exact Or.inr ⟨hj, h⟩

/-- While one write fills the file, no other does and none has filled it. -/
theorem Serial.others {target : Segments} {s : Writers ι} (h : Serial writes target s) {i : ι}
    (hi : (s.stage i).Filling) :
    (∀ j, j ≠ i → ¬ (s.stage j).Filling) ∧ ∀ j, ¬ (s.stage j).Filled :=
  ⟨fun j hne hj => hne (h.alone j i hj hi), fun j hj => (h.filled j hj).2.1 i hi⟩

/-- The one write that stands behind its comparison takes a step: the file is there, empty before
    the write fills it and with its content behind that. -/
theorem serial_only [DecidableEq ι] {target : Segments} {s : Writers ι} {i : ι} {next : Stage}
    {tree : Tree} {bytes : Bytes} (hothers : ∀ j, j ≠ i → ¬ (s.stage j).Filling)
    (hnone : ∀ j, j ≠ i → ¬ (s.stage j).Filled) (hcreate : ∀ j, s.stage j ≠ .createNew)
    (hnext : next ≠ .createNew) (hfile : tree.find target = some (.file bytes))
    (hempty : next = .rewind ∨ next = .writeAll → bytes = [])
    (hfilled : next.Filled → bytes = textBytes (writes i).content ∧ ¬ next.Filling) :
    Serial writes target ⟨tree, Function.update s.stage i next⟩ where
  alone := by
    intro j k hj hk
    rcases of_update hj with ⟨rfl, -⟩ | ⟨hne, hj⟩
    · rcases of_update hk with ⟨rfl, -⟩ | ⟨hne, hk⟩
      · rfl
      · exact absurd hk (hothers k hne)
    · exact absurd hj (hothers j hne)
  file _ _ := ⟨bytes, hfile⟩
  emptied := by
    intro j hj
    rcases of_update (P := fun stage => stage = .rewind ∨ stage = .writeAll) hj with
      ⟨-, hj⟩ | ⟨hne, hj⟩
    · rw [hfile, hempty hj]
    · refine absurd ?_ (hothers j hne)
      rcases hj with hj | hj <;> rw [hj] <;> trivial
  filled := by
    intro j hj
    rcases of_update (P := Stage.Filled) hj with ⟨rfl, hreached⟩ | ⟨hne, hj⟩
    · obtain ⟨hbytes, hnot⟩ := hfilled hreached
      refine ⟨by rw [hfile, hbytes], fun k hk => ?_, fun k hk => ?_⟩
      · rcases of_update hk with ⟨-, hk⟩ | ⟨hne, hk⟩
        · exact hnot hk
        · exact hothers k hne hk
      · rcases of_update hk with ⟨rfl, -⟩ | ⟨hne, hk⟩
        · rfl
        · exact absurd hk (hnone k hne)
    · exact absurd hj (hnone j hne)
  no_create := by
    intro j hj
    rcases of_update (P := fun stage => stage = .createNew) hj with ⟨-, hj⟩ | ⟨-, hj⟩
    · exact hnext hj
    · exact hcreate j hj

/-- A step that neither comes behind the comparison nor stands there changes nothing of it. -/
theorem serial_before [DecidableEq ι] {target : Segments} {s : Writers ι} {i : ι} {next : Stage}
    (h : Serial writes target s) (hfilling : ¬ next.Filling) (hfilled : ¬ next.Filled)
    (hnext : next ≠ .createNew)
    (hfile : next.Opened → ∃ content, s.tree.find target = some (.file content)) :
    Serial writes target ⟨s.tree, Function.update s.stage i next⟩ := by
  have hold {P : Stage → Prop} (hP : ¬ P next) {j : ι}
      (hj : P (Function.update s.stage i next j)) : P (s.stage j) := by
    rcases of_update hj with ⟨-, hj⟩ | ⟨-, hj⟩
    · exact absurd hj hP
    · exact hj
  refine ⟨fun j k hj hk => h.alone j k (hold hfilling hj) (hold hfilling hk), fun j hj => ?_,
    fun j hj => ?_, fun j hj => ?_, fun j hj => ?_⟩
  · rcases of_update hj with ⟨-, hj⟩ | ⟨-, hj⟩
    · exact hfile hj
    · exact h.file j hj
  · refine h.emptied j (hold (P := fun stage => stage = .rewind ∨ stage = .writeAll) ?_ hj)
    rintro (rfl | rfl)
    · exact hfilling trivial
    · exact hfilling trivial
  · obtain ⟨hcontent, hnone, honly⟩ := h.filled j (hold hfilled hj)
    exact ⟨hcontent, fun k hk => hnone k (hold hfilling hk), fun k hk => honly k (hold hfilled hk)⟩
  · exact h.no_create j (hold (P := fun stage => stage = .createNew) hnext hj)

/-- **A step of a write keeps the writes in turn**, if it does not pass its comparison while
    another write is filling the file. -/
theorem serial_step [DecidableEq ι] {target : Segments} {expected : String}
    (hrivals : Rivals writes target expected) {s t : Writers ι} {action : ι × Option Fault}
    (h : Serial writes target s) (halone : ComparesAlone writes s action)
    (hstep : stepOf writes s action = some t) : Serial writes target t := by
  obtain ⟨i, fault⟩ := action
  obtain ⟨hdone, rfl⟩ := stepOf_eq_some hstep
  have hexpects : (writes i).expectedContent ≠ none := by rw [hrivals.expects i]; nofun
  have hcase := stepCase_next hexpects fault s.tree (h.no_create i) hdone
  have htarget := hrivals.sameTarget i
  unfold ComparesAlone at halone
  dsimp only at halone ⊢
  generalize hreached : (writes i).next fault s.tree (s.stage i) = reached at hcase
  generalize hstage : s.stage i = stage at hcase hreached
  cases hcase with
  | refused _ e => exact serial_before h id id nofun fun hopened => hopened.elim
  | opened content hfile =>
    rw [htarget] at hfile
    exact serial_before h id id nofun fun _ => ⟨content, hfile⟩
  | ahead _ next hopened hnext =>
    rw [← hstage] at hopened
    have hfile := h.file i hopened
    rcases hnext with rfl | rfl
    · exact serial_before h id id nofun fun _ => hfile
    · exact serial_before h id id nofun fun _ => hfile
  | compared hpasses =>
    have hothers := halone hstage (by rw [hreached])
    obtain ⟨content, hfile⟩ := h.file i (by rw [hstage]; trivial)
    have hheld : (writes i).held s.tree = content := held_of_find (by rw [htarget, hfile])
    rw [hheld] at hpasses
    have hcontent : textBytes expected = content :=
      expected_of_compare hpasses (hrivals.expects i)
    refine serial_only hothers (fun j _ hj => ?_) h.no_create nofun hfile
      (by rintro (h | h) <;> cases h) fun hfilled => hfilled.elim
    have hother := (h.filled j hj).1
    rw [hfile, ← hcontent] at hother
    have hsame : textBytes expected = textBytes (writes j).content := by
      simpa using hother
    exact hrivals.differs j (textBytes_injective hsame).symm
  | emptied =>
    have hfilling : (s.stage i).Filling := by rw [hstage]; trivial
    obtain ⟨hothers, hnone⟩ := h.others hfilling
    obtain ⟨content, hfile⟩ := h.file i hfilling.opened
    refine serial_only hothers (fun j _ => hnone j) h.no_create nofun ?_ (fun _ => rfl)
      fun hfilled => hfilled.elim
    rw [htarget, FileTree.find_writeFile (takesFile_of_file hfile), if_pos rfl]
  | rewound =>
    have hfilling : (s.stage i).Filling := by rw [hstage]; trivial
    obtain ⟨hothers, hnone⟩ := h.others hfilling
    exact serial_only hothers (fun j _ => hnone j) h.no_create nofun (h.emptied i (Or.inl hstage))
      (fun _ => rfl) fun hfilled => hfilled.elim
  | cut bytes e =>
    have hfilling : (s.stage i).Filling := by rw [hstage]; trivial
    obtain ⟨hothers, hnone⟩ := h.others hfilling
    obtain ⟨content, hfile⟩ := h.file i hfilling.opened
    have hleft : (s.tree.writeFile (writes i).target bytes).find target = some (.file bytes) := by
      rw [htarget, FileTree.find_writeFile (takesFile_of_file hfile), if_pos rfl]
    exact serial_only hothers (fun j _ => hnone j) h.no_create nofun hleft
      (by rintro (h | h) <;> cases h) fun hfilled => hfilled.elim
  | filled =>
    have hfilling : (s.stage i).Filling := by rw [hstage]; trivial
    obtain ⟨hothers, hnone⟩ := h.others hfilling
    have hfile := h.emptied i (Or.inr hstage)
    have hheld : (writes i).held s.tree = [] := held_of_find (by rw [htarget, hfile])
    refine serial_only hothers (fun j _ => hnone j) h.no_create nofun ?_
      (by rintro (h | h) <;> cases h) fun _ => ⟨rfl, id⟩
    rw [hheld, overlay_nil, htarget, FileTree.find_writeFile (takesFile_of_file hfile), if_pos rfl]
  | kept _ next hkept hnext =>
    rw [← hstage] at hkept
    obtain ⟨hfile, hnone, honly⟩ := h.filled i hkept
    refine serial_only (fun j _ => hnone j) (fun j hne hj => hne (honly j hj)) h.no_create ?_ hfile
      ?_ fun _ => ⟨rfl, ?_⟩
    · rintro rfl
      exact hnext
    · rintro (rfl | rfl)
      · exact hnext.elim
      · exact hnext.elim
    · intro hfilling
      cases next <;> trivial

/-- **When no write passes its comparison while another is filling the file, at most one of them
    succeeds**, in every state of every run. -/
theorem atMostOne_run [DecidableEq ι] {target : Segments} {expected : String}
    (hrivals : Rivals writes target expected) (tree : Tree) {actions : List (ι × Option Fault)}
    (halone : Meets (stepOf writes) (ComparesAlone writes) (start tree) actions) :
    Throughout (stepOf writes) AtMostOne (start tree) actions := by
  intro before rest t hsplit hrun
  subst hsplit
  have hserial : Serial writes target t :=
    Lib.run_inv_of_meets (Serial writes target)
      (fun s action t h hC hstep => serial_step hrivals h hC hstep)
      (serial_start writes target tree) halone.append_left hrun
  intro i j hi hj
  exact (hserial.filled j (by rw [hj]; trivial)).2.2 i (by rw [hi]; trivial)

end Interleaved

/-! ## 4. The promise of a write -/

/-- **A write is all or nothing exactly when no step fails behind its first change, or leaves the
    old content there; and of several writes that expect the same at most one succeeds in every
    run in which none passes its comparison while another is filling the file.** -/
theorem write_promise (tree : Tree) :
    (∀ prepared faults, AllOrNothing prepared tree (writeWorkspaceFile prepared faults tree) ↔
      FailsSafely prepared faults tree) ∧
    ∀ {ι : Type} [DecidableEq ι] {writes : ι → Write} {target : Segments} {expected : String},
      Rivals writes target expected → ∀ {actions : List (ι × Option Fault)},
        Meets (stepOf writes) (ComparesAlone writes) (start tree) actions →
          Throughout (stepOf writes) AtMostOne (start tree) actions :=
  ⟨fun prepared faults => allOrNothing_iff prepared faults tree,
    fun hrivals _ halone => atMostOne_run hrivals tree halone⟩

def savedTree : Tree where
  entries := ⟨[⟨[], .directory⟩, ⟨["f"], .file [97]⟩], by
    change List.Nodup [[], ["f"]]
    decide⟩
  root := rfl
  parents := by decide

def savedWrite (content : String) : Write := ⟨["f"], ["f"], content, some "a"⟩

def rivalWrites (first : Bool) : Write := savedWrite (if first then "b" else "c")

/-- One write after the other; the second finds the content of the first. -/
def inTurn : List (Bool × Option Fault) :=
  List.replicate 9 (true, none) ++ List.replicate 4 (false, none)

def isFilling : Stage → Bool
  | .setLen | .rewind | .writeAll => true
  | _ => false

theorem inTurn_alone :
    Meets (stepOf rivalWrites) (ComparesAlone rivalWrites) (start savedTree) inTurn := by
  refine Lib.meets_of_check (c := fun s action => !isFilling (s.stage (!action.1))) (fun _ => True)
    (fun _ _ _ _ _ => trivial) (fun s action _ hfree _ _ j hj hfilling => ?_) trivial rfl
  obtain rfl : j = !action.1 := by
    cases j <;> cases hact : action.1 <;> simp_all
  generalize s.stage (!action.1) = stage at hfree hfilling
  cases stage <;> first | exact hfilling.elim | cases hfree

theorem saved_rivals : Rivals rivalWrites ["f"] "a" where
  sameTarget _ := rfl
  expects _ := rfl
  differs first := by cases first <;> decide

theorem saved_failsSafely : FailsSafely (.ok (savedWrite "b")) (fun _ => none) savedTree :=
  fun _ _ => ⟨fun _ _ _ hremains => (hremains.fails fun _ _ => rfl).elim, fun _ _ _ => rfl⟩

theorem saved_holds :
    AllOrNothing (.ok (savedWrite "b")) savedTree
        (writeWorkspaceFile (.ok (savedWrite "b")) (fun _ => none) savedTree) ∧
      Throughout (stepOf rivalWrites) AtMostOne (start savedTree) inTurn := by
  exact ⟨((write_promise savedTree).1 _ _).mpr saved_failsSafely,
    (write_promise savedTree).2 saved_rivals inTurn_alone⟩

/-- The disk is full. -/
def fullDisk : Stage → Option Fault
  | .writeAll => some ⟨"No space left on device (os error 28)", 0⟩
  | _ => none

/-- Both writes compare, then both fill the file. -/
def overlapping : List (Bool × Option Fault) :=
  List.replicate 4 (true, none) ++ List.replicate 9 (false, none) ++ List.replicate 5 (true, none)

/-- A write that fails leaves the file empty, and two writes that overlap both succeed. -/
theorem write_promise_fails :
    ¬ AllOrNothing (.ok (savedWrite "b")) savedTree
        (writeWorkspaceFile (.ok (savedWrite "b")) fullDisk savedTree) ∧
      ¬ Throughout (stepOf rivalWrites) AtMostOne (start savedTree) overlapping := by
  constructor
  · intro h
    have hunchanged : ∀ path, (writeWorkspaceFile (.ok (savedWrite "b")) fullDisk
        savedTree).1.find path = savedTree.find path := h
    exact absurd (hunchanged ["f"]) (by decide)
  · intro h
    have hboth : (run (stepOf rivalWrites) (start savedTree) overlapping).map
        (fun s => (s.stage true, s.stage false)) = some (.done (.ok ()), .done (.ok ())) := rfl
    obtain ⟨s, hrun, hstages⟩ := Option.map_eq_some_iff.mp hboth
    obtain ⟨hfirst, hsecond⟩ := Prod.mk.inj hstages
    have hsame := h overlapping [] s (List.append_nil _).symm hrun true false hfirst hsecond
    cases hsame

end Uprava.Node.FileWrites
