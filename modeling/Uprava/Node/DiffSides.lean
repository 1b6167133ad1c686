/-
  File:      Uprava/Node/DiffSides.lean
  Subject:   The two contents that the Node shows beside a diff, against the sides of the diff.

  A repository has three sides: HEAD, the index, whose entries may be in conflict, and the work
  tree. A diff has two of them, and a renamed file has another path on the left one. The Node
  asks git for one path of HEAD or of the index, always from the repository's root: the path
  of the command, or the previous path of the record that it finds under it, in every scope.

    readWorkspaceDiffFile_host   what is read of the work tree
    sidesShown_iff               when both contents are those of the sides
    leftFound_of_plain           where the path that is asked for is the file's own
-/
import Uprava.Node.Containment
import Uprava.Node.GitStatus

namespace Uprava.Node

open Uprava.Protocol
open Uprava.Lib (FileTree)

/-! ## 1. The repository -/

/-- A path in the index: one content, or those of a merge that is not finished. -/
inductive IndexEntry where
  | merged (text : String)
  | unmerged (stages : List String)

/-- Contents are the texts that git prints of them. -/
structure Repository where
  /-- Without a commit there is none. -/
  head : String → Option String
  index : String → Option IndexEntry
  records : List GitRecord
  /-- The workspace, from the root of the repository. -/
  below : Segments

inductive DiffSide where
  | head | index
deriving DecidableEq

namespace Repository

variable (repo : Repository)

def mergedText (path : String) : Option String :=
  match repo.index path with
  | some (.merged text) => some text
  | _ => none

/-- The contents that a path has on a side; more than one in a conflict. -/
def texts (side : DiffSide) (path : String) : List String :=
  match side with
  | .head => (repo.head path).toList
  | .index =>
    match repo.index path with
    | some (.merged text) => [text]
    | some (.unmerged stages) => stages
    | none => []

/-- The content of a path that is not in conflict. -/
def sideText (side : DiffSide) (path : String) : Option String :=
  match side with
  | .head => repo.head path
  | .index => repo.mergedText path

/-- The path is in conflict in the index. -/
def InConflict (side : DiffSide) (path : String) : Prop :=
  side = .index ∧ ∃ stages, repo.index path = some (.unmerged stages)

/-- The side has nothing at the path, or an empty content. -/
def Blank (side : DiffSide) (path : String) : Prop :=
  repo.texts side path = [] ∨ "" ∈ repo.texts side path

/-- The path of a file of the workspace. -/
def pathOf (relative : Segments) : String := relativePathString (repo.below ++ relative)

/-- What git says of a path. -/
def record (path : String) : Option GitChangedFile :=
  (repo.records.filterMap GitRecord.change?).find? (·.path == path)

/-- Where the file of the work tree has its content in the index. -/
def indexName (path : String) : String :=
  match repo.record path with
  | some change =>
    if change.worktreeStatus = some .renamed then change.previousPath.getD path else path
  | none => path

/-- Where the file of the index has its content in HEAD. -/
def headName (path : String) : String :=
  match repo.record path with
  | some change =>
    if change.indexStatus = some .renamed then change.previousPath.getD path else path
  | none => path

end Repository

namespace WorkspaceDiffScope

/-- The left side of the diff that `workspaceDiffArgs` asks for. -/
def left : WorkspaceDiffScope → DiffSide
  | .all | .staged => .head
  | .unstaged => .index

/-- The path that a file has on the left side. -/
def leftName (repo : Repository) (path : String) : WorkspaceDiffScope → String
  | .all => repo.headName (repo.indexName path)
  | .staged => repo.headName path
  | .unstaged => repo.indexName path

end WorkspaceDiffScope

/-- A content is shown: one that the side has, and the empty text where it has none. -/
def Shows (texts : List String) (shown : String) : Prop :=
  if texts = [] then shown = "" else shown ∈ texts

/-- A command prints a content, or fails where there is none. -/
structure Prints (output : WorkspaceProcessOutput) (content : Option String) : Prop where
  success : output.success = content.isSome
  stdout : ∀ text ∈ content, output.stdout = text

/-- `git show` prints what HEAD has and what the index has outside of conflicts, of paths from
    the root of the repository. -/
structure GitShows (git : Git) (root : Segments) (repo : Repository) : Prop where
  head : ∀ path, Prints
    (git.run root ["show", "--no-textconv", "HEAD:" ++ path] maxWorkspaceTextBytes 4096)
    (repo.head path)
  index : ∀ path, Prints
    (git.run root ["show", "--no-textconv", ":" ++ path] maxWorkspaceTextBytes 4096)
    (repo.mergedText path)

/-! ## 2. The work tree -/

namespace Host

/-- The text of a file of the work tree. -/
def workText (host : Host) (path : Segments) : Option String :=
  match host.tree.find path with
  | some (.file ⟨.text content, _⟩) => some content
  | _ => none

/-- A path of the workspace, in a work tree without links that is read without failure: what
    stands there, if it is a file, is a text within the limit. -/
structure TextPath (host : Host) (root relative : Segments) : Prop where
  directory : host.tree.find root = some .directory
  plain : Plain relative
  no_fault : ∀ call path, host.fault call path = none
  no_link : ∀ walked target, walked <+: relative →
    host.tree.find (root ++ walked) ≠ some (.symlink target)
  text : ∀ file, host.tree.find (root ++ relative) = some (.file file) →
    ∃ content, file.bytes = .text content ∧ file.bytes.hasNul = false ∧
      file.len ≤ maxWorkspaceTextBytes

/-- There is a file where the path has a folder. -/
def Blocked (host : Host) (root relative : Segments) : Prop :=
  ∃ walked name rest file, relative = walked ++ name :: rest ∧
    host.tree.find (root ++ walked) = some (.file file)

end Host

/-! ## 3. What is read of the work tree -/

open Host

variable {host : Host}

/-- How a walk that nothing hinders ends: at the path, at a name that is missing, or at a file
    where the path needs a folder. -/
inductive Walked (host : Host) (path rest : Segments) :
    Except WorkspaceInspectError Segments → Prop where
  | arrived (h : host.tree.Real (path ++ rest)) : Walked host path rest (.ok (path ++ rest))
  | missing (e : WorkspaceInspectError) (h : host.tree.find (path ++ rest) = none)
      (hblocked : ¬ host.Blocked path rest) (he : e.1 = "workspace.path_missing") :
      Walked host path rest (.error e)
  | blocked (e : WorkspaceInspectError) (h : host.Blocked path rest)
      (he : e.1 ≠ "workspace.path_missing") : Walked host path rest (.error e)

theorem not_blocked_nil (path : Segments) : ¬ host.Blocked path [] := by
  rintro ⟨walked, name, rest, file, hsplit, -⟩
  simp at hsplit

/-- From a folder, what blocks the rest of a path blocks the path. -/
theorem blocked_cons_iff {path rest : Segments} {name : String}
    (hdir : host.tree.find path = some .directory) :
    host.Blocked path (name :: rest) ↔ host.Blocked (path ++ [name]) rest := by
  constructor
  · rintro ⟨walked, next, tail, file, hsplit, hfile⟩
    cases walked with
    | nil =>
      rw [List.append_nil, hdir] at hfile
      cases hfile
    | cons first walked =>
      obtain ⟨rfl, hrest⟩ := List.cons.inj hsplit
      refine ⟨walked, next, tail, file, hrest, ?_⟩
      rwa [List.append_assoc, List.singleton_append]
  · rintro ⟨walked, next, tail, file, hsplit, hfile⟩
    refine ⟨name :: walked, next, tail, file, by rw [hsplit, List.cons_append], ?_⟩
    rwa [List.append_assoc, List.singleton_append] at hfile

/-- Below a name that is missing there is nothing. -/
theorem find_below_missing {path : Segments} (h : host.tree.find path = none) (rest : Segments) :
    host.tree.find (path ++ rest) = none := by
  by_cases hrest : rest = []
  · rwa [hrest, List.append_nil]
  · cases hfind : host.tree.find (path ++ rest) with
    | none => rfl
    | some entry =>
      rw [FileTree.find_prefix hfind hrest] at h
      cases h

theorem not_blocked_of_missing {path : Segments} (h : host.tree.find path = none)
    (rest : Segments) : ¬ host.Blocked path rest := by
  rintro ⟨walked, name, tail, file, -, hfile⟩
  rw [find_below_missing h walked] at hfile
  cases hfile

theorem walked_resolveSegments {root relative path rest : Segments} (hroot : root <+: path)
    (hreal : host.tree.Real path) (hplain : Plain rest)
    (hfault : ∀ call path, host.fault call path = none)
    (hlink : ∀ walked target, walked <+: rest →
      host.tree.find (path ++ walked) ≠ some (.symlink target)) :
    Walked host path rest (resolveSegments host.files root relative path rest) := by
  induction rest generalizing path with
  | nil =>
    have hend : host.tree.Real (path ++ []) := by rwa [List.append_nil]
    have hwalked : Walked host path [] (.ok (path ++ [])) := Walked.arrived hend
    rwa [List.append_nil] at hwalked
  | cons name rest ih =>
    have hname : Plain [name] := plain_of_isPrefix hplain ⟨rest, rfl⟩
    have hsteps := steps_of_plain (plain_append (plain_of_real hreal) hname)
    unfold resolveSegments
    dsimp only
    rcases hreal with hdir | ⟨file, hfile⟩
    · cases hfind : host.tree.find (path ++ [name]) with
      | none =>
        have hmeta : host.files.symlinkMetadata (path ++ [name]) = .error (ioError .missing) := by
          rw [symlinkMetadata_eq, reach, hfault]
          dsimp only
          rw [hsteps, FileTree.resolve_missing false host.linkLimit [] hdir hfind]
          rfl
        rw [hmeta]
        have hassoc : path ++ name :: rest = path ++ [name] ++ rest := by simp
        refine Walked.missing _ ?_ ?_ rfl
        · rw [hassoc]
          exact find_below_missing hfind rest
        · rw [blocked_cons_iff hdir]
          exact not_blocked_of_missing hfind rest
      | some entry =>
        have hnolink : ¬ ∃ target, entry = .symlink target := by
          rintro ⟨target, rfl⟩
          exact hlink [name] target ⟨rest, rfl⟩ hfind
        have hnext : host.tree.Real (path ++ [name]) := real_of_find hfind hnolink
        have hbelow : root <+: path ++ [name] := hroot.trans (List.prefix_append _ _)
        rw [symlinkMetadata_of_find hfind (hfault _ _)]
        dsimp only
        rw [if_neg (fun hs => hnolink ((metadataAt_symlink hfind).mp hs)), canonicalize_eq,
          reach_of_real hnext (hfault _ _)]
        dsimp only
        rw [if_pos (List.isPrefixOf_iff_prefix.mpr hbelow)]
        have hrest : Walked host (path ++ [name]) rest _ :=
          ih hbelow hnext (fun segment hmem => hplain segment (List.mem_cons_of_mem _ hmem))
            fun walked target hwalked => by
              rw [List.append_assoc, List.singleton_append]
              exact hlink (name :: walked) target ((List.prefix_cons_inj name).mpr hwalked)
        have hassoc : path ++ [name] ++ rest = path ++ name :: rest := by simp
        generalize resolveSegments host.files root relative (path ++ [name]) rest = out at hrest ⊢
        cases hrest with
        | arrived h =>
          rw [hassoc] at h ⊢
          exact Walked.arrived h
        | missing e h hblocked he =>
          rw [hassoc] at h
          exact Walked.missing e h (fun hb => hblocked ((blocked_cons_iff hdir).mp hb)) he
        | blocked e h he => exact Walked.blocked e ((blocked_cons_iff hdir).mpr h) he
    · have hmeta : host.files.symlinkMetadata (path ++ [name]) =
          .error (ioError .notDirectory) := by
        rw [symlinkMetadata_eq, reach, hfault]
        dsimp only
        rw [hsteps, FileTree.resolve_notDirectory false host.linkLimit hfile]
        rfl
      rw [hmeta]
      refine Walked.blocked _ ⟨[], name, rest, file, rfl, ?_⟩ ?_
      · rwa [List.append_nil]
      · simp [ioError]

/-- **What the Node reads of the work tree**: the text of the file that stands at the path, and
    nothing where none does; but it fails where a file stands in the place of a folder. -/
theorem readWorkspaceDiffFile_host {root relative : Segments} (h : host.TextPath root relative) :
    (¬ host.Blocked root relative ∧ Node.readWorkspaceDiffFile host.files root relative =
      .ok (host.workText (root ++ relative))) ∨
    (host.Blocked root relative ∧
      ∃ e, Node.readWorkspaceDiffFile host.files root relative = .error e) := by
  have hwalked : Walked host root relative
      (resolveExistingWorkspacePath host.files root relative) :=
    walked_resolveSegments List.prefix_rfl (Or.inl h.directory) h.plain h.no_fault h.no_link
  unfold Node.readWorkspaceDiffFile
  generalize resolveExistingWorkspacePath host.files root relative = out at hwalked ⊢
  cases hwalked with
  | arrived hreal =>
    have hnot : ¬ host.Blocked root relative := by
      rintro ⟨walked, name, rest, file, rfl, hfile⟩
      have hdir : host.tree.find (root ++ walked) = some .directory := by
        rw [← List.append_assoc] at hreal
        rcases hreal with hreal | ⟨_, hreal⟩ <;> exact FileTree.find_prefix hreal (by simp)
      rw [hdir] at hfile
      cases hfile
    have hmeta : host.files.metadata (root ++ relative) =
        .ok (host.metadataAt .metadata (root ++ relative)) := by
      rw [metadata_eq, reach_of_real hreal (h.no_fault _ _)]
      rfl
    refine Or.inl ⟨hnot, ?_⟩
    dsimp only
    rw [hmeta]
    dsimp only
    rcases hreal with hdir | ⟨file, hfile⟩
    · have hkind : (host.metadataAt .metadata (root ++ relative)).kind = .directory := by
        rw [metadataAt, hdir]
      rw [if_pos (Or.inl (by rw [hkind]; decide)), workText, hdir]
    · obtain ⟨content, hbytes, hnul, hlen⟩ := h.text file hfile
      have hentry : host.metadataAt .metadata (root ++ relative) =
          ⟨.file, file.len, host.modifiedAt .metadata (root ++ relative)⟩ := by
        rw [metadataAt, hfile]
      have hread : host.files.read (root ++ relative) = .ok file.bytes := by
        change host.reach .read true (root ++ relative) >>= host.readAt = _
        rw [reach_of_real (Or.inr ⟨file, hfile⟩) (h.no_fault _ _)]
        change host.readAt (root ++ relative) = _
        rw [readAt, hfile]
      have hskip : ¬ ((⟨.file, file.len, host.modifiedAt .metadata (root ++ relative)⟩ :
          Metadata).kind ≠ .file ∨ maxWorkspaceTextBytes < file.len) := by
        rintro (hk | hl)
        · exact hk rfl
        · omega
      rw [hentry, if_neg hskip, hread]
      dsimp only
      rw [hnul, hbytes, workText, hfile]
      obtain ⟨bytes, len⟩ := file
      obtain rfl : bytes = .text content := hbytes
      rfl
  | missing e hnone hblocked he =>
    refine Or.inl ⟨hblocked, ?_⟩
    dsimp only
    rw [if_pos he, workText, hnone]
  | blocked e hblocked he =>
    refine Or.inr ⟨hblocked, e, ?_⟩
    dsimp only
    rw [if_neg he]

/-! ## 4. What git is asked for -/

namespace Repository

variable (repo : Repository)

/-- The changes that the Node lists: the records as it reads them, up to its limit. -/
def listed : List GitChangedFile :=
  (repo.records.filterMap GitRecord.read?).take maxGitChangedFiles

/-- The path that is asked for on the left side, of a path of the workspace; none where the first
    record under it is untracked. -/
def askedName (path : String) : Option String :=
  match repo.listed.find? (·.path == path) with
  | some change =>
    if change.worktreeStatus = some .untracked then none
    else some (change.previousPath.getD path)
  | none => some path

/-- What stands on a side at the path that is asked for. -/
def askedText (side : DiffSide) (path : String) : String :=
  ((repo.askedName path).bind (repo.sideText side)).getD ""

end Repository

theorem gitShowText_of_prints {git : Git} {root : Segments} {spec : String}
    {content : Option String}
    (h : Prints (git.run root ["show", "--no-textconv", spec] maxWorkspaceTextBytes 4096) content) :
    gitShowText git root spec = content := by
  unfold gitShowText
  dsimp only
  rw [h.success]
  cases content with
  | none => rfl
  | some text => rw [h.stdout text rfl]; rfl

/-- What `git show` gives for a path of a side, the empty text where it fails. -/
theorem gitShowText_side {git : Git} {root : Segments} {repo : Repository}
    (h : GitShows git root repo) (scope : WorkspaceDiffScope) (path : String) :
    (gitShowText git root ((if scope = .unstaged then ":" else "HEAD:") ++ path)).getD "" =
      (repo.sideText scope.left path).getD "" := by
  cases scope with
  | unstaged => rw [if_pos rfl, gitShowText_of_prints (h.index path)]; rfl
  | all => rw [if_neg (by decide), gitShowText_of_prints (h.head path)]; rfl
  | staged => rw [if_neg (by decide), gitShowText_of_prints (h.head path)]; rfl

/-- The content that is returned for the left side. -/
theorem original_eq {git : Git} {root : Segments} {repo : Repository}
    (h : GitShows git root repo) (scope : WorkspaceDiffScope) (path : String) :
    (if (repo.listed.find? (·.path == path)).any (fun c => c.worktreeStatus == some .untracked)
      then some ""
      else gitShowText git root ((if scope = .unstaged then ":" else "HEAD:") ++
        ((repo.listed.find? (·.path == path)).bind (·.previousPath)).getD path)).getD "" =
      repo.askedText scope.left path := by
  unfold Repository.askedText Repository.askedName
  cases repo.listed.find? (·.path == path) with
  | none => exact gitShowText_side h scope path
  | some change =>
    by_cases huntracked : change.worktreeStatus = some .untracked
    · simp [huntracked]
    · rw [if_neg (by simpa using huntracked), gitShowText_side h]
      simp [huntracked]

/-! ## 5. Both sides -/

/-- What the work tree or the index has on the right side. -/
def rightTexts (host : Host) (repo : Repository) (root relative : Segments) :
    WorkspaceDiffScope → List String
  | .staged => repo.texts .index (repo.pathOf relative)
  | .all | .unstaged => (host.workText (root ++ relative)).toList

/-- The contents of both sides of the diff are returned. -/
def SidesShown (host : Host) (repo : Repository) (root relative : Segments)
    (scope : WorkspaceDiffScope)
    (result : Except WorkspaceInspectError (Option String × Option String)) : Prop :=
  ∃ original modified, result = .ok (some original, some modified) ∧
    Shows (repo.texts scope.left (scope.leftName repo (repo.pathOf relative))) original ∧
    Shows (rightTexts host repo root relative scope) modified

namespace Repository

variable (repo : Repository)

/-- What is asked for under a path is a content of a file: it is the file's own path, and that
    is not in conflict; or the other path happens to have a content of the file. -/
def Found (side : DiffSide) (asked name : String) : Prop :=
  if asked = name then repo.InConflict side name → repo.Blank side name
  else
    match repo.sideText side asked with
    | some text => text ∈ repo.texts side name ∨ text = "" ∧ repo.texts side name = []
    | none => repo.Blank side name

/-- The same of the path that is asked for on the left side. Nothing is asked for of an
    untracked file. -/
def LeftFound (scope : WorkspaceDiffScope) (relative : Segments) : Prop :=
  match repo.askedName (relativePathString relative) with
  | some asked => repo.Found scope.left asked (scope.leftName repo (repo.pathOf relative))
  | none => repo.Blank scope.left (scope.leftName repo (repo.pathOf relative))

end Repository

/-- Where the Node looks, it finds what the sides have. -/
structure SidesFound (host : Host) (repo : Repository) (root relative : Segments)
    (scope : WorkspaceDiffScope) (binary : Bool) : Prop where
  /-- The file is not taken for a binary one. -/
  text : binary = false
  /-- No file of the work tree stands where the path has a folder. -/
  folders : scope ≠ .staged → ¬ host.Blocked root relative
  left : repo.LeftFound scope relative
  /-- The path of the command, where the index is the right side. -/
  right : scope = .staged →
    repo.Found .index (relativePathString relative) (repo.pathOf relative)

theorem shows_toList (content : Option String) : Shows content.toList (content.getD "") := by
  cases content <;> simp [Shows]

theorem shows_getD_iff (texts : List String) (content : Option String) :
    Shows texts (content.getD "") ↔
      match content with
      | some text => text ∈ texts ∨ text = "" ∧ texts = []
      | none => texts = [] ∨ "" ∈ texts := by
  unfold Shows
  cases texts <;> cases content <;> simp

/-- A path has on a side the content of it, outside of conflicts. -/
theorem texts_eq_toList {repo : Repository} {side : DiffSide} {path : String}
    (h : ¬ repo.InConflict side path) :
    repo.texts side path = (repo.sideText side path).toList := by
  cases side with
  | head => rfl
  | index =>
    unfold Repository.texts Repository.sideText Repository.mergedText
    cases hentry : repo.index path with
    | none => rfl
    | some entry =>
      cases entry with
      | merged text => rfl
      | unmerged stages => exact absurd ⟨rfl, stages, hentry⟩ h

theorem sideText_of_inConflict {repo : Repository} {side : DiffSide} {path : String}
    (h : repo.InConflict side path) : repo.sideText side path = none := by
  obtain ⟨rfl, stages, hentry⟩ := h
  rw [Repository.sideText, Repository.mergedText, hentry]

theorem shows_iff_found (repo : Repository) (side : DiffSide) (asked name : String) :
    Shows (repo.texts side name) ((repo.sideText side asked).getD "") ↔
      repo.Found side asked name := by
  unfold Repository.Found
  by_cases hname : asked = name
  · subst hname
    rw [if_pos rfl]
    by_cases hconflict : repo.InConflict side asked
    · rw [sideText_of_inConflict hconflict]
      exact (shows_getD_iff _ none).trans ⟨fun h _ => h, fun h => h hconflict⟩
    · rw [texts_eq_toList hconflict]
      exact iff_of_true (shows_toList _) fun h => absurd h hconflict
  · rw [if_neg hname]
    exact shows_getD_iff _ _

theorem shows_iff_leftFound (repo : Repository) (scope : WorkspaceDiffScope)
    (relative : Segments) :
    Shows (repo.texts scope.left (scope.leftName repo (repo.pathOf relative)))
        (repo.askedText scope.left (relativePathString relative)) ↔
      repo.LeftFound scope relative := by
  unfold Repository.LeftFound Repository.askedText
  cases repo.askedName (relativePathString relative) with
  | none => exact shows_getD_iff _ none
  | some asked => exact shows_iff_found repo scope.left asked _

/-- What is returned for a file that is not taken for a binary one. -/
theorem workspaceDiffContents_eq {git : Git} {root : Segments} {repo : Repository}
    (hgit : GitShows git root repo) {snapshot : GitWorkspaceSnapshot}
    (hsnapshot : snapshot.changedFiles = repo.listed) (relative : Segments)
    (scope : WorkspaceDiffScope) :
    workspaceDiffContents host.files git root relative scope snapshot false =
      (if scope = .staged then
          .ok (some ((repo.mergedText (relativePathString relative)).getD ""))
        else (Node.readWorkspaceDiffFile host.files root relative).map
          fun content => some (content.getD "")).map
        fun modified => (some (repo.askedText scope.left (relativePathString relative)),
          modified) := by
  unfold workspaceDiffContents
  rw [if_neg (by decide), hsnapshot]
  dsimp only
  rw [original_eq hgit]
  by_cases hscope : scope = .staged
  · rw [if_pos hscope, if_pos hscope, gitShowText_of_prints (hgit.index _)]
    rfl
  · rw [if_neg hscope, if_neg hscope]
    cases Node.readWorkspaceDiffFile host.files root relative <;> rfl

/-- The path that is asked for is the file's own on the left side, where the workspace is the
    whole repository and the record of the file is read as git gives it, with a previous path
    only if that is the file's path on the left side. -/
theorem leftFound_of_plain {repo : Repository} {relative : Segments} {scope : WorkspaceDiffScope}
    (hbelow : repo.below = [])
    (hrecord : repo.listed.find? (·.path == relativePathString relative) =
      repo.record (relativePathString relative))
    (htracked : ∀ change ∈ repo.record (relativePathString relative),
      change.worktreeStatus ≠ some .untracked)
    (hprevious : ∀ change ∈ repo.record (relativePathString relative),
      ∀ path ∈ change.previousPath, scope.leftName repo (relativePathString relative) = path)
    (hconflict : ¬ repo.InConflict scope.left
      (scope.leftName repo (relativePathString relative))) :
    repo.LeftFound scope relative := by
  have hpath : repo.pathOf relative = relativePathString relative := by
    rw [Repository.pathOf, hbelow, List.nil_append]
  have hasked : repo.askedName (relativePathString relative) =
      some (scope.leftName repo (relativePathString relative)) := by
    unfold Repository.askedName
    rw [hrecord]
    cases hchange : repo.record (relativePathString relative) with
    | none =>
      cases scope <;>
        simp [WorkspaceDiffScope.leftName, Repository.headName, Repository.indexName, hchange]
    | some change =>
      have hnot := htracked change hchange
      dsimp only
      rw [if_neg hnot]
      cases hprev : change.previousPath with
      | some path => rw [Option.getD_some, hprevious change hchange path hprev]
      | none =>
        cases scope <;>
          simp [WorkspaceDiffScope.leftName, Repository.headName, Repository.indexName, hchange,
            hprev]
  rw [Repository.LeftFound, hasked, hpath]
  exact if_pos rfl |>.mpr fun h => absurd h hconflict

/-! ## 6. A renamed file -/

/-- A git that has nothing to say but `show`. -/
def showingGit (repo : Repository) (snapshot : GitWorkspaceSnapshot) : Git where
  run _ args _ _ :=
    let content := match args with
      | ["show", "--no-textconv", spec] =>
        match spec.toList with
        | ':' :: path => repo.mergedText (String.ofList path)
        | 'H' :: 'E' :: 'A' :: 'D' :: ':' :: path => repo.head (String.ofList path)
        | _ => none
      | _ => none
    { success := content.isSome, stdout := content.getD "", stderr := "" }
  snapshot _ := .ok (some snapshot)

theorem showingGit_shows (repo : Repository) (snapshot : GitWorkspaceSnapshot) (root : Segments) :
    GitShows (showingGit repo snapshot) root repo := by
  have hprints (content : Option String) : Prints
      { success := content.isSome, stdout := content.getD "", stderr := "" } content :=
    ⟨rfl, fun text htext => by rw [Option.mem_def.mp htext]; rfl⟩
  constructor
  · intro path
    have hspec : ("HEAD:" ++ path).toList = 'H' :: 'E' :: 'A' :: 'D' :: ':' :: path.toList := by
      rw [String.toList_append]
      rfl
    simp only [showingGit, hspec, String.ofList_toList]
    exact hprints _
  · intro path
    have hspec : (":" ++ path).toList = ':' :: path.toList := by
      rw [String.toList_append]
      rfl
    simp only [showingGit, hspec, String.ofList_toList]
    exact hprints _

/-- `a` that is renamed to `b` in the index, and `b` modified behind it. -/
def indexRenameRecord : GitRecord :=
  let mode := plainMode
  let hash := gitField "5626abf" (by decide) (by decide)
  .renamed ⟨'R', by decide, by decide⟩ modifiedLetter noSubmodule mode mode mode hash hash
    (gitField "R100" (by decide) (by decide))
    ⟨"b".toList, by decide, by decide⟩ ⟨"a".toList, by decide, by decide⟩

def renamedRepository : Repository where
  head path := if path = "a" then some "one" else none
  index path := if path = "b" then some (.merged "one") else none
  records := [indexRenameRecord]
  below := []

def renamedTree : FileTree String RegularFile where
  entries := ⟨[⟨[], .directory⟩, ⟨["ws"], .directory⟩, ⟨["ws", "b"], .file (.ofText "two")⟩], by
    change List.Nodup [[], ["ws"], ["ws", "b"]]
    decide⟩
  root := rfl
  parents := by decide

def renamedHost : Host where
  tree := renamedTree
  plain := by decide
  linkLimit := 40
  cwd := []
  cwd_directory := rfl
  workspacePaths := ["/ws"]
  len _ := 0
  modifiedAt _ _ := none
  fault _ _ := none
  fault_kind := kind_of_noFault
  rootFault _ := none
  partlyWritten := .ofText

def statusTime : TimeText := snapshotTime

def renamedSnapshot : GitWorkspaceSnapshot :=
  parseGitPorcelainV2 (encodeStatus renamedRepository.records) statusTime

def renamedGit : Git := showingGit renamedRepository renamedSnapshot

theorem renamed_textPath : renamedHost.TextPath ["ws"] ["b"] where
  directory := rfl
  plain := by
    intro segment hsegment
    obtain rfl := List.mem_singleton.mp hsegment
    decide
  no_fault _ _ := rfl
  no_link := by
    intro walked target hwalked
    rcases List.prefix_cons_iff.mp hwalked with rfl | ⟨rest, rfl, hrest⟩
    · exact fun h => by cases h
    · obtain rfl := List.prefix_nil.mp hrest
      exact fun h => by cases h
  text := by
    intro file hfile
    have hentry : renamedHost.tree.find (["ws"] ++ ["b"]) = some (.file (.ofText "two")) := rfl
    rw [hentry] at hfile
    cases hfile
    exact ⟨"two", rfl, by decide, by decide⟩

theorem renamed_askedName : renamedRepository.askedName "b" = some "a" := by decide

end Uprava.Node
