/-
  File:      Uprava/Node/WorkspaceDiff.lean
  Subject:   The diff of a workspace: what the Node asks git for, what it makes of the answers, and
             the hunks it cuts a diff into.

  git is a parameter: the output of each of its commands, with the caps it is read under, and the
  snapshot of the repository. The texts are what the outputs decode to.
-/
import Uprava.Node.Workspace

namespace Uprava.Node

open Uprava.Protocol

/-! ## 1. The repository -/

inductive GitRepositoryState where
  | ready | notRepository | unavailable
  deriving DecidableEq

inductive GitHeadState where
  | branch | detached | unborn
  deriving DecidableEq

inductive GitWorktreeKind where
  | primary | linked
  deriving DecidableEq

inductive GitOperation where
  | merge | rebase | cherryPick | revert | bisect
  deriving DecidableEq

inductive GitChangeKind where
  | added | modified | deleted | renamed | copied | untracked | unmerged | typeChanged | unknown
  deriving DecidableEq

structure GitChangedFile where
  path : String
  previousPath : Option String
  indexStatus : Option GitChangeKind
  worktreeStatus : Option GitChangeKind
  conflicted : Bool
  binary : Bool
  deriving DecidableEq

structure GitWorkspaceSnapshot where
  state : GitRepositoryState
  repoId : Option String := none
  headState : Option GitHeadState := none
  branch : Option String := none
  commit : Option String := none
  upstream : Option String := none
  ahead : Nat := 0
  behind : Nat := 0
  worktreeKind : Option GitWorktreeKind := none
  operation : Option GitOperation := none
  changedFiles : List GitChangedFile := []
  stagedCount : Nat := 0
  unstagedCount : Nat := 0
  untrackedCount : Nat := 0
  conflictedCount : Nat := 0
  truncated : Bool := false
  generatedAt : TimeText
  deriving DecidableEq

structure WorkspaceProcessOutput where
  success : Bool
  stdout : String
  stderr : String
  stdoutTruncated : Bool := false
  stderrTruncated : Bool := false
  deriving DecidableEq

structure Git where
  /-- `run_workspace_process(root, "git", args, ..)` under a cap for each output. -/
  run : Segments → List String → Nat → Nat → WorkspaceProcessOutput
  /-- What `git_workspace_snapshot` returns, or the failure of its worker. -/
  snapshot : Segments → Except String (Option GitWorkspaceSnapshot)

/-! ## 2. The request -/

inductive WorkspaceDiffScope where
  | all | staged | unstaged
  deriving DecidableEq

structure WorkspaceDiffRequest where
  scope : WorkspaceDiffScope
  path : Option String
  deriving DecidableEq

/-- `workspace_command_payload::<WorkspaceDiffRequest>`; a scope that is left out is `all`. -/
def workspaceDiffRequest (command : CommandEnvelope) :
    Except WorkspaceInspectError WorkspaceDiffRequest :=
  match command.payload with
  | .readWorkspaceDiff _ request =>
    .ok { scope := match (request.get "scope").bind (·.asStr) with
            | some "staged" => .staged
            | some "unstaged" => .unstaged
            | _ => .all
          path := (request.get "path").bind (·.asStr) }
  | _ => .error ("workspace.invalid_payload",
      "Workspace command payload does not match its command kind")

def diffChangeMatchesScope (change : GitChangedFile) : WorkspaceDiffScope → Bool
  | .all => true
  | .staged => change.indexStatus.isSome
  | .unstaged => change.worktreeStatus.isSome

def workspaceDiffArgs (scope : WorkspaceDiffScope) (path : Option String) (hasHead : Bool) :
    List String :=
  ["diff", "--no-ext-diff", "--no-color", "--find-renames"] ++
    (match scope with
      | .all => if hasHead then ["HEAD"] else []
      | .unstaged => []
      | .staged => ["--cached"]) ++
    ["--"] ++ path.toList

/-! ## 3. Hunks -/

structure WorkspaceDiffHunk where
  hunkId : String
  header : String
  patch : String
  deriving DecidableEq

/-- `MAX_WORKSPACE_DIFF_HUNKS`. -/
def maxWorkspaceDiffHunks : Nat := 256

/-- `str::lines`: a line ends with its line feed, and with the return before it. -/
def textLines : List Char → List Char → List (List Char)
  | line, [] => if line.isEmpty then [] else [line.reverse]
  | line, c :: cs =>
    if c = '\n' then
      (if line.head? = some '\r' then line.tail else line).reverse :: textLines [] cs
    else textLines (c :: line) cs

def diffHunk (diffId : String) (count : Nat) (header patch : String) : WorkspaceDiffHunk :=
  ⟨diffId ++ ":hunk-" ++ toString (count + 1), header, patch⟩

/-- The loop over the lines, with the hunks so far, and the header and the patch of the open one. -/
def parseHunkLines (diffId : String) :
    List WorkspaceDiffHunk → Option String → String → List String → List WorkspaceDiffHunk
  | hunks, header, patch, [] =>
    if maxWorkspaceDiffHunks ≤ hunks.length then hunks
    else match header with
      | some header => hunks ++ [diffHunk diffId hunks.length header patch]
      | none => hunks
  | hunks, header, patch, line :: lines =>
    if maxWorkspaceDiffHunks ≤ hunks.length then hunks
    else if "@@ ".toList.isPrefixOf line.toList then
      match header with
      | some header => parseHunkLines diffId
          (hunks ++ [diffHunk diffId hunks.length header patch]) (some line) (line ++ "\n") lines
      | none => parseHunkLines diffId hunks (some line) (patch ++ line ++ "\n") lines
    else match header with
      | none => parseHunkLines diffId hunks none patch lines
      | some header =>
        if "diff --git ".toList.isPrefixOf line.toList then
          parseHunkLines diffId (hunks ++ [diffHunk diffId hunks.length header patch]) none ""
            lines
        else parseHunkLines diffId hunks (some header) (patch ++ line ++ "\n") lines

def parseWorkspaceDiffHunks (diffId diff : String) : List WorkspaceDiffHunk :=
  parseHunkLines diffId [] none "" ((textLines [] diff.toList).map String.ofList)

/-! ## 4. The diff -/

/-- What a diff command saw: its response without the placement and the time. -/
structure DiffView where
  diffId : String
  gitSnapshot : GitWorkspaceSnapshot
  summary : String
  diff : String
  scope : WorkspaceDiffScope
  path : Option String
  changedFiles : List GitChangedFile := []
  hunks : List WorkspaceDiffHunk := []
  original : Option String := none
  modified : Option String := none
  binary : Bool := false
  summaryTruncated : Bool := false
  diffTruncated : Bool

/-- `WORKSPACE_DIFF_BYTES`. -/
def workspaceDiffBytes : Nat := 128 * 1024

def containsText (text part : String) : Bool :=
  text.toList.tails.any (part.toList.isPrefixOf ·)

def isBlankText (text : String) : Bool := trim text == ""

/-- What a `git diff` printed, its errors after its output. -/
def diffOutputText (output : WorkspaceProcessOutput) (separator : String) : String :=
  if isBlankText output.stderr then output.stdout
  else (if output.stdout = "" then "" else output.stdout ++ separator) ++ output.stderr

def diffSummary (changedFiles : List GitChangedFile) (snapshot : GitWorkspaceSnapshot) : String :=
  toString changedFiles.length ++ " changed · " ++ toString snapshot.stagedCount ++ " staged · " ++
    toString snapshot.unstagedCount ++ " unstaged · " ++ toString snapshot.untrackedCount ++
    " untracked · " ++ toString snapshot.conflictedCount ++ " conflicted"

/-- The first change of the path is marked. -/
def markBinary (path : String) : List GitChangedFile → List GitChangedFile
  | [] => []
  | change :: rest =>
    if change.path = path then { change with binary := true } :: rest
    else change :: markBinary path rest

section Diff

variable (files : Files) (git : Git)

def gitShowText (root : Segments) (spec : String) : Option String :=
  let output := git.run root ["show", "--no-textconv", spec] maxWorkspaceTextBytes 4096
  if output.success then some output.stdout else none

def readWorkspaceDiffFile (root relative : Segments) :
    Except WorkspaceInspectError (Option String) :=
  match resolveExistingWorkspacePath files root relative with
  | .error e => if e.1 = "workspace.path_missing" then .ok none else .error e
  | .ok target =>
    match files.metadata target with
    | .error e => .error ("workspace.metadata_failed", "Failed to inspect diff file: " ++ e.text)
    | .ok metadata =>
      if metadata.kind ≠ .file ∨ maxWorkspaceTextBytes < metadata.len then .ok none
      else match files.read target with
        | .error e => .error ("workspace.read_failed", "Failed to read diff file: " ++ e.text)
        | .ok bytes =>
          if bytes.hasNul then .ok none
          else match bytes with
            | .text content => .ok (some content)
            | .invalid _ => .error ("workspace.diff_binary_file",
                "Workspace diff content is not UTF-8 text")

/-- The two versions of a file. -/
def workspaceDiffContents (root relative : Segments) (scope : WorkspaceDiffScope)
    (snapshot : GitWorkspaceSnapshot) (binary : Bool) :
    Except WorkspaceInspectError (Option String × Option String) :=
  if binary then .ok (none, none)
  else do
    let path := relativePathString relative
    let change := snapshot.changedFiles.find? (·.path == path)
    let untracked := change.any fun c => c.worktreeStatus == some .untracked
    let sourcePath := (change.bind (·.previousPath)).getD path
    let original := if untracked then some ""
      else gitShowText git root
        ((if scope = .unstaged then ":" else "HEAD:") ++ sourcePath)
    let modified ← if scope = .staged then .ok (gitShowText git root (":" ++ path))
      else readWorkspaceDiffFile files root relative
    return (some (original.getD ""), some (modified.getD ""))

/-- The text of a diff, and whether it was cut. Without a commit a diff of everything is the staged
    one before the other. -/
def workspaceDiffText (root : Segments) (scope : WorkspaceDiffScope) (path : Option String)
    (hasHead : Bool) : String × Bool :=
  let diff := git.run root (workspaceDiffArgs scope path hasHead) workspaceDiffBytes 4096
  let text := diffOutputText diff "\n"
  let truncated := diff.stdoutTruncated || diff.stderrTruncated
  if scope = .all ∧ hasHead = false then
    let staged := git.run root (workspaceDiffArgs .staged path false) workspaceDiffBytes 4096
    let stagedText := diffOutputText staged ""
    (if stagedText = "" then text else stagedText ++ text,
      truncated || staged.stdoutTruncated || staged.stderrTruncated)
  else (text, truncated)

def workspaceDiffId (command : CommandEnvelope) : String := "workspace-diff-" ++ command.commandId

/-- The diff of a worktree. -/
def collectRepositoryDiff (root : Segments) (relative : Option Segments)
    (scope : WorkspaceDiffScope) (diffId : String) : Except WorkspaceInspectError DiffView := do
  let snapshot ← match git.snapshot root with
    | .error e => .error ("workspace.git_snapshot_failed", "Git snapshot worker failed: " ++ e)
    | .ok none => .error ("workspace.git_snapshot_failed", "Git snapshot could not be collected")
    | .ok (some snapshot) => .ok snapshot
  let changedFiles := snapshot.changedFiles.filter (diffChangeMatchesScope · scope)
  let path := relative.map relativePathString
  let (diff, diffTruncated) := workspaceDiffText git root scope path snapshot.commit.isSome
  let binary := relative.any binaryExtension || containsText diff "Binary files "
  let changedFiles := match binary, path with
    | true, some path => markBinary path changedFiles
    | _, _ => changedFiles
  let (original, modified) ← match relative with
    | some relative => workspaceDiffContents files git root relative scope snapshot binary
    | none => .ok (none, none)
  return {
    diffId, gitSnapshot := snapshot, summary := diffSummary changedFiles snapshot, diff, scope, path,
    changedFiles, hunks := parseWorkspaceDiffHunks diffId diff, original, modified, binary,
    summaryTruncated := snapshot.truncated, diffTruncated }

/-- What a diff command looks at, after its placement. -/
def collectWorkspaceDiff (now : TimeText) (command : CommandEnvelope)
    (request : WorkspaceDiffRequest) : Except WorkspaceInspectError DiffView := do
  let root ← canonicalWorkspaceRoot files (← workspaceCommandPath command)
  let relative ← match request.path with
    | some path => (safeWorkspaceRelativePath path).map some
    | none => .ok none
  if relative.any (·.isEmpty) then
    .error ("workspace.path_required", "Workspace diff path must identify a file")
  else
    let inside := git.run root ["rev-parse", "--is-inside-work-tree"] 1024 4096
    if !inside.success || trim inside.stdout != "true" then
      return {
        diffId := workspaceDiffId command
        gitSnapshot := { state := .notRepository, generatedAt := now }
        summary := "Workspace is not a git worktree"
        diff := inside.stderr
        scope := request.scope
        path := request.path
        diffTruncated := inside.stderrTruncated }
    else collectRepositoryDiff files git root relative request.scope (workspaceDiffId command)

end Diff

/-! ## 5. The result payload -/

def GitRepositoryState.label : GitRepositoryState → String
  | .ready => "ready"
  | .notRepository => "not_repository"
  | .unavailable => "unavailable"

def GitHeadState.label : GitHeadState → String
  | .branch => "branch"
  | .detached => "detached"
  | .unborn => "unborn"

def GitWorktreeKind.label : GitWorktreeKind → String
  | .primary => "primary"
  | .linked => "linked"

def GitOperation.label : GitOperation → String
  | .merge => "merge"
  | .rebase => "rebase"
  | .cherryPick => "cherry_pick"
  | .revert => "revert"
  | .bisect => "bisect"

def GitChangeKind.label : GitChangeKind → String
  | .added => "added"
  | .modified => "modified"
  | .deleted => "deleted"
  | .renamed => "renamed"
  | .copied => "copied"
  | .untracked => "untracked"
  | .unmerged => "unmerged"
  | .typeChanged => "type_changed"
  | .unknown => "unknown"

def WorkspaceDiffScope.label : WorkspaceDiffScope → String
  | .all => "all"
  | .staged => "staged"
  | .unstaged => "unstaged"

theorem GitRepositoryState.label_le (state : GitRepositoryState) :
    state.label.length ≤ shortText := by
  cases state <;> decide

theorem GitHeadState.label_le (state : GitHeadState) : state.label.length ≤ shortText := by
  cases state <;> decide

theorem GitWorktreeKind.label_le (kind : GitWorktreeKind) : kind.label.length ≤ shortText := by
  cases kind <;> decide

theorem GitOperation.label_le (operation : GitOperation) :
    operation.label.length ≤ shortText := by
  cases operation <;> decide

theorem GitChangeKind.label_le (kind : GitChangeKind) : kind.label.length ≤ shortText := by
  cases kind <;> decide

theorem WorkspaceDiffScope.label_le (scope : WorkspaceDiffScope) :
    scope.label.length ≤ shortText := by
  cases scope <;> decide

def encodeChange {depth : Nat} (change : GitChangedFile) : Encoded (depth + 1) :=
  .fields
    [("path", .text change.path),
      ("previous_path", .optional .text change.previousPath),
      ("index_status", .optional (fun k => .label k.label k.label_le) change.indexStatus),
      ("worktree_status", .optional (fun k => .label k.label k.label_le) change.worktreeStatus),
      ("conflicted", .bool change.conflicted),
      ("binary", .bool change.binary)] (by simp)

def encodeSnapshot (snapshot : GitWorkspaceSnapshot) : Encoded 3 :=
  .fields
    [("state", .label snapshot.state.label snapshot.state.label_le),
      ("repo_id", .optional .text snapshot.repoId),
      ("head_state", .optional (fun s => .label s.label s.label_le) snapshot.headState),
      ("branch", .optional .text snapshot.branch),
      ("commit", .optional .text snapshot.commit),
      ("upstream", .optional .text snapshot.upstream),
      ("ahead", .nat snapshot.ahead),
      ("behind", .nat snapshot.behind),
      ("worktree_kind", .optional (fun k => .label k.label k.label_le) snapshot.worktreeKind),
      ("operation", .optional (fun o => .label o.label o.label_le) snapshot.operation),
      ("changed_files", .items (snapshot.changedFiles.map encodeChange)),
      ("staged_count", .nat snapshot.stagedCount),
      ("unstaged_count", .nat snapshot.unstagedCount),
      ("untracked_count", .nat snapshot.untrackedCount),
      ("conflicted_count", .nat snapshot.conflictedCount),
      ("truncated", .bool snapshot.truncated),
      ("generated_at", encodeTime snapshot.generatedAt)] (by simp)

def encodeHunk (hunk : WorkspaceDiffHunk) : Encoded 2 :=
  .fields
    [("hunk_id", .text hunk.hunkId), ("header", .text hunk.header), ("patch", .text hunk.patch)]
    (by simp)

/-- A `WorkspaceDiffResponse`. -/
def encodeDiff (placementId : ProjectPlacementId) (view : DiffView) (now : TimeText) : Encoded 4 :=
  .fields
    [("placement_id", .text placementId),
      ("diff_id", .text view.diffId),
      ("git_snapshot", encodeSnapshot view.gitSnapshot),
      ("summary", .text view.summary),
      ("diff", .text view.diff),
      ("scope", .label view.scope.label view.scope.label_le),
      ("path", .optional .text view.path),
      ("changed_files", .items (view.changedFiles.map encodeChange)),
      ("hunks", .items (view.hunks.map encodeHunk)),
      ("original", .optional .text view.original),
      ("modified", .optional .text view.modified),
      ("binary", .bool view.binary),
      ("summary_truncated", .bool view.summaryTruncated),
      ("diff_truncated", .bool view.diffTruncated),
      ("generated_at", encodeTime now)] (by simp)

def buildWorkspaceDiffResponse (files : Files) (git : Git) (now : TimeText)
    (command : CommandEnvelope) : Except WorkspaceInspectError (Encoded 4) := do
  let request ← workspaceDiffRequest command
  let placementId ← workspaceCommandPlacementId command
  let view ← collectWorkspaceDiff files git now command request
  return encodeDiff placementId view now

end Uprava.Node
