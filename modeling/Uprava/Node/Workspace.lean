/-
  File:      Uprava/Node/Workspace.lean
  Subject:   What the Node reads of a workspace: the paths it resolves, the entry it lists, the file
             it reads, and the result payloads of the two commands.

  The file system is a parameter. Each command first looks (`listWorkspaceTree`,
  `inspectWorkspaceFile`), then encodes what it saw; what it saw is a `TreeView` or a `FileView`.
  The name of a file is a text, and what a file holds is a text or bytes that are none.
-/
import Uprava.Lib.JsonSize
import Uprava.Node.Execution

namespace Uprava.Node

open Uprava.Protocol
open Uprava.Lib (Sized)

/-! ## 1. The file system -/

inductive IoErrorKind where
  | notFound | permissionDenied | other
  deriving DecidableEq

structure IoError where
  kind : IoErrorKind
  text : String
  deriving DecidableEq

inductive WorkspaceEntryKind where
  | directory | file | symlink | other
  deriving DecidableEq

/-- The metadata of a path, of the link itself where it is one. -/
structure Metadata where
  kind : WorkspaceEntryKind
  len : Nat
  modifiedAt : Option TimeText
  deriving DecidableEq

/-- What `String::from_utf8` makes of a file's bytes, and whether a byte is zero where it fails. -/
inductive FileBytes where
  | text (content : String)
  | invalid (hasNul : Bool)
  deriving DecidableEq

/-- `bytes.contains(&0)`. -/
def FileBytes.hasNul : FileBytes → Bool
  | .text content => content.toList.any (·.toNat == 0)
  | .invalid hasNul => hasNul

/-- The segments of a path, from the root or from a workspace. -/
abbrev Segments := List String

structure Files where
  canonicalizeRoot : String → Except IoError Segments
  canonicalize : Segments → Except IoError Segments
  isDir : Segments → Bool
  /-- The configured roots, those that resolve. -/
  workspacePaths : List Segments
  symlinkMetadata : Segments → Except IoError Metadata
  /-- The metadata of what a link leads to. -/
  metadata : Segments → Except IoError Metadata
  read : Segments → Except IoError FileBytes
  readDir : Segments → Except IoError (List String)

/-- A code and a message. -/
abbrev WorkspaceInspectError := String × String

/-! ## 2. Paths -/

/-- `MAX_WORKSPACE_TEXT_BYTES`. -/
def maxWorkspaceTextBytes : Nat := 256 * 1024

/-- `MAX_WORKSPACE_DIRECTORY_ENTRIES`. -/
def maxWorkspaceDirectoryEntries : Nat := 100

def joinSegments (path : Segments) : String := "/".intercalate path

def relativePathString (path : Segments) : String :=
  if path.isEmpty then "." else joinSegments path

def workspaceEntryName (path : Segments) : String := path.getLast?.getD "."

/-- The parts of a text between its slashes. -/
def splitSlash : List Char → List (List Char)
  | [] => [[]]
  | c :: cs =>
    match splitSlash cs with
    | [] => [[]]
    | part :: parts => if c = '/' then [] :: part :: parts else (c :: part) :: parts

def safeWorkspaceRelativePath (path : String) : Except WorkspaceInspectError Segments :=
  let trimmed := trim path
  if trimmed = "" ∨ trimmed = "." then .ok []
  else if trimmed.toList.head? = some '/' then
    .error ("workspace.absolute_path", "Workspace inspector paths must be relative")
  else
    let segments := ((splitSlash trimmed.toList).map String.ofList).filter
      fun s => s != "" && s != "."
    if segments.contains ".." then
      .error ("workspace.path_escape", "Workspace inspector paths cannot leave the workspace")
    else .ok segments

/-- `std::path::Path::extension` of a file name. -/
def fileExtension (name : String) : Option String :=
  let after := name.toList.reverse.takeWhile (· ≠ '.')
  if after.length + 1 < name.length then some (String.ofList after.reverse) else none

def binaryExtensions : List String :=
  ["png", "jpg", "jpeg", "gif", "webp", "ico", "pdf", "zip", "gz", "tar", "tgz", "woff", "woff2",
    "ttf", "otf", "wasm", "sqlite", "db", "bin", "exe", "dylib", "so", "dll"]

def binaryExtension (path : Segments) : Bool :=
  match path.getLast?.bind fileExtension with
  | some extension => binaryExtensions.contains extension.toLower
  | none => false

inductive WorkspaceEntryStatus where
  | readable | directory | large | binary | ignored | generated | permissionDenied
  | outsideWorkspace | missing | notFile | notDirectory | symlink | error
  deriving DecidableEq

inductive WorkspaceEntryClassification where
  | normal | generated | ignored
  deriving DecidableEq

def ignoredNames : List String := [".git", ".hg", ".svn", ".DS_Store"]

def generatedNames : List String :=
  [".local", "node_modules", "target", "dist", "build", "coverage", ".next", ".turbo", ".vite"]

def generatedOrIgnoredStatus (path : Segments) : Option WorkspaceEntryStatus :=
  if path.any ignoredNames.contains then some .ignored
  else if path.any generatedNames.contains then some .generated
  else none

def workspaceEntryClassification (path : Segments) : WorkspaceEntryClassification :=
  match generatedOrIgnoredStatus path with
  | some .generated => .generated
  | some .ignored => .ignored
  | _ => .normal

/-! ## 3. Resolving a command's path -/

def workspaceCommandPlacementId (command : CommandEnvelope) :
    Except WorkspaceInspectError ProjectPlacementId :=
  match command.target.projectPlacementId with
  | some placementId => .ok placementId
  | none => .error ("workspace.placement_missing",
      "Workspace inspector command is missing a placement id")

def workspaceCommandPath (command : CommandEnvelope) : Except WorkspaceInspectError String :=
  match payloadWorkspacePath command.payload with
  | some path => .ok path
  | none => .error ("workspace.path_required",
      "Workspace inspector command is missing a workspace path")

/-- `command_payload_str(command, "path")`. -/
def payloadPath : CommandPayload → Option String
  | .listWorkspaceTree _ path | .readWorkspaceFile _ path => (some (trim path)).filter (· ≠ "")
  | _ => none

section Looking

variable (files : Files)

def canonicalWorkspaceRoot (workspacePath : String) : Except WorkspaceInspectError Segments :=
  match files.canonicalizeRoot workspacePath with
  | .error e =>
    .error (match e.kind with
      | .notFound => "workspace.root_missing"
      | .permissionDenied => "workspace.root_permission_denied"
      | .other => "workspace.root_invalid",
      "Workspace root " ++ workspacePath ++ " is not readable: " ++ e.text)
  | .ok root =>
    if !files.isDir root then
      .error ("workspace.root_not_directory", "Workspace root is not a directory")
    else if !files.workspacePaths.any (·.isPrefixOf root) then
      .error ("workspace.outside_allowed_roots",
        "Workspace root is outside the node allowed roots")
    else .ok root

/-- The loop over the segments that are left; a link is where it ends. -/
def resolveSegments (root relative : Segments) :
    Segments → Segments → Except WorkspaceInspectError Segments
  | current, [] => .ok current
  | current, segment :: rest =>
    let next := current ++ [segment]
    match files.symlinkMetadata next with
    | .error e =>
      .error (match e.kind with
        | .notFound => "workspace.path_missing"
        | .permissionDenied => "workspace.permission_denied"
        | .other => "workspace.metadata_failed",
        "Failed to inspect " ++ joinSegments relative ++ ": " ++ e.text)
    | .ok metadata =>
      if metadata.kind = .symlink then .ok next
      else match files.canonicalize next with
        | .error e => .error ("workspace.canonicalize_failed",
            "Failed to resolve " ++ joinSegments relative ++ ": " ++ e.text)
        | .ok canonical =>
          if root.isPrefixOf canonical then resolveSegments root relative canonical rest
          else .error ("workspace.path_escape",
            "Workspace inspector path resolves outside the workspace")

def resolveExistingWorkspacePath (root relative : Segments) :
    Except WorkspaceInspectError Segments :=
  resolveSegments files root relative root relative

/-! ## 4. Looking at an entry -/

structure WorkspaceEntry where
  name : String
  path : String
  kind : WorkspaceEntryKind
  status : WorkspaceEntryStatus
  classification : WorkspaceEntryClassification
  expandable : Bool
  byteLen : Option Nat
  modifiedAt : Option TimeText
  deriving DecidableEq

def workspaceEntryForStatus (relative : Segments) (status : WorkspaceEntryStatus) :
    WorkspaceEntry where
  name := workspaceEntryName relative
  path := relativePathString relative
  kind := .other
  status
  classification := .normal
  expandable := false
  byteLen := none
  modifiedAt := none

def workspaceStatusForEntry (relative : Segments) (metadata : Metadata) : WorkspaceEntryStatus :=
  match metadata.kind with
  | .symlink => .symlink
  | .directory => .directory
  | .file =>
    if maxWorkspaceTextBytes < metadata.len then .large
    else if binaryExtension relative then .binary
    else .readable
  | .other => .error

def workspaceTreeEntry (path relative : Segments) : WorkspaceEntry :=
  match files.symlinkMetadata path with
  | .error e =>
    workspaceEntryForStatus relative (match e.kind with
      | .permissionDenied => .permissionDenied
      | .notFound => .missing
      | .other => .error)
  | .ok metadata =>
    { name := workspaceEntryName relative
      path := relativePathString relative
      kind := metadata.kind
      status := workspaceStatusForEntry relative metadata
      classification := workspaceEntryClassification relative
      expandable := metadata.kind == .directory
      byteLen := if metadata.kind = .file then some metadata.len else none
      modifiedAt := metadata.modifiedAt }

/-- What a tree command saw. -/
structure TreeView where
  root : WorkspaceEntry
  children : List WorkspaceEntry
  truncated : Bool
  totalEntries : Option Nat

/-- `entry.file_type().is_ok_and(|kind| kind.is_dir())`. -/
def isDirectoryEntry (path : Segments) : Bool :=
  match files.symlinkMetadata path with
  | .ok metadata => metadata.kind == .directory
  | .error _ => false

/-- Directories come first, and then the names decide. -/
def entryLe (path : Segments) (a b : String) : Bool :=
  match isDirectoryEntry files (path ++ [a]), isDirectoryEntry files (path ++ [b]) with
  | true, false => true
  | false, true => false
  | _, _ => decide (a ≤ b)

def listWorkspaceTree (command : CommandEnvelope) : Except WorkspaceInspectError TreeView := do
  let root ← canonicalWorkspaceRoot files (← workspaceCommandPath command)
  let relative ← safeWorkspaceRelativePath ((payloadPath command.payload).getD ".")
  let path ← match resolveExistingWorkspacePath files root relative with
    | .ok path => .ok path
    | .error e => if e.1 = "workspace.path_missing" then .ok (root ++ relative) else .error e
  let entry := workspaceTreeEntry files path relative
  if entry.kind = .directory ∧ entry.status = .directory then
    match files.readDir path with
    | .ok names =>
      let sorted := names.mergeSort (entryLe files path)
      return ⟨entry, (sorted.take maxWorkspaceDirectoryEntries).map fun name =>
          workspaceTreeEntry files (path ++ [name]) (relative ++ [name]),
        decide (maxWorkspaceDirectoryEntries < names.length), some names.length⟩
    | .error e =>
      let status := if e.kind = .permissionDenied then .permissionDenied else .error
      return ⟨{ entry with status, expandable := false }, [], false, none⟩
  else return ⟨entry, [], false, none⟩

/-- What a file command saw. -/
structure FileView where
  relative : Segments
  kind : WorkspaceEntryKind
  status : WorkspaceEntryStatus
  byteLen : Option Nat
  modifiedAt : Option TimeText
  content : Option String

/-- A file that is none of those that are not read. -/
def readWorkspaceText (relative target : Segments) (metadata : Metadata) :
    Except WorkspaceInspectError FileView :=
  let view (status : WorkspaceEntryStatus) (content : Option String) : FileView :=
    ⟨relative, metadata.kind, status, some metadata.len, metadata.modifiedAt, content⟩
  match files.read target with
  | .error e =>
    if e.kind = .permissionDenied then .ok (view .permissionDenied none)
    else .error ("workspace.read_failed",
      "Failed to read " ++ relativePathString relative ++ ": " ++ e.text)
  | .ok bytes =>
    if bytes.hasNul then .ok (view .binary none)
    else match bytes with
      | .text content => .ok (view .readable (some content))
      | .invalid _ => .ok (view .binary none)

/-- What is at a path that resolved. -/
def inspectTarget (relative target : Segments) : Except WorkspaceInspectError FileView :=
  match files.symlinkMetadata target with
  | .error e =>
    match e.kind with
    | .permissionDenied => .ok ⟨relative, .other, .permissionDenied, none, none, none⟩
    | .notFound => .ok ⟨relative, .other, .missing, none, none, none⟩
    | .other => .error ("workspace.metadata_failed",
        "Failed to inspect " ++ relativePathString relative ++ ": " ++ e.text)
  | .ok metadata =>
    let view (status : WorkspaceEntryStatus) (byteLen : Option Nat) : FileView :=
      ⟨relative, metadata.kind, status, byteLen, metadata.modifiedAt, none⟩
    if metadata.kind = .symlink then .ok (view .symlink none)
    else if metadata.kind ≠ .file then .ok (view .notFile (some metadata.len))
    else match generatedOrIgnoredStatus relative with
      | some status => .ok (view status (some metadata.len))
      | none =>
        if maxWorkspaceTextBytes < metadata.len then .ok (view .large (some metadata.len))
        else if binaryExtension relative then .ok (view .binary (some metadata.len))
        else readWorkspaceText files relative target metadata

def inspectWorkspaceFile (command : CommandEnvelope) : Except WorkspaceInspectError FileView := do
  let root ← canonicalWorkspaceRoot files (← workspaceCommandPath command)
  let relative ← safeWorkspaceRelativePath ((payloadPath command.payload).getD ".")
  match resolveExistingWorkspacePath files root relative with
  | .error e =>
    if e.1 = "workspace.path_missing" then .ok ⟨relative, .other, .missing, none, none, none⟩
    else .error e
  | .ok target => inspectTarget files relative target

end Looking

/-! ## 5. Result payloads -/

/-- No label of an enumeration is longer, and no time. -/
def shortText : Nat := 40

/-- A payload with its size: it lies in no more than `depth` arrays and objects. -/
abbrev Encoded (depth : Nat) := Sized shortText depth

def encodeTime {depth : Nat} (time : TimeText) : Encoded depth :=
  .label time.text (Nat.le_trans time.text_le (by decide))

def WorkspaceEntryKind.label : WorkspaceEntryKind → String
  | .directory => "directory"
  | .file => "file"
  | .symlink => "symlink"
  | .other => "other"

theorem WorkspaceEntryKind.label_le (kind : WorkspaceEntryKind) :
    kind.label.length ≤ shortText := by
  cases kind <;> decide

def WorkspaceEntryStatus.label : WorkspaceEntryStatus → String
  | .readable => "readable"
  | .directory => "directory"
  | .large => "large"
  | .binary => "binary"
  | .ignored => "ignored"
  | .generated => "generated"
  | .permissionDenied => "permission_denied"
  | .outsideWorkspace => "outside_workspace"
  | .missing => "missing"
  | .notFile => "not_file"
  | .notDirectory => "not_directory"
  | .symlink => "symlink"
  | .error => "error"

theorem WorkspaceEntryStatus.label_le (status : WorkspaceEntryStatus) :
    status.label.length ≤ shortText := by
  cases status <;> decide

def WorkspaceEntryClassification.label : WorkspaceEntryClassification → String
  | .normal => "normal"
  | .generated => "generated"
  | .ignored => "ignored"

theorem WorkspaceEntryClassification.label_le (classification : WorkspaceEntryClassification) :
    classification.label.length ≤ shortText := by
  cases classification <;> decide

def encodeEntry {depth : Nat} (e : WorkspaceEntry) (children : List (Encoded depth)) :
    Encoded (depth + 2) :=
  .fields
    [("name", .text e.name),
      ("path", .text e.path),
      ("kind", .label e.kind.label e.kind.label_le),
      ("status", .label e.status.label e.status.label_le),
      ("classification", .label e.classification.label e.classification.label_le),
      ("expandable", .bool e.expandable),
      ("byte_len", .optional .nat e.byteLen),
      ("modified_at", .optional encodeTime e.modifiedAt),
      ("children", .items children)] (by simp)

/-- A `WorkspaceTreeResponse`. Only its root has children. -/
def encodeTree (placementId : ProjectPlacementId) (view : TreeView) (now : TimeText) : Encoded 5 :=
  .fields
    [("placement_id", .text placementId),
      ("root", encodeEntry view.root (view.children.map fun e =>
        encodeEntry e ([] : List (Encoded 0)))),
      ("truncated", .bool view.truncated),
      ("total_entries", .optional .nat view.totalEntries),
      ("generated_at", encodeTime now)] (by simp)

/-- The entry of `workspace_file_status_response`. -/
def FileView.metadata (view : FileView) : WorkspaceEntry where
  name := workspaceEntryName view.relative
  path := relativePathString view.relative
  kind := view.kind
  status := view.status
  classification := workspaceEntryClassification view.relative
  expandable := false
  byteLen := view.byteLen
  modifiedAt := view.modifiedAt

/-- `workspace_file_status_response`: a `WorkspaceFileContentResponse`. -/
def workspaceFileStatusResponse (placementId : ProjectPlacementId) (view : FileView)
    (now : TimeText) : Encoded 3 :=
  .fields
    [("placement_id", .text placementId),
      ("path", .text (relativePathString view.relative)),
      ("metadata", encodeEntry view.metadata ([] : List (Encoded 0))),
      ("content", .optional .text view.content),
      ("truncated", .bool false),
      ("generated_at", encodeTime now)] (by simp)

def encodeInspectError (error : WorkspaceInspectError) : Encoded 1 :=
  .fields [("error_code", .text error.1), ("message", .text error.2)] (by simp)

def buildWorkspaceTreeResponse (files : Files) (now : TimeText) (command : CommandEnvelope) :
    Except WorkspaceInspectError (Encoded 5) := do
  let placementId ← workspaceCommandPlacementId command
  let view ← listWorkspaceTree files command
  return encodeTree placementId view now

def buildWorkspaceFileResponse (files : Files) (now : TimeText) (command : CommandEnvelope) :
    Except WorkspaceInspectError (Encoded 3) := do
  let placementId ← workspaceCommandPlacementId command
  let view ← inspectWorkspaceFile files command
  return workspaceFileStatusResponse placementId view now

/-- `workspace_success_payload`, or the payload of what went wrong. -/
def workspaceCommandResult {depth : Nat} :
    Except WorkspaceInspectError (Encoded depth) → CommandState × JsonValue
  | .ok response => (.completed, response.value)
  | .error e => (.failed, (encodeInspectError e).value)

end Uprava.Node
