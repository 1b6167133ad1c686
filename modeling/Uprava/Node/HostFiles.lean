/-
  File:      Uprava/Node/HostFiles.lean
  Subject:   The workspace commands over a tree of directories, files and links: the answers of the
             file system, and what each command reads and writes of it.

  The tree stands still during a call. A call of the file system either fails for a reason of its
  own (`fault`: permissions, the device) or answers what the tree says. An access is recorded under
  the path of the entry that the call arrives at, all links of the call's path resolved.

  The commands that only look are those of the workspace and diff modules, with their accesses
  beside their results (`*_result`). The one that writes is modelled here.
-/
import Uprava.Lib.FileTree
import Uprava.Lib.Traced
import Uprava.Node.WorkspaceDiff

namespace Uprava.Node

open Uprava.Protocol
open Uprava.Lib (Traced FileTree LinkTarget PathStep PathError)

/-! ## 1. The file system -/

structure RegularFile where
  bytes : FileBytes
  len : Nat
  deriving DecidableEq

def RegularFile.ofText (content : String) : RegularFile := ⟨.text content, content.utf8ByteSize⟩

/-- The calls of the file system that a path or an open file is given to. -/
inductive FileCall where
  | symlinkMetadata | metadata | canonicalize | read | readDir
  | openFile | createNew | fileMetadata | seek | readToEnd | setLen | writeAll | syncAll
  deriving DecidableEq

/-- No segment of a path is `.` or `..`. -/
def Plain (path : Segments) : Prop := ∀ segment ∈ path, segment ≠ "." ∧ segment ≠ ".."

structure Host where
  tree : FileTree String RegularFile
  plain : ∀ path ∈ tree.entries.keys, ∀ segment ∈ path, segment ≠ "." ∧ segment ≠ ".."
  /-- How many links the system follows on one path. -/
  linkLimit : Nat
  cwd : Segments
  cwd_directory : tree.find cwd = some .directory
  /-- `config.workspace_paths`. -/
  workspacePaths : List String
  /-- The length of what is no file. -/
  len : Segments → Nat
  modifiedAt : FileCall → Segments → Option TimeText
  /-- Why a call fails that the tree would let pass. A path is never missing that is there. -/
  fault : FileCall → Segments → Option IoError
  fault_kind : ∀ call path e, fault call path = some e → e.kind ≠ .notFound
  /-- Why a path given as a text does not resolve. -/
  rootFault : String → Option IoError
  /-- What a write that fails leaves of what it was to write. -/
  partlyWritten : String → RegularFile

namespace Host

variable (host : Host)

def ioError : PathError → IoError
  | .missing => ⟨.notFound, "No such file or directory (os error 2)"⟩
  | .notDirectory => ⟨.other, "Not a directory (os error 20)"⟩
  | .tooManyLinks => ⟨.other, "Too many levels of symbolic links (os error 40)"⟩

/-- How the system reads a segment of a path. -/
def stepOf (segment : String) : PathStep String :=
  if segment = "." then .here else if segment = ".." then .parent else .name segment

def steps (path : Segments) : List (PathStep String) := path.map stepOf

/-- A path as the system reads a text. -/
def pathOfText (text : String) : LinkTarget String where
  absolute := text.toList.head? == some '/'
  steps := (splitSlash text.toList).map fun part =>
    if part = [] then .here else stepOf (String.ofList part)

/-- The entry that a call arrives at. -/
def reach (call : FileCall) (follow : Bool) (path : Segments) : Except IoError Segments :=
  match host.fault call path with
  | some e => .error e
  | none => (host.tree.resolve follow host.linkLimit [] (steps path)).mapError ioError

def canonicalizeText (text : String) : Except IoError Segments :=
  match host.rootFault text with
  | some e => .error e
  | none =>
    if text = "" then .error (ioError .missing)
    else
      let path := pathOfText text
      (host.tree.resolve true host.linkLimit (if path.absolute then [] else host.cwd)
        path.steps).mapError ioError

def metadataAt (call : FileCall) (path : Segments) : Metadata :=
  match host.tree.find path with
  | some .directory => ⟨.directory, host.len path, host.modifiedAt call path⟩
  | some (.file content) => ⟨.file, content.len, host.modifiedAt call path⟩
  | some (.symlink _) => ⟨.symlink, host.len path, host.modifiedAt call path⟩
  | none => ⟨.other, host.len path, host.modifiedAt call path⟩

def readAt (path : Segments) : Except IoError FileBytes :=
  match host.tree.find path with
  | some (.file content) => .ok content.bytes
  | _ => .error ⟨.other, "Is a directory (os error 21)"⟩

def listAt (path : Segments) : Except IoError (List String) :=
  if host.tree.isDirectory path then .ok (host.tree.names path)
  else .error (ioError .notDirectory)

def files : Files where
  canonicalizeRoot := host.canonicalizeText
  canonicalize := host.reach .canonicalize true
  isDir path := match host.reach .metadata true path with
    | .ok path => host.tree.isDirectory path
    | .error _ => false
  workspacePaths := host.workspacePaths.filterMap fun text => (host.canonicalizeText text).toOption
  symlinkMetadata path :=
    (host.reach .symlinkMetadata false path).map (host.metadataAt .symlinkMetadata)
  metadata path := (host.reach .metadata true path).map (host.metadataAt .metadata)
  read path := host.reach .read true path >>= host.readAt
  readDir path := host.reach .readDir true path >>= host.listAt

theorem isDir_files (path : Segments) :
    host.files.isDir path = match host.reach .metadata true path with
      | .ok path => host.tree.isDirectory path
      | .error _ => false := rfl

/-! ## 2. Accesses -/

/-- What is read of an entry or written to it. -/
inductive Access where
  | read (path : Segments)
  | list (path : Segments)
  | create (path : Segments)
  | write (path : Segments) (content : RegularFile)
  deriving DecidableEq

def Access.path : Access → Segments
  | .read path | .list path | .create path | .write path _ => path

/-- The tree after an access. -/
def Access.apply (tree : FileTree String RegularFile) : Access → FileTree String RegularFile
  | .read _ | .list _ => tree
  | .create path => tree.writeFile path (.ofText "")
  | .write path content => tree.writeFile path content

/-- The tree that some accesses leave. -/
def after (accesses : List Access) : FileTree String RegularFile :=
  accesses.foldl Access.apply host.tree

/-- A program over the file system. -/
abbrev Program (α : Type) := Traced Access WorkspaceInspectError α

/-- `std::fs::read`. -/
def readFile (path : Segments) : Program (Except IoError FileBytes) :=
  Traced.call (match host.reach .read true path with
    | .ok path => if (host.readAt path).isOk then [.read path] else []
    | .error _ => []) (host.files.read path)

/-- `std::fs::read_dir`, with the entries. -/
def readDirectory (path : Segments) : Program (Except IoError (List String)) :=
  Traced.call (match host.reach .readDir true path with
    | .ok path => if host.tree.isDirectory path then [.list path] else []
    | .error _ => []) (host.files.readDir path)

theorem accesses_readFile (path : Segments) :
    (host.readFile path).accesses = match host.reach .read true path with
      | .ok path => if (host.readAt path).isOk then [.read path] else []
      | .error _ => [] := rfl

theorem accesses_readDirectory (path : Segments) :
    (host.readDirectory path).accesses = match host.reach .readDir true path with
      | .ok path => if host.tree.isDirectory path then [.list path] else []
      | .error _ => [] := rfl

/-! ## 3. Reading a file -/

def readWorkspaceText (relative target : Segments) (metadata : Metadata) : Program FileView := do
  let view (status : WorkspaceEntryStatus) (content : Option String) : FileView :=
    ⟨relative, metadata.kind, status, some metadata.len, metadata.modifiedAt, content⟩
  match ← host.readFile target with
  | .error e =>
    if e.kind = .permissionDenied then return view .permissionDenied none
    else Traced.lift (.error ("workspace.read_failed",
      "Failed to read " ++ relativePathString relative ++ ": " ++ e.text))
  | .ok bytes =>
    if bytes.hasNul then return view .binary none
    else match bytes with
      | .text content => return view .readable (some content)
      | .invalid _ => return view .binary none

def inspectTarget (relative target : Segments) : Program FileView :=
  match host.files.symlinkMetadata target with
  | .error e =>
    match e.kind with
    | .permissionDenied => return ⟨relative, .other, .permissionDenied, none, none, none⟩
    | .notFound => return ⟨relative, .other, .missing, none, none, none⟩
    | .other => Traced.lift (.error ("workspace.metadata_failed",
        "Failed to inspect " ++ relativePathString relative ++ ": " ++ e.text))
  | .ok metadata =>
    let view (status : WorkspaceEntryStatus) (byteLen : Option Nat) : FileView :=
      ⟨relative, metadata.kind, status, byteLen, metadata.modifiedAt, none⟩
    if metadata.kind = .symlink then return view .symlink none
    else if metadata.kind ≠ .file then return view .notFile (some metadata.len)
    else match generatedOrIgnoredStatus relative with
      | some status => return view status (some metadata.len)
      | none =>
        if maxWorkspaceTextBytes < metadata.len then return view .large (some metadata.len)
        else if binaryExtension relative then return view .binary (some metadata.len)
        else host.readWorkspaceText relative target metadata

def inspectWorkspaceFile (command : CommandEnvelope) : Program FileView := do
  let root ← canonicalWorkspaceRoot host.files (← workspaceCommandPath command)
  let relative ← safeWorkspaceRelativePath ((payloadPath command.payload).getD ".")
  match resolveExistingWorkspacePath host.files root relative with
  | .error e =>
    if e.1 = "workspace.path_missing" then return ⟨relative, .other, .missing, none, none, none⟩
    else Traced.lift (.error e)
  | .ok target => host.inspectTarget relative target

def buildWorkspaceFileResponse (now : TimeText) (command : CommandEnvelope) :
    Program (Encoded 3) := do
  let placementId ← workspaceCommandPlacementId command
  let view ← host.inspectWorkspaceFile command
  return workspaceFileStatusResponse placementId view now

/-! ## 4. Listing a directory -/

/-- What a tree command makes of the path it resolved. -/
def listTarget (relative path : Segments) : Program TreeView := do
  let entry := workspaceTreeEntry host.files path relative
  if entry.kind = .directory ∧ entry.status = .directory then
    match ← host.readDirectory path with
    | .ok names =>
      let sorted := names.mergeSort (entryLe host.files path)
      return ⟨entry, (sorted.take maxWorkspaceDirectoryEntries).map fun name =>
          workspaceTreeEntry host.files (path ++ [name]) (relative ++ [name]),
        decide (maxWorkspaceDirectoryEntries < names.length), some names.length⟩
    | .error e =>
      let status := if e.kind = .permissionDenied then .permissionDenied else .error
      return ⟨{ entry with status, expandable := false }, [], false, none⟩
  else return ⟨entry, [], false, none⟩

/-- A path that is missing is looked at all the same. -/
def treePath (root relative : Segments) : Except WorkspaceInspectError Segments :=
  match resolveExistingWorkspacePath host.files root relative with
  | .ok path => .ok path
  | .error e => if e.1 = "workspace.path_missing" then .ok (root ++ relative) else .error e

def listWorkspaceTree (command : CommandEnvelope) : Program TreeView := do
  let root ← canonicalWorkspaceRoot host.files (← workspaceCommandPath command)
  let relative ← safeWorkspaceRelativePath ((payloadPath command.payload).getD ".")
  let path ← host.treePath root relative
  host.listTarget relative path

def buildWorkspaceTreeResponse (now : TimeText) (command : CommandEnvelope) :
    Program (Encoded 5) := do
  let placementId ← workspaceCommandPlacementId command
  let view ← host.listWorkspaceTree command
  return encodeTree placementId view now

/-! ## 5. The work tree's side of a diff -/

/-- A diff's file once its path has resolved. -/
def readDiffTarget (target : Segments) : Program (Option String) :=
  match host.files.metadata target with
  | .error e => Traced.lift (.error
      ("workspace.metadata_failed", "Failed to inspect diff file: " ++ e.text))
  | .ok metadata =>
    if metadata.kind ≠ .file ∨ maxWorkspaceTextBytes < metadata.len then return none
    else do
      match ← host.readFile target with
      | .error e => Traced.lift (.error
          ("workspace.read_failed", "Failed to read diff file: " ++ e.text))
      | .ok bytes =>
        if bytes.hasNul then return none
        else match bytes with
          | .text content => return some content
          | .invalid _ => Traced.lift (.error ("workspace.diff_binary_file",
              "Workspace diff content is not UTF-8 text"))

def readWorkspaceDiffFile (root relative : Segments) : Program (Option String) :=
  match resolveExistingWorkspacePath host.files root relative with
  | .error e => if e.1 = "workspace.path_missing" then return none else Traced.lift (.error e)
  | .ok target => host.readDiffTarget target

/-! ## 6. Writing a file -/

structure WorkspaceFileWriteRequest where
  path : String
  content : String
  expectedContent : Option String
  deriving DecidableEq

/-- `workspace_command_payload::<WorkspaceFileWriteRequest>`. -/
def workspaceFileWriteRequest (command : CommandEnvelope) :
    Except WorkspaceInspectError WorkspaceFileWriteRequest :=
  match command.payload with
  | .writeWorkspaceFile _ request =>
    .ok { path := ((request.get "path").bind (·.asStr)).getD ""
          content := ((request.get "content").bind (·.asStr)).getD ""
          expectedContent := (request.get "expected_content").bind (·.asStr) }
  | _ => .error ("workspace.invalid_payload",
      "Workspace command payload does not match its command kind")

structure WorkspaceFileWriteResponse where
  placementId : ProjectPlacementId
  path : String
  metadata : WorkspaceEntry
  editId : String
  writtenAt : TimeText

/-- What `OpenOptions::open` fails with, as far as the write tells it apart. -/
inductive OpenErrorKind where
  | notFound | alreadyExists | loop | other
  deriving DecidableEq

structure OpenError where
  kind : OpenErrorKind
  text : String
  deriving DecidableEq

def openFault (e : IoError) : OpenError := ⟨.other, e.text⟩

def openError (e : PathError) : OpenError where
  kind := match e with
    | .missing => .notFound
    | .notDirectory => .other
    | .tooManyLinks => .loop
  text := (ioError e).text

/-- `open` for reading and writing with `O_NOFOLLOW`: the file it opens. -/
def openNoFollow (path : Segments) : Except OpenError Segments :=
  match host.fault .openFile path with
  | some e => .error (openFault e)
  | none =>
    match host.tree.resolve false host.linkLimit [] (steps path) with
    | .error e => .error (openError e)
    | .ok found =>
      match host.tree.find found with
      | some (.symlink _) => .error (openError .tooManyLinks)
      | some .directory => .error ⟨.other, "Is a directory (os error 21)"⟩
      | _ => .ok found

/-- `open` with `O_CREAT`, `O_EXCL` and `O_NOFOLLOW`: the file it makes. -/
def createNew (path : Segments) : Except OpenError Segments :=
  match host.fault .createNew path with
  | some e => .error (openFault e)
  | none =>
    match host.tree.resolve true host.linkLimit [] (steps path.dropLast) with
    | .error e => .error (openError e)
    | .ok folder =>
      let made := folder ++ path.getLast?.toList
      match host.tree.find made with
      | some _ => .error ⟨.alreadyExists, "File exists (os error 17)"⟩
      | none =>
        if host.tree.isDirectory folder then .ok made else .error (openError .notDirectory)

/-- A call on the file that is open, with what it does where it does not fail. -/
def fileCall (call : FileCall) (file : Segments) (accesses : List Access)
    (failure : IoError → WorkspaceInspectError) : Program Unit :=
  match host.fault call file with
  | some e => Traced.lift (.error (failure e))
  | none => Traced.call accesses ()

def validateOpenedWriteTarget (file relative : Segments) (expectedContent : Option String) :
    Program Unit := do
  let shown := joinSegments relative
  host.fileCall .fileMetadata file [] fun e =>
    ("workspace.metadata_failed", "Failed to inspect " ++ shown ++ ": " ++ e.text)
  let metadata := host.metadataAt .fileMetadata file
  if metadata.kind ≠ .file then
    Traced.lift (.error ("workspace.write_not_file", "Workspace file write target is not a file"))
  else if maxWorkspaceTextBytes < metadata.len then
    Traced.lift (.error ("workspace.write_large_file",
      "Workspace file write target is too large for lightweight editing"))
  else do
    host.fileCall .seek file [] fun e =>
      ("workspace.read_failed", "Failed to seek " ++ shown ++ " before writing: " ++ e.text)
    host.fileCall .readToEnd file [.read file] fun e =>
      ("workspace.read_failed", "Failed to read " ++ shown ++ " before writing: " ++ e.text)
    match host.readAt file with
    | .error e => Traced.lift (.error
        ("workspace.read_failed", "Failed to read " ++ shown ++ " before writing: " ++ e.text))
    | .ok bytes =>
      if bytes.hasNul then
        Traced.lift (.error ("workspace.write_binary_file",
          "Workspace file writes do not edit binary content"))
      else match bytes with
        | .invalid _ => Traced.lift (.error ("workspace.write_binary_file",
            "Workspace file writes only edit UTF-8 text"))
        | .text currentContent =>
          if expectedContent.any (· ≠ currentContent) then
            Traced.lift (.error ("workspace.write_conflict",
              "Workspace file changed before save; reload before writing"))
          else return ()

def openWorkspaceWriteTarget (target relative : Segments) (expectedContent : Option String) :
    Program Segments :=
  match host.openNoFollow target with
  | .ok file => do
    host.validateOpenedWriteTarget file relative expectedContent
    return file
  | .error error =>
    if error.kind = .notFound ∧ expectedContent = none then
      match host.createNew target with
      | .ok file => do
        Traced.call [.create file] ()
        return file
      | .error error => Traced.lift (.error (
          if error.kind = .loop then
            ("workspace.write_symlink", "Workspace file writes do not follow symlinks")
          else if error.kind = .alreadyExists then
            ("workspace.write_conflict",
              "Workspace file changed before save; reload before writing")
          else ("workspace.write_failed", "Failed to create " ++ joinSegments relative ++
            " for writing: " ++ error.text)))
    else Traced.lift (.error (
      if error.kind = .notFound then
        ("workspace.write_conflict", "Workspace file changed before save: target is now missing")
      else if error.kind = .loop then
        ("workspace.write_symlink", "Workspace file writes do not follow symlinks")
      else ("workspace.write_failed", "Failed to open " ++ joinSegments relative ++
        " for writing: " ++ error.text)))

/-- `write_all`: where it fails, a part of the content is written. -/
def writeAll (file : Segments) (content : String)
    (failure : IoError → WorkspaceInspectError) : Program Unit :=
  match host.fault .writeAll file with
  | some e => do
    Traced.call [.write file (host.partlyWritten content)] ()
    Traced.lift (.error (failure e))
  | none => Traced.call [.write file (.ofText content)] ()

/-- The file that is open gets its new content. -/
def replaceContent (file relative : Segments) (content : String) : Program Metadata := do
  let shown := joinSegments relative
  let failed (what : String) (e : IoError) : WorkspaceInspectError :=
    ("workspace.write_failed", "Failed to " ++ what ++ " " ++ shown ++ ": " ++ e.text)
  host.fileCall .setLen file [.write file (.ofText "")] (failed "truncate")
  host.fileCall .seek file [] (failed "seek")
  host.writeAll file content (failed "write")
  host.fileCall .syncAll file [] (failed "sync")
  host.fileCall .fileMetadata file [] fun e =>
    ("workspace.metadata_failed", "Failed to inspect written file " ++ shown ++ ": " ++ e.text)
  return ⟨.file, content.utf8ByteSize, host.modifiedAt .fileMetadata file⟩

def workspaceEntryStatusLabel : WorkspaceEntryStatus → String
  | .permissionDenied => "permission-denied"
  | .outsideWorkspace => "outside-workspace"
  | .notFile => "not-file"
  | .notDirectory => "not-directory"
  | status => status.label

/-- What is refused before the file system is asked for the file. -/
def checkWriteRequest (relative : Segments) (request : WorkspaceFileWriteRequest) :
    Except WorkspaceInspectError Unit :=
  if relative = [] then
    .error ("workspace.path_required", "Workspace file write requires a file path")
  else match generatedOrIgnoredStatus relative with
    | some status => .error ("workspace.protected_path",
        "Workspace file writes cannot target " ++ workspaceEntryStatusLabel status ++ " paths")
    | none =>
      if maxWorkspaceTextBytes < request.content.utf8ByteSize then
        .error ("workspace.write_too_large", "Workspace file writes are limited to " ++
          toString maxWorkspaceTextBytes ++ " bytes")
      else if (FileBytes.text request.content).hasNul then
        .error ("workspace.write_binary_content",
          "Workspace file writes only accept text content")
      else .ok ()

/-- The directory that a file is written in: no link. -/
def writeFolder (root relative : Segments) : Except WorkspaceInspectError Segments := do
  let parentPath ← resolveExistingWorkspacePath host.files root relative.dropLast
  match host.files.symlinkMetadata parentPath with
  | .error e => .error ("workspace.parent_metadata_failed",
      "Failed to inspect parent directory: " ++ e.text)
  | .ok metadata =>
    if metadata.kind ≠ .directory then
      .error ("workspace.parent_not_directory",
        "Workspace file write parent is not a directory")
    else .ok parentPath

/-- A write's target: the name in its directory. -/
def writeTarget (root relative : Segments) : Except WorkspaceInspectError Segments :=
  match relative.getLast? with
  | none => .error ("workspace.path_required", "Workspace file write requires a file name")
  | some fileName => do
    let parentPath ← host.writeFolder root relative
    if binaryExtension relative then
      .error ("workspace.write_binary_file",
        "Workspace file writes do not edit binary file types")
    else .ok (parentPath ++ [fileName])

def writeWorkspaceFile (now : TimeText) (command : CommandEnvelope) :
    Program WorkspaceFileWriteResponse := do
  let request ← workspaceFileWriteRequest command
  let placementId ← workspaceCommandPlacementId command
  let root ← canonicalWorkspaceRoot host.files (← workspaceCommandPath command)
  let relative ← safeWorkspaceRelativePath request.path
  checkWriteRequest relative request
  let target ← host.writeTarget root relative
  let file ← host.openWorkspaceWriteTarget target relative request.expectedContent
  let metadata ← host.replaceContent file relative request.content
  return {
    placementId
    path := relativePathString relative
    metadata := {
      name := workspaceEntryName relative
      path := relativePathString relative
      kind := metadata.kind
      status := workspaceStatusForEntry relative metadata
      classification := workspaceEntryClassification relative
      expandable := false
      byteLen := if metadata.kind = .file then some metadata.len else none
      modifiedAt := metadata.modifiedAt }
    editId := "workspace-edit-" ++ command.commandId
    writtenAt := now }

end Host

end Uprava.Node
