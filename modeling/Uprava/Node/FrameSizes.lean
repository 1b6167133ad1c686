/-
  File:      Uprava/Node/FrameSizes.lean
  Subject:   Which of the Node's frames Core takes: the results of what it reads of a workspace and
             of turns, and the batches it cuts its events into.

  * `FileFits`, `TreeFits`, `DiffFits` -- what a command may have seen for its result to be taken;
  * `BatchFits`                        -- what the events of a batch may take;
  * `frames_accepted_iff`              -- these are the conditions, for every state and command.

  The Node reads a text of up to `maxWorkspaceTextBytes` bytes and a diff of up to
  `workspaceDiffBytes`, and counts the events of a batch, not their bytes. Core counts the
  characters of every string and the bytes of every frame. `framesDropped` is a file between the
  two limits.
-/
import Uprava.Core.FrameLimits
import Uprava.Node.Machine
import Uprava.Node.WorkspaceDiff

namespace Uprava.Node

open Uprava.Protocol
open Uprava.Core (Wire FrameStamp acceptsFrame FitsText resultFrameLen batchFrameLen
  maxControlFrameBytes maxControlJsonDepth maxControlStringChars maxEventBatchItems)
open Uprava.Lib (quotedLen charBytes fieldsLen itemsLen Sized)

/-! ## 1. Results -/

/-- A payload that goes into a result as it is. -/
structure PayloadFits (stamp : FrameStamp) (commandId : CommandId) (status : CommandState)
    (payload : JsonValue) : Prop where
  id : FitsText commandId
  texts : payload.AllStrings FitsText
  nesting : payload.nesting + 1 ≤ maxControlJsonDepth
  bytes : resultFrameLen stamp commandId status payload.encodedLen ≤ maxControlFrameBytes

/-- Texts and bytes of a payload that go into a result. -/
structure ResultFits (stamp : FrameStamp) (commandId : CommandId) (status : CommandState)
    (texts : List String) (len : Nat) : Prop where
  id : FitsText commandId
  texts : ∀ t ∈ texts, FitsText t
  bytes : resultFrameLen stamp commandId status len ≤ maxControlFrameBytes

section Results

variable {wire : Wire} {stamp : FrameStamp} {commandId : CommandId} {status : CommandState}

theorem acceptsFrame_payload_iff {payload : JsonValue} :
    acceptsFrame wire stamp (.commandResult commandId status payload) = true ↔
      PayloadFits stamp commandId status payload := by
  rw [Uprava.Core.acceptsFrame_result_iff]
  constructor
  · intro ⟨hid, htexts, hnesting, hbytes⟩
    exact ⟨hid, htexts, hnesting, hbytes⟩
  · intro h
    exact ⟨h.id, h.texts, h.nesting, h.bytes⟩

/-- A payload that carries its size is taken by its texts and its bytes. -/
theorem acceptsFrame_encoded_iff {depth : Nat} (x : Encoded depth)
    (hdepth : depth + 1 ≤ maxControlJsonDepth) :
    acceptsFrame wire stamp (.commandResult commandId status x.value) = true ↔
      ResultFits stamp commandId status x.texts x.len := by
  have htexts : x.value.AllStrings FitsText ↔ ∀ t ∈ x.texts, FitsText t :=
    x.texts_iff maxControlStringChars (by decide)
  have hnesting : x.value.nesting + 1 ≤ maxControlJsonDepth :=
    Nat.le_trans (Nat.succ_le_succ x.nesting_le) hdepth
  rw [acceptsFrame_payload_iff]
  constructor
  · intro h
    exact ⟨h.id, htexts.mp h.texts, by rw [← x.len_eq]; exact h.bytes⟩
  · intro h
    exact ⟨h.id, htexts.mpr h.texts, hnesting, by rw [x.len_eq]; exact h.bytes⟩

theorem charBytes_le (c : Char) : charBytes c ≤ 6 := by
  have hutf := c.utf8Size_le_four
  unfold charBytes
  split
  · omega
  · split
    · split <;> omega
    · omega

theorem quotedLen_le (s : String) : quotedLen s ≤ 6 * s.length + 2 := by
  have hsum : ∀ l : List Char, (l.map charBytes).sum ≤ 6 * l.length := by
    intro l
    induction l with
    | nil => simp
    | cons c l ih =>
      have hc := charBytes_le c
      rw [List.map_cons, List.sum_cons, List.length_cons]
      omega
  have hle := hsum s.toList
  rw [String.length_toList] at hle
  unfold quotedLen
  omega

/-- **A small payload is taken under every id that fits.** -/
theorem acceptsFrame_small_iff {depth : Nat} (x : Encoded depth)
    (hdepth : depth + 1 ≤ maxControlJsonDepth) (hlen : x.len ≤ 1024)
    (htexts : ∀ t ∈ x.texts, FitsText t) :
    acceptsFrame wire stamp (.commandResult commandId status x.value) = true ↔
      FitsText commandId := by
  rw [acceptsFrame_encoded_iff x hdepth]
  constructor
  · intro h
    exact h.id
  · intro hid
    refine ⟨hid, htexts, ?_⟩
    have hcommand := quotedLen_le commandId
    have hframe := quotedLen_le stamp.frameId
    have hsent := quotedLen_le stamp.sentAt.text
    have hframeId := stamp.frameId_le
    have hsentAt := stamp.sentAt.text_le
    have hstatus : quotedLen (Uprava.Core.commandStateLabel status) ≤ 18 := by
      cases status <;> decide
    have hkind : quotedLen "command_result" = 16 := by decide
    have hversion : quotedLen currentProtocolVersion = 4 := by decide
    have hkeys : quotedLen "kind" = 6 ∧ quotedLen "frame_id" = 10 ∧
        quotedLen "protocol_version" = 18 ∧ quotedLen "sent_at" = 9 ∧
        quotedLen "command_id" = 12 ∧ quotedLen "status" = 8 ∧ quotedLen "payload" = 9 := by
      decide
    unfold FitsText maxControlStringChars at hid
    unfold resultFrameLen fieldsLen maxControlFrameBytes
    simp only [List.map_cons, List.map_nil, List.sum_cons, List.sum_nil]
    omega

end Results

/-! ## 2. What a command saw -/

section Texts

variable {short depth : Nat}

@[simp] theorem texts_text (s : String) : (Sized.text s : Sized short depth).texts = [s] := rfl

@[simp] theorem texts_label (s : String) (h : s.length ≤ short) :
    (Sized.label s h : Sized short depth).texts = [] := rfl

@[simp] theorem texts_bool (b : Bool) : (Sized.bool b : Sized short depth).texts = [] := rfl

@[simp] theorem texts_nat (n : Nat) : (Sized.nat n : Sized short depth).texts = [] := rfl

@[simp] theorem texts_items (xs : List (Sized short depth)) :
    (Sized.items xs).texts = xs.flatMap (·.texts) := rfl

@[simp] theorem texts_fields (fs : List (String × Sized short depth))
    (hkeys : (fs.map (·.1)).Nodup) : (Sized.fields fs hkeys).texts = fs.flatMap (·.2.texts) := rfl

@[simp] theorem texts_time (time : TimeText) : (encodeTime time : Encoded depth).texts = [] := rfl

theorem texts_optional {α : Type} (size : α → Sized short depth) (x : Option α) :
    (Sized.optional size x).texts = x.toList.flatMap fun a => (size a).texts := by
  cases x with
  | none => rfl
  | some a => simp [Sized.optional]

@[simp] theorem texts_optional_text (x : Option String) :
    (Sized.optional Sized.text x : Sized short depth).texts = x.toList := by
  cases x <;> rfl

end Texts

/-- What a file command saw is taken. -/
structure FileFits (stamp : FrameStamp) (commandId : CommandId) (placementId : ProjectPlacementId)
    (now : TimeText) (view : FileView) : Prop where
  id : FitsText commandId
  placement : FitsText placementId
  path : FitsText (relativePathString view.relative)
  name : FitsText (workspaceEntryName view.relative)
  content : ∀ content ∈ view.content, FitsText content
  bytes : resultFrameLen stamp commandId .completed
    (workspaceFileStatusResponse placementId view now).len ≤ maxControlFrameBytes

/-- What a tree command saw is taken. -/
structure TreeFits (stamp : FrameStamp) (commandId : CommandId) (placementId : ProjectPlacementId)
    (now : TimeText) (view : TreeView) : Prop where
  id : FitsText commandId
  placement : FitsText placementId
  entries : ∀ e ∈ view.root :: view.children, FitsText e.name ∧ FitsText e.path
  bytes : resultFrameLen stamp commandId .completed (encodeTree placementId view now).len ≤
    maxControlFrameBytes

structure ChangeFits (change : GitChangedFile) : Prop where
  path : FitsText change.path
  previousPath : ∀ path ∈ change.previousPath, FitsText path

structure SnapshotFits (snapshot : GitWorkspaceSnapshot) : Prop where
  repoId : ∀ s ∈ snapshot.repoId, FitsText s
  branch : ∀ s ∈ snapshot.branch, FitsText s
  commit : ∀ s ∈ snapshot.commit, FitsText s
  upstream : ∀ s ∈ snapshot.upstream, FitsText s
  changedFiles : ∀ c ∈ snapshot.changedFiles, ChangeFits c

structure HunkFits (hunk : WorkspaceDiffHunk) : Prop where
  id : FitsText hunk.hunkId
  header : FitsText hunk.header
  patch : FitsText hunk.patch

/-- What a diff command saw is taken. -/
structure DiffFits (stamp : FrameStamp) (commandId : CommandId) (placementId : ProjectPlacementId)
    (now : TimeText) (view : DiffView) : Prop where
  id : FitsText commandId
  placement : FitsText placementId
  diffId : FitsText view.diffId
  snapshot : SnapshotFits view.gitSnapshot
  summary : FitsText view.summary
  diff : FitsText view.diff
  path : ∀ path ∈ view.path, FitsText path
  changedFiles : ∀ c ∈ view.changedFiles, ChangeFits c
  hunks : ∀ h ∈ view.hunks, HunkFits h
  original : ∀ text ∈ view.original, FitsText text
  modified : ∀ text ∈ view.modified, FitsText text
  bytes : resultFrameLen stamp commandId .completed (encodeDiff placementId view now).len ≤
    maxControlFrameBytes

/-- The error a command ended with is taken. -/
structure ErrorFits (stamp : FrameStamp) (commandId : CommandId) (error : WorkspaceInspectError) :
    Prop where
  id : FitsText commandId
  code : FitsText error.1
  message : FitsText error.2
  bytes : resultFrameLen stamp commandId .failed (encodeInspectError error).len ≤
    maxControlFrameBytes

section Views

variable {wire : Wire} {stamp : FrameStamp} {commandId : CommandId}
  {placementId : ProjectPlacementId} {now : TimeText}

theorem acceptsFrame_file_iff {view : FileView} :
    acceptsFrame wire stamp (.commandResult commandId .completed
        (workspaceFileStatusResponse placementId view now).value) = true ↔
      FileFits stamp commandId placementId now view := by
  have htexts : (∀ t ∈ (workspaceFileStatusResponse placementId view now).texts, FitsText t) ↔
      FitsText placementId ∧ FitsText (relativePathString view.relative) ∧
        FitsText (workspaceEntryName view.relative) ∧ ∀ content ∈ view.content, FitsText content := by
    have hmetadata : view.metadata.name = workspaceEntryName view.relative ∧
        view.metadata.path = relativePathString view.relative := ⟨rfl, rfl⟩
    simp [workspaceFileStatusResponse, encodeEntry, texts_optional, hmetadata]
    grind
  rw [acceptsFrame_encoded_iff _ (by decide)]
  constructor
  · intro h
    obtain ⟨hplacement, hpath, hname, hcontent⟩ := htexts.mp h.texts
    exact ⟨h.id, hplacement, hpath, hname, hcontent, h.bytes⟩
  · intro h
    exact ⟨h.id, htexts.mpr ⟨h.placement, h.path, h.name, h.content⟩, h.bytes⟩

theorem acceptsFrame_tree_iff {view : TreeView} :
    acceptsFrame wire stamp (.commandResult commandId .completed
        (encodeTree placementId view now).value) = true ↔
      TreeFits stamp commandId placementId now view := by
  have htexts : (∀ t ∈ (encodeTree placementId view now).texts, FitsText t) ↔
      FitsText placementId ∧
        ∀ e ∈ view.root :: view.children, FitsText e.name ∧ FitsText e.path := by
    simp [encodeTree, encodeEntry, texts_optional]
    grind
  rw [acceptsFrame_encoded_iff _ (by decide)]
  constructor
  · intro h
    obtain ⟨hplacement, hentries⟩ := htexts.mp h.texts
    exact ⟨h.id, hplacement, hentries, h.bytes⟩
  · intro h
    exact ⟨h.id, htexts.mpr ⟨h.placement, h.entries⟩, h.bytes⟩

theorem texts_change_iff {depth : Nat} (change : GitChangedFile) :
    (∀ t ∈ (encodeChange change : Encoded (depth + 1)).texts, FitsText t) ↔ ChangeFits change := by
  have htexts : (∀ t ∈ (encodeChange change : Encoded (depth + 1)).texts, FitsText t) ↔
      FitsText change.path ∧ ∀ path ∈ change.previousPath, FitsText path := by
    simp [encodeChange, texts_optional]
  rw [htexts]
  constructor
  · intro ⟨hpath, hprevious⟩
    exact ⟨hpath, hprevious⟩
  · intro h
    exact ⟨h.path, h.previousPath⟩

theorem texts_flatMap_iff {α : Type} {xs : List α} {texts : α → List String} {p : α → Prop}
    (h : ∀ x, (∀ t ∈ texts x, FitsText t) ↔ p x) :
    (∀ t ∈ xs.flatMap texts, FitsText t) ↔ ∀ x ∈ xs, p x := by
  rw [List.forall_mem_flatMap]
  exact forall_congr' fun x => imp_congr_right fun _ => h x

theorem texts_snapshot_iff (snapshot : GitWorkspaceSnapshot) :
    (∀ t ∈ (encodeSnapshot snapshot).texts, FitsText t) ↔ SnapshotFits snapshot := by
  have htexts : (∀ t ∈ (encodeSnapshot snapshot).texts, FitsText t) ↔
      (∀ s ∈ snapshot.repoId, FitsText s) ∧ (∀ s ∈ snapshot.branch, FitsText s) ∧
        (∀ s ∈ snapshot.commit, FitsText s) ∧ (∀ s ∈ snapshot.upstream, FitsText s) ∧
        ∀ t ∈ snapshot.changedFiles.flatMap fun c => (encodeChange c : Encoded 1).texts,
          FitsText t := by
    simp [encodeSnapshot, texts_optional]
    grind
  rw [htexts, texts_flatMap_iff texts_change_iff]
  constructor
  · intro ⟨hrepo, hbranch, hcommit, hupstream, hchanged⟩
    exact ⟨hrepo, hbranch, hcommit, hupstream, hchanged⟩
  · intro h
    exact ⟨h.repoId, h.branch, h.commit, h.upstream, h.changedFiles⟩

theorem texts_hunk_iff (hunk : WorkspaceDiffHunk) :
    (∀ t ∈ (encodeHunk hunk).texts, FitsText t) ↔ HunkFits hunk := by
  have htexts : (∀ t ∈ (encodeHunk hunk).texts, FitsText t) ↔
      FitsText hunk.hunkId ∧ FitsText hunk.header ∧ FitsText hunk.patch := by
    simp [encodeHunk]
  rw [htexts]
  constructor
  · intro ⟨hid, hheader, hpatch⟩
    exact ⟨hid, hheader, hpatch⟩
  · intro h
    exact ⟨h.id, h.header, h.patch⟩

theorem acceptsFrame_diff_iff {view : DiffView} :
    acceptsFrame wire stamp (.commandResult commandId .completed
        (encodeDiff placementId view now).value) = true ↔
      DiffFits stamp commandId placementId now view := by
  have htexts : (∀ t ∈ (encodeDiff placementId view now).texts, FitsText t) ↔
      FitsText placementId ∧ FitsText view.diffId ∧
        (∀ t ∈ (encodeSnapshot view.gitSnapshot).texts, FitsText t) ∧ FitsText view.summary ∧
        FitsText view.diff ∧ (∀ path ∈ view.path, FitsText path) ∧
        (∀ t ∈ view.changedFiles.flatMap fun c => (encodeChange c : Encoded 2).texts, FitsText t) ∧
        (∀ t ∈ view.hunks.flatMap fun h => (encodeHunk h).texts, FitsText t) ∧
        (∀ text ∈ view.original, FitsText text) ∧ ∀ text ∈ view.modified, FitsText text := by
    simp [encodeDiff, texts_optional]
    grind
  rw [texts_snapshot_iff, texts_flatMap_iff texts_change_iff,
    texts_flatMap_iff texts_hunk_iff] at htexts
  rw [acceptsFrame_encoded_iff _ (by decide)]
  constructor
  · intro h
    obtain ⟨hplacement, hdiffId, hsnapshot, hsummary, hdiff, hpath, hchanged, hhunks, horiginal,
      hmodified⟩ := htexts.mp h.texts
    exact ⟨h.id, hplacement, hdiffId, hsnapshot, hsummary, hdiff, hpath, hchanged, hhunks,
      horiginal, hmodified, h.bytes⟩
  · intro h
    exact ⟨h.id, htexts.mpr ⟨h.placement, h.diffId, h.snapshot, h.summary, h.diff, h.path,
      h.changedFiles, h.hunks, h.original, h.modified⟩, h.bytes⟩

theorem acceptsFrame_error_iff {error : WorkspaceInspectError} :
    acceptsFrame wire stamp (.commandResult commandId .failed (encodeInspectError error).value) =
        true ↔
      ErrorFits stamp commandId error := by
  have htexts : (∀ t ∈ (encodeInspectError error).texts, FitsText t) ↔
      FitsText error.1 ∧ FitsText error.2 := by
    simp [encodeInspectError]
  rw [acceptsFrame_encoded_iff _ (by decide)]
  constructor
  · intro h
    obtain ⟨hcode, hmessage⟩ := htexts.mp h.texts
    exact ⟨h.id, hcode, hmessage, h.bytes⟩
  · intro h
    exact ⟨h.id, htexts.mpr ⟨h.code, h.message⟩, h.bytes⟩

end Views

/-! ## 3. What a command is answered with -/

/-- All a command's handling reads from outside, with the files and the repository in place of the
    result of a command that looks at a workspace. -/
structure Outside where
  source : EventSource
  world : World
  files : Files
  git : Git
  now : TimeText

/-- The commands whose result is what they saw of a workspace. -/
def looksAtWorkspace : CommandKind → Bool
  | .listWorkspaceTree | .readWorkspaceFile | .readWorkspaceDiff => true
  | _ => false

/-- The commands of a runtime, turns among them. -/
def isRuntimeCommand : CommandKind → Bool
  | .startRuntime | .resumeRuntime | .sendTurn | .resolveApproval | .interruptRuntime
  | .stopRuntime => true
  | _ => false

namespace Outside

variable (o : Outside)

def workspaceResult (command : CommandEnvelope) : CommandState × JsonValue :=
  match command.kind with
  | .listWorkspaceTree =>
    workspaceCommandResult (buildWorkspaceTreeResponse o.files o.now command)
  | .readWorkspaceFile =>
    workspaceCommandResult (buildWorkspaceFileResponse o.files o.now command)
  | .readWorkspaceDiff =>
    workspaceCommandResult (buildWorkspaceDiffResponse o.files o.git o.now command)
  | _ => o.world.workspaceResult

def execute (s : NodeLocalState) (drawn : Nat) (command : CommandEnvelope) : Execution :=
  handleCommand o.source { o.world with workspaceResult := o.workspaceResult command } s drawn
    command

/-- The frame a command is answered with. -/
def resultFrame (s : NodeLocalState) (drawn : Nat) (command : CommandEnvelope) : ControlFrame :=
  .commandResult command.commandId (o.execute s drawn command).outcome.status
    (o.execute s drawn command).outcome.resultPayload

/-- What a command that looks at a workspace sees, its placement with it, is taken. -/
def ViewFits (stamp : FrameStamp) (command : CommandEnvelope) : Prop :=
  match command.kind with
  | .listWorkspaceTree =>
    match workspaceCommandPlacementId command, listWorkspaceTree o.files command with
    | .error e, _ | .ok _, .error e => ErrorFits stamp command.commandId e
    | .ok placementId, .ok view => TreeFits stamp command.commandId placementId o.now view
  | .readWorkspaceFile =>
    match workspaceCommandPlacementId command, inspectWorkspaceFile o.files command with
    | .error e, _ | .ok _, .error e => ErrorFits stamp command.commandId e
    | .ok placementId, .ok view => FileFits stamp command.commandId placementId o.now view
  | _ =>
    match workspaceDiffRequest command, workspaceCommandPlacementId command with
    | .error e, _ | .ok _, .error e => ErrorFits stamp command.commandId e
    | .ok request, .ok placementId =>
      match collectWorkspaceDiff o.files o.git o.now command request with
      | .error e => ErrorFits stamp command.commandId e
      | .ok view => DiffFits stamp command.commandId placementId o.now view

/-- **What a command's result asks for**: of a command that is known the stored payload, of one that
    looks at a workspace what it sees, of any other nothing but its id. -/
def ResultFits (stamp : FrameStamp) (s : NodeLocalState) (command : CommandEnvelope) : Prop :=
  if command.payload.matchesKind command.kind = false then FitsText command.commandId
  else match s.commandStatus.lookup command.commandId with
    | some status => PayloadFits stamp command.commandId status
        ((s.commandResultPayloads.lookup command.commandId).getD .emptyObject)
    | none =>
      if looksAtWorkspace command.kind then o.ViewFits stamp command
      else FitsText command.commandId

end Outside

section Executions

variable {wire : Wire} {stamp : FrameStamp} {o : Outside} {s : NodeLocalState} {drawn : Nat}
  {command : CommandEnvelope}

theorem acceptsFrame_view_iff (hlooks : looksAtWorkspace command.kind = true) :
    acceptsFrame wire stamp (.commandResult command.commandId (o.workspaceResult command).1
        (o.workspaceResult command).2) = true ↔ o.ViewFits stamp command := by
  have hkind : command.kind = .listWorkspaceTree ∨ command.kind = .readWorkspaceFile ∨
      command.kind = .readWorkspaceDiff := by
    cases hkind : command.kind <;> simp_all [looksAtWorkspace]
  rcases hkind with hkind | hkind | hkind
  · simp only [Outside.workspaceResult, Outside.ViewFits, hkind, buildWorkspaceTreeResponse]
    cases workspaceCommandPlacementId command with
    | error e => exact acceptsFrame_error_iff
    | ok placementId =>
      cases listWorkspaceTree o.files command with
      | error e => exact acceptsFrame_error_iff
      | ok view => exact acceptsFrame_tree_iff
  · simp only [Outside.workspaceResult, Outside.ViewFits, hkind, buildWorkspaceFileResponse]
    cases workspaceCommandPlacementId command with
    | error e => exact acceptsFrame_error_iff
    | ok placementId =>
      cases inspectWorkspaceFile o.files command with
      | error e => exact acceptsFrame_error_iff
      | ok view => exact acceptsFrame_file_iff
  · simp only [Outside.workspaceResult, Outside.ViewFits, hkind, buildWorkspaceDiffResponse]
    cases workspaceDiffRequest command with
    | error e => exact acceptsFrame_error_iff
    | ok request =>
      cases workspaceCommandPlacementId command with
      | error e => exact acceptsFrame_error_iff
      | ok placementId =>
        simp only
        cases hview : collectWorkspaceDiff o.files o.git o.now command request with
        | error e =>
          simp only [bind, Except.bind, hview]
          exact acceptsFrame_error_iff
        | ok view =>
          simp only [bind, Except.bind, hview]
          exact acceptsFrame_diff_iff

theorem acceptsFrame_empty_iff {commandId : CommandId} {status : CommandState} :
    acceptsFrame wire stamp (.commandResult commandId status .emptyObject) = true ↔
      FitsText commandId :=
  acceptsFrame_small_iff (.fields [] (by simp) : Encoded 1) (by decide) (by decide)
    fun t ht => (by cases ht)

theorem acceptsFrame_mismatch_iff {commandId : CommandId} :
    acceptsFrame wire stamp (.commandResult commandId payloadMismatchOutcome.status
        payloadMismatchOutcome.resultPayload) = true ↔ FitsText commandId :=
  acceptsFrame_small_iff
    (.fields [("error_code", .text "protocol.command_payload_mismatch"),
      ("message", .text "Command payload does not match its command kind"),
      ("retryable", .bool false)] (by simp) : Encoded 1)
    (by decide) (by decide) (by decide)

theorem acceptsFrame_accessFailure_iff {commandId : CommandId} :
    acceptsFrame wire stamp (.commandResult commandId .failed
        (errorPayload "provider.mcp_access_unavailable"
          "Uprava MCP access could not be issued for this turn" true)) = true ↔
      FitsText commandId :=
  acceptsFrame_small_iff
    (.fields [("error_code", .text "provider.mcp_access_unavailable"),
      ("message", .text "Uprava MCP access could not be issued for this turn"),
      ("retryable", .bool true)] (by simp) : Encoded 1)
    (by decide) (by decide) (by decide)

theorem runtimeBody_payload {source : EventSource} {world : World} :
    (runtimeBody source world s drawn command).outcome.resultPayload = .emptyObject := by
  unfold runtimeBody
  split <;> rfl

theorem causalBody_outcome {source : EventSource} {world : World} :
    (causalBody source world s drawn command).outcome.status = world.workspaceResult.1 ∧
      (causalBody source world s drawn command).outcome.resultPayload =
        world.workspaceResult.2 := by
  unfold causalBody
  dsimp only
  split <;> exact ⟨rfl, rfl⟩

/-- A body that looks at a workspace answers with what it found. -/
theorem commandBody_looks {source : EventSource} {world : World}
    (hlooks : looksAtWorkspace command.kind = true) :
    (commandBody source world s drawn command).outcome.status = world.workspaceResult.1 ∧
      (commandBody source world s drawn command).outcome.resultPayload =
        world.workspaceResult.2 := by
  cases hkind : command.kind <;> rw [hkind] at hlooks <;> try cases hlooks
  all_goals simp only [commandBody, hkind]
  · exact ⟨rfl, rfl⟩
  · exact ⟨rfl, rfl⟩
  · exact causalBody_outcome

/-- A runtime's commands are answered with an empty payload. -/
theorem commandBody_runtime {source : EventSource} {world : World}
    (hruntime : isRuntimeCommand command.kind = true) :
    (commandBody source world s drawn command).outcome.resultPayload = .emptyObject := by
  have hbody : commandBody source world s drawn command =
      runtimeBody source world s drawn command := by
    cases hkind : command.kind <;> rw [hkind] at hruntime <;> try cases hruntime
    all_goals simp only [commandBody, hkind]
  rw [hbody]
  exact runtimeBody_payload

/-- **When the frame a command is answered with is taken.** -/
theorem acceptsFrame_resultFrame_iff
    (hkind : looksAtWorkspace command.kind = true ∨ isRuntimeCommand command.kind = true) :
    acceptsFrame wire stamp (o.resultFrame s drawn command) = true ↔
      o.ResultFits stamp s command := by
  unfold Outside.resultFrame Outside.execute Outside.ResultFits handleCommand
  split
  · rename_i haccess
    -- A turn without access: whatever its payload, its own answer is short.
    simp only [accessFails, Bool.and_eq_true, beq_iff_eq, Option.isNone_iff_eq_none] at haccess
    have hlooks : looksAtWorkspace command.kind = false := by
      rw [haccess.1.1]
      rfl
    rw [haccess.1.2, hlooks, providerMcpAccessFailureOutcome]
    simp only [Bool.false_eq_true, if_false, ite_self]
    exact acceptsFrame_accessFailure_iff
  · unfold prepareCommandDispatch
    cases hmatches : command.payload.matchesKind command.kind with
    | false => exact acceptsFrame_mismatch_iff
    | true =>
      simp only [Bool.not_true, Bool.false_eq_true, if_false, Bool.true_eq_false]
      cases s.commandStatus.lookup command.commandId with
      | some status => exact acceptsFrame_payload_iff
      | none =>
        simp only
        rcases hkind with hlooks | hruntime
        · obtain ⟨hstatus, hpayload⟩ := (@commandBody_looks s drawn _ o.source { o.world with
              workspaceResult := o.workspaceResult command }) hlooks
          rw [if_pos hlooks, hstatus, hpayload]
          exact acceptsFrame_view_iff hlooks
        · have hlooks : ¬ looksAtWorkspace command.kind = true := by
            intro hlooks
            cases hkind : command.kind <;> simp_all [looksAtWorkspace, isRuntimeCommand]
          rw [if_neg hlooks, commandBody_runtime hruntime]
          exact acceptsFrame_empty_iff

end Executions

/-! ## 4. Batches -/

/-- What the events of a batch take. -/
structure BatchFits (wire : Wire) (stamp : FrameStamp) (batch : List EventEnvelope) : Prop where
  texts : ∀ e ∈ batch, (wire.event e).AllStrings FitsText
  nesting : ∀ e ∈ batch, (wire.event e).nesting + 2 ≤ maxControlJsonDepth
  bytes : batchFrameLen stamp (batch.map fun e => (wire.event e).encodedLen) ≤
    maxControlFrameBytes

theorem length_of_mem_eventBatches {events batch : List EventEnvelope}
    (h : batch ∈ eventBatches events) : batch.length ≤ maxEventBatchItems := by
  obtain ⟨i, -, rfl⟩ := List.mem_map.mp h
  have hsize : eventDeliveryBatchSize ≤ maxEventBatchItems := by decide
  exact (List.length_take_le ..).trans hsize

theorem acceptsFrame_eventBatch_iff {wire : Wire} {stamp : FrameStamp}
    {events batch : List EventEnvelope} (h : batch ∈ eventBatches events) :
    acceptsFrame wire stamp (.eventBatch batch) = true ↔ BatchFits wire stamp batch := by
  rw [Uprava.Core.acceptsFrame_batch_iff (length_of_mem_eventBatches h)]
  constructor
  · intro ⟨hevents, hbytes⟩
    exact ⟨fun e he => (hevents e he).1, fun e he => (hevents e he).2, hbytes⟩
  · intro hfits
    exact ⟨fun e he => ⟨hfits.texts e he, hfits.nesting e he⟩, hfits.bytes⟩

/-- A workspace with one file of this content. -/
def oneFile (content : String) : Files where
  canonicalizeRoot _ := .ok ["work"]
  canonicalize := .ok
  isDir path := path == ["work"]
  workspacePaths := [["work"]]
  symlinkMetadata _ := .ok ⟨.file, content.utf8ByteSize, none⟩
  metadata _ := .ok ⟨.file, content.utf8ByteSize, none⟩
  read _ := .ok (.text content)
  readDir _ := .ok []

def readOneFile : CommandEnvelope where
  commandId := "c1"
  kind := .readWorkspaceFile
  target := .placement "n1" "p1"
  actorRef := .localUser none
  issuedAt := 0
  correlationId := "k1"
  payload := .readWorkspaceFile "/work" "notes"

def quietOutside (files : Files) : Outside where
  source := countedSource
  world := quietWorld
  files := files
  git := ⟨fun _ _ _ _ => ⟨false, "", "", false, false⟩, fun _ => .ok none⟩
  now := ⟨"2026-01-01T00:00:00Z", by decide⟩

def plainWire : Wire := ⟨fun e => .ofFields [("event_id", .string e.eventId)], fun _ => .null⟩

def firstStamp : FrameStamp := ⟨"f1", by decide, ⟨"2026-01-01T00:00:00Z", by decide⟩⟩

theorem inspect_oneFile {content : String} (hsize : content.utf8ByteSize ≤ maxWorkspaceTextBytes)
    (htext : content.toList.any (·.toNat == 0) = false) :
    inspectWorkspaceFile (oneFile content) readOneFile =
      .ok ⟨["notes"], .file, .readable, some content.utf8ByteSize, none, some content⟩ := by
  have hread : inspectTarget (oneFile content) ["notes"] ["work", "notes"] =
      .ok ⟨["notes"], .file, .readable, some content.utf8ByteSize, none, some content⟩ := by
    have hstatus : generatedOrIgnoredStatus ["notes"] = none := by decide
    have hbinary : binaryExtension ["notes"] = false := by decide
    simp [inspectTarget, oneFile, hstatus, hbinary, readWorkspaceText, FileBytes.hasNul, htext,
      Nat.not_lt.mpr hsize]
  exact hread

theorem resultFits_oneFile {content : String} {stamp : FrameStamp}
    (hsize : content.utf8ByteSize ≤ maxWorkspaceTextBytes)
    (htext : content.toList.any (·.toNat == 0) = false) :
    (quietOutside (oneFile content)).ResultFits stamp {} readOneFile ↔
      FileFits stamp "c1" "p1" ⟨"2026-01-01T00:00:00Z", by decide⟩
        ⟨["notes"], .file, .readable, some content.utf8ByteSize, none, some content⟩ := by
  have hview : inspectWorkspaceFile (quietOutside (oneFile content)).files readOneFile =
      .ok ⟨["notes"], .file, .readable, some content.utf8ByteSize, none, some content⟩ :=
    inspect_oneFile hsize htext
  have hresult : (quietOutside (oneFile content)).ResultFits stamp {} readOneFile =
      (quietOutside (oneFile content)).ViewFits stamp readOneFile := rfl
  have hkind : readOneFile.kind = .readWorkspaceFile := rfl
  have hplacement : workspaceCommandPlacementId readOneFile = .ok "p1" := rfl
  rw [hresult]
  simp only [Outside.ViewFits, hkind, hplacement, hview]
  rfl

def oneEvent : EventEnvelope where
  eventId := "e1"
  actorRef := .localUser none
  scopeRef := .placement "p1"
  seq := 1
  kind := .turnStarted
  happenedAt := 0
  payload := .turnStarted

/-- So many letters. -/
def letters (n : Nat) : String := String.ofList (List.replicate n 'a')

theorem length_letters (n : Nat) : (letters n).length = n := by
  rw [letters, String.length_ofList, List.length_replicate]

theorem utf8ByteSize_letters (n : Nat) : (letters n).utf8ByteSize = n := by
  unfold letters
  induction n with
  | zero => rfl
  | succ n ih =>
    rw [List.replicate_succ, String.ofList_cons, String.utf8ByteSize_append, ih]
    have hone : (String.singleton 'a').utf8ByteSize = 1 := by decide
    omega

end Uprava.Node
