/-
  File:      Uprava/Protocol/Payloads.lean
  Subject:   The payload of an event as JSON: the fields of every kind, how a payload is built from
             an object of any shape, how it is sent and how it is read back.

  A payload is its kind and the row of that kind's fields. Three ways of building one stand side by
  side: most kinds read each field by itself, the runtime states read their fields as a whole or
  not at all, and a provider's activity puts whatever it does not know under `extension`. The
  object a payload is sent as carries its kind in one more field, `type`, and for an activity that
  field is one it does not know: built again from its own JSON, the activity nests what it was.
  How a time is written is the codec `time`.
-/
import Uprava.Lib.Codec
import Uprava.Protocol.Domain

namespace Uprava.Protocol.Payloads

open Uprava.Lib (Codec Field Holds JsonMap Names Row fieldNames holds_ofFields)

variable {Time : Type} [Inhabited Time] (time : Codec Time)

/-! ## 1. Fields -/

def text (name : String) : Field := ⟨String, name, .text, none, fun _ => ""⟩

def flag (name : String) : Field := ⟨Bool, name, .bool, none, fun _ => false⟩

/-- A field that may be missing: `null` and no entry are both no value. -/
def optional {α : Type} (name : String) (c : Codec α) (hnull : ∀ a, c.encode a ≠ .null) : Field :=
  ⟨Option α, name, c.option hnull, some none, fun _ => none⟩

def optionalText (name : String) : Field := optional name .text nofun

def optionalFlag (name : String) : Field := optional name .bool nofun

def optionalCount (name : String) : Field := optional name .uint64 nofun

def optionalInt (name : String) : Field := optional name .int64 nofun

def optionalJson (name : String) : Field := optional name .present Codec.present_ne_null

/-- A field without a fallback of its own: its record is never read field by field. -/
def required {α : Type} [Inhabited α] (name : String) (c : Codec α) : Field :=
  ⟨α, name, c, none, fun _ => default⟩

/-! ## 2. The types of the fields -/

def placementStates : Names PlacementState where
  all := [.pending, .validated, .missing, .readOnly, .error]
  name
    | .pending => "pending"
    | .validated => "validated"
    | .missing => "missing"
    | .readOnly => "read_only"
    | .error => "error"
  find_name k := by cases k <;> rfl

def taskRunStates : Names TaskRunState where
  all := [.queued, .preparingWorkspace, .startingRuntime, .running, .checking, .collectingEvidence,
    .succeeded, .failed, .cancelling, .cancelled, .timedOut]
  name
    | .queued => "queued"
    | .preparingWorkspace => "preparing_workspace"
    | .startingRuntime => "starting_runtime"
    | .running => "running"
    | .checking => "checking"
    | .collectingEvidence => "collecting_evidence"
    | .succeeded => "succeeded"
    | .failed => "failed"
    | .cancelling => "cancelling"
    | .cancelled => "cancelled"
    | .timedOut => "timed_out"
  find_name k := by cases k <;> rfl

def taskCleanupStates : Names TaskCleanupState where
  all := [.pending, .completed, .failed]
  name
    | .pending => "pending"
    | .completed => "completed"
    | .failed => "failed"
  find_name k := by cases k <;> rfl

inductive WarningSeverity where
  | info | warning | hardBlock
  deriving DecidableEq, Inhabited

def warningSeverities : Names WarningSeverity where
  all := [.info, .warning, .hardBlock]
  name
    | .info => "info"
    | .warning => "warning"
    | .hardBlock => "hard_block"
  find_name k := by cases k <;> rfl

inductive GitRepositoryState where
  | ready | notRepository | unavailable
  deriving DecidableEq, Inhabited

def gitRepositoryStates : Names GitRepositoryState where
  all := [.ready, .notRepository, .unavailable]
  name
    | .ready => "ready"
    | .notRepository => "not_repository"
    | .unavailable => "unavailable"
  find_name k := by cases k <;> rfl

inductive GitHeadState where
  | branch | detached | unborn
  deriving DecidableEq, Inhabited

def gitHeadStates : Names GitHeadState where
  all := [.branch, .detached, .unborn]
  name
    | .branch => "branch"
    | .detached => "detached"
    | .unborn => "unborn"
  find_name k := by cases k <;> rfl

inductive GitWorktreeKind where
  | primary | linked
  deriving DecidableEq, Inhabited

def gitWorktreeKinds : Names GitWorktreeKind where
  all := [.primary, .linked]
  name
    | .primary => "primary"
    | .linked => "linked"
  find_name k := by cases k <;> rfl

inductive GitOperation where
  | merge | rebase | cherryPick | revert | bisect
  deriving DecidableEq, Inhabited

def gitOperations : Names GitOperation where
  all := [.merge, .rebase, .cherryPick, .revert, .bisect]
  name
    | .merge => "merge"
    | .rebase => "rebase"
    | .cherryPick => "cherry_pick"
    | .revert => "revert"
    | .bisect => "bisect"
  find_name k := by cases k <;> rfl

inductive GitChangeKind where
  | added | modified | deleted | renamed | copied | untracked | unmerged | typeChanged | unknown
  deriving DecidableEq, Inhabited

def gitChangeKinds : Names GitChangeKind where
  all := [.added, .modified, .deleted, .renamed, .copied, .untracked, .unmerged, .typeChanged,
    .unknown]
  name
    | .added => "added"
    | .modified => "modified"
    | .deleted => "deleted"
    | .renamed => "renamed"
    | .copied => "copied"
    | .untracked => "untracked"
    | .unmerged => "unmerged"
    | .typeChanged => "type_changed"
    | .unknown => "unknown"
  find_name k := by cases k <;> rfl

def resourceBadge : List Field :=
  [required "kind" .text, required "severity" (.enum warningSeverities), required "label" .text]

def resourceBadgeCodec : Codec (Row resourceBadge) := .record resourceBadge (by decide)

def gitChangedFile : List Field :=
  [required "path" .text, optionalText "previous_path",
    optional "index_status" (.enum gitChangeKinds) nofun,
    optional "worktree_status" (.enum gitChangeKinds) nofun,
    required "conflicted" .bool, required "binary" .bool]

def gitChangedFileCodec : Codec (Row gitChangedFile) := .record gitChangedFile (by decide)

/-- `#[serde(default)]`: a snapshot without the list has an empty one. -/
def changedFiles : Field :=
  ⟨List (Row gitChangedFile), "changed_files", gitChangedFileCodec.items, some [], fun _ => []⟩

def gitWorkspaceSnapshot : List Field :=
  [required "state" (.enum gitRepositoryStates), optionalText "repo_id",
    optional "head_state" (.enum gitHeadStates) nofun, optionalText "branch",
    optionalText "commit", optionalText "upstream", required "ahead" .uint64,
    required "behind" .uint64, optional "worktree_kind" (.enum gitWorktreeKinds) nofun,
    optional "operation" (.enum gitOperations) nofun, changedFiles,
    required "staged_count" .uint64, required "unstaged_count" .uint64,
    required "untracked_count" .uint64, required "conflicted_count" .uint64,
    required "truncated" .bool, required "generated_at" time]

/-! ## 3. References -/

def textRange : List Field :=
  [optionalInt "start_line", optionalInt "end_line", optionalInt "start_offset",
    optionalInt "end_offset"]

def textRangeCodec : Codec (Row textRange) := .record textRange (by decide)

inductive ScopeKind where
  | runtime | session | node | placement | taskRun | unknown
  deriving DecidableEq, Inhabited

def scopeKinds : Names ScopeKind where
  all := [.runtime, .session, .node, .placement, .taskRun, .unknown]
  name
    | .runtime => "runtime"
    | .session => "session"
    | .node => "node"
    | .placement => "placement"
    | .taskRun => "task_run"
    | .unknown => "unknown"
  find_name k := by cases k <;> rfl

def scopeFields : ScopeKind → List Field
  | .runtime => [required "runtime_session_id" .text]
  | .session => [required "session_thread_id" .text]
  | .node => [required "node_id" .text]
  | .placement => [required "project_placement_id" .text]
  | .taskRun => [required "task_run_id" .text]
  | .unknown => [required "scope" .text]

def scopeRefCodec : Codec (Σ kind, Row (scopeFields kind)) :=
  .tagged "kind" scopeKinds scopeFields fun kind => by cases kind <;> decide

inductive RefKind where
  | node | project | placement | workspace | session | runtime | taskRun | turn | message
  | messageRange | block | artifact | artifactVersion | deduction | event | command | approval
  | warning | toolCall | file | fileRange | terminal | terminalCommand | terminalOutputRange
  | diffHunk | workspaceDiff | checkResult | workspaceEdit | traceEvent | externalEntity | unknown
  deriving DecidableEq, Inhabited

def refKinds : Names RefKind where
  all := [.node, .project, .placement, .workspace, .session, .runtime, .taskRun, .turn, .message,
    .messageRange, .block, .artifact, .artifactVersion, .deduction, .event, .command, .approval,
    .warning, .toolCall, .file, .fileRange, .terminal, .terminalCommand, .terminalOutputRange,
    .diffHunk, .workspaceDiff, .checkResult, .workspaceEdit, .traceEvent, .externalEntity,
    .unknown]
  name
    | .node => "node"
    | .project => "project"
    | .placement => "placement"
    | .workspace => "workspace"
    | .session => "session"
    | .runtime => "runtime"
    | .taskRun => "task_run"
    | .turn => "turn"
    | .message => "message"
    | .messageRange => "message_range"
    | .block => "block"
    | .artifact => "artifact"
    | .artifactVersion => "artifact_version"
    | .deduction => "deduction"
    | .event => "event"
    | .command => "command"
    | .approval => "approval"
    | .warning => "warning"
    | .toolCall => "tool_call"
    | .file => "file"
    | .fileRange => "file_range"
    | .terminal => "terminal"
    | .terminalCommand => "terminal_command"
    | .terminalOutputRange => "terminal_output_range"
    | .diffHunk => "diff_hunk"
    | .workspaceDiff => "workspace_diff"
    | .checkResult => "check_result"
    | .workspaceEdit => "workspace_edit"
    | .traceEvent => "trace_event"
    | .externalEntity => "external_entity"
    | .unknown => "unknown"
  find_name k := by cases k <;> rfl

def refFields : RefKind → List Field
  | .node => [required "node_id" .text]
  | .project => [required "project_id" .text]
  | .placement => [required "placement_id" .text]
  | .workspace => [required "placement_id" .text]
  | .session => [required "session_thread_id" .text]
  | .runtime => [required "runtime_session_id" .text]
  | .taskRun => [required "task_run_id" .text]
  | .turn => [required "turn_id" .text]
  | .message => [required "message_id" .text]
  | .messageRange => [required "message_id" .text, range]
  | .block => [required "block_id" .text]
  | .artifact => [required "artifact_id" .text]
  | .artifactVersion => [required "artifact_id" .text, required "version" .uint64]
  | .deduction => [required "deduction_id" .text]
  | .event => [required "event_id" .text, scopeRef, required "seq" .int64]
  | .command => [required "command_id" .text]
  | .approval => [required "approval_id" .text]
  | .warning => [required "warning_kind" .text, optionalText "command_id"]
  | .toolCall => [required "tool_call_id" .text]
  | .file => [required "placement_id" .text, required "path" .text, optionalText "version"]
  | .fileRange =>
    [required "placement_id" .text, required "path" .text, range, optionalText "version"]
  | .terminal => [required "terminal_id" .text, required "placement_id" .text]
  | .terminalCommand => [required "terminal_command_id" .text, optionalText "terminal_id"]
  | .terminalOutputRange => [required "terminal_command_id" .text, range]
  | .diffHunk => [required "diff_id" .text, required "hunk_id" .text]
  | .workspaceDiff => [required "diff_id" .text, required "placement_id" .text]
  | .checkResult => [required "check_run_id" .text, optionalText "failure_id"]
  | .workspaceEdit =>
    [required "edit_id" .text, optionalText "placement_id", optionalText "path"]
  | .traceEvent => [required "trace_event_id" .text]
  | .externalEntity => [required "integration_kind" .text, required "external_id" .text]
  | .unknown => [required "ref_type" .text, locator]
where
  range : Field := ⟨Row textRange, "range", textRangeCodec, none, Row.lenient textRange⟩
  scopeRef : Field :=
    ⟨Σ kind, Row (scopeFields kind), "scope_ref", scopeRefCodec, none, fun v =>
      ⟨.unknown, Row.lenient (scopeFields .unknown) v⟩⟩
  locator : Field := ⟨JsonValue, "locator", .json, none, fun _ => .null⟩

abbrev UpravaRef := Σ kind, Row (refFields kind)

def upravaRefCodec : Codec UpravaRef :=
  .tagged "kind" refKinds refFields fun kind => by cases kind <;> decide

/-! ## 4. The fields of the kinds -/

def runtimeStateEventData : List Field :=
  [optionalText "provider", optionalText "mode", optionalText "resume_source",
    optionalJson "provider_resume_ref", optionalCount "transcript_messages",
    optionalText "reason", optionalText "code", optionalText "message",
    optionalInt "expiry_seconds"]

/-- The fields of an activity that have a name of their own. -/
def activityFields : List Field :=
  [optionalText "provider", optionalText "source", optionalText "provider_event_type",
    optionalText "provider_item_id", optionalText "provider_item_type", optionalText "phase",
    optionalText "status", optionalText "summary", optionalJson "raw_event",
    optionalFlag "raw_event_truncated", optionalCount "raw_event_original_chars",
    optionalText "raw_event_preview", optionalCount "dropped_count", optionalText "stream",
    optionalCount "limit_bytes", optionalFlag "stdout_truncated", optionalFlag "stderr_truncated",
    optionalCount "dropped_activity_count", optionalCount "max_process_output_bytes",
    optionalCount "max_activity_events"]

/-- The last field of the source stands first: an object has its fields in no order. -/
def providerActivityEventData : List Field := optionalJson "extension" :: activityFields

/-- A text that falls back to another field's. -/
def textOr (name other : String) : Field :=
  ⟨String, name, .text, none, fun v => ((v.get other).bind (·.asStr)).getD ""⟩

def stateField : Field :=
  ⟨PlacementState, "state", .enum placementStates, none, fun _ => .error⟩

def resourceBadges : Field :=
  ⟨List (Row resourceBadge), "resource_badges", resourceBadgeCodec.items, none, fun _ => []⟩

/-- The names are the same however a time is written. -/
theorem gitWorkspaceSnapshot_distinct : (fieldNames (gitWorkspaceSnapshot time)).Nodup := by
  have hnames : fieldNames (gitWorkspaceSnapshot time) =
      fieldNames (gitWorkspaceSnapshot Codec.text) := rfl
  rw [hnames]
  decide

def gitSnapshot : Field :=
  optional "git_snapshot" (.record _ (gitWorkspaceSnapshot_distinct time)) Codec.record_ne_null

def workspaceSnapshot : List Field :=
  [text "placement_id", text "display_name", text "workspace_path", stateField, resourceBadges,
    gitSnapshot time]

def exitCode : Field := optional "exit_code" .int32 nofun

def affectedRefs : Field :=
  ⟨List UpravaRef, "affected_refs", upravaRefCodec.items, none, fun _ => []⟩

/-- `UpravaRef::Unknown { ref_type: "deduction_scope", locator: {} }` -/
def unknownScope : UpravaRef :=
  ⟨.unknown, .cons "deduction_scope" (.cons (.object .nil) ())⟩

def deductionScope : Field :=
  ⟨UpravaRef, "scope_ref", upravaRefCodec, none, fun _ => unknownScope⟩

def taskState : Field :=
  ⟨TaskRunState, "state", .enum taskRunStates, none, fun _ => .failed⟩

def taskCleanupState : Field :=
  ⟨TaskCleanupState, "cleanup_state", .enum taskCleanupStates, none, fun _ => .pending⟩

def extensionName : Field := ⟨String, "name", .text, none, fun _ => "unknown"⟩

def extensionValue : Field := ⟨JsonValue, "value", .json, none, fun _ => .null⟩

def fields : EventKind → List Field
  | .runtimeStarting | .runtimeReady | .runtimeRunning | .runtimeBlocked | .runtimeExpired
  | .runtimeResuming | .runtimeStopped => runtimeStateEventData
  | .runtimeError => [text "code", text "message"]
  | .turnStarted | .turnCompleted => []
  | .turnInterrupted => [optionalText "provider", optionalText "code", optionalText "message"]
  | .providerActivity => providerActivityEventData
  | .providerOutputDelta | .providerMessageCompleted => [text "content"]
  | .approvalRequested =>
    [text "approval_id", text "prompt", optionalText "provider",
      optionalText "provider_event_type", optionalText "source"]
  | .approvalResolved => [text "approval_id", flag "approved", text "message"]
  | .coordinationWarningAcknowledged =>
    [text "warning_kind", optionalText "message", affectedRefs]
  | .workspaceValidated | .resourceSnapshotUpdated => workspaceSnapshot time
  | .workspaceFileWritten => [text "placement_id", text "path", text "edit_id"]
  | .workspaceCommandCompleted =>
    [text "placement_id", text "terminal_command_id", flag "success", exitCode,
      flag "stdout_truncated", flag "stderr_truncated"]
  | .workspaceCheckCompleted =>
    [text "placement_id", textOr "check_run_id" "terminal_command_id", flag "success", exitCode,
      flag "stdout_truncated", flag "stderr_truncated"]
  | .workspaceDiffObserved =>
    [text "placement_id", text "diff_id", flag "summary_truncated", flag "diff_truncated"]
  | .deductionRequested => [text "deduction_id", deductionScope, text "question"]
  | .deductionCompleted | .deductionCancelled => [text "deduction_id"]
  | .deductionInvalid | .deductionFailed =>
    [text "deduction_id", text "code", text "message"]
  | .taskRunStateChanged =>
    [text "task_run_id", taskState, taskCleanupState, optionalText "message"]
  | .extension => [extensionName, extensionValue]

def eventKinds : Names EventKind where
  all := [.runtimeStarting, .runtimeReady, .runtimeRunning, .runtimeBlocked, .runtimeExpired,
    .runtimeResuming, .runtimeStopped, .runtimeError, .turnStarted, .turnCompleted,
    .turnInterrupted, .providerActivity, .providerOutputDelta, .providerMessageCompleted,
    .approvalRequested, .approvalResolved, .coordinationWarningAcknowledged, .workspaceValidated,
    .resourceSnapshotUpdated, .workspaceFileWritten, .workspaceCommandCompleted,
    .workspaceCheckCompleted, .workspaceDiffObserved, .deductionRequested, .deductionCompleted,
    .deductionInvalid, .deductionFailed, .deductionCancelled, .taskRunStateChanged, .extension]
  name
    | .runtimeStarting => "runtime_starting"
    | .runtimeReady => "runtime_ready"
    | .runtimeRunning => "runtime_running"
    | .runtimeBlocked => "runtime_blocked"
    | .runtimeExpired => "runtime_expired"
    | .runtimeResuming => "runtime_resuming"
    | .runtimeStopped => "runtime_stopped"
    | .runtimeError => "runtime_error"
    | .turnStarted => "turn_started"
    | .turnCompleted => "turn_completed"
    | .turnInterrupted => "turn_interrupted"
    | .providerActivity => "provider_activity"
    | .providerOutputDelta => "provider_output_delta"
    | .providerMessageCompleted => "provider_message_completed"
    | .approvalRequested => "approval_requested"
    | .approvalResolved => "approval_resolved"
    | .coordinationWarningAcknowledged => "coordination_warning_acknowledged"
    | .workspaceValidated => "workspace_validated"
    | .resourceSnapshotUpdated => "resource_snapshot_updated"
    | .workspaceFileWritten => "workspace_file_written"
    | .workspaceCommandCompleted => "workspace_command_completed"
    | .workspaceCheckCompleted => "workspace_check_completed"
    | .workspaceDiffObserved => "workspace_diff_observed"
    | .deductionRequested => "deduction_requested"
    | .deductionCompleted => "deduction_completed"
    | .deductionInvalid => "deduction_invalid"
    | .deductionFailed => "deduction_failed"
    | .deductionCancelled => "deduction_cancelled"
    | .taskRunStateChanged => "task_run_state_changed"
    | .extension => "extension"
  find_name k := by cases k <;> rfl

theorem names_distinct (kind : EventKind) : ("type" :: fieldNames (fields time kind)).Nodup := by
  have hnames : fieldNames (fields time kind) = fieldNames (fields Codec.text kind) := by
    cases kind <;> rfl
  rw [hnames]
  cases kind <;> decide

/-! ## 5. Payloads -/

/-- A payload: its kind and the fields that kind has. -/
abbrev EventPayloadKind := Σ kind, Row (fields time kind)

def payloadCodec : Codec (EventPayloadKind time) :=
  .tagged "type" eventKinds (fields time) (names_distinct time)

variable {time}

def matchesKind (payload : EventPayloadKind time) (kind : EventKind) : Bool := kind == payload.1

/-- What a payload is sent as. -/
def toJson (payload : EventPayloadKind time) : JsonValue := (payloadCodec time).encode payload

variable (time)

/-- What an object that was sent is read as. -/
def ofJson : JsonValue → Option (EventPayloadKind time)
  | .object entries => (payloadCodec time).decode (.object entries)
  | _ => none

/-- `serde_json::from_value(value).unwrap_or_default()` -/
def readOrDefault (fs : List Field) (distinct : (fieldNames fs).Nodup) (value : JsonValue) :
    Row fs :=
  ((Codec.record fs distinct).decode value).getD (Row.lenient fs (.object .nil))

/-- The names that do not go under `extension`. -/
def knownKeys : List String :=
  ["provider", "source", "provider_event_type", "provider_item_id", "provider_item_type", "phase",
    "status", "summary", "raw_event", "raw_event_truncated", "raw_event_original_chars",
    "raw_event_preview", "dropped_count", "stream", "limit_bytes", "stdout_truncated",
    "stderr_truncated", "dropped_activity_count", "max_process_output_bytes",
    "max_activity_events"]

/-- `data.extension` set, when there is anything to put there. -/
def withExtension (data : Row providerActivityEventData) : JsonMap → Row providerActivityEventData
  | .nil => data
  | .cons key value rest => .cons (some ⟨.object (.cons key value rest), nofun⟩) data.tail

def activityOf (value : JsonValue) : Row providerActivityEventData :=
  let data := readOrDefault providerActivityEventData (by decide) value
  match value with
  | .object entries => withExtension data (knownKeys.foldl JsonMap.remove entries)
  | _ => data

/-- `EventPayload::from_json` -/
def fromJson (kind : EventKind) (value : JsonValue) : EventPayloadKind time :=
  let runtime := readOrDefault runtimeStateEventData (by decide) value
  match kind with
  | .runtimeStarting => ⟨.runtimeStarting, runtime⟩
  | .runtimeReady => ⟨.runtimeReady, runtime⟩
  | .runtimeRunning => ⟨.runtimeRunning, runtime⟩
  | .runtimeBlocked => ⟨.runtimeBlocked, runtime⟩
  | .runtimeExpired => ⟨.runtimeExpired, runtime⟩
  | .runtimeResuming => ⟨.runtimeResuming, runtime⟩
  | .runtimeStopped => ⟨.runtimeStopped, runtime⟩
  | .providerActivity => ⟨.providerActivity, activityOf value⟩
  | kind => ⟨kind, Row.lenient (fields time kind) value⟩

/-! ## 6. What comes back -/

/-- The kinds whose fields are read as a whole. -/
def isRuntimeState : EventKind → Bool
  | .runtimeStarting | .runtimeReady | .runtimeRunning | .runtimeBlocked | .runtimeExpired
  | .runtimeResuming | .runtimeStopped => true
  | _ => false

/-- The object of a payload has its kind and all its fields. -/
theorem holds_toJson (payload : EventPayloadKind time) :
    Holds (toJson payload)
      (("type", .string (eventKinds.name payload.1)) ::
        Row.write (fields time payload.1) payload.2) := by
  refine holds_ofFields ?_
  rw [List.map_cons, Row.names_write]
  exact names_distinct time payload.1

theorem holds_fields (payload : EventPayloadKind time) :
    Holds (toJson payload) (Row.write (fields time payload.1) payload.2) :=
  fun entry he => holds_toJson time payload entry (List.mem_cons_of_mem _ he)

/-- **What was sent is read as what it was.** -/
theorem ofJson_toJson (payload : EventPayloadKind time) :
    ofJson time (toJson payload) = some payload := (payloadCodec time).decode_encode payload

theorem fromJson_of_lenient {kind : EventKind} (hruntime : isRuntimeState kind = false)
    (hactivity : kind ≠ .providerActivity) (value : JsonValue) :
    fromJson time kind value = ⟨kind, Row.lenient (fields time kind) value⟩ := by
  cases kind <;> first | exact absurd hruntime (by decide) | exact absurd rfl hactivity | rfl

/-- The fields of a runtime state: all of them, or none. -/
theorem fromJson_of_runtimeState {kind : EventKind} (hruntime : isRuntimeState kind = true)
    (entries : JsonMap) :
    fromJson time kind (.object entries) =
      ⟨kind, (Row.strict (fields time kind) (.object entries)).getD
        (Row.lenient (fields time kind) (.object .nil))⟩ := by
  cases kind <;> first | exact absurd hruntime (by decide) | rfl

/-- A runtime state none of whose fields was read has `null` in all of them. -/
theorem null_of_default {kind : EventKind} (hruntime : isRuntimeState kind = true) :
    Row.write (fields time kind) (Row.lenient (fields time kind) (.object .nil)) =
      (fieldNames (fields time kind)).map (·, .null) := by
  cases kind <;> first | exact absurd hruntime (by decide) | rfl

theorem fromJson_kind (kind : EventKind) (value : JsonValue) :
    (fromJson time kind value).1 = kind := by
  cases kind <;> rfl

theorem get_foldl_remove {keys : List String} {key : String} (hkey : key ∉ keys) (m : JsonMap) :
    (keys.foldl JsonMap.remove m).get key = m.get key := by
  induction keys generalizing m with
  | nil => rfl
  | cons k keys ih =>
    obtain ⟨hne, hkeys⟩ := not_or.mp (mt List.mem_cons.mpr hkey)
    rw [List.foldl_cons, ih hkeys, JsonMap.get_remove, if_neg hne]

/-- The extension of a payload built from an object. -/
def extensionOf (p : JsonMap) : JsonMap := knownKeys.foldl JsonMap.remove p

theorem get_withExtension (data : Row providerActivityEventData) {m : JsonMap} {key : String}
    {v : JsonValue} (hv : m.get key = some v) :
    (optionalJson "extension").codec.encode (withExtension data m).head = .object m := by
  cases m with
  | nil => cases hv
  | cons k x rest => rfl

/-- What an activity with these fields is sent as. -/
def activityJson (row : Row providerActivityEventData) : JsonValue :=
  (payloadCodec time).encode ⟨.providerActivity, row⟩

theorem holds_activityJson (row : Row providerActivityEventData) :
    Holds (activityJson time row)
      (("type", .string "provider_activity") :: Row.write providerActivityEventData row) :=
  holds_toJson time ⟨.providerActivity, row⟩

theorem get_activityJson (row : Row providerActivityEventData) :
    (activityJson time row).get "extension" =
      some ((optionalJson "extension").codec.encode row.head) :=
  (holds_activityJson time row).get (List.mem_cons_of_mem _ (Row.head_mem_write row))

theorem activityOf_object (p : JsonMap) :
    activityOf (.object p) = withExtension
      (readOrDefault providerActivityEventData (by decide) (.object p)) (extensionOf p) := rfl

theorem fromJson_activity (p : JsonMap) :
    fromJson time .providerActivity (.object p) =
      ⟨.providerActivity, activityOf (.object p)⟩ := rfl

theorem toJson_activity (p : JsonMap) :
    toJson (fromJson time .providerActivity (.object p)) =
      activityJson time (activityOf (.object p)) := by
  rw [fromJson_activity]
  rfl

/-- An object with an entry of an unknown name has it under `extension`. -/
theorem get_extension {p : JsonMap} {key : String} {v : JsonValue} (hkey : key ∉ knownKeys)
    (hv : p.get key = some v) :
    (toJson (fromJson time .providerActivity (.object p))).get "extension" =
      some (.object (extensionOf p)) := by
  have hkept : (extensionOf p).get key = some v := (get_foldl_remove hkey p).trans hv
  rw [toJson_activity, get_activityJson, activityOf_object, get_withExtension _ hkept]

/-- **What an activity does not know is kept**, under `extension`. -/
theorem extension_keeps {p : JsonMap} {key : String} {v : JsonValue} (hkey : key ∉ knownKeys)
    (hv : p.get key = some v) :
    ∃ extension, (toJson (fromJson time .providerActivity (.object p))).get "extension" =
        some extension ∧
      extension.get key = some v :=
  ⟨.object (extensionOf p), get_extension time hkey hv, (get_foldl_remove hkey p).trans hv⟩

theorem sizeOf_get {m : JsonMap} {key : String} {v : JsonValue} (h : m.get key = some v) :
    sizeOf v < sizeOf m := by
  cases m with
  | nil => cases h
  | cons k x rest =>
    rw [JsonMap.get] at h
    have hsize : sizeOf (JsonMap.cons k x rest) = 1 + sizeOf k + sizeOf x + sizeOf rest := rfl
    split at h
    · cases h
      omega
    · have hrest := sizeOf_get h
      omega

/-- No object has itself as an entry. -/
theorem get_ne_self (m : JsonMap) (key : String) : m.get key ≠ some (.object m) := by
  intro h
  have hsize := sizeOf_get h
  rw [Lib.JsonValue.object.sizeOf_spec] at hsize
  omega

/-- **An activity never comes back from its own JSON**: its `type` is a name it does not know, so
    the object it was sent as becomes the extension of the new one, one level deeper. -/
theorem activity_nests (row : Row providerActivityEventData) :
    toJson (fromJson time .providerActivity (activityJson time row)) ≠ activityJson time row := by
  intro hsame
  obtain ⟨m, hm⟩ : ∃ m, activityJson time row = .object m := ⟨_, rfl⟩
  have hsent := holds_activityJson time row
  rw [hm] at hsame hsent
  have htype : m.get "type" = some (.string "provider_activity") := hsent.get List.mem_cons_self
  have hagain := get_extension time (by decide) htype
  rw [hsame] at hagain
  have hunknown : "extension" ∉ knownKeys := by decide
  have hinside : (extensionOf m).get "extension" = some (.object (extensionOf m)) :=
    (get_foldl_remove hunknown m).trans hagain
  exact get_ne_self _ _ hinside

/-! ## 7. Round trips -/

/-- What building a payload from an object promises. -/
structure RoundTrips (kind : EventKind) (p : JsonMap) : Prop where
  matches_kind : matchesKind (fromJson time kind (.object p)) kind = true
  reads_back : ofJson time (toJson (fromJson time kind (.object p))) =
    some (fromJson time kind (.object p))
  stable : toJson (fromJson time kind (toJson (fromJson time kind (.object p)))) =
    toJson (fromJson time kind (.object p))
  keeps : ∀ f ∈ fields time kind, ∀ (x : JsonValue) (a : f.Value), p.get f.name = some x →
    f.codec.decode x = some a →
      (toJson (fromJson time kind (.object p))).get f.name = some (f.codec.encode a)
  extends_kept : kind = .providerActivity → ∀ (key : String) (v : JsonValue), key ∉ knownKeys →
    p.get key = some v →
      ∃ extension, (toJson (fromJson time kind (.object p))).get "extension" = some extension ∧
        extension.get key = some v

/-- Reading the fields as a whole loses nothing: they all fit, or those that do say nothing. -/
def Intact (kind : EventKind) (p : JsonMap) : Prop :=
  (∀ f ∈ fields time kind, f.Fits (.object p)) ∨
    ∀ f ∈ fields time kind, ∀ (x : JsonValue) (a : f.Value), p.get f.name = some x →
      f.codec.decode x = some a → f.codec.encode a = .null

section Kinds

variable {kind : EventKind} {p : JsonMap}

theorem not_roundTrips_activity : ¬RoundTrips time .providerActivity p := by
  intro h
  have hstable := h.stable
  rw [toJson_activity] at hstable
  exact activity_nests time _ hstable

/-- **Read field by field, a payload comes back and every field that fits keeps its value.** -/
theorem roundTrips_of_lenient (hruntime : isRuntimeState kind = false)
    (hactivity : kind ≠ .providerActivity) : RoundTrips time kind p where
  matches_kind := by
    rw [matchesKind, fromJson_kind, beq_self_eq_true]
  reads_back := ofJson_toJson time _
  stable := by
    rw [fromJson_of_lenient time hruntime hactivity, fromJson_of_lenient time hruntime hactivity]
    have hsent := holds_fields time ⟨kind, Row.lenient (fields time kind) (.object p)⟩
    rw [Row.lenient_of_written _ _ _ hsent]
  keeps f hf x a hx ha := by
    rw [fromJson_of_lenient time hruntime hactivity]
    have hsent := holds_fields time ⟨kind, Row.lenient (fields time kind) (.object p)⟩
    exact hsent.get (Row.lenient_keeps hf hx ha)
  extends_kept hkind := absurd hkind hactivity

/-- A runtime state is what its fields are read as, or has no value in any of them. -/
theorem runtimeState_cases (hruntime : isRuntimeState kind = true) :
    (∃ row, Row.strict (fields time kind) (.object p) = some row ∧
        fromJson time kind (.object p) = ⟨kind, row⟩) ∨
      (¬∀ f ∈ fields time kind, f.Fits (.object p)) ∧
        ∀ f ∈ fields time kind, (toJson (fromJson time kind (.object p))).get f.name =
          some .null := by
  have hread := fromJson_of_runtimeState time hruntime p
  cases hrow : Row.strict (fields time kind) (.object p) with
  | some row =>
    rw [hrow] at hread
    exact .inl ⟨row, rfl, hread⟩
  | none =>
    rw [hrow] at hread
    refine .inr ⟨fun hfits => ?_, fun f hf => ?_⟩
    · have hsome := Row.strict_isSome.mpr hfits
      rw [hrow] at hsome
      cases hsome
    · have hsent := holds_fields time (fromJson time kind (.object p))
      rw [hread] at hsent ⊢
      refine hsent.get ?_
      show _ ∈ Row.write (fields time kind) (Row.lenient (fields time kind) (.object .nil))
      rw [null_of_default time hruntime]
      exact List.mem_map_of_mem (List.mem_map_of_mem hf)

/-- The kind in `type` is no field of a runtime state: it is read past. -/
theorem runtimeState_stable (hruntime : isRuntimeState kind = true)
    (row : Row (fields time kind)) :
    fromJson time kind (toJson (⟨kind, row⟩ : EventPayloadKind time)) = ⟨kind, row⟩ := by
  have hsent := holds_fields time ⟨kind, row⟩
  obtain ⟨m, hm⟩ : ∃ m, toJson (⟨kind, row⟩ : EventPayloadKind time) = .object m := ⟨_, rfl⟩
  rw [hm] at hsent ⊢
  rw [fromJson_of_runtimeState time hruntime, Row.strict_of_written _ _ _ hsent]
  rfl

theorem roundTrips_runtimeState (hruntime : isRuntimeState kind = true) :
    RoundTrips time kind p ↔ Intact time kind p := by
  have hsent := holds_fields time (fromJson time kind (.object p))
  constructor
  · intro h
    rcases runtimeState_cases time (p := p) hruntime with
      ⟨row, hrow, -⟩ | ⟨-, hnull⟩
    · have hfits : ∀ f ∈ fields time kind, f.Fits (.object p) := by
        rw [← Row.strict_isSome, hrow]
        rfl
      exact .inl hfits
    · refine .inr fun f hf x a hx ha => ?_
      exact Option.some.inj ((h.keeps f hf x a hx ha).symm.trans (hnull f hf))
  · intro hintact
    refine ⟨?_, ofJson_toJson time _, ?_, ?_, fun hkind => ?_⟩
    · rw [matchesKind, fromJson_kind, beq_self_eq_true]
    · rw [fromJson_of_runtimeState time hruntime, runtimeState_stable time hruntime]
    · intro f hf x a hx ha
      rcases runtimeState_cases time (p := p) hruntime with
        ⟨row, hrow, hread⟩ | ⟨hfits, hnull⟩
      · rw [hread] at hsent ⊢
        exact hsent.get (Row.strict_keeps hrow hf hx ha)
      · have hsilent := hintact.resolve_left hfits
        rw [hsilent f hf x a hx ha]
        exact hnull f hf
    · rw [hkind] at hruntime
      cases hruntime

end Kinds

end Uprava.Protocol.Payloads
