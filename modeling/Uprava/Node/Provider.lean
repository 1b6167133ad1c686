/-
  File:      Uprava/Node/Provider.lean
  Subject:   The events a runtime command makes of its provider: what they say, in the order they
             are numbered, and which of them are emitted live and which are returned.

  A command first decides on its events (`EventDraft`), then they are numbered one by one from the
  runtime's counter (`issueEvents`). Every draft takes a number, also one that is emitted live and
  not returned. What a provider process does is an argument: the lines it writes, with what each
  is read as, and how it ends.
-/
import Mathlib.Algebra.GroupWithZero.Nat
import Uprava.Node.State

namespace Uprava.Node

open Uprava.Protocol
open Uprava.Lib (Assoc Numbered)

/-! ## 1. Text -/

def isBlank (s : String) : Bool := s.toList.all Char.isWhitespace

def trim (s : String) : String :=
  String.ofList ((s.toList.dropWhile Char.isWhitespace).reverse.dropWhile Char.isWhitespace).reverse

def boundedText (value : String) (maxChars : Nat) : String :=
  if maxChars < value.toList.length then String.ofList (value.toList.take maxChars) ++ "..."
  else value

/-- An entry of an object, trimmed and cut, unless it is blank. -/
def resumeText (value : JsonValue) (key : String) : Option String :=
  (((value.get key).bind (·.asStr)).map trim |>.filter (· ≠ "")).map (boundedText · 512)

def providerResumeRefFromJson (value : JsonValue) : Option ProviderResumeRef :=
  let providerSessionId := resumeText value "provider_session_id"
  let resumeCursor := resumeText value "resume_cursor"
  if providerSessionId.isNone && resumeCursor.isNone then none
  else some ⟨providerSessionId, resumeCursor⟩

def providerResumeRefJson (ref : ProviderResumeRef) : JsonValue :=
  .ofFields
    ((ref.providerSessionId.map fun id => ("provider_session_id", .string id)).toList ++
      (ref.resumeCursor.map fun cursor => ("resume_cursor", .string cursor)).toList)

/-! ## 2. Numbering events -/

/-- Where the id and the time of the `n`-th event of the process come from. -/
structure EventSource where
  eventId : Nat → EventId
  happenedAt : Nat → DateTime

/-- What a new event moves: its runtime's counter, and the number of ids drawn. -/
structure Issue where
  runtimeSeqs : Assoc RuntimeSessionId Int
  drawn : Nat

/-- `next_runtime_seq`: the first number of a runtime is one. -/
def nextRuntimeSeq (runtimeSeqs : Assoc RuntimeSessionId Int)
    (runtimeSessionId : RuntimeSessionId) : Int × Assoc RuntimeSessionId Int :=
  (runtimeSeqs.count runtimeSessionId + 1, runtimeSeqs.bump runtimeSessionId)

/-- An event a command decided on. -/
structure EventDraft where
  turnId : Option TurnId
  payload : EventPayload
  live : Bool := false
  returned : Bool := true

/-- `event_for_command`. -/
def eventForCommand (source : EventSource) (providerKey : String) (command : CommandEnvelope)
    (issue : Issue) (runtimeSessionId : RuntimeSessionId) (draft : EventDraft) :
    EventEnvelope × Issue :=
  let (seq, runtimeSeqs) := nextRuntimeSeq issue.runtimeSeqs runtimeSessionId
  ({ eventId := source.eventId issue.drawn
     commandId := some command.commandId
     correlationId := some command.correlationId
     actorRef := .provider providerKey
     scopeRef := .runtime runtimeSessionId
     nodeId := some command.target.nodeId
     runtimeSessionId := some runtimeSessionId
     sessionThreadId := command.target.sessionThreadId
     turnId := draft.turnId
     seq
     kind := draft.payload.kind
     happenedAt := source.happenedAt issue.drawn
     payload := draft.payload },
    { runtimeSeqs, drawn := issue.drawn + 1 })

/-- The drafts of a command as events, in order. -/
def issueEvents (source : EventSource) (providerKey : String) (command : CommandEnvelope)
    (runtimeSessionId : RuntimeSessionId) :
    Issue → List EventDraft → List (EventDraft × EventEnvelope) × Issue
  | issue, [] => ([], issue)
  | issue, draft :: drafts =>
    let (event, issue) := eventForCommand source providerKey command issue runtimeSessionId draft
    let (events, issue) := issueEvents source providerKey command runtimeSessionId issue drafts
    ((draft, event) :: events, issue)

/-! ## 3. A provider process -/

structure CodexApprovalRequest where
  approvalId : ApprovalId
  prompt : String
  providerEventType : Option String

/-- A line of the process: the activity it is reported as, and what else it is read as. -/
inductive ProcessLine where
  | stdout (activity : JsonValue) (approvalRequest : Option CodexApprovalRequest)
      (resumeRef : Option JsonValue)
  | stderr (activity : JsonValue)

/-- How the process ends: with a status, or with a failure before it had one. -/
inductive ProcessEnd where
  | exited (success stdoutTruncated stderrTruncated : Bool) (failureMessage : String)
  | failed (code message : String)

structure CodexProcess where
  lines : List ProcessLine
  exit : ProcessEnd

def maxProviderActivityEvents : Nat := 512

def maxProviderApprovalRequests : Nat := 16

def maxProviderProcessOutputBytes : Nat := 256 * 1024

def ProcessLine.activity : ProcessLine → JsonValue
  | stdout activity .. | stderr activity => activity

def ProcessLine.approvalRequest : ProcessLine → Option CodexApprovalRequest
  | stdout _ approvalRequest _ => approvalRequest
  | stderr _ => none

def ProcessLine.resumeRef : ProcessLine → Option JsonValue
  | stdout _ _ resumeRef => resumeRef
  | stderr _ => none

/-- The first requests of the output. -/
def CodexProcess.approvalRequests (p : CodexProcess) : List CodexApprovalRequest :=
  (p.lines.filterMap (·.approvalRequest)).take maxProviderApprovalRequests

/-- The first resume reference of the output. -/
def CodexProcess.resumeRef (p : CodexProcess) : Option JsonValue :=
  p.lines.findSome? (·.resumeRef)

def CodexProcess.droppedActivityCount (p : CodexProcess) : Nat :=
  p.lines.length - maxProviderActivityEvents

/-! ## 4. What the commands of a runtime report -/

def codexProviderKey : String := "codex"

/-- `{ "provider": …, "mode": "exec" }`. -/
def execData : RuntimeStateEventData := { provider := some codexProviderKey, mode := some "exec" }

def runtimeErrorDraft (turnId : Option TurnId) (code message : String) : EventDraft :=
  ⟨turnId, .runtimeError code message, false, true⟩

/-- Each line is an activity; the first ones are returned, when the run is. -/
def activityDrafts (turnId : TurnId) (returned : Bool) (lines : List ProcessLine) :
    List EventDraft :=
  lines.mapIdx fun i line =>
    ⟨some turnId, .providerActivity line.activity, true, returned && i < maxProviderActivityEvents⟩

/-- The warning that output or activities were dropped. -/
def processLimitDrafts (turnId : TurnId) (p : CodexProcess)
    (stdoutTruncated stderrTruncated : Bool) : List EventDraft :=
  if !stdoutTruncated && !stderrTruncated && p.droppedActivityCount == 0 then []
  else
    [⟨some turnId, .providerActivity (.ofFields
      [("provider", .string codexProviderKey), ("source", .string "codex.exec.limits"),
        ("provider_event_type", .string "output_truncated"), ("phase", .string "warning"),
        ("status", .string "warning"),
        ("summary", .string "Codex provider output exceeded node retention limits"),
        ("stdout_truncated", .bool stdoutTruncated), ("stderr_truncated", .bool stderrTruncated),
        ("dropped_activity_count", .int p.droppedActivityCount),
        ("max_process_output_bytes", .int maxProviderProcessOutputBytes),
        ("max_activity_events", .int maxProviderActivityEvents)]), false, true⟩]

def approvalDraft (turnId : TurnId) (request : CodexApprovalRequest) : EventDraft :=
  ⟨some turnId, .approvalRequested request.approvalId request.prompt (some codexProviderKey)
    request.providerEventType (some "codex.exec.jsonl"), false, true⟩

/-- What a turn reads from outside: which workspace paths are allowed, the provider process, and
    the trimmed message it left. -/
structure TurnWorld where
  authorizedWorkspacePath : String → Except (String × String) String
  process : CodexProcess
  assistantContent : String

/-- `send_turn_events`: the events of a turn, and what the provider said to resume it by. -/
def sendTurnEvents (world : TurnWorld) (turnId : TurnId) (workspacePath : Option String) :
    List EventDraft :=
  let opening : List EventDraft :=
    [⟨none, .runtimeRunning execData, true, true⟩, ⟨some turnId, .turnStarted, true, true⟩]
  match workspacePath.filter (!isBlank ·) with
  | none => opening ++ [runtimeErrorDraft (some turnId) "provider.workspace_missing"
      "Codex provider requires a workspace path from StartRuntime"]
  | some path =>
    match world.authorizedWorkspacePath path with
    | .error (code, message) => opening ++ [runtimeErrorDraft (some turnId) code message]
    | .ok _ =>
      let p := world.process
      match p.exit with
      | .exited success stdoutTruncated stderrTruncated failureMessage =>
        let reported := opening ++ activityDrafts turnId true p.lines ++
          processLimitDrafts turnId p stdoutTruncated stderrTruncated
        if !success then
          reported ++ [runtimeErrorDraft (some turnId) "provider.exec_failed" failureMessage]
        else if !p.approvalRequests.isEmpty then
          reported ++ p.approvalRequests.map (approvalDraft turnId) ++
            [⟨none, .runtimeBlocked { execData with reason := some "provider_approval_requested" },
              false, true⟩]
        else if world.assistantContent = "" then
          reported ++ [runtimeErrorDraft (some turnId) "provider.empty_output"
            "Codex exec completed without a final assistant message"]
        else
          reported ++
            [⟨some turnId, .providerMessageCompleted world.assistantContent, false, true⟩,
              ⟨some turnId, .turnCompleted, false, true⟩,
              ⟨none, .runtimeReady { execData with providerResumeRef := p.resumeRef }, false, true⟩]
      | .failed code message =>
        -- the activities went out live and are not part of the result
        opening ++ activityDrafts turnId false p.lines ++
          [if code = "provider.cancelled" then
            ⟨some turnId, .turnInterrupted (some codexProviderKey) (some code) (some message),
              false, true⟩
          else runtimeErrorDraft (some turnId) code message]

/-- Whether the turn ran its provider to a success. -/
def TurnWorld.succeeds (world : TurnWorld) (workspacePath : Option String) : Bool :=
  match workspacePath.filter (!isBlank ·) with
  | none => false
  | some path =>
    match world.authorizedWorkspacePath path, world.process.exit with
    | .ok _, .exited success .. => success
    | _, _ => false

def startRuntimeEvents : List EventDraft :=
  [⟨none, .runtimeStarting execData, false, true⟩,
    ⟨none, .runtimeReady { execData with resumeSource := some "node_local_transcript" },
      false, true⟩]

def resumeRuntimeEvents (resumeRef : Option ProviderResumeRef) (transcriptLen : Nat) :
    List EventDraft :=
  match resumeRef with
  | some ref =>
    let data := { execData with resumeSource := some "provider_resume_ref" }
    [⟨none, .runtimeResuming data, false, true⟩,
      ⟨none, .runtimeReady { data with providerResumeRef := some (providerResumeRefJson ref) },
        false, true⟩]
  | none =>
    [⟨none, .runtimeResuming execData, false, true⟩,
      ⟨none, .runtimeReady { execData with
        resumeSource := some "node_local_transcript"
        transcriptMessages := some transcriptLen }, false, true⟩]

def resolveApprovalEvents (approvalId : ApprovalId) (approved : Bool) (message : Option String) :
    List EventDraft :=
  let defaultMessage := if approved then "Approval accepted" else "Approval denied"
  [⟨none, .approvalResolved approvalId approved (message.getD defaultMessage), false, true⟩,
    ⟨none, .runtimeReady execData, false, true⟩]

/-! ## 5. What a runtime remembers -/

/-- The transcripts and the resume references of the runtimes. -/
structure RuntimeMemory where
  transcripts : Assoc RuntimeSessionId (List ProviderTranscriptMessage)
  resumeRefs : Assoc RuntimeSessionId ProviderResumeRef

def maxCodexTranscriptMessages : Nat := 20

def maxCodexTranscriptChars : Nat := 12000

def transcriptChars (transcript : List ProviderTranscriptMessage) : Nat :=
  (transcript.map fun m => m.role.length + m.content.length).sum

/-- The oldest messages go while the transcript is too long and more than two are left. -/
def dropLongMessages : List ProviderTranscriptMessage → List ProviderTranscriptMessage
  | [] => []
  | m :: rest =>
    if 2 < (m :: rest).length && maxCodexTranscriptChars < transcriptChars (m :: rest) then
      dropLongMessages rest
    else m :: rest

def trimCodexTranscript (transcript : List ProviderTranscriptMessage) :
    List ProviderTranscriptMessage :=
  dropLongMessages (transcript.drop (transcript.length - maxCodexTranscriptMessages))

def recordCodexTranscriptTurn (transcripts : Assoc RuntimeSessionId (List ProviderTranscriptMessage))
    (runtimeSessionId : RuntimeSessionId) (userContent assistantContent : String) :
    Assoc RuntimeSessionId (List ProviderTranscriptMessage) :=
  transcripts.insert runtimeSessionId (trimCodexTranscript
    ((transcripts.lookup runtimeSessionId).getD [] ++
      [⟨"user", userContent⟩, ⟨"assistant", assistantContent⟩]))

/-- What a turn leaves: its resume reference, and the turn in the transcript when it ended with a
    message. -/
def RuntimeMemory.afterTurn (memory : RuntimeMemory) (world : TurnWorld)
    (runtimeSessionId : RuntimeSessionId) (content : String) (workspacePath : Option String) :
    RuntimeMemory :=
  if !world.succeeds workspacePath then memory
  else
    { resumeRefs := match world.process.resumeRef.bind providerResumeRefFromJson with
        | some ref => memory.resumeRefs.insert runtimeSessionId ref
        | none => memory.resumeRefs
      transcripts :=
        if world.process.approvalRequests.isEmpty && world.assistantContent ≠ "" then
          recordCodexTranscriptTurn memory.transcripts runtimeSessionId content
            world.assistantContent
        else memory.transcripts }

/-! ## 6. The commands of a provider -/

/-- `events_for_command` of the Codex adapter: a command's events, and what it leaves in the
    runtime's memory. -/
def codexEventsForCommand (world : TurnWorld) (command : CommandEnvelope)
    (runtimeSessionId : RuntimeSessionId) (workspacePath : Option String)
    (memory : RuntimeMemory) : List EventDraft × RuntimeMemory :=
  match command.kind with
  | .startRuntime =>
    (startRuntimeEvents,
      { transcripts := memory.transcripts.insert runtimeSessionId []
        resumeRefs := memory.resumeRefs.erase runtimeSessionId })
  | .resumeRuntime =>
    let given := match command.payload with
      | .resumeRuntime _ _ ref => ref.bind providerResumeRefFromJson
      | _ => none
    let resumeRef := given.or (memory.resumeRefs.lookup runtimeSessionId)
    (resumeRuntimeEvents resumeRef
        (((memory.transcripts.lookup runtimeSessionId).map (·.length)).getD 0),
      match resumeRef with
      | some ref => { memory with resumeRefs := memory.resumeRefs.insert runtimeSessionId ref }
      | none => memory)
  | .sendTurn =>
    match command.payload with
    | .sendTurn content turnId =>
      (sendTurnEvents world turnId workspacePath,
        memory.afterTurn world runtimeSessionId content workspacePath)
    | _ => ([runtimeErrorDraft none "protocol.command_payload_mismatch"
        "SendTurn payload does not match its command kind"], memory)
  | .resolveApproval =>
    match command.payload with
    | .resolveApproval approvalId approved message =>
      (resolveApprovalEvents approvalId approved message, memory)
    | _ => ([runtimeErrorDraft none "protocol.command_payload_mismatch"
        "ResolveApproval payload does not match its command kind"], memory)
  | .interruptRuntime =>
    ([runtimeErrorDraft none "provider.interrupt_unsupported"
      "Codex interrupt is not supported by the stateless exec adapter yet"], memory)
  | .stopRuntime => ([⟨none, .runtimeStopped execData, false, true⟩], memory)
  | _ => ([], memory)

/-- `execute_command`: the Codex adapter, or the answer of a provider the Node does not have. -/
def executeCommand (world : TurnWorld) (providerKey : String) (command : CommandEnvelope)
    (runtimeSessionId : RuntimeSessionId) (workspacePath : Option String)
    (memory : RuntimeMemory) : List EventDraft × RuntimeMemory :=
  if providerKey = codexProviderKey then
    codexEventsForCommand world command runtimeSessionId workspacePath memory
  else
    ([runtimeErrorDraft none "provider.unsupported"
      ("Provider `" ++ providerKey ++ "` is not supported by this node")], memory)

def missingProviderEvents : List EventDraft :=
  [runtimeErrorDraft none "provider.missing" "Runtime command is missing provider metadata"]

/-! ## 7. What the events are about -/

/-- The kinds of the events a Node numbers in a runtime's scope. -/
def isRuntimeKind : EventKind → Bool
  | .runtimeStarting | .runtimeReady | .runtimeRunning | .runtimeBlocked | .runtimeResuming
  | .runtimeStopped | .runtimeError | .turnStarted | .turnCompleted | .turnInterrupted
  | .providerActivity | .providerMessageCompleted | .approvalRequested | .approvalResolved => true
  | _ => false

/-- A draft is of a runtime's kinds, and a resolution names no turn. -/
structure EventDraft.OfRuntime (d : EventDraft) : Prop where
  kind : isRuntimeKind d.payload.kind = true
  turn : d.payload.kind = .approvalResolved → d.turnId = none

/-- Drafts of which none is a resolution are of a runtime's kinds when their kinds are. -/
theorem EventDraft.OfRuntime.of_kind {d : EventDraft} (h : isRuntimeKind d.payload.kind = true)
    (hne : d.payload.kind ≠ .approvalResolved) : d.OfRuntime := ⟨h, fun h' => absurd h' hne⟩

theorem ofRuntime_runtimeErrorDraft (turnId : Option TurnId) (code message : String) :
    (runtimeErrorDraft turnId code message).OfRuntime := .of_kind rfl nofun

theorem ofRuntime_activityDrafts {turnId : TurnId} {returned : Bool} {lines : List ProcessLine}
    {d : EventDraft} (h : d ∈ activityDrafts turnId returned lines) : d.OfRuntime := by
  obtain ⟨i, hi, rfl⟩ := List.mem_mapIdx.mp h
  exact .of_kind rfl nofun

theorem ofRuntime_processLimitDrafts {turnId : TurnId} {p : CodexProcess} {out err : Bool}
    {d : EventDraft} (h : d ∈ processLimitDrafts turnId p out err) : d.OfRuntime := by
  unfold processLimitDrafts at h
  split at h
  · cases h
  · obtain rfl := List.mem_singleton.mp h
    exact .of_kind rfl nofun

/-- The two opening events are on every path of a turn; the rest is the path's own. -/
theorem ofRuntime_opening {turnId : TurnId} {rest : List EventDraft}
    (hrest : ∀ d ∈ rest, d.OfRuntime) :
    ∀ d ∈ ([⟨none, .runtimeRunning execData, true, true⟩, ⟨some turnId, .turnStarted, true, true⟩] :
      List EventDraft) ++ rest, d.OfRuntime := by
  intro d hd
  rcases List.mem_append.mp hd with hd | hd
  · rcases List.mem_pair.mp hd with rfl | rfl
    · exact .of_kind rfl nofun
    · exact .of_kind rfl nofun
  · exact hrest d hd

/-- So are the activities of a process that exited, and the warning after them. -/
theorem ofRuntime_reported {turnId : TurnId} {p : CodexProcess} {out err : Bool}
    {rest : List EventDraft} (hrest : ∀ d ∈ rest, d.OfRuntime) :
    ∀ d ∈ activityDrafts turnId true p.lines ++ (processLimitDrafts turnId p out err ++ rest),
      d.OfRuntime := by
  intro d hd
  rcases List.mem_append.mp hd with hd | hd
  · exact ofRuntime_activityDrafts hd
  · rcases List.mem_append.mp hd with hd | hd
    · exact ofRuntime_processLimitDrafts hd
    · exact hrest d hd

theorem ofRuntime_sendTurnEvents {world : TurnWorld} {turnId : TurnId}
    {workspacePath : Option String} :
    ∀ d ∈ sendTurnEvents world turnId workspacePath, d.OfRuntime := by
  have herror : ∀ code message, ∀ d ∈ [runtimeErrorDraft (some turnId) code message],
      d.OfRuntime := by
    intro code message d hd
    obtain rfl := List.mem_singleton.mp hd
    exact ofRuntime_runtimeErrorDraft _ _ _
  unfold sendTurnEvents
  split
  · exact ofRuntime_opening (herror _ _)
  · split
    · exact ofRuntime_opening (herror _ _)
    · dsimp only
      split
      · -- the process exited
        simp only [List.append_assoc]
        split
        · exact ofRuntime_opening (ofRuntime_reported (herror _ _))
        · split
          · refine ofRuntime_opening (ofRuntime_reported fun d hd => ?_)
            rcases List.mem_append.mp hd with hd | hd
            · obtain ⟨request, -, rfl⟩ := List.mem_map.mp hd
              exact .of_kind rfl nofun
            · obtain rfl := List.mem_singleton.mp hd
              exact .of_kind rfl nofun
          · split
            · exact ofRuntime_opening (ofRuntime_reported (herror _ _))
            · refine ofRuntime_opening (ofRuntime_reported fun d hd => ?_)
              simp only [List.mem_cons, List.not_mem_nil, or_false] at hd
              rcases hd with rfl | rfl | rfl
              · exact .of_kind rfl nofun
              · exact .of_kind rfl nofun
              · exact .of_kind rfl nofun
      · -- the process failed
        rw [List.append_assoc]
        refine ofRuntime_opening fun d hd => ?_
        rcases List.mem_append.mp hd with hd | hd
        · exact ofRuntime_activityDrafts hd
        · obtain rfl := List.mem_singleton.mp hd
          split
          · exact .of_kind rfl nofun
          · exact ofRuntime_runtimeErrorDraft _ _ _

/-- **Whatever a provider does with a command, its events are of a runtime's kinds.** -/
theorem ofRuntime_executeCommand {world : TurnWorld} {providerKey : String}
    {command : CommandEnvelope} {runtimeSessionId : RuntimeSessionId}
    {workspacePath : Option String} {memory : RuntimeMemory} :
    ∀ d ∈ (executeCommand world providerKey command runtimeSessionId workspacePath memory).1,
      d.OfRuntime := by
  have hone : ∀ turnId code message, ∀ d ∈ [runtimeErrorDraft turnId code message],
      d.OfRuntime := by
    intro turnId code message d hd
    obtain rfl := List.mem_singleton.mp hd
    exact ofRuntime_runtimeErrorDraft _ _ _
  have hpair : ∀ d₁ d₂ : EventDraft, d₁.OfRuntime → d₂.OfRuntime → ∀ d ∈ [d₁, d₂],
      d.OfRuntime := by
    intro d₁ d₂ h₁ h₂ d hd
    rcases List.mem_pair.mp hd with rfl | rfl
    · exact h₁
    · exact h₂
  unfold executeCommand
  split
  · unfold codexEventsForCommand
    split
    · exact hpair _ _ (.of_kind rfl nofun) (.of_kind rfl nofun)
    · dsimp only
      unfold resumeRuntimeEvents
      split
      · exact hpair _ _ (.of_kind rfl nofun) (.of_kind rfl nofun)
      · exact hpair _ _ (.of_kind rfl nofun) (.of_kind rfl nofun)
    · split
      · exact ofRuntime_sendTurnEvents
      · exact hone _ _ _
    · split
      · exact hpair _ _ ⟨rfl, fun _ => rfl⟩ (.of_kind rfl nofun)
      · exact hone _ _ _
    · exact hone _ _ _
    · intro d hd
      obtain rfl := List.mem_singleton.mp hd
      exact .of_kind rfl nofun
    · intro d hd
      cases hd
  · exact hone _ _ _

/-- **What is known of an event that took its number from a runtime's counter.** -/
structure RuntimeEvent (event : EventEnvelope) : Prop where
  scope : ∃ r, event.scopeRef = .runtime r ∧ event.runtimeSessionId = some r
  kind : isRuntimeKind event.kind = true
  payload : event.payload.matchesKind event.kind = true
  turn : event.kind = .approvalResolved → event.turnId = none

/-! ## 8. What numbering does -/

section Issue

variable {source : EventSource} {providerKey : String} {command : CommandEnvelope}
  {runtimeSessionId : RuntimeSessionId}

/-- **The events of a command take the next numbers of its runtime, in order.** -/
theorem issueEvents_numbered (issue : Issue) (drafts : List EventDraft) :
    Numbered EventEnvelope.runtimeSessionId EventEnvelope.seq issue.runtimeSeqs.count
      ((issueEvents source providerKey command runtimeSessionId issue drafts).1.map (·.2))
      (issueEvents source providerKey command runtimeSessionId issue drafts).2.runtimeSeqs.count
    := by
  induction drafts generalizing issue with
  | nil => exact .nil _
  | cons draft drafts ih =>
    have hrest := ih (eventForCommand source providerKey command issue runtimeSessionId draft).2
    have hcount := Assoc.count_bump issue.runtimeSeqs runtimeSessionId
    refine .cons (k := runtimeSessionId) rfl rfl ?_
    rw [← hcount]
    exact hrest

/-- What every event of a command says, whatever its draft. -/
structure OfCommand (providerKey : String) (command : CommandEnvelope)
    (runtimeSessionId : RuntimeSessionId) (event : EventEnvelope) : Prop where
  commandId : event.commandId = some command.commandId
  actorRef : event.actorRef = .provider providerKey
  scopeRef : event.scopeRef = .runtime runtimeSessionId
  nodeId : event.nodeId = some command.target.nodeId
  runtimeSessionId : event.runtimeSessionId = some runtimeSessionId
  sessionThreadId : event.sessionThreadId = command.target.sessionThreadId

/-- An event of a command says what its draft says. -/
theorem mem_issueEvents {issue : Issue} {drafts : List EventDraft} {de : EventDraft × EventEnvelope}
    (h : de ∈ (issueEvents source providerKey command runtimeSessionId issue drafts).1) :
    de.1 ∈ drafts ∧ OfCommand providerKey command runtimeSessionId de.2 ∧
      de.2.turnId = de.1.turnId ∧ de.2.kind = de.1.payload.kind ∧ de.2.payload = de.1.payload := by
  induction drafts generalizing issue with
  | nil => cases h
  | cons draft drafts ih =>
    rcases List.mem_cons.mp h with rfl | h
    · exact ⟨List.mem_cons_self, ⟨rfl, rfl, rfl, rfl, rfl, rfl⟩, rfl, rfl, rfl⟩
    · obtain ⟨hmem, hrest⟩ := ih h
      exact ⟨List.mem_cons_of_mem _ hmem, hrest⟩

/-- **The events of a runtime's drafts are runtime events.** -/
theorem runtimeEvent_issueEvents {issue : Issue} {drafts : List EventDraft}
    (hdrafts : ∀ d ∈ drafts, d.OfRuntime) :
    ∀ e ∈ (issueEvents source providerKey command runtimeSessionId issue drafts).1.map (·.2),
      RuntimeEvent e := by
  intro e he
  obtain ⟨de, hde, rfl⟩ := List.mem_map.mp he
  obtain ⟨hd, hcommand, hturn, hkind, hpayload⟩ := mem_issueEvents hde
  have hof := hdrafts _ hd
  refine ⟨⟨_, hcommand.scopeRef, hcommand.runtimeSessionId⟩, hkind ▸ hof.kind, ?_, fun h => ?_⟩
  · rw [EventPayload.matchesKind, hpayload, hkind]
    exact beq_self_eq_true _
  · rw [hturn]
    exact hof.turn (hkind ▸ h)

/-- Numbering forgets no counter. -/
theorem issueEvents_keeps {issue : Issue} {drafts : List EventDraft} {k : RuntimeSessionId}
    (h : (issueEvents source providerKey command runtimeSessionId issue
      drafts).2.runtimeSeqs.lookup k = none) : issue.runtimeSeqs.lookup k = none := by
  induction drafts generalizing issue with
  | nil => exact h
  | cons draft drafts ih => exact Assoc.lookup_of_bump (ih h)

end Issue

/-! ## 9. A turn -/

/-- A turn of Node `n1` on its own runtime. -/
def sendTurnCommand : CommandEnvelope where
  commandId := "c9"
  kind := .sendTurn
  target := .sessionRuntime "n1" "p1" "s1" "r1"
  actorRef := .localUser none
  issuedAt := 1
  correlationId := "k9"
  payload := .sendTurn "hello" "t1"

end Uprava.Node
