/-
  File:      Uprava/Core/Turns.lean
  Subject:   Submitting a turn: what Core asks of the session first, and the transaction that records
             the turn, its command and the user's message.

  What the checks of the Node, the placement and the provider find is data of a submission, as the
  error they answer with.
-/
import Uprava.Core.Commands

namespace Uprava.Core

open Uprava.Protocol
open Uprava.Lib (Table)
open Uprava.Lib.Table

/-! ## 1. Guards of a session's commands -/

def formatRuntimeState : RuntimeSessionState → String
  | .starting => "starting"
  | .ready => "ready"
  | .running => "running"
  | .blocked => "blocked"
  | .stopping => "stopping"
  | .stopped => "stopped"
  | .interrupted => "interrupted"
  | .resuming => "resuming"
  | .stale => "stale"
  | .error => "error"
  | .expired => "expired"

/-- The kinds as `{:?}` writes them, where a runtime's state can refuse them. -/
def refusedKindText : CommandKind → String
  | .sendTurn => "SendTurn"
  | .requestDeduction => "RequestDeduction"
  | .resolveApproval => "ResolveApproval"
  | .interruptRuntime => "InterruptRuntime"
  | .stopRuntime => "StopRuntime"
  | .resumeRuntime => "ResumeRuntime"
  | _ => "Extension"

/-- Does a runtime in this state take a command of this kind? -/
def runtimeAccepts (state : RuntimeSessionState) : CommandKind → Bool
  | .sendTurn | .requestDeduction => state == .ready || state == .running
  | .resolveApproval => state == .blocked
  | .interruptRuntime => state == .running || state == .blocked
  | .stopRuntime => state != .stopped && state != .expired
  | .resumeRuntime =>
    state == .stopped || state == .expired || state == .stale || state == .error ||
      state == .interrupted
  | .extension => false
  | _ => true

/-- `ensure_runtime_accepts_command` -/
def ensureRuntimeAcceptsCommand (state : RuntimeSessionState) (commandKind : CommandKind) :
    Except AppError Unit :=
  if runtimeAccepts state commandKind then .ok ()
  else .error (.badRequest "runtime.command_not_allowed" ("Runtime state `" ++
    formatRuntimeState state ++ "` cannot accept `" ++ refusedKindText commandKind ++ "`"))

def commandRequiresAttachedSession : CommandKind → Bool
  | .sendTurn | .resolveApproval => true
  | _ => false

def sessionDetached : AppError :=
  .badRequest "session.detached" "Session is detached; attach before sending interactive commands"

/-- `ensure_session_commandable`: the session and its runtime first, and then what the other checks
    answer. -/
def ensureSessionCommandable (session : SessionRow) (runtime : RuntimeRow)
    (elsewhere : Option AppError) (commandKind : CommandKind) : Except AppError Unit :=
  if commandRequiresAttachedSession commandKind ∧ session.state = .detached then
    .error sessionDetached
  else
    match ensureRuntimeAcceptsCommand runtime.state commandKind, elsewhere with
    | .error e, _ => .error e
    | .ok (), some e => .error e
    | .ok (), none => .ok ()

/-- The session with its runtime, as `load_session_detail` joins them. -/
def loadSession (db : Database) (sessionThreadId : SessionThreadId) :
    Except AppError (SessionRow × RuntimeRow × PlacementRow) :=
  match db.sessionThreads.find? (·.sessionThreadId == sessionThreadId) with
  | none => .error (.notFound "session.not_found" "Session not found")
  | some session =>
    match db.runtimeSessions.find? (·.runtimeSessionId == session.runtimeSessionId),
        db.projectPlacements.find? (·.projectPlacementId == session.projectPlacementId) with
    | some runtime, some placement => .ok (session, runtime, placement)
    | none, _ => .error (.notFound "session.not_found" "Session not found")
    | _, none => .error (.notFound "placement.not_found" "Placement not found")

/-! ## 2. Texts -/

/-- `char::is_whitespace`: the `White_Space` characters of Unicode. -/
def isWhiteSpace (c : Char) : Bool :=
  let n := c.toNat
  (9 ≤ n && n ≤ 13) || n == 0x20 || n == 0x85 || n == 0xA0 || n == 0x1680 ||
    (0x2000 ≤ n && n ≤ 0x200A) || n == 0x2028 || n == 0x2029 || n == 0x202F || n == 0x205F ||
    n == 0x3000

/-- `value.trim().is_empty()`. -/
def isBlank (value : String) : Bool := value.toList.all isWhiteSpace

/-- `value.trim()`. -/
def trim (value : String) : String :=
  String.ofList ((value.toList.dropWhile isWhiteSpace).reverse.dropWhile isWhiteSpace).reverse

/-! ## 3. The record of a turn -/

/-- `scheduled_message_failure` -/
def scheduledMessageFailure : AppError → String × String
  | .notFound code message | .badRequest code message | .auth code message
  | .rateLimited code message => (code, message)
  | .database _ => ("internal.database", "Core database operation failed")
  | .serialization => ("internal.serialization", "Core serialization failed")

/-- A turn that is submitted: the ids it gets, who submits it, and what it says. -/
structure TurnSubmission where
  commandId : CommandId
  turnId : TurnId
  userMessageId : MessageId
  correlationId : CorrelationId
  actorRef : ActorRef
  content : String
  now : DateTime
  deriving DecidableEq

def TurnSubmission.command (submission : TurnSubmission) (session : SessionRow)
    (placement : PlacementRow) : CommandEnvelope where
  commandId := submission.commandId
  kind := .sendTurn
  target := .sessionRuntime placement.nodeId placement.projectPlacementId session.sessionThreadId
    session.runtimeSessionId
  actorRef := submission.actorRef
  issuedAt := submission.now
  correlationId := submission.correlationId
  payload := .sendTurn submission.content submission.turnId

/-- `coalesce(max(turn_index), 0) + 1`. -/
def nextTurnIndex (turns : Table TurnRow) (sessionThreadId : SessionThreadId) : Int :=
  ((turns.select (·.sessionThreadId == sessionThreadId)).map (·.turnIndex)).foldl max 0 + 1

/-- The transaction of `record_turn_submission`. -/
def recordTurnSubmission (db : Database) (submission : TurnSubmission)
    (command : CommandEnvelope) (sessionThreadId : SessionThreadId) :
    Except AppError Database := do
  let db := upsertActor db command.actorRef command.issuedAt
  let commands ← dbResult "commands.command_id"
    (db.commands.insert? { CommandRow.recorded command with state := .pendingDispatch })
  let commandOutbox := db.commandOutbox.insertOrIgnore
    ⟨command.commandId, command.target.nodeId, command, 0, command.issuedAt, none⟩
  let turns ← dbResult "turns" (db.turns.insert?
    ⟨submission.turnId, sessionThreadId, command.commandId, nextTurnIndex db.turns sessionThreadId,
      .created, none, submission.now, submission.now, none⟩)
  let messages ← dbResult "messages" (db.messages.insert?
    ⟨submission.userMessageId, sessionThreadId, some submission.turnId, .user, submission.content,
      submission.now, some submission.now, none⟩)
  return { db with commands, commandOutbox, turns, messages }

def emptyTurn : AppError := .badRequest "validation.empty_turn" "Turn content cannot be empty"

/-- What `submit_turn_for_actor` asks before it records a turn: the session and its placement. -/
def checkTurn (db : Database) (sessionThreadId : SessionThreadId) (content : String)
    (elsewhere : Option AppError) : Except AppError (SessionRow × PlacementRow) :=
  if isBlank content then .error emptyTurn
  else
    match loadSession db sessionThreadId with
    | .error e => .error e
    | .ok (session, runtime, placement) =>
      match ensureSessionCommandable session runtime elsewhere .sendTurn with
      | .error e => .error e
      | .ok () => .ok (session, placement)

/-! ## 4. What the record of a turn writes -/

/-- The turns are not about actors. -/
theorem upsertActor_turns (db : Database) (actorRef : ActorRef) (seenAt : DateTime) :
    (upsertActor db actorRef seenAt).turns = db.turns := by
  obtain ⟨actors, hactors⟩ := upsertActor_eq db actorRef seenAt
  rw [hactors]

/-- A session is loaded as before where its row, its runtime and its placement are as before. -/
theorem loadSession_congr {db db' : Database} {sessionThreadId : SessionThreadId}
    (hsession : db'.sessionThreads.find? (·.sessionThreadId == sessionThreadId) =
      db.sessionThreads.find? (·.sessionThreadId == sessionThreadId))
    (hruntime : ∀ session ∈ db.sessionThreads.rows,
      db'.runtimeSessions.find? (·.runtimeSessionId == session.runtimeSessionId) =
        db.runtimeSessions.find? (·.runtimeSessionId == session.runtimeSessionId))
    (hplacement : db'.projectPlacements = db.projectPlacements) :
    loadSession db' sessionThreadId = loadSession db sessionThreadId := by
  unfold loadSession
  rw [hsession]
  cases hfind : db.sessionThreads.find? (·.sessionThreadId == sessionThreadId) with
  | none => rfl
  | some session =>
    dsimp only
    rw [hruntime session (mem_of_find? hfind), hplacement]

/-- A turn of the session has a smaller number. -/
theorem lt_nextTurnIndex {turns : Table TurnRow} {r : TurnRow} (hr : r ∈ turns.rows) :
    r.turnIndex < nextTurnIndex turns r.sessionThreadId := by
  have hmem : r.turnIndex ∈
      (turns.select (·.sessionThreadId == r.sessionThreadId)).map (·.turnIndex) :=
    List.mem_map_of_mem (List.mem_filter.mpr ⟨hr, beq_self_eq_true _⟩)
  exact Int.lt_add_one_of_le ((le_foldl_max _ 0).1 _ hmem)

def outboxRow (command : CommandEnvelope) : CommandOutboxRow :=
  ⟨command.commandId, command.target.nodeId, command, 0, command.issuedAt, none⟩

/-- What `recordCommand` writes. -/
structure RecordsCommand (db db' : Database) (command : CommandEnvelope) : Prop where
  commands : db.commands.insert? (.recorded command) = some db'.commands
  other : db' = { db with
    actors := db'.actors, commands := db'.commands,
    commandOutbox := db.commandOutbox.insertOrIgnore (outboxRow command) }

theorem records_of_recordCommand {db db' : Database} {command : CommandEnvelope}
    (h : recordCommand db command = .ok db') : RecordsCommand db db' command := by
  obtain ⟨actors, hactors⟩ := upsertActor_eq db command.actorRef command.issuedAt
  unfold recordCommand at h
  split at h
  · cases h
  · dsimp only at h
    rw [hactors] at h
    split at h
    · cases h
    · rename_i commands hcommands
      obtain rfl := Except.ok.inj h
      exact ⟨hcommands, rfl⟩

theorem exists_recordCommand {db : Database} {command : CommandEnvelope}
    (hkind : command.payload.matchesKind command.kind = true)
    (hnew : ∀ r ∈ db.commands.rows, r.commandId ≠ command.commandId) :
    ∃ db', recordCommand db command = .ok db' := by
  obtain ⟨actors, hactors⟩ := upsertActor_eq db command.actorRef command.issuedAt
  have hclash : ¬ db.commands.Clashes (.recorded command) := by
    rintro ⟨r, hr, hid⟩
    exact hnew r hr hid
  obtain ⟨commands, hcommands⟩ := Option.isSome_iff_exists.mp (isSome_insert?.mpr hclash)
  unfold recordCommand
  rw [if_neg (by simp [hkind])]
  dsimp only
  rw [hactors]
  dsimp only
  rw [hcommands]
  exact ⟨_, rfl⟩

/-- The ids of a command, its turn and the user's message are new. -/
structure NewTurn (db : Database) (commandId : CommandId) (turnId : TurnId)
    (userMessageId : MessageId) : Prop where
  command : ∀ r ∈ db.commands.rows, r.commandId ≠ commandId
  outbox : ∀ r ∈ db.commandOutbox.rows, r.commandId ≠ commandId
  turn : ∀ r ∈ db.turns.rows, r.turnId ≠ turnId ∧ r.commandId ≠ commandId
  message : ∀ r ∈ db.messages.rows, r.messageId ≠ userMessageId

section Record

variable {db db' : Database} {submission : TurnSubmission} {command : CommandEnvelope}
  {sessionThreadId : SessionThreadId}

/-- The rows of a submission. -/
def TurnSubmission.commandRow (command : CommandEnvelope) : CommandRow :=
  { CommandRow.recorded command with state := .pendingDispatch }

def TurnSubmission.turnRow (submission : TurnSubmission) (command : CommandEnvelope)
    (sessionThreadId : SessionThreadId) (turnIndex : Int) : TurnRow :=
  ⟨submission.turnId, sessionThreadId, command.commandId, turnIndex, .created, none,
    submission.now, submission.now, none⟩

def TurnSubmission.messageRow (submission : TurnSubmission)
    (sessionThreadId : SessionThreadId) : MessageRow :=
  ⟨submission.userMessageId, sessionThreadId, some submission.turnId, .user, submission.content,
    submission.now, some submission.now, none⟩

/-- **What the record of a turn writes.** -/
structure RecordsTurn (db db' : Database) (submission : TurnSubmission) (command : CommandEnvelope)
    (sessionThreadId : SessionThreadId) : Prop where
  commands : db.commands.insert? (TurnSubmission.commandRow command) = some db'.commands
  commandOutbox : db'.commandOutbox = db.commandOutbox.insertOrIgnore (outboxRow command)
  turns : db.turns.insert? (submission.turnRow command sessionThreadId
    (nextTurnIndex db.turns sessionThreadId)) = some db'.turns
  messages : db.messages.insert? (submission.messageRow sessionThreadId) = some db'.messages
  projectPlacements : db'.projectPlacements = db.projectPlacements
  sessionThreads : db'.sessionThreads = db.sessionThreads
  runtimeSessions : db'.runtimeSessions = db.runtimeSessions

theorem records_of_submission
    (h : recordTurnSubmission db submission command sessionThreadId = .ok db') :
    RecordsTurn db db' submission command sessionThreadId := by
  obtain ⟨actors, hactors⟩ := upsertActor_eq db command.actorRef command.issuedAt
  unfold recordTurnSubmission at h
  rw [hactors] at h
  obtain ⟨commands, hcommands, h⟩ := bind_eq_ok.mp h
  obtain ⟨turns, hturns, h⟩ := bind_eq_ok.mp h
  obtain ⟨messages, hmessages, h⟩ := bind_eq_ok.mp h
  obtain rfl := Except.ok.inj h
  exact ⟨dbResult_eq_ok.mp hcommands, rfl, dbResult_eq_ok.mp hturns, dbResult_eq_ok.mp hmessages,
    rfl, rfl, rfl⟩

/-- With new ids the record goes through: the number of the turn is free. -/
theorem exists_recordTurnSubmission
    (h : NewTurn db command.commandId submission.turnId submission.userMessageId) :
    ∃ db', recordTurnSubmission db submission command sessionThreadId = .ok db' := by
  obtain ⟨actors, hactors⟩ := upsertActor_eq db command.actorRef command.issuedAt
  have hcommands : ¬ db.commands.Clashes (TurnSubmission.commandRow command) := by
    rintro ⟨r, hr, hclash⟩
    exact h.command r hr hclash
  have hturns : ¬ db.turns.Clashes (submission.turnRow command sessionThreadId
      (nextTurnIndex db.turns sessionThreadId)) := by
    rintro ⟨r, hr, hid | hcommand | ⟨hsession, hindex⟩⟩
    · exact (h.turn r hr).1 hid
    · exact (h.turn r hr).2 hcommand
    · have hlt := lt_nextTurnIndex hr
      rw [hsession, hindex] at hlt
      exact absurd hlt (lt_irrefl _)
  have hmessages : ¬ db.messages.Clashes (submission.messageRow sessionThreadId) := by
    rintro ⟨r, hr, hid | ⟨hevent, hsome⟩⟩
    · exact h.message r hr hid
    · exact hsome hevent
  obtain ⟨commands, hcommands⟩ := Option.isSome_iff_exists.mp (isSome_insert?.mpr hcommands)
  obtain ⟨turns, hturns⟩ := Option.isSome_iff_exists.mp (isSome_insert?.mpr hturns)
  obtain ⟨messages, hmessages⟩ := Option.isSome_iff_exists.mp (isSome_insert?.mpr hmessages)
  refine ⟨{ db with
    actors, commands, commandOutbox := db.commandOutbox.insertOrIgnore (outboxRow command), turns
    messages }, ?_⟩
  unfold recordTurnSubmission
  rw [hactors]
  refine bind_eq_ok.mpr ⟨commands, dbResult_eq_ok.mpr hcommands, ?_⟩
  refine bind_eq_ok.mpr ⟨turns, dbResult_eq_ok.mpr hturns, ?_⟩
  exact bind_eq_ok.mpr ⟨messages, dbResult_eq_ok.mpr hmessages, rfl⟩

/-- Other ids stay new. -/
theorem RecordsTurn.newTurn {commandId : CommandId} {turnId : TurnId} {userMessageId : MessageId}
    (h : RecordsTurn db db' submission command sessionThreadId)
    (hnew : NewTurn db commandId turnId userMessageId) (hcommand : command.commandId ≠ commandId)
    (hturn : submission.turnId ≠ turnId) (hmessage : submission.userMessageId ≠ userMessageId) :
    NewTurn db' commandId turnId userMessageId := by
  constructor
  · exact forall_insert? h.commands hnew.command hcommand
  · rw [h.commandOutbox]
    exact forall_insertOrIgnore hnew.outbox hcommand
  · exact forall_insert? h.turns hnew.turn ⟨hturn, hcommand⟩
  · exact forall_insert? h.messages hnew.message hmessage

theorem RecordsTurn.outbox_of_ne {commandId : CommandId}
    (h : RecordsTurn db db' submission command sessionThreadId)
    (hcommand : command.commandId ≠ commandId) :
    db'.commandOutbox.find? (·.commandId == commandId) =
      db.commandOutbox.find? (·.commandId == commandId) := by
  rw [h.commandOutbox]
  exact find?_insertOrIgnore_of_neg (beq_false_of_ne hcommand)

/-- The command waits in the outbox. -/
theorem RecordsTurn.outbox {turnId : TurnId} {userMessageId : MessageId}
    (h : RecordsTurn db db' submission command sessionThreadId)
    (hnew : NewTurn db command.commandId turnId userMessageId) :
    db'.commandOutbox.find? (·.commandId == command.commandId) =
      (db.commandOutbox.find? (·.commandId == command.commandId)).or
        (some (outboxRow command)) := by
  rw [h.commandOutbox]
  refine find?_insertOrIgnore_of_pos ?_ (beq_self_eq_true _)
  rintro ⟨r, hr, hid⟩
  exact hnew.outbox r hr hid

end Record

end Uprava.Core
