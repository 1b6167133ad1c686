/-
  File:      Uprava/Core/ScheduledMessages.lean
  Subject:   Scheduled messages: the requests that create, edit, cancel and send one, the ticks of
             the dispatcher, and the recovery of a restart, in any order of their statements.

  A message is claimed by a guarded update, and the turn it causes is recorded in a transaction of
  its own. Between that transaction and the update that says `sent` the message is `sending`, and
  an error there, or a restart, says `failed` of a message that has caused a turn:

  * `Schedule.Sound`   -- the invariant: a task that dispatches a message is the only one, the
    message is `sending`, and before its record the message has caused no turn;
  * `Schedule.MayFail` -- the steps that say `failed` find a message that has caused no turn;
  * **`sent_at_most_once_iff`** -- a run whose steps are such is exactly one in which each message
    causes at most one turn, a message that was sent or cancelled causes none afterwards, and a
    message that failed has caused none.
-/
import Mathlib.Data.List.Perm.Basic
import Uprava.Core.Turns
import Uprava.Lib.Run

namespace Uprava.Core

open Uprava.Protocol
open Uprava.Lib (Schema Table Always Throughout Meets)
open Uprava.Lib.Table

/-! ## 1. Messages -/

abbrev ScheduledMessageId := String

inductive ScheduledMessageState where
  | scheduled | sending | sent | failed | cancelled
  deriving DecidableEq

structure ScheduledMessageRow where
  scheduledMessageId : ScheduledMessageId
  sessionThreadId : SessionThreadId
  content : String
  dueAt : DateTime
  timezone : String
  state : ScheduledMessageState
  createdAt : DateTime
  updatedAt : DateTime
  sendingAt : Option DateTime
  sentAt : Option DateTime
  cancelledAt : Option DateTime
  commandId : Option CommandId
  turnId : Option TurnId
  failureCode : Option String
  failureMessage : Option String
  deriving DecidableEq

instance : Schema ScheduledMessageRow where
  clash a b := a.scheduledMessageId = b.scheduledMessageId
  dec _ _ := inferInstanceAs (Decidable (_ = _))
  symm := Eq.symm

/-- A message as the routes name it. -/
structure MessageKey where
  scheduledMessageId : ScheduledMessageId
  sessionThreadId : SessionThreadId
  deriving DecidableEq

def ScheduledMessageRow.key (r : ScheduledMessageRow) : MessageKey :=
  ⟨r.scheduledMessageId, r.sessionThreadId⟩

def maxScheduledMessageContentChars : Nat := 65536
def maxScheduledMessageTimezoneChars : Nat := 100

def isTimezoneCharacter (c : Char) : Bool :=
  c.isAlphanum || c == '/' || c == '_' || c == '-' || c == '+'

/-- `validate_scheduled_message_input` -/
def validateScheduledMessageInput (content : String) (dueAt : DateTime) (timezone : String)
    (now : DateTime) : Except AppError Unit :=
  if isBlank content then
    .error (.badRequest "validation.empty_scheduled_message"
      "Scheduled message content cannot be empty")
  else if maxScheduledMessageContentChars < content.length then
    .error (.badRequest "validation.scheduled_message_too_large"
      "Scheduled message content exceeds the allowed size")
  else if dueAt ≤ now then
    .error (.badRequest "validation.scheduled_message_not_future"
      "Scheduled message time must be in the future")
  else if isBlank timezone || maxScheduledMessageTimezoneChars < (trim timezone).length ||
      !(trim timezone).toList.all isTimezoneCharacter then
    .error (.badRequest "validation.scheduled_message_timezone"
      "Scheduled message timezone must be a valid explicit timezone name")
  else .ok ()

/-! ## 2. Dispatches -/

/-- Where `dispatch_scheduled_message` stands. -/
inductive DispatchStep where
  | load
  /-- The checks of `submit_turn_for_actor`, and then its transaction. -/
  | check (content : String)
  | record (content : String) (session : SessionRow) (placement : PlacementRow)
  | dispatch (commandId : CommandId)
  /-- The session is loaded for the answer. -/
  | reload (commandId : CommandId)
  | link (commandId : CommandId)
  | markSent (commandId : CommandId) (turnId : Option TurnId)
  | markFailed (failure : String × String)
  deriving DecidableEq

/-- A message to be claimed, and the state it has to be in. -/
structure Claim where
  key : MessageKey
  expected : ScheduledMessageState
  claimable : expected = .scheduled ∨ expected = .failed
  deriving DecidableEq

/-- How a dispatch goes on after a step. An error ends the tick or the request. -/
inductive DispatchNext where
  | goesOn (step : DispatchStep)
  | done
  | fails (e : AppError)
  deriving DecidableEq

/-- Core's tables with that of the scheduled messages. -/
structure Messages where
  db : Database := {}
  messages : Table ScheduledMessageRow := .empty
  deriving DecidableEq

/-- What a step finds outside of the messages. -/
structure MessageInput where
  now : DateTime
  /-- The ids of a new command, its turn, the user's message and the correlation. -/
  commandId : CommandId
  turnId : TurnId
  userMessageId : MessageId
  correlationId : CorrelationId
  /-- What a check outside of the session refuses a turn with, or a statement or a dispatch fails
      with. -/
  error : Option AppError
  deriving DecidableEq

/-- The request of `update_scheduled_message_route`: the fields that are given. -/
structure ScheduledMessageUpdate where
  content : Option String
  dueAt : Option DateTime
  timezone : Option String
  deriving DecidableEq

/-- What `update_scheduled_message_route` writes. -/
structure MessageEdit where
  key : MessageKey
  content : String
  dueAt : DateTime
  timezone : String
  deriving DecidableEq

namespace Messages

/-! ## 3. Statements -/

/-- `load_scheduled_message`, without its error. -/
def find? (s : Messages) (key : MessageKey) : Option ScheduledMessageRow :=
  s.messages.find? (·.key == key)

def notFound : AppError :=
  .notFound "scheduled_message.not_found" "Scheduled message not found"

/-- `load_scheduled_message` -/
def load (s : Messages) (key : MessageKey) : Except AppError ScheduledMessageRow :=
  match s.find? key with
  | none => .error notFound
  | some row => .ok row

/-- The columns of an update leave the key alone. -/
structure KeepsKey (f : ScheduledMessageRow → ScheduledMessageRow) : Prop where
  key : ∀ r, (f r).key = r.key

theorem KeepsKey.keepsKeys {f : ScheduledMessageRow → ScheduledMessageRow} (h : KeepsKey f) :
    KeepsKeys f := by
  refine ⟨fun a b => ?_⟩
  have hid : (f a).scheduledMessageId = a.scheduledMessageId :=
    congrArg MessageKey.scheduledMessageId (h.key a)
  show (f a).scheduledMessageId = b.scheduledMessageId ↔ _
  rw [hid]
  exact Iff.rfl

/-- `update scheduled_messages set … where … and state in (…)`. -/
def write (s : Messages) (key : MessageKey) (states : List ScheduledMessageState)
    (f : ScheduledMessageRow → ScheduledMessageRow) (hf : KeepsKey f) : Messages :=
  { s with
    messages := s.messages.update (fun r => r.key == key && states.contains r.state) f
      hf.keepsKeys }

/-- Does the message stand in one of the states? `rows_affected` of such an update. -/
def isIn (s : Messages) (key : MessageKey) (states : List ScheduledMessageState) : Bool :=
  (s.messages.find? fun r => r.key == key && states.contains r.state).isSome

/-- `insert into scheduled_messages`. -/
def newRow (key : MessageKey) (content : String) (dueAt : DateTime) (timezone : String)
    (now : DateTime) : ScheduledMessageRow where
  scheduledMessageId := key.scheduledMessageId
  sessionThreadId := key.sessionThreadId
  content := trim content
  dueAt := dueAt
  timezone := trim timezone
  state := .scheduled
  createdAt := now
  updatedAt := now
  sendingAt := none
  sentAt := none
  cancelledAt := none
  commandId := none
  turnId := none
  failureCode := none
  failureMessage := none

/-- The update of `claim_scheduled_message`. -/
def claimRow (s : Messages) (claim : Claim) (now : DateTime) : Messages :=
  s.write claim.key [claim.expected]
    (fun r => { r with
      state := .sending, sendingAt := some now, updatedAt := now, failureCode := none,
      failureMessage := none }) ⟨fun _ => rfl⟩

def editRow (s : Messages) (edit : MessageEdit) (now : DateTime) : Messages :=
  s.write edit.key [.scheduled, .failed]
    (fun r => { r with
      content := edit.content, dueAt := edit.dueAt, timezone := edit.timezone,
      state := .scheduled, updatedAt := now, sendingAt := none, sentAt := none,
      cancelledAt := none, commandId := none, turnId := none, failureCode := none,
      failureMessage := none }) ⟨fun _ => rfl⟩

def cancelRow (s : Messages) (key : MessageKey) (now : DateTime) : Messages :=
  s.write key [.scheduled]
    (fun r => { r with state := .cancelled, cancelledAt := some now, updatedAt := now })
    ⟨fun _ => rfl⟩

def sentRow (s : Messages) (key : MessageKey) (commandId : CommandId) (turnId : Option TurnId)
    (now : DateTime) : Messages :=
  s.write key [.sending]
    (fun r => { r with
      state := .sent, sentAt := some now, updatedAt := now, commandId := some commandId, turnId })
    ⟨fun _ => rfl⟩

def failedRow (s : Messages) (key : MessageKey) (failure : String × String) (now : DateTime) :
    Messages :=
  s.write key [.sending]
    (fun r => { r with
      state := .failed, updatedAt := now, failureCode := some failure.1,
      failureMessage := some failure.2 }) ⟨fun _ => rfl⟩

/-- What `recover_interrupted_scheduled_messages` says of a message. -/
def interrupted (now : DateTime) (r : ScheduledMessageRow) : ScheduledMessageRow :=
  { r with
    state := .failed
    updatedAt := now
    failureCode := some "scheduled_message.dispatch_interrupted"
    failureMessage := some ("Core restarted while this delayed message was being dispatched; " ++
      "retry or reschedule it explicitly") }

/-- `recover_interrupted_scheduled_messages` -/
def recoverInterruptedScheduledMessages (s : Messages) (now : DateTime) : Messages :=
  { s with
    messages := s.messages.update (·.state == .sending) (interrupted now)
      (KeepsKey.keepsKeys ⟨fun _ => rfl⟩) }

/-! ## 4. Requests -/

/-- `create_scheduled_message_route` -/
def createScheduledMessage (s : Messages) (key : MessageKey) (content : String) (dueAt : DateTime)
    (timezone : String) (now : DateTime) : Except AppError Messages := do
  let _ ← loadSession s.db key.sessionThreadId
  validateScheduledMessageInput content dueAt timezone now
  let messages ← dbResult "scheduled_messages.scheduled_message_id"
    (s.messages.insert? (newRow key content dueAt timezone now))
  return { s with messages }

/-- What `update_scheduled_message_route` does before its update. -/
def updateScheduledMessage (s : Messages) (key : MessageKey) (request : ScheduledMessageUpdate)
    (now : DateTime) : Except AppError MessageEdit := do
  let existing ← s.load key
  if existing.state = .scheduled ∨ existing.state = .failed then
    let content := request.content.getD existing.content
    let dueAt := request.dueAt.getD existing.dueAt
    let timezone := request.timezone.getD existing.timezone
    validateScheduledMessageInput content dueAt timezone now
    return ⟨key, trim content, dueAt, trim timezone⟩
  else
    throw (.badRequest "scheduled_message.not_editable"
      "Only scheduled or failed messages can be edited or rescheduled")

/-- `cancel_scheduled_message_route` -/
def cancelScheduledMessage (s : Messages) (key : MessageKey) (now : DateTime) :
    Except AppError Messages :=
  if s.isIn key [.scheduled] then .ok (s.cancelRow key now)
  else
    .error (.badRequest "scheduled_message.not_cancellable"
      "Only scheduled messages can be cancelled")

/-- The messages `dispatch_due_scheduled_messages` finds, the earliest first. -/
def due (s : Messages) (now : DateTime) : List Claim :=
  ((s.messages.select fun r => r.state == .scheduled && r.dueAt ≤ now).mergeSort fun a b =>
    a.dueAt < b.dueAt ∨ a.dueAt = b.dueAt ∧ a.scheduledMessageId ≤ b.scheduledMessageId).map
      fun r => ⟨r.key, .scheduled, .inl rfl⟩

/-! ## 5. Dispatching a message -/

/-- A step of `dispatch_scheduled_message`. -/
def dispatchStep (s : Messages) (key : MessageKey) (input : MessageInput) :
    DispatchStep → Messages × DispatchNext
  | .load =>
    match s.load key with
    | .error e => (s, .fails e)
    | .ok row => (s, if row.state = .sending then .goesOn (.check row.content) else .done)
  | .check content =>
    match checkTurn s.db key.sessionThreadId content input.error with
    | .error e => (s, .goesOn (.markFailed (scheduledMessageFailure e)))
    | .ok (session, placement) => (s, .goesOn (.record content session placement))
  | .record content session placement =>
    let submission : TurnSubmission := ⟨input.commandId, input.turnId, input.userMessageId,
      input.correlationId, .localUser none, content, input.now⟩
    match input.error, recordTurnSubmission s.db submission (submission.command session placement)
        key.sessionThreadId with
    | some e, _ | none, .error e => (s, .goesOn (.markFailed (scheduledMessageFailure e)))
    | none, .ok db => ({ s with db }, .goesOn (.dispatch input.commandId))
  | .dispatch commandId =>
    match input.error with
    | some e => (s, .goesOn (.markFailed (scheduledMessageFailure e)))
    | none => (s, .goesOn (.reload commandId))
  | .reload commandId =>
    match input.error, loadSession s.db key.sessionThreadId with
    | some e, _ | none, .error e => (s, .goesOn (.markFailed (scheduledMessageFailure e)))
    | none, .ok _ => (s, .goesOn (.link commandId))
  | .link commandId =>
    let turnId := (s.db.turns.find? (·.commandId == commandId)).map (·.turnId)
    (s, .goesOn (.markSent commandId turnId))
  | .markSent commandId turnId => (s.sentRow key commandId turnId input.now, .done)
  | .markFailed failure => (s.failedRow key failure input.now, .done)

end Messages

/-! ## 6. Ticks and requests in hand -/

/-- A tick or a request that sends is the list of the messages it claims, one after the other. -/
inductive MessageTask where
  | sends (due : List Claim)
  | dispatches (key : MessageKey) (step : DispatchStep) (due : List Claim)
  /-- The update of an edit. -/
  | edits (edit : MessageEdit)
  deriving DecidableEq

/-- The message a task dispatches. -/
def MessageTask.held? : MessageTask → Option MessageKey
  | dispatches key .. => some key
  | _ => none

/-- The steps up to the record of the turn. -/
def DispatchStep.isEarly : DispatchStep → Bool
  | load | check _ | record .. => true
  | _ => false

structure Schedule where
  tables : Messages := {}
  tasks : List MessageTask := []
  /-- The turns that messages have caused, since the last edit of each. -/
  caused : List (MessageKey × TurnId) := []
  deriving DecidableEq

inductive ScheduleAction where
  | create (key : MessageKey) (content : String) (dueAt : DateTime) (timezone : String)
      (now : DateTime)
  | update (key : MessageKey) (request : ScheduledMessageUpdate) (now : DateTime)
  | cancel (key : MessageKey) (now : DateTime)
  | sendNow (key : MessageKey)
  | retry (key : MessageKey)
  | tick (now : DateTime)
  /-- The task at a position takes its next step. -/
  | advance (position : Nat) (input : MessageInput)
  /-- The task at a position ends where it is: by an error, or with the request it serves. -/
  | drop (position : Nat)
  /-- Core stops, and recovers. -/
  | restart (now : DateTime)
  /-- The rest of Core writes. -/
  | elsewhere (db : Database)
  deriving DecidableEq

namespace Schedule

/-- A task more. -/
def put (s : Schedule) (task : MessageTask) : Schedule := { s with tasks := task :: s.tasks }

def without (s : Schedule) (position : Nat) : Schedule :=
  { s with tasks := s.tasks.eraseIdx position }

/-- The rest of a tick, unless nothing is left of it. -/
def goesOn (s : Schedule) (due : List Claim) : Schedule :=
  match due with
  | [] => s
  | _ => s.put (.sends due)

/-- A step of a dispatch. -/
def driven (s : Schedule) (key : MessageKey) (input : MessageInput) (step : DispatchStep) :
    Schedule :=
  let (tables, next) := s.tables.dispatchStep key input step
  { s with
    tables
    caused := match step, next with
      | .record .., .goesOn (.dispatch _) => s.caused ++ [(key, input.turnId)]
      | _, _ => s.caused }

/-- A step of a dispatch, and how its task goes on. -/
def drive (s : Schedule) (key : MessageKey) (due : List Claim) (input : MessageInput)
    (step : DispatchStep) : Schedule :=
  match (s.tables.dispatchStep key input step).2 with
  | .goesOn next => (s.driven key input step).put (.dispatches key next due)
  | .done => (s.driven key input step).goesOn due
  | .fails _ => s.driven key input step

/-- A task takes its next step. -/
def advance (s : Schedule) (input : MessageInput) : MessageTask → Schedule
  | .sends [] => s
  | .sends (claim :: due) =>
    -- a claim that fails, also in the database, leaves the message to others
    if input.error.isNone && s.tables.isIn claim.key [claim.expected] then
      Schedule.put { s with tables := s.tables.claimRow claim input.now }
        (.dispatches claim.key .load due)
    else s.goesOn due
  | .dispatches key step due => s.drive key due input step
  | .edits edit =>
    if s.tables.isIn edit.key [.scheduled, .failed] then
      { s with
        tables := s.tables.editRow edit input.now
        caused := s.caused.filter (·.1 != edit.key) }
    else s

/-- One step. The task that takes it stands first afterwards. -/
def step (s : Schedule) : ScheduleAction → Option Schedule
  | .create key content dueAt timezone now =>
    ((s.tables.createScheduledMessage key content dueAt timezone now).toOption).map fun tables =>
      { s with tables }
  | .update key request now =>
    ((s.tables.updateScheduledMessage key request now).toOption).map fun edit =>
      s.put (.edits edit)
  | .cancel key now =>
    ((s.tables.cancelScheduledMessage key now).toOption).map fun tables => { s with tables }
  | .sendNow key => some (s.put (.sends [⟨key, .scheduled, .inl rfl⟩]))
  | .retry key => some (s.put (.sends [⟨key, .failed, .inr rfl⟩]))
  | .tick now => some (s.put (.sends (s.tables.due now)))
  | .advance position input =>
    (s.tasks[position]?).map fun task => (s.without position).advance input task
  | .drop position => (s.tasks[position]?).map fun _ => s.without position
  | .restart now => some
      { s with tables := s.tables.recoverInterruptedScheduledMessages now, tasks := [] }
  | .elsewhere db => some { s with tables := { s.tables with db } }

end Schedule

/-! ## 7. What messages cause -/

def Messages.stateOf? (s : Messages) (key : MessageKey) : Option ScheduledMessageState :=
  (s.find? key).map (·.state)

namespace Schedule

def stateOf? (s : Schedule) (key : MessageKey) : Option ScheduledMessageState :=
  s.tables.stateOf? key

/-- The turns a message has caused. -/
def turnsOf (s : Schedule) (key : MessageKey) : List TurnId :=
  (s.caused.filter (·.1 == key)).map (·.2)

/-- **A message causes at most one turn, and one that is shown as failed has caused none.** -/
structure AtMostOnce (s : Schedule) : Prop where
  once : ∀ key, (s.turnsOf key).length ≤ 1
  failed : ∀ key, s.stateOf? key = some .failed → s.turnsOf key = []

/-- **A message that was sent or cancelled stays so, and causes no turn afterwards.** -/
def KeepsSettled (s t : Schedule) : Prop :=
  ∀ key state, s.stateOf? key = some state → state = .sent ∨ state = .cancelled →
    t.stateOf? key = some state ∧ t.turnsOf key = s.turnsOf key

/-- A message says `failed` next, and has caused no turn: the update of a dispatch that ended in an
    error, or the recovery of a restart. -/
def MayFail (s : Schedule) : ScheduleAction → Prop
  | .advance position _ => ∀ key failure due,
      s.tasks[position]? = some (.dispatches key (.markFailed failure) due) → s.turnsOf key = []
  | .restart _ => ∀ key, s.stateOf? key = some .sending → s.turnsOf key = []
  | _ => True

/-- Some task dispatches the message. -/
def Held (s : Schedule) (key : MessageKey) : Prop := key ∈ s.tasks.filterMap (·.held?)

/-- **What every step keeps.** -/
structure Sound (s : Schedule) : Prop where
  sending : ∀ key, s.Held key → s.stateOf? key = some .sending
  alone : (s.tasks.filterMap (·.held?)).Nodup
  early : ∀ key step due, .dispatches key step due ∈ s.tasks → step.isEarly = true →
    s.turnsOf key = []
  scheduled : ∀ key, s.stateOf? key = some .scheduled → s.turnsOf key = []
  unknown : ∀ key, s.stateOf? key = none → s.turnsOf key = []

end Schedule

/-! ## 8. What a write does -/

namespace Messages

variable {s t : Messages} {key : MessageKey}

theorem find?_key {r : ScheduledMessageRow} (h : s.find? key = some r) : r.key = key := by
  simpa using find?_pos h

theorem mem_of_stateOf? {state : ScheduledMessageState} (h : s.stateOf? key = some state) :
    ∃ r, s.find? key = some r ∧ r.state = state := by
  simpa [stateOf?] using h

/-- **The guard of an update holds exactly when the message is in one of its states.** -/
theorem isIn_iff {states : List ScheduledMessageState} :
    s.isIn key states = true ↔ ∃ state ∈ states, s.stateOf? key = some state := by
  have hfind : (s.messages.find? fun r => r.key == key && states.contains r.state) =
      (s.find? key).filter (states.contains ·.state) := by
    have hand := find?_and (t := s.messages) (p := (·.key == key))
      (q := fun r : ScheduledMessageRow => states.contains r.state) fun a b ha hb =>
        congrArg MessageKey.scheduledMessageId ((eq_of_beq ha).trans (eq_of_beq hb).symm)
    rw [find?, ← hand]
    congr 1
    funext r
    exact Bool.and_comm _ _
  rw [isIn, hfind, stateOf?]
  cases s.find? key with
  | none => simp
  | some r => simp [Option.filter]

/-- One message gets a new state. -/
structure Moves (s t : Messages) (key : MessageKey) (state : ScheduledMessageState) : Prop where
  moved : t.stateOf? key = some state
  others : ∀ j, j ≠ key → t.stateOf? j = s.stateOf? j

theorem find?_write {states : List ScheduledMessageState} {f : ScheduledMessageRow →
    ScheduledMessageRow} (hf : KeepsKey f) (j : MessageKey) :
    (s.write key states f hf).find? j =
      (s.find? j).map fun r => if r.key == key && states.contains r.state then f r else r := by
  refine find?_update _ _ _ _ hf.keepsKeys fun r => ?_
  rw [hf.key r]

/-- **A guarded update moves the message it is for.** -/
theorem moves_write {states : List ScheduledMessageState} {f : ScheduledMessageRow →
    ScheduledMessageRow} (hf : KeepsKey f) {old state : ScheduledMessageState}
    (hold : s.stateOf? key = some old) (hmem : old ∈ states) (hstate : ∀ r, (f r).state = state) :
    Moves s (s.write key states f hf) key state := by
  refine ⟨?_, fun j hj => ?_⟩
  · obtain ⟨r, hr, rfl⟩ := mem_of_stateOf? hold
    rw [stateOf?, find?_write, hr]
    simp [find?_key hr, hmem, hstate]
  · rw [stateOf?, find?_write, stateOf?]
    cases hr : s.find? j with
    | none => rfl
    | some r =>
      have hne : r.key ≠ key := by
        rw [find?_key hr]
        exact hj
      simp [hne]

theorem moves_claimRow {claim : Claim} {now : DateTime}
    (h : s.stateOf? claim.key = some claim.expected) :
    Moves s (s.claimRow claim now) claim.key .sending :=
  moves_write _ h List.mem_cons_self fun _ => rfl

theorem moves_editRow {edit : MessageEdit} {old : ScheduledMessageState} {now : DateTime}
    (h : s.stateOf? edit.key = some old) (hold : old = .scheduled ∨ old = .failed) :
    Moves s (s.editRow edit now) edit.key .scheduled :=
  moves_write _ h (by simpa using hold) fun _ => rfl

theorem moves_cancelRow {now : DateTime} (h : s.stateOf? key = some .scheduled) :
    Moves s (s.cancelRow key now) key .cancelled :=
  moves_write _ h List.mem_cons_self fun _ => rfl

theorem moves_sentRow {commandId : CommandId} {turnId : Option TurnId} {now : DateTime}
    (h : s.stateOf? key = some .sending) : Moves s (s.sentRow key commandId turnId now) key .sent :=
  moves_write _ h List.mem_cons_self fun _ => rfl

theorem moves_failedRow {failure : String × String} {now : DateTime}
    (h : s.stateOf? key = some .sending) : Moves s (s.failedRow key failure now) key .failed :=
  moves_write _ h List.mem_cons_self fun _ => rfl

/-- A message that is created is a new one. -/
theorem moves_create {content timezone : String} {dueAt now : DateTime}
    (h : s.createScheduledMessage key content dueAt timezone now = .ok t) :
    s.stateOf? key = none ∧ Moves s t key .scheduled := by
  obtain ⟨_, _, h⟩ := bind_eq_ok.mp h
  obtain ⟨_, _, h⟩ := bind_eq_ok.mp h
  obtain ⟨messages, hinsert, h⟩ := bind_eq_ok.mp h
  have hinsert := dbResult_eq_ok.mp hinsert
  obtain rfl : { s with messages } = t := Except.ok.inj h
  have hnone : s.stateOf? key = none := by
    cases hstate : s.stateOf? key with
    | none => rfl
    | some state =>
      obtain ⟨r, hr, _⟩ := mem_of_stateOf? hstate
      have hclash : r.scheduledMessageId = key.scheduledMessageId :=
        congrArg MessageKey.scheduledMessageId (find?_key hr)
      exact absurd ⟨r, mem_of_find? hr, hclash⟩ (insert?_eq_some.mp hinsert).1
  have hfind : s.find? key = none := by simpa [stateOf?] using hnone
  refine ⟨hnone, ?_, fun j hj => ?_⟩
  · show (messages.find? _).map _ = _
    rw [find?_insert? hinsert]
    show ((s.find? key).or _).map _ = _
    rw [hfind]
    simp [newRow, ScheduledMessageRow.key]
  · show (messages.find? _).map _ = _
    rw [find?_insert? hinsert]
    show ((s.find? j).or _).map _ = (s.find? j).map _
    have hne : ((newRow key content dueAt timezone now).key == j) = false :=
      beq_eq_false_iff_ne.mpr (Ne.symm hj)
    rw [hne]
    simp

theorem moves_cancel {now : DateTime} (h : s.cancelScheduledMessage key now = .ok t) :
    s.stateOf? key = some .scheduled ∧ Moves s t key .cancelled := by
  unfold cancelScheduledMessage at h
  split at h
  · rename_i hin
    obtain rfl : s.cancelRow key now = t := Except.ok.inj h
    obtain ⟨state, hmem, hstate⟩ := isIn_iff.mp hin
    obtain rfl : state = .scheduled := by simpa using hmem
    exact ⟨hstate, moves_cancelRow hstate⟩
  · cases h

/-- **The recovery says `failed` of every message that is being sent.** -/
theorem stateOf?_recover (now : DateTime) :
    (recoverInterruptedScheduledMessages s now).stateOf? key =
      (s.stateOf? key).map fun state => if state = .sending then .failed else state := by
  have hfind : (recoverInterruptedScheduledMessages s now).find? key =
      (s.find? key).map fun r => if r.state == .sending then interrupted now r else r :=
    find?_update _ _ _ (interrupted now) (KeepsKey.keepsKeys ⟨fun _ => rfl⟩) fun _ => rfl
  rw [stateOf?, hfind, stateOf?]
  cases s.find? key with
  | none => rfl
  | some r =>
    by_cases hstate : r.state = .sending
    · simp [hstate, interrupted]
    · simp [hstate]

end Messages

namespace Schedule

open Messages (Moves isIn_iff moves_claimRow moves_editRow moves_cancelRow moves_sentRow
  moves_failedRow mem_of_stateOf? find?_key)

section Moved

variable {s t : Schedule} {key : MessageKey}

/-- The messages and what they caused are the same. -/
structure Same (s t : Schedule) : Prop where
  states : ∀ key, t.stateOf? key = s.stateOf? key
  turns : ∀ key, t.turnsOf key = s.turnsOf key

theorem Same.keepsSettled (h : Same s t) : KeepsSettled s t := fun key state hkey _ =>
  ⟨by rw [h.states key]; exact hkey, h.turns key⟩

theorem Same.atMostOnce (h : Same s t) (hs : s.AtMostOnce) : t.AtMostOnce := by
  refine ⟨fun key => ?_, fun key hkey => ?_⟩
  · rw [h.turns key]
    exact hs.once key
  · rw [h.turns key]
    exact hs.failed key (by rw [← h.states key]; exact hkey)

/-- The message is neither sent nor cancelled. -/
def Unsettled (s : Schedule) (key : MessageKey) : Prop :=
  ∀ state, s.stateOf? key = some state → state ≠ .sent ∧ state ≠ .cancelled

theorem Unsettled.of_state {old : ScheduledMessageState} (hold : s.stateOf? key = some old)
    (h : old ≠ .sent ∧ old ≠ .cancelled) : s.Unsettled key := by
  intro state hstate
  obtain rfl : old = state := Option.some.inj (hold.symm.trans hstate)
  exact h

/-- A message is moved, and nothing is caused. -/
structure Shifts (s t : Schedule) (key : MessageKey) (state : ScheduledMessageState) : Prop where
  moves : Moves s.tables t.tables key state
  tasks : t.tasks = s.tasks
  caused : t.caused = s.caused

theorem Shifts.turnsOf {state : ScheduledMessageState} (h : Shifts s t key state)
    (j : MessageKey) : t.turnsOf j = s.turnsOf j := by
  rw [Schedule.turnsOf, h.caused]
  rfl

/-- What is settled does not move. -/
theorem Shifts.keepsSettled {state : ScheduledMessageState} (h : Shifts s t key state)
    (hopen : s.Unsettled key) : KeepsSettled s t := by
  intro j final hj hfinal
  refine ⟨?_, h.turnsOf j⟩
  by_cases hjk : j = key
  · have hne := hopen final (hjk ▸ hj)
    rcases hfinal with hsent | hcancelled
    · exact absurd hsent hne.1
    · exact absurd hcancelled hne.2
  · exact (h.moves.others j hjk).trans hj

/-- **A move keeps the property exactly when it does not say `failed` of a message that has caused a
    turn.** -/
theorem Shifts.atMostOnce_iff {state : ScheduledMessageState} (h : Shifts s t key state)
    (hs : s.AtMostOnce) :
    t.AtMostOnce ↔ (state = .failed → s.turnsOf key = []) := by
  constructor
  · intro ht hstate
    rw [← h.turnsOf key]
    exact ht.failed key (hstate ▸ h.moves.moved)
  · intro hfail
    refine ⟨fun j => ?_, fun j hj => ?_⟩
    · rw [h.turnsOf j]
      exact hs.once j
    · rw [h.turnsOf j]
      by_cases hjk : j = key
      · rw [hjk] at hj ⊢
        exact hfail (Option.some.inj (h.moves.moved.symm.trans hj))
      · exact hs.failed j ((h.moves.others j hjk).symm.trans hj)

/-- A message nobody dispatches is moved, to a state in which it may have caused what it has. -/
theorem Shifts.sound {state : ScheduledMessageState} (h : Shifts s t key state) (hs : s.Sound)
    (hfree : ¬ s.Held key) (hscheduled : state = .scheduled → s.turnsOf key = []) : t.Sound := by
  have hheld : ∀ j, t.Held j ↔ s.Held j := by
    intro j
    rw [Held, h.tasks]
    exact Iff.rfl
  refine ⟨fun j hj => ?_, ?_, fun j step due hmem hearly => ?_, fun j hj => ?_, fun j hj => ?_⟩
  · have hj' := (hheld j).mp hj
    have hjk : j ≠ key := fun hjk => hfree (hjk ▸ hj')
    exact (h.moves.others j hjk).trans (hs.sending j hj')
  · rw [h.tasks]
    exact hs.alone
  · rw [h.tasks] at hmem
    rw [h.turnsOf j]
    exact hs.early j step due hmem hearly
  · rw [h.turnsOf j]
    by_cases hjk : j = key
    · rw [hjk] at hj ⊢
      exact hscheduled (Option.some.inj (h.moves.moved.symm.trans hj))
    · exact hs.scheduled j ((h.moves.others j hjk).symm.trans hj)
  · rw [h.turnsOf j]
    have hjk : j ≠ key := by
      intro hjk
      rw [hjk] at hj
      cases h.moves.moved.symm.trans hj
    exact hs.unknown j ((h.moves.others j hjk).symm.trans hj)

end Moved

/-! ## 9. What is in hand -/

section Tasks

variable {s t : Schedule} {key : MessageKey} {step : DispatchStep} {due : List Claim}

/-- The invariant of what is in hand, in any order. -/
theorem Sound.of_perm (h : s.Sound) {tasks : List MessageTask} (hperm : tasks.Perm s.tasks) :
    Sound { s with tasks } := by
  have hheld := hperm.filterMap (·.held?)
  refine ⟨fun key hkey => h.sending key (hheld.mem_iff.mp hkey), hheld.nodup_iff.mpr h.alone,
    fun key step due hmem => h.early key step due (hperm.mem_iff.mp hmem), h.scheduled, h.unknown⟩

/-- Some of what is in hand is given up. -/
theorem Sound.of_sublist (h : s.Sound) {tasks : List MessageTask} (hsub : tasks.Sublist s.tasks) :
    Sound { s with tasks } := by
  have hheld := hsub.filterMap (·.held?)
  exact ⟨fun key hkey => h.sending key (hheld.subset hkey), h.alone.sublist hheld,
    fun key step due hmem => h.early key step due (hsub.subset hmem), h.scheduled, h.unknown⟩

/-- A task is taken out to take its next step. -/
theorem Sound.take (h : s.Sound) {position : Nat} {task : MessageTask}
    (htask : s.tasks[position]? = some task) : ((s.without position).put task).Sound := by
  obtain ⟨hlt, rfl⟩ := List.getElem?_eq_some_iff.mp htask
  exact h.of_perm (List.getElem_cons_eraseIdx_perm hlt)

/-- What a task that dispatches a message knows. -/
theorem Sound.of_dispatches (h : (s.put (.dispatches key step due)).Sound) :
    s.Sound ∧ s.stateOf? key = some .sending ∧ ¬ s.Held key ∧
      (step.isEarly = true → s.turnsOf key = []) := by
  refine ⟨h.of_sublist (List.sublist_cons_self _ _), ?_, ?_, ?_⟩
  · exact h.sending key List.mem_cons_self
  · exact (List.nodup_cons.mp h.alone).1
  · exact h.early key step due List.mem_cons_self

theorem Sound.dispatches (h : s.Sound) (hsending : s.stateOf? key = some .sending)
    (hfree : ¬ s.Held key) (hearly : step.isEarly = true → s.turnsOf key = []) :
    (s.put (.dispatches key step due)).Sound := by
  refine ⟨fun j hj => ?_, List.nodup_cons.mpr ⟨hfree, h.alone⟩, fun j step' due' hmem hearly' => ?_,
    h.scheduled, h.unknown⟩
  · rcases List.mem_cons.mp hj with rfl | hj
    · exact hsending
    · exact h.sending j hj
  · rcases List.mem_cons.mp hmem with heq | hmem
    · obtain ⟨rfl, rfl, rfl⟩ := MessageTask.dispatches.inj heq
      exact hearly hearly'
    · exact h.early j step' due' hmem hearly'

/-- A task that dispatches nothing adds nothing to the invariant. -/
theorem Sound.put (h : s.Sound) {task : MessageTask} (hfree : task.held? = none) :
    (s.put task).Sound := by
  have hheld : (s.put task).tasks.filterMap (·.held?) = s.tasks.filterMap (·.held?) := by
    rw [Schedule.put, List.filterMap_cons_none hfree]
  refine ⟨fun key hkey => ?_, ?_, fun key step due hmem hearly => ?_, h.scheduled, h.unknown⟩
  · rw [Held, hheld] at hkey
    exact h.sending key hkey
  · rw [hheld]
    exact h.alone
  · rcases List.mem_cons.mp hmem with rfl | hmem
    · cases hfree
    · exact h.early key step due hmem hearly

theorem Sound.goesOn (h : s.Sound) : (s.goesOn due).Sound := by
  cases due with
  | nil => exact h
  | cons claim due => exact h.put rfl

theorem same_put (task : MessageTask) : Same s (s.put task) := ⟨fun _ => rfl, fun _ => rfl⟩

theorem same_goesOn : Same s (s.goesOn due) := by
  cases due with
  | nil => exact ⟨fun _ => rfl, fun _ => rfl⟩
  | cons claim due => exact same_put _

end Tasks

/-! ## 10. One step -/

/-- What is said of a step: it keeps the invariant and what is settled, and it keeps the property
    exactly when `C`. -/
structure Leads (s t : Schedule) (C : Prop) : Prop where
  sound : t.Sound
  kept : KeepsSettled s t
  once : t.AtMostOnce ↔ C

section Steps

variable {s t u : Schedule} {key : MessageKey} {step : DispatchStep} {due : List Claim} {C : Prop}

theorem Same.leads (h : Same s t) (hs : s.AtMostOnce) (hsound : t.Sound) (hC : C) : Leads s t C :=
  ⟨hsound, h.keepsSettled, iff_of_true (h.atMostOnce hs) hC⟩

/-- What changes nothing afterwards. -/
theorem Leads.same (h : Leads s t C) (hsame : Same t u) (hback : Same u t) (hsound : u.Sound) :
    Leads s u C := by
  refine ⟨hsound, fun j state hj hfinal => ?_, ?_⟩
  · obtain ⟨hstate, hturns⟩ := h.kept j state hj hfinal
    exact ⟨(hsame.states j).trans hstate, (hsame.turns j).trans hturns⟩
  · rw [← h.once]
    exact ⟨hback.atMostOnce, hsame.atMostOnce⟩

theorem Same.symm (h : Same s t) : Same t s :=
  ⟨fun key => (h.states key).symm, fun key => (h.turns key).symm⟩

theorem Leads.goesOn (h : Leads s t C) : Leads s (t.goesOn due) C :=
  h.same same_goesOn same_goesOn.symm h.sound.goesOn

/-- A dispatch goes on to its next step. -/
theorem leads_dispatches (hs : s.AtMostOnce) (hsound : s.Sound)
    (hsending : s.stateOf? key = some .sending) (hfree : ¬ s.Held key)
    (hearly : step.isEarly = true → s.turnsOf key = []) (hC : C) :
    Leads s (s.put (.dispatches key step due)) C :=
  (same_put _).leads hs (hsound.dispatches hsending hfree hearly) hC

/-- A message is moved. -/
theorem Shifts.leads {state : ScheduledMessageState} (h : Shifts s t key state) (hs : s.AtMostOnce)
    (hsound : s.Sound) (hfree : ¬ s.Held key) (hopen : s.Unsettled key)
    (hscheduled : state = .scheduled → s.turnsOf key = [])
    (hC : (state = .failed → s.turnsOf key = []) ↔ C) : Leads s t C :=
  ⟨h.sound hsound hfree hscheduled, h.keepsSettled hopen, (h.atMostOnce_iff hs).trans hC⟩

/-- The turn of a message is recorded. -/
theorem leads_record (hs : s.AtMostOnce) (hsound : s.Sound)
    (hsending : s.stateOf? key = some .sending) (hfree : ¬ s.Held key)
    (hnone : s.turnsOf key = []) (db : Database) (turnId : TurnId) (commandId : CommandId)
    (hC : C) :
    Leads s (Schedule.put
      { s with tables := { s.tables with db }, caused := s.caused ++ [(key, turnId)] }
      (.dispatches key (.dispatch commandId) due)) C := by
  let t : Schedule :=
    { s with tables := { s.tables with db }, caused := s.caused ++ [(key, turnId)] }
  have hturns : t.turnsOf key = [turnId] := by
    show ((s.caused ++ [(key, turnId)]).filter _).map _ = _
    rw [List.filter_append, List.map_append]
    show s.turnsOf key ++ _ = _
    simp [hnone]
  have hothers : ∀ j, j ≠ key → t.turnsOf j = s.turnsOf j := by
    intro j hj
    show ((s.caused ++ [(key, turnId)]).filter _).map _ = _
    rw [List.filter_append, List.map_append]
    show s.turnsOf j ++ _ = _
    simp [Ne.symm hj]
  have hnot : ∀ {j state}, s.stateOf? j = some state → state ≠ .sending → j ≠ key := by
    rintro j state hj hne rfl
    rw [hsending] at hj
    exact hne (Option.some.inj hj).symm
  have hsoundt : t.Sound := by
    refine ⟨hsound.sending, hsound.alone, fun j step' due' hmem hearly => ?_, fun j hj => ?_,
      fun j hj => ?_⟩
    · have hjk : j ≠ key := by
        rintro rfl
        exact hfree (List.mem_filterMap.mpr ⟨_, hmem, rfl⟩)
      rw [hothers j hjk]
      exact hsound.early j step' due' hmem hearly
    · rw [hothers j (hnot hj (by decide))]
      exact hsound.scheduled j hj
    · have hjk : j ≠ key := by
        rintro rfl
        exact absurd (hsending.symm.trans hj) (by simp)
      rw [hothers j hjk]
      exact hsound.unknown j hj
  refine ⟨hsoundt.dispatches hsending hfree (by intro h; cases h), fun j state hj hfinal => ?_,
    iff_of_true ⟨fun j => ?_, fun j hj => ?_⟩ hC⟩
  · refine ⟨hj, hothers j (hnot hj ?_)⟩
    rcases hfinal with rfl | rfl <;> decide
  · show (t.turnsOf j).length ≤ 1
    by_cases hjk : j = key
    · rw [hjk, hturns]
      exact Nat.le_refl 1
    · rw [hothers j hjk]
      exact hs.once j
  · show t.turnsOf j = []
    rw [hothers j (hnot hj (by decide))]
    exact hs.failed j hj

/-- The step that says `failed`. -/
def FailsOnly (s : Schedule) (key : MessageKey) (step : DispatchStep) : Prop :=
  ∀ failure, step = .markFailed failure → s.turnsOf key = []

/-- **A step of a dispatch.** -/
theorem leads_drive (hs : s.AtMostOnce) (hsound : (s.put (.dispatches key step due)).Sound)
    (input : MessageInput) : Leads s (s.drive key due input step) (s.FailsOnly key step) := by
  obtain ⟨hrest, hsending, hfree, hearly⟩ := hsound.of_dispatches
  have hopen : s.Unsettled key := .of_state hsending (by decide)
  have hmark : ∀ {step'}, (step'.isEarly = true → s.turnsOf key = []) →
      (∀ failure, step ≠ .markFailed failure) →
      Leads s (s.put (.dispatches key step' due)) (s.FailsOnly key step) :=
    fun hearly' hne => leads_dispatches hs hrest hsending hfree hearly'
      fun failure heq => absurd heq (hne failure)
  unfold drive driven
  cases step with
  | load =>
    have hnone := hearly rfl
    obtain ⟨row, hrow, hstate⟩ := mem_of_stateOf? hsending
    have hload : s.tables.load key = .ok row := by
      unfold Messages.load
      rw [hrow]
    simp only [Messages.dispatchStep, hload, if_pos hstate]
    exact hmark (fun _ => hnone) (by simp)
  | check content =>
    have hnone := hearly rfl
    cases hcheck : checkTurn s.tables.db key.sessionThreadId content input.error with
    | error e =>
      simp only [Messages.dispatchStep, hcheck]
      exact hmark (by intro h; cases h) (by simp)
    | ok found =>
      simp only [Messages.dispatchStep, hcheck]
      exact hmark (fun _ => hnone) (by simp)
  | record content session placement =>
    have hnone := hearly rfl
    cases herror : input.error with
    | some e =>
      simp only [Messages.dispatchStep, herror]
      exact hmark (by intro h; cases h) (by simp)
    | none =>
      let submission : TurnSubmission := ⟨input.commandId, input.turnId, input.userMessageId,
        input.correlationId, .localUser none, content, input.now⟩
      cases hrecord : recordTurnSubmission s.tables.db submission
          (submission.command session placement) key.sessionThreadId with
      | error e =>
        simp only [Messages.dispatchStep, herror, submission] at hrecord ⊢
        rw [hrecord]
        exact hmark (by intro h; cases h) (by simp)
      | ok db =>
        simp only [Messages.dispatchStep, herror, submission] at hrecord ⊢
        rw [hrecord]
        exact leads_record hs hrest hsending hfree hnone _ _ _ (by intro failure h; cases h)
  | dispatch commandId =>
    cases herror : input.error with
    | some e =>
      simp only [Messages.dispatchStep, herror]
      exact hmark (by intro h; cases h) (by simp)
    | none =>
      simp only [Messages.dispatchStep, herror]
      exact hmark (by intro h; cases h) (by simp)
  | reload commandId =>
    cases herror : input.error with
    | some e =>
      simp only [Messages.dispatchStep, herror]
      exact hmark (by intro h; cases h) (by simp)
    | none =>
      cases hload : loadSession s.tables.db key.sessionThreadId with
      | error e =>
        simp only [Messages.dispatchStep, herror, hload]
        exact hmark (by intro h; cases h) (by simp)
      | ok found =>
        simp only [Messages.dispatchStep, herror, hload]
        exact hmark (by intro h; cases h) (by simp)
  | link commandId => exact hmark (by intro h; cases h) (by simp)
  | markSent commandId turnId =>
    have hshifts : Shifts s { s with
        tables := s.tables.sentRow key commandId turnId input.now } key .sent :=
      ⟨moves_sentRow hsending, rfl, rfl⟩
    refine (hshifts.leads hs hrest hfree hopen (by intro h; cases h) ?_).goesOn
    exact iff_of_true (by intro h; cases h) (by intro failure h; cases h)
  | markFailed failure =>
    have hshifts : Shifts s { s with
        tables := s.tables.failedRow key failure input.now } key .failed :=
      ⟨moves_failedRow hsending, rfl, rfl⟩
    refine (hshifts.leads hs hrest hfree hopen (by intro h; cases h) ?_).goesOn
    exact ⟨fun h _ _ => h rfl, fun h _ => h failure rfl⟩

/-- The message of a claim that succeeds has caused no turn, and nobody dispatches it. -/
theorem leads_claim (hs : s.AtMostOnce) (hsound : s.Sound) {claim : Claim} {now : DateTime}
    (h : s.stateOf? claim.key = some claim.expected) (hC : C) :
    Leads s (Schedule.put { s with tables := s.tables.claimRow claim now }
      (.dispatches claim.key .load due)) C := by
  let t : Schedule := { s with tables := s.tables.claimRow claim now }
  have hshifts : Shifts s t claim.key .sending := ⟨moves_claimRow h, rfl, rfl⟩
  have hexpected := claim.claimable
  have hfree : ¬ s.Held claim.key := by
    intro hheld
    have hsending := Option.some.inj ((hsound.sending _ hheld).symm.trans h)
    rw [← hsending] at hexpected
    simp at hexpected
  have hnone : s.turnsOf claim.key = [] := by
    rcases hexpected with heq | heq
    · exact hsound.scheduled _ (by rw [h, heq])
    · exact hs.failed _ (by rw [h, heq])
  have hopen : s.Unsettled claim.key := by
    refine .of_state h ?_
    rcases hexpected with heq | heq <;> rw [heq] <;> decide
  have hlead : Leads s t C := hshifts.leads hs hsound hfree hopen (by intro heq; cases heq)
    (iff_of_true (by intro heq; cases heq) hC)
  exact hlead.same (same_put _) (same_put _).symm
    (hlead.sound.dispatches hshifts.moves.moved hfree fun _ => hnone)

/-- A message that is edited has caused no turn since. -/
theorem leads_edit (hs : s.AtMostOnce) (hsound : s.Sound) {edit : MessageEdit}
    {old : ScheduledMessageState} (h : s.stateOf? edit.key = some old)
    (hold : old = .scheduled ∨ old = .failed) {now : DateTime} (hC : C) :
    Leads s { s with
      tables := s.tables.editRow edit now
      caused := s.caused.filter (·.1 != edit.key) } C := by
  have hnone : s.turnsOf edit.key = [] := by
    rcases hold with rfl | rfl
    · exact hsound.scheduled _ h
    · exact hs.failed _ h
  have hfree : ¬ s.Held edit.key := by
    intro hheld
    have hsending := Option.some.inj ((hsound.sending _ hheld).symm.trans h)
    rw [← hsending] at hold
    simp at hold
  have hopen : s.Unsettled edit.key := by
    refine .of_state h ?_
    rcases hold with rfl | rfl <;> decide
  -- nothing is taken back: a message that can be edited has caused no turn
  have hcaused : s.caused.filter (·.1 != edit.key) = s.caused := by
    refine List.filter_eq_self.mpr fun p hp => bne_iff_ne.mpr fun heq => ?_
    have hmem : p.2 ∈ s.turnsOf edit.key :=
      List.mem_map_of_mem (List.mem_filter.mpr ⟨hp, beq_iff_eq.mpr heq⟩)
    rw [hnone] at hmem
    cases hmem
  have hshifts : Shifts s { s with
      tables := s.tables.editRow edit now
      caused := s.caused.filter (·.1 != edit.key) } edit.key .scheduled :=
    ⟨moves_editRow h hold, rfl, hcaused⟩
  exact hshifts.leads hs hsound hfree hopen (fun _ => hnone)
    (iff_of_true (by intro heq; cases heq) hC)

/-- What a task says of a message that failed. -/
def TaskMayFail (s : Schedule) (task : MessageTask) : Prop :=
  ∀ key failure due, task = .dispatches key (.markFailed failure) due → s.turnsOf key = []

/-- **A step of a task.** -/
theorem leads_advance (hs : s.AtMostOnce) {task : MessageTask} (hsound : (s.put task).Sound)
    (input : MessageInput) : Leads s (s.advance input task) (s.TaskMayFail task) := by
  have hrest : s.Sound := hsound.of_sublist (List.sublist_cons_self _ _)
  have hself : Same s s := ⟨fun _ => rfl, fun _ => rfl⟩
  cases task with
  | sends due =>
    have hmay : s.TaskMayFail (.sends due) := by intro key failure due' h; cases h
    cases due with
    | nil => exact hself.leads hs hrest hmay
    | cons claim due =>
      unfold advance
      dsimp only
      split
      · rename_i hclaim
        obtain ⟨state, hmem, hstate⟩ := isIn_iff.mp (Bool.and_eq_true_iff.mp hclaim).2
        obtain rfl : state = claim.expected := by simpa using hmem
        exact leads_claim hs hrest hstate hmay
      · exact same_goesOn.leads hs hrest.goesOn hmay
  | dispatches key step due =>
    have h := leads_drive hs hsound input
    refine ⟨h.sound, h.kept, h.once.trans ⟨fun hfail key' failure due' heq => ?_, ?_⟩⟩
    · obtain ⟨rfl, rfl, rfl⟩ := MessageTask.dispatches.inj heq
      exact hfail failure rfl
    · intro hmay failure heq
      exact hmay key failure due (by rw [heq])
  | edits edit =>
    have hmay : s.TaskMayFail (.edits edit) := by
      intro key failure due' h
      cases h
    unfold advance
    dsimp only
    split
    · rename_i hin
      obtain ⟨state, hmem, hstate⟩ := isIn_iff.mp hin
      exact leads_edit hs hrest hstate (by simpa using hmem) hmay
    · exact hself.leads hs hrest hmay

theorem leads_create (hs : s.AtMostOnce) (hsound : s.Sound) {content timezone : String}
    {dueAt now : DateTime} {tables : Messages}
    (h : s.tables.createScheduledMessage key content dueAt timezone now = .ok tables) (hC : C) :
    Leads s { s with tables } C := by
  obtain ⟨hnone, hmoves⟩ := Messages.moves_create h
  have hshifts : Shifts s { s with tables } key .scheduled := ⟨hmoves, rfl, rfl⟩
  have hnone : s.stateOf? key = none := hnone
  have hfree : ¬ s.Held key := by
    intro hheld
    rw [hsound.sending key hheld] at hnone
    cases hnone
  have hopen : s.Unsettled key := by
    intro state hstate
    rw [hnone] at hstate
    cases hstate
  exact hshifts.leads hs hsound hfree hopen (fun _ => hsound.unknown key hnone)
    (iff_of_true (by intro heq; cases heq) hC)

theorem leads_cancel (hs : s.AtMostOnce) (hsound : s.Sound) {now : DateTime} {tables : Messages}
    (h : s.tables.cancelScheduledMessage key now = .ok tables) (hC : C) :
    Leads s { s with tables } C := by
  obtain ⟨hstate, hmoves⟩ := Messages.moves_cancel h
  have hshifts : Shifts s { s with tables } key .cancelled := ⟨hmoves, rfl, rfl⟩
  have hfree : ¬ s.Held key := by
    intro hheld
    cases (hsound.sending key hheld).symm.trans hstate
  exact hshifts.leads hs hsound hfree (.of_state hstate (by decide))
    (by intro heq; cases heq) (iff_of_true (by intro heq; cases heq) hC)

theorem leads_restart (hs : s.AtMostOnce) (hsound : s.Sound) (now : DateTime) :
    Leads s { s with
        tables := s.tables.recoverInterruptedScheduledMessages now, tasks := [] }
      (∀ key, s.stateOf? key = some .sending → s.turnsOf key = []) := by
  let t : Schedule :=
    { s with tables := s.tables.recoverInterruptedScheduledMessages now, tasks := [] }
  have hstate : ∀ key, t.stateOf? key =
      (s.stateOf? key).map fun state => if state = .sending then .failed else state :=
    fun key => Messages.stateOf?_recover now
  have hback : ∀ {key state}, t.stateOf? key = some state → state ≠ .failed →
      s.stateOf? key = some state := by
    intro key state hkey hne
    rw [hstate key] at hkey
    obtain ⟨old, hold, heq⟩ := Option.map_eq_some_iff.mp hkey
    split at heq
    · exact absurd heq.symm hne
    · rw [hold, heq]
  refine ⟨⟨?_, List.nodup_nil, ?_, fun key hkey => ?_, fun key hkey => ?_⟩,
    fun key state hkey hfinal => ⟨?_, rfl⟩, ?_⟩
  · intro key hkey
    cases hkey
  · intro key step due hmem
    cases hmem
  · exact hsound.scheduled key (hback hkey (by decide))
  · have hkey : t.stateOf? key = none := hkey
    rw [hstate key] at hkey
    exact hsound.unknown key (by simpa using hkey)
  · show t.stateOf? key = some state
    rw [hstate key, hkey]
    rcases hfinal with rfl | rfl <;> rfl
  · constructor
    · intro ht key hkey
      refine ht.failed key ?_
      show t.stateOf? key = some .failed
      rw [hstate key, hkey]
      rfl
    · intro hsending
      refine ⟨hs.once, fun key hkey => ?_⟩
      have hkey : t.stateOf? key = some .failed := hkey
      rw [hstate key] at hkey
      obtain ⟨old, hold, heq⟩ := Option.map_eq_some_iff.mp hkey
      split at heq
      · rename_i holdSending
        exact hsending key (by rw [hold, holdSending])
      · exact hs.failed key (by rw [hold, heq])

/-- **A step that keeps the property is one that says `failed` only of messages that have caused
    no turn.** -/
theorem leads_step (hs : s.AtMostOnce) (hsound : s.Sound) {action : ScheduleAction}
    (h : s.step action = some t) : Leads s t (s.MayFail action) := by
  cases action with
  | create key content dueAt timezone now =>
    obtain ⟨tables, htables, rfl⟩ := Option.map_eq_some_iff.mp h
    exact leads_create hs hsound (ok_of_toOption htables) trivial
  | update key request now =>
    obtain ⟨edit, _, rfl⟩ := Option.map_eq_some_iff.mp h
    exact (same_put _).leads hs (hsound.put rfl) trivial
  | cancel key now =>
    obtain ⟨tables, htables, rfl⟩ := Option.map_eq_some_iff.mp h
    exact leads_cancel hs hsound (ok_of_toOption htables) trivial
  | sendNow key =>
    obtain rfl := Option.some.inj h
    exact (same_put _).leads hs (hsound.put rfl) trivial
  | retry key =>
    obtain rfl := Option.some.inj h
    exact (same_put _).leads hs (hsound.put rfl) trivial
  | tick now =>
    obtain rfl := Option.some.inj h
    exact (same_put _).leads hs (hsound.put rfl) trivial
  | advance position input =>
    obtain ⟨task, htask, rfl⟩ := Option.map_eq_some_iff.mp h
    have hlead := leads_advance (s := s.without position) ⟨hs.once, hs.failed⟩ (hsound.take htask)
      input
    refine ⟨hlead.sound, hlead.kept, hlead.once.trans ?_⟩
    constructor
    · intro hmay key failure due hget
      exact hmay key failure due (Option.some.inj (htask.symm.trans hget))
    · intro hmay key failure due heq
      exact hmay key failure due (by rw [htask, heq])
  | drop position =>
    obtain ⟨task, _, rfl⟩ := Option.map_eq_some_iff.mp h
    exact Same.leads ⟨fun _ => rfl, fun _ => rfl⟩ hs
      (hsound.of_sublist (List.eraseIdx_sublist ..)) trivial
  | restart now =>
    obtain rfl := Option.some.inj h
    exact leads_restart hs hsound now
  | elsewhere db =>
    obtain rfl := Option.some.inj h
    exact Same.leads ⟨fun _ => rfl, fun _ => rfl⟩ hs
      ⟨hsound.sending, hsound.alone, hsound.early, hsound.scheduled, hsound.unknown⟩ trivial

end Steps

/-! ## 11. Runs -/

theorem sound_start (db : Database) : Sound { tables := { db } } := by
  refine ⟨?_, List.nodup_nil, ?_, fun _ _ => rfl, fun _ _ => rfl⟩
  · intro key hkey
    cases hkey
  · intro key step due hmem
    cases hmem

theorem keepsSettled_trans {s t u : Schedule} (hst : KeepsSettled s t) (htu : KeepsSettled t u) :
    KeepsSettled s u := by
  intro key state hkey hfinal
  obtain ⟨hstate, hturns⟩ := hst key state hkey hfinal
  obtain ⟨hstate', hturns'⟩ := htu key state hstate hfinal
  exact ⟨hstate', hturns'.trans hturns⟩

/-- **In a run of the dispatcher and of the requests, with errors and restarts anywhere, each
    message causes at most one turn since its last edit, a message that was sent or cancelled causes
    none afterwards and a message that failed has caused none, exactly when no step says `failed`
    of a message that has caused a turn.** -/
theorem sent_at_most_once_iff {db : Database} {actions : List ScheduleAction} {t : Schedule}
    (hr : Lib.run Schedule.step { tables := { db } } actions = some t) :
    Always Schedule.step KeepsSettled { tables := { db } } actions ∧
        Throughout Schedule.step AtMostOnce { tables := { db } } actions ↔
      Meets Schedule.step MayFail { tables := { db } } actions :=
  (@Lib.always_throughout_iff_meets_of_kept _ _ step KeepsSettled) Sound
    (fun _ _ _ hkey _ => And.intro hkey rfl) (fun _ _ _ => keepsSettled_trans)
    (fun _ _ _ hsound hs h _ _ => (leads_step hs hsound h).sound)
    (fun _ _ _ hsound hs h =>
      ⟨fun hboth => (leads_step hs hsound h).once.mp hboth.2,
        fun hmay => ⟨(leads_step hs hsound h).kept, (leads_step hs hsound h).once.mpr hmay⟩⟩)
    (sound_start db) ⟨fun _ => Nat.zero_le 1, fun _ _ => rfl⟩ hr

/-! ## 12. Two messages -/

section Messages

/-- The steps that say `failed`, decided in the rows. -/
def mayFail (s : Schedule) : ScheduleAction → Bool
  | .advance position _ =>
    match s.tasks[position]? with
    | some (.dispatches key (.markFailed _) _) => (s.turnsOf key).isEmpty
    | _ => true
  | .restart _ =>
    s.tables.messages.rows.all fun r => r.state != .sending || (s.turnsOf r.key).isEmpty
  | _ => true

theorem mayFail_of_check {s : Schedule} {action : ScheduleAction} (h : s.mayFail action = true) :
    s.MayFail action := by
  cases action with
  | advance position input =>
    intro key failure due hget
    unfold mayFail at h
    dsimp only at h
    rw [hget] at h
    exact List.isEmpty_iff.mp h
  | restart now =>
    intro key hkey
    obtain ⟨r, hr, hstate⟩ := mem_of_stateOf? hkey
    have hrow := List.all_eq_true.mp h r (mem_of_find? hr)
    rw [hstate, find?_key hr] at hrow
    exact List.isEmpty_iff.mp (by simpa using hrow)
  | _ => trivial

def greeting : MessageKey := ⟨"m1", "s1"⟩

def greetingInput (now : DateTime) (turn : String) (error : Option AppError) : MessageInput :=
  ⟨now, "command-" ++ turn, turn, "message-" ++ turn, "r1", error⟩

/-- A message falls due, and a tick claims it. -/
def greetingClaimed : List ScheduleAction :=
  [.create greeting "Good morning" 10 "Europe/Berlin" 0, .tick 10,
    .advance 0 (greetingInput 10 "t3" none), .advance 0 (greetingInput 10 "t3" none)]

/-- The Node is offline, and the message fails. Later it is sent again. -/
def greetingRefused : List ScheduleAction :=
  greetingClaimed ++
    [.advance 0 (greetingInput 10 "t3" (some (.badRequest "node.offline" "Node is offline"))),
      .advance 0 (greetingInput 10 "t3" none), .retry greeting] ++
    List.replicate 8 (.advance 0 (greetingInput 20 "t4" none))

/-- The turn is recorded, and the dispatch that follows fails in the database. The message says that
    it failed, and it is sent again. -/
def greetingRepeated : List ScheduleAction :=
  greetingClaimed ++
    [.advance 0 (greetingInput 10 "t3" none), .advance 0 (greetingInput 10 "t3" none),
      .advance 0 (greetingInput 10 "t3" (some (.database "command_dispatch_outbox"))),
      .advance 0 (greetingInput 10 "t3" none), .retry greeting] ++
    List.replicate 8 (.advance 0 (greetingInput 20 "t4" none))

/-- A message that is refused once is sent once. -/
theorem sent_at_most_once_iff_refused :
    ((Lib.run step { tables := { db := twoNodes } } greetingRefused).map fun t =>
      (t.stateOf? greeting, t.turnsOf greeting)) = some (some .sent, ["t4"]) ∧
    Always step KeepsSettled { tables := { db := twoNodes } } greetingRefused ∧
      Throughout step AtMostOnce { tables := { db := twoNodes } } greetingRefused := by
  have hsent : ((Lib.run step { tables := { db := twoNodes } } greetingRefused).map fun t =>
      (t.stateOf? greeting, t.turnsOf greeting)) = some (some .sent, ["t4"]) := by decide +kernel
  obtain ⟨t, hrun, _⟩ := Option.map_eq_some_iff.mp hsent
  refine ⟨hsent, (sent_at_most_once_iff hrun).mpr ?_⟩
  exact Lib.meets_of_check (c := mayFail) (fun _ => True) (fun _ _ _ _ _ => trivial)
    (fun _ _ _ => mayFail_of_check) trivial (by decide +kernel)

/-- A message whose turn was recorded is shown as failed, and it is sent a second time. -/
theorem sent_twice :
    ((Lib.run step { tables := { db := twoNodes } } (greetingRepeated.take 8)).map fun t =>
      (t.stateOf? greeting, t.turnsOf greeting)) = some (some .failed, ["t3"]) ∧
    ((Lib.run step { tables := { db := twoNodes } } greetingRepeated).map fun t =>
      (t.stateOf? greeting, t.turnsOf greeting)) = some (some .sent, ["t3", "t4"]) ∧
    ¬ Throughout step AtMostOnce { tables := { db := twoNodes } } greetingRepeated := by
  have hfailed : ((Lib.run step { tables := { db := twoNodes } } (greetingRepeated.take 8)).map fun t =>
      (t.stateOf? greeting, t.turnsOf greeting)) = some (some .failed, ["t3"]) := by
    decide +kernel
  have hsent : ((Lib.run step { tables := { db := twoNodes } } greetingRepeated).map fun t =>
      (t.stateOf? greeting, t.turnsOf greeting)) = some (some .sent, ["t3", "t4"]) := by
    decide +kernel
  refine ⟨hfailed, hsent, fun hall => ?_⟩
  obtain ⟨t, hrun, ht⟩ := Option.map_eq_some_iff.mp hsent
  have honce := (hall greetingRepeated [] t (List.append_nil _).symm hrun).once greeting
  rw [(Prod.mk.inj ht).2] at honce
  exact absurd honce (by decide)

end Messages

end Schedule

end Uprava.Core
