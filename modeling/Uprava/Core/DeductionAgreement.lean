/-
  File:      Uprava/Core/DeductionAgreement.lean
  Subject:   Deductions under concurrency: the calls about them in flight, and whether a
             deduction's row and the session's log say the same of its end.

  A call is its own continuation (`DeductionCall`), as in the lifecycle of commands: it runs one
  statement or one transaction at a time, and can stop before any of them. A call that ends a
  deduction first writes the row and then appends the event; in between it owes the event
  (`DeductionCall.owed`).

  * `terminalRow_kept`: a row that is ended stays as it is, whatever happens.
  * `Deductions.Sound`: the events in the log and the events owed are, up to order, the ends the
    rows record.
  * `deductions_agree`: the invariant holds along every run whose steps each write an active row,
    stop no call that owes an event, and take no number such a call has read.
-/
import Uprava.Core.CommandLifecycle
import Uprava.Core.Deductions
import Mathlib.Data.Fintype.EquivFin

namespace Uprava.Core

open Uprava.Protocol
open Uprava.Lib (Schema Table run Meets Always always_iff_eachStep run_inv_of_meets run_cons
  run_cons_eq_some meets_of_split meets_of_check check)
open Uprava.Lib.Table

/-! ## 1. Ends of deductions -/

/-- The end of a deduction, as its row records it or as an event announces it. -/
structure Ending where
  sessionThreadId : Option SessionThreadId
  deductionId : DeductionId
  state : DeductionState
  deriving DecidableEq

def EventPayload.endsDeduction : EventPayload → Option (DeductionId × DeductionState)
  | .deductionCompleted deductionId => some (deductionId, .completed)
  | .deductionInvalid deductionId .. => some (deductionId, .invalid)
  | .deductionFailed deductionId .. => some (deductionId, .failed)
  | .deductionCancelled deductionId => some (deductionId, .cancelled)
  | _ => none

/-- The end a payload announces in a session. -/
def endingIn (sessionThreadId : Option SessionThreadId) (payload : EventPayload) : Option Ending :=
  (EventPayload.endsDeduction payload).map fun e => ⟨sessionThreadId, e.1, e.2⟩

def EventRow.ending (r : EventRow) : Option Ending := endingIn r.sessionThreadId r.event.payload

/-- The ends a log announces. -/
def terminalEvents (events : Table EventRow) : List Ending := events.rows.filterMap EventRow.ending

def DeductionRow.ending (r : DeductionRow) : Option Ending :=
  if r.state.isActive then none else some ⟨some r.sessionThreadId, r.deductionId, r.state⟩

/-- The ends the rows record. -/
def endedDeductions (deductions : Table DeductionRow) : List Ending :=
  deductions.rows.filterMap DeductionRow.ending

/-! ## 2. Calls in flight -/

def DeductionOutcome.note (outcome : DeductionOutcome) (row : DeductionRow) : SessionNote where
  sessionThreadId := row.sessionThreadId
  commandId := some row.commandId
  payload := outcome.payload row.deductionId
  kind := by cases outcome <;> rfl

def DeductionRequest.note (request : DeductionRequest) : SessionNote where
  sessionThreadId := request.package.sessionThreadId
  commandId := some request.context.commandId
  payload := .deductionRequested request.package.deductionId request.package.scopeRef
    request.package.question
  kind := rfl

def cancellationNote (row : DeductionRow) (context : CommandContext) : SessionNote where
  sessionThreadId := row.sessionThreadId
  commandId := some context.commandId
  payload := .deductionCancelled row.deductionId
  kind := rfl

def SessionNote.ending (note : SessionNote) : Option Ending :=
  endingIn (some note.sessionThreadId) note.payload

/-- What is left of a call: its next statement or transaction, and what the ones after it need. -/
inductive DeductionCall where
  /-- `create_deduction` -/
  | checkRequest (request : DeductionRequest)
  | insert (request : DeductionRequest)
  /-- `cancel_deduction` -/
  | loadDeduction (deductionId : DeductionId) (context : CommandContext)
  | cancel (row : DeductionRow) (context : CommandContext)
  /-- `CommandAck` -/
  | validateAck (nodeId : NodeId) (commandId : CommandId) (status : CommandState)
  | updateAck (commandId : CommandId) (status : CommandState)
  | markRunning (commandId : CommandId)
  /-- `CommandResult` -/
  | validateResult (nodeId : NodeId) (commandId : CommandId) (status : CommandState)
      (payload : JsonValue)
  | updateResult (commandId : CommandId) (status : CommandState) (payload : JsonValue)
  | selectDeduction (commandId : CommandId) (status : CommandState) (payload : JsonValue)
  | settle (row : DeductionRow) (outcome : DeductionOutcome)
  /-- `append_core_session_event` -/
  | numberNote (note : SessionNote)
  | appendNote (note : SessionNote) (seq : Int)

/-- Core's database, its deductions, and the calls in flight. -/
structure Deductions where
  db : Database
  deductions : Table DeductionRow := .empty
  calls : List DeductionCall := []

namespace DeductionCall

/-- The end a call still has to announce. -/
def owed : DeductionCall → Option Ending
  | numberNote note | appendNote note _ => note.ending
  | _ => none

/-- The number a call that owes an event has read for it, with its scope. -/
def reserved : DeductionCall → Option (String × Int)
  | appendNote note seq =>
    note.ending.map fun _ => (scopeKey (.session note.sessionThreadId), seq)
  | _ => none

/-- The number the next step of a call stores an event under, with its scope. -/
def stores : DeductionCall → Option (String × Int)
  | appendNote note seq => some (scopeKey (.session note.sessionThreadId), seq)
  | _ => none

/-- The row a call has read, which its next step ends. -/
def ends : DeductionCall → Option DeductionRow
  | cancel row _ | settle row _ => some row
  | _ => none

variable (codec : ResultCodec) (decode : JsonValue → Option DeductionProviderOutput)

/-- Runs the next statement or transaction of a call: the database, the deductions, and what is
    left of the call. Nothing is left of one that returned or failed. -/
def step (db : Database) (deductions : Table DeductionRow) (draw : Draw) :
    DeductionCall → (Database × Table DeductionRow) × Option DeductionCall
  | checkRequest request =>
    match checkDeductionRequest deductions request with
    | .ok () => ((db, deductions), some (insert request))
    | .error _ => ((db, deductions), none)
  | insert request =>
    match insertDeduction db deductions request with
    | .ok written => (written, some (numberNote request.note))
    | .error _ => ((db, deductions), none)
  | loadDeduction deductionId context =>
    match loadActiveDeduction deductions deductionId with
    | .ok row => ((db, deductions), some (cancel row context))
    | .error _ => ((db, deductions), none)
  | cancel row context =>
    match recordCancellation db deductions row context with
    | .ok written => (written, some (numberNote (cancellationNote row context)))
    | .error _ => ((db, deductions), none)
  | validateAck nodeId commandId status =>
    match validateCommandAck db nodeId commandId status with
    | .ok () => ((db, deductions), some (updateAck commandId status))
    | .error _ => ((db, deductions), none)
  | updateAck commandId status =>
    ((updateCommandState db commandId status draw.now, deductions), some (markRunning commandId))
  | markRunning commandId =>
    ((db, (markDeductionRunning deductions commandId draw.now).getD deductions), none)
  | validateResult nodeId commandId status payload =>
    let durable := durableCommandResultPayload payload
    match validateCommandResult (codec.withDeductions decode) db nodeId commandId status durable with
    | .ok () => ((db, deductions), some (updateResult commandId status durable))
    | .error _ => ((db, deductions), none)
  | updateResult commandId status payload =>
    ((updateCommandResult db commandId status payload draw.now, deductions),
      some (selectDeduction commandId status payload))
  | selectDeduction commandId status payload =>
    match deductions.find? (·.commandId == commandId) with
    | none => ((db, deductions), none)
    | some row =>
      if !row.state.isActive then ((db, deductions), none)
      else
        match deductionOutcome decode row status payload draw.now with
        | .ok outcome => ((db, deductions), some (settle row outcome))
        | .error _ => ((db, deductions), none)
  | settle row outcome =>
    match settleDeduction deductions row.deductionId outcome draw.now with
    | some deductions => ((db, deductions), some (numberNote (outcome.note row)))
    | none => ((db, deductions), none)
  | numberNote note =>
    ((db, deductions),
      some (appendNote note (nextSeq db.events (scopeKey (.session note.sessionThreadId)))))
  | appendNote note seq =>
    match acceptNodeEvent db (coreSessionEvent note draw.now draw.eventId seq) draw.messageId with
    | .ok db => ((db, deductions), none)
    | .error _ => ((db, deductions), none)

end DeductionCall

inductive DeductionAction where
  /-- A user asks for a deduction, or for the end of one. -/
  | create (request : DeductionRequest)
  | cancelDeduction (deductionId : DeductionId) (context : CommandContext)
  /-- A frame of a Node arrives. -/
  | ack (nodeId : NodeId) (commandId : CommandId) (status : CommandState)
  | result (nodeId : NodeId) (commandId : CommandId) (status : CommandState) (payload : JsonValue)
  /-- The call at a position runs its next step. -/
  | run (position : Nat) (draw : Draw)
  /-- The call at a position fails before its next step, or Core stops. -/
  | stop (position : Nat)
  /-- Core does something else, which announces no end. -/
  | other (db : Database)

namespace Deductions

/-- The ends the log announces. -/
def logged (s : Deductions) : List Ending := terminalEvents s.db.events

/-- The ends the calls in flight still have to announce. -/
def owed (s : Deductions) : List Ending := s.calls.filterMap DeductionCall.owed

/-- The ends the rows record. -/
def ended (s : Deductions) : List Ending := endedDeductions s.deductions

variable (codec : ResultCodec) (decode : JsonValue → Option DeductionProviderOutput)

def step (s : Deductions) : DeductionAction → Option Deductions
  | .create request => some { s with calls := .checkRequest request :: s.calls }
  | .cancelDeduction deductionId context =>
    some { s with calls := .loadDeduction deductionId context :: s.calls }
  | .ack nodeId commandId status =>
    some { s with calls := .validateAck nodeId commandId status :: s.calls }
  | .result nodeId commandId status payload =>
    some { s with calls := .validateResult nodeId commandId status payload :: s.calls }
  | .run position draw =>
    match s.calls[position]? with
    | none => none
    | some call =>
      -- an id that is drawn is new
      if (findEvent? s.db.events draw.eventId).isSome then none
      else
        let ((db, deductions), rest) := call.step codec decode s.db s.deductions draw
        some ⟨db, deductions, rest.toList ++ s.calls.eraseIdx position⟩
  | .stop position => some { s with calls := s.calls.eraseIdx position }
  | .other db => if terminalEvents db.events = s.logged then some { s with db } else none

/-! ## 3. What is claimed of a state, and when it holds -/

/-- **A session's row and log agree on its deductions.** -/
structure Agrees (s : Deductions) : Prop where
  /-- A session has at most one active deduction. -/
  oneActive : ∀ a ∈ s.deductions.rows, ∀ b ∈ s.deductions.rows,
    a.sessionThreadId = b.sessionThreadId → a.state.isActive = true → b.state.isActive = true →
      a = b
  /-- The log announces at most one end of a deduction. -/
  oneEvent : (s.logged.map (·.deductionId)).Nodup
  /-- What the log announces is what a row of the session records. -/
  kind : ∀ e ∈ s.logged, ∃ row ∈ s.deductions.rows, row.ending = some e
  /-- An end that is recorded is announced, or a call in flight has yet to announce it. -/
  announced : ∀ row ∈ s.deductions.rows, ∀ e, row.ending = some e → e ∈ s.logged ∨ e ∈ s.owed

/-- A deduction that is ended stays as it is. -/
def KeepsEnded (s t : Deductions) : Prop :=
  ∀ row ∈ s.deductions.rows, row.state.isActive = false → row ∈ t.deductions.rows

/-- The deduction the row was read of is still active. -/
def StillActive (s : Deductions) (row : DeductionRow) : Prop :=
  ∃ r ∈ s.deductions.rows, r.deductionId = row.deductionId ∧ r.state.isActive = true

/-- No call of the list that owes an event has read the number. -/
def NotReserved (calls : List DeductionCall) (number : String × Int) : Prop :=
  ∀ c ∈ calls, c.reserved ≠ some number

/-- Every number a call that owes an event has read is free. -/
def ReservedFree (events : Table EventRow) (calls : List DeductionCall) : Prop :=
  ∀ c ∈ calls, ∀ key seq, c.reserved = some (key, seq) → NumberFree events key seq

/-- **The step ends what is active, and loses no event**: a call that ends a deduction finds it
    active still, a call that owes an event does not stop, and no event takes the number such a
    call has read. -/
def EndsActive (s : Deductions) : DeductionAction → Prop
  | .run position _ =>
    ∀ call, s.calls[position]? = some call →
      (∀ row, call.ends = some row → s.StillActive row) ∧
      ∀ number, call.stores = some number → NotReserved (s.calls.eraseIdx position) number
  | .stop position => ∀ call, s.calls[position]? = some call → call.owed = none
  | .other db => ReservedFree db.events s.calls
  | _ => True

end Deductions

/-! ## 4. What is read of the log and of the rows -/

/-- An update that keeps sessions and events announces nothing. -/
theorem terminalEvents_update {events : Table EventRow} {p : EventRow → Bool}
    {f : EventRow → EventRow} {hf : KeepsKeys f}
    (hkeeps : ∀ r, (f r).sessionThreadId = r.sessionThreadId ∧ (f r).event = r.event) :
    terminalEvents (events.update p f hf) = terminalEvents events := by
  unfold terminalEvents
  rw [rows_update, List.filterMap_map]
  refine List.filterMap_congr fun r _ => ?_
  show EventRow.ending (if p r then f r else r) = EventRow.ending r
  split
  · unfold EventRow.ending
    rw [(hkeeps r).1, (hkeeps r).2]
  · rfl

/-- **A new event adds what it announces.** -/
theorem terminalEvents_acceptNodeEvent {db db' : Database} {event : EventEnvelope}
    {messageId : MessageId} (h : acceptNodeEvent db event messageId = .ok db')
    (hnew : findEvent? db.events event.eventId = none) :
    terminalEvents db'.events =
      terminalEvents db.events ++ (endingIn event.sessionThreadId event.payload).toList := by
  obtain ⟨-, ⟨row, hrow, -⟩ | ⟨row, hrow, -⟩ | ⟨-, -, events, hevents, hp⟩⟩ := acceptNodeEvent_ok h
  · rw [hnew] at hrow
    cases hrow
  · rw [hnew] at hrow
    cases hrow
  · have hupdate := (@terminalEvents_update events (fun r => r.eventId == event.eventId &&
        r.projectionState != .projected) (.complete event.happenedAt) ⟨fun _ _ => Iff.rfl⟩) fun _
        => ⟨rfl, rfl⟩
    refine (congrArg terminalEvents hp.events).trans (hupdate.trans ?_)
    unfold terminalEvents
    rw [(insert?_eq_some.mp hevents).2, List.filterMap_append]
    have hending : (EventRow.recorded (prepareEvent db event)).ending =
        endingIn event.sessionThreadId event.payload := rfl
    cases he : endingIn event.sessionThreadId event.payload <;> simp [hending, he]

theorem events_updateCommandState (db : Database) (commandId : CommandId) (status : CommandState)
    (now : DateTime) : (updateCommandState db commandId status now).events = db.events := by
  unfold updateCommandState Database.dropTerminal
  split <;> rfl

theorem events_updateCommandResult (db : Database) (commandId : CommandId) (status : CommandState)
    (payload : JsonValue) (now : DateTime) :
    (updateCommandResult db commandId status payload now).events = db.events := by
  unfold updateCommandResult Database.dropTerminal
  split <;> rfl

theorem events_recordCommand {db db' : Database} {command : CommandEnvelope}
    (h : recordCommand db command = .ok db') : db'.events = db.events := by
  unfold recordCommand at h
  split at h
  · cases h
  · obtain ⟨actors, hactors⟩ := upsertActor_eq db command.actorRef command.issuedAt
    rw [hactors] at h
    dsimp only at h
    split at h
    · cases h
    · cases h
      rfl

/-- Rows of one deduction are one row. -/
theorem eq_of_deductionId {deductions : Table DeductionRow} {a b : DeductionRow}
    (ha : a ∈ deductions.rows) (hb : b ∈ deductions.rows) (h : a.deductionId = b.deductionId) :
    a = b :=
  eq_of_clash ha hb (Or.inl h)

/-- An update of active rows leaves the ended ones. -/
theorem mem_update?_of_ended {t t' : Table DeductionRow} {p : DeductionRow → Bool}
    {f : DeductionRow → DeductionRow} (h : t.update? p f = some t')
    (hp : ∀ r, p r = true → r.state.isActive = true) {row : DeductionRow} (hrow : row ∈ t.rows)
    (hended : row.state.isActive = false) : row ∈ t'.rows := by
  rw [update?_eq_some h]
  refine List.mem_map.mpr ⟨row, hrow, if_neg fun hsel => ?_⟩
  rw [hp row hsel] at hended
  cases hended

/-- The guarded update of an active deduction records its end, once. -/
theorem endedDeductions_update {t t' : Table DeductionRow} {deductionId : DeductionId}
    {f : DeductionRow → DeductionRow} {r₀ : DeductionRow} {e : Ending}
    (h : t.update? (DeductionRow.isActiveOf deductionId) f = some t') (hr₀ : r₀ ∈ t.rows)
    (hid : r₀.deductionId = deductionId) (hactive : r₀.state.isActive = true)
    (he : (f r₀).ending = some e) : (endedDeductions t').Perm (e :: endedDeductions t) := by
  have hone : ∀ r ∈ t.rows, DeductionRow.isActiveOf deductionId r = true ↔ r = r₀ := by
    intro r hr
    constructor
    · intro hsel
      obtain ⟨hrid, -⟩ := Bool.and_eq_true_iff.mp hsel
      exact eq_of_deductionId hr hr₀ ((beq_iff_eq.mp hrid).trans hid.symm)
    · rintro rfl
      exact Bool.and_eq_true_iff.mpr ⟨beq_iff_eq.mpr hid, hactive⟩
  obtain ⟨l₁, l₂, hrows, hmap⟩ := map_update_one (f := f) (t.nodup fun a => Or.inl rfl) hr₀ hone
  have hnone : r₀.ending = none := if_pos hactive
  unfold endedDeductions
  rw [update?_eq_some h, hmap, hrows, List.filterMap_append, List.filterMap_append,
    List.filterMap_cons_some he, List.filterMap_cons_none hnone]
  exact List.perm_middle

/-- An update that keeps which rows are active, of active rows, records no end. -/
theorem endedDeductions_run {t t' : Table DeductionRow} {commandId : CommandId} {now : DateTime}
    (h : markDeductionRunning t commandId now = some t') :
    endedDeductions t' = endedDeductions t := by
  unfold endedDeductions
  rw [update?_eq_some h, List.filterMap_map]
  refine List.filterMap_congr fun r _ => ?_
  show DeductionRow.ending (if _ then _ else r) = r.ending
  split
  · rename_i hsel
    have hstate := beq_iff_eq.mp (Bool.and_eq_true_iff.mp hsel).2
    simp [DeductionRow.ending, DeductionRow.setState, DeductionState.isActive, hstate]
  · rfl

theorem endedDeductions_insert {t t' : Table DeductionRow} {request : DeductionRequest}
    (h : t.insert? (.requested request) = some t') : endedDeductions t' = endedDeductions t := by
  unfold endedDeductions
  rw [(insert?_eq_some.mp h).2, List.filterMap_append]
  exact List.append_nil _

/-! ## 5. What a step of a call does -/

/-- The ways a step of a call goes. -/
inductive DeductionCall.StepCase (db : Database) (deductions : Table DeductionRow) (draw : Draw) :
    DeductionCall → Database → Table DeductionRow → Option DeductionCall → Prop
  /-- It reads, or writes about commands; or it fails and owes nothing. -/
  | silent {call : DeductionCall} {db' : Database} {rest : Option DeductionCall}
      (events : db'.events = db.events) (owed : call.owed = none)
      (left : ∀ c ∈ rest, c.owed = none ∧ c.reserved = none ∧
        ∀ row, c.ends = some row → row ∈ deductions.rows) :
      StepCase db deductions draw call db' deductions rest
  /-- It records a deduction. -/
  | insert {request : DeductionRequest} {db' : Database} {deductions' : Table DeductionRow}
      (events : db'.events = db.events)
      (inserted : deductions.insert? (.requested request) = some deductions') :
      StepCase db deductions draw (.insert request) db' deductions'
        (some (.numberNote request.note))
  | markRunning {commandId : CommandId} {deductions' : Table DeductionRow}
      (marked : markDeductionRunning deductions commandId draw.now = some deductions') :
      StepCase db deductions draw (.markRunning commandId) db deductions' none
  /-- It writes the end of the deduction it has read, if that is active. -/
  | ended {call : DeductionCall} {row : DeductionRow} {db' : Database}
      {deductions' : Table DeductionRow} {note : SessionNote} {f : DeductionRow → DeductionRow}
      {state : DeductionState} (ends : call.ends = some row) (events : db'.events = db.events)
      (updated : deductions.update? (DeductionRow.isActiveOf row.deductionId) f = some deductions')
      (write : ∀ r, (f r).deductionId = r.deductionId ∧
        (f r).sessionThreadId = r.sessionThreadId ∧ (f r).state = state)
      (inactive : state.isActive = false)
      (announces : note.ending = some ⟨some row.sessionThreadId, row.deductionId, state⟩) :
      StepCase db deductions draw call db' deductions' (some (.numberNote note))
  | number (note : SessionNote) :
      StepCase db deductions draw (.numberNote note) db deductions
        (some (.appendNote note (nextSeq db.events (scopeKey (.session note.sessionThreadId)))))
  | appended {note : SessionNote} {seq : Int} {db' : Database}
      (accepted : acceptNodeEvent db (coreSessionEvent note draw.now draw.eventId seq)
        draw.messageId = .ok db') :
      StepCase db deductions draw (.appendNote note seq) db' deductions none
  | refused {note : SessionNote} {seq : Int}
      (refused : ∀ db', acceptNodeEvent db (coreSessionEvent note draw.now draw.eventId seq)
        draw.messageId ≠ .ok db') :
      StepCase db deductions draw (.appendNote note seq) db deductions none

theorem DeductionOutcome.write_row (outcome : DeductionOutcome) (now : DateTime)
    (r : DeductionRow) : (outcome.write now r).deductionId = r.deductionId ∧
      (outcome.write now r).sessionThreadId = r.sessionThreadId ∧
      (outcome.write now r).state = outcome.state := by
  cases outcome <;> exact ⟨rfl, rfl, rfl⟩

theorem insertDeduction_ok {db db' : Database} {deductions deductions' : Table DeductionRow}
    {request : DeductionRequest}
    (h : insertDeduction db deductions request = .ok (db', deductions')) :
    db'.events = db.events ∧ deductions.insert? (.requested request) = some deductions' := by
  unfold insertDeduction at h
  obtain ⟨db₁, hrecord, h⟩ := bind_eq_ok.mp h
  split at h
  · cases h
  · obtain ⟨deductions₁, hinsert, h⟩ := bind_eq_ok.mp h
    cases h
    exact ⟨events_recordCommand hrecord, dbResult_eq_ok.mp hinsert⟩

theorem recordCancellation_ok {db db' : Database} {deductions deductions' : Table DeductionRow}
    {row : DeductionRow} {context : CommandContext}
    (h : recordCancellation db deductions row context = .ok (db', deductions')) :
    db'.events = db.events ∧ deductions.update? (DeductionRow.isActiveOf row.deductionId)
      (.setState .cancelled context.issuedAt) = some deductions' := by
  unfold recordCancellation at h
  obtain ⟨db₁, hrecord, h⟩ := bind_eq_ok.mp h
  obtain ⟨deductions₁, hupdate, h⟩ := bind_eq_ok.mp h
  cases h
  have hevents := events_recordCommand hrecord
  exact ⟨hevents, dbResult_eq_ok.mp hupdate⟩

section Calls

variable (codec : ResultCodec) (decode : JsonValue → Option DeductionProviderOutput)

/-- **What a step of a call does.** -/
theorem DeductionCall.step_cases {call : DeductionCall} {db db' : Database}
    {deductions deductions' : Table DeductionRow} {draw : Draw} {rest : Option DeductionCall}
    (h : call.step codec decode db deductions draw = ((db', deductions'), rest)) :
    StepCase db deductions draw call db' deductions' rest := by
  cases call with
  | checkRequest request =>
    rw [step] at h
    split at h
    · cases h
      exact .silent rfl rfl fun c hc => by cases hc; exact ⟨rfl, rfl, fun row h => by cases h⟩
    · cases h
      exact .silent rfl rfl fun c hc => by cases hc
  | insert request =>
    rw [step] at h
    split at h
    · rename_i written hinsert
      cases h
      obtain ⟨hevents, hrows⟩ := insertDeduction_ok hinsert
      exact .insert hevents hrows
    · cases h
      exact .silent rfl rfl fun c hc => by cases hc
  | loadDeduction deductionId context =>
    rw [step] at h
    split at h
    · rename_i row hload
      cases h
      refine .silent rfl rfl fun c hc => ?_
      cases hc
      refine ⟨rfl, rfl, fun row' hrow' => ?_⟩
      cases hrow'
      unfold loadActiveDeduction at hload
      split at hload
      · cases hload
      · rename_i found hfound
        split at hload
        · cases hload
          exact mem_of_find? hfound
        · cases hload
    · cases h
      exact .silent rfl rfl fun c hc => by cases hc
  | cancel row context =>
    rw [step] at h
    split at h
    · rename_i written hcancel
      cases h
      obtain ⟨hevents, hupdate⟩ := recordCancellation_ok hcancel
      exact .ended rfl hevents hupdate (fun _ => ⟨rfl, rfl, rfl⟩) rfl rfl
    · cases h
      exact .silent rfl rfl fun c hc => by cases hc
  | validateAck nodeId commandId status =>
    rw [step] at h
    split at h
    · cases h
      exact .silent rfl rfl fun c hc => by cases hc; exact ⟨rfl, rfl, fun row h => by cases h⟩
    · cases h
      exact .silent rfl rfl fun c hc => by cases hc
  | updateAck commandId status =>
    cases h
    refine .silent (events_updateCommandState ..) rfl fun c hc => ?_
    cases hc
    exact ⟨rfl, rfl, fun row h => by cases h⟩
  | markRunning commandId =>
    rw [step] at h
    cases hmark : markDeductionRunning deductions commandId draw.now with
    | none =>
      rw [hmark] at h
      cases h
      exact .silent rfl rfl fun c hc => by cases hc
    | some marked =>
      rw [hmark] at h
      cases h
      exact .markRunning hmark
  | validateResult nodeId commandId status payload =>
    rw [step] at h
    split at h
    · cases h
      exact .silent rfl rfl fun c hc => by cases hc; exact ⟨rfl, rfl, fun row h => by cases h⟩
    · cases h
      exact .silent rfl rfl fun c hc => by cases hc
  | updateResult commandId status payload =>
    cases h
    refine .silent (events_updateCommandResult ..) rfl fun c hc => ?_
    cases hc
    exact ⟨rfl, rfl, fun row h => by cases h⟩
  | selectDeduction commandId status payload =>
    rw [step] at h
    split at h
    · cases h
      exact .silent rfl rfl fun c hc => by cases hc
    · rename_i row hrow
      split at h
      · cases h
        exact .silent rfl rfl fun c hc => by cases hc
      · split at h
        · cases h
          refine .silent rfl rfl fun c hc => ?_
          cases hc
          refine ⟨rfl, rfl, fun row' hrow' => ?_⟩
          cases hrow'
          exact mem_of_find? hrow
        · cases h
          exact .silent rfl rfl fun c hc => by cases hc
  | settle row outcome =>
    rw [step] at h
    split at h
    · rename_i settled hsettle
      cases h
      refine .ended rfl rfl hsettle (outcome.write_row draw.now) ?_ ?_
      · cases outcome <;> rfl
      · cases outcome <;> rfl
    · cases h
      exact .silent rfl rfl fun c hc => by cases hc
  | numberNote note =>
    cases h
    exact .number note
  | appendNote note seq =>
    rw [step] at h
    split at h
    · rename_i accepted haccept
      cases h
      exact .appended haccept
    · rename_i hrefuse
      cases h
      refine .refused fun db'' haccept => ?_
      rw [haccept] at hrefuse
      cases hrefuse

namespace Deductions

/-- **What a run step does**: one step of one call, whose rest stands before the others. -/
theorem step_run {s t : Deductions} {position : Nat} {draw : Draw}
    (h : s.step codec decode (.run position draw) = some t) :
    ∃ call db deductions rest, s.calls[position]? = some call ∧
      findEvent? s.db.events draw.eventId = none ∧
      call.StepCase s.db s.deductions draw db deductions rest ∧
      t = ⟨db, deductions, rest.toList ++ s.calls.eraseIdx position⟩ := by
  rw [step] at h
  split at h
  · cases h
  · rename_i call hcall
    split at h
    · cases h
    · rename_i hnew
      cases hstep : call.step codec decode s.db s.deductions draw with
      | mk written rest =>
        rw [hstep] at h
        cases h
        refine ⟨call, _, _, rest, hcall, Option.not_isSome_iff_eq_none.mp hnew, ?_, rfl⟩
        exact DeductionCall.step_cases codec decode hstep

/-- What any other step does: it starts a call, drops one, or changes the rest of Core. -/
theorem step_other {s t : Deductions} {a : DeductionAction}
    (h : s.step codec decode a = some t) (ha : ∀ position draw, a ≠ .run position draw) :
    t.deductions = s.deductions ∧ t.logged = s.logged ∧
      ((t.db = s.db ∧ ∃ call, call.owed = none ∧ call.reserved = none ∧ call.ends = none ∧
          t.calls = call :: s.calls) ∨
        (∃ position, a = .stop position ∧ t.db = s.db ∧ t.calls = s.calls.eraseIdx position) ∨
        ∃ db, a = .other db ∧ t.db = db ∧ t.calls = s.calls) := by
  cases a with
  | create request =>
    cases h
    exact ⟨rfl, rfl, Or.inl ⟨rfl, .checkRequest request, rfl, rfl, rfl, rfl⟩⟩
  | cancelDeduction deductionId context =>
    cases h
    exact ⟨rfl, rfl, Or.inl ⟨rfl, .loadDeduction deductionId context, rfl, rfl, rfl, rfl⟩⟩
  | ack nodeId commandId status =>
    cases h
    exact ⟨rfl, rfl, Or.inl ⟨rfl, .validateAck nodeId commandId status, rfl, rfl, rfl, rfl⟩⟩
  | result nodeId commandId status payload =>
    cases h
    exact ⟨rfl, rfl,
      Or.inl ⟨rfl, .validateResult nodeId commandId status payload, rfl, rfl, rfl, rfl⟩⟩
  | run position draw => exact absurd rfl (ha position draw)
  | stop position =>
    cases h
    exact ⟨rfl, rfl, Or.inr (Or.inl ⟨position, rfl, rfl, rfl⟩)⟩
  | other db =>
    rw [step] at h
    split at h
    · rename_i hlog
      cases h
      exact ⟨rfl, hlog, Or.inr (Or.inr ⟨db, rfl, rfl, rfl⟩)⟩
    · cases h

/-! ## 6. A deduction that is ended stays as it is -/

theorem keepsEnded_refl (s : Deductions) : s.KeepsEnded s := fun _ hrow _ => hrow

theorem keepsEnded_trans (s t u : Deductions) (h : s.KeepsEnded t) (h' : t.KeepsEnded u) :
    s.KeepsEnded u :=
  fun row hrow hended => h' row (h row hrow hended) hended

/-- **No step changes a deduction that is ended**: every update names active rows. -/
theorem keepsEnded_step {s t : Deductions} {a : DeductionAction}
    (h : s.step codec decode a = some t) : s.KeepsEnded t := by
  intro row hrow hended
  by_cases ha : ∃ position draw, a = .run position draw
  · obtain ⟨position, draw, rfl⟩ := ha
    obtain ⟨call, db, deductions, rest, -, -, hcase, rfl⟩ := step_run codec decode h
    cases hcase with
    | silent | number | appended | refused => exact hrow
    | insert _ hinsert =>
      show row ∈ deductions.rows
      rw [(insert?_eq_some.mp hinsert).2]
      exact List.mem_append_left _ hrow
    | markRunning hmark =>
      refine mem_update?_of_ended hmark (fun r hsel => ?_) hrow hended
      rw [beq_iff_eq.mp (Bool.and_eq_true_iff.mp hsel).2]
      rfl
    | ended _ _ hupdate =>
      exact mem_update?_of_ended hupdate (fun r hsel => (Bool.and_eq_true_iff.mp hsel).2) hrow
        hended
  · obtain ⟨hrows, -⟩ := step_other codec decode h fun position draw he => ha ⟨position, draw, he⟩
    rw [hrows]
    exact hrow

/-! ## 7. The invariant -/

/-- The row of the table that is the deduction a call has read. -/
def Known (s : Deductions) (row : DeductionRow) : Prop :=
  ∃ r ∈ s.deductions.rows, r.deductionId = row.deductionId ∧
    r.sessionThreadId = row.sessionThreadId

/-- What the log announces and what the calls in flight owe is, up to order, what the rows record.
-/
structure Sound (s : Deductions) : Prop where
  balance : (s.logged ++ s.owed).Perm s.ended
  reserved : ReservedFree s.db.events s.calls
  known : ∀ c ∈ s.calls, ∀ row, c.ends = some row → s.Known row

/-- The ends owed by a list of calls, with one call taken out. -/
theorem owed_perm {calls : List DeductionCall} {position : Nat} {call : DeductionCall}
    (hcall : calls[position]? = some call) :
    (calls.filterMap DeductionCall.owed).Perm
      (call.owed.toList ++ (calls.eraseIdx position).filterMap DeductionCall.owed) := by
  obtain ⟨hlt, rfl⟩ := List.getElem?_eq_some_iff.mp hcall
  have hperm := (List.getElem_cons_eraseIdx_perm hlt).symm.filterMap DeductionCall.owed
  refine hperm.trans ?_
  rw [List.filterMap_cons]
  cases calls[position].owed with
  | none => exact List.Perm.refl _
  | some e => exact List.Perm.refl _

theorem reservedFree_eraseIdx {events : Table EventRow} {calls : List DeductionCall}
    (h : ReservedFree events calls) (position : Nat) :
    ReservedFree events (calls.eraseIdx position) :=
  fun c hc => h c (List.mem_of_mem_eraseIdx hc)

/-- A step that keeps the deductions apart from ids and sessions keeps what the calls know. -/
theorem known_of_rows {s t : Deductions} (hrows : ∀ r ∈ s.deductions.rows,
      ∃ r' ∈ t.deductions.rows, r'.deductionId = r.deductionId ∧
        r'.sessionThreadId = r.sessionThreadId) {row : DeductionRow} (h : s.Known row) :
    t.Known row := by
  obtain ⟨r, hr, hid, hsession⟩ := h
  obtain ⟨r', hr', hid', hsession'⟩ := hrows r hr
  exact ⟨r', hr', hid'.trans hid, hsession'.trans hsession⟩

/-- Every deduction is still there after a step, with its id and its session. -/
theorem rows_step {s t : Deductions} {a : DeductionAction} (h : s.step codec decode a = some t) :
    ∀ r ∈ s.deductions.rows, ∃ r' ∈ t.deductions.rows, r'.deductionId = r.deductionId ∧
      r'.sessionThreadId = r.sessionThreadId := by
  intro r hr
  have hupdated : ∀ {p : DeductionRow → Bool} {f : DeductionRow → DeductionRow}
      {deductions : Table DeductionRow}, s.deductions.update? p f = some deductions →
      (∀ r, (f r).deductionId = r.deductionId ∧ (f r).sessionThreadId = r.sessionThreadId) →
      ∃ r' ∈ deductions.rows, r'.deductionId = r.deductionId ∧
        r'.sessionThreadId = r.sessionThreadId := by
    intro p f deductions hupdate hf
    rw [update?_eq_some hupdate]
    refine ⟨_, List.mem_map_of_mem hr, ?_⟩
    split
    · exact hf r
    · exact ⟨rfl, rfl⟩
  by_cases ha : ∃ position draw, a = .run position draw
  · obtain ⟨position, draw, rfl⟩ := ha
    obtain ⟨call, db, deductions, rest, -, -, hcase, rfl⟩ := step_run codec decode h
    cases hcase with
    | silent | number | appended | refused => exact ⟨r, hr, rfl, rfl⟩
    | insert _ hinsert =>
      refine ⟨r, ?_, rfl, rfl⟩
      show r ∈ deductions.rows
      rw [(insert?_eq_some.mp hinsert).2]
      exact List.mem_append_left _ hr
    | markRunning hmark => exact hupdated hmark fun _ => ⟨rfl, rfl⟩
    | ended _ _ hupdate hwrite =>
      exact hupdated hupdate fun r => ⟨(hwrite r).1, (hwrite r).2.1⟩
  · obtain ⟨hrows, -⟩ := step_other codec decode h fun position draw he => ha ⟨position, draw, he⟩
    exact ⟨r, hrows ▸ hr, rfl, rfl⟩

theorem numberFree_of_addsOnly {events events' : Table EventRow} {event : EventEnvelope}
    {key : String} {seq : Int} (hfree : NumberFree events key seq)
    (hadds : AddsOnly events events' event)
    (hne : (scopeKey event.scopeRef, event.seq) ≠ (key, seq)) : NumberFree events' key seq := by
  rintro r' hr' ⟨hkey, hseq⟩
  rcases hadds r' hr' with ⟨r, hr, hkey', hseq', -⟩ | hrecord
  · exact hfree r hr ⟨hkey'.trans hkey, hseq'.trans hseq⟩
  · exact hne (Prod.ext (hrecord.scopeKey.symm.trans hkey) (hrecord.seq.symm.trans hseq))

/-- An event a call owes is accepted while the number the call has read is free. -/
theorem accepts_owed {db : Database} {note : SessionNote} {seq : Int} {draw : Draw}
    (hnew : findEvent? db.events draw.eventId = none)
    (hfree : NumberFree db.events (scopeKey (.session note.sessionThreadId)) seq) :
    ∃ db', acceptNodeEvent db (coreSessionEvent note draw.now draw.eventId seq) draw.messageId =
      .ok db' :=
  accepts_coreEvent (Or.inr note.kind) (beq_self_eq_true note.payload.kind) hnew hfree

theorem owed_of_ends {call : DeductionCall} {row : DeductionRow} (h : call.ends = some row) :
    call.owed = none := by
  cases call <;> first | rfl | cases h

/-- The numbers a step leaves reserved are free, when they were before. -/
theorem reservedFree_run {s : Deductions} {call : DeductionCall} {position : Nat} {draw : Draw}
    {db : Database} {deductions : Table DeductionRow} {rest : Option DeductionCall}
    (h : ReservedFree s.db.events s.calls) (hcall : s.calls[position]? = some call)
    (hstores : ∀ number, call.stores = some number →
      NotReserved (s.calls.eraseIdx position) number)
    (hcase : call.StepCase s.db s.deductions draw db deductions rest) :
    ReservedFree db.events (rest.toList ++ s.calls.eraseIdx position) := by
  have hothers := reservedFree_eraseIdx h position
  have hsame : ∀ {db' : Database}, db'.events = s.db.events → (∀ c ∈ rest, c.reserved = none) →
      ReservedFree db'.events (rest.toList ++ s.calls.eraseIdx position) := by
    intro db' hevents hrest c hc key seq hc'
    rw [hevents]
    rcases List.mem_append.mp hc with hc | hc
    · rw [hrest c (Option.mem_toList.mp hc)] at hc'
      cases hc'
    · exact hothers c hc key seq hc'
  cases hcase with
  | silent hevents _ hleft => exact hsame hevents fun c hc => (hleft c hc).2.1
  | insert hevents _ => exact hsame hevents fun c hc => by cases hc; rfl
  | markRunning _ => exact hsame rfl fun c hc => by cases hc
  | ended _ hevents _ _ _ _ => exact hsame hevents fun c hc => by cases hc; rfl
  | refused _ => exact hsame rfl fun c hc => by cases hc
  | number note =>
    intro c hc key seq hc'
    rcases List.mem_cons.mp hc with rfl | hc
    · obtain ⟨e, -, he⟩ := Option.map_eq_some_iff.mp hc'
      cases he
      exact numberFree_nextSeq s.db.events _
    · exact hothers c hc key seq hc'
  | @appended note seq db' haccept =>
    intro c hc key seq' hc'
    have hadds := addsOnly_acceptNodeEvent haccept
    refine numberFree_of_addsOnly (hothers c hc key seq' hc') hadds fun he => ?_
    exact hstores _ rfl c hc (he ▸ hc')

/-- **What is announced and owed stays in balance with what is recorded**, when a call that ends a
    deduction finds it active. -/
theorem balance_run {s : Deductions} {call : DeductionCall} {position : Nat} {draw : Draw}
    {db : Database} {deductions : Table DeductionRow} {rest : Option DeductionCall}
    (h : s.Sound) (hcall : s.calls[position]? = some call)
    (hnew : findEvent? s.db.events draw.eventId = none)
    (hactive : ∀ row, call.ends = some row → s.StillActive row)
    (hcase : call.StepCase s.db s.deductions draw db deductions rest) :
    (terminalEvents db.events ++
      (rest.toList ++ s.calls.eraseIdx position).filterMap DeductionCall.owed).Perm
        (endedDeductions deductions) := by
  have hbalance := ((owed_perm hcall).append_left s.logged).symm.trans h.balance
  have hquiet : ∀ {db' : Database}, db'.events = s.db.events → call.owed = none →
      (terminalEvents db'.events ++ (s.calls.eraseIdx position).filterMap DeductionCall.owed).Perm
        (endedDeductions s.deductions) := by
    intro db' hevents howed
    rw [hevents]
    rw [howed] at hbalance
    exact hbalance
  cases hcase with
  | silent hevents howed hleft =>
    have hrest : rest.toList.filterMap DeductionCall.owed = [] := by
      refine List.filterMap_eq_nil_iff.mpr fun c hc => ?_
      exact (hleft c (Option.mem_toList.mp hc)).1
    rw [List.filterMap_append, hrest, List.nil_append]
    exact hquiet hevents howed
  | insert hevents hinsert =>
    rw [endedDeductions_insert hinsert]
    exact hquiet hevents rfl
  | markRunning hmark =>
    rw [endedDeductions_run hmark]
    exact hquiet rfl rfl
  | @ended _ row _ _ note f state hends hevents hupdate hwrite hinactive hnote =>
    obtain ⟨r, hr, hid, hractive⟩ := hactive row hends
    -- the deduction the call has read is the active one, so the session is its session
    obtain ⟨r', hr', hid', hsession⟩ := h.known call (List.mem_of_getElem? hcall) row hends
    obtain rfl : r' = r := eq_of_deductionId hr' hr (hid'.trans hid.symm)
    have hending : (f r').ending = some ⟨some row.sessionThreadId, row.deductionId, state⟩ := by
      obtain ⟨hfid, hfsession, hfstate⟩ := hwrite r'
      unfold DeductionRow.ending
      rw [hfid, hfsession, hfstate, hid, hsession, hinactive]
      rfl
    have hended := endedDeductions_update hupdate hr hid hractive hending
    have hothers := hquiet hevents (owed_of_ends hends)
    show (terminalEvents db.events ++ List.filterMap DeductionCall.owed
      (.numberNote note :: s.calls.eraseIdx position)).Perm _
    rw [List.filterMap_cons_some (show (DeductionCall.numberNote note).owed = _ from hnote)]
    exact List.perm_middle.trans ((hothers.cons _).trans hended.symm)
  | number note =>
    cases hnote : note.ending with
    | none =>
      have howed : ∀ seq, (DeductionCall.appendNote note seq).owed = none := fun _ => hnote
      show (terminalEvents s.db.events ++ List.filterMap DeductionCall.owed
        (.appendNote note _ :: s.calls.eraseIdx position)).Perm _
      rw [List.filterMap_cons_none (howed _)]
      exact hquiet rfl hnote
    | some e =>
      have howed : ∀ seq, (DeductionCall.appendNote note seq).owed = some e := fun _ => hnote
      show (terminalEvents s.db.events ++ List.filterMap DeductionCall.owed
        (.appendNote note _ :: s.calls.eraseIdx position)).Perm _
      rw [List.filterMap_cons_some (howed _)]
      rw [show (DeductionCall.numberNote note).owed = some e from hnote] at hbalance
      exact hbalance
  | @appended note seq _ haccept =>
    have hlog := terminalEvents_acceptNodeEvent haccept hnew
    rw [hlog, List.append_assoc]
    exact hbalance
  | @refused note seq hrefused =>
    cases hnote : note.ending with
    | none => exact hquiet rfl hnote
    | some e =>
      -- the event is owed, so its number is free and it is accepted
      have hreserved : (DeductionCall.appendNote note seq).reserved =
          some (scopeKey (.session note.sessionThreadId), seq) := by
        rw [DeductionCall.reserved, hnote]
        rfl
      have hfree := h.reserved _ (List.mem_of_getElem? hcall) _ _ hreserved
      obtain ⟨db', haccept⟩ := (@accepts_owed _ _ _ draw) hnew hfree
      exact absurd haccept (hrefused db')

/-- **A step that ends what is active and loses no event keeps the invariant.** -/
theorem sound_step {s t : Deductions} {a : DeductionAction} (h : s.Sound) (hC : s.EndsActive a)
    (hstep : s.step codec decode a = some t) : t.Sound := by
  have hrows := rows_step codec decode hstep
  by_cases ha : ∃ position draw, a = .run position draw
  · obtain ⟨position, draw, rfl⟩ := ha
    obtain ⟨call, db, deductions, rest, hcall, hnew, hcase, rfl⟩ := step_run codec decode hstep
    obtain ⟨hactive, hstores⟩ := hC call hcall
    refine ⟨balance_run h hcall hnew hactive hcase,
      reservedFree_run h.reserved hcall hstores hcase, fun c hc row hends => ?_⟩
    rcases List.mem_append.mp hc with hleft | hother
    · have hleft := Option.mem_toList.mp hleft
      cases hcase with
      | silent _ _ hread => exact known_of_rows hrows ⟨row, (hread c hleft).2.2 row hends, rfl, rfl⟩
      | insert | ended | number =>
        cases hleft
        cases hends
      | markRunning | appended | refused => cases hleft
    · exact known_of_rows hrows (h.known c (List.mem_of_mem_eraseIdx hother) row hends)
  · obtain ⟨hsame, hlog, hcase⟩ :=
      step_other codec decode hstep fun position draw he => ha ⟨position, draw, he⟩
    have hended : t.ended = s.ended := congrArg endedDeductions hsame
    rcases hcase with ⟨hdb, call, howed, hreserved, hends, hcalls⟩ |
      ⟨position, rfl, hdb, hcalls⟩ | ⟨db, rfl, hdb, hcalls⟩
    · refine ⟨?_, ?_, ?_⟩
      · have howed' : t.owed = s.owed := by
          unfold Deductions.owed
          rw [hcalls, List.filterMap_cons_none howed]
        rw [hlog, howed', hended]
        exact h.balance
      · rw [hdb, hcalls]
        intro c hc key seq hc'
        rcases List.mem_cons.mp hc with rfl | hc
        · rw [hreserved] at hc'
          cases hc'
        · exact h.reserved c hc key seq hc'
      · rw [hcalls]
        intro c hc row hrow
        rcases List.mem_cons.mp hc with rfl | hc
        · rw [hends] at hrow
          cases hrow
        · exact known_of_rows hrows (h.known c hc row hrow)
    · refine ⟨?_, ?_, ?_⟩
      · rw [hlog, hended]
        refine List.Perm.trans ?_ h.balance
        refine List.Perm.append_left _ ?_
        unfold Deductions.owed
        rw [hcalls]
        cases hcall : s.calls[position]? with
        | none => rw [List.eraseIdx_of_length_le (List.getElem?_eq_none_iff.mp hcall)]
        | some call =>
          have hperm := owed_perm hcall
          rw [hC call hcall] at hperm
          exact hperm.symm
      · rw [hdb, hcalls]
        exact reservedFree_eraseIdx h.reserved position
      · rw [hcalls]
        intro c hc row hrow
        exact known_of_rows hrows (h.known c (List.mem_of_mem_eraseIdx hc) row hrow)
    · refine ⟨?_, ?_, ?_⟩
      · have howed : t.owed = s.owed := congrArg (List.filterMap DeductionCall.owed) hcalls
        rw [hlog, howed, hended]
        exact h.balance
      · rw [hdb, hcalls]
        exact hC
      · rw [hcalls]
        exact fun c hc row hrow => known_of_rows hrows (h.known c hc row hrow)

/-! ## 8. Agreement -/

/-- The rows record at most one end of a deduction. -/
theorem nodup_endedDeductions (deductions : Table DeductionRow) :
    ((endedDeductions deductions).map (·.deductionId)).Nodup := by
  unfold endedDeductions
  refine List.pairwise_map.mpr (List.pairwise_filterMap.mpr (deductions.unique.imp ?_))
  intro a b hab e he e' he' hid
  have hids : ∀ {r : DeductionRow} {e : Ending}, r.ending = some e →
      e.deductionId = r.deductionId := by
    intro r e h
    unfold DeductionRow.ending at h
    split at h
    · cases h
    · cases h
      rfl
  exact hab (Or.inl ((hids he).symm.trans (hid.trans (hids he'))))

/-- **A sound state agrees.** -/
theorem Sound.agrees {s : Deductions} (h : s.Sound) : s.Agrees where
  oneActive a ha b hb hsession hactive hactive' :=
    eq_of_clash ha hb (Or.inr (Or.inr ⟨hsession, hactive, hactive'⟩))
  oneEvent := by
    have hperm := h.balance.map (·.deductionId)
    have hnodup := hperm.nodup_iff.mpr (nodup_endedDeductions s.deductions)
    rw [List.map_append] at hnodup
    exact hnodup.of_append_left
  kind e he := List.mem_filterMap.mp (h.balance.subset (List.mem_append_left _ he))
  announced row hrow e he :=
    List.mem_append.mp (h.balance.symm.subset (List.mem_filterMap.mpr ⟨row, hrow, he⟩))

/-- An end that is owed is announced when the call that owes it goes on. -/
def Announces (s : Deductions) (e : Ending) : Prop :=
  ∃ as t, (∀ a ∈ as, ∃ position draw, a = .run position draw) ∧
    run (step codec decode) s as = some t ∧ e ∈ t.logged

/-- There is always an id no event has. -/
theorem exists_newEventId (events : Table EventRow) : ∃ id, findEvent? events id = none := by
  obtain ⟨id, hid⟩ := Infinite.exists_notMem_finset (events.rows.map (·.eventId)).toFinset
  refine ⟨id, List.find?_eq_none.mpr fun r hr he => hid ?_⟩
  exact List.mem_toFinset.mpr (List.mem_map.mpr ⟨r, hr, beq_iff_eq.mp he⟩)

/-- A call that has read its number announces with one step. -/
theorem announces_appendNote {s : Deductions} (h : s.Sound) {position : Nat} {note : SessionNote}
    {seq : Int} {e : Ending} (hcall : s.calls[position]? = some (.appendNote note seq))
    (he : note.ending = some e) : s.Announces codec decode e := by
  obtain ⟨eventId, hnew⟩ := exists_newEventId s.db.events
  have hreserved : (DeductionCall.appendNote note seq).reserved =
      some (scopeKey (.session note.sessionThreadId), seq) := by
    rw [DeductionCall.reserved, he]
    rfl
  have hfree := h.reserved _ (List.mem_of_getElem? hcall) _ _ hreserved
  obtain ⟨db, haccept⟩ := (@accepts_owed _ _ _ ⟨eventId, eventId, 0⟩) hnew hfree
  refine ⟨[.run position ⟨eventId, eventId, 0⟩], ⟨db, s.deductions, s.calls.eraseIdx position⟩,
    fun a ha => ⟨_, _, List.mem_singleton.mp ha⟩, ?_, ?_⟩
  · rw [run_cons, step, hcall]
    show ((if (findEvent? s.db.events eventId).isSome then none else _) : Option Deductions).bind _ =
      _
    rw [hnew, DeductionCall.step, haccept]
    rfl
  · show e ∈ terminalEvents db.events
    rw [terminalEvents_acceptNodeEvent haccept hnew]
    refine List.mem_append_right _ (Option.mem_toList.mpr ?_)
    exact he

/-- **In a sound state, every end that is owed is announced when its call goes on.** -/
theorem Sound.announces {s : Deductions} (h : s.Sound) {e : Ending} (he : e ∈ s.owed) :
    s.Announces codec decode e := by
  obtain ⟨call, hmem, howed⟩ := List.mem_filterMap.mp he
  obtain ⟨position, hcall⟩ := List.mem_iff_getElem?.mp hmem
  cases call with
  | appendNote note seq => exact announces_appendNote codec decode h hcall howed
  | numberNote note =>
    -- the number is read first
    obtain ⟨eventId, hnew⟩ := exists_newEventId s.db.events
    have hstep : s.step codec decode (.run position ⟨eventId, eventId, 0⟩) =
        some ⟨s.db, s.deductions, .appendNote note
          (nextSeq s.db.events (scopeKey (.session note.sessionThreadId))) ::
            s.calls.eraseIdx position⟩ := by
      rw [step, hcall]
      show (if (findEvent? s.db.events eventId).isSome then none else _) = _
      rw [hnew]
      rfl
    have hC : s.EndsActive (.run position ⟨eventId, eventId, 0⟩) := by
      intro call' hcall'
      rw [hcall] at hcall'
      cases hcall'
      exact ⟨fun row hrow => (by cases hrow), fun number hnumber => (by cases hnumber)⟩
    have hsound := sound_step codec decode h hC hstep
    obtain ⟨as, t, has, hrun, hlogged⟩ :=
      @announces_appendNote codec decode _ hsound 0 _ _ _ rfl howed
    refine ⟨_ :: as, t, fun a ha => ?_, run_cons_eq_some.mpr ⟨_, hstep, hrun⟩, hlogged⟩
    rcases List.mem_cons.mp ha with rfl | ha
    · exact ⟨_, _, rfl⟩
    · exact has a ha
  | _ => cases howed

/-- **From a Core without deductions, along any run whose steps each end what is active and lose no
    event: rows and log agree in every state reached, a deduction that has ended stays as it is, and
    every end the log does not announce yet is announced by the call that recorded it.** -/
theorem deductions_agree {s t : Deductions} {as : List DeductionAction}
    (hdeductions : s.deductions = .empty) (hcalls : s.calls = []) (hlog : s.logged = [])
    (hmeets : Meets (step codec decode) EndsActive s as)
    (hrun : run (step codec decode) s as = some t) :
    t.Agrees ∧ Always (step codec decode) KeepsEnded s as ∧
      ∀ e ∈ t.owed, t.Announces codec decode e := by
  have hstart : s.Sound := by
    refine ⟨?_, ?_, ?_⟩
    · simp [hlog, Deductions.owed, hcalls, Deductions.ended, hdeductions, endedDeductions]
    · simp [ReservedFree, hcalls]
    · simp [hcalls]
  have hsound : t.Sound := run_inv_of_meets Sound
    (fun s a t h hC hstep => sound_step codec decode h hC hstep) hstart hmeets hrun
  refine ⟨hsound.agrees, ?_, fun e he => hsound.announces codec decode he⟩
  refine (always_iff_eachStep keepsEnded_refl keepsEnded_trans).mpr ?_
  exact meets_of_split fun bs a cs u _ _ v hv => keepsEnded_step codec decode hv

end Deductions

end Calls

/-! ## 9. A cancellation between a result's read and its write -/

/-- No output of a provider is decoded. -/
def noOutput : JsonValue → Option DeductionProviderOutput := fun _ => none

def whyRequest : DeductionRequest where
  package :=
    { deductionId := "d1", sessionThreadId := "s1", evidenceSnapshotHash := "h1"
      scopeRef := .null, question := "why", allowedRefs := [] }
  context := ⟨"c9", "n1", "p1", "r1", 0, "k1"⟩

def drawOf (n : String) : Draw := ⟨"e" ++ n, "m" ++ n, 1⟩

/-- A session asks for a deduction, and the request is announced. -/
def requestedRun : List DeductionAction :=
  [.create whyRequest, .run 0 (drawOf "1"), .run 0 (drawOf "1"), .run 0 (drawOf "1"),
    .run 0 (drawOf "1")]

def requestedOnce : Deductions :=
  (run (Deductions.step noCodec noOutput) { db := twoNodes } requestedRun).getD { db := twoNodes }

/-- The command is dispatched, and the Node answers that the provider failed; Core reads the active
    row. -/
def failureRead : List DeductionAction :=
  requestedRun ++
  [.other (updateCommandState requestedOnce.db "c9" .dispatched 1),
    .result "n1" "c9" .failed .emptyObject, .run 0 (drawOf "2"), .run 0 (drawOf "2"),
    .run 0 (drawOf "2")]

/-- Before Core writes, a user cancels the deduction. Both calls append their event. -/
def cancelledBeforeFailure : List DeductionAction :=
  failureRead ++
  [.cancelDeduction "d1" ⟨"c8", "n1", "p1", "r1", 1, "k2"⟩, .run 0 (drawOf "2"),
    .run 0 (drawOf "2"), .run 1 (drawOf "2"), .run 0 (drawOf "2"), .run 0 (drawOf "2"),
    .run 0 (drawOf "3"), .run 0 (drawOf "3")]

/-- **The log announces two ends of the deduction**: it failed, and it was cancelled. -/
theorem cancelledBeforeFailure_disagrees :
    ∃ t, run (Deductions.step noCodec noOutput) { db := twoNodes } cancelledBeforeFailure =
        some t ∧
      t.logged = [⟨some "s1", "d1", .failed⟩, ⟨some "s1", "d1", .cancelled⟩] ∧ ¬ t.Agrees := by
  have hlogged : (run (Deductions.step noCodec noOutput) { db := twoNodes }
      cancelledBeforeFailure).map (·.logged) =
        some [⟨some "s1", "d1", .failed⟩, ⟨some "s1", "d1", .cancelled⟩] := by decide
  obtain ⟨t, hrun, hlog⟩ := Option.map_eq_some_iff.mp hlogged
  refine ⟨t, hrun, hlog, fun h => ?_⟩
  have hone := h.oneEvent
  rw [hlog] at hone
  exact absurd hone (by decide)

/-- `EndsActive`, as a test. -/
def endsActive (s : Deductions) : DeductionAction → Bool
  | .run position _ =>
    (s.calls[position]?).all fun call =>
      (call.ends.all fun row =>
        s.deductions.rows.any fun r => r.deductionId == row.deductionId && r.state.isActive) &&
      (call.stores.all fun number =>
        (s.calls.eraseIdx position).all fun c => c.reserved != some number)
  | .stop position => (s.calls[position]?).all fun call => call.owed == none
  | .other _ => s.calls.all fun c => c.reserved == none
  | _ => true

theorem endsActive_sound (s : Deductions) (a : DeductionAction) (h : endsActive s a = true) :
    s.EndsActive a := by
  cases a with
  | run position draw =>
    intro call hcall
    simp only [endsActive, hcall, Option.all_some, Bool.and_eq_true] at h
    obtain ⟨hends, hstores⟩ := h
    refine ⟨fun row hrow => ?_, fun number hnumber c hc => ?_⟩
    · simp only [hrow, Option.all_some, List.any_eq_true, Bool.and_eq_true, beq_iff_eq] at hends
      exact hends
    · simp only [hnumber, Option.all_some, List.all_eq_true, bne_iff_ne] at hstores
      exact hstores c hc
  | stop position =>
    intro call hcall
    simp only [endsActive, hcall, Option.all_some, beq_iff_eq] at h
    exact h
  | other db =>
    intro c hc key seq hreserved
    have hnone := List.all_eq_true.mp h c hc
    rw [beq_iff_eq.mp hnone] at hreserved
    cases hreserved
  | _ => trivial

/-- The same request and the same answer, and no cancellation. -/
theorem deductions_agree_failed :
    ∃ t, run (Deductions.step noCodec noOutput) { db := twoNodes }
        (failureRead ++ [.run 0 (drawOf "2"), .run 0 (drawOf "2"), .run 0 (drawOf "2")]) =
          some t ∧
      t.logged = [⟨some "s1", "d1", .failed⟩] ∧ t.Agrees := by
  have hlogged : (run (Deductions.step noCodec noOutput) { db := twoNodes }
      (failureRead ++ [.run 0 (drawOf "2"), .run 0 (drawOf "2"), .run 0 (drawOf "2")])).map
        (·.logged) = some [⟨some "s1", "d1", .failed⟩] := by decide
  obtain ⟨t, hrun, hlog⟩ := Option.map_eq_some_iff.mp hlogged
  refine ⟨t, hrun, hlog, ?_⟩
  refine (Deductions.deductions_agree noCodec noOutput rfl rfl rfl ?_ hrun).1
  exact meets_of_check (fun _ => True) (fun _ _ _ _ _ => trivial)
    (fun s a _ => endsActive_sound s a) trivial (by decide)

end Uprava.Core
