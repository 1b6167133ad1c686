/-
  File:      Uprava/Core/MessageTicks.lean
  Subject:   One call of `dispatch_due_scheduled_messages`: the due messages, each claimed and
             dispatched.

  What a dispatch is refused with becomes the end of its message, and a claim that fails leaves the
  message to others, so no message ends a call. The number of a turn is left out of what a message
  is about: two messages of a session take two numbers.

  * `Messages.not_fails_sendDue`      -- no message ends a call;
  * **`Messages.separate_sendDue`** -- the messages of a call stay apart.
-/
import Uprava.Core.ScheduledMessages
import Uprava.Lib.Loops

namespace Uprava.Core

open Uprava.Protocol
open Uprava.Lib (Schema Table each Fails Separate)
open Uprava.Lib.Table

namespace Messages

/-! ## 1. A message, dispatched as far as it gets -/

/-- How many steps there may be from here. -/
def rank : DispatchStep → Nat
  | .load => 7
  | .check _ => 6
  | .record .. => 5
  | .dispatch _ => 4
  | .reload _ => 3
  | .link _ => 2
  | .markSent .. | .markFailed _ => 1

/-- What a call takes from outside of the tables for a message: a clock and new ids, and what its
    claim or its steps are refused or fail with. -/
structure MessageCall where
  input : MessageInput
  claimError : Option AppError
  error : DispatchStep → Option AppError

def MessageCall.inputAt (call : MessageCall) (step : DispatchStep) : MessageInput :=
  { call.input with error := call.error step }

/-- The steps with a message, of which so many are left. -/
def steps (key : MessageKey) (call : MessageCall) :
    Nat → DispatchStep → Messages → Messages × Option AppError
  | 0, _, s => (s, none)
  | left + 1, step, s =>
    match s.dispatchStep key (call.inputAt step) step with
    | (t, .goesOn next) => steps key call left next t
    | (t, .done) => (t, none)
    | (t, .fails e) => (t, some e)

/-- The body of the loop of `dispatch_due_scheduled_messages`. -/
def sendDue (calls : MessageKey → MessageCall) (claim : Claim) (s : Messages) :
    Messages × Option AppError :=
  let call := calls claim.key
  if call.claimError.isNone && s.isIn claim.key [claim.expected] then
    steps claim.key call (rank .load) .load (s.claimRow claim call.input.now)
  else (s, none)

/-- `dispatch_due_scheduled_messages` -/
def dispatchDueScheduledMessages (calls : MessageKey → MessageCall) (now : DateTime)
    (s : Messages) : Messages × Option AppError :=
  each (sendDue calls) (s.due now) s

/-! ## 2. The part of a message -/

/-- What a call sees and writes for a message. -/
structure MessageView where
  message : Option ScheduledMessageRow
  placements : Table PlacementRow
  sessions : Table SessionRow
  runtimes : Table RuntimeRow
  command : Option CommandRow
  outbox : Option CommandOutboxRow
  /-- The turn of the command, without its number. -/
  turn : Option TurnRow
  userMessage : Option MessageRow
  deriving DecidableEq

def TurnRow.unnumbered (r : TurnRow) : TurnRow := { r with turnIndex := 0 }

def messageView (key : MessageKey) (call : MessageCall) (s : Messages) : MessageView where
  message := s.find? key
  placements := s.db.projectPlacements
  sessions := s.db.sessionThreads
  runtimes := s.db.runtimeSessions
  command := s.db.findCommand? call.input.commandId
  outbox := s.db.commandOutbox.find? (·.commandId == call.input.commandId)
  turn := (s.db.turns.find? (·.commandId == call.input.commandId)).map TurnRow.unnumbered
  userMessage := s.db.messages.find? (·.messageId == call.input.userMessageId)

/-- Two messages of a call have no id in common. -/
structure MessageCall.Apart (call call' : MessageCall) : Prop where
  commandId : call.input.commandId ≠ call'.input.commandId
  turnId : call.input.turnId ≠ call'.input.turnId
  userMessageId : call.input.userMessageId ≠ call'.input.userMessageId

/-- The ids of a message are new. -/
def NewIds (call : MessageCall) (s : Messages) : Prop :=
  NewTurn s.db call.input.commandId call.input.turnId call.input.userMessageId

/-- What a step takes for granted of a message. -/
def Needs (call : MessageCall) (s : Messages) : DispatchStep → Prop
  | .load | .check _ | .record .. => NewIds call s
  | .dispatch commandId | .reload commandId | .link commandId =>
    commandId = call.input.commandId
  | .markSent .. | .markFailed _ => True

/-! ## 3. A step leaves the other messages alone -/

section Frame

variable {key key' : MessageKey} {call call' : MessageCall} {s t : Messages}

/-- The turn a message submits. -/
def messageSubmission (input : MessageInput) (content : String) : TurnSubmission :=
  ⟨input.commandId, input.turnId, input.userMessageId, input.correlationId, .localUser none,
    content, input.now⟩

/-- What a step with a message may write. -/
inductive Writes (s : Messages) (key : MessageKey) (input : MessageInput) :
    DispatchStep → Messages → Prop
  | nothing {step} : Writes s key input step s
  | turn {content session placement db}
    (h : RecordsTurn s.db db (messageSubmission input content)
      ((messageSubmission input content).command session placement) key.sessionThreadId) :
    Writes s key input (.record content session placement) { s with db }
  | message {step states f} (hf : KeepsKey f) :
    Writes s key input step (s.write key states f hf)

theorem writes_dispatchStep (s : Messages) (key : MessageKey) (input : MessageInput)
    (step : DispatchStep) : Writes s key input step (s.dispatchStep key input step).1 := by
  cases step with
  | record content session placement =>
    unfold dispatchStep
    dsimp only
    split
    · exact .nothing
    · exact .nothing
    · rename_i hrecord
      exact .turn (records_of_submission hrecord)
  | markSent commandId turnId =>
    unfold dispatchStep sentRow
    dsimp only
    exact .message _
  | markFailed failure =>
    unfold dispatchStep failedRow
    dsimp only
    exact .message _
  | _ =>
    unfold dispatchStep
    dsimp only
    repeat' split
    all_goals exact .nothing

theorem messageView_write {states : List ScheduledMessageState}
    {f : ScheduledMessageRow → ScheduledMessageRow} (hf : KeepsKey f) :
    messageView key call (s.write key' states f hf) = { messageView key call s with
      message := (s.find? key).map fun r =>
        if r.key == key' && states.contains r.state then f r else r } := by
  unfold messageView
  rw [find?_write]
  rfl

theorem messageView_write_of_ne {states : List ScheduledMessageState}
    {f : ScheduledMessageRow → ScheduledMessageRow} (hf : KeepsKey f) (hne : key ≠ key') :
    messageView key call (s.write key' states f hf) = messageView key call s := by
  have hmessage : ((s.find? key).map fun r =>
      if r.key == key' && states.contains r.state then f r else r) = s.find? key := by
    cases hfind : s.find? key with
    | none => rfl
    | some r =>
      rw [Option.map_some, find?_key hfind, beq_false_of_ne hne, Bool.false_and]
      rfl
  rw [messageView_write, hmessage]
  rfl

/-- **A step with a message leaves the other messages alone.** -/
theorem frame_dispatchStep {step : DispatchStep} (hne : key ≠ key') (hapart : call.Apart call') :
    messageView key call (s.dispatchStep key' (call'.inputAt step) step).1 =
        messageView key call s ∧
      (NewIds call s → NewIds call (s.dispatchStep key' (call'.inputAt step) step).1) := by
  have hwrites := writes_dispatchStep s key' (call'.inputAt step) step
  generalize (s.dispatchStep key' (call'.inputAt step) step).1 = t at hwrites
  cases hwrites with
  | nothing => exact ⟨rfl, id⟩
  | message hf => exact ⟨messageView_write_of_ne hf hne, id⟩
  | turn h =>
    have hcommand : (call'.input.commandId == call.input.commandId) = false :=
      beq_false_of_ne hapart.commandId.symm
    have hmessage : (call'.input.userMessageId == call.input.userMessageId) = false :=
      beq_false_of_ne hapart.userMessageId.symm
    refine ⟨?_, fun hnew => h.newTurn hnew hapart.commandId.symm hapart.turnId.symm
      hapart.userMessageId.symm⟩
    have houtbox := h.outbox_of_ne hapart.commandId.symm
    unfold messageView Database.findCommand?
    dsimp only
    rw [houtbox, h.projectPlacements, h.sessionThreads, h.runtimeSessions,
      find?_insert?_of_neg h.commands hcommand, find?_insert?_of_neg h.turns hcommand,
      find?_insert?_of_neg h.messages hmessage]
    rfl

end Frame

/-! ## 4. What a step does with a message rests on its part -/

section Rests

variable {key : MessageKey} {call : MessageCall} {s t : Messages}

/-- A part with a turn more. -/
def MessageView.withTurn (key : MessageKey) (submission : TurnSubmission)
    (command : CommandEnvelope) (v : MessageView) : MessageView :=
  { v with
    command := v.command.or (some (TurnSubmission.commandRow command))
    outbox := v.outbox.or (some (outboxRow command))
    turn := v.turn.or (some (submission.turnRow command key.sessionThreadId 0))
    userMessage := v.userMessage.or (some (submission.messageRow key.sessionThreadId)) }

theorem messageView_of_records {content : String} {session : SessionRow} {placement : PlacementRow}
    {input : MessageInput} {db : Database} (hinput : ∃ error, input = { call.input with error })
    (hnew : NewIds call s)
    (h : RecordsTurn s.db db (messageSubmission input content)
      ((messageSubmission input content).command session placement) key.sessionThreadId) :
    messageView key call { s with db } = (messageView key call s).withTurn key
      (messageSubmission input content)
      ((messageSubmission input content).command session placement) := by
  obtain ⟨error, rfl⟩ := hinput
  have houtbox := h.outbox hnew
  have hturn : ∀ (o : Option TurnRow) (r : TurnRow),
      (o.or (some r)).map TurnRow.unnumbered =
        (o.map TurnRow.unnumbered).or (some (TurnRow.unnumbered r)) := by
    intro o r
    cases o <;> rfl
  unfold messageView Database.findCommand?
  dsimp only
  rw [h.projectPlacements, h.sessionThreads, h.runtimeSessions,
    find?_insert?_of_pos h.commands (beq_self_eq_true call.input.commandId),
    find?_insert?_of_pos h.turns (beq_self_eq_true call.input.commandId),
    find?_insert?_of_pos h.messages (beq_self_eq_true call.input.userMessageId), hturn]
  rw [show db.commandOutbox.find? (·.commandId == call.input.commandId) = _ from houtbox]
  rfl

theorem isIn_congr {states : List ScheduledMessageState} (h : s.find? key = t.find? key) :
    s.isIn key states = t.isIn key states := by
  rw [Bool.eq_iff_iff, isIn_iff, isIn_iff]
  unfold stateOf?
  rw [h]

/-- **What a step does with a message rests on its part.** -/
theorem view_dispatchStep {step : DispatchStep}
    (hview : messageView key call s = messageView key call t) (hs : Needs call s step)
    (ht : Needs call t step) :
    messageView key call (s.dispatchStep key (call.inputAt step) step).1 =
        messageView key call (t.dispatchStep key (call.inputAt step) step).1 ∧
      (s.dispatchStep key (call.inputAt step) step).2 =
        (t.dispatchStep key (call.inputAt step) step).2 := by
  have hmessage : s.find? key = t.find? key := congrArg MessageView.message hview
  have hsession : loadSession s.db key.sessionThreadId = loadSession t.db key.sessionThreadId := by
    have hsessions : s.db.sessionThreads = t.db.sessionThreads :=
      congrArg MessageView.sessions hview
    have hruntimes : s.db.runtimeSessions = t.db.runtimeSessions :=
      congrArg MessageView.runtimes hview
    have hplacements : s.db.projectPlacements = t.db.projectPlacements :=
      congrArg MessageView.placements hview
    refine loadSession_congr (by rw [hsessions]) (fun _ _ => ?_) hplacements
    rw [hruntimes]
  cases step with
  | load =>
    unfold dispatchStep load
    dsimp only
    rw [hmessage]
    split <;> exact ⟨hview, rfl⟩
  | check content =>
    unfold dispatchStep checkTurn
    dsimp only
    rw [hsession]
    split <;> exact ⟨hview, rfl⟩
  | record content session placement =>
    have hexists : ∀ {u : Messages}, NewIds call u →
        ∃ db, recordTurnSubmission u.db
          (messageSubmission (call.inputAt (.record content session placement)) content)
          ((messageSubmission (call.inputAt (.record content session placement)) content).command
            session placement) key.sessionThreadId = .ok db :=
      fun hu => exists_recordTurnSubmission hu
    obtain ⟨db, hdb⟩ := hexists hs
    obtain ⟨db', hdb'⟩ := hexists ht
    have hrecorded : messageView key call { s with db } =
        messageView key call { t with db := db' } := by
      rw [messageView_of_records ⟨_, rfl⟩ hs (records_of_submission hdb),
        messageView_of_records ⟨_, rfl⟩ ht (records_of_submission hdb'), hview]
    unfold messageSubmission at hdb hdb'
    unfold dispatchStep
    dsimp only
    rw [hdb, hdb']
    cases (call.inputAt (.record content session placement)).error with
    | some e => exact ⟨hview, rfl⟩
    | none => exact ⟨hrecorded, rfl⟩
  | dispatch commandId =>
    unfold dispatchStep
    dsimp only
    split <;> exact ⟨hview, rfl⟩
  | reload commandId =>
    unfold dispatchStep
    dsimp only
    rw [hsession]
    split <;> exact ⟨hview, rfl⟩
  | link commandId =>
    have hturn : (s.db.turns.find? (·.commandId == commandId)).map (·.turnId) =
        (t.db.turns.find? (·.commandId == commandId)).map (·.turnId) := by
      rw [hs]
      have hview' := congrArg (fun v => v.turn.map TurnRow.turnId) hview
      unfold messageView at hview'
      dsimp only at hview'
      rw [Option.map_map, Option.map_map] at hview'
      exact hview'
    unfold dispatchStep
    dsimp only
    rw [hturn]
    exact ⟨hview, rfl⟩
  | markSent commandId turnId =>
    unfold dispatchStep sentRow
    dsimp only
    rw [messageView_write, messageView_write, hview, hmessage]
    exact ⟨rfl, rfl⟩
  | markFailed failure =>
    unfold dispatchStep failedRow
    dsimp only
    rw [messageView_write, messageView_write, hview, hmessage]
    exact ⟨rfl, rfl⟩

/-- What a step takes for granted, it leaves for the next one. -/
theorem needs_dispatchStep {step next : DispatchStep} (hs : Needs call s step)
    (h : s.dispatchStep key (call.inputAt step) step = (t, .goesOn next)) : Needs call t next := by
  cases step with
  | load =>
    unfold dispatchStep at h
    dsimp only at h
    split at h
    · cases h
    · split at h
      · cases h
        exact hs
      · cases h
  | check content =>
    unfold dispatchStep at h
    dsimp only at h
    split at h
    · cases h
      exact trivial
    · cases h
      exact hs
  | record content session placement =>
    unfold dispatchStep at h
    dsimp only at h
    split at h
    · cases h
      exact trivial
    · cases h
      exact trivial
    · cases h
      rfl
  | dispatch commandId =>
    unfold dispatchStep at h
    dsimp only at h
    split at h
    · cases h
      exact trivial
    · cases h
      exact hs
  | reload commandId =>
    unfold dispatchStep at h
    dsimp only at h
    split at h
    · cases h
      exact trivial
    · cases h
      exact trivial
    · cases h
      exact hs
  | link commandId =>
    unfold dispatchStep at h
    cases h
    exact trivial
  | markSent commandId turnId =>
    unfold dispatchStep at h
    cases h
  | markFailed failure =>
    unfold dispatchStep at h
    cases h

/-- Only the load of a message that is not there is an error. -/
theorem load_of_fails {step : DispatchStep} {e : AppError}
    (h : s.dispatchStep key (call.inputAt step) step = (t, .fails e)) :
    step = .load ∧ s.find? key = none := by
  cases step with
  | load =>
    unfold dispatchStep load at h
    dsimp only at h
    cases hfind : s.find? key with
    | none => exact ⟨rfl, rfl⟩
    | some row =>
      rw [hfind] at h
      dsimp only at h
      split at h <;> cases h
  | _ =>
    unfold dispatchStep at h
    dsimp only at h
    repeat' split at h
    all_goals cases h

/-- What becomes of a message in the steps that are left rests on its part. -/
theorem view_steps {left : Nat} {step : DispatchStep}
    (hview : messageView key call s = messageView key call t) (hs : Needs call s step)
    (ht : Needs call t step) :
    messageView key call (steps key call left step s).1 =
      messageView key call (steps key call left step t).1 := by
  induction left generalizing s t step with
  | zero => exact hview
  | succ left ih =>
    obtain ⟨hview', hnext⟩ := view_dispatchStep hview hs ht
    rw [steps, steps]
    cases hstep : s.dispatchStep key (call.inputAt step) step with
    | mk s' next =>
      cases hstep' : t.dispatchStep key (call.inputAt step) step with
      | mk t' next' =>
        rw [hstep, hstep'] at hview' hnext
        obtain rfl : next = next' := hnext
        cases next with
        | goesOn next => exact ih hview' (needs_dispatchStep hs hstep) (needs_dispatchStep ht hstep')
        | done => exact hview'
        | fails e => exact hview'

/-- The steps with another message leave the part alone. -/
theorem frame_steps {key' : MessageKey} {call' : MessageCall} {left : Nat} {step : DispatchStep}
    (hne : key ≠ key') (hapart : call.Apart call') :
    messageView key call (steps key' call' left step s).1 = messageView key call s ∧
      (NewIds call s → NewIds call (steps key' call' left step s).1) := by
  induction left generalizing s step with
  | zero => exact ⟨rfl, id⟩
  | succ left ih =>
    have hframe := (@frame_dispatchStep _ _ _ _ s step) hne hapart
    rw [steps]
    cases hstep : s.dispatchStep key' (call'.inputAt step) step with
    | mk s' next =>
      rw [hstep] at hframe
      cases next with
      | goesOn next =>
        obtain ⟨hview, hnew⟩ := @ih s' next
        exact ⟨hview.trans hframe.1, fun h => hnew (hframe.2 h)⟩
      | done => exact hframe
      | fails e => exact hframe

/-- A message that is there is dispatched without an error. -/
theorem steps_eq_none {left : Nat} {step : DispatchStep}
    (h : step = .load → s.find? key ≠ none) : (steps key call left step s).2 = none := by
  induction left generalizing s step with
  | zero => rfl
  | succ left ih =>
    rw [steps]
    cases hstep : s.dispatchStep key (call.inputAt step) step with
    | mk t next =>
      cases next with
      | goesOn next =>
        refine ih fun hload => ?_
        subst hload
        -- no step goes back to the load
        cases step <;> unfold dispatchStep at hstep <;> dsimp only at hstep
        all_goals repeat' split at hstep
        all_goals cases hstep
      | done => rfl
      | fails e =>
        obtain ⟨hload, hnone⟩ := load_of_fails hstep
        exact absurd hnone (h hload)

end Rests

/-! ## 5. The messages of a call stay apart -/

section Call

variable {calls : MessageKey → MessageCall} {s t : Messages} {claim claim' : Claim}

theorem find?_claimRow_ne_none {now : DateTime}
    (h : s.isIn claim.key [claim.expected] = true) :
    (s.claimRow claim now).find? claim.key ≠ none := by
  obtain ⟨state, _, hstate⟩ := isIn_iff.mp h
  obtain ⟨row, hrow, _⟩ := mem_of_stateOf? hstate
  unfold claimRow
  rw [find?_write, hrow]
  exact Option.some_ne_none _

/-- **No message ends a call.** -/
theorem not_fails_sendDue : ¬ Fails (sendDue calls) claim s := by
  show ¬ (sendDue calls claim s).2.isSome = true
  unfold sendDue
  dsimp only
  split
  · rename_i hclaim
    have hin := (Bool.and_eq_true_iff.mp hclaim).2
    rw [steps_eq_none fun _ => find?_claimRow_ne_none hin]
    decide
  · exact fun h => (by cases h)

theorem view_sendDue (hview : messageView claim.key (calls claim.key) s =
      messageView claim.key (calls claim.key) t)
    (hs : NewIds (calls claim.key) s) (ht : NewIds (calls claim.key) t) :
    messageView claim.key (calls claim.key) (sendDue calls claim s).1 =
      messageView claim.key (calls claim.key) (sendDue calls claim t).1 := by
  have hmessage : s.find? claim.key = t.find? claim.key := congrArg MessageView.message hview
  unfold sendDue
  dsimp only
  rw [isIn_congr hmessage]
  split
  · refine view_steps ?_ hs ht
    unfold claimRow
    rw [messageView_write, messageView_write, hview, hmessage]
  · exact hview

theorem frame_sendDue {key : MessageKey} {call : MessageCall} (hne : key ≠ claim.key)
    (hapart : call.Apart (calls claim.key)) :
    messageView key call (sendDue calls claim s).1 = messageView key call s ∧
      (NewIds call s → NewIds call (sendDue calls claim s).1) := by
  unfold sendDue
  dsimp only
  split
  · obtain ⟨hview, hnew⟩ := @frame_steps _ _ (s.claimRow claim (calls claim.key).input.now) _ _
      (rank .load) .load hne hapart
    refine ⟨hview.trans ?_, hnew⟩
    unfold claimRow
    exact messageView_write_of_ne _ hne
  · exact ⟨rfl, id⟩

theorem claim_of_mem_due {now : DateTime} (h : claim ∈ s.due now) :
    ∃ row ∈ s.messages.rows, claim.key = row.key ∧ claim.expected = .scheduled := by
  obtain ⟨row, hrow, rfl⟩ := List.mem_map.mp h
  exact ⟨row, (List.mem_filter.mp (List.mem_mergeSort.mp hrow)).1, rfl, rfl⟩

/-- The messages of a call have different keys. -/
theorem key_ne_of_due {now : DateTime} (h : claim ∈ s.due now) (h' : claim' ∈ s.due now)
    (hne : claim ≠ claim') : claim.key ≠ claim'.key := by
  obtain ⟨row, _, hkey, hstate⟩ := claim_of_mem_due h
  obtain ⟨row', _, hkey', hstate'⟩ := claim_of_mem_due h'
  intro heq
  refine hne ?_
  cases claim
  cases claim'
  simp_all

theorem nodup_due {now : DateTime} : (s.due now).Nodup := by
  have hperm := (List.mergeSort_perm
    (s.messages.select fun r => r.state == .scheduled && r.dueAt ≤ now) fun a b =>
      a.dueAt < b.dueAt ∨ a.dueAt = b.dueAt ∧ a.scheduledMessageId ≤ b.scheduledMessageId).map
        fun r => (⟨r.key, .scheduled, .inl rfl⟩ : Claim)
  refine hperm.nodup_iff.mpr (nodup_select_map fun a b heq => ?_)
  exact congrArg MessageKey.scheduledMessageId (congrArg Claim.key heq)

/-- **The messages of a call stay apart.** -/
theorem separate_sendDue {now : DateTime}
    (hapart : ∀ c ∈ s.due now, ∀ c' ∈ s.due now, c ≠ c' →
      (calls c.key).Apart (calls c'.key)) :
    Separate (sendDue calls) (fun c => messageView c.key (calls c.key))
      (fun c => NewIds (calls c.key)) (s.due now) := by
  refine ⟨fun c hc c' hc' hne u _ => ?_, fun c hc c' hc' hne u hu _ => ?_,
    fun c _ u v hu hv hview => ⟨view_sendDue hview hu hv, ?_⟩⟩
  · exact (frame_sendDue (key_ne_of_due hc hc' hne) (hapart c hc c' hc' hne)).1
  · exact (frame_sendDue (key_ne_of_due hc hc' hne) (hapart c hc c' hc' hne)).2 hu
  · exact iff_of_false not_fails_sendDue not_fails_sendDue

end Call

end Messages

end Uprava.Core
