/-
  File:      Uprava/Core/Allocator.lean
  Subject:   The events Core appends itself, and who numbers the events of a scope.

  Core numbers its own events with one more than the largest number of the scope (`next_seq`), in
  a statement before the transaction that stores the event. A Node numbers the events of a runtime
  with its own counter. Nothing keeps the two apart, and nothing keeps two appends of Core apart:
  `NumbersApart` says of a step that it takes no number another append has read, and of a Node's
  event that Core has not taken its number; `appends_notRefused` says that this is enough for
  every event to be stored.

  A call is its own continuation (`AppendCall`), as in the lifecycle of commands.
-/
import Uprava.Core.Poison

namespace Uprava.Core

open Uprava.Protocol
open Uprava.Lib (Table run Meets check meets_of_check)
open Uprava.Lib.Table

/-! ## 1. The events Core appends -/

/-- What `expire_idle_runtimes` selects of a runtime. -/
structure IdleRuntime where
  runtimeSessionId : RuntimeSessionId
  sessionThreadId : SessionThreadId
  nodeId : NodeId
  deriving DecidableEq

/-- The states an idle runtime can expire from. -/
def expires : RuntimeSessionState → Bool
  | .ready | .running | .blocked | .stale => true
  | _ => false

/-- The runtimes without a step since `cutoff`, joined to their session and placement. -/
def idleRuntimes (db : Database) (cutoff : DateTime) : List IdleRuntime :=
  (db.runtimeSessions.select fun r =>
      expires r.state && decide (r.lastRuntimeStepAt.getD r.createdAt ≤ cutoff)).filterMap fun r =>
    (db.sessionOwner r.sessionThreadId).map (⟨r.runtimeSessionId, r.sessionThreadId, ·⟩)

def expiredEvent (runtimeExpirySeconds : Int) (now : DateTime) (eventId : EventId)
    (idle : IdleRuntime) (seq : Int) : EventEnvelope where
  eventId
  actorRef := .system
  scopeRef := .runtime idle.runtimeSessionId
  nodeId := some idle.nodeId
  runtimeSessionId := some idle.runtimeSessionId
  sessionThreadId := some idle.sessionThreadId
  seq
  kind := .runtimeExpired
  happenedAt := now
  payload := .runtimeExpired
    { code := some "runtime.idle_expired"
      message := some ("Runtime expired after " ++ toString runtimeExpirySeconds ++
        " seconds without runtime activity")
      expirySeconds := some runtimeExpirySeconds }

/-- A warning a user acknowledges: what `record_warning_acknowledgement` is called with. -/
structure Acknowledgement where
  sessionThreadId : SessionThreadId
  runtimeSessionId : RuntimeSessionId
  projectPlacementId : ProjectPlacementId
  nodeId : NodeId
  warningKind : String
  message : Option String
  correlationId : CorrelationId
  deriving DecidableEq

/-- The references an acknowledgement records: the warning, the session and the placement. -/
def Acknowledgement.affectedRefs (a : Acknowledgement) : JsonValue :=
  .array
    (.cons (.ofFields [("kind", .string "warning"), ("warning_kind", .string a.warningKind),
        ("command_id", .null)])
    (.cons (.ofFields [("kind", .string "session"),
        ("session_thread_id", .string a.sessionThreadId)])
    (.cons (.ofFields [("kind", .string "placement"),
        ("placement_id", .string a.projectPlacementId)]) .nil)))

def acknowledgedEvent (a : Acknowledgement) (happenedAt : DateTime) (eventId : EventId)
    (seq sessionProjectionSeq : Int) : EventEnvelope where
  eventId
  correlationId := some a.correlationId
  actorRef := .localUser none
  scopeRef := .session a.sessionThreadId
  nodeId := some a.nodeId
  runtimeSessionId := some a.runtimeSessionId
  sessionThreadId := some a.sessionThreadId
  seq
  sessionProjectionSeq := some sessionProjectionSeq
  kind := .coordinationWarningAcknowledged
  happenedAt
  payload := .coordinationWarningAcknowledged a.warningKind a.message a.affectedRefs

/-- The kinds Core appends to a session's scope. -/
def isCoreSessionKind : EventKind → Bool
  | .deductionRequested | .deductionCompleted | .deductionInvalid | .deductionFailed
  | .deductionCancelled | .extension => true
  | _ => false

/-- What `append_core_session_event` is called with; its callers name one of six kinds. -/
structure SessionNote where
  sessionThreadId : SessionThreadId
  commandId : Option CommandId
  payload : EventPayload
  kind : isCoreSessionKind payload.kind = true

def coreSessionEvent (note : SessionNote) (happenedAt : DateTime) (eventId : EventId)
    (seq : Int) : EventEnvelope where
  eventId
  commandId := note.commandId
  actorRef := .system
  scopeRef := .session note.sessionThreadId
  sessionThreadId := some note.sessionThreadId
  seq
  kind := note.payload.kind
  happenedAt
  payload := note.payload

/-- The transaction of `record_warning_acknowledgement`. The session is a foreign key. -/
def insertWarningAcknowledgement (db : Database) (a : Acknowledgement) (event : EventEnvelope)
    (messageId : MessageId) : Except AppError Database := do
  let db ← insertEventRecord (upsertActor db event.actorRef event.happenedAt) event
  if !sessionExists db.sessionThreads a.sessionThreadId then
    .error (.database "warning_acknowledgements.session_thread_id")
  else
    let warningAcknowledgements ← dbResult "warning_acknowledgements.event_id"
      (db.warningAcknowledgements.insert?
        ⟨event.eventId, a.sessionThreadId, some a.warningKind, event.happenedAt⟩)
    completeEventProjection { db with warningAcknowledgements } event messageId

/-! ## 2. The calls that append -/

/-- What is left of a call that appends events. -/
inductive AppendCall where
  /-- `expire_idle_runtimes` -/
  | selectIdle
  | numberExpired (now : DateTime) (rows : List IdleRuntime)
  | expire (now : DateTime) (idle : IdleRuntime) (seq : Int) (rows : List IdleRuntime)
  /-- `record_warning_acknowledgement` -/
  | numberAcknowledgement (a : Acknowledgement)
  | numberInSession (a : Acknowledgement) (happenedAt : DateTime) (seq : Int)
  | acknowledge (a : Acknowledgement) (happenedAt : DateTime) (seq sessionProjectionSeq : Int)
  /-- `append_core_session_event` -/
  | numberNote (note : SessionNote)
  | appendNote (note : SessionNote) (seq : Int)

/-- What a step may draw: a new id for an event, one for a message, and the time. -/
structure Draw where
  eventId : EventId
  messageId : MessageId
  now : DateTime

/-- The number a call has read and not used yet, with its scope. -/
def AppendCall.held : AppendCall → Option (String × Int)
  | expire _ idle seq _ => some (scopeKey (.runtime idle.runtimeSessionId), seq)
  | numberInSession a _ seq | acknowledge a _ seq _ =>
    some (scopeKey (.session a.sessionThreadId), seq)
  | appendNote note seq => some (scopeKey (.session note.sessionThreadId), seq)
  | _ => none

section Step

variable (runtimeExpirySeconds : Int)

/-- The event the next step of a call stores. -/
def AppendCall.event (draw : Draw) : AppendCall → Option EventEnvelope
  | expire now idle seq _ => some (expiredEvent runtimeExpirySeconds now draw.eventId idle seq)
  | acknowledge a happenedAt seq sessionProjectionSeq =>
    some (acknowledgedEvent a happenedAt draw.eventId seq sessionProjectionSeq)
  | appendNote note seq => some (coreSessionEvent note draw.now draw.eventId seq)
  | _ => none

/-- Runs the next statement or transaction of a call; nothing is left of one that returned. -/
def AppendCall.step (db : Database) (draw : Draw) : AppendCall → Database × Option AppendCall
  | selectIdle =>
    if runtimeExpirySeconds ≤ 0 then (db, none)
    else (db, some (numberExpired draw.now (idleRuntimes db (draw.now - runtimeExpirySeconds))))
  | numberExpired _ [] => (db, none)
  | numberExpired now (idle :: rows) =>
    (db, some (expire now idle
      (nextSeq db.events (scopeKey (.runtime idle.runtimeSessionId))) rows))
  | expire now idle seq rows =>
    match acceptNodeEvent db (expiredEvent runtimeExpirySeconds now draw.eventId idle seq)
        draw.messageId with
    | .ok db => (db, some (numberExpired now rows))
    | .error _ => (db, none)
  | numberAcknowledgement a =>
    (db, some (numberInSession a draw.now
      (nextSeq db.events (scopeKey (.session a.sessionThreadId)))))
  | numberInSession a happenedAt seq =>
    (db, some (acknowledge a happenedAt seq
      (nextSessionProjectionSeq db.events a.sessionThreadId)))
  | acknowledge a happenedAt seq sessionProjectionSeq =>
    match insertWarningAcknowledgement db a
        (acknowledgedEvent a happenedAt draw.eventId seq sessionProjectionSeq) draw.messageId with
    | .ok db => (db, none)
    | .error _ => (db, none)
  | numberNote note =>
    (db, some (appendNote note (nextSeq db.events (scopeKey (.session note.sessionThreadId)))))
  | appendNote note seq =>
    match acceptNodeEvent db (coreSessionEvent note draw.now draw.eventId seq) draw.messageId with
    | .ok db => (db, none)
    | .error _ => (db, none)

/-- Core's database, its appends in flight, and the numbers the Nodes have used in each scope. -/
structure Appends where
  db : Database
  calls : List AppendCall := []
  used : List (NodeId × String × Int) := []

inductive AppendAction where
  /-- A Node's event arrives. -/
  | deliver (nodeId : NodeId) (event : EventEnvelope) (messageId : MessageId)
  /-- Core starts to append. -/
  | expireIdle
  | acknowledgeWarning (a : Acknowledgement)
  | note (note : SessionNote)
  /-- The call at a position runs its next step. -/
  | run (position : Nat) (draw : Draw)
  /-- Core does something else, which may delete events and stores none. -/
  | other (db : Database)

def Appends.step (s : Appends) : AppendAction → Option Appends
  | .deliver nodeId event messageId =>
    let used := (nodeId, scopeKey event.scopeRef, event.seq) :: s.used
    match validateEventOwner s.db nodeId event, acceptNodeEvent s.db event messageId with
    | .ok (), .ok db => some { s with db, used }
    | _, _ => some { s with used }
  | .expireIdle => some { s with calls := .selectIdle :: s.calls }
  | .acknowledgeWarning a => some { s with calls := .numberAcknowledgement a :: s.calls }
  | .note note => some { s with calls := .numberNote note :: s.calls }
  | .run position draw =>
    match s.calls[position]? with
    | none => none
    | some call =>
      -- an id that is drawn is new
      if (findEvent? s.db.events draw.eventId).isSome then none
      else
        let (db, rest) := call.step runtimeExpirySeconds s.db draw
        some { s with db, calls := rest.toList ++ s.calls.eraseIdx position }
  | .other db => if db.events.rows ⊆ s.db.events.rows then some { s with db } else none

/-! ## 3. What is claimed of a run, and when it holds -/

/-- The number is free in the scope. -/
def NumberFree (events : Table EventRow) (key : String) (seq : Int) : Prop :=
  ∀ r ∈ events.rows, ¬ (r.scopeKey = key ∧ r.seq = seq)

/-- A Node offers an event of a runtime: new, its own, and with a number above all it has used in
    the scope. -/
structure Appends.Offers (s : Appends) (nodeId : NodeId) (event : EventEnvelope) : Prop where
  runtime : Node.RuntimeEvent event
  id : findEvent? s.db.events event.eventId = none
  owned : validateEventOwner s.db nodeId event = .ok ()
  above : ∀ n, (nodeId, scopeKey event.scopeRef, n) ∈ s.used → n < event.seq

/-- The next step of the call is refused neither for the number of its event nor by the index of
    the numbers; of an event that goes through `accept_node_event`, by nothing. -/
def AppendCall.Stores (db : Database) (draw : Draw) : AppendCall → Prop
  | expire now idle seq _ =>
    ∃ db', acceptNodeEvent db (expiredEvent runtimeExpirySeconds now draw.eventId idle seq)
      draw.messageId = .ok db'
  | acknowledge a _ seq _ => NumberFree db.events (scopeKey (.session a.sessionThreadId)) seq
  | appendNote note seq =>
    ∃ db', acceptNodeEvent db (coreSessionEvent note draw.now draw.eventId seq) draw.messageId =
      .ok db'
  | _ => True

/-- **No event is refused**: what a Node offers is accepted, and what Core appends is stored. -/
def NotRefused (s : Appends) : AppendAction → Prop
  | .deliver nodeId event messageId =>
    s.Offers nodeId event → ∃ db', acceptNodeEvent s.db event messageId = .ok db'
  | .run position draw =>
    ∀ call, s.calls[position]? = some call → findEvent? s.db.events draw.eventId = none →
      call.Stores runtimeExpirySeconds s.db draw
  | _ => True

/-- The event's number is not held by an event of Core or of another Node. -/
def NotTaken (db : Database) (nodeId : NodeId) (event : EventEnvelope) : Prop :=
  ∀ r ∈ db.events.rows, r.scopeKey = scopeKey event.scopeRef → r.seq = event.seq →
    r.event.nodeId = some nodeId ∧ r.event.actorRef ≠ .system

/-- No call of the list has read the event's number. -/
def NotHeld (calls : List AppendCall) (event : EventEnvelope) : Prop :=
  ∀ c ∈ calls, c.held ≠ some (scopeKey event.scopeRef, event.seq)

/-- **The step keeps the numbers apart**: Core has not taken the number of an event a Node offers,
    and the event that is stored has no number another append has read. -/
def NumbersApart (s : Appends) : AppendAction → Prop
  | .deliver nodeId event _ =>
    (s.Offers nodeId event → NotTaken s.db nodeId event ∧ ¬ SecondApproval s.db event) ∧
    (validateEventOwner s.db nodeId event = .ok () →
      event.payload.matchesKind event.kind = true →
      findEvent? s.db.events event.eventId = none → NotHeld s.calls event)
  | .run position draw =>
    ∀ call, s.calls[position]? = some call →
      ∀ event, call.event runtimeExpirySeconds draw = some event →
        NotHeld (s.calls.eraseIdx position) event
  | _ => True

/-! ## 4. What a step stores -/

theorem numberFree_nextSeq (events : Table EventRow) (key : String) :
    NumberFree events key (nextSeq events key) := by
  rintro r hr ⟨rfl, hseq⟩
  exact absurd (lt_nextSeq hr) (by omega)

theorem seqHolder?_eq_none_iff {events : Table EventRow} {key : String} {seq : Int} :
    seqHolder? events key seq = none ↔ NumberFree events key seq := by
  unfold seqHolder? NumberFree Table.find?
  simp

/-- `r'` is a row of `events` as far as its number and its event go. -/
def KeptIn (events : Table EventRow) (r' : EventRow) : Prop :=
  ∃ r ∈ events.rows, r.scopeKey = r'.scopeKey ∧ r.seq = r'.seq ∧ r.event = r'.event

/-- `r'` records the event, perhaps with what Core fills in. -/
structure RecordOf (event : EventEnvelope) (r' : EventRow) : Prop where
  scopeKey : r'.scopeKey = Core.scopeKey event.scopeRef
  seq : r'.seq = event.seq
  actorRef : r'.event.actorRef = event.actorRef
  nodeId : r'.event.nodeId = event.nodeId

/-- The rows of `events'` are rows of `events`, and a record of the event. -/
def AddsOnly (events events' : Table EventRow) (event : EventEnvelope) : Prop :=
  ∀ r' ∈ events'.rows, KeptIn events r' ∨ RecordOf event r'

theorem keptIn_of_mem {events : Table EventRow} {r : EventRow} (h : r ∈ events.rows) :
    KeptIn events r := ⟨r, h, rfl, rfl, rfl⟩

/-- An update that keeps numbers and events adds nothing. -/
theorem keptIn_of_update {events : Table EventRow} {p : EventRow → Bool} {f : EventRow → EventRow}
    {hf : KeepsKeys f} {r' : EventRow} (h : r' ∈ (events.update p f hf).rows)
    (hkeeps : ∀ r, (f r).scopeKey = r.scopeKey ∧ (f r).seq = r.seq ∧ (f r).event = r.event) :
    KeptIn events r' := by
  obtain ⟨r, hr, rfl⟩ := List.mem_map.mp h
  refine ⟨r, hr, ?_⟩
  split
  · exact ⟨(hkeeps r).1.symm, (hkeeps r).2.1.symm, (hkeeps r).2.2.symm⟩
  · exact ⟨rfl, rfl, rfl⟩

theorem KeptIn.trans {events events' : Table EventRow} {r' : EventRow} (h : KeptIn events' r')
    (hall : ∀ r ∈ events'.rows, KeptIn events r) : KeptIn events r' := by
  obtain ⟨r₁, hr₁, hkey₁, hseq₁, hevent₁⟩ := h
  obtain ⟨r, hr, hkey, hseq, hevent⟩ := hall r₁ hr₁
  exact ⟨r, hr, hkey.trans hkey₁, hseq.trans hseq₁, hevent.trans hevent₁⟩

/-- The rows after a record was inserted and completed. -/
theorem rows_recorded {events events₁ : Table EventRow} {event : EventEnvelope}
    (hinsert : events.insert? (.recorded event) = some events₁) {r' : EventRow}
    (h : r' ∈ (events₁.update (fun r => r.eventId == event.eventId &&
      r.projectionState != .projected) (.complete event.happenedAt)
        ⟨fun _ _ => Iff.rfl⟩).rows) : KeptIn events r' ∨ RecordOf event r' := by
  obtain ⟨r, hr, hkey, hseq, hevent⟩ := keptIn_of_update h fun _ => ⟨rfl, rfl, rfl⟩
  rw [(insert?_eq_some.mp hinsert).2] at hr
  rcases List.mem_append.mp hr with hr | hr
  · exact Or.inl ⟨r, hr, hkey, hseq, hevent⟩
  · obtain rfl := List.mem_singleton.mp hr
    exact Or.inr ⟨hkey.symm, hseq.symm, by rw [← hevent]; rfl, by rw [← hevent]; rfl⟩

/-- **What an accepted event adds**: its record, if its id is new; else nothing. -/
theorem rows_acceptNodeEvent {db db' : Database} {event : EventEnvelope} {messageId : MessageId}
    (h : acceptNodeEvent db event messageId = .ok db') :
    ∀ r' ∈ db'.events.rows, KeptIn db.events r' ∨
      (findEvent? db.events event.eventId = none ∧ RecordOf event r') := by
  intro r' hr'
  obtain ⟨-, ⟨row, -, -, rfl⟩ | ⟨row, -, -, hp⟩ | ⟨hnone, -, events, hevents, hp⟩⟩ :=
    acceptNodeEvent_ok h
  · exact Or.inl (keptIn_of_mem hr')
  · rw [hp.events] at hr'
    have hkept := keptIn_of_update hr' fun _ => ⟨rfl, rfl, rfl⟩
    exact Or.inl (hkept.trans fun r hr => keptIn_of_update hr fun _ => ⟨rfl, rfl, rfl⟩)
  · rw [hp.events] at hr'
    rcases rows_recorded hevents hr' with hkept | hrecord
    · exact Or.inl hkept
    · exact Or.inr ⟨hnone, hrecord.scopeKey, hrecord.seq, hrecord.actorRef, hrecord.nodeId⟩

theorem addsOnly_acceptNodeEvent {db db' : Database} {event : EventEnvelope}
    {messageId : MessageId} (h : acceptNodeEvent db event messageId = .ok db') :
    AddsOnly db.events db'.events event :=
  fun r' hr' => (rows_acceptNodeEvent h r' hr').imp_right And.right

theorem addsOnly_insertWarningAcknowledgement {db db' : Database} {a : Acknowledgement}
    {event : EventEnvelope} {messageId : MessageId}
    (h : insertWarningAcknowledgement db a event messageId = .ok db') :
    AddsOnly db.events db'.events event := by
  unfold insertWarningAcknowledgement at h
  obtain ⟨db₁, h₁, h⟩ := bind_eq_ok.mp h
  obtain ⟨actors, hactors⟩ := upsertActor_eq db event.actorRef event.happenedAt
  rw [hactors] at h₁
  unfold insertEventRecord at h₁
  split at h₁
  · rename_i events hevents
    cases h₁
    split at h
    · cases h
    · obtain ⟨acknowledgements, -, h⟩ := bind_eq_ok.mp h
      have hdb' := congrArg Database.events (recordDurableMessage_ok h)
      intro r' hr'
      rw [hdb'] at hr'
      exact rows_recorded hevents hr'
  · cases h₁

/-- An event of Core is the system's, or is in the scope of a session. -/
theorem AppendCall.event_actor {call : AppendCall} {draw : Draw} {event : EventEnvelope}
    (h : call.event runtimeExpirySeconds draw = some event) :
    event.actorRef = .system ∨ ∃ s, event.scopeRef = .session s := by
  cases call <;> cases h
  · exact Or.inl rfl
  · exact Or.inr ⟨_, rfl⟩
  · exact Or.inl rfl

/-- **What one step of a call does**: it stores nothing, and a number it holds afterwards it held
    before or is the next one of its scope; or it stores its event and holds no number. -/
theorem AppendCall.step_cases {call : AppendCall} {db db' : Database} {draw : Draw}
    {rest : Option AppendCall} (h : call.step runtimeExpirySeconds db draw = (db', rest)) :
    (db' = db ∧ ∀ c ∈ rest, ∀ key n, c.held = some (key, n) →
        call.held = some (key, n) ∨ n = nextSeq db.events key) ∨
      (∃ event, call.event runtimeExpirySeconds draw = some event ∧
        AddsOnly db.events db'.events event ∧ ∀ c ∈ rest, c.held = none) := by
  cases call with
  | selectIdle =>
    rw [step] at h
    by_cases hoff : runtimeExpirySeconds ≤ 0
    · rw [if_pos hoff] at h
      cases h
      exact Or.inl ⟨rfl, by simp⟩
    · rw [if_neg hoff] at h
      cases h
      refine Or.inl ⟨rfl, fun c hc key n hn => ?_⟩
      cases hc
      cases hn
  | numberExpired now rows =>
    cases rows with
    | nil =>
      cases h
      exact Or.inl ⟨rfl, by simp⟩
    | cons idle rows =>
      cases h
      refine Or.inl ⟨rfl, fun c hc key n hn => Or.inr ?_⟩
      cases hc
      cases hn
      rfl
  | expire now idle seq rows =>
    rw [step] at h
    split at h
    · rename_i db₁ haccept
      cases h
      refine Or.inr ⟨_, rfl, addsOnly_acceptNodeEvent haccept, fun c hc => ?_⟩
      cases hc
      rfl
    · cases h
      exact Or.inl ⟨rfl, by simp⟩
  | numberAcknowledgement a =>
    cases h
    refine Or.inl ⟨rfl, fun c hc key n hn => Or.inr ?_⟩
    cases hc
    cases hn
    rfl
  | numberInSession a happenedAt seq =>
    cases h
    refine Or.inl ⟨rfl, fun c hc key n hn => Or.inl ?_⟩
    cases hc
    exact hn
  | acknowledge a happenedAt seq sessionProjectionSeq =>
    rw [step] at h
    split at h
    · rename_i db₁ hinsert
      cases h
      exact Or.inr ⟨_, rfl, addsOnly_insertWarningAcknowledgement hinsert, by simp⟩
    · cases h
      exact Or.inl ⟨rfl, by simp⟩
  | numberNote note =>
    cases h
    refine Or.inl ⟨rfl, fun c hc key n hn => Or.inr ?_⟩
    cases hc
    cases hn
    rfl
  | appendNote note seq =>
    rw [step] at h
    split at h
    · rename_i db₁ haccept
      cases h
      exact Or.inr ⟨_, rfl, addsOnly_acceptNodeEvent haccept, by simp⟩
    · cases h
      exact Or.inl ⟨rfl, by simp⟩

/-! ## 5. The invariant -/

theorem scopeKey_session_ne_runtime (s : SessionThreadId) (r : RuntimeSessionId) :
    scopeKey (.session s) ≠ scopeKey (.runtime r) := by
  intro h
  have hchars := congrArg String.toList h
  simp [scopeKey] at hchars

/-- Every event stored in a runtime's scope is Core's, or its Node has used its number. -/
def Appends.Accounted (s : Appends) : Prop :=
  ∀ r ∈ s.db.events.rows, ∀ id, r.scopeKey = scopeKey (.runtime id) →
    r.event.actorRef = .system ∨
      ∃ nodeId, r.event.nodeId = some nodeId ∧ (nodeId, r.scopeKey, r.seq) ∈ s.used

/-- Every number a call of the list holds is free. -/
def HeldFree (events : Table EventRow) (calls : List AppendCall) : Prop :=
  ∀ c ∈ calls, ∀ key n, c.held = some (key, n) → NumberFree events key n

structure Appends.Sound (s : Appends) : Prop where
  accounted : s.Accounted
  held : HeldFree s.db.events s.calls

/-- Numbers that are free stay free when a record of another number is added. -/
theorem HeldFree.adds {events events' : Table EventRow} {calls : List AppendCall}
    {event : EventEnvelope} (h : HeldFree events calls) (hadds : AddsOnly events events' event)
    (hheld : NotHeld calls event) : HeldFree events' calls := by
  rintro c hc key n hn r' hr' ⟨hkey, hseq⟩
  rcases hadds r' hr' with ⟨r, hr, hkey', hseq', -⟩ | hrecord
  · exact h c hc key n hn r hr ⟨hkey'.trans hkey, hseq'.trans hseq⟩
  · have hsame : (key, n) = (scopeKey event.scopeRef, event.seq) :=
      Prod.ext (hkey.symm.trans hrecord.scopeKey) (hseq.symm.trans hrecord.seq)
    exact hheld c hc (hsame ▸ hn)

theorem HeldFree.kept {events events' : Table EventRow} {calls : List AppendCall}
    (h : HeldFree events calls) (hkept : ∀ r' ∈ events'.rows, KeptIn events r') :
    HeldFree events' calls := by
  rintro c hc key n hn r' hr' ⟨hkey, hseq⟩
  obtain ⟨r, hr, hkey', hseq', -⟩ := hkept r' hr'
  exact h c hc key n hn r hr ⟨hkey'.trans hkey, hseq'.trans hseq⟩

theorem HeldFree.cons {events : Table EventRow} {calls : List AppendCall} {call : AppendCall}
    (h : HeldFree events calls) (hcall : call.held = none) : HeldFree events (call :: calls) := by
  intro c hc key n hn
  rcases List.mem_cons.mp hc with rfl | hc
  · rw [hcall] at hn
    cases hn
  · exact h c hc key n hn

/-- What is left of a call joins the others. -/
theorem HeldFree.append {events : Table EventRow} {calls : List AppendCall}
    {rest : Option AppendCall} (h : HeldFree events calls)
    (hrest : ∀ c ∈ rest, ∀ key n, c.held = some (key, n) → NumberFree events key n) :
    HeldFree events (rest.toList ++ calls) := by
  intro c hc key n hn
  rcases List.mem_append.mp hc with hc | hc
  · exact hrest c (Option.mem_toList.mp hc) key n hn
  · exact h c hc key n hn

/-- What is added to the events of an accounted state is accounted for, if the added record is. -/
theorem Appends.Accounted.adds {s : Appends} {db' : Database} {calls : List AppendCall}
    {used : List (NodeId × String × Int)} (h : s.Accounted) (hused : ∀ u ∈ s.used, u ∈ used)
    (hrows : ∀ r' ∈ db'.events.rows, KeptIn s.db.events r' ∨
      (r'.event.actorRef = .system ∨ (∀ id, r'.scopeKey ≠ scopeKey (.runtime id)) ∨
        ∃ nodeId, r'.event.nodeId = some nodeId ∧ (nodeId, r'.scopeKey, r'.seq) ∈ used)) :
    Appends.Accounted ⟨db', calls, used⟩ := by
  intro r' hr' id hid
  rcases hrows r' hr' with ⟨r, hr, hkey, hseq, hevent⟩ | hsystem | hscope | hown
  · have hr_acc := h r hr id (hkey.trans hid)
    rw [hkey, hseq, hevent] at hr_acc
    refine hr_acc.imp_right fun ⟨nodeId, hnode, hmem⟩ => ⟨nodeId, hnode, hused _ hmem⟩
  · exact Or.inl hsystem
  · exact absurd hid (hscope id)
  · exact Or.inr hown

/-- **A step that keeps the numbers apart keeps the state sound.** -/
theorem sound_step {s t : Appends} {a : AppendAction} (h : s.Sound)
    (hapart : NumbersApart runtimeExpirySeconds s a)
    (hstep : s.step runtimeExpirySeconds a = some t) : t.Sound := by
  cases a with
  | deliver nodeId event messageId =>
    have hused : ∀ u ∈ s.used, u ∈ (nodeId, scopeKey event.scopeRef, event.seq) :: s.used :=
      fun u hu => List.mem_cons_of_mem _ hu
    have hrefused : Appends.Sound ⟨s.db, s.calls, (nodeId, scopeKey event.scopeRef, event.seq) ::
        s.used⟩ :=
      ⟨h.accounted.adds hused fun r' hr' => Or.inl (keptIn_of_mem hr'), h.held⟩
    rw [Appends.step] at hstep
    split at hstep
    · rename_i db hvalid haccept
      cases hstep
      refine ⟨h.accounted.adds hused fun r' hr' => ?_, ?_⟩
      · refine (rows_acceptNodeEvent haccept r' hr').imp_right fun ⟨_, hrecord⟩ => ?_
        have hnode : event.nodeId = some nodeId := (validateEventOwner_ok hvalid).node
        refine Or.inr (Or.inr ⟨nodeId, hrecord.nodeId.trans hnode, ?_⟩)
        rw [hrecord.scopeKey, hrecord.seq]
        exact List.mem_cons_self
      · cases hnew : findEvent? s.db.events event.eventId with
        | none =>
          have hmatch := (acceptNodeEvent_ok haccept).1
          exact h.held.adds (addsOnly_acceptNodeEvent haccept) (hapart.2 hvalid hmatch hnew)
        | some row =>
          refine h.held.kept fun r' hr' => (rows_acceptNodeEvent haccept r' hr').resolve_right ?_
          rintro ⟨hnone, -⟩
          rw [hnew] at hnone
          cases hnone
    · cases hstep
      exact hrefused
  | expireIdle =>
    cases hstep
    exact ⟨h.accounted, h.held.cons rfl⟩
  | acknowledgeWarning w =>
    cases hstep
    exact ⟨h.accounted, h.held.cons rfl⟩
  | note note =>
    cases hstep
    exact ⟨h.accounted, h.held.cons rfl⟩
  | run position draw =>
    rw [Appends.step] at hstep
    split at hstep
    · cases hstep
    · rename_i call hcall
      split at hstep
      · cases hstep
      · rename_i hnew
        have hothers : HeldFree s.db.events (s.calls.eraseIdx position) :=
          fun c hc => h.held c (List.mem_of_mem_eraseIdx hc)
        have hcallFree := h.held call (List.mem_of_getElem? hcall)
        cases hcs : call.step runtimeExpirySeconds s.db draw with
        | mk db rest =>
          rw [hcs] at hstep
          cases hstep
          rcases AppendCall.step_cases runtimeExpirySeconds hcs with
            ⟨rfl, hrest⟩ | ⟨event, hevent, hadds, hrest⟩
          · -- a read: the number is the next one of its scope, or was held
            refine ⟨h.accounted, hothers.append fun c hc key n hn => ?_⟩
            rcases hrest c hc key n hn with hheld | rfl
            · exact hcallFree key n hheld
            · exact numberFree_nextSeq s.db.events key
          · have hown := AppendCall.event_actor runtimeExpirySeconds hevent
            refine ⟨h.accounted.adds (fun _ => id) fun r' hr' => ?_, ?_⟩
            · refine (hadds r' hr').imp_right fun hrecord => ?_
              rcases hown with hsystem | ⟨session, hscope⟩
              · exact Or.inl (hrecord.actorRef.trans hsystem)
              · refine Or.inr (Or.inl fun id => ?_)
                rw [hrecord.scopeKey, hscope]
                exact scopeKey_session_ne_runtime session id
            · refine (hothers.adds hadds (hapart call hcall event hevent)).append ?_
              intro c hc key n hn
              rw [hrest c hc] at hn
              cases hn
  | other db =>
    rw [Appends.step] at hstep
    split at hstep
    · rename_i hsub
      cases hstep
      have hkept : ∀ r' ∈ db.events.rows, KeptIn s.db.events r' :=
        fun r' hr' => keptIn_of_mem (hsub hr')
      exact ⟨h.accounted.adds (fun _ => id) fun r' hr' => Or.inl (hkept r' hr'),
        h.held.kept hkept⟩
    · cases hstep

/-! ## 6. Nothing is refused -/

/-- **A new event of Core is accepted when its number is free**: no index but those of the events
    concerns it. -/
theorem accepts_coreEvent {db : Database} {event : EventEnvelope} {messageId : MessageId}
    (hkind : event.kind = .runtimeExpired ∨ isCoreSessionKind event.kind = true)
    (hmatch : event.payload.matchesKind event.kind = true)
    (hid : findEvent? db.events event.eventId = none)
    (hfree : NumberFree db.events (scopeKey event.scopeRef) event.seq) :
    ∃ db', acceptNodeEvent db event messageId = .ok db' := by
  have hfresh : Fresh db event := ⟨hid, seqHolder?_eq_none_iff.mpr hfree⟩
  have hplain : durableMessage event = none ∧ event.kind ≠ .taskRunStateChanged ∧
      isWorkspaceSnapshotKind event.kind = false ∧ isApprovalKind event.kind = false := by
    unfold durableMessage
    cases hk : event.kind <;> simp_all [isCoreSessionKind, isWorkspaceSnapshotKind, isApprovalKind]
  obtain ⟨hmessage, htask, hworkspace, happroval⟩ := hplain
  refine (acceptNodeEvent_fresh_iff hfresh fun h => absurd hmessage h).mpr ⟨hmatch, ?_, ?_, ?_⟩
  · refine ⟨db.approvals, ?_⟩
    unfold updateApprovalFromEvent
    split
    · rename_i hk _ _
      rw [hk] at happroval
      cases happroval
    · rename_i hk _ _
      rw [hk] at happroval
      cases happroval
    · rfl
  · exact ⟨db.taskRuns, if_pos htask⟩
  · exact ⟨db.projectPlacements, by simp [projectPlacement, hworkspace]⟩

/-- **In a sound state, a step that keeps the numbers apart refuses nothing.** -/
theorem notRefused_of_sound {s : Appends} {a : AppendAction} (h : s.Sound)
    (hapart : NumbersApart runtimeExpirySeconds s a) : NotRefused runtimeExpirySeconds s a := by
  cases a with
  | deliver nodeId event messageId =>
    intro hoffers
    obtain ⟨hnotTaken, hsecond⟩ := hapart.1 hoffers
    have hfree : NumberFree s.db.events (scopeKey event.scopeRef) event.seq := by
      rintro r hr ⟨hkey, hseq⟩
      obtain ⟨hown, hactor⟩ := hnotTaken r hr hkey hseq
      obtain ⟨id, hscope, -⟩ := hoffers.runtime.scope
      -- the row is the Node's own, so the Node has used the number
      rcases h.accounted r hr id (hkey.trans (by rw [hscope])) with hsystem | ⟨n, hn, hused⟩
      · exact hactor hsystem
      · obtain rfl : nodeId = n := Option.some.inj (hown.symm.trans hn)
        rw [hkey] at hused
        have hlt := hoffers.above r.seq hused
        omega
    have hfresh : Fresh s.db event := ⟨hoffers.id, seqHolder?_eq_none_iff.mpr hfree⟩
    exact (accepts_runtimeEvent_iff hoffers.runtime hfresh hoffers.owned).mpr hsecond
  | run position draw =>
    intro call hcall hid
    have hheld := h.held call (List.mem_of_getElem? hcall)
    cases call with
    | expire now idle seq rows =>
      exact accepts_coreEvent (Or.inl rfl) rfl hid (hheld _ _ rfl)
    | appendNote note seq =>
      refine accepts_coreEvent (Or.inr note.kind) ?_ hid (hheld _ _ rfl)
      exact beq_self_eq_true note.payload.kind
    | acknowledge a happenedAt seq sessionProjectionSeq => exact hheld _ _ rfl
    | _ => trivial
  | _ => trivial

/-- **Along any run that starts without appends in flight and keeps the numbers apart, every event
    a Node offers is accepted and every event Core appends is stored.** -/
theorem appends_notRefused {s : Appends} {as : List AppendAction} (hcalls : s.calls = [])
    (haccounted : s.Accounted)
    (hapart : Meets (Appends.step runtimeExpirySeconds) (NumbersApart runtimeExpirySeconds) s as) :
    Meets (Appends.step runtimeExpirySeconds) (NotRefused runtimeExpirySeconds) s as := by
  have hsound : s.Sound := ⟨haccounted, by simp [HeldFree, hcalls]⟩
  refine Meets.of_inv Appends.Sound ?_ ?_ hsound hapart
  · exact fun s a t h hC hstep => sound_step runtimeExpirySeconds h hC hstep
  · exact fun s a h hC => notRefused_of_sound runtimeExpirySeconds h hC

end Step

/-! ## 7. An expiry and a resume -/

/-- The events of a runtime that starts and is resumed: the Node numbers them with its own
    counter. -/
def runtimeEvent (eventId : EventId) (seq : Int) (kind : EventKind) (payload : EventPayload) :
    EventEnvelope where
  eventId
  actorRef := .node "n1"
  scopeRef := .runtime "r1"
  nodeId := some "n1"
  runtimeSessionId := some "r1"
  sessionThreadId := some "s1"
  seq
  kind
  happenedAt := seq
  payload

/-- The runtime is ready, nothing happens for an hour, Core expires it, and the Node resumes it. -/
def expiredThenResumed : List AppendAction :=
  [.deliver "n1" (runtimeEvent "e1" 1 .runtimeReady (.runtimeReady {})) "m1",
    .expireIdle,
    .run 0 ⟨"x1", "y1", 3700⟩,
    .run 0 ⟨"x2", "y2", 3700⟩,
    .run 0 ⟨"x3", "y3", 3700⟩]

def resumed : EventEnvelope := runtimeEvent "e2" 2 .runtimeResuming (.runtimeResuming {})

/-- A user acknowledges a warning of the session. -/
def readOnlyAcknowledged : Acknowledgement :=
  ⟨"s1", "r1", "p1", "n1", "workspace.read_only", none, "k1"⟩

/-- Two acknowledgements are numbered before either is stored. -/
def acknowledgedTwice : List AppendAction :=
  [.acknowledgeWarning readOnlyAcknowledged,
    .acknowledgeWarning readOnlyAcknowledged,
    .run 1 ⟨"x1", "y1", 1⟩,
    .run 1 ⟨"x2", "y2", 2⟩,
    .run 0 ⟨"x3", "y3", 3⟩,
    .run 0 ⟨"x4", "y4", 4⟩,
    .run 0 ⟨"x5", "y5", 5⟩]

/-- Core has given the number two to the expiry of the runtime, and the Node's next number is two.
    Two acknowledgements at once are both numbered one: the second is left with a number that the
    first has stored. -/
theorem resumed_refused :
    (∃ s, run (Appends.step 3600) { db := twoNodes } expiredThenResumed = some s ∧
      s.Offers "n1" resumed ∧
      acceptNodeEvent s.db resumed "m2" =
        .error (.badRequest "event.seq_conflict" "Event seq conflicts with x3")) ∧
    ∃ s, run (Appends.step 3600) { db := twoNodes } acknowledgedTwice = some s ∧
      s.calls = [.acknowledge readOnlyAcknowledged 1 1 2] ∧
      ¬ NumberFree s.db.events (scopeKey (.session "s1")) 1 := by
  constructor
  · refine ⟨_, rfl, ⟨⟨⟨"r1", rfl, rfl⟩, rfl, rfl, nofun⟩, by decide, by decide, ?_⟩, by rfl⟩
    intro n hn
    rcases List.mem_cons.mp hn with h | h
    · cases h
      decide
    · cases h
  · refine ⟨_, rfl, rfl, fun hfree => ?_⟩
    exact hfree _ (List.mem_singleton.mpr rfl) ⟨rfl, rfl⟩

/-- `NumbersApart` for a list of actions without approvals, as a test. -/
def numbersApart (s : Appends) : AppendAction → Bool
  | .deliver _ event _ =>
    (s.db.events.rows.all fun r =>
      r.scopeKey != scopeKey event.scopeRef || r.seq != event.seq) &&
    event.kind != .approvalRequested &&
    s.calls.all fun c => c.held != some (scopeKey event.scopeRef, event.seq)
  | .run position draw =>
    (s.calls[position]?.bind fun call => call.event 3600 draw).all fun event =>
      (s.calls.eraseIdx position).all fun c => c.held != some (scopeKey event.scopeRef, event.seq)
  | _ => true

theorem numbersApart_sound (s : Appends) (a : AppendAction) (h : numbersApart s a = true) :
    NumbersApart 3600 s a := by
  cases a with
  | deliver nodeId event messageId =>
    simp only [numbersApart, Bool.and_eq_true, List.all_eq_true, Bool.or_eq_true, bne_iff_ne] at h
    obtain ⟨⟨hfree, hkind⟩, hheld⟩ := h
    refine ⟨fun _ => ⟨fun r hr hkey hseq => ?_, fun hsecond => hkind hsecond.1⟩, fun _ _ _ => hheld⟩
    rcases hfree r hr with hne | hne
    · exact absurd hkey hne
    · exact absurd hseq hne
  | run position draw =>
    intro call hcall event hevent c hc
    simp only [numbersApart, hcall, Option.bind_some, hevent, Option.all_some, List.all_eq_true,
      bne_iff_ne] at h
    exact h c hc
  | _ => trivial

/-- The same expiry, and a Node whose next number is three. -/
theorem appends_notRefused_pastTheExpiry :
    Meets (Appends.step 3600) (NotRefused 3600) { db := twoNodes }
      (expiredThenResumed ++ [.deliver "n1" { resumed with seq := 3 } "m2"]) := by
  refine appends_notRefused 3600 rfl ?_ (meets_of_check (fun _ => True)
    (fun _ _ _ _ _ => trivial) (fun s a _ => numbersApart_sound s a) trivial ?_)
  · intro r hr
    cases hr
  · decide

end Uprava.Core
