/-
  File:      Uprava/Core/SessionStream.lean
  Subject:   `session_stream`: subscribers of a session's events, the drains that publish the
             outbox to them, and whether a subscriber is left without an event.

  A subscriber receives what is broadcast from the moment it subscribes, loads the events that are
  recorded, passes those on, and then passes on what was broadcast to it, each event whose number
  is above all it has passed on before. What it drops it never receives again.

  * `Subscriber.future`: what a subscriber will have received once it has read all it was sent.
  * `Follows`: the events of the session above the subscriber's start are its future, then what the
    drain that is running still has for it, then what waits in the outbox.
  * `follows_step`: a step keeps that, unless it starts a drain whose order is not the order of the
    numbers for a subscriber that is waiting for these events (`DrainsInOrder`).
-/
import Uprava.Core.Publication

namespace Uprava.Core

open Uprava.Protocol
open Uprava.Lib (Table run run_inv_of_meets Meets meets_of_check peak advance peak_append
  peak_cases peak_advance le_peak key_le_peak peak_eq_of_le advance_cons advance_append
  advance_eq_nil)
open Uprava.Lib.Table

/-! ## 1. Subscribers -/

/-- Where a stream is: its own drain is to come, or done; it has loaded the events; it is over. -/
inductive StreamPhase where
  | subscribed | drained | streaming | ended
  deriving DecidableEq

/-- `broadcast::channel(256)`. -/
def broadcastCapacity : Nat := 256

structure Subscriber where
  sessionId : SessionThreadId
  afterSeq : Int
  phase : StreamPhase := .subscribed
  /-- What was broadcast since it subscribed and is not read yet. -/
  queue : List EventEnvelope := []
  /-- More was broadcast than the channel holds. -/
  lagged : Bool := false
  /-- What it has loaded and not passed on yet. -/
  backlog : List EventEnvelope := []
  lastSeq : Int
  received : List EventEnvelope := []
  /-- It was sent `uprava.reload`. -/
  reloaded : Bool := false
  deriving DecidableEq

namespace Subscriber

/-- `state.event_tx.subscribe()`. -/
def start (sessionId : SessionThreadId) (afterSeq : Int) : Subscriber where
  sessionId
  afterSeq
  lastSeq := afterSeq

/-- A broadcast: the oldest message goes when the channel is full. -/
def push (event : EventEnvelope) (x : Subscriber) : Subscriber :=
  if x.phase = .ended then x
  else if broadcastCapacity ≤ x.queue.length then
    { x with queue := x.queue.tail ++ [event], lagged := true }
  else { x with queue := x.queue ++ [event] }

/-- `load_events`, after the subscriber's drain. -/
def load (events : Table EventRow) (x : Subscriber) : Subscriber :=
  { x with phase := .streaming, backlog := loadEvents events x.sessionId x.afterSeq }

/-- The next step of the stream: an event it has loaded, or the next message of its channel. -/
def receive (x : Subscriber) : Subscriber :=
  match x.backlog, x.queue with
  | event :: backlog, _ =>
    { x with
      backlog
      lastSeq := max x.lastSeq (sessionEventCursor event)
      received := x.received ++ [event] }
  | [], queue =>
    if x.lagged then { x with phase := .ended, reloaded := true }
    else
      match queue with
      | [] => x
      | event :: queue =>
        if inSession x.sessionId event && decide (x.lastSeq < sessionEventCursor event) then
          { x with queue, lastSeq := sessionEventCursor event, received := x.received ++ [event] }
        else { x with queue }

/-- What is broadcast of its session and not read yet. -/
def mail (x : Subscriber) : List EventEnvelope := x.queue.filter (inSession x.sessionId)

/-- What it will have received once it has read all it was sent. -/
def future (x : Subscriber) : List EventEnvelope :=
  x.received ++ x.backlog ++ advance sessionEventCursor (peak sessionEventCursor x.lastSeq x.backlog)
    x.mail

/-- Its cursor then. -/
def top (x : Subscriber) : Int :=
  peak sessionEventCursor (peak sessionEventCursor x.lastSeq x.backlog) x.mail

end Subscriber

/-! ## 2. Drains -/

/-- Who called a drain: an acceptance, which holds the ingest lock until it is done, a call that
    holds no lock, or a subscriber that is about to load. -/
inductive DrainCaller where
  | ingest
  | call
  | subscriber (position : Nat)
  deriving DecidableEq

/-- A drain that has the publish lock: the rows it still has to send, and the row it has sent and
    not marked yet. -/
structure Drain where
  caller : DrainCaller
  left : List PublicationRow
  sent : Option EventId := none
  deriving DecidableEq

/-- Core, the calls that append events, and the streams. -/
structure Streams where
  db : Database
  calls : List AppendCall := []
  /-- An acceptance holds the ingest lock. -/
  ingest : Bool := false
  /-- The rows of the outbox with a `published_at`. -/
  published : List EventId := []
  drain : Option Drain := none
  subscribers : List Subscriber := []

inductive StreamAction where
  /-- A Node's event arrives. -/
  | deliver (nodeId : NodeId) (event : EventEnvelope) (messageId : MessageId)
  /-- Core starts to append. -/
  | expireIdle
  | acknowledgeWarning (a : Acknowledgement)
  | note (note : SessionNote)
  /-- The call at a position runs its next step. -/
  | run (position : Nat) (draw : Draw)
  /-- The acceptance that holds the ingest lock ends before it drains. -/
  | release
  | startDrain (caller : DrainCaller)
  /-- The drain runs its next statement, or ends when it has sent all. -/
  | drainNext
  /-- The drain fails, or its caller goes away. -/
  | stopDrain
  | subscribe (sessionId : SessionThreadId) (afterSeq : Int)
  | load (position : Nat)
  | receive (position : Nat)
  /-- The client goes away. -/
  | close (position : Nat)
  /-- Core does something else, which records no event. -/
  | other (db : Database)

/-- Does the next step of the call accept an event? -/
def AppendCall.ingests : AppendCall → Bool
  | expire .. | appendNote .. => true
  | _ => false

namespace Streams

def update (s : Streams) (position : Nat) (f : Subscriber → Subscriber) : Streams :=
  { s with subscribers := s.subscribers.modify position f }

/-- The drain is over: its caller goes on. -/
def endDrain (s : Streams) (caller : DrainCaller) : Streams :=
  match caller with
  | .ingest => { s with drain := none, ingest := false }
  | .call => { s with drain := none }
  | .subscriber position =>
    update { s with drain := none } position fun x =>
      if x.phase = .subscribed then { x with phase := .drained } else x

/-- The drain failed: the acceptance returns, the stream is not opened. -/
def failDrain (s : Streams) (caller : DrainCaller) : Streams :=
  match caller with
  | .ingest => { s with drain := none, ingest := false }
  | .call => { s with drain := none }
  | .subscriber position =>
    update { s with drain := none } position fun x =>
      if x.phase = .subscribed then { x with phase := .ended } else x

/-- May the caller start a drain? -/
def mayDrain (s : Streams) : DrainCaller → Bool
  | .ingest => s.ingest
  | .call => true
  | .subscriber position => (s.subscribers[position]?).any fun x => x.phase == .subscribed

/-- The next statement of a drain: the mark of the row it has sent, or the next send. A send fails
    when nobody receives; its row stays in the outbox. -/
def drainStep (s : Streams) (d : Drain) : Streams :=
  match d.sent, d.left with
  | some eventId, _ =>
    { s with published := eventId :: s.published, drain := some { d with sent := none } }
  | none, [] => s.endDrain d.caller
  | none, row :: left =>
    if s.subscribers.all (fun x => x.phase == .ended) then
      { s with drain := some { d with left } }
    else
      { s with
        subscribers := s.subscribers.map (.push row.event)
        drain := some { d with left, sent := some row.eventId } }

variable (runtimeExpirySeconds : Int)

def step (s : Streams) : StreamAction → Option Streams
  | .deliver nodeId event messageId =>
    if s.ingest then none
    else
      match validateEventOwner s.db nodeId event, acceptNodeEvent s.db event messageId with
      | .ok (), .ok db => some { s with db, ingest := true }
      | _, _ => some s
  | .expireIdle => some { s with calls := .selectIdle :: s.calls }
  | .acknowledgeWarning a => some { s with calls := .numberAcknowledgement a :: s.calls }
  | .note note => some { s with calls := .numberNote note :: s.calls }
  | .run position draw =>
    match s.calls[position]? with
    | none => none
    | some call =>
      -- an id that is drawn is new, and an acceptance waits for the ingest lock
      if (findEvent? s.db.events draw.eventId).isSome || (call.ingests && s.ingest) then none
      else
        let (db, rest) := call.step runtimeExpirySeconds s.db draw
        some { s with
          db, calls := rest.toList ++ s.calls.eraseIdx position, ingest := s.ingest || call.ingests }
  | .release => some (if s.drain.any (·.caller == .ingest) then s else { s with ingest := false })
  | .startDrain caller =>
    if s.drain.isSome || !s.mayDrain caller then none
    else some { s with drain := some ⟨caller, pendingPublications s.db.publications s.published,
      none⟩ }
  | .drainNext => s.drain.map s.drainStep
  | .stopDrain => s.drain.map fun d => s.failDrain d.caller
  | .subscribe sessionId afterSeq =>
    some { s with subscribers := s.subscribers ++ [.start sessionId afterSeq] }
  | .load position =>
    match s.subscribers[position]? with
    | none => none
    | some x => if x.phase = .drained then some (s.update position (.load s.db.events)) else none
  | .receive position =>
    match s.subscribers[position]? with
    | none => none
    | some x => if x.phase = .streaming then some (s.update position .receive) else none
  | .close position => some (s.update position fun x => { x with phase := .ended })
  | .other db =>
    if db.events = s.db.events ∧ db.publications = s.db.publications then some { s with db }
    else none

/-! ## 3. What is claimed of a state, and when it holds -/

/-- The event is in the outbox and not marked. -/
def Waits (publications : Table PublicationRow) (published : List EventId)
    (event : EventEnvelope) : Prop :=
  ∃ p ∈ publications.rows, p.event = event ∧ p.eventId ∉ published

/-- **A subscriber is left without no event**: what it has received is what a query for the events
    above its start returns, from the first on; and what it has not received and will not receive
    from what it was sent is still in the outbox. -/
structure Served (s : Streams) (x : Subscriber) : Prop where
  /-- Each event once, in the order of the numbers, none left out. -/
  received : x.received <+: loadEvents s.db.events x.sessionId x.afterSeq
  ascending : x.received.Pairwise fun a b => sessionEventCursor a < sessionEventCursor b
  /-- Nothing is lost on the way. -/
  rest : x.phase = .streaming → x.lagged = false →
    ∃ rest, loadEvents s.db.events x.sessionId x.afterSeq = x.future ++ rest ∧
      ∀ e ∈ rest, Waits s.db.publications s.published e

/-- The events of a drain that a subscriber has neither loaded nor been sent. -/
def drainFor (x : Subscriber) (left : List PublicationRow) : List EventEnvelope :=
  (left.map (·.event)).filter fun e =>
    inSession x.sessionId e && decide (x.top < sessionEventCursor e)

/-- **A drain that starts has, for every stream that is connected and not behind, the events of its
    session that it waits for in the order of their numbers.** -/
def DrainsInOrder (s : Streams) : StreamAction → Prop
  | .startDrain _ => ∀ x ∈ s.subscribers, x.phase = .streaming → x.lagged = false →
      (drainFor x (pendingPublications s.db.publications s.published)).Pairwise fun a b =>
        sessionEventCursor a < sessionEventCursor b
  | _ => True

/-! ## 4. The invariant of one subscriber -/

/-- What a drain still has for a subscriber. -/
def toCome (x : Subscriber) (drain : Option Drain) : List EventEnvelope :=
  (drain.map fun d => drainFor x d.left).getD []

/-- The event is not the one the drain has sent and not marked. -/
def NotSent (drain : Option Drain) (event : EventEnvelope) : Prop :=
  ∀ d, drain = some d → d.sent ≠ some event.eventId

/-- **The events above a subscriber's start are those it will have received, then those the drain
    has for it, then those that wait.** -/
structure Follows (db : Database) (published : List EventId) (drain : Option Drain)
    (x : Subscriber) : Prop where
  start : x.phase = .subscribed ∨ x.phase = .drained →
    x.received = [] ∧ x.backlog = [] ∧ x.lastSeq = x.afterSeq
  last : x.lastSeq = peak sessionEventCursor x.afterSeq x.received
  inOrder : x.received ++ x.backlog <+: loadEvents db.events x.sessionId x.afterSeq
  queue : ∀ e ∈ x.queue, ∃ r ∈ db.events.rows, r.event = e
  rest : x.phase = .streaming → x.lagged = false →
    ∃ rest, loadEvents db.events x.sessionId x.afterSeq = x.future ++ toCome x drain ++ rest ∧
      ∀ e ∈ toCome x drain ++ rest, Waits db.publications published e ∧ NotSent drain e

/-- The cursor is the largest number of what will have been received. -/
theorem top_eq {x : Subscriber} (h : x.lastSeq = peak sessionEventCursor x.afterSeq x.received) :
    x.top = peak sessionEventCursor x.afterSeq x.future := by
  unfold Subscriber.top Subscriber.future
  rw [peak_append, peak_append, ← h, peak_advance]

theorem le_top_of_mem_future {x : Subscriber}
    (h : x.lastSeq = peak sessionEventCursor x.afterSeq x.received) {e : EventEnvelope}
    (he : e ∈ x.future) : sessionEventCursor e ≤ x.top := by
  rw [top_eq h]
  exact key_le_peak sessionEventCursor he

theorem afterSeq_le_top {x : Subscriber}
    (h : x.lastSeq = peak sessionEventCursor x.afterSeq x.received) : x.afterSeq ≤ x.top := by
  rw [top_eq h]
  exact le_peak sessionEventCursor _ _

/-- What comes after the future of a subscriber is above its cursor. -/
theorem top_lt_of_mem_rest {x : Subscriber} {log rest : List EventEnvelope}
    (hlast : x.lastSeq = peak sessionEventCursor x.afterSeq x.received)
    (hlog : log = x.future ++ rest)
    (hascending : log.Pairwise fun a b => sessionEventCursor a < sessionEventCursor b)
    (hafter : ∀ e ∈ log, x.afterSeq < sessionEventCursor e) {e : EventEnvelope} (he : e ∈ rest) :
    x.top < sessionEventCursor e := by
  subst hlog
  rw [top_eq hlast]
  rcases peak_cases sessionEventCursor x.afterSeq x.future with hpeak | ⟨e', he', hpeak⟩
  · rw [hpeak]
    exact hafter e (List.mem_append_right _ he)
  · rw [← hpeak]
    exact (List.pairwise_append.mp hascending).2.2 e' he' e he

/-- **What a message in its channel means to a subscriber**: it comes next if it is above the
    cursor, and is dropped else. -/
theorem future_push {x : Subscriber} {event : EventEnvelope} (hphase : x.phase ≠ .ended)
    (hroom : (x.push event).lagged = false) :
    (x.push event).future = x.future ++
      (if inSession x.sessionId event && decide (x.top < sessionEventCursor event) then [event]
        else []) ∧
    (x.push event).top = max x.top
      (if inSession x.sessionId event then sessionEventCursor event else x.top) := by
  unfold Subscriber.push at hroom ⊢
  rw [if_neg hphase] at hroom ⊢
  split at hroom
  · cases hroom
  · rename_i hfull
    rw [if_neg hfull]
    unfold Subscriber.future Subscriber.top Subscriber.mail
    cases hs : inSession x.sessionId event with
    | false =>
      simp [List.filter_append, hs]
    | true =>
      rw [List.filter_append, List.filter_singleton]
      simp only [hs, cond_true]
      rw [advance_append, peak_append, ← List.append_assoc]
      refine ⟨?_, rfl⟩
      congr 1
      rw [advance_cons]
      simp [advance]

/-! ## 5. What a step does to a subscriber -/

section Follow

variable {db : Database} {published : List EventId} {drain : Option Drain} {x : Subscriber}

theorem Follows.commits {db' : Database} (h : Follows db published drain x) (hlog : Logged db)
    (hc : Commits db db')
    (hmarks : ∀ id ∈ published, ∃ p ∈ db.publications.rows, p.eventId = id)
    (hsent : ∀ d id, drain = some d → d.sent = some id →
      ∃ p ∈ db.publications.rows, p.eventId = id) :
    Follows db' published drain x := by
  have hwaits : ∀ {e : EventEnvelope}, Waits db.publications published e →
      Waits db'.publications published e := fun ⟨p, hp, he, hid⟩ =>
    ⟨p, hc.publications_subset hp, he, hid⟩
  have hload := loadEvents_commits hlog hc x.sessionId x.afterSeq
  refine ⟨h.start, h.last, h.inOrder.trans ?_, fun e he => ?_, fun hphase hlagged => ?_⟩
  · rcases hload with hsame | ⟨event, -, hadd⟩
    · simp only [hsame, List.prefix_refl]
    · rw [hadd]
      exact List.prefix_append _ _
  · obtain ⟨r, hr, hre⟩ := h.queue e he
    exact ⟨r, hc.events_subset hr, hre⟩
  · obtain ⟨rest, hrest, hwait⟩ := h.rest hphase hlagged
    rcases hload with hsame | ⟨event, ⟨p, hp, hpe, hnew⟩, hadd⟩
    · exact ⟨rest, hsame.trans hrest, fun e he => (hwait e he).imp_left hwaits⟩
    · refine ⟨rest ++ [event], ?_, fun e he => ?_⟩
      · rw [hadd, hrest, List.append_assoc]
      · rw [← List.append_assoc] at he
        rcases List.mem_append.mp he with he | he
        · exact (hwait e he).imp_left hwaits
        · obtain rfl := List.mem_singleton.mp he
          refine ⟨⟨p, hp, hpe, fun hmark => ?_⟩, fun d hd hid => ?_⟩
          · obtain ⟨p', hp', hid⟩ := hmarks _ hmark
            exact hnew p' hp' hid
          · obtain ⟨p', hp', hid'⟩ := hsent d _ hd hid
            refine hnew p' hp' (hid'.trans ?_)
            rw [((hlog.commits hc).recorded p hp).1, hpe]

/-- A drain that goes away leaves its events waiting. -/
theorem Follows.dropDrain (h : Follows db published drain x) : Follows db published none x := by
  refine ⟨h.start, h.last, h.inOrder, h.queue, fun hphase hlagged => ?_⟩
  obtain ⟨rest, hrest, hwait⟩ := h.rest hphase hlagged
  refine ⟨toCome x drain ++ rest, ?_, fun e he => ⟨(hwait e he).1, fun d hd => (by cases hd)⟩⟩
  rw [hrest, List.append_assoc, List.append_assoc]
  rfl

/-- The mark takes the event that was sent, which nobody waits for. -/
theorem Follows.mark {d : Drain} {eventId : EventId} (h : Follows db published (some d) x)
    (hlog : Logged db) (hsent : d.sent = some eventId) :
    Follows db (eventId :: published) (some { d with sent := none }) x := by
  refine ⟨h.start, h.last, h.inOrder, h.queue, fun hphase hlagged => ?_⟩
  obtain ⟨rest, hrest, hwait⟩ := h.rest hphase hlagged
  refine ⟨rest, hrest, fun e he => ⟨?_, fun d' hd' => (by cases hd'; exact fun h => by cases h)⟩⟩
  obtain ⟨⟨p, hp, hpe, hid⟩, hnot⟩ := hwait e he
  refine ⟨p, hp, hpe, fun hmem => ?_⟩
  rcases List.mem_cons.mp hmem with hmem | hmem
  · refine hnot d rfl ?_
    rw [hsent, ← hmem, (hlog.recorded p hp).1, hpe]
  · exact hid hmem

/-- A stream that is over follows whatever the drain does. -/
theorem Follows.ended {published' : List EventId} {drain' : Option Drain}
    (h : Follows db published drain x) (hphase : x.phase = .ended) :
    Follows db published' drain' x := by
  refine ⟨h.start, h.last, h.inOrder, h.queue, fun hstreaming => ?_⟩
  rw [hphase] at hstreaming
  cases hstreaming

/-- **A drain that starts in the order of the numbers has all that waits, in that order.** -/
theorem Follows.startDrain {caller : DrainCaller} (h : Follows db published none x)
    (hlog : Logged db)
    (horder : x.phase = .streaming → x.lagged = false →
      (drainFor x (pendingPublications db.publications published)).Pairwise fun a b =>
        sessionEventCursor a < sessionEventCursor b) :
    Follows db published (some ⟨caller, pendingPublications db.publications published, none⟩) x := by
  refine ⟨h.start, h.last, h.inOrder, h.queue, fun hphase hlagged => ?_⟩
  obtain ⟨rest, hrest, hwait⟩ := h.rest hphase hlagged
  have hrest : loadEvents db.events x.sessionId x.afterSeq = x.future ++ rest := by
    rw [hrest, show toCome x none = [] from rfl, List.append_nil]
  have hascending := loadEvents_ascending hlog x.sessionId x.afterSeq
  have hmem : ∀ {e : EventEnvelope}, e ∈ drainFor x (pendingPublications db.publications published)
      ↔ e ∈ rest := by
    intro e
    constructor
    · intro he
      obtain ⟨he, hcond⟩ := List.mem_filter.mp he
      obtain ⟨hsession, htop⟩ := Bool.and_eq_true_iff.mp hcond
      obtain ⟨p, hp, rfl⟩ := List.mem_map.mp he
      have hp := (List.mem_filter.mp ((List.mem_insertionSort _).mp hp)).1
      obtain ⟨-, r, hr, hre⟩ := hlog.recorded p hp
      have hlt := of_decide_eq_true htop
      have hload : p.event ∈ loadEvents db.events x.sessionId x.afterSeq :=
        (mem_loadEvents hlog).mpr ⟨⟨r, hr, hre⟩, beq_iff_eq.mp hsession,
          lt_of_le_of_lt (afterSeq_le_top h.last) hlt⟩
      rw [hrest] at hload
      refine (List.mem_append.mp hload).resolve_left fun hfuture => ?_
      exact absurd (le_top_of_mem_future h.last hfuture) (not_le.mpr hlt)
    · intro he
      obtain ⟨⟨p, hp, rfl, hid⟩, -⟩ := hwait e he
      have hload : p.event ∈ loadEvents db.events x.sessionId x.afterSeq := by
        rw [hrest]
        exact List.mem_append_right _ he
      have hlt := top_lt_of_mem_rest h.last hrest hascending
        (fun e he => ((mem_loadEvents hlog).mp he).2.2) he
      refine List.mem_filter.mpr ⟨List.mem_map_of_mem ((List.mem_insertionSort _).mpr
        (List.mem_filter.mpr ⟨hp, by simpa using hid⟩)), ?_⟩
      refine Bool.and_eq_true_iff.mpr ⟨?_, decide_eq_true hlt⟩
      exact beq_iff_eq.mpr ((mem_loadEvents hlog).mp hload).2.1
  have hascendingRest := (List.pairwise_append.mp (hrest ▸ hascending)).2.1
  have hsame : drainFor x (pendingPublications db.publications published) = rest := by
    have hstrict : ∀ {l : List EventEnvelope}, (l.Pairwise fun a b =>
        sessionEventCursor a < sessionEventCursor b) → l.Nodup := fun hl =>
      hl.imp fun hab he => absurd (he ▸ hab) (lt_irrefl _)
    refine List.Perm.eq_of_pairwise (fun a b _ _ hab hba => absurd hab (not_lt.mpr (le_of_lt hba)))
      (horder hphase hlagged) hascendingRest ?_
    exact (List.perm_ext_iff_of_nodup (hstrict (horder hphase hlagged))
      (hstrict hascendingRest)).mpr fun e => hmem
  refine ⟨[], ?_, fun e he => ⟨?_, fun d hd => (by cases hd; exact fun h => by cases h)⟩⟩
  · rw [hrest, List.append_nil]
    exact congrArg _ hsame.symm
  · rw [List.append_nil] at he
    exact (hwait e (hmem.mp he)).1

theorem push_same (event : EventEnvelope) (x : Subscriber) :
    (x.push event).phase = x.phase ∧ (x.push event).received = x.received ∧
      (x.push event).backlog = x.backlog ∧ (x.push event).lastSeq = x.lastSeq ∧
      (x.push event).afterSeq = x.afterSeq ∧ (x.push event).sessionId = x.sessionId := by
  unfold Subscriber.push
  split
  · exact ⟨rfl, rfl, rfl, rfl, rfl, rfl⟩
  · split <;> exact ⟨rfl, rfl, rfl, rfl, rfl, rfl⟩

theorem mem_queue_push {event e : EventEnvelope} (he : e ∈ (x.push event).queue) :
    e ∈ x.queue ∨ e = event := by
  unfold Subscriber.push at he
  split at he
  · exact Or.inl he
  · split at he
    · exact (List.mem_append.mp he).imp List.mem_of_mem_tail List.mem_singleton.mp
    · exact (List.mem_append.mp he).imp_right List.mem_singleton.mp

theorem lagged_push {event : EventEnvelope} (h : (x.push event).lagged = false) :
    x.lagged = false := by
  unfold Subscriber.push at h
  split at h
  · exact h
  · split at h
    · cases h
    · exact h

/-- **A broadcast of the drain's next row**: what it was for a subscriber, the subscriber now has;
    what is left for it keeps its order. -/
theorem Follows.push {d : Drain} {row : PublicationRow} {left : List PublicationRow}
    (h : Follows db published (some d) x) (hlog : Logged db) (hleft : d.left = row :: left)
    (hrow : row ∈ db.publications.rows) :
    Follows db published (some { d with left, sent := some row.eventId }) (x.push row.event) := by
  obtain ⟨hphase, hreceived, hbacklog, hlast, hafter, hsession⟩ := push_same row.event x
  obtain ⟨hid, r, hr, hre⟩ := hlog.recorded row hrow
  refine ⟨?_, ?_, ?_, fun e he => ?_, fun hstreaming hroom => ?_⟩
  · rw [hphase, hreceived, hbacklog, hlast, hafter]
    exact h.start
  · rw [hlast, hafter, hreceived]
    exact h.last
  · rw [hreceived, hbacklog, hsession, hafter]
    exact h.inOrder
  · rcases mem_queue_push he with he | rfl
    · exact h.queue e he
    · exact ⟨r, hr, hre⟩
  · rw [hphase] at hstreaming
    obtain ⟨rest, hrest, hwait⟩ := h.rest hstreaming (lagged_push hroom)
    have hascending := loadEvents_ascending hlog x.sessionId x.afterSeq
    have habove : ∀ e ∈ toCome x (some d) ++ rest, x.top < sessionEventCursor e := fun e he =>
      top_lt_of_mem_rest h.last (hrest.trans (List.append_assoc ..)) hascending
        (fun e he => ((mem_loadEvents hlog).mp he).2.2) he
    have hlogged : ∀ e ∈ toCome x (some d) ++ rest,
        (∃ r ∈ db.events.rows, r.event = e) ∧ e.sessionThreadId = some x.sessionId := fun e he => by
      have hload : e ∈ loadEvents db.events x.sessionId x.afterSeq := by
        rw [hrest, List.append_assoc]
        exact List.mem_append_right _ he
      exact ⟨((mem_loadEvents hlog).mp hload).1, ((mem_loadEvents hlog).mp hload).2.1⟩
    -- the events are apart by their ids
    have hsame : ∀ e ∈ toCome x (some d) ++ rest, row.eventId = e.eventId → e = row.event := by
      intro e he hide
      obtain ⟨⟨r', hr', hre'⟩, -⟩ := hlogged e he
      have hids : r'.event.eventId = r.event.eventId := by rw [hre', hre, ← hid, hide]
      rw [← hre', ← hre, hlog.eq_of_id hr' hr hids]
    obtain ⟨hfuture, htop⟩ := (@future_push _ row.event)
      (by rw [hstreaming]; exact fun h => by cases h) hroom
    have hdrain : ∀ y : Subscriber, y.sessionId = x.sessionId →
        toCome y (some { d with left, sent := some row.eventId }) =
          (left.map (·.event)).filter fun e =>
            inSession x.sessionId e && decide (y.top < sessionEventCursor e) := by
      intro y hy
      show drainFor y left = _
      unfold drainFor
      rw [hy]
    have hcome : toCome x (some d) =
        (if inSession x.sessionId row.event && decide (x.top < sessionEventCursor row.event) then
          [row.event] else []) ++ drainFor x left := by
      show drainFor x d.left = _
      unfold drainFor
      rw [hleft, List.map_cons, List.filter_cons]
      split <;> rfl
    rw [hsession, hafter, hdrain _ hsession, hfuture]
    by_cases hmatch : (inSession x.sessionId row.event &&
        decide (x.top < sessionEventCursor row.event)) = true
    · obtain ⟨hin, hlt⟩ := Bool.and_eq_true_iff.mp hmatch
      have hlt := of_decide_eq_true hlt
      rw [if_pos hmatch] at hcome
      rw [if_pos hmatch, htop, if_pos hin, max_eq_right (le_of_lt hlt)]
      rw [hcome] at hrest hwait habove hsame hlogged
      have hafterRow : ∀ e ∈ drainFor x left ++ rest,
          sessionEventCursor row.event < sessionEventCursor e := by
        intro e he
        rw [hrest, List.append_assoc, List.append_assoc] at hascending
        have htail := (List.pairwise_append.mp hascending).2.1
        exact (List.pairwise_cons.mp htail).1 e he
      have hleftover : ((left.map (·.event)).filter fun e => inSession x.sessionId e &&
          decide (sessionEventCursor row.event < sessionEventCursor e)) = drainFor x left := by
        refine List.filter_congr fun e he => ?_
        cases hine : inSession x.sessionId e with
        | false => rfl
        | true =>
          refine decide_eq_decide.mpr ⟨fun hgt => lt_trans hlt hgt, fun hgt => ?_⟩
          refine hafterRow e (List.mem_append_left _ (List.mem_filter.mpr ⟨he, ?_⟩))
          exact Bool.and_eq_true_iff.mpr ⟨hine, decide_eq_true hgt⟩
      rw [hleftover]
      refine ⟨rest, ?_, fun e he => ⟨?_, fun d' hd' hide => ?_⟩⟩
      · rw [hrest]
        simp only [List.append_assoc]
      · refine (hwait e ?_).1
        rw [List.append_assoc]
        exact List.mem_append_right _ he
      · cases hd'
        have hmem : e ∈ [row.event] ++ drainFor x left ++ rest := by
          rw [List.append_assoc]
          exact List.mem_append_right _ he
        have he' := hsame e hmem (Option.some.inj hide)
        exact absurd (he' ▸ hafterRow e he) (lt_irrefl _)
    · rw [if_neg hmatch, List.nil_append] at hcome
      rw [if_neg hmatch, List.append_nil]
      have htop' : (x.push row.event).top = x.top := by
        rw [htop]
        split
        · rename_i hin
          refine max_eq_left (not_lt.mp fun hlt => hmatch ?_)
          exact Bool.and_eq_true_iff.mpr ⟨hin, decide_eq_true hlt⟩
        · exact max_self _
      rw [htop']
      rw [hcome] at hrest hwait habove hsame hlogged
      refine ⟨rest, hrest, fun e he => ⟨(hwait e he).1, fun d' hd' hide => ?_⟩⟩
      cases hd'
      have he' := hsame e he (Option.some.inj hide)
      refine hmatch (Bool.and_eq_true_iff.mpr ⟨?_, ?_⟩)
      · rw [← he']
        exact beq_iff_eq.mpr (hlogged e he).2
      · rw [← he']
        exact decide_eq_true (habove e he)

/-- **What a subscriber loads is all there is**: nothing that was sent or is being sent is new. -/
theorem Follows.load (h : Follows db published drain x) (hlog : Logged db)
    (hphase : x.phase = .drained)
    (hdrain : ∀ d, drain = some d → ∀ p ∈ d.left, p ∈ db.publications.rows) :
    Follows db published drain (x.load db.events) := by
  obtain ⟨hreceived, -, hlast⟩ := h.start (Or.inr hphase)
  -- an event of the session is not above the largest number that is loaded, or the start
  have hbelow : ∀ e : EventEnvelope, (∃ r ∈ db.events.rows, r.event = e) →
      inSession x.sessionId e = true → sessionEventCursor e ≤
        peak sessionEventCursor x.lastSeq (loadEvents db.events x.sessionId x.afterSeq) := by
    intro e he hin
    rcases lt_or_ge x.afterSeq (sessionEventCursor e) with hlt | hle
    · exact key_le_peak sessionEventCursor
        ((mem_loadEvents hlog).mpr ⟨he, beq_iff_eq.mp hin, hlt⟩)
    · rw [← hlast] at hle
      exact le_trans hle (le_peak sessionEventCursor _ _)
  have hmail : ∀ e ∈ x.mail, sessionEventCursor e ≤
      peak sessionEventCursor x.lastSeq (loadEvents db.events x.sessionId x.afterSeq) := by
    intro e he
    obtain ⟨he, hin⟩ := List.mem_filter.mp he
    exact hbelow e (h.queue e he) hin
  have htop : (x.load db.events).top =
      peak sessionEventCursor x.lastSeq (loadEvents db.events x.sessionId x.afterSeq) :=
    peak_eq_of_le sessionEventCursor hmail
  refine ⟨fun hstart => ?_, h.last, ?_, h.queue, fun _ _ => ⟨[], ?_, ?_⟩⟩
  · rcases hstart with hstart | hstart <;> cases hstart
  · show x.received ++ loadEvents db.events x.sessionId x.afterSeq <+: _
    rw [hreceived]
    exact List.prefix_refl _
  all_goals
    have hcome : toCome (x.load db.events) drain = [] := by
      cases drain with
      | none => rfl
      | some d =>
        refine List.filter_eq_nil_iff.mpr fun e he hcond => ?_
        obtain ⟨hin, hlt⟩ := Bool.and_eq_true_iff.mp hcond
        obtain ⟨p, hp, rfl⟩ := List.mem_map.mp he
        obtain ⟨-, hrecorded⟩ := hlog.recorded p (hdrain d rfl p hp)
        refine absurd (of_decide_eq_true hlt) (not_lt.mpr ?_)
        rw [htop]
        exact hbelow p.event hrecorded hin
  · have hdropped : advance sessionEventCursor (peak sessionEventCursor x.lastSeq
        (loadEvents db.events x.sessionId x.afterSeq)) x.mail = [] :=
      advance_eq_nil sessionEventCursor hmail
    rw [hcome, List.append_nil, List.append_nil]
    show _ = x.received ++ loadEvents db.events x.sessionId x.afterSeq ++
      advance sessionEventCursor (peak sessionEventCursor x.lastSeq
        (loadEvents db.events x.sessionId x.afterSeq)) x.mail
    rw [hdropped, hreceived, List.append_nil]
    rfl
  · rw [hcome]
    exact fun e he => by cases he

/-- The ways a read goes. -/
inductive ReadCase (x : Subscriber) : Subscriber → Prop
  | loaded (event : EventEnvelope) (rest : List EventEnvelope) (backlog : x.backlog = event :: rest) :
      ReadCase x { x with
        backlog := rest
        lastSeq := max x.lastSeq (sessionEventCursor event)
        received := x.received ++ [event] }
  | reload (backlog : x.backlog = []) (lagged : x.lagged = true) :
      ReadCase x { x with phase := .ended, reloaded := true }
  | idle : ReadCase x x
  | passedOn (event : EventEnvelope) (rest : List EventEnvelope) (backlog : x.backlog = [])
      (lagged : x.lagged = false) (queue : x.queue = event :: rest)
      (session : inSession x.sessionId event = true) (above : x.lastSeq < sessionEventCursor event) :
      ReadCase x { x with
        queue := rest
        lastSeq := sessionEventCursor event
        received := x.received ++ [event] }
  | dropped (event : EventEnvelope) (rest : List EventEnvelope) (backlog : x.backlog = [])
      (queue : x.queue = event :: rest)
      (notNext : inSession x.sessionId event = true → sessionEventCursor event ≤ x.lastSeq) :
      ReadCase x { x with queue := rest }

theorem receive_cases (x : Subscriber) : ReadCase x x.receive := by
  unfold Subscriber.receive
  split
  · rename_i event rest hbacklog
    exact .loaded event rest hbacklog
  · rename_i hbacklog
    split
    · rename_i hlagged
      exact .reload hbacklog hlagged
    · rename_i hlagged
      split
      · exact .idle
      · rename_i event rest hqueue
        split
        · rename_i hnext
          obtain ⟨hin, hlt⟩ := Bool.and_eq_true_iff.mp hnext
          exact .passedOn event rest hbacklog (by simpa using hlagged) hqueue hin
            (of_decide_eq_true hlt)
        · rename_i hnext
          refine .dropped event rest hbacklog hqueue fun hin => not_lt.mp fun hlt => hnext ?_
          exact Bool.and_eq_true_iff.mpr ⟨hin, decide_eq_true hlt⟩

/-- **Reading changes nothing of what a subscriber will have received.** -/
theorem ReadCase.future {y : Subscriber} (h : ReadCase x y) :
    y.future = x.future ∧ y.top = x.top := by
  cases h with
  | reload | idle => exact ⟨rfl, rfl⟩
  | loaded event rest hbacklog =>
    unfold Subscriber.future Subscriber.top
    rw [hbacklog]
    refine ⟨?_, rfl⟩
    show x.received ++ [event] ++ rest ++ _ = x.received ++ event :: rest ++ _
    rw [List.append_assoc x.received [event] rest]
    rfl
  | passedOn event rest hbacklog _ hqueue hin hlt =>
    unfold Subscriber.future Subscriber.top Subscriber.mail
    rw [hbacklog, hqueue, List.filter_cons_of_pos hin]
    show x.received ++ [event] ++ [] ++ advance _ (sessionEventCursor event) _ =
      x.received ++ [] ++ advance _ x.lastSeq (event :: _) ∧
        peak _ (sessionEventCursor event) _ = peak _ (max x.lastSeq (sessionEventCursor event)) _
    rw [advance_cons, if_pos hlt, max_eq_right (le_of_lt hlt), List.append_nil, List.append_nil,
      List.append_assoc]
    exact ⟨rfl, rfl⟩
  | dropped event rest hbacklog hqueue hnot =>
    unfold Subscriber.future Subscriber.top Subscriber.mail
    rw [hbacklog, hqueue]
    cases hin : inSession x.sessionId event with
    | false =>
      rw [List.filter_cons_of_neg (by simp [hin])]
      exact ⟨rfl, rfl⟩
    | true =>
      rw [List.filter_cons_of_pos hin]
      show x.received ++ [] ++ advance _ x.lastSeq _ =
        x.received ++ [] ++ advance _ x.lastSeq (event :: _) ∧
          peak _ x.lastSeq _ = peak _ (max x.lastSeq (sessionEventCursor event)) _
      rw [advance_cons, if_neg (not_lt.mpr (hnot hin)), max_eq_left (hnot hin)]
      exact ⟨rfl, rfl⟩

/-- What a drain has for a subscriber depends on its session and its cursor. -/
theorem toCome_congr {y : Subscriber} (hsession : y.sessionId = x.sessionId) (htop : y.top = x.top)
    (drain : Option Drain) : toCome y drain = toCome x drain := by
  unfold toCome drainFor
  rw [hsession, htop]

theorem Follows.receive (h : Follows db published drain x) (hphase : x.phase = .streaming) :
    Follows db published drain x.receive := by
  have hcase := receive_cases x
  obtain ⟨hfuture, htop⟩ := hcase.future
  have hrest : ∀ {y : Subscriber}, y.sessionId = x.sessionId → y.afterSeq = x.afterSeq →
      y.future = x.future → y.top = x.top → x.lagged = false →
      ∃ rest, loadEvents db.events y.sessionId y.afterSeq = y.future ++ toCome y drain ++ rest ∧
        ∀ e ∈ toCome y drain ++ rest, Waits db.publications published e ∧ NotSent drain e := by
    intro y hsession hafter hfuture htop hlagged
    rw [toCome_congr hsession htop, hsession, hafter, hfuture]
    exact h.rest hphase hlagged
  have hstarted : ¬ (x.phase = .subscribed ∨ x.phase = .drained) := by
    rw [hphase]
    rintro (h | h) <;> cases h
  generalize x.receive = y at hcase hfuture htop
  cases hcase with
  | idle => exact h
  | reload =>
    refine ⟨fun hstart => ?_, h.last, h.inOrder, h.queue, fun hstreaming => by cases hstreaming⟩
    rcases hstart with hstart | hstart <;> cases hstart
  | loaded event rest hbacklog =>
    refine ⟨fun hstart => absurd hstart hstarted, ?_, ?_, h.queue,
      fun _ hlagged => hrest rfl rfl hfuture htop hlagged⟩
    · show max x.lastSeq (sessionEventCursor event) =
        peak sessionEventCursor x.afterSeq (x.received ++ [event])
      rw [peak_append, ← h.last]
      rfl
    · have hinOrder := h.inOrder
      rw [hbacklog] at hinOrder
      show x.received ++ [event] ++ rest <+: _
      rw [List.append_assoc]
      exact hinOrder
  | passedOn event rest hbacklog hlagged hqueue hin hlt =>
    refine ⟨fun hstart => absurd hstart hstarted, ?_, ?_, fun e he => ?_,
      fun _ hlagged => hrest rfl rfl hfuture htop hlagged⟩
    · show sessionEventCursor event = peak sessionEventCursor x.afterSeq (x.received ++ [event])
      rw [peak_append, ← h.last]
      exact (max_eq_right (le_of_lt hlt)).symm
    · -- the event is the next of the future, which is what the query returns first
      obtain ⟨rest', hload, -⟩ := h.rest hphase hlagged
      have hnext : x.future = x.received ++ [event] ++
          advance sessionEventCursor (sessionEventCursor event)
            (rest.filter (inSession x.sessionId)) := by
        unfold Subscriber.future Subscriber.mail
        rw [hbacklog, hqueue, List.filter_cons_of_pos hin, Lib.peak_nil, advance_cons, if_pos hlt,
          List.append_nil, List.append_assoc]
        rfl
      show x.received ++ [event] ++ x.backlog <+: _
      rw [hbacklog, List.append_nil, hload, hnext, List.append_assoc, List.append_assoc]
      exact List.prefix_append _ _
    · refine h.queue e ?_
      rw [hqueue]
      exact List.mem_cons_of_mem _ he
  | dropped event rest hbacklog hqueue hnot =>
    refine ⟨fun hstart => absurd hstart hstarted, h.last, h.inOrder, fun e he => ?_,
      fun _ hlagged => hrest rfl rfl hfuture htop hlagged⟩
    refine h.queue e ?_
    rw [hqueue]
    exact List.mem_cons_of_mem _ he

/-- A new subscriber has nothing yet. -/
theorem follows_start (sessionId : SessionThreadId) (afterSeq : Int) :
    Follows db published drain (.start sessionId afterSeq) :=
  ⟨fun _ => ⟨rfl, rfl, rfl⟩, rfl, List.nil_prefix, fun e he => (by cases he),
    fun hphase => (by cases hphase)⟩

/-- A phase before the stream, or after it. -/
theorem Follows.setPhase {phase : StreamPhase} (h : Follows db published drain x)
    (hphase : phase = .ended ∨ x.phase = .subscribed ∧ phase = .drained) :
    Follows db published drain { x with phase } := by
  refine ⟨fun hstart => ?_, h.last, h.inOrder, h.queue, fun hstreaming => ?_⟩
  · rcases hphase with rfl | ⟨hold, rfl⟩
    · rcases hstart with hstart | hstart <;> cases hstart
    · exact h.start (Or.inl hold)
  · rcases hphase with rfl | ⟨-, rfl⟩ <;> cases hstreaming

end Follow

/-! ## 6. The invariant of the system -/

/-- The session number a call has read for an acknowledgement. -/
def AppendCall.readNumber : AppendCall → Option (SessionThreadId × Int)
  | .acknowledge a _ _ sessionProjectionSeq => some (a.sessionThreadId, sessionProjectionSeq)
  | _ => none

structure Sound (s : Streams) : Prop where
  logged : Logged s.db
  numbers : ∀ c ∈ s.calls, ∀ session n, AppendCall.readNumber c = some (session, n) →
    NumberRead s.db.events session n
  marks : ∀ id ∈ s.published, ∃ p ∈ s.db.publications.rows, p.eventId = id
  sent : ∀ d id, s.drain = some d → d.sent = some id → ∃ p ∈ s.db.publications.rows, p.eventId = id
  left : ∀ d, s.drain = some d → ∀ p ∈ d.left, p ∈ s.db.publications.rows
  follows : ∀ x ∈ s.subscribers, Follows s.db s.published s.drain x

/-- **A transaction keeps the invariant.** -/
theorem Sound.commits {s : Streams} (h : s.Sound) {db : Database} (hc : Commits s.db db)
    {calls : List AppendCall} (ingest : Bool)
    (hcalls : ∀ c ∈ calls, c ∈ s.calls ∨ ∀ session n, AppendCall.readNumber c = some (session, n) →
      NumberRead db.events session n) :
    Sound { s with db, calls, ingest } where
  logged := h.logged.commits hc
  numbers c hc' session n hn := by
    rcases hcalls c hc' with hold | hnew
    · exact (h.numbers c hold session n hn).commits hc
    · exact hnew session n hn
  marks id hid := by
    obtain ⟨p, hp, he⟩ := h.marks id hid
    exact ⟨p, hc.publications_subset hp, he⟩
  sent d id hd hid := by
    obtain ⟨p, hp, he⟩ := h.sent d id hd hid
    exact ⟨p, hc.publications_subset hp, he⟩
  left d hd p hp := hc.publications_subset (h.left d hd p hp)
  follows x hx := (h.follows x hx).commits h.logged hc h.marks h.sent

/-- A call that starts has read no number. -/
theorem Sound.startCall {s : Streams} (h : s.Sound) {call : AppendCall}
    (hcall : AppendCall.readNumber call = none) : Sound { s with calls := call :: s.calls } := by
  refine h.commits (.nothing rfl rfl) s.ingest fun c hc => ?_
  rcases List.mem_cons.mp hc with rfl | hc
  · refine Or.inr fun session n hn => ?_
    rw [hcall] at hn
    cases hn
  · exact Or.inl hc

/-- **A step of a call commits, and a number it reads is the next one.** -/
theorem AppendCall.step_commits {runtimeExpirySeconds : Int} {db db' : Database}
    {call : AppendCall} {draw : Draw} {rest : Option AppendCall} (h : Logged db)
    (hread : ∀ session n, AppendCall.readNumber call = some (session, n) →
      NumberRead db.events session n)
    (hstep : call.step runtimeExpirySeconds db draw = (db', rest)) :
    Commits db db' ∧ ∀ c ∈ rest, ∀ session n, AppendCall.readNumber c = some (session, n) →
      NumberRead db'.events session n := by
  have hnone : ∀ {c : AppendCall}, AppendCall.readNumber c = none → ∀ session n,
      AppendCall.readNumber c = some (session, n) → NumberRead db'.events session n := by
    intro c hc session n hn
    rw [hc] at hn
    cases hn
  cases call with
  | selectIdle =>
    rw [Core.AppendCall.step] at hstep
    split at hstep
    · cases hstep
      exact ⟨.nothing rfl rfl, fun c hc => (by cases hc)⟩
    · cases hstep
      exact ⟨.nothing rfl rfl, fun c hc => (by cases hc; exact hnone rfl)⟩
  | numberExpired now rows =>
    cases rows <;> cases hstep
    · exact ⟨.nothing rfl rfl, fun c hc => (by cases hc)⟩
    · exact ⟨.nothing rfl rfl, fun c hc => (by cases hc; exact hnone rfl)⟩
  | expire now idle seq rows =>
    rw [Core.AppendCall.step] at hstep
    split at hstep
    · rename_i db₁ haccept
      cases hstep
      exact ⟨commits_acceptNodeEvent h haccept, fun c hc => (by cases hc; exact hnone rfl)⟩
    · cases hstep
      exact ⟨.nothing rfl rfl, fun c hc => (by cases hc)⟩
  | numberAcknowledgement a =>
    cases hstep
    exact ⟨.nothing rfl rfl, fun c hc => (by cases hc; exact hnone rfl)⟩
  | numberInSession a happenedAt seq =>
    cases hstep
    refine ⟨.nothing rfl rfl, fun c hc session n hn => ?_⟩
    cases hc
    cases hn
    exact Or.inl rfl
  | acknowledge a happenedAt seq sessionProjectionSeq =>
    rw [Core.AppendCall.step] at hstep
    split at hstep
    · rename_i db₁ hinsert
      cases hstep
      exact ⟨commits_insertWarningAcknowledgement h (hread _ _ rfl) hinsert,
        fun c hc => (by cases hc)⟩
    · cases hstep
      exact ⟨.nothing rfl rfl, fun c hc => (by cases hc)⟩
  | numberNote note =>
    cases hstep
    exact ⟨.nothing rfl rfl, fun c hc => (by cases hc; exact hnone rfl)⟩
  | appendNote note seq =>
    rw [Core.AppendCall.step] at hstep
    split at hstep
    · rename_i db₁ haccept
      cases hstep
      exact ⟨commits_acceptNodeEvent h haccept, fun c hc => (by cases hc)⟩
    · cases hstep
      exact ⟨.nothing rfl rfl, fun c hc => (by cases hc)⟩

theorem mem_modify {l : List Subscriber} {position : Nat} {f : Subscriber → Subscriber}
    {x : Subscriber} (h : x ∈ l.modify position f) :
    x ∈ l ∨ ∃ y, l[position]? = some y ∧ x = f y := by
  obtain ⟨i, hi⟩ := List.mem_iff_getElem?.mp h
  by_cases hp : position = i
  · subst hp
    rw [List.getElem?_modify_eq] at hi
    obtain ⟨y, hy, hxy⟩ := Option.map_eq_some_iff.mp hi
    exact Or.inr ⟨y, hy, hxy.symm⟩
  · rw [List.getElem?_modify_ne f l hp] at hi
    exact Or.inl (List.mem_of_getElem? hi)

/-- A step that changes one subscriber. -/
theorem Sound.update {s : Streams} (h : s.Sound) {position : Nat} {f : Subscriber → Subscriber}
    (hf : ∀ x, s.subscribers[position]? = some x → Follows s.db s.published s.drain x →
      Follows s.db s.published s.drain (f x)) : (s.update position f).Sound := by
  refine ⟨h.logged, h.numbers, h.marks, h.sent, h.left, fun x hx => ?_⟩
  rcases mem_modify hx with hx | ⟨y, hy, rfl⟩
  · exact h.follows x hx
  · exact hf y hy (h.follows y (List.mem_of_getElem? hy))

/-- The drain goes away. -/
theorem Sound.dropDrain {s : Streams} (h : s.Sound) (ingest : Bool) :
    Sound { s with drain := none, ingest } :=
  ⟨h.logged, h.numbers, h.marks, fun d id hd => (by cases hd), fun d hd => (by cases hd),
    fun x hx => (h.follows x hx).dropDrain⟩

theorem Sound.endDrain {s : Streams} (h : s.Sound) (caller : DrainCaller) :
    (s.endDrain caller).Sound := by
  cases caller with
  | ingest => exact h.dropDrain false
  | call => exact h.dropDrain s.ingest
  | subscriber position =>
    refine (h.dropDrain s.ingest).update fun x _ hx => ?_
    split
    · rename_i hphase
      exact hx.setPhase (Or.inr ⟨hphase, rfl⟩)
    · exact hx

theorem Sound.failDrain {s : Streams} (h : s.Sound) (caller : DrainCaller) :
    (s.failDrain caller).Sound := by
  cases caller with
  | ingest => exact h.dropDrain false
  | call => exact h.dropDrain s.ingest
  | subscriber position =>
    refine (h.dropDrain s.ingest).update fun x _ hx => ?_
    split
    · exact hx.setPhase (Or.inl rfl)
    · exact hx

/-- **The next statement of a drain keeps the invariant.** -/
theorem Sound.drainStep {s : Streams} {d : Drain} (h : s.Sound) (hd : s.drain = some d) :
    (s.drainStep d).Sound := by
  have hfollows : ∀ x ∈ s.subscribers, Follows s.db s.published (some d) x := fun x hx =>
    hd ▸ h.follows x hx
  unfold Streams.drainStep
  split
  · rename_i eventId hsent
    refine ⟨h.logged, h.numbers, fun id hid => ?_, fun d' id hd' hid => ?_, fun d' hd' => ?_,
      fun x hx => (hfollows x hx).mark h.logged hsent⟩
    · rcases List.mem_cons.mp hid with rfl | hid
      · exact h.sent d _ hd hsent
      · exact h.marks id hid
    · cases hd'
      cases hid
    · cases hd'
      exact h.left d hd
  · exact h.endDrain d.caller
  · rename_i row left hsent hleft
    have hmem : ∀ p ∈ row :: left, p ∈ s.db.publications.rows := hleft ▸ h.left d hd
    split
    · rename_i hnobody
      refine ⟨h.logged, h.numbers, h.marks, fun d' id hd' hid => ?_, fun d' hd' p hp => ?_,
        fun x hx => ?_⟩
      · cases hd'
        exact h.sent d id hd hid
      · cases hd'
        exact hmem p (List.mem_cons_of_mem row hp)
      · exact (hfollows x hx).ended (beq_iff_eq.mp (List.all_eq_true.mp hnobody x hx))
    · refine ⟨h.logged, h.numbers, h.marks, fun d' id hd' hid => ?_, fun d' hd' p hp => ?_,
        fun x hx => ?_⟩
      · cases hd'
        cases hid
        exact ⟨row, hmem row List.mem_cons_self, rfl⟩
      · cases hd'
        exact hmem p (List.mem_cons_of_mem row hp)
      · obtain ⟨y, hy, rfl⟩ := List.mem_map.mp hx
        exact (hfollows y hy).push h.logged hleft (hmem row List.mem_cons_self)

section Step

variable {runtimeExpirySeconds : Int}

/-- **A step keeps the invariant, when a drain that starts is in the order of the numbers for those
    who wait.** -/
theorem sound_step {s t : Streams} {a : StreamAction} (h : s.Sound) (hC : s.DrainsInOrder a)
    (hstep : s.step runtimeExpirySeconds a = some t) : t.Sound := by
  cases a with
  | deliver nodeId event messageId =>
    rw [step] at hstep
    split at hstep
    · cases hstep
    · split at hstep
      · rename_i db _ haccept
        cases hstep
        exact h.commits (commits_acceptNodeEvent h.logged haccept) true fun c hc => Or.inl hc
      · cases hstep
        exact h
  | expireIdle =>
    cases hstep
    exact h.startCall rfl
  | acknowledgeWarning w =>
    cases hstep
    exact h.startCall rfl
  | note note =>
    cases hstep
    exact h.startCall rfl
  | run position draw =>
    rw [step] at hstep
    split at hstep
    · cases hstep
    · rename_i call hcall
      split at hstep
      · cases hstep
      · cases hcs : call.step runtimeExpirySeconds s.db draw with
        | mk db rest =>
          rw [hcs] at hstep
          cases hstep
          obtain ⟨hc, hrest⟩ := AppendCall.step_commits h.logged
            (h.numbers call (List.mem_of_getElem? hcall)) hcs
          refine h.commits hc _ fun c hc => ?_
          rcases List.mem_append.mp hc with hc | hc
          · exact Or.inr (hrest c (Option.mem_toList.mp hc))
          · exact Or.inl (List.mem_of_mem_eraseIdx hc)
  | release =>
    cases hstep
    split
    · exact h
    · exact h.commits (.nothing rfl rfl) false fun c hc => Or.inl hc
  | startDrain caller =>
    rw [step] at hstep
    split at hstep
    · cases hstep
    · rename_i hmay
      cases hstep
      have hnone : s.drain = none := by
        cases hd : s.drain with
        | none => rfl
        | some d => simp [hd] at hmay
      refine ⟨h.logged, h.numbers, h.marks, fun d id hd hid => ?_, fun d hd p hp => ?_,
        fun x hx => ?_⟩
      · cases hd
        cases hid
      · cases hd
        exact (List.mem_filter.mp ((List.mem_insertionSort _).mp hp)).1
      · have hfollows := h.follows x hx
        rw [hnone] at hfollows
        exact hfollows.startDrain h.logged (hC x hx)
  | drainNext =>
    obtain ⟨d, hd, rfl⟩ := Option.map_eq_some_iff.mp hstep
    exact h.drainStep hd
  | stopDrain =>
    obtain ⟨d, -, rfl⟩ := Option.map_eq_some_iff.mp hstep
    exact h.failDrain d.caller
  | subscribe sessionId afterSeq =>
    cases hstep
    refine ⟨h.logged, h.numbers, h.marks, h.sent, h.left, fun x hx => ?_⟩
    rcases List.mem_append.mp hx with hx | hx
    · exact h.follows x hx
    · obtain rfl := List.mem_singleton.mp hx
      exact follows_start sessionId afterSeq
  | load position =>
    rw [step] at hstep
    split at hstep
    · cases hstep
    · rename_i x hx
      split at hstep
      · rename_i hphase
        cases hstep
        refine h.update fun y hy hfollows => ?_
        obtain rfl : x = y := Option.some.inj (hx.symm.trans hy)
        exact hfollows.load h.logged hphase h.left
      · cases hstep
  | receive position =>
    rw [step] at hstep
    split at hstep
    · cases hstep
    · rename_i x hx
      split at hstep
      · rename_i hphase
        cases hstep
        refine h.update fun y hy hfollows => ?_
        obtain rfl : x = y := Option.some.inj (hx.symm.trans hy)
        exact hfollows.receive hphase
      · cases hstep
  | close position =>
    cases hstep
    exact h.update fun x _ hfollows => hfollows.setPhase (Or.inl rfl)
  | other db =>
    rw [step] at hstep
    split at hstep
    · rename_i hsame
      cases hstep
      exact h.commits (.nothing (congrArg Table.rows hsame.1) (congrArg Table.rows hsame.2)) s.ingest
        fun c hc => Or.inl hc
    · cases hstep

/-- What the invariant says of a subscriber. -/
theorem Sound.served {s : Streams} (h : s.Sound) {x : Subscriber} (hx : x ∈ s.subscribers) :
    s.Served x := by
  have hfollows := h.follows x hx
  have hreceived := (List.prefix_append _ _).trans hfollows.inOrder
  refine ⟨hreceived, (loadEvents_ascending h.logged _ _).sublist hreceived.sublist,
    fun hphase hlagged => ?_⟩
  obtain ⟨rest, hrest, hwait⟩ := hfollows.rest hphase hlagged
  exact ⟨toCome x s.drain ++ rest, by rw [hrest, List.append_assoc], fun e he => (hwait e he).1⟩

/-- **From a Core without events and without streams, along every run whose drains start in the
    order of the numbers for those who wait, no subscriber is left without an event.** -/
theorem subscribers_served {s t : Streams} {as : List StreamAction}
    (hevents : s.db.events = .empty) (hpublications : s.db.publications = .empty)
    (hcalls : s.calls = []) (hpublished : s.published = []) (hdrain : s.drain = none)
    (hsubscribers : s.subscribers = [])
    (hmeets : Meets (Streams.step runtimeExpirySeconds) DrainsInOrder s as)
    (hrun : run (Streams.step runtimeExpirySeconds) s as = some t) :
    ∀ x ∈ t.subscribers, t.Served x := by
  have hstart : s.Sound := by
    refine ⟨⟨?_, ?_, ?_, ?_, ?_, ?_⟩, ?_, ?_, ?_, ?_, ?_⟩
    all_goals simp [hevents, hpublications, hcalls, hpublished, hdrain, hsubscribers]
  have hsound : t.Sound := run_inv_of_meets Sound
    (fun s a t h hC hstep => sound_step h hC hstep) hstart hmeets hrun
  exact fun x hx => hsound.served hx

end Step

end Streams

/-! ## 7. An acknowledgement and a Node's event -/

/-- A stream of the session is open: it has drained and loaded, and there was nothing. -/
def openStream : List StreamAction :=
  [.subscribe "s1" 0, .startDrain (.subscriber 0), .drainNext, .load 0]

/-- A user acknowledges a warning at ten; the transaction commits outside the ingest lock. -/
def acknowledgedAtTen : List StreamAction :=
  [.acknowledgeWarning readOnlyAcknowledged, .run 0 ⟨"x1", "y1", 10⟩, .run 0 ⟨"x2", "y2", 10⟩,
    .run 0 ⟨"x3", "y3", 10⟩]

/-- An event that its Node dated one, which is before ten. -/
def readyAtOne : EventEnvelope := runtimeEvent "e1" 1 .runtimeReady (.runtimeReady {})

/-- The drain of the Node's event sends both, the later number first. -/
def drainBoth : List StreamAction :=
  [.drainNext, .drainNext, .drainNext, .drainNext, .drainNext, .receive 0, .receive 0]

/-- The acknowledgement is recorded first; the Node's event is accepted before it is drained. -/
def acknowledgedThenReady : List StreamAction :=
  openStream ++ acknowledgedAtTen ++ [.deliver "n1" readyAtOne "m1", .startDrain .ingest] ++
    drainBoth

/-- What a test sees of a stream: what it is, and what it has received. -/
def Subscriber.summary (x : Subscriber) : SessionThreadId × Int × List EventId :=
  (x.sessionId, x.afterSeq, x.received.map (·.eventId))

/-- What a test sees of a stream's end: nothing is left in its channel, and it was not reloaded. -/
def Subscriber.atRest (x : Subscriber) : Bool := x.queue.isEmpty && !x.lagged && !x.reloaded

/-- **The stream receives the event numbered two and never the one numbered one.** Nothing is left
    in its channel, and it was not sent `uprava.reload`. -/
theorem acknowledgement_lost :
    ∃ t, run (Streams.step 3600) { db := twoNodes } acknowledgedThenReady = some t ∧
      t.subscribers.map Subscriber.summary = [("s1", 0, ["e1"])] ∧
      t.subscribers.all Subscriber.atRest = true ∧
      (loadEvents t.db.events "s1" 0).map (·.eventId) = ["x3", "e1"] ∧
      ¬ ∀ x ∈ t.subscribers, t.Served x := by
  have hlost : ((run (Streams.step 3600) { db := twoNodes } acknowledgedThenReady).map fun t =>
      (t.subscribers.map Subscriber.summary, t.subscribers.all Subscriber.atRest,
        (loadEvents t.db.events "s1" 0).map (·.eventId))) =
      some ([("s1", 0, ["e1"])], true, ["x3", "e1"]) := by decide
  obtain ⟨t, hrun, hfacts⟩ := Option.map_eq_some_iff.mp hlost
  obtain ⟨hsummary, hfacts⟩ := Prod.ext_iff.mp hfacts
  obtain ⟨hrest, hload⟩ := Prod.ext_iff.mp hfacts
  have hload : (loadEvents t.db.events "s1" 0).map (·.eventId) = ["x3", "e1"] := hload
  refine ⟨t, hrun, hsummary, hrest, hload, fun hserved => ?_⟩
  obtain ⟨x, hx, hsum⟩ := List.map_eq_singleton_iff.mp hsummary
  obtain ⟨hsession, hafter, hreceived⟩ : x.sessionId = "s1" ∧ x.afterSeq = 0 ∧
      x.received.map (·.eventId) = ["e1"] := by simpa [Subscriber.summary] using hsum
  have hprefix := (hserved x (by simp [hx])).received.map (·.eventId)
  rw [hsession, hafter, hreceived, hload] at hprefix
  exact absurd hprefix (by decide)

/-- `DrainsInOrder`, as a test. -/
def drainsInOrder (s : Streams) : StreamAction → Bool
  | .startDrain _ => s.subscribers.all fun x => x.phase != .streaming || x.lagged ||
      decide ((Streams.drainFor x (pendingPublications s.db.publications s.published)).Pairwise
        fun a b => sessionEventCursor a < sessionEventCursor b)
  | _ => true

theorem drainsInOrder_sound (s : Streams) (a : StreamAction) (h : drainsInOrder s a = true) :
    s.DrainsInOrder a := by
  cases a with
  | startDrain caller =>
    intro x hx hphase hlagged
    have hx' := List.all_eq_true.mp h x hx
    simpa [hphase, hlagged] using hx'
  | _ => trivial

/-- The Node's event, with nothing beside it: it is received. -/
theorem subscribers_served_ready :
    ∃ t, run (Streams.step 3600) { db := twoNodes } (openStream ++
        [.deliver "n1" readyAtOne "m1", .startDrain .ingest, .drainNext, .drainNext, .drainNext,
          .receive 0]) = some t ∧
      t.subscribers.map Subscriber.summary = [("s1", 0, ["e1"])] ∧
      ∀ x ∈ t.subscribers, t.Served x := by
  have hreceived : ((run (Streams.step 3600) { db := twoNodes } (openStream ++
      [.deliver "n1" readyAtOne "m1", .startDrain .ingest, .drainNext, .drainNext, .drainNext,
        .receive 0])).map fun t => t.subscribers.map Subscriber.summary) =
      some [("s1", 0, ["e1"])] := by decide
  obtain ⟨t, hrun, hsummary⟩ := Option.map_eq_some_iff.mp hreceived
  refine ⟨t, hrun, hsummary, ?_⟩
  refine Streams.subscribers_served rfl rfl rfl rfl rfl rfl ?_ hrun
  exact meets_of_check (fun _ => True) (fun _ _ _ _ _ => trivial)
    (fun s a _ => drainsInOrder_sound s a) trivial (by decide)

end Uprava.Core
