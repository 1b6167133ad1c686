/-
  File:      Uprava/Core/Order.lean
  Subject:   The events of one runtime in the order they arrive and in the order of their numbers:
             when both leave the same projection.

  `accept_node_event` projects an event when it first arrives, whatever its number: the state of
  the runtime, the state of a turn and the resume reference are registers, and the last arrival
  that writes one decides it. An event beyond the next number of the scope also writes the
  runtime's state, which becomes `stale`. An event that arrives again writes nothing.
  `arrivals` computes from the deliveries alone which of them count and which come after a gap;
  `projection_agrees_iff` compares the last writes of two orders.
-/
import Uprava.Core.Ingest
import Uprava.Lib.LastWrite

namespace Uprava.Core

open Uprava.Protocol
open Uprava.Lib (Table lastWrite read_foldl foldl_fixed)
open Uprava.Lib.Table

/-! ## 1. Deliveries -/

/-- Each event is delivered in turn, and each delivery is accepted. -/
def acceptAll : Database → List (EventEnvelope × MessageId) → Except AppError Database
  | db, [] => .ok db
  | db, (event, messageId) :: rest => do
    let db ← acceptNodeEvent db event messageId
    acceptAll db rest

/-- The first delivery of an event, and the number the scope expected if the event's is larger. -/
structure Arrival where
  event : EventEnvelope
  gap : Option Int

/-- The largest number of a scope after an event. -/
def bumpSeq (maxSeq : Option Int) (seq : Int) : Option Int := some (maxSeq.elim seq (max · seq))

/-- The gap an event leaves behind the numbers so far. -/
def gapBefore (maxSeq : Option Int) (seq : Int) : Option Int :=
  if maxSeq.getD 0 + 1 < seq then some (maxSeq.getD 0 + 1) else none

/-- The deliveries that are first ones, with their gaps: `seen` are the ids so far and `maxSeq` is
    the largest number. -/
def arrivals : Option Int → List EventId → List EventEnvelope → List Arrival
  | _, _, [] => []
  | maxSeq, seen, event :: events =>
    if event.eventId ∈ seen then arrivals maxSeq seen events
    else
      ⟨event, gapBefore maxSeq event.seq⟩ ::
        arrivals (bumpSeq maxSeq event.seq) (event.eventId :: seen) events

/-! ## 2. What an arrival writes -/

/-- To the state of its runtime: `stale` after a gap, or the state of its kind. -/
def Arrival.runtimeState (a : Arrival) : Option RuntimeSessionState :=
  if a.gap.isSome then some .stale else (projectedStates a.event.kind).map (·.1)

/-- To the resume reference of its runtime: the one a `runtimeReady` carries. -/
def Arrival.resumeRef (a : Arrival) : Option (Option JsonValue) :=
  if a.event.kind = .runtimeReady then (eventProviderResumeRef a.event).map some else none

/-- To the state of a turn. -/
def Arrival.turnState (turnId : TurnId) (a : Arrival) : Option TurnState :=
  if a.event.turnId = some turnId then turnStateForEvent a.event else none

/-- The two lists of arrivals end in the same writes: of each runtime's state and resume
    reference, and of each turn's state. -/
structure SameLastWrites (db : Database) (runtimeSessionId : RuntimeSessionId)
    (as bs : List Arrival) : Prop where
  runtimeState : ∀ r ∈ db.runtimeSessions.rows, r.runtimeSessionId = runtimeSessionId →
    lastWrite r.state (as.map (·.runtimeState)) = lastWrite r.state (bs.map (·.runtimeState))
  resumeRef : ∀ r ∈ db.runtimeSessions.rows, r.runtimeSessionId = runtimeSessionId →
    lastWrite r.providerResumeRef (as.map (·.resumeRef)) =
      lastWrite r.providerResumeRef (bs.map (·.resumeRef))
  turnState : ∀ t ∈ db.turns.rows,
    lastWrite t.state (as.map (·.turnState t.turnId)) =
      lastWrite t.state (bs.map (·.turnState t.turnId))

/-- The two databases show the same runtimes and turns. -/
structure SameProjection (db db' : Database) : Prop where
  runtimes : db.runtimeSessions.rows.map (fun r => (r.runtimeSessionId, r.state,
      r.providerResumeRef)) =
    db'.runtimeSessions.rows.map fun r => (r.runtimeSessionId, r.state, r.providerResumeRef)
  turns : db.turns.rows.map (fun t => (t.turnId, t.state)) =
    db'.turns.rows.map fun t => (t.turnId, t.state)

theorem RuntimeRow.after_state {event : EventEnvelope} {gap : Option Int} {r : RuntimeRow}
    (h : event.runtimeSessionId = some r.runtimeSessionId) :
    (r.after event gap).state = ((⟨event, gap⟩ : Arrival).runtimeState).getD r.state := by
  cases gap with
  | some expectedSeq => simp [RuntimeRow.after, h, RuntimeRow.markGap, Arrival.runtimeState]
  | none =>
    simp only [RuntimeRow.after, RuntimeRow.projectOwn, h, if_true, Arrival.runtimeState,
      Option.isSome_none, Bool.false_eq_true, if_false]
    unfold RuntimeRow.project
    cases projectedStates event.kind with
    | none => rfl
    | some states =>
      obtain ⟨s, -⟩ := states
      dsimp only
      split
      · split <;> rfl
      · rfl

theorem RuntimeRow.after_resumeRef {event : EventEnvelope} {gap : Option Int} {r : RuntimeRow}
    (h : event.runtimeSessionId = some r.runtimeSessionId) :
    (r.after event gap).providerResumeRef =
      ((⟨event, gap⟩ : Arrival).resumeRef).getD r.providerResumeRef := by
  have hproject : (r.project event).providerResumeRef =
      ((⟨event, gap⟩ : Arrival).resumeRef).getD r.providerResumeRef := by
    unfold RuntimeRow.project Arrival.resumeRef
    by_cases hready : event.kind = .runtimeReady
    · simp only [hready, projectedStates, if_true]
      cases eventProviderResumeRef event <;> rfl
    · cases hstates : projectedStates event.kind with
      | none => simp [hready, RuntimeRow.touch]
      | some states => simp [hready, RuntimeRow.touch, RuntimeRow.setState]
  cases gap with
  | some expectedSeq =>
    rw [← hproject]
    simp [RuntimeRow.after, h, RuntimeRow.markGap]
  | none =>
    rw [← hproject]
    simp [RuntimeRow.after, RuntimeRow.projectOwn, h]

theorem TurnRow.project_state (event : EventEnvelope) (gap : Option Int) (t : TurnRow) :
    (t.project event).turnId = t.turnId ∧
      (t.project event).state = ((⟨event, gap⟩ : Arrival).turnState t.turnId).getD t.state := by
  unfold TurnRow.project Arrival.turnState
  cases turnStateForEvent event with
  | none => simp
  | some s =>
    by_cases h : event.turnId = some t.turnId
    · simp [h, TurnRow.setFromEvent]
    · simp [h]

/-! ## 3. What a delivery does -/

theorem max?_concat (l : List Int) (n : Int) : (l ++ [n]).max? = some (l.max?.elim n (max · n)) := by
  cases l with
  | nil => rfl
  | cons a l =>
    show some ((l ++ [n]).foldl max a) = some (max (l.foldl max a) n)
    rw [List.foldl_append]
    rfl

/-- What the completion of an event does to a row. -/
def EventRow.settle (event : EventEnvelope) (r : EventRow) : EventRow :=
  if r.eventId == event.eventId && r.projectionState != .projected then
    r.complete event.happenedAt
  else r

theorem EventRow.settle_keeps (event : EventEnvelope) (r : EventRow) :
    (r.settle event).eventId = r.eventId ∧ (r.settle event).scopeKey = r.scopeKey ∧
      (r.settle event).seq = r.seq := by
  unfold settle
  split <;> exact ⟨rfl, rfl, rfl⟩

/-- The projection an event's first delivery leaves, the number it adds and its record. -/
structure FirstDelivery (db : Database) (event : EventEnvelope) (db' : Database) : Prop where
  runtimeSessions : db'.runtimeSessions.rows =
    db.runtimeSessions.rows.map (.after event (streamGap db.events event))
  turns : db'.turns.rows = db.turns.rows.map (.project event)
  maxSeq : maxSeq db'.events (scopeKey event.scopeRef) =
    bumpSeq (maxSeq db.events (scopeKey event.scopeRef)) event.seq
  own : ∃ row, findEvent? db'.events event.eventId = some row ∧ row.projectionState = .projected
  others : ∀ id, id ≠ event.eventId → findEvent? db'.events id = findEvent? db.events id

/-- **The first delivery of an event.** -/
theorem firstDelivery_of_accept {db db' : Database} {event : EventEnvelope} {messageId : MessageId}
    (h : acceptNodeEvent db event messageId = .ok db')
    (hnew : findEvent? db.events event.eventId = none) : FirstDelivery db event db' := by
  obtain ⟨-, ⟨row, hrow, -⟩ | ⟨row, hrow, -⟩ | ⟨-, -, events, hevents, hp⟩⟩ := acceptNodeEvent_ok h
  · rw [hnew] at hrow
    cases hrow
  · rw [hnew] at hrow
    cases hrow
  have hrows : db'.events.rows = events.rows.map (.settle event) := by
    rw [hp.events]
    rfl
  have hfind : ∀ id, findEvent? db'.events id = ((findEvent? db.events id).or
      (if event.eventId == id then some (.recorded (prepareEvent db event)) else none)).map
        (.settle event) := by
    intro id
    have hmap := find?_map_rows (q := (·.eventId == id)) hrows fun r => by
      rw [(r.settle_keeps event).1]
    exact hmap.trans (by rw [find?_insert? hevents]; rfl)
  refine ⟨?_, ?_, ?_, ?_, fun id hid => ?_⟩
  · rw [hp.runtimeSessions, runtimesAfter_rows]
    cases streamGap db.events event <;> rfl
  · rw [hp.turns, updateTurnFromEvent_rows]
    rfl
  · have hseqs : (db'.events.select (·.scopeKey == scopeKey event.scopeRef)).map (·.seq) =
        (db.events.select (·.scopeKey == scopeKey event.scopeRef)).map (·.seq) ++ [event.seq] := by
      unfold Table.select
      rw [hrows, (insert?_eq_some.mp hevents).2, List.filter_map, List.map_map]
      have hkey : ((·.scopeKey == scopeKey event.scopeRef) ∘ EventRow.settle event) =
          (·.scopeKey == scopeKey event.scopeRef) := by
        funext r
        rw [Function.comp_apply, (r.settle_keeps event).2.1]
      have hseq : ((·.seq) ∘ EventRow.settle event) = (·.seq) := by
        funext r
        exact (r.settle_keeps event).2.2
      rw [hkey, hseq, List.filter_append, List.map_append]
      simp [EventRow.recorded, prepareEvent]
    unfold Core.maxSeq
    rw [hseqs, max?_concat]
    rfl
  · rw [hfind, hnew]
    simp [EventRow.recorded, prepareEvent, EventRow.settle, EventRow.complete]
  · rw [hfind, if_neg (by simpa using Ne.symm hid), Option.or_none]
    cases hrow : findEvent? db.events id with
    | none => rfl
    | some row =>
      have hrowId : row.eventId = id := by simpa using find?_pos hrow
      simp [EventRow.settle, hrowId, hid]

/-- A delivery of an event that is projected changes no row of the events, the runtimes and the
    turns. -/
theorem redelivery_of_accept {db db' : Database} {event : EventEnvelope} {messageId : MessageId}
    (h : acceptNodeEvent db event messageId = .ok db')
    (hold : ∃ row, findEvent? db.events event.eventId = some row ∧
      row.projectionState = .projected) :
    db'.events = db.events ∧ db'.runtimeSessions = db.runtimeSessions ∧ db'.turns = db.turns := by
  obtain ⟨row, hrow, hprojected⟩ := hold
  obtain ⟨-, ⟨row', -, -, rfl⟩ | ⟨row', hrow', hpending, -⟩ | ⟨hnone, -⟩⟩ := acceptNodeEvent_ok h
  · exact ⟨rfl, rfl, rfl⟩
  · obtain rfl : row = row' := Option.some.inj (hrow.symm.trans hrow')
    rw [hprojected] at hpending
    cases hpending
  · rw [hrow] at hnone
    cases hnone

/-! ## 4. What all deliveries do -/

/-- The step of a register: a row after one more arrival. -/
def RuntimeRow.arrive (r : RuntimeRow) (a : Arrival) : RuntimeRow := r.after a.event a.gap

def TurnRow.arrive (t : TurnRow) (a : Arrival) : TurnRow := t.project a.event

theorem streamGap_of_runtime {events : Table EventRow} {event : EventEnvelope}
    {id : RuntimeSessionId} (h : event.scopeRef = .runtime id) :
    streamGap events event = gapBefore (maxSeq events (scopeKey event.scopeRef)) event.seq := by
  unfold streamGap gapBefore nextSeq
  rw [h]

/-- **The rows after all deliveries**: each first delivery wrote once, in its turn. -/
theorem acceptAll_rows {id : RuntimeSessionId} {db db' : Database} {seen : List EventId}
    {deliveries : List (EventEnvelope × MessageId)} (h : acceptAll db deliveries = .ok db')
    (hscope : ∀ d ∈ deliveries, d.1.scopeRef = .runtime id)
    (hseen : ∀ e ∈ seen, ∃ row, findEvent? db.events e = some row ∧
      row.projectionState = .projected)
    (hnew : ∀ d ∈ deliveries, d.1.eventId ∉ seen → findEvent? db.events d.1.eventId = none) :
    db'.runtimeSessions.rows = db.runtimeSessions.rows.map (fun r =>
        (arrivals (maxSeq db.events (scopeKey (.runtime id))) seen (deliveries.map (·.1))).foldl
          .arrive r) ∧
      db'.turns.rows = db.turns.rows.map (fun t =>
        (arrivals (maxSeq db.events (scopeKey (.runtime id))) seen (deliveries.map (·.1))).foldl
          .arrive t) := by
  induction deliveries generalizing db seen with
  | nil =>
    cases h
    exact ⟨(List.map_id' _).symm, (List.map_id' _).symm⟩
  | cons d deliveries ih =>
    obtain ⟨event, messageId⟩ := d
    obtain ⟨db₁, haccept, hrest⟩ := bind_eq_ok.mp h
    have hscope' : ∀ d ∈ deliveries, d.1.scopeRef = .runtime id :=
      fun d hd => hscope d (List.mem_cons_of_mem _ hd)
    have hruntime : event.scopeRef = .runtime id := hscope _ List.mem_cons_self
    rw [List.map_cons, arrivals]
    by_cases hmem : event.eventId ∈ seen
    · rw [if_pos hmem]
      obtain ⟨hevents, hruntimes, hturns⟩ := redelivery_of_accept haccept (hseen _ hmem)
      have hall := @ih _ seen hrest hscope' (by rw [hevents]; exact hseen)
        (by rw [hevents]; exact fun d hd => hnew d (List.mem_cons_of_mem _ hd))
      rwa [hevents, hruntimes, hturns] at hall
    · rw [if_neg hmem]
      have hfirst := firstDelivery_of_accept haccept (hnew _ List.mem_cons_self hmem)
      have hgap := (@streamGap_of_runtime db.events) hruntime
      have hmax := hfirst.maxSeq
      rw [hruntime] at hgap hmax
      have hall := @ih _ (event.eventId :: seen) hrest hscope' ?_ ?_
      · rw [hmax, hfirst.runtimeSessions, hfirst.turns, List.map_map, List.map_map, hgap] at hall
        exact hall
      · intro e he
        by_cases hsame : e = event.eventId
        · rw [hsame]
          exact hfirst.own
        · rw [hfirst.others e hsame]
          exact hseen e ((List.mem_cons.mp he).resolve_left hsame)
      · intro d hd hnot
        obtain ⟨hne, hnot'⟩ := not_or.mp (List.mem_cons.not.mp hnot)
        rw [hfirst.others _ hne]
        exact hnew d (List.mem_cons_of_mem _ hd) hnot'

/-! ## 5. Two orders -/

theorem event_mem_of_arrivals {maxSeq : Option Int} {seen : List EventId}
    {events : List EventEnvelope} {a : Arrival} (h : a ∈ arrivals maxSeq seen events) :
    a.event ∈ events := by
  induction events generalizing maxSeq seen with
  | nil => cases h
  | cons event events ih =>
    rw [arrivals] at h
    split at h
    · exact List.mem_cons_of_mem _ (ih h)
    · rcases List.mem_cons.mp h with rfl | h
      · exact List.mem_cons_self
      · exact List.mem_cons_of_mem _ (ih h)

section Registers

variable {id : RuntimeSessionId} {as : List Arrival}

theorem arrive_runtimeId (r : RuntimeRow) :
    (as.foldl RuntimeRow.arrive r).runtimeSessionId = r.runtimeSessionId :=
  List.foldlRecOn (motive := fun r' => r'.runtimeSessionId = r.runtimeSessionId) as _ rfl
    fun r' h a _ => (RuntimeRow.after_id a.event a.gap r').1.trans h

/-- What a reader sees of a runtime after the arrivals. -/
theorem view_arrive (has : ∀ a ∈ as, a.event.runtimeSessionId = some id) {r : RuntimeRow}
    (hr : r.runtimeSessionId = id) :
    (as.foldl RuntimeRow.arrive r).state = lastWrite r.state (as.map (·.runtimeState)) ∧
      (as.foldl RuntimeRow.arrive r).providerResumeRef =
        lastWrite r.providerResumeRef (as.map (·.resumeRef)) := by
  have hkeep : ∀ r : RuntimeRow, ∀ a ∈ as, r.runtimeSessionId = id →
      (r.arrive a).runtimeSessionId = id :=
    fun r a _ h => (RuntimeRow.after_id a.event a.gap r).1.trans h
  have hown : ∀ r : RuntimeRow, ∀ a ∈ as, r.runtimeSessionId = id →
      a.event.runtimeSessionId = some r.runtimeSessionId := fun r a ha h => h ▸ has a ha
  constructor
  · exact (@read_foldl _ _ _ _ RuntimeRow.state) _ hkeep
      (fun r a ha h => RuntimeRow.after_state (hown r a ha h)) hr
  · exact (@read_foldl _ _ _ _ RuntimeRow.providerResumeRef) _ hkeep
      (fun r a ha h => RuntimeRow.after_resumeRef (hown r a ha h)) hr

/-- The other runtimes stay as they are. -/
theorem arrive_other (has : ∀ a ∈ as, a.event.runtimeSessionId = some id) {r : RuntimeRow}
    (hr : r.runtimeSessionId ≠ id) : as.foldl RuntimeRow.arrive r = r :=
  foldl_fixed fun a ha => RuntimeRow.after_of_ne fun h =>
    hr (Option.some.inj (h.symm.trans (has a ha)))

theorem turn_arrive (t : TurnRow) :
    (as.foldl TurnRow.arrive t).turnId = t.turnId ∧
      (as.foldl TurnRow.arrive t).state = lastWrite t.state (as.map (·.turnState t.turnId)) := by
  constructor
  · exact List.foldlRecOn (motive := fun t' : TurnRow => t'.turnId = t.turnId) as _ rfl
      fun t' h a _ => (t'.project_state a.event a.gap).1.trans h
  · refine (@read_foldl _ _ _ _ TurnRow.state) (·.turnId = t.turnId) ?_ ?_ rfl
    · exact fun t' a _ h => (TurnRow.project_state a.event a.gap t').1.trans h
    · intro t' a _ h
      rw [← h]
      exact (TurnRow.project_state a.event a.gap t').2

end Registers

/-- **Two sequences of accepted deliveries of events of one runtime leave the same projection if
    and only if their first deliveries end in the same writes.** In particular any order with any
    repetitions, and each event once in the order of the numbers. -/
theorem projection_agrees_iff {id : RuntimeSessionId} {db db₁ db₂ : Database}
    {deliveries inOrder : List (EventEnvelope × MessageId)}
    (hruntime : ∀ d ∈ deliveries ++ inOrder,
      d.1.scopeRef = .runtime id ∧ d.1.runtimeSessionId = some id)
    (hnew : ∀ d ∈ deliveries ++ inOrder, findEvent? db.events d.1.eventId = none)
    (h₁ : acceptAll db deliveries = .ok db₁) (h₂ : acceptAll db inOrder = .ok db₂) :
    SameProjection db₁ db₂ ↔
      SameLastWrites db id
        (arrivals (maxSeq db.events (scopeKey (.runtime id))) [] (deliveries.map (·.1)))
        (arrivals (maxSeq db.events (scopeKey (.runtime id))) [] (inOrder.map (·.1))) := by
  have hall := List.forall_mem_append.mp hruntime
  have hfresh := List.forall_mem_append.mp hnew
  obtain ⟨hruntimes₁, hturns₁⟩ := (@acceptAll_rows _ _ _ []) h₁ (fun d hd => (hall.1 d hd).1)
    (fun _ he => by cases he) (fun d hd _ => hfresh.1 d hd)
  obtain ⟨hruntimes₂, hturns₂⟩ := (@acceptAll_rows _ _ _ []) h₂ (fun d hd => (hall.2 d hd).1)
    (fun _ he => by cases he) (fun d hd _ => hfresh.2 d hd)
  have has : ∀ a ∈ arrivals (maxSeq db.events (scopeKey (.runtime id))) []
      (deliveries.map (·.1)), a.event.runtimeSessionId = some id := by
    intro a ha
    obtain ⟨d, hd, hevent⟩ := List.mem_map.mp (event_mem_of_arrivals ha)
    rw [← hevent]
    exact (hall.1 d hd).2
  have hbs : ∀ a ∈ arrivals (maxSeq db.events (scopeKey (.runtime id))) []
      (inOrder.map (·.1)), a.event.runtimeSessionId = some id := by
    intro a ha
    obtain ⟨d, hd, hevent⟩ := List.mem_map.mp (event_mem_of_arrivals ha)
    rw [← hevent]
    exact (hall.2 d hd).2
  generalize arrivals (maxSeq db.events (scopeKey (.runtime id))) [] (deliveries.map (·.1)) = as
    at hruntimes₁ hturns₁ has ⊢
  generalize arrivals (maxSeq db.events (scopeKey (.runtime id))) [] (inOrder.map (·.1)) = bs
    at hruntimes₂ hturns₂ hbs ⊢
  have hruntimes : (db₁.runtimeSessions.rows.map (fun r => (r.runtimeSessionId, r.state,
        r.providerResumeRef)) =
      db₂.runtimeSessions.rows.map fun r => (r.runtimeSessionId, r.state, r.providerResumeRef)) ↔
      ∀ r ∈ db.runtimeSessions.rows, r.runtimeSessionId = id →
        lastWrite r.state (as.map (·.runtimeState)) = lastWrite r.state (bs.map (·.runtimeState)) ∧
        lastWrite r.providerResumeRef (as.map (·.resumeRef)) =
          lastWrite r.providerResumeRef (bs.map (·.resumeRef)) := by
    rw [hruntimes₁, hruntimes₂, List.map_map, List.map_map, List.map_inj_left]
    refine forall₂_congr fun r _ => ?_
    simp only [Function.comp_apply, Prod.mk.injEq, arrive_runtimeId, true_and]
    by_cases hr : r.runtimeSessionId = id
    · rw [(view_arrive has hr).1, (view_arrive has hr).2, (view_arrive hbs hr).1,
        (view_arrive hbs hr).2]
      exact ⟨fun h _ => h, fun h => h hr⟩
    · rw [arrive_other has hr, arrive_other hbs hr]
      exact ⟨fun _ h => absurd h hr, fun _ => ⟨rfl, rfl⟩⟩
  have hturns : (db₁.turns.rows.map (fun t => (t.turnId, t.state)) =
      db₂.turns.rows.map fun t => (t.turnId, t.state)) ↔
      ∀ t ∈ db.turns.rows, lastWrite t.state (as.map (·.turnState t.turnId)) =
        lastWrite t.state (bs.map (·.turnState t.turnId)) := by
    rw [hturns₁, hturns₂, List.map_map, List.map_map, List.map_inj_left]
    refine forall₂_congr fun t _ => ?_
    simp only [Function.comp_apply, Prod.mk.injEq, (turn_arrive t).1, (turn_arrive t).2, true_and]
  constructor
  · intro h
    have hr := hruntimes.mp h.runtimes
    exact ⟨fun r hmem hid => (hr r hmem hid).1, fun r hmem hid => (hr r hmem hid).2,
      hturns.mp h.turns⟩
  · intro h
    exact ⟨hruntimes.mpr fun r hmem hid => ⟨h.runtimeState r hmem hid, h.resumeRef r hmem hid⟩,
      hturns.mpr h.turnState⟩

/-! ## 6. An event that is overtaken -/

/-- The runtime runs, then it is ready. -/
def overtakingEvents : List (EventEnvelope × MessageId) :=
  [("e1", 1, EventKind.runtimeRunning, EventPayload.runtimeRunning {}),
    ("e2", 2, .runtimeReady, .runtimeReady {})].map fun (eventId, seq, kind, payload) =>
      ({ eventId
         actorRef := .node "n1"
         scopeRef := .runtime "r1"
         nodeId := some "n1"
         runtimeSessionId := some "r1"
         sessionThreadId := some "s1"
         seq
         kind
         happenedAt := seq
         payload }, "m" ++ eventId)

/-- The second event arrives first and leaves the runtime stale; the first one arrives and leaves
    it running. In the order of the numbers the runtime is ready. -/
theorem overtaken_disagrees :
    (overtakingEvents.map (·.1)).Pairwise (·.seq < ·.seq) ∧
    ∃ db₁ db₂, acceptAll twoNodes overtakingEvents.reverse = .ok db₁ ∧
      acceptAll twoNodes overtakingEvents = .ok db₂ ∧ ¬ SameProjection db₁ db₂ := by
  refine ⟨by decide, _, _, rfl, rfl, fun h => ?_⟩
  exact absurd h.runtimes (by decide)

/-- The first event is delivered twice before the second. -/
theorem projection_agrees_iff_repeated :
    ∃ db₁ db₂, acceptAll twoNodes (overtakingEvents.take 1 ++ overtakingEvents) = .ok db₁ ∧
      acceptAll twoNodes overtakingEvents = .ok db₂ ∧
      (SameProjection db₁ db₂ ↔ SameLastWrites twoNodes "r1"
        (arrivals none [] ((overtakingEvents.take 1 ++ overtakingEvents).map (·.1)))
        (arrivals none [] (overtakingEvents.map (·.1)))) := by
  refine ⟨_, _, rfl, rfl, projection_agrees_iff ?_ ?_ rfl rfl⟩
  · decide
  · decide

end Uprava.Core
