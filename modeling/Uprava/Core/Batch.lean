/-
  File:      Uprava/Core/Batch.lean
  Subject:   A batch of events at Core: the loop that takes them one by one, the acknowledgement at
             its end, and when a batch makes progress.

  The loop stops at the first event that is refused and sends no acknowledgement then. So a batch
  makes progress when all of its events pass in turn and the acknowledgement can be queued, or when
  there was nothing to be gained from it in the first place. `batchProgress_iff` says that these are
  the only ways.
-/
import Mathlib.Algebra.GroupWithZero.Nat
import Uprava.Core.Connections
import Uprava.Core.Poison

namespace Uprava.Core

open Uprava.Protocol
open Uprava.Lib (Table run)
open Uprava.Lib.Table

/-! ## 1. What stays stored -/

/-- The event is recorded, whether projected or not. -/
def Stored (db : Database) (eventId : EventId) : Prop := (findEvent? db.events eventId).isSome

instance (db : Database) (eventId : EventId) : Decidable (Stored db eventId) :=
  inferInstanceAs (Decidable ((findEvent? db.events eventId).isSome = true))

/-- An update of events that keeps their ids stores and forgets nothing. -/
theorem isSome_findEvent?_update (events : Table EventRow) (p : EventRow → Bool)
    (f : EventRow → EventRow) (hf : KeepsKeys f) (hid : ∀ r, (f r).eventId = r.eventId)
    (id : EventId) :
    (findEvent? (events.update p f hf) id).isSome = (findEvent? events id).isSome := by
  have hfind := find?_update events p (·.eventId == id) f hf fun r => by rw [hid r]
  unfold findEvent?
  rw [hfind, Option.isSome_map]

/-- **An accepted event is stored from then on, and nothing else is.** -/
theorem stored_acceptNodeEvent {db db' : Database} {event : EventEnvelope} {messageId : MessageId}
    (h : acceptNodeEvent db event messageId = .ok db') (id : EventId) :
    Stored db' id ↔ Stored db id ∨ id = event.eventId := by
  have hcomplete : ∀ (events : Table EventRow) (e : EventEnvelope),
      (findEvent? (events.update (fun r => r.eventId == e.eventId && r.projectionState != .projected)
        (.complete e.happenedAt) ⟨fun _ _ => Iff.rfl⟩) id).isSome = (findEvent? events id).isSome :=
    fun events e => by
      rw [isSome_findEvent?_update]
      exact fun _ => rfl
  have hhas : ∀ row, findEvent? db.events event.eventId = some row →
      (Stored db id ↔ Stored db id ∨ id = event.eventId) := by
    intro row hrow
    constructor
    · exact Or.inl
    · rintro (hs | rfl)
      · exact hs
      · unfold Stored
        rw [hrow]
        rfl
  obtain ⟨-, ⟨row, hrow, -, rfl⟩ | ⟨row, hrow, -, hp⟩ | ⟨hnone, -, events, hevents, hp⟩⟩ :=
    acceptNodeEvent_ok h
  · exact hhas row hrow
  · rw [← hhas row hrow]
    unfold Stored
    rw [hp.events, hcomplete, isSome_findEvent?_update]
    exact fun _ => rfl
  · unfold Stored
    rw [hp.events, hcomplete]
    unfold findEvent?
    rw [find?_insert? hevents]
    have hrow : (EventRow.recorded (prepareEvent db event)).eventId = event.eventId := rfl
    rw [hrow]
    by_cases hid : event.eventId = id
    · simp [hid]
    · simp [hid, Ne.symm hid]

/-! ## 2. The batch -/

/-- `MAX_EVENT_BATCH_ITEMS`. -/
def maxEventBatchItems : Nat := 128

/-- `MAX_CONTROL_FRAME_BYTES`. -/
def maxControlFrameBytes : Nat := 1024 * 1024

/-- The loop over a batch: what is accepted stays accepted when a later event is refused. -/
def acceptEvents (nodeId : NodeId) :
    Database → List (EventEnvelope × MessageId) → Database × Except AppError (List EventId)
  | db, [] => (db, .ok [])
  | db, (event, messageId) :: rest =>
    match validateEventOwner db nodeId event with
    | .error e => (db, .error e)
    | .ok () =>
      match acceptNodeEvent db event messageId with
      | .error e => (db, .error e)
      | .ok db' =>
        let (db'', ids) := acceptEvents nodeId db' rest
        (db'', ids.map (event.eventId :: ·))

/-- `send_control_frame`: a frame that cannot be queued is dropped. -/
def sendControlFrame (connections : ConnectionRegistry) (nodeId : NodeId) (frame : ControlFrame) :
    ConnectionRegistry :=
  match connections.sender nodeId with
  | none => connections
  | some channel => (connections.trySend channel frame).getD connections

/-- Core as a frame handler sees it. -/
structure CoreState where
  db : Database
  connections : ConnectionRegistry

/-- `handle_node_control_frame` on an `EventBatch` that arrives on a socket of the Node. The length
    of an encoded event is an argument. -/
def handleEventBatch (encodedLen : EventEnvelope → Nat) (core : CoreState) (nodeId : NodeId)
    (generation : Nat) (events : List (EventEnvelope × MessageId)) :
    CoreState × Except AppError Unit :=
  if !core.connections.isActive nodeId generation then
    (core, .error (.auth "control.stale_generation"
      "Control frame belongs to a stale or uninitialized connection"))
  else if maxEventBatchItems < events.length then
    (core, .error (.badRequest "control.event_batch_too_large"
      "Control event batch exceeds the item limit"))
  else if maxControlFrameBytes < (events.map fun e => encodedLen e.1).sum then
    (core, .error (.badRequest "control.event_batch_bytes_too_large"
      "Control event batch exceeds the byte limit"))
  else
    match acceptEvents nodeId core.db events with
    | (db, .error e) => ({ core with db }, .error e)
    | (db, .ok ids) =>
      ({ db, connections := sendControlFrame core.connections nodeId (.eventBatchAck ids) }, .ok ())

/-! ## 3. Progress -/

/-- An acknowledgement of these events was queued on the Node's active connection. -/
def AckQueued (before after : ConnectionRegistry) (nodeId : NodeId) (ids : List EventId) : Prop :=
  ∃ channel, before.sender nodeId = some channel ∧
    before.trySend channel (.eventBatchAck ids) = some after

/-- The event would be accepted by itself. -/
def AcceptableAlone (db : Database) (nodeId : NodeId) (event : EventEnvelope) : Prop :=
  validateEventOwner db nodeId event = .ok () ∧
    ∃ messageId db', acceptNodeEvent db event messageId = .ok db'

/-- **A batch made progress**: what is stored of it is acknowledged, and what could be stored of it
    is. -/
structure BatchProgress (nodeId : NodeId) (events : List (EventEnvelope × MessageId))
    (before after : CoreState) : Prop where
  acked : ∀ e ∈ events, Stored after.db e.1.eventId →
    ∃ ids, e.1.eventId ∈ ids ∧ AckQueued before.connections after.connections nodeId ids
  stored : ∀ e ∈ events, AcceptableAlone after.db nodeId e.1 → Stored after.db e.1.eventId

/-- Each event of the list passes the owner check and is accepted, after those before it. -/
def PassInTurn (nodeId : NodeId) : Database → List (EventEnvelope × MessageId) → Prop
  | _, [] => True
  | db, (event, messageId) :: rest =>
    validateEventOwner db nodeId event = .ok () ∧
      ∃ db', acceptNodeEvent db event messageId = .ok db' ∧ PassInTurn nodeId db' rest

/-- Nothing of the list is stored, and nothing of it could be. -/
def NothingToGain (nodeId : NodeId) (db : Database) (events : List (EventEnvelope × MessageId)) :
    Prop :=
  ∀ e ∈ events, ¬ Stored db e.1.eventId ∧ ¬ AcceptableAlone db nodeId e.1

/-- The connection takes another frame. -/
def QueueOpen (connections : ConnectionRegistry) (generation : Nat) : Prop :=
  ∃ c, connections.channel? generation = some c ∧ c.closed = false ∧
    c.queue.length < controlQueueCapacity

/-- A queued frame is there afterwards. -/
theorem trySend_ne_self {r : ConnectionRegistry} {channel : Nat} {frame : ControlFrame} :
    r.trySend channel frame ≠ some r := by
  intro h
  unfold ConnectionRegistry.trySend at h
  split at h
  · cases h
  · rename_i c hc
    split at h
    · cases h
    · have hchannels := congrArg ConnectionRegistry.channels (Option.some.inj h)
      have hmem : c ∈ r.channels := List.mem_of_find?_eq_some hc
      have hgen : (c.generation == channel) = true := by
        simpa using List.find?_some hc
      have hmap : r.channels.map (fun c =>
          if c.generation == channel then { c with queue := c.queue ++ [frame] } else c) =
            r.channels.map id := by simpa using hchannels
      have heq := List.map_inj_left.mp hmap c hmem
      rw [if_pos hgen, id] at heq
      have hlen := congrArg (fun c : ControlChannel => c.queue.length) heq
      simp at hlen

theorem isSome_trySend_iff {r : ConnectionRegistry} {channel : Nat} {frame : ControlFrame} :
    (∃ r', r.trySend channel frame = some r') ↔ QueueOpen r channel := by
  unfold ConnectionRegistry.trySend QueueOpen
  cases r.channel? channel with
  | none => simp
  | some c =>
    cases hclosed : c.closed with
    | true => simp [hclosed]
    | false => by_cases hlen : controlQueueCapacity ≤ c.queue.length <;> simp [hclosed, hlen]; try omega

theorem not_ackQueued_self {r : ConnectionRegistry} {nodeId : NodeId} {ids : List EventId} :
    ¬ AckQueued r r nodeId ids := by
  rintro ⟨channel, -, h⟩
  exact trySend_ne_self h

/-- **The loop of events that pass in turn**: it accepts all of them, and stores them and no
    others. -/
theorem acceptEvents_of_passInTurn {nodeId : NodeId} {db : Database}
    {events : List (EventEnvelope × MessageId)} (h : PassInTurn nodeId db events) :
    ∃ db', acceptEvents nodeId db events = (db', .ok (events.map (·.1.eventId))) ∧
      ∀ id, Stored db' id ↔ Stored db id ∨ ∃ e ∈ events, id = e.1.eventId := by
  induction events generalizing db with
  | nil => exact ⟨db, rfl, fun id => by simp⟩
  | cons e events ih =>
    obtain ⟨event, messageId⟩ := e
    obtain ⟨hvalid, db₁, haccept, hrest⟩ := h
    obtain ⟨db₂, hloop, hstored⟩ := ih hrest
    refine ⟨db₂, ?_, fun id => ?_⟩
    · rw [acceptEvents, hvalid, haccept]
      show ((acceptEvents nodeId db₁ events).1, _) = _
      rw [hloop]
      rfl
    · rw [hstored, stored_acceptNodeEvent haccept, or_assoc]
      simp

/-- **The loop of events that do not**: it ends in an error, and it changed nothing or it stored
    its first event. -/
theorem acceptEvents_of_not_passInTurn {nodeId : NodeId} {db : Database}
    {events : List (EventEnvelope × MessageId)} (h : ¬ PassInTurn nodeId db events) :
    ∃ db' e, acceptEvents nodeId db events = (db', .error e) ∧
      (∀ id, Stored db id → Stored db' id) ∧
      (db' = db ∨ ∃ first ∈ events, Stored db' first.1.eventId ∧
        AcceptableAlone db nodeId first.1) := by
  induction events generalizing db with
  | nil => exact absurd trivial h
  | cons e events ih =>
    obtain ⟨event, messageId⟩ := e
    rw [acceptEvents]
    cases hvalid : validateEventOwner db nodeId event with
    | error e => exact ⟨db, e, rfl, fun _ => id, Or.inl rfl⟩
    | ok u =>
      cases haccept : acceptNodeEvent db event messageId with
      | error e => exact ⟨db, e, rfl, fun _ => id, Or.inl rfl⟩
      | ok db₁ =>
        have hrest : ¬ PassInTurn nodeId db₁ events := fun hrest =>
          h ⟨hvalid, db₁, haccept, hrest⟩
        obtain ⟨db₂, e, hloop, hstored, -⟩ := ih hrest
        have hfirst : Stored db₁ event.eventId :=
          (stored_acceptNodeEvent haccept _).mpr (Or.inr rfl)
        refine ⟨db₂, e, ?_, fun id hid => hstored id ?_,
          Or.inr ⟨_, List.mem_cons_self, ?_, hvalid, messageId, db₁, haccept⟩⟩
        · show ((acceptEvents nodeId db₁ events).1, _) = _
          rw [hloop]
          rfl
        · exact (stored_acceptNodeEvent haccept id).mpr (Or.inl hid)
        · exact hstored _ hfirst

/-- A state left as it was made progress exactly when there was nothing to gain. -/
theorem batchProgress_self_iff {nodeId : NodeId} {events : List (EventEnvelope × MessageId)}
    {core : CoreState} :
    BatchProgress nodeId events core core ↔ NothingToGain nodeId core.db events := by
  constructor
  · intro h e he
    have hnot : ¬ Stored core.db e.1.eventId := fun hs => by
      obtain ⟨ids, -, hack⟩ := h.acked e he hs
      exact not_ackQueued_self hack
    exact ⟨hnot, fun ha => hnot (h.stored e he ha)⟩
  · intro h
    exact ⟨fun e he hs => absurd hs (h e he).1, fun e he ha => absurd ha (h e he).2⟩

/-- Of a list that is not empty, nothing is to be gained only if it does not pass. -/
theorem NothingToGain.not_passInTurn {nodeId : NodeId} {db : Database}
    {events : List (EventEnvelope × MessageId)} (h : NothingToGain nodeId db events)
    (hne : events ≠ []) : ¬ PassInTurn nodeId db events := by
  cases events with
  | nil => exact absurd rfl hne
  | cons e events =>
    obtain ⟨event, messageId⟩ := e
    rintro ⟨hvalid, db', haccept, -⟩
    exact (h _ List.mem_cons_self).2 ⟨hvalid, messageId, db', haccept⟩

/-- Core before a turn's events arrive, with an open connection of Node `n1`. -/
def connectedCore : CoreState where
  db := recordedTurn
  connections := ((ConnectionRegistry.context {} "n1").activate "n1" 1).getD {}

/-- The events of the turn that asks twice, as one batch. -/
def asksTwiceBatch : List (EventEnvelope × MessageId) :=
  asksTwiceEvents.map fun e => (e, "m" ++ e.eventId)

end Uprava.Core
