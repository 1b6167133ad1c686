/-
  File:      Uprava/Node/Outbox.lean
  Subject:   The Node's event outbox: the limits it is held to, what is dropped when they are
             exceeded, and the notice each runtime gets whose events were dropped.

  The oldest events go first. A notice is an event of its runtime and takes that runtime's next
  number, whichever command the outbox is trimmed for.
-/
import Mathlib.Data.List.Sort
import Uprava.Node.Provider

namespace Uprava.Node

open Uprava.Protocol
open Uprava.Lib (Assoc Numbered)

/-! ## 1. Limits -/

def maxEventOutboxEvents : Nat := 1024

def maxEventOutboxBytes : Nat := 4 * 1024 * 1024

/-- Seven days, in seconds. -/
def maxEventOutboxAge : Int := 7 * 24 * 60 * 60

/-- The limits of an outbox, zero for none, and what they are measured by. -/
structure OutboxLimits where
  encodedLen : EventEnvelope → Nat
  now : DateTime
  maxEvents : Nat := maxEventOutboxEvents
  maxAge : Int := maxEventOutboxAge
  maxBytes : Nat := maxEventOutboxBytes

def OutboxLimits.bytes (limits : OutboxLimits) (outbox : List EventEnvelope) : Nat :=
  (outbox.map limits.encodedLen).sum

def OutboxLimits.countExceeded (limits : OutboxLimits) (outbox : List EventEnvelope) : Bool :=
  0 < limits.maxEvents && limits.maxEvents < outbox.length

def OutboxLimits.bytesExceeded (limits : OutboxLimits) (outbox : List EventEnvelope) : Bool :=
  0 < limits.maxBytes && limits.maxBytes < limits.bytes outbox

def OutboxLimits.ageExceeded (limits : OutboxLimits) (event : EventEnvelope) : Bool :=
  limits.maxAge != 0 && event.happenedAt < limits.now - limits.maxAge

/-- How many of the oldest events are over a limit. -/
def eventOutboxRetentionDropCount (limits : OutboxLimits) : List EventEnvelope → Nat
  | [] => 0
  | event :: rest =>
    if limits.countExceeded (event :: rest) || limits.ageExceeded event ||
        limits.bytesExceeded (event :: rest) then
      eventOutboxRetentionDropCount limits rest + 1
    else 0

/-- The oldest events go until the outbox fits; their age does not matter here. -/
def trimEventOutboxToLimits (limits : OutboxLimits) : List EventEnvelope → List EventEnvelope
  | [] => []
  | event :: rest =>
    if limits.countExceeded (event :: rest) || limits.bytesExceeded (event :: rest) then
      trimEventOutboxToLimits limits rest
    else event :: rest

theorem trimEventOutboxToLimits_subset (limits : OutboxLimits) (outbox : List EventEnvelope) :
    trimEventOutboxToLimits limits outbox ⊆ outbox := by
  induction outbox with
  | nil => exact List.Subset.refl _
  | cons event rest ih =>
    unfold trimEventOutboxToLimits
    split
    · exact List.subset_cons_of_subset _ ih
    · exact List.Subset.refl _

/-! ## 2. Notices -/

/-- A runtime that lost events, with the session and the Node of the first of them. -/
structure AffectedRuntime where
  runtimeSessionId : RuntimeSessionId
  sessionThreadId : Option SessionThreadId
  nodeId : Option NodeId

def insertAffected (runtimes : List AffectedRuntime) (event : EventEnvelope) :
    List AffectedRuntime :=
  match event.runtimeSessionId with
  | none => runtimes
  | some id =>
    if runtimes.any (·.runtimeSessionId == id) then runtimes
    else runtimes ++ [⟨id, event.sessionThreadId, event.nodeId⟩]

/-- The runtimes of the dropped events, in the order of their ids. -/
def affectedRuntimes (dropped : List EventEnvelope) : List AffectedRuntime :=
  (dropped.foldl insertAffected []).insertionSort fun a b =>
    a.runtimeSessionId ≤ b.runtimeSessionId

def retentionExceeded : EventPayload :=
  .runtimeError "node.event_outbox_retention_exceeded"
    "Node dropped unacknowledged runtime events because local outbox retention was exceeded"

/-- `runtime_outbox_retention_event`. -/
def runtimeOutboxRetentionEvent (source : EventSource) (stateNodeId : Option NodeId)
    (issue : Issue) (runtime : AffectedRuntime) : EventEnvelope × Issue :=
  let (seq, runtimeSeqs) := nextRuntimeSeq issue.runtimeSeqs runtime.runtimeSessionId
  let nodeId := stateNodeId.or runtime.nodeId
  ({ eventId := source.eventId issue.drawn
     actorRef := match nodeId with
      | some nodeId => .node nodeId
      | none => .unknown
     scopeRef := .runtime runtime.runtimeSessionId
     nodeId
     runtimeSessionId := some runtime.runtimeSessionId
     sessionThreadId := runtime.sessionThreadId
     seq
     kind := .runtimeError
     happenedAt := source.happenedAt issue.drawn
     payload := retentionExceeded },
    { runtimeSeqs, drawn := issue.drawn + 1 })

def issueNotices (source : EventSource) (stateNodeId : Option NodeId) :
    Issue → List AffectedRuntime → List EventEnvelope × Issue
  | issue, [] => ([], issue)
  | issue, runtime :: runtimes =>
    let (event, issue) := runtimeOutboxRetentionEvent source stateNodeId issue runtime
    let (events, issue) := issueNotices source stateNodeId issue runtimes
    (event :: events, issue)

/-! ## 3. Runtime states -/

def runtimeStateForEvent : EventKind → Option RuntimeSessionState
  | .runtimeStarting => some .starting
  | .runtimeReady => some .ready
  | .runtimeRunning => some .running
  | .runtimeBlocked => some .blocked
  | .runtimeExpired => some .expired
  | .runtimeResuming => some .resuming
  | .runtimeStopped => some .stopped
  | .runtimeError => some .error
  | .turnInterrupted => some .interrupted
  | _ => none

def applyRuntimeStateProjectionForEvent
    (runtimeStates : Assoc RuntimeSessionId RuntimeSessionState) (event : EventEnvelope) :
    Assoc RuntimeSessionId RuntimeSessionState :=
  match event.runtimeSessionId, runtimeStateForEvent event.kind with
  | some id, some s => runtimeStates.insert id s
  | _, _ => runtimeStates

def NodeLocalState.applyRuntimeStateProjection (s : NodeLocalState) (events : List EventEnvelope) :
    NodeLocalState :=
  { s with runtimeStates := events.foldl applyRuntimeStateProjectionForEvent s.runtimeStates }

/-! ## 4. Retention -/

/-- The notices of a state whose outbox is over its limits, and what numbering them moved. -/
def retentionNotices (source : EventSource) (limits : OutboxLimits) (s : NodeLocalState)
    (drawn : Nat) : List EventEnvelope × Issue :=
  issueNotices source s.nodeId ⟨s.runtimeSeqs, drawn⟩
    (affectedRuntimes
      (s.eventOutbox.take (eventOutboxRetentionDropCount limits s.eventOutbox)))

/-- `enforce_event_outbox_retention`: the state afterwards. -/
def NodeLocalState.enforceEventOutboxRetention (s : NodeLocalState) (source : EventSource)
    (limits : OutboxLimits) (drawn : Nat) : NodeLocalState :=
  let dropCount := eventOutboxRetentionDropCount limits s.eventOutbox
  if dropCount = 0 then s
  else
    let (notices, issue) := retentionNotices source limits s drawn
    NodeLocalState.applyRuntimeStateProjection
      { s with
        droppedEventCount := s.droppedEventCount + dropCount
        runtimeSeqs := issue.runtimeSeqs
        eventOutbox := trimEventOutboxToLimits limits (s.eventOutbox.drop dropCount ++ notices) }
      notices

/-! ## 5. What retention does -/

variable {source : EventSource} {stateNodeId : Option NodeId}

theorem issueNotices_numbered (issue : Issue) (runtimes : List AffectedRuntime) :
    Numbered EventEnvelope.runtimeSessionId EventEnvelope.seq issue.runtimeSeqs.count
      (issueNotices source stateNodeId issue runtimes).1
      (issueNotices source stateNodeId issue runtimes).2.runtimeSeqs.count := by
  induction runtimes generalizing issue with
  | nil => exact .nil _
  | cons runtime runtimes ih =>
    have hrest := ih (runtimeOutboxRetentionEvent source stateNodeId issue runtime).2
    refine .cons (k := runtime.runtimeSessionId) rfl rfl ?_
    rw [← Assoc.count_bump]
    exact hrest

theorem runtimeEvent_issueNotices {issue : Issue} {runtimes : List AffectedRuntime} :
    ∀ e ∈ (issueNotices source stateNodeId issue runtimes).1, RuntimeEvent e := by
  induction runtimes generalizing issue with
  | nil =>
    intro e he
    cases he
  | cons runtime runtimes ih =>
    intro e he
    rcases List.mem_cons.mp he with rfl | he
    · exact ⟨⟨runtime.runtimeSessionId, rfl, rfl⟩, rfl, rfl, fun _ => rfl⟩
    · exact ih e he

theorem issueNotices_keeps {issue : Issue} {runtimes : List AffectedRuntime}
    {k : RuntimeSessionId}
    (h : (issueNotices source stateNodeId issue runtimes).2.runtimeSeqs.lookup k = none) :
    issue.runtimeSeqs.lookup k = none := by
  induction runtimes generalizing issue with
  | nil => exact h
  | cons runtime runtimes ih => exact Assoc.lookup_of_bump (ih h)

/-- A state within its limits gets no notices. -/
theorem retentionNotices_of_dropCount {limits : OutboxLimits} {s : NodeLocalState} {drawn : Nat}
    (h : eventOutboxRetentionDropCount limits s.eventOutbox = 0) :
    retentionNotices source limits s drawn = ([], ⟨s.runtimeSeqs, drawn⟩) := by
  unfold retentionNotices
  rw [h]
  rfl

/-- Retention that counts nothing found the outbox within its limits. -/
theorem dropCount_of_not_dropped {s : NodeLocalState} {limits : OutboxLimits} {drawn : Nat}
    (h : (s.enforceEventOutboxRetention source limits drawn).droppedEventCount =
      s.droppedEventCount) : eventOutboxRetentionDropCount limits s.eventOutbox = 0 := by
  unfold NodeLocalState.enforceEventOutboxRetention at h
  dsimp only at h
  split at h
  · assumption
  · change s.droppedEventCount + _ = s.droppedEventCount at h
    omega

/-- What retention leaves of an outbox from which nothing was dropped. -/
theorem enforce_of_not_dropped {s : NodeLocalState} {limits : OutboxLimits} {drawn : Nat}
    (h : (s.enforceEventOutboxRetention source limits drawn).droppedEventCount =
      s.droppedEventCount) :
    (s.enforceEventOutboxRetention source limits drawn).eventOutbox = s.eventOutbox := by
  unfold NodeLocalState.enforceEventOutboxRetention
  rw [dropCount_of_not_dropped h]
  rfl

/-- **Retention moves the runtimes' counters by the notices.** -/
theorem enforce_runtimeSeqs (s : NodeLocalState) (limits : OutboxLimits) (drawn : Nat) :
    (s.enforceEventOutboxRetention source limits drawn).runtimeSeqs =
      (retentionNotices source limits s drawn).2.runtimeSeqs := by
  unfold NodeLocalState.enforceEventOutboxRetention
  dsimp only
  split
  · rename_i h
    rw [retentionNotices_of_dropCount h]
  · rfl

/-- What is in the outbox afterwards was there before, or is a notice. -/
theorem mem_enforce_eventOutbox {s : NodeLocalState} {limits : OutboxLimits} {drawn : Nat}
    {e : EventEnvelope} (h : e ∈ (s.enforceEventOutboxRetention source limits drawn).eventOutbox) :
    e ∈ s.eventOutbox ∨ e ∈ (retentionNotices source limits s drawn).1 := by
  unfold NodeLocalState.enforceEventOutboxRetention at h
  dsimp only at h
  split at h
  · exact Or.inl h
  · rcases List.mem_append.mp (trimEventOutboxToLimits_subset _ _ h) with h | h
    · exact Or.inl (List.mem_of_mem_drop h)
    · exact Or.inr h

/-- Retention leaves the commands alone. -/
theorem enforce_commands (s : NodeLocalState) (limits : OutboxLimits) (drawn : Nat) :
    (s.enforceEventOutboxRetention source limits drawn).commandStatus = s.commandStatus ∧
      (s.enforceEventOutboxRetention source limits drawn).commandResultPayloads =
        s.commandResultPayloads := by
  unfold NodeLocalState.enforceEventOutboxRetention
  dsimp only
  split
  · exact ⟨rfl, rfl⟩
  · exact ⟨rfl, rfl⟩

end Uprava.Node
