/-
  File:      Uprava/Core/Connections.lean
  Subject:   The control connections of Core: one bounded queue for each socket, and the registry
             that says which socket of a Node is the active one.
-/
import Mathlib.Data.List.Basic
import Uprava.Protocol.Control

namespace Uprava.Core

open Uprava.Protocol

/-- `CONTROL_QUEUE_CAPACITY`. -/
def controlQueueCapacity : Nat := 256

/-- The send half of one socket: frames queued for its send task, until the socket closes. -/
structure ControlChannel where
  generation : Nat
  nodeId : NodeId
  queue : List ControlFrame
  closed : Bool
  deriving DecidableEq

/-- The registry: the channels there are, and each Node's active generation. -/
structure ConnectionRegistry where
  nextGeneration : Nat := 1
  entries : List (NodeId × Nat) := []
  channels : List ControlChannel := []
  deriving DecidableEq

namespace ConnectionRegistry

/-- A socket opens: its channel gets the next generation. -/
def context (r : ConnectionRegistry) (nodeId : NodeId) : ConnectionRegistry :=
  { r with
    nextGeneration := r.nextGeneration + 1
    channels := r.channels ++ [⟨r.nextGeneration, nodeId, [], false⟩] }

def channel? (r : ConnectionRegistry) (generation : Nat) : Option ControlChannel :=
  r.channels.find? (·.generation == generation)

/-- `sender`: the generation of the Node's active connection. -/
def sender (r : ConnectionRegistry) (nodeId : NodeId) : Option Nat := r.entries.lookup nodeId

def contains (r : ConnectionRegistry) (nodeId : NodeId) : Bool := (r.sender nodeId).isSome

/-- A generation becomes the active one unless a newer one is. -/
def activate (r : ConnectionRegistry) (nodeId : NodeId) (generation : Nat) :
    Option ConnectionRegistry :=
  if (r.sender nodeId).any (generation < ·) then none
  else some { r with entries := (nodeId, generation) :: r.entries.filter (·.1 != nodeId) }

def isActive (r : ConnectionRegistry) (nodeId : NodeId) (generation : Nat) : Bool :=
  r.sender nodeId == some generation

/-- The socket ends: its channel closes, and its Node has no active connection if this was it. -/
def removeIfActive (r : ConnectionRegistry) (nodeId : NodeId) (generation : Nat) :
    ConnectionRegistry :=
  { r with
    entries := if r.isActive nodeId generation then r.entries.filter (·.1 != nodeId) else r.entries
    channels := r.channels.map fun c =>
      if c.generation == generation then { c with closed := true } else c }

/-- `try_send`: fails when the channel is closed or its queue is full. -/
def trySend (r : ConnectionRegistry) (generation : Nat) (frame : ControlFrame) :
    Option ConnectionRegistry :=
  match r.channel? generation with
  | none => none
  | some c =>
    if c.closed || controlQueueCapacity ≤ c.queue.length then none
    else some { r with
      channels := r.channels.map fun c =>
        if c.generation == generation then { c with queue := c.queue ++ [frame] } else c }

/-- The send task of a socket takes the first frame of its queue. -/
def transmit (r : ConnectionRegistry) (generation : Nat) : ConnectionRegistry :=
  { r with
    channels := r.channels.map fun c =>
      if c.generation == generation then { c with queue := c.queue.tail } else c }

/-! ## Open sockets -/

/-- The Node of a socket that is open. -/
def openNode? (r : ConnectionRegistry) (generation : Nat) : Option NodeId :=
  (r.channel? generation).bind fun c => if c.closed then none else some c.nodeId

theorem openNode?_eq_some {r : ConnectionRegistry} {generation : Nat} {nodeId : NodeId} :
    r.openNode? generation = some nodeId ↔
      ∃ c, r.channel? generation = some c ∧ c.closed = false ∧ c.nodeId = nodeId := by
  unfold openNode?
  rw [Option.bind_eq_some_iff]
  refine exists_congr fun c => and_congr_right fun _ => ?_
  cases c.closed <;> simp

theorem exists_mem_of_openNode? {r : ConnectionRegistry} {generation : Nat} {nodeId : NodeId}
    (h : r.openNode? generation = some nodeId) :
    ∃ c ∈ r.channels, c.nodeId = nodeId ∧ c.closed = false := by
  obtain ⟨c, hc, hopen, hnode⟩ := openNode?_eq_some.mp h
  exact ⟨c, List.mem_of_find?_eq_some hc, hnode, hopen⟩

/-- What changes the queues alone opens and closes nothing. -/
theorem openNode?_of_map {r r' : ConnectionRegistry} {f : ControlChannel → ControlChannel}
    (hgeneration : ∀ c, (f c).generation = c.generation) (hnode : ∀ c, (f c).nodeId = c.nodeId)
    (hclosed : ∀ c, (f c).closed = c.closed) (h : r'.channels = r.channels.map f)
    (generation : Nat) : r'.openNode? generation = r.openNode? generation := by
  unfold openNode? channel?
  rw [h, List.find?_map]
  have hp : ((fun c : ControlChannel => c.generation == generation) ∘ f) =
      fun c => c.generation == generation := funext fun c => by simp [hgeneration c]
  rw [hp, Option.bind_map]
  congr 1
  funext c
  simp [hclosed c, hnode c]

theorem openNode?_transmit (r : ConnectionRegistry) (g generation : Nat) :
    (r.transmit g).openNode? generation = r.openNode? generation := by
  refine openNode?_of_map (fun c => ?_) (fun c => ?_) (fun c => ?_) rfl generation <;>
    split <;> rfl

/-- A frame is queued on a socket that is open. -/
theorem openNode?_trySend {r r' : ConnectionRegistry} {g : Nat} {frame : ControlFrame}
    (h : r.trySend g frame = some r') :
    (∃ c, r.channel? g = some c ∧ r.openNode? g = some c.nodeId) ∧
      ∀ generation, r'.openNode? generation = r.openNode? generation := by
  unfold trySend at h
  cases hc : r.channel? g with
  | none =>
    rw [hc] at h
    cases h
  | some c =>
    rw [hc] at h
    dsimp only at h
    split at h
    · cases h
    · rename_i hfree
      obtain rfl := Option.some.inj h
      have hopen : c.closed = false := by
        cases hclosed : c.closed with
        | true => exact absurd (by simp [hclosed]) hfree
        | false => rfl
      refine ⟨⟨c, rfl, openNode?_eq_some.mpr ⟨c, hc, hopen, rfl⟩⟩, fun generation => ?_⟩
      refine openNode?_of_map (fun d => ?_) (fun d => ?_) (fun d => ?_) rfl generation <;>
        split <;> rfl

theorem openNode?_getD_trySend (r : ConnectionRegistry) (g : Nat) (frame : ControlFrame)
    (generation : Nat) :
    ((r.trySend g frame).getD r).openNode? generation = r.openNode? generation := by
  cases h : r.trySend g frame with
  | none => rfl
  | some r' => exact (openNode?_trySend h).2 generation

theorem openNode?_activate {r r' : ConnectionRegistry} {nodeId : NodeId} {g : Nat}
    (h : r.activate nodeId g = some r') (generation : Nat) :
    r'.openNode? generation = r.openNode? generation := by
  unfold activate at h
  split at h
  · cases h
  · obtain rfl := Option.some.inj h
    rfl

/-- A socket that opens is of its Node, and the others stay open. -/
theorem openNode?_context (r : ConnectionRegistry) (nodeId : NodeId) (generation : Nat)
    (n : NodeId) :
    (r.openNode? generation = some n → (r.context nodeId).openNode? generation = some n) ∧
      ((r.context nodeId).openNode? generation = some n →
        r.openNode? generation = some n ∨ n = nodeId) := by
  have hfind : (r.context nodeId).channel? generation = (r.channel? generation).or
      (if r.nextGeneration == generation then some ⟨r.nextGeneration, nodeId, [], false⟩
        else none) := by
    unfold channel? context
    rw [List.find?_append]
    cases h : r.nextGeneration == generation <;> simp [h]
  unfold openNode?
  rw [hfind]
  cases hc : r.channel? generation with
  | none =>
    cases r.nextGeneration == generation with
    | false => exact ⟨fun h => (by cases h), fun h => (by cases h)⟩
    | true =>
      refine ⟨fun h => (by cases h), fun h => Or.inr ?_⟩
      exact (Option.some.inj h).symm
  | some c => exact ⟨id, Or.inl⟩

/-- The end of a socket leaves the others as they are. -/
theorem openNode?_removeIfActive (r : ConnectionRegistry) (nodeId : NodeId) (g : Nat)
    (generation : Nat) :
    (r.removeIfActive nodeId g).openNode? generation =
      if generation = g then none else r.openNode? generation := by
  have hfind : (r.removeIfActive nodeId g).channel? generation =
      (r.channel? generation).map fun c =>
        if c.generation == g then { c with closed := true } else c := by
    unfold channel? removeIfActive
    rw [List.find?_map]
    congr 2
    funext c
    simp only [Function.comp_apply]
    split <;> rfl
  unfold openNode?
  rw [hfind]
  cases hc : r.channel? generation with
  | none => simp
  | some c =>
    obtain rfl : c.generation = generation := by simpa using List.find?_some hc
    by_cases hg : c.generation = g <;> simp [hg]

end ConnectionRegistry

end Uprava.Core
