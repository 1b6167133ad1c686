/-
  File:      Uprava/Node/Machine.lean
  Subject:   The Node's daemon as a transition system: its store, its control connection, the
             dispatchers the connections started and the tasks they spawned.

  * `DispatchTask` -- a command on its way through `spawn_command_dispatch_task`;
  * `Daemon`       -- the daemon, with what it put on the control channel so far;
  * `step`         -- one action of one of its parts.

  A connection that ends with its read loop aborts its dispatcher; one that ends with an error
  leaves the dispatcher behind, and its tasks run on. An aborted task stops where it waits next, so
  it may take further steps before it is gone (`stop`). The store handles one request after the
  other and saves before it answers; a save succeeds.

  The body of a command is computed when it starts, from its copy and from the outside; the events
  it emits live are then put on the channel one by one. Core delivers a command with a payload of
  its kind, and under one id always the same command.
-/
import Mathlib.Logic.Function.Basic
import Uprava.Lib.Run
import Uprava.Node.Effects

namespace Uprava.Node

open Uprava.Protocol
open Uprava.Lib (Assoc)

/-! ## 1. Tasks -/

def taskCancellationKey (taskRunId : TaskRunId) : String := "task:" ++ taskRunId

def toolingExecutionKey : ToolingCommandPayloadV1 → String
  | .beginIntegrationAuthorization dependencyInstanceId ..
  | .updateDependencyDesiredState dependencyInstanceId ..
  | .executeExternalTool _ _ _ _ dependencyInstanceId _ => "tool-dependency:" ++ dependencyInstanceId
  | .cancelToolCall toolCallId _ => "tool-call:" ++ toolCallId

/-- Commands with one key are executed one after the other by one dispatcher. -/
def commandExecutionKey (command : CommandEnvelope) : String :=
  match command.target.taskRunId, command.payload with
  | some taskRunId, _ => taskCancellationKey taskRunId
  | none, .tooling tooling => toolingExecutionKey tooling.payload
  | none, _ =>
    match command.target.runtimeSessionId, command.target.projectPlacementId with
    | some runtimeSessionId, _ => "runtime:" ++ runtimeSessionId
    | none, some placementId => "placement:" ++ placementId
    | none, none => "command:" ++ command.commandId

/-- How far a task is. -/
inductive TaskPhase where
  | queued
  /-- It holds a permit, the lock of its key and a snapshot of the store. -/
  | begun (baseline : NodeLocalState)
  /-- Its body runs; `live` is still to be emitted. -/
  | executing (baseline : NodeLocalState) (execution : Execution) (live : List EventEnvelope)
  /-- Its outcome is persisted, or needs not be. -/
  | delivering (batches : List (List EventEnvelope)) (status : CommandState) (payload : JsonValue)

structure DispatchTask where
  dispatcher : Nat
  command : CommandEnvelope
  phase : TaskPhase

def TaskPhase.holdsPermit : TaskPhase → Bool
  | queued => false
  | _ => true

/-- The snapshot of a task that has not handed its copy back. -/
def TaskPhase.baseline? : TaskPhase → Option NodeLocalState
  | begun baseline | executing baseline _ _ => some baseline
  | _ => none

/-- The numbers a task took and has not handed back. -/
def TaskPhase.taken : TaskPhase → List EventEnvelope
  | executing _ execution _ => execution.taken
  | _ => []

/-- The events a task has from the store. -/
def TaskPhase.stored : TaskPhase → List EventEnvelope
  | queued => []
  | begun baseline | executing baseline _ _ => baseline.eventOutbox
  | delivering batches _ _ => batches.flatten

/-! ## 2. The daemon -/

def nodeCommandDispatchConcurrency : Nat := 8

def eventDeliveryBatchSize : Nat := 32

/-- `events.chunks(EVENT_DELIVERY_BATCH_SIZE)`. -/
def eventBatches (events : List EventEnvelope) : List (List EventEnvelope) :=
  (List.range ((events.length + eventDeliveryBatchSize - 1) / eventDeliveryBatchSize)).map fun i =>
    (events.drop (eventDeliveryBatchSize * i)).take eventDeliveryBatchSize

theorem mem_of_mem_eventBatches {events : List EventEnvelope} {e : EventEnvelope}
    (h : e ∈ (eventBatches events).flatten) : e ∈ events := by
  obtain ⟨batch, hbatch, he⟩ := List.mem_flatten.mp h
  obtain ⟨i, -, rfl⟩ := List.mem_map.mp hbatch
  exact List.mem_of_mem_drop (List.mem_of_mem_take he)

/-- The control connection. Its replay is of the outbox it saw before it was dialled. -/
inductive Connection where
  | down
  | dialing (nodeId : NodeId) (eventOutbox : List EventEnvelope)
  | up (dispatcher : Nat) (replay : List (List EventEnvelope))

def Connection.stored : Connection → List EventEnvelope
  | down => []
  | dialing _ eventOutbox => eventOutbox
  | up _ replay => replay.flatten

structure Daemon where
  owner : NodeLocalState
  drawn : Nat := 0
  connection : Connection := .down
  /-- How many dispatchers were started, and which of them are aborted. -/
  dispatchers : Nat := 0
  aborted : List Nat := []
  tasks : Nat → Option DispatchTask := fun _ => none
  spawned : Nat := 0
  /-- What Core delivered, what the daemon put on the channel, which events it numbered and which
      commands' outcomes it persisted, so far. -/
  received : List CommandEnvelope := []
  sent : List ControlFrame := []
  numbered : List EventEnvelope := []
  persisted : List CommandId := []

/-- A daemon that has loaded a state. -/
def Daemon.start (loaded : NodeLocalState) : Daemon := { owner := loaded }

namespace Daemon

def setTask (d : Daemon) (i : Nat) (task : Option DispatchTask) : Daemon :=
  { d with tasks := Function.update d.tasks i task }

def put (d : Daemon) (frames : List ControlFrame) : Daemon := { d with sent := d.sent ++ frames }

/-- The tasks of a dispatcher that hold one of its permits. -/
def holding (d : Daemon) (dispatcher : Nat) : List DispatchTask :=
  ((List.range d.spawned).filterMap d.tasks).filter fun t =>
    t.dispatcher == dispatcher && t.phase.holdsPermit

/-- A command Core may deliver after those it delivered. -/
def admits (d : Daemon) (command : CommandEnvelope) : Bool :=
  command.payload.matchesKind command.kind &&
    d.received.all fun c => c.commandId != command.commandId || c == command

end Daemon

/-- The answer to a command the dispatcher has no room for, or is gone for. -/
def dispatchErrorFrames (command : CommandEnvelope) (closed : Bool) : List ControlFrame :=
  [.commandAck command.commandId .acknowledged,
    .commandResult command.commandId .failed
      (if closed then
        errorPayload "node.dispatch_closed"
          "Node command dispatcher is unavailable on this control connection" true
      else
        errorPayload "node.dispatch_busy"
          "Node command dispatcher is saturated; retry the command later" true)]

inductive Action where
  | dial
  | connect
  /-- The next batch of the replay is queued, or the connection fails. -/
  | replay (queued : Bool)
  | receive (command : CommandEnvelope)
  | refuse (command : CommandEnvelope) (closed : Bool)
  /-- The read loop ends. -/
  | close
  /-- The connection is left by an error. -/
  | fail
  /-- A task gets its permit and its lock and takes its snapshot. -/
  | begin (i : Nat)
  /-- A task acknowledges its command and starts to handle it, or ends with the failed frame. -/
  | start (i : Nat) (acknowledged : Bool) (world : World)
  | emit (i : Nat) (queued : Bool)
  /-- The handling is done, and the copy is handed back if it changed. -/
  | persist (i : Nat)
  | deliver (i : Nat) (queued : Bool)
  | result (i : Nat) (queued : Bool)
  /-- A task of an aborted dispatcher is gone. -/
  | stop (i : Nat)
  | mutate (mutation : NodeStateMutation)
  /-- The process ends, and another one loads what was saved. -/
  | restart

/-! ## 3. Steps -/

/-- A task moves on; `f` says how from its phase. -/
def Daemon.move (d : Daemon) (i : Nat) (f : DispatchTask → Option Daemon) : Option Daemon :=
  (d.tasks i).bind f

section Steps

variable (source : EventSource)

def Daemon.begin (d : Daemon) (i : Nat) (t : DispatchTask) : Option Daemon :=
  match t.phase with
  | .queued =>
    let holding := d.holding t.dispatcher
    if holding.length < nodeCommandDispatchConcurrency ∧
        holding.all (fun u => commandExecutionKey u.command != commandExecutionKey t.command) then
      some (d.setTask i (some { t with phase := .begun d.owner }))
    else none
  | _ => none

def DispatchTask.executes (t : DispatchTask) (baseline : NodeLocalState) (x : Execution) :
    DispatchTask :=
  { t with phase := .executing baseline x x.live }

/-- The daemon after a task acknowledged its command and computed its body. -/
def Daemon.started (d : Daemon) (i : Nat) (t : DispatchTask) (baseline : NodeLocalState)
    (world : World) : Daemon :=
  let x := handleCommand source world baseline d.drawn t.command
  { (d.setTask i (some (t.executes baseline x))).put
      [.commandAck t.command.commandId .acknowledged] with
    drawn := x.drawn
    numbered := d.numbered ++ x.taken }

def Daemon.startTask (d : Daemon) (i : Nat) (acknowledged : Bool) (world : World)
    (t : DispatchTask) : Option Daemon :=
  match t.phase with
  | .begun baseline =>
    if acknowledged then some (d.started source i t baseline world)
    else some (d.setTask i none)
  | _ => none

def Daemon.emit (d : Daemon) (i : Nat) (queued : Bool) (t : DispatchTask) : Option Daemon :=
  match t.phase with
  | .executing baseline x (event :: live) =>
    some ((d.setTask i (some { t with phase := .executing baseline x live })).put
      (if queued then [.eventBatch [event]] else []))
  | _ => none

/-- The task after the handling of its command. -/
def DispatchTask.handled (t : DispatchTask) (x : Execution) : DispatchTask :=
  { t with
    phase := .delivering (eventBatches x.outcome.eventsToSend) x.outcome.status
      x.outcome.resultPayload }

/-- The daemon after a task handed its copy back. -/
def Daemon.merged (d : Daemon) (i : Nat) (t : DispatchTask) (baseline : NodeLocalState)
    (x : Execution) : Daemon :=
  { d.setTask i (some (t.handled x)) with
    owner := d.owner.mergeCommandStateFrom baseline x.localState
    persisted := t.command.commandId :: d.persisted }

def Daemon.persist (d : Daemon) (i : Nat) (t : DispatchTask) : Option Daemon :=
  match t.phase with
  | .executing baseline x [] =>
    if x.outcome.stateChanged then some (d.merged i t baseline x)
    else some (d.setTask i (some (t.handled x)))
  | _ => none

def Daemon.deliver (d : Daemon) (i : Nat) (queued : Bool) (t : DispatchTask) : Option Daemon :=
  match t.phase with
  | .delivering (batch :: batches) status payload =>
    if queued then
      some ((d.setTask i (some { t with phase := .delivering batches status payload })).put
        [.eventBatch batch])
    else some (d.setTask i none)
  | _ => none

def Daemon.result (d : Daemon) (i : Nat) (queued : Bool) (t : DispatchTask) : Option Daemon :=
  match t.phase with
  | .delivering [] status payload =>
    some ((d.setTask i none).put
      (if queued then [.commandResult t.command.commandId status payload] else []))
  | _ => none

def step (d : Daemon) : Action → Option Daemon
  | .dial =>
    match d.connection, d.owner.nodeId with
    | .down, some nodeId => some { d with connection := .dialing nodeId d.owner.eventOutbox }
    | _, _ => none
  | .connect =>
    match d.connection with
    | .dialing nodeId outbox =>
      some ({ d with
        connection := .up d.dispatchers (eventBatches outbox)
        dispatchers := d.dispatchers + 1 }.put [.hello currentProtocolVersion nodeId])
    | _ => none
  | .replay queued =>
    match d.connection with
    | .up dispatcher (batch :: replay) =>
      if queued then
        some ({ d with connection := .up dispatcher replay }.put [.eventBatch batch])
      else some { d with connection := .down }
    | _ => none
  | .receive command =>
    match d.connection with
    | .up dispatcher [] =>
      if d.admits command then
        some { d.setTask d.spawned (some ⟨dispatcher, command, .queued⟩) with
          spawned := d.spawned + 1
          received := command :: d.received }
      else none
    | _ => none
  | .refuse command closed =>
    match d.connection with
    | .up _ [] =>
      if d.admits command then
        some ({ d with received := command :: d.received }.put
          (dispatchErrorFrames command closed))
      else none
    | _ => none
  | .close =>
    match d.connection with
    | .up dispatcher _ =>
      some { d with connection := .down, aborted := dispatcher :: d.aborted }
    | _ => none
  | .fail =>
    match d.connection with
    | .down => none
    | _ => some { d with connection := .down }
  | .begin i => d.move i fun t => d.begin i t
  | .start i acknowledged world => d.move i fun t => d.startTask source i acknowledged world t
  | .emit i queued => d.move i fun t => d.emit i queued t
  | .persist i => d.move i fun t => d.persist i t
  | .deliver i queued => d.move i fun t => d.deliver i queued t
  | .result i queued => d.move i fun t => d.result i queued t
  | .stop i =>
    d.move i fun t => if d.aborted.contains t.dispatcher then some (d.setTask i none) else none
  | .mutate mutation =>
    if mutation.isMerge then none
    else some { d with owner := applyNodeStateMutation d.owner mutation }
  | .restart =>
    some { d with
      owner := d.owner.reload
      connection := .down
      tasks := fun _ => none }

end Steps

/-! ## 4. What one step of a task does -/

variable {source : EventSource} {d d' : Daemon} {i : Nat} {t : DispatchTask}

theorem Daemon.move_eq_some {f : DispatchTask → Option Daemon} (h : d.move i f = some d') :
    ∃ t, d.tasks i = some t ∧ f t = some d' := by
  exact Option.bind_eq_some_iff.mp h

theorem Daemon.begin_eq_some (h : d.begin i t = some d') :
    t.phase = .queued ∧
      (∀ u ∈ d.holding t.dispatcher, commandExecutionKey u.command ≠ commandExecutionKey t.command) ∧
      d' = d.setTask i (some { t with phase := .begun d.owner }) := by
  unfold Daemon.begin at h
  split at h
  · rename_i hphase
    dsimp only at h
    split at h
    · rename_i hfree
      refine ⟨hphase, fun u hu => ?_, (Option.some.inj h).symm⟩
      have hne := List.all_eq_true.mp hfree.2 u hu
      simpa using hne
    · cases h
  · cases h

theorem Daemon.startTask_eq_some {acknowledged : Bool} {world : World}
    (h : d.startTask source i acknowledged world t = some d') :
    ∃ baseline, t.phase = .begun baseline ∧
      ((acknowledged = true ∧ d' = d.started source i t baseline world) ∨
        (acknowledged = false ∧ d' = d.setTask i none)) := by
  unfold Daemon.startTask at h
  split at h
  · rename_i baseline hphase
    refine ⟨baseline, hphase, ?_⟩
    split at h
    · rename_i hack
      exact Or.inl ⟨hack, (Option.some.inj h).symm⟩
    · rename_i hack
      exact Or.inr ⟨by simpa using hack, (Option.some.inj h).symm⟩
  · cases h

theorem Daemon.emit_eq_some {queued : Bool} (h : d.emit i queued t = some d') :
    ∃ baseline x event live, t.phase = .executing baseline x (event :: live) ∧
      d' = (d.setTask i (some { t with phase := .executing baseline x live })).put
        (if queued then [.eventBatch [event]] else []) := by
  unfold Daemon.emit at h
  split at h
  · rename_i baseline x event live hphase
    exact ⟨baseline, x, event, live, hphase, (Option.some.inj h).symm⟩
  · cases h

theorem Daemon.persist_eq_some (h : d.persist i t = some d') :
    ∃ baseline x, t.phase = .executing baseline x [] ∧
      ((x.outcome.stateChanged = true ∧ d' = d.merged i t baseline x) ∨
        (x.outcome.stateChanged = false ∧ d' = d.setTask i (some (t.handled x)))) := by
  unfold Daemon.persist at h
  split at h
  · rename_i baseline x hphase
    refine ⟨baseline, x, hphase, ?_⟩
    split at h
    · rename_i hchanged
      exact Or.inl ⟨hchanged, (Option.some.inj h).symm⟩
    · rename_i hchanged
      exact Or.inr ⟨by simpa using hchanged, (Option.some.inj h).symm⟩
  · cases h

theorem Daemon.deliver_eq_some {queued : Bool} (h : d.deliver i queued t = some d') :
    ∃ batch batches status payload, t.phase = .delivering (batch :: batches) status payload ∧
      ((queued = true ∧
          d' = (d.setTask i (some { t with phase := .delivering batches status payload })).put
            [.eventBatch batch]) ∨
        d' = d.setTask i none) := by
  unfold Daemon.deliver at h
  split at h
  · rename_i batch batches status payload hphase
    refine ⟨batch, batches, status, payload, hphase, ?_⟩
    split at h
    · rename_i hqueued
      exact Or.inl ⟨hqueued, (Option.some.inj h).symm⟩
    · exact Or.inr (Option.some.inj h).symm
  · cases h

theorem Daemon.result_eq_some {queued : Bool} (h : d.result i queued t = some d') :
    ∃ status payload, t.phase = .delivering [] status payload ∧
      d' = (d.setTask i none).put
        (if queued then [.commandResult t.command.commandId status payload] else []) := by
  unfold Daemon.result at h
  split at h
  · rename_i status payload hphase
    exact ⟨status, payload, hphase, (Option.some.inj h).symm⟩
  · cases h

/-! ## 5. What one step of the daemon does -/

/-- The events of a frame. -/
def frameEvents : ControlFrame → List EventEnvelope
  | .eventBatch events => events
  | _ => []

/-- Every event the daemon put on the channel. -/
def Daemon.sentEvents (d : Daemon) : List EventEnvelope := d.sent.flatMap frameEvents

/-- Only the connection moved: what it has to replay comes from the store. -/
structure Linked (d d' : Daemon) : Prop where
  owner : d'.owner = d.owner
  tasks : d'.tasks = d.tasks
  spawned : d'.spawned = d.spawned
  received : d'.received = d.received
  numbered : d'.numbered = d.numbered
  persisted : d'.persisted = d.persisted
  connection : ∀ e ∈ d'.connection.stored, e ∈ d.owner.eventOutbox ∨ e ∈ d.connection.stored
  sent : ∀ e ∈ d'.sentEvents, e ∈ d.sentEvents ∨ e ∈ d.connection.stored

/-- **The steps of the daemon, case by case.** -/
inductive StepCase (source : EventSource) (d : Daemon) : Action → Daemon → Prop
  | linked {a : Action} {d' : Daemon} (h : Linked d d') : StepCase source d a d'
  | receive {command : CommandEnvelope} {dispatcher : Nat} (hadmits : d.admits command = true) :
      StepCase source d (.receive command)
        { d.setTask d.spawned (some ⟨dispatcher, command, .queued⟩) with
          spawned := d.spawned + 1
          received := command :: d.received }
  | refuse {command : CommandEnvelope} {closed : Bool} (hadmits : d.admits command = true) :
      StepCase source d (.refuse command closed)
        ({ d with received := command :: d.received }.put (dispatchErrorFrames command closed))
  | begin {i : Nat} {t : DispatchTask} (ht : d.tasks i = some t) (hphase : t.phase = .queued)
      (hfree : ∀ u ∈ d.holding t.dispatcher,
        commandExecutionKey u.command ≠ commandExecutionKey t.command) :
      StepCase source d (.begin i) (d.setTask i (some { t with phase := .begun d.owner }))
  | start {i : Nat} {t : DispatchTask} {baseline : NodeLocalState} {world : World}
      (ht : d.tasks i = some t) (hphase : t.phase = .begun baseline) :
      StepCase source d (.start i true world) (d.started source i t baseline world)
  | emit {i : Nat} {t : DispatchTask} {baseline : NodeLocalState} {x : Execution}
      {event : EventEnvelope} {live : List EventEnvelope} {queued : Bool}
      (ht : d.tasks i = some t) (hphase : t.phase = .executing baseline x (event :: live)) :
      StepCase source d (.emit i queued)
        ((d.setTask i (some { t with phase := .executing baseline x live })).put
          (if queued then [.eventBatch [event]] else []))
  | merge {i : Nat} {t : DispatchTask} {baseline : NodeLocalState} {x : Execution}
      (ht : d.tasks i = some t) (hphase : t.phase = .executing baseline x [])
      (hchanged : x.outcome.stateChanged = true) :
      StepCase source d (.persist i) (d.merged i t baseline x)
  | handle {i : Nat} {t : DispatchTask} {baseline : NodeLocalState} {x : Execution}
      (ht : d.tasks i = some t) (hphase : t.phase = .executing baseline x [])
      (hchanged : x.outcome.stateChanged = false) :
      StepCase source d (.persist i) (d.setTask i (some (t.handled x)))
  | deliver {i : Nat} {t : DispatchTask} {batch : List EventEnvelope}
      {batches : List (List EventEnvelope)} {status : CommandState} {payload : JsonValue}
      (ht : d.tasks i = some t)
      (hphase : t.phase = .delivering (batch :: batches) status payload) :
      StepCase source d (.deliver i true)
        ((d.setTask i (some { t with phase := .delivering batches status payload })).put
          [.eventBatch batch])
  | ended {a : Action} {i : Nat} {t : DispatchTask} {frames : List ControlFrame}
      (ht : d.tasks i = some t) (htaken : t.phase.taken = [] ∨ a = .stop i)
      (hframes : frames.flatMap frameEvents = []) :
      StepCase source d a ((d.setTask i none).put frames)
  | mutate {mutation : NodeStateMutation} (hmerge : mutation.isMerge = false) :
      StepCase source d (.mutate mutation)
        { d with owner := applyNodeStateMutation d.owner mutation }
  | restart :
      StepCase source d .restart
        { d with
          owner := d.owner.reload
          connection := .down
          tasks := fun _ => none }

theorem Daemon.put_nil (d : Daemon) : d.put [] = d := by
  unfold Daemon.put
  rw [List.append_nil]

/-- A task that is gone without a frame. -/
theorem StepCase.gone {a : Action} (ht : d.tasks i = some t)
    (htaken : t.phase.taken = [] ∨ a = .stop i) : StepCase source d a (d.setTask i none) := by
  rw [← (d.setTask i none).put_nil]
  exact .ended ht htaken rfl

theorem Daemon.sentEvents_put (d : Daemon) (frames : List ControlFrame) :
    (d.put frames).sentEvents = d.sentEvents ++ frames.flatMap frameEvents :=
  List.flatMap_append

theorem step_cases {a : Action} (h : step source d a = some d') : StepCase source d a d' := by
  cases a with
  | dial =>
    rw [step] at h
    split at h
    · obtain rfl := Option.some.inj h
      exact .linked ⟨rfl, rfl, rfl, rfl, rfl, rfl, fun e he => Or.inl he, fun e he => Or.inl he⟩
    · cases h
  | connect =>
    rw [step] at h
    split at h
    · rename_i nodeId outbox hconnection
      obtain rfl := Option.some.inj h
      refine .linked ⟨rfl, rfl, rfl, rfl, rfl, rfl, fun e he => Or.inr ?_, fun e he => ?_⟩
      · rw [hconnection]
        exact mem_of_mem_eventBatches he
      · rw [Daemon.sentEvents_put] at he
        rcases List.mem_append.mp he with he | he
        · exact Or.inl he
        · cases he
    · cases h
  | replay queued =>
    rw [step] at h
    split at h
    · rename_i dispatcher batch replay hconnection
      split at h
      · obtain rfl := Option.some.inj h
        refine .linked ⟨rfl, rfl, rfl, rfl, rfl, rfl, fun e he => Or.inr ?_, fun e he => ?_⟩
        · rw [hconnection]
          exact List.mem_append_right _ he
        · rw [Daemon.sentEvents_put] at he
          rcases List.mem_append.mp he with he | he
          · exact Or.inl he
          · rw [hconnection]
            exact Or.inr (List.mem_append_left _ (by simpa [frameEvents] using he))
      · obtain rfl := Option.some.inj h
        exact .linked ⟨rfl, rfl, rfl, rfl, rfl, rfl, fun e he => (by cases he),
          fun e he => Or.inl he⟩
    · cases h
  | receive command =>
    rw [step] at h
    split at h
    · split at h
      · rename_i hadmits
        obtain rfl := Option.some.inj h
        exact .receive hadmits
      · cases h
    · cases h
  | refuse command closed =>
    rw [step] at h
    split at h
    · split at h
      · rename_i hadmits
        obtain rfl := Option.some.inj h
        exact .refuse hadmits
      · cases h
    · cases h
  | close =>
    rw [step] at h
    split at h
    · obtain rfl := Option.some.inj h
      exact .linked ⟨rfl, rfl, rfl, rfl, rfl, rfl, fun e he => (by cases he), fun e he => Or.inl he⟩
    · cases h
  | fail =>
    rw [step] at h
    split at h
    · cases h
    · obtain rfl := Option.some.inj h
      exact .linked ⟨rfl, rfl, rfl, rfl, rfl, rfl, fun e he => (by cases he), fun e he => Or.inl he⟩
  | begin i =>
    obtain ⟨t, ht, h⟩ := Daemon.move_eq_some h
    obtain ⟨hphase, hfree, rfl⟩ := Daemon.begin_eq_some h
    exact .begin ht hphase hfree
  | start i acknowledged world =>
    obtain ⟨t, ht, h⟩ := Daemon.move_eq_some h
    obtain ⟨baseline, hphase, h⟩ := Daemon.startTask_eq_some h
    rcases h with ⟨rfl, rfl⟩ | ⟨-, rfl⟩
    · exact .start ht hphase
    · exact .gone ht (Or.inl (by rw [hphase]; rfl))
  | emit i queued =>
    obtain ⟨t, ht, h⟩ := Daemon.move_eq_some h
    obtain ⟨baseline, x, event, live, hphase, rfl⟩ := Daemon.emit_eq_some h
    exact .emit ht hphase
  | persist i =>
    obtain ⟨t, ht, h⟩ := Daemon.move_eq_some h
    obtain ⟨baseline, x, hphase, h⟩ := Daemon.persist_eq_some h
    rcases h with ⟨hchanged, rfl⟩ | ⟨hchanged, rfl⟩
    · exact .merge ht hphase hchanged
    · exact .handle ht hphase hchanged
  | deliver i queued =>
    obtain ⟨t, ht, h⟩ := Daemon.move_eq_some h
    obtain ⟨batch, batches, status, payload, hphase, h⟩ := Daemon.deliver_eq_some h
    rcases h with ⟨rfl, rfl⟩ | rfl
    · exact .deliver ht hphase
    · exact .gone ht (Or.inl (by rw [hphase]; rfl))
  | result i queued =>
    obtain ⟨t, ht, h⟩ := Daemon.move_eq_some h
    obtain ⟨status, payload, hphase, rfl⟩ := Daemon.result_eq_some h
    refine .ended ht (Or.inl (by rw [hphase]; rfl)) ?_
    cases queued with
    | true => rfl
    | false => rfl
  | stop i =>
    obtain ⟨t, ht, h⟩ := Daemon.move_eq_some h
    split at h
    · obtain rfl := Option.some.inj h
      exact .gone ht (Or.inr rfl)
    · cases h
  | mutate mutation =>
    rw [step] at h
    split at h
    · cases h
    · rename_i hmerge
      obtain rfl := Option.some.inj h
      exact .mutate (by simpa using hmerge)
  | restart =>
    obtain rfl := Option.some.inj h
    exact .restart

/-! ## 6. The daemon's tasks -/

theorem tasks_setTask {task : Option DispatchTask} {j : Nat} {u : DispatchTask}
    (h : (d.setTask i task).tasks j = some u) :
    (j = i ∧ task = some u) ∨ (j ≠ i ∧ d.tasks j = some u) := by
  unfold Daemon.setTask at h
  by_cases hji : j = i
  · subst hji
    exact Or.inl ⟨rfl, by simpa using h⟩
  · exact Or.inr ⟨hji, by simpa [Function.update_of_ne hji] using h⟩

/-- Tasks have the positions of those that were spawned, their commands were received, and what
    was received is as Core delivers it. -/
structure Daemon.WellFormed (d : Daemon) : Prop where
  occupied : ∀ i t, d.tasks i = some t → i < d.spawned
  received : ∀ i t, d.tasks i = some t → t.command ∈ d.received
  matching : ∀ c ∈ d.received, c.payload.matchesKind c.kind = true
  same : ∀ c ∈ d.received, ∀ c' ∈ d.received, c.commandId = c'.commandId → c = c'

theorem Daemon.WellFormed.matchesKind (h : d.WellFormed) (ht : d.tasks i = some t) :
    t.command.payload.matchesKind t.command.kind = true :=
  h.matching _ (h.received i t ht)

theorem Daemon.WellFormed.of_eq (h : d.WellFormed) (hspawned : d'.spawned = d.spawned)
    (hreceived : d'.received = d.received)
    (htasks : ∀ j u, d'.tasks j = some u → ∃ v, d.tasks j = some v ∧ v.command = u.command) :
    d'.WellFormed := by
  refine ⟨fun j u hu => ?_, fun j u hu => ?_, ?_, ?_⟩
  · obtain ⟨v, hv, -⟩ := htasks j u hu
    rw [hspawned]
    exact h.occupied j v hv
  · obtain ⟨v, hv, hcommand⟩ := htasks j u hu
    rw [hreceived, ← hcommand]
    exact h.received j v hv
  · rw [hreceived]
    exact h.matching
  · rw [hreceived]
    exact h.same

/-- A command Core delivers joins those it delivered. -/
theorem Daemon.WellFormed.admit (h : d.WellFormed) {command : CommandEnvelope}
    (hadmits : d.admits command = true) :
    (∀ c ∈ command :: d.received, c.payload.matchesKind c.kind = true) ∧
      ∀ c ∈ command :: d.received, ∀ c' ∈ command :: d.received,
        c.commandId = c'.commandId → c = c' := by
  obtain ⟨hmatches, hsame⟩ : command.payload.matchesKind command.kind = true ∧
      ∀ c ∈ d.received, c.commandId = command.commandId → c = command := by
    simp only [Daemon.admits, Bool.and_eq_true, List.all_eq_true, Bool.or_eq_true, bne_iff_ne,
      beq_iff_eq] at hadmits
    exact ⟨hadmits.1, fun c hc hid => (hadmits.2 c hc).resolve_left (not_not.mpr hid)⟩
  refine ⟨fun c hc => ?_, fun c hc c' hc' hid => ?_⟩
  · rcases List.mem_cons.mp hc with rfl | hc
    · exact hmatches
    · exact h.matching c hc
  · rcases List.mem_cons.mp hc with hnew | hold <;> rcases List.mem_cons.mp hc' with hnew' | hold'
    · exact hnew.trans hnew'.symm
    · rw [hnew] at hid ⊢
      exact (hsame c' hold' hid.symm).symm
    · rw [hnew'] at hid ⊢
      exact hsame c hold hid
    · exact h.same c hold c' hold' hid

/-- A task that stays, moves on with its command or is gone. -/
theorem Daemon.WellFormed.moveTask {task : Option DispatchTask} (h : d.WellFormed)
    (ht : d.tasks i = some t) (htask : ∀ u, task = some u → u.command = t.command)
    (htasks : d'.tasks = (d.setTask i task).tasks) (hspawned : d'.spawned = d.spawned)
    (hreceived : d'.received = d.received) : d'.WellFormed := by
  refine h.of_eq hspawned hreceived fun j u hu => ?_
  rw [htasks] at hu
  rcases tasks_setTask hu with ⟨hji, hu'⟩ | ⟨-, hu'⟩
  · subst hji
    exact ⟨t, ht, (htask u hu').symm⟩
  · exact ⟨u, hu', rfl⟩

theorem Daemon.WellFormed.step {a : Action} (h : d.WellFormed) (hc : StepCase source d a d') :
    d'.WellFormed := by
  cases hc with
  | linked hl =>
    exact h.of_eq hl.spawned hl.received fun j u hu => ⟨u, by rwa [hl.tasks] at hu, rfl⟩
  | receive hadmits =>
    obtain ⟨hmatching, hsame⟩ := h.admit hadmits
    refine ⟨fun j u hu => ?_, fun j u hu => ?_, hmatching, hsame⟩
    · rcases tasks_setTask hu with ⟨hj, -⟩ | ⟨-, hu'⟩
      · exact hj ▸ Nat.lt_succ_self _
      · exact Nat.lt_succ_of_lt (h.occupied j u hu')
    · rcases tasks_setTask hu with ⟨-, hu'⟩ | ⟨-, hu'⟩
      · obtain rfl := Option.some.inj hu'
        exact List.mem_cons_self
      · exact List.mem_cons_of_mem _ (h.received j u hu')
  | refuse hadmits =>
    obtain ⟨hmatching, hsame⟩ := h.admit hadmits
    exact ⟨h.occupied, fun j u hu => List.mem_cons_of_mem _ (h.received j u hu), hmatching, hsame⟩
  | begin ht _ _ | start ht _ | emit ht _ | merge ht _ _ | handle ht _ _ | deliver ht _ =>
    refine h.moveTask ht (fun u hu => ?_) rfl rfl rfl
    obtain rfl := Option.some.inj hu
    rfl
  | ended ht _ _ => exact h.moveTask ht (fun u hu => (by cases hu)) rfl rfl rfl
  | mutate _ => exact h.of_eq rfl rfl fun j u hu => ⟨u, hu, rfl⟩
  | restart => exact h.of_eq rfl rfl fun j u hu => (by cases hu)

theorem wellFormed_start (loaded : NodeLocalState) : (Daemon.start loaded).WellFormed where
  occupied i t ht := by cases ht
  received i t ht := by cases ht
  matching c hc := by cases hc
  same c hc := by cases hc

theorem wellFormed_step {a : Action} (h : d.WellFormed) (hstep : step source d a = some d') :
    d'.WellFormed := h.step (step_cases hstep)

/-- Whether every task, by its position, satisfies `p`. -/
def Daemon.allTasks (d : Daemon) (p : Nat → DispatchTask → Bool) : Bool :=
  (List.range d.spawned).all fun i => (d.tasks i).all (p i)

theorem Daemon.WellFormed.of_allTasks (h : d.WellFormed) {p : Nat → DispatchTask → Bool}
    (hp : d.allTasks p = true) (ht : d.tasks i = some t) : p i t = true := by
  have hi := List.all_eq_true.mp hp i (List.mem_range.mpr (h.occupied i t ht))
  rw [ht] at hi
  exact hi

end Uprava.Node
