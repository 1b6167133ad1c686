/-
  File:      Uprava/Core/EventOwner.lean
  Subject:   Who owns a row of Core, and what `validate_event_owner` checks of an event before it is
             accepted from an authenticated Node.

  Ownership goes through foreign keys: a placement belongs to its Node, a session to its
  placement's, a runtime to its session's. The checks are the source's, in its order; what they
  establish together is `validateEventOwner_ok`.
-/
import Uprava.Core.Database

namespace Uprava.Core

open Uprava.Protocol

/-! ## 1. Owners -/

namespace Database

variable (db : Database)

def findPlacement? (id : ProjectPlacementId) : Option PlacementRow :=
  db.projectPlacements.find? (·.projectPlacementId == id)

def findSession? (id : SessionThreadId) : Option SessionRow :=
  db.sessionThreads.find? (·.sessionThreadId == id)

def findRuntime? (id : RuntimeSessionId) : Option RuntimeRow :=
  db.runtimeSessions.find? (·.runtimeSessionId == id)

def findTaskRun? (id : TaskRunId) : Option TaskRunRow := db.taskRuns.find? (·.taskRunId == id)

def placementOwner (id : ProjectPlacementId) : Option NodeId :=
  (db.findPlacement? id).map (·.nodeId)

def sessionOwner (id : SessionThreadId) : Option NodeId :=
  (db.findSession? id).bind fun s => db.placementOwner s.projectPlacementId

def runtimeOwner (id : RuntimeSessionId) : Option NodeId :=
  (db.findRuntime? id).bind fun r => db.sessionOwner r.sessionThreadId

end Database

/-! ## 2. The checks -/

/-- A check, and the error of failing it. -/
def require (p : Prop) [Decidable p] (code message : String) : Except AppError Unit :=
  if p then .ok () else .error (.auth code message)

@[simp] theorem require_eq_ok {p : Prop} [Decidable p] {code message : String} :
    require p code message = .ok () ↔ p := by
  unfold require
  split <;> simp_all

def validateRuntimeOwner (db : Database) (nodeId : NodeId) (runtimeId : RuntimeSessionId) :
    Except AppError Unit :=
  require (db.runtimeOwner runtimeId = some nodeId) "control.event_runtime_mismatch"
    "Event runtime belongs to another Node"

def validatePlacementOwner (db : Database) (nodeId : NodeId) (placementId : ProjectPlacementId) :
    Except AppError Unit :=
  require (db.placementOwner placementId = some nodeId) "control.event_placement_mismatch"
    "Event Placement belongs to another Node"

def validateEventNode (nodeId : NodeId) (event : EventEnvelope) : Except AppError Unit :=
  require (event.nodeId = some nodeId) "control.event_node_mismatch"
    "Event node id does not match the authenticated Node"

def validateEventActor (nodeId : NodeId) (event : EventEnvelope) : Except AppError Unit :=
  match event.actorRef with
  | .node actorNode =>
    require (actorNode = nodeId) "control.event_actor_mismatch" "Event actor belongs to another Node"
  | _ => .ok ()

def eventScopePlacementId (event : EventEnvelope) : Option ProjectPlacementId :=
  match event.scopeRef with
  | .placement projectPlacementId => some projectPlacementId
  | _ => none

def isTaskRunScope : ScopeRef → Bool
  | .taskRun _ => true
  | _ => false

/-- A command that names a placement and neither a session nor a runtime is answered in the scope
    of the placement, or of a task run. -/
def commandPlacementMismatch (command : CommandRow) (event : EventEnvelope) : Bool :=
  command.sessionThreadId.isNone && command.runtimeSessionId.isNone &&
    command.projectPlacementId.isSome && !isTaskRunScope event.scopeRef &&
    eventScopePlacementId event != command.projectPlacementId

/-- A task run's scope is the one its command started. -/
def taskScopeMismatch (db : Database) (commandId : CommandId) (event : EventEnvelope) : Bool :=
  match event.scopeRef with
  | .taskRun taskRunId =>
    (db.taskRuns.select fun r => r.taskRunId == taskRunId && r.commandId == commandId).isEmpty
  | _ => false

/-- An event that names a command has the command's target and context. -/
def validateEventCommand (db : Database) (nodeId : NodeId) (event : EventEnvelope) :
    Except AppError Unit :=
  match event.commandId with
  | none => .ok ()
  | some commandId =>
    match db.commands.find? (·.commandId == commandId) with
    | none =>
      .error (.auth "control.event_command_mismatch"
        "Event command does not belong to the authenticated Node")
    | some command =>
      require
        (command.targetNodeId = nodeId ∧ event.sessionThreadId = command.sessionThreadId ∧
          event.runtimeSessionId = command.runtimeSessionId ∧
          commandPlacementMismatch command event = false ∧
          taskScopeMismatch db commandId event = false)
        "control.event_command_mismatch"
        "Event command context does not match its durable target"

/-- A runtime and a session named together are of one aggregate. -/
def validateEventContext (db : Database) (event : EventEnvelope) : Except AppError Unit :=
  match event.runtimeSessionId, event.sessionThreadId with
  | some runtimeId, some sessionId =>
    require ((db.findRuntime? runtimeId).map (·.sessionThreadId) = some sessionId)
      "control.event_context_mismatch"
      "Event runtime and session do not belong to the same aggregate"
  | _, _ => .ok ()

def validateEventRuntime (db : Database) (nodeId : NodeId) (event : EventEnvelope) :
    Except AppError Unit :=
  match event.runtimeSessionId with
  | some runtimeId => validateRuntimeOwner db nodeId runtimeId
  | none => .ok ()

def validateEventSession (db : Database) (nodeId : NodeId) (event : EventEnvelope) :
    Except AppError Unit :=
  match event.sessionThreadId with
  | some sessionId =>
    require (db.sessionOwner sessionId = some nodeId) "control.event_session_mismatch"
      "Event session does not belong to the authenticated Node"
  | none => .ok ()

def validateEventScope (db : Database) (nodeId : NodeId) (event : EventEnvelope) :
    Except AppError Unit :=
  match event.scopeRef with
  | .node scopeNode =>
    require (scopeNode = nodeId) "control.event_scope_mismatch" "Event scope belongs to another Node"
  | .runtime runtimeSessionId =>
    if event.runtimeSessionId ≠ some runtimeSessionId then
      .error (.auth "control.event_scope_mismatch"
        "Event runtime scope does not match its envelope runtime")
    else validateRuntimeOwner db nodeId runtimeSessionId
  | .session sessionThreadId =>
    if event.sessionThreadId ≠ some sessionThreadId then
      .error (.auth "control.event_scope_mismatch"
        "Event session scope does not match its envelope session")
    else
      require (db.sessionOwner sessionThreadId = some nodeId) "control.event_scope_mismatch"
        "Event scope belongs to another Node"
  | .placement projectPlacementId => validatePlacementOwner db nodeId projectPlacementId
  | .taskRun taskRunId =>
    require ((db.findTaskRun? taskRunId).map (·.nodeId) = some nodeId)
      "control.event_scope_mismatch" "Task Run event scope belongs to another Node"
  | .unknown _ => .ok ()

def validateEventOwner (db : Database) (nodeId : NodeId) (event : EventEnvelope) :
    Except AppError Unit := do
  validateEventNode nodeId event
  validateEventActor nodeId event
  validateEventCommand db nodeId event
  validateEventContext db event
  validateEventRuntime db nodeId event
  validateEventSession db nodeId event
  validateEventScope db nodeId event

/-! ## 3. What they establish -/

/-- Two checks in a row pass when both do. -/
theorem except_seq_eq_ok {ε : Type} {x y : Except ε Unit} :
    (x >>= fun _ => y) = .ok () ↔ x = .ok () ∧ y = .ok () := by
  rw [bind_eq_ok]
  exact ⟨fun ⟨(), hx, hy⟩ => ⟨hx, hy⟩, fun ⟨hx, hy⟩ => ⟨(), hx, hy⟩⟩

theorem validateEventOwner_eq_ok {db : Database} {nodeId : NodeId} {event : EventEnvelope} :
    validateEventOwner db nodeId event = .ok () ↔
      validateEventNode nodeId event = .ok () ∧ validateEventActor nodeId event = .ok () ∧
      validateEventCommand db nodeId event = .ok () ∧ validateEventContext db event = .ok () ∧
      validateEventRuntime db nodeId event = .ok () ∧
      validateEventSession db nodeId event = .ok () ∧
      validateEventScope db nodeId event = .ok () := by
  unfold validateEventOwner
  simp only [except_seq_eq_ok]

/-- **What an event that passed is known to name**: its Node, and a runtime, a session and a scope
    of that Node. -/
structure EventOwned (db : Database) (nodeId : NodeId) (event : EventEnvelope) : Prop where
  node : event.nodeId = some nodeId
  runtime : ∀ r, event.runtimeSessionId = some r → db.runtimeOwner r = some nodeId
  session : ∀ s, event.sessionThreadId = some s → db.sessionOwner s = some nodeId
  placement : ∀ p, event.scopeRef = .placement p → db.placementOwner p = some nodeId
  taskRun : ∀ t, event.scopeRef = .taskRun t →
    (db.findTaskRun? t).map (·.nodeId) = some nodeId

theorem validateEventOwner_ok {db : Database} {nodeId : NodeId} {event : EventEnvelope}
    (h : validateEventOwner db nodeId event = .ok ()) : EventOwned db nodeId event := by
  obtain ⟨hnode, -, -, -, hruntime, hsession, hscope⟩ := validateEventOwner_eq_ok.mp h
  refine ⟨by simpa [validateEventNode] using hnode, fun r hr => ?_, fun s hs => ?_, fun p hp => ?_,
    fun t ht => ?_⟩
  · simpa [validateEventRuntime, hr, validateRuntimeOwner] using hruntime
  · simpa [validateEventSession, hs] using hsession
  · simpa [validateEventScope, hp, validatePlacementOwner] using hscope
  · simpa [validateEventScope, ht] using hscope

end Uprava.Core
