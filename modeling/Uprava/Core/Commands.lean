/-
  File:      Uprava/Core/Commands.lean
  Subject:   The statements and checks of Core's command lifecycle: recording a command, moving it
             from state to state, storing its result, expiring it, and what a Node's frame about it
             has to satisfy.

  Every function here is one transaction, or one check that reads one row. How they interleave is
  the subject of `CommandLifecycle.lean`.
-/
import Mathlib.Data.List.Sort
import Uprava.Core.Database

namespace Uprava.Core

open Uprava.Protocol

/-! ## 1. Actors -/

/-- The key, the kind and the display name of an actor. -/
def actorIdentity : ActorRef → String × String × String
  | .localUser (some actorId) => ("local_user:" ++ actorId, "local_user", "Local user")
  | .localUser none => ("local_user", "local_user", "Local user")
  | .system => ("system", "system", "System")
  | .node nodeId => ("node:" ++ nodeId, "node", "Node " ++ nodeId)
  | .provider provider => ("provider:" ++ provider, "provider", "Provider " ++ provider)
  | .unknown => ("unknown", "unknown", "Unknown")

/-- `insert into actors … on conflict(actor_key) do update`. -/
def upsertActor (db : Database) (actorRef : ActorRef) (seenAt : DateTime) : Database :=
  let (actorKey, actorKind, displayName) := actorIdentity actorRef
  match db.actors.insert? ⟨actorKey, actorKind, displayName, actorRef, seenAt, seenAt⟩ with
  | some actors => { db with actors }
  | none =>
    { db with
      actors := db.actors.update (·.actorKey == actorKey)
        (fun r => { r with actorRef, displayName, lastSeenAt := seenAt }) ⟨fun _ _ => Iff.rfl⟩ }

theorem upsertActor_eq (db : Database) (actorRef : ActorRef) (seenAt : DateTime) :
    ∃ actors, upsertActor db actorRef seenAt = { db with actors } := by
  unfold upsertActor
  split
  exact (by split <;> exact ⟨_, rfl⟩)

/-! ## 2. Recording and moving a command -/

def Database.findCommand? (db : Database) (commandId : CommandId) : Option CommandRow :=
  db.commands.find? (·.commandId == commandId)

/-- The row a recorded command starts from. -/
def CommandRow.recorded (command : CommandEnvelope) : CommandRow where
  commandId := command.commandId
  kind := command.kind
  state := .recorded
  targetNodeId := command.target.nodeId
  sessionThreadId := command.target.sessionThreadId
  runtimeSessionId := command.target.runtimeSessionId
  projectPlacementId := command.target.projectPlacementId
  payload := command.payload
  resultPayload := none
  command := command
  createdAt := command.issuedAt
  completedAt := none

/-- The command's row and its outbox row, in one transaction. -/
def recordCommand (db : Database) (command : CommandEnvelope) : Except AppError Database :=
  if !command.payload.matchesKind command.kind then
    .error (.badRequest "protocol.command_payload_mismatch"
      "Command payload does not match its command kind")
  else
    let db := upsertActor db command.actorRef command.issuedAt
    match db.commands.insert? (.recorded command) with
    | none => .error (.database "commands.command_id")
    | some commands =>
      .ok { db with
        commands
        commandOutbox := db.commandOutbox.insertOrIgnore
          ⟨command.commandId, command.target.nodeId, command, 0, command.issuedAt, none⟩ }

/-- When a state is terminal, the moment it was entered. -/
def completedAt (commandState : CommandState) (now : DateTime) : Option DateTime :=
  if isTerminalCommandState commandState then some now else none

/-- A terminal command leaves the outbox. -/
def Database.dropTerminal (db : Database) (commandId : CommandId) (commandState : CommandState) :
    Database :=
  if isTerminalCommandState commandState then
    { db with commandOutbox := db.commandOutbox.delete (·.commandId == commandId) }
  else db

def CommandRow.setState (s : CommandState) (now : DateTime) (r : CommandRow) : CommandRow :=
  { r with state := s, completedAt := (Core.completedAt s now).or r.completedAt }

def CommandRow.setResult (s : CommandState) (payload : JsonValue) (now : DateTime)
    (r : CommandRow) : CommandRow :=
  { r.setState s now with resultPayload := some payload }

/-- What is set keeps its value; what is not set yet is set. -/
def CommandRow.setTerminal (s : CommandState) (payload : JsonValue) (completedAt : DateTime)
    (r : CommandRow) : CommandRow :=
  { r with
    state := s
    completedAt := r.completedAt.or (some completedAt)
    resultPayload := r.resultPayload.or (some payload) }

/-- Writes the state whatever the row's state is. -/
def updateCommandState (db : Database) (commandId : CommandId) (commandState : CommandState)
    (now : DateTime) : Database :=
  Database.dropTerminal
    { db with
      commands := db.commands.update (·.commandId == commandId) (.setState commandState now)
        ⟨fun _ _ => Iff.rfl⟩ }
    commandId commandState

/-- Writes the state and the result whatever the row's state is. -/
def updateCommandResult (db : Database) (commandId : CommandId) (commandState : CommandState)
    (resultPayload : JsonValue) (now : DateTime) : Database :=
  Database.dropTerminal
    { db with
      commands := db.commands.update (·.commandId == commandId)
        (.setResult commandState resultPayload now) ⟨fun _ _ => Iff.rfl⟩ }
    commandId commandState

/-- The row of the command, if it is not terminal. -/
def CommandRow.unfinished (commandId : CommandId) (r : CommandRow) : Bool :=
  r.commandId == commandId && !isTerminalCommandState r.state

/-- The guarded write: only a row that is not terminal yet is changed. The second component says
    whether there was one. -/
def markCommandTerminalIfNonterminal (db : Database) (commandId : CommandId)
    (commandState : CommandState) (resultPayload : JsonValue) (completedAt : DateTime) :
    Database × Bool :=
  if (db.commands.select (CommandRow.unfinished commandId)).isEmpty then (db, false)
  else
    ({ db with
        commands := db.commands.update (CommandRow.unfinished commandId)
          (.setTerminal commandState resultPayload completedAt) ⟨fun _ _ => Iff.rfl⟩
        commandOutbox := db.commandOutbox.delete (·.commandId == commandId) },
      true)

@[simp] theorem dropTerminal_commands (db : Database) (commandId : CommandId) (s : CommandState) :
    (db.dropTerminal commandId s).commands = db.commands := by
  unfold Database.dropTerminal
  split <;> rfl

/-! ## 3. Expiry -/

structure WorkspaceCommandHistoryItem where
  commandId : CommandId
  state : CommandState
  createdAt : DateTime
  payload : CommandPayload
  deriving DecidableEq

/-- The item a history read makes of a row. -/
def CommandRow.historyItem (r : CommandRow) : WorkspaceCommandHistoryItem :=
  ⟨r.commandId, r.state, r.createdAt, r.payload⟩

/-- The `request` entry of a command payload's JSON. -/
def commandPayloadRequest : CommandPayload → Option JsonValue
  | .writeWorkspaceFile _ request | .runWorkspaceCommand _ request
  | .readWorkspaceDiff _ request | .openWorkspaceTerminal _ request
  | .attachWorkspaceTerminal request | .resizeWorkspaceTerminal request
  | .writeWorkspaceTerminal request | .closeWorkspaceTerminal request => some request
  | _ => none

/-- `WORKSPACE_INTERVENTION_TIMEOUT`, in seconds. -/
def workspaceInterventionTimeout : Int := 120

/-- When the item counts as expired: its timeout, held between one second and the maximum, and ten
    seconds of grace. -/
def WorkspaceCommandHistoryItem.deadline (item : WorkspaceCommandHistoryItem) : DateTime :=
  let timeoutSeconds := (((commandPayloadRequest item.payload).bind
    (·.get "timeout_seconds")).bind (·.asInt)).getD workspaceInterventionTimeout
  item.createdAt + (max 1 (min workspaceInterventionTimeout timeoutSeconds) + 10)

def workspaceExpiredPayload : JsonValue :=
  .ofFields [("error_code", .string "workspace.command_expired"),
    ("message", .string "Workspace command expired before a terminal node result arrived")]

/-- Expires the command of an item that was read earlier, unless the item is terminal or not due. -/
def expireWorkspaceCommandIfDue (db : Database) (item : WorkspaceCommandHistoryItem)
    (now : DateTime) : Database × Bool :=
  if isTerminalCommandState item.state then (db, false)
  else if now < item.deadline then (db, false)
  else markCommandTerminalIfNonterminal db item.commandId .expired workspaceExpiredPayload now

/-! ## 4. Dispatch -/

/-- The states a command waits in for its Node. -/
def awaitsNode : CommandState → Bool
  | .recorded | .pendingDispatch | .dispatched | .acknowledged => true
  | _ => false

theorem awaitsNode_eq_not_terminal (s : CommandState) :
    awaitsNode s = !isTerminalCommandState s := by
  cases s <;> rfl

/-- `order by enqueued_at asc, command_id asc`. -/
def CommandOutboxRow.before (a b : CommandOutboxRow) : Bool :=
  a.enqueuedAt < b.enqueuedAt || (a.enqueuedAt == b.enqueuedAt && a.commandId ≤ b.commandId)

/-- The select of a dispatch: the Node's outbox rows whose command still waits for it. -/
def pendingDispatches (db : Database) (nodeId : NodeId) : List CommandEnvelope :=
  let rows := db.commandOutbox.select fun o => o.targetNodeId == nodeId &&
    (db.commands.find? fun c => c.commandId == o.commandId && awaitsNode c.state).isSome
  (rows.insertionSort fun a b => a.before b = true).map (·.command)

/-- `attempts = attempts + 1`. -/
def countDispatchAttempt (db : Database) (commandId : CommandId) (now : DateTime) : Database :=
  { db with
    commandOutbox := db.commandOutbox.update (·.commandId == commandId)
      (fun r => { r with attempts := r.attempts + 1, lastAttemptAt := some now })
      ⟨fun _ _ => Iff.rfl⟩ }

/-- The rows `should_open_control_channel` counts as pending for a Node. -/
def pendingCommands (db : Database) (nodeId : NodeId) : List CommandRow :=
  db.commands.select fun c => c.targetNodeId == nodeId && awaitsNode c.state

/-- Whether a Node without a connection is asked to open one. -/
def shouldOpenControlChannel (db : Database) (connected : Bool) (nodeId : NodeId) : Bool :=
  if connected then false
  else if 0 < (pendingCommands db nodeId).length then true
  else 0 < (db.mcpDependencyInstances.select
    fun d => d.nodeId == nodeId && d.desiredState == "enabled").length

/-! ## 5. Checks on a Node's frames -/

/-- What decoding a result as its kind's response type finds: the part of the decoded value a
    result is checked by, or nothing when the payload does not decode. -/
structure ResultCodec where
  placementId : CommandKind → JsonValue → Option ProjectPlacementId
  deduction : JsonValue → Option (DeductionId × String × String)
  taskRunId : JsonValue → Option TaskRunId

def deductionSchemaVersion : String := "uprava.deduction.v1"

def resultPayloadInvalid : AppError :=
  .badRequest "control.command_result_payload_invalid"
    "Command result payload does not match its command kind"

/-- A result names the target of its command. -/
def validateCommandResultEcho (codec : ResultCodec) (command : CommandEnvelope)
    (status : CommandState) (payload : JsonValue) : Except AppError Unit :=
  if status ≠ .completed then .ok ()
  else
    match command.kind with
    | .listWorkspaceTree | .readWorkspaceFile | .writeWorkspaceFile | .runWorkspaceCommand
    | .readWorkspaceDiff | .openWorkspaceTerminal =>
      match codec.placementId command.kind payload with
      | none => .error resultPayloadInvalid
      | some actual =>
        if command.target.projectPlacementId ≠ some actual then
          .error (.badRequest "control.command_result_target_mismatch"
            "Command result Placement does not match the command target")
        else .ok ()
    | .requestDeduction =>
      match codec.deduction payload, command.payload with
      | none, _ => .error resultPayloadInvalid
      | some (deductionId, evidenceSnapshotHash, schemaVersion), .requestDeduction package =>
        if deductionId ≠ package.deductionId ∨ evidenceSnapshotHash ≠ package.evidenceSnapshotHash ∨
            schemaVersion ≠ deductionSchemaVersion then
          .error (.badRequest "control.command_result_target_mismatch"
            "Deduction result does not match its evidence package")
        else .ok ()
      | some _, _ => .error (.badRequest "control.command_result_payload_invalid"
          "Deduction command payload is invalid")
    | .runTask =>
      match codec.taskRunId payload with
      | none => .error resultPayloadInvalid
      | some taskRunId =>
        if command.target.taskRunId ≠ some taskRunId then
          .error (.badRequest "control.command_result_target_mismatch"
            "Task Run result does not match the command target")
        else .ok ()
    | _ => .ok ()

def validateCommandAck (db : Database) (nodeId : NodeId) (commandId : CommandId)
    (status : CommandState) : Except AppError Unit :=
  match db.findCommand? commandId with
  | none => .error (.notFound "control.command_not_found" "Command not found")
  | some row =>
    if row.targetNodeId ≠ nodeId then
      .error (.auth "control.command_owner_mismatch" "Command belongs to another Node")
    else if status ≠ .acknowledged then
      .error (.badRequest "control.command_ack_state_invalid"
        "Command ACK must use acknowledged state")
    else if row.state = .dispatched ∨ row.state = .acknowledged then .ok ()
    else
      .error (.badRequest "control.command_transition_invalid"
        "Command cannot be acknowledged from its current state")

/-- A terminal command accepts its own result again and no other; a command that waits accepts a
    result from any state but `recorded`. -/
def validateCommandResult (codec : ResultCodec) (db : Database) (nodeId : NodeId)
    (commandId : CommandId) (status : CommandState) (payload : JsonValue) :
    Except AppError Unit :=
  match db.findCommand? commandId with
  | none => .error (.notFound "control.command_not_found" "Command not found")
  | some row =>
    if row.targetNodeId ≠ nodeId then
      .error (.auth "control.command_owner_mismatch" "Command belongs to another Node")
    else if !isTerminalCommandState status then
      .error (.badRequest "control.command_result_state_invalid"
        "Command result must use a terminal state")
    else
      match validateCommandResultEcho codec row.command status payload with
      | .error e => .error e
      | .ok () =>
        if isTerminalCommandState row.state then
          if row.state ≠ status ∨ row.resultPayload ≠ some payload then
            .error (.badRequest "control.command_result_conflict"
              "Command already has a different terminal result")
          else .ok ()
        else if row.state = .pendingDispatch ∨ row.state = .dispatched ∨
            row.state = .acknowledged then .ok ()
        else
          .error (.badRequest "control.command_transition_invalid"
            "Command cannot accept a result from its current state")

/-- `durable_command_result_payload`: what is stored of a result. -/
def durableCommandResultPayload (payload : JsonValue) : JsonValue :=
  payload.remove "authorization_url"

end Uprava.Core
