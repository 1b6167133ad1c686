/-
  File:      Uprava/Core/Integrations.lean
  Subject:   Connecting and disconnecting an integration beside the reports of its Nodes: the calls
             in flight, statement by statement, and whether a disconnect lasts until the next
             connect.

  A status carries the desired state its Node knew when it observed it, and `persist_dependency_status`
  stores it over Core's. The connection is read before it is written, and the rows of a snapshot
  are selected before its commands are created. `Integrations.log` is what the calls have committed,
  the newest first.

  * `disconnect_final_iff`: a disconnect lasts exactly when, while it does, no status is stored that
    says enabled, no connection is written as connected, and no command is created from a row that
    was enabled when it was selected.
-/
import Uprava.Lib.Run
import Uprava.Core.ToolReports

namespace Uprava.Core

open Uprava.Protocol
open Uprava.Lib (Schema Table run Meets Throughout throughout_iff_meets)
open Uprava.Lib.Table

/-! ## 1. Calls in flight -/

/-- The command `dispatch_dependency_desired_snapshots` creates for a row. -/
structure DesiredStateCommand where
  dependencyInstanceId : McpDependencyInstanceId
  integrationId : IntegrationId
  desiredState : IntegrationDesiredState
  credentialRef : Option String
  deriving DecidableEq

/-- What is committed. -/
inductive IntegrationEvent where
  | connected (integrationId : IntegrationId)
  | disconnected (integrationId : IntegrationId)
  | commanded (command : DesiredStateCommand)
  deriving DecidableEq

/-- The rest of a heartbeat: the statuses to come, and whether a dependency has started to run. -/
structure HeartbeatRest where
  nodeId : NodeId
  dependencyStatuses : List McpDependencyStatus
  refreshDefinitions : Bool
  deriving DecidableEq

/-- What is left of a call: its next statement, and the data of the statements after it. -/
inductive IntegrationCall where
  /-- `connect_integration_route` -/
  | connectLoad (integrationId : IntegrationId) (nodeId : NodeId)
      (freshId : McpDependencyInstanceId)
  | connectDependency (integrationId : IntegrationId) (nodeId : NodeId)
      (freshId : McpDependencyInstanceId) (credentialGeneration : Nat)
  | connectCommit (integrationId : IntegrationId) (nodeId : NodeId)
      (dependencyInstanceId : McpDependencyInstanceId) (credentialGeneration : Nat)
  /-- The command that begins the authorization is recorded and its result awaited. -/
  | authorize (integrationId : IntegrationId)
  /-- `mark_integration_authorization_error` -/
  | errorLoad (integrationId : IntegrationId)
  | errorWrite (integrationId : IntegrationId) (connection : IntegrationConnectionSummary)
  /-- `disconnect_integration_route` -/
  | disconnectLoad (integrationId : IntegrationId)
  | disconnectCommit (integrationId : IntegrationId) (connection : IntegrationConnectionSummary)
  /-- The loop of `node_heartbeat` over the statuses. -/
  | heartbeat (rest : HeartbeatRest)
  /-- `persist_dependency_status`, of a heartbeat or of a command's result. -/
  | storeDependency (status : McpDependencyStatus) (rest : Option HeartbeatRest)
  | loadConnection (status : McpDependencyStatus) (rest : Option HeartbeatRest)
  | writeConnection (status : McpDependencyStatus) (connection : IntegrationConnectionSummary)
      (rest : Option HeartbeatRest)
  /-- `dispatch_dependency_desired_snapshots` -/
  | selectDesired (nodeId : NodeId)
  | createCommands (commands : List DesiredStateCommand)
  deriving DecidableEq

structure Integrations where
  tooling : Tooling := {}
  log : List IntegrationEvent := []
  calls : List IntegrationCall := []
  deriving DecidableEq

/-! ## 2. Statements -/

/-- The connection of `connect_integration_route`. -/
def connectedSummary (integrationId : IntegrationId) (nodeId : NodeId) (now : DateTime) :
    IntegrationConnectionSummary where
  integrationId
  sourceId := linearSourceId
  desiredState := .enabled
  authState := .connecting
  nodeId := some nodeId
  authenticatedActorLabel := none
  connectedAt := none
  updatedAt := now
  errorCode := none

/-- The status `connect_integration_route` writes for the dependency. -/
def startingStatus (integrationId : IntegrationId) (nodeId : NodeId)
    (dependencyInstanceId : McpDependencyInstanceId) (now : DateTime) : McpDependencyStatus where
  dependencyInstanceId
  integrationId
  nodeId
  desiredState := .enabled
  actualState := .starting
  errorCode := none
  observedAt := now

/-- The transaction of `connect_integration_route`: `on conflict(integration_id)` leaves the source
    of a connection that is there. -/
def connectTransaction (s : Tooling) (integrationId : IntegrationId) (nodeId : NodeId)
    (dependencyInstanceId : McpDependencyInstanceId) (credentialGeneration : Nat)
    (now : DateTime) : Except AppError Tooling := do
  let connection := connectedSummary integrationId nodeId now
  let sourceId := ((findConnection? s.connections integrationId).map (·.sourceId)).getD
    linearSourceId
  let row : IntegrationConnectionRow := ⟨integrationId, sourceId, .enabled, .connecting,
    some nodeId, connection, credentialGeneration, now⟩
  let connections ← dbResult "integration_connections"
    (s.connections.upsert? (·.integrationId == integrationId) row)
  upsertDependency { s with connections }
    (startingStatus integrationId nodeId dependencyInstanceId now)

/-- The connection of `disconnect_integration_route`. -/
def disconnectedSummary (connection : IntegrationConnectionSummary) (now : DateTime) :
    IntegrationConnectionSummary :=
  { connection with
    desiredState := .disabled
    authState := .disconnected
    authenticatedActorLabel := none
    errorCode := none
    updatedAt := now }

/-- The transaction of `disconnect_integration_route`. The dependencies keep the status they
    reported. -/
def disconnectTransaction (s : Tooling) (integrationId : IntegrationId)
    (connection : IntegrationConnectionSummary) (now : DateTime) : Tooling :=
  { s with
    connections := s.connections.update (·.integrationId == integrationId)
      (fun r => { r with
        desiredState := .disabled
        authState := .disconnected
        connection := disconnectedSummary connection now
        credentialGeneration := r.credentialGeneration + 1
        updatedAt := now }) ⟨fun _ _ => Iff.rfl⟩
    dependencies := s.dependencies.update (·.integrationId == integrationId)
      (fun r => { r with desiredState := .disabled, updatedAt := now }) ⟨fun _ _ => Iff.rfl⟩ }

/-- The connection of `mark_integration_authorization_error`. -/
def failedSummary (connection : IntegrationConnectionSummary) (now : DateTime) :
    IntegrationConnectionSummary :=
  { connection with
    authState := .error
    errorCode := some "authorization_start_failed"
    updatedAt := now }

/-- The commands of a snapshot: the dependencies of the Node, joined with their connections. -/
def desiredSnapshot (s : Tooling) (nodeId : NodeId) : List DesiredStateCommand :=
  (s.dependencies.select (·.nodeId == nodeId)).flatMap fun r =>
    (s.connections.select (·.integrationId == r.integrationId)).map fun c =>
      ⟨r.dependencyInstanceId, r.integrationId, r.desiredState,
        if c.authState = .connected then some "toolhive:managed-linear" else none⟩

/-- The next call of a heartbeat, after one of its statuses. -/
def afterStatus (rest : Option HeartbeatRest) : Option IntegrationCall := rest.map .heartbeat

/-- Runs the next statement of a call. The tables after it, what it commits, and what is left of
    the call. -/
def IntegrationCall.step (s : Tooling) (now : DateTime) :
    IntegrationCall → Tooling × List IntegrationEvent × Option IntegrationCall
  | connectLoad integrationId nodeId freshId =>
    match findConnection? s.connections integrationId with
    | none => (s, [], some (connectDependency integrationId nodeId freshId 1))
    | some r =>
      if r.connection.nodeId ≠ some nodeId then (s, [], none)
      else (s, [],
        some (connectDependency integrationId nodeId freshId (r.credentialGeneration + 1)))
  | connectDependency integrationId nodeId freshId credentialGeneration =>
    let known := s.dependencies.find? fun r =>
      r.integrationId == integrationId && r.nodeId == nodeId
    (s, [], some (connectCommit integrationId nodeId
      ((known.map (·.dependencyInstanceId)).getD freshId) credentialGeneration))
  | connectCommit integrationId nodeId dependencyInstanceId credentialGeneration =>
    match connectTransaction s integrationId nodeId dependencyInstanceId credentialGeneration
        now with
    | .ok t => (t, [.connected integrationId], some (authorize integrationId))
    | .error _ => (s, [], none)
  | authorize _ => (s, [], none)
  | errorLoad integrationId =>
    (s, [], (findConnection? s.connections integrationId).map fun r =>
      errorWrite integrationId r.connection)
  | errorWrite integrationId connection =>
    (Uprava.Core.writeConnection s integrationId (failedSummary connection now), [], none)
  | disconnectLoad integrationId =>
    (s, [], (findConnection? s.connections integrationId).map fun r =>
      disconnectCommit integrationId r.connection)
  | disconnectCommit integrationId connection =>
    (disconnectTransaction s integrationId connection now, [.disconnected integrationId],
      connection.nodeId.map selectDesired)
  | heartbeat rest =>
    match rest.dependencyStatuses with
    | [] => (s, [], if rest.refreshDefinitions then some (selectDesired rest.nodeId) else none)
    | status :: statuses =>
      let previousState := (s.dependencies.find? (·.dependencyInstanceId ==
        status.dependencyInstanceId)).map (·.actualState)
      (s, [], some (storeDependency status (some { rest with
        dependencyStatuses := statuses
        refreshDefinitions := rest.refreshDefinitions ||
          (status.actualState == .running && previousState != some .running) })))
  | storeDependency status rest =>
    match upsertDependency s status with
    | .ok t => (t, [], some (loadConnection status rest))
    | .error _ => (s, [], none)
  | loadConnection status rest =>
    match findConnection? s.connections status.integrationId with
    | none => (s, [], afterStatus rest)
    | some r => (s, [], some (writeConnection status r.connection rest))
  | writeConnection status connection rest =>
    (Uprava.Core.writeConnection s status.integrationId (connectionAfterStatus status connection),
      [], afterStatus rest)
  | selectDesired nodeId => (s, [], some (createCommands (desiredSnapshot s nodeId)))
  | createCommands [] => (s, [], none)
  | createCommands (command :: commands) =>
    (s, [.commanded command], some (createCommands commands))

/-- What can happen next. -/
inductive IntegrationAction where
  | connect (integrationId : IntegrationId) (nodeId : NodeId) (freshId : McpDependencyInstanceId)
  | disconnect (integrationId : IntegrationId)
  /-- A heartbeat whose statuses are the Node's own. -/
  | heartbeat (nodeId : NodeId) (dependencyStatuses : List McpDependencyStatus)
  /-- The status of a tooling command's result. -/
  | result (nodeId : NodeId) (status : McpDependencyStatus)
  /-- `Hello` of a control channel. -/
  | hello (nodeId : NodeId)
  /-- The call at a position runs its next statement. -/
  | run (position : Nat) (now : DateTime)
  /-- The command of a connect is not recorded, or its result is not a success. -/
  | authorizationFails (position : Nat)
  /-- A call ends early: its request is dropped, or a statement of it fails. -/
  | drop (position : Nat)
  deriving DecidableEq

def Integrations.start (s : Integrations) (call : IntegrationCall) : Integrations :=
  { s with calls := s.calls ++ [call] }

def Integrations.step (s : Integrations) : IntegrationAction → Option Integrations
  | .connect integrationId nodeId freshId => some (s.start (.connectLoad integrationId nodeId freshId))
  | .disconnect integrationId => some (s.start (.disconnectLoad integrationId))
  | .heartbeat nodeId dependencyStatuses =>
    if dependencyStatuses.all (·.nodeId == nodeId) then
      some (s.start (.heartbeat ⟨nodeId, dependencyStatuses, false⟩))
    else none
  | .result nodeId status => some (s.start (.storeDependency { status with nodeId } none))
  | .hello nodeId => some (s.start (.selectDesired nodeId))
  | .run position now =>
    match s.calls[position]? with
    | none => none
    | some call =>
      let (tooling, committed, left) := call.step s.tooling now
      some { tooling, log := committed ++ s.log,
             calls := s.calls.take position ++ left.toList ++ s.calls.drop (position + 1) }
  | .authorizationFails position =>
    match s.calls[position]? with
    | some (.authorize integrationId) =>
      some { s with calls := s.calls.set position (.errorLoad integrationId) }
    | _ => none
  | .drop position =>
    if position < s.calls.length then some { s with calls := s.calls.eraseIdx position } else none

/-! ## 3. A disconnect that lasts -/

/-- Has the integration been disconnected, and not connected since? -/
def isDisconnected (integrationId : IntegrationId) : List IntegrationEvent → Bool
  | [] => false
  | .disconnected i :: log => i == integrationId || isDisconnected integrationId log
  | .connected i :: log => i != integrationId && isDisconnected integrationId log
  | .commanded _ :: log => isDisconnected integrationId log

/-- The commands created for an integration since it was connected or disconnected last. -/
def commandedSince (integrationId : IntegrationId) : List IntegrationEvent → List DesiredStateCommand
  | [] => []
  | .disconnected i :: log | .connected i :: log =>
    if i = integrationId then [] else commandedSince integrationId log
  | .commanded command :: log =>
    if command.integrationId = integrationId then command :: commandedSince integrationId log
    else commandedSince integrationId log

/-- While an integration is disconnected, its dependencies are desired disabled, no command that
    says enabled has been created for it, and its connection is not connected. -/
structure DisconnectLasts (s : Tooling) (log : List IntegrationEvent)
    (integrationId : IntegrationId) : Prop where
  desiredState : ∀ r ∈ s.dependencies.rows, r.integrationId = integrationId →
    r.desiredState = .disabled
  commands : ∀ c ∈ commandedSince integrationId log, c.desiredState = .disabled
  authState : ∀ r ∈ s.connections.rows, r.integrationId = integrationId →
    r.authState ≠ .connected

def DisconnectsLast (s : Tooling) (log : List IntegrationEvent) : Prop :=
  ∀ integrationId, isDisconnected integrationId log = true → DisconnectLasts s log integrationId

/-- The status makes the connection connected: it reports that the dependency runs, or it leaves
    the state of authorization as it was read. -/
def MakesConnected (status : McpDependencyStatus) (connection : IntegrationConnectionSummary) :
    Prop :=
  match status.actualState with
  | .running => True
  | .missingAuth | .failed => False
  | _ => connection.authState = .connected

/-- What a statement has to meet while integrations are disconnected. -/
def IntegrationCall.Respects (s : Tooling) (log : List IntegrationEvent) : IntegrationCall → Prop
  | storeDependency status _ => StatusFits s status →
      isDisconnected status.integrationId log = true → status.desiredState = .disabled
  | writeConnection status connection _ =>
      (findConnection? s.connections status.integrationId).isSome →
      isDisconnected status.integrationId log = true → ¬ MakesConnected status connection
  | createCommands (command :: _) =>
      isDisconnected command.integrationId log = true → command.desiredState = .disabled
  | _ => True

def Integrations.RespectsDisconnects (s : Integrations) : IntegrationAction → Prop
  | .run position _ => ∀ call, s.calls[position]? = some call → call.Respects s.tooling s.log
  | _ => True

/-! ## 4. One statement -/

section Statements

variable {s t : Tooling} {log : List IntegrationEvent} {now : DateTime}

/-- An integration other than the connected one is as disconnected as before. -/
theorem isDisconnected_connected {i j : IntegrationId}
    (h : isDisconnected j (.connected i :: log) = true) : i ≠ j ∧ isDisconnected j log = true := by
  simpa [isDisconnected] using h

theorem commandedSince_of_ne {i j : IntegrationId} (h : i ≠ j) :
    commandedSince j (.connected i :: log) = commandedSince j log ∧
      commandedSince j (.disconnected i :: log) = commandedSince j log := by
  simp [commandedSince, h]

theorem makesConnected_iff {status : McpDependencyStatus}
    {connection : IntegrationConnectionSummary} :
    (connectionAfterStatus status connection).authState = .connected ↔
      MakesConnected status connection := by
  rw [connectionAfterStatus, MakesConnected]
  cases status.actualState <;> simp

/-- The connections after one of them is written. -/
theorem authState_writeConnection {integrationId : IntegrationId}
    {connection : IntegrationConnectionSummary} {r : IntegrationConnectionRow}
    (hr : r ∈ (writeConnection s integrationId connection).connections.rows) :
    (r.integrationId = integrationId ∧ r.authState = connection.authState) ∨
      (r.integrationId ≠ integrationId ∧ r ∈ s.connections.rows) := by
  rw [writeConnection, rows_update, List.mem_map] at hr
  obtain ⟨r₀, hr₀, rfl⟩ := hr
  by_cases hid : r₀.integrationId = integrationId
  · rw [if_pos (by simpa using hid)]
    exact Or.inl ⟨hid, rfl⟩
  · rw [if_neg (by simpa using hid)]
    exact Or.inr ⟨hid, hr₀⟩

/-- A connection that is written as something else than connected. -/
theorem DisconnectsLast.writeConnection {integrationId : IntegrationId}
    {connection : IntegrationConnectionSummary} (hlast : DisconnectsLast s log)
    (h : isDisconnected integrationId log = true → connection.authState ≠ .connected) :
    DisconnectsLast (writeConnection s integrationId connection) log := by
  intro j hj
  refine ⟨(hlast j hj).desiredState, (hlast j hj).commands, fun r hr hid => ?_⟩
  rcases authState_writeConnection hr with ⟨hown, hauth⟩ | ⟨-, hr⟩
  · rw [hauth]
    exact h (by rw [← hown, hid]; exact hj)
  · exact (hlast j hj).authState r hr hid

/-- **A connect ends the disconnect of its own integration only.** -/
theorem DisconnectsLast.connect {integrationId : IntegrationId} {nodeId : NodeId}
    {dependencyInstanceId : McpDependencyInstanceId} {generation : Nat}
    (hlast : DisconnectsLast s log)
    (h : connectTransaction s integrationId nodeId dependencyInstanceId generation now = .ok t) :
    DisconnectsLast t (.connected integrationId :: log) := by
  rw [connectTransaction, bind_eq_ok] at h
  obtain ⟨connections, hconnections, h⟩ := h
  obtain ⟨-, dependencies, hdependencies, rfl⟩ := upsertDependency_eq_ok.mp h
  intro j hj
  obtain ⟨hne, hj⟩ := isDisconnected_connected hj
  refine ⟨fun r hr hid => ?_, ?_, fun r hr hid => ?_⟩
  · rcases (mem_upsert? (clash_of_dependencyInstanceId _) hdependencies).mp hr with ⟨hr, -⟩ | rfl
    · exact (hlast j hj).desiredState r hr hid
    · exact absurd hid hne
  · rw [(commandedSince_of_ne hne).1]
    exact (hlast j hj).commands
  · have hkey : ∀ a b : IntegrationConnectionRow, (a.integrationId == integrationId) = true →
        (b.integrationId == integrationId) = true → Schema.clash a b := fun a b ha hb =>
      (beq_iff_eq.mp ha).trans (beq_iff_eq.mp hb).symm
    rcases (mem_upsert? hkey (dbResult_eq_ok.mp hconnections)).mp hr with ⟨hr, -⟩ | rfl
    · exact (hlast j hj).authState r hr hid
    · exact absurd hid hne

/-- **A disconnect lasts when it is committed.** -/
theorem DisconnectsLast.disconnect {integrationId : IntegrationId}
    {connection : IntegrationConnectionSummary} (hlast : DisconnectsLast s log) :
    DisconnectsLast (disconnectTransaction s integrationId connection now)
      (.disconnected integrationId :: log) := by
  intro j hj
  rw [disconnectTransaction]
  by_cases hown : integrationId = j
  · subst hown
    refine ⟨fun r hr hid => ?_, ?_, fun r hr hid => ?_⟩
    · obtain ⟨r₀, hr₀, rfl⟩ := List.mem_map.mp hr
      split
      · rfl
      · rename_i hother
        rw [if_neg hother] at hid
        exact absurd (by simpa using hid) hother
    · simp [commandedSince]
    · obtain ⟨r₀, hr₀, rfl⟩ := List.mem_map.mp hr
      split
      · exact fun h => by cases h
      · rename_i hother
        rw [if_neg hother] at hid
        exact absurd (by simpa using hid) hother
  · have hj' : isDisconnected j log = true := by simpa [isDisconnected, hown] using hj
    refine ⟨fun r hr hid => ?_, ?_, fun r hr hid => ?_⟩
    · obtain ⟨r₀, hr₀, rfl⟩ := List.mem_map.mp hr
      split at hid
      · rename_i heq
        exact absurd ((beq_iff_eq.mp heq).symm.trans hid) hown
      · rename_i hother
        rw [if_neg hother]
        exact (hlast j hj').desiredState r₀ hr₀ hid
    · rw [(commandedSince_of_ne hown).2]
      exact (hlast j hj').commands
    · obtain ⟨r₀, hr₀, rfl⟩ := List.mem_map.mp hr
      split at hid
      · rename_i heq
        exact absurd ((beq_iff_eq.mp heq).symm.trans hid) hown
      · rename_i hother
        rw [if_neg hother]
        exact (hlast j hj').authState r₀ hr₀ hid

/-- **A stored status lets disconnects last exactly when it says disabled, if its integration is
    disconnected.** -/
theorem lasts_upsertDependency_iff {status : McpDependencyStatus} (hlast : DisconnectsLast s log)
    (h : upsertDependency s status = .ok t) : DisconnectsLast t log ↔
      (isDisconnected status.integrationId log = true → status.desiredState = .disabled) := by
  obtain ⟨-, dependencies, hdependencies, rfl⟩ := upsertDependency_eq_ok.mp h
  have hmem := fun r => mem_upsert? (a := r)
    (clash_of_dependencyInstanceId status.dependencyInstanceId) hdependencies
  constructor
  · intro hafter hdisconnected
    exact (hafter _ hdisconnected).desiredState (.reported status) ((hmem _).mpr (Or.inr rfl)) rfl
  · intro hdisabled j hj
    refine ⟨fun r hr hid => ?_, (hlast j hj).commands, (hlast j hj).authState⟩
    rcases (hmem r).mp hr with ⟨hr, -⟩ | rfl
    · exact (hlast j hj).desiredState r hr hid
    · exact hdisabled (by rw [show status.integrationId = j from hid]; exact hj)

theorem lasts_writeConnection_iff {status : McpDependencyStatus}
    {connection : IntegrationConnectionSummary} (hlast : DisconnectsLast s log) :
    DisconnectsLast (writeConnection s status.integrationId
        (connectionAfterStatus status connection)) log ↔
      ((findConnection? s.connections status.integrationId).isSome →
        isDisconnected status.integrationId log = true → ¬ MakesConnected status connection) := by
  constructor
  · intro hafter hsome hdisconnected hconnected
    obtain ⟨r, hr⟩ := Option.isSome_iff_exists.mp hsome
    have hid := integrationId_of_findConnection? hr
    have hmem : { r with
        authState := (connectionAfterStatus status connection).authState
        connection := connectionAfterStatus status connection
        updatedAt := (connectionAfterStatus status connection).updatedAt } ∈
          (writeConnection s status.integrationId
            (connectionAfterStatus status connection)).connections.rows :=
      List.mem_map.mpr ⟨r, mem_of_find? hr, if_pos (by simpa using hid)⟩
    exact (hafter _ hdisconnected).authState _ hmem hid (makesConnected_iff.mpr hconnected)
  · intro hrespects
    cases hfind : findConnection? s.connections status.integrationId with
    | none =>
      have hnone : ∀ r ∈ s.connections.rows, r.integrationId ≠ status.integrationId := by
        simpa [findConnection?, Table.find?] using hfind
      intro j hj
      refine ⟨(hlast j hj).desiredState, (hlast j hj).commands, fun r hr hid => ?_⟩
      rw [writeConnection, rows_update, List.mem_map] at hr
      obtain ⟨r₀, hr₀, rfl⟩ := hr
      rw [if_neg (by simpa using hnone r₀ hr₀)] at hid ⊢
      exact (hlast j hj).authState r₀ hr₀ hid
    | some r =>
      refine hlast.writeConnection fun hdisconnected hconnected => ?_
      exact hrespects (by rw [hfind]; rfl) hdisconnected (makesConnected_iff.mp hconnected)

theorem lasts_commanded_iff {command : DesiredStateCommand} (hlast : DisconnectsLast s log) :
    DisconnectsLast s (.commanded command :: log) ↔
      (isDisconnected command.integrationId log = true → command.desiredState = .disabled) := by
  constructor
  · intro hafter hdisconnected
    refine (hafter command.integrationId hdisconnected).commands command ?_
    rw [commandedSince, if_pos rfl]
    exact List.mem_cons_self
  · intro hdisabled j hj
    have hj' : isDisconnected j log = true := hj
    refine ⟨(hlast j hj').desiredState, fun c hc => ?_, (hlast j hj').authState⟩
    rw [commandedSince] at hc
    split at hc
    · rename_i hid
      rcases List.mem_cons.mp hc with rfl | hc
      · exact hdisabled (by rw [hid]; exact hj')
      · exact (hlast j hj').commands c hc
    · exact (hlast j hj').commands c hc

/-- **A statement lets disconnects last exactly when it respects them.** -/
theorem lasts_step_iff {call : IntegrationCall} (hlast : DisconnectsLast s log) :
    DisconnectsLast (call.step s now).1 ((call.step s now).2.1 ++ log) ↔ call.Respects s log := by
  cases call with
  | connectLoad integrationId nodeId freshId =>
    refine iff_of_true ?_ trivial
    rw [IntegrationCall.step]
    split
    · exact hlast
    · split <;> exact hlast
  | connectDependency integrationId nodeId freshId generation => exact iff_of_true hlast trivial
  | connectCommit integrationId nodeId dependencyInstanceId generation =>
    refine iff_of_true ?_ trivial
    rw [IntegrationCall.step]
    split
    · rename_i t ht
      exact hlast.connect ht
    · exact hlast
  | authorize integrationId => exact iff_of_true hlast trivial
  | errorLoad integrationId => exact iff_of_true hlast trivial
  | errorWrite integrationId connection =>
    exact iff_of_true (hlast.writeConnection fun _ h => by cases h) trivial
  | disconnectLoad integrationId => exact iff_of_true hlast trivial
  | disconnectCommit integrationId connection => exact iff_of_true hlast.disconnect trivial
  | heartbeat rest =>
    refine iff_of_true ?_ trivial
    rw [IntegrationCall.step]
    split <;> exact hlast
  | storeDependency status rest =>
    rw [IntegrationCall.Respects, ← upsertDependency_isOk_iff, IntegrationCall.step]
    cases hstore : upsertDependency s status with
    | ok t =>
      dsimp only
      rw [List.nil_append, lasts_upsertDependency_iff hlast hstore]
      exact ⟨fun h _ => h, fun h => h ⟨t, rfl⟩⟩
    | error e => exact iff_of_true hlast fun ⟨t, ht⟩ => by cases ht
  | loadConnection status rest =>
    refine iff_of_true ?_ trivial
    rw [IntegrationCall.step]
    split <;> exact hlast
  | writeConnection status connection rest => exact lasts_writeConnection_iff hlast
  | selectDesired nodeId => exact iff_of_true hlast trivial
  | createCommands commands =>
    cases commands with
    | nil => exact iff_of_true hlast trivial
    | cons command rest => exact lasts_commanded_iff hlast

end Statements

/-! ## 5. Runs -/

/-- **A disconnect lasts until the next connect, in every state of a run, exactly when every
    statement of the run respects the disconnects.** -/
theorem disconnect_final_iff {s t : Integrations} {as : List IntegrationAction}
    (hs : DisconnectsLast s.tooling s.log) (hrun : run Integrations.step s as = some t) :
    Throughout Integrations.step (fun u => DisconnectsLast u.tooling u.log) s as ↔
      Meets Integrations.step Integrations.RespectsDisconnects s as := by
  have hstep : ∀ (s : Integrations) a t, DisconnectsLast s.tooling s.log → s.step a = some t →
      (DisconnectsLast t.tooling t.log ↔ s.RespectsDisconnects a) := by
    intro s a t hlast h
    cases a with
    | run position now =>
      rw [Integrations.step] at h
      rw [Integrations.RespectsDisconnects]
      cases hcall : s.calls[position]? with
      | none =>
        rw [hcall] at h
        cases h
      | some call =>
        rw [hcall] at h
        obtain rfl := Option.some.inj h
        refine (lasts_step_iff hlast).trans ?_
        simp only [Option.some.injEq, forall_eq']
    | connect integrationId nodeId freshId =>
      obtain rfl := Option.some.inj h
      exact iff_of_true hlast trivial
    | disconnect integrationId =>
      obtain rfl := Option.some.inj h
      exact iff_of_true hlast trivial
    | heartbeat nodeId dependencyStatuses =>
      rw [Integrations.step] at h
      split at h
      · obtain rfl := Option.some.inj h
        exact iff_of_true hlast trivial
      · cases h
    | result nodeId status =>
      obtain rfl := Option.some.inj h
      exact iff_of_true hlast trivial
    | hello nodeId =>
      obtain rfl := Option.some.inj h
      exact iff_of_true hlast trivial
    | authorizationFails position =>
      rw [Integrations.step] at h
      split at h
      · obtain rfl := Option.some.inj h
        exact iff_of_true hlast trivial
      · cases h
    | drop position =>
      rw [Integrations.step] at h
      split at h
      · obtain rfl := Option.some.inj h
        exact iff_of_true hlast trivial
      · cases h
  exact throughout_iff_meets hstep hs hrun

/-! ## 6. A heartbeat that was under way -/

section Reverted

/-- A connected integration. Its user disconnects it, and the disabled dependency is sent to the
    Node. -/
def disconnectIntegration : List IntegrationAction :=
  [.disconnect "i1", .run 0 1, .run 0 1, .run 0 1, .run 0 1, .run 0 1]

/-- The Node has not seen that yet: it reports the dependency as it knew it, and connects. -/
def staleReport : List IntegrationAction :=
  [.heartbeat "n1" [linearStatus], .run 0 2, .run 0 2, .run 0 2, .run 0 2, .run 0 2,
    .hello "n1", .run 0 3, .run 0 3, .run 0 3]

def connectedIntegrations : Integrations := { tooling := registeredTooling }

def revertedIntegrations : Integrations :=
  (run Integrations.step connectedIntegrations (disconnectIntegration ++ staleReport)).getD {}

/-- **A Node's heartbeat takes a disconnect back**: the dependency is desired enabled again, the
    connection is connected, and the Node is told to enable the dependency. -/
theorem disconnect_reverted :
    (run Integrations.step connectedIntegrations (disconnectIntegration ++ staleReport)).isSome ∧
      isDisconnected "i1" revertedIntegrations.log = true ∧
      revertedIntegrations.tooling.dependencies.rows.map (·.desiredState) = [.enabled] ∧
      (commandedSince "i1" revertedIntegrations.log).map (·.desiredState) =
        [.enabled, .disabled] ∧
      revertedIntegrations.tooling.connections.rows.map (·.authState) = [.connected] ∧
      ¬ Throughout Integrations.step (fun u => DisconnectsLast u.tooling u.log)
        connectedIntegrations (disconnectIntegration ++ staleReport) := by
  refine ⟨by decide, by decide, by decide, by decide, by decide, fun h => ?_⟩
  have hlast := h (disconnectIntegration ++ staleReport) [] revertedIntegrations rfl rfl
  have hdisabled := (hlast "i1" (by decide)).desiredState
  exact absurd hdisabled (by decide)

/-- The theorem's equivalence, for a disconnect that is followed by a `Hello` alone. -/
theorem disconnect_final_iff_hello :
    ∃ t, run Integrations.step connectedIntegrations
        (disconnectIntegration ++ [.hello "n1", .run 0 3, .run 0 3, .run 0 3]) = some t ∧
      (Throughout Integrations.step (fun u => DisconnectsLast u.tooling u.log)
          connectedIntegrations
          (disconnectIntegration ++ [.hello "n1", .run 0 3, .run 0 3, .run 0 3]) ↔
        Meets Integrations.step Integrations.RespectsDisconnects connectedIntegrations
          (disconnectIntegration ++ [.hello "n1", .run 0 3, .run 0 3, .run 0 3])) := by
  have hrun : (run Integrations.step connectedIntegrations
      (disconnectIntegration ++ [.hello "n1", .run 0 3, .run 0 3, .run 0 3])).isSome := by decide
  refine ⟨_, (Option.some_get hrun).symm,
    disconnect_final_iff (fun j hj => ?_) (Option.some_get hrun).symm⟩
  cases hj

end Reverted

end Uprava.Core
