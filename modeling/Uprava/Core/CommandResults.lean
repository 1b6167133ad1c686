/-
  File:      Uprava/Core/CommandResults.lean
  Subject:   What Core does with a command's result, from the check of the frame to the waiter:
             the command's row, and then three projections, one after the other.

  The row of the command is committed first, and a terminal command is not dispatched again. A
  projection is a list of statements made from what its select reads; the database can fail at any
  of them (`ResultFaults`), and a projection that fails ends the handling of the frame.

  * `result_whole_iff`: what a result has to be projected on is projected, and its waiter notified,
    exactly when the result keeps to its contract, decodes and fits what is stored, and the
    database fails at no statement before something that is still to be done.
-/
import Uprava.Lib.Statements
import Uprava.Core.TaskRuns
import Uprava.Core.DeductionAgreement
import Uprava.Core.ToolReports

namespace Uprava.Core

open Uprava.Protocol
open Uprava.Lib (Table runAll cutAt runStages runAll_cons_ok runAll_cons_error runAll_cons_eq_ok
  runAll_append_eq_ok runAll_cutAt_eq_ok runAll_cutAt_inv runStages_spec runStages_inv)
open Uprava.Lib.Table

/-! ## 1. Frames and projections -/

/-- A `CommandResult` of a Node. -/
structure ResultFrame where
  nodeId : NodeId
  commandId : CommandId
  status : CommandState
  payload : JsonValue
  deriving DecidableEq

def ResultFrame.durable (frame : ResultFrame) : JsonValue :=
  durableCommandResultPayload frame.payload

structure CommandResultNotice where
  commandId : CommandId
  status : CommandState
  payload : JsonValue
  deriving DecidableEq

/-- What the handling of a result reads and writes. -/
structure ResultState where
  db : Database := {}
  runs : Table TaskRunRecord := .empty
  deductions : Table DeductionRow := .empty
  tooling : Tooling := {}
  /-- The calls that wait for a command. -/
  waiters : List CommandId := []
  /-- What every subscriber is sent, and what a waiter is. -/
  broadcast : List CommandResultNotice := []
  notified : List CommandResultNotice := []

/-- What results are decoded as. -/
structure ResultDecoders where
  codec : ResultCodec
  task : JsonValue → Option TaskRunResultPackage
  deduction : JsonValue → Option DeductionProviderOutput
  tooling : JsonValue → Option ExternalToolCommandResult

inductive Projection where
  | task | deduction | tooling
  deriving DecidableEq

/-- The statement of each projection at which the database fails, if it does. -/
abbrev ResultFaults := Projection → Option Nat

/-- The command of an id. -/
def Database.commandOf? (db : Database) (commandId : CommandId) : Option CommandEnvelope :=
  (db.findCommand? commandId).map (·.command)

section Handling

variable (decoders : ResultDecoders) (digest : Digest) (draw : Draw) (frame : ResultFrame)

/-- `project_task_command_result`: the select and the update. -/
def taskStatements (s : ResultState) : List (ResultState → Except AppError ResultState) :=
  match dispatchedSpec s.db frame.commandId with
  | none => [.ok]
  | some spec =>
    match taskResultWrite decoders.task spec frame.status frame.durable draw.now with
    | .error e => [.ok, fun _ => .error e]
    | .ok none => [.ok]
    | .ok (some _) => [.ok, fun s => (projectTaskCommandResult decoders.task s.db s.runs
        frame.commandId frame.status frame.durable draw.now).map fun runs => { s with runs }]

/-- The writes of a deduction's end: the guarded update, and the event with the number that is read
    for it. -/
def settleStatements (row : DeductionRow) (outcome : DeductionOutcome) :
    List (ResultState → Except AppError ResultState) :=
  [fun s => (dbResult "deductions"
      (settleDeduction s.deductions row.deductionId outcome draw.now)).map fun deductions =>
        { s with deductions },
    fun s => (acceptNodeEvent s.db (coreSessionEvent (outcome.note row) draw.now draw.eventId
      (nextSeq s.db.events (scopeKey (.session (outcome.note row).sessionThreadId))))
        draw.messageId).map fun db => { s with db }]

/-- `project_deduction_command_result`: the select, and the writes of the end. -/
def deductionStatements (s : ResultState) : List (ResultState → Except AppError ResultState) :=
  match s.deductions.find? (·.commandId == frame.commandId) with
  | none => [.ok]
  | some row =>
    if !row.state.isActive then [.ok]
    else
      match deductionOutcome decoders.deduction row frame.status frame.durable draw.now with
      | .error e => [.ok, fun _ => .error e]
      | .ok outcome => .ok :: settleStatements draw row outcome

/-- The error of a payload that is no tooling result. -/
def toolingResultInvalid : AppError := .badRequest "json" "Tooling result does not decode"

/-- `project_tooling_command_result`: the select, and the writes of the result. The call is ended
    here only when nobody waits for the command. -/
def toolingStatements (s : ResultState) : List (ResultState → Except AppError ResultState) :=
  match s.db.commandOf? frame.commandId with
  | none => [.ok]
  | some command =>
    if command.kind ≠ .tooling ∨ frame.status ≠ .completed then [.ok]
    else
      match decoders.tooling frame.durable with
      | none => [.ok, fun _ => .error toolingResultInvalid]
      | some result =>
        .ok :: (resultStatements command.target.nodeId result
          (!s.waiters.contains frame.commandId)).map fun statement s =>
            (statement.run digest draw.now s.tooling).map fun tooling => { s with tooling }

def Projection.statements (s : ResultState) :
    Projection → List (ResultState → Except AppError ResultState)
  | task => taskStatements decoders draw frame s
  | deduction => deductionStatements decoders draw frame s
  | tooling => toolingStatements decoders digest draw frame s

/-- Runs a projection. -/
def Projection.project (faults : ResultFaults) (p : Projection) (s : ResultState) :
    ResultState × Except AppError Unit :=
  runAll (cutAt (.database "database") (faults p) (p.statements decoders digest draw frame s)) s

/-- The notices of a result: one for every subscriber, and one for the waiter of the command, with
    the payload as it came. -/
def ResultState.notify (s : ResultState) : ResultState :=
  { s with
    broadcast := s.broadcast ++ [⟨frame.commandId, frame.status, frame.durable⟩]
    waiters := s.waiters.filter (· != frame.commandId)
    notified := if s.waiters.contains frame.commandId then
        s.notified ++ [⟨frame.commandId, frame.status, frame.payload⟩]
      else s.notified }

/-- `update_command_result`, which is taken to succeed. -/
def ResultState.updateCommand (s : ResultState) : ResultState :=
  { s with
    db := updateCommandResult s.db frame.commandId frame.status frame.durable draw.now }

/-- How a frame was handled: the projections that are done, what is stored, and the error. -/
structure ResultHandled where
  projected : List Projection
  state : ResultState
  outcome : Except AppError Unit

/-- What results are checked by. -/
def ResultDecoders.check (decoders : ResultDecoders) : ResultCodec :=
  (decoders.codec.withTasks decoders.task).withDeductions decoders.deduction

/-- `handle_node_control_frame`, for the result of a command. -/
def handleCommandResult (faults : ResultFaults) (s : ResultState) : ResultHandled :=
  match validateCommandResult decoders.check s.db frame.nodeId frame.commandId frame.status
      frame.durable with
  | .error e => ⟨[], s, .error e⟩
  | .ok () =>
    match runStages (Projection.project decoders digest draw frame faults)
        [.task, .deduction, .tooling] (s.updateCommand draw frame) with
    | (projected, t, .error e) => ⟨projected, t, .error e⟩
    | (projected, t, .ok ()) => ⟨projected, t.notify frame, .ok ()⟩

end Handling

/-! ## 2. A result that is applied as a whole -/

section Property

variable (decoders : ResultDecoders) (digest : Digest) (draw : Draw) (frame : ResultFrame)

/-- Does the result have to be projected there? -/
def Projection.Owed (s : ResultState) : Projection → Prop
  | task => ∃ spec, dispatchedSpec s.db frame.commandId = some spec ∧
      ((decoders.task frame.durable).isSome ∨ frame.status = .failed)
  | deduction => ∃ row, s.deductions.find? (·.commandId == frame.commandId) = some row ∧
      row.state.isActive = true
  | tooling => ∃ command, s.db.commandOf? frame.commandId = some command ∧
      command.kind = .tooling ∧ frame.status = .completed

/-- A dispatch would select the command. -/
def Database.Redelivers (db : Database) (commandId : CommandId) : Prop :=
  ∃ o ∈ db.commandOutbox.rows, o.commandId = commandId ∧
    (db.commands.find? fun c => c.commandId == o.commandId && awaitsNode c.state).isSome

/-- The result is not left half applied: a command that is terminal and will not be delivered again
    is projected where it has to be, and its waiter is notified. -/
structure ResultHandled.Whole (s : ResultState) (h : ResultHandled) : Prop where
  projected : ∀ row, h.state.db.findCommand? frame.commandId = some row →
    isTerminalCommandState row.state = true → ¬ h.state.db.Redelivers frame.commandId →
      ∀ p : Projection, p.Owed decoders frame s → p ∈ h.projected
  notified : frame.commandId ∈ s.waiters →
    h.state.notified = s.notified ++ [⟨frame.commandId, frame.status, frame.payload⟩]

/-- A tooling result fits what is stored. -/
structure ToolResultFits (s : Tooling) (nodeId : NodeId) (result : ExternalToolCommandResult)
    (projectTerminalCall : Bool) : Prop where
  status : ∀ status ∈ result.status, StatusFits s { status with nodeId }
  linear : ∀ d ∈ result.definitions, isLinearDefinition d = true
  names : NamesFree (heldNames s.toolDefinitions) result.definitions
  version : projectTerminalCall = true → ∀ event ∈ result.event,
    event.contractVersion = toolingContractVersionV1

/-- The first projection comes no later than the second. -/
def Projection.notAfter : Projection → Projection → Bool
  | task, _ => true
  | deduction, q => q != task
  | tooling, q => q == tooling

/-- What a result has to meet: it keeps to the contract of its task, it decodes, it fits what is
    stored, and the database fails at no statement while there is something left to do. -/
structure ResultLands (faults : ResultFaults) (s : ResultState) : Prop where
  task : ∀ spec, dispatchedSpec s.db frame.commandId = some spec →
    ∀ result, decoders.task frame.durable = some result →
      keepsContract spec frame.status result = true
  deduction : Projection.Owed decoders frame s .deduction → frame.status = .completed →
    (decoders.deduction frame.durable).isSome
  tooling : ∀ command, s.db.commandOf? frame.commandId = some command → command.kind = .tooling →
    frame.status = .completed → ∃ result, decoders.tooling frame.durable = some result ∧
      ToolResultFits s.tooling command.target.nodeId result (!s.waiters.contains frame.commandId)
  faults : ∀ p n, faults p = some n → n < (p.statements decoders digest draw frame s).length →
    frame.commandId ∉ s.waiters ∧
      ∀ q, Projection.notAfter p q = true → ¬ q.Owed decoders frame s

end Property

/-! ## 3. What a projection reads and writes -/

section Reads

variable {decoders : ResultDecoders} {digest : Digest} {draw : Draw} {frame : ResultFrame}
  {faults : ResultFaults} {s t u : ResultState}

/-- What a projection makes its statements from is the same. -/
def Projection.View (frame : ResultFrame) (s u : ResultState) : Projection → Prop
  | task => u.db.commandOf? frame.commandId = s.db.commandOf? frame.commandId
  | deduction => u.deductions = s.deductions ∧ u.db.events = s.db.events
  | tooling => u.db.commandOf? frame.commandId = s.db.commandOf? frame.commandId ∧
      u.tooling = s.tooling ∧ u.waiters = s.waiters

/-- What a projection leaves. -/
def Projection.Touches (s t : ResultState) : Projection → Prop
  | task => t = { s with runs := t.runs }
  | deduction => t = { s with db := t.db, deductions := t.deductions } ∧
      t.db.commands = s.db.commands
  | tooling => t = { s with tooling := t.tooling }

theorem Projection.Touches.refl (p : Projection) (s : ResultState) : p.Touches s s := by
  cases p with
  | task => rfl
  | deduction => exact ⟨rfl, rfl⟩
  | tooling => rfl

theorem Projection.Touches.trans {p : Projection} (h : p.Touches s t) (h' : p.Touches t u) :
    p.Touches s u := by
  cases p with
  | task =>
    rw [Projection.Touches] at h h' ⊢
    rw [h', h]
  | deduction =>
    refine ⟨?_, h'.2.trans h.2⟩
    rw [h'.1, h.1]
  | tooling =>
    rw [Projection.Touches] at h h' ⊢
    rw [h', h]

theorem dispatchedSpec_eq (db : Database) (commandId : CommandId) : dispatchedSpec db commandId =
    (db.commandOf? commandId).bind fun command =>
      match command.payload with
      | .runTask _ spec => some spec
      | _ => none := by
  rw [dispatchedSpec, Database.commandOf?]
  cases db.findCommand? commandId <;> rfl

/-- The statements depend on the view alone. -/
theorem statements_eq {p : Projection} (h : p.View frame s u) :
    p.statements decoders digest draw frame u = p.statements decoders digest draw frame s := by
  cases p with
  | task =>
    rw [Projection.statements, Projection.statements, taskStatements, taskStatements,
      dispatchedSpec_eq, dispatchedSpec_eq, show u.db.commandOf? _ = _ from h]
  | deduction =>
    rw [Projection.statements, Projection.statements, deductionStatements, deductionStatements, h.1]
  | tooling =>
    rw [Projection.statements, Projection.statements, toolingStatements, toolingStatements, h.1,
      h.2.2]

theorem acceptNodeEvent_commands {db db' : Database} {event : EventEnvelope}
    {messageId : MessageId} (h : acceptNodeEvent db event messageId = .ok db') :
    db'.commands = db.commands := by
  rcases (acceptNodeEvent_ok h).2 with ⟨_, _, _, rfl⟩ | ⟨_, _, _, hp⟩ | ⟨_, _, _, _, hp⟩
  · rfl
  · exact hp.commands
  · exact hp.commands

/-- A statement that maps what it writes into the state. -/
theorem map_eq_ok {α : Type} {x : Except AppError α} {f : α → ResultState}
    (h : x.map f = .ok t) : ∃ a, x = .ok a ∧ t = f a := by
  cases x with
  | ok a => exact ⟨a, rfl, (Except.ok.inj h).symm⟩
  | error e => cases h

/-- **A statement of a projection writes that projection's tables.** -/
theorem touches_of_mem_statements {p : Projection}
    {statement : ResultState → Except AppError ResultState}
    (hmem : statement ∈ p.statements decoders digest draw frame u) (hrun : statement s = .ok t) :
    p.Touches s t := by
  have hread : ∀ {s t : ResultState}, Except.ok (ε := AppError) s = .ok t → p.Touches s t := by
    intro s t h
    cases h
    exact .refl p s
  cases p with
  | task =>
    rw [Projection.statements, taskStatements] at hmem
    split at hmem
    · obtain rfl := List.mem_singleton.mp hmem
      exact hread hrun
    · split at hmem
      · rcases List.mem_pair.mp hmem with rfl | rfl
        · exact hread hrun
        · cases hrun
      · obtain rfl := List.mem_singleton.mp hmem
        exact hread hrun
      · rcases List.mem_pair.mp hmem with rfl | rfl
        · exact hread hrun
        · obtain ⟨runs, _, rfl⟩ := map_eq_ok hrun
          rfl
  | deduction =>
    rw [Projection.statements, deductionStatements] at hmem
    split at hmem
    · obtain rfl := List.mem_singleton.mp hmem
      exact hread hrun
    · split at hmem
      · obtain rfl := List.mem_singleton.mp hmem
        exact hread hrun
      · split at hmem
        · rcases List.mem_pair.mp hmem with rfl | rfl
          · exact hread hrun
          · cases hrun
        · rcases List.mem_cons.mp hmem with rfl | hmem
          · exact hread hrun
          · rcases List.mem_pair.mp hmem with rfl | rfl
            · obtain ⟨deductions, _, rfl⟩ := map_eq_ok hrun
              exact ⟨rfl, rfl⟩
            · obtain ⟨db, hdb, rfl⟩ := map_eq_ok hrun
              exact ⟨rfl, acceptNodeEvent_commands hdb⟩
  | tooling =>
    rw [Projection.statements, toolingStatements] at hmem
    split at hmem
    · obtain rfl := List.mem_singleton.mp hmem
      exact hread hrun
    · split at hmem
      · obtain rfl := List.mem_singleton.mp hmem
        exact hread hrun
      · split at hmem
        · rcases List.mem_pair.mp hmem with rfl | rfl
          · exact hread hrun
          · cases hrun
        · rcases List.mem_cons.mp hmem with rfl | hmem
          · exact hread hrun
          · obtain ⟨toolStatement, _, rfl⟩ := List.mem_map.mp hmem
            obtain ⟨tooling, _, rfl⟩ := map_eq_ok hrun
            rfl

/-- A projection writes its own tables, whether it fails or not. -/
theorem touches_project (p : Projection) (s : ResultState) :
    p.Touches s (p.project decoders digest draw frame faults s).1 :=
  runAll_cutAt_inv (P := p.Touches s)
    (fun _ hmem _ _ h hrun => h.trans (touches_of_mem_statements hmem hrun)) (.refl p s)

/-- A projection leaves what the others read. -/
theorem view_of_touches {p q : Projection} (hne : q ≠ p) (h : p.Touches u t)
    (hview : q.View frame s u) : q.View frame s t := by
  have hcommandOf : t.db.commands = u.db.commands →
      t.db.commandOf? frame.commandId = u.db.commandOf? frame.commandId := by
    intro hcommands
    rw [Database.commandOf?, Database.findCommand?, hcommands]
    rfl
  cases p with
  | task =>
    rw [Projection.Touches] at h
    rw [h]
    cases q with
    | task => exact absurd rfl hne
    | deduction => exact hview
    | tooling => exact hview
  | deduction =>
    have hcommand := hcommandOf h.2
    cases q with
    | task => exact hcommand.trans hview
    | deduction => exact absurd rfl hne
    | tooling =>
      refine ⟨hcommand.trans hview.1, ?_⟩
      rw [h.1]
      exact hview.2
  | tooling =>
    rw [Projection.Touches] at h
    rw [h]
    cases q with
    | task => exact hview
    | deduction => exact hview
    | tooling => exact absurd rfl hne

end Reads

/-! ## 4. When a projection succeeds -/

section Success

variable {decoders : ResultDecoders} {digest : Digest} {draw : Draw} {frame : ResultFrame}
  {faults : ResultFaults} {s u : ResultState}

/-- What a projection needs of the result. -/
def Projection.Fits (decoders : ResultDecoders) (frame : ResultFrame) (s : ResultState) :
    Projection → Prop
  | task => ∀ spec, dispatchedSpec s.db frame.commandId = some spec →
      ∀ result, decoders.task frame.durable = some result →
        keepsContract spec frame.status result = true
  | deduction => Projection.Owed decoders frame s .deduction → frame.status = .completed →
      (decoders.deduction frame.durable).isSome
  | tooling => ∀ command, s.db.commandOf? frame.commandId = some command →
      command.kind = .tooling → frame.status = .completed →
        ∃ result, decoders.tooling frame.durable = some result ∧
          ToolResultFits s.tooling command.target.nodeId result
            (!s.waiters.contains frame.commandId)

/-- A read succeeds. -/
theorem runAll_read {rest : List (ResultState → Except AppError ResultState)} :
    runAll (.ok :: rest) u = runAll rest u := rfl

theorem map_isOk_iff {α : Type} {x : Except AppError α} {f : α → ResultState} :
    (∃ t, x.map f = .ok t) ↔ ∃ a, x = .ok a := by
  cases x with
  | ok a => exact iff_of_true ⟨_, rfl⟩ ⟨_, rfl⟩
  | error e => exact iff_of_false (fun ⟨t, h⟩ => (by cases h)) fun ⟨a, h⟩ => (by cases h)

/-- One statement succeeds. -/
theorem runAll_one {statement : ResultState → Except AppError ResultState} :
    (runAll [statement] u).2 = .ok () ↔ ∃ t, statement u = .ok t := by
  rw [runAll_cons_eq_ok]
  simp

/-! ### Tasks -/

theorem projectTaskCommandResult_isOk {decode : JsonValue → Option TaskRunResultPackage}
    {db : Database} {runs : Table TaskRunRecord} {commandId : CommandId} {status : CommandState}
    {payload : JsonValue} {now : DateTime} {spec : TaskRunSpec}
    {write : Option (TaskRunRecord → TaskRunRecord)}
    (hspec : dispatchedSpec db commandId = some spec)
    (hwrite : taskResultWrite decode spec status payload now = .ok write) :
    ∃ runs', projectTaskCommandResult decode db runs commandId status payload now = .ok runs' := by
  unfold projectTaskCommandResult
  split
  · exact ⟨_, rfl⟩
  · rename_i spec' hspec'
    obtain rfl : spec' = spec := Option.some.inj (hspec'.symm.trans hspec)
    split
    · rename_i e herror
      rw [hwrite] at herror
      cases herror
    · exact ⟨_, rfl⟩
    · exact ⟨_, rfl⟩

/-- The result of a task is refused exactly when it does not keep to the contract. -/
theorem taskResultWrite_isOk_iff {decode : JsonValue → Option TaskRunResultPackage}
    {spec : TaskRunSpec} {status : CommandState} {payload : JsonValue} {now : DateTime} :
    (∃ write, taskResultWrite decode spec status payload now = .ok write) ↔
      ∀ result, decode payload = some result → keepsContract spec status result = true := by
  rw [taskResultWrite]
  cases decode payload with
  | none =>
    refine iff_of_true ?_ fun result h => (by cases h)
    dsimp only
    split
    · exact ⟨_, rfl⟩
    · exact ⟨_, rfl⟩
  | some result =>
    dsimp only
    cases hkeeps : keepsContract spec status result with
    | true =>
      refine iff_of_true ⟨_, rfl⟩ fun result' h => ?_
      rw [← Option.some.inj h]
      exact hkeeps
    | false =>
      refine iff_of_false (fun ⟨write, h⟩ => (by cases h)) fun h => ?_
      rw [h result rfl] at hkeeps
      cases hkeeps

theorem task_eq_ok (hview : Projection.View frame s u .task) :
    (runAll (Projection.statements decoders digest draw frame u .task) u).2 = .ok () ↔
      Projection.Fits decoders frame s .task := by
  have hspec : dispatchedSpec u.db frame.commandId = dispatchedSpec s.db frame.commandId := by
    rw [dispatchedSpec_eq, dispatchedSpec_eq, show u.db.commandOf? _ = _ from hview]
  rw [Projection.statements, taskStatements, Projection.Fits, ← hspec]
  cases hdispatched : dispatchedSpec u.db frame.commandId with
  | none => exact iff_of_true rfl fun spec h => (by cases h)
  | some spec =>
    have hiff := (@taskResultWrite_isOk_iff decoders.task spec frame.status frame.durable draw.now)
    rw [show (∀ spec', some spec = some spec' → _) ↔ _ from
      ⟨fun h => h spec rfl, fun h spec' hspec' => Option.some.inj hspec' ▸ h⟩, ← hiff]
    dsimp only
    cases hwrite : taskResultWrite decoders.task spec frame.status frame.durable draw.now with
    | error e => exact iff_of_false (fun h => (by cases h)) fun ⟨write, h⟩ => (by cases h)
    | ok write =>
      refine iff_of_true ?_ ⟨write, rfl⟩
      cases write with
      | none => rfl
      | some write =>
        dsimp only
        rw [runAll_read, runAll_one, map_isOk_iff]
        exact projectTaskCommandResult_isOk hdispatched hwrite

/-! ### Deductions -/

/-- An active row is settled. -/
theorem settleDeduction_isSome {deductions : Table DeductionRow} {row : DeductionRow}
    (outcome : DeductionOutcome) (now : DateTime) (hrow : row ∈ deductions.rows)
    (hactive : row.state.isActive = true) :
    (settleDeduction deductions row.deductionId outcome now).isSome = true := by
  have hone : ∀ r ∈ deductions.rows,
      DeductionRow.isActiveOf row.deductionId r = true ↔ r = row := by
    intro r hr
    rw [DeductionRow.isActiveOf, Bool.and_eq_true, beq_iff_eq]
    constructor
    · exact fun h => eq_of_clash hr hrow (Or.inl h.1)
    · intro h
      rw [h]
      exact ⟨rfl, hactive⟩
  obtain ⟨hid, -, hstate⟩ := outcome.write_row now row
  have hcommand : (outcome.write now row).commandId = row.commandId := by cases outcome <;> rfl
  have hended : outcome.state.isActive = false := by cases outcome <;> rfl
  refine (isSome_update?_iff (fun _ => Or.inl rfl) hrow hone).mpr fun a ha hne hclash => ?_
  rcases hclash with hsame | hsame | ⟨-, -, hboth⟩
  · exact hne (eq_of_clash ha hrow (Or.inl (hsame.trans hid)))
  · exact hne (eq_of_clash ha hrow (Or.inr (Or.inl (hsame.trans hcommand))))
  · rw [hstate, hended] at hboth
    cases hboth

/-- The end of an active deduction is written, and announced. -/
theorem settleStatements_ok {row : DeductionRow} (outcome : DeductionOutcome)
    (hnew : findEvent? u.db.events draw.eventId = none) (hrow : row ∈ u.deductions.rows)
    (hactive : row.state.isActive = true) :
    (runAll (settleStatements draw row outcome) u).2 = .ok () := by
  obtain ⟨deductions, hsettle⟩ := Option.isSome_iff_exists.mp
    (settleDeduction_isSome outcome draw.now hrow hactive)
  have hfree : NumberFree u.db.events (scopeKey (.session (outcome.note row).sessionThreadId))
      (nextSeq u.db.events (scopeKey (.session (outcome.note row).sessionThreadId))) := by
    intro r hr ⟨hkey, hseq⟩
    have hlt := lt_nextSeq hr
    rw [hkey, hseq] at hlt
    exact absurd hlt (lt_irrefl _)
  obtain ⟨db, hdb⟩ := (@Deductions.accepts_owed _ (outcome.note row) _ draw) hnew hfree
  rw [settleStatements, runAll_cons_eq_ok]
  refine ⟨{ u with deductions }, by rw [hsettle]; rfl, ?_⟩
  rw [runAll_one, map_isOk_iff]
  exact ⟨db, hdb⟩

theorem deductionOutcome_isOk_iff {decode : JsonValue → Option DeductionProviderOutput}
    {row : DeductionRow} {status : CommandState} {payload : JsonValue} {now : DateTime} :
    (∃ outcome, deductionOutcome decode row status payload now = .ok outcome) ↔
      (status = .completed → (decode payload).isSome = true) := by
  rw [deductionOutcome]
  by_cases hstatus : status = .completed
  · rw [if_neg (not_not_intro hstatus)]
    cases decode payload with
    | none => exact iff_of_false (fun ⟨outcome, h⟩ => (by cases h)) fun h => (by cases h hstatus)
    | some output =>
      refine iff_of_true ?_ fun _ => rfl
      dsimp only
      split
      · exact ⟨_, rfl⟩
      · exact ⟨_, rfl⟩
  · rw [if_pos hstatus]
    exact iff_of_true ⟨_, rfl⟩ fun h => absurd h hstatus

theorem deduction_eq_ok (hnew : findEvent? s.db.events draw.eventId = none)
    (hview : Projection.View frame s u .deduction) :
    (runAll (Projection.statements decoders digest draw frame u .deduction) u).2 = .ok () ↔
      Projection.Fits decoders frame s .deduction := by
  rw [Projection.statements, deductionStatements, Projection.Fits, Projection.Owed, ← hview.1]
  cases hfind : u.deductions.find? (·.commandId == frame.commandId) with
  | none => exact iff_of_true rfl fun ⟨row, h, _⟩ => (by cases h)
  | some row =>
    dsimp only
    cases hactive : row.state.isActive with
    | false =>
      refine iff_of_true rfl fun ⟨row', h, hactive'⟩ => ?_
      rw [← Option.some.inj h, hactive] at hactive'
      cases hactive'
    | true =>
      have hiff :=
          (@deductionOutcome_isOk_iff decoders.deduction row frame.status frame.durable draw.now)
      rw [show ((∃ row', some row = some row' ∧ row'.state.isActive = true) → _) ↔ _ from
        ⟨fun h => h ⟨row, rfl, hactive⟩, fun h _ => h⟩, ← hiff]
      simp only [Bool.not_true, Bool.false_eq_true, if_false]
      cases houtcome : deductionOutcome decoders.deduction row frame.status frame.durable
          draw.now with
      | error e => exact iff_of_false (fun h => (by cases h)) fun ⟨outcome, h⟩ => (by cases h)
      | ok outcome =>
        refine iff_of_true ?_ ⟨outcome, rfl⟩
        dsimp only
        rw [runAll_read]
        exact settleStatements_ok outcome (hview.2 ▸ hnew) (mem_of_find? hfind) hactive

/-! ### Tooling -/

/-- A statement of the registry, on the whole state. -/
theorem runAll_tooling {now : DateTime} (statements : List ToolStatement) :
    (runAll (statements.map fun statement (s : ResultState) =>
        (statement.run digest now s.tooling).map fun tooling => { s with tooling }) u).2 =
      (runAll (statements.map fun statement => statement.run digest now) u.tooling).2 := by
  induction statements generalizing u with
  | nil => rfl
  | cons statement rest ih =>
    rw [List.map_cons, List.map_cons, runAll, runAll]
    cases statement.run digest now u.tooling with
    | ok tooling => exact ih
    | error e => rfl

/-- The status of a result is stored exactly when it fits, and stores no definition. -/
theorem statusStatements_spec {now : DateTime} {tooling : Tooling}
    (status : Option McpDependencyStatus) :
    ((runAll ((status.toList.flatMap statusStatements).map fun statement =>
        statement.run digest now) tooling).2 = .ok () ↔ ∀ x ∈ status, StatusFits tooling x) ∧
      (runAll ((status.toList.flatMap statusStatements).map fun statement =>
        statement.run digest now) tooling).1.toolDefinitions = tooling.toolDefinitions := by
  cases status with
  | none => exact ⟨iff_of_true rfl fun x hx => (by cases hx), rfl⟩
  | some x =>
    have hall : (∀ y ∈ some x, StatusFits tooling y) ↔ StatusFits tooling x :=
      ⟨fun h => h x rfl, fun h y hy => Option.some.inj hy ▸ h⟩
    rw [hall, ← upsertDependency_isOk_iff]
    show ((runAll [(ToolStatement.dependency x).run digest now,
        (ToolStatement.connection x).run digest now] tooling).2 = .ok () ↔ _) ∧
      (runAll [(ToolStatement.dependency x).run digest now,
        (ToolStatement.connection x).run digest now] tooling).1.toolDefinitions = _
    cases hstored : upsertDependency tooling x with
    | error e =>
      have hrun : (ToolStatement.dependency x).run digest now tooling = .error e := hstored
      rw [runAll_cons_error hrun]
      exact ⟨iff_of_false (fun h => (by cases h)) fun ⟨t, h⟩ => (by cases h), rfl⟩
    | ok t =>
      have hrun : (ToolStatement.dependency x).run digest now tooling = .ok t := hstored
      obtain ⟨-, dependencies, -, rfl⟩ := upsertDependency_eq_ok.mp hstored
      rw [runAll_cons_ok hrun]
      refine ⟨iff_of_true rfl ⟨_, rfl⟩, ?_⟩
      show (updateConnectionFromDependencyStatus _ x).toolDefinitions = _
      rw [updateConnectionFromDependencyStatus]
      split <;> rfl

/-- The definitions of a result are stored exactly when they are of the external source and their
    names are free. -/
theorem definitionStatements_eq_ok {now : DateTime} {tooling : Tooling}
    (definitions : List ToolDefinition) :
    (runAll ((if definitions.isEmpty then [] else [ToolStatement.definitions definitions]).map
        fun statement => statement.run digest now) tooling).2 = .ok () ↔
      (∀ d ∈ definitions, isLinearDefinition d = true) ∧
        NamesFree (heldNames tooling.toolDefinitions) definitions := by
  cases definitions with
  | nil => exact iff_of_true rfl ⟨fun d hd => (by cases hd), trivial⟩
  | cons d rest =>
    have hnames := (@upsertToolDefinitions_isOk_iff tooling.toolDefinitions now (d :: rest)
        (heldNames tooling.toolDefinitions)) fun _ => Iff.rfl
    show (runAll [(ToolStatement.definitions (d :: rest)).run digest now] tooling).2 = .ok () ↔ _
    rw [runAll_cons_eq_ok, ← hnames]
    constructor
    · intro ⟨t, hrun, _⟩
      obtain ⟨hlinear, definitions, hdefinitions, _⟩ := run_definitions_eq_ok.mp hrun
      exact ⟨hlinear, definitions, hdefinitions⟩
    · intro ⟨hlinear, definitions, hdefinitions⟩
      exact ⟨_, run_definitions_eq_ok.mpr ⟨hlinear, definitions, hdefinitions, rfl⟩, rfl⟩

/-- The event of a result is applied exactly when it has Core's version. -/
theorem eventStatements_eq_ok {now : DateTime} {tooling : Tooling} (event : Option ToolingEventV1)
    (projectTerminalCall : Bool) :
    (runAll ((if projectTerminalCall then event.toList.map ToolStatement.terminalEvent else []).map
        fun statement => statement.run digest now) tooling).2 = .ok () ↔
      (projectTerminalCall = true → ∀ e ∈ event,
        e.contractVersion = toolingContractVersionV1) := by
  cases projectTerminalCall with
  | false => exact iff_of_true rfl fun h => (by cases h)
  | true =>
    cases event with
    | none => exact iff_of_true rfl fun _ e he => (by cases he)
    | some e =>
      have hall : (true = true → ∀ x ∈ some e, x.contractVersion = toolingContractVersionV1) ↔
          e.contractVersion = toolingContractVersionV1 :=
        ⟨fun h => h rfl e rfl, fun h _ x hx => Option.some.inj hx ▸ h⟩
      rw [hall]
      show (runAll [(ToolStatement.terminalEvent e).run digest now] tooling).2 = .ok () ↔ _
      rw [runAll_cons_eq_ok]
      by_cases hversion : e.contractVersion = toolingContractVersionV1
      · refine iff_of_true ?_ hversion
        have hok : ∃ t, (ToolStatement.terminalEvent e).run digest now tooling = .ok t := by
          rw [ToolStatement.run, projectTerminalToolingEvent, if_neg (not_not_intro hversion)]
          split
          · rename_i hending
            rw [finishToolCall, terminal_of_terminalToolingEvent hending]
            exact ⟨_, rfl⟩
          · exact ⟨_, rfl⟩
        obtain ⟨t, ht⟩ := hok
        exact ⟨t, ht, rfl⟩
      · refine iff_of_false ?_ hversion
        rintro ⟨t, ht, -⟩
        rw [ToolStatement.run, projectTerminalToolingEvent, if_pos hversion] at ht
        cases ht

/-- **A tooling result is stored exactly when it fits.** -/
theorem resultStatements_eq_ok {now : DateTime} {tooling : Tooling} {nodeId : NodeId}
    {result : ExternalToolCommandResult} {projectTerminalCall : Bool} :
    (runAll ((resultStatements nodeId result projectTerminalCall).map fun statement =>
        statement.run digest now) tooling).2 = .ok () ↔
      ToolResultFits tooling nodeId result projectTerminalCall := by
  have hlist : (result.status.toList.flatMap fun status =>
      statusStatements { status with nodeId }) =
        ((result.status.map fun status => { status with nodeId }).toList.flatMap
          statusStatements) := by
    cases result.status <;> rfl
  obtain ⟨hstatus, hdefinitions⟩ := (@statusStatements_spec digest now tooling) (result.status.map
      fun status => { status with nodeId })
  have hfits : (∀ x ∈ result.status.map fun status => { status with nodeId },
      StatusFits tooling x) ↔ ∀ status ∈ result.status, StatusFits tooling { status with nodeId } := by
    cases result.status with
    | none => exact iff_of_true (fun x hx => (by cases hx)) fun x hx => (by cases hx)
    | some status =>
      exact ⟨fun h x hx => h _ (Option.some.inj hx ▸ rfl),
        fun h x hx => Option.some.inj hx ▸ h status rfl⟩
  rw [resultStatements, hlist, List.map_append, List.map_append, List.append_assoc,
    runAll_append_eq_ok]
  constructor
  · rintro ⟨t, hrun, hrest⟩
    rw [hrun] at hdefinitions hstatus
    rw [runAll_append_eq_ok] at hrest
    obtain ⟨u, hstored, hevent⟩ := hrest
    have hnames := ((@definitionStatements_eq_ok digest now t)
      result.definitions).mp (by rw [hstored])
    rw [show t.toolDefinitions = tooling.toolDefinitions from hdefinitions] at hnames
    exact ⟨hfits.mp (hstatus.mp rfl), hnames.1, hnames.2,
      (eventStatements_eq_ok result.event projectTerminalCall).mp hevent⟩
  · intro h
    have hfirst := hstatus.mpr (hfits.mpr h.status)
    have hnames := ((@definitionStatements_eq_ok digest now ((runAll _ tooling).1))
        result.definitions).mpr
        ⟨h.linear, hdefinitions.symm ▸ h.names⟩
    refine ⟨_, Prod.ext rfl hfirst, ?_⟩
    rw [runAll_append_eq_ok]
    exact ⟨_, Prod.ext rfl hnames,
      (eventStatements_eq_ok result.event projectTerminalCall).mpr h.version⟩

theorem tooling_eq_ok (hview : Projection.View frame s u .tooling) :
    (runAll (Projection.statements decoders digest draw frame u .tooling) u).2 = .ok () ↔
      Projection.Fits decoders frame s .tooling := by
  rw [Projection.statements, toolingStatements, Projection.Fits, ← hview.1]
  cases hcommand : u.db.commandOf? frame.commandId with
  | none => exact iff_of_true rfl fun command h => (by cases h)
  | some command =>
    dsimp only
    by_cases hother : command.kind ≠ .tooling ∨ frame.status ≠ .completed
    · rw [if_pos hother]
      refine iff_of_true rfl fun command' h hkind hstatus => ?_
      rw [← Option.some.inj h] at hkind
      exact hother.elim (fun hne => absurd hkind hne) fun hne => absurd hstatus hne
    · rw [if_neg hother]
      rw [not_or, not_not, not_not] at hother
      obtain ⟨hkind, hstatus⟩ := hother
      cases hdecoded : decoders.tooling frame.durable with
      | none =>
        refine iff_of_false (fun h => (by cases h)) fun h => ?_
        obtain ⟨result, hresult, _⟩ := h command rfl hkind hstatus
        cases hresult
      | some result =>
        dsimp only
        rw [runAll_read, runAll_tooling, resultStatements_eq_ok, hview.2.1, hview.2.2]
        constructor
        · intro h command' hsame _ _
          rw [← Option.some.inj hsame]
          exact ⟨result, rfl, h⟩
        · intro h
          obtain ⟨result', hresult, hfits⟩ := h command rfl hkind hstatus
          exact Option.some.inj hresult ▸ hfits

/-- **A projection succeeds exactly when the result fits, and the database fails at none of its
    statements.** -/
theorem project_eq_ok {p : Projection} (hnew : findEvent? s.db.events draw.eventId = none)
    (hview : p.View frame s u) :
    (p.project decoders digest draw frame faults u).2 = .ok () ↔
      p.Fits decoders frame s ∧ ∀ n, faults p = some n →
        (p.statements decoders digest draw frame s).length ≤ n := by
  rw [Projection.project, runAll_cutAt_eq_ok, statements_eq hview]
  refine and_congr_left fun _ => ?_
  rw [← statements_eq hview]
  cases p with
  | task => exact task_eq_ok hview
  | deduction => exact deduction_eq_ok hnew hview
  | tooling => exact tooling_eq_ok hview

end Success

/-! ## 5. The whole handling -/

section Whole

variable {decoders : ResultDecoders} {digest : Digest} {draw : Draw} {frame : ResultFrame}
  {faults : ResultFaults} {s : ResultState}

theorem findCommand?_updateCommandResult (db : Database) (commandId : CommandId)
    (status : CommandState) (payload : JsonValue) (now : DateTime) :
    (updateCommandResult db commandId status payload now).findCommand? commandId =
      (db.findCommand? commandId).map (·.setResult status payload now) := by
  have hupdate := find?_update db.commands (·.commandId == commandId) (·.commandId == commandId)
    (.setResult status payload now) ⟨fun _ _ => Iff.rfl⟩ fun _ => rfl
  rw [Database.findCommand?, updateCommandResult, dropTerminal_commands, hupdate,
    Database.findCommand?]
  cases hfind : db.commands.find? (·.commandId == commandId) with
  | none => rfl
  | some row =>
    have hid : row.commandId = commandId := by simpa using find?_pos hfind
    rw [Option.map_some, Option.map_some, if_pos (beq_iff_eq.mpr hid)]

/-- The row of the command is as it was, but for its state and its result. -/
theorem view_updateCommand (p : Projection) : p.View frame s (s.updateCommand draw frame) := by
  have hcommand : (s.updateCommand draw frame).db.commandOf? frame.commandId =
      s.db.commandOf? frame.commandId := by
    rw [Database.commandOf?, ResultState.updateCommand, findCommand?_updateCommandResult,
      Database.commandOf?]
    cases s.db.findCommand? frame.commandId <;> rfl
  have hevents : (s.updateCommand draw frame).db.events = s.db.events := by
    rw [ResultState.updateCommand, updateCommandResult, Database.dropTerminal]
    split <;> rfl
  cases p with
  | task => exact hcommand
  | deduction => exact ⟨rfl, hevents⟩
  | tooling => exact ⟨hcommand, rfl, rfl⟩

theorem owed_of_not_fits {p : Projection} (h : ¬ p.Fits decoders frame s) :
    p.Owed decoders frame s := by
  by_contra howed
  refine h ?_
  cases p with
  | task =>
    intro spec hspec result hresult
    exact absurd ⟨spec, hspec, Or.inl (by rw [hresult]; rfl)⟩ howed
  | deduction => exact fun hactive => absurd hactive howed
  | tooling =>
    intro command hcommand hkind hstatus
    exact absurd ⟨command, hcommand, hkind, hstatus⟩ howed

/-- The projections that are done are a beginning of all. -/
theorem done_cases {done left : List Projection}
    (h : [.task, .deduction, .tooling] = done ++ left) :
    done = [] ∧ left = [.task, .deduction, .tooling] ∨
      done = [.task] ∧ left = [.deduction, .tooling] ∨
      done = [.task, .deduction] ∧ left = [.tooling] ∨
      done = [.task, .deduction, .tooling] ∧ left = [] := by
  simp only [List.cons_eq_append_iff, List.nil_eq, List.append_eq_nil_iff] at h
  rcases h with h | ⟨done, rfl, h | ⟨done, rfl, h | ⟨done, rfl, rfl, rfl⟩⟩⟩
  · exact Or.inl h
  · exact Or.inr (Or.inl ⟨by rw [h.1], h.2⟩)
  · exact Or.inr (Or.inr (Or.inl ⟨by rw [h.1], h.2⟩))
  · exact Or.inr (Or.inr (Or.inr ⟨rfl, rfl⟩))

theorem mem_of_notAfter {done left : List Projection} {p q : Projection}
    (h : [.task, .deduction, .tooling] = done ++ left) (hq : q ∈ done)
    (hpq : Projection.notAfter p q = true) : p ∈ done := by
  rcases done_cases h with ⟨rfl, -⟩ | ⟨rfl, -⟩ | ⟨rfl, -⟩ | ⟨rfl, -⟩ <;> cases p <;> cases q <;>
    simp_all [Projection.notAfter]

/-- The first that is not done comes before those that are not. -/
theorem notAfter_of_left {done rest : List Projection} {i p : Projection}
    (h : [.task, .deduction, .tooling] = done ++ i :: rest) (hp : p ∉ done) :
    Projection.notAfter i p = true := by
  rcases done_cases h with ⟨rfl, hleft⟩ | ⟨rfl, hleft⟩ | ⟨rfl, hleft⟩ | ⟨rfl, hleft⟩
  · obtain ⟨rfl, -⟩ := List.cons.inj hleft
    rfl
  · obtain ⟨rfl, -⟩ := List.cons.inj hleft
    cases p <;> simp_all [Projection.notAfter]
  · obtain ⟨rfl, -⟩ := List.cons.inj hleft
    cases p <;> simp_all [Projection.notAfter]
  · cases hleft

/-- What the projections leave as it is. -/
theorem kept_runStages {s₁ : ResultState} {stages : List Projection} :
    let t := (runStages (Projection.project decoders digest draw frame faults) stages s₁).2.1
    t.db.commands = s₁.db.commands ∧ t.waiters = s₁.waiters ∧ t.notified = s₁.notified := by
  refine runStages_inv (P := fun t : ResultState => t.db.commands = s₁.db.commands ∧
    t.waiters = s₁.waiters ∧ t.notified = s₁.notified) (fun p _ u hu => ?_) ⟨rfl, rfl, rfl⟩
  have htouches := (@touches_project decoders digest draw frame faults) p u
  cases p with
  | task =>
    rw [show (Projection.project decoders digest draw frame faults .task u).1 = _ from htouches]
    exact hu
  | deduction =>
    refine ⟨htouches.2.trans hu.1, ?_⟩
    rw [htouches.1]
    exact hu.2
  | tooling =>
    rw [show (Projection.project decoders digest draw frame faults .tooling u).1 = _ from htouches]
    exact hu

/-- The handling of a result that passes its checks. -/
theorem handleCommandResult_eq (hvalid : validateCommandResult decoders.check s.db frame.nodeId
      frame.commandId frame.status frame.durable = .ok ()) :
    let r := runStages (Projection.project decoders digest draw frame faults)
      [.task, .deduction, .tooling] (s.updateCommand draw frame)
    handleCommandResult decoders digest draw frame faults s =
      ⟨r.1, if r.2.2.isOk then r.2.1.notify frame else r.2.1, r.2.2⟩ := by
  rw [handleCommandResult, hvalid]
  dsimp only
  split
  · rename_i projected t e hrun
    rw [hrun]
    rfl
  · rename_i projected t hrun
    rw [hrun]
    rfl

/-- A result that passes its checks is a terminal one, of a command that is there. -/
theorem row_of_valid (hvalid : validateCommandResult decoders.check s.db frame.nodeId
      frame.commandId frame.status frame.durable = .ok ()) :
    ∃ row, s.db.findCommand? frame.commandId = some row ∧
      isTerminalCommandState frame.status = true := by
  unfold validateCommandResult at hvalid
  split at hvalid
  · cases hvalid
  · rename_i row hrow
    split at hvalid
    · cases hvalid
    · split at hvalid
      · cases hvalid
      · rename_i hterminal
        exact ⟨row, hrow, by simpa using hterminal⟩

/-- **A result is applied as a whole exactly when every projection it is owed is done, and the
    waiter, if there is one, is reached.** -/
theorem whole_iff (hvalid : validateCommandResult decoders.check s.db frame.nodeId
      frame.commandId frame.status frame.durable = .ok ()) :
    let r := runStages (Projection.project decoders digest draw frame faults)
      [.task, .deduction, .tooling] (s.updateCommand draw frame)
    (handleCommandResult decoders digest draw frame faults s).Whole decoders frame s ↔
      (∀ p : Projection, p.Owed decoders frame s → p ∈ r.1) ∧
        (frame.commandId ∈ s.waiters → r.2.2 = .ok ()) := by
  intro r
  obtain ⟨hcommands, hwaiters, hnotified⟩ := (@kept_runStages decoders digest draw frame faults
      (s.updateCommand draw frame) [.task, .deduction, .tooling])
  obtain ⟨row, hrow, hterminal⟩ := row_of_valid hvalid
  have hstored : r.2.1.db.findCommand? frame.commandId =
      some (row.setResult frame.status frame.durable draw.now) := by
    have hfind := findCommand?_updateCommandResult s.db frame.commandId frame.status frame.durable
      draw.now
    rw [hrow] at hfind
    rw [Database.findCommand?, hcommands]
    exact hfind
  have hnotRedelivered : ¬ r.2.1.db.Redelivers frame.commandId := by
    intro ⟨o, _, hid, hsome⟩
    obtain ⟨c, hc⟩ := Option.isSome_iff_exists.mp hsome
    have hawaits : (c.commandId = o.commandId) ∧ awaitsNode c.state = true := by
      simpa using List.find?_some hc
    have hstored' := mem_of_find? hstored
    have hsame : c = row.setResult frame.status frame.durable draw.now := by
      have hown : (row.setResult frame.status frame.durable draw.now).commandId =
          frame.commandId := by simpa using find?_pos hstored
      exact eq_of_clash (mem_of_find? hc) hstored' ((hawaits.1.trans hid).trans hown.symm)
    rw [awaitsNode_eq_not_terminal, hsame, show (row.setResult _ _ _).state = frame.status from rfl,
      hterminal] at hawaits
    exact absurd hawaits.2 (by decide)
  have hdb : ∀ b : Bool, (if b then r.2.1.notify frame else r.2.1).db = r.2.1.db := by
    intro b
    cases b <;> rfl
  rw [handleCommandResult_eq hvalid]
  constructor
  · intro h
    refine ⟨fun p => h.projected (row.setResult frame.status frame.durable draw.now) ?_ hterminal
      ?_ p, fun hwaits => ?_⟩
    · exact (congrArg (·.findCommand? frame.commandId) (hdb _)).trans hstored
    · rw [hdb]
      exact hnotRedelivered
    · have hnotice := h.notified hwaits
      cases houtcome : r.2.2 with
      | ok x => rfl
      | error e =>
        rw [show (runStages _ _ _).2.2 = _ from houtcome] at hnotice
        have hlen := congrArg List.length (hnotified.symm.trans hnotice)
        simp [ResultState.updateCommand] at hlen
  · intro ⟨hall, hok⟩
    refine ⟨fun _ _ _ _ => hall, fun hwaits => ?_⟩
    rw [show (runStages _ _ _).2.2 = _ from hok hwaits]
    show (if r.2.1.waiters.contains frame.commandId then _ else _) = _
    rw [show r.2.1.waiters = s.waiters from hwaiters, if_pos (by simpa using hwaits),
      show r.2.1.notified = s.notified from hnotified]

end Whole

/-! ## 6. A result of a tool that does not decode -/

section Lost

def toolCommand : CommandEnvelope where
  commandId := "c1"
  kind := .tooling
  target := .node "n1"
  actorRef := .system
  issuedAt := 0
  correlationId := "r1"
  payload := .tooling ⟨1, .executeExternalTool "t1" "linear.search" "sha256:1" "i1" "d1"
    .emptyObject⟩

/-- A call waits for its command, which is on its way to the Node. -/
def waitingCall : ResultState where
  db := match recordCommand {} toolCommand with
    | .ok db => updateCommandState db "c1" .dispatched 0
    | .error _ => {}
  waiters := ["c1"]

/-- An object without fields is a tooling result that says nothing; what is no object is none. -/
def plainDecoders : ResultDecoders where
  codec := ⟨fun _ _ => none, fun _ => none, fun _ => none⟩
  task := fun _ => none
  deduction := fun _ => none
  tooling := fun
    | .object _ => some ⟨none, [], none⟩
    | _ => none

def toolResult (payload : JsonValue) : ResultFrame := ⟨"n1", "c1", .completed, payload⟩

theorem checked_toolResult (payload : JsonValue) :
    validateCommandResult plainDecoders.check waitingCall.db (toolResult payload).nodeId
      (toolResult payload).commandId (toolResult payload).status (toolResult payload).durable =
        .ok () := rfl

end Lost

end Uprava.Core
