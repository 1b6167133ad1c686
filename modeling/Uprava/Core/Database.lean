/-
  File:      Uprava/Core/Database.lean
  Subject:   Core's durable state: the tables the control plane reads and writes, with the unique
             indexes of the migrations, and the errors an operation can end in.

  Each row type states its indexes once, as the rows it may not stand beside (`Schema.clash`):
  the primary key, and every `unique` of the migrations, a partial one under its `where`. Columns
  that hold a serialized envelope hold the envelope. A column no operation of the model reads is
  left out.
-/
import Uprava.Lib.Table
import Uprava.Protocol.Control

namespace Uprava.Core

open Uprava.Protocol
open Uprava.Lib (Schema Table)

/-! ## 1. Errors -/

/-- How an operation of Core fails: in the database, on a text that does not parse, or with a code
    and a message. -/
inductive AppError where
  | database (constraint : String)
  | serialization
  | notFound (code message : String)
  | badRequest (code message : String)
  | auth (code message : String)
  | rateLimited (code message : String)
  deriving DecidableEq

/-- A statement's outcome, or the constraint it failed on. -/
def dbResult {α : Type} (constraint : String) : Option α → Except AppError α
  | some a => .ok a
  | none => .error (.database constraint)

@[simp] theorem dbResult_eq_ok {α : Type} {c : String} {o : Option α} {a : α} :
    dbResult c o = .ok a ↔ o = some a := by
  cases o <;> simp [dbResult]

/-- Two operations in a row succeed when the first does and the second does on its result. -/
theorem bind_eq_ok {ε α β : Type} {x : Except ε α} {f : α → Except ε β} {b : β} :
    (x >>= f) = .ok b ↔ ∃ a, x = .ok a ∧ f a = .ok b := by
  cases x <;> simp [bind, Except.bind]

/-- A request that may fail, as a step that is enabled when it does not. -/
theorem ok_of_toOption {ε α : Type} {x : Except ε α} {a : α} (h : x.toOption = some a) :
    x = .ok a := by
  cases x with
  | error e => cases h
  | ok b => rw [Option.some.inj h]

/-- Which states end a command. -/
def isTerminalCommandState : CommandState → Bool
  | .completed | .failed | .blocked | .expired => true
  | _ => false

/-! ## 2. Commands and their dispatch outbox -/

structure CommandRow where
  commandId : CommandId
  kind : CommandKind
  state : CommandState
  targetNodeId : NodeId
  sessionThreadId : Option SessionThreadId
  runtimeSessionId : Option RuntimeSessionId
  projectPlacementId : Option ProjectPlacementId
  payload : CommandPayload
  resultPayload : Option JsonValue
  command : CommandEnvelope
  createdAt : DateTime
  completedAt : Option DateTime
  deriving DecidableEq

instance : Schema CommandRow where
  clash a b := a.commandId = b.commandId
  dec _ _ := inferInstanceAs (Decidable (_ = _))
  symm := Eq.symm

structure CommandOutboxRow where
  commandId : CommandId
  targetNodeId : NodeId
  command : CommandEnvelope
  attempts : Nat
  enqueuedAt : DateTime
  lastAttemptAt : Option DateTime
  deriving DecidableEq

instance : Schema CommandOutboxRow where
  clash a b := a.commandId = b.commandId
  dec _ _ := inferInstanceAs (Decidable (_ = _))
  symm := Eq.symm

/-! ## 3. Events -/

inductive ProjectionState where
  | pending | projected
  deriving DecidableEq

structure EventRow where
  eventId : EventId
  scopeKey : String
  seq : Int
  sessionThreadId : Option SessionThreadId
  sessionProjectionSeq : Option Int
  event : EventEnvelope
  projectionState : ProjectionState
  projectionAttempts : Nat
  projectedAt : Option DateTime
  deriving DecidableEq

/-- `events_session_projection_seq_idx`. -/
def EventRow.sameSessionSeq (a b : EventRow) : Prop :=
  a.sessionThreadId = b.sessionThreadId ∧ a.sessionProjectionSeq = b.sessionProjectionSeq ∧
    a.sessionThreadId ≠ none ∧ a.sessionProjectionSeq ≠ none

instance : Schema EventRow where
  clash a b :=
    a.eventId = b.eventId ∨ (a.scopeKey = b.scopeKey ∧ a.seq = b.seq) ∨ a.sameSessionSeq b
  dec a b := inferInstanceAs (Decidable (_ ∨ _ ∧ _ ∨ _ ∧ _ ∧ _ ∧ _))
  symm := by
    rintro a b (h | ⟨h, h'⟩ | ⟨h, h', hs, hp⟩)
    · exact Or.inl h.symm
    · exact Or.inr (Or.inl ⟨h.symm, h'.symm⟩)
    · exact Or.inr (Or.inr ⟨h.symm, h'.symm, h ▸ hs, h' ▸ hp⟩)

structure PublicationRow where
  eventId : EventId
  event : EventEnvelope
  enqueuedAt : DateTime
  deriving DecidableEq

instance : Schema PublicationRow where
  clash a b := a.eventId = b.eventId
  dec _ _ := inferInstanceAs (Decidable (_ = _))
  symm := Eq.symm

structure WarningAcknowledgementRow where
  eventId : EventId
  sessionThreadId : SessionThreadId
  warningKind : Option String
  acknowledgedAt : DateTime
  deriving DecidableEq

instance : Schema WarningAcknowledgementRow where
  clash a b := a.eventId = b.eventId
  dec _ _ := inferInstanceAs (Decidable (_ = _))
  symm := Eq.symm

structure ActorRow where
  actorKey : String
  actorKind : String
  displayName : String
  actorRef : ActorRef
  firstSeenAt : DateTime
  lastSeenAt : DateTime
  deriving DecidableEq

instance : Schema ActorRow where
  clash a b := a.actorKey = b.actorKey
  dec _ _ := inferInstanceAs (Decidable (_ = _))
  symm := Eq.symm

/-! ## 4. Placements, sessions, runtimes and turns -/

structure PlacementRow where
  projectPlacementId : ProjectPlacementId
  nodeId : NodeId
  displayName : String
  workspacePath : String
  state : PlacementState
  resourceBadges : JsonValue
  gitSnapshot : Option JsonValue
  lastValidatedAt : Option DateTime
  createdAt : DateTime
  updatedAt : DateTime
  deriving DecidableEq

/-- `project_placements_identity_idx` beside the primary key. -/
instance : Schema PlacementRow where
  clash a b := a.projectPlacementId = b.projectPlacementId ∨
    (a.nodeId = b.nodeId ∧ a.workspacePath = b.workspacePath)
  dec _ _ := inferInstanceAs (Decidable (_ ∨ _ ∧ _))
  symm := by
    rintro a b (h | ⟨h, h'⟩)
    · exact Or.inl h.symm
    · exact Or.inr ⟨h.symm, h'.symm⟩

structure SessionRow where
  sessionThreadId : SessionThreadId
  projectPlacementId : ProjectPlacementId
  runtimeSessionId : RuntimeSessionId
  state : SessionThreadState
  createdAt : DateTime
  updatedAt : DateTime
  deriving DecidableEq

instance : Schema SessionRow where
  clash a b := a.sessionThreadId = b.sessionThreadId ∨ a.runtimeSessionId = b.runtimeSessionId
  dec _ _ := inferInstanceAs (Decidable (_ ∨ _))
  symm := by
    rintro a b (h | h)
    · exact Or.inl h.symm
    · exact Or.inr h.symm

structure RuntimeRow where
  runtimeSessionId : RuntimeSessionId
  sessionThreadId : SessionThreadId
  state : RuntimeSessionState
  providerResumeRef : Option JsonValue
  degradedReason : Option String
  lastRuntimeStepAt : Option DateTime
  createdAt : DateTime
  updatedAt : DateTime
  deriving DecidableEq

/-- `runtime_sessions_session_thread_idx` beside the primary key. -/
instance : Schema RuntimeRow where
  clash a b := a.runtimeSessionId = b.runtimeSessionId ∨ a.sessionThreadId = b.sessionThreadId
  dec _ _ := inferInstanceAs (Decidable (_ ∨ _))
  symm := by
    rintro a b (h | h)
    · exact Or.inl h.symm
    · exact Or.inr h.symm

structure TurnRow where
  turnId : TurnId
  sessionThreadId : SessionThreadId
  commandId : CommandId
  turnIndex : Int
  state : TurnState
  blockedApprovalId : Option ApprovalId
  createdAt : DateTime
  updatedAt : DateTime
  completedAt : Option DateTime
  deriving DecidableEq

instance : Schema TurnRow where
  clash a b := a.turnId = b.turnId ∨ a.commandId = b.commandId ∨
    (a.sessionThreadId = b.sessionThreadId ∧ a.turnIndex = b.turnIndex)
  dec _ _ := inferInstanceAs (Decidable (_ ∨ _ ∨ _ ∧ _))
  symm := by
    rintro a b (h | h | ⟨h, h'⟩)
    · exact Or.inl h.symm
    · exact Or.inr (Or.inl h.symm)
    · exact Or.inr (Or.inr ⟨h.symm, h'.symm⟩)

/-! ## 5. Approvals, messages and task runs -/

structure ApprovalRow where
  approvalId : ApprovalId
  sessionThreadId : SessionThreadId
  runtimeSessionId : Option RuntimeSessionId
  turnId : Option TurnId
  state : ApprovalState
  requestPayload : Option EventPayload
  responsePayload : Option EventPayload
  requestCommandId : Option CommandId
  resolveCommandId : Option CommandId
  requestedEventId : Option EventId
  resolvedEventId : Option EventId
  createdAt : DateTime
  updatedAt : DateTime
  resolvedAt : Option DateTime
  deriving DecidableEq

/-- `approvals_turn_idx`, one approval of a turn, beside the primary key. -/
instance : Schema ApprovalRow where
  clash a b := a.approvalId = b.approvalId ∨ (a.turnId = b.turnId ∧ a.turnId ≠ none)
  dec _ _ := inferInstanceAs (Decidable (_ ∨ _ ∧ _))
  symm := by
    rintro a b (h | ⟨h, h'⟩)
    · exact Or.inl h.symm
    · exact Or.inr ⟨h.symm, h ▸ h'⟩

inductive MessageRole where
  | user | assistant | runtime | approval
  deriving DecidableEq

structure MessageRow where
  messageId : MessageId
  sessionThreadId : SessionThreadId
  turnId : Option TurnId
  role : MessageRole
  content : String
  createdAt : DateTime
  completedAt : Option DateTime
  sourceEventId : Option EventId
  deriving DecidableEq

/-- `messages_source_event_idx` beside the primary key. -/
instance : Schema MessageRow where
  clash a b := a.messageId = b.messageId ∨
    (a.sourceEventId = b.sourceEventId ∧ a.sourceEventId ≠ none)
  dec _ _ := inferInstanceAs (Decidable (_ ∨ _ ∧ _))
  symm := by
    rintro a b (h | ⟨h, h'⟩)
    · exact Or.inl h.symm
    · exact Or.inr ⟨h.symm, h ▸ h'⟩

structure TaskRunRow where
  taskRunId : TaskRunId
  projectPlacementId : ProjectPlacementId
  nodeId : NodeId
  state : TaskRunState
  cleanupState : TaskCleanupState
  commandId : CommandId
  startedAt : Option DateTime
  updatedAt : DateTime
  deriving DecidableEq

instance : Schema TaskRunRow where
  clash a b := a.taskRunId = b.taskRunId
  dec _ _ := inferInstanceAs (Decidable (_ = _))
  symm := Eq.symm

/-- `mcp_dependency_instances`: a tool dependency a Node is asked to run or not. -/
structure DependencyRow where
  dependencyInstanceId : String
  integrationId : String
  nodeId : NodeId
  desiredState : String
  deriving DecidableEq

instance : Schema DependencyRow where
  clash a b := a.dependencyInstanceId = b.dependencyInstanceId ∨
    (a.integrationId = b.integrationId ∧ a.nodeId = b.nodeId)
  dec _ _ := inferInstanceAs (Decidable (_ ∨ _ ∧ _))
  symm := by
    rintro a b (h | ⟨h, h'⟩)
    · exact Or.inl h.symm
    · exact Or.inr ⟨h.symm, h'.symm⟩

/-! ## 6. The database -/

structure Database where
  commands : Table CommandRow := .empty
  commandOutbox : Table CommandOutboxRow := .empty
  events : Table EventRow := .empty
  publications : Table PublicationRow := .empty
  warningAcknowledgements : Table WarningAcknowledgementRow := .empty
  actors : Table ActorRow := .empty
  projectPlacements : Table PlacementRow := .empty
  sessionThreads : Table SessionRow := .empty
  runtimeSessions : Table RuntimeRow := .empty
  turns : Table TurnRow := .empty
  approvals : Table ApprovalRow := .empty
  messages : Table MessageRow := .empty
  taskRuns : Table TaskRunRow := .empty
  mcpDependencyInstances : Table DependencyRow := .empty
  deriving DecidableEq

/-! ## 7. A database of two Nodes

The input of the counterexamples: each Node has one placement, with one session, one runtime and
one turn. -/

def PlacementRow.fresh (id : ProjectPlacementId) (nodeId : NodeId) : PlacementRow where
  projectPlacementId := id
  nodeId := nodeId
  displayName := "workspace"
  workspacePath := "/work"
  state := .validated
  resourceBadges := .array .nil
  gitSnapshot := none
  lastValidatedAt := none
  createdAt := 0
  updatedAt := 0

def TurnRow.fresh (id : TurnId) (sessionThreadId : SessionThreadId) (commandId : CommandId) :
    TurnRow :=
  ⟨id, sessionThreadId, commandId, 1, .created, none, 0, 0, none⟩

def twoNodes : Database where
  projectPlacements := ⟨[.fresh "p1" "n1", .fresh "p2" "n2"], by decide⟩
  sessionThreads := ⟨[⟨"s1", "p1", "r1", .active, 0, 0⟩, ⟨"s2", "p2", "r2", .active, 0, 0⟩],
    by decide⟩
  runtimeSessions := ⟨[⟨"r1", "s1", .ready, none, none, none, 0, 0⟩,
    ⟨"r2", "s2", .ready, none, none, none, 0, 0⟩], by decide⟩
  turns := ⟨[.fresh "t1" "s1" "c1", .fresh "t2" "s2" "c2"], by decide⟩

end Uprava.Core
