/-
  File:      Uprava/Node/Cancellation.lean
  Subject:   How the Node cancels a deduction, a task or an external tool call: the keys, the
             registry of a dispatcher, the places where a work command looks for its cancellation,
             and the dispatchers as a transition system.

  * `ExecutionCancellationState` -- the running work commands of a dispatcher and the cancellations
    that came before their work;
  * `Stage`                      -- what a work command does between two looks at its channel;
  * `Dispatchers.step`           -- one action of a connection, of a job or of another part.

  Each connection starts a dispatcher with an empty registry; a dispatcher that was left by an error
  runs its jobs on. Every interleaving of the jobs' awaits is a run.

  A work command goes through its stages and only then is its body computed, from its copy and from
  what it saw. The channel of a job is the job's own: the registry names it by the job.
-/
import Mathlib.Logic.Function.Basic
import Uprava.Lib.Run
import Uprava.Node.Machine

namespace Uprava.Node

open Uprava.Protocol
open Uprava.Lib (Assoc)

/-! ## 1. Keys -/

def runtimeCancellationKey (runtimeSessionId : RuntimeSessionId) : String :=
  "runtime:" ++ runtimeSessionId

def deductionCancellationKey (deductionId : DeductionId) : String := "deduction:" ++ deductionId

def toolCallCancellationKey (toolCallId : String) : String := "tool-call:" ++ toolCallId

/-- The key under which a command can be cancelled while it runs. -/
def executionCancellationKey (command : CommandEnvelope) : Option String :=
  match command.kind, command.payload with
  | .sendTurn, _ => command.target.runtimeSessionId.map runtimeCancellationKey
  | .requestDeduction, .requestDeduction package =>
    some (deductionCancellationKey package.deductionId)
  | .runTask, .runTask _ spec => some (taskCancellationKey spec.taskRunId)
  | .tooling, .tooling ⟨_, .executeExternalTool toolCallId ..⟩ =>
    some (toolCallCancellationKey toolCallId)
  | _, _ => none

/-- The key a command cancels, and whether a work command that is still to come is cancelled. -/
def cancellationSignal (command : CommandEnvelope) : Option (String × Bool) :=
  match command.kind, command.payload with
  | .interruptRuntime, _ | .stopRuntime, _ =>
    (command.target.runtimeSessionId.map runtimeCancellationKey).map fun key => (key, false)
  | .cancelDeduction, .cancelDeduction deductionId =>
    some (deductionCancellationKey deductionId, true)
  | .cancelTaskRun, .cancelTaskRun taskRunId => some (taskCancellationKey taskRunId, true)
  | .tooling, .tooling ⟨_, .cancelToolCall toolCallId _⟩ =>
    some (toolCallCancellationKey toolCallId, true)
  | _, _ => none

/-- RequestDeduction, RunTask or ExecuteExternalTool. -/
def isWork (command : CommandEnvelope) : Bool :=
  match command.kind, command.payload with
  | .requestDeduction, .requestDeduction _ | .runTask, .runTask ..
  | .tooling, .tooling ⟨_, .executeExternalTool ..⟩ => true
  | _, _ => false

/-! ## 2. Channels and the registry -/

/-- A `watch` channel of a flag, with the number of values sent on it. A job's receiver has seen
    the value the channel was made with. -/
structure Watch where
  value : Bool
  version : Nat := 0
  deriving DecidableEq

def Watch.send (w : Watch) (value : Bool) : Watch := ⟨value, w.version + 1⟩

/-- `receiver.changed()`, for a receiver that has waited for no value yet. -/
def Watch.changed (w : Watch) : Bool := 0 < w.version

@[simp] theorem Watch.value_send (w : Watch) (value : Bool) : (w.send value).value = value := rfl

@[simp] theorem Watch.changed_send (w : Watch) (value : Bool) : (w.send value).changed = true := by
  simp [Watch.send, Watch.changed]

/-- The senders by key, each named by the job that holds its channel, and the keys that were
    cancelled when no job held one. -/
structure ExecutionCancellationState where
  senders : Assoc String Nat := ∅
  pending : List String := []

namespace ExecutionCancellationState

/-- `begin`: the new channel says whether the key was cancelled before. -/
def begin (s : ExecutionCancellationState) (key : String) (job : Nat) :
    ExecutionCancellationState × Watch :=
  (⟨s.senders.insert key job, s.pending.filter (· != key)⟩, { value := s.pending.contains key })

/-- `cancel`, when no job holds a channel of the key. -/
def remember (s : ExecutionCancellationState) (key : String) (rememberIfPending : Bool) :
    ExecutionCancellationState :=
  if rememberIfPending && !s.pending.contains key then { s with pending := key :: s.pending } else s

/-- `finish`: the sender goes, unless another job's channel took its place. -/
def finish (s : ExecutionCancellationState) (key : String) (job : Nat) :
    ExecutionCancellationState :=
  if s.senders.lookup key = some job then { s with senders := s.senders.erase key } else s

end ExecutionCancellationState

/-! ## 3. Where a work command looks -/

/-- What a work command does. A look or a `select!` that takes the cancellation may be followed by
    the collection of the task's evidence. -/
inductive Stage where
  /-- Something that is done without a look at the channel. -/
  | operate
  /-- The channel is asked once. -/
  | look (evidence : Bool)
  /-- An operation and the channel are waited for together. -/
  | select (evidence : Bool)
  deriving DecidableEq

def Stage.watches : Stage → Bool
  | operate => false
  | look _ | select _ => true

/-- What is left to do once a stage took the cancellation. -/
def Stage.closing : Stage → List Stage
  | operate | look false | select false => []
  | look true | select true => [operate]

/-- The stages of a command's body.

    A deduction looks before it prepares its provider and waits for the process. A task looks after
    it prepared its worktree and while its sandbox starts, and waits for Codex and its checks. An
    external tool call waits for the call alone. -/
def workStages : CommandPayload → List Stage
  | .requestDeduction _ => [.look false, .operate, .select false, .operate]
  | .runTask .. =>
    [.operate, .look false, .operate, .look true, .operate, .select true, .operate]
  | .tooling ⟨_, .executeExternalTool ..⟩ => [.operate, .select false]
  | _ => []

/-- Where a work command saw its cancellation. -/
inductive Sighting where
  | unseen | looked | selected
  deriving DecidableEq

/-! ## 4. Cancelled results -/

/-- The result of a deduction whose provider was terminated. What the provider left of its text is
    from the outside. -/
def cancelledDeduction (world : World) (command : CommandEnvelope) : CommandState × JsonValue :=
  let output := deductionErrorPayload command codexProviderKey "provider.cancelled"
    "Codex deduction was cancelled by a runtime control command"
  (.failed, (output.set "raw_text"
      ((world.deductionResult.2.get "raw_text").getD (.string ""))).set "raw_truncated"
    ((world.deductionResult.2.get "raw_truncated").getD (.bool false)))

/-- The package of a cancelled task. The rest of it is from the outside, and so is the message,
    which says how far the task was. -/
def cancelledTask (world : World) : CommandState × JsonValue :=
  (.completed, (world.taskResult.2.set "state" (.string "cancelled")).set "terminal_reason"
    (.ofFields [("code", .string "task_run.cancelled"),
      ("message", ((world.taskResult.2.get "terminal_reason").bind (·.get "message")).getD
        (.string "Task Run was cancelled"))]))

def cancelledToolCallId : CommandPayload → String
  | .tooling ⟨_, .executeExternalTool toolCallId ..⟩ => toolCallId
  | _ => ""

/-- `tooling_failure_event`, for a call that was cancelled. -/
def cancelledToolCall (world : World) (command : CommandEnvelope) : CommandState × JsonValue :=
  (.completed, .ofFields [("status", .null), ("definitions", .array .nil),
    ("event", .ofFields [("contract_version", .int 1),
      ("payload", .ofFields [("type", .string "tool_call_failed"),
        ("tool_call_id", .string (cancelledToolCallId command.payload)),
        ("error", .ofFields [("code", .string "cancelled"),
          ("message", .string "External MCP call was cancelled"), ("retryable", .bool false),
          ("redacted_details", .emptyObject)]),
        ("failed_at", .int world.limits.now)])])])

/-- What a work command gets from the outside, by what it saw. -/
def World.seen (world : World) (command : CommandEnvelope) : Sighting → World
  | .unseen => { world with cancelled := false }
  | saw =>
    { world with
      cancelled := saw = .looked
      deductionResult := cancelledDeduction world command
      taskResult := cancelledTask world
      toolingResult := cancelledToolCall world command }

/-- Does the answer of a work command say that it was cancelled? -/
def reportsCancellation (command : CommandEnvelope) (outcome : CommandDispatchOutcome) : Bool :=
  match command.payload with
  | .requestDeduction _ =>
    outcome.status == .failed &&
      (outcome.resultPayload.get "error_code" == some (.string "deduction.cancelled") ||
        outcome.resultPayload.get "error_code" == some (.string "provider.cancelled"))
  | .runTask .. => outcome.resultPayload.get "state" == some (.string "cancelled")
  | .tooling _ =>
    ((((outcome.resultPayload.get "event").bind (·.get "payload")).bind (·.get "error")).bind
      (·.get "code")) == some (.string "cancelled")
  | _ => false

/-! ## 5. Jobs and dispatchers -/

inductive JobPhase where
  /-- It is spawned. -/
  | arrived
  /-- It has given its signal, if it has one, and waits for its permit and its lock. -/
  | waiting
  /-- It holds its lock, and a channel if it can be cancelled. -/
  | registered
  | working (baseline : NodeLocalState) (saw : Sighting) (rest : List Stage)
  | ended (baseline : NodeLocalState) (execution : Execution)
  /-- Its outcome is persisted. -/
  | answering (outcome : CommandDispatchOutcome)

structure Job where
  dispatcher : Nat
  command : CommandEnvelope
  phase : JobPhase := .arrived
  channel : Option Watch := none

def JobPhase.holdsPermit : JobPhase → Bool
  | arrived | waiting => false
  | _ => true

/-- Is the command's signal given? -/
def JobPhase.signalled : JobPhase → Bool
  | arrived => false
  | _ => true

namespace Job

/-- Does its receiver tell it of a cancellation? An external tool call waits for the next value,
    the other work commands read the value. -/
def heard (t : Job) : Bool :=
  match t.command.payload with
  | .tooling _ => t.channel.any Watch.changed
  | _ => t.channel.any Watch.value

/-- Does the copy say that the deduction was cancelled? -/
def tombstoned (t : Job) (s : NodeLocalState) : Bool :=
  match t.command.payload with
  | .requestDeduction package => s.cancelledDeductions.contains package.deductionId
  | _ => false

/-- Does a stage see the cancellation? -/
def sees (t : Job) (s : NodeLocalState) : Stage → Bool
  | .operate => false
  | .look _ => t.heard || t.tombstoned s
  | .select _ => t.heard

/-- Has the Node not answered this command before? -/
def isNew (t : Job) (s : NodeLocalState) : Bool :=
  (s.commandStatus.lookup t.command.commandId).isNone

/-- The stages of a command: none for an answer from the cache. -/
def stages (t : Job) (s : NodeLocalState) : List Stage :=
  if t.isNew s then workStages t.command.payload else []

def send (t : Job) (value : Bool) : Job := { t with channel := t.channel.map (·.send value) }

end Job

/-- What the Node did, in order. -/
inductive LogEntry where
  /-- A command that was new to the Node was executed. -/
  | finished (command : CommandEnvelope) (outcome : CommandDispatchOutcome)
  | answered (command : CommandEnvelope) (status : CommandState)

structure Dispatchers where
  owner : NodeLocalState
  drawn : Nat := 0
  /-- The dispatcher of the connection that is up. -/
  connection : Option Nat := none
  dispatchers : Nat := 0
  aborted : List Nat := []
  registries : Nat → ExecutionCancellationState := fun _ => {}
  jobs : Nat → Option Job := fun _ => none
  spawned : Nat := 0
  received : List CommandEnvelope := []
  /-- The latest entry first. -/
  log : List LogEntry := []

namespace Dispatchers

def start (loaded : NodeLocalState) : Dispatchers := { owner := loaded }

def setJob (d : Dispatchers) (i : Nat) (t : Option Job) : Dispatchers :=
  { d with jobs := Function.update d.jobs i t }

def setRegistry (d : Dispatchers) (e : Nat) (s : ExecutionCancellationState) : Dispatchers :=
  { d with registries := Function.update d.registries e s }

def note (d : Dispatchers) (entry : LogEntry) : Dispatchers := { d with log := entry :: d.log }

/-- The jobs of a dispatcher that hold one of its permits. -/
def holding (d : Dispatchers) (dispatcher : Nat) : List Job :=
  ((List.range d.spawned).filterMap d.jobs).filter fun t =>
    t.dispatcher == dispatcher && t.phase.holdsPermit

/-- A command Core may deliver after those it delivered. -/
def admits (d : Dispatchers) (command : CommandEnvelope) : Bool :=
  command.payload.matchesKind command.kind &&
    d.received.all fun c => c.commandId != command.commandId || c == command

end Dispatchers

inductive Progress where
  /-- The stage is done. -/
  | passes
  /-- The stage takes the cancellation. -/
  | cancels
  deriving DecidableEq

inductive CancellationAction where
  | connect
  /-- The connection ends, by its read loop or by an error. -/
  | disconnect (aborts : Bool)
  | receive (command : CommandEnvelope)
  | signal (i : Nat)
  | register (i : Nat)
  /-- The job takes its copy and acknowledges its command, or cannot acknowledge it. -/
  | snapshot (i : Nat) (acknowledged : Bool)
  | advance (i : Nat) (progress : Progress)
  /-- An operation fails, or its time is up. -/
  | fail (i : Nat) (world : World)
  | conclude (i : Nat) (world : World)
  | persist (i : Nat)
  | result (i : Nat) (queued : Bool)
  | stop (i : Nat)
  | mutate (mutation : NodeStateMutation)

/-! ## 6. Steps -/

namespace Dispatchers

section Steps

variable (source : EventSource)

def move (d : Dispatchers) (i : Nat) (f : Job → Option Dispatchers) : Option Dispatchers :=
  (d.jobs i).bind f

/-- `cancel`: the channel of the key's job is sent to, or the key is remembered. -/
def cancel (d : Dispatchers) (dispatcher : Nat) (key : String) (rememberIfPending : Bool) :
    Dispatchers :=
  match (d.registries dispatcher).senders.lookup key with
  | some j => d.setJob j ((d.jobs j).map (·.send true))
  | none => d.setRegistry dispatcher ((d.registries dispatcher).remember key rememberIfPending)

/-- `prepare_command_dispatch_task`, up to the permit. -/
def signal (d : Dispatchers) (i : Nat) (t : Job) : Option Dispatchers :=
  match t.phase with
  | .arrived =>
    let d := d.setJob i (some { t with phase := .waiting })
    match cancellationSignal t.command with
    | some (key, rememberIfPending) => some (d.cancel t.dispatcher key rememberIfPending)
    | none => some d
  | _ => none

def register (d : Dispatchers) (i : Nat) (t : Job) : Option Dispatchers :=
  match t.phase with
  | .waiting =>
    let holding := d.holding t.dispatcher
    if holding.length < nodeCommandDispatchConcurrency ∧
        holding.all (fun u => commandExecutionKey u.command != commandExecutionKey t.command) then
      match executionCancellationKey t.command with
      | some key =>
        let (registry, channel) := (d.registries t.dispatcher).begin key i
        some ((d.setRegistry t.dispatcher registry).setJob i
          (some { t with phase := .registered, channel := some channel }))
      | none => some (d.setJob i (some { t with phase := .registered }))
    else none
  | _ => none

/-- The job is done and gives back its channel. -/
def finish (d : Dispatchers) (i : Nat) (t : Job) : Dispatchers :=
  match executionCancellationKey t.command with
  | some key =>
    (d.setRegistry t.dispatcher ((d.registries t.dispatcher).finish key i)).setJob i none
  | none => d.setJob i none

def snapshot (d : Dispatchers) (i : Nat) (acknowledged : Bool) (t : Job) : Option Dispatchers :=
  match t.phase with
  | .registered =>
    if acknowledged then
      some (d.setJob i (some { t with phase := .working d.owner .unseen (t.stages d.owner) }))
    else some (d.finish i t)
  | _ => none

def advance (d : Dispatchers) (i : Nat) (progress : Progress) (t : Job) : Option Dispatchers :=
  match t.phase, progress with
  | .working baseline saw (stage :: rest), .passes =>
    match stage with
    | .look _ =>
      if t.sees baseline stage then none
      else some (d.setJob i (some { t with phase := .working baseline saw rest }))
    | _ => some (d.setJob i (some { t with phase := .working baseline saw rest }))
  | .working baseline _ (stage :: _), .cancels =>
    if t.sees baseline stage then
      let saw := match stage with
        | .look _ => .looked
        | _ => .selected
      some (d.setJob i (some { t with phase := .working baseline saw stage.closing }))
    else none
  | _, _ => none

/-- The body of a job ends: `saw` is what its result is by. -/
def ends (d : Dispatchers) (i : Nat) (t : Job) (baseline : NodeLocalState) (saw : Sighting)
    (world : World) : Dispatchers :=
  let x := handleCommand source (world.seen t.command saw) baseline d.drawn t.command
  let d := { d.setJob i (some { t with phase := .ended baseline x }) with drawn := x.drawn }
  if t.isNew baseline then d.note (.finished t.command x.outcome) else d

def fail (d : Dispatchers) (i : Nat) (world : World) (t : Job) : Option Dispatchers :=
  match t.phase with
  | .working baseline _ (stage :: _) =>
    match stage with
    | .look _ => none
    | _ => some (d.ends source i t baseline .unseen world)
  | _ => none

def conclude (d : Dispatchers) (i : Nat) (world : World) (t : Job) : Option Dispatchers :=
  match t.phase with
  | .working baseline saw [] => some (d.ends source i t baseline saw world)
  | _ => none

def persist (d : Dispatchers) (i : Nat) (t : Job) : Option Dispatchers :=
  match t.phase with
  | .ended baseline x =>
    let d := d.setJob i (some { t with phase := .answering x.outcome })
    some (if x.outcome.stateChanged then
        { d with owner := d.owner.mergeCommandStateFrom baseline x.localState }
      else d)
  | _ => none

def result (d : Dispatchers) (i : Nat) (queued : Bool) (t : Job) : Option Dispatchers :=
  match t.phase with
  | .answering outcome =>
    some (if queued then (d.finish i t).note (.answered t.command outcome.status)
      else d.finish i t)
  | _ => none

def step (d : Dispatchers) : CancellationAction → Option Dispatchers
  | .connect =>
    match d.connection with
    | none =>
      some { d with connection := some d.dispatchers, dispatchers := d.dispatchers + 1 }
    | some _ => none
  | .disconnect aborts =>
    d.connection.map fun e =>
      { d with connection := none, aborted := if aborts then e :: d.aborted else d.aborted }
  | .receive command =>
    match d.connection with
    | some e =>
      if d.admits command then
        some { d.setJob d.spawned (some { dispatcher := e, command }) with
          spawned := d.spawned + 1
          received := command :: d.received }
      else none
    | none => none
  | .signal i => d.move i fun t => d.signal i t
  | .register i => d.move i fun t => d.register i t
  | .snapshot i acknowledged => d.move i fun t => d.snapshot i acknowledged t
  | .advance i progress => d.move i fun t => d.advance i progress t
  | .fail i world => d.move i fun t => d.fail source i world t
  | .conclude i world => d.move i fun t => d.conclude source i world t
  | .persist i => d.move i fun t => d.persist i t
  | .result i queued => d.move i fun t => d.result i queued t
  | .stop i =>
    d.move i fun t => if d.aborted.contains t.dispatcher then some (d.setJob i none) else none
  | .mutate mutation =>
    if mutation.isMerge then none
    else some { d with owner := applyNodeStateMutation d.owner mutation }

end Steps

/-! ## 7. What one step does -/

variable {source : EventSource} {d d' : Dispatchers} {i : Nat} {t : Job}

theorem move_eq_some {f : Job → Option Dispatchers} (h : d.move i f = some d') :
    ∃ t, d.jobs i = some t ∧ f t = some d' := by
  exact Option.bind_eq_some_iff.mp h

theorem signal_eq_some (h : d.signal i t = some d') :
    t.phase = .arrived ∧
      ((cancellationSignal t.command = none ∧
          d' = d.setJob i (some { t with phase := .waiting })) ∨
        ∃ key rememberIfPending, cancellationSignal t.command = some (key, rememberIfPending) ∧
          d' = (d.setJob i (some { t with phase := .waiting })).cancel t.dispatcher key
            rememberIfPending) := by
  unfold Dispatchers.signal at h
  split at h
  · rename_i hphase
    dsimp only at h
    split at h
    · rename_i key rememberIfPending hsignal
      exact ⟨hphase, Or.inr ⟨key, rememberIfPending, hsignal, (Option.some.inj h).symm⟩⟩
    · rename_i hsignal
      exact ⟨hphase, Or.inl ⟨hsignal, (Option.some.inj h).symm⟩⟩
  · cases h

theorem register_eq_some (h : d.register i t = some d') :
    t.phase = .waiting ∧
      ((executionCancellationKey t.command = none ∧
          d' = d.setJob i (some { t with phase := .registered })) ∨
        ∃ key, executionCancellationKey t.command = some key ∧
          d' = (d.setRegistry t.dispatcher
              ((d.registries t.dispatcher).begin key i).1).setJob i
            (some { t with
              phase := .registered
              channel := some ((d.registries t.dispatcher).begin key i).2 })) := by
  unfold Dispatchers.register at h
  split at h
  · rename_i hphase
    dsimp only at h
    split at h
    · split at h
      · rename_i key hkey
        exact ⟨hphase, Or.inr ⟨key, hkey, (Option.some.inj h).symm⟩⟩
      · rename_i hkey
        exact ⟨hphase, Or.inl ⟨hkey, (Option.some.inj h).symm⟩⟩
    · cases h
  · cases h

theorem snapshot_eq_some {acknowledged : Bool} (h : d.snapshot i acknowledged t = some d') :
    t.phase = .registered ∧
      ((acknowledged = true ∧ d' = d.setJob i
          (some { t with phase := .working d.owner .unseen (t.stages d.owner) })) ∨
        (acknowledged = false ∧ d' = d.finish i t)) := by
  unfold Dispatchers.snapshot at h
  split at h
  · rename_i hphase
    split at h
    · rename_i hack
      exact ⟨hphase, Or.inl ⟨hack, (Option.some.inj h).symm⟩⟩
    · rename_i hack
      exact ⟨hphase, Or.inr ⟨by simpa using hack, (Option.some.inj h).symm⟩⟩
  · cases h

/-- A look that would see the cancellation does not pass, and only a stage that sees it takes it. -/
theorem advance_eq_some {progress : Progress} (h : d.advance i progress t = some d') :
    ∃ baseline saw stage rest, t.phase = .working baseline saw (stage :: rest) ∧
      ((progress = .passes ∧ (∀ evidence, stage = .look evidence → t.sees baseline stage = false) ∧
          d' = d.setJob i (some { t with phase := .working baseline saw rest })) ∨
        (progress = .cancels ∧ t.sees baseline stage = true ∧ ∃ sighting, sighting ≠ .unseen ∧
          d' = d.setJob i (some { t with phase := .working baseline sighting stage.closing }))) := by
  unfold Dispatchers.advance at h
  split at h
  · rename_i baseline saw stage rest hphase
    refine ⟨baseline, saw, stage, rest, hphase, Or.inl ⟨rfl, ?_⟩⟩
    split at h
    · split at h
      · cases h
      · rename_i hsees
        exact ⟨fun _ _ => by simpa using hsees, (Option.some.inj h).symm⟩
    · rename_i hlook
      exact ⟨fun evidence hstage => absurd hstage (hlook evidence), (Option.some.inj h).symm⟩
  · rename_i baseline saw stage rest hphase
    refine ⟨baseline, saw, stage, rest, hphase, Or.inr ⟨rfl, ?_⟩⟩
    split at h
    · rename_i hsees
      refine ⟨hsees, _, ?_, (Option.some.inj h).symm⟩
      cases stage <;> simp
    · cases h
  · cases h

theorem fail_eq_some {world : World} (h : d.fail source i world t = some d') :
    ∃ baseline saw stage rest, t.phase = .working baseline saw (stage :: rest) ∧
      d' = d.ends source i t baseline .unseen world := by
  unfold Dispatchers.fail at h
  split at h
  · rename_i baseline saw stage rest hphase
    refine ⟨baseline, saw, stage, rest, hphase, ?_⟩
    split at h
    · cases h
    · exact (Option.some.inj h).symm
  · cases h

theorem conclude_eq_some {world : World} (h : d.conclude source i world t = some d') :
    ∃ baseline saw, t.phase = .working baseline saw [] ∧
      d' = d.ends source i t baseline saw world := by
  unfold Dispatchers.conclude at h
  split at h
  · rename_i baseline saw hphase
    exact ⟨baseline, saw, hphase, (Option.some.inj h).symm⟩
  · cases h

theorem persist_eq_some (h : d.persist i t = some d') :
    ∃ baseline x, t.phase = .ended baseline x ∧ d'.log = d.log ∧
      d'.jobs = (d.setJob i (some { t with phase := .answering x.outcome })).jobs := by
  unfold Dispatchers.persist at h
  split at h
  · rename_i baseline x hphase
    obtain rfl := Option.some.inj h
    refine ⟨baseline, x, hphase, ?_⟩
    split <;> exact ⟨rfl, rfl⟩
  · cases h

theorem result_eq_some {queued : Bool} (h : d.result i queued t = some d') :
    ∃ outcome, t.phase = .answering outcome ∧
      d' = if queued then (d.finish i t).note (.answered t.command outcome.status)
        else d.finish i t := by
  unfold Dispatchers.result at h
  split at h
  · rename_i outcome hphase
    exact ⟨outcome, hphase, (Option.some.inj h).symm⟩
  · cases h

end Dispatchers

end Uprava.Node
