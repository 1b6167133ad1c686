/-
  File:      Uprava/Node/Replay.lean
  Subject:   A command that is delivered again: the answer the Node kept of it, beside the answer
             it gave first, and what Core makes of the second.

  Between the first delivery and a later one the store may take the outcomes of other commands,
  the acknowledgements of events and the other mutations, and it may be saved and loaded. None of
  it touches the entry of the command (`storeStep_entry`). What the entry says is decided when the
  outcome is recorded: every body keeps what it sends, up to the authorization URL
  (`commandBody_kept`), and the failure for want of access keeps its status alone.
-/
import Uprava.Core.Commands
import Uprava.Lib.Run
import Uprava.Node.Effects

namespace Uprava.Node

open Uprava.Protocol
open Uprava.Lib (Assoc run run_inv JsonValue.remove_remove)

/-! ## 1. What may happen to the store -/

/-- A step of the store, as a command that is not executed meanwhile sees it. -/
inductive StoreAction where
  /-- The outcome of a command, executed on any state, is merged. -/
  | merge (baseline : NodeLocalState) (world : World) (drawn : Nat) (command : CommandEnvelope)
  | mutate (mutation : NodeStateMutation)
  | saveAndLoad

/-- The step, for the command `commandId`: the merged outcomes are those of other commands, and the
    store is loaded with at most `maxRetainedCommands` commands. -/
def storeStep (source : EventSource) (commandId : CommandId) (s : NodeLocalState) :
    StoreAction → Option NodeLocalState
  | .merge baseline world drawn command =>
    if command.commandId = commandId then none
    else some (s.mergeCommandStateFrom baseline
      (handleCommand source world baseline drawn command).localState)
  | .mutate mutation =>
    if mutation.isMerge then none else some (applyNodeStateMutation s mutation)
  | .saveAndLoad =>
    if s.commandStatus.keys.length ≤ maxRetainedCommands then some s.reload else none

/-- What a state keeps of a command. -/
def NodeLocalState.entry (s : NodeLocalState) (commandId : CommandId) :
    Option CommandState × Option JsonValue :=
  (s.commandStatus.lookup commandId, s.commandResultPayloads.lookup commandId)

/-- An entry with a payload has a status. -/
def Paired (entry : Option CommandState × Option JsonValue) : Prop :=
  entry.1 = none → entry.2 = none

theorem entry_mutate {s : NodeLocalState} {mutation : NodeStateMutation}
    (h : mutation.isMerge = false) (id : CommandId) :
    (applyNodeStateMutation s mutation).entry id = s.entry id := by
  cases mutation with
  | mergeCommandState baseline commandState => cases h
  | _ => rfl

/-- A merge leaves the entry of a command the copy did not touch. -/
theorem entry_merge_of_eq {s baseline candidate : NodeLocalState} {id : CommandId}
    (h : candidate.entry id = baseline.entry id) :
    (s.mergeCommandStateFrom baseline candidate).entry id = s.entry id := by
  obtain ⟨hs, hp⟩ := Prod.mk.inj h
  refine Prod.ext ?_ ?_
  · exact (Assoc.lookup_mergeChanged ..).trans (Assoc.changed_of_eq hs.symm)
  · exact (Assoc.lookup_mergeChanged ..).trans (Assoc.changed_of_eq hp.symm)

/-- With few commands a load forgets only payloads without a status. -/
theorem entry_reload {s : NodeLocalState} {id : CommandId} (hpaired : Paired (s.entry id))
    (hfew : s.commandStatus.keys.length ≤ maxRetainedCommands) :
    s.reload.entry id = s.entry id := by
  have hforgotten : s.forgottenCommands = [] := forgottenCommands_of_few hfew
  refine Prod.ext (lookup_reload_commandStatus hfew id) ?_
  show s.reload.commandResultPayloads.lookup id = s.commandResultPayloads.lookup id
  unfold NodeLocalState.reload NodeLocalState.compactForPersistence
  simp only [hforgotten, List.contains_nil, Bool.not_false, Assoc.lookup_retain, if_true]
  cases hs : s.commandStatus.lookup id with
  | none =>
    have hp : s.commandResultPayloads.lookup id = none := hpaired hs
    simp [hp]
  | some status => simp

/-- A loaded state keeps no payload without its status. -/
theorem paired_reload (s : NodeLocalState) (id : CommandId) : Paired (s.reload.entry id) := by
  intro h
  have hs : (s.commandStatus.retain fun id => !s.forgottenCommands.contains id).lookup id = none :=
    h
  show s.reload.commandResultPayloads.lookup id = none
  unfold NodeLocalState.reload NodeLocalState.compactForPersistence
  dsimp only
  rw [Assoc.lookup_retain, hs]
  rfl

/-- What another command's handling leaves of the entry on its own copy. -/
theorem entry_handleCommand {source : EventSource} {world : World} {s : NodeLocalState}
    {drawn : Nat} {command : CommandEnvelope} {id : CommandId} (hid : id ≠ command.commandId) :
    (handleCommand source world s drawn command).localState.entry id = s.entry id := by
  rcases (@handleCommand_cases source world) s drawn command with h | h
  · rw [h.1.localState]
  · obtain ⟨hs, hp⟩ := h.1.other id hid
    exact Prod.ext hs hp

/-- **One step of the store leaves the entry of the command as it is.** -/
theorem storeStep_entry {source : EventSource} {commandId : CommandId} {s t : NodeLocalState}
    {a : StoreAction} (hpaired : Paired (s.entry commandId))
    (h : storeStep source commandId s a = some t) : t.entry commandId = s.entry commandId := by
  cases a with
  | merge baseline world drawn command =>
    rw [storeStep] at h
    split at h
    · cases h
    · rename_i hid
      obtain rfl := Option.some.inj h
      exact entry_merge_of_eq (entry_handleCommand (Ne.symm hid))
  | mutate mutation =>
    rw [storeStep] at h
    split at h
    · cases h
    · rename_i hmerge
      obtain rfl := Option.some.inj h
      exact entry_mutate (by simpa using hmerge) _
  | saveAndLoad =>
    rw [storeStep] at h
    split at h
    · rename_i hfew
      obtain rfl := Option.some.inj h
      exact entry_reload hpaired hfew
    · cases h

/-- **So does a run.** -/
theorem run_entry {source : EventSource} {commandId : CommandId} {s t : NodeLocalState}
    {as : List StoreAction} (hpaired : Paired (s.entry commandId))
    (h : run (storeStep source commandId) s as = some t) :
    t.entry commandId = s.entry commandId := by
  refine run_inv (fun u => u.entry commandId = s.entry commandId) (fun u a v hu ha => ?_) rfl h
  rw [storeStep_entry (by rwa [hu]) ha, hu]

/-! ## 2. What is kept of an outcome -/

variable {source : EventSource} {world : World}

/-- Durable result payloads of the Node and of Core are the same. -/
theorem durable_eq (payload : JsonValue) :
    Core.durableCommandResultPayload payload = durableToolingResultPayload payload := rfl

/-- What is kept of the answer, or nothing, is what was sent, up to the authorization URL. -/
def Kept (commandId : CommandId) (x : Execution) : Prop :=
  Core.durableCommandResultPayload
      ((x.localState.commandResultPayloads.lookup commandId).getD .emptyObject) =
    Core.durableCommandResultPayload x.outcome.resultPayload

theorem kept_answer {s : NodeLocalState} {drawn : Nat} {command : CommandEnvelope}
    {status : CommandState} {payload : JsonValue} :
    Kept command.commandId (answer s drawn command status payload) := by
  show Core.durableCommandResultPayload
    (((s.commandResultPayloads.insert _ payload).lookup command.commandId).getD _) = _
  rw [AList.lookup_insert]
  rfl

theorem kept_answerWithEvents {s : NodeLocalState} {drawn : Nat} {command : CommandEnvelope}
    {status : CommandState} {payload : JsonValue} {live events : List EventEnvelope} :
    Kept command.commandId
      (answerWithEvents source world s drawn command status payload live events) := by
  obtain ⟨-, hp⟩ := (@enforce_commands source)
    { s.recordCommandResultPayload command status payload with
      eventOutbox := s.eventOutbox ++ events } world.limits drawn
  have hkept : (answerWithEvents source world s drawn command status payload live
      events).localState.commandResultPayloads.lookup command.commandId = some payload :=
    (congrArg (AList.lookup command.commandId) hp).trans (AList.lookup_insert _)
  rw [Kept, hkept]
  rfl

/-- A body known by its events keeps no payload and sends an empty one. -/
theorem kept_answerByEvents {s : NodeLocalState} {drawn : Nat} {command : CommandEnvelope}
    {taken live events : List EventEnvelope}
    (hnone : s.commandResultPayloads.lookup command.commandId = none) :
    Kept command.commandId
      (answerByEvents source world s drawn command taken live events) := by
  obtain ⟨-, hp⟩ := (@enforce_commands source)
    { s.applyRuntimeStateProjection events with eventOutbox := s.eventOutbox ++ events }
    world.limits drawn
  have hkept : (answerByEvents source world s drawn command taken live
      events).localState.commandResultPayloads.lookup command.commandId = none :=
    (congrArg (AList.lookup command.commandId) hp).trans hnone
  rw [Kept, hkept]
  rfl

/-- **Every body keeps what it sends.** -/
theorem commandBody_kept {s : NodeLocalState} {drawn : Nat} {command : CommandEnvelope}
    (hnone : s.commandResultPayloads.lookup command.commandId = none) :
    Kept command.commandId (commandBody source world s drawn command) := by
  have hsnapshot : ∀ payload,
      Kept command.commandId (snapshotBody source world s drawn command payload) := by
    intro payload
    unfold snapshotBody
    split
    · exact kept_answerByEvents hnone
    · exact kept_answerByEvents hnone
  have hcausal : Kept command.commandId (causalBody source world s drawn command) := by
    unfold causalBody
    dsimp only
    split
    · exact kept_answerWithEvents
    · exact kept_answerWithEvents
  have hdeduction : Kept command.commandId (deductionBody world s drawn command) := by
    unfold deductionBody
    dsimp only
    split
    · exact kept_answer
    · split
      · exact kept_answer
      · exact kept_answer
  have htooling : Kept command.commandId (toolingBody world s drawn command) := by
    unfold toolingBody Kept answer NodeLocalState.recordCommandResultPayload
    dsimp only
    rw [AList.lookup_insert, Option.getD_some, durable_eq, durable_eq,
      durableToolingResultPayload, durableToolingResultPayload, JsonValue.remove_remove]
  have hruntime : Kept command.commandId (runtimeBody source world s drawn command) := by
    unfold runtimeBody
    split
    · exact kept_answerByEvents hnone
    · rename_i runtimeId _
      obtain ⟨-, -, -, hpayloads, _⟩ := (@runtimeDrafts_keeps world) s command runtimeId
      refine kept_answerByEvents ?_
      exact (congrArg (AList.lookup command.commandId) hpayloads).trans hnone
  unfold commandBody
  split
  · exact hsnapshot _
  · exact hsnapshot _
  · exact kept_answer
  · exact kept_answer
  · exact kept_answer
  · exact hcausal
  · exact hcausal
  · exact hcausal
  · exact hdeduction
  · exact kept_answer
  · exact kept_answerWithEvents
  · exact kept_answer
  · exact htooling
  · exact hruntime

/-- A failure for want of access keeps no payload. -/
theorem accessFailure_payload {s : NodeLocalState} {drawn : Nat} {command : CommandEnvelope} :
    (providerMcpAccessFailureOutcome source s drawn command).localState.commandResultPayloads =
      s.commandResultPayloads := by
  unfold providerMcpAccessFailureOutcome
  cases command.target.runtimeSessionId with
  | none => rfl
  | some runtimeId => rfl

/-! ## 3. A later delivery -/

/-- Core stored the first answer as the command's result: it came from the command's Node, it was
    valid, and the row is terminal with it. -/
structure StoredResult (codec : Core.ResultCodec) (db : Core.Database) (nodeId : NodeId)
    (commandId : CommandId) (first : CommandDispatchOutcome) (row : Core.CommandRow) : Prop where
  stored : db.findCommand? commandId = some row
  owner : row.targetNodeId = nodeId
  terminal : Core.isTerminalCommandState first.status = true
  echo : Core.validateCommandResultEcho codec row.command first.status
    (Core.durableCommandResultPayload first.resultPayload) = .ok ()
  state : row.state = first.status
  resultPayload : row.resultPayload = some (Core.durableCommandResultPayload first.resultPayload)

/-- **A later answer agrees with the first**: the same status, the same durable payload, and Core
    takes it for a replay wherever it stored the first. -/
structure ReplayAgrees (commandId : CommandId) (first later : CommandDispatchOutcome) : Prop where
  status : later.status = first.status
  payload : Core.durableCommandResultPayload later.resultPayload =
    Core.durableCommandResultPayload first.resultPayload
  accepted : ∀ codec db nodeId row, StoredResult codec db nodeId commandId first row →
    Core.validateCommandResult codec db nodeId commandId later.status
      (Core.durableCommandResultPayload later.resultPayload) = .ok ()

/-- Core's check follows from the agreement of the two answers. -/
theorem ReplayAgrees.of_eq {commandId : CommandId} {first later : CommandDispatchOutcome}
    (hstatus : later.status = first.status)
    (hpayload : Core.durableCommandResultPayload later.resultPayload =
      Core.durableCommandResultPayload first.resultPayload) :
    ReplayAgrees commandId first later := by
  refine ⟨hstatus, hpayload, fun codec db nodeId row h => ?_⟩
  unfold Core.validateCommandResult
  rw [h.stored, hstatus, hpayload]
  simp only [h.owner, h.terminal, h.echo, h.state, h.resultPayload, ne_eq,
    not_true_eq_false, if_false, if_true, Bool.not_true, Bool.false_eq_true, or_self]

/-- `merged` is the store after the first outcome of a command was persisted: the Node, loaded from
    what it had saved, knows nothing of the command; a snapshot of its store is executed on, and
    merged after other commands and mutations. -/
structure FirstPersisted (source : EventSource) (world : World) (drawn : Nat)
    (command : CommandEnvelope) (baseline merged : NodeLocalState) : Prop where
  snapshot : ∃ (saved : NodeLocalState) (as : List StoreAction),
    saved.reload.commandStatus.lookup command.commandId = none ∧
      run (storeStep source command.commandId) saved.reload as = some baseline
  merge : ∃ (owner : NodeLocalState) (as : List StoreAction),
    run (storeStep source command.commandId) baseline as = some owner ∧
      merged = owner.mergeCommandStateFrom baseline
        (handleCommand source world baseline drawn command).localState
  persisted : (handleCommand source world baseline drawn command).outcome.stateChanged = true

variable {command : CommandEnvelope} {drawn : Nat} {baseline merged : NodeLocalState}

/-- The snapshot knows nothing of the command, and the merged store keeps the copy's entry. -/
theorem FirstPersisted.entry (h : FirstPersisted source world drawn command baseline merged) :
    baseline.entry command.commandId = (none, none) ∧
      merged.entry command.commandId =
        (handleCommand source world baseline drawn command).localState.entry command.commandId := by
  obtain ⟨saved, as, hnone, hbaseline⟩ := h.snapshot
  obtain ⟨owner, bs, howner, hmerged⟩ := h.merge
  have hsaved : saved.reload.entry command.commandId = (none, none) :=
    Prod.ext hnone (paired_reload saved _ hnone)
  have hb : baseline.entry command.commandId = (none, none) := by
    rw [run_entry (paired_reload saved _) hbaseline, hsaved]
  have ho : owner.entry command.commandId = (none, none) := by
    rw [run_entry (by rw [hb]; exact fun _ => rfl) howner, hb]
  obtain ⟨hbs, hbp⟩ := Prod.mk.inj hb
  obtain ⟨hos, hop⟩ := Prod.mk.inj ho
  refine ⟨hb, ?_⟩
  -- neither the snapshot nor the owner has an entry, so the copy's is taken
  have htaken : ∀ {β : Type} [DecidableEq β] (candidate : Option β),
      Assoc.changed none candidate none = candidate := by
    intro β _ candidate
    cases candidate with
    | none => rfl
    | some next => rfl
  rw [hmerged]
  refine Prod.ext ?_ ?_
  · refine (Assoc.lookup_mergeChanged ..).trans ?_
    rw [hbs, hos, htaken]
    rfl
  · refine (Assoc.lookup_mergeChanged ..).trans ?_
    rw [hbp, hop, htaken]
    rfl

/-- The answer of a later delivery, read off the entry that is kept. -/
theorem handleCommand_of_status {s : NodeLocalState} {status : CommandState}
    (hstatus : s.commandStatus.lookup command.commandId = some status) :
    (handleCommand source world s drawn command).outcome =
      if command.payload.matchesKind command.kind then cachedOutcome s command status
      else payloadMismatchOutcome := by
  unfold handleCommand accessFails prepareCommandDispatch
  rw [hstatus]
  cases command.payload.matchesKind command.kind with
  | true => simp
  | false => simp

/-- The turn's command on a Node that has just been enrolled. -/
def enrolledNode : NodeLocalState := { nodeId := some "n1" }

/-- The outside of a turn whose access is not issued. -/
def noAccess : World := { quietWorld with mcpAccessIssued := false }

/-- The Node after the turn failed for want of access. -/
def afterNoAccess : NodeLocalState :=
  enrolledNode.mergeCommandStateFrom enrolledNode
    (handleCommand countedSource noAccess enrolledNode 0 sendTurnCommand).localState

/-- Core with the turn's first result stored. -/
def refusedTurn : Core.Database :=
  Core.updateCommandResult
    ((Core.recordCommand Core.twoNodes sendTurnCommand).toOption.getD Core.twoNodes) "c9" .failed
    (Core.durableCommandResultPayload
      (handleCommand countedSource noAccess enrolledNode 0 sendTurnCommand).outcome.resultPayload) 3

end Uprava.Node
