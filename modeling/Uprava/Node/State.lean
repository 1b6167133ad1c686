/-
  File:      Uprava/Node/State.lean
  Subject:   The Node's durable state, the mutations its owner applies to it, and what of it
             survives a restart.

  A command runs on a copy of the state and hands the copy back with the state it was copied from;
  `mergeCommandStateFrom` applies what it changed. What the merge does to an entry is `changed`,
  to a counter the maximum, to the outbox an append of the events that are new.

  A hash map is iterated in an order of its own; here it is the order of the map's entries.
-/
import Uprava.Lib.Counter
import Uprava.Protocol.Control

namespace Uprava.Node

open Uprava.Protocol
open Uprava.Lib (Assoc)

/-! ## 1. The state -/

structure ProviderTranscriptMessage where
  role : String
  content : String
  deriving DecidableEq

structure ProviderResumeRef where
  providerSessionId : Option String
  resumeCursor : Option String
  deriving DecidableEq

structure NodeLocalState where
  nodeId : Option NodeId := none
  credential : Option String := none
  enrollmentId : Option EnrollmentId := none
  pairingCode : Option String := none
  commandStatus : Assoc CommandId CommandState := ∅
  commandResultPayloads : Assoc CommandId JsonValue := ∅
  runtimeSeqs : Assoc RuntimeSessionId Int := ∅
  eventOutbox : List EventEnvelope := []
  runtimeProviders : Assoc RuntimeSessionId String := ∅
  runtimeWorkspacePaths : Assoc RuntimeSessionId String := ∅
  runtimeStates : Assoc RuntimeSessionId RuntimeSessionState := ∅
  runtimeTranscripts : Assoc RuntimeSessionId (List ProviderTranscriptMessage) := ∅
  runtimeProviderResumeRefs : Assoc RuntimeSessionId ProviderResumeRef := ∅
  cancelledDeductions : List DeductionId := []
  toolDependencies : Assoc String JsonValue := ∅
  taskRuntimeMappings : Assoc TaskRunId JsonValue := ∅
  placementSeqs : Assoc ProjectPlacementId Int := ∅
  reconnectAttempts : Nat := 0
  droppedEventCount : Nat := 0
  heartbeatFailures : Nat := 0

def maxRetainedCommands : Nat := 1024

def maxCancelledDeductionTombstones : Nat := 1024

/-! ## 2. Saving and loading -/

def isTerminalStatus : CommandState → Bool
  | .completed | .failed | .blocked | .expired => true
  | _ => false

/-- The finished commands that are forgotten when too many are kept. -/
def NodeLocalState.forgottenCommands (s : NodeLocalState) : List CommandId :=
  if maxRetainedCommands < s.commandStatus.keys.length then
    ((s.commandStatus.entries.filter fun e => isTerminalStatus e.2).map (·.1)).take
      (s.commandStatus.keys.length - maxRetainedCommands)
  else []

/-- What is written of a state: finished commands beyond the limit go, and so do the payloads of
    commands without a status. -/
def NodeLocalState.compactForPersistence (s : NodeLocalState) : NodeLocalState :=
  let commandStatus := s.commandStatus.retain fun id => !s.forgottenCommands.contains id
  { s with
    commandStatus
    commandResultPayloads :=
      (s.commandResultPayloads.retain fun id => !s.forgottenCommands.contains id).retain
        fun id => (commandStatus.lookup id).isSome }

/-- `load` after `save`: both stores give back what was written. -/
def NodeLocalState.reload (s : NodeLocalState) : NodeLocalState := s.compactForPersistence

theorem forgottenCommands_of_few {s : NodeLocalState}
    (hfew : s.commandStatus.keys.length ≤ maxRetainedCommands) : s.forgottenCommands = [] :=
  if_neg (Nat.not_lt.mpr hfew)

/-- With few commands none is forgotten. -/
theorem lookup_reload_commandStatus {s : NodeLocalState}
    (hfew : s.commandStatus.keys.length ≤ maxRetainedCommands) (id : CommandId) :
    s.reload.commandStatus.lookup id = s.commandStatus.lookup id := by
  unfold NodeLocalState.reload NodeLocalState.compactForPersistence
  simp [forgottenCommands_of_few hfew]

/-! ## 3. Mutations of the owner -/

def rememberCancelledDeduction (tombstones : List DeductionId) (deductionId : DeductionId) :
    List DeductionId :=
  if tombstones.contains deductionId then tombstones
  else if maxCancelledDeductionTombstones ≤ tombstones.length then
    tombstones.tail ++ [deductionId]
  else tombstones ++ [deductionId]

/-- The events of the copy that neither the state it was copied from nor the owner has. -/
def mergeOutbox (owner baseline candidate : List EventEnvelope) : List EventEnvelope :=
  candidate.foldl (fun owner event =>
    if baseline.any (·.eventId == event.eventId) || owner.any (·.eventId == event.eventId) then
      owner
    else owner ++ [event]) owner

def mergeCancelledDeductions (owner baseline candidate : List DeductionId) : List DeductionId :=
  let owner := (candidate.filter fun id => !baseline.contains id).foldl
    rememberCancelledDeduction owner
  owner.filter fun id => !(baseline.contains id && !candidate.contains id)

def NodeLocalState.mergeCommandStateFrom (s baseline commandState : NodeLocalState) :
    NodeLocalState :=
  { s with
    commandStatus := .mergeChanged s.commandStatus baseline.commandStatus
      commandState.commandStatus
    commandResultPayloads := .mergeChanged s.commandResultPayloads baseline.commandResultPayloads
      commandState.commandResultPayloads
    eventOutbox := mergeOutbox s.eventOutbox baseline.eventOutbox commandState.eventOutbox
    runtimeSeqs := .mergeMax s.runtimeSeqs baseline.runtimeSeqs commandState.runtimeSeqs
    runtimeProviders := .mergeChanged s.runtimeProviders baseline.runtimeProviders
      commandState.runtimeProviders
    runtimeWorkspacePaths := .mergeChanged s.runtimeWorkspacePaths baseline.runtimeWorkspacePaths
      commandState.runtimeWorkspacePaths
    runtimeStates := .mergeChanged s.runtimeStates baseline.runtimeStates
      commandState.runtimeStates
    runtimeTranscripts := .mergeChanged s.runtimeTranscripts baseline.runtimeTranscripts
      commandState.runtimeTranscripts
    runtimeProviderResumeRefs := .mergeChanged s.runtimeProviderResumeRefs
      baseline.runtimeProviderResumeRefs commandState.runtimeProviderResumeRefs
    cancelledDeductions := mergeCancelledDeductions s.cancelledDeductions
      baseline.cancelledDeductions commandState.cancelledDeductions
    toolDependencies := .mergeChanged s.toolDependencies baseline.toolDependencies
      commandState.toolDependencies
    taskRuntimeMappings := .mergeChanged s.taskRuntimeMappings baseline.taskRuntimeMappings
      commandState.taskRuntimeMappings
    placementSeqs := .mergeMax s.placementSeqs baseline.placementSeqs commandState.placementSeqs
    droppedEventCount := max s.droppedEventCount commandState.droppedEventCount
    heartbeatFailures := max s.heartbeatFailures commandState.heartbeatFailures }

/-- The events Core accepted leave the outbox. -/
def removeAckedEvents (outbox : List EventEnvelope) (acceptedEventIds : List EventId) :
    List EventEnvelope :=
  outbox.filter fun event => !acceptedEventIds.contains event.eventId

/-- The mutations of the state store that come from the control connection, the enrollment loop
    and a task. -/
inductive NodeStateMutation where
  | persistEnrollmentAttempt (enrollmentId : EnrollmentId) (pairingCode : String)
  | clearEnrollmentAttempt
  | persistEnrollmentIdentity (nodeId : NodeId) (credential : String)
  | clearCoreRegistration
  | persistReconnectAttempt
  | persistHeartbeatFailure
  | persistEventAck (acceptedEventIds : List EventId)
  | mergeCommandState (baseline commandState : NodeLocalState)
  | upsertTaskRuntimeMapping (taskRunId : TaskRunId) (mapping : JsonValue)
  | removeTaskRuntimeMapping (taskRunId : TaskRunId)

def NodeStateMutation.isMerge : NodeStateMutation → Bool
  | .mergeCommandState .. => true
  | _ => false

def applyNodeStateMutation (s : NodeLocalState) : NodeStateMutation → NodeLocalState
  | .persistEnrollmentAttempt enrollmentId pairingCode =>
    { s with enrollmentId := some enrollmentId, pairingCode := some pairingCode }
  | .clearEnrollmentAttempt => { s with enrollmentId := none, pairingCode := none }
  | .persistEnrollmentIdentity nodeId credential =>
    { s with
      nodeId := some nodeId, credential := some credential
      enrollmentId := none, pairingCode := none }
  | .clearCoreRegistration =>
    { s with nodeId := none, credential := none, enrollmentId := none, pairingCode := none }
  | .persistReconnectAttempt => { s with reconnectAttempts := s.reconnectAttempts + 1 }
  | .persistHeartbeatFailure => { s with heartbeatFailures := s.heartbeatFailures + 1 }
  | .persistEventAck ids => { s with eventOutbox := removeAckedEvents s.eventOutbox ids }
  | .mergeCommandState baseline commandState => s.mergeCommandStateFrom baseline commandState
  | .upsertTaskRuntimeMapping id mapping =>
    { s with taskRuntimeMappings := s.taskRuntimeMappings.insert id mapping }
  | .removeTaskRuntimeMapping id =>
    { s with taskRuntimeMappings := s.taskRuntimeMappings.erase id }

/-! ## 4. What the merge does to the outbox -/

theorem mem_mergeOutbox {owner baseline candidate : List EventEnvelope} {e : EventEnvelope}
    (h : e ∈ mergeOutbox owner baseline candidate) :
    e ∈ owner ∨ (e ∈ candidate ∧ ∀ b ∈ baseline, b.eventId ≠ e.eventId) := by
  unfold mergeOutbox at h
  induction candidate generalizing owner with
  | nil => exact Or.inl h
  | cons c candidate ih =>
    rw [List.foldl_cons] at h
    rcases ih h with ho | ⟨hc, hb⟩
    · split at ho
      · exact Or.inl ho
      · rename_i hnew
        rcases List.mem_append.mp ho with ho | hec
        · exact Or.inl ho
        · obtain rfl : e = c := by simpa using hec
          refine Or.inr ⟨List.mem_cons_self, fun b hb hid => hnew ?_⟩
          have hany : baseline.any (·.eventId == e.eventId) = true :=
            List.any_eq_true.mpr ⟨b, hb, by simp [hid]⟩
          rw [hany, Bool.true_or]
    · exact Or.inr ⟨List.mem_cons_of_mem _ hc, hb⟩

end Uprava.Node
