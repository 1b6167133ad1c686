/-
  File:      Uprava/Node/SaveErrors.lean
  Subject:   The store of the Node's state when a save fails: what is in memory beside what was
             last saved.

  A mutation changes the state in memory first and saves it afterwards; when the save fails the
  caller gets the error and the memory keeps the change. So memory and disk part exactly when a
  save fails for a mutation that brought something new, and the next save that succeeds writes
  what its caller was told had failed.
-/
import Uprava.Lib.Run
import Uprava.Node.Merge

namespace Uprava.Node

open Uprava.Protocol
open Uprava.Lib (Assoc run Meets appendNew_of_known run_inv_of_meets)
open Uprava.Lib.Assoc (Stale changed_of_stale raised_of_le lookup_mergeChanged lookup_mergeMax)

/-! ## 1. The store -/

/-- How a save ends: the state was written, it was written and an error came after the commit, or
    nothing was written. -/
inductive SaveResult where
  | saved
  | savedWithError
  | failed
  deriving DecidableEq

def SaveResult.written : SaveResult → Bool
  | .saved | .savedWithError => true
  | .failed => false

/-- The state the actor holds, and the one its last successful save was given. -/
structure NodeStateStore where
  memory : NodeLocalState
  saved : NodeLocalState

/-- A store that has just loaded its state. -/
def NodeStateStore.load (s : NodeLocalState) : NodeStateStore := ⟨s, s⟩

inductive NodeStateRequest where
  | snapshot
  | isEnrolled
  | mutate (mutation : NodeStateMutation) (result : SaveResult)
  /-- The process ends and the next one loads what is saved. -/
  | restart

/-- Does the mutation save? An acknowledgement of nothing that waits does not. -/
def NodeStateMutation.saves (s : NodeLocalState) : NodeStateMutation → Bool
  | .persistEventAck ids => s.eventOutbox.any fun event => ids.contains event.eventId
  | _ => true

/-- `run_node_state_store`, one request. -/
def NodeStateStore.step (st : NodeStateStore) : NodeStateRequest → Option NodeStateStore
  | .snapshot | .isEnrolled => some st
  | .mutate mutation result =>
    let memory := applyNodeStateMutation st.memory mutation
    some ⟨memory, if mutation.saves st.memory && result.written then memory else st.saved⟩
  | .restart => some (.load st.saved.reload)

/-- **What is in memory is what was saved last.** -/
structure NodeStateStore.Atomic (st : NodeStateStore) : Prop where
  same : st.memory.Same st.saved
  outbox : st.memory.eventOutbox = st.saved.eventOutbox

/-! ## 2. Mutations that bring nothing new -/

/-- An outcome brings nothing new: what its command changed, the state has already or has moved on
    from. -/
structure NothingNew (s baseline candidate : NodeLocalState) : Prop where
  commandStatus : ∀ k, Stale (baseline.commandStatus.lookup k) (candidate.commandStatus.lookup k)
    (s.commandStatus.lookup k)
  commandResultPayloads : ∀ k, Stale (baseline.commandResultPayloads.lookup k)
    (candidate.commandResultPayloads.lookup k) (s.commandResultPayloads.lookup k)
  runtimeSeqs : ∀ k n, candidate.runtimeSeqs.lookup k = some n →
    baseline.runtimeSeqs.lookup k = some n ∨ ∃ m, s.runtimeSeqs.lookup k = some m ∧ n ≤ m
  eventOutbox : ∀ e ∈ candidate.eventOutbox, e.eventId ∈ baseline.outboxIds ∨
    e.eventId ∈ s.outboxIds
  runtimeProviders : ∀ k, Stale (baseline.runtimeProviders.lookup k)
    (candidate.runtimeProviders.lookup k) (s.runtimeProviders.lookup k)
  runtimeWorkspacePaths : ∀ k, Stale (baseline.runtimeWorkspacePaths.lookup k)
    (candidate.runtimeWorkspacePaths.lookup k) (s.runtimeWorkspacePaths.lookup k)
  runtimeStates : ∀ k, Stale (baseline.runtimeStates.lookup k) (candidate.runtimeStates.lookup k)
    (s.runtimeStates.lookup k)
  runtimeTranscripts : ∀ k, Stale (baseline.runtimeTranscripts.lookup k)
    (candidate.runtimeTranscripts.lookup k) (s.runtimeTranscripts.lookup k)
  runtimeProviderResumeRefs : ∀ k, Stale (baseline.runtimeProviderResumeRefs.lookup k)
    (candidate.runtimeProviderResumeRefs.lookup k) (s.runtimeProviderResumeRefs.lookup k)
  remembered : ∀ id ∈ candidate.cancelledDeductions, id ∉ baseline.cancelledDeductions →
    id ∈ s.cancelledDeductions
  forgotten : ∀ id ∈ s.cancelledDeductions, id ∈ baseline.cancelledDeductions →
    id ∈ candidate.cancelledDeductions
  toolDependencies : ∀ k, Stale (baseline.toolDependencies.lookup k)
    (candidate.toolDependencies.lookup k) (s.toolDependencies.lookup k)
  taskRuntimeMappings : ∀ k, Stale (baseline.taskRuntimeMappings.lookup k)
    (candidate.taskRuntimeMappings.lookup k) (s.taskRuntimeMappings.lookup k)
  placementSeqs : ∀ k n, candidate.placementSeqs.lookup k = some n →
    baseline.placementSeqs.lookup k = some n ∨ ∃ m, s.placementSeqs.lookup k = some m ∧ n ≤ m
  droppedEventCount : candidate.droppedEventCount ≤ s.droppedEventCount
  heartbeatFailures : candidate.heartbeatFailures ≤ s.heartbeatFailures

/-- The mutation asks for nothing the state does not have. -/
def NodeStateMutation.BringsNothing (s : NodeLocalState) : NodeStateMutation → Prop
  | .persistEnrollmentAttempt enrollmentId pairingCode =>
    s.enrollmentId = some enrollmentId ∧ s.pairingCode = some pairingCode
  | .clearEnrollmentAttempt => s.enrollmentId = none ∧ s.pairingCode = none
  | .persistEnrollmentIdentity nodeId credential =>
    s.nodeId = some nodeId ∧ s.credential = some credential ∧ s.enrollmentId = none ∧
      s.pairingCode = none
  | .clearCoreRegistration =>
    s.nodeId = none ∧ s.credential = none ∧ s.enrollmentId = none ∧ s.pairingCode = none
  | .persistReconnectAttempt | .persistHeartbeatFailure => False
  | .persistEventAck ids => ∀ e ∈ s.eventOutbox, e.eventId ∉ ids
  | .mergeCommandState baseline commandState => NothingNew s baseline commandState
  | .upsertTaskRuntimeMapping id mapping => s.taskRuntimeMappings.lookup id = some mapping
  | .removeTaskRuntimeMapping id => s.taskRuntimeMappings.lookup id = none

/-- A save fails for a mutation that brings nothing new only. -/
def FailsForNothing (st : NodeStateStore) : NodeStateRequest → Prop
  | .mutate mutation .failed => mutation.BringsNothing st.memory
  | _ => True

theorem NodeLocalState.Same.refl (s : NodeLocalState) : s.Same s where
  nodeId := rfl
  credential := rfl
  enrollmentId := rfl
  pairingCode := rfl
  commandStatus _ := rfl
  commandResultPayloads _ := rfl
  runtimeSeqs _ := rfl
  eventOutbox := .refl _
  runtimeProviders _ := rfl
  runtimeWorkspacePaths _ := rfl
  runtimeStates _ := rfl
  runtimeTranscripts _ := rfl
  runtimeProviderResumeRefs _ := rfl
  cancelledDeductions _ := Iff.rfl
  toolDependencies _ := rfl
  taskRuntimeMappings _ := rfl
  placementSeqs _ := rfl
  reconnectAttempts := rfl
  droppedEventCount := rfl
  heartbeatFailures := rfl

/-- Tombstones that are all known are remembered as they are. -/
theorem foldl_remember_of_known {tombstones new : List DeductionId}
    (h : ∀ id ∈ new, id ∈ tombstones) :
    new.foldl rememberCancelledDeduction tombstones = tombstones := by
  induction new with
  | nil => rfl
  | cons d new ih =>
    have hknown : rememberCancelledDeduction tombstones d = tombstones := by
      have hmem := h d List.mem_cons_self
      unfold rememberCancelledDeduction
      rw [if_pos (by simpa using hmem)]
    rw [List.foldl_cons, hknown]
    exact ih fun id hid => h id (List.mem_cons_of_mem _ hid)

theorem mergeCancelledDeductions_of_known {owner baseline candidate : List DeductionId}
    (hremembered : ∀ id ∈ candidate, id ∉ baseline → id ∈ owner)
    (hforgotten : ∀ id ∈ owner, id ∈ baseline → id ∈ candidate) :
    mergeCancelledDeductions owner baseline candidate = owner := by
  unfold mergeCancelledDeductions
  have hfold : (candidate.filter fun id => !baseline.contains id).foldl
      rememberCancelledDeduction owner = owner := by
    refine foldl_remember_of_known fun id hid => ?_
    obtain ⟨hc, hb⟩ := mem_addedDeductions.mp hid
    exact hremembered id hc hb
  rw [hfold]
  refine List.filter_eq_self.mpr fun id hid => ?_
  have hkeep := hforgotten id hid
  simpa [Decidable.imp_iff_not_or] using hkeep

/-- **A merge of nothing new changes nothing.** -/
theorem merge_of_nothingNew {s baseline candidate t : NodeLocalState}
    (h : NothingNew s baseline candidate) (hs : s.Same t) (hout : s.eventOutbox = t.eventOutbox) :
    (s.mergeCommandStateFrom baseline candidate).Same t ∧
      (s.mergeCommandStateFrom baseline candidate).eventOutbox = t.eventOutbox := by
  have houtbox : (s.mergeCommandStateFrom baseline candidate).eventOutbox = t.eventOutbox := by
    have hknown : mergeOutbox s.eventOutbox baseline.eventOutbox candidate.eventOutbox =
        s.eventOutbox := appendNew_of_known h.eventOutbox
    exact hknown.trans hout
  have hmap : ∀ {α β : Type} [DecidableEq α] [DecidableEq β] {o b c o' : Assoc α β},
      (∀ k, Stale (b.lookup k) (c.lookup k) (o.lookup k)) → (∀ k, o.lookup k = o'.lookup k) →
        ∀ k, (Assoc.mergeChanged o b c).lookup k = o'.lookup k := by
    intro α β _ _ o b c o' hstale hsame k
    rw [lookup_mergeChanged, changed_of_stale (hstale k), hsame k]
  have hcount : ∀ {o b c o' : Assoc String Int}, (∀ k n, c.lookup k = some n →
      b.lookup k = some n ∨ ∃ m, o.lookup k = some m ∧ n ≤ m) →
        (∀ k, o.lookup k = o'.lookup k) → ∀ k, (Assoc.mergeMax o b c).lookup k = o'.lookup k := by
    intro o b c o' hle hsame k
    rw [lookup_mergeMax, raised_of_le (hle k), hsame k]
  refine ⟨⟨hs.nodeId, hs.credential, hs.enrollmentId, hs.pairingCode,
    hmap h.commandStatus hs.commandStatus, hmap h.commandResultPayloads hs.commandResultPayloads,
    hcount h.runtimeSeqs hs.runtimeSeqs, .of_eq houtbox, hmap h.runtimeProviders hs.runtimeProviders,
    hmap h.runtimeWorkspacePaths hs.runtimeWorkspacePaths, hmap h.runtimeStates hs.runtimeStates,
    hmap h.runtimeTranscripts hs.runtimeTranscripts,
    hmap h.runtimeProviderResumeRefs hs.runtimeProviderResumeRefs, fun id => ?_,
    hmap h.toolDependencies hs.toolDependencies, hmap h.taskRuntimeMappings hs.taskRuntimeMappings,
    hcount h.placementSeqs hs.placementSeqs, hs.reconnectAttempts,
    (Nat.max_eq_left h.droppedEventCount).trans hs.droppedEventCount,
    (Nat.max_eq_left h.heartbeatFailures).trans hs.heartbeatFailures⟩, houtbox⟩
  show id ∈ mergeCancelledDeductions _ _ _ ↔ _
  rw [mergeCancelledDeductions_of_known h.remembered h.forgotten]
  exact hs.cancelledDeductions id

/-! ## 3. A step, and a run -/

/-- A mutation that brings nothing leaves memory and disk as they agree. -/
theorem NodeStateStore.Atomic.of_bringsNothing {st : NodeStateStore} (h : st.Atomic) {m : NodeStateMutation}
    (hm : m.BringsNothing st.memory) :
    NodeStateStore.Atomic ⟨applyNodeStateMutation st.memory m, st.saved⟩ := by
  obtain ⟨hs, hout⟩ := h
  cases m with
  | persistEnrollmentAttempt enrollmentId pairingCode =>
    exact ⟨{ hs with
      enrollmentId := hm.1.symm.trans hs.enrollmentId
      pairingCode := hm.2.symm.trans hs.pairingCode }, hout⟩
  | clearEnrollmentAttempt =>
    exact ⟨{ hs with
      enrollmentId := hm.1.symm.trans hs.enrollmentId
      pairingCode := hm.2.symm.trans hs.pairingCode }, hout⟩
  | persistEnrollmentIdentity nodeId credential =>
    obtain ⟨hnode, hcredential, henrollment, hcode⟩ := hm
    exact ⟨{ hs with
      nodeId := hnode.symm.trans hs.nodeId
      credential := hcredential.symm.trans hs.credential
      enrollmentId := henrollment.symm.trans hs.enrollmentId
      pairingCode := hcode.symm.trans hs.pairingCode }, hout⟩
  | clearCoreRegistration =>
    obtain ⟨hnode, hcredential, henrollment, hcode⟩ := hm
    exact ⟨{ hs with
      nodeId := hnode.symm.trans hs.nodeId
      credential := hcredential.symm.trans hs.credential
      enrollmentId := henrollment.symm.trans hs.enrollmentId
      pairingCode := hcode.symm.trans hs.pairingCode }, hout⟩
  | persistReconnectAttempt => exact hm.elim
  | persistHeartbeatFailure => exact hm.elim
  | persistEventAck ids =>
    have hkept : removeAckedEvents st.memory.eventOutbox ids = st.memory.eventOutbox := by
      refine List.filter_eq_self.mpr fun e he => ?_
      simpa using hm e he
    have hout' : removeAckedEvents st.memory.eventOutbox ids = st.saved.eventOutbox :=
      hkept.trans hout
    exact ⟨{ hs with eventOutbox := .of_eq hout' }, hout'⟩
  | mergeCommandState baseline commandState =>
    obtain ⟨hsame, hout'⟩ := merge_of_nothingNew hm hs hout
    exact ⟨hsame, hout'⟩
  | upsertTaskRuntimeMapping id mapping =>
    refine ⟨{ hs with taskRuntimeMappings := fun k => ?_ }, hout⟩
    show (st.memory.taskRuntimeMappings.insert id mapping).lookup k = _
    rw [Assoc.lookup_insert', ← hs.taskRuntimeMappings k]
    split
    · rename_i hk
      rw [hk]
      exact hm.symm
    · rfl
  | removeTaskRuntimeMapping id =>
    refine ⟨{ hs with taskRuntimeMappings := fun k => ?_ }, hout⟩
    show (st.memory.taskRuntimeMappings.erase id).lookup k = _
    rw [Assoc.lookup_erase', ← hs.taskRuntimeMappings k]
    split
    · rename_i hk
      rw [hk]
      exact hm.symm
    · rfl

/-- An acknowledgement that saves nothing brings nothing. -/
theorem bringsNothing_of_not_saves {s : NodeLocalState} {m : NodeStateMutation}
    (h : m.saves s = false) : m.BringsNothing s := by
  cases m with
  | persistEventAck ids =>
    intro e he hid
    have hany := List.any_eq_false.mp h e he
    exact hany (by simpa using hid)
  | _ => cases h

/-- A second acknowledgement brings nothing. -/
theorem bringsNothing_ack_again (s : NodeLocalState) (ids : List EventId) :
    (NodeStateMutation.persistEventAck ids).BringsNothing
      (applyNodeStateMutation s (.persistEventAck ids)) :=
  fun _ he hid => (mem_outboxIds_ack.mp (List.mem_map_of_mem he)).2 hid

theorem NodeStateStore.Atomic.refl (s : NodeLocalState) : (NodeStateStore.load s).Atomic := ⟨.refl s, rfl⟩

/-- **A step whose save fails for nothing new keeps memory and disk together.** -/
theorem NodeStateStore.Atomic.step {st st' : NodeStateStore} {request : NodeStateRequest} (h : st.Atomic)
    (hfails : FailsForNothing st request) (hstep : st.step request = some st') : st'.Atomic := by
  cases request with
  | snapshot =>
    obtain rfl := Option.some.inj hstep
    exact h
  | isEnrolled =>
    obtain rfl := Option.some.inj hstep
    exact h
  | restart =>
    obtain rfl := Option.some.inj hstep
    exact NodeStateStore.Atomic.refl _
  | mutate m result =>
    obtain rfl := Option.some.inj hstep
    by_cases hwritten : (m.saves st.memory && result.written) = true
    · rw [if_pos hwritten]
      exact NodeStateStore.Atomic.refl _
    · rw [if_neg hwritten]
      refine h.of_bringsNothing ?_
      cases hsaves : m.saves st.memory with
      | false => exact bringsNothing_of_not_saves hsaves
      | true =>
        cases result with
        | failed => exact hfails
        | saved => exact absurd (by rw [hsaves]; rfl) hwritten
        | savedWithError => exact absurd (by rw [hsaves]; rfl) hwritten

/-- **In every run in which saves fail for nothing new only, memory is what was saved last.** -/
theorem store_atomic {st t : NodeStateStore} {requests : List NodeStateRequest} (h : st.Atomic)
    (hfails : Meets NodeStateStore.step FailsForNothing st requests)
    (hrun : run NodeStateStore.step st requests = some t) : t.Atomic :=
  run_inv_of_meets NodeStateStore.Atomic (fun _ _ _ hI hC hst => hI.step hC hst) h hfails hrun

/-! ## 4. Commands and events of such a run -/

/-- A command that is not saved is not answered from memory. -/
theorem NodeStateStore.Atomic.notReplayed {st : NodeStateStore} (h : st.Atomic) {id : CommandId}
    (hid : st.saved.commandStatus.lookup id = none) :
    st.memory.commandStatus.lookup id = none := (h.same.commandStatus id).trans hid

/-- An event waits in memory exactly when it is saved. -/
theorem NodeStateStore.Atomic.mem_outbox {st : NodeStateStore} (h : st.Atomic)
    {e : EventEnvelope} : e ∈ st.memory.eventOutbox ↔ e ∈ st.saved.eventOutbox := by
  rw [h.outbox]

/-! ## 5. A failing save of an outcome, and of an acknowledgement -/

/-- A store that was just opened. -/
def emptyStore : NodeStateStore := .load {}

/-- The save of a command's outcome fails. The next delivery to this process is answered as
    completed; the next process knows nothing of the command. -/
theorem failedSave_replayed :
    ∃ t, run NodeStateStore.step emptyStore
        [.mutate (.mergeCommandState {} (configured "c1" "on")) .failed] = some t ∧ ¬ t.Atomic ∧
      (handleCommand countedSource quietWorld t.memory 1 (configureCommand "c1")).outcome.status =
        .completed ∧
      (handleCommand countedSource quietWorld t.memory 1
        (configureCommand "c1")).outcome.stateChanged = false ∧
      t.saved.commandStatus.lookup "c1" = none := by
  refine ⟨_, rfl, fun h => ?_, by decide, by decide, rfl⟩
  exact absurd (@NodeStateStore.Atomic.notReplayed _ h "c1" rfl) (by decide)

/-- The save of a turn's outcome succeeds, that of its acknowledgement fails: the event is gone from
    memory until the process is started again. -/
theorem failedAck_returns :
    (run NodeStateStore.step emptyStore
        [.mutate (.mergeCommandState {} turnOutcome) .saved,
          .mutate (.persistEventAck ["e0"]) .failed]).map (decide <| "e0" ∈ ·.memory.outboxIds) =
      some false ∧
    (run NodeStateStore.step emptyStore
        [.mutate (.mergeCommandState {} turnOutcome) .saved,
          .mutate (.persistEventAck ["e0"]) .failed, .restart]).map
        (decide <| "e0" ∈ ·.memory.outboxIds) = some true := by
  constructor
  · decide
  · decide

/-- A turn is saved, clearing an enrollment that is not under way is not, and a second
    acknowledgement finds nothing to save. -/
def turnSaved : List NodeStateRequest :=
  [.mutate (.mergeCommandState {} turnOutcome) .saved, .mutate .clearEnrollmentAttempt .failed,
    .mutate (.persistEventAck ["e0"]) .savedWithError, .mutate (.persistEventAck ["e0"]) .failed,
    .restart]

theorem store_atomic_turnSaved :
    ∃ t, run NodeStateStore.step emptyStore turnSaved = some t ∧ t.Atomic := by
  have hfails : Meets NodeStateStore.step FailsForNothing emptyStore turnSaved := by
    refine ⟨trivial, fun _ h => ?_⟩
    obtain rfl := Option.some.inj h
    refine ⟨⟨rfl, rfl⟩, fun _ h => ?_⟩
    obtain rfl := Option.some.inj h
    refine ⟨trivial, fun _ h => ?_⟩
    obtain rfl := Option.some.inj h
    exact ⟨bringsNothing_ack_again _ _, fun _ _ => ⟨trivial, fun _ _ => trivial⟩⟩
  exact ⟨_, rfl, store_atomic (NodeStateStore.Atomic.refl _) hfails rfl⟩

end Uprava.Node
