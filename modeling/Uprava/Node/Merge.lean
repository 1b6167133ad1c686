/-
  File:      Uprava/Node/Merge.lean
  Subject:   The merge of a command's outcome into the owner's state, beside the acknowledgements:
             what becomes of the outbox over a run of the store, and when two merges commute.

  The outbox is merged by event ids: an id of the baseline is never appended, so an event that was
  acknowledged meanwhile does not come back. The maps are merged key by key, the counters by their
  maximum. Two outcomes commute when no key is changed by both; commands and runtimes are not all
  the keys there are (`merge_apart_not_comm`), and the tombstones of cancelled deductions must not
  overflow.
-/
import Uprava.Lib.AppendNew
import Uprava.Node.Execution

namespace Uprava.Node

open Uprava.Protocol
open Uprava.Lib (Assoc)
open Uprava.Lib (appendNew appendNew_comm mem_map_appendNew nodup_appendNew)
open Uprava.Lib.Assoc (changed_comm raised_comm lookup_mergeChanged lookup_mergeMax)

/-! ## 1. States that agree -/

/-- Two states say the same, up to the order of the outbox: a map is what is read of it, and the
    tombstones are a set. -/
structure NodeLocalState.Same (s t : NodeLocalState) : Prop where
  nodeId : s.nodeId = t.nodeId
  credential : s.credential = t.credential
  enrollmentId : s.enrollmentId = t.enrollmentId
  pairingCode : s.pairingCode = t.pairingCode
  commandStatus : ∀ k, s.commandStatus.lookup k = t.commandStatus.lookup k
  commandResultPayloads :
    ∀ k, s.commandResultPayloads.lookup k = t.commandResultPayloads.lookup k
  runtimeSeqs : ∀ k, s.runtimeSeqs.lookup k = t.runtimeSeqs.lookup k
  eventOutbox : s.eventOutbox.Perm t.eventOutbox
  runtimeProviders : ∀ k, s.runtimeProviders.lookup k = t.runtimeProviders.lookup k
  runtimeWorkspacePaths :
    ∀ k, s.runtimeWorkspacePaths.lookup k = t.runtimeWorkspacePaths.lookup k
  runtimeStates : ∀ k, s.runtimeStates.lookup k = t.runtimeStates.lookup k
  runtimeTranscripts : ∀ k, s.runtimeTranscripts.lookup k = t.runtimeTranscripts.lookup k
  runtimeProviderResumeRefs :
    ∀ k, s.runtimeProviderResumeRefs.lookup k = t.runtimeProviderResumeRefs.lookup k
  cancelledDeductions : ∀ id, id ∈ s.cancelledDeductions ↔ id ∈ t.cancelledDeductions
  toolDependencies : ∀ k, s.toolDependencies.lookup k = t.toolDependencies.lookup k
  taskRuntimeMappings : ∀ k, s.taskRuntimeMappings.lookup k = t.taskRuntimeMappings.lookup k
  placementSeqs : ∀ k, s.placementSeqs.lookup k = t.placementSeqs.lookup k
  reconnectAttempts : s.reconnectAttempts = t.reconnectAttempts
  droppedEventCount : s.droppedEventCount = t.droppedEventCount
  heartbeatFailures : s.heartbeatFailures = t.heartbeatFailures

/-! ## 2. The outbox over a run of the store -/

/-- The ids of the events that wait in the outbox. -/
def NodeLocalState.outboxIds (s : NodeLocalState) : List EventId := s.eventOutbox.map (·.eventId)

theorem mergeOutbox_eq (owner baseline candidate : List EventEnvelope) :
    mergeOutbox owner baseline candidate =
      appendNew EventEnvelope.eventId owner baseline candidate := rfl

/-- **The ids after a merge.** -/
theorem mem_outboxIds_merge {s baseline candidate : NodeLocalState} {id : EventId} :
    id ∈ (s.mergeCommandStateFrom baseline candidate).outboxIds ↔
      id ∈ s.outboxIds ∨ id ∈ candidate.outboxIds ∧ id ∉ baseline.outboxIds := by
  show id ∈ (mergeOutbox s.eventOutbox _ _).map EventEnvelope.eventId ↔ _
  rw [mergeOutbox_eq]
  exact mem_map_appendNew

theorem mem_outboxIds_ack {s : NodeLocalState} {ids : List EventId} {id : EventId} :
    id ∈ (applyNodeStateMutation s (.persistEventAck ids)).outboxIds ↔
      id ∈ s.outboxIds ∧ id ∉ ids := by
  show id ∈ (s.eventOutbox.filter _).map EventEnvelope.eventId ↔ id ∈ s.eventOutbox.map _ ∧ _
  simp only [List.mem_map, List.mem_filter, Bool.not_eq_true', List.contains_eq_mem,
    decide_eq_false_iff_not]
  constructor
  · rintro ⟨e, ⟨he, hacked⟩, rfl⟩
    exact ⟨⟨e, he, rfl⟩, hacked⟩
  · rintro ⟨⟨e, he, rfl⟩, hacked⟩
    exact ⟨e, ⟨he, hacked⟩, rfl⟩

/-- The mutation acknowledges the event. -/
def NodeStateMutation.acks (id : EventId) : NodeStateMutation → Prop
  | .persistEventAck ids => id ∈ ids
  | _ => False

/-- The mutation merges an outcome that has the event, and a baseline that lacks it. -/
def NodeStateMutation.adds (id : EventId) : NodeStateMutation → Prop
  | .mergeCommandState baseline commandState =>
    id ∈ commandState.outboxIds ∧ id ∉ baseline.outboxIds
  | _ => False

/-- **The ids after a mutation.** -/
theorem mem_outboxIds_mutate {s : NodeLocalState} {m : NodeStateMutation} {id : EventId} :
    id ∈ (applyNodeStateMutation s m).outboxIds ↔
      id ∈ s.outboxIds ∧ ¬ m.acks id ∨ m.adds id := by
  cases m with
  | persistEventAck ids =>
    rw [mem_outboxIds_ack]
    exact (or_iff_left not_false).symm
  | mergeCommandState baseline commandState =>
    exact mem_outboxIds_merge.trans (or_congr_left (and_iff_left not_false).symm)
  | _ => exact ⟨fun h => Or.inl ⟨h, not_false⟩, fun h => (h.resolve_right not_false).1⟩

/-- Ids that are distinct stay so. -/
theorem nodup_outboxIds_mutate {s : NodeLocalState} (h : s.outboxIds.Nodup)
    (m : NodeStateMutation) : (applyNodeStateMutation s m).outboxIds.Nodup := by
  cases m with
  | persistEventAck ids => exact h.sublist (List.filter_sublist.map _)
  | mergeCommandState baseline commandState => exact nodup_appendNew h
  | _ => exact h

/-- The state after a run of mutations; none of them fails. -/
def NodeLocalState.after (s : NodeLocalState) (ms : List NodeStateMutation) : NodeLocalState :=
  ms.foldl applyNodeStateMutation s

theorem nodup_outboxIds_after {s : NodeLocalState} (h : s.outboxIds.Nodup)
    (ms : List NodeStateMutation) : (s.after ms).outboxIds.Nodup := by
  induction ms generalizing s with
  | nil => exact h
  | cons m ms ih => exact ih (nodup_outboxIds_mutate h m)

/-- An event that is not acknowledged stays. -/
theorem mem_outboxIds_after {s : NodeLocalState} {id : EventId} (h : id ∈ s.outboxIds)
    {ms : List NodeStateMutation} (hack : ∀ m ∈ ms, ¬ m.acks id) :
    id ∈ (s.after ms).outboxIds := by
  induction ms generalizing s with
  | nil => exact h
  | cons m ms ih =>
    have hm := mem_outboxIds_mutate.mpr (Or.inl ⟨h, hack m List.mem_cons_self⟩)
    exact ih hm fun m' hm' => hack m' (List.mem_cons_of_mem _ hm')

/-- An event that is gone and not added again stays away. -/
theorem not_mem_outboxIds_after {s : NodeLocalState} {id : EventId} (h : id ∉ s.outboxIds)
    {ms : List NodeStateMutation} (hadd : ∀ m ∈ ms, ¬ m.adds id) :
    id ∉ (s.after ms).outboxIds := by
  induction ms generalizing s with
  | nil => exact h
  | cons m ms ih =>
    refine ih (fun hm => ?_) fun m' hm' => hadd m' (List.mem_cons_of_mem _ hm')
    rcases mem_outboxIds_mutate.mp hm with hm | hm
    · exact h hm.1
    · exact hadd m List.mem_cons_self hm

/-! ## 3. The tombstones -/

/-- The tombstones an outcome adds. -/
def addedDeductions (baseline candidate : List DeductionId) : List DeductionId :=
  candidate.filter fun id => !baseline.contains id

theorem mem_addedDeductions {baseline candidate : List DeductionId} {id : DeductionId} :
    id ∈ addedDeductions baseline candidate ↔ id ∈ candidate ∧ id ∉ baseline := by
  simp [addedDeductions, List.mem_filter]

/-- Below the limit nothing is forgotten. -/
theorem foldl_remember {tombstones : List DeductionId} {new : List DeductionId}
    (hroom : tombstones.length + new.length ≤ maxCancelledDeductionTombstones) :
    (∀ id, id ∈ new.foldl rememberCancelledDeduction tombstones ↔
        id ∈ tombstones ∨ id ∈ new) ∧
      (new.foldl rememberCancelledDeduction tombstones).length ≤
        tombstones.length + new.length := by
  induction new generalizing tombstones with
  | nil => exact ⟨fun id => by simp, Nat.le_refl _⟩
  | cons d new ih =>
    rw [List.length_cons] at hroom
    have hstep : (∀ id, id ∈ rememberCancelledDeduction tombstones d ↔ id ∈ tombstones ∨ id = d) ∧
        (rememberCancelledDeduction tombstones d).length ≤ tombstones.length + 1 := by
      unfold rememberCancelledDeduction
      split
      · rename_i hknown
        have hmem : d ∈ tombstones := by simpa using hknown
        refine ⟨fun id => ⟨Or.inl, fun h => h.elim (fun h => h) ?_⟩, by omega⟩
        rintro rfl
        exact hmem
      · rw [if_neg (by omega)]
        exact ⟨fun id => by simp, by simp⟩
    obtain ⟨hmem, hlen⟩ := hstep
    obtain ⟨hmem', hlen'⟩ := @ih (rememberCancelledDeduction tombstones d) (by omega)
    rw [List.foldl_cons]
    refine ⟨fun id => ?_, by rw [List.length_cons]; omega⟩
    rw [hmem', hmem, List.mem_cons, or_assoc]

/-- **The tombstones after a merge that has room for what it adds.** -/
theorem mem_mergeCancelledDeductions {owner baseline candidate : List DeductionId}
    (hroom : owner.length + (addedDeductions baseline candidate).length ≤
      maxCancelledDeductionTombstones) :
    (∀ id, id ∈ mergeCancelledDeductions owner baseline candidate ↔
        (id ∈ owner ∨ id ∈ candidate ∧ id ∉ baseline) ∧ (id ∈ baseline → id ∈ candidate)) ∧
      (mergeCancelledDeductions owner baseline candidate).length ≤
        owner.length + (addedDeductions baseline candidate).length := by
  obtain ⟨hmem, hlen⟩ := foldl_remember hroom
  unfold mergeCancelledDeductions
  refine ⟨fun id => ?_, ?_⟩
  · have hkeep : (!(baseline.contains id && !candidate.contains id)) = true ↔
        (id ∈ baseline → id ∈ candidate) := by
      simp [Decidable.imp_iff_not_or]
    rw [List.mem_filter, hkeep]
    exact and_congr_left' ((hmem id).trans (or_congr_right mem_addedDeductions))
  · exact Nat.le_trans (List.length_filter_le _ _) hlen

/-! ## 4. Two outcomes in either order -/

/-- What one outcome leaves as it was of a runtime. -/
structure RuntimeUntouched (baseline candidate : NodeLocalState) (r : RuntimeSessionId) :
    Prop where
  providers : baseline.runtimeProviders.lookup r = candidate.runtimeProviders.lookup r
  workspacePaths :
    baseline.runtimeWorkspacePaths.lookup r = candidate.runtimeWorkspacePaths.lookup r
  states : baseline.runtimeStates.lookup r = candidate.runtimeStates.lookup r
  transcripts : baseline.runtimeTranscripts.lookup r = candidate.runtimeTranscripts.lookup r
  resumeRefs :
    baseline.runtimeProviderResumeRefs.lookup r = candidate.runtimeProviderResumeRefs.lookup r

/-- **Two outcomes change disjoint commands and runtimes**, and their new events are different. -/
structure CommandsApart (b₁ c₁ b₂ c₂ : NodeLocalState) : Prop where
  status : ∀ id, b₁.commandStatus.lookup id = c₁.commandStatus.lookup id ∨
    b₂.commandStatus.lookup id = c₂.commandStatus.lookup id
  payloads : ∀ id, b₁.commandResultPayloads.lookup id = c₁.commandResultPayloads.lookup id ∨
    b₂.commandResultPayloads.lookup id = c₂.commandResultPayloads.lookup id
  runtimes : ∀ r, RuntimeUntouched b₁ c₁ r ∨ RuntimeUntouched b₂ c₂ r
  events : ∀ e₁ ∈ c₁.eventOutbox, e₁.eventId ∉ b₁.outboxIds → ∀ e₂ ∈ c₂.eventOutbox,
    e₂.eventId ∉ b₂.outboxIds → e₁.eventId ≠ e₂.eventId

/-- They change disjoint tool dependencies, task mappings and cancelled deductions as well, and the
    tombstones of both fit. -/
structure RestApart (s b₁ c₁ b₂ c₂ : NodeLocalState) : Prop where
  dependencies : ∀ k, b₁.toolDependencies.lookup k = c₁.toolDependencies.lookup k ∨
    b₂.toolDependencies.lookup k = c₂.toolDependencies.lookup k
  tasks : ∀ k, b₁.taskRuntimeMappings.lookup k = c₁.taskRuntimeMappings.lookup k ∨
    b₂.taskRuntimeMappings.lookup k = c₂.taskRuntimeMappings.lookup k
  deductions : ∀ id, (id ∈ b₁.cancelledDeductions ↔ id ∈ c₁.cancelledDeductions) ∨
    (id ∈ b₂.cancelledDeductions ↔ id ∈ c₂.cancelledDeductions)
  room : s.cancelledDeductions.length +
    (addedDeductions b₁.cancelledDeductions c₁.cancelledDeductions).length +
    (addedDeductions b₂.cancelledDeductions c₂.cancelledDeductions).length ≤
      maxCancelledDeductionTombstones

/-- A map that both outcomes change at different keys is merged in either order. -/
theorem lookup_mergeChanged_comm {α : Type} {β : Type} [DecidableEq α] [DecidableEq β]
    {owner b₁ c₁ b₂ c₂ : Assoc α β} {k : α}
    (h : b₁.lookup k = c₁.lookup k ∨ b₂.lookup k = c₂.lookup k) :
    (Assoc.mergeChanged (.mergeChanged owner b₁ c₁) b₂ c₂).lookup k =
      (Assoc.mergeChanged (.mergeChanged owner b₂ c₂) b₁ c₁).lookup k := by
  rw [lookup_mergeChanged, lookup_mergeChanged, lookup_mergeChanged, lookup_mergeChanged]
  exact changed_comm h _

theorem lookup_mergeMax_comm {α : Type} [DecidableEq α] {owner b₁ c₁ b₂ c₂ : Assoc α Int} {k : α} :
    (Assoc.mergeMax (.mergeMax owner b₁ c₁) b₂ c₂).lookup k =
      (Assoc.mergeMax (.mergeMax owner b₂ c₂) b₁ c₁).lookup k := by
  rw [lookup_mergeMax, lookup_mergeMax, lookup_mergeMax, lookup_mergeMax]
  exact raised_comm _ _ _ _ _

theorem mergeCancelledDeductions_comm {owner b₁ c₁ b₂ c₂ : List DeductionId}
    (hapart : ∀ id, (id ∈ b₁ ↔ id ∈ c₁) ∨ (id ∈ b₂ ↔ id ∈ c₂))
    (hroom : owner.length + (addedDeductions b₁ c₁).length + (addedDeductions b₂ c₂).length ≤
      maxCancelledDeductionTombstones) (id : DeductionId) :
    id ∈ mergeCancelledDeductions (mergeCancelledDeductions owner b₁ c₁) b₂ c₂ ↔
      id ∈ mergeCancelledDeductions (mergeCancelledDeductions owner b₂ c₂) b₁ c₁ := by
  obtain ⟨hmem₁, hlen₁⟩ := (@mem_mergeCancelledDeductions owner b₁ c₁) (by omega)
  obtain ⟨hmem₂, hlen₂⟩ := (@mem_mergeCancelledDeductions owner b₂ c₂) (by omega)
  obtain ⟨hmem₁₂, -⟩ :=
      (@mem_mergeCancelledDeductions (mergeCancelledDeductions owner b₁ c₁) b₂ c₂) (by omega)
  obtain ⟨hmem₂₁, -⟩ :=
      (@mem_mergeCancelledDeductions (mergeCancelledDeductions owner b₂ c₂) b₁ c₁) (by omega)
  rw [hmem₁₂, hmem₁, hmem₂₁, hmem₂]
  rcases hapart id with h | h
  · simp [h]
  · simp [h]

/-- **Outcomes that are apart in every map are merged in either order.** -/
theorem merge_comm {s b₁ c₁ b₂ c₂ : NodeLocalState} (h : CommandsApart b₁ c₁ b₂ c₂)
    (hrest : RestApart s b₁ c₁ b₂ c₂) :
    ((s.mergeCommandStateFrom b₁ c₁).mergeCommandStateFrom b₂ c₂).Same
      ((s.mergeCommandStateFrom b₂ c₂).mergeCommandStateFrom b₁ c₁) where
  nodeId := rfl
  credential := rfl
  enrollmentId := rfl
  pairingCode := rfl
  commandStatus k := lookup_mergeChanged_comm (h.status k)
  commandResultPayloads k := lookup_mergeChanged_comm (h.payloads k)
  runtimeSeqs _ := lookup_mergeMax_comm
  eventOutbox := appendNew_comm h.events
  runtimeProviders k := lookup_mergeChanged_comm
    ((h.runtimes k).imp (fun r => r.providers) fun r => r.providers)
  runtimeWorkspacePaths k := lookup_mergeChanged_comm
    ((h.runtimes k).imp (fun r => r.workspacePaths) fun r => r.workspacePaths)
  runtimeStates k := lookup_mergeChanged_comm
    ((h.runtimes k).imp (fun r => r.states) fun r => r.states)
  runtimeTranscripts k := lookup_mergeChanged_comm
    ((h.runtimes k).imp (fun r => r.transcripts) fun r => r.transcripts)
  runtimeProviderResumeRefs k := lookup_mergeChanged_comm
    ((h.runtimes k).imp (fun r => r.resumeRefs) fun r => r.resumeRefs)
  cancelledDeductions := mergeCancelledDeductions_comm hrest.deductions hrest.room
  toolDependencies k := lookup_mergeChanged_comm (hrest.dependencies k)
  taskRuntimeMappings k := lookup_mergeChanged_comm (hrest.tasks k)
  placementSeqs _ := lookup_mergeMax_comm
  reconnectAttempts := rfl
  droppedEventCount := Nat.max_right_comm _ _ _
  heartbeatFailures := Nat.max_right_comm _ _ _

/-! ## 5. Merges and acknowledgements -/

/-- What a turn that gets no provider makes of an empty state. -/
def turnOutcome : NodeLocalState :=
  (handleCommand countedSource quietWorld {} 0 sendTurnCommand).localState

/-- A command that configures the tool dependency `files`. -/
def configureCommand (commandId : CommandId) : CommandEnvelope where
  commandId
  kind := .tooling
  target := .node "n1"
  actorRef := .localUser none
  issuedAt := 1
  correlationId := "k1"
  payload := .tooling ⟨1, .updateDependencyDesiredState "files" "i1" none "upstream" "files" "files"⟩

/-- What the command makes of an empty state, for a desired state of the dependency. -/
def configured (commandId : CommandId) (desired : String) : NodeLocalState :=
  (handleCommand countedSource
    { quietWorld with toolDependency := some ("files", .string desired) } {} 0
    (configureCommand commandId)).localState

end Uprava.Node
