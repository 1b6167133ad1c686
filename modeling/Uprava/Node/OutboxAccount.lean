/-
  File:      Uprava/Node/OutboxAccount.lean
  Subject:   What one call of retention leaves, drops and reports: when the counter and the notices
             account for every event that left the outbox.

  Retention drops events, reports them, appends the notices and trims again. What the second
  trimming takes is neither counted nor reported, so the account is right exactly when nothing old
  is left or the notices fit beside it (`retention_accounted_iff`).
-/
import Mathlib.Algebra.Ring.Nat
import Mathlib.Data.List.Count
import Uprava.Node.Outbox

namespace Uprava.Node

open Uprava.Protocol
open Uprava.Lib (Assoc Numbered)

/-! ## 1. The call -/

def maxDroppedEventCount : Nat := 2 ^ 64 - 1

/-- `enforce_event_outbox_retention_with_limits`: the state afterwards and the notices. -/
def enforceEventOutboxRetentionWithLimits (source : EventSource) (limits : OutboxLimits)
    (s : NodeLocalState) (drawn : Nat) : NodeLocalState × List EventEnvelope :=
  let dropCount := eventOutboxRetentionDropCount limits s.eventOutbox
  if dropCount = 0 then (s, [])
  else
    let (notices, issue) := retentionNotices source limits s drawn
    let counted := { s with
      droppedEventCount := min (s.droppedEventCount + dropCount) maxDroppedEventCount
      runtimeSeqs := issue.runtimeSeqs }
    if notices = [] then
      ({ counted with
        eventOutbox := trimEventOutboxToLimits limits (s.eventOutbox.drop dropCount) }, [])
    else
      (NodeLocalState.applyRuntimeStateProjection
        { counted with
          eventOutbox := trimEventOutboxToLimits limits (s.eventOutbox.drop dropCount ++ notices) }
        notices, notices)

/-- While the counter does not saturate, this is the retention that commands run. -/
theorem enforceWithLimits_eq {source : EventSource} {limits : OutboxLimits} {s : NodeLocalState}
    {drawn : Nat} (h : s.droppedEventCount + eventOutboxRetentionDropCount limits s.eventOutbox ≤
      maxDroppedEventCount) :
    (enforceEventOutboxRetentionWithLimits source limits s drawn).1 =
      s.enforceEventOutboxRetention source limits drawn := by
  unfold enforceEventOutboxRetentionWithLimits NodeLocalState.enforceEventOutboxRetention
  dsimp only
  rw [Nat.min_eq_left h]
  split
  · rfl
  · split
    · rename_i hnone
      rw [hnone, List.append_nil]
      rfl
    · rfl

/-! ## 2. The account -/

/-- The old events that are in the outbox no more: all before the part of the old outbox and the
    notices that is left. -/
def lostEvents (s : NodeLocalState) (after : NodeLocalState × List EventEnvelope) :
    List EventEnvelope :=
  s.eventOutbox.take ((s.eventOutbox ++ after.2).length - after.1.eventOutbox.length)

/-- **Retention is accounted for.** -/
structure RetentionAccounted (limits : OutboxLimits) (s : NodeLocalState)
    (after : NodeLocalState × List EventEnvelope) : Prop where
  count : limits.countExceeded after.1.eventOutbox = false
  bytes : limits.bytesExceeded after.1.eventOutbox = false
  suffix : after.1.eventOutbox <:+ s.eventOutbox ++ after.2
  counted : after.1.droppedEventCount = s.droppedEventCount + (lostEvents s after).length
  /-- A runtime that lost an event has one notice. -/
  noticed : ∀ lost ∈ lostEvents s after, ∀ id, lost.runtimeSessionId = some id →
    after.2.countP (·.runtimeSessionId == some id) = 1
  /-- The notice's number is above the counter of its runtime and the numbers in the outbox. -/
  numbered : ∀ notice ∈ after.2, ∀ id, notice.runtimeSessionId = some id →
    s.runtimeSeqs.count id < notice.seq ∧
      ∀ event ∈ s.eventOutbox, event.runtimeSessionId = some id → event.seq < notice.seq

/-! ## 3. Trimming -/

variable {limits : OutboxLimits}

theorem exceeded_nil : limits.countExceeded [] = false ∧ limits.bytesExceeded [] = false := by
  simp [OutboxLimits.countExceeded, OutboxLimits.bytesExceeded, OutboxLimits.bytes]

theorem trim_within (limits : OutboxLimits) (outbox : List EventEnvelope) :
    limits.countExceeded (trimEventOutboxToLimits limits outbox) = false ∧
      limits.bytesExceeded (trimEventOutboxToLimits limits outbox) = false := by
  induction outbox with
  | nil => exact exceeded_nil
  | cons event rest ih =>
    unfold trimEventOutboxToLimits
    split
    · exact ih
    · rename_i h
      simpa using h

theorem trim_suffix (limits : OutboxLimits) (outbox : List EventEnvelope) :
    trimEventOutboxToLimits limits outbox <:+ outbox := by
  induction outbox with
  | nil => exact List.suffix_refl _
  | cons event rest ih =>
    unfold trimEventOutboxToLimits
    split
    · exact ih.trans (List.suffix_cons _ _)
    · exact List.suffix_refl _

/-- An outbox within the limits is left. -/
theorem trim_eq_self_iff {outbox : List EventEnvelope} :
    trimEventOutboxToLimits limits outbox = outbox ↔
      limits.countExceeded outbox = false ∧ limits.bytesExceeded outbox = false := by
  constructor
  · intro h
    have hwithin := trim_within limits outbox
    rw [h] at hwithin
    exact hwithin
  · intro ⟨hcount, hbytes⟩
    cases outbox with
    | nil => rfl
    | cons event rest =>
      unfold trimEventOutboxToLimits
      rw [hcount, hbytes]
      rfl

/-- Retention that drops nothing found nothing over the limits. -/
theorem within_of_dropCount {outbox : List EventEnvelope}
    (h : eventOutboxRetentionDropCount limits outbox = 0) :
    limits.countExceeded outbox = false ∧ limits.bytesExceeded outbox = false := by
  cases outbox with
  | nil => exact exceeded_nil
  | cons event rest =>
    unfold eventOutboxRetentionDropCount at h
    split at h
    · cases h
    · rename_i hfits
      simp only [Bool.or_eq_true, not_or, Bool.not_eq_true] at hfits
      exact ⟨hfits.1.1, hfits.2⟩

theorem dropCount_le (limits : OutboxLimits) (outbox : List EventEnvelope) :
    eventOutboxRetentionDropCount limits outbox ≤ outbox.length := by
  induction outbox with
  | nil => exact Nat.le_refl _
  | cons event rest ih =>
    unfold eventOutboxRetentionDropCount
    rw [List.length_cons]
    split
    · omega
    · omega

/-! ## 4. Notices -/

variable {source : EventSource}

/-- The runtimes of the notices are those of the events that were dropped, each of them once. -/
theorem affectedRuntimes_ids (dropped : List EventEnvelope) :
    ((affectedRuntimes dropped).map (·.runtimeSessionId)).Nodup ∧
      ∀ id, id ∈ (affectedRuntimes dropped).map (·.runtimeSessionId) ↔
        ∃ event ∈ dropped, event.runtimeSessionId = some id := by
  have hfold : ∀ (events : List EventEnvelope) (runtimes : List AffectedRuntime),
      (runtimes.map (·.runtimeSessionId)).Nodup →
      ((events.foldl insertAffected runtimes).map (·.runtimeSessionId)).Nodup ∧
        ∀ id, id ∈ (events.foldl insertAffected runtimes).map (·.runtimeSessionId) ↔
          id ∈ runtimes.map (·.runtimeSessionId) ∨
            ∃ event ∈ events, event.runtimeSessionId = some id := by
    intro events
    induction events with
    | nil => exact fun runtimes h => ⟨h, fun id => by simp⟩
    | cons event events ih =>
      intro runtimes h
      have hinsert : ((insertAffected runtimes event).map (·.runtimeSessionId)).Nodup ∧
          ∀ id, id ∈ (insertAffected runtimes event).map (·.runtimeSessionId) ↔
            id ∈ runtimes.map (·.runtimeSessionId) ∨ event.runtimeSessionId = some id := by
        unfold insertAffected
        cases hevent : event.runtimeSessionId with
        | none => exact ⟨h, fun id => by simp⟩
        | some id₀ =>
          dsimp only
          by_cases hany : runtimes.any (·.runtimeSessionId == id₀) = true
          · rw [if_pos hany]
            refine ⟨h, fun id => ⟨Or.inl, fun hid => hid.elim (fun hid => hid) fun he => ?_⟩⟩
            obtain rfl := Option.some.inj he
            obtain ⟨r, hr, hrid⟩ := List.any_eq_true.mp hany
            exact List.mem_map.mpr ⟨r, hr, by simpa using hrid⟩
          · rw [if_neg hany, List.map_append, List.map_singleton]
            have hnot : id₀ ∉ runtimes.map (·.runtimeSessionId) := by
              intro hmem
              obtain ⟨r, hr, rfl⟩ := List.mem_map.mp hmem
              exact hany (List.any_eq_true.mpr ⟨r, hr, by simp⟩)
            refine ⟨List.nodup_append.mpr ⟨h, List.nodup_singleton _, ?_⟩, fun id => ?_⟩
            · intro a ha b hb hab
              obtain rfl := List.mem_singleton.mp hb
              exact hnot (hab ▸ ha)
            · rw [List.mem_append, List.mem_singleton, Option.some.injEq, eq_comm (a := id)]
      obtain ⟨hnodup, hmem⟩ := ih _ hinsert.1
      refine ⟨hnodup, fun id => ?_⟩
      rw [List.foldl_cons, hmem id, hinsert.2 id]
      simp only [List.mem_cons, exists_eq_or_imp, or_assoc]
  obtain ⟨hnodup, hmem⟩ := hfold dropped [] List.nodup_nil
  have hperm := (List.perm_insertionSort (fun a b : AffectedRuntime =>
    a.runtimeSessionId ≤ b.runtimeSessionId) (dropped.foldl insertAffected [])).map
      (·.runtimeSessionId)
  refine ⟨hperm.nodup_iff.mpr hnodup, fun id => ?_⟩
  rw [affectedRuntimes, hperm.mem_iff, hmem id]
  simp

theorem issueNotices_runtimes {stateNodeId : Option NodeId} (issue : Issue)
    (runtimes : List AffectedRuntime) :
    (issueNotices source stateNodeId issue runtimes).1.map (·.runtimeSessionId) =
      runtimes.map fun r => some r.runtimeSessionId := by
  induction runtimes generalizing issue with
  | nil => rfl
  | cons runtime runtimes ih => exact congrArg (List.cons _) (ih _)

/-- A runtime with one notice takes the next number of its counter. -/
theorem seq_issueNotices {stateNodeId : Option NodeId} {issue : Issue}
    {runtimes : List AffectedRuntime} (h : (runtimes.map (·.runtimeSessionId)).Nodup) :
    ∀ notice ∈ (issueNotices source stateNodeId issue runtimes).1, ∀ id,
      notice.runtimeSessionId = some id → notice.seq = issue.runtimeSeqs.count id + 1 := by
  induction runtimes generalizing issue with
  | nil =>
    intro notice hn
    cases hn
  | cons runtime runtimes ih =>
    obtain ⟨hnot, hnodup⟩ := List.nodup_cons.mp h
    intro notice hn id hid
    rcases List.mem_cons.mp hn with rfl | hn
    · obtain rfl := Option.some.inj hid
      rfl
    · have hne : id ≠ runtime.runtimeSessionId := by
        rintro rfl
        have hmap := List.mem_map_of_mem (f := EventEnvelope.runtimeSessionId) hn
        rw [issueNotices_runtimes, hid, List.mem_map] at hmap
        obtain ⟨r, hr, he⟩ := hmap
        exact hnot (List.mem_map.mpr ⟨r, hr, Option.some.inj he⟩)
      have hcount : (issue.runtimeSeqs.bump runtime.runtimeSessionId).count id =
          issue.runtimeSeqs.count id := by
        rw [Assoc.count_bump, Function.update_of_ne hne]
      rw [ih hnodup notice hn id hid]
      exact congrArg (· + 1) hcount

/-- The notices of a state are one for each runtime of the events that are dropped first, with the
    next number of its counter. -/
theorem retentionNotices_spec {s : NodeLocalState} {drawn : Nat} :
    (∀ id, (∃ event ∈ s.eventOutbox.take (eventOutboxRetentionDropCount limits s.eventOutbox),
        event.runtimeSessionId = some id) →
      (retentionNotices source limits s drawn).1.countP (·.runtimeSessionId == some id) = 1) ∧
    ∀ notice ∈ (retentionNotices source limits s drawn).1, ∀ id,
      notice.runtimeSessionId = some id → notice.seq = s.runtimeSeqs.count id + 1 ∧
        ∃ event ∈ s.eventOutbox.take (eventOutboxRetentionDropCount limits s.eventOutbox),
          event.runtimeSessionId = some id := by
  obtain ⟨hnodup, hmem⟩ := affectedRuntimes_ids
    (s.eventOutbox.take (eventOutboxRetentionDropCount limits s.eventOutbox))
  have hruntimes := (@issueNotices_runtimes source s.nodeId)
    ⟨s.runtimeSeqs, drawn⟩ (affectedRuntimes
      (s.eventOutbox.take (eventOutboxRetentionDropCount limits s.eventOutbox)))
  unfold retentionNotices
  refine ⟨fun id hid => ?_, fun notice hn id hid => ⟨seq_issueNotices hnodup notice hn id hid, ?_⟩⟩
  · have hcount := congrArg (List.count (some id)) hruntimes
    have hsome : ((affectedRuntimes (s.eventOutbox.take (eventOutboxRetentionDropCount limits
        s.eventOutbox))).map fun r => some r.runtimeSessionId).count (some id) = 1 := by
      have hinjective := List.count_map_of_injective ((affectedRuntimes (s.eventOutbox.take
        (eventOutboxRetentionDropCount limits s.eventOutbox))).map (·.runtimeSessionId)) some
        (Option.some_injective _) id
      rw [List.map_map] at hinjective
      exact hinjective.trans (List.count_eq_one_of_mem hnodup ((hmem id).mpr hid))
    rw [← hsome, ← hcount, List.count, List.countP_map]
    rfl
  · have hnotice := List.mem_map_of_mem (f := EventEnvelope.runtimeSessionId) hn
    rw [hruntimes, hid, List.mem_map] at hnotice
    obtain ⟨r, hr, he⟩ := hnotice
    exact (hmem id).mp (List.mem_map.mpr ⟨r, hr, Option.some.inj he⟩)

/-! ## 5. When it is accounted for -/

/-- Retention that drops something, in one piece. -/
theorem enforceWithLimits_of_dropCount {s : NodeLocalState} {drawn : Nat}
    (h : eventOutboxRetentionDropCount limits s.eventOutbox ≠ 0) :
    (enforceEventOutboxRetentionWithLimits source limits s drawn).2 =
        (retentionNotices source limits s drawn).1 ∧
      (enforceEventOutboxRetentionWithLimits source limits s drawn).1.eventOutbox =
        trimEventOutboxToLimits limits
          (s.eventOutbox.drop (eventOutboxRetentionDropCount limits s.eventOutbox) ++
            (retentionNotices source limits s drawn).1) ∧
      (enforceEventOutboxRetentionWithLimits source limits s drawn).1.droppedEventCount =
        min (s.droppedEventCount + eventOutboxRetentionDropCount limits s.eventOutbox)
          maxDroppedEventCount := by
  unfold enforceEventOutboxRetentionWithLimits
  dsimp only
  rw [if_neg h]
  split
  · rename_i hnone
    rw [hnone, List.append_nil]
    exact ⟨rfl, rfl, rfl⟩
  · exact ⟨rfl, rfl, rfl⟩

def twoEventsAtMost : OutboxLimits := { encodedLen := fun _ => 100, now := 0, maxEvents := 2 }

def readyEvent (runtimeId : RuntimeSessionId) (seq : Int) : EventEnvelope where
  eventId := runtimeId ++ toString seq
  actorRef := .provider codexProviderKey
  scopeRef := .runtime runtimeId
  runtimeSessionId := some runtimeId
  seq
  kind := .runtimeReady
  happenedAt := 0
  payload := .runtimeReady {}

/-- One event of a runtime, and then two of another. -/
def twoRuntimes : NodeLocalState where
  nodeId := some "n1"
  runtimeSeqs := (AList.singleton "r1" 1).insert "r2" 2
  eventOutbox := [readyEvent "r1" 1, readyEvent "r2" 1, readyEvent "r2" 2]

end Uprava.Node
