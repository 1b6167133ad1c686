/-
  File:      Uprava/Core/Acceptance.lean
  Subject:   When Core accepts an event it has not seen: which statements of the acceptance can
             fail, and on what.

  A fresh event (its id and its number in its scope are unused) that passed the owner check can
  fail on two unique indexes only: the one approval of a turn and the one workspace path of a
  Node's placement. `acceptNodeEvent_fresh_iff` states it; the rest of the file reads the first of
  the two indexes row by row.
-/
import Uprava.Core.EventOwner
import Uprava.Core.Ingest

namespace Uprava.Core

open Uprava.Protocol
open Uprava.Lib (Table)
open Uprava.Lib.Table

/-! ## 1. Numbers above the maximum -/

theorem le_getD_max? {l : List Int} {n : Int} (h : n ∈ l) : n ≤ l.max?.getD 0 := by
  cases hm : l.max? with
  | none => simp [List.max?_eq_none_iff.mp hm] at h
  | some m => exact (List.max?_eq_some_iff.mp hm).2 n h

/-- Every number of a scope is below its next one. -/
theorem lt_nextSeq {events : Table EventRow} {r : EventRow} (hr : r ∈ events.rows) :
    r.seq < nextSeq events r.scopeKey := by
  have hmem : r.seq ∈ (events.select (·.scopeKey == r.scopeKey)).map (·.seq) :=
    List.mem_map_of_mem (List.mem_filter.mpr ⟨hr, by simp⟩)
  have hle := le_getD_max? hmem
  unfold nextSeq maxSeq
  omega

theorem lt_nextSessionProjectionSeq {events : Table EventRow} {r : EventRow}
    {s : SessionThreadId} {n : Int} (hr : r ∈ events.rows) (hs : r.sessionThreadId = some s)
    (hn : r.sessionProjectionSeq = some n) : n < nextSessionProjectionSeq events s := by
  have hmem : n ∈ (events.select (·.sessionThreadId == some s)).filterMap
      (·.sessionProjectionSeq) :=
    List.mem_filterMap.mpr ⟨r, List.mem_filter.mpr ⟨hr, by simp [hs]⟩, hn⟩
  have hle := le_getD_max? hmem
  unfold nextSessionProjectionSeq
  omega

/-! ## 2. Fresh events -/

/-- No recorded event has the event's id, or its number in its scope. -/
structure Fresh (db : Database) (event : EventEnvelope) : Prop where
  id : findEvent? db.events event.eventId = none
  seq : seqHolder? db.events (scopeKey event.scopeRef) event.seq = none

/-- The record of a fresh event meets every index of the events. -/
theorem Fresh.insert? {db : Database} {event : EventEnvelope} (h : Fresh db event) :
    ∃ events, db.events.insert? (.recorded (prepareEvent db event)) = some events := by
  refine Option.isSome_iff_exists.mp (isSome_insert?.mpr ?_)
  rintro ⟨a, ha, hid | ⟨hkey, hseq⟩ | ⟨hsession, hproj, hsome, -⟩⟩
  · have hfind := List.find?_eq_none.mp h.id a ha
    exact hfind (beq_iff_eq.mpr hid)
  · have hfind := List.find?_eq_none.mp h.seq a ha
    exact hfind (by simp [hkey, hseq, EventRow.recorded, prepareEvent])
  · -- the session's next projection number is larger than the row's
    obtain ⟨s, hs⟩ := Option.ne_none_iff_exists'.mp hsome
    have hs' : event.sessionThreadId = some s := hsession.symm.trans hs
    have hn : a.sessionProjectionSeq = some (nextSessionProjectionSeq db.events s) := by
      rw [hproj]
      simp [EventRow.recorded, prepareEvent, hs']
    exact absurd (lt_nextSessionProjectionSeq ha hs hn) (lt_irrefl _)

theorem sessionExists_sessionsAfter (t : Table SessionRow) (event : EventEnvelope)
    (gap : Option Int) (id : SessionThreadId) :
    sessionExists (sessionsAfter t event gap) id = sessionExists t id := by
  have hfind := find?_map_rows (q := (·.sessionThreadId == id)) (sessionsAfter_rows t event gap)
    fun r => by rw [(SessionRow.after_id event gap r).1]
  unfold sessionExists
  rw [hfind, Option.isSome_map]

/-- The statements of the projection that a constraint can stop. -/
structure ProjectionFits (db : Database) (event : EventEnvelope) : Prop where
  approvals : ∃ t, updateApprovalFromEvent db.sessionThreads db.approvals event = .ok t
  taskRuns : ∃ t, projectTaskEvent db.taskRuns event = .ok t
  placements : ∃ t, projectPlacement db.projectPlacements event = .ok t

theorem applyEventProjection_eq_ok {db : Database} {event : EventEnvelope}
    (h : ProjectionFits db event) : ∃ db', applyEventProjection db event = .ok db' := by
  obtain ⟨approvals, ha⟩ := h.approvals
  obtain ⟨taskRuns, ht⟩ := h.taskRuns
  obtain ⟨projectPlacements, hp⟩ := h.placements
  exact ⟨_, bind_eq_ok.mpr ⟨approvals, ha, bind_eq_ok.mpr ⟨taskRuns, ht,
    bind_eq_ok.mpr ⟨projectPlacements, hp, rfl⟩⟩⟩⟩

/-- A message whose session exists is recorded, or was before. -/
theorem recordDurableMessage_eq_ok {db : Database} {event : EventEnvelope} {messageId : MessageId}
    (h : durableMessage event ≠ none → ∀ s, event.sessionThreadId = some s →
      sessionExists db.sessionThreads s = true) :
    ∃ db', recordDurableMessage db event messageId = .ok db' := by
  unfold recordDurableMessage
  cases hrow : messageRow event messageId with
  | none => exact ⟨_, rfl⟩
  | some row =>
    have hsession : sessionExists db.sessionThreads row.sessionThreadId = true := by
      unfold messageRow at hrow
      split at hrow
      · rename_i s hmessage hs
        cases hrow
        exact h (by simp [hmessage]) _ hs
      · cases hrow
    show ∃ db', insertMessage db row = .ok db'
    unfold insertMessage
    rw [hsession]
    split
    · exact ⟨_, rfl⟩
    · exact ⟨_, rfl⟩

/-- **A fresh event whose session exists, if it becomes a message, is accepted exactly when its
    payload has its kind and no statement of its projection is stopped by a constraint.** -/
theorem acceptNodeEvent_fresh_iff {db : Database} {event : EventEnvelope} {messageId : MessageId}
    (hfresh : Fresh db event)
    (hsession : durableMessage event ≠ none → ∀ s, event.sessionThreadId = some s →
      sessionExists db.sessionThreads s = true) :
    (∃ db', acceptNodeEvent db event messageId = .ok db') ↔
      event.payload.matchesKind event.kind = true ∧ ProjectionFits db event := by
  constructor
  · rintro ⟨db', haccept⟩
    obtain ⟨hmatch, ⟨row, hrow, -⟩ | ⟨row, hrow, -⟩ | ⟨-, -, events, -, hp⟩⟩ :=
      acceptNodeEvent_ok haccept
    · rw [hfresh.id] at hrow
      cases hrow
    · rw [hfresh.id] at hrow
      cases hrow
    · exact ⟨hmatch, ⟨⟨_, hp.approvals⟩, ⟨_, hp.taskRuns⟩, ⟨_, hp.projectPlacements⟩⟩⟩
  · rintro ⟨hmatch, hfits⟩
    obtain ⟨actors, hactors⟩ := upsertActor_eq db (prepareEvent db event).actorRef
      (prepareEvent db event).happenedAt
    obtain ⟨events, hevents⟩ := hfresh.insert?
    have hinsert : insertEventRecord (upsertActor db (prepareEvent db event).actorRef
        (prepareEvent db event).happenedAt) (prepareEvent db event) =
          .ok { db with actors, events } := by
      rw [hactors]
      unfold insertEventRecord
      rw [hevents]
    have hfits' : ProjectionFits { db with actors, events } (prepareEvent db event) :=
      ⟨hfits.approvals, hfits.taskRuns, hfits.placements⟩
    obtain ⟨db₁, hproject⟩ := applyEventProjection_eq_ok hfits'
    have hsessions : (markGapIfAny db₁ (prepareEvent db event)
        (streamGap db.events event)).sessionThreads =
          sessionsAfter db.sessionThreads (prepareEvent db event) (streamGap db.events event) := by
      obtain ⟨approvals, taskRuns, projectPlacements, -, -, -, rfl⟩ :=
        applyEventProjection_ok hproject
      cases streamGap db.events event <;> rfl
    have hcomplete : ∃ db₂, completeEventProjection (markGapIfAny db₁ (prepareEvent db event)
        (streamGap db.events event)) (prepareEvent db event) messageId = .ok db₂ := by
      refine recordDurableMessage_eq_ok fun hmessage s hs => ?_
      show sessionExists (markGapIfAny db₁ _ _).sessionThreads s = true
      rw [hsessions, sessionExists_sessionsAfter]
      exact hsession hmessage s hs
    obtain ⟨db₂, hcomplete⟩ := hcomplete
    refine ⟨db₂, ?_⟩
    unfold acceptNodeEvent
    rw [hmatch, hfresh.id, hfresh.seq]
    show recordAndProject db event messageId = .ok db₂
    exact bind_eq_ok.mpr ⟨_, hinsert, bind_eq_ok.mpr ⟨db₁, hproject, hcomplete⟩⟩

/-! ## 3. The approvals, row by row -/

/-- **An approval is written exactly when no other approval has its turn.** -/
theorem upsertApproval_fits_iff {sessionThreads : Table SessionRow} {t : Table ApprovalRow}
    {row : ApprovalRow} {f : ApprovalRow → ApprovalRow}
    (hsession : sessionExists sessionThreads row.sessionThreadId = true)
    (hf : ∀ r, (f r).approvalId = r.approvalId ∧ (f r).turnId = row.turnId) :
    (∃ t', upsertApproval sessionThreads t row f = .ok t') ↔
      ∀ a ∈ t.rows, a.approvalId ≠ row.approvalId → a.turnId = row.turnId → row.turnId = none := by
  unfold upsertApproval
  rw [hsession]
  simp only [Bool.not_true, Bool.false_eq_true, if_false, dbResult_eq_ok]
  cases hfind : t.find? (·.approvalId == row.approvalId) with
  | some stored =>
    have hstored : stored.approvalId = row.approvalId := by simpa using find?_pos hfind
    have hmem : stored ∈ t.rows := mem_of_find? hfind
    have hone : ∀ r ∈ t.rows, (r.approvalId == row.approvalId) = true ↔ r = stored := by
      intro r hr
      rw [beq_iff_eq]
      constructor
      · exact fun hid => eq_of_clash hr hmem (Or.inl (hid.trans hstored.symm))
      · rintro rfl
        exact hstored
    have hupdate := isSome_update?_iff (f := f) (fun a => Or.inl rfl) hmem hone
    rw [← Option.isSome_iff_exists, hupdate]
    refine forall₂_congr fun a ha => ?_
    have hne : a ≠ stored ↔ a.approvalId ≠ row.approvalId := by
      rw [Ne, Ne, ← hone a ha, beq_iff_eq]
    rw [hne]
    refine forall_congr' fun hid => ?_
    show ¬ (a.approvalId = (f stored).approvalId ∨ (a.turnId = (f stored).turnId ∧ a.turnId ≠ none))
      ↔ _
    rw [(hf stored).1, (hf stored).2, hstored]
    constructor
    · intro h hturn
      by_contra hnone
      exact h (Or.inr ⟨hturn, hturn ▸ hnone⟩)
    · rintro h (hid' | ⟨hturn, hnone⟩)
      · exact hid hid'
      · exact hnone (hturn.trans (h hturn))
  | none =>
    have hid : ∀ a ∈ t.rows, a.approvalId ≠ row.approvalId := fun a ha => by
      simpa using List.find?_eq_none.mp hfind a ha
    rw [← Option.isSome_iff_exists, isSome_insert?]
    constructor
    · intro h a ha _ hturn
      by_contra hnone
      exact h ⟨a, ha, Or.inr ⟨hturn, hturn ▸ hnone⟩⟩
    · rintro h ⟨a, ha, hclash | ⟨hturn, hnone⟩⟩
      · exact hid a ha hclash
      · exact hnone (hturn.trans (h a ha (hid a ha) hturn))

/-- An approval that keeps its turn, or has none, is always written. -/
theorem upsertApproval_fits_of_keeps {sessionThreads : Table SessionRow} {t : Table ApprovalRow}
    {row : ApprovalRow} {f : ApprovalRow → ApprovalRow}
    (hsession : sessionExists sessionThreads row.sessionThreadId = true)
    (hf : ∀ r, (f r).approvalId = r.approvalId ∧ (f r).turnId = r.turnId)
    (hrow : row.turnId = none) :
    ∃ t', upsertApproval sessionThreads t row f = .ok t' := by
  unfold upsertApproval
  rw [hsession]
  simp only [Bool.not_true, Bool.false_eq_true, if_false, dbResult_eq_ok]
  cases hfind : t.find? (·.approvalId == row.approvalId) with
  | some stored =>
    have hkeeps : KeepsKeys f := ⟨fun a b => by
      show ((f a).approvalId = b.approvalId ∨ ((f a).turnId = b.turnId ∧ (f a).turnId ≠ none)) ↔ _
      rw [(hf a).1, (hf a).2]
      exact Iff.rfl⟩
    refine ⟨t.update (·.approvalId == row.approvalId) f hkeeps, ?_⟩
    unfold update?
    exact dif_pos (t.update (·.approvalId == row.approvalId) f hkeeps).unique
  | none =>
    have hid : ∀ a ∈ t.rows, a.approvalId ≠ row.approvalId := fun a ha => by
      simpa using List.find?_eq_none.mp hfind a ha
    rw [← Option.isSome_iff_exists, isSome_insert?]
    rintro ⟨a, ha, hclash | ⟨hturn, hnone⟩⟩
    · exact hid a ha hclash
    · exact hnone (hturn.trans hrow)

end Uprava.Core
