/-
  File:      Uprava/Core/Approvals.lean
  Subject:   Pending approvals, computed from the events of a session and kept in the table
             `approvals`.

  Both are registers, one for each approval: an event that requests or resolves the approval writes
  it, and every other event leaves it. The fold keeps a register for each session (`saysPending`);
  the table keeps one for all sessions, which holds the session of the last request
  (`saysOpenIn`). `ApprovalsFollow.accept` says what an accepted event does to both.
-/
import Uprava.Core.Order
import Uprava.Core.Publication
import Uprava.Lib.Before

namespace Uprava.Core

open Uprava.Protocol
open Uprava.Lib (Table lastWrite lastWrite_concat read_foldl Before)
open Uprava.Lib.Table

/-! ## 1. The fold over events -/

def pendingStep (pending : List ApprovalId) (event : EventEnvelope) : List ApprovalId :=
  match event.kind with
  | .approvalRequested =>
    match eventApprovalId event with
    | some approvalId => pending.filter (· != approvalId) ++ [approvalId]
    | none => pending
  | .approvalResolved =>
    match eventApprovalId event with
    | some approvalId => pending.filter (· != approvalId)
    | none => pending
  | _ => pending

/-- `pending_approvals` -/
def pendingApprovals (events : List EventEnvelope) : List ApprovalId := events.foldl pendingStep []

/-- The approval that an event requests (`true`) or resolves (`false`). -/
def approvalChange (event : EventEnvelope) : Option (ApprovalId × Bool) :=
  match event.kind with
  | .approvalRequested => (eventApprovalId event).map (·, true)
  | .approvalResolved => (eventApprovalId event).map (·, false)
  | _ => none

/-- What the event says of the approval: that it is pending, or not. -/
def saysPending (approvalId : ApprovalId) (event : EventEnvelope) : Option Bool :=
  (approvalChange event).bind fun change =>
    if change.1 = approvalId then some change.2 else none

/-- **An approval is pending when the last event that says something of it requests it.** -/
theorem mem_pendingApprovals {approvalId : ApprovalId} {events : List EventEnvelope} :
    approvalId ∈ pendingApprovals events ↔
      lastWrite false (events.map (saysPending approvalId)) = true := by
  have hstep : ∀ pending, ∀ event ∈ events, True →
      decide (approvalId ∈ pendingStep pending event) =
        (saysPending approvalId event).getD (decide (approvalId ∈ pending)) := by
    intro pending event _ _
    unfold pendingStep saysPending approvalChange
    split
    · cases eventApprovalId event with
      | none => rfl
      | some id =>
        by_cases hid : id = approvalId
        · simp [hid]
        · simp [hid, Ne.symm hid]
    · cases eventApprovalId event with
      | none => rfl
      | some id =>
        by_cases hid : id = approvalId
        · simp [hid]
        · simp [hid, Ne.symm hid]
    · rfl
  have hread := @read_foldl _ _ _ pendingStep (fun pending => decide (approvalId ∈ pending))
    (saysPending approvalId) (fun _ => True) events (fun _ _ _ _ => trivial) hstep [] trivial
  have hnone : decide (approvalId ∈ ([] : List ApprovalId)) = false := by simp
  rw [hnone] at hread
  unfold pendingApprovals
  rw [← hread, decide_eq_true_iff]

/-! ## 2. The table -/

/-- The approvals of a session whose row is in state `requested`. -/
def requestedApprovals (approvals : Table ApprovalRow) (sessionThreadId : SessionThreadId) :
    List ApprovalId :=
  (approvals.select fun r => r.sessionThreadId == sessionThreadId && r.state == .requested).map
    (·.approvalId)

def ApprovalRow.openIn (r : ApprovalRow) : Option SessionThreadId :=
  if r.state = .requested then some r.sessionThreadId else none

/-- The session in which the table has the approval open. -/
def openIn (approvals : Table ApprovalRow) (approvalId : ApprovalId) : Option SessionThreadId :=
  (approvals.find? (·.approvalId == approvalId)).bind ApprovalRow.openIn

theorem mem_requestedApprovals {approvals : Table ApprovalRow} {approvalId : ApprovalId}
    {sessionThreadId : SessionThreadId} :
    approvalId ∈ requestedApprovals approvals sessionThreadId ↔
      openIn approvals approvalId = some sessionThreadId := by
  unfold requestedApprovals openIn ApprovalRow.openIn
  rw [List.mem_map, Option.bind_eq_some_iff]
  constructor
  · intro ⟨r, hr, hid⟩
    obtain ⟨hmem, hp⟩ := List.mem_filter.mp hr
    simp only [Bool.and_eq_true, beq_iff_eq] at hp
    refine ⟨r, find?_of_mem hmem (by simpa using hid) fun a ha => ?_, by simp [hp]⟩
    exact Or.inl ((beq_iff_eq.mp ha).trans hid.symm)
  · intro ⟨r, hr, hopen⟩
    split at hopen
    · rename_i hstate
      obtain rfl := Option.some.inj hopen
      refine ⟨r, List.mem_filter.mpr ⟨mem_of_find? hr, by simp [hstate]⟩, ?_⟩
      simpa using find?_pos hr
    · cases hopen

/-- What the event makes of the session in which the approval is open. -/
def saysOpenIn (approvalId : ApprovalId) (event : EventEnvelope) :
    Option (Option SessionThreadId) :=
  event.sessionThreadId.bind fun sessionThreadId =>
    (saysPending approvalId event).map fun isPending =>
      if isPending then some sessionThreadId else none

/-- An upsert writes the row of its approval, and leaves the others. -/
theorem openIn_upsertApproval {sessionThreads : Table SessionRow}
    {approvals approvals' : Table ApprovalRow} {row : ApprovalRow}
    {onConflict : ApprovalRow → ApprovalRow}
    (h : upsertApproval sessionThreads approvals row onConflict = .ok approvals')
    (hid : ∀ r, (onConflict r).approvalId = r.approvalId)
    (hopen : ∀ r, (onConflict r).openIn = row.openIn)
    (approvalId : ApprovalId) :
    openIn approvals' approvalId =
      if row.approvalId = approvalId then row.openIn else openIn approvals approvalId := by
  unfold upsertApproval at h
  split at h
  · cases h
  · rw [dbResult_eq_ok] at h
    unfold openIn
    split at h
    · rename_i old hold
      have hrows := update?_eq_some h
      have hfind : approvals'.find? (·.approvalId == approvalId) =
          (approvals.find? (·.approvalId == approvalId)).map fun r =>
            if r.approvalId == row.approvalId then onConflict r else r := by
        refine find?_map_rows hrows fun r => ?_
        split
        · rw [hid]
        · rfl
      rw [hfind]
      by_cases hrow : row.approvalId = approvalId
      · subst hrow
        have holdId : old.approvalId = row.approvalId := by simpa using find?_pos hold
        rw [hold, if_pos rfl, Option.map_some, Option.bind_some, if_pos (by simpa using holdId),
          hopen]
      · rw [if_neg hrow, Option.bind_map]
        cases hfound : approvals.find? (·.approvalId == approvalId) with
        | none => rfl
        | some r =>
          have hr : r.approvalId = approvalId := by simpa using find?_pos hfound
          have hne : ¬ (r.approvalId == row.approvalId) = true := by simp [hr, Ne.symm hrow]
          simp only [Option.bind_some, Function.comp_apply, if_neg hne]
    · rename_i hnone
      by_cases hrow : row.approvalId = approvalId
      · subst hrow
        rw [find?_insert?_of_pos h (by simp), hnone, if_pos rfl]
        rfl
      · rw [find?_insert?_of_neg h (by simpa using hrow), if_neg hrow]

/-- **The projection of an event writes the register of its approval.** -/
theorem openIn_updateApprovalFromEvent {sessionThreads : Table SessionRow}
    {approvals approvals' : Table ApprovalRow} {event : EventEnvelope}
    (h : updateApprovalFromEvent sessionThreads approvals event = .ok approvals')
    (approvalId : ApprovalId) :
    openIn approvals' approvalId =
      (saysOpenIn approvalId event).getD (openIn approvals approvalId) := by
  unfold updateApprovalFromEvent at h
  unfold saysOpenIn saysPending approvalChange
  split at h
  · rename_i id s hkind hid hsession
    rw [openIn_upsertApproval h (fun _ => rfl) (fun _ => rfl), hkind, hid, hsession]
    by_cases hsame : id = approvalId <;>
      simp [hsame, ApprovalRow.requested, ApprovalRow.openIn]
  · rename_i id s hkind hid hsession
    rw [openIn_upsertApproval h (fun _ => rfl) (fun _ => rfl), hkind, hid, hsession]
    by_cases hsame : id = approvalId <;>
      simp [hsame, ApprovalRow.resolved, ApprovalRow.openIn]
  · rename_i hrequested hresolved
    cases h
    cases hsession : event.sessionThreadId with
    | none => rfl
    | some s =>
      cases hid : eventApprovalId event with
      | none => cases event.kind <;> rfl
      | some id =>
        cases hkind : event.kind with
        | approvalRequested => exact absurd hsession (hrequested id s hkind hid)
        | approvalResolved => exact absurd hsession (hresolved id s hkind hid)
        | _ => rfl

/-! ## 3. The log and the table -/

/-- The accepted events, in Core's order. -/
def acceptedEvents (db : Database) : List EventEnvelope := db.events.rows.map (·.event)

/-- What holds between the log and the table of approvals: the numbers of a session's events start
    at one, and each approval is open where its last event says. -/
structure ApprovalsFollow (db : Database) : Prop where
  logged : Logged db
  positive : ∀ r ∈ db.events.rows, ∀ n, r.sessionProjectionSeq = some n → 0 < n
  table : ∀ approvalId, openIn db.approvals approvalId =
    lastWrite none ((acceptedEvents db).map (saysOpenIn approvalId))

theorem nodup_acceptedEvents {db : Database} (h : Logged db) : (acceptedEvents db).Nodup := by
  refine List.pairwise_map.mpr (db.events.unique.imp_of_mem fun {a b} ha hb hclash he => ?_)
  refine hclash (Or.inl ?_)
  rw [← (h.event a ha).1, ← (h.event b hb).1, he]

/-- **A query for the events of a session returns its accepted events, in Core's order.** -/
theorem ApprovalsFollow.loadEvents {db : Database} (h : ApprovalsFollow db)
    (sessionThreadId : SessionThreadId) :
    loadEvents db.events sessionThreadId 0 =
      (acceptedEvents db).filter (inSession sessionThreadId) := by
  rw [loadEvents_eq h.logged]
  refine List.filter_congr fun e he => ?_
  obtain ⟨r, hr, rfl⟩ := List.mem_map.mp he
  by_cases hs : r.sessionThreadId = some sessionThreadId
  · have hcursor := h.logged.cursor hr hs
    rw [decide_eq_true (h.positive r hr _ hcursor), Bool.and_true]
  · have hother : inSession sessionThreadId r.event = false := by
      unfold inSession
      rw [(h.logged.event r hr).2.1]
      exact beq_eq_false_iff_ne.mpr hs
    rw [hother, Bool.false_and]

theorem nextSessionProjectionSeq_pos {events : Table EventRow}
    (h : ∀ r ∈ events.rows, ∀ n, r.sessionProjectionSeq = some n → 0 < n)
    (sessionThreadId : SessionThreadId) :
    0 < nextSessionProjectionSeq events sessionThreadId := by
  unfold nextSessionProjectionSeq
  cases hmax : ((events.select (·.sessionThreadId == some sessionThreadId)).filterMap
      (·.sessionProjectionSeq)).max? with
  | none => decide
  | some n =>
    obtain ⟨r, hr, hn⟩ := List.mem_filterMap.mp (List.max?_mem hmax)
    have hpos := h r (List.mem_filter.mp hr).1 n hn
    rw [Option.getD_some]
    omega

/-- An accepted event is added to the log as Core filled it in, and projected; or it was accepted
    before. -/
theorem accepted_cases {db db' : Database} {event : EventEnvelope} {messageId : MessageId}
    (hlogged : Logged db) (h : acceptNodeEvent db event messageId = .ok db') :
    (db'.events = db.events ∧ db'.approvals = db.approvals) ∨
      (db'.events.rows = db.events.rows ++ [.committed (prepareEvent db event)] ∧
        updateApprovalFromEvent db.sessionThreads db.approvals (prepareEvent db event) =
          .ok db'.approvals) := by
  obtain ⟨-, ⟨row, -, -, rfl⟩ | ⟨row, hrow, hpending, -⟩ | ⟨-, -, events, hevents, hp⟩⟩ :=
    acceptNodeEvent_ok h
  · exact Or.inl ⟨rfl, rfl⟩
  · rw [hlogged.projected row (mem_of_find? hrow)] at hpending
    cases hpending
  · refine Or.inr ⟨?_, hp.approvals⟩
    rw [hp.events, rows_update, (insert?_eq_some.mp hevents).2, List.map_append]
    congr 1
    · refine (List.map_congr_left fun r hr => ?_).trans (List.map_id _)
      rw [hlogged.projected r hr]
      exact if_neg (by simp)
    · rw [List.map_singleton, if_pos (by simp [EventRow.recorded])]
      rfl

/-- **An accepted event keeps the log and the table together.** -/
theorem ApprovalsFollow.accept {db db' : Database} {event : EventEnvelope} {messageId : MessageId}
    (h : ApprovalsFollow db) (haccept : acceptNodeEvent db event messageId = .ok db') :
    ApprovalsFollow db' := by
  have hlogged := h.logged.commits (commits_acceptNodeEvent h.logged haccept)
  rcases accepted_cases h.logged haccept with ⟨hevents, happrovals⟩ | ⟨hrows, happrovals⟩
  · refine ⟨hlogged, by rw [hevents]; exact h.positive, fun id => ?_⟩
    unfold acceptedEvents
    rw [hevents, happrovals]
    exact h.table id
  · have hlog : acceptedEvents db' = acceptedEvents db ++ [prepareEvent db event] := by
      unfold acceptedEvents
      rw [hrows, List.map_append]
      rfl
    refine ⟨hlogged, fun r hr n hn => ?_, fun id => ?_⟩
    · rw [hrows] at hr
      rcases List.mem_append.mp hr with hr | hr
      · exact h.positive r hr n hn
      · obtain rfl := List.mem_singleton.mp hr
        obtain ⟨s, -, rfl⟩ := Option.map_eq_some_iff.mp (show event.sessionThreadId.map
          (nextSessionProjectionSeq db.events) = some n from hn)
        exact nextSessionProjectionSeq_pos h.positive s
    · rw [openIn_updateApprovalFromEvent happrovals id, h.table id, hlog, List.map_append,
        List.map_singleton, lastWrite_concat]

/-- Nothing has been accepted yet. -/
structure NothingAccepted (db : Database) : Prop where
  events : db.events.rows = []
  publications : db.publications.rows = []
  approvals : db.approvals.rows = []

theorem NothingAccepted.follow {db : Database} (h : NothingAccepted db) : ApprovalsFollow db := by
  have hnone : ∀ r, r ∉ db.events.rows := fun r hr => by simp [h.events] at hr
  refine ⟨⟨fun r hr => absurd hr (hnone r), fun r hr => absurd hr (hnone r),
    fun r hr => absurd hr (hnone r), by rw [h.events]; exact .nil, fun r hr => absurd hr (hnone r),
    fun p hp => by simp [h.publications] at hp⟩, fun r hr => absurd hr (hnone r), fun id => ?_⟩
  unfold openIn acceptedEvents Table.find?
  rw [h.approvals, h.events]
  rfl

/-- **After any accepted deliveries, the log and the table follow the events.** -/
theorem ApprovalsFollow.acceptAll {db db' : Database}
    {deliveries : List (EventEnvelope × MessageId)} (h : ApprovalsFollow db)
    (haccept : acceptAll db deliveries = .ok db') :
    ApprovalsFollow db' := by
  induction deliveries generalizing db with
  | nil =>
    cases haccept
    exact h
  | cons d deliveries ih =>
    obtain ⟨db₁, h₁, h₂⟩ := bind_eq_ok.mp haccept
    exact ih (h.accept h₁) h₂

end Uprava.Core
