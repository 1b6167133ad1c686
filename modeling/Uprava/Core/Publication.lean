/-
  File:      Uprava/Core/Publication.lean
  Subject:   The log of a session and the outbox its events are published from: what a query for a
             session's events returns, in what order a drain takes the outbox, and what a commit
             adds to both.

  Every commit that records an event gives it the next number of its session, in the same
  transaction that enqueues it (`Commits`); so the log of a session is in the order of its
  numbers (`Logged.ascending`). The outbox is drained in another order, that of the times the
  events happened at.
-/
import Uprava.Core.Allocator
import Uprava.Lib.Cursor

namespace Uprava.Core

open Uprava.Protocol
open Uprava.Lib (Table)
open Uprava.Lib.Table

/-! ## 1. Queries -/

/-- `session_event_cursor`. -/
def sessionEventCursor (event : EventEnvelope) : Int := event.sessionProjectionSeq.getD event.seq

/-- The event of a row, as `load_events` returns it. -/
def EventRow.loaded (r : EventRow) : EventEnvelope :=
  { r.event with sessionProjectionSeq := r.sessionProjectionSeq }

/-- `session_thread_id = ? and session_projection_seq > ?`. -/
def EventRow.isAfter (sessionId : SessionThreadId) (afterSeq : Int) (r : EventRow) : Bool :=
  r.sessionThreadId == some sessionId && r.sessionProjectionSeq.any (afterSeq < ·)

/-- The order of `session_projection_seq asc`; nulls come first. -/
def EventRow.numberedBefore (a b : EventRow) : Bool :=
  match a.sessionProjectionSeq, b.sessionProjectionSeq with
  | none, _ => true
  | some _, none => false
  | some n, some m => n ≤ m

def loadEvents (events : Table EventRow) (sessionId : SessionThreadId) (afterSeq : Int) :
    List EventEnvelope :=
  ((events.select (EventRow.isAfter sessionId afterSeq)).insertionSort
    fun a b => a.numberedBefore b = true).map EventRow.loaded

/-- `order by enqueued_at, event_id`. -/
def PublicationRow.before (a b : PublicationRow) : Bool :=
  a.enqueuedAt < b.enqueuedAt || (a.enqueuedAt == b.enqueuedAt && a.eventId ≤ b.eventId)

/-- What a drain selects: the rows that are not marked as published. -/
def pendingPublications (publications : Table PublicationRow) (published : List EventId) :
    List PublicationRow :=
  (publications.select fun p => !published.contains p.eventId).insertionSort
    fun a b => a.before b = true

/-- `event_matches_session_after_seq`, but for the cursor. -/
def inSession (sessionId : SessionThreadId) (event : EventEnvelope) : Bool :=
  event.sessionThreadId == some sessionId

/-! ## 2. The log -/

/-- **The log and the outbox as they are between commits.** Every recorded event is projected,
    carries the columns of its row, and is enqueued; nothing else is; and a session's events are
    in the order of their numbers. -/
structure Logged (db : Database) : Prop where
  projected : ∀ r ∈ db.events.rows, r.projectionState = .projected
  event : ∀ r ∈ db.events.rows, r.event.eventId = r.eventId ∧
    r.event.sessionThreadId = r.sessionThreadId ∧
    r.event.sessionProjectionSeq = r.sessionProjectionSeq
  numbered : ∀ r ∈ db.events.rows, r.sessionThreadId ≠ none → r.sessionProjectionSeq ≠ none
  ascending : db.events.rows.Pairwise fun a b => a.sessionThreadId = b.sessionThreadId →
    a.sessionThreadId ≠ none → sessionEventCursor a.event < sessionEventCursor b.event
  enqueued : ∀ r ∈ db.events.rows, ∃ p ∈ db.publications.rows, p.event = r.event
  recorded : ∀ p ∈ db.publications.rows, p.eventId = p.event.eventId ∧
    ∃ r ∈ db.events.rows, r.event = p.event

/-- What a transaction does to the log and the outbox: nothing, or one event recorded with the next
    number of its session and enqueued. -/
inductive Commits (db db' : Database) : Prop
  | nothing (events : db'.events.rows = db.events.rows)
      (publications : db'.publications.rows = db.publications.rows)
  | event (r : EventRow) (events : db'.events.rows = db.events.rows ++ [r])
      (publications : db'.publications.rows =
        db.publications.rows ++ [⟨r.eventId, r.event, r.event.happenedAt⟩])
      (projected : r.projectionState = .projected)
      (columns : r.event.eventId = r.eventId ∧ r.event.sessionThreadId = r.sessionThreadId ∧
        r.event.sessionProjectionSeq = r.sessionProjectionSeq)
      (number : ∀ s, r.sessionThreadId = some s →
        r.sessionProjectionSeq = some (nextSessionProjectionSeq db.events s))

theorem Logged.cursor {db : Database} (h : Logged db) {r : EventRow} (hr : r ∈ db.events.rows)
    {s : SessionThreadId} (hs : r.sessionThreadId = some s) :
    r.sessionProjectionSeq = some (sessionEventCursor r.event) := by
  obtain ⟨-, -, hseq⟩ := h.event r hr
  obtain ⟨n, hn⟩ := Option.ne_none_iff_exists'.mp (h.numbered r hr (by simp [hs]))
  unfold sessionEventCursor
  rw [hseq, hn]
  rfl

theorem Logged.loaded {db : Database} (h : Logged db) {r : EventRow} (hr : r ∈ db.events.rows) :
    r.loaded = r.event := by
  obtain ⟨-, -, hseq⟩ := h.event r hr
  unfold EventRow.loaded
  rw [← hseq]

/-- Events with one id are one event. -/
theorem Logged.eq_of_id {db : Database} (h : Logged db) {r r' : EventRow}
    (hr : r ∈ db.events.rows) (hr' : r' ∈ db.events.rows)
    (hid : r.event.eventId = r'.event.eventId) : r = r' := by
  refine eq_of_clash hr hr' (Or.inl ?_)
  rw [← (h.event r hr).1, ← (h.event r' hr').1, hid]

/-- **A commit keeps the log.** -/
theorem Logged.commits {db db' : Database} (h : Logged db) (hc : Commits db db') : Logged db' := by
  cases hc with
  | nothing hevents hpublications =>
    exact ⟨hevents ▸ h.projected, hevents ▸ h.event, hevents ▸ h.numbered, hevents ▸ h.ascending,
      hevents ▸ hpublications ▸ h.enqueued, hevents ▸ hpublications ▸ h.recorded⟩
  | event r hevents hpublications hprojected hcolumns hnumber =>
    have hmem : ∀ {r' : EventRow}, r' ∈ db'.events.rows → r' ∈ db.events.rows ∨ r' = r := by
      intro r' hr'
      rw [hevents] at hr'
      exact (List.mem_append.mp hr').imp_right List.mem_singleton.mp
    have hold : ∀ {r' : EventRow}, r' ∈ db.events.rows → r' ∈ db'.events.rows := fun hr' =>
      hevents ▸ List.mem_append_left _ hr'
    have hnew : r ∈ db'.events.rows := hevents ▸ List.mem_append_right _ (List.mem_singleton.mpr rfl)
    refine ⟨fun r' hr' => ?_, fun r' hr' => ?_, fun r' hr' hs => ?_, ?_, fun r' hr' => ?_,
      fun p hp => ?_⟩
    · rcases hmem hr' with hr' | rfl
      · exact h.projected r' hr'
      · exact hprojected
    · rcases hmem hr' with hr' | rfl
      · exact h.event r' hr'
      · exact hcolumns
    · rcases hmem hr' with hr' | rfl
      · exact h.numbered r' hr' hs
      · obtain ⟨s, hs⟩ := Option.ne_none_iff_exists'.mp hs
        rw [hnumber s hs]
        exact Option.some_ne_none _
    · rw [hevents]
      refine List.pairwise_append.mpr ⟨h.ascending, List.pairwise_singleton _ _, ?_⟩
      intro a ha b hb hsession hsome
      obtain rfl := List.mem_singleton.mp hb
      obtain ⟨s, hs⟩ := Option.ne_none_iff_exists'.mp hsome
      have hlt := lt_nextSessionProjectionSeq ha hs (h.cursor ha hs)
      have hb' : sessionEventCursor b.event = nextSessionProjectionSeq db.events s := by
        unfold sessionEventCursor
        rw [hcolumns.2.2, hnumber s (hsession.symm.trans hs)]
        rfl
      rw [hb']
      exact hlt
    · rw [hpublications]
      rcases hmem hr' with hr' | rfl
      · obtain ⟨p, hp, he⟩ := h.enqueued r' hr'
        exact ⟨p, List.mem_append_left _ hp, he⟩
      · exact ⟨_, List.mem_append_right _ (List.mem_singleton.mpr rfl), rfl⟩
    · rw [hpublications] at hp
      rcases List.mem_append.mp hp with hp | hp
      · obtain ⟨hid, r', hr', he⟩ := h.recorded p hp
        exact ⟨hid, r', hold hr', he⟩
      · obtain rfl := List.mem_singleton.mp hp
        exact ⟨hcolumns.1.symm, r, hnew, rfl⟩

/-! ## 3. What the transactions commit -/

theorem publications_complete {db db' : Database} {event : EventEnvelope} {messageId : MessageId}
    (h : completeEventProjection db event messageId = .ok db') :
    db'.publications = enqueueEventPublication db.publications event := by
  unfold completeEventProjection at h
  rw [recordDurableMessage_ok h]

/-- The outbox after an event was projected and completed. -/
theorem publications_projected {db db₁ db' : Database} {event : EventEnvelope} {gap : Option Int}
    {messageId : MessageId} (h : applyEventProjection db event = .ok db₁)
    (h' : completeEventProjection (markGapIfAny db₁ event gap) event messageId = .ok db') :
    db'.publications = enqueueEventPublication db.publications event := by
  obtain ⟨approvals, taskRuns, projectPlacements, -, -, -, rfl⟩ := applyEventProjection_ok h
  have hpublications := publications_complete h'
  cases gap <;> exact hpublications

/-- The outbox after a new event was accepted. -/
theorem publications_acceptNodeEvent {db db' : Database} {event : EventEnvelope}
    {messageId : MessageId} (h : acceptNodeEvent db event messageId = .ok db')
    (hnew : findEvent? db.events event.eventId = none) :
    db'.publications = enqueueEventPublication db.publications (prepareEvent db event) := by
  unfold acceptNodeEvent at h
  split at h
  · cases h
  · rw [hnew] at h
    dsimp only at h
    split at h
    · cases h
    · unfold recordAndProject at h
      obtain ⟨db₁, h₁, h₂⟩ := bind_eq_ok.mp h
      obtain ⟨db₂, h₃, h₄⟩ := bind_eq_ok.mp h₂
      obtain ⟨actors, hactors⟩ := upsertActor_eq db (prepareEvent db event).actorRef
        (prepareEvent db event).happenedAt
      rw [hactors] at h₁
      unfold insertEventRecord at h₁
      split at h₁
      · cases h₁
        have hpublications := publications_projected h₃ h₄
        exact hpublications
      · cases h₁

/-- An event that is enqueued is not enqueued again. -/
theorem enqueue_of_mem {publications : Table PublicationRow} {p : PublicationRow}
    {event : EventEnvelope} (hp : p ∈ publications.rows) (hid : p.eventId = event.eventId) :
    enqueueEventPublication publications event = publications :=
  dif_pos ⟨p, hp, hid⟩

theorem enqueue_of_new {publications : Table PublicationRow} {event : EventEnvelope}
    (h : ∀ p ∈ publications.rows, p.eventId ≠ event.eventId) :
    (enqueueEventPublication publications event).rows =
      publications.rows ++ [⟨event.eventId, event, event.happenedAt⟩] := by
  unfold enqueueEventPublication Table.insertOrIgnore
  rw [dif_neg]
  · rfl
  · rintro ⟨p, hp, hid⟩
    exact h p hp hid

/-- The row a new event is recorded as, once it is projected. -/
def EventRow.committed (event : EventEnvelope) : EventRow :=
  (EventRow.recorded event).complete event.happenedAt

/-- **The record of a new event, with its publication, is a commit.** -/
theorem commits_recorded {db db' : Database} {event : EventEnvelope} {events : Table EventRow}
    (h : Logged db) (hinsert : db.events.insert? (.recorded event) = some events)
    (hevents : db'.events = events.update
      (fun r => r.eventId == event.eventId && r.projectionState != .projected)
      (.complete event.happenedAt) ⟨fun _ _ => Iff.rfl⟩)
    (hpublications : db'.publications = enqueueEventPublication db.publications event)
    (hnumber : ∀ s, event.sessionThreadId = some s →
      event.sessionProjectionSeq = some (nextSessionProjectionSeq db.events s)) :
    Commits db db' := by
  obtain ⟨hclash, hrows⟩ := insert?_eq_some.mp hinsert
  refine .event (.committed event) ?_ ?_ rfl ⟨rfl, rfl, rfl⟩ hnumber
  · rw [hevents, rows_update, hrows, List.map_append]
    congr 1
    · -- what was there is projected, so it is not touched
      refine (List.map_congr_left fun r hr => ?_).trans (List.map_id _)
      rw [h.projected r hr]
      exact if_neg (by simp)
    · show [if _ then _ else _] = _
      rw [if_pos (by simp [EventRow.recorded])]
      rfl
  · rw [hpublications]
    refine enqueue_of_new fun p hp hid => hclash ?_
    obtain ⟨hpid, r, hr, he⟩ := h.recorded p hp
    refine ⟨r, hr, Or.inl ?_⟩
    rw [← (h.event r hr).1, he, ← hpid, hid]
    rfl

/-- **Accepting an event is a commit.** -/
theorem commits_acceptNodeEvent {db db' : Database} {event : EventEnvelope}
    {messageId : MessageId} (h : Logged db)
    (haccept : acceptNodeEvent db event messageId = .ok db') : Commits db db' := by
  obtain ⟨-, ⟨row, hrow, -, rfl⟩ | ⟨row, hrow, hpending, -⟩ | ⟨hnew, -, events, hevents, hp⟩⟩ :=
    acceptNodeEvent_ok haccept
  · have hmem := mem_of_find? hrow
    obtain ⟨p, hp, he⟩ := h.enqueued row hmem
    have hid : p.eventId = row.event.eventId := by rw [(h.recorded p hp).1, he]
    exact .nothing rfl (congrArg Table.rows (enqueue_of_mem hp hid))
  · rw [h.projected row (mem_of_find? hrow)] at hpending
    cases hpending
  · refine commits_recorded h hevents hp.events (publications_acceptNodeEvent haccept hnew) ?_
    intro s hs
    show Option.map _ event.sessionThreadId = _
    rw [show event.sessionThreadId = some s from hs]
    rfl

/-- A number read for an acknowledgement: the session's next one, or taken by now. -/
def NumberRead (events : Table EventRow) (s : SessionThreadId) (n : Int) : Prop :=
  n = nextSessionProjectionSeq events s ∨
    ∃ r ∈ events.rows, r.sessionThreadId = some s ∧ r.sessionProjectionSeq = some n

/-- **An acknowledgement that is recorded is a commit**: the index of the numbers refuses a number
    that is taken. -/
theorem commits_insertWarningAcknowledgement {db db' : Database} {a : Acknowledgement}
    {happenedAt : DateTime} {eventId : EventId} {seq n : Int} {messageId : MessageId}
    (h : Logged db) (hread : NumberRead db.events a.sessionThreadId n)
    (hinsert : insertWarningAcknowledgement db a (acknowledgedEvent a happenedAt eventId seq n)
      messageId = .ok db') : Commits db db' := by
  unfold insertWarningAcknowledgement at hinsert
  obtain ⟨db₁, h₁, h₂⟩ := bind_eq_ok.mp hinsert
  obtain ⟨actors, hactors⟩ := upsertActor_eq db
    (acknowledgedEvent a happenedAt eventId seq n).actorRef
    (acknowledgedEvent a happenedAt eventId seq n).happenedAt
  rw [hactors] at h₁
  unfold insertEventRecord at h₁
  split at h₁
  · rename_i events hevents
    cases h₁
    split at h₂
    · cases h₂
    · obtain ⟨acknowledgements, -, h₂⟩ := bind_eq_ok.mp h₂
      have hpublications := publications_complete h₂
      have hdb' := congrArg Database.events (recordDurableMessage_ok h₂)
      refine commits_recorded h hevents hdb' hpublications fun s hs => ?_
      obtain rfl : a.sessionThreadId = s := Option.some.inj hs
      rcases hread with rfl | ⟨r, hr, hsession, hseq⟩
      · rfl
      · exact absurd ⟨r, hr, Or.inr (Or.inr ⟨hsession, hseq, by simp [hsession], by simp [hseq]⟩)⟩
          (insert?_eq_some.mp hevents).1
  · cases h₁

theorem nextSessionProjectionSeq_congr {events events' : Table EventRow} {s : SessionThreadId}
    (h : events'.rows.filter (·.sessionThreadId == some s) =
      events.rows.filter (·.sessionThreadId == some s)) :
    nextSessionProjectionSeq events' s = nextSessionProjectionSeq events s := by
  unfold nextSessionProjectionSeq Table.select
  rw [h]

/-- A number that was read stays the next one until it is taken. -/
theorem NumberRead.commits {db db' : Database} {s : SessionThreadId} {n : Int}
    (h : NumberRead db.events s n) (hc : Commits db db') : NumberRead db'.events s n := by
  cases hc with
  | nothing hevents _ =>
    have hnext := nextSessionProjectionSeq_congr (s := s) (congrArg _ hevents)
    unfold NumberRead
    rw [hnext, hevents]
    exact h
  | event r hevents _ _ _ hnumber =>
    rcases h with hn | ⟨r', hr', hs, hn⟩
    · by_cases hs : r.sessionThreadId = some s
      · refine Or.inr ⟨r, ?_, hs, (hnumber s hs).trans (congrArg some hn.symm)⟩
        rw [hevents]
        exact List.mem_append_right _ (List.mem_singleton.mpr rfl)
      · refine Or.inl (hn.trans (nextSessionProjectionSeq_congr ?_).symm)
        rw [hevents, List.filter_append]
        simp [hs]
    · refine Or.inr ⟨r', ?_, hs, hn⟩
      rw [hevents]
      exact List.mem_append_left _ hr'

/-! ## 4. What a query for a session's events returns -/

/-- The events of a session above a number, as they are recorded. -/
theorem loadEvents_eq {db : Database} (h : Logged db) (s : SessionThreadId) (after : Int) :
    loadEvents db.events s after =
      (db.events.rows.map (·.event)).filter fun e =>
        inSession s e && decide (after < sessionEventCursor e) := by
  have hcursor : ∀ r ∈ db.events.rows, EventRow.isAfter s after r =
      (inSession s r.event && decide (after < sessionEventCursor r.event)) := by
    intro r hr
    unfold EventRow.isAfter inSession
    rw [(h.event r hr).2.1]
    by_cases hs : r.sessionThreadId = some s
    · rw [h.cursor hr hs]
      rfl
    · rw [beq_eq_false_iff_ne.mpr hs]
      rfl
  have hsorted : (db.events.select (EventRow.isAfter s after)).Pairwise
      fun a b => a.numberedBefore b = true := by
    refine (h.ascending.filter _).imp_of_mem fun {a b} ha hb hab => ?_
    obtain ⟨ha, hsa⟩ := List.mem_filter.mp ha
    obtain ⟨hb, hsb⟩ := List.mem_filter.mp hb
    have hsession : ∀ {r : EventRow}, EventRow.isAfter s after r = true →
        r.sessionThreadId = some s := fun hr => beq_iff_eq.mp (Bool.and_eq_true_iff.mp hr).1
    have hlt := hab ((hsession hsa).trans (hsession hsb).symm) (by simp [hsession hsa])
    unfold EventRow.numberedBefore
    rw [h.cursor ha (hsession hsa), h.cursor hb (hsession hsb)]
    exact decide_eq_true (le_of_lt hlt)
  unfold loadEvents
  rw [hsorted.insertionSort_eq, List.filter_map]
  have hfilter : db.events.select (EventRow.isAfter s after) = db.events.rows.filter
      fun r => inSession s r.event && decide (after < sessionEventCursor r.event) :=
    List.filter_congr hcursor
  rw [hfilter]
  refine List.map_congr_left fun r hr => ?_
  exact h.loaded (List.mem_filter.mp hr).1

theorem mem_loadEvents {db : Database} (h : Logged db) {s : SessionThreadId} {after : Int}
    {e : EventEnvelope} : e ∈ loadEvents db.events s after ↔
      (∃ r ∈ db.events.rows, r.event = e) ∧ e.sessionThreadId = some s ∧
        after < sessionEventCursor e := by
  rw [loadEvents_eq h, List.mem_filter, List.mem_map, Bool.and_eq_true, decide_eq_true_iff]
  exact and_congr_right fun _ => and_congr_left fun _ => beq_iff_eq

/-- **The query returns a session's events in the order of their numbers, each once.** -/
theorem loadEvents_ascending {db : Database} (h : Logged db) (s : SessionThreadId) (after : Int) :
    (loadEvents db.events s after).Pairwise fun a b =>
      sessionEventCursor a < sessionEventCursor b := by
  rw [loadEvents_eq h]
  refine List.pairwise_filter.mpr (List.pairwise_map.mpr (h.ascending.imp_of_mem ?_))
  intro a b ha hb hab hqa hqb
  have hsession : ∀ {r : EventRow}, r ∈ db.events.rows →
      (inSession s r.event && decide (after < sessionEventCursor r.event)) = true →
      r.sessionThreadId = some s := by
    intro r hr hq
    rw [← (h.event r hr).2.1]
    exact beq_iff_eq.mp (Bool.and_eq_true_iff.mp hq).1
  have hsa := hsession ha hqa
  exact hab (hsa.trans (hsession hb hqb).symm) (by simp [hsa])

theorem Commits.events_subset {db db' : Database} (hc : Commits db db') :
    db.events.rows ⊆ db'.events.rows := by
  cases hc with
  | nothing hevents _ => exact fun r hr => hevents ▸ hr
  | event r hevents _ _ _ _ => exact fun r' hr' => hevents ▸ List.mem_append_left _ hr'

theorem Commits.publications_subset {db db' : Database} (hc : Commits db db') :
    db.publications.rows ⊆ db'.publications.rows := by
  cases hc with
  | nothing _ hpublications => exact fun p hp => hpublications ▸ hp
  | event r _ hpublications _ _ _ => exact fun p hp => hpublications ▸ List.mem_append_left _ hp

/-- The event has come into the outbox. -/
def Enqueued (db db' : Database) (event : EventEnvelope) : Prop :=
  ∃ p ∈ db'.publications.rows, p.event = event ∧
    ∀ p' ∈ db.publications.rows, p'.eventId ≠ p.eventId

/-- **A commit adds to what the query returns at its end**: the new event, when it is the session's
    and above the number. -/
theorem loadEvents_commits {db db' : Database} (h : Logged db) (hc : Commits db db')
    (s : SessionThreadId) (after : Int) :
    loadEvents db'.events s after = loadEvents db.events s after ∨
      ∃ event, Enqueued db db' event ∧
        loadEvents db'.events s after = loadEvents db.events s after ++ [event] := by
  have h' := h.commits hc
  rw [loadEvents_eq h, loadEvents_eq h']
  cases hc with
  | nothing hevents _ => exact Or.inl (by rw [hevents])
  | event r hevents hpublications _ _ _ =>
    have hunique := db'.events.unique
    rw [hevents, List.map_append, List.filter_append, List.map_singleton, List.filter_singleton]
    cases inSession s r.event && decide (after < sessionEventCursor r.event) with
    | false => exact Or.inl (List.append_nil _)
    | true =>
      refine Or.inr ⟨r.event, ⟨⟨r.eventId, r.event, r.event.happenedAt⟩, ?_, rfl, ?_⟩, rfl⟩
      · rw [hpublications]
        exact List.mem_append_right _ (List.mem_singleton.mpr rfl)
      · intro p hp hid
        obtain ⟨hpid, r', hr', he⟩ := h.recorded p hp
        rw [hevents] at hunique
        refine (List.pairwise_append.mp hunique).2.2 r' hr' r (List.mem_singleton.mpr rfl) ?_
        refine Or.inl ?_
        rw [← (h.event r' hr').1, he, ← hpid]
        exact hid

end Uprava.Core
