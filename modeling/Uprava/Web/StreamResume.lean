/-
  File:      Uprava/Web/StreamResume.lean
  Subject:   The stream of a session's events over the connections of one `EventSource`.

  Each reconnect repeats the url of the first connection, and Core prefers its `after_seq` to the
  `Last-Event-ID` that the browser adds; `stream_continues_iff` says which runs show it. The events
  of one connection are what the query returns above the last one, in its order; a connection that
  ends because it lags behind is one that is lost.
-/
import Mathlib.Data.List.Infix
import Uprava.Web.LiveSession

namespace Uprava.Web.LiveSession

open Uprava.Protocol Uprava.Core
open Uprava.Lib (run run_inv feed run_awaits_iff)

/-! ## 1. One event source -/

/-- The number that a request for the stream starts after. -/
def streamResumeAfterSeq (afterSeq lastEventId : Option Int) : Int :=
  (afterSeq.or (lastEventId.filter (0 ≤ ·))).getD 0

/-- Core, a client with the detail it has loaded, and the stream between them. -/
structure Streaming where
  db : Database
  detail : SessionDetail
  /-- In the url of each connection. -/
  afterSeq : Int
  lastEventId : Option Int := none
  /-- `last_seq` of the connection that is open. -/
  lastSeq : Int
  /-- What `applySessionStreamEventToCache` was called with, and how often it found a gap. -/
  handed : List EventEnvelope := []
  gaps : Nat := 0

/-- `openSessionStream`, after the last event of the detail. -/
def Streaming.opened (db : Database) (detail : SessionDetail) : Streaming where
  db := db
  detail := detail
  afterSeq := currentSeq detail
  lastSeq := streamResumeAfterSeq (some (currentSeq detail)) none

inductive StreamAction where
  | accept (event : EventEnvelope) (messageId : MessageId)
  | deliver
  | reconnect
  deriving DecidableEq

def Streaming.step (sessionId : SessionThreadId) (s : Streaming) : StreamAction → Option Streaming
  | .accept event messageId =>
    match acceptNodeEvent s.db event messageId with
    | .ok db => some { s with db }
    | .error _ => some s
  | .deliver =>
    match loadEvents s.db.events sessionId s.lastSeq with
    | [] => none
    | event :: _ =>
      let s := { s with
        lastEventId := some (sessionEventCursor event)
        lastSeq := sessionEventCursor event
        handed := s.handed ++ [event] }
      match applySessionEvent s.detail event with
      | .applied detail => some { s with detail }
      | .gap .. => some { s with gaps := s.gaps + 1 }
  | .reconnect => some { s with lastSeq := streamResumeAfterSeq (some s.afterSeq) s.lastEventId }

/-! ## 2. Numbers without holes -/

/-- The numbers of the events are 1, 2, … -/
def Numbered (events : List EventEnvelope) : Prop :=
  ∀ (i : Nat) (e), events[i]? = some e → sessionEventCursor e = i + 1

theorem Numbered.of_prefix {events events' : List EventEnvelope} (h : Numbered events')
    (hinit : events <+: events') : Numbered events := by
  obtain ⟨rest, rfl⟩ := hinit
  intro i e he
  refine h i e ?_
  rw [List.getElem?_append_left (List.getElem?_eq_some_iff.mp he).1]
  exact he

theorem numbered_concat {events : List EventEnvelope} {event : EventEnvelope} :
    Numbered (events ++ [event]) ↔
      Numbered events ∧ sessionEventCursor event = events.length + 1 := by
  constructor
  · intro h
    exact ⟨h.of_prefix (List.prefix_append _ _), h _ _ List.getElem?_concat_length⟩
  · rintro ⟨h, hevent⟩ i e he
    rcases Nat.lt_trichotomy i events.length with hi | rfl | hi
    · rw [List.getElem?_append_left hi] at he
      exact h i e he
    · rw [List.getElem?_concat_length] at he
      cases he
      exact hevent
    · rw [List.getElem?_eq_none (by simp; omega)] at he
      cases he

theorem Numbered.foldl_max {events : List EventEnvelope} (h : Numbered events) :
    events.foldl (fun m e => max m (sessionEventCursor e)) 0 = events.length := by
  induction events using List.reverseRecOn with
  | nil => rfl
  | append_singleton events event ih =>
    obtain ⟨h, hevent⟩ := numbered_concat.mp h
    rw [List.foldl_append, ih h, List.foldl_cons, List.foldl_nil, hevent, List.length_append,
      List.length_singleton]
    omega

/-- What is above a number is what is left after as many events. -/
theorem Numbered.filter_eq_drop {events : List EventEnvelope} (h : Numbered events) (n : Nat) :
    events.filter (fun e => decide ((n : Int) < sessionEventCursor e)) = events.drop n := by
  induction events using List.reverseRecOn with
  | nil => simp
  | append_singleton events event ih =>
    obtain ⟨h, hevent⟩ := numbered_concat.mp h
    rw [List.filter_append, ih h, List.drop_append]
    congr 1
    by_cases hn : n ≤ events.length
    · rw [Nat.sub_eq_zero_of_le hn, List.drop_zero]
      exact List.filter_cons_of_pos (by simp; omega)
    · rw [List.drop_of_length_le (by simp; omega)]
      exact List.filter_cons_of_neg (by simp; omega)

/-! ## 3. What a connection delivers -/

/-- The events of the session, the numbers of which have no hole. -/
structure Stored (sessionId : SessionThreadId) (db : Database) : Prop where
  follow : ApprovalsFollow db
  numbered : Numbered (loadEvents db.events sessionId 0)

theorem Stored.loadEvents {sessionId : SessionThreadId} {db : Database} (h : Stored sessionId db)
    (n : Nat) : loadEvents db.events sessionId n = (loadEvents db.events sessionId 0).drop n := by
  rw [← h.numbered.filter_eq_drop, h.follow.loadEvents, loadEvents_eq h.follow.logged,
    List.filter_filter]
  exact List.filter_congr fun e _ => Bool.and_comm _ _

/-- An accepted event takes the next number, or is of another session, or was there. -/
theorem Stored.accept {sessionId : SessionThreadId} {db db' : Database} {event : EventEnvelope}
    {messageId : MessageId} (h : Stored sessionId db)
    (haccept : acceptNodeEvent db event messageId = .ok db') :
    Stored sessionId db' ∧
      Core.loadEvents db.events sessionId 0 <+: Core.loadEvents db'.events sessionId 0 := by
  have hfollow := h.follow.accept haccept
  rcases accepted_cases h.follow.logged haccept with ⟨hevents, -⟩ | ⟨hrows, -⟩
  · rw [hevents]
    exact ⟨⟨hfollow, hevents ▸ h.numbered⟩, List.prefix_rfl⟩
  have hload : Core.loadEvents db'.events sessionId 0 = Core.loadEvents db.events sessionId 0 ++
      [prepareEvent db event].filter (inSession sessionId) := by
    rw [hfollow.loadEvents, h.follow.loadEvents, acceptedEvents, hrows, List.map_append,
      List.filter_append]
    rfl
  refine ⟨⟨hfollow, ?_⟩, hload ▸ List.prefix_append _ _⟩
  rw [hload]
  by_cases hin : inSession sessionId (prepareEvent db event) = true
  · have hs : event.sessionThreadId = some sessionId := beq_iff_eq.mp hin
    rw [List.filter_cons_of_pos hin, List.filter_nil, numbered_concat]
    refine ⟨h.numbered, ?_⟩
    have hnext := nextSessionProjectionSeq_eq h.follow sessionId
    rw [h.numbered.foldl_max] at hnext
    rw [← hnext, sessionEventCursor, prepareEvent, hs]
    rfl
  · rw [List.filter_cons_of_neg hin, List.filter_nil, List.append_nil]
    exact h.numbered

theorem stored_of_nothing {sessionId : SessionThreadId} {db : Database} (h : NothingAccepted db) :
    Stored sessionId db := by
  refine ⟨h.follow, ?_⟩
  rw [h.follow.loadEvents, acceptedEvents, h.events]
  intro i e he
  cases he

/-! ## 4. The client of the stream -/

/-- The client has the events up to some number, those above the url's from the stream; and the
    connection goes on from there, or starts again after the url's number. -/
structure Following (sessionId : SessionThreadId) (s : Streaming) : Prop where
  stored : Stored sessionId s.db
  shown : s.gaps = 0 → s.detail.events <+: loadEvents s.db.events sessionId 0 ∧
    ∃ n : Nat, s.afterSeq = n ∧ n ≤ s.detail.events.length ∧
      s.handed = s.detail.events.drop n ∧ (s.lastSeq = s.detail.events.length ∨ s.lastSeq = n)

/-- What is still to happen before the client finds a gap. -/
def awaits (s : Streaming) : List StreamAction :=
  if s.gaps ≠ 0 then []
  else if s.lastSeq ≠ s.detail.events.length then [.deliver]
  else if s.afterSeq ≠ s.detail.events.length then [.reconnect, .deliver]
  else [.deliver, .reconnect, .deliver]

section Steps

variable {sessionId : SessionThreadId} {s t : Streaming}

/-- What a connection delivers next has the next number. -/
theorem Following.delivered (h : Following sessionId s) {event : EventEnvelope}
    {rest : List EventEnvelope} {k : Nat} (hk : s.lastSeq = k)
    (hload : loadEvents s.db.events sessionId s.lastSeq = event :: rest) :
    (loadEvents s.db.events sessionId 0).drop k = event :: rest ∧
      sessionEventCursor event = k + 1 := by
  rw [hk, h.stored.loadEvents] at hload
  refine ⟨hload, h.stored.numbered k event ?_⟩
  have hhead : ((loadEvents s.db.events sessionId 0).drop k)[0]? =
      (loadEvents s.db.events sessionId 0)[k]? := List.getElem?_drop ..
  rw [hload] at hhead
  exact hhead.symm

theorem Following.accept (h : Following sessionId s) {event : EventEnvelope}
    {messageId : MessageId} (hstep : s.step sessionId (.accept event messageId) = some t) :
    Following sessionId t ∧ awaits t = feed (awaits s) (.accept event messageId) := by
  have hfeed : feed (awaits s) (.accept event messageId) = awaits s := by
    unfold awaits
    split_ifs <;> rfl
  rw [hfeed]
  unfold Streaming.step at hstep
  dsimp only at hstep
  split at hstep
  · rename_i db haccept
    cases hstep
    obtain ⟨hstored, hinit⟩ := h.stored.accept haccept
    refine ⟨⟨hstored, fun hgaps => ?_⟩, rfl⟩
    obtain ⟨hshown, hrest⟩ := h.shown hgaps
    exact ⟨hshown.trans hinit, hrest⟩
  · cases hstep
    exact ⟨h, rfl⟩

theorem Following.reconnect (h : Following sessionId s)
    (hstep : s.step sessionId .reconnect = some t) :
    Following sessionId t ∧ awaits t = feed (awaits s) .reconnect := by
  obtain rfl := Option.some.inj hstep
  refine ⟨⟨h.stored, fun hgaps => ?_⟩, ?_⟩
  · obtain ⟨hshown, n, hn, hle, hhanded, -⟩ := h.shown hgaps
    exact ⟨hshown, n, hn, hle, hhanded, Or.inr hn⟩
  · by_cases hgaps : s.gaps = 0
    · obtain ⟨-, n, hn, -, -, hlast | hlast⟩ := h.shown hgaps <;>
        by_cases hlen : (n : Int) = s.detail.events.length <;>
        simp [awaits, feed, hgaps, hn, hlast, hlen, streamResumeAfterSeq]
    · simp [awaits, feed, hgaps]

theorem Following.deliver (h : Following sessionId s)
    (hstep : s.step sessionId .deliver = some t) :
    Following sessionId t ∧ awaits t = feed (awaits s) .deliver := by
  unfold Streaming.step at hstep
  dsimp only at hstep
  split at hstep
  · cases hstep
  rename_i event rest hload
  by_cases hgaps : s.gaps = 0
  · obtain ⟨hshown, n, hn, hle, hhanded, hlast⟩ := h.shown hgaps
    have hcurrent : currentSeq s.detail = s.detail.events.length :=
      (h.stored.numbered.of_prefix hshown).foldl_max
    by_cases hlen : s.lastSeq = s.detail.events.length
    · -- the connection is where the client is
      obtain ⟨hdrop, hcursor⟩ := h.delivered hlen hload
      have happly : applySessionEvent s.detail event =
          .applied (applyContiguousEvent s.detail event) :=
        if_neg (not_not.mpr (by rw [hcursor, hcurrent]))
      rw [happly] at hstep
      obtain rfl := Option.some.inj hstep
      refine ⟨⟨h.stored, fun _ => ⟨?_, n, hn, ?_, ?_, Or.inl ?_⟩⟩, ?_⟩
      · obtain ⟨q, hq⟩ := hshown
        rw [← hq, List.drop_left] at hdrop
        exact ⟨rest, by rw [← hq, hdrop]; exact List.append_assoc ..⟩
      · exact hle.trans (List.length_append ▸ Nat.le_add_right _ _)
      · show s.handed ++ [event] = (s.detail.events ++ [event]).drop n
        rw [List.drop_append_of_le_length hle, hhanded]
      · simpa [applyContiguousEvent] using hcursor
      · have hne : s.afterSeq ≠ (s.detail.events.length : Int) + 1 := by omega
        by_cases hafter : s.afterSeq = s.detail.events.length
        · rw [hafter] at hne
          simp [awaits, feed, applyContiguousEvent, hgaps, hlen, hcursor, hafter, hne]
        · simp [awaits, feed, applyContiguousEvent, hgaps, hlen, hcursor, hafter, hne]
    · -- the connection repeats what the client has
      have hlast : s.lastSeq = n := hlast.resolve_left hlen
      obtain ⟨hdrop, hcursor⟩ := h.delivered hlast hload
      have happly : applySessionEvent s.detail event =
          .gap (currentSeq s.detail + 1) (sessionEventCursor event) := by
        refine if_pos ?_
        omega
      rw [happly] at hstep
      obtain rfl := Option.some.inj hstep
      exact ⟨⟨h.stored, fun h0 => absurd h0 (Nat.succ_ne_zero _)⟩,
        by simp [awaits, feed, hgaps, hlen]⟩
  · have ht : t.gaps ≠ 0 ∧ t.db = s.db := by
      split at hstep <;> cases hstep
      · exact ⟨hgaps, rfl⟩
      · exact ⟨Nat.succ_ne_zero _, rfl⟩
    refine ⟨⟨ht.2 ▸ h.stored, fun h0 => absurd h0 ht.1⟩, ?_⟩
    simp [awaits, feed, hgaps, ht.1]

theorem Following.step {a : StreamAction} (h : Following sessionId s)
    (hstep : s.step sessionId a = some t) :
    Following sessionId t ∧ awaits t = feed (awaits s) a := by
  cases a with
  | accept event messageId => exact h.accept hstep
  | deliver => exact h.deliver hstep
  | reconnect => exact h.reconnect hstep

end Steps

/-- **Stream resumption.** The client is handed the events above the url's number, in order and
    each once, and applies them all, exactly as long as nothing was delivered after a reconnect
    that came after a delivery. -/
theorem stream_continues_iff {sessionId : SessionThreadId} {db : Database}
    {detail : SessionDetail} {t : Streaming} {actions : List StreamAction}
    (hstored : Stored sessionId db) (hdetail : loadSessionDetail db sessionId = some detail)
    (hrun : run (Streaming.step sessionId) (.opened db detail) actions = some t) :
    t.gaps = 0 ∧ t.handed <+: loadEvents t.db.events sessionId t.afterSeq ↔
      ¬ [.deliver, .reconnect, .deliver].Sublist actions := by
  have hevents : detail.events = loadEvents db.events sessionId 0 := by
    obtain ⟨session, runtime, placement, -, -, -, rfl, rfl⟩ := loadSessionDetail_eq_some hdetail
    rfl
  have hcurrent : currentSeq detail = detail.events.length :=
    (hevents ▸ hstored.numbered : Numbered detail.events).foldl_max
  have hbegin : Following sessionId (.opened db detail) := by
    refine ⟨hstored, fun _ => ⟨hevents ▸ List.prefix_rfl, detail.events.length, hcurrent, le_rfl,
      ?_, Or.inl hcurrent⟩⟩
    exact (List.drop_length).symm
  have hbegins : awaits (.opened db detail) = [.deliver, .reconnect, .deliver] := by
    simp [awaits, Streaming.opened, streamResumeAfterSeq, hcurrent]
  have hstep := fun s a t (hs : Following sessionId s) h => @Following.step sessionId s t a hs h
  have hfollowing := run_inv (Following sessionId) (fun s a t hs h => (hstep s a t hs h).1) hbegin
    hrun
  rw [← hbegins, ← run_awaits_iff awaits (Following sessionId) hstep hbegin hrun]
  have hawaits : awaits t = [] ↔ t.gaps ≠ 0 := by
    unfold awaits
    split_ifs <;> simp [*]
  rw [hawaits, not_not]
  refine and_iff_left_of_imp fun hgaps => ?_
  obtain ⟨hshown, n, hn, -, hhanded, -⟩ := hfollowing.shown hgaps
  rw [hhanded, hn, hfollowing.stored.loadEvents]
  exact List.IsPrefix.drop hshown n

/-- The first event is delivered, and again after a reconnect. -/
def repeatedEvent : List StreamAction :=
  overtakingEvents.map (fun a => .accept a.1 a.2) ++ [.deliver, .reconnect, .deliver]

theorem stream_repeats_event :
    ∃ t, run (Streaming.step "s1") (.opened twoNodes firstClient.detail) repeatedEvent = some t ∧
      (t.gaps = 0 ∧ t.handed <+: loadEvents t.db.events "s1" t.afterSeq ↔
        ¬ [.deliver, .reconnect, .deliver].Sublist repeatedEvent) :=
  ⟨_, rfl, @stream_continues_iff "s1" twoNodes firstClient.detail _ repeatedEvent
    (stored_of_nothing ⟨rfl, rfl, rfl⟩) rfl rfl⟩

end Uprava.Web.LiveSession
