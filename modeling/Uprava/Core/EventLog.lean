/-
  File:      Uprava/Core/EventLog.lean
  Subject:   The event log page by page: the filtered events from the newest on, and the cursor that
             names the last event of a page by its time and its id.

  The order is that of two columns, the time as a text and the id, both descending; the id is the
  primary key, so no two events are alike (`key_injective`). The cursor's text is split at its last
  bar: an event is found again whose id is not empty and has none (`parse_eventLogCursor`,
  `readable_of_parse`), and the page after it begins where the one before it ended
  (`eventLog_standsAt`).
-/
import Mathlib.Data.List.Nodup
import Mathlib.Data.Prod.Lex
import Mathlib.Data.String.Basic
import Mathlib.Order.Defs.LinearOrder
import Uprava.Lib.Paging
import Uprava.Core.Database
import Uprava.Protocol.Payloads

namespace Uprava.Core

open Uprava.Protocol
open Uprava.Lib (PagedReading)

/-! ## 1. The log -/

/-- The texts of a time: the column's, and that of a cursor. -/
structure TimeTexts where
  /-- How the database writes a time into a column. -/
  column : DateTime → String
  /-- `to_rfc3339`. -/
  print : DateTime → String
  /-- `parse::<DateTime<Utc>>`. -/
  parse : String → Option DateTime
  parse_print : ∀ time, parse (print time) = some time
  /-- No time has a bar in its text. -/
  parse_plain : ∀ text time, parse text = some time → '|' ∉ text.toList

/-- A row of `events`: its id, kind, session and time columns are those of the event. -/
structure StoredEvent where
  event : EventEnvelope
  scopeKey : String
  deriving DecidableEq

structure EventStore where
  events : List StoredEvent
  primaryKey : (events.map fun r => r.event.eventId).Nodup
  /-- The rows of `session_threads`: a session and its placement. -/
  sessionThreads : List (SessionThreadId × ProjectPlacementId)

structure EventLogQuery where
  sessionThreadId : Option String := none
  placementId : Option String := none
  kind : Option String := none
  cursor : Option String := none
  limit : Option Nat := none
  deriving DecidableEq

structure EventLogPage where
  events : List EventEnvelope
  nextCursor : Option String
  deriving DecidableEq

def defaultEventLogLimit : Nat := 100

def maxEventLogLimit : Nat := 500

/-- `str::rsplit_once` of the characters. -/
def rsplitOnce (separator : Char) : List Char → Option (List Char × List Char)
  | [] => none
  | c :: text =>
    match rsplitOnce separator text with
    | some (before, after) => some (c :: before, after)
    | none => if c = separator then some ([], text) else none

section Page

variable (time : TimeTexts)

def eventLogCursor (event : EventEnvelope) : String :=
  time.print event.happenedAt ++ "|" ++ event.eventId

def parseEventLogCursor (value : String) : Except AppError (DateTime × String) :=
  match rsplitOnce '|' value.toList with
  | none => .error (.badRequest "event.cursor_invalid" "Event cursor is malformed")
  | some (before, eventId) =>
    match time.parse (String.ofList before) with
    | none => .error (.badRequest "event.cursor_invalid" "Event cursor timestamp is invalid")
    | some happenedAt =>
      if eventId = [] then
        .error (.badRequest "event.cursor_invalid" "Event cursor id is missing")
      else .ok (happenedAt, String.ofList eventId)

def parseEventKindFilter (value : String) : Except AppError EventKind :=
  match Payloads.eventKinds.read value with
  | some kind => .ok kind
  | none => .error (.badRequest "event.kind_invalid" "Unknown event kind filter")

/-- The `where` of the query without its cursor. -/
def EventStore.matches (store : EventStore) (query : EventLogQuery) (kind : Option EventKind)
    (r : StoredEvent) : Bool :=
  query.sessionThreadId.all (fun session => r.event.sessionThreadId == some session) &&
  query.placementId.all (fun placement => r.scopeKey == "placement:" ++ placement ||
    store.sessionThreads.any fun thread =>
      thread.2 == placement && r.event.sessionThreadId == some thread.1) &&
  kind.all (fun kind => r.event.kind == kind)

/-- The columns that the log is ordered by. -/
def logKey (r : StoredEvent) : String ×ₗ String :=
  toLex (time.column r.event.happenedAt, r.event.eventId)

/-- `happened_at < ?4 or (happened_at = ?4 and event_id < ?5)`. -/
def isBefore (cursor : DateTime × String) (r : StoredEvent) : Bool :=
  decide (time.column r.event.happenedAt < time.column cursor.1) ||
    (time.column r.event.happenedAt == time.column cursor.1 && decide (r.event.eventId < cursor.2))

/-- `order by happened_at desc, event_id desc`. -/
def descending (a b : StoredEvent) : Bool := decide (logKey time b ≤ logKey time a)

/-- The events of one query without a limit. -/
def EventStore.eventLog (store : EventStore) (query : EventLogQuery) (kind : Option EventKind)
    (cursor : Option (DateTime × String)) : List EventEnvelope :=
  ((store.events.filter fun r =>
    store.matches query kind r && cursor.all fun c => isBefore time c r).mergeSort
      (descending time)).map (·.event)

def loadEventLogPage (store : EventStore) (query : EventLogQuery) :
    Except AppError EventLogPage := do
  let limit := min (max (query.limit.getD defaultEventLogLimit) 1) maxEventLogLimit
  let cursor ← query.cursor.mapM (parseEventLogCursor time)
  let kind ← query.kind.mapM parseEventKindFilter
  let events := (store.eventLog time query kind cursor).take (limit + 1)
  let hasMore := limit < events.length
  let events := events.take limit
  return {
    events
    nextCursor := if hasMore then events.getLast?.map (eventLogCursor time) else none }

end Page

/-! ## 2. Cursors -/

theorem rsplitOnce_eq_none {separator : Char} {text : List Char} (h : separator ∉ text) :
    rsplitOnce separator text = none := by
  induction text with
  | nil => rfl
  | cons c text ih =>
    rw [List.mem_cons, not_or] at h
    rw [rsplitOnce, ih h.2]
    exact if_neg (Ne.symm h.1)

theorem rsplitOnce_append (separator : Char) (before : List Char) {after : List Char}
    (h : separator ∉ after) :
    rsplitOnce separator (before ++ separator :: after) = some (before, after) := by
  induction before with
  | nil =>
    rw [List.nil_append, rsplitOnce, rsplitOnce_eq_none h]
    exact if_pos rfl
  | cons c before ih => rw [List.cons_append, rsplitOnce, ih]

/-- With a separator in what follows a separator, the text is split further back. -/
theorem mem_of_rsplitOnce {separator : Char} {before after text rest : List Char}
    (h : rsplitOnce separator (before ++ separator :: after) = some (text, rest))
    (hafter : separator ∈ after) : separator ∈ text := by
  obtain ⟨left, right, rfl, hright⟩ : ∃ left right, after = left ++ separator :: right ∧
      separator ∉ right := by
    clear h
    induction after with
    | nil => cases hafter
    | cons c after ih =>
      by_cases hmem : separator ∈ after
      · obtain ⟨left, right, rfl, hright⟩ := ih hmem
        exact ⟨c :: left, right, rfl, hright⟩
      · rcases List.mem_cons.mp hafter with rfl | hlater
        · exact ⟨[], after, rfl, hmem⟩
        · exact absurd hlater hmem
  rw [← List.cons_append, ← List.append_assoc, rsplitOnce_append _ _ hright] at h
  cases h
  exact List.mem_append_right _ (List.mem_cons_self ..)

/-- An event's id that a cursor finds again. -/
def ReadableId (eventId : EventId) : Prop := eventId ≠ "" ∧ '|' ∉ eventId.toList

theorem toList_eventLogCursor (time : TimeTexts) (event : EventEnvelope) :
    (eventLogCursor time event).toList =
      (time.print event.happenedAt).toList ++ '|' :: event.eventId.toList := by
  unfold eventLogCursor
  rw [String.toList_append, String.toList_append, List.append_assoc]
  rfl

theorem parse_eventLogCursor (time : TimeTexts) (event : EventEnvelope)
    (h : ReadableId event.eventId) :
    parseEventLogCursor time (eventLogCursor time event) =
      .ok (event.happenedAt, event.eventId) := by
  have hne : event.eventId.toList ≠ [] := by
    intro hnil
    exact h.1 (String.toList_eq_nil_iff.mp hnil)
  unfold parseEventLogCursor
  rw [toList_eventLogCursor, rsplitOnce_append '|' _ h.2]
  dsimp only
  rw [String.ofList_toList, time.parse_print]
  dsimp only
  rw [if_neg hne, String.ofList_toList]

/-- A cursor that is read names its event's id whole. -/
theorem readable_of_parse {time : TimeTexts} {event : EventEnvelope} {key : DateTime × String}
    (h : parseEventLogCursor time (eventLogCursor time event) = .ok key) :
    ReadableId event.eventId := by
  unfold parseEventLogCursor at h
  rw [toList_eventLogCursor] at h
  have hplain : '|' ∉ event.eventId.toList := by
    intro hbar
    split at h
    · cases h
    · rename_i before eventId hsplit
      cases hparse : time.parse (String.ofList before) with
      | none => rw [hparse] at h; cases h
      | some happenedAt =>
        have hnot := time.parse_plain _ _ hparse
        rw [String.toList_ofList] at hnot
        exact hnot (mem_of_rsplitOnce hsplit hbar)
  refine ⟨?_, hplain⟩
  intro hempty
  rw [rsplitOnce_append '|' _ hplain, hempty] at h
  dsimp only at h
  rw [String.ofList_toList, time.parse_print] at h
  dsimp only at h
  rw [if_pos String.toList_empty] at h
  cases h

/-! ## 3. The order of the log -/

section Order

variable (time : TimeTexts) (store : EventStore)

/-- The filtered log, from the newest event on. -/
def EventStore.fullLog (query : EventLogQuery) (kind : Option EventKind) : List StoredEvent :=
  (store.events.filter (store.matches query kind)).mergeSort (descending time)

theorem descending_trans (a b c : StoredEvent) (hab : descending time a b = true)
    (hbc : descending time b c = true) : descending time a c = true := by
  unfold descending at *
  rw [decide_eq_true_eq] at *
  exact le_trans hbc hab

theorem descending_total (a b : StoredEvent) :
    (descending time a b || descending time b a) = true := by
  unfold descending
  rw [Bool.or_eq_true, decide_eq_true_eq, decide_eq_true_eq]
  exact le_total _ _

/-- The id is the primary key. -/
theorem key_injective {a b : StoredEvent} (ha : a ∈ store.events) (hb : b ∈ store.events)
    (h : logKey time a = logKey time b) : a = b := by
  have hid : a.event.eventId = b.event.eventId := congrArg (fun key => (ofLex key).2) h
  exact List.inj_on_of_nodup_map store.primaryKey ha hb hid

variable {time store}

theorem isBefore_iff {cursor : StoredEvent} {r : StoredEvent} :
    isBefore time (cursor.event.happenedAt, cursor.event.eventId) r = true ↔
      logKey time r < logKey time cursor := by
  unfold isBefore logKey
  rw [Prod.Lex.toLex_lt_toLex, Bool.or_eq_true, Bool.and_eq_true, decide_eq_true_eq,
    decide_eq_true_eq, beq_iff_eq]

theorem mem_fullLog {query : EventLogQuery} {kind : Option EventKind} {r : StoredEvent}
    (h : r ∈ store.fullLog time query kind) : r ∈ store.events :=
  List.mem_of_mem_filter (List.mem_mergeSort.mp h)

theorem fullLog_strict (query : EventLogQuery) (kind : Option EventKind) :
    (store.fullLog time query kind).Pairwise fun a b => logKey time b < logKey time a := by
  have hnodup : (store.fullLog time query kind).Nodup :=
    (List.mergeSort_perm _ _).nodup_iff.mpr ((List.Nodup.of_map _ store.primaryKey).filter _)
  have hsorted : (store.fullLog time query kind).Pairwise fun a b => descending time a b = true :=
    List.pairwise_mergeSort (descending_trans time) (descending_total time) _
  refine (hnodup.and hsorted).imp_of_mem ?_
  intro a b ha hb ⟨hne, hle⟩
  unfold descending at hle
  rw [decide_eq_true_eq] at hle
  refine lt_of_le_of_ne hle fun heq => hne ?_
  exact key_injective time store (mem_fullLog ha) (mem_fullLog hb) heq.symm

theorem eventLog_none (query : EventLogQuery) (kind : Option EventKind) :
    store.eventLog time query kind none =
      (store.fullLog time query kind).map (·.event) := by
  unfold EventStore.eventLog EventStore.fullLog
  simp

/-- **The rows beyond a cursor are those after it in the sorted log.** -/
theorem eventLog_cursor {query : EventLogQuery} {kind : Option EventKind}
    {pre post : List StoredEvent} {r : StoredEvent}
    (h : store.fullLog time query kind = pre ++ r :: post) :
    store.eventLog time query kind (some (r.event.happenedAt, r.event.eventId)) =
      post.map (·.event) := by
  have hfilter : (store.events.filter fun x => store.matches query kind x &&
      (some (r.event.happenedAt, r.event.eventId)).all fun c => isBefore time c x) =
      (store.events.filter (store.matches query kind)).filter
        (isBefore time (r.event.happenedAt, r.event.eventId)) := by
    rw [List.filter_filter]
    refine List.filter_congr fun x _ => ?_
    rw [Bool.and_comm]
    rfl
  have hsort : ((store.events.filter (store.matches query kind)).filter
      (isBefore time (r.event.happenedAt, r.event.eventId))).mergeSort (descending time) =
      (store.fullLog time query kind).filter
        (isBefore time (r.event.happenedAt, r.event.eventId)) := by
    refine Lib.mergeSort_filter _ (descending_trans time) (descending_total time) ?_
    intro a b ha hb hab hba
    unfold descending at hab hba
    rw [decide_eq_true_eq] at hab hba
    exact key_injective time store (List.mem_of_mem_filter ha) (List.mem_of_mem_filter hb)
      (le_antisymm hba hab)
  unfold EventStore.eventLog
  rw [hfilter, hsort, h]
  exact congrArg _ (Lib.filter_beyond (fun a b => logKey time b < logKey time a)
    (h ▸ fullLog_strict query kind) (lt_irrefl _) (fun a hlt => lt_asymm hlt)
    fun a _ => isBefore_iff)

end Order

/-! ## 4. Following the cursors -/

section Following

variable (time : TimeTexts) (store : EventStore) (query : EventLogQuery)

/-- Each request has the filters and the limit of the first, and the cursor of the page before. -/
def nextPage (_ : Nat) (cursor : Option String) :
    Except AppError (List EventEnvelope × Option String) :=
  (loadEventLogPage time store { query with cursor }).map fun page => (page.events, page.nextCursor)

/-- Following the cursors from the first page ends, with the events of one query without a limit,
    each once and in its order. -/
def PagesWhole (kind : Option EventKind) : Prop :=
  ∃ pages, PagedReading (nextPage time store query) 0 none pages ∧
    pages.flatten = store.eventLog time query kind none

/-- The number of events on a page. -/
def pageSize : Nat := min (max (query.limit.getD defaultEventLogLimit) 1) maxEventLogLimit

/-- The event that a page of the log ends with, where there is a page after it, can be named. -/
def BoundariesReadable (kind : Option EventKind) : Prop :=
  ∀ i r, 0 < i → pageSize query ∣ i → i < (store.eventLog time query kind none).length →
    (store.eventLog time query kind none)[i - 1]? = some r → ReadableId r.eventId

variable {time store query}

theorem pageSize_pos : 0 < pageSize query := by
  unfold pageSize maxEventLogLimit
  omega

/-- A cursor that has been given out, and how many events were read before it. -/
def StandsAt (time : TimeTexts) (store : EventStore) (query : EventLogQuery)
    (kind : Option EventKind) (cursor : Option String) (i : Nat) : Prop :=
  (cursor = none ∧ i = 0) ∨
    ∃ r, 0 < i ∧ pageSize query ∣ i ∧ i < (store.eventLog time query kind none).length ∧
      (store.eventLog time query kind none)[i - 1]? = some r ∧
      cursor = some (eventLogCursor time r)

theorem StandsAt.dvd {kind : Option EventKind} {cursor : Option String} {i : Nat}
    (h : StandsAt time store query kind cursor i) : pageSize query ∣ i := by
  rcases h with ⟨_, rfl⟩ | ⟨r, _, hdvd, _⟩
  · exact Nat.dvd_zero _
  · exact hdvd

/-- The events that are asked for at a cursor: the rest of the log. -/
theorem eventLog_standsAt {kind : Option EventKind} {i : Nat} {r : EventEnvelope} (hi : 0 < i)
    (hr : (store.eventLog time query kind none)[i - 1]? = some r) :
    store.eventLog time query kind (some (r.happenedAt, r.eventId)) =
      (store.eventLog time query kind none).drop i := by
  rw [eventLog_none] at hr ⊢
  rw [List.getElem?_map, Option.map_eq_some_iff] at hr
  obtain ⟨row, hrow, rfl⟩ := hr
  obtain ⟨hlt, hget⟩ := List.getElem?_eq_some_iff.mp hrow
  have hsplit : store.fullLog time query kind =
      (store.fullLog time query kind).take (i - 1) ++ row ::
        (store.fullLog time query kind).drop i := by
    have hdrop := List.drop_eq_getElem_cons hlt
    rw [hget, Nat.sub_add_cancel hi] at hdrop
    rw [← hdrop, List.take_append_drop]
  rw [eventLog_cursor hsplit, List.map_drop]

/-- A page from a position: as many events as fit, and a cursor where more are left. -/
theorem page_eq {kind : Option EventKind} {cursor : Option String}
    {key : Option (DateTime × String)} {i : Nat}
    (hkind : query.kind.mapM parseEventKindFilter = .ok kind)
    (hcursor : cursor.mapM (parseEventLogCursor time) = .ok key)
    (hrest : store.eventLog time query kind key = (store.eventLog time query kind none).drop i)
    (k : Nat) :
    nextPage time store query k cursor =
      .ok (((store.eventLog time query kind none).drop i).take (pageSize query),
        if i + pageSize query < (store.eventLog time query kind none).length then
          (store.eventLog time query kind none)[i + pageSize query - 1]?.map (eventLogCursor time)
        else none) := by
  have hsame : store.eventLog time { query with cursor } kind key =
      (store.eventLog time query kind none).drop i := hrest
  have hpos : 0 < pageSize query := pageSize_pos
  unfold nextPage loadEventLogPage
  dsimp only
  rw [hcursor, hkind]
  change Except.ok (_, _) = _
  dsimp only
  rw [hsame]
  change Except.ok (((List.take (pageSize query + 1) _).take (pageSize query)),
    if pageSize query < (List.take (pageSize query + 1) _).length then
      ((List.take (pageSize query + 1) _).take (pageSize query)).getLast?.map _ else none) = _
  generalize store.eventLog time query kind none = full
  have htake : ((full.drop i).take (pageSize query + 1)).take (pageSize query) =
      (full.drop i).take (pageSize query) := by
    rw [List.take_take, Nat.min_eq_left (Nat.le_succ _)]
  rw [htake, List.length_take, List.length_drop]
  by_cases hmore : i + pageSize query < full.length
  · have hlast : ((full.drop i).take (pageSize query)).getLast? =
        full[i + pageSize query - 1]? := by
      rw [List.getLast?_eq_getElem?, List.length_take, List.length_drop, List.getElem?_take,
        List.getElem?_drop, Nat.min_eq_left (by omega), if_pos (by omega),
        Nat.add_sub_assoc hpos]
    rw [if_pos hmore, if_pos (by omega), hlast]
  · rw [if_neg hmore, if_neg (by omega)]

/-- What a request that names a position answers. -/
theorem page_standsAt {kind : Option EventKind} {cursor : Option String} {i : Nat}
    (hkind : query.kind.mapM parseEventKindFilter = .ok kind)
    (hpos : StandsAt time store query kind cursor i)
    (hread : ∀ r, 0 < i → (store.eventLog time query kind none)[i - 1]? = some r →
      ReadableId r.eventId) (k : Nat) :
    nextPage time store query k cursor =
      .ok (((store.eventLog time query kind none).drop i).take (pageSize query),
        if i + pageSize query < (store.eventLog time query kind none).length then
          (store.eventLog time query kind none)[i + pageSize query - 1]?.map (eventLogCursor time)
        else none) := by
  rcases hpos with ⟨rfl, rfl⟩ | ⟨r, hi, _, _, hr, rfl⟩
  · have hnone : (none : Option String).mapM (parseEventLogCursor time) = .ok none := rfl
    exact page_eq hkind hnone rfl k
  · have hsome : (some (eventLogCursor time r)).mapM (parseEventLogCursor time) =
        .ok (some (r.happenedAt, r.eventId)) := by
      rw [Option.mapM_some, parse_eventLogCursor time r (hread r hi hr)]
      rfl
    exact page_eq hkind hsome (eventLog_standsAt hi hr) k

/-- Where a page has a cursor, it stands at the end of the page. -/
theorem standsAt_next {kind : Option EventKind} {i : Nat} (hdvd : pageSize query ∣ i)
    (hmore : i + pageSize query < (store.eventLog time query kind none).length) :
    ∃ r, (store.eventLog time query kind none)[i + pageSize query - 1]? = some r ∧
      StandsAt time store query kind (some (eventLogCursor time r)) (i + pageSize query) := by
  have hpos : 0 < pageSize query := pageSize_pos
  have hlt : i + pageSize query - 1 < (store.eventLog time query kind none).length := by omega
  refine ⟨_, List.getElem?_eq_getElem hlt, Or.inr ⟨_, by omega, ?_, hmore, ?_, rfl⟩⟩
  · exact Nat.dvd_add hdvd (Nat.dvd_refl _)
  · exact List.getElem?_eq_getElem hlt

/-- A reading that goes on past an event has read the event's id. -/
theorem readable_of_reading {kind : Option EventKind}
    (hkind : query.kind.mapM parseEventKindFilter = .ok kind) {k : Nat} {cursor : Option String}
    {pages : List (List EventEnvelope)}
    (h : PagedReading (nextPage time store query) k cursor pages) :
    ∀ i, StandsAt time store query kind cursor i →
      (∀ r, 0 < i → (store.eventLog time query kind none)[i - 1]? = some r →
        ReadableId r.eventId) →
      ∀ j r, i < j → pageSize query ∣ j → j < (store.eventLog time query kind none).length →
        (store.eventLog time query kind none)[j - 1]? = some r → ReadableId r.eventId := by
  induction h with
  | last h =>
    intro i hpos hread j r hij hdvd hj _
    rw [page_standsAt hkind hpos hread] at h
    injection h with h
    injection h with _ hcursor
    have hstep := Nat.le_of_dvd (Nat.sub_pos_of_lt hij) (Nat.dvd_sub hdvd hpos.dvd)
    have hmore : i + pageSize query < (store.eventLog time query kind none).length := by omega
    obtain ⟨next, hnext, _⟩ := standsAt_next hpos.dvd hmore
    rw [if_pos hmore, hnext] at hcursor
    cases hcursor
  | more h rest ih =>
    intro i hpos hread j r hij hdvd hj hr
    rw [page_standsAt hkind hpos hread] at h
    injection h with h
    injection h with _ hcursor
    by_cases hmore : i + pageSize query < (store.eventLog time query kind none).length
    · obtain ⟨next, hnext, hstands⟩ := standsAt_next hpos.dvd hmore
      rw [if_pos hmore, hnext] at hcursor
      cases hcursor
      have hreadable : ReadableId next.eventId := by
        obtain ⟨answer, hanswer⟩ := rest.ok
        unfold nextPage loadEventLogPage at hanswer
        cases hparse : parseEventLogCursor time (eventLogCursor time next) with
        | error e =>
          dsimp only at hanswer
          rw [Option.mapM_some, hparse] at hanswer
          cases hanswer
        | ok key => exact readable_of_parse hparse
      have hstep := Nat.le_of_dvd (Nat.sub_pos_of_lt hij) (Nat.dvd_sub hdvd hpos.dvd)
      rcases Nat.eq_or_lt_of_le (show i + pageSize query ≤ j by omega) with heq | hlt
      · rw [← heq, hnext] at hr
        cases hr
        exact hreadable
      · refine ih _ hstands ?_ j r hlt hdvd hj hr
        intro r' _ hr'
        rw [hnext] at hr'
        cases hr'
        exact hreadable
    · rw [if_neg hmore] at hcursor
      cases hcursor

/-- **Following the cursors gives the whole log exactly where no page that is not the last ends
    with an event whose id is empty or has a bar.** -/
theorem event_log_paging_iff (time : TimeTexts) (store : EventStore) (query : EventLogQuery)
    (kind : Option EventKind) (hkind : query.kind.mapM parseEventKindFilter = .ok kind) :
    PagesWhole time store query kind ↔ BoundariesReadable time store query kind := by
  constructor
  · intro ⟨pages, hreading, _⟩ j r hj hdvd hlt hr
    refine readable_of_reading hkind hreading 0 (Or.inl ⟨rfl, rfl⟩) ?_ j r hj hdvd hlt hr
    intro _ hpos
    exact absurd hpos (Nat.lt_irrefl 0)
  · intro hbounds
    have hstep : ∀ k cursor i, StandsAt time store query kind cursor i →
        Lib.Stands (nextPage time store query) (StandsAt time store query kind)
          (store.eventLog time query kind none) k cursor i := by
      intro k cursor i hpos
      have hread : ∀ r, 0 < i → (store.eventLog time query kind none)[i - 1]? = some r →
          ReadableId r.eventId := by
        intro r hi hr
        rcases hpos with ⟨_, rfl⟩ | ⟨_, _, hdvd, hlt, _, _⟩
        · exact absurd hi (Nat.lt_irrefl 0)
        · exact hbounds i r hi hdvd hlt hr
      refine ⟨pageSize query, pageSize_pos, _, page_standsAt hkind hpos hread k, ?_⟩
      by_cases hmore : i + pageSize query < (store.eventLog time query kind none).length
      · obtain ⟨next, hnext, hstands⟩ := standsAt_next hpos.dvd hmore
        rw [if_pos hmore, hnext]
        exact ⟨hmore, hstands⟩
      · rw [if_neg hmore]
        exact Nat.le_of_not_lt hmore
    obtain ⟨pages, hreading, hpages⟩ := Lib.exists_reading hstep (k := 0) (Or.inl ⟨rfl, rfl⟩)
    exact ⟨pages, hreading, by rw [hpages, List.drop_zero]⟩

end Following

/-- The epoch as a time is printed, and for every other time some text of its own. -/
def epochText : DateTime → String
  | .ofNat 0 => "1970-01-01T00:00:00+00:00"
  | .ofNat (n + 1) => String.ofList ('a' :: List.replicate n 'a')
  | .negSucc n => String.ofList ('b' :: List.replicate n 'b')

def parseEpochText (text : String) : Option DateTime :=
  if text = "1970-01-01T00:00:00+00:00" then some 0
  else match text.toList with
    | 'a' :: rest => if rest.all (· == 'a') then some (.ofNat (rest.length + 1)) else none
    | 'b' :: rest => if rest.all (· == 'b') then some (.negSucc rest.length) else none
    | _ => none

def epochTexts : TimeTexts where
  column := epochText
  print := epochText
  parse := parseEpochText
  parse_print time := by
    unfold parseEpochText
    match time with
    | .ofNat 0 => exact if_pos rfl
    | .ofNat (n + 1) =>
      rw [if_neg (by simp [epochText, String.ext_iff]), epochText, String.toList_ofList]
      simp
    | .negSucc n =>
      rw [if_neg (by simp [epochText, String.ext_iff]), epochText, String.toList_ofList]
      simp
  parse_plain text time h := by
    unfold parseEpochText at h
    split at h
    · rename_i heq
      rw [heq]
      decide
    · intro hbar
      split at h
      · rename_i rest hlist
        rw [hlist] at hbar
        split at h
        · rename_i hall
          rw [List.all_eq_true] at hall
          rcases List.mem_cons.mp hbar with hbar | hbar
          · exact absurd hbar (by decide)
          · exact absurd (hall _ hbar) (by decide)
        · cases h
      · rename_i rest hlist
        rw [hlist] at hbar
        split at h
        · rename_i hall
          rw [List.all_eq_true] at hall
          rcases List.mem_cons.mp hbar with hbar | hbar
          · exact absurd hbar (by decide)
          · exact absurd (hall _ hbar) (by decide)
        · cases h
      · cases h

def loggedEvent (eventId : EventId) (seq : Int) : EventEnvelope where
  eventId
  actorRef := .localUser none
  scopeRef := .session "s1"
  sessionThreadId := some "s1"
  seq
  kind := .runtimeReady
  happenedAt := 0
  payload := .runtimeReady {}

def loggedStore (newer older : EventId) (hne : newer ≠ older) : EventStore where
  events := [⟨loggedEvent newer 2, "session:s1"⟩, ⟨loggedEvent older 1, "session:s1"⟩]
  primaryKey := by simp [loggedEvent, hne]
  sessionThreads := [("s1", "p1")]

/-- Two events of one time are in the order of their ids. -/
theorem loggedStore_log {newer older : EventId} (hne : newer ≠ older) (hlt : older < newer) :
    (loggedStore newer older hne).eventLog epochTexts { limit := some 1 } none none =
      [loggedEvent newer 2, loggedEvent older 1] := by
  have hsorted : [StoredEvent.mk (loggedEvent newer 2) "session:s1",
      ⟨loggedEvent older 1, "session:s1"⟩].Pairwise
        fun a b => descending epochTexts a b = true := by
    refine List.pairwise_pair.mpr ?_
    unfold descending
    rw [decide_eq_true_eq]
    exact Prod.Lex.toLex_le_toLex.mpr (Or.inr ⟨rfl, le_of_lt hlt⟩)
  rw [eventLog_none]
  unfold EventStore.fullLog
  have hall : (loggedStore newer older hne).events.filter
      ((loggedStore newer older hne).matches { limit := some 1 } none) =
      (loggedStore newer older hne).events :=
    List.filter_eq_self.mpr fun _ _ => rfl
  rw [hall]
  change ((List.mergeSort [_, _] _).map _) = _
  rw [List.mergeSort_of_pairwise hsorted]
  rfl

theorem event_log_paging_two :
    PagesWhole epochTexts (loggedStore "e2" "e1" (by decide)) { limit := some 1 } none := by
  refine (event_log_paging_iff epochTexts (loggedStore "e2" "e1" (by decide)) { limit := some 1 }
    none rfl).mpr ?_
  intro i r hi _ hlt hr
  rw [loggedStore_log (by decide) (by decide)] at hlt hr
  have hone : i = 1 := by
    change i < 2 at hlt
    omega
  rw [hone] at hr
  cases hr
  exact ⟨by decide, by decide⟩

/-- The page of one event ends with `e|2`, and what its cursor names is no time. -/
theorem event_log_stops_at_bar :
    ¬ ∀ (time : TimeTexts) (store : EventStore) (query : EventLogQuery) (kind : Option EventKind),
      query.kind.mapM parseEventKindFilter = .ok kind → PagesWhole time store query kind := by
  intro hall
  obtain ⟨pages, hreading, _⟩ := hall epochTexts (loggedStore "e|2" "e1" (by decide))
    { limit := some 1 } none rfl
  have hkind : ({ limit := some 1 } : EventLogQuery).kind.mapM parseEventKindFilter =
      .ok none := rfl
  have hread := readable_of_reading hkind hreading 0
    (Or.inl ⟨rfl, rfl⟩) (fun _ hpos => absurd hpos (Nat.lt_irrefl 0)) 1 (loggedEvent "e|2" 2)
    Nat.one_pos (Nat.one_dvd 1) (by rw [loggedStore_log (by decide) (by decide)]; decide)
    (by rw [loggedStore_log (by decide) (by decide)]; rfl)
  exact absurd hread.2 (by decide)

end Uprava.Core
