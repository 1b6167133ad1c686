/-
  File:      Uprava/Web/LiveTrace.lean
  Subject:   The trace of a session in the web client, which adds each event that it receives,
             beside the trace that Core builds of all events.

  How Core prints a time (`rfc3339`) and how two texts compare (`localeCompare`) are parameters.
  `live_trace_iff` says for which runs the two traces have the same steps after each event: where no
  text of an activity is one that the two join differently (`Told`), and where the times and the
  blocks compare as texts as they do in Core (`Placed`).
-/
import Uprava.Core.Trace
import Uprava.Lib.StableSort
import Uprava.Lib.Texts

namespace Uprava.Web.LiveTrace

open Uprava.Protocol
open Uprava.Core (truncateChars)
open Uprava.Core.Trace (SessionEvent SessionDetail TraceStep SessionTraceProjection IterationOrder
  eventKindLabel eventRef activityKey isActivity isSingle activityGroups activityStep stepKey
  plainSteps buildSessionTraceProjection)
open Uprava.Lib (sortBy OrderedMap Before)

/-! ## 1. What the client receives -/

/-- An event as it is sent. -/
structure LiveEvent where
  eventId : EventId
  actorRef : ActorRef
  scopeRef : ScopeRef
  turnId : Option TurnId
  seq : Int64
  kind : String
  happenedAt : String
  sourceRefs : List UpravaRef
  evidenceRefs : List UpravaRef
  causeRefs : List UpravaRef
  resultRefs : List UpravaRef
  payload : JsonValue
  deriving DecidableEq

/-- A step of the trace as it is sent. -/
structure LiveStep where
  blockId : BlockId
  title : String
  summary : String
  actorRef : ActorRef
  startedAt : String
  completedAt : Option String
  precision : TracePrecision
  primaryRef : UpravaRef
  sourceRefs : List UpravaRef
  evidenceRefs : List UpravaRef
  causeRefs : List UpravaRef
  resultRefs : List UpravaRef
  rawRefs : List UpravaRef
  deriving DecidableEq

structure LiveProjection where
  sessionThreadId : SessionThreadId
  precision : TracePrecision
  steps : List LiveStep
  rawEventCount : Nat
  generatedAt : String
  deriving DecidableEq

section Sent

variable (rfc3339 : DateTime → String)

def LiveEvent.sent (event : SessionEvent) : LiveEvent where
  eventId := event.eventId
  actorRef := event.actorRef
  scopeRef := event.scopeRef
  turnId := event.turnId
  seq := event.seq
  kind := eventKindLabel event.kind
  happenedAt := rfc3339 event.happenedAt
  sourceRefs := event.sourceRefs
  evidenceRefs := event.evidenceRefs
  causeRefs := event.causeRefs
  resultRefs := event.resultRefs
  payload := event.payload

def LiveStep.sent (step : TraceStep) : LiveStep where
  blockId := step.blockId
  title := step.title
  summary := step.summary
  actorRef := step.actorRef
  startedAt := rfc3339 step.startedAt
  completedAt := step.completedAt.map rfc3339
  precision := step.precision
  primaryRef := step.primaryRef
  sourceRefs := step.links.sourceRefs
  evidenceRefs := step.links.evidenceRefs
  causeRefs := step.links.causeRefs
  resultRefs := step.links.resultRefs
  rawRefs := step.links.rawRefs

def LiveProjection.sent (trace : SessionTraceProjection) : LiveProjection where
  sessionThreadId := trace.sessionThreadId
  precision := trace.precision
  steps := trace.steps.map (LiveStep.sent rfc3339)
  rawEventCount := trace.rawEventCount
  generatedAt := rfc3339 trace.generatedAt

end Sent

/-! ## 2. The patch -/

def eventReference (event : LiveEvent) : UpravaRef :=
  .event event.eventId event.scopeRef event.seq

def eventSummary (event : LiveEvent) : String :=
  match ["summary", "message", "content", "prompt", "question"].findSome? fun key =>
      (event.payload.get key).bind Lib.JsonValue.asStr with
  | some value => truncateChars value 500
  | none => event.kind

/-- Two event references with one event id count as the same. -/
def hasReference (references : List UpravaRef) (expected : UpravaRef) : Bool :=
  references.any fun reference =>
    match reference, expected with
    | .event eventId .., .event expectedId .. => eventId == expectedId
    | _, _ => false

def traceStepForEvent (event : LiveEvent) (rawEventRef : UpravaRef) : LiveStep where
  blockId := "trace:event:" ++ event.eventId
  title := event.kind
  summary := eventSummary event
  actorRef := event.actorRef
  startedAt := event.happenedAt
  completedAt := some event.happenedAt
  precision :=
    if event.sourceRefs.length > 0 ∨ event.evidenceRefs.length > 0 ∨ event.causeRefs.length > 0 then
      .exact
    else .unknown
  primaryRef := rawEventRef
  sourceRefs := event.sourceRefs
  evidenceRefs := event.evidenceRefs
  causeRefs := event.causeRefs
  resultRefs := event.resultRefs
  rawRefs := [rawEventRef]

def activityBlockId (event : LiveEvent) : BlockId :=
  "trace:activity:" ++ event.turnId.getD event.eventId

def activityTraceStep (event : LiveEvent) (rawEventRef : UpravaRef) : LiveStep :=
  { traceStepForEvent event rawEventRef with
    blockId := activityBlockId event
    title := "Provider activity"
    precision := .coarse }

/-- The summary of a step of `rawCount` events with one event more. -/
def joinedSummary (rawCount : Nat) (previous summary : String) : String :=
  if rawCount < 4 then "; ".intercalate ([previous, summary].filter (· ≠ "")) else previous

/-- The step of a group with one event more. -/
def extendedStep (previous : LiveStep) (event : LiveEvent) (rawEventRef : UpravaRef) : LiveStep :=
  { previous with
    summary := joinedSummary previous.rawRefs.length previous.summary (eventSummary event)
    completedAt := some event.happenedAt
    sourceRefs := previous.sourceRefs ++ event.sourceRefs
    evidenceRefs := previous.evidenceRefs ++ event.evidenceRefs
    causeRefs := previous.causeRefs ++ event.causeRefs
    resultRefs := previous.resultRefs ++ event.resultRefs
    rawRefs := previous.rawRefs ++ [rawEventRef] }

section Patch

variable (localeCompare : String → String → Ordering)

def compareTraceSteps : LiveStep → LiveStep → Ordering :=
  compareLex (fun left right => localeCompare left.startedAt right.startedAt)
    fun left right => localeCompare left.blockId right.blockId

/-- A projection with other steps, and one event more. -/
def LiveProjection.counted (current : LiveProjection) (event : LiveEvent)
    (steps : List LiveStep) : LiveProjection :=
  { current with
    steps
    rawEventCount := current.rawEventCount + 1
    generatedAt := event.happenedAt }

def patchActivityTrace (current : LiveProjection) (event : LiveEvent) (rawEventRef : UpravaRef) :
    LiveProjection :=
  match current.steps.findIdx? (·.blockId == activityBlockId event) with
  | none => current.counted event
      (sortBy (compareTraceSteps localeCompare)
        (current.steps ++ [activityTraceStep event rawEventRef]))
  | some index =>
    match current.steps[index]? with
    | none => current
    | some previous => current.counted event
        (current.steps.set index (extendedStep previous event rawEventRef))

def patchTraceProjection : Option LiveProjection → LiveEvent → Option LiveProjection
  | none, _ => none
  | some current, event =>
    let rawEventRef := eventReference event
    if current.steps.any fun step => hasReference step.rawRefs rawEventRef then some current
    else if event.kind = "provider.output.delta" then some (current.counted event current.steps)
    else if event.kind = "provider.activity" then
      some (patchActivityTrace localeCompare current event rawEventRef)
    else some (current.counted event
      (sortBy (compareTraceSteps localeCompare)
        (current.steps ++ [traceStepForEvent event rawEventRef])))

/-- The client's trace after the events, from the one that Core sent. -/
def patched (rfc3339 : DateTime → String) (start : SessionTraceProjection)
    (later : List SessionEvent) : Option LiveProjection :=
  (later.map (LiveEvent.sent rfc3339)).foldl (patchTraceProjection localeCompare)
    (some (LiveProjection.sent rfc3339 start))

end Patch

/-! ## 3. What is asked of the two -/

def LiveStep.isMessage (step : LiveStep) : Bool :=
  match step.primaryRef with
  | .message _ => true
  | _ => false

/-- The steps of events. -/
def eventSteps (steps : List LiveStep) : List LiveStep := steps.filter (!·.isMessage)

/-- The client has a trace with the same event and activity steps, and the same count. -/
def SameTrace (live : Option LiveProjection) (rebuilt : LiveProjection) : Prop :=
  ∃ p, live = some p ∧ eventSteps p.steps = eventSteps rebuilt.steps ∧
    p.rawEventCount = rebuilt.rawEventCount

/-- The activities with the key of this event. -/
def groupOf (events : List SessionEvent) (event : SessionEvent) : List SessionEvent :=
  (events.filter isActivity).filter (activityKey · = activityKey event)

/-- The event is one of its own step, or the first one of a group. -/
def opens (events : List SessionEvent) (event : SessionEvent) : Bool :=
  isSingle event || (isActivity event && (groupOf events event).head? == some event)

/-- The events that steps begin with. -/
def leads (events : List SessionEvent) : List SessionEvent := events.filter (opens events)

def blockOf (event : SessionEvent) : BlockId :=
  if isActivity event then "trace:activity:" ++ activityKey event
  else "trace:event:" ++ event.eventId

/-- The key in Core of the step that begins with this event. -/
def leadKey (event : SessionEvent) : DateTime ×ₗ BlockId := toLex (event.happenedAt, blockOf event)

section Conditions

variable (rfc3339 : DateTime → String) (localeCompare : String → String → Ordering)

/-- How the client compares the steps that begin with two events. -/
def compareLeads : SessionEvent → SessionEvent → Ordering :=
  compareLex (fun a b => localeCompare (rfc3339 a.happenedAt) (rfc3339 b.happenedAt))
    fun a b => localeCompare (blockOf a) (blockOf b)

/-- A text that joins the texts of a group as Core joins it: the first one is not empty; one of a
    group that has had text is empty, or among the first four, or behind four with text; and one of
    a group without text says the number of its events, of which there are four. -/
def Told (texts : List String) (text : String) : Prop :=
  if texts = [] then text ≠ ""
  else if texts.filter (· ≠ "") = [] then
    4 ≤ texts.length ∧ text = toString texts.length ++ " provider events"
  else text = "" ∨ texts.length < 4 ∨ 4 ≤ (texts.filter (· ≠ "")).length

instance (texts : List String) (text : String) : Decidable (Told texts text) := by
  unfold Told
  infer_instance

/-- Where this event begins a step, the steps compare as texts as Core sorts them; equal texts do
    no harm to a new step behind an older one. -/
def Placed (events : List SessionEvent) (event : SessionEvent) : Prop :=
  event ∈ leads (events ++ [event]) →
    ∀ a ∈ leads (events ++ [event]), ∀ b ∈ leads (events ++ [event]), leadKey a < leadKey b →
      compareLeads rfc3339 localeCompare a b = .lt ∨
        (compareLeads rfc3339 localeCompare a b = .eq ∧ a ≠ event)

instance (events : List SessionEvent) (event : SessionEvent) :
    Decidable (Placed rfc3339 localeCompare events event) := by
  unfold Placed
  infer_instance

/-- **What is asked of an event** that comes after these. -/
structure Fits (events : List SessionEvent) (event : SessionEvent) : Prop where
  told : isActivity event = true →
    Told ((groupOf events event).map Core.Trace.eventSummary) (Core.Trace.eventSummary event)
  placed : Placed rfc3339 localeCompare events event

/-- Each event of a run fits the events before it. -/
def FitAll (events : List SessionEvent) : List SessionEvent → Prop
  | [] => True
  | event :: later => Fits rfc3339 localeCompare events event ∧ FitAll (events ++ [event]) later

end Conditions

/-! ## 4. The texts of a group -/

/-- The summary that Core gives a group with these texts. -/
def summaryOf (texts : List String) : String :=
  let summaries := (texts.filter (· ≠ "")).take 4
  if summaries.isEmpty then toString texts.length ++ " provider events"
  else "; ".intercalate summaries

theorem summaryOf_of_none {texts : List String} (h : texts.filter (· ≠ "") = []) :
    summaryOf texts = toString texts.length ++ " provider events" := by
  rw [summaryOf, h]
  rfl

theorem summaryOf_of_some {texts : List String} (h : texts.filter (· ≠ "") ≠ []) :
    summaryOf texts = "; ".intercalate ((texts.filter (· ≠ "")).take 4) := by
  rw [summaryOf, if_neg]
  rw [List.isEmpty_iff, List.take_eq_nil_iff]
  exact not_or.mpr ⟨by decide, h⟩

theorem events_ne_empty (n : Nat) : toString n ++ " provider events" ≠ "" := by
  intro h
  exact absurd (String.append_eq_empty_iff.mp h).2 (by decide)

theorem summaryOf_ne_empty (texts : List String) : summaryOf texts ≠ "" := by
  cases h : texts.filter (· ≠ "") with
  | nil =>
    rw [summaryOf_of_none h]
    exact events_ne_empty _
  | cons x rest =>
    have hx : x ∈ texts.filter (· ≠ "") := h ▸ List.mem_cons_self
    rw [summaryOf_of_some (h ▸ List.cons_ne_nil x rest), h, List.take_succ_cons]
    exact Lib.intercalate_cons_ne_empty "; " (of_decide_eq_true (List.mem_filter.mp hx).2) _

theorem filter_concat_empty (texts : List String) :
    (texts ++ [""]).filter (· ≠ "") = texts.filter (· ≠ "") := by
  rw [List.filter_append]
  exact List.append_nil _

theorem filter_concat_text (texts : List String) {text : String} (h : text ≠ "") :
    (texts ++ [text]).filter (· ≠ "") = texts.filter (· ≠ "") ++ [text] := by
  rw [List.filter_append, List.filter_cons_of_pos (by simpa using h), List.filter_nil]

/-- The joined text: the new text behind the old one, while there is place and something to put. -/
theorem joinedSummary_of_text {n : Nat} {previous text : String} (hprevious : previous ≠ "")
    (htext : text ≠ "") : joinedSummary n previous text =
      if n < 4 then previous ++ "; " ++ text else previous := by
  have hboth : [previous, text].filter (· ≠ "") = [previous, text] := by
    simp [hprevious, htext]
  rw [joinedSummary, hboth, Lib.intercalate_pair]

theorem joinedSummary_of_empty {n : Nat} {previous : String} (hprevious : previous ≠ "") :
    joinedSummary n previous "" = previous := by
  have hone : [previous, ""].filter (· ≠ "") = [previous] := by
    simp [hprevious]
  rw [joinedSummary, hone, String.intercalate_singleton, ite_self]

/-- What Core gives a group that has had text, with one text more. -/
theorem summaryOf_concat {texts : List String} (h : texts.filter (· ≠ "") ≠ []) {text : String}
    (htext : text ≠ "") : summaryOf (texts ++ [text]) =
      if (texts.filter (· ≠ "")).length < 4 then summaryOf texts ++ "; " ++ text
      else summaryOf texts := by
  have hmore : (texts ++ [text]).filter (· ≠ "") ≠ [] := by
    rw [filter_concat_text texts htext]
    exact List.concat_ne_nil text _
  rw [summaryOf_of_some hmore, summaryOf_of_some h, filter_concat_text texts htext]
  split
  · next hlt =>
    rw [List.take_of_length_le (by rw [List.length_append, List.length_singleton]; omega),
      List.take_of_length_le (by omega), Lib.intercalate_concat "; " h]
  · next hge => rw [List.take_append_of_le_length (by omega)]

theorem separated_ne_empty (text : String) : "; " ++ text ≠ "" := by
  intro h
  exact absurd (String.append_eq_empty_iff.mp h).1 (by decide)

/-- **The client's text is Core's** exactly when the new text is one that both join alike. -/
theorem joined_iff {texts : List String} (h : texts ≠ []) (text : String) :
    joinedSummary texts.length (summaryOf texts) text = summaryOf (texts ++ [text]) ↔
      Told texts text := by
  rw [Told, if_neg h]
  split
  · next hnone =>
    -- Core drops the number of the events once there is text, and counts on while there is none
    by_cases htext : text = ""
    · subst htext
      rw [joinedSummary_of_empty (summaryOf_ne_empty texts), summaryOf_of_none hnone,
        summaryOf_of_none (by rw [filter_concat_empty, hnone]), List.length_append,
        List.length_singleton]
      refine iff_of_false (fun he => ?_) fun hall => events_ne_empty _ hall.2.symm
      have hcount := Lib.toString_injective ((String.append_left_inj _).mp he)
      omega
    · have hmore : summaryOf (texts ++ [text]) = text := by
        have hfilter : (texts ++ [text]).filter (· ≠ "") = [text] := by
          rw [filter_concat_text texts htext, hnone, List.nil_append]
        rw [summaryOf_of_some (by rw [hfilter]; exact List.cons_ne_nil _ _), hfilter]
        exact String.intercalate_singleton
      rw [joinedSummary_of_text (summaryOf_ne_empty texts) htext, hmore, summaryOf_of_none hnone]
      split
      · next hlt =>
        refine iff_of_false (fun he => ?_) fun hall => absurd hall.1 (by omega)
        refine Lib.self_ne_append ?_ he
        rw [String.append_assoc]
        exact fun hempty => absurd (String.append_eq_empty_iff.mp hempty).2 (by decide)
      · next hge => exact ⟨fun he => ⟨by omega, he.symm⟩, fun hall => hall.2.symm⟩
  · next hsome =>
    by_cases htext : text = ""
    · subst htext
      have hsame : summaryOf (texts ++ [""]) = summaryOf texts := by
        rw [summaryOf_of_some (by rw [filter_concat_empty]; exact hsome), filter_concat_empty,
          summaryOf_of_some hsome]
      rw [joinedSummary_of_empty (summaryOf_ne_empty texts), hsame]
      exact iff_of_true rfl (.inl rfl)
    · have hcount : (texts.filter (· ≠ "")).length ≤ texts.length := List.length_filter_le _ _
      rw [joinedSummary_of_text (summaryOf_ne_empty texts) htext, summaryOf_concat hsome htext]
      split
      · next hlt =>
        rw [if_pos (by omega)]
        exact iff_of_true rfl (.inr (.inl hlt))
      · next hge =>
        split
        · next hfew =>
          refine iff_of_false (fun he => ?_) fun hall => ?_
          · rw [String.append_assoc] at he
            exact Lib.append_ne_self (separated_ne_empty text) he.symm
          · rcases hall with hempty | hlt | hmany
            · exact htext hempty
            · exact hge hlt
            · omega
        · next hmany => exact iff_of_true rfl (.inr (.inr (by omega)))

theorem single_iff (text : String) : text = summaryOf [text] ↔ Told [] text := by
  rw [Told, if_pos rfl]
  constructor
  · exact fun h => h ▸ summaryOf_ne_empty _
  · intro h
    have hfilter : [text].filter (· ≠ "") = [text] := by simp [h]
    rw [summaryOf_of_some (by rw [hfilter]; exact List.cons_ne_nil _ _), hfilter]
    exact String.intercalate_singleton.symm

/-! ## 5. The steps of Core by the events they begin with -/

/-- The step that begins with this event. -/
def stepOf (events : List SessionEvent) (event : SessionEvent) : TraceStep :=
  if isActivity event then
    activityStep event ((groupOf events event).getLast?.getD event) (groupOf events event)
  else Core.Trace.traceStepForEvent event

/-- The leads in the order of Core. -/
def sortedLeads (events : List SessionEvent) : List SessionEvent :=
  (leads events).insertionSort fun a b => leadKey a ≤ leadKey b

variable {events : List SessionEvent} {event a b : SessionEvent}

theorem isSingle_of_not_activity (hactivity : isActivity event = false)
    (hdelta : event.kind ≠ .providerOutputDelta) : isSingle event = true := by
  simp [isSingle, hactivity, hdelta]

theorem mem_groupOf : b ∈ groupOf events a ↔
    b ∈ events ∧ isActivity b = true ∧ activityKey b = activityKey a := by
  rw [groupOf, List.mem_filter, List.mem_filter, decide_eq_true_eq, and_assoc]

theorem groupOf_congr (h : activityKey a = activityKey b) :
    groupOf events a = groupOf events b := by
  rw [groupOf, groupOf, h]

theorem mem_leads : event ∈ leads events ↔ event ∈ events ∧ (isSingle event = true ∨
    isActivity event = true ∧ (groupOf events event).head? = some event) := by
  rw [leads, List.mem_filter, opens, Bool.or_eq_true, Bool.and_eq_true, beq_iff_eq]

theorem stepOf_blockId (events : List SessionEvent) (event : SessionEvent) :
    (stepOf events event).blockId = blockOf event := by
  unfold stepOf blockOf
  split <;> rfl

theorem stepOf_startedAt (events : List SessionEvent) (event : SessionEvent) :
    (stepOf events event).startedAt = event.happenedAt := by
  unfold stepOf
  split <;> rfl

theorem stepKey_stepOf (events : List SessionEvent) (event : SessionEvent) :
    stepKey (stepOf events event) = leadKey event := by
  rw [stepKey, leadKey, stepOf_blockId, stepOf_startedAt]

/-- **Two steps with one block begin with one event.** -/
theorem blockOf_injOn (hids : (events.map (·.eventId)).Nodup) (ha : a ∈ leads events)
    (hb : b ∈ leads events) (h : blockOf a = blockOf b) : a = b := by
  obtain ⟨ha, haOpens⟩ := mem_leads.mp ha
  obtain ⟨hb, hbOpens⟩ := mem_leads.mp hb
  unfold blockOf at h
  rcases haOpens with haSingle | ⟨haActivity, haHead⟩
  · rw [(Core.Trace.isSingle_kind haSingle).2] at h
    rcases hbOpens with hbSingle | ⟨hbActivity, -⟩
    · rw [(Core.Trace.isSingle_kind hbSingle).2] at h
      exact List.inj_on_of_nodup_map hids ha hb ((String.append_right_inj "trace:event:").mp h)
    · rw [hbActivity] at h
      exact absurd h (Core.Trace.event_ne_activity _ _)
  · rw [haActivity] at h
    rcases hbOpens with hbSingle | ⟨hbActivity, hbHead⟩
    · rw [(Core.Trace.isSingle_kind hbSingle).2] at h
      exact absurd h.symm (Core.Trace.event_ne_activity _ _)
    · rw [hbActivity] at h
      have hkey : activityKey a = activityKey b :=
        (String.append_right_inj "trace:activity:").mp h
      rw [groupOf_congr hkey] at haHead
      exact Option.some.inj (haHead.symm.trans hbHead)

theorem nodup_leads (hids : (events.map (·.eventId)).Nodup) : (leads events).Nodup :=
  (List.Nodup.of_map _ hids).filter _

theorem mem_sortedLeads : a ∈ sortedLeads events ↔ a ∈ leads events :=
  (List.perm_insertionSort _ _).mem_iff

theorem nodup_sortedLeads (hids : (events.map (·.eventId)).Nodup) : (sortedLeads events).Nodup :=
  (List.perm_insertionSort _ _).nodup_iff.mpr (nodup_leads hids)

theorem leadKey_injOn (hids : (events.map (·.eventId)).Nodup) (ha : a ∈ leads events)
    (hb : b ∈ leads events) (h : leadKey a = leadKey b) : a = b :=
  blockOf_injOn hids ha hb (congrArg (fun key => (ofLex key).2) h)

/-- In Core's order the keys grow. -/
theorem pairwise_sortedLeads (hids : (events.map (·.eventId)).Nodup) :
    (sortedLeads events).Pairwise fun a b => leadKey a < leadKey b := by
  have : Std.Total fun a b : SessionEvent => leadKey a ≤ leadKey b := ⟨fun _ _ => le_total _ _⟩
  have : IsTrans SessionEvent fun a b => leadKey a ≤ leadKey b := ⟨fun _ _ _ => le_trans⟩
  have hsorted : (sortedLeads events).Pairwise fun a b => leadKey a ≤ leadKey b :=
    List.pairwise_insertionSort _ _
  refine (hsorted.and (nodup_sortedLeads hids)).imp_of_mem fun ha hb h => ?_
  refine lt_of_le_of_ne h.1 fun heq => h.2 ?_
  exact leadKey_injOn hids (mem_sortedLeads.mp ha) (mem_sortedLeads.mp hb) heq

theorem before_sortedLeads (hids : (events.map (·.eventId)).Nodup) (ha : a ∈ leads events)
    (hb : b ∈ leads events) (hlt : leadKey a < leadKey b) : Before (sortedLeads events) a b := by
  rcases Lib.before_or_before (mem_sortedLeads.mpr ha) (mem_sortedLeads.mpr hb)
    (fun he => absurd (he ▸ hlt) (lt_irrefl _)) with hab | hba
  · exact hab
  · have hgt : leadKey b < leadKey a :=
      List.rel_of_pairwise_cons ((pairwise_sortedLeads hids).sublist hba) List.mem_cons_self
    exact absurd hlt (lt_asymm hgt)

/-- A session with these events and no messages. -/
def bare (events : List SessionEvent) : SessionDetail where
  sessionThreadId := ""
  runtimeSessionId := ""
  provider := ""
  placementId := ""
  messages := []
  events

/-- The steps of events are those that begin with the leads. -/
theorem mem_bareSteps {step : TraceStep} :
    step ∈ plainSteps (bare events) ↔ ∃ lead ∈ leads events, stepOf events lead = step := by
  rw [Core.Trace.mem_plainSteps]
  constructor
  · intro h
    rcases h with ⟨_, hmem, -⟩ | ⟨single, hmem, hsingle, rfl⟩ |
      ⟨key, group, first, last, hgroup, hfirst, hlast, hkey, rfl⟩
    · exact absurd hmem List.not_mem_nil
    · refine ⟨single, mem_leads.mpr ⟨hmem, .inl hsingle⟩, ?_⟩
      rw [stepOf, (Core.Trace.isSingle_kind hsingle).2]
      rfl
    · have hgroupOf : group = groupOf events first := by
        rw [(Core.Trace.mem_activityGroups.mp hgroup).2, groupOf, hkey]
        rfl
      obtain ⟨hmem, hactivity, -⟩ := (Core.Trace.mem_group hgroup).mp (List.mem_of_head? hfirst)
      refine ⟨first, mem_leads.mpr ⟨hmem, .inr ⟨hactivity, hgroupOf ▸ hfirst⟩⟩, ?_⟩
      rw [stepOf, if_pos hactivity, ← hgroupOf, hlast, Option.getD_some]
  · rintro ⟨lead, hlead, rfl⟩
    obtain ⟨hmem, hsingle | ⟨hactivity, hhead⟩⟩ := mem_leads.mp hlead
    · refine .inr (.inl ⟨lead, hmem, hsingle, ?_⟩)
      rw [stepOf, (Core.Trace.isSingle_kind hsingle).2]
      rfl
    · have hne : groupOf events lead ≠ [] := fun hnil => by
        rw [hnil] at hhead
        cases hhead
      refine .inr (.inr ⟨activityKey lead, groupOf events lead, lead,
        (groupOf events lead).getLast hne, Core.Trace.mem_activityGroups.mpr ⟨hne, rfl⟩, hhead,
        List.getLast?_eq_some_getLast hne, rfl, ?_⟩)
      rw [stepOf, if_pos hactivity, List.getLast?_eq_some_getLast hne, Option.getD_some]

/-- The steps of events, in the order of Core. -/
def coreSteps (events : List SessionEvent) : List TraceStep :=
  (sortedLeads events).map (stepOf events)

theorem coreSteps_blocks (events : List SessionEvent) :
    (coreSteps events).map (·.blockId) = (sortedLeads events).map blockOf := by
  rw [coreSteps, List.map_map]
  exact List.map_congr_left fun lead _ => stepOf_blockId events lead

theorem nodup_blocks (hids : (events.map (·.eventId)).Nodup) :
    ((sortedLeads events).map blockOf).Nodup :=
  (List.nodup_map_iff_inj_on (nodup_sortedLeads hids)).mpr fun _ ha _ hb h =>
    blockOf_injOn hids (mem_sortedLeads.mp ha) (mem_sortedLeads.mp hb) h

theorem bareSteps_perm (hids : (events.map (·.eventId)).Nodup) :
    (plainSteps (bare events)).Perm (coreSteps events) := by
  have hbare : ((plainSteps (bare events)).map (·.blockId)).Nodup :=
    Core.Trace.plainSteps_blocks_nodup_iff.mpr
      ⟨List.nodup_nil, hids.sublist (List.filter_sublist.map _)⟩
  have hcore : ((coreSteps events).map (·.blockId)).Nodup :=
    (coreSteps_blocks events) ▸ nodup_blocks hids
  refine (List.perm_ext_iff_of_nodup (List.Nodup.of_map _ hbare) (List.Nodup.of_map _ hcore)).mpr
    fun step => ?_
  rw [mem_bareSteps, coreSteps, List.mem_map]
  simp only [mem_sortedLeads]

theorem filter_plainSteps (detail : SessionDetail) :
    (plainSteps detail).filter (!·.isMessage) = plainSteps (bare detail.events) := by
  have hmessages : (detail.messages.map
      (Core.Trace.traceStepForMessage detail.provider detail.events)).filter
        (!·.isMessage) = [] := by
    refine List.filter_eq_nil_iff.mpr fun step hstep => ?_
    obtain ⟨message, -, rfl⟩ := List.mem_map.mp hstep
    exact Bool.false_ne_true
  have hothers : ((detail.events.filter isSingle).map Core.Trace.traceStepForEvent ++
      (activityGroups detail.events).entries.filterMap fun entry =>
        Core.Trace.traceStepForActivityGroup entry.2).filter (!·.isMessage) =
      (detail.events.filter isSingle).map Core.Trace.traceStepForEvent ++
        (activityGroups detail.events).entries.filterMap fun entry =>
          Core.Trace.traceStepForActivityGroup entry.2 := by
    refine List.filter_eq_self.mpr fun step hstep => ?_
    obtain ⟨lead, -, rfl⟩ := mem_bareSteps.mp (show step ∈ plainSteps (bare detail.events) by
      rw [plainSteps, List.append_assoc]
      exact List.mem_append_right _ hstep)
    unfold stepOf
    split <;> rfl
  rw [plainSteps, List.append_assoc, List.filter_append, hmessages, hothers, plainSteps,
    List.append_assoc]
  rfl

/-- **The event and activity steps of the trace that Core builds.** -/
theorem eventSteps_build (rfc3339 : DateTime → String) (iteration : IterationOrder)
    (detail : SessionDetail) (now : DateTime) (hids : (detail.events.map (·.eventId)).Nodup) :
    eventSteps (LiveProjection.sent rfc3339
        (buildSessionTraceProjection iteration detail now)).steps =
      (coreSteps detail.events).map (LiveStep.sent rfc3339) := by
  have hfilter : ∀ steps : List TraceStep, eventSteps (steps.map (LiveStep.sent rfc3339)) =
      (steps.filter (!·.isMessage)).map (LiveStep.sent rfc3339) := by
    intro steps
    rw [eventSteps, List.filter_map]
    rfl
  have hplain := filter_plainSteps detail
  have hperm : ((buildSessionTraceProjection iteration detail now).steps.filter
      (!·.isMessage)).Perm (coreSteps detail.events) :=
    ((Core.Trace.steps_perm iteration detail now).filter _).trans
      (hplain ▸ bareSteps_perm hids)
  have hsorted : ((buildSessionTraceProjection iteration detail now).steps.filter
      (!·.isMessage)).Pairwise fun a b => stepKey a ≤ stepKey b :=
    (Core.Trace.sorted_steps iteration detail now).filter _
  have hcore : (coreSteps detail.events).Pairwise fun a b => stepKey a ≤ stepKey b := by
    rw [coreSteps, List.pairwise_map]
    refine (pairwise_sortedLeads hids).imp fun h => ?_
    rw [stepKey_stepOf, stepKey_stepOf]
    exact le_of_lt h
  refine (hfilter _).trans (congrArg _ (hperm.eq_of_pairwise (fun a b ha hb hab hba => ?_) hsorted
    hcore))
  have hblock : a.blockId = b.blockId :=
    congrArg (fun key => (ofLex key).2) (le_antisymm hab hba)
  have hnodup : ((coreSteps detail.events).map (·.blockId)).Nodup :=
    (coreSteps_blocks detail.events) ▸ nodup_blocks hids
  exact List.inj_on_of_nodup_map hnodup (hperm.mem_iff.mp ha) hb hblock

/-! ## 6. What an event changes -/

/-- The step as the client gets it. -/
def sentStep (rfc3339 : DateTime → String) (events : List SessionEvent) (lead : SessionEvent) :
    LiveStep := LiveStep.sent rfc3339 (stepOf events lead)

theorem sentStep_isMessage (rfc3339 : DateTime → String) (events : List SessionEvent)
    (lead : SessionEvent) : (sentStep rfc3339 events lead).isMessage = false := by
  unfold sentStep stepOf
  split <;> rfl

variable {rfc3339 : DateTime → String} {localeCompare : String → String → Ordering}

theorem groupOf_concat (events : List SessionEvent) (event a : SessionEvent) :
    groupOf (events ++ [event]) a = groupOf events a ++
      if isActivity event = true ∧ activityKey event = activityKey a then [event] else [] := by
  rw [groupOf, List.filter_append, List.filter_append, groupOf]
  refine congrArg _ ?_
  by_cases hactivity : isActivity event = true
  · rw [List.filter_cons_of_pos hactivity, List.filter_nil, List.filter_cons, List.filter_nil]
    simp [hactivity]
  · rw [List.filter_cons_of_neg hactivity, List.filter_nil, List.filter_nil]
    simp [hactivity]

/-- A later event leaves the steps of other groups as they are. -/
theorem stepOf_concat (h : isActivity event = true → isActivity a = true →
    activityKey event ≠ activityKey a) : stepOf (events ++ [event]) a = stepOf events a := by
  unfold stepOf
  split
  · next hactivity =>
    rw [groupOf_concat, if_neg fun hboth => h hboth.1 hactivity hboth.2, List.append_nil]
  · rfl

theorem opens_concat (hmem : a ∈ events) : opens (events ++ [event]) a = opens events a := by
  unfold opens
  cases hactivity : isActivity a with
  | false => rfl
  | true =>
    have hne : groupOf events a ≠ [] := List.ne_nil_of_mem (mem_groupOf.mpr ⟨hmem, hactivity, rfl⟩)
    rw [groupOf_concat, List.head?_append_of_ne_nil _ hne]

/-- The leads, with one event more. -/
theorem leads_concat (events : List SessionEvent) (event : SessionEvent) :
    leads (events ++ [event]) =
      leads events ++ if opens (events ++ [event]) event then [event] else [] := by
  rw [leads, List.filter_append, leads]
  congr 1
  · exact List.filter_congr fun a ha => opens_concat ha
  · rw [List.filter_cons, List.filter_nil]

/-- The messages of a trace, which the client leaves as they are. -/
def PlainMessages (p : LiveProjection) : Prop :=
  ∀ step ∈ p.steps, step.isMessage = true →
    step.rawRefs = [] ∧ ∃ messageId, step.blockId = "trace:message:" ++ messageId

/-- What of the trace the rest of a run depends on. -/
structure Follows (rfc3339 : DateTime → String) (events : List SessionEvent)
    (p : LiveProjection) : Prop where
  count : p.rawEventCount = events.length
  messages : PlainMessages p
  steps : eventSteps p.steps = (sortedLeads events).map (sentStep rfc3339 events)

theorem hasReference_iff {references : List UpravaRef} {event : LiveEvent} :
    hasReference references (eventReference event) = true ↔
      ∃ scopeRef seq, UpravaRef.event event.eventId scopeRef seq ∈ references := by
  rw [hasReference, List.any_eq_true]
  constructor
  · intro ⟨reference, hmem, hsame⟩
    cases reference with
    | event eventId scopeRef seq =>
      obtain rfl : eventId = event.eventId := eq_of_beq hsame
      exact ⟨scopeRef, seq, hmem⟩
    | _ => exact absurd hsame Bool.false_ne_true
  · intro ⟨scopeRef, seq, hmem⟩
    exact ⟨_, hmem, beq_self_eq_true _⟩

/-- The raw references of a step are of events that there are. -/
theorem mem_rawRefs {lead : SessionEvent} (hlead : lead ∈ leads events) {reference : UpravaRef}
    (h : reference ∈ (sentStep rfc3339 events lead).rawRefs) :
    ∃ a ∈ events, reference = eventRef a := by
  unfold sentStep stepOf at h
  split at h
  · obtain ⟨a, ha, rfl⟩ := List.mem_map.mp h
    exact ⟨a, (mem_groupOf.mp ha).1, rfl⟩
  · exact ⟨lead, (mem_leads.mp hlead).1, List.mem_singleton.mp h⟩

/-- A new event is in no step. -/
theorem Follows.not_known {p : LiveProjection} (h : Follows rfc3339 events p)
    (hnew : ∀ a ∈ events, a.eventId ≠ event.eventId) :
    (p.steps.any fun step => hasReference step.rawRefs
      (eventReference (LiveEvent.sent rfc3339 event))) = false := by
  refine List.any_eq_false.mpr fun step hstep hhas => ?_
  obtain ⟨scopeRef, seq, hmem⟩ := hasReference_iff.mp hhas
  cases hmessage : step.isMessage with
  | true =>
    rw [(h.messages step hstep hmessage).1] at hmem
    exact List.not_mem_nil hmem
  | false =>
    have hown : step ∈ eventSteps p.steps := List.mem_filter.mpr ⟨hstep, by rw [hmessage]; rfl⟩
    rw [h.steps] at hown
    obtain ⟨lead, hlead, rfl⟩ := List.mem_map.mp hown
    obtain ⟨a, ha, heq⟩ := mem_rawRefs (mem_sortedLeads.mp hlead) hmem
    exact hnew a ha (UpravaRef.event.inj heq).1.symm

theorem kind_delta_iff (event : SessionEvent) :
    (LiveEvent.sent rfc3339 event).kind = "provider.output.delta" ↔
      event.kind = .providerOutputDelta := by
  show eventKindLabel event.kind = _ ↔ _
  cases event.kind <;> decide

theorem kind_activity_iff (event : SessionEvent) :
    (LiveEvent.sent rfc3339 event).kind = "provider.activity" ↔ isActivity event = true := by
  show eventKindLabel event.kind = _ ↔ (event.kind == .providerActivity) = true
  cases event.kind <;> decide

theorem eventSummary_sent (event : SessionEvent) :
    eventSummary (LiveEvent.sent rfc3339 event) = Core.Trace.eventSummary event := rfl

/-! ## 7. A new step -/

theorem eq_of_map_eq {α β : Type} {f : α → β} {xs ys : List α}
    (hinj : ∀ a ∈ xs, ∀ b ∈ ys, f a = f b → a = b) (h : xs.map f = ys.map f) : xs = ys := by
  induction xs generalizing ys with
  | nil => exact (List.map_eq_nil_iff.mp h.symm).symm
  | cons a xs ih =>
    obtain ⟨b, rest, rfl, hb, hrest⟩ := List.map_eq_cons_iff.mp h.symm
    obtain rfl := hinj a List.mem_cons_self b List.mem_cons_self hb.symm
    rw [ih (fun c hc d hd => hinj c (List.mem_cons_of_mem a hc) d (List.mem_cons_of_mem a hd))
      hrest.symm]

theorem compare_sentStep (events : List SessionEvent) (a b : SessionEvent) :
    compareTraceSteps localeCompare (sentStep rfc3339 events a) (sentStep rfc3339 events b) =
      compareLeads rfc3339 localeCompare a b := by
  have hstart : ∀ lead, (sentStep rfc3339 events lead).startedAt = rfc3339 lead.happenedAt :=
    fun lead => congrArg rfc3339 (stepOf_startedAt events lead)
  have hblock : ∀ lead, (sentStep rfc3339 events lead).blockId = blockOf lead :=
    fun lead => stepOf_blockId events lead
  rw [compareTraceSteps, compareLeads, compareLex, compareLex, hstart, hstart, hblock, hblock]

/-- Steps of different leads are different. -/
theorem sentStep_injOn (hids : (events.map (·.eventId)).Nodup) (ha : a ∈ leads events)
    (hb : b ∈ leads events) (h : (sentStep rfc3339 events a).blockId =
      (sentStep rfc3339 events b).blockId) : a = b := by
  refine blockOf_injOn hids ha hb ?_
  rw [← stepOf_blockId events, ← stepOf_blockId events]
  exact h

section Comparison

variable [Std.TransCmp localeCompare]

theorem transCmp_compareLeads : Std.TransCmp (compareLeads rfc3339 localeCompare) := by
  have htimes := Lib.transCmp_on localeCompare fun a : SessionEvent => rfc3339 a.happenedAt
  have hblocks := Lib.transCmp_on localeCompare blockOf
  exact inferInstanceAs (Std.TransCmp (compareLex _ _))

theorem transCmp_compareTraceSteps : Std.TransCmp (compareTraceSteps localeCompare) := by
  have htimes := Lib.transCmp_on localeCompare LiveStep.startedAt
  have hblocks := Lib.transCmp_on localeCompare LiveStep.blockId
  exact inferInstanceAs (Std.TransCmp (compareLex _ _))

/-- **The client puts a new lead where Core does** exactly when it is placed. -/
theorem sorted_iff (hids : ((events ++ [event]).map (·.eventId)).Nodup)
    (hopens : opens (events ++ [event]) event = true) :
    sortBy (compareLeads rfc3339 localeCompare) (sortedLeads events ++ [event]) =
      sortedLeads (events ++ [event]) ↔ Placed rfc3339 localeCompare events event := by
  have htrans : Std.TransCmp (compareLeads rfc3339 localeCompare) := transCmp_compareLeads
  have hleads : leads (events ++ [event]) = leads events ++ [event] := by
    rw [leads_concat, if_pos hopens]
  have hold : (events.map (·.eventId)).Nodup := hids.sublist
    ((List.sublist_append_left events [event]).map _)
  have hnotIn : event ∉ sortedLeads events := fun hmem => by
    have hnodup := nodup_leads hids
    rw [hleads] at hnodup
    exact (List.nodup_append.mp hnodup).2.2 event (mem_sortedLeads.mp hmem) event
      List.mem_cons_self rfl
  have hnodup : (sortedLeads events ++ [event]).Nodup :=
    List.nodup_append.mpr ⟨nodup_sortedLeads hold, List.nodup_singleton event,
      fun a ha b hb he => hnotIn (List.mem_singleton.mp hb ▸ he ▸ ha)⟩
  have hperm : (sortedLeads (events ++ [event])).Perm (sortedLeads events ++ [event]) := by
    refine (List.perm_insertionSort _ _).trans ?_
    rw [hleads]
    exact (List.perm_insertionSort _ _).symm.append_right [event]
  have hin : event ∈ leads (events ++ [event]) :=
    hleads ▸ List.mem_append_right _ List.mem_cons_self
  rw [Lib.sortBy_eq_iff hnodup hperm]
  -- of two leads, the one that Core has first comes first unless it is the new one
  have hbefore : ∀ {a b}, a ∈ leads (events ++ [event]) → b ∈ leads (events ++ [event]) →
      leadKey a < leadKey b → (Before (sortedLeads events ++ [event]) a b ↔ a ≠ event) := by
    intro a b ha hb hlt
    rw [hleads] at ha hb
    rw [Lib.before_concat_iff]
    constructor
    · rintro (hbefore | ⟨hmem, -⟩) rfl
      · exact hnotIn hbefore.mem.1
      · exact hnotIn hmem
    · intro hne
      have haOld : a ∈ leads events := (List.mem_append.mp ha).resolve_right fun h =>
        hne (List.mem_singleton.mp h)
      rcases List.mem_append.mp hb with hbOld | hbNew
      · exact .inl (before_sortedLeads hold haOld hbOld hlt)
      · exact .inr ⟨mem_sortedLeads.mpr haOld, List.mem_singleton.mp hbNew⟩
  constructor
  · intro h _ a ha b hb hlt
    have hrel := List.rel_of_pairwise_cons (h.sublist (before_sortedLeads hids ha hb hlt))
      List.mem_cons_self
    exact hrel.imp_right fun hboth => ⟨hboth.1, (hbefore ha hb hlt).mp hboth.2⟩
  · intro h
    refine (pairwise_sortedLeads hids).imp_of_mem fun ha hb hlt => ?_
    have ha := mem_sortedLeads.mp ha
    have hb := mem_sortedLeads.mp hb
    exact (h hin _ ha _ hb hlt).imp_right fun hboth =>
      ⟨hboth.1, (hbefore ha hb hlt).mpr hboth.2⟩

/-- The steps of other leads are sent as before. -/
theorem sentStep_concat (hopens : opens (events ++ [event]) event = true)
    (hids : ((events ++ [event]).map (·.eventId)).Nodup) (ha : a ∈ leads events) :
    sentStep rfc3339 (events ++ [event]) a = sentStep rfc3339 events a := by
  refine congrArg _ (stepOf_concat fun hactivity haActivity hkey => ?_)
  have hleads : leads (events ++ [event]) = leads events ++ [event] := by
    rw [leads_concat, if_pos hopens]
  have haNew : a ∈ leads (events ++ [event]) := hleads ▸ List.mem_append_left _ ha
  have hin : event ∈ leads (events ++ [event]) :=
    hleads ▸ List.mem_append_right _ List.mem_cons_self
  have hblock : blockOf a = blockOf event := by
    rw [blockOf, blockOf, if_pos haActivity, if_pos hactivity, hkey]
  have hnodup := nodup_leads hids
  rw [hleads] at hnodup
  exact (List.nodup_append.mp hnodup).2.2 a ha event List.mem_cons_self
    (blockOf_injOn hids haNew hin hblock)

/-- **A new step among the old ones**: it is Core's, and where Core has it. -/
theorem inserted_iff (hids : ((events ++ [event]).map (·.eventId)).Nodup)
    (hopens : opens (events ++ [event]) event = true) {new : LiveStep}
    (hblock : new.blockId = blockOf event) :
    sortBy (compareTraceSteps localeCompare)
        ((sortedLeads events).map (sentStep rfc3339 events) ++ [new]) =
      (sortedLeads (events ++ [event])).map (sentStep rfc3339 (events ++ [event])) ↔
    new = sentStep rfc3339 (events ++ [event]) event ∧
      Placed rfc3339 localeCompare events event := by
  rw [← sorted_iff hids hopens]
  have hleads : leads (events ++ [event]) = leads events ++ [event] := by
    rw [leads_concat, if_pos hopens]
  have hin : event ∈ leads (events ++ [event]) :=
    hleads ▸ List.mem_append_right _ List.mem_cons_self
  have hsame : (sortedLeads events).map (sentStep rfc3339 events) =
      (sortedLeads events).map (sentStep rfc3339 (events ++ [event])) :=
    List.map_congr_left fun a ha => (sentStep_concat hopens hids (mem_sortedLeads.mp ha)).symm
  have hsorted : new = sentStep rfc3339 (events ++ [event]) event →
      sortBy (compareTraceSteps localeCompare)
        ((sortedLeads events).map (sentStep rfc3339 events) ++ [new]) =
      (sortBy (compareLeads rfc3339 localeCompare) (sortedLeads events ++ [event])).map
        (sentStep rfc3339 (events ++ [event])) := by
    intro hnew
    have hmap := Lib.map_sortBy (sentStep rfc3339 (events ++ [event]))
      (compareTraceSteps localeCompare) (sortedLeads events ++ [event])
    simp only [compare_sentStep] at hmap
    rw [hsame, hnew, ← List.map_singleton, ← List.map_append]
    exact hmap.symm
  constructor
  · intro h
    have hmem : new ∈ (sortedLeads (events ++ [event])).map
        (sentStep rfc3339 (events ++ [event])) :=
      h ▸ Lib.mem_sortBy.mpr (List.mem_append_right _ List.mem_cons_self)
    obtain ⟨lead, hlead, hnew⟩ := List.mem_map.mp hmem
    have hleadBlock : blockOf lead = blockOf event := by
      rw [← hblock, ← hnew]
      exact (stepOf_blockId _ lead).symm
    obtain rfl := blockOf_injOn hids (mem_sortedLeads.mp hlead) hin hleadBlock
    refine ⟨hnew.symm, eq_of_map_eq (fun a ha b hb heq => ?_)
      ((hsorted hnew.symm).symm.trans h)⟩
    have ha : a ∈ leads (events ++ [lead]) := by
      rw [hleads]
      exact (List.mem_append.mp (Lib.mem_sortBy.mp ha)).elim
        (fun h => List.mem_append_left _ (mem_sortedLeads.mp h)) (List.mem_append_right _)
    exact sentStep_injOn hids ha (mem_sortedLeads.mp hb) (congrArg LiveStep.blockId heq)
  · intro ⟨hnew, hplaced⟩
    rw [hsorted hnew, hplaced]

end Comparison

theorem activityStep_summary (first last : SessionEvent) (group : List SessionEvent) :
    (activityStep first last group).summary = summaryOf (group.map Core.Trace.eventSummary) := by
  rw [activityStep, summaryOf, List.length_map]

/-- The step of a single event is Core's. -/
theorem singleStep_eq (hsingle : isSingle event = true) :
    traceStepForEvent (LiveEvent.sent rfc3339 event)
        (eventReference (LiveEvent.sent rfc3339 event)) =
      sentStep rfc3339 (events ++ [event]) event := by
  have hprecision : ∀ xs ys zs : List UpravaRef,
      (if xs.length > 0 ∨ ys.length > 0 ∨ zs.length > 0 then TracePrecision.exact else .unknown) =
        if xs.isEmpty && ys.isEmpty && zs.isEmpty then .unknown else .exact := by
    intro xs ys zs
    cases xs <;> cases ys <;> cases zs <;> rfl
  have hstep : sentStep rfc3339 (events ++ [event]) event =
      LiveStep.sent rfc3339 (Core.Trace.traceStepForEvent event) := by
    rw [sentStep, stepOf, (Core.Trace.isSingle_kind hsingle).2]
    rfl
  rw [hstep]
  exact congrArg (fun precision : TracePrecision => ({ LiveStep.sent rfc3339
    (Core.Trace.traceStepForEvent event) with precision } : LiveStep))
    (hprecision event.sourceRefs event.evidenceRefs event.causeRefs)

/-- The step of a first activity is Core's exactly when its text is. -/
theorem firstStep_iff (hactivity : isActivity event = true) (hnone : groupOf events event = []) :
    activityTraceStep (LiveEvent.sent rfc3339 event)
        (eventReference (LiveEvent.sent rfc3339 event)) =
      sentStep rfc3339 (events ++ [event]) event ↔ Told [] (Core.Trace.eventSummary event) := by
  have hgroup : groupOf (events ++ [event]) event = [event] := by
    rw [groupOf_concat, if_pos ⟨hactivity, rfl⟩, hnone, List.nil_append]
  have hstep : sentStep rfc3339 (events ++ [event]) event =
      { activityTraceStep (LiveEvent.sent rfc3339 event)
          (eventReference (LiveEvent.sent rfc3339 event)) with
        summary := summaryOf [Core.Trace.eventSummary event] } := by
    rw [sentStep, stepOf, if_pos hactivity, hgroup, List.getLast?_singleton, Option.getD_some]
    simp only [LiveStep.sent, activityStep_summary]
    simp [activityStep, activityTraceStep, traceStepForEvent, LiveEvent.sent, activityBlockId,
      activityKey, eventReference, eventRef]
  rw [hstep, ← single_iff]
  exact ⟨congrArg LiveStep.summary, fun h => by rw [← h]; rfl⟩

/-- **The step of a group with one activity more is Core's** exactly when its text is. -/
theorem extendedStep_iff {lead : SessionEvent} (hlead : isActivity lead = true)
    (hkey : activityKey event = activityKey lead) (hactivity : isActivity event = true)
    (hmem : lead ∈ events) :
    extendedStep (sentStep rfc3339 events lead) (LiveEvent.sent rfc3339 event)
        (eventReference (LiveEvent.sent rfc3339 event)) =
      sentStep rfc3339 (events ++ [event]) lead ↔
    Told ((groupOf events event).map Core.Trace.eventSummary) (Core.Trace.eventSummary event) := by
  have hgroup : groupOf (events ++ [event]) lead = groupOf events lead ++ [event] := by
    rw [groupOf_concat, if_pos ⟨hactivity, hkey⟩]
  have hne : (groupOf events lead).map Core.Trace.eventSummary ≠ [] :=
    mt List.map_eq_nil_iff.mp (List.ne_nil_of_mem (mem_groupOf.mpr ⟨hmem, hlead, rfl⟩))
  have hstep : sentStep rfc3339 (events ++ [event]) lead =
      { extendedStep (sentStep rfc3339 events lead) (LiveEvent.sent rfc3339 event)
          (eventReference (LiveEvent.sent rfc3339 event)) with
        summary := summaryOf ((groupOf events lead).map Core.Trace.eventSummary ++
          [Core.Trace.eventSummary event]) } := by
    rw [sentStep, sentStep, stepOf, stepOf, if_pos hlead, if_pos hlead, hgroup,
      List.getLast?_concat, Option.getD_some]
    simp only [LiveStep.sent, activityStep_summary, List.map_append, List.map_singleton]
    simp [activityStep, extendedStep, LiveEvent.sent, eventReference, eventRef]
  have hsummary : (extendedStep (sentStep rfc3339 events lead) (LiveEvent.sent rfc3339 event)
      (eventReference (LiveEvent.sent rfc3339 event))).summary =
      joinedSummary ((groupOf events lead).map Core.Trace.eventSummary).length
        (summaryOf ((groupOf events lead).map Core.Trace.eventSummary))
        (Core.Trace.eventSummary event) := by
    rw [extendedStep, sentStep, stepOf, if_pos hlead]
    simp only [LiveStep.sent, activityStep_summary, eventSummary_sent]
    simp [activityStep]
  rw [groupOf_congr hkey, ← joined_iff hne, ← hsummary, hstep]
  exact ⟨congrArg LiveStep.summary, fun h => by rw [← h]⟩

/-! ## 8. One event -/

/-- The count and the messages are kept; the steps are Core's exactly if `fits`. -/
structure Patched (rfc3339 : DateTime → String) (events : List SessionEvent) (fits : Prop)
    (p : LiveProjection) : Prop where
  count : p.rawEventCount = events.length
  messages : PlainMessages p
  steps : eventSteps p.steps = (sortedLeads events).map (sentStep rfc3339 events) ↔ fits

theorem eventSteps_append (xs ys : List LiveStep) :
    eventSteps (xs ++ ys) = eventSteps xs ++ eventSteps ys := List.filter_append xs ys

theorem eventSteps_singleton {step : LiveStep} (h : step.isMessage = false) :
    eventSteps [step] = [step] := by
  rw [eventSteps, List.filter_cons_of_pos (by rw [h]; rfl), List.filter_nil]

theorem eventSteps_cons {step : LiveStep} (h : step.isMessage = false) (rest : List LiveStep) :
    eventSteps (step :: rest) = step :: eventSteps rest :=
  List.filter_cons_of_pos (by rw [h]; rfl)

theorem extendedStep_isMessage (previous : LiveStep) (event : LiveEvent)
    (rawEventRef : UpravaRef) :
    (extendedStep previous event rawEventRef).isMessage = previous.isMessage := rfl

/-- An event that begins no step and is no activity changes no step. -/
theorem kept_of_delta (hdelta : event.kind = .providerOutputDelta) :
    (sortedLeads (events ++ [event])).map (sentStep rfc3339 (events ++ [event])) =
      (sortedLeads events).map (sentStep rfc3339 events) := by
  have hactivity : isActivity event = false := by rw [isActivity, hdelta]; rfl
  have hopens : opens (events ++ [event]) event = false := by
    rw [opens, isSingle, hactivity, hdelta]
    rfl
  have hleads : leads (events ++ [event]) = leads events := by
    rw [leads_concat, hopens]
    exact List.append_nil _
  rw [sortedLeads, hleads]
  refine List.map_congr_left fun lead _ => congrArg _ (stepOf_concat fun h => ?_)
  rw [hactivity] at h
  cases h

section Comparison

variable [Std.TransCmp localeCompare]

variable (localeCompare) in
/-- A new step is put among the others. -/
theorem Follows.inserted {p : LiveProjection} (h : Follows rfc3339 events p)
    (hids : ((events ++ [event]).map (·.eventId)).Nodup)
    (hopens : opens (events ++ [event]) event = true) {new : LiveStep}
    (hblock : new.blockId = blockOf event) (hmessage : new.isMessage = false) {told : Prop}
    (htold : new = sentStep rfc3339 (events ++ [event]) event ↔ told) :
    Patched rfc3339 (events ++ [event]) (told ∧ Placed rfc3339 localeCompare events event)
      (p.counted (LiveEvent.sent rfc3339 event)
        (sortBy (compareTraceSteps localeCompare) (p.steps ++ [new]))) := by
  have htrans : Std.TransCmp (compareTraceSteps localeCompare) := transCmp_compareTraceSteps
  refine ⟨?_, fun step hstep hisMessage => ?_, ?_⟩
  · rw [List.length_append, ← h.count]
    rfl
  · rcases List.mem_append.mp (Lib.mem_sortBy.mp hstep) with hold | hnew
    · exact h.messages step hold hisMessage
    · rw [List.mem_singleton.mp hnew, hmessage] at hisMessage
      cases hisMessage
  · have hfilter : eventSteps (sortBy (compareTraceSteps localeCompare) (p.steps ++ [new])) =
        sortBy (compareTraceSteps localeCompare)
          ((sortedLeads events).map (sentStep rfc3339 events) ++ [new]) := by
      rw [eventSteps, Lib.filter_sortBy, ← eventSteps, eventSteps_append, h.steps,
        eventSteps_singleton hmessage]
    rw [← htold, ← inserted_iff hids hopens hblock, ← hfilter]
    exact Iff.rfl

end Comparison

/-- The step of a group that there is: where it stands in the client's trace. -/
theorem Follows.group_step (localeCompare : String → String → Ordering) {p : LiveProjection}
    (h : Follows rfc3339 events p) (hids : (events.map (·.eventId)).Nodup)
    {lead : SessionEvent} (hlead : lead ∈ leads events)
    (hleadActivity : isActivity lead = true) (hkey : activityKey event = activityKey lead) :
    ∃ before after, p.steps = before ++ sentStep rfc3339 events lead :: after ∧
      patchActivityTrace localeCompare p (LiveEvent.sent rfc3339 event)
          (eventReference (LiveEvent.sent rfc3339 event)) =
        p.counted (LiveEvent.sent rfc3339 event)
          (before ++ extendedStep (sentStep rfc3339 events lead) (LiveEvent.sent rfc3339 event)
            (eventReference (LiveEvent.sent rfc3339 event)) :: after) := by
  have hblock : blockOf lead = activityBlockId (LiveEvent.sent rfc3339 event) := by
    rw [blockOf, if_pos hleadActivity, ← hkey]
    rfl
  have hsame : ∀ step ∈ p.steps, step.blockId = activityBlockId (LiveEvent.sent rfc3339 event) →
      step = sentStep rfc3339 events lead := by
    intro step hstep hblockId
    cases hmessage : step.isMessage with
    | true =>
      obtain ⟨messageId, hid⟩ := (h.messages step hstep hmessage).2
      exact absurd (hid.symm.trans hblockId) (Core.Trace.message_ne_activity _ _)
    | false =>
      have hown : step ∈ eventSteps p.steps := List.mem_filter.mpr ⟨hstep, by rw [hmessage]; rfl⟩
      rw [h.steps] at hown
      obtain ⟨other, hother, rfl⟩ := List.mem_map.mp hown
      have hotherBlock : blockOf other = blockOf lead :=
        (stepOf_blockId events other).symm.trans (hblockId.trans hblock.symm)
      rw [blockOf_injOn hids (mem_sortedLeads.mp hother) hlead hotherBlock]
  have hin : sentStep rfc3339 events lead ∈ p.steps := by
    have hmem : sentStep rfc3339 events lead ∈ eventSteps p.steps := by
      rw [h.steps]
      exact List.mem_map_of_mem (mem_sortedLeads.mpr hlead)
    exact List.mem_of_mem_filter hmem
  have hleadBlock : (sentStep rfc3339 events lead).blockId =
      activityBlockId (LiveEvent.sent rfc3339 event) :=
    (stepOf_blockId events lead).trans hblock
  have hany : (p.steps.any (·.blockId == activityBlockId (LiveEvent.sent rfc3339 event))) = true :=
    List.any_eq_true.mpr ⟨_, hin, beq_iff_eq.mpr hleadBlock⟩
  obtain ⟨index, hindex⟩ := Option.isSome_iff_exists.mp (List.findIdx?_isSome.trans hany)
  obtain ⟨hlt, hat, -⟩ := List.findIdx?_eq_some_iff_getElem.mp hindex
  have hstep := hsame _ (List.getElem_mem hlt) (beq_iff_eq.mp hat)
  refine ⟨p.steps.take index, p.steps.drop (index + 1), ?_, ?_⟩
  · rw [← hstep, List.getElem_cons_drop, List.take_append_drop]
  · unfold patchActivityTrace
    rw [hindex]
    dsimp only
    rw [List.getElem?_eq_getElem hlt]
    dsimp only
    rw [List.set_eq_take_append_cons_drop, if_pos hlt, hstep]

variable (localeCompare) in
/-- The step of a group takes the event. -/
theorem Follows.extended {p : LiveProjection} (h : Follows rfc3339 events p)
    (hids : ((events ++ [event]).map (·.eventId)).Nodup) (hactivity : isActivity event = true)
    {lead : SessionEvent} (hlead : lead ∈ leads events) (hleadActivity : isActivity lead = true)
    (hkey : activityKey event = activityKey lead)
    (hopens : opens (events ++ [event]) event = false) :
    Patched rfc3339 (events ++ [event])
      (Told ((groupOf events event).map Core.Trace.eventSummary) (Core.Trace.eventSummary event))
      (patchActivityTrace localeCompare p (LiveEvent.sent rfc3339 event)
        (eventReference (LiveEvent.sent rfc3339 event))) := by
  have hold : (events.map (·.eventId)).Nodup := hids.sublist
    ((List.sublist_append_left events [event]).map _)
  obtain ⟨before, after, hsteps, hpatch⟩ :=
    h.group_step localeCompare hold hlead hleadActivity hkey
  have hmessage := sentStep_isMessage rfc3339 events lead
  have hplain : ∀ step ∈ before ++ after, step ∈ p.steps := by
    intro step hstep
    rw [hsteps]
    exact (List.mem_append.mp hstep).elim (List.mem_append_left _)
      fun hafter => List.mem_append_right _ (List.mem_cons_of_mem _ hafter)
  rw [hpatch]
  refine ⟨?_, fun step hstep hisMessage => ?_, ?_⟩
  · rw [List.length_append, ← h.count]
    rfl
  · rcases List.mem_append.mp hstep with hbefore | hrest
    · exact h.messages step (hplain step (List.mem_append_left _ hbefore)) hisMessage
    · rcases List.mem_cons.mp hrest with rfl | hafter
      · exact absurd (hmessage.symm.trans hisMessage) Bool.false_ne_true
      · exact h.messages step (hplain step (List.mem_append_right _ hafter)) hisMessage
  · have hleads : sortedLeads (events ++ [event]) = sortedLeads events := by
      rw [sortedLeads, leads_concat, hopens]
      simp only [Bool.false_eq_true, if_false, List.append_nil]
      rfl
    -- the leads, split at the one of the group
    have hmap : (sortedLeads events).map (sentStep rfc3339 events) =
        eventSteps before ++ sentStep rfc3339 events lead :: eventSteps after := by
      rw [← h.steps, hsteps, eventSteps_append, eventSteps_cons hmessage]
    obtain ⟨first, rest, hsplit, hfirst, hrest⟩ := List.map_eq_append_iff.mp hmap
    obtain ⟨lead', last, rfl, hlead', hlast⟩ := List.map_eq_cons_iff.mp hrest
    have hmem : ∀ {a}, a ∈ first ++ lead' :: last → a ∈ leads events := fun ha =>
      mem_sortedLeads.mp (hsplit ▸ ha)
    obtain rfl : lead' = lead := sentStep_injOn hold
      (hmem (List.mem_append_right _ List.mem_cons_self)) hlead (congrArg LiveStep.blockId hlead')
    have hnodup : (first ++ lead' :: last).Nodup := hsplit ▸ nodup_sortedLeads hold
    have hothers : ∀ a ∈ first ++ last, sentStep rfc3339 (events ++ [event]) a =
        sentStep rfc3339 events a := by
      intro a ha
      have hin : a ∈ first ++ lead' :: last := (List.mem_append.mp ha).elim
        (List.mem_append_left _) fun h => List.mem_append_right _ (List.mem_cons_of_mem _ h)
      refine congrArg _ (stepOf_concat fun _ haActivity haKey => ?_)
      have hblock : blockOf a = blockOf lead' := by
        rw [blockOf, blockOf, if_pos haActivity, if_pos hleadActivity, ← haKey, hkey]
      obtain rfl := blockOf_injOn hold (hmem hin) hlead hblock
      exact (List.nodup_middle.mp hnodup).notMem ha
    have hnew : (sortedLeads (events ++ [event])).map (sentStep rfc3339 (events ++ [event])) =
        eventSteps before ++ sentStep rfc3339 (events ++ [event]) lead' :: eventSteps after := by
      rw [hleads, hsplit, List.map_append, List.map_cons, ← hfirst, ← hlast,
        List.map_congr_left fun a ha => hothers a (List.mem_append_left _ ha),
        List.map_congr_left fun a ha => hothers a (List.mem_append_right _ ha)]
    rw [hnew, ← extendedStep_iff hleadActivity hkey hactivity (mem_leads.mp hlead).1]
    show eventSteps (before ++ _ :: after) = _ ↔ _
    rw [eventSteps_append, eventSteps_cons ((extendedStep_isMessage _ _ _).trans hmessage)]
    constructor
    · exact fun he => (List.cons.inj (List.append_cancel_left he)).1
    · exact fun he => by rw [he]

/-- A first activity gets a step of its own. -/
theorem Follows.first_step {p : LiveProjection} (h : Follows rfc3339 events p)
    (hnone : groupOf events event = []) :
    patchActivityTrace localeCompare p (LiveEvent.sent rfc3339 event)
        (eventReference (LiveEvent.sent rfc3339 event)) =
      p.counted (LiveEvent.sent rfc3339 event)
        (sortBy (compareTraceSteps localeCompare) (p.steps ++
          [activityTraceStep (LiveEvent.sent rfc3339 event)
            (eventReference (LiveEvent.sent rfc3339 event))])) := by
  have hnoStep : p.steps.findIdx? (·.blockId == activityBlockId (LiveEvent.sent rfc3339 event)) =
      none := by
    refine List.findIdx?_eq_none_iff.mpr fun step hstep => beq_eq_false_iff_ne.mpr fun hblock => ?_
    cases hmessage : step.isMessage with
    | true =>
      obtain ⟨messageId, hid⟩ := (h.messages step hstep hmessage).2
      exact absurd (hid.symm.trans hblock) (Core.Trace.message_ne_activity _ _)
    | false =>
      have hown : step ∈ eventSteps p.steps := List.mem_filter.mpr ⟨hstep, by rw [hmessage]; rfl⟩
      rw [h.steps] at hown
      obtain ⟨lead, hlead, rfl⟩ := List.mem_map.mp hown
      have hleadBlock : blockOf lead = "trace:activity:" ++ activityKey event :=
        (stepOf_blockId events lead).symm.trans hblock
      obtain ⟨hmem, hsingle | ⟨hleadActivity, -⟩⟩ := mem_leads.mp (mem_sortedLeads.mp hlead)
      · rw [blockOf, (Core.Trace.isSingle_kind hsingle).2] at hleadBlock
        exact absurd hleadBlock (Core.Trace.event_ne_activity _ _)
      · rw [blockOf, if_pos hleadActivity] at hleadBlock
        have hin : lead ∈ groupOf events event := mem_groupOf.mpr
          ⟨hmem, hleadActivity, (String.append_right_inj "trace:activity:").mp hleadBlock⟩
        rw [hnone] at hin
        cases hin
  unfold patchActivityTrace
  rw [hnoStep]

theorem placed_of_not_opens (h : opens (events ++ [event]) event = false) :
    Placed rfc3339 localeCompare events event := by
  intro hmem
  rw [leads, List.mem_filter, h] at hmem
  exact absurd hmem.2 Bool.false_ne_true

section Comparison

variable [Std.TransCmp localeCompare]

variable (localeCompare) in
/-- **What one event does to the client's trace**: it is still Core's exactly if the event fits. -/
theorem Follows.step {p : LiveProjection} (h : Follows rfc3339 events p)
    (hids : ((events ++ [event]).map (·.eventId)).Nodup) :
    ∃ p', patchTraceProjection localeCompare (some p) (LiveEvent.sent rfc3339 event) = some p' ∧
      Patched rfc3339 (events ++ [event]) (Fits rfc3339 localeCompare events event) p' := by
  have hnew : ∀ a ∈ events, a.eventId ≠ event.eventId := by
    intro a ha he
    rw [List.map_append, List.nodup_append] at hids
    exact hids.2.2 _ (List.mem_map_of_mem ha) _ List.mem_cons_self he
  unfold patchTraceProjection
  dsimp only
  rw [h.not_known hnew, if_neg Bool.false_ne_true]
  by_cases hdelta : event.kind = .providerOutputDelta
  · rw [if_pos ((kind_delta_iff event).mpr hdelta)]
    refine ⟨_, rfl, ?_, h.messages, ?_⟩
    · rw [List.length_append, ← h.count]
      rfl
    · have hactivity : isActivity event = false := by rw [isActivity, hdelta]; rfl
      have hopens : opens (events ++ [event]) event = false := by
        rw [opens, isSingle, hactivity, hdelta]
        rfl
      rw [kept_of_delta hdelta]
      refine iff_of_true h.steps ⟨fun hthis => ?_, placed_of_not_opens hopens⟩
      exact absurd (hactivity.symm.trans hthis) Bool.false_ne_true
  rw [if_neg (mt (kind_delta_iff event).mp hdelta)]
  by_cases hactivity : isActivity event = true
  · rw [if_pos ((kind_activity_iff event).mpr hactivity)]
    cases hgroup : groupOf events event with
    | nil =>
      have hhead : (groupOf (events ++ [event]) event).head? = some event := by
        rw [groupOf_concat, hgroup, if_pos ⟨hactivity, rfl⟩]
        rfl
      have hopens : opens (events ++ [event]) event = true := by
        rw [opens, hactivity, hhead, beq_self_eq_true]
        exact Bool.or_true _
      have hblock : (activityTraceStep (LiveEvent.sent rfc3339 event)
          (eventReference (LiveEvent.sent rfc3339 event))).blockId = blockOf event := by
        rw [blockOf, if_pos hactivity]
        rfl
      refine ⟨_, congrArg some (h.first_step hgroup), ?_⟩
      have hinserted := h.inserted localeCompare hids hopens hblock rfl
        (firstStep_iff hactivity hgroup)
      refine ⟨hinserted.count, hinserted.messages, hinserted.steps.trans ?_⟩
      exact ⟨fun hboth => ⟨fun _ => by rw [hgroup]; exact hboth.1, hboth.2⟩,
        fun hfits => ⟨by have := hfits.told hactivity; rwa [hgroup] at this, hfits.placed⟩⟩
    | cons lead rest =>
      have hleadMem : lead ∈ groupOf events event := hgroup ▸ List.mem_cons_self
      obtain ⟨hmem, hleadActivity, hkey⟩ := mem_groupOf.mp hleadMem
      have hlead : lead ∈ leads events := mem_leads.mpr ⟨hmem, .inr ⟨hleadActivity, by
        rw [groupOf_congr hkey, hgroup]
        rfl⟩⟩
      have hopens : opens (events ++ [event]) event = false := by
        have hhead : (groupOf (events ++ [event]) event).head? = some lead := by
          rw [groupOf_concat, hgroup]
          rfl
        have hne : lead ≠ event := fun he => hnew lead hmem (congrArg _ he)
        rw [opens, hhead, isSingle, hactivity]
        simpa using hne
      refine ⟨_, rfl, ?_⟩
      have hextended := h.extended localeCompare hids hactivity hlead hleadActivity hkey.symm
        hopens
      refine ⟨hextended.count, hextended.messages, hextended.steps.trans ?_⟩
      exact ⟨fun htold => ⟨fun _ => htold, placed_of_not_opens hopens⟩,
        fun hfits => hfits.told hactivity⟩
  · rw [if_neg (mt (kind_activity_iff event).mp hactivity)]
    have hnot : isActivity event = false := Bool.eq_false_iff.mpr hactivity
    have hsingle := isSingle_of_not_activity hnot hdelta
    have hopens : opens (events ++ [event]) event = true := by
      rw [opens, hsingle]
      rfl
    have hblock : (traceStepForEvent (LiveEvent.sent rfc3339 event)
        (eventReference (LiveEvent.sent rfc3339 event))).blockId = blockOf event := by
      rw [blockOf, hnot]
      rfl
    refine ⟨_, rfl, ?_⟩
    have hinserted := h.inserted localeCompare hids hopens hblock rfl
      (iff_true_intro (singleStep_eq hsingle))
    refine ⟨hinserted.count, hinserted.messages, hinserted.steps.trans ?_⟩
    exact ⟨fun hboth => ⟨fun hthis => absurd hthis hactivity, hboth.2⟩,
      fun hfits => ⟨trivial, hfits.placed⟩⟩

/-! ## 9. A run -/

/-- The client's trace has the steps and the count of these events. -/
def Shows (rfc3339 : DateTime → String) (events : List SessionEvent)
    (live : Option LiveProjection) : Prop :=
  ∃ p, live = some p ∧
    eventSteps p.steps = (sortedLeads events).map (sentStep rfc3339 events) ∧
    p.rawEventCount = events.length

/-- **A run from a trace that follows Core** shows Core's steps throughout exactly if each event
    fits. -/
theorem Follows.run_iff {later : List SessionEvent} {p : LiveProjection}
    (h : Follows rfc3339 events p) (hids : ((events ++ later).map (·.eventId)).Nodup) :
    (∀ seen, seen <+: later → Shows rfc3339 (events ++ seen)
      ((seen.map (LiveEvent.sent rfc3339)).foldl (patchTraceProjection localeCompare) (some p))) ↔
      FitAll rfc3339 localeCompare events later := by
  induction later generalizing events p with
  | nil =>
    refine iff_of_true (fun seen hseen => ?_) trivial
    obtain rfl := List.prefix_nil.mp hseen
    rw [List.append_nil]
    exact ⟨p, rfl, h.steps, h.count⟩
  | cons event later ih =>
    have hall : events ++ event :: later = (events ++ [event]) ++ later := by simp
    rw [hall] at hids
    obtain ⟨p', hp', hpatched⟩ := h.step localeCompare
      (hids.sublist ((List.sublist_append_left _ later).map _))
    constructor
    · intro hshows
      obtain ⟨q, hq, hsteps, -⟩ := hshows [event] ⟨later, rfl⟩
      rw [List.map_singleton, List.foldl_cons, List.foldl_nil, hp'] at hq
      obtain rfl := Option.some.inj hq
      refine ⟨hpatched.steps.mp hsteps, (ih ⟨hpatched.count, hpatched.messages, hsteps⟩ hids).mp
        fun seen hseen => ?_⟩
      have hthis := hshows (event :: seen) (List.cons_prefix_cons.mpr ⟨rfl, hseen⟩)
      rw [List.map_cons, List.foldl_cons, hp'] at hthis
      rwa [List.append_assoc]
    · intro ⟨hfits, hrest⟩ seen hseen
      cases seen with
      | nil =>
        rw [List.append_nil]
        exact ⟨p, rfl, h.steps, h.count⟩
      | cons first seen =>
        obtain ⟨rfl, hrestSeen⟩ := List.cons_prefix_cons.mp hseen
        have hthis := (ih ⟨hpatched.count, hpatched.messages, hpatched.steps.mpr hfits⟩ hids).mpr
          hrest seen hrestSeen
        rw [List.append_assoc] at hthis
        rw [List.map_cons, List.foldl_cons, hp']
        exact hthis

end Comparison

theorem map_sentStep (events : List SessionEvent) :
    (coreSteps events).map (LiveStep.sent rfc3339) =
      (sortedLeads events).map (sentStep rfc3339 events) := by
  rw [coreSteps, List.map_map]
  rfl

/-- The trace that Core sends is one to start from. -/
theorem follows_build (iteration : IterationOrder) (detail : SessionDetail) (now : DateTime)
    (hids : (detail.events.map (·.eventId)).Nodup) :
    Follows rfc3339 detail.events
      (LiveProjection.sent rfc3339 (buildSessionTraceProjection iteration detail now)) := by
  refine ⟨rfl, fun step hstep hmessage => ?_, ?_⟩
  · obtain ⟨own, hown, rfl⟩ := List.mem_map.mp hstep
    have hplain := (Core.Trace.steps_perm iteration detail now).mem_iff.mp hown
    rcases Core.Trace.mem_plainSteps.mp hplain with ⟨message, -, rfl⟩ | ⟨single, -, -, rfl⟩ |
      ⟨_, _, _, _, -, -, -, -, rfl⟩
    · exact ⟨rfl, message.messageId, rfl⟩
    · exact absurd hmessage Bool.false_ne_true
    · exact absurd hmessage Bool.false_ne_true
  · rw [eventSteps_build rfc3339 iteration detail now hids, map_sentStep]

/-- The client's trace is the one that Core builds of these events. -/
theorem sameTrace_iff (iteration : IterationOrder) (final : SessionDetail) (now : DateTime)
    (hids : (final.events.map (·.eventId)).Nodup) (live : Option LiveProjection) :
    SameTrace live (LiveProjection.sent rfc3339 (buildSessionTraceProjection iteration final now)) ↔
      Shows rfc3339 final.events live := by
  rw [SameTrace, eventSteps_build rfc3339 iteration final now hids, map_sentStep]
  exact Iff.rfl

/-- **The client's trace is Core's after each event of a run exactly if each event fits.** -/
theorem live_trace_iff (rfc3339 : DateTime → String) (localeCompare : String → String → Ordering)
    [Std.TransCmp localeCompare] (detail : SessionDetail) (later : List SessionEvent)
    (hids : ((detail.events ++ later).map (·.eventId)).Nodup) :
    (∀ seen, seen <+: later → ∀ (final : SessionDetail), final.events = detail.events ++ seen →
      ∀ iteration now iteration' now', SameTrace
        (patched localeCompare rfc3339 (buildSessionTraceProjection iteration detail now) seen)
        (LiveProjection.sent rfc3339 (buildSessionTraceProjection iteration' final now'))) ↔
      FitAll rfc3339 localeCompare detail.events later := by
  have hstart : (detail.events.map (·.eventId)).Nodup :=
    hids.sublist ((List.sublist_append_left _ later).map _)
  have hseen : ∀ {seen}, seen <+: later → ((detail.events ++ seen).map (·.eventId)).Nodup :=
    fun hpart => hids.sublist ((hpart.sublist.append_left _).map _)
  constructor
  · intro h
    refine ((follows_build .plain detail 0 hstart).run_iff hids).mp fun seen hpart => ?_
    exact (sameTrace_iff .plain { bare (detail.events ++ seen) with } 0 (hseen hpart) _).mp
      (h seen hpart _ rfl .plain 0 .plain 0)
  · intro h seen hpart final hfinal iteration now iteration' now'
    have hshows := ((follows_build iteration detail now hstart).run_iff hids).mpr h seen hpart
    rw [← hfinal] at hshows
    exact (sameTrace_iff iteration' final now' (hfinal ▸ hseen hpart) _).mpr hshows

/-! ## 10. Examples -/

/-- The times of the runs below, as they are sent. -/
def minuteText (time : DateTime) : String :=
  if time = 0 then "2026-01-01T00:00:00Z" else "2026-01-01T00:01:00Z"

/-- An event of the turn. -/
def turnEvent (eventId : EventId) (seq : Int64) (kind : EventKind) (happenedAt : DateTime)
    (summary : String) : SessionEvent where
  eventId
  actorRef := .provider "codex"
  scopeRef := .session "session-1"
  runtimeSessionId := some "runtime-1"
  sessionThreadId := some "session-1"
  turnId := some "turn-1"
  seq
  kind
  happenedAt
  sourceRefs := []
  evidenceRefs := []
  causeRefs := []
  resultRefs := []
  payload := .ofFields [("summary", .string summary)]

def activeTurn : List SessionEvent := [turnEvent "event-1" 1 .providerActivity 0 "reads"]

def endOfTurn : List SessionEvent :=
  [turnEvent "event-2" 2 .providerActivity 0 "writes", turnEvent "event-3" 3 .turnCompleted 60 "ok"]

/-- One more activity and the end of its turn. -/
theorem end_of_turn_same : SameTrace
    (patched compare minuteText (buildSessionTraceProjection .plain (bare activeTurn) 0) endOfTurn)
    (LiveProjection.sent minuteText
      (buildSessionTraceProjection .plain (bare (activeTurn ++ endOfTurn)) 60)) :=
  (live_trace_iff minuteText compare (bare activeTurn) endOfTurn (by decide)).mpr
    ⟨⟨by decide, by decide⟩, ⟨by decide, by decide⟩, trivial⟩ endOfTurn (List.prefix_refl _)
    (bare (activeTurn ++ endOfTurn)) rfl .plain 0 .plain 60

def silentActivity : SessionEvent := turnEvent "event-1" 1 .providerActivity 0 ""

/-- **An activity without text**: Core counts it, and the client shows nothing. -/
theorem silent_activity_differs :
    ¬ SameTrace
      (patched compare minuteText (buildSessionTraceProjection .plain (bare []) 0) [silentActivity])
      (LiveProjection.sent minuteText
        (buildSessionTraceProjection .plain (bare [silentActivity]) 0)) := by
  intro h
  have hshows := (sameTrace_iff .plain (bare [silentActivity]) 0 (by decide) _).mp h
  have hfollows : Follows minuteText [] (LiveProjection.sent minuteText
      (buildSessionTraceProjection .plain (bare []) 0)) :=
    follows_build .plain (bare []) 0 List.nodup_nil
  have hids : (([] ++ [silentActivity]).map SessionEvent.eventId).Nodup := by decide
  obtain ⟨p', hp', hpatched⟩ := hfollows.step compare hids
  obtain ⟨q, hq, hsteps, -⟩ := hshows
  obtain rfl := Option.some.inj (hp'.symm.trans hq)
  have htold := (hpatched.steps.mp hsteps).told rfl
  exact absurd htold (by decide)

end Uprava.Web.LiveTrace
