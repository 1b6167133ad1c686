/-
  File:      Uprava/Core/Trace.lean
  Subject:   The trace of a session: its steps, made of the messages, of the single events and of
             the groups of provider activities.

  A group is keyed by the turn of its events, and an event without a turn by its own id; both are
  texts in one map. A group takes its times from its first and its last event, in the order in which
  Core numbered them. **`trace_partition_iff`** says when this does no harm.
-/
import Uprava.Core.Deductions
import Uprava.Lib.Groups
import Uprava.Protocol.References
import Mathlib.Data.Prod.Lex
import Mathlib.Data.String.Basic

namespace Uprava.Core.Trace

open Uprava.Protocol
open Uprava.Lib (OrderedMap)

/-! ## 1. The session -/

inductive MessageRole where
  | user | assistant | system | runtime | approval
  deriving DecidableEq

structure Message where
  messageId : MessageId
  sessionThreadId : SessionThreadId
  turnId : Option TurnId
  role : MessageRole
  content : String
  createdAt : DateTime
  completedAt : Option DateTime
  sourceEventId : Option EventId
  deriving DecidableEq

/-- An event with its references; `payload` is its JSON value. -/
structure SessionEvent where
  eventId : EventId
  actorRef : ActorRef
  scopeRef : ScopeRef
  runtimeSessionId : Option RuntimeSessionId
  sessionThreadId : Option SessionThreadId
  turnId : Option TurnId
  seq : Int64
  kind : EventKind
  happenedAt : DateTime
  sourceRefs : List UpravaRef
  evidenceRefs : List UpravaRef
  causeRefs : List UpravaRef
  resultRefs : List UpravaRef
  payload : JsonValue
  deriving DecidableEq

/-- What a trace reads of a session. -/
structure SessionDetail where
  sessionThreadId : SessionThreadId
  runtimeSessionId : RuntimeSessionId
  provider : String
  placementId : ProjectPlacementId
  messages : List Message
  events : List SessionEvent
  deriving DecidableEq

/-! ## 2. The steps -/

structure TraceStep where
  blockId : BlockId
  title : String
  summary : String
  actorRef : ActorRef
  startedAt : DateTime
  completedAt : Option DateTime
  precision : TracePrecision
  primaryRef : UpravaRef
  links : CausalityLinks
  deriving DecidableEq

def eventRef (event : SessionEvent) : UpravaRef := .event event.eventId event.scopeRef event.seq

def eventKindLabel : EventKind → String
  | .runtimeStarting => "runtime.starting"
  | .runtimeReady => "runtime.ready"
  | .runtimeRunning => "runtime.running"
  | .runtimeBlocked => "runtime.blocked"
  | .runtimeExpired => "runtime.expired"
  | .runtimeResuming => "runtime.resuming"
  | .runtimeStopped => "runtime.stopped"
  | .runtimeError => "runtime.error"
  | .turnStarted => "turn.started"
  | .turnCompleted => "turn.completed"
  | .turnInterrupted => "turn.interrupted"
  | .providerActivity => "provider.activity"
  | .providerOutputDelta => "provider.output.delta"
  | .providerMessageCompleted => "provider.message.completed"
  | .approvalRequested => "approval.requested"
  | .approvalResolved => "approval.resolved"
  | .coordinationWarningAcknowledged => "coordination.warning_acknowledged"
  | .workspaceValidated => "workspace.validated"
  | .resourceSnapshotUpdated => "resource.snapshot.updated"
  | .workspaceFileWritten => "workspace.file.written"
  | .workspaceCommandCompleted => "workspace.command.completed"
  | .workspaceCheckCompleted => "workspace.check.completed"
  | .workspaceDiffObserved => "workspace.diff.observed"
  | .deductionRequested => "deduction.requested"
  | .deductionCompleted => "deduction.completed"
  | .deductionInvalid => "deduction.invalid"
  | .deductionFailed => "deduction.failed"
  | .deductionCancelled => "deduction.cancelled"
  | .taskRunStateChanged => "task_run.state_changed"
  | .extension => "extension"

/-- The first of the keys whose entry is a text, or the kind. -/
def eventSummary (event : SessionEvent) : String :=
  match ["summary", "message", "content", "prompt", "question"].findSome? fun key =>
      (event.payload.get key).bind Lib.JsonValue.asStr with
  | some value => truncateChars value 500
  | none => eventKindLabel event.kind

def messageSourceRefs (message : Message) (events : List SessionEvent) : List UpravaRef :=
  match message.sourceEventId with
  | none => []
  | some sourceEventId =>
    match events.find? (·.eventId == sourceEventId) with
    | some event => [eventRef event]
    | none => [.event sourceEventId (.session message.sessionThreadId) 0]

def messageRoleText : MessageRole → String
  | .user => "User"
  | .assistant => "Assistant"
  | .system => "System"
  | .runtime => "Runtime"
  | .approval => "Approval"

def traceStepForMessage (provider : String) (events : List SessionEvent) (message : Message) :
    TraceStep :=
  let sourceRefs := messageSourceRefs message events
  { blockId := "trace:message:" ++ message.messageId
    title := messageRoleText message.role ++ " message"
    summary := truncateChars message.content 500
    actorRef := match message.role with
      | .user => .localUser none
      | .assistant => .provider provider
      | _ => .system
    startedAt := message.createdAt
    completedAt := message.completedAt
    precision := if sourceRefs.isEmpty then .unknown else .exact
    primaryRef := .message message.messageId
    links := {
      sourceRefs
      causeRefs := (message.turnId.map fun turnId => [UpravaRef.turn turnId]).getD [] } }

def traceStepForEvent (event : SessionEvent) : TraceStep where
  blockId := "trace:event:" ++ event.eventId
  title := eventKindLabel event.kind
  summary := eventSummary event
  actorRef := event.actorRef
  startedAt := event.happenedAt
  completedAt := some event.happenedAt
  precision :=
    if event.sourceRefs.isEmpty && event.evidenceRefs.isEmpty && event.causeRefs.isEmpty then
      .unknown
    else .exact
  primaryRef := eventRef event
  links := {
    sourceRefs := event.sourceRefs
    evidenceRefs := event.evidenceRefs
    causeRefs := event.causeRefs
    resultRefs := event.resultRefs
    rawRefs := [eventRef event] }

/-- The key of a provider activity: its turn, or its own id. -/
def activityKey (event : SessionEvent) : String := event.turnId.getD event.eventId

/-- The step of the activities from the first to the last. -/
def activityStep (first last : SessionEvent) (events : List SessionEvent) : TraceStep :=
  let summaries := ((events.map eventSummary).filter (· ≠ "")).take 4
  { blockId := "trace:activity:" ++ activityKey first
    title := "Provider activity"
    summary := if summaries.isEmpty then toString events.length ++ " provider events"
      else "; ".intercalate summaries
    actorRef := first.actorRef
    startedAt := first.happenedAt
    completedAt := some last.happenedAt
    precision := .coarse
    primaryRef := eventRef first
    links := {
      sourceRefs := events.flatMap (·.sourceRefs)
      evidenceRefs := events.flatMap (·.evidenceRefs)
      causeRefs := events.flatMap (·.causeRefs)
      resultRefs := events.flatMap (·.resultRefs)
      rawRefs := events.map eventRef } }

def traceStepForActivityGroup (events : List SessionEvent) : Option TraceStep :=
  match events.head?, events.getLast? with
  | some first, some last => some (activityStep first last events)
  | _, _ => none

/-! ## 3. The trace -/

def isActivity (event : SessionEvent) : Bool := event.kind == .providerActivity

def isSingle (event : SessionEvent) : Bool :=
  event.kind != .providerOutputDelta && !isActivity event

/-- The map of the groups. -/
def activityGroups (events : List SessionEvent) : OrderedMap String (List SessionEvent) :=
  OrderedMap.collect activityKey (fun _ => []) (fun group event => group ++ [event])
    (events.filter isActivity)

/-- The order in which a hash map hands out its values. -/
structure IterationOrder where
  order : List (List SessionEvent) → List (List SessionEvent)
  perm : ∀ groups, (order groups).Perm groups

structure SessionTraceProjection where
  sessionThreadId : SessionThreadId
  precision : TracePrecision
  steps : List TraceStep
  rawEventCount : Nat
  generatedAt : DateTime
  deriving DecidableEq

/-- The key the steps are sorted by. -/
def stepKey (step : TraceStep) : DateTime ×ₗ BlockId := toLex (step.startedAt, step.blockId)

/-- The steps as they are pushed: the messages, the single events, the groups. -/
def pushedSteps (iteration : IterationOrder) (detail : SessionDetail) : List TraceStep :=
  detail.messages.map (traceStepForMessage detail.provider detail.events) ++
    (detail.events.filter isSingle).map traceStepForEvent ++
    (iteration.order ((activityGroups detail.events).entries.map Prod.snd)).filterMap
      traceStepForActivityGroup

def buildSessionTraceProjection (iteration : IterationOrder) (detail : SessionDetail)
    (now : DateTime) : SessionTraceProjection where
  sessionThreadId := detail.sessionThreadId
  precision := .coarse
  steps := (pushedSteps iteration detail).insertionSort fun left right =>
    stepKey left ≤ stepKey right
  rawEventCount := detail.events.length
  generatedAt := now

/-! ## 4. What is asked of a trace -/

/-- A step of a message; the others are steps of events. -/
def TraceStep.isMessage (step : TraceStep) : Bool :=
  match step.primaryRef with
  | .message _ => true
  | _ => false

/-- The event is among the raw references of the step. -/
def TraceStep.Has (step : TraceStep) (event : SessionEvent) : Prop :=
  eventRef event ∈ step.links.rawRefs

instance (step : TraceStep) (event : SessionEvent) : Decidable (step.Has event) :=
  inferInstanceAs (Decidable (_ ∈ _))

/-- The step is one of an event, and has this one. -/
def Holds (e : SessionEvent) (step : TraceStep) : Bool := !step.isMessage && decide (step.Has e)

/-- The two events are of one turn. -/
def SameTurn (e e' : SessionEvent) : Prop :=
  ∃ turnId, e.turnId = some turnId ∧ e'.turnId = some turnId

/-- **The steps are a partition of the events**: each event but the deltas is in one step that is
    not a message's; two activities share a step exactly when they are of one turn; the blocks are
    different, in order, and end no earlier than they start. -/
structure Partition (detail : SessionDetail) (steps : List TraceStep) : Prop where
  covered : ∀ e ∈ detail.events, e.kind ≠ .providerOutputDelta → steps.countP (Holds e) = 1
  shared : detail.events.Pairwise fun e e' => isActivity e = true → isActivity e' = true →
    ((∃ step ∈ steps, step.Has e ∧ step.Has e') ↔ SameTurn e e')
  blocks : (steps.map (·.blockId)).Nodup
  sorted : steps.Pairwise fun a b => stepKey a ≤ stepKey b
  times : ∀ step ∈ steps, ∀ completedAt, step.completedAt = some completedAt →
    step.startedAt ≤ completedAt

/-- The activities of a turn, in Core's order. -/
def activitiesOf (events : List SessionEvent) (turnId : TurnId) : List SessionEvent :=
  events.filter fun e => isActivity e && decide (e.turnId = some turnId)

/-- The activities with one key are of one turn: no activity without a turn has the turn or the id
    of another as its own id. -/
def Apart (events : List SessionEvent) : Prop :=
  events.Pairwise fun e e' => isActivity e = true → isActivity e' = true →
    activityKey e = activityKey e' → SameTurn e e'

/-- **When the trace is a partition.** The first three fields hold of any session of Core, where
    messages and events have keys of their own. -/
structure Orderly (detail : SessionDetail) : Prop where
  messageIds : (detail.messages.map (·.messageId)).Nodup
  singleIds : ((detail.events.filter isSingle).map (·.eventId)).Nodup
  refs : detail.events.Pairwise fun e e' => e.kind ≠ .providerOutputDelta →
    e'.kind ≠ .providerOutputDelta → eventRef e = eventRef e' →
      isActivity e = true ∧ isActivity e' = true ∧ SameTurn e e'
  apart : Apart detail.events
  /-- No turn's last activity happened before its first. -/
  turns : ∀ turnId first last, (activitiesOf detail.events turnId).head? = some first →
    (activitiesOf detail.events turnId).getLast? = some last → first.happenedAt ≤ last.happenedAt
  /-- No message was completed before it was created. -/
  messages : ∀ message ∈ detail.messages, ∀ completedAt, message.completedAt = some completedAt →
    message.createdAt ≤ completedAt

/-! ## 5. The groups -/

variable {detail : SessionDetail} {iteration : IterationOrder} {now : DateTime}

theorem foldl_snoc (xs acc : List SessionEvent) :
    xs.foldl (fun group event => group ++ [event]) acc = acc ++ xs := by
  induction xs generalizing acc with
  | nil => rw [List.foldl_nil, List.append_nil]
  | cons x xs ih => rw [List.foldl_cons, ih, List.append_assoc, List.singleton_append]

/-- **A group holds the activities of its key**, and there is one. -/
theorem mem_activityGroups {events : List SessionEvent} {key : String}
    {group : List SessionEvent} :
    (key, group) ∈ (activityGroups events).entries ↔
      group ≠ [] ∧ group = (events.filter isActivity).filter (activityKey · = key) := by
  rw [OrderedMap.mem_entries_iff, activityGroups, OrderedMap.get?_collect]
  simp only [foldl_snoc, List.nil_append]
  cases hfilter : (events.filter isActivity).filter (activityKey · = key) with
  | nil => simp
  | cons first rest =>
    rw [List.head?_cons, Option.map_some, Option.some_inj]
    constructor
    · intro h
      exact ⟨by rw [← h]; exact List.cons_ne_nil _ _, h.symm⟩
    · exact fun h => h.2.symm

theorem exists_activityGroup {events : List SessionEvent} {e : SessionEvent} (h : e ∈ events)
    (hactivity : isActivity e = true) :
    ∃ group, (activityKey e, group) ∈ (activityGroups events).entries ∧ e ∈ group := by
  have hmem : e ∈ (events.filter isActivity).filter (activityKey · = activityKey e) :=
    List.mem_filter.mpr ⟨List.mem_filter.mpr ⟨h, hactivity⟩, by simp⟩
  exact ⟨_, mem_activityGroups.mpr ⟨List.ne_nil_of_mem hmem, rfl⟩, hmem⟩

theorem mem_group {events : List SessionEvent} {key : String} {group : List SessionEvent}
    (h : (key, group) ∈ (activityGroups events).entries) {e : SessionEvent} :
    e ∈ group ↔ e ∈ events ∧ isActivity e = true ∧ activityKey e = key := by
  rw [(mem_activityGroups.mp h).2, List.mem_filter, List.mem_filter, decide_eq_true_eq, and_assoc]

/-- The step of a group: it is made, from the first and the last event. -/
theorem groupStep_spec {events : List SessionEvent} {key : String} {group : List SessionEvent}
    (h : (key, group) ∈ (activityGroups events).entries) :
    ∃ first last, group.head? = some first ∧ group.getLast? = some last ∧
      activityKey first = key ∧
      traceStepForActivityGroup group = some (activityStep first last group) := by
  have hne := (mem_activityGroups.mp h).1
  have hfirst := List.head?_eq_some_head hne
  have hlast := List.getLast?_eq_some_getLast hne
  refine ⟨group.head hne, group.getLast hne, hfirst, hlast,
    ((mem_group h).mp (List.head_mem hne)).2.2, ?_⟩
  rw [traceStepForActivityGroup, hfirst, hlast]

/-! ## 6. The steps of a trace -/

/-- The steps before the map hands out its groups in an order of its own. -/
def plainSteps (detail : SessionDetail) : List TraceStep :=
  detail.messages.map (traceStepForMessage detail.provider detail.events) ++
    (detail.events.filter isSingle).map traceStepForEvent ++
    (activityGroups detail.events).entries.filterMap fun entry =>
      traceStepForActivityGroup entry.2

theorem pushedSteps_perm (iteration : IterationOrder) (detail : SessionDetail) :
    (pushedSteps iteration detail).Perm (plainSteps detail) := by
  refine List.Perm.append_left _ ?_
  have h := (iteration.perm ((activityGroups detail.events).entries.map Prod.snd)).filterMap
    traceStepForActivityGroup
  rw [List.filterMap_map] at h
  exact h

theorem steps_perm (iteration : IterationOrder) (detail : SessionDetail) (now : DateTime) :
    (buildSessionTraceProjection iteration detail now).steps.Perm (plainSteps detail) :=
  (List.perm_insertionSort _ _).trans (pushedSteps_perm iteration detail)

/-- **Where a step comes from**: a message, a single event or a group. -/
theorem mem_plainSteps {step : TraceStep} :
    step ∈ plainSteps detail ↔
      (∃ message ∈ detail.messages,
        traceStepForMessage detail.provider detail.events message = step) ∨
      (∃ e ∈ detail.events, isSingle e = true ∧ traceStepForEvent e = step) ∨
      ∃ key group first last, (key, group) ∈ (activityGroups detail.events).entries ∧
        group.head? = some first ∧ group.getLast? = some last ∧ activityKey first = key ∧
        activityStep first last group = step := by
  simp only [plainSteps, List.mem_append, List.mem_map, List.mem_filterMap, List.mem_filter,
    Prod.exists, or_assoc, and_assoc]
  refine or_congr Iff.rfl (or_congr Iff.rfl ?_)
  constructor
  · intro ⟨key, group, hgroup, hstep⟩
    obtain ⟨first, last, hfirst, hlast, hkey, hmade⟩ := groupStep_spec hgroup
    rw [hmade] at hstep
    exact ⟨key, group, first, last, hgroup, hfirst, hlast, hkey, Option.some.inj hstep⟩
  · intro ⟨key, group, first, last, hgroup, hfirst, hlast, hkey, hstep⟩
    refine ⟨key, group, hgroup, ?_⟩
    rw [traceStepForActivityGroup, hfirst, hlast]
    exact congrArg some hstep

theorem message_has (message : Message) (provider : String) (events : List SessionEvent)
    (e : SessionEvent) : ¬ (traceStepForMessage provider events message).Has e :=
  List.not_mem_nil

theorem single_has (e e' : SessionEvent) :
    (traceStepForEvent e').Has e ↔ eventRef e = eventRef e' :=
  List.mem_singleton

theorem group_has {key : String} {group : List SessionEvent}
    (hgroup : (key, group) ∈ (activityGroups detail.events).entries)
    (first last e : SessionEvent) :
    (activityStep first last group).Has e ↔ ∃ e' ∈ detail.events, isActivity e' = true ∧
      activityKey e' = key ∧ eventRef e' = eventRef e := by
  constructor
  · intro hmem
    obtain ⟨e', he', heq⟩ := List.mem_map.mp hmem
    obtain ⟨hevents, hactivity, hkey⟩ := (mem_group hgroup).mp he'
    exact ⟨e', hevents, hactivity, hkey, heq⟩
  · intro ⟨e', hevents, hactivity, hkey, heq⟩
    exact List.mem_map.mpr ⟨e', (mem_group hgroup).mpr ⟨hevents, hactivity, hkey⟩, heq⟩

/-- The step of an activity's group. -/
theorem exists_groupStep {e : SessionEvent} (h : e ∈ detail.events)
    (hactivity : isActivity e = true) :
    ∃ step ∈ plainSteps detail, step.isMessage = false ∧
      ∀ e' ∈ detail.events, isActivity e' = true →
        (activityKey e' = activityKey e ∨ eventRef e' = eventRef e) → step.Has e' := by
  obtain ⟨group, hgroup, -⟩ := exists_activityGroup h hactivity
  obtain ⟨first, last, hfirst, hlast, hfirstKey, -⟩ := groupStep_spec hgroup
  refine ⟨activityStep first last group, mem_plainSteps.mpr (.inr (.inr ⟨_, group, first, last,
    hgroup, hfirst, hlast, hfirstKey, rfl⟩)), rfl, fun e' he' hactivity' hor => ?_⟩
  rcases hor with hkey | href
  · exact (group_has hgroup _ _ _).mpr ⟨e', he', hactivity', hkey, rfl⟩
  · exact (group_has hgroup _ _ _).mpr ⟨e, h, hactivity, rfl, href.symm⟩

/-! ## 7. In a trace that is orderly -/

theorem SameTurn.symm {e e' : SessionEvent} (h : SameTurn e e') : SameTurn e' e := by
  obtain ⟨turnId, hturn, hturn'⟩ := h
  exact ⟨turnId, hturn', hturn⟩

theorem SameTurn.key_eq {e e' : SessionEvent} (h : SameTurn e e') :
    activityKey e = activityKey e' := by
  obtain ⟨turnId, hturn, hturn'⟩ := h
  rw [activityKey, activityKey, hturn, hturn', Option.getD_some, Option.getD_some]

/-- A relation of the pairs of a list, once it is symmetric. -/
theorem forall_of_pairwise {xs : List SessionEvent} {R : SessionEvent → SessionEvent → Prop}
    (hsymm : ∀ e e', R e e' → R e' e) (h : xs.Pairwise R) {e e' : SessionEvent} (he : e ∈ xs)
    (he' : e' ∈ xs) (hne : e ≠ e') : R e e' :=
  have : Std.Symm R := ⟨hsymm⟩
  h.forall he he' hne

theorem Orderly.ref_spec (h : Orderly detail) {e e' : SessionEvent} (he : e ∈ detail.events)
    (he' : e' ∈ detail.events) (hkind : e.kind ≠ .providerOutputDelta)
    (hkind' : e'.kind ≠ .providerOutputDelta) (href : eventRef e = eventRef e') :
    e = e' ∨ isActivity e = true ∧ isActivity e' = true ∧ SameTurn e e' := by
  by_cases hne : e = e'
  · exact .inl hne
  · refine .inr (forall_of_pairwise (fun a b hab hb ha heq => ?_) h.refs he he' hne hkind hkind'
      href)
    obtain ⟨hactivity, hactivity', hturn⟩ := hab ha hb heq.symm
    exact ⟨hactivity', hactivity, hturn.symm⟩

theorem Apart.turn_of_key {events : List SessionEvent} (h : Apart events) {e e' : SessionEvent}
    (he : e ∈ events) (he' : e' ∈ events) (hactivity : isActivity e = true)
    (hactivity' : isActivity e' = true) (hkey : activityKey e = activityKey e') :
    e = e' ∨ SameTurn e e' := by
  by_cases hne : e = e'
  · exact .inl hne
  · exact .inr (forall_of_pairwise (fun a b hab hb ha heq => (hab ha hb heq.symm).symm) h he
      he' hne hactivity hactivity' hkey)

/-- All activities with the key of one of a turn are of the turn. -/
theorem Apart.turnId_eq {events : List SessionEvent} (h : Apart events) {e first : SessionEvent}
    (he : e ∈ events) (hfirst : first ∈ events) (hactivity : isActivity e = true)
    (hfirstActivity : isActivity first = true) (hkey : activityKey e = activityKey first)
    {turnId : TurnId} (hturn : first.turnId = some turnId) : e.turnId = some turnId := by
  rcases h.turn_of_key he hfirst hactivity hfirstActivity hkey with
    rfl | ⟨turnId', hsome, hsome'⟩
  · exact hturn
  · exact hsome.trans (hsome'.symm.trans hturn)

theorem isActivity_kind {e : SessionEvent} (h : isActivity e = true) :
    e.kind ≠ .providerOutputDelta := by
  rw [eq_of_beq h]
  exact nofun

theorem isSingle_kind {e : SessionEvent} (h : isSingle e = true) :
    e.kind ≠ .providerOutputDelta ∧ isActivity e = false := by
  simpa [isSingle] using h

/-- Activities with one reference have one key. -/
theorem Orderly.key_of_ref (h : Orderly detail) {e e' : SessionEvent} (he : e ∈ detail.events)
    (he' : e' ∈ detail.events) (hactivity : isActivity e = true) (hactivity' : isActivity e' = true)
    (href : eventRef e = eventRef e') : activityKey e = activityKey e' := by
  rcases h.ref_spec he he' (isActivity_kind hactivity) (isActivity_kind hactivity') href with
    rfl | ⟨-, -, hturn⟩
  · rfl
  · exact hturn.key_eq

/-- A single event shares its reference with no other event but a delta. -/
theorem Orderly.single_of_ref (h : Orderly detail) {e e' : SessionEvent} (he : e ∈ detail.events)
    (he' : e' ∈ detail.events) (hkind : e.kind ≠ .providerOutputDelta)
    (hsingle : isSingle e' = true) (href : eventRef e = eventRef e') : e = e' := by
  obtain ⟨hkind', hnot⟩ := isSingle_kind hsingle
  rcases h.ref_spec he he' hkind hkind' href with heq | ⟨-, hactivity, -⟩
  · exact heq
  · exact absurd (hnot.symm.trans hactivity) Bool.false_ne_true

/-- **Two activities share a step exactly when they are of one turn.** -/
theorem Orderly.shared (h : Orderly detail) {e e' : SessionEvent} (he : e ∈ detail.events)
    (he' : e' ∈ detail.events) (hactivity : isActivity e = true) (hactivity' : isActivity e' = true)
    (hapart : activityKey e = activityKey e' → SameTurn e e') :
    (∃ step ∈ plainSteps detail, step.Has e ∧ step.Has e') ↔ SameTurn e e' := by
  constructor
  · intro ⟨step, hstep, hhas, hhas'⟩
    rcases mem_plainSteps.mp hstep with ⟨message, -, rfl⟩ | ⟨single, hmem, hsingle, rfl⟩ |
      ⟨key, group, first, last, hgroup, -, -, -, rfl⟩
    · exact absurd hhas (message_has _ _ _ _)
    · obtain rfl := h.single_of_ref he hmem (isActivity_kind hactivity) hsingle
        ((single_has _ _).mp hhas)
      exact absurd ((isSingle_kind hsingle).2.symm.trans hactivity) Bool.false_ne_true
    · obtain ⟨a, ha, haActivity, haKey, haRef⟩ := (group_has hgroup _ _ _).mp hhas
      obtain ⟨b, hb, hbActivity, hbKey, hbRef⟩ := (group_has hgroup _ _ _).mp hhas'
      apply hapart
      rw [← h.key_of_ref ha he haActivity hactivity haRef,
        ← h.key_of_ref hb he' hbActivity hactivity' hbRef, haKey, hbKey]
  · intro hturn
    obtain ⟨step, hstep, -, hhas⟩ := exists_groupStep he hactivity
    exact ⟨step, hstep, hhas e he hactivity (.inl rfl),
      hhas e' he' hactivity' (.inl hturn.key_eq.symm)⟩

/-! ## 8. Each event is in one step -/

/-- Among values with keys of their own, the ones with the key of a member are that member. -/
theorem countP_unique {α κ : Type} [DecidableEq κ] {xs : List α} {f : α → κ}
    (hnodup : (xs.map f).Nodup) {x : α} (hx : x ∈ xs) {p : α → Bool}
    (hp : ∀ y ∈ xs, p y = true ↔ f y = f x) : xs.countP p = 1 := by
  have hcount : xs.countP p = (xs.map f).count (f x) := by
    rw [List.count_eq_countP, List.countP_map]
    exact List.countP_congr fun y hy => by simpa using hp y hy
  rw [hcount]
  exact List.count_eq_one_of_mem hnodup (List.mem_map_of_mem hx)

theorem count_messages (detail : SessionDetail) (e : SessionEvent) :
    (detail.messages.map (traceStepForMessage detail.provider detail.events)).countP (Holds e) =
      0 := by
  refine List.countP_eq_zero.mpr fun step hstep => ?_
  obtain ⟨message, -, rfl⟩ := List.mem_map.mp hstep
  simp [Holds, message_has]

theorem holds_single (e e' : SessionEvent) :
    Holds e (traceStepForEvent e') = true ↔ eventRef e = eventRef e' := by
  have hmessage : (traceStepForEvent e').isMessage = false := rfl
  rw [Holds, hmessage, Bool.not_false, Bool.true_and, decide_eq_true_eq, single_has]

theorem Orderly.count_singles (h : Orderly detail) {e : SessionEvent} (he : e ∈ detail.events)
    (hkind : e.kind ≠ .providerOutputDelta) :
    ((detail.events.filter isSingle).map traceStepForEvent).countP (Holds e) =
      if isSingle e then 1 else 0 := by
  rw [List.countP_map]
  split
  · rename_i hsingle
    have hmem : e ∈ detail.events.filter isSingle := List.mem_filter.mpr ⟨he, hsingle⟩
    refine countP_unique h.singleIds hmem fun e' he' => (holds_single e e').trans ?_
    constructor
    · exact fun href => (UpravaRef.event.inj href).1.symm
    · exact fun hid => congrArg eventRef (List.inj_on_of_nodup_map h.singleIds hmem he' hid.symm)
  · rename_i hsingle
    refine List.countP_eq_zero.mpr fun e' he' hholds => hsingle ?_
    obtain ⟨hmem, hsingle'⟩ := List.mem_filter.mp he'
    rw [h.single_of_ref he hmem hkind hsingle' ((holds_single e e').mp hholds)]
    exact hsingle'

theorem holds_group {key : String} {group : List SessionEvent}
    (hgroup : (key, group) ∈ (activityGroups detail.events).entries) (e : SessionEvent) :
    ((traceStepForActivityGroup group).map (Holds e)).getD false = true ↔
      ∃ e' ∈ detail.events, isActivity e' = true ∧ activityKey e' = key ∧
        eventRef e' = eventRef e := by
  obtain ⟨first, last, -, -, -, hstep⟩ := groupStep_spec hgroup
  have hmessage : (activityStep first last group).isMessage = false := rfl
  rw [hstep, Option.map_some, Option.getD_some, Holds, hmessage, Bool.not_false, Bool.true_and,
    decide_eq_true_eq, group_has hgroup]

theorem Orderly.count_groups (h : Orderly detail) {e : SessionEvent} (he : e ∈ detail.events)
    (hkind : e.kind ≠ .providerOutputDelta) :
    ((activityGroups detail.events).entries.filterMap fun entry =>
      traceStepForActivityGroup entry.2).countP (Holds e) = if isActivity e then 1 else 0 := by
  rw [List.countP_filterMap]
  split
  · rename_i hactivity
    obtain ⟨group, hgroup, -⟩ := exists_activityGroup he hactivity
    refine countP_unique (OrderedMap.nodup_keys _) hgroup fun ⟨key, group'⟩ hentry =>
      (holds_group hentry e).trans ?_
    constructor
    · intro ⟨e', he', hactivity', hkey, href⟩
      exact hkey.symm.trans (h.key_of_ref he' he hactivity' hactivity href)
    · exact fun hkey => ⟨e, he, hactivity, hkey.symm, rfl⟩
  · rename_i hactivity
    refine List.countP_eq_zero.mpr fun ⟨key, group⟩ hentry hholds => hactivity ?_
    obtain ⟨e', he', hactivity', -, href⟩ := (holds_group hentry e).mp hholds
    rcases h.ref_spec he' he (isActivity_kind hactivity') hkind href with rfl | ⟨-, hthis, -⟩
    · exact hactivity'
    · exact hthis

/-- **Each event but a delta is in one step that is not a message's.** -/
theorem Orderly.covered (h : Orderly detail) {e : SessionEvent} (he : e ∈ detail.events)
    (hkind : e.kind ≠ .providerOutputDelta) : (plainSteps detail).countP (Holds e) = 1 := by
  rw [plainSteps, List.countP_append, List.countP_append, count_messages, h.count_singles he hkind,
    h.count_groups he hkind]
  -- an event that is no delta is a single one or an activity
  have hnotDelta : (e.kind != .providerOutputDelta) = true := by simpa using hkind
  cases hactivity : isActivity e <;> simp [isSingle, hnotDelta, hactivity]

/-! ## 9. Blocks and times -/

theorem plainSteps_blocks (detail : SessionDetail) :
    (plainSteps detail).map (·.blockId) =
      detail.messages.map (fun message => "trace:message:" ++ message.messageId) ++
        (detail.events.filter isSingle).map (fun event => "trace:event:" ++ event.eventId) ++
        (activityGroups detail.events).entries.map fun entry => "trace:activity:" ++ entry.1 := by
  rw [plainSteps, List.map_append, List.map_append, List.map_map, List.map_map, List.map_filterMap]
  refine congrArg₂ _ rfl ?_
  rw [← List.filterMap_eq_map]
  refine List.filterMap_congr fun ⟨key, group⟩ hentry => ?_
  obtain ⟨first, last, -, -, hkey, hstep⟩ := groupStep_spec hentry
  rw [hstep, ← hkey]
  rfl

theorem message_ne_event (a b : String) : "trace:message:" ++ a ≠ "trace:event:" ++ b := by
  intro h
  have := congrArg String.toList h
  simp at this

theorem message_ne_activity (a b : String) : "trace:message:" ++ a ≠ "trace:activity:" ++ b := by
  intro h
  have := congrArg String.toList h
  simp at this

theorem event_ne_activity (a b : String) : "trace:event:" ++ a ≠ "trace:activity:" ++ b := by
  intro h
  have := congrArg String.toList h
  simp at this

/-- **The blocks are different** when the messages and the single events have ids of their own. -/
theorem plainSteps_blocks_nodup_iff :
    ((plainSteps detail).map (·.blockId)).Nodup ↔
      (detail.messages.map (·.messageId)).Nodup ∧
        ((detail.events.filter isSingle).map (·.eventId)).Nodup := by
  have hprefixed : ∀ {α : Type} (xs : List α) (f : α → String) (text : String),
      (xs.map fun x => text ++ f x).Nodup ↔ (xs.map f).Nodup := by
    intro α xs f text
    have hmap : (xs.map fun x => text ++ f x) = (xs.map f).map (text ++ ·) :=
      (List.map_map).symm
    rw [hmap]
    exact List.nodup_map_iff fun a b hab => (String.append_right_inj text).mp hab
  rw [plainSteps_blocks, List.nodup_append, List.nodup_append, hprefixed, hprefixed, hprefixed]
  constructor
  · exact fun h => ⟨h.1.1, h.1.2.1⟩
  · intro ⟨hmessages, hsingles⟩
    refine ⟨⟨hmessages, hsingles, fun a ha b hb => ?_⟩, OrderedMap.nodup_keys _,
      fun a ha b hb => ?_⟩
    · obtain ⟨message, -, rfl⟩ := List.mem_map.mp ha
      obtain ⟨event, -, rfl⟩ := List.mem_map.mp hb
      exact message_ne_event _ _
    · obtain ⟨entry, -, rfl⟩ := List.mem_map.mp hb
      rcases List.mem_append.mp ha with ha | ha
      · obtain ⟨message, -, rfl⟩ := List.mem_map.mp ha
        exact message_ne_activity _ _
      · obtain ⟨event, -, rfl⟩ := List.mem_map.mp ha
        exact event_ne_activity _ _

/-- The group of a turn is the turn's activities. -/
theorem group_eq_activitiesOf {turnId : TurnId} {group : List SessionEvent}
    (hgroup : (turnId, group) ∈ (activityGroups detail.events).entries)
    (hturns : ∀ e ∈ detail.events, isActivity e = true → activityKey e = turnId →
      e.turnId = some turnId) :
    group = activitiesOf detail.events turnId := by
  rw [(mem_activityGroups.mp hgroup).2, List.filter_filter, activitiesOf]
  refine List.filter_congr fun e he => ?_
  cases hactivity : isActivity e with
  | false => rw [Bool.and_false, Bool.false_and]
  | true =>
    rw [Bool.and_true, Bool.true_and, decide_eq_decide]
    constructor
    · exact hturns e he hactivity
    · intro hturn
      rw [activityKey, hturn, Option.getD_some]

/-- **Steps end no earlier than they start.** -/
theorem Orderly.times (h : Orderly detail) : ∀ step ∈ plainSteps detail, ∀ completedAt,
    step.completedAt = some completedAt → step.startedAt ≤ completedAt := by
  intro step hstep completedAt hcompleted
  rcases mem_plainSteps.mp hstep with ⟨message, hmem, rfl⟩ | ⟨e, -, -, rfl⟩ |
    ⟨key, group, first, last, hgroup, hfirst, hlast, hkey, rfl⟩
  · exact h.messages message hmem completedAt hcompleted
  · exact le_of_eq (Option.some.inj hcompleted)
  · obtain rfl := Option.some.inj hcompleted
    obtain ⟨hfirstMem, hfirstActivity, -⟩ := (mem_group hgroup).mp (List.mem_of_head? hfirst)
    obtain ⟨hlastMem, hlastActivity, hlastKey⟩ :=
      (mem_group hgroup).mp (List.mem_of_getLast? hlast)
    cases hturn : first.turnId with
    | none =>
      -- a group whose first event has no turn is that event
      rcases h.apart.turn_of_key hfirstMem hlastMem hfirstActivity hlastActivity
        (hkey.trans hlastKey.symm) with rfl | ⟨turnId, hsome, -⟩
      · exact le_refl _
      · exact nomatch hturn.symm.trans hsome
    | some turnId =>
      have hkeyTurn : turnId = key := by
        rw [← hkey, activityKey, hturn, Option.getD_some]
      subst hkeyTurn
      have hgroupEq := group_eq_activitiesOf hgroup fun e he hactivity heKey =>
        h.apart.turnId_eq he hfirstMem hactivity hfirstActivity (heKey.trans hkey.symm) hturn
      exact h.turns turnId first last (hgroupEq ▸ hfirst) (hgroupEq ▸ hlast)

/-! ## 10. The result -/

theorem sorted_steps (iteration : IterationOrder) (detail : SessionDetail) (now : DateTime) :
    (buildSessionTraceProjection iteration detail now).steps.Pairwise fun a b =>
      stepKey a ≤ stepKey b :=
  have : Std.Total fun a b : TraceStep => stepKey a ≤ stepKey b := ⟨fun _ _ => le_total _ _⟩
  have : IsTrans TraceStep fun a b => stepKey a ≤ stepKey b := ⟨fun _ _ _ => le_trans⟩
  List.pairwise_insertionSort _ _

/-- **The order of the groups does not matter** once the blocks are different. -/
theorem steps_eq (hnodup : ((plainSteps detail).map (·.blockId)).Nodup)
    (iteration iteration' : IterationOrder) (now : DateTime) :
    buildSessionTraceProjection iteration detail now =
      buildSessionTraceProjection iteration' detail now := by
  have hperm := (steps_perm iteration detail now).trans (steps_perm iteration' detail now).symm
  have hsteps : (buildSessionTraceProjection iteration detail now).steps =
      (buildSessionTraceProjection iteration' detail now).steps := by
    refine hperm.eq_of_pairwise (fun a b ha hb hab hba => ?_) (sorted_steps _ _ _)
      (sorted_steps _ _ _)
    have hblock : a.blockId = b.blockId :=
      congrArg (fun key => (ofLex key).2) (le_antisymm hab hba)
    exact List.inj_on_of_nodup_map hnodup ((steps_perm _ _ _).mem_iff.mp ha)
      ((steps_perm _ _ _).mem_iff.mp hb) hblock
  simp only [buildSessionTraceProjection] at hsteps ⊢
  rw [hsteps]

/-- The order of the entries. -/
def IterationOrder.plain : IterationOrder := ⟨id, fun _ => .refl _⟩

theorem Orderly.partition (h : Orderly detail) (iteration : IterationOrder) (now : DateTime) :
    Partition detail (buildSessionTraceProjection iteration detail now).steps := by
  have hperm := steps_perm iteration detail now
  refine ⟨fun e he hkind => (hperm.countP_eq _).trans (h.covered he hkind),
    h.apart.imp_of_mem fun he he' hapart hactivity hactivity' => ?_,
    (hperm.map _).nodup_iff.mpr (plainSteps_blocks_nodup_iff.mpr ⟨h.messageIds, h.singleIds⟩),
    sorted_steps _ _ _, fun step hstep => h.times step (hperm.mem_iff.mp hstep)⟩
  simp only [hperm.mem_iff]
  exact h.shared he he' hactivity hactivity' (hapart hactivity hactivity')

/-- Two events that are no deltas and have one reference are activities of one turn. -/
theorem refs_of_partition (hcovered : ∀ e ∈ detail.events, e.kind ≠ .providerOutputDelta →
      (plainSteps detail).countP (Holds e) = 1)
    (hshared : detail.events.Pairwise fun e e' => isActivity e = true → isActivity e' = true →
      ((∃ step ∈ plainSteps detail, step.Has e ∧ step.Has e') ↔ SameTurn e e'))
    (hsingles : ((detail.events.filter isSingle).map (·.eventId)).Nodup) :
    detail.events.Pairwise fun e e' => e.kind ≠ .providerOutputDelta →
      e'.kind ≠ .providerOutputDelta → eventRef e = eventRef e' →
        isActivity e = true ∧ isActivity e' = true ∧ SameTurn e e' := by
  have hids : detail.events.Pairwise fun e e' => isSingle e = true → isSingle e' = true →
      e.eventId ≠ e'.eventId := by
    have hnodup := List.pairwise_map.mp hsingles
    exact List.pairwise_filter.mp hnodup
  -- a single event's step and an activity's step would both hold the reference
  have hmixed : ∀ e ∈ detail.events, ∀ e' ∈ detail.events, isSingle e = true →
      isActivity e' = true → eventRef e ≠ eventRef e' := by
    intro e he e' he' hsingle hactivity href
    have hcount := hcovered e he (isSingle_kind hsingle).1
    have hone : 0 < ((detail.events.filter isSingle).map traceStepForEvent).countP (Holds e) :=
      List.countP_pos_iff.mpr ⟨traceStepForEvent e,
        List.mem_map_of_mem (List.mem_filter.mpr ⟨he, hsingle⟩), (holds_single e e).mpr rfl⟩
    have htwo : 0 < ((activityGroups detail.events).entries.filterMap fun entry =>
        traceStepForActivityGroup entry.2).countP (Holds e) := by
      obtain ⟨group, hgroup, -⟩ := exists_activityGroup he' hactivity
      rw [List.countP_filterMap]
      exact List.countP_pos_iff.mpr ⟨_, hgroup,
        (holds_group hgroup e).mpr ⟨e', he', hactivity, rfl, href.symm⟩⟩
    rw [plainSteps, List.countP_append, List.countP_append] at hcount
    omega
  have hkinds : ∀ e : SessionEvent, e.kind ≠ .providerOutputDelta → isActivity e = false →
      isSingle e = true := by
    intro e hkind hactivity
    simp [isSingle, hkind, hactivity]
  refine (hids.and hshared).imp_of_mem fun {e e'} he he' hboth hkind hkind' href => ?_
  obtain ⟨hid, hpair⟩ := hboth
  cases hactivity : isActivity e with
  | false =>
    have hsingle := hkinds e hkind hactivity
    cases hactivity' : isActivity e' with
    | false => exact absurd (UpravaRef.event.inj href).1 (hid hsingle (hkinds e' hkind' hactivity'))
    | true => exact absurd href (hmixed e he e' he' hsingle hactivity')
  | true =>
    cases hactivity' : isActivity e' with
    | false => exact absurd href.symm (hmixed e' he' e he (hkinds e' hkind' hactivity') hactivity)
    | true =>
      obtain ⟨step, hstep, -, hhas⟩ := exists_groupStep he hactivity
      exact ⟨rfl, rfl, (hpair hactivity hactivity').mp ⟨step, hstep,
        hhas e he hactivity (.inl rfl), hhas e' he' hactivity' (.inr href.symm)⟩⟩

/-- The step of a turn's group has the times of the turn's first and last activity. -/
theorem turns_of_times (hapart : Apart detail.events)
    (htimes : ∀ step ∈ plainSteps detail, ∀ completedAt, step.completedAt = some completedAt →
      step.startedAt ≤ completedAt) (turnId : TurnId) (first last : SessionEvent)
    (hfirst : (activitiesOf detail.events turnId).head? = some first)
    (hlast : (activitiesOf detail.events turnId).getLast? = some last) :
    first.happenedAt ≤ last.happenedAt := by
  obtain ⟨hmem, hboth⟩ := List.mem_filter.mp (List.mem_of_head? hfirst)
  obtain ⟨hactivity, hturn⟩ := Bool.and_eq_true_iff.mp hboth
  have hkey : activityKey first = turnId := by
    rw [activityKey, of_decide_eq_true hturn, Option.getD_some]
  obtain ⟨group, hgroup, -⟩ := exists_activityGroup hmem hactivity
  rw [hkey] at hgroup
  obtain rfl := group_eq_activitiesOf hgroup fun e he heActivity heKey =>
    hapart.turnId_eq he hmem heActivity hactivity (heKey.trans hkey.symm) (of_decide_eq_true hturn)
  exact htimes _ (mem_plainSteps.mpr (.inr (.inr ⟨_, _, first, last, hgroup, hfirst, hlast, hkey,
    rfl⟩))) _ rfl

/-- **A trace is a partition of its events, in any order of the groups, exactly when the session is
    orderly.** -/
theorem trace_partition_iff (detail : SessionDetail) (now : DateTime) :
    ((∀ iteration, Partition detail (buildSessionTraceProjection iteration detail now).steps) ∧
      ∀ iteration iteration', buildSessionTraceProjection iteration detail now =
        buildSessionTraceProjection iteration' detail now) ↔ Orderly detail := by
  constructor
  · intro ⟨hpartition, _⟩
    have h := hpartition .plain
    have hperm := steps_perm .plain detail now
    have hcovered : ∀ e ∈ detail.events, e.kind ≠ .providerOutputDelta →
        (plainSteps detail).countP (Holds e) = 1 :=
      fun e he hkind => (hperm.countP_eq _).symm.trans (h.covered e he hkind)
    have hshared := h.shared
    simp only [hperm.mem_iff] at hshared
    obtain ⟨hmessageIds, hsingleIds⟩ :=
      plainSteps_blocks_nodup_iff.mp ((hperm.map _).nodup_iff.mp h.blocks)
    have hapart : Apart detail.events := by
      refine hshared.imp_of_mem fun he he' hpair hactivity hactivity' hkey => ?_
      obtain ⟨step, hstep, -, hhas⟩ := exists_groupStep he hactivity
      exact (hpair hactivity hactivity').mp ⟨step, hstep, hhas _ he hactivity (.inl rfl),
        hhas _ he' hactivity' (.inl hkey.symm)⟩
    have htimes : ∀ step ∈ plainSteps detail, ∀ completedAt, step.completedAt = some completedAt →
        step.startedAt ≤ completedAt := fun step hstep => h.times step (hperm.mem_iff.mpr hstep)
    refine ⟨hmessageIds, hsingleIds, refs_of_partition hcovered hshared hsingleIds, hapart,
      turns_of_times hapart htimes, fun message hmem completedAt hcompleted => ?_⟩
    exact htimes _ (mem_plainSteps.mpr (.inl ⟨message, hmem, rfl⟩)) completedAt hcompleted
  · intro h
    refine ⟨fun iteration => h.partition iteration now, fun iteration iteration' => ?_⟩
    exact steps_eq (plainSteps_blocks_nodup_iff.mpr ⟨h.messageIds, h.singleIds⟩) _ _ _

/-- An activity of the turn, accepted as number `seq`. -/
def activityAt (eventId : EventId) (seq : Int64) (happenedAt : DateTime) : SessionEvent where
  eventId
  actorRef := .provider "codex"
  scopeRef := .session "session-1"
  runtimeSessionId := some "runtime-1"
  sessionThreadId := some "session-1"
  turnId := some "turn-1"
  seq
  kind := .providerActivity
  happenedAt
  sourceRefs := []
  evidenceRefs := []
  causeRefs := []
  resultRefs := []
  payload := .null

/-- The Node's clock was set back between the two activities of a turn. -/
def clockSetBack : SessionDetail where
  sessionThreadId := "session-1"
  runtimeSessionId := "runtime-1"
  provider := "codex"
  placementId := "placement-1"
  messages := []
  events := [activityAt "event-1" 1 120, activityAt "event-2" 2 60]

/-- **The step of the turn ends before it starts.** -/
theorem clock_set_back_splits :
    ¬ Partition clockSetBack (buildSessionTraceProjection .plain clockSetBack 200).steps := by
  intro h
  have hstep : activityStep (activityAt "event-1" 1 120) (activityAt "event-2" 2 60)
      clockSetBack.events ∈ (buildSessionTraceProjection .plain clockSetBack 200).steps := by
    decide
  have htimes : (120 : DateTime) ≤ 60 := h.times _ hstep 60 rfl
  exact absurd htimes (by decide)

end Uprava.Core.Trace
