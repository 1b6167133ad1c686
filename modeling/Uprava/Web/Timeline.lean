/-
  File:      Uprava/Web/Timeline.lean
  Subject:   The blocks of a session's timeline: its messages, the activity before the first user
             message, the activity of each turn, and the events that are in none of these.

  How two times compare as texts, and which instant a text says, are parameters. `timeline_iff` says
  for which sessions the timeline shows everything once, in order, and does not depend on the order
  in which the events came. A row of a group is given by its event, and the data that a block shows
  of an event's payload by the payload.
-/
import Uprava.Core.Trace
import Uprava.Lib.StableSort

namespace Uprava.Web.Timeline

open Uprava.Protocol
open Uprava.Core.Trace (MessageRole eventKindLabel)
open Uprava.Lib (sortBy Before)

/-! ## 1. The session -/

structure TimelineEvent where
  eventId : EventId
  commandId : Option CommandId
  turnId : Option TurnId
  scopeRef : ScopeRef
  seq : Int64
  kind : EventKind
  happenedAt : String
  sourceRefs : List UpravaRef
  evidenceRefs : List UpravaRef
  causeRefs : List UpravaRef
  payload : JsonValue
  deriving DecidableEq

structure TimelineMessage where
  messageId : MessageId
  role : MessageRole
  content : String
  createdAt : String
  completedAt : Option String
  sourceEventId : Option EventId
  deriving DecidableEq

/-- What the timeline reads of a session. -/
structure TimelineDetail where
  messages : List TimelineMessage
  events : List TimelineEvent
  deriving DecidableEq

/-- How the browser compares two times as texts, and the instant of a text. -/
structure ClockTexts where
  localeCompare : String → String → Ordering
  trans : Std.TransCmp localeCompare
  instant : String → DateTime
  /-- Times that compare as the same text say the same instant. -/
  same : ∀ a b, localeCompare a b = .eq → instant a = instant b

/-- A text that is there and not empty. -/
def truthy (text : Option String) : Option String := text.filter (· ≠ "")

/-! ## 2. The blocks -/

/-- What a block shows, by the kind of the block. -/
inductive BlockData where
  | message (role : MessageRole) (content createdAt : String) (completedAt : Option String)
  | approval (approvalId : ApprovalId) (prompt : String) (kind : EventKind) (seq : Int64)
      (happenedAt : String) (pending : Bool)
  | event (kind : EventKind) (seq : Int64) (happenedAt : String) (commandId : Option CommandId)
      (payload : JsonValue)
  | sessionActivity (completed : Bool) (startedAt : String) (completedAt : Option String)
      (rows : List TimelineEvent)
  | turnActivity (turnId : TurnId) (startedAt completedAt : Option String)
      (terminalKind : Option EventKind) (lastObservedAt : Option String)
      (rows : List TimelineEvent)
  deriving DecidableEq

structure UiBlock where
  blockId : BlockId
  type : String
  primaryRef : UpravaRef
  sourceRefs : List UpravaRef
  evidenceRefs : List UpravaRef
  causeRefs : List UpravaRef
  data : BlockData
  actions : List String
  fallbackText : String
  deriving DecidableEq

structure TimelineBlockItem where
  block : UiBlock
  approvalId : Option ApprovalId
  deriving DecidableEq

structure OrderedTimelineBlockItem where
  item : TimelineBlockItem
  timestamp : String
  seq : Int64
  sourceIndex : Nat
  deriving DecidableEq

def eventRef (event : TimelineEvent) : UpravaRef := .event event.eventId event.scopeRef event.seq

def blockFromMessage (message : TimelineMessage) (events : List TimelineEvent) : UiBlock where
  blockId := "message:" ++ message.messageId
  type := match message.role with
    | .assistant => "core.assistant-message"
    | .user => "core.user-message"
    | _ => "core.runtime-event"
  primaryRef := .message message.messageId
  sourceRefs := match truthy message.sourceEventId with
    | none => []
    | some sourceEventId => ((events.find? (·.eventId == sourceEventId)).map eventRef).toList
  evidenceRefs := []
  causeRefs := []
  data := .message message.role message.content message.createdAt message.completedAt
  actions := []
  fallbackText := message.content

def approvalIdFromPayload (payload : JsonValue) : Option ApprovalId :=
  (payload.get "approval_id").bind Lib.JsonValue.asStr

def approvalIdFromEvent (event : TimelineEvent) : Option ApprovalId :=
  if event.kind ≠ .approvalRequested then none else approvalIdFromPayload event.payload

def approvalIdFromResolutionEvent (event : TimelineEvent) : Option ApprovalId :=
  if event.kind ≠ .approvalResolved then none else approvalIdFromPayload event.payload

def approvalPromptFromEvent (event : TimelineEvent) : String :=
  match truthy ((event.payload.get "prompt").bind Lib.JsonValue.asStr) with
  | some prompt =>
    if event.payload.get "type" = some (.string "approval_requested") then prompt
    else "Approval requested"
  | none => "Approval requested"

def blockTypeForEvent (event : TimelineEvent) : String :=
  match event.kind with
  | .coordinationWarningAcknowledged => "core.warning"
  | .workspaceValidated => "core.workspace-validation"
  | .resourceSnapshotUpdated => "core.resource-snapshot"
  | .providerOutputDelta => "core.provider-output-stream"
  | .runtimeError => "core.error"
  | _ => "core.runtime-event"

/-- The block of an approval's request, or of any other event. -/
def blockFromEvent (pendingApprovals : List ApprovalId) (event : TimelineEvent) :
    TimelineBlockItem :=
  match truthy (approvalIdFromEvent event) with
  | some approvalId =>
    let pending := pendingApprovals.contains approvalId
    { block := {
        blockId := "event:" ++ event.eventId
        type := "core.approval-request"
        primaryRef := .approval approvalId
        sourceRefs := [eventRef event]
        evidenceRefs := []
        causeRefs := []
        data := .approval approvalId (approvalPromptFromEvent event) event.kind event.seq
          event.happenedAt pending
        actions := if pending then ["approval.resolve"] else []
        fallbackText := approvalPromptFromEvent event }
      approvalId := if pending then some approvalId else none }
  | none =>
    { block := {
        blockId := "event:" ++ event.eventId
        type := blockTypeForEvent event
        primaryRef := eventRef event
        sourceRefs := eventRef event :: event.sourceRefs
        evidenceRefs := event.evidenceRefs
        causeRefs := event.causeRefs
        data := .event event.kind event.seq event.happenedAt event.commandId event.payload
        actions := []
        fallbackText := eventKindLabel event.kind ++ " seq " ++ toString event.seq.toInt }
      approvalId := none }

/-! ## 3. The groups -/

/-- The command of each turn that has one: the last that an event with both says. -/
def turnCommandIds (events : List TimelineEvent) : TurnId → Option CommandId :=
  events.foldl (fun commands event =>
    match truthy event.turnId, truthy event.commandId with
    | some turnId, some commandId => Function.update commands turnId (some commandId)
    | _, _ => commands) fun _ => none

/-- The turn that gets a group because of this event. -/
def groupedTurn (event : TimelineEvent) : Option TurnId :=
  if event.kind = .turnStarted ∨ event.kind = .providerActivity then truthy event.turnId else none

/-- The turns with a group, as a set in the order in which they were added. -/
def groupTurnIds (events : List TimelineEvent) : List TurnId :=
  (events.filterMap groupedTurn).eraseDups

def isTurnActivityEvent (event : TimelineEvent) : Bool :=
  match event.kind with
  | .runtimeRunning | .runtimeReady | .runtimeBlocked | .runtimeError | .runtimeStopped
  | .turnStarted | .turnCompleted | .turnInterrupted | .providerActivity
  | .providerOutputDelta => true
  | _ => false

def isTurnTerminalEvent (event : TimelineEvent) : Bool :=
  match event.kind with
  | .turnCompleted | .turnInterrupted | .runtimeBlocked | .runtimeError | .runtimeStopped => true
  | _ => false

def inTurnGroup (events : List TimelineEvent) (turnId : TurnId) (event : TimelineEvent) : Bool :=
  isTurnActivityEvent event && (event.turnId == some turnId ||
    (turnCommandIds events turnId).any fun commandId => event.commandId == some commandId)

/-- The start or the end of a turn. -/
def isBoundary (turnId : TurnId) (event : TimelineEvent) : Bool :=
  event.turnId == some turnId && (event.kind == .turnStarted || event.kind == .turnCompleted)

def isGroupedTurnBoundaryEvent (groupedActivityTurnIds : List TurnId) (event : TimelineEvent) :
    Bool :=
  (truthy event.turnId).any fun turnId =>
    groupedActivityTurnIds.contains turnId &&
      (event.kind == .turnStarted || event.kind == .turnCompleted)

def eventTime (events : List TimelineEvent) (turnId : TurnId) (kind : EventKind) : Option String :=
  (events.find? fun event => event.turnId == some turnId && event.kind == kind).map (·.happenedAt)

/-- A group of a turn; there is a first event. -/
structure TurnActivityGroup where
  turnId : TurnId
  commandId : Option CommandId
  startedAt : Option String
  completedAt : Option String
  terminalKind : Option EventKind
  first : TimelineEvent
  rest : List TimelineEvent
  deriving DecidableEq

def TurnActivityGroup.events (group : TurnActivityGroup) : List TimelineEvent :=
  group.first :: group.rest

/-- The activity before the first user message; there is a first event. -/
structure SessionActivityGroup where
  first : TimelineEvent
  rest : List TimelineEvent
  completed : Bool
  deriving DecidableEq

def SessionActivityGroup.events (group : SessionActivityGroup) : List TimelineEvent :=
  group.first :: group.rest

def firstUserMessageAt (messages : List TimelineMessage) : Option String :=
  (sortBy compare ((messages.filter (·.role == .user)).map (·.createdAt))).head?

def inSessionGroup (messages : List TimelineMessage) (event : TimelineEvent) : Bool :=
  (truthy event.turnId).isNone && (event.kind == .runtimeStarting || event.kind == .runtimeReady) &&
    (truthy (firstUserMessageAt messages)).all fun limit => decide (event.happenedAt ≤ limit)

def blockFromTurnActivity (group : TurnActivityGroup) (allEvents : List TimelineEvent) :
    UiBlock where
  blockId := "turn-activity:" ++ group.turnId
  type := "core.turn-activity"
  primaryRef := .turn group.turnId
  sourceRefs := group.events.map eventRef
  evidenceRefs := []
  causeRefs := (allEvents.filter (isBoundary group.turnId)).map eventRef
  data := .turnActivity group.turnId group.startedAt group.completedAt group.terminalKind
    (group.events.getLast?.map (·.happenedAt)) group.events
  actions := []
  fallbackText := toString group.events.length ++ " provider activity events"

def blockFromSessionActivity (group : SessionActivityGroup) : UiBlock where
  blockId := "session-activity:" ++ group.first.eventId
  type := "core.session-activity"
  primaryRef := eventRef group.first
  sourceRefs := group.events.map eventRef
  evidenceRefs := []
  causeRefs := []
  data := .sessionActivity group.completed group.first.happenedAt
    (if group.completed then group.events.getLast?.map (·.happenedAt) else none) group.events
  actions := []
  fallbackText :=
    if group.completed then "Session initialized" else "Session initialization in progress"

/-! ## 4. The timeline -/

section Build

variable (clock : ClockTexts)

def compareEvents : TimelineEvent → TimelineEvent → Ordering :=
  compareLex (fun left right => clock.localeCompare left.happenedAt right.happenedAt)
    fun left right => compare left.seq.toInt right.seq.toInt

def compareTimelineBlockItems : OrderedTimelineBlockItem → OrderedTimelineBlockItem → Ordering :=
  compareLex (fun left right => clock.localeCompare left.timestamp right.timestamp)
    (compareLex (fun left right => compare left.seq.toInt right.seq.toInt)
      fun left right => compare left.sourceIndex right.sourceIndex)

/-- The group of a turn, if it has events. -/
def turnActivityGroup (events : List TimelineEvent) (turnId : TurnId) : Option TurnActivityGroup :=
  match sortBy (compareEvents clock) (events.filter (inTurnGroup events turnId)) with
  | [] => none
  | first :: rest =>
    let terminalEvent := (first :: rest).reverse.find? isTurnTerminalEvent
    some {
      turnId
      commandId := turnCommandIds events turnId
      startedAt := eventTime events turnId .turnStarted
      completedAt := terminalEvent.map (·.happenedAt)
      terminalKind := terminalEvent.map (·.kind)
      first
      rest }

def turnActivityGroups (events : List TimelineEvent) : List TurnActivityGroup :=
  sortBy (fun left right => compareEvents clock left.first right.first)
    ((groupTurnIds events).filterMap (turnActivityGroup clock events))

def sessionActivityGroup (detail : TimelineDetail) : Option SessionActivityGroup :=
  match sortBy (compareEvents clock) (detail.events.filter (inSessionGroup detail.messages)) with
  | [] => none
  | first :: rest => some {
      first
      rest
      completed := (first :: rest).any (·.kind == .runtimeReady) }

/-- One round of the loop of `pendingApprovalIds`. -/
def pendingIdsStep (pending : List ApprovalId) (event : TimelineEvent) : List ApprovalId :=
  match truthy (approvalIdFromEvent event) with
  | some requestedId => pending.insert requestedId
  | none =>
    match truthy (approvalIdFromResolutionEvent event) with
    | some resolvedId => pending.filter (· != resolvedId)
    | none => pending

def pendingApprovalIds (events : List TimelineEvent) : List ApprovalId :=
  (sortBy (compareEvents clock) events).foldl pendingIdsStep []

/-- The event that a message came from. -/
def messageSource (events : List TimelineEvent) (message : TimelineMessage) :
    Option TimelineEvent :=
  (truthy message.sourceEventId).bind fun sourceEventId =>
    (events.filter (·.eventId == sourceEventId)).getLast?

def messageBlocks (detail : TimelineDetail) : List OrderedTimelineBlockItem :=
  detail.messages.mapIdx fun sourceIndex message => {
    item := ⟨blockFromMessage message detail.events, none⟩
    timestamp := ((messageSource detail.events message).map (·.happenedAt)).getD message.createdAt
    seq := ((messageSource detail.events message).map (·.seq)).getD 0
    sourceIndex }

def activityBlocks (detail : TimelineDetail) : List OrderedTimelineBlockItem :=
  (turnActivityGroups clock detail.events).mapIdx fun sourceIndex group => {
    item := ⟨blockFromTurnActivity group detail.events, none⟩
    timestamp := group.first.happenedAt
    seq := group.first.seq
    sourceIndex := detail.messages.length + sourceIndex }

def sessionActivityBlocks (detail : TimelineDetail) : List OrderedTimelineBlockItem :=
  (sessionActivityGroup clock detail).toList.map fun group => {
    item := ⟨blockFromSessionActivity group, none⟩
    timestamp := group.first.happenedAt
    seq := group.first.seq
    sourceIndex := detail.messages.length + (activityBlocks clock detail).length }

/-- The event is shown on its own. -/
def isRemaining (detail : TimelineDetail) (event : TimelineEvent) : Bool :=
  !(detail.messages.filterMap (·.sourceEventId)).contains event.eventId &&
    !((turnActivityGroups clock detail.events).flatMap fun group =>
      group.events.map (·.eventId)).contains event.eventId &&
    !((sessionActivityGroup clock detail).toList.flatMap fun group =>
      group.events.map (·.eventId)).contains event.eventId &&
    !isGroupedTurnBoundaryEvent ((turnActivityGroups clock detail.events).map (·.turnId)) event

def eventBlocks (detail : TimelineDetail) : List OrderedTimelineBlockItem :=
  (detail.events.filter (isRemaining clock detail)).mapIdx fun sourceIndex event => {
    item := blockFromEvent (pendingApprovalIds clock detail.events) event
    timestamp := event.happenedAt
    seq := event.seq
    sourceIndex := detail.messages.length + (activityBlocks clock detail).length +
      (sessionActivityBlocks clock detail).length + sourceIndex }

/-- The blocks before they are sorted. -/
def orderedItems (detail : TimelineDetail) : List OrderedTimelineBlockItem :=
  messageBlocks detail ++ sessionActivityBlocks clock detail ++ activityBlocks clock detail ++
    eventBlocks clock detail

def buildSessionTimelineBlocks (detail : TimelineDetail) : List TimelineBlockItem :=
  (sortBy (compareTimelineBlockItems clock) (orderedItems clock detail)).map (·.item)

/-! ## 5. What is asked of a timeline -/

/-- The events that a group shows. -/
def UiBlock.rows (block : UiBlock) : List TimelineEvent :=
  match block.data with
  | .sessionActivity _ _ _ rows => rows
  | .turnActivity _ _ _ _ _ rows => rows
  | _ => []

/-- The block is the event's own. -/
def UiBlock.IsOwn (block : UiBlock) (event : TimelineEvent) : Prop :=
  block.blockId = "event:" ++ event.eventId

/-- The block shows the event: it is the block of its message, has it as a row, or is its own. -/
def UiBlock.Shows (detail : TimelineDetail) (block : UiBlock) (event : TimelineEvent) : Prop :=
  (∃ message ∈ detail.messages, message.sourceEventId = some event.eventId ∧
    block.primaryRef = .message message.messageId) ∨ event ∈ block.rows ∨ block.IsOwn event

/-- When an event happened, and its number. -/
def moment (event : TimelineEvent) : DateTime ×ₗ Int :=
  toLex (clock.instant event.happenedAt, event.seq.toInt)

/-- A message stands where its event happened, or else where it was created. -/
def messageMoment (events : List TimelineEvent) (message : TimelineMessage) : DateTime ×ₗ Int :=
  match messageSource events message with
  | some event => moment clock event
  | none => toLex (clock.instant message.createdAt, 0)

/-- Where a block belongs: at its message or at the first of its events. -/
def blockMoment (detail : TimelineDetail) (block : UiBlock) : Option (DateTime ×ₗ Int) :=
  match block.data with
  | .message .. => (detail.messages.find? fun message =>
      block.blockId == "message:" ++ message.messageId).map (messageMoment clock detail.events)
  | .approval _ _ _ seq happenedAt _ => some (toLex (clock.instant happenedAt, seq.toInt))
  | .event _ seq happenedAt _ _ => some (toLex (clock.instant happenedAt, seq.toInt))
  | .sessionActivity _ _ _ rows => (rows.map (moment clock)).min?
  | .turnActivity _ _ _ _ _ rows => (rows.map (moment clock)).min?

/-- No two events happened at one instant with one number. -/
def DistinctMoments (events : List TimelineEvent) : Prop := (events.map (moment clock)).Nodup

/-- **The timeline shows everything once**, in order, whatever the order of the events. -/
structure ShowsOnce (detail : TimelineDetail) : Prop where
  covered : ∀ event ∈ detail.events, ∃ item ∈ buildSessionTimelineBlocks clock detail,
    item.block.Shows detail event
  apart : (buildSessionTimelineBlocks clock detail).Pairwise fun a b =>
    ∀ event ∈ detail.events, ¬ (event ∈ a.block.rows ∧ event ∈ b.block.rows)
  own : ∀ event ∈ detail.events, ∀ a ∈ buildSessionTimelineBlocks clock detail,
    ∀ b ∈ buildSessionTimelineBlocks clock detail, event ∈ a.block.rows → ¬ b.block.IsOwn event
  blocks : ((buildSessionTimelineBlocks clock detail).map (·.block.blockId)).Nodup
  ordered : (buildSessionTimelineBlocks clock detail).Pairwise fun a b =>
    ∀ m m', blockMoment clock detail a.block = some m → blockMoment clock detail b.block = some m' →
      m ≤ m'
  anyOrder : DistinctMoments clock detail.events → ∀ events, events.Perm detail.events →
    buildSessionTimelineBlocks clock { detail with events } =
      buildSessionTimelineBlocks clock detail

/-! ## 6. When it does -/

/-- No event is in the groups of two turns, or in one and in the session's. -/
structure GroupsApart (detail : TimelineDetail) : Prop where
  turns : ∀ turnId ∈ groupTurnIds detail.events, ∀ turnId' ∈ groupTurnIds detail.events,
    turnId ≠ turnId' → ∀ event ∈ detail.events,
      inTurnGroup detail.events turnId event = true →
        ¬ inTurnGroup detail.events turnId' event = true
  session : ∀ turnId ∈ groupTurnIds detail.events, ∀ event ∈ detail.events,
    inTurnGroup detail.events turnId event = true →
      ¬ inSessionGroup detail.messages event = true

/-- Of two blocks, the one that belongs earlier has the smaller text, or the same text and the
    smaller number. -/
def TextsInOrder (detail : TimelineDetail) : Prop :=
  ∀ a ∈ orderedItems clock detail, ∀ b ∈ orderedItems clock detail, ∀ m m',
    blockMoment clock detail a.item.block = some m →
      blockMoment clock detail b.item.block = some m' → m < m' →
        compareTimelineBlockItems clock a b = .lt

/-- The command of an event of the turn. -/
def commandOf (turnId : TurnId) (event : TimelineEvent) : Option CommandId :=
  if truthy event.turnId = some turnId then truthy event.commandId else none

/-- No turn with a group has two starts or ends, and none whose events have two commands has an
    activity of one of them outside of the turn. -/
structure OrderFree (events : List TimelineEvent) : Prop where
  boundaries : ∀ turnId ∈ groupTurnIds events, (events.filter (isBoundary turnId)).length ≤ 1
  commands : ∀ turnId ∈ groupTurnIds events, ∀ a ∈ events, ∀ b ∈ events, ∀ command command',
    commandOf turnId a = some command → commandOf turnId b = some command' → command ≠ command' →
      ∀ event ∈ events, isTurnActivityEvent event = true → event.turnId ≠ some turnId →
        event.commandId ≠ some command

/-- **When the timeline shows everything once.** -/
structure Regular (detail : TimelineDetail) : Prop where
  apart : GroupsApart detail
  texts : TextsInOrder clock detail
  orderFree : DistinctMoments clock detail.events → OrderFree detail.events

/-! ## 7. The comparisons -/

theorem transCmp_compareEvents : Std.TransCmp (compareEvents clock) := by
  have := clock.trans
  have htimes := Lib.transCmp_on clock.localeCompare TimelineEvent.happenedAt
  have hseqs := Lib.transCmp_on (compare : Int → Int → Ordering)
    fun event : TimelineEvent => event.seq.toInt
  exact inferInstanceAs (Std.TransCmp (compareLex _ _))

theorem transCmp_compareItems : Std.TransCmp (compareTimelineBlockItems clock) := by
  have := clock.trans
  have htimes := Lib.transCmp_on clock.localeCompare OrderedTimelineBlockItem.timestamp
  have hseqs := Lib.transCmp_on (compare : Int → Int → Ordering)
    fun item : OrderedTimelineBlockItem => item.seq.toInt
  have hindices := Lib.transCmp_on (compare : Nat → Nat → Ordering)
    OrderedTimelineBlockItem.sourceIndex
  have hrest : Std.TransCmp (compareLex
      (fun left right : OrderedTimelineBlockItem => compare left.seq.toInt right.seq.toInt)
      fun left right => compare left.sourceIndex right.sourceIndex) :=
    inferInstanceAs (Std.TransCmp (compareLex _ _))
  exact inferInstanceAs (Std.TransCmp (compareLex _ _))

/-- Events that compare equal happened at one instant with one number. -/
theorem moment_eq {a b : TimelineEvent} (h : compareEvents clock a b = .eq) :
    moment clock a = moment clock b := by
  rw [compareEvents, compareLex_eq_eq] at h
  obtain ⟨htime, hseq⟩ := h
  rw [moment, moment, clock.same _ _ htime, Std.LawfulEqCmp.compare_eq_iff_eq.mp hseq]

theorem eq_of_compareEvents {events : List TimelineEvent} (h : DistinctMoments clock events)
    {a b : TimelineEvent} (ha : a ∈ events) (hb : b ∈ events)
    (hcmp : compareEvents clock a b = .eq) : a = b :=
  List.inj_on_of_nodup_map h ha hb (moment_eq clock hcmp)

end Build

/-! ## 8. The turns with a group -/

variable {clock : ClockTexts} {events : List TimelineEvent} {detail : TimelineDetail}
  {turnId : TurnId} {event : TimelineEvent}

theorem nodup_eraseDups {α : Type} [DecidableEq α] (xs : List α) : xs.eraseDups.Nodup := by
  induction h : xs.length using Nat.strong_induction_on generalizing xs with
  | _ n ih =>
    cases xs with
    | nil => exact List.nodup_nil
    | cons x xs =>
      rw [List.eraseDups_cons, List.nodup_cons]
      refine ⟨fun hmem => ?_, ih _ ?_ _ rfl⟩
      · have hfilter := List.mem_eraseDups.mp hmem
        simp at hfilter
      · have hle := List.length_filter_le (fun b => !b == x) xs
        rw [List.length_cons] at h
        omega

theorem nodup_groupTurnIds (events : List TimelineEvent) : (groupTurnIds events).Nodup :=
  nodup_eraseDups _

theorem mem_groupTurnIds : turnId ∈ groupTurnIds events ↔
    ∃ event ∈ events, groupedTurn event = some turnId := by
  rw [groupTurnIds, List.mem_eraseDups, List.mem_filterMap]

theorem truthy_eq_some {text : Option String} {value : String} :
    truthy text = some value ↔ text = some value ∧ value ≠ "" := by
  rw [truthy, Option.filter_eq_some_iff, decide_eq_true_eq]

theorem groupedTurn_spec (h : groupedTurn event = some turnId) :
    event.turnId = some turnId ∧ turnId ≠ "" ∧ isTurnActivityEvent event = true := by
  unfold groupedTurn at h
  split at h
  · next hkind =>
    obtain ⟨hturn, hne⟩ := truthy_eq_some.mp h
    refine ⟨hturn, hne, ?_⟩
    unfold isTurnActivityEvent
    rcases hkind with hkind | hkind <;> rw [hkind]
  · cases h

theorem inTurnGroup_iff : inTurnGroup events turnId event = true ↔
    isTurnActivityEvent event = true ∧ (event.turnId = some turnId ∨
      ∃ commandId, turnCommandIds events turnId = some commandId ∧
        event.commandId = some commandId) := by
  rw [inTurnGroup, Bool.and_eq_true, Bool.or_eq_true, beq_iff_eq, Option.any_eq_true]
  simp only [beq_iff_eq]

/-- The command of a turn is that of the last of its events that has one. -/
theorem turnCommandIds_eq (events : List TimelineEvent) (turnId : TurnId) :
    turnCommandIds events turnId = (events.filterMap (commandOf turnId)).getLast? := by
  induction events using List.reverseRecOn with
  | nil => rfl
  | append_singleton events event ih =>
    have hstep : turnCommandIds (events ++ [event]) turnId =
        (match truthy event.turnId, truthy event.commandId with
        | some turnId, some commandId =>
          Function.update (turnCommandIds events) turnId (some commandId)
        | _, _ => turnCommandIds events) turnId := by
      rw [turnCommandIds, List.foldl_append, List.foldl_cons, List.foldl_nil, ← turnCommandIds]
    rw [hstep, List.filterMap_append, List.filterMap_cons, List.filterMap_nil, commandOf]
    cases hturn : truthy event.turnId with
    | none => simpa using ih
    | some other =>
      cases hcommand : truthy event.commandId with
      | none =>
        rw [ite_self]
        simpa using ih
      | some commandId =>
        dsimp only
        by_cases hother : other = turnId
        · subst hother
          rw [Function.update_self, if_pos rfl]
          exact List.getLast?_concat.symm
        · rw [Function.update_of_ne (Ne.symm hother), if_neg fun h => hother (Option.some.inj h)]
          simpa using ih

/-- The group of a turn: there is one, and its events are those of the turn, sorted. -/
theorem turnActivityGroup_spec (clock : ClockTexts) (h : turnId ∈ groupTurnIds events) :
    ∃ group, turnActivityGroup clock events turnId = some group ∧ group.turnId = turnId ∧
      group.events = sortBy (compareEvents clock) (events.filter (inTurnGroup events turnId)) := by
  obtain ⟨event, hmem, hgrouped⟩ := mem_groupTurnIds.mp h
  obtain ⟨hturn, -, hactivity⟩ := groupedTurn_spec hgrouped
  have hin : event ∈ sortBy (compareEvents clock) (events.filter (inTurnGroup events turnId)) :=
    Lib.mem_sortBy.mpr (List.mem_filter.mpr ⟨hmem, inTurnGroup_iff.mpr ⟨hactivity, .inl hturn⟩⟩)
  unfold turnActivityGroup
  cases hsorted : sortBy (compareEvents clock) (events.filter (inTurnGroup events turnId)) with
  | nil =>
    rw [hsorted] at hin
    cases hin
  | cons first rest => exact ⟨_, rfl, rfl, rfl⟩

theorem mem_turnActivityGroups {group : TurnActivityGroup} :
    group ∈ turnActivityGroups clock events ↔
      ∃ turnId ∈ groupTurnIds events, turnActivityGroup clock events turnId = some group := by
  rw [turnActivityGroups, Lib.mem_sortBy, List.mem_filterMap]

/-- **What a group of a turn is**: the turn has a group, and the events are those in it. -/
theorem group_spec {group : TurnActivityGroup} (h : group ∈ turnActivityGroups clock events) :
    group.turnId ∈ groupTurnIds events ∧
      ∀ event, event ∈ group.events ↔
        event ∈ events ∧ inTurnGroup events group.turnId event = true := by
  obtain ⟨turnId, hturn, hgroup⟩ := mem_turnActivityGroups.mp h
  obtain ⟨other, hother, rfl, hevents⟩ := turnActivityGroup_spec clock hturn
  obtain rfl := Option.some.inj (hgroup.symm.trans hother)
  refine ⟨hturn, fun event => ?_⟩
  rw [hevents, Lib.mem_sortBy, List.mem_filter]

theorem exists_group (clock : ClockTexts) (h : turnId ∈ groupTurnIds events) :
    ∃ group ∈ turnActivityGroups clock events, group.turnId = turnId := by
  obtain ⟨group, hgroup, hturn, -⟩ := turnActivityGroup_spec clock h
  exact ⟨group, mem_turnActivityGroups.mpr ⟨turnId, h, hgroup⟩, hturn⟩

/-- The groups are of different turns. -/
theorem nodup_groups (clock : ClockTexts) (events : List TimelineEvent) :
    ((turnActivityGroups clock events).map (·.turnId)).Nodup := by
  have hperm := (Lib.perm_sortBy (fun left right : TurnActivityGroup =>
    compareEvents clock left.first right.first)
    ((groupTurnIds events).filterMap (turnActivityGroup clock events))).map (·.turnId)
  refine hperm.nodup_iff.mpr ?_
  rw [List.map_filterMap]
  have hself : ∀ turnId ∈ groupTurnIds events,
      ((turnActivityGroup clock events turnId).map (·.turnId)) = some turnId := by
    intro turnId hturn
    obtain ⟨group, hgroup, hid, -⟩ := turnActivityGroup_spec clock hturn
    rw [hgroup, Option.map_some, hid]
  rw [List.filterMap_congr hself, List.filterMap_some]
  exact nodup_groupTurnIds events

theorem sessionGroup_spec {group : SessionActivityGroup}
    (h : sessionActivityGroup clock detail = some group) (event : TimelineEvent) :
    event ∈ group.events ↔
      event ∈ detail.events ∧ inSessionGroup detail.messages event = true := by
  unfold sessionActivityGroup at h
  have hmem : event ∈ sortBy (compareEvents clock)
      (detail.events.filter (inSessionGroup detail.messages)) ↔
      event ∈ detail.events ∧ inSessionGroup detail.messages event = true := by
    rw [Lib.mem_sortBy, List.mem_filter]
  split at h
  · cases h
  · next first rest hsorted =>
    rw [← hmem, hsorted, ← Option.some.inj h]
    rfl

theorem exists_sessionGroup (clock : ClockTexts) (hmem : event ∈ detail.events)
    (h : inSessionGroup detail.messages event = true) :
    ∃ group, sessionActivityGroup clock detail = some group := by
  have hin : event ∈ sortBy (compareEvents clock)
      (detail.events.filter (inSessionGroup detail.messages)) :=
    Lib.mem_sortBy.mpr (List.mem_filter.mpr ⟨hmem, h⟩)
  unfold sessionActivityGroup
  split
  · next hnil =>
    rw [hnil] at hin
    cases hin
  · exact ⟨_, rfl⟩

/-! ## 9. The blocks of a timeline -/

theorem map_mapIdx_eq {α β γ : Type} {f : Nat → α → β} {g : β → γ} {h : α → γ}
    (hfg : ∀ i x, g (f i x) = h x) (xs : List α) : (xs.mapIdx f).map g = xs.map h := by
  refine List.ext_getElem? fun i => ?_
  rw [List.getElem?_map, List.getElem?_mapIdx, List.getElem?_map, Option.map_map]
  exact congrArg (Option.map · _) (funext (hfg i))

/-- The items before they are sorted. -/
theorem items_eq (clock : ClockTexts) (detail : TimelineDetail) :
    (orderedItems clock detail).map (·.item) =
      detail.messages.map (fun message => ⟨blockFromMessage message detail.events, none⟩) ++
      (sessionActivityGroup clock detail).toList.map
        (fun group => ⟨blockFromSessionActivity group, none⟩) ++
      (turnActivityGroups clock detail.events).map
        (fun group => ⟨blockFromTurnActivity group detail.events, none⟩) ++
      (detail.events.filter (isRemaining clock detail)).map
        (blockFromEvent (pendingApprovalIds clock detail.events)) := by
  have hmessages : (messageBlocks detail).map (·.item) = detail.messages.map fun message =>
      ⟨blockFromMessage message detail.events, none⟩ := map_mapIdx_eq (by intros; rfl) _
  have hsession : (sessionActivityBlocks clock detail).map (·.item) =
      (sessionActivityGroup clock detail).toList.map fun group =>
        ⟨blockFromSessionActivity group, none⟩ := List.map_map
  have hturns : (activityBlocks clock detail).map (·.item) =
      (turnActivityGroups clock detail.events).map fun group =>
        ⟨blockFromTurnActivity group detail.events, none⟩ := map_mapIdx_eq (by intros; rfl) _
  have hevents : (eventBlocks clock detail).map (·.item) =
      (detail.events.filter (isRemaining clock detail)).map
        (blockFromEvent (pendingApprovalIds clock detail.events)) :=
    map_mapIdx_eq (by intros; rfl) _
  rw [orderedItems, List.map_append, List.map_append, List.map_append, hmessages, hsession, hturns,
    hevents]

theorem build_perm (clock : ClockTexts) (detail : TimelineDetail) :
    (buildSessionTimelineBlocks clock detail).Perm ((orderedItems clock detail).map (·.item)) :=
  (Lib.perm_sortBy _ _).map _

/-- **What a block of the timeline is.** -/
theorem mem_build {item : TimelineBlockItem} : item ∈ buildSessionTimelineBlocks clock detail ↔
    (∃ message ∈ detail.messages, ⟨blockFromMessage message detail.events, none⟩ = item) ∨
    (∃ group, sessionActivityGroup clock detail = some group ∧
      ⟨blockFromSessionActivity group, none⟩ = item) ∨
    (∃ group ∈ turnActivityGroups clock detail.events,
      ⟨blockFromTurnActivity group detail.events, none⟩ = item) ∨
    ∃ event ∈ detail.events, isRemaining clock detail event = true ∧
      blockFromEvent (pendingApprovalIds clock detail.events) event = item := by
  rw [(build_perm clock detail).mem_iff, items_eq]
  simp only [List.mem_append, List.mem_map, List.mem_filter, Option.mem_toList, or_assoc,
    and_assoc]

theorem blockFromEvent_blockId (pending : List ApprovalId) (event : TimelineEvent) :
    (blockFromEvent pending event).block.blockId = "event:" ++ event.eventId := by
  unfold blockFromEvent
  split <;> rfl

theorem blockFromEvent_rows (pending : List ApprovalId) (event : TimelineEvent) :
    (blockFromEvent pending event).block.rows = [] := by
  unfold blockFromEvent
  split <;> rfl

theorem session_ne_message (a b : String) : "session-activity:" ++ a ≠ "message:" ++ b := by
  intro h
  have := congrArg String.toList h
  simp at this

theorem turn_ne_message (a b : String) : "turn-activity:" ++ a ≠ "message:" ++ b := by
  intro h
  have := congrArg String.toList h
  simp at this

theorem event_ne_message (a b : String) : "event:" ++ a ≠ "message:" ++ b := by
  intro h
  have := congrArg String.toList h
  simp at this

theorem turn_ne_session (a b : String) : "turn-activity:" ++ a ≠ "session-activity:" ++ b := by
  intro h
  have := congrArg String.toList h
  simp at this

theorem event_ne_session (a b : String) : "event:" ++ a ≠ "session-activity:" ++ b := by
  intro h
  have := congrArg String.toList h
  simp at this

theorem event_ne_turn (a b : String) : "event:" ++ a ≠ "turn-activity:" ++ b := by
  intro h
  have := congrArg String.toList h
  simp at this

theorem nodup_map_append {α : Type} {xs : List α} {f : α → String} (text : String)
    (h : (xs.map f).Nodup) : (xs.map fun x => text ++ f x).Nodup := by
  have hmap : (xs.map fun x => text ++ f x) = (xs.map f).map (text ++ ·) := (List.map_map).symm
  rw [hmap]
  exact h.map fun a b hab => (String.append_right_inj text).mp hab

/-- **The blocks have different ids.** -/
theorem nodup_blockIds (hmessages : (detail.messages.map (·.messageId)).Nodup)
    (hevents : (detail.events.map (·.eventId)).Nodup) :
    ((buildSessionTimelineBlocks clock detail).map (·.block.blockId)).Nodup := by
  refine ((build_perm clock detail).map _).nodup_iff.mpr ?_
  have hids : ((orderedItems clock detail).map (·.item)).map (·.block.blockId) =
      detail.messages.map (fun message => "message:" ++ message.messageId) ++
      (sessionActivityGroup clock detail).toList.map
        (fun group => "session-activity:" ++ group.first.eventId) ++
      (turnActivityGroups clock detail.events).map
        (fun group => "turn-activity:" ++ group.turnId) ++
      (detail.events.filter (isRemaining clock detail)).map
        (fun event => "event:" ++ event.eventId) := by
    rw [items_eq, List.map_append, List.map_append, List.map_append, List.map_map, List.map_map,
      List.map_map, List.map_map]
    refine congrArg _ (List.map_congr_left fun event _ => ?_)
    exact blockFromEvent_blockId _ event
  rw [hids, List.nodup_append, List.nodup_append, List.nodup_append]
  have hsession : ((sessionActivityGroup clock detail).toList.map
      fun group => "session-activity:" ++ group.first.eventId).Nodup := by
    cases sessionActivityGroup clock detail with
    | none => exact List.nodup_nil
    | some group => exact List.nodup_singleton _
  refine ⟨⟨⟨nodup_map_append _ hmessages, hsession, ?_⟩, nodup_map_append _ (nodup_groups _ _), ?_⟩,
    nodup_map_append _ (hevents.sublist (List.filter_sublist.map _)), ?_⟩
  · intro a ha b hb hab
    obtain ⟨message, -, rfl⟩ := List.mem_map.mp ha
    obtain ⟨group, -, rfl⟩ := List.mem_map.mp hb
    exact session_ne_message _ _ hab.symm
  · intro a ha b hb hab
    obtain ⟨group, -, rfl⟩ := List.mem_map.mp hb
    rcases List.mem_append.mp ha with ha | ha
    · obtain ⟨message, -, rfl⟩ := List.mem_map.mp ha
      exact turn_ne_message _ _ hab.symm
    · obtain ⟨session, -, rfl⟩ := List.mem_map.mp ha
      exact turn_ne_session _ _ hab.symm
  · intro a ha b hb hab
    obtain ⟨event, -, rfl⟩ := List.mem_map.mp hb
    rcases List.mem_append.mp ha with ha | ha
    · rcases List.mem_append.mp ha with ha | ha
      · obtain ⟨message, -, rfl⟩ := List.mem_map.mp ha
        exact event_ne_message _ _ hab.symm
      · obtain ⟨session, -, rfl⟩ := List.mem_map.mp ha
        exact event_ne_session _ _ hab.symm
    · obtain ⟨group, -, rfl⟩ := List.mem_map.mp ha
      exact event_ne_turn _ _ hab.symm

/-- An event that is shown on its own is no message's, in no group and no start or end of a turn
    with a group. -/
theorem isRemaining_iff : isRemaining clock detail event = true ↔
    (∀ message ∈ detail.messages, message.sourceEventId ≠ some event.eventId) ∧
    (∀ group ∈ turnActivityGroups clock detail.events, ∀ row ∈ group.events,
      row.eventId ≠ event.eventId) ∧
    (∀ group, sessionActivityGroup clock detail = some group → ∀ row ∈ group.events,
      row.eventId ≠ event.eventId) ∧
    isGroupedTurnBoundaryEvent ((turnActivityGroups clock detail.events).map (·.turnId)) event =
      false := by
  rw [isRemaining, Bool.and_eq_true, Bool.and_eq_true, Bool.and_eq_true, and_assoc, and_assoc]
  simp only [Bool.not_eq_true', List.contains_eq_mem, decide_eq_false_iff_not, List.mem_filterMap,
    List.mem_flatMap, List.mem_map, not_exists, not_and, Option.mem_toList]

/-- A start or an end of a turn with a group is in the group. -/
theorem boundary_in_group
    (h : isGroupedTurnBoundaryEvent ((turnActivityGroups clock events).map (·.turnId)) event = true)
    (hmem : event ∈ events) : ∃ group ∈ turnActivityGroups clock events, event ∈ group.events := by
  rw [isGroupedTurnBoundaryEvent, Option.any_eq_true] at h
  obtain ⟨turnId, hturn, hboth⟩ := h
  obtain ⟨hin, hkind⟩ := Bool.and_eq_true_iff.mp hboth
  obtain ⟨group, hgroup, rfl⟩ := List.mem_map.mp (List.contains_iff_mem.mp hin)
  have hactivity : isTurnActivityEvent event = true := by
    unfold isTurnActivityEvent
    rcases Bool.or_eq_true_iff.mp hkind with hkind | hkind <;> rw [eq_of_beq hkind]
  exact ⟨group, hgroup, ((group_spec hgroup).2 event).mpr
    ⟨hmem, inTurnGroup_iff.mpr ⟨hactivity, .inl (truthy_eq_some.mp hturn).1⟩⟩⟩

/-- **Every event is shown.** -/
theorem covered (hevents : (detail.events.map (·.eventId)).Nodup) (hmem : event ∈ detail.events) :
    ∃ item ∈ buildSessionTimelineBlocks clock detail, item.block.Shows detail event := by
  by_cases hremaining : isRemaining clock detail event = true
  · refine ⟨_, mem_build.mpr (.inr (.inr (.inr ⟨event, hmem, hremaining, rfl⟩))), .inr (.inr ?_)⟩
    exact blockFromEvent_blockId _ event
  rw [isRemaining_iff] at hremaining
  have hsame : ∀ {row : TimelineEvent}, row ∈ detail.events → row.eventId = event.eventId →
      row = event := fun hrow hid => List.inj_on_of_nodup_map hevents hrow hmem hid
  have hturns : ∀ group ∈ turnActivityGroups clock detail.events, event ∈ group.events →
      ∃ item ∈ buildSessionTimelineBlocks clock detail, item.block.Shows detail event :=
    fun group hgroup hin =>
      ⟨_, mem_build.mpr (.inr (.inr (.inl ⟨group, hgroup, rfl⟩))), .inr (.inl hin)⟩
  by_cases hmessage : ∃ message ∈ detail.messages, message.sourceEventId = some event.eventId
  · obtain ⟨message, hmessage, hsource⟩ := hmessage
    exact ⟨_, mem_build.mpr (.inl ⟨message, hmessage, rfl⟩), .inl ⟨message, hmessage, hsource, rfl⟩⟩
  by_cases hgroup : ∃ group ∈ turnActivityGroups clock detail.events, ∃ row ∈ group.events,
      row.eventId = event.eventId
  · obtain ⟨group, hin, row, hrow, hid⟩ := hgroup
    obtain rfl := hsame (((group_spec hin).2 row).mp hrow).1 hid
    exact hturns group hin hrow
  by_cases hsession : ∃ group, sessionActivityGroup clock detail = some group ∧
      ∃ row ∈ group.events, row.eventId = event.eventId
  · obtain ⟨group, hsome, row, hrow, hid⟩ := hsession
    obtain rfl := hsame ((sessionGroup_spec hsome row).mp hrow).1 hid
    exact ⟨_, mem_build.mpr (.inr (.inl ⟨group, hsome, rfl⟩)), .inr (.inl hrow)⟩
  -- what is left is a start or an end of a turn with a group
  have hboundary : isGroupedTurnBoundaryEvent
      ((turnActivityGroups clock detail.events).map (·.turnId)) event = true := by
    by_contra hnot
    refine hremaining ⟨fun message hm he => hmessage ⟨message, hm, he⟩,
      fun group hg row hrow hid => hgroup ⟨group, hg, row, hrow, hid⟩,
      fun group hg row hrow hid => hsession ⟨group, hg, row, hrow, hid⟩,
      Bool.eq_false_iff.mpr hnot⟩
  obtain ⟨group, hgroup, hin⟩ := boundary_in_group hboundary hmem
  exact hturns group hgroup hin

/-- A block with rows is a group's. -/
theorem rows_cases {item : TimelineBlockItem} (h : item ∈ buildSessionTimelineBlocks clock detail)
    (hrow : event ∈ item.block.rows) :
    (∃ group, sessionActivityGroup clock detail = some group ∧
      ⟨blockFromSessionActivity group, none⟩ = item ∧ event ∈ group.events) ∨
    ∃ group ∈ turnActivityGroups clock detail.events,
      ⟨blockFromTurnActivity group detail.events, none⟩ = item ∧ event ∈ group.events := by
  rcases mem_build.mp h with ⟨message, -, rfl⟩ | ⟨group, hgroup, rfl⟩ | ⟨group, hgroup, rfl⟩ |
    ⟨own, -, -, rfl⟩
  · cases hrow
  · exact .inl ⟨group, hgroup, rfl, hrow⟩
  · exact .inr ⟨group, hgroup, rfl, hrow⟩
  · rw [blockFromEvent_rows] at hrow
    cases hrow

/-- **No event is in a group and in a block of its own.** -/
theorem own_apart {a b : TimelineBlockItem} (ha : a ∈ buildSessionTimelineBlocks clock detail)
    (hb : b ∈ buildSessionTimelineBlocks clock detail) (hrow : event ∈ a.block.rows) :
    ¬ b.block.IsOwn event := by
  intro hown
  rcases mem_build.mp hb with ⟨message, -, rfl⟩ | ⟨group, -, rfl⟩ | ⟨group, -, rfl⟩ |
    ⟨other, -, hremaining, rfl⟩
  · exact event_ne_message _ _ hown.symm
  · exact event_ne_session _ _ hown.symm
  · exact event_ne_turn _ _ hown.symm
  · have hid : other.eventId = event.eventId :=
      (String.append_right_inj "event:").mp ((blockFromEvent_blockId _ other).symm.trans hown)
    obtain ⟨-, hturns, hsession, -⟩ := isRemaining_iff.mp hremaining
    rcases rows_cases ha hrow with ⟨group, hgroup, -, hin⟩ | ⟨group, hgroup, -, hin⟩
    · exact hsession group hgroup event hin hid.symm
    · exact hturns group hgroup event hin hid.symm

/-- **No event is in two groups exactly when the groups are apart.** -/
theorem apart_iff (hmessages : (detail.messages.map (·.messageId)).Nodup)
    (hevents : (detail.events.map (·.eventId)).Nodup) :
    ((buildSessionTimelineBlocks clock detail).Pairwise fun a b =>
      ∀ event ∈ detail.events, ¬ (event ∈ a.block.rows ∧ event ∈ b.block.rows)) ↔
      GroupsApart detail := by
  have hids : ((buildSessionTimelineBlocks clock detail).map (·.block.blockId)).Nodup :=
    nodup_blockIds hmessages hevents
  constructor
  · intro h
    have hboth : ∀ {a b : UiBlock}, ⟨a, none⟩ ∈ buildSessionTimelineBlocks clock detail →
        ⟨b, none⟩ ∈ buildSessionTimelineBlocks clock detail → a.blockId ≠ b.blockId →
        ∀ event ∈ detail.events, event ∈ a.rows → ¬ event ∈ b.rows := by
      intro a b ha hb hne event hmem hrow hrow'
      have hsymm : Std.Symm fun a b : TimelineBlockItem =>
          ∀ event ∈ detail.events, ¬ (event ∈ a.block.rows ∧ event ∈ b.block.rows) :=
        ⟨fun a b hab event hmem hrows => hab event hmem hrows.symm⟩
      exact h.forall ha hb (fun he => hne (congrArg (·.block.blockId) he)) event hmem
        ⟨hrow, hrow'⟩
    have hturn : ∀ {turnId}, turnId ∈ groupTurnIds detail.events →
        ∃ group ∈ turnActivityGroups clock detail.events, group.turnId = turnId ∧
          ⟨blockFromTurnActivity group detail.events, none⟩ ∈
            buildSessionTimelineBlocks clock detail := by
      intro turnId hturn
      obtain ⟨group, hgroup, hid⟩ := exists_group clock hturn
      exact ⟨group, hgroup, hid, mem_build.mpr (.inr (.inr (.inl ⟨group, hgroup, rfl⟩)))⟩
    refine ⟨fun turnId ht turnId' ht' hne event hmem hin hin' => ?_,
      fun turnId ht event hmem hin hsession => ?_⟩
    · obtain ⟨group, hgroup, rfl, hblock⟩ := hturn ht
      obtain ⟨group', hgroup', rfl, hblock'⟩ := hturn ht'
      exact hboth hblock hblock'
        (fun he => hne ((String.append_right_inj "turn-activity:").mp he)) event hmem
        (((group_spec hgroup).2 event).mpr ⟨hmem, hin⟩)
        (((group_spec hgroup').2 event).mpr ⟨hmem, hin'⟩)
    · obtain ⟨group, hgroup, rfl, hblock⟩ := hturn ht
      obtain ⟨session, hsome⟩ := exists_sessionGroup clock hmem hsession
      exact hboth hblock (mem_build.mpr (.inr (.inl ⟨session, hsome, rfl⟩)))
        (turn_ne_session _ _) event hmem (((group_spec hgroup).2 event).mpr ⟨hmem, hin⟩)
        ((sessionGroup_spec hsome event).mpr ⟨hmem, hsession⟩)
  · intro h
    refine (List.Nodup.of_map _ hids).pairwise_of_forall_ne fun a ha b hb hne event hmem hrows => ?_
    rcases rows_cases ha hrows.1 with ⟨session, hsome, rfl, hin⟩ | ⟨group, hgroup, rfl, hin⟩
    · have hsession := ((sessionGroup_spec hsome event).mp hin).2
      rcases rows_cases hb hrows.2 with ⟨session', hsome', rfl, -⟩ | ⟨group, hgroup, rfl, hin'⟩
      · exact hne (by rw [Option.some.inj (hsome.symm.trans hsome')])
      · exact h.session _ (group_spec hgroup).1 event hmem
          (((group_spec hgroup).2 event).mp hin').2 hsession
    · have hinGroup := (((group_spec hgroup).2 event).mp hin).2
      rcases rows_cases hb hrows.2 with ⟨session, hsome, rfl, hin'⟩ | ⟨group', hgroup', rfl, hin'⟩
      · exact h.session _ (group_spec hgroup).1 event hmem hinGroup
          ((sessionGroup_spec hsome event).mp hin').2
      · by_cases hturn : group.turnId = group'.turnId
        · exact hne (by rw [List.inj_on_of_nodup_map (nodup_groups clock detail.events) hgroup
            hgroup' hturn])
        · exact h.turns _ (group_spec hgroup).1 _ (group_spec hgroup').1 hturn event hmem hinGroup
            (((group_spec hgroup').2 event).mp hin').2

/-! ## 10. The order of the blocks -/

theorem sourceIndex_mapIdx {α : Type} (base : Nat) (xs : List α)
    {f : Nat → α → OrderedTimelineBlockItem} (hf : ∀ i x, (f i x).sourceIndex = base + i) :
    (xs.mapIdx f).map (·.sourceIndex) = List.range' base xs.length := by
  refine List.ext_getElem? fun i => ?_
  rw [List.getElem?_map, List.getElem?_mapIdx, Option.map_map]
  by_cases hi : i < xs.length
  · rw [List.getElem?_range' hi, List.getElem?_eq_getElem hi, Option.map_some, Nat.one_mul]
    exact congrArg some (hf i _)
  · rw [List.getElem?_eq_none (by omega), List.getElem?_eq_none (by rw [List.length_range']; omega),
      Option.map_none]

theorem indices_eq (clock : ClockTexts) (detail : TimelineDetail) :
    (orderedItems clock detail).map (·.sourceIndex) =
      List.range' 0 detail.messages.length ++
      List.replicate (sessionActivityBlocks clock detail).length
        (detail.messages.length + (activityBlocks clock detail).length) ++
      List.range' detail.messages.length (activityBlocks clock detail).length ++
      List.range' (detail.messages.length + (activityBlocks clock detail).length +
        (sessionActivityBlocks clock detail).length) (eventBlocks clock detail).length := by
  have hmessages : (messageBlocks detail).map (·.sourceIndex) =
      List.range' 0 detail.messages.length :=
    sourceIndex_mapIdx 0 _ fun i _ => (Nat.zero_add i).symm
  have hsession : (sessionActivityBlocks clock detail).map (·.sourceIndex) =
      List.replicate (sessionActivityBlocks clock detail).length
        (detail.messages.length + (activityBlocks clock detail).length) := by
    unfold sessionActivityBlocks
    cases sessionActivityGroup clock detail <;> rfl
  have hturns : (activityBlocks clock detail).map (·.sourceIndex) =
      List.range' detail.messages.length (activityBlocks clock detail).length := by
    rw [activityBlocks, sourceIndex_mapIdx _ _ (by intros; rfl), List.length_mapIdx]
  have hevents : (eventBlocks clock detail).map (·.sourceIndex) =
      List.range' (detail.messages.length + (activityBlocks clock detail).length +
        (sessionActivityBlocks clock detail).length) (eventBlocks clock detail).length := by
    rw [eventBlocks, sourceIndex_mapIdx _ _ (by intros; rfl), List.length_mapIdx]
  rw [orderedItems, List.map_append, List.map_append, List.map_append, hmessages, hsession, hturns,
    hevents]

theorem length_sessionActivityBlocks (clock : ClockTexts) (detail : TimelineDetail) :
    (sessionActivityBlocks clock detail).length ≤ 1 := by
  unfold sessionActivityBlocks
  cases sessionActivityGroup clock detail <;> simp

/-- **No two blocks have one source index.** -/
theorem nodup_indices (clock : ClockTexts) (detail : TimelineDetail) :
    ((orderedItems clock detail).map (·.sourceIndex)).Nodup := by
  have hone := length_sessionActivityBlocks clock detail
  rw [indices_eq, List.nodup_append, List.nodup_append, List.nodup_append]
  have hreplicate : (List.replicate (sessionActivityBlocks clock detail).length
      (detail.messages.length + (activityBlocks clock detail).length)).Nodup :=
    List.nodup_replicate.mpr hone
  refine ⟨⟨⟨List.nodup_range', hreplicate, ?_⟩, List.nodup_range', ?_⟩, List.nodup_range', ?_⟩
  · intro a ha b hb hab
    have ha := List.mem_range'_1.mp ha
    have hb := List.eq_of_mem_replicate hb
    omega
  · intro a ha b hb hab
    have hb := List.mem_range'_1.mp hb
    rcases List.mem_append.mp ha with ha | ha
    · have ha := List.mem_range'_1.mp ha
      omega
    · have ha := List.eq_of_mem_replicate ha
      omega
  · intro a ha b hb hab
    have hb := List.mem_range'_1.mp hb
    rcases List.mem_append.mp ha with ha | ha
    · rcases List.mem_append.mp ha with ha | ha
      · have ha := List.mem_range'_1.mp ha
        omega
      · have hpos := List.length_pos_of_mem ha
        rw [List.length_replicate] at hpos
        have ha := List.eq_of_mem_replicate ha
        omega
    · have ha := List.mem_range'_1.mp ha
      omega

theorem compareItems_ne_eq {a b : OrderedTimelineBlockItem} (ha : a ∈ orderedItems clock detail)
    (hb : b ∈ orderedItems clock detail) (hne : a ≠ b) :
    compareTimelineBlockItems clock a b ≠ .eq := by
  intro h
  rw [compareTimelineBlockItems, compareLex_eq_eq, compareLex_eq_eq] at h
  exact hne (List.inj_on_of_nodup_map (nodup_indices clock detail) ha hb
    (Std.LawfulEqCmp.compare_eq_iff_eq.mp h.2.2))

/-- Of two different blocks the one that compares as less comes first. -/
theorem before_sorted_iff {a b : OrderedTimelineBlockItem} (ha : a ∈ orderedItems clock detail)
    (hb : b ∈ orderedItems clock detail) (hne : a ≠ b) :
    Before (sortBy (compareTimelineBlockItems clock) (orderedItems clock detail)) a b ↔
      compareTimelineBlockItems clock a b = .lt := by
  have htrans := transCmp_compareItems clock
  rw [Lib.before_sortBy_iff (List.Nodup.of_map _ (nodup_indices clock detail)) ha hb hne]
  constructor
  · exact fun h => h.resolve_right fun heq => compareItems_ne_eq ha hb hne heq.1
  · exact .inl

/-- **The blocks are in order exactly when the texts are.** -/
theorem ordered_iff (clock : ClockTexts) (detail : TimelineDetail) :
    ((buildSessionTimelineBlocks clock detail).Pairwise fun a b => ∀ m m',
      blockMoment clock detail a.block = some m → blockMoment clock detail b.block = some m' →
        m ≤ m') ↔ TextsInOrder clock detail := by
  have htrans := transCmp_compareItems clock
  have hnodup : (sortBy (compareTimelineBlockItems clock) (orderedItems clock detail)).Nodup :=
    (Lib.perm_sortBy _ _).nodup_iff.mpr (List.Nodup.of_map _ (nodup_indices clock detail))
  rw [buildSessionTimelineBlocks, List.pairwise_map]
  constructor
  · intro h a ha b hb m m' hm hm' hlt
    have hne : a ≠ b := fun he => by
      subst he
      rw [Option.some.inj (hm.symm.trans hm')] at hlt
      exact lt_irrefl _ hlt
    rcases Lib.before_or_before (Lib.mem_sortBy.mpr ha) (Lib.mem_sortBy.mpr hb) hne with hab | hba
    · exact (before_sorted_iff ha hb hne).mp hab
    · have hle := List.rel_of_pairwise_cons (h.sublist hba) List.mem_cons_self m' m hm' hm
      exact absurd hlt (not_lt_of_ge hle)
  · intro h
    refine (hnodup.and (Lib.pairwise_before _)).imp_of_mem fun {a b} ha hb hboth m m' hm hm' => ?_
    have ha := Lib.mem_sortBy.mp ha
    have hb := Lib.mem_sortBy.mp hb
    by_contra hnot
    have hba := h b hb a ha m' m hm' hm (not_le.mp hnot)
    exact (hboth.2).asymm hnodup
      ((before_sorted_iff hb ha (Ne.symm hboth.1)).mpr hba)

/-! ## 11. Another order of the events -/

theorem eq_of_perm_short {α : Type} {xs ys : List α} (h : xs.Perm ys) (hshort : ys.length ≤ 1) :
    xs = ys := by
  match ys with
  | [] => exact List.perm_nil.mp h
  | [y] => exact List.perm_singleton.mp h

/-- At most one element has a key, where the keys are different. -/
theorem length_filter_key {α : Type} {xs : List α} {f : α → String} (h : (xs.map f).Nodup)
    (key : String) : (xs.filter (f · == key)).length ≤ 1 := by
  have hcount : (xs.filter (f · == key)).length = (xs.map f).count key := by
    rw [← List.countP_eq_length_filter, List.count_eq_countP, List.countP_map]
    rfl
  rw [hcount]
  exact List.nodup_iff_count_le_one.mp h key

theorem find?_eq_of_perm {xs ys : List TimelineEvent} {p : TimelineEvent → Bool} (h : xs.Perm ys)
    (hshort : (ys.filter p).length ≤ 1) : xs.find? p = ys.find? p := by
  rw [← List.head?_filter, ← List.head?_filter, eq_of_perm_short (h.filter p) hshort]

variable {events' : List TimelineEvent}

theorem sortedEvents_eq (hdistinct : DistinctMoments clock events) (hperm : events'.Perm events)
    {p q : TimelineEvent → Bool} (hp : ∀ event ∈ events, q event = p event) :
    sortBy (compareEvents clock) (events'.filter q) =
      sortBy (compareEvents clock) (events.filter p) := by
  have htrans := transCmp_compareEvents clock
  have hfilter : events'.filter q = events'.filter p :=
    List.filter_congr fun event hevent => hp event (hperm.mem_iff.mp hevent)
  rw [hfilter]
  refine Lib.sortBy_eq_of_perm (hperm.filter p) fun a ha b hb hcmp => ?_
  exact eq_of_compareEvents clock hdistinct (hperm.mem_iff.mp (List.mem_of_mem_filter ha))
    (hperm.mem_iff.mp (List.mem_of_mem_filter hb)) hcmp

theorem perm_groupTurnIds (hperm : events'.Perm events) :
    (groupTurnIds events').Perm (groupTurnIds events) := by
  refine (List.perm_ext_iff_of_nodup (nodup_groupTurnIds _) (nodup_groupTurnIds _)).mpr
    fun turnId => ?_
  rw [mem_groupTurnIds, mem_groupTurnIds]
  simp only [hperm.mem_iff]

theorem mem_of_turnCommandIds {commandId : CommandId}
    (h : turnCommandIds events turnId = some commandId) :
    ∃ event ∈ events, commandOf turnId event = some commandId := by
  rw [turnCommandIds_eq] at h
  exact List.mem_filterMap.mp (List.mem_of_getLast? h)

/-- The members of a group do not depend on the order of the events. -/
theorem inTurnGroup_perm (hfree : OrderFree events) (hperm : events'.Perm events)
    (hturn : turnId ∈ groupTurnIds events) (hmem : event ∈ events) :
    inTurnGroup events' turnId event = inTurnGroup events turnId event := by
  -- the command of one order does not let in what the other one's leaves out
  have hside : ∀ {xs ys : List TimelineEvent}, xs.Perm events → ys.Perm events →
      inTurnGroup xs turnId event = true → inTurnGroup ys turnId event = true := by
    intro xs ys hxs hys hin
    obtain ⟨hactivity, howner⟩ := inTurnGroup_iff.mp hin
    refine inTurnGroup_iff.mpr ⟨hactivity, ?_⟩
    by_cases hown : event.turnId = some turnId
    · exact .inl hown
    obtain ⟨commandId, hcommand, hevent⟩ := howner.resolve_left hown
    obtain ⟨a, ha, haCommand⟩ := mem_of_turnCommandIds hcommand
    cases hother : turnCommandIds ys turnId with
    | none =>
      rw [turnCommandIds_eq, List.getLast?_eq_none_iff, List.filterMap_eq_nil_iff] at hother
      have hnone := hother a (hys.mem_iff.mpr (hxs.mem_iff.mp ha))
      rw [haCommand] at hnone
      cases hnone
    | some commandId' =>
      obtain ⟨b, hb, hbCommand⟩ := mem_of_turnCommandIds hother
      by_cases hsame : commandId = commandId'
      · exact .inr ⟨commandId', rfl, hsame ▸ hevent⟩
      · exact absurd hevent (hfree.commands turnId hturn a (hxs.mem_iff.mp ha) b
          (hys.mem_iff.mp hb) commandId commandId' haCommand hbCommand hsame event hmem hactivity
          hown)
  exact Bool.eq_iff_iff.mpr ⟨hside hperm (.refl _), hside (.refl _) hperm⟩

/-- What the timeline has of a group. -/
def shape (events : List TimelineEvent) (group : TurnActivityGroup) : UiBlock × TimelineEvent :=
  (blockFromTurnActivity group events, group.first)

theorem shape_perm (hdistinct : DistinctMoments clock events) (hfree : OrderFree events)
    (hperm : events'.Perm events) (hturn : turnId ∈ groupTurnIds events) :
    (turnActivityGroup clock events' turnId).map (shape events') =
      (turnActivityGroup clock events turnId).map (shape events) := by
  have hsorted := sortedEvents_eq hdistinct hperm (p := inTurnGroup events turnId)
    (fun event hmem => inTurnGroup_perm hfree hperm hturn hmem)
  have hshort := hfree.boundaries turnId hturn
  have hboundaries := eq_of_perm_short (hperm.filter (isBoundary turnId)) hshort
  have hstarted : eventTime events' turnId .turnStarted = eventTime events turnId .turnStarted := by
    refine congrArg _ (find?_eq_of_perm hperm (le_trans ?_ hshort))
    refine (List.monotone_filter_right events fun event h => ?_).length_le
    obtain ⟨hturn, hkind⟩ := Bool.and_eq_true_iff.mp h
    rw [isBoundary, hturn, hkind]
    rfl
  unfold turnActivityGroup
  rw [hsorted]
  cases sortBy (compareEvents clock) (events.filter (inTurnGroup events turnId)) with
  | nil => rfl
  | cons first rest =>
    dsimp only
    rw [Option.map_some, Option.map_some, hstarted, shape, shape]
    simp only [blockFromTurnActivity, hboundaries]
    rfl

/-- **The groups of the turns** stand in one order, whatever the order of the events. -/
theorem shapes_perm (hdistinct : DistinctMoments clock detail.events)
    (hfree : OrderFree detail.events) (hapart : GroupsApart detail)
    (hperm : events'.Perm detail.events) :
    (turnActivityGroups clock events').map (shape events') =
      (turnActivityGroups clock detail.events).map (shape detail.events) := by
  have hcompare := transCmp_compareEvents clock
  have htrans : Std.TransCmp fun left right : UiBlock × TimelineEvent =>
      compareEvents clock left.2 right.2 := Lib.transCmp_on (compareEvents clock) Prod.snd
  have hsorted : ∀ events, (turnActivityGroups clock events).map (shape events) =
      sortBy (fun left right : UiBlock × TimelineEvent =>
        compareEvents clock left.2 right.2) ((groupTurnIds events).filterMap fun turnId =>
          (turnActivityGroup clock events turnId).map (shape events)) := by
    intro events
    have hmap := Lib.map_sortBy (shape events)
      (fun left right : UiBlock × TimelineEvent => compareEvents clock left.2 right.2)
      ((groupTurnIds events).filterMap (turnActivityGroup clock events))
    rw [List.map_filterMap] at hmap
    exact hmap
  rw [hsorted, hsorted]
  have hshapes : (groupTurnIds events').filterMap (fun turnId =>
      (turnActivityGroup clock events' turnId).map (shape events')) =
      (groupTurnIds events').filterMap fun turnId =>
        (turnActivityGroup clock detail.events turnId).map (shape detail.events) :=
    List.filterMap_congr fun turnId hturn => shape_perm hdistinct hfree hperm
      ((perm_groupTurnIds hperm).mem_iff.mp hturn)
  rw [hshapes]
  refine Lib.sortBy_eq_of_perm ((perm_groupTurnIds hperm).filterMap _) fun a ha b hb hcmp => ?_
  have hfrom : ∀ {c}, c ∈ (groupTurnIds events').filterMap (fun turnId =>
      (turnActivityGroup clock detail.events turnId).map (shape detail.events)) →
      ∃ group ∈ turnActivityGroups clock detail.events, shape detail.events group = c := by
    intro c hc
    obtain ⟨turnId, hturn, hsome⟩ := List.mem_filterMap.mp hc
    obtain ⟨group, hgroup, hshape⟩ := Option.map_eq_some_iff.mp hsome
    exact ⟨group, mem_turnActivityGroups.mpr ⟨turnId, (perm_groupTurnIds hperm).mem_iff.mp hturn,
      hgroup⟩, hshape⟩
  obtain ⟨group, hgroup, rfl⟩ := hfrom ha
  obtain ⟨group', hgroup', rfl⟩ := hfrom hb
  -- two groups that begin with one event are one group
  obtain ⟨hfirstMem, hfirstIn⟩ := ((group_spec hgroup).2 group.first).mp List.mem_cons_self
  obtain ⟨hfirstMem', hfirstIn'⟩ := ((group_spec hgroup').2 group'.first).mp List.mem_cons_self
  have hfirst : group.first = group'.first :=
    eq_of_compareEvents clock hdistinct hfirstMem hfirstMem' hcmp
  by_cases hturn : group.turnId = group'.turnId
  · rw [List.inj_on_of_nodup_map (nodup_groups clock detail.events) hgroup hgroup' hturn]
  · rw [← hfirst] at hfirstIn'
    exact absurd hfirstIn' (hapart.turns _ (group_spec hgroup).1 _ (group_spec hgroup').1 hturn _
      hfirstMem hfirstIn)

theorem activityBlocks_eq (clock : ClockTexts) (detail : TimelineDetail) :
    activityBlocks clock detail =
      ((turnActivityGroups clock detail.events).map (shape detail.events)).mapIdx
        fun sourceIndex shaped => {
          item := ⟨shaped.1, none⟩
          timestamp := shaped.2.happenedAt
          seq := shaped.2.seq
          sourceIndex := detail.messages.length + sourceIndex } := by
  refine List.ext_getElem? fun i => ?_
  rw [activityBlocks, List.getElem?_mapIdx, List.getElem?_mapIdx, List.getElem?_map, Option.map_map]
  rfl

theorem sessionGroup_perm (hdistinct : DistinctMoments clock detail.events)
    (hperm : events'.Perm detail.events) :
    sessionActivityGroup clock { detail with events := events' } =
      sessionActivityGroup clock detail := by
  have hsorted := sortedEvents_eq hdistinct hperm (p := inSessionGroup detail.messages)
    (q := inSessionGroup detail.messages) fun _ _ => rfl
  unfold sessionActivityGroup
  dsimp only
  rw [hsorted]

theorem messageBlocks_perm (hevents : (detail.events.map (·.eventId)).Nodup)
    (hperm : events'.Perm detail.events) :
    messageBlocks { detail with events := events' } = messageBlocks detail := by
  have hfilter : ∀ sourceEventId, events'.filter (·.eventId == sourceEventId) =
      detail.events.filter (·.eventId == sourceEventId) := fun sourceEventId =>
    eq_of_perm_short (hperm.filter _) (length_filter_key hevents sourceEventId)
  have hsource : ∀ message,
      messageSource events' message = messageSource detail.events message := by
    intro message
    unfold messageSource
    simp only [hfilter]
  have hblock : ∀ message, blockFromMessage message events' =
      blockFromMessage message detail.events := by
    intro message
    have hfind : ∀ sourceEventId, events'.find? (·.eventId == sourceEventId) =
        detail.events.find? (·.eventId == sourceEventId) := fun sourceEventId => by
      rw [← List.head?_filter, hfilter, List.head?_filter]
    simp only [blockFromMessage, hfind]
  simp only [messageBlocks, hsource, hblock]

/-- Which events remain, by the input alone. -/
theorem isRemaining_iff_input : isRemaining clock detail event = true ↔
    (∀ message ∈ detail.messages, message.sourceEventId ≠ some event.eventId) ∧
    (∀ turnId ∈ groupTurnIds detail.events, ∀ row ∈ detail.events,
      inTurnGroup detail.events turnId row = true → row.eventId ≠ event.eventId) ∧
    (∀ row ∈ detail.events, inSessionGroup detail.messages row = true →
      row.eventId ≠ event.eventId) ∧
    isGroupedTurnBoundaryEvent (groupTurnIds detail.events) event = false := by
  rw [isRemaining_iff]
  have hturns : ∀ turnId,
      ((turnActivityGroups clock detail.events).map (·.turnId)).contains turnId =
        (groupTurnIds detail.events).contains turnId := by
    intro turnId
    refine Bool.eq_iff_iff.mpr ?_
    rw [List.contains_iff_mem, List.contains_iff_mem, List.mem_map]
    constructor
    · rintro ⟨group, hgroup, rfl⟩
      exact (group_spec hgroup).1
    · exact exists_group clock
  have hboundary : isGroupedTurnBoundaryEvent
      ((turnActivityGroups clock detail.events).map (·.turnId)) event =
      isGroupedTurnBoundaryEvent (groupTurnIds detail.events) event := by
    simp only [isGroupedTurnBoundaryEvent, hturns]
  rw [hboundary]
  refine and_congr Iff.rfl (and_congr ?_ (and_congr ?_ Iff.rfl))
  · constructor
    · intro h turnId hturn row hrow hin
      obtain ⟨group, hgroup, rfl⟩ := exists_group clock hturn
      exact h group hgroup row (((group_spec hgroup).2 row).mpr ⟨hrow, hin⟩)
    · intro h group hgroup row hrow
      obtain ⟨hmem, hin⟩ := ((group_spec hgroup).2 row).mp hrow
      exact h _ (group_spec hgroup).1 row hmem hin
  · constructor
    · intro h row hrow hin
      obtain ⟨group, hgroup⟩ := exists_sessionGroup clock hrow hin
      exact h group hgroup row ((sessionGroup_spec hgroup row).mpr ⟨hrow, hin⟩)
    · intro h group hgroup row hrow
      obtain ⟨hmem, hin⟩ := (sessionGroup_spec hgroup row).mp hrow
      exact h row hmem hin

theorem isRemaining_perm (hfree : OrderFree detail.events) (hperm : events'.Perm detail.events) :
    isRemaining clock { detail with events := events' } event = isRemaining clock detail event := by
  refine Bool.eq_iff_iff.mpr ?_
  rw [isRemaining_iff_input, isRemaining_iff_input]
  dsimp only
  have hcontains : ∀ turnId, (groupTurnIds events').contains turnId =
      (groupTurnIds detail.events).contains turnId := by
    intro turnId
    refine Bool.eq_iff_iff.mpr ?_
    rw [List.contains_iff_mem, List.contains_iff_mem, (perm_groupTurnIds hperm).mem_iff]
  have hboundary : isGroupedTurnBoundaryEvent (groupTurnIds events') event =
      isGroupedTurnBoundaryEvent (groupTurnIds detail.events) event := by
    simp only [isGroupedTurnBoundaryEvent, hcontains]
  rw [hboundary]
  simp only [hperm.mem_iff, (perm_groupTurnIds hperm).mem_iff]
  refine and_congr Iff.rfl (and_congr ?_ Iff.rfl)
  refine forall₂_congr fun turnId hturn => forall₂_congr fun row hrow => ?_
  rw [inTurnGroup_perm hfree hperm hturn hrow]

theorem pendingApprovalIds_perm (hdistinct : DistinctMoments clock events)
    (hperm : events'.Perm events) :
    pendingApprovalIds clock events' = pendingApprovalIds clock events := by
  have hsorted := sortedEvents_eq hdistinct hperm (p := fun _ => true) (q := fun _ => true)
    fun _ _ => rfl
  rw [List.filter_true, List.filter_true] at hsorted
  rw [pendingApprovalIds, pendingApprovalIds, hsorted]

/-- The blocks but those of single events. -/
def settledItems (clock : ClockTexts) (detail : TimelineDetail) : List OrderedTimelineBlockItem :=
  messageBlocks detail ++ sessionActivityBlocks clock detail ++ activityBlocks clock detail

theorem settledItems_perm (hevents : (detail.events.map (·.eventId)).Nodup)
    (hdistinct : DistinctMoments clock detail.events) (hfree : OrderFree detail.events)
    (hapart : GroupsApart detail) (hperm : events'.Perm detail.events) :
    settledItems clock { detail with events := events' } = settledItems clock detail := by
  have hactivity : activityBlocks clock { detail with events := events' } =
      activityBlocks clock detail := by
    rw [activityBlocks_eq, activityBlocks_eq]
    dsimp only
    rw [shapes_perm hdistinct hfree hapart hperm]
  have hsession : sessionActivityBlocks clock { detail with events := events' } =
      sessionActivityBlocks clock detail := by
    rw [sessionActivityBlocks, sessionActivityBlocks, sessionGroup_perm hdistinct hperm, hactivity]
  rw [settledItems, settledItems, messageBlocks_perm hevents hperm, hsession, hactivity]

/-- The item without the place of its event among the others. -/
def OrderedTimelineBlockItem.settled (limit : Nat) (item : OrderedTimelineBlockItem) :
    OrderedTimelineBlockItem :=
  { item with sourceIndex := min item.sourceIndex limit }

/-- The items are those that are settled and one for each remaining event. -/
theorem orderedItems_eq (clock : ClockTexts) (detail : TimelineDetail) :
    orderedItems clock detail = settledItems clock detail ++ eventBlocks clock detail := rfl

theorem length_settledItems (clock : ClockTexts) (detail : TimelineDetail) :
    (settledItems clock detail).length = detail.messages.length +
      (activityBlocks clock detail).length + (sessionActivityBlocks clock detail).length := by
  have hmessages : (messageBlocks detail).length = detail.messages.length := List.length_mapIdx
  rw [settledItems, List.length_append, List.length_append, hmessages]
  omega

theorem sourceIndex_settled {item : OrderedTimelineBlockItem}
    (h : item ∈ settledItems clock detail) :
    item.sourceIndex < (settledItems clock detail).length := by
  have hone := length_sessionActivityBlocks clock detail
  rw [length_settledItems]
  rcases List.mem_append.mp h with h | h
  · rcases List.mem_append.mp h with h | h
    · obtain ⟨i, hi, rfl⟩ := List.mem_mapIdx.mp h
      dsimp only
      omega
    · have hpos := List.length_pos_of_mem h
      obtain ⟨group, -, rfl⟩ := List.mem_map.mp h
      dsimp only
      omega
  · have hlength : (activityBlocks clock detail).length =
        (turnActivityGroups clock detail.events).length := List.length_mapIdx
    obtain ⟨i, hi, rfl⟩ := List.mem_mapIdx.mp h
    dsimp only
    omega

/-- The item of a remaining event, the `i`-th of them. -/
theorem mem_eventBlocks {item : OrderedTimelineBlockItem} (h : item ∈ eventBlocks clock detail) :
    ∃ (i : Nat) (hi : i < (detail.events.filter (isRemaining clock detail)).length),
      item = {
        item := blockFromEvent (pendingApprovalIds clock detail.events)
          (detail.events.filter (isRemaining clock detail))[i]
        timestamp := (detail.events.filter (isRemaining clock detail))[i].happenedAt
        seq := (detail.events.filter (isRemaining clock detail))[i].seq
        sourceIndex := (settledItems clock detail).length + i } := by
  obtain ⟨i, hi, rfl⟩ := List.mem_mapIdx.mp h
  exact ⟨i, hi, by rw [length_settledItems]⟩

variable (detail) in
/-- **The place of an event among the others decides nothing**, where no two events happened at one
    instant with one number. -/
theorem compare_settled (hevents : (detail.events.map (·.eventId)).Nodup)
    (hdistinct : DistinctMoments clock detail.events) {a b : OrderedTimelineBlockItem}
    (ha : a ∈ orderedItems clock detail) (hb : b ∈ orderedItems clock detail) :
    compareTimelineBlockItems clock (a.settled (settledItems clock detail).length)
        (b.settled (settledItems clock detail).length) =
      compareTimelineBlockItems clock a b := by
  rw [orderedItems_eq] at ha hb
  have hindices : compare (min a.sourceIndex (settledItems clock detail).length)
        (min b.sourceIndex (settledItems clock detail).length) =
        compare a.sourceIndex b.sourceIndex ∨
      (clock.localeCompare a.timestamp b.timestamp ≠ .eq ∨
        compare a.seq.toInt b.seq.toInt ≠ .eq) := by
    have hless : ∀ {m n m' n' : Nat}, m < n → m' < n' → compare m n = compare m' n' :=
      fun h h' => (Nat.compare_eq_lt.mpr h).trans (Nat.compare_eq_lt.mpr h').symm
    have hgreater : ∀ {m n m' n' : Nat}, n < m → n' < m' → compare m n = compare m' n' :=
      fun h h' => (Nat.compare_eq_gt.mpr h).trans (Nat.compare_eq_gt.mpr h').symm
    rcases List.mem_append.mp ha with ha | ha
    · have haIndex := sourceIndex_settled ha
      rcases List.mem_append.mp hb with hb | hb
      · have hbIndex := sourceIndex_settled hb
        rw [Nat.min_eq_left haIndex.le, Nat.min_eq_left hbIndex.le]
        exact .inl rfl
      · obtain ⟨j, hj, rfl⟩ := mem_eventBlocks hb
        exact .inl (hless (by dsimp only; omega) (by dsimp only; omega))
    · obtain ⟨i, hi, rfl⟩ := mem_eventBlocks ha
      rcases List.mem_append.mp hb with hb | hb
      · have hbIndex := sourceIndex_settled hb
        exact .inl (hgreater (by dsimp only; omega) (by dsimp only; omega))
      · obtain ⟨j, hj, rfl⟩ := mem_eventBlocks hb
        dsimp only
        by_cases hij : i = j
        · subst hij
          exact .inl ((Nat.compare_eq_eq.mpr rfl).trans (Nat.compare_eq_eq.mpr rfl).symm)
        · right
          by_contra hboth
          obtain ⟨htime, hseq⟩ := not_or.mp hboth
          have hcmp : compareEvents clock
              (detail.events.filter (isRemaining clock detail))[i]
              (detail.events.filter (isRemaining clock detail))[j] = .eq := by
            rw [compareEvents, compareLex_eq_eq]
            exact ⟨not_not.mp htime, not_not.mp hseq⟩
          have hsame := eq_of_compareEvents clock hdistinct
            (List.mem_of_mem_filter (List.getElem_mem hi))
            (List.mem_of_mem_filter (List.getElem_mem hj)) hcmp
          exact hij ((List.Nodup.getElem_inj_iff
            ((List.Nodup.of_map _ hevents).filter _)).mp hsame)
  unfold compareTimelineBlockItems compareLex OrderedTimelineBlockItem.settled
  dsimp only
  rcases hindices with hsame | htime | hseq
  · rw [hsame]
  · cases h : clock.localeCompare a.timestamp b.timestamp with
    | eq => exact absurd h htime
    | lt => rfl
    | gt => rfl
  · cases h : compare a.seq.toInt b.seq.toInt with
    | eq => exact absurd h hseq
    | lt => rfl
    | gt => rfl

variable (detail) in
/-- The timeline, read off the settled items. -/
theorem build_settled (hevents : (detail.events.map (·.eventId)).Nodup)
    (hdistinct : DistinctMoments clock detail.events) :
    buildSessionTimelineBlocks clock detail =
      (sortBy (compareTimelineBlockItems clock) ((orderedItems clock detail).map
        (·.settled (settledItems clock detail).length))).map (·.item) := by
  have hmap : (sortBy (compareTimelineBlockItems clock) (orderedItems clock detail)).map
      (·.settled (settledItems clock detail).length) =
      sortBy (compareTimelineBlockItems clock) ((orderedItems clock detail).map
        (·.settled (settledItems clock detail).length)) :=
    List.map_mergeSort fun a ha b hb => by rw [compare_settled detail hevents hdistinct ha hb]
  rw [← hmap, List.map_map]
  rfl

theorem map_settled_eventBlocks (clock : ClockTexts) (detail : TimelineDetail) :
    (eventBlocks clock detail).map (·.settled (settledItems clock detail).length) =
      (detail.events.filter (isRemaining clock detail)).map fun event => {
        item := blockFromEvent (pendingApprovalIds clock detail.events) event
        timestamp := event.happenedAt
        seq := event.seq
        sourceIndex := (settledItems clock detail).length } := by
  refine map_mapIdx_eq (fun i event => ?_) _
  rw [OrderedTimelineBlockItem.settled, length_settledItems]
  dsimp only
  rw [Nat.min_eq_right (by omega)]

/-- **The timeline does not depend on the order of the events.** -/
theorem build_perm_eq (hevents : (detail.events.map (·.eventId)).Nodup)
    (hdistinct : DistinctMoments clock detail.events) (hfree : OrderFree detail.events)
    (hapart : GroupsApart detail) (hperm : events'.Perm detail.events) :
    buildSessionTimelineBlocks clock { detail with events := events' } =
      buildSessionTimelineBlocks clock detail := by
  have htrans := transCmp_compareItems clock
  have hevents' : (events'.map (·.eventId)).Nodup := (hperm.map _).nodup_iff.mpr hevents
  have hdistinct' : DistinctMoments clock events' := (hperm.map _).nodup_iff.mpr hdistinct
  have hsettled := settledItems_perm hevents hdistinct hfree hapart hperm
  have hremaining : events'.filter (isRemaining clock { detail with events := events' }) =
      events'.filter (isRemaining clock detail) :=
    List.filter_congr fun event _ => isRemaining_perm hfree hperm
  rw [build_settled detail hevents hdistinct,
    build_settled { detail with events := events' } hevents' hdistinct']
  refine congrArg _ (Lib.sortBy_eq_of_perm ?_ fun a ha b hb hcmp => ?_)
  · rw [orderedItems_eq, orderedItems_eq, List.map_append, List.map_append,
      map_settled_eventBlocks, map_settled_eventBlocks, hsettled]
    dsimp only
    rw [hremaining, pendingApprovalIds_perm hdistinct hperm]
    exact List.Perm.append_left _ ((hperm.filter _).map _)
  · obtain ⟨x, hx, rfl⟩ := List.mem_map.mp ha
    obtain ⟨y, hy, rfl⟩ := List.mem_map.mp hb
    rw [compare_settled { detail with events := events' } hevents' hdistinct' hx hy] at hcmp
    by_contra hne
    exact compareItems_ne_eq hx hy (fun he => hne (by rw [he])) hcmp

/-! ## 12. What the order of the events changes -/

/-- The block of a turn's group. -/
theorem turn_block_spec {item : TimelineBlockItem}
    (h : item ∈ buildSessionTimelineBlocks clock detail)
    (hid : item.block.blockId = "turn-activity:" ++ turnId) :
    item.block.causeRefs = (detail.events.filter (isBoundary turnId)).map eventRef ∧
      ∀ event, event ∈ item.block.rows ↔
        event ∈ detail.events ∧ inTurnGroup detail.events turnId event = true := by
  rcases mem_build.mp h with ⟨message, -, rfl⟩ | ⟨group, -, rfl⟩ | ⟨group, hgroup, rfl⟩ |
    ⟨own, -, -, rfl⟩
  · exact absurd hid.symm (turn_ne_message _ _)
  · exact absurd hid.symm (turn_ne_session _ _)
  · obtain rfl := (String.append_right_inj "turn-activity:").mp hid
    exact ⟨rfl, (group_spec hgroup).2⟩
  · exact absurd ((blockFromEvent_blockId _ own).symm.trans hid) (event_ne_turn _ _)

theorem exists_turn_block (clock : ClockTexts) (h : turnId ∈ groupTurnIds detail.events) :
    ∃ item ∈ buildSessionTimelineBlocks clock detail,
      item.block.blockId = "turn-activity:" ++ turnId := by
  obtain ⟨group, hgroup, rfl⟩ := exists_group clock h
  exact ⟨_, mem_build.mpr (.inr (.inr (.inl ⟨group, hgroup, rfl⟩))), rfl⟩

/-- A list that is its own reverse and has no duplicates is short. -/
theorem length_le_one_of_reverse {α : Type} {xs : List α} (hnodup : xs.Nodup)
    (h : xs.reverse = xs) : xs.length ≤ 1 := by
  by_contra hlong
  have hfirst : 0 < xs.length := by omega
  have hlast : xs.length - 1 < xs.length := by omega
  have hback : xs.reverse.length = xs.length := List.length_reverse
  have hsame : xs[0] = xs[xs.length - 1] := by
    calc xs[0] = xs.reverse[0] := by simp only [h]
      _ = xs[xs.length - 1] := by simp [List.getElem_reverse]
  have hends := (List.Nodup.getElem_inj_iff hnodup).mp hsame
  omega

section AnyOrder

variable (hevents : (detail.events.map (·.eventId)).Nodup)
  (hany : ∀ events, events.Perm detail.events →
    buildSessionTimelineBlocks clock { detail with events } =
      buildSessionTimelineBlocks clock detail)

include hevents hany

/-- The causes of a turn's block follow the order of the events. -/
theorem boundaries_of_anyOrder (hturn : turnId ∈ groupTurnIds detail.events) :
    (detail.events.filter (isBoundary turnId)).length ≤ 1 := by
  obtain ⟨item, hitem, hid⟩ := exists_turn_block clock hturn
  have hreversed : item ∈ buildSessionTimelineBlocks clock
      { detail with events := detail.events.reverse } :=
    (hany _ (List.reverse_perm _)).symm ▸ hitem
  have hrefs := (turn_block_spec hreversed hid).1.symm.trans (turn_block_spec hitem hid).1
  dsimp only at hrefs
  rw [List.filter_reverse, List.map_reverse] at hrefs
  have hnodup : ((detail.events.filter (isBoundary turnId)).map eventRef).Nodup := by
    refine (List.nodup_map_iff_inj_on ((List.Nodup.of_map _ hevents).filter _)).mpr
      fun a ha b hb href => ?_
    exact List.inj_on_of_nodup_map hevents (List.mem_of_mem_filter ha) (List.mem_of_mem_filter hb)
      (UpravaRef.event.inj href).1
  have hshort := length_le_one_of_reverse hnodup hrefs
  rwa [List.length_map] at hshort

omit hevents in
/-- The last event with a command decides who is in a turn's group. -/
theorem rows_of_anyOrder {last : TimelineEvent} (hlast : last ∈ detail.events)
    {commandId : CommandId} (hcommand : commandOf turnId last = some commandId)
    {item : TimelineBlockItem} (hitem : item ∈ buildSessionTimelineBlocks clock detail)
    (hid : item.block.blockId = "turn-activity:" ++ turnId) (hmem : event ∈ detail.events)
    (hactivity : isTurnActivityEvent event = true) (hforeign : event.turnId ≠ some turnId) :
    event ∈ item.block.rows ↔ event.commandId = some commandId := by
  have hperm : (detail.events.erase last ++ [last]).Perm detail.events :=
    List.perm_append_comm.trans (List.perm_cons_erase hlast).symm
  have hmoved : item ∈ buildSessionTimelineBlocks clock
      { detail with events := detail.events.erase last ++ [last] } := (hany _ hperm).symm ▸ hitem
  have hthis : turnCommandIds (detail.events.erase last ++ [last]) turnId = some commandId := by
    rw [turnCommandIds_eq, List.filterMap_append, List.filterMap_cons, hcommand,
      List.filterMap_nil]
    exact List.getLast?_concat
  rw [(turn_block_spec hmoved hid).2 event]
  dsimp only
  rw [hperm.mem_iff, inTurnGroup_iff, hthis]
  constructor
  · rintro ⟨-, -, hown | ⟨other, hother, hevent⟩⟩
    · exact absurd hown hforeign
    · rw [Option.some.inj hother]
      exact hevent
  · exact fun hevent => ⟨hmem, hactivity, .inr ⟨commandId, rfl, hevent⟩⟩

theorem orderFree_of_anyOrder : OrderFree detail.events := by
  refine ⟨fun turnId hturn => boundaries_of_anyOrder hevents hany hturn,
    fun turnId hturn a ha b hb commandId commandId' hcommand hcommand' hne event hmem hactivity
      hforeign hevent => ?_⟩
  obtain ⟨item, hitem, hid⟩ := exists_turn_block clock hturn
  have hin := (rows_of_anyOrder hany ha hcommand hitem hid hmem hactivity hforeign).mpr hevent
  have hother := (rows_of_anyOrder hany hb hcommand' hitem hid hmem hactivity hforeign).mp hin
  exact hne (Option.some.inj (hevent.symm.trans hother))

end AnyOrder

/-! ## 13. The result -/

/-- Minutes of one hour, compared as texts. -/
def minutes : ClockTexts where
  localeCompare := compare
  trans := inferInstance
  instant text := if text = "2026-01-01T00:00:00Z" then 0 else 60
  same a b h := by
    have heq : a = b := Std.LawfulEqCmp.compare_eq_iff_eq.mp h
    rw [heq]

def sessionEvent (eventId : EventId) (turnId : Option TurnId) (seq : Int64) (kind : EventKind)
    (happenedAt : String) : TimelineEvent where
  eventId
  commandId := none
  turnId
  scopeRef := .session "session-1"
  seq
  kind
  happenedAt
  sourceRefs := []
  evidenceRefs := []
  causeRefs := []
  payload := .object .nil

/-- A message, and a minute later an event of no turn. -/
def quietSession : TimelineDetail where
  messages := [⟨"message-1", .user, "hello", "2026-01-01T00:00:00Z", none, none⟩]
  events := [sessionEvent "event-1" none 1 .workspaceValidated "2026-01-01T00:01:00Z"]

theorem quietSession_items : ∃ first last, orderedItems minutes quietSession = [first, last] ∧
    blockMoment minutes quietSession first.item.block = some (toLex (0, 0)) ∧
    blockMoment minutes quietSession last.item.block = some (toLex (60, 1)) ∧
    compareTimelineBlockItems minutes first last = .lt := by
  have hnil : ∀ {α : Type} (cmp : α → α → Ordering), sortBy cmp [] = [] :=
    fun _ => List.mergeSort_nil
  have hturns : turnActivityGroups minutes quietSession.events = [] := hnil _
  have hsession : sessionActivityGroup minutes quietSession = none := by
    unfold sessionActivityGroup
    rw [show quietSession.events.filter (inSessionGroup quietSession.messages) = [] from rfl, hnil]
  have hremaining : quietSession.events.filter (isRemaining minutes quietSession) =
      quietSession.events := by
    refine List.filter_eq_self.mpr fun event hevent => ?_
    obtain rfl := List.mem_singleton.mp hevent
    rw [isRemaining, hturns, hsession]
    rfl
  have hitems : orderedItems minutes quietSession =
      messageBlocks quietSession ++ eventBlocks minutes quietSession := by
    rw [orderedItems, sessionActivityBlocks, hsession, activityBlocks, hturns]
    rfl
  rw [hitems, eventBlocks, hremaining]
  exact ⟨_, _, rfl, by decide, by decide, by decide⟩

theorem quietSession_regular : Regular minutes quietSession := by
  obtain ⟨first, last, hitems, hfirst, hlast, hless⟩ := quietSession_items
  have hnoTurn : groupTurnIds quietSession.events = [] := rfl
  refine ⟨⟨?_, ?_⟩, ?_, fun _ => ⟨?_, ?_⟩⟩
  · rw [hnoTurn]
    exact nofun
  · rw [hnoTurn]
    exact nofun
  · intro a ha b hb m m' hm hm' hlt
    rw [hitems] at ha hb
    rcases List.mem_pair.mp ha with rfl | rfl
    · rcases List.mem_pair.mp hb with rfl | rfl
      · exact absurd (Option.some.inj (hm.symm.trans hm') ▸ hlt) (lt_irrefl _)
      · exact hless
    · rcases List.mem_pair.mp hb with rfl | rfl
      · rw [Option.some.inj (hm.symm.trans hlast), Option.some.inj (hm'.symm.trans hfirst)] at hlt
        exact absurd hlt (by decide)
      · exact absurd (Option.some.inj (hm.symm.trans hm') ▸ hlt) (lt_irrefl _)
  · rw [hnoTurn]
    exact nofun
  · rw [hnoTurn]
    exact nofun

/-- A turn with its start and its end. -/
def finishedTurn : TimelineDetail where
  messages := []
  events := [sessionEvent "event-1" (some "turn-1") 1 .turnStarted "2026-01-01T00:00:00Z",
    sessionEvent "event-2" (some "turn-1") 2 .turnCompleted "2026-01-01T00:01:00Z"]

end Uprava.Web.Timeline
