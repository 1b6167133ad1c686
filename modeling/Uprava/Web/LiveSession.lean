/-
  File:      Uprava/Web/LiveSession.lean
  Subject:   `applySessionEvent`: the web client projects the events of a session's stream onto the
             detail it has loaded, beside Core's own projection of the same events.

  The two projections are written twice, and `Mirrored` is where they say the same. The badges of
  the placement, which Core computes from other sessions as well, are left out.
-/
import Uprava.Core.Approvals
import Uprava.Core.Isolation

namespace Uprava.Web.LiveSession

open Uprava.Protocol Uprava.Core
open Uprava.Lib (Table run Throughout Meets throughout_iff_meets_of_inv run_inv)
open Uprava.Lib.Table (find?_pos find?_map_rows)

/-! ## 1. The detail of a session -/

structure Runtime where
  state : RuntimeSessionState
  lastRuntimeStepAt : Option DateTime

structure Session where
  state : SessionThreadState
  messageCount : Nat
  updatedAt : DateTime
  runtime : Runtime

structure Placement where
  displayName : String
  workspacePath : String
  state : PlacementState
  lastValidatedAt : Option DateTime

structure SessionDetail where
  session : Session
  placement : Placement
  messages : List MessageRow
  events : List EventEnvelope

/-- `load_messages`: by `created_at`. -/
def loadMessages (messages : Table MessageRow) (sessionId : SessionThreadId) : List MessageRow :=
  (messages.select (·.sessionThreadId == sessionId)).insertionSort fun a b =>
    decide (a.createdAt ≤ b.createdAt) = true

/-- What a session, its runtime and its placement are served as. -/
def sessionDetail (db : Database) (session : SessionRow) (runtime : RuntimeRow)
    (placement : PlacementRow) : SessionDetail :=
  let messages := loadMessages db.messages session.sessionThreadId
  { session := {
      state := session.state
      messageCount := messages.length
      updatedAt := session.updatedAt
      runtime := ⟨runtime.state, runtime.lastRuntimeStepAt⟩ }
    placement := ⟨placement.displayName, placement.workspacePath, placement.state,
      placement.lastValidatedAt⟩
    messages
    events := loadEvents db.events session.sessionThreadId 0 }

/-- `load_session_detail` -/
def loadSessionDetail (db : Database) (sessionId : SessionThreadId) : Option SessionDetail := do
  let session ← db.sessionThreads.find? (·.sessionThreadId == sessionId)
  let runtime ← db.runtimeSessions.find? (·.runtimeSessionId == session.runtimeSessionId)
  let placement ← db.projectPlacements.find? (·.projectPlacementId == session.projectPlacementId)
  return sessionDetail db session runtime placement

theorem loadSessionDetail_eq_some {db : Database} {sessionId : SessionThreadId}
    {detail : SessionDetail} (h : loadSessionDetail db sessionId = some detail) :
    ∃ session runtime placement,
      db.sessionThreads.find? (·.sessionThreadId == sessionId) = some session ∧
      db.runtimeSessions.find? (·.runtimeSessionId == session.runtimeSessionId) = some runtime ∧
      db.projectPlacements.find? (·.projectPlacementId == session.projectPlacementId) =
        some placement ∧
      session.sessionThreadId = sessionId ∧
      detail = sessionDetail db session runtime placement := by
  obtain ⟨session, hsession, h⟩ := Option.bind_eq_some_iff.mp h
  obtain ⟨runtime, hruntime, h⟩ := Option.bind_eq_some_iff.mp h
  obtain ⟨placement, hplacement, h⟩ := Option.bind_eq_some_iff.mp h
  exact ⟨session, runtime, placement, hsession, hruntime, hplacement,
    by simpa using find?_pos hsession, (Option.some.inj h).symm⟩

/-! ## 2. Applying an event -/

def stringField (value : Option String) (fallback : String) : String :=
  match value with
  | some text => if text = "" then fallback else text
  | none => fallback

def messageRoleForEvent : EventKind → Option MessageRole
  | .providerMessageCompleted => some .assistant
  | .approvalRequested | .approvalResolved => some .approval
  | .runtimeError => some .runtime
  | _ => none

def messageContentForEvent (event : EventEnvelope) : String :=
  match event.kind with
  | .approvalRequested =>
    stringField (match event.payload with
      | .approvalRequested _ prompt .. => some prompt
      | _ => none) "Approval requested"
  | .approvalResolved =>
    stringField (match event.payload with
      | .approvalResolved _ _ message => some message
      | _ => none) "Approval resolved"
  | .runtimeError =>
    stringField (match event.payload with
      | .runtimeError _ message => some message
      | _ => none) "Runtime error"
  | _ =>
    stringField (match event.payload with
      | .providerOutputDelta content | .providerMessageCompleted content => some content
      | _ => none) "Provider completed a message"

def messageFromEvent (event : EventEnvelope) : Option MessageRow :=
  match messageRoleForEvent event.kind, event.sessionThreadId with
  | some role, some sessionThreadId =>
    some
      { messageId := "event-message:" ++ event.eventId, sessionThreadId, turnId := event.turnId
        role, content := messageContentForEvent event, createdAt := event.happenedAt
        completedAt := some event.happenedAt, sourceEventId := some event.eventId }
  | _, _ => none

def appendEventMessage (messages : List MessageRow) (event : EventEnvelope) : List MessageRow :=
  if messages.any (·.sourceEventId == some event.eventId) then messages
  else messages ++ (messageFromEvent event).toList

def runtimeStateForEvent : EventKind → Option RuntimeSessionState
  | .runtimeStarting => some .starting
  | .runtimeReady => some .ready
  | .runtimeRunning | .turnStarted => some .running
  | .runtimeBlocked | .approvalRequested => some .blocked
  | .runtimeExpired => some .expired
  | .runtimeResuming => some .resuming
  | .runtimeStopped => some .stopped
  | .runtimeError => some .error
  | .turnInterrupted => some .interrupted
  | _ => none

def sessionStateForEvent (kind : EventKind) (current : SessionThreadState) :
    Option SessionThreadState :=
  if kind = .runtimeStopped then some .stopped
  else if kind = .runtimeError then some .degraded
  else if current = .detached then some .detached
  else
    match kind with
    | .runtimeReady | .runtimeRunning | .approvalRequested | .approvalResolved | .turnStarted
    | .turnCompleted | .turnInterrupted => some .active
    | _ => none

/-- `placementUpdateFromEvent`, over the placement it updates. -/
def updatePlacement (placement : Placement) (event : EventEnvelope) : Placement :=
  if isWorkspaceSnapshotKind event.kind then
    let data := workspaceSnapshot event.payload
    { displayName := stringField (data.map (·.displayName)) placement.displayName
      workspacePath := stringField (data.map (·.workspacePath)) placement.workspacePath
      state := (data.map (·.state)).getD placement.state
      lastValidatedAt := some event.happenedAt }
  else placement

def applyContiguousEvent (detail : SessionDetail) (event : EventEnvelope) : SessionDetail :=
  let messages := appendEventMessage detail.messages event
  { placement := updatePlacement detail.placement event
    session := {
      state := (sessionStateForEvent event.kind detail.session.state).getD detail.session.state
      messageCount := messages.length
      updatedAt := event.happenedAt
      runtime := {
        state := (runtimeStateForEvent event.kind).getD detail.session.runtime.state
        lastRuntimeStepAt := some event.happenedAt } }
    messages
    events := detail.events ++ [event] }

inductive ProjectionApplyResult where
  | applied (detail : SessionDetail)
  | gap (expectedSeq receivedSeq : Int)

def currentSeq (detail : SessionDetail) : Int :=
  detail.events.foldl (fun m e => max m (sessionEventCursor e)) 0

def applySessionEvent (detail : SessionDetail) (event : EventEnvelope) : ProjectionApplyResult :=
  let receivedSeq := sessionEventCursor event
  if receivedSeq ≠ currentSeq detail + 1 then .gap (currentSeq detail + 1) receivedSeq
  else .applied (applyContiguousEvent detail event)

/-! ## 3. Core and a client -/

/-- Core, a client of one of its sessions, and how often the client found a gap. -/
structure Live where
  db : Database
  detail : SessionDetail
  gaps : Nat := 0

/-- An event of the session, with the id that is drawn for its message. -/
abbrev Arriving := EventEnvelope × MessageId

/-- A new event of the session arrives at Core; the client applies what Core publishes of it. An
    event that Core refuses changes nothing. -/
def step (sessionId : SessionThreadId) (s : Live) (a : Arriving) : Option Live :=
  if a.1.sessionThreadId = some sessionId ∧ findEvent? s.db.events a.1.eventId = none ∧
      s.db.messages.find? (·.messageId == a.2) = none then
    match acceptNodeEvent s.db a.1 a.2 with
    | .error _ => some s
    | .ok db =>
      match applySessionEvent s.detail (prepareEvent s.db a.1) with
      | .applied detail => some { s with db, detail }
      | .gap .. => some { s with db, gaps := s.gaps + 1 }
  else none

/-- The event that a message was made of, and what the message says. -/
def ofEvent (m : MessageRow) : Option (EventId × MessageRole × Option TurnId × String) :=
  m.sourceEventId.map fun eventId => (eventId, m.role, m.turnId, m.content)

/-- The client shows what Core would serve. -/
structure SameDetail (a b : SessionDetail) : Prop where
  runtime : a.session.runtime.state = b.session.runtime.state
  session : a.session.state = b.session.state
  displayName : a.placement.displayName = b.placement.displayName
  workspacePath : a.placement.workspacePath = b.placement.workspacePath
  placement : a.placement.state = b.placement.state
  messages : (a.messages.filterMap ofEvent).Perm (b.messages.filterMap ofEvent)

def Agrees (sessionId : SessionThreadId) (s : Live) : Prop :=
  ∃ served, loadSessionDetail s.db sessionId = some served ∧ SameDetail s.detail served

/-! ## 4. Where the two say the same -/

/-- Only Core leaves a runtime stale behind a gap, and asks whose runtime the event is about; only
    the client takes a turn that starts for a runtime that runs. -/
def RuntimeMirrored (kind : EventKind) (own gap : Bool) (current : RuntimeSessionState) : Prop :=
  if own then
    if gap then runtimeStateForEvent kind = none ∧ current = .stale
    else kind = .turnStarted → current = .running
  else ∀ state, runtimeStateForEvent kind = some state → current = state

/-- Only Core degrades a session behind a gap and when its runtime expires, and takes it for active
    when the runtime starts, resumes or blocks; only the client does so when a turn starts or
    completes or an approval is resolved. -/
def SessionMirrored (kind : EventKind) (gap : Bool) (current : SessionThreadState) : Prop :=
  if gap then kind = .runtimeError ∨ sessionStateForEvent kind current = none ∧ current = .degraded
  else
    match kind with
    | .runtimeStarting | .runtimeResuming | .runtimeBlocked | .turnStarted | .turnCompleted
    | .approvalResolved => current = .active ∨ current = .detached
    | .runtimeExpired => current = .degraded
    | _ => True

/-- The client puts a text of its own for an empty one. -/
def MessageMirrored (event : EventEnvelope) : Prop := ∀ role, durableMessage event ≠ some (role, "")

/-- Only Core takes an empty name or path, and asks whose placement the event is about. -/
def PlacementMirrored (event : EventEnvelope) (placementId : ProjectPlacementId)
    (current : Placement) : Prop :=
  ∀ data, isWorkspaceSnapshotKind event.kind = true → workspaceSnapshot event.payload = some data →
    if workspacePlacementId event = some placementId then
      (data.displayName = "" → current.displayName = "") ∧
        (data.workspacePath = "" → current.workspacePath = "")
    else
      (data.displayName ≠ "" → current.displayName = data.displayName) ∧
        (data.workspacePath ≠ "" → current.workspacePath = data.workspacePath) ∧
        current.state = data.state

/-- The event says to both the same of the session as the client shows it. -/
def MirroredIn (session : SessionRow) (s : Live) (event : EventEnvelope) : Prop :=
  RuntimeMirrored event.kind (event.runtimeSessionId == some session.runtimeSessionId)
      (streamGap s.db.events event).isSome s.detail.session.runtime.state ∧
    SessionMirrored event.kind (streamGap s.db.events event).isSome s.detail.session.state ∧
    MessageMirrored event ∧
    PlacementMirrored event session.projectPlacementId s.detail.placement

def Mirrored (sessionId : SessionThreadId) (s : Live) (a : Arriving) : Prop :=
  ∀ db, acceptNodeEvent s.db a.1 a.2 = .ok db →
    ∀ session, s.db.sessionThreads.find? (·.sessionThreadId == sessionId) = some session →
      MirroredIn session s a.1

theorem runtimeStateForEvent_iff (kind : EventKind) (s : RuntimeSessionState) :
    (runtimeStateForEvent kind).getD s = ((projectedStates kind).map (·.1)).getD s ↔
      (kind = .turnStarted → s = .running) := by
  cases kind <;> simp [runtimeStateForEvent, projectedStates, eq_comm]

theorem runtimeStateForEvent_ne_stale (kind : EventKind) :
    runtimeStateForEvent kind ≠ some .stale := by
  cases kind <;> simp [runtimeStateForEvent]

theorem sessionStateForEvent_degraded (kind : EventKind) (s : SessionThreadState) :
    (sessionStateForEvent kind s).getD s = .degraded ↔ SessionMirrored kind true s := by
  cases kind <;> cases s <;> simp [sessionStateForEvent, SessionMirrored]

section Rows

variable {event : EventEnvelope} {gap : Option Int}

theorem runtime_iff (r : RuntimeRow) :
    (runtimeStateForEvent event.kind).getD r.state = (r.after event gap).state ↔
      RuntimeMirrored event.kind (event.runtimeSessionId == some r.runtimeSessionId) gap.isSome
        r.state := by
  by_cases hown : event.runtimeSessionId = some r.runtimeSessionId
  · rw [RuntimeRow.after_state hown, hown, beq_self_eq_true, RuntimeMirrored, if_pos rfl]
    cases gap with
    | some expectedSeq =>
      have hstale := runtimeStateForEvent_ne_stale event.kind
      show _ = RuntimeSessionState.stale ↔ _ ∧ _
      cases hstate : runtimeStateForEvent event.kind with
      | none => simp
      | some s => simpa [hstate] using hstale
    | none => exact runtimeStateForEvent_iff event.kind r.state
  · rw [RuntimeRow.after_of_ne hown, beq_eq_false_iff_ne.mpr hown, RuntimeMirrored,
      if_neg (by simp)]
    cases runtimeStateForEvent event.kind <;> simp [eq_comm]

theorem after_runtimeSessionId (r : SessionRow) :
    (r.after event gap).runtimeSessionId = r.runtimeSessionId := by
  unfold SessionRow.after SessionRow.project
  repeat' split
  all_goals rfl

theorem session_iff (r : SessionRow) (h : event.sessionThreadId = some r.sessionThreadId) :
    (sessionStateForEvent event.kind r.state).getD r.state = (r.after event gap).state ↔
      SessionMirrored event.kind gap.isSome r.state := by
  cases gap with
  | some expectedSeq =>
    have hstate : (r.after event (some expectedSeq)).state = .degraded := by
      simp [SessionRow.after, h, SessionRow.setState]
    rw [hstate]
    exact sessionStateForEvent_degraded event.kind r.state
  | none =>
    obtain ⟨_, _, _, state, _, _⟩ := r
    simp only [SessionRow.after, SessionRow.project, h, true_and, SessionRow.accepts]
    cases event.kind <;> cases state <;>
      simp [sessionStateForEvent, projectedStates, SessionMirrored, SessionRow.setState]

theorem stringField_iff {text fallback : String} (h : fallback ≠ "") :
    stringField (some text) fallback = text ↔ text ≠ "" := by
  by_cases htext : text = "" <;> simp [stringField, htext, h]

theorem messageRoleForEvent_eq :
    messageRoleForEvent event.kind = (durableMessage event).map (·.1) := by
  unfold durableMessage
  cases event.kind <;> rfl

/-- Both read a message from the same events, and with the same text unless it is empty. -/
theorem message_iff {role : MessageRole} {text : String}
    (h : durableMessage event = some (role, text)) :
    messageContentForEvent event = text ↔ MessageMirrored event := by
  have hmirrored : MessageMirrored event ↔ text ≠ "" := by
    unfold MessageMirrored
    rw [h]
    simp
  rw [hmirrored]
  unfold durableMessage at h
  unfold messageContentForEvent
  split at h <;> rename_i hkind <;> cases h <;> rw [hkind] <;> dsimp only <;>
    cases event.payload <;> first | exact stringField_iff (by decide) | simp [stringField]

theorem eventMessage_iff {messageId : MessageId} {sessionId : SessionThreadId}
    (h : event.sessionThreadId = some sessionId) :
    ((messageFromEvent event).toList.filterMap ofEvent).Perm
        (((messageRow event messageId).toList.filter
          (·.sessionThreadId == sessionId)).filterMap ofEvent) ↔ MessageMirrored event := by
  have hrole := @messageRoleForEvent_eq event
  cases hmessage : durableMessage event with
  | none => simp [messageFromEvent, messageRow, hrole, hmessage, MessageMirrored]
  | some message =>
    rw [← message_iff hmessage]
    simp [messageFromEvent, messageRow, h, hrole, hmessage, ofEvent]

/-- A snapshot event carries a snapshot. -/
theorem workspaceSnapshot_of_matches (h : event.payload.matchesKind event.kind = true)
    (hkind : isWorkspaceSnapshotKind event.kind = true) :
    ∃ data, workspaceSnapshot event.payload = some data := by
  rw [beq_iff_eq.mp h] at hkind
  generalize event.payload = payload at hkind ⊢
  cases payload <;> first | exact ⟨_, rfl⟩ | cases hkind

theorem placement_iff {current : Placement} {r : PlacementRow}
    (h : event.payload.matchesKind event.kind = true) (hname : current.displayName = r.displayName)
    (hpath : current.workspacePath = r.workspacePath) (hstate : current.state = r.state) :
    ((updatePlacement current event).displayName = (r.project event).displayName ∧
        (updatePlacement current event).workspacePath = (r.project event).workspacePath ∧
        (updatePlacement current event).state = (r.project event).state) ↔
      PlacementMirrored event r.projectPlacementId current := by
  unfold updatePlacement PlacementRow.project PlacementMirrored
  by_cases hkind : isWorkspaceSnapshotKind event.kind = true
  · obtain ⟨data, hdata⟩ := workspaceSnapshot_of_matches h hkind
    by_cases hown : workspacePlacementId event = some r.projectPlacementId
    · simp [hkind, hown, hdata, PlacementRow.setSnapshot, stringField]
      grind
    · simp [hkind, hown, hdata, stringField]
      grind
  · simp [hkind, hname, hpath, hstate]

end Rows

/-! ## 5. The client follows Core -/

/-- The event that a message was made of is recorded. -/
def Sourced (db : Database) (m : MessageRow) : Prop :=
  ∀ eventId, m.sourceEventId = some eventId → ∃ r ∈ db.events.rows, r.eventId = eventId

/-- What holds as long as the client finds no gap: it has the events of the session, and no message
    of an event that is to come. -/
structure Synced (sessionId : SessionThreadId) (s : Live) : Prop where
  follow : ApprovalsFollow s.db
  events : s.detail.events = loadEvents s.db.events sessionId 0
  stored : ∀ m ∈ s.db.messages.rows, Sourced s.db m
  shown : ∀ m ∈ s.detail.messages, Sourced s.db m
  gaps : s.gaps = 0

/-- The numbers of a session's events are the numbers of its rows. -/
theorem nextSessionProjectionSeq_eq {db : Database} (h : ApprovalsFollow db)
    (sessionId : SessionThreadId) : nextSessionProjectionSeq db.events sessionId =
      (loadEvents db.events sessionId 0).foldl (fun m e => max m (sessionEventCursor e)) 0 + 1 := by
  have hcursors : (db.events.select (·.sessionThreadId == some sessionId)).filterMap
      (·.sessionProjectionSeq) = (loadEvents db.events sessionId 0).map sessionEventCursor := by
    have hselect : db.events.select (·.sessionThreadId == some sessionId) =
        db.events.rows.filter (inSession sessionId ∘ (·.event)) :=
      List.filter_congr fun r hr => by simp [inSession, (h.logged.event r hr).2.1]
    rw [h.loadEvents, acceptedEvents, List.filter_map, List.map_map, hselect,
      ← List.filterMap_eq_map]
    refine List.filterMap_congr fun r hr => ?_
    obtain ⟨hr, hs⟩ := List.mem_filter.mp hr
    exact h.logged.cursor hr ((h.logged.event r hr).2.1.symm.trans (beq_iff_eq.mp hs))
  have hpositive : ∀ n ∈ (loadEvents db.events sessionId 0).map sessionEventCursor, 0 < n := by
    intro n hn
    obtain ⟨e, he, rfl⟩ := List.mem_map.mp hn
    exact ((mem_loadEvents h.logged).mp he).2.2
  rw [nextSessionProjectionSeq, hcursors, ← List.foldl_map]
  generalize (loadEvents db.events sessionId 0).map sessionEventCursor = numbers at hpositive
  cases numbers with
  | nil => rfl
  | cons n numbers =>
    have hn := hpositive n List.mem_cons_self
    rw [List.foldl_cons, max_eq_right hn.le]
    rfl

/-- What an accepted event does to Core and to the client. -/
structure Accepted (sessionId : SessionThreadId) (s : Live) (a : Arriving) (t : Live) : Prop where
  session : a.1.sessionThreadId = some sessionId
  newEvent : findEvent? s.db.events a.1.eventId = none
  newMessage : s.db.messages.find? (·.messageId == a.2) = none
  kind : a.1.payload.matchesKind a.1.kind = true
  accept : acceptNodeEvent s.db a.1 a.2 = .ok t.db
  rows : t.db.events.rows = s.db.events.rows ++ [.committed (prepareEvent s.db a.1)]
  projected : ∃ events, Projected s.db (prepareEvent s.db a.1) (streamGap s.db.events a.1) a.2
    events t.db
  detail : t.detail = applyContiguousEvent s.detail (prepareEvent s.db a.1)
  gaps : t.gaps = s.gaps

/-- **The client applies what Core accepts, and finds no gap.** -/
theorem step_cases {sessionId : SessionThreadId} {s t : Live} {a : Arriving}
    (h : Synced sessionId s) (hstep : step sessionId s a = some t) :
    t = s ∧ (∀ db, acceptNodeEvent s.db a.1 a.2 ≠ .ok db) ∨ Accepted sessionId s a t := by
  unfold step at hstep
  split at hstep
  · rename_i hnew
    obtain ⟨hsession, hid, hmessage⟩ := hnew
    split at hstep
    · rename_i e herror
      cases hstep
      exact Or.inl ⟨rfl, fun db hdb => by rw [herror] at hdb; cases hdb⟩
    · rename_i db haccept
      have hseq : sessionEventCursor (prepareEvent s.db a.1) =
          currentSeq s.detail + 1 := by
        rw [currentSeq, h.events, ← nextSessionProjectionSeq_eq h.follow]
        simp [sessionEventCursor, prepareEvent, hsession]
      have happly : applySessionEvent s.detail (prepareEvent s.db a.1) =
          .applied (applyContiguousEvent s.detail (prepareEvent s.db a.1)) :=
        if_neg (not_not.mpr hseq)
      rw [happly] at hstep
      cases hstep
      obtain ⟨hmatch, ⟨row, hrow, -⟩ | ⟨row, hrow, -⟩ | ⟨-, -, events, -, hp⟩⟩ :=
        acceptNodeEvent_ok haccept
      · rw [hid] at hrow
        cases hrow
      · rw [hid] at hrow
        cases hrow
      refine Or.inr ⟨hsession, hid, hmessage, hmatch, haccept, ?_, ⟨events, hp⟩, rfl, rfl⟩
      obtain ⟨hsame, -⟩ | ⟨hrows, -⟩ := accepted_cases h.follow.logged haccept
      · obtain ⟨row, hrow, -⟩ := (firstDelivery_of_accept haccept hid).own
        rw [hsame, hid] at hrow
        cases hrow
      · exact hrows
  · cases hstep

theorem Sourced.mono {db db' : Database} {m : MessageRow} (h : Sourced db m)
    (hrows : db.events.rows ⊆ db'.events.rows) : Sourced db' m := fun eventId he =>
  let ⟨r, hr, hid⟩ := h eventId he
  ⟨r, hrows hr, hid⟩

theorem messageFromEvent_source {event : EventEnvelope} {m : MessageRow}
    (h : messageFromEvent event = some m) : m.sourceEventId = some event.eventId := by
  unfold messageFromEvent at h
  split at h <;> cases h
  rfl

theorem messageRow_source {event : EventEnvelope} {messageId : MessageId} {m : MessageRow}
    (h : messageRow event messageId = some m) :
    m.messageId = messageId ∧ m.sourceEventId = some event.eventId := by
  unfold messageRow at h
  split at h <;> cases h
  exact ⟨rfl, rfl⟩

section Accepted

variable {sessionId : SessionThreadId} {s t : Live} {a : Arriving}

theorem Accepted.unsourced (h : Accepted sessionId s a t) {m : MessageRow}
    (hsourced : Sourced s.db m) (hm : m.sourceEventId = some a.1.eventId) : False := by
  obtain ⟨r, hr, hid⟩ := hsourced _ hm
  exact List.find?_eq_none.mp h.newEvent r hr (beq_iff_eq.mpr hid)

/-- The event is at the end of the client's events, and its message, if it has one, at the end of
    both lists of messages. -/
theorem Accepted.messages (h : Accepted sessionId s a t) (hsync : Synced sessionId s) :
    t.detail.messages = s.detail.messages ++ (messageFromEvent (prepareEvent s.db a.1)).toList ∧
      t.db.messages.rows =
        s.db.messages.rows ++ (messageRow (prepareEvent s.db a.1) a.2).toList := by
  constructor
  · rw [h.detail]
    refine if_neg fun hany => ?_
    obtain ⟨m, hm, he⟩ := List.any_eq_true.mp hany
    exact h.unsourced (hsync.shown m hm) (beq_iff_eq.mp he)
  · obtain ⟨events, hp⟩ := h.projected
    rw [hp.messages]
    cases hrow : messageRow (prepareEvent s.db a.1) a.2 with
    | none => simp
    | some m =>
      obtain ⟨hmid, hsource⟩ := messageRow_source hrow
      have hclash : ¬ s.db.messages.Clashes m := by
        rintro ⟨m', hm', hid | ⟨he, -⟩⟩
        · exact List.find?_eq_none.mp h.newMessage m' hm' (beq_iff_eq.mpr (hid.trans hmid))
        · exact h.unsourced (hsync.stored m' hm') (he.trans hsource)
      show (s.db.messages.insertOrIgnore m).rows = _
      unfold Table.insertOrIgnore
      rw [dif_neg hclash]
      rfl

theorem Accepted.synced (h : Accepted sessionId s a t) (hsync : Synced sessionId s) :
    Synced sessionId t := by
  have hfollow := hsync.follow.accept h.accept
  have hsubset : s.db.events.rows ⊆ t.db.events.rows := h.rows ▸ List.subset_append_left _ _
  have hnew : ∀ {m : MessageRow}, m.sourceEventId = some a.1.eventId → Sourced t.db m := by
    intro m hm eventId he
    refine ⟨_, h.rows ▸ List.mem_append_right _ (List.mem_singleton.mpr rfl), ?_⟩
    exact Option.some.inj (hm.symm.trans he)
  obtain ⟨hshown, hstored⟩ := h.messages hsync
  refine ⟨hfollow, ?_, fun m hm => ?_, fun m hm => ?_, h.gaps.trans hsync.gaps⟩
  · have hin : inSession sessionId (prepareEvent s.db a.1) = true := beq_iff_eq.mpr h.session
    rw [h.detail, hfollow.loadEvents, acceptedEvents, h.rows, List.map_append, List.filter_append]
    show s.detail.events ++ [_] = _ ++ List.filter _ [prepareEvent s.db a.1]
    rw [hsync.events, hsync.follow.loadEvents, List.filter_cons_of_pos hin]
    rfl
  · rw [hstored] at hm
    rcases List.mem_append.mp hm with hm | hm
    · exact (hsync.stored m hm).mono hsubset
    · exact hnew (messageRow_source (Option.mem_toList.mp hm)).2
  · rw [hshown] at hm
    rcases List.mem_append.mp hm with hm | hm
    · exact (hsync.shown m hm).mono hsubset
    · exact hnew (messageFromEvent_source (Option.mem_toList.mp hm))

/-- **The two lists of messages stay alike exactly when the event's message is mirrored.** -/
theorem Accepted.messages_iff (h : Accepted sessionId s a t) (hsync : Synced sessionId s)
    (hsame : (s.detail.messages.filterMap ofEvent).Perm
      ((loadMessages s.db.messages sessionId).filterMap ofEvent)) :
    (t.detail.messages.filterMap ofEvent).Perm
        ((loadMessages t.db.messages sessionId).filterMap ofEvent) ↔ MessageMirrored a.1 := by
  have hload : ∀ messages : Table MessageRow, ((loadMessages messages sessionId).filterMap
      ofEvent).Perm ((messages.select (·.sessionThreadId == sessionId)).filterMap ofEvent) :=
    fun _ => (List.perm_insertionSort _ _).filterMap _
  obtain ⟨hshown, hstored⟩ := h.messages hsync
  rw [((hload t.db.messages).congr_right _), hshown, Table.select, hstored, List.filter_append,
    List.filterMap_append, List.filterMap_append]
  have hsame' := hsame.trans (hload s.db.messages)
  rw [(hsame'.append_right _).congr_left _, Table.select, List.perm_append_left_iff]
  exact eventMessage_iff h.session

/-- The rows that the session is served from after the event. -/
theorem Accepted.served (h : Accepted sessionId s a t) {session : SessionRow}
    {runtime : RuntimeRow} {placement : PlacementRow}
    (hsession : s.db.sessionThreads.find? (·.sessionThreadId == sessionId) = some session)
    (hruntime : s.db.runtimeSessions.find? (·.runtimeSessionId == session.runtimeSessionId) =
      some runtime)
    (hplacement : s.db.projectPlacements.find?
      (·.projectPlacementId == session.projectPlacementId) = some placement) :
    loadSessionDetail t.db sessionId = some (sessionDetail t.db
      (session.after (prepareEvent s.db a.1) (streamGap s.db.events a.1))
      (runtime.after (prepareEvent s.db a.1) (streamGap s.db.events a.1))
      (placement.project (prepareEvent s.db a.1))) := by
  obtain ⟨events, hp⟩ := h.projected
  have hsessions := find?_map_rows (q := (·.sessionThreadId == sessionId))
    ((congrArg Table.rows hp.sessionThreads).trans (sessionsAfter_rows _ _ _))
    fun r => by rw [(SessionRow.after_id _ _ r).1]
  have hruntimes := find?_map_rows (q := (·.runtimeSessionId == session.runtimeSessionId))
    ((congrArg Table.rows hp.runtimeSessions).trans (runtimesAfter_rows _ _ _))
    fun r => by rw [(RuntimeRow.after_id _ _ r).1]
  have hplacements := find?_map_rows (q := (·.projectPlacementId == session.projectPlacementId))
    (projectPlacement_rows hp.projectPlacements) fun r => by rw [(PlacementRow.project_id _ r).1]
  unfold loadSessionDetail
  simp only [hsessions, hsession, hruntimes, hruntime, hplacements, hplacement,
    after_runtimeSessionId, (SessionRow.after_id _ _ session).2, Option.map_some,
    Option.bind_eq_bind, Option.bind_some]
  rfl

/-- **The client agrees with Core after an event exactly when the event is mirrored.** -/
theorem Accepted.agrees_iff (h : Accepted sessionId s a t) (hsync : Synced sessionId s)
    (hagrees : Agrees sessionId s) : Agrees sessionId t ↔ Mirrored sessionId s a := by
  obtain ⟨served, hserved, hsame⟩ := hagrees
  obtain ⟨session, runtime, placement, hsession, hfind, hfind', rfl, rfl⟩ :=
    loadSessionDetail_eq_some hserved
  have hserved' := h.served hsession hfind hfind'
  have hruntime : runtime.runtimeSessionId = session.runtimeSessionId := by
    simpa using find?_pos hfind
  have hplacement : placement.projectPlacementId = session.projectPlacementId := by
    simpa using find?_pos hfind'
  have hmirrored : Mirrored session.sessionThreadId s a ↔ MirroredIn session s a.1 :=
    ⟨fun hm => hm _ h.accept _ hsession,
      fun hm _ _ _ hfound => Option.some.inj (hsession.symm.trans hfound) ▸ hm⟩
  have hr := @runtime_iff (prepareEvent s.db a.1) (streamGap s.db.events a.1) runtime
  rw [hruntime, ← show s.detail.session.runtime.state = runtime.state from hsame.runtime] at hr
  have hs := @session_iff (prepareEvent s.db a.1) (streamGap s.db.events a.1) session h.session
  rw [← show s.detail.session.state = session.state from hsame.session] at hs
  have hp := @placement_iff (prepareEvent s.db a.1) s.detail.placement placement h.kind
    hsame.displayName hsame.workspacePath hsame.placement
  rw [hplacement] at hp
  have hm := h.messages_iff hsync hsame.messages
  have hload := congrArg (loadMessages t.db.messages)
    (SessionRow.after_id (prepareEvent s.db a.1) (streamGap s.db.events a.1) session).1
  rw [← hload, h.detail] at hm
  rw [hmirrored]
  refine Iff.trans ?_ (and_congr hr (and_congr hs (and_congr hm hp)))
  constructor
  · rintro ⟨served, hserved, hd⟩
    obtain rfl := Option.some.inj (hserved'.symm.trans hserved)
    rw [h.detail] at hd
    exact ⟨hd.runtime, hd.session, hd.messages, hd.displayName, hd.workspacePath, hd.placement⟩
  · rintro ⟨hr, hs, hm, hname, hpath, hstate⟩
    refine ⟨_, hserved', ?_⟩
    rw [h.detail]
    exact ⟨hr, hs, hname, hpath, hstate, hm⟩

end Accepted

/-- The client has opened the session: it shows the detail that Core serves. -/
structure Opened (sessionId : SessionThreadId) (s : Live) : Prop where
  follow : ApprovalsFollow s.db
  stored : ∀ m ∈ s.db.messages.rows, Sourced s.db m
  detail : loadSessionDetail s.db sessionId = some s.detail
  gaps : s.gaps = 0

theorem Opened.synced {sessionId : SessionThreadId} {s : Live} (h : Opened sessionId s) :
    Synced sessionId s := by
  obtain ⟨session, runtime, placement, -, -, -, rfl, hdetail⟩ := loadSessionDetail_eq_some h.detail
  refine ⟨h.follow, by rw [hdetail]; rfl, h.stored, fun m hm => ?_, h.gaps⟩
  rw [hdetail] at hm
  exact h.stored m (List.mem_filter.mp ((List.perm_insertionSort _ _).mem_iff.mp hm)).1

/-- **The live projection of a session.** A client that has opened a session and applies what Core
    publishes of it never finds a gap; and it shows at every moment what Core would serve exactly
    when every event that Core accepts is mirrored. -/
theorem live_projection_iff {sessionId : SessionThreadId} {s t : Live} {arriving : List Arriving}
    (hopened : Opened sessionId s) (hrun : run (step sessionId) s arriving = some t) :
    t.gaps = 0 ∧ (Throughout (step sessionId) (Agrees sessionId) s arriving ↔
      Meets (step sessionId) (Mirrored sessionId) s arriving) := by
  have hsync : ∀ s a t, Synced sessionId s → step sessionId s a = some t → Synced sessionId t := by
    intro s a t hs hstep
    rcases step_cases hs hstep with ⟨rfl, -⟩ | h
    · exact hs
    · exact h.synced hs
  refine ⟨(run_inv (Synced sessionId) hsync hopened.synced hrun).gaps, ?_⟩
  refine throughout_iff_meets_of_inv (Synced sessionId) (fun s a t hs _ => hsync s a t hs)
    (fun s a t hs hagrees hstep => ?_) hopened.synced
    ⟨s.detail, hopened.detail, ⟨rfl, rfl, rfl, rfl, rfl, .refl _⟩⟩ hrun
  rcases step_cases hs hstep with ⟨rfl, hrefused⟩ | h
  · exact iff_of_true hagrees fun db hdb => absurd hdb (hrefused db)
  · exact h.agrees_iff hs hagrees

/-- A client of the first session. -/
def firstClient : Live where
  db := twoNodes
  detail := ⟨⟨.active, 0, 0, ⟨.ready, none⟩⟩, ⟨"workspace", "/work", .validated, none⟩, [], []⟩

theorem live_projection_first : ∃ t, run (step "s1") firstClient overtakingEvents = some t ∧
    t.gaps = 0 ∧ (Throughout (step "s1") (Agrees "s1") firstClient overtakingEvents ↔
      Meets (step "s1") (Mirrored "s1") firstClient overtakingEvents) := by
  have hopened : Opened "s1" firstClient :=
    ⟨NothingAccepted.follow ⟨rfl, rfl, rfl⟩, by simp [firstClient, twoNodes], rfl, rfl⟩
  exact ⟨_, rfl, live_projection_iff hopened rfl⟩

end Uprava.Web.LiveSession
