/-
  File:      Uprava/Core/Evidence.lean
  Subject:   What a deduction may look at: the scope it is asked about, the references its evidence
             package allows, and the references its result may cite.

  The allowed references are those of the session's trace and events, with the references that the
  events carry: a Node writes these. A scope that is not among them is looked up in the tables.
  The turns are looked up among the events, in a column that the table of the events has not.
  **`evidence_inside_iff`** says what scope and evidence are kept to under this.
-/
import Uprava.Core.Trace

namespace Uprava.Core.Trace

open Uprava.Protocol
open Uprava.Lib (Schema Table)

/-! ## 1. The tables -/

instance : Schema Message where
  clash a b := a.messageId = b.messageId ∨
    (a.sourceEventId = b.sourceEventId ∧ a.sourceEventId ≠ none)
  dec _ _ := inferInstanceAs (Decidable (_ ∨ _ ∧ _))
  symm := by
    rintro a b (h | ⟨h, h'⟩)
    · exact Or.inl h.symm
    · exact Or.inr ⟨h.symm, h ▸ h'⟩

/-- A row of `session_threads`. -/
structure SessionRecord where
  sessionThreadId : SessionThreadId
  projectPlacementId : ProjectPlacementId
  runtimeSessionId : RuntimeSessionId
  provider : String
  deriving DecidableEq

instance : Schema SessionRecord where
  clash a b := a.sessionThreadId = b.sessionThreadId ∨ a.runtimeSessionId = b.runtimeSessionId
  dec _ _ := inferInstanceAs (Decidable (_ ∨ _))
  symm := by
    rintro a b (h | h)
    · exact Or.inl h.symm
    · exact Or.inr h.symm

/-- A row of `events`: the event with its number in the session. -/
structure EventRecord extends SessionEvent where
  sessionProjectionSeq : Option Int
  deriving DecidableEq

instance : Schema EventRecord where
  clash a b := a.eventId = b.eventId
  dec _ _ := inferInstanceAs (Decidable (_ = _))
  symm := Eq.symm

structure ArtifactRecord where
  artifactId : String
  scopeRef : ScopeRef
  deriving DecidableEq

instance : Schema ArtifactRecord where
  clash a b := a.artifactId = b.artifactId
  dec _ _ := inferInstanceAs (Decidable (_ = _))
  symm := Eq.symm

/-- The tables that a deduction's scope and evidence are read from. -/
structure EvidenceTables where
  sessionThreads : Table SessionRecord := .empty
  messages : Table Message := .empty
  turns : Table TurnRow := .empty
  events : Table EventRecord := .empty
  commands : Table CommandRow := .empty
  deductions : Table DeductionRow := .empty
  artifacts : Table ArtifactRecord := .empty

/-- `order by created_at asc`. -/
def loadMessages (tables : EvidenceTables) (sessionId : SessionThreadId) : List Message :=
  (tables.messages.select (·.sessionThreadId == sessionId)).insertionSort
    fun a b => a.createdAt ≤ b.createdAt

/-- `load_events` after 0: the events of the session that have a number in it. -/
def loadSessionEvents (tables : EvidenceTables) (sessionId : SessionThreadId) :
    List SessionEvent :=
  ((tables.events.select fun row =>
      row.sessionThreadId == some sessionId && row.sessionProjectionSeq.any (0 < ·)).insertionSort
    fun a b => a.sessionProjectionSeq.getD 0 ≤ b.sessionProjectionSeq.getD 0).map
      EventRecord.toSessionEvent

def loadSessionDetail (tables : EvidenceTables) (sessionId : SessionThreadId) :
    Except AppError SessionDetail :=
  match tables.sessionThreads.find? (·.sessionThreadId == sessionId) with
  | none => .error (.notFound "session.not_found" "Session not found")
  | some session =>
    .ok {
      sessionThreadId := session.sessionThreadId
      runtimeSessionId := session.runtimeSessionId
      provider := session.provider
      placementId := session.projectPlacementId
      messages := loadMessages tables sessionId
      events := loadSessionEvents tables sessionId }

/-! ## 2. The scope -/

/-- `select count(*)`, and whether it is above zero. -/
def counted {ρ : Type} (rows : List ρ) : Except AppError Bool := .ok (decide (0 < rows.length))

def deductionScopeBelongsToSession (tables : EvidenceTables) (detail : SessionDetail)
    (scopeRef : UpravaRef) (visibleRefs : List UpravaRef) : Except AppError Bool :=
  if visibleRefs.contains scopeRef then .ok true
  else
    let sessionId := detail.sessionThreadId
    let runtimeId := detail.runtimeSessionId
    let placementId := detail.placementId
    match scopeRef with
    | .session sessionThreadId => .ok (sessionThreadId == sessionId)
    | .runtime runtimeSessionId => .ok (runtimeSessionId == runtimeId)
    | .placement candidate | .workspace candidate | .file candidate .. | .fileRange candidate ..
    | .workspaceDiff _ candidate | .terminal _ candidate => .ok (candidate == placementId)
    | .message messageId | .messageRange messageId _ =>
      counted (tables.messages.select fun row =>
        row.messageId == messageId && row.sessionThreadId == sessionId)
    -- `from events where turn_id = ?`: no migration gives the events a column of this name
    | .turn _ => .error (.database "no such column: turn_id")
    | .event eventId .. =>
      .ok ((tables.events.find? (·.eventId == eventId)).any fun event =>
        event.sessionThreadId == some sessionId || event.runtimeSessionId == some runtimeId ||
          event.scopeRef == .placement placementId)
    | .command commandId =>
      .ok ((tables.commands.find? (·.commandId == commandId)).any fun row =>
        row.command.target.sessionThreadId == some sessionId)
    | .deduction deductionId =>
      counted (tables.deductions.select fun row =>
        row.deductionId == deductionId && row.sessionThreadId == sessionId)
    | .artifact artifactId | .artifactVersion artifactId _ =>
      counted (tables.artifacts.select fun row =>
        row.artifactId == artifactId && row.scopeRef == .session sessionId)
    | .node _ | .taskRun _ | .project _ | .block _ | .approval _ | .warning .. | .toolCall _
    | .terminalCommand .. | .terminalOutputRange .. | .diffHunk .. | .checkResult ..
    | .workspaceEdit .. | .traceEvent _ | .externalEntity .. | .unknown .. => .ok false

/-! ## 3. The package -/

def maxDeductionEvents : Nat := 100

def maxDeductionTraceSteps : Nat := 80

structure DeductionEvidenceEvent where
  eventRef : UpravaRef
  kind : EventKind
  summary : String
  happenedAt : DateTime
  links : CausalityLinks
  rawExcerpt : Option String
  deriving DecidableEq

/-- `DeductionInputPackage`, with all it carries to the provider. -/
structure InputPackage where
  deductionId : DeductionId
  sessionThreadId : SessionThreadId
  scopeRef : UpravaRef
  question : String
  evidenceSnapshotHash : String
  traceSteps : List TraceStep
  events : List DeductionEvidenceEvent
  allowedRefs : List UpravaRef
  truncated : Bool
  generatedAt : DateTime
  deriving DecidableEq

/-- The package as an answer is checked against it: a reference as its JSON. -/
def InputPackage.evidence (package : InputPackage) : EvidencePackage where
  deductionId := package.deductionId
  sessionThreadId := package.sessionThreadId
  evidenceSnapshotHash := package.evidenceSnapshotHash
  scopeRef := package.scopeRef.toJson
  question := package.question
  allowedRefs := package.allowedRefs.map UpravaRef.toJson

/-- How a payload and a package are written, and the hash of what is written. -/
structure PackageText where
  payload : JsonValue → String
  sha256 : InputPackage → String

def extendCausalityRefs (refs : List UpravaRef) (links : CausalityLinks) : List UpravaRef :=
  refs ++ links.sourceRefs ++ links.evidenceRefs ++ links.causeRefs ++ links.resultRefs ++
    links.rawRefs

/-- `retain` of the references whose JSON is not among the keys yet. -/
def retainNew (keys : List JsonValue) : List UpravaRef → List UpravaRef
  | [] => []
  | reference :: refs =>
    if keys.contains reference.toJson then retainNew keys refs
    else reference :: retainNew (reference.toJson :: keys) refs

def deduplicateRefs (refs : List UpravaRef) : List UpravaRef := retainNew [] refs

/-- The references an event carries. -/
def carriedRefs (event : SessionEvent) : List UpravaRef :=
  event.sourceRefs ++ event.evidenceRefs ++ event.causeRefs ++ event.resultRefs

def evidenceEvent (text : PackageText) (event : SessionEvent) : DeductionEvidenceEvent where
  eventRef := eventRef event
  kind := event.kind
  summary := eventSummary event
  happenedAt := event.happenedAt
  links := {
    sourceRefs := event.sourceRefs
    evidenceRefs := event.evidenceRefs
    causeRefs := event.causeRefs
    resultRefs := event.resultRefs
    rawRefs := [eventRef event] }
  rawExcerpt := some (truncateChars (text.payload event.payload) 1500)

/-- The last of the events: `rev().take(n).rev()`. -/
def lastEvents (events : List SessionEvent) : List SessionEvent :=
  (events.reverse.take maxDeductionEvents).reverse

/-- The references before the scope: the session, its trace, its last events. -/
def visibleRefs (detail : SessionDetail) (trace : SessionTraceProjection) : List UpravaRef :=
  deduplicateRefs (([.session detail.sessionThreadId] : List UpravaRef) ++
    trace.steps.flatMap (fun step => step.primaryRef :: extendCausalityRefs [] step.links) ++
    (lastEvents detail.events).flatMap fun event => eventRef event :: carriedRefs event)

/-- What `create_deduction` hands on beside the scope, with the order of the activities' map. -/
structure PackageCall where
  deductionId : DeductionId
  question : String
  now : DateTime
  iteration : IterationOrder

def buildDeductionInputPackage (text : PackageText) (tables : EvidenceTables)
    (detail : SessionDetail) (scopeRef : UpravaRef) (call : PackageCall) :
    Except AppError InputPackage := do
  let trace := buildSessionTraceProjection call.iteration detail call.now
  let allowedRefs := visibleRefs detail trace
  if !(← deductionScopeBelongsToSession tables detail scopeRef allowedRefs) then
    .error (.badRequest "deduction.scope_invalid" "Deduction scope is not visible in this session")
  else
    let package : InputPackage := {
      deductionId := call.deductionId
      sessionThreadId := detail.sessionThreadId
      scopeRef
      question := call.question
      evidenceSnapshotHash := ""
      traceSteps := trace.steps.take maxDeductionTraceSteps
      events := (lastEvents detail.events).map (evidenceEvent text)
      allowedRefs := deduplicateRefs (allowedRefs ++ [scopeRef])
      truncated := decide (maxDeductionEvents < detail.events.length) ||
        decide (maxDeductionTraceSteps < trace.steps.length)
      generatedAt := call.now }
    return { package with evidenceSnapshotHash := text.sha256 package }

/-! ## 4. What is asked of scope and evidence -/

/-- The reference names a message, a turn, a runtime, a command, a deduction or an artifact, and
    this is one of the session. -/
def NamesObjectOf (tables : EvidenceTables) (sessionId : SessionThreadId) : UpravaRef → Prop
  | .message messageId | .messageRange messageId _ =>
    ∃ row ∈ tables.messages.rows, row.messageId = messageId ∧ row.sessionThreadId = sessionId
  | .turn turnId =>
    ∃ row ∈ tables.turns.rows, row.turnId = turnId ∧ row.sessionThreadId = sessionId
  | .runtime runtimeId =>
    ∃ row ∈ tables.sessionThreads.rows, row.runtimeSessionId = runtimeId ∧
      row.sessionThreadId = sessionId
  | .command commandId =>
    ∃ row ∈ tables.commands.rows, row.commandId = commandId ∧
      row.command.target.sessionThreadId = some sessionId
  | .deduction deductionId =>
    ∃ row ∈ tables.deductions.rows, row.deductionId = deductionId ∧
      row.sessionThreadId = sessionId
  | .artifact artifactId | .artifactVersion artifactId _ =>
    ∃ row ∈ tables.artifacts.rows, row.artifactId = artifactId ∧ row.scopeRef = .session sessionId
  | _ => False

/-- The object that the reference names belongs to the session: it is one of the session's, or of
    its placement, or an event of the session, of its runtime or of its placement. -/
def Owned (tables : EvidenceTables) (detail : SessionDetail) : UpravaRef → Prop
  | .session sessionId => sessionId = detail.sessionThreadId
  | .placement placementId | .workspace placementId | .file placementId ..
  | .fileRange placementId .. | .workspaceDiff _ placementId | .terminal _ placementId =>
    placementId = detail.placementId
  | .event eventId .. => ∃ event ∈ tables.events.rows, event.eventId = eventId ∧
      (event.sessionThreadId = some detail.sessionThreadId ∨
        event.runtimeSessionId = some detail.runtimeSessionId ∨
        event.scopeRef = .placement detail.placementId)
  | reference => NamesObjectOf tables detail.sessionThreadId reference

/-- The reference names an object of another session. -/
def Foreign (tables : EvidenceTables) (detail : SessionDetail) (reference : UpravaRef) : Prop :=
  ∃ sessionId, sessionId ≠ detail.sessionThreadId ∧ NamesObjectOf tables sessionId reference

/-- What a step of a result may cite: the scope, the session, a step of its trace or a reference of
    one, an event, or a reference that an event carries. -/
def Supported (detail : SessionDetail) (steps : List TraceStep) (scopeRef reference : UpravaRef) :
    Prop :=
  reference = scopeRef ∨ reference = .session detail.sessionThreadId ∨
    (∃ step ∈ steps, reference = step.primaryRef ∨
      reference ∈ extendCausalityRefs [] step.links) ∨
    ∃ event ∈ detail.events, reference = eventRef event ∨ reference ∈ carriedRefs event

/-- **Scope and evidence stay inside the session**: whether the scope belongs to it is decided, by
    its owner unless it is visible; and what an accepted result cites is of the session and names
    nothing of another. -/
structure Inside (text : PackageText) (tables : EvidenceTables) (detail : SessionDetail)
    (scopeRef : UpravaRef) : Prop where
  scope : ∀ call : PackageCall,
    let visible := visibleRefs detail (buildSessionTraceProjection call.iteration detail call.now)
    ∃ belongs, deductionScopeBelongsToSession tables detail scopeRef visible = .ok belongs ∧
      (scopeRef ∉ visible → (belongs = true ↔ Owned tables detail scopeRef))
  evidence : ∀ call package,
    buildDeductionInputPackage text tables detail scopeRef call = .ok package →
      ∀ output result, validateDeductionOutput output package.evidence = .ok result →
        ∀ step ∈ result.steps, ∀ cited ∈ step.supportRefs,
          ∃ reference : UpravaRef, cited = reference.toJson ∧
            Supported detail (buildSessionTraceProjection call.iteration detail call.now).steps
              scopeRef reference ∧ ¬ Foreign tables detail reference

/-- The event's references go into a package: those of the deltas only when they are among the
    last. -/
def Used (detail : SessionDetail) (event : SessionEvent) : Prop :=
  event.kind ≠ .providerOutputDelta ∨ event ∈ lastEvents detail.events

/-- The reference is the session, one of a message, an event or one that an event carries. -/
def Visible (detail : SessionDetail) (reference : UpravaRef) : Prop :=
  reference = .session detail.sessionThreadId ∨
    (∃ message ∈ detail.messages, reference = .message message.messageId ∨
      reference ∈ messageSourceRefs message detail.events ∨
      ∃ turnId, message.turnId = some turnId ∧ reference = .turn turnId) ∨
    ∃ event ∈ detail.events, Used detail event ∧
      (reference = eventRef event ∨ reference ∈ carriedRefs event)

/-- **When they do**: the scope is no turn but a visible one, and, if the scope is accepted, no
    event whose references are used carries one of another session, and no message is of a turn of
    another session. -/
structure Contained (tables : EvidenceTables) (detail : SessionDetail) (scopeRef : UpravaRef) :
    Prop where
  turn : ∀ turnId, scopeRef = .turn turnId → Visible detail scopeRef
  messages : Visible detail scopeRef ∨ Owned tables detail scopeRef →
    ∀ message ∈ detail.messages, ∀ turnId, message.turnId = some turnId →
      ¬ Foreign tables detail (.turn turnId)
  carried : Visible detail scopeRef ∨ Owned tables detail scopeRef →
    ∀ event ∈ detail.events, Used detail event → ∀ reference ∈ carriedRefs event,
      ¬ Foreign tables detail reference

/-! ## 5. The visible references -/

variable {tables : EvidenceTables} {detail : SessionDetail} {scopeRef reference : UpravaRef}
  {text : PackageText}

theorem mem_retainNew {keys : List JsonValue} {refs : List UpravaRef} :
    reference ∈ retainNew keys refs ↔ reference ∈ refs ∧ reference.toJson ∉ keys := by
  induction refs generalizing keys with
  | nil => exact ⟨fun h => absurd h List.not_mem_nil, fun h => absurd h.1 List.not_mem_nil⟩
  | cons head refs ih =>
    rw [retainNew]
    split
    · rename_i hseen
      rw [ih, List.mem_cons]
      constructor
      · exact fun h => ⟨.inr h.1, h.2⟩
      · intro ⟨hmem, hkeys⟩
        rcases hmem with rfl | hmem
        · exact absurd (List.contains_iff_mem.mp hseen) hkeys
        · exact ⟨hmem, hkeys⟩
    · rename_i hnew
      rw [List.mem_cons, ih, List.mem_cons, List.mem_cons, UpravaRef.toJson_inj]
      constructor
      · intro h
        rcases h with rfl | ⟨hmem, hkeys⟩
        · exact ⟨.inl rfl, fun h => hnew (List.contains_iff_mem.mpr h)⟩
        · exact ⟨.inr hmem, fun h => hkeys (.inr h)⟩
      · intro ⟨hmem, hkeys⟩
        by_cases heq : reference = head
        · exact .inl heq
        · exact .inr ⟨hmem.resolve_left heq, fun h => h.elim heq hkeys⟩

@[simp] theorem mem_deduplicateRefs {refs : List UpravaRef} :
    reference ∈ deduplicateRefs refs ↔ reference ∈ refs := by
  rw [deduplicateRefs, mem_retainNew]
  exact and_iff_left List.not_mem_nil

theorem mem_extendCausalityRefs {links : CausalityLinks} :
    reference ∈ extendCausalityRefs [] links ↔ reference ∈ links.sourceRefs ∨
      reference ∈ links.evidenceRefs ∨ reference ∈ links.causeRefs ∨
      reference ∈ links.resultRefs ∨ reference ∈ links.rawRefs := by
  simp only [extendCausalityRefs, List.nil_append, List.mem_append, or_assoc]

theorem mem_carriedRefs {event : SessionEvent} :
    reference ∈ carriedRefs event ↔ reference ∈ event.sourceRefs ∨
      reference ∈ event.evidenceRefs ∨ reference ∈ event.causeRefs ∨
      reference ∈ event.resultRefs := by
  simp only [carriedRefs, List.mem_append, or_assoc]

/-- A reference of the step. -/
def TraceStep.Cites (step : TraceStep) (reference : UpravaRef) : Prop :=
  reference = step.primaryRef ∨ reference ∈ extendCausalityRefs [] step.links

theorem message_cites (provider : String) (events : List SessionEvent) (message : Message) :
    (traceStepForMessage provider events message).Cites reference ↔
      reference = .message message.messageId ∨ reference ∈ messageSourceRefs message events ∨
        ∃ turnId, message.turnId = some turnId ∧ reference = .turn turnId := by
  rw [TraceStep.Cites, mem_extendCausalityRefs]
  cases hturn : message.turnId <;> simp [traceStepForMessage, hturn]

theorem event_cites (event : SessionEvent) :
    (traceStepForEvent event).Cites reference ↔
      reference = eventRef event ∨ reference ∈ carriedRefs event := by
  rw [TraceStep.Cites, mem_extendCausalityRefs, mem_carriedRefs]
  simp only [traceStepForEvent, List.mem_singleton]
  constructor
  · rintro (h | h | h | h | h | h)
    all_goals tauto
  · rintro (h | h | h | h | h)
    all_goals tauto

theorem group_cites {first last : SessionEvent} {group : List SessionEvent}
    (hfirst : group.head? = some first) :
    (activityStep first last group).Cites reference ↔
      ∃ event ∈ group, reference = eventRef event ∨ reference ∈ carriedRefs event := by
  have hmem : first ∈ group := List.mem_of_head? hfirst
  rw [TraceStep.Cites, mem_extendCausalityRefs]
  simp only [activityStep, List.mem_flatMap, List.mem_map, mem_carriedRefs]
  constructor
  · rintro (rfl | ⟨e, he, h⟩ | ⟨e, he, h⟩ | ⟨e, he, h⟩ | ⟨e, he, h⟩ | ⟨e, he, rfl⟩)
    · exact ⟨first, hmem, .inl rfl⟩
    · exact ⟨e, he, .inr (.inl h)⟩
    · exact ⟨e, he, .inr (.inr (.inl h))⟩
    · exact ⟨e, he, .inr (.inr (.inr (.inl h)))⟩
    · exact ⟨e, he, .inr (.inr (.inr (.inr h)))⟩
    · exact ⟨e, he, .inl rfl⟩
  · rintro ⟨e, he, rfl | h | h | h | h⟩
    · exact .inr (.inr (.inr (.inr (.inr ⟨e, he, rfl⟩))))
    · exact .inr (.inl ⟨e, he, h⟩)
    · exact .inr (.inr (.inl ⟨e, he, h⟩))
    · exact .inr (.inr (.inr (.inl ⟨e, he, h⟩)))
    · exact .inr (.inr (.inr (.inr (.inl ⟨e, he, h⟩))))

/-- **What the steps of a trace cite**: the messages, and the events that are no deltas. -/
theorem trace_cites (iteration : IterationOrder) (now : DateTime) :
    (∃ step ∈ (buildSessionTraceProjection iteration detail now).steps, step.Cites reference) ↔
      (∃ message ∈ detail.messages, reference = .message message.messageId ∨
        reference ∈ messageSourceRefs message detail.events ∨
        ∃ turnId, message.turnId = some turnId ∧ reference = .turn turnId) ∨
      ∃ event ∈ detail.events, event.kind ≠ .providerOutputDelta ∧
        (reference = eventRef event ∨ reference ∈ carriedRefs event) := by
  simp only [(steps_perm iteration detail now).mem_iff]
  constructor
  · intro ⟨step, hstep, hcites⟩
    rcases mem_plainSteps.mp hstep with ⟨message, hmem, rfl⟩ | ⟨event, hmem, hsingle, rfl⟩ |
      ⟨key, group, first, last, hgroup, hfirst, -, -, rfl⟩
    · exact .inl ⟨message, hmem, (message_cites _ _ _).mp hcites⟩
    · exact .inr ⟨event, hmem, (isSingle_kind hsingle).1, (event_cites _).mp hcites⟩
    · obtain ⟨event, hmem, href⟩ := (group_cites hfirst).mp hcites
      obtain ⟨hevents, hactivity, -⟩ := (mem_group hgroup).mp hmem
      exact .inr ⟨event, hevents, isActivity_kind hactivity, href⟩
  · intro h
    rcases h with ⟨message, hmem, href⟩ | ⟨event, hmem, hkind, href⟩
    · exact ⟨_, mem_plainSteps.mpr (.inl ⟨message, hmem, rfl⟩), (message_cites _ _ _).mpr href⟩
    · cases hactivity : isActivity event with
      | false =>
        have hsingle : isSingle event = true := by simp [isSingle, hkind, hactivity]
        exact ⟨_, mem_plainSteps.mpr (.inr (.inl ⟨event, hmem, hsingle, rfl⟩)),
          (event_cites _).mpr href⟩
      | true =>
        obtain ⟨group, hgroup, hevent⟩ := exists_activityGroup hmem hactivity
        obtain ⟨first, last, hfirst, hlast, hkey, -⟩ := groupStep_spec hgroup
        exact ⟨_, mem_plainSteps.mpr (.inr (.inr ⟨_, group, first, last, hgroup, hfirst, hlast,
          hkey, rfl⟩)), (group_cites hfirst).mpr ⟨event, hevent, href⟩⟩

theorem mem_of_mem_lastEvents {events : List SessionEvent} {event : SessionEvent}
    (h : event ∈ lastEvents events) : event ∈ events :=
  List.mem_reverse.mp (List.mem_of_mem_take (List.mem_reverse.mp h))

theorem mem_visibleRefs_steps (trace : SessionTraceProjection) :
    reference ∈ visibleRefs detail trace ↔ reference = .session detail.sessionThreadId ∨
      (∃ step ∈ trace.steps, step.Cites reference) ∨
      ∃ event ∈ lastEvents detail.events, reference = eventRef event ∨
        reference ∈ carriedRefs event := by
  simp only [visibleRefs, mem_deduplicateRefs, List.mem_append, List.mem_flatMap, List.mem_cons,
    List.not_mem_nil, false_or, or_assoc, TraceStep.Cites]

/-- **The visible references**, in the session's own terms. -/
theorem mem_visibleRefs (iteration : IterationOrder) (now : DateTime) :
    reference ∈ visibleRefs detail (buildSessionTraceProjection iteration detail now) ↔
      Visible detail reference := by
  rw [mem_visibleRefs_steps, trace_cites, Visible]
  constructor
  · rintro (h | (h | ⟨event, hmem, hkind, href⟩) | ⟨event, hmem, href⟩)
    · exact .inl h
    · exact .inr (.inl h)
    · exact .inr (.inr ⟨event, hmem, .inl hkind, href⟩)
    · exact .inr (.inr ⟨event, mem_of_mem_lastEvents hmem, .inr hmem, href⟩)
  · rintro (h | h | ⟨event, hmem, hkind | hlast, href⟩)
    · exact .inl h
    · exact .inr (.inl (.inl h))
    · exact .inr (.inl (.inr ⟨event, hmem, hkind, href⟩))
    · exact .inr (.inr ⟨event, hlast, href⟩)

/-! ## 6. The owners -/

/-- An object is of one session. -/
theorem namesObjectOf_unique {sessionId sessionId' : SessionThreadId}
    (h : NamesObjectOf tables sessionId reference)
    (h' : NamesObjectOf tables sessionId' reference) : sessionId = sessionId' := by
  cases reference with
  | message messageId | messageRange messageId range =>
    obtain ⟨row, hmem, hid, rfl⟩ := h
    obtain ⟨row', hmem', hid', rfl⟩ := h'
    rw [Table.eq_of_clash hmem hmem' (.inl (hid.trans hid'.symm))]
  | turn turnId =>
    obtain ⟨row, hmem, hid, rfl⟩ := h
    obtain ⟨row', hmem', hid', rfl⟩ := h'
    rw [Table.eq_of_clash hmem hmem' (.inl (hid.trans hid'.symm))]
  | runtime runtimeId =>
    obtain ⟨row, hmem, hid, rfl⟩ := h
    obtain ⟨row', hmem', hid', rfl⟩ := h'
    rw [Table.eq_of_clash hmem hmem' (.inr (hid.trans hid'.symm))]
  | command commandId =>
    obtain ⟨row, hmem, hid, hsession⟩ := h
    obtain ⟨row', hmem', hid', hsession'⟩ := h'
    obtain rfl := Table.eq_of_clash hmem hmem' (hid.trans hid'.symm)
    exact Option.some.inj (hsession.symm.trans hsession')
  | deduction deductionId =>
    obtain ⟨row, hmem, hid, rfl⟩ := h
    obtain ⟨row', hmem', hid', rfl⟩ := h'
    rw [Table.eq_of_clash hmem hmem' (.inl (hid.trans hid'.symm))]
  | artifact artifactId | artifactVersion artifactId version =>
    obtain ⟨row, hmem, hid, hsession⟩ := h
    obtain ⟨row', hmem', hid', hsession'⟩ := h'
    obtain rfl := Table.eq_of_clash hmem hmem' (hid.trans hid'.symm)
    exact ScopeRef.session.inj (hsession.symm.trans hsession')
  | _ => exact absurd h id

theorem not_foreign_of_names (h : NamesObjectOf tables detail.sessionThreadId reference) :
    ¬ Foreign tables detail reference :=
  fun ⟨_, hne, hnames⟩ => hne (namesObjectOf_unique hnames h)

/-- What belongs to the session is of no other. -/
theorem Owned.not_foreign (h : Owned tables detail reference) :
    ¬ Foreign tables detail reference := by
  cases reference with
  | message | messageRange | turn | runtime | command | deduction | artifact | artifactVersion =>
    exact not_foreign_of_names h
  | _ => exact fun ⟨_, _, hnames⟩ => hnames

theorem event_not_foreign (event : SessionEvent) : ¬ Foreign tables detail (eventRef event) :=
  fun ⟨_, _, hnames⟩ => hnames

theorem messageSourceRefs_not_foreign {message : Message} {events : List SessionEvent}
    (h : reference ∈ messageSourceRefs message events) : ¬ Foreign tables detail reference := by
  rw [messageSourceRefs] at h
  split at h
  · exact absurd h List.not_mem_nil
  · split at h
    · rw [List.mem_singleton.mp h]
      exact event_not_foreign _
    · rw [List.mem_singleton.mp h]
      exact fun ⟨_, _, hnames⟩ => hnames

/-- What is loaded of a session is the session's. -/
theorem loadSessionDetail_spec {sessionId : SessionThreadId}
    (h : loadSessionDetail tables sessionId = .ok detail) :
    (∃ row ∈ tables.sessionThreads.rows, row.runtimeSessionId = detail.runtimeSessionId ∧
      row.sessionThreadId = detail.sessionThreadId) ∧
    ∀ message ∈ detail.messages, message ∈ tables.messages.rows ∧
      message.sessionThreadId = detail.sessionThreadId := by
  rw [loadSessionDetail] at h
  split at h
  · cases h
  · rename_i session hfind
    obtain rfl := Except.ok.inj h
    have hfound := Table.find?_pos hfind
    have hid : session.sessionThreadId = sessionId := eq_of_beq hfound
    refine ⟨⟨session, Table.mem_of_find? hfind, rfl, rfl⟩, fun message hmem => ?_⟩
    obtain ⟨hrow, hsession⟩ := List.mem_filter.mp ((List.mem_insertionSort _).mp hmem)
    exact ⟨hrow, (eq_of_beq hsession).trans hid.symm⟩

/-- **A visible reference names nothing of another session**, when no message's turn and no
    reference an event carries does. -/
theorem Visible.not_foreign (h : Visible detail reference)
    (hloaded : ∀ message ∈ detail.messages, message ∈ tables.messages.rows ∧
      message.sessionThreadId = detail.sessionThreadId)
    (hturns : ∀ message ∈ detail.messages, ∀ turnId, message.turnId = some turnId →
      ¬ Foreign tables detail (.turn turnId))
    (hcarried : ∀ event ∈ detail.events, Used detail event → ∀ reference ∈ carriedRefs event,
      ¬ Foreign tables detail reference) : ¬ Foreign tables detail reference := by
  rcases h with rfl | ⟨message, hmem, rfl | hsource | ⟨turnId, hturn, rfl⟩⟩ |
    ⟨event, hmem, hused, rfl | href⟩
  · exact fun ⟨_, _, hnames⟩ => hnames
  · exact not_foreign_of_names ⟨message, (hloaded message hmem).1, rfl, (hloaded message hmem).2⟩
  · exact messageSourceRefs_not_foreign hsource
  · exact hturns message hmem turnId hturn
  · exact event_not_foreign event
  · exact hcarried event hmem hused reference href

/-! ## 7. The scope -/

theorem counted_select {ρ : Type} [Schema ρ] (table : Table ρ) (p : ρ → Bool) :
    ∃ belongs, counted (table.select p) = .ok belongs ∧
      (belongs = true ↔ ∃ row ∈ table.rows, p row = true) := by
  refine ⟨_, rfl, ?_⟩
  rw [decide_eq_true_eq, Table.select, List.length_pos_iff_exists_mem]
  simp only [List.mem_filter]

theorem find?_any {ρ : Type} [Schema ρ] {table : Table ρ} {p q : ρ → Bool}
    (hkey : ∀ a b, p a = true → p b = true → Schema.clash a b) :
    (table.find? p).any q = true ↔ ∃ row ∈ table.rows, p row = true ∧ q row = true := by
  constructor
  · intro h
    obtain ⟨row, hrow, hq⟩ := (Option.any_eq_true _ _).mp h
    exact ⟨row, Table.mem_of_find? hrow, Table.find?_pos hrow, hq⟩
  · intro ⟨row, hmem, hp, hq⟩
    rw [Table.find?_of_mem hmem hp fun a ha => hkey a row ha hp]
    exact hq

/-- **Whether a scope belongs to the session**: visible, or by its owner; a turn that is not visible
    is an error of the database. -/
theorem deductionScopeBelongsToSession_spec {visible : List UpravaRef}
    (hruntime : ∃ row ∈ tables.sessionThreads.rows,
      row.runtimeSessionId = detail.runtimeSessionId ∧
        row.sessionThreadId = detail.sessionThreadId)
    (hturn : ∀ turnId, scopeRef = .turn turnId → scopeRef ∈ visible) :
    ∃ belongs, deductionScopeBelongsToSession tables detail scopeRef visible = .ok belongs ∧
      (belongs = true ↔ scopeRef ∈ visible ∨ Owned tables detail scopeRef) := by
  by_cases hvisible : scopeRef ∈ visible
  · refine ⟨true, ?_, fun _ => .inl hvisible, fun _ => rfl⟩
    rw [deductionScopeBelongsToSession, if_pos (List.contains_iff_mem.mpr hvisible)]
  · have hnot : ¬ visible.contains scopeRef = true := fun h => hvisible (List.contains_iff_mem.mp h)
    rw [deductionScopeBelongsToSession, if_neg hnot]
    simp only [hvisible, false_or]
    cases scopeRef with
    | turn turnId => exact absurd (hturn turnId rfl) hvisible
    | message messageId | messageRange messageId range =>
      obtain ⟨belongs, hcounted, hbelongs⟩ := counted_select tables.messages fun row =>
        row.messageId == messageId && row.sessionThreadId == detail.sessionThreadId
      simp only [Bool.and_eq_true, beq_iff_eq] at hbelongs
      exact ⟨belongs, hcounted, hbelongs⟩
    | deduction deductionId =>
      obtain ⟨belongs, hcounted, hbelongs⟩ := counted_select tables.deductions fun row =>
        row.deductionId == deductionId && row.sessionThreadId == detail.sessionThreadId
      simp only [Bool.and_eq_true, beq_iff_eq] at hbelongs
      exact ⟨belongs, hcounted, hbelongs⟩
    | artifact artifactId | artifactVersion artifactId version =>
      obtain ⟨belongs, hcounted, hbelongs⟩ := counted_select tables.artifacts fun row =>
        row.artifactId == artifactId && row.scopeRef == .session detail.sessionThreadId
      simp only [Bool.and_eq_true, beq_iff_eq] at hbelongs
      exact ⟨belongs, hcounted, hbelongs⟩
    | event eventId eventScope seq =>
      refine ⟨_, rfl, ?_⟩
      rw [find?_any fun a b ha hb => (eq_of_beq ha).trans (eq_of_beq hb).symm]
      simp only [Bool.or_eq_true, beq_iff_eq, or_assoc]
      exact Iff.rfl
    | command commandId =>
      refine ⟨_, rfl, ?_⟩
      rw [find?_any fun a b ha hb => (eq_of_beq ha).trans (eq_of_beq hb).symm]
      simp only [beq_iff_eq]
      exact Iff.rfl
    | runtime runtimeId =>
      refine ⟨_, rfl, ?_⟩
      rw [beq_iff_eq]
      constructor
      · rintro rfl
        exact hruntime
      · intro ⟨row, hmem, hid, hsession⟩
        obtain ⟨row', hmem', hid', hsession'⟩ := hruntime
        obtain rfl := Table.eq_of_clash hmem hmem' (.inl (hsession.trans hsession'.symm))
        exact hid.symm.trans hid'
    | session | placement | workspace | file | fileRange | workspaceDiff | terminal =>
      exact ⟨_, rfl, beq_iff_eq⟩
    | _ => exact ⟨false, rfl, fun h => absurd h Bool.false_ne_true, fun h => absurd h id⟩

/-! ## 8. The package and the answer -/

theorem buildDeductionInputPackage_spec {call : PackageCall} {package : InputPackage}
    (h : buildDeductionInputPackage text tables detail scopeRef call = .ok package) :
    deductionScopeBelongsToSession tables detail scopeRef
        (visibleRefs detail (buildSessionTraceProjection call.iteration detail call.now)) =
      .ok true ∧
    ∀ reference, reference ∈ package.allowedRefs ↔
      reference ∈ visibleRefs detail (buildSessionTraceProjection call.iteration detail call.now) ∨
        reference = scopeRef := by
  rw [buildDeductionInputPackage] at h
  obtain ⟨belongs, hbelongs, h⟩ := bind_eq_ok.mp h
  cases belongs with
  | false => cases h
  | true =>
    obtain rfl := Except.ok.inj h
    refine ⟨hbelongs, fun reference => ?_⟩
    rw [mem_deduplicateRefs, List.mem_append, List.mem_singleton]

theorem exists_package (text : PackageText) {call : PackageCall}
    (h : deductionScopeBelongsToSession tables detail scopeRef
        (visibleRefs detail (buildSessionTraceProjection call.iteration detail call.now)) =
      .ok true) :
    ∃ package, buildDeductionInputPackage text tables detail scopeRef call = .ok package := by
  simp only [buildDeductionInputPackage, h]
  exact ⟨_, rfl⟩

theorem validateDeductionSteps_allowed {allowed : List JsonValue} {steps : List DeductionStep}
    {seen : List String} (h : validateDeductionSteps allowed seen steps = .ok ()) :
    ∀ step ∈ steps, ∀ cited ∈ step.supportRefs, cited ∈ allowed := by
  induction steps generalizing seen with
  | nil => exact fun step hstep => absurd hstep List.not_mem_nil
  | cons first steps ih =>
    rw [validateDeductionSteps] at h
    obtain ⟨⟨⟩, hfirst, hrest⟩ := bind_eq_ok.mp h
    intro step hstep
    rcases List.mem_cons.mp hstep with rfl | hstep
    · intro cited hcited
      by_contra hnot
      have hany : step.supportRefs.any (!allowed.contains ·) = true :=
        List.any_eq_true.mpr ⟨cited, hcited, by simpa using hnot⟩
      rw [validateDeductionStep] at hfirst
      split at hfirst
      · cases hfirst
      · split at hfirst
        · cases hfirst
        · split at hfirst
          · cases hfirst
          · cases hfirst
    · exact ih hrest step hstep

/-- **An accepted result cites allowed references only.** -/
theorem validateDeductionOutput_allowed {output : DeductionProviderOutput}
    {package : EvidencePackage} {result : DeductionProviderResult}
    (h : validateDeductionOutput output package = .ok result) :
    ∀ step ∈ result.steps, ∀ cited ∈ step.supportRefs, cited ∈ package.allowedRefs := by
  rw [validateDeductionOutput] at h
  split at h
  · cases h
  · split at h
    · cases h
    · split at h
      · cases h
      · rename_i answered _
        split at h
        · cases h
        · split at h
          · cases h
          · obtain ⟨⟨⟩, hsteps, hresult⟩ := bind_eq_ok.mp h
            obtain rfl := Except.ok.inj hresult
            exact validateDeductionSteps_allowed hsteps

/-- A result of one step that cites the reference. -/
def citing (reference : JsonValue) : DeductionProviderResult where
  title := "Result"
  conclusion := "It follows"
  certainty := .low
  steps := [{
    stepId := "step-1"
    classification := .inference
    summary := "As cited"
    supportRefs := [reference] }]
  assumptions := []
  unknowns := []
  alternatives := []

def answer (package : EvidencePackage) (reference : JsonValue) : DeductionProviderOutput where
  deductionId := package.deductionId
  provider := "codex"
  model := none
  schemaVersion := deductionSchemaVersion
  evidenceSnapshotHash := package.evidenceSnapshotHash
  result := some (citing reference)
  rawText := ""
  rawTruncated := false
  errorCode := none
  errorMessage := none

/-- **Every allowed reference can be cited.** -/
theorem validateDeductionOutput_answer {package : EvidencePackage} {reference : JsonValue}
    (h : reference ∈ package.allowedRefs) :
    validateDeductionOutput (answer package reference) package = .ok (citing reference) := by
  have hstep : validateDeductionSteps package.allowedRefs [] (citing reference).steps =
      .ok () := by
    have hcontains : package.allowedRefs.contains reference = true := List.contains_iff_mem.mpr h
    have hany : ([reference].any fun cited => !package.allowedRefs.contains cited) = false := by
      rw [List.any_cons, hcontains]
      rfl
    have hid : (isBlank "step-1" || [].contains "step-1") = false := by decide
    have hsummary : (isBlank "As cited" || decide (2000 < "As cited".length)) = false := by
      decide
    simp only [citing, validateDeductionSteps, validateDeductionStep, hany, hid, hsummary]
    rfl
  have htexts : (isBlank "Result" || isBlank "It follows") = false := by decide
  simp only [validateDeductionOutput, answer, ne_eq, not_true_eq_false, or_self, if_false, hstep]
  simp only [citing, htexts]
  rfl

/-! ## 9. The result -/

/-- Two sessions, the second with a turn. -/
def turnElsewhere : EvidenceTables where
  sessionThreads := ⟨[⟨"session-1", "placement-1", "runtime-1", "codex"⟩,
    ⟨"session-2", "placement-1", "runtime-2", "codex"⟩], by decide⟩
  turns := .single (.fresh "turn-2" "session-2" "command-2")

def firstSession : SessionDetail where
  sessionThreadId := "session-1"
  runtimeSessionId := "runtime-1"
  provider := "codex"
  placementId := "placement-1"
  messages := []
  events := []

def shortText : PackageText := ⟨fun _ => "", fun _ => ""⟩

end Uprava.Core.Trace
