/-
  File:      Uprava/Core/Redaction.lean
  Subject:   What a tool call stores of its arguments and of its result, in two runs that differ
             only in what the tool's redaction hides.

  A call that took its tool's route is finished by the request that waits for the answer, or by the
  Node's event once the request is gone. The one redacts and summarizes the result before it is
  hashed, the other stores the result as the Node sent it. Arguments are hashed as they are.

  * `redaction_iff`: the row and the events are the same in both runs and the summaries are short,
    exactly when nothing that is hashed or stored unredacted differs, and no long summary is
    stored.
-/
import Uprava.Core.ToolCalls

namespace Uprava.Core

open Uprava.Protocol
open Uprava.Lib (Schema Table DifferOnlyAt JsonMap bounded bytes prefixWithin bytes_prefixWithin
  utf8ByteSize_ofList natCast_of_chars chars_natCast_ne_null)
open Uprava.Lib.Table

/-! ## 1. Runs of a call -/

/-- How a call that took its route ends: the request waits for the answer, or it is gone and the
    Node's event ends the call. -/
inductive CallFinish where
  | waited (outcome : RouteOutcome)
  | late (event : ToolingEventV1)
  deriving DecidableEq

/-- What two runs of a call may differ in. -/
structure CallData where
  arguments : JsonValue
  finish : CallFinish
  deriving DecidableEq

/-- What two runs of a call share. -/
structure CallFrame where
  toolCallId : ToolCallId
  correlationId : CorrelationId
  scope : ToolScope
  definition : ToolDefinition
  available : Bool
  binding : Option CommandBinding
  now : DateTime
  deriving DecidableEq

def CallFrame.call (c : CallFrame) (arguments : JsonValue) : NewCall :=
  ⟨c.toolCallId, c.correlationId, c.definition, ⟨c.scope, c.definition.toolId, arguments⟩⟩

/-- Does a call get as far as its tool's route? -/
def CallFrame.takesRoute (c : CallFrame) (arguments : JsonValue) : Bool :=
  policyDecision c.definition c.scope == .allow && c.available &&
    (validateArguments c.definition.inputSchema arguments).toOption.isSome

section Runs

variable (digest : Digest)

/-- A call from its beginning to its end. -/
def CallFrame.run (c : CallFrame) (s : Tooling) (d : CallData) : Tooling :=
  let request : ExecuteToolRequest := ⟨c.scope, c.definition.toolId, d.arguments⟩
  let execute outcome :=
    (executeTool digest s c.toolCallId c.correlationId request ⟨c.available, c.binding, outcome⟩
      c.now).1
  match d.finish with
  | .waited outcome => execute outcome
  | .late event =>
    if c.takesRoute d.arguments then
      let call := c.call d.arguments
      let t := (runWrites digest call c.now
        (openingWrites call ++ (authorizedWrites ++ startWrites c.binding)) s).1
      match projectTerminalToolingEvent digest t event c.now with
      | .ok u => u
      | .error _ => t
    else
      -- the call ends before its route is asked
      execute (.failed internalToolError)

end Runs

/-- The row of a call and its events. -/
def callRecords (s : Tooling) (toolCallId : ToolCallId) :
    Option ToolCallRow × List ToolCallEventRow :=
  (findToolCall? s.toolCalls toolCallId, s.toolCallEvents.select (·.toolCallId == toolCallId))

/-! ## 2. What redaction hides -/

/-- Two values that differ in what is hidden only. -/
def DifferHidden (hideAll : Bool) (pointers : List String) (value value' : JsonValue) : Prop :=
  hideAll = true ∨ DifferOnlyAt pointers value value'

/-- Two results whose contents differ in what is hidden only. A Node computes a summary and a size
    from the content. -/
structure ResultsDifferHidden (redaction : ToolRedactionPolicy) (r r' : ToolResultEnvelope) :
    Prop where
  content : DifferHidden redaction.redactAllResult redaction.resultJsonPointers r.content r'.content
  truncated : r.truncated = r'.truncated
  artifactRefs : r.artifactRefs = r'.artifactRefs

def OutcomesDifferHidden (redaction : ToolRedactionPolicy) : RouteOutcome → RouteOutcome → Prop
  | .content value refs, .content value' refs' =>
    DifferHidden redaction.redactAllResult redaction.resultJsonPointers value value' ∧ refs = refs'
  | .external r, .external r' => ResultsDifferHidden redaction r r'
  | .failed error, .failed error' => error = error'
  | _, _ => False

def PayloadsDifferHidden (redaction : ToolRedactionPolicy) :
    ToolingEventPayloadV1 → ToolingEventPayloadV1 → Prop
  | .toolCallCompleted id r, .toolCallCompleted id' r' =>
    id = id' ∧ ResultsDifferHidden redaction r r'
  | payload, payload' => payload = payload'

def FinishesDifferHidden (redaction : ToolRedactionPolicy) : CallFinish → CallFinish → Prop
  | .waited outcome, .waited outcome' => OutcomesDifferHidden redaction outcome outcome'
  | .late event, .late event' =>
    event.contractVersion = event'.contractVersion ∧
      PayloadsDifferHidden redaction event.payload event'.payload
  | _, _ => False

/-- **Two runs whose arguments and results differ in what is hidden only.** -/
structure RunsDifferHidden (redaction : ToolRedactionPolicy) (d d' : CallData) : Prop where
  arguments : DifferHidden redaction.redactAllArguments redaction.argumentJsonPointers d.arguments
    d'.arguments
  finish : FinishesDifferHidden redaction d.finish d'.finish

/-- The summaries of a call take at most `toolSummaryMaxBytes` bytes. -/
def SummariesShort (s : Tooling) (toolCallId : ToolCallId) : Prop :=
  ∀ r ∈ findToolCall? s.toolCalls toolCallId,
    r.redactedArgumentsSummary.utf8ByteSize ≤ toolSummaryMaxBytes ∧
      ∀ summary ∈ r.redactedResultSummary, summary.utf8ByteSize ≤ toolSummaryMaxBytes

/-! ## 3. What shows all the same -/

/-- The size that is kept of a route's result, if there is one. -/
def RouteOutcome.shownSize : RouteOutcome → Option (Option Nat)
  | content value _ =>
    if value.encode.utf8ByteSize > toolResultMaxBytes then none
    else some (some value.encode.utf8ByteSize)
  | external r => some r.originalSizeBytes
  | failed _ => none

/-- The result of an event that ends the call, which is stored as it is. -/
def endingResult? (toolCallId : ToolCallId) (event : ToolingEventV1) : Option ToolResultEnvelope :=
  match event.payload with
  | .toolCallCompleted id r =>
    if event.contractVersion = toolingContractVersionV1 ∧ id = toolCallId then some r else none
  | _ => none

/-- Two results show the same: the same size when they were waited for, and otherwise the same text
    and the same summary. -/
def FinishesShowSame (toolCallId : ToolCallId) : CallFinish → CallFinish → Prop
  | .waited outcome, .waited outcome' => outcome.shownSize = outcome'.shownSize
  | .late event, .late event' =>
    (endingResult? toolCallId event).map (fun r => (resultText r, r.summary)) =
      (endingResult? toolCallId event').map fun r => (resultText r, r.summary)
  | _, _ => False

/-- **What is hashed or answered unredacted is the same in both runs.** -/
structure RunsShowSame (c : CallFrame) (d d' : CallData) : Prop where
  /-- The arguments are one text. -/
  arguments : d.arguments.encode = d'.arguments.encode
  /-- The check of the arguments, where it is made, says the same. -/
  checked : policyDecision c.definition c.scope = .allow → c.available = true →
    validateArguments c.definition.inputSchema d.arguments =
      validateArguments c.definition.inputSchema d'.arguments
  /-- The results, where the route is taken, show the same. -/
  finish : c.takesRoute d.arguments = true → FinishesShowSame c.toolCallId d.finish d'.finish

/-- A text whose summary within `n` bytes is short: it is short itself, or it is cut short. -/
def CutShort (n : Nat) (text : String) : Prop :=
  text.utf8ByteSize ≤ toolSummaryMaxBytes ∨
    n < text.utf8ByteSize ∧ bytes (prefixWithin (n - 3) text.toList) + 3 ≤ toolSummaryMaxBytes

/-- The summary that is stored of a result is short: it is made of the redacted content of a result
    that was waited for, and otherwise the Node's. -/
def FinishShort (c : CallFrame) : CallFinish → Prop
  | .waited outcome => ∀ r refs, outcome.result = .ok (r, refs) →
      CutShort c.definition.redaction.maxSummaryBytes
        (redactJson r.content c.definition.redaction.resultJsonPointers
          c.definition.redaction.redactAllResult).encode
  | .late event => ∀ r ∈ endingResult? c.toolCallId event, ∀ summary ∈ r.summary,
      summary.utf8ByteSize ≤ toolSummaryMaxBytes

/-- The summary of a run's result, where the route is taken, is short. -/
def RunShort (c : CallFrame) (d : CallData) : Prop :=
  c.takesRoute d.arguments = true → FinishShort c d.finish

/-- The texts of a run that are hashed. -/
def hashedTexts (redaction : ToolRedactionPolicy) (d : CallData) : List String :=
  d.arguments.encode ::
    match d.finish with
    | .waited outcome =>
      match outcome.result with
      | .ok (r, _) => [resultText (redactResult redaction r)]
      | .error _ => []
    | .late event =>
      match event.payload with
      | .toolCallCompleted _ r => [resultText r]
      | _ => []

/-- No two different texts of the two runs have the same digest. -/
def NoCollision (digest : Digest) (redaction : ToolRedactionPolicy) (d d' : CallData) : Prop :=
  ∀ x ∈ hashedTexts redaction d, ∀ y ∈ hashedTexts redaction d', digest x = digest y → x = y

/-- The ids of a call are new. -/
structure CallFrame.Fresh (c : CallFrame) (s : Tooling) : Prop where
  call : ∀ r ∈ s.toolCalls.rows, r.toolCallId ≠ c.toolCallId
  event : ∀ r ∈ s.toolCallEvents.rows, r.toolCallId ≠ c.toolCallId
  command : ∀ b ∈ c.binding, ∀ r ∈ s.toolCalls.rows, r.commandId ≠ some b.commandId

/-! ## 4. The records of a call -/

/-- The row of a call, its events, and the rows of the other calls. -/
structure Records (s : Tooling) (toolCallId : ToolCallId) (r : ToolCallRow)
    (events : List ToolCallEventRow) (others : List ToolCallRow) : Prop where
  row : findToolCall? s.toolCalls toolCallId = some r
  events : s.toolCallEvents.select (·.toolCallId == toolCallId) = events
  others : s.toolCalls.rows.filter (·.toolCallId != toolCallId) = others

/-- One more event of a call. -/
def addEvent (toolCallId : ToolCallId) (now : DateTime) (events : List ToolCallEventRow)
    (state : ToolCallState) (payload : JsonValue) : List ToolCallEventRow :=
  events ++ [⟨toolCallId, (events.map (·.sequence)).foldl max 0 + 1, state, payload, now⟩]

section Records

variable {s t : Tooling} {toolCallId : ToolCallId} {r : ToolCallRow}
  {events : List ToolCallEventRow} {others : List ToolCallRow}

theorem Records.toolCallId_row (h : Records s toolCallId r events others) :
    r.toolCallId = toolCallId := beq_iff_eq.mp (find?_pos (t := s.toolCalls) h.row)

theorem Records.mem_row (h : Records s toolCallId r events others) : r ∈ s.toolCalls.rows :=
  mem_of_find? (t := s.toolCalls) h.row

/-- A row of the call is its row. -/
theorem Records.eq_row (h : Records s toolCallId r events others) {a : ToolCallRow}
    (ha : a ∈ s.toolCalls.rows) (hid : a.toolCallId = toolCallId) : a = r :=
  eq_of_clash ha h.mem_row (Or.inl (hid.trans h.toolCallId_row.symm))

/-- The call's row changed. -/
theorem Records.mapped (h : Records s toolCallId r events others) {f : ToolCallRow → ToolCallRow}
    (hf : ∀ r, (f r).toolCallId = r.toolCallId)
    (hrows : t.toolCalls.rows =
      s.toolCalls.rows.map fun r => if r.toolCallId == toolCallId then f r else r)
    (hevents : t.toolCallEvents = s.toolCallEvents) :
    Records t toolCallId (f r) events others := by
  refine ⟨?_, by rw [hevents]; exact h.events, ?_⟩
  · have hkeeps : ∀ a : ToolCallRow,
        ((if a.toolCallId == toolCallId then f a else a).toolCallId == toolCallId) =
          (a.toolCallId == toolCallId) := by
      intro a
      split
      · rw [hf]
      · rfl
    rw [findToolCall?, find?_map_rows hrows hkeeps]
    show (findToolCall? s.toolCalls toolCallId).map _ = _
    rw [h.row, Option.map_some, if_pos (by simp [h.toolCallId_row])]
  · rw [hrows, ← h.others, List.filter_map]
    have hcomp : ((fun a : ToolCallRow => a.toolCallId != toolCallId) ∘
        fun a => if a.toolCallId == toolCallId then f a else a) =
          fun a => a.toolCallId != toolCallId := by
      funext a
      show ((if a.toolCallId == toolCallId then f a else a).toolCallId != toolCallId) = _
      split
      · rw [hf]
      · rfl
    rw [hcomp]
    refine (List.map_congr_left fun a ha => ?_).trans (List.map_id _)
    have hother : a.toolCallId ≠ toolCallId := by simpa using (List.mem_filter.mp ha).2
    exact if_neg (by simpa using hother)

theorem Records.updated (h : Records s toolCallId r events others) {f : ToolCallRow → ToolCallRow}
    {hkeys : KeepsKeys f} (hf : ∀ r, (f r).toolCallId = r.toolCallId) :
    Records (updateToolCall s toolCallId f hkeys) toolCallId (f r) events others :=
  h.mapped hf rfl rfl

/-- Another call's row changed. -/
theorem Records.mapped_other (h : Records s toolCallId r events others) {id : ToolCallId}
    (hid : id ≠ toolCallId) {f : ToolCallRow → ToolCallRow}
    (hf : ∀ r, (f r).toolCallId = r.toolCallId)
    (hrows : t.toolCalls.rows =
      s.toolCalls.rows.map fun r => if r.toolCallId == id then f r else r) :
    findToolCall? t.toolCalls toolCallId = some r := by
  have hkeeps : ∀ a : ToolCallRow,
      ((if a.toolCallId == id then f a else a).toolCallId == toolCallId) =
        (a.toolCallId == toolCallId) := by
    intro a
    split
    · rw [hf]
    · rfl
  rw [findToolCall?, find?_map_rows hrows hkeeps]
  show (findToolCall? s.toolCalls toolCallId).map _ = _
  rw [h.row, Option.map_some, if_neg (by simpa [h.toolCallId_row] using Ne.symm hid)]

theorem Records.appended (h : Records s toolCallId r events others) (state : ToolCallState)
    (payload : JsonValue) (now : DateTime) :
    Records { s with
        toolCallEvents := appendToolCallEvent s.toolCallEvents toolCallId state payload now }
      toolCallId r (addEvent toolCallId now events state payload) others := by
  refine ⟨h.row, ?_, h.others⟩
  have hsequence : nextEventSequence s.toolCallEvents toolCallId =
      (events.map (·.sequence)).foldl max 0 + 1 := by
    rw [nextEventSequence, h.events]
  rw [select, appendToolCallEvent, rows_push, List.filter_append, addEvent, ← hsequence]
  show s.toolCallEvents.select (·.toolCallId == toolCallId) ++ _ = _
  rw [h.events, List.filter_cons_of_pos (by simp), List.filter_nil]

/-- Two calls' records are the same when their rows and their events are. -/
theorem callRecords_eq (h : Records s toolCallId r events others) :
    callRecords s toolCallId = (some r, events) := by
  rw [callRecords, h.row, h.events]

end Records

/-! ## 5. What the writes of a call do to its records -/

section Writes

variable (digest : Digest) (call : NewCall) (now : DateTime)

/-- What a write makes of the call's row. -/
def CallWrite.onRow (r : ToolCallRow) : CallWrite → ToolCallRow
  | setState state => { r with state }
  | markStarted => { r with state := .started, startedAt := some now }
  | bindCommand binding => r.bindCommand binding
  | finishRow ending =>
    r.finish digest ending.state ending.result ending.error ending.resultRefs now
  | _ => r

/-- What a write makes of the call's events. -/
def CallWrite.onEvents (toolCallId : ToolCallId) (events : List ToolCallEventRow) :
    CallWrite → List ToolCallEventRow
  | event state payload => addEvent toolCallId now events state payload
  | startedEvent =>
    addEvent toolCallId now events .started (.ofFields [("started_at", .int now)])
  | finishEvent ending =>
    addEvent toolCallId now events ending.state (finishedPayload digest ending now)
  | _ => events

/-- A write that is not the insert, and does not bind the call to a command another call has. -/
def CallWrite.Plain (others : List ToolCallRow) : CallWrite → Prop
  | insert => False
  | bindCommand binding => ∀ a ∈ others, a.commandId ≠ some binding.commandId
  | _ => True

variable {digest call now} {s : Tooling} {r : ToolCallRow} {events : List ToolCallEventRow}
  {others : List ToolCallRow}

/-- **One write, on the records of its call.** -/
theorem Records.write (h : Records s call.toolCallId r events others) {write : CallWrite}
    (hplain : write.Plain others) : ∃ t, write.run digest call now s = .ok t ∧
      Records t call.toolCallId (write.onRow digest now r)
        (write.onEvents digest now call.toolCallId events) others := by
  cases write with
  | insert => exact absurd hplain id
  | event state payload => exact ⟨_, rfl, h.appended state payload now⟩
  | setState state =>
    exact ⟨_, rfl, h.updated fun _ => rfl⟩
  | snapshot =>
    refine ⟨_, rfl, ?_⟩
    show Records (persistSessionToolSnapshot s call.request.scope call.definition now) _ _ _ _
    rw [persistSessionToolSnapshot]
    split
    · exact h
    · exact ⟨h.row, h.events, h.others⟩
  | markStarted =>
    exact ⟨_, rfl, h.updated fun _ => rfl⟩
  | startedEvent => exact ⟨_, rfl, h.appended _ _ now⟩
  | bindCommand binding =>
    refine ⟨_, rfl, ?_⟩
    have hone : ∀ a ∈ s.toolCalls.rows, (a.toolCallId == call.toolCallId) = true ↔ a = r := by
      intro a ha
      rw [beq_iff_eq]
      constructor
      · exact h.eq_row ha
      · rintro rfl
        exact h.toolCallId_row
    have hsome : (s.toolCalls.update? (·.toolCallId == call.toolCallId)
        (.bindCommand binding)).isSome := by
      refine (isSome_update?_iff (fun _ => Or.inl rfl) h.mem_row hone).mpr ?_
      intro a ha hne hclash
      have hother : a.toolCallId ≠ call.toolCallId := fun hid => hne (h.eq_row ha hid)
      rcases hclash with hid | ⟨hcommand, -⟩
      · exact hother (hid.trans h.toolCallId_row)
      · refine hplain a ?_ hcommand
        rw [← h.others]
        exact List.mem_filter.mpr ⟨ha, by simpa using hother⟩
    obtain ⟨toolCalls, hcalls⟩ := Option.isSome_iff_exists.mp hsome
    refine h.mapped (f := .bindCommand binding) (fun _ => rfl) ?_ rfl
    show ((s.toolCalls.update? _ _).getD s.toolCalls).rows = _
    rw [hcalls]
    exact update?_eq_some hcalls
  | finishRow ending =>
    exact ⟨_, rfl, h.updated fun _ => rfl⟩
  | finishEvent ending => exact ⟨_, rfl, h.appended _ _ now⟩

/-- **A list of writes, on the records of their call.** -/
theorem Records.writes (h : Records s call.toolCallId r events others) {writes : List CallWrite}
    (hplain : ∀ write ∈ writes, write.Plain others) :
    ∃ t, runWrites digest call now writes s = (t, .ok ()) ∧
      Records t call.toolCallId (writes.foldl (CallWrite.onRow digest now) r)
        (writes.foldl (CallWrite.onEvents digest now call.toolCallId) events) others := by
  induction writes generalizing s r events with
  | nil => exact ⟨s, rfl, h⟩
  | cons write rest ih =>
    obtain ⟨hwrite, hrest⟩ := List.forall_mem_cons.mp hplain
    obtain ⟨u, hu, hrecords⟩ := @Records.write digest _ now _ _ _ _ h _ hwrite
    obtain ⟨t, ht, hfinal⟩ := ih hrecords hrest
    refine ⟨t, ?_, hfinal⟩
    rw [runWrites, hu]
    exact ht

end Writes

/-! ## 6. The records a run leaves -/

/-- How a call that took its route is finished, if it is. -/
def CallFrame.endOf (c : CallFrame) : CallFinish → Option ToolCallEnd
  | .waited outcome => some (endOfRoute c.definition.redaction outcome)
  | .late event =>
    if event.contractVersion = toolingContractVersionV1 then
      ((terminalToolingEvent event.payload).filter (·.1 = c.toolCallId)).map (·.2)
    else none

/-- The writes of a run once the call is put down. -/
def CallFrame.way (c : CallFrame) (d : CallData) : List CallWrite :=
  match policyDecision c.definition c.scope with
  | .deny => finishWrites (endWithError .denied deniedError)
  | .requireApproval => approvalWrites
  | .allow =>
    if !c.available then authorizedWrites ++ finishWrites (endWithError .failed unavailableError)
    else
      match validateArguments c.definition.inputSchema d.arguments with
      | .error message => authorizedWrites ++
          finishWrites (endWithError .failed (toolError .invalidArguments message false))
      | .ok () => authorizedWrites ++ startWrites c.binding ++
          (c.endOf d.finish).toList.flatMap finishWrites

/-- The event of a call that is put down. -/
def CallFrame.requestedEvent (c : CallFrame) : CallWrite :=
  .event .requested (.ofFields [("correlation_id", .string c.correlationId),
    ("tool_id", .string c.definition.toolId), ("schema_hash", .string c.definition.schemaHash)])

section Ways

variable {digest : Digest} {c : CallFrame} {s : Tooling} {d : CallData}

theorem takesRoute_iff {arguments : JsonValue} : c.takesRoute arguments = true ↔
    policyDecision c.definition c.scope = .allow ∧ c.available = true ∧
      validateArguments c.definition.inputSchema arguments = .ok () := by
  rw [CallFrame.takesRoute, Bool.and_eq_true, Bool.and_eq_true, beq_iff_eq, and_assoc]
  refine and_congr_right fun _ => and_congr_right fun _ => ?_
  cases validateArguments c.definition.inputSchema arguments with
  | error message => simp [Except.toOption]
  | ok x => simp [Except.toOption]

theorem way_of_takesRoute (h : c.takesRoute d.arguments = true) :
    c.way d = authorizedWrites ++ startWrites c.binding ++
      (c.endOf d.finish).toList.flatMap finishWrites := by
  obtain ⟨hallow, havailable, hvalid⟩ := takesRoute_iff.mp h
  rw [CallFrame.way, hallow, havailable, hvalid]
  rfl

/-- A call that does not get as far as its route ends the same, whatever the route answers. -/
theorem way_of_not_takesRoute (h : c.takesRoute d.arguments = false) (finish : CallFinish) :
    c.way d = c.way ⟨d.arguments, finish⟩ := by
  have hnot : ¬ (policyDecision c.definition c.scope = .allow ∧ c.available = true ∧
      validateArguments c.definition.inputSchema d.arguments = .ok ()) := fun hroute => by
    rw [takesRoute_iff.mpr hroute] at h
    cases h
  rw [CallFrame.way, CallFrame.way]
  cases hpolicy : policyDecision c.definition c.scope with
  | deny => rfl
  | requireApproval => rfl
  | allow =>
    cases havailable : c.available with
    | false => rfl
    | true =>
      cases hvalid : validateArguments c.definition.inputSchema d.arguments with
      | error message => rfl
      | ok x => exact absurd ⟨hpolicy, havailable, hvalid⟩ hnot

/-- **The ways of `execute_tool` are these.** -/
theorem callWay_eq (arguments : JsonValue) (outcome : RouteOutcome) :
    (callWay (c.call arguments) ⟨c.available, c.binding, outcome⟩).1 =
      c.way ⟨arguments, .waited outcome⟩ := by
  cases hpolicy : policyDecision c.definition c.scope with
  | deny => simp only [callWay, CallFrame.way, CallFrame.call, hpolicy, List.nil_append]
  | requireApproval => simp only [callWay, CallFrame.way, CallFrame.call, hpolicy]
  | allow =>
    cases havailable : c.available with
    | false => simp [callWay, CallFrame.way, CallFrame.call, hpolicy, havailable]
    | true =>
      cases hvalid : validateArguments c.definition.inputSchema arguments with
      | error message =>
        simp [callWay, CallFrame.way, CallFrame.call, hpolicy, havailable, hvalid]
      | ok x =>
        simp [callWay, CallFrame.way, CallFrame.call, CallFrame.endOf, hpolicy, havailable, hvalid]

/-- The writes of a way are plain when the ids of the call are new. -/
theorem plain_way (hfresh : c.Fresh s) :
    ∀ write ∈ c.requestedEvent :: c.way d, write.Plain s.toolCalls.rows := by
  have hfinish : ∀ ending, ∀ write ∈ finishWrites ending, write.Plain s.toolCalls.rows := by
    intro ending write hwrite
    rw [finishWrites] at hwrite
    rcases List.mem_pair.mp hwrite with rfl | rfl <;> trivial
  have hauthorized : ∀ write ∈ authorizedWrites, write.Plain s.toolCalls.rows := by
    intro write hwrite
    obtain rfl := List.mem_singleton.mp hwrite
    trivial
  have hstart : ∀ write ∈ startWrites c.binding, write.Plain s.toolCalls.rows := by
    intro write hwrite
    rw [startWrites, List.mem_append] at hwrite
    rcases hwrite with hwrite | hwrite
    · rcases List.mem_cons.mp hwrite with rfl | hwrite
      · trivial
      · rcases List.mem_pair.mp hwrite with rfl | rfl <;> trivial
    · obtain ⟨binding, hbinding, rfl⟩ := List.mem_map.mp hwrite
      exact hfresh.command binding (Option.mem_toList.mp hbinding)
  refine List.forall_mem_cons.mpr ⟨trivial, fun write hwrite => ?_⟩
  rw [CallFrame.way] at hwrite
  split at hwrite
  · exact hfinish _ write hwrite
  · rw [approvalWrites] at hwrite
    rcases List.mem_pair.mp hwrite with rfl | rfl <;> trivial
  · split at hwrite
    · rcases List.mem_append.mp hwrite with hwrite | hwrite
      · exact hauthorized write hwrite
      · exact hfinish _ write hwrite
    · split at hwrite
      · rcases List.mem_append.mp hwrite with hwrite | hwrite
        · exact hauthorized write hwrite
        · exact hfinish _ write hwrite
      · rcases List.mem_append.mp hwrite with hwrite | hwrite
        · rcases List.mem_append.mp hwrite with hwrite | hwrite
          · exact hauthorized write hwrite
          · exact hstart write hwrite
        · obtain ⟨ending, -, hwrite⟩ := List.mem_flatMap.mp hwrite
          exact hfinish ending write hwrite

/-- **A call with a new id is put down.** -/
theorem Records.put (hfresh : c.Fresh s) (arguments : JsonValue) :
    ∃ t, CallWrite.insert.run digest (c.call arguments) c.now s = .ok t ∧
      Records t c.toolCallId (requestedRow digest (c.call arguments) c.now) []
        s.toolCalls.rows := by
  have hfree : ¬ s.toolCalls.Clashes (requestedRow digest (c.call arguments) c.now) := by
    intro ⟨a, ha, hclash⟩
    rcases hclash with hid | ⟨hcommand, -, hsome⟩
    · exact hfresh.call a ha hid
    · exact hsome hcommand
  obtain ⟨toolCalls, hinsert⟩ := Option.isSome_iff_exists.mp (isSome_insert?.mpr hfree)
  refine ⟨{ s with toolCalls }, by rw [CallWrite.run, hinsert], ?_, ?_, ?_⟩
  · have hnone : s.toolCalls.find? (·.toolCallId == c.toolCallId) = none :=
      List.find?_eq_none.mpr fun a ha => by simpa using hfresh.call a ha
    rw [findToolCall?, find?_insert? hinsert, hnone, Option.none_or,
      if_pos (by simp [requestedRow, CallFrame.call])]
  · exact List.filter_eq_nil_iff.mpr fun a ha => by simpa using hfresh.event a ha
  · rw [(insert?_eq_some.mp hinsert).2, List.filter_append, List.filter_cons_of_neg (by
      simp [requestedRow, CallFrame.call]), List.filter_nil, List.append_nil]
    exact List.filter_eq_self.mpr fun a ha => by simpa using hfresh.call a ha

/-- **The event of a Node that ends a call finishes it, and no other event touches its records.** -/
theorem Records.projected {t : Tooling} {r : ToolCallRow} {events : List ToolCallEventRow}
    {others : List ToolCallRow} (h : Records t c.toolCallId r events others)
    (event : ToolingEventV1) (arguments : JsonValue) :
    callRecords (match projectTerminalToolingEvent digest t event c.now with
      | .ok u => u
      | .error _ => t) c.toolCallId =
    callRecords (runWrites digest (c.call arguments) c.now
      ((c.endOf (.late event)).toList.flatMap finishWrites) t).1 c.toolCallId := by
  by_cases hversion : event.contractVersion = toolingContractVersionV1
  · rw [projectTerminalToolingEvent, if_neg (not_not.mpr hversion), CallFrame.endOf,
      if_pos hversion]
    cases hterminal : terminalToolingEvent event.payload with
    | none => rfl
    | some pair =>
      obtain ⟨id, ending⟩ := pair
      dsimp only
      rw [finishToolCall, terminal_of_terminalToolingEvent hterminal]
      by_cases hid : id = c.toolCallId
      · rw [Option.filter_some_pos (by simpa using hid), hid]
        rfl
      · rw [Option.filter_some_neg (by simpa using hid)]
        show callRecords (finishToolCallEvent digest (finishToolCallRow digest t id ending c.now) id
          ending c.now) c.toolCallId = callRecords t c.toolCallId
        have hrow : findToolCall? (finishToolCallRow digest t id ending c.now).toolCalls
            c.toolCallId = some r :=
          h.mapped_other hid
            (f := .finish digest ending.state ending.result ending.error ending.resultRefs c.now)
            (fun _ => rfl) rfl
        have hevents : (appendToolCallEvent t.toolCallEvents id ending.state
            (finishedPayload digest ending c.now) c.now).select (·.toolCallId == c.toolCallId) =
              events := by
          rw [select, appendToolCallEvent, rows_push, List.filter_append, List.filter_cons_of_neg
            (by simpa using hid), List.filter_nil, List.append_nil]
          exact h.events
        rw [callRecords_eq h]
        exact Prod.ext hrow hevents
  · rw [projectTerminalToolingEvent, if_pos hversion, CallFrame.endOf, if_neg hversion]
    rfl

/-- The row and the events after the way of a run. -/
def CallFrame.recordsAfter (c : CallFrame) (digest : Digest) (d : CallData) :
    ToolCallRow × List ToolCallEventRow :=
  let writes := c.requestedEvent :: c.way d
  (writes.foldl (CallWrite.onRow digest c.now)
      (requestedRow digest (c.call d.arguments) c.now),
    writes.foldl (CallWrite.onEvents digest c.now c.toolCallId) [])

/-- **What a run leaves of its call.** -/
theorem callRecords_run (hfound : loadToolDefinition s.toolDefinitions c.definition.toolId =
    some c.definition) (hfresh : c.Fresh s) : callRecords (c.run digest s d) c.toolCallId =
      (some (c.recordsAfter digest d).1, (c.recordsAfter digest d).2) := by
  obtain ⟨u, hput, hrecords⟩ := (@Records.put digest) hfresh d.arguments
  -- the writes after the insert, all of them and up to the route
  have hwrites : ∀ writes, (∀ write ∈ writes, write.Plain s.toolCalls.rows) →
      ∃ t, runWrites digest (c.call d.arguments) c.now (.insert :: writes) s = (t, .ok ()) ∧
        Records t c.toolCallId (writes.foldl (CallWrite.onRow digest c.now)
            (requestedRow digest (c.call d.arguments) c.now))
          (writes.foldl (CallWrite.onEvents digest c.now c.toolCallId) []) s.toolCalls.rows := by
    intro writes hplain
    obtain ⟨t, ht, hfinal⟩ := (@Records.writes digest (c.call d.arguments) c.now) hrecords hplain
    refine ⟨t, ?_, hfinal⟩
    rw [runWrites, hput]
    exact ht
  have hexecute : ∀ outcome, c.way ⟨d.arguments, .waited outcome⟩ = c.way d →
      callRecords (executeTool digest s c.toolCallId c.correlationId
        ⟨c.scope, c.definition.toolId, d.arguments⟩ ⟨c.available, c.binding, outcome⟩ c.now).1
        c.toolCallId = (some (c.recordsAfter digest d).1, (c.recordsAfter digest d).2) := by
    intro outcome hway
    obtain ⟨t, ht, hfinal⟩ := hwrites (c.requestedEvent :: c.way d) (plain_way hfresh)
    have hsame : (executeTool digest s c.toolCallId c.correlationId
        ⟨c.scope, c.definition.toolId, d.arguments⟩ ⟨c.available, c.binding, outcome⟩ c.now).1 =
          (runWrites digest (c.call d.arguments) c.now (.insert :: c.requestedEvent ::
            (callWay (c.call d.arguments) ⟨c.available, c.binding, outcome⟩).1) s).1 := by
      rw [executeTool, hfound]
      rfl
    rw [hsame, callWay_eq, hway, ht]
    exact callRecords_eq hfinal
  cases hfinish : d.finish with
  | waited outcome =>
    rw [CallFrame.run, hfinish]
    exact hexecute outcome (by rw [← hfinish])
  | late event =>
    rw [CallFrame.run, hfinish]
    dsimp only
    cases hroute : c.takesRoute d.arguments with
    | false => exact hexecute _ (way_of_not_takesRoute hroute _).symm
    | true =>
      have hway := way_of_takesRoute hroute
      rw [hfinish] at hway
      have hplain := plain_way (d := d) hfresh
      rw [hway] at hplain
      obtain ⟨t, ht, hstarted⟩ := hwrites (c.requestedEvent ::
        (authorizedWrites ++ startWrites c.binding)) fun write hwrite => hplain write (by
          rcases List.mem_cons.mp hwrite with rfl | hwrite
          · exact List.mem_cons_self
          · exact List.mem_cons_of_mem _ (List.mem_append_left _ hwrite))
      have ht' : runWrites digest (c.call d.arguments) c.now (openingWrites (c.call d.arguments) ++
          (authorizedWrites ++ startWrites c.binding)) s = (t, .ok ()) := ht
      rw [if_pos rfl, ht']
      refine (hstarted.projected event d.arguments).trans ?_
      obtain ⟨u, hu, hfinal⟩ := @Records.writes digest (c.call d.arguments) c.now _ _ _ _ hstarted
        ((c.endOf (.late event)).toList.flatMap finishWrites)
        fun write hwrite => hplain write (List.mem_cons_of_mem _ (List.mem_append_right _ hwrite))
      rw [hu, CallFrame.recordsAfter, hway]
      dsimp only
      rw [← List.cons_append, List.foldl_append, List.foldl_append]
      exact callRecords_eq hfinal

end Ways

/-! ## 7. What is hidden, and what is not -/

theorem redactJson_eq {hideAll : Bool} {pointers : List String} {value value' : JsonValue}
    (h : DifferHidden hideAll pointers value value') :
    redactJson value pointers hideAll = redactJson value' pointers hideAll := by
  rw [redactJson, redactJson]
  rcases h with rfl | h
  · rfl
  · rw [h.setAll_eq]

/-- Redacted results differ in the size that is kept of them, and in nothing else. -/
theorem redactResult_eq {redaction : ToolRedactionPolicy} {r r' : ToolResultEnvelope}
    (h : ResultsDifferHidden redaction r r') : redactResult redaction r =
      { redactResult redaction r' with originalSizeBytes := r.originalSizeBytes } := by
  simp only [redactResult, redactJson_eq h.content, h.truncated, h.artifactRefs]

/-- **Results that are encoded as one text have one size.** -/
theorem size_of_resultText {r : ToolResultEnvelope} {m n : Option Nat}
    (h : resultText { r with originalSizeBytes := m } =
      resultText { r with originalSizeBytes := n }) : m = n := by
  have hchars := String.ofList_injective h
  -- around the size both texts are the same
  have hsize : (jsonOption (fun n : Nat => .int n) m).chars =
      (jsonOption (fun n : Nat => .int n) n).chars := by
    simpa [ToolResultEnvelope.value, Uprava.Lib.JsonValue.chars, JsonMap.chars] using hchars
  cases m with
  | none =>
    cases n with
    | none => rfl
    | some n => exact absurd hsize.symm (chars_natCast_ne_null n)
  | some m =>
    cases n with
    | none => exact absurd hsize (chars_natCast_ne_null m)
    | some n => exact congrArg some (natCast_of_chars hsize)

theorem hashText_inj {digest : Digest} {x y : String} :
    hashText digest x = hashText digest y ↔ digest x = digest y := by
  rw [hashText, hashText, String.append_right_inj]

/-- **A summary is short exactly when its text is short or cut short.** -/
theorem bounded_short_iff (text : String) (n : Nat) :
    (bounded text n).utf8ByteSize ≤ toolSummaryMaxBytes ↔ CutShort n text := by
  have hdots : ("...").utf8ByteSize = 3 := by decide
  have hcut := bytes_prefixWithin (n - 3) text.toList
  rw [bounded, CutShort]
  split
  · rename_i hfits
    exact ⟨Or.inl, fun h => h.resolve_right fun hlong => Nat.not_lt.mpr hfits hlong.1⟩
  · rename_i hlong
    rw [String.utf8ByteSize_append, utf8ByteSize_ofList, hdots]
    constructor
    · exact fun h => Or.inr ⟨Nat.not_le.mp hlong, h⟩
    · intro h
      rcases h with hshort | ⟨-, h⟩
      · have hmax : toolSummaryMaxBytes = 2048 := rfl
        omega
      · exact h

/-- What is stored of the end of a call. -/
def ToolCallEnd.stored (ending : ToolCallEnd) :
    ToolCallState × Option String × Option String × Option ToolExecutionError × List JsonValue :=
  (ending.state, ending.result.map resultText, ending.result.bind (·.summary), ending.error,
    ending.resultRefs)

/-- **The end of a call writes what is stored of it, and nothing else.** -/
theorem finish_of_stored (digest : Digest) {ending ending' : ToolCallEnd} (now : DateTime)
    (h : ending.stored = ending'.stored) : ending.state = ending'.state ∧
      finishedPayload digest ending now = finishedPayload digest ending' now ∧
      ∀ r : ToolCallRow,
        r.finish digest ending.state ending.result ending.error ending.resultRefs now =
          r.finish digest ending'.state ending'.result ending'.error ending'.resultRefs now := by
  obtain ⟨hstate, h⟩ := Prod.mk.inj h
  obtain ⟨htext, h⟩ := Prod.mk.inj h
  obtain ⟨hsummary, h⟩ := Prod.mk.inj h
  obtain ⟨herror, hrefs⟩ := Prod.mk.inj h
  have hhash : ∀ {α : Type} (f : String → α),
      ending.result.map (fun x => f (resultText x)) =
        ending'.result.map fun x => f (resultText x) := by
    intro α f
    have hmap := congrArg (Option.map f) htext
    rwa [Option.map_map, Option.map_map] at hmap
  have hjson : ∀ f : String → JsonValue,
      jsonOption (fun x => f (resultText x)) ending.result =
        jsonOption (fun x => f (resultText x)) ending'.result := by
    intro f
    have hmap := hhash f
    cases hr : ending.result <;> cases hr' : ending'.result <;>
      simp_all [jsonOption]
  refine ⟨hstate, ?_, fun r => ?_⟩
  · rw [finishedPayload, finishedPayload, herror, hjson fun text => .string (hashText digest text),
      hjson fun text => .int text.utf8ByteSize]
  · rw [ToolCallRow.finish, ToolCallRow.finish, hstate, herror, hrefs, hsummary,
      hhash (hashText digest), hhash String.utf8ByteSize]

/-! ## 8. Ends that store the same -/

section Ends

variable {redaction : ToolRedactionPolicy} {c : CallFrame} {outcome outcome' : RouteOutcome}
  {event event' : ToolingEventV1}

theorem shownSize_of_ok {r : ToolResultEnvelope} {refs : List JsonValue}
    (h : outcome.result = .ok (r, refs)) : outcome.shownSize = some r.originalSizeBytes := by
  cases outcome with
  | content value valueRefs =>
    rw [RouteOutcome.result, normalizeToolResult] at h
    rw [RouteOutcome.shownSize]
    split at h
    · cases h
    · rename_i hsize
      rw [if_neg hsize]
      obtain ⟨rfl, -⟩ := Prod.mk.inj (Except.ok.inj h)
      rfl
  | external envelope =>
    obtain ⟨rfl, -⟩ := Prod.mk.inj (Except.ok.inj h)
    rfl
  | failed error => cases h

theorem shownSize_of_error {error : ToolExecutionError} (h : outcome.result = .error error) :
    outcome.shownSize = none := by
  cases outcome with
  | content value valueRefs =>
    rw [RouteOutcome.result, normalizeToolResult] at h
    rw [RouteOutcome.shownSize]
    split at h
    · rename_i hsize
      rw [if_pos hsize]
    · cases h
  | external envelope => cases h
  | failed error => rfl

/-- Results of routes that differ in what is hidden only do so as results. -/
theorem results_differHidden {r r' : ToolResultEnvelope} {refs refs' : List JsonValue}
    (h : OutcomesDifferHidden redaction outcome outcome') (hr : outcome.result = .ok (r, refs))
    (hr' : outcome'.result = .ok (r', refs')) :
    ResultsDifferHidden redaction r r' ∧ refs = refs' := by
  unfold OutcomesDifferHidden at h
  split at h
  · obtain ⟨hcontent, rfl⟩ := h
    rw [RouteOutcome.result, normalizeToolResult] at hr hr'
    split at hr
    · cases hr
    · split at hr'
      · cases hr'
      · obtain ⟨rfl, rfl⟩ := Prod.mk.inj (Except.ok.inj hr)
        obtain ⟨rfl, rfl⟩ := Prod.mk.inj (Except.ok.inj hr')
        exact ⟨⟨hcontent, rfl, rfl⟩, rfl⟩
  · obtain ⟨rfl, rfl⟩ := Prod.mk.inj (Except.ok.inj hr)
    obtain ⟨rfl, rfl⟩ := Prod.mk.inj (Except.ok.inj hr')
    exact ⟨h, rfl⟩
  · cases hr
  · exact h.elim

/-- Errors of routes that differ in what is hidden only are one error. -/
theorem errors_eq {e e' : ToolExecutionError} (h : OutcomesDifferHidden redaction outcome outcome')
    (he : outcome.result = .error e) (he' : outcome'.result = .error e') : e = e' := by
  unfold OutcomesDifferHidden at h
  split at h
  · rw [RouteOutcome.result, normalizeToolResult] at he he'
    split at he
    · split at he'
      · exact (Except.error.inj he).symm.trans (Except.error.inj he')
      · cases he'
    · cases he
  · cases he
  · subst h
    exact (Except.error.inj he).symm.trans (Except.error.inj he')
  · exact h.elim

/-- **The ends of routes store the same exactly when the same size shows.** -/
theorem endOfRoute_stored_iff (h : OutcomesDifferHidden redaction outcome outcome') :
    (endOfRoute redaction outcome).stored = (endOfRoute redaction outcome').stored ↔
      outcome.shownSize = outcome'.shownSize := by
  rw [endOfRoute, endOfRoute]
  cases hr : outcome.result with
  | ok pair =>
    obtain ⟨r, refs⟩ := pair
    cases hr' : outcome'.result with
    | ok pair' =>
      obtain ⟨r', refs'⟩ := pair'
      obtain ⟨hdiffer, hrefs⟩ := results_differHidden h hr hr'
      rw [shownSize_of_ok hr, shownSize_of_ok hr', Option.some_inj]
      dsimp only
      rw [redactResult_eq hdiffer, hrefs]
      constructor
      · intro hstored
        obtain ⟨-, hstored⟩ := Prod.mk.inj hstored
        have htext := Option.some.inj (Prod.mk.inj hstored).1
        exact size_of_resultText htext
      · intro hsize
        rw [hsize]
        rfl
    | error e' =>
      rw [shownSize_of_ok hr, shownSize_of_error hr']
      refine iff_of_false (fun hstored => ?_) (fun hsize => by cases hsize)
      have hstate : ToolCallState.completed = .failed := (Prod.mk.inj hstored).1
      cases hstate
  | error e =>
    cases hr' : outcome'.result with
    | ok pair' =>
      obtain ⟨r', refs'⟩ := pair'
      rw [shownSize_of_error hr, shownSize_of_ok hr']
      refine iff_of_false (fun hstored => ?_) (fun hsize => by cases hsize)
      have hstate : ToolCallState.failed = .completed := (Prod.mk.inj hstored).1
      cases hstate
    | error e' =>
      rw [shownSize_of_error hr, shownSize_of_error hr', errors_eq h hr hr']
      exact iff_of_true rfl rfl

/-- An event that ends the call with a result. -/
theorem endOf_of_endingResult {r : ToolResultEnvelope}
    (h : r ∈ endingResult? c.toolCallId event) :
    c.endOf (.late event) = some ⟨.completed, some r, none, r.artifactRefs⟩ := by
  rw [endingResult?, Option.mem_def] at h
  split at h
  · rename_i id r' hpayload
    split at h
    · rename_i hown
      obtain rfl := Option.some.inj h
      rw [CallFrame.endOf, if_pos hown.1, hpayload, terminalToolingEvent,
        Option.filter_some_pos (by simpa using hown.2)]
      rfl
    · cases h
  · cases h

theorem result_of_no_endingResult {ending : ToolCallEnd}
    (h : endingResult? c.toolCallId event = none) (hend : c.endOf (.late event) = some ending) :
    ending.result = none := by
  rw [CallFrame.endOf] at hend
  split at hend
  · rename_i hversion
    rw [Option.map_eq_some_iff] at hend
    obtain ⟨⟨id, e⟩, hfilter, rfl⟩ := hend
    obtain ⟨hterminal, hown⟩ := Option.filter_eq_some_iff.mp hfilter
    cases hpayload : event.payload with
    | toolCallCompleted id' r =>
      rw [hpayload, terminalToolingEvent] at hterminal
      obtain ⟨rfl, -⟩ := Prod.mk.inj (Option.some.inj hterminal)
      have hid : id' = c.toolCallId := by simpa using hown
      rw [endingResult?, hpayload] at h
      dsimp only at h
      rw [if_pos ⟨hversion, hid⟩] at h
      cases h
    | toolCallFailed id' error =>
      rw [hpayload, terminalToolingEvent] at hterminal
      obtain ⟨-, rfl⟩ := Prod.mk.inj (Option.some.inj hterminal)
      rfl
    | toolCallDenied id' error =>
      rw [hpayload, terminalToolingEvent] at hterminal
      obtain ⟨-, rfl⟩ := Prod.mk.inj (Option.some.inj hterminal)
      rfl
    | other =>
      rw [hpayload, terminalToolingEvent] at hterminal
      cases hterminal
  · cases hend

/-- Without a result the two events end the call in the same way. -/
theorem endOf_of_no_endingResult (hversion : event.contractVersion = event'.contractVersion)
    (hpayload : PayloadsDifferHidden redaction event.payload event'.payload)
    (h : endingResult? c.toolCallId event = none) :
    c.endOf (.late event) = c.endOf (.late event') := by
  rw [CallFrame.endOf, CallFrame.endOf, ← hversion]
  unfold PayloadsDifferHidden at hpayload
  split at hpayload
  · rename_i id r id' r' hp hp'
    obtain ⟨rfl, -⟩ := hpayload
    split
    · rename_i hv
      have hother : ¬ id = c.toolCallId := fun hid => by
        rw [endingResult?, hp] at h
        dsimp only at h
        rw [if_pos ⟨hv, hid⟩] at h
        cases h
      rw [hp, hp', terminalToolingEvent, terminalToolingEvent,
        Option.filter_some_neg (by simpa using hother),
        Option.filter_some_neg (by simpa using hother)]
    · rfl
  · rw [hpayload]

/-- Both events end the call with a result, or neither does. -/
theorem endingResult_differ (hversion : event.contractVersion = event'.contractVersion)
    (hpayload : PayloadsDifferHidden redaction event.payload event'.payload) :
    (endingResult? c.toolCallId event).isSome = (endingResult? c.toolCallId event').isSome ∧
      ∀ r ∈ endingResult? c.toolCallId event, ∀ r' ∈ endingResult? c.toolCallId event',
        ResultsDifferHidden redaction r r' ∨ r = r' := by
  rw [endingResult?, endingResult?, ← hversion]
  unfold PayloadsDifferHidden at hpayload
  split at hpayload
  · rename_i id r id' r' hp hp'
    obtain ⟨rfl, hresults⟩ := hpayload
    rw [hp, hp']
    dsimp only
    split
    · refine ⟨rfl, fun x hx y hy => ?_⟩
      obtain rfl := Option.some.inj hx
      obtain rfl := Option.some.inj hy
      exact Or.inl hresults
    · exact ⟨rfl, fun x hx => by cases hx⟩
  · rw [hpayload]
    refine ⟨rfl, fun x hx y hy => Or.inr ?_⟩
    exact Option.mem_unique hx hy

/-- **The ends by events store the same exactly when the same result shows.** -/
theorem endOf_late_stored_iff (h : FinishesDifferHidden redaction (.late event) (.late event')) :
    (c.endOf (.late event)).map (·.stored) = (c.endOf (.late event')).map (·.stored) ↔
      FinishesShowSame c.toolCallId (.late event) (.late event') := by
  obtain ⟨hversion, hpayload⟩ := h
  obtain ⟨hboth, hdiffer⟩ := endingResult_differ (c := c) hversion hpayload
  rw [FinishesShowSame]
  cases hr : endingResult? c.toolCallId event with
  | none =>
    have hr' : endingResult? c.toolCallId event' = none := by simpa [hr] using hboth
    rw [hr', endOf_of_no_endingResult hversion hpayload hr]
    exact iff_of_true rfl rfl
  | some r =>
    obtain ⟨r', hr'⟩ := Option.isSome_iff_exists.mp (hboth.symm.trans (by rw [hr]; rfl))
    have hrefs : r.artifactRefs = r'.artifactRefs := by
      rcases hdiffer r hr r' hr' with hresults | rfl
      · exact hresults.artifactRefs
      · rfl
    rw [endOf_of_endingResult hr, endOf_of_endingResult hr', hr', Option.map_some, Option.map_some,
      Option.map_some, Option.map_some, Option.some_inj, Option.some_inj]
    constructor
    · intro hstored
      obtain ⟨-, hstored⟩ := Prod.mk.inj hstored
      obtain ⟨htext, hstored⟩ := Prod.mk.inj hstored
      exact Prod.ext (Option.some.inj htext) (Prod.mk.inj hstored).1
    · intro hshow
      obtain ⟨htext, hsummary⟩ := Prod.mk.inj hshow
      simp only [ToolCallEnd.stored, Option.map_some, Option.bind_some, htext, hsummary, hrefs]

/-- **The ends of two runs store the same exactly when their results show the same.** -/
theorem endOf_stored_iff {finish finish' : CallFinish}
    (h : FinishesDifferHidden c.definition.redaction finish finish') :
    (c.endOf finish).map (·.stored) = (c.endOf finish').map (·.stored) ↔
      FinishesShowSame c.toolCallId finish finish' := by
  cases finish with
  | waited outcome =>
    cases finish' with
    | waited outcome' =>
      rw [CallFrame.endOf, CallFrame.endOf, Option.map_some, Option.map_some, Option.some_inj]
      exact endOfRoute_stored_iff h
    | late event' => exact h.elim
  | late event =>
    cases finish' with
    | waited outcome' => exact h.elim
    | late event' => exact endOf_late_stored_iff h

end Ends

/-! ## 9. Two runs -/

section TwoRuns

variable {digest : Digest} {c : CallFrame} {s : Tooling} {d d' : CallData}

/-- Requests that are hashed as one text are put down in the same way. -/
theorem requestedRow_eq (hdiffer : RunsDifferHidden c.definition.redaction d d')
    (h : d.arguments.encode = d'.arguments.encode) :
    requestedRow digest (c.call d.arguments) c.now =
      requestedRow digest (c.call d'.arguments) c.now := by
  simp only [requestedRow, CallFrame.call, redactAndSummarize, redactJson_eq hdiffer.arguments, h]

/-- The writes of a call leave the hash of its arguments alone. -/
theorem argumentHash_foldl (writes : List CallWrite) (now : DateTime) (r : ToolCallRow) :
    (writes.foldl (CallWrite.onRow digest now) r).argumentHash = r.argumentHash := by
  induction writes generalizing r with
  | nil => rfl
  | cons write rest ih =>
    rw [List.foldl_cons, ih]
    cases write <;> rfl

/-- The row of a call that took its route. -/
def CallFrame.startedRow (c : CallFrame) (digest : Digest) (arguments : JsonValue) : ToolCallRow :=
  (c.requestedEvent :: (authorizedWrites ++ startWrites c.binding)).foldl
    (CallWrite.onRow digest c.now) (requestedRow digest (c.call arguments) c.now)

theorem startedRow_times (arguments : JsonValue) :
    (c.startedRow digest arguments).startedAt = some c.now ∧
      (c.startedRow digest arguments).completedAt = none := by
  rw [CallFrame.startedRow]
  cases c.binding with
  | none => exact ⟨rfl, rfl⟩
  | some binding => exact ⟨rfl, rfl⟩

/-- A row as an end leaves it, if there is one. -/
def finishedRow (digest : Digest) (now : DateTime) (r : ToolCallRow) :
    Option ToolCallEnd → ToolCallRow
  | some e => r.finish digest e.state e.result e.error e.resultRefs now
  | none => r

theorem recordsAfter_of_takesRoute (h : c.takesRoute d.arguments = true) :
    (c.recordsAfter digest d).1 =
      finishedRow digest c.now (c.startedRow digest d.arguments) (c.endOf d.finish) := by
  rw [CallFrame.recordsAfter, way_of_takesRoute h]
  dsimp only
  rw [← List.cons_append, List.foldl_append]
  show ((c.endOf d.finish).toList.flatMap finishWrites).foldl (CallWrite.onRow digest c.now)
    (c.startedRow digest d.arguments) = _
  cases c.endOf d.finish <;> rfl

theorem recordsAfter_of_error (hallow : policyDecision c.definition c.scope = .allow)
    (havailable : c.available = true) {message : String}
    (h : validateArguments c.definition.inputSchema d.arguments = .error message) :
    (c.recordsAfter digest d).1.startedAt = none ∧ (c.recordsAfter digest d).1.error =
      some (toolError .invalidArguments message false) := by
  have hway : c.way d = authorizedWrites ++
      finishWrites (endWithError .failed (toolError .invalidArguments message false)) := by
    rw [CallFrame.way, hallow, havailable, h]
    rfl
  rw [CallFrame.recordsAfter, hway]
  exact ⟨rfl, rfl⟩

/-- The texts of a run's result are among those that are hashed. -/
theorem mem_hashedTexts {ending : ToolCallEnd} (h : c.endOf d.finish = some ending) {text : String}
    (htext : text ∈ ending.result.map resultText) :
    text ∈ hashedTexts c.definition.redaction d := by
  rw [hashedTexts]
  cases hfinish : d.finish with
  | waited outcome =>
    rw [hfinish, CallFrame.endOf, endOfRoute] at h
    obtain rfl := Option.some.inj h
    cases hresult : outcome.result with
    | ok pair =>
      rw [hresult] at htext
      obtain rfl : resultText (redactResult c.definition.redaction pair.1) = text :=
        Option.some.inj htext
      dsimp only
      rw [hresult]
      exact List.mem_cons_of_mem _ List.mem_cons_self
    | error e =>
      rw [hresult] at htext
      cases htext
  | late event =>
    rw [hfinish, CallFrame.endOf] at h
    split at h
    · rw [Option.map_eq_some_iff] at h
      obtain ⟨⟨id, e⟩, hfilter, rfl⟩ := h
      obtain ⟨hterminal, -⟩ := Option.filter_eq_some_iff.mp hfilter
      dsimp only
      cases hpayload : event.payload with
      | toolCallCompleted id' r =>
        rw [hpayload, terminalToolingEvent] at hterminal
        obtain ⟨-, rfl⟩ := Prod.mk.inj (Option.some.inj hterminal)
        obtain rfl : resultText r = text := Option.some.inj htext
        exact List.mem_cons_of_mem _ List.mem_cons_self
      | toolCallFailed id' error =>
        rw [hpayload, terminalToolingEvent] at hterminal
        obtain ⟨-, rfl⟩ := Prod.mk.inj (Option.some.inj hterminal)
        cases htext
      | toolCallDenied id' error =>
        rw [hpayload, terminalToolingEvent] at hterminal
        obtain ⟨-, rfl⟩ := Prod.mk.inj (Option.some.inj hterminal)
        cases htext
      | other =>
        rw [hpayload, terminalToolingEvent] at hterminal
        cases hterminal
    · cases h

/-- Ends that leave one row store the same, where the digest tells their texts apart. -/
theorem stored_of_finishedRow {e e' : Option ToolCallEnd} {r : ToolCallRow} {now : DateTime}
    (hopen : r.completedAt = none)
    (hdigest : ∀ a ∈ e, ∀ b ∈ e', ∀ x ∈ a.result.map resultText, ∀ y ∈ b.result.map resultText,
      digest x = digest y → x = y)
    (h : finishedRow digest now r e = finishedRow digest now r e') :
    e.map (·.stored) = e'.map (·.stored) := by
  cases e with
  | none =>
    cases e' with
    | none => rfl
    | some b =>
      have htime := congrArg ToolCallRow.completedAt h
      rw [show (finishedRow digest now r none).completedAt = none from hopen] at htime
      cases htime
  | some a =>
    cases e' with
    | none =>
      have htime := congrArg ToolCallRow.completedAt h
      rw [show (finishedRow digest now r none).completedAt = none from hopen] at htime
      cases htime
    | some b =>
      have hstate : a.state = b.state := congrArg ToolCallRow.state h
      have hhash : a.result.map (fun x => hashText digest (resultText x)) =
          b.result.map fun x => hashText digest (resultText x) := congrArg ToolCallRow.resultHash h
      have hsummary : a.result.bind (·.summary) = b.result.bind (·.summary) :=
        congrArg ToolCallRow.redactedResultSummary h
      have herror : a.error = b.error := congrArg ToolCallRow.error h
      have hrefs : a.resultRefs = b.resultRefs := congrArg ToolCallRow.resultRefs h
      have htext : a.result.map resultText = b.result.map resultText := by
        have htold := hdigest a rfl b rfl
        cases hra : a.result with
        | none =>
          cases hrb : b.result with
          | none => rfl
          | some y => rw [hra, hrb] at hhash; cases hhash
        | some x =>
          cases hrb : b.result with
          | none => rw [hra, hrb] at hhash; cases hhash
          | some y =>
            rw [hra, hrb] at hhash htold
            have hsame : digest (resultText x) = digest (resultText y) :=
              hashText_inj.mp (Option.some.inj hhash)
            exact congrArg some (htold _ rfl _ rfl hsame)
      simp only [Option.map_some, ToolCallEnd.stored, hstate, htext, hsummary, herror, hrefs]

/-- Ends that store the same leave the same row and the same events. -/
theorem foldl_onRow_of_stored {e e' : Option ToolCallEnd} {now : DateTime}
    (h : e.map (·.stored) = e'.map (·.stored)) (r : ToolCallRow) :
    (e.toList.flatMap finishWrites).foldl (CallWrite.onRow digest now) r =
      (e'.toList.flatMap finishWrites).foldl (CallWrite.onRow digest now) r := by
  cases e with
  | none =>
    cases e' with
    | none => rfl
    | some b => cases h
  | some a =>
    cases e' with
    | none => cases h
    | some b => exact (finish_of_stored digest now (Option.some.inj h)).2.2 r

theorem foldl_onEvents_of_stored {e e' : Option ToolCallEnd} {now : DateTime}
    {toolCallId : ToolCallId} (h : e.map (·.stored) = e'.map (·.stored))
    (events : List ToolCallEventRow) :
    (e.toList.flatMap finishWrites).foldl (CallWrite.onEvents digest now toolCallId) events =
      (e'.toList.flatMap finishWrites).foldl (CallWrite.onEvents digest now toolCallId) events := by
  cases e with
  | none =>
    cases e' with
    | none => rfl
    | some b => cases h
  | some a =>
    cases e' with
    | none => cases h
    | some b =>
      obtain ⟨hstate, hpayload, -⟩ := finish_of_stored digest now (Option.some.inj h)
      show addEvent toolCallId now events a.state (finishedPayload digest a now) =
        addEvent toolCallId now events b.state (finishedPayload digest b now)
      rw [hstate, hpayload]

/-- **Two runs that differ in what is hidden only leave the same records exactly when they show the
    same.** -/
theorem recordsAfter_iff (hdiffer : RunsDifferHidden c.definition.redaction d d')
    (hdigest : NoCollision digest c.definition.redaction d d') :
    c.recordsAfter digest d = c.recordsAfter digest d' ↔ RunsShowSame c d d' := by
  constructor
  · intro h
    have hrow := congrArg Prod.fst h
    have harguments : d.arguments.encode = d'.arguments.encode := by
      have hhash := congrArg ToolCallRow.argumentHash hrow
      rw [CallFrame.recordsAfter, CallFrame.recordsAfter, argumentHash_foldl,
        argumentHash_foldl] at hhash
      exact hdigest _ List.mem_cons_self _ List.mem_cons_self (hashText_inj.mp hhash)
    have hstarted : c.startedRow digest d.arguments = c.startedRow digest d'.arguments := by
      rw [CallFrame.startedRow, CallFrame.startedRow, requestedRow_eq hdiffer harguments]
    have hroute_of : ∀ {x : CallData}, policyDecision c.definition c.scope = .allow →
        c.available = true → validateArguments c.definition.inputSchema x.arguments = .ok () →
          (c.recordsAfter digest x).1.startedAt = some c.now := by
      intro x hallow havailable hvalid
      rw [recordsAfter_of_takesRoute (takesRoute_iff.mpr ⟨hallow, havailable, hvalid⟩)]
      have htimes := ((@startedRow_times digest c) x.arguments).1
      cases c.endOf x.finish <;> exact htimes
    have hchecked : policyDecision c.definition c.scope = .allow → c.available = true →
        validateArguments c.definition.inputSchema d.arguments =
          validateArguments c.definition.inputSchema d'.arguments := by
      intro hallow havailable
      cases hv : validateArguments c.definition.inputSchema d.arguments with
      | ok x =>
        cases hv' : validateArguments c.definition.inputSchema d'.arguments with
        | ok x' => rfl
        | error m' =>
          have htime := hroute_of hallow havailable hv
          rw [hrow, (recordsAfter_of_error hallow havailable hv').1] at htime
          cases htime
      | error m =>
        cases hv' : validateArguments c.definition.inputSchema d'.arguments with
        | ok x' =>
          have htime := hroute_of hallow havailable hv'
          rw [← hrow, (recordsAfter_of_error hallow havailable hv).1] at htime
          cases htime
        | error m' =>
          have herror := ((@recordsAfter_of_error digest) hallow havailable hv).2
          rw [hrow, (recordsAfter_of_error hallow havailable hv').2] at herror
          have hmessage : m' = m := congrArg ToolExecutionError.message (Option.some.inj herror)
          rw [hmessage]
    refine ⟨harguments, hchecked, fun hroute => ?_⟩
    obtain ⟨hallow, havailable, hvalid⟩ := takesRoute_iff.mp hroute
    have hroute' : c.takesRoute d'.arguments = true :=
      takesRoute_iff.mpr ⟨hallow, havailable, (hchecked hallow havailable).symm.trans hvalid⟩
    rw [recordsAfter_of_takesRoute hroute, recordsAfter_of_takesRoute hroute', ← hstarted] at hrow
    refine (endOf_stored_iff hdiffer.finish).mp
      (stored_of_finishedRow (startedRow_times d.arguments).2 ?_ hrow)
    intro a ha b hb x hx y hy
    exact hdigest x (mem_hashedTexts ha hx) y (mem_hashedTexts hb hy)
  · intro h
    rw [CallFrame.recordsAfter, CallFrame.recordsAfter, requestedRow_eq hdiffer h.arguments]
    -- either the ways are the same, or both take the route
    have hways : c.way d = c.way d' ∨
        c.takesRoute d.arguments = true ∧ c.takesRoute d'.arguments = true := by
      cases hpolicy : policyDecision c.definition c.scope with
      | deny =>
        refine Or.inl ?_
        rw [CallFrame.way, CallFrame.way, hpolicy]
      | requireApproval =>
        refine Or.inl ?_
        rw [CallFrame.way, CallFrame.way, hpolicy]
      | allow =>
        cases havailable : c.available with
        | false =>
          refine Or.inl ?_
          rw [CallFrame.way, CallFrame.way, hpolicy, havailable]
          rfl
        | true =>
          have hchecked := h.checked hpolicy havailable
          cases hv : validateArguments c.definition.inputSchema d.arguments with
          | error m =>
            refine Or.inl ?_
            rw [CallFrame.way, CallFrame.way, ← hchecked, hv, hpolicy, havailable]
          | ok x =>
            exact Or.inr ⟨takesRoute_iff.mpr ⟨hpolicy, havailable, hv⟩,
              takesRoute_iff.mpr ⟨hpolicy, havailable, hchecked.symm.trans hv⟩⟩
    rcases hways with hway | ⟨hroute, hroute'⟩
    · rw [hway]
    · have hstored := (endOf_stored_iff hdiffer.finish).mpr (h.finish hroute)
      rw [way_of_takesRoute hroute, way_of_takesRoute hroute']
      simp only [List.foldl_cons, List.foldl_append]
      exact Prod.ext (foldl_onRow_of_stored hstored _) (foldl_onEvents_of_stored hstored _)

/-- The summary of the arguments is short in every run. -/
theorem argumentsSummary_short (writes : List CallWrite) (arguments : JsonValue) :
    (writes.foldl (CallWrite.onRow digest c.now)
        (requestedRow digest (c.call arguments) c.now)).redactedArgumentsSummary.utf8ByteSize ≤
      toolSummaryMaxBytes := by
  have hkept : ∀ r : ToolCallRow, (writes.foldl (CallWrite.onRow digest c.now)
      r).redactedArgumentsSummary = r.redactedArgumentsSummary := by
    induction writes with
    | nil => exact fun r => rfl
    | cons write rest ih =>
      intro r
      rw [List.foldl_cons, ih]
      cases write <;> rfl
  rw [hkept]
  refine Nat.le_trans (Uprava.Lib.utf8ByteSize_bounded _ _) ?_
  have hmax : toolSummaryMaxBytes = 2048 := rfl
  omega

/-- **The summaries of a run are short exactly when the one of its result is.** -/
theorem recordsAfter_short_iff :
    ((c.recordsAfter digest d).1.redactedArgumentsSummary.utf8ByteSize ≤ toolSummaryMaxBytes ∧
      ∀ summary ∈ (c.recordsAfter digest d).1.redactedResultSummary,
        summary.utf8ByteSize ≤ toolSummaryMaxBytes) ↔ RunShort c d := by
  have harguments : (c.recordsAfter digest d).1.redactedArgumentsSummary.utf8ByteSize ≤
      toolSummaryMaxBytes := argumentsSummary_short (c.requestedEvent :: c.way d) d.arguments
  rw [and_iff_right harguments, RunShort]
  cases hroute : c.takesRoute d.arguments with
  | false =>
    have hnone : (c.recordsAfter digest d).1.redactedResultSummary = none := by
      rw [CallFrame.recordsAfter, way_of_not_takesRoute hroute (.late ⟨0, .other⟩), CallFrame.way]
      cases policyDecision c.definition c.scope with
      | deny => rfl
      | requireApproval => rfl
      | allow =>
        cases c.available with
        | false => rfl
        | true =>
          cases validateArguments c.definition.inputSchema d.arguments with
          | error m => rfl
          | ok x => cases c.binding <;> rfl
    rw [hnone]
    exact iff_of_true (fun _ h => by cases h) fun h => by cases h
  | true =>
    have hopen : (c.startedRow digest d.arguments).redactedResultSummary = none := by
      rw [CallFrame.startedRow]
      cases c.binding <;> rfl
    rw [recordsAfter_of_takesRoute hroute, forall_prop_of_true rfl]
    cases hfinish : d.finish with
    | waited outcome =>
      rw [FinishShort, CallFrame.endOf, endOfRoute]
      cases hresult : outcome.result with
      | ok pair =>
        obtain ⟨r, refs⟩ := pair
        constructor
        · intro h x refs' hx
          obtain ⟨rfl, -⟩ := Prod.mk.inj (Except.ok.inj hx)
          exact (bounded_short_iff _ _).mp (h _ rfl)
        · intro h summary hsummary
          obtain rfl := Option.some.inj hsummary
          exact (bounded_short_iff _ _).mpr (h r refs rfl)
      | error e =>
        exact iff_of_true (fun _ h => by cases h) fun _ _ h => by cases h
    | late event =>
      rw [FinishShort]
      cases hending : endingResult? c.toolCallId event with
      | some r =>
        rw [endOf_of_endingResult hending]
        constructor
        · intro h x hx summary hsummary
          obtain rfl := Option.some.inj hx
          exact h summary hsummary
        · intro h summary hsummary
          exact h r rfl summary hsummary
      | none =>
        refine iff_of_true (fun summary hsummary => ?_) fun _ h => by cases h
        cases hend : c.endOf (.late event) with
        | none =>
          rw [hend, finishedRow, hopen] at hsummary
          cases hsummary
        | some e =>
          rw [hend, finishedRow, ToolCallRow.finish,
            result_of_no_endingResult hending hend] at hsummary
          cases hsummary

theorem summariesShort_run_iff (hfound : loadToolDefinition s.toolDefinitions c.definition.toolId =
    some c.definition) (hfresh : c.Fresh s) :
    SummariesShort (c.run digest s d) c.toolCallId ↔ RunShort c d := by
  have hrow : findToolCall? (c.run digest s d).toolCalls c.toolCallId =
      some (c.recordsAfter digest d).1 := congrArg Prod.fst (callRecords_run hfound hfresh)
  rw [SummariesShort, hrow, ← (@recordsAfter_short_iff digest)]
  constructor
  · exact fun h => h _ rfl
  · intro h r hr
    obtain rfl := Option.some.inj hr
    exact h

/-- **Two runs of a call that differ in what redaction hides leave the same row and events, with
    short summaries, exactly when nothing that is hashed or answered unredacted differs and the
    summaries of the results are short.** -/
theorem redaction_iff (hfound : loadToolDefinition s.toolDefinitions c.definition.toolId =
      some c.definition) (hfresh : c.Fresh s)
    (hdiffer : RunsDifferHidden c.definition.redaction d d')
    (hdigest : NoCollision digest c.definition.redaction d d') :
    (callRecords (c.run digest s d) c.toolCallId = callRecords (c.run digest s d') c.toolCallId ∧
        SummariesShort (c.run digest s d) c.toolCallId ∧
        SummariesShort (c.run digest s d') c.toolCallId) ↔
      (RunsShowSame c d d' ∧ RunShort c d ∧ RunShort c d') := by
  rw [summariesShort_run_iff hfound hfresh, summariesShort_run_iff hfound hfresh,
    callRecords_run hfound hfresh, callRecords_run hfound hfresh,
    ← recordsAfter_iff hdiffer hdigest]
  refine and_congr_left fun _ => ?_
  constructor
  · intro h
    obtain ⟨hrow, hevents⟩ := Prod.mk.inj h
    exact Prod.ext (Option.some.inj hrow) hevents
  · intro h
    rw [h]

end TwoRuns

/-! ## 10. Values that show -/

section Shows

/-- An external tool whose token is to be hidden, in its arguments and in its result. -/
def tokenTool : ToolDefinition where
  toolId := "linear.me"
  sourceId := linearSourceId
  sourceKind := .externalMcp
  sourceToolName := "me"
  version := 1
  displayName := "Me"
  shortDescription := "Read the own user"
  documentationUrl := none
  inputSchema := .ofFields [("type", .string "object")]
  outputSchema := none
  schemaHash := "sha256:1"
  riskLevel := .readOnly
  requiredPermissions := []
  executionKind := .toolhiveMcp
  approvalPolicy := .allow
  redaction := ⟨["/token"], ["/token"], false, false, 1024⟩
  state := .active
  createdAt := 0
  updatedAt := 0

def tokenFrame : CallFrame where
  toolCallId := "c1"
  correlationId := "k1"
  scope := ⟨.provider "codex", some "n1", none, some "p1", some "s1"⟩
  definition := tokenTool
  available := true
  binding := some ⟨"command1", "i1", "d1"⟩
  now := 1

def tokenTooling : Tooling where
  toolDefinitions := (upsertToolDefinition .empty tokenTool 0).toOption.getD .empty

def tokenValue (token : String) : JsonValue := .ofFields [("token", .string token)]

/-- The Node's event that ends the call once the request is gone. -/
def lateFinish (token : String) (summary : Option String) : CallFinish :=
  .late ⟨1, .toolCallCompleted "c1" ⟨tokenValue token, summary, false, some 14, []⟩⟩

theorem tokens_differHidden (token token' : String) :
    DifferHidden false ["/token"] (tokenValue token) (tokenValue token') :=
  Or.inr (.rel _ _ ⟨"/token", List.mem_singleton_self _, ["token"], by decide, rfl, trivial, rfl⟩)

theorem results_differ (token token' : String) (summary summary' : Option String) :
    FinishesDifferHidden tokenTool.redaction (lateFinish token summary)
      (lateFinish token' summary') :=
  ⟨rfl, rfl, tokens_differHidden token token', rfl, rfl⟩

theorem tokenFrame_fresh : tokenFrame.Fresh tokenTooling :=
  ⟨fun _ hr => (by cases hr), fun _ hr => (by cases hr), fun _ _ _ hr => (by cases hr)⟩

/-- **What is to be hidden shows**: two tokens in the arguments lead to two hashes of the arguments,
    two tokens in a result that arrives late to two hashes of the result, and the summary of such a
    result is stored as the Node wrote it. -/
theorem redacted_value_shows :
    (RunsDifferHidden tokenTool.redaction ⟨tokenValue "a", .late ⟨1, .other⟩⟩
        ⟨tokenValue "b", .late ⟨1, .other⟩⟩ ∧
      callRecords (tokenFrame.run id tokenTooling ⟨tokenValue "a", .late ⟨1, .other⟩⟩) "c1" ≠
        callRecords (tokenFrame.run id tokenTooling ⟨tokenValue "b", .late ⟨1, .other⟩⟩) "c1") ∧
    (RunsDifferHidden tokenTool.redaction ⟨.emptyObject, lateFinish "a" none⟩
        ⟨.emptyObject, lateFinish "b" none⟩ ∧
      callRecords (tokenFrame.run id tokenTooling ⟨.emptyObject, lateFinish "a" none⟩) "c1" ≠
        callRecords (tokenFrame.run id tokenTooling ⟨.emptyObject, lateFinish "b" none⟩) "c1") ∧
    ¬ SummariesShort (tokenFrame.run id tokenTooling
      ⟨.emptyObject, lateFinish "a" (some (String.ofList (List.replicate 2049 'x')))⟩) "c1" := by
  have hfound : loadToolDefinition tokenTooling.toolDefinitions tokenFrame.definition.toolId =
      some tokenFrame.definition := by decide
  have hrecords : ∀ d d' : CallData, RunsDifferHidden tokenTool.redaction d d' →
      ¬ RunsShowSame tokenFrame d d' → callRecords (tokenFrame.run id tokenTooling d) "c1" ≠
        callRecords (tokenFrame.run id tokenTooling d') "c1" := by
    intro d d' hdiffer hshows heq
    have hafter := ((@callRecords_run id _ _ d) hfound tokenFrame_fresh).symm.trans
      (heq.trans (callRecords_run (d := d') hfound tokenFrame_fresh))
    obtain ⟨hrow, hevents⟩ := Prod.mk.inj hafter
    exact hshows ((recordsAfter_iff hdiffer fun _ _ _ _ h => h).mp
      (Prod.ext (Option.some.inj hrow) hevents))
  have hroute : tokenFrame.takesRoute .emptyObject = true := by decide
  have harguments : RunsDifferHidden tokenTool.redaction ⟨tokenValue "a", .late ⟨1, .other⟩⟩
      ⟨tokenValue "b", .late ⟨1, .other⟩⟩ := ⟨tokens_differHidden "a" "b", rfl, rfl⟩
  have hresults : RunsDifferHidden tokenTool.redaction ⟨.emptyObject, lateFinish "a" none⟩
      ⟨.emptyObject, lateFinish "b" none⟩ :=
    ⟨Or.inr (.refl _), results_differ "a" "b" none none⟩
  refine ⟨⟨harguments, hrecords _ _ harguments fun hsame => ?_⟩,
    ⟨hresults, hrecords _ _ hresults fun hsame => ?_⟩, fun hshort => ?_⟩
  · exact absurd hsame.arguments (by decide)
  · have hfinish := hsame.finish hroute
    exact absurd (congrArg (Option.map Prod.fst) hfinish) (by decide)
  · have hrun := (summariesShort_run_iff hfound tokenFrame_fresh).mp hshort hroute
    have hbytes := hrun _ rfl _ rfl
    rw [utf8ByteSize_ofList, bytes, List.map_replicate, List.sum_replicate] at hbytes
    exact absurd hbytes (by decide)

/-- A run that waits for a result with a token. -/
def waitedToken (token : String) : CallData :=
  ⟨.emptyObject, .waited (.external ⟨tokenValue token, none, false, some 13, []⟩)⟩

/-- The theorem's equivalence, for two tokens in a result that is waited for: neither shows. -/
theorem redaction_iff_waited :
    RunsShowSame tokenFrame (waitedToken "a") (waitedToken "b") ∧
      callRecords (tokenFrame.run id tokenTooling (waitedToken "a")) "c1" =
        callRecords (tokenFrame.run id tokenTooling (waitedToken "b")) "c1" := by
  have hdiffer : RunsDifferHidden tokenTool.redaction (waitedToken "a") (waitedToken "b") :=
    ⟨Or.inr (.refl _), tokens_differHidden "a" "b", rfl, rfl⟩
  have hsame : RunsShowSame tokenFrame (waitedToken "a") (waitedToken "b") :=
    ⟨rfl, fun _ _ => rfl, fun _ => rfl⟩
  have hshort : ∀ token, token = "a" ∨ token = "b" → RunShort tokenFrame (waitedToken token) := by
    intro token htoken _ r refs hr
    obtain ⟨rfl, -⟩ := Prod.mk.inj (Except.ok.inj hr)
    rcases htoken with rfl | rfl <;> exact Or.inl (by decide)
  have hiff := (@redaction_iff id tokenFrame tokenTooling) (by decide)
    tokenFrame_fresh hdiffer fun _ _ _ _ h => h
  exact ⟨hsame, (hiff.mpr ⟨hsame, hshort "a" (Or.inl rfl), hshort "b" (Or.inr rfl)⟩).1⟩

end Shows

end Uprava.Core
