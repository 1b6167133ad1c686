/-
  File:      Uprava/Node/Effects.lean
  Subject:   What the handling of a command does to the counters, to the outbox and to the commands
             of the copy it runs on, whatever its kind and whatever the outside answers.

  * `Numbers` -- its runtime events took the next numbers of the copy, in order, and what it emits,
                 keeps and sends is one of them, is old or is no runtime's;
  * `Records` -- its answer is kept under its own id, and no other command is touched;
  * `Replays` -- it changed nothing.

  `handleCommand_numbers` and `handleCommand_cases` are the two facts the files after this one use.
-/
import Uprava.Node.Execution

namespace Uprava.Node

open Uprava.Protocol
open Uprava.Lib (Assoc Numbered)

/-! ## 1. What is stated -/

/-- An event that takes no number of a runtime. -/
structure OutsideRuntimes (event : EventEnvelope) : Prop where
  runtimeSessionId : event.runtimeSessionId = none
  scopeRef : ∀ r, event.scopeRef ≠ .runtime r

/-- `taken` are runtime events that took, in order, the numbers between two states. -/
structure Numbering (s s' : NodeLocalState) (taken : List EventEnvelope) : Prop where
  numbered : Numbered EventEnvelope.runtimeSessionId EventEnvelope.seq s.runtimeSeqs.count taken
    s'.runtimeSeqs.count
  keeps : ∀ r, s'.runtimeSeqs.lookup r = none → s.runtimeSeqs.lookup r = none
  runtime : ∀ e ∈ taken, RuntimeEvent e

/-- An event of an execution: one it numbered, one it found in the outbox, or no runtime's. -/
def KnownTo (s : NodeLocalState) (taken : List EventEnvelope) (event : EventEnvelope) : Prop :=
  event ∈ s.eventOutbox ∨ event ∈ taken ∨ OutsideRuntimes event

structure Numbers (s : NodeLocalState) (x : Execution) : Prop extends
    Numbering s x.localState x.taken where
  live : ∀ e ∈ x.live, e ∈ x.taken ∨ OutsideRuntimes e
  outbox : ∀ e ∈ x.localState.eventOutbox, KnownTo s x.taken e
  sent : ∀ e ∈ x.outcome.eventsToSend, KnownTo s x.taken e

structure Records (s : NodeLocalState) (commandId : CommandId) (x : Execution) : Prop where
  changed : x.outcome.stateChanged = true
  status : x.localState.commandStatus.lookup commandId = some x.outcome.status
  other : ∀ id, id ≠ commandId →
    x.localState.commandStatus.lookup id = s.commandStatus.lookup id ∧
      x.localState.commandResultPayloads.lookup id = s.commandResultPayloads.lookup id

structure Replays (s : NodeLocalState) (x : Execution) : Prop where
  unchanged : x.outcome.stateChanged = false
  localState : x.localState = s
  taken : x.taken = []
  live : x.live = []
  sent : x.outcome.eventsToSend ⊆ s.eventOutbox

theorem Replays.numbers {s : NodeLocalState} {x : Execution} (h : Replays s x) : Numbers s x where
  numbered := by
    rw [h.localState, h.taken]
    exact .nil _
  keeps r hr := by rwa [h.localState] at hr
  runtime e he := by
    rw [h.taken] at he
    cases he
  live e he := by
    rw [h.live] at he
    cases he
  outbox e he := Or.inl (h.localState ▸ he)
  sent e he := Or.inl (h.sent he)

/-! ## 2. Delivering events -/

variable {source : EventSource} {world : World}

theorem Numbering.of_eq {s s' : NodeLocalState} (h : s'.runtimeSeqs = s.runtimeSeqs) :
    Numbering s s' [] where
  numbered := by
    rw [h]
    exact .nil _
  keeps r hr := h ▸ hr
  runtime e he := by cases he

/-- The notices continue the numbers of the events. -/
theorem Numbering.retention {s s' : NodeLocalState} {taken : List EventEnvelope} {drawn : Nat}
    (h : Numbering s s' taken) (limits : OutboxLimits) :
    Numbering s (s'.enforceEventOutboxRetention source limits drawn)
      (taken ++ (retentionNotices source limits s' drawn).1) where
  numbered := by
    rw [enforce_runtimeSeqs]
    exact h.numbered.append (issueNotices_numbered ⟨s'.runtimeSeqs, drawn⟩ _)
  keeps r hr := by
    rw [enforce_runtimeSeqs] at hr
    exact h.keeps r (issueNotices_keeps hr)
  runtime e he := by
    rcases List.mem_append.mp he with he | he
    · exact h.runtime e he
    · exact runtimeEvent_issueNotices e he

/-- **Delivering events** that were numbered, or are no runtime's, keeps to the numbers. -/
theorem numbers_deliverEvents {s s' : NodeLocalState} {drawn : Nat}
    {taken live events : List EventEnvelope} {status : CommandState} {payload : JsonValue}
    (h : Numbering s s' taken) (houtbox : s'.eventOutbox = s.eventOutbox)
    (hlive : ∀ e ∈ live, e ∈ taken ∨ OutsideRuntimes e)
    (hevents : ∀ e ∈ events, e ∈ taken ∨ OutsideRuntimes e) :
    Numbers s (deliverEvents source world s' drawn taken live events status payload) := by
  have hdelivered : Numbering s { s' with eventOutbox := s'.eventOutbox ++ events } taken :=
    ⟨h.numbered, h.keeps, h.runtime⟩
  have hretained := @Numbering.retention source _ _ _ drawn hdelivered world.limits
  have hknown : ∀ e, e ∈ taken ∨ OutsideRuntimes e →
      KnownTo s (taken ++ (retentionNotices source world.limits
        { s' with eventOutbox := s'.eventOutbox ++ events } drawn).1) e := by
    intro e he
    rcases he with he | he
    · exact Or.inr (Or.inl (List.mem_append_left _ he))
    · exact Or.inr (Or.inr he)
  refine ⟨hretained, fun e he => ?_, fun e he => ?_, fun e he => ?_⟩
  · rcases hlive e he with he | he
    · exact Or.inl (List.mem_append_left _ he)
    · exact Or.inr he
  · rcases mem_enforce_eventOutbox he with he | he
    · rcases List.mem_append.mp he with he | he
      · exact Or.inl (houtbox ▸ he)
      · exact hknown e (hevents e he)
    · exact Or.inr (Or.inl (List.mem_append_right _ he))
  · rcases List.mem_append.mp he with he | he
    · exact hknown e (hevents e he)
    · exact Or.inr (Or.inl (List.mem_append_right _ he))

theorem numbers_answerByEvents {s s' : NodeLocalState} {drawn : Nat} {command : CommandEnvelope}
    {taken live events : List EventEnvelope} (h : Numbering s s' taken)
    (houtbox : s'.eventOutbox = s.eventOutbox)
    (hlive : ∀ e ∈ live, e ∈ taken ∨ OutsideRuntimes e)
    (hevents : ∀ e ∈ events, e ∈ taken ∨ OutsideRuntimes e) :
    Numbers s (answerByEvents source world s' drawn command taken live events) := by
  have hprojected : Numbering s (s'.applyRuntimeStateProjection events) taken :=
    ⟨h.numbered, h.keeps, h.runtime⟩
  have hdelivered := (@numbers_deliverEvents source world _ _ drawn _ _ _ (commandStatusForEvents
      events) .emptyObject) hprojected houtbox hlive
    hevents
  exact ⟨⟨hdelivered.numbered, hdelivered.keeps, hdelivered.runtime⟩, hdelivered.live,
    hdelivered.outbox, hdelivered.sent⟩

theorem numbers_answer {s s' : NodeLocalState} {drawn : Nat} {command : CommandEnvelope}
    {status : CommandState} {payload : JsonValue} (hseqs : s'.runtimeSeqs = s.runtimeSeqs)
    (houtbox : s'.eventOutbox = s.eventOutbox) :
    Numbers s (answer s' drawn command status payload) where
  toNumbering := ⟨(Numbering.of_eq hseqs).numbered, (Numbering.of_eq hseqs).keeps,
    (Numbering.of_eq hseqs).runtime⟩
  live e he := by cases he
  outbox e he := Or.inl (houtbox ▸ he)
  sent e he := by cases he

/-! ## 3. Recording the answer -/

theorem records_answer {s s' : NodeLocalState} {drawn : Nat} {command : CommandEnvelope}
    {status : CommandState} {payload : JsonValue} (hstatus : s'.commandStatus = s.commandStatus)
    (hpayloads : s'.commandResultPayloads = s.commandResultPayloads) :
    Records s command.commandId (answer s' drawn command status payload) where
  changed := rfl
  status := AList.lookup_insert _
  other id hid := by
    show (s'.commandStatus.insert _ _).lookup id = _ ∧
      (s'.commandResultPayloads.insert _ _).lookup id = _
    rw [AList.lookup_insert_ne hid, AList.lookup_insert_ne hid, hstatus, hpayloads]
    exact ⟨rfl, rfl⟩

theorem records_answerWithEvents {s s' : NodeLocalState} {drawn : Nat} {command : CommandEnvelope}
    {status : CommandState} {payload : JsonValue} {live events : List EventEnvelope}
    (hstatus : s'.commandStatus = s.commandStatus)
    (hpayloads : s'.commandResultPayloads = s.commandResultPayloads) :
    Records s command.commandId
      (answerWithEvents source world s' drawn command status payload live events) := by
  have hanswer := (@records_answer _ _ drawn command status payload) hstatus hpayloads
  obtain ⟨hs, hp⟩ := (@enforce_commands source)
    { s'.recordCommandResultPayload command status payload with
      eventOutbox := s'.eventOutbox ++ events } world.limits drawn
  refine ⟨rfl, ?_, fun id hid => ?_⟩
  · exact (congrArg (AList.lookup command.commandId) hs).trans hanswer.status
  · exact ⟨(congrArg (AList.lookup id) hs).trans (hanswer.other id hid).1,
      (congrArg (AList.lookup id) hp).trans (hanswer.other id hid).2⟩

theorem records_answerByEvents {s s' : NodeLocalState} {drawn : Nat} {command : CommandEnvelope}
    {taken live events : List EventEnvelope} (hstatus : s'.commandStatus = s.commandStatus)
    (hpayloads : s'.commandResultPayloads = s.commandResultPayloads) :
    Records s command.commandId
      (answerByEvents source world s' drawn command taken live events) := by
  obtain ⟨hs, hp⟩ := (@enforce_commands source)
    { s'.applyRuntimeStateProjection events with eventOutbox := s'.eventOutbox ++ events }
    world.limits drawn
  refine ⟨rfl, AList.lookup_insert _, fun id hid => ⟨?_, ?_⟩⟩
  · refine (AList.lookup_insert_ne hid).trans ?_
    exact (congrArg (AList.lookup id) hs).trans (congrArg (AList.lookup id) hstatus)
  · exact (congrArg (AList.lookup id) hp).trans (congrArg (AList.lookup id) hpayloads)

/-! ## 4. The bodies -/

/-- What the drafts of a runtime command leave alone. -/
theorem runtimeDrafts_keeps (s : NodeLocalState) (command : CommandEnvelope)
    (runtimeId : RuntimeSessionId) :
    let s' := (runtimeDrafts world s command runtimeId).2.2
    s'.runtimeSeqs = s.runtimeSeqs ∧ s'.eventOutbox = s.eventOutbox ∧
      s'.commandStatus = s.commandStatus ∧
      s'.commandResultPayloads = s.commandResultPayloads ∧
      s'.droppedEventCount = s.droppedEventCount := by
  have hremember : ∀ s', rememberRuntimeMetadata world s command = .ok s' →
      s'.runtimeSeqs = s.runtimeSeqs ∧ s'.eventOutbox = s.eventOutbox ∧
        s'.commandStatus = s.commandStatus ∧
        s'.commandResultPayloads = s.commandResultPayloads ∧
        s'.droppedEventCount = s.droppedEventCount := by
    intro s' h
    unfold rememberRuntimeMetadata at h
    split at h
    · obtain rfl := Except.ok.inj h
      exact ⟨rfl, rfl, rfl, rfl, rfl⟩
    · split at h
      · obtain rfl := Except.ok.inj h
        exact ⟨rfl, rfl, rfl, rfl, rfl⟩
      · simp only [bind, Except.bind] at h
        split at h
        · split at h
          · cases h
          · obtain rfl := Except.ok.inj h
            exact ⟨rfl, rfl, rfl, rfl, rfl⟩
        · obtain rfl := Except.ok.inj h
          exact ⟨rfl, rfl, rfl, rfl, rfl⟩
  unfold runtimeDrafts
  split
  · exact ⟨rfl, rfl, rfl, rfl, rfl⟩
  · rename_i s' hs'
    have hkeeps := hremember s' hs'
    split
    · exact hkeeps
    · exact hkeeps

theorem ofRuntime_runtimeDrafts {s : NodeLocalState} {command : CommandEnvelope}
    {runtimeId : RuntimeSessionId} :
    ∀ d ∈ (runtimeDrafts world s command runtimeId).2.1, d.OfRuntime := by
  unfold runtimeDrafts
  split
  · intro d hd
    obtain rfl := List.mem_singleton.mp hd
    exact ofRuntime_runtimeErrorDraft _ _ _
  · split
    · intro d hd
      obtain rfl := List.mem_singleton.mp hd
      exact ofRuntime_runtimeErrorDraft _ _ _
    · exact ofRuntime_executeCommand

theorem numbering_issueEvents {s : NodeLocalState} {providerKey : String}
    {command : CommandEnvelope} {runtimeId : RuntimeSessionId} {drawn : Nat}
    {drafts : List EventDraft} (hdrafts : ∀ d ∈ drafts, d.OfRuntime) {s' : NodeLocalState}
    (hs' : s'.runtimeSeqs =
      (issueEvents source providerKey command runtimeId ⟨s.runtimeSeqs, drawn⟩
        drafts).2.runtimeSeqs) :
    Numbering s s' ((issueEvents source providerKey command runtimeId ⟨s.runtimeSeqs, drawn⟩
      drafts).1.map (·.2)) where
  numbered := by
    rw [hs']
    exact issueEvents_numbered ⟨s.runtimeSeqs, drawn⟩ drafts
  keeps r hr := by
    rw [hs'] at hr
    exact issueEvents_keeps hr
  runtime := runtimeEvent_issueEvents hdrafts

theorem numbers_runtimeBody (s : NodeLocalState) (drawn : Nat) (command : CommandEnvelope) :
    Numbers s (runtimeBody source world s drawn command) := by
  have hnone : ∀ e ∈ ([] : List EventEnvelope), e ∈ ([] : List EventEnvelope) ∨
      OutsideRuntimes e := fun e he => by cases he
  unfold runtimeBody
  split
  · exact numbers_answerByEvents (.of_eq rfl) rfl hnone hnone
  · rename_i runtimeId _
    obtain ⟨hseqs, houtbox, -⟩ := (@runtimeDrafts_keeps world) s command runtimeId
    have hdrafts := (@ofRuntime_runtimeDrafts world s command runtimeId)
    dsimp only
    rw [hseqs]
    have hsome : ∀ (p : EventDraft × EventEnvelope → Bool)
        (issued : List (EventDraft × EventEnvelope)), ∀ e ∈ (issued.filter p).map (·.2),
          e ∈ issued.map (·.2) ∨ OutsideRuntimes e := by
      intro p issued e he
      obtain ⟨de, hde, rfl⟩ := List.mem_map.mp he
      exact Or.inl (List.mem_map_of_mem (List.mem_of_mem_filter hde))
    exact numbers_answerByEvents (numbering_issueEvents hdrafts rfl) houtbox (hsome _ _)
      (hsome _ _)

theorem records_runtimeBody (s : NodeLocalState) (drawn : Nat) (command : CommandEnvelope) :
    Records s command.commandId (runtimeBody source world s drawn command) := by
  unfold runtimeBody
  split
  · exact records_answerByEvents rfl rfl
  · rename_i runtimeId _
    obtain ⟨-, -, hstatus, hpayloads, -⟩ := (@runtimeDrafts_keeps world) s command runtimeId
    exact records_answerByEvents hstatus hpayloads

theorem outsideRuntimes_placementEvent {s : NodeLocalState} {drawn : Nat}
    {command : CommandEnvelope} {placementId : ProjectPlacementId} {payload : EventPayload} :
    ∀ e ∈ [(placementEventForCommand source s drawn command placementId payload).1],
      e ∈ ([] : List EventEnvelope) ∨ OutsideRuntimes e := by
  intro e he
  obtain rfl := List.mem_singleton.mp he
  exact Or.inr ⟨rfl, nofun⟩

theorem outsideRuntimes_taskEvents {command : CommandEnvelope} :
    ∀ e ∈ taskEvents world command, e ∈ ([] : List EventEnvelope) ∨ OutsideRuntimes e := by
  intro e he
  unfold taskEvents at he
  split at he
  · cases he
  · obtain ⟨change, -, rfl⟩ := List.mem_map.mp he
    exact Or.inr ⟨rfl, nofun⟩

/-- **What every body does**: it keeps to the numbers and records its answer. -/
theorem commandBody_effects (s : NodeLocalState) (drawn : Nat) (command : CommandEnvelope) :
    Numbers s (commandBody source world s drawn command) ∧
      Records s command.commandId (commandBody source world s drawn command) := by
  have hnone : ∀ e ∈ ([] : List EventEnvelope), e ∈ ([] : List EventEnvelope) ∨
      OutsideRuntimes e := fun e he => by cases he
  have hanswer : ∀ (s' : NodeLocalState) status payload, s'.runtimeSeqs = s.runtimeSeqs →
      s'.eventOutbox = s.eventOutbox → s'.commandStatus = s.commandStatus →
      s'.commandResultPayloads = s.commandResultPayloads →
      Numbers s (answer s' drawn command status payload) ∧
        Records s command.commandId (answer s' drawn command status payload) :=
    fun s' status payload h₁ h₂ h₃ h₄ => ⟨numbers_answer h₁ h₂, records_answer h₃ h₄⟩
  have hwithEvents : ∀ (s' : NodeLocalState) drawn status payload live events,
      Numbering s s' [] → s'.eventOutbox = s.eventOutbox → s'.commandStatus = s.commandStatus →
      s'.commandResultPayloads = s.commandResultPayloads →
      (∀ e ∈ live, e ∈ ([] : List EventEnvelope) ∨ OutsideRuntimes e) →
      (∀ e ∈ events, e ∈ ([] : List EventEnvelope) ∨ OutsideRuntimes e) →
      Numbers s (answerWithEvents source world s' drawn command status payload live events) ∧
        Records s command.commandId
          (answerWithEvents source world s' drawn command status payload live events) :=
    fun s' drawn status payload live events h₁ h₂ h₃ h₄ h₅ h₆ =>
      ⟨numbers_deliverEvents ⟨h₁.numbered, h₁.keeps, h₁.runtime⟩ h₂ h₅ h₆,
        records_answerWithEvents h₃ h₄⟩
  have hsnapshot : ∀ payload, Numbers s (snapshotBody source world s drawn command payload) ∧
      Records s command.commandId (snapshotBody source world s drawn command payload) := by
    intro payload
    unfold snapshotBody
    split
    · exact ⟨numbers_answerByEvents (.of_eq rfl) rfl hnone hnone, records_answerByEvents rfl rfl⟩
    · exact ⟨numbers_answerByEvents (.of_eq rfl) rfl hnone outsideRuntimes_placementEvent,
        records_answerByEvents rfl rfl⟩
  have hcausal : Numbers s (causalBody source world s drawn command) ∧
      Records s command.commandId (causalBody source world s drawn command) := by
    unfold causalBody
    dsimp only
    split
    · exact hwithEvents _ _ _ _ _ _ (.of_eq rfl) rfl rfl rfl hnone hnone
    · exact hwithEvents _ _ _ _ _ _ (.of_eq rfl) rfl rfl rfl hnone outsideRuntimes_placementEvent
  have hdeduction : Numbers s (deductionBody world s drawn command) ∧
      Records s command.commandId (deductionBody world s drawn command) := by
    unfold deductionBody
    dsimp only
    split
    · exact hanswer _ _ _ rfl rfl rfl rfl
    · split
      · exact hanswer _ _ _ rfl rfl rfl rfl
      · exact hanswer _ _ _ rfl rfl rfl rfl
  have htask : Numbers s (taskBody source world s drawn command) ∧
      Records s command.commandId (taskBody source world s drawn command) := by
    refine hwithEvents _ _ _ _ _ _ (.of_eq rfl) rfl rfl rfl outsideRuntimes_taskEvents ?_
    split
    · exact outsideRuntimes_taskEvents
    · exact hnone
  have htooling : Numbers s (toolingBody world s drawn command) ∧
      Records s command.commandId (toolingBody world s drawn command) := by
    unfold toolingBody
    cases world.toolDependency with
    | none =>
      obtain ⟨hn, hr⟩ := hanswer s world.toolingResult.1
        (durableToolingResultPayload world.toolingResult.2) rfl rfl rfl rfl
      exact ⟨⟨hn.toNumbering, hn.live, hn.outbox, hn.sent⟩, hr.changed, hr.status, hr.other⟩
    | some dependency =>
      obtain ⟨hn, hr⟩ := hanswer
        { s with toolDependencies := s.toolDependencies.insert dependency.1 dependency.2 }
        world.toolingResult.1 (durableToolingResultPayload world.toolingResult.2) rfl rfl rfl rfl
      exact ⟨⟨hn.toNumbering, hn.live, hn.outbox, hn.sent⟩, hr.changed, hr.status, hr.other⟩
  unfold commandBody
  split
  · exact hsnapshot _
  · exact hsnapshot _
  · exact hanswer _ _ _ rfl rfl rfl rfl
  · exact hanswer _ _ _ rfl rfl rfl rfl
  · exact hanswer _ _ _ rfl rfl rfl rfl
  · exact hcausal
  · exact hcausal
  · exact hcausal
  · exact hdeduction
  · exact hanswer _ _ _ rfl rfl rfl rfl
  · exact htask
  · exact hanswer _ _ _ rfl rfl rfl rfl
  · exact htooling
  · exact ⟨numbers_runtimeBody s drawn command, records_runtimeBody s drawn command⟩

/-! ## 5. The handling of a command -/

/-- A turn without access keeps to the numbers too, and records its failure. -/
theorem accessFailure_effects (s : NodeLocalState) (drawn : Nat) (command : CommandEnvelope) :
    Numbers s (providerMcpAccessFailureOutcome source s drawn command) ∧
      Records s command.commandId (providerMcpAccessFailureOutcome source s drawn command) := by
  unfold providerMcpAccessFailureOutcome
  cases command.target.runtimeSessionId with
  | none =>
    refine ⟨⟨⟨.nil _, fun _ h => h, fun e he => (by cases he)⟩, fun e he => (by cases he),
      fun e he => ?_, fun e he => (by cases he)⟩, rfl, AList.lookup_insert _,
      fun id hid => ⟨AList.lookup_insert_ne hid, rfl⟩⟩
    rcases List.mem_append.mp he with he | he
    · exact Or.inl he
    · cases he
  | some runtimeId =>
    dsimp only
    refine ⟨⟨?_, fun e he => (by cases he), fun e he => ?_, fun e he => Or.inr (Or.inl he)⟩, rfl,
      AList.lookup_insert _, fun id hid => ⟨AList.lookup_insert_ne hid, rfl⟩⟩
    · refine numbering_issueEvents (fun d hd => ?_) rfl
      obtain rfl := List.mem_singleton.mp hd
      exact ofRuntime_runtimeErrorDraft _ _ _
    · rcases List.mem_append.mp he with he | he
      · exact Or.inl he
      · exact Or.inr (Or.inl he)

/-- The handling of a command starts its body: the Node has no status of it, its payload is of its
    kind and a turn got its access. -/
def runsBody (world : World) (s : NodeLocalState) (command : CommandEnvelope) : Bool :=
  !accessFails world s command && command.payload.matchesKind command.kind &&
    (s.commandStatus.lookup command.commandId).isNone

/-- **The handling of a command replays or records**; it records exactly when it starts the body or
    fails for want of access. -/
theorem handleCommand_cases (s : NodeLocalState) (drawn : Nat) (command : CommandEnvelope) :
    (Replays s (handleCommand source world s drawn command) ∧
        runsBody world s command = false ∧ accessFails world s command = false) ∨
      (Records s command.commandId (handleCommand source world s drawn command) ∧
        s.commandStatus.lookup command.commandId = none) := by
  unfold handleCommand runsBody
  split
  · rename_i h
    refine Or.inr ⟨(accessFailure_effects s drawn command).2, ?_⟩
    have hnone : (s.commandStatus.lookup command.commandId).isNone = true := by
      simp only [accessFails, Bool.and_eq_true] at h
      exact h.1.2
    exact Option.isNone_iff_eq_none.mp hnone
  · rename_i h
    unfold prepareCommandDispatch
    split
    · rename_i hkind
      refine Or.inl ⟨⟨rfl, rfl, rfl, rfl, fun e he => (by cases he)⟩, ?_, by simpa using h⟩
      have hkind' : command.payload.matchesKind command.kind = false := by simpa using hkind
      rw [hkind', Bool.and_false, Bool.false_and]
    · split
      · rename_i status hstatus
        refine Or.inl ⟨⟨rfl, rfl, rfl, rfl, ?_⟩, ?_, by simpa using h⟩
        · exact fun e he => List.mem_of_mem_filter he
        · rw [hstatus, Option.isNone_some, Bool.and_false]
      · rename_i hstatus
        exact Or.inr ⟨(commandBody_effects s drawn command).2, hstatus⟩

/-- **Whatever the handling of a command does, it keeps to the numbers.** -/
theorem handleCommand_numbers (s : NodeLocalState) (drawn : Nat) (command : CommandEnvelope) :
    Numbers s (handleCommand source world s drawn command) := by
  rcases (@handleCommand_cases source world) s drawn command with h | ⟨-, h⟩
  · exact h.1.numbers
  · unfold handleCommand prepareCommandDispatch
    split
    · exact (accessFailure_effects s drawn command).1
    · split
      · exact Replays.numbers ⟨rfl, rfl, rfl, rfl, fun e he => (by cases he)⟩
      · rw [h]
        exact (commandBody_effects s drawn command).1

end Uprava.Node
