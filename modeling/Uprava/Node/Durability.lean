/-
  File:      Uprava/Node/Durability.lean
  Subject:   The events a command emits while it runs, and the events its outcome keeps: when
             nothing that went out live is missing from the outbox and no number is skipped.

  The provider loop emits every line of its process live and collects the first ones for the
  outcome; a run that fails before it has an exit status hands none of them over. The numbers of
  what is not handed over are gone. `liveDurable_iff` says that this is the only way.
-/
import Uprava.Node.Effects

namespace Uprava.Node

open Uprava.Protocol
open Uprava.Lib (Assoc Numbered)

variable {source : EventSource} {world : World}

/-! ## 1. What is claimed, and when it holds -/

/-- **What went out live is durable and leaves no holes**: the outcome adds it to the outbox, it is
    there unless retention dropped events, and the numbers the command took of a runtime are those
    of the events of its outcome. -/
structure LiveDurable (s : NodeLocalState) (x : Execution) : Prop where
  sent : ∀ e ∈ x.live, e ∈ x.outcome.eventsToSend
  kept : x.localState.droppedEventCount = s.droppedEventCount →
    ∀ e ∈ x.live, e ∈ x.localState.eventOutbox
  noHole : ∀ r n, (s.runtimeSeqs.count r < n ∧ n ≤ x.localState.runtimeSeqs.count r) ↔
    ∃ e ∈ x.outcome.eventsToSend, e.runtimeSessionId = some r ∧ e.seq = n

/-- The process of a turn hands over all it emitted: it wrote nothing, or it exited with a status
    and wrote no more lines than are collected. -/
def CodexProcess.handsOver (p : CodexProcess) : Bool :=
  p.lines.isEmpty ||
    match p.exit with
    | .exited .. => decide (p.lines.length ≤ maxProviderActivityEvents)
    | .failed .. => false

/-- A turn gets as far as its process. -/
def TurnWorld.starts (world : TurnWorld) (workspacePath : Option String) : Bool :=
  match workspacePath.filter (!isBlank ·) with
  | none => false
  | some path =>
    match world.authorizedWorkspacePath path with
    | .error _ => false
    | .ok _ => true

/-- The command runs a provider process. -/
def runsProcess (world : World) (s : NodeLocalState) (command : CommandEnvelope) : Bool :=
  command.kind == .sendTurn && world.mcpAccessIssued && command.target.runtimeSessionId.isSome &&
    providerForCommand s command == some codexProviderKey &&
    world.turn.starts (workspacePathForCommand s command)

/-- The command runs a task that reports its states. -/
def reportsStates (world : World) (command : CommandEnvelope) : Bool :=
  command.kind == .runTask && command.target.taskRunId.isSome && !world.taskStates.isEmpty

/-- **All that a command emits is handed over**, by its process or by its task. -/
def HandsOver (world : World) (s : NodeLocalState) (command : CommandEnvelope) : Prop :=
  (runsProcess world s command = true → world.turn.process.handsOver = true) ∧
    (reportsStates world command = true → world.taskReturns = true)

/-! ## 2. Delivering events -/

/-- **Events that are delivered are durable and leave no holes exactly when all that was emitted
    and all that was numbered is among them.** -/
theorem liveDurable_deliverEvents_iff {s s' : NodeLocalState} {drawn : Nat}
    {taken live events : List EventEnvelope} {status : CommandState} {payload : JsonValue}
    (h : Numbering s s' taken) (hdropped : s'.droppedEventCount = s.droppedEventCount)
    (hlive : ∀ e ∈ live, e ∈ taken ∨ OutsideRuntimes e)
    (hevents : ∀ e ∈ events, e ∈ taken ∨ OutsideRuntimes e) :
    LiveDurable s (deliverEvents source world s' drawn taken live events status payload) ↔
      (∀ e ∈ live, e ∈ events) ∧ ∀ e ∈ taken, e ∈ events := by
  set delivered : NodeLocalState := { s' with eventOutbox := s'.eventOutbox ++ events }
    with hdelivered
  set notices := (retentionNotices source world.limits delivered drawn).1 with hnotices
  have hsent : (deliverEvents source world s' drawn taken live events status
      payload).outcome.eventsToSend = events ++ notices := rfl
  have hseqs : (deliverEvents source world s' drawn taken live events status
      payload).localState.runtimeSeqs =
        (retentionNotices source world.limits delivered drawn).2.runtimeSeqs :=
    enforce_runtimeSeqs delivered world.limits drawn
  have hissued : Numbered EventEnvelope.runtimeSessionId EventEnvelope.seq s'.runtimeSeqs.count
      notices (retentionNotices source world.limits delivered drawn).2.runtimeSeqs.count :=
    issueNotices_numbered ⟨s'.runtimeSeqs, drawn⟩ _
  have hall := h.numbered.append hissued
  have habove : ∀ e ∈ notices, ∀ r, e.runtimeSessionId = some r → s'.runtimeSeqs.count r < e.seq :=
    fun e he r hr => hissued.lt he hr
  have hruntime : ∀ e ∈ notices, e.runtimeSessionId ≠ none := fun e he hnone => by
    obtain ⟨r, hr⟩ := hissued.exists_key he
    rw [hnone] at hr
    cases hr
  constructor
  · intro hdurable
    refine ⟨fun e he => ?_, fun e he => ?_⟩
    · -- an emitted event is no notice
      have hmem := hdurable.sent e he
      rw [hsent] at hmem
      refine (List.mem_append.mp hmem).resolve_right fun hnotice => ?_
      rcases hlive e he with htaken | houtside
      · obtain ⟨r, hr⟩ := h.numbered.exists_key htaken
        have hle := h.numbered.le htaken hr
        have hlt := habove e hnotice r hr
        omega
      · exact hruntime e hnotice houtside.runtimeSessionId
    · -- a number that was taken is the number of an event of the outcome
      obtain ⟨r, hr⟩ := h.numbered.exists_key he
      have hlow := h.numbered.lt he hr
      have hhigh := h.numbered.le he hr
      have hmono := hissued.mono r
      have hrange := (hdurable.noHole r e.seq).mp ⟨hlow, by rw [hseqs]; omega⟩
      obtain ⟨e', he', hr', hseq⟩ := hrange
      rw [hsent] at he'
      rcases List.mem_append.mp he' with he' | he'
      · rcases hevents e' he' with htaken | houtside
        · have hsame := h.numbered.injective he htaken (hr.trans hr'.symm) hseq.symm
          exact hsame ▸ he'
        · rw [houtside.runtimeSessionId] at hr'
          cases hr'
      · have hlt := habove e' he' r hr'
        omega
  · rintro ⟨hliveIn, htakenIn⟩
    refine ⟨fun e he => ?_, fun hkept e he => ?_, fun r n => ⟨?_, ?_⟩⟩
    · rw [hsent]
      exact List.mem_append_left _ (hliveIn e he)
    · have hsame : (delivered.enforceEventOutboxRetention source world.limits
          drawn).droppedEventCount = delivered.droppedEventCount := hkept.trans hdropped.symm
      show e ∈ (delivered.enforceEventOutboxRetention source world.limits drawn).eventOutbox
      rw [enforce_of_not_dropped hsame]
      exact List.mem_append_right _ (hliveIn e he)
    · rintro ⟨hlow, hhigh⟩
      rw [hseqs] at hhigh
      obtain ⟨e, he, hr, hseq⟩ := hall.surjective hlow hhigh
      refine ⟨e, ?_, hr, hseq⟩
      rw [hsent]
      rcases List.mem_append.mp he with he | he
      · exact List.mem_append_left _ (htakenIn e he)
      · exact List.mem_append_right _ he
    · rintro ⟨e, he, hr, rfl⟩
      rw [hsent] at he
      have hmem : e ∈ taken ++ notices := by
        rcases List.mem_append.mp he with he | he
        · rcases hevents e he with htaken | houtside
          · exact List.mem_append_left _ htaken
          · rw [houtside.runtimeSessionId] at hr
            cases hr
        · exact List.mem_append_right _ he
      rw [hseqs]
      exact ⟨hall.lt hmem hr, hall.le hmem hr⟩

theorem liveDurable_answerByEvents_iff {s s' : NodeLocalState} {drawn : Nat}
    {command : CommandEnvelope} {taken live events : List EventEnvelope}
    (h : Numbering s s' taken) (hdropped : s'.droppedEventCount = s.droppedEventCount)
    (hlive : ∀ e ∈ live, e ∈ taken ∨ OutsideRuntimes e)
    (hevents : ∀ e ∈ events, e ∈ taken ∨ OutsideRuntimes e) :
    LiveDurable s (answerByEvents source world s' drawn command taken live events) ↔
      (∀ e ∈ live, e ∈ events) ∧ ∀ e ∈ taken, e ∈ events := by
  have hprojected : Numbering s (s'.applyRuntimeStateProjection events) taken :=
    ⟨h.numbered, h.keeps, h.runtime⟩
  rw [← (@liveDurable_deliverEvents_iff source world _ _ drawn _ _ _ (commandStatusForEvents
      events) .emptyObject) hprojected hdropped hlive
    hevents]
  exact ⟨fun h => ⟨h.sent, h.kept, h.noHole⟩, fun h => ⟨h.sent, h.kept, h.noHole⟩⟩

/-- A body that numbers nothing is durable exactly when all it emits is among its events. -/
theorem liveDurable_answerWithEvents_iff {s s' : NodeLocalState} {drawn : Nat}
    {command : CommandEnvelope} {status : CommandState} {payload : JsonValue}
    {live events : List EventEnvelope} (hseqs : s'.runtimeSeqs = s.runtimeSeqs)
    (hdropped : s'.droppedEventCount = s.droppedEventCount)
    (hlive : ∀ e ∈ live, OutsideRuntimes e) (hevents : ∀ e ∈ events, OutsideRuntimes e) :
    LiveDurable s (answerWithEvents source world s' drawn command status payload live events) ↔
      ∀ e ∈ live, e ∈ events := by
  have hnumbering := Numbering.of_eq hseqs
  have hrecorded : Numbering s (s'.recordCommandResultPayload command status payload) [] :=
    ⟨hnumbering.numbered, hnumbering.keeps, hnumbering.runtime⟩
  unfold answerWithEvents
  rw [liveDurable_deliverEvents_iff hrecorded hdropped (fun e he => Or.inr (hlive e he))
    (fun e he => Or.inr (hevents e he))]
  exact ⟨fun h => h.1, fun h => ⟨h, fun e he => by cases he⟩⟩

theorem liveDurable_answer {s s' : NodeLocalState} {drawn : Nat} {command : CommandEnvelope}
    {status : CommandState} {payload : JsonValue} (hseqs : s'.runtimeSeqs = s.runtimeSeqs) :
    LiveDurable s (answer s' drawn command status payload) where
  sent e he := by cases he
  kept _ e he := by cases he
  noHole r n := by
    have hsame : (answer s' drawn command status payload).localState.runtimeSeqs =
        s.runtimeSeqs := hseqs
    rw [hsame]
    constructor
    · rintro ⟨hlow, hhigh⟩
      omega
    · rintro ⟨e, he, -⟩
      cases he

/-! ## 3. The drafts of a command -/

/-- **The events of drafts that were emitted or numbered are returned exactly when every draft
    is.** -/
theorem issued_returned_iff {providerKey : String} {command : CommandEnvelope}
    {runtimeId : RuntimeSessionId} {issue : Issue} {drafts : List EventDraft} :
    ((∀ e ∈ ((issueEvents source providerKey command runtimeId issue drafts).1.filter
          (·.1.live)).map (·.2), e ∈ ((issueEvents source providerKey command runtimeId issue
            drafts).1.filter (·.1.returned)).map (·.2)) ∧
        ∀ e ∈ (issueEvents source providerKey command runtimeId issue drafts).1.map (·.2),
          e ∈ ((issueEvents source providerKey command runtimeId issue drafts).1.filter
            (·.1.returned)).map (·.2)) ↔
      ∀ d ∈ drafts, d.returned = true := by
  have hnodup := ((@issueEvents_numbered source providerKey command runtimeId) issue drafts).nodup
  have hdrafts : ∀ (issue : Issue) (drafts : List EventDraft),
      (issueEvents source providerKey command runtimeId issue drafts).1.map (·.1) = drafts := by
    intro issue drafts
    induction drafts generalizing issue with
    | nil => rfl
    | cons d drafts ih => exact congrArg (d :: ·) (ih _)
  have hmap := hdrafts issue drafts
  generalize (issueEvents source providerKey command runtimeId issue drafts).1 = issued
    at hnodup hmap
  subst hmap
  constructor
  · rintro ⟨-, h⟩ d hd
    obtain ⟨de, hde, rfl⟩ := List.mem_map.mp hd
    obtain ⟨de', hde', hsame⟩ := List.mem_map.mp (h de.2 (List.mem_map_of_mem hde))
    obtain ⟨hmem, hreturned⟩ := List.mem_filter.mp hde'
    obtain rfl : de' = de := List.inj_on_of_nodup_map hnodup hmem hde hsame
    exact hreturned
  · intro h
    have hall : ∀ de ∈ issued, de ∈ issued.filter (·.1.returned) := fun de hde =>
      List.mem_filter.mpr ⟨hde, h de.1 (List.mem_map_of_mem hde)⟩
    refine ⟨fun e he => ?_, fun e he => ?_⟩
    · obtain ⟨de, hde, rfl⟩ := List.mem_map.mp he
      exact List.mem_map_of_mem (hall de (List.mem_of_mem_filter hde))
    · obtain ⟨de, hde, rfl⟩ := List.mem_map.mp he
      exact List.mem_map_of_mem (hall de hde)

theorem activityDrafts_returned_iff {turnId : TurnId} {returned : Bool}
    {lines : List ProcessLine} :
    (∀ d ∈ activityDrafts turnId returned lines, d.returned = true) ↔
      lines = [] ∨ (returned = true ∧ lines.length ≤ maxProviderActivityEvents) := by
  constructor
  · intro h
    cases hlines : lines.length with
    | zero => exact Or.inl (List.length_eq_zero_iff.mp hlines)
    | succ n =>
      -- the last line is one of the first ones that are returned
      have hlast : n < lines.length := by omega
      have hmem : (⟨some turnId, .providerActivity lines[n].activity, true,
          returned && decide (n < maxProviderActivityEvents)⟩ : EventDraft) ∈
            activityDrafts turnId returned lines :=
        List.mem_mapIdx.mpr ⟨n, hlast, rfl⟩
      have hreturned := h _ hmem
      simp only [Bool.and_eq_true, decide_eq_true_eq] at hreturned
      exact Or.inr ⟨hreturned.1, by omega⟩
  · intro h d hd
    obtain ⟨i, hi, rfl⟩ := List.mem_mapIdx.mp hd
    rcases h with rfl | ⟨hreturned, hlen⟩
    · cases hi
    · simp only [Bool.and_eq_true, decide_eq_true_eq]
      exact ⟨hreturned, by omega⟩

theorem returned_processLimitDrafts {turnId : TurnId} {p : CodexProcess} {out err : Bool} :
    ∀ d ∈ processLimitDrafts turnId p out err, d.returned = true := by
  unfold processLimitDrafts
  split
  · intro d hd
    cases hd
  · intro d hd
    rw [List.mem_singleton.mp hd]

/-- **A turn returns all it reports exactly when its process, if it gets that far, hands over.** -/
theorem sendTurnEvents_returned_iff {world : TurnWorld} {turnId : TurnId}
    {workspacePath : Option String} :
    (∀ d ∈ sendTurnEvents world turnId workspacePath, d.returned = true) ↔
      (world.starts workspacePath = true → world.process.handsOver = true) := by
  unfold sendTurnEvents TurnWorld.starts
  cases workspacePath.filter (!isBlank ·) with
  | none => simp [runtimeErrorDraft]
  | some path =>
    dsimp only
    cases world.authorizedWorkspacePath path with
    | error e => simp [runtimeErrorDraft]
    | ok u =>
      have hopening : ∀ d ∈ ([⟨none, .runtimeRunning execData, true, true⟩,
          ⟨some turnId, .turnStarted, true, true⟩] : List EventDraft), d.returned = true := by
        simp
      dsimp only
      unfold CodexProcess.handsOver
      cases hexit : world.process.exit with
      | failed code message =>
        have hlast : ∀ d ∈ [if code = "provider.cancelled" then
            ⟨some turnId, .turnInterrupted (some codexProviderKey) (some code) (some message),
              false, true⟩
          else runtimeErrorDraft (some turnId) code message], d.returned = true := by
          intro d hd
          rw [List.mem_singleton.mp hd]
          split <;> rfl
        rw [List.forall_mem_append, List.forall_mem_append, activityDrafts_returned_iff]
        simp only [List.isEmpty_iff, Bool.or_false, Bool.false_eq_true, false_and, or_false,
          forall_const]
        exact ⟨fun h => h.1.2, fun h => ⟨⟨hopening, h⟩, hlast⟩⟩
      | exited success stdoutTruncated stderrTruncated failureMessage =>
        have hreported : (∀ d ∈ [⟨none, .runtimeRunning execData, true, true⟩,
              ⟨some turnId, .turnStarted, true, true⟩] ++
              activityDrafts turnId true world.process.lines ++
              processLimitDrafts turnId world.process stdoutTruncated stderrTruncated,
            d.returned = true) ↔ world.process.lines = [] ∨
              world.process.lines.length ≤ maxProviderActivityEvents := by
          rw [List.forall_mem_append, List.forall_mem_append, activityDrafts_returned_iff]
          constructor
          · rintro ⟨⟨-, h⟩, -⟩
            exact h.imp_right And.right
          · intro h
            exact ⟨⟨hopening, h.imp_right fun h => ⟨rfl, h⟩⟩, returned_processLimitDrafts⟩
        -- what each way to exit adds is returned
        have hadds : ∀ rest : List EventDraft, (∀ d ∈ rest, d.returned = true) →
            ((∀ d ∈ [⟨none, .runtimeRunning execData, true, true⟩,
                ⟨some turnId, .turnStarted, true, true⟩] ++
                activityDrafts turnId true world.process.lines ++
                processLimitDrafts turnId world.process stdoutTruncated stderrTruncated ++ rest,
              d.returned = true) ↔ (true = true →
                (world.process.lines.isEmpty ||
                  decide (world.process.lines.length ≤ maxProviderActivityEvents)) = true)) := by
          intro rest hrest
          rw [List.forall_mem_append, hreported]
          simp only [Bool.or_eq_true, List.isEmpty_iff, decide_eq_true_eq, forall_const]
          exact ⟨fun h => h.1, fun h => ⟨h, hrest⟩⟩
        dsimp only
        split
        · exact hadds _ (by simp [runtimeErrorDraft])
        · split
          · rw [List.append_assoc]
            refine hadds _ fun d hd => ?_
            rcases List.mem_append.mp hd with hd | hd
            · obtain ⟨request, -, rfl⟩ := List.mem_map.mp hd
              rfl
            · rw [List.mem_singleton.mp hd]
          · split
            · exact hadds _ (by simp [runtimeErrorDraft])
            · exact hadds _ (by simp)

/-- Only a turn of the provider has drafts that are not returned. -/
theorem executeCommand_returned_iff {world : TurnWorld} {providerKey : String}
    {command : CommandEnvelope} {runtimeId : RuntimeSessionId} {workspacePath : Option String}
    {memory : RuntimeMemory} (hmatch : command.payload.matchesKind command.kind = true) :
    (∀ d ∈ (executeCommand world providerKey command runtimeId workspacePath memory).1,
        d.returned = true) ↔
      (command.kind = .sendTurn → providerKey = codexProviderKey →
        world.starts workspacePath = true → world.process.handsOver = true) := by
  have hone : ∀ d : EventDraft, d.returned = true → ∀ d' ∈ [d], d'.returned = true := by
    intro d hd d' hd'
    rw [List.mem_singleton.mp hd', hd]
  have hpair : ∀ d₁ d₂ : EventDraft, d₁.returned = true → d₂.returned = true →
      ∀ d ∈ [d₁, d₂], d.returned = true := by
    intro d₁ d₂ h₁ h₂ d hd
    rcases List.mem_pair.mp hd with rfl | rfl
    · exact h₁
    · exact h₂
  unfold executeCommand
  split
  · rename_i hkey
    simp only [hkey, forall_const]
    unfold codexEventsForCommand
    cases hkind : command.kind with
    | sendTurn =>
      cases hpayload : command.payload with
      | sendTurn content turnId =>
        simp only [forall_const]
        exact sendTurnEvents_returned_iff
      | _ =>
        rw [hkind, hpayload] at hmatch
        cases hmatch
    | startRuntime => exact iff_of_true (hpair _ _ rfl rfl) nofun
    | resumeRuntime =>
      refine iff_of_true ?_ nofun
      dsimp only
      unfold resumeRuntimeEvents
      split
      · exact hpair _ _ rfl rfl
      · exact hpair _ _ rfl rfl
    | resolveApproval =>
      refine iff_of_true ?_ nofun
      dsimp only
      split
      · exact hpair _ _ rfl rfl
      · exact hone _ rfl
    | interruptRuntime => exact iff_of_true (hone _ rfl) nofun
    | stopRuntime => exact iff_of_true (hone _ rfl) nofun
    | _ => exact iff_of_true (fun d hd => (by cases hd)) nofun
  · rename_i hkey
    exact iff_of_true (hone _ rfl) fun _ h => absurd h hkey

/-! ## 4. The bodies -/

/-- A turn leaves the metadata of its runtime alone. -/
theorem rememberRuntimeMetadata_sendTurn {s : NodeLocalState} {command : CommandEnvelope}
    (h : startsRuntime command.kind = false) :
    rememberRuntimeMetadata world s command = .ok s := by
  unfold rememberRuntimeMetadata
  split
  · rfl
  · rw [h]
    rfl

theorem runtimeDrafts_returned_iff {s : NodeLocalState} {command : CommandEnvelope}
    {runtimeId : RuntimeSessionId} (hmatch : command.payload.matchesKind command.kind = true) :
    (∀ d ∈ (runtimeDrafts world s command runtimeId).2.1, d.returned = true) ↔
      (command.kind = .sendTurn → providerForCommand s command = some codexProviderKey →
        world.turn.starts (workspacePathForCommand s command) = true →
          world.turn.process.handsOver = true) := by
  have hone : ∀ d : EventDraft, d.returned = true → ∀ d' ∈ [d], d'.returned = true := by
    intro d hd d' hd'
    rw [List.mem_singleton.mp hd', hd]
  unfold runtimeDrafts
  by_cases hturn : command.kind = .sendTurn
  · rw [rememberRuntimeMetadata_sendTurn (by rw [hturn]; rfl)]
    dsimp only
    cases hprovider : providerForCommand s command with
    | none => exact iff_of_true (hone _ rfl) fun _ h => by cases h
    | some providerKey =>
      dsimp only
      rw [executeCommand_returned_iff hmatch, Option.some_inj]
  · refine iff_of_true ?_ fun h => absurd h hturn
    split
    · exact hone _ rfl
    · split
      · exact hone _ rfl
      · exact (executeCommand_returned_iff hmatch).mpr fun h => absurd h hturn

theorem liveDurable_runtimeBody_iff {s : NodeLocalState} {drawn : Nat} {command : CommandEnvelope}
    (hmatch : command.payload.matchesKind command.kind = true) :
    LiveDurable s (runtimeBody source world s drawn command) ↔
      (command.kind = .sendTurn → command.target.runtimeSessionId.isSome = true →
        providerForCommand s command = some codexProviderKey →
          world.turn.starts (workspacePathForCommand s command) = true →
            world.turn.process.handsOver = true) := by
  have hnone : ∀ e ∈ ([] : List EventEnvelope), e ∈ ([] : List EventEnvelope) ∨
      OutsideRuntimes e := fun e he => by cases he
  unfold runtimeBody
  cases hruntime : command.target.runtimeSessionId with
  | none =>
    dsimp only
    rw [liveDurable_answerByEvents_iff (.of_eq rfl) rfl hnone hnone]
    refine iff_of_true ⟨fun e he => (by cases he), fun e he => (by cases he)⟩ ?_
    intro _ h
    cases h
  | some runtimeId =>
    obtain ⟨hseqs, -, -, -, hdropped⟩ := (@runtimeDrafts_keeps world) s command runtimeId
    have hdrafts := (@ofRuntime_runtimeDrafts world s command runtimeId)
    dsimp only
    rw [hseqs]
    have hsome : ∀ (p : EventDraft × EventEnvelope → Bool)
        (issued : List (EventDraft × EventEnvelope)), ∀ e ∈ (issued.filter p).map (·.2),
          e ∈ issued.map (·.2) ∨ OutsideRuntimes e := by
      intro p issued e he
      obtain ⟨de, hde, rfl⟩ := List.mem_map.mp he
      exact Or.inl (List.mem_map_of_mem (List.mem_of_mem_filter hde))
    refine Iff.trans (liveDurable_answerByEvents_iff ?_ hdropped (hsome _ _) (hsome _ _)) ?_
    · exact numbering_issueEvents hdrafts rfl
    · rw [issued_returned_iff, runtimeDrafts_returned_iff hmatch]
      simp only [Option.isSome_some, forall_const]

/-- An access failure emits nothing and returns what it numbered. -/
theorem liveDurable_accessFailure {s : NodeLocalState} {drawn : Nat} {command : CommandEnvelope} :
    LiveDurable s (providerMcpAccessFailureOutcome source s drawn command) := by
  have hnumbers := ((@accessFailure_effects source) s drawn command).1
  have hevents : (providerMcpAccessFailureOutcome source s drawn command).outcome.eventsToSend =
      (providerMcpAccessFailureOutcome source s drawn command).taken := rfl
  refine ⟨fun e he => (by cases he), fun _ e he => (by cases he), fun r n => ?_⟩
  rw [hevents]
  constructor
  · rintro ⟨hlow, hhigh⟩
    exact hnumbers.numbered.surjective hlow hhigh
  · rintro ⟨e, he, hr, rfl⟩
    exact ⟨hnumbers.numbered.lt he hr, hnumbers.numbered.le he hr⟩

theorem liveDurable_taskBody_iff {s : NodeLocalState} {drawn : Nat} {command : CommandEnvelope} :
    LiveDurable s (taskBody source world s drawn command) ↔
      (command.target.taskRunId.isSome = true → world.taskStates ≠ [] →
        world.taskReturns = true) := by
  have houtside : ∀ e ∈ taskEvents world command, OutsideRuntimes e := fun e he =>
    (outsideRuntimes_taskEvents e he).resolve_left (by simp)
  unfold taskBody
  rw [liveDurable_answerWithEvents_iff rfl rfl houtside ?_]
  · cases hreturns : world.taskReturns with
    | true => simp
    | false =>
      unfold taskEvents
      cases command.target.taskRunId with
      | none => simp
      | some taskRunId =>
        simp only [List.mem_map, Option.isSome_some, forall_const]
        constructor
        · intro h hstates
          obtain ⟨report, hreport⟩ := List.exists_mem_of_ne_nil _ hstates
          exact absurd (h _ ⟨report, hreport, rfl⟩) (by simp)
        · intro h e he
          obtain ⟨report, hreport, _⟩ := he
          exact absurd (h (List.ne_nil_of_mem hreport)) (by simp)
  · split
    · exact houtside
    · intro e he
      cases he

/-- A command that runs neither a process nor a task hands over all it emits. -/
theorem handsOver_of_kind {s : NodeLocalState} {command : CommandEnvelope}
    (hturn : command.kind ≠ .sendTurn) (htask : command.kind ≠ .runTask) :
    HandsOver world s command := by
  constructor
  · intro h
    simp [runsProcess, hturn] at h
  · intro h
    simp [reportsStates, htask] at h

/-- **The body of a command is durable exactly when all that it emits is handed over.** -/
theorem liveDurable_commandBody_iff {s : NodeLocalState} {drawn : Nat} {command : CommandEnvelope}
    (hmatch : command.payload.matchesKind command.kind = true)
    (haccess : command.kind = .sendTurn → world.mcpAccessIssued = true) :
    LiveDurable s (commandBody source world s drawn command) ↔ HandsOver world s command := by
  by_cases hturn : command.kind = .sendTurn
  · have hbody : commandBody source world s drawn command =
        runtimeBody source world s drawn command := by
      simp only [commandBody, hturn]
    rw [hbody, liveDurable_runtimeBody_iff hmatch]
    have hprocess : runsProcess world s command = true ↔
        command.target.runtimeSessionId.isSome = true ∧
          providerForCommand s command = some codexProviderKey ∧
            world.turn.starts (workspacePathForCommand s command) = true := by
      simp [runsProcess, hturn, haccess hturn, and_assoc]
    have htask : reportsStates world command = false := by simp [reportsStates, hturn]
    unfold HandsOver
    rw [hprocess, htask]
    constructor
    · exact fun h => ⟨fun ⟨h₁, h₂, h₃⟩ => h hturn h₁ h₂ h₃, nofun⟩
    · exact fun h _ h₁ h₂ h₃ => h.1 ⟨h₁, h₂, h₃⟩
  by_cases htask : command.kind = .runTask
  · have hbody : commandBody source world s drawn command =
        taskBody source world s drawn command := by
      simp only [commandBody, htask]
    have hprocess : runsProcess world s command = false := by simp [runsProcess, htask]
    have hreports : reportsStates world command = true ↔
        command.target.taskRunId.isSome = true ∧ world.taskStates ≠ [] := by
      simp [reportsStates, htask]
    rw [hbody, liveDurable_taskBody_iff]
    unfold HandsOver
    rw [hprocess, hreports]
    constructor
    · exact fun h => ⟨nofun, fun ⟨h₁, h₂⟩ => h h₁ h₂⟩
    · exact fun h h₁ h₂ => h.2 ⟨h₁, h₂⟩
  refine iff_of_true ?_ (handsOver_of_kind hturn htask)
  have hplaced : ∀ placementId payload, ∀ e ∈
      [(placementEventForCommand source s drawn command placementId payload).1],
        OutsideRuntimes e := fun placementId payload e he =>
    (outsideRuntimes_placementEvent e he).resolve_left (by simp)
  have hbyEvents : ∀ s' drawn events, s'.runtimeSeqs = s.runtimeSeqs →
      s'.droppedEventCount = s.droppedEventCount → (∀ e ∈ events, OutsideRuntimes e) →
      LiveDurable s (answerByEvents source world s' drawn command [] [] events) :=
    fun s' drawn events hseqs hdropped hevents =>
      (liveDurable_answerByEvents_iff (.of_eq hseqs) hdropped (fun e he => (by cases he))
        fun e he => Or.inr (hevents e he)).mpr
          ⟨fun e he => (by cases he), fun e he => (by cases he)⟩
  have hwithEvents : ∀ s' drawn status payload events, s'.runtimeSeqs = s.runtimeSeqs →
      s'.droppedEventCount = s.droppedEventCount → (∀ e ∈ events, OutsideRuntimes e) →
      LiveDurable s (answerWithEvents source world s' drawn command status payload [] events) :=
    fun s' drawn status payload events hseqs hdropped hevents =>
      (liveDurable_answerWithEvents_iff hseqs hdropped (fun e he => (by cases he)) hevents).mpr
        fun e he => (by cases he)
  have hsnapshot : ∀ payload, LiveDurable s (snapshotBody source world s drawn command payload) := by
    intro payload
    unfold snapshotBody
    split
    · exact hbyEvents _ _ _ rfl rfl fun e he => (by cases he)
    · exact hbyEvents _ _ _ rfl rfl (hplaced _ _)
  have hcausal : LiveDurable s (causalBody source world s drawn command) := by
    unfold causalBody
    dsimp only
    split
    · exact hwithEvents _ _ _ _ _ rfl rfl fun e he => (by cases he)
    · exact hwithEvents _ _ _ _ _ rfl rfl (hplaced _ _)
  have hdeduction : LiveDurable s (deductionBody world s drawn command) := by
    unfold deductionBody
    dsimp only
    split
    · exact liveDurable_answer rfl
    · split
      · exact liveDurable_answer rfl
      · exact liveDurable_answer rfl
  have htooling : LiveDurable s (toolingBody world s drawn command) := by
    unfold toolingBody
    cases world.toolDependency with
    | none =>
      have h := (@liveDurable_answer s s drawn command world.toolingResult.1
          (durableToolingResultPayload world.toolingResult.2)) rfl
      exact ⟨h.sent, h.kept, h.noHole⟩
    | some dependency =>
      have h := (@liveDurable_answer s
        { s with toolDependencies := s.toolDependencies.insert dependency.1 dependency.2 } drawn
        command world.toolingResult.1 (durableToolingResultPayload world.toolingResult.2)) rfl
      exact ⟨h.sent, h.kept, h.noHole⟩
  have hruntime : LiveDurable s (runtimeBody source world s drawn command) :=
    (liveDurable_runtimeBody_iff hmatch).mpr fun h => absurd h hturn
  unfold commandBody
  split
  · exact hsnapshot _
  · exact hsnapshot _
  · exact liveDurable_answer rfl
  · exact liveDurable_answer rfl
  · exact liveDurable_answer rfl
  · exact hcausal
  · exact hcausal
  · exact hcausal
  · exact hdeduction
  · exact liveDurable_answer rfl
  · exact absurd ‹command.kind = .runTask› htask
  · exact liveDurable_answer rfl
  · exact htooling
  · exact hruntime

/-! ## 5. The handling of a command -/

/-- **Whatever was handled and persisted, its live events are durable and leave no holes if and only
    if its process or its task handed over all it emitted.** -/
theorem liveDurable_iff {s : NodeLocalState} {drawn : Nat} {command : CommandEnvelope}
    (hpersisted : (handleCommand source world s drawn command).outcome.stateChanged = true) :
    LiveDurable s (handleCommand source world s drawn command) ↔ HandsOver world s command := by
  unfold handleCommand at hpersisted ⊢
  by_cases haccess : accessFails world s command = true
  · rw [if_pos haccess]
    simp only [accessFails, Bool.and_eq_true, beq_iff_eq, Bool.not_eq_true'] at haccess
    refine iff_of_true liveDurable_accessFailure ⟨fun h => ?_, fun h => ?_⟩
    · simp [runsProcess, haccess.2] at h
    · simp [reportsStates, haccess.1.1] at h
  · rw [if_neg haccess] at hpersisted ⊢
    unfold prepareCommandDispatch at hpersisted ⊢
    split
    · rename_i hmismatch
      rw [if_pos hmismatch] at hpersisted
      cases hpersisted
    · rename_i hmatch
      rw [if_neg hmatch] at hpersisted
      have hmatch' : command.payload.matchesKind command.kind = true := by simpa using hmatch
      cases hstatus : s.commandStatus.lookup command.commandId with
      | some status =>
        rw [hstatus] at hpersisted
        cases hpersisted
      | none =>
        refine liveDurable_commandBody_iff hmatch' fun hturn => ?_
        have hissued : accessFails world s command = false := by simpa using haccess
        simpa [accessFails, hturn, hstatus] using hissued

/-! ## 6. A turn that is cancelled -/

/-- The provider writes one line, and its run ends so. -/
def oneLine (exit : ProcessEnd) : World :=
  { quietWorld with
    turn := { quietWorld.turn with
      process := { lines := [.stdout (.string "thinking") none none], exit } } }

def cancelledTurn : Execution :=
  handleCommand countedSource
    (oneLine (.failed "provider.cancelled" "Provider execution was cancelled")) codexNode 0
    sendTurnCommand

/-- The line went out live under the number three; the outcome that is persisted knows neither. -/
theorem cancelledTurn_not_liveDurable :
    cancelledTurn.outcome.stateChanged = true ∧ cancelledTurn.live.map (·.seq) = [1, 2, 3] ∧
      cancelledTurn.outcome.eventsToSend.map (·.seq) = [1, 2, 4] ∧
        ¬ LiveDurable codexNode cancelledTurn := by
  have hlive : cancelledTurn.live.map (·.seq) = [1, 2, 3] := by decide
  have hsent : cancelledTurn.outcome.eventsToSend.map (·.seq) = [1, 2, 4] := by decide
  refine ⟨by decide, hlive, hsent, fun h => ?_⟩
  have hthree : 3 ∈ cancelledTurn.live.map (·.seq) := by
    rw [hlive]
    decide
  obtain ⟨e, he, hseq⟩ := List.mem_map.mp hthree
  have hmem : e.seq ∈ cancelledTurn.outcome.eventsToSend.map (·.seq) :=
    List.mem_map_of_mem (h.sent e he)
  rw [hsent, hseq] at hmem
  exact absurd hmem (by decide)

/-- The same turn, run to its end. -/
theorem liveDurable_iff_finishedTurn :
    LiveDurable codexNode
        (handleCommand countedSource (oneLine (.exited true false false "")) codexNode 0
          sendTurnCommand) ↔
      HandsOver (oneLine (.exited true false false "")) codexNode sendTurnCommand :=
  liveDurable_iff (by decide)

end Uprava.Node
