/-
  File:      Uprava/Core/ActionIdempotency.lean
  Subject:   IDEMPOTENCY OF GENERATED INTERFACE ACTIONS: a key executes one action once, and what a
             repeated request is told.

  * `Sound`  -- the invariant: a row has one owner, an owner has executed its row once or not yet,
    and a completed row holds the result of its execution. Every run keeps it;
  * `AnswersOwn`, `Answerable` -- what only careful runs keep: the key of a repeated request names
    the same action and input, and a claimed row is completed by the request that claimed it;
  * **`idempotent_iff`** -- over every run, with every crash and error in it.
-/
import Uprava.Core.GeneratedUi
import Uprava.Lib.Run

namespace Uprava.Core.GeneratedUi

open Uprava.Protocol
open Uprava.Lib (Assoc Meets Throughout meets_of_check run throughout_iff_meets_of_inv)
open Uprava.Lib.Assoc (lookup_insert')

/-! ## 1. What is asked -/

/-- The result is the one of the execution. -/
structure Execution.Gives (e : Execution) (result : GeneratedUiActionResult) : Prop where
  actionRequestId : result.actionRequestId = e.actionRequestId
  artifactId : result.artifactId = e.artifactId
  actionId : result.actionId = e.actionId
  answer : e.answer = .ok ⟨result.result, result.state, result.commandId⟩

namespace ActionRequests

/-- Every successful answer is the result of the execution under its key, for the action and the
    input that it was asked for. -/
def AnswersOwn (s : ActionRequests) : Prop :=
  ∀ answer ∈ s.answers, ∀ result, answer.answer = .ok result →
    ∃ e ∈ s.executions, e.artifactId = answer.invocation.artifactId ∧
      e.key = answer.invocation.request.idempotencyKey ∧
      e.actionId = answer.invocation.actionId ∧ e.input = answer.invocation.request.input ∧
      e.Gives result

end ActionRequests

/-- The request whose task is to complete a row. -/
def ActionStage.owner : ActionStage → Option ActionRequestId
  | .claimed actionRequestId | .executed actionRequestId _ => some actionRequestId
  | .checked | .outrun => none

namespace ActionRequests

/-- A row is completed, or the request that claimed it is still at work; no other request can
    complete it. -/
def Answerable (s : ActionRequests) : Prop :=
  ∀ key row, s.tables.requests.lookup key = some row → row.state = .completed ∨
    ∃ task ∈ s.tasks, task.stage.owner = some row.actionRequestId

/-- What is asked of the requests under one key. -/
structure Idempotent (s : ActionRequests) : Prop where
  once : ∀ artifactId key,
    (s.executions.filter fun e => e.artifactId == artifactId && e.key == key).length ≤ 1
  answersOwn : s.AnswersOwn
  failed : ∀ key row, s.tables.requests.lookup key = some row → row.state = .failed →
    ∀ e ∈ s.executions, e.actionRequestId = row.actionRequestId → e.effect = none
  answerable : s.Answerable

/-- The row under the key of an invocation, if it is completed, is of the same action and input. -/
def SameAction (s : ActionRequests) (i : Invocation) : Prop :=
  ∀ row ∈ s.tables.requests.lookup (i.artifactId, i.request.idempotencyKey),
    row.state = .completed → row.actionId = i.actionId ∧ row.input = i.request.input

/-- **What is careful**: a request under a completed key asks for the completed action and input,
    no request ends between its claim and its completion, no execution fails, and neither does the
    statement that completes the row. -/
def Careful (s : ActionRequests) : UiAction → Prop
  | .invoke _ i => (validateActionRequest i.actionId i.request).isOk = true → s.SameAction i
  | .proceed world task _ =>
    match s.tasks[task]? with
    | some ⟨i, _, _, .outrun⟩ => s.SameAction i
    | some ⟨_, _, _, .executed _ answer⟩ => world.stored.isOk = true ∧ answer.isOk = true
    | _ => True
  | .drop task => ∀ t ∈ s.tasks[task]?, t.stage.owner = none
  | .updateState .. => True

end ActionRequests

/-! ## 2. The invariant -/

/-- The row that a request has claimed. -/
def ActionTask.ClaimsIn (task : ActionTask) (s : ActionRequests)
    (actionRequestId : ActionRequestId) : Prop :=
  ∃ row, s.tables.requests.lookup
      (task.invocation.artifactId, task.invocation.request.idempotencyKey) = some row ∧
    row.actionRequestId = actionRequestId ∧ row.actionId = task.invocation.actionId ∧
    row.input = task.invocation.request.input ∧ row.state = .requested

def ActionTask.SoundIn (s : ActionRequests) (task : ActionTask) : Prop :=
  match task.stage with
  | .checked | .outrun => True
  | .claimed actionRequestId => task.ClaimsIn s actionRequestId ∧
    ∀ e ∈ s.executions, e.actionRequestId ≠ actionRequestId
  | .executed actionRequestId answer => task.ClaimsIn s actionRequestId ∧
    ∃ e ∈ s.executions, e.actionRequestId = actionRequestId ∧ e.answer = answer

namespace ActionRequests

structure Sound (s : ActionRequests) : Prop where
  ids : ∀ key key' row row', s.tables.requests.lookup key = some row →
    s.tables.requests.lookup key' = some row' → row.actionRequestId = row'.actionRequestId →
    key = key'
  owners : (s.tasks.filterMap (·.stage.owner)).Nodup
  tasks : ∀ task ∈ s.tasks, task.SoundIn s
  rows : ∀ e ∈ s.executions, ∃ row, s.tables.requests.lookup (e.artifactId, e.key) = some row ∧
    row.actionRequestId = e.actionRequestId ∧ row.actionId = e.actionId ∧ row.input = e.input
  distinct : (s.executions.map (·.actionRequestId)).Nodup
  completed : ∀ key row, s.tables.requests.lookup key = some row → row.state = .completed →
    ∃ result, row.result = some result ∧
      ∃ e ∈ s.executions, e.actionRequestId = row.actionRequestId ∧ e.Gives result

section Invariant

variable {s t : ActionRequests} {task : ActionTask} {world : UiSurroundings} {i : Invocation}
  {drawn actionRequestId : ActionRequestId}

theorem updateGeneratedUiState_requests {tables : UiTables} {artifactId : ArtifactId}
    {request : UpdateGeneratedUiStateRequest} :
    (updateGeneratedUiState tables world artifactId request).tables.requests = tables.requests := by
  unfold updateGeneratedUiState
  dsimp only
  split
  · rfl
  · split <;> rfl

/-- An execution does not touch the rows. -/
theorem executeGeneratedUiAction_requests {tables : UiTables} {artifactId : ArtifactId}
    {artifact : GeneratedUiArtifact} {action : GeneratedUiActionDefinition} {input : JsonValue} :
    (executeGeneratedUiAction tables world artifactId artifact action input).tables.requests =
      tables.requests := by
  unfold executeGeneratedUiAction
  cases action.kind with
  | updateArtifactState =>
    dsimp only
    split
    · rfl
    · exact updateGeneratedUiState_requests
  | sendAgentInput =>
    dsimp only
    split
    · rfl
    · split
      · split <;> rfl
      · rfl
  | openReference =>
    dsimp only
    split
    · rfl
    · split <;> rfl

theorem claims_of_owner (hsound : task.SoundIn s)
    (howner : task.stage.owner = some actionRequestId) : task.ClaimsIn s actionRequestId := by
  unfold ActionTask.SoundIn at hsound
  cases hstage : task.stage with
  | checked => rw [hstage] at howner; cases howner
  | outrun => rw [hstage] at howner; cases howner
  | claimed claimedId =>
    rw [hstage] at howner hsound
    obtain rfl := Option.some.inj howner
    exact hsound.1
  | executed executedId answer =>
    rw [hstage] at howner hsound
    obtain rfl := Option.some.inj howner
    exact hsound.1

/-- What a request relies on, in another state: its row is as it was, and the executions that were
    added are of other rows. -/
theorem SoundIn.mono (hsound : task.SoundIn s)
    (hclaims : ∀ id, task.stage.owner = some id → task.ClaimsIn s id → task.ClaimsIn t id)
    (hexecutions : s.executions ⊆ t.executions)
    (hothers : ∀ id, task.stage.owner = some id →
      ∀ e ∈ t.executions, e ∈ s.executions ∨ e.actionRequestId ≠ id) : task.SoundIn t := by
  unfold ActionTask.SoundIn at hsound ⊢
  cases hstage : task.stage with
  | checked => trivial
  | outrun => trivial
  | claimed id =>
    have howner : task.stage.owner = some id := by rw [hstage]; rfl
    rw [hstage] at hsound
    obtain ⟨hclaim, hfirst⟩ := hsound
    refine ⟨hclaims id howner hclaim, fun e he => ?_⟩
    rcases hothers id howner e he with hold | hne
    · exact hfirst e hold
    · exact hne
  | executed id answer =>
    have howner : task.stage.owner = some id := by rw [hstage]; rfl
    rw [hstage] at hsound
    obtain ⟨hclaim, e, he, hrest⟩ := hsound
    exact ⟨hclaims id howner hclaim, e, hexecutions he, hrest⟩

/-- A row under another key than the one that is written stays. -/
theorem ClaimsIn.insert {id : ActionRequestId} {key : ArtifactId × IdempotencyKey}
    {row : ActionRequestRow} (h : task.ClaimsIn s id)
    (hrequests : t.tables.requests = s.tables.requests.insert key row)
    (hne : (task.invocation.artifactId, task.invocation.request.idempotencyKey) ≠ key) :
    task.ClaimsIn t id := by
  obtain ⟨old, hold, hrest⟩ := h
  refine ⟨old, ?_, hrest⟩
  rw [hrequests, lookup_insert', if_neg hne]
  exact hold

/-- A request that owns a row has not completed it. -/
theorem Sound.owned (hs : s.Sound) (htask : task ∈ s.tasks) {key : ArtifactId × IdempotencyKey}
    {row : ActionRequestRow} (hrow : s.tables.requests.lookup key = some row)
    (howner : task.stage.owner = some row.actionRequestId) : row.state = .requested := by
  obtain ⟨row', hrow', hid, -, -, hstate⟩ := claims_of_owner (hs.tasks task htask) howner
  have hkey := hs.ids _ _ _ _ hrow' hrow hid
  rw [hkey, hrow] at hrow'
  rw [Option.some.inj hrow']
  exact hstate

theorem length_filter_le_one {α β : Type} {f : α → β} {p : α → Bool} {l : List α}
    (hnodup : (l.map f).Nodup)
    (hsame : ∀ x ∈ l, ∀ y ∈ l, p x = true → p y = true → f x = f y) : (l.filter p).length ≤ 1 := by
  have hfiltered : ((l.filter p).map f).Nodup := hnodup.sublist (List.filter_sublist.map f)
  match hl : l.filter p with
  | [] => exact Nat.zero_le _
  | [x] => exact Nat.le_refl _
  | x :: y :: rest =>
    rw [hl] at hfiltered
    have hmem : ∀ z ∈ x :: y :: rest, z ∈ l ∧ p z = true := fun z hz => by
      rw [← hl] at hz
      exact List.mem_filter.mp hz
    obtain ⟨hx, hpx⟩ := hmem x List.mem_cons_self
    obtain ⟨hy, hpy⟩ := hmem y (List.mem_cons_of_mem _ List.mem_cons_self)
    have heq := hsame x hx y hy hpx hpy
    rw [List.map_cons, List.map_cons, heq] at hfiltered
    exact absurd List.mem_cons_self (List.nodup_cons.mp hfiltered).1

/-- **One execution for each key, and no failed row, follow from the rest.** -/
theorem Sound.answering_iff (hs : s.Sound) : s.Idempotent ↔ s.AnswersOwn ∧ s.Answerable := by
  refine ⟨fun h => ⟨h.answersOwn, h.answerable⟩, fun ⟨hown, hanswerable⟩ =>
    ⟨fun artifactId key => ?_, hown, fun key row hrow hfailed => ?_, hanswerable⟩⟩
  · refine length_filter_le_one hs.distinct fun e he e' he' hp hp' => ?_
    rw [Bool.and_eq_true, beq_iff_eq, beq_iff_eq] at hp hp'
    obtain ⟨row, hrow, hid, -⟩ := hs.rows e he
    obtain ⟨row', hrow', hid', -⟩ := hs.rows e' he'
    rw [hp.1, hp.2] at hrow
    rw [hp'.1, hp'.2, hrow] at hrow'
    rw [← hid, ← hid', Option.some.inj hrow']
  · rcases hanswerable key row hrow with hcompleted | ⟨task, htask, howner⟩
    · rw [hfailed] at hcompleted
      cases hcompleted
    · have hrequested := hs.owned htask hrow howner
      rw [hfailed] at hrequested
      cases hrequested

/-! ## 3. What the steps do to the invariant -/

/-- The tables but for the rows, and the answers, do not matter to the invariant. -/
theorem Sound.congr (hs : s.Sound) (hrequests : t.tables.requests = s.tables.requests)
    (hexecutions : t.executions = s.executions)
    (howners : (t.tasks.filterMap (·.stage.owner)).Nodup)
    (htasks : ∀ task ∈ t.tasks, task.SoundIn s) : t.Sound := by
  refine ⟨by rw [hrequests]; exact hs.ids, howners, fun task htask => ?_,
    by rw [hrequests, hexecutions]; exact hs.rows, by rw [hexecutions]; exact hs.distinct,
    by rw [hrequests, hexecutions]; exact hs.completed⟩
  refine SoundIn.mono (htasks task htask) (fun id _ hclaims => ?_)
    (by rw [hexecutions]; exact List.Subset.refl _) fun id _ e he => ?_
  · unfold ActionTask.ClaimsIn at hclaims ⊢
    rw [hrequests]
    exact hclaims
  · rw [hexecutions] at he
    exact Or.inl he

theorem Sound.reply {answer : Except GeneratedUiError GeneratedUiActionResult} (hs : s.Sound) :
    (s.reply i answer).Sound := hs.congr rfl rfl hs.owners hs.tasks

/-- A request that owns no row may be at work beside the others. -/
theorem Sound.goOn_idle (hs : s.Sound) (howner : task.stage.owner = none) :
    (s.goOn task).Sound := by
  refine hs.congr rfl rfl ?_ fun other hother => ?_
  · show ((s.tasks ++ [task]).filterMap (·.stage.owner)).Nodup
    have hnone : [task].filterMap (·.stage.owner) = [] := by simp [howner]
    rw [List.filterMap_append, hnone, List.append_nil]
    exact hs.owners
  · rcases List.mem_append.mp hother with hold | hnew
    · exact hs.tasks other hold
    · obtain rfl := List.mem_singleton.mp hnew
      unfold ActionTask.SoundIn
      cases hstage : other.stage with
      | checked => trivial
      | outrun => trivial
      | claimed claimedId => rw [hstage] at howner; cases howner
      | executed executedId answer => rw [hstage] at howner; cases howner

theorem Answerable.goOn (h : s.Answerable) : (s.goOn task).Answerable := by
  intro key row hrow
  rcases h key row hrow with hcompleted | ⟨owner, howner, hid⟩
  · exact Or.inl hcompleted
  · exact Or.inr ⟨owner, List.mem_append_left _ howner, hid⟩

theorem answersOwn_error {e : GeneratedUiError} :
    (s.reply i (.error e)).AnswersOwn ↔ s.AnswersOwn := by
  refine ⟨fun h answer hanswer => h answer (List.mem_cons_of_mem _ hanswer), fun h answer hanswer
    result hresult => ?_⟩
  rcases List.mem_cons.mp hanswer with rfl | hold
  · cases hresult
  · exact h answer hold result hresult

/-- The stored result is one that the request may be told exactly if it asks for the same. -/
theorem answersOwn_existing (hs : s.Sound) {existing : GeneratedUiActionResult}
    (hload : loadCompletedAction s.tables i.artifactId i.request.idempotencyKey = some existing) :
    (s.reply i (.ok existing)).AnswersOwn ↔ s.AnswersOwn ∧ s.SameAction i := by
  unfold loadCompletedAction at hload
  cases hrow : s.tables.requests.lookup (i.artifactId, i.request.idempotencyKey) with
  | none =>
    rw [hrow] at hload
    cases hload
  | some row =>
    rw [hrow] at hload
    dsimp only at hload
    split at hload
    · rename_i hcompleted
      obtain ⟨result, hresult, e, he, hid, hgives⟩ := hs.completed _ _ hrow hcompleted
      rw [hresult] at hload
      obtain rfl := Option.some.inj hload
      obtain ⟨row', hrow', hid', haction, hinput⟩ := hs.rows e he
      -- the execution that completed the row is of its key
      have hkey := hs.ids _ _ _ _ hrow' hrow (hid'.trans hid)
      obtain ⟨hartifact, hkey⟩ := Prod.mk.inj hkey
      rw [hartifact, hkey, hrow] at hrow'
      obtain rfl := Option.some.inj hrow'
      constructor
      · intro h
        refine ⟨fun answer hanswer => h answer (List.mem_cons_of_mem _ hanswer), ?_⟩
        intro row' hrow' _
        rw [hrow] at hrow'
        obtain rfl := Option.some.inj hrow'
        obtain ⟨e', he', hartifact', hkey', haction', hinput', -⟩ :=
          h _ List.mem_cons_self result rfl
        obtain ⟨row', hrow', -, hrowAction, hrowInput⟩ := hs.rows e' he'
        rw [hartifact', hkey', hrow] at hrow'
        obtain rfl := Option.some.inj hrow'
        exact ⟨hrowAction.trans haction', hrowInput.trans hinput'⟩
      · intro ⟨hown, hsame⟩ answer hanswer result' hresult'
        rcases List.mem_cons.mp hanswer with rfl | hold
        · obtain rfl := Except.ok.inj hresult'
          obtain ⟨hsameAction, hsameInput⟩ := hsame row hrow hcompleted
          exact ⟨e, he, hartifact, hkey, haction.symm.trans hsameAction,
            hinput.symm.trans hsameInput, hgives⟩
        · exact hown answer hold result' hresult'
    · cases hload

/-- Where nothing completed is stored, nothing is told. -/
theorem sameAction_of_none (hs : s.Sound)
    (hload : loadCompletedAction s.tables i.artifactId i.request.idempotencyKey = none) :
    s.SameAction i := by
  intro row hrow hcompleted
  obtain ⟨result, hresult, -⟩ := hs.completed _ _ hrow hcompleted
  unfold loadCompletedAction at hload
  rw [hrow] at hload
  dsimp only at hload
  rw [if_pos hcompleted, hresult] at hload
  cases hload

variable (world) in
theorem invoke_spec (hs : s.Sound) (hown : s.AnswersOwn) (hanswerable : s.Answerable) :
    (s.invoke world i).Sound ∧ (s.invoke world i).Answerable ∧
      ((s.invoke world i).AnswersOwn ↔ s.Careful (.invoke world i)) := by
  unfold ActionRequests.invoke ActionRequests.Careful
  dsimp only
  cases hvalid : validateActionRequest i.actionId i.request with
  | error e =>
    exact ⟨hs.reply, hanswerable, iff_of_true (answersOwn_error.mpr hown) fun h => (nomatch h)⟩
  | ok =>
    dsimp only
    cases hload : loadCompletedAction s.tables i.artifactId i.request.idempotencyKey with
    | some existing =>
      refine ⟨hs.reply, hanswerable, ?_⟩
      rw [answersOwn_existing hs hload, and_iff_right hown]
      exact ⟨fun h _ => h, fun h => h rfl⟩
    | none =>
      have hsame := sameAction_of_none hs hload
      dsimp only
      split
      · exact ⟨hs.reply, hanswerable, iff_of_true (answersOwn_error.mpr hown) fun _ => hsame⟩
      · exact ⟨hs.goOn_idle rfl, hanswerable.goOn, iff_of_true hown fun _ => hsame⟩

theorem replay_spec (hs : s.Sound) (hown : s.AnswersOwn) :
    (s.replay i).Sound ∧ (s.Answerable → (s.replay i).Answerable) ∧
      ((s.replay i).AnswersOwn ↔ s.SameAction i) := by
  unfold ActionRequests.replay
  cases hload : loadCompletedAction s.tables i.artifactId i.request.idempotencyKey with
  | some existing =>
    refine ⟨hs.reply, fun h => h, ?_⟩
    rw [answersOwn_existing hs hload, and_iff_right hown]
  | none =>
    exact ⟨hs.reply, fun h => h,
      iff_of_true (answersOwn_error.mpr hown) (sameAction_of_none hs hload)⟩

variable (world task) in
/-- **The claim**: a row that was not there, and its owner. -/
theorem claim_spec (hs : s.Sound) (hown : s.AnswersOwn) (hanswerable : s.Answerable)
    (hnew : s.IsNew drawn) :
    (s.claim world task drawn).Sound ∧ (s.claim world task drawn).Answerable ∧
      (s.claim world task drawn).AnswersOwn := by
  unfold ActionRequests.claim
  split
  · exact ⟨hs.reply, hanswerable, answersOwn_error.mpr hown⟩
  · dsimp only
    split
    · exact ⟨hs.goOn_idle rfl, hanswerable.goOn, hown⟩
    · rename_i hfree
      have habsent := Option.not_isSome_iff_eq_none.mp hfree
      have hdrawn : ∀ key row, s.tables.requests.lookup key = some row →
          row.actionRequestId ≠ drawn := by
        intro key row hrow heq
        have hmem : (⟨key, row⟩ : Sigma fun _ : ArtifactId × IdempotencyKey => ActionRequestRow) ∈
            s.tables.requests.entries := AList.mem_lookup_iff.mp hrow
        exact List.any_eq_false.mp hnew _ hmem (beq_iff_eq.mpr heq)
      have hkept : ∀ key row, s.tables.requests.lookup key = some row → key ≠
          (task.invocation.artifactId, task.invocation.request.idempotencyKey) := by
        rintro key row hrow rfl
        rw [habsent] at hrow
        cases hrow
      have hclaims : ∀ {other : ActionTask} {id : ActionRequestId}, other.ClaimsIn s id →
          id ≠ drawn := by
        intro other id ⟨row, hrow, hid, _⟩
        rw [← hid]
        exact hdrawn _ _ hrow
      refine ⟨⟨fun key key' row row' hrow hrow' hid => ?_, ?_, fun other hother => ?_,
        fun e he => ?_, hs.distinct, fun key row hrow hcompleted => ?_⟩, fun key row hrow => ?_,
        hown⟩
      · dsimp only [ActionRequests.goOn] at hrow hrow'
        rw [lookup_insert'] at hrow hrow'
        split at hrow
        · rename_i hkey
          split at hrow'
          · rename_i hkey'
            rw [hkey, hkey']
          · obtain rfl := Option.some.inj hrow
            exact absurd hid.symm (hdrawn _ _ hrow')
        · split at hrow'
          · obtain rfl := Option.some.inj hrow'
            exact absurd hid (hdrawn _ _ hrow)
          · exact hs.ids _ _ _ _ hrow hrow' hid
      · show ((s.tasks ++ [{ task with stage := .claimed drawn }]).filterMap
          fun other : ActionTask => other.stage.owner).Nodup
        rw [List.filterMap_append]
        refine List.nodup_append.mpr ⟨hs.owners, List.nodup_singleton _, ?_⟩
        intro id hid id' hid' heq
        obtain ⟨other, hother, howner⟩ := List.mem_filterMap.mp hid
        have hthis : id' = drawn := by simpa [ActionStage.owner, eq_comm] using hid'
        exact hclaims (claims_of_owner (hs.tasks other hother) howner) (heq.trans hthis)
      · rcases List.mem_append.mp hother with hold | hthis
        · refine SoundIn.mono (hs.tasks other hold) (fun id _ hclaim => ?_) (List.Subset.refl _)
            fun id _ e he => Or.inl he
          refine ClaimsIn.insert hclaim rfl ?_
          obtain ⟨row, hrow, -⟩ := hclaim
          exact hkept _ _ hrow
        · obtain rfl := List.mem_singleton.mp hthis
          refine ⟨⟨requestedRow world task drawn, AList.lookup_insert _, rfl, rfl, rfl, rfl⟩,
            fun e he => ?_⟩
          obtain ⟨row, hrow, hid, -⟩ := hs.rows e he
          rw [← hid]
          exact hdrawn _ _ hrow
      · obtain ⟨row, hrow, hrest⟩ := hs.rows e he
        refine ⟨row, ?_, hrest⟩
        dsimp only [ActionRequests.goOn]
        rw [lookup_insert', if_neg (hkept _ _ hrow)]
        exact hrow
      · dsimp only [ActionRequests.goOn] at hrow
        rw [lookup_insert'] at hrow
        split at hrow
        · obtain rfl := Option.some.inj hrow
          cases hcompleted
        · exact hs.completed key row hrow hcompleted
      · dsimp only [ActionRequests.goOn] at hrow
        rw [lookup_insert'] at hrow
        split at hrow
        · obtain rfl := Option.some.inj hrow
          exact Or.inr ⟨_, List.mem_append_right _ (List.mem_singleton_self _), rfl⟩
        · rcases hanswerable key row hrow with hdone | ⟨owner, howner, hid⟩
          · exact Or.inl hdone
          · exact Or.inr ⟨owner, List.mem_append_left _ howner, hid⟩

/-- No request beside this one owns its row. -/
def Alone (s : ActionRequests) (actionRequestId : ActionRequestId) : Prop :=
  ∀ other ∈ s.tasks, other.stage.owner ≠ some actionRequestId

variable (world) in
/-- **The execution**, once for the row. -/
theorem execute_spec (hs : s.Sound) (hown : s.AnswersOwn)
    (hanswerable : ∀ key row, s.tables.requests.lookup key = some row → row.state = .completed ∨
      row.actionRequestId = actionRequestId ∨
      ∃ owner ∈ s.tasks, owner.stage.owner = some row.actionRequestId)
    (hclaims : task.ClaimsIn s actionRequestId)
    (hfirst : ∀ e ∈ s.executions, e.actionRequestId ≠ actionRequestId)
    (halone : s.Alone actionRequestId) :
    (s.execute world task actionRequestId).Sound ∧
      (s.execute world task actionRequestId).Answerable ∧
      (s.execute world task actionRequestId).AnswersOwn := by
  have hrequests : (s.execute world task actionRequestId).tables.requests = s.tables.requests :=
    executeGeneratedUiAction_requests
  have hkeys : ∀ {other : ActionTask} {id : ActionRequestId}, other.ClaimsIn s id →
      other.ClaimsIn (s.execute world task actionRequestId) id := by
    intro other id ⟨row, hrow, hrest⟩
    exact ⟨row, by rw [hrequests]; exact hrow, hrest⟩
  obtain ⟨row, hrow, hid, haction, hinput, hstate⟩ := hclaims
  have hgrow : s.executions ⊆ (s.execute world task actionRequestId).executions :=
    List.subset_cons_self _ _
  refine ⟨⟨?_, ?_, fun other hother => ?_, fun e he => ?_, ?_, fun key row' hrow' hdone => ?_⟩,
    fun key row' hrow' => ?_, fun answer hanswer result hresult => ?_⟩
  · rw [hrequests]
    exact hs.ids
  · show ((s.tasks ++ [ActionTask.mk ..]).filterMap fun other : ActionTask =>
      other.stage.owner).Nodup
    rw [List.filterMap_append]
    refine List.nodup_append.mpr ⟨hs.owners, List.nodup_singleton _, ?_⟩
    intro id hmem id' hmem' heq
    obtain ⟨other, hother, howner⟩ := List.mem_filterMap.mp hmem
    have hthis : id' = actionRequestId := by simpa [ActionStage.owner, eq_comm] using hmem'
    exact halone other hother (by rw [howner, heq, hthis])
  · rcases List.mem_append.mp hother with hold | hthis
    · refine SoundIn.mono (hs.tasks other hold) (fun id _ => hkeys) hgrow fun id howner e he => ?_
      rcases List.mem_cons.mp he with rfl | hmem
      · right
        rintro rfl
        exact halone other hold howner
      · exact Or.inl hmem
    · obtain rfl := List.mem_singleton.mp hthis
      exact ⟨hkeys ⟨row, hrow, hid, haction, hinput, hstate⟩, _, List.mem_cons_self, rfl, rfl⟩
  · rw [hrequests]
    rcases List.mem_cons.mp he with rfl | hmem
    · exact ⟨row, hrow, hid, haction, hinput⟩
    · exact hs.rows e hmem
  · refine List.nodup_cons.mpr ⟨fun hmem => ?_, hs.distinct⟩
    obtain ⟨e, he, heq⟩ := List.mem_map.mp hmem
    exact hfirst e he heq
  · rw [hrequests] at hrow'
    obtain ⟨result, hresult, e, he, hrest⟩ := hs.completed key row' hrow' hdone
    exact ⟨result, hresult, e, hgrow he, hrest⟩
  · rw [hrequests] at hrow'
    rcases hanswerable key row' hrow' with hdone | hthis | ⟨owner, howner, howns⟩
    · exact Or.inl hdone
    · exact Or.inr ⟨_, List.mem_append_right _ (List.mem_singleton_self _), by rw [hthis]; rfl⟩
    · exact Or.inr ⟨owner, List.mem_append_left _ howner, howns⟩
  · obtain ⟨e, he, hrest⟩ := hown answer hanswer result hresult
    exact ⟨e, hgrow he, hrest⟩

/-- A new state of a row that no request beside this one owns. -/
theorem Sound.update (hs : s.Sound) {key : ArtifactId × IdempotencyKey}
    {row row' : ActionRequestRow} (hrow : s.tables.requests.lookup key = some row)
    (hid : row'.actionRequestId = row.actionRequestId) (haction : row'.actionId = row.actionId)
    (hinput : row'.input = row.input) (halone : s.Alone row.actionRequestId)
    (hcompleted : row'.state = .completed → ∃ result, row'.result = some result ∧
      ∃ e ∈ s.executions, e.actionRequestId = row.actionRequestId ∧ e.Gives result)
    (hrequests : t.tables.requests = s.tables.requests.insert key row')
    (hexecutions : t.executions = s.executions) (htasks : t.tasks = s.tasks) : t.Sound := by
  have hids : ∀ other old, t.tables.requests.lookup other = some old →
      ∃ before, s.tables.requests.lookup other = some before ∧
        before.actionRequestId = old.actionRequestId := by
    intro other old hold
    rw [hrequests, lookup_insert'] at hold
    split at hold
    · rename_i hkey
      obtain rfl := Option.some.inj hold
      exact ⟨row, by rw [hkey]; exact hrow, hid.symm⟩
    · exact ⟨old, hold, rfl⟩
  refine ⟨fun key key' old old' hold hold' heq => ?_, by rw [htasks]; exact hs.owners,
    fun other hother => ?_, fun e he => ?_, by rw [hexecutions]; exact hs.distinct,
    fun other old hold hdone => ?_⟩
  · obtain ⟨before, hbefore, hsame⟩ := hids key old hold
    obtain ⟨before', hbefore', hsame'⟩ := hids key' old' hold'
    exact hs.ids _ _ _ _ hbefore hbefore' (by rw [hsame, hsame', heq])
  · rw [htasks] at hother
    refine SoundIn.mono (hs.tasks other hother) (fun id howner hclaim => ?_)
      (by rw [hexecutions]; exact List.Subset.refl _) fun id _ e he => ?_
    · refine ClaimsIn.insert hclaim hrequests fun hkey => ?_
      -- the only request at this row is not among these
      obtain ⟨old, hold, hidOld, -⟩ := hclaim
      rw [hkey, hrow] at hold
      obtain rfl := Option.some.inj hold
      exact halone other hother (by rw [howner, hidOld])
    · rw [hexecutions] at he
      exact Or.inl he
  · rw [hexecutions] at he
    obtain ⟨old, hold, hidOld, hactionOld, hinputOld⟩ := hs.rows e he
    rw [hrequests, lookup_insert']
    split
    · rename_i hkey
      rw [hkey, hrow] at hold
      obtain rfl := Option.some.inj hold
      exact ⟨row', rfl, hid.trans hidOld, haction.trans hactionOld, hinput.trans hinputOld⟩
    · exact ⟨old, hold, hidOld, hactionOld, hinputOld⟩
  · rw [hexecutions]
    rw [hrequests, lookup_insert'] at hold
    split at hold
    · obtain rfl := Option.some.inj hold
      obtain ⟨result, hresult, e, he, hide, hgives⟩ := hcompleted hdone
      exact ⟨result, hresult, e, he, hide.trans hid.symm, hgives⟩
    · exact hs.completed other old hold hdone

variable (world) in
/-- **The settlement**: the row is completed, or it stays behind without an owner. -/
theorem settle_spec {answer : Except GeneratedUiError ActionOutcome} (hs : s.Sound)
    (hown : s.AnswersOwn)
    (hanswerable : ∀ key row, s.tables.requests.lookup key = some row → row.state = .completed ∨
      row.actionRequestId = actionRequestId ∨
      ∃ owner ∈ s.tasks, owner.stage.owner = some row.actionRequestId)
    (hclaims : task.ClaimsIn s actionRequestId)
    (hexecuted : ∃ e ∈ s.executions, e.actionRequestId = actionRequestId ∧ e.answer = answer)
    (halone : s.Alone actionRequestId) :
    (s.settle world task actionRequestId answer).Sound ∧
      (s.settle world task actionRequestId answer).AnswersOwn ∧
      ((s.settle world task actionRequestId answer).Answerable ↔
        world.stored.isOk = true ∧ answer.isOk = true) := by
  obtain ⟨row, hrow, hid, haction, hinput, hstate⟩ := hclaims
  have halone' : s.Alone row.actionRequestId := by rw [hid]; exact halone
  have hset : ∀ write, setRow s.tables task.invocation actionRequestId write =
      { s.tables with
        requests := s.tables.requests.insert
          (task.invocation.artifactId, task.invocation.request.idempotencyKey) (write row) } := by
    intro write
    unfold setRow
    rw [hrow]
    exact if_pos hid
  -- a row that is left as it is, or failed, has lost its owner
  have hlost : ∀ {t : ActionRequests} {row' : ActionRequestRow}, t.tables.requests.lookup
      (task.invocation.artifactId, task.invocation.request.idempotencyKey) = some row' →
      row'.actionRequestId = actionRequestId → row'.state ≠ .completed → t.tasks = s.tasks →
      ¬ t.Answerable := by
    intro t row' hrow' hid' hstate' htasks hanswerable'
    rcases hanswerable' _ row' hrow' with hdone | ⟨owner, howner, howns⟩
    · exact hstate' hdone
    · rw [htasks] at howner
      rw [hid'] at howns
      exact halone owner howner howns
  unfold ActionRequests.settle
  cases hstored : world.stored with
  | error e =>
    refine ⟨hs.reply, answersOwn_error.mpr hown, iff_of_false (hlost hrow hid ?_ rfl) ?_⟩
    · rw [hstate]
      decide
    · exact fun h => (nomatch h.1)
  | ok =>
    cases answer with
    | error error =>
      dsimp only
      rw [hset]
      refine ⟨Sound.reply (Sound.update hs hrow ?_ ?_ ?_ halone' ?_ rfl rfl rfl),
        answersOwn_error.mpr hown, iff_of_false (hlost (AList.lookup_insert _) hid ?_ rfl) ?_⟩
      · rfl
      · rfl
      · rfl
      · exact fun h => (nomatch h)
      · exact fun h => (nomatch h)
      · exact fun h => (nomatch h.2)
    | ok outcome =>
      obtain ⟨e, he, hide, hanswer⟩ := hexecuted
      obtain ⟨row', hrow', hid', haction', hinput'⟩ := hs.rows e he
      have hkey := hs.ids _ _ _ _ hrow' hrow (by rw [hid', hide, hid])
      obtain ⟨hartifact, hkey⟩ := Prod.mk.inj hkey
      rw [hartifact, hkey, hrow] at hrow'
      obtain rfl := Option.some.inj hrow'
      have hgives : e.Gives (actionResult task actionRequestId outcome world.now) :=
        ⟨hide.symm, hartifact.symm, haction.symm.trans haction', hanswer⟩
      dsimp only
      rw [hset]
      refine ⟨Sound.reply (Sound.update hs hrow ?_ ?_ ?_ halone' ?_ rfl rfl rfl), ?_,
        iff_of_true (fun key old hold => ?_) ⟨rfl, rfl⟩⟩
      · rfl
      · rfl
      · rfl
      · exact fun _ => ⟨_, rfl, e, he, hide.trans hid.symm, hgives⟩
      · cases recordDynamicUiEvent world task.artifact with
        | error e => exact answersOwn_error.mpr hown
        | ok =>
          intro answer hmem result hresult
          rcases List.mem_cons.mp hmem with rfl | hold
          · obtain rfl := Except.ok.inj hresult
            exact ⟨e, he, hartifact, hkey, haction'.symm.trans haction,
              hinput'.symm.trans hinput, hgives⟩
          · exact hown answer hold result hresult
      · dsimp only [ActionRequests.reply] at hold
        rw [lookup_insert'] at hold
        split at hold
        · obtain rfl := Option.some.inj hold
          exact Or.inl rfl
        · rename_i hne
          rcases hanswerable key old hold with hdone | hthis | howned
          · exact Or.inl hdone
          · exact absurd (hs.ids _ _ _ _ hold hrow (hthis.trans hid.symm)) hne
          · exact Or.inr howned

/-! ## 4. Steps and runs -/

/-- A request taken out of the others. -/
theorem Sound.take {n : Nat} (hs : s.Sound) (h : s.tasks[n]? = some task) :
    ActionRequests.Sound { s with tasks := s.tasks.eraseIdx n } ∧ task.SoundIn s ∧
      (∀ id, task.stage.owner = some id →
        ActionRequests.Alone { s with tasks := s.tasks.eraseIdx n } id) ∧
      ∀ other, other ∈ s.tasks ↔ other = task ∨ other ∈ s.tasks.eraseIdx n := by
  have hperm : s.tasks.Perm (task :: s.tasks.eraseIdx n) := by
    obtain ⟨hn, rfl⟩ := List.getElem?_eq_some_iff.mp h
    exact (List.getElem_cons_eraseIdx_perm hn).symm
  have hmem : ∀ other, other ∈ s.tasks ↔ other = task ∨ other ∈ s.tasks.eraseIdx n :=
    fun other => by rw [hperm.mem_iff, List.mem_cons]
  have howners := (hperm.filterMap (·.stage.owner)).nodup_iff.mp hs.owners
  refine ⟨hs.congr rfl rfl ?_ fun other hother => hs.tasks other ((hmem other).mpr (.inr hother)),
    hs.tasks task ((hmem task).mpr (.inl rfl)), fun id hid other hother howner => ?_, hmem⟩
  · rw [List.filterMap_cons] at howners
    split at howners
    · exact howners
    · exact (List.nodup_cons.mp howners).2
  · rw [List.filterMap_cons, hid] at howners
    exact (List.nodup_cons.mp howners).1 (List.mem_filterMap.mpr ⟨other, hother, howner⟩)

/-- **Every step keeps the invariant, and the property exactly when it is careful.** -/
theorem step_spec {a : UiAction} (hs : s.Sound) (hown : s.AnswersOwn) (hanswerable : s.Answerable)
    (ha : s.step a = some t) : t.Sound ∧ (t.AnswersOwn ∧ t.Answerable ↔ s.Careful a) := by
  cases a with
  | invoke world i =>
    obtain rfl := Option.some.inj ha
    obtain ⟨hsound, hanswerable', hcareful⟩ := invoke_spec world hs hown hanswerable
    exact ⟨hsound, (and_iff_left hanswerable').trans hcareful⟩
  | proceed world n drawn =>
    rw [ActionRequests.step] at ha
    split at ha
    · rename_i hnew
      obtain ⟨task, htask, rfl⟩ := Option.map_eq_some_iff.mp ha
      obtain ⟨hrest, hsound, halone, hmem⟩ := hs.take htask
      -- a row is completed, of the task that was taken, or of one of the others
      have hrows : ∀ key row, s.tables.requests.lookup key = some row → row.state = .completed ∨
          task.stage.owner = some row.actionRequestId ∨
          ∃ owner ∈ s.tasks.eraseIdx n, owner.stage.owner = some row.actionRequestId := by
        intro key row hrow
        rcases hanswerable key row hrow with hdone | ⟨owner, howner, howns⟩
        · exact Or.inl hdone
        · rcases (hmem owner).mp howner with rfl | hother
          · exact Or.inr (Or.inl howns)
          · exact Or.inr (Or.inr ⟨owner, hother, howns⟩)
      unfold ActionRequests.proceed ActionRequests.Careful
      unfold ActionTask.SoundIn at hsound
      dsimp only
      rw [htask]
      obtain ⟨i, artifact, action, stage⟩ := task
      have hidle : stage.owner = none →
          ActionRequests.Answerable { s with tasks := s.tasks.eraseIdx n } := by
        intro hnone key row hrow
        rcases hrows key row hrow with hdone | hthis | hother
        · exact Or.inl hdone
        · rw [hnone] at hthis
          cases hthis
        · exact Or.inr hother
      cases stage with
      | checked =>
        obtain ⟨hclaimed, hanswerable', hown'⟩ :=
          claim_spec ⟨i, artifact, action, .checked⟩ world hrest hown
            (hidle rfl) hnew
        exact ⟨hclaimed, iff_of_true ⟨hown', hanswerable'⟩ trivial⟩
      | outrun =>
        obtain ⟨hreplayed, hanswerable', hsame⟩ := replay_spec (i := i) hrest hown
        exact ⟨hreplayed, (and_iff_left (hanswerable' (hidle rfl))).trans hsame⟩
      | claimed id =>
        obtain ⟨hexecuted, hanswerable', hown'⟩ := execute_spec world hrest hown
          (fun key row hrow => (hrows key row hrow).imp_right fun h =>
            h.imp_left fun h => (Option.some.inj h).symm) hsound.1 hsound.2 (halone id rfl)
        exact ⟨hexecuted, iff_of_true ⟨hown', hanswerable'⟩ trivial⟩
      | executed id answer =>
        obtain ⟨hsettled, hown', hanswerable'⟩ := settle_spec world hrest hown
          (fun key row hrow => (hrows key row hrow).imp_right fun h =>
            h.imp_left fun h => (Option.some.inj h).symm) hsound.1 hsound.2 (halone id rfl)
        exact ⟨hsettled, (and_iff_right hown').trans hanswerable'⟩
    · cases ha
  | drop n =>
    rw [ActionRequests.step] at ha
    obtain ⟨task, htask, rfl⟩ := Option.map_eq_some_iff.mp ha
    obtain ⟨hrest, hsound, halone, hmem⟩ := hs.take htask
    refine ⟨hrest, (and_iff_right hown).trans ⟨fun h dropped hdropped => ?_, fun h key row hrow =>
      ?_⟩⟩
    · rw [htask] at hdropped
      obtain rfl := Option.some.inj hdropped
      -- the row of the request has no other owner
      rw [Option.eq_none_iff_forall_ne_some]
      intro id hid
      obtain ⟨row, hrow, hrowId, -, -, hstate⟩ := claims_of_owner hsound hid
      rcases h _ row hrow with hdone | ⟨owner, howner, howns⟩
      · rw [hstate] at hdone
        cases hdone
      · exact halone id hid owner howner (by rw [howns, hrowId])
    · rcases hanswerable key row hrow with hdone | ⟨owner, howner, howns⟩
      · exact Or.inl hdone
      · rcases (hmem owner).mp howner with rfl | hother
        · rw [h _ htask] at howns
          cases howns
        · exact Or.inr ⟨owner, hother, howns⟩
  | updateState world artifactId request =>
    obtain rfl := Option.some.inj ha
    have hrequests := @updateGeneratedUiState_requests world s.tables artifactId request
    refine ⟨hs.congr hrequests rfl hs.owners hs.tasks, iff_of_true ⟨hown, ?_⟩ trivial⟩
    intro key row hrow
    rw [hrequests] at hrow
    exact hanswerable key row hrow

end Invariant

/-- A database with interfaces of which no action was requested yet. -/
def start (artifacts : Assoc ArtifactId GeneratedUiArtifact)
    (states : Assoc ArtifactId GeneratedUiState) : ActionRequests where
  tables := { artifacts, states, requests := ∅ }

theorem sound_start {artifacts : Assoc ArtifactId GeneratedUiArtifact}
    {states : Assoc ArtifactId GeneratedUiState} : (start artifacts states).Sound where
  ids _ _ _ _ h := (nomatch h)
  owners := List.nodup_nil
  tasks _ h := (nomatch h)
  rows _ h := (nomatch h)
  distinct := List.nodup_nil
  completed _ _ h := (nomatch h)

theorem start_answers {artifacts : Assoc ArtifactId GeneratedUiArtifact}
    {states : Assoc ArtifactId GeneratedUiState} :
    (start artifacts states).AnswersOwn ∧ (start artifacts states).Answerable :=
  ⟨fun _ h => (nomatch h), fun _ _ h => (nomatch h)⟩

end ActionRequests

/-- **Over every run, with every error and every crash in it, the requests are idempotent exactly
    when each step is careful.** -/
theorem idempotent_iff {artifacts : Assoc ArtifactId GeneratedUiArtifact}
    {states : Assoc ArtifactId GeneratedUiState} {actions : List UiAction} {t : ActionRequests}
    (hr : run ActionRequests.step (.start artifacts states) actions = some t) :
    Throughout ActionRequests.step ActionRequests.Idempotent (.start artifacts states) actions ↔
      Meets ActionRequests.step ActionRequests.Careful (.start artifacts states) actions := by
  refine throughout_iff_meets_of_inv ActionRequests.Sound (fun s a u hs hgood ha => ?_)
    (fun s a u hs hgood ha => ?_) ActionRequests.sound_start
    (ActionRequests.sound_start.answering_iff.mpr ActionRequests.start_answers) hr
  · exact (ActionRequests.step_spec hs hgood.answersOwn hgood.answerable ha).1
  · obtain ⟨hu, hcareful⟩ := ActionRequests.step_spec hs hgood.answersOwn hgood.answerable ha
    exact hu.answering_iff.trans hcareful

instance (s : ActionRequests) (i : Invocation) : Decidable (s.SameAction i) := by
  unfold ActionRequests.SameAction
  exact inferInstance

instance (s : ActionRequests) (a : UiAction) : Decidable (s.Careful a) := by
  unfold ActionRequests.Careful
  split
  · exact inferInstance
  · split <;> exact inferInstance
  · exact inferInstance
  · exact inferInstance

/-! ## 5. A counter that saves itself -/

namespace Counter

/-- The runtime is there, and `event` is what recording an event answers. -/
def world (event : Except GeneratedUiError Unit) : UiSurroundings where
  runtime _ := .ok ()
  decodeReference := some
  turn _ _ := .refused .database
  stored := .ok ()
  event
  now := 0

def artifacts : Assoc ArtifactId GeneratedUiArtifact := AList.singleton "counter" {
  version := 1
  scopeRef := .session "ses"
  refs := []
  runtimeId := "uprava.generated-react"
  actions := [{
    actionId := "counter.save"
    kind := .updateArtifactState
    inputSchema := Lib.JsonValue.ofFields [("type", .string "object")]
    requiredCapabilities := [.persistState]
    confirmationRequired := false }]
  grantedCapabilities := [.persistState] }

def states : Assoc ArtifactId GeneratedUiState :=
  AList.singleton "counter" ⟨0, Lib.JsonValue.emptyObject, 0⟩

def save : Invocation where
  artifactId := "counter"
  actionId := "counter.save"
  request := {
    artifactVersion := 1
    idempotencyKey := "counter-save-1"
    input := Lib.JsonValue.ofFields
      [("expected_revision", .int 0), ("values", Lib.JsonValue.ofFields [("count", .int 1)])]
    confirmed := false }

/-- Two requests with one key side by side: one claims it, the other is told its result. -/
def twice : List UiAction :=
  let world := world (.ok ())
  [.invoke world save, .invoke world save, .proceed world 0 "first", .proceed world 0 "second",
    .proceed world 0 "third", .proceed world 1 "third", .proceed world 0 "third"]

/-- The state is updated, and recording the event fails. -/
def unrecorded : List UiAction :=
  let world := world (.error .database)
  [.invoke world save, .proceed world 0 "first", .proceed world 0 "second",
    .proceed world 0 "second"]

theorem idempotent_twice :
    Throughout ActionRequests.step ActionRequests.Idempotent (.start artifacts states) twice ∧
      (run ActionRequests.step (.start artifacts states) twice).map (fun s =>
        (s.answers.map fun answer => answer.answer.toOption.map (·.actionRequestId),
          s.executions.map (·.effect))) =
        some ([some "first", some "first"], [some (.state 1)]) := by
  have hcareful : Meets ActionRequests.step ActionRequests.Careful (.start artifacts states)
      twice :=
    meets_of_check (fun _ => True) (fun _ _ _ _ _ => trivial)
      (c := fun s a => decide (s.Careful a)) (fun _ _ _ h => of_decide_eq_true h) trivial
      (by decide)
  obtain ⟨t, ht⟩ : ∃ t, run ActionRequests.step (.start artifacts states) twice = some t :=
    Option.isSome_iff_exists.mp (by decide)
  exact ⟨(idempotent_iff ht).mpr hcareful, by decide⟩

/-- **The request is recorded as failed, and the state is the new one.** -/
theorem unrecorded_failed :
    ¬ ∀ actions, Throughout ActionRequests.step ActionRequests.Idempotent
      (.start artifacts states) actions := by
  intro h
  have hend : (run ActionRequests.step (.start artifacts states) unrecorded).map (fun s =>
      ((s.tables.requests.lookup ("counter", "counter-save-1")).map fun row =>
        (row.actionRequestId, row.state),
        s.executions.map fun e => (e.actionRequestId, e.effect))) =
      some (some ("first", .failed), [("first", some (.state 1))]) := by decide
  obtain ⟨t, ht, hrows⟩ := Option.map_eq_some_iff.mp hend
  obtain ⟨hrow, hexecutions⟩ := Prod.mk.inj hrows
  obtain ⟨row, hlookup, hfailed⟩ := Option.map_eq_some_iff.mp hrow
  obtain ⟨hid, hstate⟩ := Prod.mk.inj hfailed
  have hmem : ("first", some (UiEffect.state 1)) ∈
      t.executions.map fun e => (e.actionRequestId, e.effect) := by
    rw [hexecutions]
    exact List.mem_singleton_self _
  obtain ⟨e, he, heffect⟩ := List.mem_map.mp hmem
  obtain ⟨hsame, heffect⟩ := Prod.mk.inj heffect
  have hnone := (h unrecorded unrecorded [] t (List.append_nil _).symm ht).failed _ row hlookup
    hstate e he (hsame.trans hid.symm)
  rw [heffect] at hnone
  cases hnone

end Counter

end Uprava.Core.GeneratedUi
