/-
  File:      Uprava/Node/Notices.lean
  Subject:   The numbers of executions that overlap: what the locks keep apart by themselves, and
             what the retention notices need.

  Two executions under way hold different locks, so each runtime is some command's own for one of
  them at most (`lockedRuntime`). An execution numbers events of its own runtime, or retention
  notices of any runtime (`taken_own_or_notice`). The numbers of own events are kept apart by the
  locks; a notice takes a number under no lock, and a run is in order when no notice overlaps an
  execution that numbers the same runtime (`NoticesApart`).
-/
import Uprava.Node.Numbers

namespace Uprava.Node

open Uprava.Protocol
open Uprava.Lib (Allocator Assoc Meets Numbered check meets_of_check run run_inv_of_meets)

variable {source : EventSource} {d d' : Daemon} {i : Nat} {t : DispatchTask}

/-! ## 1. Own events and notices -/

/-- The runtime a command's lock is for. -/
def lockedRuntime (command : CommandEnvelope) : Option RuntimeSessionId :=
  match command.payload with
  | .tooling _ => none
  | _ => command.target.runtimeSessionId

theorem key_of_lockedRuntime {command : CommandEnvelope} {r : RuntimeSessionId}
    (h : lockedRuntime command = some r) : commandExecutionKey command = "runtime:" ++ r := by
  have htarget : command.target.runtimeSessionId = some r ∧
      ∀ tooling, command.payload ≠ .tooling tooling := by
    unfold lockedRuntime at h
    split at h
    · cases h
    · rename_i hpayload
      exact ⟨h, hpayload⟩
  obtain ⟨hr, hpayload⟩ := htarget
  have htask : command.target.taskRunId = none := by
    cases htarget : command.target with
    | taskRun n p task =>
      rw [htarget] at hr
      cases hr
    | _ => rfl
  unfold commandExecutionKey
  rw [htask]
  split
  · rename_i hnone
    cases hnone
  · rename_i tooling _ hp
    exact absurd hp (hpayload tooling)
  · rw [hr]

theorem notice_issueNotices {stateNodeId : Option NodeId} {issue : Issue}
    {runtimes : List AffectedRuntime} :
    ∀ e ∈ (issueNotices source stateNodeId issue runtimes).1, e.payload = retentionExceeded := by
  induction runtimes generalizing issue with
  | nil =>
    intro e he
    cases he
  | cons runtime runtimes ih =>
    intro e he
    rcases List.mem_cons.mp he with rfl | he
    · rfl
    · exact ih e he

variable {world : World} {s : NodeLocalState} {drawn : Nat} {command : CommandEnvelope}

/-- An event of the command's own runtime, or a notice. -/
def OwnOrNotice (command : CommandEnvelope) (e : EventEnvelope) : Prop :=
  e.runtimeSessionId = lockedRuntime command ∨ e.payload = retentionExceeded

/-- The notices that delivering events adds. -/
theorem own_append_notices {taken : List EventEnvelope} {limits : OutboxLimits}
    (h : ∀ e ∈ taken, OwnOrNotice command e) :
    ∀ e ∈ taken ++ (retentionNotices source limits s drawn).1, OwnOrNotice command e := by
  intro e he
  rcases List.mem_append.mp he with he | he
  · exact h e he
  · exact Or.inr (notice_issueNotices e he)

theorem own_issueEvents {providerKey : String} {runtimeId : RuntimeSessionId} {issue : Issue}
    {drafts : List EventDraft} (hruntime : lockedRuntime command = some runtimeId) :
    ∀ e ∈ (issueEvents source providerKey command runtimeId issue drafts).1.map (·.2),
      OwnOrNotice command e := by
  intro e he
  obtain ⟨de, hde, rfl⟩ := List.mem_map.mp he
  obtain ⟨-, hcommand, -⟩ := mem_issueEvents hde
  exact Or.inl (hcommand.runtimeSessionId.trans hruntime.symm)

theorem own_runtimeBody (hpayload : ∀ tooling, command.payload ≠ .tooling tooling) :
    ∀ e ∈ (runtimeBody source world s drawn command).taken, OwnOrNotice command e := by
  have hlocked : lockedRuntime command = command.target.runtimeSessionId := by
    unfold lockedRuntime
    split
    · rename_i tooling hp
      exact absurd hp (hpayload tooling)
    · rfl
  unfold runtimeBody
  split
  · exact own_append_notices fun e he => (by cases he)
  · rename_i runtimeId hr
    exact own_append_notices (own_issueEvents (hlocked.trans hr))

/-- **An execution numbers events of its own runtime and notices.** -/
theorem taken_own_or_notice (hkind : command.payload.matchesKind command.kind = true) :
    ∀ e ∈ (handleCommand source world s drawn command).taken, OwnOrNotice command e := by
  have hkind' : command.kind = command.payload.kind := by
    simpa [CommandPayload.matchesKind] using hkind
  have hnone : ∀ e ∈ ([] : List EventEnvelope), OwnOrNotice command e :=
    fun e he => (by cases he)
  have hsnapshot : ∀ payload,
      ∀ e ∈ (snapshotBody source world s drawn command payload).taken, OwnOrNotice command e := by
    intro payload
    unfold snapshotBody
    split
    · exact own_append_notices hnone
    · exact own_append_notices hnone
  have hcausal : ∀ e ∈ (causalBody source world s drawn command).taken,
      OwnOrNotice command e := by
    unfold causalBody
    dsimp only
    split
    · exact own_append_notices hnone
    · exact own_append_notices hnone
  have hdeduction : ∀ e ∈ (deductionBody world s drawn command).taken,
      OwnOrNotice command e := by
    unfold deductionBody
    dsimp only
    split
    · exact hnone
    · split
      · exact hnone
      · exact hnone
  unfold handleCommand
  split
  · rename_i hfails
    have hsend : command.kind = .sendTurn := by
      simp only [accessFails, Bool.and_eq_true] at hfails
      exact eq_of_beq hfails.1.1
    unfold providerMcpAccessFailureOutcome
    cases hr : command.target.runtimeSessionId with
    | none => exact hnone
    | some runtimeId =>
      refine own_issueEvents ?_
      unfold lockedRuntime
      split
      · rename_i tooling hp
        rw [hsend, hp] at hkind'
        cases hkind'
      · exact hr
  · unfold prepareCommandDispatch
    split
    · exact hnone
    · split
      · exact hnone
      · unfold commandBody
        split
        · exact hsnapshot _
        · exact hsnapshot _
        · exact hnone
        · exact hnone
        · exact hnone
        · exact hcausal
        · exact hcausal
        · exact hcausal
        · exact hdeduction
        · exact hnone
        · exact own_append_notices hnone
        · exact hnone
        · exact hnone
        · rename_i hk hp
          refine own_runtimeBody fun tooling hpayload => ?_
          rw [hpayload] at hkind'
          exact absurd hkind' (by assumption)

/-! ## 2. Runs without aborts -/

/-- A task past its snapshot that has not handed its copy back. -/
def TaskPhase.underWay (phase : TaskPhase) : Bool := phase.baseline?.isSome

/-- A step of a run without aborts, in which executions under way have different keys. -/
def AbortFree (d : Daemon) : Action → Prop
  | .stop _ | .restart => False
  | .begin i => ∀ t, d.tasks i = some t → ∀ j u, d.tasks j = some u → u.phase.underWay = true →
      commandExecutionKey u.command ≠ commandExecutionKey t.command
  | _ => True

/-- No execution under way holds a notice of the runtime. -/
def NoNotice (d : Daemon) (r : RuntimeSessionId) : Prop :=
  ∀ i, ∀ e ∈ d.active i, e.payload = retentionExceeded → e.runtimeSessionId ≠ some r

/-- The runtime is not locked by another task under way. -/
def Unlocked (d : Daemon) (i : Nat) (r : RuntimeSessionId) : Prop :=
  ∀ j u, j ≠ i → d.tasks j = some u → u.phase.underWay = true → lockedRuntime u.command ≠ some r

/-- **The condition on a step**: a command takes its snapshot while no execution under way holds a
    notice of its runtime; a body numbers notices only of runtimes that nobody else locks or holds
    a notice of, and whose counters have not moved since its snapshot. -/
def NoticesApart (source : EventSource) (d : Daemon) : Action → Prop
  | .begin i => ∀ t, d.tasks i = some t → ∀ r, lockedRuntime t.command = some r → NoNotice d r
  | .start i acknowledged world => ∀ t baseline taken,
      d.taking source (.start i acknowledged world) = some (t, baseline, taken) →
        ∀ e ∈ taken, e.payload = retentionExceeded → ∀ r, e.runtimeSessionId = some r →
          lockedRuntime t.command ≠ some r →
            baseline.runtimeSeqs.count r = d.owner.runtimeSeqs.count r ∧ NoNotice d r ∧
              Unlocked d i r
  | _ => True

/-- **The invariant of overlapping executions.** -/
structure Daemon.Overlapping (source : EventSource) (d : Daemon) : Prop where
  ordered : d.Ordered source
  wellFormed : d.WellFormed
  /-- Executions under way have different keys. -/
  keys : ∀ i j t u, i ≠ j → d.tasks i = some t → d.tasks j = some u → t.phase.underWay = true →
    u.phase.underWay = true → commandExecutionKey t.command ≠ commandExecutionKey u.command
  /-- The counter of a locked runtime stands, and nobody else numbers its events. -/
  locked : ∀ i t b r, d.tasks i = some t → t.phase.baseline? = some b →
    lockedRuntime t.command = some r →
      b.runtimeSeqs.count r = d.owner.runtimeSeqs.count r ∧
        ∀ j, j ≠ i → ∀ e ∈ d.active j, e.runtimeSessionId ≠ some r
  /-- A number on the channel is the store's or is held. -/
  covered : ∀ e ∈ d.sentEvents, ∀ r, e.runtimeSessionId = some r →
    e.seq ≤ d.owner.runtimeSeqs.count r ∨ ∃ i, e ∈ d.active i
  /-- Every number ever taken is the store's or is held. -/
  numbered : ∀ e ∈ d.numbered, ∀ r, e.runtimeSessionId = some r →
    e.seq ≤ d.owner.runtimeSeqs.count r ∨ ∃ i, e ∈ d.active i

/-- A task that holds numbers is under way. -/
theorem underWay_of_active {e : EventEnvelope} (he : e ∈ d.active i) :
    ∃ t, d.tasks i = some t ∧ t.phase.underWay = true ∧ e ∈ t.phase.taken := by
  unfold Daemon.active at he
  cases ht : d.tasks i with
  | none =>
    rw [ht] at he
    cases he
  | some t =>
    rw [ht] at he
    refine ⟨t, rfl, ?_, he⟩
    cases hphase : t.phase with
    | executing b x live => rfl
    | queued =>
      rw [takenBy, hphase] at he
      cases he
    | begun b =>
      rw [takenBy, hphase] at he
      cases he
    | delivering batches status payload =>
      rw [takenBy, hphase] at he
      cases he

/-- A number held by a task is of its own runtime, or a notice. -/
theorem Daemon.Overlapping.own_or_notice (h : d.Overlapping source) (ht : d.tasks i = some t)
    {e : EventEnvelope} (he : e ∈ d.active i) : OwnOrNotice t.command e := by
  rw [active_of_task ht] at he
  cases hphase : t.phase with
  | executing b x live =>
    obtain ⟨-, world, drawn, hx⟩ := (h.ordered.tasks i t ht).execution b x live hphase
    rw [hphase] at he
    have he' : e ∈ x.taken := he
    rw [hx] at he'
    exact taken_own_or_notice (h.wellFormed.matchesKind ht) e he'
  | queued =>
    rw [hphase] at he
    cases he
  | begun b =>
    rw [hphase] at he
    cases he
  | delivering batches status payload =>
    rw [hphase] at he
    cases he

/-- Two tasks under way lock different runtimes. -/
theorem Daemon.Overlapping.lockedRuntime_ne (h : d.Overlapping source) {j : Nat}
    {u : DispatchTask} (hij : i ≠ j) (ht : d.tasks i = some t) (hu : d.tasks j = some u)
    (htw : t.phase.underWay = true) (huw : u.phase.underWay = true) {r : RuntimeSessionId}
    (hr : lockedRuntime t.command = some r) : lockedRuntime u.command ≠ some r := fun hr' =>
  h.keys i j t u hij ht hu htw huw ((key_of_lockedRuntime hr).trans (key_of_lockedRuntime hr').symm)

/-- **A step in which no execution starts or ends** keeps the invariant. -/
theorem Daemon.Overlapping.frame (h : d.Overlapping source) (hordered : d'.Ordered source)
    (hcount : ∀ r, d'.owner.runtimeSeqs.count r = d.owner.runtimeSeqs.count r)
    (hactive : ∀ i, d'.active i = d.active i)
    (hsent : ∀ e ∈ d'.sentEvents, e ∈ d.sentEvents ∨ d.Stored e ∨ (∃ i, e ∈ d.active i) ∨
      OutsideRuntimes e)
    (hwellFormed : d'.WellFormed)
    (htasks : ∀ i t b, d'.tasks i = some t → t.phase.baseline? = some b →
      ∃ u, d.tasks i = some u ∧ u.phase.baseline? = some b ∧ u.command = t.command)
    (hnumbered : d'.numbered = d.numbered) : d'.Overlapping source := by
  have hunder : ∀ i t, d'.tasks i = some t → t.phase.underWay = true →
      ∃ u, d.tasks i = some u ∧ u.phase.underWay = true ∧ u.command = t.command := by
    intro i t ht htw
    obtain ⟨b, hb⟩ := Option.isSome_iff_exists.mp htw
    obtain ⟨u, hu, hub, hcommand⟩ := htasks i t b ht hb
    exact ⟨u, hu, Option.isSome_iff_exists.mpr ⟨b, hub⟩, hcommand⟩
  refine ⟨hordered, hwellFormed, fun i j t u hij ht hu htw huw => ?_, fun i t b r ht hb hr => ?_,
    fun e he r hr => ?_, fun e he r hr => ?_⟩
  · obtain ⟨t', ht', htw', htc⟩ := hunder i t ht htw
    obtain ⟨u', hu', huw', huc⟩ := hunder j u hu huw
    rw [← htc, ← huc]
    exact h.keys i j t' u' hij ht' hu' htw' huw'
  · obtain ⟨u, hu, hub, hcommand⟩ := htasks i t b ht hb
    obtain ⟨heq, hapart⟩ := h.locked i u b r hu hub (by rw [hcommand]; exact hr)
    refine ⟨by rw [hcount]; exact heq, fun j hj e he => ?_⟩
    rw [hactive] at he
    exact hapart j hj e he
  · rw [hcount]
    simp only [hactive]
    rcases hsent e he with he | he | he | he
    · exact h.covered e he r hr
    · exact Or.inl (h.ordered.stored e he r hr)
    · exact Or.inr he
    · rw [he.runtimeSessionId] at hr
      cases hr
  · rw [hcount]
    simp only [hactive]
    rw [hnumbered] at he
    exact h.numbered e he r hr

/-- A task that is not under way holds no numbers. -/
theorem active_eq_nil (ht : d.tasks i = some t) (hidle : t.phase.taken = []) :
    d.active i = [] := by
  rw [active_of_task ht, hidle]

/-- The numbers of a daemon stand when a task moves between phases that take none. -/
theorem active_setTask_of_idle {task : Option DispatchTask} (ht : d.tasks i = some t)
    (hidle : t.phase.taken = []) (htask : takenBy task = []) (j : Nat) :
    (d.setTask i task).active j = d.active j := by
  rw [active_setTask, htask, ← active_eq_nil ht hidle, Function.update_eq_self]

/-- **A task takes its snapshot.** -/
theorem Daemon.Overlapping.begin (h : d.Overlapping source) (ht : d.tasks i = some t)
    (hphase : t.phase = .queued)
    (hordered : (d.setTask i (some { t with phase := .begun d.owner })).Ordered source)
    (hwellFormed : (d.setTask i (some { t with phase := .begun d.owner })).WellFormed)
    (hkeys : ∀ j u, d.tasks j = some u → u.phase.underWay = true →
      commandExecutionKey u.command ≠ commandExecutionKey t.command)
    (hnotice : ∀ r, lockedRuntime t.command = some r → NoNotice d r) :
    (d.setTask i (some { t with phase := .begun d.owner })).Overlapping source := by
  have hactive : ∀ j, (d.setTask i (some { t with phase := .begun d.owner })).active j =
      d.active j := active_setTask_of_idle ht (by rw [hphase]; rfl) rfl
  refine ⟨hordered, hwellFormed, fun j k u v hjk hu hv huw hvw => ?_,
    fun j u b r hu hb hr => ?_, fun e he r hr => ?_, fun e he r hr => ?_⟩
  · rcases tasks_setTask hu with ⟨hji, hu'⟩ | ⟨-, hu'⟩ <;>
      rcases tasks_setTask hv with ⟨hki, hv'⟩ | ⟨-, hv'⟩
    · exact absurd (hji.trans hki.symm) hjk
    · obtain rfl := Option.some.inj hu'
      exact Ne.symm (hkeys k v hv' hvw)
    · obtain rfl := Option.some.inj hv'
      exact hkeys j u hu' huw
    · exact h.keys j k u v hjk hu' hv' huw hvw
  · simp only [hactive]
    rcases tasks_setTask hu with ⟨hji, hu'⟩ | ⟨-, hu'⟩
    · obtain rfl := Option.some.inj hu'
      obtain rfl := Option.some.inj hb
      refine ⟨rfl, fun k hk e he her => ?_⟩
      -- a number held by another task is its own, under another key, or a notice
      obtain ⟨v, hv, hvw, -⟩ := underWay_of_active he
      rcases h.own_or_notice hv he with hown | hpayload
      · have hr' : lockedRuntime v.command = some r := hown.symm.trans her
        exact hkeys k v hv hvw ((key_of_lockedRuntime hr').trans (key_of_lockedRuntime hr).symm)
      · exact hnotice r hr k e he hpayload her
    · exact h.locked j u b r hu' hb hr
  · simp only [hactive]
    exact h.covered e he r hr
  · simp only [hactive]
    exact h.numbered e he r hr

/-- What a body numbers is held by nobody else. -/
theorem Daemon.Overlapping.unheld {baseline : NodeLocalState} {world : World}
    (h : d.Overlapping source) (ht : d.tasks i = some t) (hphase : t.phase = .begun baseline)
    (hapart : NoticesApart source d (.start i true world)) :
    ∀ e ∈ (handleCommand source world baseline d.drawn t.command).taken, ∀ r,
      e.runtimeSessionId = some r → Unheld d baseline r := by
  intro e he r hr
  have hidle : d.active i = [] := active_eq_nil ht (by rw [hphase]; rfl)
  by_cases hlocked : lockedRuntime t.command = some r
  · obtain ⟨heq, hother⟩ := h.locked i t baseline r ht (by rw [hphase]; rfl) hlocked
    refine ⟨heq, fun j e' he' => ?_⟩
    by_cases hji : j = i
    · subst hji
      rw [hidle] at he'
      cases he'
    · exact hother j hji e' he'
  · rcases taken_own_or_notice (h.wellFormed.matchesKind ht) e he with hown | hpayload
    · exact absurd (hown.symm.trans hr) hlocked
    · obtain ⟨heq, hnotice, hunlocked⟩ :=
        hapart t baseline _ (taking_start ht hphase) e he hpayload r hr hlocked
      refine ⟨heq, fun j e' he' her => ?_⟩
      obtain ⟨u, hu, huw, -⟩ := underWay_of_active he'
      have hji : j ≠ i := by
        rintro rfl
        rw [hidle] at he'
        cases he'
      rcases h.own_or_notice hu he' with hown | hpayload'
      · exact hunlocked j u hji hu huw (hown.symm.trans her)
      · exact hnotice j e' he' hpayload' her

/-- **A body starts.** -/
theorem Daemon.Overlapping.start {baseline : NodeLocalState} {world : World}
    (h : d.Overlapping source) (ht : d.tasks i = some t) (hphase : t.phase = .begun baseline)
    (hapart : NoticesApart source d (.start i true world)) :
    (d.started source i t baseline world).Overlapping source := by
  have hwellFormed := h.wellFormed.step (@StepCase.start source _ _ _ _ world ht hphase)
  have hunheld := h.unheld ht hphase hapart
  have hidle : d.active i = [] := active_eq_nil ht (by rw [hphase]; rfl)
  have hcovered : d.allocator.Covered EventEnvelope.runtimeSessionId EventEnvelope.seq := by
    rintro e r ⟨he | he, -⟩ hr
    · exact h.covered e he r hr
    · exact Or.inl (h.ordered.stored e he r hr)
  have hunshared : d.allocator.Unshared EventEnvelope.runtimeSessionId
      (handleCommand source world baseline d.drawn t.command).taken :=
    fun e he r hr => (hunheld e he r hr).unshared
  have hordered := h.ordered.start ht hphase (fun e he r hr => (hunheld e he r hr).snapshot)
    hunshared (hcovered.below hunshared)
  have hactive : ∀ j, (d.started source i t baseline world).active j =
      Function.update d.active i
        (handleCommand source world baseline d.drawn t.command).taken j :=
    fun j => active_setTask d i j _
  have hheld : ∀ e, (∃ j, e ∈ d.active j) → ∃ j, e ∈ (d.started source i t baseline world).active j
      := by
    rintro e ⟨j, hj⟩
    refine ⟨j, ?_⟩
    rw [hactive, Function.update_of_ne]
    · exact hj
    · rintro rfl
      rw [hidle] at hj
      cases hj
  refine ⟨hordered, hwellFormed, fun j k u v hjk hu hv huw hvw => ?_,
    fun j u b r hu hb hr => ?_, fun e he r hr => ?_, fun e he r hr => ?_⟩
  · have htw : t.phase.underWay = true := by
      rw [hphase]
      rfl
    rcases tasks_setTask hu with ⟨hji, hu'⟩ | ⟨-, hu'⟩ <;>
      rcases tasks_setTask hv with ⟨hki, hv'⟩ | ⟨-, hv'⟩
    · exact absurd (hji.trans hki.symm) hjk
    · subst hji
      obtain rfl := Option.some.inj hu'
      exact h.keys j k t v hjk ht hv' htw hvw
    · subst hki
      obtain rfl := Option.some.inj hv'
      exact h.keys j k u t hjk hu' ht huw htw
    · exact h.keys j k u v hjk hu' hv' huw hvw
  · simp only [hactive]
    rcases tasks_setTask hu with ⟨hji, hu'⟩ | ⟨hji, hu'⟩
    · subst hji
      obtain rfl := Option.some.inj hu'
      obtain rfl : baseline = b := Option.some.inj hb
      obtain ⟨heq, hother⟩ := h.locked j t baseline r ht (by rw [hphase]; rfl) hr
      refine ⟨heq, fun k hk e he => ?_⟩
      rw [Function.update_of_ne hk] at he
      exact hother k hk e he
    · obtain ⟨heq, hother⟩ := h.locked j u b r hu' hb hr
      refine ⟨heq, fun k hk e he her => ?_⟩
      by_cases hki : k = i
      · -- the new numbers are nobody's runtime
        subst hki
        rw [Function.update_self] at he
        have htw : t.phase.underWay = true := by
          rw [hphase]
          rfl
        have huw : u.phase.underWay = true := Option.isSome_iff_exists.mpr ⟨b, hb⟩
        have hne := h.lockedRuntime_ne hji hu' ht huw htw hr
        rcases taken_own_or_notice (h.wellFormed.matchesKind ht) e he with hown | hpayload
        · exact hne (hown.symm.trans her)
        · obtain ⟨-, -, hunlocked⟩ :=
            hapart t baseline _ (taking_start ht hphase) e he hpayload r her hne
          exact hunlocked j u hji hu' huw hr
      · rw [Function.update_of_ne hki] at he
        exact hother k hk e he her
  · have he' := (Daemon.sentEvents_put _ _).subst he
    rcases List.mem_append.mp he' with he | he
    · rcases h.covered e he r hr with hle | hheld'
      · exact Or.inl hle
      · exact Or.inr (hheld e hheld')
    · cases he
  · rcases List.mem_append.mp he with he | he
    · rcases h.numbered e he r hr with hle | hheld'
      · exact Or.inl hle
      · exact Or.inr (hheld e hheld')
    · refine Or.inr ⟨i, ?_⟩
      rw [hactive, Function.update_self]
      exact he

/-- **An execution's copy is merged.** -/
theorem Daemon.Overlapping.merge {baseline : NodeLocalState} {x : Execution}
    (h : d.Overlapping source) (ht : d.tasks i = some t)
    (hphase : t.phase = .executing baseline x [])
    (hwellFormed : (d.merged i t baseline x).WellFormed) :
    (d.merged i t baseline x).Overlapping source := by
  have hordered := h.ordered.merge ht hphase
  have hcount := h.ordered.merged_count ht hphase
  have hactive : ∀ j, (d.merged i t baseline x).active j = Function.update d.active i [] j :=
    fun j => active_setTask d i j _
  -- a number that was the store's or held still is
  have hkept : ∀ e r, e.runtimeSessionId = some r →
      (e.seq ≤ d.owner.runtimeSeqs.count r ∨ ∃ j, e ∈ d.active j) →
      e.seq ≤ (d.merged i t baseline x).owner.runtimeSeqs.count r ∨
        ∃ j, e ∈ (d.merged i t baseline x).active j := by
    intro e r hr he
    have hcr := hcount r
    rcases he with hle | ⟨j, hj⟩
    · exact Or.inl (by omega)
    · by_cases hji : j = i
      · subst hji
        rw [active_of_task ht, hphase] at hj
        have hle := (h.ordered.numbers ht hphase).numbered.le hj hr
        exact Or.inl (by omega)
      · refine Or.inr ⟨j, ?_⟩
        rw [hactive, Function.update_of_ne hji]
        exact hj
  refine ⟨hordered, hwellFormed, fun j k u v hjk hu hv huw hvw => ?_,
    fun j u b r hu hb hr => ?_, fun e he r hr => hkept e r hr (h.covered e he r hr),
    fun e he r hr => hkept e r hr (h.numbered e he r hr)⟩
  · rcases tasks_setTask hu with ⟨-, hu⟩ | ⟨-, hu⟩
    · obtain rfl := Option.some.inj hu
      cases huw
    · rcases tasks_setTask hv with ⟨-, hv⟩ | ⟨-, hv⟩
      · obtain rfl := Option.some.inj hv
        cases hvw
      · exact h.keys j k u v hjk hu hv huw hvw
  · simp only [hactive]
    rcases tasks_setTask hu with ⟨-, hu⟩ | ⟨hji, hu⟩
    · obtain rfl := Option.some.inj hu
      cases hb
    · obtain ⟨heq, hother⟩ := h.locked j u b r hu hb hr
      refine ⟨?_, fun k hk e he => ?_⟩
      · rw [h.ordered.merged_count_of_ne ht hphase (hother i (Ne.symm hji))]
        exact heq
      · by_cases hki : k = i
        · subst hki
          rw [Function.update_self] at he
          cases he
        · rw [Function.update_of_ne hki] at he
          exact hother k hk e he

/-- A task that neither starts nor ends an execution. -/
theorem Daemon.Overlapping.moveTask {task : Option DispatchTask} {frames : List ControlFrame}
    (h : d.Overlapping source) (ht : d.tasks i = some t)
    (hordered : ((d.setTask i task).put frames).Ordered source)
    (hwellFormed : ((d.setTask i task).put frames).WellFormed)
    (htaken : takenBy task = t.phase.taken)
    (htask : ∀ u, task = some u → u.command = t.command ∧
      ∀ b, u.phase.baseline? = some b → t.phase.baseline? = some b)
    (hframes : ∀ e ∈ frames.flatMap frameEvents, d.Stored e ∨ e ∈ t.phase.taken ∨
      OutsideRuntimes e) :
    ((d.setTask i task).put frames).Overlapping source := by
  refine h.frame hordered (fun _ => rfl) (fun j => ?_) (fun e he => ?_) hwellFormed
    (fun j u b hu hb => ?_) rfl
  · refine (active_setTask d i j task).trans ?_
    rw [htaken, ← active_of_task ht, Function.update_eq_self]
  · rw [Daemon.sentEvents_put] at he
    rcases List.mem_append.mp he with he | he
    · exact Or.inl he
    · rcases hframes e he with he | he | he
      · exact Or.inr (Or.inl he)
      · exact Or.inr (Or.inr (Or.inl ⟨i, by rwa [active_of_task ht]⟩))
      · exact Or.inr (Or.inr (Or.inr he))
  · rcases tasks_setTask hu with ⟨hji, hu'⟩ | ⟨-, hu'⟩
    · subst hji
      exact ⟨t, ht, (htask u hu').2 b hb, (htask u hu').1.symm⟩
    · exact ⟨u, hu', hb, rfl⟩

/-- **Every step of a run without aborts whose notices stay apart keeps the invariant.** -/
theorem Daemon.Overlapping.step {a : Action} (h : d.Overlapping source)
    (hfree : AbortFree d a) (hapart : NoticesApart source d a)
    (hstep : Node.step source d a = some d') : d'.Overlapping source := by
  have hc := step_cases hstep
  have hordered : d'.Ordered source :=
    h.ordered.step hc fun i t baseline world ha ht hphase => by
      subst ha
      exact (h.start ht hphase hapart).ordered
  have hwellFormed := h.wellFormed.step hc
  have hsame : ∀ {d'' : Daemon}, d''.tasks = d.tasks → ∀ j, d''.active j = d.active j := by
    intro d'' htasks j
    unfold Daemon.active
    rw [htasks]
  cases hc with
  | linked hl =>
    refine h.frame hordered (fun r => by rw [hl.owner]) (hsame hl.tasks) (fun e he => ?_)
      hwellFormed (fun j u b hu hb => ⟨u, by rwa [hl.tasks] at hu, hb, rfl⟩) hl.numbered
    rcases hl.sent e he with he | he
    · exact Or.inl he
    · exact Or.inr (Or.inl (Or.inr (Or.inl he)))
  | receive hadmits =>
    rename_i command dispatcher
    have hnone : d.tasks d.spawned = none := by
      cases htask : d.tasks d.spawned with
      | none => rfl
      | some u => exact absurd (h.wellFormed.occupied _ u htask) (Nat.lt_irrefl _)
    refine h.frame hordered (fun _ => rfl) (fun j => ?_) (fun e he => Or.inl he) hwellFormed
      (fun j u b hu hb => ?_) rfl
    · refine (active_setTask d d.spawned j _).trans ?_
      have hidle : d.active d.spawned = [] := by
        unfold Daemon.active
        rw [hnone]
        rfl
      show Function.update d.active d.spawned [] j = d.active j
      rw [← hidle, Function.update_eq_self]
    · rcases tasks_setTask hu with ⟨-, hu'⟩ | ⟨-, hu'⟩
      · obtain rfl := Option.some.inj hu'
        cases hb
      · exact ⟨u, hu', hb, rfl⟩
  | refuse hadmits =>
    refine h.frame hordered (fun _ => rfl) (hsame rfl) (fun e he => ?_) hwellFormed
      (fun j u b hu hb => ⟨u, hu, hb, rfl⟩) rfl
    rw [Daemon.sentEvents_put] at he
    rcases List.mem_append.mp he with he | he
    · exact Or.inl he
    · cases he
  | begin ht hphase _ => exact h.begin ht hphase hordered hwellFormed (hfree _ ht) (hapart _ ht)
  | start ht hphase => exact h.start ht hphase hapart
  | emit ht hphase =>
    rename_i i t baseline x event live queued
    refine h.moveTask ht hordered hwellFormed (by rw [hphase]; rfl) (fun u hu => ?_) fun e he => ?_
    · obtain rfl := Option.some.inj hu
      exact ⟨rfl, fun b hb => by rw [hphase]; exact hb⟩
    · cases queued with
      | false => cases he
      | true =>
        obtain rfl : e = event := by simpa [frameEvents] using he
        have hlive := ((h.ordered.tasks i t ht).execution _ _ _ hphase).1 List.mem_cons_self
        rcases (h.ordered.numbers ht hphase).live e hlive with he | he
        · exact Or.inr (Or.inl (by rw [hphase]; exact he))
        · exact Or.inr (Or.inr he)
  | merge ht hphase _ => exact h.merge ht hphase hwellFormed
  | handle ht hphase hchanged =>
    rename_i i t baseline x
    obtain ⟨-, world, drawn, hx⟩ := (h.ordered.tasks i t ht).execution _ _ _ hphase
    have hreplays : Replays baseline x := by
      rw [hx] at hchanged ⊢
      exact replays_of_unchanged hchanged
    rw [← Daemon.put_nil (d.setTask i _)] at hordered hwellFormed ⊢
    refine h.moveTask ht hordered hwellFormed ?_ (fun u hu => ?_) fun e he => (by cases he)
    · rw [hphase]
      exact hreplays.taken.symm
    · obtain rfl := Option.some.inj hu
      exact ⟨rfl, fun b hb => (by cases hb)⟩
  | deliver ht hphase =>
    rename_i i t batch batches status payload
    refine h.moveTask ht hordered hwellFormed (by rw [hphase]; rfl) (fun u hu => ?_) fun e he => ?_
    · obtain rfl := Option.some.inj hu
      exact ⟨rfl, fun b hb => (by cases hb)⟩
    · refine Or.inl (stored_of_task ht ?_)
      rw [hphase]
      exact List.mem_append_left _ (by simpa [frameEvents] using he)
  | ended ht htaken hframes =>
    rename_i i t frames
    have hidle : t.phase.taken = [] := by
      rcases htaken with hidle | rfl
      · exact hidle
      · exact absurd hfree id
    refine h.moveTask ht hordered hwellFormed hidle.symm (fun u hu => by cases hu) fun e he => ?_
    rw [hframes] at he
    cases he
  | mutate hmerge =>
    rename_i mutation
    obtain ⟨hseqs, -, -⟩ := mutate_keeps d.owner hmerge
    refine h.frame hordered (fun r => ?_) (hsame rfl) (fun e he => Or.inl he) hwellFormed
      (fun j u b hu hb => ⟨u, hu, hb, rfl⟩) rfl
    show (applyNodeStateMutation d.owner mutation).runtimeSeqs.count r = _
    rw [hseqs]
  | restart => exact absurd hfree id

theorem overlapping_start : (Daemon.start {}).Overlapping source where
  ordered := ordered_start
  wellFormed := wellFormed_start {}
  keys i j t u _ ht := by cases ht
  locked i t b r ht := by cases ht
  covered e he := by cases he
  numbered e he := by cases he

/-! ## 3. Numbers of overlapping executions -/

/-- No two events of one runtime session carry one number. -/
def UniqueSeqs (events : List EventEnvelope) : Prop :=
  ∀ e ∈ events, ∀ e' ∈ events, ∀ r, e.runtimeSessionId = some r → e'.runtimeSessionId = some r →
    e.seq = e'.seq → e.eventId = e'.eventId

/-- **Over any run without aborts whose notices stay apart, however its executions overlap and in
    whatever order they are merged: no two events of the outbox and of the channel carry one
    number of one runtime, and the store's counter is at or above every number ever taken that no
    execution under way still holds.** -/
theorem overlappingNumbers_unique {as : List Action}
    (hrun : run (step source) (Daemon.start {}) as = some d)
    (hfree : Meets (step source) AbortFree (Daemon.start {}) as)
    (hapart : Meets (step source) (NoticesApart source) (Daemon.start {}) as) :
    UniqueSeqs (d.owner.eventOutbox ++ d.sentEvents) ∧
      ∀ e ∈ d.numbered, ∀ r, e.runtimeSessionId = some r →
        e.seq ≤ d.owner.runtimeSeqs.count r ∨ ∃ i, e ∈ d.active i := by
  have h : d.Overlapping source :=
    run_inv_of_meets (Daemon.Overlapping source)
      (fun _ _ _ h hC hstep => h.step hC.1 hC.2 hstep) overlapping_start (hfree.and hapart) hrun
  have hout : ∀ e ∈ d.owner.eventOutbox ++ d.sentEvents, e ∈ d.sentEvents ∨ d.Stored e := by
    intro e he
    rcases List.mem_append.mp he with he | he
    · exact Or.inr (Or.inl he)
    · exact Or.inl he
  refine ⟨fun e he e' he' r hr hr' hseq => ?_, h.numbered⟩
  have hsame := h.ordered.sound.unique e e' r (Or.inl ⟨hout e he, r, hr⟩)
    (Or.inl ⟨hout e' he', r, hr'⟩) hr hr' hseq
  rw [hsame]

/-! ## 4. A notice that overlaps a turn -/

/-- The first two events of the process are a week older than the others. -/
def weekSource : EventSource :=
  ⟨fun n => "e" ++ toString n, fun n => if n < 2 then 0 else 700000⟩

/-- The outside a week later. -/
def weekLater : World :=
  { quietWorld with limits := { encodedLen := fun _ => 100, now := 700000 } }

/-- Another runtime is stopped. -/
def stopRuntimeCommand : CommandEnvelope where
  commandId := "c2"
  kind := .stopRuntime
  target := .sessionRuntime "n1" "p1" "s2" "r2"
  actorRef := .localUser none
  issuedAt := 1
  correlationId := "k2"
  payload := .stopRuntime

/-- The events of the start of `r1` were not acknowledged for a week. A turn of `r1` runs, and
    meanwhile `r2` is stopped: its execution drops them and leaves a notice. -/
def noticeOverlaps : List Action :=
  runtimeStarted ++
    [.receive sendTurnCommand, .begin 1, .start 1 true weekLater, .emit 1 true,
      .receive stopRuntimeCommand, .begin 2, .start 2 true weekLater, .persist 2, .deliver 2 true]

/-- Two events with one number of one runtime and different ids. -/
theorem not_uniqueSeqs {events : List EventEnvelope}
    {labels : List (EventId × Option RuntimeSessionId × Int)} {id id' : EventId}
    {r : RuntimeSessionId} {n : Int}
    (hlabels : events.map (fun e => (e.eventId, e.runtimeSessionId, e.seq)) = labels)
    (h : (id, some r, n) ∈ labels) (h' : (id', some r, n) ∈ labels) (hne : id ≠ id') :
    ¬ UniqueSeqs events := by
  intro hunique
  rw [← hlabels] at h h'
  obtain ⟨e, he, hlabel⟩ := List.mem_map.mp h
  obtain ⟨e', he', hlabel'⟩ := List.mem_map.mp h'
  obtain ⟨hid, hlabel⟩ := Prod.mk.inj hlabel
  obtain ⟨hid', hlabel'⟩ := Prod.mk.inj hlabel'
  obtain ⟨hr, hseq⟩ := Prod.mk.inj hlabel
  obtain ⟨hr', hseq'⟩ := Prod.mk.inj hlabel'
  refine hne ?_
  rw [← hid, ← hid']
  exact hunique e he e' he' r hr hr' (hseq.trans hseq'.symm)

/-- `AbortFree`, checked. -/
def abortFree (d : Daemon) : Action → Bool
  | .stop _ | .restart => false
  | .begin i => (d.tasks i).all fun t => d.allTasks fun _ u =>
      !u.phase.underWay || commandExecutionKey u.command != commandExecutionKey t.command
  | _ => true

theorem abortFree_check {a : Action} (h : d.WellFormed) (hc : abortFree d a = true) :
    AbortFree d a := by
  cases a with
  | stop i => cases hc
  | restart => cases hc
  | begin i =>
    intro t ht j u hu huw
    rw [abortFree, ht] at hc
    have hne := h.of_allTasks hc hu
    simpa [huw] using hne
  | _ => trivial

def noNotice (d : Daemon) (r : RuntimeSessionId) : Bool :=
  d.allTasks fun _ u => u.phase.taken.all fun e =>
    e.payload != retentionExceeded || e.runtimeSessionId != some r

theorem noNotice_check {r : RuntimeSessionId} (h : d.WellFormed) (hc : noNotice d r = true) :
    NoNotice d r := by
  intro i e he hpayload
  obtain ⟨u, hu, -, he'⟩ := underWay_of_active he
  have hne := List.all_eq_true.mp (h.of_allTasks hc hu) e he'
  simpa [hpayload] using hne

/-- `NoticesApart`, checked. -/
def noticesApart (source : EventSource) (d : Daemon) : Action → Bool
  | .begin i => (d.tasks i).all fun t => (lockedRuntime t.command).all (noNotice d)
  | .start i acknowledged world =>
    (d.taking source (.start i acknowledged world)).all fun (t, baseline, taken) =>
      taken.all fun e => e.payload != retentionExceeded || e.runtimeSessionId.all fun r =>
        lockedRuntime t.command == some r ||
          (baseline.runtimeSeqs.count r == d.owner.runtimeSeqs.count r && noNotice d r &&
            d.allTasks fun j u => j == i || !u.phase.underWay || lockedRuntime u.command != some r)
  | _ => true

theorem noticesApart_check {a : Action} (h : d.WellFormed)
    (hc : noticesApart source d a = true) : NoticesApart source d a := by
  cases a with
  | begin i =>
    intro t ht r hr
    rw [noticesApart, ht] at hc
    have hc' : (lockedRuntime t.command).all (noNotice d) = true := hc
    rw [hr] at hc'
    exact noNotice_check h hc'
  | start i acknowledged world =>
    intro t baseline taken ht e he hpayload r hr hlocked
    rw [noticesApart, ht] at hc
    have hfree := List.all_eq_true.mp hc e he
    rw [hr] at hfree
    simp only [hpayload, bne_self_eq_false, Bool.false_or, Option.all_some, Bool.or_eq_true,
      Bool.and_eq_true, beq_iff_eq, hlocked, false_or] at hfree
    obtain ⟨⟨heq, hnotice⟩, htasks⟩ := hfree
    refine ⟨heq, noNotice_check h hnotice, fun j u hji hu huw => ?_⟩
    have hne := h.of_allTasks htasks hu
    simpa [hji, huw] using hne
  | _ => trivial

/-- The turn's first event and the notice carry one number; nothing is aborted. -/
theorem noticeOverlaps_repeats :
    Meets (step weekSource) AbortFree (Daemon.start {}) noticeOverlaps ∧
      ∃ d, run (step weekSource) (Daemon.start {}) noticeOverlaps = some d ∧
        ¬ UniqueSeqs (d.owner.eventOutbox ++ d.sentEvents) := by
  have hlabels : (run (step weekSource) (Daemon.start {}) noticeOverlaps).map
      (fun d => (d.owner.eventOutbox ++ d.sentEvents).map
        fun e => (e.eventId, e.runtimeSessionId, e.seq)) =
      some [("e0", some "r1", 1), ("e1", some "r1", 2), ("e8", some "r2", 1),
        ("e9", some "r1", 3), ("e0", some "r1", 1), ("e1", some "r1", 2), ("e2", some "r1", 3),
        ("e8", some "r2", 1), ("e9", some "r1", 3)] := by
    decide
  have hcheck : check (step weekSource) abortFree (Daemon.start {}) noticeOverlaps = true := by
    decide
  refine ⟨meets_of_check Daemon.WellFormed (fun _ _ _ => wellFormed_step)
    (fun _ _ => abortFree_check) (wellFormed_start {}) hcheck, ?_⟩
  obtain ⟨d, hd, hlabels⟩ := Option.map_eq_some_iff.mp hlabels
  refine ⟨d, hd, @not_uniqueSeqs _ _ "e2" "e9" "r1" 3 hlabels ?_ ?_ ?_⟩
  · decide
  · decide
  · decide

/-- The same two commands before anything is a week old. -/
theorem overlappingNumbers_unique_inTime :
    let as := runtimeStarted ++
      [.receive sendTurnCommand, .begin 1, .start 1 true quietWorld, .emit 1 true,
        .receive stopRuntimeCommand, .begin 2, .start 2 true quietWorld, .persist 2, .deliver 2 true]
    ∃ d, run (step countedSource) (Daemon.start {}) as = some d ∧
      UniqueSeqs (d.owner.eventOutbox ++ d.sentEvents) ∧
      ∀ e ∈ d.numbered, ∀ r, e.runtimeSessionId = some r →
        e.seq ≤ d.owner.runtimeSeqs.count r ∨ ∃ i, e ∈ d.active i := by
  intro as
  have hfree : check (step countedSource) abortFree (Daemon.start {}) as = true := by decide
  have hapart : check (step countedSource) (noticesApart countedSource) (Daemon.start {}) as =
      true := by decide
  have hrun : (run (step countedSource) (Daemon.start {}) as).isSome = true := by decide
  obtain ⟨d, hd⟩ := Option.isSome_iff_exists.mp hrun
  refine ⟨d, hd, overlappingNumbers_unique hd ?_ ?_⟩
  · exact meets_of_check Daemon.WellFormed (fun _ _ _ => wellFormed_step)
      (fun _ _ => abortFree_check) (wellFormed_start {}) hfree
  · exact meets_of_check Daemon.WellFormed (fun _ _ _ => wellFormed_step)
      (fun _ _ => noticesApart_check) (wellFormed_start {}) hapart

end Uprava.Node
