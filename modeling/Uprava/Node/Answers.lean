/-
  File:      Uprava/Node/Answers.lean
  Subject:   The results the Node sends of a command, beside the outcome of its execution: the
             answer of a full queue, the answer of a task, and the answers of later deliveries.

  A command that finds the queue full, or its dispatcher gone, is answered as failed by the read
  loop, which does not look at what is queued, running or stored. The other answers are those of
  tasks: of the one that executes the command, or of one that finds its status in the store. They
  agree when no command is refused beside a delivery of it, none is accepted that was refused
  (`AnswersApart`), and each is executed once.
-/
import Uprava.Node.AtMostOnce
import Uprava.Node.Merge
import Uprava.Node.Replay

namespace Uprava.Node

open Uprava.Protocol
open Uprava.Lib (Assoc run Meets run_inv_of_meets check meets_of_check)

variable {source : EventSource} {d d' : Daemon}

/-! ## 1. Results that were sent, and outcomes -/

/-- The command and the status of a result frame. -/
def frameResult : ControlFrame → Option (CommandId × CommandState)
  | .commandResult commandId status _ => some (commandId, status)
  | _ => none

/-- The results the daemon put on the channel. -/
def Daemon.results (d : Daemon) : List (CommandId × CommandState) := d.sent.filterMap frameResult

/-- The outcome an action hands to the store: that of the command whose execution it ends. -/
def Daemon.outcome (d : Daemon) : Action → List (CommandId × CommandState)
  | .persist i =>
    match d.tasks i with
    | some ⟨_, command, .executing _ x []⟩ =>
      if x.outcome.stateChanged then [(command.commandId, x.outcome.status)] else []
    | _ => []
  | _ => []

def Action.refused : Action → List CommandId
  | .refuse command _ => [command.commandId]
  | _ => []

/-- The daemon, with the outcomes of the executions and the commands that were refused so far. -/
structure Answering where
  daemon : Daemon
  outcomes : List (CommandId × CommandState)
  refused : List CommandId

/-- A daemon that has loaded a state: what the state has a status of was executed before. -/
def Answering.start (loaded : NodeLocalState) : Answering where
  daemon := Daemon.start loaded
  outcomes := loaded.commandStatus.entries.map fun e => (e.1, e.2)
  refused := []

def Answering.step (source : EventSource) (s : Answering) (a : Action) : Option Answering :=
  (Node.step source s.daemon a).map fun d =>
    ⟨d, s.outcomes ++ s.daemon.outcome a, s.refused ++ a.refused⟩

/-- **No result contradicts an outcome of its command.** -/
def Answering.Consistent (s : Answering) : Prop :=
  ∀ id status outcome, (id, status) ∈ s.daemon.results → (id, outcome) ∈ s.outcomes →
    status = outcome

/-- **The condition on a step**: no delivery of a command is refused while another is queued,
    running or has an outcome that is no failure; no command is accepted that was refused; and a
    command is executed once: no two dispatchers have it under way, and no restart forgets it. -/
def AnswersApart (s : Answering) (a : Action) : Prop :=
  SnapshotAlone s.daemon a ∧
    match a with
    | .refuse command _ =>
      (∀ i t, s.daemon.tasks i = some t → t.command.commandId ≠ command.commandId) ∧
        ∀ outcome, (command.commandId, outcome) ∈ s.outcomes → outcome = .failed
    | .receive command => command.commandId ∉ s.refused
    | .restart => s.daemon.owner.commandStatus.keys.length ≤ maxRetainedCommands
    | _ => True

/-! ## 2. Which results a step sends -/

theorem Daemon.results_put (d : Daemon) (frames : List ControlFrame) :
    (d.put frames).results = d.results ++ frames.filterMap frameResult :=
  List.filterMap_append

/-- Frames without a result. -/
theorem results_put_of_none {frames : List ControlFrame}
    (h : frames.filterMap frameResult = []) : (d.put frames).results = d.results := by
  rw [Daemon.results_put, h, List.append_nil]

/-- **A step sends the refusal of its command, or the status of the task that ends, or nothing.** -/
theorem results_step {a : Action} (h : step source d a = some d') {r : CommandId × CommandState}
    (hr : r ∈ d'.results) :
    r ∈ d.results ∨ (r.1 ∈ a.refused ∧ r.2 = .failed) ∨
      ∃ i t batches payload, d.tasks i = some t ∧ t.phase = .delivering batches r.2 payload ∧
        t.command.commandId = r.1 := by
  cases a with
  | dial =>
    rw [step] at h
    split at h
    · obtain rfl := Option.some.inj h
      exact Or.inl hr
    · cases h
  | connect =>
    rw [step] at h
    split at h
    · obtain rfl := Option.some.inj h
      rw [results_put_of_none rfl] at hr
      exact Or.inl hr
    · cases h
  | replay queued =>
    rw [step] at h
    split at h
    · split at h
      · obtain rfl := Option.some.inj h
        rw [results_put_of_none rfl] at hr
        exact Or.inl hr
      · obtain rfl := Option.some.inj h
        exact Or.inl hr
    · cases h
  | receive command =>
    rw [step] at h
    split at h
    · split at h
      · obtain rfl := Option.some.inj h
        exact Or.inl hr
      · cases h
    · cases h
  | refuse command closed =>
    rw [step] at h
    split at h
    · split at h
      · obtain rfl := Option.some.inj h
        rw [Daemon.results_put] at hr
        rcases List.mem_append.mp hr with hr | hr
        · exact Or.inl hr
        · obtain rfl : (command.commandId, CommandState.failed) = r := by
            simpa [dispatchErrorFrames, frameResult] using hr
          exact Or.inr (Or.inl ⟨List.mem_singleton_self _, rfl⟩)
      · cases h
    · cases h
  | close =>
    rw [step] at h
    split at h
    · obtain rfl := Option.some.inj h
      exact Or.inl hr
    · cases h
  | fail =>
    rw [step] at h
    split at h
    · cases h
    · obtain rfl := Option.some.inj h
      exact Or.inl hr
  | begin i =>
    obtain ⟨t, -, h⟩ := Daemon.move_eq_some h
    obtain ⟨-, -, rfl⟩ := Daemon.begin_eq_some h
    exact Or.inl hr
  | start i acknowledged world =>
    obtain ⟨t, -, h⟩ := Daemon.move_eq_some h
    obtain ⟨baseline, -, ⟨-, rfl⟩ | ⟨-, rfl⟩⟩ := Daemon.startTask_eq_some h
    · refine Or.inl ?_
      have hr' : r ∈ ((d.setTask i _).put
          [.commandAck t.command.commandId .acknowledged]).results := hr
      rwa [results_put_of_none rfl] at hr'
    · exact Or.inl hr
  | emit i queued =>
    obtain ⟨t, -, h⟩ := Daemon.move_eq_some h
    obtain ⟨baseline, x, event, live, -, rfl⟩ := Daemon.emit_eq_some h
    rw [results_put_of_none (by cases queued <;> rfl)] at hr
    exact Or.inl hr
  | persist i =>
    obtain ⟨t, -, h⟩ := Daemon.move_eq_some h
    obtain ⟨baseline, x, -, ⟨-, rfl⟩ | ⟨-, rfl⟩⟩ := Daemon.persist_eq_some h
    · exact Or.inl hr
    · exact Or.inl hr
  | deliver i queued =>
    obtain ⟨t, -, h⟩ := Daemon.move_eq_some h
    obtain ⟨batch, batches, status, payload, -, ⟨-, rfl⟩ | rfl⟩ := Daemon.deliver_eq_some h
    · rw [results_put_of_none rfl] at hr
      exact Or.inl hr
    · exact Or.inl hr
  | result i queued =>
    obtain ⟨t, ht, h⟩ := Daemon.move_eq_some h
    obtain ⟨status, payload, hphase, rfl⟩ := Daemon.result_eq_some h
    rw [Daemon.results_put] at hr
    rcases List.mem_append.mp hr with hr | hr
    · exact Or.inl hr
    · cases queued with
      | false => cases hr
      | true =>
        obtain rfl : (t.command.commandId, status) = r := by
          simpa [frameResult, eq_comm] using hr
        exact Or.inr (Or.inr ⟨i, t, [], payload, ht, hphase, rfl⟩)
  | stop i =>
    obtain ⟨t, -, h⟩ := Daemon.move_eq_some h
    split at h
    · obtain rfl := Option.some.inj h
      exact Or.inl hr
    · cases h
  | mutate mutation =>
    rw [step] at h
    split at h
    · cases h
    · obtain rfl := Option.some.inj h
      exact Or.inl hr
  | restart =>
    obtain rfl := Option.some.inj h
    exact Or.inl hr

/-! ## 3. What a step does to the tasks -/

/-- What a task may come from: it moved on from a task of the same command. -/
structure TaskFrom (owner : NodeLocalState) (t u : DispatchTask) : Prop where
  command : u.command = t.command
  baseline : ∀ b, u.phase.baseline? = some b → t.phase.baseline? = some b ∨ b = owner
  delivering : ∀ batches status payload, u.phase = .delivering batches status payload →
    (∃ batches', t.phase = .delivering batches' status payload) ∨
      ∃ b x, t.phase = .executing b x [] ∧ x.outcome.stateChanged = false ∧
        x.outcome.status = status

theorem TaskFrom.refl (owner : NodeLocalState) (t : DispatchTask) : TaskFrom owner t t :=
  ⟨rfl, fun _ hb => Or.inl hb, fun batches _ _ h => Or.inl ⟨batches, h⟩⟩

/-- A step that hands no outcome to the store. -/
structure Moves (d : Daemon) (a : Action) (d' : Daemon) : Prop where
  outcome : d.outcome a = []
  status : ∀ id, d'.owner.commandStatus.lookup id = d.owner.commandStatus.lookup id
  tasks : ∀ j u, d'.tasks j = some u → (a = .receive u.command ∧ u.phase = .queued) ∨
    ∃ t, d.tasks j = some t ∧ TaskFrom d.owner t u

theorem moves_of_eq {a : Action} (houtcome : d.outcome a = []) (howner : d'.owner = d.owner)
    (htasks : d'.tasks = d.tasks) : Moves d a d' := by
  refine ⟨houtcome, fun id => by rw [howner], fun j u hu => Or.inr ⟨u, ?_, .refl _ u⟩⟩
  rwa [htasks] at hu

/-- A task moves on, or is gone. -/
theorem moves_of_task {a : Action} {i : Nat} {t : DispatchTask} {task : Option DispatchTask}
    {frames : List ControlFrame} (houtcome : d.outcome a = []) (ht : d.tasks i = some t)
    (htask : ∀ u, task = some u → TaskFrom d.owner t u) :
    Moves d a ((d.setTask i task).put frames) := by
  refine ⟨houtcome, fun _ => rfl, fun j u hu => Or.inr ?_⟩
  rcases tasks_setTask hu with ⟨rfl, hu'⟩ | ⟨-, hu'⟩
  · exact ⟨t, ht, htask u hu'⟩
  · exact ⟨u, hu', .refl _ u⟩

/-- **A step hands the outcome of a task to the store, or it hands none.** -/
theorem merged_or_moves {a : Action} (h : step source d a = some d')
    (hrestart : a = .restart → d.owner.commandStatus.keys.length ≤ maxRetainedCommands) :
    (∃ i t baseline x, a = .persist i ∧ d.tasks i = some t ∧ t.phase = .executing baseline x [] ∧
        x.outcome.stateChanged = true ∧ d' = d.merged i t baseline x ∧
          d.outcome a = [(t.command.commandId, x.outcome.status)]) ∨ Moves d a d' := by
  cases a with
  | dial =>
    rw [step] at h
    split at h
    · obtain rfl := Option.some.inj h
      exact Or.inr (moves_of_eq rfl rfl rfl)
    · cases h
  | connect =>
    rw [step] at h
    split at h
    · obtain rfl := Option.some.inj h
      exact Or.inr (moves_of_eq rfl rfl rfl)
    · cases h
  | replay queued =>
    rw [step] at h
    split at h
    · split at h
      · obtain rfl := Option.some.inj h
        exact Or.inr (moves_of_eq rfl rfl rfl)
      · obtain rfl := Option.some.inj h
        exact Or.inr (moves_of_eq rfl rfl rfl)
    · cases h
  | receive command =>
    rw [step] at h
    split at h
    · split at h
      · obtain rfl := Option.some.inj h
        refine Or.inr ⟨rfl, fun _ => rfl, fun j u hu => ?_⟩
        rcases tasks_setTask hu with ⟨-, hu'⟩ | ⟨-, hu'⟩
        · obtain rfl := Option.some.inj hu'
          exact Or.inl ⟨rfl, rfl⟩
        · exact Or.inr ⟨u, hu', .refl _ u⟩
      · cases h
    · cases h
  | refuse command closed =>
    rw [step] at h
    split at h
    · split at h
      · obtain rfl := Option.some.inj h
        exact Or.inr (moves_of_eq rfl rfl rfl)
      · cases h
    · cases h
  | close =>
    rw [step] at h
    split at h
    · obtain rfl := Option.some.inj h
      exact Or.inr (moves_of_eq rfl rfl rfl)
    · cases h
  | fail =>
    rw [step] at h
    split at h
    · cases h
    · obtain rfl := Option.some.inj h
      exact Or.inr (moves_of_eq rfl rfl rfl)
  | begin i =>
    obtain ⟨t, ht, h⟩ := Daemon.move_eq_some h
    obtain ⟨-, -, rfl⟩ := Daemon.begin_eq_some h
    rw [← Daemon.put_nil (d.setTask i _)]
    refine Or.inr (moves_of_task rfl ht fun u hu => ?_)
    obtain rfl := Option.some.inj hu
    exact ⟨rfl, fun b hb => Or.inr (Option.some.inj hb).symm, fun _ _ _ h => by cases h⟩
  | start i acknowledged world =>
    obtain ⟨t, ht, h⟩ := Daemon.move_eq_some h
    obtain ⟨baseline, hphase, ⟨-, rfl⟩ | ⟨-, rfl⟩⟩ := Daemon.startTask_eq_some h
    · refine Or.inr ⟨rfl, fun _ => rfl, fun j u hu => Or.inr ?_⟩
      rcases tasks_setTask hu with ⟨rfl, hu'⟩ | ⟨-, hu'⟩
      · obtain rfl := Option.some.inj hu'
        refine ⟨t, ht, rfl, fun b hb => Or.inl ?_, fun _ _ _ h => by cases h⟩
        rw [hphase]
        exact hb
      · exact ⟨u, hu', .refl _ u⟩
    · rw [← Daemon.put_nil (d.setTask i _)]
      exact Or.inr (moves_of_task rfl ht fun u hu => by cases hu)
  | emit i queued =>
    obtain ⟨t, ht, h⟩ := Daemon.move_eq_some h
    obtain ⟨baseline, x, event, live, hphase, rfl⟩ := Daemon.emit_eq_some h
    refine Or.inr (moves_of_task rfl ht fun u hu => ?_)
    obtain rfl := Option.some.inj hu
    refine ⟨rfl, fun b hb => Or.inl ?_, fun _ _ _ h => by cases h⟩
    rw [hphase]
    exact hb
  | persist i =>
    obtain ⟨t, ht, h⟩ := Daemon.move_eq_some h
    obtain ⟨baseline, x, hphase, h⟩ := Daemon.persist_eq_some h
    obtain ⟨dispatcher, command, phase⟩ := t
    obtain rfl : phase = .executing baseline x [] := hphase
    have houtcome : d.outcome (.persist i) =
        if x.outcome.stateChanged then [(command.commandId, x.outcome.status)] else [] := by
      unfold Daemon.outcome
      simp only [ht]
    rcases h with ⟨hchanged, rfl⟩ | ⟨hchanged, rfl⟩
    · exact Or.inl ⟨i, _, baseline, x, rfl, ht, rfl, hchanged, rfl,
        houtcome.trans (if_pos hchanged)⟩
    · rw [← Daemon.put_nil (d.setTask i _)]
      refine Or.inr (moves_of_task (houtcome.trans (by simp [hchanged])) ht fun u hu => ?_)
      obtain rfl := Option.some.inj hu
      refine ⟨rfl, fun b hb => (by cases hb), fun batches status payload h => Or.inr ?_⟩
      obtain ⟨-, hstatus, -⟩ := TaskPhase.delivering.inj h
      exact ⟨baseline, x, rfl, hchanged, hstatus⟩
  | deliver i queued =>
    obtain ⟨t, ht, h⟩ := Daemon.move_eq_some h
    obtain ⟨batch, batches, status, payload, hphase, ⟨-, rfl⟩ | rfl⟩ := Daemon.deliver_eq_some h
    · refine Or.inr (moves_of_task rfl ht fun u hu => ?_)
      obtain rfl := Option.some.inj hu
      refine ⟨rfl, fun b hb => (by cases hb), fun batches' status' payload' h => Or.inl ?_⟩
      obtain ⟨-, rfl, rfl⟩ := TaskPhase.delivering.inj h
      exact ⟨_, hphase⟩
    · rw [← Daemon.put_nil (d.setTask i _)]
      exact Or.inr (moves_of_task rfl ht fun u hu => by cases hu)
  | result i queued =>
    obtain ⟨t, ht, h⟩ := Daemon.move_eq_some h
    obtain ⟨status, payload, -, rfl⟩ := Daemon.result_eq_some h
    exact Or.inr (moves_of_task rfl ht fun u hu => by cases hu)
  | stop i =>
    obtain ⟨t, ht, h⟩ := Daemon.move_eq_some h
    split at h
    · obtain rfl := Option.some.inj h
      rw [← Daemon.put_nil (d.setTask i _)]
      exact Or.inr (moves_of_task rfl ht fun u hu => by cases hu)
    · cases h
  | mutate mutation =>
    rw [step] at h
    split at h
    · cases h
    · rename_i hmerge
      obtain rfl := Option.some.inj h
      obtain ⟨-, hstatus, -⟩ := @mutate_keeps d.owner mutation (by simpa using hmerge)
      refine Or.inr ⟨rfl, fun id => ?_, fun j u hu => Or.inr ⟨u, hu, .refl _ u⟩⟩
      rw [hstatus]
  | restart =>
    obtain rfl := Option.some.inj h
    exact Or.inr ⟨rfl, lookup_reload_commandStatus (hrestart rfl), fun j u hu => by cases hu⟩

/-! ## 4. The invariant -/

/-- **The outcomes are the statuses of the store**, so are those of a snapshot for its command,
    what a task delivers is an outcome, and so is every result but those of refused commands. -/
structure Answering.Sound (source : EventSource) (s : Answering) : Prop where
  once : s.daemon.Once source
  recorded : ∀ id status, (id, status) ∈ s.outcomes ↔
    s.daemon.owner.commandStatus.lookup id = some status
  snapshot : ∀ i t b, s.daemon.tasks i = some t → t.phase.baseline? = some b → ∀ status,
    (t.command.commandId, status) ∈ s.outcomes ↔
      b.commandStatus.lookup t.command.commandId = some status
  delivering : ∀ i t batches status payload, s.daemon.tasks i = some t →
    t.phase = .delivering batches status payload → (t.command.commandId, status) ∈ s.outcomes
  refused : ∀ id ∈ s.refused, (∀ i t, s.daemon.tasks i = some t → t.command.commandId ≠ id) ∧
    ∀ outcome, (id, outcome) ∈ s.outcomes → outcome = .failed
  sent : ∀ r ∈ s.daemon.results, r ∈ s.outcomes ∨ r.1 ∈ s.refused ∧ r.2 = .failed

theorem Answering.Sound.consistent {s : Answering} (h : s.Sound source) : s.Consistent := by
  intro id status outcome hsent houtcome
  rcases h.sent _ hsent with hsent | ⟨hrefused, hfailed⟩
  · have hstatus := (h.recorded id status).mp hsent
    have hrecorded := (h.recorded id outcome).mp houtcome
    exact Option.some.inj (hstatus.symm.trans hrecorded)
  · exact hfailed.trans ((h.refused id hrefused).2 outcome houtcome).symm

/-- Once is kept by a restart that forgets nothing. -/
theorem once_step {a : Action} (h : d.Once source) (halone : SnapshotAlone d a)
    (hrestart : a = .restart → d.owner.commandStatus.keys.length ≤ maxRetainedCommands)
    (hstep : step source d a = some d') : d'.Once source := by
  by_cases ha : a = .restart
  · subst ha
    have hwellFormed := wellFormed_step h.wellFormed hstep
    obtain rfl := Option.some.inj hstep
    refine ⟨hwellFormed, fun _ _ _ _ _ ht => (by cases ht), fun id hid => ?_,
      fun _ _ _ ht => (by cases ht), fun _ _ _ _ _ ht => (by cases ht)⟩
    show d.owner.reload.commandStatus.lookup id ≠ none
    rw [lookup_reload_commandStatus (hrestart rfl)]
    exact h.known id hid
  · exact h.step halone ha hstep

/-- The answer of a delivery that does not execute its command is the status of its snapshot. -/
theorem status_of_unchanged {world : World} {b : NodeLocalState} {drawn : Nat}
    {command : CommandEnvelope} (hmatch : command.payload.matchesKind command.kind = true)
    (h : (handleCommand source world b drawn command).outcome.stateChanged = false) :
    b.commandStatus.lookup command.commandId =
      some (handleCommand source world b drawn command).outcome.status := by
  cases hstatus : b.commandStatus.lookup command.commandId with
  | some status =>
    rw [handleCommand_of_status hstatus, if_pos hmatch]
    rfl
  | none =>
    rcases (@handleCommand_cases source world) b drawn command with
      ⟨-, hruns, haccess⟩ | hrecords
    · simp [runsBody, haccess, hmatch, hstatus] at hruns
    · rw [hrecords.1.changed] at h
      cases h

/-! ## 5. A step, and a run -/

/-- An outcome is handed to the store: there was none of its command before. -/
theorem Answering.Sound.merged {s : Answering} (h : s.Sound source) {i : Nat} {t : DispatchTask}
    {baseline : NodeLocalState} {x : Execution} (ht : s.daemon.tasks i = some t)
    (hphase : t.phase = .executing baseline x []) (hchanged : x.outcome.stateChanged = true)
    (honce : (s.daemon.merged i t baseline x).Once source) :
    Answering.Sound source ⟨s.daemon.merged i t baseline x,
      s.outcomes ++ [(t.command.commandId, x.outcome.status)], s.refused⟩ := by
  obtain ⟨world, drawn, hx⟩ := h.once.execution i t baseline x [] ht hphase
  obtain ⟨hrecords, hnone⟩ : Records baseline t.command.commandId x ∧
      baseline.commandStatus.lookup t.command.commandId = none := by
    rcases (@handleCommand_cases source world) baseline drawn t.command with
      hreplays | hrecords
    · rw [hx] at hchanged
      exact absurd hchanged (by simp [hreplays.1.unchanged])
    · rw [hx]
      exact hrecords
  have hnew : ∀ status, (t.command.commandId, status) ∉ s.outcomes := by
    intro status hstatus
    have hsnapshot := (h.snapshot i t baseline ht (by rw [hphase]; rfl) status).mp hstatus
    rw [hnone] at hsnapshot
    cases hsnapshot
  have hother : ∀ {id : CommandId}, id ≠ t.command.commandId → ∀ status,
      (id, status) ∈ s.outcomes ++ [(t.command.commandId, x.outcome.status)] ↔
        (id, status) ∈ s.outcomes := by
    intro id hid status
    rw [List.mem_append, List.mem_singleton, Prod.mk.injEq]
    exact or_iff_left fun heq => hid heq.1
  have hlookup : ∀ id, (s.daemon.merged i t baseline x).owner.commandStatus.lookup id =
      Assoc.changed (baseline.commandStatus.lookup id) (x.localState.commandStatus.lookup id)
        (s.daemon.owner.commandStatus.lookup id) := fun id => Assoc.lookup_mergeChanged ..
  refine ⟨honce, fun id status => ?_, fun j u b hu hb status => ?_,
    fun j u batches status payload hu hdelivering => ?_, fun id hid => ⟨fun j u hu => ?_,
      fun outcome houtcome => ?_⟩, fun r hr => ?_⟩
  · rw [hlookup]
    by_cases hid : id = t.command.commandId
    · subst hid
      rw [hnone, hrecords.status, Assoc.changed_none_some, List.mem_append, List.mem_singleton,
        Option.some_inj]
      constructor
      · rintro (hstatus | hstatus)
        · exact absurd hstatus (hnew status)
        · exact (Prod.mk.inj hstatus).2.symm
      · rintro rfl
        exact Or.inr rfl
    · rw [Assoc.changed_of_eq (hrecords.other id hid).1.symm, hother hid]
      exact h.recorded id status
  · rcases tasks_setTask hu with ⟨-, hu'⟩ | ⟨hji, hu'⟩
    · obtain rfl := Option.some.inj hu'
      cases hb
    · have hapart := h.once.apart j i u t hji hu' ht (by simp [TaskPhase.underWay, hb])
        (by rw [hphase]; rfl)
      rw [hother hapart]
      exact h.snapshot j u b hu' hb status
  · rcases tasks_setTask hu with ⟨-, hu'⟩ | ⟨-, hu'⟩
    · obtain rfl := Option.some.inj hu'
      obtain ⟨-, rfl, -⟩ := TaskPhase.delivering.inj hdelivering
      exact List.mem_append_right _ (List.mem_singleton_self _)
    · exact List.mem_append_left _ (h.delivering j u batches status payload hu' hdelivering)
  · rcases tasks_setTask hu with ⟨-, hu'⟩ | ⟨-, hu'⟩
    · obtain rfl := Option.some.inj hu'
      exact (h.refused id hid).1 i t ht
    · exact (h.refused id hid).1 j u hu'
  · have hne : id ≠ t.command.commandId := fun heq => (h.refused id hid).1 i t ht heq.symm
    exact (h.refused id hid).2 outcome ((hother hne outcome).mp houtcome)
  · exact (h.sent r hr).imp_left fun hr => List.mem_append_left _ hr

/-- A step that hands no outcome to the store. -/
theorem Answering.Sound.moves {s : Answering} {a : Action} (h : s.Sound source)
    (hapart : AnswersApart s a) (hstep : Node.step source s.daemon a = some d')
    (hmoves : Moves s.daemon a d') (honce : d'.Once source) :
    Answering.Sound source ⟨d', s.outcomes, s.refused ++ a.refused⟩ := by
  refine ⟨honce, fun id status => ?_, fun j u b hu hb status => ?_,
    fun j u batches status payload hu hdelivering => ?_, fun id hid => ?_, fun r hr => ?_⟩
  · rw [hmoves.status]
    exact h.recorded id status
  · rcases hmoves.tasks j u hu with ⟨-, hqueued⟩ | ⟨t, ht, hfrom⟩
    · rw [hqueued] at hb
      cases hb
    · rw [hfrom.command]
      rcases hfrom.baseline b hb with hb | rfl
      · exact h.snapshot j t b ht hb status
      · exact h.recorded _ status
  · rcases hmoves.tasks j u hu with ⟨-, hqueued⟩ | ⟨t, ht, hfrom⟩
    · rw [hqueued] at hdelivering
      cases hdelivering
    · rw [hfrom.command]
      rcases hfrom.delivering batches status payload hdelivering with
        ⟨batches', hdelivering⟩ | ⟨b, x, hphase, hunchanged, rfl⟩
      · exact h.delivering j t batches' status payload ht hdelivering
      · -- the answer is the status the snapshot had
        obtain ⟨world, drawn, rfl⟩ := h.once.execution j t b x [] ht hphase
        refine (h.snapshot j t b ht (by rw [hphase]; rfl) _).mpr ?_
        exact status_of_unchanged (h.once.wellFormed.matchesKind ht) hunchanged
  · rcases List.mem_append.mp hid with hold | hnew
    · refine ⟨fun j u hu => ?_, (h.refused id hold).2⟩
      rcases hmoves.tasks j u hu with ⟨ha, -⟩ | ⟨t, ht, hfrom⟩
      · subst ha
        exact fun heq => hapart.2 (heq ▸ hold)
      · rw [hfrom.command]
        exact (h.refused id hold).1 j t ht
    · cases a with
      | refuse command closed =>
        obtain rfl := List.mem_singleton.mp hnew
        refine ⟨fun j u hu => ?_, hapart.2.2⟩
        rcases hmoves.tasks j u hu with ⟨ha, -⟩ | ⟨t, ht, hfrom⟩
        · cases ha
        · rw [hfrom.command]
          exact hapart.2.1 j t ht
      | _ => cases hnew
  · rcases results_step hstep hr with hr | hr | ⟨i, t, batches, payload, ht, hphase, hid⟩
    · exact (h.sent r hr).imp_right fun hr => ⟨List.mem_append_left _ hr.1, hr.2⟩
    · exact Or.inr ⟨List.mem_append_right _ hr.1, hr.2⟩
    · have hdelivered := h.delivering i t batches r.2 payload ht hphase
      rw [hid] at hdelivered
      exact Or.inl hdelivered

/-- **A step that meets the condition keeps the invariant.** -/
theorem Answering.Sound.step {s s' : Answering} {a : Action} (h : s.Sound source)
    (hapart : AnswersApart s a) (hstep : s.step source a = some s') : s'.Sound source := by
  obtain ⟨d', hd, rfl⟩ := Option.map_eq_some_iff.mp hstep
  have hrestart : a = .restart →
      s.daemon.owner.commandStatus.keys.length ≤ maxRetainedCommands := by
    rintro rfl
    exact hapart.2
  have honce := once_step h.once hapart.1 hrestart hd
  rcases merged_or_moves hd hrestart with
    ⟨i, t, baseline, x, rfl, ht, hphase, hchanged, rfl, houtcome⟩ | hmoves
  · have hmerged := h.merged ht hphase hchanged honce
    rw [houtcome]
    simpa [Action.refused] using hmerged
  · have hmoved := h.moves hapart hd hmoves honce
    rw [hmoves.outcome]
    simpa using hmoved

theorem sound_start (loaded : NodeLocalState) : (Answering.start loaded).Sound source where
  once := once_start loaded
  recorded id status := by
    show (id, status) ∈ loaded.commandStatus.entries.map _ ↔ loaded.commandStatus.lookup id = _
    rw [← Option.mem_def, AList.mem_lookup_iff, List.mem_map]
    constructor
    · rintro ⟨e, he, heq⟩
      obtain ⟨rfl, rfl⟩ := Prod.mk.inj heq
      exact he
    · exact fun he => ⟨⟨id, status⟩, he, rfl⟩
  snapshot i t b ht := by cases ht
  delivering i t batches status payload ht := by cases ht
  refused id hid := by cases hid
  sent r hr := by cases hr

/-- **In every run whose refusals are apart from its deliveries, and in which each command is
    executed once, no result contradicts the outcome of its command.** -/
theorem answers_consistent (loaded : NodeLocalState) {as : List Action} {s : Answering}
    (hapart : Meets (Answering.step source) AnswersApart (Answering.start loaded) as)
    (hrun : run (Answering.step source) (Answering.start loaded) as = some s) : s.Consistent :=
  (run_inv_of_meets (Answering.Sound source) (fun _ _ _ hI hC hst => hI.step hC hst)
    (sound_start loaded) hapart hrun).consistent

/-! ## 6. A full queue -/

/-- A command waits, its second delivery finds the queue full, and it is executed. -/
def refusedWhileQueued : List Action :=
  [.dial, .connect, .receive (configureCommand "c1"), .refuse (configureCommand "c1") false,
    .begin 0, .start 0 true quietWorld, .persist 0, .result 0 true]

/-- It is answered as failed, and then as completed. -/
theorem refusedWhileQueued_contradicts :
    ∃ s, run (Answering.step countedSource) (Answering.start enrolled) refusedWhileQueued = some s ∧
      s.daemon.results = [("c1", .failed), ("c1", .completed)] ∧
        s.outcomes = [("c1", .completed)] ∧ ¬ s.Consistent := by
  refine ⟨_, rfl, by decide, by decide, fun h => ?_⟩
  exact absurd (h "c1" .failed .completed (by decide) (by decide)) (by decide)

/-- `AnswersApart`, checked. -/
def answersApart (s : Answering) (a : Action) : Bool :=
  snapshotAlone s.daemon a &&
    match a with
    | .refuse command _ =>
      s.daemon.allTasks (fun _ t => t.command.commandId != command.commandId) &&
        s.outcomes.all fun o => o.1 != command.commandId || o.2 == .failed
    | .receive command => !s.refused.contains command.commandId
    | .restart => decide (s.daemon.owner.commandStatus.keys.length ≤ maxRetainedCommands)
    | _ => true

theorem answersApart_check {s : Answering} {a : Action} (h : s.daemon.WellFormed)
    (hc : answersApart s a = true) : AnswersApart s a := by
  obtain ⟨halone, hc⟩ := Bool.and_eq_true_iff.mp hc
  refine ⟨snapshotAlone_check h halone, ?_⟩
  cases a with
  | refuse command closed =>
    obtain ⟨htasks, houtcomes⟩ := Bool.and_eq_true_iff.mp hc
    refine ⟨fun i t ht => ?_, fun outcome ho => ?_⟩
    · simpa using h.of_allTasks htasks ht
    · simpa using List.all_eq_true.mp houtcomes _ ho
  | receive command => simpa using hc
  | restart => exact of_decide_eq_true hc
  | _ => trivial

/-- A command is refused and another accepted, executed and delivered again. -/
def refusedApart : List Action :=
  [.dial, .connect, .refuse (configureCommand "c1") false, .receive (configureCommand "c2"),
    .begin 0, .start 0 true quietWorld, .persist 0, .result 0 true,
    .receive (configureCommand "c2"), .begin 1, .start 1 true quietWorld, .persist 1,
    .result 1 true]

theorem answers_consistent_refusedApart :
    ∃ s, run (Answering.step countedSource) (Answering.start enrolled) refusedApart = some s ∧
      s.Consistent := by
  have hapart : check (Answering.step countedSource) answersApart (Answering.start enrolled)
      refusedApart = true := by decide
  refine ⟨_, rfl, answers_consistent enrolled (meets_of_check (fun s => s.daemon.WellFormed)
    (fun s a t hs hst => ?_) (fun _ _ => answersApart_check) (wellFormed_start enrolled) hapart)
      rfl⟩
  obtain ⟨d', hd, rfl⟩ := Option.map_eq_some_iff.mp hst
  exact wellFormed_step hs hd

end Uprava.Node
