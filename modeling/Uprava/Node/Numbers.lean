/-
  File:      Uprava/Node/Numbers.lean
  Subject:   The numbers of the runtimes' events over whole runs of the daemon: over runs with
             aborted executions and restarts, and over runs in which executions overlap.

  The store's counters, the executions under way and the events that are out form an allocator
  (`Daemon.allocator`). Every step but the start of a body keeps it sound: a merge raises the
  counters to what the execution took, and everything else only lets known events out. At the
  start of a body soundness needs two things, each the condition of one of the results:

  * nothing on the channel lies above the stored counter of a runtime that is numbered
    (`NumbersAbove`; an aborted execution leaves such events behind);
  * nobody else holds numbers of that runtime, and its counter has not moved since the snapshot
    (`NumbersHeld`, `NoticesApart`; retention notices are what breaks it without an abort).
-/
import Uprava.Lib.Counter
import Uprava.Node.Machine

namespace Uprava.Node

open Uprava.Protocol
open Uprava.Lib (Allocator Assoc Meets Numbered check meets_of_check run run_inv_of_meets)

/-! ## 1. The daemon as an allocator -/

def takenBy : Option DispatchTask → List EventEnvelope
  | some t => t.phase.taken
  | none => []

namespace Daemon

/-- The events a task numbered and has not handed back. -/
def active (d : Daemon) (i : Nat) : List EventEnvelope := takenBy (d.tasks i)

/-- An event the store, the connection or a task has to offer. -/
def Stored (d : Daemon) (e : EventEnvelope) : Prop :=
  e ∈ d.owner.eventOutbox ∨ e ∈ d.connection.stored ∨ ∃ i t, d.tasks i = some t ∧ e ∈ t.phase.stored

/-- An event of a runtime that is on the channel or stored. -/
def Out (d : Daemon) (e : EventEnvelope) : Prop :=
  (e ∈ d.sentEvents ∨ d.Stored e) ∧ ∃ r, e.runtimeSessionId = some r

def allocator (d : Daemon) : Allocator Nat RuntimeSessionId EventEnvelope where
  counter := d.owner.runtimeSeqs.count
  active := d.active
  seen := d.Out

end Daemon

/-- The daemon's numbers are in order. -/
abbrev Daemon.Sound (d : Daemon) : Prop :=
  d.allocator.Sound EventEnvelope.runtimeSessionId EventEnvelope.seq

/-- A task's snapshot is not ahead of the store, and its execution is the handling of its command
    on the snapshot. -/
structure TaskSound (source : EventSource) (owner : NodeLocalState) (task : DispatchTask) :
    Prop where
  baseline : ∀ b, task.phase.baseline? = some b → ∀ r,
    b.runtimeSeqs.count r ≤ owner.runtimeSeqs.count r
  execution : ∀ b x live, task.phase = .executing b x live → live ⊆ x.live ∧
    ∃ world drawn, x = handleCommand source world b drawn task.command

/-- An event that carries a runtime's number says so in its scope and its session. -/
def Scoped (e : EventEnvelope) : Prop := RuntimeEvent e ∨ OutsideRuntimes e

/-- **The invariant of the numbers.** -/
structure Daemon.Ordered (source : EventSource) (d : Daemon) : Prop where
  sound : d.Sound
  stored : ∀ e, d.Stored e → ∀ r, e.runtimeSessionId = some r →
    e.seq ≤ d.owner.runtimeSeqs.count r
  inScope : ∀ e, e ∈ d.sentEvents ∨ d.Stored e → Scoped e
  tasks : ∀ i t, d.tasks i = some t → TaskSound source d.owner t

variable {source : EventSource} {d d' : Daemon} {i : Nat} {t : DispatchTask}

/-! ## 2. What a step changes -/

theorem active_of_task (ht : d.tasks i = some t) : d.active i = t.phase.taken := by
  unfold Daemon.active
  rw [ht]
  rfl

theorem active_setTask (d : Daemon) (i j : Nat) (task : Option DispatchTask) :
    (d.setTask i task).active j = Function.update d.active i (takenBy task) j := by
  unfold Daemon.active Daemon.setTask
  by_cases h : j = i
  · subst h
    simp
  · simp [Function.update_of_ne h]

theorem active_setTask_le (d : Daemon) (i j : Nat) (task : Option DispatchTask) :
    (d.setTask i task).active j ⊆ Function.update d.active i (takenBy task) j := by
  rw [active_setTask]
  exact List.Subset.refl _

/-- What is stored after a task moved was stored before, or is the task's. -/
theorem stored_setTask {task : Option DispatchTask} {e : EventEnvelope}
    (h : (d.setTask i task).Stored e) :
    d.Stored e ∨ ∃ u, task = some u ∧ e ∈ u.phase.stored := by
  rcases h with h | h | ⟨j, u, hu, he⟩
  · exact Or.inl (Or.inl h)
  · exact Or.inl (Or.inr (Or.inl h))
  · rcases tasks_setTask hu with ⟨-, htask⟩ | ⟨-, hu⟩
    · exact Or.inr ⟨u, htask, he⟩
    · exact Or.inl (Or.inr (Or.inr ⟨j, u, hu, he⟩))

/-- **A step that takes no numbers** keeps the invariant: the counters stand, tasks give numbers up
    at most, and what it lets out was stored or numbered before, or is no runtime's. -/
theorem Daemon.Ordered.frame (h : d.Ordered source)
    (hcount : ∀ r, d'.owner.runtimeSeqs.count r = d.owner.runtimeSeqs.count r)
    (hactive : ∀ i, d'.active i ⊆ d.active i) (hstored : ∀ e, d'.Stored e → d.Stored e)
    (hsent : ∀ e ∈ d'.sentEvents, e ∈ d.sentEvents ∨ d.Stored e ∨
      (∃ i, e ∈ d.active i ∧ RuntimeEvent e) ∨ OutsideRuntimes e)
    (htasks : ∀ i t, d'.tasks i = some t →
      d.tasks i = some t ∨ TaskSound source d.owner t) : d'.Ordered source := by
  refine ⟨h.sound.shrink hcount hactive ?_, fun e he r hr => ?_, fun e he => ?_,
    fun i t ht => ?_⟩
  · rintro e ⟨he | he, hr⟩
    · rcases hsent e he with he | he | ⟨i, he, -⟩ | he
      · exact Or.inl ⟨Or.inl he, hr⟩
      · exact Or.inl ⟨Or.inr he, hr⟩
      · exact Or.inr ⟨i, he⟩
      · obtain ⟨r, hr⟩ := hr
        rw [he.runtimeSessionId] at hr
        cases hr
    · exact Or.inl ⟨Or.inr (hstored e he), hr⟩
  · rw [hcount]
    exact h.stored e (hstored e he) r hr
  · rcases he with he | he
    · rcases hsent e he with he | he | ⟨-, -, he⟩ | he
      · exact h.inScope e (Or.inl he)
      · exact h.inScope e (Or.inr he)
      · exact Or.inl he
      · exact Or.inr he
    · exact h.inScope e (Or.inr (hstored e he))
  · have htask : TaskSound source d.owner t := by
      rcases htasks i t ht with ht | ht
      · exact h.tasks i t ht
      · exact ht
    refine ⟨fun b hb r => ?_, htask.execution⟩
    rw [hcount]
    exact htask.baseline b hb r

/-- A task that stays as it is but for its phase is among the tasks of the frame rule. -/
theorem taskSound_setTask {task : DispatchTask} (htask : TaskSound source d.owner task) :
    ∀ j u, (d.setTask i (some task)).tasks j = some u →
      d.tasks j = some u ∨ TaskSound source d.owner u := by
  intro j u hu
  rcases tasks_setTask hu with ⟨-, hu⟩ | ⟨-, hu⟩
  · obtain rfl := Option.some.inj hu
    exact Or.inr htask
  · exact Or.inl hu

theorem active_setTask_subset {task : DispatchTask} (ht : d.tasks i = some t)
    (htaken : task.phase.taken ⊆ t.phase.taken) (j : Nat) :
    (d.setTask i (some task)).active j ⊆ d.active j := by
  rw [active_setTask]
  by_cases hji : j = i
  · subst hji
    rw [Function.update_self, active_of_task ht]
    exact htaken
  · rw [Function.update_of_ne hji]
    exact List.Subset.refl _

/-- A task's own stored events are the daemon's. -/
theorem stored_of_task (ht : d.tasks i = some t) {e : EventEnvelope} (he : e ∈ t.phase.stored) :
    d.Stored e := Or.inr (Or.inr ⟨i, t, ht, he⟩)

/-- A task moves on without new numbers, and puts known events on the channel. -/
theorem Daemon.Ordered.moveTask {task : DispatchTask} {frames : List ControlFrame}
    (h : d.Ordered source) (ht : d.tasks i = some t) (htaken : task.phase.taken ⊆ t.phase.taken)
    (hstored : ∀ e ∈ task.phase.stored, d.Stored e) (htask : TaskSound source d.owner task)
    (hframes : ∀ e ∈ frames.flatMap frameEvents, d.Stored e ∨
      (e ∈ t.phase.taken ∧ RuntimeEvent e) ∨ OutsideRuntimes e) :
    ((d.setTask i (some task)).put frames).Ordered source := by
  refine h.frame (fun _ => rfl) (active_setTask_subset ht htaken) (fun e he => ?_)
    (fun e he => ?_) (taskSound_setTask htask)
  · have he' : (d.setTask i (some task)).Stored e := he
    rcases stored_setTask he' with he | ⟨u, hu, he⟩
    · exact he
    · obtain rfl := Option.some.inj hu
      exact hstored e he
  · rw [Daemon.sentEvents_put] at he
    rcases List.mem_append.mp he with he | he
    · exact Or.inl he
    · rcases hframes e he with he | ⟨he, hruntime⟩ | he
      · exact Or.inr (Or.inl he)
      · exact Or.inr (Or.inr (Or.inl ⟨i, by rwa [active_of_task ht], hruntime⟩))
      · exact Or.inr (Or.inr (Or.inr he))

/-! ## 3. A body starts -/

/-- **A body starts** and takes its numbers: soundly, when nobody holds numbers of their runtimes,
    the snapshot's counters of them are the store's, and nothing that is out lies above these. -/
theorem Daemon.Ordered.start {baseline : NodeLocalState} {world : World} (h : d.Ordered source)
    (ht : d.tasks i = some t) (hphase : t.phase = .begun baseline)
    (hcount : ∀ e ∈ (handleCommand source world baseline d.drawn t.command).taken,
      ∀ r, e.runtimeSessionId = some r →
        baseline.runtimeSeqs.count r = d.owner.runtimeSeqs.count r)
    (hunshared : d.allocator.Unshared EventEnvelope.runtimeSessionId
      (handleCommand source world baseline d.drawn t.command).taken)
    (hbelow : d.allocator.Below EventEnvelope.runtimeSessionId EventEnvelope.seq
      (handleCommand source world baseline d.drawn t.command).taken) :
    (d.started source i t baseline world).Ordered source := by
  have hx := (@handleCommand_numbers source world) baseline d.drawn t.command
  have hidle : d.allocator.active i = [] := by
    show d.active i = []
    rw [active_of_task ht, hphase]
    rfl
  have htake := h.sound.take hidle
    (fun e he r hr => by
      have hlt := hx.numbered.lt he hr
      rw [hcount e he r hr] at hlt
      exact hlt)
    (fun e he e' he' => hx.numbered.injective he he') hunshared hbelow
  have hstored : ∀ e, (d.started source i t baseline world).Stored e → d.Stored e := by
    intro e he
    have he' : (d.setTask i (some (t.executes baseline
        (handleCommand source world baseline d.drawn t.command)))).Stored e := he
    rcases stored_setTask he' with he | ⟨u, hu, he⟩
    · exact he
    · obtain rfl := Option.some.inj hu
      exact stored_of_task ht (by rw [hphase]; exact he)
  have hsent : ∀ e ∈ (d.started source i t baseline world).sentEvents, e ∈ d.sentEvents := by
    intro e he
    have he' := (Daemon.sentEvents_put _ _).subst he
    rcases List.mem_append.mp he' with he | he
    · exact he
    · cases he
  refine ⟨?_, fun e he r hr => h.stored e (hstored e he) r hr, fun e he => ?_, fun j u hu => ?_⟩
  · refine htake.shrink (fun _ => rfl) (fun j => ?_) fun e he => ?_
    · exact active_setTask_le d i j _
    · rcases he with ⟨he | he, hr⟩
      · exact Or.inl ⟨Or.inl (hsent e he), hr⟩
      · exact Or.inl ⟨Or.inr (hstored e he), hr⟩
  · rcases he with he | he
    · exact h.inScope e (Or.inl (hsent e he))
    · exact h.inScope e (Or.inr (hstored e he))
  · have hbaseline := (h.tasks i t ht).baseline baseline (by rw [hphase]; rfl)
    rcases tasks_setTask hu with ⟨-, hu⟩ | ⟨-, hu⟩
    · obtain rfl := Option.some.inj hu
      refine ⟨fun b hb => ?_, fun b x live he => ?_⟩
      · obtain rfl := Option.some.inj hb
        exact hbaseline
      · obtain ⟨rfl, rfl, rfl⟩ := TaskPhase.executing.inj he
        exact ⟨List.Subset.refl _, world, d.drawn, rfl⟩
    · exact h.tasks j u hu

/-! ## 4. A copy is handed back -/

/-- What an execution sends or keeps of its own is below the counters it left. -/
theorem KnownTo.cases {s : NodeLocalState} {taken : List EventEnvelope} {e : EventEnvelope}
    (h : KnownTo s taken e) (hruntime : ∀ e ∈ taken, RuntimeEvent e) :
    e ∈ s.eventOutbox ∨ (e ∈ taken ∧ RuntimeEvent e) ∨ OutsideRuntimes e := by
  rcases h with h | h | h
  · exact Or.inl h
  · exact Or.inr (Or.inl ⟨h, hruntime e h⟩)
  · exact Or.inr (Or.inr h)

/-- The counters after a merge: those of the copy, where it is ahead. -/
theorem count_mergeCommandStateFrom {owner baseline : NodeLocalState} {x : Execution}
    (hx : Numbers baseline x)
    (hbaseline : ∀ r, baseline.runtimeSeqs.count r ≤ owner.runtimeSeqs.count r)
    (r : RuntimeSessionId) :
    (owner.mergeCommandStateFrom baseline x.localState).runtimeSeqs.count r =
      max (owner.runtimeSeqs.count r) (x.localState.runtimeSeqs.count r) :=
  Assoc.count_mergeMax (hbaseline r) (hx.keeps r)

/-- An execution under way keeps to its numbers. -/
theorem Daemon.Ordered.numbers {baseline : NodeLocalState} {x : Execution}
    {live : List EventEnvelope} (h : d.Ordered source) (ht : d.tasks i = some t)
    (hphase : t.phase = .executing baseline x live) : Numbers baseline x := by
  obtain ⟨-, world, drawn, hhandled⟩ := (h.tasks i t ht).execution baseline x live hphase
  rw [hhandled]
  exact handleCommand_numbers baseline drawn t.command

theorem Daemon.Ordered.merged_count {baseline : NodeLocalState} {x : Execution}
    (h : d.Ordered source) (ht : d.tasks i = some t) (hphase : t.phase = .executing baseline x [])
    (r : RuntimeSessionId) :
    (d.merged i t baseline x).owner.runtimeSeqs.count r =
      max (d.owner.runtimeSeqs.count r) (x.localState.runtimeSeqs.count r) :=
  count_mergeCommandStateFrom (h.numbers ht hphase)
    ((h.tasks i t ht).baseline baseline (by rw [hphase]; rfl)) r

/-- The counter of a runtime the execution did not number stands. -/
theorem Daemon.Ordered.merged_count_of_ne {baseline : NodeLocalState} {x : Execution}
    (h : d.Ordered source) (ht : d.tasks i = some t) (hphase : t.phase = .executing baseline x [])
    {r : RuntimeSessionId} (hr : ∀ e ∈ d.active i, e.runtimeSessionId ≠ some r) :
    (d.merged i t baseline x).owner.runtimeSeqs.count r = d.owner.runtimeSeqs.count r := by
  rw [active_of_task ht, hphase] at hr
  have heq := (h.numbers ht hphase).numbered.eq_of_ne hr
  have hle := (h.tasks i t ht).baseline baseline (by rw [hphase]; rfl) r
  have hcount := h.merged_count ht hphase r
  omega

/-- **An execution's copy is merged**: its numbers are the store's now. -/
theorem Daemon.Ordered.merge {baseline : NodeLocalState} {x : Execution} (h : d.Ordered source)
    (ht : d.tasks i = some t) (hphase : t.phase = .executing baseline x []) :
    (d.merged i t baseline x).Ordered source := by
  have hx := h.numbers ht hphase
  have hcount := h.merged_count ht hphase
  have hactive : d.active i = x.taken := by
    rw [active_of_task ht, hphase]
    rfl
  have hbaselineStored : ∀ e ∈ baseline.eventOutbox, d.Stored e := fun e he =>
    stored_of_task ht (by rw [hphase]; exact he)
  -- what is stored afterwards was stored before, is the execution's or is no runtime's
  have hstored : ∀ e, (d.merged i t baseline x).Stored e →
      d.Stored e ∨ (e ∈ x.taken ∧ RuntimeEvent e) ∨ OutsideRuntimes e := by
    intro e he
    have hknown : KnownTo baseline x.taken e →
        d.Stored e ∨ (e ∈ x.taken ∧ RuntimeEvent e) ∨ OutsideRuntimes e := by
      intro he
      rcases he.cases hx.runtime with he | he
      · exact Or.inl (hbaselineStored e he)
      · exact Or.inr he
    rcases he with he | he | ⟨j, u, hu, he⟩
    · rcases mem_mergeOutbox he with he | ⟨he, -⟩
      · exact Or.inl (Or.inl he)
      · exact hknown (hx.outbox e he)
    · exact Or.inl (Or.inr (Or.inl he))
    · rcases tasks_setTask hu with ⟨-, hu⟩ | ⟨-, hu⟩
      · obtain rfl := Option.some.inj hu
        exact hknown (hx.sent e (mem_of_mem_eventBatches he))
      · exact Or.inl (stored_of_task hu he)
  refine ⟨?_, fun e he r hr => ?_, fun e he => ?_, fun j u hu => ?_⟩
  · have hcommit := @Lib.Allocator.Sound.commit _ _ _ _ _ _ i _
      (d.merged i t baseline x).owner.runtimeSeqs.count (d.merged i t baseline x).Out h.sound
      (fun r hr => h.merged_count_of_ne ht hphase hr) (fun e he => ?_)
    · refine hcommit.shrink (fun _ => rfl) (fun j => ?_) fun e he => Or.inl he
      exact active_setTask_le d i j _
    · obtain ⟨he | he, hr⟩ := he
      · exact Or.inl ⟨Or.inl he, hr⟩
      · rcases hstored e he with he | ⟨he, -⟩ | he
        · exact Or.inl ⟨Or.inr he, hr⟩
        · refine Or.inr ⟨i, ?_⟩
          show e ∈ d.active i
          rw [hactive]
          exact he
        · obtain ⟨r, hr⟩ := hr
          rw [he.runtimeSessionId] at hr
          cases hr
  · have hle : e.seq ≤ max (d.owner.runtimeSeqs.count r) (x.localState.runtimeSeqs.count r) := by
      rcases hstored e he with he | ⟨he, -⟩ | he
      · have hle := h.stored e he r hr
        omega
      · have hle := hx.numbered.le he hr
        omega
      · rw [he.runtimeSessionId] at hr
        cases hr
    rw [← hcount r] at hle
    exact hle
  · rcases he with he | he
    · exact h.inScope e (Or.inl he)
    · rcases hstored e he with he | ⟨-, he⟩ | he
      · exact h.inScope e (Or.inr he)
      · exact Or.inl he
      · exact Or.inr he
  · rcases tasks_setTask hu with ⟨-, hu⟩ | ⟨-, hu⟩
    · obtain rfl := Option.some.inj hu
      exact ⟨fun b hb => (by cases hb), fun b x live he => (by cases he)⟩
    · refine ⟨fun b hb r => ?_, (h.tasks j u hu).execution⟩
      have hle := (h.tasks j u hu).baseline b hb r
      have heq := hcount r
      omega

/-! ## 5. Every other step -/

/-- An execution that changed nothing numbered nothing, and sends what was in the outbox. -/
theorem replays_of_unchanged {world : World} {s : NodeLocalState} {drawn : Nat}
    {command : CommandEnvelope}
    (h : (handleCommand source world s drawn command).outcome.stateChanged = false) :
    Replays s (handleCommand source world s drawn command) := by
  rcases (@handleCommand_cases source world) s drawn command with hx | hx
  · exact hx.1
  · rw [hx.1.changed] at h
    cases h

theorem taskSound_of_noExecution {task : DispatchTask} (hbaseline : ∀ b,
    task.phase.baseline? = some b → b = d.owner)
    (hphase : ∀ b x live, task.phase ≠ .executing b x live) : TaskSound source d.owner task := by
  refine ⟨fun b hb r => ?_, fun b x live he => absurd he (hphase b x live)⟩
  rw [hbaseline b hb]

theorem mutate_keeps (s : NodeLocalState) {mutation : NodeStateMutation}
    (h : mutation.isMerge = false) :
    (applyNodeStateMutation s mutation).runtimeSeqs = s.runtimeSeqs ∧
      (applyNodeStateMutation s mutation).commandStatus = s.commandStatus ∧
      (applyNodeStateMutation s mutation).eventOutbox ⊆ s.eventOutbox := by
  cases mutation with
  | mergeCommandState baseline commandState => cases h
  | persistEventAck ids => exact ⟨rfl, rfl, fun e he => List.mem_of_mem_filter he⟩
  | _ => exact ⟨rfl, rfl, List.Subset.refl _⟩

/-- **Every step keeps the invariant, if the start of a body does.** -/
theorem Daemon.Ordered.step {a : Action} (h : d.Ordered source) (hc : StepCase source d a d')
    (hstart : ∀ i t baseline world, a = .start i true world → d.tasks i = some t →
      t.phase = .begun baseline → (d.started source i t baseline world).Ordered source) :
    d'.Ordered source := by
  have hsame : ∀ {d'' : Daemon}, d''.tasks = d.tasks → ∀ j, d''.active j ⊆ d.active j := by
    intro d'' htasks j
    unfold Daemon.active
    rw [htasks]
    exact List.Subset.refl _
  cases hc with
  | linked hl =>
    refine h.frame (fun r => by rw [hl.owner]) (hsame hl.tasks) (fun e he => ?_) (fun e he => ?_)
      fun j u hu => Or.inl (by rwa [hl.tasks] at hu)
    · rcases he with he | he | ⟨j, u, hu, he⟩
      · exact Or.inl (by rwa [hl.owner] at he)
      · rcases hl.connection e he with he | he
        · exact Or.inl he
        · exact Or.inr (Or.inl he)
      · exact stored_of_task (by rwa [hl.tasks] at hu) he
    · rcases hl.sent e he with he | he
      · exact Or.inl he
      · exact Or.inr (Or.inl (Or.inr (Or.inl he)))
  | receive hadmits =>
    rename_i command dispatcher
    refine h.frame (fun _ => rfl) (fun j => ?_) (fun e he => ?_) (fun e he => Or.inl he)
      (taskSound_setTask (taskSound_of_noExecution (fun b hb => (by cases hb))
        fun b x live he => (by cases he)))
    · refine List.Subset.trans (active_setTask_le d d.spawned j _) ?_
      by_cases hj : j = d.spawned
      · subst hj
        rw [Function.update_self]
        exact List.nil_subset _
      · rw [Function.update_of_ne hj]
        exact List.Subset.refl _
    · rcases stored_setTask (d := d) (i := d.spawned) he with he | ⟨u, hu, he⟩
      · exact he
      · obtain rfl := Option.some.inj hu
        cases he
  | refuse hadmits =>
    rename_i command closed
    refine h.frame (fun _ => rfl) (hsame rfl) (fun e he => he) (fun e he => ?_)
      fun j u hu => Or.inl hu
    rw [Daemon.sentEvents_put] at he
    rcases List.mem_append.mp he with he | he
    · exact Or.inl he
    · cases he
  | begin ht hphase hfree =>
    rename_i i t
    rw [← Daemon.put_nil (d.setTask i _)]
    refine h.moveTask ht (List.nil_subset _) (fun e he => Or.inl he) ?_ fun e he => (by cases he)
    exact taskSound_of_noExecution (fun b hb => (Option.some.inj hb).symm)
      fun b x live he => (by cases he)
  | start ht hphase => exact hstart _ _ _ _ rfl ht hphase
  | emit ht hphase =>
    rename_i i t baseline x event live queued
    obtain ⟨hlive, world, drawn, hx⟩ := (h.tasks i t ht).execution _ _ _ hphase
    have hnumbers := h.numbers ht hphase
    refine h.moveTask ht (by rw [hphase]; exact List.Subset.refl _)
      (fun e he => stored_of_task ht (by rw [hphase]; exact he))
      ⟨fun b hb => (h.tasks i t ht).baseline b (by rw [hphase]; exact hb), fun b y l he => ?_⟩
      fun e he => ?_
    · obtain ⟨rfl, rfl, rfl⟩ := TaskPhase.executing.inj he
      exact ⟨fun e he => hlive (List.mem_cons_of_mem _ he), world, drawn, hx⟩
    · cases queued with
      | false => cases he
      | true =>
        obtain rfl : e = event := by simpa [frameEvents] using he
        rcases hnumbers.live e (hlive List.mem_cons_self) with he | he
        · exact Or.inr (Or.inl ⟨by rw [hphase]; exact he, hnumbers.runtime e he⟩)
        · exact Or.inr (Or.inr he)
  | merge ht hphase hchanged => exact h.merge ht hphase
  | handle ht hphase hchanged =>
    rename_i i t baseline x
    obtain ⟨-, world, drawn, hx⟩ := (h.tasks i t ht).execution _ _ _ hphase
    have hreplays : Replays baseline x := by
      rw [hx] at hchanged ⊢
      exact replays_of_unchanged hchanged
    rw [← Daemon.put_nil (d.setTask i _)]
    refine h.moveTask ht (List.nil_subset _) (fun e he => ?_)
      (taskSound_of_noExecution (fun b hb => (by cases hb)) fun b x live he => (by cases he))
      fun e he => (by cases he)
    exact stored_of_task ht (by rw [hphase]; exact hreplays.sent (mem_of_mem_eventBatches he))
  | deliver ht hphase =>
    rename_i i t batch batches status payload
    have hbatches : ∀ e ∈ (batch :: batches).flatten, d.Stored e := fun e he =>
      stored_of_task ht (by rw [hphase]; exact he)
    refine h.moveTask ht (List.nil_subset _)
      (fun e he => hbatches e (List.mem_append_right _ he))
      (taskSound_of_noExecution (fun b hb => (by cases hb)) fun b x live he => (by cases he))
      fun e he => ?_
    exact Or.inl (hbatches e (List.mem_append_left _ (by simpa [frameEvents] using he)))
  | ended ht htaken hframes =>
    rename_i i t frames
    refine h.frame (fun _ => rfl) (fun j => ?_) (fun e he => ?_) (fun e he => ?_)
      fun j u hu => ?_
    · refine List.Subset.trans (active_setTask_le d i j none) ?_
      by_cases hji : j = i
      · subst hji
        rw [Function.update_self]
        exact List.nil_subset _
      · rw [Function.update_of_ne hji]
        exact List.Subset.refl _
    · rcases stored_setTask (d := d) (i := i) he with he | ⟨u, hu, -⟩
      · exact he
      · cases hu
    · rw [Daemon.sentEvents_put, hframes, List.append_nil] at he
      exact Or.inl he
    · rcases tasks_setTask hu with ⟨-, hu⟩ | ⟨-, hu⟩
      · cases hu
      · exact Or.inl hu
  | mutate hmerge =>
    rename_i mutation
    obtain ⟨hseqs, -, houtbox⟩ := mutate_keeps d.owner hmerge
    refine h.frame (fun r => ?_) (hsame rfl) (fun e he => ?_) (fun e he => Or.inl he)
      fun j u hu => Or.inl hu
    · show (applyNodeStateMutation d.owner mutation).runtimeSeqs.count r = _
      rw [hseqs]
    · rcases he with he | he
      · exact Or.inl (houtbox he)
      · exact Or.inr he
  | restart =>
    refine h.frame (fun _ => rfl) (fun j => List.nil_subset _) (fun e he => ?_)
      (fun e he => Or.inl he) fun j u hu => (by cases hu)
    rcases he with he | he | ⟨j, u, hu, -⟩
    · exact Or.inl he
    · cases he
    · cases hu

theorem ordered_start : (Daemon.start {}).Ordered source where
  sound := by
    have hnone : ∀ e, ¬ (Daemon.start {}).allocator.Known e := by
      rintro e (⟨he | he | he | ⟨i, u, hu, -⟩, -⟩ | ⟨i, he⟩)
      · cases he
      · cases he
      · cases he
      · cases hu
      · cases he
    exact ⟨fun e e' r he => absurd he (hnone e), fun i e he => absurd (Or.inr ⟨i, he⟩) (hnone e),
      fun i j _ e he => absurd (Or.inr ⟨i, he⟩) (hnone e)⟩
  stored e he := by
    rcases he with he | he | ⟨i, u, hu, -⟩
    · cases he
    · cases he
    · cases hu
  inScope e he := by
    rcases he with he | he | he | ⟨i, u, hu, -⟩
    · cases he
    · cases he
    · cases he
    · cases hu
  tasks i t ht := by cases ht

/-! ## 6. Numbers over aborts and restarts -/

/-- No two events of a runtime's scope carry one number. -/
def UniqueNumbers (events : List EventEnvelope) : Prop :=
  ∀ e ∈ events, ∀ e' ∈ events, ∀ r, e.scopeRef = .runtime r → e'.scopeRef = .runtime r →
    e.seq = e'.seq → e.eventId = e'.eventId

/-- The body an action starts: its task, the snapshot and the events it numbers. -/
def Daemon.taking (source : EventSource) (d : Daemon) :
    Action → Option (DispatchTask × NodeLocalState × List EventEnvelope)
  | .start i true world =>
    match d.tasks i with
    | some t =>
      match t.phase with
      | .begun baseline =>
        some (t, baseline, (handleCommand source world baseline d.drawn t.command).taken)
      | _ => none
    | none => none
  | _ => none

/-- The counter of a runtime is still the snapshot's, and no execution under way holds a number of
    the runtime. -/
structure Unheld (d : Daemon) (baseline : NodeLocalState) (r : RuntimeSessionId) : Prop where
  snapshot : baseline.runtimeSeqs.count r = d.owner.runtimeSeqs.count r
  unshared : ∀ i, ∀ e ∈ d.active i, e.runtimeSessionId ≠ some r

/-- No event of the runtime is on the channel with a number above the stored counter: no execution
    ended without handing back the number of an event it had emitted. -/
def NothingAbove (d : Daemon) (r : RuntimeSessionId) : Prop :=
  ∀ e ∈ d.sentEvents, e.runtimeSessionId = some r → e.seq ≤ d.owner.runtimeSeqs.count r

/-- **The condition on a step**: a body starts only when the runtimes it numbers are held by nobody
    and nothing on the channel is above their counters. -/
def NumbersFree (source : EventSource) (d : Daemon) (a : Action) : Prop :=
  ∀ t baseline taken, d.taking source a = some (t, baseline, taken) →
    ∀ e ∈ taken, ∀ r, e.runtimeSessionId = some r → Unheld d baseline r ∧ NothingAbove d r

theorem taking_start {baseline : NodeLocalState} {world : World} (ht : d.tasks i = some t)
    (hphase : t.phase = .begun baseline) :
    d.taking source (.start i true world) =
      some (t, baseline, (handleCommand source world baseline d.drawn t.command).taken) := by
  unfold Daemon.taking
  simp only [ht, hphase]

/-- Ordered numbers of the channel are unique. -/
theorem Daemon.Ordered.uniqueNumbers (h : d.Ordered source) {events : List EventEnvelope}
    (hevents : ∀ e ∈ events, e ∈ d.sentEvents ∨ d.Stored e) : UniqueNumbers events := by
  intro e he e' he' r hr hr' hseq
  have hrid : ∀ x ∈ events, x.scopeRef = .runtime r → x.runtimeSessionId = some r := by
    intro x hx hxr
    rcases h.inScope x (hevents x hx) with hruntime | hother
    · obtain ⟨r', hscope, hrid⟩ := hruntime.scope
      obtain rfl : r' = r := ScopeRef.runtime.inj (hscope.symm.trans hxr)
      exact hrid
    · exact absurd hxr (hother.scopeRef r)
  have hsame := h.sound.unique e e' r (Or.inl ⟨hevents e he, r, hrid e he hr⟩)
    (Or.inl ⟨hevents e' he', r, hrid e' he' hr'⟩) (hrid e he hr) (hrid e' he' hr') hseq
  rw [hsame]

/-- **Over any run of the daemon whose bodies start with free numbers, whatever is aborted and
    however often the daemon is restarted, no two events on the channel carry one number.** -/
theorem sentNumbers_unique {as : List Action} (hrun : run (step source) (Daemon.start {}) as = some d)
    (hfree : Meets (step source) (NumbersFree source) (Daemon.start {}) as) :
    UniqueNumbers d.sentEvents := by
  have hordered : d.Ordered source := by
    refine run_inv_of_meets (Daemon.Ordered source) (fun d a d' h hC hstep => ?_) ordered_start
      hfree hrun
    refine h.step (step_cases hstep) fun i t baseline world ha ht hphase => ?_
    subst ha
    have hC' := hC t baseline _ (taking_start ht hphase)
    refine h.start ht hphase (fun e he r hr => (hC' e he r hr).1.snapshot)
      (fun e he r hr => (hC' e he r hr).1.unshared) fun e he r hr e' he' hr' => ?_
    rcases he' with ⟨he' | he', -⟩
    · exact (hC' e he r hr).2 e' he' hr'
    · exact h.stored e' he' r hr'
  exact hordered.uniqueNumbers fun e he => Or.inl he

/-! ## 7. A turn that is aborted -/

/-- The runtime of the turn is started. -/
def startRuntimeCommand : CommandEnvelope where
  commandId := "c1"
  kind := .startRuntime
  target := .sessionRuntime "n1" "p1" "s1" "r1"
  actorRef := .localUser none
  issuedAt := 1
  correlationId := "k1"
  payload := .startRuntime "codex" "/work"

/-- A new Node is enrolled, connects and starts a runtime. -/
def runtimeStarted : List Action :=
  [.mutate (.persistEnrollmentIdentity "n1" "secret"), .dial, .connect, .receive startRuntimeCommand,
    .begin 0, .start 0 true quietWorld, .persist 0, .deliver 0 true, .result 0 true]

/-- A turn emits its first event, the connection closes and its task is gone. Core delivers the
    turn again on the next connection. -/
def turnAborted : List Action :=
  runtimeStarted ++
    [.receive sendTurnCommand, .begin 1, .start 1 true quietWorld, .emit 1 true, .close, .stop 1,
      .dial, .connect, .replay true, .receive sendTurnCommand, .begin 2, .start 2 true quietWorld,
      .emit 2 true]

/-- What an event is told by. -/
def label (e : EventEnvelope) : EventId × ScopeRef × Int := (e.eventId, e.scopeRef, e.seq)

/-- Two labels of one number and of different events. -/
theorem not_uniqueNumbers {events : List EventEnvelope} {labels : List (EventId × ScopeRef × Int)}
    {id id' : EventId} {r : RuntimeSessionId} {n : Int} (hlabels : events.map label = labels)
    (h : (id, .runtime r, n) ∈ labels) (h' : (id', .runtime r, n) ∈ labels) (hne : id ≠ id') :
    ¬ UniqueNumbers events := by
  intro hunique
  rw [← hlabels] at h h'
  obtain ⟨e, he, hlabel⟩ := List.mem_map.mp h
  obtain ⟨e', he', hlabel'⟩ := List.mem_map.mp h'
  obtain ⟨rfl, hscope, hseq⟩ : e.eventId = id ∧ e.scopeRef = .runtime r ∧ e.seq = n := by
    simpa [label] using hlabel
  obtain ⟨rfl, hscope', hseq'⟩ : e'.eventId = id' ∧ e'.scopeRef = .runtime r ∧ e'.seq = n := by
    simpa [label] using hlabel'
  exact hne (hunique e he e' he' r hscope hscope' (hseq.trans hseq'.symm))

/-- The turn's first event is on the channel twice, under two ids and one number. -/
theorem turnAborted_repeats :
    ∃ d, run (step countedSource) (Daemon.start {}) turnAborted = some d ∧
      ¬ UniqueNumbers d.sentEvents := by
  have hsent : (run (step countedSource) (Daemon.start {}) turnAborted).map
      (fun d => d.sentEvents.map label) =
      some [("e0", .runtime "r1", 1), ("e1", .runtime "r1", 2), ("e2", .runtime "r1", 3),
        ("e0", .runtime "r1", 1), ("e1", .runtime "r1", 2), ("e7", .runtime "r1", 3)] := by
    decide
  obtain ⟨d, hd, hlabels⟩ := Option.map_eq_some_iff.mp hsent
  refine ⟨d, hd, @not_uniqueNumbers _ _ "e2" "e7" "r1" 3 hlabels ?_ ?_ ?_⟩
  · decide
  · decide
  · decide

/-- `NumbersFree`, checked. -/
def numbersFree (source : EventSource) (d : Daemon) (a : Action) : Bool :=
  (d.taking source a).all fun (_, baseline, taken) => taken.all fun e =>
    e.runtimeSessionId.all fun r =>
      baseline.runtimeSeqs.count r == d.owner.runtimeSeqs.count r &&
        (d.allTasks fun _ u => u.phase.taken.all (·.runtimeSessionId != some r)) &&
        d.sentEvents.all fun e => e.runtimeSessionId != some r ||
          e.seq ≤ d.owner.runtimeSeqs.count r

theorem numbersFree_check {a : Action} (h : d.WellFormed) (hc : numbersFree source d a = true) :
    NumbersFree source d a := by
  intro t baseline taken ht e he r hr
  rw [numbersFree, ht] at hc
  have hfree := List.all_eq_true.mp hc e he
  rw [hr] at hfree
  simp only [Option.all_some, Bool.and_eq_true, beq_iff_eq] at hfree
  obtain ⟨⟨heq, htasks⟩, hsent⟩ := hfree
  refine ⟨⟨heq, fun i e' he' => ?_⟩, fun e' he' her => ?_⟩
  · unfold Daemon.active at he'
    cases hu : d.tasks i with
    | none =>
      rw [hu] at he'
      cases he'
    | some u =>
      rw [hu] at he'
      have hne := List.all_eq_true.mp (h.of_allTasks htasks hu) e' he'
      simpa using hne
  · have hle := List.all_eq_true.mp hsent e' he'
    simpa [her] using hle

/-- The turn is aborted before anything of it got out, the daemon restarts, and the turn runs on the
    next connection. -/
theorem sentNumbers_unique_restarted :
    let as := runtimeStarted ++
      [.receive sendTurnCommand, .begin 1, .start 1 true quietWorld, .emit 1 false, .close, .stop 1,
        .restart, .dial, .connect, .replay true, .receive sendTurnCommand, .begin 2,
        .start 2 true quietWorld, .emit 2 true]
    ∃ d, run (step countedSource) (Daemon.start {}) as = some d ∧ UniqueNumbers d.sentEvents := by
  intro as
  have hfree : check (step countedSource) (numbersFree countedSource) (Daemon.start {}) as = true :=
    by decide
  have hrun : (run (step countedSource) (Daemon.start {}) as).isSome = true := by decide
  obtain ⟨d, hd⟩ := Option.isSome_iff_exists.mp hrun
  exact ⟨d, hd, sentNumbers_unique hd (meets_of_check Daemon.WellFormed
    (fun _ _ _ => wellFormed_step) (fun _ _ => numbersFree_check) (wellFormed_start {}) hfree)⟩

end Uprava.Node
