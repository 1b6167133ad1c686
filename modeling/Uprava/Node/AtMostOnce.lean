/-
  File:      Uprava/Node/AtMostOnce.lean
  Subject:   How often the body of a command is started, over the connections of one process.

  A dispatcher executes a command once: its lock keeps two deliveries apart, and the second takes
  its snapshot when the first has handed back its copy with the command's status. The locks of two
  dispatchers know nothing of each other. A connection that is left by an error leaves its
  dispatcher running, and the next connection's dispatcher may take its snapshot meanwhile; a run
  is in order when none does for a command that is under way elsewhere (`SnapshotAlone`).
-/
import Uprava.Node.Notices

namespace Uprava.Node

open Uprava.Protocol
open Uprava.Lib (Assoc Meets check meets_of_check meets_of_mem run)

variable {source : EventSource} {d d' : Daemon} {i : Nat} {t : DispatchTask}

/-! ## 1. Bodies that start -/

/-- **The body of a command starts once**: when it starts, no other task handles the command and
    no outcome of it was persisted. -/
def StartsOnce (d : Daemon) (a : Action) : Prop :=
  ∀ i world t baseline, a = .start i true world → d.tasks i = some t →
    t.phase = .begun baseline → runsBody world baseline t.command = true →
      (∀ j u b x live, j ≠ i → d.tasks j = some u → u.phase = .executing b x live →
        u.command.commandId ≠ t.command.commandId) ∧
      t.command.commandId ∉ d.persisted

/-- **The condition on a step**: a command takes its snapshot while no other dispatcher has it
    under way. -/
def SnapshotAlone (d : Daemon) (a : Action) : Prop :=
  ∀ i t, a = .begin i → d.tasks i = some t → ∀ j u, d.tasks j = some u →
    u.phase.underWay = true → u.command.commandId = t.command.commandId →
      u.dispatcher = t.dispatcher

/-- **The invariant of the executions of a command.** -/
structure Daemon.Once (source : EventSource) (d : Daemon) : Prop where
  wellFormed : d.WellFormed
  /-- Tasks under way have different commands. -/
  apart : ∀ i j t u, i ≠ j → d.tasks i = some t → d.tasks j = some u → t.phase.underWay = true →
    u.phase.underWay = true → t.command.commandId ≠ u.command.commandId
  /-- The store has a status of every persisted command, and so has a snapshot of such a command. -/
  known : ∀ id ∈ d.persisted, d.owner.commandStatus.lookup id ≠ none
  snapshot : ∀ i t b, d.tasks i = some t → t.phase = .begun b →
    t.command.commandId ∈ d.persisted → b.commandStatus.lookup t.command.commandId ≠ none
  execution : ∀ i t b x live, d.tasks i = some t → t.phase = .executing b x live →
    ∃ world drawn, x = handleCommand source world b drawn t.command

/-- A held permit is seen by the next task of its dispatcher. -/
theorem mem_holding (h : d.WellFormed) (ht : d.tasks i = some t) (hpermit : t.phase.holdsPermit) :
    t ∈ d.holding t.dispatcher := by
  unfold Daemon.holding
  refine List.mem_filter.mpr ⟨List.mem_filterMap.mpr ⟨i, ?_, ht⟩, ?_⟩
  · exact List.mem_range.mpr (h.occupied i t ht)
  · simp [hpermit]

theorem TaskPhase.holdsPermit_of_underWay {phase : TaskPhase} (h : phase.underWay = true) :
    phase.holdsPermit = true := by
  cases phase with
  | queued => cases h
  | _ => rfl

/-- **A step in which no task takes a snapshot** and the store forgets no status keeps the
    invariant. -/
theorem Daemon.Once.frame (h : d.Once source) (hwellFormed : d'.WellFormed)
    (htasks : ∀ i t, d'.tasks i = some t → t.phase.underWay = true →
      ∃ u, d.tasks i = some u ∧ u.phase.underWay = true ∧ u.command = t.command ∧
        ∀ b, t.phase = .begun b → u.phase = .begun b)
    (hpersisted : ∀ id ∈ d'.persisted, id ∈ d.persisted ∨
      ∀ i t b, d'.tasks i = some t → t.phase = .begun b → t.command.commandId ≠ id)
    (hknown : ∀ id ∈ d'.persisted, d'.owner.commandStatus.lookup id ≠ none)
    (hexecution : ∀ i t b x live, d'.tasks i = some t → t.phase = .executing b x live →
      ∃ world drawn, x = handleCommand source world b drawn t.command) : d'.Once source := by
  refine ⟨hwellFormed, fun i j t u hij ht hu htw huw => ?_, hknown, fun i t b ht hphase hid => ?_,
    hexecution⟩
  · obtain ⟨t', ht', htw', htc, -⟩ := htasks i t ht htw
    obtain ⟨u', hu', huw', huc, -⟩ := htasks j u hu huw
    rw [← htc, ← huc]
    exact h.apart i j t' u' hij ht' hu' htw' huw'
  · obtain ⟨u, hu, -, hcommand, hbegun⟩ := htasks i t ht (by rw [hphase]; rfl)
    rcases hpersisted _ hid with hid | hne
    · have hsnapshot := h.snapshot i u b hu (hbegun b hphase) (by rwa [hcommand])
      rwa [hcommand] at hsnapshot
    · exact absurd rfl (hne i t b ht hphase)

/-- A task that moves on without a snapshot. -/
theorem Daemon.Once.moveTask {task : Option DispatchTask} {frames : List ControlFrame}
    (h : d.Once source) (ht : d.tasks i = some t)
    (hwellFormed : ((d.setTask i task).put frames).WellFormed)
    (htask : ∀ u, task = some u → u.command = t.command ∧
      (u.phase.underWay = true → t.phase.underWay = true) ∧
      (∀ b, u.phase = .begun b → t.phase = .begun b) ∧
      ∀ b x live, u.phase = .executing b x live →
        ∃ world drawn, x = handleCommand source world b drawn t.command) :
    ((d.setTask i task).put frames).Once source := by
  refine h.frame hwellFormed (fun j u hu huw => ?_) (fun id hid => Or.inl hid) h.known
    fun j u b x live hu hphase => ?_
  · rcases tasks_setTask hu with ⟨hji, hu'⟩ | ⟨-, hu'⟩
    · subst hji
      obtain ⟨hcommand, hunder, hbegun, -⟩ := htask u hu'
      exact ⟨t, ht, hunder huw, hcommand.symm, hbegun⟩
    · exact ⟨u, hu', huw, rfl, fun b hb => hb⟩
  · rcases tasks_setTask hu with ⟨-, hu'⟩ | ⟨-, hu'⟩
    · obtain ⟨hcommand, -, -, hexecution⟩ := htask u hu'
      rw [hcommand]
      exact hexecution b x live hphase
    · exact h.execution j u b x live hu' hphase

/-- **A task takes its snapshot**: nobody has its command under way. -/
theorem Daemon.Once.begin (h : d.Once source) (ht : d.tasks i = some t)
    (hwellFormed : (d.setTask i (some { t with phase := .begun d.owner })).WellFormed)
    (hfree : ∀ u ∈ d.holding t.dispatcher,
      commandExecutionKey u.command ≠ commandExecutionKey t.command)
    (halone : SnapshotAlone d (.begin i)) :
    (d.setTask i (some { t with phase := .begun d.owner })).Once source := by
  have hother : ∀ j u, d.tasks j = some u → u.phase.underWay = true →
      u.command.commandId ≠ t.command.commandId := by
    intro j u hu huw hid
    -- it would be the same command of the same dispatcher, and hold its lock
    have hsame : u.command = t.command :=
      h.wellFormed.same _ (h.wellFormed.received j u hu) _ (h.wellFormed.received i t ht) hid
    have hdispatcher := halone i t rfl ht j u hu huw hid
    have hheld := mem_holding h.wellFormed hu (TaskPhase.holdsPermit_of_underWay huw)
    rw [hdispatcher] at hheld
    exact hfree u hheld (by rw [hsame])
  refine ⟨hwellFormed, fun j k u v hjk hu hv huw hvw => ?_, h.known, fun j u b hu hb hid => ?_,
    fun j u b x live hu hx => ?_⟩
  · rcases tasks_setTask hu with ⟨hji, hu'⟩ | ⟨-, hu'⟩ <;>
      rcases tasks_setTask hv with ⟨hki, hv'⟩ | ⟨-, hv'⟩
    · exact absurd (hji.trans hki.symm) hjk
    · obtain rfl := Option.some.inj hu'
      exact Ne.symm (hother k v hv' hvw)
    · obtain rfl := Option.some.inj hv'
      exact hother j u hu' huw
    · exact h.apart j k u v hjk hu' hv' huw hvw
  · rcases tasks_setTask hu with ⟨-, hu'⟩ | ⟨-, hu'⟩
    · obtain rfl := Option.some.inj hu'
      obtain rfl := TaskPhase.begun.inj hb
      exact h.known _ hid
    · exact h.snapshot j u b hu' hb hid
  · rcases tasks_setTask hu with ⟨-, hu'⟩ | ⟨-, hu'⟩
    · obtain rfl := Option.some.inj hu'
      cases hx
    · exact h.execution j u b x live hu' hx

/-- **An outcome is persisted**: the store has the command's status from now on, and nobody else
    has the command under way. -/
theorem Daemon.Once.merge {baseline : NodeLocalState} {x : Execution} (h : d.Once source)
    (ht : d.tasks i = some t) (hphase : t.phase = .executing baseline x [])
    (hchanged : x.outcome.stateChanged = true)
    (hwellFormed : (d.merged i t baseline x).WellFormed) :
    (d.merged i t baseline x).Once source := by
  have htw : t.phase.underWay = true := by
    rw [hphase]
    rfl
  obtain ⟨world, drawn, hx⟩ := h.execution i t baseline x [] ht hphase
  obtain ⟨hrecords, hnone⟩ : Records baseline t.command.commandId x ∧
      baseline.commandStatus.lookup t.command.commandId = none := by
    rcases (@handleCommand_cases source world) baseline drawn t.command with
      hreplays | hrecords
    · rw [hx] at hchanged
      exact absurd hchanged (by simp [hreplays.1.unchanged])
    · rw [hx]
      exact hrecords
  have hlookup : ∀ id, (d.merged i t baseline x).owner.commandStatus.lookup id =
      Assoc.changed (baseline.commandStatus.lookup id) (x.localState.commandStatus.lookup id)
        (d.owner.commandStatus.lookup id) := fun id => Assoc.lookup_mergeChanged ..
  refine h.frame hwellFormed (fun j u hu huw => ?_) (fun id hid => ?_) (fun id hid => ?_)
    fun j u b y live hu hy => ?_
  · rcases tasks_setTask hu with ⟨-, hu'⟩ | ⟨-, hu'⟩
    · obtain rfl := Option.some.inj hu'
      cases huw
    · exact ⟨u, hu', huw, rfl, fun b hb => hb⟩
  · rcases List.mem_cons.mp hid with rfl | hid
    · refine Or.inr fun j u b hu hb => ?_
      rcases tasks_setTask hu with ⟨-, hu'⟩ | ⟨hji, hu'⟩
      · obtain rfl := Option.some.inj hu'
        cases hb
      · exact h.apart j i u t hji hu' ht (by rw [hb]; rfl) htw
    · exact Or.inl hid
  · rw [hlookup]
    by_cases hidc : id = t.command.commandId
    · subst hidc
      rw [hnone, hrecords.status, Assoc.changed_none_some]
      exact Option.some_ne_none _
    · rw [Assoc.changed_of_eq (hrecords.other id hidc).1.symm]
      rcases List.mem_cons.mp hid with hid | hid
      · exact absurd hid hidc
      · exact h.known id hid
  · rcases tasks_setTask hu with ⟨-, hu'⟩ | ⟨-, hu'⟩
    · obtain rfl := Option.some.inj hu'
      cases hy
    · exact h.execution j u b y live hu' hy

/-- **Every step of one process whose snapshots are alone keeps the invariant.** -/
theorem Daemon.Once.step {a : Action} (h : d.Once source) (halone : SnapshotAlone d a)
    (hrestart : a ≠ .restart) (hstep : Node.step source d a = some d') : d'.Once source := by
  have hc := step_cases hstep
  have hwellFormed := h.wellFormed.step hc
  cases hc with
  | linked hl =>
    refine h.frame hwellFormed (fun j u hu huw => ?_) (fun id hid => ?_) (fun id hid => ?_)
      fun j u b x live hu hx => ?_
    · exact ⟨u, by rwa [hl.tasks] at hu, huw, rfl, fun b hb => hb⟩
    · exact Or.inl (by rwa [hl.persisted] at hid)
    · rw [hl.owner]
      exact h.known id (by rwa [hl.persisted] at hid)
    · exact h.execution j u b x live (by rwa [hl.tasks] at hu) hx
  | receive _ =>
    refine h.frame hwellFormed (fun j u hu huw => ?_) (fun id hid => Or.inl hid) h.known
      fun j u b x live hu hx => ?_
    · rcases tasks_setTask hu with ⟨-, hu'⟩ | ⟨-, hu'⟩
      · obtain rfl := Option.some.inj hu'
        cases huw
      · exact ⟨u, hu', huw, rfl, fun b hb => hb⟩
    · rcases tasks_setTask hu with ⟨-, hu'⟩ | ⟨-, hu'⟩
      · obtain rfl := Option.some.inj hu'
        cases hx
      · exact h.execution j u b x live hu' hx
  | refuse _ =>
    exact h.frame hwellFormed (fun j u hu huw => ⟨u, hu, huw, rfl, fun b hb => hb⟩)
      (fun id hid => Or.inl hid) h.known h.execution
  | begin ht _ hfree => exact h.begin ht hwellFormed hfree halone
  | start ht hphase =>
    rename_i i t baseline world
    refine h.frame hwellFormed (fun j u hu huw => ?_) (fun id hid => Or.inl hid) h.known
      fun j u b x live hu hx => ?_
    · rcases tasks_setTask hu with ⟨hji, hu'⟩ | ⟨-, hu'⟩
      · subst hji
        obtain rfl := Option.some.inj hu'
        exact ⟨t, ht, by rw [hphase]; rfl, rfl, fun b hb => (by cases hb)⟩
      · exact ⟨u, hu', huw, rfl, fun b hb => hb⟩
    · rcases tasks_setTask hu with ⟨-, hu'⟩ | ⟨-, hu'⟩
      · obtain rfl := Option.some.inj hu'
        obtain ⟨rfl, rfl, -⟩ := TaskPhase.executing.inj hx
        exact ⟨world, d.drawn, rfl⟩
      · exact h.execution j u b x live hu' hx
  | emit ht hphase =>
    rename_i i t baseline x event live queued
    refine h.moveTask ht hwellFormed fun u hu => ?_
    obtain rfl := Option.some.inj hu
    refine ⟨rfl, fun _ => by rw [hphase]; rfl, fun b hb => (by cases hb), fun b y l hy => ?_⟩
    obtain ⟨rfl, rfl, -⟩ := TaskPhase.executing.inj hy
    exact h.execution i t _ _ _ ht hphase
  | merge ht hphase hchanged => exact h.merge ht hphase hchanged hwellFormed
  | handle ht hphase hchanged =>
    rename_i i t baseline x
    rw [← Daemon.put_nil (d.setTask i _)] at hwellFormed ⊢
    refine h.moveTask ht hwellFormed fun u hu => ?_
    obtain rfl := Option.some.inj hu
    exact ⟨rfl, fun hw => (by cases hw), fun b hb => (by cases hb), fun b y l hy => (by cases hy)⟩
  | deliver ht hphase =>
    refine h.moveTask ht hwellFormed fun u hu => ?_
    obtain rfl := Option.some.inj hu
    exact ⟨rfl, fun hw => (by cases hw), fun b hb => (by cases hb), fun b y l hy => (by cases hy)⟩
  | ended ht _ _ => exact h.moveTask ht hwellFormed fun u hu => (by cases hu)
  | mutate hmerge =>
    obtain ⟨-, hstatus, -⟩ := mutate_keeps d.owner hmerge
    refine h.frame hwellFormed (fun j u hu huw => ⟨u, hu, huw, rfl, fun b hb => hb⟩)
      (fun id hid => Or.inl hid) (fun id hid => ?_) h.execution
    show (applyNodeStateMutation d.owner _).commandStatus.lookup id ≠ none
    rw [hstatus]
    exact h.known id hid
  | restart => exact absurd rfl hrestart

theorem once_start (loaded : NodeLocalState) : (Daemon.start loaded).Once source where
  wellFormed := wellFormed_start loaded
  apart i j t u _ ht := by cases ht
  known id hid := by cases hid
  snapshot i t b ht := by cases ht
  execution i t b x live ht := by cases ht

/-- In the states of the invariant every body starts once. -/
theorem Daemon.Once.startsOnce (h : d.Once source) (a : Action) : StartsOnce d a := by
  intro i world t baseline _ ht hphase hruns
  have htw : t.phase.underWay = true := by
    rw [hphase]
    rfl
  refine ⟨fun j u b x live hji hu hx => h.apart j i u t hji hu ht (by rw [hx]; rfl) htw,
    fun hid => ?_⟩
  have hnone : baseline.commandStatus.lookup t.command.commandId = none := by
    simp only [runsBody, Bool.and_eq_true, Option.isNone_iff_eq_none] at hruns
    exact hruns.2
  exact h.snapshot i t baseline ht hphase hid hnone

/-! ## 2. Bodies over the connections of a process -/

/-- **Over the connections of one process, however they end and whatever Core delivers again: if no
    command takes its snapshot while another dispatcher has it under way, the body of every
    command starts once.** -/
theorem bodies_startOnce (loaded : NodeLocalState) {as : List Action}
    (hprocess : Action.restart ∉ as)
    (halone : Meets (step source) SnapshotAlone (Daemon.start loaded) as) :
    Meets (step source) StartsOnce (Daemon.start loaded) as := by
  have hsame : Meets (step source) (fun _ a => a ≠ .restart) (Daemon.start loaded) as :=
    meets_of_mem fun a ha hrestart => hprocess (hrestart ▸ ha)
  exact (halone.and hsame).of_inv (Daemon.Once source)
    (fun _ _ _ h hC hstep => h.step hC.1 hC.2 hstep) (fun _ a h _ => h.startsOnce a)
    (once_start loaded)

/-! ## 3. A turn that two dispatchers run -/

/-- A Node that was enrolled before it loaded its state. -/
def enrolled : NodeLocalState := { nodeId := some "n1" }

/-- A turn runs when the connection fails. Core delivers it again on the next one. -/
def connectionFails : List Action :=
  [.dial, .connect, .receive sendTurnCommand, .begin 0, .start 0 true quietWorld, .fail, .dial,
    .connect, .receive sendTurnCommand, .begin 1]

/-- The turn's body starts while it runs. -/
theorem connectionFails_startsTwice :
    Action.restart ∉ connectionFails ++ [.start 1 true quietWorld] ∧
      ¬ Meets (step countedSource) StartsOnce (Daemon.start enrolled)
        (connectionFails ++ [.start 1 true quietWorld]) := by
  refine ⟨fun h => ?_, fun h => ?_⟩
  · simp [connectionFails] at h
  · have hstarts := Meets.holds h rfl
    exact (hstarts 1 quietWorld _ _ rfl rfl rfl rfl).1 0 _ _ _ _ (by decide) rfl rfl rfl

/-- `SnapshotAlone`, checked. -/
def snapshotAlone (d : Daemon) : Action → Bool
  | .begin i => (d.tasks i).all fun t => d.allTasks fun _ u =>
      !u.phase.underWay || u.command.commandId != t.command.commandId ||
        u.dispatcher == t.dispatcher
  | _ => true

theorem snapshotAlone_check {a : Action} (h : d.WellFormed) (hc : snapshotAlone d a = true) :
    SnapshotAlone d a := by
  intro i t ha ht j u hu huw hid
  subst ha
  rw [snapshotAlone, ht] at hc
  have halone := h.of_allTasks hc hu
  simpa [huw, hid] using halone

/-- The connection closes instead, and the turn's task is gone when Core delivers it again. -/
theorem bodies_startOnce_connectionCloses :
    Meets (step countedSource) StartsOnce (Daemon.start enrolled)
      [.dial, .connect, .receive sendTurnCommand, .begin 0, .start 0 true quietWorld, .close,
        .stop 0, .dial, .connect, .receive sendTurnCommand, .begin 1, .start 1 true quietWorld] := by
  refine bodies_startOnce enrolled (fun h => ?_) (meets_of_check Daemon.WellFormed
    (fun _ _ _ => wellFormed_step) (fun _ _ => snapshotAlone_check) (wellFormed_start enrolled) ?_)
  · simp at h
  · decide

end Uprava.Node
