/-
  File:      Uprava/Node/Cancelled.lean
  Subject:   A cancellation the Node answered is kept: the work command of its key ends as
             cancelled.

  * `Dispatchers.Kept`               -- what holds of the work commands of an answered cancellation;
  * `Dispatchers.Remembers`          -- when a step lets go of no cancellation;
  * `Dispatchers.Sound`              -- the invariant of the runs whose steps remember;
  * `Dispatchers.cancellations_kept` -- in every such run the answered cancellations are kept;
  * `toolCallAfterCancel_completes`  -- a run in which the Node completes a cancelled tool call.
-/
import Uprava.Node.Cancellation

namespace Uprava.Node

open Uprava.Protocol
open Uprava.Lib (Assoc run Meets run_inv_of_meets meets_of_check)

/-! ## 1. Work commands and their cancellations -/

/-- A work command of a key that runs, and where it is. -/
structure Job.Running (t : Job) (key : String) (baseline : NodeLocalState) (saw : Sighting)
    (rest : List Stage) : Prop where
  phase : t.phase = .working baseline saw rest
  work : isWork t.command = true
  isNew : t.isNew baseline = true
  key : executionCancellationKey t.command = some key

/-- Has the Node answered a cancel command of the key as completed? -/
def AnsweredIn (log : List LogEntry) (key : String) : Prop :=
  ∃ command, .answered command .completed ∈ log ∧ cancellationSignal command = some (key, true)

namespace Dispatchers

/-- A cancel command of the key has given its signal and is not answered. -/
def UnderWay (d : Dispatchers) (key : String) : Prop :=
  ∃ i t, d.jobs i = some t ∧ t.phase.signalled = true ∧
    cancellationSignal t.command = some (key, true)

def Cancelled (d : Dispatchers) (key : String) : Prop := AnsweredIn d.log key ∨ d.UnderWay key

/-- A work command that is executed after the answer says that it was cancelled. -/
def EndedCancelled (log : List LogEntry) : Prop :=
  ∀ later earlier command outcome key, log = later ++ .finished command outcome :: earlier →
    isWork command = true → executionCancellationKey command = some key →
    AnsweredIn earlier key → reportsCancellation command outcome = true

/-- What an answered cancellation means: work that ended since was cancelled, and work that still
    runs has stages left that end it as cancelled. -/
structure Kept (source : EventSource) (d : Dispatchers) : Prop where
  ended : EndedCancelled d.log
  running : ∀ i t key baseline saw rest, d.jobs i = some t → t.Running key baseline saw rest →
    AnsweredIn d.log key → ∃ actions d' outcome, run (step source) d actions = some d' ∧
      d'.log = .finished t.command outcome :: d.log ∧
      reportsCancellation t.command outcome = true

/-! ## 2. Steps that remember -/

/-- What keeps a step from losing a cancellation.

    When a cancel command gives its signal, a running work command of its key is the one the
    registry names: it runs on this connection, and no other work command took its place. When a
    work command takes its copy, a cancellation that was signalled before is on its channel, as its
    receiver reads it, or in the copy. When a cancel command is answered, a running work command
    has not looked for the last time. And after the answer no operation fails, and the last
    `select!` takes the cancellation it sees. -/
def Remembers (d : Dispatchers) : CancellationAction → Prop
  | .signal i => ∀ t key j u baseline saw rest, d.jobs i = some t →
      cancellationSignal t.command = some (key, true) → d.jobs j = some u →
      u.Running key baseline saw rest → (d.registries t.dispatcher).senders.lookup key = some j
  | .snapshot i true => ∀ t key, d.jobs i = some t → isWork t.command = true →
      t.isNew d.owner = true → executionCancellationKey t.command = some key → d.Cancelled key →
      t.heard = true ∨ t.tombstoned d.owner = true
  | .advance i .passes => ∀ t key baseline saw evidence rest, d.jobs i = some t →
      t.Running key baseline saw (.select evidence :: rest) → AnsweredIn d.log key →
      t.heard = true → rest.any Stage.watches = true
  | .fail i _ => ∀ t key baseline saw rest, d.jobs i = some t → t.Running key baseline saw rest →
      ¬ AnsweredIn d.log key
  | .result i true => ∀ t key outcome j u baseline saw rest, d.jobs i = some t →
      t.phase = .answering outcome → outcome.status = .completed →
      cancellationSignal t.command = some (key, true) → d.jobs j = some u →
      u.Running key baseline saw rest → saw ≠ .unseen ∨ rest.any Stage.watches = true
  | _ => True

end Dispatchers

/-! ## 3. What a work command saw is what it reports -/

section Reports

variable {source : EventSource} {world : World} {s : NodeLocalState} {drawn : Nat}
  {command : CommandEnvelope}

theorem isWork_cases (hwork : isWork command = true) :
    (∃ package, command.kind = .requestDeduction ∧ command.payload = .requestDeduction package) ∨
    (∃ path spec, command.kind = .runTask ∧ command.payload = .runTask path spec) ∨
    (∃ version toolCallId toolId schemaHash integrationId dependencyId arguments,
      command.kind = .tooling ∧ command.payload = .tooling ⟨version,
        .executeExternalTool toolCallId toolId schemaHash integrationId dependencyId arguments⟩) := by
  unfold isWork at hwork
  split at hwork
  · rename_i package hkind hpayload
    exact Or.inl ⟨package, hkind, hpayload⟩
  · rename_i path spec hkind hpayload
    exact Or.inr (Or.inl ⟨path, spec, hkind, hpayload⟩)
  · rename_i version a b c d e f hkind hpayload
    exact Or.inr (Or.inr ⟨version, a, b, c, d, e, f, hkind, hpayload⟩)
  · cases hwork

/-- A work command the Node has no status of runs its body. -/
theorem handleCommand_of_isWork (hwork : isWork command = true)
    (hnew : (s.commandStatus.lookup command.commandId).isNone = true) :
    handleCommand source world s drawn command = commandBody source world s drawn command := by
  have hlookup := Option.isNone_iff_eq_none.mp hnew
  rcases isWork_cases hwork with ⟨package, hkind, hpayload⟩ | ⟨path, spec, hkind, hpayload⟩ |
    ⟨version, a, b, c, d, e, f, hkind, hpayload⟩ <;>
    simp [handleCommand, accessFails, prepareCommandDispatch, hkind, hpayload, hlookup,
      CommandPayload.matchesKind, CommandPayload.kind]

theorem get_errorCode_deductionErrorPayload {package : DeductionInputPackage}
    (hpayload : command.payload = .requestDeduction package) (provider code message : String) :
    (deductionErrorPayload command provider code message).get "error_code" =
      some (.string code) := by
  simp [deductionErrorPayload, hpayload, Lib.JsonValue.get_ofFields, List.lookup_cons]

/-- **A work command that saw its cancellation reports it.** -/
theorem reportsCancellation_of_saw {saw : Sighting} (hwork : isWork command = true)
    (hnew : (s.commandStatus.lookup command.commandId).isNone = true) (hsaw : saw ≠ .unseen) :
    reportsCancellation command
      (handleCommand source (world.seen command saw) s drawn command).outcome = true := by
  rw [handleCommand_of_isWork hwork hnew]
  have hseen : world.seen command saw = { world with
      cancelled := saw = .looked
      deductionResult := cancelledDeduction world command
      taskResult := cancelledTask world
      toolingResult := cancelledToolCall world command } := by
    cases saw with
    | unseen => exact absurd rfl hsaw
    | looked => rfl
    | selected => rfl
  rw [hseen]
  rcases isWork_cases hwork with ⟨package, hkind, hpayload⟩ | ⟨path, spec, hkind, hpayload⟩ |
    ⟨version, a, b, c, d, e, f, hkind, hpayload⟩
  · have hbody : commandBody source { world with
          cancelled := saw = .looked
          deductionResult := cancelledDeduction world command
          taskResult := cancelledTask world
          toolingResult := cancelledToolCall world command } s drawn command =
        deductionBody { world with
          cancelled := saw = .looked
          deductionResult := cancelledDeduction world command
          taskResult := cancelledTask world
          toolingResult := cancelledToolCall world command } s drawn command := by
      simp only [commandBody, hkind, hpayload]
    rw [hbody]
    unfold deductionBody
    dsimp only
    split
    · simp [reportsCancellation, hpayload, answer, get_errorCode_deductionErrorPayload hpayload]
    · split
      · simp [reportsCancellation, hpayload, answer, get_errorCode_deductionErrorPayload hpayload]
      · simp [reportsCancellation, hpayload, answer, cancelledDeduction, Lib.JsonValue.get_set,
          get_errorCode_deductionErrorPayload hpayload]
  · simp [reportsCancellation, commandBody, taskBody, answerWithEvents, deliverEvents, hkind, hpayload,
      cancelledTask, Lib.JsonValue.get_set]
  · simp [reportsCancellation, commandBody, toolingBody, hkind, hpayload, cancelledToolCall,
      Lib.JsonValue.get_ofFields, List.lookup_cons]

end Reports

/-! ## 4. The invariant -/

section Signals

variable {t : Job} {s : NodeLocalState} {key : String} {baseline : NodeLocalState} {saw : Sighting}
  {rest : List Stage}

/-- A job sees the cancellation at a stage to come, or has seen it. -/
def Job.Remembered (t : Job) (baseline : NodeLocalState) (saw : Sighting) (rest : List Stage) :
    Prop :=
  saw ≠ .unseen ∨ t.heard = true ∨
    (t.tombstoned baseline = true ∧ ∃ evidence later, rest = .look evidence :: later)

@[simp] theorem Job.command_send (value : Bool) : (t.send value).command = t.command := rfl

@[simp] theorem Job.phase_send (value : Bool) : (t.send value).phase = t.phase := rfl

/-- A job with a channel hears what is sent on it. -/
theorem Job.heard_send (hchannel : t.channel.isSome = true) : (t.send true).heard = true := by
  obtain ⟨w, hw⟩ := Option.isSome_iff_exists.mp hchannel
  unfold Job.heard Job.send
  rw [hw]
  split
  · simp
  · simp

theorem Job.heard_send_of_heard (h : t.heard = true) : (t.send true).heard = true := by
  refine Job.heard_send ?_
  unfold Job.heard at h
  cases hchannel : t.channel with
  | some w => rfl
  | none =>
    rw [hchannel] at h
    split at h <;> cases h

theorem Job.Remembered.send (h : t.Remembered baseline saw rest) :
    (t.send true).Remembered baseline saw rest := by
  rcases h with hsaw | hheard | ⟨htomb, hlook⟩
  · exact Or.inl hsaw
  · exact Or.inr (Or.inl (Job.heard_send_of_heard hheard))
  · exact Or.inr (Or.inr ⟨htomb, hlook⟩)

theorem Job.Running.of_send (h : (t.send true).Running key baseline saw rest) :
    t.Running key baseline saw rest :=
  ⟨h.phase, h.work, h.isNew, h.key⟩

/-- The stages of a work command that is new to the Node. -/
theorem watches_stages (hwork : isWork t.command = true) (hnew : t.isNew s = true) :
    (t.stages s).any Stage.watches = true := by
  unfold Job.stages
  rw [if_pos hnew]
  rcases isWork_cases hwork with ⟨package, -, hpayload⟩ | ⟨path, spec, -, hpayload⟩ |
    ⟨version, a, b, c, e, f, g, -, hpayload⟩ <;> (rw [hpayload]; rfl)

/-- A deduction that was cancelled by a tombstone looks first. -/
theorem look_of_tombstoned (hnew : t.isNew s = true) (htomb : t.tombstoned s = true) :
    ∃ evidence later, t.stages s = .look evidence :: later := by
  unfold Job.stages
  rw [if_pos hnew]
  unfold Job.tombstoned at htomb
  split at htomb
  · rename_i package hpayload
    rw [hpayload]
    exact ⟨_, _, rfl⟩
  · cases htomb

end Signals

theorem answeredIn_finished {log : List LogEntry} {key : String} {command : CommandEnvelope}
    {outcome : CommandDispatchOutcome} :
    AnsweredIn (.finished command outcome :: log) key ↔ AnsweredIn log key := by
  simp [AnsweredIn]

namespace Dispatchers

/-- A work command of a cancelled key remembers the cancellation, from the answer on with a look
    still before it, and what ended since was cancelled. -/
structure Sound (d : Dispatchers) : Prop where
  channel : ∀ i t key, d.jobs i = some t → t.phase.holdsPermit = true →
    executionCancellationKey t.command = some key → t.channel.isSome = true
  remembered : ∀ i t key baseline saw rest, d.jobs i = some t → t.Running key baseline saw rest →
    d.Cancelled key → t.Remembered baseline saw rest
  ahead : ∀ i t key baseline saw rest, d.jobs i = some t → t.Running key baseline saw rest →
    AnsweredIn d.log key → saw ≠ .unseen ∨ rest.any Stage.watches = true
  ended : EndedCancelled d.log

theorem sound_start (loaded : NodeLocalState) : (start loaded).Sound where
  channel i t key hjob := by cases hjob
  remembered i t key baseline saw rest hjob := by cases hjob
  ahead i t key baseline saw rest hjob := by cases hjob
  ended later earlier command outcome key hlog := by
    have hnil : ([] : List LogEntry) = later ++ .finished command outcome :: earlier := hlog
    simp at hnil

section Steps

variable {source : EventSource} {d d' : Dispatchers} {i : Nat} {t : Job}

/-- One job moves, and no cancellation is new. -/
theorem Sound.setJob {t' : Option Job} (hs : d.Sound) (hlog : d'.log = d.log)
    (hjobs : d'.jobs = Function.update d.jobs i t')
    (hsignal : ∀ u key, t' = some u → u.phase.signalled = true →
      cancellationSignal u.command = some (key, true) → d.Cancelled key)
    (hchannel : ∀ u key, t' = some u → u.phase.holdsPermit = true →
      executionCancellationKey u.command = some key → u.channel.isSome = true)
    (hrunning : ∀ u key baseline saw rest, t' = some u → u.Running key baseline saw rest →
      (d.Cancelled key → u.Remembered baseline saw rest) ∧
        (AnsweredIn d.log key → saw ≠ .unseen ∨ rest.any Stage.watches = true)) :
    d'.Sound := by
  have hat : ∀ j u, d'.jobs j = some u → (j = i ∧ t' = some u) ∨ d.jobs j = some u := by
    intro j u hj
    rw [hjobs, Function.update_apply] at hj
    by_cases hji : j = i
    · rw [if_pos hji] at hj
      exact Or.inl ⟨hji, hj⟩
    · rw [if_neg hji] at hj
      exact Or.inr hj
  have hcancelled : ∀ key, d'.Cancelled key → d.Cancelled key := by
    intro key hc
    rcases hc with ha | ⟨j, u, hj, hphase, hsig⟩
    · rw [hlog] at ha
      exact Or.inl ha
    · rcases hat j u hj with ⟨-, hu⟩ | hj
      · exact hsignal u key hu hphase hsig
      · exact Or.inr ⟨j, u, hj, hphase, hsig⟩
  refine ⟨fun j u key hj hphase hkey => ?_, fun j u key baseline saw rest hj hrun hc => ?_,
    fun j u key baseline saw rest hj hrun ha => ?_, ?_⟩
  · rcases hat j u hj with ⟨-, hu⟩ | hj
    · exact hchannel u key hu hphase hkey
    · exact hs.channel j u key hj hphase hkey
  · rcases hat j u hj with ⟨-, hu⟩ | hj
    · exact (hrunning u key baseline saw rest hu hrun).1 (hcancelled key hc)
    · exact hs.remembered j u key baseline saw rest hj hrun (hcancelled key hc)
  · rw [hlog] at ha
    rcases hat j u hj with ⟨-, hu⟩ | hj
    · exact (hrunning u key baseline saw rest hu hrun).2 ha
    · exact hs.ahead j u key baseline saw rest hj hrun ha
  · rw [hlog]
    exact hs.ended

/-- A step that moves no job. -/
theorem Sound.congr (hs : d.Sound) (hlog : d'.log = d.log) (hjobs : d'.jobs = d.jobs) :
    d'.Sound := by
  refine @Sound.setJob _ _ 0 (d.jobs 0) hs hlog ?_ ?_ ?_ ?_
  · rw [hjobs, Function.update_eq_self]
  · exact fun u key hu hphase hsig => Or.inr ⟨0, u, hu, hphase, hsig⟩
  · exact fun u key hu => hs.channel 0 u key hu
  · exact fun u key baseline saw rest hu hrun =>
      ⟨hs.remembered 0 u key baseline saw rest hu hrun, hs.ahead 0 u key baseline saw rest hu hrun⟩

/-- A job that does not run its work. -/
theorem Sound.setIdle {u : Job} (hs : d.Sound) (hlog : d'.log = d.log)
    (hjobs : d'.jobs = Function.update d.jobs i (some u)) (hjob : d.jobs i = some t)
    (hsignalled : t.phase.signalled = true) (hcommand : u.command = t.command)
    (hchannel : ∀ key, u.phase.holdsPermit = true → executionCancellationKey u.command = some key →
      u.channel.isSome = true)
    (hidle : ∀ baseline saw rest, u.phase ≠ .working baseline saw rest) : d'.Sound := by
  refine hs.setJob hlog hjobs ?_ ?_ ?_
  · intro v key hv _ hsig
    obtain rfl := Option.some.inj hv
    rw [hcommand] at hsig
    exact Or.inr ⟨i, t, hjob, hsignalled, hsig⟩
  · intro v key hv
    obtain rfl := Option.some.inj hv
    exact hchannel key
  · intro v key baseline saw rest hv hrun
    obtain rfl := Option.some.inj hv
    exact absurd hrun.phase (hidle baseline saw rest)

/-- A job that is gone. -/
theorem Sound.gone (hs : d.Sound) (hlog : d'.log = d.log)
    (hjobs : d'.jobs = Function.update d.jobs i none) : d'.Sound := by
  refine hs.setJob hlog hjobs ?_ ?_ ?_
  · intro u key hu
    cases hu
  · intro u key hu
    cases hu
  · intro u key baseline saw rest hu
    cases hu

theorem log_finish : (d.finish i t).log = d.log := by
  unfold finish
  split <;> rfl

theorem jobs_finish : (d.finish i t).jobs = Function.update d.jobs i none := by
  unfold finish
  split <;> rfl

/-- A command that was executed joins the log. -/
theorem Sound.finished {command : CommandEnvelope} {outcome : CommandDispatchOutcome} (hs : d.Sound)
    (h : ∀ key, isWork command = true → executionCancellationKey command = some key →
      AnsweredIn d.log key → reportsCancellation command outcome = true) :
    (d.note (.finished command outcome)).Sound := by
  refine ⟨hs.channel, fun j u key baseline saw rest hj hrun hc => ?_,
    fun j u key baseline saw rest hj hrun ha => ?_, ?_⟩
  · refine hs.remembered j u key baseline saw rest hj hrun ?_
    exact hc.imp_left answeredIn_finished.mp
  · exact hs.ahead j u key baseline saw rest hj hrun (answeredIn_finished.mp ha)
  · intro later earlier c o key hlog hwork hkey ha
    have hcons : LogEntry.finished command outcome :: d.log =
        later ++ .finished c o :: earlier := hlog
    cases later with
    | nil =>
      obtain ⟨hentry, rfl⟩ := List.cons.inj hcons
      obtain ⟨rfl, rfl⟩ := LogEntry.finished.inj hentry
      exact h key hwork hkey ha
    | cons e later =>
      obtain ⟨-, hrest⟩ := List.cons.inj hcons
      exact hs.ended later earlier c o key hrest hwork hkey ha

/-- A command that was answered joins the log. Only a cancel command that completed matters. -/
theorem Sound.answered {command : CommandEnvelope} {status : CommandState} (hs : d.Sound)
    (h : ∀ key, status = .completed → cancellationSignal command = some (key, true) →
      d.Cancelled key ∧ ∀ j u baseline saw rest, d.jobs j = some u →
        u.Running key baseline saw rest → saw ≠ .unseen ∨ rest.any Stage.watches = true) :
    (d.note (.answered command status)).Sound := by
  have hnew : ∀ key, AnsweredIn (.answered command status :: d.log) key →
      AnsweredIn d.log key ∨ (status = .completed ∧
        cancellationSignal command = some (key, true)) := by
    intro key ha
    obtain ⟨c, hmem, hsig⟩ := ha
    rcases List.mem_cons.mp hmem with heq | hmem
    · obtain ⟨rfl, rfl⟩ := LogEntry.answered.inj heq
      exact Or.inr ⟨rfl, hsig⟩
    · exact Or.inl ⟨c, hmem, hsig⟩
  refine ⟨hs.channel, fun j u key baseline saw rest hj hrun hc => ?_,
    fun j u key baseline saw rest hj hrun ha => ?_, ?_⟩
  · refine hs.remembered j u key baseline saw rest hj hrun ?_
    rcases hc with ha | hunder
    · rcases hnew key ha with ha | ⟨hstatus, hsig⟩
      · exact Or.inl ha
      · exact (h key hstatus hsig).1
    · exact Or.inr hunder
  · rcases hnew key ha with ha | ⟨hstatus, hsig⟩
    · exact hs.ahead j u key baseline saw rest hj hrun ha
    · exact (h key hstatus hsig).2 j u baseline saw rest hj hrun
  · intro later earlier c o key hlog
    have hcons : LogEntry.answered command status :: d.log =
        later ++ .finished c o :: earlier := hlog
    cases later with
    | nil => cases hcons
    | cons e later =>
      obtain ⟨-, hrest⟩ := List.cons.inj hcons
      exact hs.ended later earlier c o key hrest

/-! ## 5. Steps keep the invariant -/

theorem jobs_cancel (e : Nat) (key : String) (rememberIfPending : Bool) (j : Nat) :
    (d.cancel e key rememberIfPending).jobs j =
      if (d.registries e).senders.lookup key = some j then (d.jobs j).map (·.send true)
      else d.jobs j := by
  unfold Dispatchers.cancel
  split
  · rename_i k hlookup
    by_cases hjk : j = k
    · subst hjk
      simp [Dispatchers.setJob, hlookup]
    · have hne : ¬ (d.registries e).senders.lookup key = some j := by
        rw [hlookup]
        exact fun h => hjk (Option.some.inj h).symm
      rw [if_neg hne]
      exact Function.update_of_ne hjk _ _
  · rename_i hlookup
    rw [hlookup]
    rfl

theorem log_cancel (e : Nat) (key : String) (rememberIfPending : Bool) :
    (d.cancel e key rememberIfPending).log = d.log := by
  unfold Dispatchers.cancel
  split <;> rfl

/-- A job after a cancel command gave its signal is the job before, sent to or not; the cancel
    command itself now waits. -/
theorem jobs_signalled {e : Nat} {key : String} {rememberIfPending : Bool} {j : Nat} {u : Job}
    (h : ((d.setJob i (some { t with phase := .waiting })).cancel e key rememberIfPending).jobs j =
      some u) :
    (j = i ∧ u.command = t.command ∧ u.phase = .waiting) ∨
      ∃ v, d.jobs j = some v ∧
        ((u = v ∧ (d.registries e).senders.lookup key ≠ some j) ∨ u = v.send true) := by
  rw [jobs_cancel] at h
  by_cases hji : j = i
  · subst hji
    have hself : (d.setJob j (some { t with phase := .waiting })).jobs j =
        some { t with phase := .waiting } := Function.update_self ..
    rw [hself] at h
    refine Or.inl ⟨rfl, ?_⟩
    split at h
    · obtain rfl := Option.some.inj h
      exact ⟨rfl, rfl⟩
    · obtain rfl := Option.some.inj h
      exact ⟨rfl, rfl⟩
  · have hother : (d.setJob i (some { t with phase := .waiting })).jobs j = d.jobs j :=
      Function.update_of_ne hji _ _
    rw [hother] at h
    refine Or.inr ?_
    split at h
    · obtain ⟨v, hv, rfl⟩ := Option.map_eq_some_iff.mp h
      exact ⟨v, hv, Or.inr rfl⟩
    · rename_i hlookup
      exact ⟨u, h, Or.inl ⟨rfl, hlookup⟩⟩

theorem Sound.signal (hs : d.Sound) (hjob : d.jobs i = some t) (hC : d.Remembers (.signal i))
    (h : d.signal i t = some d') : d'.Sound := by
  obtain ⟨hphase, ⟨hnone, rfl⟩ | ⟨key, rememberIfPending, hsignal, rfl⟩⟩ := signal_eq_some h
  · refine hs.setJob rfl rfl ?_ ?_ ?_
    · intro u key hu _ hsig
      obtain rfl := Option.some.inj hu
      rw [hnone] at hsig
      cases hsig
    · intro u key hu hholds
      obtain rfl := Option.some.inj hu
      cases hholds
    · intro u key baseline saw rest hu hrun
      obtain rfl := Option.some.inj hu
      cases hrun.phase
  · have hlog := log_cancel (d := d.setJob i (some { t with phase := .waiting })) t.dispatcher key
      rememberIfPending
    -- What runs now ran before, and was sent to or not.
    have hran : ∀ j u k baseline saw rest,
        ((d.setJob i (some { t with phase := .waiting })).cancel t.dispatcher key
          rememberIfPending).jobs j = some u → u.Running k baseline saw rest →
        ∃ v, d.jobs j = some v ∧ v.Running k baseline saw rest ∧
          ((u = v ∧ (d.registries t.dispatcher).senders.lookup key ≠ some j) ∨ u = v.send true) := by
      intro j u k baseline saw rest hj hrun
      rcases jobs_signalled hj with ⟨-, -, hwaiting⟩ | ⟨v, hv, hsent⟩
      · have hworking := hrun.phase
        rw [hwaiting] at hworking
        cases hworking
      · refine ⟨v, hv, ?_, hsent⟩
        rcases hsent with ⟨rfl, -⟩ | rfl
        · exact hrun
        · exact hrun.of_send
    refine ⟨fun j u k hj hholds hkey => ?_, fun j u k baseline saw rest hj hrun hc => ?_,
      fun j u k baseline saw rest hj hrun ha => ?_, ?_⟩
    · rcases jobs_signalled hj with ⟨-, -, hwaiting⟩ | ⟨v, hv, ⟨rfl, -⟩ | rfl⟩
      · rw [hwaiting] at hholds
        cases hholds
      · exact hs.channel j u k hv hholds hkey
      · have hsome := hs.channel j v k hv hholds hkey
        simpa [Job.send] using hsome
    · obtain ⟨v, hv, hvrun, hsent⟩ := hran j u k baseline saw rest hj hrun
      have hbefore : d.Cancelled k ∨ (k = key ∧ rememberIfPending = true) := by
        rcases hc with ha | ⟨j', u', hj', hphase', hsig'⟩
        · rw [hlog] at ha
          exact Or.inl (Or.inl ha)
        · rcases jobs_signalled hj' with ⟨-, hcommand, -⟩ | ⟨v', hv', hsent'⟩
          · rw [hcommand, hsignal] at hsig'
            obtain ⟨hkk, hr⟩ := Prod.mk.inj (Option.some.inj hsig')
            exact Or.inr ⟨hkk.symm, hr⟩
          · refine Or.inl (Or.inr ⟨j', v', hv', ?_⟩)
            rcases hsent' with ⟨rfl, -⟩ | rfl
            · exact ⟨hphase', hsig'⟩
            · exact ⟨hphase', hsig'⟩
      rcases hbefore with hc | ⟨rfl, rfl⟩
      · have hrem := hs.remembered j v k baseline saw rest hv hvrun hc
        rcases hsent with ⟨rfl, -⟩ | rfl
        · exact hrem
        · exact hrem.send
      · -- The work command of the signalled key is the one the registry names.
        have hlookup := hC t k j v baseline saw rest hjob hsignal hv hvrun
        rcases hsent with ⟨-, hnot⟩ | rfl
        · exact absurd hlookup hnot
        · have hholds : v.phase.holdsPermit = true := by
            rw [hvrun.phase]
            rfl
          exact Or.inr (Or.inl (Job.heard_send (hs.channel j v k hv hholds hvrun.key)))
    · obtain ⟨v, hv, hvrun, -⟩ := hran j u k baseline saw rest hj hrun
      rw [hlog] at ha
      exact hs.ahead j v k baseline saw rest hv hvrun ha
    · rw [hlog]
      exact hs.ended

theorem Sound.register (hs : d.Sound) (hjob : d.jobs i = some t)
    (h : d.register i t = some d') : d'.Sound := by
  have hnotWorking : ∀ baseline saw rest, JobPhase.registered ≠ .working baseline saw rest := by
    intro baseline saw rest hphase
    cases hphase
  obtain ⟨hphase, ⟨hnone, rfl⟩ | ⟨key, hkey, rfl⟩⟩ := register_eq_some h
  · refine hs.setIdle rfl rfl hjob (by rw [hphase]; rfl) rfl ?_ hnotWorking
    intro key _ hkey
    have hkey' : executionCancellationKey t.command = some key := hkey
    rw [hnone] at hkey'
    cases hkey'
  · refine hs.setIdle rfl rfl hjob (by rw [hphase]; rfl) rfl ?_ hnotWorking
    intro key' _ _
    rfl

theorem Sound.snapshot {acknowledged : Bool} (hs : d.Sound) (hjob : d.jobs i = some t)
    (hC : d.Remembers (.snapshot i acknowledged)) (h : d.snapshot i acknowledged t = some d') :
    d'.Sound := by
  obtain ⟨hphase, ⟨rfl, rfl⟩ | ⟨-, rfl⟩⟩ := snapshot_eq_some h
  · refine hs.setJob rfl rfl ?_ ?_ ?_
    · intro u key hu _ hsig
      obtain rfl := Option.some.inj hu
      exact Or.inr ⟨i, t, hjob, by rw [hphase]; rfl, hsig⟩
    · intro u key hu _ hkey
      obtain rfl := Option.some.inj hu
      exact hs.channel i t key hjob (by rw [hphase]; rfl) hkey
    · intro u key baseline saw rest hu hrun
      obtain rfl := Option.some.inj hu
      have hphase' := hrun.phase
      obtain ⟨rfl, rfl, rfl⟩ := JobPhase.working.inj hphase'
      refine ⟨fun hc => ?_, fun _ => Or.inr (watches_stages hrun.work hrun.isNew)⟩
      rcases hC t key hjob hrun.work hrun.isNew hrun.key hc with hheard | htomb
      · exact Or.inr (Or.inl hheard)
      · exact Or.inr (Or.inr ⟨htomb, look_of_tombstoned hrun.isNew htomb⟩)
  · exact hs.gone log_finish jobs_finish

theorem Sound.advance {progress : Progress} (hs : d.Sound) (hjob : d.jobs i = some t)
    (hC : d.Remembers (.advance i progress)) (h : d.advance i progress t = some d') : d'.Sound := by
  obtain ⟨baseline, saw, stage, rest, hphase, hmoved⟩ := advance_eq_some h
  have hunder : ∀ key, cancellationSignal t.command = some (key, true) → d.Cancelled key := by
    intro key hsig
    exact Or.inr ⟨i, t, hjob, by rw [hphase]; rfl, hsig⟩
  have hchannel : ∀ key, executionCancellationKey t.command = some key →
      t.channel.isSome = true := by
    intro key hkey
    exact hs.channel i t key hjob (by rw [hphase]; rfl) hkey
  rcases hmoved with ⟨rfl, hlook, rfl⟩ | ⟨rfl, -, sighting, hsaw, rfl⟩
  · refine hs.setJob rfl rfl ?_ ?_ ?_
    · intro u key hu _ hsig
      obtain rfl := Option.some.inj hu
      exact hunder key hsig
    · intro u key hu _ hkey
      obtain rfl := Option.some.inj hu
      exact hchannel key hkey
    · intro u key baseline' saw' rest' hu hrun
      obtain rfl := Option.some.inj hu
      obtain ⟨rfl, rfl, rfl⟩ := JobPhase.working.inj hrun.phase
      have hran : t.Running key baseline saw (stage :: rest) :=
        ⟨hphase, hrun.work, hrun.isNew, hrun.key⟩
      have hremembered : d.Cancelled key → saw ≠ .unseen ∨
          (t.heard = true ∧ ∀ evidence, stage ≠ .look evidence) := by
        intro hc
        rcases hs.remembered i t key baseline saw _ hjob hran hc with hsaw | hheard |
          ⟨htomb, evidence, later, heq⟩
        · exact Or.inl hsaw
        · refine Or.inr ⟨hheard, fun evidence hstage => ?_⟩
          have hblind := hlook evidence hstage
          rw [hstage] at hblind
          simp [Job.sees, hheard] at hblind
        · -- A look that sees the tombstone does not pass.
          obtain ⟨rfl, -⟩ := List.cons.inj heq
          have hblind := hlook evidence rfl
          simp [Job.sees, htomb] at hblind
      refine ⟨fun hc => ?_, fun ha => ?_⟩
      · rcases hremembered hc with hsaw | ⟨hheard, -⟩
        · exact Or.inl hsaw
        · exact Or.inr (Or.inl hheard)
      · rcases hremembered (Or.inl ha) with hsaw | ⟨hheard, hnotLook⟩
        · exact Or.inl hsaw
        · cases stage with
          | operate =>
            rcases hs.ahead i t key baseline saw _ hjob hran ha with hsaw | hany
            · exact Or.inl hsaw
            · refine Or.inr ?_
              simpa [Stage.watches] using hany
          | look evidence => exact absurd rfl (hnotLook evidence)
          | select evidence =>
            exact Or.inr (hC t key baseline saw evidence rest hjob hran ha hheard)
  · refine hs.setJob rfl rfl ?_ ?_ ?_
    · intro u key hu _ hsig
      obtain rfl := Option.some.inj hu
      exact hunder key hsig
    · intro u key hu _ hkey
      obtain rfl := Option.some.inj hu
      exact hchannel key hkey
    · intro u key baseline' saw' rest' hu hrun
      obtain rfl := Option.some.inj hu
      obtain ⟨rfl, rfl, rfl⟩ := JobPhase.working.inj hrun.phase
      exact ⟨fun _ => Or.inl hsaw, fun _ => Or.inl hsaw⟩

/-- A body that ends reports a cancellation it answers for. -/
theorem Sound.ends {baseline : NodeLocalState} {saw : Sighting} {world : World} {rest : List Stage}
    (hs : d.Sound) (hjob : d.jobs i = some t) (hphase : ∃ saw', t.phase = .working baseline saw' rest)
    (hsaw : ∀ key, isWork t.command = true → t.isNew baseline = true →
      executionCancellationKey t.command = some key → AnsweredIn d.log key → saw ≠ .unseen) :
    (d.ends source i t baseline saw world).Sound := by
  obtain ⟨saw', hphase⟩ := hphase
  have hmoved : ({ d.setJob i (some { t with phase := .ended baseline (handleCommand source
      (world.seen t.command saw) baseline d.drawn t.command) }) with
        drawn := (handleCommand source (world.seen t.command saw) baseline d.drawn
          t.command).drawn } : Dispatchers).Sound := by
    refine hs.setIdle rfl rfl hjob (by rw [hphase]; rfl) rfl ?_ ?_
    · intro key _ hkey
      exact hs.channel i t key hjob (by rw [hphase]; rfl) hkey
    · intro baseline' saw' rest' h
      cases h
  unfold Dispatchers.ends
  dsimp only
  split
  · rename_i hnew
    refine hmoved.finished ?_
    intro key hwork hkey ha
    exact reportsCancellation_of_saw hwork hnew (hsaw key hwork hnew hkey ha)
  · exact hmoved

theorem Sound.fail {world : World} (hs : d.Sound) (hjob : d.jobs i = some t)
    (hC : d.Remembers (.fail i world)) (h : d.fail source i world t = some d') : d'.Sound := by
  obtain ⟨baseline, saw, stage, rest, hphase, rfl⟩ := fail_eq_some h
  refine hs.ends hjob ⟨saw, hphase⟩ ?_
  intro key hwork hnew hkey ha
  exact absurd ha (hC t key baseline saw (stage :: rest) hjob ⟨hphase, hwork, hnew, hkey⟩)

theorem Sound.conclude {world : World} (hs : d.Sound) (hjob : d.jobs i = some t)
    (h : d.conclude source i world t = some d') : d'.Sound := by
  obtain ⟨baseline, saw, hphase, rfl⟩ := conclude_eq_some h
  refine hs.ends hjob ⟨saw, hphase⟩ ?_
  intro key hwork hnew hkey ha
  rcases hs.ahead i t key baseline saw [] hjob ⟨hphase, hwork, hnew, hkey⟩ ha with hsaw | hany
  · exact hsaw
  · cases hany

theorem Sound.persist (hs : d.Sound) (hjob : d.jobs i = some t) (h : d.persist i t = some d') :
    d'.Sound := by
  obtain ⟨baseline, x, hphase, hlog, hjobs⟩ := persist_eq_some h
  refine hs.setIdle hlog hjobs hjob (by rw [hphase]; rfl) rfl ?_ ?_
  · intro key _ hkey
    exact hs.channel i t key hjob (by rw [hphase]; rfl) hkey
  · intro baseline' saw' rest' h
    cases h

theorem Sound.result {queued : Bool} (hs : d.Sound) (hjob : d.jobs i = some t)
    (hC : d.Remembers (.result i queued)) (h : d.result i queued t = some d') : d'.Sound := by
  obtain ⟨outcome, hphase, rfl⟩ := result_eq_some h
  cases queued with
  | false => exact hs.gone log_finish jobs_finish
  | true =>
    have hnoted : (d.note (.answered t.command outcome.status)).Sound := by
      refine hs.answered fun key hstatus hsig => ⟨?_, fun j u baseline saw rest hj hrun => ?_⟩
      · exact Or.inr ⟨i, t, hjob, by rw [hphase]; rfl, hsig⟩
      · exact hC t key outcome j u baseline saw rest hjob hphase hstatus hsig hj hrun
    refine hnoted.gone ?_ jobs_finish
    change LogEntry.answered t.command outcome.status :: (d.finish i t).log = _
    rw [log_finish]
    rfl

/-- **A step that remembers keeps the invariant.** -/
theorem sound_step {a : CancellationAction} (hs : d.Sound) (hC : d.Remembers a)
    (h : d.step source a = some d') : d'.Sound := by
  cases a with
  | connect =>
    simp only [step] at h
    split at h
    · obtain rfl := Option.some.inj h
      exact hs.congr rfl rfl
    · cases h
  | disconnect aborts =>
    obtain ⟨e, -, rfl⟩ := Option.map_eq_some_iff.mp h
    exact hs.congr rfl rfl
  | receive command =>
    simp only [step] at h
    split at h
    · split at h
      · obtain rfl := Option.some.inj h
        refine hs.setJob (i := d.spawned) rfl rfl ?_ ?_ ?_
        · intro u key hu hsignalled
          obtain rfl := Option.some.inj hu
          cases hsignalled
        · intro u key hu hholds
          obtain rfl := Option.some.inj hu
          cases hholds
        · intro u key baseline saw rest hu hrun
          obtain rfl := Option.some.inj hu
          cases hrun.phase
      · cases h
    · cases h
  | signal i =>
    obtain ⟨t, hjob, h⟩ := move_eq_some h
    exact hs.signal hjob hC h
  | register i =>
    obtain ⟨t, hjob, h⟩ := move_eq_some h
    exact hs.register hjob h
  | snapshot i acknowledged =>
    obtain ⟨t, hjob, h⟩ := move_eq_some h
    exact hs.snapshot hjob hC h
  | advance i progress =>
    obtain ⟨t, hjob, h⟩ := move_eq_some h
    exact hs.advance hjob hC h
  | fail i world =>
    obtain ⟨t, hjob, h⟩ := move_eq_some h
    exact hs.fail hjob hC h
  | conclude i world =>
    obtain ⟨t, hjob, h⟩ := move_eq_some h
    exact hs.conclude hjob h
  | persist i =>
    obtain ⟨t, hjob, h⟩ := move_eq_some h
    exact hs.persist hjob h
  | result i queued =>
    obtain ⟨t, hjob, h⟩ := move_eq_some h
    exact hs.result hjob hC h
  | stop i =>
    obtain ⟨t, hjob, h⟩ := move_eq_some h
    split at h
    · obtain rfl := Option.some.inj h
      exact hs.gone (i := i) rfl rfl
    · cases h
  | mutate mutation =>
    simp only [step] at h
    split at h
    · cases h
    · obtain rfl := Option.some.inj h
      exact hs.congr rfl rfl

/-! ## 6. A work command that sees its cancellation can end as cancelled -/

theorem step_passes {key : String} {baseline : NodeLocalState} {saw : Sighting} {stage : Stage}
    {rest : List Stage} (hjob : d.jobs i = some t)
    (hrun : t.Running key baseline saw (stage :: rest)) (hblind : t.sees baseline stage = false) :
    d.step source (.advance i .passes) =
      some (d.setJob i (some { t with phase := .working baseline saw rest })) := by
  have hmove : d.step source (.advance i .passes) = d.advance i .passes t := by
    simp [step, move, hjob]
  rw [hmove]
  unfold Dispatchers.advance
  rw [hrun.phase]
  cases stage with
  | operate => rfl
  | look evidence =>
    dsimp only
    rw [if_neg (by rw [hblind]; exact Bool.false_ne_true)]
  | select evidence => rfl

theorem step_cancels {key : String} {baseline : NodeLocalState} {saw : Sighting} {stage : Stage}
    {rest : List Stage} (hjob : d.jobs i = some t)
    (hrun : t.Running key baseline saw (stage :: rest)) (hsees : t.sees baseline stage = true) :
    ∃ sighting, sighting ≠ .unseen ∧ d.step source (.advance i .cancels) =
      some (d.setJob i (some { t with phase := .working baseline sighting stage.closing })) := by
  have hmove : d.step source (.advance i .cancels) = d.advance i .cancels t := by
    simp [step, move, hjob]
  rw [hmove]
  unfold Dispatchers.advance
  rw [hrun.phase]
  dsimp only
  rw [if_pos hsees]
  refine ⟨_, ?_, rfl⟩
  cases stage <;> simp

/-- The end of a work command that has seen its cancellation. -/
theorem step_concludes {key : String} {baseline : NodeLocalState} {saw : Sighting}
    (hjob : d.jobs i = some t) (hrun : t.Running key baseline saw []) (hsaw : saw ≠ .unseen) :
    ∃ d' outcome, d.step source (.conclude i quietWorld) = some d' ∧
      d'.log = .finished t.command outcome :: d.log ∧
      reportsCancellation t.command outcome = true := by
  have hmove : d.step source (.conclude i quietWorld) = d.conclude source i quietWorld t := by
    simp [step, move, hjob]
  rw [hmove]
  unfold Dispatchers.conclude
  rw [hrun.phase]
  have hreports :=
      (@reportsCancellation_of_saw source quietWorld _ d.drawn) hrun.work hrun.isNew hsaw
  refine ⟨_, _, rfl, ?_, hreports⟩
  unfold Dispatchers.ends
  rw [if_pos hrun.isNew]
  rfl

/-- It ends so by its own steps: what is left is passed until a stage sees the cancellation. -/
theorem ends_cancelled {key : String} {baseline : NodeLocalState} {saw : Sighting}
    {rest : List Stage} (hjob : d.jobs i = some t) (hrun : t.Running key baseline saw rest)
    (h : saw ≠ .unseen ∨ ∃ stage ∈ rest, t.sees baseline stage = true) :
    ∃ actions d' outcome, run (step source) d actions = some d' ∧
      d'.log = .finished t.command outcome :: d.log ∧
      reportsCancellation t.command outcome = true := by
  induction rest generalizing d t saw with
  | nil =>
    have hsaw : saw ≠ .unseen := h.resolve_right fun ⟨stage, hmem, _⟩ => by cases hmem
    obtain ⟨d', outcome, hstep, hlog, hreports⟩ := (@step_concludes source) hjob hrun hsaw
    exact ⟨[.conclude i quietWorld], d', outcome, by simp [hstep], hlog, hreports⟩
  | cons stage rest ih =>
    cases hsees : t.sees baseline stage with
    | false =>
      have hpasses := (@step_passes source) hjob hrun hsees
      have hrest : saw ≠ .unseen ∨ ∃ stage ∈ rest, t.sees baseline stage = true := by
        refine h.imp_right fun ⟨other, hmem, hother⟩ => ⟨other, ?_, hother⟩
        rcases List.mem_cons.mp hmem with rfl | hmem
        · rw [hsees] at hother
          cases hother
        · exact hmem
      obtain ⟨actions, d', outcome, hran, hlog, hreports⟩ :=
        ih (d := d.setJob i (some { t with phase := .working baseline saw rest }))
          (Function.update_self ..) ⟨rfl, hrun.work, hrun.isNew, hrun.key⟩ hrest
      exact ⟨.advance i .passes :: actions, d', outcome, by simp [hpasses, hran], hlog, hreports⟩
    | true =>
      obtain ⟨sighting, hsaw, hcancels⟩ := (@step_cancels source) hjob hrun hsees
      have hclosed : ∃ actions d' outcome, run (step source)
          (d.setJob i (some { t with phase := .working baseline sighting stage.closing }))
            actions = some d' ∧
          d'.log = .finished t.command outcome :: d.log ∧
          reportsCancellation t.command outcome = true := by
        -- What is left is nothing or the collection of the evidence.
        have hclosing : stage.closing = [] ∨ stage.closing = [.operate] := by
          cases stage with
          | operate => exact Or.inl rfl
          | look evidence => cases evidence <;> simp [Stage.closing]
          | select evidence => cases evidence <;> simp [Stage.closing]
        rcases hclosing with hclosing | hclosing
        · rw [hclosing]
          obtain ⟨d', outcome, hstep, hlog, hreports⟩ := (@step_concludes source
            (d.setJob i (some { t with phase := .working baseline sighting [] })))
            (Function.update_self ..) ⟨rfl, hrun.work, hrun.isNew, hrun.key⟩ hsaw
          exact ⟨[.conclude i quietWorld], d', outcome, by simp [hstep], hlog, hreports⟩
        · rw [hclosing]
          have hpasses := (@step_passes source
            (d.setJob i (some { t with phase := .working baseline sighting [.operate] })))
            (Function.update_self ..) ⟨rfl, hrun.work, hrun.isNew, hrun.key⟩ rfl
          obtain ⟨d', outcome, hstep, hlog, hreports⟩ := (@step_concludes source
            ((d.setJob i (some { t with
              phase := .working baseline sighting [.operate] })).setJob i
                (some { t with phase := .working baseline sighting [] })))
            (Function.update_self ..) ⟨rfl, hrun.work, hrun.isNew, hrun.key⟩ hsaw
          exact ⟨[.advance i .passes, .conclude i quietWorld], d', outcome,
            by simp [hpasses, hstep], hlog, hreports⟩
      obtain ⟨actions, d', outcome, hran, hlog, hreports⟩ := hclosed
      exact ⟨.advance i .cancels :: actions, d', outcome, by simp [hcancels, hran], hlog, hreports⟩

/-- **The invariant keeps every answered cancellation.** -/
theorem Sound.kept (hs : d.Sound) : d.Kept source where
  ended := hs.ended
  running i t key baseline saw rest hjob hrun ha := by
    refine ends_cancelled hjob hrun ?_
    rcases hs.ahead i t key baseline saw rest hjob hrun ha with hsaw | hany
    · exact Or.inl hsaw
    · obtain ⟨stage, hmem, hwatches⟩ := List.any_eq_true.mp hany
      rcases hs.remembered i t key baseline saw rest hjob hrun (Or.inl ha) with hsaw | hheard |
        ⟨htomb, evidence, later, hlook⟩
      · exact Or.inl hsaw
      · refine Or.inr ⟨stage, hmem, ?_⟩
        cases stage with
        | operate => cases hwatches
        | look evidence => simp [Job.sees, hheard]
        | select evidence => simp [Job.sees, hheard]
      · refine Or.inr ⟨.look evidence, ?_, by simp [Job.sees, htomb]⟩
        rw [hlook]
        exact List.mem_cons_self

end Steps

/-- Jobs are numbered in the order they came. -/
def InRange (d : Dispatchers) : Prop := ∀ j, d.spawned ≤ j → d.jobs j = none

section Range

variable {source : EventSource} {d d' : Dispatchers} {i : Nat} {t : Job}

theorem InRange.lt (h : d.InRange) (hjob : d.jobs i = some t) : i < d.spawned := by
  by_contra hge
  rw [h i (Nat.not_lt.mp hge)] at hjob
  cases hjob

theorem InRange.update {t' : Option Job} (h : d.InRange) (hjob : d.jobs i = some t)
    (hspawned : d'.spawned = d.spawned) (hjobs : d'.jobs = Function.update d.jobs i t') :
    d'.InRange := by
  intro j hj
  rw [hspawned] at hj
  rw [hjobs, Function.update_of_ne (Nat.ne_of_gt (Nat.lt_of_lt_of_le (h.lt hjob) hj))]
  exact h j hj

theorem spawned_finish : (d.finish i t).spawned = d.spawned := by
  unfold finish
  split <;> rfl

theorem InRange.finish (h : d.InRange) (hjob : d.jobs i = some t) : (d.finish i t).InRange :=
  h.update hjob spawned_finish jobs_finish

theorem InRange.cancel (h : d.InRange) (e : Nat) (key : String) (rememberIfPending : Bool) :
    (d.cancel e key rememberIfPending).InRange := by
  have hspawned : (d.cancel e key rememberIfPending).spawned = d.spawned := by
    unfold Dispatchers.cancel
    split <;> rfl
  intro j hj
  rw [hspawned] at hj
  rw [jobs_cancel, h j hj]
  simp

theorem inRange_step {a : CancellationAction} (h : d.InRange)
    (hstep : d.step source a = some d') : d'.InRange := by
  cases a with
  | connect =>
    simp only [step] at hstep
    split at hstep
    · obtain rfl := Option.some.inj hstep
      exact h
    · cases hstep
  | disconnect aborts =>
    obtain ⟨e, -, rfl⟩ := Option.map_eq_some_iff.mp hstep
    exact h
  | receive command =>
    simp only [step] at hstep
    split at hstep
    · split at hstep
      · obtain rfl := Option.some.inj hstep
        intro j hj
        have hlt : d.spawned < j := hj
        change Function.update d.jobs d.spawned _ j = none
        rw [Function.update_of_ne (Nat.ne_of_gt hlt)]
        exact h j (Nat.le_of_lt hlt)
      · cases hstep
    · cases hstep
  | signal i =>
    obtain ⟨t, hjob, hstep⟩ := move_eq_some hstep
    have hwaits : (d.setJob i (some { t with phase := .waiting })).InRange :=
      h.update hjob rfl rfl
    obtain ⟨-, ⟨-, rfl⟩ | ⟨key, rememberIfPending, -, rfl⟩⟩ := signal_eq_some hstep
    · exact hwaits
    · exact hwaits.cancel t.dispatcher key rememberIfPending
  | register i =>
    obtain ⟨t, hjob, hstep⟩ := move_eq_some hstep
    obtain ⟨-, ⟨-, rfl⟩ | ⟨key, -, rfl⟩⟩ := register_eq_some hstep
    · exact h.update hjob rfl rfl
    · exact h.update hjob rfl rfl
  | snapshot i acknowledged =>
    obtain ⟨t, hjob, hstep⟩ := move_eq_some hstep
    obtain ⟨-, ⟨-, rfl⟩ | ⟨-, rfl⟩⟩ := snapshot_eq_some hstep
    · exact h.update hjob rfl rfl
    · exact h.finish hjob
  | advance i progress =>
    obtain ⟨t, hjob, hstep⟩ := move_eq_some hstep
    obtain ⟨_, _, _, _, -, ⟨-, -, rfl⟩ | ⟨-, -, _, -, rfl⟩⟩ := advance_eq_some hstep
    · exact h.update hjob rfl rfl
    · exact h.update hjob rfl rfl
  | fail i world =>
    obtain ⟨t, hjob, hstep⟩ := move_eq_some hstep
    obtain ⟨_, _, _, _, -, rfl⟩ := fail_eq_some hstep
    unfold Dispatchers.ends
    split <;> exact h.update hjob rfl rfl
  | conclude i world =>
    obtain ⟨t, hjob, hstep⟩ := move_eq_some hstep
    obtain ⟨_, _, -, rfl⟩ := conclude_eq_some hstep
    unfold Dispatchers.ends
    split <;> exact h.update hjob rfl rfl
  | persist i =>
    obtain ⟨t, hjob, hstep⟩ := move_eq_some hstep
    unfold Dispatchers.persist at hstep
    split at hstep
    · obtain rfl := Option.some.inj hstep
      split <;> exact h.update hjob rfl rfl
    · cases hstep
  | result i queued =>
    obtain ⟨t, hjob, hstep⟩ := move_eq_some hstep
    obtain ⟨_, -, rfl⟩ := result_eq_some hstep
    split
    · exact h.finish hjob
    · exact h.finish hjob
  | stop i =>
    obtain ⟨t, hjob, hstep⟩ := move_eq_some hstep
    split at hstep
    · obtain rfl := Option.some.inj hstep
      exact h.update hjob rfl rfl
    · cases hstep
  | mutate mutation =>
    simp only [step] at hstep
    split at hstep
    · cases hstep
    · obtain rfl := Option.some.inj hstep
      exact h

/-- Does no work command run? -/
def workIdle (d : Dispatchers) : Bool :=
  (List.range d.spawned).all fun j => (d.jobs j).all fun u =>
    match u.phase with
    | .working .. => !isWork u.command
    | _ => true

/-- A check that a step remembers, for runs in which a cancellation comes before its work. -/
def remembers (d : Dispatchers) : CancellationAction → Bool
  | .signal i => (d.jobs i).all fun t => (cancellationSignal t.command).isNone || d.workIdle
  | .snapshot i _ => (d.jobs i).all fun t => !isWork t.command || t.heard || t.tombstoned d.owner
  | .advance i _ => (d.jobs i).all fun t => !t.heard
  | .fail _ _ => false
  | .result i _ => (d.jobs i).all fun t => (cancellationSignal t.command).isNone || d.workIdle
  | _ => true

theorem not_running_of_workIdle {key : String} {baseline : NodeLocalState} {saw : Sighting}
    {rest : List Stage} (h : d.InRange) (hidle : d.workIdle = true) (hjob : d.jobs i = some t) :
    ¬ t.Running key baseline saw rest := by
  intro hrun
  have hall := List.all_eq_true.mp hidle i (List.mem_range.mpr (h.lt hjob))
  rw [hjob] at hall
  simp [hrun.phase, hrun.work] at hall

theorem remembers_check {a : CancellationAction} (h : d.InRange) (hc : d.remembers a = true) :
    d.Remembers a := by
  cases a with
  | signal i =>
    intro t key j u baseline saw rest hjob hsig hu hrun
    simp only [remembers, hjob, Option.all_some, hsig] at hc
    exact absurd hrun (not_running_of_workIdle h (by simpa using hc) hu)
  | snapshot i acknowledged =>
    cases acknowledged with
    | false => trivial
    | true =>
      intro t key hjob hwork _ _ _
      simpa [remembers, hjob, hwork] using hc
  | advance i progress =>
    cases progress with
    | cancels => trivial
    | passes =>
      intro t key baseline saw evidence rest hjob _ _ hheard
      simp [remembers, hjob, hheard] at hc
  | fail i world => cases hc
  | result i queued =>
    cases queued with
    | false => trivial
    | true =>
      intro t key outcome j u baseline saw rest hjob _ _ hsig hu hrun
      simp only [remembers, hjob, Option.all_some, hsig] at hc
      exact absurd hrun (not_running_of_workIdle h (by simpa using hc) hu)
  | connect | disconnect | receive | register | conclude | persist | stop | mutate => trivial

end Range

end Dispatchers

/-! ## 8. A deduction and a tool call -/

def requestDeductionCommand : CommandEnvelope where
  commandId := "c1"
  kind := .requestDeduction
  target := .sessionRuntime "n1" "p1" "s1" "r1"
  actorRef := .localUser none
  issuedAt := 0
  correlationId := "k1"
  payload := .requestDeduction ⟨"d1", "s1", "h1"⟩

def cancelDeductionCommand : CommandEnvelope :=
  { requestDeductionCommand with
    commandId := "c2", kind := .cancelDeduction, payload := .cancelDeduction "d1" }

/-- The deduction is cancelled before it arrives, and arrives on another connection. -/
def cancelDeductionFirst : List CancellationAction :=
  [.connect, .receive cancelDeductionCommand, .signal 0, .register 0, .snapshot 0 true,
    .conclude 0 quietWorld, .persist 0, .result 0 true, .disconnect true, .connect,
    .receive requestDeductionCommand, .signal 1, .register 1, .snapshot 1 true,
    .advance 1 .cancels, .conclude 1 quietWorld, .persist 1, .result 1 true]

/-- Which command an entry is about, and whether it completed or was cancelled. -/
def LogEntry.summary : LogEntry → CommandId × Bool
  | finished command outcome => (command.commandId, reportsCancellation command outcome)
  | answered command status => (command.commandId, status == .completed)

def executeToolCommand : CommandEnvelope where
  commandId := "c3"
  kind := .tooling
  target := .node "n1"
  actorRef := .localUser none
  issuedAt := 0
  correlationId := "k3"
  payload := .tooling ⟨1, .executeExternalTool "t1" "linear.search" "h1" "i1" "x1" .emptyObject⟩

def cancelToolCommand : CommandEnvelope :=
  { executeToolCommand with
    commandId := "c4", payload := .tooling ⟨1, .cancelToolCall "t1" none⟩ }

/-- The call goes through. -/
def toolCallWorld : World :=
  { quietWorld with
    toolingResult := (.completed, .ofFields [("status", .null), ("definitions", .array .nil),
      ("event", .ofFields [("contract_version", .int 1),
        ("payload", .ofFields [("type", .string "tool_call_completed"),
          ("tool_call_id", .string "t1"), ("result", .emptyObject), ("completed_at", .int 0)])])]) }

/-- The tool call is cancelled before it arrives, on the same connection: its channel is made with
    the cancellation, and it waits for a change of it. -/
def cancelToolCallFirst : List CancellationAction :=
  [.connect, .receive cancelToolCommand, .signal 0, .register 0, .snapshot 0 true,
    .conclude 0 quietWorld, .persist 0, .result 0 true, .receive executeToolCommand, .signal 1,
    .register 1, .snapshot 1 true, .advance 1 .passes, .advance 1 .passes,
    .conclude 1 toolCallWorld]

end Uprava.Node
