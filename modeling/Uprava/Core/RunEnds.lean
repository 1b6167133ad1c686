/-
  File:      Uprava/Core/RunEnds.lean
  Subject:   Which runs end a call of `drive_job_runs` with an error.

  A start's error becomes the end of its run, and so does the loss of a runtime or a turn that
  failed. What a starting run meets on its way to its turn does not: a session that is gone, a turn
  that is refused, a command that is not dispatched. And no run whose snapshot does not parse can be
  failed without an error.

  * `Jobs.EndsCall`             -- where a run stands when it ends a call;
  * **`Jobs.fails_driveRun_iff`** -- exactly these runs do.
-/
import Uprava.Core.RunTicks

namespace Uprava.Core

open Uprava.Protocol
open Uprava.Lib (Fails)
open Uprava.Lib.Table

namespace Jobs

/-! ## 1. Where a run stands -/

/-- Does a starting run, whose runtime is ready, meet an error when it submits its prompt? -/
def SubmissionFails (s : Jobs) (call : RunCall) (home : SessionThreadId) (prompt : String) :
    Prop :=
  match checkTurn s.db home prompt (call.error (.check prompt)) with
  | .error _ => True
  | .ok (session, placement) =>
    (call.error (.record prompt session placement)).isSome = true ∨
      (call.error (.dispatchTurn call.input.commandId)).isSome = true

/-- Does a starting run meet an error? -/
def StartingFails (s : Jobs) (call : RunCall) (run : JobRunRow) (prompt : String) : Prop :=
  match run.sessionThreadId with
  | none => False
  | some home =>
    match loadSession s.db home with
    | .error _ => True
    | .ok (_, runtime, _) =>
      runtime.state = .ready ∧ firstTurn? s.db home = none ∧ s.SubmissionFails call home prompt

/-- Is a running run about to fail? -/
def RunningEnds (s : Jobs) (run : JobRunRow) : Prop :=
  match run.sessionThreadId with
  | none => True
  | some home =>
    match (run.turnId.bind fun turnId => s.db.turns.find? (·.turnId == turnId)).map
        TurnRow.state with
    | some .completed => False
    | some .failed | some .interrupted => True
    | _ => ((s.db.runtimeSessions.find? (·.sessionThreadId == home)).bind
        (runtimeFailure ·.state)).isSome = true

/-- **Does a call end with an error of this run?** -/
def EndsCall (s : Jobs) (call : RunCall) (run : JobRunRow) : Prop :=
  match run.configSnapshot, run.state with
  | .unreadable, _ => True
  | .value .unreadable, .queued => True
  | .value .unreadable, .starting => run.sessionThreadId ≠ none
  | .value .unreadable, .running => s.RunningEnds run
  | .value (.value snapshot), .starting => s.StartingFails call run snapshot.prompt
  | _, _ => False

/-! ## 2. The steps that are left -/

section Ends

variable {s t : Jobs} {call : RunCall} {run : JobRunRow} {left : Nat} {step next : RunStep}

theorem steps_goesOn (h : s.runStep run (call.inputAt step) step = (t, .goesOn next)) :
    steps run call (left + 1) step s = steps run call left next t := by
  rw [steps, h]

theorem steps_done (h : s.runStep run (call.inputAt step) step = (t, .done)) :
    steps run call (left + 1) step s = (t, none) := by
  rw [steps, h]

theorem steps_fails {e : AppError}
    (h : s.runStep run (call.inputAt step) step = (t, .fails e)) :
    steps run call (left + 1) step s = (t, some e) := by
  rw [steps, h]

theorem steps_pause {code : String} : (steps run call (left + 1) (.pause code) s).2 = none := by
  rw [steps_done (t := s.pauseJob run.jobId code call.input.now) rfl]

/-- A run ends without an error when its snapshot parses. -/
theorem steps_fail_of_ok {code message : String} {timedOut : Bool}
    {snapshot : JobRunConfigSnapshot} (hparse : parseSnapshot run.configSnapshot = .ok snapshot) :
    (steps run call (left + 2) (.fail code message timedOut) s).2 = none := by
  cases hstep : s.runStep run (call.inputAt (.fail code message timedOut))
      (.fail code message timedOut) with
  | mk t next =>
    have hnext := congrArg Prod.snd hstep
    unfold runStep at hnext
    dsimp only at hnext
    rw [hparse] at hnext
    dsimp only at hnext
    cases next with
    | done => rw [steps_done hstep]
    | goesOn next =>
      rw [steps_goesOn hstep]
      split at hnext
      · split at hnext
        · cases hnext
        · cases hnext
          exact steps_pause
      · cases hnext
    | fails e =>
      split at hnext
      · split at hnext <;> cases hnext
      · cases hnext

/-- Otherwise its end is an error of the call. -/
theorem steps_fail_of_error {code message : String} {timedOut : Bool} {e : AppError}
    (hin : s.runIsIn run.jobRunId activeStates = true)
    (hparse : parseSnapshot run.configSnapshot = .error e) :
    (steps run call (left + 2) (.fail code message timedOut) s).2 = some e := by
  have hstep : s.runStep run (call.inputAt (.fail code message timedOut))
      (.fail code message timedOut) =
      (s.failRun run.jobRunId code message timedOut call.input.now, .fails e) := by
    unfold runStep
    dsimp only
    rw [if_pos hin, hparse]
    rfl
  rw [steps_fails hstep]

theorem steps_failStart_of_ok {e : AppError} {snapshot : JobRunConfigSnapshot}
    (hparse : parseSnapshot run.configSnapshot = .ok snapshot)
    (hstep : s.runStep run (call.inputAt step) step = (t, failStart e)) :
    (steps run call (left + 3) step s).2 = none := by
  unfold failStart at hstep
  rw [steps_goesOn hstep]
  exact steps_fail_of_ok hparse

/-- A start ends without an error when its snapshot parses. -/
theorem steps_start_of_ok {snapshot : JobRunConfigSnapshot}
    (hparse : parseSnapshot run.configSnapshot = .ok snapshot) :
    (steps run call 5 .start s).2 = none := by
  have hclaim : ∀ placement, (steps run call 4 (.claim snapshot placement) s).2 = none := by
    intro placement
    cases hstep : s.runStep run (call.inputAt (.claim snapshot placement))
        (.claim snapshot placement) with
    | mk t next =>
      have hstep' := hstep
      unfold runStep at hstep'
      dsimp only at hstep'
      split at hstep'
      · obtain ⟨-, rfl⟩ := Prod.mk.inj hstep'
        exact steps_failStart_of_ok hparse hstep
      · obtain ⟨-, rfl⟩ := Prod.mk.inj hstep'
        exact steps_failStart_of_ok hparse hstep
      · obtain ⟨-, rfl⟩ := Prod.mk.inj hstep'
        rw [steps_done hstep]
      · obtain ⟨-, rfl⟩ := Prod.mk.inj hstep'
        rw [steps_goesOn hstep]
        cases hdispatch : (call.inputAt .dispatchStart).error with
        | some e =>
          refine steps_failStart_of_ok (e := e) (t := t) hparse ?_
          unfold runStep
          dsimp only
          rw [hdispatch]
        | none =>
          have hlast : t.runStep run (call.inputAt .dispatchStart) .dispatchStart = (t, .done) := by
            unfold runStep
            dsimp only
            rw [hdispatch]
          rw [steps_done hlast]
  cases hstep : s.runStep run (call.inputAt .start) .start with
  | mk t next =>
    have hstep' := hstep
    unfold runStep at hstep'
    dsimp only at hstep'
    rw [hparse] at hstep'
    dsimp only at hstep'
    split at hstep'
    · obtain ⟨-, rfl⟩ := Prod.mk.inj hstep'
      exact steps_failStart_of_ok hparse hstep
    · obtain ⟨-, rfl⟩ := Prod.mk.inj hstep'
      exact steps_failStart_of_ok hparse hstep
    · obtain ⟨rfl, rfl⟩ := Prod.mk.inj hstep'
      rw [steps_goesOn hstep]
      exact hclaim _

theorem steps_start_of_error {e : AppError} (hin : s.runIsIn run.jobRunId activeStates = true)
    (hparse : parseSnapshot run.configSnapshot = .error e) :
    (steps run call 5 .start s).2 = some e := by
  have hstep : s.runStep run (call.inputAt .start) .start = (s, failStart e) := by
    unfold runStep
    dsimp only
    rw [hparse]
  unfold failStart at hstep
  rw [steps_goesOn hstep]
  exact steps_fail_of_error hin hparse

theorem steps_fail_iff {code message : String} {timedOut : Bool}
    (hin : s.runIsIn run.jobRunId activeStates = true) :
    (steps run call (left + 2) (.fail code message timedOut) s).2.isSome = true ↔
      ∃ e, parseSnapshot run.configSnapshot = .error e := by
  cases hparse : parseSnapshot run.configSnapshot with
  | error e =>
    rw [steps_fail_of_error hin hparse]
    exact ⟨fun _ => ⟨e, rfl⟩, fun _ => rfl⟩
  | ok snapshot =>
    rw [steps_fail_of_ok hparse]
    exact ⟨fun h => (by cases h), fun ⟨e, he⟩ => (by cases he)⟩

theorem steps_runtime (hin : s.runIsIn run.jobRunId activeStates = true) :
    (steps run call 3 .runtime s).2.isSome = true ↔
      ((run.sessionThreadId.bind fun home =>
        s.db.runtimeSessions.find? (·.sessionThreadId == home)).bind
          (runtimeFailure ·.state)).isSome = true ∧
        ∃ e, parseSnapshot run.configSnapshot = .error e := by
  cases hfailure : (run.sessionThreadId.bind fun home =>
      s.db.runtimeSessions.find? (·.sessionThreadId == home)).bind (runtimeFailure ·.state) with
  | none =>
    have hstep : s.runStep run (call.inputAt .runtime) .runtime = (s, .done) := by
      unfold runStep
      dsimp only
      rw [hfailure]
    rw [steps_done hstep]
    exact ⟨fun h => (by cases h), fun h => (by cases h.1)⟩
  | some step =>
    have hstep : s.runStep run (call.inputAt .runtime) .runtime = (s, .goesOn step) := by
      unfold runStep
      dsimp only
      rw [hfailure]
    obtain ⟨runtime, _, hend⟩ := Option.bind_eq_some_iff.mp hfailure
    obtain ⟨code, message, timedOut, rfl⟩ := eq_fail_of_runtimeFailure hend
    rw [steps_goesOn hstep, steps_fail_iff hin]
    exact ⟨fun h => ⟨rfl, h⟩, And.right⟩

/-- What a turn's state makes of its run. -/
theorem runStep_turn {home : SessionThreadId} {turn : TurnRow}
    (hhome : run.sessionThreadId = some home) (hrun : s.findRun? run.jobRunId = some run)
    (hturn : (run.turnId.bind fun turnId => s.db.turns.find? (·.turnId == turnId)) = some turn) :
    s.runStep run (call.inputAt .turn) .turn = (s, match turn.state with
      | .completed => .goesOn .summary
      | .failed | .interrupted =>
        .goesOn (.fail "job.turn_failed" "Provider turn failed or was interrupted" false)
      | _ => .goesOn .runtime) := by
  unfold runStep
  dsimp only
  rw [hhome, hrun, Option.bind_some, hturn]
  dsimp only
  cases turn.state <;> rfl

/-- A running run ends the call when it ends itself and its snapshot does not parse. -/
theorem steps_turn (hin : s.runIsIn run.jobRunId activeStates = true)
    (hrun : s.findRun? run.jobRunId = some run) :
    (steps run call 4 .turn s).2.isSome = true ↔
      s.RunningEnds run ∧ ∃ e, parseSnapshot run.configSnapshot = .error e := by
  unfold RunningEnds
  cases hhome : run.sessionThreadId with
  | none =>
    have hstep : s.runStep run (call.inputAt .turn) .turn =
        (s, .goesOn (.fail "job.session_missing" "Job Run session is missing" false)) := by
      unfold runStep
      dsimp only
      rw [hhome]
    rw [steps_goesOn hstep, steps_fail_iff hin]
    exact ⟨fun h => ⟨trivial, h⟩, And.right⟩
  | some home =>
    have hruntime := (@steps_runtime _ call) hin
    rw [hhome, Option.bind_some] at hruntime
    have hstep : ∀ next, s.runStep run (call.inputAt .turn) .turn = (s, .goesOn next) →
        steps run call 4 .turn s = steps run call 3 next s := fun next h => steps_goesOn h
    cases hturn : run.turnId.bind fun turnId => s.db.turns.find? (·.turnId == turnId) with
    | none =>
      rw [hstep .runtime ?_]
      · exact hruntime
      · unfold runStep
        dsimp only
        rw [hhome, hrun, Option.bind_some, hturn]
    | some turn =>
      have hnext := @runStep_turn s call run home turn hhome hrun hturn
      rw [Option.map_some]
      cases hstate : turn.state with
      | completed =>
        rw [hstate] at hnext
        rw [hstep _ hnext, steps_goesOn (t := s) rfl, steps_done rfl]
        exact ⟨fun h => (by cases h), fun h => h.1.elim⟩
      | failed =>
        rw [hstate] at hnext
        rw [hstep _ hnext, steps_fail_iff hin]
        exact ⟨fun h => ⟨trivial, h⟩, And.right⟩
      | interrupted =>
        rw [hstate] at hnext
        rw [hstep _ hnext, steps_fail_iff hin]
        exact ⟨fun h => ⟨trivial, h⟩, And.right⟩
      | _ =>
        rw [hstate] at hnext
        rw [hstep _ hnext]
        exact hruntime

theorem steps_markRunning {turnId : TurnId} {commandId : CommandId} :
    (steps run call (left + 1) (.markRunning turnId commandId) s).2 = none := by
  rw [steps_done (t := s.markRunning run.jobRunId turnId commandId) rfl]

/-- Once its turn is recorded and its command is dispatched, a run is running. -/
theorem steps_dispatchTurn {home : SessionThreadId} {submission : TurnSubmission}
    {command : CommandEnvelope} {loaded : SessionRow × RuntimeRow × PlacementRow}
    {db : Database} (hhome : run.sessionThreadId = some home)
    (hrecords : RecordsTurn db s.db submission command home)
    (hload : loadSession db home = .ok loaded) :
    (steps run call 4 (.dispatchTurn command.commandId) s).2.isSome = true ↔
      (call.error (.dispatchTurn command.commandId)).isSome = true := by
  cases herror : call.error (.dispatchTurn command.commandId) with
  | some e =>
    have hstep : s.runStep run (call.inputAt (.dispatchTurn command.commandId))
        (.dispatchTurn command.commandId) = (s, .fails e) := by
      unfold runStep RunCall.inputAt
      dsimp only
      rw [herror]
    rw [steps_fails hstep]
  | none =>
    have hdispatch : s.runStep run (call.inputAt (.dispatchTurn command.commandId))
        (.dispatchTurn command.commandId) = (s, .goesOn (.reload command.commandId)) := by
      unfold runStep RunCall.inputAt
      dsimp only
      rw [herror]
    have hreload : s.runStep run (call.inputAt (.reload command.commandId))
        (.reload command.commandId) = (s, .goesOn (.link command.commandId)) := by
      have hload' : loadSession s.db home = .ok loaded := by
        rw [← hload]
        refine loadSession_congr (by rw [hrecords.sessionThreads]) (fun _ _ => ?_)
          hrecords.projectPlacements
        rw [hrecords.runtimeSessions]
      unfold runStep
      dsimp only
      rw [hhome, Option.getD_some, hload']
    have hlink : ∃ turn, s.runStep run (call.inputAt (.link command.commandId))
        (.link command.commandId) = (s, .goesOn (.markRunning turn command.commandId)) := by
      have hturn := find?_insert?_of_pos (p := (·.commandId == command.commandId)) hrecords.turns
        (beq_self_eq_true command.commandId)
      have hsome : ∃ turn, s.db.turns.find? (·.commandId == command.commandId) = some turn := by
        rw [hturn]
        cases db.turns.find? (·.commandId == command.commandId) with
        | none => exact ⟨_, rfl⟩
        | some turn => exact ⟨turn, rfl⟩
      obtain ⟨turn, hturn⟩ := hsome
      refine ⟨turn.turnId, ?_⟩
      unfold runStep
      dsimp only
      rw [hturn]
    obtain ⟨turn, hlink⟩ := hlink
    rw [steps_goesOn hdispatch, steps_goesOn hreload, steps_goesOn hlink, steps_markRunning]

theorem steps_check {home : SessionThreadId} {prompt : String}
    (hhome : run.sessionThreadId = some home) (hnew : NewRunIds s.db call.input) :
    (steps run call 6 (.check prompt) s).2.isSome = true ↔ s.SubmissionFails call home prompt := by
  unfold SubmissionFails
  cases hcheck : checkTurn s.db home prompt (call.error (.check prompt)) with
  | error e =>
    have hstep : s.runStep run (call.inputAt (.check prompt)) (.check prompt) = (s, .fails e) := by
      unfold runStep RunCall.inputAt
      dsimp only
      rw [hhome, Option.getD_some, hcheck]
    rw [steps_fails hstep]
    exact ⟨fun _ => trivial, fun _ => rfl⟩
  | ok found =>
    obtain ⟨session, placement⟩ := found
    have hstep : s.runStep run (call.inputAt (.check prompt)) (.check prompt) =
        (s, .goesOn (.record prompt session placement)) := by
      unfold runStep RunCall.inputAt
      dsimp only
      rw [hhome, Option.getD_some, hcheck]
    have hself := sessionThreadId_of_checkTurn hcheck
    rw [steps_goesOn hstep]
    dsimp only
    cases herror : call.error (.record prompt session placement) with
    | some e =>
      have hrecord : s.runStep run (call.inputAt (.record prompt session placement))
          (.record prompt session placement) = (s, .fails e) := by
        unfold runStep RunCall.inputAt
        dsimp only
        rw [herror]
      rw [steps_fails hrecord]
      exact ⟨fun _ => Or.inl rfl, fun _ => rfl⟩
    | none =>
      obtain ⟨db, hdb⟩ := (@exists_recordTurnSubmission _ (runSubmission call.input prompt)
          ((runSubmission call.input prompt).command session placement) session.sessionThreadId)
          hnew.turn
      have hrecord : s.runStep run (call.inputAt (.record prompt session placement))
          (.record prompt session placement) =
            ({ s with db }, .goesOn (.dispatchTurn call.input.commandId)) := by
        unfold runSubmission at hdb
        unfold runStep RunCall.inputAt
        dsimp only
        rw [herror, hdb]
      have hload : ∃ loaded, loadSession s.db home = .ok loaded := by
        unfold checkTurn at hcheck
        split at hcheck
        · cases hcheck
        · split at hcheck
          · cases hcheck
          · rename_i hload
            exact ⟨_, hload⟩
      obtain ⟨loaded, hload⟩ := hload
      have hrecords := records_of_submission hdb
      rw [hself] at hrecords
      have hlast := (@steps_dispatchTurn { s with db } call) hhome hrecords hload
      rw [steps_goesOn hrecord]
      refine hlast.trans ⟨Or.inr, fun h => ?_⟩
      rcases h with h | h
      · cases h
      · exact h

/-- A starting run ends the call with its own error. -/
theorem steps_detail (hnew : NewRunIds s.db call.input) :
    (steps run call 8 .detail s).2.isSome = true ↔
      match parseSnapshot run.configSnapshot with
      | .error _ => run.sessionThreadId ≠ none
      | .ok snapshot => s.StartingFails call run snapshot.prompt := by
  unfold StartingFails
  cases hhome : run.sessionThreadId with
  | none =>
    have hstep : s.runStep run (call.inputAt .detail) .detail = (s, .done) := by
      unfold runStep
      dsimp only
      rw [hhome]
    rw [steps_done hstep]
    cases parseSnapshot run.configSnapshot with
    | error e => exact ⟨fun h => (by cases h), fun h => absurd rfl h⟩
    | ok snapshot => exact ⟨fun h => (by cases h), False.elim⟩
  | some home =>
    cases hparse : parseSnapshot run.configSnapshot with
    | error e =>
      have hstep : s.runStep run (call.inputAt .detail) .detail = (s, .fails e) := by
        unfold runStep
        dsimp only
        rw [hhome]
        dsimp only
        rw [hparse]
      rw [steps_fails hstep]
      exact ⟨fun _ => Option.some_ne_none home, fun _ => rfl⟩
    | ok snapshot =>
      dsimp only
      cases hload : loadSession s.db home with
      | error e =>
        have hstep : s.runStep run (call.inputAt .detail) .detail = (s, .fails e) := by
          unfold runStep
          dsimp only
          rw [hhome]
          dsimp only
          rw [hparse, hload]
        rw [steps_fails hstep]
        exact ⟨fun _ => trivial, fun _ => rfl⟩
      | ok loaded =>
        obtain ⟨session, runtime, placement⟩ := loaded
        dsimp only
        by_cases hfailed : runtime.state = .error
        · have hstep : s.runStep run (call.inputAt .detail) .detail = (s, .goesOn (.fail
              "job.runtime_start_failed"
              (runtime.degradedReason.getD "Provider runtime failed to start") false)) := by
            unfold runStep
            dsimp only
            rw [hhome]
            dsimp only
            rw [hparse, hload]
            dsimp only
            rw [if_pos hfailed]
          rw [steps_goesOn hstep, steps_fail_of_ok hparse, hfailed]
          exact ⟨fun h => (by cases h), fun h => (by cases h.1)⟩
        · have hstep : s.runStep run (call.inputAt .detail) .detail =
              (s, .goesOn (.existingTurn (runtime.state == .ready) snapshot.prompt)) := by
            unfold runStep
            dsimp only
            rw [hhome]
            dsimp only
            rw [hparse, hload]
            dsimp only
            rw [if_neg hfailed]
          rw [steps_goesOn hstep]
          cases hturn : firstTurn? s.db home with
          | some turn =>
            have hnext : s.runStep run
                (call.inputAt (.existingTurn (runtime.state == .ready) snapshot.prompt))
                (.existingTurn (runtime.state == .ready) snapshot.prompt) =
                  (s, .goesOn (.markRunning turn.turnId turn.commandId)) := by
              unfold runStep
              dsimp only
              rw [hhome, Option.bind_some, hturn]
            rw [steps_goesOn hnext, steps_markRunning]
            exact ⟨fun h => (by cases h), fun h => (by cases h.2.1)⟩
          | none =>
            have hnext : s.runStep run
                (call.inputAt (.existingTurn (runtime.state == .ready) snapshot.prompt))
                (.existingTurn (runtime.state == .ready) snapshot.prompt) =
                  (s, if (runtime.state == .ready) = true then .goesOn (.check snapshot.prompt)
                    else .done) := by
              unfold runStep
              dsimp only
              rw [hhome, Option.bind_some, hturn]
            by_cases hready : runtime.state = .ready
            · rw [if_pos (beq_iff_eq.mpr hready)] at hnext
              rw [steps_goesOn hnext, steps_check hhome hnew]
              exact ⟨fun h => ⟨hready, rfl, h⟩, fun h => h.2.2⟩
            · rw [if_neg (by simpa using hready)] at hnext
              rw [steps_done hnext]
              exact ⟨fun h => (by cases h), fun h => absurd h.1 hready⟩

/-- **A call ends with an error of exactly these runs.** -/
theorem fails_driveRun_iff {calls : JobRunId → RunCall} (hrun : s.findRun? run.jobRunId = some run)
    (hnew : NewRunIds s.db (calls run.jobRunId).input) (hactive : run.state.isActive = true) :
    Fails (driveRun calls) run.jobRunId s ↔ s.EndsCall (calls run.jobRunId) run := by
  have hin : s.runIsIn run.jobRunId activeStates = true := by
    refine runIsIn_iff.mpr ⟨run, hrun, ?_⟩
    cases hstate : run.state <;> rw [hstate] at hactive <;> first | decide | cases hactive
  show (driveRun calls run.jobRunId s).2.isSome = true ↔ _
  unfold driveRun loadJobRun EndsCall
  rw [hrun]
  dsimp only
  cases hconfig : run.configSnapshot with
  | unreadable => exact ⟨fun _ => trivial, fun _ => rfl⟩
  | value config =>
    rw [if_neg (fun h => by cases h)]
    dsimp only
    cases hstate : run.state with
    | queued =>
      cases config with
      | unreadable =>
        have herror : parseSnapshot run.configSnapshot = .error .serialization := by
          rw [hconfig]
          rfl
        show (steps run _ 5 .start s).2.isSome = true ↔ True
        rw [steps_start_of_error hin herror]
        exact ⟨fun _ => trivial, fun _ => rfl⟩
      | value snapshot =>
        have hok : parseSnapshot run.configSnapshot = .ok snapshot := by
          rw [hconfig]
          rfl
        show (steps run _ 5 .start s).2.isSome = true ↔ False
        rw [steps_start_of_ok hok]
        exact ⟨fun h => (by cases h), False.elim⟩
    | starting =>
      show (steps run _ 8 .detail s).2.isSome = true ↔ _
      rw [steps_detail hnew, hconfig]
      cases config <;> exact Iff.rfl
    | running =>
      show (steps run _ 4 .turn s).2.isSome = true ↔ _
      rw [steps_turn hin hrun, hconfig]
      cases config with
      | unreadable => exact ⟨And.left, fun h => ⟨h, _, rfl⟩⟩
      | value snapshot => exact ⟨fun ⟨_, e, h⟩ => (by cases h), False.elim⟩
    | _ =>
      rw [hstate] at hactive
      cases hactive

end Ends

end Jobs

end Uprava.Core
