/-
  File:      Uprava/Core/RunTicks.lean
  Subject:   One call of `drive_job_runs`: the active runs, each driven as far as it gets, up to the
             first error.

  What a run of the call is about -- the run, its job, its session with the turns and messages
  there, and the command the call may record for it -- is the run's part of the tables:

  * `Jobs.runView`        -- that part;
  * `Jobs.view_runStep`   -- what a step does to it rests on it;
  * `Jobs.frame_runStep`  -- a step leaves the parts of the other runs alone;
  * **`Jobs.separate_driveRun`** -- so the runs of a call stay apart.

  Runtimes that are idle beyond their limit have expired before the call: the loads of a call find
  none to expire.
-/
import Uprava.Core.Jobs
import Uprava.Lib.Loops

namespace Uprava.Core

open Uprava.Protocol
open Uprava.Lib (Schema Table each Fails Separate)
open Uprava.Lib.Table

namespace Jobs

/-! ## 1. A run, driven as far as it gets -/

/-- How many steps there may be from here. -/
def RunStep.rank : RunStep → Nat
  | .detail => 8
  | .existingTurn .. => 7
  | .check _ => 6
  | .record .. | .start => 5
  | .dispatchTurn _ | .claim .. | .turn => 4
  | .reload _ | .dispatchStart | .runtime => 3
  | .link _ | .fail .. | .summary => 2
  | .markRunning .. | .succeed _ | .pause _ => 1

/-- What a call takes from outside of the tables for a run: a clock and new ids, and what its steps
    are refused or fail with. -/
structure RunCall where
  input : JobInput
  error : RunStep → Option AppError

def RunCall.inputAt (call : RunCall) (step : RunStep) : JobInput :=
  { call.input with error := call.error step }

/-- The steps with a run, of which so many are left. -/
def steps (run : JobRunRow) (call : RunCall) : Nat → RunStep → Jobs → Jobs × Option AppError
  | 0, _, s => (s, none)
  | left + 1, step, s =>
    match s.runStep run (call.inputAt step) step with
    | (t, .goesOn next) => steps run call left next t
    | (t, .done) => (t, none)
    | (t, .fails e) => (t, some e)

/-- The body of the loop of `drive_job_runs`. -/
def driveRun (calls : JobRunId → RunCall) (jobRunId : JobRunId) (s : Jobs) :
    Jobs × Option AppError :=
  match s.loadJobRun jobRunId with
  | .error e => (s, some e)
  | .ok run =>
    match firstStep run.state with
    | none => (s, none)
    | some step => steps run (calls jobRunId) step.rank step s

/-- `drive_job_runs` -/
def driveJobRuns (calls : JobRunId → RunCall) (s : Jobs) : Jobs × Option AppError :=
  each (driveRun calls) s.activeRuns s

theorem eq_fail_of_runtimeFailure {state : RuntimeSessionState} {step : RunStep}
    (h : runtimeFailure state = some step) :
    ∃ code message timedOut, step = .fail code message timedOut := by
  unfold runtimeFailure at h
  split at h
  · exact ⟨_, _, _, (Option.some.inj h).symm⟩
  · exact ⟨_, _, _, (Option.some.inj h).symm⟩
  · cases h

theorem rank_of_goesOn {s : Jobs} {run : JobRunRow} {input : JobInput} {step next : RunStep}
    (h : (s.runStep run input step).2 = .goesOn next) : next.rank < step.rank := by
  cases step with
  | runtime =>
    unfold runStep at h
    dsimp only at h
    split at h
    · cases h
    · rename_i hfailure
      obtain ⟨runtime, _, hstep⟩ := Option.bind_eq_some_iff.mp hfailure
      obtain ⟨code, message, timedOut, rfl⟩ := eq_fail_of_runtimeFailure hstep
      cases h
      exact of_decide_eq_true rfl
  | _ =>
    unfold runStep at h
    dsimp only at h
    repeat' split at h
    all_goals cases h
    all_goals exact of_decide_eq_true rfl

theorem rank_pos (step : RunStep) : 0 < step.rank := by
  cases step <;> exact of_decide_eq_true rfl

/-- A call does not run out of steps. -/
theorem steps_of_le {run : JobRunRow} {call : RunCall} {left : Nat} {step : RunStep} {s : Jobs}
    (h : step.rank ≤ left) : steps run call (left + 1) step s = steps run call left step s := by
  induction left generalizing step s with
  | zero => exact absurd (rank_pos step) (Nat.not_lt.mpr h)
  | succ left ih =>
    rw [steps, steps]
    cases hnext : s.runStep run (call.inputAt step) step with
    | mk t next =>
      cases next with
      | goesOn next =>
        have hrank := rank_of_goesOn (congrArg Prod.snd hnext)
        exact ih (by omega)
      | done => rfl
      | fails e => rfl

/-! ## 2. The part of a run -/

/-- What the calls' names for a run come down to. -/
structure RunKey where
  jobRunId : JobRunId
  jobId : JobId
  /-- The session of the run, or the one a start creates. -/
  home : SessionThreadId
  turnId : Option TurnId
  call : RunCall

/-- What a call sees and writes for a run in Core's tables. -/
structure HomeView where
  placements : Table PlacementRow
  session : Except AppError (SessionRow × RuntimeRow × PlacementRow)
  runtime : Option RuntimeRow
  turns : List TurnRow
  messages : List MessageRow
  turn : Option TurnRow
  /-- The command the call records, and its turn. -/
  command : Option CommandRow
  outbox : Option CommandOutboxRow
  linked : Option TurnRow
  deriving DecidableEq

structure RunView where
  run : Option JobRunRow
  job : Option JobRow
  home : HomeView
  deriving DecidableEq

def RunKey.homeView (k : RunKey) (db : Database) : HomeView where
  placements := db.projectPlacements
  session := loadSession db k.home
  runtime := db.runtimeSessions.find? (·.sessionThreadId == k.home)
  turns := db.turns.select (·.sessionThreadId == k.home)
  messages := db.messages.select (·.sessionThreadId == k.home)
  turn := k.turnId.bind fun turnId => db.turns.find? (·.turnId == turnId)
  command := db.findCommand? k.call.input.commandId
  outbox := db.commandOutbox.find? (·.commandId == k.call.input.commandId)
  linked := db.turns.find? (·.commandId == k.call.input.commandId)

def RunKey.view (k : RunKey) (s : Jobs) : RunView :=
  ⟨s.findRun? k.jobRunId, s.findJob? k.jobId, k.homeView s.db⟩

/-- The session a run's steps are about. -/
def homeOf (run : JobRunRow) (input : JobInput) : SessionThreadId :=
  if run.state = .queued then input.sessionThreadId
  else run.sessionThreadId.getD input.sessionThreadId

/-- The key of a run, as the call finds it. -/
def keyOf (s : Jobs) (calls : JobRunId → RunCall) (jobRunId : JobRunId) : RunKey where
  jobRunId := jobRunId
  jobId := ((s.findRun? jobRunId).map (·.jobId)).getD ""
  home := ((s.findRun? jobRunId).map (homeOf · (calls jobRunId).input)).getD ""
  turnId := (s.findRun? jobRunId).bind (·.turnId)
  call := calls jobRunId

/-- The ids of a call are new. -/
structure NewRunIds (db : Database) (input : JobInput) : Prop where
  turn : NewTurn db input.commandId input.turnId input.userMessageId
  session : ∀ r ∈ db.sessionThreads.rows,
    r.sessionThreadId ≠ input.sessionThreadId ∧ r.runtimeSessionId ≠ input.runtimeSessionId
  runtime : ∀ r ∈ db.runtimeSessions.rows,
    r.runtimeSessionId ≠ input.runtimeSessionId ∧ r.sessionThreadId ≠ input.sessionThreadId

/-- Two runs of a call have nothing in common. -/
structure RunKey.Apart (k k' : RunKey) : Prop where
  jobRunId : k.jobRunId ≠ k'.jobRunId
  jobId : k.jobId ≠ k'.jobId
  home : k.home ≠ k'.home
  turn : k.turnId ≠ some k'.call.input.turnId
  sessionThreadId : k.call.input.sessionThreadId ≠ k'.call.input.sessionThreadId
  runtimeSessionId : k.call.input.runtimeSessionId ≠ k'.call.input.runtimeSessionId
  commandId : k.call.input.commandId ≠ k'.call.input.commandId
  turnId : k.call.input.turnId ≠ k'.call.input.turnId
  userMessageId : k.call.input.userMessageId ≠ k'.call.input.userMessageId

/-- What a step takes for granted of a run: its ids are new as long as none is used, and the session
    it works in is the run's. -/
def Needs (k : RunKey) (run : JobRunRow) (s : Jobs) : RunStep → Prop
  | .start | .claim .. => k.call.input.sessionThreadId = k.home ∧ NewRunIds s.db k.call.input
  | .detail =>
    (∀ home, run.sessionThreadId = some home → home = k.home) ∧ NewRunIds s.db k.call.input
  | .existingTurn .. | .check _ =>
    run.sessionThreadId = some k.home ∧ NewRunIds s.db k.call.input
  | .record _ session _ =>
    run.sessionThreadId = some k.home ∧ session.sessionThreadId = k.home ∧
      NewRunIds s.db k.call.input
  | .dispatchTurn commandId | .reload commandId | .link commandId =>
    run.sessionThreadId = some k.home ∧ commandId = k.call.input.commandId
  | .turn =>
    (∀ home, run.sessionThreadId = some home → home = k.home) ∧
      ∀ row, s.findRun? k.jobRunId = some row → row.turnId = k.turnId
  | .runtime | .summary => ∀ home, run.sessionThreadId = some home → home = k.home
  | .dispatchStart | .markRunning .. | .succeed _ | .fail .. | .pause _ => True

/-! ## 3. What the two transactions write -/

/-- The rows of a start. -/
def startSession (snapshot : JobRunConfigSnapshot) (input : JobInput) : SessionRow :=
  ⟨input.sessionThreadId, snapshot.projectPlacementId, input.runtimeSessionId, .active,
    input.now, input.now⟩

def startRuntime (input : JobInput) : RuntimeRow :=
  ⟨input.runtimeSessionId, input.sessionThreadId, .starting, none, none, some input.now,
    input.now, input.now⟩

/-- **What a start writes.** -/
structure RecordsStart (db db' : Database) (snapshot : JobRunConfigSnapshot)
    (placement : PlacementRow) (input : JobInput) : Prop where
  sessionThreads : db.sessionThreads.insert? (startSession snapshot input) = some db'.sessionThreads
  runtimeSessions : db.runtimeSessions.insert? (startRuntime input) = some db'.runtimeSessions
  commands : db.commands.insert? (.recorded (startCommand snapshot placement input)) =
    some db'.commands
  commandOutbox : db'.commandOutbox =
    db.commandOutbox.insertOrIgnore (outboxRow (startCommand snapshot placement input))
  turns : db'.turns = db.turns
  messages : db'.messages = db.messages
  projectPlacements : db'.projectPlacements = db.projectPlacements

section Records

variable {db db' : Database} {snapshot : JobRunConfigSnapshot} {placement : PlacementRow}
  {input : JobInput}

theorem records_of_recordStart (h : recordStart db snapshot placement input = .ok db') :
    RecordsStart db db' snapshot placement input := by
  obtain ⟨sessionThreads, hsessions, h⟩ := bind_eq_ok.mp h
  obtain ⟨runtimeSessions, hruntimes, h⟩ := bind_eq_ok.mp h
  obtain ⟨hcommands, hother⟩ := records_of_recordCommand h
  rw [dbResult_eq_ok] at hsessions hruntimes
  rw [hother]
  exact ⟨hsessions, hruntimes, hcommands, rfl, rfl, rfl, rfl⟩

theorem exists_recordStart (h : NewRunIds db input) :
    ∃ db', recordStart db snapshot placement input = .ok db' := by
  have hsession : ¬ db.sessionThreads.Clashes (startSession snapshot input) := by
    rintro ⟨r, hr, hid | hruntime⟩
    · exact (h.session r hr).1 hid
    · exact (h.session r hr).2 hruntime
  have hruntime : ¬ db.runtimeSessions.Clashes (startRuntime input) := by
    rintro ⟨r, hr, hid | hsession⟩
    · exact (h.runtime r hr).1 hid
    · exact (h.runtime r hr).2 hsession
  obtain ⟨sessionThreads, hsession⟩ := Option.isSome_iff_exists.mp (isSome_insert?.mpr hsession)
  obtain ⟨runtimeSessions, hruntime⟩ := Option.isSome_iff_exists.mp (isSome_insert?.mpr hruntime)
  obtain ⟨db', hcommand⟩ := (@exists_recordCommand { db with sessionThreads, runtimeSessions }
      (startCommand snapshot placement input)) (by simp [startCommand,
      CommandPayload.matchesKind, CommandPayload.kind]) h.turn.command
  refine ⟨db', ?_⟩
  refine bind_eq_ok.mpr ⟨sessionThreads, dbResult_eq_ok.mpr hsession, ?_⟩
  exact bind_eq_ok.mpr ⟨runtimeSessions, dbResult_eq_ok.mpr hruntime, hcommand⟩

end Records

/-- What a step is refused or fails with has nothing to do with the ids. -/
theorem NewRunIds.inputAt {db : Database} {call : RunCall} (h : NewRunIds db call.input)
    (step : RunStep) : NewRunIds db (call.inputAt step) := ⟨h.turn, h.session, h.runtime⟩

theorem RecordsStart.input {db db' : Database} {snapshot : JobRunConfigSnapshot}
    {placement : PlacementRow} {call : RunCall} {step : RunStep}
    (h : RecordsStart db db' snapshot placement (call.inputAt step)) :
    RecordsStart db db' snapshot placement call.input :=
  ⟨h.sessionThreads, h.runtimeSessions, h.commands, h.commandOutbox, h.turns, h.messages,
    h.projectPlacements⟩

/-! ## 4. A step leaves the other runs alone -/

section Frame

variable {k k' : RunKey}

theorem homeView_recordStart {db db' : Database} {snapshot : JobRunConfigSnapshot}
    {placement : PlacementRow} (hapart : k.Apart k')
    (hhome : k'.call.input.sessionThreadId = k'.home) (hnew : NewRunIds db k'.call.input)
    (h : RecordsStart db db' snapshot placement k'.call.input) :
    k.homeView db' = k.homeView db := by
  have hne : (k'.call.input.sessionThreadId == k.home) = false := by
    rw [hhome]
    exact beq_false_of_ne hapart.home.symm
  have hcommand : (k'.call.input.commandId == k.call.input.commandId) = false :=
    beq_false_of_ne hapart.commandId.symm
  have hsession : loadSession db' k.home = loadSession db k.home := by
    refine loadSession_congr (find?_insert?_of_neg h.sessionThreads hne) (fun session hmem => ?_)
      h.projectPlacements
    exact find?_insert?_of_neg h.runtimeSessions
      (beq_false_of_ne (hnew.session session hmem).2.symm)
  have houtbox : db'.commandOutbox.find? (·.commandId == k.call.input.commandId) =
      db.commandOutbox.find? (·.commandId == k.call.input.commandId) := by
    rw [h.commandOutbox]
    exact find?_insertOrIgnore_of_neg hcommand
  unfold RunKey.homeView Database.findCommand?
  rw [hsession, houtbox, h.projectPlacements, h.turns, h.messages,
    find?_insert?_of_neg h.runtimeSessions hne, find?_insert?_of_neg h.commands hcommand]

theorem homeView_records {db db' : Database} {submission : TurnSubmission}
    {command : CommandEnvelope} (hapart : k.Apart k')
    (hcommandId : command.commandId = k'.call.input.commandId)
    (hturnId : submission.turnId = k'.call.input.turnId)
    (h : RecordsTurn db db' submission command k'.home) :
    k.homeView db' = k.homeView db := by
  have hne : (k'.home == k.home) = false := beq_false_of_ne hapart.home.symm
  have hcommand : (command.commandId == k.call.input.commandId) = false := by
    rw [hcommandId]
    exact beq_false_of_ne hapart.commandId.symm
  have hsession : loadSession db' k.home = loadSession db k.home := by
    refine loadSession_congr (by rw [h.sessionThreads]) (fun session _ => ?_) h.projectPlacements
    rw [h.runtimeSessions]
  have hturn : (k.turnId.bind fun turnId => db'.turns.find? (·.turnId == turnId)) =
      k.turnId.bind fun turnId => db.turns.find? (·.turnId == turnId) := by
    cases hk : k.turnId with
    | none => rfl
    | some turnId =>
      refine find?_insert?_of_neg h.turns (beq_false_of_ne fun heq => hapart.turn ?_)
      rw [hk, ← hturnId, ← heq]
      rfl
  have houtbox := h.outbox_of_ne (ne_of_beq_false hcommand)
  unfold RunKey.homeView Database.findCommand?
  rw [hsession, hturn, houtbox, h.projectPlacements, h.runtimeSessions,
    select_insert?_of_neg h.turns hne, select_insert?_of_neg h.messages hne,
    find?_insert?_of_neg h.commands hcommand, find?_insert?_of_neg h.turns hcommand]

theorem newRunIds_recordStart {db db' : Database} {snapshot : JobRunConfigSnapshot}
    {placement : PlacementRow} (hapart : k.Apart k') (hnew : NewRunIds db k.call.input)
    (h : RecordsStart db db' snapshot placement k'.call.input) :
    NewRunIds db' k.call.input := by
  constructor
  · constructor
    · exact forall_insert? h.commands hnew.turn.command hapart.commandId.symm
    · rw [h.commandOutbox]
      exact forall_insertOrIgnore hnew.turn.outbox hapart.commandId.symm
    · rw [h.turns]
      exact hnew.turn.turn
    · rw [h.messages]
      exact hnew.turn.message
  · exact forall_insert? h.sessionThreads hnew.session
      ⟨hapart.sessionThreadId.symm, hapart.runtimeSessionId.symm⟩
  · exact forall_insert? h.runtimeSessions hnew.runtime
      ⟨hapart.runtimeSessionId.symm, hapart.sessionThreadId.symm⟩

theorem newRunIds_records {db db' : Database} {submission : TurnSubmission}
    {command : CommandEnvelope} {sessionThreadId : SessionThreadId} (hapart : k.Apart k')
    (hcommandId : command.commandId = k'.call.input.commandId)
    (hturnId : submission.turnId = k'.call.input.turnId)
    (hmessageId : submission.userMessageId = k'.call.input.userMessageId)
    (hnew : NewRunIds db k.call.input)
    (h : RecordsTurn db db' submission command sessionThreadId) :
    NewRunIds db' k.call.input := by
  have hcommand : command.commandId ≠ k.call.input.commandId := by
    rw [hcommandId]
    exact hapart.commandId.symm
  have hturn : submission.turnId ≠ k.call.input.turnId := by
    rw [hturnId]
    exact hapart.turnId.symm
  have hmessage : submission.userMessageId ≠ k.call.input.userMessageId := by
    rw [hmessageId]
    exact hapart.userMessageId.symm
  refine ⟨h.newTurn hnew.turn hcommand hturn hmessage, ?_, ?_⟩
  · rw [h.sessionThreads]
    exact hnew.session
  · rw [h.runtimeSessions]
    exact hnew.runtime

/-- The turn a run submits. -/
def runSubmission (input : JobInput) (prompt : String) : TurnSubmission :=
  ⟨input.commandId, input.turnId, input.userMessageId, input.correlationId, .system, prompt,
    input.now⟩

/-- What a step with a run may write. -/
inductive Writes (s : Jobs) (run : JobRunRow) (input : JobInput) : RunStep → Jobs → Prop
  | nothing {step} : Writes s run input step s
  | start {snapshot placement db} (h : RecordsStart s.db db snapshot placement input) :
    Writes s run input (.claim snapshot placement)
      (({ s with db } : Jobs).startRun run.jobRunId input)
  | turn {prompt session placement db}
    (h : RecordsTurn s.db db (runSubmission input prompt)
      ((runSubmission input prompt).command session placement) session.sessionThreadId) :
    Writes s run input (.record prompt session placement) { s with db }
  | run {step states f} (hstates : ∀ state ∈ states, state.isActive = true) (hf : KeepsRun f) :
    Writes s run input step (s.writeRun run.jobRunId states hstates f hf)
  | job {step} {code : String} : Writes s run input step (s.pauseJob run.jobId code input.now)

theorem writes_runStep (s : Jobs) (run : JobRunRow) (input : JobInput) (step : RunStep) :
    Writes s run input step (s.runStep run input step).1 := by
  cases step with
  | claim snapshot placement =>
    unfold runStep
    dsimp only
    split
    · exact .nothing
    · exact .nothing
    · exact .nothing
    · rename_i t hclaim
      unfold claimRun at hclaim
      split at hclaim
      · cases hdb : recordStart s.db snapshot placement input with
        | error e =>
          rw [hdb] at hclaim
          cases hclaim
        | ok db =>
          rw [hdb] at hclaim
          obtain rfl := Option.some.inj (Except.ok.inj hclaim)
          exact .start (records_of_recordStart hdb)
      · cases hclaim
  | record prompt session placement =>
    unfold runStep
    dsimp only
    split
    · exact .nothing
    · exact .nothing
    · rename_i hrecord
      exact .turn (records_of_submission hrecord)
  | markRunning turnId commandId =>
    unfold runStep markRunning
    dsimp only
    exact .run _ _
  | succeed summary =>
    unfold runStep succeedRun
    dsimp only
    exact .run _ _
  | pause code => exact .job
  | fail code message timedOut =>
    have hfail : Writes s run input (.fail code message timedOut)
        (s.failRun run.jobRunId code message timedOut input.now) := by
      unfold failRun
      exact .run _ _
    unfold runStep
    dsimp only
    split
    · split <;> exact hfail
    · exact .nothing
  | _ =>
    unfold runStep
    dsimp only
    repeat' split
    all_goals exact .nothing

theorem findRun?_writeRun_of_ne {s : Jobs} {jobRunId j : JobRunId} {states : List JobRunState}
    {hstates : ∀ state ∈ states, state.isActive = true} {f : JobRunRow → JobRunRow}
    {hf : KeepsRun f} (hne : jobRunId ≠ j) :
    (s.writeRun j states hstates f hf).findRun? jobRunId = s.findRun? jobRunId := by
  unfold writeRun
  rw [findRun?_updateRuns]
  cases hrun : s.findRun? jobRunId with
  | none => rfl
  | some r =>
    have hother : isRunIn j states r = false := by
      unfold isRunIn
      rw [findRun?_id hrun, beq_false_of_ne hne]
      rfl
    show some (if isRunIn j states r = true then f r else r) = some r
    rw [if_neg (by rw [hother]; decide)]

theorem view_writeRun_of_ne {s : Jobs} {j : JobRunId} {states : List JobRunState}
    {hstates : ∀ state ∈ states, state.isActive = true} {f : JobRunRow → JobRunRow}
    {hf : KeepsRun f} (hne : k.jobRunId ≠ j) :
    k.view (s.writeRun j states hstates f hf) = k.view s := by
  have hrun := (@findRun?_writeRun_of_ne s _ _ _ hstates _ hf) hne
  show (⟨(s.writeRun j states hstates f hf).findRun? k.jobRunId, _, _⟩ : RunView) = _
  rw [hrun]
  rfl

theorem view_pauseJob_of_ne {s : Jobs} {j : JobId} {code : String} {now : DateTime}
    (hne : k.jobId ≠ j) : k.view (s.pauseJob j code now) = k.view s := by
  have hjob : (s.pauseJob j code now).findJob? k.jobId = s.findJob? k.jobId := by
    unfold pauseJob
    rw [findJob?_writeJob]
    cases hfind : s.findJob? k.jobId with
    | none => rfl
    | some r =>
      have hid : r.jobId = k.jobId := by simpa using find?_pos hfind
      have hother : (r.jobId == j) = false := by
        rw [hid]
        exact beq_false_of_ne hne
      rw [Option.map_some, if_neg (by rw [hother]; decide)]
  show (⟨_, (s.pauseJob j code now).findJob? k.jobId, _⟩ : RunView) = _
  rw [hjob]
  rfl

/-- **A step with a run leaves the other runs alone.** -/
theorem frame_runStep {s : Jobs} {run : JobRunRow} {step : RunStep} (hapart : k.Apart k')
    (hid : run.jobRunId = k'.jobRunId) (hjob : run.jobId = k'.jobId)
    (hneeds : Needs k' run s step) :
    k.view (s.runStep run (k'.call.inputAt step) step).1 = k.view s ∧
      (NewRunIds s.db k.call.input →
        NewRunIds (s.runStep run (k'.call.inputAt step) step).1.db k.call.input) := by
  have hne : k.jobRunId ≠ run.jobRunId := by
    rw [hid]
    exact hapart.jobRunId
  have hwrites := writes_runStep s run (k'.call.inputAt step) step
  generalize (s.runStep run (k'.call.inputAt step) step).1 = t at hwrites
  cases hwrites with
  | nothing => exact ⟨rfl, id⟩
  | start h =>
    refine ⟨?_, fun hnew => newRunIds_recordStart hapart hnew h.input⟩
    have hhome := homeView_recordStart hapart hneeds.1 hneeds.2 h.input
    unfold startRun
    rw [view_writeRun_of_ne hne, view_writeRun_of_ne hne]
    show (⟨_, _, k.homeView _⟩ : RunView) = _
    rw [hhome]
    rfl
  | turn h =>
    obtain ⟨_, hsession, _⟩ := hneeds
    rw [hsession] at h
    refine ⟨?_, fun hnew => newRunIds_records hapart rfl rfl rfl hnew h⟩
    have hhome := homeView_records hapart rfl rfl h
    show (⟨_, _, k.homeView _⟩ : RunView) = _
    rw [hhome]
    rfl
  | run => exact ⟨view_writeRun_of_ne hne, id⟩
  | job => exact ⟨view_pauseJob_of_ne (by rw [hjob]; exact hapart.jobId), id⟩

end Frame

/-! ## 5. What a step does with a run rests on its part -/

section Rests

variable {k : RunKey} {s t : Jobs}

theorem not_clashes_outbox {db : Database} {command : CommandEnvelope} {turnId : TurnId}
    {userMessageId : MessageId} (h : NewTurn db command.commandId turnId userMessageId) :
    ¬ db.commandOutbox.Clashes (outboxRow command) := by
  rintro ⟨r, hr, hid⟩
  exact h.outbox r hr hid

/-- A part with a turn more. -/
def HomeView.withTurn (k : RunKey) (submission : TurnSubmission) (command : CommandEnvelope)
    (v : HomeView) : HomeView :=
  let row := submission.turnRow command k.home ((v.turns.map (·.turnIndex)).foldl max 0 + 1)
  { v with
    turns := v.turns ++ [row]
    messages := v.messages ++ [submission.messageRow k.home]
    turn := k.turnId.bind fun turnId => v.turn.or (if row.turnId == turnId then some row else none)
    command := v.command.or (some (TurnSubmission.commandRow command))
    outbox := v.outbox.or (some (outboxRow command))
    linked := v.linked.or (some row) }

theorem homeView_of_records {db db' : Database} {submission : TurnSubmission}
    {command : CommandEnvelope} (hcommandId : command.commandId = k.call.input.commandId)
    (hnew : NewRunIds db k.call.input) (h : RecordsTurn db db' submission command k.home) :
    k.homeView db' = (k.homeView db).withTurn k submission command := by
  have hsession : loadSession db' k.home = loadSession db k.home := by
    refine loadSession_congr (by rw [h.sessionThreads]) (fun session _ => ?_) h.projectPlacements
    rw [h.runtimeSessions]
  have hid : (command.commandId == k.call.input.commandId) = true := beq_iff_eq.mpr hcommandId
  have hturn : (k.turnId.bind fun turnId => db'.turns.find? (·.turnId == turnId)) =
      ((k.homeView db).withTurn k submission command).turn := by
    show _ = k.turnId.bind fun turnId => (k.turnId.bind _).or _
    cases hk : k.turnId with
    | none => rfl
    | some turnId => exact find?_insert? h.turns _
  have houtbox := h.outbox (hcommandId ▸ hnew.turn)
  rw [hcommandId] at houtbox
  unfold RunKey.homeView Database.findCommand?
  rw [hsession, hturn, houtbox, h.projectPlacements, h.runtimeSessions,
    select_insert?_of_pos h.turns (beq_self_eq_true k.home),
    select_insert?_of_pos h.messages (beq_self_eq_true k.home),
    find?_insert?_of_pos h.commands hid, find?_insert?_of_pos h.turns hid]
  rfl

/-- A part whose session has started. -/
def HomeView.withStart (snapshot : JobRunConfigSnapshot) (placement : PlacementRow)
    (input : JobInput) (v : HomeView) : HomeView :=
  { v with
    session := match v.placements.find? (·.projectPlacementId == snapshot.projectPlacementId) with
      | some placement => .ok (startSession snapshot input, startRuntime input, placement)
      | none => .error (.notFound "placement.not_found" "Placement not found")
    runtime := v.runtime.or (some (startRuntime input))
    command := v.command.or (some (.recorded (startCommand snapshot placement input)))
    outbox := v.outbox.or (some (outboxRow (startCommand snapshot placement input))) }

theorem homeView_of_start {db db' : Database} {snapshot : JobRunConfigSnapshot}
    {placement : PlacementRow} (hhome : k.call.input.sessionThreadId = k.home)
    (hnew : NewRunIds db k.call.input)
    (h : RecordsStart db db' snapshot placement k.call.input) :
    k.homeView db' = (k.homeView db).withStart snapshot placement k.call.input := by
  have hself : (k.call.input.sessionThreadId == k.home) = true := beq_iff_eq.mpr hhome
  have hsession : db'.sessionThreads.find? (·.sessionThreadId == k.home) =
      some (startSession snapshot k.call.input) := by
    have hnone : db.sessionThreads.find? (·.sessionThreadId == k.home) = none := by
      refine List.find?_eq_none.mpr fun r hr => ?_
      rw [← hhome]
      simpa using (hnew.session r hr).1
    rw [find?_insert? h.sessionThreads, hnone, Option.none_or]
    exact if_pos hself
  have hruntime : db'.runtimeSessions.find?
      (·.runtimeSessionId == k.call.input.runtimeSessionId) =
        some (startRuntime k.call.input) := by
    have hnone : db.runtimeSessions.find?
        (·.runtimeSessionId == k.call.input.runtimeSessionId) = none :=
      List.find?_eq_none.mpr fun r hr => by simpa using (hnew.runtime r hr).1
    rw [find?_insert? h.runtimeSessions, hnone, Option.none_or]
    exact if_pos (beq_self_eq_true _)
  have hload : loadSession db' k.home =
      ((k.homeView db).withStart snapshot placement k.call.input).session := by
    unfold loadSession
    rw [hsession]
    dsimp only [startSession]
    rw [hruntime, h.projectPlacements]
    unfold HomeView.withStart RunKey.homeView
    dsimp only
    cases db.projectPlacements.find? (·.projectPlacementId == snapshot.projectPlacementId) <;> rfl
  have houtbox : db'.commandOutbox.find? (·.commandId == k.call.input.commandId) =
      (db.commandOutbox.find? (·.commandId == k.call.input.commandId)).or
        (some (outboxRow (startCommand snapshot placement k.call.input))) := by
    rw [h.commandOutbox]
    exact find?_insertOrIgnore_of_pos (not_clashes_outbox hnew.turn) (beq_self_eq_true _)
  unfold RunKey.homeView Database.findCommand?
  rw [hload, houtbox, h.projectPlacements, h.turns, h.messages,
    find?_insert?_of_pos h.runtimeSessions hself,
    find?_insert?_of_pos h.commands (beq_self_eq_true k.call.input.commandId)]
  rfl

theorem view_writeRun {j : JobRunId} {states : List JobRunState}
    {hstates : ∀ state ∈ states, state.isActive = true} {f : JobRunRow → JobRunRow}
    {hf : KeepsRun f} : k.view (s.writeRun j states hstates f hf) = { k.view s with
      run := (k.view s).run.map fun r => if isRunIn j states r then f r else r } := by
  unfold RunKey.view
  rw [show (s.writeRun j states hstates f hf).findRun? k.jobRunId = _ from findRun?_updateRuns]
  rfl

theorem view_pauseJob {j : JobId} {code : String} {now : DateTime} :
    k.view (s.pauseJob j code now) = { k.view s with
      job := (k.view s).job.map fun r => if r.jobId == j && true then
        { r with enabled := false, nextRunAt := none, pausedReason := some code, updatedAt := now }
        else r } := by
  unfold RunKey.view
  rw [show (s.pauseJob j code now).findJob? k.jobId = _ from findJob?_writeJob]
  rfl

theorem runIsIn_congr {states : List JobRunState} {jobRunId : JobRunId}
    (h : s.findRun? jobRunId = t.findRun? jobRunId) :
    s.runIsIn jobRunId states = t.runIsIn jobRunId states := by
  rw [Bool.eq_iff_iff, runIsIn_iff, runIsIn_iff, h]

theorem firstTurn?_congr {db db' : Database} {home : SessionThreadId}
    (h : db.turns.select (·.sessionThreadId == home) =
      db'.turns.select (·.sessionThreadId == home)) :
    firstTurn? db home = firstTurn? db' home := by
  unfold firstTurn?
  rw [h]

theorem lastSummary?_congr {db db' : Database} {home : SessionThreadId}
    (h : db.messages.select (·.sessionThreadId == home) =
      db'.messages.select (·.sessionThreadId == home)) :
    lastSummary? db home = lastSummary? db' home := by
  have hselect : ∀ messages : Table MessageRow,
      (messages.select fun r => r.sessionThreadId == home && r.role == .assistant) =
        (messages.select (·.sessionThreadId == home)).filter (·.role == .assistant) := by
    intro messages
    unfold select
    rw [List.filter_filter]
    exact List.filter_congr fun r _ => Bool.and_comm _ _
  unfold lastSummary?
  rw [hselect, hselect, h]

theorem checkTurn_congr {db db' : Database} {home : SessionThreadId} {prompt : String}
    {error : Option AppError} (h : loadSession db home = loadSession db' home) :
    checkTurn db home prompt error = checkTurn db' home prompt error := by
  unfold checkTurn
  rw [h]

/-- **What a step does with a run rests on its part.** -/
theorem view_runStep {run : JobRunRow} {step : RunStep} (hview : k.view s = k.view t)
    (hid : run.jobRunId = k.jobRunId) (hs : Needs k run s step) (ht : Needs k run t step) :
    k.view (s.runStep run (k.call.inputAt step) step).1 =
        k.view (t.runStep run (k.call.inputAt step) step).1 ∧
      (s.runStep run (k.call.inputAt step) step).2 =
        (t.runStep run (k.call.inputAt step) step).2 := by
  have hrun : s.findRun? k.jobRunId = t.findRun? k.jobRunId := congrArg RunView.run hview
  have hhome : k.homeView s.db = k.homeView t.db := congrArg RunView.home hview
  have hplacements : s.db.projectPlacements = t.db.projectPlacements :=
    congrArg HomeView.placements hhome
  have hsession : loadSession s.db k.home = loadSession t.db k.home :=
    congrArg HomeView.session hhome
  have hin : ∀ states, s.runIsIn run.jobRunId states = t.runIsIn run.jobRunId states := by
    intro states
    rw [hid]
    exact runIsIn_congr hrun
  cases step with
  | start =>
    unfold runStep
    dsimp only
    rw [hplacements]
    split
    · exact ⟨hview, rfl⟩
    · split <;> exact ⟨hview, rfl⟩
  | claim snapshot placement =>
    obtain ⟨hself, hnew⟩ := hs
    obtain ⟨db, hdb⟩ := (@exists_recordStart _ snapshot placement)
      (hnew.inputAt (.claim snapshot placement))
    obtain ⟨db', hdb'⟩ := (@exists_recordStart _ snapshot placement)
      (ht.2.inputAt (.claim snapshot placement))
    have hstarted : k.view { s with db } = k.view { t with db := db' } := by
      show (⟨s.findRun? k.jobRunId, _, k.homeView db⟩ : RunView) = ⟨_, _, k.homeView db'⟩
      rw [homeView_of_start hself hnew (records_of_recordStart hdb).input,
        homeView_of_start hself ht.2 (records_of_recordStart hdb').input, hhome, hrun]
      exact congrArg (fun job => (⟨_, job, _⟩ : RunView)) (congrArg RunView.job hview)
    unfold runStep claimRun
    dsimp only
    rw [hdb, hdb', hin]
    cases (k.call.inputAt (.claim snapshot placement)).error with
    | some e => exact ⟨hview, rfl⟩
    | none =>
      cases t.runIsIn run.jobRunId [.queued] with
      | false => exact ⟨hview, rfl⟩
      | true =>
        refine ⟨?_, rfl⟩
        show k.view (startRun { s with db } _ _) = k.view (startRun { t with db := db' } _ _)
        unfold startRun
        rw [view_writeRun, view_writeRun, view_writeRun, view_writeRun, hstarted]
  | dispatchStart =>
    unfold runStep
    dsimp only
    split <;> exact ⟨hview, rfl⟩
  | detail =>
    unfold runStep
    dsimp only
    cases hthread : run.sessionThreadId with
    | none => exact ⟨hview, rfl⟩
    | some home =>
      obtain rfl := hs.1 home hthread
      dsimp only
      rw [hsession]
      split
      · exact ⟨hview, rfl⟩
      · exact ⟨hview, rfl⟩
      · split <;> exact ⟨hview, rfl⟩
  | existingTurn ready prompt =>
    unfold runStep
    dsimp only
    rw [hs.1]
    rw [Option.bind_some, Option.bind_some, firstTurn?_congr (congrArg HomeView.turns hhome)]
    split <;> exact ⟨hview, rfl⟩
  | check prompt =>
    unfold runStep
    dsimp only
    rw [hs.1, Option.getD_some, checkTurn_congr hsession]
    split <;> exact ⟨hview, rfl⟩
  | record prompt session placement =>
    obtain ⟨_, hself, hnew⟩ := hs
    have hexists : ∀ {db : Database}, NewRunIds db k.call.input →
        ∃ db', recordTurnSubmission db
          (runSubmission (k.call.inputAt (.record prompt session placement)) prompt)
          ((runSubmission (k.call.inputAt (.record prompt session placement)) prompt).command
            session placement) session.sessionThreadId = .ok db' :=
      fun hdb => exists_recordTurnSubmission hdb.turn
    obtain ⟨db, hdb⟩ := hexists hnew
    obtain ⟨db', hdb'⟩ := hexists ht.2.2
    have hrecorded : k.view { s with db } = k.view { t with db := db' } := by
      have hrecords := records_of_submission hdb
      have hrecords' := records_of_submission hdb'
      rw [hself] at hrecords hrecords'
      show (⟨s.findRun? k.jobRunId, _, k.homeView db⟩ : RunView) = ⟨_, _, k.homeView db'⟩
      rw [homeView_of_records rfl hnew hrecords, homeView_of_records rfl ht.2.2 hrecords', hhome,
        hrun]
      exact congrArg (fun job => (⟨_, job, _⟩ : RunView)) (congrArg RunView.job hview)
    unfold runSubmission at hdb hdb'
    unfold runStep
    dsimp only
    rw [hdb, hdb']
    cases (k.call.inputAt (.record prompt session placement)).error with
    | some e => exact ⟨hview, rfl⟩
    | none => exact ⟨hrecorded, rfl⟩
  | dispatchTurn commandId =>
    unfold runStep
    dsimp only
    split <;> exact ⟨hview, rfl⟩
  | reload commandId =>
    unfold runStep
    dsimp only
    rw [hs.1, Option.getD_some, hsession]
    split <;> exact ⟨hview, rfl⟩
  | link commandId =>
    have hlinked : s.db.turns.find? (·.commandId == commandId) =
        t.db.turns.find? (·.commandId == commandId) := by
      rw [hs.2]
      exact congrArg HomeView.linked hhome
    unfold runStep
    dsimp only
    rw [hlinked]
    split <;> exact ⟨hview, rfl⟩
  | markRunning turnId commandId =>
    unfold runStep markRunning
    dsimp only
    rw [view_writeRun, view_writeRun, hview]
    exact ⟨rfl, rfl⟩
  | turn =>
    have hturn : (((s.findRun? run.jobRunId).bind (·.turnId)).bind fun turnId =>
        s.db.turns.find? (·.turnId == turnId)) =
        (((t.findRun? run.jobRunId).bind (·.turnId)).bind fun turnId =>
          t.db.turns.find? (·.turnId == turnId)) := by
      rw [hid, ← hrun]
      cases hrow : s.findRun? k.jobRunId with
      | none => rfl
      | some row =>
        rw [Option.bind_some, hs.2 row hrow]
        exact congrArg HomeView.turn hhome
    unfold runStep
    dsimp only
    rw [hturn]
    split
    · exact ⟨hview, rfl⟩
    · split
      · exact ⟨hview, rfl⟩
      · split <;> exact ⟨hview, rfl⟩
  | summary =>
    have hsummary : run.sessionThreadId.bind (lastSummary? s.db) =
        run.sessionThreadId.bind (lastSummary? t.db) := by
      cases hthread : run.sessionThreadId with
      | none => rfl
      | some home =>
        obtain rfl := hs home hthread
        exact lastSummary?_congr (congrArg HomeView.messages hhome)
    unfold runStep
    dsimp only
    rw [hsummary]
    exact ⟨hview, rfl⟩
  | succeed summary =>
    unfold runStep succeedRun
    dsimp only
    rw [view_writeRun, view_writeRun, hview]
    exact ⟨rfl, rfl⟩
  | runtime =>
    have hruntime : (run.sessionThreadId.bind fun home =>
        s.db.runtimeSessions.find? (·.sessionThreadId == home)) =
        run.sessionThreadId.bind fun home =>
          t.db.runtimeSessions.find? (·.sessionThreadId == home) := by
      cases hthread : run.sessionThreadId with
      | none => rfl
      | some home =>
        obtain rfl := hs home hthread
        exact congrArg HomeView.runtime hhome
    unfold runStep
    dsimp only
    rw [hruntime]
    split <;> exact ⟨hview, rfl⟩
  | fail code message timedOut =>
    have hfailed : k.view (s.failRun run.jobRunId code message timedOut k.call.input.now) =
        k.view (t.failRun run.jobRunId code message timedOut k.call.input.now) := by
      unfold failRun
      rw [view_writeRun, view_writeRun, hview]
    unfold runStep
    dsimp only
    rw [hin]
    split
    · split <;> exact ⟨hfailed, rfl⟩
    · exact ⟨hview, rfl⟩
  | pause code =>
    unfold runStep
    dsimp only
    rw [view_pauseJob, view_pauseJob, hview]
    exact ⟨rfl, rfl⟩

theorem sessionThreadId_of_checkTurn {db : Database} {home : SessionThreadId} {prompt : String}
    {error : Option AppError} {session : SessionRow} {placement : PlacementRow}
    (h : checkTurn db home prompt error = .ok (session, placement)) :
    session.sessionThreadId = home := by
  unfold checkTurn loadSession at h
  split at h
  · cases h
  · split at h
    · cases h
    · rename_i session' runtime placement' hload
      have hsession : session' = session := by
        split at h
        · cases h
        · injection h with h
          injection h
      rw [← hsession]
      split at hload
      · cases hload
      · rename_i row hfind
        have hrow : row.sessionThreadId = home := by simpa using find?_pos hfind
        split at hload
        · injection hload with hload
          injection hload with hload
          rw [← hload]
          exact hrow
        · cases hload
        · cases hload

/-- What a step takes for granted, it leaves for the next one. -/
theorem needs_runStep {run : JobRunRow} {step next : RunStep} (hs : Needs k run s step)
    (h : s.runStep run (k.call.inputAt step) step = (t, .goesOn next)) : Needs k run t next := by
  cases step with
  | start =>
    unfold runStep at h
    dsimp only at h
    split at h
    · cases h
      exact trivial
    · split at h
      · cases h
        exact trivial
      · cases h
        exact trivial
      · cases h
        exact hs
  | detail =>
    unfold runStep at h
    dsimp only at h
    split at h
    · cases h
    · rename_i home hhome
      have hself := hs.1 home hhome
      split at h
      · cases h
      · cases h
      · split at h
        · cases h
          exact trivial
        · cases h
          exact ⟨hself ▸ hhome, hs.2⟩
  | existingTurn ready prompt =>
    unfold runStep at h
    dsimp only at h
    split at h
    · cases h
      exact trivial
    · cases ready with
      | false => cases h
      | true =>
        cases h
        exact hs
  | check prompt =>
    unfold runStep at h
    dsimp only at h
    split at h
    · cases h
    · rename_i session placement hcheck
      cases h
      rw [hs.1, Option.getD_some] at hcheck
      exact ⟨hs.1, sessionThreadId_of_checkTurn hcheck, hs.2⟩
  | record prompt session placement =>
    unfold runStep at h
    dsimp only at h
    split at h
    · cases h
    · cases h
    · cases h
      exact ⟨hs.1, rfl⟩
  | dispatchTurn commandId =>
    unfold runStep at h
    dsimp only at h
    split at h
    · cases h
    · cases h
      exact hs
  | reload commandId =>
    unfold runStep at h
    dsimp only at h
    split at h
    · cases h
    · cases h
      exact hs
  | turn =>
    unfold runStep at h
    dsimp only at h
    split at h
    · cases h
      exact trivial
    · split at h
      · cases h
        exact hs.1
      · split at h
        · cases h
          exact hs.1
        · cases h
          exact trivial
        · cases h
          exact trivial
        · cases h
          exact hs.1
  | runtime =>
    unfold runStep at h
    dsimp only at h
    split at h
    · cases h
    · rename_i hfailure
      obtain ⟨runtime, _, hstep⟩ := Option.bind_eq_some_iff.mp hfailure
      obtain ⟨code, message, timedOut, rfl⟩ := eq_fail_of_runtimeFailure hstep
      cases h
      exact trivial
  | _ =>
    -- what follows takes nothing for granted
    unfold runStep at h
    dsimp only at h
    repeat' split at h
    all_goals cases h
    all_goals exact trivial

/-- What becomes of a run in the steps that are left rests on its part. -/
theorem view_steps {run : JobRunRow} {left : Nat} {step : RunStep} (hview : k.view s = k.view t)
    (hid : run.jobRunId = k.jobRunId) (hs : Needs k run s step) (ht : Needs k run t step) :
    k.view (steps run k.call left step s).1 = k.view (steps run k.call left step t).1 ∧
      (steps run k.call left step s).2 = (steps run k.call left step t).2 := by
  induction left generalizing s t step with
  | zero => exact ⟨hview, rfl⟩
  | succ left ih =>
    obtain ⟨hview', hnext⟩ := view_runStep hview hid hs ht
    rw [steps, steps]
    cases hstep : s.runStep run (k.call.inputAt step) step with
    | mk s' next =>
      cases hstep' : t.runStep run (k.call.inputAt step) step with
      | mk t' next' =>
        rw [hstep, hstep'] at hview' hnext
        obtain rfl : next = next' := hnext
        cases next with
        | goesOn next => exact ih hview' (needs_runStep hs hstep) (needs_runStep ht hstep')
        | done => exact ⟨hview', rfl⟩
        | fails e => exact ⟨hview', rfl⟩

/-- The steps with another run leave the part alone. -/
theorem frame_steps {k' : RunKey} {run : JobRunRow} {left : Nat} {step : RunStep}
    (hapart : k.Apart k') (hid : run.jobRunId = k'.jobRunId) (hjob : run.jobId = k'.jobId)
    (hs : Needs k' run s step) : k.view (steps run k'.call left step s).1 = k.view s ∧
      (NewRunIds s.db k.call.input →
        NewRunIds (steps run k'.call left step s).1.db k.call.input) := by
  induction left generalizing s step with
  | zero => exact ⟨rfl, id⟩
  | succ left ih =>
    have hframe := frame_runStep hapart hid hjob hs
    rw [steps]
    cases hstep : s.runStep run (k'.call.inputAt step) step with
    | mk s' next =>
      rw [hstep] at hframe
      cases next with
      | goesOn next =>
        obtain ⟨hview, hnew⟩ := ih (needs_runStep hs hstep)
        exact ⟨hview.trans hframe.1, fun h => hnew (hframe.2 h)⟩
      | done => exact hframe
      | fails e => exact hframe

end Rests

/-! ## 6. The runs of a call stay apart -/

/-- The run of a key is there as the key says, and its ids are new. -/
structure Ready (k : RunKey) (s : Jobs) : Prop where
  run : ∀ run, s.findRun? k.jobRunId = some run →
    run.jobId = k.jobId ∧ homeOf run k.call.input = k.home ∧ run.turnId = k.turnId
  new : NewRunIds s.db k.call.input

section Drive

variable {k k' : RunKey} {s t : Jobs} {calls : JobRunId → RunCall}

theorem needs_firstStep {run : JobRunRow} {step : RunStep} (hready : Ready k s)
    (hrun : s.findRun? k.jobRunId = some run) (hstep : firstStep run.state = some step) :
    Needs k run s step := by
  obtain ⟨_, hhome, hturn⟩ := hready.run run hrun
  have hsession : run.state ≠ .queued → ∀ home, run.sessionThreadId = some home →
      home = k.home := by
    intro hstate home hthread
    unfold homeOf at hhome
    rw [if_neg hstate, hthread] at hhome
    exact hhome
  cases hstate : run.state with
  | queued =>
    rw [hstate] at hstep
    cases hstep
    unfold homeOf at hhome
    rw [if_pos hstate] at hhome
    exact ⟨hhome, hready.new⟩
  | starting =>
    rw [hstate] at hstep
    cases hstep
    exact ⟨hsession (by rw [hstate]; decide), hready.new⟩
  | running =>
    rw [hstate] at hstep
    cases hstep
    refine ⟨hsession (by rw [hstate]; decide), fun row hrow => ?_⟩
    rw [hrun] at hrow
    obtain rfl := Option.some.inj hrow
    exact hturn
  | _ =>
    rw [hstate] at hstep
    cases hstep

theorem loadJobRun_congr {jobRunId : JobRunId} (h : s.findRun? jobRunId = t.findRun? jobRunId) :
    s.loadJobRun jobRunId = t.loadJobRun jobRunId := by
  unfold loadJobRun
  rw [h]

theorem findRun?_of_loadJobRun {jobRunId : JobRunId} {run : JobRunRow}
    (h : s.loadJobRun jobRunId = .ok run) : s.findRun? jobRunId = some run := by
  unfold loadJobRun at h
  split at h
  · cases h
  · rename_i row hrow
    split at h
    · cases h
    · cases h
      exact hrow

/-- **What a call does with a run rests on its part.** -/
theorem view_driveRun (hcall : calls k.jobRunId = k.call) (hview : k.view s = k.view t)
    (hs : Ready k s) (ht : Ready k t) :
    k.view (driveRun calls k.jobRunId s).1 = k.view (driveRun calls k.jobRunId t).1 ∧
      (driveRun calls k.jobRunId s).2 = (driveRun calls k.jobRunId t).2 := by
  unfold driveRun
  rw [hcall, loadJobRun_congr (congrArg RunView.run hview)]
  cases hload : t.loadJobRun k.jobRunId with
  | error e => exact ⟨hview, rfl⟩
  | ok run =>
    dsimp only
    have hrun := findRun?_of_loadJobRun hload
    have hrun' : s.findRun? k.jobRunId = some run := (congrArg RunView.run hview).trans hrun
    cases hstep : firstStep run.state with
    | none => exact ⟨hview, rfl⟩
    | some step =>
      exact view_steps hview (findRun?_id hrun) (needs_firstStep hs hrun' hstep)
        (needs_firstStep ht hrun hstep)

/-- **A call leaves a run alone while it drives another one.** -/
theorem frame_driveRun (hcall : calls k'.jobRunId = k'.call) (hapart : k.Apart k')
    (hs : Ready k' s) : k.view (driveRun calls k'.jobRunId s).1 = k.view s ∧
      (Ready k s → Ready k (driveRun calls k'.jobRunId s).1) := by
  have hframe : k.view (driveRun calls k'.jobRunId s).1 = k.view s ∧
      (NewRunIds s.db k.call.input →
        NewRunIds (driveRun calls k'.jobRunId s).1.db k.call.input) := by
    unfold driveRun
    rw [hcall]
    cases hload : s.loadJobRun k'.jobRunId with
    | error e => exact ⟨rfl, id⟩
    | ok run =>
      dsimp only
      have hrun := findRun?_of_loadJobRun hload
      cases hstep : firstStep run.state with
      | none => exact ⟨rfl, id⟩
      | some step =>
        exact frame_steps hapart (findRun?_id hrun) (hs.run run hrun).1
          (needs_firstStep hs hrun hstep)
  refine ⟨hframe.1, fun hk => ⟨fun run hrun => hk.run run ?_, hframe.2 hk.new⟩⟩
  exact (congrArg RunView.run hframe.1).symm.trans hrun

end Drive

/-- The ids a call takes for its runs are new, and no two of them are the same. -/
structure NewCalls (s : Jobs) (calls : JobRunId → RunCall) : Prop where
  new : ∀ i ∈ s.activeRuns, NewRunIds s.db (calls i).input
  unused : ∀ i ∈ s.activeRuns, ∀ run ∈ s.jobRuns.rows,
    run.sessionThreadId ≠ some (calls i).input.sessionThreadId ∧
      run.turnId ≠ some (calls i).input.turnId
  apart : ∀ i ∈ s.activeRuns, ∀ j ∈ s.activeRuns, i ≠ j →
    (calls i).input.sessionThreadId ≠ (calls j).input.sessionThreadId ∧
      (calls i).input.runtimeSessionId ≠ (calls j).input.runtimeSessionId ∧
      (calls i).input.commandId ≠ (calls j).input.commandId ∧
      (calls i).input.turnId ≠ (calls j).input.turnId ∧
      (calls i).input.userMessageId ≠ (calls j).input.userMessageId

/-- No two active runs share a session: a start creates one for its run. -/
def OwnSessions (s : Jobs) : Prop :=
  ∀ a ∈ s.jobRuns.rows, ∀ b ∈ s.jobRuns.rows, a.state.isActive = true → b.state.isActive = true →
    a.sessionThreadId = b.sessionThreadId → a.sessionThreadId ≠ none → a = b

section Call

variable {s : Jobs} {calls : JobRunId → RunCall}

theorem homeOf_cases (run : JobRunRow) (input : JobInput) :
    homeOf run input = input.sessionThreadId ∨ run.sessionThreadId = some (homeOf run input) := by
  unfold homeOf
  split
  · exact Or.inl rfl
  · cases run.sessionThreadId with
    | none => exact Or.inl rfl
    | some home => exact Or.inr rfl

theorem mem_activeRuns {i : JobRunId} : i ∈ s.activeRuns ↔
    ∃ run ∈ s.jobRuns.rows, run.jobRunId = i ∧ run.state.isActive = true := by
  unfold activeRuns
  rw [List.mem_map]
  constructor
  · rintro ⟨run, hrun, hid⟩
    obtain ⟨hrow, hactive⟩ := List.mem_filter.mp (List.mem_mergeSort.mp hrun)
    exact ⟨run, hrow, hid, hactive⟩
  · rintro ⟨run, hrow, hid, hactive⟩
    exact ⟨run, List.mem_mergeSort.mpr (List.mem_filter.mpr ⟨hrow, hactive⟩), hid⟩

theorem nodup_activeRuns : s.activeRuns.Nodup := by
  have hperm := (List.mergeSort_perm (s.jobRuns.select (·.state.isActive)) fun a b =>
    a.queuedAt < b.queuedAt ∨ a.queuedAt = b.queuedAt ∧ a.jobRunId ≤ b.jobRunId).map (·.jobRunId)
  exact hperm.nodup_iff.mpr (nodup_select_map fun a b hid => Or.inl hid)

theorem ready_keyOf {i : JobRunId} (hnew : NewCalls s calls) (hi : i ∈ s.activeRuns) :
    Ready (keyOf s calls i) s := by
  refine ⟨fun run hrun => ?_, hnew.new i hi⟩
  have hfound : s.findRun? i = some run := hrun
  unfold keyOf
  rw [hfound]
  exact ⟨rfl, rfl, rfl⟩

theorem apart_keyOf {i j : JobRunId} (hnew : NewCalls s calls) (hown : s.OwnSessions)
    (hi : i ∈ s.activeRuns) (hj : j ∈ s.activeRuns) (hij : i ≠ j) :
    (keyOf s calls i).Apart (keyOf s calls j) := by
  obtain ⟨a, ha, rfl, hactive⟩ := mem_activeRuns.mp hi
  obtain ⟨b, hb, rfl, hbactive⟩ := mem_activeRuns.mp hj
  obtain ⟨hsession, hruntime, hcommand, hturn, hmessage⟩ := hnew.apart _ hi _ hj hij
  have hne : a ≠ b := fun hab => hij (congrArg JobRunRow.jobRunId hab)
  have hhome : homeOf a (calls a.jobRunId).input ≠ homeOf b (calls b.jobRunId).input := by
    intro heq
    rcases homeOf_cases a (calls a.jobRunId).input with hnewa | hsessiona
    · rcases homeOf_cases b (calls b.jobRunId).input with hnewb | hsessionb
      · exact hsession (hnewa.symm.trans (heq.trans hnewb))
      · rw [← heq, hnewa] at hsessionb
        exact (hnew.unused _ hi b hb).1 hsessionb
    · rcases homeOf_cases b (calls b.jobRunId).input with hnewb | hsessionb
      · rw [heq, hnewb] at hsessiona
        exact (hnew.unused _ hj a ha).1 hsessiona
      · refine hne (hown a ha b hb hactive hbactive ?_ ?_)
        · rw [hsessiona, hsessionb, heq]
        · rw [hsessiona]
          exact Option.some_ne_none _
  unfold keyOf
  rw [findRun?_of_mem ha, findRun?_of_mem hb]
  refine ⟨hij, fun hjob => hne ?_, hhome, (hnew.unused _ hj a ha).2, hsession, hruntime, hcommand,
    hturn, hmessage⟩
  exact eq_of_clash ha hb (Or.inr (Or.inr ⟨hjob, hactive, hbactive⟩))

/-- **The runs of a call stay apart.** -/
theorem separate_driveRun (hnew : NewCalls s calls) (hown : s.OwnSessions) :
    Separate (driveRun calls) (fun i => (keyOf s calls i).view) (fun i => Ready (keyOf s calls i))
      s.activeRuns := by
  refine ⟨fun i hi j hj hij t hready => ?_, fun i hi j hj hij t hi' hj' => ?_,
    fun i hi t u ht hu hview => ?_⟩
  · exact (frame_driveRun rfl (apart_keyOf hnew hown hi hj hij) hready).1
  · exact (frame_driveRun rfl (apart_keyOf hnew hown hi hj hij) hj').2 hi'
  · obtain ⟨hview', herror⟩ := view_driveRun (k := keyOf s calls i) rfl hview ht hu
    refine ⟨hview', ?_⟩
    show (driveRun calls i t).2.isSome = true ↔ (driveRun calls i u).2.isSome = true
    rw [show (driveRun calls i t).2 = (driveRun calls i u).2 from herror]

end Call

end Jobs

end Uprava.Core
