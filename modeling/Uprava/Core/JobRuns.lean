/-
  File:      Uprava/Core/JobRuns.lean
  Subject:   Job runs under concurrent drivers: the scheduler's ticks, the requests that change, run
             and cancel, and restarts, in any order of their statements.

  Two laws are those of the unique indexes, and hold of every table. The others rest on guarded
  updates, and two of them fail where a write acts on what was read earlier:

  * `Scheduler.Current` -- what is written rests on a read that still holds: a turn is recorded for
    a run that is still starting and whose session still has no turn, and an update writes `enabled`
    only of a job that still is;
  * `Scheduler.Sound`   -- the invariant of runs whose steps are such;
  * **`job_runs_lawful`** -- in these runs the six laws hold.
-/
import Mathlib.Data.List.Perm.Basic
import Uprava.Core.Jobs
import Uprava.Lib.Run

namespace Uprava.Core

open Uprava.Protocol
open Uprava.Lib (Schema Table Always Throughout Meets)
open Uprava.Lib.Table

/-! ## 1. Drivers and requests in hand -/

inductive JobTask where
  /-- The rest of `dispatch_due_jobs`, in a tick. -/
  | claims (due : List JobId)
  | claiming (job : Jobs.JobDetail) (occurrence : Jobs.Occurrence) (due : List JobId)
  /-- `drive_job_runs`: the runs are selected, and driven one after the other. -/
  | selects
  | drives (runs : List JobRunId)
  | driving (run : JobRunRow) (step : Jobs.RunStep) (runs : List JobRunId)
  /-- The transaction of `run_job_route`. -/
  | inserts (job : Jobs.JobDetail) (force : Bool)
  /-- The updates of `update_job_route` and `enable_job_route`. -/
  | updates (write : Jobs.JobWrite)
  | enables (jobId : JobId) (nextRunAt : DateTime)
  deriving DecidableEq

structure Scheduler where
  tables : Jobs := {}
  tasks : List JobTask := []
  /-- The turns that were submitted for runs. -/
  submitted : List (JobRunId × TurnId) := []
  /-- The jobs that were disabled, by a request or by a failure, and not enabled since. -/
  paused : List JobId := []
  /-- The scheduled runs that were created of jobs while they were so. -/
  strays : List JobRunId := []
  deriving DecidableEq

inductive JobAction where
  | create (jobId : JobId) (projectPlacementId : ProjectPlacementId)
      (name prompt provider : String) (schedule : Option JobSchedule) (timezone : String)
      (continueAfterError : Bool) (now : DateTime)
  | update (jobId : JobId) (request : Jobs.JobUpdate) (now : DateTime)
  | enable (jobId : JobId) (now : DateTime)
  | disable (jobId : JobId) (now : DateTime)
  | run (jobId : JobId) (force : Bool)
  | cancel (jobRunId : JobRunId) (now : DateTime)
  | tick (now : DateTime)
  /-- The task at a position takes its next step. -/
  | advance (position : Nat) (input : Jobs.JobInput)
  /-- The task at a position ends where it is: by an error, or with the request it serves. -/
  | drop (position : Nat)
  | restart
  /-- The rest of Core writes. -/
  | elsewhere (db : Database)
  deriving DecidableEq

namespace Scheduler

/-! ## 2. One step -/

section Steps

variable (zones : TimeZones)

/-- A task more. -/
def put (s : Scheduler) (task : JobTask) : Scheduler := { s with tasks := task :: s.tasks }

def without (s : Scheduler) (position : Nat) : Scheduler :=
  { s with tasks := s.tasks.eraseIdx position }

/-- A step with a run. -/
def driven (s : Scheduler) (run : JobRunRow) (input : Jobs.JobInput) (step : Jobs.RunStep) :
    Scheduler :=
  let (tables, next) := s.tables.runStep run input step
  { s with
    tables
    submitted := match step, next with
      | .record .., .goesOn _ => s.submitted ++ [(run.jobRunId, input.turnId)]
      | _, _ => s.submitted
    paused := match step with
      | .pause _ => run.jobId :: s.paused
      | _ => s.paused }

/-- A step with a run, and how its driver goes on. -/
def drive (s : Scheduler) (run : JobRunRow) (runs : List JobRunId) (input : Jobs.JobInput)
    (step : Jobs.RunStep) : Scheduler :=
  match (s.tables.runStep run input step).2 with
  | .goesOn next => (s.driven run input step).put (.driving run next runs)
  | .done => (s.driven run input step).put (.drives runs)
  | .fails _ => s.driven run input step

/-- A task takes its next step. An error in `dispatch_due_jobs` ends it, and the tick goes on with
    `drive_job_runs`. -/
def advance (s : Scheduler) (input : Jobs.JobInput) : JobTask → Scheduler
  | .claims [] => s.put .selects
  | .claims (jobId :: due) =>
    match s.tables.loadJobDetail jobId with
    | .error _ => s.put .selects
    | .ok job =>
      match Jobs.dueOccurrence zones job input.now with
      | .error _ => s.put .selects
      | .ok none => s.put (.claims due)
      | .ok (some occurrence) => s.put (.claiming job occurrence due)
  | .claiming job occurrence due =>
    match s.tables.claimOccurrence input.jobRunId job occurrence input.now with
    | .error _ => s.put .selects
    | .ok tables =>
      let created := (s.tables.findJob? job.row.jobId).any (Jobs.isDueAt occurrence.dueAt)
      Scheduler.put
        { s with
          tables
          strays := if created && s.paused.contains job.row.jobId then
              s.strays ++ [input.jobRunId]
            else s.strays } (.claims due)
  | .selects => s.put (.drives s.tables.activeRuns)
  | .drives [] => s
  | .drives (jobRunId :: runs) =>
    match s.tables.loadJobRun jobRunId with
    | .error _ => s
    | .ok run =>
      match Jobs.firstStep run.state with
      | none => s.put (.drives runs)
      | some step => s.put (.driving run step runs)
  | .driving run step runs => s.drive run runs input step
  | .inserts job force =>
    match s.tables.insertJobRun input.jobRunId job .manual none force input.now with
    | .error _ => s
    | .ok tables => Scheduler.put { s with tables } .selects
  | .updates write => { s with tables := s.tables.updateJob write input.now }
  | .enables jobId nextRunAt =>
    { s with
      tables := s.tables.enableJob jobId nextRunAt input.now
      paused := s.paused.filter (· != jobId) }

/-- The turns of a database are there afterwards. -/
def KeepsTurns (db db' : Database) : Prop :=
  ∀ r ∈ db.turns.rows, ∃ r' ∈ db'.turns.rows, r'.sessionThreadId = r.sessionThreadId

instance (db db' : Database) : Decidable (KeepsTurns db db') :=
  inferInstanceAs (Decidable (∀ r ∈ db.turns.rows, ∃ r' ∈ db'.turns.rows, _ = _))

/-- One step. The task that takes it stands first afterwards. -/
def step (s : Scheduler) : JobAction → Option Scheduler
  | .create jobId projectPlacementId name prompt provider schedule timezone continueAfterError
      now =>
    ((s.tables.createJob zones jobId projectPlacementId name prompt provider schedule timezone
      continueAfterError now).toOption).map fun tables => { s with tables }
  | .update jobId request now =>
    ((s.tables.prepareUpdate zones jobId request now).toOption).map fun write =>
      s.put (.updates write)
  | .enable jobId now =>
    ((s.tables.prepareEnable zones jobId now).toOption).map fun nextRunAt =>
      s.put (.enables jobId nextRunAt)
  | .disable jobId now =>
    ((s.tables.disableJob jobId now).toOption).map fun tables =>
      { s with tables, paused := jobId :: s.paused }
  | .run jobId force =>
    ((s.tables.loadJobDetail jobId).toOption).map fun job => s.put (.inserts job force)
  | .cancel jobRunId now =>
    ((s.tables.cancelJobRun jobRunId now).toOption).map fun tables => { s with tables }
  | .tick now => some (s.put (.claims (s.tables.dueJobs now)))
  | .advance position input =>
    (s.tasks[position]?).map fun task => (s.without position).advance zones input task
  | .drop position => (s.tasks[position]?).map fun _ => s.without position
  | .restart => some { s with tables := s.tables.recoverJobRuns, tasks := [] }
  | .elsewhere db =>
    -- turns are deleted only with their placement or Node, and the jobs there with them
    if KeepsTurns s.tables.db db then some { s with tables := { s.tables with db } } else none

end Steps

/-! ## 3. The laws -/

def turnsOf (s : Scheduler) (jobRunId : JobRunId) : List TurnId :=
  (s.submitted.filter (·.1 == jobRunId)).map (·.2)

/-- **What holds in every state.** -/
structure Lawful (s : Scheduler) : Prop where
  /-- A job has one active run. -/
  oneActive : ∀ a ∈ s.tables.jobRuns.rows, ∀ b ∈ s.tables.jobRuns.rows, a.jobId = b.jobId →
    a.state.isActive = true → b.state.isActive = true → a = b
  /-- A scheduled occurrence has one run. -/
  oneRun : ∀ a ∈ s.tables.jobRuns.rows, ∀ b ∈ s.tables.jobRuns.rows, a.jobId = b.jobId →
    a.trigger = .scheduled → b.trigger = .scheduled → a.scheduledFor = b.scheduledFor →
    a.scheduledFor ≠ none → a = b
  /-- The prompt of a run is submitted once. -/
  once : ∀ jobRunId, (s.turnsOf jobRunId).length ≤ 1
  /-- No scheduled run is created of a job that is paused. -/
  noStrays : s.strays = []

/-- **What holds of what comes later**: a run that has ended stays as it is, and one that was
    cancelled before its turn was submitted submits none. -/
structure KeepsRuns (s t : Scheduler) : Prop where
  ended : ∀ jobRunId run, s.tables.findRun? jobRunId = some run → run.state.isActive = false →
    t.tables.findRun? jobRunId = some run
  cancelled : ∀ jobRunId run, s.tables.findRun? jobRunId = some run → run.state = .cancelled →
    s.turnsOf jobRunId = [] → t.turnsOf jobRunId = []

/-- The run of a driver that records a turn is still starting, in the same session, and the session
    still has no turn. -/
def MayRecord (s : Scheduler) (run : JobRunRow) (session : SessionRow) : Prop :=
  (∃ now, s.tables.findRun? run.jobRunId = some now ∧ now.state = .starting ∧
    now.sessionThreadId = some session.sessionThreadId) ∧
  ∀ r ∈ s.tables.db.turns.rows, r.sessionThreadId ≠ session.sessionThreadId

/-- An update that writes `enabled` finds the job enabled. -/
def MayEnable (s : Scheduler) (write : Jobs.JobWrite) : Prop :=
  write.enabled = true → ∀ row, s.tables.findJob? write.jobId = some row → row.enabled = true

/-- **What a step writes rests on a read that still holds.** -/
def Current (s : Scheduler) : JobAction → Prop
  | .advance position _ =>
    (∀ run prompt session placement runs, s.tasks[position]? =
        some (.driving run (.record prompt session placement) runs) → s.MayRecord run session) ∧
    ∀ write, s.tasks[position]? = some (.updates write) → s.MayEnable write
  | _ => True

end Scheduler

/-! ## 4. What a step does to runs, turns and jobs -/

namespace Jobs

section Writes

variable {s t u : Jobs} {jobRunId : JobRunId}

/-- A run that waits has no session. -/
def QueuedFresh (s : Jobs) : Prop :=
  ∀ jobRunId run, s.findRun? jobRunId = some run → run.state = .queued →
    run.sessionThreadId = none

/-- **What becomes of the runs**: each is there afterwards, as it was when it had ended, and in its
    session when it had one. -/
structure Follows (s t : Jobs) : Prop where
  kept : ∀ jobRunId run, s.findRun? jobRunId = some run → ∃ run', t.findRun? jobRunId = some run' ∧
    (run.state.isActive = false → run' = run) ∧
    ∀ sessionThreadId, run.sessionThreadId = some sessionThreadId →
      run'.sessionThreadId = some sessionThreadId
  queued : s.QueuedFresh → t.QueuedFresh

theorem Follows.of_eq (h : t.jobRuns = s.jobRuns) : Follows s t := by
  have hfind : ∀ jobRunId, t.findRun? jobRunId = s.findRun? jobRunId := by
    intro jobRunId
    rw [findRun?, h]
    rfl
  refine ⟨fun jobRunId run hrun => ⟨run, (hfind jobRunId).trans hrun, fun _ => rfl, fun _ => id⟩,
    fun hq jobRunId run hrun => hq jobRunId run ((hfind jobRunId).symm.trans hrun)⟩

/-- An update of active runs that neither takes a session away nor puts one that has a session
    back. -/
theorem follows_updateRuns {p : JobRunRow → Bool}
    {hp : ∀ r, p r = true → r.state.isActive = true} {f : JobRunRow → JobRunRow}
    {hf : KeepsRun f} (hsession : ∀ r, p r = true → ∀ sessionThreadId,
      r.sessionThreadId = some sessionThreadId → (f r).sessionThreadId = some sessionThreadId)
    (hqueued : ∀ r, p r = true → (f r).state = .queued → (f r).sessionThreadId = none) :
    Follows s (s.updateRuns p hp f hf) := by
  constructor
  · intro jobRunId run hrun
    refine ⟨_, by rw [findRun?_updateRuns, hrun]; rfl, fun hended => ?_, fun sessionThreadId h => ?_⟩
    · refine if_neg fun hpos => ?_
      rw [hp run hpos] at hended
      cases hended
    · dsimp only
      split
      · rename_i hpos
        exact hsession run hpos sessionThreadId h
      · exact h
  · intro hq jobRunId run hrun hstate
    rw [findRun?_updateRuns] at hrun
    obtain ⟨r, hr, rfl⟩ := Option.map_eq_some_iff.mp hrun
    split at hstate
    · rename_i hpos
      rw [if_pos hpos]
      exact hqueued r hpos hstate
    · rename_i hneg
      rw [if_neg hneg]
      exact hq jobRunId r hr hstate

/-- The same for an update that ends a run or moves it on. -/
theorem follows_writeRun {states : List JobRunState}
    {hstates : ∀ state ∈ states, state.isActive = true} {f : JobRunRow → JobRunRow}
    {hf : KeepsRun f} (hsession : ∀ r, (f r).sessionThreadId = r.sessionThreadId)
    (hqueued : ∀ r, (f r).state ≠ .queued) :
    Follows s (s.writeRun jobRunId states hstates f hf) :=
  follows_updateRuns (fun r _ _ h => (hsession r).trans h)
    fun r _ h => absurd h (hqueued r)

theorem follows_recover : Follows s s.recoverJobRuns := by
  refine follows_updateRuns (fun r hpos sessionThreadId h => ?_) fun r hpos _ => ?_
  · exact h
  · have hnone := (Bool.and_eq_true_iff.mp hpos).2
    simpa using hnone

/-- A run that is created is a new one. -/
theorem follows_insert {run : JobRunRow} {jobRuns : Table JobRunRow}
    (h : s.jobRuns.insert? run = some jobRuns) (hnone : run.sessionThreadId = none) :
    Follows s { s with jobRuns } := by
  have hfind : ∀ jobRunId, ({ s with jobRuns } : Jobs).findRun? jobRunId =
      (s.findRun? jobRunId).or (if run.jobRunId == jobRunId then some run else none) :=
    fun jobRunId => find?_insert? h _
  constructor
  · intro jobRunId r hr
    exact ⟨r, by rw [hfind, hr]; rfl, fun _ => rfl, fun _ => id⟩
  · intro hq jobRunId r hr hstate
    rw [hfind] at hr
    cases hold : s.findRun? jobRunId with
    | some r' =>
      rw [hold] at hr
      obtain rfl : r' = r := Option.some.inj hr
      exact hq jobRunId r' hold hstate
    | none =>
      rw [hold, Option.none_or] at hr
      split at hr
      · obtain rfl := Option.some.inj hr
        exact hnone
      · cases hr

/-- The start of a run that waits gives it a session. -/
theorem follows_startRun (hq : s.QueuedFresh) (hin : s.runIsIn jobRunId [.queued] = true)
    (input : JobInput) : Follows s (s.startRun jobRunId input) := by
  obtain ⟨run, hrun, hstate⟩ := runIsIn_iff.mp hin
  have hstate : run.state = .queued := by simpa using hstate
  have hfind : ∀ j, (s.startRun jobRunId input).findRun? j = (s.findRun? j).map fun r =>
      if r.jobRunId = jobRunId ∧ r.state = .queued then
        { r with
          state := .starting, startedAt := some input.now,
          sessionThreadId := some input.sessionThreadId,
          runtimeSessionId := some input.runtimeSessionId }
      else r := by
    intro j
    rw [startRun, writeRun, findRun?_updateRuns, writeRun, findRun?_updateRuns, Option.map_map]
    cases hr : s.findRun? j with
    | none => rfl
    | some r =>
      have hone : r.jobRunId = jobRunId → r.state = .queued := by
        intro hid
        rw [← hid, findRun?_id hr] at hrun
        obtain rfl : r = run := Option.some.inj (hr.symm.trans hrun)
        exact hstate
      by_cases hid : r.jobRunId = jobRunId
      · simp [isRunIn, hid, hone hid]
      · simp [isRunIn, hid]
  constructor
  · intro j r hr
    refine ⟨_, by rw [hfind, hr]; rfl, fun hended => if_neg fun hboth => ?_, fun sid h => ?_⟩
    · rw [hboth.2] at hended
      cases hended
    · split
      · rename_i hboth
        rw [hq j r hr hboth.2] at h
        cases h
      · exact h
  · intro _ j r hr hqueued
    rw [hfind] at hr
    obtain ⟨r', hr', rfl⟩ := Option.map_eq_some_iff.mp hr
    split at hqueued
    · cases hqueued
    · rename_i hnot
      rw [if_neg hnot]
      exact hq j r' hr' hqueued

/-- No job is enabled that was not. -/
def Quiet (s t : Jobs) : Prop :=
  ∀ jobId row, t.findJob? jobId = some row → row.enabled = true →
    ∃ old, s.findJob? jobId = some old ∧ old.enabled = true

theorem Quiet.of_eq (h : t.jobs = s.jobs) : Quiet s t := by
  intro jobId row hrow henabled
  refine ⟨row, ?_, henabled⟩
  rw [findJob?, h] at hrow
  exact hrow

theorem quiet_writeJob {jobId : JobId} {p : JobRow → Bool} {f : JobRow → JobRow}
    {hf : ∀ r, (f r).jobId = r.jobId}
    (h : ∀ r, s.findJob? jobId = some r → (f r).enabled = true → r.enabled = true) :
    Quiet s (s.writeJob jobId p f hf) := by
  intro j row hrow henabled
  rw [findJob?_writeJob] at hrow
  obtain ⟨r, hr, rfl⟩ := Option.map_eq_some_iff.mp hrow
  split at henabled
  · rename_i hpos
    have hid : r.jobId = jobId := eq_of_beq (Bool.and_eq_true_iff.mp hpos).1
    have hj : r.jobId = j := by simpa using find?_pos hr
    exact ⟨r, hr, h r (by rw [← hid, hj]; exact hr) henabled⟩
  · exact ⟨r, hr, henabled⟩

/-- The runs follow, no job is enabled, and the turns are kept. -/
structure Effect (s t : Jobs) : Prop where
  follows : Follows s t
  quiet : Quiet s t
  turns : Scheduler.KeepsTurns s.db t.db

theorem keepsTurns_of_eq {db db' : Database} (h : db'.turns = db.turns) :
    Scheduler.KeepsTurns db db' := by
  intro r hr
  refine ⟨r, ?_, rfl⟩
  rw [h]
  exact hr

theorem Effect.refl (s : Jobs) : Effect s s :=
  ⟨.of_eq rfl, .of_eq rfl, keepsTurns_of_eq rfl⟩

/-- An update of runs. -/
theorem Effect.of_follows (h : Follows s t) (hjobs : t.jobs = s.jobs)
    (hturns : t.db.turns = s.db.turns) : Effect s t :=
  ⟨h, .of_eq hjobs, keepsTurns_of_eq hturns⟩

/-- An update of jobs. -/
theorem Effect.of_quiet (h : Quiet s t) (hruns : t.jobRuns = s.jobRuns)
    (hturns : t.db.turns = s.db.turns) : Effect s t :=
  ⟨.of_eq hruns, h, keepsTurns_of_eq hturns⟩

end Writes

section Effects

variable {s t : Jobs}

theorem effect_pauseJob (jobId : JobId) (reason : String) (now : DateTime) :
    Effect s (s.pauseJob jobId reason now) :=
  .of_quiet (quiet_writeJob fun _ _ h => by cases h) rfl rfl

/-- An update that enables the job finds it enabled. -/
theorem effect_updateJob {write : JobWrite} {now : DateTime} (h : write.enabled = true →
    ∀ row, s.findJob? write.jobId = some row → row.enabled = true) :
    Effect s (s.updateJob write now) := by
  unfold updateJob
  exact .of_quiet (quiet_writeJob fun r hr henabled => h henabled r hr) rfl rfl

/-- A job that is paused is not enabled. -/
theorem findJob?_pauseJob {jobId : JobId} {reason : String} {now : DateTime} {row : JobRow}
    (h : (s.pauseJob jobId reason now).findJob? jobId = some row) : row.enabled = false := by
  rw [pauseJob, findJob?_writeJob] at h
  obtain ⟨r, hr, rfl⟩ := Option.map_eq_some_iff.mp h
  have hid : r.jobId = jobId := by simpa using find?_pos hr
  simp [hid]

theorem effect_cancelJobRun {jobRunId : JobRunId} {now : DateTime}
    (h : s.cancelJobRun jobRunId now = .ok t) : Effect s t := by
  obtain ⟨_, _, h⟩ := bind_eq_ok.mp h
  split at h
  · obtain rfl := Except.ok.inj h
    exact .of_follows (follows_writeRun (fun _ => rfl) fun _ => by simp) rfl rfl
  · cases h

theorem effect_insertJobRun {jobRunId : JobRunId} {job : JobDetail} {trigger : JobRunTrigger}
    {scheduledFor : Option DateTime} {force : Bool} {now : DateTime}
    (h : s.insertJobRun jobRunId job trigger scheduledFor force now = .ok t) : Effect s t := by
  obtain ⟨jobRuns, hinsert, h⟩ := bind_eq_ok.mp h
  obtain rfl := Except.ok.inj h
  exact .of_follows (follows_insert (dbResult_eq_ok.mp hinsert) rfl) rfl rfl

theorem effect_claimOccurrence {jobRunId : JobRunId} {job : JobDetail} {occurrence : Occurrence}
    {now : DateTime} (h : s.claimOccurrence jobRunId job occurrence now = .ok t) : Effect s t := by
  unfold claimOccurrence at h
  split at h
  · obtain ⟨jobRuns, hinsert, h⟩ := bind_eq_ok.mp h
    obtain rfl := Except.ok.inj h
    have hinsert : s.jobRuns.insert? _ = some jobRuns := dbResult_eq_ok.mp hinsert
    have hquiet : Quiet s (s.writeJob job.row.jobId (isDueAt occurrence.dueAt)
        (fun r => { r with nextRunAt := some occurrence.nextRunAt, updatedAt := now })
        fun _ => rfl) :=
      quiet_writeJob fun _ _ h => h
    have hfollows : Follows s { s with jobRuns } := follows_insert hinsert rfl
    exact ⟨⟨hfollows.kept, hfollows.queued⟩, hquiet, keepsTurns_of_eq rfl⟩
  · obtain rfl := Except.ok.inj h
    exact .refl s

theorem effect_createJob {zones : TimeZones} {jobId : JobId}
    {projectPlacementId : ProjectPlacementId} {name prompt provider timezone : String}
    {schedule : Option JobSchedule} {continueAfterError : Bool} {now : DateTime}
    (h : createJob zones s jobId projectPlacementId name prompt provider schedule timezone
      continueAfterError now = .ok t) : Effect s t := by
  unfold createJob at h
  dsimp only at h
  split at h
  · cases h
  · obtain ⟨_, _, h⟩ := bind_eq_ok.mp h
    obtain ⟨jobs, hinsert, h⟩ := bind_eq_ok.mp h
    obtain rfl := Except.ok.inj h
    refine .of_quiet (fun j row hrow henabled => ?_) rfl rfl
    have hfind := find?_insert? (dbResult_eq_ok.mp hinsert) (·.jobId == j)
    have hrow : jobs.find? (·.jobId == j) = some row := hrow
    rw [hfind] at hrow
    cases hold : s.jobs.find? (·.jobId == j) with
    | some old =>
      rw [hold] at hrow
      obtain rfl : old = row := Option.some.inj hrow
      exact ⟨old, hold, henabled⟩
    | none =>
      rw [hold, Option.none_or] at hrow
      split at hrow
      · obtain rfl := Option.some.inj hrow
        cases henabled
      · cases hrow

/-- The transaction that records a turn adds one in its session. -/
theorem turns_of_recordTurnSubmission {db db' : Database} {submission : TurnSubmission}
    {command : CommandEnvelope} {sessionThreadId : SessionThreadId}
    (h : recordTurnSubmission db submission command sessionThreadId = .ok db') :
    ∃ r, r.sessionThreadId = sessionThreadId ∧ db'.turns.rows = db.turns.rows ++ [r] := by
  obtain ⟨_, _, h⟩ := bind_eq_ok.mp h
  obtain ⟨turns, hturns, h⟩ := bind_eq_ok.mp h
  obtain ⟨_, _, h⟩ := bind_eq_ok.mp h
  obtain rfl := Except.ok.inj h
  have hrows := (insert?_eq_some.mp (dbResult_eq_ok.mp hturns)).2
  rw [upsertActor_turns db] at hrows
  refine ⟨_, ?_, hrows⟩
  rfl

theorem turns_of_recordStart {db db' : Database} {snapshot : JobRunConfigSnapshot}
    {placement : PlacementRow} {input : JobInput}
    (h : recordStart db snapshot placement input = .ok db') : db'.turns = db.turns := by
  obtain ⟨_, _, h⟩ := bind_eq_ok.mp h
  obtain ⟨_, _, h⟩ := bind_eq_ok.mp h
  unfold recordCommand at h
  split at h
  · cases h
  · dsimp only at h
    split at h
    · cases h
    · obtain rfl := Except.ok.inj h
      exact upsertActor_turns ..

theorem effect_claimRun {jobRunId : JobRunId} {snapshot : JobRunConfigSnapshot}
    {placement : PlacementRow} {input : JobInput} (hq : s.QueuedFresh)
    (h : s.claimRun jobRunId snapshot placement input = .ok (some t)) : Effect s t := by
  unfold claimRun at h
  split at h
  · rename_i hin
    cases hdb : recordStart s.db snapshot placement input with
    | error e =>
      rw [hdb] at h
      cases h
    | ok db =>
      rw [hdb] at h
      obtain rfl := Option.some.inj (Except.ok.inj h)
      have hfollows := follows_startRun (s := { s with db }) hq hin input
      exact .of_follows ⟨hfollows.kept, hfollows.queued⟩ rfl (turns_of_recordStart hdb)
  · cases h

/-- **A step with a run.** -/
theorem effect_runStep (hq : s.QueuedFresh) (run : JobRunRow) (input : JobInput)
    (step : RunStep) : Effect s (s.runStep run input step).1 := by
  cases step with
  | start =>
    unfold runStep
    dsimp only
    split
    · exact .refl s
    · split <;> exact .refl s
  | claim snapshot placement =>
    unfold runStep
    dsimp only
    split
    · exact .refl s
    · exact .refl s
    · exact .refl s
    · rename_i hclaim
      exact effect_claimRun hq hclaim
  | dispatchStart =>
    unfold runStep
    dsimp only
    split <;> exact .refl s
  | detail =>
    unfold runStep
    dsimp only
    split
    · exact .refl s
    · split
      · exact .refl s
      · exact .refl s
      · split <;> exact .refl s
  | existingTurn ready prompt =>
    unfold runStep
    dsimp only
    split <;> exact .refl s
  | check prompt =>
    unfold runStep
    dsimp only
    split <;> exact .refl s
  | record prompt session placement =>
    unfold runStep
    dsimp only
    split
    · exact .refl s
    · exact .refl s
    · rename_i hrecord
      obtain ⟨r, _, hrows⟩ := turns_of_recordTurnSubmission hrecord
      refine ⟨.of_eq rfl, .of_eq rfl, fun r' hr' => ⟨r', ?_, rfl⟩⟩
      rw [hrows]
      exact List.mem_append_left _ hr'
  | dispatchTurn commandId =>
    unfold runStep
    dsimp only
    split <;> exact .refl s
  | reload commandId =>
    unfold runStep
    dsimp only
    split <;> exact .refl s
  | link commandId =>
    unfold runStep
    dsimp only
    split <;> exact .refl s
  | markRunning turnId commandId =>
    show Effect s (s.markRunning run.jobRunId turnId commandId)
    unfold markRunning
    exact .of_follows (follows_writeRun (fun _ => rfl) fun _ => by simp) rfl rfl
  | turn =>
    unfold runStep
    dsimp only
    split
    · exact .refl s
    · split
      · exact .refl s
      · split <;> exact .refl s
  | summary => exact .refl s
  | succeed summary =>
    show Effect s (s.succeedRun run.jobRunId summary input.now)
    unfold succeedRun
    exact .of_follows (follows_writeRun (fun _ => rfl) fun _ => by simp) rfl rfl
  | runtime =>
    unfold runStep
    dsimp only
    split <;> exact .refl s
  | fail code message timedOut =>
    have hfail : Effect s (s.failRun run.jobRunId code message timedOut input.now) := by
      unfold failRun
      exact .of_follows (follows_writeRun (fun _ => rfl) fun _ => by cases timedOut <;> simp) rfl
        rfl
    unfold runStep
    dsimp only
    split
    · split <;> exact hfail
    · exact .refl s
  | pause code => exact effect_pauseJob _ _ _

/-- Some turn was submitted in the session of a run. -/
def HasTurn (s : Jobs) (jobRunId : JobRunId) : Prop :=
  ∃ run sessionThreadId, s.findRun? jobRunId = some run ∧
    run.sessionThreadId = some sessionThreadId ∧
    ∃ r ∈ s.db.turns.rows, r.sessionThreadId = sessionThreadId

theorem hasTurn_of_follows (hfollows : Follows s t) (hturns : Scheduler.KeepsTurns s.db t.db)
    {jobRunId : JobRunId} (hs : s.HasTurn jobRunId) : t.HasTurn jobRunId := by
  obtain ⟨run, sessionThreadId, hrun, hsession, r, hr, hid⟩ := hs
  obtain ⟨run', hrun', _, hkept⟩ := hfollows.kept jobRunId run hrun
  obtain ⟨r', hr', hid'⟩ := hturns r hr
  exact ⟨run', sessionThreadId, hrun', hkept sessionThreadId hsession, r', hr', hid'.trans hid⟩

/-- A step that records a turn records it in the session it was checked for. -/
theorem turn_of_record {run : JobRunRow} {input : JobInput} {prompt : String}
    {session : SessionRow} {placement : PlacementRow} {next : RunStep}
    (h : (s.runStep run input (.record prompt session placement)).2 = .goesOn next) :
    ∃ r ∈ (s.runStep run input (.record prompt session placement)).1.db.turns.rows,
      r.sessionThreadId = session.sessionThreadId := by
  unfold runStep at h ⊢
  dsimp only at h ⊢
  split at h
  · cases h
  · cases h
  · rename_i hrecord
    obtain ⟨r, hr, hrows⟩ := turns_of_recordTurnSubmission hrecord
    refine ⟨r, ?_, hr⟩
    rw [hrows]
    exact List.mem_append_right _ List.mem_cons_self

end Effects

end Jobs

/-! ## 5. Steps of current writes -/

namespace Scheduler

section Steps

variable {zones : TimeZones} {s t : Scheduler}

/-- **What every step of a run keeps whose writes are current.** -/
structure Sound (s : Scheduler) : Prop where
  queued : s.tables.QueuedFresh
  submitted : ∀ p ∈ s.submitted, s.tables.HasTurn p.1
  once : ∀ jobRunId, (s.turnsOf jobRunId).length ≤ 1
  paused : ∀ jobId ∈ s.paused, ∀ row, s.tables.findJob? jobId = some row → row.enabled = false
  noStrays : s.strays = []

/-- A turn was submitted for a run that is starting, its first one, or none was submitted. -/
def Submits (s t : Scheduler) : Prop :=
  t.submitted = s.submitted ∨ ∃ jobRunId turnId run,
    t.submitted = s.submitted ++ [(jobRunId, turnId)] ∧
    s.tables.findRun? jobRunId = some run ∧ run.state = .starting ∧ s.turnsOf jobRunId = [] ∧
    t.tables.HasTurn jobRunId

/-- What a step of current writes does. -/
structure Proceeds (s t : Scheduler) : Prop where
  follows : Jobs.Follows s.tables t.tables
  turns : KeepsTurns s.tables.db t.tables.db
  submits : Submits s t
  paused : ∀ jobId ∈ t.paused, ∀ row, t.tables.findJob? jobId = some row → row.enabled = false
  strays : t.strays = s.strays

theorem turnsOf_push (jobRunId j : JobRunId) (turnId : TurnId)
    (h : t.submitted = s.submitted ++ [(jobRunId, turnId)]) :
    t.turnsOf j = s.turnsOf j ++ if jobRunId = j then [turnId] else [] := by
  rw [turnsOf, h, List.filter_append, List.map_append]
  congr 1
  by_cases hj : jobRunId = j
  · simp [hj]
  · simp [hj]

theorem Proceeds.sound (h : Proceeds s t) (hs : s.Sound) : t.Sound := by
  refine ⟨h.follows.queued hs.queued, ?_, ?_, h.paused, h.strays.trans hs.noStrays⟩
  · intro p hp
    rcases h.submits with heq | ⟨jobRunId, turnId, run, heq, _, _, _, hturn⟩
    · exact Jobs.hasTurn_of_follows h.follows h.turns (hs.submitted p (heq ▸ hp))
    · rw [heq] at hp
      rcases List.mem_append.mp hp with hp | hp
      · exact Jobs.hasTurn_of_follows h.follows h.turns (hs.submitted p hp)
      · obtain rfl : p = (jobRunId, turnId) := List.mem_singleton.mp hp
        exact hturn
  · intro j
    rcases h.submits with heq | ⟨jobRunId, turnId, run, heq, _, _, hnone, _⟩
    · rw [turnsOf, heq]
      exact hs.once j
    · rw [turnsOf_push jobRunId j turnId heq]
      split
      · rename_i hj
        rw [← hj, hnone]
        exact Nat.le_refl 1
      · rw [List.append_nil]
        exact hs.once j

theorem Proceeds.keepsRuns (h : Proceeds s t) : KeepsRuns s t := by
  constructor
  · intro jobRunId run hrun hended
    obtain ⟨run', hrun', heq, _⟩ := h.follows.kept jobRunId run hrun
    obtain rfl := heq hended
    exact hrun'
  · intro j run hrun hstate hnone
    rcases h.submits with heq | ⟨jobRunId, turnId, run', heq, hrun', hstate', _, _⟩
    · rw [turnsOf, heq]
      exact hnone
    · rw [turnsOf_push jobRunId j turnId heq, hnone]
      refine if_neg fun hj => ?_
      -- the run was starting, and this one is cancelled
      rw [hj, hrun] at hrun'
      obtain rfl := Option.some.inj hrun'
      rw [hstate] at hstate'
      cases hstate'

/-- A step that enables no job, submits no turn and pauses no job. -/
theorem proceeds_of_effect (hs : s.Sound) (h : Jobs.Effect s.tables t.tables)
    (hsubmitted : t.submitted = s.submitted) (hpaused : t.paused = s.paused)
    (hstrays : t.strays = s.strays) : Proceeds s t := by
  refine ⟨h.follows, h.turns, Or.inl hsubmitted, fun jobId hmem row hrow => ?_, hstrays⟩
  rw [hpaused] at hmem
  cases henabled : row.enabled with
  | false => rfl
  | true =>
    obtain ⟨old, hold, holdEnabled⟩ := h.quiet jobId row hrow henabled
    rw [hs.paused jobId hmem old hold] at holdEnabled
    cases holdEnabled

/-- A job is paused. -/
theorem proceeds_of_pause (hs : s.Sound) {jobId : JobId} {reason : String} {now : DateTime}
    (htables : t.tables = s.tables.pauseJob jobId reason now)
    (hsubmitted : t.submitted = s.submitted) (hpaused : t.paused = jobId :: s.paused)
    (hstrays : t.strays = s.strays) : Proceeds s t := by
  have heffect := Jobs.effect_pauseJob (s := s.tables) jobId reason now
  rw [← htables] at heffect
  have hproceeds : Proceeds s { t with paused := s.paused } :=
    proceeds_of_effect hs heffect hsubmitted rfl hstrays
  refine ⟨hproceeds.follows, hproceeds.turns, Or.inl hsubmitted, fun j hmem row hrow => ?_,
    hstrays⟩
  rw [hpaused] at hmem
  rcases List.mem_cons.mp hmem with rfl | hmem
  · rw [htables] at hrow
    exact Jobs.findJob?_pauseJob hrow
  · exact hproceeds.paused j hmem row hrow

/-- Only what is in hand changes. -/
theorem proceeds_of_tasks (hs : s.Sound) (htables : t.tables = s.tables)
    (hsubmitted : t.submitted = s.submitted) (hpaused : t.paused = s.paused)
    (hstrays : t.strays = s.strays) : Proceeds s t :=
  proceeds_of_effect hs (by rw [htables]; exact .refl _) hsubmitted hpaused hstrays

theorem proceeds_put (hs : s.Sound) (task : JobTask) : Proceeds s (s.put task) :=
  proceeds_of_tasks hs rfl rfl rfl rfl

/-- **A step with a run, when the turn it records may be recorded.** -/
theorem proceeds_driven (hs : s.Sound) (run : JobRunRow) (input : Jobs.JobInput)
    {step : Jobs.RunStep}
    (hcurrent : ∀ prompt session placement, step = .record prompt session placement →
      s.MayRecord run session) : Proceeds s (s.driven run input step) := by
  have heffect := Jobs.effect_runStep hs.queued run input step
  cases step with
  | pause code => exact proceeds_of_pause hs rfl rfl rfl rfl
  | record prompt session placement =>
    have hu : Proceeds s { s.driven run input (.record prompt session placement) with
        submitted := s.submitted } := proceeds_of_effect hs heffect rfl rfl rfl
    refine ⟨hu.follows, hu.turns, ?_, hu.paused, hu.strays⟩
    cases hnext : (s.tables.runStep run input (.record prompt session placement)).2 with
    | done => exact Or.inl (by simp [driven, hnext])
    | fails e => exact Or.inl (by simp [driven, hnext])
    | goesOn step' =>
      obtain ⟨⟨now, hnow, hstate, hsession⟩, hnone⟩ := hcurrent prompt session placement rfl
      refine Or.inr ⟨run.jobRunId, input.turnId, now, by simp [driven, hnext], hnow, hstate, ?_, ?_⟩
      · -- a turn that was submitted before would be one in the session
        refine List.eq_nil_iff_forall_not_mem.mpr fun turnId hmem => ?_
        obtain ⟨p, hp, _⟩ := List.mem_map.mp hmem
        obtain ⟨hp, hid⟩ := List.mem_filter.mp hp
        obtain ⟨old, sid, hold, hsid, r, hr, hrid⟩ := hs.submitted p hp
        rw [eq_of_beq hid, hnow] at hold
        obtain rfl := Option.some.inj hold
        rw [hsession] at hsid
        exact hnone r hr (hrid.trans (Option.some.inj hsid).symm)
      · obtain ⟨now', hnow', _, hkept⟩ := heffect.follows.kept _ now hnow
        exact ⟨now', session.sessionThreadId, hnow', hkept _ hsession, Jobs.turn_of_record hnext⟩
  | _ => exact proceeds_of_effect hs heffect rfl rfl rfl

theorem Proceeds.put (h : Proceeds s t) (task : JobTask) : Proceeds s (t.put task) :=
  ⟨h.follows, h.turns, h.submits, h.paused, h.strays⟩

theorem proceeds_drive (hs : s.Sound) (run : JobRunRow) (runs : List JobRunId)
    (input : Jobs.JobInput) {step : Jobs.RunStep}
    (hcurrent : ∀ prompt session placement, step = .record prompt session placement →
      s.MayRecord run session) : Proceeds s (s.drive run runs input step) := by
  have h := proceeds_driven hs run input hcurrent
  unfold drive
  split
  · exact h.put _
  · exact h.put _
  · exact h

/-- What a task writes rests on a read that still holds. -/
def TaskCurrent (s : Scheduler) : JobTask → Prop
  | .driving run (.record _ session _) _ => s.MayRecord run session
  | .updates write => s.MayEnable write
  | _ => True

/-- The occurrence of a job that is paused is not claimed. -/
theorem not_due_of_paused (hs : s.Sound) {jobId : JobId} {dueAt : DateTime}
    (hpaused : jobId ∈ s.paused) :
    (s.tables.findJob? jobId).any (Jobs.isDueAt dueAt) = false := by
  cases hrow : s.tables.findJob? jobId with
  | none => rfl
  | some row => simp [Jobs.isDueAt, hs.paused jobId hpaused row hrow]

/-- **A step of a task.** -/
theorem proceeds_advance (hs : s.Sound) (input : Jobs.JobInput) {task : JobTask}
    (hcurrent : s.TaskCurrent task) : Proceeds s (s.advance zones input task) := by
  cases task with
  | claims due =>
    cases due with
    | nil => exact proceeds_put hs _
    | cons jobId due =>
      unfold advance
      dsimp only
      split
      · exact proceeds_put hs _
      · split <;> exact proceeds_put hs _
  | claiming job occurrence due =>
    unfold advance
    dsimp only
    split
    · exact proceeds_put hs _
    · rename_i tables hclaim
      refine Proceeds.put ?_ _
      refine proceeds_of_effect hs (Jobs.effect_claimOccurrence hclaim) rfl rfl ?_
      refine if_neg fun hboth => ?_
      obtain ⟨hdue, hpaused⟩ := Bool.and_eq_true_iff.mp hboth
      rw [not_due_of_paused hs (List.contains_iff_mem.mp hpaused)] at hdue
      cases hdue
  | selects => exact proceeds_put hs _
  | drives runs =>
    cases runs with
    | nil => exact proceeds_of_tasks hs rfl rfl rfl rfl
    | cons jobRunId runs =>
      unfold advance
      dsimp only
      split
      · exact proceeds_of_tasks hs rfl rfl rfl rfl
      · split <;> exact proceeds_put hs _
  | driving run step runs =>
    refine proceeds_drive hs run runs input fun prompt session placement hstep => ?_
    subst hstep
    exact hcurrent
  | inserts job force =>
    unfold advance
    dsimp only
    split
    · exact proceeds_of_tasks hs rfl rfl rfl rfl
    · rename_i tables hinsert
      have hproceeds : Proceeds s { s with tables } :=
        proceeds_of_effect hs (Jobs.effect_insertJobRun hinsert) rfl rfl rfl
      exact hproceeds.put _
  | updates write =>
    exact proceeds_of_effect hs (Jobs.effect_updateJob hcurrent) rfl rfl rfl
  | enables jobId nextRunAt =>
    refine ⟨.of_eq rfl, fun r hr => ⟨r, hr, rfl⟩, Or.inl rfl, fun j hmem row hrow => ?_, rfl⟩
    obtain ⟨hmem, hne⟩ := List.mem_filter.mp hmem
    have hrow : (s.tables.enableJob jobId nextRunAt input.now).findJob? j = some row := hrow
    rw [Jobs.enableJob, Jobs.findJob?_writeJob] at hrow
    obtain ⟨r, hr, rfl⟩ := Option.map_eq_some_iff.mp hrow
    have hid : r.jobId = j := by simpa using find?_pos hr
    have hneq : j ≠ jobId := by simpa using hne
    rw [if_neg (by simp [hid, hneq])]
    exact hs.paused j hmem r hr

/-- **A step whose writes are current.** -/
theorem proceeds_step (hs : s.Sound) {action : JobAction} (hcurrent : s.Current action)
    (h : s.step zones action = some t) : Proceeds s t := by
  cases action with
  | create jobId projectPlacementId name prompt provider schedule timezone continueAfterError now =>
    obtain ⟨tables, htables, rfl⟩ := Option.map_eq_some_iff.mp h
    exact proceeds_of_effect hs (Jobs.effect_createJob (ok_of_toOption htables)) rfl rfl rfl
  | update jobId request now =>
    obtain ⟨write, _, rfl⟩ := Option.map_eq_some_iff.mp h
    exact proceeds_put hs _
  | enable jobId now =>
    obtain ⟨nextRunAt, _, rfl⟩ := Option.map_eq_some_iff.mp h
    exact proceeds_put hs _
  | disable jobId now =>
    obtain ⟨tables, htables, rfl⟩ := Option.map_eq_some_iff.mp h
    have hdisable := ok_of_toOption htables
    unfold Jobs.disableJob at hdisable
    split at hdisable
    · obtain rfl := Except.ok.inj hdisable
      exact proceeds_of_pause hs rfl rfl rfl rfl
    · cases hdisable
  | run jobId force =>
    obtain ⟨job, _, rfl⟩ := Option.map_eq_some_iff.mp h
    exact proceeds_put hs _
  | cancel jobRunId now =>
    obtain ⟨tables, htables, rfl⟩ := Option.map_eq_some_iff.mp h
    exact proceeds_of_effect hs (Jobs.effect_cancelJobRun (ok_of_toOption htables)) rfl rfl rfl
  | tick now =>
    obtain rfl := Option.some.inj h
    exact proceeds_put hs _
  | advance position input =>
    obtain ⟨task, htask, rfl⟩ := Option.map_eq_some_iff.mp h
    have hrest : (s.without position).Sound :=
      ⟨hs.queued, hs.submitted, hs.once, hs.paused, hs.noStrays⟩
    have hproceeds := @proceeds_advance zones _ hrest input task (by
      cases task with
      | driving run step runs =>
        cases step with
        | record prompt session placement =>
          exact hcurrent.1 run prompt session placement runs htask
        | _ => trivial
      | updates write => exact hcurrent.2 write htask
      | _ => trivial)
    exact ⟨hproceeds.follows, hproceeds.turns, hproceeds.submits, hproceeds.paused,
      hproceeds.strays⟩
  | drop position =>
    obtain ⟨task, _, rfl⟩ := Option.map_eq_some_iff.mp h
    exact proceeds_of_tasks hs rfl rfl rfl rfl
  | restart =>
    obtain rfl := Option.some.inj h
    exact proceeds_of_effect hs (.of_follows Jobs.follows_recover rfl rfl) rfl rfl rfl
  | elsewhere db =>
    unfold step at h
    dsimp only at h
    split at h
    · rename_i hkeeps
      obtain rfl := Option.some.inj h
      exact proceeds_of_effect hs ⟨.of_eq rfl, .of_eq rfl, hkeeps⟩ rfl rfl rfl
    · cases h

end Steps

/-! ## 6. Runs -/

theorem sound_start (db : Database) : Sound { tables := { db } } := by
  refine ⟨?_, ?_, fun _ => Nat.zero_le 1, ?_, rfl⟩
  · intro jobRunId run hrun
    cases hrun
  · intro p hp
    cases hp
  · intro jobId hmem
    cases hmem

theorem keepsRuns_refl (s : Scheduler) : KeepsRuns s s :=
  ⟨fun _ _ hrun _ => hrun, fun _ _ _ _ hnone => hnone⟩

theorem keepsRuns_trans {s t u : Scheduler} (hst : KeepsRuns s t) (htu : KeepsRuns t u) :
    KeepsRuns s u := by
  refine ⟨fun jobRunId run hrun hended => ?_, fun jobRunId run hrun hstate hnone => ?_⟩
  · exact htu.ended jobRunId run (hst.ended jobRunId run hrun hended) hended
  · have hended : run.state.isActive = false := by rw [hstate]; rfl
    exact htu.cancelled jobRunId run (hst.ended jobRunId run hrun hended) hstate
      (hst.cancelled jobRunId run hrun hstate hnone)

/-- The two laws of the indexes are those of the table. -/
theorem Sound.lawful {s : Scheduler} (hs : s.Sound) : s.Lawful where
  oneActive _ ha _ hb hjob hactive hactive' :=
    eq_of_clash ha hb (Or.inr (Or.inr ⟨hjob, hactive, hactive'⟩))
  oneRun _ ha _ hb hjob htrigger htrigger' hfor hsome :=
    eq_of_clash ha hb (Or.inr (Or.inl ⟨hjob, hfor, htrigger, htrigger', hsome⟩))
  once := hs.once
  noStrays := hs.noStrays

/-- **The laws of job runs**: in every run whose writes are current, a job has one active run and a
    scheduled occurrence one run; a run submits its prompt once, and not at all when it is cancelled
    before; a run that has ended stays as it is; and no scheduled run is created of a job that was
    disabled or paused by a failure, until it is enabled. -/
theorem job_runs_lawful (zones : TimeZones) {db : Database} {actions : List JobAction}
    (hcurrent : Meets (Scheduler.step zones) Current { tables := { db } } actions) :
    Always (Scheduler.step zones) KeepsRuns { tables := { db } } actions ∧
      Throughout (Scheduler.step zones) Lawful { tables := { db } } actions := by
  have hkeeps : ∀ s a t, Sound s → Current s a → step zones s a = some t → Sound t :=
    fun s a t hs hc h => (proceeds_step hs hc h).sound hs
  refine ⟨(Lib.always_iff_eachStep keepsRuns_refl fun _ _ _ => keepsRuns_trans).mpr ?_, ?_⟩
  · refine Meets.of_inv Sound hkeeps (fun s a hs hc t h => ?_) (sound_start db) hcurrent
    exact (proceeds_step hs hc h).keepsRuns
  · intro bs cs t heq ht
    subst heq
    exact (Lib.run_inv_of_meets Sound hkeeps (sound_start db) hcurrent.append_left ht).lawful

/-! ## 7. A nightly job -/

section Nightly

/-- Is what a step writes current? -/
def current (s : Scheduler) : JobAction → Bool
  | .advance position _ =>
    match s.tasks[position]? with
    | some (.driving run (.record _ session _) _) =>
      ((s.tables.findRun? run.jobRunId).any fun now => now.state == .starting &&
        now.sessionThreadId == some session.sessionThreadId) &&
      s.tables.db.turns.rows.all (·.sessionThreadId != session.sessionThreadId)
    | some (.updates write) => !write.enabled || (s.tables.findJob? write.jobId).all (·.enabled)
    | _ => true
  | _ => true

theorem current_of_check {s : Scheduler} {action : JobAction} (h : s.current action = true) :
    s.Current action := by
  cases action with
  | advance position input =>
    unfold current at h
    dsimp only at h
    refine ⟨fun run prompt session placement runs htask => ?_, fun write htask henabled row hrow => ?_⟩
    · rw [htask] at h
      obtain ⟨hrun, hturns⟩ := Bool.and_eq_true_iff.mp h
      obtain ⟨now, hnow, hboth⟩ := (Option.any_eq_true _ _).mp hrun
      refine ⟨⟨now, hnow, by simpa using hboth⟩, fun r hr => ?_⟩
      simpa using List.all_eq_true.mp hturns r hr
    · rw [htask] at h
      rcases Bool.or_eq_true_iff.mp h with hoff | hall
      · simp [henabled] at hoff
      · exact (Option.all_eq_true _ _).mp hall row hrow
  | _ => trivial

/-- A time zone database that knows one zone. -/
def utc : TimeZones where
  known name := name == "UTC"
  dayOf _ time := some (time / 86400)
  timeAt _ day hour minute := some (86400 * day + 3600 * hour + 60 * minute)

def nightlyInput (jobRunId id : String) (now : DateTime) : Jobs.JobInput :=
  ⟨now, jobRunId, "session-" ++ id, "runtime-" ++ id, "command-" ++ id, "turn-" ++ id,
    "message-" ++ id, "r1", none⟩

/-- A job is created and run, and a first driver starts its session. -/
def nightlyStarts : List JobAction :=
  [.create "j1" "p1" "Nightly" "Check the build" "codex" (some (.interval 60)) "UTC" false 0,
    .run "j1" false] ++ List.replicate 7 (.advance 0 (nightlyInput "run1" "a" 0))

/-- The runtime of the session is ready. -/
def nightlyReady (s : Scheduler) : Database :=
  { s.tables.db with
    runtimeSessions := s.tables.db.runtimeSessions.update (·.sessionThreadId == "session-a")
      (fun r => { r with state := .ready }) ⟨fun _ _ => Iff.rfl⟩ }

/-- The session is ready, and the driver of a tick has checked it for a turn. -/
def nightlyChecked : List JobAction :=
  nightlyStarts ++
    .elsewhere (((Lib.run (step utc) { tables := { db := twoNodes } } nightlyStarts).map
      nightlyReady).getD {}) :: .tick 0 :: List.replicate 6 (.advance 0 (nightlyInput "run1" "b" 0))

/-- The driver records the turn, and says that the run is running. -/
def nightlyRuns : List JobAction :=
  nightlyChecked ++ List.replicate 6 (.advance 0 (nightlyInput "run1" "b" 0))

/-- A request drives the same run as far as the tick has, and then both record a turn. -/
def nightlyTwice : List JobAction :=
  nightlyChecked ++ .run "j1" false :: List.replicate 7 (.advance 0 (nightlyInput "run2" "c" 0)) ++
    [.advance 1 (nightlyInput "run1" "b" 0)]

/-- The run is cancelled after its driver has checked it, and the driver records the turn. -/
def nightlyCancelled : List JobAction :=
  nightlyChecked ++ [.cancel "run1" 1, .advance 0 (nightlyInput "run1" "b" 1)]

/-- An update reads the job, the job is disabled, and the update writes back that it is enabled. -/
def nightlyDisabled : List JobAction :=
  [.create "j1" "p1" "Nightly" "Check the build" "codex" (some (.interval 60)) "UTC" false 0,
    .enable "j1" 0, .advance 0 (nightlyInput "run1" "a" 0),
    .update "j1" ⟨some "Nightly build", none, none, none, false, none, none⟩ 1, .disable "j1" 2,
    .advance 0 (nightlyInput "run1" "a" 3), .tick 4000, .advance 0 (nightlyInput "run1" "a" 4000),
    .advance 0 (nightlyInput "run1" "a" 4000)]

/-- One driver submits the prompt of the run once. -/
theorem job_runs_lawful_nightly :
    ((Lib.run (step utc) { tables := { db := twoNodes } } nightlyRuns).map fun t =>
      ((t.tables.findRun? "run1").map (·.state), t.turnsOf "run1")) =
        some (some .running, ["turn-b"]) ∧
    Always (step utc) KeepsRuns { tables := { db := twoNodes } } nightlyRuns ∧
      Throughout (step utc) Lawful { tables := { db := twoNodes } } nightlyRuns := by
  refine ⟨by decide +kernel, job_runs_lawful utc ?_⟩
  exact Lib.meets_of_check (c := current) (fun _ => True) (fun _ _ _ _ _ => trivial)
    (fun _ _ _ => current_of_check) trivial (by decide +kernel)

/-- Two drivers submit the prompt of one run twice; a run that was cancelled before its turn was
    submitted submits it; and a scheduled run is created of a job that was disabled. -/
theorem job_runs_unlawful :
    ¬ Throughout (step utc) Lawful { tables := { db := twoNodes } } nightlyTwice ∧
    ¬ Always (step utc) KeepsRuns { tables := { db := twoNodes } } nightlyCancelled ∧
    ¬ Throughout (step utc) Lawful { tables := { db := twoNodes } } nightlyDisabled := by
  refine ⟨fun hall => ?_, fun hall => ?_, fun hall => ?_⟩
  · have hturns : ((Lib.run (step utc) { tables := { db := twoNodes } } nightlyTwice).map fun t =>
        t.turnsOf "run1") = some ["turn-c", "turn-b"] := by decide +kernel
    obtain ⟨t, hrun, ht⟩ := Option.map_eq_some_iff.mp hturns
    have honce := (hall nightlyTwice [] t (List.append_nil _).symm hrun).once "run1"
    rw [ht] at honce
    exact absurd honce (by decide)
  · have hbefore : ((Lib.run (step utc) { tables := { db := twoNodes } }
        (nightlyCancelled.take 18)).map fun s =>
          ((s.tables.findRun? "run1").map (·.state), s.turnsOf "run1")) =
        some (some .cancelled, []) := by decide +kernel
    have hafter : ((Lib.run (step utc) { tables := { db := twoNodes } } nightlyCancelled).map
        fun t => t.turnsOf "run1") = some ["turn-b"] := by decide +kernel
    obtain ⟨s, hs, hstate⟩ := Option.map_eq_some_iff.mp hbefore
    obtain ⟨t, ht, hturns⟩ := Option.map_eq_some_iff.mp hafter
    obtain ⟨hstate, hnone⟩ := Prod.mk.inj hstate
    obtain ⟨run, hrun, hcancelled⟩ := Option.map_eq_some_iff.mp hstate
    rw [← List.take_append_drop 18 nightlyCancelled] at ht
    obtain ⟨s', hs', hst⟩ := Lib.run_append_eq_some.mp ht
    obtain rfl : s = s' := Option.some.inj (hs.symm.trans hs')
    have hkeeps := hall _ _ [] s t (by rw [List.append_nil, List.take_append_drop]) hs hst
    have hempty := hkeeps.cancelled "run1" run hrun hcancelled hnone
    rw [hturns] at hempty
    cases hempty
  · have hstrays : ((Lib.run (step utc) { tables := { db := twoNodes } } nightlyDisabled).map
        fun t => t.strays) = some ["run1"] := by decide +kernel
    obtain ⟨t, hrun, ht⟩ := Option.map_eq_some_iff.mp hstrays
    have hnone := (hall nightlyDisabled [] t (List.append_nil _).symm hrun).noStrays
    rw [ht] at hnone
    cases hnone

end Nightly

end Scheduler

end Uprava.Core
