/-
  File:      Uprava/Core/Jobs.lean
  Subject:   Jobs and their runs: when a job is due, the requests that change one, the transactions
             that create a run, and the steps a driver takes with a run.

  The time zone database is a parameter. A step of a driver is one statement or one transaction, so
  that other drivers and requests can stand between any two of them.
-/
import Uprava.Core.Turns

namespace Uprava.Core

open Uprava.Protocol
open Uprava.Lib (Schema Table)
open Uprava.Lib.Table

/-! ## 1. Schedules -/

abbrev JobId := String
abbrev JobRunId := String

inductive JobSchedule where
  | interval (minutes : Nat)
  | daily (hour minute : Nat)
  | weekly (weekday hour minute : Nat)
  deriving DecidableEq

/-- What the time zone database answers. A day is counted from a Monday. -/
structure TimeZones where
  known : String → Bool
  dayOf : String → DateTime → Option Int
  timeAt : String → Int → Nat → Nat → Option DateTime

def scheduleTimeInvalid : AppError :=
  .badRequest "job.schedule_time" "Job schedule time is invalid"

/-- The days `next_job_run_at` looks at, one after the other. -/
def nextOnDays (zones : TimeZones) (timezone : String) (wanted : Option Nat) (hour minute : Nat)
    (after : DateTime) : Nat → Int → Except AppError DateTime
  | 0, _ => .error (.badRequest "job.schedule_unresolvable" "Job schedule has no next occurrence")
  | days + 1, day =>
    if wanted.all fun weekday => day % 7 + 1 = weekday then
      match zones.timeAt timezone day hour minute with
      | none => .error scheduleTimeInvalid
      | some candidate =>
        if after < candidate then .ok candidate
        else nextOnDays zones timezone wanted hour minute after days (day + 1)
    else nextOnDays zones timezone wanted hour minute after days (day + 1)

/-- `next_job_run_at` -/
def nextJobRunAt (zones : TimeZones) (schedule : JobSchedule) (timezone : String)
    (after : DateTime) : Except AppError DateTime :=
  let onDays (wanted : Option Nat) (hour minute : Nat) : Except AppError DateTime :=
    match zones.dayOf timezone after with
    | none => .error (.badRequest "job.schedule_timezone" "Job timezone is unavailable")
    | some today =>
      if wanted.all fun weekday => decide (1 ≤ weekday ∧ weekday ≤ 7) then
        nextOnDays zones timezone wanted hour minute after 8 today
      else .error (.badRequest "job.schedule_weekday" "Job weekday is invalid")
  match schedule with
  | .interval minutes => .ok (after + 60 * minutes)
  | .daily hour minute => onDays none hour minute
  | .weekly weekday hour minute => onDays (some weekday) hour minute

/-! ## 2. Jobs and runs -/

/-- A text, as what it parses to. -/
inductive Parsed (α : Type) where
  | unreadable
  | value (a : α)
  deriving DecidableEq

structure JobRow where
  jobId : JobId
  projectPlacementId : ProjectPlacementId
  name : String
  prompt : String
  provider : String
  schedule : Option (Parsed JobSchedule)
  timezone : String
  enabled : Bool
  continueAfterError : Bool
  nextRunAt : Option DateTime
  pausedReason : Option String
  createdAt : DateTime
  updatedAt : DateTime
  deriving DecidableEq

instance : Schema JobRow where
  clash a b := a.jobId = b.jobId
  dec _ _ := inferInstanceAs (Decidable (_ = _))
  symm := Eq.symm

inductive JobRunTrigger where
  | manual | scheduled
  deriving DecidableEq

inductive JobRunState where
  | queued | starting | running | succeeded | failed | cancelled | timedOut | skipped
  deriving DecidableEq

def JobRunState.isActive : JobRunState → Bool
  | queued | starting | running => true
  | _ => false

structure JobRunConfigSnapshot where
  name : String
  projectPlacementId : ProjectPlacementId
  prompt : String
  provider : String
  schedule : Option JobSchedule
  timezone : String
  continueAfterError : Bool
  deriving DecidableEq

/-- A run. Its snapshot is a text, a value, or a snapshot. -/
structure JobRunRow where
  jobRunId : JobRunId
  jobId : JobId
  trigger : JobRunTrigger
  state : JobRunState
  scheduledFor : Option DateTime
  queuedAt : DateTime
  startedAt : Option DateTime
  finishedAt : Option DateTime
  sessionThreadId : Option SessionThreadId
  runtimeSessionId : Option RuntimeSessionId
  commandId : Option CommandId
  turnId : Option TurnId
  summary : Option String
  terminalCode : Option String
  terminalMessage : Option String
  configSnapshot : Parsed (Parsed JobRunConfigSnapshot)
  force : Bool
  deriving DecidableEq

/-- `job_runs_scheduled_occurrence_idx`. -/
def JobRunRow.sameOccurrence (a b : JobRunRow) : Prop :=
  a.jobId = b.jobId ∧ a.scheduledFor = b.scheduledFor ∧ a.trigger = .scheduled ∧
    b.trigger = .scheduled ∧ a.scheduledFor ≠ none

/-- `job_runs_one_active_idx`. -/
def JobRunRow.bothActive (a b : JobRunRow) : Prop :=
  a.jobId = b.jobId ∧ a.state.isActive = true ∧ b.state.isActive = true

instance : Schema JobRunRow where
  clash a b := a.jobRunId = b.jobRunId ∨ a.sameOccurrence b ∨ a.bothActive b
  dec _ _ := inferInstanceAs (Decidable (_ ∨ _ ∧ _ ∧ _ ∧ _ ∧ _ ∨ _ ∧ _ ∧ _))
  symm := by
    rintro a b (h | ⟨hjob, hfor, ha, hb, hsome⟩ | ⟨hjob, ha, hb⟩)
    · exact Or.inl h.symm
    · exact Or.inr (Or.inl ⟨hjob.symm, hfor.symm, hb, ha, hfor ▸ hsome⟩)
    · exact Or.inr (Or.inr ⟨hjob.symm, hb, ha⟩)

/-- Core's tables with those of the scheduler. -/
structure Jobs where
  db : Database := {}
  jobs : Table JobRow := .empty
  jobRuns : Table JobRunRow := .empty
  deriving DecidableEq

def maxJobNameChars : Nat := 200
def maxJobPromptChars : Nat := 65536
def maxJobTimezoneChars : Nat := 100

def jobTimezoneInvalid : AppError :=
  .badRequest "validation.job_timezone" "Job timezone must be an explicit IANA timezone"

def validateJobTimezone (zones : TimeZones) (timezone : String) : Except AppError Unit :=
  if isBlank timezone || maxJobTimezoneChars < (trim timezone).length ||
      !zones.known (trim timezone) then
    .error jobTimezoneInvalid
  else .ok ()

/-- `validate_job_input` -/
def validateJobInput (zones : TimeZones) (name prompt provider : String)
    (schedule : Option JobSchedule) (timezone : String) : Except AppError Unit := do
  if isBlank name || maxJobNameChars < name.length then
    throw (.badRequest "validation.job_name" "Job name is required and must fit the allowed size")
  if isBlank prompt || maxJobPromptChars < prompt.length then
    throw (.badRequest "validation.job_prompt"
      "Job prompt is required and must fit the allowed size")
  if isBlank provider then
    throw (.badRequest "validation.provider_required" "Provider is required")
  validateJobTimezone zones timezone
  match schedule with
  | some (.interval minutes) =>
    if minutes = 0 then
      throw (.badRequest "validation.job_interval" "Job interval must be at least one minute")
  | some (.daily hour minute) =>
    if 23 < hour ∨ 59 < minute then
      throw (.badRequest "validation.job_schedule_time"
        "Daily Job time is outside the valid clock range")
  | some (.weekly weekday hour minute) =>
    if ¬ (1 ≤ weekday ∧ weekday ≤ 7) ∨ 23 < hour ∨ 59 < minute then
      throw (.badRequest "validation.job_schedule_time" "Weekly Job weekday or time is invalid")
  | none => return ()

namespace Jobs

/-! ## 3. Reading -/

def findJob? (s : Jobs) (jobId : JobId) : Option JobRow := s.jobs.find? (·.jobId == jobId)

def findRun? (s : Jobs) (jobRunId : JobRunId) : Option JobRunRow :=
  s.jobRuns.find? (·.jobRunId == jobRunId)

/-- `load_job_run` -/
def loadJobRun (s : Jobs) (jobRunId : JobRunId) : Except AppError JobRunRow :=
  match s.findRun? jobRunId with
  | none => .error (.notFound "job_run.not_found" "Job Run not found")
  | some run => if run.configSnapshot = .unreadable then .error .serialization else .ok run

/-- The text of a snapshot, parsed. -/
def parseSnapshot : Parsed (Parsed JobRunConfigSnapshot) → Except AppError JobRunConfigSnapshot
  | .value (.value snapshot) => .ok snapshot
  | _ => .error .serialization

/-- A job with its schedule. -/
structure JobDetail where
  row : JobRow
  schedule : Option JobSchedule
  deriving DecidableEq

def jobNotFound : AppError := .notFound "job.not_found" "Job not found"

def parseSchedule : Option (Parsed JobSchedule) → Except AppError (Option JobSchedule)
  | none => .ok none
  | some .unreadable => .error .serialization
  | some (.value schedule) => .ok (some schedule)

/-- `load_job_detail`, which loads the runs of the job as well. -/
def loadJobDetail (s : Jobs) (jobId : JobId) : Except AppError JobDetail :=
  match s.findJob? jobId with
  | none => .error jobNotFound
  | some row =>
    match s.db.projectPlacements.find? (·.projectPlacementId == row.projectPlacementId) with
    | none => .error jobNotFound
    | some _ =>
      match parseSchedule row.schedule with
      | .error e => .error e
      | .ok schedule =>
        if (s.jobRuns.select (·.jobId == jobId)).any (·.configSnapshot = .unreadable) then
          .error .serialization
        else .ok ⟨row, schedule⟩

def snapshotForJob (job : JobDetail) : JobRunConfigSnapshot where
  name := job.row.name
  projectPlacementId := job.row.projectPlacementId
  prompt := job.row.prompt
  provider := job.row.provider
  schedule := job.schedule
  timezone := job.row.timezone
  continueAfterError := job.row.continueAfterError

/-- Has the job a run that is queued, starting or running? -/
def hasActiveRun (s : Jobs) (jobId : JobId) : Bool :=
  (s.jobRuns.find? fun r => r.jobId == jobId && r.state.isActive).isSome

/-! ## 4. Writing runs -/

/-- The columns of an update leave the indexed ones alone, but for the state. -/
structure KeepsRun (f : JobRunRow → JobRunRow) : Prop where
  jobRunId : ∀ r, (f r).jobRunId = r.jobRunId
  jobId : ∀ r, (f r).jobId = r.jobId
  trigger : ∀ r, (f r).trigger = r.trigger
  scheduledFor : ∀ r, (f r).scheduledFor = r.scheduledFor

/-- An update of an active run brings it beside no other run. -/
theorem KeepsRun.clash_of {f : JobRunRow → JobRunRow} (hf : KeepsRun f) (a b : JobRunRow)
    (ha : a.state.isActive = true) (h : Schema.clash (f a) b) : Schema.clash a b := by
  rcases h with hid | ⟨hjob, hfor, htrigger, hb, hsome⟩ | ⟨hjob, _, hb⟩
  · exact Or.inl (hf.jobRunId a ▸ hid)
  · rw [hf.scheduledFor] at hfor hsome
    exact Or.inr (Or.inl ⟨hf.jobId a ▸ hjob, hfor, hf.trigger a ▸ htrigger, hb, hsome⟩)
  · exact Or.inr (Or.inr ⟨hf.jobId a ▸ hjob, ha, hb⟩)

/-- `update job_runs set … where …`, of active runs. -/
def updateRuns (s : Jobs) (p : JobRunRow → Bool) (hp : ∀ r, p r = true → r.state.isActive = true)
    (f : JobRunRow → JobRunRow) (hf : KeepsRun f) : Jobs :=
  { s with
    jobRuns := s.jobRuns.updateFreeing p f fun a b ha => hf.clash_of a b (hp a ha) }

/-- The `where` of an update of one run. -/
def isRunIn (jobRunId : JobRunId) (states : List JobRunState) (r : JobRunRow) : Bool :=
  r.jobRunId == jobRunId && states.contains r.state

theorem isActive_of_isRunIn {jobRunId : JobRunId} {states : List JobRunState}
    (hstates : ∀ state ∈ states, state.isActive = true) (r : JobRunRow)
    (h : isRunIn jobRunId states r = true) : r.state.isActive = true :=
  hstates r.state (List.contains_iff_mem.mp (Bool.and_eq_true_iff.mp h).2)

/-- `update job_runs set … where job_run_id = … and state in (…)`. -/
def writeRun (s : Jobs) (jobRunId : JobRunId) (states : List JobRunState)
    (hstates : ∀ state ∈ states, state.isActive = true) (f : JobRunRow → JobRunRow)
    (hf : KeepsRun f) : Jobs :=
  s.updateRuns (isRunIn jobRunId states) (isActive_of_isRunIn hstates) f hf

/-- `rows_affected` of such an update. -/
def runIsIn (s : Jobs) (jobRunId : JobRunId) (states : List JobRunState) : Bool :=
  (s.jobRuns.find? (isRunIn jobRunId states)).isSome

def activeStates : List JobRunState := [.queued, .starting, .running]

/-- `recover_job_runs` -/
def recoverJobRuns (s : Jobs) : Jobs :=
  s.updateRuns (fun r => r.state == .starting && r.sessionThreadId.isNone)
    (fun r h => by rw [eq_of_beq (Bool.and_eq_true_iff.mp h).1]; rfl)
    (fun r => { r with state := .queued, startedAt := none })
    ⟨fun _ => rfl, fun _ => rfl, fun _ => rfl, fun _ => rfl⟩

/-- The row of a new run: it waits, or it is skipped when another one is active. -/
def newRun (jobRunId : JobRunId) (job : JobDetail) (trigger : JobRunTrigger)
    (scheduledFor : Option DateTime) (force active : Bool) (now : DateTime) : JobRunRow where
  jobRunId := jobRunId
  jobId := job.row.jobId
  trigger := trigger
  state := if active then .skipped else .queued
  scheduledFor := scheduledFor
  queuedAt := now
  startedAt := none
  finishedAt := if active then some now else none
  sessionThreadId := none
  runtimeSessionId := none
  commandId := none
  turnId := none
  summary := none
  terminalCode := if active then some "job.overlap_skipped" else none
  terminalMessage := if active then some "Another run of this Job is already active" else none
  configSnapshot := .value (.value (snapshotForJob job))
  force := force

/-- The transaction of `insert_job_run`. -/
def insertJobRun (s : Jobs) (jobRunId : JobRunId) (job : JobDetail) (trigger : JobRunTrigger)
    (scheduledFor : Option DateTime) (force : Bool) (now : DateTime) : Except AppError Jobs := do
  let jobRuns ← dbResult "job_runs" (s.jobRuns.insert?
    (newRun jobRunId job trigger scheduledFor force (s.hasActiveRun job.row.jobId) now))
  return { s with jobRuns }

/-- `update jobs set … where job_id = …`, and what else the row has to be. -/
def writeJob (s : Jobs) (jobId : JobId) (p : JobRow → Bool) (f : JobRow → JobRow)
    (hf : ∀ r, (f r).jobId = r.jobId) : Jobs :=
  { s with
    jobs := s.jobs.update (fun r => r.jobId == jobId && p r) f ⟨fun a b => by
      show (f a).jobId = b.jobId ↔ _
      rw [hf a]
      exact Iff.rfl⟩ }

/-- A scheduled occurrence that is due: the moment it is due, and the next one. -/
structure Occurrence where
  dueAt : DateTime
  nextRunAt : DateTime
  deriving DecidableEq

/-- What `claim_due_job` finds before its transaction, if the job is due. -/
def dueOccurrence (zones : TimeZones) (job : JobDetail) (now : DateTime) :
    Except AppError (Option Occurrence) :=
  if !job.row.enabled then .ok none
  else
    match job.row.nextRunAt, job.schedule with
    | some dueAt, some schedule =>
      if now < dueAt then .ok none
      else (nextJobRunAt zones schedule job.row.timezone now).map fun next => some ⟨dueAt, next⟩
    | _, _ => .ok none

/-- Is the job enabled, and is this occurrence its next one? -/
def isDueAt (dueAt : DateTime) (r : JobRow) : Bool := r.enabled && r.nextRunAt == some dueAt

/-- The transaction of `claim_due_job`. -/
def claimOccurrence (s : Jobs) (jobRunId : JobRunId) (job : JobDetail) (occurrence : Occurrence)
    (now : DateTime) : Except AppError Jobs :=
  if (s.findJob? job.row.jobId).any (isDueAt occurrence.dueAt) then do
    let active := s.hasActiveRun job.row.jobId
    let s := s.writeJob job.row.jobId (isDueAt occurrence.dueAt)
      (fun r => { r with nextRunAt := some occurrence.nextRunAt, updatedAt := now }) fun _ => rfl
    let jobRuns ← dbResult "job_runs" (s.jobRuns.insert?
      (newRun jobRunId job .scheduled (some occurrence.dueAt) false active now))
    return { s with jobRuns }
  else .ok s

/-! ## 5. Requests -/

/-- The request of `update_job_route`. -/
structure JobUpdate where
  name : Option String
  prompt : Option String
  provider : Option String
  schedule : Option JobSchedule
  clearSchedule : Bool
  timezone : Option String
  continueAfterError : Option Bool
  deriving DecidableEq

/-- What `update_job_route` writes. -/
structure JobWrite where
  jobId : JobId
  name : String
  prompt : String
  provider : String
  schedule : Option JobSchedule
  timezone : String
  continueAfterError : Bool
  enabled : Bool
  nextRunAt : Option DateTime
  pausedReason : Option String
  deriving DecidableEq

/-- What `update_job_route` finds out before its update. -/
def prepareUpdate (zones : TimeZones) (s : Jobs) (jobId : JobId) (request : JobUpdate)
    (now : DateTime) : Except AppError JobWrite := do
  let existing ← s.loadJobDetail jobId
  let name := request.name.getD existing.row.name
  let prompt := request.prompt.getD existing.row.prompt
  let provider := request.provider.getD existing.row.provider
  let schedule := if request.clearSchedule then none else request.schedule.or existing.schedule
  let timezone := request.timezone.getD existing.row.timezone
  validateJobInput zones name prompt provider schedule timezone
  let enabled := existing.row.enabled && schedule.isSome
  let nextRunAt ←
    match enabled, schedule with
    | true, some schedule => (nextJobRunAt zones schedule timezone now).map some
    | _, _ => .ok none
  return {
    jobId, name := trim name, prompt := trim prompt, provider := trim provider, schedule
    timezone := trim timezone, enabled, nextRunAt
    continueAfterError := request.continueAfterError.getD existing.row.continueAfterError
    pausedReason := if !enabled && existing.row.enabled then some "schedule_removed" else none }

/-- The update of `update_job_route`. -/
def updateJob (s : Jobs) (write : JobWrite) (now : DateTime) : Jobs :=
  s.writeJob write.jobId (fun _ => true)
    (fun r => { r with
      name := write.name, prompt := write.prompt, provider := write.provider,
      schedule := write.schedule.map .value, timezone := write.timezone,
      continueAfterError := write.continueAfterError, enabled := write.enabled,
      nextRunAt := write.nextRunAt, pausedReason := write.pausedReason.or r.pausedReason,
      updatedAt := now }) fun _ => rfl

/-- What `enable_job_route` finds out before its update: the next run. -/
def prepareEnable (zones : TimeZones) (s : Jobs) (jobId : JobId) (now : DateTime) :
    Except AppError DateTime := do
  let job ← s.loadJobDetail jobId
  match job.schedule with
  | none => throw (.badRequest "job.schedule_required"
      "A schedule is required before enabling a Job")
  | some schedule => nextJobRunAt zones schedule job.row.timezone now

def enableJob (s : Jobs) (jobId : JobId) (nextRunAt now : DateTime) : Jobs :=
  s.writeJob jobId (fun _ => true)
    (fun r => { r with
      enabled := true, nextRunAt := some nextRunAt, pausedReason := none, updatedAt := now })
    fun _ => rfl

/-- A job is paused: the update of `disable_job_route` and the one of `fail_job_run`. -/
def pauseJob (s : Jobs) (jobId : JobId) (reason : String) (now : DateTime) : Jobs :=
  s.writeJob jobId (fun _ => true)
    (fun r => { r with
      enabled := false, nextRunAt := none, pausedReason := some reason, updatedAt := now })
    fun _ => rfl

/-- `disable_job_route` -/
def disableJob (s : Jobs) (jobId : JobId) (now : DateTime) : Except AppError Jobs :=
  if (s.findJob? jobId).isSome then .ok (s.pauseJob jobId "paused_by_user" now)
  else .error jobNotFound

/-- `create_job_route` -/
def createJob (zones : TimeZones) (s : Jobs) (jobId : JobId)
    (projectPlacementId : ProjectPlacementId) (name prompt provider : String)
    (schedule : Option JobSchedule) (timezone : String) (continueAfterError : Bool)
    (now : DateTime) : Except AppError Jobs := do
  if (s.db.projectPlacements.find? (·.projectPlacementId == projectPlacementId)).isNone then
    throw (.notFound "placement.not_found" "Placement not found")
  validateJobInput zones name prompt provider schedule timezone
  let jobs ← dbResult "jobs.job_id" (s.jobs.insert?
    ⟨jobId, projectPlacementId, trim name, trim prompt, trim provider, schedule.map .value,
      trim timezone, false, continueAfterError, none, some "created_paused", now, now⟩)
  return { s with jobs }

/-- The update of `cancel_job_run_route`. -/
def cancelJobRun (s : Jobs) (jobRunId : JobRunId) (now : DateTime) : Except AppError Jobs := do
  let _ ← s.loadJobRun jobRunId
  if s.runIsIn jobRunId activeStates then
    return s.writeRun jobRunId activeStates (by decide)
      (fun r => { r with
        state := .cancelled, finishedAt := some now, terminalCode := some "job.cancelled_by_user",
        terminalMessage := some "Job Run was cancelled by the user" })
      ⟨fun _ => rfl, fun _ => rfl, fun _ => rfl, fun _ => rfl⟩
  else
    throw (.badRequest "job_run.not_cancellable" "Only an active Job Run can be cancelled")

/-! ## 6. Driving a run -/

/-- What a step of a driver takes from outside of the tables. -/
structure JobInput where
  now : DateTime
  jobRunId : JobRunId
  sessionThreadId : SessionThreadId
  runtimeSessionId : RuntimeSessionId
  commandId : CommandId
  turnId : TurnId
  userMessageId : MessageId
  correlationId : CorrelationId
  /-- What the Node, the provider or its quota refuses a run with, or a statement or a dispatch
      fails with. -/
  error : Option AppError
  deriving DecidableEq

/-- Where `start_job_run`, `drive_starting_job_run`, `drive_running_job_run` or `fail_job_run`
    stands. -/
inductive RunStep where
  | start
  /-- The transaction of a start. -/
  | claim (snapshot : JobRunConfigSnapshot) (placement : PlacementRow)
  | dispatchStart
  /-- The session of a run that is starting. -/
  | detail
  | existingTurn (ready : Bool) (prompt : String)
  /-- The checks of `submit_turn_for_actor`, and its transaction. -/
  | check (prompt : String)
  | record (prompt : String) (session : SessionRow) (placement : PlacementRow)
  | dispatchTurn (commandId : CommandId)
  | reload (commandId : CommandId)
  | link (commandId : CommandId)
  | markRunning (turnId : TurnId) (commandId : CommandId)
  /-- The turn of a run that is running. -/
  | turn
  | summary
  | succeed (summary : Option String)
  | runtime
  | fail (code message : String) (timedOut : Bool)
  | pause (code : String)
  deriving DecidableEq

/-- How a driver goes on after a step. An error ends `drive_job_runs`. -/
inductive NextStep where
  | goesOn (step : RunStep)
  | done
  | fails (e : AppError)
  deriving DecidableEq

/-- The error of a start becomes the end of its run. -/
def failStart (e : AppError) : NextStep :=
  .goesOn (.fail (scheduledMessageFailure e).1 (scheduledMessageFailure e).2 false)

/-- The command of a start. -/
def startCommand (snapshot : JobRunConfigSnapshot) (placement : PlacementRow) (input : JobInput) :
    CommandEnvelope where
  commandId := input.commandId
  kind := .startRuntime
  target := .sessionRuntime placement.nodeId snapshot.projectPlacementId input.sessionThreadId
    input.runtimeSessionId
  actorRef := .system
  issuedAt := input.now
  correlationId := input.correlationId
  payload := .startRuntime snapshot.provider placement.workspacePath

/-- The updates of a run inside the transaction of a start. -/
def startRun (s : Jobs) (jobRunId : JobRunId) (input : JobInput) : Jobs :=
  (s.writeRun jobRunId [.queued] (by decide)
      (fun r => { r with state := .starting, startedAt := some input.now })
      ⟨fun _ => rfl, fun _ => rfl, fun _ => rfl, fun _ => rfl⟩).writeRun jobRunId [.starting]
    (by decide)
    (fun r => { r with
      sessionThreadId := some input.sessionThreadId,
      runtimeSessionId := some input.runtimeSessionId })
    ⟨fun _ => rfl, fun _ => rfl, fun _ => rfl, fun _ => rfl⟩

/-- The session, the runtime and the command of a start. -/
def recordStart (db : Database) (snapshot : JobRunConfigSnapshot) (placement : PlacementRow)
    (input : JobInput) : Except AppError Database := do
  let sessionThreads ← dbResult "session_threads" (db.sessionThreads.insert?
    ⟨input.sessionThreadId, snapshot.projectPlacementId, input.runtimeSessionId, .active,
      input.now, input.now⟩)
  let runtimeSessions ← dbResult "runtime_sessions" (db.runtimeSessions.insert?
    ⟨input.runtimeSessionId, input.sessionThreadId, .starting, none, none, some input.now,
      input.now, input.now⟩)
  recordCommand { db with sessionThreads, runtimeSessions } (startCommand snapshot placement input)

/-- The transaction of `start_job_run`, `none` when the run is not queued any more. -/
def claimRun (s : Jobs) (jobRunId : JobRunId) (snapshot : JobRunConfigSnapshot)
    (placement : PlacementRow) (input : JobInput) : Except AppError (Option Jobs) :=
  if s.runIsIn jobRunId [.queued] then
    (recordStart s.db snapshot placement input).map fun db =>
      some ({ s with db }.startRun jobRunId input)
  else .ok none

def markRunning (s : Jobs) (jobRunId : JobRunId) (turnId : TurnId) (commandId : CommandId) :
    Jobs :=
  s.writeRun jobRunId [.starting] (by decide)
    (fun r => { r with state := .running, turnId := some turnId, commandId := some commandId })
    ⟨fun _ => rfl, fun _ => rfl, fun _ => rfl, fun _ => rfl⟩

def succeedRun (s : Jobs) (jobRunId : JobRunId) (summary : Option String) (now : DateTime) :
    Jobs :=
  s.writeRun jobRunId [.running] (by decide)
    (fun r => { r with state := .succeeded, finishedAt := some now, summary })
    ⟨fun _ => rfl, fun _ => rfl, fun _ => rfl, fun _ => rfl⟩

/-- The update of `fail_job_run`. -/
def failRun (s : Jobs) (jobRunId : JobRunId) (code message : String) (timedOut : Bool)
    (now : DateTime) : Jobs :=
  s.writeRun jobRunId activeStates (by decide)
    (fun r => { r with
      state := if timedOut then .timedOut else .failed, finishedAt := some now,
      terminalCode := some code, terminalMessage := some message })
    ⟨fun _ => rfl, fun _ => rfl, fun _ => rfl, fun _ => rfl⟩

/-- The turn `drive_starting_job_run` finds in the session of a run. -/
def firstTurn? (db : Database) (sessionThreadId : SessionThreadId) : Option TurnRow :=
  ((db.turns.select (·.sessionThreadId == sessionThreadId)).mergeSort
    fun a b => a.turnIndex ≤ b.turnIndex).head?

/-- What the last message of the assistant says. -/
def lastSummary? (db : Database) (sessionThreadId : SessionThreadId) : Option String :=
  (((db.messages.select fun r => r.sessionThreadId == sessionThreadId && r.role == .assistant).mergeSort
    fun a b => b.createdAt ≤ a.createdAt).head?).map (·.content)

/-- The end of a run whose runtime is lost. -/
def runtimeFailure (state : RuntimeSessionState) : Option RunStep :=
  match state with
  | .error => some (.fail "job.runtime_failed" "Provider runtime failed" false)
  | .expired => some (.fail "job.timed_out" "Provider runtime timed out" true)
  | _ => none

/-- One step with a run, as it was loaded. -/
def runStep (s : Jobs) (run : JobRunRow) (input : JobInput) : RunStep → Jobs × NextStep
  | .start =>
    match parseSnapshot run.configSnapshot with
    | .error e => (s, failStart e)
    | .ok snapshot =>
      match s.db.projectPlacements.find? (·.projectPlacementId == snapshot.projectPlacementId),
          input.error with
      | none, _ => (s, failStart (.notFound "placement.not_found" "Placement not found"))
      | some _, some e => (s, failStart e)
      | some placement, none => (s, .goesOn (.claim snapshot placement))
  | .claim snapshot placement =>
    match input.error, s.claimRun run.jobRunId snapshot placement input with
    | some e, _ | none, .error e => (s, failStart e)
    | none, .ok none => (s, .done)
    | none, .ok (some t) => (t, .goesOn .dispatchStart)
  | .dispatchStart =>
    match input.error with
    | some e => (s, failStart e)
    | none => (s, .done)
  | .detail =>
    match run.sessionThreadId with
    | none => (s, .done)
    | some sessionThreadId =>
      match parseSnapshot run.configSnapshot, loadSession s.db sessionThreadId with
      | .error e, _ | .ok _, .error e => (s, .fails e)
      | .ok snapshot, .ok (_, runtime, _) =>
        if runtime.state = .error then
          (s, .goesOn (.fail "job.runtime_start_failed"
            (runtime.degradedReason.getD "Provider runtime failed to start") false))
        else (s, .goesOn (.existingTurn (runtime.state == .ready) snapshot.prompt))
  | .existingTurn ready prompt =>
    match run.sessionThreadId.bind (firstTurn? s.db) with
    | some turn => (s, .goesOn (.markRunning turn.turnId turn.commandId))
    | none => (s, if ready then .goesOn (.check prompt) else .done)
  | .check prompt =>
    match checkTurn s.db (run.sessionThreadId.getD "") prompt input.error with
    | .error e => (s, .fails e)
    | .ok (session, placement) => (s, .goesOn (.record prompt session placement))
  | .record prompt session placement =>
    let submission : TurnSubmission := ⟨input.commandId, input.turnId, input.userMessageId,
      input.correlationId, .system, prompt, input.now⟩
    match input.error, recordTurnSubmission s.db submission (submission.command session placement)
        session.sessionThreadId with
    | some e, _ | none, .error e => (s, .fails e)
    | none, .ok db => ({ s with db }, .goesOn (.dispatchTurn input.commandId))
  | .dispatchTurn commandId =>
    match input.error with
    | some e => (s, .fails e)
    | none => (s, .goesOn (.reload commandId))
  | .reload commandId =>
    match loadSession s.db (run.sessionThreadId.getD "") with
    | .error e => (s, .fails e)
    | .ok _ => (s, .goesOn (.link commandId))
  | .link commandId =>
    match s.db.turns.find? (·.commandId == commandId) with
    | none => (s, .fails (.database "turns"))
    | some turn => (s, .goesOn (.markRunning turn.turnId commandId))
  | .markRunning turnId commandId => (s.markRunning run.jobRunId turnId commandId, .done)
  | .turn =>
    match run.sessionThreadId with
    | none => (s, .goesOn (.fail "job.session_missing" "Job Run session is missing" false))
    | some _ =>
      match ((s.findRun? run.jobRunId).bind (·.turnId)).bind fun turnId =>
          s.db.turns.find? (·.turnId == turnId) with
      | none => (s, .goesOn .runtime)
      | some turn =>
        match turn.state with
        | .completed => (s, .goesOn .summary)
        | .failed | .interrupted =>
          (s, .goesOn (.fail "job.turn_failed" "Provider turn failed or was interrupted" false))
        | _ => (s, .goesOn .runtime)
  | .summary => (s, .goesOn (.succeed (run.sessionThreadId.bind (lastSummary? s.db))))
  | .succeed summary => (s.succeedRun run.jobRunId summary input.now, .done)
  | .runtime =>
    let runtime := run.sessionThreadId.bind fun sessionThreadId =>
      s.db.runtimeSessions.find? (·.sessionThreadId == sessionThreadId)
    match runtime.bind (runtimeFailure ·.state) with
    | none => (s, .done)
    | some step => (s, .goesOn step)
  | .fail code message timedOut =>
    if s.runIsIn run.jobRunId activeStates then
      let t := s.failRun run.jobRunId code message timedOut input.now
      match parseSnapshot run.configSnapshot with
      | .error e => (t, .fails e)
      | .ok snapshot => (t, if snapshot.continueAfterError then .done else .goesOn (.pause code))
    else (s, .done)
  | .pause code => (s.pauseJob run.jobId code input.now, .done)

/-- What `drive_job_runs` does with a run it has loaded, if anything. -/
def firstStep : JobRunState → Option RunStep
  | .queued => some .start
  | .starting => some .detail
  | .running => some .turn
  | _ => none

/-- The runs `drive_job_runs` finds. -/
def activeRuns (s : Jobs) : List JobRunId :=
  ((s.jobRuns.select (·.state.isActive)).mergeSort fun a b =>
    a.queuedAt < b.queuedAt ∨ a.queuedAt = b.queuedAt ∧ a.jobRunId ≤ b.jobRunId).map (·.jobRunId)

/-- The jobs `dispatch_due_jobs` finds. -/
def dueJobs (s : Jobs) (now : DateTime) : List JobId :=
  ((s.jobs.select fun r => r.enabled && r.nextRunAt.any (· ≤ now)).mergeSort fun a b =>
    a.nextRunAt.getD 0 < b.nextRunAt.getD 0 ∨
      a.nextRunAt = b.nextRunAt ∧ a.jobId ≤ b.jobId).map (·.jobId)

/-! ## 7. Reading back what was written -/

section Read

variable {s : Jobs} {jobRunId : JobRunId}

theorem findRun?_id {run : JobRunRow} (h : s.findRun? jobRunId = some run) :
    run.jobRunId = jobRunId := by
  simpa using find?_pos h

theorem findRun?_of_mem {run : JobRunRow} (h : run ∈ s.jobRuns.rows) :
    s.findRun? run.jobRunId = some run :=
  find?_of_mem h (beq_self_eq_true _) fun _ ha => Or.inl (eq_of_beq ha)

theorem findRun?_updateRuns {p : JobRunRow → Bool}
    {hp : ∀ r, p r = true → r.state.isActive = true} {f : JobRunRow → JobRunRow}
    {hf : KeepsRun f} :
    (s.updateRuns p hp f hf).findRun? jobRunId =
      (s.findRun? jobRunId).map fun r => if p r then f r else r := by
  rw [findRun?, updateRuns, find?_updateFreeing]
  · rfl
  · intro r
    rw [hf.jobRunId]

theorem runIsIn_iff {states : List JobRunState} :
    s.runIsIn jobRunId states = true ↔
      ∃ run, s.findRun? jobRunId = some run ∧ run.state ∈ states := by
  constructor
  · intro h
    obtain ⟨run, hrun⟩ := Option.isSome_iff_exists.mp h
    have hrow : isRunIn jobRunId states run = true := find?_pos hrun
    have hpos := Bool.and_eq_true_iff.mp hrow
    obtain rfl : run.jobRunId = jobRunId := eq_of_beq hpos.1
    exact ⟨run, findRun?_of_mem (mem_of_find? hrun), List.contains_iff_mem.mp hpos.2⟩
  · rintro ⟨run, hrun, hstate⟩
    refine List.find?_isSome.mpr ⟨run, mem_of_find? hrun, ?_⟩
    rw [isRunIn, findRun?_id hrun]
    simpa using hstate

theorem findJob?_writeJob {jobId j : JobId} {p : JobRow → Bool} {f : JobRow → JobRow}
    {hf : ∀ r, (f r).jobId = r.jobId} :
    (s.writeJob jobId p f hf).findJob? j =
      (s.findJob? j).map fun r => if r.jobId == jobId && p r then f r else r := by
  rw [findJob?, writeJob, find?_update]
  · rfl
  · intro r
    rw [hf]

end Read

end Jobs

end Uprava.Core
