/-
  File:      Uprava/Core/SchedulerTicks.lean
  Subject:   Does a call of `drive_job_runs`, `dispatch_due_jobs` or
             `dispatch_due_scheduled_messages` do with each item what it would do with it alone?

  The first two end with the first error, and visit the items in the order of a column, so an item
  that ends the call keeps those behind it waiting for as long as it stays. The third one makes
  every error of a message the end of that message.

  * **`scheduler_isolated_iff`** -- the first two do with each item what they would do with it
    alone exactly when nothing is to be done with those behind one that ends the call; the third
    one always does;
  * `scheduler_starved`          -- a run behind one of a Node that was revoked never starts.
-/
import Uprava.Core.JobRuns
import Uprava.Core.JobTicks
import Uprava.Core.MessageTicks
import Uprava.Core.RunEnds

namespace Uprava.Core

open Uprava.Protocol
open Uprava.Lib (Table)
open Uprava.Lib.Table

/-! ## 1. Items that are treated as if they were alone -/

namespace Jobs

/-- What a call does with each run is what it would do with the run alone. -/
def RunsIsolated (calls : JobRunId → RunCall) (s : Jobs) : Prop :=
  ∀ i ∈ s.activeRuns, (keyOf s calls i).view (driveJobRuns calls s).1 =
    (keyOf s calls i).view (driveRun calls i s).1

/-- Nothing is to be done with the runs behind one that ends the call. -/
def RunsBehindRest (calls : JobRunId → RunCall) (s : Jobs) : Prop :=
  ∀ before i behind, s.activeRuns = before ++ i :: behind →
    (∃ run ∈ s.jobRuns.rows, run.jobRunId ∈ before ∧ s.EndsCall (calls run.jobRunId) run) →
    (keyOf s calls i).view (driveRun calls i s).1 = (keyOf s calls i).view s

def JobsIsolated (zones : TimeZones) (inputs : JobId → DueInput) (now : DateTime) (s : Jobs) :
    Prop :=
  ∀ i ∈ s.dueJobs now, jobView i (dispatchDueJobs zones inputs now s).1 =
    jobView i (claimDueJob zones inputs i s).1

/-- Nothing is to be done with the jobs behind one that ends the call. -/
def JobsBehindRest (zones : TimeZones) (inputs : JobId → DueInput) (now : DateTime) (s : Jobs) :
    Prop :=
  ∀ before i behind, s.dueJobs now = before ++ i :: behind →
    (∃ j ∈ before, ClaimFails zones inputs j s) →
    jobView i (claimDueJob zones inputs i s).1 = jobView i s

/-- The ids of new runs are new, and no two of them are the same. -/
structure NewDue (inputs : JobId → DueInput) (now : DateTime) (s : Jobs) : Prop where
  new : ∀ i ∈ s.dueJobs now, ∀ run ∈ s.jobRuns.rows, run.jobRunId ≠ (inputs i).jobRunId
  apart : ∀ i ∈ s.dueJobs now, ∀ j ∈ s.dueJobs now, i ≠ j →
    (inputs i).jobRunId ≠ (inputs j).jobRunId

theorem runs_isolated_iff {calls : JobRunId → RunCall} {s : Jobs} (hnew : s.NewCalls calls)
    (hown : s.OwnSessions) : s.RunsIsolated calls ↔ s.RunsBehindRest calls := by
  have hiff := (separate_driveRun hnew hown).each_isolated_iff nodup_activeRuns
    fun i hi => ready_keyOf hnew hi
  refine hiff.trans ⟨fun h before i behind heq hends => ?_, fun h before i behind heq hfails => ?_⟩
  · obtain ⟨run, hrun, hmem, hends⟩ := hends
    have hactive : run.jobRunId ∈ s.activeRuns := heq ▸ List.mem_append_left _ hmem
    obtain ⟨row, hrow, hid, hstate⟩ := mem_activeRuns.mp hactive
    obtain rfl : row = run := eq_of_clash hrow hrun (Or.inl hid)
    refine h before i behind heq ⟨row.jobRunId, hmem, ?_⟩
    exact (fails_driveRun_iff (findRun?_of_mem hrow) (hnew.new _ hactive) hstate).mpr hends
  · obtain ⟨j, hj, hfails⟩ := hfails
    have hactive : j ∈ s.activeRuns := heq ▸ List.mem_append_left _ hj
    obtain ⟨row, hrow, rfl, hstate⟩ := mem_activeRuns.mp hactive
    refine h before i behind heq ⟨row, hrow, hj, ?_⟩
    exact (fails_driveRun_iff (findRun?_of_mem hrow) (hnew.new _ hactive) hstate).mp hfails

theorem jobs_isolated_iff {zones : TimeZones} {inputs : JobId → DueInput} {now : DateTime}
    {s : Jobs} (hnew : s.NewDue inputs now) :
    s.JobsIsolated zones inputs now ↔ s.JobsBehindRest zones inputs now := by
  have hiff := ((@separate_claimDueJob zones) hnew.apart).each_isolated_iff
    (nodup_dueJobs (s := s)) hnew.new
  refine hiff.trans ⟨fun h before i behind heq hends => ?_, fun h before i behind heq hfails => ?_⟩
  · obtain ⟨j, hj, hends⟩ := hends
    refine h before i behind heq ⟨j, hj, (fails_claimDueJob_iff ?_).mpr hends⟩
    exact hnew.new j (heq ▸ List.mem_append_left _ hj)
  · obtain ⟨j, hj, hfails⟩ := hfails
    refine h before i behind heq ⟨j, hj, (fails_claimDueJob_iff ?_).mp hfails⟩
    exact hnew.new j (heq ▸ List.mem_append_left _ hj)

end Jobs

namespace Messages

def MessagesIsolated (calls : MessageKey → MessageCall) (now : DateTime) (s : Messages) : Prop :=
  ∀ c ∈ s.due now, messageView c.key (calls c.key) (dispatchDueScheduledMessages calls now s).1 =
    messageView c.key (calls c.key) (sendDue calls c s).1

/-- The ids of a call are new, and no two of them are the same. -/
structure NewCalls (calls : MessageKey → MessageCall) (now : DateTime) (s : Messages) : Prop where
  new : ∀ c ∈ s.due now, NewIds (calls c.key) s
  apart : ∀ c ∈ s.due now, ∀ c' ∈ s.due now, c ≠ c' → (calls c.key).Apart (calls c'.key)

theorem messages_isolated {calls : MessageKey → MessageCall} {now : DateTime} {s : Messages}
    (hnew : NewCalls calls now s) : MessagesIsolated calls now s := by
  have hiff := (separate_sendDue hnew.apart).each_isolated_iff nodup_due hnew.new
  refine hiff.mpr fun before c behind _ hfails => ?_
  obtain ⟨j, _, hfails⟩ := hfails
  exact absurd hfails not_fails_sendDue

end Messages

/-- **A call does with each run and each job what it would do with it alone, exactly when nothing
    is to be done with those behind one that ends the call.** Messages it always treats so. -/
theorem scheduler_isolated_iff {zones : TimeZones} {inputs : JobId → DueInput} {now : DateTime}
    {calls : JobRunId → Jobs.RunCall} {messageCalls : MessageKey → Messages.MessageCall}
    {s : Jobs} {m : Messages} (hruns : s.NewCalls calls) (hown : s.OwnSessions)
    (hjobs : s.NewDue inputs now) (hmessages : Messages.NewCalls messageCalls now m) :
    (s.RunsIsolated calls ↔ s.RunsBehindRest calls) ∧
      (s.JobsIsolated zones inputs now ↔ s.JobsBehindRest zones inputs now) ∧
      Messages.MessagesIsolated messageCalls now m :=
  ⟨Jobs.runs_isolated_iff hruns hown, Jobs.jobs_isolated_iff hjobs,
    Messages.messages_isolated hmessages⟩

/-! ## 2. A run on a Node that was revoked -/

section Revoked

/-- A job for one of the Nodes, that is due. -/
def dueJob (jobId : JobId) (projectPlacementId : ProjectPlacementId)
    (schedule : Parsed JobSchedule) (nextRunAt : DateTime) : JobRow :=
  ⟨jobId, projectPlacementId, "Nightly", "Check the build", "codex", some schedule, "UTC", true,
    false, some nextRunAt, none, 0, 0⟩

def manualRun (jobRunId : JobRunId) (jobId : JobId) (state : JobRunState) (queuedAt : DateTime)
    (projectPlacementId : ProjectPlacementId) (session : Option SessionThreadId) : JobRunRow where
  jobRunId := jobRunId
  jobId := jobId
  trigger := .manual
  state := state
  scheduledFor := none
  queuedAt := queuedAt
  startedAt := none
  finishedAt := none
  sessionThreadId := session
  runtimeSessionId := none
  commandId := none
  turnId := none
  summary := none
  terminalCode := none
  terminalMessage := none
  configSnapshot := .value (.value
    ⟨"Nightly", projectPlacementId, "Check the build", "codex", none, "UTC", false⟩)
  force := false

/-- A run that is starting on a Node that was revoked since, and behind it one that waits for the
    other Node; a job whose schedule does not parse, and behind it one that is due as well. -/
def revokedJobs : Jobs where
  db := { twoNodes with turns := .empty }
  jobs := ⟨[dueJob "j3" "p1" .unreadable 0, dueJob "j4" "p2" (.value (.interval 60)) 1],
    by decide⟩
  jobRuns := ⟨[manualRun "run-a" "j1" .starting 0 "p1" (some "s1"),
    manualRun "run-b" "j2" .queued 1 "p2" none], by decide⟩

def revokedCalls (jobRunId : JobRunId) : Jobs.RunCall where
  input := ⟨2, "new-" ++ jobRunId, "session-" ++ jobRunId, "runtime-" ++ jobRunId,
    "command-" ++ jobRunId, "turn-" ++ jobRunId, "message-" ++ jobRunId, "correlation", none⟩
  error
    | .check _ =>
      if jobRunId = "run-a" then
        some (.badRequest "node.revoked" "Node has been revoked and cannot accept commands")
      else none
    | _ => none

def dueInputs (jobId : JobId) : DueInput := ⟨2, "scheduled-" ++ jobId, none⟩

/-- A message of the other Node's session, that is due. -/
def dueMessages : Messages where
  db := twoNodes
  messages := .single (Messages.newRow ⟨"m1", "s2"⟩ "Go on" 1 "UTC" 0)

def messageCalls (key : MessageKey) : Messages.MessageCall where
  input := ⟨2, "command-" ++ key.scheduledMessageId, "turn-" ++ key.scheduledMessageId,
    "message-" ++ key.scheduledMessageId, "correlation", none⟩
  claimError := none
  error _ := none

theorem activeRuns_revoked : revokedJobs.activeRuns = ["run-a", "run-b"] := by
  unfold Jobs.activeRuns
  rw [List.mergeSort_of_pairwise (by decide)]
  rfl

theorem dueJobs_revoked : revokedJobs.dueJobs 2 = ["j3", "j4"] := by
  unfold Jobs.dueJobs
  rw [List.mergeSort_of_pairwise (by decide)]
  rfl

theorem newCalls_revoked : revokedJobs.NewCalls revokedCalls := by
  have hnew : ∀ i ∈ revokedJobs.activeRuns,
      Jobs.NewRunIds revokedJobs.db (revokedCalls i).input := by
    rw [activeRuns_revoked]
    refine List.forall_mem_cons.mpr ⟨?_, List.forall_mem_cons.mpr ⟨?_, List.forall_mem_nil _⟩⟩
    all_goals exact ⟨⟨by decide, by decide, by decide, by decide⟩,
      by decide, by decide⟩
  refine ⟨hnew, ?_, ?_⟩
  · rw [activeRuns_revoked]
    decide
  · rw [activeRuns_revoked]
    decide

theorem ownSessions_revoked : revokedJobs.OwnSessions := by
  unfold Jobs.OwnSessions
  decide

theorem newDue_revoked : revokedJobs.NewDue dueInputs 2 := by
  constructor
  · rw [dueJobs_revoked]
    decide
  · rw [dueJobs_revoked]
    decide

theorem newCalls_dueMessages : Messages.NewCalls messageCalls 2 dueMessages := by
  have hdue : dueMessages.due 2 = [⟨⟨"m1", "s2"⟩, .scheduled, .inl rfl⟩] := by
    unfold Messages.due
    rw [List.mergeSort_of_pairwise (by decide)]
    rfl
  constructor
  · rw [hdue]
    refine List.forall_mem_cons.mpr ⟨?_, List.forall_mem_nil _⟩
    exact ⟨by decide, by decide, by decide, by decide⟩
  · rw [hdue]
    intro c hc c' hc' hne
    rw [List.mem_singleton] at hc hc'
    exact absurd (hc.trans hc'.symm) hne

theorem scheduler_isolated_iff_revoked :
    (revokedJobs.RunsIsolated revokedCalls ↔ revokedJobs.RunsBehindRest revokedCalls) ∧
      (revokedJobs.JobsIsolated Scheduler.utc dueInputs 2 ↔
        revokedJobs.JobsBehindRest Scheduler.utc dueInputs 2) ∧
      Messages.MessagesIsolated messageCalls 2 dueMessages :=
  scheduler_isolated_iff newCalls_revoked ownSessions_revoked newDue_revoked newCalls_dueMessages

/-- What ends a call ends every call after it. -/
theorem driveJobRuns_revoked : Jobs.driveJobRuns revokedCalls revokedJobs =
    (revokedJobs, some (.badRequest "node.revoked"
      "Node has been revoked and cannot accept commands")) := by
  unfold Jobs.driveJobRuns
  rw [activeRuns_revoked]
  decide +kernel

theorem dispatchDueJobs_revoked : Jobs.dispatchDueJobs Scheduler.utc dueInputs 2 revokedJobs =
    (revokedJobs, some .serialization) := by
  unfold Jobs.dispatchDueJobs
  rw [dueJobs_revoked]
  decide

/-- **A run behind one of a revoked Node never starts, and a job behind one whose schedule does not
    parse is never claimed**, though alone they would be. -/
theorem scheduler_starved :
    ((∀ n : Nat, ((fun s => (Jobs.driveJobRuns revokedCalls s).1)^[n]) revokedJobs =
        revokedJobs) ∧
      ((Jobs.driveRun revokedCalls "run-b" revokedJobs).1.findRun? "run-b").map (·.state) =
        some .starting ∧ ¬ revokedJobs.RunsIsolated revokedCalls) ∧
    (∀ n : Nat, ((fun s => (Jobs.dispatchDueJobs Scheduler.utc dueInputs 2 s).1)^[n])
        revokedJobs = revokedJobs) ∧
      ((Jobs.claimDueJob Scheduler.utc dueInputs "j4" revokedJobs).1.findRun?
        "scheduled-j4").map (·.state) = some .queued ∧
      ¬ revokedJobs.JobsIsolated Scheduler.utc dueInputs 2 := by
  have hstarts : ((Jobs.driveRun revokedCalls "run-b" revokedJobs).1.findRun? "run-b").map
      (·.state) = some .starting := by decide
  have hclaims : (Jobs.jobView "j4" (Jobs.claimDueJob Scheduler.utc dueInputs "j4"
      revokedJobs).1).runs.length = 1 := by decide
  refine ⟨⟨fun n => ?_, hstarts, fun hall => ?_⟩, fun n => ?_, by decide, fun hall => ?_⟩
  · exact Function.iterate_fixed (congrArg Prod.fst driveJobRuns_revoked) n
  · have hview := hall "run-b" (by rw [activeRuns_revoked]; decide)
    rw [driveJobRuns_revoked] at hview
    have hrun : revokedJobs.findRun? "run-b" =
        (Jobs.driveRun revokedCalls "run-b" revokedJobs).1.findRun? "run-b" :=
      congrArg Jobs.RunView.run hview
    rw [← hrun] at hstarts
    exact absurd hstarts (by decide)
  · exact Function.iterate_fixed (congrArg Prod.fst dispatchDueJobs_revoked) n
  · have hview := hall "j4" (by rw [dueJobs_revoked]; decide)
    rw [dispatchDueJobs_revoked] at hview
    rw [← hview] at hclaims
    exact absurd hclaims (by decide)

end Revoked

end Uprava.Core
