/-
  File:      Uprava/Core/JobTicks.lean
  Subject:   One call of `dispatch_due_jobs`: the due jobs, each claimed for its occurrence, up to
             the first error.

  * `Jobs.ClaimFails`            -- where a job stands when it ends a call;
  * **`Jobs.separate_claimDueJob`** -- a claim rests on the job and its runs, and leaves those of
    the other jobs alone.
-/
import Uprava.Core.Jobs
import Uprava.Lib.Loops

namespace Uprava.Core

open Uprava.Protocol
open Uprava.Lib (Schema Table each Fails Separate)
open Uprava.Lib.Table

/-! ## 1. A due job -/

/-- What a call takes from outside of the tables for a due job. -/
structure DueInput where
  now : DateTime
  jobRunId : JobRunId
  /-- What a statement of the claim fails with. -/
  error : Option AppError
  deriving DecidableEq

namespace Jobs

section Claims

variable (zones : TimeZones) (inputs : JobId → DueInput)

/-- `claim_due_job` -/
def claimDueJob (jobId : JobId) (s : Jobs) : Jobs × Option AppError :=
  match s.loadJobDetail jobId with
  | .error e => (s, some e)
  | .ok job =>
    match dueOccurrence zones job (inputs jobId).now with
    | .error e => (s, some e)
    | .ok none => (s, none)
    | .ok (some occurrence) =>
      match (inputs jobId).error,
          s.claimOccurrence (inputs jobId).jobRunId job occurrence (inputs jobId).now with
      | some e, _ | none, .error e => (s, some e)
      | none, .ok t => (t, none)

/-- `dispatch_due_jobs` -/
def dispatchDueJobs (now : DateTime) (s : Jobs) : Jobs × Option AppError :=
  each (claimDueJob zones inputs) (s.dueJobs now) s

/-- What a call sees and writes for a job. -/
structure JobView where
  job : Option JobRow
  runs : List JobRunRow
  placements : Table PlacementRow
  deriving DecidableEq

def jobView (jobId : JobId) (s : Jobs) : JobView :=
  ⟨s.findJob? jobId, s.jobRuns.select (·.jobId == jobId), s.db.projectPlacements⟩

/-- **Does a call end with an error of this job?** It cannot be loaded, its schedule has no next
    occurrence, the claim fails, or the occurrence has a run. -/
def ClaimFails (jobId : JobId) (s : Jobs) : Prop :=
  match s.loadJobDetail jobId with
  | .error _ => True
  | .ok job =>
    match dueOccurrence zones job (inputs jobId).now with
    | .error _ => True
    | .ok none => False
    | .ok (some occurrence) =>
      (inputs jobId).error.isSome = true ∨
        ∃ run ∈ s.jobRuns.rows, run.jobId = jobId ∧ run.trigger = .scheduled ∧
          run.scheduledFor = some occurrence.dueAt

end Claims

/-! ## 2. What a call does with a job -/

section ClaimLemmas

variable {zones : TimeZones} {inputs : JobId → DueInput} {s t : Jobs} {jobId : JobId}

theorem loadJobDetail_congr (h : jobView jobId s = jobView jobId t) :
    s.loadJobDetail jobId = t.loadJobDetail jobId := by
  have hjob : s.findJob? jobId = t.findJob? jobId := congrArg JobView.job h
  have hruns : s.jobRuns.select (·.jobId == jobId) = t.jobRuns.select (·.jobId == jobId) :=
    congrArg JobView.runs h
  have hplacements : s.db.projectPlacements = t.db.projectPlacements :=
    congrArg JobView.placements h
  unfold loadJobDetail
  rw [hjob, hruns, hplacements]

/-- The job that is loaded is the one asked for. -/
theorem loadJobDetail_ok {job : JobDetail} (h : s.loadJobDetail jobId = .ok job) :
    s.findJob? jobId = some job.row ∧ job.row.jobId = jobId := by
  unfold loadJobDetail at h
  split at h
  · cases h
  · rename_i row hrow
    have hid : row.jobId = jobId := by simpa using find?_pos hrow
    split at h
    · cases h
    · split at h
      · cases h
      · split at h
        · cases h
        · cases h
          exact ⟨hrow, hid⟩

theorem hasActiveRun_eq : s.hasActiveRun jobId =
    (s.jobRuns.select (·.jobId == jobId)).any (·.state.isActive) := by
  rw [Bool.eq_iff_iff]
  unfold hasActiveRun select
  rw [List.any_eq_true]
  constructor
  · intro h
    obtain ⟨run, hrun⟩ := Option.isSome_iff_exists.mp h
    have hpos : run.jobId = jobId ∧ run.state.isActive = true := by
      simpa using List.find?_some hrun
    exact ⟨run, List.mem_filter.mpr ⟨mem_of_find? hrun, beq_iff_eq.mpr hpos.1⟩, hpos.2⟩
  · rintro ⟨run, hrun, hactive⟩
    obtain ⟨hmem, hid⟩ := List.mem_filter.mp hrun
    exact List.find?_isSome.mpr ⟨run, hmem, Bool.and_eq_true_iff.mpr ⟨hid, hactive⟩⟩

/-- A new run of an occurrence meets another run of it, and no other. -/
theorem clashes_newRun_iff {jobRunId : JobRunId} {job : JobDetail} {dueAt now : DateTime}
    (hnew : ∀ run ∈ s.jobRuns.rows, run.jobRunId ≠ jobRunId) :
    s.jobRuns.Clashes (newRun jobRunId job .scheduled (some dueAt) false
      (s.hasActiveRun job.row.jobId) now) ↔
      ∃ run ∈ s.jobRuns.rows, run.jobId = job.row.jobId ∧ run.trigger = .scheduled ∧
        run.scheduledFor = some dueAt := by
  constructor
  · rintro ⟨run, hrun, hid | ⟨hjob, hfor, htrigger, _, _⟩ | ⟨hjob, hactive, hnewactive⟩⟩
    · exact absurd hid (hnew run hrun)
    · exact ⟨run, hrun, hjob, htrigger, hfor⟩
    · -- beside an active run the new one is skipped
      have hother : s.hasActiveRun job.row.jobId = true := by
        rw [hasActiveRun_eq, List.any_eq_true]
        exact ⟨run, List.mem_filter.mpr ⟨hrun, beq_iff_eq.mpr hjob⟩, hactive⟩
      unfold newRun at hnewactive
      rw [hother] at hnewactive
      cases hnewactive
  · rintro ⟨run, hrun, hjob, htrigger, hfor⟩
    refine ⟨run, hrun, Or.inr (Or.inl ⟨hjob, hfor, htrigger, rfl, ?_⟩)⟩
    rw [hfor]
    exact Option.some_ne_none dueAt

theorem isDueAt_of_dueOccurrence {job : JobDetail} {occurrence : Occurrence} {now : DateTime}
    (h : dueOccurrence zones job now = .ok (some occurrence)) :
    isDueAt occurrence.dueAt job.row = true := by
  unfold dueOccurrence at h
  split at h
  · cases h
  · rename_i henabled
    split at h
    · rename_i dueAt schedule hdue _
      split at h
      · cases h
      · cases hnext : nextJobRunAt zones schedule job.row.timezone now with
        | error e =>
          rw [hnext] at h
          cases h
        | ok next =>
          rw [hnext] at h
          cases h
          unfold isDueAt
          rw [hdue]
          simpa using henabled
    · cases h

theorem jobId_dueRow (occurrence : Occurrence) (now : DateTime) (r : JobRow) :
    { r with nextRunAt := some occurrence.nextRunAt, updatedAt := now }.jobId = r.jobId := rfl

/-- The job whose claim goes through, with its next run. -/
def claimed (s : Jobs) (job : JobDetail) (occurrence : Occurrence) (now : DateTime) : Jobs :=
  s.writeJob job.row.jobId (isDueAt occurrence.dueAt)
    (fun r => { r with nextRunAt := some occurrence.nextRunAt, updatedAt := now })
    (jobId_dueRow occurrence now)

/-- The run of a claim. -/
def claimRow (s : Jobs) (input : DueInput) (job : JobDetail) (occurrence : Occurrence) :
    JobRunRow :=
  newRun input.jobRunId job .scheduled (some occurrence.dueAt) false
    (s.hasActiveRun job.row.jobId) input.now

/-- A claim of a job that was just loaded. -/
theorem claimOccurrence_eq {input : DueInput} {job : JobDetail} {occurrence : Occurrence}
    (hjob : s.findJob? job.row.jobId = some job.row)
    (hdue : dueOccurrence zones job input.now = .ok (some occurrence)) :
    s.claimOccurrence input.jobRunId job occurrence input.now =
      (dbResult "job_runs" (s.jobRuns.insert? (s.claimRow input job occurrence))).map
        fun jobRuns => { s.claimed job occurrence input.now with jobRuns } := by
  unfold claimOccurrence
  rw [hjob, Option.any_some, if_pos (isDueAt_of_dueOccurrence hdue)]
  have hmap : ∀ (x : Except AppError (Table JobRunRow)) (f : Table JobRunRow → Jobs),
      (x >>= fun jobRuns => pure (f jobRuns)) = x.map f := by
    intro x f
    cases x <;> rfl
  exact hmap _ _

/-- What a call does with a job. -/
inductive ClaimStep (zones : TimeZones) (inputs : JobId → DueInput) (jobId : JobId) (s : Jobs) :
    Jobs × Option AppError → Prop
  | rests {error} (h : error.isSome = true ↔ ClaimFails zones inputs jobId s) :
    ClaimStep zones inputs jobId s (s, error)
  | claims {job occurrence jobRuns} (hload : s.loadJobDetail jobId = .ok job)
    (hdue : dueOccurrence zones job (inputs jobId).now = .ok (some occurrence))
    (hinsert : s.jobRuns.insert? (s.claimRow (inputs jobId) job occurrence) = some jobRuns)
    (h : ¬ ClaimFails zones inputs jobId s) :
    ClaimStep zones inputs jobId s
      ({ s.claimed job occurrence (inputs jobId).now with jobRuns }, none)

theorem claimStep_claimDueJob (hnew : ∀ run ∈ s.jobRuns.rows, run.jobRunId ≠ (inputs jobId).jobRunId) :
    ClaimStep zones inputs jobId s (claimDueJob zones inputs jobId s) := by
  unfold claimDueJob
  cases hload : s.loadJobDetail jobId with
  | error e =>
    refine .rests ⟨fun _ => ?_, fun _ => rfl⟩
    unfold ClaimFails
    rw [hload]
    exact trivial
  | ok job =>
    obtain ⟨hjob, hid⟩ := loadJobDetail_ok hload
    dsimp only
    cases hdue : dueOccurrence zones job (inputs jobId).now with
    | error e =>
      refine .rests ⟨fun _ => ?_, fun _ => rfl⟩
      unfold ClaimFails
      rw [hload]
      dsimp only
      rw [hdue]
      exact trivial
    | ok occurrence =>
      cases occurrence with
      | none =>
        refine .rests ⟨fun h => (by cases h), fun h => ?_⟩
        unfold ClaimFails at h
        rw [hload] at h
        dsimp only at h
        rw [hdue] at h
        exact h.elim
      | some occurrence =>
        have hfails : ClaimFails zones inputs jobId s ↔ (inputs jobId).error.isSome = true ∨
            s.jobRuns.Clashes (s.claimRow (inputs jobId) job occurrence) := by
          unfold ClaimFails claimRow
          rw [hload, clashes_newRun_iff hnew, hid]
          dsimp only
          rw [hdue]
        rw [← hid] at hjob
        dsimp only
        rw [claimOccurrence_eq hjob hdue]
        cases herror : (inputs jobId).error with
        | some e => exact .rests ⟨fun _ => hfails.mpr (Or.inl (by rw [herror]; rfl)), fun _ => rfl⟩
        | none =>
          cases hinsert : s.jobRuns.insert? (s.claimRow (inputs jobId) job occurrence) with
          | none =>
            exact .rests ⟨fun _ => hfails.mpr (Or.inr (insert?_eq_none.mp hinsert)), fun _ => rfl⟩
          | some jobRuns =>
            refine .claims hload hdue hinsert fun h => ?_
            rcases hfails.mp h with h | h
            · rw [herror] at h
              cases h
            · exact (insert?_eq_some.mp hinsert).1 h

theorem jobView_claimed {i : JobId} {job : JobDetail} {occurrence : Occurrence} {now : DateTime}
    {row : JobRunRow} {jobRuns : Table JobRunRow}
    (hinsert : s.jobRuns.insert? row = some jobRuns) :
    jobView i { s.claimed job occurrence now with jobRuns } =
      { jobView i s with
        job := (s.findJob? i).map fun r =>
          if r.jobId == job.row.jobId && isDueAt occurrence.dueAt r then
            { r with nextRunAt := some occurrence.nextRunAt, updatedAt := now }
          else r
        runs := (jobView i s).runs ++ if row.jobId == i then [row] else [] } := by
  show (⟨(s.claimed job occurrence now).findJob? i, jobRuns.select (·.jobId == i), _⟩ : JobView) = _
  unfold claimed
  rw [findJob?_writeJob, select_insert? hinsert]
  rfl

/-! ## 3. Due jobs stay apart -/

/-- A claim leaves the other jobs alone. -/
theorem jobView_claimed_of_ne {i : JobId} {input : DueInput} {job : JobDetail}
    {occurrence : Occurrence} {jobRuns : Table JobRunRow} (hne : i ≠ job.row.jobId)
    (hinsert : s.jobRuns.insert? (s.claimRow input job occurrence) = some jobRuns) :
    jobView i { s.claimed job occurrence input.now with jobRuns } = jobView i s := by
  have hrow : ((s.claimRow input job occurrence).jobId == i) = false := beq_false_of_ne hne.symm
  have hjob : ((s.findJob? i).map fun r =>
      if r.jobId == job.row.jobId && isDueAt occurrence.dueAt r then
        { r with nextRunAt := some occurrence.nextRunAt, updatedAt := input.now }
      else r) = s.findJob? i := by
    cases hfind : s.findJob? i with
    | none => rfl
    | some r =>
      have hid : r.jobId = i := by simpa using find?_pos hfind
      rw [Option.map_some, hid, beq_false_of_ne hne, Bool.false_and]
      rfl
  rw [jobView_claimed hinsert, hjob, hrow]
  show (⟨s.findJob? i, _ ++ [], _⟩ : JobView) = _
  rw [List.append_nil]
  rfl

theorem exists_run_congr {dueAt : DateTime} (h : jobView jobId s = jobView jobId t) :
    (∃ run ∈ s.jobRuns.rows, run.jobId = jobId ∧ run.trigger = .scheduled ∧
      run.scheduledFor = some dueAt) ↔
      ∃ run ∈ t.jobRuns.rows, run.jobId = jobId ∧ run.trigger = .scheduled ∧
        run.scheduledFor = some dueAt := by
  have hselect : ∀ u : Jobs, (∃ run ∈ u.jobRuns.rows, run.jobId = jobId ∧
      run.trigger = .scheduled ∧ run.scheduledFor = some dueAt) ↔
        ∃ run ∈ (jobView jobId u).runs, run.trigger = .scheduled ∧
          run.scheduledFor = some dueAt := by
    intro u
    constructor
    · rintro ⟨run, hrun, hid, hrest⟩
      exact ⟨run, List.mem_filter.mpr ⟨hrun, beq_iff_eq.mpr hid⟩, hrest⟩
    · rintro ⟨run, hrun, hrest⟩
      obtain ⟨hmem, hid⟩ := List.mem_filter.mp hrun
      exact ⟨run, hmem, eq_of_beq hid, hrest⟩
  rw [hselect, hselect, h]

/-- What a call does with a job rests on its part. -/
theorem jobView_claimDueJob (hs : ∀ run ∈ s.jobRuns.rows, run.jobRunId ≠ (inputs jobId).jobRunId)
    (ht : ∀ run ∈ t.jobRuns.rows, run.jobRunId ≠ (inputs jobId).jobRunId)
    (hview : jobView jobId s = jobView jobId t) :
    jobView jobId (claimDueJob zones inputs jobId s).1 =
        jobView jobId (claimDueJob zones inputs jobId t).1 ∧
      (claimDueJob zones inputs jobId s).2 = (claimDueJob zones inputs jobId t).2 := by
  have hloads := loadJobDetail_congr hview
  unfold claimDueJob
  rw [hloads]
  cases hload : t.loadJobDetail jobId with
  | error e => exact ⟨hview, rfl⟩
  | ok job =>
    obtain ⟨hjobt, hid⟩ := loadJobDetail_ok hload
    obtain ⟨hjobs, _⟩ := loadJobDetail_ok (hloads.trans hload)
    dsimp only
    cases hdue : dueOccurrence zones job (inputs jobId).now with
    | error e => exact ⟨hview, rfl⟩
    | ok occurrence =>
      cases occurrence with
      | none => exact ⟨hview, rfl⟩
      | some occurrence =>
        have hrow : s.claimRow (inputs jobId) job occurrence =
            t.claimRow (inputs jobId) job occurrence := by
          unfold claimRow
          rw [hid, hasActiveRun_eq, hasActiveRun_eq, show s.jobRuns.select (·.jobId == jobId) = _
            from congrArg JobView.runs hview]
          rfl
        have hclashes : s.jobRuns.Clashes (s.claimRow (inputs jobId) job occurrence) ↔
            t.jobRuns.Clashes (t.claimRow (inputs jobId) job occurrence) := by
          unfold claimRow
          rw [clashes_newRun_iff hs, clashes_newRun_iff ht, hid]
          exact exists_run_congr hview
        rw [← hid] at hjobs hjobt
        dsimp only
        rw [claimOccurrence_eq hjobs hdue, claimOccurrence_eq hjobt hdue]
        cases (inputs jobId).error with
        | some e => exact ⟨hview, rfl⟩
        | none =>
          cases hinsert : s.jobRuns.insert? (s.claimRow (inputs jobId) job occurrence) with
          | none =>
            rw [insert?_eq_none.mpr (hclashes.mp (insert?_eq_none.mp hinsert))]
            exact ⟨hview, rfl⟩
          | some jobRuns =>
            obtain ⟨jobRuns', hinsert'⟩ := Option.isSome_iff_exists.mp (isSome_insert?.mpr
              fun h => (insert?_eq_some.mp hinsert).1 (hclashes.mpr h))
            rw [hinsert']
            refine ⟨?_, rfl⟩
            show jobView jobId { s.claimed job occurrence (inputs jobId).now with jobRuns } =
              jobView jobId { t.claimed job occurrence (inputs jobId).now with jobRuns := jobRuns' }
            rw [jobView_claimed hinsert, jobView_claimed hinsert', hrow, hview,
              show s.findJob? jobId = _ from congrArg JobView.job hview]
            rfl

theorem fails_claimDueJob_iff
    (hnew : ∀ run ∈ s.jobRuns.rows, run.jobRunId ≠ (inputs jobId).jobRunId) :
    Fails (claimDueJob zones inputs) jobId s ↔ ClaimFails zones inputs jobId s := by
  have hstep := (@claimStep_claimDueJob zones) hnew
  show (claimDueJob zones inputs jobId s).2.isSome = true ↔ _
  generalize claimDueJob zones inputs jobId s = result at hstep
  cases hstep with
  | rests h => exact h
  | claims _ _ _ h => exact ⟨fun hsome => (by cases hsome), fun hfails => absurd hfails h⟩

/-- **Due jobs stay apart.** -/
theorem separate_claimDueJob {items : List JobId}
    (hapart : ∀ i ∈ items, ∀ j ∈ items, i ≠ j → (inputs i).jobRunId ≠ (inputs j).jobRunId) :
    Separate (claimDueJob zones inputs) jobView
      (fun i s => ∀ run ∈ s.jobRuns.rows, run.jobRunId ≠ (inputs i).jobRunId) items := by
  refine ⟨fun i _ j _ hij s hnew => ?_, fun i hi j hj hij s hi' hj' => ?_,
    fun i _ s t hs ht hview => ?_⟩
  · have hstep := (@claimStep_claimDueJob zones) hnew
    generalize claimDueJob zones inputs j s = result at hstep
    cases hstep with
    | rests => rfl
    | claims hload _ hinsert =>
      obtain ⟨_, hid⟩ := loadJobDetail_ok hload
      exact jobView_claimed_of_ne (by rw [hid]; exact hij) hinsert
  · have hstep := (@claimStep_claimDueJob zones) hj'
    generalize claimDueJob zones inputs j s = result at hstep
    cases hstep with
    | rests => exact hi'
    | claims _ _ hinsert => exact forall_insert? hinsert hi' fun h => hapart i hi j hj hij h.symm
  · obtain ⟨hview', herror⟩ := (@jobView_claimDueJob zones) hs ht hview
    refine ⟨hview', ?_⟩
    show (claimDueJob zones inputs i s).2.isSome = true ↔
      (claimDueJob zones inputs i t).2.isSome = true
    rw [herror]

theorem nodup_dueJobs {now : DateTime} : (s.dueJobs now).Nodup := by
  have hperm := (List.mergeSort_perm
    (s.jobs.select fun r => r.enabled && r.nextRunAt.any (· ≤ now)) fun a b =>
      a.nextRunAt.getD 0 < b.nextRunAt.getD 0 ∨
        a.nextRunAt = b.nextRunAt ∧ a.jobId ≤ b.jobId).map (·.jobId)
  exact hperm.nodup_iff.mpr (nodup_select_map fun _ _ hid => hid)

end ClaimLemmas

end Jobs

end Uprava.Core
