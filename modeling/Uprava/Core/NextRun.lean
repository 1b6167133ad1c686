/-
  File:      Uprava/Core/NextRun.lean
  Subject:   The next occurrence of a job's schedule.

  * `nextOnDays_ok_iff`: the search gives the first of its days whose time lies ahead;
  * `nextIsLeast_iff`: that is the least occurrence ahead exactly if one of the eight days lies
    ahead and no occurrence is passed over (`Covered`). An occurrence of a day before the local day
    of the start is passed over where the clock skips the schedule's time and goes past midnight;
  * `visits_once`: where this holds from each occurrence to the next, each is reached once.
-/
import Uprava.Core.Jobs
import Uprava.Lib.NextLeast

namespace Uprava.Core

open Uprava.Protocol
open Uprava.Lib (NextLeast steps)

/-! ## 1. Occurrences -/

/-- The weekday that a schedule asks for, and its time. -/
structure ClockTime where
  wanted : Option Nat
  hour : Nat
  minute : Nat
  deriving DecidableEq

def JobSchedule.clock? : JobSchedule → Option ClockTime
  | .interval _ => none
  | .daily hour minute => some ⟨none, hour, minute⟩
  | .weekly weekday hour minute => some ⟨some weekday, hour, minute⟩

/-- What `validate_job_input` asks of a schedule. -/
def JobSchedule.Valid : JobSchedule → Prop
  | .interval minutes => minutes ≠ 0
  | .daily hour minute => hour ≤ 23 ∧ minute ≤ 59
  | .weekly weekday hour minute => (1 ≤ weekday ∧ weekday ≤ 7) ∧ hour ≤ 23 ∧ minute ≤ 59

section Zone

variable (zones : TimeZones) (timezone : String) (c : ClockTime)

/-- The zone assigns the instant to the schedule's time on a matching day. -/
def OccursOn (day : Int) (t : DateTime) : Prop :=
  (c.wanted.all fun weekday => day % 7 + 1 = weekday) = true ∧
    zones.timeAt timezone day c.hour c.minute = some t

/-- The occurrences of a schedule. An interval is counted from an instant. -/
def occurrences (schedule : JobSchedule) (start : DateTime) : Set Int :=
  match schedule, schedule.clock? with
  | .interval minutes, _ => { t | ∃ k : Nat, 0 < k ∧ t = start + k * (60 * minutes) }
  | _, some c => { t | ∃ day, OccursOn zones timezone c day t }
  | _, none => ∅

/-- The zone answers for the instant, and for the time on the eight days from its local day on. -/
def InRange (schedule : JobSchedule) (after : DateTime) : Prop :=
  ∀ c, schedule.clock? = some c → ∃ today, zones.dayOf timezone after = some today ∧
    ∀ day, today ≤ day → day < today + 8 → ∃ t, zones.timeAt timezone day c.hour c.minute = some t

/-- `next_job_run_at` gives the least occurrence that is later. -/
def NextIsLeast (schedule : JobSchedule) (after : DateTime) : Prop :=
  ∃ t, nextJobRunAt zones schedule timezone after = .ok t ∧
    NextLeast (occurrences zones timezone schedule after) after t

/-- One of the days from a day on, as many as are given, has its occurrence ahead. -/
def SomeAhead (after : DateTime) (today : Int) : Prop :=
  ∃ day t, today ≤ day ∧ day < today + 8 ∧ OccursOn zones timezone c day t ∧ after < t

/-- An occurrence ahead is not passed over: it is that of the first of the eight days that has one
    ahead, or is not earlier than one that is ahead of a day among the eight which the search comes
    to before it. -/
def NotPassedOver (after : DateTime) (today day : Int) (t : DateTime) : Prop :=
  (today ≤ day ∧ day < today + 8 ∧ ∀ earlier u, today ≤ earlier → earlier < day →
      OccursOn zones timezone c earlier u → u ≤ after) ∨
    ∃ other u, today ≤ other ∧ other < today + 8 ∧ (other < day ∨ day < today) ∧
      OccursOn zones timezone c other u ∧ after < u ∧ u ≤ t

/-- The eight days have an occurrence ahead, and none ahead is passed over. -/
def Covered (schedule : JobSchedule) (after : DateTime) : Prop :=
  ∀ c, schedule.clock? = some c → ∀ today, zones.dayOf timezone after = some today →
    SomeAhead zones timezone c after today ∧
      ∀ day t, OccursOn zones timezone c day t → after < t →
        NotPassedOver zones timezone c after today day t

end Zone

theorem valid_of_validateJobInput {zones : TimeZones} {name prompt provider timezone : String}
    {schedule : JobSchedule}
    (h : validateJobInput zones name prompt provider (some schedule) timezone = .ok ()) :
    schedule.Valid := by
  unfold validateJobInput at h
  by_cases hname : (isBlank name || decide (maxJobNameChars < name.length)) = true
  · rw [if_pos hname] at h
    cases h
  rw [if_neg hname] at h
  dsimp only at h
  by_cases hprompt : (isBlank prompt || decide (maxJobPromptChars < prompt.length)) = true
  · rw [if_pos hprompt] at h
    cases h
  rw [if_neg hprompt] at h
  by_cases hprovider : isBlank provider = true
  · rw [if_pos hprovider] at h
    cases h
  rw [if_neg hprovider] at h
  obtain ⟨_, -, h⟩ := bind_eq_ok.mp h
  cases schedule with
  | interval minutes =>
    intro hzero
    rw [hzero] at h
    cases h
  | daily hour minute =>
    dsimp only at h
    split at h
    · cases h
    · exact ⟨by omega, by omega⟩
  | weekly weekday hour minute =>
    dsimp only at h
    split at h
    · cases h
    · exact ⟨by omega, by omega, by omega⟩

/-! ## 2. The search -/

variable {zones : TimeZones} {timezone : String} {c : ClockTime} {after t : DateTime}

/-- **The search gives the first of its days whose occurrence lies ahead.** -/
theorem nextOnDays_ok_iff {days : Nat} {day : Int}
    (hall : ∀ d, day ≤ d → d < day + days →
      ∃ u, zones.timeAt timezone d c.hour c.minute = some u) :
    nextOnDays zones timezone c.wanted c.hour c.minute after days day = .ok t ↔
      ∃ first, day ≤ first ∧ first < day + days ∧ OccursOn zones timezone c first t ∧ after < t ∧
        ∀ earlier u, day ≤ earlier → earlier < first → OccursOn zones timezone c earlier u →
          u ≤ after := by
  induction days generalizing day with
  | zero =>
    refine iff_of_false nofun ?_
    rintro ⟨first, hle, hlt, -⟩
    omega
  | succ days ih =>
    have hrest := @ih (day + 1) fun d hd hd' => hall d (by omega) (by omega)
    -- nothing of the first day lies ahead, so the search goes on
    have hskip (hno : ∀ u, OccursOn zones timezone c day u → u ≤ after) :
        (∃ first, day + 1 ≤ first ∧ first < day + 1 + days ∧ OccursOn zones timezone c first t ∧
          after < t ∧ ∀ earlier u, day + 1 ≤ earlier → earlier < first →
            OccursOn zones timezone c earlier u → u ≤ after) ↔
        ∃ first, day ≤ first ∧ first < day + (days + 1 : Nat) ∧
          OccursOn zones timezone c first t ∧ after < t ∧
          ∀ earlier u, day ≤ earlier → earlier < first → OccursOn zones timezone c earlier u →
            u ≤ after := by
      constructor
      · rintro ⟨first, hle, hlt, hon, hahead, hearlier⟩
        refine ⟨first, by omega, by omega, hon, hahead, fun earlier u hd hd' hu => ?_⟩
        rcases Int.lt_or_eq_of_le hd with hlt' | rfl
        · exact hearlier earlier u (by omega) hd' hu
        · exact hno u hu
      · rintro ⟨first, hle, hlt, hon, hahead, hearlier⟩
        have hne : first ≠ day := by
          rintro rfl
          exact absurd hahead (Int.not_lt.mpr (hno t hon))
        exact ⟨first, by omega, by omega, hon, hahead,
          fun earlier u hd hd' hu => hearlier earlier u (by omega) hd' hu⟩
    unfold nextOnDays
    split
    · rename_i hwanted
      obtain ⟨u, hu⟩ := hall day (by omega) (by omega)
      rw [hu]
      dsimp only
      split
      · rename_i hahead
        constructor
        · intro h
          cases h
          exact ⟨day, by omega, by omega, ⟨hwanted, hu⟩, hahead, fun earlier _ hd hd' => by omega⟩
        · rintro ⟨first, hle, hlt, hon, hahead', hearlier⟩
          rcases Int.lt_or_eq_of_le hle with hlt' | rfl
          · exact absurd hahead (Int.not_lt.mpr (hearlier day u (Int.le_refl _) hlt' ⟨hwanted, hu⟩))
          · have heq := hon.2
            rw [hu] at heq
            rw [Option.some.inj heq]
      · rename_i hnot
        rw [hrest]
        refine hskip fun u' hu' => ?_
        have heq := hu'.2
        rw [hu] at heq
        cases heq
        exact Int.not_lt.mp hnot
    · rename_i hwanted
      rw [hrest]
      exact hskip fun u' hu' => absurd hu'.1 hwanted

/-! ## 3. The next run -/

/-- A schedule by the clock is searched from the local day on. -/
theorem nextJobRunAt_clock {schedule : JobSchedule} {today : Int} (hvalid : schedule.Valid)
    (hclock : schedule.clock? = some c) (htoday : zones.dayOf timezone after = some today) :
    nextJobRunAt zones schedule timezone after =
      nextOnDays zones timezone c.wanted c.hour c.minute after 8 today := by
  cases schedule with
  | interval minutes => cases hclock
  | daily hour minute =>
    cases hclock
    unfold nextJobRunAt
    dsimp only
    rw [htoday]
    rfl
  | weekly weekday hour minute =>
    cases hclock
    have hweekday : ((some weekday).all fun w => decide (1 ≤ w ∧ w ≤ 7)) = true :=
      decide_eq_true hvalid.1
    unfold nextJobRunAt
    dsimp only
    rw [htoday]
    dsimp only
    rw [if_pos hweekday]

theorem occurrences_clock {schedule : JobSchedule} (hclock : schedule.clock? = some c)
    (start : DateTime) : occurrences zones timezone schedule start =
      { t | ∃ day, OccursOn zones timezone c day t } := by
  cases schedule with
  | interval minutes => cases hclock
  | daily hour minute =>
    cases hclock
    rfl
  | weekly weekday hour minute =>
    cases hclock
    rfl

/-- Of days that have an occurrence ahead there is a first one. -/
theorem exists_first {today : Int} (h : SomeAhead zones timezone c after today) :
    ∃ first t, today ≤ first ∧ first < today + 8 ∧ OccursOn zones timezone c first t ∧ after < t ∧
      ∀ earlier u, today ≤ earlier → earlier < first → OccursOn zones timezone c earlier u →
        u ≤ after := by
  obtain ⟨day, u, hge, hlt, hday, hu⟩ := h
  induction hk : (day - today).toNat using Nat.strong_induction_on generalizing day u with
  | h k ih =>
    by_cases hmore : ∃ earlier v, today ≤ earlier ∧ earlier < day ∧
        OccursOn zones timezone c earlier v ∧ after < v
    · obtain ⟨earlier, v, hge', hbefore, hearlier, hv⟩ := hmore
      exact ih _ (by omega) earlier v hge' (by omega) hearlier hv rfl
    · refine ⟨day, u, hge, hlt, hday, hu, fun earlier v hge' hbefore hearlier => ?_⟩
      exact Int.not_lt.mp fun hv => hmore ⟨earlier, v, hge', hbefore, hearlier, hv⟩

/-- An interval comes next after its minutes. -/
theorem nextLeast_interval {minutes : Nat} (hminutes : minutes ≠ 0) (start : Int) (k : Nat) :
    NextLeast (occurrences zones timezone (.interval minutes) start)
      (start + k * (60 * minutes)) (start + k * (60 * minutes) + 60 * minutes) := by
  have hpos : (0 : Int) < 60 * minutes := by omega
  refine ⟨⟨⟨k + 1, by omega, ?_⟩, ?_⟩, ?_⟩
  · rw [Int.natCast_add, Int.add_mul]
    omega
  · show (_ : Int) < _
    omega
  · rintro u ⟨⟨k', hk', rfl⟩, hu⟩
    have hu : start + k * (60 * minutes) < start + k' * (60 * minutes) := hu
    have hlt : (k : Int) < k' := by
      by_contra hle
      have := Int.mul_le_mul_of_nonneg_right (Int.not_lt.mp hle) (Int.le_of_lt hpos)
      omega
    have := Int.mul_le_mul_of_nonneg_right (show (k : Int) + 1 ≤ k' by omega) (Int.le_of_lt hpos)
    rw [Int.add_mul] at this
    omega

/-- The first of the eight days that has an occurrence ahead is not later than any occurrence that
    is not passed over. -/
theorem le_of_notPassedOver {today first : Int} {t : DateTime}
    (hfirst : today ≤ first) (hon : OccursOn zones timezone c first t) (hahead : after < t)
    (hearlier : ∀ earlier u, today ≤ earlier → earlier < first →
      OccursOn zones timezone c earlier u → u ≤ after)
    (hcovered : ∀ day u, OccursOn zones timezone c day u → after < u →
      NotPassedOver zones timezone c after today day u)
    {day : Int} {u : DateTime} (hday : OccursOn zones timezone c day u) (hu : after < u) :
    t ≤ u := by
  -- a day of the eight goes back to an earlier one, so the induction is on the days before it
  have hwindow : ∀ k : Nat, ∀ day u, today ≤ day → (day - today).toNat = k →
      OccursOn zones timezone c day u → after < u → t ≤ u := by
    intro k
    induction k using Nat.strong_induction_on with
    | h k ih =>
      intro day u hge hk hday hu
      rcases hcovered day u hday hu with ⟨-, -, hnone⟩ | ⟨other, u', ho, ho', hbefore, hother,
        hu', hle⟩
      · have heq : day = first := by
          rcases Int.lt_trichotomy day first with hlt | heq | hgt
          · exact absurd hu (Int.not_lt.mpr (hearlier day u hge hlt hday))
          · exact heq
          · exact absurd hahead (Int.not_lt.mpr (hnone first t hfirst hgt hon))
        rw [heq] at hday
        have hsame := hday.2
        rw [hon.2] at hsame
        exact Int.le_of_eq (Option.some.inj hsame)
      · exact Int.le_trans (ih _ (by omega) other u' ho rfl hother hu') hle
  rcases hcovered day u hday hu with ⟨hge, -, -⟩ | ⟨other, u', ho, -, -, hother, hu', hle⟩
  · exact hwindow _ day u hge rfl hday hu
  · exact Int.le_trans (hwindow _ other u' ho rfl hother hu') hle

/-- **The next run is the least occurrence ahead exactly if the eight days have one ahead and none
    is passed over.** -/
theorem nextIsLeast_iff {schedule : JobSchedule} (hvalid : schedule.Valid)
    (hrange : InRange zones timezone schedule after) :
    NextIsLeast zones timezone schedule after ↔ Covered zones timezone schedule after := by
  cases hclock : schedule.clock? with
  | none =>
    refine iff_of_true ?_ fun c hc => by rw [hclock] at hc; cases hc
    cases schedule with
    | interval minutes =>
      refine ⟨after + 60 * minutes, rfl, ?_⟩
      have hnext := @nextLeast_interval zones timezone _ hvalid after 0
      rw [Int.natCast_zero, Int.zero_mul, Int.add_zero] at hnext
      exact hnext
    | daily hour minute => cases hclock
    | weekly weekday hour minute => cases hclock
  | some c =>
    obtain ⟨today, htoday, hall⟩ := hrange c hclock
    have hsearch := nextJobRunAt_clock hvalid hclock htoday
    have hok (t : DateTime) := @nextOnDays_ok_iff zones timezone c after t 8 today hall
    unfold NextIsLeast Covered
    rw [hsearch, occurrences_clock hclock]
    constructor
    · rintro ⟨t, ht, -, hleast⟩ c' hc' today' htoday'
      rw [hclock] at hc'
      cases hc'
      rw [htoday] at htoday'
      cases htoday'
      obtain ⟨first, hle, hlt, hon, hahead, hearlier⟩ := (hok t).mp ht
      refine ⟨⟨first, t, hle, hlt, hon, hahead⟩, fun day u hday hu => ?_⟩
      have htu : t ≤ u := hleast ⟨⟨day, hday⟩, hu⟩
      rcases Int.lt_trichotomy day first with hbefore | rfl | hbehind
      · rcases Int.lt_or_le day today with hpast | hge
        · exact Or.inr ⟨first, t, hle, hlt, Or.inr hpast, hon, hahead, htu⟩
        · exact absurd hu (Int.not_lt.mpr (hearlier day u hge hbefore hday))
      · exact Or.inl ⟨hle, hlt, hearlier⟩
      · exact Or.inr ⟨first, t, hle, hlt, Or.inl hbehind, hon, hahead, htu⟩
    · intro hcovered
      obtain ⟨hsome, hpassed⟩ := hcovered c hclock today htoday
      obtain ⟨first, t, hle, hlt, hon, hahead, hearlier⟩ := exists_first hsome
      refine ⟨t, (hok t).mpr ⟨first, hle, hlt, hon, hahead, hearlier⟩, ⟨⟨first, hon⟩, hahead⟩, ?_⟩
      rintro u ⟨⟨day, hday⟩, hu⟩
      exact le_of_notPassedOver hle hon hahead hearlier hpassed hday hu

/-! ## 4. From one run to the next -/

def nextRun? (zones : TimeZones) (timezone : String) (schedule : JobSchedule) (after : DateTime) :
    Option DateTime :=
  (nextJobRunAt zones schedule timezone after).toOption

/-- Going on from a start an instant is reached, and once only. -/
def VisitedOnce (zones : TimeZones) (timezone : String) (schedule : JobSchedule)
    (start o : DateTime) : Prop :=
  ∃ n, steps (nextRun? zones timezone schedule) n start = some o ∧
    ∀ m, steps (nextRun? zones timezone schedule) m start = some o → m = n

theorem nextOnDays_gt {wanted : Option Nat} {hour minute days : Nat} {day : Int}
    (h : nextOnDays zones timezone wanted hour minute after days day = .ok t) : after < t := by
  induction days generalizing day with
  | zero => cases h
  | succ days ih =>
    unfold nextOnDays at h
    split at h
    · split at h
      · cases h
      · split at h
        · rename_i hahead
          cases h
          exact hahead
        · exact ih h
    · exact ih h

/-- **The next run lies ahead, whatever the zone answers.** -/
theorem nextRun?_gt {schedule : JobSchedule} (hvalid : schedule.Valid)
    (h : nextRun? zones timezone schedule after = some t) : after < t := by
  unfold nextRun? at h
  cases hrun : nextJobRunAt zones schedule timezone after with
  | error e =>
    rw [hrun] at h
    cases h
  | ok u =>
    rw [hrun] at h
    cases h
    unfold nextJobRunAt at hrun
    cases schedule with
    | interval minutes =>
      have hminutes : minutes ≠ 0 := hvalid
      have heq : (after : Int) + 60 * minutes = t := Except.ok.inj hrun
      rw [← heq]
      have hpos : (0 : Int) < 60 * minutes := by omega
      exact Int.lt_add_of_pos_right _ hpos
    | daily hour minute =>
      dsimp only at hrun
      split at hrun
      · cases hrun
      · split at hrun
        · exact nextOnDays_gt hrun
        · cases hrun
    | weekly weekday hour minute =>
      dsimp only at hrun
      split at hrun
      · cases hrun
      · split at hrun
        · exact nextOnDays_gt hrun
        · cases hrun

/-- The next run from an occurrence, among the occurrences counted from the start. -/
theorem nextRun?_least {schedule : JobSchedule} {start : DateTime} (hvalid : schedule.Valid)
    (hplace : after = start ∨ after ∈ occurrences zones timezone schedule start)
    (hrange : InRange zones timezone schedule after)
    (hcovered : Covered zones timezone schedule after) :
    ∃ u, nextRun? zones timezone schedule after = some u ∧
      NextLeast (occurrences zones timezone schedule start) after u := by
  cases hclock : schedule.clock? with
  | none =>
    cases schedule with
    | interval minutes =>
      obtain ⟨k, hk⟩ : ∃ k : Nat, (after : Int) = start + k * (60 * minutes) := by
        rcases hplace with heq | ⟨k, -, hk⟩
        · refine ⟨0, ?_⟩
          rw [heq, Int.natCast_zero, Int.zero_mul, Int.add_zero]
        · exact ⟨k, hk⟩
      refine ⟨after + 60 * minutes, rfl, ?_⟩
      rw [hk]
      exact nextLeast_interval hvalid start k
    | daily hour minute => cases hclock
    | weekly weekday hour minute => cases hclock
  | some c =>
    obtain ⟨u, hu, hleast⟩ := (nextIsLeast_iff hvalid hrange).mpr hcovered
    rw [occurrences_clock hclock] at hleast ⊢
    exact ⟨u, by unfold nextRun?; rw [hu]; rfl, hleast⟩

/-- **The next occurrence.** At an instant the next run is the least occurrence ahead exactly if
    the eight days have one ahead and none is passed over. Where that holds at the start and at
    each occurrence before another one, the other is reached, once. -/
theorem next_occurrence_iff {schedule : JobSchedule} (hvalid : schedule.Valid) :
    (∀ after, InRange zones timezone schedule after →
      (NextIsLeast zones timezone schedule after ↔ Covered zones timezone schedule after)) ∧
    ∀ start o, o ∈ occurrences zones timezone schedule start → start < o →
      (∀ t, t = start ∨ (t ∈ occurrences zones timezone schedule start ∧ start < t ∧ t < o) →
        InRange zones timezone schedule t ∧ Covered zones timezone schedule t) →
      VisitedOnce zones timezone schedule start o := by
  refine ⟨fun after hrange => nextIsLeast_iff hvalid hrange, fun start o ho hlt hgood => ?_⟩
  refine Lib.reached_once (fun t u => nextRun?_gt hvalid) ho hlt fun t ht => ?_
  obtain ⟨hrange, hcovered⟩ := hgood t ht
  exact nextRun?_least hvalid (ht.imp_right fun h => h.1) hrange hcovered

/-! ## 5. Zones that keep the days in order -/

/-- The same time of a later day is not earlier. -/
def InOrder (zones : TimeZones) (timezone : String) (c : ClockTime) : Prop :=
  ∀ day day' t t', day ≤ day' → zones.timeAt timezone day c.hour c.minute = some t →
    zones.timeAt timezone day' c.hour c.minute = some t' → t ≤ t'

/-- **In such a zone only an occurrence of a day before the local one can be passed over.** -/
theorem notPassedOver_iff {today : Int} (hsome : SomeAhead zones timezone c after today)
    (horder : InOrder zones timezone c) :
    (∀ day t, OccursOn zones timezone c day t → after < t →
        NotPassedOver zones timezone c after today day t) ↔
      ∀ day t, day < today → OccursOn zones timezone c day t → after < t →
        ∃ other, today ≤ other ∧ other < today + 8 ∧ OccursOn zones timezone c other t := by
  constructor
  · intro hcovered day t hpast hon hahead
    rcases hcovered day t hon hahead with ⟨hge, -, -⟩ | ⟨other, u, hle, hlt, -, hother, -, hut⟩
    · omega
    · have htu : t ≤ u := horder day other t u (by omega) hon.2 hother.2
      have heq : u = t := Int.le_antisymm hut htu
      exact ⟨other, hle, hlt, heq ▸ hother⟩
  · intro hpast day t hon hahead
    obtain ⟨first, u, hle, hlt, hfirst, hu, hearlier⟩ := exists_first hsome
    rcases Int.lt_or_le day today with hbefore | hge
    · obtain ⟨other, hle', hlt', hother⟩ := hpast day t hbefore hon hahead
      exact Or.inr ⟨other, t, hle', hlt', Or.inr hbefore, hother, hahead, Int.le_refl _⟩
    · rcases Int.lt_or_le first day with hbehind | hnot
      · exact Or.inr ⟨first, u, hle, hlt, Or.inl hbehind, hfirst, hu,
          horder first day u t (Int.le_of_lt hbehind) hfirst.2 hon.2⟩
      · exact Or.inl ⟨hge, by omega, fun earlier v hge' hbefore =>
          hearlier earlier v hge' (by omega)⟩

/-- A zone whose clock goes from 23:00 of a day to midnight, two hours behind UTC before that and
    one hour behind from then on. -/
def skipsToMidnight : TimeZones where
  known name := name == "America/Nuuk"
  dayOf _ time := some ((if time < 90000 then time - 7200 else time - 3600) / 86400)
  timeAt _ day hour minute :=
    let clock := 86400 * day + 3600 * hour + 60 * minute
    some (if clock < 86400 then clock + 7200 else clock + 3600)

theorem skipsToMidnight_inOrder (c : ClockTime) : InOrder skipsToMidnight "America/Nuuk" c := by
  intro day day' t t' hle ht ht'
  have ht : (if 86400 * day + 3600 * c.hour + 60 * c.minute < 86400 then
      86400 * day + 3600 * c.hour + 60 * c.minute + 7200
    else 86400 * day + 3600 * c.hour + 60 * c.minute + 3600) = t := Option.some.inj ht
  have ht' : (if 86400 * day' + 3600 * c.hour + 60 * c.minute < 86400 then
      86400 * day' + 3600 * c.hour + 60 * c.minute + 7200
    else 86400 * day' + 3600 * c.hour + 60 * c.minute + 3600) = t' := Option.some.inj ht'
  rw [← ht, ← ht']
  show (_ : Int) ≤ _
  split <;> split <;> omega

theorem skipsToMidnight_inRange (hour minute : Nat) (after : DateTime) :
    InRange skipsToMidnight "America/Nuuk" (.daily hour minute) after := by
  intro c hc
  exact ⟨_, rfl, fun day _ _ => ⟨_, rfl⟩⟩

/-- Well before the day on which the clock skips an hour. -/
theorem next_occurrence_before :
    NextIsLeast skipsToMidnight "America/Nuuk" (.daily 23 30) 1000 := by
  have hvalid : (JobSchedule.daily 23 30).Valid := ⟨by decide, by decide⟩
  refine ((next_occurrence_iff hvalid).1 1000 (skipsToMidnight_inRange 23 30 1000)).mpr ?_
  intro c hc today htoday
  cases hc
  have htoday : (-1 : Int) = today := Option.some.inj htoday
  have hsome : SomeAhead skipsToMidnight "America/Nuuk" ⟨none, 23, 30⟩ 1000 today :=
    ⟨-1, 5400, by omega, by omega, ⟨rfl, rfl⟩, by decide⟩
  refine ⟨hsome, (notPassedOver_iff hsome (skipsToMidnight_inOrder _)).mpr ?_⟩
  intro day t hpast hon hahead
  have ht : (if 86400 * day + 3600 * 23 + 60 * 30 < 86400 then
      86400 * day + 3600 * 23 + 60 * 30 + 7200
    else 86400 * day + 3600 * 23 + 60 * 30 + 3600) = t := Option.some.inj hon.2
  have hahead : (1000 : Int) < t := hahead
  split at ht <;> omega

/-- **Ten minutes past the midnight to which the clock has gone, the run of the day before is still
    ahead, at half past, and the next run is that of the day after.** -/
theorem next_run_passes_over :
    (JobSchedule.daily 23 30).Valid ∧
      InRange skipsToMidnight "America/Nuuk" (.daily 23 30) 90600 ∧
      ¬ NextIsLeast skipsToMidnight "America/Nuuk" (.daily 23 30) 90600 := by
  refine ⟨⟨by decide, by decide⟩, skipsToMidnight_inRange 23 30 90600, ?_⟩
  rintro ⟨t, hrun, -, hleast⟩
  have hnext : nextJobRunAt skipsToMidnight (.daily 23 30) "America/Nuuk" 90600 = .ok 174600 := by
    decide
  rw [hnext] at hrun
  cases hrun
  have hbefore : (91800 : Int) ∈
      occurrences skipsToMidnight "America/Nuuk" (.daily 23 30) 90600 := ⟨0, rfl, rfl⟩
  exact absurd (hleast ⟨hbefore, by decide⟩) (by decide)

end Uprava.Core
