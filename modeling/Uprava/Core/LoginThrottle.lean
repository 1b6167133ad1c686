/-
  File:      Uprava/Core/LoginThrottle.lean
  Subject:   Logins with the local password, step by step and side by side, and how many wrong
             passwords are compared within the failure window.

  The check of the failures, the comparison of the password and the record of the failure are steps
  of their own. A check that passes does not see the guesses under way, and a failure whose audit
  entry fails is never recorded. `logins_throttled` says that in a run without these two the limit
  holds in every window.
-/
import Mathlib.Data.List.Perm.Basic
import Uprava.Core.NodeCredentials
import Uprava.Lib.Run

namespace Uprava.Core.WebLogin

open Uprava.Lib (run Meets Throughout run_inv_of_meets meets_of_check)

/-! ## 1. The failures on record -/

/-- The window; times are in nanoseconds. -/
def authFailureWindow : Int := authFailureWindowSeconds * 1000000000

/-- The failures within the window before a time. -/
def retainRecent (now : Int) (entries : List Int) : List Int :=
  entries.filter fun timestamp => now - authFailureWindow < timestamp

/-- Whether the check passes, and the entries it leaves. -/
def rejectIfAuthRateLimited (now : Int) (entries : List Int) : Bool × List Int :=
  let entries := retainRecent now entries
  (entries.length < authFailureLimit, entries)

def recordAuthFailure (now : Int) (entries : List Int) : List Int :=
  retainRecent now entries ++ [now]

/-! ## 2. Logins -/

/-- The step a login takes next. -/
inductive LoginStage (Hash : Type) where
  | check
  | lookup
  | verify (storedHash : Hash)
  | audit
  | record
  | clear
  deriving DecidableEq

structure Login (Password Hash : Type) where
  password : Password
  stage : LoginStage Hash
  deriving DecidableEq

/-- A password that was compared. -/
structure Comparison where
  time : Int
  accepted : Bool
  deriving DecidableEq

/-- The entries of `web:login`, the logins under way, and two histories: the comparisons, and when
    a login succeeded. -/
structure LoginState (Password Hash : Type) where
  now : Int
  failures : List Int := []
  logins : List (Login Password Hash) := []
  compared : List Comparison := []
  succeeded : List Int := []
  deriving DecidableEq

inductive LoginAction (Password : Type) where
  | arrive (password : Password)
  /-- The login at a position takes its step; `stored` is false when its statement fails. -/
  | step (i : Nat) (time : Int) (stored : Bool)
  /-- The request is dropped. -/
  | drop (i : Nat)
  deriving DecidableEq

section Model

variable {Password Hash : Type} (verifyPassword : Hash → Password → Bool) (storedHash : Option Hash)

/-- A password is compared now. -/
def LoginState.compare (s : LoginState Password Hash) (accepted : Bool) :
    LoginState Password Hash :=
  { s with compared := s.compared ++ [⟨s.now, accepted⟩] }

/-- One step of a login that was taken out of the others. -/
def LoginState.advance (s : LoginState Password Hash) (login : Login Password Hash)
    (stored : Bool) : LoginState Password Hash :=
  match login.stage with
  | .check =>
    match rejectIfAuthRateLimited s.now s.failures with
    | (true, entries) =>
      { s with failures := entries, logins := { login with stage := .lookup } :: s.logins }
    | (false, entries) => { s with failures := entries }
  | .lookup =>
    match if stored then storedHash else none with
    | some hash => { s with logins := { login with stage := .verify hash } :: s.logins }
    | none => s
  | .verify hash =>
    let accepted := verifyPassword hash login.password
    { s.compare accepted with
      logins := { login with stage := if accepted then .clear else .audit } :: s.logins }
  | .audit =>
    if stored then { s with logins := { login with stage := .record } :: s.logins } else s
  | .record => { s with failures := recordAuthFailure s.now s.failures }
  | .clear => { s with failures := [], succeeded := s.succeeded ++ [s.now] }

def LoginState.step (s : LoginState Password Hash) :
    LoginAction Password → Option (LoginState Password Hash)
  | .arrive password => some { s with logins := ⟨password, .check⟩ :: s.logins }
  | .step i time stored =>
    if s.now ≤ time then
      (s.logins[i]?).map fun login =>
        LoginState.advance verifyPassword storedHash
          { s with now := time, logins := s.logins.eraseIdx i } login stored
    else none
  | .drop i => if i < s.logins.length then some { s with logins := s.logins.eraseIdx i } else none

/-! ## 3. What is asked of them -/

/-- The wrong passwords compared from a time on. -/
def LoginState.wrongSince (s : LoginState Password Hash) (start : Int) : Nat :=
  s.compared.countP fun c => start ≤ c.time && !c.accepted

/-- The wrong passwords compared within the window that begins at a time. -/
def LoginState.wrongWithin (s : LoginState Password Hash) (start : Int) : Nat :=
  s.compared.countP fun c => start ≤ c.time && c.time < start + authFailureWindow && !c.accepted

/-- **Within a window in which no login succeeds, at most so many wrong passwords are compared.** -/
def LoginState.Throttled (s : LoginState Password Hash) : Prop :=
  ∀ start, (∀ time ∈ s.succeeded, ¬ (start ≤ time ∧ time < start + authFailureWindow)) →
    s.wrongWithin start ≤ authFailureLimit

/-- The login passed the check with a wrong password, and has not compared it yet. -/
def Login.pending (login : Login Password Hash) : Bool :=
  match login.stage with
  | .lookup => storedHash.any fun hash => !verifyPassword hash login.password
  | .verify hash => !verifyPassword hash login.password
  | _ => false

/-- The login compared a wrong password that is not on record yet. -/
def Login.unrecorded (login : Login Password Hash) : Bool :=
  match login.stage with
  | .audit | .record => true
  | _ => false

/-- The wrong guesses under way. -/
def LoginState.guesses (s : LoginState Password Hash) : Nat :=
  s.logins.countP (Login.pending verifyPassword storedHash) + s.logins.countP Login.unrecorded

/-- A step of a login that neither lets a wrong guess pass beside as many others as the limit
    allows, nor loses one. -/
def LoginState.Guarded (s : LoginState Password Hash) (time : Int) (stored : Bool)
    (login : Login Password Hash) : Bool :=
  match login.stage with
  | .check =>
    let wrong := storedHash.any fun hash => !verifyPassword hash login.password
    let entries := retainRecent time s.failures
    !wrong || authFailureLimit ≤ entries.length ||
      entries.length + s.guesses verifyPassword storedHash < authFailureLimit
  | .audit => stored
  | _ => true

def LoginState.Careful (s : LoginState Password Hash) : LoginAction Password → Prop
  | .arrive _ => True
  | .step i time stored =>
    ∀ login ∈ s.logins[i]?, s.Guarded verifyPassword storedHash time stored login
  | .drop i => ∀ login ∈ s.logins[i]?, login.unrecorded = false

instance (s : LoginState Password Hash) : (a : LoginAction Password) →
    Decidable (s.Careful verifyPassword storedHash a)
  | .arrive _ => inferInstanceAs (Decidable True)
  | .step i time stored => inferInstanceAs (Decidable
      (∀ login ∈ s.logins[i]?, s.Guarded verifyPassword storedHash time stored login))
  | .drop i => inferInstanceAs (Decidable (∀ login ∈ s.logins[i]?, login.unrecorded = false))

/-! ## 4. What keeps the limit -/

/-- The start of a window that is not over, with no success since. -/
def LoginState.Open (s : LoginState Password Hash) (start : Int) : Prop :=
  s.now - authFailureWindow < start ∧ ∀ time ∈ s.succeeded, time < start

structure LoginState.Sound (s : LoginState Password Hash) : Prop where
  past : (∀ c ∈ s.compared, c.time ≤ s.now) ∧ ∀ time ∈ s.succeeded, time ≤ s.now
  /-- What was compared is on record, or its login is under way. -/
  recorded : ∀ start, s.Open start → s.wrongSince start ≤
    s.failures.countP (start ≤ ·) + s.logins.countP Login.unrecorded
  /-- There is room for the guesses that passed the check. -/
  room : ∀ start, s.Open start → s.wrongSince start +
    s.logins.countP (Login.pending verifyPassword storedHash) ≤ authFailureLimit
  throttled : s.Throttled

variable {verifyPassword storedHash} {s : LoginState Password Hash}

theorem wrongWithin_le_wrongSince (start : Int) : s.wrongWithin start ≤ s.wrongSince start :=
  List.countP_mono_left fun c _ h => by
    simp only [Bool.and_eq_true] at h ⊢
    exact ⟨h.1.1, h.2⟩

theorem LoginState.Open.earlier {start time : Int} (h : s.now ≤ time)
    (hopen : { s with now := time }.Open start) : s.Open start := by
  obtain ⟨hwindow, hsucceeded⟩ := hopen
  exact ⟨Int.lt_of_le_of_lt (Int.sub_le_sub_right h _) hwindow, hsucceeded⟩

/-- Nothing is compared while time passes. -/
theorem LoginState.Sound.later (hs : s.Sound verifyPassword storedHash) {time : Int}
    (h : s.now ≤ time) : { s with now := time }.Sound verifyPassword storedHash where
  past := ⟨fun c hc => Int.le_trans (hs.past.1 c hc) h, fun t ht => Int.le_trans (hs.past.2 t ht) h⟩
  recorded start hopen := hs.recorded start (hopen.earlier h)
  room start hopen := hs.room start (hopen.earlier h)
  throttled := hs.throttled

/-- The order of the logins does not matter. -/
theorem LoginState.Sound.perm (hs : s.Sound verifyPassword storedHash)
    {logins : List (Login Password Hash)} (h : s.logins.Perm logins) :
    { s with logins }.Sound verifyPassword storedHash where
  past := hs.past
  recorded start hopen := by
    have hrecorded := hs.recorded start hopen
    rwa [h.countP_eq] at hrecorded
  room start hopen := by
    have hroom := hs.room start hopen
    rwa [h.countP_eq] at hroom
  throttled := hs.throttled

/-- Entries that a check drops lie before every window that is not over. -/
theorem countP_retainRecent {start now : Int} (h : now - authFailureWindow < start)
    (entries : List Int) :
    (retainRecent now entries).countP (start ≤ ·) = entries.countP (start ≤ ·) := by
  rw [retainRecent, List.countP_filter]
  refine List.countP_congr fun timestamp _ => ?_
  simp only [Bool.and_eq_true, decide_eq_true_eq]
  omega

theorem LoginState.Sound.wrongSince_future (hs : s.Sound verifyPassword storedHash) {start : Int}
    (h : s.now < start) : s.wrongSince start = 0 := by
  refine List.countP_eq_zero.mpr fun c hc => ?_
  have hpast : c.time ≤ s.now := hs.past.1 c hc
  have hnot : ¬ start ≤ c.time := by omega
  simp [hnot]

/-! ## 5. One step of a login -/

variable {login : Login Password Hash} {password : Password} {rest : List (Login Password Hash)}

/-- The login leaves, or takes a step that changes no count. -/
theorem LoginState.Sound.moved {logins logins' : List (Login Password Hash)}
    (hs : { s with logins }.Sound verifyPassword storedHash)
    (hunrecorded : logins.countP Login.unrecorded ≤ logins'.countP Login.unrecorded)
    (hpending : logins'.countP (Login.pending verifyPassword storedHash) ≤
      logins.countP (Login.pending verifyPassword storedHash)) :
    { s with logins := logins' }.Sound verifyPassword storedHash where
  past := hs.past
  recorded start hopen :=
    Nat.le_trans (hs.recorded start hopen) (Nat.add_le_add_left hunrecorded _)
  room start hopen := Nat.le_trans (Nat.add_le_add_left hpending _) (hs.room start hopen)
  throttled := hs.throttled

/-- A check drops entries that no open window holds. -/
theorem LoginState.Sound.retained (hs : s.Sound verifyPassword storedHash) :
    { s with failures := retainRecent s.now s.failures }.Sound verifyPassword storedHash where
  past := hs.past
  recorded start hopen := by
    show s.wrongSince start ≤ (retainRecent s.now s.failures).countP _ + _
    rw [countP_retainRecent hopen.1]
    exact hs.recorded start hopen
  room := hs.room
  throttled := hs.throttled

/-- **A wrong guess passes the check beside fewer others than the limit allows.** -/
theorem LoginState.Sound.passed (hs : s.Sound verifyPassword storedHash)
    (h : s.failures.length + s.guesses verifyPassword storedHash < authFailureLimit) :
    { s with logins := ⟨password, .lookup⟩ :: s.logins }.Sound verifyPassword storedHash where
  past := hs.past
  recorded start hopen := by
    have hrecorded := hs.recorded start hopen
    rwa [List.countP_cons_of_neg (by simp [Login.unrecorded])]
  room start hopen := by
    have hrecorded := hs.recorded start hopen
    have hlength : s.failures.countP (start ≤ ·) ≤ s.failures.length := List.countP_le_length
    have hone : ∀ b : Bool, (if b then 1 else 0) ≤ 1 := by decide
    show s.wrongSince start + List.countP _ (_ :: s.logins) ≤ _
    rw [List.countP_cons]
    have hpending := hone (Login.pending verifyPassword storedHash ⟨password, .lookup⟩)
    rw [LoginState.guesses] at h
    omega
  throttled := hs.throttled

@[simp] theorem wrongSince_compare (start : Int) (accepted : Bool) :
    (s.compare accepted).wrongSince start =
      s.wrongSince start + if start ≤ s.now ∧ accepted = false then 1 else 0 := by
  simp [LoginState.wrongSince, LoginState.compare, List.countP_append, List.countP_singleton]

@[simp] theorem wrongWithin_compare (start : Int) (accepted : Bool) :
    (s.compare accepted).wrongWithin start = s.wrongWithin start +
      if (start ≤ s.now ∧ s.now < start + authFailureWindow) ∧ accepted = false then 1 else 0 := by
  simp [LoginState.wrongWithin, LoginState.compare, List.countP_append, List.countP_singleton]

theorem LoginState.Sound.past_compare (hs : s.Sound verifyPassword storedHash) (accepted : Bool) :
    ∀ c ∈ (s.compare accepted).compared, c.time ≤ s.now := by
  intro c hc
  rcases List.mem_append.mp hc with hc | hc
  · exact hs.past.1 c hc
  · obtain rfl := List.mem_singleton.mp hc
    exact Int.le_refl _

/-- A password is accepted. -/
theorem LoginState.Sound.accepted (hs : s.Sound verifyPassword storedHash) :
    (s.compare true).Sound verifyPassword storedHash := by
  refine ⟨⟨hs.past_compare true, hs.past.2⟩, fun start hopen => ?_, fun start hopen => ?_,
    fun start hnone => ?_⟩
  · rw [wrongSince_compare, if_neg (by simp)]
    exact hs.recorded start hopen
  · rw [wrongSince_compare, if_neg (by simp)]
    exact hs.room start hopen
  · rw [wrongWithin_compare, if_neg (by simp)]
    exact hs.throttled start hnone

/-- **A wrong password is compared**: a guess that had its room is now one to be recorded. -/
theorem LoginState.Sound.refused {stage : LoginStage Hash}
    (hs : { s with logins := ⟨password, stage⟩ :: rest }.Sound verifyPassword storedHash)
    (hpending : Login.pending verifyPassword storedHash ⟨password, stage⟩)
    (hunrecorded : Login.unrecorded (⟨password, stage⟩ : Login Password Hash) = false) :
    { s.compare false with logins := ⟨password, .audit⟩ :: rest }.Sound verifyPassword
      storedHash := by
  have hsince : ∀ start, (s.compare false).wrongSince start ≤ s.wrongSince start + 1 := by
    intro start
    rw [wrongSince_compare]
    split <;> omega
  have hroom : ∀ start, s.Open start → (s.compare false).wrongSince start +
      rest.countP (Login.pending verifyPassword storedHash) ≤ authFailureLimit := by
    intro start hopen
    have hroom : s.wrongSince start + (_ :: rest).countP _ ≤ _ := hs.room start hopen
    rw [List.countP_cons_of_pos hpending] at hroom
    have hle := hsince start
    omega
  refine ⟨⟨hs.past_compare false, hs.past.2⟩, fun start hopen => ?_, fun start hopen => ?_,
    fun start hnone => ?_⟩
  · have hrecorded : s.wrongSince start ≤ _ + (_ :: rest).countP _ := hs.recorded start hopen
    rw [List.countP_cons_of_neg (by simp [hunrecorded])] at hrecorded
    show (s.compare false).wrongSince start ≤ _ + (_ :: rest).countP _
    rw [List.countP_cons_of_pos rfl]
    exact Nat.le_trans (hsince start) (Nat.succ_le_succ hrecorded)
  · show (s.compare false).wrongSince start + (_ :: rest).countP _ ≤ _
    rw [List.countP_cons_of_neg (by simp [Login.pending])]
    exact hroom start hopen
  · show (s.compare false).wrongWithin start ≤ _
    by_cases hwindow : start ≤ s.now ∧ s.now < start + authFailureWindow
    · -- the window is not over, so it is one of those with room
      have hopen : s.Open start := by
        refine ⟨by omega, fun time ht => ?_⟩
        have hpast : time ≤ s.now := hs.past.2 time ht
        have hnot := hnone time ht
        omega
      exact Nat.le_trans (wrongWithin_le_wrongSince start)
        (Nat.le_trans (Nat.le_add_right _ _) (hroom start hopen))
    · rw [wrongWithin_compare, if_neg fun h => hwindow h.1]
      exact hs.throttled start hnone

/-- A failure goes on record, and its login ends. -/
theorem LoginState.Sound.recordedNow
    (hs : { s with logins := ⟨password, .record⟩ :: rest }.Sound verifyPassword storedHash) :
    { s with failures := recordAuthFailure s.now s.failures, logins := rest }.Sound verifyPassword
      storedHash where
  past := hs.past
  recorded start hopen := by
    show s.wrongSince start ≤ (recordAuthFailure s.now s.failures).countP _ + rest.countP _
    by_cases hstart : start ≤ s.now
    · have hrecorded : s.wrongSince start ≤ s.failures.countP (start ≤ ·) +
          (_ :: rest).countP _ := hs.recorded start hopen
      rw [List.countP_cons_of_pos rfl] at hrecorded
      rw [recordAuthFailure, List.countP_append, countP_retainRecent hopen.1,
        List.countP_singleton, if_pos (decide_eq_true hstart)]
      omega
    · have hnone : s.wrongSince start = 0 := hs.wrongSince_future (Int.not_le.mp hstart)
      omega
  room start hopen := by
    have hroom : s.wrongSince start + (_ :: rest).countP _ ≤ _ := hs.room start hopen
    rwa [List.countP_cons_of_neg (by simp [Login.pending])] at hroom
  throttled := hs.throttled

/-- A login succeeds: every window that is open now begins later. -/
theorem LoginState.Sound.cleared (hs : s.Sound verifyPassword storedHash) :
    { s with failures := [], succeeded := s.succeeded ++ [s.now] }.Sound verifyPassword
      storedHash where
  past := by
    refine ⟨hs.past.1, fun time htime => ?_⟩
    rcases List.mem_append.mp htime with htime | htime
    · exact hs.past.2 time htime
    · obtain rfl := List.mem_singleton.mp htime
      exact Int.le_refl _
  recorded start hopen := by
    have hlater : s.now < start := hopen.2 s.now (by simp)
    have hnone : s.wrongSince start = 0 := hs.wrongSince_future hlater
    show s.wrongSince start ≤ _
    omega
  room start hopen := hs.room start ⟨hopen.1, fun time ht => hopen.2 time (by simp [ht])⟩
  throttled start hnone := hs.throttled start fun time ht => hnone time (by simp [ht])

/-- A login that stops, or whose step changes no count. -/
theorem LoginState.Sound.left {stage : LoginStage Hash}
    (hs : { s with logins := ⟨password, stage⟩ :: rest }.Sound verifyPassword storedHash)
    (h : Login.unrecorded (⟨password, stage⟩ : Login Password Hash) = false) :
    { s with logins := rest }.Sound verifyPassword storedHash := by
  refine LoginState.Sound.moved (s := s) hs ?_ ?_
  · exact Nat.le_of_eq (List.countP_cons_of_neg (by simp [h]))
  · exact (List.sublist_cons_self _ _).countP_le

/-- **A guarded step of a login keeps the limit.** -/
theorem LoginState.Sound.advance
    (hs : { s with logins := login :: rest }.Sound verifyPassword storedHash) {stored : Bool}
    (hg : { s with logins := login :: rest }.Guarded verifyPassword storedHash s.now stored login) :
    ({ s with logins := rest }.advance verifyPassword storedHash login stored).Sound verifyPassword
      storedHash := by
  obtain ⟨password, stage⟩ := login
  cases stage with
  | check =>
    have hleft : { s with logins := rest }.Sound verifyPassword storedHash := hs.left rfl
    have hretained := hleft.retained
    by_cases hpass : (retainRecent s.now s.failures).length < authFailureLimit
    · have hreject : rejectIfAuthRateLimited s.now s.failures =
          (true, retainRecent s.now s.failures) := by
        simp [rejectIfAuthRateLimited, hpass]
      rw [LoginState.advance]
      dsimp only
      rw [hreject]
      dsimp only
      by_cases hwrong : storedHash.any fun hash => !verifyPassword hash password
      · have hroom : (retainRecent s.now s.failures).length +
            LoginState.guesses verifyPassword storedHash
              { s with logins := ⟨password, .check⟩ :: rest } < authFailureLimit := by
          simpa [LoginState.Guarded, hwrong, Nat.not_le.mpr hpass] using hg
        refine @LoginState.Sound.passed _ _ _ _ _ password hretained ?_
        rw [LoginState.guesses] at hroom ⊢
        dsimp only at hroom ⊢
        rw [List.countP_cons_of_neg (by simp [Login.pending]),
          List.countP_cons_of_neg (by simp [Login.unrecorded])] at hroom
        exact hroom
      · refine hretained.moved (s := { s with failures := retainRecent s.now s.failures }) ?_ ?_
        · exact (List.sublist_cons_self _ _).countP_le
        · exact Nat.le_of_eq (List.countP_cons_of_neg (by simpa [Login.pending] using hwrong))
    · have hreject : rejectIfAuthRateLimited s.now s.failures =
          (false, retainRecent s.now s.failures) := by
        simp [rejectIfAuthRateLimited, hpass]
      rw [LoginState.advance]
      dsimp only
      rw [hreject]
      exact hretained
  | lookup =>
    rw [LoginState.advance]
    dsimp only
    split
    · rename_i hash hfound
      have hstored : storedHash = some hash := by
        cases stored with
        | true => exact hfound
        | false => cases hfound
      refine LoginState.Sound.moved (s := s) hs ?_ ?_
      · rw [List.countP_cons_of_neg (by simp [Login.unrecorded])]
        exact (List.sublist_cons_self _ _).countP_le
      · rw [List.countP_cons, List.countP_cons]
        have hsame : Login.pending verifyPassword storedHash ⟨password, .verify hash⟩ =
            Login.pending verifyPassword storedHash ⟨password, .lookup⟩ := by
          simp [Login.pending, hstored]
        exact Nat.le_of_eq (by rw [hsame])
    · exact hs.left rfl
  | verify hash =>
    rw [LoginState.advance]
    dsimp only
    cases haccepted : verifyPassword hash password with
    | true =>
      have hleft : { s with logins := rest }.Sound verifyPassword storedHash := hs.left rfl
      refine (@LoginState.Sound.moved _ _ _ _ (s.compare true) rest) hleft.accepted ?_ ?_
      · exact (List.sublist_cons_self _ _).countP_le
      · exact Nat.le_of_eq (List.countP_cons_of_neg (by simp [Login.pending]))
    | false => exact hs.refused (by simp [Login.pending, haccepted]) rfl
  | audit =>
    have hstored : stored = true := hg
    rw [LoginState.advance, hstored]
    exact LoginState.Sound.moved (s := s) hs
      (by simp [List.countP_cons, Login.unrecorded]) (by simp [Login.pending])
  | record => exact hs.recordedNow
  | clear =>
    have hleft : { s with logins := rest }.Sound verifyPassword storedHash := hs.left rfl
    exact hleft.cleared

/-! ## 6. Runs -/

theorem perm_cons_eraseIdx {logins : List (Login Password Hash)} {i : Nat}
    (h : logins[i]? = some login) : logins.Perm (login :: logins.eraseIdx i) := by
  obtain ⟨hi, rfl⟩ := List.getElem?_eq_some_iff.mp h
  exact (List.getElem_cons_eraseIdx_perm hi).symm

/-- **A careful step keeps the limit.** -/
theorem LoginState.Sound.step {a : LoginAction Password} {t : LoginState Password Hash}
    (hs : s.Sound verifyPassword storedHash) (hc : s.Careful verifyPassword storedHash a)
    (h : s.step verifyPassword storedHash a = some t) : t.Sound verifyPassword storedHash := by
  cases a with
  | arrive password =>
    obtain rfl := Option.some.inj h
    exact (@LoginState.Sound.moved _ _ _ _ s s.logins) hs
      (List.sublist_cons_self _ _).countP_le
      (Nat.le_of_eq (List.countP_cons_of_neg (by simp [Login.pending])))
  | step i time stored =>
    rw [LoginState.step] at h
    split at h
    · rename_i htime
      obtain ⟨login, hlogin, rfl⟩ := Option.map_eq_some_iff.mp h
      have hperm := perm_cons_eraseIdx hlogin
      have hlater := @LoginState.Sound.perm _ _ _ _ _ (hs.later htime) (login :: s.logins.eraseIdx
          i) hperm
      refine LoginState.Sound.advance (s := { s with now := time }) hlater ?_
      -- what is counted does not depend on the order of the logins
      have hguarded := hc login hlogin
      unfold LoginState.Guarded LoginState.guesses at hguarded ⊢
      rwa [hperm.countP_eq, hperm.countP_eq] at hguarded
    · cases h
  | drop i =>
    rw [LoginState.step] at h
    split at h
    · rename_i hi
      obtain rfl := Option.some.inj h
      have hlogin : s.logins[i]? = some s.logins[i] := List.getElem?_eq_getElem hi
      exact (hs.perm (perm_cons_eraseIdx hlogin)).left (hc _ hlogin)
    · cases h

/-- Core when it starts: no login, no failure, nothing compared. -/
structure LoginState.Started (s : LoginState Password Hash) : Prop where
  logins : s.logins = []
  compared : s.compared = []
  succeeded : s.succeeded = []

theorem LoginState.Started.sound (hs : s.Started) : s.Sound verifyPassword storedHash := by
  have hsince : ∀ start, s.wrongSince start = 0 := fun start => by
    rw [LoginState.wrongSince, hs.compared, List.countP_nil]
  refine ⟨⟨by simp [hs.compared], by simp [hs.succeeded]⟩, fun start _ => ?_, fun start _ => ?_,
    fun start _ => ?_⟩
  · rw [hsince]
    exact Nat.zero_le _
  · rw [hsince, hs.logins, List.countP_nil]
    exact Nat.zero_le _
  · exact Nat.le_trans (wrongWithin_le_wrongSince start) (by rw [hsince]; exact Nat.zero_le _)

/-- **In a run whose steps are careful, no window without a success has more wrong passwords
    compared than the limit.** -/
theorem logins_throttled (hs : s.Started) {actions : List (LoginAction Password)}
    (hcareful : Meets (LoginState.step verifyPassword storedHash)
      (LoginState.Careful verifyPassword storedHash) s actions) :
    Throughout (LoginState.step verifyPassword storedHash) LoginState.Throttled s actions := by
  intro before after t hactions ht
  subst hactions
  exact (run_inv_of_meets (LoginState.Sound verifyPassword storedHash)
    (fun _ _ _ hI hC h => hI.step hC h) hs.sound (Meets.append_left hcareful) ht).throttled

end Model

/-! ## 7. Guesses side by side -/

namespace Guesses

/-- Passwords and hashes are numbers, the hash of a password is the password. -/
def step : LoginState Nat Nat → LoginAction Nat → Option (LoginState Nat Nat) :=
  LoginState.step (fun hash password => hash == password) (some 7)

def idle : LoginState Nat Nat := { now := 0 }

/-- A login that arrives and takes so many steps. -/
def alone (steps password : Nat) : List (LoginAction Nat) :=
  .arrive password :: List.replicate steps (.step 0 password true)

/-- Two wrong passwords, the right one, and another wrong one. -/
def oneByOne : List (LoginAction Nat) := alone 5 5 ++ alone 5 6 ++ alone 4 7 ++ alone 5 8

/-- Guesses that arrive together. Each step is taken by all of them before the next one. -/
def sideBySide (guesses : Nat) : List (LoginAction Nat) :=
  (List.range guesses).map (fun n => .arrive (n + 8)) ++
    (List.replicate (3 * guesses) (.step (guesses - 1) 1 true))

theorem logins_throttled_oneByOne :
    Throughout step LoginState.Throttled idle oneByOne ∧
      (run step idle oneByOne).map (fun s => (s.failures, s.succeeded)) =
        some ([8], [7]) := by
  have hcareful : Meets step
      (LoginState.Careful (fun hash password => hash == password) (some 7)) idle oneByOne :=
    meets_of_check (fun _ => True) (fun _ _ _ _ _ => trivial)
      (c := fun s a => decide (s.Careful (fun hash password => hash == password) (some 7) a))
      (fun _ _ _ h => of_decide_eq_true h) trivial (by decide)
  exact ⟨logins_throttled ⟨rfl, rfl, rfl⟩ hcareful, by decide⟩

/-- **Eleven guesses that arrive together all pass the check, and all are compared.** -/
theorem sideBySide_not_throttled :
    ¬ ∀ actions, Throughout step LoginState.Throttled idle actions := by
  intro h
  obtain ⟨t, ht⟩ : ∃ t, run step idle (sideBySide 11) = some t :=
    Option.isSome_iff_exists.mp (by decide)
  have hthrottled := h (sideBySide 11) (sideBySide 11) [] t (List.append_nil _).symm ht
  have hcompared : (run step idle (sideBySide 11)).map (fun s => (s.succeeded, s.wrongWithin 0)) =
      some ([], 11) := by decide
  rw [ht, Option.map_some, Option.some.injEq, Prod.mk.injEq] at hcompared
  have hlimit := hthrottled 0 (by simp [hcompared.1])
  rw [hcompared.2] at hlimit
  exact absurd hlimit (by decide)

end Guesses

end Uprava.Core.WebLogin
