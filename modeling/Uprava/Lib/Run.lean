/-
  File:      Uprava/Lib/Run.lean
  Subject:   Transition systems whose step is a partial function, their runs, and the rules by
             which a fact about one step becomes a fact about a run.

  A system is a function `step : σ → α → Option σ`; `none` means the action is not enabled. Four
  readings of "along a run" are used:

  * `run_inv`     -- an invariant kept by each enabled step holds at the end of every run;
  * `Always`      -- a relation holds between any two states of a run, the earlier first;
  * `Meets`       -- every step of a run meets a condition on its state and its action;
  * `Throughout`  -- a property holds in every state of a run.

  `always_iff_eachStep` reduces `Always` to single steps, and `always_iff_meets` to a condition
  that characterises single steps under an invariant.
-/
import Mathlib.Data.List.Basic

namespace Uprava.Lib

universe u v

variable {σ : Type u} {α : Type v}

/-! ## 1. Runs -/

/-- The state after a list of actions, `none` as soon as one of them is not enabled. -/
def run (step : σ → α → Option σ) : σ → List α → Option σ
  | s, [] => some s
  | s, a :: as => (step s a).bind fun t => run step t as

@[simp] theorem run_nil (step : σ → α → Option σ) (s : σ) : run step s [] = some s := rfl

@[simp] theorem run_cons (step : σ → α → Option σ) (s : σ) (a : α) (as : List α) :
    run step s (a :: as) = (step s a).bind fun t => run step t as := rfl

theorem run_append (step : σ → α → Option σ) (s : σ) (as bs : List α) :
    run step s (as ++ bs) = (run step s as).bind fun t => run step t bs := by
  induction as generalizing s with
  | nil => simp
  | cons a as ih =>
    simp only [List.cons_append, run_cons, Option.bind_assoc]
    congr 1
    funext t
    exact ih t

/-- A run of one more action, split at its head. -/
theorem run_cons_eq_some {step : σ → α → Option σ} {s u : σ} {a : α} {as : List α} :
    run step s (a :: as) = some u ↔ ∃ t, step s a = some t ∧ run step t as = some u := by
  simp [Option.bind_eq_some_iff]

theorem run_append_eq_some {step : σ → α → Option σ} {s u : σ} {as bs : List α} :
    run step s (as ++ bs) = some u ↔ ∃ t, run step s as = some t ∧ run step t bs = some u := by
  simp [run_append, Option.bind_eq_some_iff]

/-! ## 2. Invariants -/

/-- **An invariant kept by each enabled step holds at the end of every run.** -/
theorem run_inv {step : σ → α → Option σ} (I : σ → Prop)
    (hstep : ∀ s a t, I s → step s a = some t → I t) {s t : σ} {as : List α} (hs : I s)
    (h : run step s as = some t) : I t := by
  induction as generalizing s with
  | nil =>
    obtain rfl : s = t := by simpa using h
    exact hs
  | cons a as ih =>
    obtain ⟨u, ha, hu⟩ := run_cons_eq_some.mp h
    exact ih (hstep s a u hs ha) hu

/-! ## 3. Conditions on every step of a run -/

/-- Every step of the run of `as` from `s` meets `C`, a condition on the state before the step
    and the action. -/
def Meets (step : σ → α → Option σ) (C : σ → α → Prop) : σ → List α → Prop
  | _, [] => True
  | s, a :: as => C s a ∧ ∀ t, step s a = some t → Meets step C t as

@[simp] theorem meets_nil (step : σ → α → Option σ) (C : σ → α → Prop) (s : σ) :
    Meets step C s [] := trivial

/-- The condition of a step, read at any split of the run. -/
theorem Meets.holds {step : σ → α → Option σ} {C : σ → α → Prop} {s t : σ} {as bs : List α} {a : α}
    (h : Meets step C s (as ++ a :: bs)) (hr : run step s as = some t) : C t a := by
  induction as generalizing s with
  | nil =>
    obtain rfl : s = t := by simpa using hr
    exact h.1
  | cons b as ih =>
    obtain ⟨u, hb, hu⟩ := run_cons_eq_some.mp hr
    exact ih (h.2 u hb) hu

/-- A condition met at every split is met along the run. -/
theorem meets_of_split {step : σ → α → Option σ} {C : σ → α → Prop} {s : σ} {as : List α}
    (h : ∀ bs a cs t, as = bs ++ a :: cs → run step s bs = some t → C t a) :
    Meets step C s as := by
  induction as generalizing s with
  | nil => trivial
  | cons a as ih =>
    refine ⟨h [] a as s rfl rfl, fun t ht => ih fun bs b cs u hb hu => ?_⟩
    exact h (a :: bs) b cs u (by rw [hb]; rfl) (by simp [ht, hu])

/-- A run checked step by step. -/
def check (step : σ → α → Option σ) (c : σ → α → Bool) : σ → List α → Bool
  | _, [] => true
  | s, a :: as =>
    c s a && match step s a with
      | some t => check step c t as
      | none => true

/-- **A run that passes its check meets the condition**, where the check decides the condition in
    the states of an invariant. -/
theorem meets_of_check {step : σ → α → Option σ} {C : σ → α → Prop} {c : σ → α → Bool}
    (I : σ → Prop) (hinv : ∀ s a t, I s → step s a = some t → I t)
    (hc : ∀ s a, I s → c s a = true → C s a) {s : σ} {as : List α} (hs : I s)
    (h : check step c s as = true) : Meets step C s as := by
  induction as generalizing s with
  | nil => trivial
  | cons a as ih =>
    obtain ⟨ha, hrest⟩ := Bool.and_eq_true_iff.mp h
    refine ⟨hc s a hs ha, fun t ht => ih (hinv s a t hs ht) ?_⟩
    rw [ht] at hrest
    exact hrest

/-- Two conditions that are each met along a run are met together. -/
theorem Meets.and {step : σ → α → Option σ} {C D : σ → α → Prop} {s : σ} {as : List α}
    (hC : Meets step C s as) (hD : Meets step D s as) :
    Meets step (fun t a => C t a ∧ D t a) s as := by
  induction as generalizing s with
  | nil => trivial
  | cons a as ih => exact ⟨⟨hC.1, hD.1⟩, fun t ht => ih (hC.2 t ht) (hD.2 t ht)⟩

/-- Conditions that agree on every step are met along the same runs. -/
theorem meets_congr {step : σ → α → Option σ} {C D : σ → α → Prop} (h : ∀ s a, C s a ↔ D s a)
    {s : σ} {as : List α} : Meets step C s as ↔ Meets step D s as := by
  induction as generalizing s with
  | nil => exact Iff.rfl
  | cons a as ih => exact and_congr (h s a) (forall_congr' fun _ => imp_congr_right fun _ => ih)

/-- **An invariant kept by the steps that meet `C` holds at the end of a run that meets `C`.** -/
theorem run_inv_of_meets {step : σ → α → Option σ} {C : σ → α → Prop} (I : σ → Prop)
    (hstep : ∀ s a t, I s → C s a → step s a = some t → I t) {s t : σ} {as : List α} (hs : I s)
    (hC : Meets step C s as) (h : run step s as = some t) : I t := by
  induction as generalizing s with
  | nil =>
    obtain rfl : s = t := by simpa using h
    exact hs
  | cons a as ih =>
    obtain ⟨u, ha, hu⟩ := run_cons_eq_some.mp h
    exact ih (hstep s a u hs hC.1 ha) (hC.2 u ha) hu

/-- **Under an invariant that the steps meeting `C` keep, these steps have the property `P`.** -/
theorem Meets.of_inv {step : σ → α → Option σ} {C P : σ → α → Prop} (I : σ → Prop)
    (hstep : ∀ s a t, I s → C s a → step s a = some t → I t) (hP : ∀ s a, I s → C s a → P s a)
    {s : σ} {as : List α} (hs : I s) (h : Meets step C s as) : Meets step P s as := by
  induction as generalizing s with
  | nil => trivial
  | cons a as ih =>
    exact ⟨hP s a hs h.1, fun t ht => ih (hstep s a t hs h.1 ht) (h.2 t ht)⟩

/-- **Under an invariant, conditions that agree on its states are met along the same runs.** -/
theorem meets_iff_of_inv {step : σ → α → Option σ} {C D : σ → α → Prop} (I : σ → Prop)
    (hinv : ∀ s a t, I s → step s a = some t → I t) (h : ∀ s a, I s → (C s a ↔ D s a)) {s : σ}
    {as : List α} (hs : I s) : Meets step C s as ↔ Meets step D s as :=
  ⟨Meets.of_inv I (fun s a t hI _ => hinv s a t hI) (fun s a hI => (h s a hI).mp) hs,
    Meets.of_inv I (fun s a t hI _ => hinv s a t hI) (fun s a hI => (h s a hI).mpr) hs⟩

/-- **Along a run, whose steps are all enabled, a condition may be replaced by one that the enabled
    steps meet with it.** -/
theorem Meets.of_run {step : σ → α → Option σ} {C D : σ → α → Prop} (I : σ → Prop)
    (hinv : ∀ s a t, I s → step s a = some t → I t)
    (h : ∀ s a t, I s → step s a = some t → C s a → D s a) {s t : σ} {as : List α} (hs : I s)
    (hr : run step s as = some t) (hC : Meets step C s as) : Meets step D s as := by
  refine meets_of_split fun bs a cs u he hu => ?_
  subst he
  obtain ⟨u', hu', hrest⟩ := run_append_eq_some.mp hr
  obtain rfl : u = u' := by simpa [hu] using hu'
  obtain ⟨w, hw, -⟩ := run_cons_eq_some.mp hrest
  exact h u a w (run_inv I hinv hs hu) hw (hC.holds hu)

theorem meets_iff_of_run {step : σ → α → Option σ} {C D : σ → α → Prop} (I : σ → Prop)
    (hinv : ∀ s a t, I s → step s a = some t → I t)
    (h : ∀ s a t, I s → step s a = some t → (C s a ↔ D s a)) {s t : σ} {as : List α} (hs : I s)
    (hr : run step s as = some t) : Meets step C s as ↔ Meets step D s as :=
  ⟨Meets.of_run I hinv (fun s a t hI hst => (h s a t hI hst).mp) hs hr,
    Meets.of_run I hinv (fun s a t hI hst => (h s a t hI hst).mpr) hs hr⟩

/-- A condition on actions alone. -/
theorem meets_of_mem {step : σ → α → Option σ} {C : α → Prop} {s : σ} {as : List α}
    (h : ∀ a ∈ as, C a) : Meets step (fun _ a => C a) s as := by
  induction as generalizing s with
  | nil => trivial
  | cons a as ih =>
    exact ⟨h a List.mem_cons_self, fun t _ => ih fun b hb => h b (List.mem_cons_of_mem _ hb)⟩

theorem Meets.append_left {step : σ → α → Option σ} {C : σ → α → Prop} {s : σ} {as bs : List α}
    (h : Meets step C s (as ++ bs)) : Meets step C s as := by
  refine meets_of_split fun cs a ds t he ht => ?_
  have h' : Meets step C s (cs ++ a :: (ds ++ bs)) := by simpa [he] using h
  exact h'.holds ht

/-! ## 4. Relations between the states of a run -/

/-- `R` holds between any two states of the run of `as` from `s`, the earlier one first. -/
def Always (step : σ → α → Option σ) (R : σ → σ → Prop) (s : σ) (as : List α) : Prop :=
  ∀ bs cs ds t u, as = bs ++ cs ++ ds → run step s bs = some t → run step t cs = some u → R t u

/-- A reflexive and transitive relation that each single step of a run keeps holds between any
    two of its states. -/
theorem always_iff_eachStep {step : σ → α → Option σ} {R : σ → σ → Prop} (hrefl : ∀ s, R s s)
    (htrans : ∀ s t u, R s t → R t u → R s u) {s : σ} {as : List α} :
    Always step R s as ↔ Meets step (fun t a => ∀ u, step t a = some u → R t u) s as := by
  constructor
  · intro h
    refine meets_of_split fun bs a cs t hs ht u hu => ?_
    exact h bs [a] cs t u (by rw [hs]; simp) ht (by simp [hu])
  · rintro h bs cs ds t u rfl ht hu
    induction cs generalizing bs t with
    | nil =>
      obtain rfl : t = u := by simpa using hu
      exact hrefl t
    | cons c cs ih =>
      obtain ⟨v, hv, hr⟩ := run_cons_eq_some.mp hu
      rw [List.append_assoc, List.cons_append] at h
      have hc : R t v := h.holds ht v hv
      refine htrans t v u hc (ih (bs ++ [c]) v (by simpa using h) ?_ hr)
      exact run_append_eq_some.mpr ⟨t, ht, by simp [hv]⟩

/-- **`R` holds along a run exactly when its steps meet `C`**, where `C` characterises the single
    steps that keep `R` from the states of an invariant. -/
theorem always_iff_meets {step : σ → α → Option σ} {R : σ → σ → Prop} {C : σ → α → Prop}
    (I : σ → Prop) (hrefl : ∀ s, R s s) (htrans : ∀ s t u, R s t → R t u → R s u)
    (hinv : ∀ s a t, I s → step s a = some t → I t)
    (hstep : ∀ s a t, I s → step s a = some t → (R s t ↔ C s a)) {s t : σ} {as : List α}
    (hs : I s) (hr : run step s as = some t) :
    Always step R s as ↔ Meets step C s as := by
  rw [always_iff_eachStep hrefl htrans]
  refine meets_iff_of_run I hinv (fun s a t hI hst => ?_) hs hr
  rw [← hstep s a t hI hst]
  refine ⟨fun h => h t hst, fun h u hu => ?_⟩
  obtain rfl : t = u := by simpa [hst] using hu
  exact h

/-! ## 5. Relations and states together -/

/-- `G` holds in every state of the run of `as` from `s`. -/
def Throughout (step : σ → α → Option σ) (G : σ → Prop) (s : σ) (as : List α) : Prop :=
  ∀ bs cs t, as = bs ++ cs → run step s bs = some t → G t

theorem throughout_of_inv {step : σ → α → Option σ} (I : σ → Prop)
    (hstep : ∀ s a t, I s → step s a = some t → I t) {s : σ} {as : List α} (hs : I s) :
    Throughout step I s as := fun _ _ _ _ ht => run_inv I hstep hs ht

theorem Throughout.tail {step : σ → α → Option σ} {G : σ → Prop} {s t : σ} {a : α} {as : List α}
    (h : Throughout step G s (a :: as)) (ha : step s a = some t) : Throughout step G t as := by
  intro bs cs u he hu
  exact h (a :: bs) cs u (by rw [he, List.cons_append]) (by simp [ha, hu])

/-- **A relation holds along a run and a property in all of its states exactly when its steps meet
    `C`**, where `C` characterises the single steps that keep the relation and lead to the property,
    from the states of an invariant that have it. The invariant is only kept by these steps. -/
theorem always_throughout_iff_meets_of_kept {step : σ → α → Option σ} {R : σ → σ → Prop}
    {G : σ → Prop} {C : σ → α → Prop} (I : σ → Prop) (hrefl : ∀ s, R s s)
    (htrans : ∀ s t u, R s t → R t u → R s u)
    (hinv : ∀ s a t, I s → G s → step s a = some t → R s t → G t → I t)
    (hstep : ∀ s a t, I s → G s → step s a = some t → (R s t ∧ G t ↔ C s a)) {s t : σ}
    {as : List α} (hs : I s) (hg : G s) (hr : run step s as = some t) :
    Always step R s as ∧ Throughout step G s as ↔ Meets step C s as := by
  rw [always_iff_eachStep hrefl htrans]
  induction as generalizing s with
  | nil =>
    refine iff_of_true ⟨trivial, fun bs cs u he hu => ?_⟩ trivial
    obtain ⟨rfl, -⟩ := List.append_eq_nil_iff.mp he.symm
    obtain rfl : s = u := by simpa using hu
    exact hg
  | cons a as ih =>
    obtain ⟨u, ha, hu⟩ := run_cons_eq_some.mp hr
    constructor
    · intro ⟨heach, hall⟩
      have hgu : G u := hall [a] as u rfl (by simp [ha])
      refine ⟨(hstep s a u hs hg ha).mp ⟨heach.1 u ha, hgu⟩, fun v hv => ?_⟩
      obtain rfl : u = v := by simpa [ha] using hv
      exact (ih (hinv s a u hs hg ha (heach.1 u ha) hgu) hgu hu).mp ⟨heach.2 u ha, hall.tail ha⟩
    · intro hmeets
      obtain ⟨hru, hgu⟩ := (hstep s a u hs hg ha).mpr hmeets.1
      obtain ⟨heach, hall⟩ := (ih (hinv s a u hs hg ha hru hgu) hgu hu).mpr (hmeets.2 u ha)
      refine ⟨⟨fun v hv => ?_, fun v hv => ?_⟩, fun bs cs v he hv => ?_⟩
      · obtain rfl : u = v := by simpa [ha] using hv
        exact hru
      · obtain rfl : u = v := by simpa [ha] using hv
        exact heach
      · cases bs with
        | nil =>
          obtain rfl : s = v := by simpa using hv
          exact hg
        | cons b bs =>
          obtain ⟨rfl, rfl⟩ := List.cons.inj he
          rw [run_cons, ha] at hv
          exact hall bs cs v rfl hv

/-- The same for an invariant that every step keeps. -/
theorem always_throughout_iff_meets {step : σ → α → Option σ} {R : σ → σ → Prop} {G : σ → Prop}
    {C : σ → α → Prop} (I : σ → Prop) (hrefl : ∀ s, R s s)
    (htrans : ∀ s t u, R s t → R t u → R s u) (hinv : ∀ s a t, I s → step s a = some t → I t)
    (hstep : ∀ s a t, I s → G s → step s a = some t → (R s t ∧ G t ↔ C s a)) {s t : σ}
    {as : List α} (hs : I s) (hg : G s) (hr : run step s as = some t) :
    Always step R s as ∧ Throughout step G s as ↔ Meets step C s as :=
  always_throughout_iff_meets_of_kept I hrefl htrans
    (fun s a t hI _ ha _ _ => hinv s a t hI ha) hstep hs hg hr

/-- **A property holds in all states of a run exactly when its steps meet `C`**, where `C`
    characterises the single steps that lead from the property to the property, in the states of
    an invariant that the steps from the property keep. -/
theorem throughout_iff_meets_of_inv {step : σ → α → Option σ} {G : σ → Prop} {C : σ → α → Prop}
    (I : σ → Prop) (hinv : ∀ s a t, I s → G s → step s a = some t → I t)
    (hstep : ∀ s a t, I s → G s → step s a = some t → (G t ↔ C s a)) {s t : σ} {as : List α}
    (hs : I s) (hg : G s) (hr : run step s as = some t) :
    Throughout step G s as ↔ Meets step C s as := by
  rw [← always_throughout_iff_meets_of_kept (R := fun _ _ => True) (G := G) I (fun _ => trivial)
    (fun _ _ _ _ _ => trivial) (fun s a t hI hG h _ _ => hinv s a t hI hG h)
    (fun s a t hI hG h => (and_iff_right trivial).trans (hstep s a t hI hG h)) hs hg hr]
  exact ⟨fun h => ⟨fun _ _ _ _ _ _ _ _ => trivial, h⟩, And.right⟩

/-- The same without an invariant. -/
theorem throughout_iff_meets {step : σ → α → Option σ} {G : σ → Prop} {C : σ → α → Prop}
    (hstep : ∀ s a t, G s → step s a = some t → (G t ↔ C s a)) {s t : σ} {as : List α} (hg : G s)
    (hr : run step s as = some t) : Throughout step G s as ↔ Meets step C s as :=
  throughout_iff_meets_of_inv (fun _ => True) (fun _ _ _ _ _ _ => trivial)
    (fun s a t _ hG h => hstep s a t hG h) trivial hg hr

/-! ## 6. Patterns of actions -/

/-- What is left to see of a pattern after an action. -/
def feed [DecidableEq α] : List α → α → List α
  | [], _ => []
  | p :: ps, a => if p = a then ps else p :: ps

/-- **Where each state knows what it awaits of a pattern, a run that ends awaiting nothing is one
    whose actions have the pattern among them, in order.** -/
theorem run_awaits_iff [DecidableEq α] {step : σ → α → Option σ} (awaits : σ → List α)
    (I : σ → Prop) (hstep : ∀ s a t, I s → step s a = some t → I t ∧ awaits t = feed (awaits s) a)
    {s t : σ} {as : List α} (hs : I s) (h : run step s as = some t) :
    awaits t = [] ↔ (awaits s).Sublist as := by
  induction as generalizing s with
  | nil =>
    cases h
    exact List.sublist_nil.symm
  | cons a as ih =>
    obtain ⟨u, hu, h⟩ := run_cons_eq_some.mp h
    obtain ⟨hI, hfeed⟩ := hstep s a u hs hu
    rw [ih hI h, hfeed]
    cases awaits s with
    | nil => simp [feed]
    | cons p ps =>
      by_cases hp : p = a
      · simp [feed, hp]
      · simp [feed, hp, List.cons_sublist_cons']

end Uprava.Lib
