/-
  File:      Uprava/Lib/Counter.lean
  Subject:   Families of counters: numbers taken one after the other, counters that are copied,
             moved on in the copy and merged back by their maximum, and what keeps the numbers of
             several copies apart.

  * `Numbered`    -- a list of items took its numbers, in order, from a family of counters;
  * `Allocator`   -- workers that took numbers from copies, the items that are out, and the
                     owner's counters;
  * `Allocator.Sound` -- the invariant: no two items of one key and one number.

  A worker's numbers are safe when, at the moment it takes them, no other worker holds numbers of
  the same keys and nothing that is out lies above the owner's counter (`Allocator.Free`). Workers
  that are dropped after an item of theirs got out are the ones that break the second part.
-/
import Mathlib.Logic.Function.Basic
import Uprava.Lib.Assoc

namespace Uprava.Lib

universe u v w

/-! ## 1. Counters kept in a map -/

namespace Assoc

variable {κ : Type u} [DecidableEq κ]

/-- The counter of a key; a key without an entry stands at zero. -/
def count (m : Assoc κ Int) (k : κ) : Int := (m.lookup k).getD 0

/-- The counter of `k` moves on by one. -/
def bump (m : Assoc κ Int) (k : κ) : Assoc κ Int := m.insert k (m.count k + 1)

theorem count_bump (m : Assoc κ Int) (k : κ) :
    (m.bump k).count = Function.update m.count k (m.count k + 1) := by
  funext k'
  unfold bump count
  rw [lookup_insert']
  by_cases h : k' = k
  · subst h
    simp
  · rw [if_neg h, Function.update_of_ne h]

/-- A counter that moved on is still there. -/
theorem lookup_of_bump {m : Assoc κ Int} {k k' : κ} (h : (m.bump k).lookup k' = none) :
    m.lookup k' = none := by
  rw [bump, lookup_insert'] at h
  split at h
  · cases h
  · exact h

theorem count_eq_of_lookup {m m' : Assoc κ Int} {k : κ} (h : m.lookup k = m'.lookup k) :
    m.count k = m'.count k := by
  rw [count, count, h]

/-- One entry of the copy, if it changed, raises the owner's counter. -/
def raiseKey (baseline : Assoc κ Int) (owner : Assoc κ Int) (e : Sigma fun _ : κ => Int) :
    Assoc κ Int :=
  if baseline.lookup e.1 ≠ some e.2 then owner.insert e.1 (max (owner.count e.1) e.2) else owner

/-- The owner's counters, raised to those of the copy that changed. -/
def mergeMax (owner baseline candidate : Assoc κ Int) : Assoc κ Int :=
  candidate.entries.foldl (raiseKey baseline) owner

theorem lookup_raiseKey (baseline owner : Assoc κ Int) (e : Sigma fun _ : κ => Int) (k : κ) :
    (raiseKey baseline owner e).lookup k =
      if k = e.1 ∧ baseline.lookup e.1 ≠ some e.2 then some (max (owner.count e.1) e.2)
      else owner.lookup k := by
  unfold raiseKey
  by_cases h : baseline.lookup e.1 = some e.2
  · rw [if_neg (not_not.mpr h), if_neg fun hk => hk.2 h]
  · rw [if_pos h, lookup_insert']
    by_cases hk : k = e.1
    · rw [if_pos hk, if_pos ⟨hk, h⟩]
    · rw [if_neg hk, if_neg fun hk' => hk hk'.1]

theorem lookup_foldl_raiseKey (baseline : Assoc κ Int) (es : List (Sigma fun _ : κ => Int))
    (hes : (es.map Sigma.fst).Nodup) (owner : Assoc κ Int) (k : κ) :
    (es.foldl (raiseKey baseline) owner).lookup k =
      match es.dlookup k with
      | some n => if baseline.lookup k ≠ some n then some (max (owner.count k) n)
          else owner.lookup k
      | none => owner.lookup k := by
  induction es generalizing owner with
  | nil => rfl
  | cons e es ih =>
    obtain ⟨he, hes'⟩ := List.nodup_cons.mp hes
    rw [List.foldl_cons, ih hes']
    by_cases hk : k = e.1
    · subst hk
      have hnone : es.dlookup e.1 = none := List.dlookup_eq_none.mpr he
      rw [hnone, List.dlookup_cons_eq, lookup_raiseKey]
      by_cases hb : baseline.lookup e.1 = some e.2
      · simp [hb]
      · simp [hb]
    · have hlookup : (raiseKey baseline owner e).lookup k = owner.lookup k := by
        rw [lookup_raiseKey, if_neg fun h => hk h.1]
      rw [List.dlookup_cons_ne _ _ hk, count_eq_of_lookup hlookup, hlookup]

/-- What the owner's counter becomes, from the worker's before and after. -/
def raised (baseline candidate owner : Option Int) : Option Int :=
  match candidate with
  | some n => if baseline ≠ some n then some (max (owner.getD 0) n) else owner
  | none => owner

theorem lookup_mergeMax (owner baseline candidate : Assoc κ Int) (k : κ) :
    (mergeMax owner baseline candidate).lookup k =
      raised (baseline.lookup k) (candidate.lookup k) (owner.lookup k) := by
  have h := lookup_foldl_raiseKey baseline candidate.entries candidate.nodupKeys owner k
  exact h

/-- Counters are raised in either order. -/
theorem raised_comm (b₁ c₁ b₂ c₂ owner : Option Int) :
    raised b₂ c₂ (raised b₁ c₁ owner) = raised b₁ c₁ (raised b₂ c₂ owner) := by
  unfold raised
  cases c₁ with
  | none => rfl
  | some n₁ =>
    cases c₂ with
    | none => rfl
    | some n₂ =>
      by_cases h₁ : b₁ = some n₁
      · simp [h₁]
      · by_cases h₂ : b₂ = some n₂
        · simp [h₂]
        · simp [h₁, h₂, Int.max_comm n₁ n₂]

/-- A counter of the worker that brings nothing: it did not move, or the owner's is there already. -/
theorem raised_of_le {baseline candidate owner : Option Int}
    (h : ∀ n, candidate = some n → baseline = some n ∨ ∃ m, owner = some m ∧ n ≤ m) :
    raised baseline candidate owner = owner := by
  unfold raised
  cases candidate with
  | none => rfl
  | some n =>
    rcases h n rfl with hb | ⟨m, rfl, hle⟩
    · simp [hb]
    · simp [Int.max_eq_left hle]

/-- **The merge, counter by counter**: it never goes below either side, provided the copy started
    at or below the owner and dropped no counter. -/
theorem count_mergeMax {owner baseline candidate : Assoc κ Int} {k : κ}
    (hle : baseline.count k ≤ owner.count k)
    (hkeep : candidate.lookup k = none → baseline.lookup k = none) :
    (mergeMax owner baseline candidate).count k = max (owner.count k) (candidate.count k) := by
  have h := lookup_foldl_raiseKey baseline candidate.entries candidate.nodupKeys owner k
  have hd : candidate.entries.dlookup k = candidate.lookup k := rfl
  rw [hd] at h
  unfold count at *
  change (mergeMax owner baseline candidate).lookup k = _ at h
  rw [h]
  cases hc : candidate.lookup k with
  | none =>
    have hb := hkeep hc
    simp only [hb, Option.getD_none] at hle ⊢
    omega
  | some n =>
    by_cases hb : baseline.lookup k = some n
    · simp only [hb, Option.getD_some, ne_eq, not_true_eq_false, if_false] at *
      omega
    · simp [hb]

end Assoc

/-! ## 2. Items that took their numbers in order -/

section Numbered

variable {κ : Type u} {ε : Type v} [DecidableEq κ] (key : ε → Option κ) (num : ε → Int)

/-- `es` took its numbers, in order, from counters that stood at `c` and now stand at `c'`. -/
inductive Numbered : (κ → Int) → List ε → (κ → Int) → Prop
  | nil (c : κ → Int) : Numbered c [] c
  | cons {c c' : κ → Int} {e : ε} {es : List ε} {k : κ} (hkey : key e = some k)
      (hnum : num e = c k + 1) (hrest : Numbered (Function.update c k (c k + 1)) es c') :
      Numbered c (e :: es) c'

variable {key num} {c c' c'' : κ → Int} {es es' : List ε}

theorem Numbered.append (h : Numbered key num c es c') (h' : Numbered key num c' es' c'') :
    Numbered key num c (es ++ es') c'' := by
  induction h with
  | nil c => exact h'
  | cons hkey hnum _ ih => exact .cons hkey hnum (ih h')

theorem Numbered.exists_key (h : Numbered key num c es c') {e : ε} (he : e ∈ es) :
    ∃ k, key e = some k := by
  induction h with
  | nil c => cases he
  | cons hkey hnum _ ih =>
    rcases List.mem_cons.mp he with rfl | he
    · exact ⟨_, hkey⟩
    · exact ih he

theorem Numbered.mono (h : Numbered key num c es c') (k : κ) : c k ≤ c' k := by
  induction h with
  | nil c => exact Int.le_refl _
  | @cons c c' e es k₀ hkey hnum _ ih =>
    refine Int.le_trans ?_ ih
    by_cases hk : k = k₀
    · subst hk
      rw [Function.update_self]
      omega
    · exact Int.le_of_eq (Function.update_of_ne hk _ _).symm

theorem Numbered.lt (h : Numbered key num c es c') {e : ε} {k : κ} (he : e ∈ es)
    (hk : key e = some k) : c k < num e := by
  induction h with
  | nil c => cases he
  | @cons c c' e₀ es k₀ hkey hnum hrest ih =>
    rcases List.mem_cons.mp he with rfl | he
    · obtain rfl : k₀ = k := Option.some.inj (hkey.symm.trans hk)
      omega
    · have hlt := ih he
      by_cases hkk : k = k₀
      · subst hkk
        rw [Function.update_self] at hlt
        omega
      · rwa [Function.update_of_ne hkk] at hlt

theorem Numbered.le (h : Numbered key num c es c') {e : ε} {k : κ} (he : e ∈ es)
    (hk : key e = some k) : num e ≤ c' k := by
  induction h with
  | nil c => cases he
  | @cons c c' e₀ es k₀ hkey hnum hrest ih =>
    rcases List.mem_cons.mp he with rfl | he
    · obtain rfl : k₀ = k := Option.some.inj (hkey.symm.trans hk)
      have hmono := hrest.mono k₀
      rw [Function.update_self] at hmono
      omega
    · exact ih he

/-- A key no item has keeps its counter. -/
theorem Numbered.eq_of_ne (h : Numbered key num c es c') {k : κ}
    (hk : ∀ e ∈ es, key e ≠ some k) : c' k = c k := by
  induction h with
  | nil c => rfl
  | @cons c c' e es k₀ hkey hnum _ ih =>
    have hne : k ≠ k₀ := fun h => hk e List.mem_cons_self (h ▸ hkey)
    rw [ih fun e' he' => hk e' (List.mem_cons_of_mem _ he'), Function.update_of_ne hne]

/-- **No two items of one key have one number.** -/
theorem Numbered.injective (h : Numbered key num c es c') {e e' : ε} (he : e ∈ es) (he' : e' ∈ es)
    (hkey : key e = key e') (hnum : num e = num e') : e = e' := by
  induction h with
  | nil c => cases he
  | @cons c c' e₀ es k₀ hkey₀ hnum₀ hrest ih =>
    -- an item of the rest lies above the first one
    have habove : ∀ x ∈ es, key x = some k₀ → num e₀ < num x := fun x hx hxk => by
      have hlt := hrest.lt hx hxk
      rw [Function.update_self] at hlt
      omega
    rcases List.mem_cons.mp he with rfl | hes
    · rcases List.mem_cons.mp he' with rfl | hes'
      · rfl
      · have hlt := habove e' hes' (hkey ▸ hkey₀)
        omega
    · rcases List.mem_cons.mp he' with rfl | hes'
      · have hlt := habove e hes (hkey.trans hkey₀)
        omega
      · exact ih hes hes'

/-- **Every number between the two positions of a counter was taken.** -/
theorem Numbered.surjective (h : Numbered key num c es c') {k : κ} {n : Int} (hlt : c k < n)
    (hle : n ≤ c' k) : ∃ e ∈ es, key e = some k ∧ num e = n := by
  induction h with
  | nil c => omega
  | @cons c c' e₀ es k₀ hkey hnum hrest ih =>
    by_cases hk : k = k₀
    · subst hk
      by_cases hn : n = c k + 1
      · exact ⟨e₀, List.mem_cons_self, hkey, hnum.trans hn.symm⟩
      · have hlt' : Function.update c k (c k + 1) k < n := by
          rw [Function.update_self]
          omega
        obtain ⟨e, he, hek, hen⟩ := ih hlt' hle
        exact ⟨e, List.mem_cons_of_mem _ he, hek, hen⟩
    · have hlt' : Function.update c k₀ (c k₀ + 1) k < n := by rwa [Function.update_of_ne hk]
      obtain ⟨e, he, hek, hen⟩ := ih hlt' hle
      exact ⟨e, List.mem_cons_of_mem _ he, hek, hen⟩

theorem Numbered.nodup (h : Numbered key num c es c') : es.Nodup := by
  induction h with
  | nil c => exact List.nodup_nil
  | @cons c c' e₀ es k₀ hkey hnum hrest ih =>
    refine List.nodup_cons.mpr ⟨fun he => ?_, ih⟩
    have hlt := hrest.lt he hkey
    rw [Function.update_self] at hlt
    omega

end Numbered

/-! ## 3. Workers with copies of the counters -/

/-- The owner's counters, the items each worker took numbers for and has not merged back, and the
    items that are out. -/
structure Allocator (ι : Type u) (κ : Type v) (ε : Type w) where
  counter : κ → Int
  active : ι → List ε
  seen : ε → Prop

namespace Allocator

variable {ι : Type u} {κ : Type v} {ε : Type w} (key : ε → Option κ) (num : ε → Int)

/-- An item some worker holds or that is out. -/
def Known (a : Allocator ι κ ε) (e : ε) : Prop := a.seen e ∨ ∃ i, e ∈ a.active i

/-- **No two known items of one key have one number**; the items of a worker lie above the owner's
    counters, and no two workers hold items of one key. -/
structure Sound (a : Allocator ι κ ε) : Prop where
  unique : ∀ e e' k, a.Known e → a.Known e' → key e = some k → key e' = some k → num e = num e' →
    e = e'
  above : ∀ i, ∀ e ∈ a.active i, ∀ k, key e = some k → a.counter k < num e
  apart : ∀ i j, i ≠ j → ∀ e ∈ a.active i, ∀ e' ∈ a.active j, ∀ k, key e = some k →
    key e' ≠ some k

/-- What is out lies at or below the owner's counters, or a worker still holds it. -/
def Covered (a : Allocator ι κ ε) : Prop :=
  ∀ e k, a.seen e → key e = some k → num e ≤ a.counter k ∨ ∃ i, e ∈ a.active i

/-- No other worker holds numbers of the keys of `es`. -/
def Unshared (a : Allocator ι κ ε) (es : List ε) : Prop :=
  ∀ e ∈ es, ∀ k, key e = some k → ∀ i, ∀ e' ∈ a.active i, key e' ≠ some k

/-- Nothing that is out lies above the owner's counters of the keys of `es`. -/
def Below (a : Allocator ι κ ε) (es : List ε) : Prop :=
  ∀ e ∈ es, ∀ k, key e = some k → ∀ e', a.seen e' → key e' = some k → num e' ≤ a.counter k

variable {key num} {a a' : Allocator ι κ ε} {es : List ε} {i : ι}

/-- Of items nobody shares, covered ones are below the counters. -/
theorem Covered.below (hc : a.Covered key num) (hu : a.Unshared key es) : a.Below key num es := by
  intro e he k hk e' he' hk'
  rcases hc e' k he' hk' with hle | ⟨i, hi⟩
  · exact hle
  · exact absurd hk' (hu e he k hk i e' hi)

/-- Workers may give up numbers, and what was known may get out. -/
theorem Sound.shrink (h : a.Sound key num) (hcounter : ∀ k, a'.counter k = a.counter k)
    (hactive : ∀ i, a'.active i ⊆ a.active i) (hseen : ∀ e, a'.seen e → a.Known e) :
    a'.Sound key num := by
  have hknown : ∀ e, a'.Known e → a.Known e := by
    rintro e (he | ⟨i, hi⟩)
    · exact hseen e he
    · exact Or.inr ⟨i, hactive i hi⟩
  refine ⟨fun e e' k he he' => h.unique e e' k (hknown e he) (hknown e' he'),
    fun i e he k hk => ?_, fun i j hij e he e' he' => ?_⟩
  · rw [hcounter]
    exact h.above i e (hactive i he) k hk
  · exact h.apart i j hij e (hactive i he) e' (hactive j he')

variable [DecidableEq ι]

/-- **A worker takes numbers** that nobody shares and nothing out lies above. -/
theorem Sound.take (h : a.Sound key num) (hi : a.active i = [])
    (habove : ∀ e ∈ es, ∀ k, key e = some k → a.counter k < num e)
    (hinj : ∀ e ∈ es, ∀ e' ∈ es, key e = key e' → num e = num e' → e = e')
    (hu : a.Unshared key es) (hb : a.Below key num es) :
    ({ a with active := Function.update a.active i es } : Allocator ι κ ε).Sound key num := by
  -- an item of `es` meets no item known before
  have hfresh : ∀ e ∈ es, ∀ k, key e = some k → ∀ e', a.Known e' → key e' = some k →
      num e ≠ num e' := by
    rintro e he k hk e' (he' | ⟨j, hj⟩) hk' heq
    · have hle := hb e he k hk e' he' hk'
      have hlt := habove e he k hk
      omega
    · exact hu e he k hk j e' hj hk'
  have hknown : ∀ e, ({ a with active := Function.update a.active i es } :
      Allocator ι κ ε).Known e → e ∈ es ∨ a.Known e := by
    rintro e (he | ⟨j, hj⟩)
    · exact Or.inr (Or.inl he)
    · by_cases hji : j = i
      · subst hji
        exact Or.inl (by simpa using hj)
      · exact Or.inr (Or.inr ⟨j, by simpa [Function.update_of_ne hji] using hj⟩)
  refine ⟨fun e e' k he he' hk hk' heq => ?_, fun j e he k hk => ?_, fun j l hjl e he e' he' k hk => ?_⟩
  · rcases hknown e he with he | he <;> rcases hknown e' he' with he' | he'
    · exact hinj e he e' he' (hk.trans hk'.symm) heq
    · exact absurd heq (hfresh e he k hk e' he' hk')
    · exact absurd heq.symm (hfresh e' he' k hk' e he hk)
    · exact h.unique e e' k he he' hk hk' heq
  · by_cases hji : j = i
    · subst hji
      exact habove e (by simpa using he) k hk
    · exact h.above j e (by simpa [Function.update_of_ne hji] using he) k hk
  · by_cases hji : j = i
    · subst hji
      have hl : l ≠ j := fun h => hjl h.symm
      exact hu e (by simpa using he) k hk l e' (by simpa [Function.update_of_ne hl] using he')
    · have he₀ : e ∈ a.active j := by simpa [Function.update_of_ne hji] using he
      by_cases hli : l = i
      · subst hli
        intro hk'
        exact hu e' (by simpa using he') k hk' j e he₀ hk
      · exact h.apart j l hjl e he₀ e' (by simpa [Function.update_of_ne hli] using he') k hk

/-- **A worker merges back**: its items are out, and the counters of its keys are raised to them. -/
theorem Sound.commit {c' : κ → Int} {seen' : ε → Prop} (h : a.Sound key num)
    (hother : ∀ k, (∀ e ∈ a.active i, key e ≠ some k) → c' k = a.counter k)
    (hseen : ∀ e, seen' e → a.Known e) :
    ({ counter := c', active := Function.update a.active i [], seen := seen' } :
      Allocator ι κ ε).Sound key num := by
  have hactive : ∀ j e, e ∈ Function.update a.active i [] j → j ≠ i ∧ e ∈ a.active j := by
    intro j e he
    by_cases hji : j = i
    · subst hji
      simp at he
    · exact ⟨hji, by simpa [Function.update_of_ne hji] using he⟩
  have hknown : ∀ e, ({ counter := c', active := Function.update a.active i [], seen := seen' } :
      Allocator ι κ ε).Known e → a.Known e := by
    rintro e (he | ⟨j, hj⟩)
    · exact hseen e he
    · exact Or.inr ⟨j, (hactive j e hj).2⟩
  refine ⟨fun e e' k he he' => h.unique e e' k (hknown e he) (hknown e' he'),
    fun j e he k hk => ?_, fun j l hjl e he e' he' => ?_⟩
  · -- the keys of another worker are not the keys of this one
    obtain ⟨hji, hj⟩ := hactive j e he
    show c' k < num e
    rw [hother k fun x hx hxk => h.apart i j (Ne.symm hji) x hx e hj k hxk hk]
    exact h.above j e hj k hk
  · exact h.apart j l hjl e (hactive j e he).2 e' (hactive l e' he').2

end Allocator

end Uprava.Lib
