/-
  File:      Uprava/Lib/Table.lean
  Subject:   Relational tables: rows in insertion order, no two of which clash on a unique index.

  A schema says when two rows clash, which is the disjunction of the table's primary key and its
  unique indexes (a partial index is a clash guarded by its `where`). A table carries the proof
  that no two of its rows clash, so a state that violates an index cannot be built: an insert or
  an update that would violate one returns `none`, the failed statement of the database.
-/
import Mathlib.Order.Lattice
import Mathlib.Data.List.Basic
import Mathlib.Data.List.Pairwise
import Mathlib.Order.Defs.LinearOrder

namespace Uprava.Lib

universe u

/-- The unique indexes of a table, as the pairs of rows they keep apart. -/
class Schema (ρ : Type u) where
  clash : ρ → ρ → Prop
  dec : DecidableRel clash
  symm : ∀ {a b}, clash a b → clash b a

instance {ρ : Type u} [Schema ρ] : DecidableRel (Schema.clash (ρ := ρ)) := Schema.dec

/-- A table: its rows, and that its indexes hold. -/
@[ext] structure Table (ρ : Type u) [Schema ρ] where
  rows : List ρ
  unique : rows.Pairwise fun a b => ¬ Schema.clash a b

namespace Table

variable {ρ : Type u} [Schema ρ]

open Schema

instance [DecidableEq ρ] : DecidableEq (Table ρ) := fun s t =>
  decidable_of_iff (s.rows = t.rows) Table.ext_iff.symm

/-- The table without rows. -/
def empty : Table ρ := ⟨[], .nil⟩

instance : Inhabited (Table ρ) := ⟨empty⟩

@[simp] theorem rows_empty : (empty : Table ρ).rows = [] := rfl

/-- The rows a statement's `where` selects. -/
def select (t : Table ρ) (p : ρ → Bool) : List ρ := t.rows.filter p

/-- The first row a `where` selects. -/
def find? (t : Table ρ) (p : ρ → Bool) : Option ρ := t.rows.find? p

theorem mem_of_find? {t : Table ρ} {p : ρ → Bool} {r : ρ} (h : t.find? p = some r) : r ∈ t.rows :=
  List.mem_of_find?_eq_some h

theorem find?_pos {t : Table ρ} {p : ρ → Bool} {r : ρ} (h : t.find? p = some r) : p r = true :=
  List.find?_some h

/-! ## 1. Rows that clash are one row -/

/-- **Two rows of a table that agree on an index are the same row.** -/
theorem eq_of_clash {t : Table ρ} {a b : ρ} (ha : a ∈ t.rows) (hb : b ∈ t.rows)
    (h : clash a b) : a = b := by
  by_contra hab
  have hsymm : Std.Symm fun a b : ρ => ¬ clash a b := ⟨fun _ _ h h' => h (symm h')⟩
  exact t.unique.forall ha hb hab h

/-- A lookup whose `where` fixes an index finds every row that satisfies it. -/
theorem find?_of_mem {t : Table ρ} {p : ρ → Bool} {r : ρ} (hr : r ∈ t.rows) (hp : p r = true)
    (hkey : ∀ a, p a = true → clash a r) : t.find? p = some r := by
  cases hf : t.find? p with
  | none => exact absurd hp (by simpa using List.find?_eq_none.mp hf r hr)
  | some a => rw [eq_of_clash (mem_of_find? hf) hr (hkey a (find?_pos hf))]

/-! ## 2. Insert -/

/-- Does `r` clash with a row of the table? -/
def Clashes (t : Table ρ) (r : ρ) : Prop := ∃ a ∈ t.rows, clash a r

instance (t : Table ρ) (r : ρ) : Decidable (t.Clashes r) :=
  inferInstanceAs (Decidable (∃ a ∈ t.rows, clash a r))

/-- The table with `r` as its last row, which clashes with none of the others. -/
def push (t : Table ρ) (r : ρ) (h : ¬ t.Clashes r) : Table ρ where
  rows := t.rows ++ [r]
  unique := by
    refine List.pairwise_append.mpr ⟨t.unique, List.pairwise_singleton _ _, fun a ha b hb hab => ?_⟩
    obtain rfl : b = r := by simpa using hb
    exact h ⟨a, ha, hab⟩

/-- `insert into`: fails on a constraint when the row clashes with one that is there. -/
def insert? (t : Table ρ) (r : ρ) : Option (Table ρ) :=
  if h : t.Clashes r then none else some (t.push r h)

/-- What `max(column)` finds is not below any row's. -/
theorem le_foldl_max {α : Type u} [LinearOrder α] (l : List α) (n : α) :
    (∀ k ∈ l, k ≤ l.foldl max n) ∧ n ≤ l.foldl max n := by
  induction l generalizing n with
  | nil => exact ⟨fun k hk => (by cases hk), le_refl n⟩
  | cons m l ih =>
    obtain ⟨hl, hn⟩ := ih (max n m)
    rw [List.foldl_cons]
    refine ⟨fun k hk => ?_, le_trans (le_max_left n m) hn⟩
    rcases List.mem_cons.mp hk with rfl | hk
    · exact le_trans (le_max_right n k) hn
    · exact hl k hk

/-- `insert into … on conflict do nothing`. -/
def insertOrIgnore (t : Table ρ) (r : ρ) : Table ρ :=
  if h : t.Clashes r then t else t.push r h

@[simp] theorem rows_push (t : Table ρ) (r : ρ) (h : ¬ t.Clashes r) :
    (t.push r h).rows = t.rows ++ [r] := rfl

theorem find?_push (t : Table ρ) (r : ρ) (h : ¬ t.Clashes r) (p : ρ → Bool) :
    (t.push r h).find? p = (t.find? p).or (if p r then some r else none) := by
  unfold find?
  rw [rows_push, List.find?_append]
  cases hp : p r <;> simp [hp]

theorem select_push (t : Table ρ) (r : ρ) (h : ¬ t.Clashes r) (p : ρ → Bool) :
    (t.push r h).select p = t.select p ++ if p r then [r] else [] := by
  unfold select
  rw [rows_push, List.filter_append]
  cases hp : p r <;> simp [hp]

/-- The table with one row. -/
def single (r : ρ) : Table ρ := ⟨[r], List.pairwise_singleton ..⟩

@[simp] theorem rows_single (r : ρ) : (single r).rows = [r] := rfl

theorem find?_single (r : ρ) (p : ρ → Bool) :
    (single r).find? p = if p r then some r else none := by
  cases hp : p r <;> simp [find?, hp]

theorem insert?_eq_some {t t' : Table ρ} {r : ρ} :
    t.insert? r = some t' ↔ ¬ t.Clashes r ∧ t'.rows = t.rows ++ [r] := by
  unfold insert?
  split
  · rename_i h
    simp [h]
  · rename_i h
    simp only [Option.some.injEq, h, not_false_eq_true, true_and]
    rw [eq_comm, Table.ext_iff, rows_push]

theorem insert?_eq_none {t : Table ρ} {r : ρ} : t.insert? r = none ↔ t.Clashes r := by
  unfold insert?
  split <;> simp_all

theorem isSome_insert? {t : Table ρ} {r : ρ} : (t.insert? r).isSome ↔ ¬ t.Clashes r := by
  rw [← insert?_eq_none, Option.isSome_iff_ne_none]

/-- A row that meets no other is inserted. -/
theorem find?_insertOrIgnore {t : Table ρ} {r : ρ} (h : ¬ t.Clashes r) (p : ρ → Bool) :
    (t.insertOrIgnore r).find? p = (t.find? p).or (if p r then some r else none) := by
  unfold insertOrIgnore
  rw [dif_neg h, find?_push]

theorem find?_insertOrIgnore_of_pos {t : Table ρ} {r : ρ} {p : ρ → Bool} (h : ¬ t.Clashes r)
    (hp : p r = true) : (t.insertOrIgnore r).find? p = (t.find? p).or (some r) := by
  rw [find?_insertOrIgnore h, hp]
  rfl

/-- What such an insert adds is that row. -/
theorem find?_insertOrIgnore_of_neg {t : Table ρ} {r : ρ} {p : ρ → Bool} (h : p r = false) :
    (t.insertOrIgnore r).find? p = t.find? p := by
  unfold insertOrIgnore
  split
  · rfl
  · rw [find?_push, h]
    exact Option.or_none

theorem select_insert? {t t' : Table ρ} {r : ρ} (h : t.insert? r = some t') (p : ρ → Bool) :
    t'.select p = t.select p ++ if p r then [r] else [] := by
  unfold select
  rw [(insert?_eq_some.mp h).2, List.filter_append]
  cases hp : p r <;> simp [hp]

/-- What a `where` finds that the new row meets. -/
theorem find?_insert?_of_pos {t t' : Table ρ} {r : ρ} {p : ρ → Bool} (h : t.insert? r = some t')
    (hp : p r = true) : t'.find? p = (t.find? p).or (some r) := by
  unfold find?
  rw [(insert?_eq_some.mp h).2, List.find?_append, List.find?_singleton, hp]
  rfl

theorem select_insert?_of_pos {t t' : Table ρ} {r : ρ} {p : ρ → Bool}
    (h : t.insert? r = some t') (hp : p r = true) : t'.select p = t.select p ++ [r] := by
  rw [select_insert? h, hp]
  rfl

/-- What a `where` finds that the new row does not meet. -/
theorem find?_insert?_of_neg {t t' : Table ρ} {r : ρ} {p : ρ → Bool} (h : t.insert? r = some t')
    (hp : p r = false) : t'.find? p = t.find? p := by
  unfold find?
  rw [(insert?_eq_some.mp h).2, List.find?_append, List.find?_singleton, hp]
  exact Option.or_none

theorem select_insert?_of_neg {t t' : Table ρ} {r : ρ} {p : ρ → Bool}
    (h : t.insert? r = some t') (hp : p r = false) : t'.select p = t.select p := by
  rw [select_insert? h, hp]
  exact List.append_nil _

/-- What holds of every row, and of the new one. -/
theorem forall_insert? {t t' : Table ρ} {r : ρ} {P : ρ → Prop} (h : t.insert? r = some t')
    (ht : ∀ a ∈ t.rows, P a) (hr : P r) : ∀ a ∈ t'.rows, P a := by
  intro a ha
  rw [(insert?_eq_some.mp h).2] at ha
  rcases List.mem_append.mp ha with ha | ha
  · exact ht a ha
  · obtain rfl := List.mem_singleton.mp ha
    exact hr

theorem rows_insertOrIgnore (t : Table ρ) (r : ρ) :
    (t.insertOrIgnore r).rows = t.rows ∨ (t.insertOrIgnore r).rows = t.rows ++ [r] := by
  unfold insertOrIgnore
  split
  · exact Or.inl rfl
  · exact Or.inr rfl

theorem forall_insertOrIgnore {t : Table ρ} {r : ρ} {P : ρ → Prop} (ht : ∀ a ∈ t.rows, P a)
    (hr : P r) : ∀ a ∈ (t.insertOrIgnore r).rows, P a := by
  intro a ha
  rcases rows_insertOrIgnore t r with heq | heq
  · exact ht a (heq ▸ ha)
  · rw [heq] at ha
    rcases List.mem_append.mp ha with ha | ha
    · exact ht a ha
    · obtain rfl := List.mem_singleton.mp ha
      exact hr

theorem find?_insert? {t t' : Table ρ} {r : ρ} (h : t.insert? r = some t') (p : ρ → Bool) :
    t'.find? p = (t.find? p).or (if p r then some r else none) := by
  unfold find?
  rw [(insert?_eq_some.mp h).2, List.find?_append]
  cases hp : p r <;> simp [hp]

/-- A condition beside a key is asked of the row with the key. -/
theorem find?_and {t : Table ρ} {p q : ρ → Bool} (hkey : ∀ a b, p a → p b → clash a b) :
    t.find? (fun a => q a && p a) = (t.find? p).filter q := by
  cases hfind : t.find? p with
  | none =>
    refine List.find?_eq_none.mpr fun a ha hpos => ?_
    exact List.find?_eq_none.mp hfind a ha (Bool.and_eq_true _ _ ▸ hpos).2
  | some r =>
    have hr := mem_of_find? hfind
    have hp := find?_pos hfind
    cases hq : q r with
    | false =>
      rw [Option.filter_some_neg (by simp [hq])]
      refine List.find?_eq_none.mpr fun a ha hpos => ?_
      have hboth : q a = true ∧ p a = true := by simpa using hpos
      rw [eq_of_clash ha hr (hkey a r hboth.2 hp), hq] at hboth
      exact Bool.noConfusion hboth.1
    | true =>
      rw [Option.filter_some_pos hq]
      refine find?_of_mem hr (by simp [hq, hp]) fun a ha => ?_
      have hboth : q a = true ∧ p a = true := by simpa using ha
      exact hkey a r hboth.2 hp

/-- The order of the rows does not matter where a key is looked up. -/
theorem find?_of_perm {t : Table ρ} {rows : List ρ} {p : ρ → Bool} (hperm : rows.Perm t.rows)
    (hkey : ∀ a b, p a → p b → clash a b) : rows.find? p = t.find? p := by
  cases hfind : rows.find? p with
  | none =>
    refine (List.find?_eq_none.mpr fun a ha => ?_).symm
    exact List.find?_eq_none.mp hfind a (hperm.mem_iff.mpr ha)
  | some r =>
    have hr := hperm.mem_iff.mp (List.mem_of_find?_eq_some hfind)
    have hp := List.find?_some hfind
    exact (find?_of_mem hr hp fun a ha => hkey a r ha hp).symm

/-! ## 3. Update -/

/-- `f` leaves the indexed columns of a row as they are. -/
structure KeepsKeys (f : ρ → ρ) : Prop where
  clash_iff : ∀ a b, clash (f a) b ↔ clash a b

theorem KeepsKeys.clash_clash {f : ρ → ρ} (h : KeepsKeys f) (a b : ρ) :
    clash (f a) (f b) ↔ clash a b := by
  rw [h.clash_iff a (f b)]
  constructor
  · exact fun hab => symm ((h.clash_iff b a).mp (symm hab))
  · exact fun hab => symm ((h.clash_iff b a).mpr (symm hab))

theorem KeepsKeys.ite {f : ρ → ρ} (h : KeepsKeys f) (p : ρ → Bool) :
    KeepsKeys fun r => if p r then f r else r := by
  refine ⟨fun a b => ?_⟩
  cases hp : p a
  · simp only [Bool.false_eq_true, if_false]
  · simpa only [hp, if_true] using h.clash_iff a b

/-- `update … set … where`, on columns no index reads. -/
def update (t : Table ρ) (p : ρ → Bool) (f : ρ → ρ) (hf : KeepsKeys f) : Table ρ where
  rows := t.rows.map fun r => if p r then f r else r
  unique := by
    refine List.pairwise_map.mpr (t.unique.imp fun {a b} hab h => hab ?_)
    exact ((hf.ite p).clash_clash a b).mp h

/-- `update … set … where`, on rows that may leave an index but enter none. -/
def updateFreeing (t : Table ρ) (p : ρ → Bool) (f : ρ → ρ)
    (hf : ∀ a b, p a = true → clash (f a) b → clash a b) : Table ρ where
  rows := t.rows.map fun r => if p r then f r else r
  unique := by
    have hleft : ∀ a b, clash (if p a then f a else a) b → clash a b := by
      intro a b h
      split at h
      · rename_i hp
        exact hf a b hp h
      · exact h
    exact List.pairwise_map.mpr
      (t.unique.imp fun {a b} hab h => hab (symm (hleft b a (symm (hleft a _ h)))))

@[simp] theorem rows_updateFreeing (t : Table ρ) (p : ρ → Bool) (f : ρ → ρ)
    (hf : ∀ a b, p a = true → clash (f a) b → clash a b) :
    (t.updateFreeing p f hf).rows = t.rows.map fun r => if p r then f r else r := rfl

/-- `update … set … where`, on columns some index reads: fails when two rows clash afterwards. -/
def update? (t : Table ρ) (p : ρ → Bool) (f : ρ → ρ) : Option (Table ρ) :=
  if h : (t.rows.map fun r => if p r then f r else r).Pairwise fun a b => ¬ clash a b then
    some ⟨_, h⟩
  else none

/-- `delete from … where`. -/
def delete (t : Table ρ) (p : ρ → Bool) : Table ρ where
  rows := t.rows.filter fun r => !p r
  unique := t.unique.filter _

@[simp] theorem rows_update (t : Table ρ) (p : ρ → Bool) (f : ρ → ρ) (hf : KeepsKeys f) :
    (t.update p f hf).rows = t.rows.map fun r => if p r then f r else r := rfl

@[simp] theorem rows_delete (t : Table ρ) (p : ρ → Bool) :
    (t.delete p).rows = t.rows.filter fun r => !p r := rfl

theorem update?_eq_some {t t' : Table ρ} {p : ρ → Bool} {f : ρ → ρ} (h : t.update? p f = some t') :
    t'.rows = t.rows.map fun r => if p r then f r else r := by
  unfold update? at h
  split at h
  · cases h
    rfl
  · exact absurd h (by simp)

/-- **The update of one row succeeds exactly when the new row clashes with none of the others.** -/
theorem isSome_update?_iff {t : Table ρ} {p : ρ → Bool} {f : ρ → ρ} {r₀ : ρ}
    (hrefl : ∀ a : ρ, clash a a) (hr₀ : r₀ ∈ t.rows) (hp : ∀ r ∈ t.rows, p r = true ↔ r = r₀) :
    (t.update? p f).isSome ↔ ∀ a ∈ t.rows, a ≠ r₀ → ¬ clash a (f r₀) := by
  have hsome : (t.update? p f).isSome ↔
      (t.rows.map fun r => if p r then f r else r).Pairwise fun a b => ¬ clash a b := by
    unfold update?
    split <;> simp_all
  have hf : (if p r₀ then f r₀ else r₀) = f r₀ := if_pos ((hp r₀ hr₀).mpr rfl)
  have hid : ∀ a ∈ t.rows, a ≠ r₀ → (if p a then f a else a) = a := fun a ha hne =>
    if_neg fun hpa => hne ((hp a ha).mp hpa)
  rw [hsome, List.pairwise_map]
  constructor
  · intro h a ha hne hclash
    have hsymm : Std.Symm fun a b : ρ =>
        ¬ clash (if p a then f a else a) (if p b then f b else b) := ⟨fun _ _ h h' => h (symm h')⟩
    have hpair := h.forall ha hr₀ hne
    rw [hf, hid a ha hne] at hpair
    exact hpair hclash
  · intro h
    refine t.unique.imp_of_mem fun {a b} ha hb hab => ?_
    by_cases ha' : a = r₀ <;> by_cases hb' : b = r₀
    · subst ha'
      subst hb'
      exact absurd (hrefl _) hab
    · subst ha'
      rw [hf, hid b hb hb']
      exact fun hclash => h b hb hb' (symm hclash)
    · subst hb'
      rw [hf, hid a ha ha']
      exact h a ha ha'
    · rw [hid a ha ha', hid b hb hb']
      exact hab

/-- The keys of selected rows are different. -/
theorem nodup_select_map {α : Type*} {t : Table ρ} {p : ρ → Bool} {f : ρ → α}
    (hkey : ∀ a b, f a = f b → clash a b) : ((t.select p).map f).Nodup := by
  refine List.pairwise_map.mpr ((t.unique.filter p).imp fun {a b} hab heq => ?_)
  exact hab (hkey a b heq)

theorem nodup (t : Table ρ) (hrefl : ∀ a : ρ, clash a a) : t.rows.Nodup := by
  refine t.unique.imp fun {a b} hab => ?_
  rintro rfl
  exact hab (hrefl a)

omit [Schema ρ] in
/-- An update that selects one row replaces it where it stands. -/
theorem map_update_one {rows : List ρ} {p : ρ → Bool} {f : ρ → ρ} {r₀ : ρ} (hnodup : rows.Nodup)
    (hr₀ : r₀ ∈ rows) (hp : ∀ r ∈ rows, p r = true ↔ r = r₀) :
    ∃ l₁ l₂, rows = l₁ ++ r₀ :: l₂ ∧
      (rows.map fun r => if p r then f r else r) = l₁ ++ f r₀ :: l₂ := by
  obtain ⟨l₁, l₂, rfl⟩ := List.append_of_mem hr₀
  have hsame : ∀ l : List ρ, l ⊆ l₁ ++ r₀ :: l₂ → r₀ ∉ l →
      (l.map fun r => if p r then f r else r) = l := by
    intro l hl hnot
    refine (List.map_congr_left fun r hr => ?_).trans (List.map_id _)
    exact if_neg fun hpr => hnot ((hp r (hl hr)).mp hpr ▸ hr)
  have hnot : r₀ ∉ l₁ ++ l₂ := (List.nodup_cons.mp (List.perm_middle.nodup_iff.mp hnodup)).1
  have h₁ : r₀ ∉ l₁ := fun h => hnot (List.mem_append_left _ h)
  have h₂ : r₀ ∉ l₂ := fun h => hnot (List.mem_append_right _ h)
  refine ⟨l₁, l₂, rfl, ?_⟩
  rw [List.map_append, List.map_cons, hsame l₁ (List.subset_append_left _ _) h₁,
    hsame l₂ (fun x hx => List.mem_append_right _ (List.mem_cons_of_mem _ hx)) h₂,
    if_pos ((hp r₀ hr₀).mpr rfl)]

/-- A lookup in the image of a table reads the image of the row, when the map keeps the lookup's
    `where`. -/
theorem find?_map_rows {t t' : Table ρ} {g : ρ → ρ} (h : t'.rows = t.rows.map g) {q : ρ → Bool}
    (hq : ∀ r, q (g r) = q r) : t'.find? q = (t.find? q).map g := by
  unfold find?
  rw [h, List.find?_map]
  congr 2
  funext r
  exact hq r

theorem find?_update (t : Table ρ) (p q : ρ → Bool) (f : ρ → ρ) (hf : KeepsKeys f)
    (hq : ∀ r, q (f r) = q r) :
    (t.update p f hf).find? q = (t.find? q).map fun r => if p r then f r else r := by
  refine find?_map_rows (rows_update t p f hf) fun r => ?_
  split
  · exact hq r
  · rfl

theorem find?_updateFreeing (t : Table ρ) (p q : ρ → Bool) (f : ρ → ρ)
    (hf : ∀ a b, p a = true → clash (f a) b → clash a b) (hq : ∀ r, q (f r) = q r) :
    (t.updateFreeing p f hf).find? q = (t.find? q).map fun r => if p r then f r else r := by
  refine find?_map_rows (rows_updateFreeing t p f hf) fun r => ?_
  split
  · exact hq r
  · rfl

/-- **A filter sees nothing of an update exactly when each row that is in it, before or after,
    stays the same.** The updated columns leave some index of the table alone. -/
theorem filter_map_eq_iff {t : Table ρ} {g : ρ → ρ} {q : ρ → Bool}
    (hkey : ∀ a b, a = g b → clash a b) :
    (t.rows.map g).filter q = t.rows.filter q ↔
      ∀ r ∈ t.rows, (q r = true ∨ q (g r) = true) → g r = r := by
  constructor
  · intro h r hr hq
    rcases hq with hq | hq
    · -- the row is in the filter before, so some row of the table became it
      have hmem : r ∈ (t.rows.map g).filter q := by
        rw [h]
        exact List.mem_filter.mpr ⟨hr, hq⟩
      obtain ⟨b, hb, hgb⟩ := List.mem_map.mp (List.mem_filter.mp hmem).1
      obtain rfl : r = b := eq_of_clash hr hb (hkey r b hgb.symm)
      exact hgb
    · -- the image is in the filter after, so it is a row of the table
      have hmem : g r ∈ t.rows.filter q := by
        rw [← h]
        exact List.mem_filter.mpr ⟨List.mem_map_of_mem hr, hq⟩
      exact eq_of_clash (List.mem_filter.mp hmem).1 hr (hkey (g r) r rfl)
  · intro h
    generalize t.rows = rows at h
    induction rows with
    | nil => rfl
    | cons r rows ih =>
      have ih' := ih fun r' hr' => h r' (List.mem_cons_of_mem _ hr')
      rw [List.map_cons, List.filter_cons, List.filter_cons, ih']
      by_cases hq : q r = true ∨ q (g r) = true
      · rw [h r List.mem_cons_self hq]
      · have hr : q r = false := by simpa using fun hr => hq (Or.inl hr)
        have hg : q (g r) = false := by simpa using fun hg => hq (Or.inr hg)
        rw [hr, hg]
        rfl

/-- The same for a filter on columns the map keeps, and a map that changes named rows only. -/
theorem filter_map_eq_iff_of_keeps {t : Table ρ} {g : ρ → ρ} {q : ρ → Bool} {P : ρ → Prop}
    (hkey : ∀ a b, a = g b → clash a b) (hq : ∀ r, q (g r) = q r)
    (hP : ∀ r, ¬ P r → g r = r) :
    (t.rows.map g).filter q = t.rows.filter q ↔
      ∀ r ∈ t.rows, P r → q r = false ∨ g r = r := by
  rw [filter_map_eq_iff hkey]
  refine forall₂_congr fun r _ => ?_
  rw [hq r, or_self]
  constructor
  · intro h _
    cases hr : q r with
    | false => exact Or.inl rfl
    | true => exact Or.inr (h hr)
  · intro h hr
    by_cases hn : P r
    · exact (h hn).resolve_left (by simp [hr])
    · exact hP r hn

/-! ## 4. Upsert -/

/-- `insert into … on conflict(key) do update`, where `p` selects the row with the key of `r`. -/
def upsert? (t : Table ρ) (p : ρ → Bool) (r : ρ) : Option (Table ρ) :=
  if (t.find? p).isSome then t.update? p fun _ => r else t.insert? r

/-- Either no row has the key, or one row has it. -/
theorem upsert?_cases (t : Table ρ) (p : ρ → Bool) (r : ρ) (hkey : ∀ a b, p a → p b → clash a b) :
    ((∀ a ∈ t.rows, p a = false) ∧ t.upsert? p r = t.insert? r) ∨
      ∃ r₀ ∈ t.rows, (∀ a ∈ t.rows, p a = true ↔ a = r₀) ∧
        t.upsert? p r = t.update? p fun _ => r := by
  cases hfind : t.find? p with
  | none =>
    refine Or.inl ⟨by simpa [find?] using hfind, ?_⟩
    rw [upsert?, hfind]
    rfl
  | some r₀ =>
    have hr₀ : r₀ ∈ t.rows := mem_of_find? hfind
    have hp₀ : p r₀ = true := find?_pos hfind
    refine Or.inr ⟨r₀, hr₀, fun a ha => ⟨fun h => ?_, fun h => h ▸ hp₀⟩, ?_⟩
    · exact eq_of_clash ha hr₀ (hkey a r₀ h hp₀)
    · rw [upsert?, hfind]
      rfl

/-- **An upsert succeeds exactly when the row clashes with none under another key.** -/
theorem isSome_upsert?_iff {t : Table ρ} {p : ρ → Bool} {r : ρ} (hrefl : ∀ a : ρ, clash a a)
    (hkey : ∀ a b, p a → p b → clash a b) :
    (t.upsert? p r).isSome ↔ ∀ a ∈ t.rows, p a = false → ¬ clash a r := by
  rcases upsert?_cases t p r hkey with ⟨hnone, heq⟩ | ⟨r₀, hr₀, hp, heq⟩
  · rw [heq, isSome_insert?]
    constructor
    · exact fun h a ha _ hclash => h ⟨a, ha, hclash⟩
    · exact fun h ⟨a, ha, hclash⟩ => h a ha (hnone a ha) hclash
  · rw [heq, isSome_update?_iff hrefl hr₀ hp]
    refine forall₂_congr fun a ha => imp_congr_left ?_
    rw [Ne, ← hp a ha, Bool.not_eq_true]

/-- The rows after an upsert: those under other keys as they are, and the new one. -/
theorem mem_upsert? {t t' : Table ρ} {p : ρ → Bool} {r : ρ} (hkey : ∀ a b, p a → p b → clash a b)
    (h : t.upsert? p r = some t') {a : ρ} :
    a ∈ t'.rows ↔ (a ∈ t.rows ∧ p a = false) ∨ a = r := by
  rcases upsert?_cases t p r hkey with ⟨hnone, heq⟩ | ⟨r₀, hr₀, hp, heq⟩
  · rw [(insert?_eq_some.mp (heq ▸ h)).2, List.mem_append, List.mem_singleton]
    exact or_congr_left ⟨fun ha => ⟨ha, hnone a ha⟩, And.left⟩
  · rw [update?_eq_some (heq ▸ h), List.mem_map]
    constructor
    · intro ⟨b, hb, hba⟩
      split at hba
      · exact Or.inr hba.symm
      · rename_i hpb
        subst hba
        exact Or.inl ⟨hb, by simpa using hpb⟩
    · intro ha
      rcases ha with ⟨ha, hpa⟩ | rfl
      · exact ⟨a, ha, if_neg (by simp [hpa])⟩
      · exact ⟨r₀, hr₀, if_pos ((hp r₀ hr₀).mpr rfl)⟩

/-- What a filter that leaves the new row out sees of an upsert: its rows without the replaced
    one. -/
theorem filter_upsert? {t t' : Table ρ} {p q : ρ → Bool} {r : ρ}
    (hkey : ∀ a b, p a → p b → clash a b) (hq : q r = false) (h : t.upsert? p r = some t') :
    t'.rows.filter q = (t.rows.filter q).filter fun a => !p a := by
  rcases upsert?_cases t p r hkey with ⟨hnone, heq⟩ | ⟨r₀, hr₀, hp, heq⟩
  · rw [(insert?_eq_some.mp (heq ▸ h)).2, List.filter_append, List.filter_cons_of_neg (by simp [hq]),
      List.filter_nil, List.append_nil]
    refine (List.filter_eq_self.mpr fun a ha => ?_).symm
    simp [hnone a (List.mem_filter.mp ha).1]
  · rw [update?_eq_some (heq ▸ h), List.filter_filter]
    generalize t.rows = rows
    induction rows with
    | nil => rfl
    | cons a rows ih =>
      rw [List.map_cons, List.filter_cons, List.filter_cons, ih]
      cases hpa : p a <;> simp [hq]

end Table

end Uprava.Lib
