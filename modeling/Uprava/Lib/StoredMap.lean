/-
  File:      Uprava/Lib/StoredMap.lean
  Subject:   Maps stored as the rows of a table: the rows are inserted one after the other, and a
             map is read back from a column of them.

  `insertAll_of_unique` says that rows that do not clash are all inserted, and
  `pairwise_of_insertAll` that others are not. `lookup_ofRows_map` is what a column reads as, where
  the rows were written one for each key; `lookup_ofRows_of_cover` that it is the map again, when
  the keys are all the map has.
-/
import Uprava.Lib.Assoc
import Uprava.Lib.Table

namespace Uprava.Lib

universe u v w

/-! ## 1. Rows -/

namespace Table

variable {ρ : Type u} [Schema ρ]

/-- The rows one after the other; the first that clashes ends it. -/
def insertAll : Table ρ → List ρ → Option (Table ρ)
  | t, [] => some t
  | t, r :: rows => (t.insert? r).bind fun t => t.insertAll rows

theorem insertAll_cons_eq_some {t u : Table ρ} {r : ρ} {rows : List ρ} :
    t.insertAll (r :: rows) = some u ↔ ∃ t', t.insert? r = some t' ∧ t'.insertAll rows = some u :=
  Option.bind_eq_some_iff

/-- What was inserted stands behind what was there. -/
theorem rows_of_insertAll {t u : Table ρ} {rows : List ρ} (h : t.insertAll rows = some u) :
    u.rows = t.rows ++ rows := by
  induction rows generalizing t with
  | nil =>
    cases h
    exact (List.append_nil _).symm
  | cons r rows ih =>
    obtain ⟨t', hr, hrest⟩ := insertAll_cons_eq_some.mp h
    rw [ih hrest, (insert?_eq_some.mp hr).2, List.append_assoc, List.singleton_append]

/-- **Rows are all inserted only if no two of them clash.** -/
theorem pairwise_of_insertAll {t : Table ρ} {rows : List ρ} (h : empty.insertAll rows = some t) :
    rows.Pairwise fun a b => ¬ Schema.clash a b := by
  have hrows := rows_of_insertAll h
  rw [rows_empty, List.nil_append] at hrows
  rw [← hrows]
  exact t.unique

theorem insertAll_of_pairwise {t : Table ρ} {rows : List ρ}
    (h : (t.rows ++ rows).Pairwise fun a b => ¬ Schema.clash a b) :
    ∃ u, t.insertAll rows = some u := by
  induction rows generalizing t with
  | nil => exact ⟨t, rfl⟩
  | cons r rows ih =>
    have hfree : ¬ t.Clashes r := by
      rintro ⟨a, ha, hclash⟩
      exact (List.pairwise_append.mp h).2.2 a ha r List.mem_cons_self hclash
    have hr : t.insert? r = some (t.push r hfree) := dif_neg hfree
    obtain ⟨u, hu⟩ := @ih (t.push r hfree) (by
      rw [rows_push, List.append_assoc, List.singleton_append]
      exact h)
    exact ⟨u, insertAll_cons_eq_some.mpr ⟨_, hr, hu⟩⟩

/-- **Rows that do not clash are all inserted**, in their order. -/
theorem insertAll_of_unique {rows : List ρ}
    (h : rows.Pairwise fun a b => ¬ Schema.clash a b) :
    ∃ t, empty.insertAll rows = some t ∧ t.rows = rows := by
  obtain ⟨t, ht⟩ := @insertAll_of_pairwise ρ _ empty rows h
  exact ⟨t, ht, (rows_of_insertAll ht).trans (List.nil_append _)⟩

end Table

/-! ## 2. Reading -/

section Reading

variable {α : Type u} {ρ : Type v} {g : ρ → Option α}

theorem mapM_cons_eq_some {r : ρ} {rows : List ρ} {out : List α} :
    (r :: rows).mapM g = some out ↔
      ∃ a rest, g r = some a ∧ rows.mapM g = some rest ∧ out = a :: rest := by
  rw [List.mapM_cons]
  cases g r with
  | none => simp
  | some a =>
    cases rows.mapM g with
    | none => simp
    | some rest => simp [eq_comm]

/-- **Items come back from their rows exactly when each of them does.** -/
theorem mapM_map_eq_self_iff {f : α → ρ} {items : List α} :
    (items.map f).mapM g = some items ↔ ∀ a ∈ items, g (f a) = some a := by
  induction items with
  | nil => simp
  | cons a items ih =>
    rw [List.map_cons, mapM_cons_eq_some, List.forall_mem_cons, ← ih]
    constructor
    · rintro ⟨b, rest, hb, hrest, heq⟩
      obtain ⟨rfl, rfl⟩ := List.cons.inj heq
      exact ⟨hb, hrest⟩
    · exact fun ⟨hb, hrest⟩ => ⟨a, items, hb, hrest, rfl⟩

/-- A reader that, where it reads, reads what `h` says: of all rows it reads, it reads that. -/
theorem mapM_eq_some_iff_of_total {h : ρ → α} (hg : ∀ r a, g r = some a → a = h r)
    {rows : List ρ} {out : List α} :
    rows.mapM g = some out ↔ (∀ r ∈ rows, g r = some (h r)) ∧ out = rows.map h := by
  induction rows generalizing out with
  | nil => simp [eq_comm]
  | cons r rows ih =>
    rw [mapM_cons_eq_some, List.forall_mem_cons, List.map_cons]
    constructor
    · rintro ⟨a, rest, ha, hrest, rfl⟩
      obtain ⟨hall, rfl⟩ := ih.mp hrest
      obtain rfl := hg r a ha
      exact ⟨⟨ha, hall⟩, rfl⟩
    · rintro ⟨⟨ha, hall⟩, rfl⟩
      exact ⟨h r, rows.map h, ha, ih.mpr ⟨hall, rfl⟩, rfl⟩

end Reading

/-! ## 3. Columns -/

namespace Assoc

variable {κ : Type u} {β : Type v} {ρ : Type w} [DecidableEq κ] {key : ρ → κ}
  {value : ρ → Option β}

/-- The map of a column: a row without a value has no entry. -/
def readRow (key : ρ → κ) (value : ρ → Option β) (m : Assoc κ β) (r : ρ) : Assoc κ β :=
  match value r with
  | some b => m.insert (key r) b
  | none => m

def ofRows (key : ρ → κ) (value : ρ → Option β) (rows : List ρ) : Assoc κ β :=
  rows.foldl (readRow key value) ∅

theorem lookup_readRow (m : Assoc κ β) (r : ρ) (k : κ) :
    (readRow key value m r).lookup k =
      if k = key r then (value r).or (m.lookup k) else m.lookup k := by
  unfold readRow
  cases value r with
  | none => simp
  | some b => rw [lookup_insert', Option.some_or]

theorem lookup_foldl_readRow {row : κ → ρ} (hkey : ∀ k, key (row k) = k) (keys : List κ)
    (m : Assoc κ β) (k : κ) :
    ((keys.map row).foldl (readRow key value) m).lookup k =
      if k ∈ keys then (value (row k)).or (m.lookup k) else m.lookup k := by
  induction keys generalizing m with
  | nil => simp
  | cons k' keys ih =>
    rw [List.map_cons, List.foldl_cons, ih, lookup_readRow, hkey]
    by_cases hk : k = k'
    · subst hk
      by_cases hmem : k ∈ keys
      · cases value (row k) <;> simp [hmem]
      · simp [hmem]
    · by_cases hmem : k ∈ keys
      · simp [hk, hmem]
      · simp [hk, hmem]

/-- **A column written one row for each key.** -/
theorem lookup_ofRows_map {row : κ → ρ} (hkey : ∀ k, key (row k) = k) (keys : List κ) (k : κ) :
    (ofRows key value (keys.map row)).lookup k = if k ∈ keys then value (row k) else none := by
  rw [ofRows, lookup_foldl_readRow hkey, AList.lookup_empty, Option.or_none]

/-- **A map comes back from its column**, when the keys are all it has. -/
theorem lookup_ofRows_of_cover {row : κ → ρ} {keys : List κ} {m : Assoc κ β}
    (hkey : ∀ k, key (row k) = k) (hvalue : ∀ k ∈ keys, value (row k) = m.lookup k)
    (hcover : ∀ k, k ∉ keys → m.lookup k = none) (k : κ) :
    (ofRows key value (keys.map row)).lookup k = m.lookup k := by
  rw [lookup_ofRows_map hkey]
  by_cases hk : k ∈ keys
  · rw [if_pos hk, hvalue k hk]
  · rw [if_neg hk, hcover k hk]

/-- Rows written one for each entry are rows written one for each key. -/
theorem map_entries_eq_map_keys {m : Assoc κ β} {f : κ → β → ρ} {row : κ → ρ}
    (h : ∀ k b, m.lookup k = some b → f k b = row k) :
    m.entries.map (fun e => f e.1 e.2) = m.keys.map row := by
  rw [AList.keys, List.keys, List.map_map]
  refine List.map_congr_left fun e he => ?_
  exact h e.1 e.2 (AList.mem_lookup_iff.mpr he)

/-- What a column reads as has the keys of its rows. -/
theorem exists_row_of_lookup {rows : List ρ} {k : κ} {b : β}
    (h : (ofRows key value rows).lookup k = some b) :
    ∃ r ∈ rows, key r = k ∧ value r = some b := by
  have hfold : ∀ m : Assoc κ β, (rows.foldl (readRow key value) m).lookup k = some b →
      m.lookup k = some b ∨ ∃ r ∈ rows, key r = k ∧ value r = some b := by
    clear h
    induction rows with
    | nil => exact fun m hm => .inl hm
    | cons r rows ih =>
      intro m hm
      rcases ih (readRow key value m r) hm with hr | ⟨r', hr', hfound⟩
      · rw [lookup_readRow] at hr
        split at hr
        · rename_i hk
          cases hv : value r with
          | none =>
            rw [hv, Option.none_or] at hr
            exact .inl hr
          | some b' =>
            rw [hv, Option.some_or] at hr
            exact .inr ⟨r, List.mem_cons_self, hk.symm, hv.trans hr⟩
        · exact .inl hr
      · exact .inr ⟨r', List.mem_cons_of_mem _ hr', hfound⟩
  rcases hfold ∅ h with hnone | hrow
  · rw [AList.lookup_empty] at hnone
    cases hnone
  · exact hrow

end Assoc

end Uprava.Lib
