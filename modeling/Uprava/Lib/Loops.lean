/-
  File:      Uprava/Lib/Loops.lean
  Subject:   Loops over items that end with the first error, where each item has its own part of
             the state.

  * `Separate`              -- what becomes of an item rests on its part, and the other items leave
    that part alone;
  * **`each_isolated_iff`** -- the loop does with each item what its body does with the item alone,
    exactly when the items that come after an error have nothing to do.
-/
import Mathlib.Data.List.Nodup

namespace Uprava.Lib

variable {σ ι ρ ε : Type*}

/-- The body with one item after the other, up to the first error. -/
def each (body : ι → σ → σ × Option ε) : List ι → σ → σ × Option ε
  | [], s => (s, none)
  | i :: items, s =>
    match body i s with
    | (t, none) => each body items t
    | (t, some e) => (t, some e)

/-- Does the body fail with the item alone? -/
def Fails (body : ι → σ → σ × Option ε) (i : ι) (s : σ) : Prop := (body i s).2.isSome = true

instance (body : ι → σ → σ × Option ε) (i : ι) (s : σ) : Decidable (Fails body i s) :=
  inferInstanceAs (Decidable (_ = true))

/-- **Items that stay apart.** `ok` is what the body needs of an item that it has not had yet. -/
structure Separate (body : ι → σ → σ × Option ε) (part : ι → σ → ρ) (ok : ι → σ → Prop)
    (items : List ι) : Prop where
  frame : ∀ i ∈ items, ∀ j ∈ items, i ≠ j → ∀ s, ok j s → part i (body j s).1 = part i s
  kept : ∀ i ∈ items, ∀ j ∈ items, i ≠ j → ∀ s, ok i s → ok j s → ok i (body j s).1
  rests : ∀ i ∈ items, ∀ s t, ok i s → ok i t → part i s = part i t →
    part i (body i s).1 = part i (body i t).1 ∧ (Fails body i s ↔ Fails body i t)

section Each

variable {body : ι → σ → σ × Option ε} {part : ι → σ → ρ} {ok : ι → σ → Prop} {items : List ι}

theorem each_cons_of_fails {i : ι} {rest : List ι} {s : σ} (h : Fails body i s) :
    (each body (i :: rest) s).1 = (body i s).1 := by
  obtain ⟨e, he⟩ := Option.isSome_iff_exists.mp h
  rw [each]
  split
  · rename_i heq
    rw [heq] at he
    cases he
  · rename_i heq
    rw [heq]

theorem each_cons_of_not_fails {i : ι} {rest : List ι} {s : σ} (h : ¬ Fails body i s) :
    each body (i :: rest) s = each body rest (body i s).1 := by
  rw [each]
  split
  · rename_i heq
    rw [heq]
  · rename_i heq
    exact absurd (by rw [Fails, heq]; rfl) h

/-- What each body leaves alone, the loop leaves alone. -/
theorem each_frame {τ : Type*} {view : σ → τ}
    (h : ∀ i ∈ items, ∀ s, view (body i s).1 = view s) (s : σ) :
    view (each body items s).1 = view s := by
  induction items generalizing s with
  | nil => rfl
  | cons i rest ih =>
    have hi := h i List.mem_cons_self s
    by_cases hfails : Fails body i s
    · rw [each_cons_of_fails hfails]
      exact hi
    · rw [each_cons_of_not_fails hfails, ih fun j hj => h j (List.mem_cons_of_mem _ hj)]
      exact hi

namespace Separate

/-- The loop ends without an error exactly when the body fails with no item alone. -/
theorem each_ok_iff (h : Separate body part ok items) {rest : List ι}
    (hrest : ∀ j ∈ rest, j ∈ items) (hnodup : rest.Nodup) {s : σ} (hok : ∀ j ∈ rest, ok j s) :
    (each body rest s).2 = none ↔ ∀ i ∈ rest, ¬ Fails body i s := by
  induction rest generalizing s with
  | nil => exact iff_of_true rfl fun _ hi => nomatch hi
  | cons j rest ih =>
    obtain ⟨hj, hnodup⟩ := List.nodup_cons.mp hnodup
    have hjitems := hrest j List.mem_cons_self
    have hjok := hok j List.mem_cons_self
    rw [List.forall_mem_cons]
    by_cases hfails : Fails body j s
    · refine iff_of_false (fun hnone => ?_) fun hall => hall.1 hfails
      rw [each] at hnone
      split at hnone
      · rename_i heq
        rw [Fails, heq] at hfails
        cases hfails
      · cases hnone
    · have hne : ∀ k ∈ rest, k ≠ j := fun k hk hkj => hj (hkj ▸ hk)
      have hmem : ∀ k ∈ rest, k ∈ items := fun k hk => hrest k (List.mem_cons_of_mem _ hk)
      have hkept : ∀ k ∈ rest, ok k (body j s).1 := fun k hk =>
        h.kept k (hmem k hk) j hjitems (hne k hk) s (hok k (List.mem_cons_of_mem _ hk)) hjok
      rw [each_cons_of_not_fails hfails, ih hmem hnodup hkept]
      -- the body fails with a later item as it would have before
      have hsame : ∀ k ∈ rest, (Fails body k (body j s).1 ↔ Fails body k s) := fun k hk =>
        (h.rests k (hmem k hk) _ s (hkept k hk) (hok k (List.mem_cons_of_mem _ hk))
          (h.frame k (hmem k hk) j hjitems (hne k hk) s hjok)).2
      constructor
      · exact fun hall => ⟨hfails, fun k hk hf => hall k hk ((hsame k hk).mpr hf)⟩
      · exact fun hall k hk hf => hall.2 k hk ((hsame k hk).mp hf)

/-- A loop over other items leaves the part of an item alone. -/
theorem part_others (h : Separate body part ok items) {i : ι} (hi : i ∈ items) {rest : List ι}
    (hrest : ∀ j ∈ rest, j ∈ items) (hnodup : rest.Nodup) (hni : i ∉ rest) {s : σ}
    (hok : ∀ j ∈ rest, ok j s) : part i (each body rest s).1 = part i s := by
  induction rest generalizing s with
  | nil => rfl
  | cons j rest ih =>
    obtain ⟨hj, hnodup⟩ := List.nodup_cons.mp hnodup
    have hij : i ≠ j := List.ne_of_not_mem_cons hni
    have hni : i ∉ rest := List.not_mem_of_not_mem_cons hni
    have hjitems := hrest j List.mem_cons_self
    have hframe := h.frame i hi j hjitems hij s (hok j List.mem_cons_self)
    by_cases hfails : Fails body j s
    · rw [each_cons_of_fails hfails]
      exact hframe
    · rw [each_cons_of_not_fails hfails]
      have hrest' : ∀ k ∈ rest, k ∈ items := fun k hk => hrest k (List.mem_cons_of_mem _ hk)
      rw [ih hrest' hnodup hni fun k hk => h.kept k (hrest' k hk) j hjitems
        (fun hkj => hj (hkj ▸ hk)) s (hok k (List.mem_cons_of_mem _ hk)) (hok j List.mem_cons_self)]
      exact hframe

/-- **What the loop does with an item**: what its body does with it alone, unless the body fails
    with an earlier one. -/
theorem part_each (h : Separate body part ok items) {before after : List ι} {i : ι}
    (hsub : ∀ j ∈ before ++ i :: after, j ∈ items) (hnodup : (before ++ i :: after).Nodup) {s : σ}
    (hok : ∀ j ∈ before ++ i :: after, ok j s) :
    part i (each body (before ++ i :: after) s).1 =
      if ∃ j ∈ before, Fails body j s then part i s else part i (body i s).1 := by
  have hmem : i ∈ before ++ i :: after := List.mem_append_right _ List.mem_cons_self
  induction before generalizing s with
  | nil =>
    rw [if_neg (by simp), List.nil_append]
    by_cases hfails : Fails body i s
    · rw [each_cons_of_fails hfails]
    · rw [each_cons_of_not_fails hfails]
      obtain ⟨hni, hnodup⟩ := List.nodup_cons.mp hnodup
      refine h.part_others (hsub i hmem) (fun j hj => hsub j (List.mem_cons_of_mem _ hj)) hnodup hni
        fun j hj => ?_
      exact h.kept j (hsub j (List.mem_cons_of_mem _ hj)) i (hsub i hmem)
        (fun hji => hni (hji ▸ hj)) s (hok j (List.mem_cons_of_mem _ hj)) (hok i hmem)
  | cons k before ih =>
    rw [List.cons_append] at hsub hnodup hok hmem ⊢
    obtain ⟨hk, hnodup⟩ := List.nodup_cons.mp hnodup
    have hkitems := hsub k List.mem_cons_self
    have hkok := hok k List.mem_cons_self
    have hi : i ∈ before ++ i :: after := List.mem_append_right _ List.mem_cons_self
    have hne : ∀ j ∈ before ++ i :: after, j ≠ k := fun j hj hjk => hk (hjk ▸ hj)
    have hframe : ∀ j ∈ before ++ i :: after, part j (body k s).1 = part j s := fun j hj =>
      h.frame j (hsub j (List.mem_cons_of_mem _ hj)) k hkitems (hne j hj) s hkok
    by_cases hfails : Fails body k s
    · rw [each_cons_of_fails hfails, if_pos ⟨k, List.mem_cons_self, hfails⟩]
      exact hframe i hi
    · have hkept : ∀ j ∈ before ++ i :: after, ok j (body k s).1 := fun j hj =>
        h.kept j (hsub j (List.mem_cons_of_mem _ hj)) k hkitems (hne j hj) s
          (hok j (List.mem_cons_of_mem _ hj)) hkok
      have hrests : ∀ j ∈ before ++ i :: after, part j (body j (body k s).1).1 =
          part j (body j s).1 ∧ (Fails body j (body k s).1 ↔ Fails body j s) := fun j hj =>
        h.rests j (hsub j (List.mem_cons_of_mem _ hj)) _ s (hkept j hj)
          (hok j (List.mem_cons_of_mem _ hj)) (hframe j hj)
      have hsome : (∃ j ∈ before, Fails body j (body k s).1) ↔ ∃ j ∈ k :: before, Fails body j s := by
        constructor
        · rintro ⟨j, hj, hf⟩
          exact ⟨j, List.mem_cons_of_mem _ hj, (hrests j (List.mem_append_left _ hj)).2.mp hf⟩
        · rintro ⟨j, hj, hf⟩
          rcases List.mem_cons.mp hj with rfl | hj
          · exact absurd hf hfails
          · exact ⟨j, hj, (hrests j (List.mem_append_left _ hj)).2.mpr hf⟩
      rw [each_cons_of_not_fails hfails,
        ih (fun j hj => hsub j (List.mem_cons_of_mem _ hj)) hnodup hkept hi, hframe i hi,
        (hrests i hi).1]
      simp only [hsome]

/-- **The loop does with each item what its body does with the item alone, exactly when the items
    that come after one it fails with have nothing to do.** -/
theorem each_isolated_iff (h : Separate body part ok items) (hnodup : items.Nodup) {s : σ}
    (hok : ∀ i ∈ items, ok i s) :
    (∀ i ∈ items, part i (each body items s).1 = part i (body i s).1) ↔
      ∀ before i after, items = before ++ i :: after → (∃ j ∈ before, Fails body j s) →
        part i (body i s).1 = part i s := by
  constructor
  · intro hall before i after heq hfails
    subst heq
    have hi := hall i (List.mem_append_right _ List.mem_cons_self)
    rw [h.part_each (fun _ hj => hj) hnodup hok, if_pos hfails] at hi
    exact hi.symm
  · intro hidle i hi
    obtain ⟨before, after, rfl⟩ := List.append_of_mem hi
    rw [h.part_each (fun _ hj => hj) hnodup hok]
    split
    · rename_i hfails
      exact (hidle before i after rfl hfails).symm
    · rfl

end Separate

end Each

end Uprava.Lib
