/-
  File:      Uprava/Lib/Preference.lean
  Subject:   A list arranged by a stored preference: what the preference names comes first, in its
             order, and the rest stays as it was.

  A preference may be out of date: it may name what is not in the list, and it may name a thing
  twice. `arrange_sorted` says that neither does any harm.
-/
import Mathlib.Data.List.Basic
import Mathlib.Data.List.Nodup
import Mathlib.Data.Prod.Lex

namespace Uprava.Lib

variable {α κ : Type*}

/-- More than one value satisfies `p` exactly when two with different keys do. -/
theorem one_lt_countP_iff {key : α → κ} {xs : List α} (h : (xs.map key).Nodup) (p : α → Bool) :
    1 < xs.countP p ↔ ∃ a ∈ xs, ∃ b ∈ xs, p a = true ∧ p b = true ∧ key a ≠ key b := by
  induction xs with
  | nil => simp
  | cons x xs ih =>
    obtain ⟨hx, hxs⟩ := List.nodup_cons.mp h
    have hne : ∀ y ∈ xs, key x ≠ key y := fun y hy heq =>
      hx (heq ▸ List.mem_map_of_mem hy)
    by_cases hp : p x = true
    · rw [List.countP_cons_of_pos hp, Nat.lt_add_left_iff_pos, List.countP_pos_iff]
      constructor
      · intro h
        obtain ⟨y, hy, hpy⟩ := h
        exact ⟨x, List.mem_cons_self, y, List.mem_cons_of_mem _ hy, hp, hpy, hne y hy⟩
      · intro h
        obtain ⟨a, ha, b, hb, hpa, hpb, hab⟩ := h
        rcases List.mem_cons.mp ha with rfl | ha
        · rcases List.mem_cons.mp hb with rfl | hb
          · exact absurd rfl hab
          · exact ⟨b, hb, hpb⟩
        · exact ⟨a, ha, hpa⟩
    · rw [List.countP_cons_of_neg hp, ih hxs]
      constructor
      · intro h
        obtain ⟨a, ha, b, hb, hab⟩ := h
        exact ⟨a, List.mem_cons_of_mem _ ha, b, List.mem_cons_of_mem _ hb, hab⟩
      · intro h
        obtain ⟨a, ha, b, hb, hpa, hpb, hab⟩ := h
        have hmem : ∀ y ∈ x :: xs, p y = true → y ∈ xs := fun y hy hpy =>
          (List.mem_cons.mp hy).resolve_left fun heq => hp (heq ▸ hpy)
        exact ⟨a, hmem a ha hpa, b, hmem b hb hpb, hpa, hpb, hab⟩

variable [LinearOrder κ]

/-- The rank of a key: its place in the preference, and among what is not in it the key itself. -/
def rank (preferred : List κ) (k : κ) : ℕ ×ₗ κ := toLex (preferred.idxOf k, k)

/-- Each preferred key takes the first value that has it; the others follow. -/
def arrange (key : α → κ) : List κ → List α → List α
  | [], xs => xs
  | k :: preferred, xs =>
    match xs.find? (key · = k) with
    | some x => x :: arrange key preferred (xs.eraseP (key · = k))
    | none => arrange key preferred xs

theorem perm_cons_eraseP {p : α → Bool} {xs : List α} {x : α} (h : xs.find? p = some x) :
    xs.Perm (x :: xs.eraseP p) := by
  induction xs with
  | nil => cases h
  | cons y ys ih =>
    by_cases hy : p y = true
    · rw [List.find?_cons_of_pos hy] at h
      cases h
      rw [List.eraseP_cons_of_pos hy]
    · rw [List.find?_cons_of_neg hy] at h
      rw [List.eraseP_cons_of_neg hy]
      exact ((ih h).cons y).trans (.swap x y _)

/-- Nothing is lost and nothing is added. -/
theorem arrange_perm (key : α → κ) (preferred : List κ) (xs : List α) :
    (arrange key preferred xs).Perm xs := by
  induction preferred generalizing xs with
  | nil => exact .refl _
  | cons k preferred ih =>
    rw [arrange]
    split
    · rename_i x hx
      exact ((ih _).cons x).trans (perm_cons_eraseP hx).symm
    · exact ih _

theorem rank_cons_of_ne {k k' : κ} (h : k' ≠ k) (preferred : List κ) (k'' : κ) (h' : k'' ≠ k) :
    rank (k :: preferred) k' < rank (k :: preferred) k'' ↔
      rank preferred k' < rank preferred k'' := by
  unfold rank
  rw [List.idxOf_cons_ne _ (Ne.symm h), List.idxOf_cons_ne _ (Ne.symm h')]
  simp only [Prod.Lex.toLex_lt_toLex, Nat.succ_lt_succ_iff, Nat.succ_inj]

theorem rank_cons_self {k k' : κ} (h : k' ≠ k) (preferred : List κ) :
    rank (k :: preferred) k < rank (k :: preferred) k' := by
  unfold rank
  rw [List.idxOf_cons_self, List.idxOf_cons_ne _ (Ne.symm h)]
  exact Prod.Lex.toLex_lt_toLex.mpr (.inl (Nat.succ_pos _))

/-- **A list without repeated keys is arranged by rank**: the preferred keys in the order of the
    preference, then the others by key. -/
theorem arrange_sorted (key : α → κ) (preferred : List κ) {xs : List α}
    (h : xs.Pairwise fun a b => key a < key b) :
    (arrange key preferred xs).Pairwise fun a b =>
      rank preferred (key a) < rank preferred (key b) := by
  induction preferred generalizing xs with
  | nil =>
    refine h.imp fun hlt => ?_
    exact Prod.Lex.toLex_lt_toLex.mpr (.inr ⟨rfl, hlt⟩)
  | cons k preferred ih =>
    have hlift : ∀ ys : List α, (ys.Pairwise fun a b => key a < key b) →
        (∀ y ∈ ys, key y ≠ k) →
        (arrange key preferred ys).Pairwise fun a b =>
          rank (k :: preferred) (key a) < rank (k :: preferred) (key b) := by
      intro ys hys hne
      refine (ih hys).imp_of_mem fun ha hb hlt => ?_
      have ha' := hne _ ((arrange_perm key preferred ys).mem_iff.mp ha)
      have hb' := hne _ ((arrange_perm key preferred ys).mem_iff.mp hb)
      exact (rank_cons_of_ne ha' preferred _ hb').mpr hlt
    rw [arrange]
    split
    · rename_i x hx
      have hkey : key x = k := by simpa using List.find?_some hx
      have hperm := perm_cons_eraseP hx
      -- the keys are different, so nothing else has the preferred one
      have hnodup : (x :: xs.eraseP (key · = k)).Pairwise fun a b => key a ≠ key b :=
        (hperm.pairwise_iff fun h => h.symm).mp (h.imp fun h => h.ne)
      have hne : ∀ y ∈ xs.eraseP (key · = k), key y ≠ k := fun y hy heq =>
        (List.pairwise_cons.mp hnodup).1 y hy (hkey.trans heq.symm)
      refine List.pairwise_cons.mpr ⟨fun y hy => ?_, hlift _ (h.sublist List.eraseP_sublist) hne⟩
      rw [hkey]
      exact rank_cons_self (hne y ((arrange_perm _ _ _).mem_iff.mp hy)) preferred
    · rename_i hnone
      exact hlift xs h fun y hy => by simpa using List.find?_eq_none.mp hnone y hy

end Uprava.Lib
