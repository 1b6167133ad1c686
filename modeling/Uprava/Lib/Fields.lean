/-
  File:      Uprava/Lib/Fields.lean
  Subject:   Texts made of fields: a list cut at a separator into at most so many pieces, and the
             pieces of fields written one after the other.

  `splitN` cuts from the left, and its last piece keeps the separators it has. `splitN_joinFields`
  says that the fields in front come back as they were written, whatever follows them.
-/
import Mathlib.Data.List.TakeWhile

namespace Uprava.Lib

universe u

variable {α : Type u} [DecidableEq α] {sep : α}

/-- `splitn`: at most `n` pieces, the last of them with the rest. -/
def splitN (sep : α) : Nat → List α → List (List α)
  | 0, _ => []
  | 1, l => [l]
  | n + 2, l =>
    match l.dropWhile (· != sep) with
    | [] => [l]
    | _ :: rest => l.takeWhile (· != sep) :: splitN sep (n + 1) rest

/-- The fields, each followed by a separator, and then the rest. -/
def joinFields (sep : α) (fields : List (List α)) (rest : List α) : List α :=
  fields.foldr (fun field rest => field ++ sep :: rest) rest

theorem takeWhile_ne_append_cons {a rest : List α} (h : sep ∉ a) :
    (a ++ sep :: rest).takeWhile (· != sep) = a := by
  have ha : ∀ x ∈ a, (x != sep) = true := fun x hx => bne_iff_ne.mpr (ne_of_mem_of_not_mem hx h)
  rw [List.takeWhile_append_of_pos ha, List.takeWhile_cons_of_neg (by simp), List.append_nil]

theorem dropWhile_ne_append_cons {a rest : List α} (h : sep ∉ a) :
    (a ++ sep :: rest).dropWhile (· != sep) = sep :: rest := by
  have ha : ∀ x ∈ a, (x != sep) = true := fun x hx => bne_iff_ne.mpr (ne_of_mem_of_not_mem hx h)
  rw [List.dropWhile_append_of_pos ha, List.dropWhile_cons_of_neg (by simp)]

theorem splitN_append_cons {a : List α} (h : sep ∉ a) (n : Nat) (rest : List α) :
    splitN sep (n + 2) (a ++ sep :: rest) = a :: splitN sep (n + 1) rest := by
  rw [splitN, dropWhile_ne_append_cons h]
  dsimp only
  rw [takeWhile_ne_append_cons h]

/-- **The fields in front come back**, and the pieces that are left cut the rest. -/
theorem splitN_joinFields {fields : List (List α)} (h : ∀ field ∈ fields, sep ∉ field) (n : Nat)
    (rest : List α) :
    splitN sep (n + 1 + fields.length) (joinFields sep fields rest) =
      fields ++ splitN sep (n + 1) rest := by
  induction fields with
  | nil => rfl
  | cons field fields ih =>
    have hfield : sep ∉ field := h field List.mem_cons_self
    have hrest := ih fun f hf => h f (List.mem_cons_of_mem _ hf)
    have hlength : n + 1 + (field :: fields).length = (n + fields.length) + 2 := by
      rw [List.length_cons]
      omega
    have hpieces : n + fields.length + 1 = n + 1 + fields.length := by omega
    show splitN sep _ (field ++ sep :: joinFields sep fields rest) = _
    rw [hlength, splitN_append_cons hfield, hpieces, hrest, List.cons_append]

/-- Of two pieces, the first one ends at the first separator. -/
theorem splitN_two_head (l : List α) :
    (splitN sep 2 l)[0]? = some (l.takeWhile (· != sep)) := by
  unfold splitN
  split
  · rename_i hdrop
    have hall : ∀ x ∈ l, (x != sep) = true := List.dropWhile_eq_nil_iff.mp hdrop
    rw [List.takeWhile_eq_self_iff.mpr hall]
    rfl
  · rfl

/-- There is a second piece only after a separator. -/
theorem splitN_two_second (l : List α) :
    (splitN sep 2 l)[1]? = if sep ∈ l then some (l.dropWhile (· != sep)).tail else none := by
  unfold splitN
  split
  · rename_i hdrop
    have hnot : sep ∉ l := fun hmem => by
      simpa using List.dropWhile_eq_nil_iff.mp hdrop sep hmem
    rw [if_neg hnot]
    rfl
  · rename_i c rest hdrop
    have hmem : sep ∈ l := by
      by_contra hnot
      have hall : ∀ x ∈ l, (x != sep) = true :=
        fun x hx => bne_iff_ne.mpr (ne_of_mem_of_not_mem hx hnot)
      rw [List.dropWhile_eq_nil_iff.mpr hall] at hdrop
      cases hdrop
    rw [if_pos hmem, hdrop]
    rfl

/-- What stands before the first separator is everything exactly when there is none. -/
theorem takeWhile_ne_eq_self_iff {l : List α} : l.takeWhile (· != sep) = l ↔ sep ∉ l := by
  rw [List.takeWhile_eq_self_iff]
  constructor
  · intro h hmem
    simpa using h sep hmem
  · exact fun h x hx => bne_iff_ne.mpr (ne_of_mem_of_not_mem hx h)

omit [DecidableEq α] in
/-- What stands after a separator is shorter than all. -/
theorem tail_dropWhile_ne {p : α → Bool} {l : List α} (h : l ≠ []) :
    (l.dropWhile p).tail ≠ l := by
  intro he
  have hlength := congrArg List.length he
  have hdrop := (List.dropWhile_suffix (l := l) p).length_le
  have hpos := List.length_pos_iff.mpr h
  rw [List.length_tail] at hlength
  omega

/-- The pieces of a list hold what it holds, less the separators. -/
theorem mem_splitOn {c : α} {l : List α} :
    (∃ piece ∈ l.splitOn sep, c ∈ piece) ↔ c ∈ l ∧ c ≠ sep := by
  induction l with
  | nil => simp
  | cons x l ih =>
    rw [List.splitOn_cons_eq_if_modifyHead]
    by_cases hx : x = sep
    · rw [if_pos (beq_iff_eq.mpr hx)]
      constructor
      · intro ⟨piece, hpiece, hc⟩
        rcases List.mem_cons.mp hpiece with rfl | hpiece
        · cases hc
        · obtain ⟨hl, hne⟩ := ih.mp ⟨piece, hpiece, hc⟩
          exact ⟨List.mem_cons_of_mem _ hl, hne⟩
      · intro ⟨hc, hne⟩
        rcases List.mem_cons.mp hc with rfl | hl
        · exact absurd hx hne
        · obtain ⟨piece, hpiece, hc⟩ := ih.mpr ⟨hl, hne⟩
          exact ⟨piece, List.mem_cons_of_mem _ hpiece, hc⟩
    · rw [if_neg (by simpa using hx)]
      obtain ⟨first, rest, hpieces⟩ := List.exists_cons_of_ne_nil (List.splitOn_ne_nil sep l)
      rw [hpieces] at ih ⊢
      rw [List.modifyHead_cons]
      simp only [List.mem_cons, exists_eq_or_imp] at ih ⊢
      by_cases hc : c = x
      · subst hc
        simp [hx]
      · simp only [hc, false_or]
        exact ih
/-! ## Records that end with a separator -/

/-- **Texts that each end with the separator come back**, and an empty one after the last. -/
theorem splitOn_flatMap {records : List (List α)} (h : ∀ r ∈ records, sep ∉ r) :
    (records.flatMap (· ++ [sep])).splitOn sep = records ++ [[]] := by
  induction records with
  | nil => rfl
  | cons r records ih =>
    have hr : ∀ x ∈ r, (x == sep) = false :=
      fun x hx => beq_eq_false_iff_ne.mpr (ne_of_mem_of_not_mem hx (h r List.mem_cons_self))
    have hrest := ih fun r' hr' => h r' (List.mem_cons_of_mem _ hr')
    rw [List.flatMap_cons, List.append_assoc, List.singleton_append, List.splitOn_eq_splitOnP,
      List.splitOnP_append_cons_of_forall_mem hr sep (by simp), ← List.splitOn_eq_splitOnP, hrest]
    rfl

end Uprava.Lib
