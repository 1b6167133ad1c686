/-
  File:      Uprava/Lib/AppendNew.lean
  Subject:   Lists of items with keys, and the append of the items whose key is new.

  A worker took a copy (`baseline`) of a list, appended to the copy (`candidate`) and hands both
  back. `appendNew` appends to the owner's list what neither the baseline nor the owner has. An
  item the owner removed meanwhile is in the baseline, so it does not come back.
-/
import Mathlib.Data.List.Perm.Basic

namespace Uprava.Lib

universe u v

section AppendNew

variable {κ : Type u} {ε : Type v} [BEq κ] [LawfulBEq κ] (key : ε → κ)

/-- The owner's list, with the items of the copy that are new. -/
def appendNew (owner baseline candidate : List ε) : List ε :=
  candidate.foldl (fun owner e =>
    if baseline.any (key · == key e) || owner.any (key · == key e) then owner
    else owner ++ [e]) owner

variable {key}

theorem any_key_iff {l : List ε} {k : κ} : l.any (key · == k) = true ↔ k ∈ l.map key := by
  simp [List.any_eq_true]

/-- One item of the copy: it is known, or it is appended. -/
theorem appendNew_cons (owner baseline : List ε) (e : ε) (candidate : List ε) :
    (key e ∈ baseline.map key ∨ key e ∈ owner.map key) ∧
        appendNew key owner baseline (e :: candidate) = appendNew key owner baseline candidate ∨
      (key e ∉ baseline.map key ∧ key e ∉ owner.map key) ∧
        appendNew key owner baseline (e :: candidate) =
          appendNew key (owner ++ [e]) baseline candidate := by
  have hknown : (baseline.any (key · == key e) || owner.any (key · == key e)) = true ↔
      key e ∈ baseline.map key ∨ key e ∈ owner.map key := by
    rw [Bool.or_eq_true, any_key_iff, any_key_iff]
  unfold appendNew
  rw [List.foldl_cons]
  by_cases h : key e ∈ baseline.map key ∨ key e ∈ owner.map key
  · rw [if_pos (hknown.mpr h)]
    exact Or.inl ⟨h, rfl⟩
  · rw [if_neg fun hk => h (hknown.mp hk)]
    exact Or.inr ⟨not_or.mp h, rfl⟩

/-- **What is appended**: to owners that know the same of the copy's new keys, the same items; they
    are new items of the copy. -/
theorem appendNew_eq_append {owner owner' baseline candidate : List ε}
    (h : ∀ e ∈ candidate, key e ∉ baseline.map key →
      (key e ∈ owner.map key ↔ key e ∈ owner'.map key)) :
    ∃ new, appendNew key owner baseline candidate = owner ++ new ∧
      appendNew key owner' baseline candidate = owner' ++ new ∧
        ∀ e ∈ new, e ∈ candidate ∧ key e ∉ baseline.map key := by
  induction candidate generalizing owner owner' with
  | nil => exact ⟨[], (List.append_nil _).symm, (List.append_nil _).symm, fun e he => by cases he⟩
  | cons c candidate ih =>
    have hrest := fun e he => h e (List.mem_cons_of_mem c he)
    rcases (@appendNew_cons _ _ _ _ key) owner baseline c candidate with ⟨hk, heq⟩ | ⟨⟨hb, ho⟩, heq⟩
    · rcases (@appendNew_cons _ _ _ _ key) owner' baseline c candidate with
        ⟨-, heq'⟩ | ⟨⟨hb', ho'⟩, -⟩
      · obtain ⟨new, h₁, h₂, h₃⟩ := ih hrest
        exact ⟨new, heq.trans h₁, heq'.trans h₂,
          fun e he => ⟨List.mem_cons_of_mem _ (h₃ e he).1, (h₃ e he).2⟩⟩
      · have hsame := h c List.mem_cons_self hb'
        exact absurd (hsame.mp (hk.resolve_left hb')) ho'
    · rcases (@appendNew_cons _ _ _ _ key) owner' baseline c candidate with
        ⟨hk', -⟩ | ⟨-, heq'⟩
      · have hsame := h c List.mem_cons_self hb
        exact absurd (hsame.mpr (hk'.resolve_left hb)) ho
      · have hnext : ∀ e ∈ candidate, key e ∉ baseline.map key →
            (key e ∈ (owner ++ [c]).map key ↔ key e ∈ (owner' ++ [c]).map key) := by
          intro e he hbe
          rw [List.map_append, List.map_append, List.mem_append, List.mem_append, hrest e he hbe]
        obtain ⟨new, h₁, h₂, h₃⟩ := ih hnext
        refine ⟨c :: new, ?_, ?_, fun e he => ?_⟩
        · rw [heq, h₁, List.append_assoc, List.singleton_append]
        · rw [heq', h₂, List.append_assoc, List.singleton_append]
        · rcases List.mem_cons.mp he with rfl | he
          · exact ⟨List.mem_cons_self, hb⟩
          · exact ⟨List.mem_cons_of_mem _ (h₃ e he).1, (h₃ e he).2⟩

/-- **The keys afterwards**: the owner's, and those of the copy that the baseline lacks. -/
theorem mem_map_appendNew {owner baseline candidate : List ε} {k : κ} :
    k ∈ (appendNew key owner baseline candidate).map key ↔
      k ∈ owner.map key ∨ k ∈ candidate.map key ∧ k ∉ baseline.map key := by
  induction candidate generalizing owner with
  | nil => simp [appendNew]
  | cons c candidate ih =>
    have hmem : k ∈ (c :: candidate).map key ↔ k = key c ∨ k ∈ candidate.map key := by
      rw [List.map_cons, List.mem_cons]
    rw [hmem]
    rcases (@appendNew_cons _ _ _ _ key) owner baseline c candidate with ⟨hk, heq⟩ | ⟨⟨hb, -⟩, heq⟩
    · rw [heq, ih]
      constructor
      · exact Or.imp_right fun h => ⟨Or.inr h.1, h.2⟩
      · rintro (ho | ⟨rfl | hc, hb⟩)
        · exact Or.inl ho
        · exact Or.inl (hk.resolve_left hb)
        · exact Or.inr ⟨hc, hb⟩
    · rw [heq, ih, List.map_append, List.mem_append, List.map_singleton, List.mem_singleton]
      constructor
      · rintro ((ho | rfl) | ⟨hc, hb'⟩)
        · exact Or.inl ho
        · exact Or.inr ⟨Or.inl rfl, hb⟩
        · exact Or.inr ⟨Or.inr hc, hb'⟩
      · rintro (ho | ⟨rfl | hc, hb'⟩)
        · exact Or.inl (Or.inl ho)
        · exact Or.inl (Or.inr rfl)
        · exact Or.inr ⟨hc, hb'⟩

/-- Distinct keys stay distinct. -/
theorem nodup_appendNew {owner baseline candidate : List ε} (h : (owner.map key).Nodup) :
    ((appendNew key owner baseline candidate).map key).Nodup := by
  induction candidate generalizing owner with
  | nil => exact h
  | cons c candidate ih =>
    rcases (@appendNew_cons _ _ _ _ key) owner baseline c candidate with ⟨-, heq⟩ | ⟨⟨-, ho⟩, heq⟩
    · rw [heq]
      exact ih h
    · rw [heq]
      refine ih ?_
      rw [List.map_append, List.map_singleton]
      exact List.nodup_append.mpr ⟨h, List.pairwise_singleton _ _,
        fun k hk k' hk' hkk => ho (by rwa [hkk, List.mem_singleton.mp hk'] at hk)⟩

/-- Nothing is appended when everything is known. -/
theorem appendNew_of_known {owner baseline candidate : List ε}
    (h : ∀ e ∈ candidate, key e ∈ baseline.map key ∨ key e ∈ owner.map key) :
    appendNew key owner baseline candidate = owner := by
  induction candidate with
  | nil => rfl
  | cons c candidate ih =>
    rcases (@appendNew_cons _ _ _ _ key) owner baseline c candidate with ⟨-, heq⟩ | ⟨⟨hb, ho⟩, -⟩
    · rw [heq]
      exact ih fun e he => h e (List.mem_cons_of_mem _ he)
    · rcases h c List.mem_cons_self with hk | hk
      · exact absurd hk hb
      · exact absurd hk ho

/-- The items that are appended are those that neither the baseline nor the owner knows. -/
theorem appendNew_eq_append_new (owner baseline candidate : List ε) :
    appendNew key owner baseline candidate =
      owner ++ appendNew key [] (baseline ++ owner) candidate := by
  have hgeneral : ∀ new, appendNew key (owner ++ new) baseline candidate =
      owner ++ appendNew key new (baseline ++ owner) candidate := by
    induction candidate with
    | nil => exact fun _ => rfl
    | cons c candidate ih =>
      intro new
      have hknown : (key c ∈ baseline.map key ∨ key c ∈ (owner ++ new).map key) ↔
          (key c ∈ (baseline ++ owner).map key ∨ key c ∈ new.map key) := by
        rw [List.map_append, List.map_append, List.mem_append, List.mem_append, or_assoc]
      rcases (@appendNew_cons _ _ _ _ key) (owner ++ new) baseline c candidate with
        ⟨hk, heq⟩ | ⟨hk, heq⟩
      · rcases (@appendNew_cons _ _ _ _ key) new (baseline ++ owner) c candidate with
          ⟨-, heq'⟩ | ⟨hk', -⟩
        · rw [heq, heq', ih]
        · exact absurd (hknown.mp hk) (not_or.mpr hk')
      · rcases (@appendNew_cons _ _ _ _ key) new (baseline ++ owner) c candidate with
          ⟨hk', -⟩ | ⟨-, heq'⟩
        · exact absurd (hknown.mpr hk') (not_or.mpr hk)
        · rw [heq, heq', List.append_assoc, ih]
  have h := hgeneral []
  rwa [List.append_nil] at h

/-- **Two copies with different new keys are appended in either order.** -/
theorem appendNew_comm {owner baseline₁ candidate₁ baseline₂ candidate₂ : List ε}
    (h : ∀ e₁ ∈ candidate₁, key e₁ ∉ baseline₁.map key → ∀ e₂ ∈ candidate₂,
      key e₂ ∉ baseline₂.map key → key e₁ ≠ key e₂) :
    List.Perm
      (appendNew key (appendNew key owner baseline₁ candidate₁) baseline₂ candidate₂)
      (appendNew key (appendNew key owner baseline₂ candidate₂) baseline₁ candidate₁) := by
  have hsame₂ : ∀ e ∈ candidate₂, key e ∉ baseline₂.map key →
      (key e ∈ owner.map key ↔ key e ∈ (appendNew key owner baseline₁ candidate₁).map key) := by
    intro e he hb
    rw [mem_map_appendNew]
    refine ⟨Or.inl, fun ho => ho.resolve_right fun ⟨hc, hb'⟩ => ?_⟩
    obtain ⟨e', he', hkey⟩ := List.mem_map.mp hc
    exact h e' he' (by rwa [hkey]) e he hb hkey
  have hsame₁ : ∀ e ∈ candidate₁, key e ∉ baseline₁.map key →
      (key e ∈ owner.map key ↔ key e ∈ (appendNew key owner baseline₂ candidate₂).map key) := by
    intro e he hb
    rw [mem_map_appendNew]
    refine ⟨Or.inl, fun ho => ho.resolve_right fun ⟨hc, hb'⟩ => ?_⟩
    obtain ⟨e', he', hkey⟩ := List.mem_map.mp hc
    exact h e he hb e' he' (by rwa [hkey]) hkey.symm
  obtain ⟨new₂, h₂, h₂', -⟩ := appendNew_eq_append hsame₂
  obtain ⟨new₁, h₁, h₁', -⟩ := appendNew_eq_append hsame₁
  rw [h₂', h₁', h₁, h₂, List.append_assoc, List.append_assoc]
  exact List.Perm.append_left owner List.perm_append_comm

end AppendNew

end Uprava.Lib
