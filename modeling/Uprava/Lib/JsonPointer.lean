/-
  File:      Uprava/Lib/JsonPointer.lean
  Subject:   JSON pointers: their tokens, the slot they name in a value, and values that differ only
             in the slots of some pointers.

  * `pointerTokens`        -- a pointer as a text, read as the keys and indices it names;
  * `JsonValue.setAt`      -- the value with another one in the slot, if it has the slot;
  * `SameOff`              -- two values that are the same outside of a slot;
  * `setAll_eq_of_sameOff` -- overwriting the slots of all pointers makes such values equal,
                              whatever the order of the pointers, and where they overlap.
-/
import Mathlib.Logic.Relation
import Uprava.Lib.Json

namespace Uprava.Lib

/-! ## 1. Pointers as texts -/

/-- `text.replace`, for a pair of characters and the one that takes its place. -/
def replacePair (a b c : Char) : List Char → List Char
  | x :: y :: rest =>
    if x = a ∧ y = b then c :: replacePair a b c rest else x :: replacePair a b c (y :: rest)
  | rest => rest

/-- `~1` stands for a slash and `~0` for a tilde. -/
def unescapeToken (token : List Char) : String :=
  String.ofList (replacePair '~' '0' '~' (replacePair '~' '1' '/' token))

/-- What a pointer names: the whole value, or a slot under some tokens. Other texts name nothing. -/
def pointerTokens (pointer : String) : Option (List String) :=
  match pointer.toList with
  | [] => some []
  | '/' :: cs => some ((cs.splitOn '/').map unescapeToken)
  | _ => none

/-- An index of an array: digits, without a leading zero. -/
def parseIndex (token : String) : Option Nat :=
  match token.toList with
  | [] => none
  | c :: cs =>
    if (c = '0' ∧ cs ≠ []) ∨ ¬ (c :: cs).all Char.isDigit then none
    else some ((c :: cs).foldl (fun n d => 10 * n + (d.toNat - 48)) 0)

/-! ## 2. Slots -/

/-- The value under a key changed. -/
def JsonMap.modify (key : String) (f : JsonValue → JsonValue) : JsonMap → JsonMap
  | .nil => .nil
  | .cons k v rest => if k = key then .cons k (f v) rest else .cons k v (rest.modify key f)

/-- The item at an index changed. -/
def JsonArray.modify (f : JsonValue → JsonValue) : JsonArray → Nat → JsonArray
  | .nil, _ => .nil
  | .cons v rest, 0 => .cons (f v) rest
  | .cons v rest, i + 1 => .cons v (rest.modify f i)

/-- `*value.pointer_mut(tokens) = new`, where the value has the slot. -/
def JsonValue.setAt (value : JsonValue) (tokens : List String) (new : JsonValue) : JsonValue :=
  match tokens, value with
  | [], _ => new
  | token :: rest, .object fields => .object (fields.modify token fun v => v.setAt rest new)
  | token :: rest, .array items =>
    match parseIndex token with
    | some i => .array (items.modify (fun v => v.setAt rest new) i)
    | none => .array items
  | _ :: _, value => value

/-- The slots of all pointers overwritten, one after the other. -/
def JsonValue.setAll (value : JsonValue) (pointers : List String) (new : JsonValue) : JsonValue :=
  pointers.foldl (fun value pointer =>
    match pointerTokens pointer with
    | some tokens => value.setAt tokens new
    | none => value) value

/-! ## 3. Values that differ in a slot -/

/-- The same entries but for the values of a key, which are related. -/
def JsonMap.SameBut (key : String) (R : JsonValue → JsonValue → Prop) : JsonMap → JsonMap → Prop
  | .nil, .nil => True
  | .cons k v rest, .cons k' v' rest' =>
    k = k' ∧ if k = key then R v v' ∧ rest = rest' else v = v' ∧ rest.SameBut key R rest'
  | _, _ => False

/-- The same items but for the ones at an index, which are related. -/
def JsonArray.SameBut (R : JsonValue → JsonValue → Prop) : Nat → JsonArray → JsonArray → Prop
  | _, .nil, .nil => True
  | 0, .cons v rest, .cons v' rest' => R v v' ∧ rest = rest'
  | i + 1, .cons v rest, .cons v' rest' => v = v' ∧ rest.SameBut R i rest'
  | _, _, _ => False

/-- The two values are the same outside of the slot. -/
def SameOff : List String → JsonValue → JsonValue → Prop
  | [], _, _ => True
  | token :: rest, .object fields, .object fields' => fields.SameBut token (SameOff rest) fields'
  | token :: rest, .array items, .array items' =>
    match parseIndex token with
    | some i => items.SameBut (SameOff rest) i items'
    | none => items = items'
  | _ :: _, value, value' => value = value'

theorem JsonMap.sameBut_refl {key : String} {R : JsonValue → JsonValue → Prop} (hR : ∀ v, R v v) :
    ∀ m : JsonMap, m.SameBut key R m
  | .nil => trivial
  | .cons k v rest => by
    refine ⟨rfl, ?_⟩
    split
    · exact ⟨hR v, rfl⟩
    · exact ⟨rfl, sameBut_refl hR rest⟩

theorem JsonArray.sameBut_refl {R : JsonValue → JsonValue → Prop} (hR : ∀ v, R v v) :
    ∀ (i : Nat) (a : JsonArray), JsonArray.SameBut R i a a
  | 0, .nil => trivial
  | _ + 1, .nil => trivial
  | 0, .cons v _ => ⟨hR v, rfl⟩
  | i + 1, .cons _ rest => ⟨rfl, sameBut_refl hR i rest⟩

theorem sameOff_refl (tokens : List String) (value : JsonValue) : SameOff tokens value value := by
  induction tokens generalizing value with
  | nil => trivial
  | cons token rest ih =>
    cases value with
    | object fields => exact JsonMap.sameBut_refl ih fields
    | array items =>
      rw [SameOff]
      split
      · exact JsonArray.sameBut_refl ih _ items
      · rfl
    | _ => rfl

/-! ## 4. Overwriting -/

/-- Related values of the key become equal by the same change. -/
theorem JsonMap.SameBut.modify_eq {key : String} {R : JsonValue → JsonValue → Prop}
    {f : JsonValue → JsonValue} (hf : ∀ v v', R v v' → f v = f v') :
    ∀ {m m' : JsonMap}, m.SameBut key R m' → m.modify key f = m'.modify key f
  | .nil, .nil, _ => rfl
  | .cons k v rest, .cons k' v' rest', ⟨hk, h⟩ => by
    subst hk
    rw [JsonMap.modify, JsonMap.modify]
    split at h
    · rename_i hkey
      rw [if_pos hkey, if_pos hkey, hf v v' h.1, h.2]
    · rename_i hkey
      rw [if_neg hkey, if_neg hkey, h.1, SameBut.modify_eq hf h.2]

theorem JsonArray.SameBut.modify_eq {R : JsonValue → JsonValue → Prop}
    {f : JsonValue → JsonValue} (hf : ∀ v v', R v v' → f v = f v') :
    ∀ {i : Nat} {a a' : JsonArray}, JsonArray.SameBut R i a a' → a.modify f i = a'.modify f i
  | 0, .nil, .nil, _ => rfl
  | _ + 1, .nil, .nil, _ => rfl
  | 0, .cons v rest, .cons v' rest', ⟨hv, hrest⟩ => by
    rw [JsonArray.modify, JsonArray.modify, hf v v' hv, hrest]
  | i + 1, .cons v rest, .cons v' rest', ⟨hv, hrest⟩ => by
    rw [JsonArray.modify, JsonArray.modify, hv, SameBut.modify_eq hf hrest]

/-- Another key's change leaves the relation alone; the key's own has to keep it. -/
theorem JsonMap.SameBut.modify {key : String} {R : JsonValue → JsonValue → Prop} {key' : String}
    {f : JsonValue → JsonValue} (hf : key' = key → ∀ v v', R v v' → R (f v) (f v')) :
    ∀ {m m' : JsonMap}, m.SameBut key R m' → (m.modify key' f).SameBut key R (m'.modify key' f)
  | .nil, .nil, _ => trivial
  | .cons k v rest, .cons k' v' rest', ⟨hk, h⟩ => by
    subst hk
    rw [JsonMap.modify, JsonMap.modify]
    by_cases hother : k = key'
    · rw [if_pos hother, if_pos hother]
      refine ⟨rfl, ?_⟩
      split at h
      · rename_i hkey
        rw [if_pos hkey]
        exact ⟨hf (hother.symm.trans hkey) v v' h.1, h.2⟩
      · rename_i hkey
        rw [if_neg hkey]
        exact ⟨congrArg f h.1, h.2⟩
    · rw [if_neg hother, if_neg hother]
      refine ⟨rfl, ?_⟩
      split at h
      · rename_i hkey
        rw [if_pos hkey]
        exact ⟨h.1, congrArg _ h.2⟩
      · rename_i hkey
        rw [if_neg hkey]
        exact ⟨h.1, SameBut.modify hf h.2⟩

theorem JsonArray.SameBut.modify {R : JsonValue → JsonValue → Prop} {f : JsonValue → JsonValue} :
    ∀ {i j : Nat} {a a' : JsonArray}, (j = i → ∀ v v', R v v' → R (f v) (f v')) →
      JsonArray.SameBut R i a a' → JsonArray.SameBut R i (a.modify f j) (a'.modify f j)
  | 0, 0, .nil, .nil, _, _ => trivial
  | 0, _ + 1, .nil, .nil, _, _ => trivial
  | _ + 1, 0, .nil, .nil, _, _ => trivial
  | _ + 1, _ + 1, .nil, .nil, _, _ => trivial
  | 0, 0, .cons v _, .cons v' _, hf, ⟨hv, hrest⟩ => ⟨hf rfl v v' hv, hrest⟩
  | 0, j + 1, .cons _ _, .cons _ _, _, ⟨hv, hrest⟩ => ⟨hv, congrArg (JsonArray.modify f · j) hrest⟩
  | _ + 1, 0, .cons _ _, .cons _ _, _, ⟨hv, hrest⟩ => ⟨congrArg f hv, hrest⟩
  | _ + 1, _ + 1, .cons _ _, .cons _ _, hf, ⟨hv, hrest⟩ =>
    ⟨hv, SameBut.modify (fun h => hf (congrArg (· + 1) h)) hrest⟩

/-- How two values are the same outside of a slot that is not the whole value. -/
theorem sameOff_cons {token : String} {rest : List String} {value value' : JsonValue}
    (h : SameOff (token :: rest) value value') :
    (∃ m m', value = .object m ∧ value' = .object m' ∧ m.SameBut token (SameOff rest) m') ∨
      (∃ a a' i, value = .array a ∧ value' = .array a' ∧ parseIndex token = some i ∧
        JsonArray.SameBut (SameOff rest) i a a') ∨ value = value' := by
  unfold SameOff at h
  split at h
  · trivial
  · rename_i m m' heq
    obtain ⟨rfl, rfl⟩ := List.cons.inj heq
    exact Or.inl ⟨m, m', rfl, rfl, h⟩
  · rename_i a a' heq
    obtain ⟨rfl, rfl⟩ := List.cons.inj heq
    split at h
    · rename_i i hi
      exact Or.inr (Or.inl ⟨a, a', i, rfl, rfl, hi, h⟩)
    · exact Or.inr (Or.inr (congrArg JsonValue.array h))
  · exact Or.inr (Or.inr h)

/-- **The slot overwritten, the values are equal.** -/
theorem SameOff.setAt_eq (new : JsonValue) {tokens : List String} {value value' : JsonValue}
    (h : SameOff tokens value value') : value.setAt tokens new = value'.setAt tokens new := by
  induction tokens generalizing value value' with
  | nil => rfl
  | cons token rest ih =>
    rcases sameOff_cons h with ⟨m, m', rfl, rfl, hm⟩ | ⟨a, a', i, rfl, rfl, hi, ha⟩ | rfl
    · exact congrArg JsonValue.object (hm.modify_eq fun v v' hv => ih hv)
    · rw [JsonValue.setAt, JsonValue.setAt, hi]
      exact congrArg JsonValue.array (ha.modify_eq fun v v' hv => ih hv)
    · rfl

/-- **Overwriting any slot keeps two values the same outside of theirs.** -/
theorem SameOff.setAt (new : JsonValue) {tokens tokens' : List String} {value value' : JsonValue}
    (h : SameOff tokens value value') :
    SameOff tokens (value.setAt tokens' new) (value'.setAt tokens' new) := by
  induction tokens generalizing tokens' value value' with
  | nil => trivial
  | cons token rest ih =>
    cases tokens' with
    | nil => exact sameOff_refl _ new
    | cons token' rest' =>
      rcases sameOff_cons h with ⟨m, m', rfl, rfl, hm⟩ | ⟨a, a', i, rfl, rfl, hi, ha⟩ | rfl
      · exact hm.modify fun _ v v' hv => ih hv
      · rw [JsonValue.setAt, JsonValue.setAt]
        cases hj : parseIndex token' with
        | none =>
          rw [SameOff, hi]
          exact ha
        | some j =>
          dsimp only
          rw [SameOff, hi]
          exact ha.modify fun _ v v' hv => ih hv
      · exact sameOff_refl _ _

/-- **Two values that are the same outside of one pointer's slot are equal once the slots of all
    pointers are overwritten**, whatever their order, and where they overlap. -/
theorem setAll_eq_of_sameOff (new : JsonValue) {pointers : List String} {pointer : String}
    {tokens : List String} (hmem : pointer ∈ pointers) (htokens : pointerTokens pointer = some tokens)
    {value value' : JsonValue} (h : SameOff tokens value value') :
    value.setAll pointers new = value'.setAll pointers new := by
  induction pointers generalizing value value' with
  | nil => cases hmem
  | cons p rest ih =>
    rw [JsonValue.setAll, JsonValue.setAll, List.foldl_cons, List.foldl_cons]
    rcases List.mem_cons.mp hmem with rfl | hmem
    · rw [htokens]
      exact congrArg (fun v => v.setAll rest new) (h.setAt_eq new)
    · cases hp : pointerTokens p with
      | none => exact ih hmem h
      | some tokens' => exact ih hmem (h.setAt new)

/-- Two values that differ only in the values in the slots of some pointers: one becomes the other
    by changes in one slot each. -/
def DifferOnlyAt (pointers : List String) : JsonValue → JsonValue → Prop :=
  Relation.EqvGen fun value value' =>
    ∃ pointer ∈ pointers, ∃ tokens, pointerTokens pointer = some tokens ∧ SameOff tokens value value'

/-- **What pointers name does not show once it is overwritten.** -/
theorem DifferOnlyAt.setAll_eq (new : JsonValue) {pointers : List String} {value value' : JsonValue}
    (h : DifferOnlyAt pointers value value') :
    value.setAll pointers new = value'.setAll pointers new := by
  induction h with
  | rel value value' h =>
    obtain ⟨pointer, hmem, tokens, htokens, hsame⟩ := h
    exact setAll_eq_of_sameOff new hmem htokens hsame
  | refl value => rfl
  | symm value value' _ ih => exact ih.symm
  | trans value value' value'' _ _ ih ih' => exact ih.trans ih'

end Uprava.Lib
