/-
  File:      Uprava/Lib/JsonSize.lean
  Subject:   How large a JSON value is: the bytes of its compact encoding, its strings and its
             nesting.

  * `encodedLen`            -- bytes, with the escapes of a string literal;
  * `AllStrings`            -- every string in it, keys apart, satisfies a predicate;
  * `nesting`               -- how many arrays and objects its deepest value lies in;
  * `encodedLen_ofFields`, `allStrings_ofFields`, `nesting_ofFields` -- the three of an object that
                               is written down field by field.

  * `Sized`                 -- a value together with its three measures, built up as the value is.

  An object built from a list of fields holds them in key order. `toList_ofFields` says that its
  entries are a permutation of the list, from which the three measures are read off.
-/
import Mathlib.Algebra.GroupWithZero.Nat
import Mathlib.Data.List.Perm.Basic
import Mathlib.Algebra.BigOperators.Group.List.Basic
import Uprava.Lib.Json

namespace Uprava.Lib

/-! ## 1. Measures -/

/-- What a character takes in a string literal: a short escape, `\u00XX`, or itself. -/
def charBytes (c : Char) : Nat :=
  if c.toNat = 0x22 ∨ c.toNat = 0x5C then 2
  else if c.toNat < 0x20 then
    if c.toNat ∈ [0x08, 0x09, 0x0A, 0x0C, 0x0D] then 2 else 6
  else c.utf8Size

/-- A string literal with its quotes. -/
def quotedLen (s : String) : Nat := (s.toList.map charBytes).sum + 2

mutual

/-- The bytes of the value without spaces. A comma is counted with each entry and taken back once. -/
def JsonValue.encodedLen : JsonValue → Nat
  | .null => 4
  | .bool b => if b then 4 else 5
  | .int n => (toString n).length
  | .float digits => digits.utf8ByteSize
  | .string s => quotedLen s
  | .array items => 2 + (items.itemsLen - 1)
  | .object fields => 2 + (fields.entriesLen - 1)

def JsonArray.itemsLen : JsonArray → Nat
  | .nil => 0
  | .cons item rest => item.encodedLen + 1 + rest.itemsLen

def JsonMap.entriesLen : JsonMap → Nat
  | .nil => 0
  | .cons key value rest => quotedLen key + value.encodedLen + 2 + rest.entriesLen

end

mutual

def JsonValue.AllStrings (p : String → Prop) : JsonValue → Prop
  | .string s => p s
  | .array items => items.AllStrings p
  | .object fields => fields.AllStrings p
  | _ => True

def JsonArray.AllStrings (p : String → Prop) : JsonArray → Prop
  | .nil => True
  | .cons item rest => item.AllStrings p ∧ rest.AllStrings p

def JsonMap.AllStrings (p : String → Prop) : JsonMap → Prop
  | .nil => True
  | .cons _ value rest => value.AllStrings p ∧ rest.AllStrings p

end

mutual

def JsonValue.nesting : JsonValue → Nat
  | .array items => items.nesting
  | .object fields => fields.nesting
  | _ => 0

def JsonArray.nesting : JsonArray → Nat
  | .nil => 0
  | .cons item rest => max (item.nesting + 1) rest.nesting

def JsonMap.nesting : JsonMap → Nat
  | .nil => 0
  | .cons _ value rest => max (value.nesting + 1) rest.nesting

end

/-- The bytes of an object whose fields take so many. -/
def fieldsLen (fields : List (String × Nat)) : Nat :=
  2 + ((fields.map fun f => quotedLen f.1 + f.2 + 2).sum - 1)

/-- The bytes of an array whose items take so many. -/
def itemsLen (items : List Nat) : Nat := 2 + ((items.map (· + 1)).sum - 1)

/-! ## 2. Arrays -/

def JsonArray.ofList : List JsonValue → JsonArray
  | [] => .nil
  | item :: rest => .cons item (.ofList rest)

def JsonArray.toList : JsonArray → List JsonValue
  | .nil => []
  | .cons item rest => item :: rest.toList

/-- The array of these items. -/
def JsonValue.ofItems (items : List JsonValue) : JsonValue := .array (.ofList items)

@[simp] theorem encodedLen_ofItems (items : List JsonValue) :
    (JsonValue.ofItems items).encodedLen = itemsLen (items.map (·.encodedLen)) := by
  have hsum : ∀ items : List JsonValue, (JsonArray.ofList items).itemsLen =
      ((items.map (·.encodedLen)).map (· + 1)).sum := by
    intro items
    induction items with
    | nil => rfl
    | cons item rest ih => simp [JsonArray.ofList, JsonArray.itemsLen, ih]
  rw [JsonValue.ofItems, JsonValue.encodedLen, hsum, itemsLen]

@[simp] theorem allStrings_ofItems (p : String → Prop) (items : List JsonValue) :
    (JsonValue.ofItems items).AllStrings p ↔ ∀ v ∈ items, v.AllStrings p := by
  have hall : ∀ items : List JsonValue, (JsonArray.ofList items).AllStrings p ↔
      ∀ v ∈ items, v.AllStrings p := by
    intro items
    induction items with
    | nil => simp [JsonArray.ofList, JsonArray.AllStrings]
    | cons item rest ih => simp [JsonArray.ofList, JsonArray.AllStrings, ih]
  rw [JsonValue.ofItems, JsonValue.AllStrings, hall]

@[simp] theorem nesting_ofItems (items : List JsonValue) (n : Nat) :
    (JsonValue.ofItems items).nesting ≤ n ↔ ∀ v ∈ items, v.nesting + 1 ≤ n := by
  have hall : ∀ items : List JsonValue, (JsonArray.ofList items).nesting ≤ n ↔
      ∀ v ∈ items, v.nesting + 1 ≤ n := by
    intro items
    induction items with
    | nil => simp [JsonArray.ofList, JsonArray.nesting]
    | cons item rest ih =>
      rw [JsonArray.ofList, JsonArray.nesting, Nat.max_le, ih, List.forall_mem_cons]
  rw [JsonValue.ofItems, JsonValue.nesting, hall]

/-! ## 3. Objects -/

namespace JsonMap

def toList : JsonMap → List (String × JsonValue)
  | nil => []
  | cons key value rest => (key, value) :: rest.toList

theorem entriesLen_eq (m : JsonMap) :
    m.entriesLen = (m.toList.map fun f => quotedLen f.1 + f.2.encodedLen + 2).sum := by
  cases m with
  | nil => rfl
  | cons key value rest =>
    rw [entriesLen, toList, List.map_cons, List.sum_cons, entriesLen_eq rest]

theorem allStrings_iff (p : String → Prop) (m : JsonMap) :
    m.AllStrings p ↔ ∀ f ∈ m.toList, f.2.AllStrings p := by
  cases m with
  | nil => simp [AllStrings, toList]
  | cons key value rest =>
    rw [AllStrings, toList, List.forall_mem_cons, allStrings_iff p rest]

theorem nesting_le_iff (m : JsonMap) (n : Nat) :
    m.nesting ≤ n ↔ ∀ f ∈ m.toList, f.2.nesting + 1 ≤ n := by
  cases m with
  | nil => simp [nesting, toList]
  | cons key value rest =>
    rw [nesting, toList, List.forall_mem_cons, Nat.max_le, nesting_le_iff rest]

/-- A key that is not there is added. -/
theorem toList_insert {m : JsonMap} {key : String} (value : JsonValue) (h : m.get key = none) :
    (m.insert key value).toList.Perm ((key, value) :: m.toList) := by
  cases m with
  | nil => exact List.Perm.refl _
  | cons k v rest =>
    rw [get] at h
    by_cases hk : k = key
    · rw [if_pos hk] at h
      cases h
    · rw [if_neg hk] at h
      rw [insert, if_neg hk]
      split
      · exact List.Perm.refl _
      · exact ((toList_insert value h).cons (k, v)).trans (List.Perm.swap ..)

theorem toList_foldl_insert {fields : List (String × JsonValue)} {m : JsonMap}
    (hkeys : (fields.map (·.1)).Nodup) (hfresh : ∀ f ∈ fields, m.get f.1 = none) :
    (fields.foldl (fun m f => m.insert f.1 f.2) m).toList.Perm (fields ++ m.toList) := by
  induction fields generalizing m with
  | nil => exact List.Perm.refl _
  | cons f fields ih =>
    obtain ⟨hnot, hrest⟩ := List.nodup_cons.mp hkeys
    have hfresh' : ∀ g ∈ fields, (m.insert f.1 f.2).get g.1 = none := by
      intro g hg
      have hne : f.1 ≠ g.1 := fun h => hnot (List.mem_map.mpr ⟨g, hg, h.symm⟩)
      rw [get_insert, if_neg hne]
      exact hfresh g (List.mem_cons_of_mem _ hg)
    have hinsert := toList_insert f.2 (hfresh f (List.mem_cons_self ..))
    exact (ih hrest hfresh').trans
      ((hinsert.append_left fields).trans List.perm_middle)

end JsonMap

section Fields

variable {fields : List (String × JsonValue)}

/-- **The entries of an object are the fields it was built from.** -/
theorem toList_ofFields (hkeys : (fields.map (·.1)).Nodup) :
    ∃ m, JsonValue.ofFields fields = .object m ∧ m.toList.Perm fields := by
  have hperm := JsonMap.toList_foldl_insert (m := .nil) hkeys fun _ _ => rfl
  rw [JsonMap.toList, List.append_nil] at hperm
  exact ⟨_, rfl, hperm⟩

theorem encodedLen_ofFields (hkeys : (fields.map (·.1)).Nodup) :
    (JsonValue.ofFields fields).encodedLen =
      fieldsLen (fields.map fun f => (f.1, f.2.encodedLen)) := by
  obtain ⟨m, hm, hperm⟩ := toList_ofFields hkeys
  rw [hm, JsonValue.encodedLen, JsonMap.entriesLen_eq, fieldsLen, List.map_map,
    (hperm.map fun f => quotedLen f.1 + f.2.encodedLen + 2).sum_eq]
  rfl

/-- Smaller values under the same keys make a smaller object. -/
theorem encodedLen_ofFields_le {fields' : List (String × JsonValue)}
    (hkeys : (fields.map (·.1)).Nodup)
    (h : List.Forall₂ (fun f f' => f.1 = f'.1 ∧ f.2.encodedLen ≤ f'.2.encodedLen) fields fields') :
    (JsonValue.ofFields fields).encodedLen ≤ (JsonValue.ofFields fields').encodedLen := by
  have hsame : fields.map (·.1) = fields'.map (·.1) := by
    clear hkeys
    induction h with
    | nil => rfl
    | cons hf _ ih => rw [List.map_cons, List.map_cons, hf.1, ih]
  have hsum : ((fields.map fun f => (f.1, f.2.encodedLen)).map
      fun f => quotedLen f.1 + f.2 + 2).sum ≤
        ((fields'.map fun f => (f.1, f.2.encodedLen)).map fun f => quotedLen f.1 + f.2 + 2).sum := by
    clear hkeys hsame
    induction h with
    | nil => exact Nat.le_refl _
    | cons hf _ ih =>
      have hkey := hf.1
      have hvalue := hf.2
      simp only [List.map_cons, List.sum_cons, hkey] at ih ⊢
      omega
  rw [encodedLen_ofFields hkeys, encodedLen_ofFields (hsame ▸ hkeys), fieldsLen, fieldsLen]
  omega

theorem allStrings_ofFields (p : String → Prop) (hkeys : (fields.map (·.1)).Nodup) :
    (JsonValue.ofFields fields).AllStrings p ↔ ∀ f ∈ fields, f.2.AllStrings p := by
  obtain ⟨m, hm, hperm⟩ := toList_ofFields hkeys
  rw [hm, JsonValue.AllStrings, JsonMap.allStrings_iff]
  exact forall_congr' fun f => imp_congr_left hperm.mem_iff

theorem nesting_ofFields (hkeys : (fields.map (·.1)).Nodup) (n : Nat) :
    (JsonValue.ofFields fields).nesting ≤ n ↔ ∀ f ∈ fields, f.2.nesting + 1 ≤ n := by
  obtain ⟨m, hm, hperm⟩ := toList_ofFields hkeys
  rw [hm, JsonValue.nesting, JsonMap.nesting_le_iff]
  exact forall_congr' fun f => imp_congr_left hperm.mem_iff

end Fields

/-! ## 4. Values that carry their size -/

/-- A value with the texts in it that may be longer than `short`, its bytes and a bound on its
    nesting. -/
structure Sized (short depth : Nat) where
  value : JsonValue
  texts : List String
  len : Nat
  texts_iff : ∀ n, short ≤ n → (value.AllStrings (·.length ≤ n) ↔ ∀ t ∈ texts, t.length ≤ n)
  len_eq : value.encodedLen = len
  nesting_le : value.nesting ≤ depth

namespace Sized

variable {short depth : Nat}

def text (s : String) : Sized short depth where
  value := .string s
  texts := [s]
  len := quotedLen s
  texts_iff _ _ := by simp [JsonValue.AllStrings]
  len_eq := by rw [JsonValue.encodedLen]
  nesting_le := by simp [JsonValue.nesting]

/-- A text that is known to be short. -/
def label (s : String) (h : s.length ≤ short) : Sized short depth where
  value := .string s
  texts := []
  len := quotedLen s
  texts_iff n hn := by simp [JsonValue.AllStrings, Nat.le_trans h hn]
  len_eq := by rw [JsonValue.encodedLen]
  nesting_le := by simp [JsonValue.nesting]

def bool (b : Bool) : Sized short depth where
  value := .bool b
  texts := []
  len := if b then 4 else 5
  texts_iff _ _ := by simp [JsonValue.AllStrings]
  len_eq := by rw [JsonValue.encodedLen]
  nesting_le := by simp [JsonValue.nesting]

def nat (n : Nat) : Sized short depth where
  value := .int n
  texts := []
  len := (toString (n : Int)).length
  texts_iff _ _ := by simp [JsonValue.AllStrings]
  len_eq := by rw [JsonValue.encodedLen]
  nesting_le := by simp [JsonValue.nesting]

def null : Sized short depth where
  value := .null
  texts := []
  len := 4
  texts_iff _ _ := by simp [JsonValue.AllStrings]
  len_eq := by rw [JsonValue.encodedLen]
  nesting_le := by simp [JsonValue.nesting]

/-- The value, or null. -/
def optional {α : Type} (size : α → Sized short depth) : Option α → Sized short depth
  | some a => size a
  | none => null

def items (xs : List (Sized short depth)) : Sized short (depth + 1) where
  value := .ofItems (xs.map (·.value))
  texts := xs.flatMap (·.texts)
  len := itemsLen (xs.map (·.len))
  texts_iff n hn := by
    rw [allStrings_ofItems, List.forall_mem_map]
    constructor
    · intro h t ht
      obtain ⟨x, hx, htx⟩ := List.mem_flatMap.mp ht
      exact (x.texts_iff n hn).mp (h x hx) t htx
    · intro h x hx
      exact (x.texts_iff n hn).mpr fun t ht => h t (List.mem_flatMap.mpr ⟨x, hx, ht⟩)
  len_eq := by
    rw [encodedLen_ofItems, List.map_map]
    exact congrArg itemsLen (List.map_congr_left fun x _ => x.len_eq)
  nesting_le := by
    rw [nesting_ofItems, List.forall_mem_map]
    exact fun x _ => Nat.succ_le_succ x.nesting_le

/-- The object of these fields. -/
def fields (fs : List (String × Sized short depth)) (hkeys : (fs.map (·.1)).Nodup) :
    Sized short (depth + 1) where
  value := .ofFields (fs.map fun f => (f.1, f.2.value))
  texts := fs.flatMap (·.2.texts)
  len := fieldsLen (fs.map fun f => (f.1, f.2.len))
  texts_iff n hn := by
    rw [allStrings_ofFields]
    · rw [List.forall_mem_map]
      constructor
      · intro h t ht
        obtain ⟨f, hf, htf⟩ := List.mem_flatMap.mp ht
        exact (f.2.texts_iff n hn).mp (h f hf) t htf
      · intro h f hf
        exact (f.2.texts_iff n hn).mpr fun t ht => h t (List.mem_flatMap.mpr ⟨f, hf, ht⟩)
    · rw [List.map_map]
      exact hkeys
  len_eq := by
    rw [encodedLen_ofFields]
    · rw [List.map_map]
      exact congrArg fieldsLen (List.map_congr_left fun f _ => congrArg _ f.2.len_eq)
    · rw [List.map_map]
      exact hkeys
  nesting_le := by
    rw [nesting_ofFields]
    · rw [List.forall_mem_map]
      exact fun f _ => Nat.succ_le_succ f.2.nesting_le
    · rw [List.map_map]
      exact hkeys

end Sized

end Uprava.Lib
