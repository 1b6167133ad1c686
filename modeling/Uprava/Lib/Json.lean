/-
  File:      Uprava/Lib/Json.lean
  Subject:   JSON values: objects as maps from keys to values, and the map operations that reading
             and rewriting an object need.

  A map lists its entries by key. Lookup, insertion and removal treat it as a map: `get_insert`
  and `get_remove` are their meaning, and the constructors are not used outside this file except
  to write a value down.
-/
import Mathlib.Data.List.Basic

namespace Uprava.Lib

mutual

/-- A JSON value. A number that is not an integer is kept as its digits. -/
inductive JsonValue where
  | null
  | bool (b : Bool)
  | int (n : Int)
  | float (digits : String)
  | string (s : String)
  | array (items : JsonArray)
  | object (fields : JsonMap)
  deriving DecidableEq

inductive JsonArray where
  | nil
  | cons (item : JsonValue) (rest : JsonArray)
  deriving DecidableEq

inductive JsonMap where
  | nil
  | cons (key : String) (value : JsonValue) (rest : JsonMap)
  deriving DecidableEq

end

namespace JsonMap

def get : JsonMap → String → Option JsonValue
  | nil, _ => none
  | cons k v rest, key => if k = key then some v else rest.get key

/-- Every entry of the key goes. -/
def remove : JsonMap → String → JsonMap
  | nil, _ => nil
  | cons k v rest, key => if k = key then rest.remove key else cons k v (rest.remove key)

/-- The entry replaces the key's entry, or takes its place in key order. -/
def insert : JsonMap → String → JsonValue → JsonMap
  | nil, key, value => cons key value nil
  | cons k v rest, key, value =>
    if k = key then cons key value rest
    else if key < k then cons key value (cons k v rest)
    else cons k v (rest.insert key value)

@[simp] theorem get_nil (key : String) : nil.get key = none := rfl

theorem get_remove (m : JsonMap) (key key' : String) :
    (m.remove key).get key' = if key' = key then none else m.get key' := by
  cases m with
  | nil => simp [remove]
  | cons k v rest =>
    have ih := get_remove rest key key'
    by_cases hk : k = key
    · subst hk
      rw [remove, if_pos rfl, ih, get]
      by_cases hk' : key' = k
      · rw [if_pos hk', if_pos hk']
      · rw [if_neg hk', if_neg hk', if_neg (Ne.symm hk')]
    · rw [remove, if_neg hk, get, get, ih]
      by_cases hk' : k = key'
      · subst hk'
        rw [if_pos rfl, if_neg hk, if_pos rfl]
      · rw [if_neg hk', if_neg hk']

/-- **Removing a key a second time removes nothing.** -/
@[simp] theorem remove_remove (m : JsonMap) (key : String) :
    (m.remove key).remove key = m.remove key := by
  cases m with
  | nil => rfl
  | cons k v rest =>
    have ih := remove_remove rest key
    by_cases hk : k = key
    · rw [remove, if_pos hk, ih]
    · rw [remove, if_neg hk, remove, if_neg hk, ih]

theorem get_insert (m : JsonMap) (key key' : String) (value : JsonValue) :
    (m.insert key value).get key' = if key = key' then some value else m.get key' := by
  cases m with
  | nil => simp [insert, get]
  | cons k v rest =>
    have ih := get_insert rest key key' value
    unfold insert
    by_cases hk : k = key
    · subst hk
      rw [if_pos rfl, get, get]
      by_cases hk' : k = key'
      · rw [if_pos hk', if_pos hk']
      · rw [if_neg hk', if_neg hk', if_neg hk']
    · rw [if_neg hk]
      split
      · rw [get]
      · rw [get, ih, get]
        by_cases hk' : k = key'
        · subst hk'
          rw [if_pos rfl, if_pos rfl, if_neg (Ne.symm hk)]
        · rw [if_neg hk', if_neg hk']

theorem get_foldl_insert (fields : List (String × JsonValue)) (m : JsonMap) (key : String) :
    (fields.foldl (fun m f => m.insert f.1 f.2) m).get key =
      (fields.reverse.lookup key).or (m.get key) := by
  induction fields generalizing m with
  | nil => simp
  | cons f fields ih =>
    rw [List.foldl_cons, ih, get_insert, List.reverse_cons, List.lookup_append]
    by_cases hf : f.1 = key
    · have heq : List.lookup key [f] = some f.2 := by
        rw [← hf]
        exact List.lookup_cons_self
      rw [if_pos hf, heq, Option.or_assoc]
      rfl
    · have hne : (key == f.1) = false := by simpa using Ne.symm hf
      rw [if_neg hf, List.lookup_cons, hne]
      simp

end JsonMap

namespace JsonValue

/-- `value.get(key)`: the entry of an object, nothing for any other value. -/
def get : JsonValue → String → Option JsonValue
  | object fields, key => fields.get key
  | _, _ => none

def asInt : JsonValue → Option Int
  | int n => some n
  | _ => none

def asStr : JsonValue → Option String
  | string s => some s
  | _ => none

/-- The object without the key; any other value as it is. -/
def remove : JsonValue → String → JsonValue
  | object fields, key => object (fields.remove key)
  | value, _ => value

@[simp] theorem remove_remove (value : JsonValue) (key : String) :
    (value.remove key).remove key = value.remove key := by
  cases value <;> simp [remove]

/-- `value["key"] = entry`: the entry of an object; any other value becomes an object first. -/
def set : JsonValue → String → JsonValue → JsonValue
  | object fields, key, entry => object (fields.insert key entry)
  | _, key, entry => object (JsonMap.nil.insert key entry)

theorem get_set (value : JsonValue) (key key' : String) (entry : JsonValue) :
    (value.set key entry).get key' = if key = key' then some entry else value.get key' := by
  cases value <;> simp [set, get, JsonMap.get_insert]

/-- The object that has these entries. -/
def ofFields (fields : List (String × JsonValue)) : JsonValue :=
  object (fields.foldl (fun m f => m.insert f.1 f.2) .nil)

/-- The last entry of a key is the object's. -/
theorem get_ofFields (fields : List (String × JsonValue)) (key : String) :
    (ofFields fields).get key = fields.reverse.lookup key := by
  simp [ofFields, get, JsonMap.get_foldl_insert]

/-- The object without entries. -/
def emptyObject : JsonValue := object .nil

end JsonValue

end Uprava.Lib
