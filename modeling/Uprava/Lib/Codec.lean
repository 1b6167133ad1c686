/-
  File:      Uprava/Lib/Codec.lean
  Subject:   Typed values as JSON: how a value is written and read back, and records whose fields
             are read either all together or one by one.

  A record is a list of fields, and its value a row. `strict` reads a row as a whole: one field
  that does not fit and there is no row. `lenient` reads each field by itself and falls back where
  one is missing or does not fit. What a row writes reads back both ways (`strict_of_written`,
  `lenient_of_written`). They differ in what one bad field costs: `lenient_keeps` holds of every
  field that fits, `strict_keeps` only where there is a row at all (`strict_isSome`).
-/
import Uprava.Lib.JsonSize

namespace Uprava.Lib

open JsonValue

/-! ## 1. Codecs -/

/-- How the values of a type are written and read. What is written reads back. -/
structure Codec (α : Type) where
  encode : α → JsonValue
  decode : JsonValue → Option α
  decode_encode : ∀ a, decode (encode a) = some a

/-- The names of an enumeration: no two of its values share one. -/
structure Names (K : Type) where
  all : List K
  name : K → String
  find_name : ∀ k, all.find? (name · == name k) = some k

def Names.read {K : Type} (n : Names K) (s : String) : Option K := n.all.find? (n.name · == s)

@[simp] theorem Names.read_name {K : Type} (n : Names K) (k : K) : n.read (n.name k) = some k :=
  n.find_name k

namespace Codec

variable {α : Type}

def text : Codec String where
  encode := .string
  decode := asStr
  decode_encode _ := rfl

def bool : Codec Bool where
  encode := .bool
  decode
    | .bool b => some b
    | _ => none
  decode_encode _ := rfl

/-- Any value at all, `null` with the others. -/
def json : Codec JsonValue where
  encode := id
  decode := some
  decode_encode _ := rfl

/-- Any value but `null`. -/
def present : Codec {v : JsonValue // v ≠ .null} where
  encode := Subtype.val
  decode v := if h : v = .null then none else some ⟨v, h⟩
  decode_encode a := dif_neg a.2

theorem present_ne_null (a : {v : JsonValue // v ≠ .null}) : present.encode a ≠ .null := a.2

theorem uint64_read (n : UInt64) :
    (if (0 : Int) ≤ n.toNat ∧ (n.toNat : Int) < 2 ^ 64 then
      some (UInt64.ofNat (n.toNat : Int).toNat) else none) = some n := by
  have hn := n.toNat_lt
  have hrange : (0 : Int) ≤ n.toNat ∧ (n.toNat : Int) < 2 ^ 64 := by omega
  rw [if_pos hrange, Int.toNat_natCast, UInt64.ofNat_toNat]

def uint64 : Codec UInt64 where
  encode n := .int n.toNat
  decode
    | .int n => if 0 ≤ n ∧ n < 2 ^ 64 then some (UInt64.ofNat n.toNat) else none
    | _ => none
  decode_encode := uint64_read

def int64 : Codec Int64 where
  encode n := .int n.toInt
  decode
    | .int n => if -2 ^ 63 ≤ n ∧ n < 2 ^ 63 then some (Int64.ofInt n) else none
    | _ => none
  decode_encode n := by
    dsimp only
    rw [if_pos ⟨n.le_toInt, n.toInt_lt⟩, Int64.ofInt_toInt]

def int32 : Codec Int32 where
  encode n := .int n.toInt
  decode
    | .int n => if -2 ^ 31 ≤ n ∧ n < 2 ^ 31 then some (Int32.ofInt n) else none
    | _ => none
  decode_encode n := by
    dsimp only
    rw [if_pos ⟨n.le_toInt, n.toInt_lt⟩, Int32.ofInt_toInt]

/-- `null` stands for no value, so no value may be written as `null`. -/
def option (c : Codec α) (hnull : ∀ a, c.encode a ≠ .null) : Codec (Option α) where
  encode
    | none => .null
    | some a => c.encode a
  decode v := if v = .null then some none else (c.decode v).map some
  decode_encode
    | none => rfl
    | some a => by
      dsimp only
      rw [if_neg (hnull a), c.decode_encode]
      rfl

theorem mapM_encode (c : Codec α) (as : List α) :
    (as.map c.encode).mapM c.decode = some as := by
  induction as with
  | nil => rfl
  | cons a as ih =>
    rw [List.map_cons, List.mapM_cons, c.decode_encode, ih]
    rfl

@[simp] theorem toList_ofList (items : List JsonValue) :
    (JsonArray.ofList items).toList = items := by
  induction items with
  | nil => rfl
  | cons item rest ih => rw [JsonArray.ofList, JsonArray.toList, ih]

def items (c : Codec α) : Codec (List α) where
  encode as := .ofItems (as.map c.encode)
  decode
    | .array items => items.toList.mapM c.decode
    | _ => none
  decode_encode as := by
    dsimp only [JsonValue.ofItems]
    rw [toList_ofList, c.mapM_encode]

/-- A value of an enumeration is its name. As an object with that one key and `null` it is read,
    and never written. -/
def enum {K : Type} (n : Names K) : Codec K where
  encode k := .string (n.name k)
  decode
    | .string s => n.read s
    | .object (.cons s .null .nil) => n.read s
    | _ => none
  decode_encode := n.read_name

end Codec

/-! ## 2. Fields and rows -/

/-- A field of a record: what a missing entry is read as when the record is read as a whole, and
    what a field that cannot be read falls back to when it is read by itself. -/
structure Field where
  Value : Type
  name : String
  codec : Codec Value
  missing : Option Value
  fallback : JsonValue → Value

namespace Field

def strict (f : Field) (v : JsonValue) : Option f.Value :=
  match v.get f.name with
  | none => f.missing
  | some x => f.codec.decode x

def lenient (f : Field) (v : JsonValue) : f.Value :=
  ((v.get f.name).bind f.codec.decode).getD (f.fallback v)

/-- The field can be read off the object. -/
def Fits (f : Field) (v : JsonValue) : Prop :=
  match v.get f.name with
  | none => f.missing.isSome
  | some x => (f.codec.decode x).isSome

variable {f : Field} {v : JsonValue}

theorem strict_isSome : (f.strict v).isSome ↔ f.Fits v := by
  unfold strict Fits
  split <;> rfl

theorem strict_of_get {a : f.Value} (h : v.get f.name = some (f.codec.encode a)) :
    f.strict v = some a := by
  rw [strict, h]
  exact f.codec.decode_encode a

theorem lenient_of_get {a : f.Value} (h : v.get f.name = some (f.codec.encode a)) :
    f.lenient v = a := by
  rw [lenient, h, Option.bind_some, f.codec.decode_encode]
  rfl

end Field

/-- The values of the fields, in their order. -/
def Row : List Field → Type
  | [] => Unit
  | f :: fs => f.Value × Row fs

def fieldNames (fs : List Field) : List String := fs.map (·.name)

/-- The object has these entries. -/
def Holds (v : JsonValue) (entries : List (String × JsonValue)) : Prop :=
  ∀ entry ∈ entries, v.get entry.1 = some entry.2

theorem Holds.get {v : JsonValue} {entries : List (String × JsonValue)} (h : Holds v entries)
    {key : String} {x : JsonValue} (hx : (key, x) ∈ entries) : v.get key = some x := h _ hx

/-- **An object made of entries with different keys has them all.** -/
theorem holds_ofFields {entries : List (String × JsonValue)}
    (hkeys : (entries.map Prod.fst).Nodup) : Holds (ofFields entries) entries := by
  rintro ⟨key, x⟩ hx
  rw [get_ofFields]
  induction entries with
  | nil => cases hx
  | cons entry rest ih =>
    rw [List.map_cons, List.nodup_cons] at hkeys
    rw [List.reverse_cons, List.lookup_append]
    rcases List.mem_cons.mp hx with rfl | hx
    · have hrest : rest.reverse.lookup key = none := by
        rw [List.lookup_eq_none_iff]
        intro p hp
        have hmem : p.1 ∈ rest.map Prod.fst := List.mem_map_of_mem (List.mem_reverse.mp hp)
        simpa using (ne_of_mem_of_not_mem hmem hkeys.1).symm
      rw [hrest, Option.none_or, List.lookup_cons_self]
    · rw [ih hkeys.2 hx, Option.some_or]

namespace Row

section Parts

variable {f : Field} {fs : List Field}

def cons (a : f.Value) (row : Row fs) : Row (f :: fs) := (a, row)

def head (row : Row (f :: fs)) : f.Value := Prod.fst row

def tail (row : Row (f :: fs)) : Row fs := Prod.snd row

theorem cons_head_tail (row : Row (f :: fs)) : cons row.head row.tail = row := rfl

end Parts

def write : (fs : List Field) → Row fs → List (String × JsonValue)
  | [], _ => []
  | f :: fs, row => (f.name, f.codec.encode row.head) :: write fs row.tail

/-- The row, when every field can be read. -/
def strict : (fs : List Field) → JsonValue → Option (Row fs)
  | [], _ => some ()
  | f :: fs, v => (f.strict v).bind fun a => (strict fs v).map (cons a)

/-- Each field by itself. -/
def lenient : (fs : List Field) → JsonValue → Row fs
  | [], _ => ()
  | f :: fs, v => cons (f.lenient v) (lenient fs v)

/-- The row whose fields come one after the other, with nothing behind them. -/
def ofItems : (fs : List Field) → List JsonValue → Option (Row fs)
  | [], [] => some ()
  | f :: fs, x :: items => (f.codec.decode x).bind fun a => (ofItems fs items).map (cons a)
  | _, _ => none

theorem head_mem_write {f : Field} {fs : List Field} (row : Row (f :: fs)) :
    (f.name, f.codec.encode row.head) ∈ write (f :: fs) row := List.mem_cons_self

theorem names_write : ∀ (fs : List Field) (row : Row fs),
    (write fs row).map Prod.fst = fieldNames fs
  | [], _ => rfl
  | f :: fs, row => congrArg (f.name :: ·) (names_write fs row.tail)

theorem strict_of_written : ∀ (fs : List Field) (row : Row fs) (v : JsonValue),
    Holds v (write fs row) → strict fs v = some row
  | [], _, _, _ => rfl
  | f :: fs, row, v, h => by
    have hhead : f.strict v = some row.head := Field.strict_of_get (h _ List.mem_cons_self)
    have htail := strict_of_written fs row.tail v fun entry he =>
      h entry (List.mem_cons_of_mem _ he)
    rw [strict, hhead, htail]
    rfl

theorem lenient_of_written : ∀ (fs : List Field) (row : Row fs) (v : JsonValue),
    Holds v (write fs row) → lenient fs v = row
  | [], _, _, _ => rfl
  | f :: fs, row, v, h => by
    have hhead : f.lenient v = row.head := Field.lenient_of_get (h _ List.mem_cons_self)
    have htail := lenient_of_written fs row.tail v fun entry he =>
      h entry (List.mem_cons_of_mem _ he)
    rw [lenient, hhead, htail, cons_head_tail]

/-- **Read by itself, a field that fits keeps its value**, whatever the other fields are. -/
theorem lenient_keeps : ∀ {fs : List Field} {v : JsonValue} {f : Field}, f ∈ fs →
    ∀ {x : JsonValue} {a : f.Value}, v.get f.name = some x → f.codec.decode x = some a →
      (f.name, f.codec.encode a) ∈ write fs (lenient fs v)
  | g :: fs, v, f, hf, x, a, hx, ha => by
    show _ ∈ (g.name, g.codec.encode (g.lenient v)) :: write fs (lenient fs v)
    rcases List.mem_cons.mp hf with rfl | hf
    · have hread : f.lenient v = a := by
        rw [Field.lenient, hx, Option.bind_some, ha]
        rfl
      rw [hread]
      exact List.mem_cons_self
    · exact List.mem_cons_of_mem _ (lenient_keeps hf hx ha)

theorem strict_keeps : ∀ {fs : List Field} {v : JsonValue} {row : Row fs} {f : Field},
    strict fs v = some row → f ∈ fs →
    ∀ {x : JsonValue} {a : f.Value}, v.get f.name = some x → f.codec.decode x = some a →
      (f.name, f.codec.encode a) ∈ write fs row
  | g :: fs, v, row, f, hrow, hf, x, a, hx, ha => by
    obtain ⟨b, hb, hrow⟩ := Option.bind_eq_some_iff.mp hrow
    obtain ⟨row, hrest, rfl⟩ := Option.map_eq_some_iff.mp hrow
    show _ ∈ (g.name, g.codec.encode b) :: write fs row
    rcases List.mem_cons.mp hf with rfl | hf
    · rw [Field.strict, hx] at hb
      obtain rfl : a = b := Option.some.inj (ha.symm.trans hb)
      exact List.mem_cons_self
    · exact List.mem_cons_of_mem _ (strict_keeps hrest hf hx ha)

/-- **Read as a whole, there is a row only if every field fits.** -/
theorem strict_isSome : ∀ {fs : List Field} {v : JsonValue},
    (strict fs v).isSome ↔ ∀ f ∈ fs, f.Fits v
  | [], _ => ⟨fun _ _ hf => (List.not_mem_nil hf).elim, fun _ => rfl⟩
  | f :: fs, v => by
    have hf := Field.strict_isSome (f := f) (v := v)
    have hfs := @strict_isSome fs v
    rw [List.forall_mem_cons, ← hf, ← hfs, strict]
    cases f.strict v with
    | none =>
      rw [Option.bind_none]
      simp
    | some a =>
      rw [Option.bind_some, Option.isSome_map]
      simp

end Row

/-! ## 3. Records and tagged unions -/

namespace Codec

/-- A record: an object, read as a whole. As an array it is read field by field in order, and never
    written. -/
def record (fs : List Field) (distinct : (fieldNames fs).Nodup) : Codec (Row fs) where
  encode row := ofFields (Row.write fs row)
  decode
    | .object fields => Row.strict fs (.object fields)
    | .array items => Row.ofItems fs items.toList
    | _ => none
  decode_encode row := by
    have hkeys : ((Row.write fs row).map Prod.fst).Nodup := Row.names_write fs row ▸ distinct
    exact Row.strict_of_written fs row _ (holds_ofFields hkeys)

theorem record_ne_null {fs : List Field} {distinct : (fieldNames fs).Nodup} (row : Row fs) :
    (record fs distinct).encode row ≠ .null := by
  intro h
  cases h

/-- A union of records that a field names the alternative of. -/
def tagged {K : Type} (tag : String) (n : Names K) (fs : K → List Field)
    (distinct : ∀ k, (tag :: fieldNames (fs k)).Nodup) : Codec (Σ k, Row (fs k)) where
  encode e := ofFields ((tag, .string (n.name e.1)) :: Row.write (fs e.1) e.2)
  decode
    | .object fields =>
      ((((JsonValue.object fields).get tag).bind asStr).bind n.read).bind fun k =>
        (Row.strict (fs k) (.object fields)).map (⟨k, ·⟩)
    | .array (.cons (.string s) items) =>
      (n.read s).bind fun k => (Row.ofItems (fs k) items.toList).map (⟨k, ·⟩)
    | _ => none
  decode_encode e := by
    obtain ⟨k, row⟩ := e
    have hkeys : (((tag, JsonValue.string (n.name k)) :: Row.write (fs k) row).map
        Prod.fst).Nodup := by
      rw [List.map_cons, Row.names_write]
      exact distinct k
    have hholds := holds_ofFields hkeys
    have htag := hholds _ List.mem_cons_self
    have hrow := Row.strict_of_written (fs k) row _ fun entry he =>
      hholds entry (List.mem_cons_of_mem _ he)
    dsimp only [ofFields] at htag hrow ⊢
    rw [htag, Option.bind_some, asStr, Option.bind_some, n.read_name, Option.bind_some, hrow]
    rfl

end Codec

end Uprava.Lib
