/-
  File:      Uprava/Lib/JsonText.lean
  Subject:   The compact encoding of a JSON value as a text, and texts cut to a number of bytes.

  * `JsonValue.encode`          -- the text of a value, in the order of its entries;
  * `utf8ByteSize_encode`       -- it takes `encodedLen` bytes;
  * `prefixWithin`              -- the longest prefix of whole characters within some bytes;
  * `bounded`                   -- a text that fits, or a prefix of it that ends in three dots.
-/
import Mathlib.Tactic.IntervalCases
import Uprava.Lib.JsonSize

namespace Uprava.Lib

/-! ## 1. Characters and their bytes -/

/-- The bytes of some characters. -/
def bytes (cs : List Char) : Nat := (cs.map Char.utf8Size).sum

@[simp] theorem bytes_nil : bytes [] = 0 := rfl

@[simp] theorem bytes_cons (c : Char) (cs : List Char) : bytes (c :: cs) = c.utf8Size + bytes cs :=
  rfl

@[simp] theorem bytes_append (cs ds : List Char) : bytes (cs ++ ds) = bytes cs + bytes ds := by
  simp [bytes]

theorem utf8ByteSize_ofList (cs : List Char) : (String.ofList cs).utf8ByteSize = bytes cs := by
  induction cs with
  | nil => rfl
  | cons c cs ih =>
    rw [show String.ofList (c :: cs) = String.singleton c ++ String.ofList cs by simp,
      String.utf8ByteSize_append, String.utf8ByteSize_singleton, ih, bytes_cons]

theorem bytes_of_ascii {cs : List Char} (h : ∀ c ∈ cs, c.utf8Size = 1) : bytes cs = cs.length := by
  induction cs with
  | nil => rfl
  | cons c cs ih =>
    rw [bytes_cons, h c List.mem_cons_self, ih fun d hd => h d (List.mem_cons_of_mem _ hd),
      List.length_cons, Nat.add_comm]

/-! ## 2. Encoding -/

/-- A digit of a hexadecimal number. -/
def hexDigit (n : Nat) : Char := Char.ofNat (if n < 10 then 0x30 + n else 0x57 + n)

def quote : Char := Char.ofNat 0x22

def backslash : Char := Char.ofNat 0x5C

/-- A character in a string literal. -/
def escaped (c : Char) : List Char :=
  if c.toNat = 0x22 ∨ c.toNat = 0x5C then [backslash, c]
  else if c.toNat < 0x20 then
    if c.toNat = 0x08 then [backslash, 'b']
    else if c.toNat = 0x09 then [backslash, 't']
    else if c.toNat = 0x0A then [backslash, 'n']
    else if c.toNat = 0x0C then [backslash, 'f']
    else if c.toNat = 0x0D then [backslash, 'r']
    else [backslash, 'u', '0', '0', hexDigit (c.toNat / 16), hexDigit (c.toNat % 16)]
  else [c]

def quoted (s : String) : List Char := quote :: s.toList.flatMap escaped ++ [quote]

mutual

def JsonValue.chars : JsonValue → List Char
  | .null => "null".toList
  | .bool b => (if b then "true" else "false").toList
  | .int n => (toString n).toList
  | .float digits => digits.toList
  | .string s => quoted s
  | .array items => '[' :: items.chars true ++ [']']
  | .object fields => '{' :: fields.chars true ++ ['}']

/-- The items with the commas between them. -/
def JsonArray.chars : JsonArray → Bool → List Char
  | .nil, _ => []
  | .cons item rest, first => (if first then [] else [',']) ++ item.chars ++ rest.chars false

def JsonMap.chars : JsonMap → Bool → List Char
  | .nil, _ => []
  | .cons key value rest, first =>
    (if first then [] else [',']) ++ quoted key ++ ':' :: value.chars ++ rest.chars false

end

/-- `serde_json::to_string` -/
def JsonValue.encode (value : JsonValue) : String := String.ofList value.chars

/-! ## 3. The size of an encoding -/

/-- The digits and the sign of an integer take a byte each. -/
theorem bytes_toString_int (n : Int) : bytes (toString n).toList = (toString n).length := by
  have hdigit : ∀ c : Char, c.isDigit = true → c.utf8Size = 1 := by
    intro c hc
    rw [Char.utf8Size_eq_one_iff]
    simp only [Char.isDigit, Bool.and_eq_true, decide_eq_true_eq] at hc
    exact UInt32.le_trans hc.2 (by decide)
  have hnat : ∀ k : Nat, ∀ c ∈ k.repr.toList, c.utf8Size = 1 := by
    intro k c hc
    refine hdigit c (Nat.isDigit_of_mem_toDigits (b := 10) (n := k) (by decide) (by decide) ?_)
    simpa [Nat.repr] using hc
  rw [← String.length_toList]
  refine bytes_of_ascii fun c hc => ?_
  rw [Int.toString_eq_repr, Int.repr_eq_if] at hc
  split at hc
  · exact hnat _ c hc
  · rw [String.toList_append, List.mem_append] at hc
    rcases hc with hc | hc
    · obtain rfl : c = '-' := by simpa using hc
      decide
    · exact hnat _ c hc

theorem utf8Size_hexDigit {n : Nat} (h : n < 16) : (hexDigit n).utf8Size = 1 := by
  interval_cases n <;> decide

theorem bytes_escaped (c : Char) : bytes (escaped c) = charBytes c := by
  have hhigh : c.toNat < 0x20 → (hexDigit (c.toNat / 16)).utf8Size = 1 := fun h =>
    utf8Size_hexDigit (by omega)
  have hlow : (hexDigit (c.toNat % 16)).utf8Size = 1 := utf8Size_hexDigit (by omega)
  have hslash : backslash.utf8Size = 1 := by decide
  have hascii : c.toNat ≤ 127 → c.utf8Size = 1 := fun h => by
    rw [Char.utf8Size_eq_one_iff, UInt32.le_iff_toNat_le]
    exact h
  rw [escaped, charBytes]
  by_cases hquote : c.toNat = 0x22 ∨ c.toNat = 0x5C
  · rw [if_pos hquote, if_pos hquote, bytes_cons, bytes_cons, bytes_nil, hslash,
      hascii (by omega)]
  · rw [if_neg hquote, if_neg hquote]
    by_cases hcontrol : c.toNat < 0x20
    · rw [if_pos hcontrol, if_pos hcontrol]
      have hletters : 'b'.utf8Size = 1 ∧ 't'.utf8Size = 1 ∧ 'n'.utf8Size = 1 ∧ 'f'.utf8Size = 1 ∧
          'r'.utf8Size = 1 ∧ 'u'.utf8Size = 1 ∧ '0'.utf8Size = 1 := by decide
      obtain ⟨hb, ht, hn, hf, hr, hu, h0⟩ := hletters
      by_cases h8 : c.toNat = 0x08
      · simp [h8, hslash, hb]
      by_cases h9 : c.toNat = 0x09
      · simp [h9, hslash, ht]
      by_cases hA : c.toNat = 0x0A
      · simp [hA, hslash, hn]
      by_cases hC : c.toNat = 0x0C
      · simp [hC, hslash, hf]
      by_cases hD : c.toNat = 0x0D
      · simp [hD, hslash, hr]
      simp [h8, h9, hA, hC, hD, hslash, hu, h0, hhigh hcontrol, hlow]
    · rw [if_neg hcontrol, if_neg hcontrol, bytes_cons, bytes_nil, Nat.add_zero]

theorem bytes_quoted (s : String) : bytes (quoted s) = quotedLen s := by
  have hquote : quote.utf8Size = 1 := by decide
  have hall : ∀ cs : List Char, bytes (cs.flatMap escaped) = (cs.map charBytes).sum := by
    intro cs
    induction cs with
    | nil => rfl
    | cons c cs ih => rw [List.flatMap_cons, bytes_append, bytes_escaped, ih, List.map_cons,
        List.sum_cons]
  rw [quoted, List.cons_append, bytes_cons, bytes_append, bytes_cons, bytes_nil, hall, hquote,
    quotedLen]
  omega

mutual

/-- **The encoding of a value takes `encodedLen` bytes.** -/
theorem bytes_chars : ∀ value : JsonValue, bytes value.chars = value.encodedLen
  | .null => by decide
  | .bool true => by decide
  | .bool false => by decide
  | .int n => bytes_toString_int n
  | .float digits => by
    rw [JsonValue.chars, JsonValue.encodedLen, ← utf8ByteSize_ofList, String.ofList_toList]
  | .string s => bytes_quoted s
  | .array items => by
    have hopen : '['.utf8Size = 1 ∧ ']'.utf8Size = 1 := by decide
    rw [JsonValue.chars, JsonValue.encodedLen, List.cons_append, bytes_cons, bytes_append,
      bytes_cons, bytes_nil, bytes_items items, hopen.1, hopen.2]
    omega
  | .object fields => by
    have hopen : '{'.utf8Size = 1 ∧ '}'.utf8Size = 1 := by decide
    rw [JsonValue.chars, JsonValue.encodedLen, List.cons_append, bytes_cons, bytes_append,
      bytes_cons, bytes_nil, bytes_entries fields, hopen.1, hopen.2]
    omega

theorem bytes_items : ∀ items : JsonArray, bytes (items.chars true) = items.itemsLen - 1
  | .nil => rfl
  | .cons item rest => by
    rw [JsonArray.chars, if_pos rfl, List.nil_append, bytes_append, bytes_chars item,
      bytes_moreItems rest, JsonArray.itemsLen]
    omega

theorem bytes_moreItems : ∀ items : JsonArray, bytes (items.chars false) = items.itemsLen
  | .nil => rfl
  | .cons item rest => by
    have hcomma : ','.utf8Size = 1 := by decide
    rw [JsonArray.chars, if_neg (by simp), bytes_append, bytes_append, bytes_cons, bytes_nil,
      bytes_chars item, bytes_moreItems rest, JsonArray.itemsLen, hcomma]
    omega

theorem bytes_entries : ∀ fields : JsonMap, bytes (fields.chars true) = fields.entriesLen - 1
  | .nil => rfl
  | .cons key value rest => by
    have hcolon : ':'.utf8Size = 1 := by decide
    rw [JsonMap.chars, if_pos rfl, List.nil_append, List.append_assoc, List.cons_append,
      bytes_append, bytes_cons, bytes_append, bytes_quoted, bytes_chars value,
      bytes_moreEntries rest, JsonMap.entriesLen, hcolon]
    omega

theorem bytes_moreEntries : ∀ fields : JsonMap, bytes (fields.chars false) = fields.entriesLen
  | .nil => rfl
  | .cons key value rest => by
    have hpoints : ','.utf8Size = 1 ∧ ':'.utf8Size = 1 := by decide
    have hentry : bytes (':' :: value.chars) = value.encodedLen + 1 := by
      rw [bytes_cons, bytes_chars value, hpoints.2, Nat.add_comm]
    rw [JsonMap.chars, if_neg (by simp), bytes_append, bytes_append, bytes_append, bytes_cons,
      bytes_nil, bytes_quoted, hentry, bytes_moreEntries rest, JsonMap.entriesLen, hpoints.1]
    omega

end

theorem utf8ByteSize_encode (value : JsonValue) :
    value.encode.utf8ByteSize = value.encodedLen := by
  rw [JsonValue.encode, utf8ByteSize_ofList, bytes_chars]

/-! ## 4. Numbers that are read back -/

theorem chars_natCast (n : Nat) : (JsonValue.int n).chars = Nat.toDigits 10 n := by
  show (toString (n : Int)).toList = _
  rw [Int.toString_eq_repr, Int.repr_eq_if, if_pos (Int.natCast_nonneg n), Int.toNat_natCast,
    Nat.repr, String.toList_ofList]

/-- **Numbers with one encoding are one number.** -/
theorem natCast_of_chars {m n : Nat} (h : (JsonValue.int m).chars = (JsonValue.int n).chars) :
    m = n := by
  rw [chars_natCast, chars_natCast] at h
  have hread := congrArg (Nat.ofDigitChars 10 · 0) h
  simpa [Nat.ofDigitChars_toDigits] using hread

/-- No number is encoded as `null`. -/
theorem chars_natCast_ne_null (n : Nat) : (JsonValue.int n).chars ≠ JsonValue.null.chars := by
  intro h
  have hmem : 'n' ∈ Nat.toDigits 10 n := by
    rw [← chars_natCast, h]
    decide
  exact absurd (Nat.isDigit_of_mem_toDigits (by decide) (by decide) hmem) (by decide)

/-! ## 5. Cutting -/

/-- The longest prefix of whole characters that takes at most `n` bytes. -/
def prefixWithin : Nat → List Char → List Char
  | _, [] => []
  | n, c :: cs => if c.utf8Size ≤ n then c :: prefixWithin (n - c.utf8Size) cs else []

theorem bytes_prefixWithin (n : Nat) (cs : List Char) : bytes (prefixWithin n cs) ≤ n := by
  induction cs generalizing n with
  | nil => exact Nat.zero_le n
  | cons c cs ih =>
    rw [prefixWithin]
    split
    · rename_i hc
      have hrest := ih (n - c.utf8Size)
      rw [bytes_cons]
      omega
    · exact Nat.zero_le n

/-- A text within `n` bytes: as it is, or cut three bytes shorter and marked. -/
def bounded (text : String) (n : Nat) : String :=
  if text.utf8ByteSize ≤ n then text
  else String.ofList (prefixWithin (n - 3) text.toList) ++ "..."

/-- **A bounded text takes at most `n` bytes**, the three dots apart. -/
theorem utf8ByteSize_bounded (text : String) (n : Nat) :
    (bounded text n).utf8ByteSize ≤ max n 3 := by
  rw [bounded]
  split
  · rename_i h
    exact Nat.le_trans h (Nat.le_max_left n 3)
  · have hprefix := bytes_prefixWithin (n - 3) text.toList
    have hdots : ("...").utf8ByteSize = 3 := by decide
    rw [String.utf8ByteSize_append, utf8ByteSize_ofList, hdots]
    omega

end Uprava.Lib
