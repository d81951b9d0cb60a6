import Mathlib.Tactic.IntervalCases
import NetworkManager.Core.Bytes

/-!
# Keys of a keyfile

The names of options become keys of a `GKeyFile`, which does not accept every text as a key.  The
encoding writes the bytes that are not accepted as a backslash with two hexadecimal digits.  A
backslash stands for itself, unless two hexadecimal digits come after it.
-/

namespace NetworkManager.KeyfileKey

open Bytes List

/-- `g_ascii_isxdigit`. -/
def isXdigit (b : UInt8) : Bool :=
  (0x30 ≤ b && b ≤ 0x39) || (0x41 ≤ b && b ≤ 0x46) || (0x61 ≤ b && b ≤ 0x66)

/-- `g_ascii_xdigit_value`, for hexadecimal digits. -/
def xdigitValue (b : UInt8) : Nat :=
  if b ≤ 0x39 then b.toNat - 0x30 else if b ≤ 0x46 then b.toNat - 0x41 + 10 else b.toNat - 0x61 + 10

/-- The text begins with two hexadecimal digits. -/
def startsHex : List UInt8 → Bool
  | first :: second :: _ => isXdigit first && isXdigit second
  | _ => false

/-- A byte in front of the rest of the name has to be encoded. -/
def reqEncode (ch : UInt8) (rest : List UInt8) : Bool :=
  ch < 0x20 || ch ≥ 127 || ch ∈ ['='.toUInt8, '['.toUInt8, ']'.toUInt8] ||
    (ch == backslash && startsHex rest) || (ch == space && rest.isEmpty)

/-- The digit that `%X` writes. -/
def upperHex (digit : Nat) : UInt8 :=
  if digit < 10 then 0x30 + UInt8.ofNat digit else 0x41 + UInt8.ofNat (digit - 10)

/-- What `\\%02X` writes for a byte. -/
def encodeByte (ch : UInt8) : List UInt8 :=
  [backslash, upperHex (ch.toNat / 16), upperHex (ch.toNat % 16)]

/-- The first loop of `_keyfile_key_encode`: how many bytes are in front of the first one that has to
be encoded. -/
def firstEncode : List UInt8 → Option Nat
  | [] => none
  | ch :: rest => if reqEncode ch rest then some 0 else (firstEncode rest).map (· + 1)

/-- The second loop of `_keyfile_key_encode`. -/
def encodeRest : List UInt8 → List UInt8
  | [] => []
  | ch :: rest => (if reqEncode ch rest then encodeByte ch else [ch]) ++ encodeRest rest

def emptyKey : List UInt8 := [backslash, 0x30, 0x30]

/-- The encoding of a space in front. -/
def spaceKey : List UInt8 := [backslash, 0x32, 0x30]

/-- `_keyfile_key_encode`. -/
def keyEncode (name : List UInt8) : List UInt8 :=
  match name with
  | [] => emptyKey
  | first :: rest =>
    if first = space then
      if rest = [] then spaceKey else spaceKey ++ encodeRest rest
    else
      match firstEncode name with
      | none => name
      | some i => name.take i ++ encodeRest (name.drop i)

/-- The first loop of `_keyfile_key_decode`: how many bytes are in front of the first encoded byte. -/
def firstDecode : List UInt8 → Option Nat
  | [] => none
  | ch :: rest =>
    if ch == backslash && startsHex rest then some 0 else (firstDecode rest).map (· + 1)

/-- The second loop of `_keyfile_key_decode`.  An encoded zero is taken as it is. -/
def decodeRest : List UInt8 → List UInt8
  | ch :: ch1 :: ch2 :: rest =>
    if ch == backslash && isXdigit ch1 && isXdigit ch2 &&
        xdigitValue ch1 * 16 + xdigitValue ch2 != 0 then
      UInt8.ofNat (xdigitValue ch1 * 16 + xdigitValue ch2) :: decodeRest rest
    else ch :: decodeRest (ch1 :: ch2 :: rest)
  | ch :: rest => ch :: decodeRest rest
  | [] => []

/-- `_keyfile_key_decode`. -/
def keyDecode (key : List UInt8) : List UInt8 :=
  if key = [] then []
  else
    match firstDecode key with
    | none => key
    | some i => if key = emptyKey then [] else key.take i ++ decodeRest (key.drop i)

/-- What `g_key_file_is_key_name` asks of a key, and that it is printable ASCII. -/
structure ValidKey (key : List UInt8) : Prop where
  nonempty : key ≠ []
  printable : ∀ b ∈ key, 0x20 ≤ b ∧ b < 0x7f
  /-- There is no equals sign and no bracket. -/
  no_special : ∀ b ∈ key, b ≠ '='.toUInt8 ∧ b ≠ '['.toUInt8 ∧ b ≠ ']'.toUInt8
  no_leading : key.head? ≠ some space
  no_trailing : key.getLast? ≠ some space

theorem upperHex_spec {digit : Nat} (small : digit < 16) :
    isXdigit (upperHex digit) = true ∧ xdigitValue (upperHex digit) = digit := by
  interval_cases digit <;> decide

variable {ch : UInt8} {rest : List UInt8}

theorem decodeRest_encodeByte (ne_zero : ch ≠ 0) (rest : List UInt8) :
    decodeRest (encodeByte ch ++ rest) = ch :: decodeRest rest := by
  have bound : ch.toNat < 256 := ch.toNat_lt
  have ne : ch.toNat ≠ 0 := fun zero => ne_zero (UInt8.toNat_inj.mp zero)
  obtain ⟨high_digit, high_value⟩ := upperHex_spec (show ch.toNat / 16 < 16 by omega)
  obtain ⟨low_digit, low_value⟩ := upperHex_spec (show ch.toNat % 16 < 16 by omega)
  have value : ch.toNat / 16 * 16 + ch.toNat % 16 = ch.toNat := by omega
  simp [encodeByte, decodeRest, high_digit, low_digit, high_value, low_value, value, ne]

theorem decodeRest_plain (plain : (ch == backslash && startsHex rest) = false) :
    decodeRest (ch :: rest) = ch :: decodeRest rest := by
  match rest, plain with
  | [], _ => rfl
  | [_], _ => rfl
  | ch1 :: ch2 :: rest, plain =>
    have not_encoded : ¬ (ch == backslash && isXdigit ch1 && isXdigit ch2 &&
        xdigitValue ch1 * 16 + xdigitValue ch2 != 0) = true := by
      intro encoded
      simp only [startsHex] at plain
      simp_all
    rw [decodeRest, if_neg not_encoded]

variable {name : List UInt8}

/-- Two hexadecimal digits in the encoding are two hexadecimal digits of the name, since the encoding
of any other byte begins with a backslash. -/
theorem startsHex_encodeRest (hex : startsHex (encodeRest name) = true) :
    startsHex name = true := by
  have backslash_no_digit : isXdigit backslash = false := by decide
  match name, hex with
  | [], hex => exact hex
  | [first], hex =>
    rw [encodeRest, encodeRest, append_nil] at hex
    split at hex
    · simp [encodeByte, startsHex, backslash_no_digit] at hex
    · cases hex
  | first :: second :: rest, hex =>
    rw [encodeRest] at hex
    split at hex
    · simp [encodeByte, startsHex, backslash_no_digit] at hex
    · rw [encodeRest] at hex
      split at hex
      · simp [encodeByte, startsHex, backslash_no_digit] at hex
      · exact hex

theorem reqEncode_of_startsHex (hex : (ch == backslash && startsHex rest) = true) :
    reqEncode ch rest = true := by
  simp [reqEncode, hex]

/-- What the second loop of the encoding writes is read back by the second loop of the decoding. -/
theorem decodeRest_encodeRest (no_zero : 0 ∉ name) : decodeRest (encodeRest name) = name := by
  induction name with
  | nil => rfl
  | cons ch rest ih =>
    obtain ⟨ch_ne, rest_no_zero⟩ := ne_and_not_mem_of_not_mem_cons no_zero
    rw [encodeRest]
    split
    · rw [decodeRest_encodeByte (Ne.symm ch_ne), ih rest_no_zero]
    · rename_i plain
      rw [singleton_append, decodeRest_plain, ih rest_no_zero]
      by_contra encoded
      obtain ⟨is_backslash, hex⟩ := Bool.and_eq_true_iff.mp (Bool.not_eq_false _ ▸ encoded)
      exact plain (reqEncode_of_startsHex
        (Bool.and_eq_true_iff.mpr ⟨is_backslash, startsHex_encodeRest hex⟩))

theorem encodeRest_of_firstEncode (name : List UInt8) :
    (match firstEncode name with
      | none => name
      | some i => name.take i ++ encodeRest (name.drop i)) = encodeRest name := by
  induction name with
  | nil => rfl
  | cons ch rest ih =>
    rw [firstEncode]
    by_cases encoded : reqEncode ch rest = true
    · rw [if_pos encoded]
      rfl
    · rw [if_neg encoded, encodeRest, if_neg encoded, ← ih]
      cases firstEncode rest <;> rfl

theorem decodeRest_of_firstDecode (key : List UInt8) :
    (match firstDecode key with
      | none => key
      | some i => key.take i ++ decodeRest (key.drop i)) = decodeRest key := by
  induction key with
  | nil => rfl
  | cons ch rest ih =>
    rw [firstDecode]
    by_cases encoded : (ch == backslash && startsHex rest) = true
    · rw [if_pos encoded]
      rfl
    · rw [if_neg encoded, decodeRest_plain (Bool.eq_false_iff.mpr encoded), ← ih]
      cases firstDecode rest <;> rfl

theorem keyEncode_cons {first : UInt8} (rest : List UInt8) :
    keyEncode (first :: rest) =
      if first = space then encodeByte space ++ encodeRest rest else encodeRest (first :: rest) := by
  have space_eq : encodeByte space = spaceKey := by decide
  rw [keyEncode]
  split
  · split
    · rename_i empty
      rw [empty, space_eq]
      rfl
    · rw [space_eq]
  · exact encodeRest_of_firstEncode (first :: rest)

theorem decodeRest_keyEncode (no_zero : 0 ∉ name) (nonempty : name ≠ []) :
    decodeRest (keyEncode name) = name := by
  obtain ⟨first, rest, rfl⟩ := exists_cons_of_ne_nil nonempty
  rw [keyEncode_cons]
  split
  · rename_i is_space
    rw [decodeRest_encodeByte (by decide), is_space,
      decodeRest_encodeRest (not_mem_of_not_mem_cons no_zero)]
  · exact decodeRest_encodeRest no_zero

theorem keyDecode_eq {key : List UInt8} (nonempty : key ≠ []) (ne_empty : key ≠ emptyKey) :
    keyDecode key = decodeRest key := by
  rw [keyDecode, if_neg nonempty, ← decodeRest_of_firstDecode key]
  cases firstDecode key with
  | none => rfl
  | some i => exact if_neg ne_empty

theorem keyEncode_ne_emptyKey (no_zero : 0 ∉ name) (nonempty : name ≠ []) :
    keyEncode name ≠ emptyKey := by
  intro same
  have decoded := decodeRest_keyEncode no_zero nonempty
  rw [same] at decoded
  have name_eq : name = emptyKey := by rw [← decoded]; decide
  rw [name_eq] at same
  exact absurd same (by decide)

/-- A byte of the encoding is allowed in a key. -/
def KeyByte (b : UInt8) : Prop :=
  (0x20 ≤ b ∧ b < 0x7f) ∧ b ≠ '='.toUInt8 ∧ b ≠ '['.toUInt8 ∧ b ≠ ']'.toUInt8

theorem keyByte_upperHex {digit : Nat} (small : digit < 16) :
    KeyByte (upperHex digit) ∧ upperHex digit ≠ space := by
  unfold KeyByte
  interval_cases digit <;> decide

theorem keyByte_encodeByte (ch : UInt8) : ∀ b ∈ encodeByte ch, KeyByte b ∧ b ≠ space := by
  have bound : ch.toNat < 256 := ch.toNat_lt
  intro b mem
  simp only [encodeByte, mem_cons, not_mem_nil, or_false] at mem
  rcases mem with rfl | rfl | rfl
  · unfold KeyByte
    decide
  · exact keyByte_upperHex (by omega)
  · exact keyByte_upperHex (by omega)

theorem keyByte_of_not_reqEncode (plain : ¬ reqEncode ch rest = true) : KeyByte ch := by
  simp only [reqEncode, Bool.or_eq_true, decide_eq_true_eq, not_or, mem_cons,
    not_mem_nil, or_false] at plain
  obtain ⟨⟨⟨⟨low, high⟩, special⟩, -⟩, -⟩ := plain
  exact ⟨⟨UInt8.not_lt.mp low, UInt8.not_le.mp high⟩, special⟩

theorem keyByte_encodeRest (name : List UInt8) : ∀ b ∈ encodeRest name, KeyByte b := by
  induction name with
  | nil =>
    intro b impossible
    cases impossible
  | cons ch rest ih =>
    intro b mem
    rw [encodeRest] at mem
    rcases mem_append.mp mem with mem | mem
    · split at mem
      · exact (keyByte_encodeByte ch b mem).1
      · rename_i plain
        obtain rfl := mem_singleton.mp mem
        exact keyByte_of_not_reqEncode plain
    · exact ih b mem

theorem encodeRest_ne_nil (nonempty : name ≠ []) : encodeRest name ≠ [] := by
  obtain ⟨ch, rest, rfl⟩ := exists_cons_of_ne_nil nonempty
  rw [encodeRest]
  split <;> simp [encodeByte]

theorem getLast?_encodeRest (name : List UInt8) : (encodeRest name).getLast? ≠ some space := by
  induction name with
  | nil => simp [encodeRest]
  | cons ch rest ih =>
    rw [encodeRest]
    by_cases empty : rest = []
    · subst empty
      rw [encodeRest, append_nil]
      split
      · intro last
        exact (keyByte_encodeByte ch space (mem_of_getLast? last)).2 rfl
      · rename_i plain
        intro last
        obtain rfl : ch = space := by simpa using last
        exact plain (by decide)
    · rw [getLast?_append_of_ne_nil _ (encodeRest_ne_nil empty)]
      exact ih

theorem head?_encodeRest (no_space : ch ≠ space) (rest : List UInt8) :
    (encodeRest (ch :: rest)).head? ≠ some space := by
  have backslash_ne : backslash ≠ space := by decide
  rw [encodeRest]
  split
  · simp [encodeByte, backslash_ne]
  · simpa using no_space

theorem ValidKey.of_keyByte {key : List UInt8} (nonempty : key ≠ [])
    (bytes : ∀ b ∈ key, KeyByte b) (no_leading : key.head? ≠ some space)
    (no_trailing : key.getLast? ≠ some space) : ValidKey key where
  nonempty := nonempty
  printable b mem := (bytes b mem).1
  no_special b mem := (bytes b mem).2
  no_leading := no_leading
  no_trailing := no_trailing

theorem validKey_keyEncode (name : List UInt8) : ValidKey (keyEncode name) := by
  cases name with
  | nil =>
    refine ValidKey.of_keyByte (by decide) ?_ (by decide) (by decide)
    intro b mem
    exact (keyByte_encodeByte 0 b mem).1
  | cons first rest =>
    rw [keyEncode_cons]
    split
    · have backslash_ne : backslash ≠ space := by decide
      refine ValidKey.of_keyByte (by simp [encodeByte]) ?_ (by simp [encodeByte, backslash_ne]) ?_
      · intro b mem
        rcases mem_append.mp mem with mem | mem
        · exact (keyByte_encodeByte space b mem).1
        · exact keyByte_encodeRest rest b mem
      · by_cases empty : rest = []
        · subst empty
          decide
        · rw [getLast?_append_of_ne_nil _ (encodeRest_ne_nil empty)]
          exact getLast?_encodeRest rest
    · rename_i no_space
      exact ValidKey.of_keyByte (encodeRest_ne_nil (cons_ne_nil _ _))
        (keyByte_encodeRest _) (head?_encodeRest no_space rest) (getLast?_encodeRest _)

/-- Every name is read back from its key, and its key is a valid one. -/
theorem keyDecode_keyEncode (name : CString) :
    keyDecode (keyEncode name.1) = name.1 ∧ ValidKey (keyEncode name.1) := by
  refine ⟨?_, validKey_keyEncode name.1⟩
  by_cases empty : name.1 = []
  · rw [empty]
    decide
  · rw [keyDecode_eq (validKey_keyEncode name.1).nonempty (keyEncode_ne_emptyKey name.2 empty),
      decodeRest_keyEncode name.2 empty]

end NetworkManager.KeyfileKey
