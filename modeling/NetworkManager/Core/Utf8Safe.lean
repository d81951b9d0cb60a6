import Mathlib.Data.List.TakeWhile
import Mathlib.Data.Nat.Find
import Mathlib.Tactic.IntervalCases
import NetworkManager.Core.Bytes

/-!
# Making bytes valid UTF-8

Arbitrary bytes are written as a text that is valid UTF-8: what is invalid becomes a backslash with
three octal digits.  `g_utf8_validate` is not part of the program.  It is a parameter which tells how
many bytes in front of a text are valid.
-/

namespace NetworkManager.Utf8Safe

open Bytes List

/-- Text that `g_utf8_validate` accepts: UTF-8 without zeros. -/
structure ValidUtf8 (text : List UInt8) : Prop where
  encoded : ∃ chars : List Char, text = chars.flatMap String.utf8EncodeChar
  no_zero : 0 ∉ text

/-- A validation reports the longest valid part in front of a text. -/
structure LongestValid (validate : List UInt8 → Nat) : Prop where
  le_length : ∀ text : List UInt8, validate text ≤ text.length
  valid : ∀ text : List UInt8, ValidUtf8 (text.take (validate text))
  longest : ∀ text : List UInt8, ∀ n ≤ text.length, ValidUtf8 (text.take n) → n ≤ validate text

/-- `NMUtilsStrUtf8SafeFlags`. -/
structure Flags where
  /-- `NM_UTILS_STR_UTF8_SAFE_FLAG_ESCAPE_CTRL`. -/
  escapeCtrl : Bool
  /-- `NM_UTILS_STR_UTF8_SAFE_FLAG_ESCAPE_NON_ASCII`. -/
  escapeNonAscii : Bool
  deriving DecidableEq, Repr

/-- The arguments `buf` and `buflen`. -/
inductive Buffer where
  /-- Bytes with a length. -/
  | sized (bytes : List UInt8)
  /-- A string that ends with a zero, or `NULL`. -/
  | terminated (str : Option CString)

def Buffer.bytes : Buffer → List UInt8
  | .sized bytes => bytes
  | .terminated str => (str.map Subtype.val).getD []

/-- The octal digit of a byte at a bit position. -/
def octalDigit (ch shift : UInt8) : UInt8 := '0'.toUInt8 + ((ch >>> shift) &&& 7)

/-- `_str_append_escape`. -/
def appendEscape (ch : UInt8) : List UInt8 :=
  [backslash, octalDigit ch 6, octalDigit ch 3, octalDigit ch 0]

/-- A valid byte that the flags ask to escape.  The comparison with the space is one of `char`. -/
def reqEscape (sign : CharSign) (flags : Flags) (ch : UInt8) : Bool :=
  (flags.escapeCtrl && decide (sign.charValue ch < 0x20)) || (flags.escapeNonAscii && ch ≥ 127)

/-- What the inner loop of `nm_utils_buf_utf8safe_escape` writes for a valid byte. -/
def escapeValid (sign : CharSign) (flags : Flags) (ch : UInt8) : List UInt8 :=
  if ch = backslash then [backslash, backslash]
  else if reqEscape sign flags ch then appendEscape ch
  else [ch]

/-- The loops of `nm_utils_buf_utf8safe_escape`, with how many bytes are still known to be valid.
The byte after them is invalid, and what comes after that byte is validated again. -/
def escapeLoop (validate : List UInt8 → Nat) (sign : CharSign) (flags : Flags) :
    Nat → List UInt8 → List UInt8
  | _, [] => []
  | 0, ch :: rest => appendEscape ch ++ escapeLoop validate sign flags (validate rest) rest
  | valid + 1, ch :: rest =>
    escapeValid sign flags ch ++ escapeLoop validate sign flags valid rest

/-- `nm_utils_buf_utf8safe_escape`.  `none` is `NULL`. -/
def bufUtf8safeEscape (validate : List UInt8 → Nat) (sign : CharSign) (flags : Flags) :
    Buffer → Option (List UInt8)
  | .sized bytes =>
    if bytes = [] then none else some (escapeLoop validate sign flags (validate bytes) bytes)
  | .terminated none => none
  | .terminated (some str) =>
    if str.1 = [] then some str.1
    else if validate str.1 = str.1.length ∧
        (str.1.any fun ch => ch == backslash || reqEscape sign flags ch) = false then some str.1
    else some (escapeLoop validate sign flags (validate str.1) str.1)

def isOctal (ch : UInt8) : Bool := 0x30 ≤ ch && ch ≤ 0x37

/-- The letters that stand for control characters. -/
def unescapeLetters : List (UInt8 × UInt8) :=
  [('b'.toUInt8, 0x08), ('f'.toUInt8, 0x0c), ('n'.toUInt8, 0x0a), ('r'.toUInt8, 0x0d),
    ('t'.toUInt8, 0x09), ('v'.toUInt8, 0x0b)]

/-- Up to two more octal digits after the value of the digits that were read. -/
def octalDigits : Nat → Nat → List UInt8 → Nat × List UInt8
  | 0, v, str => (v, str)
  | _ + 1, v, [] => (v, [])
  | more + 1, v, ch :: str =>
    if isOctal ch then octalDigits more (v * 8 + (ch.toNat - 0x30)) str else (v, ch :: str)

/-- What a backslash with the text after it stands for, and the text after that.  A backslash at the
end is an error. -/
def takeEscape : List UInt8 → Option (UInt8 × List UInt8)
  | [] => none
  | ch :: str =>
    if 0x30 ≤ ch ∧ ch ≤ 0x39 then
      let (v, rest) := octalDigits 2 (ch.toNat - 0x30) str
      some (UInt8.ofNat v, rest)
    else some ((unescapeLetters.lookup ch).getD ch, str)

theorem length_octalDigits (more v : Nat) (str : List UInt8) :
    (octalDigits more v str).2.length ≤ str.length := by
  induction more generalizing v str with
  | zero => exact Nat.le_refl _
  | succ more ih =>
    cases str with
    | nil => exact Nat.le_refl _
    | cons ch str =>
      rw [octalDigits]
      split
      · exact Nat.le_succ_of_le (ih _ str)
      · exact Nat.le_refl _

variable {str : List UInt8}

theorem length_takeEscape {ch : UInt8} {rest : List UInt8}
    (taken : takeEscape str = some (ch, rest)) : rest.length < str.length := by
  cases str with
  | nil => cases taken
  | cons first str =>
    rw [takeEscape] at taken
    split at taken
    · obtain ⟨-, rfl⟩ := Prod.mk.inj (Option.some.inj taken)
      exact Nat.lt_succ_of_le (length_octalDigits 2 _ str)
    · obtain ⟨-, rfl⟩ := Prod.mk.inj (Option.some.inj taken)
      exact Nat.lt_succ_self _

/-- The loop of `nm_utils_buf_utf8safe_unescape`.  Text up to the next backslash is copied. -/
def unescapeLoop : List UInt8 → List UInt8
  | [] => []
  | ch :: str =>
    if ch = backslash then
      match taken : takeEscape str with
      | none => []
      | some (v, rest) => v :: unescapeLoop rest
    else ch :: unescapeLoop str
termination_by str => str.length
decreasing_by
  · exact Nat.lt_succ_of_lt (length_takeEscape taken)
  · exact Nat.lt_succ_self _

/-- `nm_utils_buf_utf8safe_unescape`.  The text ends at the first zero. -/
def bufUtf8safeUnescape : Option (List UInt8) → List UInt8
  | none => []
  | some str =>
    let str := str.takeWhile (· ≠ 0)
    if backslash ∉ str then str else unescapeLoop str

variable (ch : UInt8)

theorem octalDigit_eq {shift : Nat} (small : shift < 8) :
    octalDigit ch (UInt8.ofNat shift) = 0x30 + UInt8.ofNat (ch.toNat / 2 ^ shift % 8) := by
  have seven : (7 : UInt8).toNat = 2 ^ 3 - 1 := rfl
  have shift_eq : (UInt8.ofNat shift).toNat % 8 = shift := by
    rw [UInt8.toNat_ofNat']
    omega
  have masked : (ch >>> UInt8.ofNat shift) &&& 7 = UInt8.ofNat (ch.toNat / 2 ^ shift % 8) := by
    apply UInt8.toNat_inj.mp
    rw [UInt8.toNat_and, UInt8.toNat_shiftRight, seven, Nat.and_two_pow_sub_one_eq_mod, shift_eq,
      Nat.shiftRight_eq_div_pow, UInt8.toNat_ofNat']
    omega
  rw [octalDigit, masked]
  rfl

theorem appendEscape_eq :
    ∃ high middle low, high < 4 ∧ middle < 8 ∧ low < 8 ∧
      appendEscape ch = [backslash, 0x30 + UInt8.ofNat high, 0x30 + UInt8.ofNat middle,
        0x30 + UInt8.ofNat low] ∧
      ch.toNat = (high * 8 + middle) * 8 + low := by
  have bound : ch.toNat < 256 := ch.toNat_lt
  refine ⟨ch.toNat / 2 ^ 6 % 8, ch.toNat / 2 ^ 3 % 8, ch.toNat / 2 ^ 0 % 8, by omega, by omega,
    by omega, ?_, by omega⟩
  rw [← octalDigit_eq ch (by decide), ← octalDigit_eq ch (by decide),
    ← octalDigit_eq ch (by decide)]
  rfl

theorem isOctal_digit {digit : Nat} (small : digit < 8) :
    isOctal (0x30 + UInt8.ofNat digit) = true ∧
      (0x30 + UInt8.ofNat digit).toNat - 0x30 = digit := by
  interval_cases digit <;> decide

theorem isDigit_digit {digit : Nat} (small : digit < 8) :
    0x30 ≤ 0x30 + UInt8.ofNat digit ∧ 0x30 + UInt8.ofNat digit ≤ 0x39 := by
  interval_cases digit <;> decide

theorem unescapeLoop_escape {str rest : List UInt8} {ch : UInt8}
    (taken : takeEscape str = some (ch, rest)) :
    unescapeLoop (backslash :: str) = ch :: unescapeLoop rest := by
  rw [unescapeLoop, if_pos rfl]
  split
  · rename_i missing
    rw [missing] at taken
    cases taken
  · rename_i found
    rw [found] at taken
    obtain ⟨rfl, rfl⟩ := Prod.mk.inj (Option.some.inj taken)
    rfl

theorem unescapeLoop_plain {ch : UInt8} (plain : ch ≠ backslash) (rest : List UInt8) :
    unescapeLoop (ch :: rest) = ch :: unescapeLoop rest := by
  rw [unescapeLoop, if_neg plain]

/-- An escaped byte is read back, whatever comes after it. -/
theorem unescapeLoop_appendEscape (rest : List UInt8) :
    unescapeLoop (appendEscape ch ++ rest) = ch :: unescapeLoop rest := by
  obtain ⟨high, middle, low, high_lt, middle_lt, low_lt, written, value⟩ := appendEscape_eq ch
  obtain ⟨-, high_value⟩ := isOctal_digit (show high < 8 by omega)
  obtain ⟨middle_octal, middle_value⟩ := isOctal_digit middle_lt
  obtain ⟨low_octal, low_value⟩ := isOctal_digit low_lt
  have is_digit := isDigit_digit (show high < 8 by omega)
  rw [written]
  apply unescapeLoop_escape
  change takeEscape (_ :: _ :: _ :: rest) = _
  rw [takeEscape, if_pos is_digit]
  simp only [octalDigits, middle_octal, low_octal, high_value, middle_value, low_value, if_true]
  rw [← value, UInt8.ofNat_toNat]

theorem unescapeLoop_escapeValid (sign : CharSign) (flags : Flags) (ch : UInt8)
    (rest : List UInt8) :
    unescapeLoop (escapeValid sign flags ch ++ rest) = ch :: unescapeLoop rest := by
  unfold escapeValid
  split
  · rename_i is_backslash
    rw [is_backslash]
    apply unescapeLoop_escape
    change takeEscape (backslash :: rest) = _
    rw [takeEscape, if_neg (by decide)]
    rfl
  · rename_i plain
    split
    · exact unescapeLoop_appendEscape ch rest
    · exact unescapeLoop_plain plain rest

section

variable (validate : List UInt8 → Nat) (sign : CharSign) (flags : Flags)

theorem unescapeLoop_escapeLoop (valid : Nat) (bytes : List UInt8) :
    unescapeLoop (escapeLoop validate sign flags valid bytes) = bytes := by
  induction bytes generalizing valid with
  | nil =>
    cases valid <;> rw [escapeLoop, unescapeLoop]
  | cons ch rest ih =>
    cases valid with
    | zero => rw [escapeLoop, unescapeLoop_appendEscape, ih]
    | succ valid => rw [escapeLoop, unescapeLoop_escapeValid, ih]

end

/-- Text of ASCII characters other than zero. -/
def Ascii (text : List UInt8) : Prop := ∀ b ∈ text, 0 < b.toNat ∧ b.toNat < 128

theorem ValidUtf8.nil : ValidUtf8 [] := ⟨⟨[], rfl⟩, not_mem_nil⟩

theorem ValidUtf8.append {first second : List UInt8} (first_valid : ValidUtf8 first)
    (second_valid : ValidUtf8 second) : ValidUtf8 (first ++ second) := by
  obtain ⟨first_chars, first_eq⟩ := first_valid.encoded
  obtain ⟨second_chars, second_eq⟩ := second_valid.encoded
  refine ⟨⟨first_chars ++ second_chars, ?_⟩, ?_⟩
  · rw [flatMap_append, ← first_eq, ← second_eq]
  · rw [mem_append, not_or]
    exact ⟨first_valid.no_zero, second_valid.no_zero⟩

theorem utf8EncodeChar_ascii {c : Char} (small : c.toNat < 128) :
    String.utf8EncodeChar c = [UInt8.ofNat c.toNat] := by
  have le : c.val.toNat ≤ 0x7f := Nat.le_of_lt_succ small
  rw [String.utf8EncodeChar]
  exact if_pos le

theorem utf8EncodeChar_high {c : Char} (large : ¬ c.toNat < 128) :
    ∀ b ∈ String.utf8EncodeChar c, 128 ≤ b.toNat := by
  have gt : ¬ c.val.toNat ≤ 0x7f := fun le => large (Nat.lt_succ_of_le le)
  intro b mem
  simp only [String.utf8EncodeChar, if_neg gt] at mem
  split at mem
  · simp only [mem_cons, not_mem_nil, or_false] at mem
    rcases mem with rfl | rfl <;> rw [UInt8.toNat_ofNat'] <;> omega
  · split at mem
    · simp only [mem_cons, not_mem_nil, or_false] at mem
      rcases mem with rfl | rfl | rfl <;> rw [UInt8.toNat_ofNat'] <;> omega
    · simp only [mem_cons, not_mem_nil, or_false] at mem
      rcases mem with rfl | rfl | rfl | rfl <;> rw [UInt8.toNat_ofNat'] <;> omega

theorem Ascii.valid {text : List UInt8} (ascii : Ascii text) : ValidUtf8 text := by
  induction text with
  | nil => exact ValidUtf8.nil
  | cons b text ih =>
    obtain ⟨⟨positive, small⟩, rest_ascii⟩ := forall_mem_cons.mp ascii
    have is_char : b.toNat.isValidChar := Or.inl (by omega)
    have char_value : (Char.ofNat b.toNat).toNat = b.toNat := by
      unfold Char.ofNat
      rw [dif_pos is_char]
      rfl
    have single : ValidUtf8 [b] := by
      refine ⟨⟨[Char.ofNat b.toNat], ?_⟩, ?_⟩
      · rw [flatMap_singleton, utf8EncodeChar_ascii (by omega), char_value, UInt8.ofNat_toNat]
      · intro zero
        rw [← mem_singleton.mp zero] at positive
        exact absurd positive (by decide)
    exact single.append (ih rest_ascii)

theorem ascii_appendEscape : Ascii (appendEscape ch) := by
  obtain ⟨high, middle, low, high_lt, middle_lt, low_lt, written, -⟩ := appendEscape_eq ch
  have digit_ascii : ∀ digit < 8, 0 < (0x30 + UInt8.ofNat digit).toNat ∧
      (0x30 + UInt8.ofNat digit).toNat < 128 := by decide
  rw [written]
  intro b mem
  simp only [mem_cons, not_mem_nil, or_false] at mem
  rcases mem with rfl | rfl | rfl | rfl
  · decide
  · exact digit_ascii high (by omega)
  · exact digit_ascii middle middle_lt
  · exact digit_ascii low low_lt

section

variable (validate : List UInt8 → Nat) (sign : CharSign) (flags : Flags)

theorem ascii_escapeValid {ch : UInt8} (positive : 0 < ch.toNat) (small : ch.toNat < 128) :
    Ascii (escapeValid sign flags ch) := by
  unfold escapeValid
  split
  · intro b mem
    simp only [mem_cons, not_mem_nil, or_false, or_self] at mem
    rw [mem]
    decide
  · split
    · exact ascii_appendEscape ch
    · intro b mem
      rw [mem_singleton.mp mem]
      exact ⟨positive, small⟩

theorem reqEscape_high {ch : UInt8} (large : 128 ≤ ch.toNat) :
    reqEscape sign flags ch =
      ((flags.escapeCtrl && decide (sign = .signed)) || flags.escapeNonAscii) := by
  have bound : ch.toNat < 256 := ch.toNat_lt
  have ge : ch ≥ 127 := by
    rw [ge_iff_le, UInt8.le_iff_toNat_le]
    exact Nat.le_of_succ_le large
  unfold reqEscape CharSign.charValue
  cases sign with
  | signed =>
    have below : (if ch.toNat < 128 then (ch.toNat : Int) else (ch.toNat : Int) - 256) < 0x20 := by
      rw [if_neg (by omega)]
      omega
    simp [below, ge]
  | unsigned =>
    have above : ¬ (ch.toNat : Int) < 0x20 := by omega
    simp [above, ge]

theorem valid_escapeChar {c : Char} (no_zero : 0 ∉ String.utf8EncodeChar c) :
    ValidUtf8 ((String.utf8EncodeChar c).flatMap (escapeValid sign flags)) := by
  by_cases small : c.toNat < 128
  · rw [utf8EncodeChar_ascii small] at no_zero ⊢
    have value : (UInt8.ofNat c.toNat).toNat = c.toNat := by
      rw [UInt8.toNat_ofNat']
      omega
    have positive : 0 < (UInt8.ofNat c.toNat).toNat := by
      refine Nat.pos_of_ne_zero fun zero => no_zero (mem_singleton.mpr ?_)
      exact (UInt8.toNat_inj.mp zero).symm
    rw [flatMap_singleton]
    exact (ascii_escapeValid sign flags positive (by omega)).valid
  · have high := utf8EncodeChar_high small
    by_cases escaped : ((flags.escapeCtrl && decide (sign = .signed)) || flags.escapeNonAscii) = true
    · refine Ascii.valid fun b mem => ?_
      obtain ⟨ch, ch_mem, mem⟩ := mem_flatMap.mp mem
      have ne : ch ≠ backslash := by
        rintro rfl
        exact absurd (high _ ch_mem) (by decide)
      rw [escapeValid, if_neg ne, reqEscape_high sign flags (high ch ch_mem), if_pos escaped] at mem
      exact ascii_appendEscape ch b mem
    · have kept : (String.utf8EncodeChar c).flatMap (escapeValid sign flags) =
          (String.utf8EncodeChar c).flatMap fun ch => [ch] := by
        refine flatMap_congr fun ch mem => ?_
        have ne : ch ≠ backslash := by
          rintro rfl
          exact absurd (high _ mem) (by decide)
        rw [escapeValid, if_neg ne, reqEscape_high sign flags (high ch mem), if_neg escaped]
      rw [kept, flatMap_singleton']
      exact ⟨⟨[c], (flatMap_singleton _ _).symm⟩, no_zero⟩

theorem ValidUtf8.escapeValid {text : List UInt8} (valid : ValidUtf8 text) :
    ValidUtf8 (text.flatMap (escapeValid sign flags)) := by
  obtain ⟨⟨chars, rfl⟩, no_zero⟩ := valid
  induction chars with
  | nil => exact ValidUtf8.nil
  | cons c chars ih =>
    rw [flatMap_cons, mem_append, not_or] at no_zero
    rw [flatMap_cons, flatMap_append]
    exact (valid_escapeChar sign flags no_zero.1).append (ih no_zero.2)

theorem escapeLoop_eq (valid : Nat) (bytes : List UInt8) :
    escapeLoop validate sign flags valid bytes =
      (bytes.take valid).flatMap (escapeValid sign flags) ++
        match bytes.drop valid with
        | [] => []
        | ch :: rest => appendEscape ch ++ escapeLoop validate sign flags (validate rest) rest := by
  induction bytes generalizing valid with
  | nil => cases valid <;> simp [escapeLoop]
  | cons ch rest ih =>
    cases valid with
    | zero => simp [escapeLoop]
    | succ valid =>
      rw [escapeLoop, ih, take_succ_cons, flatMap_cons, drop_succ_cons, append_assoc]

variable {validate}

theorem LongestValid.escapeLoop (longest : LongestValid validate) (bytes : List UInt8) :
    ValidUtf8 (escapeLoop validate sign flags (validate bytes) bytes) := by
  induction length_eq : bytes.length using Nat.strong_induction_on generalizing bytes with
  | _ length ih =>
    rw [escapeLoop_eq]
    refine ((longest.valid bytes).escapeValid sign flags).append ?_
    split
    · exact ValidUtf8.nil
    · rename_i ch rest drop_eq
      have shorter := congrArg List.length drop_eq
      rw [length_drop, length_cons] at shorter
      exact (ascii_appendEscape ch).valid.append (ih rest.length (by omega) rest rfl)

theorem LongestValid.whole (longest : LongestValid validate) {text : List UInt8}
    (whole : validate text = text.length) : ValidUtf8 text := by
  have valid := longest.valid text
  rwa [whole, take_length] at valid

theorem LongestValid.escape (longest : LongestValid validate) {buf : Buffer} {str : List UInt8}
    (escaped : bufUtf8safeEscape validate sign flags buf = some str) : ValidUtf8 str := by
  match buf, escaped with
  | .sized bytes, escaped =>
    rw [bufUtf8safeEscape] at escaped
    split at escaped
    · cases escaped
    · rw [← Option.some.inj escaped]
      exact longest.escapeLoop sign flags bytes
  | .terminated none, escaped => cases escaped
  | .terminated (some cstr), escaped =>
    rw [bufUtf8safeEscape] at escaped
    split at escaped
    · rename_i empty
      rw [← Option.some.inj escaped, empty]
      exact ValidUtf8.nil
    · split at escaped
      · rename_i unchanged
        rw [← Option.some.inj escaped]
        exact longest.whole unchanged.1
      · rw [← Option.some.inj escaped]
        exact longest.escapeLoop sign flags cstr.1

end

theorem unescapeLoop_eq_self (no_backslash : backslash ∉ str) : unescapeLoop str = str := by
  induction str with
  | nil => rw [unescapeLoop]
  | cons ch str ih =>
    obtain ⟨ne, rest_no_backslash⟩ := ne_and_not_mem_of_not_mem_cons no_backslash
    rw [unescapeLoop_plain (Ne.symm ne), ih rest_no_backslash]

theorem bufUtf8safeUnescape_some (no_zero : 0 ∉ str) :
    bufUtf8safeUnescape (some str) = unescapeLoop str := by
  have whole : str.takeWhile (· ≠ 0) = str := by
    refine takeWhile_eq_self_iff.mpr fun b mem => ?_
    exact decide_eq_true fun zero => no_zero (zero ▸ mem)
  simp only [bufUtf8safeUnescape, whole]
  split
  · rename_i no_backslash
    exact (unescapeLoop_eq_self no_backslash).symm
  · rfl

theorem unescape_escape {validate : List UInt8 → Nat} (longest : LongestValid validate)
    (sign : CharSign) (flags : Flags) (buf : Buffer) :
    bufUtf8safeUnescape (bufUtf8safeEscape validate sign flags buf) = buf.bytes := by
  cases escaped : bufUtf8safeEscape validate sign flags buf with
  | none =>
    match buf, escaped with
    | .sized bytes, escaped =>
      rw [bufUtf8safeEscape] at escaped
      split at escaped
      · rename_i empty
        rw [empty]
        rfl
      · cases escaped
    | .terminated none, _ => rfl
    | .terminated (some str), escaped =>
      rw [bufUtf8safeEscape] at escaped
      split at escaped
      · cases escaped
      · split at escaped <;> cases escaped
  | some text =>
    rw [bufUtf8safeUnescape_some (longest.escape sign flags escaped).no_zero]
    match buf, escaped with
    | .sized bytes, escaped =>
      rw [bufUtf8safeEscape] at escaped
      split at escaped
      · cases escaped
      · rw [← Option.some.inj escaped, unescapeLoop_escapeLoop]
        rfl
    | .terminated (some str), escaped =>
      change unescapeLoop text = str.1
      rw [bufUtf8safeEscape] at escaped
      split at escaped
      · rename_i empty
        rw [← Option.some.inj escaped, empty, unescapeLoop]
      · split at escaped
        · rename_i unchanged
          rw [← Option.some.inj escaped]
          refine unescapeLoop_eq_self fun mem => ?_
          have escaped_byte := any_eq_false.mp unchanged.2 backslash mem
          simp at escaped_byte
        · rw [← Option.some.inj escaped, unescapeLoop_escapeLoop]

/-- Whatever bytes are escaped, with whatever flags, the text is valid UTF-8 and gives the bytes when
it is unescaped. -/
theorem bufUtf8safeUnescape_bufUtf8safeEscape {validate : List UInt8 → Nat}
    (longest : LongestValid validate) (sign : CharSign) (flags : Flags) (buf : Buffer) :
    bufUtf8safeUnescape (bufUtf8safeEscape validate sign flags buf) = buf.bytes ∧
      ∀ str, bufUtf8safeEscape validate sign flags buf = some str → ValidUtf8 str :=
  ⟨unescape_escape longest sign flags buf, fun _ escaped => longest.escape sign flags escaped⟩

theorem validUtf8_iff (text : List UInt8) :
    ValidUtf8 text ↔ text.toByteArray.IsValidUTF8 ∧ 0 ∉ text := by
  constructor
  · rintro ⟨⟨chars, rfl⟩, no_zero⟩
    exact ⟨⟨chars, rfl⟩, no_zero⟩
  · rintro ⟨⟨chars, same⟩, no_zero⟩
    refine ⟨⟨chars, ?_⟩, no_zero⟩
    have data_eq := congrArg (fun bytes => bytes.data.toList) same
    simpa [utf8Encode] using data_eq

instance (text : List UInt8) : Decidable (ValidUtf8 text) :=
  decidable_of_iff _ (validUtf8_iff text).symm

/-- What `g_utf8_validate` reports, by trying every length. -/
def utf8Validate (text : List UInt8) : Nat :=
  Nat.findGreatest (fun n => ValidUtf8 (text.take n)) text.length

theorem longestValid_utf8Validate : LongestValid utf8Validate where
  le_length _ := Nat.findGreatest_le _
  valid text :=
    Nat.findGreatest_spec (P := fun n => ValidUtf8 (text.take n)) (Nat.zero_le text.length)
      ValidUtf8.nil
  longest _ _ le valid := Nat.le_findGreatest le valid

/-- Bytes with a zero, an invalid byte and a digit after it. -/
theorem bufUtf8safeUnescape_zero_invalid :
    bufUtf8safeUnescape (bufUtf8safeEscape utf8Validate .signed ⟨true, false⟩
        (.sized [0x61, 0x00, 0xff, 0x37, 0x5c])) = [0x61, 0x00, 0xff, 0x37, 0x5c] ∧
      ∀ str, bufUtf8safeEscape utf8Validate .signed ⟨true, false⟩
        (.sized [0x61, 0x00, 0xff, 0x37, 0x5c]) = some str → ValidUtf8 str :=
  bufUtf8safeUnescape_bufUtf8safeEscape longestValid_utf8Validate .signed ⟨true, false⟩
    (.sized [0x61, 0x00, 0xff, 0x37, 0x5c])

end NetworkManager.Utf8Safe
