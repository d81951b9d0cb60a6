import NetworkManager.Core.EscapedTokens

/-!
# Names of interfaces

The kernel takes names of at most 15 bytes.  The program keeps a name as valid text, in which
backslashes stand in front of other bytes.
-/

namespace NetworkManager.InterfaceName

open Ascii EscapedTokens List

/-- How far an escape sequence was read. -/
inductive Escape where
  /-- There is none. -/
  | plain
  | backslash
  /-- After digits, with the number of digits that may follow. -/
  | digits (value left : Nat)
  deriving DecidableEq, Repr

/-- The bytes of the character that follows a backslash. -/
def escapedBytes (c : Char) : List UInt8 :=
  if c = 'b' then [0x08]
  else if c = 'f' then [0x0c]
  else if c = 'n' then [0x0a]
  else if c = 'r' then [0x0d]
  else if c = 't' then [0x09]
  else if c = 'v' then [0x0b]
  else String.utf8EncodeChar c

/-- `nm_utils_buf_utf8safe_unescape`.  Only the first digit can be an 8 or a 9, and a backslash at
the end is dropped. -/
def bufUtf8safeUnescape : Escape → List Char → List UInt8
  | .plain, [] => []
  | .backslash, [] => []
  | .digits value _, [] => [UInt8.ofNat value]
  | .backslash, c :: str =>
    if digitValue c < 10 then bufUtf8safeUnescape (.digits (digitValue c) 2) str
    else escapedBytes c ++ bufUtf8safeUnescape .plain str
  | .plain, c :: str =>
    if c = '\\' then bufUtf8safeUnescape .backslash str
    else String.utf8EncodeChar c ++ bufUtf8safeUnescape .plain str
  | .digits value left, c :: str =>
    if 0 < left ∧ digitValue c < 8 then
      bufUtf8safeUnescape (.digits (value * 8 + digitValue c) (left - 1)) str
    else
      UInt8.ofNat value ::
        if c = '\\' then bufUtf8safeUnescape .backslash str
        else String.utf8EncodeChar c ++ bufUtf8safeUnescape .plain str

/-- `g_ascii_isspace` of a byte. -/
def isSpaceByte (byte : UInt8) : Bool :=
  byte == 0x20 || byte == 0x0a || byte == 0x09 || byte == 0x0d || byte == 0x0c

/-- `nm_utils_ifname_valid_kernel`, of bytes without a zero. -/
def ifnameValidKernel (name : List UInt8) : Bool :=
  name ≠ [] && name ≠ [0x2e] && name ≠ [0x2e, 0x2e] &&
    !(name.take 16).any (fun byte => byte == 0x2f || byte == 0x3a || isSpaceByte byte) &&
    name.length < 16

/-- `nm_utils_is_valid_iface_name_utf8safe`. -/
def isValidIfaceNameUtf8safe (name : List Char) : Bool :=
  !(bufUtf8safeUnescape .plain name).contains 0 &&
    ifnameValidKernel (bufUtf8safeUnescape .plain name)

/-- A blank is neither a digit nor a backslash, and a backslash in front of it does not change it. -/
theorem blank_bytes {c : Char} (blank : c ∈ asciiSpaces) :
    ¬ digitValue c < 10 ∧ c ≠ '\\' ∧ escapedBytes c = String.utf8EncodeChar c ∧
      ∃ byte ∈ String.utf8EncodeChar c, isSpaceByte byte = true := by
  simp only [asciiSpaces, mem_cons, not_mem_nil, or_false] at blank
  rcases blank with rfl | rfl | rfl | rfl | rfl <;> decide

theorem exists_blank_append {front rest : List UInt8}
    (blank : (∃ byte ∈ front, isSpaceByte byte = true) ∨ ∃ byte ∈ rest, isSpaceByte byte = true) :
    ∃ byte ∈ front ++ rest, isSpaceByte byte = true := by
  rcases blank with ⟨byte, mem, space⟩ | ⟨byte, mem, space⟩
  · exact ⟨byte, mem_append_left rest mem, space⟩
  · exact ⟨byte, mem_append_right front mem, space⟩

theorem exists_blank_byte {str : List Char} {c : Char} (blank : c ∈ asciiSpaces) (mem : c ∈ str)
    (escape : Escape) :
    ∃ byte ∈ bufUtf8safeUnescape escape str, isSpaceByte byte = true := by
  obtain ⟨no_digit, no_backslash, unchanged, bytes⟩ := blank_bytes blank
  induction str generalizing escape with
  | nil => exact absurd mem not_mem_nil
  | cons next str ih =>
    -- The blank is the next character, or it comes after it.
    have later : next = c ∨ ∀ escape,
        ∃ byte ∈ bufUtf8safeUnescape escape str, isSpaceByte byte = true := by
      rcases mem_cons.mp mem with same | mem
      · exact Or.inl same.symm
      · exact Or.inr (ih mem)
    have plain : ∃ byte ∈ (if next = '\\' then bufUtf8safeUnescape .backslash str
        else String.utf8EncodeChar next ++ bufUtf8safeUnescape .plain str),
        isSpaceByte byte = true := by
      rcases later with rfl | later
      · rw [if_neg no_backslash]
        exact exists_blank_append (Or.inl bytes)
      · split
        · exact later .backslash
        · exact exists_blank_append (Or.inr (later .plain))
    cases escape with
    | plain => exact plain
    | backslash =>
      rw [bufUtf8safeUnescape]
      rcases later with rfl | later
      · rw [if_neg no_digit, unchanged]
        exact exists_blank_append (Or.inl bytes)
      · split
        · exact later _
        · exact exists_blank_append (Or.inr (later .plain))
    | digits value left =>
      rw [bufUtf8safeUnescape]
      split
      · rename_i continued
        rcases later with rfl | later
        · exact absurd (Nat.lt_trans continued.2 (by decide)) no_digit
        · exact later _
      · obtain ⟨byte, byte_mem, space⟩ := plain
        exact ⟨byte, mem_cons_of_mem _ byte_mem, space⟩

theorem word_of_isValidIfaceNameUtf8safe {name : List Char}
    (valid : isValidIfaceNameUtf8safe name = true) : Word name := by
  obtain ⟨-, valid⟩ := Bool.and_eq_true_iff.mp valid
  unfold ifnameValidKernel at valid
  simp only [Bool.and_eq_true, decide_eq_true_eq, Bool.not_eq_true'] at valid
  obtain ⟨⟨⟨⟨nonempty, -⟩, -⟩, plain⟩, short⟩ := valid
  refine ⟨?_, ?_⟩
  · rintro rfl
    exact nonempty rfl
  · intro c mem blank
    obtain ⟨byte, byte_mem, space⟩ := exists_blank_byte blank mem .plain
    rw [take_of_length_le (Nat.le_of_lt short), any_eq_false] at plain
    exact plain byte byte_mem (by simp [space])

end NetworkManager.InterfaceName
