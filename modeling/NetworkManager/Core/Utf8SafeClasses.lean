import Mathlib.Algebra.Order.BigOperators.Group.List
import NetworkManager.Core.Utf8Safe

/-!
# What is escaped when bytes are made valid UTF-8

Bytes are a sequence of encoded characters and of bytes that are not part of one.  By its
documentation `nm_utils_buf_utf8safe_escape` escapes the bytes that are not part of a character, the
backslash, and the classes of characters that the flags ask for.  This is compared with what it writes.
-/

namespace NetworkManager.Utf8Safe

open Bytes List

/-- A part of a text: a character, or a byte that is not part of a character. -/
inductive Piece where
  /-- The bytes of one character. -/
  | char (c : Char)
  /-- A byte that is not valid where it stands. -/
  | invalid (ch : UInt8)
  deriving DecidableEq, Repr

/-- A text read from the front.  The zero is not a valid character for `g_utf8_validate`. -/
inductive Decodes : List UInt8 → List Piece → Prop
  /-- At the end of the text nothing is left. -/
  | nil : Decodes [] []
  /-- A character is taken whole. -/
  | char {c : Char} {rest : List UInt8} {pieces : List Piece} (ne_zero : c ≠ '\x00')
      (tail : Decodes rest pieces) :
      Decodes (String.utf8EncodeChar c ++ rest) (Piece.char c :: pieces)
  /-- A byte is skipped where no character begins. -/
  | invalid {ch : UInt8} {rest : List UInt8} {pieces : List Piece}
      (no_char : ∀ c : Char, c ≠ '\x00' → ¬ String.utf8EncodeChar c <+: ch :: rest)
      (tail : Decodes rest pieces) :
      Decodes (ch :: rest) (Piece.invalid ch :: pieces)

/-- The classes of characters that the flags ask for. -/
def Flags.Requested (flags : Flags) (c : Char) : Prop :=
  (flags.escapeCtrl = true ∧ c.toNat < 0x20) ∨ (flags.escapeNonAscii = true ∧ 127 ≤ c.toNat)

instance (flags : Flags) (c : Char) : Decidable (flags.Requested c) :=
  inferInstanceAs (Decidable (_ ∨ _))

/-- How a piece is to be written. -/
def Piece.documented (flags : Flags) : Piece → List UInt8
  | .char c =>
    if c = '\\' then [backslash, backslash]
    else if flags.Requested c then (String.utf8EncodeChar c).flatMap appendEscape
    else String.utf8EncodeChar c
  | .invalid ch => appendEscape ch

/-- A character outside ASCII is escaped although only control characters are asked for: its bytes
are below the space where `char` is signed. -/
def Piece.OverEscaped (sign : CharSign) (flags : Flags) : Piece → Prop
  | .char c =>
    sign = .signed ∧ flags.escapeCtrl = true ∧ flags.escapeNonAscii = false ∧ 128 ≤ c.toNat
  | .invalid _ => False

theorem utf8EncodeChar_append_inj {c other : Char} {rest rest' : List UInt8}
    (same : String.utf8EncodeChar c ++ rest = String.utf8EncodeChar other ++ rest') :
    c = other ∧ rest = rest' := by
  have decoded (c : Char) (rest : List UInt8) :
      (String.utf8EncodeChar c ++ rest).toByteArray.utf8DecodeChar? 0 = some c := by
    rw [toByteArray_append]
    exact ByteArray.utf8DecodeChar?_utf8EncodeChar_append
  have char_eq : c = other := by
    have first := decoded c rest
    rw [same, decoded other rest'] at first
    exact (Option.some.inj first).symm
  subst char_eq
  exact ⟨rfl, append_cancel_left same⟩

theorem utf8EncodeChar_cons (c : Char) : ∃ ch bytes, String.utf8EncodeChar c = ch :: bytes :=
  exists_cons_of_ne_nil String.utf8EncodeChar_ne_nil

theorem zero_not_mem_utf8EncodeChar {c : Char} (ne_zero : c ≠ '\x00') :
    0 ∉ String.utf8EncodeChar c := by
  intro mem
  by_cases small : c.toNat < 128
  · rw [utf8EncodeChar_ascii small, mem_singleton] at mem
    have value := congrArg UInt8.toNat mem
    rw [UInt8.toNat_ofNat'] at value
    have is_zero : c.toNat = 0 := by
      change 0 = c.toNat % 2 ^ 8 at value
      omega
    exact ne_zero (Char.toNat_inj.mp is_zero)
  · exact absurd (utf8EncodeChar_high small 0 mem) (by decide)

theorem ValidUtf8.char {c : Char} (ne_zero : c ≠ '\x00') : ValidUtf8 (String.utf8EncodeChar c) :=
  ⟨⟨[c], (flatMap_singleton _ _).symm⟩, zero_not_mem_utf8EncodeChar ne_zero⟩

theorem ValidUtf8.cases {text : List UInt8} (valid : ValidUtf8 text) :
    text = [] ∨ ∃ c rest, c ≠ '\x00' ∧ text = String.utf8EncodeChar c ++ rest ∧ ValidUtf8 rest := by
  obtain ⟨⟨chars, rfl⟩, no_zero⟩ := valid
  cases chars with
  | nil => exact Or.inl rfl
  | cons c chars =>
    rw [flatMap_cons, mem_append, not_or] at no_zero
    refine Or.inr ⟨c, chars.flatMap String.utf8EncodeChar, ?_, flatMap_cons, ⟨chars, rfl⟩,
      no_zero.2⟩
    rintro rfl
    exact no_zero.1 (by decide)

theorem Decodes.exists (bytes : List UInt8) : ∃ pieces, Decodes bytes pieces := by
  induction length_eq : bytes.length using Nat.strong_induction_on generalizing bytes with
  | _ length ih =>
    cases bytes with
    | nil => exact ⟨[], .nil⟩
    | cons ch rest =>
      by_cases begins : ∃ c : Char, c ≠ '\x00' ∧ String.utf8EncodeChar c <+: ch :: rest
      · obtain ⟨c, ne_zero, after, split⟩ := begins
        have shorter : after.length < length := by
          have positive := length_pos_of_ne_nil (String.utf8EncodeChar_ne_nil (c := c))
          rw [← length_eq, ← split, length_append]
          omega
        obtain ⟨pieces, tail⟩ := ih after.length shorter after rfl
        rw [← split]
        exact ⟨Piece.char c :: pieces, Decodes.char ne_zero tail⟩
      · obtain ⟨pieces, tail⟩ := ih rest.length (by rw [← length_eq]; exact Nat.lt_succ_self _)
          rest rfl
        refine ⟨Piece.invalid ch :: pieces, Decodes.invalid ?_ tail⟩
        intro c ne_zero starts
        exact begins ⟨c, ne_zero, starts⟩

theorem Decodes.unique {bytes : List UInt8} {pieces others : List Piece}
    (decodes : Decodes bytes pieces) (others_decode : Decodes bytes others) : others = pieces := by
  induction decodes generalizing others with
  | nil =>
    generalize empty_eq : ([] : List UInt8) = bytes at others_decode
    cases others_decode with
    | nil => rfl
    | @char c rest _ ne_zero tail =>
      obtain ⟨ch, bytes, encoded⟩ := utf8EncodeChar_cons c
      rw [encoded] at empty_eq
      cases empty_eq
    | invalid no_char tail => cases empty_eq
  | @char c rest pieces ne_zero tail ih =>
    generalize bytes_eq : String.utf8EncodeChar c ++ rest = bytes at others_decode
    cases others_decode with
    | nil =>
      obtain ⟨ch, bytes, encoded⟩ := utf8EncodeChar_cons c
      rw [encoded] at bytes_eq
      cases bytes_eq
    | char other_ne_zero other_tail =>
      obtain ⟨rfl, rfl⟩ := utf8EncodeChar_append_inj bytes_eq
      rw [ih other_tail]
    | invalid no_char other_tail => exact absurd ⟨rest, bytes_eq⟩ (no_char c ne_zero)
  | @invalid ch rest pieces no_char tail ih =>
    generalize bytes_eq : ch :: rest = bytes at others_decode
    cases others_decode with
    | nil => cases bytes_eq
    | @char c after _ other_ne_zero other_tail =>
      exact absurd ⟨after, bytes_eq.symm⟩ (no_char c other_ne_zero)
    | invalid other_no_char other_tail =>
      obtain ⟨rfl, rfl⟩ := List.cons.inj bytes_eq
      rw [ih other_tail]

section

variable {validate : List UInt8 → Nat}

/-- The length that is reported counts a character in front of a text whole. -/
theorem LongestValid.validate_char (longest : LongestValid validate) {c : Char}
    (ne_zero : c ≠ '\x00') (rest : List UInt8) :
    validate (String.utf8EncodeChar c ++ rest) =
      (String.utf8EncodeChar c).length + validate rest := by
  have at_least : (String.utf8EncodeChar c).length + validate rest ≤
      validate (String.utf8EncodeChar c ++ rest) := by
    apply longest.longest
    · rw [length_append]
      exact Nat.add_le_add_left (longest.le_length rest) _
    · rw [take_length_add_append]
      exact (ValidUtf8.char ne_zero).append (longest.valid rest)
  have valid := longest.valid (String.utf8EncodeChar c ++ rest)
  have within := longest.le_length (String.utf8EncodeChar c ++ rest)
  obtain ⟨extra, extra_eq⟩ := Nat.le.dest (Nat.le_trans (Nat.le_add_right _ _) at_least)
  rw [← extra_eq] at at_least valid within ⊢
  rw [length_append] at within
  rw [take_length_add_append] at valid
  rcases valid.cases with empty | ⟨first, after, -, split, after_valid⟩
  · obtain ⟨ch, bytes, encoded⟩ := utf8EncodeChar_cons c
    rw [encoded] at empty
    cases empty
  · obtain ⟨-, rfl⟩ := utf8EncodeChar_append_inj split
    have at_most := longest.longest rest extra (by omega) after_valid
    omega

theorem LongestValid.validate_invalid (longest : LongestValid validate) {bytes : List UInt8}
    (no_char : ∀ c : Char, c ≠ '\x00' → ¬ String.utf8EncodeChar c <+: bytes) :
    validate bytes = 0 ∨ bytes = [] := by
  rcases (longest.valid bytes).cases with empty | ⟨c, rest, ne_zero, split, -⟩
  · exact take_eq_nil_iff.mp empty
  · exact absurd ((prefix_append _ rest).trans (split ▸ take_prefix _ bytes))
      (no_char c ne_zero)

def Piece.written (sign : CharSign) (flags : Flags) : Piece → List UInt8
  | .char c => (String.utf8EncodeChar c).flatMap (escapeValid sign flags)
  | .invalid ch => appendEscape ch

theorem escapeLoop_append (validate : List UInt8 → Nat) (sign : CharSign) (flags : Flags)
    (bytes rest : List UInt8) (valid : Nat) :
    escapeLoop validate sign flags (bytes.length + valid) (bytes ++ rest) =
      bytes.flatMap (escapeValid sign flags) ++ escapeLoop validate sign flags valid rest := by
  induction bytes with
  | nil => rw [length_nil, Nat.zero_add, nil_append, flatMap_nil, nil_append]
  | cons ch bytes ih =>
    rw [length_cons, Nat.add_right_comm, cons_append, escapeLoop, ih, flatMap_cons, append_assoc]

theorem Decodes.escapeLoop (longest : LongestValid validate) (sign : CharSign) (flags : Flags)
    {bytes : List UInt8} {pieces : List Piece} (decodes : Decodes bytes pieces) :
    Utf8Safe.escapeLoop validate sign flags (validate bytes) bytes =
      pieces.flatMap (Piece.written sign flags) := by
  induction decodes with
  | nil => cases validate [] <;> rw [Utf8Safe.escapeLoop, flatMap_nil]
  | @char c rest pieces ne_zero tail ih =>
    rw [longest.validate_char ne_zero, escapeLoop_append, ih, flatMap_cons]
    rfl
  | @invalid ch rest pieces no_char tail ih =>
    rcases longest.validate_invalid no_char with zero | empty
    · rw [zero, Utf8Safe.escapeLoop, ih, flatMap_cons]
      rfl
    · cases empty

variable (sign : CharSign) (flags : Flags)

/-- A control character or a byte of ASCII is tested like its value, whatever the sign of `char`. -/
theorem reqEscape_low {c : Char} (small : c.toNat < 128) :
    reqEscape sign flags (UInt8.ofNat c.toNat) = decide (flags.Requested c) := by
  have value : (UInt8.ofNat c.toNat).toNat = c.toNat := by
    rw [UInt8.toNat_ofNat']
    omega
  have char_value : sign.charValue (UInt8.ofNat c.toNat) = c.toNat := by
    cases sign with
    | signed => simp [CharSign.charValue, value, small]
    | unsigned => simp [CharSign.charValue, value]
  have ge_iff : UInt8.ofNat c.toNat ≥ 127 ↔ 127 ≤ c.toNat := by
    rw [ge_iff_le, UInt8.le_iff_toNat_le, value]
    rfl
  have lt_iff : (c.toNat : Int) < 0x20 ↔ c.toNat < 0x20 := by omega
  rw [Bool.eq_iff_iff, reqEscape, char_value, decide_eq_true_eq]
  simp only [Flags.Requested, Bool.or_eq_true, Bool.and_eq_true, decide_eq_true_eq, ge_iff, lt_iff]

theorem ofNat_eq_backslash {c : Char} (small : c.toNat < 128) :
    UInt8.ofNat c.toNat = backslash ↔ c = '\\' := by
  constructor
  · intro same
    have value := congrArg UInt8.toNat same
    rw [UInt8.toNat_ofNat'] at value
    change c.toNat % 2 ^ 8 = 92 at value
    have is_backslash : c.toNat = '\\'.toNat := by
      change c.toNat = 92
      omega
    exact Char.toNat_inj.mp is_backslash
  · rintro rfl
    rfl

theorem Piece.written_eq {sign : CharSign} {flags : Flags} {piece : Piece}
    (right : ¬ piece.OverEscaped sign flags) : piece.written sign flags = piece.documented flags := by
  cases piece with
  | invalid ch => rfl
  | char c =>
    change (String.utf8EncodeChar c).flatMap (escapeValid sign flags) = if c = '\\' then _ else _
    by_cases small : c.toNat < 128
    · rw [utf8EncodeChar_ascii small, flatMap_singleton, flatMap_singleton, escapeValid,
        reqEscape_low sign flags small]
      simp only [ofNat_eq_backslash small, decide_eq_true_eq]
    · have high := utf8EncodeChar_high small
      have ne : c ≠ '\\' := by
        rintro rfl
        exact small (by decide)
      have each : ∀ ch ∈ String.utf8EncodeChar c, escapeValid sign flags ch =
          if flags.Requested c then appendEscape ch else [ch] := by
        intro ch mem
        have ne_backslash : ch ≠ backslash := by
          rintro rfl
          exact absurd (high _ mem) (by decide)
        have same : reqEscape sign flags ch = decide (flags.Requested c) := by
          rw [reqEscape_high sign flags (high ch mem)]
          have large : 127 ≤ c.toNat := by omega
          have not_ctrl : ¬ c.toNat < 0x20 := by omega
          obtain ⟨ctrl, nonAscii⟩ := flags
          cases sign <;> cases ctrl <;> cases nonAscii <;>
            simp_all [Flags.Requested, Piece.OverEscaped]
        rw [escapeValid, if_neg ne_backslash, same]
        simp only [decide_eq_true_eq]
      rw [flatMap_congr each, if_neg ne]
      split
      · rfl
      · exact flatMap_singleton' _

theorem Piece.length_lt_written {sign : CharSign} {flags : Flags} {piece : Piece}
    (wrong : piece.OverEscaped sign flags) :
    (piece.documented flags).length < (piece.written sign flags).length := by
  cases piece with
  | invalid ch => exact wrong.elim
  | char c =>
    obtain ⟨signed, ctrl, ascii_only, large⟩ := wrong
    have high := utf8EncodeChar_high (show ¬ c.toNat < 128 by omega)
    have ne : c ≠ '\\' := by
      rintro rfl
      exact absurd large (by decide)
    have not_requested : ¬ flags.Requested c := by
      rintro (⟨-, small⟩ | ⟨non_ascii, -⟩)
      · omega
      · rw [ascii_only] at non_ascii
        cases non_ascii
    have each : ∀ ch ∈ String.utf8EncodeChar c, escapeValid sign flags ch = appendEscape ch := by
      intro ch mem
      have ne_backslash : ch ≠ backslash := by
        rintro rfl
        exact absurd (high _ mem) (by decide)
      rw [escapeValid, if_neg ne_backslash, reqEscape_high sign flags (high ch mem), ctrl, signed]
      rfl
    have documented_eq : (Piece.char c).documented flags = String.utf8EncodeChar c := by
      rw [Piece.documented, if_neg ne, if_neg not_requested]
    have positive := length_pos_of_ne_nil (String.utf8EncodeChar_ne_nil (c := c))
    have four : ((Piece.char c).written sign flags).length =
        (String.utf8EncodeChar c).length * 4 := by
      rw [Piece.written, flatMap_congr each, length_flatMap]
      change ((String.utf8EncodeChar c).map fun _ => 4).sum = _
      rw [map_const', sum_replicate_nat]
    rw [documented_eq, four]
    omega

theorem Piece.length_le_written (piece : Piece) :
    (piece.documented flags).length ≤ (piece.written sign flags).length := by
  by_cases wrong : piece.OverEscaped sign flags
  · exact Nat.le_of_lt (Piece.length_lt_written wrong)
  · rw [Piece.written_eq wrong]

theorem Piece.written_eq_iff (piece : Piece) :
    piece.written sign flags = piece.documented flags ↔ ¬ piece.OverEscaped sign flags := by
  constructor
  · intro same wrong
    have longer := Piece.length_lt_written wrong
    rw [same] at longer
    exact Nat.lt_irrefl _ longer
  · exact Piece.written_eq

/-- Texts that are put together from parts, each at least as long as its counterpart, are the same
only if all the parts are. -/
theorem flatMap_eq_flatMap_iff {α β : Type} {parts : List α} {long short : α → List β}
    (le : ∀ part ∈ parts, (short part).length ≤ (long part).length) :
    parts.flatMap long = parts.flatMap short ↔ ∀ part ∈ parts, long part = short part := by
  constructor
  · intro same
    induction parts with
    | nil => exact fun _ mem => absurd mem not_mem_nil
    | cons part parts ih =>
      have head_le := le part mem_cons_self
      have tail_le (other : α) (mem : other ∈ parts) := le other (mem_cons_of_mem _ mem)
      have tail_sum : (parts.flatMap short).length ≤ (parts.flatMap long).length := by
        rw [length_flatMap, length_flatMap]
        exact sum_le_sum tail_le
      rw [flatMap_cons, flatMap_cons] at same
      have lengths := congrArg List.length same
      rw [length_append, length_append] at lengths
      obtain ⟨head_eq, tail_eq⟩ := append_inj same (by omega)
      exact forall_mem_cons.mpr ⟨head_eq, ih tail_le tail_eq⟩
  · exact flatMap_congr

end

theorem bufUtf8safeEscape_eq (validate : List UInt8 → Nat)
    (sign : CharSign) (flags : Flags) (buf : Buffer) :
    (bufUtf8safeEscape validate sign flags buf).getD [] =
      escapeLoop validate sign flags (validate buf.bytes) buf.bytes := by
  cases buf with
  | sized bytes =>
    cases bytes with
    | nil => cases validate [] <;> rfl
    | cons ch bytes => rfl
  | terminated str =>
    cases str with
    | none => cases validate [] <;> rfl
    | some str =>
      change _ = escapeLoop validate sign flags (validate str.1) str.1
      rw [bufUtf8safeEscape]
      split
      · rename_i empty
        rw [empty]
        cases validate [] <;> rfl
      · split
        · rename_i unchanged
          obtain ⟨whole, none_escaped⟩ := unchanged
          have copied : ∀ ch ∈ str.1, escapeValid sign flags ch = [ch] := by
            intro ch mem
            have plain := any_eq_false.mp none_escaped ch mem
            rw [Bool.or_eq_true, not_or, beq_iff_eq] at plain
            rw [escapeValid, if_neg plain.1, if_neg plain.2]
          rw [escapeLoop_eq, whole, take_length, drop_length, append_nil,
            flatMap_congr copied, flatMap_singleton', Option.getD_some]
        · rfl

/-- Every text is read in exactly one way as a sequence of characters and of other bytes.  What is
written is what the documentation says exactly when `char` is unsigned, or the flags do not ask for
control characters, or they ask for all that is not ASCII, or there is no character outside ASCII. -/
theorem bufUtf8safeEscape_documented_iff {validate : List UInt8 → Nat}
    (longest : LongestValid validate) (sign : CharSign) (flags : Flags) (buf : Buffer) :
    ∃ pieces, Decodes buf.bytes pieces ∧ (∀ others, Decodes buf.bytes others → others = pieces) ∧
      ((bufUtf8safeEscape validate sign flags buf).getD [] =
          pieces.flatMap (Piece.documented flags) ↔
        sign = .unsigned ∨ flags.escapeCtrl = false ∨ flags.escapeNonAscii = true ∨
          ∀ c, Piece.char c ∈ pieces → c.toNat < 128) := by
  obtain ⟨pieces, decodes⟩ := Decodes.exists buf.bytes
  refine ⟨pieces, decodes, fun others others_decode => decodes.unique others_decode, ?_⟩
  rw [bufUtf8safeEscape_eq, decodes.escapeLoop longest,
    flatMap_eq_flatMap_iff fun piece _ => piece.length_le_written sign flags]
  simp only [Piece.written_eq_iff]
  constructor
  · intro right
    by_contra other
    simp only [not_or, not_forall] at other
    obtain ⟨not_unsigned, ctrl, not_ascii, c, mem, large⟩ := other
    refine right (Piece.char c) mem ⟨?_, ?_, ?_, by omega⟩
    · cases sign with
      | signed => rfl
      | unsigned => exact absurd rfl not_unsigned
    · exact Bool.eq_true_of_not_eq_false ctrl
    · exact Bool.eq_false_of_not_eq_true not_ascii
  · intro condition piece mem wrong
    cases piece with
    | invalid ch => exact wrong
    | char c =>
      obtain ⟨signed, ctrl, ascii_only, large⟩ := wrong
      rcases condition with unsigned | no_ctrl | non_ascii | small
      · rw [signed] at unsigned
        cases unsigned
      · rw [ctrl] at no_ctrl
        cases no_ctrl
      · rw [ascii_only] at non_ascii
        cases non_ascii
      · have lt := small c mem
        omega

/-- A letter, a letter outside ASCII and a tabulator. -/
theorem bufUtf8safeEscape_documented_unsigned :
    ∃ pieces, Decodes [0x61, 0xc3, 0xa4, 0x09] pieces ∧
      (∀ others, Decodes [0x61, 0xc3, 0xa4, 0x09] others → others = pieces) ∧
      ((bufUtf8safeEscape utf8Validate .unsigned ⟨true, false⟩
          (.sized [0x61, 0xc3, 0xa4, 0x09])).getD [] =
          pieces.flatMap (Piece.documented ⟨true, false⟩) ↔
        CharSign.unsigned = .unsigned ∨ true = false ∨ false = true ∨
          ∀ c, Piece.char c ∈ pieces → c.toNat < 128) :=
  bufUtf8safeEscape_documented_iff longestValid_utf8Validate .unsigned ⟨true, false⟩
    (.sized [0x61, 0xc3, 0xa4, 0x09])

/-- Where `char` is signed, a letter outside ASCII is escaped although only control characters are
asked for. -/
theorem bufUtf8safeEscape_documented_fails :
    Decodes [0xc3, 0xa4] [Piece.char 'ä'] ∧
      [Piece.char 'ä'].flatMap (Piece.documented ⟨true, false⟩) = [0xc3, 0xa4] ∧
      (bufUtf8safeEscape utf8Validate .signed ⟨true, false⟩ (.sized [0xc3, 0xa4])).getD [] =
        appendEscape 0xc3 ++ appendEscape 0xa4 ∧
      (bufUtf8safeEscape utf8Validate .signed ⟨true, false⟩ (.sized [0xc3, 0xa4])).getD [] ≠
        [Piece.char 'ä'].flatMap (Piece.documented ⟨true, false⟩) := by
  have decodes : Decodes [0xc3, 0xa4] [Piece.char 'ä'] :=
    show Decodes (String.utf8EncodeChar 'ä' ++ []) [Piece.char 'ä'] from
      Decodes.char (by decide) Decodes.nil
  have written := bufUtf8safeEscape_eq utf8Validate .signed ⟨true, false⟩ (.sized [0xc3, 0xa4])
  change _ = escapeLoop _ _ _ (utf8Validate [0xc3, 0xa4]) [0xc3, 0xa4] at written
  rw [decodes.escapeLoop longestValid_utf8Validate] at written
  rw [written]
  exact ⟨decodes, by decide, by decide, by decide⟩

end NetworkManager.Utf8Safe
