import Mathlib.Tactic.IntervalCases
import NetworkManager.Ifcfg.Escape

/-!
# What is escaped can be read back

`svUnescape` reads each of the three forms that `svEscape` writes: the value itself, the value in
double quotes, and the value in ANSI-C quotes.  None of them contains a newline.
-/

namespace NetworkManager.Shvar

open Bytes List

variable {sign : CharSign}

theorem octalDigit_eq (value : Int) (shift : Nat) :
    ∃ digit < 8, octalDigit value shift = 0x30 + UInt8.ofNat digit ∧
      (digit : Int) = value / 2 ^ shift % 8 := by
  refine ⟨((value >>> shift) % 8).toNat, ?_, rfl, ?_⟩
  · omega
  · rw [Int.shiftRight_eq_div_pow, Int.toNat_of_nonneg (Int.emod_nonneg _ (by decide))]
    norm_cast

variable {digit : Nat} {b : UInt8}

theorem chOctalIs_digit (small : digit < 8) : chOctalIs (0x30 + UInt8.ofNat digit) = true := by
  interval_cases digit <;> decide

theorem chOctalGet_digit (small : digit < 8) : chOctalGet (0x30 + UInt8.ofNat digit) = digit := by
  interval_cases digit <;> decide

theorem lookup_digit (small : digit < 8) :
    unescapeLetters.lookup (0x30 + UInt8.ofNat digit) = none := by
  interval_cases digit <;> decide

theorem printable_digit (small : digit < 8) : 0x20 ≤ (0x30 + UInt8.ofNat digit).toNat := by
  interval_cases digit <;> decide

theorem octal_value (b : UInt8) {high middle low : Nat}
    (high_eq : (high : Int) = sign.charValue b / 2 ^ 6 % 8)
    (middle_eq : (middle : Int) = sign.charValue b / 2 ^ 3 % 8)
    (low_eq : (low : Int) = sign.charValue b / 2 ^ 0 % 8) :
    UInt8.ofNat (((0 * 8 + high) * 8 + middle) * 8 + low) = b := by
  have bound : b.toNat < 256 := b.toNat_lt
  have modulo : ∃ k : Int, sign.charValue b = b.toNat + 256 * k := by
    unfold CharSign.charValue
    cases sign with
    | signed =>
      by_cases small : b.toNat < 128
      · exact ⟨0, by simp [small]⟩
      · exact ⟨-1, by simp [small]; omega⟩
    | unsigned => exact ⟨0, by simp⟩
  obtain ⟨k, value_eq⟩ := modulo
  rw [value_eq] at high_eq middle_eq low_eq
  apply UInt8.toNat_inj.mp
  rw [UInt8.toNat_ofNat']
  omega

theorem mem_of_lookup {table : List (UInt8 × UInt8)} {b c : UInt8}
    (found : table.lookup b = some c) : (b, c) ∈ table := by
  obtain ⟨before, after, rfl, -⟩ := lookup_eq_some_iff.mp found
  exact mem_append_right _ mem_cons_self

theorem escapeLetters_inverse :
    ∀ pair ∈ escapeLetters, unescapeLetters.lookup pair.2 = some pair.1 ∧ 0x20 ≤ pair.2.toNat := by
  unfold escapeLetters
  simp only [forall_mem_cons, not_mem_nil, false_imp_iff, implies_true, and_true]
  decide

theorem escapedMarks_inverse :
    ∀ b ∈ [backslash, doubleQuote, singleQuote], unescapeLetters.lookup b = some b := by
  simp only [forall_mem_cons, not_mem_nil, false_imp_iff, implies_true, and_true]
  decide

theorem printable_of_mark : ∀ b ∈ [backslash, doubleQuote, singleQuote], 0x20 ≤ b.toNat := by
  simp only [forall_mem_cons, not_mem_nil, false_imp_iff, implies_true, and_true]
  decide

theorem printable_of_charValue (printable : 0x20 ≤ sign.charValue b) : 0x20 ≤ b.toNat := by
  unfold CharSign.charValue at printable
  cases sign with
  | signed =>
    dsimp only at printable
    split at printable
    · omega
    · omega
  | unsigned => exact Int.ofNat_le.mp printable

theorem ansicQuotes_plain (not_end : b ≠ singleQuote) (not_escape : b ≠ backslash)
    (text : List UInt8) : ansicQuotes (b :: text) = prepend [b] (ansicQuotes text) := by
  rw [ansicQuotes.eq_def]
  dsimp only
  rw [if_neg not_end, if_neg not_escape]

theorem ansicQuotes_escape (c : UInt8) (text : List UInt8) :
    ansicQuotes (backslash :: c :: text) =
      prepend (ansicEscape c text).1 (ansicQuotes (ansicEscape c text).2) := by
  rw [ansicQuotes, if_neg (by decide), if_pos rfl]

theorem ansicEscape_letter {b c : UInt8} (found : unescapeLetters.lookup c = some b)
    (text : List UInt8) : ansicEscape c text = ([b], text) := by
  unfold ansicEscape
  rw [found]

theorem ansicEscape_octal {high middle low : Nat} (high_small : high < 8)
    (middle_small : middle < 8) (low_small : low < 8) (text : List UInt8) :
    ansicEscape (0x30 + UInt8.ofNat high)
        ((0x30 + UInt8.ofNat middle) :: (0x30 + UInt8.ofNat low) :: text) =
      ([UInt8.ofNat (((0 * 8 + high) * 8 + middle) * 8 + low)], text) := by
  unfold ansicEscape
  rw [lookup_digit high_small]
  simp [chOctalIs_digit, chOctalGet_digit, high_small, middle_small, low_small, digitRun]

theorem ansicQuotes_escapeAnsicByte (b : UInt8) (text : List UInt8) :
    ansicQuotes (escapeAnsicByte sign b ++ text) = prepend [b] (ansicQuotes text) := by
  unfold escapeAnsicByte
  cases found : escapeLetters.lookup b with
  | some letter =>
    have inverse := (escapeLetters_inverse _ (mem_of_lookup found)).1
    rw [cons_append, cons_append, nil_append, ansicQuotes_escape, ansicEscape_letter inverse]
  | none =>
    dsimp only
    by_cases special : b ∈ [backslash, doubleQuote, singleQuote]
    · rw [if_pos special]
      rw [cons_append, cons_append, nil_append, ansicQuotes_escape,
        ansicEscape_letter (escapedMarks_inverse b special)]
    · rw [if_neg special]
      split
      · obtain ⟨high, high_small, high_digit, high_eq⟩ := octalDigit_eq (sign.charValue b) 6
        obtain ⟨middle, middle_small, middle_digit, middle_eq⟩ :=
          octalDigit_eq (sign.charValue b) 3
        obtain ⟨low, low_small, low_digit, low_eq⟩ := octalDigit_eq (sign.charValue b) 0
        rw [high_digit, middle_digit, low_digit]
        simp only [cons_append, nil_append]
        rw [ansicQuotes_escape, ansicEscape_octal high_small middle_small low_small,
          octal_value b high_eq middle_eq low_eq]
      · rw [singleton_append]
        apply ansicQuotes_plain
        · rintro rfl
          exact special (by decide)
        · rintro rfl
          exact special (by decide)

theorem ansicQuotes_escapeAnsic (source : List UInt8) :
    ansicQuotes (source.flatMap (escapeAnsicByte sign) ++ [singleQuote]) = some (source, []) := by
  induction source with
  | nil =>
    rw [flatMap_nil, nil_append, ansicQuotes, if_pos rfl]
  | cons b source ih =>
    rw [flatMap_cons, append_assoc, ansicQuotes_escapeAnsicByte, ih]
    rfl

theorem printable_of_mem_escapeAnsicByte {b c : UInt8} (mem : c ∈ escapeAnsicByte sign b) :
    0x20 ≤ c.toNat := by
  unfold escapeAnsicByte at mem
  cases found : escapeLetters.lookup b with
  | some letter =>
    rw [found, mem_cons, mem_singleton] at mem
    rcases mem with rfl | rfl
    · decide
    · exact (escapeLetters_inverse _ (mem_of_lookup found)).2
  | none =>
    rw [found] at mem
    dsimp only at mem
    split at mem
    · rename_i special
      rw [mem_cons, mem_singleton] at mem
      rcases mem with rfl | rfl
      · decide
      · exact printable_of_mark c special
    · split at mem
      · have digit_printable : ∀ shift, 0x20 ≤ (octalDigit (sign.charValue b) shift).toNat := by
          intro shift
          obtain ⟨digit, small, digit_eq, -⟩ := octalDigit_eq (sign.charValue b) shift
          rw [digit_eq]
          exact printable_digit small
        simp only [mem_cons, not_mem_nil, or_false] at mem
        rcases mem with rfl | rfl | rfl | rfl
        · decide
        · exact digit_printable 6
        · exact digit_printable 3
        · exact digit_printable 0
      · rename_i regular
        rw [mem_singleton.mp mem]
        exact printable_of_charValue (not_lt.mp fun small => regular (.inl small))

theorem doubleQuotes_escapeQuotedByte (old : Bool) (b : UInt8) (text : List UInt8) :
    doubleQuotes old (escapeQuotedByte b ++ text) = prepend [b] (doubleQuotes old text) := by
  unfold escapeQuotedByte
  by_cases escaped : charReqEscape b = true
  · rw [if_pos escaped, cons_append, cons_append, nil_append, doubleQuotes]
    have kept : doubleQuotesEscape old b = [b] := by
      unfold doubleQuotesEscape
      unfold charReqEscape at escaped
      rw [if_pos]
      simp only [decide_eq_true_eq, mem_cons, not_mem_nil, or_false] at escaped ⊢
      tauto
    rw [if_neg (by decide), if_neg (by decide), if_pos rfl, kept]
  · rw [if_neg escaped, singleton_append, doubleQuotes.eq_def]
    dsimp only
    rw [if_neg, if_neg, if_neg]
    · rintro rfl
      exact escaped (by decide)
    · intro expansion
      refine escaped ?_
      simp only [mem_cons, not_mem_nil, or_false] at expansion
      rcases expansion with rfl | rfl
      · decide
      · decide
    · rintro rfl
      exact escaped (by decide)

theorem doubleQuotes_escapeQuoted (old : Bool) (s : List UInt8) :
    doubleQuotes old (s.flatMap escapeQuotedByte ++ [doubleQuote]) = some (s, []) := by
  induction s with
  | nil => rfl
  | cons b s ih =>
    rw [flatMap_cons, append_assoc, doubleQuotes_escapeQuotedByte, ih]
    rfl

/-- What the first loop of `svEscape` tells about a value. -/
theorem of_svEscapeScan {s : List UInt8} {before mangle : Nat} {quotesBefore requiresQuotes : Bool}
    (scanned : svEscapeScan sign s before quotesBefore = some (mangle, requiresQuotes)) :
    before ≤ mangle ∧ (quotesBefore = true → requiresQuotes = true) ∧
    ∀ b ∈ s, (charReqEscape b = true ∧ before < mangle) ∨
      (charReqQuotes b = true ∧ requiresQuotes = true) ∨
      (charReqEscape b = false ∧ charReqQuotes b = false ∧ 0x20 ≤ sign.charValue b) := by
  induction s generalizing before quotesBefore with
  | nil =>
    obtain ⟨rfl, rfl⟩ := Prod.mk.inj (Option.some.inj scanned)
    exact ⟨le_rfl, id, nofun⟩
  | cons b s ih =>
    unfold svEscapeScan at scanned
    split at scanned
    · rename_i escaped
      obtain ⟨more, quotes, bytes⟩ := ih scanned
      refine ⟨by omega, quotes, forall_mem_cons.mpr ⟨.inl ⟨escaped, by omega⟩, ?_⟩⟩
      intro c mem
      exact (bytes c mem).imp_left fun ⟨c_escaped, _⟩ => ⟨c_escaped, by omega⟩
    · rename_i not_escaped
      split at scanned
      · rename_i quoted
        obtain ⟨more, quotes, bytes⟩ := ih scanned
        exact ⟨more, fun _ => quotes rfl,
          forall_mem_cons.mpr ⟨.inr (.inl ⟨quoted, quotes rfl⟩), bytes⟩⟩
      · rename_i not_quoted
        split at scanned
        · cases scanned
        · rename_i printable
          obtain ⟨more, quotes, bytes⟩ := ih scanned
          refine ⟨more, quotes, forall_mem_cons.mpr ⟨.inr (.inr ⟨?_, ?_, ?_⟩), bytes⟩⟩
          · exact Bool.eq_false_iff.mpr not_escaped
          · exact Bool.eq_false_iff.mpr not_quoted
          · exact not_lt.mp printable

theorem charValue_of_lt (small : b.toNat < 128) : sign.charValue b = b.toNat := by
  unfold CharSign.charValue
  cases sign with
  | signed => exact if_pos small
  | unsigned => rfl

theorem newline_not_mem_of_scan {s : List UInt8} {mangle : Nat} {requiresQuotes : Bool}
    (scanned : svEscapeScan sign s 0 false = some (mangle, requiresQuotes)) : newline ∉ s := by
  intro mem
  rcases (of_svEscapeScan scanned).2.2 newline mem with ⟨escaped, -⟩ | ⟨quoted, -⟩ | ⟨-, -, large⟩
  · exact absurd escaped (by decide)
  · exact absurd quoted (by decide)
  · rw [charValue_of_lt (by decide)] at large
    exact absurd large (by decide)

@[simp] theorem consumed_append (before text : List UInt8) :
    consumed (before ++ text) text = before := by
  unfold consumed
  rw [length_append, Nat.add_sub_cancel, take_left]

@[simp] theorem consumed_self (value : List UInt8) : consumed value value = [] :=
  consumed_append [] value

@[simp] theorem consumed_nil (value : List UInt8) : consumed value [] = value := by
  unfold consumed
  rw [length_nil, Nat.sub_zero, take_length]

/-- A byte that the loop of `svUnescape` takes as it is. -/
structure Regular (b : UInt8) : Prop where
  notSpace : isSpace b = false
  /-- The byte is no quote, and no character that is special to a shell. -/
  notSpecial : b ∉ [semicolon, backslash, singleQuote, doubleQuote, dollar, '|'.toUInt8,
    '&'.toUInt8, '('.toUInt8, ')'.toUInt8, '<'.toUInt8, '>'.toUInt8]

theorem regular_of_scan (not_escaped : charReqEscape b = false)
    (not_quoted : charReqQuotes b = false) (printable : 0x20 ≤ sign.charValue b) : Regular b where
  notSpace := by
    rw [Bool.eq_false_iff]
    intro is_space
    unfold isSpace at is_space
    simp only [decide_eq_true_eq, mem_cons, not_mem_nil, or_false] at is_space
    rcases is_space with rfl | rfl | rfl | rfl | rfl
    · exact absurd not_quoted (by decide)
    · exact absurd not_quoted (by decide)
    all_goals
      rw [charValue_of_lt (by decide)] at printable
      exact absurd printable (by decide)
  notSpecial := by
    intro special
    simp only [mem_cons, not_mem_nil, or_false] at special
    rcases special with rfl | rfl | rfl | rfl | rfl | rfl | rfl | rfl | rfl | rfl | rfl
    all_goals first
      | exact absurd not_escaped (by decide)
      | exact absurd not_quoted (by decide)

theorem svUnescapeLoop_regular (regular : Regular b) (value : List UInt8)
    (str : Option (List UInt8)) (text : List UInt8) :
    svUnescapeLoop value str (b :: text) = svUnescapeLoop value (str.map (· ++ [b])) text := by
  obtain ⟨not_space, not_special⟩ := regular
  simp only [mem_cons, not_mem_nil, or_false, not_or] at not_special
  obtain ⟨h1, h2, h3, h4, h5, not_meta⟩ := not_special
  rw [svUnescapeLoop.eq_def]
  dsimp only
  rw [if_neg (by simp [not_space, h1]), if_neg h2, if_neg h3, if_neg h4, if_neg fun both => h5 both.1,
    if_neg (by simpa using not_meta)]

theorem svUnescapeLoop_plain (before : List UInt8) {text : List UInt8}
    (regular : ∀ b ∈ text, Regular b) :
    svUnescapeLoop (before ++ text) none text = some (before ++ text) := by
  induction text generalizing before with
  | nil =>
    rw [svUnescapeLoop]
    unfold outValue
    rw [append_nil, consumed_nil]
    split
    · rename_i empty
      rw [empty]
    · rfl
  | cons b text ih =>
    rw [svUnescapeLoop_regular (regular b mem_cons_self)]
    have rest := ih (before ++ [b]) fun c mem => regular c (mem_cons_of_mem b mem)
    rwa [append_assoc, singleton_append] at rest

theorem outValue_end {value s : List UInt8} (not_empty : value ≠ []) (no_nul : 0 ∉ s) :
    outValue value (some s) [] = s := by
  unfold outValue
  rw [consumed_nil, if_neg not_empty]
  refine takeWhile_eq_self_iff.mpr fun b mem => decide_eq_true ?_
  rintro rfl
  exact no_nul mem

theorem svUnescape_ansic {s text : List UInt8} (quoted : ansicQuotes text = some (s, []))
    (no_nul : 0 ∉ s) : svUnescape (dollar :: singleQuote :: text) = some s := by
  unfold svUnescape
  rw [svUnescapeLoop.eq_def]
  dsimp only
  rw [if_neg (by decide), if_neg (by decide), if_neg (by decide), if_neg (by decide),
    if_pos ⟨rfl, rfl⟩]
  split
  · rename_i failed
    rw [tail_cons, quoted] at failed
    cases failed
  · rename_i content after found
    rw [tail_cons, quoted] at found
    obtain ⟨rfl, rfl⟩ := Prod.mk.inj (Option.some.inj found)
    unfold gstrInit
    rw [svUnescapeLoop, Option.getD_none, consumed_self, nil_append,
      outValue_end (cons_ne_nil _ _) no_nul]

theorem svUnescape_doubleQuotes {s text : List UInt8}
    (quoted : ∀ old, doubleQuotes old text = some (s, [])) (no_nul : 0 ∉ s) :
    svUnescape (doubleQuote :: text) = some s := by
  unfold svUnescape
  rw [svUnescapeLoop.eq_def]
  dsimp only
  rw [if_neg (by decide), if_neg (by decide), if_neg (by decide), if_pos rfl]
  split
  · rename_i failed
    rw [quoted] at failed
    cases failed
  · rename_i content after found
    rw [quoted] at found
    obtain ⟨rfl, rfl⟩ := Prod.mk.inj (Option.some.inj found)
    unfold gstrInit
    rw [svUnescapeLoop, Option.getD_none, consumed_self, nil_append,
      outValue_end (cons_ne_nil _ _) no_nul]

theorem svUnescape_of_svEscape (sign : CharSign) (s : CString) :
    svUnescape (svEscape sign s.1) = some s.1 := by
  unfold svEscape
  cases scanned : svEscapeScan sign s.1 0 false with
  | none => exact svUnescape_ansic (ansicQuotes_escapeAnsic s.1) s.2
  | some found =>
    obtain ⟨mangle, requiresQuotes⟩ := found
    dsimp only
    split
    · rename_i plain
      obtain ⟨rfl, rfl⟩ := plain
      refine svUnescapeLoop_plain [] fun b mem => ?_
      rcases (of_svEscapeScan scanned).2.2 b mem with ⟨-, absurd_lt⟩ | ⟨-, absurd_eq⟩ | regular
      · exact absurd absurd_lt (Nat.lt_irrefl 0)
      · cases absurd_eq
      · exact regular_of_scan regular.1 regular.2.1 regular.2.2
    · exact svUnescape_doubleQuotes (fun old => doubleQuotes_escapeQuoted old s.1) s.2

/-- What is escaped contains no control characters, but for tabs. -/
theorem of_mem_svEscape {s : List UInt8} {c : UInt8} (mem : c ∈ svEscape sign s) :
    0x20 ≤ c.toNat ∨ (c ∈ s ∧ svEscapeScan sign s 0 false ≠ none) := by
  unfold svEscape at mem
  cases scanned : svEscapeScan sign s 0 false with
  | none =>
    rw [scanned] at mem
    dsimp only at mem
    unfold escapeAnsic at mem
    rw [mem_cons, mem_cons, mem_append, mem_flatMap, mem_singleton] at mem
    rcases mem with rfl | rfl | ⟨b, -, in_byte⟩ | rfl
    · exact .inl (by decide)
    · exact .inl (by decide)
    · exact .inl (printable_of_mem_escapeAnsicByte in_byte)
    · exact .inl (by decide)
  | some found =>
    rw [scanned] at mem
    dsimp only at mem
    split at mem
    · exact .inr ⟨mem, nofun⟩
    · rw [mem_cons, mem_append, mem_flatMap, mem_singleton] at mem
      rcases mem with rfl | ⟨b, b_mem, in_byte⟩ | rfl
      · exact .inl (by decide)
      · unfold escapeQuotedByte at in_byte
        split at in_byte
        · rw [mem_cons, mem_singleton] at in_byte
          rcases in_byte with rfl | rfl
          · exact .inl (by decide)
          · exact .inr ⟨b_mem, nofun⟩
        · rw [mem_singleton.mp in_byte]
          exact .inr ⟨b_mem, nofun⟩
      · exact .inl (by decide)

theorem newline_not_mem_svEscape (sign : CharSign) (s : List UInt8) :
    newline ∉ svEscape sign s := by
  intro mem
  rcases of_mem_svEscape mem with printable | ⟨in_s, scanned⟩
  · exact absurd printable (by decide)
  · obtain ⟨⟨mangle, requiresQuotes⟩, found⟩ := Option.ne_none_iff_exists'.mp scanned
    exact newline_not_mem_of_scan found in_s

theorem nul_not_mem_svEscape (sign : CharSign) (s : CString) : 0 ∉ svEscape sign s.1 := by
  intro mem
  rcases of_mem_svEscape mem with printable | ⟨in_s, -⟩
  · exact absurd printable (by decide)
  · exact s.2 in_s

/-- Whatever the architecture takes a `char` for and whichever form is written, a value that is
escaped is read back, and it stays on one line. -/
theorem svUnescape_svEscape (sign : CharSign) (s : CString) :
    svUnescape (svEscape sign s.1) = some s.1 ∧ newline ∉ svEscape sign s.1 :=
  ⟨svUnescape_of_svEscape sign s, newline_not_mem_svEscape sign s.1⟩

end NetworkManager.Shvar
