import Mathlib.Data.List.TakeWhile
import Mathlib.Tactic.IntervalCases

/-!
# Numbers as text

How the program reads numbers and booleans from text, and that it reads back the digits it writes.
Strings are lists of characters; the end of a list is the terminating zero.
-/

namespace NetworkManager.Ascii

open List

/-- `g_ascii_isspace`, which does not count the vertical tab. -/
def isSpace (c : Char) : Bool :=
  c == ' ' || c == '\n' || c == '\t' || c == '\r' || c == '\x0c'

/-- The characters that `g_ascii_strtoll` skips. -/
def isStrtollSpace (c : Char) : Bool := isSpace c || c == '\x0b'

/-- `nm_str_skip_leading_spaces`. -/
def skipLeadingSpaces (str : List Char) : List Char := str.dropWhile isSpace

/-- `nm_strstrip_avoid_copy`. -/
def strip (str : List Char) : List Char :=
  ((skipLeadingSpaces str).reverse.dropWhile isSpace).reverse

/-- The value of a digit or letter; other characters are no digits in any base. -/
def digitValue (c : Char) : Nat :=
  if '0' ≤ c ∧ c ≤ '9' then c.toNat - '0'.toNat
  else if 'A' ≤ c ∧ c ≤ 'Z' then c.toNat - 'A'.toNat + 10
  else if 'a' ≤ c ∧ c ≤ 'z' then c.toNat - 'a'.toNat + 10
  else 36

/-- The number that digits stand for. -/
def digitsValue (base : Nat) (digits : List Char) : Nat :=
  digits.foldl (fun value c => value * base + digitValue c) 0

/-- The digits at the front of a text. -/
def leadingDigits (base : Nat) (str : List Char) : List Char :=
  str.takeWhile fun c => digitValue c < base

/-- The text after the digits at its front. -/
def afterDigits (base : Nat) (str : List Char) : List Char :=
  str.dropWhile fun c => digitValue c < base

/-- The sign in front of a number. -/
def takeSign : List Char → Bool × List Char
  | '-' :: str => (true, str)
  | '+' :: str => (false, str)
  | str => (false, str)

/-- The base in which the digits of a number are read, the text from there on, and the text that
remains if there are no digits after a hexadecimal mark. -/
def takeBase (base : Nat) (nptr : List Char) : List Char → Nat × List Char × List Char
  | '0' :: mark :: str =>
    if (base = 0 ∨ base = 16) ∧ (mark = 'x' ∨ mark = 'X') then (16, str, mark :: str)
    else (if base = 0 then 8 else base, '0' :: mark :: str, nptr)
  | '0' :: str => (if base = 0 then 8 else base, '0' :: str, nptr)
  | str => (if base = 0 then 10 else base, str, nptr)

/-- What `g_ascii_strtoll` gives. -/
structure Strtoll where
  value : Int
  /-- The text at `endptr`. -/
  rest : List Char
  /-- Whether `errno` was set. -/
  error : Bool
  deriving DecidableEq, Repr

/-- `g_ascii_strtoll`. -/
def strtoll (nptr : List Char) (base : Nat) : Strtoll :=
  let (negative, str) := takeSign (nptr.dropWhile isStrtollSpace)
  let (base, str, unconverted) := takeBase base nptr str
  let value := digitsValue base (leadingDigits base str)
  if leadingDigits base str = [] then ⟨0, unconverted, false⟩
  else if negative then
    if value > 2 ^ 63 then ⟨-2 ^ 63, afterDigits base str, true⟩
    else ⟨-value, afterDigits base str, false⟩
  else
    if value > 2 ^ 63 - 1 then ⟨2 ^ 63 - 1, afterDigits base str, true⟩
    else ⟨value, afterDigits base str, false⟩

/-- `_nm_utils_ascii_str_to_int64`. -/
def strToInt64 (str : List Char) (base : Nat) (min max fallback : Int) : Int :=
  let str := skipLeadingSpaces str
  if str = [] then fallback
  else
    let result := strtoll str base
    if result.error then fallback
    else if skipLeadingSpaces result.rest ≠ [] then fallback
    else if result.value > max ∨ result.value < min then fallback
    else result.value

/-- A text up to a character that `strchr` looks for, and the text after it. -/
def cutAt (c : Char) (str : List Char) : List Char × Option (List Char) :=
  (str.takeWhile (· ≠ c), (str.dropWhile (· ≠ c)).tail?)

/-- `g_ascii_tolower`. -/
def toLower (c : Char) : Char :=
  if 'A' ≤ c ∧ c ≤ 'Z' then Char.ofNat (c.toNat + 32) else c

/-- `g_ascii_strcasecmp` finds no difference. -/
def caseEqual (left right : List Char) : Bool := left.map toLower == right.map toLower

/-- `_nm_utils_ascii_str_to_bool`, with no value in place of the default. -/
def strToBool (str : List Char) : Option Bool :=
  let str := strip str
  if caseEqual str "true".toList || caseEqual str "yes".toList || caseEqual str "on".toList ||
      caseEqual str "1".toList then some true
  else if caseEqual str "false".toList || caseEqual str "no".toList ||
      caseEqual str "off".toList || caseEqual str "0".toList then some false
  else none

variable {c : Char} {number : Nat}

theorem cutAt_eq_none {str : List Char} (absent : c ∉ str) : cutAt c str = (str, none) := by
  have others : ∀ other ∈ str, decide (other ≠ c) = true := by
    intro other mem
    exact decide_eq_true fun same => absent (same ▸ mem)
  unfold cutAt
  rw [takeWhile_eq_self_iff.mpr others, dropWhile_eq_nil_iff.mpr others]
  rfl

theorem cutAt_append {front : List Char} (absent : c ∉ front) (rest : List Char) :
    cutAt c (front ++ c :: rest) = (front, some rest) := by
  have others : ∀ other ∈ front, decide (other ≠ c) = true := by
    intro other mem
    exact decide_eq_true fun same => absent (same ▸ mem)
  unfold cutAt
  rw [takeWhile_append_of_pos others, dropWhile_append_of_pos others]
  simp

theorem digitValue_digitChar {digit : Nat} (small : digit < 16) :
    digitValue digit.digitChar = digit := by
  interval_cases digit <;> decide

theorem digitsValue_append_singleton (base : Nat) (digits : List Char) (c : Char) :
    digitsValue base (digits ++ [c]) = digitsValue base digits * base + digitValue c := by
  simp [digitsValue]

theorem digitsValue_zeros (base count : Nat) (digits : List Char) :
    digitsValue base (List.replicate count '0' ++ digits) = digitsValue base digits := by
  induction count with
  | zero => rfl
  | succ count ih =>
    have zero : digitValue '0' = 0 := by decide
    rw [replicate_succ, cons_append, digitsValue, foldl_cons, zero]
    simpa [digitsValue] using ih

theorem digitValue_lt_of_mem_toDigits {base number : Nat} (one_lt : 1 < base) (small : base ≤ 16)
    (mem : c ∈ Nat.toDigits base number) : digitValue c < base := by
  induction number using Nat.strong_induction_on with
  | _ number ih =>
    rw [Nat.toDigits_eq_if one_lt] at mem
    split at mem
    · rename_i below
      obtain rfl : c = number.digitChar := by simpa using mem
      rw [digitValue_digitChar (by omega)]
      exact below
    · rename_i above
      rcases mem_append.mp mem with mem | mem
      · exact ih (number / base) (Nat.div_lt_self (by omega) one_lt) mem
      · obtain rfl : c = (number % base).digitChar := by simpa using mem
        have below := Nat.mod_lt number (Nat.zero_lt_of_lt one_lt)
        rw [digitValue_digitChar (by omega)]
        exact below

variable {base : Nat}

theorem digitsValue_toDigits (number : Nat) (one_lt : 1 < base) (small : base ≤ 16) :
    digitsValue base (Nat.toDigits base number) = number := by
  induction number using Nat.strong_induction_on with
  | _ number ih =>
    rw [Nat.toDigits_eq_if one_lt]
    split
    · rename_i below
      simp [digitsValue, digitValue_digitChar (show number < 16 by omega)]
    · rename_i above
      have below := Nat.mod_lt number (Nat.zero_lt_of_lt one_lt)
      rw [digitsValue_append_singleton, digitValue_digitChar (by omega),
        ih (number / base) (Nat.div_lt_self (by omega) one_lt)]
      exact Nat.div_add_mod' number base

theorem toDigits_eq_cons (number : Nat) (one_lt : 1 < base) (small : base ≤ 16) :
    ∃ first others, Nat.toDigits base number = first :: others ∧ digitValue first < base ∧
      (first = '0' → number = 0 ∧ others = []) := by
  induction number using Nat.strong_induction_on with
  | _ number ih =>
    rw [Nat.toDigits_eq_if one_lt]
    split
    · rename_i below
      refine ⟨_, [], rfl, ?_, ?_⟩
      · rw [digitValue_digitChar (by omega)]
        exact below
      · intro is_zero
        have value := digitValue_digitChar (show number < 16 by omega)
        rw [is_zero] at value
        exact ⟨value.symm.trans (by decide), rfl⟩
    · rename_i above
      have quotient_pos : 0 < number / base := Nat.div_pos (by omega) (by omega)
      obtain ⟨first, others, digits_eq, below, zero⟩ :=
        ih (number / base) (Nat.div_lt_self (by omega) one_lt)
      refine ⟨first, others ++ [(number % base).digitChar], ?_, below, ?_⟩
      · rw [digits_eq, cons_append]
      · intro is_zero
        have := (zero is_zero).1
        omega

theorem isDigit_of_digitValue (below : digitValue c < 10) : c.isDigit = true := by
  unfold digitValue at below
  split at below
  · rename_i range
    exact Bool.and_eq_true_iff.mpr ⟨decide_eq_true range.1, decide_eq_true range.2⟩
  · split at below
    · omega
    · split at below <;> omega

/-- Digits end where a text begins. -/
def StopsDigits (base : Nat) (rest : List Char) : Prop :=
  ∀ c, rest.head? = some c → base ≤ digitValue c

theorem stopsDigits_nil (base : Nat) : StopsDigits base [] := by
  intro c impossible
  cases impossible

theorem leadingDigits_append {digits rest : List Char} (below : ∀ c ∈ digits, digitValue c < base)
    (stops : StopsDigits base rest) :
    leadingDigits base (digits ++ rest) = digits := by
  unfold leadingDigits
  rw [takeWhile_append_of_pos (by simpa using below)]
  cases rest with
  | nil => simp
  | cons c rest =>
    have stop := stops c rfl
    simp [Nat.not_lt.mpr stop]

theorem afterDigits_append {digits rest : List Char} (below : ∀ c ∈ digits, digitValue c < base)
    (stops : StopsDigits base rest) :
    afterDigits base (digits ++ rest) = rest := by
  unfold afterDigits
  rw [dropWhile_append_of_pos (by simpa using below)]
  cases rest with
  | nil => rfl
  | cons c rest =>
    have stop := stops c rfl
    simp [Nat.not_lt.mpr stop]

/-- A character that is a digit in some base is neither white space nor a sign. -/
theorem digit_is_plain (digit : digitValue c < 36) :
    isStrtollSpace c = false ∧ c ≠ '-' ∧ c ≠ '+' := by
  refine ⟨?_, ?_, ?_⟩
  · cases space : isStrtollSpace c with
    | false => rfl
    | true =>
      simp only [isStrtollSpace, isSpace, Bool.or_eq_true, beq_iff_eq] at space
      rcases space with ((((rfl | rfl) | rfl) | rfl) | rfl) | rfl <;>
        exact absurd digit (by decide)
  · rintro rfl
    exact absurd digit (by decide)
  · rintro rfl
    exact absurd digit (by decide)

theorem skipSpaces_digit (digit : digitValue c < 36) (rest : List Char) :
    (c :: rest).dropWhile isStrtollSpace = c :: rest ∧ skipLeadingSpaces (c :: rest) = c :: rest ∧
      takeSign (c :: rest) = (false, c :: rest) := by
  obtain ⟨no_space, no_minus, no_plus⟩ := digit_is_plain digit
  have no_ascii_space : isSpace c = false := by
    unfold isStrtollSpace at no_space
    exact (Bool.or_eq_false_iff.mp no_space).1
  refine ⟨?_, ?_, ?_⟩
  · simp [no_space]
  · simp [skipLeadingSpaces, no_ascii_space]
  · unfold takeSign
    split
    · rename_i same
      exact absurd (List.cons.inj same).1 no_minus
    · rename_i same
      exact absurd (List.cons.inj same).1 no_plus
    · rfl

theorem strtoll_eq {nptr str digits rest unconverted : List Char} {base effective : Nat}
    (signless : takeSign (nptr.dropWhile isStrtollSpace) = (false, str))
    (based : takeBase base nptr str = (effective, digits ++ rest, unconverted))
    (nonempty : digits ≠ []) (below : ∀ c ∈ digits, digitValue c < effective)
    (stops : StopsDigits effective rest) (small : digitsValue effective digits < 2 ^ 63) :
    strtoll nptr base = ⟨digitsValue effective digits, rest, false⟩ := by
  unfold strtoll
  rw [signless]
  dsimp only
  rw [based]
  dsimp only
  rw [leadingDigits_append below stops, afterDigits_append below stops, if_neg nonempty,
    if_neg Bool.false_ne_true, if_neg (by omega)]

theorem takeBase_decimal (nptr : List Char) (decimal : base ≠ 0 ∧ base ≠ 16) (str : List Char) :
    takeBase base nptr str = (base, str, nptr) := by
  unfold takeBase
  split
  · simp [decimal.1, decimal.2]
  · simp [decimal.1]
  · simp [decimal.1]

theorem takeBase_of_ne_zero (base : Nat) (nptr : List Char) {first : Char} (ne : first ≠ '0')
    (str : List Char) :
    takeBase base nptr (first :: str) = (if base = 0 then 10 else base, first :: str, nptr) := by
  unfold takeBase
  split
  · rename_i same
    exact absurd (List.cons.inj same).1 ne
  · rename_i same
    exact absurd (List.cons.inj same).1 ne
  · rfl

theorem strtoll_toDigits {nptr str rest unconverted : List Char} {base effective : Nat}
    (number zeros : Nat) (one_lt : 1 < effective) (le : effective ≤ 16)
    (signless : takeSign (nptr.dropWhile isStrtollSpace) = (false, str))
    (based : takeBase base nptr str =
      (effective, (List.replicate zeros '0' ++ Nat.toDigits effective number) ++ rest, unconverted))
    (stops : StopsDigits effective rest) (small : number < 2 ^ 63) :
    strtoll nptr base = ⟨number, rest, false⟩ := by
  have value : digitsValue effective (replicate zeros '0' ++ Nat.toDigits effective number) =
      number := by
    rw [digitsValue_zeros, digitsValue_toDigits number one_lt le]
  have below : ∀ c ∈ replicate zeros '0' ++ Nat.toDigits effective number,
      digitValue c < effective := by
    intro c mem
    rcases mem_append.mp mem with mem | mem
    · rw [eq_of_mem_replicate mem]
      exact Nat.lt_of_le_of_lt (show digitValue '0' ≤ 1 by decide) one_lt
    · exact digitValue_lt_of_mem_toDigits one_lt le mem
  have nonempty : replicate zeros '0' ++ Nat.toDigits effective number ≠ [] := by
    simp [Nat.toDigits_ne_nil]
  rw [strtoll_eq signless based nonempty below stops (by rw [value]; exact small), value]

theorem takeSign_toDigits (number : Nat) (one_lt : 1 < base) (le : base ≤ 16) (rest : List Char) :
    takeSign ((Nat.toDigits base number ++ rest).dropWhile isStrtollSpace) =
      (false, Nat.toDigits base number ++ rest) := by
  obtain ⟨first, others, digits_eq, first_below, -⟩ := toDigits_eq_cons number one_lt le
  obtain ⟨no_space, -, no_sign⟩ :=
    skipSpaces_digit (show digitValue first < 36 by omega) (others ++ rest)
  rw [digits_eq, cons_append, no_space, no_sign]

theorem strtoll_decimal (number : Nat) {rest : List Char} (stops : StopsDigits 10 rest)
    (small : number < 2 ^ 63) :
    strtoll (Nat.toDigits 10 number ++ rest) 10 = ⟨number, rest, false⟩ :=
  strtoll_toDigits number 0 (by decide) (by decide)
    (takeSign_toDigits number (by decide) (by decide) rest)
    (takeBase_decimal _ (by decide) _) stops small

/-- Decimal digits are read back when the base is taken from the text. -/
theorem strtoll_decimal_auto (small : number < 2 ^ 63) :
    strtoll (Nat.toDigits 10 number) 0 = ⟨number, [], false⟩ := by
  obtain ⟨first, others, digits_eq, -, zero⟩ :=
    toDigits_eq_cons number (show 1 < 10 by decide) (by decide)
  by_cases is_zero : first = '0'
  · obtain ⟨rfl, rfl⟩ := zero is_zero
    decide
  · have signless := takeSign_toDigits number (show 1 < 10 by decide) (by decide) []
    have based : takeBase 0 (Nat.toDigits 10 number) (Nat.toDigits 10 number ++ []) =
        (10, Nat.toDigits 10 number ++ [], Nat.toDigits 10 number) := by
      rw [digits_eq, cons_append, takeBase_of_ne_zero 0 _ is_zero]
      rfl
    rw [append_nil] at signless
    rw [append_nil] at based
    exact strtoll_toDigits number 0 (by decide) (by decide) signless
      (by simpa using based) (stopsDigits_nil 10) small

/-- Hexadecimal digits are read back in base sixteen, unless they look like a hexadecimal mark. -/
theorem strtoll_hex (number : Nat) {rest : List Char} (stops : StopsDigits 16 rest)
    (unmarked : ∀ c, rest.head? = some c → c ≠ 'x' ∧ c ≠ 'X') (small : number < 2 ^ 63) :
    strtoll (Nat.toDigits 16 number ++ rest) 16 = ⟨number, rest, false⟩ := by
  obtain ⟨first, others, digits_eq, -, zero⟩ :=
    toDigits_eq_cons number (show 1 < 16 by decide) (by decide)
  have based : takeBase 16 (Nat.toDigits 16 number ++ rest) (Nat.toDigits 16 number ++ rest) =
      (16, Nat.toDigits 16 number ++ rest, Nat.toDigits 16 number ++ rest) := by
    rw [digits_eq, cons_append]
    by_cases is_zero : first = '0'
    · obtain ⟨-, rfl⟩ := zero is_zero
      rw [is_zero]
      cases rest with
      | nil => rfl
      | cons mark rest =>
        obtain ⟨no_x, no_upper⟩ := unmarked mark rfl
        simp [takeBase, no_x, no_upper]
    · rw [takeBase_of_ne_zero 16 _ is_zero]
      rfl
  exact strtoll_toDigits number 0 (by decide) (by decide)
    (takeSign_toDigits number (by decide) (by decide) rest) based stops small

theorem strtoll_hexMark (marked : base = 0 ∨ base = 16) (number zeros : Nat)
    (small : number < 2 ^ 63) :
    strtoll ('0' :: 'x' :: (List.replicate zeros '0' ++ Nat.toDigits 16 number)) base =
      ⟨number, [], false⟩ := by
  have based : ∀ nptr, takeBase base nptr
      ('0' :: 'x' :: (replicate zeros '0' ++ Nat.toDigits 16 number)) =
      (16, (replicate zeros '0' ++ Nat.toDigits 16 number) ++ [],
        'x' :: (replicate zeros '0' ++ Nat.toDigits 16 number)) := by
    intro nptr
    simp [takeBase, marked]
  exact strtoll_toDigits number zeros (by decide) (by decide) (by rfl) (based _)
    (stopsDigits_nil 16) small

/-- A text that is a number all over gives the number, if it is in the range. -/
theorem strToInt64_eq {first : Char} {others : List Char} {value min max : Int} (fallback : Int)
    (digit : digitValue first < 36) (read : strtoll (first :: others) base = ⟨value, [], false⟩)
    (low : min ≤ value) (high : value ≤ max) :
    strToInt64 (first :: others) base min max fallback = value := by
  obtain ⟨-, no_space, -⟩ := skipSpaces_digit digit others
  have in_range : ¬ (value > max ∨ value < min) := by omega
  unfold strToInt64
  rw [no_space]
  dsimp only
  rw [if_neg (cons_ne_nil _ _), read]
  simp [skipLeadingSpaces, in_range]

theorem strToInt64_decimal {min max : Int} (fallback : Int) (low : min ≤ number)
    (high : (number : Int) ≤ max) (small : number < 2 ^ 63) :
    strToInt64 (Nat.toDigits 10 number) 10 min max fallback = number := by
  have read := strtoll_decimal number (stopsDigits_nil 10) small
  obtain ⟨first, others, digits_eq, below, -⟩ :=
    toDigits_eq_cons number (show 1 < 10 by decide) (by decide)
  rw [append_nil, digits_eq] at read
  rw [digits_eq]
  exact strToInt64_eq fallback (by omega) read low high

theorem strToInt64_decimal_auto {min max : Int} (fallback : Int) (low : min ≤ number)
    (high : (number : Int) ≤ max) (small : number < 2 ^ 63) :
    strToInt64 (Nat.toDigits 10 number) 0 min max fallback = number := by
  have read := strtoll_decimal_auto small
  obtain ⟨first, others, digits_eq, below, -⟩ :=
    toDigits_eq_cons number (show 1 < 10 by decide) (by decide)
  rw [digits_eq] at read
  rw [digits_eq]
  exact strToInt64_eq fallback (by omega) read low high

theorem strToInt64_hexMark (marked : base = 0 ∨ base = 16) (zeros : Nat) {min max : Int}
    (fallback : Int) (low : min ≤ number) (high : (number : Int) ≤ max) (small : number < 2 ^ 63) :
    strToInt64 ('0' :: 'x' :: (List.replicate zeros '0' ++ Nat.toDigits 16 number)) base min max
      fallback = number :=
  strToInt64_eq fallback (by decide) (strtoll_hexMark marked number zeros small) low high

end NetworkManager.Ascii
