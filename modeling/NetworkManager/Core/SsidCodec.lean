import NetworkManager.Ifcfg.File

/-!
# The name of a wireless network in a key file

The name is any sequence of bytes.  It is written as a string if all bytes are printable, and as a
list of numbers otherwise.  The reader has only the text to tell one form from the other, so the
writer escapes the semicolons of a string.
-/

namespace NetworkManager.Keyfile

open List

open Shvar (isSpace isDigit)
open Bytes (semicolon backslash)

/-- `g_ascii_isprint`. -/
def isPrint (b : UInt8) : Bool := 0x20 ≤ b && b ≤ 0x7e

/-- A byte in a string of the key file. -/
def escapeSemicolon (b : UInt8) : List UInt8 := if b = semicolon then [backslash, b] else [b]

/-- The digits that `%d` gives for a byte. -/
def decimal (b : UInt8) : List UInt8 :=
  (Nat.toDigits 10 b.toNat).map fun digit => digit.toNat.toUInt8

/-- The value that `nm_keyfile_plugin_kf_set_integer_list_uint8` stores. -/
def integerListValue (data : List UInt8) : List UInt8 :=
  data.flatMap fun b => decimal b ++ [semicolon]

/-- The bytes of the value that `ssid_writer` stores. -/
def ssidValue (ssid : List UInt8) : List UInt8 :=
  if ssid.all isPrint then ssid.flatMap escapeSemicolon else integerListValue ssid

/-- `unescape_semicolons`. -/
def unescapeSemicolons : List UInt8 → List UInt8
  | [] => []
  | [b] => [b]
  | b :: next :: str =>
    if b = backslash ∧ next = semicolon then next :: unescapeSemicolons str
    else b :: unescapeSemicolons (next :: str)

def takeDigit (n : Nat) : List UInt8 → Option (Nat × List UInt8)
  | [] => none
  | b :: str => if isDigit b then some (10 * n + (b.toNat - 0x30), str) else none

/-- A number of one to three digits at the front of a text. -/
def takeNumber (str : List UInt8) : Option (Nat × List UInt8) :=
  (takeDigit 0 str).map fun (n, str) =>
    match takeDigit n str with
    | none => (n, str)
    | some (n, str) => (takeDigit n str).getD (n, str)

theorem takeDigit_eq_some {n m : Nat} {str rest : List UInt8}
    (taken : takeDigit n str = some (m, rest)) : ∃ b, str = b :: rest := by
  cases str with
  | nil => cases taken
  | cons b str =>
    rw [takeDigit] at taken
    split at taken
    · obtain ⟨_, rfl⟩ := Prod.mk.inj (Option.some.inj taken)
      exact ⟨b, rfl⟩
    · cases taken

theorem takeNumber_eq_some {n : Nat} {str rest : List UInt8}
    (taken : takeNumber str = some (n, rest)) : ∃ digits, digits ≠ [] ∧ str = digits ++ rest := by
  unfold takeNumber at taken
  obtain ⟨⟨first, after⟩, first_eq, rest_eq⟩ := Option.map_eq_some_iff.mp taken
  obtain ⟨b, rfl⟩ := takeDigit_eq_some first_eq
  dsimp only at rest_eq
  split at rest_eq
  · obtain ⟨_, rfl⟩ := Prod.mk.inj rest_eq
    exact ⟨[b], by simp, rfl⟩
  · rename_i second after second_eq
    obtain ⟨c, rfl⟩ := takeDigit_eq_some second_eq
    cases third_eq : takeDigit second after with
    | none =>
      rw [third_eq] at rest_eq
      obtain ⟨_, rfl⟩ := Prod.mk.inj rest_eq
      exact ⟨[b, c], by simp, rfl⟩
    | some third =>
      have taken : takeDigit second after = some (third.1, third.2) := third_eq
      obtain ⟨d, rfl⟩ := takeDigit_eq_some taken
      rw [third_eq] at rest_eq
      obtain rfl : third = (n, rest) := rest_eq
      exact ⟨[b, c, d], by simp, rfl⟩

section

variable {str after rest : List UInt8} {n : Nat}
  (taken : takeNumber (str.dropWhile isSpace) = some (n, after))

include taken

/-- One turn of the loop in `get_bytes` moves on by a digit and a separator at least. -/
theorem integer_eq_some {separator : UInt8}
    (separated : after.dropWhile isSpace = separator :: rest) :
    ∃ front, front ≠ [] ∧ str = front ++ separator :: rest := by
  obtain ⟨digits, nonempty, digits_eq⟩ := takeNumber_eq_some taken
  refine ⟨str.takeWhile isSpace ++ (digits ++ after.takeWhile isSpace), ?_, ?_⟩
  · simp [nonempty]
  · rw [← separated, append_assoc, append_assoc, takeWhile_append_dropWhile,
      ← digits_eq, takeWhile_append_dropWhile]

theorem length_integer {separator : UInt8} (separated : after.dropWhile isSpace = separator :: rest) :
    rest.length + 2 ≤ str.length := by
  obtain ⟨front, nonempty, rfl⟩ := integer_eq_some taken separated
  have front_pos := length_pos_of_ne_nil nonempty
  simp only [length_append, length_cons]
  omega

end

/-- The numbers of an integer list, and whether the whole text is one. -/
def readIntegerList (str : List UInt8) : List UInt8 × Bool :=
  if str.dropWhile isSpace = [] then ([], true)
  else
    match _taken : takeNumber (str.dropWhile isSpace) with
    | none => ([], false)
    | some (n, after) =>
      if n > 255 then ([], false)
      else
        match _separated : after.dropWhile isSpace with
        | [] => ([n.toUInt8], false)
        | separator :: rest =>
          if separator ≠ semicolon then ([n.toUInt8], false)
          else
            let others := readIntegerList rest
            (n.toUInt8 :: others.1, others.2)
  termination_by str.length
  decreasing_by
    have shorter := length_integer _taken _separated
    omega

/-- The part of `get_bytes` that reads the old format. -/
def integerList (str : List UInt8) : Option (List UInt8) :=
  if str.all (fun b => isSpace b || isDigit b || b == semicolon) then
    match readIntegerList str with
    | ([], _) | (_, false) => none
    | (bin, true) => some bin
  else none

/-- `get_bytes` with the string of the key file, if there is one. -/
def getBytes (zeroTerminate unescapeSemicolon : Bool) : Option CString → Option (List UInt8)
  | none => none
  | some tmpString =>
    if tmpString.val = [] then some []
    else
      match integerList tmpString.val with
      | some bin => some bin
      | none =>
        let str := if unescapeSemicolon then unescapeSemicolons tmpString.val else tmpString.val
        let bytes := if zeroTerminate then str ++ [0] else str
        if bytes = [] then none else some bytes

theorem toUInt8_of_isDigit {digit : Char} (is_digit : digit.isDigit = true) :
    digit.toNat.toUInt8.toNat = digit.toNat ∧ isDigit digit.toNat.toUInt8 = true := by
  simp only [Char.isDigit, Bool.and_eq_true, decide_eq_true_eq] at is_digit
  have first : 48 ≤ digit.toNat := UInt32.le_iff_toNat_le.mp is_digit.1
  have last : digit.toNat ≤ 57 := UInt32.le_iff_toNat_le.mp is_digit.2
  have same : digit.toNat.toUInt8.toNat = digit.toNat :=
    Nat.mod_eq_of_lt (Nat.lt_of_le_of_lt last (by decide))
  refine ⟨same, ?_⟩
  rw [isDigit, Bool.and_eq_true, decide_eq_true_eq, decide_eq_true_eq, UInt8.le_iff_toNat_le,
    UInt8.le_iff_toNat_le, same]
  exact ⟨first, last⟩

/-- The digits of a byte are few enough for the reader, and stand for the byte. -/
theorem decimal_digits (b : UInt8) : decimal b ≠ [] ∧ (decimal b).length ≤ 3 ∧
    (∀ c ∈ decimal b, isDigit c = true) ∧
    (decimal b).foldl (fun value c => 10 * value + (c.toNat - 0x30)) 0 = b.toNat := by
  have digits : ∀ digit ∈ Nat.toDigits 10 b.toNat, digit.isDigit = true := fun digit mem =>
    Nat.isDigit_of_mem_toDigits (by decide) (by decide) mem
  refine ⟨?_, ?_, ?_, ?_⟩
  · exact fun empty => Nat.toDigits_ne_nil (map_eq_nil_iff.mp empty)
  · have byte_lt := b.toNat_lt
    rw [decimal, length_map, Nat.length_toDigits_le_iff (by decide) (by decide)]
    omega
  · intro c mem
    obtain ⟨digit, listed, rfl⟩ := mem_map.mp mem
    exact (toUInt8_of_isDigit (digits digit listed)).2
  · have value : Nat.ofDigitChars 10 (Nat.toDigits 10 b.toNat) 0 = b.toNat :=
      Nat.ofDigitChars_ten_toDigits
    rw [decimal, foldl_map]
    refine Eq.trans (foldl_ext _ _ _ fun value digit listed => ?_) value
    rw [(toUInt8_of_isDigit (digits digit listed)).1]
    rfl

theorem takeDigit_digit {b : UInt8} (digit : isDigit b = true) (n : Nat) (str : List UInt8) :
    takeDigit n (b :: str) = some (10 * n + (b.toNat - 0x30), str) := by
  rw [takeDigit, if_pos digit]

variable {str : List UInt8}

theorem takeDigit_other (stops : ∀ b, str.head? = some b → isDigit b = false) (n : Nat) :
    takeDigit n str = none := by
  cases str with
  | nil => rfl
  | cons b str => rw [takeDigit, if_neg (by rw [stops b rfl]; exact Bool.false_ne_true)]

theorem takeNumber_digits {digits rest : List UInt8} (nonempty : digits ≠ [])
    (short : digits.length ≤ 3) (all_digits : ∀ b ∈ digits, isDigit b = true)
    (stops : ∀ b, rest.head? = some b → isDigit b = false) :
    takeNumber (digits ++ rest) =
      some (digits.foldl (fun value b => 10 * value + (b.toNat - 0x30)) 0, rest) := by
  match digits with
  | [] => exact absurd rfl nonempty
  | [first] =>
    have first_digit := all_digits first (by simp)
    simp [takeNumber, takeDigit_digit first_digit, takeDigit_other stops]
  | [first, second] =>
    have first_digit := all_digits first (by simp)
    have second_digit := all_digits second (by simp)
    simp [takeNumber, takeDigit_digit first_digit, takeDigit_digit second_digit,
      takeDigit_other stops]
  | [first, second, third] =>
    have first_digit := all_digits first (by simp)
    have second_digit := all_digits second (by simp)
    have third_digit := all_digits third (by simp)
    simp [takeNumber, takeDigit_digit first_digit, takeDigit_digit second_digit,
      takeDigit_digit third_digit]
  | _ :: _ :: _ :: _ :: _ =>
    simp only [length_cons] at short
    omega

theorem isSpace_of_isDigit {b : UInt8} (digit : isDigit b = true) : isSpace b = false := by
  cases space : isSpace b with
  | false => rfl
  | true =>
    simp only [isSpace, mem_cons, not_mem_nil, or_false, decide_eq_true_eq] at space
    rcases space with rfl | rfl | rfl | rfl | rfl <;> exact absurd digit (by decide)

theorem readIntegerList_decimal (b : UInt8) (rest : List UInt8) :
    readIntegerList (decimal b ++ semicolon :: rest) =
      (b :: (readIntegerList rest).1, (readIntegerList rest).2) := by
  have byte_eq : b.toNat.toUInt8 = b := UInt8.ofNat_toNat
  obtain ⟨nonempty, short, all_digits, value⟩ := decimal_digits b
  have no_spaces : (decimal b ++ semicolon :: rest).dropWhile isSpace =
      decimal b ++ semicolon :: rest := by
    obtain ⟨first, others, digits_eq⟩ := exists_cons_of_ne_nil nonempty
    have plain := isSpace_of_isDigit (all_digits first (by rw [digits_eq]; simp))
    rw [digits_eq, cons_append, dropWhile_cons_of_neg (by simp [plain])]
  have taken : takeNumber (decimal b ++ semicolon :: rest) = some (b.toNat, semicolon :: rest) := by
    rw [takeNumber_digits nonempty short all_digits, value]
    intro next next_eq
    obtain rfl : semicolon = next := Option.some.inj next_eq
    decide
  have separated : (semicolon :: rest).dropWhile isSpace = semicolon :: rest :=
    dropWhile_cons_of_neg (by decide)
  have small : ¬ b.toNat > 255 := by
    have := b.toNat_lt
    omega
  rw [readIntegerList, no_spaces, if_neg (by simp)]
  split
  · rename_i none_taken
    rw [taken] at none_taken
    cases none_taken
  · rename_i n after some_taken
    rw [taken] at some_taken
    obtain ⟨rfl, rfl⟩ := Prod.mk.inj (Option.some.inj some_taken)
    rw [if_neg small]
    split
    · rename_i nothing
      rw [separated] at nothing
      cases nothing
    · rename_i separator others separated_eq
      rw [separated] at separated_eq
      obtain ⟨rfl, rfl⟩ := List.cons.inj separated_eq
      rw [if_neg (by simp), byte_eq]

theorem readIntegerList_integerListValue (data : List UInt8) :
    readIntegerList (integerListValue data) = (data, true) := by
  induction data with
  | nil => simp [integerListValue, readIntegerList]
  | cons b data ih =>
    have value_eq : integerListValue (b :: data) =
        decimal b ++ semicolon :: integerListValue data := by
      simp [integerListValue]
    rw [value_eq, readIntegerList_decimal, ih]

theorem integerList_integerListValue {data : List UInt8} (nonempty : data ≠ []) :
    integerList (integerListValue data) = some data := by
  have characters : (integerListValue data).all
      (fun b => isSpace b || isDigit b || b == semicolon) = true := by
    rw [all_eq_true]
    intro c mem
    obtain ⟨b, _, written⟩ := mem_flatMap.mp mem
    rcases mem_append.mp written with digit | separator
    · obtain ⟨_, _, all_digits, _⟩ := decimal_digits b
      simp [all_digits c digit]
    · obtain rfl := mem_singleton.mp separator
      decide
  obtain ⟨b, others, rfl⟩ := exists_cons_of_ne_nil nonempty
  rw [integerList, if_pos characters, readIntegerList_integerListValue]

/-- Without a semicolon, the loop does not reach the end of the text after a number. -/
theorem readIntegerList_of_not_mem (absent : semicolon ∉ str) :
    (readIntegerList str).1 = [] ∨ (readIntegerList str).2 = false := by
  fun_induction readIntegerList str with
  | case1 | case2 | case3 | case4 | case5 => simp
  | case6 str _ n after taken _ separator rest separated is_semicolon others ih =>
    obtain ⟨front, _, rfl⟩ := integer_eq_some taken separated
    obtain rfl : separator = semicolon := of_not_not is_semicolon
    exact absurd (by simp) absent

variable (ssid : List UInt8)

theorem head_escape :
    (ssid.flatMap escapeSemicolon).head? ≠ some semicolon := by
  cases ssid with
  | nil => simp
  | cons b ssid =>
    rw [flatMap_cons, escapeSemicolon]
    split
    · exact fun same => absurd (Option.some.inj same) (by decide)
    · rename_i other
      simpa using other

theorem unescapeSemicolons_cons {b : UInt8} (plain : str.head? ≠ some semicolon) :
    unescapeSemicolons (b :: str) = b :: unescapeSemicolons str := by
  cases str with
  | nil => rfl
  | cons next str =>
    have other : ¬ (b = backslash ∧ next = semicolon) := by
      rintro ⟨_, rfl⟩
      exact plain rfl
    rw [unescapeSemicolons, if_neg other]

theorem unescapeSemicolons_escape :
    unescapeSemicolons (ssid.flatMap escapeSemicolon) = ssid := by
  induction ssid with
  | nil => rfl
  | cons b ssid ih =>
    rw [flatMap_cons, escapeSemicolon]
    split
    · rename_i is_semicolon
      rw [cons_append, cons_append, nil_append, unescapeSemicolons, if_pos ⟨rfl, is_semicolon⟩, ih]
    · rw [cons_append, nil_append, unescapeSemicolons_cons (head_escape ssid), ih]

theorem integerList_escape :
    integerList (ssid.flatMap escapeSemicolon) = none := by
  rw [integerList]
  split
  · rename_i characters
    rw [all_eq_true] at characters
    have absent : semicolon ∉ ssid.flatMap escapeSemicolon := by
      intro mem
      obtain ⟨b, listed, written⟩ := mem_flatMap.mp mem
      rw [escapeSemicolon] at written
      split at written
      · rename_i is_semicolon
        have escaped : backslash ∈ ssid.flatMap escapeSemicolon :=
          mem_flatMap.mpr ⟨b, listed, by rw [escapeSemicolon, if_pos is_semicolon]; simp⟩
        exact absurd (characters backslash escaped) (by decide)
      · rename_i other
        exact other (mem_singleton.mp written).symm
    rcases readIntegerList_of_not_mem absent with nothing | malformed
    · split
      · rfl
      · rfl
      · rename_i nonempty read_eq
        rw [read_eq] at nothing
        exact absurd nothing nonempty
    · split
      · rfl
      · rfl
      · rename_i read_eq
        rw [read_eq] at malformed
        cases malformed
  · rfl

theorem ne_zero_of_mem_escape {ssid : List UInt8} (printable : ssid.all isPrint = true) {c : UInt8}
    (mem : c ∈ ssid.flatMap escapeSemicolon) : c ≠ 0 := by
  rw [all_eq_true] at printable
  obtain ⟨b, listed, written⟩ := mem_flatMap.mp mem
  have plain : b ≠ 0 := by
    rintro rfl
    exact absurd (printable 0 listed) (by decide)
  rw [escapeSemicolon] at written
  split at written
  · rcases mem_cons.mp written with rfl | same
    · decide
    · exact mem_singleton.mp same ▸ plain
  · exact mem_singleton.mp written ▸ plain

theorem ne_zero_of_mem_integerListValue {data : List UInt8} {c : UInt8}
    (mem : c ∈ integerListValue data) : c ≠ 0 := by
  obtain ⟨b, _, written⟩ := mem_flatMap.mp mem
  rcases mem_append.mp written with digit | separator
  · obtain ⟨_, _, all_digits, _⟩ := decimal_digits b
    rintro rfl
    exact absurd (all_digits 0 digit) (by decide)
  · obtain rfl := mem_singleton.mp separator
    decide

theorem zero_not_mem_ssidValue : 0 ∉ ssidValue ssid := by
  intro mem
  unfold ssidValue at mem
  split at mem
  · rename_i printable
    exact ne_zero_of_mem_escape printable mem rfl
  · exact ne_zero_of_mem_integerListValue mem rfl

/-- `ssid_writer`: the value that is stored for a name. -/
def ssidWriter (ssid : List UInt8) : CString := ⟨ssidValue ssid, zero_not_mem_ssidValue ssid⟩

/-- Any name is read back as it was written, and its value is taken for a list of numbers exactly
if it was written as one. -/
theorem getBytes_ssidWriter (ssid : List UInt8) :
    getBytes false true (some (ssidWriter ssid)) = some ssid ∧
      integerList (ssidWriter ssid).val = if ssid.all isPrint then none else some ssid := by
  cases printable : ssid.all isPrint with
  | true =>
    have value_eq : (ssidWriter ssid).val = ssid.flatMap escapeSemicolon := if_pos printable
    rw [value_eq, integerList_escape]
    refine ⟨?_, rfl⟩
    rw [getBytes, value_eq, integerList_escape]
    dsimp only
    rw [if_pos rfl, if_neg Bool.false_ne_true, unescapeSemicolons_escape]
    cases ssid with
    | nil => rfl
    | cons b ssid =>
      have nonempty : (b :: ssid).flatMap escapeSemicolon ≠ [] := by
        intro empty
        have unescaped := unescapeSemicolons_escape (b :: ssid)
        rw [empty] at unescaped
        cases unescaped
      rw [if_neg nonempty, if_neg (by simp)]
  | false =>
    have value_eq : (ssidWriter ssid).val = integerListValue ssid :=
      if_neg (by rw [printable]; exact Bool.false_ne_true)
    have nonempty : ssid ≠ [] := by
      rintro rfl
      cases printable
    have text : integerListValue ssid ≠ [] := by
      obtain ⟨b, others, rfl⟩ := exists_cons_of_ne_nil nonempty
      simp [integerListValue]
    rw [value_eq, integerList_integerListValue nonempty]
    refine ⟨?_, rfl⟩
    rw [getBytes, value_eq, if_neg text, integerList_integerListValue nonempty]

end NetworkManager.Keyfile
