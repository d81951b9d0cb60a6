import NetworkManager.Core.Ascii

/-!
# Enum values as text

An enum value is written as a nick from a table, as its nick from the class, or as a number.  What
was written is read back unless it is a negative number or a nick that means something else.
-/

namespace NetworkManager.EnumText

open Ascii List Option

/-- An entry of an enum or flags class or of a table of additional nicks. -/
structure Entry (Value : Type) where
  nick : List Char
  value : Value
  deriving DecidableEq

section

variable {Value : Type}

def findNick (entries : List (Entry Value)) (needle : List Char) : Option (Entry Value) :=
  entries.find? (·.nick == needle)

/-- What `_ASSERT_enum_values_info` asserts of a table, where values of the class are compared
after a conversion. -/
structure Consistent (convert : Int32 → Value) (klass : List (Entry Value))
    (infos : List (Entry Int32)) : Prop where
  nonempty : ∀ info ∈ infos, info.nick ≠ []
  distinct : (infos.map (·.nick)).Nodup
  agree : ∀ info ∈ infos, ∀ entry, findNick klass info.nick = some entry →
    entry.value = convert info.value

def nickValue (convert : Int32 → Value) (klass : List (Entry Value)) (infos : List (Entry Int32))
    (nick : List Char) : Option Value :=
  match findNick infos nick with
  | some info => some (convert info.value)
  | none => (findNick klass nick).map (·.value)

theorem findNick_of_mem {entries : List (Entry Value)} {entry : Entry Value}
    (distinct : (entries.map (·.nick)).Nodup) (mem : entry ∈ entries) :
    findNick entries entry.nick = some entry := by
  induction entries with
  | nil => cases mem
  | cons first entries ih =>
    rw [map_cons, nodup_cons] at distinct
    rcases mem_cons.mp mem with rfl | mem
    · simp [findNick]
    · have other : first.nick ≠ entry.nick := fun same =>
        distinct.1 (same ▸ List.mem_map_of_mem mem)
      rw [findNick, find?_cons_of_neg (by simpa using other)]
      exact ih distinct.2 mem

variable {convert : Int32 → Value} {klass : List (Entry Value)} {infos : List (Entry Int32)}

theorem nickValue_info (consistent : Consistent convert klass infos) {info : Entry Int32}
    (mem : info ∈ infos) : nickValue convert klass infos info.nick = some (convert info.value) := by
  rw [nickValue, findNick_of_mem consistent.distinct mem]

end

/-- `_is_hex_string`. -/
def isHexString : List Char → Bool
  | '0' :: 'x' :: c :: str => (c :: str).all fun c => digitValue c < 16
  | _ => false

/-- `_is_dec_string`. -/
def isDecString (str : List Char) : Bool := str ≠ [] && str.all fun c => digitValue c < 10

/-- `_enum_is_valid_enum_nick`. -/
def isValidEnumNick (str : List Char) : Bool :=
  str ≠ [] && !str.any isSpace && !isDecString str && !isHexString str

/-- What is read with `_nm_utils_ascii_str_to_int64` from a number of a base. -/
def readNumber (str : List Char) (base : Nat) : Option Int :=
  let v64 := strToInt64 str base 0 4294967295 (-1)
  if v64 = -1 then none else some v64

/-- A number with the format `%d`. -/
def formatInt (value : Int) : List Char :=
  if value < 0 then '-' :: Nat.toDigits 10 value.natAbs else Nat.toDigits 10 value.natAbs

/-- The nick of the class for a value, if it can be used. -/
def usableNick (klass : List (Entry Int32)) (value : Int32) : Option (List Char) :=
  match klass.find? (·.value == value) with
  | none => none
  | some entry => if isValidEnumNick entry.nick then some entry.nick else none

/-- `_nm_utils_enum_to_str_full` for an enum class. -/
def enumToStr (klass infos : List (Entry Int32)) (value : Int32) : List Char :=
  match infos.find? (·.value == value) with
  | some info => info.nick
  | none =>
    match usableNick klass value with
    | none => formatInt value.toInt
    | some nick => nick

/-- What `_nm_utils_enum_from_str_full` returns and stores. -/
structure FromStr where
  ret : Bool
  outValue : Int32
  errToken : Option (List Char)
  deriving DecidableEq

/-- `_nm_utils_enum_from_str_full` for an enum class. -/
def enumFromStr (klass infos : List (Entry Int32)) (str : List Char) : FromStr :=
  let s := strip str
  let read :=
    if s = [] then none
    else if isHexString s then (readNumber s 16).map Int32.ofInt
    else if isDecString s then (readNumber s 10).map Int32.ofInt
    else nickValue id klass infos s
  match read with
  | some value => ⟨true, value, none⟩
  | none => ⟨false, 0, if s = [] then none else some s⟩

variable {klass infos : List (Entry Int32)}

theorem strip_of_no_space {str : List Char} (no_space : ∀ c ∈ str, isSpace c = false) :
    strip str = str := by
  have kept : ∀ l : List Char, (∀ c ∈ l, isSpace c = false) → l.dropWhile isSpace = l := by
    intro l none
    cases l with
    | nil => rfl
    | cons c l => rw [dropWhile_cons_of_neg (by simp [none c])]
  rw [strip, skipLeadingSpaces, kept str no_space,
    kept _ fun c mem => no_space c (mem_reverse.mp mem), reverse_reverse]

theorem enumFromStr_nick {nick : List Char} (valid : isValidEnumNick nick = true) (value : Int32) :
    enumFromStr klass infos nick = ⟨true, value, none⟩ ↔
      nickValue id klass infos nick = some value := by
  simp only [isValidEnumNick, Bool.and_eq_true, Bool.not_eq_true', decide_eq_true_eq] at valid
  obtain ⟨⟨⟨nonempty, no_space⟩, not_dec⟩, not_hex⟩ := valid
  have unchanged : strip nick = nick :=
    strip_of_no_space fun c mem => by simpa using List.any_eq_false.mp no_space c mem
  simp only [enumFromStr, unchanged, not_hex, not_dec, nonempty, if_false, Bool.false_eq_true]
  cases nickValue id klass infos nick <;> simp

theorem no_space_of_digit {c : Char} (digit : digitValue c < 36) : isSpace c = false := by
  have plain := (digit_is_plain digit).1
  unfold isStrtollSpace at plain
  exact (Bool.or_eq_false_iff.mp plain).1

theorem toDigits_no_space {base : Nat} (number : Nat) (one_lt : 1 < base) (small : base ≤ 16) :
    ∀ c ∈ Nat.toDigits base number, isSpace c = false := fun _ mem =>
  no_space_of_digit (by have := digitValue_lt_of_mem_toDigits one_lt small mem; omega)

theorem isValidEnumNick_formatInt {value : Int} (negative : value < 0) :
    isValidEnumNick (formatInt value) = true := by
  have no_space : ('-' :: Nat.toDigits 10 value.natAbs).any isSpace = false := by
    rw [any_cons, Bool.or_eq_false_iff, List.any_eq_false]
    exact ⟨rfl, fun c mem => by simp [toDigits_no_space _ (by decide) (by decide) c mem]⟩
  have not_digit : ¬ digitValue '-' < 10 := by decide
  simp [isValidEnumNick, formatInt, negative, no_space, isDecString, isHexString, not_digit]

theorem isDecString_toDigits (number : Nat) :
    isDecString (Nat.toDigits 10 number) = true ∧ isHexString (Nat.toDigits 10 number) = false := by
  have digits : ∀ c ∈ Nat.toDigits 10 number, digitValue c < 10 := fun c mem =>
    digitValue_lt_of_mem_toDigits (by decide) (by decide) mem
  constructor
  · simpa [isDecString, Nat.toDigits_ne_nil] using digits
  · generalize Nat.toDigits 10 number = str at digits
    unfold isHexString
    split
    · exact absurd (digits 'x' (by simp)) (by decide)
    · rfl

theorem readNumber_decimal {number : Nat} (small : number < 4294967296) :
    readNumber (Nat.toDigits 10 number) 10 = some (number : Int) := by
  unfold readNumber
  rw [strToInt64_decimal (-1) (by omega) (by omega) (by omega)]
  simp

/-- A number that is not negative is read back. -/
theorem enumFromStr_decimal {value : Int32} (nonneg : 0 ≤ value.toInt) :
    enumFromStr klass infos (formatInt value.toInt) = ⟨true, value, none⟩ := by
  have not_negative : ¬ value.toInt < 0 := by omega
  obtain ⟨dec, not_hex⟩ := isDecString_toDigits value.toInt.natAbs
  have unchanged := strip_of_no_space
    (toDigits_no_space value.toInt.natAbs (show 1 < 10 by decide) (by decide))
  have below := value.toInt_lt
  have number : (value.toInt.natAbs : Int) = value.toInt := Int.natAbs_of_nonneg nonneg
  simp only [enumFromStr, formatInt, not_negative, unchanged, dec, not_hex, Nat.toDigits_ne_nil,
    if_false, if_true, Bool.false_eq_true]
  rw [readNumber_decimal (by omega), number, map_some, Int32.ofInt_toInt]

def classValue (klass : List (Entry Int32)) (nick : List Char) : Option Int32 :=
  (findNick klass nick).map (·.value)

theorem nickValue_iff (consistent : Consistent id klass infos) {value : Int32}
    (unnamed : ¬ ∃ info ∈ infos, info.value = value) (nick : List Char) :
    nickValue id klass infos nick = some value ↔ classValue klass nick = some value := by
  unfold nickValue
  cases here : findNick infos nick with
  | none => rfl
  | some info =>
    have mem := List.mem_of_find?_eq_some here
    have same : info.nick = nick := by simpa using find?_some here
    refine iff_of_false ?_ ?_
    · intro named
      exact unnamed ⟨info, mem, Option.some.inj named⟩
    · intro named
      obtain ⟨entry, found, rfl⟩ := map_eq_some_iff.mp named
      exact unnamed ⟨info, mem, (consistent.agree info mem entry (same ▸ found)).symm⟩

/-- The table names the value; or the class has a nick for it that means this value; or the value is
not negative, or its decimal text is a nick of this value by chance. -/
def IsReadBack (klass infos : List (Entry Int32)) (value : Int32) : Prop :=
  (∃ info ∈ infos, info.value = value) ∨
    match usableNick klass value with
    | some nick => classValue klass nick = some value
    | none => 0 ≤ value.toInt ∨ classValue klass (formatInt value.toInt) = some value

/-- A value is read back from its text exactly if it has a nick that means it or is written as a
number that can be read. -/
theorem enumFromStr_enumToStr_iff (consistent : Consistent id klass infos)
    (valid : ∀ info ∈ infos, isValidEnumNick info.nick = true) (value : Int32) :
    enumFromStr klass infos (enumToStr klass infos value) = ⟨true, value, none⟩ ↔
      IsReadBack klass infos value := by
  unfold enumToStr IsReadBack
  cases named : infos.find? (·.value == value) with
  | some info =>
    have mem := List.mem_of_find?_eq_some named
    have same : info.value = value := by simpa using find?_some named
    dsimp only
    rw [enumFromStr_nick (valid info mem), nickValue_info consistent mem]
    exact iff_of_true (congrArg some same) (.inl ⟨info, mem, same⟩)
  | none =>
    have unnamed : ¬ ∃ info ∈ infos, info.value = value := by simpa using named
    rw [or_iff_right unnamed]
    cases usable : usableNick klass value with
    | some nick =>
      have nick_valid : isValidEnumNick nick = true := by
        unfold usableNick at usable
        split at usable
        · cases usable
        · split at usable
          · next valid =>
            cases usable
            exact valid
          · cases usable
      dsimp only
      rw [enumFromStr_nick nick_valid, nickValue_iff consistent unnamed]
    | none =>
      dsimp only
      rcases Int.lt_or_le value.toInt 0 with negative | nonneg
      · rw [enumFromStr_nick (isValidEnumNick_formatInt negative),
          nickValue_iff consistent unnamed, or_iff_right (by omega)]
      · exact iff_of_true (enumFromStr_decimal nonneg) (.inl nonneg)

theorem enumFromStr_enumToStr_none : enumFromStr [⟨"none".toList, 0⟩] [⟨"off".toList, 0⟩]
    (enumToStr [⟨"none".toList, 0⟩] [⟨"off".toList, 0⟩] 7) = ⟨true, 7, none⟩ :=
  (enumFromStr_enumToStr_iff ⟨by decide, by decide, by decide⟩ (by decide) 7).mpr
    (.inr (.inl (by decide)))

/-- A negative number without a nick is refused. -/
theorem enumFromStr_enumToStr_fails :
    enumFromStr [⟨"none".toList, 0⟩] [] (enumToStr [⟨"none".toList, 0⟩] [] (-5))
      = ⟨false, 0, some "-5".toList⟩ := by
  decide

end NetworkManager.EnumText
