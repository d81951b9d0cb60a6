import NetworkManager.Core.SriovVf

/-!
# Bytes as hexadecimal digits

Bytes are written as pairs of digits, with a delimiter in between or without one.  The reader finds
out about the delimiter from what follows the first byte: if it is one of the candidates, it has to
follow every byte but the last, and a byte may be written with a single digit.  Otherwise the text
goes on without delimiters, and every byte has two digits.  A text of a single byte needs neither.
-/

namespace NetworkManager.HexString

open Ascii List Sriov

/-- `LOOKUP`. -/
def lookup (upperCase : Bool) (digit : UInt8) : Char :=
  (if upperCase then "0123456789ABCDEF" else "0123456789abcdef").toList.getD digit.toNat '0'

/-- `nm_utils_bin2hexstr_full`. -/
def bin2hexstrFull (delimiter : Option Char) (upperCase : Bool) : List UInt8 → List Char
  | [] => []
  | [v] => [lookup upperCase (v >>> 4), lookup upperCase (v &&& 0x0F)]
  | v :: w :: rest =>
    lookup upperCase (v >>> 4) :: lookup upperCase (v &&& 0x0F) ::
      (delimiter.toList ++ bin2hexstrFull delimiter upperCase (w :: rest))

/-- The size of the text that `nm_utils_bin2hexstr_full` allocates. -/
def bin2hexstrSize (delimiter : Option Char) (length : Nat) : Nat :=
  if length = 0 then 1
  else
    match delimiter with
    | none => length * 2 + 1
    | some _ => length * 3

/-- The text and its terminator fill the allocated memory. -/
theorem length_bin2hexstrFull (delimiter : Option Char) (upperCase : Bool) (bytes : List UInt8) :
    (bin2hexstrFull delimiter upperCase bytes).length + 1 =
      bin2hexstrSize delimiter bytes.length := by
  induction bytes with
  | nil => rfl
  | cons v bytes ih =>
    cases bytes with
    | nil =>
      cases delimiter with
      | none => rfl
      | some d => rfl
    | cons w rest =>
      cases delimiter with
      | none =>
        simp only [bin2hexstrFull, bin2hexstrSize, length_cons, length_append,
          Option.toList_none, length_nil, Nat.add_eq_zero_iff, if_neg, one_ne_zero,
          and_false, not_false_eq_true] at ih ⊢
        omega
      | some d =>
        simp only [bin2hexstrFull, bin2hexstrSize, length_cons, length_append,
          Option.toList_some, length_nil, Nat.add_eq_zero_iff, if_neg, one_ne_zero,
          and_false, not_false_eq_true] at ih ⊢
        omega

/-- What the reader knows about delimiters: `delimiter_has` and `delimiter`. -/
inductive Delimiters where
  /-- Nothing yet. -/
  | unknown
  /-- Every byte is followed by this delimiter. -/
  | has (delimiter : Char)
  /-- There are none. -/
  | hasNot
  deriving DecidableEq, Repr

/-- What `nm_utils_hexstr2bin_full` does with the character that follows a byte.  The text is refused
if the buffer is full or the delimiter is wrong; otherwise the loop goes on, behind the character if
it is a delimiter. -/
def afterByte (delimiterRequired : Bool) (delimiterCandidates : List Char) (bufferLen : UInt64)
    (delimiters : Delimiters) (d2 : Char) : Option (Delimiters × Bool) :=
  if bufferLen - 1 = 0 then none
  else
    match delimiters with
    | .has delimiter => if d2 ≠ delimiter then none else some (.has delimiter, true)
    | .unknown =>
      if d2 ∈ delimiterCandidates then some (.has d2, true)
      else if delimiterRequired then none
      else some (.hasNot, false)
    | .hasNot => some (.hasNot, false)

/-- The loop of `nm_utils_hexstr2bin_full`: whether it came to the end of the text, and the bytes it
has written until then.  The buffer length is decremented in each turn. -/
def hexstr2binLoop (delimiterRequired : Bool) (delimiterCandidates : List Char) :
    List Char → UInt64 → Delimiters → List UInt8 → Bool × List UInt8
  | [], _, _, out => (false, out)
  | [d1], _, delimiters, out =>
    match hexcharToInt d1 with
    | none => (false, out)
    | some i1 =>
      -- When using no delimiter, there must be pairs of digits.
      (decide (delimiters ≠ .hasNot), out ++ [UInt8.ofNat i1])
  | d1 :: d2 :: rest, bufferLen, delimiters, out =>
    match hexcharToInt d1, hexcharToInt d2 with
    | none, _ => (false, out)
    | some i1, some i2 =>
      let out := out ++ [UInt8.ofNat (i1 * 16 + i2)]
      match rest with
      | [] => (true, out)
      | d2 :: rest =>
        match afterByte delimiterRequired delimiterCandidates bufferLen delimiters d2 with
        | none => (false, out)
        | some (delimiters, true) =>
          hexstr2binLoop delimiterRequired delimiterCandidates rest (bufferLen - 1)
            delimiters out
        | some (delimiters, false) =>
          hexstr2binLoop delimiterRequired delimiterCandidates (d2 :: rest)
            (bufferLen - 1) delimiters out
    | some i1, none =>
      let out := out ++ [UInt8.ofNat i1]
      match afterByte delimiterRequired delimiterCandidates bufferLen delimiters d2 with
      | none => (false, out)
      | some (delimiters, true) =>
        hexstr2binLoop delimiterRequired delimiterCandidates rest (bufferLen - 1)
          delimiters out
      | some (delimiters, false) =>
        hexstr2binLoop delimiterRequired delimiterCandidates (d2 :: rest)
          (bufferLen - 1) delimiters out

/-- What `nm_utils_hexstr2bin_full` leaves behind. -/
structure Hexstr2bin where
  /-- The bytes that were written to the buffer, from its start. -/
  written : List UInt8
  outLen : Nat
  /-- Whether the buffer is returned, and not `NULL`. -/
  success : Bool
  deriving DecidableEq, Repr

/-- The text behind the prefix `0x`, if it is allowed. -/
def without0xPrefix (allow0xPrefix : Bool) (hexstr : List Char) : List Char :=
  match allow0xPrefix, hexstr with
  | true, '0' :: 'x' :: rest => rest
  | _, hexstr => hexstr

/-- `nm_utils_hexstr2bin_full`. -/
def hexstr2binFull (hexstr : List Char) (allow0xPrefix delimiterRequired : Bool)
    (delimiterCandidates : List Char) (requiredLen bufferLen : UInt64) : Hexstr2bin :=
  let (complete, out) := hexstr2binLoop delimiterRequired delimiterCandidates
    (without0xPrefix allow0xPrefix hexstr) bufferLen .unknown []
  if complete = true ∧ (requiredLen = 0 ∨ out.length = requiredLen.toNat) then
    ⟨out, out.length, true⟩
  else ⟨out, 0, false⟩

/-- Pairs of digits. -/
inductive Pairs : List Char → List UInt8 → Prop
  | last {c1 c2 : Char} {i1 i2 : Nat} : hexcharToInt c1 = some i1 → hexcharToInt c2 = some i2 →
      Pairs [c1, c2] [UInt8.ofNat (i1 * 16 + i2)]
  | cons {c1 c2 : Char} {i1 i2 : Nat} {text : List Char} {bytes : List UInt8} :
      hexcharToInt c1 = some i1 → hexcharToInt c2 = some i2 → Pairs text bytes →
      Pairs (c1 :: c2 :: text) (UInt8.ofNat (i1 * 16 + i2) :: bytes)

/-- One or two digits for each byte, and a delimiter in between.  Where a delimiter looks like a
digit, it can follow pairs only. -/
inductive Delimited (delimiter : Char) : List Char → List UInt8 → Prop
  | lastSingle {c : Char} {i : Nat} :
      hexcharToInt c = some i → Delimited delimiter [c] [UInt8.ofNat i]
  | lastPair {c1 c2 : Char} {i1 i2 : Nat} : hexcharToInt c1 = some i1 → hexcharToInt c2 = some i2 →
      Delimited delimiter [c1, c2] [UInt8.ofNat (i1 * 16 + i2)]
  | single {c : Char} {i : Nat} {text : List Char} {bytes : List UInt8} :
      hexcharToInt c = some i → hexcharToInt delimiter = none → Delimited delimiter text bytes →
      Delimited delimiter (c :: delimiter :: text) (UInt8.ofNat i :: bytes)
  | pair {c1 c2 : Char} {i1 i2 : Nat} {text : List Char} {bytes : List UInt8} :
      hexcharToInt c1 = some i1 → hexcharToInt c2 = some i2 → Delimited delimiter text bytes →
      Delimited delimiter (c1 :: c2 :: delimiter :: text) (UInt8.ofNat (i1 * 16 + i2) :: bytes)

/-- The texts behind the prefix.  A single byte has one or two digits.  Several bytes are delimited
by one of the candidates, or they are pairs if no delimiter is required.  Where a candidate looks
like a digit, what follows the first pair is taken for a delimiter if it can be one. -/
inductive HexText (delimiterRequired : Bool) (delimiterCandidates : List Char) :
    List Char → List UInt8 → Prop
  | single {c : Char} {i : Nat} : hexcharToInt c = some i →
      HexText delimiterRequired delimiterCandidates [c] [UInt8.ofNat i]
  | pair {c1 c2 : Char} {i1 i2 : Nat} : hexcharToInt c1 = some i1 → hexcharToInt c2 = some i2 →
      HexText delimiterRequired delimiterCandidates [c1, c2] [UInt8.ofNat (i1 * 16 + i2)]
  | delimited {delimiter : Char} {text : List Char} {bytes : List UInt8} :
      delimiter ∈ delimiterCandidates → Delimited delimiter text bytes → 1 < bytes.length →
      HexText delimiterRequired delimiterCandidates text bytes
  | pairs {text : List Char} {bytes : List UInt8} :
      delimiterRequired = false → Pairs text bytes → 1 < bytes.length →
      (∀ c ∈ text[2]?, c ∉ delimiterCandidates) →
      HexText delimiterRequired delimiterCandidates text bytes

theorem Pairs.length_pos {text : List Char} {bytes : List UInt8} (pairs : Pairs text bytes) :
    0 < bytes.length := by
  cases pairs with
  | last first second => exact Nat.one_pos
  | cons first second pairs => exact Nat.succ_pos _

theorem Delimited.length_pos {delimiter : Char} {text : List Char} {bytes : List UInt8}
    (delimited : Delimited delimiter text bytes) : 0 < bytes.length := by
  cases delimited with
  | lastSingle digit => exact Nat.one_pos
  | lastPair first second => exact Nat.one_pos
  | single digit apart delimited => exact Nat.succ_pos _
  | pair first second delimited => exact Nat.succ_pos _

/-! How a text goes on decides what it stands for. -/

section Shapes

variable {c1 c2 c3 delimiter : Char} {rest : List Char} {bytes : List UInt8} {i1 i2 : Nat}

theorem pairs_last_iff (first : hexcharToInt c1 = some i1) (second : hexcharToInt c2 = some i2) :
    Pairs [c1, c2] bytes ↔ bytes = [UInt8.ofNat (i1 * 16 + i2)] := by
  constructor
  · intro pairs
    cases pairs with
    | last again_first again_second =>
      cases first.symm.trans again_first
      cases second.symm.trans again_second
      rfl
    | cons again_first again_second pairs => cases pairs
  · rintro rfl
    exact .last first second

theorem pairs_cons_iff (first : hexcharToInt c1 = some i1) (second : hexcharToInt c2 = some i2) :
    Pairs (c1 :: c2 :: c3 :: rest) bytes ↔
      ∃ others, bytes = UInt8.ofNat (i1 * 16 + i2) :: others ∧ Pairs (c3 :: rest) others := by
  constructor
  · intro pairs
    cases pairs with
    | cons again_first again_second pairs =>
      cases first.symm.trans again_first
      cases second.symm.trans again_second
      exact ⟨_, rfl, pairs⟩
  · rintro ⟨others, rfl, pairs⟩
    exact .cons first second pairs

theorem not_pairs_of_first (no_digit : hexcharToInt c1 = none) : ¬ Pairs (c1 :: rest) bytes := by
  intro pairs
  cases pairs with
  | last first second => cases no_digit.symm.trans first
  | cons first second pairs => cases no_digit.symm.trans first

theorem not_pairs_of_second (no_digit : hexcharToInt c2 = none) :
    ¬ Pairs (c1 :: c2 :: rest) bytes := by
  intro pairs
  cases pairs with
  | last first second => cases no_digit.symm.trans second
  | cons first second pairs => cases no_digit.symm.trans second

theorem not_delimited_of_first (no_digit : hexcharToInt c1 = none) :
    ¬ Delimited delimiter (c1 :: rest) bytes := by
  intro delimited
  cases delimited with
  | lastSingle digit => cases no_digit.symm.trans digit
  | lastPair first second => cases no_digit.symm.trans first
  | single digit apart delimited => cases no_digit.symm.trans digit
  | pair first second delimited => cases no_digit.symm.trans first

theorem delimited_lastSingle_iff (digit : hexcharToInt c1 = some i1) :
    Delimited delimiter [c1] bytes ↔ bytes = [UInt8.ofNat i1] := by
  constructor
  · intro delimited
    cases delimited with
    | lastSingle again =>
      cases digit.symm.trans again
      rfl
  · rintro rfl
    exact .lastSingle digit

theorem delimited_lastPair_iff (first : hexcharToInt c1 = some i1)
    (second : hexcharToInt c2 = some i2) :
    Delimited delimiter [c1, c2] bytes ↔ bytes = [UInt8.ofNat (i1 * 16 + i2)] := by
  constructor
  · intro delimited
    cases delimited with
    | lastPair again_first again_second =>
      cases first.symm.trans again_first
      cases second.symm.trans again_second
      rfl
    | single digit apart delimited => cases delimited
  · rintro rfl
    exact .lastPair first second

theorem delimited_single_iff (digit : hexcharToInt c1 = some i1)
    (no_digit : hexcharToInt c2 = none) :
    Delimited delimiter (c1 :: c2 :: rest) bytes ↔
      c2 = delimiter ∧ ∃ others, bytes = UInt8.ofNat i1 :: others ∧
        Delimited delimiter rest others := by
  constructor
  · intro delimited
    cases delimited with
    | lastPair first second => cases no_digit.symm.trans second
    | single again apart delimited =>
      cases digit.symm.trans again
      exact ⟨rfl, _, rfl, delimited⟩
    | pair first second delimited => cases no_digit.symm.trans second
  · rintro ⟨rfl, others, rfl, delimited⟩
    exact .single digit no_digit delimited

theorem delimited_pair_iff (first : hexcharToInt c1 = some i1)
    (second : hexcharToInt c2 = some i2) :
    Delimited delimiter (c1 :: c2 :: c3 :: rest) bytes ↔
      c3 = delimiter ∧ ∃ others, bytes = UInt8.ofNat (i1 * 16 + i2) :: others ∧
        Delimited delimiter rest others := by
  constructor
  · intro delimited
    cases delimited with
    | single digit apart delimited => cases second.symm.trans apart
    | pair again_first again_second delimited =>
      cases first.symm.trans again_first
      cases second.symm.trans again_second
      exact ⟨rfl, _, rfl, delimited⟩
  · rintro ⟨rfl, others, rfl, delimited⟩
    exact .pair first second delimited

variable {delimiterRequired : Bool} {delimiterCandidates : List Char}

theorem not_hexText_nil : ¬ HexText delimiterRequired delimiterCandidates [] bytes := by
  intro text
  cases text with
  | delimited candidate delimited several => cases delimited
  | pairs free pairs several third => cases pairs

theorem not_hexText_of_first (no_digit : hexcharToInt c1 = none) :
    ¬ HexText delimiterRequired delimiterCandidates (c1 :: rest) bytes := by
  intro text
  cases text with
  | single digit => cases no_digit.symm.trans digit
  | pair first second => cases no_digit.symm.trans first
  | delimited candidate delimited several => exact not_delimited_of_first no_digit delimited
  | pairs free pairs several third => exact not_pairs_of_first no_digit pairs

theorem hexText_lastSingle_iff (digit : hexcharToInt c1 = some i1) :
    HexText delimiterRequired delimiterCandidates [c1] bytes ↔ bytes = [UInt8.ofNat i1] := by
  constructor
  · intro text
    cases text with
    | single again =>
      cases digit.symm.trans again
      rfl
    | delimited candidate delimited several => exact (delimited_lastSingle_iff digit).mp delimited
    | pairs free pairs several third => cases pairs
  · rintro rfl
    exact .single digit

theorem hexText_lastPair_iff (first : hexcharToInt c1 = some i1)
    (second : hexcharToInt c2 = some i2) :
    HexText delimiterRequired delimiterCandidates [c1, c2] bytes ↔
      bytes = [UInt8.ofNat (i1 * 16 + i2)] := by
  constructor
  · intro text
    cases text with
    | pair again_first again_second =>
      cases first.symm.trans again_first
      cases second.symm.trans again_second
      rfl
    | delimited candidate delimited several =>
      exact (delimited_lastPair_iff first second).mp delimited
    | pairs free pairs several third => exact (pairs_last_iff first second).mp pairs
  · rintro rfl
    exact .pair first second

theorem hexText_single_iff (digit : hexcharToInt c1 = some i1) (no_digit : hexcharToInt c2 = none) :
    HexText delimiterRequired delimiterCandidates (c1 :: c2 :: rest) bytes ↔
      c2 ∈ delimiterCandidates ∧ ∃ others, bytes = UInt8.ofNat i1 :: others ∧
        Delimited c2 rest others := by
  constructor
  · intro text
    cases text with
    | pair first second => cases no_digit.symm.trans second
    | delimited candidate delimited several =>
      obtain ⟨rfl, others⟩ := (delimited_single_iff digit no_digit).mp delimited
      exact ⟨candidate, others⟩
    | pairs free pairs several third => exact absurd pairs (not_pairs_of_second no_digit)
  · rintro ⟨candidate, others, rfl, delimited⟩
    exact .delimited candidate (.single digit no_digit delimited)
      (Nat.succ_lt_succ delimited.length_pos)

theorem hexText_pair_iff (first : hexcharToInt c1 = some i1) (second : hexcharToInt c2 = some i2) :
    HexText delimiterRequired delimiterCandidates (c1 :: c2 :: c3 :: rest) bytes ↔
      ∃ others, bytes = UInt8.ofNat (i1 * 16 + i2) :: others ∧
        if c3 ∈ delimiterCandidates then Delimited c3 rest others
        else delimiterRequired = false ∧ Pairs (c3 :: rest) others := by
  constructor
  · intro text
    cases text with
    | delimited candidate delimited several =>
      obtain ⟨rfl, others, equal, delimited⟩ := (delimited_pair_iff first second).mp delimited
      exact ⟨others, equal, by rwa [if_pos candidate]⟩
    | pairs free pairs several third =>
      obtain ⟨others, equal, pairs⟩ := (pairs_cons_iff first second).mp pairs
      refine ⟨others, equal, ?_⟩
      rw [if_neg (third c3 rfl)]
      exact ⟨free, pairs⟩
  · rintro ⟨others, rfl, holds⟩
    by_cases candidate : c3 ∈ delimiterCandidates
    · rw [if_pos candidate] at holds
      exact .delimited candidate (.pair first second holds) (Nat.succ_lt_succ holds.length_pos)
    · rw [if_neg candidate] at holds
      obtain ⟨free, pairs⟩ := holds
      refine .pairs free (.cons first second pairs) (Nat.succ_lt_succ pairs.length_pos) ?_
      intro c third
      rwa [← Option.some.inj third]

end Shapes

end NetworkManager.HexString
