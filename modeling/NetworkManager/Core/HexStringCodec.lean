import NetworkManager.Core.HexStringLoop

/-!
# Reading and writing hexadecimal digits

The reader accepts exactly its texts, as far as the buffer and the required length allow, and what
was written is read back.
-/

namespace NetworkManager.HexString

open Ascii Sriov

section Full

variable {hexstr : List Char} {allow0xPrefix delimiterRequired : Bool}
  {delimiterCandidates : List Char} {requiredLen bufferLen : UInt64} {bytes : List UInt8}

theorem hexstr2binFull_eq_iff (room : 0 < bufferLen) :
    hexstr2binFull hexstr allow0xPrefix delimiterRequired delimiterCandidates requiredLen
        bufferLen = ⟨bytes, bytes.length, true⟩ ↔
      HexText delimiterRequired delimiterCandidates (without0xPrefix allow0xPrefix hexstr) bytes ∧
        bytes.length ≤ bufferLen.toNat ∧
        (requiredLen = 0 ∨ bytes.length = requiredLen.toNat) := by
  have read : hexstr2binLoop delimiterRequired delimiterCandidates
      (without0xPrefix allow0xPrefix hexstr) bufferLen .unknown [] = (true, bytes) ↔
      HexText delimiterRequired delimiterCandidates (without0xPrefix allow0xPrefix hexstr)
        bytes ∧ bytes.length ≤ bufferLen.toNat := by
    rw [loop_unknown_iff _ [] bytes room]
    constructor
    · rintro ⟨_, rfl, text, fits⟩
      exact ⟨text, fits⟩
    · rintro ⟨text, fits⟩
      exact ⟨bytes, rfl, text, fits⟩
  rw [← and_assoc, ← read]
  unfold hexstr2binFull
  generalize hexstr2binLoop delimiterRequired delimiterCandidates
    (without0xPrefix allow0xPrefix hexstr) bufferLen .unknown [] = loop
  obtain ⟨complete, out⟩ := loop
  dsimp only
  constructor
  · intro equal
    split at equal
    · rename_i accepted
      obtain ⟨rfl, -, -⟩ := Hexstr2bin.mk.inj equal
      exact ⟨Prod.ext accepted.1 rfl, accepted.2⟩
    · exact absurd (Hexstr2bin.mk.inj equal).2.2 Bool.false_ne_true
  · rintro ⟨equal, required⟩
    obtain ⟨rfl, rfl⟩ := Prod.mk.inj equal
    rw [if_pos ⟨rfl, required⟩]

/-- The reported length is the number of bytes, or zero if the text is refused. -/
theorem hexstr2binFull_outLen :
    let result := hexstr2binFull hexstr allow0xPrefix delimiterRequired delimiterCandidates
      requiredLen bufferLen
    result.outLen = if result.success then result.written.length else 0 := by
  unfold hexstr2binFull
  dsimp only
  split
  · rfl
  · rfl

end Full

section RoundTrip

variable (upperCase : Bool) (v : UInt8)

theorem hexcharToInt_lookup {digit : UInt8} (small : digit.toNat < 16) :
    hexcharToInt (lookup upperCase digit) = some digit.toNat := by
  unfold lookup
  generalize digit.toNat = number at small
  revert number
  cases upperCase with
  | true => decide
  | false => decide

theorem toNat_high : (v >>> 4).toNat = v.toNat / 16 := by
  rw [UInt8.toNat_shiftRight, Nat.shiftRight_eq_div_pow]
  rfl

theorem toNat_low : (v &&& 0x0F).toNat = v.toNat % 16 := by
  rw [UInt8.toNat_and]
  exact Nat.and_two_pow_sub_one_eq_mod v.toNat 4

theorem digits_of_byte :
    hexcharToInt (lookup upperCase (v >>> 4)) = some (v.toNat / 16) ∧
    hexcharToInt (lookup upperCase (v &&& 0x0F)) = some (v.toNat % 16) ∧
    UInt8.ofNat (v.toNat / 16 * 16 + v.toNat % 16) = v := by
  have below := v.toNat_lt
  refine ⟨?_, ?_, ?_⟩
  · rw [hexcharToInt_lookup upperCase (by rw [toNat_high]; omega), toNat_high]
  · rw [hexcharToInt_lookup upperCase (by rw [toNat_low]; omega), toNat_low]
  · rw [Nat.div_add_mod' v.toNat 16, UInt8.ofNat_toNat]

theorem delimited_bin2hexstrFull (delimiter : Char) (upperCase : Bool) (v : UInt8)
    (bytes : List UInt8) :
    Delimited delimiter (bin2hexstrFull (some delimiter) upperCase (v :: bytes))
      (v :: bytes) := by
  induction bytes generalizing v with
  | nil =>
    obtain ⟨high, low, value⟩ := digits_of_byte upperCase v
    have text : Delimited delimiter _ _ := .lastPair high low
    rwa [value] at text
  | cons w bytes ih =>
    obtain ⟨high, low, value⟩ := digits_of_byte upperCase v
    have text := Delimited.pair high low (ih w)
    rwa [value] at text

theorem pairs_bin2hexstrFull (bytes : List UInt8) :
    Pairs (bin2hexstrFull none upperCase (v :: bytes)) (v :: bytes) := by
  induction bytes generalizing v with
  | nil =>
    obtain ⟨high, low, value⟩ := digits_of_byte upperCase v
    have text := Pairs.last high low
    rwa [value] at text
  | cons w bytes ih =>
    obtain ⟨high, low, value⟩ := digits_of_byte upperCase v
    have text := Pairs.cons high low (ih w)
    rwa [value] at text

def ReadsBack (delimiterRequired : Bool) (delimiterCandidates : List Char)
    (delimiter : Option Char) : Prop :=
  match delimiter with
  | some delimiter => delimiter ∈ delimiterCandidates
  | none => delimiterRequired = false ∧ ∀ c ∈ delimiterCandidates, hexcharToInt c = none

theorem hexText_bin2hexstrFull {delimiterRequired : Bool} {delimiterCandidates : List Char}
    {delimiter : Option Char} (reads : ReadsBack delimiterRequired delimiterCandidates delimiter)
    (upperCase : Bool) (v : UInt8) (bytes : List UInt8) :
    HexText delimiterRequired delimiterCandidates
      (bin2hexstrFull delimiter upperCase (v :: bytes)) (v :: bytes) := by
  obtain ⟨high, low, value⟩ := digits_of_byte upperCase v
  cases bytes with
  | nil =>
    have text : HexText delimiterRequired delimiterCandidates _ _ := .pair high low
    rwa [value] at text
  | cons w bytes =>
    have several : 1 < (v :: w :: bytes).length := Nat.one_lt_succ_succ _
    cases delimiter with
    | some delimiter =>
      exact .delimited reads (delimited_bin2hexstrFull delimiter upperCase v _) several
    | none =>
      obtain ⟨free, no_digits⟩ := reads
      refine .pairs free (pairs_bin2hexstrFull upperCase v _) several ?_
      -- The third character is a digit.
      intro c third candidate
      have third : lookup upperCase (w >>> 4) = c := by
        cases bytes with
        | nil => exact Option.some.inj third
        | cons u bytes => exact Option.some.inj third
      have digit := (digits_of_byte upperCase w).1
      rw [third, no_digits c candidate] at digit
      cases digit

end RoundTrip

theorem HexText.length_le {delimiterRequired : Bool} {delimiterCandidates text : List Char}
    {bytes : List UInt8} (hexText : HexText delimiterRequired delimiterCandidates text bytes) :
    2 * bytes.length ≤ text.length + 1 := by
  cases hexText with
  | single digit => exact Nat.le_refl _
  | pair first second => exact Nat.le_succ _
  | delimited mem delimited several =>
    clear several
    induction delimited <;> grind
  | pairs free pairs several apart =>
    clear several apart
    induction pairs <;> grind

end NetworkManager.HexString
