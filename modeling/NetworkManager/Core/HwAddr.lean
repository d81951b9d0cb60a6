import NetworkManager.Core.HexStringCodec

/-!
# Comparing hardware addresses

A hardware address is given as bytes, as text or by its length alone.  Of an InfiniBand address only
the last bytes are compared.
-/

namespace NetworkManager.HardwareAddress

open HexString List

/-- `NM_UTILS_HWADDR_LEN_MAX`. -/
def hwaddrLenMax : Nat := 20

/-- `INFINIBAND_ALEN`. -/
def infinibandAlen : Nat := 20

/-- `hwaddr_aton`, with the bytes up to the reported length. -/
def hwaddrAton (asc : List Char) (bufferLen : Nat) : Option (List UInt8) :=
  let buf := hexstr2binFull asc false true [':', '-'] 0 (UInt64.ofNat bufferLen)
  if buf.success then some (buf.written.take buf.outLen) else none

/-- `nm_utils_hwaddr_ntoa`. -/
def hwaddrNtoa (addr : List UInt8) : List Char :=
  if 0 < addr.length then bin2hexstrFull (some ':') true addr else []

/-- `nm_utils_hwaddr_canonical`. -/
def hwaddrCanonical (asc : List Char) (length : Int) : Option (List Char) :=
  if 0 < length ∧ length ≤ hwaddrLenMax then
    match hwaddrAton asc length.toNat with
    | none => none
    | some buf => if (buf.length : Int) ≠ length then none else some (hwaddrNtoa buf)
  else if length = -1 then (hwaddrAton asc hwaddrLenMax).map hwaddrNtoa
  else none

/-- A pointer and a length: text has the length `-1`, and any pointer may be `NULL`. -/
inductive HwAddr where
  | nullAscii
  | ascii (asc : List Char)
  | nullBinary (length : Nat)
  | binary (bytes : List UInt8)

/-- The bytes of an address, as both parts of `nm_utils_hwaddr_matches` read them. -/
def HwAddr.read : HwAddr → Option (List UInt8)
  | .nullAscii => some []
  | .ascii asc => hwaddrAton asc hwaddrLenMax
  | .nullBinary length =>
    if 0 < length ∧ length ≤ hwaddrLenMax then some (List.replicate length 0) else none
  | .binary bytes => if 0 < bytes.length ∧ bytes.length ≤ hwaddrLenMax then some bytes else none

def comparedBytes (bytes : List UInt8) : List UInt8 :=
  if bytes.length = infinibandAlen then bytes.drop (infinibandAlen - 8) else bytes

/-- `nm_utils_hwaddr_matches`. -/
def hwaddrMatches (hwaddr1 hwaddr2 : HwAddr) : Bool :=
  match hwaddr1.read with
  | none => false
  | some bytes1 =>
    match hwaddr2.read with
    | none => false
    | some bytes2 =>
      if bytes2.length ≠ bytes1.length then false
      else comparedBytes bytes1 == comparedBytes bytes2

theorem hexText_ne_nil {delimiterRequired : Bool} {delimiterCandidates text : List Char}
    {bytes : List UInt8} (hexText : HexText delimiterRequired delimiterCandidates text bytes) :
    bytes ≠ [] := by
  cases hexText with
  | single => simp
  | pair => simp
  | delimited _ _ several => exact length_pos_iff.mp (by omega)
  | pairs _ _ several => exact length_pos_iff.mp (by omega)

section

variable {asc canonical : List Char} {bufferLen : Nat} {bytes : List UInt8}

theorem hwaddrAton_iff (room : 0 < bufferLen) (small : bufferLen ≤ hwaddrLenMax) :
    hwaddrAton asc bufferLen = some bytes ↔
      HexText true [':', '-'] asc bytes ∧ bytes.length ≤ bufferLen := by
  have below : bufferLen < UInt64.size := lt_of_le_of_lt small (by decide)
  have toNat : (UInt64.ofNat bufferLen).toNat = bufferLen := UInt64.toNat_ofNat_of_lt' below
  have positive : 0 < UInt64.ofNat bufferLen := by
    rw [UInt64.lt_iff_toNat_lt, toNat]
    exact room
  have read : hexstr2binFull asc false true [':', '-'] 0 (UInt64.ofNat bufferLen)
      = ⟨bytes, bytes.length, true⟩ ↔ HexText true [':', '-'] asc bytes ∧
        bytes.length ≤ (UInt64.ofNat bufferLen).toNat ∧ ((0 : UInt64) = 0 ∨ _) :=
    hexstr2binFull_eq_iff positive
  rw [toNat, and_iff_left (Or.inl rfl)] at read
  rw [← read]
  have reported : (hexstr2binFull asc false true [':', '-'] 0 (UInt64.ofNat bufferLen)).outLen
      = if _ then _ else 0 := hexstr2binFull_outLen
  unfold hwaddrAton
  generalize hexstr2binFull asc false true [':', '-'] 0 (UInt64.ofNat bufferLen) = buf at reported
  obtain ⟨written, outLen, success⟩ := buf
  cases success with
  | false => simp
  | true =>
    have all : outLen = written.length := reported
    subst all
    simp only [if_true, take_length, Option.some.injEq, Hexstr2bin.mk.injEq, and_true]
    exact ⟨fun same => ⟨same, congrArg List.length same⟩, And.left⟩

/-- What is written of at most as many bytes is read back. -/
theorem hwaddrAton_hwaddrNtoa (nonempty : bytes ≠ []) (fits : bytes.length ≤ bufferLen)
    (small : bufferLen ≤ hwaddrLenMax) : hwaddrAton (hwaddrNtoa bytes) bufferLen = some bytes := by
  have positive := length_pos_iff.mpr nonempty
  refine (hwaddrAton_iff (by omega) small).mpr ⟨?_, fits⟩
  rw [hwaddrNtoa, if_pos positive]
  cases bytes with
  | nil => exact absurd rfl nonempty
  | cons v bytes =>
    have candidate : ReadsBack true [':', '-'] (some ':') := mem_cons_self
    exact hexText_bin2hexstrFull candidate true v bytes

theorem hwaddrCanonical_idem {length : Int} (made : hwaddrCanonical asc length = some canonical) :
    hwaddrCanonical canonical length = some canonical := by
  unfold hwaddrCanonical at made ⊢
  by_cases given : 0 < length ∧ length ≤ hwaddrLenMax
  · rw [if_pos given] at made ⊢
    have room : 0 < length.toNat := by omega
    have small : length.toNat ≤ hwaddrLenMax := by omega
    cases read : hwaddrAton asc length.toNat with
    | none =>
      rw [read] at made
      cases made
    | some bytes =>
      rw [read] at made
      dsimp only at made
      obtain ⟨text, fits⟩ := (hwaddrAton_iff room small).mp read
      split at made
      · cases made
      · next same =>
        cases made
        rw [hwaddrAton_hwaddrNtoa (hexText_ne_nil text) fits small]
        exact if_neg same
  · rw [if_neg given] at made ⊢
    split at made
    · next unknown =>
      obtain ⟨bytes, read, rfl⟩ := Option.map_eq_some_iff.mp made
      obtain ⟨text, fits⟩ := (hwaddrAton_iff (by decide) le_rfl).mp read
      rw [if_pos unknown, hwaddrAton_hwaddrNtoa (hexText_ne_nil text) fits le_rfl]
      rfl
    · cases made

/-- Texts have the same canonical form exactly if they stand for the same bytes. -/
theorem hwaddrCanonical_eq_iff {other : List Char} {others : List UInt8}
    (read : hwaddrAton asc hwaddrLenMax = some bytes)
    (read_other : hwaddrAton other hwaddrLenMax = some others) :
    hwaddrCanonical asc (-1) = hwaddrCanonical other (-1) ↔ bytes = others := by
  have canonical_eq : ∀ {asc bytes}, hwaddrAton asc hwaddrLenMax = some bytes →
      hwaddrCanonical asc (-1) = some (hwaddrNtoa bytes) ∧
        hwaddrAton (hwaddrNtoa bytes) hwaddrLenMax = some bytes := by
    intro asc bytes read
    obtain ⟨text, fits⟩ := (hwaddrAton_iff (by decide) le_rfl).mp read
    refine ⟨?_, hwaddrAton_hwaddrNtoa (hexText_ne_nil text) fits le_rfl⟩
    rw [hwaddrCanonical, if_neg (by decide), if_pos rfl, read]
    rfl
  obtain ⟨form, back⟩ := canonical_eq read
  obtain ⟨form_other, back_other⟩ := canonical_eq read_other
  rw [form, form_other]
  constructor
  · intro same
    rw [Option.some.inj same, back_other] at back
    exact (Option.some.inj back).symm
  · rintro rfl
    rfl

end

/-- Two addresses match if they can be read, are of one length and the bytes that are compared are
the same. -/
theorem hwaddrMatches_iff {hwaddr1 hwaddr2 : HwAddr} :
    hwaddrMatches hwaddr1 hwaddr2 = true ↔ ∃ bytes1 bytes2, hwaddr1.read = some bytes1 ∧
      hwaddr2.read = some bytes2 ∧ bytes1.length = bytes2.length ∧
      comparedBytes bytes1 = comparedBytes bytes2 := by
  unfold hwaddrMatches
  cases first : hwaddr1.read with
  | none => simp
  | some bytes1 =>
    cases second : hwaddr2.read with
    | none => simp
    | some bytes2 =>
      by_cases same : bytes1.length = bytes2.length
      · simp [same]
      · simp [same, Ne.symm same]

theorem comparedBytes_of_ne {bytes : List UInt8} (other : bytes.length ≠ infinibandAlen) :
    comparedBytes bytes = bytes :=
  if_neg other

theorem hwaddrMatches_symm {hwaddr1 hwaddr2 : HwAddr}
    (holds : hwaddrMatches hwaddr1 hwaddr2 = true) : hwaddrMatches hwaddr2 hwaddr1 = true := by
  obtain ⟨bytes1, bytes2, first, second, length, same⟩ := hwaddrMatches_iff.mp holds
  exact hwaddrMatches_iff.mpr ⟨bytes2, bytes1, second, first, length.symm, same.symm⟩

theorem hwaddrMatches_trans {hwaddr1 hwaddr2 hwaddr3 : HwAddr}
    (holds : hwaddrMatches hwaddr1 hwaddr2 = true)
    (holds_next : hwaddrMatches hwaddr2 hwaddr3 = true) :
    hwaddrMatches hwaddr1 hwaddr3 = true := by
  obtain ⟨bytes1, bytes2, first, second, length, same⟩ := hwaddrMatches_iff.mp holds
  obtain ⟨_, bytes3, again, third, length', same'⟩ := hwaddrMatches_iff.mp holds_next
  cases second.symm.trans again
  exact hwaddrMatches_iff.mpr
    ⟨bytes1, bytes3, first, third, length.trans length', same.trans same'⟩

/-- Texts for addresses other than InfiniBand ones match if their canonical forms are the same, a
text that is no address matches nothing, and matching is symmetric and transitive. -/
theorem hwaddrMatches_spec :
    (∀ {a b : List Char} {bytesA bytesB : List UInt8}, hwaddrAton a hwaddrLenMax = some bytesA →
      hwaddrAton b hwaddrLenMax = some bytesB →
      bytesA.length ≠ infinibandAlen → bytesB.length ≠ infinibandAlen →
      (hwaddrMatches (.ascii a) (.ascii b) = true ↔
        hwaddrCanonical a (-1) = hwaddrCanonical b (-1))) ∧
    (∀ {a : List Char} (other : HwAddr), hwaddrAton a hwaddrLenMax = none →
      hwaddrMatches (.ascii a) other = false ∧ hwaddrMatches other (.ascii a) = false) ∧
    (∀ hwaddr1 hwaddr2 : HwAddr, hwaddrMatches hwaddr1 hwaddr2 = hwaddrMatches hwaddr2 hwaddr1) ∧
    (∀ hwaddr1 hwaddr2 hwaddr3 : HwAddr, hwaddrMatches hwaddr1 hwaddr2 = true →
      hwaddrMatches hwaddr2 hwaddr3 = true → hwaddrMatches hwaddr1 hwaddr3 = true) ∧
    ∀ {a canonical : List Char} {length : Int}, hwaddrCanonical a length = some canonical →
      hwaddrCanonical canonical length = some canonical := by
  have unread {a : List Char} (other : HwAddr) (invalid : hwaddrAton a hwaddrLenMax = none) :
      ¬ hwaddrMatches (.ascii a) other = true := by
    intro holds
    obtain ⟨bytes, -, read, -⟩ := hwaddrMatches_iff.mp holds
    cases invalid.symm.trans read
  refine ⟨?_, ?_, ?_, fun _ _ _ => hwaddrMatches_trans, hwaddrCanonical_idem⟩
  · intro a b bytesA bytesB read_a read_b other_a other_b
    rw [hwaddrCanonical_eq_iff read_a read_b, hwaddrMatches_iff]
    constructor
    · rintro ⟨bytes1, bytes2, first, second, -, same⟩
      cases read_a.symm.trans first
      cases read_b.symm.trans second
      rwa [comparedBytes_of_ne other_a, comparedBytes_of_ne other_b] at same
    · rintro rfl
      exact ⟨bytesA, bytesA, read_a, read_b, rfl, rfl⟩
  · intro a other invalid
    exact ⟨Bool.eq_false_iff.mpr (unread other invalid),
      Bool.eq_false_iff.mpr fun holds => unread other invalid (hwaddrMatches_symm holds)⟩
  · intro hwaddr1 hwaddr2
    exact Bool.eq_iff_iff.mpr ⟨hwaddrMatches_symm, hwaddrMatches_symm⟩

end NetworkManager.HardwareAddress
