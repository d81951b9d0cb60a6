import Mathlib.Tactic.IntervalCases
import NetworkManager.Library.Comparison
import NetworkManager.Platform.Object

/-!
# The order of network prefixes

Routes compare their networks up to the shorter one of their prefix lengths, and then the prefix
lengths.  A network is a number whose leading bits are its prefix, and cutting off trailing bits
keeps the order of numbers.  Therefore this comparison is a total preorder.
-/

namespace NetworkManager

theorem compare_eq_compare_of_iff {α β : Type*} [LinearOrder α] [LinearOrder β] {a b : α}
    {c d : β} (lt : a < b ↔ c < d) (eq : a = b ↔ c = d) : compare a b = compare c d := by
  rcases lt_trichotomy a b with less | same | greater
  · rw [compare_lt_iff_lt.mpr less, compare_lt_iff_lt.mpr (lt.mp less)]
  · rw [compare_eq_iff_eq.mpr same, compare_eq_iff_eq.mpr (eq.mp same)]
  · have not_less : ¬ c < d := fun less => absurd (lt.mpr less) greater.asymm
    have different : c ≠ d := fun same => absurd (eq.mpr same) greater.ne'
    rw [compare_gt_iff_gt.mpr greater,
      compare_gt_iff_gt.mpr (lt_of_le_of_ne (not_lt.mp not_less) different.symm)]

theorem compare_uint32 (a b : UInt32) : compare a b = compare a.toNat b.toNat := by
  show compareOfLessAndEq a b = compareOfLessAndEq a.toNat b.toNat
  unfold compareOfLessAndEq
  simp only [UInt32.lt_iff_toNat_lt, ← UInt32.toNat_inj]

theorem compare_uint8 (a b : UInt8) : compare a b = compare a.toNat b.toNat := by
  show compareOfLessAndEq a b = compareOfLessAndEq a.toNat b.toNat
  unfold compareOfLessAndEq
  simp only [UInt8.lt_iff_toNat_lt, ← UInt8.toNat_inj]

theorem compare_bitVec {width : Nat} (a b : BitVec width) :
    compare a b = compare a.toNat b.toNat := by
  show compareOfLessAndEq a b = compareOfLessAndEq a.toNat b.toNat
  unfold compareOfLessAndEq
  simp only [BitVec.lt_def, ← BitVec.toNat_inj]

theorem toNat_min (a b : UInt8) : (min a b).toNat = min a.toNat b.toNat := by
  show (if a ≤ b then a else b).toNat = min a.toNat b.toNat
  by_cases le : a ≤ b
  · rw [if_pos le, min_eq_left (UInt8.le_iff_toNat_le.mp le)]
  · rw [if_neg le, min_eq_right]
    exact le_of_not_ge (mt UInt8.le_iff_toNat_le.mpr le)

theorem compare_mul_right (a b : Nat) {factor : Nat} (positive : 0 < factor) :
    compare (a * factor) (b * factor) = compare a b :=
  compare_eq_compare_of_iff (Nat.mul_lt_mul_right positive) (Nat.mul_left_inj positive.ne')

/-- Numbers compare by their quotients, and then by their remainders. -/
theorem compare_div_mod (a b size : Nat) :
    (compare (a / size) (b / size)).then (compare (a % size) (b % size)) = compare a b := by
  rcases lt_trichotomy (a / size) (b / size) with less | same | greater
  · rw [compare_lt_iff_lt.mpr less, compare_lt_iff_lt.mpr (Nat.lt_of_div_lt_div less)]
    rfl
  · rw [compare_eq_iff_eq.mpr same]
    refine compare_eq_compare_of_iff ?_ ?_
    · conv_rhs => rw [← Nat.div_add_mod a size, ← Nat.div_add_mod b size, same]
      exact (Nat.add_lt_add_iff_left).symm
    · conv_rhs => rw [← Nat.div_add_mod a size, ← Nat.div_add_mod b size, same]
      exact (Nat.add_left_cancel_iff).symm
  · rw [compare_gt_iff_gt.mpr greater, compare_gt_iff_gt.mpr (Nat.lt_of_div_lt_div greater)]
    rfl

/-- The leading bits of a number of `width` bits. -/
def leadingBits (width count value : Nat) : Nat :=
  value / 2 ^ (width - count)

theorem leadingBits_mono {width j k a b : Nat} (le : j ≤ k)
    (ordered : leadingBits width k a ≤ leadingBits width k b) :
    leadingBits width j a ≤ leadingBits width j b := by
  have split : 2 ^ (width - j) = 2 ^ (width - k) * 2 ^ ((width - j) - (width - k)) := by
    rw [← Nat.pow_add]
    congr 1
    omega
  unfold leadingBits at ordered ⊢
  rw [split, ← Nat.div_div_eq_div_mul, ← Nat.div_div_eq_div_mul]
  exact Nat.div_le_div_right ordered

theorem leadingBits_lawful {α : Type*} {values : Set α} (width : Nat) (value : α → Nat)
    (count : α → UInt8) :
    LawfulCmpOn values fun a b =>
      (compare (leadingBits width (min (count a) (count b)).toNat (value a))
        (leadingBits width (min (count a) (count b)).toNat (value b))).then
        (compare (count a) (count b)) := by
  have lawful : LawfulCmpOn Set.univ (truncatedCmp (leadingBits width)) :=
    truncatedCmp_lawful leadingBits_mono
  refine LawfulCmpOn.congr (fun a _ b _ => ?_)
    (lawful.comap fun a => (value a, (count a).toNat))
  rw [compare_uint8, toNat_min]
  rfl

theorem toNat_and_not_shiftRight {width : Nat} (value : BitVec width) {count : Nat}
    (bound : count < width) :
    (value &&& ~~~ (BitVec.allOnes width >>> count)).toNat =
      leadingBits width count value.toNat * 2 ^ (width - count) := by
  have shifted : value &&& ~~~ (BitVec.allOnes width >>> count) =
      (value >>> (width - count)) <<< (width - count) := by
    ext bit lt
    simp only [BitVec.getElem_and, BitVec.getElem_not, BitVec.getElem_ushiftRight,
      BitVec.getLsbD_allOnes, BitVec.getElem_shiftLeft]
    by_cases trailing : bit < width - count
    · have inside : count + bit < width := by omega
      simp [trailing, inside]
    · have outside : ¬ count + bit < width := by omega
      have back : width - count + (bit - (width - count)) = bit := by omega
      simp [trailing, outside, back, BitVec.getLsbD_eq_getElem lt]
  unfold leadingBits
  rw [shifted, BitVec.toNat_shiftLeft, BitVec.toNat_ushiftRight, Nat.shiftRight_eq_div_pow,
    Nat.shiftLeft_eq]
  apply Nat.mod_eq_of_lt
  exact (Nat.div_mul_le_self _ _).trans_lt value.isLt

theorem getLsbD_htonl (value : UInt32) {bit : Nat} (bound : bit < 32) :
    (htonl value).toBitVec.getLsbD bit = value.toBitVec.getLsbD (8 * (3 - bit / 8) + bit % 8) := by
  unfold htonl
  interval_cases bit <;> simp

theorem uint32_ext {a b : UInt32}
    (bits : ∀ bit < 32, a.toBitVec.getLsbD bit = b.toBitVec.getLsbD bit) : a = b :=
  UInt32.eq_of_toBitVec_eq (BitVec.eq_of_getLsbD_eq bits)

theorem htonl_htonl (value : UInt32) : htonl (htonl value) = value := by
  apply uint32_ext
  intro bit bound
  have twice : 8 * (3 - (8 * (3 - bit / 8) + bit % 8) / 8) + (8 * (3 - bit / 8) + bit % 8) % 8 =
      bit := by omega
  rw [getLsbD_htonl _ bound, getLsbD_htonl _ (by omega), twice]

theorem htonl_and (a b : UInt32) : htonl (a &&& b) = htonl a &&& htonl b := by
  apply uint32_ext
  intro bit bound
  rw [UInt32.toBitVec_and, BitVec.getLsbD_and, getLsbD_htonl _ bound, getLsbD_htonl _ bound,
    getLsbD_htonl _ bound, UInt32.toBitVec_and, BitVec.getLsbD_and]

theorem htonl_not (value : UInt32) : htonl (~~~ value) = ~~~ htonl value := by
  apply uint32_ext
  intro bit bound
  have moved : 8 * (3 - bit / 8) + bit % 8 < 32 := by omega
  rw [getLsbD_htonl _ bound, UInt32.toBitVec_not, UInt32.toBitVec_not, BitVec.getLsbD_not,
    BitVec.getLsbD_not, getLsbD_htonl _ bound, decide_eq_true bound, decide_eq_true moved]

theorem htonl_netmask {plen : UInt8} (bound : plen < 32) :
    htonl (ip4PrefixToNetmask plen) = ~~~ (0xFFFFFFFF >>> plen.toUInt32) := by
  unfold ip4PrefixToNetmask
  rw [if_pos bound, htonl_not, htonl_htonl]

theorem toNat_clearHostAddress (addr : InAddr) (plen : UInt8) :
    (htonl (ip4AddressClearHostAddress addr plen)).toNat =
      leadingBits 32 plen.toNat (htonl addr).toNat * 2 ^ (32 - plen.toNat) := by
  unfold ip4AddressClearHostAddress
  rw [htonl_and]
  by_cases bound : plen < 32
  · have short : plen.toNat < 32 := UInt8.lt_iff_toNat_lt.mp bound
    have mask : ((0xFFFFFFFF : UInt32) >>> plen.toUInt32).toBitVec =
        BitVec.allOnes 32 >>> plen.toNat := by
      have distance : plen.toUInt32.toBitVec.toNat % 32 = plen.toNat := by
        rw [UInt32.toNat_toBitVec, UInt8.toNat_toUInt32]
        exact Nat.mod_eq_of_lt short
      rw [UInt32.toBitVec_shiftRight, BitVec.ushiftRight_eq', BitVec.toNat_umod]
      exact congrArg (BitVec.allOnes 32 >>> ·) distance
    rw [htonl_netmask bound, ← UInt32.toNat_toBitVec, UInt32.toBitVec_and, UInt32.toBitVec_not,
      mask, toNat_and_not_shiftRight _ short, UInt32.toNat_toBitVec]
  · have long : 32 ≤ plen.toNat := le_of_not_gt fun short => bound (UInt8.lt_iff_toNat_lt.mpr short)
    have all_bits : htonl 0xFFFFFFFF = -1 := by decide
    unfold leadingBits ip4PrefixToNetmask
    rw [if_neg bound, Nat.sub_eq_zero_of_le long, all_bits, UInt32.and_neg_one, Nat.pow_zero,
      Nat.div_one, Nat.mul_one]

theorem ip4AddressSamePrefixCmp_eq_compare (a b : InAddr) (plen : UInt8) :
    ip4AddressSamePrefixCmp a b plen =
      compare (leadingBits 32 plen.toNat (htonl a).toNat)
        (leadingBits 32 plen.toNat (htonl b).toNat) := by
  unfold ip4AddressSamePrefixCmp
  rw [compare_uint32, toNat_clearHostAddress, toNat_clearHostAddress,
    compare_mul_right _ _ (Nat.two_pow_pos _)]

theorem ip4Network_lawful {α : Type*} {values : Set α} (network : α → InAddr) (plen : α → UInt8) :
    LawfulCmpOn values fun a b =>
      (ip4AddressSamePrefixCmp (network a) (network b) (min (plen a) (plen b))).then
        (compare (plen a) (plen b)) := by
  refine LawfulCmpOn.congr (fun a _ b _ => ?_)
    (leadingBits_lawful 32 (fun a => (htonl (network a)).toNat) plen)
  rw [ip4AddressSamePrefixCmp_eq_compare]

theorem byteMask_eq {bits : Nat} (bound : bits < 8) :
    byteMask bits = ~~~ (BitVec.allOnes 8 >>> bits) := by
  interval_cases bits <;> decide

theorem compare_firstBytes (a b : In6Addr) {plen : Nat} (bound : plen < 128) :
    (if plen / 8 ≠ 0 then compare (a.firstBytes (plen / 8)) (b.firstBytes (plen / 8)) else .eq) =
      compare (leadingBits 128 plen a.toNat / 2 ^ (plen % 8))
        (leadingBits 128 plen b.toNat / 2 ^ (plen % 8)) := by
  have size : 2 ^ (128 - plen) * 2 ^ (plen % 8) = 2 ^ (128 - 8 * (plen / 8)) := by
    rw [← Nat.pow_add]
    congr 1
    omega
  unfold leadingBits
  rw [Nat.div_div_eq_div_mul, Nat.div_div_eq_div_mul, size]
  by_cases bytes : plen / 8 = 0
  · rw [if_neg (not_not.mpr bytes), bytes, Nat.div_eq_of_lt a.isLt, Nat.div_eq_of_lt b.isLt]
    rfl
  · unfold In6Addr.firstBytes
    rw [if_pos bytes, compare_bitVec, BitVec.toNat_ushiftRight, BitVec.toNat_ushiftRight,
      Nat.shiftRight_eq_div_pow, Nat.shiftRight_eq_div_pow]

theorem toNat_maskedByte (addr : In6Addr) {plen : Nat} (bound : plen < 128) :
    (addr.byte (plen / 8) &&& byteMask (plen % 8)).toNat =
      leadingBits 128 plen addr.toNat % 2 ^ (plen % 8) * 2 ^ (8 - plen % 8) := by
  have size : 2 ^ (128 - plen) = 2 ^ (120 - 8 * (plen / 8)) * 2 ^ (8 - plen % 8) := by
    rw [← Nat.pow_add]
    congr 1
    omega
  have byte_size : 2 ^ 8 = 2 ^ (8 - plen % 8) * 2 ^ (plen % 8) := by
    rw [← Nat.pow_add]
    congr 1
    omega
  rw [byteMask_eq (Nat.mod_lt _ (by decide)), toNat_and_not_shiftRight _ (Nat.mod_lt _ (by decide))]
  unfold leadingBits In6Addr.byte
  rw [BitVec.toNat_setWidth, BitVec.toNat_ushiftRight, Nat.shiftRight_eq_div_pow, size,
    ← Nat.div_div_eq_div_mul, byte_size, Nat.mod_mul_right_div_self]

theorem compare_maskedByte (a b : In6Addr) {plen : Nat} (bound : plen < 128) :
    (if plen % 8 ≠ 0 then
      compare (a.byte (plen / 8) &&& byteMask (plen % 8))
        (b.byte (plen / 8) &&& byteMask (plen % 8))
    else .eq) =
      compare (leadingBits 128 plen a.toNat % 2 ^ (plen % 8))
        (leadingBits 128 plen b.toNat % 2 ^ (plen % 8)) := by
  by_cases bits : plen % 8 = 0
  · rw [if_neg (not_not.mpr bits), bits, Nat.pow_zero, Nat.mod_one, Nat.mod_one]
    rfl
  · rw [if_pos bits, compare_bitVec, toNat_maskedByte a bound, toNat_maskedByte b bound,
      compare_mul_right _ _ (Nat.two_pow_pos _)]

theorem ip6AddressSamePrefixCmp_eq_compare (a b : In6Addr) (plen : UInt8) :
    ip6AddressSamePrefixCmp a b plen =
      compare (leadingBits 128 plen.toNat a.toNat) (leadingBits 128 plen.toNat b.toNat) := by
  unfold ip6AddressSamePrefixCmp
  by_cases long : plen.toNat ≥ 128
  · unfold leadingBits
    rw [if_pos long, compare_bitVec, Nat.sub_eq_zero_of_le long, Nat.pow_zero, Nat.div_one,
      Nat.div_one]
  · have bound : plen.toNat < 128 := lt_of_not_ge long
    rw [if_neg long]
    dsimp only
    rw [compare_firstBytes a b bound, compare_maskedByte a b bound, compare_div_mod]

theorem ip6Network_lawful {α : Type*} {values : Set α} (network : α → In6Addr) (plen : α → UInt8) :
    LawfulCmpOn values fun a b =>
      (ip6AddressSamePrefixCmp (network a) (network b) (min (plen a) (plen b))).then
        (compare (plen a) (plen b)) := by
  refine LawfulCmpOn.congr (fun a _ b _ => ?_)
    (leadingBits_lawful 128 (fun a => (network a).toNat) plen)
  rw [ip6AddressSamePrefixCmp_eq_compare]

end NetworkManager
