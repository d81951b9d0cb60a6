import NetworkManager.Platform.HashUpdate
import NetworkManager.Platform.PrefixOrder

/-!
# Comparing the networks of IPv6 addresses

`nm_utils_ip6_address_clear_host_address` masks an address, and
`nm_utils_ip6_address_same_prefix_cmp` compares two addresses up to a prefix length without masking
them.  Both are described by the leading bits of an address as a number.
-/

namespace NetworkManager

open List

theorem compare_ofBitVec (a b : BitVec 8) :
    compare (UInt8.ofBitVec a) (UInt8.ofBitVec b) = compare a b := by
  simp only [compare, compareOfLessAndEq, UInt8.lt_iff_toBitVec_lt, UInt8.ofBitVec.injEq]

/-- Clearing the trailing bits of two numbers leaves the comparison of the leading ones. -/
theorem compare_shiftLeft_ushiftRight {width : Nat} (a b : BitVec width) (count : Nat) :
    compare ((a >>> count) <<< count) ((b >>> count) <<< count) =
      compare (a >>> count) (b >>> count) := by
  have cleared : ∀ number : BitVec width, ((number >>> count) <<< count).toNat =
      (number >>> count).toNat * 2 ^ count := by
    intro number
    rw [BitVec.toNat_shiftLeft, Nat.shiftLeft_eq, Nat.mod_eq_of_lt]
    rw [BitVec.toNat_ushiftRight, Nat.shiftRight_eq_div_pow]
    exact Nat.lt_of_le_of_lt (Nat.div_mul_le_self _ _) number.isLt
  rw [compare_bitVec, cleared, cleared, compare_mul_right _ _ (Nat.two_pow_pos _), ← compare_bitVec]

theorem compareLex_concat {α : Type} (cmp : α → α → Ordering) {left left' : List α}
    (same_length : left.length = left'.length) (last last' : α) :
    List.compareLex cmp (left ++ [last]) (left' ++ [last']) =
      (List.compareLex cmp left left').then (cmp last last') := by
  induction left generalizing left' with
  | nil =>
    obtain rfl := length_eq_zero_iff.mp same_length.symm
    simp [List.compareLex_cons_cons, List.compareLex_nil_nil]
  | cons head rest ih =>
    cases left' with
    | nil => cases same_length
    | cons head' rest' =>
      simp only [cons_append, List.compareLex_cons_cons]
      rw [ih (Nat.succ.inj same_length), Ordering.then_assoc]

namespace In6Addr

variable (a b : In6Addr)

theorem byte_toNat (index : Nat) : (a.byte index).toNat = a.toNat / 2 ^ (120 - 8 * index) % 256 := by
  unfold byte
  rw [BitVec.toNat_setWidth, BitVec.toNat_ushiftRight, Nat.shiftRight_eq_div_pow]

theorem firstBytes_toNat (count : Nat) :
    (a.firstBytes count).toNat = a.toNat / 2 ^ (128 - 8 * count) := by
  unfold firstBytes
  rw [BitVec.toNat_ushiftRight, Nat.shiftRight_eq_div_pow]

theorem firstBytes_zero : a.firstBytes 0 = 0 :=
  BitVec.ushiftRight_eq_zero (Nat.le_refl 128)

theorem firstBytes_succ {count : Nat} (bounded : count < 16) :
    (a.firstBytes (count + 1)).toNat = (a.firstBytes count).toNat * 256 + (a.byte count).toNat := by
  have shift : 128 - 8 * count = 120 - 8 * count + 8 := by omega
  have shift' : 128 - 8 * (count + 1) = 120 - 8 * count := by omega
  rw [firstBytes_toNat, firstBytes_toNat, byte_toNat, shift, shift', Nat.pow_add,
    ← Nat.div_div_eq_div_mul]
  exact (Nat.div_add_mod' _ 256).symm

/-- `memcmp` compares the bytes one after the other. -/
theorem compare_bytes {count : Nat} (bounded : count ≤ 16) :
    compare (a.bytes count) (b.bytes count) = compare (a.firstBytes count) (b.firstBytes count) := by
  induction count with
  | zero =>
    rw [firstBytes_zero, firstBytes_zero]
    rfl
  | succ count ih =>
    have split : ∀ addr : In6Addr, (addr.firstBytes (count + 1)).toNat / 256 =
          (addr.firstBytes count).toNat ∧
        (addr.firstBytes (count + 1)).toNat % 256 = (addr.byte count).toNat := by
      intro addr
      have byte_lt : (addr.byte count).toNat < 256 := (addr.byte count).isLt
      have value : (addr.firstBytes (count + 1)).toNat =
          (addr.firstBytes count).toNat * 256 + (addr.byte count).toNat :=
        firstBytes_succ addr (by omega)
      omega
    rw [compare_bitVec, ← compare_div_mod _ _ 256, (split a).1, (split b).1, (split a).2,
      (split b).2, ← compare_bitVec, ← compare_bitVec, ← ih (by omega)]
    unfold bytes
    rw [range_succ, map_append, map_append]
    refine (compareLex_concat compare (by simp) _ _).trans ?_
    rw [compare_ofBitVec]
    rfl

/-- The address with the bits after a prefix cleared. -/
def network (prefixLength : Nat) : In6Addr :=
  (a >>> (128 - prefixLength)) <<< (128 - prefixLength)

theorem network_getLsbD (prefixLength index : Nat) :
    (a.network prefixLength).getLsbD index =
      (decide (128 - prefixLength ≤ index) && a.getLsbD index) := by
  unfold network
  rw [BitVec.getLsbD_shiftLeft, BitVec.getLsbD_ushiftRight]
  by_cases cleared : index < 128 - prefixLength
  · have not_kept : ¬ 128 - prefixLength ≤ index := by omega
    simp [cleared, not_kept]
  · have kept : 128 - prefixLength ≤ index := by omega
    have position : 128 - prefixLength + (index - (128 - prefixLength)) = index := by omega
    by_cases inside : index < 128
    · simp [cleared, kept, position, inside]
    · simp [inside, BitVec.getLsbD_of_ge a index (by omega)]

/-- Clearing twice keeps the shorter prefix. -/
theorem network_network (first second : Nat) :
    (a.network first).network second = a.network (min first second) := by
  apply BitVec.eq_of_getLsbD_eq
  intro index _
  rw [network_getLsbD, network_getLsbD, network_getLsbD, ← Bool.and_assoc]
  congr 1
  rw [← Bool.decide_and]
  congr 1
  rw [eq_iff_iff]
  omega

theorem byte_getLsbD (index bit : Nat) :
    (a.byte index).getLsbD bit = (decide (bit < 8) && a.getLsbD (120 - 8 * index + bit)) := by
  unfold byte
  rw [BitVec.getLsbD_setWidth, BitVec.getLsbD_ushiftRight]

end In6Addr

theorem leadingMask_getLsbD {bits : Nat} (bounded : bits < 8) (bit : Nat) :
    (0xFF#8 <<< (8 - bits)).getLsbD bit = (decide (8 - bits ≤ bit) && decide (bit < 8)) := by
  rw [BitVec.getLsbD_shiftLeft, show 0xFF#8 = BitVec.allOnes 8 from rfl, BitVec.getLsbD_allOnes]
  by_cases inside : bit < 8 <;> by_cases cleared : bit < 8 - bits <;> simp [inside, cleared] <;>
    omega

theorem clear_eq_network (a : In6Addr) {nbytes nbits : Nat} (nbytes_le : 8 * nbytes ≤ 120)
    (nbits_lt : nbits < 8) :
    a.firstBytes nbytes <<< (128 - 8 * nbytes) |||
        ((if nbits ≠ 0 then a.byte nbytes &&& (0xFF#8 <<< (8 - nbits)) else 0).setWidth 128 <<<
          (120 - 8 * nbytes)) =
      a.network (8 * nbytes + nbits) := by
  have masked : ∀ bit, (if nbits ≠ 0 then a.byte nbytes &&& (0xFF#8 <<< (8 - nbits)) else 0).getLsbD
      bit = (decide (8 - nbits ≤ bit) && decide (bit < 8) && a.getLsbD (120 - 8 * nbytes + bit)) := by
    intro bit
    split
    · rw [BitVec.getLsbD_and, In6Addr.byte_getLsbD, leadingMask_getLsbD nbits_lt]
      cases decide (8 - nbits ≤ bit) <;> cases decide (bit < 8) <;> simp
    · rename_i none
      have outside : ¬ (8 - nbits ≤ bit ∧ bit < 8) := by omega
      rw [← Bool.decide_and, decide_eq_false outside]
      simp
  apply BitVec.eq_of_getLsbD_eq
  intro index inside
  rw [BitVec.getLsbD_or, BitVec.getLsbD_shiftLeft, BitVec.getLsbD_shiftLeft,
    BitVec.getLsbD_setWidth, masked, In6Addr.network_getLsbD, In6Addr.firstBytes,
    BitVec.getLsbD_ushiftRight]
  by_cases copied : 128 - 8 * nbytes ≤ index
  · have above : ¬ index < 128 - 8 * nbytes := by omega
    have position : 128 - 8 * nbytes + (index - (128 - 8 * nbytes)) = index := by omega
    have beyond : ¬ index - (120 - 8 * nbytes) < 8 := by omega
    have kept : 128 - (8 * nbytes + nbits) ≤ index := by omega
    simp [inside, above, position, beyond, kept]
  · have below : index < 128 - 8 * nbytes := by omega
    by_cases within_byte : 120 - 8 * nbytes ≤ index
    · have above : ¬ index < 120 - 8 * nbytes := by omega
      have position : 120 - 8 * nbytes + (index - (120 - 8 * nbytes)) = index := by omega
      have within : index - (120 - 8 * nbytes) < 8 := by omega
      have within_width : index - (120 - 8 * nbytes) < 128 := by omega
      have kept_iff : 8 - nbits ≤ index - (120 - 8 * nbytes) ↔
          128 - (8 * nbytes + nbits) ≤ index := by omega
      simp [inside, below, above, position, within, within_width, kept_iff]
    · have before : index < 120 - 8 * nbytes := by omega
      have cleared : ¬ 128 - (8 * nbytes + nbits) ≤ index := by omega
      simp [below, before, cleared]

/-- Whole bytes are copied, and of the next byte the leading bits. -/
theorem ip6AddressClearHostAddress_eq (a : In6Addr) {plen : UInt8} (valid : plen.toNat ≤ 128) :
    ip6AddressClearHostAddress a plen = some (a.network plen.toNat) := by
  unfold ip6AddressClearHostAddress
  rw [if_neg (by omega)]
  split
  · rename_i short
    dsimp only
    congr 1
    have nbytes_le : 8 * (plen.toNat / 8) ≤ 120 := by omega
    have nbits_lt : plen.toNat % 8 < 8 := Nat.mod_lt _ (by decide)
    have plen_eq : plen.toNat = 8 * (plen.toNat / 8) + plen.toNat % 8 := by omega
    generalize plen.toNat / 8 = nbytes at *
    generalize plen.toNat % 8 = nbits at *
    rw [plen_eq]
    exact clear_eq_network a nbytes_le nbits_lt
  · rename_i long
    have full : plen.toNat = 128 := by omega
    rw [full]
    congr 1
    apply BitVec.eq_of_getLsbD_eq
    intro index _
    simp [In6Addr.network_getLsbD]

theorem ip6AddressSamePrefixCmp_eq_shifted (a b : In6Addr) (plen : UInt8) :
    ip6AddressSamePrefixCmp a b plen =
      compare (a >>> (128 - plen.toNat)) (b >>> (128 - plen.toNat)) := by
  rw [ip6AddressSamePrefixCmp_eq_compare, compare_bitVec, BitVec.toNat_ushiftRight,
    BitVec.toNat_ushiftRight, Nat.shiftRight_eq_div_pow, Nat.shiftRight_eq_div_pow]
  rfl

/-- Comparing the networks of two addresses is comparing the bytes of the masked addresses, and
masking twice is masking with the shorter prefix. -/
theorem ip6AddressSamePrefixCmp_masked (a b : In6Addr) (plen : UInt8) (valid : plen.toNat ≤ 128) :
    ∃ network network', ip6AddressClearHostAddress a plen = some network ∧
      ip6AddressClearHostAddress b plen = some network' ∧
      ip6AddressSamePrefixCmp a b plen = compare (network.bytes 16) (network'.bytes 16) ∧
      ip6AddressClearHostAddress network plen = some network ∧
      ∀ other : UInt8, other.toNat ≤ 128 →
        ip6AddressClearHostAddress network other = ip6AddressClearHostAddress a (min plen other) := by
  refine ⟨_, _, ip6AddressClearHostAddress_eq a valid, ip6AddressClearHostAddress_eq b valid, ?_, ?_,
    ?_⟩
  · have whole : ∀ addr : In6Addr, addr.firstBytes 16 = addr := by
      intro addr
      exact BitVec.ushiftRight_zero addr
    rw [In6Addr.compare_bytes _ _ (Nat.le_refl 16), whole, whole, In6Addr.network, In6Addr.network,
      compare_shiftLeft_ushiftRight]
    exact ip6AddressSamePrefixCmp_eq_shifted a b plen
  · rw [ip6AddressClearHostAddress_eq _ valid, In6Addr.network_network, Nat.min_self]
  · intro other other_valid
    have min_valid : (min plen other).toNat ≤ 128 := by
      rw [toNat_min]
      omega
    rw [ip6AddressClearHostAddress_eq _ other_valid, In6Addr.network_network,
      ip6AddressClearHostAddress_eq a min_valid, toNat_min]

/-- The addresses differ in the last bit of a prefix that ends within a byte. -/
theorem ip6AddressSamePrefixCmp_masked_midByte :
    ∃ network network',
      ip6AddressClearHostAddress 0x20010db8000000000000000000000001 29 = some network ∧
      ip6AddressClearHostAddress 0x20010db0000000000000000000000001 29 = some network' ∧
      compare (network.bytes 16) (network'.bytes 16) = .gt := by
  obtain ⟨network, network', network_eq, network_eq', compare_eq, -⟩ :=
    ip6AddressSamePrefixCmp_masked 0x20010db8000000000000000000000001
      0x20010db0000000000000000000000001 29 (by decide)
  refine ⟨network, network', network_eq, network_eq', compare_eq.symm.trans ?_⟩
  decide

end NetworkManager
