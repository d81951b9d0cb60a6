import NetworkManager.Core.ReverseDns

/-!
# The reverse zones of IPv4 prefixes

The loop counts through the zones of a prefix without leaving it, and its buffers have room for the
whole names.  It ends because the next zone has another prefix, or because it wraps to the first
address.
-/

namespace NetworkManager.ReverseDns

open Ascii DigitPrefix List

theorem StrBuf.append_of_fits {buf : StrBuf} {str : List Char} (fits : str.length < buf.len) :
    buf.append str = ⟨buf.text ++ str, buf.len - str.length⟩ := by
  unfold StrBuf.append
  rw [if_neg (by omega), if_neg (by omega)]

theorem foldl_append_of_fits {labels : List (List Char)} {size : Nat}
    (bounded : ∀ text ∈ labels, text.length ≤ size) (buf : StrBuf)
    (fits : labels.length * size < buf.len) :
    ∃ len, buf.len - labels.length * size ≤ len ∧
      labels.foldl StrBuf.append buf = ⟨buf.text ++ labels.flatten, len⟩ := by
  induction labels generalizing buf with
  | nil => exact ⟨buf.len, Nat.sub_le _ _, by simp⟩
  | cons text labels ih =>
    have text_le := bounded text mem_cons_self
    rw [length_cons, Nat.succ_mul] at fits ⊢
    obtain ⟨len, len_ge, written⟩ := ih (fun other mem => bounded other (mem_cons_of_mem _ mem))
      ⟨buf.text ++ text, buf.len - text.length⟩ (by dsimp only; omega)
    refine ⟨len, ?_, ?_⟩
    · dsimp only at len_ge
      omega
    · rw [foldl_cons, StrBuf.append_of_fits (by omega), written]
      simp

theorem written_name {labels : List (List Char)} {size : Nat} (arpa : List Char)
    (bounded : ∀ text ∈ labels, text.length ≤ size) :
    ((labels.foldl StrBuf.append { len := arpa.length + size * labels.length + 1 }).append
      arpa).text = labels.flatten ++ arpa := by
  obtain ⟨len, len_ge, written⟩ := foldl_append_of_fits bounded
    { len := arpa.length + size * labels.length + 1 } (by
      rw [Nat.mul_comm]
      dsimp only
      omega)
  rw [Nat.mul_comm] at len_ge
  dsimp only at len_ge
  rw [written, StrBuf.append_of_fits (by dsimp only; omega)]
  rfl

theorem length_label_decimal {number : Nat} (small : number < 256) :
    (label 10 number).length ≤ 4 := by
  have all : ∀ number < 256, (label 10 number).length ≤ 4 := by decide +kernel
  exact all number small

theorem length_label_hex {number : Nat} (small : number < 16) : (label 16 number).length ≤ 2 := by
  rw [label, Nat.toDigits_of_lt_base small]
  exact Nat.le_refl 2

theorem memoryByte_htonl (address : UInt32) {position : Nat} (inside : position < 4) :
    (memoryByte (htonl address) position).toNat = digit 256 4 position address.toNat := by
  have distance : (UInt32.ofNat (8 * position)).toBitVec.toNat % 32 = 8 * position := by
    rw [UInt32.toNat_toBitVec, UInt32.toNat_ofNat']
    omega
  have moved : (memoryByte (htonl address) position).toBitVec =
      (address.toBitVec >>> (8 * (3 - position))).setWidth 8 := by
    unfold memoryByte
    rw [UInt32.toBitVec_toUInt8, UInt32.toBitVec_shiftRight, BitVec.ushiftRight_eq',
      BitVec.toNat_umod]
    apply BitVec.eq_of_getLsbD_eq
    intro bit bit_lt
    have place : 8 * (3 - (8 * position + bit) / 8) + (8 * position + bit) % 8 =
        8 * (3 - position) + bit := by omega
    rw [BitVec.getLsbD_setWidth, BitVec.getLsbD_setWidth, BitVec.getLsbD_ushiftRight,
      BitVec.getLsbD_ushiftRight]
    change (decide (bit < 8) && (htonl address).toBitVec.getLsbD
      ((UInt32.ofNat (8 * position)).toBitVec.toNat % 32 + bit)) = _
    rw [distance, getLsbD_htonl address (by omega), place]
  have width_eq : 256 ^ (4 - 1 - position) = 2 ^ (8 * (3 - position)) := by
    rw [Nat.pow_mul]
  rw [← UInt8.toNat_toBitVec, moved, BitVec.toNat_setWidth, BitVec.toNat_ushiftRight,
    Nat.shiftRight_eq_div_pow, UInt32.toNat_toBitVec, digit, width_eq]

theorem ip4Domain_eq {octets : Nat} (le : octets ≤ 4) (ip2 : UInt32) :
    ip4Domain octets ip2 = arpaName 10 inAddrArpa (leading 256 4 octets ip2.toNat) := by
  have labels_eq : ((range octets).reverse.map fun i =>
      label 10 (memoryByte (htonl ip2) i).toNat) =
        (leading 256 4 octets ip2.toNat).reverse.map (label 10) := by
    rw [leading, ← map_reverse, map_map]
    apply map_congr_left
    intro position mem
    have inside := mem_range.mp (mem_reverse.mp mem)
    rw [memoryByte_htonl ip2 (by omega)]
    rfl
  have bounded : ∀ text ∈ (leading 256 4 octets ip2.toNat).reverse.map (label 10),
      text.length ≤ 4 := by
    intro text mem
    obtain ⟨octet, octet_mem, rfl⟩ := mem_map.mp mem
    obtain ⟨index, -, rfl⟩ := mem_map.mp (mem_reverse.mp octet_mem)
    exact length_label_decimal (Nat.mod_lt _ (by decide))
  have written := written_name inAddrArpa bounded
  rw [length_map, length_reverse, length_leading] at written
  unfold ip4Domain
  dsimp only
  rw [labels_eq, written, arpaName]

/-- The loop takes the zones in their order until one has another prefix. -/
theorem ip4Loop_eq (octets : Nat) {ip mask step : UInt32} {zone : Nat → UInt32} {size : Nat}
    (next : ∀ index, zone index + step = zone (index + 1))
    (stays : ∀ index < size, zone index &&& mask = ip) (ends : zone size &&& mask ≠ ip)
    (left : Nat) {index fuel : Nat} (index_eq : index + left = size) (enough : left < fuel)
    (domains : List (List Char)) :
    ip4Loop octets ip mask step fuel (zone index) domains =
      some (domains ++ (List.range' index left).map fun index => ip4Domain octets (zone index)) := by
  induction left generalizing index fuel domains with
  | zero =>
    obtain ⟨fuel, rfl⟩ := Nat.exists_eq_succ_of_ne_zero (Nat.ne_of_gt enough)
    obtain rfl : index = size := index_eq
    rw [ip4Loop, if_neg ends]
    simp
  | succ left ih =>
    obtain ⟨fuel, rfl⟩ := Nat.exists_eq_succ_of_ne_zero (Nat.ne_of_gt (Nat.zero_lt_of_lt enough))
    rw [ip4Loop, if_pos (stays index (by omega)), next, ih (by omega) (by omega),
      range'_succ, map_cons, append_assoc]
    rfl

/-- Masking with leading ones clears the trailing bits. -/
theorem toNat_and_ones (value : UInt32) {count : UInt32} (small : count.toNat < 32) :
    (value &&& (0xFFFFFFFF <<< count)).toNat = value.toNat / 2 ^ count.toNat * 2 ^ count.toNat := by
  have shifted : (value &&& (0xFFFFFFFF <<< count)).toBitVec =
      (value.toBitVec >>> count.toNat) <<< count.toNat := by
    have distance : count.toBitVec.toNat % 32 = count.toNat := by
      rw [UInt32.toNat_toBitVec, Nat.mod_eq_of_lt small]
    rw [UInt32.toBitVec_and, UInt32.toBitVec_shiftLeft, BitVec.shiftLeft_eq', BitVec.toNat_umod]
    change value.toBitVec &&& (BitVec.allOnes 32 <<< (count.toBitVec.toNat % 32)) = _
    rw [distance]
    apply BitVec.eq_of_getLsbD_eq
    intro bit bit_lt
    rw [BitVec.getLsbD_and, BitVec.getLsbD_shiftLeft, BitVec.getLsbD_allOnes,
      BitVec.getLsbD_shiftLeft, BitVec.getLsbD_ushiftRight]
    by_cases trailing : bit < count.toNat
    · simp [trailing]
    · have back : count.toNat + (bit - count.toNat) = bit := by omega
      have inside : bit - count.toNat < 32 := by omega
      simp [trailing, back, inside, bit_lt]
  rw [← UInt32.toNat_toBitVec, shifted, BitVec.toNat_shiftLeft, BitVec.toNat_ushiftRight,
    Nat.shiftRight_eq_div_pow, Nat.shiftLeft_eq, UInt32.toNat_toBitVec]
  apply Nat.mod_eq_of_lt
  exact Nat.lt_of_le_of_lt (Nat.div_mul_le_self _ _) value.toNat_lt

theorem toNat_step {count : UInt32} (small : count.toNat < 32) :
    ((1 : UInt32) <<< (count &&& ~~~ 7)).toNat = 2 ^ (count.toNat / 8 * 8) := by
  have all : ∀ number < 32, ((1 : UInt32) <<< (UInt32.ofNat number &&& ~~~ 7)).toNat =
      2 ^ (number / 8 * 8) := by decide +kernel
  have step := all count.toNat small
  rwa [UInt32.ofNat_toNat] at step

theorem ip4_member_iff (a addr : InAddr) (plen : UInt8) :
    ip4AddressClearHostAddress a plen = ip4AddressClearHostAddress addr plen ↔
      (htonl a).toNat / 2 ^ (32 - plen.toNat) = (htonl addr).toNat / 2 ^ (32 - plen.toNat) := by
  have injective : ∀ x y : UInt32, x = y ↔ (htonl x).toNat = (htonl y).toNat := by
    intro x y
    rw [UInt32.toNat_inj]
    exact ⟨congrArg htonl, fun same => by rw [← htonl_htonl x, same, htonl_htonl]⟩
  rw [injective, toNat_clearHostAddress, toNat_clearHostAddress]
  exact Nat.mul_left_inj (Nat.ne_of_gt (Nat.two_pow_pos _))

/-- The sizes that belong to a prefix length: `host` bits are behind the prefix, and `unit` of them
are behind the labels of its zones. -/
structure Ip4Sizes (plen : UInt8) (host unit octets : Nat) : Prop where
  host_eq : host = 32 - plen.toNat
  host_lt : host < 32
  unit_le : unit ≤ host
  shift : (32 - plen.toUInt32).toNat = host
  step : ((1 : UInt32) <<< ((32 - plen.toUInt32) &&& ~~~ 7)).toNat = 2 ^ unit
  radix : 256 ^ (4 - octets) = 2 ^ unit
  octets_le : octets ≤ 4

theorem Ip4Sizes.of_plen {plen : UInt8} (one_le : 1 ≤ plen.toNat) (le : plen.toNat ≤ 32) :
    Ip4Sizes plen (32 - plen.toNat) ((32 - plen.toNat) / 8 * 8) ((plen.toNat - 1) / 8 + 1) := by
  have shift : (32 - plen.toUInt32).toNat = 32 - plen.toNat := by
    have plen_le : plen.toUInt32 ≤ 32 := by
      rw [UInt32.le_iff_toNat_le, UInt8.toNat_toUInt32]
      exact le
    rw [UInt32.toNat_sub_of_le _ _ plen_le, UInt8.toNat_toUInt32]
    rfl
  have host_lt : 32 - plen.toNat < 32 := by omega
  have unit_eq : 8 * (4 - ((plen.toNat - 1) / 8 + 1)) = (32 - plen.toNat) / 8 * 8 := by omega
  constructor
  case host_eq => rfl
  case host_lt => exact host_lt
  case unit_le => omega
  case shift => exact shift
  case step =>
    rw [toNat_step (by rw [shift]; exact host_lt), shift]
  case radix =>
    have power : 256 ^ (4 - ((plen.toNat - 1) / 8 + 1)) =
        2 ^ (8 * (4 - ((plen.toNat - 1) / 8 + 1))) := by rw [Nat.pow_mul]
    rw [power, unit_eq]
  case octets_le => omega

/-- The address at which a zone of an IPv4 prefix begins. -/
def ip4Zone (start unit index : Nat) : UInt32 := UInt32.ofNat (start + index * 2 ^ unit)

section Zones

variable {ip mask step : UInt32} {host unit : Nat}

variable (ip) in
theorem zone_lt (host_lt : host < 32) (unit_le : unit ≤ host) {index : Nat}
    (index_lt : index < 2 ^ (host - unit)) :
    ip.toNat / 2 ^ host * 2 ^ host + index * 2 ^ unit <
      (ip.toNat / 2 ^ host + 1) * 2 ^ host ∧ (ip.toNat / 2 ^ host + 1) * 2 ^ host ≤ 2 ^ 32 := by
  have power : 2 ^ host = 2 ^ (host - unit) * 2 ^ unit := by
    rw [← Nat.pow_add, Nat.sub_add_cancel unit_le]
  have whole : 2 ^ 32 = 2 ^ (32 - host) * 2 ^ host := by
    rw [← Nat.pow_add, Nat.sub_add_cancel host_lt.le]
  have within : index * 2 ^ unit < 2 ^ host := by
    rw [power]
    exact Nat.mul_lt_mul_of_pos_right index_lt (Nat.two_pow_pos unit)
  have quotient_lt : ip.toNat / 2 ^ host < 2 ^ (32 - host) := by
    rw [Nat.div_lt_iff_lt_mul (Nat.two_pow_pos host), ← whole]
    exact ip.toNat_lt
  constructor
  · rw [Nat.succ_mul]
    omega
  · rw [whole]
    exact Nat.mul_le_mul_right _ quotient_lt

variable (ip) in
theorem toNat_ip4Zone (host_lt : host < 32) (unit_le : unit ≤ host) {index : Nat}
    (index_lt : index < 2 ^ (host - unit)) :
    (ip4Zone (ip.toNat / 2 ^ host * 2 ^ host) unit index).toNat =
      ip.toNat / 2 ^ host * 2 ^ host + index * 2 ^ unit := by
  have inside := zone_lt ip host_lt unit_le index_lt
  rw [ip4Zone, UInt32.toNat_ofNat']
  exact Nat.mod_eq_of_lt (Nat.lt_of_lt_of_le inside.1 inside.2)

theorem ip4Zone_next (step_eq : step.toNat = 2 ^ unit) (start index : Nat) :
    ip4Zone start unit index + step = ip4Zone start unit (index + 1) := by
  rw [← UInt32.toNat_inj, UInt32.toNat_add, ip4Zone, ip4Zone, UInt32.toNat_ofNat',
    UInt32.toNat_ofNat', step_eq, Nat.mod_add_mod, Nat.succ_mul, Nat.add_assoc]

section

variable (mask_eq : ∀ value : UInt32, (value &&& mask).toNat = value.toNat / 2 ^ host * 2 ^ host)

include mask_eq

theorem ip4Zone_stays (host_lt : host < 32) (unit_le : unit ≤ host) {index : Nat}
    (index_lt : index < 2 ^ (host - unit)) :
    ip4Zone (ip.toNat / 2 ^ host * 2 ^ host) unit index &&& mask = ip &&& mask := by
  have inside := (zone_lt ip host_lt unit_le index_lt).1
  have quotient_eq : (ip.toNat / 2 ^ host * 2 ^ host + index * 2 ^ unit) / 2 ^ host =
      ip.toNat / 2 ^ host := by
    rw [Nat.div_eq_iff (Nat.two_pow_pos host)]
    rw [Nat.succ_mul] at inside
    omega
  rw [← UInt32.toNat_inj, mask_eq, mask_eq, toNat_ip4Zone ip host_lt unit_le index_lt, quotient_eq]

/-- Behind the last zone, there is another prefix, or the addresses begin again. -/
theorem ip4Zone_ends (host_lt : host < 32) (unit_le : unit ≤ host) :
    ip4Zone (ip.toNat / 2 ^ host * 2 ^ host) unit (2 ^ (host - unit)) &&& mask ≠ ip &&& mask := by
  have power : 2 ^ (host - unit) * 2 ^ unit = 2 ^ host := by
    rw [← Nat.pow_add, Nat.sub_add_cancel unit_le]
  have whole : 2 ^ 32 = 2 ^ (32 - host) * 2 ^ host := by
    rw [← Nat.pow_add, Nat.sub_add_cancel host_lt.le]
  have several : 2 ≤ 2 ^ (32 - host) := Nat.le_self_pow (by omega) 2
  intro same
  rw [← UInt32.toNat_inj, mask_eq, mask_eq, ip4Zone, UInt32.toNat_ofNat', power, ← Nat.succ_mul,
    whole, Nat.mul_mod_mul_right, Nat.mul_div_cancel _ (Nat.two_pow_pos host),
    Nat.mul_left_inj (Nat.ne_of_gt (Nat.two_pow_pos host))] at same
  have quotient_lt : ip.toNat / 2 ^ host < 2 ^ (32 - host) := by
    rw [Nat.div_lt_iff_lt_mul (Nat.two_pow_pos host), ← whole]
    exact ip.toNat_lt
  rcases Nat.lt_or_ge (ip.toNat / 2 ^ host + 1) (2 ^ (32 - host)) with within | wraps
  · rw [Nat.succ_eq_add_one, Nat.mod_eq_of_lt within] at same
    omega
  · have last : ip.toNat / 2 ^ host + 1 = 2 ^ (32 - host) := by omega
    rw [Nat.succ_eq_add_one, last, Nat.mod_self] at same
    omega

end

end Zones

/-- The zones of an IPv4 prefix are produced, and they cover the prefix. -/
theorem ip4_covers (addr : InAddr) {plen : UInt8} (one_le : 1 ≤ plen.toNat) (le : plen.toNat ≤ 32)
    (domains : List (List Char)) :
    ∃ added, (∀ fuel > 128,
        getReverseDnsDomainsIp4 addr plen domains fuel = some (domains ++ added)) ∧
      Cover ip4Name
        (fun a => ip4AddressClearHostAddress a plen = ip4AddressClearHostAddress addr plen)
        added := by
  have sizes := Ip4Sizes.of_plen one_le le
  have few : 32 - plen.toNat - (32 - plen.toNat) / 8 * 8 ≤ 7 := by omega
  have member_iff := fun a => ip4_member_iff a addr plen
  have plen_le : ¬ plen > 32 := by
    rw [gt_iff_lt, UInt8.lt_iff_toNat_lt]
    exact Nat.not_lt.mpr le
  have plen_ne : plen ≠ 0 := by
    rintro rfl
    exact absurd one_le (by decide)
  have loop_eq : ∀ fuel, getReverseDnsDomainsIp4 addr plen domains fuel =
      ip4Loop ((plen.toNat - 1) / 8 + 1) (htonl addr &&& (0xFFFFFFFF <<< (32 - plen.toUInt32)))
        (0xFFFFFFFF <<< (32 - plen.toUInt32)) (1 <<< ((32 - plen.toUInt32) &&& ~~~ 7)) fuel
        (htonl addr &&& (0xFFFFFFFF <<< (32 - plen.toUInt32))) domains := by
    intro fuel
    unfold getReverseDnsDomainsIp4
    rw [if_neg plen_le, if_neg plen_ne]
  simp only [loop_eq]
  generalize (plen.toNat - 1) / 8 + 1 = octets at sizes ⊢
  generalize (32 - plen.toNat) / 8 * 8 = unit at sizes few
  generalize 32 - plen.toNat = host at sizes few member_iff
  have mask_eq : ∀ value : UInt32, (value &&& (0xFFFFFFFF <<< (32 - plen.toUInt32))).toNat =
      value.toNat / 2 ^ host * 2 ^ host := by
    intro value
    rw [toNat_and_ones value (by rw [sizes.shift]; exact sizes.host_lt), sizes.shift]
  have size_le : 2 ^ (host - unit) ≤ 128 := Nat.pow_le_pow_right (by decide) few
  have size_pos : 0 < 2 ^ (host - unit) := Nat.two_pow_pos _
  have first : htonl addr &&& (0xFFFFFFFF <<< (32 - plen.toUInt32)) =
      ip4Zone ((htonl addr).toNat / 2 ^ host * 2 ^ host) unit 0 := by
    rw [← UInt32.toNat_inj, mask_eq, toNat_ip4Zone _ sizes.host_lt sizes.unit_le size_pos,
      Nat.zero_mul, Nat.add_zero]
  have stays : ∀ index < 2 ^ (host - unit),
      ip4Zone ((htonl addr).toNat / 2 ^ host * 2 ^ host) unit index &&&
        (0xFFFFFFFF <<< (32 - plen.toUInt32)) =
          htonl addr &&& (0xFFFFFFFF <<< (32 - plen.toUInt32)) := fun index lt =>
    ip4Zone_stays mask_eq sizes.host_lt sizes.unit_le lt
  have produced := fun fuel (enough : fuel > 128) =>
    ip4Loop_eq octets (ip4Zone_next sizes.step _) stays
      (ip4Zone_ends mask_eq sizes.host_lt sizes.unit_le) (2 ^ (host - unit)) (Nat.zero_add _)
      (Nat.lt_of_le_of_lt size_le enough) domains
  rw [← first] at produced
  refine ⟨_, produced, ?_⟩
  have zones_eq : ((range' 0 (2 ^ (host - unit))).map fun index => ip4Domain octets
      (ip4Zone ((htonl addr).toNat / 2 ^ host * 2 ^ host) unit index)) =
        (range (2 ^ (host - unit))).map fun index => arpaName 10 inAddrArpa
          (leading 256 4 octets
            ((htonl addr).toNat / 2 ^ host * 2 ^ host + index * 256 ^ (4 - octets))) := by
    rw [← range_eq_range']
    apply map_congr_left
    intro index mem
    rw [ip4Domain_eq sizes.octets_le,
      toNat_ip4Zone _ sizes.host_lt sizes.unit_le (mem_range.mp mem), sizes.radix]
  have power : 2 ^ host = 2 ^ (host - unit) * 2 ^ unit := by
    rw [← Nat.pow_add, Nat.sub_add_cancel sizes.unit_le]
  have whole : (256 : Nat) ^ 4 = 2 ^ 32 := by decide
  rw [zones_eq]
  refine cover_of_zones ((htonl addr).toNat / 2 ^ host) (by decide) (by decide) (by decide)
    size_pos sizes.octets_le ?_ ?_ ?_ ?_ ?_
  · intro a
    rw [whole]
    exact (htonl a).toNat_lt
  · intro number number_lt
    refine ⟨htonl (UInt32.ofNat number), ?_⟩
    rw [htonl_htonl, UInt32.toNat_ofNat']
    exact Nat.mod_eq_of_lt (whole ▸ number_lt)
  · intro index index_lt
    have inside := zone_lt (htonl addr) sizes.host_lt sizes.unit_le index_lt
    rw [sizes.radix, whole]
    exact Nat.lt_of_lt_of_le inside.1 inside.2
  · rw [sizes.radix, power, ← Nat.mul_assoc, Nat.mul_div_cancel _ (Nat.two_pow_pos unit)]
  · intro a
    rw [member_iff, sizes.radix, Nat.div_div_eq_div_mul, Nat.mul_comm (2 ^ unit), ← power]

end NetworkManager.ReverseDns
