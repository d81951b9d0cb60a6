import NetworkManager.Core.ReverseDnsIp4

/-!
# The reverse zones of IPv6 prefixes

The loop counts in the last half byte that the zones have, which has room for all of them.  The
bytes behind it are zero, and the half byte that may overflow is not written any more.
-/

namespace NetworkManager.ReverseDns

open Ascii DigitPrefix List

/-- The value of the lowest bit of a half byte. -/
def nibbleUnit (index : Nat) : Nat := if index % 2 ≠ 0 then 1 else 16

theorem nibbleUnit_cases (index : Nat) :
    index % 2 = 1 ∧ nibbleUnit index = 1 ∨ index % 2 = 0 ∧ nibbleUnit index = 16 := by
  unfold nibbleUnit
  split
  · left
    omega
  · right
    omega

theorem toNat_nibble (bytes : List UInt8) (index : Nat) :
    (nibble bytes index).toNat = (bytes.getD (index / 2) 0).toNat / nibbleUnit index % 16 := by
  have high : ∀ byte : UInt8, ((byte >>> 4) &&& 0xf).toNat = byte.toNat / 16 % 16 := by
    intro byte
    rw [UInt8.toNat_and, UInt8.toNat_shiftRight, Nat.shiftRight_eq_div_pow]
    exact Nat.and_two_pow_sub_one_eq_mod _ 4
  have low : ∀ byte : UInt8, ((byte >>> 0) &&& 0xf).toNat = byte.toNat / 1 % 16 := by
    intro byte
    rw [UInt8.shiftRight_zero, UInt8.toNat_and, Nat.div_one]
    exact Nat.and_two_pow_sub_one_eq_mod _ 4
  unfold nibble nShift nibbleUnit
  split
  · exact low _
  · exact high _

theorem toNat_nibbleStep (index : Nat) :
    ((1 : UInt8) <<< nShift index).toNat = nibbleUnit index := by
  unfold nShift nibbleUnit
  split
  · rfl
  · rfl

theorem nibble_bytes (addr : In6Addr) {index : Nat} (inside : index < 32) :
    (nibble (addr.bytes 16) index).toNat = digit 16 32 index addr.toNat := by
  have byte_eq : ((addr.bytes 16).getD (index / 2) 0).toNat =
      addr.toNat / 2 ^ (120 - 8 * (index / 2)) % 256 := by
    have half_lt : index / 2 < 16 := by omega
    rw [← In6Addr.byte_toNat, In6Addr.bytes, getD_eq_getElem?_getD, List.getElem?_map,
      List.getElem?_range half_lt]
    rfl
  have power : ∀ exponent : Nat, 16 ^ exponent = 2 ^ (4 * exponent) := by
    intro exponent
    rw [Nat.pow_mul]
  rw [toNat_nibble, byte_eq, digit, power]
  unfold nibbleUnit
  split
  · have place : 4 * (32 - 1 - index) = 120 - 8 * (index / 2) := by omega
    rw [place]
    omega
  · have place : 4 * (32 - 1 - index) = 120 - 8 * (index / 2) + 4 := by omega
    rw [place, Nat.pow_add, ← Nat.div_div_eq_div_mul]
    omega

variable {bytes : List UInt8}

/-- Counting up a half byte that has room leaves the half bytes in front of it. -/
theorem nibble_modify {last : Nat} (inside : last / 2 < bytes.length)
    (room : (nibble bytes last).toNat + 1 < 16) {index : Nat} (le : index ≤ last) :
    (nibble (bytes.modify (last / 2) (· + 1 <<< nShift last)) index).toNat =
      (nibble bytes index).toNat + if index = last then 1 else 0 := by
  have byte_lt := (bytes.getD (last / 2) 0).toNat_lt
  rw [toNat_nibble] at room
  rw [toNat_nibble, toNat_nibble]
  rcases Nat.lt_or_ge (index / 2) (last / 2) with other | same
  · have untouched : (bytes.modify (last / 2) (· + 1 <<< nShift last)).getD (index / 2) 0 =
        bytes.getD (index / 2) 0 := by
      rw [getD_eq_getElem?_getD, List.getElem?_modify_ne _ _ (Nat.ne_of_gt other),
        ← getD_eq_getElem?_getD]
    have index_ne : index ≠ last := by
      rintro rfl
      exact Nat.lt_irrefl _ other
    rw [untouched, if_neg index_ne, Nat.add_zero]
  · have same_byte : index / 2 = last / 2 := by omega
    have counted : ((bytes.modify (last / 2) (· + 1 <<< nShift last)).getD (last / 2) 0).toNat =
        (bytes.getD (last / 2) 0).toNat + nibbleUnit last := by
      have touched : (bytes.modify (last / 2) (· + 1 <<< nShift last)).getD (last / 2) 0 =
          bytes.getD (last / 2) 0 + 1 <<< nShift last := by
        rw [getD_eq_getElem?_getD, List.getElem?_modify_eq, List.getElem?_eq_getElem inside,
          getD_eq_getElem?_getD, List.getElem?_eq_getElem inside]
        rfl
      rw [touched, UInt8.toNat_add, toNat_nibbleStep]
      apply Nat.mod_eq_of_lt
      rcases nibbleUnit_cases last with ⟨-, unit_eq⟩ | ⟨-, unit_eq⟩
      · rw [unit_eq] at room ⊢
        omega
      · rw [unit_eq] at room ⊢
        omega
    rw [same_byte, counted]
    rcases Nat.lt_or_eq_of_le le with before | rfl
    · -- The half byte in front of it in the same byte is the high one.
      have index_even : index % 2 = 0 := by omega
      have last_odd : last % 2 = 1 := by omega
      rw [nibbleUnit, if_pos (by omega)] at room ⊢
      rw [nibbleUnit, if_neg (by omega), if_neg (by omega)]
      omega
    · rw [if_pos rfl]
      rcases nibbleUnit_cases index with ⟨-, unit_eq⟩ | ⟨-, unit_eq⟩
      · rw [unit_eq] at room ⊢
        omega
      · rw [unit_eq] at room ⊢
        omega

/-- The first half bytes of an address in memory are the first digits of a number. -/
structure Shows (count : Nat) (bytes : List UInt8) (number : Nat) : Prop where
  length_eq : bytes.length = 16
  nibble_eq : ∀ index < count, (nibble bytes index).toNat = digit 16 32 index number

theorem Shows.count_up {last number : Nat} (shows : Shows (last + 1) bytes number)
    (le : last + 1 ≤ 32) (room : digit 16 32 last number + 1 < 16) :
    Shows (last + 1) (bytes.modify (last / 2) (· + 1 <<< nShift last))
      (number + 16 ^ (32 - (last + 1))) := by
  have inside : last / 2 < bytes.length := by
    rw [shows.length_eq]
    omega
  have last_eq := shows.nibble_eq last (Nat.lt_succ_self last)
  have counted := digit_add_last le room
  constructor
  case length_eq => rw [length_modify, shows.length_eq]
  case nibble_eq =>
    intro index index_lt
    have index_le := Nat.le_of_lt_succ index_lt
    rw [nibble_modify inside (last_eq ▸ room) index_le, shows.nibble_eq index index_lt]
    rcases Nat.lt_or_eq_of_le index_le with before | rfl
    · rw [if_neg (Nat.ne_of_lt before), counted.2 index before]
      rfl
    · rw [if_pos rfl, counted.1]

theorem ip6Domain_eq {count number : Nat} (shows : Shows count bytes number) :
    ip6Domain count bytes = arpaName 16 ip6Arpa (leading 16 32 count number) := by
  have labels_eq : ((range count).reverse.map fun j => label 16 (nibble bytes j).toNat) =
      (leading 16 32 count number).reverse.map (label 16) := by
    rw [leading, ← map_reverse, map_map]
    apply map_congr_left
    intro index mem
    rw [shows.nibble_eq index (mem_range.mp (mem_reverse.mp mem))]
    rfl
  have bounded : ∀ text ∈ (leading 16 32 count number).reverse.map (label 16), text.length ≤ 2 := by
    intro text mem
    obtain ⟨half, half_mem, rfl⟩ := mem_map.mp mem
    obtain ⟨index, -, rfl⟩ := mem_map.mp (mem_reverse.mp half_mem)
    exact length_label_hex (Nat.mod_lt _ (by decide))
  have written := written_name ip6Arpa bounded
  rw [length_map, length_reverse, length_leading] at written
  unfold ip6Domain
  dsimp only
  rw [labels_eq, written, arpaName]

/-- The loop takes consecutive zones as long as the last half byte has room for them. -/
theorem ip6Loop_eq {last entries number : Nat} (shows : 0 < entries → Shows (last + 1) bytes number)
    (le : last + 1 ≤ 32) (room : digit 16 32 last number + entries ≤ 16)
    (domains : List (List Char)) :
    ip6Loop (last + 1) entries bytes domains =
      domains ++ (List.range entries).map fun index => arpaName 16 ip6Arpa
        (leading 16 32 (last + 1) (number + index * 16 ^ (32 - (last + 1)))) := by
  induction entries generalizing bytes number domains with
  | zero => simp [ip6Loop]
  | succ entries ih =>
    have own := shows (Nat.succ_pos entries)
    have counted : 0 < entries → Shows (last + 1)
        (bytes.modify (last / 2) (· + 1 <<< nShift last)) (number + 16 ^ (32 - (last + 1))) :=
      fun more => own.count_up le (by omega)
    have room_left : digit 16 32 last (number + 16 ^ (32 - (last + 1))) + entries ≤ 16 := by
      rcases Nat.eq_zero_or_pos entries with rfl | more
      · exact Nat.le_of_lt (Nat.mod_lt _ (by decide))
      · have room_one : digit 16 32 last number + 1 < 16 := by omega
        have next := (digit_add_last le room_one).1
        omega
    have rest := ih counted room_left (domains ++ [ip6Domain (last + 1) bytes])
    rw [ip6Loop, Nat.add_sub_cancel, rest, ip6Domain_eq own, range_succ_eq_map, map_cons, map_map,
      append_assoc, singleton_append, Nat.zero_mul, Nat.add_zero]
    congr 2
    apply map_congr_left
    intro index _
    rw [Function.comp_apply, Nat.succ_mul, Nat.add_assoc, Nat.add_comm (16 ^ _)]

theorem toNat_network (a : In6Addr) (prefixLength : Nat) : (a.network prefixLength).toNat =
    a.toNat / 2 ^ (128 - prefixLength) * 2 ^ (128 - prefixLength) := by
  rw [In6Addr.network, BitVec.toNat_shiftLeft, Nat.shiftLeft_eq, BitVec.toNat_ushiftRight,
    Nat.shiftRight_eq_div_pow]
  exact Nat.mod_eq_of_lt (Nat.lt_of_le_of_lt (Nat.div_mul_le_self _ _) a.isLt)

theorem ip6_member_iff (a ip : In6Addr) {plen : UInt8} (le : plen.toNat ≤ 128) :
    ip6AddressClearHostAddress a plen = ip6AddressClearHostAddress ip plen ↔
      a.toNat / 2 ^ (128 - plen.toNat) = ip.toNat / 2 ^ (128 - plen.toNat) := by
  rw [ip6AddressClearHostAddress_eq a le, ip6AddressClearHostAddress_eq ip le, Option.some_inj,
    ← BitVec.toNat_inj, toNat_network, toNat_network]
  exact Nat.mul_left_inj (Nat.ne_of_gt (Nat.two_pow_pos _))

/-- The zones of an IPv6 prefix are produced, and they cover the prefix. -/
theorem ip6_covers (ip : In6Addr) {plen : UInt8} (one_le : 1 ≤ plen.toNat) (le : plen.toNat ≤ 128)
    (domains : List (List Char)) :
    ∃ added, getReverseDnsDomainsIp6 ip plen domains = domains ++ added ∧
      Cover ip6Name
        (fun a => ip6AddressClearHostAddress a plen = ip6AddressClearHostAddress ip plen) added := by
  have member_iff := fun a => ip6_member_iff a ip le
  have plen_le : ¬ plen > 128 := by
    rw [gt_iff_lt, UInt8.lt_iff_toNat_lt]
    exact Nat.not_lt.mpr le
  have plen_ne : plen ≠ 0 := by
    rintro rfl
    exact absurd one_le (by decide)
  have host_lt : 128 - plen.toNat < 128 := by omega
  have last_eq : (plen.toNat - 1) / 4 + 1 ≤ 32 := by omega
  have unit_eq : 4 * (32 - ((plen.toNat - 1) / 4 + 1)) +
      (4 - (plen.toNat - (plen.toNat - 1) / 4 * 4)) = 128 - plen.toNat := by omega
  have cut_le : 4 - (plen.toNat - (plen.toNat - 1) / 4 * 4) ≤ 3 := by omega
  rw [ip6AddressClearHostAddress_eq ip le] at member_iff
  unfold getReverseDnsDomainsIp6
  rw [if_neg plen_le, if_neg plen_ne, ip6AddressClearHostAddress_eq ip le, Option.getD_some]
  dsimp only
  rw [Nat.one_shiftLeft]
  have start_eq := toNat_network ip plen.toNat
  generalize ip.network plen.toNat = network at start_eq member_iff ⊢
  generalize (plen.toNat - 1) / 4 = last at *
  generalize 4 - (plen.toNat - last * 4) = cut at *
  generalize 128 - plen.toNat = host at *
  have radix : 16 ^ (32 - (last + 1)) = 2 ^ (4 * (32 - (last + 1))) := by rw [Nat.pow_mul]
  have power : 2 ^ host = 2 ^ cut * 16 ^ (32 - (last + 1)) := by
    rw [radix, ← Nat.pow_add, Nat.add_comm cut, unit_eq]
  have unit_pos : 0 < 16 ^ (32 - (last + 1)) := Nat.pow_pos (by decide)
  have quotient_eq : network.toNat / 16 ^ (32 - (last + 1)) = ip.toNat / 2 ^ host * 2 ^ cut := by
    rw [start_eq, power, ← Nat.mul_assoc, Nat.mul_div_cancel _ unit_pos]
  have room : digit 16 32 last network.toNat + 2 ^ cut ≤ 16 := by
    have place : 32 - 1 - last = 32 - (last + 1) := by omega
    have sixteen : 16 = 2 ^ (4 - cut) * 2 ^ cut := by
      rw [← Nat.pow_add, Nat.sub_add_cancel (by omega)]
    have below := Nat.mod_lt (ip.toNat / 2 ^ host) (Nat.two_pow_pos (4 - cut))
    rw [digit, place, quotient_eq, sixteen, Nat.mul_mod_mul_right, ← Nat.succ_mul]
    exact Nat.mul_le_mul_right _ below
  have whole : 16 ^ 32 = 2 ^ (128 - host) * 2 ^ host := by
    have width : 16 ^ 32 = 2 ^ 128 := by decide
    rw [← Nat.pow_add, Nat.sub_add_cancel host_lt.le, width]
  have shows : Shows (last + 1) (network.bytes 16) network.toNat := by
    constructor
    case length_eq => rw [In6Addr.bytes, length_map, length_range]
    case nibble_eq =>
      intro index index_lt
      exact nibble_bytes network (Nat.lt_of_lt_of_le index_lt last_eq)
  refine ⟨_, ip6Loop_eq (fun _ => shows) last_eq room domains, ?_⟩
  refine cover_of_zones (ip.toNat / 2 ^ host) (by decide) (by decide) (by decide)
    (Nat.two_pow_pos cut) last_eq (fun a => a.isLt) ?_ ?_ quotient_eq ?_
  · intro number number_lt
    refine ⟨BitVec.ofNat 128 number, ?_⟩
    rw [BitVec.toNat_ofNat]
    exact Nat.mod_eq_of_lt number_lt
  · intro index index_lt
    have quotient_lt : ip.toNat / 2 ^ host < 2 ^ (128 - host) := by
      rw [Nat.div_lt_iff_lt_mul (Nat.two_pow_pos host), ← whole]
      exact ip.isLt
    have within : index * 16 ^ (32 - (last + 1)) < 2 ^ host := by
      rw [power]
      exact Nat.mul_lt_mul_of_pos_right index_lt unit_pos
    have inside : (ip.toNat / 2 ^ host + 1) * 2 ^ host ≤ 16 ^ 32 := by
      rw [whole]
      exact Nat.mul_le_mul_right _ quotient_lt
    rw [Nat.succ_mul] at inside
    omega
  · intro a
    rw [member_iff, Nat.div_div_eq_div_mul, Nat.mul_comm (16 ^ _), ← power]

/-- The zones of a prefix are produced after some turns, and each address of the prefix is in exactly
one of them, while they have no other addresses. -/
theorem zones_cover_prefix (plen : UInt8) (one_le : 1 ≤ plen.toNat) (domains : List (List Char)) :
    (∀ addr : InAddr, plen.toNat ≤ 32 →
      ∃ added turns, (∀ fuel > turns,
          getReverseDnsDomainsIp4 addr plen domains fuel = some (domains ++ added)) ∧
        Cover ip4Name
          (fun a => ip4AddressClearHostAddress a plen = ip4AddressClearHostAddress addr plen)
          added) ∧
    (∀ ip : In6Addr, plen.toNat ≤ 128 →
      ∃ added, getReverseDnsDomainsIp6 ip plen domains = domains ++ added ∧
        Cover ip6Name
          (fun a => ip6AddressClearHostAddress a plen = ip6AddressClearHostAddress ip plen)
          added) := by
  constructor
  · intro addr le
    obtain ⟨added, produced, cover⟩ := ip4_covers addr one_le le domains
    exact ⟨added, 128, produced, cover⟩
  · intro ip le
    exact ip6_covers ip one_le le domains

/-- The two halves of `10.0.0.0/7`, and the zones of an IPv6 prefix that cuts a half byte. -/
theorem zones_cover_prefix_seven :
    (∃ added turns, (∀ fuel > turns,
        getReverseDnsDomainsIp4 (htonl 0x0A000000) 7 [] fuel = some ([] ++ added)) ∧
      Cover ip4Name (fun a =>
        ip4AddressClearHostAddress a 7 = ip4AddressClearHostAddress (htonl 0x0A000000) 7) added) ∧
    (∃ added, getReverseDnsDomainsIp6 (0xFC#128 <<< 120) 7 [] = [] ++ added ∧
      Cover ip6Name (fun a =>
        ip6AddressClearHostAddress a 7 = ip6AddressClearHostAddress (0xFC#128 <<< 120) 7) added) := by
  have zones := zones_cover_prefix 7 (by decide) []
  exact ⟨zones.1 (htonl 0x0A000000) (by decide), zones.2 (0xFC#128 <<< 120) (by decide)⟩

end NetworkManager.ReverseDns
