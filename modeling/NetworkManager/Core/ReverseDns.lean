import NetworkManager.Core.Ascii
import NetworkManager.Library.DigitPrefix
import NetworkManager.Platform.PrefixCompare

/-!
# Reverse zones

The names of addresses in the reverse zones of the domain name system have a label for each byte of
an IPv4 address, or for each half byte of an IPv6 address, the last one first.  A prefix that ends
between two labels is covered by several zones, one for each value of the label that it cuts.  The
zones are counted up in the address itself, and their names are written to buffers of just the right
size.
-/

namespace NetworkManager.ReverseDns

open Ascii DigitPrefix List

/-- A buffer of characters: what was written, and the bytes that are left, the terminator
included. -/
structure StrBuf where
  text : List Char := []
  len : Nat
  deriving DecidableEq, Repr

/-- `nm_utils_strbuf_append` and `nm_utils_strbuf_append_str`.  What does not fit is cut off, and
then nothing more is written. -/
def StrBuf.append (buf : StrBuf) (str : List Char) : StrBuf :=
  if buf.len = 0 then buf
  else if str.length ≥ buf.len then ⟨buf.text ++ str.take (buf.len - 1), 0⟩
  else ⟨buf.text ++ str, buf.len - str.length⟩

/-- A label for `"%u."` or `"%x."`. -/
def label (base number : Nat) : List Char := Nat.toDigits base number ++ ['.']

/-- `"in-addr.arpa"`. -/
def inAddrArpa : List Char := "in-addr.arpa".toList

def memoryByte (addr : InAddr) (position : Nat) : UInt8 :=
  (addr >>> UInt32.ofNat (8 * position)).toUInt8

/-- The text that is written for one address in the loop of
`nm_utils_get_reverse_dns_domains_ip4`. -/
def ip4Domain (octets : Nat) (ip2 : UInt32) : List Char :=
  let addr := htonl ip2
  let labels := (List.range octets).reverse.map fun i => label 10 (memoryByte addr i).toNat
  let buf := labels.foldl StrBuf.append { len := inAddrArpa.length + 4 * octets + 1 }
  (buf.append inAddrArpa).text

/-- The loop of `nm_utils_get_reverse_dns_domains_ip4`, for at most as many turns as the fuel
says. -/
def ip4Loop (octets : Nat) (ip mask step : UInt32) :
    Nat → UInt32 → List (List Char) → Option (List (List Char))
  | 0, _, _ => none
  | fuel + 1, ip2, domains =>
    if ip2 &&& mask = ip then
      ip4Loop octets ip mask step fuel (ip2 + step) (domains ++ [ip4Domain octets ip2])
    else some domains

/-- `nm_utils_get_reverse_dns_domains_ip4`: the domains with those that are appended, if the loop
ends within the fuel. -/
def getReverseDnsDomainsIp4 (addr : InAddr) (plen : UInt8) (domains : List (List Char))
    (fuel : Nat) : Option (List (List Char)) :=
  if plen > 32 then some domains
  else if plen = 0 then some domains
  else
    let octets := (plen.toNat - 1) / 8 + 1
    let mask : UInt32 := 0xFFFFFFFF <<< (32 - plen.toUInt32)
    let ip := htonl addr &&& mask
    let step : UInt32 := 1 <<< ((32 - plen.toUInt32) &&& ~~~ 7)
    ip4Loop octets ip mask step fuel ip domains

/-- `"ip6.arpa"`. -/
def ip6Arpa : List Char := "ip6.arpa".toList

/-- `N_SHIFT`. -/
def nShift (index : Nat) : UInt8 := if index % 2 ≠ 0 then 0 else 4

/-- A half byte of an address. -/
def nibble (addr : List UInt8) (index : Nat) : UInt8 :=
  (addr.getD (index / 2) 0 >>> nShift index) &&& 0xf

/-- The text that is written for one address in the loop of
`nm_utils_get_reverse_dns_domains_ip6`. -/
def ip6Domain (nibbles : Nat) (addr : List UInt8) : List Char :=
  let labels := (List.range nibbles).reverse.map fun j => label 16 (nibble addr j).toNat
  let buf := labels.foldl StrBuf.append { len := ip6Arpa.length + 2 * nibbles + 1 }
  (buf.append ip6Arpa).text

/-- The loop of `nm_utils_get_reverse_dns_domains_ip6`. -/
def ip6Loop (nibbles : Nat) : Nat → List UInt8 → List (List Char) → List (List Char)
  | 0, _, domains => domains
  | entries + 1, addr, domains =>
    ip6Loop nibbles entries
      (addr.modify ((nibbles - 1) / 2) (· + 1 <<< nShift (nibbles - 1)))
      (domains ++ [ip6Domain nibbles addr])

/-- `nm_utils_get_reverse_dns_domains_ip6`: the domains with those that are appended. -/
def getReverseDnsDomainsIp6 (ip : In6Addr) (plen : UInt8) (domains : List (List Char)) :
    List (List Char) :=
  if plen > 128 then domains
  else if plen = 0 then domains
  else
    let addr := (ip6AddressClearHostAddress ip plen).getD ip
    let nibbles := (plen.toNat - 1) / 4 + 1
    let bits := plen.toNat - (plen.toNat - 1) / 4 * 4
    let entries := 1 <<< (4 - bits)
    ip6Loop nibbles entries (addr.bytes 16) domains

/-- The name with a label for each digit, the last one first. -/
def arpaName (base : Nat) (arpa : List Char) (digits : List Nat) : List Char :=
  (digits.reverse.map (label base)).flatten ++ arpa

def ip4Name (addr : InAddr) : List Char :=
  arpaName 10 inAddrArpa (leading 256 4 4 (htonl addr).toNat)

def ip6Name (addr : In6Addr) : List Char := arpaName 16 ip6Arpa (leading 16 32 32 addr.toNat)

def LabelSuffix (domain name : List Char) : Prop := domain.splitOn '.' <:+ name.splitOn '.'

instance (domain name : List Char) : Decidable (LabelSuffix domain name) :=
  inferInstanceAs (Decidable (_ <:+ _))

/-- Domains cover a set of addresses exactly: every domain is the zone of an address of the set, and
each address of the set is in exactly one zone, while other addresses are in none. -/
structure Cover {Addr : Type} (name : Addr → List Char) (member : Addr → Prop)
    (domains : List (List Char)) : Prop where
  complete : ∀ domain ∈ domains, ∃ addr, member addr ∧ LabelSuffix domain (name addr)
  once_iff : ∀ addr, member addr ↔ domains.countP (fun domain => LabelSuffix domain (name addr)) = 1
  none_iff : ∀ addr,
    ¬ member addr ↔ domains.countP (fun domain => LabelSuffix domain (name addr)) = 0

theorem splitOn_labels {texts : List (List Char)} (dotless : ∀ text ∈ texts, '.' ∉ text)
    (rest : List Char) :
    ((texts.map (· ++ ['.'])).flatten ++ rest).splitOn '.' = texts ++ rest.splitOn '.' := by
  induction texts with
  | nil => rfl
  | cons text texts ih =>
    have own : ∀ c ∈ text, (c == '.') = false := by
      intro c mem
      rw [beq_eq_false_iff_ne]
      rintro rfl
      exact dotless text mem_cons_self mem
    have others := ih fun other mem => dotless other (mem_cons_of_mem _ mem)
    rw [map_cons, flatten_cons, append_assoc, append_assoc, singleton_append, splitOn_eq_splitOnP,
      splitOnP_append_cons_of_forall_mem own '.' (beq_self_eq_true _),
      ← splitOn_eq_splitOnP, others, cons_append]

variable {base : Nat} {arpa : List Char}

theorem splitOn_arpaName (one_lt : 1 < base) (small : base ≤ 16) (digits : List Nat) :
    (arpaName base arpa digits).splitOn '.' =
      digits.reverse.map (Nat.toDigits base) ++ arpa.splitOn '.' := by
  have dotless : ∀ text ∈ digits.reverse.map (Nat.toDigits base), '.' ∉ text := by
    intro text mem dot_mem
    obtain ⟨digit, -, rfl⟩ := mem_map.mp mem
    have below := digitValue_lt_of_mem_toDigits one_lt small dot_mem
    have dot_value : digitValue '.' = 36 := by decide
    omega
  have labels : digits.reverse.map (label base) =
      (digits.reverse.map (Nat.toDigits base)).map (· ++ ['.']) := by
    rw [map_map]
    rfl
  rw [arpaName, labels, splitOn_labels dotless]

theorem toDigits_injective (one_lt : 1 < base) (small : base ≤ 16) :
    Function.Injective (Nat.toDigits base) := by
  intro x y same
  have values := congrArg (digitsValue base) same
  rwa [digitsValue_toDigits x one_lt small, digitsValue_toDigits y one_lt small] at values

theorem labelSuffix_iff (one_lt : 1 < base) (small : base ≤ 16) (zone digits : List Nat) :
    LabelSuffix (arpaName base arpa zone) (arpaName base arpa digits) ↔ zone <+: digits := by
  unfold LabelSuffix
  rw [splitOn_arpaName one_lt small, splitOn_arpaName one_lt small, suffix_append_self_iff,
    suffix_map_iff_of_injective (toDigits_injective one_lt small), reverse_suffix]

theorem cover_of_zones {Addr : Type} {value : Addr → Nat} {member : Addr → Prop}
    {radix width count size start : Nat} (quotient : Nat) (one_lt : 1 < base) (small : base ≤ 16)
    (radix_pos : 0 < radix) (size_pos : 0 < size) (le : count ≤ width) (bounded : ∀ addr, value addr < radix ^ width)
    (onto : ∀ number < radix ^ width, ∃ addr, value addr = number)
    (start_lt : ∀ index < size, start + index * radix ^ (width - count) < radix ^ width)
    (start_eq : start / radix ^ (width - count) = quotient * size)
    (member_iff : ∀ addr, member addr ↔ value addr / radix ^ (width - count) / size = quotient) :
    Cover (fun addr => arpaName base arpa (leading radix width width (value addr))) member
      ((List.range size).map fun index =>
        arpaName base arpa (leading radix width count (start + index * radix ^ (width - count)))) := by
  have unit_pos : 0 < radix ^ (width - count) := Nat.pow_pos radix_pos
  have suffix_iff : ∀ index < size, ∀ addr,
      LabelSuffix
          (arpaName base arpa (leading radix width count (start + index * radix ^ (width - count))))
          (arpaName base arpa (leading radix width width (value addr))) ↔
        quotient * size + index = value addr / radix ^ (width - count) := by
    intro index index_lt addr
    rw [labelSuffix_iff one_lt small, prefix_iff_eq_take, length_leading, take_leading le,
      leading_eq_iff le (start_lt index index_lt) (bounded addr),
      Nat.add_mul_div_right _ _ unit_pos, start_eq]
  have count_eq : ∀ addr, ((range size).map fun index => arpaName base arpa
      (leading radix width count (start + index * radix ^ (width - count)))).countP
        (fun domain => LabelSuffix domain
          (arpaName base arpa (leading radix width width (value addr)))) =
      if value addr / radix ^ (width - count) / size = quotient then 1 else 0 := by
    intro addr
    rw [countP_map, ← if_congr (quotients_iff size quotient _ size_pos) rfl rfl, ← countP_range_eq]
    apply countP_congr
    intro index mem
    rw [Function.comp_apply, decide_eq_true_iff, decide_eq_true_iff]
    exact suffix_iff index (mem_range.mp mem) addr
  constructor
  case complete =>
    intro domain mem
    obtain ⟨index, index_mem, rfl⟩ := mem_map.mp mem
    have index_lt := mem_range.mp index_mem
    obtain ⟨addr, addr_value⟩ := onto _ (start_lt index index_lt)
    have quotient_eq : quotient * size + index = value addr / radix ^ (width - count) := by
      rw [addr_value, Nat.add_mul_div_right _ _ unit_pos, start_eq]
    refine ⟨addr, (member_iff addr).mpr ?_, (suffix_iff index index_lt addr).mpr quotient_eq⟩
    rw [← quotient_eq, Nat.mul_comm, Nat.mul_add_div size_pos, Nat.div_eq_of_lt index_lt,
      Nat.add_zero]
  case once_iff =>
    intro addr
    rw [member_iff, count_eq]
    split <;> simp_all
  case none_iff =>
    intro addr
    rw [member_iff, count_eq]
    split <;> simp_all

end NetworkManager.ReverseDns
