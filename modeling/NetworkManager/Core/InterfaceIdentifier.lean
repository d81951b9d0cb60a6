import NetworkManager.Platform.PrefixOrder

/-!
# Interface identifiers

The identifier of an interface is made from its hardware address.  The hardware address of a GRE
link is an IPv4 address, and the identifier says whether it is a global one.  Which addresses are
not global is looked up in a table of masks and networks.  The braces of the table close after
every number: each row of it has a mask, or what was meant as a network, and no network.
-/

namespace NetworkManager.InterfaceIdentifier

/-- A row of the table in `get_gre_eui64_u_bit`.  A member that is not initialized is zero. -/
structure Item where
  mask : UInt32
  result : UInt32 := 0
  deriving DecidableEq, Repr

/-- The rows of the table. -/
def items : List Item := [ { mask := 0xff000000 }, { mask := 0x7f000000 },
  { mask := 0xf0000000 }, { mask := 0xe0000000 },
  { mask := 0xffffff00 }, { mask := 0xe0000000 },
  { mask := 0xffffffff }, { mask := 0xffffffff },
  { mask := 0xff000000 }, { mask := 0x00000000 },
  { mask := 0xff000000 }, { mask := 0x0a000000 },
  { mask := 0xfff00000 }, { mask := 0xac100000 },
  { mask := 0xffff0000 }, { mask := 0xc0a80000 },
  { mask := 0xffff0000 }, { mask := 0xa9fe0000 },
  { mask := 0xffffff00 }, { mask := 0xc0586300 },
  { mask := 0xffffff00 }, { mask := 0xc0000200 },
  { mask := 0xfffe0000 }, { mask := 0xc6120000 }]

/-- The loop of `get_gre_eui64_u_bit`, from a row on. -/
def uBitFrom (addr : InAddr) : List Item → UInt8
  | [] => 0x02
  | item :: rest =>
    if addr &&& htonl item.mask = htonl item.result then 0x00 else uBitFrom addr rest

/-- `get_gre_eui64_u_bit`. -/
def getGreEui64UBit (addr : InAddr) : UInt8 :=
  uBitFrom addr items

/-- `ETH_ALEN`. -/
def ethAlen : Nat := 6

/-- `INFINIBAND_ALEN`. -/
def infinibandAlen : Nat := 20

/-- `NMUtilsIPv6IfaceId`. -/
abbrev IfaceId := Vector UInt8 8

/-- Four bytes, read as one word on a little endian machine. -/
def readWord (memory : Nat → UInt8) : UInt32 :=
  (memory 0).toUInt32 ||| ((memory 1).toUInt32 <<< 8) ||| ((memory 2).toUInt32 <<< 16) |||
    ((memory 3).toUInt32 <<< 24)

/-- The byte of a word at a position, on a little endian machine. -/
def wordByte (word : UInt32) (position : Nat) : UInt8 :=
  (word >>> (8 * UInt32.ofNat position)).toUInt8

/-- `nm_utils_get_ipv6_interface_identifier`.  The hardware address is the memory from its first
byte on, since it is not always read within its length. -/
def getIpv6InterfaceIdentifier (linkType : NMLinkType) (hwaddr : Nat → UInt8) (hwaddrLen : Nat)
    (devId : UInt32) (out : IfaceId) : Bool × IfaceId :=
  let zeroed : IfaceId := Vector.replicate 8 0
  if hwaddrLen = 0 then (false, out)
  else
    match linkType with
    | .infiniband =>
      if hwaddrLen ≠ infinibandAlen then (false, zeroed)
      else
        let copied : IfaceId := Vector.ofFn fun index => hwaddr (infinibandAlen - 8 + index)
        (true, copied.set 0 (copied[0] ||| 0x02))
    | .gre =>
      if hwaddrLen ≠ 4 then (false, zeroed)
      else
        let addr := readWord hwaddr
        (true, #v[getGreEui64UBit addr, 0x00, 0x5E, 0xFE,
          wordByte addr 0, wordByte addr 1, wordByte addr 2, wordByte addr 3])
    | .sixLowpan => (true, Vector.ofFn fun index => hwaddr index)
    | _ =>
      if hwaddrLen = ethAlen then
        if devId ≠ 0 then
          (true, #v[hwaddr 0, hwaddr 1, hwaddr 2, ((devId >>> 8) &&& 0xff).toUInt8,
            (devId &&& 0xff).toUInt8, hwaddr 3, hwaddr 4, hwaddr 5])
        else
          (true, #v[hwaddr 0 ^^^ 0x02, hwaddr 1, hwaddr 2, 0xff, 0xfe, hwaddr 3, hwaddr 4,
            hwaddr 5])
      else (false, zeroed)

/-- The ranges of addresses that are not global, as the comments of the table name them. -/
def specialPurposeRanges : List Item := [
  -- IPv4 loopback
  { mask := 0xff000000, result := 0x7f000000 },
  -- IPv4 multicast
  { mask := 0xf0000000, result := 0xe0000000 },
  -- IPv4 local multicast
  { mask := 0xffffff00, result := 0xe0000000 },
  -- limited broadcast
  { mask := 0xffffffff, result := 0xffffffff },
  -- zero net
  { mask := 0xff000000, result := 0x00000000 },
  -- private 10
  { mask := 0xff000000, result := 0x0a000000 },
  -- private 172
  { mask := 0xfff00000, result := 0xac100000 },
  -- private 192
  { mask := 0xffff0000, result := 0xc0a80000 },
  -- IPv4 link-local
  { mask := 0xffff0000, result := 0xa9fe0000 },
  -- anycast 6-to-4
  { mask := 0xffffff00, result := 0xc0586300 },
  -- test 192
  { mask := 0xffffff00, result := 0xc0000200 },
  -- test 198
  { mask := 0xfffe0000, result := 0xc6120000 }]

/-- An address in host byte order belongs to the range of a row. -/
def Item.Covers (item : Item) (addr : UInt32) : Prop :=
  addr &&& item.mask = item.result

instance (item : Item) (addr : UInt32) : Decidable (item.Covers addr) :=
  inferInstanceAs (Decidable (_ = _))

/-- An address is in one of the ranges that are not global. -/
def SpecialPurpose (addr : InAddr) : Prop :=
  ∃ range ∈ specialPurposeRanges, range.Covers (htonl addr)

instance (addr : InAddr) : Decidable (SpecialPurpose addr) :=
  inferInstanceAs (Decidable (∃ range ∈ specialPurposeRanges, range.Covers (htonl addr)))

/-- The function returns the u-bit for an address exactly if the address is global, and so does the
identifier of every GRE link with the address carry it. -/
structure UBitMarksGlobal (addr : InAddr) : Prop where
  returned : getGreEui64UBit addr = 0x02 ↔ ¬ SpecialPurpose addr
  carried : ∀ hwaddr devId out, readWord hwaddr = addr →
    ∃ iid, getIpv6InterfaceIdentifier .gre hwaddr 4 devId out = (true, iid) ∧
      (iid[0] &&& 0x02 ≠ 0 ↔ ¬ SpecialPurpose addr)

variable (addr : InAddr)

/-- The loop finds the address global exactly if no row matches. -/
theorem uBitFrom_eq_two_iff (rows : List Item) :
    uBitFrom addr rows = 0x02 ↔ ∀ item ∈ rows, addr &&& htonl item.mask ≠ htonl item.result := by
  induction rows with
  | nil => simp [uBitFrom]
  | cons item rest ih =>
    rw [uBitFrom, List.forall_mem_cons]
    split
    case isTrue matched =>
      constructor
      · intro same
        exact absurd same (by decide)
      · intro unmatched
        exact absurd matched unmatched.1
    case isFalse unmatched =>
      rw [ih]
      exact (and_iff_right unmatched).symm

/-- The loop returns nothing but the two values of the bit. -/
theorem uBitFrom_eq_zero_or_two (rows : List Item) :
    uBitFrom addr rows = 0x00 ∨ uBitFrom addr rows = 0x02 := by
  induction rows with
  | nil => exact Or.inr rfl
  | cons item rest ih =>
    rw [uBitFrom]
    split
    · exact Or.inl rfl
    · exact ih

/-- The row with the mask zero, which was meant as the network of the zero net, matches every
address. -/
theorem getGreEui64UBit_eq_zero : getGreEui64UBit addr = 0x00 := by
  have zero_row : ({ mask := 0x00000000 } : Item) ∈ items := by decide
  have not_two : uBitFrom addr items ≠ 0x02 := by
    intro two
    have unmatched := (uBitFrom_eq_two_iff addr items).mp two _ zero_row
    apply unmatched
    have zero_order : htonl 0 = 0 := by decide
    rw [zero_order, UInt32.and_zero]
  exact (uBitFrom_eq_zero_or_two addr items).resolve_right not_two

theorem gre_identifier (hwaddr : Nat → UInt8) (devId : UInt32) (out : IfaceId) :
    ∃ iid, getIpv6InterfaceIdentifier .gre hwaddr 4 devId out = (true, iid) ∧ iid[0] = 0x00 :=
  ⟨_, rfl, getGreEui64UBit_eq_zero (readWord hwaddr)⟩

theorem getGreEui64UBit_ne_two : getGreEui64UBit addr ≠ 0x02 := by
  rw [getGreEui64UBit_eq_zero]
  decide

/-- The u-bit is right exactly for the addresses that are not global. -/
theorem uBitMarksGlobal_iff (addr : InAddr) : UBitMarksGlobal addr ↔ SpecialPurpose addr := by
  constructor
  · intro marks
    by_contra global
    exact getGreEui64UBit_ne_two addr (marks.returned.mpr global)
  · intro special
    constructor
    · exact iff_of_false (getGreEui64UBit_ne_two addr) (not_not.mpr special)
    · intro hwaddr devId out _
      obtain ⟨iid, computed, first_byte⟩ := gre_identifier hwaddr devId out
      have unset : ¬ iid[0] &&& 0x02 ≠ 0 := by
        rw [first_byte]
        decide
      exact ⟨iid, computed, iff_of_false unset (not_not.mpr special)⟩

/-- The address `8.8.8.8` is global, and its bit is not set. -/
theorem uBitMarksGlobal_fails : ¬ ∀ addr, UBitMarksGlobal addr := by
  intro always
  have global : ¬ SpecialPurpose (htonl 0x08080808) := by decide
  exact getGreEui64UBit_ne_two _ ((always (htonl 0x08080808)).returned.mpr global)

end NetworkManager.InterfaceIdentifier
