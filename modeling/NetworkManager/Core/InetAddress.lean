import NetworkManager.Core.Ascii

/-!
# Internet addresses as text

An address has 4 or 16 bytes, depending on its family, and is kept in a union that has room for
both.  The conversions between the bytes and the text are those of the C library; here they are a
parameter, with the documented properties that the program relies on.
-/

namespace NetworkManager.InetAddress

open Ascii

inductive AddrFamily where
  | inet
  | inet6
  deriving DecidableEq, Repr

def AddrFamily.number : AddrFamily → Int
  | .inet => 2
  | .inet6 => 10

/-- `nm_utils_addr_family_to_size`. -/
def AddrFamily.size : AddrFamily → Nat
  | .inet => 4
  | .inet6 => 16

theorem AddrFamily.size_le (family : AddrFamily) : family.size ≤ 16 := by
  cases family <;> decide

/-- `NMIPAddr`, a union of the addresses of both families. -/
structure NMIPAddr where
  bytes : Vector UInt8 16
  deriving DecidableEq, Repr

namespace NMIPAddr

/-- The address with all bytes zero. -/
def zero : NMIPAddr := ⟨Vector.replicate 16 0⟩

/-- The bytes that make up the address of a family. -/
def address (addr : NMIPAddr) (family : AddrFamily) : Vector UInt8 family.size :=
  Vector.ofFn fun index => addr.bytes[index.castLE family.size_le]

/-- `nm_ip_addr_set`. -/
def ipAddrSet (family : AddrFamily) (dst : NMIPAddr) (src : Vector UInt8 family.size) : NMIPAddr :=
  ⟨Vector.ofFn fun index =>
    if inside : index.val < family.size then src[index.val] else dst.bytes[index.val]⟩

/-- `nm_ip_addr_is_null`. -/
def isNull (addr : NMIPAddr) (family : AddrFamily) : Bool :=
  addr.address family = Vector.replicate family.size 0

@[simp] theorem address_ipAddrSet (family : AddrFamily) (dst : NMIPAddr)
    (src : Vector UInt8 family.size) : (ipAddrSet family dst src).address family = src := by
  apply Vector.ext
  intro index inside
  simp [address, ipAddrSet]

end NMIPAddr

/-- The conversions between addresses and text. -/
structure Inet where
  /-- `inet_ntop`. -/
  ntop : (family : AddrFamily) → Vector UInt8 family.size → List Char
  /-- `inet_pton`, without a value unless it returns 1. -/
  pton : (family : AddrFamily) → List Char → Option (Vector UInt8 family.size)

/-- The text of the address with all bytes zero. -/
def anyAddress : AddrFamily → List Char
  | .inet => ['0', '.', '0', '.', '0', '.', '0']
  | .inet6 => [':', ':']

/-- What is documented about the conversions. -/
structure Inet.Lawful (inet : Inet) : Prop where
  /-- The text of an address is read back. -/
  pton_ntop : ∀ family address, inet.pton family (inet.ntop family address) = some address
  /-- The address with all bytes zero is read. -/
  pton_any : ∀ family, inet.pton family (anyAddress family) = some (Vector.replicate family.size 0)
  ntop_ne_nil : ∀ family address, inet.ntop family address ≠ []
  /-- An address is written with hexadecimal digits, dots and colons. -/
  ntop_chars : ∀ family address, ∀ c ∈ inet.ntop family address,
    digitValue c < 16 ∨ c = '.' ∨ c = ':'
  /-- The address of a host in the newer protocol has a colon, and the other has none. -/
  colon_iff : ∀ family address, ':' ∈ inet.ntop family address ↔ family = .inet6

def familyOf (family : Option AddrFamily) (text : List Char) : AddrFamily :=
  family.getD (if ':' ∈ text then .inet6 else .inet)

variable (inet : Inet)

/-- `nm_utils_parse_inaddr_bin`. -/
def parseInaddrBin (family : Option AddrFamily) (text : List Char) (out : NMIPAddr) :
    Option (AddrFamily × NMIPAddr) :=
  (inet.pton (familyOf family text) text).map fun address =>
    (familyOf family text, NMIPAddr.ipAddrSet (familyOf family text) out address)

/-- `nm_utils_parse_inaddr_prefix_bin`.  The prefix length is -1 if there is none in the text. -/
def parseInaddrPrefixBin (family : Option AddrFamily) (text : List Char) (out : NMIPAddr) :
    Option (AddrFamily × NMIPAddr × Int) :=
  let family := familyOf family text
  let (addrstr, slash) := cutAt '/' text
  match inet.pton family addrstr with
  | none => none
  | some address =>
    match slash with
    | none => some (family, NMIPAddr.ipAddrSet family out address, -1)
    | some digits =>
      let prefixLength := strToInt64 digits 10 0 (if family = .inet then 32 else 128) (-1)
      if prefixLength = -1 then none
      else some (family, NMIPAddr.ipAddrSet family out address, prefixLength)

structure Denotes (family : AddrFamily) (text : List Char) (address : Vector UInt8 family.size) :
    Prop where
  read : inet.pton family text = some address
  nonempty : text ≠ []
  chars : ∀ c ∈ text, digitValue c < 16 ∨ c = '.' ∨ c = ':'
  colon_iff : ':' ∈ text ↔ family = .inet6

variable {inet} {family : AddrFamily} {text : List Char} {address : Vector UInt8 family.size}

theorem denotes_ntop (lawful : inet.Lawful) (address : Vector UInt8 family.size) :
    Denotes inet family (inet.ntop family address) address :=
  ⟨lawful.pton_ntop family address, lawful.ntop_ne_nil family address,
    lawful.ntop_chars family address, lawful.colon_iff family address⟩

theorem denotes_any (lawful : inet.Lawful) (family : AddrFamily) :
    Denotes inet family (anyAddress family) (Vector.replicate family.size 0) := by
  refine ⟨lawful.pton_any family, ?_, ?_, ?_⟩
  · cases family <;> exact List.cons_ne_nil _ _
  · cases family <;> simp [anyAddress, digitValue]
  · cases family <;> simp [anyAddress]

theorem Denotes.not_mem (denotes : Denotes inet family text address) {c : Char}
    (other : ¬ (digitValue c < 16 ∨ c = '.' ∨ c = ':')) : c ∉ text :=
  fun mem => other (denotes.chars c mem)

variable {given : Option AddrFamily} {groups : List Nat}

theorem Denotes.familyOf_eq (denotes : Denotes inet family text address)
    (compatible : given = none ∨ given = some family) {rest : List Char} (no_colon : ':' ∉ rest) :
    familyOf given (text ++ rest) = family := by
  rcases compatible with rfl | rfl
  · have colon_iff : ':' ∈ text ++ rest ↔ family = .inet6 := by
      rw [List.mem_append, denotes.colon_iff]
      exact or_iff_left no_colon
    unfold familyOf
    rw [Option.getD_none]
    cases family with
    | inet => exact if_neg fun mem => AddrFamily.noConfusion (colon_iff.mp mem)
    | inet6 => exact if_pos (colon_iff.mpr rfl)
  · rfl

theorem Denotes.parse (denotes : Denotes inet family text address)
    (compatible : given = none ∨ given = some family) (out : NMIPAddr) :
    parseInaddrPrefixBin inet given text out =
      some (family, NMIPAddr.ipAddrSet family out address, -1) := by
  have family_eq : familyOf given text = family := by
    have told := denotes.familyOf_eq compatible (show ':' ∉ [] by simp)
    rwa [List.append_nil] at told
  have no_slash : '/' ∉ text := denotes.not_mem (by decide)
  unfold parseInaddrPrefixBin
  rw [family_eq, cutAt_eq_none no_slash]
  simp [denotes.read]

theorem not_mem_toDigits {c : Char} (number : Nat) (no_digit : 10 ≤ digitValue c) :
    c ∉ Nat.toDigits 10 number := by
  intro mem
  have below := digitValue_lt_of_mem_toDigits (show 1 < 10 by decide) (by decide) mem
  omega

theorem Denotes.parse_prefixLength (denotes : Denotes inet family text address)
    (compatible : given = none ∨ given = some family) (out : NMIPAddr) {prefixLength : Nat}
    (bound : prefixLength ≤ 8 * family.size) :
    parseInaddrPrefixBin inet given (text ++ '/' :: Nat.toDigits 10 prefixLength) out =
      some (family, NMIPAddr.ipAddrSet family out address, (prefixLength : Int)) := by
  have no_colon : ':' ∉ '/' :: Nat.toDigits 10 prefixLength := by
    intro mem
    rcases List.mem_cons.mp mem with same | mem
    · exact absurd same (by decide)
    · exact not_mem_toDigits prefixLength (by decide) mem
  have no_slash : '/' ∉ text := denotes.not_mem (by decide)
  have small : prefixLength ≤ 128 := bound.trans (by cases family <;> decide)
  have number : strToInt64 (Nat.toDigits 10 prefixLength) 10 0
      (if family = .inet then 32 else 128) (-1) = prefixLength := by
    refine strToInt64_decimal (-1) (Int.natCast_nonneg _) ?_ (by omega)
    cases family with
    | inet => exact Int.ofNat_le.mpr bound
    | inet6 => exact Int.ofNat_le.mpr bound
  unfold parseInaddrPrefixBin
  rw [denotes.familyOf_eq compatible no_colon, cutAt_append no_slash]
  simp only [denotes.read, number]
  exact if_neg (by omega)

/-- Numbers with a separator between them. -/
def groupsText (base : Nat) (separator : Char) (groups : List Nat) : List Char :=
  [separator].intercalate (groups.map (Nat.toDigits base))

def textGroups (base : Nat) (separator : Char) (text : List Char) : List Nat :=
  (text.splitOn separator).map (digitsValue base)

theorem textGroups_groupsText {base : Nat} (one_lt : 1 < base) (small : base ≤ 16)
    {separator : Char} (no_digit : base ≤ digitValue separator) (nonempty : groups ≠ []) :
    textGroups base separator (groupsText base separator groups) = groups := by
  have absent : ∀ digits ∈ groups.map (Nat.toDigits base), separator ∉ digits := by
    intro digits mem separator_mem
    obtain ⟨number, -, rfl⟩ := List.mem_map.mp mem
    have below := digitValue_lt_of_mem_toDigits one_lt small separator_mem
    omega
  unfold textGroups groupsText
  rw [List.splitOn_intercalate separator absent (by simpa using nonempty), List.map_map]
  conv_rhs => rw [← List.map_id groups]
  apply List.map_congr_left
  intro number _
  exact digitsValue_toDigits number one_lt small

/-- The numbers of an address of 4 bytes. -/
def dottedGroups (address : Vector UInt8 4) : List Nat :=
  List.ofFn fun index : Fin 4 => address[index].toNat

/-- The address of 4 bytes that numbers stand for. -/
def dottedAddress (groups : List Nat) : Vector UInt8 4 :=
  Vector.ofFn fun index => UInt8.ofNat (groups.getD index 0)

/-- The numbers of an address of 16 bytes. -/
def colonGroups (address : Vector UInt8 16) : List Nat :=
  List.ofFn fun index : Fin 8 =>
    address[2 * index.val].toNat * 256 + address[2 * index.val + 1].toNat

/-- The address of 16 bytes that numbers stand for. -/
def colonAddress (groups : List Nat) : Vector UInt8 16 :=
  Vector.ofFn fun index =>
    UInt8.ofNat (if index.val % 2 = 0 then groups.getD (index / 2) 0 / 256
      else groups.getD (index / 2) 0 % 256)

theorem high_byte (high low : UInt8) :
    UInt8.ofNat ((high.toNat * 256 + low.toNat) / 256) = high := by
  have bound := low.toNat_lt
  have quotient : (high.toNat * 256 + low.toNat) / 256 = high.toNat := by omega
  rw [quotient, UInt8.ofNat_toNat]

theorem low_byte (high low : UInt8) : UInt8.ofNat ((high.toNat * 256 + low.toNat) % 256) = low := by
  have bound := low.toNat_lt
  have remainder : (high.toNat * 256 + low.toNat) % 256 = low.toNat := by omega
  rw [remainder, UInt8.ofNat_toNat]

theorem getD_ofFn {count index : Nat} (group : Fin count → Nat) (inside : index < count) :
    (List.ofFn group).getD index 0 = group ⟨index, inside⟩ := by
  simp [inside]

theorem dottedAddress_dottedGroups (address : Vector UInt8 4) :
    dottedAddress (dottedGroups address) = address := by
  apply Vector.ext
  intro index inside
  unfold dottedAddress dottedGroups
  rw [Vector.getElem_ofFn, getD_ofFn _ inside]
  exact UInt8.ofNat_toNat

theorem colonAddress_colonGroups (address : Vector UInt8 16) :
    colonAddress (colonGroups address) = address := by
  apply Vector.ext
  intro index inside
  have half : index / 2 < 8 := by omega
  unfold colonAddress colonGroups
  rw [Vector.getElem_ofFn, getD_ofFn _ half]
  split
  · rename_i even
    have same : 2 * (index / 2) = index := by dsimp only at even; omega
    rw [high_byte]
    simp only [same]
  · rename_i odd
    have same : 2 * (index / 2) + 1 = index := by dsimp only at odd; omega
    rw [low_byte]
    simp only [same]

/-- Conversions that write the addresses of 16 bytes without leaving out zeros. -/
def plainInet : Inet where
  ntop
    | .inet, address => groupsText 10 '.' (dottedGroups address)
    | .inet6, address => groupsText 16 ':' (colonGroups address)
  pton
    | .inet, text =>
      let groups := textGroups 10 '.' text
      if groups.length = 4 ∧ groups.all (· < 256) ∧ groupsText 10 '.' groups = text then
        some (dottedAddress groups)
      else none
    | .inet6, text =>
      let groups := textGroups 16 ':' text
      if text = anyAddress .inet6 then some (Vector.replicate 16 0)
      else if groups.length = 8 ∧ groups.all (· < 65536) ∧ groupsText 16 ':' groups = text then
        some (colonAddress groups)
      else none

theorem mem_groupsText {base : Nat} (one_lt : 1 < base) (small : base ≤ 16) {separator c : Char}
    (mem : c ∈ groupsText base separator groups) :
    c = separator ∨ digitValue c < base := by
  induction groups with
  | nil => exact absurd mem List.not_mem_nil
  | cons group groups ih =>
    cases groups with
    | nil =>
      have mem : c ∈ Nat.toDigits base group := by simpa [groupsText] using mem
      exact Or.inr (digitValue_lt_of_mem_toDigits one_lt small mem)
    | cons next groups =>
      have split : groupsText base separator (group :: next :: groups) =
          Nat.toDigits base group ++ [separator] ++
            groupsText base separator (next :: groups) := List.intercalate_cons_cons
      rw [split, List.append_assoc] at mem
      rcases List.mem_append.mp mem with mem | mem
      · exact Or.inr (digitValue_lt_of_mem_toDigits one_lt small mem)
      · rcases List.mem_cons.mp mem with same | mem
        · exact Or.inl same
        · exact ih mem

theorem length_dottedGroups (address : Vector UInt8 4) : (dottedGroups address).length = 4 :=
  List.length_ofFn

theorem length_colonGroups (address : Vector UInt8 16) : (colonGroups address).length = 8 :=
  List.length_ofFn

theorem separator_mem_groupsText (base : Nat) (separator : Char) {count : Nat}
    (length_eq : groups.length = count + 2) :
    separator ∈ groupsText base separator groups := by
  match groups, length_eq with
  | first :: second :: groups, _ => simp [groupsText]

theorem groupsText_ne_nil (base : Nat) (separator : Char) {count : Nat}
    (length_eq : groups.length = count + 2) : groupsText base separator groups ≠ [] :=
  List.ne_nil_of_mem (separator_mem_groupsText base separator length_eq)

theorem plainInet_inet (address : Vector UInt8 4) :
    plainInet.pton .inet (groupsText 10 '.' (dottedGroups address)) = some address := by
  have length_eq := length_dottedGroups address
  have groups_eq : textGroups 10 '.' (groupsText 10 '.' (dottedGroups address)) =
      dottedGroups address :=
    textGroups_groupsText (by decide) (by decide) (by decide)
      (List.ne_nil_of_length_pos (by omega))
  have bounds : (dottedGroups address).all (· < 256) := by
    rw [List.all_eq_true]
    intro group mem
    obtain ⟨index, rfl⟩ := List.mem_ofFn.mp mem
    exact decide_eq_true address[index].toNat_lt
  change (if _ then _ else _) = _
  rw [groups_eq, if_pos ⟨length_eq, bounds, rfl⟩, dottedAddress_dottedGroups]
  rfl

theorem plainInet_inet6 (address : Vector UInt8 16) :
    plainInet.pton .inet6 (groupsText 16 ':' (colonGroups address)) = some address := by
  have length_eq := length_colonGroups address
  have groups_eq : textGroups 16 ':' (groupsText 16 ':' (colonGroups address)) =
      colonGroups address :=
    textGroups_groupsText (by decide) (by decide) (by decide)
      (List.ne_nil_of_length_pos (by omega))
  have not_any : groupsText 16 ':' (colonGroups address) ≠ anyAddress .inet6 := by
    intro same
    rw [same] at groups_eq
    rw [← groups_eq] at length_eq
    exact absurd length_eq (by decide)
  have bounds : (colonGroups address).all (· < 65536) := by
    rw [List.all_eq_true]
    intro group mem
    obtain ⟨index, rfl⟩ := List.mem_ofFn.mp mem
    have high := address[2 * index.val].toNat_lt
    have low := address[2 * index.val + 1].toNat_lt
    exact decide_eq_true (by omega)
  change (if _ then _ else if _ then _ else _) = _
  rw [groups_eq, if_neg not_any, if_pos ⟨length_eq, bounds, rfl⟩, colonAddress_colonGroups]
  rfl

theorem plainInet_lawful : plainInet.Lawful where
  pton_ntop := by
    intro family address
    cases family with
    | inet => exact plainInet_inet address
    | inet6 => exact plainInet_inet6 address
  pton_any := by
    intro family
    cases family with
    | inet => exact plainInet_inet (Vector.replicate 4 0)
    | inet6 => rfl
  ntop_ne_nil := by
    intro family address
    cases family with
    | inet => exact groupsText_ne_nil 10 '.' (length_dottedGroups address)
    | inet6 => exact groupsText_ne_nil 16 ':' (length_colonGroups address)
  ntop_chars := by
    intro family address c mem
    cases family with
    | inet =>
      rcases mem_groupsText (by decide) (by decide) mem with rfl | digit
      · exact Or.inr (Or.inl rfl)
      · exact Or.inl (by omega)
    | inet6 =>
      rcases mem_groupsText (by decide) (by decide) mem with rfl | digit
      · exact Or.inr (Or.inr rfl)
      · exact Or.inl digit
  colon_iff := by
    intro family address
    cases family with
    | inet =>
      constructor
      · intro mem
        rcases mem_groupsText (by decide) (by decide) mem with same | digit
        · exact absurd same (by decide)
        · exact absurd digit (by decide)
      · intro impossible
        cases impossible
    | inet6 =>
      constructor
      · intro _
        rfl
      · intro _
        exact separator_mem_groupsText 16 ':' (length_colonGroups address)

end NetworkManager.InetAddress
