import NetworkManager.Core.Bytes
import NetworkManager.Core.StableId

/-!
# The seed of stable privacy addresses

The interface identifier of a stable privacy address is a hash of the properties of the connection.
The type of the stable id is hashed in front of them, except for the oldest type, for which it is
left out.  The properties then do not begin at the same byte, and inputs of different types can give
the same bytes.
-/

namespace NetworkManager.StablePrivacy

open List StableId

def typeByte : NMUtilsStableType → UInt8
  | .uuid => 0
  | .stableId => 1
  | .generated => 2
  | .random => 3

/-- `G_MAXUINT32`. -/
def maxUint32 : Nat := 2 ^ 32 - 1

/-- The arguments of `_set_stable_privacy` that are hashed. -/
structure Arguments where
  stableType : NMUtilsStableType
  addr : {bytes : List UInt8 // bytes.length = 8}
  ifname : CString
  networkId : CString
  dadCounter : UInt32
  hostId : {bytes : List UInt8 // bytes ≠ []}
  deriving DecidableEq

namespace Arguments

section

variable (arguments : Arguments)

def hostPart : List UInt8 := arguments.hostId.1.take maxUint32

/-- What is hashed after the network id. -/
def tail : List UInt8 :=
  Framing.bigEndian 4 arguments.dadCounter.toNat ++
    (Framing.bigEndian 4 (min arguments.hostId.1.length maxUint32) ++ arguments.hostPart)

/-- The bytes that `_set_stable_privacy` gives to the checksum. -/
def seed : List UInt8 :=
  (if arguments.stableType ≠ .uuid then [typeByte arguments.stableType] else []) ++
    (arguments.addr.1 ++
      (arguments.ifname.1 ++ 0 :: (arguments.networkId.1 ++ 0 :: arguments.tail)))

/-- The last byte of the address that is hashed. -/
def addrLast : UInt8 := arguments.addr.1.getD 7 0

end

/-- The inputs differ only in their host ids, behind the part that is hashed. -/
structure LongHosts (first second : Arguments) : Prop where
  stableType : first.stableType = second.stableType
  addr : first.addr = second.addr
  ifname : first.ifname = second.ifname
  networkId : first.networkId = second.networkId
  dadCounter : first.dadCounter = second.dadCounter
  hostId : first.hostId ≠ second.hostId
  hostPart : first.hostPart = second.hostPart

/-- The last byte of the address of one input is the first byte of the name of the other one. -/
structure ShiftedName (old new : Arguments) : Prop where
  ifname : old.ifname.1 = new.addrLast :: new.ifname.1
  networkId : old.networkId = new.networkId
  dadCounter : old.dadCounter = new.dadCounter
  hostPart : old.hostPart = new.hostPart

/-- The last byte of the address of one input ends the empty name of the other one.  What is hashed
as name, as network id and so on is then hashed as network id and so on of the other one. -/
structure ShiftedFields (old new : Arguments) : Prop where
  addrLast : new.addrLast = 0
  ifname : old.ifname.1 = []
  networkId : old.networkId = new.ifname
  tail : old.tail = new.networkId.1 ++ 0 :: new.tail

/-- The type of one input is the first byte of the address of the other one, whose type is not
hashed. -/
structure Shifted (old new : Arguments) : Prop where
  old_uuid : old.stableType = .uuid
  new_other : new.stableType ≠ .uuid
  addr : old.addr.1 = typeByte new.stableType :: new.addr.1.take 7
  fields : ShiftedName old new ∨ ShiftedFields old new

theorem addr_eq (arguments : Arguments) :
    arguments.addr.1 = arguments.addr.1.take 7 ++ [arguments.addrLast] := by
  unfold addrLast
  obtain ⟨bytes, length_eq⟩ := arguments.addr
  match bytes, length_eq with
  | [_, _, _, _, _, _, _, _], _ => rfl

theorem length_hostPart (arguments : Arguments) :
    arguments.hostPart.length = min arguments.hostId.1.length maxUint32 := by
  rw [hostPart, length_take, Nat.min_comm]

theorem tail_congr {first second : Arguments} (dadCounter : first.dadCounter = second.dadCounter)
    (host_same : first.hostPart = second.hostPart) : first.tail = second.tail := by
  rw [tail, tail, ← length_hostPart, ← length_hostPart, dadCounter, host_same]

theorem tail_inj {first second : Arguments} (same : first.tail = second.tail) :
    first.dadCounter = second.dadCounter ∧ first.hostPart = second.hostPart := by
  have width : 256 ^ 4 = 2 ^ 32 := by decide
  have counter_fits : ∀ arguments : Arguments, arguments.dadCounter.toNat < 256 ^ 4 := by
    intro arguments
    rw [width]
    exact arguments.dadCounter.toNat_lt
  have length_fits : ∀ length : Nat, min length maxUint32 < 256 ^ 4 := by
    intro length
    rw [width, maxUint32]
    omega
  obtain ⟨counter_eq, rest_eq⟩ :=
    Framing.bigEndian_append_inj (counter_fits first) (counter_fits second) same
  obtain ⟨-, host_eq⟩ :=
    Framing.bigEndian_append_inj (length_fits _) (length_fits _) rest_eq
  exact ⟨UInt32.toNat_inj.mp counter_eq, host_eq⟩

theorem fields_inj {first second : Arguments}
    (same : first.addr.1 ++ (first.ifname.1 ++ 0 :: (first.networkId.1 ++ 0 :: first.tail)) =
      second.addr.1 ++ (second.ifname.1 ++ 0 :: (second.networkId.1 ++ 0 :: second.tail))) :
    first.addr = second.addr ∧ first.ifname = second.ifname ∧
      first.networkId = second.networkId ∧ first.dadCounter = second.dadCounter ∧
      first.hostPart = second.hostPart := by
  obtain ⟨addr_same, same⟩ :=
    append_inj same (first.addr.2.trans second.addr.2.symm)
  obtain ⟨ifname_eq, same⟩ := Framing.terminated_inj first.ifname.2 second.ifname.2 same
  obtain ⟨networkId_eq, same⟩ := Framing.terminated_inj first.networkId.2 second.networkId.2 same
  obtain ⟨counter_eq, host_eq⟩ := tail_inj same
  exact ⟨Subtype.ext addr_same, Subtype.ext ifname_eq, Subtype.ext networkId_eq, counter_eq,
    host_eq⟩

theorem typeByte_inj {first second : NMUtilsStableType} (same : typeByte first = typeByte second) :
    first = second := by
  cases first <;> cases second <;> first | rfl | exact absurd same (by decide)

/-- If both types are hashed, or none is, seeds are equal only for equal inputs, as far as the host
ids are hashed. -/
theorem eq_or_longHosts {first second : Arguments}
    (same_kind : first.stableType = .uuid ↔ second.stableType = .uuid)
    (same : first.seed = second.seed) : first = second ∨ LongHosts first second := by
  have fields : first.stableType = second.stableType ∧
      first.addr.1 ++ (first.ifname.1 ++ 0 :: (first.networkId.1 ++ 0 :: first.tail)) =
        second.addr.1 ++ (second.ifname.1 ++ 0 :: (second.networkId.1 ++ 0 :: second.tail)) := by
    unfold seed at same
    by_cases first_uuid : first.stableType = .uuid
    · have second_uuid := same_kind.mp first_uuid
      rw [if_neg (not_not.mpr first_uuid), if_neg (not_not.mpr second_uuid)] at same
      exact ⟨first_uuid.trans second_uuid.symm, same⟩
    · have second_other : second.stableType ≠ .uuid := fun uuid => first_uuid (same_kind.mpr uuid)
      rw [if_pos first_uuid, if_pos second_other] at same
      obtain ⟨type_eq, same⟩ := cons.inj same
      exact ⟨typeByte_inj type_eq, same⟩
  obtain ⟨type_eq, same⟩ := fields
  obtain ⟨addr_same, ifname_eq, networkId_eq, counter_eq, host_eq⟩ := fields_inj same
  by_cases host_same : first.hostId = second.hostId
  · left
    obtain ⟨_, _, _, _, _, _⟩ := first
    obtain ⟨_, _, _, _, _, _⟩ := second
    simp_all
  · exact Or.inr ⟨type_eq, addr_same, ifname_eq, networkId_eq, counter_eq, host_same, host_eq⟩

theorem LongHosts.seed {first second : Arguments} (long : LongHosts first second) :
    first.seed = second.seed := by
  unfold Arguments.seed
  rw [long.stableType, long.addr, long.ifname, long.networkId,
    tail_congr long.dadCounter long.hostPart]

theorem seed_eq_iff_shift {old new : Arguments} (old_uuid : old.stableType = .uuid)
    (new_other : new.stableType ≠ .uuid) :
    old.seed = new.seed ↔
      old.addr.1 = typeByte new.stableType :: new.addr.1.take 7 ∧
        old.ifname.1 ++ 0 :: (old.networkId.1 ++ 0 :: old.tail) =
          new.addrLast :: (new.ifname.1 ++ 0 :: (new.networkId.1 ++ 0 :: new.tail)) := by
  have new_seed : new.seed = (typeByte new.stableType :: new.addr.1.take 7) ++
      new.addrLast :: (new.ifname.1 ++ 0 :: (new.networkId.1 ++ 0 :: new.tail)) := by
    unfold seed
    rw [if_pos new_other]
    nth_rewrite 1 [addr_eq new]
    simp
  have old_seed : old.seed = old.addr.1 ++
      (old.ifname.1 ++ 0 :: (old.networkId.1 ++ 0 :: old.tail)) := by
    unfold seed
    rw [if_neg (not_not.mpr old_uuid), nil_append]
  rw [new_seed, old_seed]
  constructor
  · intro same
    have length_eq : old.addr.1.length = (typeByte new.stableType :: new.addr.1.take 7).length := by
      rw [old.addr.2, length_cons, length_take, new.addr.2]
      rfl
    exact append_inj same length_eq
  · rintro ⟨addr_same, fields_same⟩
    rw [addr_same, fields_same]

theorem Shifted.of_seed {old new : Arguments} (old_uuid : old.stableType = .uuid)
    (new_other : new.stableType ≠ .uuid) (same : old.seed = new.seed) : Shifted old new := by
  obtain ⟨addr_same, same⟩ := (seed_eq_iff_shift old_uuid new_other).mp same
  refine ⟨old_uuid, new_other, addr_same, ?_⟩
  match name : old.ifname.1 with
  | [] =>
    right
    rw [name] at same
    obtain ⟨last_eq, same⟩ := cons.inj same
    obtain ⟨networkId_eq, tail_eq⟩ := Framing.terminated_inj old.networkId.2 new.ifname.2 same
    exact ⟨last_eq.symm, name, Subtype.ext networkId_eq, tail_eq⟩
  | b :: ifname =>
    left
    have name_free : 0 ∉ ifname := not_mem_of_not_mem_cons (name ▸ old.ifname.2)
    rw [name] at same
    obtain ⟨last_eq, same⟩ := cons.inj same
    obtain ⟨name_eq, same⟩ := Framing.terminated_inj name_free new.ifname.2 same
    obtain ⟨networkId_eq, same⟩ := Framing.terminated_inj old.networkId.2 new.networkId.2 same
    obtain ⟨counter_eq, host_eq⟩ := tail_inj same
    exact ⟨by rw [name, last_eq, name_eq], Subtype.ext networkId_eq, counter_eq, host_eq⟩

theorem Shifted.seed {old new : Arguments} (shifted : Shifted old new) : old.seed = new.seed := by
  refine (seed_eq_iff_shift shifted.old_uuid shifted.new_other).mpr ⟨shifted.addr, ?_⟩
  rcases shifted.fields with by_name | by_fields
  · rw [by_name.ifname, by_name.networkId, tail_congr by_name.dadCounter by_name.hostPart]
    rfl
  · rw [by_fields.ifname, by_fields.networkId, by_fields.tail, by_fields.addrLast]
    rfl

/-- Two inputs with the same seed are equal exactly if they do not differ only in the part of long
host ids that is not hashed, and if none of them has the type of the other one as the first byte of
its address with all fields shifted by one byte. -/
theorem seed_inj_iff (first second : Arguments) :
    (first.seed = second.seed → first = second) ↔
      ¬ LongHosts first second ∧ ¬ Shifted first second ∧ ¬ Shifted second first := by
  constructor
  · intro injective
    refine ⟨fun long => ?_, fun shifted => ?_, fun shifted => ?_⟩
    · exact long.hostId (congrArg Arguments.hostId (injective long.seed))
    · have same := injective shifted.seed
      exact shifted.new_other (same ▸ shifted.old_uuid)
    · have same := injective shifted.seed.symm
      exact shifted.new_other (same ▸ shifted.old_uuid)
  · rintro ⟨not_long, not_shifted, not_shifted_back⟩ same
    by_cases first_uuid : first.stableType = .uuid
    · by_cases second_uuid : second.stableType = .uuid
      · have equal := eq_or_longHosts (iff_of_true first_uuid second_uuid) same
        exact equal.resolve_right not_long
      · exact absurd (Shifted.of_seed first_uuid second_uuid same) not_shifted
    · by_cases second_uuid : second.stableType = .uuid
      · exact absurd (Shifted.of_seed second_uuid first_uuid same.symm) not_shifted_back
      · have equal := eq_or_longHosts (iff_of_false first_uuid second_uuid) same
        exact equal.resolve_right not_long

/-- The interface `eth0` of a connection without stable id, with the prefix `0120:010d:b800::`. -/
def eth0 : Arguments where
  stableType := .uuid
  addr := ⟨[0x01, 0x20, 0x01, 0x0d, 0xb8, 0x00, 0x00, 0x00], rfl⟩
  ifname := ⟨[0x65, 0x74, 0x68, 0x30], by decide⟩
  networkId := ⟨[0x61], by decide⟩
  dadCounter := 0
  hostId := ⟨[0x6b], by decide⟩

/-- The interface `th0` of a connection with the stable id `a`, with the prefix `2001:db8:0:65::`. -/
def th0 : Arguments where
  stableType := .stableId
  addr := ⟨[0x20, 0x01, 0x0d, 0xb8, 0x00, 0x00, 0x00, 0x65], rfl⟩
  ifname := ⟨[0x74, 0x68, 0x30], by decide⟩
  networkId := ⟨[0x61], by decide⟩
  dadCounter := 0
  hostId := ⟨[0x6b], by decide⟩

/-- Two interfaces with different types of stable ids have the same seed. -/
theorem seed_eth0_th0 : eth0.seed = th0.seed ∧ eth0 ≠ th0 := by decide

end Arguments

end NetworkManager.StablePrivacy
