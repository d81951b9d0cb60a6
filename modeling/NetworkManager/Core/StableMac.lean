import NetworkManager.Core.StablePrivacy

/-!
# Stable hardware addresses

A stable hardware address is made from a hash of the stable id, of the id of the host and of the
name of the interface.  Every field that is hashed says where it ends, so that the hashed bytes
determine the fields.  Of a host id, the first `G_MAXUINT32` bytes are hashed.
-/

namespace NetworkManager.StableMac

open StableId StablePrivacy

/-- The arguments of `_hw_addr_gen_stable_eth` that are hashed. -/
structure Arguments where
  stableType : NMUtilsStableType
  stableId : CString
  hostId : List UInt8
  /-- The name of the interface, or `NULL`. -/
  ifname : Option CString
  deriving DecidableEq

namespace Arguments

section

variable (arguments : Arguments)

/-- `MIN (host_id_len, G_MAXUINT32)`. -/
def hostIdLen : Nat := min arguments.hostId.length maxUint32

/-- The bytes of the host id that are hashed. -/
def hostPart : List UInt8 := arguments.hostId.take arguments.hostIdLen

/-- `ifname ?: ""`. -/
def name : CString := arguments.ifname.getD ⟨[], List.not_mem_nil⟩

/-- What `_hw_addr_gen_stable_eth` gives to the checksum, update by update. -/
def updates : List (List UInt8) := [ [typeByte arguments.stableType],
  Framing.bigEndian 4 arguments.hostIdLen,
  arguments.hostPart,
  arguments.name.1 ++ [0],
  arguments.stableId.1 ++ [0]]

/-- All the bytes that are given to the checksum. -/
def seed : List UInt8 := arguments.updates.flatten

end

end Arguments

/-- `struct ether_addr`. -/
abbrev EtherAddr := Vector UInt8 6

/-- What was parsed from the setting `generate-mac-address-mask`. -/
structure MacAddressMask where
  mask : EtherAddr
  ouis : List EtherAddr

/-- The prefix that replaces the bits of the mask: one of the list at random, or the current
address, which is left out if it is no hardware address. -/
def MacAddressMask.oui (given : MacAddressMask) (current : Option EtherAddr) (random : Nat) :
    Option EtherAddr :=
  if given.ouis ≠ [] then given.ouis[random % given.ouis.length]? else current

/-- `_hw_addr_eth_complete`.  The mask is left out if none is set or if it is not valid. -/
def hwAddrEthComplete (addr : EtherAddr) (current : Option EtherAddr)
    (given : Option MacAddressMask) (random : Nat) : EtherAddr :=
  let addr := addr.set 0 (addr[0] ||| 2)
  let addr := match given with
    | none => addr
    | some given =>
      match given.oui current random with
      | none => addr
      | some oui => Vector.ofFn fun index =>
        (addr[index] &&& ~~~ given.mask[index]) ||| (oui[index] &&& given.mask[index])
  addr.set 0 (addr[0] &&& ~~~ 1)

/-- `_hw_addr_gen_stable_eth`, up to writing the address as text. -/
def hwAddrGenStableEth (sha256 : List UInt8 → Vector UInt8 32) (arguments : Arguments)
    (current : Option EtherAddr) (given : Option MacAddressMask) (random : Nat) : EtherAddr :=
  let digest := sha256 arguments.seed
  hwAddrEthComplete (Vector.ofFn fun index => digest[index.castLE (by decide : 6 ≤ 32)]) current
    given random

theorem hwAddrEthComplete_unicast (addr : EtherAddr) (current : Option EtherAddr)
    (given : Option MacAddressMask) (random : Nat) :
    (hwAddrEthComplete addr current given random)[0] &&& 1 = 0 := by
  have cleared : (~~~ 1 : UInt8) &&& 1 = 0 := by decide
  unfold hwAddrEthComplete
  rw [Vector.getElem_set_self, UInt8.and_assoc, cleared, UInt8.and_zero]

namespace Arguments

variable (arguments : Arguments)

theorem hostPart_eq :
    arguments.hostPart = arguments.hostId.take maxUint32 := by
  rw [hostPart, hostIdLen, Nat.min_comm, ← List.take_take, List.take_length]

theorem length_hostPart :
    arguments.hostPart.length = arguments.hostIdLen := by
  rw [hostPart, List.length_take, hostIdLen]
  omega

theorem hostIdLen_fits : arguments.hostIdLen < 256 ^ 4 := by
  have width : 256 ^ 4 = maxUint32 + 1 := by decide
  rw [width, hostIdLen]
  omega

theorem seed_eq :
    arguments.seed = typeByte arguments.stableType ::
      (Framing.bigEndian 4 arguments.hostIdLen ++ (arguments.hostPart ++
        (arguments.name.1 ++ 0 :: (arguments.stableId.1 ++ 0 :: [])))) := by
  simp [seed, updates]

theorem seed_congr {first second : Arguments} (type_same : first.stableType = second.stableType)
    (id_same : first.stableId = second.stableId)
    (host_same : first.hostId.take maxUint32 = second.hostId.take maxUint32)
    (name_same : first.name = second.name) : first.seed = second.seed := by
  rw [← hostPart_eq, ← hostPart_eq] at host_same
  have length_same : first.hostIdLen = second.hostIdLen := by
    rw [← length_hostPart, ← length_hostPart, host_same]
  rw [seed_eq, seed_eq, type_same, id_same, host_same, name_same, length_same]

/-- The same bytes are hashed exactly for the same type, name and stable id and for host ids with
the same first `G_MAXUINT32` bytes. -/
theorem seed_eq_iff (first second : Arguments) :
    first.seed = second.seed ↔
      first.stableType = second.stableType ∧ first.stableId = second.stableId ∧
        first.hostId.take maxUint32 = second.hostId.take maxUint32 ∧ first.name = second.name := by
  constructor
  · intro same
    rw [← hostPart_eq, ← hostPart_eq]
    rw [seed_eq, seed_eq] at same
    obtain ⟨type_same, same⟩ := List.cons.inj same
    obtain ⟨length_same, same⟩ :=
      Framing.bigEndian_append_inj (hostIdLen_fits first) (hostIdLen_fits second) same
    have part_length : first.hostPart.length = second.hostPart.length := by
      rw [length_hostPart, length_hostPart, length_same]
    obtain ⟨host_same, same⟩ := List.append_inj same part_length
    obtain ⟨name_same, same⟩ := Framing.terminated_inj first.name.2 second.name.2 same
    obtain ⟨id_same, -⟩ := Framing.terminated_inj first.stableId.2 second.stableId.2 same
    exact ⟨StablePrivacy.Arguments.typeByte_inj type_same, Subtype.ext id_same, host_same, Subtype.ext name_same⟩
  · rintro ⟨type_same, id_same, host_same, name_same⟩
    exact seed_congr type_same id_same host_same name_same

/-- The hashed bytes determine the inputs, with no name counted as the empty name. -/
def Injective : Prop :=
  ∀ first second : Arguments, first.seed = second.seed →
    first.stableType = second.stableType ∧ first.stableId = second.stableId ∧
      first.hostId = second.hostId ∧ first.name = second.name

theorem nul_not_mem_letter : (0 : UInt8) ∉ [0x61] := by decide

def zeroHost (length : Nat) : Arguments where
  stableType := .stableId
  stableId := ⟨[0x61], nul_not_mem_letter⟩
  hostId := List.replicate length 0
  ifname := none

/-- Two host ids that only differ behind the first `G_MAXUINT32` bytes give the same bytes. -/
theorem injective_fails : ¬ Injective := by
  intro injective
  have cut : ∀ bound, (zeroHost bound).hostId.take bound =
      (zeroHost (bound + 1)).hostId.take bound := by
    intro bound
    rw [zeroHost, zeroHost, List.take_replicate, List.take_replicate, Nat.min_self,
      Nat.min_eq_left bound.le_succ]
  have fields : ∀ first second, (zeroHost first).stableType = (zeroHost second).stableType ∧
      (zeroHost first).stableId = (zeroHost second).stableId ∧
        (zeroHost first).name = (zeroHost second).name :=
    fun _ _ => ⟨rfl, rfl, rfl⟩
  obtain ⟨type_same, id_same, name_same⟩ := fields maxUint32 (maxUint32 + 1)
  have same : (zeroHost maxUint32).seed = (zeroHost (maxUint32 + 1)).seed :=
    seed_congr type_same id_same (cut maxUint32) name_same
  have hosts_same := (injective _ _ same).2.2.1
  have lengths_same := congrArg List.length hosts_same
  rw [zeroHost, zeroHost, List.length_replicate, List.length_replicate] at lengths_same
  omega

end Arguments

end NetworkManager.StableMac
