import NetworkManager.Platform.Object

/-!
# Synchronising IPv6 addresses

The kernel prefers the addresses that it lists first, and it lists an address that is added in front
of the others of its scope.  `nm_platform_ip6_address_sync` has to establish an order: addresses
that are not known are deleted, and from the first address on that is out of order all addresses are
deleted as well, so that they can be added again one after the other.

Temporary addresses are made by the kernel.  They are left alone unless a full synchronisation is
asked for.
-/

namespace NetworkManager.AddressSync

/-- `ip6_address_scope_priority`: link-local, site-local and other addresses. -/
def ip6AddressScopePriority (addr : In6Addr) : Nat :=
  if addr.byte 0 = 0xfe ∧ addr.byte 1 &&& 0xc0 = 0x80 then 1
  else if addr.byte 0 = 0xfe ∧ addr.byte 1 &&& 0xc0 = 0xc0 then 2
  else 3

/-- Whether `ip6_address_scope_cmp` does not order the second address before the first. -/
def scopeLe (a b : NMPlatformIP6Address) : Bool :=
  decide (ip6AddressScopePriority a.address ≤ ip6AddressScopePriority b.address)

/-- `IFA_F_TEMPORARY`. -/
def ifaFTemporary : UInt32 := 0x01

/-- `IFA_F_NOPREFIXROUTE`. -/
def ifaFNoprefixroute : UInt32 := 0x200

/-- Whether an address was made by the kernel for privacy. -/
def isTemporary (a : NMPlatformIP6Address) : Bool := decide (a.nIfaFlags &&& ifaFTemporary ≠ 0)

/-- `NM_PLATFORM_LIFETIME_PERMANENT`. -/
def lifetimePermanent : Nat := 0xffffffff

/-- `nm_utils_lifetime_rebase_relative_time_on_now`. -/
def lifetimeRebase (timestamp duration now : Nat) : Nat :=
  if duration = lifetimePermanent then lifetimePermanent
  else
    let timestamp := if timestamp = 0 then now else timestamp
    let t : Int := timestamp + duration - now
    if t ≤ 0 then 0
    else if t ≥ lifetimePermanent then lifetimePermanent - 1
    else t.toNat

/-- `nm_utils_lifetime_get`: the lifetime and the preferred lifetime at a time that is positive. -/
def lifetimeGet (timestamp lifetime preferred now : Nat) : Nat × Nat :=
  if timestamp = 0 ∧ lifetime = 0 then (lifetimePermanent, lifetimePermanent)
  else
    let tLifetime := lifetimeRebase timestamp lifetime now
    if tLifetime = 0 then (0, 0)
    else (tLifetime, min (lifetimeRebase timestamp preferred now) tLifetime)

def addressLifetime (now : Nat) (a : NMPlatformIP6Address) : Nat × Nat :=
  lifetimeGet a.timestamp.toNat a.lifetime.toNat a.preferred.toNat now

/-- Whether `_addr_array_clean_expired` leaves an address in the array. -/
def isWanted (now : Nat) (a : NMPlatformIP6Address) : Bool :=
  !isTemporary a && decide ((addressLifetime now a).1 ≠ 0)

/-- `_addr_array_clean_expired` for `AF_INET6`: addresses that are dropped leave a tombstone. -/
def addrArrayCleanExpired (now : Nat) (array : List NMPlatformIP6Address) :
    List (Option NMPlatformIP6Address) :=
  array.map fun a => if isWanted now a then some a else none

/-- The arguments of `nm_platform_ip6_address_add`. -/
structure AddressRequest where
  ifindex : Int
  address : In6Addr
  plen : UInt8
  peerAddress : In6Addr
  lifetime : Nat
  preferred : Nat
  flags : UInt32

/-- The operations of a platform with states in `σ` that synchronising addresses uses. -/
structure AddressPlatform (σ : Type*) where
  /-- `nm_platform_lookup_clone`: the addresses of the interface. -/
  addresses : σ → List NMPlatformIP6Address
  /-- `nm_platform_ip6_address_delete`.  Errors are ignored. -/
  ip6AddressDelete : σ → In6Addr → UInt8 → σ
  /-- `nm_platform_ip6_address_add`, and whether it succeeds. -/
  ip6AddressAdd : σ → AddressRequest → σ × Bool

section

variable {σ : Type*}

/-- The body of the first loop: an address that is not known is deleted.  Addresses that are handled
leave a tombstone. -/
def dropUnknown (platform : AddressPlatform σ) (knownAddressesIdx : List NMPlatformIP6Address)
    (fullSync : Bool) (acc : σ × List (Option NMPlatformIP6Address)) (plat : NMPlatformIP6Address) :
    σ × List (Option NMPlatformIP6Address) :=
  let delete := (platform.ip6AddressDelete acc.1 plat.address plat.plen, acc.2 ++ [none])
  if isTemporary plat then
    if !fullSync then (acc.1, acc.2 ++ [none]) else delete
  else if (knownAddressesIdx.find? fun know => (ip6AddressIdCmp plat know).isEq).any fun know =>
      plat.plen == know.plen then
    (acc.1, acc.2 ++ [some plat])
  else delete

/-- The inner loop: the known addresses after the next one if this is the given address, and
nothing otherwise. -/
def matchKnown (plat : NMPlatformIP6Address) :
    List (Option NMPlatformIP6Address) → Option (List (Option NMPlatformIP6Address))
  | [] => none
  | none :: known => matchKnown plat known
  | some know :: known => if plat.address = know.address then some known else none

/-- The second loop, from the end of the addresses of the platform.  After the first discrepancy no
known addresses are left to match, so all remaining addresses are deleted. -/
def deleteMisplaced (platform : AddressPlatform σ) :
    List (Option NMPlatformIP6Address) → List (Option NMPlatformIP6Address) → σ → σ
  | [], _, state => state
  | none :: plats, known, state => deleteMisplaced platform plats known state
  | some plat :: plats, known, state =>
    match matchKnown plat known with
    | some known => deleteMisplaced platform plats known state
    | none =>
      deleteMisplaced platform plats []
        (platform.ip6AddressDelete state plat.address plat.plen)

def addressRequest (ifindex : Int) (now : Nat) (extendedIfaFlags : Bool)
    (known : NMPlatformIP6Address) : AddressRequest where
  ifindex := ifindex
  address := known.address
  plen := known.plen
  peerAddress := known.peerAddress
  lifetime := (addressLifetime now known).1
  preferred := (addressLifetime now known).2
  flags := (if extendedIfaFlags then ifaFNoprefixroute else 0) ||| known.nIfaFlags

/-- The last loop.  The first failure ends it. -/
def addMissing (platform : AddressPlatform σ) (request : NMPlatformIP6Address → AddressRequest) :
    List (Option NMPlatformIP6Address) → σ → σ × Bool
  | [], state => (state, true)
  | none :: known, state => addMissing platform request known state
  | some a :: known, state =>
    let (state, success) := platform.ip6AddressAdd state (request a)
    if success then addMissing platform request known state else (state, false)

/-- What `nm_platform_ip6_address_sync` does. -/
structure SyncResult (σ : Type*) where
  platform : σ
  knownAddresses : List (Option NMPlatformIP6Address)
  success : Bool

/-- `nm_platform_ip6_address_sync`.  An absent list of known addresses is an empty one, and so is a
list without valid addresses. -/
def ip6AddressSync (platform : AddressPlatform σ) (ifindex : Int) (now : Nat)
    (extendedIfaFlags : Bool) (knownAddresses : List NMPlatformIP6Address) (fullSync : Bool)
    (state : σ) : SyncResult σ :=
  let known := addrArrayCleanExpired now (knownAddresses.mergeSort scopeLe)
  let (state, plats) := (platform.addresses state).foldl
    (dropUnknown platform known.reduceOption fullSync) (state, [])
  let state := deleteMisplaced platform plats.reverse known state
  let (state, success) :=
    addMissing platform (addressRequest ifindex now extendedIfaFlags) known state
  ⟨state, known, success⟩

end

/-- The address that the kernel makes from a request. -/
def AddressRequest.toAddress (request : AddressRequest) : NMPlatformIP6Address where
  ifindex := request.ifindex
  addrSource := 257
  timestamp := 0
  lifetime := UInt32.ofNat request.lifetime
  preferred := UInt32.ofNat request.preferred
  nIfaFlags := request.flags
  plen := request.plen
  isExternal := false
  address := request.address
  peerAddress := request.peerAddress

/-- An address that is added again gets new lifetimes. -/
def refresh (request : AddressRequest) (a : NMPlatformIP6Address) : NMPlatformIP6Address :=
  { a with
    lifetime := UInt32.ofNat request.lifetime
    preferred := UInt32.ofNat request.preferred }

/-- The kernel puts a new address in front of the addresses of its scope.  An address that exists
keeps its position. -/
def kernelAdd (list : List NMPlatformIP6Address) (request : AddressRequest) :
    List NMPlatformIP6Address :=
  if list.any fun a => a.address == request.address then
    list.map fun a => if a.address = request.address then refresh request a else a
  else
    let higher := fun a : NMPlatformIP6Address =>
      decide (ip6AddressScopePriority request.address < ip6AddressScopePriority a.address)
    list.takeWhile higher ++ request.toAddress :: list.dropWhile higher

/-- A kernel whose operations succeed.  Its state is the list of addresses of the interface. -/
def kernel : AddressPlatform (List NMPlatformIP6Address) where
  addresses list := list
  ip6AddressDelete list address plen :=
    list.filter fun a => !(a.address == address && a.plen == plen)
  ip6AddressAdd list request := (kernelAdd list request, true)

end NetworkManager.AddressSync
