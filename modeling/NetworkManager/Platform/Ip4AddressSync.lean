import NetworkManager.Platform.Ip6AddressSync

/-!
# Synchronising IPv4 addresses

Of the addresses of a subnet the kernel makes the first one primary and the others secondary.  When
the primary address is deleted, the secondary ones may be deleted as well.
`nm_platform_ip4_address_sync` deletes the addresses that are not known or that have the wrong role,
and with a primary address the others of its subnet.  Then it adds all known addresses.

The roles are looked up in an index of an array by subnet.  The index refers to places of the array,
some of which become tombstones after the index was built.
-/

namespace NetworkManager.Ip4AddressSync

open AddressSync

/-- An `NMPObject` with an IPv4 address.  Objects do not change, so two references are to the same
object if and only if the pointer and the contents agree. -/
structure Ip4Object where
  pointer : Nat
  /-- `NMP_OBJECT_CAST_IP4_ADDRESS`. -/
  address : NMPlatformIP4Address
  deriving DecidableEq, Repr

/-- `IFA_F_SECONDARY`. -/
def ifaFSecondary : UInt32 := 0x01

/-- Whether the kernel made an address secondary. -/
def isFlaggedSecondary (a : NMPlatformIP4Address) : Bool :=
  decide (a.nIfaFlags &&& ifaFSecondary ≠ 0)

/-- The network of an address: the key of the index. -/
def net (a : NMPlatformIP4Address) : UInt32 := ip4AddressClearHostAddress a.address a.plen

/-- `nmp_object_id_equal`. -/
def sameId (a b : NMPlatformIP4Address) : Bool := (ip4AddressIdCmp a b).isEq

def addressLifetime (now : Nat) (a : NMPlatformIP4Address) : Nat × Nat :=
  lifetimeGet a.timestamp.toNat a.lifetime.toNat a.preferred.toNat now

def isValid (now : Nat) (o : Ip4Object) : Bool := decide ((addressLifetime now o.address).1 ≠ 0)

/-- `_addr_array_clean_expired` for `AF_INET`: addresses that are dropped leave a tombstone. -/
def addrArrayCleanExpired (now : Nat) (array : List Ip4Object) : List (Option Ip4Object) :=
  array.map fun o => if isValid now o then some o else none

/-- A lookup in the table of the known addresses.  Of equal keys the last one added is kept. -/
def lookupKnown (known : List (Option Ip4Object)) (platObj : Ip4Object) : Option Ip4Object :=
  known.reduceOption.reverse.find? fun o => sameId platObj.address o.address

/-- What an array has at a place: nothing at a tombstone. -/
def objectAt (addresses : List (Option Ip4Object)) (place : Nat) : Option Ip4Object :=
  addresses[place]?.join

inductive Subnet where
  /-- `ip4_addr_subnets_is_plain_address`: the only address, or the only one that matters. -/
  | plainAddress (place : Nat)
  /-- All addresses, the primary one first. -/
  | addrList (places : List Nat)
  deriving Repr

def Subnet.places : Subnet → List Nat
  | plainAddress place => [place]
  | addrList places => places

/-- The index: a table from networks to their addresses. -/
abbrev Subnets := UInt32 → Option Subnet

/-- The body of the loop that builds the index. -/
def indexAddress (considerFlags fullIndex : Bool) (subnets : Subnets)
    (element : Option Ip4Object × Nat) : Subnets :=
  match element with
  | (none, _) => subnets
  | (some o, place) =>
    match subnets (net o.address) with
    | none => Function.update subnets (net o.address) (some (.plainAddress place))
    | some subnet =>
      if fullIndex then
        let places :=
          if !considerFlags || isFlaggedSecondary o.address then subnet.places ++ [place]
          else place :: subnet.places
        Function.update subnets (net o.address) (some (.addrList places))
      else if considerFlags && !isFlaggedSecondary o.address then
        Function.update subnets (net o.address) (some (.plainAddress place))
      else subnets

/-- `ip4_addr_subnets_build_index`. -/
def ip4AddrSubnetsBuildIndex (addresses : List (Option Ip4Object))
    (considerFlags fullIndex : Bool) : Subnets :=
  addresses.zipIdx.foldl (indexAddress considerFlags fullIndex) fun _ => none

/-- `ip4_addr_subnets_is_secondary`, and `out_addr_list`.  The index has the subnet of every address
that is looked up. -/
def ip4AddrSubnetsIsSecondary (address : Ip4Object) (subnets : Subnets)
    (addresses : List (Option Ip4Object)) : Bool × Option (List Nat) :=
  match subnets (net address.address) with
  | none => (false, none)
  | some (.plainAddress place) => (decide (some address ≠ objectAt addresses place), none)
  | some (.addrList places) =>
    (decide (places.head?.bind (objectAt addresses) ≠ some address), some places)

/-- The arguments of `nm_platform_ip4_address_add`. -/
structure Ip4AddressRequest where
  ifindex : Int
  address : InAddr
  plen : UInt8
  peerAddress : InAddr
  lifetime : Nat
  preferred : Nat
  flags : UInt32
  label : String

/-- The operations of a platform with states in `σ` that synchronising addresses uses. -/
structure Ip4Platform (σ : Type*) where
  /-- `nm_platform_lookup_clone`: the addresses of the interface. -/
  addresses : σ → List Ip4Object
  /-- `nm_platform_ip4_address_delete`: address, prefix length and peer.  Errors are ignored. -/
  ip4AddressDelete : σ → InAddr → UInt8 → InAddr → σ
  /-- `nm_platform_ip4_address_add`, and whether it succeeds. -/
  ip4AddressAdd : σ → Ip4AddressRequest → σ × Bool

section

variable {σ : Type*}

/-- What the first loop has done so far. -/
structure DeleteState (σ : Type*) where
  platform : σ
  platAddresses : List (Option Ip4Object)
  deleted : List NMPlatformIP4Address

section

variable (platform : Ip4Platform σ)

/-- A call of `nm_platform_ip4_address_delete`. -/
def DeleteState.delete (state : DeleteState σ) (a : NMPlatformIP4Address) : DeleteState σ :=
  { state with
    platform := platform.ip4AddressDelete state.platform a.address a.plen a.peerAddress
    deleted := state.deleted ++ [a] }

/-- The body of the inner loop: an address of the subnet is deleted and leaves a tombstone. -/
def deleteSecondary (state : DeleteState σ) (place : Nat) :
    DeleteState σ :=
  match objectAt state.platAddresses place with
  | none => state
  | some o =>
    { state.delete platform o.address with
      platAddresses := state.platAddresses.set place none }

/-- Whether an address of the platform is known and has the role that it has among the known
addresses. -/
def isKept (known : List (Option Ip4Object)) (platObj : Ip4Object) : Bool :=
  match lookupKnown known platObj with
  | none => false
  | some o =>
    (ip4AddrSubnetsIsSecondary o (ip4AddrSubnetsBuildIndex known false false) known).1 ==
      isFlaggedSecondary platObj.address

/-- The body of the first loop. -/
def deleteUnknown (known : List (Option Ip4Object)) (platSubnets : Subnets) (state : DeleteState σ)
    (place : Nat) : DeleteState σ :=
  match objectAt state.platAddresses place with
  | none => state
  | some platObj =>
    if isKept known platObj then state
    else
      let state := state.delete platform platObj.address
      match ip4AddrSubnetsIsSecondary platObj platSubnets state.platAddresses with
      | (false, some addrList) => addrList.tail.foldl (deleteSecondary platform) state
      | _ => state

end

def addressRequest (ifindex : Int) (now : Nat) (extendedIfaFlags : Bool)
    (known : NMPlatformIP4Address) : Ip4AddressRequest where
  ifindex := ifindex
  address := known.address
  plen := known.plen
  peerAddress := known.peerAddress
  lifetime := (addressLifetime now known).1
  preferred := (addressLifetime now known).2
  flags := if extendedIfaFlags then ifaFNoprefixroute else 0
  label := known.label

/-- The last loop.  Addresses that have expired or that could not be added leave a tombstone. -/
def addKnown (platform : Ip4Platform σ) (ifindex : Int) (now : Nat) (extendedIfaFlags : Bool) :
    List (Option Ip4Object) → σ → σ × List (Option Ip4Object)
  | [], state => (state, [])
  | none :: known, state =>
    let (state, known) := addKnown platform ifindex now extendedIfaFlags known state
    (state, none :: known)
  | some o :: known, state =>
    let (state, success) :=
      if isValid now o then
        platform.ip4AddressAdd state (addressRequest ifindex now extendedIfaFlags o.address)
      else (state, false)
    let (state, known) := addKnown platform ifindex now extendedIfaFlags known state
    (state, (if success then some o else none) :: known)

/-- What `nm_platform_ip4_address_sync` does. -/
structure SyncResult (σ : Type*) where
  platform : σ
  knownAddresses : List (Option Ip4Object)
  deleted : List NMPlatformIP4Address
  success : Bool

/-- The first loop of `nm_platform_ip4_address_sync`. -/
def deleteAllUnknown (platform : Ip4Platform σ) (known : List (Option Ip4Object)) (state : σ) :
    DeleteState σ :=
  let platAddresses := (platform.addresses state).map some
  let platSubnets := ip4AddrSubnetsBuildIndex platAddresses true true
  (List.range platAddresses.length).foldl (deleteUnknown platform known platSubnets)
    ⟨state, platAddresses, []⟩

/-- `nm_platform_ip4_address_sync`.  An absent list of known addresses is an empty one, and so is a
list without valid addresses. -/
def ip4AddressSync (platform : Ip4Platform σ) (ifindex : Int) (now : Nat)
    (extendedIfaFlags : Bool) (knownAddresses : List Ip4Object) (state : σ) : SyncResult σ :=
  let known := addrArrayCleanExpired now knownAddresses
  let afterDeletion := deleteAllUnknown platform known state
  let (state, known) :=
    addKnown platform ifindex now extendedIfaFlags known afterDeletion.platform
  ⟨state, known, afterDeletion.deleted, true⟩

end

/-- What tells the addresses of an interface apart. -/
structure Ip4AddressId where
  address : InAddr
  plen : UInt8
  peerNetwork : UInt32
  deriving DecidableEq, Repr

/-- The identity of an address with a local address, a prefix length and a peer. -/
def idOf (address : InAddr) (plen : UInt8) (peerAddress : InAddr) : Ip4AddressId where
  address := address
  plen := plen
  peerNetwork := htonl (ip4AddressClearHostAddress peerAddress plen)

def addressId (a : NMPlatformIP4Address) : Ip4AddressId := idOf a.address a.plen a.peerAddress

def Ip4AddressRequest.id (request : Ip4AddressRequest) : Ip4AddressId :=
  idOf request.address request.plen request.peerAddress

/-- The address that the kernel makes from a request.  It is secondary if an address of its subnet
exists. -/
def Ip4AddressRequest.toAddress (request : Ip4AddressRequest) (secondary : Bool) :
    NMPlatformIP4Address where
  ifindex := request.ifindex
  addrSource := 257
  timestamp := 0
  lifetime := UInt32.ofNat request.lifetime
  preferred := UInt32.ofNat request.preferred
  nIfaFlags := if secondary then request.flags ||| ifaFSecondary else request.flags
  plen := request.plen
  isExternal := false
  address := request.address
  peerAddress := request.peerAddress
  label := request.label

/-- An address that is added again gets new lifetimes. -/
def refresh (request : Ip4AddressRequest) (a : NMPlatformIP4Address) : NMPlatformIP4Address :=
  { a with
    lifetime := UInt32.ofNat request.lifetime
    preferred := UInt32.ofNat request.preferred }

/-- The kernel puts a new primary address behind the other primary ones and a new secondary address
behind all addresses.  An address that exists keeps its position. -/
def kernelAdd (list : List NMPlatformIP4Address) (request : Ip4AddressRequest) :
    List NMPlatformIP4Address :=
  if list.any fun a => addressId a == request.id then
    list.map fun a => if addressId a = request.id then refresh request a else a
  else
    let secondary := list.any fun a =>
      a.plen == request.plen && (addressId a).peerNetwork == request.id.peerNetwork
    if secondary then list ++ [request.toAddress true]
    else
      (list.filter fun a => !isFlaggedSecondary a) ++ request.toAddress false ::
        list.filter isFlaggedSecondary

/-- A kernel whose operations succeed.  Its state is the list of addresses of the interface. -/
def kernel : Ip4Platform (List NMPlatformIP4Address) where
  addresses list := list.zipIdx.map fun (a, place) => ⟨place, a⟩
  ip4AddressDelete list address plen peerAddress :=
    list.filter fun a => !(addressId a == idOf address plen peerAddress)
  ip4AddressAdd list request := (kernelAdd list request, true)

end NetworkManager.Ip4AddressSync
