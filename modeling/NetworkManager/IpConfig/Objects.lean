import Mathlib.Algebra.Group.Int.Defs
import NetworkManager.Platform.Identity

/-!
# The objects of an IP configuration

Addresses and routes of a configuration are kept in an index of the multi index, in an order, and
at most once for each identity.  The index of one configuration is its list of entries here.  An
object that is stored is interned, so that two stored objects are the same exactly if they are equal.
-/

namespace NetworkManager.IPConfig

/-- What the functions for IP configurations use of `NMPClass`. -/
class NMPClass (α : Type) where
  /-- `nmp_object_id_cmp`. -/
  idCmp : α → α → Ordering
  cmp : α → α → Ordering
  ifindex : α → Int
  setIfindex : α → Int → α
  /-- What `_nm_ip_config_add_obj` makes of a new object, from the old object with its identity. -/
  mergeOld : α → α → α

section Entries

variable {α : Type} [NMPClass α]

/-- `nmp_object_id_equal`. -/
def idEqual (a b : α) : Bool := (NMPClass.idCmp a b).isEq

/-- `nmp_object_equal`. -/
def objEqual (a b : α) : Bool := (NMPClass.cmp a b).isEq

/-- `NMDedupMultiEntry`. -/
structure Entry (α : Type) where
  obj : α
  dirty : Bool
  deriving DecidableEq, Repr

section

variable (entries : List (Entry α))

/-- The objects in their order. -/
def objs : List α := entries.map Entry.obj

/-- `nm_dedup_multi_index_lookup_obj`. -/
def lookupObj (needle : α) : Option (Entry α) :=
  entries.find? fun entry => idEqual entry.obj needle

/-- `nm_dedup_multi_index_remove_obj`: the entries that remain, and the object that was removed. -/
def removeObj (needle : α) : List (Entry α) × Option α :=
  (entries.filter fun entry => !idEqual entry.obj needle, (lookupObj entries needle).map Entry.obj)

/-- `nm_dedup_multi_index_dirty_set_idx`. -/
def dirtySetIdx : List (Entry α) :=
  entries.map fun entry => { entry with dirty := true }

/-- `nm_dedup_multi_index_dirty_remove_idx`. -/
def dirtyRemoveIdx : List (Entry α) :=
  entries.filter fun entry => !entry.dirty

/-- The entry of an object is overwritten, at its place or at the end. -/
def overwrite (obj : α) (appendForce : Bool) : List (Entry α) :=
  if appendForce then
    (entries.filter fun entry => !idEqual entry.obj obj) ++ [⟨obj, false⟩]
  else entries.map fun entry => if idEqual entry.obj obj then ⟨obj, false⟩ else entry

end

/-- What `_nm_ip_config_add_obj` gives. -/
structure AddObj (α : Type) where
  entries : List (Entry α)
  changed : Bool
  objOld : Option α
  objNew : α

section

variable (entries : List (Entry α))

/-- Whether an object is not the last one, so that moving it to the end changes the order. -/
def movesToEnd (obj : α) : Bool :=
  match entries.getLast? with
  | none => false
  | some last => !idEqual last.obj obj

/-- The end of `_nm_ip_config_add_obj`, with an object that is given the interface index. -/
def addObjTo (objNew : α) (merge appendForce : Bool) : AddObj α :=
  match lookupObj entries objNew with
  | none => ⟨entries ++ [⟨objNew, false⟩], true, none, objNew⟩
  | some entryOld =>
    let merged :=
      if !objEqual objNew entryOld.obj ∧ merge then NMPClass.mergeOld objNew entryOld.obj
      else objNew
    if objEqual merged entryOld.obj then
      ⟨overwrite entries entryOld.obj appendForce,
        appendForce && movesToEnd entries entryOld.obj, some entryOld.obj, entryOld.obj⟩
    else ⟨overwrite entries merged appendForce, true, some entryOld.obj, merged⟩

/-- `_nm_ip_config_add_obj`. -/
def addObj (ifindex : Int) (objNew : α) (merge appendForce : Bool) :
    AddObj α :=
  addObjTo entries (NMPClass.setIfindex objNew ifindex) merge appendForce

end

end Entries

/-- `NM_PLATFORM_LIFETIME_PERMANENT`. -/
def lifetimePermanent : UInt32 := 0xFFFFFFFF

/-- The end of a lifetime that is counted from a timestamp. -/
def expiry (timestamp duration : UInt32) : Int :=
  if timestamp ≠ 0 then timestamp.toNat + duration.toNat else 0

/-- `nm_platform_ip_address_cmp_expiry`. -/
def ipAddressCmpExpiry (a b : NMPlatformIPAddress) : Ordering :=
  let valid (address : NMPlatformIPAddress) : Int :=
    if address.lifetime = lifetimePermanent ∨ address.lifetime = 0 then 2 ^ 63 - 1
    else expiry address.timestamp address.lifetime
  let preferred (address : NMPlatformIPAddress) : Int :=
    if address.preferred = lifetimePermanent ∨ address.lifetime = 0 then 2 ^ 63 - 1
    else expiry address.timestamp address.preferred
  (compare (valid a) (valid b)).then (compare (preferred a) (preferred b))

/-- `NM_IP_CONFIG_SOURCE_KERNEL`. -/
def sourceKernel : Nat := 257

/-- How `_nm_ip_config_add_obj` merges a new address with an old one. -/
def mergeAddress (new old : NMPlatformIPAddress) : NMPlatformIPAddress :=
  let keepLifetime : Bool := (new.addrSource = sourceKernel ∧ old.addrSource ≠ sourceKernel) ∨
    ipAddressCmpExpiry old new = .gt
  let new := if keepLifetime then
    { new with timestamp := old.timestamp, lifetime := old.lifetime, preferred := old.preferred }
    else new
  if new.addrSource < old.addrSource then { new with addrSource := old.addrSource } else new

instance : NMPClass NMPlatformIP4Address where
  idCmp := ip4AddressIdCmp
  cmp := ip4AddressCmp
  ifindex := fun address => address.ifindex
  setIfindex := fun address ifindex => { address with ifindex := ifindex }
  mergeOld := fun new old =>
    { new with toNMPlatformIPAddress :=
        mergeAddress new.toNMPlatformIPAddress old.toNMPlatformIPAddress }

/-- What the functions for IP configurations use of routes of one family. -/
class NMPlatformIPRouteClass (ρ : Type) extends NMPClass ρ where
  common : ρ → NMPlatformIPRoute
  setMetric : ρ → UInt32 → ρ
  /-- `nm_utils_ip_route_metric_normalize`. -/
  metricNormalize : UInt32 → UInt32
  /-- The largest prefix length. -/
  maxPlen : UInt8

/-- How `_nm_ip_config_add_obj` merges a new route with an old one. -/
def mergeRoute (new old : NMPlatformIPRoute) : NMPlatformIPRoute :=
  if new.rtSource < old.rtSource then { new with rtSource := old.rtSource } else new

instance : NMPlatformIPRouteClass NMPlatformIP4Route where
  idCmp := fun a b => ip4RouteCmp a b .id
  cmp := fun a b => ip4RouteCmp a b .full
  ifindex := fun route => route.ifindex
  setIfindex := fun route ifindex => { route with ifindex := ifindex }
  mergeOld := fun new old =>
    { new with toNMPlatformIPRoute :=
        mergeRoute new.toNMPlatformIPRoute old.toNMPlatformIPRoute }
  common := fun route => route.toNMPlatformIPRoute
  setMetric := fun route metric => { route with metric := metric }
  metricNormalize := id
  maxPlen := 32

instance : NMPlatformIPRouteClass NMPlatformIP6Route where
  idCmp := fun a b => ip6RouteCmp a b .id
  cmp := fun a b => ip6RouteCmp a b .full
  ifindex := fun route => route.ifindex
  setIfindex := fun route ifindex => { route with ifindex := ifindex }
  mergeOld := fun new old =>
    { new with toNMPlatformIPRoute :=
        mergeRoute new.toNMPlatformIPRoute old.toNMPlatformIPRoute }
  common := fun route => route.toNMPlatformIPRoute
  setMetric := fun route metric => { route with metric := metric }
  metricNormalize := ip6RouteMetricNormalize
  maxPlen := 128

end NetworkManager.IPConfig
