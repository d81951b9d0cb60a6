import NetworkManager.Platform.Identity

/-!
# The platform cache

`NMPCache` files every platform object in a main index by type, and in the secondary indexes that
its class supports.  Updates come from netlink and from udev.
-/

namespace NetworkManager

/-- How an operation changed the cache. -/
inductive NMPCacheOpsType where
  | unchanged
  | updated
  | added
  | removed
  deriving DecidableEq, Repr

/-- The platform cache. -/
structure NMPCache where
  multiIdx : NMDedupMultiIndex NMPObject NMPCacheIdType
  /-- Whether links wait for udev. -/
  useUdev : Bool

/-- What an operation reports: how the cache changed, and the object before and after. -/
structure NMPCacheResult where
  cache : NMPCache
  /-- How the cache changed. -/
  ops : NMPCacheOpsType
  objOld : Option NMPObject
  objNew : Option NMPObject

/-- The driver names that udev and ethtool report while an operation runs. -/
structure LinkDrivers where
  /-- `nmp_utils_udev_get_driver`. -/
  udev : Nat → Option String
  /-- `nmp_utils_ethtool_get_driver_info`. -/
  ethtool : Int → Option String

/-- The secondary indexes in which objects of a type are filed: `supported_cache_ids` without the
main index. -/
def NMPObjectType.secondaryCacheIds : NMPObjectType → List NMPCacheIdType
  | .link => [.linkByIfname]
  | .ip4Address => [.objectByIfindex]
  | .ip6Address => [.objectByIfindex]
  | .ip4Route => [.objectByIfindex, .defaultRoutes, .routesByWeakId]
  | .ip6Route => [.objectByIfindex, .defaultRoutes, .routesByWeakId]
  | .routingRule => [.objectByAddrFamily]
  | .qdisc => [.objectByIfindex]
  | .tfilter => [.objectByIfindex]

/-- `IFF_LOWER_UP`. -/
def iffLowerUp : UInt32 := 0x10000

/-- `_link_get_driver`. -/
def linkGetDriver (drivers : LinkDrivers) (udevDevice : Option Nat) (kind : Option String)
    (ifindex : Int) : String :=
  match udevDevice.bind drivers.udev with
  | some driver => driver
  | none =>
    match kind with
    | some kind => kind
    | none =>
      if ifindex > 0 then
        match drivers.ethtool ifindex with
        | some driver => if driver ≠ "" then driver else "unknown"
        | none => "unknown"
      else "unknown"

/-- `_nmp_object_fixup_link_udev_fields`. -/
def fixupLinkUdevFields (drivers : LinkDrivers) (useUdev : Bool) (obj : NMPObjectLink) :
    NMPObjectLink :=
  let driver :=
    if obj.isInNetlink then
      some (linkGetDriver drivers obj.udevDevice obj.link.kind obj.link.ifindex)
    else none
  let initialized := obj.isInNetlink && (obj.udevDevice.isSome || !useUdev)
  { obj with link := { obj.link with driver, initialized } }

/-- An empty link object with an interface index: `nmp_object_new` of a link, and the needle of
`nmp_object_stackinit_id_link`. -/
def newLink (ifindex : Int) : NMPObjectLink where
  link :=
    { ifindex, name := "", type := .none, kind := none, driver := none, master := 0, parent := 0,
      nIfiFlags := 0, mtu := 0, arptype := 0, lAddress := [], lBroadcast := [], inet6Token := 0,
      inet6AddrGenModeInv := 0, rxPackets := 0, rxBytes := 0, txPackets := 0, txBytes := 0,
      connected := false, initialized := false }
  isInNetlink := false
  lnk := none
  wireguardFamilyId := 0
  udevDevice := none

/-- `_obj_get_add_mode`. -/
def objGetAddMode (obj : NMPObject) : NMDedupMultiIdxMode :=
  if obj.getType = .ip4Address ∨ obj.getType = .ip6Address then .prepend else .append

/-- `nmp_cache_link_connected_for_slave`. -/
def linkConnectedForSlave (ifindexMaster : Int) (slave : NMPObjectLink) : Bool :=
  ifindexMaster > 0 && slave.link.master = ifindexMaster && slave.link.connected &&
    (NMPObject.link slave).isVisible

namespace NMPCache

variable (support : KernelSupport)

/-- `nmp_cache_new`. -/
def new (useUdev : Bool) : NMPCache where
  multiIdx := NMDedupMultiIndex.new
  useUdev := useUdev

def entryObj (multiIdx : NMDedupMultiIndex NMPObject NMPCacheIdType) (addr : Nat) :
    Option NMPObject :=
  (multiIdx.entries addr).map (·.obj)

section

variable (self : NMPCache)

/-- `_lookup_entry_with_idx_type`. -/
def lookupEntryWithIdxType (idType : NMPCacheIdType) (obj : NMPObject) : Option Nat :=
  self.multiIdx.lookupObj (dedupMultiIdxTypeClass support) idType obj

/-- `_lookup_entry`. -/
def lookupEntry (obj : NMPObject) : Option Nat :=
  self.lookupEntryWithIdxType support .objectType obj

/-- `nmp_cache_lookup_all`. -/
def lookupAll (idType : NMPCacheIdType) (selectObj : NMPObject) : Option Nat :=
  self.multiIdx.lookupHead (dedupMultiIdxTypeClass support) idType (some selectObj)

/-- The objects in the list of a head, in order. -/
def listObjs (multiIdx : NMDedupMultiIndex NMPObject NMPCacheIdType) (head : Option Nat) :
    List NMPObject :=
  ((head.bind multiIdx.heads).map (·.lstEntries)).getD [] |>.filterMap (entryObj multiIdx)

/-- `nmp_cache_link_connected_needs_toggle` without a potential or an ignored slave. -/
def linkConnectedNeedsToggle (master : NMPObjectLink) : Bool :=
  if !(decide (master.link.ifindex > 0)) || !(NMPObject.link master).isVisible ||
      !(decide (master.link.type = .bridge) || decide (master.link.type = .bond)) then
    false
  else if master.link.nIfiFlags &&& iffLowerUp = 0 then master.link.connected
  else
    let isLowerUp :=
      (listObjs self.multiIdx
        (self.lookupAll support .objectType (.link (newLink 0)))).any fun obj =>
          match obj with
          | .link slave => linkConnectedForSlave master.link.ifindex slave
          | _ => false
    master.link.connected != isLowerUp

/-- `_nmp_object_fixup_link_master_connected`. -/
def fixupLinkMasterConnected (obj : NMPObjectLink) : NMPObjectLink :=
  if self.linkConnectedNeedsToggle support obj then
    { obj with link := { obj.link with connected := !obj.link.connected } }
  else obj

/-- The loop of `_idxcache_update_order_for_dump` over the secondary indexes. -/
def updateOrderLoop (obj : NMPObject) :
    List NMPCacheIdType → NMDedupMultiIndex NMPObject NMPCacheIdType →
      NMDedupMultiIndex NMPObject NMPCacheIdType
  | [], multiIdx => multiIdx
  | idType :: rest, multiIdx =>
    match multiIdx.lookupObj (dedupMultiIdxTypeClass support) idType obj with
    | some addr => updateOrderLoop obj rest (multiIdx.entryReorder addr none true).1
    | none => updateOrderLoop obj rest multiIdx

/-- `_idxcache_update_order_for_dump`. -/
def idxcacheUpdateOrderForDump (multiIdx : NMDedupMultiIndex NMPObject NMPCacheIdType)
    (entry : Nat) : NMDedupMultiIndex NMPObject NMPCacheIdType :=
  let multiIdx := (multiIdx.entryReorder entry none true).1
  match entryObj multiIdx entry with
  | some obj => updateOrderLoop support obj obj.getType.secondaryCacheIds multiIdx
  | none => multiIdx

/-- The entry that `_idxcache_update_other_cache_ids` updates: the old one if the new object has the
same key, else the result of a lookup. -/
def entryForNew (multiIdx : NMDedupMultiIndex NMPObject NMPCacheIdType) (idType : NMPCacheIdType)
    (objOld : Option NMPObject) (objNew : NMPObject) : Option Nat :=
  let klass := dedupMultiIdxTypeClass support
  match objOld with
  | some objOld =>
    if (klass idType).idEqual objOld objNew &&
        (klass idType).partitionEqual (some objOld) (some objNew) then
      multiIdx.lookupObj klass idType objOld
    else multiIdx.lookupObj klass idType objNew
  | none => multiIdx.lookupObj klass idType objNew

/-- The head of an entry, as a hint for adding next to it. -/
def existingHead (multiIdx : NMDedupMultiIndex NMPObject NMPCacheIdType) (entry : Option Nat) :
    Existing :=
  match entry.bind multiIdx.entries with
  | some entry => .addr entry.head
  | none => .null

/-- `_idxcache_update_other_cache_ids`. -/
def idxcacheUpdateOtherCacheIds (multiIdx : NMDedupMultiIndex NMPObject NMPCacheIdType)
    (idType : NMPCacheIdType) (objOld objNew : Option NMPObject) (isDump : Bool) :
    NMDedupMultiIndex NMPObject NMPCacheIdType :=
  let klass := dedupMultiIdxTypeClass support
  let entryOld := objOld.bind (multiIdx.lookupObj klass idType)
  match objNew with
  | none =>
    match entryOld with
    | some addr => (multiIdx.removeEntry klass (.entry addr)).1
    | none => multiIdx
  | some objNew =>
    let entryNew := entryForNew support multiIdx idType objOld objNew
    let entryOrder :=
      match entryNew with
      | some addr => some addr
      | none =>
        entryOld.filter fun addr =>
          (klass idType).partitionEqual (entryObj multiIdx addr) (some objNew)
    let headExisting := existingHead multiIdx entryOrder
    let added := multiIdx.addFull klass idType objNew
      (if isDump then .appendForce else objGetAddMode objNew)
      (if isDump then none else entryOrder)
      (match entryNew with
        | some addr => .addr addr
        | none => .missing)
      headExisting
    match entryOld with
    | some addr =>
      if added.2.outEntry ≠ some addr then (added.1.removeEntry klass (.entry addr)).1
      else added.1
    | none => added.1

/-- The loop of `_idxcache_update` over the secondary indexes. -/
def updateOtherLoop (objOld objNew : Option NMPObject) (isDump : Bool) :
    List NMPCacheIdType → NMDedupMultiIndex NMPObject NMPCacheIdType →
      NMDedupMultiIndex NMPObject NMPCacheIdType
  | [], multiIdx => multiIdx
  | idType :: rest, multiIdx =>
    updateOtherLoop objOld objNew isDump rest
      (idxcacheUpdateOtherCacheIds support multiIdx idType objOld objNew isDump)

/-- The part of `_idxcache_update` for the main index, with `entry_new`. -/
def updateMain (multiIdx : NMDedupMultiIndex NMPObject NMPCacheIdType) (entryOld : Option Nat)
    (objNew : Option NMPObject) (isDump : Bool) :
    NMDedupMultiIndex NMPObject NMPCacheIdType × Option Nat :=
  let klass := dedupMultiIdxTypeClass support
  match objNew, entryOld with
  | some objNew, entryOld =>
    let added := multiIdx.addFull klass .objectType objNew
      (if isDump then .appendForce else objGetAddMode objNew) none
      (match entryOld with
        | some addr => .addr addr
        | none => .missing)
      .null
    (added.1, added.2.outEntry)
  | none, some addr => ((multiIdx.removeEntry klass (.entry addr)).1, none)
  | none, none => (multiIdx, none)

/-- `_idxcache_update`, with `out_entry_new`. -/
def idxcacheUpdate (entryOld : Option Nat) (objNew : Option NMPObject) (isDump : Bool) :
    NMPCache × Option Nat :=
  let objOld := entryOld.bind (entryObj self.multiIdx)
  let main := updateMain support self.multiIdx entryOld objNew isDump
  let boxed := main.2.bind (entryObj main.1)
  let idTypes := ((boxed.or objOld).map (·.getType.secondaryCacheIds)).getD []
  ({ self with multiIdx := updateOtherLoop support objOld boxed isDump idTypes main.1 }, main.2)

/-- The object that `nmp_cache_remove` looks for, and whether it is the very instance that the
index owns. -/
structure Needle where
  obj : NMPObject
  /-- Whether the instance was obtained from the index. -/
  owned : Bool

/-- `nmp_cache_remove`. -/
def remove (objNeedle : Needle) (equalsByPtr onlyDirty : Bool) : NMPCacheResult :=
  match self.lookupEntry support objNeedle.obj with
  | none => { cache := self, ops := .unchanged, objOld := none, objNew := none }
  | some entryOld =>
    match self.multiIdx.entries entryOld with
    | none => { cache := self, ops := .unchanged, objOld := none, objNew := none }
    | some entry =>
      if equalsByPtr && !(objNeedle.owned && decide (entry.obj = objNeedle.obj)) then
        { cache := self, ops := .unchanged, objOld := some entry.obj, objNew := none }
      else if onlyDirty && !entry.dirty then
        { cache := self, ops := .unchanged, objOld := some entry.obj, objNew := none }
      else
        { cache := (self.idxcacheUpdate support (some entryOld) none false).1
          ops := .removed, objOld := some entry.obj, objNew := none }

/-- The result of putting a new version of an object into the cache. -/
def updateTo (entryOld : Option Nat) (objNew : NMPObject) (isDump : Bool) (ops : NMPCacheOpsType) :
    NMPCacheResult :=
  let objOld := entryOld.bind (entryObj self.multiIdx)
  let updated := self.idxcacheUpdate support entryOld (some objNew) isDump
  { cache := updated.1, ops, objOld, objNew := updated.2.bind (entryObj updated.1.multiIdx) }

/-- The result of removing an object from the cache. -/
def removeOld (entryOld : Nat) : NMPCacheResult :=
  { cache := (self.idxcacheUpdate support (some entryOld) none false).1
    ops := .removed
    objOld := entryObj self.multiIdx entryOld
    objNew := none }

/-- `nmp_cache_remove_netlink`. -/
def removeNetlink (drivers : LinkDrivers) (objNeedle : NMPObject) : NMPCacheResult :=
  match self.lookupEntry support objNeedle with
  | none => { cache := self, ops := .unchanged, objOld := none, objNew := none }
  | some entryOld =>
    match entryObj self.multiIdx entryOld with
    | some (.link objOld) =>
      if !objOld.isInNetlink then
        { cache := self, ops := .unchanged, objOld := some (.link objOld)
          objNew := some (.link objOld) }
      else if objOld.udevDevice.isNone then self.removeOld support entryOld
      else
        let objNew := { objOld with isInNetlink := false }
        let objNew := self.fixupLinkMasterConnected support objNew
        let objNew := fixupLinkUdevFields drivers self.useUdev objNew
        self.updateTo support (some entryOld) (.link objNew) false .updated
    | _ => self.removeOld support entryOld

/-- The tail of `nmp_cache_update_netlink` for an object that stays alive. -/
def updateAlive (entryOld : Nat) (objHandOver : NMPObject) (isDump : Bool) : NMPCacheResult :=
  match entryObj self.multiIdx entryOld with
  | none => { cache := self, ops := .unchanged, objOld := none, objNew := none }
  | some objOld =>
    if objOld.equal support objHandOver then
      let multiIdx :=
        if isDump then idxcacheUpdateOrderForDump support self.multiIdx entryOld
        else self.multiIdx
      { cache := { self with multiIdx := multiIdx.entrySetDirty entryOld false }
        ops := .unchanged, objOld := some objOld, objNew := some objOld }
    else self.updateTo support (some entryOld) objHandOver isDump .updated

/-- `nmp_cache_update_netlink`.  Interning the `lnk` part of a link does not change its value. -/
def updateNetlink (drivers : LinkDrivers) (objHandOver : NMPObject) (isDump : Bool) :
    NMPCacheResult :=
  match self.lookupEntry support objHandOver with
  | none =>
    if objHandOver.isAlive then
      match objHandOver with
      | .link link =>
        let link := self.fixupLinkMasterConnected support link
        let link := fixupLinkUdevFields drivers self.useUdev link
        self.updateTo support none (.link link) isDump .added
      | objHandOver => self.updateTo support none objHandOver isDump .added
    else { cache := self, ops := .unchanged, objOld := none, objNew := none }
  | some entryOld =>
    match objHandOver, entryObj self.multiIdx entryOld with
    | .link link, some (.link objOld) =>
      if !link.isInNetlink && !objOld.isInNetlink then
        { cache := self, ops := .unchanged, objOld := some (.link objOld)
          objNew := some (.link objOld) }
      else if link.isInNetlink || objOld.udevDevice.isSome then
        let link := self.fixupLinkMasterConnected support link
        let link := { link with udevDevice := objOld.udevDevice }
        let link := fixupLinkUdevFields drivers self.useUdev link
        self.updateAlive support entryOld (.link link) isDump
      else self.removeOld support entryOld
    | objHandOver, _ =>
      if objHandOver.isAlive then self.updateAlive support entryOld objHandOver isDump
      else self.removeOld support entryOld

/-- The flags of a netlink message that tell how a route was added. -/
structure NlmFlags where
  replace : Bool
  excl : Bool
  create : Bool
  append : Bool
  deriving DecidableEq, Repr

/-- What `nmp_cache_update_netlink_route` reports in addition. -/
structure RouteResult extends NMPCacheResult where
  objReplace : Option NMPObject
  resyncRequired : Bool

/-- The first part of `nmp_cache_update_netlink_route`, up to `update_done`, with `entry_new`. -/
def updateRouteEntry (objHandOver : NMPObject) (isDump : Bool) :
    NMPCache × NMPCacheOpsType × Option Nat :=
  match self.lookupEntry support objHandOver with
  | none =>
    if objHandOver.isAlive then
      let updated := self.idxcacheUpdate support none (some objHandOver) isDump
      (updated.1, .added, updated.2)
    else (self, .unchanged, none)
  | some entryOld =>
    if objHandOver.isAlive then
      if ((entryObj self.multiIdx entryOld).map (·.equal support objHandOver)).getD false then
        let multiIdx :=
          if isDump then idxcacheUpdateOrderForDump support self.multiIdx entryOld
          else self.multiIdx
        ({ self with multiIdx := multiIdx.entrySetDirty entryOld false }, .unchanged, none)
      else
        let updated := self.idxcacheUpdate support (some entryOld) (some objHandOver) isDump
        (updated.1, .updated, updated.2)
    else ((self.idxcacheUpdate support (some entryOld) none false).1, .removed, none)

/-- The second part of `nmp_cache_update_netlink_route`: the order within the destination, and the
route that was replaced. -/
def reorderRoute (entryNew : Nat) (flags : NlmFlags) : NMPCache × Option NMPObject × Bool :=
  match (entryObj self.multiIdx entryNew).bind
      (self.lookupEntryWithIdxType support .routesByWeakId) with
  | none => (self, none, false)
  | some entryCur =>
    let lstEntries := (((self.multiIdx.entries entryCur).bind
      fun entry => self.multiIdx.heads entry.head).map (·.lstEntries)).getD []
    if lstEntries.length = 1 then (self, none, false)
    else
      match flags.replace, flags.excl, flags.create, flags.append with
      | true, false, false, false =>
        match lstEntries.find? (· ≠ entryCur) with
        | some entryReplace =>
          ({ self with
              multiIdx := (self.multiIdx.entryReorder entryCur (some entryReplace) false).1 },
            entryObj self.multiIdx entryReplace, false)
        | none => (self, none, false)
      | false, false, true, true =>
        ({ self with multiIdx := (self.multiIdx.entryReorder entryCur none true).1 }, none, false)
      | false, false, true, false =>
        ({ self with multiIdx := (self.multiIdx.entryReorder entryCur none false).1 }, none, false)
      | _, _, _, _ => (self, none, true)

/-- `nmp_cache_update_netlink_route`. -/
def updateNetlinkRoute (objHandOver : NMPObject) (isDump : Bool) (flags : NlmFlags) : RouteResult :=
  let objOld := (self.lookupEntry support objHandOver).bind (entryObj self.multiIdx)
  let (cache, ops, entryNew) := self.updateRouteEntry support objHandOver isDump
  let objNew := entryNew.bind (entryObj cache.multiIdx)
  if isDump then { cache, ops, objOld, objNew, objReplace := none, resyncRequired := false }
  else
    match entryNew with
    | none =>
      { cache, ops, objOld, objNew, objReplace := none
        resyncRequired :=
          flags.replace && (cache.lookupAll support .routesByWeakId objHandOver).isSome }
    | some entryNew =>
      let (cache, objReplace, resyncRequired) := cache.reorderRoute support entryNew flags
      { cache, ops, objOld, objNew, objReplace, resyncRequired }

/-- `nmp_cache_update_link_udev`. -/
def updateLinkUdev (drivers : LinkDrivers) (ifindex : Int) (udevice : Option Nat) :
    NMPCacheResult :=
  match self.lookupEntry support (.link (newLink ifindex)) with
  | none =>
    match udevice with
    | none => { cache := self, ops := .unchanged, objOld := none, objNew := none }
    | some udevice =>
      let objNew := { newLink ifindex with udevDevice := some udevice }
      let objNew := fixupLinkUdevFields drivers self.useUdev objNew
      self.updateTo support none (.link objNew) false .added
  | some entryOld =>
    match entryObj self.multiIdx entryOld with
    | some (.link objOld) =>
      if objOld.udevDevice = udevice then
        { cache := self, ops := .unchanged, objOld := some (.link objOld)
          objNew := some (.link objOld) }
      else if udevice.isNone && !objOld.isInNetlink then self.removeOld support entryOld
      else
        let objNew := { objOld with udevDevice := udevice }
        let objNew := fixupLinkUdevFields drivers self.useUdev objNew
        self.updateTo support (some entryOld) (.link objNew) false .updated
    | _ => { cache := self, ops := .unchanged, objOld := none, objNew := none }

/-- `nmp_cache_update_link_master_connected`. -/
def updateLinkMasterConnected (ifindex : Int) : NMPCacheResult :=
  match self.lookupEntry support (.link (newLink ifindex)) with
  | none => { cache := self, ops := .unchanged, objOld := none, objNew := none }
  | some entryOld =>
    match entryObj self.multiIdx entryOld with
    | some (.link objOld) =>
      if self.linkConnectedNeedsToggle support objOld then
        let objNew := { objOld with
          link := { objOld.link with connected := !objOld.link.connected } }
        self.updateTo support (some entryOld) (.link objNew) false .updated
      else
        { cache := self, ops := .unchanged, objOld := some (.link objOld)
          objNew := some (.link objOld) }
    | _ => { cache := self, ops := .unchanged, objOld := none, objNew := none }

def lookupEntries (idType : NMPCacheIdType) (selectObj : NMPObject) : List Nat :=
  (((self.lookupAll support idType selectObj).bind self.multiIdx.heads).map (·.lstEntries)).getD []

/-- `nmp_cache_reresolve_main_entry`. -/
def reresolveMainEntry (entry : Nat) (idType : NMPCacheIdType) : Option Nat :=
  if idType = .objectType then some entry
  else (entryObj self.multiIdx entry).bind (self.lookupEntry support)

end

/-- The loop of `nmp_cache_dirty_set_all_main`. -/
def dirtySetLoop (idType : NMPCacheIdType) : List Nat → NMPCache → NMPCache
  | [], self => self
  | addr :: rest, self =>
    match self.reresolveMainEntry support addr idType with
    | some mainEntry =>
      dirtySetLoop idType rest
        { self with multiIdx := self.multiIdx.entrySetDirty mainEntry true }
    | none => dirtySetLoop idType rest self

/-- `nmp_cache_dirty_set_all_main`. -/
def dirtySetAllMain (self : NMPCache) (idType : NMPCacheIdType) (selectObj : NMPObject) :
    NMPCache :=
  self.dirtySetLoop support idType (self.lookupEntries support idType selectObj)

/-- One round of `cache_prune_one_type`. -/
def pruneEntry (self : NMPCache) (idType : NMPCacheIdType) (addr : Nat) : NMPCache :=
  match (self.reresolveMainEntry support addr idType).bind self.multiIdx.entries with
  | some mainEntry =>
    if mainEntry.dirty then
      (self.remove support { obj := mainEntry.obj, owned := true } true true).cache
    else self
  | none => self

/-- The loop of `cache_prune_one_type` over the entries that were listed when it started: the
iterator looks ahead, so that the current entry can be removed. -/
def pruneLoop (idType : NMPCacheIdType) : List Nat → NMPCache → NMPCache
  | [], self => self
  | addr :: rest, self => pruneLoop idType rest (self.pruneEntry support idType addr)

/-- `cache_prune_one_type`. -/
def pruneOneType (self : NMPCache) (idType : NMPCacheIdType) (selectObj : NMPObject) : NMPCache :=
  self.pruneLoop support idType (self.lookupEntries support idType selectObj)

end NMPCache

end NetworkManager
