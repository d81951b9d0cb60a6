import NetworkManager.Dedup.Invariant
import NetworkManager.Platform.Object

/-!
# Identity and equality of platform objects

Both comparisons of platform objects compare keys: the fields that a comparison reads, brought into
a normal form.  Hence both are equivalences, full equality refines identity, and the index types of
the platform cache meet the contract of the multi-index.
-/

namespace NetworkManager

open Ordering

/-- The index types of the platform cache. -/
inductive NMPCacheIdType where
  | objectType
  | linkByIfname
  | defaultRoutes
  | objectByIfindex
  | routesByWeakId
  | objectByAddrFamily
  deriving DecidableEq, Repr

/-- The part of an IPv6 address that a comparison of prefixes reads. -/
def ip6PrefixKey (addr : In6Addr) (plen : UInt8) : In6Addr × BitVec 8 :=
  if plen.toNat ≥ 128 then (addr, 0)
  else
    (if plen.toNat / 8 ≠ 0 then addr.firstBytes (plen.toNat / 8) else 0,
      if plen.toNat % 8 ≠ 0 then addr.byte (plen.toNat / 8) &&& byteMask (plen.toNat % 8) else 0)

/-- The destination of an IPv4 route. -/
structure Ip4RouteWeakKey where
  table : UInt32
  /-- The network without host bits. -/
  network : UInt32
  plen : UInt8
  metric : UInt32
  tos : UInt8

def NMPlatformIP4Route.weakKey (route : NMPlatformIP4Route) : Ip4RouteWeakKey where
  table := routeTableUncoerce route.tableCoerced true
  network := htonl (ip4AddressClearHostAddress route.network route.plen)
  plen := route.plen
  metric := route.metric
  tos := route.tos

/-- The identity of an IPv4 route. -/
structure Ip4RouteKey where
  weak : Ip4RouteWeakKey
  ifindex : Int
  rtprot : Nat
  scopeInv : UInt8
  gateway : InAddr
  /-- The advertised segment size. -/
  mss : UInt32
  prefSrc : InAddr
  windows : UInt32 × UInt32 × UInt32 × UInt32 × UInt32
  onlink : UInt32
  locks : Bool × Bool × Bool × Bool × Bool

def NMPlatformIPRoute.windows (route : NMPlatformIPRoute) :
    UInt32 × UInt32 × UInt32 × UInt32 × UInt32 :=
  (route.window, route.cwnd, route.initcwnd, route.initrwnd, route.mtu)

def NMPlatformIPRoute.locks (route : NMPlatformIPRoute) : Bool × Bool × Bool × Bool × Bool :=
  (route.lockWindow, route.lockCwnd, route.lockInitcwnd, route.lockInitrwnd, route.lockMtu)

def NMPlatformIP4Route.key (route : NMPlatformIP4Route) : Ip4RouteKey where
  weak := route.weakKey
  ifindex := route.ifindex
  rtprot := ipConfigSourceRoundTripRtprot route.rtSource
  scopeInv := ipRouteScopeInvGetNormalized route
  gateway := route.gateway
  mss := route.mss
  prefSrc := route.prefSrc
  windows := route.windows
  onlink := route.rRtmFlags &&& rtnhFOnlink
  locks := route.locks

/-- The destination and the source of an IPv6 route. -/
structure Ip6RouteWeakKey where
  table : UInt32
  /-- The network without host bits. -/
  network : In6Addr × BitVec 8
  plen : UInt8
  metric : UInt32
  /-- The source without host bits. -/
  src : In6Addr × BitVec 8
  /-- The prefix length of the source. -/
  srcPlen : UInt8

/-- The destination and the source of a route. -/
def NMPlatformIP6Route.weakKey (route : NMPlatformIP6Route) : Ip6RouteWeakKey where
  table := routeTableUncoerce route.tableCoerced true
  network := ip6PrefixKey route.network route.plen
  plen := route.plen
  metric := ip6RouteMetricNormalize route.metric
  src := ip6PrefixKey route.src route.srcPlen
  srcPlen := route.srcPlen

/-- The part of a rule's address that its family uses. -/
def familyAddr (addrFamily : UInt8) (addr : In6Addr) : In6Addr :=
  if addrFamily = afInet then addr.firstBytes 4 else addr

/-- The identity of a routing rule.  Parts that the comparison skips are absent. -/
structure RoutingRuleKey where
  addrFamily : UInt8
  action : UInt8
  priority : UInt32
  tunId : UInt64
  l3mdev : Option Bool
  table : UInt32
  flags : UInt32
  fwmark : UInt32
  /-- The mask of the firewall mark. -/
  fwmask : UInt32
  suppressPrefixlenInverse : UInt32
  suppressIfgroupInverse : UInt32
  tos : UInt8
  /-- The realm of an IPv4 rule. -/
  flow : Option UInt32
  protocol : Option UInt8
  ipProto : Option (UInt8 × (UInt16 × UInt16) × (UInt16 × UInt16))
  srcLen : UInt8
  src : Option In6Addr
  /-- The prefix length of the destination. -/
  dstLen : UInt8
  dst : Option In6Addr
  uidRange : Option (Bool × Option (UInt32 × UInt32))
  iifname : String
  oifname : String

def onlyIf {α : Type*} (condition : Prop) [Decidable condition] (value : α) : Option α :=
  if condition then some value else none

def NMPlatformRoutingRule.key (support : KernelSupport) (rule : NMPlatformRoutingRule) :
    RoutingRuleKey where
  addrFamily := rule.addrFamily
  action := rule.action
  priority := rule.priority
  tunId := rule.tunId
  l3mdev := onlyIf (support.fraL3mdev = true) (decide (rule.l3mdev ≠ 0))
  table := rule.table
  flags := rule.flags &&& ~~~ routingRuleFlagsIgnore
  fwmark := rule.fwmark
  fwmask := rule.fwmask
  suppressPrefixlenInverse := rule.suppressPrefixlenInverse
  suppressIfgroupInverse := rule.suppressIfgroupInverse
  tos := rule.tos
  flow := onlyIf (rule.addrFamily = afInet) rule.flow
  protocol := onlyIf (support.fraProtocol = true) rule.protocol
  ipProto := onlyIf (support.fraIpProto = true) (rule.ipProto, rule.sportRange, rule.dportRange)
  srcLen := rule.srcLen
  src := onlyIf (rule.srcLen > 0) (familyAddr rule.addrFamily rule.src)
  dstLen := rule.dstLen
  dst := onlyIf (rule.dstLen > 0) (familyAddr rule.addrFamily rule.dst)
  uidRange := onlyIf (support.fraUidRange = true)
    (rule.uidRangeHas, onlyIf (rule.uidRangeHas = true) rule.uidRange)
  iifname := rule.iifname
  oifname := rule.oifname

/-- The identity of an object. -/
inductive NMPObjectKey where
  | link (ifindex : Int)
  | ip4Address (ifindex : Int) (plen : UInt8) (address : InAddr) (peerNetwork : UInt32)
  | ip6Address (ifindex : Int) (address : In6Addr)
  | ip4Route (key : Ip4RouteKey)
  | ip6Route (weak : Ip6RouteWeakKey) (ifindex : Int) (gateway : In6Addr)
  | routingRule (key : RoutingRuleKey)
  | invalidRule (rule : NMPlatformRoutingRule)
  | qdisc (ifindex : Int) (parent : UInt32)
  | tfilter (ifindex : Int) (handle : UInt32)

/-- The identity of an object.  A rule of another address family is identical to itself only. -/
def NMPObject.key (support : KernelSupport) : NMPObject → NMPObjectKey
  | link obj => .link obj.link.ifindex
  | ip4Address address => .ip4Address address.ifindex address.plen address.address
      (htonl (ip4AddressClearHostAddress address.peerAddress address.plen))
  | ip6Address address => .ip6Address address.ifindex address.address
  | ip4Route route => .ip4Route route.key
  | ip6Route route => .ip6Route route.weakKey route.ifindex route.gateway
  | routingRule rule =>
    if isInetFamily rule.addrFamily then .routingRule (rule.key support) else .invalidRule rule
  | qdisc obj => .qdisc obj.ifindex obj.parent
  | tfilter obj => .tfilter obj.ifindex obj.handle

theorem NMLinkType.cmp_eq {a b : NMLinkType} : a.cmp b = .eq ↔ a = b := by
  unfold NMLinkType.cmp
  rw [Std.compare_eq_iff_eq]
  constructor
  · intro same
    rw [← NMLinkType.ofNat_ctorIdx a, same, NMLinkType.ofNat_ctorIdx]
  · rintro rfl
    rfl

theorem ip6AddressSamePrefixCmp_eq {a b : In6Addr} {plen : UInt8} :
    ip6AddressSamePrefixCmp a b plen = .eq ↔ ip6PrefixKey a plen = ip6PrefixKey b plen := by
  unfold ip6AddressSamePrefixCmp ip6PrefixKey
  split
  · simp
  · split <;> split <;> simp_all [then_eq_eq]

theorem ip4AddressSamePrefixCmp_eq {a b : InAddr} {plen : UInt8} :
    ip4AddressSamePrefixCmp a b plen = .eq ↔
      htonl (ip4AddressClearHostAddress a plen) = htonl (ip4AddressClearHostAddress b plen) := by
  simp [ip4AddressSamePrefixCmp]

theorem min_plen_self (plen : UInt8) : min plen plen = plen := by
  change (if plen ≤ plen then plen else plen) = plen
  rw [ite_self]

theorem ip4RouteCmp_weakId {a b : NMPlatformIP4Route} :
    ip4RouteCmp a b .weakId = .eq ↔ a.weakKey = b.weakKey := by
  simp only [ip4RouteCmp, then_eq_eq, Std.compare_eq_iff_eq, ip4AddressSamePrefixCmp_eq,
    NMPlatformIP4Route.weakKey, Ip4RouteWeakKey.mk.injEq]
  constructor
  · rintro ⟨table, network, plen, metric, tos⟩
    rw [plen, min_plen_self] at network
    rw [plen]
    exact ⟨table, network, rfl, metric, tos⟩
  · rintro ⟨table, network, plen, metric, tos⟩
    rw [plen] at network
    rw [plen, min_plen_self]
    exact ⟨table, network, rfl, metric, tos⟩

theorem routeWindowsCmp_eq {a b : NMPlatformIPRoute} :
    routeWindowsCmp a b = .eq ↔ a.windows = b.windows := by
  simp [routeWindowsCmp, NMPlatformIPRoute.windows, then_eq_eq]

theorem routeLocksCmp_eq {a b : NMPlatformIPRoute} :
    routeLocksCmp a b = .eq ↔ a.locks = b.locks := by
  simp [routeLocksCmp, NMPlatformIPRoute.locks, then_eq_eq]

theorem ip4RouteCmp_id {a b : NMPlatformIP4Route} : ip4RouteCmp a b .id = .eq ↔ a.key = b.key := by
  have weak : _ ↔ a.weakKey = b.weakKey := ip4RouteCmp_weakId
  simp only [ip4RouteCmp] at weak ⊢
  rw [then_eq_eq, weak]
  simp only [then_eq_eq, Std.compare_eq_iff_eq, routeWindowsCmp_eq, routeLocksCmp_eq,
    NMPlatformIP4Route.key, Ip4RouteKey.mk.injEq, and_assoc]

theorem ip6RouteCmp_weakId {a b : NMPlatformIP6Route} :
    ip6RouteCmp a b .weakId = .eq ↔ a.weakKey = b.weakKey := by
  simp only [ip6RouteCmp, then_eq_eq, Std.compare_eq_iff_eq, ip6AddressSamePrefixCmp_eq,
    NMPlatformIP6Route.weakKey, Ip6RouteWeakKey.mk.injEq]
  constructor
  · rintro ⟨table, network, plen, metric, src, srcPlen⟩
    rw [plen, min_plen_self] at network
    rw [srcPlen, min_plen_self] at src
    rw [plen, srcPlen]
    exact ⟨table, network, rfl, metric, src, rfl⟩
  · rintro ⟨table, network, plen, metric, src, srcPlen⟩
    rw [plen] at network
    rw [srcPlen] at src
    rw [plen, srcPlen, min_plen_self, min_plen_self]
    exact ⟨table, network, rfl, metric, src, rfl⟩

theorem ip6RouteCmp_id {a b : NMPlatformIP6Route} :
    ip6RouteCmp a b .id = .eq ↔
      a.weakKey = b.weakKey ∧ a.ifindex = b.ifindex ∧ a.gateway = b.gateway := by
  have weak : _ ↔ a.weakKey = b.weakKey := ip6RouteCmp_weakId
  simp only [ip6RouteCmp] at weak ⊢
  rw [then_eq_eq, weak]
  simp only [then_eq_eq, Std.compare_eq_iff_eq]

theorem rangeCmp_eq {α : Type*} [Ord α] [Std.LawfulEqOrd α] {a b : α × α} :
    rangeCmp a b = .eq ↔ a = b := by
  simp [rangeCmp, then_eq_eq, Prod.ext_iff]

theorem familyAddrCmp_eq {addrFamily : UInt8} {a b : In6Addr} :
    familyAddrCmp addrFamily a b = .eq ↔ familyAddr addrFamily a = familyAddr addrFamily b := by
  unfold familyAddrCmp familyAddr
  split <;> simp

theorem onlyIf_inj {α : Type*} {p : Prop} [Decidable p] {a b : α} :
    onlyIf p a = onlyIf p b ↔ (p → a = b) := by
  by_cases holds : p
  · simp [onlyIf, holds]
  · simp [onlyIf, holds]

private theorem flagged_inj {α : Type*} {p q : Bool} {a b : α} :
    (p = q ∧ onlyIf (p = true) a = onlyIf (q = true) b) ↔ p = q ∧ (p = true → a = b) := by
  constructor
  · rintro ⟨rfl, same⟩
    exact ⟨rfl, onlyIf_inj.mp same⟩
  · rintro ⟨rfl, same⟩
    exact ⟨rfl, onlyIf_inj.mpr same⟩

theorem ite_eq_iff_imp {p : Prop} [Decidable p] {o : Ordering} :
    (if p then o else .eq) = .eq ↔ (p → o = .eq) := by
  split <;> simp_all

variable {support : KernelSupport}

theorem routingRuleCmp_id {a b : NMPlatformRoutingRule} (valid : isInetFamily a.addrFamily = true) :
    routingRuleCmp support a b .id = .eq ↔ a.key support = b.key support := by
  simp only [routingRuleCmp, valid, then_eq_eq, Std.compare_eq_iff_eq, ite_eq_iff_imp,
    routingRuleCompare, rangeCmp_eq, familyAddrCmp_eq, NMPlatformRoutingRule.key,
    RoutingRuleKey.mk.injEq, Bool.true_eq_false, reduceCtorEq, decide_false, Bool.false_or,
    Bool.false_and, if_false, if_true, Bool.false_eq_true, decide_eq_true_eq, true_and]
  -- The skipped parts agree once the fields that decide about skipping agree.
  by_cases agree : a.addrFamily = b.addrFamily ∧ a.srcLen = b.srcLen ∧ a.dstLen = b.dstLen
  · obtain ⟨family, srcLen, dstLen⟩ := agree
    rw [family] at valid
    simp only [family, srcLen, dstLen, valid, onlyIf_inj, flagged_inj, Prod.mk.injEq, true_and]
  · constructor
    · rintro ⟨-, family, -, -, -, -, -, -, -, -, -, -, -, -, -, -, srcLen, -, dstLen, -⟩
      exact absurd ⟨family, srcLen, dstLen⟩ agree
    · rintro ⟨family, -, -, -, -, -, -, -, -, -, -, -, -, -, -, srcLen, -, dstLen, -⟩
      exact absurd ⟨family, srcLen, dstLen⟩ agree

private theorem routingRuleCmp_invalid {a b : NMPlatformRoutingRule}
    (cmpType : NMPlatformRoutingRuleCmpType) (invalid : isInetFamily a.addrFamily = false) :
    routingRuleCmp support a b cmpType = .eq ↔ a = b := by
  simp only [routingRuleCmp, invalid, if_true, then_eq_eq, Std.compare_eq_iff_eq]
  constructor
  · rintro ⟨-, same⟩
    by_contra different
    simp [different] at same
  · rintro rfl
    simp [invalid]

private theorem routingRuleCmp_valid {a b : NMPlatformRoutingRule}
    {cmpType : NMPlatformRoutingRuleCmpType} (same : routingRuleCmp support a b cmpType = .eq) :
    isInetFamily a.addrFamily = isInetFamily b.addrFamily := by
  unfold routingRuleCmp at same
  rw [then_eq_eq, Std.compare_eq_iff_eq] at same
  exact same.1

theorem routingRuleCmp_id_key {a b : NMPlatformRoutingRule} :
    routingRuleCmp support a b .id = .eq ↔
      (NMPObject.routingRule a).key support = (NMPObject.routingRule b).key support := by
  cases valid_a : isInetFamily a.addrFamily with
  | true =>
    cases valid_b : isInetFamily b.addrFamily with
    | true => simpa [NMPObject.key, valid_a, valid_b] using routingRuleCmp_id valid_a
    | false =>
      simp only [NMPObject.key, valid_a, valid_b, if_true, Bool.false_eq_true, if_false,
        reduceCtorEq, iff_false]
      intro same
      simp [routingRuleCmp_valid same, valid_b] at valid_a
  | false =>
    rw [routingRuleCmp_invalid .id valid_a]
    constructor
    · rintro rfl
      rfl
    · intro same
      cases valid_b : isInetFamily b.addrFamily with
      | true => simp [NMPObject.key, valid_a, valid_b] at same
      | false => simpa [NMPObject.key, valid_a, valid_b] using same

/-- The type of object that a key identifies. -/
def NMPObjectKey.getType : NMPObjectKey → NMPObjectType
  | link _ => .link
  | ip4Address .. => .ip4Address
  | ip6Address .. => .ip6Address
  | ip4Route _ => .ip4Route
  | ip6Route .. => .ip6Route
  | routingRule _ => .routingRule
  | invalidRule _ => .routingRule
  | qdisc .. => .qdisc
  | tfilter .. => .tfilter

namespace NMPObject

theorem key_getType (support : KernelSupport) (obj : NMPObject) :
    (obj.key support).getType = obj.getType := by
  cases obj with
  | routingRule rule =>
    simp only [key]
    split <;> rfl
  | _ => rfl

private theorem ctorIdx_ne {a b : NMPObjectType} (different : a ≠ b) :
    compare a.ctorIdx b.ctorIdx ≠ .eq := by
  rw [ne_eq, Std.compare_eq_iff_eq]
  intro same
  rw [← NMPObjectType.ofNat_ctorIdx a, same, NMPObjectType.ofNat_ctorIdx] at different
  exact different rfl

variable {support : KernelSupport}

theorem idCmp_ne {a b : NMPObject} (different : a.getType ≠ b.getType) :
    idCmp support a b ≠ .eq := by
  have by_type : idCmp support a b = compare a.getType.ctorIdx b.getType.ctorIdx := by
    cases a <;> cases b <;> first | rfl | exact absurd rfl different
  rw [by_type]
  exact ctorIdx_ne different

theorem cmp_ne {a b : NMPObject} (different : a.getType ≠ b.getType) : cmp support a b ≠ .eq := by
  have by_type : cmp support a b = compare a.getType.ctorIdx b.getType.ctorIdx := by
    cases a <;> cases b <;> first | rfl | exact absurd rfl different
  rw [by_type]
  exact ctorIdx_ne different

theorem idEqual_iff {a b : NMPObject} :
    a.idEqual support b = true ↔ a.key support = b.key support := by
  unfold idEqual
  rw [isEq_iff_eq_eq]
  by_cases same_type : a.getType = b.getType
  · cases a <;> cases b <;> try simp [getType] at same_type
    · simp [idCmp, key]
    · simp only [idCmp, key, ip4AddressIdCmp, then_eq_eq, Std.compare_eq_iff_eq,
        ip4AddressSamePrefixCmp_eq, NMPObjectKey.ip4Address.injEq]
      constructor
      · rintro ⟨ifindex, plen, address, peer⟩
        rw [plen] at peer
        rw [plen]
        exact ⟨ifindex, rfl, address, peer⟩
      · rintro ⟨ifindex, plen, address, peer⟩
        rw [plen] at peer
        rw [plen]
        exact ⟨ifindex, rfl, address, peer⟩
    · simp [idCmp, key, ip6AddressIdCmp, then_eq_eq]
    · simp [idCmp, key, ip4RouteCmp_id]
    · simp [idCmp, key, ip6RouteCmp_id]
    · exact routingRuleCmp_id_key
    · simp [idCmp, key, qdiscIdCmp, then_eq_eq]
    · simp [idCmp, key, tfilterIdCmp, then_eq_eq]
  · refine iff_of_false (idCmp_ne same_type) fun same => same_type ?_
    rw [← key_getType support a, same, key_getType]

/-- The object without the data that full equality ignores. -/
def canonical : NMPObject → NMPObject
  | ip6Address address => ip6Address { address with peerAddress := address.getPeer }
  | routingRule rule => routingRule { rule with
      src := if isInetFamily rule.addrFamily then familyAddr rule.addrFamily rule.src else rule.src
      dst := if isInetFamily rule.addrFamily then familyAddr rule.addrFamily rule.dst
        else rule.dst }
  | qdisc obj => qdisc { obj with
      fqCodel := if obj.kind = some "fq_codel" then obj.fqCodel else ⟨0, 0, 0, 0, 0, 0, 0, false⟩ }
  | tfilter obj => tfilter { obj with
      action := { obj.action with
        sdata := if obj.action.kind = some "simple" then obj.action.sdata else ""
        mirred := if obj.action.kind = some "mirred" then obj.action.mirred
          else ⟨0, false, false, false, false⟩ } }
  | obj => obj

theorem canonical_getType (obj : NMPObject) : obj.canonical.getType = obj.getType := by
  cases obj <;> rfl

theorem linkCmp_eq {a b : NMPlatformLink} : linkCmp a b = .eq ↔ a = b := by
  cases a
  cases b
  simp only [linkCmp, then_eq_eq, Std.compare_eq_iff_eq, NMLinkType.cmp_eq, NMPlatformLink.mk.injEq]
  constructor
  · intro same
    simp [same]
  · intro same
    simp [same]

theorem objLinkCmp_eq {a b : NMPObjectLink} : objLinkCmp a b = .eq ↔ a = b := by
  cases a
  cases b
  simp only [objLinkCmp, then_eq_eq, Std.compare_eq_iff_eq, linkCmp_eq, NMPObjectLink.mk.injEq]

theorem ip4AddressCmp_eq {a b : NMPlatformIP4Address} : ip4AddressCmp a b = .eq ↔ a = b := by
  obtain ⟨⟨⟩⟩ := a
  obtain ⟨⟨⟩⟩ := b
  simp only [ip4AddressCmp, then_eq_eq, Std.compare_eq_iff_eq,
    NMPlatformIP4Address.mk.injEq, NMPlatformIPAddress.mk.injEq]
  constructor
  · intro same
    simp [same]
  · intro same
    simp [same]

theorem ip6AddressCmp_eq {a b : NMPlatformIP6Address} :
    ip6AddressCmp a b = .eq ↔ (ip6Address a).canonical = (ip6Address b).canonical := by
  simp only [ip6AddressCmp, then_eq_eq, Std.compare_eq_iff_eq, canonical,
    ip6Address.injEq, NMPlatformIP6Address.mk.injEq, NMPlatformIPAddress.ext_iff]
  constructor
  · intro same
    simp [same]
  · intro same
    simp [same]

theorem ip4RouteCmp_full {a b : NMPlatformIP4Route} : ip4RouteCmp a b .full = .eq ↔ a = b := by
  obtain ⟨⟨⟩⟩ := a
  obtain ⟨⟨⟩⟩ := b
  simp only [ip4RouteCmp, then_eq_eq, Std.compare_eq_iff_eq, routeWindowsCmp,
    routeLocksCmp, NMPlatformIP4Route.mk.injEq, NMPlatformIPRoute.mk.injEq]
  constructor
  · intro same
    simp [same]
  · intro same
    simp [same]

theorem ip6RouteCmp_full {a b : NMPlatformIP6Route} : ip6RouteCmp a b .full = .eq ↔ a = b := by
  obtain ⟨⟨⟩⟩ := a
  obtain ⟨⟨⟩⟩ := b
  simp only [ip6RouteCmp, then_eq_eq, Std.compare_eq_iff_eq, routeWindowsCmp,
    routeLocksCmp, NMPlatformIP6Route.mk.injEq, NMPlatformIPRoute.mk.injEq]
  constructor
  · intro same
    simp [same]
  · intro same
    simp [same]

theorem and_allBits (value : UInt32) : value &&& 0xFFFFFFFF = value := by
  have all_bits : (0xFFFFFFFF : UInt32) = -1 := by decide
  rw [all_bits, UInt32.and_neg_one]

theorem routingRuleCmp_full {a b : NMPlatformRoutingRule} :
    routingRuleCmp support a b .full = .eq ↔
      (routingRule a).canonical = (routingRule b).canonical := by
  cases valid : isInetFamily a.addrFamily with
  | true =>
    by_cases family : a.addrFamily = b.addrFamily
    · have valid_b : isInetFamily b.addrFamily = true := family ▸ valid
      simp only [routingRuleCmp, routingRuleCompare, valid_b, then_eq_eq,
        Std.compare_eq_iff_eq, rangeCmp_eq, familyAddrCmp_eq, canonical, routingRule.injEq,
        NMPlatformRoutingRule.ext_iff, decide_true, Bool.true_or, if_true, reduceCtorEq,
        if_false, Bool.true_eq_false, and_allBits, family]
      constructor
      · intro same
        simp [same]
      · intro same
        simp [same]
    · refine iff_of_false (fun same => family ?_) (fun same => family ?_)
      · simp only [routingRuleCmp, valid, then_eq_eq, Std.compare_eq_iff_eq,
          Bool.true_eq_false, if_false] at same
        exact same.2.1
      · simp only [canonical, routingRule.injEq, NMPlatformRoutingRule.ext_iff] at same
        simp [same]
  | false =>
    rw [routingRuleCmp_invalid .full valid]
    constructor
    · rintro rfl
      rfl
    · intro same
      simp only [canonical, routingRule.injEq, NMPlatformRoutingRule.ext_iff] at same
      have family : a.addrFamily = b.addrFamily := by simp [same]
      rw [← family, valid] at same
      simpa [NMPlatformRoutingRule.ext_iff, family] using same

theorem fqCodelCmp_eq {a b : NMPlatformQdiscFqCodel} : fqCodelCmp a b = .eq ↔ a = b := by
  simp only [fqCodelCmp, then_eq_eq, Std.compare_eq_iff_eq, NMPlatformQdiscFqCodel.ext_iff]

theorem qdiscCmp_eq {a b : NMPlatformQdisc} :
    qdiscCmp a b = .eq ↔ (qdisc a).canonical = (qdisc b).canonical := by
  simp only [qdiscCmp, then_eq_eq, Std.compare_eq_iff_eq, ite_eq_iff_imp, fqCodelCmp_eq,
    canonical, qdisc.injEq, NMPlatformQdisc.ext_iff]
  constructor
  · rintro ⟨ifindex, parent, kind, family, handle, info, params⟩
    rw [kind] at params
    by_cases codel : b.kind = some "fq_codel"
    · simp_all
    · simp_all
  · rintro ⟨ifindex, kind, family, handle, parent, info, params⟩
    rw [kind] at params
    by_cases codel : b.kind = some "fq_codel"
    · simp_all
    · simp_all

theorem actionCmp_eq {a b : NMPlatformAction} :
    actionCmp a b = .eq ↔ a.kind = b.kind ∧ (a.kind = some "simple" → a.sdata = b.sdata) ∧
      (a.kind = some "mirred" → a.mirred = b.mirred) := by
  unfold actionCmp
  rw [then_eq_eq, Std.compare_eq_iff_eq]
  by_cases simple : a.kind = some "simple"
  · simp [simple]
  · by_cases mirred : a.kind = some "mirred"
    · simp [mirred, then_eq_eq, NMPlatformActionMirred.ext_iff]
      tauto
    · simp [simple, mirred]

theorem tfilterCmp_eq {a b : NMPlatformTfilter} :
    tfilterCmp a b = .eq ↔ (tfilter a).canonical = (tfilter b).canonical := by
  simp only [tfilterCmp, then_eq_eq, Std.compare_eq_iff_eq, actionCmp_eq, canonical,
    tfilter.injEq, NMPlatformTfilter.ext_iff, NMPlatformAction.ext_iff]
  constructor
  · rintro ⟨ifindex, parent, kind, family, handle, info, action, simple, mirred⟩
    refine ⟨ifindex, kind, family, handle, parent, info, action, ?_, ?_⟩
    · rw [← action]
      split
      · exact simple ‹_›
      · rfl
    · rw [← action]
      split
      · exact mirred ‹_›
      · rfl
  · rintro ⟨ifindex, kind, family, handle, parent, info, action, sdata, mirred⟩
    refine ⟨ifindex, parent, kind, family, handle, info, action, ?_, ?_⟩
    · intro simple
      simpa [simple, ← action] using sdata
    · intro redirect
      simpa [redirect, ← action] using mirred

theorem equal_iff {a b : NMPObject} : a.equal support b = true ↔ a.canonical = b.canonical := by
  unfold equal
  rw [isEq_iff_eq_eq]
  by_cases same_type : a.getType = b.getType
  · cases a <;> cases b <;> try simp [getType] at same_type
    · simp [cmp, canonical, objLinkCmp_eq]
    · simp [cmp, canonical, ip4AddressCmp_eq]
    · exact ip6AddressCmp_eq
    · simp [cmp, canonical, ip4RouteCmp_full]
    · simp [cmp, canonical, ip6RouteCmp_full]
    · exact routingRuleCmp_full
    · exact qdiscCmp_eq
    · exact tfilterCmp_eq
  · refine iff_of_false (cmp_ne same_type) fun same => same_type ?_
    rw [← canonical_getType a, same, canonical_getType]

theorem key_of_canonical {a b : NMPObject} (same : a.canonical = b.canonical) :
    a.key support = b.key support := by
  have same_type : a.getType = b.getType := by
    rw [← canonical_getType a, same, canonical_getType]
  cases a <;> cases b <;> try simp [getType] at same_type
  · exact congrArg (key support) same
  · exact congrArg (key support) same
  · simp only [canonical, ip6Address.injEq, NMPlatformIP6Address.mk.injEq] at same
    simp [key, same]
  · exact congrArg (key support) same
  · exact congrArg (key support) same
  · rename_i a b
    have full : routingRuleCmp support a b .full = .eq := routingRuleCmp_full.mpr same
    simp only [canonical, routingRule.injEq, NMPlatformRoutingRule.ext_iff] at same
    have family : a.addrFamily = b.addrFamily := by simp [same]
    cases valid : isInetFamily b.addrFamily with
    | true =>
      simp only [family, valid, if_true] at same
      simp [key, NMPlatformRoutingRule.key, family, valid, same]
    | false =>
      rw [(routingRuleCmp_invalid .full (family ▸ valid)).mp full]
  · simp only [canonical, qdisc.injEq, NMPlatformQdisc.ext_iff] at same
    simp [key, same]
  · simp only [canonical, tfilter.injEq, NMPlatformTfilter.ext_iff] at same
    simp [key, same]

/-- Whether an object is a default route: `NM_PLATFORM_IP_ROUTE_IS_DEFAULT` of a route. -/
def isDefaultRoute : NMPObject → Bool
  | ip4Route route => route.plen ≤ 0
  | ip6Route route => route.plen ≤ 0
  | _ => false

/-- Whether an object may be filed by its interface. -/
def hasIfindexIndex (obj : NMPObject) : Bool :=
  obj.getType ∈ [.ip4Address, .ip6Address, .ip4Route, .ip6Route, .qdisc, .tfilter]

/-- `_idx_obj_part`: without a second object, whether an index type files an object at all; with
one, whether it files both in the same partition. -/
def idxObjPart (idType : NMPCacheIdType) (a : NMPObject) (b : Option NMPObject) : Bool :=
  match idType with
  | .objectType =>
    match b with
    | some b => a.getType = b.getType
    | none => true
  | .linkByIfname =>
    match a, b with
    | link a, some (link b) => a.link.name = b.link.name
    | link _, none => true
    | _, _ => false
  | .defaultRoutes =>
    if !a.isDefaultRoute || !a.isVisible then false
    else
      match b with
      | some b => a.getType = b.getType && b.isDefaultRoute && b.isVisible
      | none => true
  | .objectByIfindex =>
    if !a.hasIfindexIndex || !a.isVisible then false
    else
      match b with
      | some b => a.getType = b.getType && a.ifindex = b.ifindex && b.isVisible
      | none => true
  | .routesByWeakId =>
    match a, b with
    | ip4Route a, some (ip4Route b) =>
      a.ifindex > 0 && b.ifindex > 0 && (ip4RouteCmp a b .weakId).isEq
    | ip6Route a, some (ip6Route b) =>
      a.ifindex > 0 && b.ifindex > 0 && (ip6RouteCmp a b .weakId).isEq
    | ip4Route a, none => a.ifindex > 0
    | ip6Route a, none => a.ifindex > 0
    | _, _ => false
  | .objectByAddrFamily =>
    match a, b with
    | routingRule a, some (routingRule b) =>
      isInetFamily a.addrFamily && a.addrFamily = b.addrFamily
    | routingRule a, none => isInetFamily a.addrFamily
    | _, _ => false

inductive PartitionKey where
  | type (type : NMPObjectType)
  | ifname (name : String)
  | defaultRoutes (type : NMPObjectType)
  | ifindex (type : NMPObjectType) (ifindex : Int)
  | weakId4 (key : Ip4RouteWeakKey)
  | weakId6 (key : Ip6RouteWeakKey)
  | addrFamily (addrFamily : UInt8)

/-- The partition that an index type files an object in, if any. -/
def partitionKey (idType : NMPCacheIdType) (obj : NMPObject) : Option PartitionKey :=
  match idType with
  | .objectType => some (.type obj.getType)
  | .linkByIfname =>
    match obj with
    | link obj => some (.ifname obj.link.name)
    | _ => none
  | .defaultRoutes =>
    if obj.isDefaultRoute && obj.isVisible then some (.defaultRoutes obj.getType) else none
  | .objectByIfindex =>
    if obj.hasIfindexIndex && obj.isVisible then some (.ifindex obj.getType obj.ifindex)
    else none
  | .routesByWeakId =>
    match obj with
    | ip4Route route => if route.ifindex > 0 then some (.weakId4 route.weakKey) else none
    | ip6Route route => if route.ifindex > 0 then some (.weakId6 route.weakKey) else none
    | _ => none
  | .objectByAddrFamily =>
    match obj with
    | routingRule rule =>
      if isInetFamily rule.addrFamily then some (.addrFamily rule.addrFamily) else none
    | _ => none

variable {idType : NMPCacheIdType}

theorem idxObjPart_none {obj : NMPObject} :
    idxObjPart idType obj none = (partitionKey idType obj).isSome := by
  cases idType with
  | objectType => rfl
  | linkByIfname => cases obj <;> rfl
  | defaultRoutes =>
    simp only [idxObjPart, partitionKey]
    cases obj.isDefaultRoute <;> cases obj.isVisible <;> rfl
  | objectByIfindex =>
    simp only [idxObjPart, partitionKey]
    cases obj.hasIfindexIndex <;> cases obj.isVisible <;> rfl
  | routesByWeakId =>
    cases obj <;> simp only [idxObjPart, partitionKey] <;> first | rfl | (split <;> simp_all)
  | objectByAddrFamily =>
    cases obj <;> simp only [idxObjPart, partitionKey] <;> first | rfl | (split <;> simp_all)

theorem idxObjPart_some {a b : NMPObject} :
    idxObjPart idType a (some b) = true ↔
      ∃ key, partitionKey idType a = some key ∧ partitionKey idType b = some key := by
  cases idType with
  | objectType => simp [idxObjPart, partitionKey, eq_comm]
  | linkByIfname =>
    cases a <;> cases b <;> simp [idxObjPart, partitionKey, eq_comm]
  | defaultRoutes =>
    simp only [idxObjPart, partitionKey]
    cases a.isDefaultRoute <;> cases a.isVisible <;> cases b.isDefaultRoute <;>
      cases b.isVisible <;> simp [eq_comm]
  | objectByIfindex =>
    simp only [idxObjPart, partitionKey]
    by_cases same : a.getType = b.getType
    · have files : a.hasIfindexIndex = b.hasIfindexIndex := by
        rw [hasIfindexIndex, same, hasIfindexIndex]
      rw [files]
      cases b.hasIfindexIndex <;> cases a.isVisible <;> cases b.isVisible <;>
        simp [same, eq_comm]
    · cases a.hasIfindexIndex <;> cases a.isVisible <;> cases b.hasIfindexIndex <;>
        cases b.isVisible <;> simp [same, Ne.symm same]
  | routesByWeakId =>
    cases a <;> cases b <;> try simp [idxObjPart, partitionKey]
    · rename_i a b
      by_cases a_bound : 0 < a.ifindex <;> by_cases b_bound : 0 < b.ifindex <;>
        simp [a_bound, b_bound, ip4RouteCmp_weakId]
    · rename_i a b
      by_cases a_bound : 0 < a.ifindex <;> by_cases b_bound : 0 < b.ifindex <;>
        simp [a_bound, b_bound, ip6RouteCmp_weakId]
  | objectByAddrFamily =>
    cases a <;> cases b <;> try simp [idxObjPart, partitionKey]
    rename_i a b
    by_cases same : a.addrFamily = b.addrFamily
    · cases valid : isInetFamily b.addrFamily <;> simp [same, valid]
    · cases isInetFamily a.addrFamily <;> cases isInetFamily b.addrFamily <;>
        simp [same]

theorem partitionKey_of_canonical {a b : NMPObject} (same : a.canonical = b.canonical) :
    partitionKey idType a = partitionKey idType b := by
  have kept : ∀ obj : NMPObject, partitionKey idType obj.canonical = partitionKey idType obj := by
    intro obj
    cases obj <;> cases idType <;> rfl
  rw [← kept a, same, kept]

end NMPObject

/-- The objects of the platform cache.  Objects that are handed to the cache are allocated and
belong to no index, so that none needs a clone. -/
def nmpObjectClass (support : KernelSupport) : NMDedupMultiObjClass NMPObject where
  objFullEqual a b := a.equal support b
  objNeedsClone _ := false
  objClone obj := obj
  fullEqual_refl _ := NMPObject.equal_iff.mpr rfl
  fullEqual_symm equal := NMPObject.equal_iff.mpr (NMPObject.equal_iff.mp equal).symm
  fullEqual_trans first second :=
    NMPObject.equal_iff.mpr ((NMPObject.equal_iff.mp first).trans (NMPObject.equal_iff.mp second))
  fullEqual_clone _ := NMPObject.equal_iff.mpr rfl

/-- `_dedup_multi_idx_type_class`. -/
def dedupMultiIdxTypeClass (support : KernelSupport) (idType : NMPCacheIdType) :
    NMDedupMultiIdxTypeClass (nmpObjectClass support) where
  idxObjIdEqual a b := a.idEqual support b
  idxObjPartitionable := some fun obj => NMPObject.idxObjPart idType obj none
  idxObjPartitionEqual := some fun a b => NMPObject.idxObjPart idType a (some b)
  id_refl _ := NMPObject.idEqual_iff.mpr rfl
  id_symm equal := NMPObject.idEqual_iff.mpr (NMPObject.idEqual_iff.mp equal).symm
  id_trans first second :=
    NMPObject.idEqual_iff.mpr
      ((NMPObject.idEqual_iff.mp first).trans (NMPObject.idEqual_iff.mp second))
  partition_symm := by
    rintro _ ⟨⟩ a b shared
    obtain ⟨key, a_key, b_key⟩ := NMPObject.idxObjPart_some.mp shared
    exact NMPObject.idxObjPart_some.mpr ⟨key, b_key, a_key⟩
  partition_trans := by
    rintro _ ⟨⟩ a b c first second
    obtain ⟨key, a_key, b_key⟩ := NMPObject.idxObjPart_some.mp first
    obtain ⟨other, b_other, c_key⟩ := NMPObject.idxObjPart_some.mp second
    cases b_key.symm.trans b_other
    exact NMPObject.idxObjPart_some.mpr ⟨key, a_key, c_key⟩
  id_of_fullEqual equal :=
    NMPObject.idEqual_iff.mpr (NMPObject.key_of_canonical (NMPObject.equal_iff.mp equal))
  partition_of_fullEqual := by
    rintro _ ⟨⟩ a b filed equal
    have a_filed := filed _ rfl
    rw [NMPObject.idxObjPart_none] at a_filed
    obtain ⟨key, a_key⟩ := Option.isSome_iff_exists.mp a_filed
    refine NMPObject.idxObjPart_some.mpr ⟨key, a_key, ?_⟩
    rw [← NMPObject.partitionKey_of_canonical (NMPObject.equal_iff.mp equal), a_key]
  partitionable_congr := by
    rintro _ ⟨⟩ a b shared - -
    obtain ⟨key, -, b_key⟩ := NMPObject.idxObjPart_some.mp (shared _ rfl)
    refine NMPObject.idxObjPart_none.trans ?_
    rw [b_key]
    rfl

end NetworkManager
