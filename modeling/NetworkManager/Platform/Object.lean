import Mathlib.Order.Compare
import Mathlib.Data.Ordering.Basic

/-!
# Platform objects

The objects that the platform cache tracks: links, addresses, routes, routing rules, queueing
disciplines and traffic filters.  Two comparisons matter to the cache.  The full comparison decides
whether an update changes anything; the identity comparison decides which object is updated.

A comparison of the source returns a sign, which is an `Ordering` here.  Its macros compare one
field after the other, which is a chain of `Ordering.then`.
-/

namespace NetworkManager

/-- `AF_INET`. -/
def afInet : UInt8 := 2

/-- `AF_INET6`. -/
def afInet6 : UInt8 := 10

/-- An IPv4 address: the 32 bits in network byte order, as a little endian machine reads them. -/
abbrev InAddr := UInt32

/-- An IPv6 address: its 16 bytes, the first one in the most significant position. -/
abbrev In6Addr := BitVec 128

/-- `htonl` and `ntohl` on a little endian machine. -/
def htonl (value : UInt32) : UInt32 :=
  (value <<< (24 : UInt32)) ||| ((value &&& (0xFF00 : UInt32)) <<< (8 : UInt32)) |||
    ((value >>> (8 : UInt32)) &&& (0xFF00 : UInt32)) ||| (value >>> (24 : UInt32))

/-- `_nm_utils_ip4_prefix_to_netmask`. -/
def ip4PrefixToNetmask (plen : UInt8) : UInt32 :=
  if plen < 32 then ~~~ htonl (0xFFFFFFFF >>> plen.toUInt32) else 0xFFFFFFFF

/-- `nm_utils_ip4_address_clear_host_address`. -/
def ip4AddressClearHostAddress (addr : InAddr) (plen : UInt8) : InAddr :=
  addr &&& ip4PrefixToNetmask plen

/-- `nm_utils_ip4_address_same_prefix_cmp`. -/
def ip4AddressSamePrefixCmp (a b : InAddr) (plen : UInt8) : Ordering :=
  compare (htonl (ip4AddressClearHostAddress a plen)) (htonl (ip4AddressClearHostAddress b plen))

/-- The first `count` bytes of an IPv6 address, for `memcmp`. -/
def In6Addr.firstBytes (addr : In6Addr) (count : Nat) : In6Addr :=
  addr >>> (128 - 8 * count)

def In6Addr.byte (addr : In6Addr) (index : Nat) : BitVec 8 :=
  (addr >>> (120 - 8 * index)).setWidth 8

/-- The mask of the leading `bits` bits of a byte. -/
def byteMask (bits : Nat) : BitVec 8 :=
  ~~~ ((1#8 <<< (8 - bits)) - 1#8)

/-- `nm_utils_ip6_address_same_prefix_cmp`. -/
def ip6AddressSamePrefixCmp (a b : In6Addr) (plen : UInt8) : Ordering :=
  if plen.toNat ≥ 128 then compare a b
  else
    let nbytes := plen.toNat / 8
    let bits := plen.toNat % 8
    (if nbytes ≠ 0 then compare (a.firstBytes nbytes) (b.firstBytes nbytes) else .eq).then
      (if bits ≠ 0 then
        compare (a.byte nbytes &&& byteMask bits) (b.byte nbytes &&& byteMask bits)
      else .eq)

/-- The type of a link. -/
inductive NMLinkType where
  | none
  | unknown
  | ethernet
  | infiniband
  | olpcMesh
  | wifi
  | wwanNet
  | wimax
  | wpan
  | sixLowpan
  | wifiP2P
  | bnep
  | dummy
  | gre
  | gretap
  | ifb
  | ip6tnl
  | ip6gre
  | ip6gretap
  | ipip
  | loopback
  | macsec
  | macvlan
  | macvtap
  | openvswitch
  | ppp
  | sit
  | tun
  | veth
  | vlan
  | vxlan
  | wireguard
  | bridge
  | bond
  | team
  | any
  deriving DecidableEq, Repr

/-- Link types are listed in the order of their numbers. -/
def NMLinkType.cmp (a b : NMLinkType) : Ordering :=
  compare a.ctorIdx b.ctorIdx

/-- The public fields of a link. -/
structure NMPlatformLink where
  ifindex : Int
  name : String
  type : NMLinkType
  kind : Option String
  /-- The driver, combined from udev, the kind and ethtool. -/
  driver : Option String
  master : Int
  parent : Int
  /-- The `IFF_*` flags. -/
  nIfiFlags : UInt32
  /-- The maximum transfer unit. -/
  mtu : UInt32
  /-- `ifinfomsg.ifi_type`. -/
  arptype : UInt32
  /-- `IFLA_ADDRESS`. -/
  lAddress : List UInt8
  /-- `IFLA_BROADCAST`. -/
  lBroadcast : List UInt8
  inet6Token : UInt64
  inet6AddrGenModeInv : UInt8
  rxPackets : UInt64
  rxBytes : UInt64
  txPackets : UInt64
  txBytes : UInt64
  /-- Whether the link is up; masters without slaves count as down. -/
  connected : Bool
  /-- Whether udev has announced the link. -/
  initialized : Bool
  deriving DecidableEq, Repr

/-- `nm_platform_link_cmp`.  The hardware addresses compare by length early and by content late. -/
def linkCmp (a b : NMPlatformLink) : Ordering :=
  (compare a.ifindex b.ifindex).then <|
  (a.type.cmp b.type).then <|
  (compare a.name b.name).then <|
  (compare a.master b.master).then <|
  (compare a.parent b.parent).then <|
  (compare a.nIfiFlags b.nIfiFlags).then <|
  (compare a.connected b.connected).then <|
  (compare a.mtu b.mtu).then <|
  (compare a.initialized b.initialized).then <|
  (compare a.arptype b.arptype).then <|
  (compare a.lAddress.length b.lAddress.length).then <|
  (compare a.lBroadcast.length b.lBroadcast.length).then <|
  (compare a.inet6AddrGenModeInv b.inet6AddrGenModeInv).then <|
  (compare a.kind b.kind).then <|
  (compare a.driver b.driver).then <|
  (compare a.lAddress b.lAddress).then <|
  (compare a.lBroadcast b.lBroadcast).then <|
  (compare a.inet6Token b.inet6Token).then <|
  (compare a.rxPackets b.rxPackets).then <|
  (compare a.rxBytes b.rxBytes).then <|
  (compare a.txPackets b.txPackets).then
  (compare a.txBytes b.txBytes)

/-- A link with the private fields of the cache. -/
structure NMPObjectLink where
  link : NMPlatformLink
  /-- Whether netlink has reported the link. -/
  isInNetlink : Bool
  /-- The type specific data of the link, numbered up to `nmp_object_cmp`. -/
  lnk : Option Nat
  /-- The generic netlink family of a WireGuard link. -/
  wireguardFamilyId : Int
  udevDevice : Option Nat
  deriving DecidableEq, Repr

/-- `_vt_cmd_obj_cmp_link`. -/
def objLinkCmp (a b : NMPObjectLink) : Ordering :=
  (linkCmp a.link b.link).then <|
  (compare a.isInNetlink b.isInNetlink).then <|
  (compare a.lnk b.lnk).then <|
  (compare a.wireguardFamilyId b.wireguardFamilyId).then
  (compare a.udevDevice b.udevDevice)

/-- The fields that IPv4 and IPv6 addresses have in common. -/
@[ext]
structure NMPlatformIPAddress where
  ifindex : Int
  /-- The `NMIPConfigSource`. -/
  addrSource : Nat
  timestamp : UInt32
  lifetime : UInt32
  preferred : UInt32
  nIfaFlags : UInt32
  plen : UInt8
  /-- Whether the address was configured externally. -/
  isExternal : Bool
  deriving DecidableEq, Repr

/-- An IPv4 address of an interface. -/
structure NMPlatformIP4Address extends NMPlatformIPAddress where
  address : InAddr
  peerAddress : InAddr
  label : String
  deriving DecidableEq, Repr

/-- `nm_platform_ip4_address_cmp`. -/
def ip4AddressCmp (a b : NMPlatformIP4Address) : Ordering :=
  (compare a.ifindex b.ifindex).then <|
  (compare a.address b.address).then <|
  (compare a.plen b.plen).then <|
  (compare a.peerAddress b.peerAddress).then <|
  (compare a.addrSource b.addrSource).then <|
  (compare a.timestamp b.timestamp).then <|
  (compare a.lifetime b.lifetime).then <|
  (compare a.preferred b.preferred).then <|
  (compare a.nIfaFlags b.nIfaFlags).then <|
  (compare a.label b.label).then
  (compare a.isExternal b.isExternal)

/-- `_vt_cmd_plobj_id_cmp_ip4_address`. -/
def ip4AddressIdCmp (a b : NMPlatformIP4Address) : Ordering :=
  (compare a.ifindex b.ifindex).then <|
  (compare a.plen b.plen).then <|
  (compare a.address b.address).then
  (ip4AddressSamePrefixCmp a.peerAddress b.peerAddress a.plen)

/-- An IPv6 address of an interface. -/
structure NMPlatformIP6Address extends NMPlatformIPAddress where
  address : In6Addr
  peerAddress : In6Addr
  deriving DecidableEq, Repr

/-- `nm_platform_ip6_address_get_peer`. -/
def NMPlatformIP6Address.getPeer (addr : NMPlatformIP6Address) : In6Addr :=
  if addr.peerAddress = 0 ∨ addr.peerAddress = addr.address then addr.address
  else addr.peerAddress

/-- `nm_platform_ip6_address_cmp`. -/
def ip6AddressCmp (a b : NMPlatformIP6Address) : Ordering :=
  (compare a.ifindex b.ifindex).then <|
  (compare a.address b.address).then <|
  (compare a.plen b.plen).then <|
  (compare a.getPeer b.getPeer).then <|
  (compare a.addrSource b.addrSource).then <|
  (compare a.timestamp b.timestamp).then <|
  (compare a.lifetime b.lifetime).then <|
  (compare a.preferred b.preferred).then <|
  (compare a.nIfaFlags b.nIfaFlags).then
  (compare a.isExternal b.isExternal)

/-- `_vt_cmd_plobj_id_cmp_ip6_address`. -/
def ip6AddressIdCmp (a b : NMPlatformIP6Address) : Ordering :=
  (compare a.ifindex b.ifindex).then (compare a.address b.address)

/-- What a comparison of routes takes into account. -/
inductive NMPlatformIPRouteCmpType where
  | weakId
  | id
  | semantically
  | full
  deriving DecidableEq, Repr

/-- The fields that IPv4 and IPv6 routes have in common. -/
structure NMPlatformIPRoute where
  ifindex : Int
  /-- The `NMIPConfigSource`. -/
  rtSource : Nat
  plen : UInt8
  /-- `RTAX_LOCK` of the window. -/
  lockWindow : Bool
  /-- `RTAX_LOCK` of the congestion window. -/
  lockCwnd : Bool
  /-- `RTAX_LOCK` of the initial congestion window. -/
  lockInitcwnd : Bool
  /-- `RTAX_LOCK` of the initial receive window. -/
  lockInitrwnd : Bool
  /-- `RTAX_LOCK` of the MTU. -/
  lockMtu : Bool
  rRtmFlags : UInt32
  /-- `RTAX_ADVMSS`. -/
  mss : UInt32
  window : UInt32
  cwnd : UInt32
  initcwnd : UInt32
  initrwnd : UInt32
  mtu : UInt32
  /-- `RTA_PRIORITY`. -/
  metric : UInt32
  tableCoerced : UInt32
  deriving DecidableEq, Repr

/-- `RTM_F_CLONED`. -/
def rtmFCloned : UInt32 := 0x200

/-- `RTNH_F_ONLINK`. -/
def rtnhFOnlink : UInt32 := 4

/-- `nm_platform_route_table_uncoerce`. -/
def routeTableUncoerce (tableCoerced : UInt32) (normalize : Bool) : UInt32 :=
  if tableCoerced = 0 then 254
  else if tableCoerced = 254 then if normalize then 254 else 0
  else tableCoerced

/-- `nmp_utils_ip_config_source_coerce_to_rtprot`. -/
def ipConfigSourceCoerceToRtprot (source : Nat) : UInt8 :=
  if source = 0 then 0
  else if source ≤ 256 then UInt8.ofNat (source - 1)
  else
    match source with
    | 257 => 2
    | 260 => 2
    | 264 => 16
    | 265 => 9
    | _ => 4

/-- `nmp_utils_ip_config_source_round_trip_rtprot`. -/
def ipConfigSourceRoundTripRtprot (source : Nat) : Nat :=
  (ipConfigSourceCoerceToRtprot source).toNat + 1

/-- The fields of the route metrics that are compared one after the other. -/
def routeLocksCmp (a b : NMPlatformIPRoute) : Ordering :=
  (compare a.lockWindow b.lockWindow).then <|
  (compare a.lockCwnd b.lockCwnd).then <|
  (compare a.lockInitcwnd b.lockInitcwnd).then <|
  (compare a.lockInitrwnd b.lockInitrwnd).then
  (compare a.lockMtu b.lockMtu)

def routeWindowsCmp (a b : NMPlatformIPRoute) : Ordering :=
  (compare a.window b.window).then <|
  (compare a.cwnd b.cwnd).then <|
  (compare a.initcwnd b.initcwnd).then <|
  (compare a.initrwnd b.initrwnd).then
  (compare a.mtu b.mtu)

/-- An IPv4 route. -/
structure NMPlatformIP4Route extends NMPlatformIPRoute where
  network : InAddr
  gateway : InAddr
  prefSrc : InAddr
  tos : UInt8
  /-- The inverse of `rtm_scope`. -/
  scopeInv : UInt8
  deriving DecidableEq, Repr

/-- `_ip_route_scope_inv_get_normalized`, with `RT_SCOPE_LINK` 253 and `RT_SCOPE_UNIVERSE` 0. -/
def ipRouteScopeInvGetNormalized (route : NMPlatformIP4Route) : UInt8 :=
  if route.scopeInv = 0 then ~~~ (if route.gateway = 0 then 253 else 0) else route.scopeInv

/-- `nm_platform_ip4_route_cmp`. -/
def ip4RouteCmp (a b : NMPlatformIP4Route) (cmpType : NMPlatformIPRouteCmpType) : Ordering :=
  let weakId :=
    (compare (routeTableUncoerce a.tableCoerced true)
      (routeTableUncoerce b.tableCoerced true)).then <|
    (ip4AddressSamePrefixCmp a.network b.network (min a.plen b.plen)).then <|
    (compare a.plen b.plen).then <|
    (compare a.metric b.metric).then
    (compare a.tos b.tos)
  let sourceAndScope :=
    (compare (ipConfigSourceRoundTripRtprot a.rtSource)
      (ipConfigSourceRoundTripRtprot b.rtSource)).then
    (compare (ipRouteScopeInvGetNormalized a) (ipRouteScopeInvGetNormalized b))
  match cmpType with
  | .weakId => weakId
  | .id =>
    weakId.then <|
    (compare a.ifindex b.ifindex).then <|
    sourceAndScope.then <|
    (compare a.gateway b.gateway).then <|
    (compare a.mss b.mss).then <|
    (compare a.prefSrc b.prefSrc).then <|
    (routeWindowsCmp a.toNMPlatformIPRoute b.toNMPlatformIPRoute).then <|
    (compare (a.rRtmFlags &&& rtnhFOnlink) (b.rRtmFlags &&& rtnhFOnlink)).then
    (routeLocksCmp a.toNMPlatformIPRoute b.toNMPlatformIPRoute)
  | .semantically =>
    (compare (routeTableUncoerce a.tableCoerced true)
      (routeTableUncoerce b.tableCoerced true)).then <|
    (compare a.ifindex b.ifindex).then <|
    (ip4AddressSamePrefixCmp a.network b.network (min a.plen b.plen)).then <|
    (compare a.plen b.plen).then <|
    (compare a.metric b.metric).then <|
    (compare a.gateway b.gateway).then <|
    sourceAndScope.then <|
    (compare a.mss b.mss).then <|
    (compare a.prefSrc b.prefSrc).then <|
    (compare (a.rRtmFlags &&& (rtmFCloned ||| rtnhFOnlink))
      (b.rRtmFlags &&& (rtmFCloned ||| rtnhFOnlink))).then <|
    (compare a.tos b.tos).then <|
    (routeLocksCmp a.toNMPlatformIPRoute b.toNMPlatformIPRoute).then
    (routeWindowsCmp a.toNMPlatformIPRoute b.toNMPlatformIPRoute)
  | .full =>
    (compare a.tableCoerced b.tableCoerced).then <|
    (compare a.ifindex b.ifindex).then <|
    (compare a.network b.network).then <|
    (compare a.plen b.plen).then <|
    (compare a.metric b.metric).then <|
    (compare a.gateway b.gateway).then <|
    (compare a.rtSource b.rtSource).then <|
    (compare a.scopeInv b.scopeInv).then <|
    (compare a.mss b.mss).then <|
    (compare a.prefSrc b.prefSrc).then <|
    (compare a.rRtmFlags b.rRtmFlags).then <|
    (compare a.tos b.tos).then <|
    (routeLocksCmp a.toNMPlatformIPRoute b.toNMPlatformIPRoute).then
    (routeWindowsCmp a.toNMPlatformIPRoute b.toNMPlatformIPRoute)

/-- An IPv6 route. -/
structure NMPlatformIP6Route extends NMPlatformIPRoute where
  network : In6Addr
  gateway : In6Addr
  prefSrc : In6Addr
  src : In6Addr
  srcPlen : UInt8
  /-- `RTA_PREF`. -/
  rtPref : UInt8
  deriving DecidableEq, Repr

/-- `nm_utils_ip6_route_metric_normalize`. -/
def ip6RouteMetricNormalize (metric : UInt32) : UInt32 :=
  if metric = 0 then 1024 else metric

/-- `_route_pref_normalize`: anything but low (3) and high (1) is medium (0). -/
def routePrefNormalize (pref : UInt8) : UInt8 :=
  if pref = 1 ∨ pref = 3 then pref else 0

/-- `nm_platform_ip6_route_cmp`. -/
def ip6RouteCmp (a b : NMPlatformIP6Route) (cmpType : NMPlatformIPRouteCmpType) : Ordering :=
  let weakId :=
    (compare (routeTableUncoerce a.tableCoerced true)
      (routeTableUncoerce b.tableCoerced true)).then <|
    (ip6AddressSamePrefixCmp a.network b.network (min a.plen b.plen)).then <|
    (compare a.plen b.plen).then <|
    (compare (ip6RouteMetricNormalize a.metric) (ip6RouteMetricNormalize b.metric)).then <|
    (ip6AddressSamePrefixCmp a.src b.src (min a.srcPlen b.srcPlen)).then
    (compare a.srcPlen b.srcPlen)
  match cmpType with
  | .weakId => weakId
  | .id =>
    weakId.then <|
    (compare a.ifindex b.ifindex).then
    (compare a.gateway b.gateway)
  | .semantically =>
    (compare (routeTableUncoerce a.tableCoerced true)
      (routeTableUncoerce b.tableCoerced true)).then <|
    (compare a.ifindex b.ifindex).then <|
    (ip6AddressSamePrefixCmp a.network b.network (min a.plen b.plen)).then <|
    (compare a.plen b.plen).then <|
    (compare (ip6RouteMetricNormalize a.metric) (ip6RouteMetricNormalize b.metric)).then <|
    (compare a.gateway b.gateway).then <|
    (compare a.prefSrc b.prefSrc).then <|
    (ip6AddressSamePrefixCmp a.src b.src (min a.srcPlen b.srcPlen)).then <|
    (compare a.srcPlen b.srcPlen).then <|
    (compare (ipConfigSourceRoundTripRtprot a.rtSource)
      (ipConfigSourceRoundTripRtprot b.rtSource)).then <|
    (compare a.mss b.mss).then <|
    (compare (a.rRtmFlags &&& rtmFCloned) (b.rRtmFlags &&& rtmFCloned)).then <|
    (routeLocksCmp a.toNMPlatformIPRoute b.toNMPlatformIPRoute).then <|
    (routeWindowsCmp a.toNMPlatformIPRoute b.toNMPlatformIPRoute).then
    (compare (routePrefNormalize a.rtPref) (routePrefNormalize b.rtPref))
  | .full =>
    (compare a.tableCoerced b.tableCoerced).then <|
    (compare a.ifindex b.ifindex).then <|
    (compare a.network b.network).then <|
    (compare a.plen b.plen).then <|
    (compare a.metric b.metric).then <|
    (compare a.gateway b.gateway).then <|
    (compare a.prefSrc b.prefSrc).then <|
    (compare a.src b.src).then <|
    (compare a.srcPlen b.srcPlen).then <|
    (compare a.rtSource b.rtSource).then <|
    (compare a.mss b.mss).then <|
    (compare a.rRtmFlags b.rRtmFlags).then <|
    (routeLocksCmp a.toNMPlatformIPRoute b.toNMPlatformIPRoute).then <|
    (routeWindowsCmp a.toNMPlatformIPRoute b.toNMPlatformIPRoute).then
    (compare a.rtPref b.rtPref)

/-- What a comparison of routing rules takes into account. -/
inductive NMPlatformRoutingRuleCmpType where
  | id
  | semantically
  | full
  deriving DecidableEq, Repr

/-- The attributes of routing rules that only some kernels support.  A run of the program settles
each of them once, from the first message that tells or from its default. -/
structure KernelSupport where
  fraL3mdev : Bool
  fraUidRange : Bool
  fraProtocol : Bool
  /-- `FRA_IP_PROTO`, with the port ranges. -/
  fraIpProto : Bool
  deriving DecidableEq, Repr

/-- A policy routing rule. -/
@[ext]
structure NMPlatformRoutingRule where
  /-- `FRA_SRC`; an IPv4 address occupies the first four bytes. -/
  src : In6Addr
  dst : In6Addr
  tunId : UInt64
  table : UInt32
  flags : UInt32
  priority : UInt32
  fwmark : UInt32
  fwmask : UInt32
  gotoTarget : UInt32
  flow : UInt32
  /-- The inverse of `FRA_SUPPRESS_PREFIXLEN`. -/
  suppressPrefixlenInverse : UInt32
  /-- The inverse of `FRA_SUPPRESS_IFGROUP`. -/
  suppressIfgroupInverse : UInt32
  /-- `FRA_UID_RANGE`, first and last. -/
  uidRange : UInt32 × UInt32
  /-- `FRA_SPORT_RANGE`, first and last. -/
  sportRange : UInt16 × UInt16
  /-- `FRA_DPORT_RANGE`, first and last. -/
  dportRange : UInt16 × UInt16
  iifname : String
  oifname : String
  addrFamily : UInt8
  action : UInt8
  tos : UInt8
  srcLen : UInt8
  /-- The prefix length of the destination. -/
  dstLen : UInt8
  l3mdev : UInt8
  protocol : UInt8
  ipProto : UInt8
  /-- Whether the rule has an `FRA_UID_RANGE`. -/
  uidRangeHas : Bool
  deriving DecidableEq, Repr

/-- Whether an address family is one of the two supported ones. -/
def isInetFamily (addrFamily : UInt8) : Bool :=
  addrFamily = afInet || addrFamily = afInet6

/-- `_ROUTING_RULE_FLAGS_IGNORE`: unresolved, or detached from an interface. -/
def routingRuleFlagsIgnore : UInt32 := 4 ||| 8 ||| 16

/-- `FR_ACT_GOTO`. -/
def frActGoto : UInt8 := 2

/-- `_routing_rule_compare`. -/
def routingRuleCompare (cmpType : NMPlatformRoutingRuleCmpType) (supported : Bool) : Bool :=
  cmpType = .full || supported

/-- `memcmp` of two addresses over the size of their family. -/
def familyAddrCmp (addrFamily : UInt8) (a b : In6Addr) : Ordering :=
  if addrFamily = afInet then compare (a.firstBytes 4) (b.firstBytes 4) else compare a b

def rangeCmp {α : Type*} [Ord α] (a b : α × α) : Ordering :=
  (compare a.1 b.1).then (compare a.2 b.2)

/-- `nm_platform_routing_rule_cmp`.  A rule of another family equals itself only; the order of such
rules is that of their addresses in memory, and is not modelled. -/
def routingRuleCmp (support : KernelSupport) (a b : NMPlatformRoutingRule)
    (cmpType : NMPlatformRoutingRuleCmpType) : Ordering :=
  let cmpFull := decide (cmpType = .full)
  let flagsMask : UInt32 := if cmpType = .id then ~~~ routingRuleFlagsIgnore else 0xFFFFFFFF
  (compare (isInetFamily a.addrFamily) (isInetFamily b.addrFamily)).then <|
  if isInetFamily a.addrFamily = false then if a = b then .eq else .lt
  else
    (compare a.addrFamily b.addrFamily).then <|
    (compare a.action b.action).then <|
    (compare a.priority b.priority).then <|
    (compare a.tunId b.tunId).then <|
    (if routingRuleCompare cmpType support.fraL3mdev then
      if cmpFull then compare a.l3mdev b.l3mdev
      else compare (decide (a.l3mdev ≠ 0)) (decide (b.l3mdev ≠ 0))
    else .eq).then <|
    (compare a.table b.table).then <|
    (compare (a.flags &&& flagsMask) (b.flags &&& flagsMask)).then <|
    (compare a.fwmark b.fwmark).then <|
    (compare a.fwmask b.fwmask).then <|
    (if cmpFull || (decide (cmpType = .semantically) && decide (a.action = frActGoto)) then
      compare a.gotoTarget b.gotoTarget
    else .eq).then <|
    (compare a.suppressPrefixlenInverse b.suppressPrefixlenInverse).then <|
    (compare a.suppressIfgroupInverse b.suppressIfgroupInverse).then <|
    (compare a.tos b.tos).then <|
    (if cmpFull || decide (a.addrFamily = afInet) then compare a.flow b.flow else .eq).then <|
    (if routingRuleCompare cmpType support.fraProtocol then compare a.protocol b.protocol
    else .eq).then <|
    (if routingRuleCompare cmpType support.fraIpProto then
      (compare a.ipProto b.ipProto).then <|
      (rangeCmp a.sportRange b.sportRange).then
      (rangeCmp a.dportRange b.dportRange)
    else .eq).then <|
    (compare a.srcLen b.srcLen).then <|
    (if cmpFull || decide (a.srcLen > 0) then familyAddrCmp a.addrFamily a.src b.src
    else .eq).then <|
    (compare a.dstLen b.dstLen).then <|
    (if cmpFull || decide (a.dstLen > 0) then familyAddrCmp a.addrFamily a.dst b.dst
    else .eq).then <|
    (if routingRuleCompare cmpType support.fraUidRange then
      (compare a.uidRangeHas b.uidRangeHas).then <|
      if cmpFull || a.uidRangeHas then rangeCmp a.uidRange b.uidRange else .eq
    else .eq).then <|
    (compare a.iifname b.iifname).then
    (compare a.oifname b.oifname)

/-- The parameters of the `fq_codel` discipline. -/
@[ext]
structure NMPlatformQdiscFqCodel where
  limit : UInt32
  flows : UInt32
  target : UInt32
  interval : UInt32
  /-- Bytes dequeued at once. -/
  quantum : UInt32
  ceThreshold : UInt32
  memoryLimit : UInt32
  /-- Explicit congestion notification. -/
  ecn : Bool
  deriving DecidableEq, Repr

/-- The `fq_codel` part of `nm_platform_qdisc_cmp`. -/
def fqCodelCmp (a b : NMPlatformQdiscFqCodel) : Ordering :=
  (compare a.limit b.limit).then <|
  (compare a.flows b.flows).then <|
  (compare a.target b.target).then <|
  (compare a.interval b.interval).then <|
  (compare a.quantum b.quantum).then <|
  (compare a.ceThreshold b.ceThreshold).then <|
  (compare a.memoryLimit b.memoryLimit).then
  (compare a.ecn b.ecn)

/-- A queueing discipline. -/
@[ext]
structure NMPlatformQdisc where
  ifindex : Int
  kind : Option String
  addrFamily : Int
  handle : UInt32
  parent : UInt32
  info : UInt32
  /-- Parameters, meaningful for kind `fq_codel`. -/
  fqCodel : NMPlatformQdiscFqCodel
  deriving DecidableEq, Repr

/-- `nm_platform_qdisc_cmp`. -/
def qdiscCmp (a b : NMPlatformQdisc) : Ordering :=
  (compare a.ifindex b.ifindex).then <|
  (compare a.parent b.parent).then <|
  (compare a.kind b.kind).then <|
  (compare a.addrFamily b.addrFamily).then <|
  (compare a.handle b.handle).then <|
  (compare a.info b.info).then
  (if a.kind = some "fq_codel" then fqCodelCmp a.fqCodel b.fqCodel else .eq)

/-- `_vt_cmd_plobj_id_cmp_qdisc`. -/
def qdiscIdCmp (a b : NMPlatformQdisc) : Ordering :=
  (compare a.ifindex b.ifindex).then (compare a.parent b.parent)

/-- The parameters of the `mirred` action. -/
@[ext]
structure NMPlatformActionMirred where
  ifindex : Int
  /-- Whether egress packets are taken. -/
  egress : Bool
  /-- Whether ingress packets are taken. -/
  ingress : Bool
  mirror : Bool
  redirect : Bool
  deriving DecidableEq, Repr

/-- The action of a traffic filter; the kind tells which parameters are meaningful. -/
@[ext]
structure NMPlatformAction where
  kind : Option String
  /-- The text of the `simple` action. -/
  sdata : String
  mirred : NMPlatformActionMirred
  deriving DecidableEq, Repr

/-- The action part of `nm_platform_tfilter_cmp`. -/
def actionCmp (a b : NMPlatformAction) : Ordering :=
  (compare a.kind b.kind).then <|
  if a.kind = some "simple" then compare a.sdata b.sdata
  else if a.kind = some "mirred" then
    (compare a.mirred.ifindex b.mirred.ifindex).then <|
    (compare a.mirred.ingress b.mirred.ingress).then <|
    (compare a.mirred.egress b.mirred.egress).then <|
    (compare a.mirred.mirror b.mirred.mirror).then
    (compare a.mirred.redirect b.mirred.redirect)
  else .eq

/-- A traffic filter. -/
@[ext]
structure NMPlatformTfilter where
  ifindex : Int
  kind : Option String
  addrFamily : Int
  handle : UInt32
  parent : UInt32
  info : UInt32
  action : NMPlatformAction
  deriving DecidableEq, Repr

/-- `nm_platform_tfilter_cmp`. -/
def tfilterCmp (a b : NMPlatformTfilter) : Ordering :=
  (compare a.ifindex b.ifindex).then <|
  (compare a.parent b.parent).then <|
  (compare a.kind b.kind).then <|
  (compare a.addrFamily b.addrFamily).then <|
  (compare a.handle b.handle).then <|
  (compare a.info b.info).then
  (actionCmp a.action b.action)

/-- `_vt_cmd_plobj_id_cmp_tfilter`. -/
def tfilterIdCmp (a b : NMPlatformTfilter) : Ordering :=
  (compare a.ifindex b.ifindex).then (compare a.handle b.handle)

/-- The types of objects that the cache tracks. -/
inductive NMPObjectType where
  | link
  | ip4Address
  | ip6Address
  | ip4Route
  | ip6Route
  | routingRule
  | qdisc
  | tfilter
  deriving DecidableEq, Repr

/-- An object of the platform cache. -/
inductive NMPObject where
  | link (link : NMPObjectLink)
  | ip4Address (address : NMPlatformIP4Address)
  | ip6Address (address : NMPlatformIP6Address)
  | ip4Route (route : NMPlatformIP4Route)
  | ip6Route (route : NMPlatformIP6Route)
  | routingRule (rule : NMPlatformRoutingRule)
  | qdisc (qdisc : NMPlatformQdisc)
  | tfilter (tfilter : NMPlatformTfilter)
  deriving DecidableEq, Repr

namespace NMPObject

/-- `NMP_OBJECT_GET_TYPE`. -/
def getType : NMPObject → NMPObjectType
  | link _ => .link
  | ip4Address _ => .ip4Address
  | ip6Address _ => .ip6Address
  | ip4Route _ => .ip4Route
  | ip6Route _ => .ip6Route
  | routingRule _ => .routingRule
  | qdisc _ => .qdisc
  | tfilter _ => .tfilter

/-- `NMP_OBJECT_CAST_OBJ_WITH_IFINDEX`; routing rules have no interface. -/
def ifindex : NMPObject → Int
  | link obj => obj.link.ifindex
  | ip4Address address => address.ifindex
  | ip6Address address => address.ifindex
  | ip4Route route => route.ifindex
  | ip6Route route => route.ifindex
  | routingRule _ => 0
  | qdisc obj => obj.ifindex
  | tfilter obj => obj.ifindex

section

variable (support : KernelSupport)

/-- `nmp_object_cmp`.  Objects of different types compare by their types. -/
def cmp : NMPObject → NMPObject → Ordering
  | link a, link b => objLinkCmp a b
  | ip4Address a, ip4Address b => ip4AddressCmp a b
  | ip6Address a, ip6Address b => ip6AddressCmp a b
  | ip4Route a, ip4Route b => ip4RouteCmp a b .full
  | ip6Route a, ip6Route b => ip6RouteCmp a b .full
  | routingRule a, routingRule b => routingRuleCmp support a b .full
  | qdisc a, qdisc b => qdiscCmp a b
  | tfilter a, tfilter b => tfilterCmp a b
  | a, b => compare a.getType.ctorIdx b.getType.ctorIdx

/-- `nmp_object_equal`. -/
def equal (a b : NMPObject) : Bool :=
  (cmp support a b).isEq

/-- `nmp_object_id_cmp`. -/
def idCmp : NMPObject → NMPObject → Ordering
  | link a, link b => compare a.link.ifindex b.link.ifindex
  | ip4Address a, ip4Address b => ip4AddressIdCmp a b
  | ip6Address a, ip6Address b => ip6AddressIdCmp a b
  | ip4Route a, ip4Route b => ip4RouteCmp a b .id
  | ip6Route a, ip6Route b => ip6RouteCmp a b .id
  | routingRule a, routingRule b => routingRuleCmp support a b .id
  | qdisc a, qdisc b => qdiscIdCmp a b
  | tfilter a, tfilter b => tfilterIdCmp a b
  | a, b => compare a.getType.ctorIdx b.getType.ctorIdx

/-- `nmp_object_id_equal`. -/
def idEqual (a b : NMPObject) : Bool :=
  (idCmp support a b).isEq

end

/-- `nmp_object_is_alive`. -/
def isAlive : NMPObject → Bool
  | link obj => obj.link.ifindex > 0 && (obj.isInNetlink || obj.udevDevice.isSome)
  | ip4Address address => address.ifindex > 0
  | ip6Address address => address.ifindex > 0
  | ip4Route route => route.ifindex > 0 && route.rRtmFlags &&& rtmFCloned = 0
  | ip6Route route => route.ifindex > 0 && route.rRtmFlags &&& rtmFCloned = 0
  | routingRule rule => isInetFamily rule.addrFamily
  | qdisc obj => obj.ifindex > 0
  | tfilter obj => obj.ifindex > 0

/-- `nmp_object_is_visible`. -/
def isVisible (obj : NMPObject) : Bool :=
  obj.isAlive &&
    match obj with
    | link obj => obj.isInNetlink && obj.link.name ≠ ""
    | _ => true

end NMPObject

end NetworkManager
