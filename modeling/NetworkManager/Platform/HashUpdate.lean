import Mathlib.Algebra.Group.Nat.Defs
import NetworkManager.Platform.Object

/-!
# Hashing routes and routing rules

The platform keeps routes and routing rules in hash tables.  What a hash function depends on is the
text it feeds to the hash state, so the functions below return this text.  Numbers are fed as the
bytes of their C types on a little endian machine.
-/

namespace NetworkManager

/-- The bytes of a number of `size` bytes. -/
def numberBytes (size value : Nat) : List UInt8 :=
  (List.range size).map fun index => UInt8.ofNat (value / 256 ^ index)

/-- The bytes of an `int`. -/
def intBytes (value : Int) : List UInt8 :=
  numberBytes 4 (BitVec.ofInt 32 value).toNat

/-- The first `count` bytes of an IPv6 address. -/
def In6Addr.bytes (addr : In6Addr) (count : Nat) : List UInt8 :=
  (List.range count).map fun index => UInt8.ofBitVec (addr.byte index)

/-- `NM_HASH_COMBINE_BOOLS`: the first flag is the most significant bit. -/
def hashCombineBools (flags : List Bool) : List UInt8 :=
  [UInt8.ofNat (flags.foldl (fun bits flag => 2 * bits + flag.toNat) 0)]

/-- `nm_hash_update_str`: the text with its terminating zero. -/
def hashUpdateStr (text : String) : List UInt8 :=
  text.toUTF8.toList ++ [0]

def routeLocksBytes (route : NMPlatformIPRoute) : List UInt8 :=
  hashCombineBools
    [route.lockWindow, route.lockCwnd, route.lockInitcwnd, route.lockInitrwnd, route.lockMtu]

def routeWindowsBytes (route : NMPlatformIPRoute) : List UInt8 :=
  numberBytes 4 route.window.toNat ++ numberBytes 4 route.cwnd.toNat ++
    numberBytes 4 route.initcwnd.toNat ++ numberBytes 4 route.initrwnd.toNat ++
    numberBytes 4 route.mtu.toNat

/-- `nm_platform_ip4_route_hash_update`. -/
def ip4RouteHashUpdate (obj : NMPlatformIP4Route) (cmpType : NMPlatformIPRouteCmpType) :
    List UInt8 :=
  let table := numberBytes 4 (routeTableUncoerce obj.tableCoerced true).toNat
  let network := numberBytes 4 (ip4AddressClearHostAddress obj.network obj.plen).toNat
  let weakId :=
    table ++ network ++ numberBytes 1 obj.plen.toNat ++ numberBytes 4 obj.metric.toNat ++
      numberBytes 1 obj.tos.toNat
  let rtprot := numberBytes 4 (ipConfigSourceRoundTripRtprot obj.rtSource)
  let scopeInv := numberBytes 1 (ipRouteScopeInvGetNormalized obj).toNat
  match cmpType with
  | .weakId => weakId
  | .id =>
    weakId ++ intBytes obj.ifindex ++ rtprot ++ scopeInv ++ numberBytes 4 obj.gateway.toNat ++
      numberBytes 4 obj.mss.toNat ++ numberBytes 4 obj.prefSrc.toNat ++
      routeWindowsBytes obj.toNMPlatformIPRoute ++
      numberBytes 4 (obj.rRtmFlags &&& rtnhFOnlink).toNat ++
      routeLocksBytes obj.toNMPlatformIPRoute
  | .semantically =>
    table ++ intBytes obj.ifindex ++ network ++ numberBytes 1 obj.plen.toNat ++
      numberBytes 4 obj.metric.toNat ++ numberBytes 4 obj.gateway.toNat ++ rtprot ++ scopeInv ++
      numberBytes 1 obj.tos.toNat ++ numberBytes 4 obj.mss.toNat ++
      numberBytes 4 obj.prefSrc.toNat ++ routeWindowsBytes obj.toNMPlatformIPRoute ++
      numberBytes 4 (obj.rRtmFlags &&& (rtmFCloned ||| rtnhFOnlink)).toNat ++
      routeLocksBytes obj.toNMPlatformIPRoute
  | .full =>
    numberBytes 4 obj.tableCoerced.toNat ++ intBytes obj.ifindex ++
      numberBytes 4 obj.network.toNat ++ numberBytes 1 obj.plen.toNat ++
      numberBytes 4 obj.metric.toNat ++ numberBytes 4 obj.gateway.toNat ++
      numberBytes 4 obj.rtSource ++ numberBytes 1 obj.scopeInv.toNat ++
      numberBytes 1 obj.tos.toNat ++ numberBytes 4 obj.mss.toNat ++
      numberBytes 4 obj.prefSrc.toNat ++ routeWindowsBytes obj.toNMPlatformIPRoute ++
      numberBytes 4 obj.rRtmFlags.toNat ++ routeLocksBytes obj.toNMPlatformIPRoute

/-- `nm_utils_ip6_address_clear_host_address`.  A prefix length above 128 trips an assertion, and
the function returns no address. -/
def ip6AddressClearHostAddress (src : In6Addr) (plen : UInt8) : Option In6Addr :=
  if plen.toNat > 128 then none
  else if plen.toNat < 128 then
    let nbytes := plen.toNat / 8
    let nbits := plen.toNat % 8
    let copied := src.firstBytes nbytes <<< (128 - 8 * nbytes)
    let masked : BitVec 8 := if nbits ≠ 0 then src.byte nbytes &&& (0xFF#8 <<< (8 - nbits)) else 0
    some (copied ||| (masked.setWidth 128 <<< (120 - 8 * nbytes)))
  else some src

/-- `nm_platform_ip6_route_hash_update`.  There is no result where the function would read from the
address that `nm_utils_ip6_address_clear_host_address` failed to return. -/
def ip6RouteHashUpdate (obj : NMPlatformIP6Route) (cmpType : NMPlatformIPRouteCmpType) :
    Option (List UInt8) :=
  let table := numberBytes 4 (routeTableUncoerce obj.tableCoerced true).toNat
  let network := (ip6AddressClearHostAddress obj.network obj.plen).map (In6Addr.bytes · 16)
  let src := (ip6AddressClearHostAddress obj.src obj.srcPlen).map (In6Addr.bytes · 16)
  let metric := numberBytes 4 (ip6RouteMetricNormalize obj.metric).toNat
  let weakId (network src : List UInt8) :=
    table ++ network ++ numberBytes 1 obj.plen.toNat ++ metric ++ src ++
      numberBytes 1 obj.srcPlen.toNat
  match cmpType with
  | .weakId => do
      let network ← network
      let src ← src
      return weakId network src
  | .id => do
      let network ← network
      let src ← src
      return weakId network src ++ intBytes obj.ifindex ++ obj.gateway.bytes 16
  | .semantically => do
      let network ← network
      let src ← src
      return table ++ intBytes obj.ifindex ++ network ++ numberBytes 1 obj.plen.toNat ++ metric ++
        obj.gateway.bytes 16 ++ obj.prefSrc.bytes 16 ++ src ++ numberBytes 1 obj.srcPlen.toNat ++
        numberBytes 4 (ipConfigSourceRoundTripRtprot obj.rtSource) ++
        numberBytes 4 obj.mss.toNat ++ numberBytes 4 (obj.rRtmFlags &&& rtmFCloned).toNat ++
        routeLocksBytes obj.toNMPlatformIPRoute ++ routeWindowsBytes obj.toNMPlatformIPRoute ++
        numberBytes 1 (routePrefNormalize obj.rtPref).toNat
  | .full =>
    some (numberBytes 4 obj.tableCoerced.toNat ++ intBytes obj.ifindex ++
      obj.network.bytes 16 ++ numberBytes 1 obj.plen.toNat ++ numberBytes 4 obj.metric.toNat ++
      obj.gateway.bytes 16 ++ obj.prefSrc.bytes 16 ++ obj.src.bytes 16 ++
      numberBytes 1 obj.srcPlen.toNat ++ numberBytes 4 obj.rtSource ++
      numberBytes 4 obj.mss.toNat ++ numberBytes 4 obj.rRtmFlags.toNat ++
      routeLocksBytes obj.toNMPlatformIPRoute ++ routeWindowsBytes obj.toNMPlatformIPRoute ++
      numberBytes 1 obj.rtPref.toNat)

/-- The bytes of a rule's address that its family uses. -/
def familyAddrBytes (addrFamily : UInt8) (addr : In6Addr) : List UInt8 :=
  addr.bytes (if addrFamily = afInet then 4 else 16)

/-- `nm_platform_routing_rule_hash_update`.  For a rule of another address family, which is stored
at `address`, this address is all that is fed. -/
def routingRuleHashUpdate (support : KernelSupport) (address : UInt64)
    (obj : NMPlatformRoutingRule) (cmpType : NMPlatformRoutingRuleCmpType) : List UInt8 :=
  let cmpFull := decide (cmpType = .full)
  let flagsMask : UInt32 := if cmpType = .id then ~~~ routingRuleFlagsIgnore else 0xFFFFFFFF
  if isInetFamily obj.addrFamily = false then numberBytes 8 address.toNat
  else
    numberBytes 1 obj.addrFamily.toNat ++ numberBytes 8 obj.tunId.toNat ++
    numberBytes 4 obj.table.toNat ++ numberBytes 4 (obj.flags &&& flagsMask).toNat ++
    numberBytes 4 obj.priority.toNat ++ numberBytes 4 obj.fwmark.toNat ++
    numberBytes 4 obj.fwmask.toNat ++
    numberBytes 4
      (if cmpFull || (decide (cmpType = .semantically) && decide (obj.action = frActGoto)) then
        obj.gotoTarget else 0).toNat ++
    numberBytes 4
      (if cmpFull || decide (obj.addrFamily = afInet) then obj.flow else 0).toNat ++
    hashCombineBools
      [if routingRuleCompare cmpType support.fraUidRange then obj.uidRangeHas else false] ++
    numberBytes 4 obj.suppressPrefixlenInverse.toNat ++
    numberBytes 4 obj.suppressIfgroupInverse.toNat ++
    numberBytes 4
      (if routingRuleCompare cmpType support.fraL3mdev then
        if cmpFull then obj.l3mdev.toNat else (decide (obj.l3mdev ≠ 0)).toNat
      else 0xFFFF) ++
    numberBytes 1 obj.action.toNat ++ numberBytes 1 obj.tos.toNat ++
    numberBytes 1 obj.srcLen.toNat ++ numberBytes 1 obj.dstLen.toNat ++
    numberBytes 4
      (if routingRuleCompare cmpType support.fraProtocol then obj.protocol.toNat else 0xFFFF) ++
    (if cmpFull || decide (obj.srcLen > 0) then familyAddrBytes obj.addrFamily obj.src else []) ++
    (if cmpFull || decide (obj.dstLen > 0) then familyAddrBytes obj.addrFamily obj.dst else []) ++
    (if routingRuleCompare cmpType support.fraUidRange then
      if cmpFull || obj.uidRangeHas then
        numberBytes 4 obj.uidRange.1.toNat ++ numberBytes 4 obj.uidRange.2.toNat
      else []
    else []) ++
    (if routingRuleCompare cmpType support.fraIpProto then
      numberBytes 1 obj.ipProto.toNat ++
        numberBytes 2 obj.sportRange.1.toNat ++ numberBytes 2 obj.sportRange.2.toNat ++
        numberBytes 2 obj.dportRange.1.toNat ++ numberBytes 2 obj.dportRange.2.toNat
    else []) ++
    hashUpdateStr obj.iifname ++ hashUpdateStr obj.oifname

end NetworkManager
