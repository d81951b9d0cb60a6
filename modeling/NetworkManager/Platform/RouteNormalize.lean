import NetworkManager.Platform.PrefixCompare
import NetworkManager.Platform.RouteCoherence
import NetworkManager.Platform.RouteSync

/-!
# Normalizing routes

When a route is added, the kernel coerces some of its properties.  `nm_platform_ip_route_normalize`
coerces them in the same way.  It keeps the meaning of a route, and it does nothing to a route that
is normalized already.

Routes with the same meaning need not become equal.  The comparison of meanings ignores most of
`r_rtm_flags`, and it takes unknown router preferences for the medium one, but the function rewrites
neither of these fields.
-/

namespace NetworkManager

open Option Ordering RouteCoherence RouteSync

/-- `nm_platform_route_table_coerce`. -/
def routeTableCoerce (table : UInt32) : UInt32 :=
  if table = 0 then 254 else if table = 254 then 0 else table

/-- The case `AF_INET` of `nm_platform_ip_route_normalize`. -/
def ip4RouteNormalize (r4 : NMPlatformIP4Route) : NMPlatformIP4Route :=
  { r4 with
    tableCoerced := routeTableCoerce (routeTableUncoerce r4.tableCoerced true)
    network := ip4AddressClearHostAddress r4.network r4.plen
    rtSource := ipConfigSourceRoundTripRtprot r4.rtSource
    scopeInv := ipRouteScopeInvGetNormalized r4 }

/-- `nm_utils_ip6_address_clear_host_address` in place.  If its assertion fails, the address
stays. -/
def ip6AddressClearInPlace (addr : In6Addr) (plen : UInt8) : In6Addr :=
  (ip6AddressClearHostAddress addr plen).getD addr

/-- The case `AF_INET6` of `nm_platform_ip_route_normalize`. -/
def ip6RouteNormalize (r6 : NMPlatformIP6Route) : NMPlatformIP6Route :=
  { r6 with
    tableCoerced := routeTableCoerce (routeTableUncoerce r6.tableCoerced true)
    network := ip6AddressClearInPlace r6.network r6.plen
    rtSource := ipConfigSourceRoundTripRtprot r6.rtSource
    metric := ip6RouteMetricNormalize r6.metric
    src := ip6AddressClearInPlace r6.src r6.srcPlen }

/-- `nm_platform_ip_route_normalize`. -/
def ipRouteNormalize : {version : IpVersion} → version.Route → version.Route
  | .v4 => ip4RouteNormalize
  | .v6 => ip6RouteNormalize

theorem routeTableUncoerce_coerce (tableCoerced : UInt32) :
    routeTableUncoerce (routeTableCoerce (routeTableUncoerce tableCoerced true)) true =
      routeTableUncoerce tableCoerced true := by
  by_cases unset : tableCoerced = 0
  · rw [unset]
    rfl
  · by_cases main : tableCoerced = 254
    · rw [main]
      rfl
    · have same : routeTableUncoerce tableCoerced true = tableCoerced := by
        rw [routeTableUncoerce, if_neg unset, if_neg main]
      have coerced : routeTableCoerce tableCoerced = tableCoerced := by
        rw [routeTableCoerce, if_neg unset, if_neg main]
      rw [same, coerced, same]

theorem ip4AddressClearHostAddress_twice (addr : InAddr) (plen : UInt8) :
    ip4AddressClearHostAddress (ip4AddressClearHostAddress addr plen) plen =
      ip4AddressClearHostAddress addr plen := by
  unfold ip4AddressClearHostAddress
  rw [UInt32.and_assoc, UInt32.and_self]

/-- A source is never coerced to the unknown protocol again. -/
theorem ipConfigSourceRoundTripRtprot_twice (source : Nat) :
    ipConfigSourceRoundTripRtprot (ipConfigSourceRoundTripRtprot source) =
      ipConfigSourceRoundTripRtprot source := by
  have bound : (ipConfigSourceCoerceToRtprot source).toNat < 256 := UInt8.toNat_lt _
  unfold ipConfigSourceRoundTripRtprot
  generalize ipConfigSourceCoerceToRtprot source = rtprot at bound
  have back : ipConfigSourceCoerceToRtprot (rtprot.toNat + 1) = rtprot := by
    unfold ipConfigSourceCoerceToRtprot
    rw [if_neg (by omega), if_pos (by omega), Nat.add_sub_cancel, UInt8.ofNat_toNat]
  rw [back]

variable (addr : In6Addr) (route : NMPlatformIP4Route)

theorem ipRouteScopeInvGetNormalized_ne_zero :
    ipRouteScopeInvGetNormalized route ≠ 0 := by
  unfold ipRouteScopeInvGetNormalized
  split
  · split <;> decide
  · rename_i set
    exact set

theorem ipRouteScopeInvGetNormalized_normalize :
    ipRouteScopeInvGetNormalized (ip4RouteNormalize route) = ipRouteScopeInvGetNormalized route := by
  have set : (ip4RouteNormalize route).scopeInv ≠ 0 := ipRouteScopeInvGetNormalized_ne_zero route
  rw [ipRouteScopeInvGetNormalized, if_neg set]
  rfl

theorem ip6RouteMetricNormalize_twice (metric : UInt32) :
    ip6RouteMetricNormalize (ip6RouteMetricNormalize metric) = ip6RouteMetricNormalize metric := by
  by_cases unset : metric = 0
  · rw [unset]
    rfl
  · have same : ip6RouteMetricNormalize metric = metric := if_neg unset
    rw [same, same]

theorem ip6AddressClearInPlace_of_valid {plen : UInt8} (valid : plen.toNat ≤ 128) :
    ip6AddressClearInPlace addr plen = addr.network plen.toNat := by
  rw [ip6AddressClearInPlace, ip6AddressClearHostAddress_eq addr valid, getD_some]

theorem ip6AddressClearInPlace_of_invalid {plen : UInt8} (invalid : ¬ plen.toNat ≤ 128) :
    ip6AddressClearInPlace addr plen = addr := by
  rw [ip6AddressClearInPlace, ip6AddressClearHostAddress, if_pos (not_le.mp invalid), getD_none]

theorem ip6AddressClearInPlace_twice (plen : UInt8) :
    ip6AddressClearInPlace (ip6AddressClearInPlace addr plen) plen =
      ip6AddressClearInPlace addr plen := by
  by_cases valid : plen.toNat ≤ 128
  · rw [ip6AddressClearInPlace_of_valid _ valid, ip6AddressClearInPlace_of_valid _ valid,
      In6Addr.network_network, Nat.min_self]
  · rw [ip6AddressClearInPlace_of_invalid _ valid, ip6AddressClearInPlace_of_invalid _ valid]

theorem ip4AddressSamePrefixCmp_clear (addr : InAddr) (plen : UInt8) :
    ip4AddressSamePrefixCmp (ip4AddressClearHostAddress addr plen) addr (min plen plen) = .eq := by
  rw [min_plen_self, ip4AddressSamePrefixCmp, ip4AddressClearHostAddress_twice]
  exact Std.ReflOrd.compare_self

theorem ip6AddressSamePrefixCmp_clear (plen : UInt8) :
    ip6AddressSamePrefixCmp (ip6AddressClearInPlace addr plen) addr (min plen plen) = .eq := by
  rw [min_plen_self]
  by_cases valid : plen.toNat ≤ 128
  · rw [ip6AddressClearInPlace_of_valid _ valid, ip6AddressSamePrefixCmp_eq_shifted,
      ← compare_shiftLeft_ushiftRight]
    change compare ((addr.network plen.toNat).network plen.toNat) (addr.network plen.toNat) = .eq
    rw [In6Addr.network_network, Nat.min_self]
    exact Std.ReflOrd.compare_self
  · rw [ip6AddressClearInPlace_of_invalid _ valid, ip6AddressSamePrefixCmp_eq_shifted]
    exact Std.ReflOrd.compare_self

/-- A function that puts values into a form of their own, without leaving their class of a
comparison. -/
structure NormalizesUpTo {α : Type*} (cmp : α → α → Ordering) (normalize : α → α) : Prop where
  idempotent : ∀ a, normalize (normalize a) = normalize a
  meaning : ∀ a, cmp (normalize a) a = .eq

theorem ip4Route_normalizesUpTo :
    NormalizesUpTo (fun a b => ip4RouteCmp a b .semantically) ip4RouteNormalize where
  idempotent r4 := by
    have scope := ipRouteScopeInvGetNormalized_normalize r4
    unfold ip4RouteNormalize at scope ⊢
    dsimp only at scope ⊢
    rw [routeTableUncoerce_coerce, ip4AddressClearHostAddress_twice,
      ipConfigSourceRoundTripRtprot_twice, scope]
  meaning r4 := by
    have scope := ipRouteScopeInvGetNormalized_normalize r4
    simp only [ip4RouteCmp, then_eq_eq, Std.compare_eq_iff_eq]
    refine ⟨routeTableUncoerce_coerce r4.tableCoerced, rfl,
      ip4AddressSamePrefixCmp_clear r4.network r4.plen, rfl, rfl, rfl,
      ⟨ipConfigSourceRoundTripRtprot_twice r4.rtSource, scope⟩, rfl, rfl, rfl, rfl, ?_, ?_⟩
    · exact routeLocksCmp_eq.mpr rfl
    · exact routeWindowsCmp_eq.mpr rfl

theorem ip6Route_normalizesUpTo :
    NormalizesUpTo (fun a b => ip6RouteCmp a b .semantically) ip6RouteNormalize where
  idempotent r6 := by
    unfold ip6RouteNormalize
    dsimp only
    rw [routeTableUncoerce_coerce, ip6AddressClearInPlace_twice, ip6AddressClearInPlace_twice,
      ipConfigSourceRoundTripRtprot_twice, ip6RouteMetricNormalize_twice]
  meaning r6 := by
    simp only [ip6RouteCmp, then_eq_eq, Std.compare_eq_iff_eq]
    refine ⟨routeTableUncoerce_coerce r6.tableCoerced, rfl,
      ip6AddressSamePrefixCmp_clear r6.network r6.plen, rfl,
      ip6RouteMetricNormalize_twice r6.metric, rfl, rfl,
      ip6AddressSamePrefixCmp_clear r6.src r6.srcPlen, rfl,
      ipConfigSourceRoundTripRtprot_twice r6.rtSource, rfl, rfl, ?_, ?_, rfl⟩
    · exact routeLocksCmp_eq.mpr rfl
    · exact routeWindowsCmp_eq.mpr rfl

/-- For both families, normalizing a route twice changes nothing more, and it keeps the meaning of
the route. -/
theorem ipRouteNormalize_normalizes (version : IpVersion) :
    NormalizesUpTo (fun a b : version.Route => routeCmp a b .semantically) ipRouteNormalize := by
  cases version with
  | v4 => exact ip4Route_normalizesUpTo
  | v6 => exact ip6Route_normalizesUpTo

theorem routeLocks_of_cmp {a b : NMPlatformIPRoute} (same : routeLocksCmp a b = .eq) :
    a.lockWindow = b.lockWindow ∧ a.lockCwnd = b.lockCwnd ∧ a.lockInitcwnd = b.lockInitcwnd ∧
      a.lockInitrwnd = b.lockInitrwnd ∧ a.lockMtu = b.lockMtu := by
  simpa only [routeLocksCmp, then_eq_eq, Std.compare_eq_iff_eq] using same

theorem routeWindows_of_cmp {a b : NMPlatformIPRoute} (same : routeWindowsCmp a b = .eq) :
    a.window = b.window ∧ a.cwnd = b.cwnd ∧ a.initcwnd = b.initcwnd ∧ a.initrwnd = b.initrwnd ∧
      a.mtu = b.mtu := by
  simpa only [routeWindowsCmp, then_eq_eq, Std.compare_eq_iff_eq] using same

theorem ip6AddressClearInPlace_congr {a b : In6Addr} {plen : UInt8}
    (same : ip6PrefixKey a plen = ip6PrefixKey b plen) :
    ip6AddressClearInPlace a plen = ip6AddressClearInPlace b plen := by
  by_cases valid : plen.toNat ≤ 128
  · rw [ip6AddressClearInPlace, ip6AddressClearInPlace, clearHostAddress_of_prefixKey same,
      ip6AddressClearHostAddress_eq b valid, getD_some, getD_some]
  · have long : plen.toNat ≥ 128 := by omega
    rw [ip6PrefixKey, ip6PrefixKey, if_pos long, if_pos long] at same
    rw [ip6AddressClearInPlace_of_invalid _ valid, ip6AddressClearInPlace_of_invalid _ valid]
    exact congrArg Prod.fst same

/-- The fields that are neither normalized nor compared as they are. -/
def SameUnnormalized : {version : IpVersion} → version.Route → version.Route → Prop
  | .v4 => fun a b => a.rRtmFlags = b.rRtmFlags
  | .v6 => fun a b => a.rRtmFlags = b.rRtmFlags ∧ a.rtPref = b.rtPref

theorem ip4RouteNormalize_eq_iff {a b : NMPlatformIP4Route}
    (same : ip4RouteCmp a b .semantically = .eq) :
    ip4RouteNormalize a = ip4RouteNormalize b ↔ a.rRtmFlags = b.rRtmFlags := by
  obtain ⟨id, -⟩ := ip4RouteCmp_semantically_fields same
  obtain ⟨weak, ifindex, ⟨rtprot, scope⟩, gateway, mss, prefSrc, windows, -, locks⟩ :=
    ip4RouteCmp_id_fields id
  obtain ⟨table, network, plen, metric, tos⟩ := ip4RouteCmp_weakId_fields weak
  have locks := routeLocks_of_cmp locks
  have windows := routeWindows_of_cmp windows
  constructor
  · intro equal
    have flags : (ip4RouteNormalize a).rRtmFlags = (ip4RouteNormalize b).rRtmFlags := by rw [equal]
    exact flags
  · intro flags
    simp only [ip4RouteNormalize, table, network, plen, metric, tos, ifindex, rtprot, scope,
      gateway, mss, prefSrc, locks, windows, flags]

theorem ip6RouteNormalize_eq_iff {a b : NMPlatformIP6Route}
    (same : ip6RouteCmp a b .semantically = .eq) :
    ip6RouteNormalize a = ip6RouteNormalize b ↔
      a.rRtmFlags = b.rRtmFlags ∧ a.rtPref = b.rtPref := by
  obtain ⟨id, prefSrc, rtprot, mss, -, locks, windows, -⟩ := ip6RouteCmp_semantically_fields same
  obtain ⟨weak, ifindex, gateway⟩ := ip6RouteCmp_id.mp id
  simp only [NMPlatformIP6Route.weakKey, Ip6RouteWeakKey.mk.injEq] at weak
  obtain ⟨table, network, plen, metric, src, srcPlen⟩ := weak
  rw [plen] at network
  rw [srcPlen] at src
  have network := ip6AddressClearInPlace_congr network
  have src := ip6AddressClearInPlace_congr src
  have locks := routeLocks_of_cmp locks
  have windows := routeWindows_of_cmp windows
  constructor
  · intro equal
    have flags : (ip6RouteNormalize a).rRtmFlags = (ip6RouteNormalize b).rRtmFlags := by rw [equal]
    have pref : (ip6RouteNormalize a).rtPref = (ip6RouteNormalize b).rtPref := by rw [equal]
    exact ⟨flags, pref⟩
  · rintro ⟨flags, pref⟩
    simp only [ip6RouteNormalize, table, network, plen, metric, src,
      srcPlen, ifindex, gateway, prefSrc, rtprot, mss, locks, windows, flags, pref]

/-- Routes with the same meaning become equal exactly if they agree in the fields that are not
normalized. -/
theorem ipRouteNormalize_full_iff (version : IpVersion) (a b : version.Route)
    (same : routeCmp a b .semantically = .eq) :
    routeCmp (ipRouteNormalize a) (ipRouteNormalize b) .full = .eq ↔ SameUnnormalized a b := by
  cases version with
  | v4 => exact NMPObject.ip4RouteCmp_full.trans (ip4RouteNormalize_eq_iff same)
  | v6 => exact NMPObject.ip6RouteCmp_full.trans (ip6RouteNormalize_eq_iff same)

def flaggedDefaultRoute (flags : UInt32) : NMPlatformIP4Route :=
  { plainRoute 1 4 0 100 0 with
    rRtmFlags := flags, network := 0, gateway := 0x0100000A, prefSrc := 0, tos := 0, scopeInv := 0 }

/-- The network of a route is masked, so that two texts for one network become equal. -/
theorem ipRouteNormalize_full_masked :
    routeCmp (ipRouteNormalize (show IpVersion.v4.Route from
        { flaggedDefaultRoute 0 with network := 0x0500A8C0, plen := 24 }))
      (ipRouteNormalize (show IpVersion.v4.Route from
        { flaggedDefaultRoute 0 with network := 0x0000A8C0, plen := 24 })) .full = .eq :=
  (ipRouteNormalize_full_iff .v4 { flaggedDefaultRoute 0 with network := 0x0500A8C0, plen := 24 }
    { flaggedDefaultRoute 0 with network := 0x0000A8C0, plen := 24 } (by decide)).mpr rfl

/-- The flag `RTNH_F_LINKDOWN`, which the kernel reports, does not matter to the meaning. -/
theorem ipRouteNormalize_full_fails :
    ¬ ∀ (version : IpVersion) (a b : version.Route), routeCmp a b .semantically = .eq →
      routeCmp (ipRouteNormalize a) (ipRouteNormalize b) .full = .eq := by
  intro always
  have equal := always .v4 (flaggedDefaultRoute 0) (flaggedDefaultRoute 16) (by decide)
  revert equal
  decide

end NetworkManager
