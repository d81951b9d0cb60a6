import NetworkManager.Dhcp.ClasslessRoutes
import NetworkManager.IpConfig.DirectRoute
import NetworkManager.Library.RestartLoop

/-!
# Dependent routes

`nm_ip4_config_add_dependent_routes` adds what the kernel would add for the addresses, and then a
route to each gateway that no other route reaches.  The second loop starts again after each route
that it adds.
-/

namespace NetworkManager.IPConfig

open List

open Dhcp (routeTableCoerce)

/-- `NM_IS_IP_CONFIG_SOURCE_RTPROT`. -/
def isIpConfigSourceRtprot (source : Nat) : Bool := 0 < source && source ≤ 256

/-- `_ipv4_is_zeronet`. -/
def ipv4IsZeronet (network : InAddr) : Bool := network &&& htonl 0xFF000000 = 0

/-- `nm_platform_ip_route_normalize`, of an IPv4 route. -/
def ipRouteNormalize (route : NMPlatformIP4Route) : NMPlatformIP4Route :=
  { route with
    tableCoerced := routeTableCoerce (routeTableUncoerce route.tableCoerced true)
    network := ip4AddressClearHostAddress route.network route.plen
    rtSource := ipConfigSourceRoundTripRtprot route.rtSource
    scopeInv := ipRouteScopeInvGetNormalized route }

/-- The route to the network of an address.  Its scope is `RT_SCOPE_LINK`. -/
def deviceRoute (ifindex : Int) (routeTable routeMetric : UInt32)
    (address : NMPlatformIP4Address) : NMPlatformIP4Route :=
  ipRouteNormalize
    { ifindex := ifindex
      rtSource := sourceKernel
      plen := address.plen
      lockWindow := false
      lockCwnd := false
      lockInitcwnd := false
      lockInitrwnd := false
      lockMtu := false
      rRtmFlags := 0
      mss := 0
      window := 0
      cwnd := 0
      initcwnd := 0
      initrwnd := 0
      mtu := 0
      metric := routeMetric
      tableCoerced := routeTableCoerce routeTable
      network := ip4AddressClearHostAddress address.peerAddress address.plen
      gateway := 0
      prefSrc := address.address
      tos := 0
      scopeInv := ~~~ 253 }

/-- The route that the kernel adds by itself for the same address, in the main table and with
`NM_PLATFORM_ROUTE_METRIC_IP4_DEVICE_ROUTE`. -/
def kernelRoute (route : NMPlatformIP4Route) : NMPlatformIP4Route :=
  ipRouteNormalize { route with tableCoerced := routeTableCoerce 254, metric := 0 }

def skipsDeviceRoute (address : NMPlatformIP4Address) : Bool :=
  address.plen = 0 || address.isExternal ||
    ipv4IsZeronet (ip4AddressClearHostAddress address.peerAddress address.plen) ||
    (address.plen = 32 && address.address = address.peerAddress)

/-- The routes, and `ip4_dev_route_blacklist`. -/
abbrev DeviceRoutes := RouteConfig NMPlatformIP4Route × List NMPlatformIP4Route

/-- The body of the loop of `nm_ip4_config_add_dependent_routes` over the addresses. -/
def addDeviceRoute (routeTable routeMetric : UInt32) (withBlacklist : Bool) (state : DeviceRoutes)
    (address : NMPlatformIP4Address) : DeviceRoutes :=
  if skipsDeviceRoute address then state
  else
    let (config, blacklist) := state
    let route := deviceRoute config.ifindex routeTable routeMetric address
    let config :=
      if (lookupObj config.routes route).isSome then config else addRoute config route
    if withBlacklist && (routeTable ≠ 254 || routeMetric ≠ 0) then
      let routeDev := kernelRoute route
      if (lookupObj config.routes routeDev).isSome then (config, blacklist)
      else (config, blacklist ++ [routeDev])
    else (config, blacklist)

/-- A default route through a gateway, which did not come from a routing protocol. -/
def isGatewayRoute (route : NMPlatformIP4Route) : Bool :=
  ipRouteIsDefault route && route.gateway ≠ 0 && !isIpConfigSourceRtprot route.rtSource

def gatewayTarget (route : NMPlatformIP4Route) : InAddr × UInt32 :=
  (route.gateway, routeTableUncoerce route.tableCoerced true)

def needsHostRoute (routes : List NMPlatformIP4Route) (route : NMPlatformIP4Route) : Bool :=
  isGatewayRoute route &&
    (getDirectRouteForHost route.gateway (routeTableUncoerce route.tableCoerced true) routes).isNone

def hostRoute (route : NMPlatformIP4Route) : NMPlatformIP4Route :=
  { route with network := route.gateway, plen := 32, gateway := 0 }

variable {route : NMPlatformIP4Route}

theorem ipRouteIsDefault_iff : ipRouteIsDefault route = true ↔ route.plen = 0 := by
  simp [ipRouteIsDefault, NMPlatformIPRouteClass.common]

theorem needsHostRoute_iff {routes : List NMPlatformIP4Route} :
    needsHostRoute routes route = true ↔ isGatewayRoute route = true ∧ ∀ other ∈ routes,
      coversHost (gatewayTarget route).1 (gatewayTarget route).2 other = false := by
  rw [needsHostRoute, Bool.and_eq_true]
  refine and_congr_right fun is_gateway => ?_
  have nonzero : route.gateway ≠ 0 := by
    simp only [isGatewayRoute, Bool.and_eq_true, decide_eq_true_eq] at is_gateway
    exact is_gateway.1.2
  rw [Option.isNone_iff_eq_none, getDirectRouteForHost_eq_none nonzero]
  rfl

theorem coversHost_of_idEqual {route other : NMPlatformIP4Route} {ifindex : Int}
    (same : idEqual other (NMPClass.setIfindex (hostRoute route) ifindex) = true) :
    coversHost (gatewayTarget route).1 (gatewayTarget route).2 other = true := by
  unfold idEqual at same
  rw [Ordering.isEq_iff_eq_eq] at same
  have key := ip4RouteCmp_id.mp same
  have weak := congrArg Ip4RouteKey.weak key
  have gateway : other.gateway = 0 := congrArg Ip4RouteKey.gateway key
  have plen : other.plen = 32 := congrArg Ip4RouteWeakKey.plen weak
  have table : routeTableUncoerce other.tableCoerced true =
      routeTableUncoerce route.tableCoerced true := congrArg Ip4RouteWeakKey.table weak
  have network : ip4AddressClearHostAddress other.network other.plen =
      ip4AddressClearHostAddress route.gateway 32 := by
    have swapped : htonl (ip4AddressClearHostAddress other.network other.plen) =
        htonl (ip4AddressClearHostAddress route.gateway 32) :=
      congrArg Ip4RouteWeakKey.network weak
    rw [← htonl_htonl (ip4AddressClearHostAddress other.network other.plen), swapped, htonl_htonl]
  rw [plen] at network
  simp [coversHost, gatewayTarget, gateway, table, network, plen]

theorem objs_addRoute_absent {config : RouteConfig NMPlatformIP4Route}
    (absent : lookupObj config.routes (NMPClass.setIfindex route config.ifindex) = none) :
    objs (addRoute config route).routes =
      objs config.routes ++ [NMPClass.setIfindex route config.ifindex] := by
  rw [(addRoute_routes config route).1, objs_addObjTo, absent]

/-- The second loop of `nm_ip4_config_add_dependent_routes`. -/
def hostRouteLoop :
    RestartLoop (RouteConfig NMPlatformIP4Route) NMPlatformIP4Route (InAddr × UInt32) where
  items config := objs config.routes
  pending config := needsHostRoute (objs config.routes)
  remedy config route := addRoute config (hostRoute route)
  wants := isGatewayRoute
  target := gatewayTarget
  serves route target := coversHost target.1 target.2 route
  pending_iff _ _ := needsHostRoute_iff
  remedy_items config route pending := by
    obtain ⟨-, unreached⟩ := needsHostRoute_iff.mp pending
    have absent : lookupObj config.routes
        (NMPClass.setIfindex (hostRoute route) config.ifindex) = none := by
      rw [Option.eq_none_iff_forall_ne_some]
      intro entry found
      obtain ⟨listed, same⟩ := lookupObj_some found
      have reached := coversHost_of_idEqual same
      rw [unreached entry.obj (List.mem_map_of_mem listed)] at reached
      cases reached
    refine ⟨_, objs_addRoute_absent absent, ?_, coversHost_of_idEqual (idEqual_refl _)⟩
    have not_default : ipRouteIsDefault (NMPClass.setIfindex (hostRoute route) config.ifindex) =
        false := by
      rw [Bool.eq_false_iff, Ne, ipRouteIsDefault_iff]
      exact (by decide : (32 : UInt8) ≠ 0)
    rw [isGatewayRoute, not_default, Bool.false_and, Bool.false_and]

/-- What `nm_ip4_config_add_dependent_routes` has done. -/
structure DependentRoutes where
  config : NMIP4ConfigPrivate
  /-- `out_ip4_dev_route_blacklist`. -/
  blacklist : List NMPlatformIP4Route
  /-- The routes at which the second loop started again. -/
  restarts : List NMPlatformIP4Route

/-- `nm_ip4_config_add_dependent_routes`. -/
def addDependentRoutes (self : NMIP4ConfigPrivate) (routeTable routeMetric : UInt32)
    (withBlacklist : Bool) : DependentRoutes :=
  if self.ifindex ≤ 0 then ⟨self, [], []⟩
  else
    let (routeConfig, blacklist) := (objs self.addresses).foldl
      (addDeviceRoute routeTable routeMetric withBlacklist) (self.routeConfig, [])
    let (routeConfig, restarts) := hostRouteLoop.run routeConfig
    ⟨{ self with routeConfig := routeConfig }, blacklist, restarts⟩

theorem addDeviceRoute_routes (routeTable routeMetric : UInt32) (withBlacklist : Bool)
    (state : DeviceRoutes) (address : NMPlatformIP4Address) :
    ∃ added, objs (addDeviceRoute routeTable routeMetric withBlacklist state address).1.routes =
      objs state.1.routes ++ added ∧ ∀ route ∈ added, isGatewayRoute route = false := by
  unfold addDeviceRoute
  split
  · exact ⟨[], (append_nil _).symm, forall_mem_nil _⟩
  · obtain ⟨config, blacklist⟩ := state
    dsimp only
    have config_eq : ∀ config' : RouteConfig NMPlatformIP4Route, (if (withBlacklist &&
          (decide (routeTable ≠ 254) || decide (routeMetric ≠ 0))) = true then
        if (lookupObj config'.routes (kernelRoute
          (deviceRoute config.ifindex routeTable routeMetric address))).isSome = true then
          (config', blacklist)
        else (config', blacklist ++ [kernelRoute
          (deviceRoute config.ifindex routeTable routeMetric address)])
        else (config', blacklist)).1 = config' := by
      intro config'
      split
      · split <;> rfl
      · rfl
    rw [config_eq]
    split
    · exact ⟨[], (append_nil _).symm, forall_mem_nil _⟩
    · rename_i absent
      have no_entry := Option.not_isSome_iff_eq_none.mp absent
      refine ⟨[deviceRoute config.ifindex routeTable routeMetric address],
        objs_addRoute_absent no_entry, ?_⟩
      intro route mem
      rw [mem_singleton.mp mem]
      simp [isGatewayRoute, deviceRoute, ipRouteNormalize]

theorem foldl_addDeviceRoute_routes (routeTable routeMetric : UInt32) (withBlacklist : Bool)
    (addresses : List NMPlatformIP4Address) (state : DeviceRoutes) :
    ∃ added, objs (addresses.foldl (addDeviceRoute routeTable routeMetric withBlacklist)
        state).1.routes = objs state.1.routes ++ added ∧
      ∀ route ∈ added, isGatewayRoute route = false := by
  induction addresses generalizing state with
  | nil => exact ⟨[], (append_nil _).symm, forall_mem_nil _⟩
  | cons address addresses ih =>
    obtain ⟨first, first_eq, first_plain⟩ :=
      addDeviceRoute_routes routeTable routeMetric withBlacklist state address
    obtain ⟨later, later_eq, later_plain⟩ :=
      ih (addDeviceRoute routeTable routeMetric withBlacklist state address)
    refine ⟨first ++ later, ?_, forall_mem_append.mpr ⟨first_plain, later_plain⟩⟩
    rw [foldl_cons, later_eq, first_eq, append_assoc]

/-- Adding the dependent routes keeps all routes and adds some after them.  The second loop starts
again at default routes through a gateway that were there before, at most once for each gateway and
table.  If the configuration has an interface, all default routes through a gateway have a route to
it afterwards, unless they came from a routing protocol. -/
theorem addDependentRoutes_reaches (self : NMIP4ConfigPrivate) (routeTable routeMetric : UInt32)
    (withBlacklist : Bool) :
    let result := addDependentRoutes self routeTable routeMetric withBlacklist
    let routes := objs self.routeConfig.routes
    (∃ added, objs result.config.routeConfig.routes = routes ++ added) ∧
      (∀ route ∈ result.restarts, route ∈ routes ∧ isGatewayRoute route = true) ∧
      (result.restarts.map gatewayTarget).Nodup ∧
      result.restarts.length ≤ ((routes.filter isGatewayRoute).map gatewayTarget).dedup.length ∧
      (0 < self.ifindex → ∀ route ∈ objs result.config.routeConfig.routes,
        ipRouteIsDefault route = true → route.gateway ≠ 0 →
        isIpConfigSourceRtprot route.rtSource = false →
        ∃ direct ∈ objs result.config.routeConfig.routes, coversHost route.gateway
          (routeTableUncoerce route.tableCoerced true) direct = true) := by
  dsimp only
  unfold addDependentRoutes
  split
  · rename_i no_interface
    refine ⟨⟨[], (append_nil _).symm⟩, forall_mem_nil _, nodup_nil, Nat.zero_le _,
      fun interface => ?_⟩
    omega
  · obtain ⟨first, first_eq, first_plain⟩ := foldl_addDeviceRoute_routes routeTable routeMetric
      withBlacklist (objs self.addresses) (self.routeConfig, [])
    generalize (objs self.addresses).foldl (addDeviceRoute routeTable routeMetric withBlacklist)
      (self.routeConfig, []) = state at first_eq
    obtain ⟨added, added_eq, -⟩ := hostRouteLoop.run_items state.1
    obtain ⟨restarts, distinct⟩ := hostRouteLoop.run_restarts state.1
    have bound := hostRouteLoop.length_restarts_le state.1
    have settled := hostRouteLoop.run_settled state.1
    have same_gateways : (objs state.1.routes).filter isGatewayRoute =
        (objs self.routeConfig.routes).filter isGatewayRoute := by
      have nothing : first.filter isGatewayRoute = [] := by
        rw [filter_eq_nil_iff]
        intro route mem
        rw [first_plain route mem]
        exact Bool.false_ne_true
      rw [first_eq, filter_append, nothing, append_nil]
    refine ⟨⟨first ++ added, ?_⟩, ?_, distinct, ?_, ?_⟩
    · rw [← append_assoc, ← first_eq]
      exact added_eq
    · intro route mem
      obtain ⟨listed, pending⟩ := restarts route mem
      have is_gateway := (needsHostRoute_iff.mp pending).1
      have filtered : route ∈ (objs state.1.routes).filter isGatewayRoute :=
        mem_filter.mpr ⟨listed, is_gateway⟩
      rw [same_gateways] at filtered
      exact mem_filter.mp filtered
    · rw [← same_gateways]
      exact bound
    · intro _ route mem is_default through source
      by_contra unreached
      have is_gateway : isGatewayRoute route = true := by
        rw [isGatewayRoute, is_default, source]
        simp [through]
      have pending : needsHostRoute (objs (hostRouteLoop.run state.1).1.routes) route = true := by
        refine needsHostRoute_iff.mpr ⟨is_gateway, fun direct direct_mem => ?_⟩
        rw [Bool.eq_false_iff]
        exact fun covers => unreached ⟨direct, direct_mem, covers⟩
      have not_pending : needsHostRoute (objs (hostRouteLoop.run state.1).1.routes) route = false :=
        settled route mem
      rw [pending] at not_pending
      cases not_pending

/-- A configuration with two default routes through one gateway. -/
def twoDefaultsCalls : List Ip4Call :=
  [.addRoute 0 (exampleRoute 262 0), .addRoute 0 { exampleRoute 262 0 with metric := 200 }]

theorem twoDefaultsCalls_lawful : ip4Machine.Lawful (ip4Start fun _ => 1) twoDefaultsCalls := by
  have first : routeValid (exampleRoute 262 0) = true := by decide
  have second : routeValid { exampleRoute 262 0 with metric := 200 } = true := by decide
  exact ⟨first, second, trivial⟩

/-- One route to the gateway is enough for both. -/
theorem addDependentRoutes_reaches_twoDefaults :
    let self := (reachedConfig _ twoDefaultsCalls_lawful 0).toNMIP4ConfigPrivate
    let result := addDependentRoutes self 254 0 false
    result.restarts.length ≤ 1 ∧
      ∃ direct ∈ objs result.config.routeConfig.routes,
        coversHost 0x0101A8C0 254 direct = true := by
  obtain ⟨⟨added, routes_eq⟩, -, -, bound, reaches⟩ := addDependentRoutes_reaches
    (reachedConfig _ twoDefaultsCalls_lawful 0).toNMIP4ConfigPrivate 254 0 false
  refine ⟨bound, reaches (by decide) (exampleRoute 262 0) ?_ (by decide) (by decide) (by decide)⟩
  rw [routes_eq]
  refine mem_append_left _ ?_
  decide

end NetworkManager.IPConfig
