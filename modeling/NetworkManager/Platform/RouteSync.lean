import NetworkManager.Platform.Identity

/-!
# Synchronising routes

`nm_platform_ip_route_sync` adds a list of routes to the platform and then deletes the routes of a
second list that are not in the first one.  Routes without a gateway are added before the others,
because the gateways must be reachable.  A route of the platform that has the identity of a route to
add, but another meaning, is replaced.

The platform is known by its operations.  What they achieve is a separate matter, since the kernel
may refuse any of them.
-/

namespace NetworkManager.RouteSync

/-- The two families of routes, and with them the rows of `nm_platform_vtable_route`. -/
inductive IpVersion where
  | v4
  | v6
  deriving DecidableEq, Repr

def IpVersion.Route : IpVersion → Type
  | .v4 => NMPlatformIP4Route
  | .v6 => NMPlatformIP6Route

/-- `route_cmp` of a family. -/
def routeCmp : {version : IpVersion} → version.Route → version.Route →
    NMPlatformIPRouteCmpType → Ordering
  | .v4 => ip4RouteCmp
  | .v6 => ip6RouteCmp

/-- `nmp_object_id_equal` for routes of a family. -/
def sameRoute {version : IpVersion} (a b : version.Route) : Bool := (routeCmp a b .id).isEq

def commonFields : {version : IpVersion} → version.Route → NMPlatformIPRoute
  | .v4 => NMPlatformIP4Route.toNMPlatformIPRoute
  | .v6 => NMPlatformIP6Route.toNMPlatformIPRoute

/-- `VTABLE_IS_DEVICE_ROUTE`. -/
def isDeviceRoute : {version : IpVersion} → version.Route → Bool
  | .v4 => fun route => decide (route.gateway = 0)
  | .v6 => fun route => decide (route.gateway = 0)

/-- A route with most of its fields unset. -/
def plainRoute (ifindex : Int) (rtSource : Nat) (plen : UInt8) (metric tableCoerced : UInt32) :
    NMPlatformIPRoute where
  ifindex := ifindex
  rtSource := rtSource
  plen := plen
  lockWindow := false
  lockCwnd := false
  lockInitcwnd := false
  lockInitrwnd := false
  lockMtu := false
  rRtmFlags := 0
  mss := 0
  window := 0
  cwnd := 0
  initcwnd := 0
  initrwnd := 0
  mtu := 0
  metric := metric
  tableCoerced := tableCoerced

def gatewayRoute : {version : IpVersion} → version.Route → version.Route
  | .v4 => fun rt =>
    { plainRoute rt.ifindex rt.rtSource 32 rt.metric rt.tableCoerced with
      network := rt.gateway, gateway := 0, prefSrc := 0, tos := 0, scopeInv := 0 }
  | .v6 => fun rt =>
    { plainRoute rt.ifindex rt.rtSource 128 rt.metric rt.tableCoerced with
      network := rt.gateway, gateway := 0, prefSrc := 0, src := 0, srcPlen := 0, rtPref := 0 }

/-- The operations of a platform with states in `σ` that synchronising routes uses. -/
structure RoutePlatform (version : IpVersion) (σ : Type*) where
  /-- `nm_platform_lookup_entry`: the route with the identity of the given one. -/
  lookupEntry : σ → version.Route → Option version.Route
  /-- `nm_platform_object_delete`.  Errors are ignored. -/
  objectDelete : σ → version.Route → σ
  /-- `nm_platform_ip_route_add`, which returns zero or a negative error number. -/
  ipRouteAdd : σ → version.Route → σ × Int
  /-- `nm_platform_ip6_address_get`. -/
  ip6AddressGet : σ → Int → In6Addr → Option NMPlatformIP6Address

/-- `EEXIST`. -/
def eexist : Int := 17

/-- `EINVAL`. -/
def einval : Int := 22

/-- `ENETUNREACH`. -/
def enetunreach : Int := 101

/-- `EHOSTUNREACH`. -/
def ehostunreach : Int := 113

/-- `NM_IP_CONFIG_SOURCE_USER`. -/
def ipConfigSourceUser : Nat := 266

/-- `IFA_F_TENTATIVE`. -/
def ifaFTentative : UInt32 := 0x40

/-- `IFA_F_DADFAILED`. -/
def ifaFDadfailed : UInt32 := 0x08

section

variable {version : IpVersion} {σ : Type*}

/-- `_err_inval_due_to_ipv6_tentative_pref_src`. -/
def errInvalDueToTentativePrefSrc : {version : IpVersion} → RoutePlatform version σ → σ →
    version.Route → Bool
  | .v4 => fun _ _ _ => false
  | .v6 => fun platform state r =>
    decide (r.rtSource = ipConfigSourceUser ∧ r.prefSrc ≠ 0) &&
      (platform.ip6AddressGet state r.ifindex r.prefSrc).any fun a =>
        decide (a.nIfaFlags &&& ifaFTentative ≠ 0 ∧ a.nIfaFlags &&& ifaFDadfailed = 0)

/-- Whether adding a route failed because its gateway cannot be reached. -/
def isUnreachable : (version : IpVersion) → version.Route → Int → Bool
  | .v4 => fun route r => decide (r = -enetunreach ∧ route.gateway ≠ 0)
  | .v6 => fun route r => decide (r = -ehostunreach ∧ route.gateway ≠ 0)

/-- What synchronising has done so far. -/
structure SyncState (version : IpVersion) (σ : Type*) where
  platform : σ
  /-- `routes_idx`: the routes that were handled. -/
  routesIdx : List version.Route
  /-- The routes that could currently not be synced. -/
  temporaryNotAvailable : List version.Route
  /-- Whether no route failed. -/
  success : Bool

section

variable (platform : RoutePlatform version σ) (wantTemporary : Bool)

/-- The code at `sync_route_add`.  When the gateway is unreachable, a direct route to it is added
and the route is tried again, but once only. -/
def syncRouteAdd (conf : version.Route) (retry : Option (SyncState version σ → SyncState version σ))
    (sync : SyncState version σ) :
    SyncState version σ :=
  let (state, r) := platform.ipRouteAdd sync.platform conf
  let sync := { sync with platform := state }
  if 0 ≤ r then sync
  else if r = -eexist then sync
  else if (commonFields conf).rtSource < ipConfigSourceUser then sync
  else if r = -einval ∧ wantTemporary = true ∧
      errInvalDueToTentativePrefSrc platform state conf = true then
    { sync with temporaryNotAvailable := sync.temporaryNotAvailable ++ [conf] }
  else
    match retry with
    | some retry =>
      if isUnreachable version conf r then
        retry { sync with platform := (platform.ipRouteAdd state (gatewayRoute conf)).1 }
      else { sync with success := false }
    | none => { sync with success := false }

/-- The body of the loop over the routes. -/
def syncRoute (sync : SyncState version σ) (conf : version.Route) : SyncState version σ :=
  if sync.routesIdx.any (sameRoute conf) then sync
  else
    let sync := { sync with routesIdx := sync.routesIdx ++ [conf] }
    let add := syncRouteAdd platform wantTemporary conf
      (some (syncRouteAdd platform wantTemporary conf none))
    match platform.lookupEntry sync.platform conf with
    | some plat =>
      if routeCmp conf plat .semantically = .eq then sync
      else add { sync with platform := platform.objectDelete sync.platform plat }
    | none => add sync

/-- The two runs over the routes: first device routes, then gateway routes. -/
def syncRoutes (routes : List version.Route) (sync : SyncState version σ) : SyncState version σ :=
  (routes.filter fun conf => !isDeviceRoute conf).foldl (syncRoute platform wantTemporary)
    ((routes.filter isDeviceRoute).foldl (syncRoute platform wantTemporary) sync)

/-- The body of the loop over the routes to prune. -/
def pruneRoute (platform : RoutePlatform version σ) (routesIdx : List version.Route) (state : σ)
    (prune : version.Route) : σ :=
  if routesIdx.any (sameRoute prune) then state
  else if (platform.lookupEntry state prune).isNone then state
  else platform.objectDelete state prune

/-- `nm_platform_ip_route_sync`.  An absent list is an empty one. -/
def ipRouteSync (routes routesPrune : List version.Route) (state : σ) : SyncState version σ :=
  let sync := syncRoutes platform wantTemporary routes ⟨state, [], [], true⟩
  { sync with
    platform := routesPrune.foldl (pruneRoute platform sync.routesIdx) sync.platform }

end

end

end NetworkManager.RouteSync
