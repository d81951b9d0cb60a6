import NetworkManager.IpConfig.Entries

/-!
# Routes and the best default route

A configuration keeps its routes in an order and remembers which of them is the best default route.
Each function updates the remembered route on its own.  The functions of both families are the same
up to their routes.
-/

namespace NetworkManager.IPConfig

open List

section Routes

variable {ρ : Type} [NMPlatformIPRouteClass ρ]

open NMPlatformIPRouteClass

/-- `nm_platform_route_table_is_main`. -/
def routeTableIsMain (table : UInt32) : Bool := table = 0 ∨ table = 254

/-- `NM_PLATFORM_IP_ROUTE_IS_DEFAULT`. -/
def ipRouteIsDefault (route : ρ) : Bool := (common route).plen = 0

/-- `nm_ip_config_best_default_route_is`. -/
def bestDefaultRouteIs (obj : ρ) : Bool :=
  ipRouteIsDefault obj && routeTableIsMain (common obj).tableCoerced

/-- `_nm_ip_config_best_default_route_find_better`.  Routes that compare equal are the same object,
so that pointers need not be compared. -/
def bestDefaultRouteFindBetter (objCur objCmp : Option ρ) : Option ρ :=
  match objCmp with
  | none => objCur
  | some objCmp =>
    if bestDefaultRouteIs objCmp then
      match objCur with
      | none => some objCmp
      | some objCur =>
        let metricCur := metricNormalize ρ (common objCur).metric
        let metricCmp := metricNormalize ρ (common objCmp).metric
        if metricCmp < metricCur then some objCmp
        else if metricCmp = metricCur then
          let c := NMPClass.cmp objCur objCmp
          if c ≠ .eq then if c = .lt then some objCur else some objCmp
          else some objCur
        else some objCur
    else objCur

/-- What a configuration keeps of its routes. -/
structure RouteConfig (ρ : Type) where
  ifindex : Int
  routes : List (Entry ρ)
  bestDefaultRoute : Option ρ
  deriving DecidableEq, Repr

/-- `nm_ip4_config_new` and `nm_ip6_config_new`. -/
def RouteConfig.new (ifindex : Int) : RouteConfig ρ := ⟨ifindex, [], none⟩

/-- The scan of `_nm_ip4_config_best_default_route_find` and
`_nm_ip6_config_best_default_route_find`. -/
def bestDefaultRouteFind (routes : List (Entry ρ)) : Option ρ :=
  (objs routes).foldl (fun best obj => bestDefaultRouteFindBetter best (some obj)) none

/-- `_add_route`. -/
def addRoute [DecidableEq ρ] (config : RouteConfig ρ) (objNew : ρ) : RouteConfig ρ :=
  let added := addObj config.routes config.ifindex objNew true false
  if added.changed then
    let best :=
      if config.bestDefaultRoute = added.objOld ∧ added.objOld ≠ some added.objNew then none
      else config.bestDefaultRoute
    { config with
      routes := added.entries
      bestDefaultRoute := bestDefaultRouteFindBetter best (some added.objNew) }
  else { config with routes := added.entries }

/-- `nm_ip4_config_add_route` and `nm_ip6_config_add_route`. -/
def ipConfigAddRoute [DecidableEq ρ] (config : RouteConfig ρ) (new : ρ) : RouteConfig ρ :=
  if (common new).plen ≤ maxPlen ρ ∧ 0 < config.ifindex then addRoute config new else config

/-- `nm_utils_ip_route_metric_penalize`. -/
def routeMetricPenalize (ρ : Type) [NMPlatformIPRouteClass ρ] (metric penalty : UInt32) : UInt32 :=
  let metric := metricNormalize ρ metric
  if metric < 0xFFFFFFFF - penalty then metric + penalty else 0xFFFFFFFF

def penalized (penalty : UInt32) (route : ρ) : ρ :=
  if ipRouteIsDefault route ∧ penalty ≠ 0 then
    setMetric route (routeMetricPenalize ρ (common route).metric penalty)
  else route

/-- `NMIPConfigMergeFlags`. -/
structure NMIPConfigMergeFlags where
  /-- `NM_IP_CONFIG_MERGE_NO_ROUTES`. -/
  noRoutes : Bool := false
  noDefaultRoutes : Bool := false
  /-- `NM_IP_CONFIG_MERGE_NO_DNS`. -/
  noDns : Bool := false
  /-- `NM_IP_CONFIG_MERGE_EXTERNAL`. -/
  isExternal : Bool := false
  deriving DecidableEq, Repr

/-- The routes that `nm_ip4_config_merge` and `nm_ip6_config_merge` add. -/
def routesToMerge (src : RouteConfig ρ) (flags : NMIPConfigMergeFlags) (penalty : UInt32) :
    List ρ :=
  if flags.noRoutes then []
  else
    ((objs src.routes).filter fun route => !(ipRouteIsDefault route && flags.noDefaultRoutes)).map
      (penalized penalty)

/-- The routes in `nm_ip4_config_merge` and `nm_ip6_config_merge`. -/
def mergeRoutes [DecidableEq ρ] (dst src : RouteConfig ρ) (flags : NMIPConfigMergeFlags)
    (penalty : UInt32) : RouteConfig ρ :=
  (routesToMerge src flags penalty).foldl addRoute dst

/-- One route in `nm_ip4_config_subtract` and `nm_ip6_config_subtract`, with
`changed_default_route`. -/
def subtractRoute [DecidableEq ρ] (state : RouteConfig ρ × Bool) (lookup : ρ) :
    RouteConfig ρ × Bool :=
  let (routes, objOld) := removeObj state.1.routes lookup
  if objOld.isSome ∧ state.1.bestDefaultRoute = objOld then
    ({ state.1 with routes := routes, bestDefaultRoute := none }, true)
  else ({ state.1 with routes := routes }, state.2)

/-- The routes in `nm_ip4_config_subtract` and `nm_ip6_config_subtract`. -/
def subtractRoutes [DecidableEq ρ] (dst src : RouteConfig ρ) (penalty : UInt32) : RouteConfig ρ :=
  let (dst, changedDefaultRoute) :=
    ((objs src.routes).map (penalized penalty)).foldl subtractRoute (dst, false)
  if changedDefaultRoute then
    { dst with bestDefaultRoute := bestDefaultRouteFind dst.routes }
  else dst

/-- The routes in `_nm_ip4_config_intersect_helper` and `_nm_ip6_config_intersect_helper`. -/
def intersectRoutes (dst src : RouteConfig ρ) (penalty : UInt32) : RouteConfig ρ :=
  let kept := dst.routes.filter fun entry =>
    (lookupObj src.routes (penalized penalty entry.obj)).isSome
  { dst with
    routes := kept
    bestDefaultRoute :=
      (objs kept).foldl (fun best obj => bestDefaultRouteFindBetter best (some obj)) none }

/-- Whether two configurations have the same routes, as `nm_ip4_config_replace` compares them. -/
def routesEqual : List ρ → List ρ → Bool
  | [], [] => true
  | src :: srcs, dst :: dsts => objEqual src dst && routesEqual srcs dsts
  | _, _ => false

/-- One route that `nm_ip4_config_replace` and `nm_ip6_config_replace` add. -/
def replaceRoute (ifindex : Int) (state : List (Entry ρ) × Option ρ) (obj : ρ) :
    List (Entry ρ) × Option ρ :=
  let added := addObj state.1 ifindex obj false true
  (added.entries, bestDefaultRouteFindBetter state.2 (some added.objNew))

/-- The interface index and the routes in `nm_ip4_config_replace` and `nm_ip6_config_replace`. -/
def replaceRoutes (dst src : RouteConfig ρ) : RouteConfig ρ :=
  let dst := { dst with ifindex := src.ifindex }
  if routesEqual (objs src.routes) (objs dst.routes) then dst
  else
    let (routes, best) :=
      (objs src.routes).foldl (replaceRoute dst.ifindex) (dirtySetIdx dst.routes, none)
    { dst with routes := dirtyRemoveIdx routes, bestDefaultRoute := best }

/-- `nm_ip4_config_nmpobj_remove` and `nm_ip6_config_nmpobj_remove`, of a route. -/
def nmpobjRemove [DecidableEq ρ] (config : RouteConfig ρ) (needle : ρ) : RouteConfig ρ :=
  let (routes, objOld) := removeObj config.routes needle
  if objOld.isSome ∧ config.bestDefaultRoute = objOld then
    { config with routes := routes, bestDefaultRoute := bestDefaultRouteFind routes }
  else { config with routes := routes }

/-- `nm_ip4_config_reset_routes` and `nm_ip6_config_reset_routes`. -/
def resetRoutes (config : RouteConfig ρ) : RouteConfig ρ :=
  if config.routes = [] then config else { config with routes := [], bestDefaultRoute := none }

theorem penalized_cases (penalty : UInt32) (route : ρ) :
    penalized penalty route = route ∨ ∃ metric, penalized penalty route = setMetric route metric := by
  unfold penalized
  split
  · exact Or.inr ⟨_, rfl⟩
  · exact Or.inl rfl

/-- Routes that the index can hold. -/
structure RouteConfig.WellFormed (config : RouteConfig ρ) : Prop where
  distinct : Distinct (objs config.routes)
  ifindex : ∀ route ∈ objs config.routes, NMPClass.ifindex route = config.ifindex

theorem RouteConfig.WellFormed.new (ifindex : Int) :
    (RouteConfig.new ifindex : RouteConfig ρ).WellFormed where
  distinct := List.Pairwise.nil
  ifindex := by
    intro route mem
    cases mem

theorem RouteConfig.WellFormed.filter {config : RouteConfig ρ} (formed : config.WellFormed)
    (test : ρ → Bool) {routes : List (Entry ρ)}
    (routes_eq : objs routes = (objs config.routes).filter test) {best : Option ρ} :
    (⟨config.ifindex, routes, best⟩ : RouteConfig ρ).WellFormed where
  distinct := by
    rw [routes_eq]
    exact formed.distinct.filter test
  ifindex := by
    intro route mem
    dsimp only at mem ⊢
    rw [routes_eq] at mem
    exact formed.ifindex route (mem_filter.mp mem).1

theorem RouteConfig.WellFormed.resetRoutes {config : RouteConfig ρ} (formed : config.WellFormed) :
    (resetRoutes config).WellFormed := by
  unfold IPConfig.resetRoutes
  split
  · exact formed
  · exact RouteConfig.WellFormed.new config.ifindex

theorem RouteConfig.WellFormed.intersectRoutes {dst : RouteConfig ρ} (formed : dst.WellFormed)
    (src : RouteConfig ρ) (penalty : UInt32) : (intersectRoutes dst src penalty).WellFormed :=
  formed.filter (fun route => (lookupObj src.routes (penalized penalty route)).isSome)
    (objs_filter dst.routes _)

theorem addRoute_routes [DecidableEq ρ] (config : RouteConfig ρ) (objNew : ρ) :
    (addRoute config objNew).routes =
      (addObjTo config.routes (NMPClass.setIfindex objNew config.ifindex) true false).entries ∧
      (addRoute config objNew).ifindex = config.ifindex := by
  unfold addRoute addObj
  dsimp only
  split <;> exact ⟨rfl, rfl⟩

section Lawful

variable [LawfulNMPClass ρ]

theorem RouteConfig.WellFormed.addRoute [DecidableEq ρ] {config : RouteConfig ρ}
    (formed : config.WellFormed) (objNew : ρ) : (addRoute config objNew).WellFormed := by
  obtain ⟨routes_eq, ifindex_eq⟩ := addRoute_routes config objNew
  refine ⟨?_, ?_⟩
  · rw [routes_eq]
    exact addObjTo_distinct formed.distinct _ _
  · rw [routes_eq, ifindex_eq]
    exact addObjTo_ifindex formed.ifindex (LawfulNMPClass.ifindex_setIfindex _ _) _

theorem routesEqual_iff (first second : List ρ) :
    routesEqual first second = true ↔ first = second := by
  induction first generalizing second with
  | nil => cases second <;> simp [routesEqual]
  | cons route first ih =>
    cases second with
    | nil => simp [routesEqual]
    | cons other second => simp [routesEqual, objEqual_iff, ih]

theorem foldl_replaceRoute (ifindex : Int) (routes : List ρ)
    (uniform : ∀ route ∈ routes, NMPClass.ifindex route = ifindex)
    (entries : List (Entry ρ)) (best : Option ρ) :
    routes.foldl (replaceRoute ifindex) (entries, best) =
      (routes.foldl (fun entries obj => (addObjTo entries obj false true).entries) entries,
        routes.foldl (fun best obj => bestDefaultRouteFindBetter best (some obj)) best) := by
  induction routes generalizing entries best with
  | nil => rfl
  | cons route routes ih =>
    obtain ⟨same, uniform⟩ := forall_mem_cons.mp uniform
    have stays : NMPClass.setIfindex route ifindex = route := by
      rw [← same]
      exact LawfulNMPClass.setIfindex_self route
    have step : replaceRoute ifindex (entries, best) route =
        ((addObjTo entries route false true).entries,
          bestDefaultRouteFindBetter best (some route)) := by
      unfold replaceRoute addObj
      rw [stays]
      dsimp only
      rw [(addObjTo_force entries route).2]
    rw [foldl_cons, step, ih uniform, foldl_cons, foldl_cons]

theorem replaceRoutes_eq {src : RouteConfig ρ} (src_valid : src.WellFormed) (dst : RouteConfig ρ) :
    (replaceRoutes dst src).ifindex = src.ifindex ∧
      objs (replaceRoutes dst src).routes = objs src.routes ∧
      (replaceRoutes dst src).bestDefaultRoute =
        if routesEqual (objs src.routes) (objs dst.routes) then dst.bestDefaultRoute
        else bestDefaultRouteFind src.routes := by
  unfold replaceRoutes
  dsimp only
  by_cases same : routesEqual (objs src.routes) (objs dst.routes) = true
  · rw [if_pos same, if_pos same]
    exact ⟨rfl, ((routesEqual_iff _ _).mp same).symm, rfl⟩
  · rw [if_neg same, if_neg same, foldl_replaceRoute _ _ src_valid.ifindex]
    dsimp only
    rw [dirtyRemoveIdx_foldl src_valid.distinct]
    refine ⟨rfl, ?_, rfl⟩
    unfold objs
    rw [map_map]
    exact map_id' _

theorem RouteConfig.WellFormed.replaceRoutes {src : RouteConfig ρ} (src_formed : src.WellFormed)
    (dst : RouteConfig ρ) : (replaceRoutes dst src).WellFormed := by
  obtain ⟨ifindex_eq, routes_eq, -⟩ := replaceRoutes_eq src_formed dst
  refine ⟨?_, ?_⟩
  · rw [routes_eq]
    exact src_formed.distinct
  · rw [routes_eq, ifindex_eq]
    exact src_formed.ifindex

end Lawful

end Routes

end NetworkManager.IPConfig
