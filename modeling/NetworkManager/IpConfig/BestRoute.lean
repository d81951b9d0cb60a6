import NetworkManager.IpConfig.Routes
import NetworkManager.Library.RunningBest

/-!
# The remembered default route is the best one

The remembered route is the one that a scan of all routes finds, as long as no function replaces it
by a route that is worse than another one.
-/

namespace NetworkManager.IPConfig

open List NMPlatformIPRouteClass

section Order

variable {ρ : Type} [NMPlatformIPRouteClass ρ]

/-- Default routes are preferred by their metrics, and by all fields in case of a tie. -/
def routePrefer : ρ → ρ → Ordering :=
  compareLex (compareOn fun route => metricNormalize ρ (common route).metric) NMPClass.cmp

/-- Routes are ordered, and their identities tell default routes. -/
class LawfulIPRouteClass (ρ : Type) [NMPlatformIPRouteClass ρ] : Prop extends
    LawfulNMPClass ρ where
  cmp_trans : Std.TransCmp (NMPClass.cmp : ρ → ρ → Ordering)
  /-- Default routes of the main table are told by the identity. -/
  id_best : ∀ {a b : ρ}, idEqual a b = true → bestDefaultRouteIs a = bestDefaultRouteIs b
  /-- Merging a route with itself changes nothing. -/
  merge_self : ∀ a : ρ, NMPClass.mergeOld a a = a

instance : Std.TransCmp routeLocksCmp :=
  inferInstanceAs (Std.TransCmp (compareLex (compareOn NMPlatformIPRoute.lockWindow) <|
    compareLex (compareOn NMPlatformIPRoute.lockCwnd) <|
    compareLex (compareOn NMPlatformIPRoute.lockInitcwnd) <|
    compareLex (compareOn NMPlatformIPRoute.lockInitrwnd)
      (compareOn NMPlatformIPRoute.lockMtu)))

instance : Std.TransCmp routeWindowsCmp :=
  inferInstanceAs (Std.TransCmp (compareLex (compareOn NMPlatformIPRoute.window) <|
    compareLex (compareOn NMPlatformIPRoute.cwnd) <|
    compareLex (compareOn NMPlatformIPRoute.initcwnd) <|
    compareLex (compareOn NMPlatformIPRoute.initrwnd)
      (compareOn NMPlatformIPRoute.mtu)))

theorem transCmp_part {α β : Type} (cmp : β → β → Ordering) [Std.TransCmp cmp] (part : α → β) :
    Std.TransCmp fun a b : α => cmp (part a) (part b) where
  eq_swap := Std.OrientedCmp.eq_swap
  isLE_trans := Std.TransCmp.isLE_trans

theorem transCmp_ip4Route : Std.TransCmp fun a b : NMPlatformIP4Route => ip4RouteCmp a b .full := by
  have locks := transCmp_part routeLocksCmp NMPlatformIP4Route.toNMPlatformIPRoute
  have windows := transCmp_part routeWindowsCmp NMPlatformIP4Route.toNMPlatformIPRoute
  have chain : Std.TransCmp (
      compareLex (compareOn fun route : NMPlatformIP4Route => route.tableCoerced) <|
      compareLex (compareOn fun route : NMPlatformIP4Route => route.ifindex) <|
      compareLex (compareOn NMPlatformIP4Route.network) <|
      compareLex (compareOn fun route : NMPlatformIP4Route => route.plen) <|
      compareLex (compareOn fun route : NMPlatformIP4Route => route.metric) <|
      compareLex (compareOn NMPlatformIP4Route.gateway) <|
      compareLex (compareOn fun route : NMPlatformIP4Route => route.rtSource) <|
      compareLex (compareOn NMPlatformIP4Route.scopeInv) <|
      compareLex (compareOn fun route : NMPlatformIP4Route => route.mss) <|
      compareLex (compareOn NMPlatformIP4Route.prefSrc) <|
      compareLex (compareOn fun route : NMPlatformIP4Route => route.rRtmFlags) <|
      compareLex (compareOn NMPlatformIP4Route.tos) <|
      compareLex (fun a b : NMPlatformIP4Route =>
        routeLocksCmp a.toNMPlatformIPRoute b.toNMPlatformIPRoute)
        (fun a b => routeWindowsCmp a.toNMPlatformIPRoute b.toNMPlatformIPRoute)) :=
    inferInstance
  exact chain

theorem transCmp_ip6Route : Std.TransCmp fun a b : NMPlatformIP6Route => ip6RouteCmp a b .full := by
  have locks := transCmp_part routeLocksCmp NMPlatformIP6Route.toNMPlatformIPRoute
  have windows := transCmp_part routeWindowsCmp NMPlatformIP6Route.toNMPlatformIPRoute
  have chain : Std.TransCmp (
      compareLex (compareOn fun route : NMPlatformIP6Route => route.tableCoerced) <|
      compareLex (compareOn fun route : NMPlatformIP6Route => route.ifindex) <|
      compareLex (compareOn NMPlatformIP6Route.network) <|
      compareLex (compareOn fun route : NMPlatformIP6Route => route.plen) <|
      compareLex (compareOn fun route : NMPlatformIP6Route => route.metric) <|
      compareLex (compareOn NMPlatformIP6Route.gateway) <|
      compareLex (compareOn NMPlatformIP6Route.prefSrc) <|
      compareLex (compareOn NMPlatformIP6Route.src) <|
      compareLex (compareOn NMPlatformIP6Route.srcPlen) <|
      compareLex (compareOn fun route : NMPlatformIP6Route => route.rtSource) <|
      compareLex (compareOn fun route : NMPlatformIP6Route => route.mss) <|
      compareLex (compareOn fun route : NMPlatformIP6Route => route.rRtmFlags) <|
      compareLex (fun a b : NMPlatformIP6Route =>
        routeLocksCmp a.toNMPlatformIPRoute b.toNMPlatformIPRoute) <|
      compareLex (fun a b : NMPlatformIP6Route =>
        routeWindowsCmp a.toNMPlatformIPRoute b.toNMPlatformIPRoute)
        (compareOn NMPlatformIP6Route.rtPref)) :=
    inferInstance
  exact chain

theorem routeTableIsMain_eq (table : UInt32) :
    routeTableIsMain table = decide (routeTableUncoerce table true = 254) := by
  unfold routeTableIsMain routeTableUncoerce
  by_cases zero : table = 0
  · simp [zero]
  · by_cases main : table = 254
    · simp [main]
    · simp [zero, main]

theorem bestDefaultRouteIs_congr {a b : ρ} (plen : (common a).plen = (common b).plen)
    (table : routeTableUncoerce (common a).tableCoerced true =
      routeTableUncoerce (common b).tableCoerced true) :
    bestDefaultRouteIs a = bestDefaultRouteIs b := by
  unfold bestDefaultRouteIs ipRouteIsDefault
  rw [routeTableIsMain_eq, routeTableIsMain_eq, plen, table]

theorem mergeRoute_self (route : NMPlatformIPRoute) : mergeRoute route route = route := by
  unfold mergeRoute
  rw [if_neg (Nat.lt_irrefl _)]

instance : LawfulIPRouteClass NMPlatformIP4Route where
  cmp_trans := transCmp_ip4Route
  id_best := by
    intro a b same
    unfold idEqual at same
    rw [Ordering.isEq_iff_eq_eq] at same
    have weak := congrArg Ip4RouteKey.weak (ip4RouteCmp_id.mp same)
    exact bestDefaultRouteIs_congr (congrArg Ip4RouteWeakKey.plen weak)
      (congrArg Ip4RouteWeakKey.table weak)
  merge_self := by
    intro route
    dsimp only [NMPClass.mergeOld]
    rw [mergeRoute_self]

instance : LawfulIPRouteClass NMPlatformIP6Route where
  cmp_trans := transCmp_ip6Route
  id_best := by
    intro a b same
    unfold idEqual at same
    rw [Ordering.isEq_iff_eq_eq] at same
    have weak := (ip6RouteCmp_id.mp same).1
    exact bestDefaultRouteIs_congr (congrArg Ip6RouteWeakKey.plen weak)
      (congrArg Ip6RouteWeakKey.table weak)
  merge_self := by
    intro route
    dsimp only [NMPClass.mergeOld]
    rw [mergeRoute_self]

end Order

section Tracking

variable {ρ : Type} [NMPlatformIPRouteClass ρ]

theorem routePrefer_eq (a b : ρ) :
    routePrefer a b = (compare (metricNormalize ρ (common a).metric)
      (metricNormalize ρ (common b).metric)).then (NMPClass.cmp a b) := rfl

theorem findBetter_eq (best : Option ρ) (obj : ρ) :
    bestDefaultRouteFindBetter best (some obj) =
      RunningBest.better bestDefaultRouteIs routePrefer best obj := by
  unfold bestDefaultRouteFindBetter RunningBest.better
  dsimp only
  split
  · cases best with
    | none => rfl
    | some cur =>
      dsimp only
      rw [routePrefer_eq]
      generalize metricNormalize ρ (common cur).metric = metricCur
      generalize metricNormalize ρ (common obj).metric = metricCmp
      by_cases smaller : metricCmp < metricCur
      · rw [if_pos smaller, Std.compare_eq_gt.mpr smaller]
        rfl
      · rw [if_neg smaller]
        by_cases same : metricCmp = metricCur
        · subst same
          rw [if_pos rfl, Std.ReflOrd.compare_self]
          cases NMPClass.cmp cur obj <;> rfl
        · rw [if_neg same]
          have larger : metricCur < metricCmp := by
            rcases UInt32.lt_or_lt_of_ne same with below | above
            · exact absurd below smaller
            · exact above
          rw [Std.compare_eq_lt.mpr larger]
          rfl
  · rfl

theorem find_eq_scan (routes : List (Entry ρ)) :
    bestDefaultRouteFind routes = RunningBest.scan bestDefaultRouteIs routePrefer (objs routes) := by
  unfold bestDefaultRouteFind RunningBest.scan
  simp only [findBetter_eq]

abbrev IsBestRoute (routes : List ρ) (best : Option ρ) : Prop :=
  RunningBest.IsBest bestDefaultRouteIs routePrefer routes best

/-- The remembered route is the one that a scan finds. -/
def Tracked (config : RouteConfig ρ) : Prop :=
  config.bestDefaultRoute = bestDefaultRouteFind config.routes

/-- What a configuration keeps in every state. -/
structure RouteConfig.Valid (config : RouteConfig ρ) : Prop extends config.WellFormed where
  best : IsBestRoute (objs config.routes) config.bestDefaultRoute

theorem RouteConfig.Valid.new (ifindex : Int) : (RouteConfig.new ifindex : RouteConfig ρ).Valid where
  toWellFormed := RouteConfig.WellFormed.new ifindex
  best := by
    intro route mem
    cases mem

theorem RouteConfig.Valid.resetRoutes {config : RouteConfig ρ} (valid : config.Valid) :
    (resetRoutes config).Valid where
  toWellFormed := valid.toWellFormed.resetRoutes
  best := by
    unfold IPConfig.resetRoutes
    split
    · exact valid.best
    · intro route mem
      cases mem

variable [LawfulIPRouteClass ρ]

instance : Std.TransCmp (routePrefer : ρ → ρ → Ordering) := by
  have ordered : Std.TransCmp (NMPClass.cmp : ρ → ρ → Ordering) := LawfulIPRouteClass.cmp_trans
  unfold routePrefer
  infer_instance

instance : Std.LawfulEqCmp (routePrefer : ρ → ρ → Ordering) where
  compare_self := Std.ReflCmp.compare_self
  eq_of_compare := by
    intro a b equal
    rw [routePrefer_eq, Ordering.then_eq_eq] at equal
    exact (LawfulNMPClass.cmp_eq a b).mp equal.2

theorem tracked_iff (config : RouteConfig ρ) :
    Tracked config ↔ IsBestRoute (objs config.routes) config.bestDefaultRoute := by
  unfold Tracked
  rw [find_eq_scan]
  exact RunningBest.isBest_iff_scan.symm

theorem mem_putObj {items : List ρ} (distinct : Distinct items) {old obj item : ρ}
    (old_mem : old ∈ items) (same : idEqual old obj = true) :
    item ∈ putObj items obj ↔ item = obj ∨ (item ∈ items ∧ item ≠ old) := by
  unfold putObj
  rw [mem_map]
  constructor
  · rintro ⟨other, mem, rfl⟩
    by_cases replaced : idEqual other obj = true
    · exact Or.inl (by rw [if_pos replaced])
    · rw [if_neg replaced]
      refine Or.inr ⟨mem, ?_⟩
      rintro rfl
      exact replaced same
  · rintro (rfl | ⟨mem, different⟩)
    · exact ⟨old, old_mem, by rw [if_pos same]⟩
    · refine ⟨item, mem, ?_⟩
      rw [if_neg]
      intro replaced
      exact different (distinct.eq_of_idEqual mem old_mem
        (idEqual_trans replaced (idEqual_symm same)))

/-- If adding a route overwrites the best default route, then no other default route is preferred to
what is stored. -/
def AddKeeps (config : RouteConfig ρ) (objNew : ρ) : Prop :=
  ∀ entry, lookupObj config.routes (NMPClass.setIfindex objNew config.ifindex) = some entry →
    config.bestDefaultRoute = some entry.obj →
    ∀ other ∈ objs config.routes, other ≠ entry.obj → bestDefaultRouteIs other = true →
      routePrefer (NMPClass.mergeOld (NMPClass.setIfindex objNew config.ifindex) entry.obj)
        other ≠ .gt

theorem addObjTo_kept {entries : List (Entry ρ)} {objNew : ρ} {entry : Entry ρ}
    (found : lookupObj entries objNew = some entry)
    (stays : (addObjTo entries objNew true false).objNew = entry.obj) :
    NMPClass.mergeOld objNew entry.obj = entry.obj := by
  by_cases equal : objEqual objNew entry.obj = true
  · rw [objEqual_iff] at equal
    rw [equal]
    exact LawfulIPRouteClass.merge_self _
  · unfold addObjTo at stays
    rw [found] at stays
    simp only [equal, Bool.not_false, and_self, if_true] at stays
    split at stays
    · rename_i merged_equal
      exact objEqual_iff.mp merged_equal
    · exact stays

section Add

variable [DecidableEq ρ] {config : RouteConfig ρ}

theorem addRoute_new (valid : config.Valid) {objNew : ρ}
    (absent : lookupObj config.routes (NMPClass.setIfindex objNew config.ifindex) = none) :
    IsBestRoute (objs (addRoute config objNew).routes)
      (addRoute config objNew).bestDefaultRoute := by
  unfold addRoute addObj addObjTo
  rw [absent]
  dsimp only
  rw [if_pos rfl]
  dsimp only
  have cleared : (if config.bestDefaultRoute = none ∧
      (none : Option ρ) ≠ some (NMPClass.setIfindex objNew config.ifindex) then none
      else config.bestDefaultRoute) = config.bestDefaultRoute := by
    split
    · rename_i is_none
      exact is_none.1.symm
    · rfl
  rw [cleared, findBetter_eq]
  unfold objs
  rw [map_append]
  exact valid.best.better _

theorem addRoute_old_iff (valid : config.Valid) {objNew : ρ} {entry : Entry ρ}
    (found : lookupObj config.routes (NMPClass.setIfindex objNew config.ifindex) = some entry) :
    IsBestRoute (objs (addRoute config objNew).routes)
      (addRoute config objNew).bestDefaultRoute ↔ AddKeeps config objNew := by
  have old_mem : entry.obj ∈ objs config.routes := mem_map_of_mem (lookupObj_some found).1
  have old_same := (lookupObj_some found).2
  obtain ⟨obj, same, overwritten, stored, replaced, unchanged, merged, kept⟩ :=
    addObjTo_some found true false
  have routes_eq : objs (addRoute config objNew).routes = putObj (objs config.routes) obj := by
    unfold addRoute addObj
    dsimp only
    split <;> rw [overwritten, objs_overwrite]
  have mem_iff : ∀ item, item ∈ putObj (objs config.routes) obj ↔
      item = obj ∨ (item ∈ objs config.routes ∧ item ≠ entry.obj) := fun item =>
    mem_putObj valid.distinct old_mem (idEqual_trans old_same (idEqual_symm same))
  rw [routes_eq]
  have found_eq : ∀ other,
      lookupObj config.routes (NMPClass.setIfindex objNew config.ifindex) = some other →
      other = entry := by
    intro other other_found
    exact (Option.some.inj (found.symm.trans other_found)).symm
  by_cases is_old : obj = entry.obj
  · -- Nothing changes.
    have best_eq : (addRoute config objNew).bestDefaultRoute = config.bestDefaultRoute := by
      unfold addRoute addObj
      dsimp only
      rw [kept is_old rfl, if_neg (by decide)]
    rw [best_eq, is_old, putObj_self valid.distinct old_mem]
    refine iff_of_true valid.best ?_
    intro other other_found is_best route mem different chosen
    rw [found_eq other other_found] at is_best ⊢
    rw [addObjTo_kept found (stored.trans is_old)]
    have least := valid.best
    rw [is_best] at least
    exact least.2.2 route mem chosen
  · have is_merged : obj = NMPClass.mergeOld (NMPClass.setIfindex objNew config.ifindex)
        entry.obj := by
      rw [merged is_old, if_pos rfl]
    have is_changed : (addObjTo config.routes (NMPClass.setIfindex objNew config.ifindex) true
        false).changed = true := by
      rw [← Bool.not_eq_false]
      exact fun same_state => is_old (unchanged same_state)
    have best_eq : (addRoute config objNew).bestDefaultRoute =
        RunningBest.better bestDefaultRouteIs routePrefer
          (if config.bestDefaultRoute = some entry.obj then none else config.bestDefaultRoute)
          obj := by
      unfold addRoute addObj
      dsimp only
      have different : some entry.obj ≠ some obj := fun eq => is_old (Option.some.inj eq).symm
      rw [is_changed, if_pos rfl, stored, replaced, findBetter_eq]
      simp only [different, ne_eq, not_false_eq_true, and_true]
    rw [best_eq]
    by_cases was_best : config.bestDefaultRoute = some entry.obj
    · have old_best := valid.best
      rw [was_best] at old_best
      have chosen : bestDefaultRouteIs obj = true := by
        rw [LawfulIPRouteClass.id_best (idEqual_trans same (idEqual_symm old_same))]
        exact old_best.2.1
      have better_eq : RunningBest.better bestDefaultRouteIs routePrefer none obj = some obj := by
        unfold RunningBest.better
        rw [if_pos chosen]
      rw [if_pos was_best, better_eq]
      constructor
      · rintro ⟨-, -, least⟩ other other_found - route mem different route_chosen
        rw [found_eq other other_found] at different ⊢
        rw [← is_merged]
        exact least route ((mem_iff route).mpr (Or.inr ⟨mem, different⟩)) route_chosen
      · intro keeps
        refine ⟨(mem_iff obj).mpr (Or.inl rfl), chosen, ?_⟩
        intro route mem route_chosen
        rcases (mem_iff route).mp mem with rfl | ⟨mem, different⟩
        · exact RunningBest.self_not_gt _
        · rw [is_merged]
          exact keeps entry found was_best route mem different route_chosen
    · rw [if_neg was_best]
      refine iff_of_true ?_ ?_
      · -- The remembered route stays, and the new one is taken into account.
        have others : IsBestRoute ((objs config.routes).filter (fun route => route ≠ entry.obj))
            config.bestDefaultRoute := by
          refine valid.best.subset (filter_subset_self _) ?_
          intro route is_best
          have mem : route ∈ objs config.routes := by
            have best := valid.best
            rw [is_best] at best
            exact best.1
          refine mem_filter.mpr ⟨mem, ?_⟩
          simp only [decide_eq_true_eq]
          rintro rfl
          exact was_best is_best
        refine (others.better obj).congr ?_
        intro item
        rw [mem_iff, mem_append, mem_filter, mem_singleton, decide_eq_true_eq]
        exact Or.comm
      · intro other other_found is_best
        rw [found_eq other other_found] at is_best
        exact absurd is_best was_best

/-- The remembered route is right after a route was added exactly if the condition was met. -/
theorem addRoute_best_iff (valid : config.Valid) (objNew : ρ) :
    IsBestRoute (objs (addRoute config objNew).routes)
      (addRoute config objNew).bestDefaultRoute ↔ AddKeeps config objNew := by
  cases found : lookupObj config.routes (NMPClass.setIfindex objNew config.ifindex) with
  | none =>
    refine iff_of_true (addRoute_new valid found) ?_
    intro entry entry_found
    rw [found] at entry_found
    cases entry_found
  | some entry => exact addRoute_old_iff valid found

theorem RouteConfig.Valid.addRoute (valid : config.Valid) {objNew : ρ}
    (keeps : AddKeeps config objNew) : (addRoute config objNew).Valid where
  toWellFormed := valid.toWellFormed.addRoute objNew
  best := (addRoute_best_iff valid objNew).mpr keeps

/-- All routes that are added one after the other meet the condition. -/
def AddAllKeeps : RouteConfig ρ → List ρ → Prop
  | _, [] => True
  | config, route :: routes =>
    AddKeeps config route ∧ AddAllKeeps (IPConfig.addRoute config route) routes

theorem RouteConfig.Valid.addRoutes (valid : config.Valid) {routes : List ρ}
    (keeps : AddAllKeeps config routes) : (routes.foldl IPConfig.addRoute config).Valid := by
  induction routes generalizing config with
  | nil => exact valid
  | cons route routes ih => exact ih (valid.addRoute keeps.1) keeps.2

end Add

section Others

variable {config dst src : RouteConfig ρ}

theorem isBestRoute_find (routes : List (Entry ρ)) :
    IsBestRoute (objs routes) (bestDefaultRouteFind routes) := by
  rw [find_eq_scan]
  exact RunningBest.isBest_scan _

theorem isBest_removeObj (valid : config.Valid) {needle : ρ}
    (other : ¬ ((removeObj config.routes needle).2.isSome = true ∧
      config.bestDefaultRoute = (removeObj config.routes needle).2)) :
    IsBestRoute (objs (removeObj config.routes needle).1) config.bestDefaultRoute := by
  rw [objs_removeObj]
  refine valid.best.subset (filter_subset_self _) ?_
  intro route is_best
  have best := valid.best
  rw [is_best] at best
  refine mem_filter.mpr ⟨best.1, ?_⟩
  rw [Bool.not_eq_true']
  by_contra removed
  rw [Bool.not_eq_false] at removed
  refine other ?_
  unfold removeObj
  dsimp only
  have present : (lookupObj config.routes needle).isSome = true :=
    lookupObj_isSome_iff.mpr ⟨route, best.1, removed⟩
  obtain ⟨entry, found⟩ := Option.isSome_iff_exists.mp present
  obtain ⟨entry_mem, entry_same⟩ := lookupObj_some found
  rw [found, is_best, valid.distinct.eq_of_idEqual best.1 (mem_map_of_mem entry_mem)
    (idEqual_trans removed (idEqual_symm entry_same))]
  exact ⟨rfl, rfl⟩

theorem RouteConfig.Valid.nmpobjRemove [DecidableEq ρ] (valid : config.Valid) (needle : ρ) :
    (nmpobjRemove config needle).Valid := by
  unfold IPConfig.nmpobjRemove
  dsimp only
  split
  · exact ⟨valid.toWellFormed.filter _ (objs_removeObj _ _), isBestRoute_find _⟩
  · rename_i other
    exact ⟨valid.toWellFormed.filter _ (objs_removeObj _ _), isBest_removeObj valid other⟩

theorem RouteConfig.Valid.intersectRoutes (valid : dst.Valid) (src : RouteConfig ρ)
    (penalty : UInt32) : (intersectRoutes dst src penalty).Valid where
  toWellFormed := valid.toWellFormed.intersectRoutes src penalty
  best := isBestRoute_find _

/-- What holds while routes are subtracted. -/
def Subtracting (state : RouteConfig ρ × Bool) : Prop :=
  state.1.WellFormed ∧
    (state.2 = false → IsBestRoute (objs state.1.routes) state.1.bestDefaultRoute)

theorem subtracting_step [DecidableEq ρ] {state : RouteConfig ρ × Bool}
    (holds : Subtracting state) (lookup : ρ) : Subtracting (subtractRoute state lookup) := by
  obtain ⟨formed, best⟩ := holds
  unfold subtractRoute
  dsimp only
  split
  · exact ⟨formed.filter _ (objs_removeObj _ _), by simp⟩
  · rename_i other
    exact ⟨formed.filter _ (objs_removeObj _ _),
      fun unchanged => isBest_removeObj ⟨formed, best unchanged⟩ other⟩

theorem RouteConfig.Valid.subtractRoutes [DecidableEq ρ] (valid : dst.Valid)
    (src : RouteConfig ρ) (penalty : UInt32) : (subtractRoutes dst src penalty).Valid := by
  have folded : ∀ (lookups : List ρ) (state : RouteConfig ρ × Bool), Subtracting state →
      Subtracting (lookups.foldl subtractRoute state) := by
    intro lookups
    induction lookups with
    | nil => exact fun _ holds => holds
    | cons lookup lookups ih => exact fun state holds => ih _ (subtracting_step holds lookup)
  obtain ⟨formed, best⟩ := folded ((objs src.routes).map (penalized penalty)) (dst, false)
    ⟨valid.toWellFormed, fun _ => valid.best⟩
  unfold IPConfig.subtractRoutes
  dsimp only
  split
  · exact ⟨⟨formed.distinct, formed.ifindex⟩, isBestRoute_find _⟩
  · rename_i unchanged
    exact ⟨formed, best (by simpa using unchanged)⟩

theorem RouteConfig.Valid.replaceRoutes (valid : dst.Valid) (src_valid : src.Valid) :
    (replaceRoutes dst src).Valid where
  toWellFormed := src_valid.toWellFormed.replaceRoutes dst
  best := by
    obtain ⟨-, routes_eq, best_eq⟩ := replaceRoutes_eq src_valid.toWellFormed dst
    rw [best_eq, routes_eq]
    split
    · rename_i same
      rw [(routesEqual_iff _ _).mp same]
      exact valid.best
    · exact isBestRoute_find _

end Others

/-- The remembered route is the one that a scan finds, and there is none exactly if no stored route
is a default route of the main table. -/
def TracksBest (config : RouteConfig ρ) : Prop :=
  config.bestDefaultRoute = bestDefaultRouteFind config.routes ∧
    (config.bestDefaultRoute = none ↔
      ∀ route ∈ objs config.routes, bestDefaultRouteIs route = false)

theorem RouteConfig.Valid.tracksBest {config : RouteConfig ρ} (valid : config.Valid) :
    TracksBest config := by
  refine ⟨(tracked_iff config).mpr valid.best, ?_⟩
  have best := valid.best
  cases is_best : config.bestDefaultRoute with
  | none =>
    rw [is_best] at best
    exact iff_of_true rfl best
  | some route =>
    rw [is_best] at best
    refine iff_of_false (by simp) ?_
    intro none_chosen
    have := none_chosen route best.1
    rw [best.2.1] at this
    cases this

end Tracking

section Runs

variable {ρ : Type} [NMPlatformIPRouteClass ρ]

/-- The configurations of one family. -/
abbrev Store (ρ : Type) := Nat → RouteConfig ρ

def AllValid (store : Store ρ) : Prop := ∀ id, (store id).Valid

theorem AllValid.update {store : Store ρ} (valid : AllValid store) {self : Nat}
    {config : RouteConfig ρ} (config_valid : config.Valid) :
    AllValid (Function.update store self config) := by
  intro id
  rw [Function.update_apply]
  split
  · exact config_valid
  · exact valid id

variable [DecidableEq ρ]

inductive Call (ρ : Type) where
  /-- `nm_ip4_config_add_route` or `nm_ip6_config_add_route`. -/
  | addRoute (self : Nat) (new : ρ)
  /-- `nm_ip4_config_merge` or `nm_ip6_config_merge`. -/
  | merge (dst src : Nat) (flags : NMIPConfigMergeFlags) (penalty : UInt32)
  /-- `nm_ip4_config_subtract` or `nm_ip6_config_subtract`. -/
  | subtract (dst src : Nat) (penalty : UInt32)
  /-- `nm_ip4_config_intersect` or `nm_ip6_config_intersect`. -/
  | intersect (dst src : Nat) (intersectRoutes : Bool) (penalty : UInt32)
  /-- `nm_ip4_config_replace` or `nm_ip6_config_replace`. -/
  | replace (dst src : Nat)
  /-- `nm_ip4_config_nmpobj_remove` or `nm_ip6_config_nmpobj_remove`. -/
  | nmpobjRemove (self : Nat) (needle : ρ)
  /-- `nm_ip4_config_reset_routes` or `nm_ip6_config_reset_routes`. -/
  | resetRoutes (self : Nat)

def perform (store : Store ρ) : Call ρ → Store ρ
  | .addRoute self new => Function.update store self (ipConfigAddRoute (store self) new)
  | .merge dst src flags penalty =>
    Function.update store dst (mergeRoutes (store dst) (store src) flags penalty)
  | .subtract dst src penalty =>
    Function.update store dst (subtractRoutes (store dst) (store src) penalty)
  | .intersect dst src routes penalty =>
    Function.update store dst
      (if routes then intersectRoutes (store dst) (store src) penalty else store dst)
  | .replace dst src => Function.update store dst (replaceRoutes (store dst) (store src))
  | .nmpobjRemove self needle => Function.update store self (nmpobjRemove (store self) needle)
  | .resetRoutes self => Function.update store self (resetRoutes (store self))

/-- Two configurations of a call are different objects. -/
def Call.Apart : Call ρ → Prop
  | .merge dst src _ _ | .subtract dst src _ | .intersect dst src _ _ | .replace dst src => dst ≠ src
  | .addRoute _ _ | .nmpobjRemove _ _ | .resetRoutes _ => True

/-- The call does not replace a best default route by a route that is worse than another one. -/
def Call.Keeps (store : Store ρ) : Call ρ → Prop
  | .addRoute self new => AddKeeps (store self) new
  | .merge dst src flags penalty =>
    AddAllKeeps (store dst) (routesToMerge (store src) flags penalty)
  | .subtract _ _ _ | .intersect _ _ _ _ | .replace _ _ | .nmpobjRemove _ _ | .resetRoutes _ => True

/-- Calls whose configurations are different objects and that keep the best default route. -/
def machine (ρ : Type) [NMPlatformIPRouteClass ρ] [DecidableEq ρ] :
    GuardedMachine (Store ρ) (Call ρ) where
  step := perform
  guard := fun store call => call.Apart ∧ call.Keeps store

def start (ifindexes : Nat → Int) : Store ρ := fun id => RouteConfig.new (ifindexes id)

variable [LawfulIPRouteClass ρ]

theorem perform_valid {store : Store ρ} {call : Call ρ} (valid : AllValid store)
    (keeps : call.Keeps store) : AllValid (perform store call) := by
  cases call with
  | addRoute self new =>
    refine valid.update ?_
    unfold ipConfigAddRoute
    split
    · exact (valid self).addRoute keeps
    · exact valid self
  | merge dst src flags penalty => exact valid.update ((valid dst).addRoutes keeps)
  | subtract dst src penalty =>
    exact valid.update ((valid dst).subtractRoutes (store src) penalty)
  | intersect dst src routes penalty =>
    refine valid.update ?_
    split
    · exact (valid dst).intersectRoutes (store src) penalty
    · exact valid dst
  | replace dst src => exact valid.update ((valid dst).replaceRoutes (valid src))
  | nmpobjRemove self needle => exact valid.update ((valid self).nmpobjRemove needle)
  | resetRoutes self => exact valid.update (valid self).resetRoutes

theorem run_valid (ifindexes : Nat → Int) {calls : List (Call ρ)}
    (lawful : (machine ρ).Lawful (start ifindexes) calls) :
    AllValid ((machine ρ).run (start ifindexes) calls) := by
  have start_valid : AllValid (start ifindexes : Store ρ) :=
    fun id => RouteConfig.Valid.new (ifindexes id)
  exact (machine ρ).run_preserves (fun _ _ valid guarded => perform_valid valid guarded.2)
    start_valid lawful

end Runs

/-- In every state of every run in which no call replaces a best default route by a route that is
worse than another one, every configuration of either family remembers its best default route. -/
theorem run_tracksBest (ifindexes : Nat → Int) :
    (∀ calls, (machine NMPlatformIP4Route).Lawful (start ifindexes) calls →
      ∀ id, TracksBest ((machine NMPlatformIP4Route).run (start ifindexes) calls id)) ∧
    ∀ calls, (machine NMPlatformIP6Route).Lawful (start ifindexes) calls →
      ∀ id, TracksBest ((machine NMPlatformIP6Route).run (start ifindexes) calls id) :=
  ⟨fun _ lawful id => (run_valid ifindexes lawful id).tracksBest,
    fun _ lawful id => (run_valid ifindexes lawful id).tracksBest⟩

/-- A default route of the main table, with a source and a segment size. -/
def exampleRoute (rtSource : Nat) (mss : UInt32) : NMPlatformIP4Route where
  ifindex := 1
  rtSource := rtSource
  plen := 0
  lockWindow := false
  lockCwnd := false
  lockInitcwnd := false
  lockInitrwnd := false
  lockMtu := false
  rRtmFlags := 0
  mss := mss
  window := 0
  cwnd := 0
  initcwnd := 0
  initrwnd := 0
  mtu := 0
  metric := 100
  tableCoerced := 0
  network := 0
  gateway := 0x0101A8C0
  prefSrc := 0
  tos := 0
  scopeInv := 0

theorem run_tracksBest_remove :
    TracksBest ((machine NMPlatformIP4Route).run (start fun _ => 1)
      [.addRoute 0 (exampleRoute 262 0), .addRoute 0 (exampleRoute 263 1),
        .nmpobjRemove 0 (exampleRoute 262 0)] 0) ∧
    TracksBest ((machine NMPlatformIP6Route).run (start fun _ => 1) [.resetRoutes 0] 0) := by
  have first_keeps : AddKeeps (start (fun _ => 1) 0) (exampleRoute 262 0) := by
    intro entry found
    cases found
  have second_keeps : AddKeeps (addRoute (start (fun _ => 1) 0) (exampleRoute 262 0))
      (exampleRoute 263 1) := by
    intro entry found
    have absent : lookupObj (addRoute (start (fun _ => 1) 0) (exampleRoute 262 0)).routes
        (NMPClass.setIfindex (exampleRoute 263 1) 1) = none := by decide
    exact absurd (absent.symm.trans found) (by simp)
  have lawful : (machine NMPlatformIP4Route).Lawful (start fun _ => 1)
      [.addRoute 0 (exampleRoute 262 0), .addRoute 0 (exampleRoute 263 1),
        .nmpobjRemove 0 (exampleRoute 262 0)] :=
    ⟨⟨trivial, first_keeps⟩, ⟨trivial, second_keeps⟩, ⟨trivial, trivial⟩, trivial⟩
  exact ⟨(run_tracksBest fun _ => 1).1 _ lawful 0,
    (run_tracksBest fun _ => 1).2 [.resetRoutes 0] ⟨⟨trivial, trivial⟩, trivial⟩ 0⟩

/-- A route from a WWAN connection is the best one, a route from a VPN is the second one, and the
first one is overwritten by a route of the user, which is worse than the second one. -/
theorem run_tracksBest_fails :
    let store := (machine NMPlatformIP4Route).run (start fun _ => 1)
      [.addRoute 0 (exampleRoute 262 0), .addRoute 0 (exampleRoute 263 1),
        .addRoute 0 (exampleRoute 266 0)]
    (store 0).bestDefaultRoute = some (exampleRoute 266 0) ∧
      bestDefaultRouteFind (store 0).routes = some (exampleRoute 263 1) := by
  decide

end NetworkManager.IPConfig
