import NetworkManager.Platform.RouteCoherence
import NetworkManager.Platform.RouteSync

/-!
# What synchronising routes achieves

On a platform that does what it is asked for, every route of the first list is there afterwards with
the meaning of its first occurrence, and the routes of the second list that have no counterpart in
the first one are gone.
-/

namespace NetworkManager.RouteSync

open List Ordering

variable {version : IpVersion} {σ : Type*}

theorem sameRoute_refl (a : version.Route) : sameRoute a a = true := by
  unfold sameRoute
  cases version with
  | v4 => exact isEq_iff_eq_eq.mpr (ip4RouteCmp_id.mpr rfl)
  | v6 => exact isEq_iff_eq_eq.mpr (ip6RouteCmp_id.mpr ⟨rfl, rfl, rfl⟩)

theorem sameRoute_symm {a b : version.Route} (same : sameRoute a b = true) :
    sameRoute b a = true := by
  unfold sameRoute at same ⊢
  rw [isEq_iff_eq_eq] at same ⊢
  cases version with
  | v4 => exact ip4RouteCmp_id.mpr (ip4RouteCmp_id.mp same).symm
  | v6 =>
    obtain ⟨weak, ifindex, gateway⟩ := ip6RouteCmp_id.mp same
    exact ip6RouteCmp_id.mpr ⟨weak.symm, ifindex.symm, gateway.symm⟩

theorem sameRoute_trans {a b c : version.Route} (first : sameRoute a b = true)
    (second : sameRoute b c = true) : sameRoute a c = true := by
  unfold sameRoute at first second ⊢
  rw [isEq_iff_eq_eq] at first second ⊢
  cases version with
  | v4 => exact ip4RouteCmp_id.mpr ((ip4RouteCmp_id.mp first).trans (ip4RouteCmp_id.mp second))
  | v6 =>
    obtain ⟨weak, ifindex, gateway⟩ := ip6RouteCmp_id.mp first
    obtain ⟨weak', ifindex', gateway'⟩ := ip6RouteCmp_id.mp second
    exact ip6RouteCmp_id.mpr ⟨weak.trans weak', ifindex.trans ifindex', gateway.trans gateway'⟩

/-- The gateway is part of the identity, so both runs over the routes see whole identities. -/
theorem isDeviceRoute_congr {a b : version.Route} (same : sameRoute a b = true) :
    isDeviceRoute a = isDeviceRoute b := by
  unfold sameRoute at same
  rw [isEq_iff_eq_eq] at same
  cases version with
  | v4 =>
    have gateway : a.gateway = b.gateway :=
      congrArg Ip4RouteKey.gateway (ip4RouteCmp_id.mp same)
    show decide (a.gateway = 0) = decide (b.gateway = 0)
    rw [gateway]
  | v6 =>
    obtain ⟨-, -, gateway⟩ := ip6RouteCmp_id.mp same
    show decide (a.gateway = 0) = decide (b.gateway = 0)
    rw [gateway]

theorem sameRoute_congr {a b : version.Route} (same : sameRoute a b = true) :
    sameRoute a = sameRoute b := by
  funext route
  rw [Bool.eq_iff_iff]
  exact ⟨sameRoute_trans (sameRoute_symm same), sameRoute_trans same⟩

/-- Adding and deleting routes succeeds, and it affects no routes of other identities. -/
structure RoutePlatform.Succeeds (platform : RoutePlatform version σ) : Prop where
  lookup_same : ∀ {state route found}, platform.lookupEntry state route = some found →
    sameRoute route found = true
  /-- Routes are found by nothing but their identity. -/
  lookup_congr : ∀ {state a b}, sameRoute a b = true →
    platform.lookupEntry state a = platform.lookupEntry state b
  /-- A route that does not exist can be added. -/
  add_success : ∀ {state route}, platform.lookupEntry state route = none →
    0 ≤ (platform.ipRouteAdd state route).2
  add_self : ∀ {state route}, platform.lookupEntry state route = none →
    ∃ found, platform.lookupEntry (platform.ipRouteAdd state route).1 route = some found ∧
      routeCmp route found .semantically = .eq
  /-- Adding a route leaves the others alone. -/
  add_other : ∀ {state route other}, platform.lookupEntry state route = none →
    sameRoute route other = false →
    platform.lookupEntry (platform.ipRouteAdd state route).1 other =
      platform.lookupEntry state other
  delete_self : ∀ {state route},
    platform.lookupEntry (platform.objectDelete state route) route = none
  delete_other : ∀ {state route other}, sameRoute route other = false →
    platform.lookupEntry (platform.objectDelete state route) other =
      platform.lookupEntry state other

/-- The platform has a route of this identity and meaning. -/
def Configured (platform : RoutePlatform version σ) (state : σ) (conf : version.Route) : Prop :=
  ∃ plat, platform.lookupEntry state conf = some plat ∧ sameRoute conf plat = true ∧
    routeCmp conf plat .semantically = .eq

section Sync

variable {platform : RoutePlatform version σ} {wantTemporary : Bool} {sync : SyncState version σ}
  {conf : version.Route}

theorem syncRouteAdd_of_success (succeeds : platform.Succeeds) {state : σ}
    (absent : platform.lookupEntry state conf = none)
    (retry : Option (SyncState version σ → SyncState version σ))
    (routesIdx temporaryNotAvailable : List version.Route) (success : Bool) :
    syncRouteAdd platform wantTemporary conf retry
        ⟨state, routesIdx, temporaryNotAvailable, success⟩ =
      ⟨(platform.ipRouteAdd state conf).1, routesIdx, temporaryNotAvailable, success⟩ := by
  unfold syncRouteAdd
  exact if_pos (succeeds.add_success absent)

variable (wantTemporary) in
theorem syncRoute_of_new (succeeds : platform.Succeeds)
    (new : sync.routesIdx.any (sameRoute conf) = false) :
    (syncRoute platform wantTemporary sync conf).routesIdx = sync.routesIdx ++ [conf] ∧
    Configured platform (syncRoute platform wantTemporary sync conf).platform conf ∧
    ∀ other, sameRoute conf other = false →
      platform.lookupEntry (syncRoute platform wantTemporary sync conf).platform other =
        platform.lookupEntry sync.platform other := by
  -- Adding the route in a state where it is absent.
  have added : ∀ state, platform.lookupEntry state conf = none →
      Configured platform (platform.ipRouteAdd state conf).1 conf := by
    intro state absent
    obtain ⟨found, there, meaning⟩ := succeeds.add_self absent
    exact ⟨found, there, succeeds.lookup_same there, meaning⟩
  unfold syncRoute
  rw [if_neg (Bool.eq_false_iff.mp new)]
  dsimp only
  cases entry : platform.lookupEntry sync.platform conf with
  | none =>
    dsimp only
    rw [syncRouteAdd_of_success succeeds entry]
    exact ⟨rfl, added _ entry, fun other different => succeeds.add_other entry different⟩
  | some plat =>
    have same := succeeds.lookup_same entry
    dsimp only
    by_cases meaning : routeCmp conf plat .semantically = .eq
    · rw [if_pos meaning]
      exact ⟨rfl, ⟨plat, entry, same, meaning⟩, fun _ _ => rfl⟩
    · rw [if_neg meaning]
      have absent : platform.lookupEntry (platform.objectDelete sync.platform plat) conf =
          none := by
        rw [succeeds.lookup_congr same]
        exact succeeds.delete_self
      rw [syncRouteAdd_of_success succeeds absent]
      refine ⟨rfl, added _ absent, fun other different => ?_⟩
      rw [succeeds.add_other absent different]
      refine succeeds.delete_other (Bool.eq_false_iff.mpr fun plat_same => ?_)
      rw [sameRoute_trans same plat_same] at different
      cases different

theorem syncRoute_of_seen (seen : sync.routesIdx.any (sameRoute conf) = true) :
    syncRoute platform wantTemporary sync conf = sync := by
  unfold syncRoute
  exact if_pos seen

/-- The routes that were handled are configured. -/
def Settled (platform : RoutePlatform version σ) (sync : SyncState version σ) : Prop :=
  ∀ conf ∈ sync.routesIdx, Configured platform sync.platform conf

theorem Configured.of_lookup {state state' : σ} (configured : Configured platform state conf)
    (same : platform.lookupEntry state' conf = platform.lookupEntry state conf) :
    Configured platform state' conf := by
  obtain ⟨plat, there, identity, meaning⟩ := configured
  exact ⟨plat, same.trans there, identity, meaning⟩

section

variable (succeeds : platform.Succeeds)

include succeeds

theorem Settled.step (settled : Settled platform sync) (conf : version.Route) :
    Settled platform (syncRoute platform wantTemporary sync conf) := by
  by_cases seen : sync.routesIdx.any (sameRoute conf) = true
  · rw [syncRoute_of_seen seen]
    exact settled
  · have new := Bool.eq_false_iff.mpr seen
    obtain ⟨handled, configured, others⟩ := syncRoute_of_new wantTemporary succeeds new
    intro route mem
    rw [handled] at mem
    rcases mem_append.mp mem with mem | mem
    · refine (settled route mem).of_lookup (others route ?_)
      exact Bool.eq_false_iff.mpr (any_eq_false.mp new route mem)
    · rwa [mem_singleton.mp mem]

theorem Settled.run (settled : Settled platform sync) (routes : List version.Route) :
    Settled platform (routes.foldl (syncRoute platform wantTemporary) sync) := by
  induction routes generalizing sync with
  | nil => exact settled
  | cons conf routes ih => exact ih (settled.step succeeds conf)

theorem syncRoute_routesIdx (conf : version.Route) :
    (syncRoute platform wantTemporary sync conf).routesIdx =
      if sync.routesIdx.any (sameRoute conf) then sync.routesIdx else sync.routesIdx ++ [conf] := by
  by_cases seen : sync.routesIdx.any (sameRoute conf) = true
  · rw [if_pos seen, syncRoute_of_seen seen]
  · rw [if_neg seen]
    exact (syncRoute_of_new wantTemporary succeeds (Bool.eq_false_iff.mpr seen)).1

theorem mem_run_of_mem (routes : List version.Route) (mem : conf ∈ sync.routesIdx) :
    conf ∈ (routes.foldl (syncRoute platform wantTemporary) sync).routesIdx := by
  induction routes generalizing sync with
  | nil => exact mem
  | cons route routes ih =>
    refine ih ?_
    rw [syncRoute_routesIdx succeeds]
    split
    · exact mem
    · exact mem_append_left _ mem

end

variable {routes : List version.Route}

section

variable (succeeds : platform.Succeeds)

include succeeds

theorem of_mem_run (mem : conf ∈ (routes.foldl (syncRoute platform wantTemporary) sync).routesIdx) :
    conf ∈ sync.routesIdx ∨ conf ∈ routes := by
  induction routes generalizing sync with
  | nil => exact .inl mem
  | cons route routes ih =>
    rcases ih mem with before | later
    · rw [syncRoute_routesIdx succeeds] at before
      split at before
      · exact .inl before
      · rcases mem_append.mp before with before | before
        · exact .inl before
        · rw [mem_singleton.mp before]
          exact .inr mem_cons_self
    · exact .inr (mem_cons_of_mem route later)

theorem mem_run_of_first {before after : List version.Route}
    (unseen : ∀ route ∈ sync.routesIdx, sameRoute conf route = false)
    (first : ∀ route ∈ before, sameRoute conf route = false) :
    conf ∈ ((before ++ conf :: after).foldl (syncRoute platform wantTemporary) sync).routesIdx := by
  rw [foldl_append, foldl_cons]
  refine mem_run_of_mem succeeds after ?_
  rw [syncRoute_routesIdx succeeds, if_neg]
  · exact mem_append_right _ (mem_singleton.mpr rfl)
  · rw [any_eq_true]
    rintro ⟨route, mem, same⟩
    rcases of_mem_run succeeds mem with mem | mem
    · rw [unseen route mem] at same
      cases same
    · rw [first route mem] at same
      cases same

/-- Both runs together handle the first occurrence of each identity. -/
theorem mem_syncRoutes_of_first {before after : List version.Route}
    (first : ∀ route ∈ before, sameRoute conf route = false) (unseen : sync.routesIdx = []) :
    conf ∈ (syncRoutes platform wantTemporary (before ++ conf :: after) sync).routesIdx := by
  have first_among : ∀ p : version.Route → Bool, ∀ route ∈ before.filter p,
      sameRoute conf route = false :=
    fun p route mem => first route (mem_filter.mp mem).1
  unfold syncRoutes
  rw [filter_append, filter_append]
  by_cases device : isDeviceRoute conf = true
  · refine mem_run_of_mem succeeds _ ?_
    rw [filter_cons_of_pos device]
    refine mem_run_of_first succeeds ?_ (first_among _)
    rw [unseen]
    exact forall_mem_nil _
  · have gateway : (!isDeviceRoute conf) = true := by
      rw [Bool.not_eq_true', Bool.eq_false_iff]
      exact device
    have kept : (conf :: after).filter (fun conf => !isDeviceRoute conf) =
        conf :: after.filter fun conf => !isDeviceRoute conf := by
      rw [filter_cons, if_pos gateway]
    rw [kept]
    refine mem_run_of_first succeeds ?_ (first_among _)
    intro route mem
    rcases of_mem_run succeeds mem with mem | mem
    · rw [unseen] at mem
      cases mem
    · rw [← filter_append] at mem
      refine Bool.eq_false_iff.mpr fun same => device ?_
      rw [isDeviceRoute_congr same]
      exact (mem_filter.mp mem).2

theorem of_mem_syncRoutes (unseen : sync.routesIdx = [])
    (mem : conf ∈ (syncRoutes platform wantTemporary routes sync).routesIdx) : conf ∈ routes := by
  rcases of_mem_run succeeds mem with mem | mem
  · rcases of_mem_run succeeds mem with mem | mem
    · rw [unseen] at mem
      cases mem
    · exact (mem_filter.mp mem).1
  · exact (mem_filter.mp mem).1

end

theorem exists_first {route : version.Route} (there : routes.any (sameRoute route) = true) :
    ∃ before conf after, routes = before ++ conf :: after ∧ sameRoute route conf = true ∧
      ∀ other ∈ before, sameRoute conf other = false := by
  obtain ⟨conf, found⟩ := Option.isSome_iff_exists.mp (find?_isSome.mpr (any_eq_true.mp there))
  obtain ⟨same, before, after, rfl, others⟩ := find?_eq_some_iff_append.mp found
  refine ⟨before, conf, after, rfl, same, fun other mem => Bool.eq_false_iff.mpr fun conf_same => ?_⟩
  have different := others other mem
  rw [sameRoute_trans same conf_same] at different
  cases different

theorem any_routesIdx (succeeds : platform.Succeeds) (routes : List version.Route)
    (unseen : sync.routesIdx = []) (route : version.Route) :
    (syncRoutes platform wantTemporary routes sync).routesIdx.any (sameRoute route) =
      routes.any (sameRoute route) := by
  rw [Bool.eq_iff_iff]
  constructor
  · rw [any_eq_true, any_eq_true]
    rintro ⟨conf, mem, same⟩
    exact ⟨conf, of_mem_syncRoutes succeeds unseen mem, same⟩
  · intro there
    obtain ⟨before, conf, after, rfl, same, first⟩ := exists_first there
    exact any_eq_true.mpr ⟨conf, mem_syncRoutes_of_first succeeds first unseen, same⟩

end Sync

section Prune

variable {platform : RoutePlatform version σ} {routesIdx : List version.Route} {state : σ}

theorem lookup_pruneRoute (succeeds : platform.Succeeds) (prune route : version.Route) :
    platform.lookupEntry (pruneRoute platform routesIdx state prune) route =
      if routesIdx.any (sameRoute prune) = false ∧ sameRoute prune route = true then none
      else platform.lookupEntry state route := by
  unfold pruneRoute
  by_cases kept : routesIdx.any (sameRoute prune) = true
  · rw [if_pos kept, if_neg fun both => absurd both.1 (by rw [kept]; decide)]
  · have not_kept := Bool.eq_false_iff.mpr kept
    rw [if_neg kept]
    have after_delete : platform.lookupEntry (if (platform.lookupEntry state prune).isNone then state
        else platform.objectDelete state prune) prune = none := by
      split
      · rename_i absent
        exact Option.isNone_iff_eq_none.mp absent
      · exact succeeds.delete_self
    by_cases same : sameRoute prune route = true
    · rw [if_pos (show _ ∧ _ from ⟨not_kept, same⟩), ← succeeds.lookup_congr same, after_delete]
    · rw [if_neg (show ¬ (_ ∧ _) from fun both => same both.2)]
      split
      · rfl
      · exact succeeds.delete_other (Bool.eq_false_iff.mpr same)

theorem lookup_prune (succeeds : platform.Succeeds) (routesPrune : List version.Route)
    (route : version.Route) :
    platform.lookupEntry (routesPrune.foldl (pruneRoute platform routesIdx) state) route =
      if ∃ prune ∈ routesPrune, routesIdx.any (sameRoute prune) = false ∧
          sameRoute prune route = true then none
      else platform.lookupEntry state route := by
  induction routesPrune generalizing state with
  | nil =>
    rw [if_neg]
    · rfl
    · rintro ⟨prune, mem, -⟩
      cases mem
  | cons first routesPrune ih =>
    rw [foldl_cons, ih, lookup_pruneRoute succeeds]
    simp only [exists_mem_cons_iff]
    by_cases pruned : routesIdx.any (sameRoute first) = false ∧ sameRoute first route = true
    · rw [if_pos pruned, ite_self, if_pos (.inl pruned)]
    · rw [if_neg pruned]
      simp only [pruned, false_or]

end Prune

/-- On a platform that does what it is asked for, each identity of the routes has the meaning of its
first occurrence, pruning does not touch these identities, and pruned routes of other identities are
gone. -/
theorem ipRouteSync_achieves (platform : RoutePlatform version σ) (succeeds : platform.Succeeds)
    (wantTemporary : Bool) (routes routesPrune : List version.Route) (state : σ) :
    let added := syncRoutes platform wantTemporary routes ⟨state, [], [], true⟩
    let result := ipRouteSync platform wantTemporary routes routesPrune state
    (∀ before conf after, routes = before ++ conf :: after →
      (∀ route ∈ before, sameRoute conf route = false) → Configured platform result.platform conf) ∧
    (∀ route, routes.any (sameRoute route) = true →
      platform.lookupEntry result.platform route = platform.lookupEntry added.platform route) ∧
    (∀ prune ∈ routesPrune, routes.any (sameRoute prune) = false →
      platform.lookupEntry result.platform prune = none) := by
  intro added result
  have pruned : ∀ route, platform.lookupEntry result.platform route =
      if ∃ prune ∈ routesPrune, routes.any (sameRoute prune) = false ∧
          sameRoute prune route = true then none
      else platform.lookupEntry added.platform route := by
    intro route
    have handled : ∀ prune, added.routesIdx.any (sameRoute prune) = routes.any (sameRoute prune) :=
      any_routesIdx succeeds routes rfl
    simp only [← handled]
    exact lookup_prune succeeds routesPrune route
  have spared : ∀ route, routes.any (sameRoute route) = true →
      platform.lookupEntry result.platform route = platform.lookupEntry added.platform route := by
    intro route there
    rw [pruned, if_neg]
    rintro ⟨prune, -, absent, same⟩
    rw [sameRoute_congr same, there] at absent
    cases absent
  refine ⟨?_, spared, ?_⟩
  · rintro before conf after rfl first
    have settled : Settled platform added :=
      ((show Settled platform ⟨state, [], [], true⟩ from forall_mem_nil _).run succeeds _).run
        succeeds _
    refine (settled conf (mem_syncRoutes_of_first succeeds first rfl)).of_lookup (spared conf ?_)
    exact any_eq_true.mpr ⟨conf, mem_append_right _ mem_cons_self, sameRoute_refl conf⟩
  · intro prune mem absent
    rw [pruned, if_pos ⟨prune, mem, absent, sameRoute_refl prune⟩]

def tablePlatform (version : IpVersion) : RoutePlatform version (List version.Route) where
  lookupEntry table route := table.find? (sameRoute route)
  objectDelete table route := table.filter fun other => !sameRoute route other
  ipRouteAdd table route := (table ++ [route], 0)
  ip6AddressGet _ _ _ := none

theorem routeCmp_self (route : version.Route) : routeCmp route route .semantically = .eq := by
  cases version with
  | v4 => exact (RouteCoherence.ip4RouteCmp_lawful .semantically).refl route (Set.mem_univ route)
  | v6 => exact (RouteCoherence.ip6RouteCmp_lawful .semantically).refl route (Set.mem_univ route)

theorem tablePlatform_succeeds (version : IpVersion) : (tablePlatform version).Succeeds where
  lookup_same := find?_some
  lookup_congr := by
    intro table a b same
    show table.find? (sameRoute a) = table.find? (sameRoute b)
    rw [sameRoute_congr same]
  add_success _ := le_rfl
  add_self := by
    intro table route absent
    refine ⟨route, ?_, routeCmp_self route⟩
    show (table ++ [route]).find? (sameRoute route) = some route
    rw [find?_append, show table.find? (sameRoute route) = none from absent,
      find?_singleton, if_pos (sameRoute_refl route)]
    rfl
  add_other := by
    intro table route other absent different
    show (table ++ [route]).find? (sameRoute other) = table.find? (sameRoute other)
    rw [find?_append, find?_singleton, if_neg, Option.or_none]
    intro same
    rw [sameRoute_symm same] at different
    cases different
  delete_self := by
    intro table route
    refine find?_eq_none.mpr fun other mem same => ?_
    have kept := (mem_filter.mp mem).2
    rw [same] at kept
    cases kept
  delete_other := by
    intro table route other different
    show (table.filter fun other => !sameRoute route other).find? (sameRoute other) =
      table.find? (sameRoute other)
    have kept : (fun found => decide ((!sameRoute route found) = true ∧
        sameRoute other found = true)) = sameRoute other := by
      funext found
      rw [Bool.decide_and, Bool.decide_eq_true, Bool.decide_eq_true]
      by_cases same : sameRoute other found = true
      · have not_deleted : sameRoute route found = false :=
          Bool.eq_false_iff.mpr fun route_same => by
            rw [sameRoute_trans route_same (sameRoute_symm same)] at different
            cases different
        rw [not_deleted]
        rfl
      · rw [Bool.eq_false_iff.mpr same, Bool.and_false]
    rw [find?_filter, kept]

def networkRoute (network : InAddr) : IpVersion.v4.Route :=
  { plainRoute 1 ipConfigSourceUser 24 100 0 with
    network := network, gateway := 0, prefSrc := 0, tos := 0, scopeInv := 0 }

theorem ipRouteSync_achieves_replacement :
    Configured (tablePlatform .v4) (ipRouteSync (tablePlatform .v4) false
        [networkRoute 1, networkRoute 1] [networkRoute 1, networkRoute 2]
        [networkRoute 2]).platform (networkRoute 1) ∧
      (tablePlatform .v4).lookupEntry (ipRouteSync (tablePlatform .v4) false
        [networkRoute 1, networkRoute 1] [networkRoute 1, networkRoute 2]
        [networkRoute 2]).platform (networkRoute 2) = none := by
  obtain ⟨configured, -, pruned⟩ := ipRouteSync_achieves (tablePlatform .v4)
    (tablePlatform_succeeds .v4) false [networkRoute 1, networkRoute 1]
    [networkRoute 1, networkRoute 2] [networkRoute 2]
  refine ⟨configured [] (networkRoute 1) [networkRoute 1] rfl (forall_mem_nil _), ?_⟩
  exact pruned (networkRoute 2) (mem_cons_of_mem _ mem_cons_self) (by decide)

end NetworkManager.RouteSync
