import NetworkManager.IpConfig.Config

/-!
# What every IPv4 configuration keeps

Addresses and routes have distinct identities and the interface index of the configuration, routes
have no host bits, lists have no duplicates and nothing that their functions refuse.  A
configuration carries this with it.
-/

namespace NetworkManager.IPConfig

open List

/-- What holds for the record of every configuration. -/
structure NMIP4ConfigPrivate.Valid (config : NMIP4ConfigPrivate) : Prop where
  routes : config.routeConfig.WellFormed
  routes_valid : ∀ route ∈ objs config.routeConfig.routes, routeValid route = true
  addresses : Distinct (objs config.addresses)
  addresses_ifindex : ∀ address ∈ objs config.addresses, NMPClass.ifindex address = config.ifindex
  nameservers : UniqueList.Valid nonzeroServer config.nameservers
  domains : UniqueList.Valid checkDomain config.domains
  searches : UniqueList.Valid checkDomain config.searches
  dnsOptions : UniqueList.Valid nonemptyOption config.dnsOptions
  nis : UniqueList.Valid some config.nis
  wins : UniqueList.Valid nonzeroServer config.wins
  mtu : config.mtu = 0 → config.mtuSource = sourceUnknown

/-- `NMIP4Config`. -/
structure NMIP4Config extends NMIP4ConfigPrivate where
  valid : toNMIP4ConfigPrivate.Valid

variable {config dst src : NMIP4ConfigPrivate}

theorem NMIP4ConfigPrivate.Valid.new (ifindex : Int) : (ip4ConfigNew ifindex).Valid where
  routes := RouteConfig.WellFormed.new ifindex
  routes_valid := by
    intro route mem
    cases mem
  addresses := List.Pairwise.nil
  addresses_ifindex := by
    intro address mem
    cases mem
  nameservers := UniqueList.Valid.nil
  domains := UniqueList.Valid.nil
  searches := UniqueList.Valid.nil
  dnsOptions := UniqueList.Valid.nil
  nis := UniqueList.Valid.nil
  wins := UniqueList.Valid.nil
  mtu := fun _ => rfl

theorem NMIP4ConfigPrivate.Valid.addAddress (valid : config.Valid) (new : NMPlatformIP4Address) :
    (addAddress config new).Valid :=
  { valid with
    addresses := addObjTo_distinct valid.addresses _ _
    addresses_ifindex := addObjTo_ifindex valid.addresses_ifindex rfl _ }

theorem NMIP4ConfigPrivate.Valid.addAddresses (valid : config.Valid)
    (news : List NMPlatformIP4Address) : (news.foldl IPConfig.addAddress config).Valid := by
  induction news generalizing config with
  | nil => exact valid
  | cons new news ih => exact ih (valid.addAddress new)

variable {new : NMPlatformIP4Route}

theorem routeValid_mergeOld (new_valid : routeValid new = true) (old : NMPlatformIP4Route) :
    routeValid (NMPClass.mergeOld new old) = true := by
  dsimp only [NMPClass.mergeOld]
  rcases mergeRoute_eq new.toNMPlatformIPRoute old.toNMPlatformIPRoute with merged | merged
  · rw [merged]
    exact new_valid
  · rw [merged]
    exact new_valid

theorem routeValid_addRoute {routeConfig : RouteConfig NMPlatformIP4Route}
    (routes_valid : ∀ route ∈ objs routeConfig.routes, routeValid route = true)
    (new_valid : routeValid new = true) :
    ∀ route ∈ objs (addRoute routeConfig new).routes, routeValid route = true := by
  rw [(addRoute_routes routeConfig new).1]
  have set_valid : routeValid (NMPClass.setIfindex new routeConfig.ifindex) = true := new_valid
  exact addObjTo_forall routes_valid set_valid (fun old _ => routeValid_mergeOld set_valid old) true

theorem NMIP4ConfigPrivate.Valid.addRoute (valid : config.Valid) (new_valid : routeValid new = true) :
    ({ config with routeConfig := addRoute config.routeConfig new } : NMIP4ConfigPrivate).Valid :=
  { valid with
    routes := valid.routes.addRoute new
    routes_valid := routeValid_addRoute valid.routes_valid new_valid
    addresses_ifindex := by
      intro address mem
      rw [valid.addresses_ifindex address mem]
      exact (addRoute_routes config.routeConfig new).2.symm }

theorem NMIP4ConfigPrivate.Valid.addRoutes (valid : config.Valid) {news : List NMPlatformIP4Route}
    (news_valid : ∀ new ∈ news, routeValid new = true) :
    ({ config with routeConfig := news.foldl IPConfig.addRoute config.routeConfig } :
      NMIP4ConfigPrivate).Valid := by
  induction news generalizing config with
  | nil => exact valid
  | cons new news ih =>
    obtain ⟨new_valid, news_valid⟩ := forall_mem_cons.mp news_valid
    exact ih (valid.addRoute new_valid) news_valid

theorem routeValid_penalized {route : NMPlatformIP4Route} (valid : routeValid route = true)
    (penalty : UInt32) : routeValid (penalized penalty route) = true := by
  rcases penalized_cases penalty route with unchanged | ⟨metric, changed⟩
  · rw [unchanged]
    exact valid
  · rw [changed]
    exact valid

theorem routesToMerge_valid (valid : src.Valid) (flags : NMIPConfigMergeFlags) (penalty : UInt32) :
    ∀ route ∈ routesToMerge src.routeConfig flags penalty, routeValid route = true := by
  intro route mem
  unfold routesToMerge at mem
  split at mem
  · cases mem
  · obtain ⟨other, other_mem, rfl⟩ := mem_map.mp mem
    exact routeValid_penalized (valid.routes_valid other (mem_filter.mp other_mem).1) penalty

theorem NMIP4ConfigPrivate.Valid.filterRoutes (valid : config.Valid)
    (routeConfig : RouteConfig NMPlatformIP4Route) {test : NMPlatformIP4Route → Bool}
    (ifindex_eq : routeConfig.ifindex = config.routeConfig.ifindex)
    (routes_eq : objs routeConfig.routes = (objs config.routeConfig.routes).filter test) :
    ({ config with routeConfig := routeConfig } : NMIP4ConfigPrivate).Valid := by
  have formed : (⟨config.routeConfig.ifindex, routeConfig.routes, routeConfig.bestDefaultRoute⟩ :
      RouteConfig NMPlatformIP4Route).WellFormed := valid.routes.filter test routes_eq
  rw [← ifindex_eq] at formed
  exact
    { valid with
      routes := formed
      routes_valid := by
        intro route mem
        rw [routes_eq] at mem
        exact valid.routes_valid route (mem_filter.mp mem).1
      addresses_ifindex := by
        intro address mem
        rw [valid.addresses_ifindex address mem]
        exact ifindex_eq.symm }

theorem NMIP4ConfigPrivate.Valid.filterAddresses (valid : config.Valid)
    {addresses : List (Entry NMPlatformIP4Address)} {test : NMPlatformIP4Address → Bool}
    (addresses_eq : objs addresses = (objs config.addresses).filter test) :
    ({ config with addresses := addresses } : NMIP4ConfigPrivate).Valid :=
  { valid with
    addresses := by
      rw [addresses_eq]
      exact valid.addresses.filter test
    addresses_ifindex := by
      intro address mem
      dsimp only at mem
      rw [addresses_eq] at mem
      exact valid.addresses_ifindex address (mem_filter.mp mem).1 }

theorem NMIP4ConfigPrivate.Valid.setMtu (valid : config.Valid) (mtu : UInt32) (source : Nat) :
    (setMtu config mtu source).Valid :=
  { valid with
    mtu := by
      intro zero
      exact if_pos zero }

section

variable (valid : dst.Valid)

include valid

theorem NMIP4ConfigPrivate.Valid.mergeMtu (src : NMIP4ConfigPrivate) :
    (mergeMtu dst src).Valid := by
  unfold IPConfig.mergeMtu
  split
  · exact valid.setMtu _ _
  · exact valid

theorem NMIP4ConfigPrivate.Valid.subtractMtu (src : NMIP4ConfigPrivate) :
    (subtractMtu dst src).Valid := by
  unfold IPConfig.subtractMtu
  split
  · exact valid.setMtu _ _
  · exact valid

theorem NMIP4ConfigPrivate.Valid.mergeDns (src : NMIP4ConfigPrivate) :
    (mergeDns dst src).Valid :=
  { valid with
    nameservers := valid.nameservers.foldl_add nonzeroServer_stable src.nameservers
    domains := valid.domains.foldl_add checkDomain_stable src.domains
    searches := valid.searches.foldl_add checkDomain_stable src.searches
    dnsOptions := valid.dnsOptions.foldl_add nonemptyOption_stable src.dnsOptions
    nis := valid.nis.foldl_add some_stable src.nis
    wins := valid.wins.foldl_add nonzeroServer_stable src.wins }

theorem NMIP4ConfigPrivate.Valid.merge (src_valid : src.Valid) (flags : NMIPConfigMergeFlags)
    (penalty : UInt32) :
    (ip4ConfigMerge dst src flags penalty).Valid := by
  have with_addresses :=
    valid.addAddresses ((objs src.addresses).map (addressToMerge flags))
  have with_routes := with_addresses.addRoutes (routesToMerge_valid src_valid flags penalty)
  unfold ip4ConfigMerge
  dsimp only
  split
  · exact { with_routes.mergeMtu src with }
  · exact { (with_routes.mergeDns src).mergeMtu src with }

omit valid in
theorem subtractRoutes_eq {ρ : Type} [NMPlatformIPRouteClass ρ] [DecidableEq ρ]
    (dst src : RouteConfig ρ) (penalty : UInt32) :
    (subtractRoutes dst src penalty).ifindex = dst.ifindex ∧
      objs (subtractRoutes dst src penalty).routes =
        (objs dst.routes).filter (outside ((objs src.routes).map (penalized penalty))) := by
  have folded : ∀ (lookups : List ρ) (state : RouteConfig ρ × Bool),
      (lookups.foldl subtractRoute state).1.ifindex = state.1.ifindex ∧
        (lookups.foldl subtractRoute state).1.routes =
          lookups.foldl (fun entries needle => (removeObj entries needle).1) state.1.routes := by
    intro lookups
    induction lookups with
    | nil => exact fun _ => ⟨rfl, rfl⟩
    | cons lookup lookups ih =>
      intro state
      have step : (subtractRoute state lookup).1.ifindex = state.1.ifindex ∧
          (subtractRoute state lookup).1.routes = (removeObj state.1.routes lookup).1 := by
        unfold subtractRoute
        dsimp only
        split <;> exact ⟨rfl, rfl⟩
      rw [foldl_cons, (ih _).1, (ih _).2, step.1, step.2]
      exact ⟨rfl, rfl⟩
  obtain ⟨ifindex_eq, routes_eq⟩ := folded ((objs src.routes).map (penalized penalty)) (dst, false)
  have routes_objs := congrArg objs routes_eq
  rw [objs_foldl_removeObj] at routes_objs
  unfold subtractRoutes
  dsimp only
  split
  · exact ⟨ifindex_eq, routes_objs⟩
  · exact ⟨ifindex_eq, routes_objs⟩

theorem NMIP4ConfigPrivate.Valid.subtract (src : NMIP4ConfigPrivate) (penalty : UInt32) :
    (ip4ConfigSubtract dst src penalty).Valid := by
  have with_mtu := valid.subtractMtu src
  unfold ip4ConfigSubtract
  generalize IPConfig.subtractMtu dst src = dst at with_mtu
  have with_addresses := with_mtu.filterAddresses
    (objs_foldl_removeObj (objs src.addresses) dst.addresses)
  obtain ⟨ifindex_eq, routes_eq⟩ := subtractRoutes_eq dst.routeConfig src.routeConfig penalty
  have with_routes := with_addresses.filterRoutes _ ifindex_eq routes_eq
  exact
    { with_routes with
      nameservers := with_mtu.nameservers.foldl_remove src.nameservers
      domains := with_mtu.domains.foldl_remove src.domains
      searches := with_mtu.searches.foldl_remove src.searches
      dnsOptions := with_mtu.dnsOptions.foldl_remove src.dnsOptions
      nis := with_mtu.nis.foldl_remove src.nis
      wins := with_mtu.wins.foldl_remove src.wins }

theorem NMIP4ConfigPrivate.Valid.intersect (src : NMIP4ConfigPrivate) (addresses routes : Bool)
    (penalty : UInt32) :
    (ip4ConfigIntersect dst src addresses routes penalty).Valid := by
  have addresses_eq := objs_filter dst.addresses fun address =>
    (lookupObj src.addresses address).isSome
  have routes_eq := objs_filter dst.routeConfig.routes fun route =>
    (lookupObj src.routeConfig.routes (penalized penalty route)).isSome
  unfold ip4ConfigIntersect
  cases addresses with
  | false =>
    cases routes with
    | false => exact valid
    | true =>
      exact valid.filterRoutes (intersectRoutes dst.routeConfig src.routeConfig penalty)
        rfl routes_eq
  | true =>
    cases routes with
    | false => exact valid.filterAddresses addresses_eq
    | true =>
      exact (valid.filterAddresses addresses_eq).filterRoutes
        (intersectRoutes dst.routeConfig src.routeConfig penalty) rfl routes_eq

end

end NetworkManager.IPConfig
