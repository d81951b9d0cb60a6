import NetworkManager.IpConfig.BestRoute
import NetworkManager.IpConfig.Calls

/-!
# Subtracting what was merged

Merging a configuration may overwrite what is there, and subtracting it removes what has the same
identity.  Together they leave what was there before and has no identity of the other configuration.
-/

namespace NetworkManager.IPConfig

open List

section Objects

variable {α : Type} [NMPClass α] [LawfulNMPClass α]

/-- Objects that are added and removed again leave what is outside. -/
theorem filter_foldl_addObj {news : List α} {ifindex : Int}
    (uniform : ∀ obj ∈ news, NMPClass.ifindex obj = ifindex) (entries : List (Entry α)) :
    (objs (news.foldl (fun entries obj => (addObj entries ifindex obj true false).entries)
      entries)).filter (outside news) = (objs entries).filter (outside news) := by
  have kept : ∀ (more : List α) (entries : List (Entry α)), more ⊆ news →
      (objs (more.foldl (fun entries obj => (addObj entries ifindex obj true false).entries)
        entries)).filter (outside news) = (objs entries).filter (outside news) := by
    intro more
    induction more with
    | nil => exact fun _ _ => rfl
    | cons obj more ih =>
      intro entries subset
      obtain ⟨mem, subset⟩ := cons_subset.mp subset
      have unchanged : NMPClass.setIfindex obj ifindex = obj := by
        rw [← uniform obj mem, LawfulNMPClass.setIfindex_self]
      have inside : outside news obj = false := outside_false mem (idEqual_refl obj)
      rw [foldl_cons, ih _ subset, addObj, unchanged]
      exact filter_addObjTo inside entries true
  exact kept news entries (Subset.refl news)

end Objects

theorem foldl_addAddress (news : List NMPlatformIP4Address) (config : NMIP4ConfigPrivate) :
    news.foldl addAddress config =
      { config with
        addresses := news.foldl
          (fun entries address => (addObj entries config.ifindex address true false).entries)
          config.addresses } := by
  induction news generalizing config with
  | nil => rfl
  | cons new news ih =>
    rw [foldl_cons, ih]
    rfl

theorem foldl_addRoute {ρ : Type} [NMPlatformIPRouteClass ρ] [DecidableEq ρ] (news : List ρ)
    (config : RouteConfig ρ) :
    (news.foldl addRoute config).routes =
      news.foldl (fun entries route => (addObj entries config.ifindex route true false).entries)
        config.routes := by
  induction news generalizing config with
  | nil => rfl
  | cons new news ih =>
    obtain ⟨routes_eq, ifindex_eq⟩ := addRoute_routes config new
    rw [foldl_cons, ih, ifindex_eq, routes_eq]
    rfl

theorem penalized_ifindex (penalty : UInt32) (route : NMPlatformIP4Route) :
    NMPClass.ifindex (penalized penalty route) = NMPClass.ifindex route := by
  rcases penalized_cases penalty route with unchanged | ⟨metric, changed⟩
  · rw [unchanged]
  · rw [changed]
    rfl

theorem mergeMtu_eq (dst src : NMIP4ConfigPrivate) :
    ∃ mtu source, mergeMtu dst src = { dst with mtu := mtu, mtuSource := source } := by
  unfold mergeMtu
  split
  · exact ⟨_, _, rfl⟩
  · exact ⟨_, _, rfl⟩

theorem subtractMtu_eq (dst src : NMIP4ConfigPrivate) :
    ∃ mtu source, subtractMtu dst src = { dst with mtu := mtu, mtuSource := source } := by
  unfold subtractMtu
  split
  · exact ⟨_, _, rfl⟩
  · exact ⟨_, _, rfl⟩

theorem merge_lists (dst src : NMIP4ConfigPrivate) (penalty : UInt32) :
    (ip4ConfigMerge dst src {} penalty).addresses = (objs src.addresses).foldl
        (fun entries address => (addObj entries dst.ifindex address true false).entries)
        dst.addresses ∧
      (ip4ConfigMerge dst src {} penalty).routeConfig =
        ((objs src.routeConfig.routes).map (penalized penalty)).foldl addRoute dst.routeConfig ∧
      (ip4ConfigMerge dst src {} penalty).nameservers =
        src.nameservers.foldl addNameserver dst.nameservers ∧
      (ip4ConfigMerge dst src {} penalty).domains =
        src.domains.foldl checkAndAddDomain dst.domains ∧
      (ip4ConfigMerge dst src {} penalty).searches =
        src.searches.foldl checkAndAddDomain dst.searches ∧
      (ip4ConfigMerge dst src {} penalty).dnsOptions =
        src.dnsOptions.foldl addDnsOption dst.dnsOptions ∧
      (ip4ConfigMerge dst src {} penalty).nis = src.nis.foldl addNisServer dst.nis ∧
      (ip4ConfigMerge dst src {} penalty).wins = src.wins.foldl addWins dst.wins := by
  have all_addresses : (objs src.addresses).map (addressToMerge {}) = objs src.addresses :=
    map_id' _
  have all_routes : routesToMerge src.routeConfig {} penalty =
      (objs src.routeConfig.routes).map (penalized penalty) := by
    unfold routesToMerge
    simp
  unfold ip4ConfigMerge mergeRoutes
  rw [all_addresses, foldl_addAddress, all_routes]
  dsimp only
  rw [if_neg Bool.false_ne_true]
  obtain ⟨mtu, source, mtu_eq⟩ := mergeMtu_eq (mergeDns { dst with
    addresses := (objs src.addresses).foldl
      (fun entries address => (addObj entries dst.ifindex address true false).entries) dst.addresses
    routeConfig := ((objs src.routeConfig.routes).map (penalized penalty)).foldl addRoute
      dst.routeConfig } src) src
  rw [mtu_eq]
  exact ⟨rfl, rfl, rfl, rfl, rfl, rfl, rfl, rfl⟩

theorem subtract_lists (dst src : NMIP4ConfigPrivate) (penalty : UInt32) :
    objs (ip4ConfigSubtract dst src penalty).addresses =
        (objs dst.addresses).filter (outside (objs src.addresses)) ∧
      objs (ip4ConfigSubtract dst src penalty).routeConfig.routes =
        (objs dst.routeConfig.routes).filter
          (outside ((objs src.routeConfig.routes).map (penalized penalty))) ∧
      (ip4ConfigSubtract dst src penalty).nameservers =
        src.nameservers.foldl UniqueList.remove dst.nameservers ∧
      (ip4ConfigSubtract dst src penalty).domains =
        src.domains.foldl UniqueList.remove dst.domains ∧
      (ip4ConfigSubtract dst src penalty).searches =
        src.searches.foldl UniqueList.remove dst.searches ∧
      (ip4ConfigSubtract dst src penalty).dnsOptions =
        src.dnsOptions.foldl UniqueList.remove dst.dnsOptions ∧
      (ip4ConfigSubtract dst src penalty).nis = src.nis.foldl UniqueList.remove dst.nis ∧
      (ip4ConfigSubtract dst src penalty).wins = src.wins.foldl UniqueList.remove dst.wins := by
  unfold ip4ConfigSubtract
  obtain ⟨mtu, source, mtu_eq⟩ := subtractMtu_eq dst src
  rw [mtu_eq]
  exact ⟨objs_foldl_removeObj _ _, (subtractRoutes_eq _ _ _).2, rfl, rfl, rfl, rfl, rfl, rfl⟩

/-- Merging a configuration and subtracting it again leaves, of everything that was there before,
what has no identity of the other configuration, in its order.  Default routes of the other
configuration count with their penalty. -/
theorem subtract_merge (dst src : NMIP4Config) (same_ifindex : dst.ifindex = src.ifindex)
    (penalty : UInt32) :
    let result := ip4ConfigSubtract
      (ip4ConfigMerge dst.toNMIP4ConfigPrivate src.toNMIP4ConfigPrivate {} penalty)
      src.toNMIP4ConfigPrivate penalty
    objs result.addresses = (objs dst.addresses).filter (outside (objs src.addresses)) ∧
      objs result.routeConfig.routes = (objs dst.routeConfig.routes).filter
        (outside ((objs src.routeConfig.routes).map (penalized penalty))) ∧
      result.nameservers = UniqueList.without dst.nameservers src.nameservers ∧
      result.domains = UniqueList.without dst.domains src.domains ∧
      result.searches = UniqueList.without dst.searches src.searches ∧
      result.dnsOptions = UniqueList.without dst.dnsOptions src.dnsOptions ∧
      result.nis = UniqueList.without dst.nis src.nis ∧
      result.wins = UniqueList.without dst.wins src.wins := by
  obtain ⟨addresses, routes, nameservers, domains, searches, options, nis, wins⟩ :=
    merge_lists dst.toNMIP4ConfigPrivate src.toNMIP4ConfigPrivate penalty
  obtain ⟨addresses', routes', nameservers', domains', searches', options', nis', wins'⟩ :=
    subtract_lists (ip4ConfigMerge dst.toNMIP4ConfigPrivate src.toNMIP4ConfigPrivate {} penalty)
      src.toNMIP4ConfigPrivate penalty
  have routes_uniform : ∀ route ∈ (objs src.routeConfig.routes).map (penalized penalty),
      NMPClass.ifindex route = dst.routeConfig.ifindex := by
    intro route mem
    obtain ⟨other, other_mem, rfl⟩ := mem_map.mp mem
    rw [penalized_ifindex]
    exact (src.valid.routes.ifindex other other_mem).trans same_ifindex.symm
  dsimp only
  refine ⟨?_, ?_, ?_, ?_, ?_, ?_, ?_, ?_⟩
  · rw [addresses', addresses, same_ifindex]
    exact filter_foldl_addObj src.valid.addresses_ifindex dst.addresses
  · rw [routes', routes, foldl_addRoute]
    exact filter_foldl_addObj routes_uniform dst.routeConfig.routes
  · rw [nameservers', nameservers]
    exact UniqueList.foldl_remove_add dst.valid.nameservers nonzeroServer_stable
      src.valid.nameservers
  · rw [domains', domains]
    exact UniqueList.foldl_remove_add dst.valid.domains checkDomain_stable src.valid.domains
  · rw [searches', searches]
    exact UniqueList.foldl_remove_add dst.valid.searches checkDomain_stable src.valid.searches
  · rw [options', options]
    exact UniqueList.foldl_remove_add dst.valid.dnsOptions nonemptyOption_stable
      src.valid.dnsOptions
  · rw [nis', nis]
    exact UniqueList.foldl_remove_add dst.valid.nis some_stable src.valid.nis
  · rw [wins', wins]
    exact UniqueList.foldl_remove_add dst.valid.wins nonzeroServer_stable src.valid.wins

/-- Calls that fill two configurations. -/
def exampleCalls : List Ip4Call :=
  [.nameservers 0 (.add 0x01010101), .nameservers 0 (.add 0x08080808),
    .addRoute 0 (exampleRoute 262 0), .nameservers 1 (.add 0x08080808),
    .addRoute 1 { exampleRoute 262 0 with metric := 95 }]

theorem exampleCalls_lawful : ip4Machine.Lawful (ip4Start fun _ => 1) exampleCalls := by
  have first : routeValid (exampleRoute 262 0) = true := by decide
  have second : routeValid { exampleRoute 262 0 with metric := 95 } = true := by decide
  exact ⟨trivial, trivial, first, trivial, second, trivial⟩

/-- One of two name servers remains.  The default route of the other configuration has the metric of
the first one when it is penalized, so that both go. -/
theorem subtract_merge_example :
    let dst := reachedConfig _ exampleCalls_lawful 0
    let src := reachedConfig _ exampleCalls_lawful 1
    let result := ip4ConfigSubtract
      (ip4ConfigMerge dst.toNMIP4ConfigPrivate src.toNMIP4ConfigPrivate {} 5)
      src.toNMIP4ConfigPrivate 5
    result.nameservers = [0x01010101] ∧ objs result.routeConfig.routes = [] := by
  obtain ⟨-, routes, nameservers, -⟩ := subtract_merge (reachedConfig _ exampleCalls_lawful 0)
    (reachedConfig _ exampleCalls_lawful 1) (by decide) 5
  exact ⟨nameservers.trans (by decide), routes.trans (by decide)⟩

/-- Whatever was called on whichever configurations, the addresses and routes of each one are those of
its interface, no two of them have the same identity, and the other lists repeat nothing. -/
theorem ip4Run_distinct (ifindexes : Nat → Int) (calls : List Ip4Call)
    (lawful : ip4Machine.Lawful (ip4Start ifindexes) calls) (id : Nat) :
    let config := ip4Machine.run (ip4Start ifindexes) calls id
    (Distinct (objs config.addresses) ∧ Distinct (objs config.routeConfig.routes)) ∧
      ((∀ address ∈ objs config.addresses, NMPClass.ifindex address = config.ifindex) ∧
        ∀ route ∈ objs config.routeConfig.routes, NMPClass.ifindex route = config.ifindex) ∧
      config.nameservers.Nodup ∧ config.domains.Nodup ∧ config.searches.Nodup ∧
      config.dnsOptions.Nodup ∧ config.nis.Nodup ∧ config.wins.Nodup := by
  have valid := ip4Run_valid ifindexes lawful id
  exact ⟨⟨valid.addresses, valid.routes.distinct⟩,
    ⟨valid.addresses_ifindex, valid.routes.ifindex⟩, valid.nameservers.nodup, valid.domains.nodup,
    valid.searches.nodup, valid.dnsOptions.nodup, valid.nis.nodup, valid.wins.nodup⟩

theorem ip4Run_distinct_example :
    Distinct (objs (reachedConfig _ exampleCalls_lawful 0).routeConfig.routes) :=
  (ip4Run_distinct _ exampleCalls exampleCalls_lawful 0).1.2

end NetworkManager.IPConfig
