import NetworkManager.IpConfig.Replace

/-!
# Runs of calls on IPv4 configurations

Configurations start empty and change by calls.  Every configuration in every state of a run is
valid, so that results about `NMIP4Config` are about all of them.
-/

namespace NetworkManager.IPConfig

/-- A change of a list of servers or names. -/
inductive ListEdit (α : Type) where
  /-- Add an item. -/
  | add (new : α)
  /-- Remove the item at an index. -/
  | del (index : Nat)
  /-- Remove all items. -/
  | reset

def ListEdit.apply {α : Type} (add : List α → α → List α) (items : List α) : ListEdit α → List α
  | .add new => add items new
  | .del index => items.eraseIdx index
  | .reset => []

theorem ListEdit.apply_valid {α : Type} [DecidableEq α] {accept : α → Option α} {items : List α}
    (valid : UniqueList.Valid accept items) (stable : UniqueList.Stable accept)
    (edit : ListEdit α) : UniqueList.Valid accept (edit.apply (UniqueList.add accept) items) := by
  cases edit with
  | add new => exact valid.add stable new
  | del index => exact valid.sublist (List.eraseIdx_sublist items index)
  | reset => exact UniqueList.Valid.nil

/-- A call of a function `nm_ip4_config_…` on IPv4 configurations. -/
inductive Ip4Call where
  | addAddress (config : Nat) (new : NMPlatformIP4Address)
  | resetAddresses (config : Nat)
  /-- `nm_ip4_config_nmpobj_remove`, of an address. -/
  | removeAddress (config : Nat) (needle : NMPlatformIP4Address)
  | addRoute (config : Nat) (new : NMPlatformIP4Route)
  | resetRoutes (config : Nat)
  /-- `nm_ip4_config_nmpobj_remove`, of a route. -/
  | removeRoute (config : Nat) (needle : NMPlatformIP4Route)
  /-- `nm_ip4_config_add_nameserver` and the functions that remove name servers. -/
  | nameservers (config : Nat) (edit : ListEdit InAddr)
  /-- `nm_ip4_config_add_domain` and the functions that remove domains. -/
  | domains (config : Nat) (edit : ListEdit Text)
  /-- `nm_ip4_config_add_search` and the functions that remove search domains. -/
  | searches (config : Nat) (edit : ListEdit Text)
  /-- `nm_ip4_config_add_dns_option` and the functions that remove options. -/
  | dnsOptions (config : Nat) (edit : ListEdit Text)
  /-- `nm_ip4_config_add_nis_server` and the functions that remove NIS servers. -/
  | nis (config : Nat) (edit : ListEdit InAddr)
  /-- `nm_ip4_config_add_wins` and the functions that remove WINS servers. -/
  | wins (config : Nat) (edit : ListEdit InAddr)
  | setNisDomain (config : Nat) (domain : Option Text)
  | setDnsPriority (config : Nat) (priority : Int)
  | mdnsSet (config : Nat) (mdns : NMSettingConnectionMdns)
  | llmnrSet (config : Nat) (llmnr : NMSettingConnectionLlmnr)
  | setMtu (config : Nat) (mtu : UInt32) (source : Nat)
  | setMetered (config : Nat) (metered : Bool)
  | merge (dst src : Nat) (flags : NMIPConfigMergeFlags) (penalty : UInt32)
  | subtract (dst src : Nat) (penalty : UInt32)
  | intersect (dst src : Nat) (addresses routes : Bool) (penalty : UInt32)
  /-- `nm_ip4_config_replace`. -/
  | replace (dst src : Nat)

/-- The IPv4 configurations. -/
abbrev Ip4Store := Nat → NMIP4ConfigPrivate

def Ip4Store.AllValid (store : Ip4Store) : Prop := ∀ id, (store id).Valid

def Ip4Call.target : Ip4Call → Nat
  | .addAddress config _ | .resetAddresses config | .removeAddress config _ | .addRoute config _
  | .resetRoutes config | .removeRoute config _ | .nameservers config _ | .domains config _
  | .searches config _ | .dnsOptions config _ | .nis config _ | .wins config _
  | .setNisDomain config _ | .setDnsPriority config _ | .mdnsSet config _ | .llmnrSet config _
  | .setMtu config _ _ | .setMetered config _ | .merge config _ _ _ | .subtract config _ _
  | .intersect config _ _ _ _ | .replace config _ => config

def Ip4Call.effect (store : Ip4Store) (config : NMIP4ConfigPrivate) : Ip4Call → NMIP4ConfigPrivate
  | .addAddress _ new => ip4ConfigAddAddress config new
  | .resetAddresses _ => { config with addresses := [] }
  | .removeAddress _ needle => { config with addresses := (removeObj config.addresses needle).1 }
  | .addRoute _ new => ip4ConfigAddRoute config new
  | .resetRoutes _ => { config with routeConfig := IPConfig.resetRoutes config.routeConfig }
  | .removeRoute _ needle => { config with routeConfig := nmpobjRemove config.routeConfig needle }
  | .nameservers _ edit => { config with nameservers := edit.apply addNameserver config.nameservers }
  | .domains _ edit => { config with domains := edit.apply checkAndAddDomain config.domains }
  | .searches _ edit => { config with searches := edit.apply checkAndAddDomain config.searches }
  | .dnsOptions _ edit => { config with dnsOptions := edit.apply addDnsOption config.dnsOptions }
  | .nis _ edit => { config with nis := edit.apply addNisServer config.nis }
  | .wins _ edit => { config with wins := edit.apply addWins config.wins }
  | .setNisDomain _ domain => { config with nisDomain := domain }
  | .setDnsPriority _ priority => { config with dnsPriority := priority }
  | .mdnsSet _ mdns => { config with mdns := mdns }
  | .llmnrSet _ llmnr => { config with llmnr := llmnr }
  | .setMtu _ mtu source => IPConfig.setMtu config mtu source
  | .setMetered _ metered => { config with metered := metered }
  | .merge _ src flags penalty => ip4ConfigMerge config (store src) flags penalty
  | .subtract _ src penalty => ip4ConfigSubtract config (store src) penalty
  | .intersect _ src addresses routes penalty =>
    ip4ConfigIntersect config (store src) addresses routes penalty
  | .replace _ src => (ip4ConfigReplace config (store src)).config

/-- A call changes one configuration. -/
def ip4Perform (store : Ip4Store) (call : Ip4Call) : Ip4Store :=
  Function.update store call.target (call.effect store (store call.target))

/-- What `_add_route` asserts of the route of a call. -/
def Ip4Call.Asserted : Ip4Call → Prop
  | .addRoute _ new => routeValid new = true
  | _ => True

/-- Calls whose routes are valid. -/
def ip4Machine : GuardedMachine Ip4Store Ip4Call where
  step := ip4Perform
  guard := fun _ call => call.Asserted

def ip4Start (ifindexes : Nat → Int) : Ip4Store := fun id => ip4ConfigNew (ifindexes id)

theorem nmpobjRemove_eq {ρ : Type} [NMPlatformIPRouteClass ρ] [DecidableEq ρ]
    (config : RouteConfig ρ) (needle : ρ) :
    (nmpobjRemove config needle).ifindex = config.ifindex ∧
      objs (nmpobjRemove config needle).routes =
        (objs config.routes).filter fun obj => !idEqual obj needle := by
  rw [← objs_removeObj]
  unfold nmpobjRemove
  dsimp only
  split <;> exact ⟨rfl, rfl⟩

theorem resetRoutes_eq {ρ : Type} [NMPlatformIPRouteClass ρ] [DecidableEq ρ]
    (config : RouteConfig ρ) :
    (resetRoutes config).ifindex = config.ifindex ∧
      objs (resetRoutes config).routes = (objs config.routes).filter fun _ => false := by
  rw [List.filter_false]
  unfold resetRoutes
  split
  · rename_i no_routes
    rw [no_routes]
    exact ⟨rfl, rfl⟩
  · exact ⟨rfl, rfl⟩

theorem effect_valid {store : Ip4Store} (store_valid : store.AllValid)
    {config : NMIP4ConfigPrivate} (valid : config.Valid) {call : Ip4Call}
    (asserted : call.Asserted) : (call.effect store config).Valid := by
  cases call with
  | addAddress _ new =>
    dsimp only [Ip4Call.effect, ip4ConfigAddAddress]
    split
    · exact valid.addAddress new
    · exact valid
  | resetAddresses _ =>
    have none_kept : objs [] = (objs config.addresses).filter fun _ => false := by
      rw [List.filter_false]
      rfl
    exact valid.filterAddresses none_kept
  | removeAddress _ needle => exact valid.filterAddresses (objs_removeObj _ _)
  | addRoute _ new =>
    dsimp only [Ip4Call.effect, ip4ConfigAddRoute, ipConfigAddRoute]
    split
    · exact valid.addRoute asserted
    · exact valid
  | resetRoutes _ =>
    obtain ⟨ifindex_eq, routes_eq⟩ := resetRoutes_eq config.routeConfig
    exact valid.filterRoutes _ ifindex_eq routes_eq
  | removeRoute _ needle =>
    obtain ⟨ifindex_eq, routes_eq⟩ := nmpobjRemove_eq config.routeConfig needle
    exact valid.filterRoutes _ ifindex_eq routes_eq
  | nameservers _ edit =>
    exact { valid with nameservers := edit.apply_valid valid.nameservers nonzeroServer_stable }
  | domains _ edit =>
    exact { valid with domains := edit.apply_valid valid.domains checkDomain_stable }
  | searches _ edit =>
    exact { valid with searches := edit.apply_valid valid.searches checkDomain_stable }
  | dnsOptions _ edit =>
    exact { valid with dnsOptions := edit.apply_valid valid.dnsOptions nonemptyOption_stable }
  | nis _ edit => exact { valid with nis := edit.apply_valid valid.nis some_stable }
  | wins _ edit =>
    exact { valid with wins := edit.apply_valid valid.wins nonzeroServer_stable }
  | setNisDomain _ domain => exact { valid with }
  | setDnsPriority _ priority => exact { valid with }
  | mdnsSet _ mdns => exact { valid with }
  | llmnrSet _ llmnr => exact { valid with }
  | setMtu _ mtu source => exact valid.setMtu mtu source
  | setMetered _ metered => exact { valid with }
  | merge _ src flags penalty => exact valid.merge (store_valid src) flags penalty
  | subtract _ src penalty => exact valid.subtract (store src) penalty
  | intersect _ src addresses routes penalty =>
    exact valid.intersect (store src) addresses routes penalty
  | replace _ src => exact (store_valid src).replace config

theorem ip4Perform_valid {store : Ip4Store} (valid : store.AllValid) {call : Ip4Call}
    (asserted : call.Asserted) : (ip4Perform store call).AllValid := by
  intro id
  unfold ip4Perform
  rw [Function.update_apply]
  split
  · exact effect_valid valid (valid call.target) asserted
  · exact valid id

theorem ip4Run_valid (ifindexes : Nat → Int) {calls : List Ip4Call}
    (lawful : ip4Machine.Lawful (ip4Start ifindexes) calls) :
    Ip4Store.AllValid (ip4Machine.run (ip4Start ifindexes) calls) := by
  have start_valid : Ip4Store.AllValid (ip4Start ifindexes) :=
    fun id => NMIP4ConfigPrivate.Valid.new (ifindexes id)
  have preserves : ∀ store call, Ip4Store.AllValid store → ip4Machine.guard store call →
      Ip4Store.AllValid (ip4Machine.step store call) :=
    fun _ _ valid asserted => ip4Perform_valid valid asserted
  exact ip4Machine.run_preserves preserves start_valid lawful

def reachedConfig (ifindexes : Nat → Int) {calls : List Ip4Call}
    (lawful : ip4Machine.Lawful (ip4Start ifindexes) calls) (id : Nat) : NMIP4Config where
  toNMIP4ConfigPrivate := ip4Machine.run (ip4Start ifindexes) calls id
  valid := ip4Run_valid ifindexes lawful id

end NetworkManager.IPConfig
