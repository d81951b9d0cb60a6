import Mathlib.Data.List.Infix
import NetworkManager.IpConfig.Routes
import NetworkManager.Library.UniqueList

/-!
# The IPv4 configuration

`NMIP4Config` with the functions that add, remove, merge, subtract and replace what it holds.  The
functions work on the record `NMIP4ConfigPrivate`; a configuration is a record together with what
all of them keep.
-/

namespace NetworkManager.IPConfig

/-- `NMSettingConnectionMdns`. -/
inductive NMSettingConnectionMdns where
  | default
  | no
  | resolve
  | yes
  deriving DecidableEq, Repr

/-- `NMSettingConnectionLlmnr`, which has the same values. -/
abbrev NMSettingConnectionLlmnr := NMSettingConnectionMdns

/-- The number of a value, from -1. -/
def NMSettingConnectionMdns.toInt : NMSettingConnectionMdns → Int
  | .default => -1
  | .no => 0
  | .resolve => 1
  | .yes => 2

/-- `NM_MAX`. -/
def NMSettingConnectionMdns.max (a b : NMSettingConnectionMdns) : NMSettingConnectionMdns :=
  if a.toInt > b.toInt then a else b

/-- A string, by its bytes. -/
abbrev Text := List UInt8

/-- `NMIP4ConfigPrivate`. -/
structure NMIP4ConfigPrivate where
  /-- The interface index, the routes and the best default route. -/
  routeConfig : RouteConfig NMPlatformIP4Route
  addresses : List (Entry NMPlatformIP4Address)
  nameservers : List InAddr
  domains : List Text
  searches : List Text
  dnsOptions : List Text
  dnsPriority : Int
  /-- Whether multicast DNS is used. -/
  mdns : NMSettingConnectionMdns
  llmnr : NMSettingConnectionLlmnr
  nis : List InAddr
  nisDomain : Option Text
  wins : List InAddr
  mtu : UInt32
  /-- The `NMIPConfigSource` of the MTU. -/
  mtuSource : Nat
  metered : Bool
  deriving DecidableEq, Repr

/-- `nm_ip4_config_get_ifindex`. -/
def NMIP4ConfigPrivate.ifindex (self : NMIP4ConfigPrivate) : Int := self.routeConfig.ifindex

/-- `NM_IP_CONFIG_SOURCE_UNKNOWN`. -/
def sourceUnknown : Nat := 0

/-- `nm_ip4_config_new`. -/
def ip4ConfigNew (ifindex : Int) : NMIP4ConfigPrivate where
  routeConfig := RouteConfig.new ifindex
  addresses := []
  nameservers := []
  domains := []
  searches := []
  dnsOptions := []
  dnsPriority := 0
  mdns := .default
  llmnr := .default
  nis := []
  nisDomain := none
  wins := []
  mtu := 0
  mtuSource := sourceUnknown
  metered := false

/-- Servers that must not be zero. -/
def nonzeroServer (server : InAddr) : Option InAddr := if server ≠ 0 then some server else none

/-- Whether a string has two dots in a row, as `strstr` with `".."` finds them. -/
def hasTwoDots (domain : Text) : Bool := [46, 46] <:+: domain

/-- What `_nm_ip_config_check_and_add_domain` makes of a domain. -/
def checkDomain (domain : Text) : Option Text :=
  if domain = [] then none
  else if domain.head? = some 46 ∨ hasTwoDots domain then none
  else if domain.getLast? = some 46 then some domain.dropLast
  else some domain

/-- Options that must not be empty. -/
def nonemptyOption (option : Text) : Option Text := if option ≠ [] then some option else none

/-- `nm_ip4_config_add_nameserver`. -/
def addNameserver : List InAddr → InAddr → List InAddr := UniqueList.add nonzeroServer

/-- `nm_ip4_config_add_nis_server`. -/
def addNisServer : List InAddr → InAddr → List InAddr := UniqueList.add some

/-- `nm_ip4_config_add_wins`. -/
def addWins : List InAddr → InAddr → List InAddr := UniqueList.add nonzeroServer

/-- `_nm_ip_config_check_and_add_domain`. -/
def checkAndAddDomain : List Text → Text → List Text := UniqueList.add checkDomain

/-- `nm_ip4_config_add_dns_option`. -/
def addDnsOption : List Text → Text → List Text := UniqueList.add nonemptyOption

theorem nonzeroServer_stable : UniqueList.Stable nonzeroServer := by
  intro item accepted is_accepted
  unfold nonzeroServer at *
  split at is_accepted
  · rename_i nonzero
    obtain rfl := Option.some.inj is_accepted
    exact if_pos nonzero
  · cases is_accepted

theorem nonemptyOption_stable : UniqueList.Stable nonemptyOption := by
  intro item accepted is_accepted
  unfold nonemptyOption at *
  split at is_accepted
  · rename_i nonempty
    obtain rfl := Option.some.inj is_accepted
    exact if_pos nonempty
  · cases is_accepted

theorem some_stable {α : Type} : UniqueList.Stable (some : α → Option α) :=
  fun _ _ _ => rfl

theorem checkDomain_stable : UniqueList.Stable checkDomain := by
  intro domain accepted is_accepted
  unfold checkDomain at is_accepted
  split at is_accepted
  · cases is_accepted
  rename_i nonempty
  split at is_accepted
  · cases is_accepted
  rename_i no_dots
  split at is_accepted
  · rename_i trailing
    obtain rfl := Option.some.inj is_accepted
    have domain_eq : domain = domain.dropLast ++ [46] := by
      obtain ⟨front, rfl⟩ := List.getLast?_eq_some_iff.mp trailing
      simp
    generalize domain.dropLast = front at domain_eq
    subst domain_eq
    obtain ⟨no_leading, no_two⟩ := not_or.mp no_dots
    have front_nonempty : front ≠ [] := by
      rintro rfl
      exact no_leading rfl
    have front_head : front.head? ≠ some 46 := by
      rw [List.head?_append_of_ne_nil _ front_nonempty] at no_leading
      exact no_leading
    have front_no_two : ¬ hasTwoDots front = true := by
      simp only [hasTwoDots, decide_eq_true_eq] at no_two ⊢
      exact fun found => no_two (found.trans (List.prefix_append front [46]).isInfix)
    have front_last : front.getLast? ≠ some 46 := by
      intro last
      obtain ⟨rest, rfl⟩ := List.getLast?_eq_some_iff.mp last
      refine no_two ?_
      simp only [hasTwoDots, decide_eq_true_eq]
      exact ⟨rest, [], by simp⟩
    unfold checkDomain
    rw [if_neg front_nonempty, if_neg (not_or.mpr ⟨front_head, front_no_two⟩), if_neg front_last]
  · rename_i no_trailing
    obtain rfl := Option.some.inj is_accepted
    unfold checkDomain
    rw [if_neg nonempty, if_neg no_dots, if_neg no_trailing]

/-- `_route_valid`. -/
def routeValid (route : NMPlatformIP4Route) : Bool :=
  route.plen ≤ 32 ∧ route.network = ip4AddressClearHostAddress route.network route.plen

section

variable (self : NMIP4ConfigPrivate)

/-- `_add_address`. -/
def addAddress (new : NMPlatformIP4Address) : NMIP4ConfigPrivate :=
  { self with addresses := (addObj self.addresses self.ifindex new true false).entries }

/-- `nm_ip4_config_add_address`. -/
def ip4ConfigAddAddress (new : NMPlatformIP4Address) : NMIP4ConfigPrivate :=
  if new.plen ≤ 32 ∧ 0 < self.ifindex then addAddress self new else self

/-- `nm_ip4_config_add_route`. -/
def ip4ConfigAddRoute (new : NMPlatformIP4Route) : NMIP4ConfigPrivate :=
  { self with routeConfig := ipConfigAddRoute self.routeConfig new }

/-- `nm_ip4_config_set_mtu`. -/
def setMtu (mtu : UInt32) (source : Nat) : NMIP4ConfigPrivate :=
  { self with mtu := mtu, mtuSource := if mtu = 0 then sourceUnknown else source }

end

/-- The MTU in `nm_ip4_config_merge`. -/
def mergeMtu (dst src : NMIP4ConfigPrivate) : NMIP4ConfigPrivate :=
  if src.mtuSource > dst.mtuSource ∨
      (src.mtuSource = dst.mtuSource ∧
        ((dst.mtu = 0 ∧ src.mtu ≠ 0) ∨ (dst.mtu ≠ 0 ∧ src.mtu < dst.mtu))) then
    setMtu dst src.mtu src.mtuSource
  else dst

/-- An address as `nm_ip4_config_merge` adds it. -/
def addressToMerge (flags : NMIPConfigMergeFlags) (address : NMPlatformIP4Address) :
    NMPlatformIP4Address :=
  if flags.isExternal ∧ !address.isExternal then { address with isExternal := true } else address

/-- The servers and names in `nm_ip4_config_merge`, if they are merged. -/
def mergeDns (dst src : NMIP4ConfigPrivate) : NMIP4ConfigPrivate :=
  { dst with
    nameservers := src.nameservers.foldl addNameserver dst.nameservers
    domains := src.domains.foldl checkAndAddDomain dst.domains
    searches := src.searches.foldl checkAndAddDomain dst.searches
    dnsOptions := src.dnsOptions.foldl addDnsOption dst.dnsOptions
    nis := src.nis.foldl addNisServer dst.nis
    nisDomain := if src.nisDomain.isSome then src.nisDomain else dst.nisDomain
    wins := src.wins.foldl addWins dst.wins }

/-- `nm_ip4_config_merge`. -/
def ip4ConfigMerge (dst src : NMIP4ConfigPrivate) (flags : NMIPConfigMergeFlags)
    (penalty : UInt32) : NMIP4ConfigPrivate :=
  let dst := ((objs src.addresses).map (addressToMerge flags)).foldl addAddress dst
  let dst := { dst with routeConfig := mergeRoutes dst.routeConfig src.routeConfig flags penalty }
  let dst := if flags.noDns then dst else mergeDns dst src
  let dst := mergeMtu dst src
  { dst with
    metered := dst.metered || src.metered
    dnsPriority := if src.dnsPriority ≠ 0 then src.dnsPriority else dst.dnsPriority
    mdns := src.mdns.max dst.mdns
    llmnr := src.llmnr.max dst.llmnr }

/-- The addresses in `nm_ip4_config_subtract`. -/
def subtractAddresses (dst src : List (Entry NMPlatformIP4Address)) :
    List (Entry NMPlatformIP4Address) :=
  (objs src).foldl (fun entries address => (removeObj entries address).1) dst

/-- The MTU in `nm_ip4_config_subtract`. -/
def subtractMtu (dst src : NMIP4ConfigPrivate) : NMIP4ConfigPrivate :=
  if src.mtu = dst.mtu ∧ src.mtuSource = dst.mtuSource then setMtu dst 0 sourceUnknown else dst

/-- `nm_ip4_config_subtract`. -/
def ip4ConfigSubtract (dst src : NMIP4ConfigPrivate) (penalty : UInt32) : NMIP4ConfigPrivate :=
  let dst := subtractMtu dst src
  { dst with
    addresses := subtractAddresses dst.addresses src.addresses
    routeConfig := subtractRoutes dst.routeConfig src.routeConfig penalty
    nameservers := src.nameservers.foldl UniqueList.remove dst.nameservers
    domains := src.domains.foldl UniqueList.remove dst.domains
    searches := src.searches.foldl UniqueList.remove dst.searches
    dnsOptions := src.dnsOptions.foldl UniqueList.remove dst.dnsOptions
    nis := src.nis.foldl UniqueList.remove dst.nis
    nisDomain := if src.nisDomain = dst.nisDomain then none else dst.nisDomain
    wins := src.wins.foldl UniqueList.remove dst.wins
    dnsPriority := if src.dnsPriority = dst.dnsPriority then 0 else dst.dnsPriority
    mdns := if src.mdns = dst.mdns then .default else dst.mdns
    llmnr := if src.llmnr = dst.llmnr then .default else dst.llmnr }

/-- `_nm_ip4_config_intersect_helper`, as `nm_ip4_config_intersect` calls it. -/
def ip4ConfigIntersect (dst src : NMIP4ConfigPrivate) (addresses routes : Bool)
    (penalty : UInt32) : NMIP4ConfigPrivate :=
  { dst with
    addresses :=
      if addresses then
        dst.addresses.filter fun entry => (lookupObj src.addresses entry.obj).isSome
      else dst.addresses
    routeConfig :=
      if routes then intersectRoutes dst.routeConfig src.routeConfig penalty
      else dst.routeConfig }

section Compare

variable {α : Type} [NMPClass α]

/-- The loops of `nm_ip4_config_replace` over the objects of both configurations: whether they are
equal, and whether a difference is relevant. -/
def compareObjs (isRelevant : α → α → Bool) : List α → List α → Bool → Bool × Bool
  | [], [], areEqual => (areEqual, false)
  | src :: srcs, dst :: dsts, areEqual =>
    if objEqual src dst then compareObjs isRelevant srcs dsts areEqual
    else if isRelevant src dst then (false, true)
    else compareObjs isRelevant srcs dsts false
  | _, _, _ => (false, true)

end Compare

def addressIsRelevant (src dst : NMPlatformIP4Address) : Bool :=
  src.address ≠ dst.address ∨ src.plen ≠ dst.plen ∨ src.peerAddress ≠ dst.peerAddress

/-- `nm_utils_ip4_address_same_prefix`. -/
def ip4AddressSamePrefix (a b : InAddr) (plen : UInt8) : Bool :=
  (ip4AddressSamePrefixCmp a b plen).isEq

def routeIsRelevant (src dst : NMPlatformIP4Route) : Bool :=
  src.plen ≠ dst.plen ∨ ¬ ip4AddressSamePrefix src.network dst.network src.plen ∨
    src.gateway ≠ dst.gateway ∨ src.metric ≠ dst.metric

/-- The addresses that `nm_ip4_config_replace` stores. -/
def replaceAddresses (ifindex : Int) (dst src : List (Entry NMPlatformIP4Address)) :
    List (Entry NMPlatformIP4Address) :=
  dirtyRemoveIdx ((objs src).foldl
    (fun entries address => (addObj entries ifindex address false true).entries)
    (dirtySetIdx dst))

/-- A list of servers or names in `nm_ip4_config_replace`: it is reset and filled again, unless it
is the same. -/
def replaceItems {α : Type} [DecidableEq α] (add : List α → α → List α) (dst src : List α) :
    List α :=
  if src = dst then dst else src.foldl add []

/-- What `nm_ip4_config_replace` gives. -/
structure Replaced where
  config : NMIP4ConfigPrivate
  relevantChanges : Bool
  changed : Bool

/-- `nm_ip4_config_replace`. -/
def ip4ConfigReplace (dst src : NMIP4ConfigPrivate) : Replaced :=
  let addresses := compareObjs addressIsRelevant (objs src.addresses) (objs dst.addresses) true
  let routes :=
    compareObjs routeIsRelevant (objs src.routeConfig.routes) (objs dst.routeConfig.routes) true
  let hasMinorChanges : Bool :=
    src.ifindex ≠ dst.ifindex ∨ !addresses.1 ∨ !routes.1 ∨ src.dnsPriority ≠ dst.dnsPriority ∨
      (src.mtu ≠ dst.mtu ∨ src.mtuSource ≠ dst.mtuSource) ∨ src.metered ≠ dst.metered
  let hasRelevantChanges : Bool :=
    addresses.2 ∨ routes.2 ∨ src.nameservers ≠ dst.nameservers ∨ src.domains ≠ dst.domains ∨
      src.searches ≠ dst.searches ∨ src.dnsOptions ≠ dst.dnsOptions ∨ src.mdns ≠ dst.mdns ∨
      src.llmnr ≠ dst.llmnr ∨ src.nis ≠ dst.nis ∨ src.nisDomain ≠ dst.nisDomain ∨
      src.wins ≠ dst.wins
  let config :=
    if src.mtu ≠ dst.mtu ∨ src.mtuSource ≠ dst.mtuSource then setMtu dst src.mtu src.mtuSource
    else dst
  { config :=
      { config with
        addresses :=
          if addresses.1 then dst.addresses
          else replaceAddresses src.ifindex dst.addresses src.addresses
        routeConfig := replaceRoutes dst.routeConfig src.routeConfig
        nameservers := replaceItems addNameserver dst.nameservers src.nameservers
        domains := replaceItems checkAndAddDomain dst.domains src.domains
        searches := replaceItems checkAndAddDomain dst.searches src.searches
        dnsOptions := replaceItems addDnsOption dst.dnsOptions src.dnsOptions
        mdns := src.mdns
        llmnr := src.llmnr
        dnsPriority := src.dnsPriority
        nis := replaceItems addNisServer dst.nis src.nis
        nisDomain := src.nisDomain
        wins := replaceItems addWins dst.wins src.wins
        metered := src.metered }
    relevantChanges := hasRelevantChanges
    changed := hasRelevantChanges || hasMinorChanges }

end NetworkManager.IPConfig
