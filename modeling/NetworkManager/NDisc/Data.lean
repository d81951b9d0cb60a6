import NetworkManager.Core.Bytes
import NetworkManager.Library.Machine
import NetworkManager.Platform.Object

/-!
# The data of neighbor discovery

A neighbor discovery instance keeps what the routers of a link announced: gateways, addresses,
routes, DNS servers and search domains.  An announcement is added with `nm_ndisc_add_gateway`,
`nm_ndisc_add_route` and the like; `check_timestamps` drops what has expired.

The arrays are lists.  Gateways and routes are searched in one pass for the item that the new one
replaces and for the index at which it is inserted.  A timestamp and a lifetime have 32 bits, and
their sum has 64, so no sum overflows here.
-/

namespace NetworkManager.NDisc

/-- `NMIcmpv6RouterPref`. -/
inductive NMIcmpv6RouterPref where
  | medium | low | high | invalid
  deriving DecidableEq, Repr

/-- `_preference_to_priority`. -/
def preferenceToPriority : NMIcmpv6RouterPref → Nat
  | .low => 1
  | .medium => 2
  | .high => 3
  | .invalid => 0

/-- `NMNDiscGateway`. -/
structure NMNDiscGateway where
  address : In6Addr
  /-- When the announcement was received, in seconds. -/
  timestamp : UInt32
  /-- For how many seconds it is valid. -/
  lifetime : UInt32
  preference : NMIcmpv6RouterPref
  deriving DecidableEq, Repr

/-- `NMNDiscAddress`. -/
structure NMNDiscAddress where
  address : In6Addr
  /-- How often duplicate address detection failed. -/
  dadCounter : UInt8
  timestamp : UInt32
  lifetime : UInt32
  /-- For how many seconds it is preferred. -/
  preferred : UInt32
  deriving DecidableEq, Repr

/-- `NMNDiscRoute`. -/
structure NMNDiscRoute where
  network : In6Addr
  plen : UInt8
  gateway : In6Addr
  timestamp : UInt32
  /-- For how many seconds it is valid. -/
  lifetime : UInt32
  preference : NMIcmpv6RouterPref
  deriving DecidableEq, Repr

/-- `NMNDiscDNSServer`. -/
structure NMNDiscDNSServer where
  address : In6Addr
  timestamp : UInt32
  /-- For how many seconds it is valid. -/
  lifetime : UInt32
  deriving DecidableEq, Repr

/-- `NMNDiscDNSDomain`. -/
structure NMNDiscDNSDomain where
  domain : CString
  timestamp : UInt32
  /-- For how many seconds it is valid. -/
  lifetime : UInt32
  deriving DecidableEq, Repr

/-- The arrays of `NMNDiscDataInternal`. -/
structure NMNDiscDataInternal where
  gateways : List NMNDiscGateway
  addresses : List NMNDiscAddress
  routes : List NMNDiscRoute
  dnsServers : List NMNDiscDNSServer
  dnsDomains : List NMNDiscDNSDomain
  deriving DecidableEq, Repr

/-- The arrays of a new instance. -/
def NMNDiscDataInternal.new : NMNDiscDataInternal where
  gateways := []
  addresses := []
  routes := []
  dnsServers := []
  dnsDomains := []

/-- `NM_NDISC_INFINITY`. -/
def ndiscInfinity : UInt32 := 0xffffffff

/-- `_EXPIRY_INFINITY`, which is `G_MAXINT64`. -/
def expiryInfinity : Int := 9223372036854775807

/-- `G_MAXINT32`. -/
def maxInt32 : Int := 2147483647

/-- `get_expiry_time`. -/
def getExpiryTime (timestamp lifetime : UInt32) : Int :=
  if lifetime = ndiscInfinity then expiryInfinity else timestamp.toNat + lifetime.toNat

/-- `get_expiry` of a gateway. -/
def NMNDiscGateway.getExpiry (item : NMNDiscGateway) : Int :=
  getExpiryTime item.timestamp item.lifetime

/-- `get_expiry` of an address. -/
def NMNDiscAddress.getExpiry (item : NMNDiscAddress) : Int :=
  getExpiryTime item.timestamp item.lifetime

/-- `get_expiry` of a route. -/
def NMNDiscRoute.getExpiry (item : NMNDiscRoute) : Int :=
  getExpiryTime item.timestamp item.lifetime

/-- `get_expiry_half`. -/
def getExpiryHalf (timestamp lifetime : UInt32) : Int :=
  if lifetime = ndiscInfinity then expiryInfinity else getExpiryTime timestamp (lifetime / 2)

/-- `expiry_next`: whether the time is still to come, and the next event, when it is asked for. -/
def expiryNext (now expiryTimestamp : Int) (nextevent : Option Int) : Bool × Option Int :=
  if expiryTimestamp = expiryInfinity then (true, nextevent)
  else
    let e := min expiryTimestamp (maxInt32 - 1)
    if e ≤ now then (false, nextevent)
    else (true, nextevent.map fun next => if e < next then e else next)

/-- What the search for a new item reads of the items of its array. -/
structure ItemView (α κ : Type) where
  key : α → κ
  preference : α → NMIcmpv6RouterPref
  lifetime : α → UInt32
  /-- The listed item, the first one, makes the new one with its identity and preference
  superfluous. -/
  upToDate : α → α → Bool

def ItemView.priority {α κ : Type} (view : ItemView α κ) (item : α) : Nat :=
  preferenceToPriority (view.preference item)

inductive SearchEnd (α : Type) where
  /-- The function returns from within the loop. -/
  | returned (items : List α) (changed : Bool)
  /-- The loop ends, with the index of the first item of a lower priority. -/
  | exhausted (items : List α) (insertIdx : Option Nat)
  deriving DecidableEq, Repr

/-- The loop of `nm_ndisc_add_gateway` and `nm_ndisc_add_route`.  The array consists of the items
before the loop variable and the items from it on. -/
def searchLoop {α κ : Type} [DecidableEq κ] (view : ItemView α κ) (new : α) :
    List α → Option Nat → List α → SearchEnd α
  | before, insertIdx, [] => .exhausted before insertIdx
  | before, insertIdx, item :: rest =>
    if view.key item = view.key new then
      if view.lifetime new = 0 then .returned (before ++ rest) true
      else if view.preference item ≠ view.preference new then
        searchLoop view new before insertIdx rest
      else if view.upToDate item new then .returned (before ++ item :: rest) false
      else .returned (before ++ new :: rest) true
    else
      searchLoop view new (before ++ [item])
        (if view.priority item < view.priority new ∧ insertIdx = none then some before.length
         else insertIdx) rest

/-- What `nm_ndisc_add_gateway` reads of a gateway. -/
def gatewayView : ItemView NMNDiscGateway In6Addr where
  key := NMNDiscGateway.address
  preference := NMNDiscGateway.preference
  lifetime := NMNDiscGateway.lifetime
  upToDate item new := item.getExpiry = new.getExpiry

/-- What `nm_ndisc_add_route` reads of a route. -/
def routeView : ItemView NMNDiscRoute (In6Addr × UInt8) where
  key item := (item.network, item.plen)
  preference := NMNDiscRoute.preference
  lifetime := NMNDiscRoute.lifetime
  upToDate item new := item.getExpiry = new.getExpiry ∧ item.gateway = new.gateway

/-- `nm_ndisc_add_gateway`. -/
def ndiscAddGateway (gateways : List NMNDiscGateway) (new : NMNDiscGateway) :
    List NMNDiscGateway × Bool :=
  match searchLoop gatewayView new [] none gateways with
  | .returned items changed => (items, changed)
  | .exhausted items insertIdx =>
    if new.lifetime ≠ 0 then (items.insertIdx (insertIdx.getD items.length) new, true)
    else (items, false)

/-- `nm_ndisc_add_route`.  Where `nm_ndisc_add_gateway` appends, it inserts at the front. -/
def ndiscAddRoute (routes : List NMNDiscRoute) (new : NMNDiscRoute) : List NMNDiscRoute × Bool :=
  if new.plen = 0 ∨ 128 < new.plen then (routes, false)
  else
    match searchLoop routeView new [] none routes with
    | .returned items changed => (items, changed)
    | .exhausted items insertIdx =>
      if new.lifetime ≠ 0 then (items.insertIdx (insertIdx.getD 0) new, true)
      else (items, false)

/-- `NM_NDISC_CONFIG_GATEWAYS`. -/
def configGateways : UInt32 := 0x2

/-- `NM_NDISC_CONFIG_ADDRESSES`. -/
def configAddresses : UInt32 := 0x4

/-- `NM_NDISC_CONFIG_ROUTES`. -/
def configRoutes : UInt32 := 0x8

/-- `NM_NDISC_CONFIG_DNS_SERVERS`. -/
def configDnsServers : UInt32 := 0x10

/-- `NM_NDISC_CONFIG_DNS_DOMAINS`. -/
def configDnsDomains : UInt32 := 0x20

/-- What the sweeps of an instance change besides its arrays. -/
structure SweepState where
  changed : UInt32
  /-- When the next item expires or must be refreshed. -/
  nextevent : Int
  solicited : Bool
  deriving DecidableEq, Repr

/-- The loop of `clean_gateways`, `clean_addresses` and `clean_routes`. -/
def cleanLoop {α : Type} (getExpiry : α → Int) (config : UInt32) (now : Int) :
    List α → SweepState → List α × SweepState
  | [], state => ([], state)
  | item :: rest, state =>
    match expiryNext now (getExpiry item) (some state.nextevent) with
    | (false, _) =>
      cleanLoop getExpiry config now rest { state with changed := state.changed ||| config }
    | (true, nextevent) =>
      let (items, last) := cleanLoop getExpiry config now rest
        { state with nextevent := nextevent.getD state.nextevent }
      (item :: items, last)

/-- The loop of `clean_dns_servers` and `clean_dns_domains`. -/
def cleanDnsLoop {α : Type} (timestamp lifetime : α → UInt32) (config : UInt32) (now : Int) :
    List α → SweepState → List α × SweepState
  | [], state => ([], state)
  | item :: rest, state =>
    let refresh := getExpiryHalf (timestamp item) (lifetime item)
    let keep (state : SweepState) :=
      let (items, last) := cleanDnsLoop timestamp lifetime config now rest state
      (item :: items, last)
    if refresh ≠ expiryInfinity then
      if (expiryNext now (getExpiryTime (timestamp item) (lifetime item)) none).1 = false then
        cleanDnsLoop timestamp lifetime config now rest
          { state with changed := state.changed ||| config }
      else if refresh ≤ now then keep { state with solicited := true }
      else if refresh < state.nextevent then keep { state with nextevent := refresh }
      else keep state
    else keep state

section

variable (now : Int) (data : NMNDiscDataInternal) (state : SweepState)

/-- `clean_gateways`. -/
def cleanGateways : NMNDiscDataInternal × SweepState :=
  let (items, state) := cleanLoop NMNDiscGateway.getExpiry configGateways now data.gateways state
  ({ data with gateways := items }, state)

/-- `clean_addresses`. -/
def cleanAddresses : NMNDiscDataInternal × SweepState :=
  let (items, state) := cleanLoop NMNDiscAddress.getExpiry configAddresses now data.addresses state
  ({ data with addresses := items }, state)

/-- `clean_routes`. -/
def cleanRoutes : NMNDiscDataInternal × SweepState :=
  let (items, state) := cleanLoop NMNDiscRoute.getExpiry configRoutes now data.routes state
  ({ data with routes := items }, state)

/-- `clean_dns_servers`. -/
def cleanDnsServers : NMNDiscDataInternal × SweepState :=
  let (items, state) := cleanDnsLoop NMNDiscDNSServer.timestamp NMNDiscDNSServer.lifetime
    configDnsServers now data.dnsServers state
  ({ data with dnsServers := items }, state)

/-- `clean_dns_domains`. -/
def cleanDnsDomains : NMNDiscDataInternal × SweepState :=
  let (items, state) := cleanDnsLoop NMNDiscDNSDomain.timestamp NMNDiscDNSDomain.lifetime
    configDnsDomains now data.dnsDomains state
  ({ data with dnsDomains := items }, state)

end

/-- The sweeps of `check_timestamps`. -/
def checkTimestamps (now : Int) (changed : UInt32) (data : NMNDiscDataInternal) :
    NMNDiscDataInternal × SweepState :=
  let state : SweepState := { changed := changed, nextevent := maxInt32, solicited := false }
  let (data, state) := cleanGateways now data state
  let (data, state) := cleanAddresses now data state
  let (data, state) := cleanRoutes now data state
  let (data, state) := cleanDnsServers now data state
  cleanDnsDomains now data state

inductive NDiscCall where
  | addGateway (new : NMNDiscGateway)
  | addRoute (new : NMNDiscRoute)
  | checkTimestamps (now : Int) (changed : UInt32)
  deriving Repr

def NDiscCall.apply (data : NMNDiscDataInternal) : NDiscCall → NMNDiscDataInternal
  | .addGateway new => { data with gateways := (ndiscAddGateway data.gateways new).1 }
  | .addRoute new => { data with routes := (ndiscAddRoute data.routes new).1 }
  | .checkTimestamps now changed => (NDisc.checkTimestamps now changed data).1

/-- What the assertions require of a call: a gateway has an address, a route has a prefix length
from 1 to 128, and a timestamp is positive and fits a signed number of 32 bits. -/
def NDiscCall.Admitted : NDiscCall → Prop
  | .addGateway new => new.address ≠ 0 ∧ 0 < new.timestamp ∧ new.timestamp.toNat ≤ maxInt32
  | .addRoute new => (new.plen ≠ 0 ∧ new.plen ≤ 128) ∧
      0 < new.timestamp ∧ new.timestamp.toNat ≤ maxInt32
  | .checkTimestamps _ _ => True

/-- Neighbor discovery with callers that respect the assertions. -/
def machine : GuardedMachine NMNDiscDataInternal NDiscCall where
  step := NDiscCall.apply
  guard _ call := call.Admitted

theorem cleanLoop_sublist {α : Type} (getExpiry : α → Int) (config : UInt32) (now : Int)
    (items : List α) (state : SweepState) :
    List.Sublist (cleanLoop getExpiry config now items state).1 items := by
  induction items generalizing state with
  | nil => exact List.Sublist.refl _
  | cons item rest ih =>
    rw [cleanLoop]
    split
    · exact (ih _).cons item
    · exact (ih _).cons_cons item

theorem checkTimestamps_gateways (now : Int) (changed : UInt32) (data : NMNDiscDataInternal) :
    List.Sublist (checkTimestamps now changed data).1.gateways data.gateways :=
  cleanLoop_sublist _ _ _ _ _

theorem checkTimestamps_routes (now : Int) (changed : UInt32) (data : NMNDiscDataInternal) :
    List.Sublist (checkTimestamps now changed data).1.routes data.routes :=
  cleanLoop_sublist _ _ _ _ _

end NetworkManager.NDisc
