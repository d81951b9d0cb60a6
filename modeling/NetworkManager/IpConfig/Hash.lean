import NetworkManager.IpConfig.Calls
import NetworkManager.Platform.PrefixOrder

/-!
# Relevant changes and the checksum

`nm_ip4_config_replace` tells whether relevant fields changed, and `nm_ip4_config_equal` compares
checksums over the bytes of hashed fields, one after the other without separators.  The two agree
unless fields differ that are not hashed completely, or the bytes are the same although the fields
end at different places.
-/

namespace NetworkManager.IPConfig

open List

/-- `hash_u32`, in the byte order of a little-endian host. -/
def hashU32 (n : UInt32) : List UInt8 :=
  [n.toUInt8, (n >>> 8).toUInt8, (n >>> 16).toUInt8, (n >>> 24).toUInt8]

/-- An address in `nm_ip4_config_hash`. -/
def hashAddress (address : NMPlatformIP4Address) : List UInt8 :=
  hashU32 address.address ++ (hashU32 address.plen.toUInt32 ++
    hashU32 (address.peerAddress &&& ip4PrefixToNetmask address.plen))

/-- A route in `nm_ip4_config_hash`. -/
def hashRoute (route : NMPlatformIP4Route) : List UInt8 :=
  hashU32 route.network ++ (hashU32 route.plen.toUInt32 ++
    (hashU32 route.gateway ++ hashU32 route.metric))

/-- A setting for multicast DNS or LLMNR in `nm_ip4_config_hash`. -/
def hashMdns (mdns : NMSettingConnectionMdns) : List UInt8 :=
  if mdns = .default then [] else hashU32 (UInt32.ofInt mdns.toInt)

/-- `nm_ip4_config_hash`: the bytes for the checksum. -/
def ip4ConfigHash (self : NMIP4ConfigPrivate) (dnsOnly : Bool) : List UInt8 :=
  (if dnsOnly then []
    else (objs self.addresses).flatMap hashAddress ++
      ((objs self.routeConfig.routes).flatMap hashRoute ++
        (self.nis.flatMap hashU32 ++ self.nisDomain.getD []))) ++
    (self.nameservers.flatMap hashU32 ++ (self.wins.flatMap hashU32 ++ (self.domains.flatten ++
      (self.searches.flatten ++ (self.dnsOptions.flatten ++
        (hashMdns self.mdns ++ hashMdns self.llmnr))))))

/-- `nm_ip4_config_equal`, with the checksum of a byte stream. -/
def ip4ConfigEqual {δ : Type} [DecidableEq δ] (checksum : List UInt8 → δ)
    (a b : Option NMIP4ConfigPrivate) : Bool :=
  checksum ((a.map fun config => ip4ConfigHash config false).getD []) =
    checksum ((b.map fun config => ip4ConfigHash config false).getD [])

structure RelevantFields where
  /-- Local address, prefix length and peer of each address. -/
  addresses : List (InAddr × UInt8 × InAddr)
  /-- Network, prefix length, gateway and metric of each route. -/
  routes : List (InAddr × UInt8 × InAddr × UInt32)
  nis : List InAddr
  nisDomain : Option Text
  nameservers : List InAddr
  wins : List InAddr
  domains : List Text
  searches : List Text
  dnsOptions : List Text
  /-- Whether multicast DNS is used. -/
  mdns : NMSettingConnectionMdns
  llmnr : NMSettingConnectionLlmnr
  deriving DecidableEq

/-- The relevant part of an address. -/
def addressKey (address : NMPlatformIP4Address) : InAddr × UInt8 × InAddr :=
  (address.address, address.plen, address.peerAddress)

/-- The relevant part of a route. -/
def routeKey (route : NMPlatformIP4Route) : InAddr × UInt8 × InAddr × UInt32 :=
  (route.network, route.plen, route.gateway, route.metric)

def relevantFields (config : NMIP4ConfigPrivate) : RelevantFields where
  addresses := (objs config.addresses).map addressKey
  routes := (objs config.routeConfig.routes).map routeKey
  nis := config.nis
  nisDomain := config.nisDomain
  nameservers := config.nameservers
  wins := config.wins
  domains := config.domains
  searches := config.searches
  dnsOptions := config.dnsOptions
  mdns := config.mdns
  llmnr := config.llmnr

/-- The host part of a peer does not count for the checksum. -/
def maskPeer (address : InAddr × UInt8 × InAddr) : InAddr × UInt8 × InAddr :=
  (address.1, address.2.1, address.2.2 &&& ip4PrefixToNetmask address.2.1)

def addressBytes (address : InAddr × UInt8 × InAddr) : List UInt8 :=
  hashU32 address.1 ++ (hashU32 address.2.1.toUInt32 ++
    hashU32 (address.2.2 &&& ip4PrefixToNetmask address.2.1))

def routeBytes (route : InAddr × UInt8 × InAddr × UInt32) : List UInt8 :=
  hashU32 route.1 ++ (hashU32 route.2.1.toUInt32 ++ (hashU32 route.2.2.1 ++ hashU32 route.2.2.2))

def RelevantFields.bytes (fields : RelevantFields) : List UInt8 :=
  fields.addresses.flatMap addressBytes ++ (fields.routes.flatMap routeBytes ++
    (fields.nis.flatMap hashU32 ++ (fields.nisDomain.getD [] ++
      (fields.nameservers.flatMap hashU32 ++ (fields.wins.flatMap hashU32 ++
        (fields.domains.flatMap id ++ (fields.searches.flatMap id ++
          (fields.dnsOptions.flatMap id ++ (hashMdns fields.mdns ++ hashMdns fields.llmnr)))))))))

/-- The fields as they count for the checksum: peers without their host part, and no difference
between no NIS domain and an empty one. -/
def RelevantFields.hashed (fields : RelevantFields) : RelevantFields :=
  { fields with
    addresses := fields.addresses.map maskPeer
    nisDomain := some (fields.nisDomain.getD []) }

/-- Where the fields end in the bytes for the checksum: how many addresses, routes and servers there
are, how long the names are, and whether settings are hashed at all. -/
structure Layout where
  addresses : Nat
  routes : Nat
  nis : Nat
  nisDomain : Nat
  nameservers : Nat
  wins : Nat
  domains : List Nat
  searches : List Nat
  dnsOptions : List Nat
  mdns : Bool
  llmnr : Bool
  deriving DecidableEq

/-- Where the fields of a configuration end. -/
def RelevantFields.layout (fields : RelevantFields) : Layout where
  addresses := fields.addresses.length
  routes := fields.routes.length
  nis := fields.nis.length
  nisDomain := (fields.nisDomain.getD []).length
  nameservers := fields.nameservers.length
  wins := fields.wins.length
  domains := fields.domains.map List.length
  searches := fields.searches.map List.length
  dnsOptions := fields.dnsOptions.map List.length
  mdns := fields.mdns = .default
  llmnr := fields.llmnr = .default

/-- Two configurations differ in host parts of peers or in whether there is an empty NIS domain, and
in nothing else that is relevant. -/
def DiffersUnhashed (dst src : NMIP4ConfigPrivate) : Prop :=
  (relevantFields dst).hashed = (relevantFields src).hashed ∧
    ((objs dst.addresses).map NMPlatformIP4Address.peerAddress ≠
        (objs src.addresses).map NMPlatformIP4Address.peerAddress ∨
      dst.nisDomain ≠ src.nisDomain)

/-- The fields of two configurations end at different places, but their bytes, one after the other,
are the same. -/
def SharesBytes (dst src : NMIP4ConfigPrivate) : Prop :=
  (relevantFields dst).layout ≠ (relevantFields src).layout ∧
    (relevantFields dst).bytes = (relevantFields src).bytes

theorem ip4ConfigHash_eq (config : NMIP4ConfigPrivate) :
    ip4ConfigHash config false = (relevantFields config).bytes := by
  unfold ip4ConfigHash RelevantFields.bytes relevantFields
  rw [if_neg Bool.false_ne_true]
  simp only [append_assoc, flatMap_map, flatMap_id]
  rfl

section Concatenation

variable {α β γ : Type} {part : α → List β} {value : α → γ}

theorem length_flatMap_congr {first second : List α}
    (lengths : first.map (fun item => (part item).length) =
      second.map fun item => (part item).length) :
    (first.flatMap part).length = (second.flatMap part).length := by
  rw [length_flatMap, length_flatMap, lengths]

theorem flatMap_inj (determined : ∀ a b, part a = part b → value a = value b)
    {first second : List α}
    (lengths : first.map (fun item => (part item).length) =
      second.map fun item => (part item).length)
    (same : first.flatMap part = second.flatMap part) : first.map value = second.map value := by
  induction first generalizing second with
  | nil =>
    have empty : second = [] := by simpa using lengths
    rw [empty]
  | cons item first ih =>
    cases second with
    | nil => simp at lengths
    | cons other second =>
      rw [map_cons, map_cons, List.cons.injEq] at lengths
      rw [flatMap_cons, flatMap_cons] at same
      obtain ⟨head_same, tail_same⟩ := append_inj same lengths.1
      rw [map_cons, map_cons, determined _ _ head_same, ih lengths.2 tail_same]

theorem flatMap_append_inj (determined : ∀ a b, part a = part b → value a = value b)
    {first second : List α} {rest others : List β}
    (lengths : first.map (fun item => (part item).length) =
      second.map fun item => (part item).length)
    (same : first.flatMap part ++ rest = second.flatMap part ++ others) :
    first.map value = second.map value ∧ rest = others := by
  obtain ⟨parts_same, rest_same⟩ := append_inj same (length_flatMap_congr lengths)
  exact ⟨flatMap_inj determined lengths parts_same, rest_same⟩

theorem lengths_of_fixed {size : Nat} (fixed : ∀ item, (part item).length = size)
    {first second : List α} (same : first.length = second.length) :
    first.map (fun item => (part item).length) = second.map fun item => (part item).length := by
  simp only [fixed, map_const', same]

end Concatenation

@[simp] theorem length_hashU32 (n : UInt32) : (hashU32 n).length = 4 := rfl

theorem hashU32_injective {a b : UInt32} (same : hashU32 a = hashU32 b) : a = b := by
  unfold hashU32 at same
  simp only [List.cons.injEq, and_true, ← UInt8.toNat_inj, UInt32.toNat_toUInt8,
    UInt32.toNat_shiftRight] at same
  apply UInt32.toNat_inj.mp
  have a_bound := a.toNat_lt
  have b_bound := b.toNat_lt
  simp [Nat.shiftRight_eq_div_pow] at same
  omega

theorem toUInt32_injective {a b : UInt8} (same : a.toUInt32 = b.toUInt32) : a = b := by
  simpa [← UInt32.toNat_inj, UInt8.toNat_inj] using same

theorem addressBytes_determines (a b : InAddr × UInt8 × InAddr)
    (same : addressBytes a = addressBytes b) : maskPeer a = maskPeer b := by
  unfold addressBytes at same
  obtain ⟨address_same, same⟩ := append_inj same rfl
  obtain ⟨plen_same, peer_same⟩ := append_inj same rfl
  unfold maskPeer
  rw [hashU32_injective address_same, hashU32_injective peer_same,
    toUInt32_injective (hashU32_injective plen_same)]

theorem routeBytes_determines (a b : InAddr × UInt8 × InAddr × UInt32)
    (same : routeBytes a = routeBytes b) : id a = id b := by
  unfold routeBytes at same
  obtain ⟨network_same, same⟩ := append_inj same rfl
  obtain ⟨plen_same, same⟩ := append_inj same rfl
  obtain ⟨gateway_same, metric_same⟩ := append_inj same rfl
  exact Prod.ext (hashU32_injective network_same)
    (Prod.ext (toUInt32_injective (hashU32_injective plen_same))
      (Prod.ext (hashU32_injective gateway_same) (hashU32_injective metric_same)))

theorem hashU32_determines (a b : UInt32) (same : hashU32 a = hashU32 b) : id a = id b :=
  hashU32_injective same

theorem length_hashMdns {a b : NMSettingConnectionMdns}
    (same : decide (a = .default) = decide (b = .default)) :
    (hashMdns a).length = (hashMdns b).length := by
  unfold hashMdns
  cases a <;> cases b <;> first | rfl | cases same

theorem hashMdns_injective {a b : NMSettingConnectionMdns} (same : hashMdns a = hashMdns b) :
    a = b := by
  cases a <;> cases b <;> first | rfl | exact absurd same (by decide)

/-- Fields that end at the same places can be read back from their bytes, as far as they count for
the checksum. -/
theorem hashed_of_bytes {a b : RelevantFields} (layout : a.layout = b.layout)
    (same : a.bytes = b.bytes) : a.hashed = b.hashed := by
  unfold RelevantFields.layout at layout
  simp only [Layout.mk.injEq] at layout
  obtain ⟨addresses, routes, nis, nisDomain, nameservers, wins, domains, searches, options, mdns,
    llmnr⟩ := layout
  have address_size : ∀ address, (addressBytes address).length = 12 := fun _ => rfl
  have route_size : ∀ route, (routeBytes route).length = 16 := fun _ => rfl
  unfold RelevantFields.bytes at same
  obtain ⟨addresses_same, same⟩ :=
    flatMap_append_inj addressBytes_determines (lengths_of_fixed address_size addresses) same
  obtain ⟨routes_same, same⟩ :=
    flatMap_append_inj routeBytes_determines (lengths_of_fixed route_size routes) same
  obtain ⟨nis_same, same⟩ :=
    flatMap_append_inj hashU32_determines (lengths_of_fixed length_hashU32 nis) same
  obtain ⟨nisDomain_same, same⟩ := append_inj same nisDomain
  obtain ⟨nameservers_same, same⟩ :=
    flatMap_append_inj hashU32_determines (lengths_of_fixed length_hashU32 nameservers) same
  obtain ⟨wins_same, same⟩ :=
    flatMap_append_inj hashU32_determines (lengths_of_fixed length_hashU32 wins) same
  have text_determines : ∀ first second : Text, id first = id second → id first = id second :=
    fun _ _ texts_same => texts_same
  obtain ⟨domains_same, same⟩ := flatMap_append_inj text_determines domains same
  obtain ⟨searches_same, same⟩ := flatMap_append_inj text_determines searches same
  obtain ⟨options_same, same⟩ := flatMap_append_inj text_determines options same
  obtain ⟨mdns_same, llmnr_same⟩ := append_inj same (length_hashMdns mdns)
  rw [map_id, map_id] at routes_same nis_same nameservers_same wins_same
  rw [map_id, map_id] at domains_same searches_same options_same
  simp only [RelevantFields.hashed, RelevantFields.mk.injEq, Option.some.injEq]
  exact ⟨addresses_same, routes_same, nis_same, nisDomain_same, nameservers_same, wins_same,
    domains_same, searches_same, options_same, hashMdns_injective mdns_same,
    hashMdns_injective llmnr_same⟩

theorem compareObjs_relevant {α κ : Type} [NMPClass α] [LawfulNMPClass α]
    {isRelevant : α → α → Bool} {key : α → κ} {srcs dsts : List α}
    (relevant_iff : ∀ src ∈ srcs, ∀ dst ∈ dsts, isRelevant src dst = false ↔ key src = key dst)
    (areEqual : Bool) :
    (compareObjs isRelevant srcs dsts areEqual).2 = false ↔ srcs.map key = dsts.map key := by
  induction srcs generalizing dsts areEqual with
  | nil => cases dsts <;> simp [compareObjs]
  | cons src srcs ih =>
    cases dsts with
    | nil => simp [compareObjs]
    | cons dst dsts =>
      have rest_iff := fun areEqual => ih (fun other other_mem another another_mem =>
        relevant_iff other (mem_cons_of_mem src other_mem) another
          (mem_cons_of_mem dst another_mem)) areEqual
      have head_iff := relevant_iff src mem_cons_self dst mem_cons_self
      unfold compareObjs
      rw [map_cons, map_cons, List.cons.injEq, ← head_iff]
      split
      · rename_i equal
        have no_change : isRelevant src dst = false := by
          rw [head_iff, objEqual_iff.mp equal]
        rw [rest_iff]
        simp [no_change]
      · split
        · rename_i changed
          simp [changed]
        · rename_i unchanged
          rw [rest_iff]
          simp [unchanged]

theorem addressIsRelevant_iff (src dst : NMPlatformIP4Address) :
    addressIsRelevant src dst = false ↔ addressKey src = addressKey dst := by
  unfold addressIsRelevant addressKey
  simp

/-- Valid routes have no host bits, so that the networks are the same if their prefixes are. -/
theorem routeIsRelevant_iff {src dst : NMPlatformIP4Route} (src_valid : routeValid src = true)
    (dst_valid : routeValid dst = true) :
    routeIsRelevant src dst = false ↔ routeKey src = routeKey dst := by
  unfold routeValid at src_valid dst_valid
  rw [decide_eq_true_eq] at src_valid dst_valid
  unfold routeIsRelevant routeKey ip4AddressSamePrefix
  simp only [decide_eq_false_iff_not, not_or, not_not, Ordering.isEq_iff_eq_eq,
    ip4AddressSamePrefixCmp_eq, Prod.mk.injEq, ne_eq]
  constructor
  · rintro ⟨plen, network, gateway, metric⟩
    refine ⟨?_, plen, gateway, metric⟩
    have cleared := congrArg htonl network
    rw [htonl_htonl, htonl_htonl] at cleared
    rw [src_valid.2, dst_valid.2, cleared, plen]
  · rintro ⟨network, plen, gateway, metric⟩
    exact ⟨plen, by rw [network], gateway, metric⟩

theorem relevantChanges_iff {dst src : NMIP4ConfigPrivate} (dst_valid : dst.Valid)
    (src_valid : src.Valid) :
    (ip4ConfigReplace dst src).relevantChanges = false ↔ relevantFields dst = relevantFields src := by
  have address_iff : ∀ a ∈ objs src.addresses, ∀ b ∈ objs dst.addresses,
      addressIsRelevant a b = false ↔ addressKey a = addressKey b :=
    fun a _ b _ => addressIsRelevant_iff a b
  have route_iff : ∀ a ∈ objs src.routeConfig.routes, ∀ b ∈ objs dst.routeConfig.routes,
      routeIsRelevant a b = false ↔ routeKey a = routeKey b :=
    fun a a_mem b b_mem => routeIsRelevant_iff (src_valid.routes_valid a a_mem)
      (dst_valid.routes_valid b b_mem)
  have addresses_iff := compareObjs_relevant address_iff true
  have routes_iff := compareObjs_relevant route_iff true
  unfold ip4ConfigReplace relevantFields
  dsimp only
  simp only [decide_eq_false_iff_not, not_or, not_not, Bool.not_eq_true, addresses_iff, routes_iff,
    RelevantFields.mk.injEq, ne_eq]
  constructor
  · rintro ⟨addresses, routes, nameservers, domains, searches, options, mdns, llmnr, nis, nisDomain,
      wins⟩
    exact ⟨addresses.symm, routes.symm, nis.symm, nisDomain.symm, nameservers.symm, wins.symm,
      domains.symm, searches.symm, options.symm, mdns.symm, llmnr.symm⟩
  · rintro ⟨addresses, routes, nis, nisDomain, nameservers, wins, domains, searches, options, mdns,
      llmnr⟩
    exact ⟨addresses.symm, routes.symm, nameservers.symm, domains.symm, searches.symm,
      options.symm, mdns.symm, llmnr.symm, nis.symm, nisDomain.symm, wins.symm⟩

theorem relevantFields_eq_iff {dst src : NMIP4ConfigPrivate}
    (hashed : (relevantFields dst).hashed = (relevantFields src).hashed) :
    relevantFields dst = relevantFields src ↔
      (objs dst.addresses).map NMPlatformIP4Address.peerAddress =
          (objs src.addresses).map NMPlatformIP4Address.peerAddress ∧
        dst.nisDomain = src.nisDomain := by
  simp only [RelevantFields.hashed, relevantFields, RelevantFields.mk.injEq, map_map] at *
  obtain ⟨addresses, routes, nis, -, rest⟩ := hashed
  constructor
  · rintro ⟨addresses_same, -, -, nisDomain, -⟩
    refine ⟨?_, nisDomain⟩
    have peers := congrArg (map fun key : InAddr × UInt8 × InAddr => key.2.2) addresses_same
    rw [map_map, map_map] at peers
    exact peers
  · rintro ⟨peers, nisDomain⟩
    refine ⟨?_, routes, nis, nisDomain, rest⟩
    generalize objs dst.addresses = dsts at addresses peers
    generalize objs src.addresses = srcs at addresses peers
    induction dsts generalizing srcs with
    | nil =>
      have empty : srcs = [] := by simpa using peers
      rw [empty]
    | cons address dsts ih =>
      cases srcs with
      | nil => simp at peers
      | cons other srcs =>
        simp only [map_cons, List.cons.injEq] at addresses peers ⊢
        obtain ⟨masked, addresses⟩ := addresses
        obtain ⟨peer, peers⟩ := peers
        refine ⟨?_, ih srcs addresses peers⟩
        simp only [Function.comp_apply, maskPeer, addressKey, Prod.mk.injEq] at masked ⊢
        exact ⟨masked.1, masked.2.1, peer⟩

theorem hashed_bytes (fields : RelevantFields) : fields.hashed.bytes = fields.bytes := by
  have masked : ∀ address, addressBytes (maskPeer address) = addressBytes address := by
    intro address
    unfold addressBytes maskPeer
    dsimp only
    rw [UInt32.and_assoc, UInt32.and_self]
  unfold RelevantFields.bytes RelevantFields.hashed
  dsimp only
  rw [flatMap_map]
  simp only [masked, Option.getD_some]

theorem bytes_eq_iff (dst src : NMIP4ConfigPrivate) :
    (relevantFields dst).bytes = (relevantFields src).bytes ↔
      (relevantFields dst).hashed = (relevantFields src).hashed ∨ SharesBytes dst src := by
  constructor
  · intro same
    by_cases layout : (relevantFields dst).layout = (relevantFields src).layout
    · exact Or.inl (hashed_of_bytes layout same)
    · exact Or.inr ⟨layout, same⟩
  · rintro (hashed | shared)
    · rw [← hashed_bytes, hashed, hashed_bytes]
    · exact shared.2

/-- The relevant changes are the negation of equal checksums exactly if the configurations do not
differ only in what is not hashed, and do not share their bytes with other fields. -/
theorem relevantChanges_agree_iff {δ : Type} [DecidableEq δ] (checksum : List UInt8 → δ)
    (injective : Function.Injective checksum) (dst src : NMIP4Config) :
    (ip4ConfigReplace dst.toNMIP4ConfigPrivate src.toNMIP4ConfigPrivate).relevantChanges =
        !ip4ConfigEqual checksum (some dst.toNMIP4ConfigPrivate) (some src.toNMIP4ConfigPrivate) ↔
      ¬ DiffersUnhashed dst.toNMIP4ConfigPrivate src.toNMIP4ConfigPrivate ∧
        ¬ SharesBytes dst.toNMIP4ConfigPrivate src.toNMIP4ConfigPrivate := by
  obtain ⟨dst, dst_valid⟩ := dst
  obtain ⟨src, src_valid⟩ := src
  dsimp only
  have changes_iff := relevantChanges_iff dst_valid src_valid
  have equal_iff : ip4ConfigEqual checksum (some dst) (some src) = true ↔
      (relevantFields dst).hashed = (relevantFields src).hashed ∨ SharesBytes dst src := by
    unfold ip4ConfigEqual
    rw [decide_eq_true_eq, injective.eq_iff, ← bytes_eq_iff, ← ip4ConfigHash_eq, ← ip4ConfigHash_eq]
    rfl
  have same_of_fields : relevantFields dst = relevantFields src →
      (relevantFields dst).hashed = (relevantFields src).hashed := by
    intro same
    rw [same]
  have agree_iff : (ip4ConfigReplace dst src).relevantChanges =
      (!ip4ConfigEqual checksum (some dst) (some src)) ↔
      (relevantFields dst = relevantFields src ↔
        (relevantFields dst).hashed = (relevantFields src).hashed ∨ SharesBytes dst src) := by
    rw [← changes_iff, ← equal_iff]
    cases (ip4ConfigReplace dst src).relevantChanges <;>
      cases ip4ConfigEqual checksum (some dst) (some src) <;> decide
  rw [agree_iff]
  unfold DiffersUnhashed
  constructor
  · intro agree
    refine ⟨?_, ?_⟩
    · rintro ⟨hashed, differs⟩
      obtain ⟨peers, nisDomain⟩ := (relevantFields_eq_iff hashed).mp (agree.mpr (Or.inl hashed))
      rcases differs with differs | differs
      · exact differs peers
      · exact differs nisDomain
    · intro shared
      refine shared.1 ?_
      rw [agree.mpr (Or.inr shared)]
  · rintro ⟨not_differs, not_shared⟩
    refine ⟨fun same => Or.inl (same_of_fields same), ?_⟩
    rintro (hashed | shared)
    · refine (relevantFields_eq_iff hashed).mpr ?_
      by_contra differs
      exact not_differs ⟨hashed, not_and_or.mp differs⟩
    · exact absurd shared not_shared

/-- Calls that give one configuration two domains and another one their concatenation. -/
def domainCalls : List Ip4Call :=
  [.domains 0 (.add [97]), .domains 0 (.add [98]), .domains 1 (.add [97, 98])]

theorem domainCalls_lawful : ip4Machine.Lawful (ip4Start fun _ => 1) domainCalls :=
  ⟨trivial, trivial, trivial, trivial⟩

/-- Two configurations with other name servers. -/
def serverCalls : List Ip4Call :=
  [.nameservers 0 (.add 0x01010101), .nameservers 1 (.add 0x08080808)]

theorem serverCalls_lawful : ip4Machine.Lawful (ip4Start fun _ => 1) serverCalls :=
  ⟨trivial, trivial, trivial⟩

/-- Other name servers are a relevant change, and the checksums differ. -/
theorem relevantChanges_agree_servers :
    let dst := reachedConfig _ serverCalls_lawful 0
    let src := reachedConfig _ serverCalls_lawful 1
    (ip4ConfigReplace dst.toNMIP4ConfigPrivate src.toNMIP4ConfigPrivate).relevantChanges =
      !ip4ConfigEqual id (some dst.toNMIP4ConfigPrivate) (some src.toNMIP4ConfigPrivate) := by
  refine (relevantChanges_agree_iff id Function.injective_id
    (reachedConfig _ serverCalls_lawful 0) (reachedConfig _ serverCalls_lawful 1)).mpr ⟨?_, ?_⟩
  · rintro ⟨hashed, -⟩
    exact absurd hashed (by decide)
  · rintro ⟨layout, -⟩
    exact layout (by decide)

/-- The domains `a` and `b` are replaced by the domain `ab`: the change is relevant, but the
checksums are the same. -/
theorem relevantChanges_agree_fails :
    let dst := reachedConfig _ domainCalls_lawful 0
    let src := reachedConfig _ domainCalls_lawful 1
    (ip4ConfigReplace dst.toNMIP4ConfigPrivate src.toNMIP4ConfigPrivate).relevantChanges = true ∧
      ip4ConfigEqual id (some dst.toNMIP4ConfigPrivate) (some src.toNMIP4ConfigPrivate) = true := by
  decide

end NetworkManager.IPConfig
