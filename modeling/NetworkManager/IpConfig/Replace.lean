import NetworkManager.IpConfig.Invariant

/-!
# Replacing a configuration

`nm_ip4_config_replace` compares and copies each group of fields on its own.  Afterwards the
configuration holds what the other one holds, and the function tells whether it did before.
-/

namespace NetworkManager.IPConfig

section Compare

variable {α : Type} [NMPClass α] [LawfulNMPClass α]

theorem compareObjs_equal (isRelevant : α → α → Bool) (srcs dsts : List α) (areEqual : Bool) :
    (compareObjs isRelevant srcs dsts areEqual).1 = true ↔ areEqual = true ∧ srcs = dsts := by
  induction srcs generalizing dsts areEqual with
  | nil => cases dsts <;> simp [compareObjs]
  | cons src srcs ih =>
    cases dsts with
    | nil => simp [compareObjs]
    | cons dst dsts =>
      unfold compareObjs
      by_cases equal : objEqual src dst = true
      · rw [if_pos equal, ih, objEqual_iff.mp equal]
        simp
      · rw [if_neg equal]
        have different : src ≠ dst := fun same => equal (objEqual_iff.mpr same)
        split
        · simp [different]
        · rw [ih]
          simp [different]

theorem compareObjs_self (isRelevant : α → α → Bool) (items : List α) (areEqual : Bool) :
    compareObjs isRelevant items items areEqual = (areEqual, false) := by
  induction items with
  | nil => rfl
  | cons item items ih =>
    unfold compareObjs
    rw [if_pos (objEqual_iff.mpr rfl), ih]

end Compare

theorem replaceItems_eq {α : Type} [DecidableEq α] {accept : α → Option α} {src : List α}
    (valid : UniqueList.Valid accept src) (dst : List α) :
    replaceItems (UniqueList.add accept) dst src = src := by
  unfold replaceItems
  split
  · rename_i same
    exact same.symm
  · exact UniqueList.foldl_add_nil valid

variable {src : NMIP4ConfigPrivate}

theorem objs_replaceAddresses (valid : src.Valid) (dst : List (Entry NMPlatformIP4Address)) :
    objs (replaceAddresses src.ifindex dst src.addresses) = objs src.addresses := by
  unfold replaceAddresses
  have unchanged : ∀ (entries : List (Entry NMPlatformIP4Address)),
      ∀ address ∈ objs src.addresses,
        (addObj entries src.ifindex address false true).entries =
          (addObjTo entries address false true).entries := by
    intro entries address mem
    unfold addObj
    rw [← valid.addresses_ifindex address mem, LawfulNMPClass.setIfindex_self]
  rw [List.foldl_ext _ _ _ unchanged, dirtyRemoveIdx_foldl valid.addresses]
  unfold objs
  rw [List.map_map]
  exact List.map_id' _

/-- What a configuration holds. -/
structure Content where
  ifindex : Int
  addresses : List NMPlatformIP4Address
  routes : List NMPlatformIP4Route
  nameservers : List InAddr
  domains : List Text
  searches : List Text
  dnsOptions : List Text
  dnsPriority : Int
  /-- Whether multicast DNS is used. -/
  mdns : NMSettingConnectionMdns
  llmnr : NMSettingConnectionLlmnr
  nis : List InAddr
  nisDomain : Option Text
  wins : List InAddr
  mtu : UInt32
  mtuSource : Nat
  metered : Bool
  deriving DecidableEq, Repr

def NMIP4ConfigPrivate.content (config : NMIP4ConfigPrivate) : Content where
  ifindex := config.ifindex
  addresses := objs config.addresses
  routes := objs config.routeConfig.routes
  nameservers := config.nameservers
  domains := config.domains
  searches := config.searches
  dnsOptions := config.dnsOptions
  dnsPriority := config.dnsPriority
  mdns := config.mdns
  llmnr := config.llmnr
  nis := config.nis
  nisDomain := config.nisDomain
  wins := config.wins
  mtu := config.mtu
  mtuSource := config.mtuSource
  metered := config.metered

theorem NMIP4ConfigPrivate.Valid.of_content {config other : NMIP4ConfigPrivate}
    (valid : other.Valid) (same : config.content = other.content) : config.Valid := by
  unfold NMIP4ConfigPrivate.content at same
  simp only [Content.mk.injEq] at same
  obtain ⟨ifindex, addresses, routes, nameservers, domains, searches, options, -, -, -, nis, -, wins,
    mtu, mtuSource, -⟩ := same
  refine ⟨⟨?_, ?_⟩, ?_, ?_, ?_, ?_, ?_, ?_, ?_, ?_, ?_, ?_⟩
  · rw [routes]
    exact valid.routes.distinct
  · rw [routes]
    intro route mem
    exact (valid.routes.ifindex route mem).trans ifindex.symm
  · rw [routes]
    exact valid.routes_valid
  · rw [addresses]
    exact valid.addresses
  · rw [addresses, ifindex]
    exact valid.addresses_ifindex
  · rw [nameservers]
    exact valid.nameservers
  · rw [domains]
    exact valid.domains
  · rw [searches]
    exact valid.searches
  · rw [options]
    exact valid.dnsOptions
  · rw [nis]
    exact valid.nis
  · rw [wins]
    exact valid.wins
  · rw [mtu, mtuSource]
    exact valid.mtu

theorem content_replace (valid : src.Valid) (dst : NMIP4ConfigPrivate) :
    (ip4ConfigReplace dst src).config.content = src.content := by
  obtain ⟨ifindex_eq, routes_eq, -⟩ := replaceRoutes_eq valid.routes dst.routeConfig
  have addresses_eq : objs (if (compareObjs addressIsRelevant (objs src.addresses)
      (objs dst.addresses) true).1 then dst.addresses
      else replaceAddresses src.ifindex dst.addresses src.addresses) = objs src.addresses := by
    split
    · rename_i equal
      exact ((compareObjs_equal _ _ _ _).mp equal).2.symm
    · exact objs_replaceAddresses valid dst.addresses
  have mtu_eq : ∀ config, config = (if src.mtu ≠ dst.mtu ∨ src.mtuSource ≠ dst.mtuSource then
      setMtu dst src.mtu src.mtuSource else dst) →
      config.mtu = src.mtu ∧ config.mtuSource = src.mtuSource := by
    rintro config rfl
    split
    · refine ⟨rfl, ?_⟩
      unfold setMtu
      dsimp only
      split
      · rename_i zero
        exact (valid.mtu zero).symm
      · rfl
    · rename_i same
      obtain ⟨mtu_same, source_same⟩ := not_or.mp same
      exact ⟨(not_not.mp mtu_same).symm, (not_not.mp source_same).symm⟩
  unfold ip4ConfigReplace NMIP4ConfigPrivate.content
  dsimp only
  rw [addresses_eq, routes_eq, (mtu_eq _ rfl).1, (mtu_eq _ rfl).2]
  have nameservers_eq : replaceItems addNameserver dst.nameservers src.nameservers =
      src.nameservers := replaceItems_eq valid.nameservers _
  have domains_eq : replaceItems checkAndAddDomain dst.domains src.domains = src.domains :=
    replaceItems_eq valid.domains _
  have searches_eq : replaceItems checkAndAddDomain dst.searches src.searches = src.searches :=
    replaceItems_eq valid.searches _
  have options_eq : replaceItems addDnsOption dst.dnsOptions src.dnsOptions = src.dnsOptions :=
    replaceItems_eq valid.dnsOptions _
  have nis_eq : replaceItems addNisServer dst.nis src.nis = src.nis := replaceItems_eq valid.nis _
  have wins_eq : replaceItems addWins dst.wins src.wins = src.wins := replaceItems_eq valid.wins _
  rw [nameservers_eq, domains_eq, searches_eq, options_eq, nis_eq, wins_eq]
  unfold NMIP4ConfigPrivate.ifindex
  rw [ifindex_eq]

theorem changed_replace (dst src : NMIP4ConfigPrivate) :
    (ip4ConfigReplace dst src).changed = false ↔ dst.content = src.content := by
  have addresses_iff := compareObjs_equal addressIsRelevant (objs src.addresses)
    (objs dst.addresses) true
  have routes_iff := compareObjs_equal routeIsRelevant (objs src.routeConfig.routes)
    (objs dst.routeConfig.routes) true
  constructor
  · intro unchanged
    simp only [ip4ConfigReplace, Bool.or_eq_false_iff, decide_eq_false_iff_not, not_or, not_not,
      Bool.not_eq_true', ne_eq, Bool.not_eq_false] at unchanged
    obtain ⟨⟨-, -, nameservers, domains, searches, options, mdns, llmnr, nis, nisDomain, wins⟩,
      ifindex, addresses, routes, priority, ⟨mtu, mtuSource⟩, metered⟩ := unchanged
    rw [addresses_iff] at addresses
    rw [routes_iff] at routes
    unfold NMIP4ConfigPrivate.content
    rw [ifindex, addresses.2, routes.2, nameservers, domains, searches, options, priority, mdns,
      llmnr, nis, nisDomain, wins, mtu, mtuSource, metered]
  · intro same
    unfold NMIP4ConfigPrivate.content at same
    simp only [Content.mk.injEq] at same
    obtain ⟨ifindex, addresses, routes, nameservers, domains, searches, options, priority, mdns,
      llmnr, nis, nisDomain, wins, mtu, mtuSource, metered⟩ := same
    simp only [ip4ConfigReplace, ifindex, addresses, routes, nameservers, domains, searches,
      options, priority, mdns, llmnr, nis, nisDomain, wins, mtu, mtuSource, metered,
      compareObjs_self]
    simp

theorem NMIP4ConfigPrivate.Valid.replace (valid : src.Valid) (dst : NMIP4ConfigPrivate) :
    (ip4ConfigReplace dst src).config.Valid :=
  valid.of_content (content_replace valid dst)

/-- Replacing gives a configuration everything that the other one holds, and tells that nothing
changed exactly if it held the same before. -/
theorem replace_copies (dst src : NMIP4Config) :
    (ip4ConfigReplace dst.toNMIP4ConfigPrivate src.toNMIP4ConfigPrivate).config.content =
        src.content ∧
      ((ip4ConfigReplace dst.toNMIP4ConfigPrivate src.toNMIP4ConfigPrivate).changed = false ↔
        dst.content = src.content) :=
  ⟨content_replace src.valid _, changed_replace _ _⟩

end NetworkManager.IPConfig
