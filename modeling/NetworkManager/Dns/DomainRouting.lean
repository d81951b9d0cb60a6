import NetworkManager.Library.Comparison
import NetworkManager.Library.ListSort
import NetworkManager.Library.Shadowing
import Mathlib.Data.List.Infix

/-!
# Which name servers answer for a domain

The manager tracks the IP configurations with their search domains and priorities.  A domain is
dropped from a configuration if a configuration that comes first has it, or has a parent domain with
a negative priority.  The code decides this with a table of the domains that were not dropped so
far.  This file finds the rule behind the table, which does not depend on the order of the
configurations.
-/

namespace NetworkManager.Dns

open List

/-- A search domain or domain of an IP configuration, which is never empty. -/
abbrev Domain := {domain : List Char // domain ≠ []}

def wildcard : Domain := ⟨['~'], by decide⟩

/-- `nm_utils_parse_dns_domain`: the domain without its routing prefix. -/
def parseDnsDomain (domain : Domain) : List Char :=
  if domain.val.head? = some '~' then domain.val.tail else domain.val

/-- `NMDnsIPConfigType`, without the value for a configuration that is removed. -/
inductive NMDnsIPConfigType where
  | default
  | bestDevice
  | vpn
  deriving DecidableEq, Repr

def NMDnsIPConfigType.toInt : NMDnsIPConfigType → Int
  | .default => 0
  | .bestDevice => 1
  | .vpn => 2

/-- `NMIPConfig`, as the manager sees it. -/
structure NMIPConfig where
  /-- Whether it is an `NMIP4Config`. -/
  isIp4 : Bool
  /-- `nm_ip_config_get_num_nameservers`. -/
  numNameservers : Nat
  /-- `nm_ip_config_get_dns_priority`. -/
  dnsPriority : Int
  searches : List Domain
  domains : List Domain
  /-- Whether `nm_ip_config_best_default_route_get` finds a route. -/
  hasDefaultRoute : Bool
  /-- What `get_ip_rdns_domains` gives for the addresses and routes. -/
  rdnsDomains : Option (List (List Char))
  deriving DecidableEq

/-- `NMDnsIPConfigData`. -/
structure NMDnsIPConfigData where
  object : Nat
  ipConfig : NMIPConfig
  ipConfigType : NMDnsIPConfigType
  search : Option (List Domain)
  reverse : Option (List (List Char))
  deriving DecidableEq

/-- `_ip_config_lst_cmp`. -/
def ipConfigLstCmp (a b : NMDnsIPConfigData) : Ordering :=
  (compare a.ipConfig.dnsPriority b.ipConfig.dnsPriority).then
    (compare b.ipConfigType.toInt a.ipConfigType.toInt)

theorem ipConfigLstCmp_lawful : LawfulCmpOn Set.univ ipConfigLstCmp :=
  (LawfulCmpOn.on fun ipData => ipData.ipConfig.dnsPriority).andThen
    (LawfulCmpOn.on fun ipData : NMDnsIPConfigData => ipData.ipConfigType.toInt).flip

variable (ipDatas : List NMDnsIPConfigData)

theorem sorted_sort :
    ListSort.Sorted ipConfigLstCmp (ListSort.sort ipConfigLstCmp ipDatas) := by
  refine ListSort.sorted_sort ⟨?_, ?_⟩
  · intro a _ b _
    rw [ipConfigLstCmp_lawful.swap a trivial b trivial]
    cases ipConfigLstCmp a b <;> simp
  · intro a _ b _ c _
    exact ipConfigLstCmp_lawful.trans a trivial b trivial c trivial

theorem dnsPriority_le {a b : NMDnsIPConfigData} (le : (ipConfigLstCmp a b).isLE = true) :
    a.ipConfig.dnsPriority ≤ b.ipConfig.dnsPriority := by
  rw [ipConfigLstCmp, Ordering.isLE_then_iff_or] at le
  rcases le with less | ⟨same, _⟩
  · exact (compare_lt_iff_lt.mp less).le
  · exact (Std.compare_eq_iff_eq.mp same).le

/-- What the order depends on. -/
def NMDnsIPConfigData.rank (ipData : NMDnsIPConfigData) : Int × NMDnsIPConfigType :=
  (ipData.ipConfig.dnsPriority, ipData.ipConfigType)

/-- A list stays sorted while the priorities and types stay the same. -/
theorem sorted_of_rank {before after : List NMDnsIPConfigData}
    (same : after.map NMDnsIPConfigData.rank = before.map NMDnsIPConfigData.rank)
    (sorted : ListSort.Sorted ipConfigLstCmp before) : ListSort.Sorted ipConfigLstCmp after := by
  have by_rank : ∀ ipDatas, ListSort.Sorted ipConfigLstCmp ipDatas ↔
      (ipDatas.map NMDnsIPConfigData.rank).Pairwise fun a b =>
        ((compare a.1 b.1).then (compare b.2.toInt a.2.toInt)).isLE = true := by
    intro ipDatas
    rw [pairwise_map]
    exact Iff.rfl
  rw [by_rank, same, ← by_rank]
  exact sorted

/-- `NMDnsManager`, as far as it tracks IP configurations. -/
structure NMDnsManager where
  /-- `ip_config_lst_head`. -/
  ipConfigLst : List NMDnsIPConfigData
  /-- `ip_config_lst_need_sort`. -/
  needSort : Bool
  /-- `best_ip_config_4` and `best_ip_config_6`. -/
  bestIpConfig : Bool → Option Nat
  /-- The list is sorted, unless it is noted that it may not be. -/
  sorted : needSort = false → ListSort.Sorted ipConfigLstCmp ipConfigLst

namespace NMDnsManager

def new : NMDnsManager where
  ipConfigLst := []
  needSort := false
  bestIpConfig := fun _ => none
  sorted := fun _ => List.Pairwise.nil

def find (self : NMDnsManager) (object : Nat) : Option NMDnsIPConfigData :=
  self.ipConfigLst.find? fun ipData => ipData.object = object

section

variable (self : NMDnsManager)

/-- `nm_dns_manager_set_ip_config` with `NM_DNS_IP_CONFIG_TYPE_REMOVED`. -/
def removeIpConfig (object : Nat) : NMDnsManager where
  ipConfigLst := self.ipConfigLst.filter fun ipData => ipData.object ≠ object
  needSort := self.needSort
  bestIpConfig := fun isIp4 =>
    if self.bestIpConfig isIp4 = some object then none else self.bestIpConfig isIp4
  sorted := fun known => (self.sorted known).sublist List.filter_sublist

def trackIpConfig (object : Nat) (ipConfig : NMIPConfig) (ipConfigType : NMDnsIPConfigType) :
    List NMDnsIPConfigData :=
  if (self.find object).isNone then
    self.ipConfigLst ++ [⟨object, ipConfig, ipConfigType, none, none⟩]
  else
    self.ipConfigLst.map fun ipData =>
      if ipData.object = object then { ipData with ipConfigType := ipConfigType } else ipData

/-- `nm_dns_manager_set_ip_config` with another type, up to the update that it triggers. -/
def setIpConfig (object : Nat) (ipConfig : NMIPConfig) (ipConfigType : NMDnsIPConfigType) :
    NMDnsManager :=
  if (self.find object).map NMDnsIPConfigData.ipConfigType = some ipConfigType then self
  else
    let tracked := self.trackIpConfig object ipConfig ipConfigType
    let best := self.bestIpConfig ipConfig.isIp4
    if ipConfigType = .bestDevice then
      { ipConfigLst := tracked.map fun ipData =>
          if best ≠ some object ∧ best = some ipData.object then
            { ipData with ipConfigType := .default }
          else ipData
        needSort := true
        bestIpConfig := Function.update self.bestIpConfig ipConfig.isIp4 (some object)
        sorted := Bool.noConfusion }
    else
      { ipConfigLst := tracked
        needSort := true
        bestIpConfig := Function.update self.bestIpConfig ipConfig.isIp4
          (if best = some object then none else best)
        sorted := Bool.noConfusion }

/-- An object holds another configuration.  If the priority is another one, this is where
`_ip_config_dns_priority_changed` is called. -/
def ipConfigChanged (object : Nat) (ipConfig : NMIPConfig) : NMDnsManager where
  ipConfigLst := self.ipConfigLst.map fun ipData =>
    if ipData.object = object then { ipData with ipConfig := ipConfig } else ipData
  needSort := self.needSort || self.ipConfigLst.any fun ipData =>
    ipData.object = object && ipData.ipConfig.dnsPriority ≠ ipConfig.dnsPriority
  bestIpConfig := self.bestIpConfig
  sorted := by
    intro known
    obtain ⟨was_sorted, same⟩ := Bool.or_eq_false_iff.mp known
    refine sorted_of_rank ?_ (self.sorted was_sorted)
    rw [List.map_map]
    refine List.map_congr_left fun ipData listed => ?_
    rw [Function.comp_apply]
    split
    · rename_i same_object
      have unchanged := List.any_eq_false.mp same ipData listed
      have same_priority : ipConfig.dnsPriority = ipData.ipConfig.dnsPriority := by
        by_contra differs
        exact unchanged (Bool.and_eq_true_iff.mpr
          ⟨decide_eq_true same_object, decide_eq_true fun equal => differs equal.symm⟩)
      exact Prod.ext same_priority rfl
    · rfl

/-- `_ip_config_lst_head`. -/
def ipConfigLstHead : NMDnsManager :=
  if self.needSort then
    { self with
      ipConfigLst := ListSort.sort ipConfigLstCmp self.ipConfigLst
      needSort := false
      sorted := fun _ => sorted_sort self.ipConfigLst }
  else self

end

end NMDnsManager

/-- The hash table of `rebuild_domain_lists`. -/
abbrev HashTable := List Char → Option Int

/-- `g_hash_table_lookup` as a number, which is zero without an entry. -/
def HashTable.lookup (ht : HashTable) (domain : List Char) : Int := (ht domain).getD 0

/-- The texts after the dots of a domain that are not empty, which `domain_is_shadowed` visits. -/
def parents : List Char → List (List Char)
  | [] => []
  | c :: rest => if c = '.' ∧ rest ≠ [] then rest :: parents rest else parents rest

/-- `domain_is_shadowed`, with the parent and its priority. -/
def domainIsShadowed (ht : HashTable) (domain : List Char) (priority : Int) :
    Option (List Char × Int) :=
  if ht.lookup [] < 0 ∧ ht.lookup [] < priority then some ([], ht.lookup [])
  else
    (parents domain).findSome? fun parent =>
      if ht.lookup parent < 0 ∧ ht.lookup parent < priority then some (parent, ht.lookup parent)
      else none

/-- Whether the inner loop of `rebuild_domain_lists` drops a domain. -/
def dropsDomain (ht : HashTable) (domain : List Char) (priority : Int) : Bool :=
  if ht.lookup domain ≠ 0 then ht.lookup domain < priority
  else (domainIsShadowed ht domain priority).isSome

/-- The inner loop of `rebuild_domain_lists`: the table, and the domains that are kept. -/
def rebuildDomains (priority : Int) : HashTable → List Domain → HashTable × List Domain
  | ht, [] => (ht, [])
  | ht, domain :: domains =>
    let domainClean := parseDnsDomain domain
    if dropsDomain ht domainClean priority then rebuildDomains priority ht domains
    else
      let (ht, kept) :=
        rebuildDomains priority (Function.update ht domainClean (some priority)) domains
      (ht, domain :: kept)

/-- Whether a configuration with name servers has a default route. -/
def defaultRouteFound (ipDatas : List NMDnsIPConfigData) : Bool :=
  ipDatas.any fun ipData => ipData.ipConfig.numNameservers ≠ 0 && ipData.ipConfig.hasDefaultRoute

def configuredDomains (defaultRouteFound : Bool) (ipData : NMDnsIPConfigData) : List Domain :=
  (if defaultRouteFound then if ipData.ipConfig.hasDefaultRoute then [wildcard] else []
    else if ipData.ipConfigType ≠ .vpn then [wildcard] else []) ++
  (if ipData.ipConfig.searches = [] then ipData.ipConfig.domains else ipData.ipConfig.searches)

/-- The second loop of `rebuild_domain_lists`. -/
def rebuildIpDatas (defaultRouteFound : Bool) :
    HashTable → List NMDnsIPConfigData → List NMDnsIPConfigData
  | _, [] => []
  | ht, ipData :: ipDatas =>
    if ipData.ipConfig.numNameservers = 0 then
      ipData :: rebuildIpDatas defaultRouteFound ht ipDatas
    else
      let (ht, kept) := rebuildDomains ipData.ipConfig.dnsPriority ht
        (configuredDomains defaultRouteFound ipData)
      { ipData with search := some kept, reverse := ipData.ipConfig.rdnsDomains } ::
        rebuildIpDatas defaultRouteFound ht ipDatas

theorem rank_rebuildIpDatas (defaultRouteFound : Bool) (ht : HashTable)
    (ipDatas : List NMDnsIPConfigData) :
    (rebuildIpDatas defaultRouteFound ht ipDatas).map NMDnsIPConfigData.rank =
      ipDatas.map NMDnsIPConfigData.rank := by
  induction ipDatas generalizing ht with
  | nil => rfl
  | cons ipData ipDatas ih =>
    rw [rebuildIpDatas]
    split
    · rw [map_cons, map_cons, ih]
    · rw [map_cons, map_cons, ih]
      rfl

/-- `rebuild_domain_lists`. -/
def NMDnsManager.rebuildDomainLists (self : NMDnsManager) : NMDnsManager :=
  let self := self.ipConfigLstHead
  let found := defaultRouteFound self.ipConfigLst
  { self with
    ipConfigLst := rebuildIpDatas found (fun _ => none) self.ipConfigLst
    sorted := fun known => sorted_of_rank (rank_rebuildIpDatas _ _ _) (self.sorted known) }

/-- A parent of a domain: a text after one of its dots, or the empty domain. -/
def IsParent (parent domain : List Char) : Prop :=
  (parent = [] ∧ domain ≠ []) ∨ '.' :: parent <:+ domain

instance (parent domain : List Char) : Decidable (IsParent parent domain) :=
  inferInstanceAs (Decidable (_ ∨ _))

/-- The domains of a configuration without their routing prefixes. -/
def cleanDomains (ipDatas : List NMDnsIPConfigData) (ipData : NMDnsIPConfigData) :
    List (List Char) :=
  (configuredDomains (defaultRouteFound ipDatas) ipData).map parseDnsDomain

/-- No configuration with name servers and a smaller priority has the domain, or has a parent of
the domain and a negative priority. -/
def Kept (ipDatas : List NMDnsIPConfigData) (priority : Int) (domain : List Char) : Prop :=
  ¬ ∃ other ∈ ipDatas, other.ipConfig.numNameservers ≠ 0 ∧ other.ipConfig.dnsPriority < priority ∧
    (domain ∈ cleanDomains ipDatas other ∨
      other.ipConfig.dnsPriority < 0 ∧
        ∃ parent ∈ cleanDomains ipDatas other, IsParent parent domain)

instance (ipDatas : List NMDnsIPConfigData) (priority : Int) (domain : List Char) :
    Decidable (Kept ipDatas priority domain) :=
  inferInstanceAs (Decidable (¬ ∃ other ∈ ipDatas, _))

/-- A configuration with the domains that the rule keeps, in their order; one without name servers
is left alone. -/
def routed (ipDatas : List NMDnsIPConfigData) (ipData : NMDnsIPConfigData) : NMDnsIPConfigData :=
  if ipData.ipConfig.numNameservers = 0 then ipData
  else
    { ipData with
      search := some ((configuredDomains (defaultRouteFound ipDatas) ipData).filter fun domain =>
        Kept ipDatas ipData.ipConfig.dnsPriority (parseDnsDomain domain))
      reverse := ipData.ipConfig.rdnsDomains }

theorem mem_parents {parent domain : List Char} :
    parent ∈ parents domain ↔ parent ≠ [] ∧ '.' :: parent <:+ domain := by
  induction domain with
  | nil => simp [parents]
  | cons c rest ih =>
    rw [parents, suffix_cons_iff, cons_eq_cons]
    split
    · rename_i dot
      rw [mem_cons, ih]
      constructor
      · rintro (rfl | ⟨nonempty, suffix⟩)
        · exact ⟨dot.2, .inl ⟨dot.1.symm, rfl⟩⟩
        · exact ⟨nonempty, .inr suffix⟩
      · rintro ⟨nonempty, ⟨_, rfl⟩ | suffix⟩
        · exact .inl rfl
        · exact .inr ⟨nonempty, suffix⟩
    · rename_i no_dot
      rw [ih]
      refine and_congr_right fun nonempty => ?_
      rw [or_iff_right]
      rintro ⟨rfl, rfl⟩
      exact no_dot ⟨rfl, nonempty⟩

theorem isParent_trans {domain parent ancestor : List Char} (above : IsParent parent domain)
    (further : IsParent ancestor parent) : IsParent ancestor domain := by
  rcases above with ⟨rfl, _⟩ | above
  · rcases further with ⟨_, nonempty⟩ | suffix
    · exact absurd rfl nonempty
    · cases suffix_nil.mp suffix
  · rcases further with ⟨rfl, _⟩ | suffix
    · refine .inl ⟨rfl, ?_⟩
      rintro rfl
      cases suffix_nil.mp above
    · exact .inr (suffix.trans ((suffix_cons _ _).trans above))

/-- The parents that `domain_is_shadowed` looks up for a domain that is not in the table. -/
def above (domain : List Char) : List (List Char) := if domain = [] then [] else [] :: parents domain

theorem mem_above {parent domain : List Char} : parent ∈ above domain ↔ IsParent parent domain := by
  unfold above IsParent
  split
  · rename_i empty
    subst empty
    simp
  · rename_i nonempty
    rw [mem_cons, mem_parents]
    constructor
    · rintro (rfl | ⟨_, suffix⟩)
      · exact .inl ⟨rfl, nonempty⟩
      · exact .inr suffix
    · rintro (⟨rfl, _⟩ | suffix)
      · exact .inl rfl
      · by_cases empty : parent = []
        · exact .inl empty
        · exact .inr ⟨empty, suffix⟩

/-- How domains shadow each other: a parent does with a negative priority. -/
def rules : Shadowing.Rules Int (List Char) where
  shadows priority := priority < 0
  above := above
  shadows_of_lt smaller negative := smaller.trans negative
  above_trans is_above further :=
    mem_above.mpr (isParent_trans (mem_above.mp is_above) (mem_above.mp further))

/-- The claims of domains by the configurations with name servers. -/
def claims (defaultRouteFound : Bool) (ipDatas : List NMDnsIPConfigData) : List (Int × List Char) :=
  ipDatas.flatMap fun ipData =>
    if ipData.ipConfig.numNameservers = 0 then []
    else (configuredDomains defaultRouteFound ipData).map fun domain =>
      (ipData.ipConfig.dnsPriority, parseDnsDomain domain)

variable {ht : HashTable} {domain : List Char}

theorem lookup_of_some {priority : Int} (found : ht domain = some priority) :
    ht.lookup domain = priority := by
  rw [HashTable.lookup, found, Option.getD_some]

theorem lookup_of_none (absent : ht domain = none) : ht.lookup domain = 0 := by
  rw [HashTable.lookup, absent, Option.getD_none]

theorem shadows_iff (ht : HashTable) (parent : List Char) (priority : Int) :
    ((ht parent).any fun above => rules.shadows above ∧ above < priority) = true ↔
      ht.lookup parent < 0 ∧ ht.lookup parent < priority := by
  cases found : ht parent with
  | none => simp [lookup_of_none found]
  | some above =>
    rw [lookup_of_some found]
    exact ⟨fun shadows => of_decide_eq_true shadows, fun shadows => decide_eq_true shadows⟩

/-- `domain_is_shadowed` finds a parent exactly if one of those above the domain shadows. -/
theorem isSome_domainIsShadowed (absent : ht domain = none) (priority : Int) :
    (domainIsShadowed ht domain priority).isSome = true ↔
      ∃ parent ∈ above domain, ht.lookup parent < 0 ∧ ht.lookup parent < priority := by
  unfold domainIsShadowed above
  by_cases empty : domain = []
  · subst empty
    simp [lookup_of_none absent, parents]
  · rw [if_neg empty, exists_mem_cons_iff]
    split
    · rename_i shadowed
      exact iff_of_true rfl (.inl shadowed)
    · rename_i not_shadowed
      rw [or_iff_right not_shadowed, findSome?_isSome_iff]
      refine exists_congr fun parent => and_congr_right fun _ => ?_
      split
      · rename_i shadowed
        exact iff_of_true rfl shadowed
      · rename_i free
        exact iff_of_false Bool.false_ne_true free

theorem dropsDomain_eq (nonzero : ∀ domain, ht domain ≠ some 0) (domain : List Char)
    (priority : Int) :
    dropsDomain ht domain priority = Shadowing.refused rules ht priority domain := by
  unfold dropsDomain Shadowing.refused
  cases found : ht domain with
  | some old =>
    have old_ne : old ≠ 0 := by
      rintro rfl
      exact nonzero domain found
    rw [lookup_of_some found, if_pos old_ne]
  | none =>
    rw [lookup_of_none found, if_neg (by simp), Bool.eq_iff_iff, isSome_domainIsShadowed found,
      any_eq_true]
    exact exists_congr fun parent => and_congr_right fun _ => (shadows_iff ht parent _).symm

/-- The inner loop keeps the domains that no earlier claim blocks, and enters what it keeps. -/
theorem rebuildDomains_spec {earlier : List (Int × List Char)} {priority : Int}
    (tracks : Shadowing.Tracks rules ht earlier) (nonzero : ∀ first ∈ earlier, first.1 ≠ 0)
    (priority_ne : priority ≠ 0) (sorted : ∀ first ∈ earlier, first.1 ≤ priority)
    (domains : List Domain) :
    (rebuildDomains priority ht domains).2 = domains.filter (fun domain =>
        ¬ Shadowing.Blocked rules earlier priority (parseDnsDomain domain)) ∧
      Shadowing.Tracks rules (rebuildDomains priority ht domains).1
        (earlier ++ domains.map fun domain => (priority, parseDnsDomain domain)) := by
  induction domains generalizing ht earlier with
  | nil => exact ⟨rfl, by rw [map_nil, append_nil]; exact tracks⟩
  | cons domain domains ih =>
    have in_table : ∀ other, ht other ≠ some 0 := by
      intro other found
      exact nonzero _ ((tracks other 0).mp found).1 rfl
    have last : ∀ first ∈ earlier ++ [(priority, parseDnsDomain domain)],
        first ∈ earlier ∨ first.1 = priority := by
      intro first listed
      rcases mem_append.mp listed with listed | listed
      · exact .inl listed
      · exact .inr (mem_singleton.mp listed ▸ rfl)
    obtain ⟨kept_eq, tracks_all⟩ := ih (tracks.claim (parseDnsDomain domain) sorted)
      (fun first listed => (last first listed).elim (nonzero first)
        fun same => same ▸ priority_ne)
      (fun first listed => (last first listed).elim (sorted first) fun same => same.le)
    have blocked_iff : ∀ other, Shadowing.Blocked rules
        (earlier ++ [(priority, parseDnsDomain domain)]) priority other ↔
          Shadowing.Blocked rules earlier priority other := by
      refine fun other => Shadowing.blocked_append ?_ other
      intro first listed
      rw [mem_singleton.mp listed]
    simp only [blocked_iff] at kept_eq
    rw [append_assoc, singleton_append] at tracks_all
    have refused_iff := Shadowing.refused_iff tracks priority (parseDnsDomain domain)
    rw [rebuildDomains, dropsDomain_eq in_table, map_cons, filter_cons]
    unfold Shadowing.claim at kept_eq tracks_all
    by_cases is_refused : Shadowing.refused rules ht priority (parseDnsDomain domain) = true
    · rw [if_pos is_refused] at kept_eq tracks_all ⊢
      rw [if_neg (by simpa using refused_iff.mp is_refused)]
      exact ⟨kept_eq, tracks_all⟩
    · rw [if_neg is_refused] at kept_eq tracks_all ⊢
      rw [if_pos (by simpa using fun blocked => is_refused (refused_iff.mpr blocked))]
      exact ⟨congrArg (domain :: ·) kept_eq, tracks_all⟩

/-- A configuration with the domains that are not blocked. -/
def unblocked (defaultRouteFound : Bool) (allClaims : List (Int × List Char))
    (ipData : NMDnsIPConfigData) : NMDnsIPConfigData :=
  if ipData.ipConfig.numNameservers = 0 then ipData
  else
    { ipData with
      search := some ((configuredDomains defaultRouteFound ipData).filter fun domain =>
        ¬ Shadowing.Blocked rules allClaims ipData.ipConfig.dnsPriority (parseDnsDomain domain))
      reverse := ipData.ipConfig.rdnsDomains }

theorem claims_cons (found : Bool) (ipData : NMDnsIPConfigData) (ipDatas : List NMDnsIPConfigData) :
    claims found (ipData :: ipDatas) = claims found [ipData] ++ claims found ipDatas := by
  simp [claims]

theorem mem_claims {found : Bool} {ipDatas : List NMDnsIPConfigData} {first : Int × List Char} :
    first ∈ claims found ipDatas ↔ ∃ ipData ∈ ipDatas, ipData.ipConfig.numNameservers ≠ 0 ∧
      ipData.ipConfig.dnsPriority = first.1 ∧
        first.2 ∈ (configuredDomains found ipData).map parseDnsDomain := by
  unfold claims
  rw [mem_flatMap]
  refine exists_congr fun ipData => and_congr_right fun _ => ?_
  split
  · rename_i no_servers
    simp [no_servers]
  · rename_i servers
    rw [mem_map, mem_map]
    constructor
    · rintro ⟨domain, listed, rfl⟩
      exact ⟨servers, rfl, domain, listed, rfl⟩
    · rintro ⟨_, priority_eq, domain, listed, domain_eq⟩
      exact ⟨domain, listed, Prod.ext priority_eq domain_eq⟩

/-- The second loop keeps the domains that no claim blocks. -/
theorem rebuildIpDatas_spec (found : Bool) {earlier : List (Int × List Char)}
    (tracks : Shadowing.Tracks rules ht earlier) (earlier_ne : ∀ first ∈ earlier, first.1 ≠ 0)
    {ipDatas : List NMDnsIPConfigData}
    (nonzero : ∀ ipData ∈ ipDatas, ipData.ipConfig.dnsPriority ≠ 0)
    (after : ∀ first ∈ earlier, ∀ ipData ∈ ipDatas, first.1 ≤ ipData.ipConfig.dnsPriority)
    (sorted : ListSort.Sorted ipConfigLstCmp ipDatas) :
    rebuildIpDatas found ht ipDatas =
      ipDatas.map (unblocked found (earlier ++ claims found ipDatas)) := by
  induction ipDatas generalizing ht earlier with
  | nil => rfl
  | cons ipData ipDatas ih =>
    obtain ⟨first_le, rest_sorted⟩ := pairwise_cons.mp sorted
    have rest_nonzero : ∀ other ∈ ipDatas, other.ipConfig.dnsPriority ≠ 0 :=
      fun other listed => nonzero other (mem_cons_of_mem _ listed)
    have rest_after : ∀ first ∈ earlier ++ claims found [ipData], ∀ other ∈ ipDatas,
        first.1 ≤ other.ipConfig.dnsPriority := by
      intro first listed other other_listed
      rcases mem_append.mp listed with listed | listed
      · exact after first listed other (mem_cons_of_mem _ other_listed)
      · obtain ⟨own, own_listed, _, priority_eq, _⟩ := mem_claims.mp listed
        obtain rfl := mem_singleton.mp own_listed
        exact priority_eq ▸ dnsPriority_le (first_le other other_listed)
    have rest_ne : ∀ first ∈ earlier ++ claims found [ipData], first.1 ≠ 0 := by
      intro first listed
      rcases mem_append.mp listed with listed | listed
      · exact earlier_ne first listed
      · obtain ⟨own, own_listed, _, priority_eq, _⟩ := mem_claims.mp listed
        obtain rfl := mem_singleton.mp own_listed
        exact priority_eq ▸ nonzero _ mem_cons_self
    rw [claims_cons, ← append_assoc, map_cons]
    by_cases no_servers : ipData.ipConfig.numNameservers = 0
    · have no_claims : claims found [ipData] = [] := by simp [claims, no_servers]
      rw [no_claims, append_nil] at rest_after rest_ne ⊢
      rw [rebuildIpDatas, if_pos no_servers, ih tracks rest_ne rest_nonzero rest_after rest_sorted,
        unblocked, if_pos no_servers]
    · have own_claims : claims found [ipData] = (configuredDomains found ipData).map
          fun domain => (ipData.ipConfig.dnsPriority, parseDnsDomain domain) := by
        simp [claims, no_servers]
      obtain ⟨kept_eq, tracks_own⟩ := rebuildDomains_spec tracks earlier_ne
        (nonzero ipData mem_cons_self)
        (fun first listed => after first listed ipData mem_cons_self)
        (configuredDomains found ipData)
      rw [← own_claims] at tracks_own
      have blocked_iff : ∀ domain, Shadowing.Blocked rules
          (earlier ++ claims found [ipData] ++ claims found ipDatas)
            ipData.ipConfig.dnsPriority domain ↔
          Shadowing.Blocked rules earlier ipData.ipConfig.dnsPriority domain := by
        intro domain
        rw [append_assoc, ← claims_cons]
        refine Shadowing.blocked_append ?_ domain
        intro first listed
        obtain ⟨other, other_listed, _, priority_eq, _⟩ := mem_claims.mp listed
        rw [← priority_eq]
        rcases mem_cons.mp other_listed with rfl | other_listed
        · exact Int.le_refl _
        · exact dnsPriority_le (first_le other other_listed)
      rw [rebuildIpDatas, if_neg no_servers]
      dsimp only
      rw [kept_eq, ih tracks_own rest_ne rest_nonzero rest_after rest_sorted, unblocked,
        if_neg no_servers]
      simp only [blocked_iff]

theorem kept_iff (priority : Int) (domain : List Char) :
    Kept ipDatas priority domain ↔
      ¬ Shadowing.Blocked rules (claims (defaultRouteFound ipDatas) ipDatas) priority domain := by
  refine not_congr ?_
  constructor
  · rintro ⟨other, listed, servers, smaller, has | ⟨negative, parent, has, is_parent⟩⟩
    · exact ⟨(_, domain), mem_claims.mpr ⟨other, listed, servers, rfl, has⟩, smaller, .inl rfl⟩
    · exact ⟨(_, parent), mem_claims.mpr ⟨other, listed, servers, rfl, has⟩, smaller,
        .inr ⟨negative, mem_above.mpr is_parent⟩⟩
  · rintro ⟨⟨first, parent⟩, listed, smaller, relation⟩
    obtain ⟨other, other_listed, servers, rfl, has⟩ := mem_claims.mp listed
    refine ⟨other, other_listed, servers, smaller, ?_⟩
    rcases relation with rfl | ⟨negative, is_above⟩
    · exact .inl has
    · exact .inr ⟨negative, parent, has, mem_above.mp is_above⟩

theorem routed_eq (ipData : NMDnsIPConfigData) :
    routed ipDatas ipData = unblocked (defaultRouteFound ipDatas)
      (claims (defaultRouteFound ipDatas) ipDatas) ipData := by
  unfold routed unblocked
  simp only [kept_iff]

theorem routed_perm {ipDatas others : List NMDnsIPConfigData} (perm : ipDatas.Perm others) :
    routed ipDatas = routed others := by
  have found_eq : defaultRouteFound ipDatas = defaultRouteFound others := perm.any_eq
  have kept_congr : ∀ priority domain,
      Kept ipDatas priority domain ↔ Kept others priority domain := by
    intro priority domain
    refine not_congr (exists_congr fun other => ?_)
    rw [perm.mem_iff, cleanDomains, cleanDomains, found_eq]
  funext ipData
  unfold routed
  simp only [found_eq, kept_congr]

theorem ipConfigLstHead_spec (self : NMDnsManager) :
    self.ipConfigLstHead.ipConfigLst.Perm self.ipConfigLst ∧
      ListSort.Sorted ipConfigLstCmp self.ipConfigLstHead.ipConfigLst := by
  unfold NMDnsManager.ipConfigLstHead
  split
  · exact ⟨ListSort.sort_perm _ _, sorted_sort _⟩
  · rename_i known
    exact ⟨Perm.refl _, self.sorted (by simpa using known)⟩

theorem rebuildDomainLists_perm (self : NMDnsManager)
    (nonzero : ∀ ipData ∈ self.ipConfigLst, ipData.ipConfig.dnsPriority ≠ 0) :
    self.rebuildDomainLists.ipConfigLst.Perm
      (self.ipConfigLst.map (routed self.ipConfigLst)) := by
  obtain ⟨perm, sorted⟩ := ipConfigLstHead_spec self
  have rebuilt := rebuildIpDatas_spec (defaultRouteFound self.ipConfigLstHead.ipConfigLst)
    Shadowing.tracks_nil (fun _ listed => absurd listed not_mem_nil)
    (fun ipData listed => nonzero ipData (perm.mem_iff.mp listed))
    (fun _ listed => absurd listed not_mem_nil) sorted
  have list_eq : self.rebuildDomainLists.ipConfigLst =
      self.ipConfigLstHead.ipConfigLst.map (routed self.ipConfigLstHead.ipConfigLst) := by
    refine rebuilt.trans (map_congr_left fun ipData _ => ?_)
    rw [routed_eq, nil_append]
  rw [list_eq, routed_perm perm]
  exact perm.map _

/-- Rebuilding the domain lists keeps the domains that the rule keeps, and what it keeps does not
depend on the order in which the configurations are tracked. -/
theorem rebuildDomainLists_routed (self : NMDnsManager)
    (nonzero : ∀ ipData ∈ self.ipConfigLst, ipData.ipConfig.dnsPriority ≠ 0) :
    self.rebuildDomainLists.ipConfigLst.Perm
        (self.ipConfigLst.map (routed self.ipConfigLst)) ∧
      ∀ other : NMDnsManager, other.ipConfigLst.Perm self.ipConfigLst →
        other.rebuildDomainLists.ipConfigLst.Perm self.rebuildDomainLists.ipConfigLst := by
  refine ⟨rebuildDomainLists_perm self nonzero, ?_⟩
  intro other perm
  have other_routed := rebuildDomainLists_perm other
    fun ipData listed => nonzero ipData (perm.mem_iff.mp listed)
  rw [routed_perm perm] at other_routed
  exact other_routed.trans ((perm.map _).trans (rebuildDomainLists_perm self nonzero).symm)

/-- A VPN with a negative priority whose search domain is routed. -/
def vpnConfig : NMIPConfig where
  isIp4 := true
  numNameservers := 1
  dnsPriority := -50
  searches := [⟨"~corp.com".toList, by decide⟩]
  domains := []
  hasDefaultRoute := false
  rdnsDomains := none

/-- A device with a domain below that of the VPN. -/
def deviceConfig : NMIPConfig where
  isIp4 := true
  numNameservers := 2
  dnsPriority := 100
  searches := [⟨"lab.corp.com".toList, by decide⟩, ⟨"home".toList, by decide⟩]
  domains := []
  hasDefaultRoute := true
  rdnsDomains := none

/-- The device loses its domain to the VPN, which has a parent of it. -/
theorem rebuildDomainLists_routed_vpn :
    (((NMDnsManager.new.setIpConfig 1 deviceConfig .bestDevice).setIpConfig 2 vpnConfig
        .vpn).rebuildDomainLists).ipConfigLst.Perm
      [⟨1, deviceConfig, .bestDevice, some [wildcard, ⟨"home".toList, by decide⟩], none⟩,
        ⟨2, vpnConfig, .vpn, some [⟨"~corp.com".toList, by decide⟩], none⟩] := by
  have rebuilt := (rebuildDomainLists_routed
    ((NMDnsManager.new.setIpConfig 1 deviceConfig .bestDevice).setIpConfig 2 vpnConfig .vpn)
    (by decide)).1
  have evaluated : ((NMDnsManager.new.setIpConfig 1 deviceConfig .bestDevice).setIpConfig 2
        vpnConfig .vpn).ipConfigLst.map
        (routed ((NMDnsManager.new.setIpConfig 1 deviceConfig .bestDevice).setIpConfig 2
          vpnConfig .vpn).ipConfigLst) =
      [⟨1, deviceConfig, .bestDevice, some [wildcard, ⟨"home".toList, by decide⟩], none⟩,
        ⟨2, vpnConfig, .vpn, some [⟨"~corp.com".toList, by decide⟩], none⟩] := by
    decide +kernel
  rw [evaluated] at rebuilt
  exact rebuilt

end NetworkManager.Dns
