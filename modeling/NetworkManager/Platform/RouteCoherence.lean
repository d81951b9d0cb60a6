import NetworkManager.Platform.HashUpdate
import NetworkManager.Platform.Identity
import NetworkManager.Platform.PrefixOrder

/-!
# Comparing and hashing routes

The four comparisons of routes are total preorders, and each is finer than the one before.  The
hash functions feed normal forms of the fields that the comparisons read, so they do not separate
routes that compare equal.
-/

namespace NetworkManager

namespace RouteCoherence

open LawfulCmpOn

section Lawful

variable {α : Type*} {values : Set α}

theorem routeWindowsCmp_lawful (route : α → NMPlatformIPRoute) :
    LawfulCmpOn values fun a b => routeWindowsCmp (route a) (route b) :=
  (on fun a => (route a).window).andThen <|
  (on fun a => (route a).cwnd).andThen <|
  (on fun a => (route a).initcwnd).andThen <|
  (on fun a => (route a).initrwnd).andThen
  (on fun a => (route a).mtu)

theorem routeLocksCmp_lawful (route : α → NMPlatformIPRoute) :
    LawfulCmpOn values fun a b => routeLocksCmp (route a) (route b) :=
  (on fun a => (route a).lockWindow).andThen <|
  (on fun a => (route a).lockCwnd).andThen <|
  (on fun a => (route a).lockInitcwnd).andThen <|
  (on fun a => (route a).lockInitrwnd).andThen
  (on fun a => (route a).lockMtu)

end Lawful

section Ip4

variable {values : Set NMPlatformIP4Route}

theorem ip4RouteCmp_weakId_lawful : LawfulCmpOn values fun a b => ip4RouteCmp a b .weakId := by
  unfold ip4RouteCmp
  refine byPart values (fun a => routeTableUncoerce a.tableCoerced true) ?_
  refine andThen_assoc (andThen (ip4Network_lawful _ fun a : NMPlatformIP4Route => a.plen) ?_)
  exact (on fun a => a.metric).andThen (on NMPlatformIP4Route.tos)

theorem sourceAndScope_lawful :
    LawfulCmpOn values fun a b =>
      (compare (ipConfigSourceRoundTripRtprot a.rtSource)
        (ipConfigSourceRoundTripRtprot b.rtSource)).then
      (compare (ipRouteScopeInvGetNormalized a) (ipRouteScopeInvGetNormalized b)) :=
  (on fun a => ipConfigSourceRoundTripRtprot a.rtSource).andThen (on ipRouteScopeInvGetNormalized)

theorem ip4RouteCmp_lawful (cmpType : NMPlatformIPRouteCmpType) :
    LawfulCmpOn values fun a b => ip4RouteCmp a b cmpType := by
  cases cmpType with
  | weakId => exact ip4RouteCmp_weakId_lawful
  | id =>
    refine andThen ip4RouteCmp_weakId_lawful ?_
    refine byPart values (·.ifindex) ?_
    refine andThen sourceAndScope_lawful ?_
    refine byPart values (·.gateway) ?_
    refine byPart values (·.mss) ?_
    refine byPart values (·.prefSrc) ?_
    refine andThen (routeWindowsCmp_lawful NMPlatformIP4Route.toNMPlatformIPRoute) ?_
    refine byPart values (fun a => a.rRtmFlags &&& rtnhFOnlink) ?_
    exact routeLocksCmp_lawful NMPlatformIP4Route.toNMPlatformIPRoute
  | semantically =>
    refine byPart values (fun a => routeTableUncoerce a.tableCoerced true) ?_
    refine byPart values (·.ifindex) ?_
    refine andThen_assoc (andThen (ip4Network_lawful _ fun a : NMPlatformIP4Route => a.plen) ?_)
    refine byPart values (·.metric) ?_
    refine byPart values (·.gateway) ?_
    refine andThen sourceAndScope_lawful ?_
    refine byPart values (·.mss) ?_
    refine byPart values (·.prefSrc) ?_
    refine byPart values (fun a => a.rRtmFlags &&& (rtmFCloned ||| rtnhFOnlink)) ?_
    refine byPart values (·.tos) ?_
    refine andThen (routeLocksCmp_lawful NMPlatformIP4Route.toNMPlatformIPRoute) ?_
    exact routeWindowsCmp_lawful NMPlatformIP4Route.toNMPlatformIPRoute
  | full =>
    refine byPart values (·.tableCoerced) ?_
    refine byPart values (·.ifindex) ?_
    refine byPart values (·.network) ?_
    refine byPart values (·.plen) ?_
    refine byPart values (·.metric) ?_
    refine byPart values (·.gateway) ?_
    refine byPart values (·.rtSource) ?_
    refine byPart values (·.scopeInv) ?_
    refine byPart values (·.mss) ?_
    refine byPart values (·.prefSrc) ?_
    refine byPart values (·.rRtmFlags) ?_
    refine byPart values (·.tos) ?_
    refine andThen (routeLocksCmp_lawful NMPlatformIP4Route.toNMPlatformIPRoute) ?_
    exact routeWindowsCmp_lawful NMPlatformIP4Route.toNMPlatformIPRoute

end Ip4

section Ip6

variable {values : Set NMPlatformIP6Route}

theorem ip6RouteCmp_weakId_lawful : LawfulCmpOn values fun a b => ip6RouteCmp a b .weakId := by
  unfold ip6RouteCmp
  refine byPart values (fun a => routeTableUncoerce a.tableCoerced true) ?_
  refine andThen_assoc (andThen (ip6Network_lawful _ fun a : NMPlatformIP6Route => a.plen) ?_)
  refine byPart values (fun a => ip6RouteMetricNormalize a.metric) ?_
  exact ip6Network_lawful NMPlatformIP6Route.src NMPlatformIP6Route.srcPlen

theorem ip6RouteCmp_lawful (cmpType : NMPlatformIPRouteCmpType) :
    LawfulCmpOn values fun a b => ip6RouteCmp a b cmpType := by
  cases cmpType with
  | weakId => exact ip6RouteCmp_weakId_lawful
  | id =>
    refine andThen ip6RouteCmp_weakId_lawful ?_
    exact (on fun a => a.ifindex).andThen (on NMPlatformIP6Route.gateway)
  | semantically =>
    refine byPart values (fun a => routeTableUncoerce a.tableCoerced true) ?_
    refine byPart values (·.ifindex) ?_
    refine andThen_assoc (andThen (ip6Network_lawful _ fun a : NMPlatformIP6Route => a.plen) ?_)
    refine byPart values (fun a => ip6RouteMetricNormalize a.metric) ?_
    refine byPart values (·.gateway) ?_
    refine byPart values (·.prefSrc) ?_
    refine andThen_assoc (andThen (ip6Network_lawful _ NMPlatformIP6Route.srcPlen) ?_)
    refine byPart values (fun a => ipConfigSourceRoundTripRtprot a.rtSource) ?_
    refine byPart values (·.mss) ?_
    refine byPart values (fun a => a.rRtmFlags &&& rtmFCloned) ?_
    refine andThen (routeLocksCmp_lawful NMPlatformIP6Route.toNMPlatformIPRoute) ?_
    refine andThen (routeWindowsCmp_lawful NMPlatformIP6Route.toNMPlatformIPRoute) ?_
    exact on fun a : NMPlatformIP6Route => routePrefNormalize a.rtPref
  | full =>
    refine byPart values (·.tableCoerced) ?_
    refine byPart values (·.ifindex) ?_
    refine byPart values (·.network) ?_
    refine byPart values (·.plen) ?_
    refine byPart values (·.metric) ?_
    refine byPart values (·.gateway) ?_
    refine byPart values (·.prefSrc) ?_
    refine byPart values (·.src) ?_
    refine byPart values (·.srcPlen) ?_
    refine byPart values (·.rtSource) ?_
    refine byPart values (·.mss) ?_
    refine byPart values (·.rRtmFlags) ?_
    refine andThen (routeLocksCmp_lawful NMPlatformIP6Route.toNMPlatformIPRoute) ?_
    refine andThen (routeWindowsCmp_lawful NMPlatformIP6Route.toNMPlatformIPRoute) ?_
    exact on NMPlatformIP6Route.rtPref

end Ip6

theorem clearHostAddress_of_htonl {a b : InAddr} {plen : UInt8}
    (same : htonl (ip4AddressClearHostAddress a plen) = htonl (ip4AddressClearHostAddress b plen)) :
    ip4AddressClearHostAddress a plen = ip4AddressClearHostAddress b plen := by
  rw [← htonl_htonl (ip4AddressClearHostAddress a plen), same, htonl_htonl]

theorem routeWindowsBytes_congr {a b : NMPlatformIPRoute} (same : routeWindowsCmp a b = .eq) :
    routeWindowsBytes a = routeWindowsBytes b := by
  simp only [routeWindowsCmp, Ordering.then_eq_eq, Std.compare_eq_iff_eq] at same
  simp only [routeWindowsBytes, same]

theorem routeLocksBytes_congr {a b : NMPlatformIPRoute} (same : routeLocksCmp a b = .eq) :
    routeLocksBytes a = routeLocksBytes b := by
  simp only [routeLocksCmp, Ordering.then_eq_eq, Std.compare_eq_iff_eq] at same
  simp only [routeLocksBytes, same]

theorem ip4RouteCmp_weakId_fields {a b : NMPlatformIP4Route}
    (same : ip4RouteCmp a b .weakId = .eq) :
    routeTableUncoerce a.tableCoerced true = routeTableUncoerce b.tableCoerced true ∧
    ip4AddressClearHostAddress a.network b.plen = ip4AddressClearHostAddress b.network b.plen ∧
    a.plen = b.plen ∧ a.metric = b.metric ∧ a.tos = b.tos := by
  rw [ip4RouteCmp_weakId] at same
  simp only [NMPlatformIP4Route.weakKey, Ip4RouteWeakKey.mk.injEq] at same
  obtain ⟨table, network, plen, metric, tos⟩ := same
  rw [plen] at network
  exact ⟨table, clearHostAddress_of_htonl network, plen, metric, tos⟩

theorem ip4RouteCmp_id_fields {a b : NMPlatformIP4Route} (same : ip4RouteCmp a b .id = .eq) :
    ip4RouteCmp a b .weakId = .eq ∧ a.ifindex = b.ifindex ∧
    (ipConfigSourceRoundTripRtprot a.rtSource = ipConfigSourceRoundTripRtprot b.rtSource ∧
      ipRouteScopeInvGetNormalized a = ipRouteScopeInvGetNormalized b) ∧
    a.gateway = b.gateway ∧ a.mss = b.mss ∧ a.prefSrc = b.prefSrc ∧
    routeWindowsCmp a.toNMPlatformIPRoute b.toNMPlatformIPRoute = .eq ∧
    a.rRtmFlags &&& rtnhFOnlink = b.rRtmFlags &&& rtnhFOnlink ∧
    routeLocksCmp a.toNMPlatformIPRoute b.toNMPlatformIPRoute = .eq := by
  have weak : ip4RouteCmp a b .weakId = .eq := (Ordering.then_eq_eq.mp same).1
  have rest := (Ordering.then_eq_eq.mp same).2
  simp only [Ordering.then_eq_eq, Std.compare_eq_iff_eq] at rest
  exact ⟨weak, rest⟩

theorem and_onlink_of_and {a b : UInt32}
    (same : a &&& (rtmFCloned ||| rtnhFOnlink) = b &&& (rtmFCloned ||| rtnhFOnlink)) :
    a &&& rtnhFOnlink = b &&& rtnhFOnlink := by
  have part : rtnhFOnlink = (rtmFCloned ||| rtnhFOnlink) &&& rtnhFOnlink := by decide
  rw [part, ← UInt32.and_assoc, same, UInt32.and_assoc]

theorem ip4RouteCmp_semantically_fields {a b : NMPlatformIP4Route}
    (same : ip4RouteCmp a b .semantically = .eq) :
    ip4RouteCmp a b .id = .eq ∧
    a.rRtmFlags &&& (rtmFCloned ||| rtnhFOnlink) =
      b.rRtmFlags &&& (rtmFCloned ||| rtnhFOnlink) := by
  simp only [ip4RouteCmp, Ordering.then_eq_eq, Std.compare_eq_iff_eq] at same ⊢
  obtain ⟨table, ifindex, network, plen, metric, gateway, source, mss, prefSrc, flags, tos, locks,
    windows⟩ := same
  exact ⟨⟨⟨table, network, plen, metric, tos⟩, ifindex, source, gateway, mss, prefSrc, windows,
    and_onlink_of_and flags, locks⟩, flags⟩

/-- The hash function feeds the same text for equal IPv4 routes. -/
theorem ip4RouteHashUpdate_congr {a b : NMPlatformIP4Route} {cmpType : NMPlatformIPRouteCmpType}
    (same : ip4RouteCmp a b cmpType = .eq) :
    ip4RouteHashUpdate a cmpType = ip4RouteHashUpdate b cmpType := by
  cases cmpType with
  | weakId =>
    obtain ⟨table, network, plen, metric, tos⟩ := ip4RouteCmp_weakId_fields same
    simp only [ip4RouteHashUpdate, table, network, plen, metric, tos]
  | id =>
    obtain ⟨weak, ifindex, ⟨rtprot, scope⟩, gateway, mss, prefSrc, windows, flags, locks⟩ :=
      ip4RouteCmp_id_fields same
    obtain ⟨table, network, plen, metric, tos⟩ := ip4RouteCmp_weakId_fields weak
    simp only [ip4RouteHashUpdate, table, network, plen, metric, tos, ifindex, rtprot, scope,
      gateway, mss, prefSrc, flags, routeWindowsBytes_congr windows, routeLocksBytes_congr locks]
  | semantically =>
    obtain ⟨id, flags⟩ := ip4RouteCmp_semantically_fields same
    obtain ⟨weak, ifindex, ⟨rtprot, scope⟩, gateway, mss, prefSrc, windows, -, locks⟩ :=
      ip4RouteCmp_id_fields id
    obtain ⟨table, network, plen, metric, tos⟩ := ip4RouteCmp_weakId_fields weak
    simp only [ip4RouteHashUpdate, table, network, plen, metric, tos, ifindex, rtprot, scope,
      gateway, mss, prefSrc, flags, routeWindowsBytes_congr windows, routeLocksBytes_congr locks]
  | full =>
    rw [NMPObject.ip4RouteCmp_full] at same
    rw [same]

theorem byteMask_eq_shiftLeft {bits : Nat} (bound : bits < 8) :
    byteMask bits = 0xFF#8 <<< (8 - bits) := by
  interval_cases bits <;> decide

theorem clearHostAddress_of_prefixKey {a b : In6Addr} {plen : UInt8}
    (same : ip6PrefixKey a plen = ip6PrefixKey b plen) :
    ip6AddressClearHostAddress a plen = ip6AddressClearHostAddress b plen := by
  unfold ip6PrefixKey at same
  unfold ip6AddressClearHostAddress
  by_cases short : plen.toNat < 128
  · have not_long : ¬ plen.toNat ≥ 128 := not_le.mpr short
    rw [if_neg not_long, if_neg not_long, Prod.mk.injEq,
      byteMask_eq_shiftLeft (Nat.mod_lt _ (by decide))] at same
    obtain ⟨bytes, bits⟩ := same
    have copied : a.firstBytes (plen.toNat / 8) = b.firstBytes (plen.toNat / 8) := by
      by_cases none : plen.toNat / 8 = 0
      · rw [none]
        unfold In6Addr.firstBytes
        rw [BitVec.ushiftRight_eq_zero (by decide), BitVec.ushiftRight_eq_zero (by decide)]
      · rw [if_pos none, if_pos none] at bytes
        exact bytes
    simp only [short, if_true, copied]
    rw [bits]
  · have long : plen.toNat ≥ 128 := not_lt.mp short
    rw [if_pos long, if_pos long, Prod.mk.injEq] at same
    rw [same.1]

theorem ip6RouteCmp_weakId_fields {a b : NMPlatformIP6Route}
    (same : ip6RouteCmp a b .weakId = .eq) :
    routeTableUncoerce a.tableCoerced true = routeTableUncoerce b.tableCoerced true ∧
    ip6AddressClearHostAddress a.network b.plen = ip6AddressClearHostAddress b.network b.plen ∧
    a.plen = b.plen ∧
    ip6RouteMetricNormalize a.metric = ip6RouteMetricNormalize b.metric ∧
    ip6AddressClearHostAddress a.src b.srcPlen = ip6AddressClearHostAddress b.src b.srcPlen ∧
    a.srcPlen = b.srcPlen := by
  rw [ip6RouteCmp_weakId] at same
  simp only [NMPlatformIP6Route.weakKey, Ip6RouteWeakKey.mk.injEq] at same
  obtain ⟨table, network, plen, metric, src, srcPlen⟩ := same
  rw [plen] at network
  rw [srcPlen] at src
  exact ⟨table, clearHostAddress_of_prefixKey network, plen, metric,
    clearHostAddress_of_prefixKey src, srcPlen⟩

/-- IPv6 routes with the same meaning have the same identity, and further fields agree. -/
theorem ip6RouteCmp_semantically_fields {a b : NMPlatformIP6Route}
    (same : ip6RouteCmp a b .semantically = .eq) :
    ip6RouteCmp a b .id = .eq ∧ a.prefSrc = b.prefSrc ∧
    ipConfigSourceRoundTripRtprot a.rtSource = ipConfigSourceRoundTripRtprot b.rtSource ∧
    a.mss = b.mss ∧ a.rRtmFlags &&& rtmFCloned = b.rRtmFlags &&& rtmFCloned ∧
    routeLocksCmp a.toNMPlatformIPRoute b.toNMPlatformIPRoute = .eq ∧
    routeWindowsCmp a.toNMPlatformIPRoute b.toNMPlatformIPRoute = .eq ∧
    routePrefNormalize a.rtPref = routePrefNormalize b.rtPref := by
  simp only [ip6RouteCmp, Ordering.then_eq_eq, Std.compare_eq_iff_eq] at same ⊢
  obtain ⟨table, ifindex, network, plen, metric, gateway, prefSrc, src, srcPlen, rtprot, rest⟩ :=
    same
  exact ⟨⟨⟨table, network, plen, metric, src, srcPlen⟩, ifindex, gateway⟩, prefSrc, rtprot, rest⟩

/-- The hash function feeds the same text for equal IPv6 routes. -/
theorem ip6RouteHashUpdate_congr {a b : NMPlatformIP6Route} {cmpType : NMPlatformIPRouteCmpType}
    (same : ip6RouteCmp a b cmpType = .eq) :
    ip6RouteHashUpdate a cmpType = ip6RouteHashUpdate b cmpType := by
  cases cmpType with
  | weakId =>
    obtain ⟨table, network, plen, metric, src, srcPlen⟩ := ip6RouteCmp_weakId_fields same
    simp only [ip6RouteHashUpdate, table, network, plen, metric, src, srcPlen]
  | id =>
    obtain ⟨weak, ifindex, gateway⟩ := ip6RouteCmp_id.mp same
    obtain ⟨table, network, plen, metric, src, srcPlen⟩ :=
      ip6RouteCmp_weakId_fields (ip6RouteCmp_weakId.mpr weak)
    simp only [ip6RouteHashUpdate, table, network, plen, metric, src, srcPlen, ifindex, gateway]
  | semantically =>
    obtain ⟨id, prefSrc, rtprot, mss, flags, locks, windows, pref⟩ :=
      ip6RouteCmp_semantically_fields same
    obtain ⟨weak, ifindex, gateway⟩ := ip6RouteCmp_id.mp id
    obtain ⟨table, network, plen, metric, src, srcPlen⟩ :=
      ip6RouteCmp_weakId_fields (ip6RouteCmp_weakId.mpr weak)
    simp only [ip6RouteHashUpdate, table, network, plen, metric, src, srcPlen, ifindex, gateway,
      prefSrc, rtprot, mss, flags, routeLocksBytes_congr locks, routeWindowsBytes_congr windows,
      pref]
  | full =>
    rw [NMPObject.ip6RouteCmp_full] at same
    rw [same]

end RouteCoherence

/-- The comparisons of routes and the texts that are fed to the hash state fit together. -/
structure CoherentModes {α β : Type*} (cmp : α → α → NMPlatformIPRouteCmpType → Ordering)
    (hash : α → NMPlatformIPRouteCmpType → β) : Prop where
  lawful : ∀ cmpType, LawfulCmpOn Set.univ fun a b => cmp a b cmpType
  /-- Hashing does not separate equal routes. -/
  hash_eq : ∀ cmpType a b, cmp a b cmpType = .eq → hash a cmpType = hash b cmpType
  /-- Routes that agree in all fields have the same meaning. -/
  semantically_of_full : ∀ a b, cmp a b .full = .eq → cmp a b .semantically = .eq
  /-- Routes with the same meaning have the same identity. -/
  id_of_semantically : ∀ a b, cmp a b .semantically = .eq → cmp a b .id = .eq
  weakId_of_id : ∀ a b, cmp a b .id = .eq → cmp a b .weakId = .eq

theorem ip4Route_coherentModes : CoherentModes ip4RouteCmp ip4RouteHashUpdate where
  lawful := RouteCoherence.ip4RouteCmp_lawful
  hash_eq _ _ _ := RouteCoherence.ip4RouteHashUpdate_congr
  semantically_of_full a b same := by
    rw [NMPObject.ip4RouteCmp_full] at same
    rw [same]
    exact (RouteCoherence.ip4RouteCmp_lawful .semantically).refl b (Set.mem_univ b)
  id_of_semantically _ _ same := (RouteCoherence.ip4RouteCmp_semantically_fields same).1
  weakId_of_id _ _ same := (RouteCoherence.ip4RouteCmp_id_fields same).1

theorem ip6Route_coherentModes : CoherentModes ip6RouteCmp ip6RouteHashUpdate where
  lawful := RouteCoherence.ip6RouteCmp_lawful
  hash_eq _ _ _ := RouteCoherence.ip6RouteHashUpdate_congr
  semantically_of_full a b same := by
    rw [NMPObject.ip6RouteCmp_full] at same
    rw [same]
    exact (RouteCoherence.ip6RouteCmp_lawful .semantically).refl b (Set.mem_univ b)
  id_of_semantically _ _ same := (RouteCoherence.ip6RouteCmp_semantically_fields same).1
  weakId_of_id _ _ same := (Ordering.then_eq_eq.mp same).1

/-- For both families, the comparisons of routes are nested total preorders that the hash functions
respect. -/
theorem ipRoute_coherent :
    CoherentModes ip4RouteCmp ip4RouteHashUpdate ∧ CoherentModes ip6RouteCmp ip6RouteHashUpdate :=
  ⟨ip4Route_coherentModes, ip6Route_coherentModes⟩

end NetworkManager
