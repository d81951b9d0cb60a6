import NetworkManager.Platform.Dump

/-!
# Notifications about routes

A notification about a route brings the cache up to date and reports the cached route, and whether
the order of the routes to the same destination is out of sync with the kernel.
-/

namespace NetworkManager

namespace NMPCache

open NMDedupMultiIndex NMPObject Option

variable {support : KernelSupport}

def sameWeakId (a b : NMPObject) : Bool := NMPObject.idxObjPart .routesByWeakId a (some b)

section

variable (support : KernelSupport) (cache : NMPCache)

/-- A route has a version in the cache. -/
def Cached (obj stored : NMPObject) : Prop :=
  cache.multiIdx.Holds .objectType stored ∧ obj.idEqual support stored = true

/-- The very same version of a route is cached. -/
def Confirms (obj : NMPObject) : Prop :=
  obj.isAlive = true ∧
    ∃ stored, cache.multiIdx.Holds .objectType stored ∧ stored.equal support obj = true

/-- There is a different route with the weak identity of the given one. -/
def HasRival (obj : NMPObject) : Prop :=
  ∃ other, cache.multiIdx.Holds .objectType other ∧ sameWeakId obj other = true ∧
    obj.idEqual support other = false

end

/-- The flags tell where the route was put: it was changed, appended or prepended. -/
def NlmFlags.tellsPlace (flags : NlmFlags) : Bool :=
  match flags.replace, flags.excl, flags.create, flags.append with
  | true, false, false, false => true
  | false, false, true, true => true
  | false, false, true, false => true
  | _, _, _, _ => false

theorem sameWeakId_of_partitionEqual {a b : NMPObject}
    (storable : (dedupMultiIdxTypeClass support .routesByWeakId).partitionable b = true)
    (shared : (dedupMultiIdxTypeClass support .routesByWeakId).partitionEqual (some a) (some b) =
      true) : sameWeakId a b = true := by
  rcases (NMDedupMultiIdxTypeClass.partitionEqual_iff _).mp shared _ rfl with rfl | same
  · have filed : idxObjPart .routesByWeakId a none = true := storable
    rw [idxObjPart_none] at filed
    obtain ⟨key, a_key⟩ := isSome_iff_exists.mp filed
    exact idxObjPart_some.mpr ⟨key, a_key, a_key⟩
  · exact same

theorem partitionEqual_of_sameWeakId {a b : NMPObject} (same : sameWeakId a b = true) :
    (dedupMultiIdxTypeClass support .routesByWeakId).partitionEqual (some a) (some b) = true := by
  refine (NMDedupMultiIdxTypeClass.partitionEqual_iff _).mpr ?_
  rintro _ ⟨⟩
  exact .inr same

theorem partitionable_of_sameWeakId {a b : NMPObject} (same : sameWeakId a b = true) :
    (dedupMultiIdxTypeClass support .routesByWeakId).partitionable b = true := by
  obtain ⟨key, -, b_key⟩ := idxObjPart_some.mp same
  show idxObjPart .routesByWeakId b none = true
  rw [idxObjPart_none, b_key]
  rfl

theorem hasRival_congr {cache : NMPCache} {a b : NMPObject} (equal : a.equal support b = true) :
    HasRival support cache a ↔ HasRival support cache b := by
  have canonical := equal_iff.mp equal
  have weak : ∀ other, sameWeakId a other = true ↔ sameWeakId b other = true := by
    intro other
    unfold sameWeakId
    rw [idxObjPart_some, idxObjPart_some, partitionKey_of_canonical canonical]
  refine exists_congr fun other => and_congr_right fun _ => and_congr (weak other) ?_
  rw [idEqual_congr (key_of_canonical canonical)]

theorem partitionable_congr {idType : NMPCacheIdType} {a b : NMPObject}
    (equal : a.equal support b = true) :
    (dedupMultiIdxTypeClass support idType).partitionable a =
      (dedupMultiIdxTypeClass support idType).partitionable b := by
  show idxObjPart idType a none = idxObjPart idType b none
  rw [idxObjPart_none, idxObjPart_none, partitionKey_of_canonical (equal_iff.mp equal)]

theorem partitionable_of_isAlive {obj : NMPObject}
    (route : obj.getType = .ip4Route ∨ obj.getType = .ip6Route) (alive : obj.isAlive = true) :
    (dedupMultiIdxTypeClass support .routesByWeakId).partitionable obj = true := by
  cases obj with
  | ip4Route route =>
    exact (Bool.and_eq_true_iff.mp alive).1
  | ip6Route route =>
    exact (Bool.and_eq_true_iff.mp alive).1
  | link _ => simp [getType] at route
  | ip4Address _ => simp [getType] at route
  | ip6Address _ => simp [getType] at route
  | routingRule _ => simp [getType] at route
  | qdisc _ => simp [getType] at route
  | tfilter _ => simp [getType] at route

section Destination

variable {cache : NMPCache} (invariant : Invariant support cache)

include invariant

theorem Invariant.lookupAll_isSome_iff (obj : NMPObject) :
    (cache.lookupAll support .routesByWeakId obj).isSome = true ↔
      ∃ other, cache.multiIdx.Holds .objectType other ∧ sameWeakId obj other = true := by
  have secondary : NMPCacheIdType.routesByWeakId ≠ .objectType := by decide
  rw [isSome_iff_exists]
  unfold lookupAll
  simp only [invariant.coherent.lookupHead_eq_some]
  constructor
  · rintro ⟨head, entry, other, tracks, shared⟩
    have filed : cache.multiIdx.Holds .routesByWeakId other := ⟨entry, head, tracks⟩
    obtain ⟨held, storable⟩ := (invariant.mirrors .routesByWeakId secondary other).mp filed
    exact ⟨other, held, sameWeakId_of_partitionEqual storable shared⟩
  · rintro ⟨other, held, same⟩
    obtain ⟨entry, head, tracks⟩ := (invariant.mirrors .routesByWeakId secondary other).mpr
      ⟨held, partitionable_of_sameWeakId same⟩
    exact ⟨head, entry, other, tracks, partitionEqual_of_sameWeakId same⟩

theorem Invariant.hasRival_iff {obj : NMPObject} {addr head : Nat}
    (tracks : cache.multiIdx.Tracks addr .routesByWeakId head obj)
    {record : NMDedupMultiHeadEntry NMPCacheIdType}
    (head_eq : cache.multiIdx.heads head = some record) :
    HasRival support cache obj ↔ record.lstEntries.length ≠ 1 := by
  have heap := invariant.coherent.heap
  obtain ⟨dirty, entry_eq⟩ := tracks.entry
  obtain ⟨lstEntries, len, tracked_head⟩ := tracks.head
  cases head_eq.symm.trans tracked_head
  have mem : addr ∈ lstEntries := (heap.mem_lstEntries head_eq).mpr ⟨_, entry_eq, rfl⟩
  have single : lstEntries.length = 1 ↔ lstEntries = [addr] := by
    constructor
    · intro one
      obtain ⟨only, rfl⟩ := List.length_eq_one_iff.mp one
      rw [List.mem_singleton.mp mem]
    · rintro rfl
      rfl
  rw [ne_eq, single, ← ne_eq, (heap.lstEntries_nodup head_eq).ne_singleton_iff]
  constructor
  · rintro ⟨other, held, same, different⟩
    obtain ⟨otherAddr, otherHead, other_tracks⟩ := (invariant.mirrors .routesByWeakId nofun
      other).mpr ⟨held, partitionable_of_sameWeakId same⟩
    obtain rfl := (heap.same_head tracks other_tracks).mp (partitionEqual_of_sameWeakId same)
    obtain ⟨otherDirty, other_eq⟩ := other_tracks.entry
    refine .inr ⟨otherAddr, (heap.mem_lstEntries head_eq).mpr ⟨_, other_eq, rfl⟩, ?_⟩
    rintro rfl
    obtain ⟨-, -, rfl⟩ := tracks.unique_head other_tracks
    rw [idEqual_iff.mpr rfl] at different
    cases different
  · rintro (empty | ⟨otherAddr, other_mem, different⟩)
    · rw [show lstEntries = [] from empty] at mem
      cases mem
    · obtain ⟨⟨other, otherDirty, otherHead⟩, other_eq, rfl⟩ :=
        (heap.mem_lstEntries head_eq).mp other_mem
      have other_tracks : cache.multiIdx.Tracks otherAddr .routesByWeakId otherHead other :=
        ⟨⟨otherDirty, other_eq⟩, ⟨lstEntries, len, head_eq⟩⟩
      obtain ⟨held, storable⟩ := (invariant.mirrors .routesByWeakId nofun other).mp
        ⟨otherAddr, otherHead, other_tracks⟩
      refine ⟨other, held, sameWeakId_of_partitionEqual storable
        ((heap.same_head tracks other_tracks).mpr rfl), ?_⟩
      rw [Bool.eq_false_iff]
      intro equal
      exact different (heap.unique tracks other_tracks (klass_idEqual_iff.mpr equal)).symm

theorem Invariant.reorderRoute_resync_iff {obj : NMPObject} {addr head : Nat}
    (tracks : cache.multiIdx.Tracks addr .objectType head obj)
    (storable : (dedupMultiIdxTypeClass support .routesByWeakId).partitionable obj = true)
    (flags : NlmFlags) :
    (cache.reorderRoute support addr flags).2.2 = true ↔
      HasRival support cache obj ∧ flags.tellsPlace = false := by
  have held : cache.multiIdx.Holds .objectType obj := ⟨addr, head, tracks⟩
  obtain ⟨entryCur, weakHead, cur_tracks⟩ :=
    (invariant.mirrors .routesByWeakId nofun obj).mpr ⟨held, storable⟩
  have shared : (dedupMultiIdxTypeClass support .routesByWeakId).partitionEqual (some obj)
      (some obj) = true :=
    (invariant.coherent.heap.same_head cur_tracks cur_tracks).mpr rfl
  have found : cache.lookupEntryWithIdxType support .routesByWeakId obj = some entryCur :=
    invariant.coherent.lookupObj_eq_some.mpr
      ⟨weakHead, obj, cur_tracks, shared, klass_idEqual_iff.mpr (idEqual_iff.mpr rfl)⟩
  obtain ⟨dirty, cur_eq⟩ := cur_tracks.entry
  obtain ⟨lstEntries, len, head_eq⟩ := cur_tracks.head
  rw [invariant.hasRival_iff cur_tracks head_eq]
  unfold NMPCache.reorderRoute
  rw [tracks_entryObj tracks, bind_some, found]
  simp only [cur_eq, bind_some, head_eq, map_some, getD_some]
  by_cases single : lstEntries.length = 1
  · rw [if_pos single]
    exact iff_of_false Bool.false_ne_true fun both => both.1 single
  · rw [if_neg single, and_iff_right single]
    obtain ⟨replace, excl, create, append⟩ := flags
    cases replace <;> cases excl <;> cases create <;> cases append <;>
      simp [NlmFlags.tellsPlace]
    split <;> rfl

end Destination

section Update

variable {cache : NMPCache} (invariant : Invariant support cache)

include invariant

/-- The new version is filed under the entry that `_idxcache_update` reports. -/
theorem Invariant.idxcacheUpdate_tracks (new : NMPObject) (isDump : Bool) :
    let updated := cache.idxcacheUpdate support (cache.lookupEntry support new) (some new) isDump
    ∃ addr head boxed, updated.2 = some addr ∧
      updated.1.multiIdx.Tracks addr .objectType head boxed ∧
      new.equal support boxed = true := by
  intro updated
  have current : EntryCurrent support cache (cache.lookupEntry support new) (some new) := rfl
  have frame := (invariant.replacesAll isDump current).frame .objectType
    (main_not_mem_updatedIds _ _)
  have order_valid := orderValid_none (dedupMultiIdxTypeClass support) cache.multiIdx
    .objectType new
  have entry_eq : updated.2 = (updateMain support cache.multiIdx (cache.lookupEntry support new)
      (some new) isDump).2 := rfl
  cases found : cache.lookupEntry support new with
  | some addr =>
    obtain ⟨head, stored, tracks, equal, -⟩ := invariant.tracked found
    have filed := (addExisting_tracks (nmpObjectClass support) new tracks
      (if isDump then .appendForce else objGetAddMode new) none).mpr
        (.inr ⟨rfl, rfl, rfl, rfl⟩)
    refine ⟨addr, head, _, ?_, frame.tracks.mpr ?_,
      invariant.coherent.interned.keeps_or_intern new stored⟩
    · rw [entry_eq, found]
      simp only [updateMain, addFull, addInternal, addExisting_outEntry tracks]
    · rw [found]
      simpa only [updateMain, addFull, addInternal] using filed
  | none =>
    have missing : cache.multiIdx.lookupObj (dedupMultiIdxTypeClass support) .objectType new =
      none := found
    have no_hint : cache.multiIdx.HeadValid (dedupMultiIdxTypeClass support) .objectType new
      .null := trivial
    obtain ⟨fresh, newHead, out_eq, -, tracks_iff⟩ := invariant.coherent.addNew_tracks missing
      (partitionable_main new) (if isDump then .appendForce else objGetAddMode new)
      order_valid no_hint
    have filed := tracks_iff.mpr (.inr ⟨rfl, rfl, rfl, rfl⟩)
    refine ⟨fresh, newHead, _, ?_, frame.tracks.mpr ?_,
      (invariant.coherent.interned.objIntern new).2.2⟩
    · rw [entry_eq, found]
      simpa only [updateMain, addFull, addInternal] using out_eq
    · rw [found]
      simpa only [updateMain, addFull, addInternal] using filed

variable {obj : NMPObject}

theorem Invariant.idxcacheUpdate_removed {entryOld : Nat}
    (found : cache.lookupEntry support obj = some entryOld) (stored : NMPObject) :
    ¬ Cached support (cache.idxcacheUpdate support (some entryOld) none false).1 obj stored := by
  obtain ⟨head, old, tracks, identical, old_eq⟩ := invariant.tracked found
  have current : EntryCurrent support cache (some entryOld) none :=
    ⟨entryOld, head, old, rfl, tracks⟩
  have main := mainUpdate invariant.coherent false current
  have frame := (invariant.replacesAll false current).frame .objectType
    (main_not_mem_updatedIds _ _)
  rintro ⟨held, equal⟩
  rcases (main.replaces.holds stored).mp (frame.holds.mp held) with
    ⟨before, different⟩ | ⟨absurd_eq, -⟩
  · have same : old.idEqual support stored = true := by
      rw [idEqual_iff] at identical equal ⊢
      rw [← identical, equal]
    have equal_old := main_unique invariant.coherent ⟨entryOld, head, tracks⟩ before same
    exact different (old_eq.trans (congrArg some equal_old))
  · cases absurd_eq

/-- After a notification about a route that is gone, nothing is reported, and nothing of the route
is cached. -/
theorem Invariant.updateRouteEntry_dead (dead : obj.isAlive = false) (isDump : Bool) :
    (cache.updateRouteEntry support obj isDump).2.2 = none ∧
    ∀ stored, ¬ Cached support (cache.updateRouteEntry support obj isDump).1 obj stored := by
  unfold NMPCache.updateRouteEntry
  cases found : cache.lookupEntry support obj with
  | none =>
    dsimp only
    rw [dead, if_neg Bool.false_ne_true]
    refine ⟨rfl, ?_⟩
    rintro stored ⟨⟨addr, head, tracks⟩, equal⟩
    rw [(lookupEntry_eq_some invariant.coherent).mpr ⟨head, stored, tracks, equal⟩] at found
    cases found
  | some entryOld =>
    dsimp only
    rw [dead, if_neg Bool.false_ne_true]
    exact ⟨rfl, invariant.idxcacheUpdate_removed found⟩

theorem Invariant.updateRouteEntry_alive (alive : obj.isAlive = true)
    (changed : ¬ Confirms support cache obj) (isDump : Bool) :
    ∃ addr head boxed, (cache.updateRouteEntry support obj isDump).2.2 = some addr ∧
      (cache.updateRouteEntry support obj isDump).1.multiIdx.Tracks addr .objectType head boxed ∧
      obj.equal support boxed = true := by
  have updated := invariant.idxcacheUpdate_tracks obj isDump
  unfold NMPCache.updateRouteEntry
  cases found : cache.lookupEntry support obj with
  | none =>
    rw [found] at updated
    dsimp only
    rw [if_pos alive]
    exact updated
  | some entryOld =>
    obtain ⟨head, old, tracks, identical, old_eq⟩ := invariant.tracked found
    have different : old.equal support obj = false := by
      rw [Bool.eq_false_iff]
      exact fun equal => changed ⟨alive, old, ⟨entryOld, head, tracks⟩, equal⟩
    rw [found] at updated
    dsimp only
    rw [if_pos alive, old_eq, map_some, getD_some, different, if_neg Bool.false_ne_true]
    exact updated

theorem Invariant.updateNetlinkRoute_holds (obj : NMPObject) (isDump : Bool) (flags : NlmFlags)
    (stored : NMPObject) :
    (cache.updateNetlinkRoute support obj isDump flags).cache.multiIdx.Holds .objectType stored ↔
      (cache.updateRouteEntry support obj isDump).1.multiIdx.Holds .objectType stored := by
  have updated := invariant.updateRouteEntry obj isDump
  unfold NMPCache.updateNetlinkRoute
  dsimp only
  split
  · exact Iff.rfl
  · split
    · exact Iff.rfl
    · rename_i entryNew _
      exact exists_congr fun addr => exists_congr fun head =>
        (updated.rearranges_reorderRoute entryNew flags).tracks addr .objectType head stored

theorem Invariant.updateNetlinkRoute_objNew (changed : ¬ Confirms support cache obj) (isDump : Bool)
    (flags : NlmFlags) (stored : NMPObject) :
    let result := cache.updateNetlinkRoute support obj isDump flags
    result.objNew = some stored ↔ Cached support result.cache obj stored := by
  intro result
  have reported : result.objNew = (cache.updateRouteEntry support obj isDump).2.2.bind
      (entryObj (cache.updateRouteEntry support obj isDump).1.multiIdx) := by
    show (cache.updateNetlinkRoute support obj isDump flags).objNew = _
    unfold NMPCache.updateNetlinkRoute
    dsimp only
    split
    · rfl
    · split
      · rename_i none_eq
        rw [none_eq]
      · rename_i entryNew some_eq
        rw [some_eq]
  unfold Cached
  rw [reported, show result.cache.multiIdx.Holds .objectType stored ↔ _ from
    invariant.updateNetlinkRoute_holds obj isDump flags stored]
  by_cases alive : obj.isAlive = true
  · obtain ⟨addr, head, boxed, entry_eq, tracks, equal⟩ :=
      invariant.updateRouteEntry_alive alive changed isDump
    have identical : obj.idEqual support boxed = true :=
      idEqual_iff.mpr (key_of_canonical (equal_iff.mp equal))
    rw [entry_eq, bind_some, tracks_entryObj tracks, Option.some.injEq]
    constructor
    · rintro rfl
      exact ⟨⟨addr, head, tracks⟩, identical⟩
    · rintro ⟨held, same⟩
      refine main_unique (invariant.updateRouteEntry obj isDump).coherent ⟨addr, head, tracks⟩ held
        ?_
      rw [idEqual_iff] at identical same ⊢
      rw [← identical, same]
  · obtain ⟨none_eq, gone⟩ := invariant.updateRouteEntry_dead (Bool.eq_false_iff.mpr alive) isDump
    rw [none_eq]
    exact iff_of_false nofun (gone stored)

/-- A resync is asked for if there are rivals, and the flags do not tell the place of a route that
was cached, or tell that a route was replaced that is gone. -/
theorem Invariant.updateNetlinkRoute_resync
    (route : obj.getType = .ip4Route ∨ obj.getType = .ip6Route)
    (changed : ¬ Confirms support cache obj) (isDump : Bool) (flags : NlmFlags) :
    let result := cache.updateNetlinkRoute support obj isDump flags
    result.resyncRequired = true ↔ isDump = false ∧ HasRival support result.cache obj ∧
      if obj.isAlive then flags.tellsPlace = false else flags.replace = true := by
  intro result
  have rivals : HasRival support result.cache obj ↔
      HasRival support (cache.updateRouteEntry support obj isDump).1 obj :=
    exists_congr fun other =>
      and_congr_left' (invariant.updateNetlinkRoute_holds obj isDump flags other)
  have updated := invariant.updateRouteEntry obj isDump
  rw [rivals]
  show (cache.updateNetlinkRoute support obj isDump flags).resyncRequired = true ↔ _
  unfold NMPCache.updateNetlinkRoute
  dsimp only
  cases isDump with
  | true =>
    rw [if_pos rfl]
    exact iff_of_false Bool.false_ne_true fun both => Bool.false_ne_true both.1.symm
  | false =>
    rw [if_neg Bool.false_ne_true, and_iff_right rfl]
    by_cases alive : obj.isAlive = true
    · obtain ⟨addr, head, boxed, entry_eq, tracks, equal⟩ :=
        invariant.updateRouteEntry_alive alive changed false
      have storable : (dedupMultiIdxTypeClass support .routesByWeakId).partitionable boxed =
          true := by
        rw [← partitionable_congr equal]
        exact partitionable_of_isAlive route alive
      rw [entry_eq, if_pos alive, hasRival_congr equal]
      exact updated.reorderRoute_resync_iff tracks storable flags
    · obtain ⟨none_eq, gone⟩ :=
        invariant.updateRouteEntry_dead (Bool.eq_false_iff.mpr alive) false
      rw [none_eq, if_neg alive]
      dsimp only
      rw [Bool.and_eq_true, updated.lookupAll_isSome_iff, and_comm]
      refine and_congr_left' (exists_congr fun other => and_congr_right fun held => ?_)
      refine (and_iff_left ?_).symm
      rw [Bool.eq_false_iff]
      exact fun same => gone other ⟨held, same⟩

end Update

/-- In every reachable state, a notification about a route reports the cached version of the route,
and asks for a resync if the order of the routes to the same destination is in doubt; unless the
very same version was cached before. -/
theorem updateNetlinkRoute_outputs (support : KernelSupport) (useUdev : Bool) (ops : List CacheOp)
    (lawful : (machine support).Lawful (NMPCache.new useUdev) ops) (obj : NMPObject)
    (route : obj.getType = .ip4Route ∨ obj.getType = .ip6Route) (isDump : Bool)
    (flags : NlmFlags) :
    let cache := (machine support).run (NMPCache.new useUdev) ops
    let result := cache.updateNetlinkRoute support obj isDump flags
    ¬ Confirms support cache obj →
      (∀ stored, result.objNew = some stored ↔ Cached support result.cache obj stored) ∧
      (result.resyncRequired = true ↔ isDump = false ∧ HasRival support result.cache obj ∧
        if obj.isAlive then flags.tellsPlace = false else flags.replace = true) := by
  intro cache result changed
  have invariant : Invariant support cache :=
    (machine support).run_preserves (fun _ _ kept callable => Invariant.perform kept callable)
      (Invariant.new support useUdev) lawful
  exact ⟨invariant.updateNetlinkRoute_objNew changed isDump flags,
    invariant.updateNetlinkRoute_resync route changed isDump flags⟩

/-- A default route of the first interface. -/
def defaultRouteVia (gateway : InAddr) : NMPlatformIP4Route where
  ifindex := 1
  rtSource := 4
  plen := 0
  lockWindow := false
  lockCwnd := false
  lockInitcwnd := false
  lockInitrwnd := false
  lockMtu := false
  rRtmFlags := 0
  mss := 0
  window := 0
  cwnd := 0
  initcwnd := 0
  initrwnd := 0
  mtu := 0
  metric := 100
  tableCoerced := 0
  network := 0
  gateway := gateway
  prefSrc := 0
  tos := 0
  scopeInv := 0

/-- The first route of a destination is prepended. -/
theorem updateNetlinkRoute_outputs_first :
    let result := (NMPCache.new true).updateNetlinkRoute ⟨true, true, true, true⟩
      (.ip4Route (defaultRouteVia 1)) false ⟨false, false, true, false⟩
    result.objNew = some (.ip4Route (defaultRouteVia 1)) ↔
      Cached ⟨true, true, true, true⟩ result.cache (.ip4Route (defaultRouteVia 1))
        (.ip4Route (defaultRouteVia 1)) := by
  refine (updateNetlinkRoute_outputs ⟨true, true, true, true⟩ true [] trivial
    (.ip4Route (defaultRouteVia 1)) (.inl rfl) false ⟨false, false, true, false⟩ ?_).1 _
  rintro ⟨-, stored, ⟨addr, head, tracks⟩, -⟩
  obtain ⟨dirty, entry_eq⟩ := tracks.entry
  cases entry_eq

/-- A second default route with the same metric: `ip route add` creates it exclusively, which is not
expected, and a resync is asked for although nothing was replaced. -/
theorem updateNetlinkRoute_outputs_fails :
    let cache := (machine ⟨true, true, true, true⟩).run (NMPCache.new true)
      [.updateNetlinkRoute (.ip4Route (defaultRouteVia 1)) false ⟨false, false, true, false⟩]
    let flags : NlmFlags := ⟨false, true, true, false⟩
    flags.replace = false ∧
    (cache.updateNetlinkRoute ⟨true, true, true, true⟩ (.ip4Route (defaultRouteVia 2)) false
      flags).resyncRequired = true := by
  decide +kernel

end NMPCache

end NetworkManager
