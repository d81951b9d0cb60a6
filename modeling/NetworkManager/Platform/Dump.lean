import NetworkManager.Dedup.Partition
import NetworkManager.Platform.CacheIndex

/-!
# Replaying a dump

A kernel dump lists all objects of one type.  The cache marks what it has, takes over every object
of the dump, and removes what is still marked.
-/

namespace NetworkManager

namespace NMPCache

open List NMDedupMultiIdxTypeClass NMDedupMultiIndex NMPObject

variable {support : KernelSupport}

/-- The objects of the main list of a type with their marks, in order. -/
def mainRows (support : KernelSupport) (cache : NMPCache) (selectObj : NMPObject) :
    List (NMPObject × Bool) :=
  cache.multiIdx.partitionRows (dedupMultiIdxTypeClass support) .objectType selectObj

/-- The objects of the main list of a type, in order. -/
def mainObjs (support : KernelSupport) (cache : NMPCache) (selectObj : NMPObject) :
    List NMPObject :=
  listObjs cache.multiIdx (cache.lookupAll support .objectType selectObj)

/-- Marking, taking over the objects of a dump, and pruning. -/
def replayDump (support : KernelSupport) (drivers : LinkDrivers) (selectObj : NMPObject)
    (objs : List NMPObject) (cache : NMPCache) : NMPCache :=
  (objs.foldl (fun cache obj => (cache.updateNetlink support drivers obj true).cache)
    (cache.dirtySetAllMain support .objectType selectObj)).pruneOneType support .objectType
      selectObj

/-- The last version of every object in a dump, in the order of these last versions. -/
def lastOccurrences (support : KernelSupport) : List NMPObject → List NMPObject
  | [] => []
  | obj :: rest =>
    if rest.any (obj.idEqual support) then lastOccurrences support rest
    else obj :: lastOccurrences support rest

theorem main_shared_iff {a b : NMPObject} :
    (dedupMultiIdxTypeClass support .objectType).partitionEqual (some a) (some b) = true ↔
      a.getType = b.getType := by
  rw [partitionEqual_iff]
  constructor
  · intro shared
    rcases shared _ rfl with rfl | shared
    · rfl
    · simpa [idxObjPart] using shared
  · rintro types _ ⟨⟩
    exact Or.inr (by simp [idxObjPart, types])

theorem klass_idEqual (idType : NMPCacheIdType) (a b : NMPObject) :
    (dedupMultiIdxTypeClass support idType).idEqual a b = a.idEqual support b :=
  Bool.eq_iff_iff.mpr klass_idEqual_iff

variable {cache : NMPCache}

theorem mainRows_congr (invariant : Invariant support cache) {a b : NMPObject}
    (types : a.getType = b.getType) : mainRows support cache a = mainRows support cache b :=
  invariant.coherent.partitionRows_congr (main_shared_iff.mpr types)

/-- `_idxcache_update` of a dumped object puts its new version at the end, unmarked. -/
theorem Invariant.idxcacheUpdate_rows (invariant : Invariant support cache) (obj : NMPObject) :
    ∃ boxed, obj.equal support boxed = true ∧
      mainRows support
          (cache.idxcacheUpdate support (cache.lookupEntry support obj) (some obj) true).1 obj =
        ((mainRows support cache obj).filter fun row => !obj.idEqual support row.1) ++
          [(boxed, false)] := by
  have current : EntryCurrent support cache (cache.lookupEntry support obj) (some obj) := rfl
  have main := mainUpdate invariant.coherent true current
  have others := invariant.replacesAll true current
  have frame := others.frame .objectType (main_not_mem_updatedIds _ _)
  rw [mainRows, main.replaces.coherent.frame_rows others.coherent frame]
  simp only [mainRows, ← klass_idEqual .objectType]
  cases found : cache.lookupEntry support obj with
  | some addr =>
    obtain ⟨head, stored, tracks, equal, -⟩ := invariant.tracked found
    exact ⟨_, invariant.coherent.interned.keeps_or_intern obj stored,
      invariant.coherent.addExisting_rows tracks (main_shared equal)
        (klass_idEqual_iff.mpr equal)⟩
  | none =>
    exact ⟨_, (invariant.coherent.interned.objIntern obj).2.2,
      invariant.coherent.addNew_rows found (partitionable_main obj)⟩

theorem entryReorder_entries (multiIdx : Index) (addr : Nat) (entryOrder : Option Nat)
    (orderAfter : Bool) : (multiIdx.entryReorder addr entryOrder orderAfter).1.entries =
      multiIdx.entries := by
  unfold entryReorder setLstEntries
  split
  · rfl
  · split <;> rfl

variable {obj : NMPObject} {selectObj : NMPObject} {record : NMDedupMultiHeadEntry NMPCacheIdType}

theorem entryReorder_heads {multiIdx : Index} {addr owner : Nat} {idType : NMPCacheIdType}
    (tracks : multiIdx.Tracks addr idType owner obj) (entryOrder : Option Nat) (orderAfter : Bool)
    {head : Nat} (head_eq : multiIdx.heads head = some record) (other : record.idxType ≠ idType) :
    (multiIdx.entryReorder addr entryOrder orderAfter).1.heads head = some record := by
  obtain ⟨dirty, entry_eq⟩ := tracks.entry
  obtain ⟨lstEntries, len, owner_eq⟩ := tracks.head
  have different : head ≠ owner := by
    rintro rfl
    cases head_eq.symm.trans owner_eq
    exact other rfl
  simp [entryReorder, entry_eq, setLstEntries, owner_eq, setHead, different, head_eq]

theorem updateOrderLoop_main (obj : NMPObject) {idTypes : List NMPCacheIdType}
    (no_main : NMPCacheIdType.objectType ∉ idTypes) {multiIdx : Index}
    (coherent : multiIdx.Coherent (dedupMultiIdxTypeClass support)) {head : Nat}
    (head_eq : multiIdx.heads head = some record) (main : record.idxType = .objectType) :
    (updateOrderLoop support obj idTypes multiIdx).entries = multiIdx.entries ∧
      (updateOrderLoop support obj idTypes multiIdx).heads head = some record := by
  induction idTypes generalizing multiIdx with
  | nil => exact ⟨rfl, head_eq⟩
  | cons idType rest ih =>
    have rest_no_main := fun rest_mem => no_main (mem_cons_of_mem _ rest_mem)
    rw [updateOrderLoop]
    split
    · rename_i addr found
      obtain ⟨owner, stored, tracks, -, -⟩ := coherent.lookupObj_eq_some.mp found
      have secondary : record.idxType ≠ idType := by
        rintro rfl
        exact no_main (by simp [main])
      obtain ⟨entries_eq, kept⟩ := ih rest_no_main
        (rearranges_moveToEnd coherent tracks true).coherent
        (entryReorder_heads tracks none true head_eq secondary)
      exact ⟨entries_eq.trans (entryReorder_entries ..), kept⟩
    · exact ih rest_no_main coherent head_eq

/-- A dumped object that did not change moves to the end and loses its mark. -/
theorem Invariant.confirm_rows (invariant : Invariant support cache) {addr head : Nat}
    {stored : NMPObject} (tracks : cache.multiIdx.Tracks addr .objectType head stored) :
    mainRows support { cache with multiIdx :=
        (idxcacheUpdateOrderForDump support cache.multiIdx addr).entrySetDirty addr false } stored =
      ((mainRows support cache stored).filter fun row => !stored.idEqual support row.1) ++
        [(stored, false)] := by
  have coherent := invariant.coherent
  have after := (rearranges_confirm coherent tracks true).coherent
  obtain ⟨dirty, entry_eq⟩ := tracks.entry
  obtain ⟨lstEntries, len, head_eq⟩ := tracks.head
  have shared := partitionEqual_refl
    (dedupMultiIdxTypeClass support .objectType) stored
  have nodup := coherent.heap.lstEntries_nodup head_eq
  have moved_head : (cache.multiIdx.entryReorder addr none true).1.heads head =
      some { idxType := .objectType, lstEntries := lstEntries.erase addr ++ [addr], len } := by
    simp [entryReorder, entry_eq, head_eq, reorderList,
      IntrusiveList.moveBefore_head nodup, setLstEntries,
      setHead]
  have moved := (rearranges_moveToEnd coherent tracks true).coherent
  have obj_eq : entryObj (cache.multiIdx.entryReorder addr none true).1 addr = some stored := by
    simp [entryObj, entryReorder_entries, entry_eq]
  obtain ⟨entries_eq, kept_head⟩ := updateOrderLoop_main stored
    (main_not_mem_secondaryCacheIds stored.getType) moved moved_head rfl
  have ordered_eq : idxcacheUpdateOrderForDump support cache.multiIdx addr =
      updateOrderLoop support stored stored.getType.secondaryCacheIds
        (cache.multiIdx.entryReorder addr none true).1 := by
    simp only [idxcacheUpdateOrderForDump, obj_eq]
  rw [entryReorder_entries] at entries_eq
  rw [if_pos rfl] at after
  rw [ordered_eq] at after ⊢
  generalize updateOrderLoop support stored stored.getType.secondaryCacheIds
    (cache.multiIdx.entryReorder addr none true).1 = ordered at *
  have marked : ordered.entrySetDirty addr false =
      ordered.setEntry addr (some { obj := stored, dirty := false, head }) := by
    simp [entrySetDirty, entries_eq, entry_eq]
  simp only [mainRows, ← klass_idEqual .objectType]
  rw [marked] at after ⊢
  refine coherent.rows_moved after tracks shared (idEqual_refl _ _) shared
    (Function.update_self ..) kept_head rfl ?_ ?_
  · rw [coherent.partitionEntries_eq tracks shared head_eq]
  · intro other different
    simp [setEntry, different, entries_eq]

theorem idEqual_congr {a b : NMPObject} (same : a.key support = b.key support) (c : NMPObject) :
    a.idEqual support c = b.idEqual support c := by
  refine Bool.eq_iff_iff.mpr ?_
  rw [NMPObject.idEqual_iff, NMPObject.idEqual_iff, same]

/-- `nmp_cache_update_netlink` for an object that is alive and not a link. -/
theorem updateNetlink_not_link (cache : NMPCache) (drivers : LinkDrivers)
    (not_link : obj.getType ≠ .link) (alive : obj.isAlive = true) (isDump : Bool) :
    (cache.lookupEntry support obj = none →
      cache.updateNetlink support drivers obj isDump =
        cache.updateTo support none obj isDump .added) ∧
    ∀ addr, cache.lookupEntry support obj = some addr →
      cache.updateNetlink support drivers obj isDump =
        cache.updateAlive support addr obj isDump := by
  cases obj with
  | link link => exact absurd rfl not_link
  | _ =>
    constructor
    · intro missing
      simp only [NMPCache.updateNetlink, missing, alive, if_true]
    · intro addr found
      simp only [NMPCache.updateNetlink, found, alive, if_true]

/-- `nmp_cache_update_netlink` puts an object of a dump at the end, unmarked. -/
theorem Invariant.updateNetlink_rows (invariant : Invariant support cache) (drivers : LinkDrivers)
    (not_link : obj.getType ≠ .link) (alive : obj.isAlive = true) :
    ∃ boxed, obj.equal support boxed = true ∧
      mainRows support (cache.updateNetlink support drivers obj true).cache obj =
        ((mainRows support cache obj).filter fun row => !obj.idEqual support row.1) ++
          [(boxed, false)] := by
  have updated := invariant.idxcacheUpdate_rows obj
  obtain ⟨if_missing, if_found⟩ := cache.updateNetlink_not_link drivers not_link alive true
  cases found : cache.lookupEntry support obj with
  | none =>
    rw [found] at updated
    rw [if_missing found]
    exact updated
  | some addr =>
    rw [found] at updated
    obtain ⟨head, stored, tracks, equal, obj_eq⟩ := invariant.tracked found
    rw [if_found addr found]
    simp only [NMPCache.updateAlive, obj_eq]
    split
    · rename_i unchanged
      have same := NMPObject.idEqual_iff.mp equal
      have types : obj.getType = stored.getType := by
        rw [← key_getType support obj, same, key_getType]
      have kept := invariant.rearranges (rearranges_confirm invariant.coherent tracks true)
      refine ⟨stored, equal_iff.mpr (equal_iff.mp unchanged).symm, ?_⟩
      simp only [idEqual_congr same]
      rw [mainRows_congr invariant types]
      exact (mainRows_congr kept types).trans (invariant.confirm_rows tracks)
    · exact updated

theorem dirtySetLoop_main (addrs : List Nat) (cache : NMPCache) :
    cache.dirtySetLoop support .objectType addrs =
      { cache with multiIdx := dirtySetList addrs cache.multiIdx } := by
  induction addrs generalizing cache with
  | nil => rfl
  | cons addr rest ih => simp [dirtySetLoop, reresolveMainEntry, ih, dirtySetList]

/-- `nmp_cache_dirty_set_all_main` marks the whole list. -/
theorem Invariant.dirtySet_mainRows (invariant : Invariant support cache) (selectObj : NMPObject) :
    mainRows support (cache.dirtySetAllMain support .objectType selectObj) selectObj =
      (mainRows support cache selectObj).map fun row => (row.1, true) := by
  rw [dirtySetAllMain, dirtySetLoop_main]
  exact invariant.coherent.dirtySet_rows .objectType selectObj

theorem Invariant.pruneEntry_main (invariant : Invariant support cache) {addr : Nat} {dirty : Bool}
    (listed : addr ∈ cache.multiIdx.partitionEntries (dedupMultiIdxTypeClass support) .objectType
      selectObj) (row_eq : cache.multiIdx.rowAt addr = some (obj, dirty)) :
    if dirty then
      (cache.pruneEntry support .objectType addr).multiIdx.partitionEntries
          (dedupMultiIdxTypeClass support) .objectType selectObj =
        (cache.multiIdx.partitionEntries (dedupMultiIdxTypeClass support) .objectType
          selectObj).erase addr ∧
      ∀ other ∈ cache.multiIdx.partitionEntries (dedupMultiIdxTypeClass support) .objectType
        selectObj, other ≠ addr →
        (cache.pruneEntry support .objectType addr).multiIdx.rowAt other =
          cache.multiIdx.rowAt other
    else cache.pruneEntry support .objectType addr = cache := by
  obtain ⟨head, stored, tracks, shared⟩ := invariant.coherent.mem_partitionEntries.mp listed
  obtain ⟨mark, entry_eq⟩ := tracks.entry
  have row_stored : stored = obj ∧ mark = dirty := by
    simpa [NMDedupMultiIndex.rowAt, entry_eq] using row_eq
  obtain ⟨rfl, rfl⟩ := row_stored
  have found : cache.lookupEntry support stored = some addr :=
    (lookupEntry_eq_some invariant.coherent).mpr
      ⟨head, stored, tracks, NMPObject.idEqual_iff.mpr rfl⟩
  cases mark with
  | false => simp [pruneEntry, reresolveMainEntry, entry_eq]
  | true =>
    have pruned : cache.pruneEntry support .objectType addr =
        (cache.idxcacheUpdate support (some addr) none false).1 := by
      simp [pruneEntry, reresolveMainEntry, entry_eq, NMPCache.remove, found]
    have current : EntryCurrent support cache (some addr) none :=
      ⟨addr, head, stored, rfl, tracks⟩
    have main := mainUpdate invariant.coherent false current
    have others := invariant.replacesAll false current
    have frame := others.frame .objectType (main_not_mem_updatedIds _ _)
    have after := main.replaces.coherent
    rw [if_pos rfl, pruned, after.frame_partitionEntries others.coherent frame]
    have removed : (updateMain support cache.multiIdx (some addr) none false).1 =
        (cache.multiIdx.removeEntryInternal (dedupMultiIdxTypeClass support) addr).1 := rfl
    rw [removed] at frame after ⊢
    constructor
    · rw [after.partitionEntries_congr shared, invariant.coherent.partitionEntries_congr shared]
      exact invariant.coherent.removeEntry_partitionEntries tracks
    · intro other other_listed different
      obtain ⟨otherHead, other_obj, other_tracks, -⟩ :=
        invariant.coherent.mem_partitionEntries.mp other_listed
      rw [frame.rowAt ((invariant.coherent.removeEntryInternal_tracks addr).mpr
        ⟨other_tracks, different⟩)]
      exact invariant.coherent.removeEntry_rowAt tracks other different

/-- The loop of `cache_prune_one_type` keeps the entries before it and drops the marked ones. -/
theorem Invariant.pruneLoop_rows (selectObj : NMPObject) (addrs : List Nat) (kept : List Nat)
    (invariant : Invariant support cache)
    (listed : cache.multiIdx.partitionEntries (dedupMultiIdxTypeClass support) .objectType
      selectObj = kept ++ addrs) :
    mainRows support (cache.pruneLoop support .objectType addrs) selectObj =
      kept.filterMap cache.multiIdx.rowAt ++
        (addrs.filterMap cache.multiIdx.rowAt).filter fun row => !row.2 := by
  induction addrs generalizing cache kept with
  | nil => simp [mainRows, NMPCache.pruneLoop, partitionRows, listed]
  | cons addr rest ih =>
    have addr_listed : addr ∈ cache.multiIdx.partitionEntries (dedupMultiIdxTypeClass support)
        .objectType selectObj := by simp [listed]
    obtain ⟨head, stored, tracks, -⟩ := invariant.coherent.mem_partitionEntries.mp addr_listed
    obtain ⟨dirty, entry_eq⟩ := tracks.entry
    have row_eq : cache.multiIdx.rowAt addr = some (stored, dirty) := by
      simp [NMDedupMultiIndex.rowAt, entry_eq]
    have step := invariant.pruneEntry_main addr_listed row_eq
    have next : Invariant support (cache.pruneEntry support .objectType addr) :=
      Invariant.pruneLoop .objectType [addr] invariant
    rw [NMPCache.pruneLoop]
    cases dirty with
    | false =>
      rw [if_neg (by simp)] at step
      rw [step, ih (kept ++ [addr]) invariant (by simp [listed])]
      simp [row_eq]
    | true =>
      rw [if_pos rfl] at step
      obtain ⟨entries_eq, rows_eq⟩ := step
      have nodup := invariant.coherent.partitionEntries_nodup .objectType selectObj
      rw [listed] at nodup entries_eq rows_eq
      have addr_new := (nodup_middle.mp nodup)
      obtain ⟨not_mem, -⟩ := nodup_cons.mp addr_new
      have erased : (kept ++ addr :: rest).erase addr = kept ++ rest := by
        rw [erase_append_right _ (fun member => not_mem (by simp [member]))]
        simp
      have same_rows : ∀ addrs : List Nat, (∀ other ∈ addrs, other ∈ kept ++ rest) →
          addrs.filterMap (cache.pruneEntry support .objectType addr).multiIdx.rowAt =
            addrs.filterMap cache.multiIdx.rowAt := by
        intro addrs within
        refine filterMap_congr fun other member => rows_eq other ?_ ?_
        · have := within other member
          simp only [mem_append, mem_cons] at this ⊢
          tauto
        · rintro rfl
          exact not_mem (within other member)
      rw [ih kept next (entries_eq.trans erased), same_rows kept (by simp +contextual),
        same_rows rest (by simp +contextual)]
      simp [row_eq]

/-- `cache_prune_one_type` drops the marked objects. -/
theorem Invariant.prune_mainRows (invariant : Invariant support cache) (selectObj : NMPObject) :
    mainRows support (cache.pruneOneType support .objectType selectObj) selectObj =
      (mainRows support cache selectObj).filter fun row => !row.2 :=
  invariant.pruneLoop_rows selectObj _ [] rfl

/-- Taking over the objects of a dump drops the versions before them and appends the last
occurrences. -/
theorem Invariant.foldl_mainRows (not_link : selectObj.getType ≠ .link) (drivers : LinkDrivers)
    (objs : List NMPObject)
    (dumped : ∀ obj ∈ objs, obj.getType = selectObj.getType ∧ obj.isAlive = true)
    (invariant : Invariant support cache) :
    ∃ stored, List.Forall₂ (fun obj boxed => obj.equal support boxed = true)
        (lastOccurrences support objs) stored ∧
      mainRows support (objs.foldl
          (fun cache obj => (cache.updateNetlink support drivers obj true).cache) cache) selectObj =
        ((mainRows support cache selectObj).filter fun row =>
          !objs.any fun obj => obj.idEqual support row.1) ++ stored.map fun obj => (obj, false) := by
  induction objs generalizing cache with
  | nil => exact ⟨[], Forall₂.nil, by simp⟩
  | cons obj rest ih =>
    obtain ⟨types, alive⟩ := dumped obj mem_cons_self
    have next := invariant.updateNetlink drivers obj true
    obtain ⟨boxed, equal, rows_eq⟩ :=
      invariant.updateNetlink_rows drivers (types ▸ not_link) alive
    rw [mainRows_congr next types, mainRows_congr invariant types] at rows_eq
    obtain ⟨stored, last, final_eq⟩ :=
      ih (fun other member => dumped other (mem_cons_of_mem _ member)) next
    have same : obj.key support = boxed.key support :=
      key_of_canonical (equal_iff.mp equal)
    have any_eq : (rest.any fun other => other.idEqual support boxed) =
        rest.any (obj.idEqual support) := by
      congr 1
      funext other
      refine Bool.eq_iff_iff.mpr ?_
      rw [NMPObject.idEqual_iff, NMPObject.idEqual_iff, same, eq_comm]
    have old_rows : ((mainRows support cache selectObj).filter fun row =>
          !obj.idEqual support row.1).filter (fun row =>
          !rest.any fun other => other.idEqual support row.1) =
        (mainRows support cache selectObj).filter fun row =>
          !(obj :: rest).any fun other => other.idEqual support row.1 := by
      rw [filter_filter]
      simp [Bool.and_comm]
    rw [foldl_cons, final_eq, rows_eq, filter_append, old_rows, lastOccurrences]
    cases again : rest.any (obj.idEqual support) with
    | true =>
      exact ⟨stored, by simpa using last, by simp [any_eq, again]⟩
    | false =>
      refine ⟨boxed :: stored, ?_, by simp [any_eq, again]⟩
      rw [if_neg (by simp)]
      exact Forall₂.cons equal last

theorem mainObjs_eq (cache : NMPCache) (selectObj : NMPObject) :
    mainObjs support cache selectObj = (mainRows support cache selectObj).map Prod.fst := by
  rw [mainRows, partitionRows, map_filterMap]
  refine filterMap_congr fun addr _ => ?_
  simp only [entryObj, rowAt, Option.map_map]
  rfl

theorem Invariant.replayDump_mainRows (invariant : Invariant support cache) (drivers : LinkDrivers)
    (not_link : selectObj.getType ≠ .link) {objs : List NMPObject}
    (dumped : ∀ obj ∈ objs, obj.getType = selectObj.getType ∧ obj.isAlive = true) :
    ∃ stored, List.Forall₂ (fun obj boxed => obj.equal support boxed = true)
        (lastOccurrences support objs) stored ∧
      mainRows support (replayDump support drivers selectObj objs cache) selectObj =
        stored.map fun obj => (obj, false) := by
  have marked := invariant.dirtySetLoop .objectType
    (cache.lookupEntries support .objectType selectObj)
  obtain ⟨stored, last, rows_eq⟩ := Invariant.foldl_mainRows not_link drivers objs dumped marked
  have updated : Invariant support (objs.foldl
      (fun cache obj => (cache.updateNetlink support drivers obj true).cache)
      (cache.dirtySetAllMain support .objectType selectObj)) :=
    foldlRecOn objs _ marked fun _ kept obj _ => kept.updateNetlink drivers obj true
  refine ⟨stored, last, ?_⟩
  rw [replayDump, updated.prune_mainRows]
  refine (congrArg _ rows_eq).trans ?_
  rw [filter_append]
  have old_gone : (((mainRows support (cache.dirtySetAllMain support .objectType selectObj)
      selectObj).filter fun row => !objs.any fun obj => obj.idEqual support row.1).filter
      fun row => !row.2) = [] := by
    rw [invariant.dirtySet_mainRows, filter_eq_nil_iff]
    intro row row_mem
    obtain ⟨old, -, rfl⟩ := mem_map.mp (mem_filter.mp row_mem).1
    simp
  refine (congrArg (· ++ _) old_gone).trans ?_
  rw [nil_append, filter_eq_self]
  intro row row_mem
  obtain ⟨obj, -, rfl⟩ := mem_map.mp row_mem
  rfl

theorem pairwise_keys (objs : List NMPObject) :
    (objs.Pairwise fun a b => a.idEqual support b = false) ↔
      (objs.map (NMPObject.key support)).Pairwise (· ≠ ·) := by
  rw [pairwise_map]
  simp only [← NMPObject.idEqual_iff, ne_eq, Bool.not_eq_true]

theorem lastOccurrences_pairwise (objs : List NMPObject) :
    (lastOccurrences support objs).Pairwise fun a b => a.idEqual support b = false := by
  have members : ∀ objs : List NMPObject, ∀ obj ∈ lastOccurrences support objs, obj ∈ objs := by
    intro objs
    induction objs with
    | nil => simp [lastOccurrences]
    | cons first rest ih =>
      intro obj member
      rw [lastOccurrences] at member
      split at member
      · exact mem_cons_of_mem _ (ih obj member)
      · rcases mem_cons.mp member with rfl | later
        · exact mem_cons_self
        · exact mem_cons_of_mem _ (ih obj later)
  induction objs with
  | nil => exact List.Pairwise.nil
  | cons obj rest ih =>
    rw [lastOccurrences]
    split
    · exact ih
    · rename_i last
      refine List.Pairwise.cons (fun other member => ?_) ih
      rw [any_eq_true, not_exists] at last
      exact Bool.eq_false_iff.mpr fun equal => last other ⟨members rest other member, equal⟩

/-- A dump replaces the main list of its type: from every reachable state, marking, taking over
the dump and pruning leave the last version of every dumped object, in the order of the last
occurrences, and nothing else. -/
theorem replayDump_mainObjs (support : KernelSupport) (useUdev : Bool) (ops : List CacheOp)
    (lawful : (machine support).Lawful (NMPCache.new useUdev) ops) (drivers : LinkDrivers)
    (selectObj : NMPObject) (not_link : selectObj.getType ≠ .link) (objs : List NMPObject)
    (dumped : ∀ obj ∈ objs, obj.getType = selectObj.getType ∧ obj.isAlive = true) :
    let cache := (machine support).run (NMPCache.new useUdev) ops
    let after := replayDump support drivers selectObj objs cache
    Forall₂ (fun obj stored => obj.equal support stored = true)
        (lastOccurrences support objs) (mainObjs support after selectObj) ∧
      (mainObjs support after selectObj).Pairwise fun a b => a.idEqual support b = false := by
  have invariant : Invariant support ((machine support).run (NMPCache.new useUdev) ops) :=
    (machine support).run_preserves (fun _ _ kept callable => Invariant.perform kept callable)
      (Invariant.new support useUdev) lawful
  obtain ⟨stored, last, rows_eq⟩ := invariant.replayDump_mainRows drivers not_link dumped
  have objs_eq : mainObjs support (replayDump support drivers selectObj objs
      ((machine support).run (NMPCache.new useUdev) ops)) selectObj = stored := by
    rw [mainObjs_eq, rows_eq, map_map]
    exact map_id _
  dsimp only
  rw [objs_eq]
  refine ⟨last, (pairwise_keys stored).mpr ?_⟩
  have keys_eq : (lastOccurrences support objs).map (key support) = stored.map (key support) := by
    rw [← forall₂_eq_eq_eq, forall₂_map_left_iff, forall₂_map_right_iff]
    exact last.imp fun obj boxed equal =>
      key_of_canonical (equal_iff.mp equal)
  rw [← keys_eq]
  exact (pairwise_keys _).mp (lastOccurrences_pairwise objs)

/-- A queueing discipline of the first interface. -/
def qdiscAt (parent info : UInt32) : NMPObject :=
  .qdisc { ifindex := 1, kind := some "mq", addrFamily := 0, handle := 0, parent, info
           fqCodel := ⟨0, 0, 0, 0, 0, 0, 0, false⟩ }

/-- The first discipline is gone, the second one is reported twice, and the third one is new. -/
theorem replayDump_mainObjs_qdiscs :
    lastOccurrences ⟨true, true, true, true⟩ [qdiscAt 2 0, qdiscAt 3 0, qdiscAt 2 5] =
        [qdiscAt 3 0, qdiscAt 2 5] ∧
      List.Forall₂ (fun obj stored => obj.equal ⟨true, true, true, true⟩ stored = true)
        (lastOccurrences ⟨true, true, true, true⟩ [qdiscAt 2 0, qdiscAt 3 0, qdiscAt 2 5])
        (mainObjs ⟨true, true, true, true⟩ (replayDump ⟨true, true, true, true⟩
          ⟨fun _ => none, fun _ => none⟩ (qdiscAt 0 0) [qdiscAt 2 0, qdiscAt 3 0, qdiscAt 2 5]
          ((machine ⟨true, true, true, true⟩).run (NMPCache.new true)
            [.updateNetlink ⟨fun _ => none, fun _ => none⟩ (qdiscAt 1 0) false,
              .updateNetlink ⟨fun _ => none, fun _ => none⟩ (qdiscAt 2 0) false]))
          (qdiscAt 0 0)) :=
  ⟨by decide, (replayDump_mainObjs ⟨true, true, true, true⟩ true
    [.updateNetlink ⟨fun _ => none, fun _ => none⟩ (qdiscAt 1 0) false,
      .updateNetlink ⟨fun _ => none, fun _ => none⟩ (qdiscAt 2 0) false]
    ⟨trivial, trivial, trivial⟩ _ (qdiscAt 0 0) (by decide) _ (by decide)).1⟩

end NMPCache

end NetworkManager
