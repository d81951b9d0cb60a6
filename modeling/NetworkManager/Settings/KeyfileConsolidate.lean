import NetworkManager.Settings.KeyfileIndex

/-!
# Consolidating storages

`_storages_consolidate` merges newly read storages into the tracked ones.  Each new storage ends up
as the content of one tracked storage, old or new, and an event is raised for each of these and for
each storage that is no longer tracked.
-/

namespace NetworkManager

open List NMSettingsStorage

namespace NMSKeyfilePlugin

section

variable (p : NMSKeyfilePlugin)

include p

variable (storage : Nat) (content : NMSettingsStorage)

@[simp] theorem heap_write (other : Nat) :
    (p.write storage content).heap other = if other = storage then content else p.heap other := rfl

@[simp] theorem storages_write :
    (p.write storage content).storages = p.storages := rfl

@[simp] theorem next_write :
    (p.write storage content).next = p.next := rfl

@[simp] theorem heap_destroy (storage other : Nat) :
    (p.destroy storage).heap other =
      if other = storage then (p.heap storage).clear else p.heap other := rfl

@[simp] theorem storages_destroy : (p.destroy storage).storages = p.storages := rfl

@[simp] theorem next_destroy : (p.destroy storage).next = p.next := rfl

end

theorem metaIsTombstone_clear {storage : NMSettingsStorage} (tombstone : storage.MetaIsTombstone) :
    storage.clear.MetaIsTombstone := by
  cases storage with
  | keyfileMeta uuid type metaData =>
    intro cleared cleared_eq
    have := tombstone metaData rfl
    simp only [clear, isMetaData, Option.some.injEq] at cleared_eq
    rw [← cleared_eq]
    exact this
  | keyfileConn => simp [MetaIsTombstone, clear, isMetaData]
  | ifcfgRh => exact tombstone
  | ifupdown => exact tombstone

theorem metaIsTombstone_stealConnection {storage : NMSettingsStorage}
    (tombstone : storage.MetaIsTombstone) : storage.stealConnection.MetaIsTombstone := by
  cases storage <;> exact tombstone

/-- What the loops of `_storages_consolidate` keep: the new storages `visited` were merged into the
storages of `p`, and those of `rest` are still to be visited. -/
structure MergeInv (p : NMSKeyfilePlugin) (visited rest : List Nat) (st : Consolidate) : Prop where
  index : st.plugin.storages.IndexConsistent st.plugin.heap
  indexNew : st.storagesNew.IndexConsistent st.plugin.heap
  rest_eq : st.storagesNew.storageLst = rest
  apart : ∀ storage ∈ rest, storage ∉ st.plugin.storages.storageLst ∧
    storage ∉ p.storages.storageLst
  next : st.plugin.next = p.next
  identity : ∀ storage, (st.plugin.heap storage).identity = (p.heap storage).identity
  tombstone : (∀ storage, (p.heap storage).MetaIsTombstone) →
    ∀ storage, (st.plugin.heap storage).MetaIsTombstone
  unvisited : ∀ storage ∈ rest, st.plugin.heap storage = p.heap storage
  /-- Storages that were neither read nor modified hold what they held. -/
  frame : ∀ storage, storage ∉ visited → storage ∉ st.modified →
    st.plugin.heap storage = p.heap storage
  names : ∀ old ∈ visited, ∀ new ∈ rest, (p.heap old).getFilename ≠ (p.heap new).getFilename
  modified_nodup : st.modified.Nodup
  modified_tracked : ∀ storage ∈ st.modified, storage ∈ st.plugin.storages.storageLst
  modified_content : st.modified.map st.plugin.heap = visited.map p.heap
  deleted_nodup : st.deleted.Nodup
  deleted_iff : ∀ storage, storage ∈ st.deleted ↔
    storage ∈ p.storages.storageLst ∧ storage ∉ st.plugin.storages.storageLst
  /-- Tracked storages were tracked before, or are new. -/
  origin : ∀ storage ∈ st.plugin.storages.storageLst,
    storage ∈ p.storages.storageLst ∨ storage ∈ st.modified ∧ storage ∈ visited
  dirty : ∀ storage ∈ st.plugin.storages.storageLst,
    (st.isDirty storage = true ↔ storage ∉ st.modified)

namespace MergeInv

variable {p : NMSKeyfilePlugin} {visited rest : List Nat} {st : Consolidate}

theorem unmodified (inv : MergeInv p visited rest st) {new old : Nat}
    (unvisited : ∀ other ∈ visited, (p.heap other).getFilename ≠ (p.heap new).getFilename)
    (same_name : (st.plugin.heap old).getFilename = (p.heap new).getFilename) :
    old ∉ st.modified := by
  intro modified
  have content : st.plugin.heap old ∈ visited.map p.heap := by
    rw [← inv.modified_content]
    exact mem_map_of_mem modified
  obtain ⟨other, other_visited, other_eq⟩ := mem_map.mp content
  exact unvisited other other_visited (other_eq ▸ same_name)

theorem delete (inv : MergeInv p visited rest st) {old : Nat}
    (tracked : old ∈ st.plugin.storages.storageLst) (unmodified : old ∉ st.modified) :
    MergeInv p visited rest (st.delete old) := by
  have erase_mem : ∀ other, other ∈ st.plugin.storages.storageLst.erase old ↔
      other ≠ old ∧ other ∈ st.plugin.storages.storageLst := fun other =>
    inv.index.nodup.mem_erase_iff
  refine
    { index := inv.index.steal tracked
      indexNew := inv.indexNew
      rest_eq := inv.rest_eq
      apart := fun storage storage_rest =>
        ⟨fun linked => (inv.apart storage storage_rest).1 ((erase_mem storage).mp linked).2,
          (inv.apart storage storage_rest).2⟩
      next := inv.next
      identity := inv.identity
      tombstone := inv.tombstone
      unvisited := inv.unvisited
      frame := inv.frame
      names := inv.names
      modified_nodup := inv.modified_nodup
      modified_tracked := ?_
      modified_content := inv.modified_content
      deleted_nodup := ?_
      deleted_iff := ?_
      origin := fun storage linked => inv.origin storage ((erase_mem storage).mp linked).2
      dirty := fun storage linked => inv.dirty storage ((erase_mem storage).mp linked).2 }
  · intro storage modified
    refine (erase_mem storage).mpr ⟨?_, inv.modified_tracked storage modified⟩
    rintro rfl
    exact unmodified modified
  · refine Nodup.append inv.deleted_nodup (nodup_singleton _) ?_
    simp [inv.deleted_iff, tracked]
  · intro storage
    have old_origin := (inv.origin old tracked).resolve_right fun modified =>
      unmodified modified.1
    change storage ∈ st.deleted ++ [old] ↔ storage ∈ p.storages.storageLst ∧
      storage ∉ st.plugin.storages.storageLst.erase old
    rw [mem_append, mem_singleton, inv.deleted_iff, erase_mem]
    constructor
    · rintro (⟨before, gone⟩ | rfl)
      · exact ⟨before, fun linked => gone linked.2⟩
      · exact ⟨old_origin, fun linked => linked.1 rfl⟩
    · rintro ⟨before, gone⟩
      by_cases same : storage = old
      · exact Or.inr same
      · exact Or.inl ⟨before, fun linked => gone ⟨same, linked⟩⟩

structure New (p : NMSKeyfilePlugin) (visited rest : List Nat) (plugin : NMSKeyfilePlugin)
    (new : Nat) : Prop where
  keyfile : (plugin.heap new).getPlugin = .keyfile
  untracked : new ∉ plugin.storages.storageLst ∧ new ∉ p.storages.storageLst
  content : plugin.heap new = p.heap new
  names : ∀ other ∈ visited, (p.heap other).getFilename ≠ (p.heap new).getFilename
  rest_names : ∀ other ∈ rest, (p.heap new).getFilename ≠ (p.heap other).getFilename
  unvisited : new ∉ rest

theorem stolen {new : Nat} (inv : MergeInv p visited (new :: rest) st) :
    MergeInv p visited rest
      { st with storagesNew := st.storagesNew.steal st.plugin.heap new } ∧
      New p visited rest st.plugin new := by
  have listed : new ∈ st.storagesNew.storageLst := by simp [inv.rest_eq]
  have new_nodup : (new :: rest).Nodup := inv.rest_eq ▸ inv.indexNew.nodup
  constructor
  · exact
      { inv with
        indexNew := inv.indexNew.steal listed
        rest_eq := by simp [NMSettUtilStorages.steal, inv.rest_eq]
        apart := fun storage storage_rest => inv.apart storage (by simp [storage_rest])
        unvisited := fun storage storage_rest => inv.unvisited storage (by simp [storage_rest])
        names := fun old old_visited other other_rest =>
          inv.names old old_visited other (by simp [other_rest]) }
  · refine ⟨inv.indexNew.keyfile new listed, inv.apart new (by simp), inv.unvisited new (by simp),
      fun other other_visited => inv.names other other_visited new (by simp), ?_,
      (nodup_cons.mp new_nodup).1⟩
    intro other other_rest same_name
    have other_listed : other ∈ st.storagesNew.storageLst := by simp [inv.rest_eq, other_rest]
    have same := inv.indexNew.eq_of_getFilename listed other_listed (by
      rw [inv.unvisited new (by simp), inv.unvisited other (by simp [other_rest])]
      exact same_name)
    exact (nodup_cons.mp new_nodup).1 (same ▸ other_rest)

theorem names_append {new : Nat} (inv : MergeInv p visited rest st)
    (fresh : New p visited rest st.plugin new) :
    ∀ old ∈ visited ++ [new], ∀ other ∈ rest,
      (p.heap old).getFilename ≠ (p.heap other).getFilename := by
  intro old old_visited other other_rest
  rcases mem_append.mp old_visited with before | now
  · exact inv.names old before other other_rest
  · rw [mem_singleton.mp now]
    exact fresh.rest_names other other_rest

theorem add {new : Nat} (inv : MergeInv p visited rest st) (fresh : New p visited rest st.plugin new)
    (unnamed : ∀ other ∈ st.plugin.storages.storageLst,
      (st.plugin.heap other).getFilename ≠ (st.plugin.heap new).getFilename) :
    MergeInv p (visited ++ [new]) rest (st.add new) := by
  have unmodified : new ∉ st.modified := fun modified =>
    fresh.untracked.1 (inv.modified_tracked new modified)
  have linked : (st.add new).plugin.storages.storageLst =
      st.plugin.storages.storageLst ++ [new] := rfl
  refine
    { index := inv.index.addTake fresh.keyfile fresh.untracked.1 unnamed
      indexNew := inv.indexNew
      rest_eq := inv.rest_eq
      apart := ?_
      next := inv.next
      identity := inv.identity
      tombstone := inv.tombstone
      unvisited := inv.unvisited
      frame := fun storage unvisited unmodified => inv.frame storage
        (fun before => unvisited (mem_append_left _ before))
        fun before => unmodified (mem_append_left _ before)
      names := inv.names_append fresh
      modified_nodup := ?_
      modified_tracked := ?_
      modified_content := ?_
      deleted_nodup := inv.deleted_nodup
      deleted_iff := ?_
      origin := ?_
      dirty := ?_ }
  · intro storage storage_rest
    refine ⟨?_, (inv.apart storage storage_rest).2⟩
    rw [linked, mem_append, mem_singleton]
    rintro (before | rfl)
    · exact (inv.apart storage storage_rest).1 before
    · exact fresh.unvisited storage_rest
  · refine Nodup.append inv.modified_nodup (nodup_singleton _) ?_
    simpa using unmodified
  · intro storage modified
    rw [linked, mem_append]
    exact (mem_append.mp modified).imp_left (inv.modified_tracked storage)
  · change (st.modified ++ [new]).map st.plugin.heap = (visited ++ [new]).map p.heap
    rw [map_append, map_append, inv.modified_content, map_singleton, map_singleton, fresh.content]
  · intro storage
    change storage ∈ st.deleted ↔ _
    rw [inv.deleted_iff, linked, mem_append, mem_singleton]
    refine and_congr_right fun before => ?_
    have different : storage ≠ new := by
      rintro rfl
      exact fresh.untracked.2 before
    simp [different]
  · intro storage storage_linked
    change _ ∨ storage ∈ st.modified ++ [new] ∧ storage ∈ visited ++ [new]
    rw [linked, mem_append, mem_singleton] at storage_linked
    rcases storage_linked with before | rfl
    · exact (inv.origin storage before).imp_right fun modified =>
        ⟨mem_append_left _ modified.1, mem_append_left _ modified.2⟩
    · exact Or.inr ⟨by simp, by simp⟩
  · intro storage storage_linked
    change (if storage = new then false else st.isDirty storage) = true ↔
      storage ∉ st.modified ++ [new]
    rw [linked, mem_append, mem_singleton] at storage_linked
    by_cases same : storage = new
    · simp [same]
    · rw [if_neg same, inv.dirty storage (storage_linked.resolve_right same)]
      simp [same]

theorem replace {new old : Nat} (inv : MergeInv p visited rest st)
    (fresh : New p visited rest st.plugin new) (tracked : old ∈ st.plugin.storages.storageLst)
    (same_name : (st.plugin.heap old).getFilename = (st.plugin.heap new).getFilename)
    (same_uuid : (st.plugin.heap new).getUuid = (st.plugin.heap old).getUuid) :
    MergeInv p (visited ++ [new]) rest (st.replace old new) := by
  have different : new ≠ old := by
    rintro rfl
    exact fresh.untracked.1 tracked
  have unmodified : old ∉ st.modified :=
    inv.unmodified fresh.names (by rw [same_name, fresh.content])
  have copied : (st.plugin.heap old).copyContent (p.heap new) = p.heap new := by
    rw [← fresh.content]
    exact copyContent_eq (inv.index.keyfile old tracked) same_name.symm same_uuid
  have heap_eq : ∀ storage, (st.replace old new).plugin.heap storage =
      if storage = new then (p.heap new).clear
      else if storage = old then p.heap new else st.plugin.heap storage := by
    intro storage
    simp only [Consolidate.replace, heap_destroy, heap_write, if_neg different, fresh.content,
      copied]
  have heap_new : (st.replace old new).plugin.heap new = (p.heap new).clear := by
    rw [heap_eq, if_pos rfl]
  have heap_old : (st.replace old new).plugin.heap old = p.heap new := by
    rw [heap_eq, if_neg (Ne.symm different), if_pos rfl]
  have heap_other : ∀ storage, storage ≠ new → storage ≠ old →
      (st.replace old new).plugin.heap storage = st.plugin.heap storage := by
    intro storage not_new not_old
    rw [heap_eq, if_neg not_new, if_neg not_old]
  have identity : ∀ storage, ((st.replace old new).plugin.heap storage).identity =
      (st.plugin.heap storage).identity := by
    intro storage
    by_cases is_new : storage = new
    · rw [is_new, heap_new, identity_clear, fresh.content]
    · by_cases is_old : storage = old
      · rw [is_old, heap_old, ← copied, identity_copyContent]
      · rw [heap_other storage is_new is_old]
  have rest_other : ∀ storage ∈ rest, storage ≠ new ∧ storage ≠ old := by
    refine fun storage storage_rest => ⟨?_, ?_⟩
    · rintro rfl
      exact fresh.unvisited storage_rest
    · rintro rfl
      exact (inv.apart storage storage_rest).1 tracked
  refine
    { index := inv.index.congr fun storage _ => identity storage
      indexNew := inv.indexNew.congr fun storage _ => identity storage
      rest_eq := inv.rest_eq
      apart := inv.apart
      next := inv.next
      identity := fun storage => (identity storage).trans (inv.identity storage)
      tombstone := ?_
      unvisited := ?_
      frame := ?_
      names := inv.names_append fresh
      modified_nodup := ?_
      modified_tracked := ?_
      modified_content := ?_
      deleted_nodup := inv.deleted_nodup
      deleted_iff := inv.deleted_iff
      origin := ?_
      dirty := ?_ }
  · intro tombstones storage
    by_cases is_new : storage = new
    · rw [is_new, heap_new]
      exact metaIsTombstone_clear (tombstones new)
    · by_cases is_old : storage = old
      · rw [is_old, heap_old]
        exact tombstones new
      · rw [heap_other storage is_new is_old]
        exact inv.tombstone tombstones storage
  · intro storage storage_rest
    rw [heap_other storage (rest_other storage storage_rest).1 (rest_other storage storage_rest).2]
    exact inv.unvisited storage storage_rest
  · intro storage unvisited not_modified
    have not_new : storage ≠ new := fun same =>
      unvisited (mem_append_right _ (mem_singleton.mpr same))
    have not_old : storage ≠ old := fun same =>
      not_modified (mem_append_right _ (mem_singleton.mpr same))
    rw [heap_other storage not_new not_old]
    exact inv.frame storage (fun before => unvisited (mem_append_left _ before))
      fun before => not_modified (mem_append_left _ before)
  · refine Nodup.append inv.modified_nodup (nodup_singleton _) ?_
    simpa using unmodified
  · intro storage modified
    rcases mem_append.mp modified with before | now
    · exact inv.modified_tracked storage before
    · rw [mem_singleton.mp now]
      exact tracked
  · change (st.modified ++ [old]).map (st.replace old new).plugin.heap = _
    rw [map_append, map_append, ← inv.modified_content, map_singleton, map_singleton, heap_old]
    refine congrArg (· ++ [p.heap new]) (map_congr_left fun storage modified => ?_)
    refine heap_other storage ?_ ?_
    · rintro rfl
      exact fresh.untracked.1 (inv.modified_tracked storage modified)
    · rintro rfl
      exact unmodified modified
  · intro storage linked
    change _ ∨ storage ∈ st.modified ++ [old] ∧ storage ∈ visited ++ [new]
    exact (inv.origin storage linked).imp_right fun modified =>
      ⟨mem_append_left _ modified.1, mem_append_left _ modified.2⟩
  · intro storage linked
    change (if storage = old then false else st.isDirty storage) = true ↔
      storage ∉ st.modified ++ [old]
    by_cases same : storage = old
    · simp [same]
    · rw [if_neg same, inv.dirty storage linked]
      simp [same]

theorem mergeNew {new : Nat} (inv : MergeInv p visited (new :: rest) st) :
    MergeInv p (visited ++ [new]) rest (st.mergeNew new) := by
  obtain ⟨inv_stolen, fresh⟩ := inv.stolen
  simp only [Consolidate.mergeNew]
  cases found : st.plugin.storages.lookupByFilename (st.plugin.heap new).getFilename with
  | none => exact inv_stolen.add fresh fun other linked => inv.index.lookup_none found linked
  | some old =>
    obtain ⟨tracked, same_name⟩ := inv.index.lookup_some found
    dsimp only
    split
    · have unmodified : old ∉ st.modified :=
        inv.unmodified fresh.names (by rw [same_name, fresh.content])
      have inv_deleted := inv_stolen.delete tracked unmodified
      have erase_mem : ∀ other, other ∈ st.plugin.storages.storageLst.erase old ↔
          other ≠ old ∧ other ∈ st.plugin.storages.storageLst := fun other =>
        inv.index.nodup.mem_erase_iff
      refine inv_deleted.add ⟨fresh.keyfile, ⟨?_, fresh.untracked.2⟩, fresh.content, fresh.names,
        fresh.rest_names, fresh.unvisited⟩ ?_
      · exact fun linked => fresh.untracked.1 ((erase_mem new).mp linked).2
      · intro other linked other_name
        obtain ⟨different, other_tracked⟩ := (erase_mem other).mp linked
        exact different (inv.index.eq_of_getFilename other_tracked tracked
          (other_name.trans same_name.symm))
    · rename_i same_uuid
      exact inv_stolen.replace fresh tracked same_name (not_not.mp same_uuid)

theorem foldl_mergeNew {news : List Nat} (inv : MergeInv p visited news st) :
    MergeInv p (visited ++ news) [] (news.foldl Consolidate.mergeNew st) := by
  induction news generalizing visited st with
  | nil => simpa using inv
  | cons new rest ih =>
    rw [foldl_cons, append_cons]
    exact ih inv.mergeNew

variable {replaceAll : Bool} {replaced : List Nat}

theorem prune (inv : MergeInv p visited rest st) {old : Nat}
    (tracked : old ∈ st.plugin.storages.storageLst) :
    MergeInv p visited rest (st.prune replaceAll replaced old) := by
  rw [Consolidate.prune]
  split
  · exact inv
  · rename_i dirty
    split
    · exact inv.delete tracked ((inv.dirty old tracked).mp (by simpa using dirty))
    · exact inv

theorem foldl_prune {olds : List Nat} (inv : MergeInv p visited rest st) (nodup : olds.Nodup)
    (tracked : ∀ old ∈ olds, old ∈ st.plugin.storages.storageLst) :
    MergeInv p visited rest (olds.foldl (Consolidate.prune replaceAll replaced) st) := by
  induction olds generalizing st with
  | nil => exact inv
  | cons old olds ih =>
    obtain ⟨old_first, olds_nodup⟩ := nodup_cons.mp nodup
    refine ih (inv.prune (tracked old (by simp))) olds_nodup fun other other_mem => ?_
    have other_tracked := tracked other (by simp [other_mem])
    have different : other ≠ old := by
      rintro rfl
      exact old_first other_mem
    rw [Consolidate.prune]
    split
    · exact other_tracked
    · split
      · exact (inv.index.nodup.mem_erase_iff).mpr ⟨different, other_tracked⟩
      · exact other_tracked

end MergeInv

variable {p : NMSKeyfilePlugin} {st : Consolidate} {replaceAll : Bool} {replaced : List Nat}

@[simp] theorem isDirty_prune (old : Nat) :
    (st.prune replaceAll replaced old).isDirty = st.isDirty := by
  rw [Consolidate.prune]
  split
  · rfl
  · split <;> rfl

theorem mem_prune {old storage : Nat}
    (linked : storage ∈ (st.prune replaceAll replaced old).plugin.storages.storageLst) :
    storage ∈ st.plugin.storages.storageLst := by
  rw [Consolidate.prune] at linked
  split at linked
  · exact linked
  · split at linked
    · exact mem_of_mem_erase linked
    · exact linked

theorem mem_foldl_prune {olds : List Nat} {storage : Nat}
    (linked : storage ∈
      (olds.foldl (Consolidate.prune replaceAll replaced) st).plugin.storages.storageLst) :
    storage ∈ st.plugin.storages.storageLst := by
  induction olds generalizing st with
  | nil => exact linked
  | cons old olds ih => exact mem_prune (ih linked)

theorem isDirty_foldl_prune (olds : List Nat) :
    (olds.foldl (Consolidate.prune replaceAll replaced) st).isDirty = st.isDirty := by
  induction olds generalizing st with
  | nil => rfl
  | cons old olds ih => rw [foldl_cons, ih, isDirty_prune]

theorem foldl_prune_all {olds : List Nat} (nodup : st.plugin.storages.storageLst.Nodup)
    {storage : Nat} (listed : storage ∈ olds)
    (linked : storage ∈
      (olds.foldl (Consolidate.prune true replaced) st).plugin.storages.storageLst) :
    st.isDirty storage = false := by
  induction olds generalizing st with
  | nil => simp at listed
  | cons old olds ih =>
    rcases mem_cons.mp listed with rfl | later
    · refine Bool.eq_false_iff.mpr fun dirty => ?_
      have remains : _ ∈ (st.prune true replaced _).plugin.storages.storageLst :=
        mem_foldl_prune linked
      rw [Consolidate.prune, if_neg (by simp [dirty]), if_pos (by simp)] at remains
      exact nodup.not_mem_erase remains
    · have nodup_prune : (st.prune true replaced old).plugin.storages.storageLst.Nodup := by
        rw [Consolidate.prune]
        split
        · exact nodup
        · exact nodup.erase _
      have clean := ih nodup_prune later linked
      rwa [isDirty_prune] at clean

theorem storagesMerge_inv {storagesNew : NMSettUtilStorages}
    (index : p.storages.IndexConsistent p.heap) (indexNew : storagesNew.IndexConsistent p.heap)
    (apart : ∀ storage ∈ storagesNew.storageLst, storage ∉ p.storages.storageLst) :
    MergeInv p storagesNew.storageLst [] (p.storagesMerge storagesNew replaceAll replaced) ∧
      (replaceAll = true → ∀ storage ∈
        (p.storagesMerge storagesNew replaceAll replaced).plugin.storages.storageLst,
        storage ∈ (p.storagesMerge storagesNew replaceAll replaced).modified) := by
  have start : MergeInv p [] storagesNew.storageLst
      { plugin := p
        storagesNew := storagesNew
        isDirty := fun storage => p.storages.storageLst.contains storage
        modified := []
        deleted := [] } :=
    { index := index
      indexNew := indexNew
      rest_eq := rfl
      apart := fun storage listed => ⟨apart storage listed, apart storage listed⟩
      next := rfl
      identity := fun _ => rfl
      tombstone := fun tombstones => tombstones
      unvisited := fun _ _ => rfl
      frame := fun _ _ _ => rfl
      names := by simp
      modified_nodup := nodup_nil
      modified_tracked := by simp
      modified_content := rfl
      deleted_nodup := nodup_nil
      deleted_iff := by simp
      origin := fun _ linked => Or.inl linked
      dirty := fun storage linked => by simpa using linked }
  have merged := start.foldl_mergeNew
  rw [nil_append] at merged
  have pruned : MergeInv p storagesNew.storageLst []
      (p.storagesMerge storagesNew replaceAll replaced) :=
    merged.foldl_prune merged.index.nodup fun _ linked => linked
  refine ⟨pruned, ?_⟩
  rintro rfl storage linked
  by_contra unmodified
  have dirty := (pruned.dirty storage linked).mpr unmodified
  rw [storagesMerge, isDirty_foldl_prune] at dirty
  have clean := foldl_prune_all merged.index.nodup (mem_foldl_prune linked) linked
  rw [clean] at dirty
  simp at dirty

theorem foldl_setDirty (storages : List Nat) :
    (storages.foldl (fun st storage => st.setDirty storage true) st).plugin = st.plugin ∧
      (storages.foldl (fun st storage => st.setDirty storage true) st).modified = st.modified ∧
      (storages.foldl (fun st storage => st.setDirty storage true) st).deleted = st.deleted ∧
      ∀ storage, storage ∈ storages ∨ st.isDirty storage = true →
        (storages.foldl (fun st storage => st.setDirty storage true) st).isDirty storage = true := by
  induction storages generalizing st with
  | nil => exact ⟨rfl, rfl, rfl, fun storage dirty => by simpa using dirty⟩
  | cons first storages ih =>
    obtain ⟨plugin_eq, modified_eq, deleted_eq, dirty⟩ := @ih (st.setDirty first true)
    refine ⟨plugin_eq, modified_eq, deleted_eq, fun storage marked => dirty storage ?_⟩
    by_cases same : storage = first
    · exact Or.inr (by simp [Consolidate.setDirty, same])
    · refine marked.imp (fun listed => (mem_cons.mp listed).resolve_left same) fun before => ?_
      simpa [Consolidate.setDirty, same] using before

theorem foldl_emitModified {storages : List Nat} {events : List LoadEvent} (nodup : storages.Nodup)
    (pending : ∀ storage ∈ storages,
      st.isDirty storage = true ∧ storage ∈ st.plugin.storages.storageLst) :
    (storages.foldl Consolidate.emitModified (st, events)).2 = events ++ storages.map
        (fun storage => ⟨storage, (st.plugin.heap storage).stolenConnection⟩) ∧
      (storages.foldl Consolidate.emitModified (st, events)).1.plugin.storages =
        st.plugin.storages ∧
      (storages.foldl Consolidate.emitModified (st, events)).1.plugin.next = st.plugin.next ∧
      (storages.foldl Consolidate.emitModified (st, events)).1.deleted = st.deleted ∧
      ∀ storage, (storages.foldl Consolidate.emitModified (st, events)).1.plugin.heap storage =
        if storage ∈ storages then (st.plugin.heap storage).stealConnection
        else st.plugin.heap storage := by
  induction storages generalizing st events with
  | nil => simp
  | cons first storages ih =>
    obtain ⟨first_once, storages_nodup⟩ := nodup_cons.mp nodup
    obtain ⟨first_dirty, first_tracked⟩ := pending first (by simp)
    have step : Consolidate.emitModified (st, events) first =
        ({ st.setDirty first false with
            plugin := st.plugin.write first (st.plugin.heap first).stealConnection },
          events ++ [⟨first, (st.plugin.heap first).stolenConnection⟩]) := by
      simp [Consolidate.emitModified, first_dirty, Consolidate.setDirty, first_tracked]
    rw [foldl_cons, step]
    obtain ⟨events_eq, storages_eq, next_eq, deleted_eq, heap_eq⟩ := @ih
      { st.setDirty first false with
        plugin := st.plugin.write first (st.plugin.heap first).stealConnection }
      (events ++ [⟨first, (st.plugin.heap first).stolenConnection⟩]) storages_nodup
      fun storage listed => by
        have different : storage ≠ first := by
          rintro rfl
          exact first_once listed
        obtain ⟨dirty, tracked⟩ := pending storage (by simp [listed])
        exact ⟨by simpa [Consolidate.setDirty, different] using dirty, tracked⟩
    refine ⟨?_, storages_eq, next_eq, deleted_eq, fun storage => ?_⟩
    · rw [events_eq, map_cons, append_assoc]
      refine congrArg (events ++ ·) (congrArg (_ :: ·) (map_congr_left ?_))
      intro storage listed
      have different : storage ≠ first := by
        rintro rfl
        exact first_once listed
      simp [different]
    · rw [heap_eq]
      by_cases same : storage = first
      · simp [same, first_once]
      · simp [same]

theorem foldl_emitDeleted {storages : List Nat} {events : List LoadEvent} (nodup : storages.Nodup) :
    (storages.foldl Consolidate.emitDeleted (p, events)).2 =
        events ++ storages.map (fun storage => ⟨storage, none⟩) ∧
      (storages.foldl Consolidate.emitDeleted (p, events)).1.storages = p.storages ∧
      (storages.foldl Consolidate.emitDeleted (p, events)).1.next = p.next ∧
      ∀ storage, (storages.foldl Consolidate.emitDeleted (p, events)).1.heap storage =
        if storage ∈ storages then (p.heap storage).clear else p.heap storage := by
  induction storages generalizing p events with
  | nil => simp
  | cons first storages ih =>
    obtain ⟨first_once, storages_nodup⟩ := nodup_cons.mp nodup
    obtain ⟨events_eq, storages_eq, next_eq, heap_eq⟩ := @ih (p.destroy first)
      (events ++ [⟨first, none⟩]) storages_nodup
    refine ⟨?_, storages_eq, next_eq, fun storage => ?_⟩
    · rw [foldl_cons, map_cons, append_cons]
      exact events_eq
    · rw [foldl_cons]
      refine (heap_eq storage).trans ?_
      by_cases same : storage = first
      · simp [same, first_once]
      · simp [same]

/-- What `_storages_consolidate` brings about: it raises the events `modified` for the storages
that now hold what was read, and then events for the storages `deleted`. -/
structure Consolidated (p : NMSKeyfilePlugin) (storagesNew : NMSettUtilStorages)
    (replaceAll : Bool) (p' : NMSKeyfilePlugin) (modified : List LoadEvent)
    (deleted : List Nat) : Prop where
  index : p'.storages.IndexConsistent p'.heap
  next : p'.next = p.next
  identity : ∀ storage, (p'.heap storage).identity = (p.heap storage).identity
  tombstone : (∀ storage, (p.heap storage).MetaIsTombstone) →
    ∀ storage, (p'.heap storage).MetaIsTombstone
  /-- There is an event with the content of each new storage. -/
  content : modified.map (fun event => (p'.heap event.storage, event.connection)) =
    storagesNew.storageLst.map fun storage =>
      ((p.heap storage).stealConnection, (p.heap storage).stolenConnection)
  /-- Tracked storages without an event hold what they held. -/
  frame : ∀ storage ∈ p'.storages.storageLst, (∀ event ∈ modified, event.storage ≠ storage) →
    p'.heap storage = p.heap storage
  /-- The storages of these events are tracked, each with one event. -/
  modified_tracked : ∀ event ∈ modified, event.storage ∈ p'.storages.storageLst
  modified_nodup : (modified.map (·.storage)).Nodup
  deleted_iff : ∀ storage, storage ∈ deleted ↔
    storage ∈ p.storages.storageLst ∧ storage ∉ p'.storages.storageLst
  deleted_nodup : deleted.Nodup
  origin : ∀ storage ∈ p'.storages.storageLst,
    storage ∈ p.storages.storageLst ∨ storage ∈ storagesNew.storageLst
  /-- If everything is replaced, there is an event for each tracked storage. -/
  replaced : replaceAll = true → ∀ storage ∈ p'.storages.storageLst,
    ∃ event ∈ modified, event.storage = storage

theorem storagesConsolidate_spec {storagesNew : NMSettUtilStorages}
    (index : p.storages.IndexConsistent p.heap) (indexNew : storagesNew.IndexConsistent p.heap)
    (apart : ∀ storage ∈ storagesNew.storageLst, storage ∉ p.storages.storageLst) :
    ∃ modified deleted, (p.storagesConsolidate storagesNew replaceAll replaced).2 =
        modified ++ deleted.map (fun storage => ⟨storage, none⟩) ∧
      Consolidated p storagesNew replaceAll
        (p.storagesConsolidate storagesNew replaceAll replaced).1 modified deleted := by
  obtain ⟨inv, all_modified⟩ :
      MergeInv p storagesNew.storageLst [] (p.storagesMerge storagesNew replaceAll replaced) ∧ _ :=
    storagesMerge_inv index indexNew apart
  have unfolded : p.storagesConsolidate storagesNew replaceAll replaced =
      let st := (p.storagesMerge storagesNew replaceAll replaced).modified.foldl
        (fun st storage => st.setDirty storage true) (p.storagesMerge storagesNew replaceAll replaced)
      let emitted := st.modified.foldl Consolidate.emitModified (st, [])
      emitted.1.deleted.foldl Consolidate.emitDeleted (emitted.1.plugin, emitted.2) := rfl
  rw [unfolded]
  generalize p.storagesMerge storagesNew replaceAll replaced = merged at inv all_modified ⊢
  obtain ⟨plugin_eq, modified_eq, deleted_eq, dirty⟩ := @foldl_setDirty merged merged.modified
  dsimp only
  generalize merged.modified.foldl (fun st storage => st.setDirty storage true) merged = marked
    at plugin_eq modified_eq deleted_eq dirty ⊢
  obtain ⟨events_eq, storages_eq, next_eq, deleted_eq', heap_eq⟩ :=
    @foldl_emitModified marked marked.modified [] (modified_eq ▸ inv.modified_nodup)
      fun storage listed => by
        rw [modified_eq] at listed
        rw [plugin_eq]
        exact ⟨dirty storage (Or.inl listed), inv.modified_tracked storage listed⟩
  generalize marked.modified.foldl Consolidate.emitModified (marked, []) = emitted
    at events_eq storages_eq next_eq deleted_eq' heap_eq ⊢
  rw [modified_eq, plugin_eq] at heap_eq
  rw [modified_eq, plugin_eq, nil_append] at events_eq
  rw [plugin_eq] at storages_eq next_eq
  rw [deleted_eq] at deleted_eq'
  obtain ⟨events_eq', storages_eq', next_eq', heap_eq'⟩ :=
    @foldl_emitDeleted emitted.1.plugin emitted.1.deleted emitted.2
      (deleted_eq' ▸ inv.deleted_nodup)
  generalize emitted.1.deleted.foldl Consolidate.emitDeleted (emitted.1.plugin, emitted.2) = result
    at events_eq' storages_eq' next_eq' heap_eq' ⊢
  rw [deleted_eq'] at heap_eq' events_eq'
  rw [events_eq] at events_eq'
  rw [storages_eq] at storages_eq'
  refine ⟨_, _, events_eq', ?_⟩
  have not_deleted : ∀ storage ∈ merged.plugin.storages.storageLst, storage ∉ merged.deleted :=
    fun storage linked deleted => ((inv.deleted_iff storage).mp deleted).2 linked
  have identity : ∀ storage,
      (result.1.heap storage).identity = (merged.plugin.heap storage).identity := by
    intro storage
    rw [heap_eq', heap_eq]
    split <;> split <;> simp
  refine
    { index := ?_
      next := by rw [next_eq', next_eq, inv.next]
      identity := fun storage => (identity storage).trans (inv.identity storage)
      tombstone := ?_
      content := ?_
      frame := ?_
      modified_tracked := ?_
      modified_nodup := ?_
      deleted_iff := fun storage => by rw [storages_eq', inv.deleted_iff]
      deleted_nodup := inv.deleted_nodup
      origin := ?_
      replaced := ?_ }
  · rw [storages_eq']
    exact inv.index.congr fun storage _ => identity storage
  · intro tombstones storage
    have before := inv.tombstone tombstones storage
    rw [heap_eq', heap_eq]
    split <;> split
    · exact metaIsTombstone_clear (metaIsTombstone_stealConnection before)
    · exact metaIsTombstone_clear before
    · exact metaIsTombstone_stealConnection before
    · exact before
  · rw [map_map]
    have content := congrArg
      (map fun storage => (storage.stealConnection, storage.stolenConnection))
      inv.modified_content
    rw [map_map, map_map] at content
    refine Eq.trans (map_congr_left fun storage modified => ?_) content
    have linked := inv.modified_tracked storage modified
    simp only [Function.comp_apply, heap_eq', heap_eq, if_neg (not_deleted storage linked),
      if_pos modified]
  · intro storage linked unmodified
    rw [storages_eq'] at linked
    have not_modified : storage ∉ merged.modified := fun modified =>
      unmodified _ (mem_map_of_mem modified) rfl
    rw [heap_eq', heap_eq, if_neg (not_deleted storage linked), if_neg not_modified]
    refine inv.frame storage (fun new => ?_) not_modified
    have old := (inv.origin storage linked).resolve_right fun modified => not_modified modified.1
    exact apart storage new old
  · intro event event_mem
    obtain ⟨storage, modified, rfl⟩ := mem_map.mp event_mem
    rw [storages_eq']
    exact inv.modified_tracked storage modified
  · rw [map_map]
    simpa [Function.comp_def] using inv.modified_nodup
  · intro storage linked
    rw [storages_eq'] at linked
    exact (inv.origin storage linked).imp_right And.right
  · intro all storage linked
    rw [storages_eq'] at linked
    exact ⟨_, mem_map_of_mem (all_modified all storage linked), rfl⟩

end NMSKeyfilePlugin

end NetworkManager
