import NetworkManager.Settings.KeyfileConsolidate

/-!
# Loading keyfiles

Reloading the directories and loading single files keep the indexes of the plugin in agreement with
the tracked storages, and report the storages that the plugin stops tracking.
-/

namespace NetworkManager

open List

namespace NMSKeyfilePlugin

open NMSettUtilStorages NMSettingsStorage

/-- The invariant of the plugin. -/
structure Inv (p : NMSKeyfilePlugin) : Prop where
  index : p.storages.IndexConsistent p.heap
  allocated : ∀ storage ∈ p.storages.storageLst, storage < p.next
  tombstone : ∀ storage, (p.heap storage).MetaIsTombstone

/-- What a change event has to say about its storage: a profile of the plugin has a connection as
long as it is tracked, and meta-data never has one. -/
structure EventOk (p : NMSKeyfilePlugin) (event : LoadEvent) : Prop where
  allocated : event.storage < p.next
  profile : (p.heap event.storage).getPlugin = .keyfile →
    (p.heap event.storage).isMetaData.isSome = false →
    (event.connection.isSome = true ↔ event.storage ∈ p.storages.storageLst)
  metaData : (p.heap event.storage).isMetaData.isSome = true → event.connection = none

/-- What one operation may do: it keeps the invariant and the identity of storages, tracks only new
storages, and raises an event for each storage that is no longer tracked. -/
structure Step (p p' : NMSKeyfilePlugin) (events : List LoadEvent) : Prop where
  inv : p'.Inv
  next_le : p.next ≤ p'.next
  identity : ∀ storage < p.next, (p'.heap storage).identity = (p.heap storage).identity
  /-- Tracked storages were tracked before, or are new. -/
  origin : ∀ storage ∈ p'.storages.storageLst, storage ∈ p.storages.storageLst ∨ p.next ≤ storage
  /-- There is an event for each storage that is no longer tracked. -/
  reported : ∀ storage ∈ p.storages.storageLst, storage ∉ p'.storages.storageLst →
    ∃ event ∈ events, event.storage = storage
  event : ∀ event ∈ events, EventOk p' event

theorem Step.refl {p : NMSKeyfilePlugin} (inv : p.Inv) : Step p p [] :=
  ⟨inv, Nat.le_refl _, fun _ _ => rfl, fun _ linked => Or.inl linked,
    fun _ linked unlinked => absurd linked unlinked, by simp⟩

structure Loaded (filename : Filename) (content : NMSettingsStorage) : Prop where
  keyfile : content.getPlugin = .keyfile
  name : content.getFilename = some filename
  connection : content.isMetaData.isSome = false → content.stolenConnection.isSome = true
  noConnection : content.isMetaData.isSome = true → content.stolenConnection = none
  tombstone : content.MetaIsTombstone
  uuid_eq : ∀ connection ∈ content.stolenConnection, connection.uuid = content.getUuid

theorem loadFile_loaded {fs : Filename → FileState} {type : NMSKeyfileStorageType}
    {basename : Basename} {content : NMSettingsStorage}
    (loaded : loadFile fs type basename = .ok content) :
    Loaded (basename.fullFilename type) content ∧ ∀ name, basename ≠ .ignored name := by
  cases basename with
  | ignored name => simp [loadFile] at loaded
  | nmmeta uuid =>
    refine ⟨?_, fun name => by simp⟩
    simp only [loadFile] at loaded
    split at loaded
    · split at loaded
      · simp at loaded
      · split at loaded
        · simp at loaded
        · obtain rfl := Except.ok.inj loaded
          refine ⟨rfl, rfl, ?_, fun _ => rfl, ?_, ?_⟩
          · simp [newTombstone, isMetaData]
          · intro metaData metaData_eq
            simp only [newTombstone, isMetaData, Option.some.injEq] at metaData_eq
            rw [← metaData_eq]
          · intro connection impossible
            cases impossible
    · simp at loaded
  | keyfile name =>
    refine ⟨?_, fun name => by simp⟩
    simp only [loadFile] at loaded
    split at loaded
    · obtain rfl := Except.ok.inj loaded
      refine ⟨rfl, rfl, fun _ => rfl, ?_, ?_, ?_⟩
      · simp [newConnection, isMetaData]
      · simp [newConnection, MetaIsTombstone, isMetaData]
      · intro connection mem
        rw [← Option.some.inj mem]
        rfl
    all_goals simp at loaded

theorem fullFilename_inj {type other : NMSKeyfileStorageType} {basename otherName : Basename}
    (valid : ∀ name, basename ≠ .ignored name)
    (same : otherName.fullFilename other = basename.fullFilename type) :
    other = type ∧ otherName = basename := by
  cases basename with
  | ignored name => exact absurd rfl (valid name)
  | keyfile name => cases otherName <;> simp_all [Basename.fullFilename]
  | nmmeta uuid => cases otherName <;> simp_all [Basename.fullFilename]

/-- What holds while files are read: the tracked storages of `p` are left alone, and the new
storages were read from files whose names have been `seen`. -/
structure LoadingInv (p : NMSKeyfilePlugin) (seen : Filename → Prop) (st : Loading) : Prop where
  storages_eq : st.plugin.storages = p.storages
  next_le : p.next ≤ st.plugin.next
  heap_eq : ∀ storage < p.next, st.plugin.heap storage = p.heap storage
  indexNew : st.storagesNew.IndexConsistent st.plugin.heap
  created : ∀ storage ∈ st.storagesNew.storageLst, p.next ≤ storage ∧ storage < st.plugin.next
  loaded : ∀ storage ∈ st.storagesNew.storageLst,
    ∃ filename, seen filename ∧ Loaded filename (st.plugin.heap storage)
  tombstone : ∀ storage, (st.plugin.heap storage).MetaIsTombstone

namespace LoadingInv

variable {p : NMSKeyfilePlugin} {seen seen' : Filename → Prop} {st : Loading}

theorem init (inv : p.Inv) (seen : Filename → Prop) : LoadingInv p seen ⟨p, .init⟩ :=
  { storages_eq := rfl
    next_le := Nat.le_refl _
    heap_eq := fun _ _ => rfl
    indexNew := indexConsistent_init _
    created := by simp [NMSettUtilStorages.init]
    loaded := by simp [NMSettUtilStorages.init]
    tombstone := inv.tombstone }

section

variable (inv : LoadingInv p seen st)

include inv

theorem mono (subset : ∀ filename, seen filename → seen' filename) : LoadingInv p seen' st :=
  { inv with
    loaded := fun storage listed =>
      let ⟨filename, was_seen, loaded⟩ := inv.loaded storage listed
      ⟨filename, subset filename was_seen, loaded⟩ }

theorem take {filename : Filename} {content : NMSettingsStorage} (loaded : Loaded filename content)
    (unseen : ¬ seen filename) (subset : ∀ other, seen other → seen' other)
    (now_seen : seen' filename) :
    LoadingInv p seen' (st.take content) := by
  have heap_eq : ∀ storage, (st.take content).plugin.heap storage =
      if storage = st.plugin.next then content else st.plugin.heap storage := fun _ => rfl
  have created_ne : ∀ storage ∈ st.storagesNew.storageLst, storage ≠ st.plugin.next :=
    fun storage listed => Nat.ne_of_lt (inv.created storage listed).2
  have heap_old : ∀ storage ∈ st.storagesNew.storageLst,
      (st.take content).plugin.heap storage = st.plugin.heap storage := by
    intro storage listed
    rw [heap_eq, if_neg (created_ne storage listed)]
  have heap_new : (st.take content).plugin.heap st.plugin.next = content := by
    rw [heap_eq, if_pos rfl]
  have next_eq : (st.take content).plugin.next = st.plugin.next + 1 := rfl
  have listed_iff : ∀ storage, storage ∈ (st.take content).storagesNew.storageLst ↔
      storage ∈ st.storagesNew.storageLst ∨ storage = st.plugin.next := by
    intro storage
    simp [Loading.take, NMSettUtilStorages.addTake]
  refine ⟨inv.storages_eq, ?_, ?_, ?_, ?_, ?_, ?_⟩
  · rw [next_eq]
    exact Nat.le_succ_of_le inv.next_le
  · intro storage old
    rw [heap_eq, if_neg (Nat.ne_of_lt (Nat.lt_of_lt_of_le old inv.next_le)), inv.heap_eq storage old]
  · have index := inv.indexNew.congr fun storage listed =>
      congrArg NMSettingsStorage.identity (heap_old storage listed)
    refine index.addTake (by rw [heap_new]; exact loaded.keyfile)
      (fun listed => created_ne _ listed rfl) ?_
    intro other listed same_name
    obtain ⟨other_name, other_seen, other_loaded⟩ := inv.loaded other listed
    rw [heap_old other listed, heap_new, other_loaded.name, loaded.name] at same_name
    exact unseen (Option.some.inj same_name ▸ other_seen)
  · intro storage listed
    rw [next_eq]
    rcases (listed_iff storage).mp listed with before | rfl
    · exact ⟨(inv.created storage before).1, Nat.lt_succ_of_lt (inv.created storage before).2⟩
    · exact ⟨inv.next_le, Nat.lt_succ_self _⟩
  · intro storage listed
    rcases (listed_iff storage).mp listed with before | rfl
    · obtain ⟨name, was_seen, was_loaded⟩ := inv.loaded storage before
      exact ⟨name, subset name was_seen, heap_old storage before ▸ was_loaded⟩
    · refine ⟨filename, now_seen, ?_⟩
      rw [heap_new]
      exact loaded
  · intro storage
    rw [heap_eq]
    split
    · exact loaded.tombstone
    · exact inv.tombstone storage

theorem index (before : p.Inv) : st.plugin.storages.IndexConsistent st.plugin.heap := by
  rw [inv.storages_eq]
  exact before.index.congr fun storage linked =>
    congrArg NMSettingsStorage.identity (inv.heap_eq storage (before.allocated storage linked))

theorem apart (before : p.Inv) :
    ∀ storage ∈ st.storagesNew.storageLst, storage ∉ st.plugin.storages.storageLst := by
  intro storage listed linked
  rw [inv.storages_eq] at linked
  have := before.allocated storage linked
  have := (inv.created storage listed).1
  omega

end

end LoadingInv

variable {p : NMSKeyfilePlugin} {fs : Filename → FileState}

/-- The names seen in the directories `dirs` and, in the directory `type`, in `dupl`. -/
def SeenIn (dirs : List NMSKeyfileStorageType) (type : NMSKeyfileStorageType)
    (dupl : List Basename) (filename : Filename) : Prop :=
  (∃ other ∈ dirs, ∃ basename : Basename, basename.fullFilename other = filename) ∨
    ∃ basename ∈ dupl, basename.fullFilename type = filename

theorem foldl_loadDirEntry_inv {dirs : List NMSKeyfileStorageType} {type : NMSKeyfileStorageType}
    (unseen : type ∉ dirs) (names : List Basename) (acc : Loading × List Basename)
    (inv : LoadingInv p (SeenIn dirs type acc.2) acc.1) :
    ∃ dupl, LoadingInv p (SeenIn dirs type dupl) (names.foldl (loadDirEntry fs type) acc).1 := by
  induction names generalizing acc with
  | nil => exact ⟨acc.2, inv⟩
  | cons basename names ih =>
    rw [foldl_cons]
    have more : ∀ filename, SeenIn dirs type acc.2 filename →
        SeenIn dirs type (basename :: acc.2) filename := by
      rintro filename (other_dir | ⟨other, listed, rfl⟩)
      · exact Or.inl other_dir
      · exact Or.inr ⟨other, by simp [listed], rfl⟩
    rw [loadDirEntry]
    split
    · exact ih acc inv
    · rename_i new_name
      split
      · exact ih _ (inv.mono more)
      · rename_i content load_eq
        obtain ⟨loaded, valid⟩ := loadFile_loaded load_eq
        refine ih _ (inv.take loaded ?_ more (Or.inr ⟨basename, by simp, rfl⟩))
        rintro (⟨other, other_listed, otherName, same⟩ | ⟨otherName, other_listed, same⟩)
        · exact unseen ((fullFilename_inj valid same).1 ▸ other_listed)
        · exact new_name ((fullFilename_inj valid same).2 ▸ other_listed)

theorem foldl_loadDir_inv {names : NMSKeyfileStorageType → List Basename}
    {visited types : List NMSKeyfileStorageType} (nodup : (visited ++ types).Nodup) {st : Loading}
    (inv : LoadingInv p (SeenIn visited .run []) st) :
    LoadingInv p (SeenIn (visited ++ types) .run []) (types.foldl (loadDir fs names) st) := by
  induction types generalizing visited st with
  | nil => simpa using inv
  | cons type types ih =>
    rw [foldl_cons, append_cons]
    rw [append_cons] at nodup
    refine ih nodup ?_
    have unseen : type ∉ visited := by
      intro listed
      have first := (nodup_append.mp nodup).1
      exact (nodup_append.mp first).2.2 type listed type (by simp) rfl
    have start : LoadingInv p (SeenIn visited type []) st := by
      refine inv.mono ?_
      rintro filename (other_dir | ⟨other, listed, -⟩)
      · exact Or.inl other_dir
      · simp at listed
    obtain ⟨dupl, finished⟩ := foldl_loadDirEntry_inv unseen (names type) (st, []) start
    refine finished.mono ?_
    rintro filename (⟨other, listed, named⟩ | ⟨basename, listed, rfl⟩)
    · exact Or.inl ⟨other, by simp [listed], named⟩
    · exact Or.inl ⟨type, by simp, basename, rfl⟩

variable (dirs : KeyfileDirs)

theorem dirnames_nodup : dirs.dirnames.Nodup := by
  have libs : ((range dirs.numLibs).map NMSKeyfileStorageType.lib).Nodup :=
    nodup_range.map fun a b same => NMSKeyfileStorageType.lib.inj same
  rw [KeyfileDirs.dirnames]
  split <;> simp [libs]

theorem isMetaData_stealConnection (storage : NMSettingsStorage) :
    storage.stealConnection.isMetaData = storage.isMetaData := by
  cases storage <;> rfl

theorem Consolidated.loaded {seen : Filename → Prop} {st : Loading} (inv : LoadingInv p seen st)
    {replaceAll : Bool} {p' : NMSKeyfilePlugin} {modified : List LoadEvent} {deleted : List Nat}
    (done : Consolidated st.plugin st.storagesNew replaceAll p' modified deleted)
    {event : LoadEvent} (event_mem : event ∈ modified) :
    ∃ filename content, Loaded filename content ∧ p'.heap event.storage = content.stealConnection ∧
      event.connection = content.stolenConnection := by
  have content_mem : (p'.heap event.storage, event.connection) ∈
      modified.map fun event => (p'.heap event.storage, event.connection) :=
    mem_map_of_mem event_mem
  rw [done.content] at content_mem
  obtain ⟨new, new_listed, content_eq⟩ := mem_map.mp content_mem
  obtain ⟨filename, -, loaded⟩ := inv.loaded new new_listed
  obtain ⟨heap_eq, connection_eq⟩ := Prod.mk.inj content_eq
  exact ⟨filename, _, loaded, heap_eq.symm, connection_eq.symm⟩

/-- Consolidating what was read is a step, and among the profiles an event without a connection is
raised exactly for those that are no longer tracked. -/
theorem storagesConsolidate_step {seen : Filename → Prop} {st : Loading} (before : p.Inv)
    (inv : LoadingInv p seen st) (replaceAll : Bool) (replaced : List Nat) {p' : NMSKeyfilePlugin}
    {events : List LoadEvent}
    (result : st.plugin.storagesConsolidate st.storagesNew replaceAll replaced = (p', events)) :
    Step p p' events ∧ ∀ storage, (p'.heap storage).isMetaData.isSome = false →
      (⟨storage, none⟩ ∈ events ↔
        storage ∈ p.storages.storageLst ∧ storage ∉ p'.storages.storageLst) := by
  obtain ⟨modified, deleted, events_eq, done⟩ :
      ∃ modified deleted, _ ∧ Consolidated st.plugin st.storagesNew replaceAll
        (st.plugin.storagesConsolidate st.storagesNew replaceAll replaced).1 modified deleted :=
    storagesConsolidate_spec (inv.index before) inv.indexNew (inv.apart before)
  rw [result] at events_eq done
  dsimp only at events_eq done
  have allocated : ∀ storage ∈ p'.storages.storageLst, storage < p'.next := by
    intro storage linked
    rw [done.next]
    rcases done.origin storage linked with old | new
    · rw [inv.storages_eq] at old
      exact Nat.lt_of_lt_of_le (before.allocated storage old) inv.next_le
    · exact (inv.created storage new).2
  have deleted_iff : ∀ storage, storage ∈ deleted ↔
      storage ∈ p.storages.storageLst ∧ storage ∉ p'.storages.storageLst := by
    intro storage
    rw [done.deleted_iff, inv.storages_eq]
  constructor
  · refine ⟨⟨done.index, allocated, done.tombstone inv.tombstone⟩, ?_, ?_, ?_, ?_, ?_⟩
    · rw [done.next]
      exact inv.next_le
    · intro storage old
      rw [done.identity, inv.heap_eq storage old]
    · intro storage linked
      rcases done.origin storage linked with old | new
      · exact Or.inl (inv.storages_eq ▸ old)
      · exact Or.inr (inv.created storage new).1
    · intro storage linked unlinked
      have deleted_mem := (deleted_iff storage).mpr ⟨linked, unlinked⟩
      exact ⟨⟨storage, none⟩, by simp [events_eq, deleted_mem], rfl⟩
    · intro event event_mem
      rw [events_eq, mem_append] at event_mem
      rcases event_mem with event_modified | event_deleted
      · obtain ⟨filename, content, loaded, heap_eq, connection_eq⟩ :=
          done.loaded inv event_modified
        have linked := done.modified_tracked event event_modified
        refine ⟨allocated _ linked, fun _ profile => ?_, fun meta_data => ?_⟩
        · rw [heap_eq, isMetaData_stealConnection] at profile
          exact iff_of_true (connection_eq ▸ loaded.connection profile) linked
        · rw [heap_eq, isMetaData_stealConnection] at meta_data
          exact connection_eq.trans (loaded.noConnection meta_data)
      · obtain ⟨storage, storage_deleted, rfl⟩ := mem_map.mp event_deleted
        obtain ⟨old, unlinked⟩ := (deleted_iff storage).mp storage_deleted
        refine ⟨?_, fun _ _ => ?_, fun _ => rfl⟩
        · rw [done.next]
          exact Nat.lt_of_lt_of_le (before.allocated storage old) inv.next_le
        · exact iff_of_false (by simp) unlinked
  · intro storage profile
    rw [events_eq, mem_append, ← deleted_iff storage]
    constructor
    · rintro (event_modified | event_deleted)
      · obtain ⟨filename, content, loaded, heap_eq, connection_eq⟩ :=
          done.loaded inv event_modified
        dsimp only at heap_eq connection_eq
        rw [heap_eq, isMetaData_stealConnection] at profile
        have some_connection := loaded.connection profile
        rw [← connection_eq] at some_connection
        simp at some_connection
      · obtain ⟨other, other_deleted, other_eq⟩ := mem_map.mp event_deleted
        rwa [← (LoadEvent.mk.inj other_eq).1]
    · intro storage_deleted
      exact Or.inr (mem_map_of_mem storage_deleted)

theorem storagesConsolidate_uuid {seen : Filename → Prop} {st : Loading} (before : p.Inv)
    (inv : LoadingInv p seen st) (replaceAll : Bool) (replaced : List Nat) {p' : NMSKeyfilePlugin}
    {events : List LoadEvent}
    (result : st.plugin.storagesConsolidate st.storagesNew replaceAll replaced = (p', events)) :
    ∀ event ∈ events, ∀ connection ∈ event.connection,
      connection.uuid = (p'.heap event.storage).getUuid := by
  obtain ⟨modified, deleted, events_eq, done⟩ :
      ∃ modified deleted, _ ∧ Consolidated st.plugin st.storagesNew replaceAll
        (st.plugin.storagesConsolidate st.storagesNew replaceAll replaced).1 modified deleted :=
    storagesConsolidate_spec (inv.index before) inv.indexNew (inv.apart before)
  rw [result] at events_eq done
  dsimp only at events_eq done
  intro event event_mem connection some_connection
  rw [events_eq, mem_append] at event_mem
  rcases event_mem with event_modified | event_deleted
  · obtain ⟨filename, content, loaded, heap_eq, connection_eq⟩ := done.loaded inv event_modified
    rw [connection_eq] at some_connection
    rw [heap_eq, getUuid_eq_of_identity (identity_stealConnection content)]
    exact loaded.uuid_eq connection some_connection
  · obtain ⟨storage, -, rfl⟩ := mem_map.mp event_deleted
    cases some_connection

theorem reloadConnections_loading (fs : Filename → FileState)
    (names : NMSKeyfileStorageType → List Basename) (before : p.Inv) :
    LoadingInv p (SeenIn dirs.dirnames .run [])
      (dirs.dirnames.foldl (loadDir fs names) ⟨p, .init⟩) := by
  have start : LoadingInv p (SeenIn [] .run []) ⟨p, .init⟩ := LoadingInv.init before _
  exact @foldl_loadDir_inv p fs names [] dirs.dirnames (dirnames_nodup dirs) _ start

theorem reloadConnections_step (fs : Filename → FileState)
    (names : NMSKeyfileStorageType → List Basename) (before : p.Inv) :
    Step p (p.reloadConnections dirs fs names).1 (p.reloadConnections dirs fs names).2 :=
  (storagesConsolidate_step before (reloadConnections_loading dirs fs names before) true [] rfl).1

theorem reloadConnections_uuid (fs : Filename → FileState)
    (names : NMSKeyfileStorageType → List Basename) (before : p.Inv) :
    ∀ event ∈ (p.reloadConnections dirs fs names).2, ∀ connection ∈ event.connection,
      connection.uuid = ((p.reloadConnections dirs fs names).1.heap event.storage).getUuid :=
  storagesConsolidate_uuid before (reloadConnections_loading dirs fs names before) true [] rfl

/-- The names of the files that were loaded, or reread for a storage of `reread`. -/
def SeenBy (p : NMSKeyfilePlugin) (dupl : List (Filename × LoadEntry)) (reread : List Nat)
    (filename : Filename) : Prop :=
  (dupl.lookup filename).isSome = true ∨
    ∃ storage ∈ reread, (p.heap storage).getFilename = some filename

theorem lookup_cons_isSome {filename : Filename} {entry : LoadEntry}
    {dupl : List (Filename × LoadEntry)} {other : Filename} :
    (((filename, entry) :: dupl).lookup other).isSome = true ↔
      other = filename ∨ (dupl.lookup other).isSome = true := by
  rw [lookup_cons]
  by_cases same : other = filename
  · simp [same]
  · simp [same, beq_eq_false_iff_ne.mpr same]

/-- The first loop of `load_connections`. -/
theorem loadEntry_inv {dirs : KeyfileDirs} {st : LoadState} (entry : LoadEntry)
    (inv : LoadingInv p (SeenBy p st.duplFilenames []) st.toLoading)
    (uuids : st.loadedUuids.Nodup) :
    LoadingInv p (SeenBy p (loadEntry dirs fs st entry).duplFilenames [])
        (loadEntry dirs fs st entry).toLoading ∧
      (loadEntry dirs fs st entry).loadedUuids.Nodup := by
  have more : ∀ (filename : Filename) (visited : LoadEntry) (other : Filename),
      SeenBy p st.duplFilenames [] other →
      SeenBy p ((filename, visited) :: st.duplFilenames) [] other := by
    rintro filename visited other (seen | ⟨storage, listed, -⟩)
    · exact Or.inl (lookup_cons_isSome.mpr (Or.inr seen))
    · simp at listed
  rw [loadEntry]
  split
  · exact ⟨inv, uuids⟩
  · split
    · exact ⟨inv, uuids⟩
    · exact ⟨inv, uuids⟩
    · rename_i type basename found
      dsimp only
      split
      · exact ⟨inv, uuids⟩
      · rename_i unseen
        split
        · split
          · exact ⟨inv.mono (more _ _), uuids⟩
          · exact ⟨inv.mono (more _ _), uuids⟩
        · rename_i content load_eq
          refine ⟨inv.take (loadFile_loaded load_eq).1 ?_ (more _ _)
            (Or.inl (lookup_cons_isSome.mpr (Or.inl rfl))), ?_⟩
          · rintro (seen | ⟨storage, listed, -⟩)
            · simp [unseen] at seen
            · simp at listed
          · dsimp only
            split
            · exact uuids
            · rename_i new_uuid
              refine Nodup.append uuids (nodup_singleton _) ?_
              simpa using new_uuid

theorem foldl_loadEntry_inv {dirs : KeyfileDirs} (entries : List LoadEntry) {st : LoadState}
    (inv : LoadingInv p (SeenBy p st.duplFilenames []) st.toLoading)
    (uuids : st.loadedUuids.Nodup) :
    LoadingInv p (SeenBy p (entries.foldl (loadEntry dirs fs) st).duplFilenames [])
        (entries.foldl (loadEntry dirs fs) st).toLoading ∧
      (entries.foldl (loadEntry dirs fs) st).loadedUuids.Nodup := by
  induction entries generalizing st with
  | nil => exact ⟨inv, uuids⟩
  | cons entry entries ih =>
    obtain ⟨inv_entry, uuids_entry⟩ := loadEntry_inv entry inv uuids
    exact ih inv_entry uuids_entry

theorem fullFilename_basename {storage : NMSettingsStorage} {filename : Filename}
    {type : NMSKeyfileStorageType} (named : storage.getFilename = some filename)
    (typed : storage.storageType = some type) :
    filename.basename.fullFilename type = filename := by
  cases storage <;>
    simp only [getFilename, storageType, Option.some.injEq, reduceCtorEq] at named typed
  · subst named typed
    rfl
  · subst named typed
    rfl

/-- The second loop of `load_connections`, for a storage that was not visited. -/
theorem rereadStorage_inv {st : LoadState} {reread : List Nat} {storage : Nat} (loadedUuid : Uuid)
    (before : p.Inv) (inv : LoadingInv p (SeenBy p st.duplFilenames reread) st.toLoading)
    (tracked : storage ∈ p.storages.storageLst) (unread : storage ∉ reread)
    (reread_tracked : ∀ other ∈ reread, other ∈ p.storages.storageLst) :
    LoadingInv p (SeenBy p (rereadStorage fs loadedUuid st storage).duplFilenames
      (storage :: reread)) (rereadStorage fs loadedUuid st storage).toLoading := by
  have heap_eq := inv.heap_eq storage (before.allocated storage tracked)
  have more : ∀ filename, SeenBy p st.duplFilenames reread filename →
      SeenBy p st.duplFilenames (storage :: reread) filename := by
    rintro filename (seen | ⟨other, listed, named⟩)
    · exact Or.inl seen
    · exact Or.inr ⟨other, by simp [listed], named⟩
  rw [rereadStorage]
  split
  · rename_i filename type named typed
    split
    · exact inv.mono more
    · rename_i unseen
      dsimp only
      split
      · exact inv.mono more
      · rename_i content load_eq
        split
        · exact inv.mono more
        · have loaded := (loadFile_loaded load_eq).1
          rw [fullFilename_basename named typed] at loaded
          rw [heap_eq] at named
          refine inv.take loaded ?_ more (Or.inr ⟨storage, by simp, named⟩)
          rintro (seen | ⟨other, listed, other_named⟩)
          · exact unseen seen
          · have same := before.index.eq_of_getFilename (reread_tracked other listed) tracked
              (other_named.trans named.symm)
            exact unread (same ▸ listed)
  · exact inv.mono more

theorem foldl_rereadStorage_inv {st : LoadState} {reread lst : List Nat} (loadedUuid : Uuid)
    (before : p.Inv) (inv : LoadingInv p (SeenBy p st.duplFilenames reread) st.toLoading)
    (tracked : ∀ storage ∈ lst, storage ∈ p.storages.storageLst) (nodup : lst.Nodup)
    (unread : ∀ storage ∈ lst, storage ∉ reread)
    (reread_tracked : ∀ other ∈ reread, other ∈ p.storages.storageLst) :
    LoadingInv p
      (SeenBy p (lst.foldl (rereadStorage fs loadedUuid) st).duplFilenames (lst.reverse ++ reread))
      (lst.foldl (rereadStorage fs loadedUuid) st).toLoading := by
  induction lst generalizing st reread with
  | nil => exact inv
  | cons storage lst ih =>
    obtain ⟨first, lst_nodup⟩ := nodup_cons.mp nodup
    have inv_first : LoadingInv p _ (rereadStorage fs loadedUuid st storage).toLoading :=
      rereadStorage_inv loadedUuid before inv (tracked storage (by simp))
        (unread storage (by simp)) reread_tracked
    rw [reverse_cons, append_assoc]
    refine ih inv_first (fun other listed => tracked other (by simp [listed])) lst_nodup ?_ ?_
    · intro other listed read
      rcases mem_cons.mp read with rfl | read
      · exact first listed
      · exact unread other (by simp [listed]) read
    · intro other read
      rcases mem_cons.mp read with rfl | read
      · exact tracked other (by simp)
      · exact reread_tracked other read

theorem foldl_rereadUuid_inv {st : LoadState} {reread : List Nat} {uuids : List Uuid}
    (before : p.Inv) (inv : LoadingInv p (SeenBy p st.duplFilenames reread) st.toLoading)
    (nodup : uuids.Nodup)
    (reread_old : ∀ storage ∈ reread, storage ∈ p.storages.storageLst ∧
      (p.heap storage).getUuid ∉ uuids) :
    ∃ seen, LoadingInv p seen (uuids.foldl (rereadUuid fs) st).toLoading := by
  induction uuids generalizing st reread with
  | nil => exact ⟨_, inv⟩
  | cons uuid uuids ih =>
    obtain ⟨first, uuids_nodup⟩ := nodup_cons.mp nodup
    rw [foldl_cons, rereadUuid]
    cases found : st.plugin.storages.lookupByUuid uuid with
    | none =>
      refine ih inv uuids_nodup fun storage read => ⟨(reread_old storage read).1, ?_⟩
      exact fun later => (reread_old storage read).2 (by simp [later])
    | some lst =>
      rw [inv.storages_eq] at found
      obtain ⟨lst_nodup, lst_mem⟩ := before.index.byUuid uuid lst found
      have unread : ∀ storage ∈ lst, storage ∉ reread := by
        intro storage listed read
        refine (reread_old storage read).2 ?_
        simp [((lst_mem storage).mp listed).2]
      have inv_lst : LoadingInv p _ (lst.foldl (rereadStorage fs uuid) st).toLoading :=
        foldl_rereadStorage_inv uuid before inv
          (fun storage listed => ((lst_mem storage).mp listed).1) lst_nodup unread
          fun other read => (reread_old other read).1
      refine ih inv_lst uuids_nodup fun storage read => ?_
      rcases mem_append.mp read with now | old
      · obtain ⟨tracked, uuid_eq⟩ := (lst_mem storage).mp (mem_reverse.mp now)
        exact ⟨tracked, uuid_eq ▸ first⟩
      · exact ⟨(reread_old storage old).1, fun later =>
          (reread_old storage old).2 (by simp [later])⟩

theorem loadFiles_inv (fs : Filename → FileState) (entries : List LoadEntry) (before : p.Inv) :
    ∃ seen, LoadingInv p seen (p.loadFiles dirs fs entries).toLoading := by
  have start : LoadingInv p (SeenBy p [] []) ⟨p, .init⟩ := LoadingInv.init before _
  obtain ⟨inv, uuids⟩ := @foldl_loadEntry_inv p fs dirs entries ⟨⟨p, .init⟩, [], [], [], []⟩ start
    nodup_nil
  exact foldl_rereadUuid_inv before inv ((dirs.hashIter_perm _).nodup_iff.mpr uuids) (by simp)

/-- `load_connections` is a step, and among the profiles it reports a missing connection exactly
for those that it stops tracking. -/
theorem loadConnections_step (fs : Filename → FileState) (entries : List LoadEntry) (before : p.Inv) :
    Step p (p.loadConnections dirs fs entries).1 (p.loadConnections dirs fs entries).2.1 ∧
      ∀ storage, ((p.loadConnections dirs fs entries).1.heap storage).isMetaData.isSome = false →
        (⟨storage, none⟩ ∈ (p.loadConnections dirs fs entries).2.1 ↔
          storage ∈ p.storages.storageLst ∧
            storage ∉ (p.loadConnections dirs fs entries).1.storages.storageLst) := by
  cases empty : entries.isEmpty with
  | true =>
    rw [loadConnections, if_pos empty]
    refine ⟨Step.refl before, fun storage _ => ?_⟩
    simp
  | false =>
    obtain ⟨seen, loading⟩ := loadFiles_inv dirs fs entries before
    rw [loadConnections, if_neg (by simp [empty])]
    exact storagesConsolidate_step before loading false _ rfl

theorem loadConnections_uuid (fs : Filename → FileState) (entries : List LoadEntry) (before : p.Inv) :
    ∀ event ∈ (p.loadConnections dirs fs entries).2.1, ∀ connection ∈ event.connection,
      connection.uuid = ((p.loadConnections dirs fs entries).1.heap event.storage).getUuid := by
  cases empty : entries.isEmpty with
  | true =>
    rw [loadConnections, if_pos empty]
    exact forall_mem_nil _
  | false =>
    obtain ⟨seen, loading⟩ := loadFiles_inv dirs fs entries before
    rw [loadConnections, if_neg (by simp [empty])]
    exact storagesConsolidate_uuid before loading false _ rfl

end NMSKeyfilePlugin

end NetworkManager
