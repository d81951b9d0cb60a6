import NetworkManager.Settings.KeyfileRuns

/-!
# The directories of keyfile storages

The keyfile plugin only has storages in its directories, and no meta-data in the read-only ones.
-/

namespace NetworkManager

open NMSettingsStorage

open List

namespace NMSettingsStorage

/-- The storage is not a keyfile, or in a directory of the plugin where it may be. -/
structure Placed (dirs : KeyfileDirs) (storage : NMSettingsStorage) : Prop where
  directory : ∀ type, storage.storageType = some type → type ∈ dirs.dirnames
  metaData : storage.isMetaData.isSome = true → storage.isKeyfileLib = false

variable {dirs : KeyfileDirs} {a b : NMSettingsStorage}

theorem isKeyfileLib_eq_of_identity (same : a.identity = b.identity) :
    a.isKeyfileLib = b.isKeyfileLib := by
  unfold isKeyfileLib
  rw [storageType_eq_of_identity same]

theorem Placed.congr (placed : a.Placed dirs) (same : b.identity = a.identity) : b.Placed dirs := by
  refine ⟨fun type type_eq => ?_, fun is_meta => ?_⟩
  · rw [storageType_eq_of_identity same] at type_eq
    exact placed.directory type type_eq
  · rw [isMetaData_eq_of_identity same] at is_meta
    rw [isKeyfileLib_eq_of_identity same]
    exact placed.metaData is_meta

theorem Placed.other (other : a.getPlugin ≠ .keyfile) : a.Placed dirs := by
  cases a with
  | keyfileConn => exact absurd rfl other
  | keyfileMeta => exact absurd rfl other
  | ifcfgRh => exact ⟨by simp [storageType], fun _ => rfl⟩
  | ifupdown => exact ⟨by simp [storageType], fun _ => rfl⟩

/-- A tombstone outside of `/run` is in `/etc`, and there is such a directory. -/
theorem Placed.etc (placed : a.Placed dirs) (is_meta : a.isMetaData.isSome = true)
    (not_run : a.isKeyfileRun = false) : a.storageType = some .etc ∧ dirs.hasEtc = true := by
  cases a with
  | keyfileMeta uuid type metaData =>
    have listed := placed.directory type rfl
    have not_lib := placed.metaData rfl
    cases type with
    | run => simp [isKeyfileRun, storageType] at not_run
    | lib idx => simp [isKeyfileLib, storageType] at not_lib
    | etc =>
      refine ⟨rfl, ?_⟩
      by_contra no_etc
      simp [KeyfileDirs.dirnames, no_etc] at listed
  | _ => simp [isMetaData] at is_meta

end NMSettingsStorage

variable {type : NMSKeyfileStorageType} {dirs : KeyfileDirs} {basename : Basename}

theorem newConnection_placed (listed : type ∈ dirs.dirnames) (connection : NMConnection)
    (name : String) (isNmGenerated isVolatile : Bool) (shadowedStorage : Option Filename)
    (shadowedOwned : Bool) (statMtime : Timespec) :
    (newConnection connection name type isNmGenerated isVolatile shadowedStorage shadowedOwned
      statMtime).Placed dirs := by
  refine ⟨fun other other_eq => ?_, fun impossible => ?_⟩
  · rw [← Option.some.inj other_eq]
    exact listed
  · cases impossible

theorem addType_mem_dirnames (dirs : KeyfileDirs) (inMemory : Bool) :
    dirs.addType inMemory ∈ dirs.dirnames := by
  unfold KeyfileDirs.addType KeyfileDirs.dirnames
  cases dirs.hasEtc with
  | true => cases inMemory <;> simp
  | false => simp

theorem loadFile_placed {fs : Filename → FileState} {content : NMSettingsStorage}
    (listed : type ∈ dirs.dirnames) (loaded : loadFile fs type basename = .ok content) :
    content.Placed dirs := by
  unfold loadFile at loaded
  split at loaded
  · cases loaded
  · split at loaded
    · split at loaded
      · cases loaded
      · rename_i not_lib
        split at loaded
        · cases loaded
        · rw [← Except.ok.inj loaded]
          refine ⟨fun other other_eq => ?_, fun _ => ?_⟩
          · rw [← Option.some.inj other_eq]
            exact listed
          · cases type with
            | lib idx => exact absurd rfl (not_lib idx)
            | run => rfl
            | etc => rfl
    · cases loaded
  · split at loaded
    · rw [← Except.ok.inj loaded]
      exact newConnection_placed listed _ _ _ _ _ _ _
    · cases loaded
    · cases loaded
    · cases loaded

theorem detectDirname_mem {path : String}
    (detected : dirs.detectDirname path = some (type, basename)) :
    type ∈ dirs.dirnames := by
  unfold KeyfileDirs.detectDirname at detected
  unfold KeyfileDirs.dirnames
  split at detected
  · obtain ⟨rfl, -⟩ := Prod.mk.inj (Option.some.inj detected)
    exact mem_append_left _ mem_cons_self
  · split at detected
    · rename_i in_etc
      obtain ⟨rfl, -⟩ := Prod.mk.inj (Option.some.inj detected)
      cases has_etc : dirs.hasEtc with
      | true => simp
      | false => simp [has_etc] at in_etc
    · obtain ⟨idx, idx_mem, found⟩ := List.exists_of_findSome?_eq_some detected
      obtain ⟨_, -, eq⟩ := Option.map_eq_some_iff.mp found
      obtain ⟨rfl, -⟩ := Prod.mk.inj eq
      exact mem_append_right _ (mem_map.mpr ⟨idx, idx_mem, rfl⟩)

theorem pathDetectStorageType_mem {path : String}
    (detected : dirs.pathDetectStorageType path = .found type basename) :
    type ∈ dirs.dirnames := by
  unfold KeyfileDirs.pathDetectStorageType at detected
  split at detected
  · cases detected
  · rename_i found
    obtain ⟨rfl, -⟩ := DetectedPath.found.inj detected
    exact detectDirname_mem found
  · rename_i found
    obtain ⟨rfl, -⟩ := DetectedPath.found.inj detected
    exact detectDirname_mem found
  · rename_i found
    obtain ⟨rfl, -⟩ := DetectedPath.found.inj detected
    exact detectDirname_mem found
  · cases detected

namespace NMSKeyfilePlugin

/-- All storages are where they may be. -/
def Placed (dirs : KeyfileDirs) (p : NMSKeyfilePlugin) : Prop :=
  ∀ storage, (p.heap storage).Placed dirs

variable {dirs : KeyfileDirs} {p p' : NMSKeyfilePlugin} {fs : Filename → FileState}

theorem Placed.new (dirs : KeyfileDirs) : NMSKeyfilePlugin.new.Placed dirs :=
  fun _ => NMSettingsStorage.Placed.other fun impossible => by cases impossible

theorem Placed.congr_identity (placed : p.Placed dirs)
    (same : ∀ storage, (p'.heap storage).identity = (p.heap storage).identity) : p'.Placed dirs :=
  fun storage => (placed storage).congr (same storage)

variable {storage : Nat} {st : LoadState}

section

variable (placed : p.Placed dirs)

include placed

theorem Placed.write {content : NMSettingsStorage} (content_placed : content.Placed dirs) :
    (p.write storage content).Placed dirs := by
  intro other
  rw [heap_write]
  split
  · exact content_placed
  · exact placed other

theorem Placed.objectNew {content : NMSettingsStorage} (content_placed : content.Placed dirs) :
    (p.objectNew content).Placed dirs :=
  placed.write content_placed

theorem addConnection_placed {connection connection' : NMConnection}
    {inMemory isNmGenerated isVolatile : Bool} {shadowedStorage : Option Filename}
    {shadowedOwned : Bool} {write : KeyfileWrite}
    (added : p.addConnection dirs connection inMemory isNmGenerated isVolatile shadowedStorage
      shadowedOwned write = .ok (p', storage, connection')) : p'.Placed dirs := by
  unfold addConnection at added
  dsimp only at added
  split at added
  · cases added
  · split at added
    · cases added
    · obtain ⟨rfl, -⟩ := Prod.mk.inj (Except.ok.inj added)
      have content_placed := newConnection_placed (addType_mem_dirnames dirs inMemory)
      refine Placed.write (placed.objectNew (content_placed _ _ _ _ _ _ _)) ?_
      exact (content_placed _ _ _ _ _ _ _).congr (identity_stealConnection _)

theorem updateConnection_placed {connection connection' : NMConnection}
    {isNmGenerated isVolatile shadowedOwned : Bool} {write : KeyfileWrite}
    (updated : p.updateConnection storage connection isNmGenerated isVolatile shadowedOwned write =
      .ok (p', connection')) : p'.Placed dirs := by
  unfold updateConnection at updated
  split at updated
  · cases updated
  · obtain ⟨rfl, -⟩ := Prod.mk.inj (Except.ok.inj updated)
    exact placed.write ((placed storage).congr (identity_setConnData _ _ _ _ _))

theorem deleteConnection_placed {unlink : Unlink}
    (deleted : p.deleteConnection storage unlink = .ok p') : p'.Placed dirs := by
  unfold deleteConnection at deleted
  split at deleted
  · cases deleted
  · split at deleted
    · cases deleted
    · rw [← Except.ok.inj deleted]
      exact placed.write ((placed storage).congr (identity_clear _))

theorem setNmmetaTombstone_placed (simulate : Bool) (uuid : Uuid) (inMemory set : Bool)
    (shadowedStorage : Option Filename) (written : Bool) :
    (p.setNmmetaTombstone dirs simulate uuid inMemory set shadowedStorage written).plugin.Placed
      dirs := by
  unfold setNmmetaTombstone
  split
  · exact placed
  · rename_i has_directory
    dsimp only
    split
    · exact placed
    · split
      · refine placed.objectNew ⟨fun type type_eq => ?_, fun _ => ?_⟩
        · rw [← Option.some.inj type_eq]
          unfold KeyfileDirs.dirnames
          cases inMemory with
          | true => simp
          | false =>
            have has_etc : dirs.hasEtc = true := by simpa using has_directory
            simp [has_etc]
        · cases inMemory with
          | true => rfl
          | false => rfl
      · rename_i storage _
        refine placed.write ?_
        split
        · rename_i content
          exact (placed storage).congr (by rw [content]; rfl)
        · exact placed storage
      · exact placed
      · exact placed

end

theorem loadDirEntry_placed {type : NMSKeyfileStorageType} (listed : type ∈ dirs.dirnames)
    {acc : Loading × List Basename} (placed : acc.1.plugin.Placed dirs) (filename : Basename) :
    (loadDirEntry fs type acc filename).1.plugin.Placed dirs := by
  unfold loadDirEntry
  split
  · exact placed
  · split
    · exact placed
    · rename_i loaded
      exact placed.objectNew (loadFile_placed listed loaded)

theorem foldl_loadDirEntry_placed {type : NMSKeyfileStorageType} (listed : type ∈ dirs.dirnames)
    (names : List Basename) {acc : Loading × List Basename} (placed : acc.1.plugin.Placed dirs) :
    (names.foldl (loadDirEntry fs type) acc).1.plugin.Placed dirs := by
  induction names generalizing acc with
  | nil => exact placed
  | cons name names ih => exact ih (loadDirEntry_placed listed placed name)

theorem foldl_loadDir_placed {names : NMSKeyfileStorageType → List Basename}
    {types : List NMSKeyfileStorageType} (listed : ∀ type ∈ types, type ∈ dirs.dirnames)
    {st : Loading} (placed : st.plugin.Placed dirs) :
    (types.foldl (loadDir fs names) st).plugin.Placed dirs := by
  induction types generalizing st with
  | nil => exact placed
  | cons type types ih =>
    exact ih (fun other mem => listed other (mem_cons_of_mem type mem))
      (foldl_loadDirEntry_placed (listed type mem_cons_self) (names type) placed)

theorem loadEntry_placed (placed : st.plugin.Placed dirs) (entry : LoadEntry) :
    (loadEntry dirs fs st entry).plugin.Placed dirs := by
  unfold loadEntry
  split
  · exact placed
  · split
    · exact placed
    · exact placed
    · rename_i found
      dsimp only
      split
      · exact placed
      · split
        · split
          · exact placed
          · exact placed
        · rename_i loaded
          exact placed.objectNew (loadFile_placed (pathDetectStorageType_mem found) loaded)

theorem rereadStorage_placed (placed : st.plugin.Placed dirs) (uuid : Uuid) (storage : Nat) :
    (rereadStorage fs uuid st storage).plugin.Placed dirs := by
  unfold rereadStorage
  split
  · rename_i type_eq
    split
    · exact placed
    · dsimp only
      split
      · exact placed
      · rename_i loaded
        split
        · exact placed
        · exact placed.objectNew (loadFile_placed ((placed storage).directory _ type_eq) loaded)
  · exact placed

theorem foldl_placed {Item : Type} {step : LoadState → Item → LoadState}
    (preserves : ∀ st item, st.plugin.Placed dirs → (step st item).plugin.Placed dirs)
    (items : List Item) (placed : st.plugin.Placed dirs) :
    (items.foldl step st).plugin.Placed dirs := by
  induction items generalizing st with
  | nil => exact placed
  | cons item items ih => exact ih (preserves st item placed)

theorem rereadUuid_placed (placed : st.plugin.Placed dirs) (uuid : Uuid) :
    (rereadUuid fs st uuid).plugin.Placed dirs := by
  unfold rereadUuid
  split
  · exact placed
  · exact foldl_placed (fun st storage st_placed => rereadStorage_placed st_placed uuid storage) _
      placed

theorem storagesConsolidate_placed {seen : Filename → Prop} {st : Loading} (before : p.Inv)
    (inv : LoadingInv p seen st) (placed : st.plugin.Placed dirs) (replaceAll : Bool)
    (replaced : List Nat) :
    (st.plugin.storagesConsolidate st.storagesNew replaceAll replaced).1.Placed dirs := by
  obtain ⟨modified, deleted, -, done⟩ :=
    @storagesConsolidate_spec st.plugin replaceAll replaced st.storagesNew (inv.index before)
      inv.indexNew (inv.apart before)
  exact placed.congr_identity done.identity

theorem reloadConnections_placed (fs : Filename → FileState)
    (names : NMSKeyfileStorageType → List Basename) (before : p.Inv) (placed : p.Placed dirs) :
    (p.reloadConnections dirs fs names).1.Placed dirs :=
  storagesConsolidate_placed before (reloadConnections_loading dirs fs names before)
    (foldl_loadDir_placed (fun _ mem => mem) placed) true []

theorem loadConnections_placed (fs : Filename → FileState) (entries : List LoadEntry)
    (before : p.Inv) (placed : p.Placed dirs) :
    (p.loadConnections dirs fs entries).1.Placed dirs := by
  unfold loadConnections
  split
  · exact placed
  · obtain ⟨seen, inv⟩ := loadFiles_inv dirs fs entries before
    refine storagesConsolidate_placed before inv ?_ false _
    refine foldl_placed (fun st uuid st_placed => rereadUuid_placed st_placed uuid) _ ?_
    exact foldl_placed (fun st entry st_placed => loadEntry_placed st_placed entry) _ placed

end NMSKeyfilePlugin

end NetworkManager
