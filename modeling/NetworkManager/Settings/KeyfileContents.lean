import NetworkManager.Settings.KeyfileLoad

/-!
# What a reload reads

A reload of the keyfile plugin reads each file of its directories once, whatever the order in which
they are listed.  Afterwards the tracked storages hold the contents of the files.
-/

namespace NetworkManager

open List

namespace NMSettingsStorage

variable (storage : NMSettingsStorage)

@[simp] theorem getUuid_stealConnection : storage.stealConnection.getUuid = storage.getUuid :=
  getUuid_eq_of_identity (identity_stealConnection storage)

@[simp] theorem getFilename_stealConnection :
    storage.stealConnection.getFilename = storage.getFilename :=
  getFilename_eq_of_identity (identity_stealConnection storage)

@[simp] theorem getPlugin_stealConnection : storage.stealConnection.getPlugin = storage.getPlugin :=
  getPlugin_eq_of_identity (identity_stealConnection storage)

end NMSettingsStorage

namespace NMSKeyfilePlugin

open NMSettingsStorage

def Holds (dirs : KeyfileDirs) (fs : Filename → FileState)
    (names : NMSKeyfileStorageType → List Basename) (content : NMSettingsStorage) : Prop :=
  ∃ type ∈ dirs.dirnames, ∃ basename ∈ names type, loadFile fs type basename = .ok content

structure SameContents (dirs : KeyfileDirs) (fs fs' : Filename → FileState)
    (names names' : NMSKeyfileStorageType → List Basename) : Prop where
  listed : ∀ type ∈ dirs.dirnames, ∀ basename, basename ∈ names type ↔ basename ∈ names' type
  files : ∀ type ∈ dirs.dirnames, ∀ basename ∈ names type,
    fs (basename.fullFilename type) = fs' (basename.fullFilename type)

theorem loadFile_congr {fs fs' : Filename → FileState} {type : NMSKeyfileStorageType}
    {basename : Basename}
    (same : fs (basename.fullFilename type) = fs' (basename.fullFilename type)) :
    loadFile fs type basename = loadFile fs' type basename := by
  cases basename with
  | keyfile name =>
    have file_eq : fs (.keyfile type name) = fs' (.keyfile type name) := same
    simp only [loadFile, file_eq]
  | nmmeta uuid =>
    have file_eq : fs (.nmmeta type uuid) = fs' (.nmmeta type uuid) := same
    simp only [loadFile, file_eq]
  | ignored name => rfl

theorem SameContents.holds_iff {dirs : KeyfileDirs} {fs fs' : Filename → FileState}
    {names names' : NMSKeyfileStorageType → List Basename}
    (same : SameContents dirs fs fs' names names') (content : NMSettingsStorage) :
    Holds dirs fs names content ↔ Holds dirs fs' names' content := by
  constructor
  · rintro ⟨type, type_mem, basename, listed, loaded⟩
    rw [loadFile_congr (same.files type type_mem basename listed)] at loaded
    exact ⟨type, type_mem, basename, (same.listed type type_mem basename).mp listed, loaded⟩
  · rintro ⟨type, type_mem, basename, listed, loaded⟩
    have before := (same.listed type type_mem basename).mpr listed
    rw [← loadFile_congr (same.files type type_mem basename before)] at loaded
    exact ⟨type, type_mem, basename, before, loaded⟩

theorem Holds.eq {dirs : KeyfileDirs} {fs : Filename → FileState}
    {names : NMSKeyfileStorageType → List Basename} {content other : NMSettingsStorage}
    (held : Holds dirs fs names content) (other_held : Holds dirs fs names other)
    (same_name : content.getFilename = other.getFilename) : content = other := by
  obtain ⟨type, -, basename, -, loaded⟩ := held
  obtain ⟨otherType, -, otherName, -, other_loaded⟩ := other_held
  obtain ⟨content_loaded, valid⟩ := loadFile_loaded loaded
  rw [content_loaded.name, (loadFile_loaded other_loaded).1.name, Option.some.injEq] at same_name
  obtain ⟨rfl, rfl⟩ := fullFilename_inj valid same_name.symm
  rw [loaded] at other_loaded
  exact Except.ok.inj other_loaded

def Loading.contents (st : Loading) : List NMSettingsStorage :=
  st.storagesNew.storageLst.map st.plugin.heap

/-- The new storages exist. -/
def Loading.Allocated (st : Loading) : Prop :=
  ∀ storage ∈ st.storagesNew.storageLst, storage < st.plugin.next

theorem Loading.Allocated.take {st : Loading} (allocated : st.Allocated)
    (content : NMSettingsStorage) :
    (st.take content).Allocated ∧ (st.take content).contents = st.contents ++ [content] := by
  constructor
  · intro storage mem
    rcases mem_append.mp mem with old | new
    · exact Nat.lt_succ_of_lt (allocated storage old)
    · rw [mem_singleton.mp new]
      exact Nat.lt_succ_self _
  · have kept : st.storagesNew.storageLst.map (st.plugin.objectNew content).heap = st.contents := by
      apply map_congr_left
      intro storage mem
      exact if_neg (Nat.ne_of_lt (allocated storage mem))
    have added : (st.plugin.objectNew content).heap st.plugin.next = content := if_pos rfl
    show (st.storagesNew.storageLst ++ [st.plugin.next]).map (st.plugin.objectNew content).heap = _
    rw [map_append, map_singleton, kept, added]

variable (fs : Filename → FileState) (type : NMSKeyfileStorageType)

theorem loadDirEntry_contents {acc : Loading × List Basename} (allocated : acc.1.Allocated)
    (filename : Basename) :
    (loadDirEntry fs type acc filename).1.Allocated ∧
      (∀ basename, basename ∈ (loadDirEntry fs type acc filename).2 ↔
        basename = filename ∨ basename ∈ acc.2) ∧
      ∀ content, content ∈ (loadDirEntry fs type acc filename).1.contents ↔
        content ∈ acc.1.contents ∨ filename ∉ acc.2 ∧ loadFile fs type filename = .ok content := by
  unfold loadDirEntry
  by_cases seen : filename ∈ acc.2
  · rw [if_pos seen]
    refine ⟨allocated, ?_, ?_⟩
    · intro basename
      constructor
      · exact Or.inr
      · rintro (rfl | mem)
        exacts [seen, mem]
    · intro content
      simp [seen]
  · rw [if_neg seen]
    cases loaded : loadFile fs type filename with
    | error message =>
      refine ⟨allocated, fun basename => mem_cons, fun content => ?_⟩
      simp
    | ok read =>
      obtain ⟨allocated', contents_eq⟩ := allocated.take read
      refine ⟨allocated', fun basename => mem_cons, fun content => ?_⟩
      rw [contents_eq, mem_append, mem_singleton, Except.ok.injEq]
      simp [seen, eq_comm]

theorem foldl_loadDirEntry_contents (files : List Basename) {acc : Loading × List Basename}
    (allocated : acc.1.Allocated) :
    (files.foldl (loadDirEntry fs type) acc).1.Allocated ∧
      ∀ content, content ∈ (files.foldl (loadDirEntry fs type) acc).1.contents ↔
        content ∈ acc.1.contents ∨
          ∃ basename ∈ files, basename ∉ acc.2 ∧ loadFile fs type basename = .ok content := by
  induction files generalizing acc with
  | nil => exact ⟨allocated, fun content => by simp⟩
  | cons filename files ih =>
    obtain ⟨allocated', seen_iff, contents_iff⟩ :=
      loadDirEntry_contents fs type allocated filename
    obtain ⟨result_allocated, result_iff⟩ := ih allocated'
    refine ⟨result_allocated, fun content => ?_⟩
    rw [foldl_cons, result_iff, contents_iff]
    constructor
    · rintro ((before | ⟨unseen, loaded⟩) | ⟨basename, mem, unseen, loaded⟩)
      · exact Or.inl before
      · exact Or.inr ⟨filename, mem_cons_self, unseen, loaded⟩
      · rw [seen_iff, not_or] at unseen
        exact Or.inr ⟨basename, mem_cons_of_mem _ mem, unseen.2, loaded⟩
    · rintro (before | ⟨basename, mem, unseen, loaded⟩)
      · exact Or.inl (Or.inl before)
      · by_cases same : basename = filename
        · subst same
          exact Or.inl (Or.inr ⟨unseen, loaded⟩)
        · refine Or.inr ⟨basename, (mem_cons.mp mem).resolve_left same, ?_, loaded⟩
          rw [seen_iff, not_or]
          exact ⟨same, unseen⟩

theorem foldl_loadDir_contents (names : NMSKeyfileStorageType → List Basename)
    (types : List NMSKeyfileStorageType) {st : Loading} (allocated : st.Allocated) :
    (types.foldl (loadDir fs names) st).Allocated ∧
      ∀ content, content ∈ (types.foldl (loadDir fs names) st).contents ↔
        content ∈ st.contents ∨ ∃ type ∈ types, ∃ basename ∈ names type,
          loadFile fs type basename = .ok content := by
  induction types generalizing st with
  | nil => exact ⟨allocated, fun content => by simp⟩
  | cons type types ih =>
    have read : (loadDir fs names st type).Allocated ∧
        ∀ content, content ∈ (loadDir fs names st type).contents ↔
          content ∈ st.contents ∨
            ∃ basename ∈ names type, basename ∉ ([] : List Basename) ∧
              loadFile fs type basename = .ok content :=
      foldl_loadDirEntry_contents fs type (names type) allocated
    obtain ⟨allocated', contents_iff⟩ := read
    obtain ⟨result_allocated, result_iff⟩ := ih allocated'
    refine ⟨result_allocated, fun content => ?_⟩
    rw [foldl_cons, result_iff, contents_iff]
    simp only [not_mem_nil, not_false_eq_true, true_and, mem_cons, exists_eq_or_imp, or_assoc]

/-- What the plugin reports after a reload: each tracked storage once, with the content of a file,
and each storage that is no longer tracked. -/
structure Reloaded (dirs : KeyfileDirs) (fs : Filename → FileState)
    (names : NMSKeyfileStorageType → List Basename) (p' : NMSKeyfilePlugin)
    (events : List LoadEvent) : Prop where
  nodup : (events.map (·.storage)).Nodup
  /-- A storage that is reported holds a file, or is not tracked. -/
  sound : ∀ event ∈ events,
    event.storage ∈ p'.storages.storageLst ∧ (∃ content, Holds dirs fs names content ∧
      p'.heap event.storage = content.stealConnection ∧
      event.connection = content.stolenConnection) ∨
    event.storage ∉ p'.storages.storageLst ∧ event.connection = none
  complete : ∀ content, Holds dirs fs names content → ∃ event ∈ events,
    event.storage ∈ p'.storages.storageLst ∧
    p'.heap event.storage = content.stealConnection ∧
    event.connection = content.stolenConnection
  tracked : ∀ storage ∈ p'.storages.storageLst, ∃ event ∈ events, event.storage = storage

theorem reloadConnections_reloaded {p : NMSKeyfilePlugin} (dirs : KeyfileDirs)
    (fs : Filename → FileState) (names : NMSKeyfileStorageType → List Basename) (before : p.Inv) :
    Reloaded dirs fs names (p.reloadConnections dirs fs names).1
      (p.reloadConnections dirs fs names).2 := by
  have loading := reloadConnections_loading dirs fs names before
  have none_new : Loading.Allocated ⟨p, .init⟩ := fun _ mem => by cases mem
  obtain ⟨-, contents_iff⟩ :=
    foldl_loadDir_contents fs names dirs.dirnames none_new
  unfold reloadConnections
  generalize dirs.dirnames.foldl (loadDir fs names) ⟨p, .init⟩ = st at loading contents_iff
  have held_iff : ∀ content, content ∈ st.contents ↔ Holds dirs fs names content := by
    intro content
    rw [contents_iff]
    exact or_iff_right (fun mem => by cases mem)
  obtain ⟨modified, deleted, events_eq, done⟩ :=
    @storagesConsolidate_spec st.plugin true [] st.storagesNew (loading.index before)
      loading.indexNew (loading.apart before)
  dsimp only
  rw [events_eq]
  generalize (st.plugin.storagesConsolidate st.storagesNew true []).1 = p' at done
  have modified_content : ∀ event ∈ modified, ∃ content, Holds dirs fs names content ∧
      p'.heap event.storage = content.stealConnection ∧
      event.connection = content.stolenConnection := by
    intro event mem
    have pair : (p'.heap event.storage, event.connection) ∈
        modified.map fun event => (p'.heap event.storage, event.connection) :=
      mem_map_of_mem mem
    rw [done.content] at pair
    obtain ⟨storage, listed, pair_eq⟩ := mem_map.mp pair
    refine ⟨st.plugin.heap storage, (held_iff _).mp (mem_map_of_mem listed), ?_, ?_⟩
    · exact (congrArg Prod.fst pair_eq).symm
    · exact (congrArg Prod.snd pair_eq).symm
  refine ⟨?_, ?_, ?_, ?_⟩
  · rw [map_append, map_map]
    refine nodup_append.mpr ⟨done.modified_nodup, ?_, ?_⟩
    · exact (map_id deleted).symm ▸ done.deleted_nodup
    · intro a a_mem b b_mem same
      obtain ⟨event, event_mem, rfl⟩ := mem_map.mp a_mem
      obtain ⟨storage, storage_mem, rfl⟩ := mem_map.mp b_mem
      have tracked := done.modified_tracked event event_mem
      rw [same] at tracked
      exact ((done.deleted_iff storage).mp storage_mem).2 tracked
  · intro event mem
    rcases mem_append.mp mem with mem | mem
    · exact Or.inl ⟨done.modified_tracked event mem, modified_content event mem⟩
    · obtain ⟨storage, storage_mem, rfl⟩ := mem_map.mp mem
      exact Or.inr ⟨((done.deleted_iff storage).mp storage_mem).2, rfl⟩
  · intro content held
    obtain ⟨storage, listed, rfl⟩ := mem_map.mp ((held_iff content).mpr held)
    have pair : ((st.plugin.heap storage).stealConnection,
        (st.plugin.heap storage).stolenConnection) ∈ st.storagesNew.storageLst.map fun storage =>
          ((st.plugin.heap storage).stealConnection, (st.plugin.heap storage).stolenConnection) :=
      mem_map_of_mem listed
    rw [← done.content] at pair
    obtain ⟨event, event_mem, pair_eq⟩ := mem_map.mp pair
    exact ⟨event, mem_append_left _ event_mem, done.modified_tracked event event_mem,
      congrArg Prod.fst pair_eq, congrArg Prod.snd pair_eq⟩
  · intro storage tracked
    obtain ⟨event, event_mem, same⟩ := done.replaced rfl storage tracked
    exact ⟨event, mem_append_left _ event_mem, same⟩

end NMSKeyfilePlugin

end NetworkManager
