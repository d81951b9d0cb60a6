import NetworkManager.Library.Machine
import NetworkManager.Settings.KeyfileLoad

/-!
# Runs of the keyfile plugin

Writing profiles and tombstones keeps the indexes of the plugin in agreement with the tracked
storages, and so does every sequence of operations.
-/

namespace NetworkManager

namespace NMSKeyfilePlugin

open NMSettingsStorage

variable {p : NMSKeyfilePlugin} {content : NMSettingsStorage}

theorem Inv.write (inv : p.Inv) {storage : Nat}
    (identity : content.identity = (p.heap storage).identity) (tombstone : content.MetaIsTombstone) :
    (p.write storage content).Inv := by
  refine ⟨inv.index.congr fun other _ => ?_, inv.allocated, fun other => ?_⟩
  · rw [heap_write]
    split
    · rename_i same
      rw [same, identity]
    · rfl
  · rw [heap_write]
    split
    · exact tombstone
    · exact inv.tombstone other

theorem identity_write {storage : Nat} (identity : content.identity = (p.heap storage).identity)
    (other : Nat) :
    ((p.write storage content).heap other).identity = (p.heap other).identity := by
  rw [heap_write]
  split
  · rename_i same
    rw [same, identity]
  · rfl

theorem Inv.steal (inv : p.Inv) {storage : Nat} (tracked : storage ∈ p.storages.storageLst) :
    (p.steal storage).Inv :=
  ⟨inv.index.steal tracked, fun other linked => inv.allocated other (List.mem_of_mem_erase linked),
    inv.tombstone⟩

theorem Inv.objectNew_addTake (inv : p.Inv) {filename : Filename}
    (keyfile : content.getPlugin = .keyfile) (named : content.getFilename = some filename)
    (tombstone : content.MetaIsTombstone) (unknown : p.storages.idxByFilename filename = none) :
    ((p.objectNew content).addTake p.next).Inv := by
  have heap_new : (p.objectNew content).heap p.next = content := if_pos rfl
  have heap_old : ∀ storage ∈ p.storages.storageLst,
      (p.objectNew content).heap storage = p.heap storage := fun storage linked =>
    if_neg (Nat.ne_of_lt (inv.allocated storage linked))
  have index : p.storages.IndexConsistent (p.objectNew content).heap :=
    inv.index.congr fun storage linked =>
      congrArg NMSettingsStorage.identity (heap_old storage linked)
  refine ⟨index.addTake ?_ ?_ ?_, ?_, ?_⟩
  · rw [heap_new]
    exact keyfile
  · exact fun linked => Nat.lt_irrefl _ (inv.allocated _ linked)
  · intro other linked same_name
    rw [heap_old other linked, heap_new, named] at same_name
    have found := (inv.index.byFilename filename other).mpr ⟨linked, same_name⟩
    simp [found] at unknown
  · intro storage linked
    change storage < p.next + 1
    rcases List.mem_append.mp linked with old | new
    · exact Nat.lt_succ_of_lt (inv.allocated storage old)
    · rw [List.mem_singleton.mp new]
      exact Nat.lt_succ_self _
  · intro storage
    change (if storage = p.next then content else p.heap storage).MetaIsTombstone
    split
    · exact tombstone
    · exact inv.tombstone storage

section Operations

variable {p' : NMSKeyfilePlugin} {connection connection' : NMConnection} {storage : Nat}

/-- Adding a profile tracks a new storage in the directory for new profiles. -/
theorem addConnection_step {dirs : KeyfileDirs} {inMemory isNmGenerated isVolatile : Bool}
    {shadowedStorage : Option Filename} {shadowedOwned : Bool} {write : KeyfileWrite}
    (before : p.Inv)
    (added : p.addConnection dirs connection inMemory isNmGenerated isVolatile shadowedStorage
      shadowedOwned write = .ok (p', storage, connection')) :
    Step p p' [⟨storage, some connection'⟩] ∧ p.next ≤ storage ∧ storage ∈ p'.storages.storageLst ∧
      (p'.heap storage).isMetaData = none ∧ (p'.heap storage).getUuid = connection.uuid ∧
      (p'.heap storage).storageType = some (dirs.addType inMemory) := by
  rw [addConnection] at added
  dsimp only at added
  split at added
  · simp at added
  · rename_i name name_eq
    split at added
    · simp at added
    · rename_i settings mtime result_eq
      obtain ⟨rfl, rfl, rfl⟩ : _ ∧ _ ∧ _ := by simpa using added
      have unknown := List.find?_some name_eq
      rw [Option.isNone_iff_eq_none] at unknown
      let content := newConnection (reread connection settings) name (dirs.addType inMemory)
        isNmGenerated isVolatile shadowedStorage shadowedOwned mtime
      have inv_add : ((p.objectNew content).addTake p.next).Inv :=
        before.objectNew_addTake rfl rfl (fun metaData impossible => by
          simp [content, newConnection, isMetaData] at impossible) unknown
      have heap_new : ((p.objectNew content).addTake p.next).heap p.next = content := if_pos rfl
      have inv_written : (((p.objectNew content).addTake p.next).write p.next
          content.stealConnection).Inv := by
        refine inv_add.write ?_ ?_
        · rw [heap_new, identity_stealConnection]
        · exact fun metaData impossible => by
            simp [content, newConnection, isMetaData, stealConnection] at impossible
      have heap_written : (((p.objectNew content).addTake p.next).write p.next
          content.stealConnection).heap p.next = content.stealConnection := if_pos rfl
      have linked : p.next ∈ (((p.objectNew content).addTake p.next).write p.next
          content.stealConnection).storages.storageLst := List.mem_append_right _ (by simp)
      refine ⟨⟨inv_written, Nat.le_succ _, ?_, ?_, ?_, ?_⟩, Nat.le_refl _, linked, ?_, ?_, ?_⟩
      · intro other old
        have different : other ≠ p.next := Nat.ne_of_lt old
        simp [addTake, objectNew, different]
      · intro other other_linked
        rcases List.mem_append.mp other_linked with old | new
        · exact Or.inl old
        · exact Or.inr (Nat.le_of_eq (List.mem_singleton.mp new).symm)
      · intro other old unlinked
        exact absurd (List.mem_append_left _ old) unlinked
      · intro event event_mem
        rw [List.mem_singleton.mp event_mem]
        refine ⟨Nat.lt_succ_self _, fun _ _ => iff_of_true rfl linked, fun meta_data => ?_⟩
        rw [heap_written] at meta_data
        simp [content, newConnection, isMetaData, stealConnection] at meta_data
      · rw [heap_written]
        rfl
      · rw [heap_written]
        rfl
      · rw [heap_written]
        rfl

theorem updateConnection_step {isNmGenerated isVolatile shadowedOwned : Bool} {write : KeyfileWrite}
    (before : p.Inv) (tracked : storage ∈ p.storages.storageLst)
    (profile : (p.heap storage).isMetaData = none)
    (updated : p.updateConnection storage connection isNmGenerated isVolatile shadowedOwned write =
      .ok (p', connection')) :
    Step p p' [⟨storage, some connection'⟩] ∧ p'.storages = p.storages ∧ p'.next = p.next := by
  rw [updateConnection] at updated
  split at updated
  · simp at updated
  · rename_i settings mtime result_eq
    obtain ⟨rfl, rfl⟩ : _ ∧ _ := by simpa using updated
    have identity := identity_setConnData isNmGenerated isVolatile mtime
      shadowedOwned (p.heap storage)
    have profile' : ((p.heap storage).setConnData isNmGenerated isVolatile mtime
        shadowedOwned).isMetaData.isSome = false := by
      rw [isMetaData_eq_of_identity identity, profile]
      rfl
    have inv := before.write identity fun metaData metaData_eq => by
      simp [metaData_eq] at profile'
    refine ⟨⟨inv, Nat.le_refl _, fun other _ => identity_write identity other,
      fun other linked => Or.inl linked, fun other linked unlinked => absurd linked unlinked,
      ?_⟩, rfl, rfl⟩
    intro event event_mem
    rw [List.mem_singleton.mp event_mem]
    refine ⟨before.allocated storage tracked, fun _ _ => iff_of_true rfl tracked,
      fun meta_data => ?_⟩
    rw [heap_write, if_pos rfl, profile'] at meta_data
    simp at meta_data

theorem deleteConnection_step {unlink : Unlink} (before : p.Inv)
    (tracked : storage ∈ p.storages.storageLst)
    (deleted : p.deleteConnection storage unlink = .ok p') :
    Step p p' [⟨storage, none⟩] ∧ ∀ other, other ∈ p'.storages.storageLst ↔
      other ≠ storage ∧ other ∈ p.storages.storageLst := by
  have p'_eq : p' = (p.steal storage).destroy storage := by
    unfold deleteConnection at deleted
    split at deleted
    · simp at deleted
    · split at deleted
      · simp at deleted
      · exact (Except.ok.inj deleted).symm
  subst p'_eq
  have identity : ((p.steal storage).heap storage).clear.identity =
      ((p.steal storage).heap storage).identity := identity_clear _
  have erase_mem : ∀ other, other ∈ p.storages.storageLst.erase storage ↔
      other ≠ storage ∧ other ∈ p.storages.storageLst := fun other =>
    before.index.nodup.mem_erase_iff
  refine ⟨⟨(before.steal tracked).write identity (metaIsTombstone_clear (before.tombstone storage)),
    Nat.le_refl _, fun other _ => identity_write identity other,
    fun other linked => Or.inl ((erase_mem other).mp linked).2, ?_, ?_⟩, erase_mem⟩
  · intro other linked unlinked
    have same : other = storage := by
      by_contra different
      exact unlinked ((erase_mem other).mpr ⟨different, linked⟩)
    exact ⟨_, List.mem_singleton_self _, same.symm⟩
  · intro event event_mem
    rw [List.mem_singleton.mp event_mem]
    refine ⟨before.allocated storage tracked, fun _ _ => iff_of_false (by simp) ?_, fun _ => rfl⟩
    exact fun linked => ((erase_mem storage).mp linked).1 rfl

def tombstoneType (inMemory : Bool) : NMSKeyfileStorageType :=
  if inMemory then .run else .etc

theorem newTombstone_metaIsTombstone (uuid : Uuid) (type : NMSKeyfileStorageType)
    (shadowedStorage : Option Filename) :
    (newTombstone uuid type shadowedStorage).MetaIsTombstone := by
  intro metaData metaData_eq
  simp only [newTombstone, isMetaData, Option.some.injEq] at metaData_eq
  rw [← metaData_eq]

/-- What setting or unsetting a tombstone may do: the storage in the result is the one of the
tombstone, it is tracked exactly if the tombstone is set, and all other storages stay. -/
structure TombstoneSet (p : NMSKeyfilePlugin) (uuid : Uuid) (inMemory set : Bool)
    (result : TombstoneResult) : Prop where
  step : Step p result.plugin (result.storage.toList.map fun storage => ⟨storage, none⟩)
  named : ∀ storage, result.storage = some storage →
    (result.plugin.heap storage).getFilename = some (.nmmeta (tombstoneType inMemory) uuid)
  tracked_iff : ∀ storage, result.storage = some storage →
    (storage ∈ result.plugin.storages.storageLst ↔ set = true)
  others : ∀ storage ∈ p.storages.storageLst, result.storage ≠ some storage →
    storage ∈ result.plugin.storages.storageLst

theorem tombstoneSet_none (before : p.Inv) (uuid : Uuid) (inMemory set success hard : Bool) :
    TombstoneSet p uuid inMemory set ⟨p, success, none, hard⟩ :=
  ⟨Step.refl before, by simp, by simp, fun _ linked _ => linked⟩

variable {uuid : Uuid}

theorem tombstoneSet_new (before : p.Inv) {inMemory : Bool} {shadowedStorage : Option Filename}
    (unknown : p.storages.idxByFilename (.nmmeta (tombstoneType inMemory) uuid) = none) :
    TombstoneSet p uuid inMemory true
      ⟨(p.objectNew (newTombstone uuid (tombstoneType inMemory) shadowedStorage)).addTake p.next,
        true, some p.next, false⟩ := by
  have inv := before.objectNew_addTake rfl rfl
    (newTombstone_metaIsTombstone uuid (tombstoneType inMemory) shadowedStorage) unknown
  have heap_new : ((p.objectNew (newTombstone uuid (tombstoneType inMemory)
      shadowedStorage)).addTake p.next).heap p.next =
      newTombstone uuid (tombstoneType inMemory) shadowedStorage := if_pos rfl
  have linked : p.next ∈ ((p.objectNew (newTombstone uuid (tombstoneType inMemory)
      shadowedStorage)).addTake p.next).storages.storageLst := List.mem_append_right _ (by simp)
  refine ⟨⟨inv, Nat.le_succ _, ?_, ?_, ?_, ?_⟩, ?_, ?_, ?_⟩
  · intro other old
    have different : other ≠ p.next := Nat.ne_of_lt old
    simp [addTake, objectNew, different]
  · intro other other_linked
    rcases List.mem_append.mp other_linked with old | new
    · exact Or.inl old
    · exact Or.inr (Nat.le_of_eq (List.mem_singleton.mp new).symm)
  · intro other old unlinked
    exact absurd (List.mem_append_left _ old) unlinked
  · intro event event_mem
    rw [List.mem_singleton.mp event_mem]
    refine ⟨Nat.lt_succ_self _, fun _ profile => ?_, fun _ => rfl⟩
    rw [heap_new] at profile
    simp [newTombstone, isMetaData] at profile
  · rintro storage same
    rw [← Option.some.inj same]
    rw [heap_new]
    rfl
  · rintro storage same
    rw [← Option.some.inj same]
    exact iff_of_true linked rfl
  · intro storage old _
    exact List.mem_append_left _ old

theorem tombstone_found (before : p.Inv) {type : NMSKeyfileStorageType} {storage : Nat}
    (found : p.storages.idxByFilename (.nmmeta type uuid) = some storage) :
    storage ∈ p.storages.storageLst ∧ ∃ metaData,
      p.heap storage = .keyfileMeta uuid type metaData ∧ metaData.isTombstone = true := by
  obtain ⟨tracked, named⟩ := (before.index.byFilename _ storage).mp found
  refine ⟨tracked, ?_⟩
  cases content : p.heap storage with
  | keyfileMeta uuid' type' metaData =>
    rw [content] at named
    simp only [getFilename, Option.some.injEq, Filename.nmmeta.injEq] at named
    obtain ⟨rfl, rfl⟩ := named
    exact ⟨metaData, rfl, before.tombstone storage metaData (by rw [content]; rfl)⟩
  | _ => simp [content, getFilename] at named

theorem tombstoneSet_write (before : p.Inv) {inMemory : Bool} {storage : Nat}
    {metaData : NMSettingsMetaData} (tombstone : metaData.isTombstone = true)
    (found : p.storages.idxByFilename (.nmmeta (tombstoneType inMemory) uuid) = some storage) :
    TombstoneSet p uuid inMemory true
      ⟨p.write storage (.keyfileMeta uuid (tombstoneType inMemory) metaData), true, some storage,
        false⟩ := by
  obtain ⟨tracked, metaData', content, -⟩ := tombstone_found before found
  have identity : (NMSettingsStorage.keyfileMeta uuid (tombstoneType inMemory) metaData).identity =
      (p.heap storage).identity := by
    rw [content]
    rfl
  have heap_new : (p.write storage (.keyfileMeta uuid (tombstoneType inMemory) metaData)).heap
      storage = .keyfileMeta uuid (tombstoneType inMemory) metaData := if_pos rfl
  have inv := before.write identity fun metaData' metaData_eq => by
    simp only [isMetaData, Option.some.injEq] at metaData_eq
    rwa [← metaData_eq]
  refine ⟨⟨inv, Nat.le_refl _, fun other _ => identity_write identity other,
    fun other linked => Or.inl linked, fun other linked unlinked => absurd linked unlinked, ?_⟩,
    ?_, ?_, fun other linked _ => linked⟩
  · intro event event_mem
    rw [List.mem_singleton.mp event_mem]
    refine ⟨before.allocated storage tracked, fun _ profile => ?_, fun _ => rfl⟩
    rw [heap_new] at profile
    simp [isMetaData] at profile
  · rintro storage' same
    rw [← Option.some.inj same, heap_new]
    rfl
  · rintro storage' same
    rw [← Option.some.inj same]
    exact iff_of_true tracked rfl

theorem tombstoneSet_steal (before : p.Inv) {inMemory : Bool} {storage : Nat}
    (found : p.storages.idxByFilename (.nmmeta (tombstoneType inMemory) uuid) = some storage) :
    TombstoneSet p uuid inMemory false ⟨p.steal storage, true, some storage, false⟩ := by
  obtain ⟨tracked, metaData, content, -⟩ := tombstone_found before found
  have erase_mem : ∀ other, other ∈ p.storages.storageLst.erase storage ↔
      other ≠ storage ∧ other ∈ p.storages.storageLst := fun other =>
    before.index.nodup.mem_erase_iff
  refine ⟨⟨before.steal tracked, Nat.le_refl _, fun _ _ => rfl,
    fun other linked => Or.inl ((erase_mem other).mp linked).2, ?_, ?_⟩, ?_, ?_, ?_⟩
  · intro other linked unlinked
    have same : other = storage := by
      by_contra different
      exact unlinked ((erase_mem other).mpr ⟨different, linked⟩)
    exact ⟨_, List.mem_singleton_self _, same.symm⟩
  · intro event event_mem
    rw [List.mem_singleton.mp event_mem]
    refine ⟨before.allocated storage tracked, fun _ profile => ?_, fun _ => rfl⟩
    change ((p.heap storage).isMetaData.isSome = false) at profile
    rw [content] at profile
    simp [isMetaData] at profile
  · rintro storage' same
    rw [← Option.some.inj same]
    change (p.heap storage).getFilename = _
    rw [content]
    rfl
  · rintro storage' same
    rw [← Option.some.inj same]
    refine iff_of_false ?_ (by simp)
    exact fun linked => ((erase_mem storage).mp linked).1 rfl
  · intro other linked different
    refine (erase_mem other).mpr ⟨?_, linked⟩
    rintro rfl
    exact different rfl

theorem setNmmetaTombstone_spec (dirs : KeyfileDirs) (before : p.Inv) (simulate : Bool)
    (uuid : Uuid) (inMemory set : Bool) (shadowedStorage : Option Filename) (written : Bool) :
    TombstoneSet p uuid inMemory set
      (p.setNmmetaTombstone dirs simulate uuid inMemory set shadowedStorage written) := by
  rw [setNmmetaTombstone]
  split
  · exact tombstoneSet_none before uuid inMemory set true true
  · dsimp only
    split
    · exact tombstoneSet_none before uuid inMemory set false false
    · split
      · rename_i unknown
        exact tombstoneSet_new before unknown
      · rename_i storage found
        obtain ⟨-, metaData, content, tombstone⟩ := tombstone_found before found
        rw [content]
        exact tombstoneSet_write before tombstone found
      · rename_i storage found
        exact tombstoneSet_steal before found
      · exact tombstoneSet_none before uuid inMemory false true false

end Operations

inductive KeyfileCall where
  | reload (fs : Filename → FileState) (names : NMSKeyfileStorageType → List Basename)
  /-- `load_connections`. -/
  | load (fs : Filename → FileState) (entries : List LoadEntry)
  | add (connection : NMConnection) (inMemory isNmGenerated isVolatile : Bool)
      (shadowedStorage : Option Filename) (shadowedOwned : Bool) (write : KeyfileWrite)
  | update (storage : Nat) (connection : NMConnection)
      (isNmGenerated isVolatile shadowedOwned : Bool) (write : KeyfileWrite)
  | delete (storage : Nat) (unlink : Unlink)
  | setNmmetaTombstone (simulate : Bool) (uuid : Uuid) (inMemory set : Bool)
      (shadowedStorage : Option Filename) (written : Bool)

/-- The plugin after `nms_keyfile_plugin_init`. -/
def new : NMSKeyfilePlugin where
  heap _ := .ifupdown ""
  next := 0
  storages := .init

/-- The plugin after a call.  A call that fails leaves it alone. -/
def perform (dirs : KeyfileDirs) (p : NMSKeyfilePlugin) : KeyfileCall → NMSKeyfilePlugin
  | .reload fs names => (p.reloadConnections dirs fs names).1
  | .load fs entries => (p.loadConnections dirs fs entries).1
  | .add connection inMemory isNmGenerated isVolatile shadowedStorage shadowedOwned write =>
    match p.addConnection dirs connection inMemory isNmGenerated isVolatile shadowedStorage
      shadowedOwned write with
    | .ok (p', _, _) => p'
    | .error _ => p
  | .update storage connection isNmGenerated isVolatile shadowedOwned write =>
    match p.updateConnection storage connection isNmGenerated isVolatile shadowedOwned write with
    | .ok (p', _) => p'
    | .error _ => p
  | .delete storage unlink =>
    match p.deleteConnection storage unlink with
    | .ok p' => p'
    | .error _ => p
  | .setNmmetaTombstone simulate uuid inMemory set shadowedStorage written =>
    (p.setNmmetaTombstone dirs simulate uuid inMemory set shadowedStorage written).plugin

/-- What callers have to respect: only profiles of the plugin are updated, and only storages of
the plugin are deleted. -/
def Callable (p : NMSKeyfilePlugin) : KeyfileCall → Prop
  | .update storage _ _ _ _ _ =>
    storage ∈ p.storages.storageLst ∧ (p.heap storage).isMetaData = none
  | .delete storage _ => storage ∈ p.storages.storageLst
  | _ => True

def machine (dirs : KeyfileDirs) : GuardedMachine NMSKeyfilePlugin KeyfileCall where
  step p call := p.perform dirs call
  guard p call := p.Callable call

theorem Inv.new : NMSKeyfilePlugin.new.Inv :=
  ⟨NMSettUtilStorages.indexConsistent_init _, by simp [NMSKeyfilePlugin.new, NMSettUtilStorages.init],
    fun _ _ impossible => by simp [NMSKeyfilePlugin.new, isMetaData] at impossible⟩

theorem Inv.perform {dirs : KeyfileDirs} {call : KeyfileCall} (inv : p.Inv)
    (callable : p.Callable call) : (p.perform dirs call).Inv := by
  cases call with
  | reload fs names => exact (reloadConnections_step dirs fs names inv).inv
  | load fs entries => exact (loadConnections_step dirs fs entries inv).1.inv
  | add =>
    rw [NMSKeyfilePlugin.perform]
    split
    · rename_i added
      exact (addConnection_step inv added).1.inv
    · exact inv
  | update =>
    rw [NMSKeyfilePlugin.perform]
    split
    · rename_i updated
      exact (updateConnection_step inv callable.1 callable.2 updated).1.inv
    · exact inv
  | delete =>
    rw [NMSKeyfilePlugin.perform]
    split
    · rename_i deleted
      exact (deleteConnection_step inv callable deleted).1.inv
    · exact inv
  | setNmmetaTombstone simulate uuid inMemory set shadowedStorage written =>
    exact (setNmmetaTombstone_spec dirs inv simulate uuid inMemory set shadowedStorage
      written).step.inv

/-- After every sequence of calls the indexes agree with the tracked storages, and among the
profiles `load_connections` reports a missing connection exactly for those that it stops
tracking. -/
theorem run_storagesConsistent (dirs : KeyfileDirs) (calls : List KeyfileCall)
    (lawful : (machine dirs).Lawful new calls) (p : NMSKeyfilePlugin)
    (reached : p = (machine dirs).run new calls) :
    p.storages.IndexConsistent p.heap ∧
      ∀ fs entries p' events visited, p.loadConnections dirs fs entries = (p', events, visited) →
        ∀ storage, (p'.heap storage).isMetaData = none →
          (⟨storage, none⟩ ∈ events ↔
            storage ∈ p.storages.storageLst ∧ storage ∉ p'.storages.storageLst) := by
  have inv : p.Inv := by
    rw [reached]
    exact (machine dirs).run_preserves (fun _ _ kept callable => Inv.perform kept callable)
      Inv.new lawful
  refine ⟨inv.index, fun fs entries p' events visited result storage profile => ?_⟩
  have reports := (loadConnections_step dirs fs entries inv).2 storage
  rw [result] at reports
  exact reports (by rw [profile]; rfl)

/-- The usual directories, with paths of the form `run/x`. -/
def usualDirs : KeyfileDirs where
  hasEtc := true
  numLibs := 1
  fileIsInPath
    | .run, "run/x" => some (.keyfile "x")
    | .etc, "etc/a" => some (.keyfile "a")
    | .lib 0, "lib/b" => some (.keyfile "b")
    | _, _ => none
  hashIter uuids := uuids
  hashIter_perm uuids := List.Perm.refl uuids

/-- A file system in which `etc/a` has a given UUID and `lib/b` may exist. -/
def twoFiles (uuid : Uuid) (hasLib : Bool) (filename : Filename) : FileState :=
  if filename = .keyfile .etc "a" then
    .keyfile ⟨uuid, "a"⟩ ⟨1, 0⟩ false false none false
  else if filename = .keyfile (.lib 0) "b" ∧ hasLib then
    .keyfile ⟨"u", "b"⟩ ⟨1, 0⟩ false false none false
  else .missing

/-- Two files of one UUID are loaded.  Then one of them is loaded again, twice and with another
UUID, and a profile is added and deleted. -/
def exampleCalls : List KeyfileCall :=
  [.reload (twoFiles "u" true) fun
      | .etc => [.keyfile "a"]
      | .lib _ => [.keyfile "b"]
      | .run => [],
    .load (twoFiles "v" true) [⟨"etc/a", false, none⟩, ⟨"etc/a", false, none⟩,
      ⟨"run/x", false, none⟩],
    .add ⟨"u", "c"⟩ true false false none false ⟨["x"], .ok (none, ⟨2, 0⟩)⟩,
    .delete 3 .deleted]

/-- Loading the remaining files finds that `lib/b` is gone. -/
theorem run_storagesConsistent_example :
    ((machine usualDirs).run new exampleCalls).storages.IndexConsistent
        ((machine usualDirs).run new exampleCalls).heap ∧
      ⟨1, none⟩ ∈ (((machine usualDirs).run new exampleCalls).loadConnections usualDirs
        (twoFiles "v" false) [⟨"lib/b", false, none⟩]).2.1 :=
  have lawful : (machine usualDirs).Lawful new exampleCalls :=
    ⟨trivial, trivial, trivial, show 3 ∈ ((machine usualDirs).run new
      (exampleCalls.take 3)).storages.storageLst by decide, trivial⟩
  have consistent := run_storagesConsistent usualDirs exampleCalls lawful _ rfl
  ⟨consistent.1, (consistent.2 (twoFiles "v" false) [⟨"lib/b", false, none⟩] _ _ _ rfl 1
    (by decide)).mpr (by decide)⟩

end NMSKeyfilePlugin

end NetworkManager
