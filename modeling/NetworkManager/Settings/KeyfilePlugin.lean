import NetworkManager.Settings.Storage

/-!
# The keyfile plugin

The plugin tracks one storage for each file it has loaded or written, indexed by file name and by
UUID.  Storages are objects with an identity: they live in a heap, and the containers hold their
addresses.  What the file system answers is an input of the operations.
-/

namespace NetworkManager

/-- `NMSettUtilStorages`. -/
structure NMSettUtilStorages where
  storageLst : List Nat
  idxByFilename : Filename → Option Nat
  /-- `idx_by_uuid`: the head of a UUID with its storages. -/
  idxByUuid : Uuid → Option (List Nat)

namespace NMSettUtilStorages

/-- `NM_SETT_UTIL_STORAGES_INIT`. -/
def init : NMSettUtilStorages where
  storageLst := []
  idxByFilename _ := none
  idxByUuid _ := none

/-- `nm_sett_util_storages_lookup_by_filename`. -/
def lookupByFilename (storages : NMSettUtilStorages) (filename : Option Filename) : Option Nat :=
  filename.bind storages.idxByFilename

/-- `nm_sett_util_storages_lookup_by_uuid`. -/
def lookupByUuid (storages : NMSettUtilStorages) (uuid : Uuid) : Option (List Nat) :=
  storages.idxByUuid uuid

/-- `nm_sett_util_storages_add_take`. -/
def addTake (storages : NMSettUtilStorages) (heap : Nat → NMSettingsStorage) (storage : Nat) :
    NMSettUtilStorages where
  storageLst := storages.storageLst ++ [storage]
  idxByFilename filename :=
    if (heap storage).getFilename = some filename then some storage
    else storages.idxByFilename filename
  idxByUuid uuid :=
    if (heap storage).getUuid = uuid then
      some ((storages.lookupByUuid uuid).getD [] ++ [storage])
    else storages.idxByUuid uuid

/-- Unlink a storage from the list of its UUID; a head without storages is removed. -/
def unlinkByUuid (sbuh : Option (List Nat)) (storage : Nat) : Option (List Nat) :=
  match sbuh with
  | some lst => if lst.erase storage = [] then none else some (lst.erase storage)
  | none => none

/-- `nm_sett_util_storages_steal`. -/
def steal (storages : NMSettUtilStorages) (heap : Nat → NMSettingsStorage) (storage : Nat) :
    NMSettUtilStorages where
  storageLst := storages.storageLst.erase storage
  idxByFilename filename :=
    if (heap storage).getFilename = some filename then none
    else storages.idxByFilename filename
  idxByUuid uuid :=
    if (heap storage).getUuid = uuid then unlinkByUuid (storages.lookupByUuid uuid) storage
    else storages.idxByUuid uuid

end NMSettUtilStorages

/-- The name of a file in a directory of the plugin, as told apart by `_ignore_filename` and
`nms_keyfile_nmmeta_check_filename`. -/
inductive Basename where
  /-- A name that is not ignored. -/
  | keyfile (name : String)
  /-- An ignored name that is a UUID with the suffix `.nmmeta`. -/
  | nmmeta (uuid : Uuid)
  | ignored (name : String)
  deriving DecidableEq, Repr

/-- The directories of the plugin, and the string and hash functions that it uses. -/
structure KeyfileDirs where
  hasEtc : Bool
  numLibs : Nat
  /-- `nm_utils_file_is_in_path` of an absolute path and a directory. -/
  fileIsInPath : NMSKeyfileStorageType → String → Option Basename
  /-- The order in which a hash table enumerates its keys. -/
  hashIter : List Uuid → List Uuid
  /-- A hash table enumerates each of its keys once. -/
  hashIter_perm : ∀ uuids, (hashIter uuids).Perm uuids

section

variable (dirs : KeyfileDirs)

/-- The directories that are loaded, in this order. -/
def KeyfileDirs.dirnames : List NMSKeyfileStorageType :=
  .run :: (if dirs.hasEtc then [.etc] else []) ++ (List.range dirs.numLibs).map .lib

/-- The directory for a new profile. -/
def KeyfileDirs.addType (inMemory : Bool) : NMSKeyfileStorageType :=
  if !inMemory && dirs.hasEtc then .etc else .run

/-- The result of `_path_detect_storage_type`. -/
inductive DetectedPath where
  /-- The file is in a directory of the plugin. -/
  | found (type : NMSKeyfileStorageType) (basename : Basename)
  /-- `failed_due_to_invalid_filename`. -/
  | invalid
  /-- The file is somewhere else. -/
  | elsewhere
  deriving DecidableEq, Repr

/-- The directory of a path. -/
def KeyfileDirs.detectDirname (fullFilename : String) :
    Option (NMSKeyfileStorageType × Basename) :=
  match dirs.fileIsInPath .run fullFilename with
  | some basename => some (.run, basename)
  | none =>
    match if dirs.hasEtc then dirs.fileIsInPath .etc fullFilename else none with
    | some basename => some (.etc, basename)
    | none =>
      (List.range dirs.numLibs).findSome? fun idx =>
        (dirs.fileIsInPath (.lib idx) fullFilename).map fun basename => (.lib idx, basename)

/-- `_path_detect_storage_type`. -/
def KeyfileDirs.pathDetectStorageType (fullFilename : String) : DetectedPath :=
  match dirs.detectDirname fullFilename with
  | none => .elsewhere
  | some (type, .keyfile name) => .found type (.keyfile name)
  | some (.run, .nmmeta uuid) => .found .run (.nmmeta uuid)
  | some (.etc, .nmmeta uuid) => .found .etc (.nmmeta uuid)
  | some (_, _) => .invalid

end

def Basename.fullFilename (type : NMSKeyfileStorageType) : Basename → Filename
  | keyfile name => .keyfile type name
  | nmmeta uuid => .nmmeta type uuid
  | ignored name => .other name

inductive FileState where
  /-- The file does not exist. -/
  | missing
  /-- The file cannot be read, or does not hold a valid profile. -/
  | unreadable (message : String)
  /-- A profile, with the flags and the shadowed storage of its `[.nmmeta]` group. -/
  | keyfile (connection : NMConnection) (statMtime : Timespec) (isNmGenerated isVolatile : Bool)
      (shadowedStorage : Option Filename) (shadowedOwned : Bool)
  /-- A meta-data file. -/
  | nmmeta (loadedPath : String) (shadowedStorage : Option Filename)
  deriving DecidableEq, Repr

/-- `nms_keyfile_storage_new_tombstone`. -/
def newTombstone (uuid : Uuid) (type : NMSKeyfileStorageType)
    (shadowedStorage : Option Filename) : NMSettingsStorage :=
  .keyfileMeta uuid type
    { shadowedStorage := if type = .run then shadowedStorage else none
      isTombstone := true }

/-- `nms_keyfile_storage_new_connection`. -/
def newConnection (connection : NMConnection) (name : String) (type : NMSKeyfileStorageType)
    (isNmGenerated isVolatile : Bool) (shadowedStorage : Option Filename) (shadowedOwned : Bool)
    (statMtime : Timespec) : NMSettingsStorage :=
  .keyfileConn connection.uuid type name
    { connection := some connection
      shadowedStorage := shadowedStorage
      statMtime := statMtime
      isNmGenerated := type = .run && isNmGenerated
      isVolatile := type = .run && isVolatile
      shadowedOwned := type = .run && shadowedStorage.isSome && shadowedOwned }

/-- `_load_file`. -/
def loadFile (fs : Filename → FileState) (type : NMSKeyfileStorageType) (basename : Basename) :
    Except String NMSettingsStorage :=
  match basename with
  | .ignored _ => .error "skip due to invalid filename"
  | .nmmeta uuid =>
    match fs (.nmmeta type uuid) with
    | .nmmeta loadedPath shadowedStorage =>
      match type with
      | .lib _ => .error "skip nmmeta file from read-only directory"
      | _ =>
        if loadedPath ≠ "/dev/null" then .error "skip nmmeta file not symlinking /dev/null"
        else .ok (newTombstone uuid type shadowedStorage)
    | _ => .error "skip unreadable nmmeta file"
  | .keyfile name =>
    match fs (.keyfile type name) with
    | .keyfile connection statMtime isNmGenerated isVolatile shadowedStorage shadowedOwned =>
      .ok (newConnection connection name type isNmGenerated isVolatile shadowedStorage
        shadowedOwned statMtime)
    | .unreadable message => .error message
    | .missing => .error "cannot access file: No such file or directory"
    | .nmmeta _ _ => .error "not a valid keyfile"

def Filename.basename : Filename → Basename
  | keyfile _ name => .keyfile name
  | nmmeta _ uuid => .nmmeta uuid
  | other path => .ignored path

/-- `_load_file_from_path`. -/
def loadFileFromPath (fs : Filename → FileState) (fullFilename : Filename)
    (type : NMSKeyfileStorageType) : Except String NMSettingsStorage :=
  loadFile fs type fullFilename.basename

namespace NMSettingsStorage

/-- `nms_keyfile_storage_copy_content`. -/
def copyContent (dst src : NMSettingsStorage) : NMSettingsStorage :=
  match dst, src with
  | keyfileConn uuid type name _, keyfileConn _ _ _ data => keyfileConn uuid type name data
  | keyfileMeta uuid type _, keyfileMeta _ _ metaData => keyfileMeta uuid type metaData
  | _, _ => dst

/-- `_storage_clear` of the content of a keyfile storage. -/
def clear : NMSettingsStorage → NMSettingsStorage
  | keyfileConn uuid type name data =>
    keyfileConn uuid type name
      { data with connection := none, shadowedStorage := none, shadowedOwned := false }
  | keyfileMeta uuid type metaData => keyfileMeta uuid type { metaData with shadowedStorage := none }
  | storage => storage

/-- What `nms_keyfile_plugin_update_connection` sets in a storage.  The shadowed storage is only
written to the file. -/
def setConnData (isNmGenerated isVolatile : Bool)
    (statMtime : Timespec) (shadowedOwned : Bool) : NMSettingsStorage → NMSettingsStorage
  | .keyfileConn uuid type name data =>
    .keyfileConn uuid type name
      { data with
        isNmGenerated := isNmGenerated
        isVolatile := isVolatile
        statMtime := statMtime
        shadowedOwned := shadowedOwned }
  | storage => storage

/-- The connection that `nms_keyfile_storage_steal_connection` returns. -/
def stolenConnection : NMSettingsStorage → Option NMConnection
  | keyfileConn _ _ _ data => data.connection
  | _ => none

/-- What `nms_keyfile_storage_steal_connection` leaves. -/
def stealConnection : NMSettingsStorage → NMSettingsStorage
  | keyfileConn uuid type name data => keyfileConn uuid type name { data with connection := none }
  | storage => storage

end NMSettingsStorage

structure NMSKeyfilePlugin where
  heap : Nat → NMSettingsStorage
  /-- The first address that was not given out yet. -/
  next : Nat
  storages : NMSettUtilStorages

namespace NMSKeyfilePlugin

section

variable (self : NMSKeyfilePlugin)

/-- Write to an object of the heap. -/
def write (storage : Nat) (content : NMSettingsStorage) : NMSKeyfilePlugin :=
  { self with heap := fun other => if other = storage then content else self.heap other }

/-- `g_object_new` at the address `self.next`. -/
def objectNew (content : NMSettingsStorage) : NMSKeyfilePlugin :=
  { self.write self.next content with next := self.next + 1 }

def addTake (self : NMSKeyfilePlugin) (storage : Nat) : NMSKeyfilePlugin :=
  { self with storages := self.storages.addTake self.heap storage }

/-- Take a storage out of the container of the plugin. -/
def steal (self : NMSKeyfilePlugin) (storage : Nat) : NMSKeyfilePlugin :=
  { self with storages := self.storages.steal self.heap storage }

/-- `nms_keyfile_storage_destroy` of a storage that is in no container. -/
def destroy (storage : Nat) : NMSKeyfilePlugin :=
  self.write storage (self.heap storage).clear

/-- `nm_settings_storage_is_meta_data_alive`. -/
def isMetaDataAlive (storage : Nat) : Option NMSettingsMetaData :=
  if storage ∈ self.storages.storageLst then (self.heap storage).isMetaData else none

end

/-- A call of the load callback. -/
structure LoadEvent where
  storage : Nat
  connection : Option NMConnection
  deriving DecidableEq, Repr

/-- The state of `_storages_consolidate`. -/
structure Consolidate where
  plugin : NMSKeyfilePlugin
  storagesNew : NMSettUtilStorages
  /-- The `is_dirty` flags. -/
  isDirty : Nat → Bool
  modified : List Nat
  /-- `storages_deleted`. -/
  deleted : List Nat

namespace Consolidate

def setDirty (st : Consolidate) (storage : Nat) (dirty : Bool) : Consolidate :=
  { st with isDirty := fun other => if other = storage then dirty else st.isDirty other }

/-- Stop tracking a storage. -/
def delete (st : Consolidate) (storageOld : Nat) : Consolidate :=
  { st with
    plugin := st.plugin.steal storageOld
    deleted := st.deleted ++ [storageOld] }

def add (st : Consolidate) (storageNew : Nat) : Consolidate :=
  { st.setDirty storageNew false with
    plugin := st.plugin.addTake storageNew
    modified := st.modified ++ [storageNew] }

/-- Take the content of a new storage over to the old one. -/
def replace (st : Consolidate) (storageOld storageNew : Nat) : Consolidate :=
  { st.setDirty storageOld false with
    plugin := (st.plugin.write storageOld
      ((st.plugin.heap storageOld).copyContent (st.plugin.heap storageNew))).destroy storageNew
    modified := st.modified ++ [storageOld] }

/-- The body of the loop over the new storages. -/
def mergeNew (st : Consolidate) (storageNew : Nat) : Consolidate :=
  let heap := st.plugin.heap
  let stolen := { st with storagesNew := st.storagesNew.steal heap storageNew }
  match st.plugin.storages.lookupByFilename (heap storageNew).getFilename with
  | none => stolen.add storageNew
  | some storageOld =>
    if (heap storageNew).getUuid ≠ (heap storageOld).getUuid then
      (stolen.delete storageOld).add storageNew
    else stolen.replace storageOld storageNew

/-- The body of the loop over the old storages. -/
def prune (replaceAll : Bool) (storagesReplaced : List Nat) (st : Consolidate) (storageOld : Nat) :
    Consolidate :=
  if !st.isDirty storageOld then st
  else if replaceAll || storagesReplaced.contains storageOld then st.delete storageOld
  else st

/-- The body of the loop that raises events for modified storages. -/
def emitModified (acc : Consolidate × List LoadEvent) (storage : Nat) :
    Consolidate × List LoadEvent :=
  let (st, events) := acc
  if !st.isDirty storage then (st, events)
  else
    let st := st.setDirty storage false
    if storage ∉ st.plugin.storages.storageLst then (st, events)
    else
      let content := st.plugin.heap storage
      ({ st with plugin := st.plugin.write storage content.stealConnection },
        events ++ [⟨storage, content.stolenConnection⟩])

/-- The body of the loop that raises events for deleted storages. -/
def emitDeleted (acc : NMSKeyfilePlugin × List LoadEvent) (storage : Nat) :
    NMSKeyfilePlugin × List LoadEvent :=
  (acc.1.destroy storage, acc.2 ++ [⟨storage, none⟩])

end Consolidate

/-- The loops of `_storages_consolidate` that change the containers. -/
def storagesMerge (self : NMSKeyfilePlugin) (storagesNew : NMSettUtilStorages) (replaceAll : Bool)
    (storagesReplaced : List Nat) : Consolidate :=
  let st : Consolidate :=
    { plugin := self
      storagesNew := storagesNew
      isDirty := fun storage => self.storages.storageLst.contains storage
      modified := []
      deleted := [] }
  let st := storagesNew.storageLst.foldl Consolidate.mergeNew st
  st.plugin.storages.storageLst.foldl (Consolidate.prune replaceAll storagesReplaced) st

/-- `_storages_consolidate`. -/
def storagesConsolidate (self : NMSKeyfilePlugin) (storagesNew : NMSettUtilStorages)
    (replaceAll : Bool) (storagesReplaced : List Nat) : NMSKeyfilePlugin × List LoadEvent :=
  let st := self.storagesMerge storagesNew replaceAll storagesReplaced
  let st := st.modified.foldl (fun st storage => st.setDirty storage true) st
  let (st, events) := st.modified.foldl Consolidate.emitModified (st, [])
  st.deleted.foldl Consolidate.emitDeleted (st.plugin, events)

/-- The plugin with the container that files are loaded to. -/
structure Loading where
  plugin : NMSKeyfilePlugin
  storagesNew : NMSettUtilStorages

def Loading.take (st : Loading) (content : NMSettingsStorage) : Loading :=
  let plugin := st.plugin.objectNew content
  { plugin := plugin
    storagesNew := st.storagesNew.addTake plugin.heap st.plugin.next }

/-- The body of the loop of `_load_dir`, with `dupl_filenames`. -/
def loadDirEntry (fs : Filename → FileState) (type : NMSKeyfileStorageType)
    (acc : Loading × List Basename) (filename : Basename) : Loading × List Basename :=
  if filename ∈ acc.2 then acc
  else
    match loadFile fs type filename with
    | .error _ => (acc.1, filename :: acc.2)
    | .ok content => (acc.1.take content, filename :: acc.2)

/-- `_load_dir`. -/
def loadDir (fs : Filename → FileState) (names : NMSKeyfileStorageType → List Basename)
    (st : Loading) (type : NMSKeyfileStorageType) : Loading :=
  ((names type).foldl (loadDirEntry fs type) (st, [])).1

section

variable (dirs : KeyfileDirs) (fs : Filename → FileState)

/-- `reload_connections`. -/
def reloadConnections (names : NMSKeyfileStorageType → List Basename) (self : NMSKeyfilePlugin) :
    NMSKeyfilePlugin × List LoadEvent :=
  let st := dirs.dirnames.foldl (loadDir fs names) ⟨self, .init⟩
  st.plugin.storagesConsolidate st.storagesNew true []

/-- `NMSettingsPluginConnectionLoadEntry`. -/
structure LoadEntry where
  filename : String
  /-- Whether a plugin is responsible for the file. -/
  handled : Bool
  error : Option String
  deriving DecidableEq, Repr

/-- The state of the first loop of `load_connections`. -/
structure LoadState extends Loading where
  /-- `dupl_filenames`, with the entry of each file. -/
  duplFilenames : List (Filename × LoadEntry)
  loadedUuids : List Uuid
  storagesReplaced : List Nat
  entries : List LoadEntry

/-- The body of the first loop of `load_connections`. -/
def loadEntry (st : LoadState) (entry : LoadEntry) : LoadState :=
  if entry.handled then { st with entries := st.entries ++ [entry] }
  else
    match dirs.pathDetectStorageType entry.filename with
    | .elsewhere => { st with entries := st.entries ++ [entry] }
    | .invalid =>
      let entry :=
        { entry with handled := true, error := some "filename is not valid for a keyfile" }
      { st with entries := st.entries ++ [entry] }
    | .found type basename =>
      let fullFilename := basename.fullFilename type
      match st.duplFilenames.lookup fullFilename with
      | some dupl =>
        let entry := { entry with handled := dupl.handled, error := dupl.error }
        { st with entries := st.entries ++ [entry] }
      | none =>
        match loadFile fs type basename with
        | .error message =>
          if fs fullFilename = .missing then
            let entry := { entry with handled := true }
            { st with
              duplFilenames := (fullFilename, entry) :: st.duplFilenames
              storagesReplaced :=
                (st.plugin.storages.idxByFilename fullFilename).toList ++ st.storagesReplaced
              entries := st.entries ++ [entry] }
          else
            let entry := { entry with handled := true, error := some message }
            { st with
              duplFilenames := (fullFilename, entry) :: st.duplFilenames
              entries := st.entries ++ [entry] }
        | .ok content =>
          let entry := { entry with handled := true }
          { st with
            toLoading := st.toLoading.take content
            duplFilenames := (fullFilename, entry) :: st.duplFilenames
            loadedUuids :=
              if content.getUuid ∈ st.loadedUuids then st.loadedUuids
              else st.loadedUuids ++ [content.getUuid]
            entries := st.entries ++ [entry] }

/-- The body of the loop over the tracked storages of a loaded UUID. -/
def rereadStorage (fs : Filename → FileState) (loadedUuid : Uuid) (st : LoadState)
    (storage : Nat) : LoadState :=
  match (st.plugin.heap storage).getFilename, (st.plugin.heap storage).storageType with
  | some fullFilename, some type =>
    if (st.duplFilenames.lookup fullFilename).isSome then st
    else
      let replaced := { st with storagesReplaced := storage :: st.storagesReplaced }
      match loadFileFromPath fs fullFilename type with
      | .error _ => replaced
      | .ok content =>
        if content.getUuid ≠ loadedUuid then replaced
        else { replaced with toLoading := st.toLoading.take content }
  | _, _ => st

/-- The body of the loop over the loaded UUIDs. -/
def rereadUuid (fs : Filename → FileState) (st : LoadState) (loadedUuid : Uuid) : LoadState :=
  match st.plugin.storages.lookupByUuid loadedUuid with
  | none => st
  | some lst => lst.foldl (rereadStorage fs loadedUuid) st

/-- The loops of `load_connections` that read files. -/
def loadFiles (entries : List LoadEntry) (self : NMSKeyfilePlugin) : LoadState :=
  let st := entries.foldl (loadEntry dirs fs) ⟨⟨self, .init⟩, [], [], [], []⟩
  (dirs.hashIter st.loadedUuids).foldl (rereadUuid fs) st

/-- `load_connections`. -/
def loadConnections (entries : List LoadEntry) (self : NMSKeyfilePlugin) :
    NMSKeyfilePlugin × List LoadEvent × List LoadEntry :=
  if entries.isEmpty then (self, [], entries)
  else
    let st := self.loadFiles dirs fs entries
    let (plugin, events) := st.plugin.storagesConsolidate st.storagesNew false st.storagesReplaced
    (plugin, events, st.entries)

end

/-- What `nms_keyfile_writer_connection` brings about: the names that it tries for a new file and
that do not exist, and either an error, or the modification time of the written file and the
settings that it rereads, unless these are the same. -/
structure KeyfileWrite where
  names : List String
  result : Except String (Option String × Timespec)

/-- The connection that was written, as reread from the file. -/
def reread (connection : NMConnection) (settings : Option String) : NMConnection :=
  { connection with settings := settings.getD connection.settings }

/-- `nms_keyfile_plugin_add_connection`: the storage is new, at the address `self.next`. -/
def addConnection (dirs : KeyfileDirs) (self : NMSKeyfilePlugin) (connection : NMConnection)
    (inMemory isNmGenerated isVolatile : Bool) (shadowedStorage : Option Filename)
    (shadowedOwned : Bool) (write : KeyfileWrite) :
    Except String (NMSKeyfilePlugin × Nat × NMConnection) :=
  let type := dirs.addType inMemory
  match write.names.find? fun name => (self.storages.idxByFilename (.keyfile type name)).isNone with
  | none => .error "could not find suitable keyfile file name"
  | some name =>
    match write.result with
    | .error message => .error message
    | .ok (settings, mtime) =>
      let connection := reread connection settings
      let content := newConnection connection name type isNmGenerated isVolatile
        shadowedStorage shadowedOwned mtime
      let plugin := (self.objectNew content).addTake self.next
      .ok (plugin.write self.next content.stealConnection, self.next, connection)

/-- `nms_keyfile_plugin_update_connection`. -/
def updateConnection (self : NMSKeyfilePlugin) (storage : Nat) (connection : NMConnection)
    (isNmGenerated isVolatile shadowedOwned : Bool) (write : KeyfileWrite) :
    Except String (NMSKeyfilePlugin × NMConnection) :=
  match write.result with
  | .error message => .error message
  | .ok (settings, mtime) =>
    let content :=
      (self.heap storage).setConnData isNmGenerated isVolatile mtime shadowedOwned
    .ok (self.write storage content, reread connection settings)

/-- The result of `unlink`. -/
inductive Unlink where
  | deleted
  | enoent
  | failed (message : String)
  deriving DecidableEq, Repr

/-- `delete_connection`. -/
def deleteConnection (self : NMSKeyfilePlugin) (storage : Nat) (unlink : Unlink) :
    Except String NMSKeyfilePlugin :=
  if (self.heap storage).isKeyfileLib then
    .error "profile in read-only storage cannot be deleted"
  else
    match unlink with
    | .failed message => .error message
    | _ => .ok ((self.steal storage).destroy storage)

/-- The result of `nms_keyfile_plugin_set_nmmeta_tombstone`. -/
structure TombstoneResult where
  plugin : NMSKeyfilePlugin
  success : Bool
  storage : Option Nat
  hardFailure : Bool

/-- `nms_keyfile_plugin_set_nmmeta_tombstone`, where `written` is whether the file can be written
or deleted. -/
def setNmmetaTombstone (dirs : KeyfileDirs) (self : NMSKeyfilePlugin) (simulate : Bool)
    (uuid : Uuid) (inMemory set : Bool) (shadowedStorage : Option Filename) (written : Bool) :
    TombstoneResult :=
  if !inMemory && !dirs.hasEtc then ⟨self, true, none, true⟩
  else
    let type : NMSKeyfileStorageType := if inMemory then .run else .etc
    if !simulate && !written then ⟨self, false, none, false⟩
    else
      match set, self.storages.idxByFilename (.nmmeta type uuid) with
      | true, none =>
        let plugin := self.objectNew (newTombstone uuid type shadowedStorage)
        ⟨plugin.addTake self.next, true, some self.next, false⟩
      | true, some storage =>
        let content :=
          match self.heap storage with
          | .keyfileMeta uuid type metaData =>
            .keyfileMeta uuid type { metaData with shadowedStorage := shadowedStorage }
          | content => content
        ⟨self.write storage content, true, some storage, false⟩
      | false, some storage => ⟨self.steal storage, true, some storage, false⟩
      | false, none => ⟨self, true, none, false⟩

end NMSKeyfilePlugin

end NetworkManager
