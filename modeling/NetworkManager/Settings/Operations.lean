import NetworkManager.Settings.Tracking

/-!
# The operations of the settings

Profiles are added, updated, deleted, loaded and reloaded.  Each operation has the plugins change
storages, tracks the changes, hides storages that must not be exposed with tombstones, and then
processes the entries that have changes.  What the file system answers is an input.
-/

namespace NetworkManager

/-- The directories and plugins, and how profiles are normalized. -/
structure SettingsConfig where
  dirs : KeyfileDirs
  plugins : List NMSettingsPlugin
  /-- `_nm_connection_ensure_normalized`, with the UUID that is enforced. -/
  ensureNormalized : Option Uuid → NMConnection → Except String NMConnection
  /-- `_connection_changed_normalize_connection`: a profile that was written, with the secrets that
  agents own merged from the profile that was to be written. -/
  normalizeConnection : NMConnection → NMConnection → NMConnection
  ensureNormalized_uuid : ∀ expected connection normalized,
    ensureNormalized expected connection = .ok normalized →
    normalized.uuid = expected.getD connection.uuid
  normalizeConnection_uuid : ∀ source written, (normalizeConnection source written).uuid =
    written.uuid

/-- What the file system answers during one operation. -/
structure FileOutcome where
  keyfileAdd : NMSKeyfilePlugin.KeyfileWrite
  /-- Writing a new file of the `ifcfg-rh` plugin: its path, the settings that are reread, unless
  they are the same, and the modification time. -/
  ifcfgRhAdd : Except String (String × Option String × Timespec)
  /-- Writing to the file of a storage. -/
  update : Except String (Option String × Timespec)
  /-- Deleting the file of a storage. -/
  unlink : Nat → NMSKeyfilePlugin.Unlink
  /-- Whether a meta-data file in a directory can be written or deleted. -/
  nmmeta : NMSKeyfileStorageType → Bool

/-- `NMSettingsConnectionPersistMode`. -/
inductive PersistMode where
  | keep
  | toDisk
  | inMemory
  | inMemoryDetached
  | inMemoryOnly
  | noPersist
  deriving DecidableEq, Repr

/-- `new_in_memory` of an update: whether the profile shall be in memory. -/
def PersistMode.newInMemory (persistMode : PersistMode) (curInMemory : Bool) : Bool :=
  match persistMode with
  | .toDisk => false
  | .noPersist => curInMemory
  | _ => true

/-- The errors of the operations. -/
inductive SettingsError where
  /-- "a connection with this UUID already exists" -/
  | uuidExists
  /-- "connection is invalid: %s" -/
  | invalidConnection (message : String)
  /-- "failure adding connection: %s" -/
  | failureAdding (message : String)
  /-- "failure writing connection to existing storage \"%s\": %s" -/
  | failureWriting (filename : Option Filename) (message : String)
  /-- "failed to update connection: %s" -/
  | failedToUpdate (message : String)
  /-- "failed to write connection: %s" -/
  | failedToWrite (message : String)
  deriving DecidableEq, Repr

/-- A change of a storage of a plugin other than keyfile. -/
inductive OtherEvent where
  | new (content : NMSettingsStorage) (connection : Option NMConnection)
  | change (storage : Nat) (content : NMSettingsStorage) (connection : Option NMConnection)

/-- `_sett_conn_entry_storage_find_conflicting_storage`.  The first storage with a connection
decides. -/
def SettConnEntry.findConflictingStorage (heap : Nat → NMSettingsStorage)
    (plugins : List NMSettingsPlugin) (entry : SettConnEntry) (targetPlugin : NMSettingsPlugin)
    (storageCheckIncluding : Option Nat) : Option Nat :=
  if storageCheckIncluding.any fun storage => (heap storage).isKeyfileRun then none
  else
    match entry.sdLst.find? fun sd => sd.connection.isSome with
    | none => none
    | some sd =>
      if storageCheckIncluding = some sd.storage then none
      else if (pluginCmpByPriority plugins (heap sd.storage).getPlugin targetPlugin).isLE then none
      else some sd.storage

/-- `_sett_conn_entry_find_shadowed_storage`. -/
def SettConnEntry.findShadowedStorage (heap : Nat → NMSettingsStorage) (entry : SettConnEntry)
    (shadowedStorageFilename : Option Filename) (blacklistedStorage : Option Nat) : Option Nat :=
  match shadowedStorageFilename with
  | none => none
  | some filename =>
    (entry.sdLst.find? fun sd =>
      sd.connection.isSome && decide (blacklistedStorage ≠ some sd.storage) &&
        decide ((heap sd.storage).getFilenameForShadowedStorage = some filename)).map (·.storage)

namespace NMSettings

variable (cfg : SettingsConfig)

section

variable (self : NMSettings)

/-- Remember the meta-data of a keyfile that was written. -/
def writeFile (filename : Option Filename) (nmmeta : KeyfileNmmeta) : NMSettings :=
  { self with files := fun other => if filename = some other then some nmmeta else self.files other }

/-- `nm_settings_plugin_add_connection`, and `nms_keyfile_plugin_add_connection` for keyfile: the
storage is new. -/
def pluginAddConnection (plugin : NMSettingsPlugin) (connection : NMConnection) (inMemory : Bool)
    (settFlags : IntFlags) (shadowedStorage : Option Filename) (shadowedOwned : Bool)
    (outcome : FileOutcome) :
    Except String (NMSettings × Nat × NMConnection) :=
  match plugin with
  | .keyfile =>
    match self.keyfile.addConnection cfg.dirs connection inMemory settFlags.nmGenerated
      settFlags.volatile shadowedStorage shadowedOwned outcome.keyfileAdd with
    | .error message => .error message
    | .ok (keyfile, storage, connection) =>
      .ok ({ self with keyfile := keyfile }.writeFile (keyfile.heap storage).getFilename
        ⟨settFlags.nmGenerated, settFlags.volatile, shadowedStorage, shadowedOwned⟩, storage,
        connection)
  | .ifcfgRh =>
    match outcome.ifcfgRhAdd with
    | .error message => .error message
    | .ok (path, settings, mtime) =>
      .ok ({ self with
          keyfile := self.keyfile.objectNew (.ifcfgRh connection.uuid path mtime) },
        self.keyfile.next, NMSKeyfilePlugin.reread connection settings)
  | .ifupdown => .error "settings plugin does not support adding connections"

/-- The loop of `_add_connection_to_first_plugin`. -/
def addToPlugins (self : NMSettings) (settConnEntry : Option SettConnEntry)
    (newConnection : NMConnection) (inMemory : Bool) (settFlags : IntFlags)
    (shadowedStorage : Option Filename) (shadowedOwned : Bool) (outcome : FileOutcome) :
    List NMSettingsPlugin → Option String → Except String (NMSettings × Nat × NMConnection)
  | [], firstError => .error (firstError.getD "")
  | plugin :: plugins, firstError =>
    if !inMemory && (settConnEntry.bind fun entry =>
        entry.findConflictingStorage self.keyfile.heap cfg.plugins plugin none).isSome then
      .error (firstError.getD "")
    else if inMemory && decide (plugin ≠ .keyfile) then
      addToPlugins self settConnEntry newConnection inMemory settFlags shadowedStorage
        shadowedOwned outcome plugins firstError
    else
      match self.pluginAddConnection cfg plugin newConnection inMemory settFlags shadowedStorage
        shadowedOwned outcome with
      | .error message =>
        addToPlugins self settConnEntry newConnection inMemory settFlags shadowedStorage
          shadowedOwned outcome plugins (firstError.or (some message))
      | .ok (self, storage, connectionToAdd) =>
        .ok (self, storage, cfg.normalizeConnection newConnection connectionToAdd)

/-- `_add_connection_to_first_plugin`. -/
def addConnectionToFirstPlugin (settConnEntry : Option SettConnEntry) (newConnection : NMConnection)
    (inMemory : Bool) (settFlags : IntFlags) (shadowedStorage : Option Filename)
    (shadowedOwned : Bool) (outcome : FileOutcome) :
    Except String (NMSettings × Nat × NMConnection) :=
  addToPlugins cfg self settConnEntry newConnection inMemory settFlags shadowedStorage shadowedOwned
    outcome cfg.plugins none

/-- `_update_connection_to_plugin`: the storage stays the same. -/
def updateConnectionToPlugin (storage : Nat) (connection : NMConnection) (settFlags : IntFlags)
    (shadowedStorage : Option Filename) (shadowedOwned : Bool) (outcome : FileOutcome) :
    Except String (NMSettings × NMConnection) :=
  match self.keyfile.heap storage with
  | .ifcfgRh uuid path _ =>
    match outcome.update with
    | .error message => .error message
    | .ok (settings, mtime) =>
      .ok ({ self with keyfile := self.keyfile.write storage (.ifcfgRh uuid path mtime) },
        NMSKeyfilePlugin.reread connection settings)
  | .ifupdown _ => .error "settings plugin does not support modifying connections"
  | content =>
    match self.keyfile.updateConnection storage connection settFlags.nmGenerated
      settFlags.volatile shadowedOwned ⟨[], outcome.update⟩ with
    | .error message => .error message
    | .ok (keyfile, connection) =>
      .ok ({ self with keyfile := keyfile }.writeFile content.getFilename
        ⟨settFlags.nmGenerated, settFlags.volatile, shadowedStorage, shadowedOwned⟩, connection)

/-- `nm_settings_plugin_delete_connection`. -/
def pluginDeleteConnection (storage : Nat) (outcome : FileOutcome) : Except String NMSettings :=
  match (self.keyfile.heap storage).getPlugin with
  | .keyfile =>
    (self.keyfile.deleteConnection storage (outcome.unlink storage)).map fun keyfile =>
      { self with keyfile := keyfile }
  | .ifcfgRh => .ok self
  | .ifupdown => .error "settings plugin does not support deleting connections"

/-- Track the storage of a tombstone that changed. -/
def trackTombstone (result : NMSKeyfilePlugin.TombstoneResult) : NMSettings :=
  let self := { self with keyfile := result.plugin }
  match result.storage with
  | some storage => self.track storage none false
  | none => self

/-- Set or unset a tombstone.  If the file cannot be written, pretend that it was. -/
def forceTombstone (uuid : Uuid) (inMemory set : Bool) (shadowedStorage : Option Filename)
    (written : Bool) : NMSettings :=
  let result := self.keyfile.setNmmetaTombstone cfg.dirs false uuid inMemory set shadowedStorage
    written
  self.trackTombstone <|
    if result.success then result
    else result.plugin.setNmmetaTombstone cfg.dirs true uuid inMemory set shadowedStorage written

/-- `_set_nmmeta_tombstone`. -/
def setNmmetaTombstone (self : NMSettings) (uuid : Uuid) (tombstoneOnDisk tombstoneInMemory : Bool)
    (shadowedStorage : Option Filename) (outcome : FileOutcome) : NMSettings :=
  let (self, tombstoneInMemory) :=
    if tombstoneOnDisk then
      let result := self.keyfile.setNmmetaTombstone cfg.dirs false uuid false true none
        (outcome.nmmeta .etc)
      (self.trackTombstone result, tombstoneInMemory || !result.success)
    else (self, tombstoneInMemory)
  if tombstoneInMemory then
    self.forceTombstone cfg uuid true true shadowedStorage (outcome.nmmeta .run)
  else self

/-- The loop of `nm_settings_add_connection` over the meta-data of the UUID: the first storage that
a tombstone shadows. -/
def shadowedByTombstone (heap : Nat → NMSettingsStorage) (entry : SettConnEntry) : Option Nat :=
  entry.sdLst.findSome? fun sd =>
    if (heap sd.storage).isMetaData.isSome then
      entry.findShadowedStorage heap (heap sd.storage).getShadowedStorage.1 none
    else none

/-- The body of the loop of `nm_settings_add_connection` that removes tombstones. -/
def dropTombstone (uuid : Uuid) (newInRun : Bool) (outcome : FileOutcome) (self : NMSettings)
    (sd : StorageData) : NMSettings :=
  match self.keyfile.isMetaDataAlive sd.storage with
  | none => self
  | some metaData =>
    let isRun := (self.keyfile.heap sd.storage).isKeyfileRun
    if !metaData.isTombstone then self
    else if !isRun && newInRun then self
    else
      self.forceTombstone cfg uuid isRun false none
        (outcome.nmmeta (if isRun then .run else .etc))

/-- Writing a new profile in `nm_settings_add_connection`, to the storage that a tombstone shadows if
possible. -/
def addWrite (connection : NMConnection) (newInMemory : Bool) (settFlags : IntFlags)
    (outcome : FileOutcome) :
    Except SettingsError (NMSettings × Nat × NMConnection) :=
  let heap := self.keyfile.heap
  let settConnEntry := self.sceIdx connection.uuid
  let shadowedStorage := settConnEntry.bind (shadowedByTombstone heap)
  let updateStorage := shadowedStorage.filter fun storage =>
    !newInMemory && (settConnEntry.bind fun entry => entry.findConflictingStorage heap cfg.plugins
      (heap storage).getPlugin (some storage)).isNone
  let add := fun filename =>
    (self.addConnectionToFirstPlugin cfg settConnEntry connection newInMemory settFlags filename
      false outcome).mapError .failureAdding
  match updateStorage with
  | none => add (shadowedStorage.bind fun storage => (heap storage).getFilenameForShadowedStorage)
  | some storage =>
    match self.updateConnectionToPlugin storage connection settFlags none false outcome with
    | .ok (self, newConnection) => .ok (self, storage, newConnection)
    | .error message =>
      -- Another plugin may not support the profile, so it is added anew.
      if (heap storage).getPlugin ≠ .keyfile then add none
      else .error (.failureWriting (heap storage).getFilename message)

/-- `nm_settings_add_connection`.  The result is the storage that was written, and the profile. -/
def addConnection (connection : NMConnection) (persistMode : PersistMode) (settFlags : IntFlags)
    (outcome : FileOutcome) :
    NMSettings × Except SettingsError (Nat × NMConnection) :=
  let newInMemory := decide (persistMode ≠ .toDisk) || settFlags.any
  let uuid := connection.uuid
  if (self.getConnectionByUuid uuid).isSome then (self, .error .uuidExists)
  else
    match cfg.ensureNormalized none connection with
    | .error message => (self, .error (.invalidConnection message))
    | .ok connection =>
      match self.addWrite cfg connection newInMemory settFlags outcome with
      | .error error => (self, .error error)
      | .ok (self, newStorage, newConnection) =>
        let self := self.track newStorage (some newConnection) true
        let newInRun := (self.keyfile.heap newStorage).isKeyfileRun
        let sdLst := ((self.sceIdx uuid).getD .new).sdLst
        let self := sdLst.foldl (dropTombstone cfg uuid newInRun outcome) self
        (self.processAllDirty cfg.plugins settFlags .persistentMask false,
          .ok (newStorage, newConnection))

/-- How `nm_settings_update_connection` persists a profile. -/
structure UpdatePlan where
  dropStorage : Option Nat
  updateStorage : Option Nat
  newShadowedStorageFilename : Option Filename
  newShadowedOwned : Bool
  deriving DecidableEq, Repr

/-- Which storages are updated and dropped, and what the new profile shadows. -/
def updatePlan (heap : Nat → NMSettingsStorage) (entry : SettConnEntry) (curStorage : Nat)
    (persistMode : PersistMode) (newInMemory : Bool) : UpdatePlan :=
  let cur := heap curStorage
  let curInMemory := cur.isKeyfileRun
  let shadowedStorage :=
    entry.findShadowedStorage heap cur.getShadowedStorage.1 (some curStorage)
  let curShadowedStorageFilename :=
    if shadowedStorage.isSome then cur.getShadowedStorage.1 else none
  let (dropStorage, updateStorage) :=
    if newInMemory && decide (persistMode = .inMemoryOnly) then
      if curInMemory then (shadowedStorage, some curStorage) else (some curStorage, none)
    else if !newInMemory && curInMemory && shadowedStorage.isSome then
      (some curStorage, shadowedStorage)
    else if newInMemory ≠ curInMemory then
      (if newInMemory then none else some curStorage, none)
    else if cur.isKeyfileLib then (none, none)
    else (none, some curStorage)
  let (newShadowedStorageFilename, newShadowedOwned) :=
    if !newInMemory || decide (persistMode = .inMemoryOnly) then (none, false)
    else if !curInMemory then
      (cur.getFilenameForShadowedStorage,
        cur.getFilenameForShadowedStorage.isSome && decide (persistMode ≠ .inMemoryDetached))
    else
      (curShadowedStorageFilename,
        curShadowedStorageFilename.isSome && decide (persistMode = .inMemory))
  ⟨dropStorage, updateStorage, newShadowedStorageFilename, newShadowedOwned⟩

/-- What `nm_settings_update_connection` has done when it tracks the new profile. -/
structure Persisted where
  settings : NMSettings
  newStorage : Nat
  /-- `new_connection_real`. -/
  newConnection : NMConnection
  dropStorage : Option Nat

/-- The part of `nm_settings_update_connection` that writes a profile.  A failure may be ignored. -/
def persist (entry : SettConnEntry) (curStorage : Nat) (connection : NMConnection)
    (persistMode : PersistMode) (newInMemory : Bool) (settFlags : IntFlags) (ignoreFailure : Bool)
    (outcome : FileOutcome) :
    Except SettingsError Persisted :=
  let plan := updatePlan self.keyfile.heap entry curStorage persistMode newInMemory
  let ignored := Persisted.mk self curStorage connection plan.dropStorage
  match plan.updateStorage with
  | none =>
    match self.addConnectionToFirstPlugin cfg (some entry) connection newInMemory settFlags
      plan.newShadowedStorageFilename plan.newShadowedOwned outcome with
    | .ok (self, newStorage, newConnection) =>
      .ok ⟨self, newStorage, cfg.normalizeConnection connection newConnection, plan.dropStorage⟩
    | .error message => if ignoreFailure then .ok ignored else .error (.failedToWrite message)
  | some updateStorage =>
    match self.updateConnectionToPlugin updateStorage connection settFlags
      plan.newShadowedStorageFilename plan.newShadowedOwned outcome with
    | .ok (self, newConnection) =>
      .ok ⟨self, updateStorage, cfg.normalizeConnection connection newConnection, plan.dropStorage⟩
    | .error message => if ignoreFailure then .ok ignored else .error (.failedToUpdate message)

end

/-- The end of `nm_settings_update_connection`. -/
def finishUpdate (persisted : Persisted) (uuid : Uuid) (curStorage : Nat)
    (settFlags settMask : IntFlags) (outcome : FileOutcome) : NMSettings :=
  let self := persisted.settings.track persisted.newStorage (some persisted.newConnection) true
  let (self, tombstoneOnDisk, tombstoneInMemory) :=
    match persisted.dropStorage.filter fun storage => decide (storage ≠ persisted.newStorage) with
    | none => (self, false, false)
    | some dropStorage =>
      match self.pluginDeleteConnection dropStorage outcome with
      | .error _ =>
        let curInMemory := (self.keyfile.heap curStorage).isKeyfileRun
        (self, !curInMemory, curInMemory)
      | .ok self => (self.track dropStorage none false, false, false)
  let self := self.setNmmetaTombstone cfg uuid tombstoneOnDisk tombstoneInMemory none outcome
  self.processAllDirty cfg.plugins settFlags settMask false

/-- The persist mode that `nm_settings_update_connection` goes by, where `defaultWired` is whether
the profile is the default profile of a wired device. -/
def effectivePersistMode (persistMode : PersistMode) (curInMemory defaultWired : Bool)
    (settFlags settMask flags : IntFlags) : PersistMode :=
  let persistMode :=
    if persistMode = .keep then if curInMemory then .inMemory else .toDisk else persistMode
  let persistMode :=
    if settMask.nmGenerated && !settFlags.nmGenerated && defaultWired &&
        decide (persistMode = .noPersist) then .toDisk
    else persistMode
  if persistMode = .noPersist ∧
      ((settMask.nmGenerated && (settFlags.nmGenerated ^^ flags.nmGenerated)) ||
        (settMask.volatile && (settFlags.volatile ^^ flags.volatile))) then .inMemory
  else persistMode

section

variable (self : NMSettings)

/-- `nm_settings_update_connection`.  The result is `new_storage` and `new_connection_real`. -/
def updateConnection (settConn : Nat) (connection : Option NMConnection) (persistMode : PersistMode)
    (settFlags settMask : IntFlags) (ignoreFailure defaultWired : Bool) (outcome : FileOutcome) :
    NMSettings × Except SettingsError (Nat × NMConnection) :=
  let curStorage := (self.connections settConn).storage
  let uuid := (self.keyfile.heap curStorage).getUuid
  let entry := (self.sceIdx uuid).getD .new
  let normalized :=
    match connection with
    | some connection => cfg.ensureNormalized (some uuid) connection
    | none => .ok (self.connections settConn).connection
  match normalized with
  | .error message => (self, .error (.invalidConnection message))
  | .ok connection =>
    let curInMemory := (self.keyfile.heap curStorage).isKeyfileRun
    let persistMode := effectivePersistMode persistMode curInMemory defaultWired settFlags settMask
      (self.connections settConn).flags
    let newInMemory := persistMode.newInMemory curInMemory
    let settMask := if newInMemory then settMask else .persistentMask
    let settFlags := if newInMemory then settFlags else .none
    let persisted :=
      if persistMode = .noPersist then .ok (Persisted.mk self curStorage connection none)
      else self.persist cfg entry curStorage connection persistMode newInMemory settFlags
        ignoreFailure outcome
    match persisted with
    | .error error => (self, .error error)
    | .ok persisted =>
      (finishUpdate cfg persisted uuid curStorage settFlags settMask outcome,
        .ok (persisted.newStorage, persisted.newConnection))

/-- The state of `nm_settings_delete_connection`. -/
structure Deleting where
  settings : NMSettings
  tombstoneOnDisk : Bool
  tombstoneInMemory : Bool
  newShadowedStorageFilename : Option Filename

/-- Remember to hide a storage that is left. -/
def Deleting.hide (dropStorages : List Nat) (shadowedStorageUnowned : Option Nat) (st : Deleting)
    (sd : StorageData) : Deleting :=
  let content := st.settings.keyfile.heap sd.storage
  if sd.storage ∈ dropStorages then st
  else if !isAlive st.settings.keyfile sd then st
  else if content.isMetaData.isSome then st
  else if shadowedStorageUnowned = some sd.storage then
    { st with tombstoneInMemory := true, newShadowedStorageFilename := content.getFilename }
  else if content.isKeyfileRun then { st with tombstoneInMemory := true }
  else { st with tombstoneOnDisk := true }

/-- The body of the loop over the storages to drop. -/
def Deleting.drop (uuid : Uuid) (curStorage : Nat) (dropStorages : List Nat)
    (shadowedStorageUnowned : Option Nat) (outcome : FileOutcome) (st : Deleting) (storage : Nat) :
    Deleting :=
  let st :=
    match st.settings.pluginDeleteConnection storage outcome with
    | .error _ =>
      if (st.settings.keyfile.heap curStorage).isKeyfileRun then
        { st with tombstoneInMemory := true }
      else { st with tombstoneOnDisk := true }
    | .ok settings => { st with settings := settings.track storage none false }
  (((st.settings.sceIdx uuid).getD .new).sdLst).foldl
    (Deleting.hide dropStorages shadowedStorageUnowned) st

/-- `nm_settings_delete_connection`. -/
def deleteConnection (settConn : Nat) (outcome : FileOutcome) : NMSettings :=
  let curStorage := (self.connections settConn).storage
  let cur := self.keyfile.heap curStorage
  let uuid := cur.getUuid
  match self.sceIdx uuid with
  | none => self
  | some entry =>
    if entry.storage ≠ some curStorage then self
    else
      let shadowedStorage :=
        entry.findShadowedStorage self.keyfile.heap cur.getShadowedStorage.1 (some curStorage)
      let (shadowedOwned, shadowedUnowned) :=
        if cur.getShadowedStorage.2 then (shadowedStorage, none) else (none, shadowedStorage)
      let dropStorages :=
        (if cur.isKeyfileLib then [] else [curStorage]) ++ shadowedOwned.toList
      let st := dropStorages.foldl
        (Deleting.drop uuid curStorage dropStorages shadowedUnowned outcome)
        ⟨self, cur.isKeyfileLib, false, none⟩
      let self := st.settings.setNmmetaTombstone cfg uuid st.tombstoneOnDisk st.tombstoneInMemory
        st.newShadowedStorageFilename outcome
      self.processAllDirty cfg.plugins .none .none false

/-- Track the changes that a plugin reports. -/
def trackEvents (events : List NMSKeyfilePlugin.LoadEvent) : NMSettings :=
  events.foldl (fun self event => self.track event.storage event.connection false) self

/-- A change that another plugin reports. -/
def trackOther : OtherEvent → NMSettings
  | .new content connection =>
    { self with keyfile := self.keyfile.objectNew content }.track self.keyfile.next connection
      false
  | .change storage content connection =>
    { self with keyfile := self.keyfile.write storage content }.track storage connection false

/-- The meta-data of a file. -/
def fileNmmeta : FileState → Option KeyfileNmmeta
  | .keyfile _ _ isNmGenerated isVolatile shadowedStorage shadowedOwned =>
    some ⟨isNmGenerated, isVolatile, shadowedStorage, shadowedOwned⟩
  | _ => none

/-- `_plugin_connections_reload`, with the changes that the plugins before and after keyfile
report. -/
def pluginConnectionsReload (fs : Filename → FileState)
    (names : NMSKeyfileStorageType → List Basename) (before after : List OtherEvent) : NMSettings :=
  let self := before.foldl trackOther { self with files := fun filename => fileNmmeta (fs filename) }
  let (keyfile, events) := self.keyfile.reloadConnections cfg.dirs fs names
  let self := { self with keyfile := keyfile }.trackEvents events
  let self := after.foldl trackOther self
  self.processAllDirty cfg.plugins .none .none true

end

/-- `impl_settings_load_connections`. -/
def loadConnections (self : NMSettings) (fs : Filename → FileState)
    (entries : List NMSKeyfilePlugin.LoadEntry) (before after : List OtherEvent) : NMSettings :=
  let self := before.foldl trackOther { self with files := fun filename => fileNmmeta (fs filename) }
  let (keyfile, events, _) := self.keyfile.loadConnections cfg.dirs fs entries
  let self := { self with keyfile := keyfile }.trackEvents events
  let self := after.foldl trackOther self
  self.processAllDirty cfg.plugins .none .none true

end NMSettings

end NetworkManager
