import NetworkManager.Library.ListSort
import NetworkManager.Settings.KeyfilePlugin

/-!
# Tracking storages

The settings keep an entry for each UUID, with the storages of the UUID sorted by priority.  Plugins
report changes of storages.  These are collected in a second list of the entry, and when an operation
has reported all its changes, the entries that have any are updated: the changes are merged, storages
that are no longer alive are dropped, and the first of the sorted storages decides whether a profile
is exposed for the UUID.
-/

namespace NetworkManager

/-- `NMSettingsConnectionIntFlags`, as far as they are stored. -/
structure IntFlags where
  /-- `NM_SETTINGS_CONNECTION_INT_FLAGS_NM_GENERATED`. -/
  nmGenerated : Bool
  /-- `NM_SETTINGS_CONNECTION_INT_FLAGS_VOLATILE`. -/
  volatile : Bool
  deriving DecidableEq, Repr

namespace IntFlags

/-- `NM_SETTINGS_CONNECTION_INT_FLAGS_NONE`. -/
def none : IntFlags := ⟨false, false⟩

/-- `_NM_SETTINGS_CONNECTION_INT_FLAGS_PERSISTENT_MASK`. -/
def persistentMask : IntFlags := ⟨true, true⟩

/-- Whether any flag is set. -/
def any (flags : IntFlags) : Bool := flags.nmGenerated || flags.volatile

def replace (flags mask values : IntFlags) : IntFlags where
  nmGenerated := if mask.nmGenerated then values.nmGenerated else flags.nmGenerated
  volatile := if mask.volatile then values.volatile else flags.volatile

end IntFlags

/-- An `NMSettingsConnection`: an exposed profile. -/
structure NMSettingsConnection where
  storage : Nat
  connection : NMConnection
  flags : IntFlags
  deriving DecidableEq, Repr

/-- `SettConnEntry`. -/
structure SettConnEntry where
  settConn : Option Nat
  storage : Option Nat
  /-- The storages of the UUID, with the highest priority first. -/
  sdLst : List StorageData
  /-- The changes that were not merged yet. -/
  dirtySdLst : List StorageData
  deriving DecidableEq, Repr

/-- `_sett_conn_entry_new`. -/
def SettConnEntry.new : SettConnEntry := ⟨none, none, [], []⟩

/-- The group `[.nmmeta]` of a keyfile. -/
structure KeyfileNmmeta where
  /-- `nm-generated`. -/
  isNmGenerated : Bool
  /-- `volatile`. -/
  isVolatile : Bool
  /-- `shadowed-storage`. -/
  shadowedStorage : Option Filename
  /-- `shadowed-owned`. -/
  shadowedOwned : Bool
  deriving DecidableEq, Repr

/-- The state of the settings.  The heap of the keyfile plugin holds the storages of all plugins. -/
structure NMSettings where
  keyfile : NMSKeyfilePlugin
  /-- The meta-data in the keyfiles on disk. -/
  files : Filename → Option KeyfileNmmeta
  sceIdx : Uuid → Option SettConnEntry
  /-- `sce_dirty_lst_head`. -/
  sceDirtyLst : List Uuid
  /-- The profiles by their address. -/
  connections : Nat → NMSettingsConnection
  /-- The first address of a profile that was not given out yet. -/
  nextConnection : Nat

/-- The changes of an entry after one more.  A storage with a change keeps its position, and only one
storage is prioritized. -/
def trackSd (dirty : List StorageData) (storage : Nat) (connection : Option NMConnection)
    (prioritize : Bool) : List StorageData :=
  let dirty :=
    if dirty.any fun sd => sd.storage == storage then
      dirty.map fun sd => if sd.storage = storage then { sd with connection := connection } else sd
    else dirty ++ [⟨storage, connection, false⟩]
  if prioritize then dirty.map fun sd => { sd with prioritize := sd.storage == storage } else dirty

/-- The storages of an entry with the changes merged into them. -/
def sdsMerge (sdLst dirty : List StorageData) : List StorageData :=
  let reprioritize := dirty.any (·.prioritize)
  let merged := sdLst.map fun sd =>
    match dirty.find? fun sdDirty => sdDirty.storage == sd.storage with
    | some sdDirty => { sd with connection := sdDirty.connection, prioritize := sdDirty.prioritize }
    | none => if reprioritize then { sd with prioritize := false } else sd
  merged ++ dirty.filter fun sdDirty => !sdLst.any fun sd => sd.storage == sdDirty.storage

namespace NMSettings

section

variable (self : NMSettings)

def setEntry (uuid : Uuid) (entry : Option SettConnEntry) : NMSettings :=
  { self with sceIdx := fun other => if other = uuid then entry else self.sceIdx other }

/-- `nm_settings_get_connection_by_uuid`: the exposed profile of a UUID. -/
def getConnectionByUuid (uuid : Uuid) : Option Nat :=
  (self.sceIdx uuid).bind (·.settConn)

/-- `_storage_data_is_alive`. -/
def isAlive (keyfile : NMSKeyfilePlugin) (sd : StorageData) : Bool :=
  sd.connection.isSome || (keyfile.isMetaDataAlive sd.storage).isSome

/-- `_connection_changed_track`. -/
def track (storage : Nat) (connection : Option NMConnection) (prioritize : Bool) : NMSettings :=
  let uuid := (self.keyfile.heap storage).getUuid
  let entry := (self.sceIdx uuid).getD .new
  let entry :=
    { entry with dirtySdLst := trackSd entry.dirtySdLst storage connection prioritize }
  { self.setEntry uuid (some entry) with
    sceDirtyLst := self.sceDirtyLst.erase uuid ++ [uuid] }

/-- `_sett_conn_entry_sds_update`: the new list of storages of an entry. -/
def sdsUpdate (plugins : List NMSettingsPlugin) (keyfile : NMSKeyfilePlugin)
    (entry : SettConnEntry) : List StorageData :=
  ListSort.sort (sdsUpdateCmp keyfile.heap plugins)
    ((sdsMerge entry.sdLst entry.dirtySdLst).filter (isAlive keyfile))

/-- `nm_settings_storage_load_sett_flags`. -/
def loadSettFlags : NMSettingsStorage → IntFlags
  | .keyfileConn _ .run _ data => ⟨data.isNmGenerated, data.isVolatile⟩
  | _ => .none

/-- `_connection_changed_update`. -/
def connectionChangedUpdate (settConn storage : Nat) (connection : NMConnection)
    (settFlags settMask : IntFlags) : NMSettings :=
  let isRun := (self.keyfile.heap storage).isKeyfileRun
  -- Profiles that are not in `/run` are never nm-generated and never volatile.
  let settMask := if isRun then settMask else .persistentMask
  let settFlags := if isRun then settFlags else .none
  { self with
    connections := fun other =>
      if other = settConn then
        ⟨storage, connection, (self.connections settConn).flags.replace settMask settFlags⟩
      else self.connections other }

/-- The profile of an entry, or a new one: `nm_settings_connection_new`. -/
def settConnFor (entry : SettConnEntry) (storage : Nat) (connection : NMConnection) :
    NMSettings × Nat :=
  match entry.settConn with
  | some settConn => (self, settConn)
  | none =>
    ({ self with
        nextConnection := self.nextConnection + 1
        connections := fun other =>
          if other = self.nextConnection then ⟨storage, connection, .none⟩
          else self.connections other },
      self.nextConnection)

end

/-- `_connection_changed_process_one`. -/
def processOne (plugins : List NMSettingsPlugin) (settFlags settMask : IntFlags)
    (overrideSettFlags : Bool) (self : NMSettings) (uuid : Uuid) : NMSettings :=
  match self.sceIdx uuid with
  | none => self
  | some entry =>
    let self := { self with sceDirtyLst := self.sceDirtyLst.erase uuid }
    let sdLst := sdsUpdate plugins self.keyfile entry
    match sdLst.head? with
    | none => self.setEntry uuid none
    | some sdBest =>
      match sdBest.connection with
      | none => self.setEntry uuid (some ⟨none, some sdBest.storage, sdLst, []⟩)
      | some connection =>
        let (settFlags, settMask) :=
          if overrideSettFlags then
            (loadSettFlags (self.keyfile.heap sdBest.storage), IntFlags.persistentMask)
          else (settFlags, settMask)
        let (self, settConn) := self.settConnFor entry sdBest.storage connection
        (self.setEntry uuid
          (some ⟨some settConn, some sdBest.storage, sdLst, []⟩)).connectionChangedUpdate
            settConn sdBest.storage connection settFlags settMask

/-- `_connection_changed_process_all_dirty`. -/
def processAllDirty (plugins : List NMSettingsPlugin) (settFlags settMask : IntFlags)
    (overrideSettFlags : Bool) (self : NMSettings) : NMSettings :=
  self.sceDirtyLst.foldl (processOne plugins settFlags settMask overrideSettFlags) self

end NMSettings

end NetworkManager
