import Mathlib.Data.String.Basic
import Mathlib.Order.Compare

/-!
# Settings storages

A storage is where a settings plugin keeps a profile, or the meta-data of a UUID.  Several storages
may exist for one UUID; the settings compare them to choose the one that is exposed.
-/

namespace NetworkManager

/-- The UUID of a profile. -/
abbrev Uuid := String

/-- A connection profile: its UUID, and all its other settings, which storages only pass on. -/
structure NMConnection where
  uuid : Uuid
  settings : String
  deriving DecidableEq, Repr

/-- The settings plugins. -/
inductive NMSettingsPlugin where
  | keyfile
  | ifcfgRh
  | ifupdown
  deriving DecidableEq, Repr

/-- The directory of a keyfile. -/
inductive NMSKeyfileStorageType where
  /-- Read-write, runtime only: `/run`. -/
  | run
  /-- Read-write, persistent: `/etc`. -/
  | etc
  /-- Read-only: `/usr/lib`. -/
  | lib (idx : Nat)
  deriving DecidableEq, Repr

/-- The numeric value of a storage type, `NMS_KEYFILE_STORAGE_TYPE_RUN` and so on. -/
def NMSKeyfileStorageType.value : NMSKeyfileStorageType → Int
  | run => 1
  | etc => 2
  | lib idx => 3 + idx

/-- The name of a file.  The directory of a keyfile and whether it is a `.nmmeta` file can be read
off its name; a `.nmmeta` file is named after its UUID. -/
inductive Filename where
  | keyfile (type : NMSKeyfileStorageType) (name : String)
  | nmmeta (type : NMSKeyfileStorageType) (uuid : Uuid)
  /-- A file of another plugin. -/
  | other (path : String)
  deriving DecidableEq, Repr

/-- A file timestamp. -/
structure Timespec where
  tvSec : Int
  tvNsec : Int
  deriving DecidableEq, Repr

/-- `conn_data` of a keyfile storage. -/
structure ConnData where
  /-- The connection, until it is handed to the settings. -/
  connection : Option NMConnection
  shadowedStorage : Option Filename
  statMtime : Timespec
  isNmGenerated : Bool
  isVolatile : Bool
  /-- Whether the shadowed file is deleted along with the profile. -/
  shadowedOwned : Bool
  deriving DecidableEq, Repr

/-- `NMSettingsMetaData`. -/
structure NMSettingsMetaData where
  shadowedStorage : Option Filename
  /-- Whether the meta-data hides the UUID. -/
  isTombstone : Bool
  deriving DecidableEq, Repr

/-- A settings storage. -/
inductive NMSettingsStorage where
  /-- A keyfile with a profile. -/
  | keyfileConn (uuid : Uuid) (type : NMSKeyfileStorageType) (name : String) (data : ConnData)
  | keyfileMeta (uuid : Uuid) (type : NMSKeyfileStorageType) (metaData : NMSettingsMetaData)
  | ifcfgRh (uuid : Uuid) (path : String) (statMtime : Timespec)
  | ifupdown (uuid : Uuid)
  deriving DecidableEq, Repr

namespace NMSettingsStorage

/-- `nm_settings_storage_get_uuid`. -/
def getUuid : NMSettingsStorage → Uuid
  | keyfileConn uuid _ _ _ => uuid
  | keyfileMeta uuid _ _ => uuid
  | ifcfgRh uuid _ _ => uuid
  | ifupdown uuid => uuid

/-- `nm_settings_storage_get_plugin`. -/
def getPlugin : NMSettingsStorage → NMSettingsPlugin
  | keyfileConn .. => .keyfile
  | keyfileMeta .. => .keyfile
  | ifcfgRh .. => .ifcfgRh
  | ifupdown .. => .ifupdown

/-- `nm_settings_storage_get_filename`. -/
def getFilename : NMSettingsStorage → Option Filename
  | keyfileConn _ type name _ => some (.keyfile type name)
  | keyfileMeta uuid type _ => some (.nmmeta type uuid)
  | ifcfgRh _ path _ => some (.other path)
  | ifupdown _ => none

def storageType : NMSettingsStorage → Option NMSKeyfileStorageType
  | keyfileConn _ type _ _ => some type
  | keyfileMeta _ type _ => some type
  | _ => none

/-- `nm_settings_storage_is_keyfile_run`. -/
def isKeyfileRun (self : NMSettingsStorage) : Bool :=
  self.storageType = some .run

/-- `nm_settings_storage_is_keyfile_lib`. -/
def isKeyfileLib (self : NMSettingsStorage) : Bool :=
  match self.storageType with
  | some (.lib _) => true
  | _ => false

/-- `nm_settings_storage_is_meta_data`. -/
def isMetaData : NMSettingsStorage → Option NMSettingsMetaData
  | keyfileMeta _ _ metaData => some metaData
  | _ => none

def isTombstone (self : NMSettingsStorage) : Bool :=
  (self.isMetaData.map (·.isTombstone)).getD false

/-- `nm_settings_storage_get_shadowed_storage`, with `out_shadowed_owned`. -/
def getShadowedStorage : NMSettingsStorage → Option Filename × Bool
  | keyfileConn _ .run _ data =>
    match data.shadowedStorage with
    | some filename => (some filename, data.shadowedOwned)
    | none => (none, false)
  | keyfileMeta _ .run metaData => (metaData.shadowedStorage, false)
  | _ => (none, false)

/-- `nm_settings_storage_get_filename_for_shadowed_storage`. -/
def getFilenameForShadowedStorage : NMSettingsStorage → Option Filename
  | keyfileConn _ .etc name _ => some (.keyfile .etc name)
  | ifcfgRh _ path _ => some (.other path)
  | _ => none

end NMSettingsStorage

section

variable (plugins : List NMSettingsPlugin)

/-- `g_slist_index`. -/
def slistIndex (plugin : NMSettingsPlugin) : Int :=
  if plugin ∈ plugins then (plugins.idxOf plugin : Int) else -1

/-- `nm_settings_plugin_cmp_by_priority`. -/
def pluginCmpByPriority (a b : NMSettingsPlugin) : Ordering :=
  if a ≠ b then compare (slistIndex plugins b) (slistIndex plugins a) else .eq

/-- Comparison of the modification time, newer files being more important. -/
def mtimeCmp (a b : Timespec) : Ordering :=
  (compare a.tvSec b.tvSec).then (compare a.tvNsec b.tvNsec)

/-- `cmp_fcn` of the class of the storages. -/
def cmpFcn : NMSettingsStorage → NMSettingsStorage → Ordering
  | .keyfileConn _ typeA nameA dataA, .keyfileConn _ typeB nameB dataB =>
    (compare typeB.value typeA.value).then <|
    (mtimeCmp dataA.statMtime dataB.statMtime).then (compare nameA nameB)
  | .keyfileMeta _ typeA metaA, .keyfileMeta _ typeB metaB =>
    (compare typeB.value typeA.value).then (compare metaA.isTombstone metaB.isTombstone)
  | .keyfileMeta _ typeA _, .keyfileConn _ typeB _ _ =>
    (compare typeB.value typeA.value).then (compare true false)
  | .keyfileConn _ typeA _ _, .keyfileMeta _ typeB _ =>
    (compare typeB.value typeA.value).then (compare false true)
  | .ifcfgRh _ pathA mtimeA, .ifcfgRh _ pathB mtimeB =>
    (mtimeCmp mtimeA mtimeB).then (compare pathA pathB)
  | _, _ => .eq

/-- `nm_settings_storage_cmp`. -/
def storageCmp (a b : NMSettingsStorage) : Ordering :=
  (compare a.isKeyfileRun b.isKeyfileRun).then <|
  (pluginCmpByPriority plugins a.getPlugin b.getPlugin).then (cmpFcn a b)

end

/-- What the settings know about a storage of a UUID.  The storage is an object of its own, named
by its address. -/
structure StorageData where
  storage : Nat
  connection : Option NMConnection
  /-- Whether the storage was written explicitly and has to win. -/
  prioritize : Bool
  deriving DecidableEq, Repr

/-- `_sett_conn_entry_sds_update_cmp_ascending`. -/
def sdsUpdateCmpAscending (heap : Nat → NMSettingsStorage) (plugins : List NMSettingsPlugin)
    (a b : StorageData) : Ordering :=
  let storageA := heap a.storage
  let storageB := heap b.storage
  let byRun :=
    if storageA.isKeyfileRun ≠ storageB.isKeyfileRun then
      (if storageA.isMetaData.isNone ∧ storageB.isMetaData.isNone then
        compare a.prioritize b.prioritize
      else .eq).then (compare storageA.isKeyfileRun storageB.isKeyfileRun)
    else .eq
  byRun.then <|
  (compare storageA.isTombstone storageB.isTombstone).then <|
  (compare a.prioritize b.prioritize).then (storageCmp plugins storageA storageB)

/-- `_sett_conn_entry_sds_update_cmp`: the highest priority is sorted first. -/
def sdsUpdateCmp (heap : Nat → NMSettingsStorage) (plugins : List NMSettingsPlugin)
    (a b : StorageData) : Ordering :=
  sdsUpdateCmpAscending heap plugins b a

end NetworkManager
