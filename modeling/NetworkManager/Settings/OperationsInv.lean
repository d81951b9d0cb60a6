import NetworkManager.Settings.KeyfilePlaces
import NetworkManager.Settings.TrackingInv

/-!
# The invariant of the operations

Every operation of the settings is a sequence of changes of plugins, each of which is tracked, and
then all entries are processed.  So every operation keeps the invariant.
-/

namespace NetworkManager

open List NMSettingsStorage

namespace NMSKeyfilePlugin

variable {p p' : NMSKeyfilePlugin} {storage : Nat}

theorem Step.withConnection {connection other : NMConnection}
    (step : Step p p' [⟨storage, some connection⟩]) : Step p p' [⟨storage, some other⟩] := by
  refine ⟨step.inv, step.next_le, step.identity, step.origin, ?_, ?_⟩
  · intro dropped linked unlinked
    obtain ⟨event, event_mem, same⟩ := step.reported dropped linked unlinked
    rw [mem_singleton.mp event_mem] at same
    exact ⟨_, mem_singleton_self _, same⟩
  · intro event event_mem
    rw [mem_singleton.mp event_mem]
    obtain ⟨allocated, profile, metaData⟩ := step.event _ (mem_singleton_self _)
    refine ⟨allocated, profile, fun is_meta => ?_⟩
    cases metaData is_meta

theorem eventOk_other {connection : Option NMConnection} (allocated : storage < p.next)
    (other : (p.heap storage).getPlugin ≠ .keyfile) : EventOk p ⟨storage, connection⟩ := by
  refine ⟨allocated, fun is_keyfile => absurd is_keyfile other, fun is_meta => ?_⟩
  dsimp only at is_meta
  cases content : p.heap storage with
  | keyfileMeta => exact absurd (by rw [content]; rfl) other
  | _ => simp [content, isMetaData] at is_meta

variable {content : NMSettingsStorage}

theorem metaIsTombstone_other (other : content.getPlugin ≠ .keyfile) : content.MetaIsTombstone := by
  intro metaData metaData_eq
  cases content with
  | keyfileMeta => exact absurd rfl other
  | _ => cases metaData_eq

theorem step_objectNew (inv : p.Inv) (other : content.getPlugin ≠ .keyfile)
    (connection : Option NMConnection) :
    Step p (p.objectNew content) [⟨p.next, connection⟩] := by
  have heap_new : (p.objectNew content).heap p.next = content := if_pos rfl
  have heap_old : ∀ storage < p.next, (p.objectNew content).heap storage = p.heap storage :=
    fun storage old => if_neg (Nat.ne_of_lt old)
  refine ⟨⟨?_, ?_, ?_⟩, Nat.le_succ _, ?_, fun _ linked => Or.inl linked, ?_, ?_⟩
  · exact inv.index.congr fun storage linked =>
      congrArg NMSettingsStorage.identity (heap_old storage (inv.allocated storage linked))
  · exact fun storage linked => Nat.lt_succ_of_lt (inv.allocated storage linked)
  · intro storage
    by_cases new : storage = p.next
    · rw [new, heap_new]
      exact metaIsTombstone_other other
    · rw [show (p.objectNew content).heap storage = p.heap storage from if_neg new]
      exact inv.tombstone storage
  · exact fun storage old => congrArg NMSettingsStorage.identity (heap_old storage old)
  · exact fun storage linked unlinked => absurd linked unlinked
  · intro event event_mem
    rw [mem_singleton.mp event_mem]
    exact eventOk_other (Nat.lt_succ_self _) (by rw [heap_new]; exact other)

theorem step_write (inv : p.Inv) (allocated : storage < p.next)
    (identity : content.identity = (p.heap storage).identity) (other : content.getPlugin ≠ .keyfile)
    (connection : Option NMConnection) :
    Step p (p.write storage content) [⟨storage, connection⟩] := by
  refine ⟨inv.write identity (metaIsTombstone_other other), le_rfl,
    fun storage _ => identity_write identity storage, fun _ linked => Or.inl linked,
    fun storage linked unlinked => absurd linked unlinked, ?_⟩
  intro event event_mem
  rw [mem_singleton.mp event_mem]
  refine eventOk_other allocated ?_
  rw [heap_write, if_pos rfl]
  exact other

theorem step_drop (inv : p.Inv) (allocated : storage < p.next)
    (other : (p.heap storage).getPlugin ≠ .keyfile) : Step p p [⟨storage, none⟩] := by
  refine ⟨inv, le_rfl, fun _ _ => rfl, fun _ linked => Or.inl linked,
    fun storage linked unlinked => absurd linked unlinked, ?_⟩
  intro event event_mem
  rw [mem_singleton.mp event_mem]
  exact eventOk_other allocated other

theorem step_again (inv : p.Inv) (allocated : storage < p.next)
    (profile : (p.heap storage).isMetaData.isSome = false)
    (tracked : (p.heap storage).getPlugin = .keyfile → storage ∈ p.storages.storageLst)
    (connection : NMConnection) : Step p p [⟨storage, some connection⟩] := by
  refine ⟨inv, le_rfl, fun _ _ => rfl, fun _ linked => Or.inl linked,
    fun storage linked unlinked => absurd linked unlinked, ?_⟩
  intro event event_mem
  rw [mem_singleton.mp event_mem]
  refine ⟨allocated, fun is_keyfile _ => iff_of_true rfl (tracked is_keyfile), fun is_meta => ?_⟩
  dsimp only at is_meta
  rw [profile] at is_meta
  cases is_meta

end NMSKeyfilePlugin

/-- A profile was written to a storage, and the plugins have nothing else to report. -/
structure Written (dirs : KeyfileDirs) (s s' : NMSettings) (uuid : Uuid) (storage : Nat)
    (connection : NMConnection) : Prop where
  step : NMSKeyfilePlugin.Step s.keyfile s'.keyfile [⟨storage, some connection⟩]
  frame : s' = { s with keyfile := s'.keyfile, files := s'.files }
  profile : (s'.keyfile.heap storage).isMetaData.isSome = false
  storage_uuid : (s'.keyfile.heap storage).getUuid = uuid
  connection_uuid : connection.uuid = uuid
  placed : s.keyfile.Placed dirs → s'.keyfile.Placed dirs

theorem TrackInv.written {dirs : KeyfileDirs} {s s' : NMSettings} {uuid : Uuid} {storage : Nat}
    {connection : NMConnection} (inv : TrackInv [] s)
    (written : Written dirs s s' uuid storage connection) (prioritize : Bool) :
    TrackInv [] (s'.track storage (some connection) prioritize) := by
  have pending := inv.step written.step s'.files
  rw [← written.frame] at pending
  refine pending.track (written.step.event _ (mem_singleton_self _)) fun c c_eq => ?_
  rw [← Option.some.inj c_eq, written.connection_uuid, written.storage_uuid]

theorem Written.withConnection {dirs : KeyfileDirs} {s s' : NMSettings} {uuid : Uuid} {storage : Nat}
    {connection other : NMConnection} (written : Written dirs s s' uuid storage connection)
    (same : other.uuid = connection.uuid) : Written dirs s s' uuid storage other :=
  ⟨written.step.withConnection, written.frame, written.profile, written.storage_uuid,
    same.trans written.connection_uuid, written.placed⟩

namespace NMSettings

variable {cfg : SettingsConfig} {s s' : NMSettings} {storage : Nat}
  {connection connection' : NMConnection} {outcome : FileOutcome} {settFlags : IntFlags}
  {shadowedStorage : Option Filename} {shadowedOwned inMemory : Bool}
  {write : NMSKeyfilePlugin.KeyfileWrite}

theorem keyfile_addConnection_uuid {p p' : NMSKeyfilePlugin} {dirs : KeyfileDirs}
    {isNmGenerated isVolatile : Bool}
    (added : p.addConnection dirs connection inMemory isNmGenerated isVolatile shadowedStorage
      shadowedOwned write = .ok (p', storage, connection')) :
    connection'.uuid = connection.uuid := by
  unfold NMSKeyfilePlugin.addConnection at added
  dsimp only at added
  split at added
  · cases added
  · split at added
    · cases added
    · obtain ⟨-, -, rfl⟩ : _ ∧ _ ∧ _ := by simpa using added
      rfl

theorem keyfile_updateConnection_uuid {p p' : NMSKeyfilePlugin} {isNmGenerated isVolatile : Bool}
    (updated : p.updateConnection storage connection isNmGenerated isVolatile shadowedOwned write =
      .ok (p', connection')) : connection'.uuid = connection.uuid := by
  unfold NMSKeyfilePlugin.updateConnection at updated
  split at updated
  · cases updated
  · obtain ⟨-, rfl⟩ : _ ∧ _ := by simpa using updated
    rfl

theorem pluginAddConnection_written (keyfile : s.keyfile.Inv) {plugin : NMSettingsPlugin}
    (added : s.pluginAddConnection cfg plugin connection inMemory settFlags shadowedStorage
      shadowedOwned outcome = .ok (s', storage, connection')) :
    Written cfg.dirs s s' connection.uuid storage connection' ∧ s.keyfile.next ≤ storage := by
  unfold pluginAddConnection at added
  cases plugin with
  | keyfile =>
    dsimp only at added
    split at added
    · cases added
    · rename_i p' new newConnection result
      obtain ⟨rfl, rfl, rfl⟩ : _ ∧ _ ∧ _ := by simpa using added
      obtain ⟨step, fresh, -, profile, uuid_eq, -⟩ :=
        NMSKeyfilePlugin.addConnection_step keyfile result
      refine ⟨⟨step, rfl, ?_, uuid_eq, ?_, fun placed => ?_⟩, fresh⟩
      · show (p'.heap new).isMetaData.isSome = false
        rw [profile]
        rfl
      · exact keyfile_addConnection_uuid result
      · exact NMSKeyfilePlugin.addConnection_placed placed result
  | ifcfgRh =>
    dsimp only at added
    split at added
    · cases added
    · rename_i path settings mtime result
      obtain ⟨rfl, rfl, rfl⟩ : _ ∧ _ ∧ _ := by simpa using added
      have heap_new : (s.keyfile.objectNew (.ifcfgRh connection.uuid path mtime)).heap
          s.keyfile.next = .ifcfgRh connection.uuid path mtime := if_pos rfl
      have other : (NMSettingsStorage.ifcfgRh connection.uuid path mtime).getPlugin ≠
          .keyfile := fun impossible => by cases impossible
      refine ⟨⟨NMSKeyfilePlugin.step_objectNew keyfile other _, rfl, ?_, ?_, rfl, fun placed =>
        placed.objectNew (NMSettingsStorage.Placed.other other)⟩, le_rfl⟩
      · show (isMetaData _).isSome = false
        rw [heap_new]
        rfl
      · show getUuid _ = _
        rw [heap_new]
        rfl
  | ifupdown => cases added

theorem addToPlugins_written (keyfile : s.keyfile.Inv) {settConnEntry : Option SettConnEntry}
    {plugins : List NMSettingsPlugin} {firstError : Option String}
    (added : addToPlugins cfg s settConnEntry connection inMemory settFlags shadowedStorage
      shadowedOwned outcome plugins firstError = .ok (s', storage, connection')) :
    Written cfg.dirs s s' connection.uuid storage connection' ∧ s.keyfile.next ≤ storage := by
  induction plugins generalizing firstError with
  | nil => cases added
  | cons plugin plugins ih =>
    rw [addToPlugins] at added
    split at added
    · cases added
    · split at added
      · exact ih added
      · split at added
        · exact ih added
        · rename_i new newStorage newConnection result
          obtain ⟨rfl, rfl, rfl⟩ : _ ∧ _ ∧ _ := by simpa using added
          obtain ⟨written, fresh⟩ := pluginAddConnection_written keyfile result
          exact ⟨written.withConnection (cfg.normalizeConnection_uuid _ _), fresh⟩

theorem updateConnectionToPlugin_written {dirs : KeyfileDirs} (keyfile : s.keyfile.Inv)
    (allocated : storage < s.keyfile.next)
    (profile : (s.keyfile.heap storage).isMetaData.isSome = false)
    (tracked : (s.keyfile.heap storage).getPlugin = .keyfile →
      storage ∈ s.keyfile.storages.storageLst)
    (same_uuid : (s.keyfile.heap storage).getUuid = connection.uuid)
    (updated : s.updateConnectionToPlugin storage connection settFlags shadowedStorage shadowedOwned
      outcome = .ok (s', connection')) : Written dirs s s' connection.uuid storage connection' := by
  unfold updateConnectionToPlugin at updated
  split at updated
  · rename_i uuid path mtime content_eq
    split at updated
    · cases updated
    · rename_i settings newMtime result
      obtain ⟨rfl, rfl⟩ : _ ∧ _ := by simpa using updated
      rw [content_eq] at same_uuid
      have heap_new : (s.keyfile.write storage (.ifcfgRh uuid path newMtime)).heap storage =
          .ifcfgRh uuid path newMtime := if_pos rfl
      have other : (NMSettingsStorage.ifcfgRh uuid path newMtime).getPlugin ≠ .keyfile :=
        fun impossible => by cases impossible
      refine ⟨NMSKeyfilePlugin.step_write keyfile allocated (by rw [content_eq]; rfl) other _, rfl,
        ?_, ?_, rfl, fun placed => placed.write (NMSettingsStorage.Placed.other other)⟩
      · show (isMetaData _).isSome = false
        rw [heap_new]
        rfl
      · show getUuid _ = _
        rw [heap_new]
        exact same_uuid
  · cases updated
  · rename_i not_ifcfg not_ifupdown
    have is_keyfile : (s.keyfile.heap storage).getPlugin = .keyfile := by
      cases content_eq : s.keyfile.heap storage with
      | keyfileConn => rfl
      | keyfileMeta => rfl
      | ifcfgRh uuid path mtime => exact absurd content_eq (not_ifcfg uuid path mtime)
      | ifupdown uuid => exact absurd content_eq (not_ifupdown uuid)
    split at updated
    · cases updated
    · rename_i p' newConnection result
      obtain ⟨rfl, rfl⟩ : _ ∧ _ := by simpa using updated
      have no_meta : (s.keyfile.heap storage).isMetaData = none := by
        simpa using profile
      obtain ⟨step, -, -⟩ :=
        NMSKeyfilePlugin.updateConnection_step keyfile (tracked is_keyfile) no_meta result
      have identity := step.identity storage allocated
      refine ⟨step, rfl, ?_, ?_, keyfile_updateConnection_uuid result, fun placed =>
        NMSKeyfilePlugin.updateConnection_placed placed result⟩
      · show (p'.heap storage).isMetaData.isSome = false
        rw [isMetaData_eq_of_identity identity]
        exact profile
      · show (p'.heap storage).getUuid = connection.uuid
        rw [getUuid_eq_of_identity identity]
        exact same_uuid

end NMSettings

end NetworkManager
