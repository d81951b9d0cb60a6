import NetworkManager.Settings.Retraction

/-!
# Writing profiles and removing what hides them

The operations write a profile to a storage of its UUID, which may be new, and then drop the storage
that it replaces, or the tombstones that would hide it.
-/

namespace NetworkManager

open List NMSettingsStorage Option

/-- A storage that the operations may write to or delete. -/
structure HoldsProfile (s : NMSettings) (uuid : Uuid) (storage : Nat) : Prop where
  allocated : storage < s.keyfile.next
  profile : (s.keyfile.heap storage).isMetaData.isSome = false
  uuid_eq : (s.keyfile.heap storage).getUuid = uuid
  tracked : (s.keyfile.heap storage).getPlugin = .keyfile → storage ∈ s.keyfile.storages.storageLst

section Profiles

variable {s : NMSettings} {uuid : Uuid} {entry : SettConnEntry} {sd : StorageData}

theorem SdOk.profile {keyfile : NMSKeyfilePlugin} (ok : SdOk keyfile uuid sd)
    (connected : sd.connection.isSome = true) :
    (keyfile.heap sd.storage).isMetaData.isSome = false := by
  by_contra is_meta
  rw [Bool.not_eq_false] at is_meta
  rw [ok.metaData is_meta] at connected
  cases connected

theorem Settled.synced (settled : Settled s) (entry_eq : s.sceIdx uuid = some entry)
    (mem : sd ∈ entry.sdLst) : Synced s.keyfile sd := by
  refine (settled.entry uuid entry entry_eq).synced sd ?_ not_mem_nil
  rw [settled.dirtySdLst entry_eq, sdsMerge_nil]
  exact mem

theorem Settled.holdsProfile (settled : Settled s) (entry_eq : s.sceIdx uuid = some entry)
    (mem : sd ∈ entry.sdLst) (connected : sd.connection.isSome = true) :
    HoldsProfile s uuid sd.storage := by
  have ok := (settled.entry uuid entry entry_eq).sd_ok sd mem
  have profile := ok.profile connected
  exact ⟨ok.allocated, profile, ok.uuid_eq, fun is_keyfile =>
    settled.synced entry_eq mem is_keyfile profile connected⟩

theorem findShadowedStorage_eq_some {heap : Nat → NMSettingsStorage} {filename : Option Filename}
    {blacklisted : Option Nat} {storage : Nat}
    (found : entry.findShadowedStorage heap filename blacklisted = some storage) :
    ∃ sd ∈ entry.sdLst, sd.storage = storage ∧ sd.connection.isSome = true ∧
      blacklisted ≠ some storage ∧ (heap storage).getFilenameForShadowedStorage = filename := by
  unfold SettConnEntry.findShadowedStorage at found
  split at found
  · cases found
  · obtain ⟨sd, sd_found, rfl⟩ := map_eq_some_iff.mp found
    have conditions := find?_some sd_found
    simp only [Bool.and_eq_true, decide_eq_true_eq] at conditions
    exact ⟨sd, List.mem_of_find?_eq_some sd_found, rfl, conditions.1.1, conditions.1.2,
      conditions.2⟩

theorem Settled.exposed (settled : Settled s) {settConn : Nat}
    (exposed : s.getConnectionByUuid uuid = some settConn) :
    ∃ entry, s.sceIdx uuid = some entry ∧ entry.settConn = some settConn ∧
      Exposes s entry settConn ∧ HoldsProfile s uuid (s.connections settConn).storage ∧
      (s.connections settConn).connection.uuid = uuid := by
  unfold NMSettings.getConnectionByUuid at exposed
  obtain ⟨entry, entry_eq, settConn_eq⟩ := bind_eq_some_iff.mp exposed
  have inv := settled.entry uuid entry entry_eq
  have exposes := inv.exposes settConn settConn_eq
  obtain ⟨sd, mem, storage_eq, connection_eq⟩ := exposes.listed
  have holds := settled.holdsProfile entry_eq mem (by rw [connection_eq]; rfl)
  rw [storage_eq] at holds
  exact ⟨entry, entry_eq, settConn_eq, exposes, holds,
    (inv.sd_ok sd mem).connection _ connection_eq⟩

end Profiles

namespace NMSettings

variable {cfg : SettingsConfig} {s s' : NMSettings} {uuid : Uuid} {storage : Nat}
  {connection connection' : NMConnection} {settFlags : IntFlags} {outcome : FileOutcome}

theorem updateConnectionToPlugin_holds {shadowedStorage : Option Filename} {shadowedOwned : Bool}
    (keyfile : s.keyfile.Inv) (holds : HoldsProfile s connection.uuid storage)
    (updated : s.updateConnectionToPlugin storage connection settFlags shadowedStorage shadowedOwned
      outcome = .ok (s', connection')) : Written cfg.dirs s s' connection.uuid storage connection' :=
  updateConnectionToPlugin_written keyfile holds.allocated holds.profile holds.tracked holds.uuid_eq
    updated

variable {entry : SettConnEntry}

theorem shadowedByTombstone_holds (settled : Settled s) (entry_eq : s.sceIdx uuid = some entry)
    (found : shadowedByTombstone s.keyfile.heap entry = some storage) :
    HoldsProfile s uuid storage := by
  unfold shadowedByTombstone at found
  obtain ⟨meta_sd, -, shadowed⟩ := List.exists_of_findSome?_eq_some found
  split at shadowed
  · obtain ⟨sd, mem, rfl, connected, -⟩ := findShadowedStorage_eq_some shadowed
    exact settled.holdsProfile entry_eq mem connected
  · cases shadowed

variable {newInMemory : Bool} {curStorage : Nat} {persistMode : PersistMode}

/-- `nm_settings_add_connection` writes the profile to a storage of its UUID. -/
theorem addWrite_written (settled : Settled s)
    (written : s.addWrite cfg connection newInMemory settFlags outcome =
      .ok (s', storage, connection')) :
    Written cfg.dirs s s' connection.uuid storage connection' := by
  have added : ∀ {filename}, (s.addConnectionToFirstPlugin cfg (s.sceIdx connection.uuid) connection
      newInMemory settFlags filename false outcome).mapError SettingsError.failureAdding =
        .ok (s', storage, connection') → Written cfg.dirs s s' connection.uuid storage connection' := by
    intro filename added
    cases result : s.addConnectionToFirstPlugin cfg (s.sceIdx connection.uuid) connection
      newInMemory settFlags filename false outcome with
    | error message =>
      rw [result] at added
      cases added
    | ok new =>
      rw [result] at added
      obtain rfl := Except.ok.inj added
      exact (addToPlugins_written settled.keyfile result).1
  unfold addWrite at written
  dsimp only at written
  split at written
  · exact added written
  · rename_i shadowed shadowed_eq
    obtain ⟨found, -⟩ := filter_eq_some_iff.mp shadowed_eq
    obtain ⟨entry, entry_eq, by_tombstone⟩ := bind_eq_some_iff.mp found
    have holds := shadowedByTombstone_holds settled entry_eq by_tombstone
    split at written
    · rename_i result
      obtain ⟨rfl, rfl, rfl⟩ : _ ∧ _ ∧ _ := by simpa using written
      exact updateConnectionToPlugin_holds settled.keyfile holds result
    · split at written
      · exact added written
      · cases written

theorem written_again (keyfile : s.keyfile.Inv) (holds : HoldsProfile s uuid storage)
    (same_uuid : connection.uuid = uuid) : Written cfg.dirs s s uuid storage connection :=
  ⟨NMSKeyfilePlugin.step_again keyfile holds.allocated holds.profile holds.tracked connection, rfl,
    holds.profile, holds.uuid_eq, same_uuid, id⟩

theorem updatePlan_storages {heap : Nat → NMSettingsStorage}
    (planned : (updatePlan heap entry curStorage persistMode newInMemory).updateStorage =
        some storage ∨
      (updatePlan heap entry curStorage persistMode newInMemory).dropStorage = some storage) :
    storage = curStorage ∨ entry.findShadowedStorage heap
      (heap curStorage).getShadowedStorage.1 (some curStorage) = some storage := by
  unfold updatePlan at planned
  dsimp only at planned
  repeat' split at planned
  all_goals
    rcases planned with update | drop
    · first
        | exact Or.inl (Option.some.inj update).symm
        | exact Or.inr update
        | cases update
    · first
        | exact Or.inl (Option.some.inj drop).symm
        | exact Or.inr drop
        | cases drop

theorem updatePlan_holds (settled : Settled s) (entry_eq : s.sceIdx uuid = some entry)
    (cur : HoldsProfile s uuid curStorage)
    (planned : (updatePlan s.keyfile.heap entry curStorage persistMode newInMemory).updateStorage =
        some storage ∨
      (updatePlan s.keyfile.heap entry curStorage persistMode newInMemory).dropStorage =
        some storage) : HoldsProfile s uuid storage := by
  rcases updatePlan_storages planned with rfl | shadowed
  · exact cur
  · obtain ⟨sd, mem, rfl, connected, -⟩ := findShadowedStorage_eq_some shadowed
    exact settled.holdsProfile entry_eq mem connected

/-- `nm_settings_update_connection` writes the profile to a storage of its UUID, or leaves it where
it is. -/
theorem persist_written {newInMemory ignoreFailure : Bool} {persisted : Persisted}
    (settled : Settled s) (entry_eq : s.sceIdx uuid = some entry)
    (cur : HoldsProfile s uuid curStorage) (same_uuid : connection.uuid = uuid)
    (done : s.persist cfg entry curStorage connection persistMode newInMemory settFlags
      ignoreFailure outcome = .ok persisted) :
    Written cfg.dirs s persisted.settings uuid persisted.newStorage persisted.newConnection ∧
      persisted.dropStorage =
        (updatePlan s.keyfile.heap entry curStorage persistMode newInMemory).dropStorage := by
  have again := @written_again cfg s uuid curStorage connection settled.keyfile cur same_uuid
  unfold persist at done
  dsimp only at done
  split at done
  · split at done
    · rename_i result
      obtain rfl := Except.ok.inj done
      have written := (addToPlugins_written settled.keyfile result).1
      rw [same_uuid] at written
      exact ⟨written.withConnection (cfg.normalizeConnection_uuid _ _), rfl⟩
    · split at done
      · obtain rfl := Except.ok.inj done
        exact ⟨again, rfl⟩
      · cases done
  · rename_i planned
    have holds := updatePlan_holds settled entry_eq cur (Or.inl planned)
    rw [← same_uuid] at holds
    split at done
    · rename_i result
      obtain rfl := Except.ok.inj done
      have written : Written cfg.dirs s _ connection.uuid _ _ :=
        updateConnectionToPlugin_holds settled.keyfile holds result
      rw [same_uuid] at written
      exact ⟨written.withConnection (cfg.normalizeConnection_uuid _ _), rfl⟩
    · split at done
      · obtain rfl := Except.ok.inj done
        exact ⟨again, rfl⟩
      · cases done

theorem holdsProfile_written {other : Nat} (holds : HoldsProfile s uuid other)
    (written : Written cfg.dirs s s' connection.uuid storage connection') (different : other ≠ storage)
    (prioritize : Bool) :
    HoldsProfile (s'.track storage (some connection') prioritize) uuid other := by
  have identity := written.step.identity other holds.allocated
  refine ⟨Nat.lt_of_lt_of_le holds.allocated written.step.next_le, ?_, ?_, fun is_keyfile => ?_⟩
  · exact (isMetaData_eq_of_identity identity).trans holds.profile
  · exact (getUuid_eq_of_identity identity).trans holds.uuid_eq
  · have was_keyfile : (s.keyfile.heap other).getPlugin = .keyfile :=
      (getPlugin_eq_of_identity identity).symm.trans is_keyfile
    show other ∈ s'.keyfile.storages.storageLst
    by_contra dropped
    obtain ⟨event, event_mem, same⟩ := written.step.reported other (holds.tracked was_keyfile) dropped
    rw [mem_singleton.mp event_mem] at same
    exact different same.symm

def deletable (heap : Nat → NMSettingsStorage) (outcome : FileOutcome) (storage : Nat) : Bool :=
  match (heap storage).getPlugin with
  | .keyfile => !(heap storage).isKeyfileLib &&
      match outcome.unlink storage with
      | .failed _ => false
      | _ => true
  | .ifcfgRh => true
  | .ifupdown => false

theorem pluginDeleteConnection_isOk (s : NMSettings) (storage : Nat) (outcome : FileOutcome) :
    (∃ s', s.pluginDeleteConnection storage outcome = .ok s') ↔
      deletable s.keyfile.heap outcome storage = true := by
  unfold pluginDeleteConnection deletable
  cases (s.keyfile.heap storage).getPlugin with
  | keyfile =>
    unfold NMSKeyfilePlugin.deleteConnection
    cases (s.keyfile.heap storage).isKeyfileLib with
    | true => simp [Except.map]
    | false => cases outcome.unlink storage <;> simp [Except.map]
  | ifcfgRh => simp
  | ifupdown => simp

theorem deletable_eq_of_identity {heap heap' : Nat → NMSettingsStorage}
    (same : (heap' storage).identity = (heap storage).identity) (outcome : FileOutcome) :
    deletable heap' outcome storage = deletable heap outcome storage := by
  unfold deletable
  rw [getPlugin_eq_of_identity same, isKeyfileLib_eq_of_identity same]

/-- The end of `nm_settings_update_connection` up to the processing of the changes: a storage is
dropped, or hidden by tombstones if that fails. -/
def dropReplaced (cfg : SettingsConfig) (self : NMSettings) (dropStorage : Option Nat) (uuid : Uuid)
    (curStorage : Nat) (outcome : FileOutcome) : NMSettings :=
  let (self, tombstoneOnDisk, tombstoneInMemory) :=
    match dropStorage with
    | none => (self, false, false)
    | some dropStorage =>
      match self.pluginDeleteConnection dropStorage outcome with
      | .error _ =>
        let curInMemory := (self.keyfile.heap curStorage).isKeyfileRun
        (self, !curInMemory, curInMemory)
      | .ok self => (self.track dropStorage none false, false, false)
  self.setNmmetaTombstone cfg uuid tombstoneOnDisk tombstoneInMemory none outcome

theorem finishUpdate_eq (persisted : Persisted) (curStorage : Nat) (settMask : IntFlags) :
    finishUpdate cfg persisted uuid curStorage settFlags settMask outcome =
      (dropReplaced cfg
        (persisted.settings.track persisted.newStorage (some persisted.newConnection) true)
        (persisted.dropStorage.filter fun storage => decide (storage ≠ persisted.newStorage)) uuid
        curStorage outcome).processAllDirty cfg.plugins settFlags settMask false := rfl

/-- A tombstone of an update: some storage could not be dropped, and the tombstone is in `/run` if
the profile was there, or if there is none on disk. -/
def UpdateTombstone (cfg : SettingsConfig) (s : NMSettings) (dropStorage : Option Nat)
    (curStorage : Nat) (outcome : FileOutcome) (inMemory : Bool) : Prop :=
  (∃ storage, dropStorage = some storage ∧ deletable s.keyfile.heap outcome storage = false) ∧
    if inMemory then
      (s.keyfile.heap curStorage).isKeyfileRun = true ∨ writableOnDisk cfg outcome = false
    else (s.keyfile.heap curStorage).isKeyfileRun = false

theorem dropReplaced_retracts (inv : TrackInv [] s) {dropStorage : Option Nat} (curStorage : Nat)
    (drop_holds : ∀ storage, dropStorage = some storage → HoldsProfile s uuid storage) :
    ∃ storages, Retracts cfg.dirs s storages (dropReplaced cfg s dropStorage uuid curStorage outcome) ∧
      ∀ storage ∈ storages, dropStorage = some storage ∨
        ∃ inMemory, ((dropReplaced cfg s dropStorage uuid curStorage outcome).keyfile.heap
            storage).getFilename =
          some (.nmmeta (NMSKeyfilePlugin.tombstoneType inMemory) uuid) ∧
          UpdateTombstone cfg s dropStorage curStorage outcome inMemory := by
  unfold dropReplaced
  cases dropStorage with
  | none => exact ⟨[], Retracts.refl, forall_mem_nil _⟩
  | some drop =>
    dsimp only
    cases result : s.pluginDeleteConnection drop outcome with
    | ok s' =>
      have holds := drop_holds drop rfl
      refine ⟨[drop], retracts_delete inv.keyfile holds.allocated holds.tracked result, ?_⟩
      intro storage reported
      exact Or.inl (congrArg some (mem_singleton.mp reported).symm)
    | error message =>
      dsimp only
      obtain ⟨tombstones, set⟩ := @setNmmetaTombstone_set cfg s uuid inv.keyfile
        (!(s.keyfile.heap curStorage).isKeyfileRun) (s.keyfile.heap curStorage).isKeyfileRun none
        outcome
      have undeletable : deletable s.keyfile.heap outcome drop = false := by
        by_contra can
        rw [Bool.not_eq_false] at can
        obtain ⟨s', ok⟩ := (pluginDeleteConnection_isOk s drop outcome).mpr can
        rw [result] at ok
        cases ok
      refine ⟨tombstones, set.retracts, fun storage reported => ?_⟩
      obtain ⟨inMemory, is_set, named⟩ := set.named storage reported
      refine Or.inr ⟨inMemory, named, ⟨drop, rfl, undeletable⟩, ?_⟩
      cases inMemory with
      | true =>
        have either : (s.keyfile.heap curStorage).isKeyfileRun = true ∨
            (s.keyfile.heap curStorage).isKeyfileRun = false ∧
              writableOnDisk cfg outcome = false := by simpa using is_set
        exact either.imp id And.right
      | false =>
        simp only [Bool.false_eq_true, if_false, Bool.and_eq_true, Bool.not_eq_true'] at is_set ⊢
        exact is_set.1.1

theorem tombstone_of_filename {content : NMSettingsStorage} {inMemory : Bool}
    (named : content.getFilename = some (.nmmeta (NMSKeyfilePlugin.tombstoneType inMemory) uuid)) :
    content.getUuid = uuid ∧ content.isMetaData.isSome = true ∧ content.isKeyfileRun = inMemory := by
  cases content with
  | keyfileMeta other type metaData =>
    simp only [getFilename, Option.some.injEq, Filename.nmmeta.injEq] at named
    obtain ⟨rfl, rfl⟩ := named
    refine ⟨rfl, rfl, ?_⟩
    cases inMemory with
    | true => rfl
    | false => rfl
  | _ => simp [getFilename] at named

theorem tombstone_filename {content : NMSettingsStorage} (placed : content.Placed cfg.dirs)
    (is_meta : content.isMetaData.isSome = true) (own : content.getUuid = uuid) :
    content.getFilename =
        some (.nmmeta (NMSKeyfilePlugin.tombstoneType content.isKeyfileRun) uuid) ∧
      NMSKeyfilePlugin.HasDirectory cfg.dirs content.isKeyfileRun := by
  have in_etc := placed.etc is_meta
  cases content with
  | keyfileMeta other type metaData =>
    obtain rfl : other = uuid := own
    cases run : (NMSettingsStorage.keyfileMeta other type metaData).isKeyfileRun with
    | true =>
      have type_eq : some type = some NMSKeyfileStorageType.run := of_decide_eq_true run
      rw [Option.some.inj type_eq]
      exact ⟨rfl, Or.inl rfl⟩
    | false =>
      obtain ⟨type_eq, has_etc⟩ := in_etc run
      rw [Option.some.inj type_eq]
      exact ⟨rfl, Or.inr has_etc⟩
  | _ => simp [isMetaData] at is_meta

/-- What is reported when tombstones are removed, and that those in the way of a new profile are no
longer tracked. -/
structure TombstonesDropped (dirs : KeyfileDirs) (s : NMSettings) (newInRun : Bool) (sds : List StorageData)
    (storages : List Nat) (s' : NMSettings) : Prop where
  retracts : Retracts dirs s storages s'
  metaData : ∀ storage ∈ storages, (s'.keyfile.heap storage).isMetaData.isSome = true
  listed : ∀ storage ∈ storages, ∃ sd ∈ sds, sd.storage = storage
  dropped : ∀ sd ∈ sds, (s.keyfile.heap sd.storage).isMetaData.isSome = true →
    (s.keyfile.heap sd.storage).isKeyfileRun = true ∨ newInRun = false →
    sd.storage ∉ s'.keyfile.storages.storageLst

theorem tombstonesDropped_none {newInRun : Bool} {sd : StorageData}
    (dropped : (s.keyfile.heap sd.storage).isMetaData.isSome = true →
      (s.keyfile.heap sd.storage).isKeyfileRun = true ∨ newInRun = false →
      sd.storage ∉ s.keyfile.storages.storageLst) :
    TombstonesDropped cfg.dirs s newInRun [sd] [] s := by
  refine ⟨Retracts.refl, forall_mem_nil _, forall_mem_nil _, fun other mem => ?_⟩
  rw [mem_singleton.mp mem]
  exact dropped

theorem dropTombstone_dropped (keyfile : s.keyfile.Inv) (placed : s.keyfile.Placed cfg.dirs)
    (newInRun : Bool) {sd : StorageData} (own : (s.keyfile.heap sd.storage).getUuid = uuid) :
    ∃ storages, TombstonesDropped cfg.dirs s newInRun [sd] storages
      (dropTombstone cfg uuid newInRun outcome s sd) := by
  unfold dropTombstone
  cases alive : s.keyfile.isMetaDataAlive sd.storage with
  | none =>
    refine ⟨[], tombstonesDropped_none fun is_meta _ tracked => ?_⟩
    have some_alive := isMetaDataAlive_isSome.mpr ⟨tracked, is_meta⟩
    rw [alive] at some_alive
    cases some_alive
  | some metaData =>
    obtain ⟨tracked, is_meta⟩ := isMetaDataAlive_isSome.mp (isSome_of_eq_some alive)
    have tombstone : metaData.isTombstone = true := by
      unfold NMSKeyfilePlugin.isMetaDataAlive at alive
      rw [if_pos tracked] at alive
      exact keyfile.tombstone sd.storage metaData alive
    dsimp only
    rw [tombstone, Bool.not_true, if_neg Bool.false_ne_true]
    split
    · rename_i stays
      refine ⟨[], tombstonesDropped_none fun _ either => ?_⟩
      rw [Bool.and_eq_true, Bool.not_eq_true'] at stays
      rw [stays.1, stays.2] at either
      simp at either
    · obtain ⟨named, has_directory⟩ := tombstone_filename (placed sd.storage) is_meta own
      obtain ⟨result, forced, eq⟩ := @forceTombstone_forced cfg s uuid keyfile
        (s.keyfile.heap sd.storage).isKeyfileRun false none
        (outcome.nmmeta (if (s.keyfile.heap sd.storage).isKeyfileRun then .run else .etc))
      have reported : result.storage = some sd.storage := by
        rw [forced.dropped has_directory rfl]
        exact (keyfile.index.byFilename _ _).mpr ⟨tracked, named⟩
      rw [eq]
      refine ⟨_, forced.retracts, fun storage mem => ?_, fun storage mem => ?_,
        fun other mem _ _ linked => ?_⟩
      · rw [reported, mem_toList, Option.some.injEq] at mem
        rw [← mem]
        have allocated := keyfile.allocated sd.storage tracked
        rw [isMetaData_eq_of_identity (forced.retracts.identity allocated)]
        exact is_meta
      · rw [reported, mem_toList, Option.some.injEq] at mem
        exact ⟨sd, mem_singleton_self _, mem⟩
      · rw [mem_singleton.mp mem, trackTombstone_keyfile] at linked
        cases (forced.done.tracked_iff sd.storage reported).mp linked

/-- The loop of `nm_settings_add_connection` that removes tombstones. -/
theorem foldl_dropTombstone_dropped {newInRun : Bool} {sds : List StorageData}
    (keyfile : s.keyfile.Inv) (placed : s.keyfile.Placed cfg.dirs)
    (ok : ∀ sd ∈ sds, (s.keyfile.heap sd.storage).getUuid = uuid ∧ sd.storage < s.keyfile.next) :
    ∃ storages, TombstonesDropped cfg.dirs s newInRun sds storages
      (sds.foldl (dropTombstone cfg uuid newInRun outcome) s) := by
  induction sds generalizing s with
  | nil =>
    exact ⟨[], Retracts.refl, forall_mem_nil _, forall_mem_nil _, forall_mem_nil _⟩
  | cons sd sds ih =>
    obtain ⟨first_storages, first⟩ := @dropTombstone_dropped cfg s uuid outcome keyfile placed
      newInRun sd (ok sd mem_cons_self).1
    have kept : ∀ other < s.keyfile.next,
        ((dropTombstone cfg uuid newInRun outcome s sd).keyfile.heap other).identity =
          (s.keyfile.heap other).identity := fun other old => first.retracts.identity old
    obtain ⟨later_storages, later⟩ := ih (first.retracts.keyfile_inv keyfile)
      (first.retracts.placed placed) fun other mem => by
        obtain ⟨own, allocated⟩ := ok other (mem_cons_of_mem sd mem)
        rw [getUuid_eq_of_identity (kept _ allocated)]
        exact ⟨own, Nat.lt_of_lt_of_le allocated first.retracts.next_le⟩
    refine ⟨later_storages ++ first_storages, first.retracts.trans later.retracts, ?_, ?_, ?_⟩
    · intro storage mem
      rcases mem_append.mp mem with new | old
      · exact later.metaData storage new
      · exact (isMetaData_eq_of_identity
          (later.retracts.identity (first.retracts.allocated old))).trans
            (first.metaData storage old)
    · intro storage mem
      rcases mem_append.mp mem with new | old
      · obtain ⟨other, other_mem, same⟩ := later.listed storage new
        exact ⟨other, mem_cons_of_mem sd other_mem, same⟩
      · obtain ⟨other, other_mem, same⟩ := first.listed storage old
        exact ⟨other, mem_cons.mpr (Or.inl (mem_singleton.mp other_mem)), same⟩
    · intro other mem is_meta either linked
      have allocated := (ok other mem).2
      rcases mem_cons.mp mem with rfl | rest
      · have still := later.retracts.origin
          (Nat.lt_of_lt_of_le allocated first.retracts.next_le) linked
        exact first.dropped other (mem_singleton_self _) is_meta either still
      · refine later.dropped other rest ?_ ?_ linked
        · rw [isMetaData_eq_of_identity (kept _ allocated)]
          exact is_meta
        · rw [isKeyfileRun_eq_of_identity (kept _ allocated)]
          exact either

end NMSettings

end NetworkManager
