import NetworkManager.Settings.Exposure

/-!
# Profiles that were deleted

After a profile was deleted, all storages of the UUID that are left have to be hidden.  For a
profile in a read-only directory the loop that looks for other storages does not run, and a profile
in `/run` comes back.
-/

namespace NetworkManager

namespace NMSettings

open List NMSettingsStorage

variable {cfg : SettingsConfig} {s after : NMSettings} {uuid : Uuid} {curStorage settConn : Nat}
  {entry : SettConnEntry} {st : Deleting} {tombstones : List Nat} {outcome : FileOutcome}

structure DeletedEntry (s : NMSettings) (uuid : Uuid) (entry : SettConnEntry)
    (storages : List Nat) (after : NMSettings) (entry' : SettConnEntry) : Prop where
  entry_eq : after.sceIdx uuid = some entry'
  /-- What has a connection was there before, and was not reported. -/
  connected : ∀ sd ∈ sdsMerge entry'.sdLst entry'.dirtySdLst, sd.connection.isSome = true →
    sd.storage ∉ storages ∧ ∃ old ∈ entry.sdLst, old.storage = sd.storage ∧
      old.connection = sd.connection
  origin : ∀ sd ∈ sdsMerge entry'.sdLst entry'.dirtySdLst, sd.storage ∈ storages ∨
    ∃ old ∈ entry.sdLst, old.storage = sd.storage
  reported : ∀ storage ∈ storages, (after.keyfile.heap storage).getUuid = uuid →
    ∃ sd ∈ sdsMerge entry'.sdLst entry'.dirtySdLst, sd.storage = storage

theorem retracts_deletedEntry {storages : List Nat} (settled : Settled s)
    (entry_eq : s.sceIdx uuid = some entry) (run : Retracts cfg.dirs s storages after) :
    ∃ entry', DeletedEntry s uuid entry storages after entry' := by
  obtain ⟨dirty, dirty_eq, changes⟩ := run.changes settled.toTrackInv entry_eq
  have unique := ((run.trackInv settled.toTrackInv).entry uuid _ dirty_eq).dirty_unique
  have origin : ∀ sd ∈ dirty, sd.storage ∈ storages ∧ sd.connection = none := by
    intro sd mem
    rcases changes.origin sd mem with ⟨old, -⟩ | ⟨reported, no_connection, -⟩
    · rw [settled.dirtySdLst entry_eq] at old
      exact absurd old not_mem_nil
    · exact ⟨reported, no_connection⟩
  refine ⟨_, dirty_eq, fun sd mem connected => ?_, fun sd mem => ?_, fun storage mem own => ?_⟩
  · rcases (mem_sdsMerge unique).mp mem with change | ⟨unchanged, old, old_mem, rfl⟩
    · rw [(origin sd change).2] at connected
      cases connected
    · refine ⟨fun reported => ?_, old, old_mem, rfl, rfl⟩
      have own := ((settled.entry uuid entry entry_eq).sd_ok old old_mem)
      have own' : (after.keyfile.heap old.storage).getUuid = uuid := by
        rw [getUuid_eq_of_identity (run.identity own.allocated), own.uuid_eq]
      obtain ⟨change, change_mem, same⟩ := changes.reported old.storage reported own'
      exact unchanged change change_mem same
  · rcases (mem_sdsMerge unique).mp mem with change | ⟨-, old, old_mem, rfl⟩
    · exact Or.inl (origin sd change).1
    · exact Or.inr ⟨old, old_mem, rfl⟩
  · obtain ⟨sd, sd_mem, same⟩ := changes.reported storage mem own
    exact ⟨sd, (mem_sdsMerge unique).mpr (Or.inl sd_mem), same⟩

variable {entry' : SettConnEntry}

theorem hidden_of_head (inv : TrackInv [] after) (queued : uuid ∈ after.sceDirtyLst)
    (entry_eq : after.sceIdx uuid = some entry')
    (hidden : ∀ best, (sdsUpdate cfg.plugins after.keyfile entry').head? = some best →
      best.connection = none) (settFlags settMask : IntFlags) (override : Bool) :
    (after.processAllDirty cfg.plugins settFlags settMask override).getConnectionByUuid uuid =
      none := by
  have processed := inv.entryProcessed cfg.plugins settFlags settMask override queued entry_eq
  unfold getConnectionByUuid
  cases list_eq : sdsUpdate cfg.plugins after.keyfile entry' with
  | nil =>
    rw [processed.empty list_eq]
    rfl
  | cons best rest =>
    have head : (sdsUpdate cfg.plugins after.keyfile entry').head? = some best := by
      rw [list_eq]
      rfl
    rw [processed.hidden best head (hidden best head)]
    rfl

theorem tombstone_listed {storages : List Nat}
    (deleted : DeletedEntry s uuid entry storages after entry') {storage : Nat} {inMemory : Bool}
    (reported : storage ∈ storages)
    (named : (after.keyfile.heap storage).getFilename =
      some (.nmmeta (NMSKeyfilePlugin.tombstoneType inMemory) uuid))
    (tracked : storage ∈ after.keyfile.storages.storageLst) :
    ∃ sd ∈ sdsUpdate cfg.plugins after.keyfile entry', sd.storage = storage ∧
      (after.keyfile.heap storage).isMetaData.isSome = true ∧
      (after.keyfile.heap storage).isKeyfileRun = inMemory := by
  have content := tombstone_of_filename named
  obtain ⟨sd, mem, same⟩ := deleted.reported storage reported content.1
  refine ⟨sd, mem_sdsUpdate.mpr ⟨mem, ?_⟩, same, content.2⟩
  unfold isAlive
  rw [same, isMetaDataAlive_isSome.mpr ⟨tracked, content.2.1⟩, Bool.or_true]

/-- Only for a profile in `/run` a second storage is dropped. -/
theorem dropStorages_eq_current (not_run : (s.keyfile.heap curStorage).isKeyfileRun = false)
    {storage : Nat} (mem : storage ∈ dropStorages s entry curStorage) : storage = curStorage := by
  have unshadowed : (s.keyfile.heap curStorage).getShadowedStorage.2 = false := by
    cases content : s.keyfile.heap curStorage with
    | keyfileConn other type name data =>
      rw [content] at not_run
      cases type with
      | run => cases not_run
      | etc => rfl
      | lib idx => rfl
    | keyfileMeta other type metaData =>
      cases type with
      | run => rfl
      | etc => rfl
      | lib idx => rfl
    | ifcfgRh => rfl
    | ifupdown => rfl
  unfold dropStorages at mem
  rw [unshadowed, if_neg Bool.false_ne_true] at mem
  rcases mem_append.mp mem with is_cur | impossible
  · split at is_cur
    · exact absurd is_cur not_mem_nil
    · exact mem_singleton.mp is_cur
  · exact absurd impossible not_mem_nil

/-- What is left with a profile will be hidden, unless the loop that looks for it does not run. -/
theorem Deletes.hides (settled : Settled s) (entry_eq : s.sceIdx uuid = some entry)
    (deletes : Deletes cfg s uuid entry curStorage outcome st tombstones after)
    (deleted : DeletedEntry s uuid entry (tombstones ++ ((dropStorages s entry curStorage).filter
      (deletable s.keyfile.heap outcome)).reverse) after entry') {sd : StorageData}
    (mem : sd ∈ sdsMerge entry'.sdLst entry'.dirtySdLst) (connected : sd.connection.isSome = true) :
    st.Hides (s.keyfile.heap sd.storage).isKeyfileRun ∨
      (s.keyfile.heap curStorage).isKeyfileLib = true := by
  obtain ⟨unreported, old, old_mem, same, old_connection⟩ := deleted.connected sd mem connected
  rw [mem_append, not_or, mem_reverse, mem_filter] at unreported
  have ok := (settled.entry uuid entry entry_eq).sd_ok old old_mem
  have old_connected : old.connection.isSome = true := by rw [old_connection, connected]
  have run := deletes.dropped.retracts
  by_cases listed : sd.storage ∈ dropStorages s entry curStorage
  · left
    have cannot : deletable s.keyfile.heap outcome sd.storage = false := by
      by_contra can
      rw [Bool.not_eq_false] at can
      exact unreported.2 ⟨listed, can⟩
    have hides : st.Hides (s.keyfile.heap curStorage).isKeyfileRun :=
      deletes.dropped.undeletable sd.storage listed cannot
    cases cur_run : (s.keyfile.heap curStorage).isKeyfileRun with
    | true =>
      rw [cur_run] at hides
      exact Or.inl (hides.resolve_right fun impossible => by cases impossible.1)
    | false =>
      rw [dropStorages_eq_current cur_run listed]
      exact hides
  · by_cases none_dropped : dropStorages s entry curStorage = []
    · right
      by_contra not_lib
      unfold dropStorages at none_dropped
      rw [if_neg not_lib] at none_dropped
      cases none_dropped
    · left
      have identity := run.identity ok.allocated
      have hides := deletes.dropped.hidden none_dropped old old_mem ⟨same ▸ listed, ?_, ?_⟩
      · rw [isKeyfileRun_eq_of_identity identity, same] at hides
        exact hides
      · unfold isAlive
        rw [old_connected, Bool.true_or]
      · rw [isMetaData_eq_of_identity identity]
        exact ok.profile old_connected

/-- Whatever may be left in `/run` is found: the profile is not in a read-only directory, or the
tombstone on disk cannot be written, so that there is one in `/run`, or there is no profile in
`/run`. -/
def FindsOthers (s : NMSettings) (uuid : Uuid) (settConn : Nat) (outcome : FileOutcome) : Prop :=
  (s.keyfile.heap (s.connections settConn).storage).isKeyfileLib = true →
    outcome.nmmeta .etc = true → ∀ sd ∈ s.sdLst uuid, sd.connection.isSome = true →
    (s.keyfile.heap sd.storage).isKeyfileRun = false

/-- A tombstone outside of `/run` comes first if there is nothing in `/run`. -/
theorem head_of_diskTombstone (inv : TrackInv [] after) (placed : after.keyfile.Placed cfg.dirs)
    (entry_eq : after.sceIdx uuid = some entry')
    (disk : ∀ sd ∈ sdsUpdate cfg.plugins after.keyfile entry',
      (after.keyfile.heap sd.storage).isKeyfileRun = false) {sd : StorageData}
    (mem : sd ∈ sdsUpdate cfg.plugins after.keyfile entry')
    (is_meta : (after.keyfile.heap sd.storage).isMetaData.isSome = true) :
    (sdsUpdate cfg.plugins after.keyfile entry').head? = some sd := by
  have entry_inv := inv.entry uuid entry' entry_eq
  have tombstone : (after.keyfile.heap sd.storage).isTombstone = true := by
    obtain ⟨metaData, metaData_eq⟩ := Option.isSome_iff_exists.mp is_meta
    unfold isTombstone
    rw [metaData_eq]
    exact inv.keyfile.tombstone sd.storage metaData metaData_eq
  have listed := ListSort.mem_sort.mp mem
  refine ListSort.head_sort listed (dominates_diskTombstone
    (fun other other_mem => disk other (ListSort.mem_sort.mpr other_mem)) listed tombstone ?_)
  intro other other_mem other_tombstone
  have other_listed : other ∈ sdsUpdate cfg.plugins after.keyfile entry' :=
    ListSort.mem_sort.mpr other_mem
  have other_meta := isMetaData_of_isTombstone other_tombstone
  have type_eq := ((placed sd.storage).etc is_meta (disk sd mem)).1
  have other_type := ((placed other.storage).etc other_meta (disk other other_listed)).1
  have same_uuid : (after.keyfile.heap other.storage).getUuid =
      (after.keyfile.heap sd.storage).getUuid := by
    rw [(entry_inv.merged_ok (mem_sdsUpdate.mp other_listed).1).uuid_eq,
      (entry_inv.merged_ok (mem_sdsUpdate.mp mem).1).uuid_eq]
  have unique : Unique (sdsUpdate cfg.plugins after.keyfile entry') := unique_sdsUpdate entry_inv
  refine unique.eq other_listed mem ?_
  exact metaData_unique inv.keyfile (tracked_of_mem_sdsUpdate entry_inv other_listed other_meta)
    (tracked_of_mem_sdsUpdate entry_inv mem is_meta) other_meta is_meta same_uuid
    (other_type.trans type_eq.symm)

theorem Deletes.head_hidden (inv : SettingsInv cfg s) (has_etc : cfg.dirs.hasEtc = true)
    (entry_eq : s.sceIdx uuid = some entry) (finds : s.FindsOthers uuid settConn outcome)
    (deletes : Deletes cfg s uuid entry (s.connections settConn).storage outcome st tombstones
      after)
    (deleted : DeletedEntry s uuid entry (tombstones ++ ((dropStorages s entry
      (s.connections settConn).storage).filter (deletable s.keyfile.heap outcome)).reverse) after
      entry') {best : StorageData}
    (head : (sdsUpdate cfg.plugins after.keyfile entry').head? = some best) :
    best.connection = none := by
  have run := deletes.dropped.retracts.trans deletes.hidden.retracts
  have after_inv := run.trackInv inv.toTrackInv
  have entry_inv := after_inv.entry uuid entry' deleted.entry_eq
  have run_eq : ∀ old ∈ entry.sdLst, (after.keyfile.heap old.storage).isKeyfileRun =
      (s.keyfile.heap old.storage).isKeyfileRun := fun old mem =>
    isKeyfileRun_eq_of_identity
      (run.identity ((inv.entry uuid entry entry_eq).sd_ok old mem).allocated)
  have tombstone_first : ∀ sd ∈ sdsUpdate cfg.plugins after.keyfile entry',
      (after.keyfile.heap sd.storage).isMetaData.isSome = true →
      (sdsUpdate cfg.plugins after.keyfile entry').head? = some sd → best.connection = none := by
    intro sd mem is_meta first
    rw [head, Option.some.injEq] at first
    rw [first]
    exact (entry_inv.merged_ok (mem_sdsUpdate.mp mem).1).metaData is_meta
  cases in_run : st.tombstoneInMemory || st.tombstoneOnDisk && !writableOnDisk cfg outcome with
  | true =>
    obtain ⟨storage, reported, named, tracked⟩ := deletes.hidden.present true in_run
    obtain ⟨sd, mem, rfl, is_meta, is_run⟩ := @tombstone_listed cfg s after uuid entry entry' _
      deleted storage true (mem_append_left _ reported) named tracked
    exact tombstone_first sd mem is_meta
      (head_of_runTombstone after_inv.keyfile entry_inv mem is_run is_meta)
  | false =>
    rw [Bool.or_eq_false_iff] at in_run
    by_contra connected
    rw [← ne_eq, Option.ne_none_iff_isSome] at connected
    have best_mem : best ∈ sdsUpdate cfg.plugins after.keyfile entry' :=
      mem_of_head? head
    -- What has a connection is not in `/run`, and a tombstone on disk is to hide it.
    have hidden : ∀ sd ∈ sdsUpdate cfg.plugins after.keyfile entry',
        sd.connection.isSome = true → (s.keyfile.heap sd.storage).isKeyfileRun = false ∧
          st.tombstoneOnDisk = true := by
      intro sd mem sd_connected
      have merged := (mem_sdsUpdate.mp mem).1
      rcases deletes.hides inv.toSettled entry_eq deleted merged sd_connected with hides | is_lib
      · exact hides.resolve_left (by rw [in_run.1]; exact Bool.false_ne_true)
      · have on_disk : st.tombstoneOnDisk = true := deletes.dropped.mono.onDisk is_lib
        refine ⟨?_, on_disk⟩
        have writable := in_run.2
        rw [on_disk, Bool.true_and, Bool.not_eq_false'] at writable
        unfold writableOnDisk at writable
        rw [has_etc, Bool.not_true, Bool.false_or] at writable
        obtain ⟨-, old, old_mem, same, old_connection⟩ := deleted.connected sd merged sd_connected
        rw [← same]
        refine finds is_lib writable old ?_ (by rw [old_connection, sd_connected])
        unfold sdLst
        rw [entry_eq]
        exact old_mem
    have on_disk := (hidden best best_mem connected).2
    have writable := in_run.2
    rw [on_disk, Bool.true_and, Bool.not_eq_false'] at writable
    have written : (st.tombstoneOnDisk && cfg.dirs.hasEtc && outcome.nmmeta .etc) = true := by
      unfold writableOnDisk at writable
      rw [has_etc, Bool.not_true, Bool.false_or] at writable
      rw [on_disk, has_etc, writable]
      rfl
    have disk : ∀ sd ∈ sdsUpdate cfg.plugins after.keyfile entry',
        (after.keyfile.heap sd.storage).isKeyfileRun = false := by
      intro sd mem
      obtain ⟨merged, alive⟩ := mem_sdsUpdate.mp mem
      cases sd_connected : sd.connection.isSome with
      | true =>
        obtain ⟨-, old, old_mem, same, -⟩ := deleted.connected sd merged sd_connected
        rw [← same, run_eq old old_mem, same]
        exact (hidden sd mem sd_connected).1
      | false =>
        unfold isAlive at alive
        rw [sd_connected, Bool.false_or] at alive
        have is_meta := (isMetaDataAlive_isSome.mp alive).2
        by_contra is_run
        rw [Bool.not_eq_false] at is_run
        have first : (sdsUpdate cfg.plugins after.keyfile entry').head? = some sd :=
          head_of_runTombstone after_inv.keyfile entry_inv mem is_run is_meta
        rw [tombstone_first sd mem is_meta first] at connected
        cases connected
    obtain ⟨storage, reported, named, tracked⟩ := deletes.hidden.present false written
    obtain ⟨sd, mem, rfl, is_meta, -⟩ := @tombstone_listed cfg s after uuid entry entry' _
      deleted storage false (mem_append_left _ reported) named tracked
    have first := head_of_diskTombstone after_inv (run.placed inv.placed) deleted.entry_eq disk mem
      is_meta
    rw [tombstone_first sd mem is_meta first] at connected
    cases connected

theorem Deletes.queued (inv : SettingsInv cfg s) (has_etc : cfg.dirs.hasEtc = true)
    (cur : HoldsProfile s uuid curStorage)
    (deletes : Deletes cfg s uuid entry curStorage outcome st tombstones after) :
    uuid ∈ after.sceDirtyLst := by
  have run := deletes.dropped.retracts.trans deletes.hidden.retracts
  have tombstone_queued : ∀ inMemory : Bool, (if inMemory then
      st.tombstoneInMemory || st.tombstoneOnDisk && !writableOnDisk cfg outcome
      else st.tombstoneOnDisk && cfg.dirs.hasEtc && outcome.nmmeta .etc) = true →
      uuid ∈ after.sceDirtyLst := by
    intro inMemory is_set
    obtain ⟨storage, reported, named, -⟩ := deletes.hidden.present inMemory is_set
    have queued := run.queued_reported inv.toTrackInv (mem_append_left _ reported)
    rw [(tombstone_of_filename named).1] at queued
    exact queued
  cases in_run : st.tombstoneInMemory || st.tombstoneOnDisk && !writableOnDisk cfg outcome with
  | true => exact tombstone_queued true in_run
  | false =>
    rw [Bool.or_eq_false_iff] at in_run
    cases on_disk : st.tombstoneOnDisk with
    | true =>
      refine tombstone_queued false ?_
      have writable := in_run.2
      rw [on_disk, Bool.true_and, Bool.not_eq_false'] at writable
      unfold writableOnDisk at writable
      rw [has_etc, Bool.not_true, Bool.false_or] at writable
      rw [on_disk, has_etc, writable]
      rfl
    | false =>
      have unhidden : ∀ isRun, ¬ st.Hides isRun := by
        rintro isRun (in_memory | ⟨-, set⟩)
        · rw [in_run.1] at in_memory
          cases in_memory
        · rw [on_disk] at set
          cases set
      have not_lib : ¬ (s.keyfile.heap curStorage).isKeyfileLib = true := by
        intro is_lib
        have set := deletes.dropped.mono.onDisk is_lib
        rw [on_disk] at set
        cases set
      have listed : curStorage ∈ dropStorages s entry curStorage := by
        unfold dropStorages
        rw [if_neg not_lib]
        exact mem_append_left _ (mem_singleton_self _)
      have can : deletable s.keyfile.heap outcome curStorage = true := by
        by_contra cannot
        rw [Bool.not_eq_true] at cannot
        exact unhidden _ (deletes.dropped.undeletable curStorage listed cannot)
      have queued := run.queued_reported inv.toTrackInv (mem_append_right _
        (mem_reverse.mpr (mem_filter.mpr ⟨listed, can⟩)))
      rw [getUuid_eq_of_identity (run.identity cur.allocated), cur.uuid_eq] at queued
      exact queued

/-- In every state that is reached, deleting an exposed profile leaves none exposed for the UUID, if
whatever is left in `/run` is found. -/
theorem deleteConnection_hides (cfg : SettingsConfig) (has_etc : cfg.dirs.hasEtc = true)
    (calls : List SettingsCall) (lawful : (machine cfg).Lawful new calls) (s : NMSettings)
    (reached : s = (machine cfg).run new calls) (uuid : Uuid) (settConn : Nat)
    (exposed : s.getConnectionByUuid uuid = some settConn) (outcome : FileOutcome)
    (finds : s.FindsOthers uuid settConn outcome) :
    (s.deleteConnection cfg settConn outcome).getConnectionByUuid uuid = none := by
  have inv : SettingsInv cfg s := reached ▸ run_settingsInv lawful
  obtain ⟨entry, st, tombstones, after, entry_eq, -, cur, deletes, eq⟩ :=
    @deleteConnection_deletes cfg s uuid settConn outcome inv.toSettled exposed
  have run := deletes.dropped.retracts.trans deletes.hidden.retracts
  obtain ⟨entry', deleted⟩ := retracts_deletedEntry inv.toSettled entry_eq run
  rw [eq]
  exact hidden_of_head (run.trackInv inv.toTrackInv) (deletes.queued inv has_etc cur)
    deleted.entry_eq (fun best head => deletes.head_hidden inv has_etc entry_eq finds deleted head)
    _ _ _

/-- The first profile is deleted, although its file stays. -/
theorem deleteConnection_hides_twoFiles :
    ((machine usualConfig).run new twoFilesCalls).getConnectionByUuid "u" = some 0 ∧
      (((machine usualConfig).run new twoFilesCalls).deleteConnection usualConfig 0
        (usualOutcome "c" false true)).getConnectionByUuid "u" = none := by
  have exposed : ((machine usualConfig).run new twoFilesCalls).getConnectionByUuid "u" =
      some 0 := by decide +kernel
  have not_lib : (((machine usualConfig).run new twoFilesCalls).keyfile.heap
      (((machine usualConfig).run new twoFilesCalls).connections 0).storage).isKeyfileLib =
      false := by decide +kernel
  refine ⟨exposed, deleteConnection_hides usualConfig rfl twoFilesCalls
    ⟨⟨trivial, trivial⟩, trivial⟩ _ rfl "u" 0 exposed (usualOutcome "c" false true) fun is_lib => ?_⟩
  rw [not_lib] at is_lib
  cases is_lib

/-- Directories with paths for two files in `/run`. -/
def pathsConfig : SettingsConfig :=
  { usualConfig with
    dirs :=
      { NMSKeyfilePlugin.usualDirs with
        fileIsInPath := fun
          | .run, "run/x" => some (.keyfile "x")
          | .run, "run/y" => some (.keyfile "y")
          | .lib 0, "lib/b" => some (.keyfile "b")
          | _, _ => none } }

/-- A profile in `/usr/lib`, at first. -/
def libFile : Filename → FileState
  | .keyfile (.lib 0) "b" => .keyfile ⟨"u", "b"⟩ ⟨1, 0⟩ false false none false
  | _ => .missing

/-- Two profiles of the same UUID in `/run`, while the file in `/usr/lib` cannot be read. -/
def runFiles : Filename → FileState
  | .keyfile .run "x" => .keyfile ⟨"u", "x"⟩ ⟨1, 0⟩ false false none false
  | .keyfile .run "y" => .keyfile ⟨"u", "y"⟩ ⟨1, 0⟩ false false none false
  | .keyfile (.lib 0) "b" => .unreadable "permission denied"
  | _ => .missing

/-- The profile in `/usr/lib` is updated without being written, which gives it priority.  Then the
files in `/run` are loaded. -/
def comesBackCalls : List SettingsCall :=
  [.reload libFile (fun
      | .lib _ => [.keyfile "b"]
      | _ => []) [] [],
    .update 0 (some ⟨"u", "secret"⟩) .noPersist .none .none false false (usualOutcome "c" true true),
    .load runFiles [⟨"run/x", false, none⟩, ⟨"run/y", false, none⟩, ⟨"lib/b", false, none⟩] [] []]

/-- The profile that was deleted is still exposed. -/
theorem deleteConnection_comes_back :
    (machine pathsConfig).Lawful new comesBackCalls ∧ pathsConfig.dirs.hasEtc = true ∧
      ((machine pathsConfig).run new comesBackCalls).getConnectionByUuid "u" = some 0 ∧
      (((machine pathsConfig).run new comesBackCalls).deleteConnection pathsConfig 0
        (usualOutcome "c" true true)).getConnectionByUuid "u" = some 0 := by
  refine ⟨⟨⟨trivial, trivial⟩, ⟨"u", ?_⟩, ⟨trivial, trivial⟩, trivial⟩, rfl, ?_, ?_⟩
  · decide +kernel
  · decide +kernel
  · decide +kernel

end NMSettings

end NetworkManager
