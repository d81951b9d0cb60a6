import NetworkManager.Settings.KeyfileLoad
import NetworkManager.Settings.Operations
import NetworkManager.Settings.Priority

/-!
# The invariant of tracked storages

While changes are collected, the storages of an entry with the changes merged into them are the
storages that the plugins have.  Processing the entries that have changes leaves entries without
changes, whose profile is exposed exactly if the first storage has one.
-/

namespace NetworkManager

open List NMSettings NMSettingsStorage

def Unique (sds : List StorageData) : Prop :=
  (sds.map fun sd => sd.storage).Nodup

variable {sds : List StorageData}

theorem Unique.eq (unique : Unique sds) {a b : StorageData} (a_mem : a ∈ sds) (b_mem : b ∈ sds)
    (same : a.storage = b.storage) : a = b :=
  inj_on_of_nodup_map unique a_mem b_mem same

variable {storage : Nat} {sd : StorageData} {dirty : List StorageData}

theorem find_storage_eq_some (unique : Unique sds) :
    (sds.find? fun other => other.storage == storage) = some sd ↔
      sd ∈ sds ∧ sd.storage = storage := by
  constructor
  · intro found
    exact ⟨List.mem_of_find?_eq_some found, by simpa using find?_some found⟩
  · rintro ⟨mem, rfl⟩
    cases found : sds.find? fun other => other.storage == sd.storage with
    | none => exact absurd (beq_self_eq_true _) (find?_eq_none.mp found sd mem)
    | some other =>
      have same : other.storage = sd.storage := by simpa using find?_some found
      rw [unique.eq (List.mem_of_find?_eq_some found) mem same]

theorem find_storage_eq_none :
    (sds.find? fun other => other.storage == storage) = none ↔
      ∀ sd ∈ sds, sd.storage ≠ storage := by
  rw [find?_eq_none]
  exact forall₂_congr fun sd _ => not_congr beq_iff_eq

theorem any_storage_iff :
    (sds.any fun other => other.storage == storage) = true ↔ ∃ sd ∈ sds, sd.storage = storage := by
  rw [any_eq_true]
  exact exists_congr fun sd => and_congr_right fun _ => beq_iff_eq

theorem mem_trackSd {connection : Option NMConnection} {prioritize : Bool}
    (mem : sd ∈ trackSd dirty storage connection prioritize) :
    (sd.storage = storage ∧ sd.connection = connection ∨
      sd.storage ≠ storage ∧ ∃ old ∈ dirty, old.storage = sd.storage ∧
        old.connection = sd.connection ∧ (prioritize = false → old = sd)) ∧
      (prioritize = true → sd.prioritize = (sd.storage == storage)) := by
  have tracked : ∀ {sd}, sd ∈ (if (dirty.any fun sd => sd.storage == storage) then
      dirty.map fun sd => if sd.storage = storage then { sd with connection := connection } else sd
      else dirty ++ [⟨storage, connection, false⟩]) →
      sd.storage = storage ∧ sd.connection = connection ∨ sd.storage ≠ storage ∧ sd ∈ dirty := by
    intro sd mem
    split at mem
    · obtain ⟨old, old_mem, rfl⟩ := mem_map.mp mem
      split
      · rename_i same
        exact Or.inl ⟨same, rfl⟩
      · rename_i different
        exact Or.inr ⟨different, old_mem⟩
    · rename_i absent
      rcases mem_append.mp mem with old_mem | new
      · exact Or.inr ⟨fun same => absent (any_storage_iff.mpr ⟨sd, old_mem, same⟩), old_mem⟩
      · rw [mem_singleton.mp new]
        exact Or.inl ⟨rfl, rfl⟩
  unfold trackSd at mem
  cases prioritize with
  | true =>
    obtain ⟨old, old_mem, rfl⟩ := mem_map.mp mem
    refine ⟨(tracked old_mem).imp id fun ⟨different, listed⟩ => ?_, fun _ => rfl⟩
    exact ⟨different, old, listed, rfl, rfl, fun impossible => by cases impossible⟩
  | false =>
    refine ⟨(tracked mem).imp id fun ⟨different, listed⟩ => ?_, fun impossible => by
      cases impossible⟩
    exact ⟨different, sd, listed, rfl, rfl, fun _ => rfl⟩

/-- A storage with a change keeps its position, and a new one comes last. -/
theorem map_storage_trackSd (dirty : List StorageData) (storage : Nat)
    (connection : Option NMConnection) (prioritize : Bool) :
    (trackSd dirty storage connection prioritize).map (fun sd => sd.storage) =
      if storage ∈ dirty.map fun sd => sd.storage then dirty.map fun sd => sd.storage
      else (dirty.map fun sd => sd.storage) ++ [storage] := by
  have reset : ∀ sds : List StorageData, (if prioritize then
      sds.map fun sd => { sd with prioritize := sd.storage == storage } else sds).map
        (fun sd => sd.storage) = sds.map fun sd => sd.storage := by
    intro sds
    split
    · rw [map_map]
      rfl
    · rfl
  unfold trackSd
  rw [reset]
  by_cases listed : storage ∈ dirty.map fun sd => sd.storage
  · rw [if_pos listed, if_pos (any_storage_iff.mpr (mem_map.mp listed)), map_map]
    refine map_congr_left fun sd _ => ?_
    dsimp only [Function.comp]
    split
    · rfl
    · rfl
  · rw [if_neg listed, if_neg fun there => listed (mem_map.mpr (any_storage_iff.mp there)),
      map_append]
    rfl

theorem Unique.trackSd (unique : Unique dirty) (storage : Nat) (connection : Option NMConnection)
    (prioritize : Bool) :
    Unique (trackSd dirty storage connection prioritize) := by
  unfold Unique
  rw [map_storage_trackSd]
  split
  · exact unique
  · rename_i absent
    exact nodup_append.mpr ⟨unique, nodup_singleton storage, fun a a_mem b b_mem same =>
      absent (by rwa [← mem_singleton.mp b_mem, ← same])⟩

theorem storage_mem_trackSd {storage other : Nat} {connection : Option NMConnection}
    {prioritize : Bool} :
    (∃ sd ∈ trackSd dirty storage connection prioritize, sd.storage = other) ↔
      other = storage ∨ ∃ sd ∈ dirty, sd.storage = other := by
  have listed : (∃ sd ∈ trackSd dirty storage connection prioritize, sd.storage = other) ↔
      other ∈ (trackSd dirty storage connection prioritize).map fun sd => sd.storage :=
    mem_map.symm
  rw [listed, map_storage_trackSd, ← mem_map]
  split
  · rename_i there
    exact ⟨Or.inr, fun either => either.elim (fun same => same ▸ there) id⟩
  · rw [mem_append, mem_singleton, or_comm]

/-- The merged storages are the changes, and the storages without changes.  These lose their
priority if there is a change with priority. -/
theorem mem_sdsMerge {sdLst dirty : List StorageData} (unique : Unique dirty) :
    sd ∈ sdsMerge sdLst dirty ↔
      sd ∈ dirty ∨ (∀ change ∈ dirty, change.storage ≠ sd.storage) ∧
        ∃ old ∈ sdLst, sd = { old with prioritize := old.prioritize && !dirty.any (·.prioritize) } := by
  unfold sdsMerge
  dsimp only
  rw [mem_append, mem_map, mem_filter]
  constructor
  · rintro (⟨old, old_mem, rfl⟩ | ⟨change, -⟩)
    · split
      · rename_i change found
        obtain ⟨mem, same⟩ := (find_storage_eq_some unique).mp found
        left
        rw [← same]
        exact mem
      · rename_i absent
        have no_change := find_storage_eq_none.mp absent
        right
        cases dirty.any (·.prioritize) with
        | true => exact ⟨no_change, old, old_mem, by simp⟩
        | false => exact ⟨no_change, old, old_mem, by simp⟩
    · exact Or.inl change
  · rintro (change | ⟨no_change, old, old_mem, rfl⟩)
    · by_cases there : ∃ old ∈ sdLst, old.storage = sd.storage
      · obtain ⟨old, old_mem, same⟩ := there
        left
        refine ⟨old, old_mem, ?_⟩
        rw [(find_storage_eq_some unique).mpr ⟨change, same.symm⟩]
        dsimp only
        rw [same]
      · right
        rw [Bool.not_eq_true', Bool.eq_false_iff]
        exact ⟨change, fun any => there (any_storage_iff.mp any)⟩
    · left
      refine ⟨old, old_mem, ?_⟩
      rw [find_storage_eq_none.mpr no_change]
      dsimp only
      cases dirty.any (·.prioritize) with
      | true => simp
      | false => simp

theorem map_storage_sdsMerge (sdLst dirty : List StorageData) :
    (sdsMerge sdLst dirty).map (fun sd => sd.storage) =
      (sdLst.map fun sd => sd.storage) ++
        (dirty.filter fun sdDirty => !sdLst.any fun sd => sd.storage == sdDirty.storage).map
          fun sd => sd.storage := by
  unfold sdsMerge
  dsimp only
  rw [map_append, map_map]
  congr 1
  refine map_congr_left fun sd _ => ?_
  dsimp only [Function.comp]
  split
  · rfl
  · split
    · rfl
    · rfl

theorem Unique.sdsMerge {sdLst dirty : List StorageData} (unique : Unique sdLst)
    (dirty_unique : Unique dirty) : Unique (sdsMerge sdLst dirty) := by
  unfold Unique
  rw [map_storage_sdsMerge]
  refine nodup_append.mpr ⟨unique, dirty_unique.sublist (filter_sublist.map _), ?_⟩
  intro a a_mem b b_mem same
  obtain ⟨sd, sd_mem, rfl⟩ := mem_map.mp a_mem
  obtain ⟨change, change_mem, rfl⟩ := mem_map.mp b_mem
  have absent := (mem_filter.mp change_mem).2
  rw [Bool.not_eq_true', Bool.eq_false_iff] at absent
  exact absent (any_storage_iff.mpr ⟨sd, sd_mem, same⟩)

/-- What the settings know about a storage of a UUID. -/
structure SdOk (keyfile : NMSKeyfilePlugin) (uuid : Uuid) (sd : StorageData) : Prop where
  uuid_eq : (keyfile.heap sd.storage).getUuid = uuid
  allocated : sd.storage < keyfile.next
  metaData : (keyfile.heap sd.storage).isMetaData.isSome = true → sd.connection = none
  connection : ∀ connection ∈ sd.connection, connection.uuid = uuid

/-- A profile of the keyfile plugin is one that the plugin tracks. -/
def Synced (keyfile : NMSKeyfilePlugin) (sd : StorageData) : Prop :=
  (keyfile.heap sd.storage).getPlugin = .keyfile →
    (keyfile.heap sd.storage).isMetaData.isSome = false → sd.connection.isSome = true →
    sd.storage ∈ keyfile.storages.storageLst

structure Exposes (s : NMSettings) (entry : SettConnEntry) (settConn : Nat) : Prop where
  allocated : settConn < s.nextConnection
  storage : entry.storage = some (s.connections settConn).storage
  listed : ∃ sd ∈ entry.sdLst, sd.storage = (s.connections settConn).storage ∧
    sd.connection = some (s.connections settConn).connection
  /-- There is no meta-data in `/run`. -/
  unhidden : ∀ sd ∈ entry.sdLst, (s.keyfile.heap sd.storage).isKeyfileRun = true →
    (s.keyfile.heap sd.storage).isMetaData.isSome = false

/-- The invariant of an entry, while changes of the storages `pending` are not tracked yet. -/
structure EntryInv (s : NMSettings) (pending : List Nat) (uuid : Uuid) (entry : SettConnEntry) :
    Prop where
  unique : Unique entry.sdLst
  dirty_unique : Unique entry.dirtySdLst
  sd_ok : ∀ sd ∈ entry.sdLst, SdOk s.keyfile uuid sd
  dirty_ok : ∀ sd ∈ entry.dirtySdLst, SdOk s.keyfile uuid sd
  /-- The plugin tracks the profiles. -/
  synced : ∀ sd ∈ sdsMerge entry.sdLst entry.dirtySdLst, sd.storage ∉ pending → Synced s.keyfile sd
  live : ∀ sd ∈ entry.sdLst, sd.storage ∉ pending → NMSettings.isAlive s.keyfile sd = true ∨
    ∃ change ∈ entry.dirtySdLst, change.storage = sd.storage
  exposes : ∀ settConn, entry.settConn = some settConn → Exposes s entry settConn
  queued : entry.dirtySdLst ≠ [] → uuid ∈ s.sceDirtyLst

/-- The invariant of the settings, while changes of the storages `pending` are not tracked yet. -/
structure TrackInv (pending : List Nat) (s : NMSettings) : Prop where
  keyfile : s.keyfile.Inv
  queue_nodup : s.sceDirtyLst.Nodup
  queue_entry : ∀ uuid ∈ s.sceDirtyLst, (s.sceIdx uuid).isSome = true
  nonempty : ∀ uuid entry, s.sceIdx uuid = some entry → entry.sdLst ≠ [] ∨ entry.dirtySdLst ≠ []
  entry : ∀ uuid entry, s.sceIdx uuid = some entry → EntryInv s pending uuid entry

/-- The invariant between two operations: there are no changes. -/
structure Settled (s : NMSettings) : Prop extends TrackInv [] s where
  processed : s.sceDirtyLst = []

theorem Settled.dirtySdLst {s : NMSettings} (settled : Settled s) {uuid : Uuid}
    {entry : SettConnEntry} (entry_eq : s.sceIdx uuid = some entry) : entry.dirtySdLst = [] := by
  by_contra changed
  have queued := (settled.entry uuid entry entry_eq).queued changed
  rw [settled.processed] at queued
  exact absurd queued not_mem_nil

theorem sdsMerge_nil (sdLst : List StorageData) : sdsMerge sdLst [] = sdLst := by
  unfold sdsMerge
  simp

theorem EntryInv.merged_ok {s : NMSettings} {pending : List Nat} {uuid : Uuid}
    {entry : SettConnEntry} (inv : EntryInv s pending uuid entry)
    (mem : sd ∈ sdsMerge entry.sdLst entry.dirtySdLst) : SdOk s.keyfile uuid sd := by
  rcases (mem_sdsMerge inv.dirty_unique).mp mem with change | ⟨-, old, old_mem, rfl⟩
  · exact inv.dirty_ok sd change
  · obtain ⟨uuid_eq, allocated, metaData, connection⟩ := inv.sd_ok old old_mem
    exact ⟨uuid_eq, allocated, metaData, connection⟩

section Step

variable {p p' : NMSKeyfilePlugin} {events : List NMSKeyfilePlugin.LoadEvent}

theorem isKeyfileRun_eq_of_identity {a b : NMSettingsStorage} (same : a.identity = b.identity) :
    a.isKeyfileRun = b.isKeyfileRun := by
  unfold isKeyfileRun
  rw [storageType_eq_of_identity same]

variable {sd : StorageData}

theorem SdOk.step {uuid : Uuid} (ok : SdOk p uuid sd) (step : NMSKeyfilePlugin.Step p p' events) :
    SdOk p' uuid sd := by
  have identity := step.identity sd.storage ok.allocated
  refine ⟨?_, Nat.lt_of_lt_of_le ok.allocated step.next_le, fun is_meta => ok.metaData ?_,
    ok.connection⟩
  · rw [getUuid_eq_of_identity identity, ok.uuid_eq]
  · rw [← isMetaData_eq_of_identity identity, is_meta]

theorem Synced.step {uuid : Uuid} (ok : SdOk p uuid sd) (synced : Synced p sd)
    (step : NMSKeyfilePlugin.Step p p' events)
    (unreported : sd.storage ∉ events.map fun event => event.storage) : Synced p' sd := by
  have identity := step.identity sd.storage ok.allocated
  intro is_keyfile profile connection
  rw [getPlugin_eq_of_identity identity] at is_keyfile
  rw [isMetaData_eq_of_identity identity] at profile
  by_contra dropped
  obtain ⟨event, event_mem, same⟩ :=
    step.reported sd.storage (synced is_keyfile profile connection) dropped
  exact unreported (mem_map.mpr ⟨event, event_mem, same⟩)

theorem isMetaDataAlive_isSome {keyfile : NMSKeyfilePlugin} {storage : Nat} :
    (keyfile.isMetaDataAlive storage).isSome = true ↔
      storage ∈ keyfile.storages.storageLst ∧ (keyfile.heap storage).isMetaData.isSome = true := by
  unfold NMSKeyfilePlugin.isMetaDataAlive
  split
  · rename_i tracked
    exact ⟨fun is_meta => ⟨tracked, is_meta⟩, fun both => both.2⟩
  · rename_i untracked
    refine ⟨fun impossible => ?_, fun both => absurd both.1 untracked⟩
    cases impossible

theorem isAlive_step {uuid : Uuid} (ok : SdOk p uuid sd) (alive : NMSettings.isAlive p sd = true)
    (step : NMSKeyfilePlugin.Step p p' events)
    (unreported : sd.storage ∉ events.map fun event => event.storage) :
    NMSettings.isAlive p' sd = true := by
  unfold isAlive at alive ⊢
  rw [Bool.or_eq_true] at alive ⊢
  refine alive.imp_right fun alive_meta => ?_
  rw [isMetaDataAlive_isSome] at alive_meta ⊢
  refine ⟨?_, ?_⟩
  · by_contra dropped
    obtain ⟨event, event_mem, same⟩ := step.reported sd.storage alive_meta.1 dropped
    exact unreported (mem_map.mpr ⟨event, event_mem, same⟩)
  · rw [isMetaData_eq_of_identity (step.identity sd.storage ok.allocated)]
    exact alive_meta.2

theorem TrackInv.step {s : NMSettings} (inv : TrackInv [] s)
    (step : NMSKeyfilePlugin.Step s.keyfile p' events)
    (files : Filename → Option KeyfileNmmeta) :
    TrackInv (events.map fun event => event.storage)
      { s with keyfile := p', files := files } := by
  refine ⟨step.inv, inv.queue_nodup, inv.queue_entry, inv.nonempty, fun uuid entry entry_eq => ?_⟩
  have old := inv.entry uuid entry entry_eq
  refine ⟨old.unique, old.dirty_unique, fun sd mem => (old.sd_ok sd mem).step step,
    fun sd mem => (old.dirty_ok sd mem).step step, fun sd mem unreported => ?_,
    fun sd mem unreported => ?_, fun settConn exposed => ?_, old.queued⟩
  · exact Synced.step (old.merged_ok mem) (old.synced sd mem not_mem_nil) step unreported
  · exact (old.live sd mem not_mem_nil).imp_left fun alive =>
      isAlive_step (old.sd_ok sd mem) alive step unreported
  · obtain ⟨allocated, storage, listed, unhidden⟩ := old.exposes settConn exposed
    refine ⟨allocated, storage, listed, fun sd mem run => ?_⟩
    have identity := step.identity sd.storage (old.sd_ok sd mem).allocated
    rw [isMetaData_eq_of_identity identity]
    exact unhidden sd mem (by rwa [isKeyfileRun_eq_of_identity identity] at run)

end Step

section Track

variable {s : NMSettings} {storage : Nat} {connection : Option NMConnection} {prioritize : Bool}

theorem track_sceIdx_self : (s.track storage connection prioritize).sceIdx
      (s.keyfile.heap storage).getUuid =
    some { (s.sceIdx (s.keyfile.heap storage).getUuid).getD .new with
      dirtySdLst := trackSd ((s.sceIdx (s.keyfile.heap storage).getUuid).getD .new).dirtySdLst
        storage connection prioritize } :=
  if_pos rfl

theorem track_sceIdx_other {uuid : Uuid} (different : uuid ≠ (s.keyfile.heap storage).getUuid) :
    (s.track storage connection prioritize).sceIdx uuid = s.sceIdx uuid :=
  if_neg different

theorem mem_track_sceDirtyLst {uuid : Uuid} (nodup : s.sceDirtyLst.Nodup) :
    uuid ∈ (s.track storage connection prioritize).sceDirtyLst ↔
      uuid = (s.keyfile.heap storage).getUuid ∨ uuid ∈ s.sceDirtyLst := by
  show uuid ∈ s.sceDirtyLst.erase _ ++ [_] ↔ _
  rw [mem_append, mem_singleton, nodup.mem_erase_iff]
  by_cases same : uuid = (s.keyfile.heap storage).getUuid
  · simp [same]
  · simp [same]

theorem EntryInv.new (s : NMSettings) (pending : List Nat) (uuid : Uuid) :
    EntryInv s pending uuid .new := by
  refine ⟨nodup_nil, nodup_nil, forall_mem_nil _, forall_mem_nil _,
    forall_mem_nil _, forall_mem_nil _, fun settConn impossible => ?_,
    fun changed => absurd rfl changed⟩
  cases impossible

theorem Exposes.track {entry : SettConnEntry} {settConn : Nat} (exposes : Exposes s entry settConn)
    (dirtySdLst : List StorageData) :
    Exposes (s.track storage connection prioritize) { entry with dirtySdLst := dirtySdLst }
      settConn :=
  ⟨exposes.allocated, exposes.storage, exposes.listed, exposes.unhidden⟩

theorem TrackInv.track {pending : List Nat} (inv : TrackInv (storage :: pending) s)
    (event : NMSKeyfilePlugin.EventOk s.keyfile ⟨storage, connection⟩)
    (same_uuid : ∀ c ∈ connection, c.uuid = (s.keyfile.heap storage).getUuid) :
    TrackInv pending (s.track storage connection prioritize) := by
  refine ⟨inv.keyfile, ?_, ?_, ?_, ?_⟩
  · show (s.sceDirtyLst.erase _ ++ [_]).Nodup
    refine nodup_append.mpr ⟨inv.queue_nodup.erase _, nodup_singleton _, ?_⟩
    intro a a_mem b b_mem same
    rw [mem_singleton.mp b_mem] at same
    exact absurd same ((inv.queue_nodup.mem_erase_iff).mp a_mem).1
  · intro uuid queued
    by_cases same : uuid = (s.keyfile.heap storage).getUuid
    · rw [same, track_sceIdx_self]
      rfl
    · rw [track_sceIdx_other same]
      exact inv.queue_entry uuid
        (((mem_track_sceDirtyLst inv.queue_nodup).mp queued).resolve_left same)
  · intro uuid entry entry_eq
    by_cases same : uuid = (s.keyfile.heap storage).getUuid
    · rw [same, track_sceIdx_self, Option.some.injEq] at entry_eq
      rw [← entry_eq]
      obtain ⟨sd, sd_mem, -⟩ := storage_mem_trackSd.mpr (Or.inl (Eq.refl storage))
      exact Or.inr (ne_nil_of_mem sd_mem)
    · rw [track_sceIdx_other same] at entry_eq
      exact inv.nonempty uuid entry entry_eq
  · intro uuid entry entry_eq
    by_cases same : uuid = (s.keyfile.heap storage).getUuid
    · rw [same, track_sceIdx_self, Option.some.injEq] at entry_eq
      subst same entry_eq
      have old : EntryInv s (storage :: pending) (s.keyfile.heap storage).getUuid
          ((s.sceIdx (s.keyfile.heap storage).getUuid).getD .new) := by
        cases found : s.sceIdx (s.keyfile.heap storage).getUuid with
        | none => exact EntryInv.new s _ _
        | some entry => exact inv.entry _ entry found
      generalize (s.sceIdx (s.keyfile.heap storage).getUuid).getD .new = entry at old
      have unique := old.dirty_unique.trackSd storage connection prioritize
      refine ⟨old.unique, unique, old.sd_ok, ?_, ?_, ?_,
        fun settConn exposed => (old.exposes settConn exposed).track _,
        fun _ => (mem_track_sceDirtyLst inv.queue_nodup).mpr (Or.inl rfl)⟩
      · intro sd mem
        rcases (mem_trackSd mem).1 with ⟨rfl, rfl⟩ | ⟨-, change, change_mem, change_storage,
          change_connection, -⟩
        · exact ⟨rfl, event.allocated, event.metaData, same_uuid⟩
        · obtain ⟨uuid_eq, allocated, metaData, connection_uuid⟩ := old.dirty_ok change change_mem
          rw [change_storage] at uuid_eq allocated metaData
          rw [change_connection] at metaData connection_uuid
          exact ⟨uuid_eq, allocated, metaData, connection_uuid⟩
      · intro sd mem not_pending
        rcases (mem_sdsMerge unique).mp mem with change | ⟨unchanged, before, before_mem, rfl⟩
        · rcases (mem_trackSd change).1 with ⟨rfl, rfl⟩ | ⟨different, other, other_mem,
            other_storage, other_connection, -⟩
          · intro is_keyfile profile has_connection
            exact (event.profile is_keyfile profile).mp has_connection
          · have synced := old.synced other ((mem_sdsMerge old.dirty_unique).mpr (Or.inl other_mem))
              (by rw [other_storage]; exact not_mem_cons_of_ne_of_not_mem different not_pending)
            unfold Synced at synced
            rw [other_storage, other_connection] at synced
            exact synced
        · have different : before.storage ≠ storage := by
            intro same
            obtain ⟨sd, sd_mem, sd_same⟩ := storage_mem_trackSd.mpr (Or.inl same)
            exact unchanged sd sd_mem sd_same
          have untouched : ∀ change ∈ entry.dirtySdLst, change.storage ≠ before.storage := by
            intro change change_mem same
            obtain ⟨sd, sd_mem, sd_same⟩ :=
              storage_mem_trackSd.mpr (Or.inr ⟨change, change_mem, same⟩)
            exact unchanged sd sd_mem sd_same
          have merged : (⟨before.storage, before.connection,
              before.prioritize && !entry.dirtySdLst.any (·.prioritize)⟩ : StorageData) ∈
              sdsMerge entry.sdLst entry.dirtySdLst :=
            (mem_sdsMerge old.dirty_unique).mpr (Or.inr ⟨untouched, before, before_mem, rfl⟩)
          -- The priority of a storage does not matter to the plugin.
          have synced : Synced s.keyfile _ :=
            old.synced _ merged (not_mem_cons_of_ne_of_not_mem different not_pending)
          exact synced
      · intro sd mem not_pending
        by_cases changed : sd.storage = storage
        · exact Or.inr (storage_mem_trackSd.mpr (Or.inl changed))
        · exact (old.live sd mem (not_mem_cons_of_ne_of_not_mem changed not_pending)).imp_right
            fun change => storage_mem_trackSd.mpr (Or.inr change)
    · rw [track_sceIdx_other same] at entry_eq
      have old := inv.entry uuid entry entry_eq
      refine ⟨old.unique, old.dirty_unique, old.sd_ok, old.dirty_ok, fun sd mem not_pending => ?_,
        fun sd mem not_pending => ?_, fun settConn exposed => (old.exposes settConn exposed).track _,
        fun changed => (mem_track_sceDirtyLst inv.queue_nodup).mpr (Or.inr (old.queued changed))⟩
      · refine old.synced sd mem (not_mem_cons_of_ne_of_not_mem ?_ not_pending)
        intro storage_eq
        exact same (by rw [← storage_eq, (old.merged_ok mem).uuid_eq])
      · refine old.live sd mem (not_mem_cons_of_ne_of_not_mem ?_ not_pending)
        intro storage_eq
        exact same (by rw [← storage_eq, (old.sd_ok sd mem).uuid_eq])

theorem TrackInv.trackEvents {events : List NMSKeyfilePlugin.LoadEvent}
    (inv : TrackInv (events.map fun event => event.storage) s)
    (event_ok : ∀ event ∈ events, NMSKeyfilePlugin.EventOk s.keyfile event)
    (same_uuid : ∀ event ∈ events, ∀ connection ∈ event.connection,
      connection.uuid = (s.keyfile.heap event.storage).getUuid) :
    TrackInv [] (s.trackEvents events) := by
  unfold NMSettings.trackEvents
  induction events generalizing s with
  | nil => exact inv
  | cons event events ih =>
    exact ih (inv.track (event_ok event mem_cons_self) (same_uuid event mem_cons_self))
      (fun other mem => event_ok other (mem_cons_of_mem event mem))
      (fun other mem => same_uuid other (mem_cons_of_mem event mem))

end Track

section Process

variable {plugins : List NMSettingsPlugin} {settFlags settMask : IntFlags} {override : Bool}
  {s : NMSettings} {uuid : Uuid} {entry : SettConnEntry} {sd : StorageData} {pending : List Nat}
  {s' : NMSettings} {queue : List Uuid}

theorem mem_sdsUpdate :
    sd ∈ NMSettings.sdsUpdate plugins s.keyfile entry ↔
      sd ∈ sdsMerge entry.sdLst entry.dirtySdLst ∧ NMSettings.isAlive s.keyfile sd = true := by
  unfold sdsUpdate
  rw [ListSort.mem_sort, mem_filter]

structure Processed (plugins : List NMSettingsPlugin) (s : NMSettings) (uuid : Uuid)
    (entry : SettConnEntry) (s' : NMSettings) : Prop where
  keyfile : s'.keyfile = s.keyfile
  files : s'.files = s.files
  queue : s'.sceDirtyLst = s.sceDirtyLst.erase uuid
  others : ∀ other, other ≠ uuid → s'.sceIdx other = s.sceIdx other
  connections : ∀ settConn < s.nextConnection, entry.settConn ≠ some settConn →
    s'.connections settConn = s.connections settConn
  next_le : s.nextConnection ≤ s'.nextConnection
  empty : NMSettings.sdsUpdate plugins s.keyfile entry = [] → s'.sceIdx uuid = none
  /-- A first storage without a connection hides the UUID. -/
  hidden : ∀ best, (NMSettings.sdsUpdate plugins s.keyfile entry).head? = some best →
    best.connection = none → s'.sceIdx uuid =
      some ⟨none, some best.storage, NMSettings.sdsUpdate plugins s.keyfile entry, []⟩
  /-- A first storage with a connection is exposed, as the same profile if there was one. -/
  exposed : ∀ best connection, (NMSettings.sdsUpdate plugins s.keyfile entry).head? = some best →
    best.connection = some connection → ∃ settConn, s'.sceIdx uuid =
        some ⟨some settConn, some best.storage, NMSettings.sdsUpdate plugins s.keyfile entry, []⟩ ∧
      (∀ before, entry.settConn = some before → settConn = before) ∧
      (entry.settConn = none → settConn = s.nextConnection) ∧
      (entry.settConn = none → settConn < s'.nextConnection) ∧
      (s'.connections settConn).storage = best.storage ∧
      (s'.connections settConn).connection = connection

theorem processOne_processed (entry_eq : s.sceIdx uuid = some entry) :
    Processed plugins s uuid entry
      (NMSettings.processOne plugins settFlags settMask override s uuid) := by
  unfold processOne
  rw [entry_eq]
  dsimp only
  cases list_eq : sdsUpdate plugins s.keyfile entry with
  | nil =>
    refine ⟨rfl, rfl, rfl, fun other different => if_neg different, fun _ _ _ => rfl, le_rfl,
      fun _ => if_pos rfl, ?_, ?_⟩
    · intro best impossible
      rw [list_eq] at impossible
      cases impossible
    · intro best connection impossible
      rw [list_eq] at impossible
      cases impossible
  | cons best rest =>
    have first : ∀ other, (sdsUpdate plugins s.keyfile entry).head? = some other →
        other = best := by
      intro other head_eq
      rw [list_eq] at head_eq
      exact (Option.some.inj head_eq).symm
    dsimp only [head?_cons]
    cases connection_eq : best.connection with
    | none =>
      refine ⟨rfl, rfl, rfl, fun other different => if_neg different, fun _ _ _ => rfl, le_rfl,
        fun impossible => ?_, ?_, ?_⟩
      · rw [list_eq] at impossible
        cases impossible
      · intro other head_eq _
        rw [first other head_eq, list_eq]
        exact if_pos rfl
      · intro other connection head_eq impossible
        rw [first other head_eq, connection_eq] at impossible
        cases impossible
    | some connection =>
      dsimp only
      unfold settConnFor
      cases settConn_eq : entry.settConn with
      | some settConn =>
        refine ⟨rfl, rfl, rfl, fun other different => if_neg different, ?_, le_rfl,
          fun impossible => ?_, ?_, ?_⟩
        · intro other _ different
          rw [settConn_eq] at different
          exact if_neg fun same => different (congrArg some same.symm)
        · rw [list_eq] at impossible
          cases impossible
        · intro other head_eq impossible
          rw [first other head_eq, connection_eq] at impossible
          cases impossible
        · intro other otherConnection head_eq other_connection
          obtain rfl := first other head_eq
          obtain rfl := Option.some.inj (connection_eq.symm.trans other_connection)
          rw [list_eq]
          refine ⟨settConn, if_pos rfl, ?_, ?_, ?_, ?_, ?_⟩
          · intro before before_eq
            exact Option.some.inj (settConn_eq.symm.trans before_eq)
          · intro impossible
            rw [settConn_eq] at impossible
            cases impossible
          · intro impossible
            rw [settConn_eq] at impossible
            cases impossible
          · exact congrArg NMSettingsConnection.storage (if_pos rfl)
          · exact congrArg NMSettingsConnection.connection (if_pos rfl)
      | none =>
        refine ⟨rfl, rfl, rfl, fun other different => if_neg different, ?_, Nat.le_succ _,
          fun impossible => ?_, ?_, ?_⟩
        · intro other old _
          exact (if_neg (Nat.ne_of_lt old)).trans (if_neg (Nat.ne_of_lt old))
        · rw [list_eq] at impossible
          cases impossible
        · intro other head_eq impossible
          rw [first other head_eq, connection_eq] at impossible
          cases impossible
        · intro other otherConnection head_eq other_connection
          obtain rfl := first other head_eq
          obtain rfl := Option.some.inj (connection_eq.symm.trans other_connection)
          rw [list_eq]
          refine ⟨s.nextConnection, if_pos rfl, ?_, fun _ => rfl,
            fun _ => Nat.lt_succ_self _, ?_, ?_⟩
          · intro before before_eq
            rw [settConn_eq] at before_eq
            cases before_eq
          · exact congrArg NMSettingsConnection.storage (if_pos rfl)
          · exact congrArg NMSettingsConnection.connection (if_pos rfl)

theorem unique_sdsUpdate (inv : EntryInv s pending uuid entry) :
    Unique (NMSettings.sdsUpdate plugins s.keyfile entry) := by
  have perm := (ListSort.sort_perm (sdsUpdateCmp s.keyfile.heap plugins)
    ((sdsMerge entry.sdLst entry.dirtySdLst).filter (isAlive s.keyfile))).map
      fun sd => sd.storage
  exact perm.nodup_iff.mpr
    ((inv.unique.sdsMerge inv.dirty_unique).sublist (filter_sublist.map _))

theorem tracked_of_mem_sdsUpdate (inv : EntryInv s pending uuid entry)
    (mem : sd ∈ NMSettings.sdsUpdate plugins s.keyfile entry)
    (is_meta : (s.keyfile.heap sd.storage).isMetaData.isSome = true) :
    sd.storage ∈ s.keyfile.storages.storageLst := by
  obtain ⟨merged, alive⟩ := mem_sdsUpdate.mp mem
  unfold isAlive at alive
  rw [(inv.merged_ok merged).metaData is_meta, Option.isSome_none, Bool.false_or] at alive
  exact (isMetaDataAlive_isSome.mp alive).1

theorem metaData_unique (keyfile : s.keyfile.Inv) {a b : Nat}
    (a_tracked : a ∈ s.keyfile.storages.storageLst) (b_tracked : b ∈ s.keyfile.storages.storageLst)
    (a_meta : (s.keyfile.heap a).isMetaData.isSome = true)
    (b_meta : (s.keyfile.heap b).isMetaData.isSome = true)
    (same_uuid : (s.keyfile.heap a).getUuid = (s.keyfile.heap b).getUuid)
    (same_type : (s.keyfile.heap a).storageType = (s.keyfile.heap b).storageType) : a = b := by
  refine keyfile.index.eq_of_getFilename a_tracked b_tracked ?_
  cases a_eq : s.keyfile.heap a with
  | keyfileMeta uuid type metaData =>
    cases b_eq : s.keyfile.heap b with
    | keyfileMeta otherUuid otherType otherMetaData =>
      rw [a_eq, b_eq] at same_uuid same_type
      simp only [getUuid, storageType, Option.some.injEq] at same_uuid same_type
      rw [same_uuid, same_type]
      rfl
    | _ => simp [b_eq, isMetaData] at b_meta
  | _ => simp [a_eq, isMetaData] at a_meta

/-- A tombstone in `/run` hides the UUID. -/
theorem head_of_runTombstone (keyfile : s.keyfile.Inv) (inv : EntryInv s pending uuid entry)
    (mem : sd ∈ NMSettings.sdsUpdate plugins s.keyfile entry)
    (run : (s.keyfile.heap sd.storage).isKeyfileRun = true)
    (is_meta : (s.keyfile.heap sd.storage).isMetaData.isSome = true) :
    (NMSettings.sdsUpdate plugins s.keyfile entry).head? = some sd := by
  have listed := mem
  unfold sdsUpdate at listed
  rw [ListSort.mem_sort] at listed
  have tombstone_of_meta : ∀ {storage}, (s.keyfile.heap storage).isMetaData.isSome = true →
      (s.keyfile.heap storage).isTombstone = true := by
    intro storage some_meta
    obtain ⟨metaData, metaData_eq⟩ := Option.isSome_iff_exists.mp some_meta
    unfold isTombstone
    rw [metaData_eq]
    exact keyfile.tombstone storage metaData metaData_eq
  refine ListSort.head_sort listed (dominates_runTombstone run (tombstone_of_meta is_meta) ?_)
  intro other other_mem other_run other_tombstone
  have other_listed : other ∈ sdsUpdate plugins s.keyfile entry :=
    ListSort.mem_sort.mpr other_mem
  have other_meta := isMetaData_of_isTombstone other_tombstone
  have same_uuid : (s.keyfile.heap other.storage).getUuid = (s.keyfile.heap sd.storage).getUuid := by
    rw [(inv.merged_ok (mem_sdsUpdate.mp other_listed).1).uuid_eq,
      (inv.merged_ok (mem_sdsUpdate.mp mem).1).uuid_eq]
  have same_type :
      (s.keyfile.heap other.storage).storageType = (s.keyfile.heap sd.storage).storageType := by
    unfold isKeyfileRun at run other_run
    rw [of_decide_eq_true run, of_decide_eq_true other_run]
  have same_storage := metaData_unique keyfile (tracked_of_mem_sdsUpdate inv other_listed other_meta)
    (tracked_of_mem_sdsUpdate inv mem is_meta) other_meta is_meta same_uuid same_type
  have unique : Unique (sdsUpdate plugins s.keyfile entry) := unique_sdsUpdate inv
  exact unique.eq other_listed mem same_storage

theorem Exposes.uuid_eq {settConn : Nat} (exposes : Exposes s entry settConn)
    (inv : EntryInv s pending uuid entry) :
    (s.keyfile.heap (s.connections settConn).storage).getUuid = uuid := by
  obtain ⟨sd, mem, storage_eq, -⟩ := exposes.listed
  rw [← storage_eq, (inv.sd_ok sd mem).uuid_eq]

theorem Processed.entryInv (done : Processed plugins s uuid entry s') (keyfile : s.keyfile.Inv)
    (inv : EntryInv s [] uuid entry) {entry' : SettConnEntry}
    (entry_eq : s'.sceIdx uuid = some entry') :
    EntryInv s' [] uuid entry' ∧ entry'.dirtySdLst = [] := by
  have list_unique : Unique (sdsUpdate plugins s.keyfile entry) := unique_sdsUpdate inv
  have list_ok : ∀ sd ∈ sdsUpdate plugins s.keyfile entry, SdOk s'.keyfile uuid sd := by
    intro sd mem
    rw [done.keyfile]
    exact inv.merged_ok (mem_sdsUpdate.mp mem).1
  have list_synced : ∀ sd ∈ sdsUpdate plugins s.keyfile entry, Synced s'.keyfile sd := by
    intro sd mem
    rw [done.keyfile]
    exact inv.synced sd (mem_sdsUpdate.mp mem).1 not_mem_nil
  have build : ∀ settConn storage,
      entry' = ⟨settConn, storage, sdsUpdate plugins s.keyfile entry, []⟩ →
      (∀ c, entry'.settConn = some c → Exposes s' entry' c) →
      EntryInv s' [] uuid entry' ∧ entry'.dirtySdLst = [] := by
    intro settConn storage shape exposes
    subst shape
    refine ⟨⟨list_unique, nodup_nil, list_ok, forall_mem_nil _, ?_, ?_, exposes,
      fun changed => absurd rfl changed⟩, rfl⟩
    · intro sd mem _
      rw [sdsMerge_nil] at mem
      exact list_synced sd mem
    · intro sd mem _
      rw [done.keyfile]
      exact Or.inl (mem_sdsUpdate.mp mem).2
  cases list_eq : sdsUpdate plugins s.keyfile entry with
  | nil =>
    rw [done.empty list_eq] at entry_eq
    cases entry_eq
  | cons best rest =>
    have head_eq : (sdsUpdate plugins s.keyfile entry).head? = some best := by
      rw [list_eq]
      rfl
    have best_mem : best ∈ sdsUpdate plugins s.keyfile entry := by
      rw [list_eq]
      exact mem_cons_self
    cases connection_eq : best.connection with
    | none =>
      rw [done.hidden best head_eq connection_eq, Option.some.injEq] at entry_eq
      refine build none (some best.storage) entry_eq.symm fun c impossible => ?_
      rw [← entry_eq] at impossible
      cases impossible
    | some connection =>
      obtain ⟨settConn, new_eq, same, fresh, new_lt, storage_eq, new_connection⟩ :=
        done.exposed best connection head_eq connection_eq
      rw [new_eq, Option.some.injEq] at entry_eq
      refine build (some settConn) (some best.storage) entry_eq.symm fun c c_eq => ?_
      rw [← entry_eq] at c_eq
      obtain rfl := Option.some.inj c_eq
      subst entry_eq
      refine ⟨?_, ?_, ⟨best, best_mem, storage_eq.symm, ?_⟩, ?_⟩
      · cases before_eq : entry.settConn with
        | none => exact new_lt before_eq
        | some before =>
          rw [same before before_eq]
          exact Nat.lt_of_lt_of_le (inv.exposes before before_eq).allocated done.next_le
      · rw [storage_eq]
      · rw [connection_eq, new_connection]
      · intro sd mem run
        rw [done.keyfile] at run ⊢
        by_contra is_meta
        rw [Bool.not_eq_false] at is_meta
        have first : (sdsUpdate plugins s.keyfile entry).head? = some sd :=
          head_of_runTombstone keyfile inv mem run is_meta
        rw [head_eq, Option.some.injEq] at first
        have no_connection := (list_ok sd mem).metaData (by rw [done.keyfile]; exact is_meta)
        rw [← first, connection_eq] at no_connection
        cases no_connection

theorem Processed.nonempty (done : Processed plugins s uuid entry s') {entry' : SettConnEntry}
    (entry_eq : s'.sceIdx uuid = some entry') :
    entry'.sdLst ≠ [] ∨ entry'.dirtySdLst ≠ [] := by
  cases list_eq : sdsUpdate plugins s.keyfile entry with
  | nil =>
    rw [done.empty list_eq] at entry_eq
    cases entry_eq
  | cons best rest =>
    have head_eq : (sdsUpdate plugins s.keyfile entry).head? = some best := by
      rw [list_eq]
      rfl
    left
    cases connection_eq : best.connection with
    | none =>
      rw [done.hidden best head_eq connection_eq, Option.some.injEq] at entry_eq
      rw [← entry_eq, list_eq]
      exact cons_ne_nil _ _
    | some connection =>
      obtain ⟨settConn, new_eq, -⟩ := done.exposed best connection head_eq connection_eq
      rw [new_eq, Option.some.injEq] at entry_eq
      rw [← entry_eq, list_eq]
      exact cons_ne_nil _ _

theorem TrackInv.processed (inv : TrackInv [] s) (entry_eq : s.sceIdx uuid = some entry)
    (done : Processed plugins s uuid entry s') :
    TrackInv [] s' := by
  have entry_inv := inv.entry uuid entry entry_eq
  refine ⟨by rw [done.keyfile]; exact inv.keyfile, by rw [done.queue]; exact inv.queue_nodup.erase _,
    ?_, ?_, ?_⟩
  · intro other queued
    rw [done.queue, inv.queue_nodup.mem_erase_iff] at queued
    rw [done.others other queued.1]
    exact inv.queue_entry other queued.2
  · intro other otherEntry other_eq
    by_cases same : other = uuid
    · subst same
      exact done.nonempty other_eq
    · rw [done.others other same] at other_eq
      exact inv.nonempty other otherEntry other_eq
  · intro other otherEntry other_eq
    by_cases same : other = uuid
    · subst same
      exact (done.entryInv inv.keyfile entry_inv other_eq).1
    · rw [done.others other same] at other_eq
      have old := inv.entry other otherEntry other_eq
      refine ⟨old.unique, old.dirty_unique, ?_, ?_, ?_, ?_, ?_, ?_⟩
      · rw [done.keyfile]
        exact old.sd_ok
      · rw [done.keyfile]
        exact old.dirty_ok
      · rw [done.keyfile]
        exact old.synced
      · rw [done.keyfile]
        exact old.live
      · intro settConn settConn_eq
        have exposes := old.exposes settConn settConn_eq
        have apart : entry.settConn ≠ some settConn := by
          intro shared
          have first := (entry_inv.exposes settConn shared).uuid_eq entry_inv
          exact same ((exposes.uuid_eq old).symm.trans first)
        have kept := done.connections settConn exposes.allocated apart
        refine ⟨Nat.lt_of_lt_of_le exposes.allocated done.next_le, ?_, ?_, ?_⟩
        · rw [kept]
          exact exposes.storage
        · rw [kept]
          exact exposes.listed
        · rw [done.keyfile]
          exact exposes.unhidden
      · intro changed
        rw [done.queue, inv.queue_nodup.mem_erase_iff]
        exact ⟨same, old.queued changed⟩

theorem Processed.connections_kept (done : Processed plugins s uuid entry s') (inv : TrackInv [] s)
    (entry_eq : s.sceIdx uuid = some entry) {other : Uuid} {otherEntry : SettConnEntry}
    (different : other ≠ uuid) (other_eq : s.sceIdx other = some otherEntry) {settConn : Nat}
    (exposed : otherEntry.settConn = some settConn) :
    s'.connections settConn = s.connections settConn := by
  have entry_inv := inv.entry uuid entry entry_eq
  have other_inv := inv.entry other otherEntry other_eq
  have exposes := other_inv.exposes settConn exposed
  refine done.connections settConn exposes.allocated fun shared => different ?_
  exact (exposes.uuid_eq other_inv).symm.trans
    ((entry_inv.exposes settConn shared).uuid_eq entry_inv)

variable (plugins settFlags settMask override) in
theorem TrackInv.processFirst {first : Uuid} (inv : TrackInv [] s)
    (queue_eq : s.sceDirtyLst = first :: queue) :
    ∃ firstEntry, s.sceIdx first = some firstEntry ∧
      Processed plugins s first firstEntry
        (NMSettings.processOne plugins settFlags settMask override s first) ∧
      TrackInv [] (NMSettings.processOne plugins settFlags settMask override s first) ∧
      (NMSettings.processOne plugins settFlags settMask override s first).sceDirtyLst = queue ∧
      first ∉ queue := by
  obtain ⟨firstEntry, first_eq⟩ := Option.isSome_iff_exists.mp
    (inv.queue_entry first (by rw [queue_eq]; exact mem_cons_self))
  have done : Processed plugins s first firstEntry
      (processOne plugins settFlags settMask override s first) :=
    processOne_processed first_eq
  have nodup := inv.queue_nodup
  rw [queue_eq, nodup_cons] at nodup
  refine ⟨firstEntry, first_eq, done, inv.processed first_eq done, ?_, nodup.1⟩
  rw [done.queue, queue_eq, erase_cons_head]

variable (plugins settFlags settMask override) in
theorem foldl_processOne_frame (inv : TrackInv [] s) (queue_eq : s.sceDirtyLst = queue)
    (absent : uuid ∉ queue) :
    (queue.foldl (NMSettings.processOne plugins settFlags settMask override) s).sceIdx uuid =
        s.sceIdx uuid ∧
      ∀ entry settConn, s.sceIdx uuid = some entry → entry.settConn = some settConn →
        (queue.foldl (NMSettings.processOne plugins settFlags settMask override) s).connections
          settConn = s.connections settConn := by
  induction queue generalizing s with
  | nil => exact ⟨rfl, fun _ _ _ _ => rfl⟩
  | cons first queue ih =>
    obtain ⟨firstEntry, first_eq, done, next_inv, step_queue, -⟩ :=
      inv.processFirst plugins settFlags settMask override queue_eq
    have different : uuid ≠ first := fun same => absent (same ▸ mem_cons_self)
    obtain ⟨later_entry, later_connections⟩ := ih next_inv step_queue
      fun mem => absent (mem_cons_of_mem first mem)
    rw [done.others uuid different] at later_entry later_connections
    refine ⟨later_entry, fun entry settConn entry_eq exposed => ?_⟩
    refine (later_connections entry settConn entry_eq exposed).trans ?_
    exact done.connections_kept inv first_eq different entry_eq exposed

/-- What happens to a queued entry when all entries are processed. -/
structure EntryProcessed (list : List StorageData) (before : Option Nat) (uuid : Uuid)
    (s' : NMSettings) : Prop where
  empty : list = [] → s'.sceIdx uuid = none
  /-- A first storage without a connection hides the UUID. -/
  hidden : ∀ best, list.head? = some best → best.connection = none →
    s'.sceIdx uuid = some ⟨none, some best.storage, list, []⟩
  /-- A first storage with a connection is exposed, as the same profile if there was one. -/
  exposed : ∀ best connection, list.head? = some best → best.connection = some connection →
    ∃ settConn, s'.sceIdx uuid = some ⟨some settConn, some best.storage, list, []⟩ ∧
      (∀ old, before = some old → settConn = old) ∧
      (s'.connections settConn).storage = best.storage ∧
      (s'.connections settConn).connection = connection

theorem foldl_processOne_entry (inv : TrackInv [] s) (queue_eq : s.sceDirtyLst = queue)
    (queued : uuid ∈ queue) (entry_eq : s.sceIdx uuid = some entry) :
    EntryProcessed (NMSettings.sdsUpdate plugins s.keyfile entry) entry.settConn uuid
      (queue.foldl (NMSettings.processOne plugins settFlags settMask override) s) := by
  induction queue generalizing s with
  | nil => exact absurd queued not_mem_nil
  | cons first queue ih =>
    obtain ⟨firstEntry, first_eq, done, next_inv, step_queue, not_queued⟩ :=
      inv.processFirst plugins settFlags settMask override queue_eq
    by_cases same : uuid = first
    · subst same
      obtain rfl := Option.some.inj (entry_eq.symm.trans first_eq)
      obtain ⟨later_entry, later_connections⟩ :=
        foldl_processOne_frame plugins settFlags settMask override next_inv step_queue not_queued
      refine ⟨fun empty => later_entry.trans (done.empty empty),
        fun best head_eq no_connection => later_entry.trans (done.hidden best head_eq no_connection),
        fun best connection head_eq some_connection => ?_⟩
      obtain ⟨settConn, new_eq, kept, -, -, storage_eq, connection_eq⟩ :=
        done.exposed best connection head_eq some_connection
      have unchanged := later_connections _ settConn new_eq rfl
      refine ⟨settConn, later_entry.trans new_eq, kept, ?_, ?_⟩
      · exact (congrArg NMSettingsConnection.storage unchanged).trans storage_eq
      · exact (congrArg NMSettingsConnection.connection unchanged).trans connection_eq
    · have later := ih next_inv step_queue ((mem_cons.mp queued).resolve_left same)
        ((done.others uuid same).trans entry_eq)
      rw [done.keyfile] at later
      exact later

theorem foldl_processOne_settled (inv : TrackInv [] s) (queue_eq : s.sceDirtyLst = queue) :
    Settled (queue.foldl (NMSettings.processOne plugins settFlags settMask override) s) ∧
      (queue.foldl (NMSettings.processOne plugins settFlags settMask override) s).keyfile =
        s.keyfile ∧
      (queue.foldl (NMSettings.processOne plugins settFlags settMask override) s).files =
        s.files := by
  induction queue generalizing s with
  | nil => exact ⟨⟨inv, queue_eq⟩, rfl, rfl⟩
  | cons first queue ih =>
    obtain ⟨firstEntry, first_eq, done, next_inv, step_queue, -⟩ :=
      inv.processFirst plugins settFlags settMask override queue_eq
    obtain ⟨settled, keyfile_eq, files_eq⟩ := ih next_inv step_queue
    exact ⟨settled, keyfile_eq.trans done.keyfile, files_eq.trans done.files⟩

section All

variable (plugins) (settFlags settMask) (override)

theorem TrackInv.processAllDirty (inv : TrackInv [] s) :
    Settled (s.processAllDirty plugins settFlags settMask override) :=
  (foldl_processOne_settled inv rfl).1

theorem processAllDirty_keyfile (inv : TrackInv [] s) :
    (s.processAllDirty plugins settFlags settMask override).keyfile = s.keyfile :=
  (foldl_processOne_settled inv rfl).2.1

theorem TrackInv.entryProcessed (inv : TrackInv [] s) (queued : uuid ∈ s.sceDirtyLst)
    (entry_eq : s.sceIdx uuid = some entry) :
    EntryProcessed (NMSettings.sdsUpdate plugins s.keyfile entry) entry.settConn uuid
      (s.processAllDirty plugins settFlags settMask override) :=
  foldl_processOne_entry inv rfl queued entry_eq

theorem processAllDirty_unqueued (inv : TrackInv [] s) (unqueued : uuid ∉ s.sceDirtyLst) :
    (s.processAllDirty plugins settFlags settMask override).sceIdx uuid = s.sceIdx uuid ∧
      ∀ entry settConn, s.sceIdx uuid = some entry → entry.settConn = some settConn →
        (s.processAllDirty plugins settFlags settMask override).connections settConn =
          s.connections settConn :=
  foldl_processOne_frame plugins settFlags settMask override inv rfl unqueued

end All

end Process

end NetworkManager
