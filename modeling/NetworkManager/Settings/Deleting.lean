import NetworkManager.Settings.Writing

/-!
# Deleting the storages of a profile

`nm_settings_delete_connection` drops the storage of the profile, and the storage that it shadows if
it owns it.  Whatever is left of the UUID has to be hidden.
-/

namespace NetworkManager

open List

open NMSettingsStorage Option

namespace NMSettings

/-- Whether a storage will be hidden: by a tombstone in `/run`, or if it is not there, by one on
disk. -/
def Deleting.Hides (st : Deleting) (isRun : Bool) : Prop :=
  st.tombstoneInMemory = true ∨ isRun = false ∧ st.tombstoneOnDisk = true

/-- Tombstones to set are not forgotten. -/
structure Deleting.Mono (st st' : Deleting) : Prop where
  onDisk : st.tombstoneOnDisk = true → st'.tombstoneOnDisk = true
  inMemory : st.tombstoneInMemory = true → st'.tombstoneInMemory = true

namespace Deleting

variable {dirs : KeyfileDirs} {st st' st'' : Deleting} {dropStorages : List Nat} {unowned : Option Nat}
  {uuid : Uuid} {curStorage : Nat} {outcome : FileOutcome}

theorem Mono.refl (st : Deleting) : Mono st st := ⟨id, id⟩

theorem Mono.trans (first : Mono st st') (second : Mono st' st'') : Mono st st'' :=
  ⟨second.onDisk ∘ first.onDisk, second.inMemory ∘ first.inMemory⟩

theorem Mono.hides (mono : Mono st st') {isRun : Bool} (hides : st.Hides isRun) : st'.Hides isRun :=
  hides.imp mono.inMemory fun ⟨not_run, onDisk⟩ => ⟨not_run, mono.onDisk onDisk⟩

def Left (dropStorages : List Nat) (keyfile : NMSKeyfilePlugin) (sd : StorageData) : Prop :=
  sd.storage ∉ dropStorages ∧ isAlive keyfile sd = true ∧
    (keyfile.heap sd.storage).isMetaData.isSome = false

theorem hide_spec (st : Deleting) (sd : StorageData) :
    (hide dropStorages unowned st sd).settings = st.settings ∧
      Mono st (hide dropStorages unowned st sd) ∧
      (Left dropStorages st.settings.keyfile sd → (hide dropStorages unowned st sd).Hides
        (st.settings.keyfile.heap sd.storage).isKeyfileRun) := by
  unfold hide
  dsimp only
  split
  · rename_i dropped
    exact ⟨rfl, Mono.refl st, fun left => absurd dropped left.1⟩
  · split
    · rename_i dead
      refine ⟨rfl, Mono.refl st, fun left => ?_⟩
      rw [left.2.1] at dead
      cases dead
    · split
      · rename_i is_meta
        refine ⟨rfl, Mono.refl st, fun left => ?_⟩
        rw [left.2.2] at is_meta
        cases is_meta
      · split
        · exact ⟨rfl, ⟨id, fun _ => rfl⟩, fun _ => Or.inl rfl⟩
        · split
          · exact ⟨rfl, ⟨id, fun _ => rfl⟩, fun _ => Or.inl rfl⟩
          · rename_i not_run
            rw [Bool.not_eq_true] at not_run
            exact ⟨rfl, ⟨fun _ => rfl, id⟩, fun _ => Or.inr ⟨not_run, rfl⟩⟩

theorem foldl_hide_spec (sds : List StorageData) (st : Deleting) :
    (sds.foldl (hide dropStorages unowned) st).settings = st.settings ∧
      Mono st (sds.foldl (hide dropStorages unowned) st) ∧
      ∀ sd ∈ sds, Left dropStorages st.settings.keyfile sd →
        (sds.foldl (hide dropStorages unowned) st).Hides
          (st.settings.keyfile.heap sd.storage).isKeyfileRun := by
  induction sds generalizing st with
  | nil => exact ⟨rfl, Mono.refl st, forall_mem_nil _⟩
  | cons sd sds ih =>
    obtain ⟨first_settings, first_mono, first_hides⟩ :=
      @hide_spec dropStorages unowned st sd
    obtain ⟨later_settings, later_mono, later_hides⟩ := ih (hide dropStorages unowned st sd)
    rw [first_settings] at later_settings later_hides
    refine ⟨later_settings, first_mono.trans later_mono, fun other mem left => ?_⟩
    rcases mem_cons.mp mem with rfl | rest
    · exact later_mono.hides (first_hides left)
    · exact later_hides other rest left

/-- What the loop over the storages to drop brings about. -/
structure Dropped (dirs : KeyfileDirs) (outcome : FileOutcome) (entry : SettConnEntry)
    (curStorage : Nat) (dropStorages todo : List Nat) (st st' : Deleting) : Prop where
  /-- Storages that can be deleted are reported. -/
  retracts : Retracts dirs st.settings
    (todo.filter (deletable st.settings.keyfile.heap outcome)).reverse st'.settings
  mono : Mono st st'
  /-- Storages that cannot be deleted will be hidden like the profile. -/
  undeletable : ∀ storage ∈ todo, deletable st.settings.keyfile.heap outcome storage = false →
    st'.Hides (st.settings.keyfile.heap curStorage).isKeyfileRun
  hidden : todo ≠ [] → ∀ sd ∈ entry.sdLst, Left dropStorages st'.settings.keyfile sd →
    st'.Hides (st'.settings.keyfile.heap sd.storage).isKeyfileRun

theorem drop_dropped {entry : SettConnEntry} {storage : Nat} (inv : TrackInv [] st.settings)
    (entry_eq : st.settings.sceIdx uuid = some entry)
    (holds : HoldsProfile st.settings uuid storage) :
    Dropped dirs outcome entry curStorage dropStorages [storage] st
      (drop uuid curStorage dropStorages unowned outcome st storage) := by
  unfold drop
  dsimp only
  cases result : st.settings.pluginDeleteConnection storage outcome with
  | ok s' =>
    have can := (pluginDeleteConnection_isOk st.settings storage outcome).mp ⟨s', result⟩
    have retracts : Retracts dirs st.settings [storage] (s'.track storage none false) :=
      retracts_delete inv.keyfile holds.allocated holds.tracked result
    obtain ⟨dirty, dirty_eq, -⟩ := retracts.changes inv entry_eq
    dsimp only
    rw [dirty_eq, getD_some]
    dsimp only
    obtain ⟨settings_eq, mono, hides⟩ := @foldl_hide_spec dropStorages unowned entry.sdLst
      { st with settings := s'.track storage none false }
    refine ⟨?_, ⟨mono.onDisk, mono.inMemory⟩, ?_, fun _ sd mem left => ?_⟩
    · rw [settings_eq, filter_cons_of_pos can]
      exact retracts
    · intro other mem cannot
      rw [mem_singleton.mp mem, can] at cannot
      cases cannot
    · rw [settings_eq] at left ⊢
      exact hides sd mem left
  | error message =>
    have cannot : deletable st.settings.keyfile.heap outcome storage = false := by
      by_contra can
      rw [Bool.not_eq_false] at can
      obtain ⟨s', ok⟩ := (pluginDeleteConnection_isOk st.settings storage outcome).mpr can
      rw [result] at ok
      cases ok
    dsimp only
    have flagged : ∃ st', (if (st.settings.keyfile.heap curStorage).isKeyfileRun = true then
          ({ st with tombstoneInMemory := true } : Deleting)
        else { st with tombstoneOnDisk := true }) = st' ∧ st'.settings = st.settings ∧
        Mono st st' ∧ st'.Hides (st.settings.keyfile.heap curStorage).isKeyfileRun := by
      refine ⟨_, rfl, ?_⟩
      split
      · exact ⟨rfl, ⟨id, fun _ => rfl⟩, Or.inl rfl⟩
      · rename_i not_run
        rw [Bool.not_eq_true] at not_run
        exact ⟨rfl, ⟨fun _ => rfl, id⟩, Or.inr ⟨not_run, rfl⟩⟩
    obtain ⟨st', st'_eq, same, first_mono, first_hides⟩ := flagged
    rw [st'_eq, same, entry_eq, getD_some]
    obtain ⟨settings_eq, mono, hides⟩ := @foldl_hide_spec dropStorages unowned entry.sdLst st'
    rw [same] at settings_eq hides
    refine ⟨?_, first_mono.trans mono, ?_, fun _ sd mem left => ?_⟩
    · rw [settings_eq, filter_cons_of_neg (by rw [cannot]; exact Bool.false_ne_true)]
      exact Retracts.refl
    · exact fun _ _ _ => mono.hides first_hides
    · rw [settings_eq] at left ⊢
      exact hides sd mem left

theorem filter_deletable {s s' : NMSettings} {storages todo : List Nat}
    (retracts : Retracts dirs s storages s')
    (allocated : ∀ storage ∈ todo, storage < s.keyfile.next) :
    todo.filter (deletable s'.keyfile.heap outcome) =
      todo.filter (deletable s.keyfile.heap outcome) :=
  filter_congr fun storage mem =>
    deletable_eq_of_identity (retracts.identity (allocated storage mem)) outcome

theorem holdsProfile_retracts {s s' : NMSettings} {storages : List Nat} {storage : Nat}
    (holds : HoldsProfile s uuid storage) (retracts : Retracts dirs s storages s')
    (unreported : storage ∉ storages) : HoldsProfile s' uuid storage := by
  have identity := retracts.identity holds.allocated
  refine ⟨Nat.lt_of_lt_of_le holds.allocated retracts.next_le, ?_, ?_, fun is_keyfile => ?_⟩
  · rw [isMetaData_eq_of_identity identity]
    exact holds.profile
  · rw [getUuid_eq_of_identity identity]
    exact holds.uuid_eq
  · rw [getPlugin_eq_of_identity identity] at is_keyfile
    exact retracts.stays (holds.tracked is_keyfile) unreported

theorem foldl_drop_dropped {entry : SettConnEntry} {todo : List Nat} (inv : TrackInv [] st.settings)
    (entry_eq : st.settings.sceIdx uuid = some entry) (nodup : todo.Nodup)
    (holds : ∀ storage ∈ todo, HoldsProfile st.settings uuid storage)
    (cur_allocated : curStorage < st.settings.keyfile.next) :
    Dropped dirs outcome entry curStorage dropStorages todo st
      (todo.foldl (drop uuid curStorage dropStorages unowned outcome) st) := by
  induction todo generalizing st entry with
  | nil =>
    exact ⟨Retracts.refl, Mono.refl st, forall_mem_nil _, fun impossible =>
      absurd rfl impossible⟩
  | cons storage todo ih =>
    rw [nodup_cons] at nodup
    have first : Dropped dirs outcome entry curStorage dropStorages [storage] st
        (drop uuid curStorage dropStorages unowned outcome st storage) :=
      drop_dropped inv entry_eq (holds storage mem_cons_self)
    have unreported : ∀ other ∈ todo, other ∉
        ([storage].filter (deletable st.settings.keyfile.heap outcome)).reverse := by
      intro other mem reported
      rw [mem_reverse, mem_filter, mem_singleton] at reported
      exact nodup.1 (reported.1 ▸ mem)
    have rest_allocated : ∀ other ∈ todo, other < st.settings.keyfile.next := fun other mem =>
      (holds other (mem_cons_of_mem storage mem)).allocated
    obtain ⟨dirty, dirty_eq, -⟩ := first.retracts.changes inv entry_eq
    have later := ih (first.retracts.trackInv inv) dirty_eq nodup.2
      (fun other mem => holdsProfile_retracts (holds other (mem_cons_of_mem storage mem))
        first.retracts (unreported other mem))
      (Nat.lt_of_lt_of_le cur_allocated first.retracts.next_le)
    have run_eq := isKeyfileRun_eq_of_identity (first.retracts.identity cur_allocated)
    refine ⟨?_, first.mono.trans later.mono, ?_, fun _ => ?_⟩
    · have both := first.retracts.trans later.retracts
      rw [filter_deletable first.retracts rest_allocated, ← reverse_append, ← filter_append] at both
      exact both
    · intro other mem cannot
      rcases mem_cons.mp mem with rfl | rest
      · exact later.mono.hides (first.undeletable other (mem_singleton_self _) cannot)
      · have still : deletable (drop uuid curStorage dropStorages unowned outcome st
            storage).settings.keyfile.heap outcome other = false := by
          rw [deletable_eq_of_identity (first.retracts.identity (rest_allocated other rest))]
          exact cannot
        have hides := later.undeletable other rest still
        rw [run_eq] at hides
        exact hides
    · cases todo with
      | nil => exact first.hidden (cons_ne_nil _ _)
      | cons _ _ => exact later.hidden (cons_ne_nil _ _)

end Deleting

variable {cfg : SettingsConfig} {s : NMSettings} {uuid : Uuid} {entry : SettConnEntry}
  {settConn : Nat} {outcome : FileOutcome}

/-- The storages that `nm_settings_delete_connection` drops. -/
def dropStorages (s : NMSettings) (entry : SettConnEntry) (curStorage : Nat) : List Nat :=
  (if (s.keyfile.heap curStorage).isKeyfileLib then [] else [curStorage]) ++
    (if (s.keyfile.heap curStorage).getShadowedStorage.2 then
      entry.findShadowedStorage s.keyfile.heap (s.keyfile.heap curStorage).getShadowedStorage.1
        (some curStorage)
    else none).toList

theorem dropStorages_nodup (s : NMSettings) (entry : SettConnEntry) (curStorage : Nat) :
    (dropStorages s entry curStorage).Nodup := by
  unfold dropStorages
  refine nodup_append.mpr ⟨?_, ?_, ?_⟩
  · split
    · exact nodup_nil
    · exact nodup_singleton _
  · exact toList_nodup _
  · intro a a_mem b b_mem same
    split at a_mem
    · exact absurd a_mem not_mem_nil
    · split at b_mem
      · obtain ⟨sd, -, -, -, different, -⟩ :=
          findShadowedStorage_eq_some (mem_toList.mp b_mem)
        rw [mem_singleton.mp a_mem] at same
        exact different (congrArg some same)
      · exact absurd b_mem not_mem_nil

theorem dropStorages_holds (settled : Settled s) (entry_eq : s.sceIdx uuid = some entry)
    {curStorage : Nat} (cur : HoldsProfile s uuid curStorage) {storage : Nat}
    (mem : storage ∈ dropStorages s entry curStorage) : HoldsProfile s uuid storage := by
  unfold dropStorages at mem
  rcases mem_append.mp mem with is_cur | shadowed
  · split at is_cur
    · exact absurd is_cur not_mem_nil
    · exact mem_singleton.mp is_cur ▸ cur
  · split at shadowed
    · obtain ⟨sd, sd_mem, rfl, connected, -⟩ :=
        findShadowedStorage_eq_some (mem_toList.mp shadowed)
      exact settled.holdsProfile entry_eq sd_mem connected
    · exact absurd shadowed not_mem_nil

/-- What happens when an exposed profile is deleted. -/
structure Deletes (cfg : SettingsConfig) (s : NMSettings) (uuid : Uuid) (entry : SettConnEntry)
    (curStorage : Nat) (outcome : FileOutcome) (st : Deleting) (tombstones : List Nat)
    (after : NMSettings) : Prop where
  dropped : Deleting.Dropped cfg.dirs outcome entry curStorage (dropStorages s entry curStorage)
    (dropStorages s entry curStorage)
    ⟨s, (s.keyfile.heap curStorage).isKeyfileLib, false, none⟩ st
  hidden : TombstonesSet cfg.dirs st.settings uuid
    (st.tombstoneOnDisk && cfg.dirs.hasEtc && outcome.nmmeta .etc)
    (st.tombstoneInMemory || st.tombstoneOnDisk && !writableOnDisk cfg outcome) tombstones after

theorem deleteConnection_deletes (settled : Settled s)
    (exposed : s.getConnectionByUuid uuid = some settConn) :
    ∃ entry st tombstones after, s.sceIdx uuid = some entry ∧ entry.settConn = some settConn ∧
      HoldsProfile s uuid (s.connections settConn).storage ∧
      Deletes cfg s uuid entry (s.connections settConn).storage outcome st tombstones after ∧
      s.deleteConnection cfg settConn outcome =
        after.processAllDirty cfg.plugins .none .none false := by
  obtain ⟨entry, entry_eq, settConn_eq, exposes, cur, -⟩ := settled.exposed exposed
  unfold deleteConnection
  dsimp only
  rw [cur.uuid_eq, entry_eq]
  dsimp only
  rw [if_neg (fun different => different exposes.storage)]
  have dropped : ∀ unowned, Deleting.Dropped cfg.dirs outcome entry (s.connections settConn).storage
      (dropStorages s entry (s.connections settConn).storage)
      (dropStorages s entry (s.connections settConn).storage)
      ⟨s, (s.keyfile.heap (s.connections settConn).storage).isKeyfileLib, false, none⟩ _ :=
    fun unowned => @Deleting.foldl_drop_dropped cfg.dirs
      ⟨s, (s.keyfile.heap (s.connections settConn).storage).isKeyfileLib, false, none⟩
      (dropStorages s entry (s.connections settConn).storage) unowned uuid
      (s.connections settConn).storage outcome entry _ settled.toTrackInv entry_eq
      (dropStorages_nodup s entry _)
      (fun storage mem => dropStorages_holds settled entry_eq cur mem) cur.allocated
  have finish : ∀ {st}, Deleting.Dropped cfg.dirs outcome entry (s.connections settConn).storage
      (dropStorages s entry (s.connections settConn).storage)
      (dropStorages s entry (s.connections settConn).storage)
      ⟨s, (s.keyfile.heap (s.connections settConn).storage).isKeyfileLib, false, none⟩ st →
      ∃ tombstones, Deletes cfg s uuid entry (s.connections settConn).storage outcome st tombstones
        (st.settings.setNmmetaTombstone cfg uuid st.tombstoneOnDisk st.tombstoneInMemory
          st.newShadowedStorageFilename outcome) := by
    intro st st_dropped
    obtain ⟨tombstones, set⟩ := @setNmmetaTombstone_set cfg st.settings uuid
      (st_dropped.retracts.keyfile_inv settled.keyfile) st.tombstoneOnDisk st.tombstoneInMemory
      st.newShadowedStorageFilename outcome
    exact ⟨tombstones, st_dropped, set⟩
  unfold dropStorages at dropped finish
  cases owned : (s.keyfile.heap (s.connections settConn).storage).getShadowedStorage.2 with
  | true =>
    rw [owned] at dropped finish
    obtain ⟨tombstones, deletes⟩ := finish (dropped none)
    exact ⟨entry, _, tombstones, _, rfl, settConn_eq, cur, deletes, rfl⟩
  | false =>
    rw [owned] at dropped finish
    obtain ⟨tombstones, deletes⟩ := finish (dropped _)
    exact ⟨entry, _, tombstones, _, rfl, settConn_eq, cur, deletes, rfl⟩

end NMSettings

end NetworkManager
