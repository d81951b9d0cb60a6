import NetworkManager.Settings.OperationsInv

/-!
# Storages that are taken back

After a profile was written or deleted, the operations only report storages without a connection:
those whose files were deleted, and tombstones.  Such reports leave the other changes alone.
-/

namespace NetworkManager

open NMSettingsStorage

open List Option

/-- The settings `s'` are reached from `s` by reporting storages without a connection. -/
inductive Retracts (dirs : KeyfileDirs) (s : NMSettings) : List Nat → NMSettings → Prop
  | refl : Retracts dirs s [] s
  | report {storages : List Nat} {s' : NMSettings} {p' : NMSKeyfilePlugin} {storage : Nat}
      (earlier : Retracts dirs s storages s')
      (step : NMSKeyfilePlugin.Step s'.keyfile p' [⟨storage, none⟩])
      (placed : s'.keyfile.Placed dirs → p'.Placed dirs) :
      Retracts dirs s (storage :: storages) ({ s' with keyfile := p' }.track storage none false)

namespace Retracts

variable {dirs : KeyfileDirs} {s s' s'' : NMSettings} {storages more : List Nat} {uuid : Uuid}
  {entry : SettConnEntry}

theorem trans (first : Retracts dirs s storages s') (second : Retracts dirs s' more s'') :
    Retracts dirs s (more ++ storages) s'' := by
  induction second with
  | refl => exact first
  | report _ step placed ih => exact ih.report step placed

section

variable (run : Retracts dirs s storages s')

include run

theorem trackInv (inv : TrackInv [] s) : TrackInv [] s' := by
  induction run with
  | refl => exact inv
  | report _ step _ ih =>
    refine (ih.step step _).track (step.event _ (mem_singleton_self _)) fun c c_eq => ?_
    cases c_eq

theorem keyfile_inv (inv : s.keyfile.Inv) : s'.keyfile.Inv := by
  induction run with
  | refl => exact inv
  | report _ step _ _ => exact step.inv

theorem placed (before : s.keyfile.Placed dirs) : s'.keyfile.Placed dirs := by
  induction run with
  | refl => exact before
  | report _ _ placed ih => exact placed ih

theorem next_le : s.keyfile.next ≤ s'.keyfile.next := by
  induction run with
  | refl => exact le_rfl
  | report _ step _ ih => exact ih.trans step.next_le

end

variable {storage : Nat}

theorem identity (run : Retracts dirs s storages s') (allocated : storage < s.keyfile.next) :
    (s'.keyfile.heap storage).identity = (s.keyfile.heap storage).identity := by
  induction run with
  | refl => rfl
  | report earlier step _ ih =>
    exact (step.identity storage (Nat.lt_of_lt_of_le allocated earlier.next_le)).trans ih

theorem stays (run : Retracts dirs s storages s')
    (tracked : storage ∈ s.keyfile.storages.storageLst) (unreported : storage ∉ storages) :
    storage ∈ s'.keyfile.storages.storageLst := by
  induction run with
  | refl => exact tracked
  | report _ step _ ih =>
    rw [mem_cons, not_or] at unreported
    by_contra dropped
    obtain ⟨event, event_mem, same⟩ := step.reported storage (ih unreported.2) dropped
    rw [mem_singleton.mp event_mem] at same
    exact unreported.1 same.symm

theorem origin (run : Retracts dirs s storages s') (allocated : storage < s.keyfile.next)
    (tracked : storage ∈ s'.keyfile.storages.storageLst) :
    storage ∈ s.keyfile.storages.storageLst := by
  induction run with
  | refl => exact tracked
  | report earlier step _ ih =>
    refine ih ((step.origin storage tracked).resolve_right fun new => ?_)
    exact absurd (Nat.lt_of_lt_of_le allocated earlier.next_le) (Nat.not_lt.mpr new)

/-- What the reports do to the changes of an entry. -/
structure Changes (heap : Nat → NMSettingsStorage) (uuid : Uuid) (before after : List StorageData)
    (storages : List Nat) : Prop where
  kept : ∀ sd ∈ before, sd.storage ∉ storages → sd ∈ after
  /-- Other changes have no connection, and no more priority than before. -/
  origin : ∀ sd ∈ after, sd ∈ before ∧ sd.storage ∉ storages ∨
    sd.storage ∈ storages ∧ sd.connection = none ∧
      (sd.prioritize = true → ∃ old ∈ before, old.storage = sd.storage ∧ old.prioritize = true)
  reported : ∀ storage ∈ storages, (heap storage).getUuid = uuid →
    ∃ sd ∈ after, sd.storage = storage

theorem Changes.refl (heap : Nat → NMSettingsStorage) (uuid : Uuid) (dirty : List StorageData) :
    Changes heap uuid dirty dirty [] :=
  ⟨fun _ mem _ => mem, fun _ mem => Or.inl ⟨mem, not_mem_nil⟩, forall_mem_nil _⟩

theorem mem_trackSd_of_ne {dirty : List StorageData} {connection : Option NMConnection}
    {sd : StorageData} (mem : sd ∈ dirty) (different : sd.storage ≠ storage) :
    sd ∈ trackSd dirty storage connection false := by
  unfold trackSd
  dsimp only
  rw [if_neg Bool.false_ne_true]
  split
  · exact List.mem_map.mpr ⟨sd, mem, if_neg different⟩
  · exact mem_append_left _ mem

theorem prioritized_trackSd {dirty : List StorageData} {connection : Option NMConnection}
    {sd : StorageData} (mem : sd ∈ trackSd dirty storage connection false)
    (prioritized : sd.prioritize = true) :
    ∃ old ∈ dirty, old.storage = sd.storage ∧ old.prioritize = true := by
  unfold trackSd at mem
  dsimp only at mem
  rw [if_neg Bool.false_ne_true] at mem
  split at mem
  · obtain ⟨old, old_mem, rfl⟩ := List.mem_map.mp mem
    split at prioritized
    · rename_i same
      rw [if_pos same]
      exact ⟨old, old_mem, rfl, prioritized⟩
    · rename_i different
      rw [if_neg different]
      exact ⟨old, old_mem, rfl, prioritized⟩
  · rcases mem_append.mp mem with old | new
    · exact ⟨sd, old, rfl, prioritized⟩
    · rw [mem_singleton.mp new] at prioritized
      cases prioritized

section

variable {heap heap' : Nat → NMSettingsStorage} {before after : List StorageData}
  (changes : Changes heap uuid before after storages)

include changes

theorem Changes.report
    (same_uuid : ∀ other ∈ storages, (heap' other).getUuid = (heap other).getUuid) :
    Changes heap' uuid before (trackSd after storage none false) (storage :: storages) := by
  refine ⟨?_, ?_, ?_⟩
  · intro sd mem unreported
    rw [mem_cons, not_or] at unreported
    exact mem_trackSd_of_ne (changes.kept sd mem unreported.2) unreported.1
  · intro sd mem
    have prioritized : sd.storage ∈ storage :: storages → sd.prioritize = true →
        ∃ old ∈ before, old.storage = sd.storage ∧ old.prioritize = true := by
      intro _ first
      obtain ⟨change, change_mem, change_storage, change_first⟩ := prioritized_trackSd mem first
      rcases changes.origin change change_mem with ⟨old, -⟩ | ⟨-, -, old⟩
      · exact ⟨change, old, change_storage, change_first⟩
      · obtain ⟨old, old_mem, old_storage, old_first⟩ := old change_first
        exact ⟨old, old_mem, old_storage.trans change_storage, old_first⟩
    rcases (mem_trackSd mem).1 with ⟨same, no_connection⟩ | ⟨different, change, change_mem, -, -, eq⟩
    · have reported : sd.storage ∈ storage :: storages := same ▸ mem_cons_self
      exact Or.inr ⟨reported, no_connection, prioritized reported⟩
    · rw [eq rfl] at change_mem
      rcases changes.origin sd change_mem with ⟨old, unreported⟩ | ⟨reported, no_connection, -⟩
      · exact Or.inl ⟨old, not_mem_cons_of_ne_of_not_mem different unreported⟩
      · have reported := mem_cons_of_mem storage reported
        exact Or.inr ⟨reported, no_connection, prioritized reported⟩
  · intro other reported other_uuid
    rw [storage_mem_trackSd]
    rcases mem_cons.mp reported with same | earlier
    · exact Or.inl same
    · rw [same_uuid other earlier] at other_uuid
      exact Or.inr (changes.reported other earlier other_uuid)

theorem Changes.reportOther
    (same_uuid : ∀ other ∈ storages, (heap' other).getUuid = (heap other).getUuid)
    (foreign : (heap' storage).getUuid ≠ uuid)
    (own : ∀ sd ∈ before, (heap' sd.storage).getUuid = uuid) :
    Changes heap' uuid before after (storage :: storages) := by
  refine ⟨fun sd mem unreported => ?_, fun sd mem => ?_, fun other reported other_uuid => ?_⟩
  · exact changes.kept sd mem fun earlier => unreported (mem_cons_of_mem storage earlier)
  · rcases changes.origin sd mem with ⟨old, unreported⟩ | ⟨reported, rest⟩
    · refine Or.inl ⟨old, not_mem_cons_of_ne_of_not_mem ?_ unreported⟩
      intro same
      rw [← same] at foreign
      exact foreign (own sd old)
    · exact Or.inr ⟨mem_cons_of_mem storage reported, rest⟩
  · rcases mem_cons.mp reported with rfl | earlier
    · exact absurd other_uuid foreign
    · rw [same_uuid other earlier] at other_uuid
      exact changes.reported other earlier other_uuid

end

section

variable (run : Retracts dirs s storages s')

include run

theorem allocated (reported : storage ∈ storages) : storage < s'.keyfile.next := by
  induction run with
  | refl => exact absurd reported not_mem_nil
  | report _ step _ ih =>
    rcases mem_cons.mp reported with rfl | earlier
    · exact (step.event _ (mem_singleton_self _)).allocated
    · exact Nat.lt_of_lt_of_le (ih earlier) step.next_le

theorem changes (inv : TrackInv [] s) (entry_eq : s.sceIdx uuid = some entry) :
    ∃ dirty, s'.sceIdx uuid = some { entry with dirtySdLst := dirty } ∧
      Changes s'.keyfile.heap uuid entry.dirtySdLst dirty storages := by
  induction run with
  | refl => exact ⟨entry.dirtySdLst, entry_eq, Changes.refl _ _ _⟩
  | @report storages s' p' storage earlier step _ ih =>
    obtain ⟨dirty, dirty_eq, changes⟩ := ih
    have same_uuid : ∀ other < s'.keyfile.next,
        (p'.heap other).getUuid = (s'.keyfile.heap other).getUuid := fun other old =>
      getUuid_eq_of_identity (step.identity other old)
    have reported_uuid : ∀ other ∈ storages,
        (p'.heap other).getUuid = (s'.keyfile.heap other).getUuid := fun other reported =>
      same_uuid other (earlier.allocated reported)
    by_cases own : (p'.heap storage).getUuid = uuid
    · refine ⟨trackSd dirty storage none false, ?_, changes.report reported_uuid⟩
      have tracked := @track_sceIdx_self { s' with keyfile := p' } storage none false
      dsimp only at tracked
      rw [own, dirty_eq] at tracked
      exact tracked
    · refine ⟨dirty, (track_sceIdx_other fun same => own same.symm).trans dirty_eq,
        changes.reportOther reported_uuid own fun sd mem => ?_⟩
      have old := (inv.entry uuid entry entry_eq).dirty_ok sd mem
      have old_allocated := Nat.lt_of_lt_of_le old.allocated earlier.next_le
      show (p'.heap sd.storage).getUuid = uuid
      rw [same_uuid sd.storage old_allocated,
        getUuid_eq_of_identity (earlier.identity old.allocated), old.uuid_eq]

theorem queued_reported (inv : TrackInv [] s) (reported : storage ∈ storages) :
    (s'.keyfile.heap storage).getUuid ∈ s'.sceDirtyLst := by
  induction run with
  | refl => exact absurd reported not_mem_nil
  | @report storages s' p' other earlier step _ ih =>
    have nodup : { s' with keyfile := p' }.sceDirtyLst.Nodup :=
      (earlier.trackInv inv).queue_nodup
    refine (mem_track_sceDirtyLst nodup).mpr ?_
    rcases mem_cons.mp reported with rfl | old
    · exact Or.inl rfl
    · have same := getUuid_eq_of_identity
        (step.identity storage (earlier.allocated old))
      exact Or.inr (same.symm ▸ ih old)

theorem queued (inv : TrackInv [] s) (queued : uuid ∈ s.sceDirtyLst) : uuid ∈ s'.sceDirtyLst := by
  induction run with
  | refl => exact queued
  | @report storages s' p' storage earlier step _ ih =>
    have nodup : { s' with keyfile := p' }.sceDirtyLst.Nodup :=
      (earlier.trackInv inv).queue_nodup
    exact (mem_track_sceDirtyLst nodup).mpr (Or.inr ih)

end

end Retracts

namespace NMSKeyfilePlugin

variable {p : NMSKeyfilePlugin} {dirs : KeyfileDirs} {simulate inMemory set written : Bool}
  {uuid : Uuid} {shadowedStorage : Option Filename}

/-- Whether there is a directory for a tombstone. -/
def HasDirectory (dirs : KeyfileDirs) (inMemory : Bool) : Prop :=
  inMemory = true ∨ dirs.hasEtc = true

instance (dirs : KeyfileDirs) (inMemory : Bool) : Decidable (HasDirectory dirs inMemory) :=
  inferInstanceAs (Decidable (_ ∨ _))

theorem missesDirectory_iff :
    (!inMemory && !dirs.hasEtc) = true ↔ ¬ HasDirectory dirs inMemory := by
  simp [HasDirectory]

theorem setNmmetaTombstone_success :
    (p.setNmmetaTombstone dirs simulate uuid inMemory set shadowedStorage written).success = true ↔
      (HasDirectory dirs inMemory → simulate = true ∨ written = true) := by
  unfold setNmmetaTombstone HasDirectory
  cases inMemory <;> cases simulate <;> cases written <;> cases set <;>
    cases hasEtc : dirs.hasEtc <;> simp <;> split <;> rfl

theorem setNmmetaTombstone_unchanged
    (unreported : (p.setNmmetaTombstone dirs simulate uuid inMemory set shadowedStorage
      written).storage = none) :
    (p.setNmmetaTombstone dirs simulate uuid inMemory set shadowedStorage written).plugin = p := by
  unfold setNmmetaTombstone at unreported ⊢
  split
  · rfl
  · rename_i has_directory
    rw [if_neg has_directory] at unreported
    dsimp only at unreported ⊢
    split
    · rfl
    · rename_i writable
      rw [if_neg writable] at unreported
      split at unreported
      · cases unreported
      · cases unreported
      · cases unreported
      · rfl

theorem setNmmetaTombstone_storage (has_directory : HasDirectory dirs inMemory)
    (writable : simulate = true ∨ written = true) :
    (set = true → (p.setNmmetaTombstone dirs simulate uuid inMemory set shadowedStorage
        written).storage.isSome = true) ∧
      (set = false → (p.setNmmetaTombstone dirs simulate uuid inMemory set shadowedStorage
        written).storage = p.storages.idxByFilename (.nmmeta (tombstoneType inMemory) uuid)) := by
  unfold setNmmetaTombstone tombstoneType
  have present : ¬ (!inMemory && !dirs.hasEtc) = true :=
    fun missing => missesDirectory_iff.mp missing has_directory
  have possible : (!simulate && !written) = false := by
    rcases writable with rfl | rfl
    · rfl
    · rw [Bool.not_true, Bool.and_false]
  dsimp only
  rw [if_neg present, possible, if_neg Bool.false_ne_true]
  cases found : p.storages.idxByFilename
    (.nmmeta (if inMemory = true then .run else .etc) uuid) with
  | none =>
    cases set with
    | true => simp
    | false => simp
  | some storage =>
    cases set with
    | true => simp
    | false => simp

end NMSKeyfilePlugin

namespace NMSettings

variable {cfg : SettingsConfig} {s s' : NMSettings} {uuid : Uuid} {outcome : FileOutcome}

theorem retracts_delete {dirs : KeyfileDirs} {storage : Nat} (keyfile : s.keyfile.Inv)
    (allocated : storage < s.keyfile.next)
    (tracked : (s.keyfile.heap storage).getPlugin = .keyfile →
      storage ∈ s.keyfile.storages.storageLst)
    (deleted : s.pluginDeleteConnection storage outcome = .ok s') :
    Retracts dirs s [storage] (s'.track storage none false) := by
  unfold pluginDeleteConnection at deleted
  split at deleted
  · rename_i is_keyfile
    cases result : s.keyfile.deleteConnection storage (outcome.unlink storage) with
    | error message =>
      rw [result] at deleted
      cases deleted
    | ok p' =>
      rw [result] at deleted
      obtain rfl := Except.ok.inj deleted
      exact Retracts.refl.report
        (NMSKeyfilePlugin.deleteConnection_step keyfile (tracked is_keyfile) result).1
        fun placed => NMSKeyfilePlugin.deleteConnection_placed placed result
  · rename_i is_ifcfg
    obtain rfl := Except.ok.inj deleted
    refine Retracts.refl.report (NMSKeyfilePlugin.step_drop keyfile allocated ?_) id
    rw [is_ifcfg]
    exact fun impossible => by cases impossible
  · cases deleted

variable {result : NMSKeyfilePlugin.TombstoneResult}

theorem retracts_trackTombstone {inMemory set : Bool}
    (done : NMSKeyfilePlugin.TombstoneSet s.keyfile uuid inMemory set result)
    (unchanged : result.storage = none → result.plugin = s.keyfile)
    (placed : s.keyfile.Placed cfg.dirs → result.plugin.Placed cfg.dirs) :
    Retracts cfg.dirs s result.storage.toList (s.trackTombstone result) := by
  have step := done.step
  unfold trackTombstone
  cases reported : result.storage with
  | none =>
    dsimp only
    rw [unchanged reported]
    exact Retracts.refl
  | some storage =>
    rw [reported] at step
    exact Retracts.refl.report step placed

/-- What a tombstone that is set or unset in any case brings about. -/
structure Forced (dirs : KeyfileDirs) (s : NMSettings) (uuid : Uuid) (inMemory set : Bool)
    (result : NMSKeyfilePlugin.TombstoneResult) : Prop where
  done : NMSKeyfilePlugin.TombstoneSet s.keyfile uuid inMemory set result
  unchanged : result.storage = none → result.plugin = s.keyfile
  placed : s.keyfile.Placed dirs → result.plugin.Placed dirs
  reported : NMSKeyfilePlugin.HasDirectory dirs inMemory → set = true → result.storage.isSome = true
  /-- A tombstone that was unset is reported if it was there. -/
  dropped : NMSKeyfilePlugin.HasDirectory dirs inMemory → set = false →
    result.storage = s.keyfile.storages.idxByFilename (.nmmeta (NMSKeyfilePlugin.tombstoneType
      inMemory) uuid)

theorem forced_of_success (keyfile : s.keyfile.Inv) {simulate inMemory set written : Bool}
    {shadowedStorage : Option Filename}
    (success : (s.keyfile.setNmmetaTombstone cfg.dirs simulate uuid inMemory set shadowedStorage
      written).success = true) :
    Forced cfg.dirs s uuid inMemory set
      (s.keyfile.setNmmetaTombstone cfg.dirs simulate uuid inMemory set shadowedStorage written) := by
  have writable := NMSKeyfilePlugin.setNmmetaTombstone_success.mp success
  exact ⟨NMSKeyfilePlugin.setNmmetaTombstone_spec cfg.dirs keyfile _ _ _ _ _ _,
    NMSKeyfilePlugin.setNmmetaTombstone_unchanged,
    fun placed => NMSKeyfilePlugin.setNmmetaTombstone_placed placed _ _ _ _ _ _,
    fun has_directory => (NMSKeyfilePlugin.setNmmetaTombstone_storage has_directory
      (writable has_directory)).1,
    fun has_directory => (NMSKeyfilePlugin.setNmmetaTombstone_storage has_directory
      (writable has_directory)).2⟩

theorem failed_unchanged {simulate inMemory set written : Bool} {shadowedStorage : Option Filename}
    (failure : (s.keyfile.setNmmetaTombstone cfg.dirs simulate uuid inMemory set shadowedStorage
      written).success = false) :
    s.keyfile.setNmmetaTombstone cfg.dirs simulate uuid inMemory set shadowedStorage written =
      ⟨s.keyfile, false, none, false⟩ := by
  unfold NMSKeyfilePlugin.setNmmetaTombstone at failure ⊢
  split
  · rename_i no_directory
    rw [if_pos no_directory] at failure
    cases failure
  · rename_i has_directory
    rw [if_neg has_directory] at failure
    dsimp only at failure ⊢
    split
    · rfl
    · rename_i writable
      rw [if_neg writable] at failure
      split at failure
      · cases failure
      · cases failure
      · cases failure
      · cases failure

theorem forceTombstone_forced (keyfile : s.keyfile.Inv) (inMemory set : Bool)
    (shadowedStorage : Option Filename) (written : Bool) :
    ∃ result, Forced cfg.dirs s uuid inMemory set result ∧
      s.forceTombstone cfg uuid inMemory set shadowedStorage written = s.trackTombstone result := by
  unfold forceTombstone
  dsimp only
  cases success : (s.keyfile.setNmmetaTombstone cfg.dirs false uuid inMemory set shadowedStorage
    written).success with
  | true => exact ⟨_, forced_of_success keyfile success, by rw [if_pos rfl]⟩
  | false =>
    rw [failed_unchanged success, if_neg Bool.false_ne_true]
    exact ⟨_, forced_of_success keyfile
      (NMSKeyfilePlugin.setNmmetaTombstone_success.mpr fun _ => Or.inl rfl), rfl⟩

theorem Forced.retracts {inMemory set : Bool} (forced : Forced cfg.dirs s uuid inMemory set result) :
    Retracts cfg.dirs s result.storage.toList (s.trackTombstone result) :=
  retracts_trackTombstone forced.done forced.unchanged forced.placed

theorem Forced.tombstone {inMemory : Bool} (forced : Forced cfg.dirs s uuid inMemory true result)
    (has_directory : NMSKeyfilePlugin.HasDirectory cfg.dirs inMemory) :
    ∃ storage, result.storage = some storage ∧
      (result.plugin.heap storage).getFilename =
        some (.nmmeta (NMSKeyfilePlugin.tombstoneType inMemory) uuid) ∧
      storage ∈ result.plugin.storages.storageLst := by
  obtain ⟨storage, storage_eq⟩ := isSome_iff_exists.mp (forced.reported has_directory rfl)
  exact ⟨storage, storage_eq, forced.done.named storage storage_eq,
    (forced.done.tracked_iff storage storage_eq).mpr rfl⟩

theorem trackTombstone_keyfile (s : NMSettings) (result : NMSKeyfilePlugin.TombstoneResult) :
    (s.trackTombstone result).keyfile = result.plugin := by
  unfold trackTombstone
  cases result.storage with
  | none => rfl
  | some storage => rfl

/-- What `_set_nmmeta_tombstone` brings about: the reported storages are tombstones of the UUID,
and those to be set, on disk and in `/run`, are tracked. -/
structure TombstonesSet (dirs : KeyfileDirs) (s : NMSettings) (uuid : Uuid) (onDisk inRun : Bool)
    (storages : List Nat) (s' : NMSettings) : Prop where
  retracts : Retracts dirs s storages s'
  named : ∀ storage ∈ storages, ∃ inMemory, (if inMemory then inRun else onDisk) = true ∧
    (s'.keyfile.heap storage).getFilename =
      some (.nmmeta (NMSKeyfilePlugin.tombstoneType inMemory) uuid)
  present : ∀ inMemory, (if inMemory then inRun else onDisk) = true → ∃ storage ∈ storages,
    (s'.keyfile.heap storage).getFilename =
      some (.nmmeta (NMSKeyfilePlugin.tombstoneType inMemory) uuid) ∧
    storage ∈ s'.keyfile.storages.storageLst

/-- A tombstone on disk may be set, and then one in `/run`. -/
theorem TombstonesSet.force {onDisk : Bool} {storages : List Nat}
    (earlier : TombstonesSet cfg.dirs s uuid onDisk false storages s') (keyfile : s'.keyfile.Inv)
    (shadowedStorage : Option Filename) (written : Bool) :
    ∃ storages, TombstonesSet cfg.dirs s uuid onDisk true storages
      (s'.forceTombstone cfg uuid true true shadowedStorage written) := by
  obtain ⟨result, forced, eq⟩ :=
    @forceTombstone_forced cfg s' uuid keyfile true true shadowedStorage written
  obtain ⟨new, new_eq, new_named, new_tracked⟩ := forced.tombstone (Or.inl rfl)
  have later := forced.retracts
  rw [new_eq] at later
  have keyfile_eq := trackTombstone_keyfile s' result
  have allocated : ∀ storage ∈ storages, storage < s'.keyfile.next := fun storage reported =>
    earlier.retracts.allocated reported
  have kept_name : ∀ storage ∈ storages,
      ((s'.trackTombstone result).keyfile.heap storage).getFilename =
        (s'.keyfile.heap storage).getFilename := fun storage reported =>
    getFilename_eq_of_identity (later.identity (allocated storage reported))
  have named : ((s'.trackTombstone result).keyfile.heap new).getFilename =
      some (.nmmeta .run uuid) := by
    rw [keyfile_eq]
    exact new_named
  rw [eq]
  refine ⟨_, earlier.retracts.trans later, ?_, ?_⟩
  · intro storage reported
    rcases mem_append.mp reported with is_new | old
    · rw [mem_toList.mp is_new |> Option.some.inj] at named
      exact ⟨true, rfl, named⟩
    · obtain ⟨inMemory, is_set, old_name⟩ := earlier.named storage old
      cases inMemory with
      | true => cases is_set
      | false => exact ⟨false, is_set, (kept_name storage old).trans old_name⟩
  · intro inMemory is_set
    cases inMemory with
    | true =>
      refine ⟨new, mem_append_left _ (by simp), named, ?_⟩
      rw [keyfile_eq]
      exact new_tracked
    | false =>
      obtain ⟨storage, reported, old_name, tracked⟩ := earlier.present false is_set
      have name := (kept_name storage reported).trans old_name
      refine ⟨storage, mem_append_right _ reported, name, later.stays tracked ?_⟩
      intro same
      rw [mem_toList.mp same |> Option.some.inj] at named
      rw [named] at name
      cases name

/-- A tombstone can be set on disk. -/
def writableOnDisk (cfg : SettingsConfig) (outcome : FileOutcome) : Bool :=
  !cfg.dirs.hasEtc || outcome.nmmeta .etc

theorem tombstonesSet_none (dirs : KeyfileDirs) (s : NMSettings) (uuid : Uuid) :
    TombstonesSet dirs s uuid false false [] s := by
  refine ⟨Retracts.refl, forall_mem_nil _, fun inMemory impossible => ?_⟩
  cases inMemory with
  | true => cases impossible
  | false => cases impossible

/-- The first part of `_set_nmmeta_tombstone`. -/
theorem setOnDisk (keyfile : s.keyfile.Inv) :
    TombstonesSet cfg.dirs s uuid (cfg.dirs.hasEtc && outcome.nmmeta .etc) false
      (s.keyfile.setNmmetaTombstone cfg.dirs false uuid false true none
        (outcome.nmmeta .etc)).storage.toList
      (s.trackTombstone (s.keyfile.setNmmetaTombstone cfg.dirs false uuid false true none
        (outcome.nmmeta .etc))) := by
  cases possible : cfg.dirs.hasEtc && outcome.nmmeta .etc with
  | false =>
    have unreported : (s.keyfile.setNmmetaTombstone cfg.dirs false uuid false true none
        (outcome.nmmeta .etc)).storage = none := by
      unfold NMSKeyfilePlugin.setNmmetaTombstone
      cases has_etc : cfg.dirs.hasEtc with
      | false => rfl
      | true =>
        rw [has_etc, Bool.true_and] at possible
        rw [possible]
        rfl
    have unchanged := NMSKeyfilePlugin.setNmmetaTombstone_unchanged unreported
    have same : s.trackTombstone (s.keyfile.setNmmetaTombstone cfg.dirs false uuid false true none
        (outcome.nmmeta .etc)) = s := by
      unfold trackTombstone
      rw [unreported, unchanged]
    rw [same, unreported]
    exact tombstonesSet_none cfg.dirs s uuid
  | true =>
    rw [Bool.and_eq_true] at possible
    have forced := @forced_of_success cfg s uuid keyfile false false true (outcome.nmmeta .etc) none
      (NMSKeyfilePlugin.setNmmetaTombstone_success.mpr fun _ => Or.inr possible.2)
    obtain ⟨storage, storage_eq, named, tracked⟩ := forced.tombstone (Or.inr possible.1)
    have retracts := forced.retracts
    have keyfile_eq := trackTombstone_keyfile s (s.keyfile.setNmmetaTombstone cfg.dirs false uuid
      false true none (outcome.nmmeta .etc))
    rw [← keyfile_eq] at named tracked
    refine ⟨retracts, fun other reported => ?_, fun inMemory is_set => ?_⟩
    · rw [storage_eq, mem_toList, Option.some.injEq] at reported
      rw [← reported]
      exact ⟨false, rfl, named⟩
    · cases inMemory with
      | true => cases is_set
      | false => exact ⟨storage, by rw [storage_eq]; simp, named, tracked⟩

theorem setNmmetaTombstone_set (keyfile : s.keyfile.Inv) (onDisk inMemory : Bool)
    (shadowedStorage : Option Filename) (outcome : FileOutcome) :
    ∃ storages, TombstonesSet cfg.dirs s uuid (onDisk && cfg.dirs.hasEtc && outcome.nmmeta .etc)
      (inMemory || onDisk && !writableOnDisk cfg outcome) storages
      (s.setNmmetaTombstone cfg uuid onDisk inMemory shadowedStorage outcome) := by
  unfold setNmmetaTombstone
  cases onDisk with
  | false =>
    cases inMemory with
    | false => exact ⟨[], tombstonesSet_none cfg.dirs s uuid⟩
    | true => exact (tombstonesSet_none cfg.dirs s uuid).force keyfile shadowedStorage _
  | true =>
    have success_iff : (s.keyfile.setNmmetaTombstone cfg.dirs false uuid false true none
        (outcome.nmmeta .etc)).success = writableOnDisk cfg outcome := by
      rw [Bool.eq_iff_iff, NMSKeyfilePlugin.setNmmetaTombstone_success]
      unfold NMSKeyfilePlugin.HasDirectory writableOnDisk
      cases cfg.dirs.hasEtc <;> cases outcome.nmmeta .etc <;> decide
    have first := @setOnDisk cfg s uuid outcome keyfile
    have first_inv := first.retracts.keyfile_inv keyfile
    dsimp only
    rw [if_pos rfl, success_iff, Bool.true_and, Bool.true_and]
    cases later : (inMemory || !writableOnDisk cfg outcome) with
    | false => exact ⟨_, first⟩
    | true => exact first.force first_inv shadowedStorage _

end NMSettings

end NetworkManager
