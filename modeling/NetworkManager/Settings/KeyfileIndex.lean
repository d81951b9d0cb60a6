import Mathlib.Data.List.Nodup
import NetworkManager.Settings.KeyfilePlugin

/-!
# The indexes of the keyfile plugin

The containers of storages agree with their indexes.  Adding and stealing keep the agreement, and so
does anything that leaves the identity of the storages alone.
-/

namespace NetworkManager

open List

namespace NMSettingsStorage

/-- What is fixed when a storage is created: the storage without its content. -/
def identity : NMSettingsStorage → NMSettingsStorage
  | keyfileConn uuid type name _ =>
    keyfileConn uuid type name ⟨none, none, ⟨0, 0⟩, false, false, false⟩
  | keyfileMeta uuid type _ => keyfileMeta uuid type ⟨none, true⟩
  | ifcfgRh uuid path _ => ifcfgRh uuid path ⟨0, 0⟩
  | ifupdown uuid => ifupdown uuid

section

variable (storage : NMSettingsStorage)

include storage

@[simp] theorem getUuid_identity : storage.identity.getUuid = storage.getUuid := by
  cases storage <;> rfl

@[simp] theorem getFilename_identity : storage.identity.getFilename = storage.getFilename := by
  cases storage <;> rfl

@[simp] theorem getPlugin_identity : storage.identity.getPlugin = storage.getPlugin := by
  cases storage <;> rfl

@[simp] theorem storageType_identity : storage.identity.storageType = storage.storageType := by
  cases storage <;> rfl

@[simp] theorem isMetaData_identity :
    storage.identity.isMetaData.isSome = storage.isMetaData.isSome := by
  cases storage <;> rfl

@[simp] theorem identity_stealConnection : storage.stealConnection.identity = storage.identity := by
  cases storage <;> rfl

@[simp] theorem identity_clear : storage.clear.identity = storage.identity := by
  cases storage <;> rfl

end

@[simp] theorem identity_copyContent (dst src : NMSettingsStorage) :
    (dst.copyContent src).identity = dst.identity := by
  cases dst <;> cases src <;> rfl

@[simp] theorem identity_setConnData (isNmGenerated isVolatile : Bool) (statMtime : Timespec)
    (shadowedOwned : Bool) (storage : NMSettingsStorage) :
    (storage.setConnData isNmGenerated isVolatile statMtime shadowedOwned).identity =
      storage.identity := by
  cases storage <;> rfl

section Identity

variable {a b : NMSettingsStorage} (same : a.identity = b.identity)
include same

theorem getUuid_eq_of_identity : a.getUuid = b.getUuid := by
  rw [← getUuid_identity a, same, getUuid_identity]

theorem getFilename_eq_of_identity : a.getFilename = b.getFilename := by
  rw [← getFilename_identity a, same, getFilename_identity]

theorem getPlugin_eq_of_identity : a.getPlugin = b.getPlugin := by
  rw [← getPlugin_identity a, same, getPlugin_identity]

theorem storageType_eq_of_identity : a.storageType = b.storageType := by
  rw [← storageType_identity a, same, storageType_identity]

theorem isMetaData_eq_of_identity : a.isMetaData.isSome = b.isMetaData.isSome := by
  rw [← isMetaData_identity a, same, isMetaData_identity]

end Identity

/-- Meta-data only ever is a tombstone. -/
def MetaIsTombstone (storage : NMSettingsStorage) : Prop :=
  ∀ metaData, storage.isMetaData = some metaData → metaData.isTombstone = true

theorem copyContent_eq {dst src : NMSettingsStorage} (dst_keyfile : dst.getPlugin = .keyfile)
    (same_name : src.getFilename = dst.getFilename) (same_uuid : src.getUuid = dst.getUuid) :
    dst.copyContent src = src := by
  cases dst with
  | keyfileConn uuid type name data =>
    cases src <;> simp_all [getFilename, getUuid, copyContent]
  | keyfileMeta uuid type metaData =>
    cases src <;> simp_all [getFilename, getUuid, copyContent]
  | ifcfgRh => simp [getPlugin] at dst_keyfile
  | ifupdown => simp [getPlugin] at dst_keyfile

end NMSettingsStorage

/-- A container agrees with its indexes. -/
structure NMSettUtilStorages.IndexConsistent (heap : Nat → NMSettingsStorage)
    (storages : NMSettUtilStorages) : Prop where
  nodup : storages.storageLst.Nodup
  keyfile : ∀ storage ∈ storages.storageLst, (heap storage).getPlugin = .keyfile
  /-- A file name leads to the one tracked storage with that name. -/
  byFilename : ∀ filename storage, storages.idxByFilename filename = some storage ↔
    storage ∈ storages.storageLst ∧ (heap storage).getFilename = some filename
  /-- There is a head for exactly the UUIDs of tracked storages. -/
  head_iff : ∀ uuid, (storages.idxByUuid uuid).isSome = true ↔
    ∃ storage ∈ storages.storageLst, (heap storage).getUuid = uuid
  /-- The list of a UUID holds each tracked storage of the UUID once, and no other. -/
  byUuid : ∀ uuid lst, storages.idxByUuid uuid = some lst →
    lst.Nodup ∧ ∀ storage, storage ∈ lst ↔
      storage ∈ storages.storageLst ∧ (heap storage).getUuid = uuid

namespace NMSettUtilStorages

variable {heap heap' : Nat → NMSettingsStorage} {storages : NMSettUtilStorages}

theorem indexConsistent_init (heap : Nat → NMSettingsStorage) : init.IndexConsistent heap := by
  refine ⟨nodup_nil, ?_, ?_, ?_, ?_⟩ <;> simp [init]

theorem getFilename_isSome {storage : NMSettingsStorage} (keyfile : storage.getPlugin = .keyfile) :
    ∃ filename, storage.getFilename = some filename := by
  cases storage <;> simp [NMSettingsStorage.getPlugin, NMSettingsStorage.getFilename] at keyfile ⊢

namespace IndexConsistent

theorem congr (consistent : storages.IndexConsistent heap)
    (same : ∀ storage ∈ storages.storageLst, (heap' storage).identity = (heap storage).identity) :
    storages.IndexConsistent heap' := by
  refine ⟨consistent.nodup, ?_, ?_, ?_, ?_⟩
  · intro storage storage_mem
    rw [NMSettingsStorage.getPlugin_eq_of_identity (same storage storage_mem)]
    exact consistent.keyfile storage storage_mem
  · intro filename storage
    rw [consistent.byFilename]
    refine and_congr_right fun storage_mem => ?_
    rw [NMSettingsStorage.getFilename_eq_of_identity (same storage storage_mem)]
  · intro uuid
    rw [consistent.head_iff]
    refine exists_congr fun storage => and_congr_right fun storage_mem => ?_
    rw [NMSettingsStorage.getUuid_eq_of_identity (same storage storage_mem)]
  · intro uuid lst found
    obtain ⟨lst_nodup, lst_mem⟩ := consistent.byUuid uuid lst found
    refine ⟨lst_nodup, fun storage => (lst_mem storage).trans ?_⟩
    refine and_congr_right fun storage_mem => ?_
    rw [NMSettingsStorage.getUuid_eq_of_identity (same storage storage_mem)]

theorem eq_of_getFilename (consistent : storages.IndexConsistent heap) {a b : Nat}
    (a_mem : a ∈ storages.storageLst) (b_mem : b ∈ storages.storageLst)
    (same_name : (heap a).getFilename = (heap b).getFilename) : a = b := by
  obtain ⟨filename, a_name⟩ := getFilename_isSome (consistent.keyfile a a_mem)
  have a_found := (consistent.byFilename filename a).mpr ⟨a_mem, a_name⟩
  have b_found := (consistent.byFilename filename b).mpr ⟨b_mem, same_name ▸ a_name⟩
  exact Option.some.inj (a_found.symm.trans b_found)

variable {storage : Nat}

section

variable (consistent : storages.IndexConsistent heap)

include consistent

theorem lookup_some {filename : Option Filename}
    (found : storages.lookupByFilename filename = some storage) :
    storage ∈ storages.storageLst ∧ (heap storage).getFilename = filename := by
  cases filename with
  | none => simp [lookupByFilename] at found
  | some filename => exact (consistent.byFilename filename storage).mp found

theorem lookup_none {filename : Option Filename}
    (unknown : storages.lookupByFilename filename = none)
    (storage_mem : storage ∈ storages.storageLst) : (heap storage).getFilename ≠ filename := by
  intro same_name
  obtain ⟨name, storage_name⟩ := getFilename_isSome (consistent.keyfile storage storage_mem)
  rw [← same_name, storage_name] at unknown
  have found := (consistent.byFilename name storage).mpr ⟨storage_mem, storage_name⟩
  simp [lookupByFilename, found] at unknown

theorem addTake (keyfile : (heap storage).getPlugin = .keyfile)
    (untracked : storage ∉ storages.storageLst)
    (unnamed : ∀ other ∈ storages.storageLst,
      (heap other).getFilename ≠ (heap storage).getFilename) :
    (storages.addTake heap storage).IndexConsistent heap := by
  refine ⟨?_, ?_, ?_, ?_, ?_⟩
  · refine Nodup.append consistent.nodup (nodup_singleton _) ?_
    simpa using untracked
  · intro other other_mem
    rcases mem_append.mp other_mem with old | new
    · exact consistent.keyfile other old
    · rw [mem_singleton.mp new]
      exact keyfile
  · intro filename other
    simp only [NMSettUtilStorages.addTake, mem_append, mem_singleton]
    by_cases named : (heap storage).getFilename = some filename
    · rw [if_pos named]
      constructor
      · intro found
        obtain rfl := Option.some.inj found
        exact ⟨Or.inr rfl, named⟩
      · rintro ⟨old | rfl, other_name⟩
        · exact absurd (other_name.trans named.symm) (unnamed other old)
        · rfl
    · rw [if_neg named, consistent.byFilename]
      constructor
      · rintro ⟨old, other_name⟩
        exact ⟨Or.inl old, other_name⟩
      · rintro ⟨old | rfl, other_name⟩
        · exact ⟨old, other_name⟩
        · exact absurd other_name named
  · intro uuid
    simp only [NMSettUtilStorages.addTake, mem_append, mem_singleton]
    by_cases same : (heap storage).getUuid = uuid
    · rw [if_pos same]
      exact ⟨fun _ => ⟨storage, Or.inr rfl, same⟩, fun _ => rfl⟩
    · rw [if_neg same, consistent.head_iff]
      constructor
      · rintro ⟨other, old, other_uuid⟩
        exact ⟨other, Or.inl old, other_uuid⟩
      · rintro ⟨other, old | rfl, other_uuid⟩
        · exact ⟨other, old, other_uuid⟩
        · exact absurd other_uuid same
  · intro uuid lst found
    simp only [NMSettUtilStorages.addTake] at found
    simp only [NMSettUtilStorages.addTake, mem_append, mem_singleton]
    by_cases same : (heap storage).getUuid = uuid
    · rw [if_pos same, Option.some.injEq] at found
      have old_lst : ((storages.lookupByUuid uuid).getD []).Nodup ∧
          ∀ other, other ∈ (storages.lookupByUuid uuid).getD [] ↔
            other ∈ storages.storageLst ∧ (heap other).getUuid = uuid := by
        cases old_eq : storages.lookupByUuid uuid with
        | none =>
          have headless := (consistent.head_iff uuid).not.mp (by
            rw [show storages.idxByUuid uuid = none from old_eq]
            simp)
          refine ⟨by simp, fun other => ?_⟩
          simp only [Option.getD_none, not_mem_nil, false_iff]
          rintro ⟨old, other_uuid⟩
          exact headless ⟨other, old, other_uuid⟩
        | some old => exact consistent.byUuid uuid old old_eq
      subst found
      refine ⟨Nodup.append old_lst.1 (nodup_singleton _) ?_, fun other => ?_⟩
      · simp [old_lst.2, untracked]
      · rw [mem_append, old_lst.2, mem_singleton]
        constructor
        · rintro (⟨old, other_uuid⟩ | rfl)
          · exact ⟨Or.inl old, other_uuid⟩
          · exact ⟨Or.inr rfl, same⟩
        · rintro ⟨old | rfl, other_uuid⟩
          · exact Or.inl ⟨old, other_uuid⟩
          · exact Or.inr rfl
    · rw [if_neg same] at found
      obtain ⟨lst_nodup, lst_mem⟩ := consistent.byUuid uuid lst found
      refine ⟨lst_nodup, fun other => (lst_mem other).trans ?_⟩
      constructor
      · rintro ⟨old, other_uuid⟩
        exact ⟨Or.inl old, other_uuid⟩
      · rintro ⟨old | rfl, other_uuid⟩
        · exact ⟨old, other_uuid⟩
        · exact absurd other_uuid same

theorem steal (tracked : storage ∈ storages.storageLst) :
    (storages.steal heap storage).IndexConsistent heap := by
  have erase_mem : ∀ other, other ∈ storages.storageLst.erase storage ↔
      other ≠ storage ∧ other ∈ storages.storageLst := fun other =>
    consistent.nodup.mem_erase_iff
  refine ⟨consistent.nodup.erase _, ?_, ?_, ?_, ?_⟩
  · intro other other_mem
    exact consistent.keyfile other ((erase_mem other).mp other_mem).2
  · intro filename other
    simp only [NMSettUtilStorages.steal, erase_mem]
    by_cases named : (heap storage).getFilename = some filename
    · rw [if_pos named]
      refine ⟨fun impossible => by simp at impossible, ?_⟩
      rintro ⟨⟨different, other_mem⟩, other_name⟩
      exact absurd (consistent.eq_of_getFilename other_mem tracked (other_name.trans named.symm))
        different
    · rw [if_neg named, consistent.byFilename]
      constructor
      · rintro ⟨other_mem, other_name⟩
        refine ⟨⟨?_, other_mem⟩, other_name⟩
        rintro rfl
        exact named other_name
      · rintro ⟨⟨-, other_mem⟩, other_name⟩
        exact ⟨other_mem, other_name⟩
  · intro uuid
    simp only [NMSettUtilStorages.steal, erase_mem]
    by_cases same : (heap storage).getUuid = uuid
    · rw [if_pos same]
      obtain ⟨lst, lst_eq⟩ := Option.isSome_iff_exists.mp
        ((consistent.head_iff uuid).mpr ⟨storage, tracked, same⟩)
      obtain ⟨lst_nodup, lst_mem⟩ := consistent.byUuid uuid lst lst_eq
      rw [show storages.lookupByUuid uuid = some lst from lst_eq, unlinkByUuid]
      have rest_mem : ∀ other, other ∈ lst.erase storage ↔
          (other ≠ storage ∧ other ∈ storages.storageLst) ∧ (heap other).getUuid = uuid := by
        intro other
        rw [lst_nodup.mem_erase_iff, lst_mem, and_assoc]
      split
      · rename_i empty
        refine ⟨fun impossible => by simp at impossible, ?_⟩
        rintro ⟨other, other_mem, other_uuid⟩
        have := (rest_mem other).mpr ⟨other_mem, other_uuid⟩
        simp [empty] at this
      · rename_i nonempty
        refine ⟨fun _ => ?_, fun _ => rfl⟩
        obtain ⟨other, other_mem⟩ := exists_mem_of_ne_nil _ nonempty
        obtain ⟨other_tracked, other_uuid⟩ := (rest_mem other).mp other_mem
        exact ⟨other, other_tracked, other_uuid⟩
    · rw [if_neg same, consistent.head_iff]
      constructor
      · rintro ⟨other, other_mem, other_uuid⟩
        refine ⟨other, ⟨?_, other_mem⟩, other_uuid⟩
        rintro rfl
        exact same other_uuid
      · rintro ⟨other, ⟨-, other_mem⟩, other_uuid⟩
        exact ⟨other, other_mem, other_uuid⟩
  · intro uuid lst found
    simp only [NMSettUtilStorages.steal] at found
    simp only [NMSettUtilStorages.steal, erase_mem]
    by_cases same : (heap storage).getUuid = uuid
    · rw [if_pos same] at found
      cases old_eq : storages.lookupByUuid uuid with
      | none => simp [old_eq, unlinkByUuid] at found
      | some old =>
        obtain ⟨old_nodup, old_mem⟩ := consistent.byUuid uuid old old_eq
        rw [old_eq, unlinkByUuid] at found
        split at found
        · simp at found
        · obtain rfl := Option.some.inj found
          refine ⟨old_nodup.erase _, fun other => ?_⟩
          rw [old_nodup.mem_erase_iff, old_mem, and_assoc]
    · rw [if_neg same] at found
      obtain ⟨lst_nodup, lst_mem⟩ := consistent.byUuid uuid lst found
      refine ⟨lst_nodup, fun other => (lst_mem other).trans ?_⟩
      constructor
      · rintro ⟨other_mem, other_uuid⟩
        refine ⟨⟨?_, other_mem⟩, other_uuid⟩
        rintro rfl
        exact same other_uuid
      · rintro ⟨⟨-, other_mem⟩, other_uuid⟩
        exact ⟨other_mem, other_uuid⟩

end

end IndexConsistent

end NMSettUtilStorages

end NetworkManager
