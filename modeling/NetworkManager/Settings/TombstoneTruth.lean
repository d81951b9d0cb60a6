import NetworkManager.Settings.Exposure

/-!
# Whether a tombstone was set

`nms_keyfile_plugin_set_nmmeta_tombstone` reports success by the errno of writing the file.  Without
a directory in `/etc` nothing is written, the errno stays zero, and the hard failure is reported as
a success.  `_set_nmmeta_tombstone` relies on the answer when it falls back to `/run`.
-/

namespace NetworkManager

open Option

namespace NMSKeyfilePlugin

def TracksTombstone (p : NMSKeyfilePlugin) (type : NMSKeyfileStorageType) (uuid : Uuid) : Prop :=
  ∃ storage ∈ p.storages.storageLst, ∃ metaData,
    p.heap storage = .keyfileMeta uuid type metaData ∧ metaData.isTombstone = true

/-- The answer is true, if setting or unsetting a tombstone is reported as a success. -/
def Reported (type : NMSKeyfileStorageType) (uuid : Uuid) (set : Bool) (result : TombstoneResult) :
    Prop :=
  result.success = true → (result.plugin.TracksTombstone type uuid ↔ set = true)

/-- The answer is true, and a hard failure is not a success. -/
structure Truthful (type : NMSKeyfileStorageType) (uuid : Uuid) (set : Bool)
    (result : TombstoneResult) : Prop where
  reported : Reported type uuid set result
  hardFailure : result.hardFailure = true → result.success = false

variable {p : NMSKeyfilePlugin} {dirs : KeyfileDirs} {simulate inMemory set written : Bool}
  {uuid : Uuid} {shadowedStorage : Option Filename} {type : NMSKeyfileStorageType}

theorem tracksTombstone_iff (inv : p.Inv) :
    p.TracksTombstone type uuid ↔ (p.storages.idxByFilename (.nmmeta type uuid)).isSome = true := by
  rw [isSome_iff_exists]
  constructor
  · rintro ⟨storage, tracked, metaData, content, -⟩
    refine ⟨storage, (inv.index.byFilename _ storage).mpr ⟨tracked, ?_⟩⟩
    rw [content]
    rfl
  · rintro ⟨storage, found⟩
    obtain ⟨tracked, metaData, content, tombstone⟩ := tombstone_found inv found
    exact ⟨storage, tracked, metaData, content, tombstone⟩

theorem not_tracksTombstone (placed : p.Placed dirs) (no_etc : dirs.hasEtc = false) :
    ¬ p.TracksTombstone .etc uuid := by
  rintro ⟨storage, -, metaData, content, -⟩
  have at_etc := (placed storage).etc (by rw [content]; rfl) (by rw [content]; rfl)
  rw [no_etc] at at_etc
  cases at_etc.2

/-- Without a directory, nothing happens, and it is a success as well as a hard failure. -/
theorem setNmmetaTombstone_without_directory (missing : ¬ HasDirectory dirs inMemory) :
    p.setNmmetaTombstone dirs simulate uuid inMemory set shadowedStorage written =
      ⟨p, true, none, true⟩ := by
  rw [setNmmetaTombstone, if_pos (missesDirectory_iff.mpr missing)]

theorem setNmmetaTombstone_hardFailure (has_directory : HasDirectory dirs inMemory) :
    (p.setNmmetaTombstone dirs simulate uuid inMemory set shadowedStorage written).hardFailure =
      false := by
  have present : ¬ (!inMemory && !dirs.hasEtc) = true :=
    fun missing => missesDirectory_iff.mp missing has_directory
  rw [setNmmetaTombstone, if_neg present]
  dsimp only
  split
  · rfl
  · split <;> rfl

theorem not_tracksTombstone_steal (inv : p.Inv) {storage : Nat}
    (found : p.storages.idxByFilename (.nmmeta type uuid) = some storage) :
    ¬ (p.steal storage).TracksTombstone type uuid := by
  rintro ⟨other, tracked, metaData, content, -⟩
  obtain ⟨different, old⟩ := inv.index.nodup.mem_erase_iff.mp tracked
  have same := (inv.index.byFilename (.nmmeta type uuid) other).mpr ⟨old, by
    change p.heap other = _ at content
    rw [content]
    rfl⟩
  rw [found] at same
  exact different (Option.some.inj same).symm

theorem setNmmetaTombstone_reported (inv : p.Inv) (has_directory : HasDirectory dirs inMemory) :
    Reported (tombstoneType inMemory) uuid set
      (p.setNmmetaTombstone dirs simulate uuid inMemory set shadowedStorage written) := by
  intro success
  have writable := setNmmetaTombstone_success.mp success has_directory
  have spec := setNmmetaTombstone_spec dirs inv simulate uuid inMemory set shadowedStorage written
  have storage_eq := @setNmmetaTombstone_storage p dirs simulate inMemory set written uuid
    shadowedStorage has_directory writable
  cases set with
  | true =>
    obtain ⟨storage, reported⟩ := isSome_iff_exists.mp (storage_eq.1 rfl)
    refine iff_of_true ?_ rfl
    rw [tracksTombstone_iff spec.step.inv, isSome_iff_exists]
    exact ⟨storage, (spec.step.inv.index.byFilename _ storage).mpr
      ⟨(spec.tracked_iff storage reported).mpr rfl, spec.named storage reported⟩⟩
  | false =>
    refine iff_of_false ?_ Bool.false_ne_true
    have reported := storage_eq.2 rfl
    cases found : p.storages.idxByFilename (.nmmeta (tombstoneType inMemory) uuid) with
    | none =>
      rw [found] at reported
      rw [setNmmetaTombstone_unchanged reported, tracksTombstone_iff inv, found]
      exact Bool.false_ne_true
    | some storage =>
      have present : ¬ (!inMemory && !dirs.hasEtc) = true :=
        fun missing => missesDirectory_iff.mp missing has_directory
      have possible : ¬ (!simulate && !written) = true := by
        rcases writable with rfl | rfl <;> simp
      have found' := found
      rw [tombstoneType] at found'
      rw [setNmmetaTombstone, if_neg present]
      dsimp only
      rw [if_neg possible, found']
      exact not_tracksTombstone_steal inv found

/-- The answer is true, and a hard failure is not a success, exactly if there is a directory. -/
theorem truthful_iff (inv : p.Inv) :
    Truthful (tombstoneType inMemory) uuid set
        (p.setNmmetaTombstone dirs simulate uuid inMemory set shadowedStorage written) ↔
      HasDirectory dirs inMemory := by
  constructor
  · intro truthful
    by_contra missing
    have failure := truthful.hardFailure
    rw [setNmmetaTombstone_without_directory missing] at failure
    exact Bool.noConfusion (failure rfl)
  · intro has_directory
    refine ⟨setNmmetaTombstone_reported inv has_directory, fun hard => ?_⟩
    rw [setNmmetaTombstone_hardFailure has_directory] at hard
    cases hard

theorem reported_iff (inv : p.Inv) (placed : p.Placed dirs) :
    Reported (tombstoneType inMemory) uuid set
        (p.setNmmetaTombstone dirs simulate uuid inMemory set shadowedStorage written) ↔
      HasDirectory dirs inMemory ∨ set = false := by
  by_cases has_directory : HasDirectory dirs inMemory
  · exact iff_of_true (setNmmetaTombstone_reported inv has_directory) (.inl has_directory)
  · rw [or_iff_right has_directory, setNmmetaTombstone_without_directory has_directory]
    have in_etc := has_directory
    simp only [HasDirectory, not_or, Bool.not_eq_true] at in_etc
    have untracked := @not_tracksTombstone p dirs uuid placed in_etc.2
    rw [in_etc.1]
    cases set with
    | true => exact iff_of_false (fun reported => untracked ((reported rfl).mpr rfl)) (by simp)
    | false => exact iff_of_true (fun _ => iff_of_false untracked Bool.false_ne_true) rfl

end NMSKeyfilePlugin

namespace NMSettings

variable {cfg : SettingsConfig} {s : NMSettings} {uuid : Uuid} {outcome : FileOutcome}

/-- A tombstone of the UUID is tracked somewhere. -/
def Hidden (s : NMSettings) (uuid : Uuid) : Prop :=
  ∃ type, s.keyfile.TracksTombstone type uuid

theorem TombstonesSet.hidden {onDisk inRun : Bool} {storages : List Nat} {s' : NMSettings}
    (set : TombstonesSet cfg.dirs s uuid onDisk inRun storages s') (keyfile : s.keyfile.Inv)
    (some_set : onDisk = true ∨ inRun = true) : s'.Hidden uuid := by
  have is_set : ∃ inMemory : Bool, (if inMemory then inRun else onDisk) = true := by
    rcases some_set with on_disk | in_run
    · exact ⟨false, on_disk⟩
    · exact ⟨true, in_run⟩
  obtain ⟨inMemory, is_set⟩ := is_set
  obtain ⟨storage, -, named, tracked⟩ := set.present inMemory is_set
  have inv := set.retracts.keyfile_inv keyfile
  refine ⟨NMSKeyfilePlugin.tombstoneType inMemory, ?_⟩
  rw [NMSKeyfilePlugin.tracksTombstone_iff inv, isSome_iff_exists]
  exact ⟨storage, (inv.index.byFilename _ storage).mpr ⟨tracked, named⟩⟩

/-- Without a directory, there is no fallback to `/run`. -/
theorem setNmmetaTombstone_without_etc (no_etc : cfg.dirs.hasEtc = false)
    (shadowedStorage : Option Filename) :
    s.setNmmetaTombstone cfg uuid true false shadowedStorage outcome = s := by
  have missing : ¬ NMSKeyfilePlugin.HasDirectory cfg.dirs false := by
    simp [NMSKeyfilePlugin.HasDirectory, no_etc]
  unfold setNmmetaTombstone
  dsimp only
  rw [if_pos rfl, NMSKeyfilePlugin.setNmmetaTombstone_without_directory missing]
  rfl

/-- A UUID that is to be hidden is hidden, unless there is no directory for the tombstone on disk,
none is asked for in `/run`, and the UUID was not hidden before. -/
theorem setNmmetaTombstone_hidden_iff (keyfile : s.keyfile.Inv) (onDisk inMemory : Bool)
    (shadowedStorage : Option Filename) :
    (onDisk = true ∨ inMemory = true →
        (s.setNmmetaTombstone cfg uuid onDisk inMemory shadowedStorage outcome).Hidden uuid) ↔
      (onDisk = true → inMemory = false → cfg.dirs.hasEtc = false → s.Hidden uuid) := by
  constructor
  · rintro hides rfl rfl no_etc
    have hidden := hides (.inl rfl)
    rwa [setNmmetaTombstone_without_etc no_etc] at hidden
  · intro hidden asked
    by_cases without : onDisk = true ∧ inMemory = false ∧ cfg.dirs.hasEtc = false
    · obtain ⟨rfl, rfl, no_etc⟩ := without
      rw [setNmmetaTombstone_without_etc no_etc]
      exact hidden rfl rfl no_etc
    · obtain ⟨storages, set⟩ := @setNmmetaTombstone_set cfg s uuid keyfile onDisk inMemory
        shadowedStorage outcome
      refine set.hidden keyfile ?_
      unfold writableOnDisk
      cases onDisk <;> cases inMemory <;> cases has_etc : cfg.dirs.hasEtc <;>
        cases outcome.nmmeta .etc <;> simp_all

/-- In every state that is reached: setting or unsetting a tombstone tells the truth exactly if
there is a directory for it, a success is one exactly if there is a directory or the tombstone is
unset, and a UUID that is to be hidden is hidden exactly if there is a directory in `/etc`, or a
tombstone in `/run` is asked for, or none on disk, or the UUID was hidden before. -/
theorem setNmmetaTombstone_truthful_iff (cfg : SettingsConfig) (calls : List SettingsCall)
    (lawful : (machine cfg).Lawful new calls) (s : NMSettings)
    (reached : s = (machine cfg).run new calls) (uuid : Uuid) :
    (∀ (simulate inMemory set written : Bool) (shadowedStorage : Option Filename),
      let result := s.keyfile.setNmmetaTombstone cfg.dirs simulate uuid inMemory set
        shadowedStorage written
      (NMSKeyfilePlugin.Truthful (NMSKeyfilePlugin.tombstoneType inMemory) uuid set result ↔
        NMSKeyfilePlugin.HasDirectory cfg.dirs inMemory) ∧
      (NMSKeyfilePlugin.Reported (NMSKeyfilePlugin.tombstoneType inMemory) uuid set result ↔
        NMSKeyfilePlugin.HasDirectory cfg.dirs inMemory ∨ set = false)) ∧
    ∀ (onDisk inMemory : Bool) (shadowedStorage : Option Filename) (outcome : FileOutcome),
      (onDisk = true ∨ inMemory = true →
          (s.setNmmetaTombstone cfg uuid onDisk inMemory shadowedStorage outcome).Hidden uuid) ↔
        (onDisk = true → inMemory = false → cfg.dirs.hasEtc = false → s.Hidden uuid) := by
  have inv : SettingsInv cfg s := reached ▸ run_settingsInv lawful
  refine ⟨fun simulate inMemory set written shadowedStorage => ⟨?_, ?_⟩,
    fun onDisk inMemory shadowedStorage outcome => ?_⟩
  · exact NMSKeyfilePlugin.truthful_iff inv.keyfile
  · exact NMSKeyfilePlugin.reported_iff inv.keyfile inv.placed
  · exact setNmmetaTombstone_hidden_iff inv.keyfile onDisk inMemory shadowedStorage

/-- The tombstones of a profile are dropped and set again, and the profile stays hidden. -/
theorem setNmmetaTombstone_truthful_hiddenFiles :
    let s := (machine usualConfig).run new hiddenCalls
    NMSKeyfilePlugin.Truthful .etc "u" false
        (s.keyfile.setNmmetaTombstone usualConfig.dirs false "u" false false none true) ∧
      (s.setNmmetaTombstone usualConfig "u" true false none (usualOutcome "b" false false)).Hidden
        "u" := by
  obtain ⟨truthful, hidden⟩ := setNmmetaTombstone_truthful_iff usualConfig hiddenCalls
    ⟨⟨trivial, trivial⟩, trivial⟩ _ rfl "u"
  refine ⟨(truthful false false false true none).1.mpr (.inr rfl), ?_⟩
  exact (hidden true false none _).mpr (fun _ _ no_etc => by cases no_etc) (.inl rfl)

/-- Directories without one in `/etc`. -/
def noEtcConfig : SettingsConfig :=
  { usualConfig with dirs := { NMSKeyfilePlugin.usualDirs with hasEtc := false } }

/-- A profile in `/usr/lib`. -/
def libCalls : List SettingsCall :=
  [.reload (NMSKeyfilePlugin.twoFiles "u" true) (fun
    | .lib _ => [.keyfile "b"]
    | _ => []) [] []]

/-- Without a directory in `/etc`, a tombstone on disk is reported as set although none is tracked,
so that there is no fallback to `/run` and the profile of the UUID stays exposed. -/
theorem setNmmetaTombstone_truthful_fails :
    let s := (machine noEtcConfig).run new libCalls
    let result := s.keyfile.setNmmetaTombstone noEtcConfig.dirs false "u" false true none true
    let after := s.setNmmetaTombstone noEtcConfig "u" true false none (usualOutcome "b" true true)
    (machine noEtcConfig).Lawful new libCalls ∧ result.success = true ∧ result.hardFailure = true ∧
      ¬ result.plugin.TracksTombstone .etc "u" ∧ ¬ NMSKeyfilePlugin.Truthful .etc "u" true result ∧
      ¬ after.Hidden "u" ∧ after.getConnectionByUuid "u" = some 0 := by
  have lawful : (machine noEtcConfig).Lawful new libCalls := ⟨⟨trivial, trivial⟩, trivial⟩
  have inv : SettingsInv noEtcConfig ((machine noEtcConfig).run new libCalls) :=
    run_settingsInv lawful
  have missing : ¬ NMSKeyfilePlugin.HasDirectory noEtcConfig.dirs false := by decide
  have same := @setNmmetaTombstone_without_etc noEtcConfig ((machine noEtcConfig).run new libCalls)
    "u" (usualOutcome "b" true true) rfl none
  dsimp only
  rw [NMSKeyfilePlugin.setNmmetaTombstone_without_directory missing, same]
  refine ⟨lawful, rfl, rfl, NMSKeyfilePlugin.not_tracksTombstone inv.placed rfl,
    fun truthful => Bool.noConfusion (truthful.hardFailure rfl), ?_, by decide +kernel⟩
  rintro ⟨type, tracked⟩
  cases type with
  | run =>
    rw [NMSKeyfilePlugin.tracksTombstone_iff inv.keyfile] at tracked
    revert tracked
    decide +kernel
  | etc => exact NMSKeyfilePlugin.not_tracksTombstone inv.placed rfl tracked
  | lib idx =>
    obtain ⟨storage, -, metaData, content, -⟩ := tracked
    have elsewhere := (inv.placed storage).metaData (by rw [content]; rfl)
    rw [content] at elsewhere
    cases elsewhere

end NMSettings

end NetworkManager
