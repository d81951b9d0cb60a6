import NetworkManager.Settings.Runs

/-!
# The profile that is exposed

After an operation the first storage of the UUID decides.  A profile that was just written has
priority over all others, and only tombstones come before it.
-/

namespace NetworkManager

namespace NMSettings

open List NMSettingsStorage

variable {cfg : SettingsConfig} {s written after : NMSettings} {uuid : Uuid} {storage settConn : Nat}
  {connection : NMConnection} {storages : List Nat} {settFlags settMask : IntFlags}
  {outcome : FileOutcome} {persistMode : PersistMode}

def ExposesFrom (s : NMSettings) (uuid : Uuid) (settConn storage : Nat)
    (connection : NMConnection) : Prop :=
  s.getConnectionByUuid uuid = some settConn ∧ (s.connections settConn).storage = storage ∧
    (s.connections settConn).connection = connection

def sdLst (s : NMSettings) (uuid : Uuid) : List StorageData :=
  ((s.sceIdx uuid).getD .new).sdLst

/-- The storages of the UUID when a profile was written, and others were taken back: the new one has
priority, and meta-data was there before, or was reported. -/
theorem merged_written (settled : Settled s)
    (profile : Written cfg.dirs s written uuid storage connection)
    (run : Retracts cfg.dirs (written.track storage (some connection) true) storages after)
    (unreported : storage ∉ storages) :
    ∃ entry, after.sceIdx uuid = some entry ∧
      entry.settConn = ((s.sceIdx uuid).getD .new).settConn ∧
      ⟨storage, some connection, true⟩ ∈ sdsMerge entry.sdLst entry.dirtySdLst ∧
      ∀ sd ∈ sdsMerge entry.sdLst entry.dirtySdLst,
        (sd.prioritize = true → sd = ⟨storage, some connection, true⟩) ∧
        (sd.storage = storage ∨ sd.storage ∈ storages ∨
          ∃ old ∈ s.sdLst uuid, old.storage = sd.storage) := by
  have inv := settled.toTrackInv.written profile true
  obtain ⟨dirty, dirty_eq, changes⟩ := run.changes inv (track_written_entry profile settled)
  have unique := ((run.trackInv inv).entry uuid _ dirty_eq).dirty_unique
  have chosen : (⟨storage, some connection, true⟩ : StorageData) ∈ dirty :=
    changes.kept _ (mem_singleton_self _) unreported
  have reprioritize : dirty.any (·.prioritize) = true := any_eq_true.mpr ⟨_, chosen, rfl⟩
  refine ⟨_, dirty_eq, rfl, (mem_sdsMerge unique).mpr (Or.inl chosen), fun sd mem => ?_⟩
  rcases (mem_sdsMerge unique).mp mem with change | ⟨-, old, old_mem, rfl⟩
  · rcases changes.origin sd change with ⟨new, -⟩ | ⟨reported, -, prioritized⟩
    · rw [mem_singleton.mp new]
      exact ⟨fun _ => rfl, Or.inl rfl⟩
    · refine ⟨fun first => ?_, Or.inr (Or.inl reported)⟩
      obtain ⟨new, new_mem, same, -⟩ := prioritized first
      rw [mem_singleton.mp new_mem] at same
      rw [← same] at reported
      exact absurd reported unreported
  · refine ⟨fun first => ?_, Or.inr (Or.inr ⟨old, old_mem, rfl⟩)⟩
    dsimp only at first
    rw [reprioritize, Bool.not_true, Bool.and_false] at first
    cases first

theorem written_exposed (inv : SettingsInv cfg s)
    (profile : Written cfg.dirs s written uuid storage connection)
    (run : Retracts cfg.dirs (written.track storage (some connection) true) storages after)
    (unreported : storage ∉ storages)
    (unhidden : ∀ other ∈ after.keyfile.storages.storageLst,
      (after.keyfile.heap other).isMetaData.isSome = true →
      (other ∈ storages ∨ ∃ old ∈ s.sdLst uuid, old.storage = other) →
      (after.keyfile.heap other).isKeyfileRun = false ∧
        (after.keyfile.heap storage).isKeyfileRun = true)
    (settFlags settMask : IntFlags) (override : Bool) :
    ∃ settConn, (after.processAllDirty cfg.plugins settFlags settMask override).ExposesFrom uuid
        settConn storage connection ∧
      ∀ old, s.getConnectionByUuid uuid = some old → settConn = old := by
  have tracked_inv := inv.toTrackInv.written profile true
  have after_inv := run.trackInv tracked_inv
  obtain ⟨entry, entry_eq, settConn_eq, chosen, others⟩ :=
    merged_written inv.toSettled profile run unreported
  have entry_inv := after_inv.entry uuid entry entry_eq
  have no_meta : (after.keyfile.heap storage).isMetaData.isSome = false :=
    (entry_inv.merged_ok chosen).profile rfl
  have listed : (⟨storage, some connection, true⟩ : StorageData) ∈
      (sdsMerge entry.sdLst entry.dirtySdLst).filter (isAlive after.keyfile) :=
    mem_filter.mpr ⟨chosen, rfl⟩
  have head : (sdsUpdate cfg.plugins after.keyfile entry).head? =
      some ⟨storage, some connection, true⟩ := by
    refine ListSort.head_sort listed (dominates_prioritized (by simpa using no_meta) rfl ?_ ?_)
    · exact fun other mem => (others other (mem_filter.mp mem).1).1
    · intro other mem is_meta
      have other_listed : other ∈ sdsUpdate cfg.plugins after.keyfile entry :=
        ListSort.mem_sort.mpr mem
      have tracked := tracked_of_mem_sdsUpdate entry_inv other_listed is_meta
      refine unhidden other.storage tracked is_meta ?_
      refine ((others other (mem_filter.mp mem).1).2).resolve_left fun same => ?_
      rw [same, no_meta] at is_meta
      cases is_meta
  have queued : uuid ∈ after.sceDirtyLst := by
    refine run.queued tracked_inv ?_
    have nodup : written.sceDirtyLst.Nodup := by
      rw [profile.frame]
      exact inv.queue_nodup
    exact (mem_track_sceDirtyLst nodup).mpr (Or.inl profile.storage_uuid.symm)
  obtain ⟨settConn, new_eq, same, storage_eq, connection_eq⟩ :=
    (after_inv.entryProcessed cfg.plugins settFlags settMask override queued entry_eq).exposed _ _
      head rfl
  refine ⟨settConn, ⟨?_, storage_eq, connection_eq⟩, fun old exposed => ?_⟩
  · unfold getConnectionByUuid
    rw [new_eq]
    rfl
  · refine same old (settConn_eq.trans ?_)
    unfold getConnectionByUuid at exposed
    obtain ⟨before, before_eq, old_eq⟩ := Option.bind_eq_some_iff.mp exposed
    rw [before_eq]
    exact old_eq

theorem Adds.exposed (adds : Adds cfg s uuid storage connection written storages after)
    (inv : SettingsInv cfg s) (settFlags settMask : IntFlags) :
    ∃ settConn, (after.processAllDirty cfg.plugins settFlags settMask false).ExposesFrom uuid
      settConn storage connection := by
  have run := adds.dropped.retracts
  have inv_tracked := inv.toTrackInv.written adds.profile true
  have entry_inv := inv_tracked.entry uuid _ (track_written_entry adds.profile inv.toSettled)
  have allocated : storage < (written.track storage (some connection) true).keyfile.next :=
    (entry_inv.dirty_ok _ (mem_singleton_self _)).allocated
  have unreported : storage ∉ storages := by
    intro reported
    have is_meta := adds.dropped.metaData storage reported
    rw [isMetaData_eq_of_identity (run.identity allocated)] at is_meta
    have profile := adds.profile.profile
    rw [show (written.keyfile.heap storage).isMetaData.isSome = true from is_meta] at profile
    cases profile
  have unhidden : ∀ other ∈ after.keyfile.storages.storageLst,
      (after.keyfile.heap other).isMetaData.isSome = true →
      (other ∈ storages ∨ ∃ old ∈ s.sdLst uuid, old.storage = other) →
      (after.keyfile.heap other).isKeyfileRun = false ∧
        (after.keyfile.heap storage).isKeyfileRun = true := by
    intro other tracked is_meta origin
    -- Reported or not, the meta-data was there before.
    have old : ∃ sd ∈ s.sdLst uuid, sd.storage = other :=
      origin.elim (adds.dropped.listed other) id
    obtain ⟨sd, mem, rfl⟩ := old
    have identity := run.identity (entry_inv.sd_ok sd mem).allocated
    rw [isMetaData_eq_of_identity identity] at is_meta
    rw [isKeyfileRun_eq_of_identity identity, isKeyfileRun_eq_of_identity (run.identity allocated)]
    have stays := fun either => adds.dropped.dropped sd mem is_meta either tracked
    rw [imp_false, not_or, Bool.not_eq_true, Bool.not_eq_false] at stays
    exact stays
  obtain ⟨settConn, exposes, -⟩ := written_exposed inv adds.profile run unreported unhidden settFlags
    settMask false
  exact ⟨settConn, exposes⟩

/-- In every state that is reached, a profile that is added successfully is exposed from the storage
that was written, and an attempt that fails changes nothing. -/
theorem addConnection_exposes (cfg : SettingsConfig) (calls : List SettingsCall)
    (lawful : (machine cfg).Lawful new calls) (s : NMSettings)
    (reached : s = (machine cfg).run new calls) (connection : NMConnection)
    (persistMode : PersistMode) (settFlags : IntFlags) (outcome : FileOutcome) :
    match s.addConnection cfg connection persistMode settFlags outcome with
    | (s', .ok (storage, newConnection)) =>
      ∃ settConn, s'.ExposesFrom connection.uuid settConn storage newConnection
    | (s', .error _) => s' = s := by
  have inv : SettingsInv cfg s := reached ▸ run_settingsInv lawful
  rcases @addConnection_cases cfg s connection settFlags outcome persistMode inv with
    ⟨error, eq⟩ | ⟨storage, newConnection, written, storages, after, adds, eq⟩
  · rw [eq]
  · rw [eq]
    exact adds.exposed inv settFlags .persistentMask

/-- A configuration with the keyfile plugin, in which all profiles are valid. -/
def usualConfig : SettingsConfig where
  dirs := NMSKeyfilePlugin.usualDirs
  plugins := [.keyfile]
  ensureNormalized expected connection := .ok { connection with uuid := expected.getD connection.uuid }
  normalizeConnection _ written := written
  ensureNormalized_uuid _ _ _ normalized := by rw [← Except.ok.inj normalized]
  normalizeConnection_uuid _ _ := rfl

/-- Writing succeeds, deleting a file and writing or deleting meta-data may fail. -/
def usualOutcome (name : String) (unlink nmmeta : Bool) : FileOutcome where
  keyfileAdd := ⟨[name], .ok (none, ⟨2, 0⟩)⟩
  ifcfgRhAdd := .error "not enabled"
  update := .ok (none, ⟨2, 0⟩)
  unlink _ := if unlink then .deleted else .failed "read-only file system"
  nmmeta _ := nmmeta

/-- A profile in `/etc` that is hidden by tombstones in `/etc` and in `/run`, of which the latter
says that it shadows the profile. -/
def hiddenFiles : Filename → FileState
  | .keyfile .etc "a" => .keyfile ⟨"u", "a"⟩ ⟨1, 0⟩ false false none false
  | .nmmeta .etc "u" => .nmmeta "/dev/null" none
  | .nmmeta .run "u" => .nmmeta "/dev/null" (some (.keyfile .etc "a"))
  | _ => .missing

/-- The settings start with these files. -/
def hiddenCalls : List SettingsCall :=
  [.reload hiddenFiles (fun
    | .run => [.nmmeta "u"]
    | .etc => [.keyfile "a", .nmmeta "u"]
    | .lib _ => []) [] []]

/-- The profile is added to the storage of the hidden one, although the tombstones cannot be
deleted. -/
theorem addConnection_exposes_hidden :
    (machine usualConfig).Lawful new hiddenCalls ∧
      ∃ settConn, (((machine usualConfig).run new hiddenCalls).addConnection usualConfig
        ⟨"u", "new"⟩ .toDisk .none (usualOutcome "b" false false)).1.ExposesFrom "u" settConn 1
          ⟨"u", "new"⟩ := by
  have lawful : (machine usualConfig).Lawful new hiddenCalls := ⟨⟨trivial, trivial⟩, trivial⟩
  have exposes := addConnection_exposes usualConfig hiddenCalls lawful _ rfl ⟨"u", "new"⟩ .toDisk
    .none (usualOutcome "b" false false)
  have result : (((machine usualConfig).run new hiddenCalls).addConnection usualConfig
      ⟨"u", "new"⟩ .toDisk .none (usualOutcome "b" false false)).2 = .ok (1, ⟨"u", "new"⟩) := by
    decide +kernel
  refine ⟨lawful, ?_⟩
  rw [show ((machine usualConfig).run new hiddenCalls).addConnection usualConfig ⟨"u", "new"⟩
    .toDisk .none (usualOutcome "b" false false) = (_, _) from Prod.ext rfl result] at exposes
  exact exposes

/-- The settings start with a profile in `/etc` and another one of the same UUID in `/usr/lib`. -/
def twoFilesCalls : List SettingsCall :=
  [.reload (NMSKeyfilePlugin.twoFiles "u" true) (fun
    | .run => []
    | .etc => [.keyfile "a"]
    | .lib _ => [.keyfile "b"]) [] []]

/-- In every state that is reached, an exposed profile is held by a storage of its UUID and not hidden
by a tombstone in `/run`, and it is exposed for no other UUID. -/
theorem run_exposed (cfg : SettingsConfig) (calls : List SettingsCall)
    (lawful : (machine cfg).Lawful new calls) (uuid : Uuid) (settConn : Nat)
    (exposed : ((machine cfg).run new calls).getConnectionByUuid uuid = some settConn) :
    let s := (machine cfg).run new calls
    HoldsProfile s uuid (s.connections settConn).storage ∧
      (s.connections settConn).connection.uuid = uuid ∧
      (∀ sd ∈ s.sdLst uuid, (s.keyfile.heap sd.storage).isKeyfileRun = true →
        (s.keyfile.heap sd.storage).isMetaData.isSome = false) ∧
      ∀ other, s.getConnectionByUuid other = some settConn → other = uuid := by
  intro s
  have settled : Settled s := (run_settingsInv lawful).toSettled
  obtain ⟨entry, entry_eq, -, exposes, holds, same⟩ := settled.exposed exposed
  refine ⟨holds, same, ?_, fun other exposed => ?_⟩
  · rw [sdLst, entry_eq]
    exact exposes.unhidden
  · obtain ⟨-, -, -, -, -, other_same⟩ := settled.exposed exposed
    exact other_same.symm.trans same

theorem run_exposed_twoFiles :
    HoldsProfile ((machine usualConfig).run new twoFilesCalls) "u" 0 :=
  (run_exposed usualConfig twoFilesCalls ⟨⟨trivial, trivial⟩, trivial⟩ "u" 0
    (by decide +kernel)).1

end NMSettings

end NetworkManager
