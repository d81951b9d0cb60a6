import NetworkManager.Settings.Exposure

/-!
# Profiles that were updated

An update gives priority to the storage that it writes.  It does not remove tombstones: a tombstone
in `/etc` hides what is written to disk, and so do the tombstones that the update sets itself when
it cannot delete the storage that it replaces.
-/

namespace NetworkManager

namespace NMSettings

open NMSettingsStorage

variable {cfg : SettingsConfig} {s s' : NMSettings} {uuid : Uuid} {storage settConn : Nat}
  {entry : SettConnEntry} {connection connection' : NMConnection} {settFlags settMask : IntFlags}
  {outcome : FileOutcome} {persistMode : PersistMode} {ignoreFailure newInMemory : Bool}
  {persisted : Persisted}

/-- A profile that is added in memory is in `/run`. -/
theorem addToPlugins_inMemory (keyfile : s.keyfile.Inv) {settConnEntry : Option SettConnEntry}
    {shadowedStorage : Option Filename} {shadowedOwned : Bool} {plugins : List NMSettingsPlugin}
    {firstError : Option String}
    (added : addToPlugins cfg s settConnEntry connection true settFlags shadowedStorage
      shadowedOwned outcome plugins firstError = .ok (s', storage, connection')) :
    (s'.keyfile.heap storage).isKeyfileRun = true := by
  induction plugins generalizing firstError with
  | nil => cases added
  | cons plugin plugins ih =>
    rw [addToPlugins] at added
    split at added
    · cases added
    · split at added
      · exact ih added
      · rename_i is_keyfile
        have plugin_eq : plugin = .keyfile := by simpa using is_keyfile
        subst plugin_eq
        split at added
        · exact ih added
        · rename_i result
          obtain ⟨rfl, rfl, -⟩ : _ ∧ _ ∧ _ := by simpa using added
          unfold pluginAddConnection at result
          dsimp only at result
          split at result
          · cases result
          · rename_i step_result
            obtain ⟨rfl, rfl, -⟩ : _ ∧ _ ∧ _ := by simpa using result
            obtain ⟨-, -, -, -, -, type_eq⟩ :=
              NMSKeyfilePlugin.addConnection_step keyfile step_result
            exact decide_eq_true type_eq

variable {curStorage : Nat} {mode : PersistMode}

/-- An update in memory writes to `/run`, if it does not add the profile. -/
theorem updatePlan_inMemory {heap : Nat → NMSettingsStorage}
    (planned : (updatePlan heap entry curStorage mode true).updateStorage = some storage) :
    storage = curStorage ∧ (heap curStorage).isKeyfileRun = true := by
  unfold updatePlan at planned
  dsimp only at planned
  cases run : (heap curStorage).isKeyfileRun with
  | true =>
    rw [run] at planned
    repeat' split at planned
    all_goals
      first
        | exact ⟨(Option.some.inj planned).symm, rfl⟩
        | simp_all
  | false =>
    rw [run] at planned
    repeat' split at planned
    all_goals simp_all

theorem updatePlan_drop_onDisk {heap : Nat → NMSettingsStorage}
    (on_disk : (heap curStorage).isKeyfileRun = false)
    (planned : (updatePlan heap entry curStorage mode newInMemory).dropStorage = some storage) :
    storage = curStorage ∧ newInMemory = true := by
  unfold updatePlan at planned
  dsimp only at planned
  rw [on_disk] at planned
  cases newInMemory with
  | true =>
    repeat' split at planned
    all_goals simp_all
  | false =>
    repeat' split at planned
    all_goals simp_all

/-- What persisting a profile comes to: it is written, in memory to `/run`, or a failure is
ignored. -/
theorem persist_cases (keyfile : s.keyfile.Inv) (allocated : curStorage < s.keyfile.next)
    (profile : Written cfg.dirs s persisted.settings uuid persisted.newStorage
      persisted.newConnection)
    (done : s.persist cfg entry curStorage connection mode newInMemory settFlags ignoreFailure
      outcome = .ok persisted) :
    (s.persist cfg entry curStorage connection mode newInMemory settFlags false outcome =
        .ok persisted ∧ (newInMemory = true →
          (persisted.settings.keyfile.heap persisted.newStorage).isKeyfileRun = true)) ∨
      persisted.settings = s ∧ persisted.newStorage = curStorage ∧
        ∃ error, s.persist cfg entry curStorage connection mode newInMemory settFlags false outcome =
          .error error := by
  unfold persist at done ⊢
  dsimp only at done ⊢
  split at done
  · split at done
    · rename_i result
      obtain rfl := Except.ok.inj done
      refine Or.inl ⟨rfl, fun in_memory => ?_⟩
      subst in_memory
      exact addToPlugins_inMemory keyfile result
    · split at done
      · obtain rfl := Except.ok.inj done
        exact Or.inr ⟨rfl, rfl, _, rfl⟩
      · cases done
  · rename_i planned
    split at done
    · rename_i result
      obtain rfl := Except.ok.inj done
      refine Or.inl ⟨rfl, fun in_memory => ?_⟩
      subst in_memory
      obtain ⟨rfl, run⟩ := updatePlan_inMemory planned
      exact (isKeyfileRun_eq_of_identity (profile.step.identity _ allocated)).trans run
    · split at done
      · obtain rfl := Except.ok.inj done
        exact Or.inr ⟨rfl, rfl, _, rfl⟩
      · cases done

def UpdateWrites (cfg : SettingsConfig) (s : NMSettings) (uuid : Uuid) (settConn : Nat)
    (newProfile : Option NMConnection) (persistMode : PersistMode) (settFlags settMask : IntFlags)
    (defaultWired : Bool) (outcome : FileOutcome) : Prop :=
  ∃ connection persisted, s.updateProfile cfg settConn uuid newProfile = .ok connection ∧
    s.persist cfg ((s.sceIdx uuid).getD .new) (s.connections settConn).storage connection
      (s.updateMode settConn persistMode settFlags settMask defaultWired)
      (s.updateInMemory settConn persistMode settFlags settMask defaultWired)
      (updateFlags (s.updateInMemory settConn persistMode settFlags settMask defaultWired) settFlags)
      false outcome = .ok persisted

/-- The storage that an update replaces. -/
def updateDrops (s : NMSettings) (uuid : Uuid) (settConn : Nat) (persistMode : PersistMode)
    (settFlags settMask : IntFlags) (defaultWired : Bool) : Option Nat :=
  if s.updateMode settConn persistMode settFlags settMask defaultWired = .noPersist then none
  else
    (updatePlan s.keyfile.heap ((s.sceIdx uuid).getD .new) (s.connections settConn).storage
      (s.updateMode settConn persistMode settFlags settMask defaultWired)
      (s.updateInMemory settConn persistMode settFlags settMask defaultWired)).dropStorage

/-- Nothing hides the profile after an update. -/
structure UpdateUnhidden (cfg : SettingsConfig) (s : NMSettings) (uuid : Uuid) (settConn : Nat)
    (newProfile : Option NMConnection) (persistMode : PersistMode) (settFlags settMask : IntFlags)
    (defaultWired : Bool) (outcome : FileOutcome) : Prop where
  /-- If there is a tombstone of the UUID, the profile is in memory, and stays or arrives there. -/
  tombstone : ∀ sd ∈ s.sdLst uuid, (s.keyfile.heap sd.storage).isMetaData.isSome = true →
    s.updateInMemory settConn persistMode settFlags settMask defaultWired = true ∧
      ((s.keyfile.heap (s.connections settConn).storage).isKeyfileRun = true ∨
        UpdateWrites cfg s uuid settConn newProfile persistMode settFlags settMask defaultWired
          outcome)
  /-- A storage that is replaced can be deleted, or a tombstone on disk hides it from the profile in
  memory. -/
  dropped : ∀ storage,
    updateDrops s uuid settConn persistMode settFlags settMask defaultWired = some storage →
    (storage = (s.connections settConn).storage →
      UpdateWrites cfg s uuid settConn newProfile persistMode settFlags settMask defaultWired
        outcome) →
    deletable s.keyfile.heap outcome storage = true ∨
      (s.keyfile.heap (s.connections settConn).storage).isKeyfileRun = false ∧
        writableOnDisk cfg outcome = true

section Updated

variable {newProfile : Option NMConnection} {defaultWired : Bool}

theorem Updates.written_or_stays (inv : SettingsInv cfg s)
    (profile_eq : s.updateProfile cfg settConn uuid newProfile = .ok connection)
    (updates : Updates cfg s settConn uuid entry
      (s.updateMode settConn persistMode settFlags settMask defaultWired)
      (s.updateInMemory settConn persistMode settFlags settMask defaultWired) ignoreFailure
      (updateFlags (s.updateInMemory settConn persistMode settFlags settMask defaultWired) settFlags)
      outcome connection persisted) :
    (UpdateWrites cfg s uuid settConn newProfile persistMode settFlags settMask defaultWired outcome ∧
        (s.updateInMemory settConn persistMode settFlags settMask defaultWired = true →
          (persisted.settings.keyfile.heap persisted.newStorage).isKeyfileRun = true)) ∨
      persisted.settings = s ∧ persisted.newStorage = (s.connections settConn).storage ∧
        (s.updateMode settConn persistMode settFlags settMask defaultWired = .noPersist ∨
          ¬ UpdateWrites cfg s uuid settConn newProfile persistMode settFlags settMask defaultWired
            outcome) := by
  have stored := updates.stored
  split at stored
  · rename_i no_persist
    rw [← Except.ok.inj stored]
    exact Or.inr ⟨rfl, rfl, Or.inl no_persist⟩
  · have entry_eq : (s.sceIdx uuid).getD .new = entry := by rw [updates.entry_eq, Option.getD_some]
    rcases persist_cases inv.keyfile updates.current.allocated updates.profile stored with
      ⟨written, in_run⟩ | ⟨same, stays, error, failed⟩
    · refine Or.inl ⟨⟨connection, persisted, profile_eq, ?_⟩, in_run⟩
      rw [entry_eq]
      exact written
    · refine Or.inr ⟨same, stays, Or.inr ?_⟩
      rintro ⟨other, result, other_eq, written⟩
      obtain rfl := Except.ok.inj (profile_eq.symm.trans other_eq)
      rw [entry_eq, failed] at written
      cases written

theorem Updates.dropStorage_eq (inv : SettingsInv cfg s) {connection : NMConnection}
    (updates : Updates cfg s settConn uuid entry
      (s.updateMode settConn persistMode settFlags settMask defaultWired)
      (s.updateInMemory settConn persistMode settFlags settMask defaultWired) ignoreFailure
      (updateFlags (s.updateInMemory settConn persistMode settFlags settMask defaultWired) settFlags)
      outcome connection persisted) :
    persisted.dropStorage = updateDrops s uuid settConn persistMode settFlags settMask
      defaultWired := by
  have stored := updates.stored
  unfold updateDrops
  split at stored
  · rename_i no_persist
    rw [← Except.ok.inj stored, if_pos no_persist]
  · rename_i persists
    rw [if_neg persists, updates.entry_eq, Option.getD_some]
    exact (persist_written inv.toSettled updates.entry_eq updates.current updates.same_uuid
      stored).2

theorem Updates.exposed (inv : SettingsInv cfg s)
    (profile_eq : s.updateProfile cfg settConn uuid newProfile = .ok connection)
    (updates : Updates cfg s settConn uuid entry
      (s.updateMode settConn persistMode settFlags settMask defaultWired)
      (s.updateInMemory settConn persistMode settFlags settMask defaultWired) ignoreFailure
      (updateFlags (s.updateInMemory settConn persistMode settFlags settMask defaultWired) settFlags)
      outcome connection persisted)
    (unhidden : UpdateUnhidden cfg s uuid settConn newProfile persistMode settFlags settMask
      defaultWired outcome) (newFlags newMask : IntFlags) :
    (finishUpdate cfg persisted uuid (s.connections settConn).storage newFlags newMask
      outcome).ExposesFrom uuid settConn persisted.newStorage persisted.newConnection := by
  have cur := updates.current
  have tracked_inv := inv.toTrackInv.written updates.profile true
  have identity : ∀ storage < s.keyfile.next, ((persisted.settings.track persisted.newStorage
      (some persisted.newConnection) true).keyfile.heap storage).identity =
        (s.keyfile.heap storage).identity := updates.profile.step.identity
  have new_allocated : persisted.newStorage < (persisted.settings.track persisted.newStorage
      (some persisted.newConnection) true).keyfile.next :=
    (updates.profile.step.event _ (List.mem_singleton_self _)).allocated
  obtain ⟨storages, run, reported⟩ := @dropReplaced_retracts cfg _ uuid outcome tracked_inv _
    (s.connections settConn).storage fun storage dropped => (updates.drop_holds storage dropped).2.2
  rw [finishUpdate_eq]
  generalize dropReplaced cfg (persisted.settings.track persisted.newStorage
    (some persisted.newConnection) true) (persisted.dropStorage.filter
      fun storage => decide (storage ≠ persisted.newStorage)) uuid
    (s.connections settConn).storage outcome = after at run reported
  have new_profile : (after.keyfile.heap persisted.newStorage).isMetaData.isSome = false :=
    (isMetaData_eq_of_identity (run.identity new_allocated)).trans
      updates.profile.profile
  have unreported : persisted.newStorage ∉ storages := by
    intro mem
    rcases reported _ mem with dropped | ⟨inMemory, named, -⟩
    · exact (updates.drop_holds _ dropped).1 rfl
    · rw [(tombstone_of_filename named).2.1] at new_profile
      cases new_profile
  have not_hidden : ∀ other ∈ after.keyfile.storages.storageLst,
      (after.keyfile.heap other).isMetaData.isSome = true →
      (other ∈ storages ∨ ∃ old ∈ s.sdLst uuid, old.storage = other) →
      (after.keyfile.heap other).isKeyfileRun = false ∧
        (after.keyfile.heap persisted.newStorage).isKeyfileRun = true := by
    intro other _ is_meta origin
    rw [isKeyfileRun_eq_of_identity (run.identity new_allocated)]
    rcases origin with mem | ⟨old, old_mem, rfl⟩
    · rcases reported other mem with dropped | ⟨inMemory, named, ⟨drop, drop_eq, cannot⟩, placed⟩
      · -- What is dropped is a profile.
        have holds := (updates.drop_holds other dropped).2.2
        rw [isMetaData_eq_of_identity (run.identity holds.allocated), holds.profile] at is_meta
        cases is_meta
      · obtain ⟨different, holds, -⟩ := updates.drop_holds drop drop_eq
        rw [deletable_eq_of_identity (identity drop holds.allocated)] at cannot
        have drops := (Option.filter_eq_some_iff.mp drop_eq).1
        rw [updates.dropStorage_eq inv] at drops
        have writes : drop = (s.connections settConn).storage →
            UpdateWrites cfg s uuid settConn newProfile persistMode settFlags settMask defaultWired
              outcome := by
          intro is_cur
          rcases updates.written_or_stays inv profile_eq with ⟨writes, -⟩ | ⟨-, stays, -⟩
          · exact writes
          · exact absurd (is_cur.trans stays.symm) different
        obtain ⟨on_disk, writable⟩ := (unhidden.dropped drop drops writes).resolve_left
          (by rw [cannot]; exact Bool.false_ne_true)
        have cur_run := isKeyfileRun_eq_of_identity (identity _ cur.allocated)
        cases inMemory with
        | true =>
          rcases placed with in_run | unwritable
          · rw [cur_run, on_disk] at in_run
            cases in_run
          · rw [writable] at unwritable
            cases unwritable
        | false =>
          refine ⟨(tombstone_of_filename named).2.2, ?_⟩
          unfold updateDrops at drops
          split at drops
          · cases drops
          · obtain ⟨is_cur, in_memory⟩ := updatePlan_drop_onDisk on_disk drops
            rcases updates.written_or_stays inv profile_eq with ⟨-, in_run⟩ | ⟨-, stays, -⟩
            · exact in_run in_memory
            · exact absurd (is_cur.trans stays.symm) different
    · have old_listed : old ∈ entry.sdLst := by
        unfold sdLst at old_mem
        rwa [updates.entry_eq] at old_mem
      have old_ok := (inv.entry uuid entry updates.entry_eq).sd_ok old old_listed
      have old_identity := (run.identity (Nat.lt_of_lt_of_le old_ok.allocated
        updates.profile.step.next_le)).trans (identity old.storage old_ok.allocated)
      rw [isMetaData_eq_of_identity old_identity] at is_meta
      refine ⟨?_, ?_⟩
      · rw [isKeyfileRun_eq_of_identity old_identity]
        by_contra in_run
        rw [Bool.not_eq_false] at in_run
        rw [updates.exposes.unhidden old old_listed in_run] at is_meta
        cases is_meta
      · obtain ⟨in_memory, stays_or_writes⟩ := unhidden.tombstone old old_mem is_meta
        rcases updates.written_or_stays inv profile_eq with ⟨-, in_run⟩ | ⟨same, stays, either⟩
        · exact in_run in_memory
        · show (persisted.settings.keyfile.heap persisted.newStorage).isKeyfileRun = true
          rw [same, stays]
          rcases stays_or_writes with in_run | writes
          · exact in_run
          · rcases either with no_persist | fails
            · unfold updateInMemory at in_memory
              rwa [no_persist] at in_memory
            · exact absurd writes fails
  obtain ⟨exposed, exposes, same⟩ := written_exposed inv updates.profile run unreported not_hidden
    newFlags newMask false
  have before : s.getConnectionByUuid uuid = some settConn := by
    unfold getConnectionByUuid
    rw [updates.entry_eq]
    exact updates.settConn_eq
  rw [same settConn before] at exposes
  exact exposes

/-- In every state that is reached, a profile that is updated successfully stays exposed, from the
storage that was written, if nothing hides it. -/
theorem updateConnection_exposes (cfg : SettingsConfig) (calls : List SettingsCall)
    (lawful : (machine cfg).Lawful new calls) (s : NMSettings)
    (reached : s = (machine cfg).run new calls) (uuid : Uuid) (settConn : Nat)
    (exposed : s.getConnectionByUuid uuid = some settConn) (newProfile : Option NMConnection)
    (persistMode : PersistMode) (settFlags settMask : IntFlags) (ignoreFailure defaultWired : Bool)
    (outcome : FileOutcome)
    (unhidden : UpdateUnhidden cfg s uuid settConn newProfile persistMode settFlags settMask
      defaultWired outcome)
    (s' : NMSettings) (newStorage : Nat) (newConnection : NMConnection)
    (updated : s.updateConnection cfg settConn newProfile persistMode settFlags settMask
      ignoreFailure defaultWired outcome = (s', .ok (newStorage, newConnection))) :
    s'.ExposesFrom uuid settConn newStorage newConnection := by
  have inv : SettingsInv cfg s := reached ▸ run_settingsInv lawful
  rcases @updateConnection_cases cfg s uuid settConn settFlags settMask outcome persistMode
    ignoreFailure defaultWired newProfile inv exposed with
    ⟨error, eq⟩ | ⟨entry, normal, newMask, persisted, profile_eq, updates, eq⟩
  · rw [eq] at updated
    cases updated
  · rw [eq] at updated
    obtain ⟨rfl, result⟩ := Prod.mk.inj updated
    obtain ⟨rfl, rfl⟩ := Prod.mk.inj (Except.ok.inj result)
    exact updates.exposed inv profile_eq unhidden _ newMask

end Updated

/-- The profile in `/etc` is moved to memory, although its file cannot be deleted: a tombstone in
`/etc` hides it. -/
theorem updateConnection_exposes_inMemory :
    (((machine usualConfig).run new twoFilesCalls).updateConnection usualConfig 0
      (some ⟨"u", "new"⟩) .inMemoryOnly .none .none false false
      (usualOutcome "c" false true)).1.ExposesFrom "u" 0 2 ⟨"u", "new"⟩ := by
  have exposed : ((machine usualConfig).run new twoFilesCalls).getConnectionByUuid "u" =
      some 0 := by decide +kernel
  have no_tombstone : ∀ sd ∈ ((machine usualConfig).run new twoFilesCalls).sdLst "u",
      (((machine usualConfig).run new twoFilesCalls).keyfile.heap
        sd.storage).isMetaData.isSome = false := by decide +kernel
  have on_disk : (((machine usualConfig).run new twoFilesCalls).keyfile.heap
      (((machine usualConfig).run new twoFilesCalls).connections 0).storage).isKeyfileRun =
      false := by decide +kernel
  have result : (((machine usualConfig).run new twoFilesCalls).updateConnection usualConfig 0
      (some ⟨"u", "new"⟩) .inMemoryOnly .none .none false false (usualOutcome "c" false true)).2 =
      .ok (2, ⟨"u", "new"⟩) := by decide +kernel
  refine updateConnection_exposes usualConfig twoFilesCalls ⟨⟨trivial, trivial⟩, trivial⟩ _ rfl "u" 0
    exposed (some ⟨"u", "new"⟩) .inMemoryOnly .none .none false false (usualOutcome "c" false true)
    ⟨fun sd mem is_meta => ?_, fun _ _ _ => Or.inr ⟨on_disk, rfl⟩⟩ _ 2 ⟨"u", "new"⟩
    (Prod.ext rfl result)
  rw [no_tombstone sd mem] at is_meta
  cases is_meta

/-- A profile in `/usr/lib` is deleted, which leaves a tombstone in `/etc`, and then added again in
memory. -/
def hiddenOnDiskCalls : List SettingsCall :=
  [.reload (NMSKeyfilePlugin.twoFiles "v" true) (fun
      | .lib _ => [.keyfile "b"]
      | _ => []) [] [],
    .delete 0 (usualOutcome "c" true true),
    .add ⟨"u", "new"⟩ .inMemoryOnly .none (usualOutcome "c" true true)]

/-- When the profile is saved to disk, the update succeeds, and the tombstone hides the profile. -/
theorem updateConnection_hidden :
    (machine usualConfig).Lawful new hiddenOnDiskCalls ∧
      ((machine usualConfig).run new hiddenOnDiskCalls).getConnectionByUuid "u" = some 1 ∧
      (((machine usualConfig).run new hiddenOnDiskCalls).updateConnection usualConfig 1
        (some ⟨"u", "newer"⟩) .toDisk .none .none false false (usualOutcome "d" true true)).2 =
        .ok (3, ⟨"u", "newer"⟩) ∧
      (((machine usualConfig).run new hiddenOnDiskCalls).updateConnection usualConfig 1
        (some ⟨"u", "newer"⟩) .toDisk .none .none false false
        (usualOutcome "d" true true)).1.getConnectionByUuid "u" = none := by
  refine ⟨⟨⟨trivial, trivial⟩, ⟨"u", ?_⟩, trivial, trivial⟩, ?_, ?_, ?_⟩
  · decide +kernel
  · decide +kernel
  · decide +kernel
  · decide +kernel

end NMSettings

end NetworkManager
