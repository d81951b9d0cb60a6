import NetworkManager.Settings.Deleting

/-!
# Runs of the settings

The settings are a machine whose inputs are the calls of the operations, with what the file system
and the other plugins answer.  Between two calls there are no changes that were not processed.
-/

namespace NetworkManager

open NMSettingsStorage

/-- The invariant between two calls. -/
structure SettingsInv (cfg : SettingsConfig) (s : NMSettings) : Prop extends Settled s where
  /-- Keyfile storages are in the directories of the plugin. -/
  placed : s.keyfile.Placed cfg.dirs

namespace NMSettings

variable {cfg : SettingsConfig} {s s' : NMSettings} {uuid : Uuid} {storage settConn : Nat}
  {connection connection' : NMConnection} {settFlags settMask : IntFlags} {outcome : FileOutcome}
  {persistMode : PersistMode}

theorem settingsInv_processAllDirty (inv : TrackInv [] s) (placed : s.keyfile.Placed cfg.dirs)
    (settFlags settMask : IntFlags) (override : Bool) :
    SettingsInv cfg (s.processAllDirty cfg.plugins settFlags settMask override) := by
  refine ⟨inv.processAllDirty _ _ _ _, ?_⟩
  rw [processAllDirty_keyfile _ _ _ _ inv]
  exact placed

theorem track_written_entry (written : Written cfg.dirs s s' uuid storage connection)
    (settled : Settled s) :
    (s'.track storage (some connection) true).sceIdx uuid =
      some { (s.sceIdx uuid).getD .new with dirtySdLst := [⟨storage, some connection, true⟩] } := by
  have tracked := @track_sceIdx_self s' storage (some connection) true
  have sceIdx_eq : s'.sceIdx = s.sceIdx := by
    rw [written.frame]
  have clean : ((s.sceIdx uuid).getD .new).dirtySdLst = [] := by
    cases entry_eq : s.sceIdx uuid with
    | none => rfl
    | some entry => exact settled.dirtySdLst entry_eq
  rw [written.storage_uuid, sceIdx_eq] at tracked
  rw [tracked, clean]
  simp [trackSd]

/-- What happens when a profile is added. -/
structure Adds (cfg : SettingsConfig) (s : NMSettings) (uuid : Uuid) (storage : Nat)
    (connection : NMConnection) (written : NMSettings) (storages : List Nat)
    (after : NMSettings) : Prop where
  absent : s.getConnectionByUuid uuid = none
  profile : Written cfg.dirs s written uuid storage connection
  dropped : TombstonesDropped cfg.dirs (written.track storage (some connection) true)
    (written.keyfile.heap storage).isKeyfileRun ((s.sceIdx uuid).getD .new).sdLst storages after

theorem Adds.settingsInv {written after : NMSettings} {storages : List Nat}
    (adds : Adds cfg s uuid storage connection written storages after) (inv : SettingsInv cfg s)
    (settFlags settMask : IntFlags) :
    SettingsInv cfg (after.processAllDirty cfg.plugins settFlags settMask false) := by
  have tracked := inv.toTrackInv.written adds.profile true
  refine settingsInv_processAllDirty (adds.dropped.retracts.trackInv tracked) ?_ _ _ _
  exact adds.dropped.retracts.placed (adds.profile.placed inv.placed)

theorem addConnection_cases (inv : SettingsInv cfg s) :
    (∃ error, s.addConnection cfg connection persistMode settFlags outcome = (s, .error error)) ∨
      ∃ storage newConnection written storages after,
        Adds cfg s connection.uuid storage newConnection written storages after ∧
        s.addConnection cfg connection persistMode settFlags outcome =
          (after.processAllDirty cfg.plugins settFlags .persistentMask false,
            .ok (storage, newConnection)) := by
  unfold addConnection
  dsimp only
  cases exposed : s.getConnectionByUuid connection.uuid with
  | some settConn => exact Or.inl ⟨_, rfl⟩
  | none =>
    rw [if_neg (by simp)]
    cases normalized : cfg.ensureNormalized none connection with
    | error message => exact Or.inl ⟨_, rfl⟩
    | ok normal =>
      have normal_uuid : normal.uuid = connection.uuid :=
        cfg.ensureNormalized_uuid none connection normal normalized
      dsimp only
      cases result : s.addWrite cfg normal
        (decide (persistMode ≠ .toDisk) || settFlags.any) settFlags outcome with
      | error error => exact Or.inl ⟨_, rfl⟩
      | ok new =>
        obtain ⟨written, storage, newConnection⟩ := new
        have profile := addWrite_written inv.toSettled result
        rw [normal_uuid] at profile
        have tracked_inv := inv.toTrackInv.written profile true
        have entry_eq := track_written_entry profile inv.toSettled
        have ok : ∀ sd ∈ ((s.sceIdx connection.uuid).getD .new).sdLst,
            ((written.track storage (some newConnection) true).keyfile.heap
              sd.storage).getUuid = connection.uuid ∧ sd.storage <
              (written.track storage (some newConnection) true).keyfile.next := by
          intro sd mem
          have sd_ok := (tracked_inv.entry _ _ entry_eq).sd_ok sd mem
          exact ⟨sd_ok.uuid_eq, sd_ok.allocated⟩
        obtain ⟨storages, dropped⟩ := @foldl_dropTombstone_dropped cfg
          (written.track storage (some newConnection) true) connection.uuid outcome
          (written.keyfile.heap storage).isKeyfileRun _ tracked_inv.keyfile
          (profile.placed inv.placed) ok
        refine Or.inr ⟨storage, newConnection, written, storages, _,
          ⟨exposed, profile, dropped⟩, ?_⟩
        dsimp only
        rw [entry_eq]
        rfl

def updateMode (s : NMSettings) (settConn : Nat) (persistMode : PersistMode)
    (settFlags settMask : IntFlags) (defaultWired : Bool) : PersistMode :=
  effectivePersistMode persistMode
    (s.keyfile.heap (s.connections settConn).storage).isKeyfileRun defaultWired settFlags settMask
    (s.connections settConn).flags

/-- Whether an update writes the profile to `/run`. -/
def updateInMemory (s : NMSettings) (settConn : Nat) (persistMode : PersistMode)
    (settFlags settMask : IntFlags) (defaultWired : Bool) : Bool :=
  (s.updateMode settConn persistMode settFlags settMask defaultWired).newInMemory
    (s.keyfile.heap (s.connections settConn).storage).isKeyfileRun

def updateProfile (cfg : SettingsConfig) (s : NMSettings) (settConn : Nat) (uuid : Uuid)
    (newProfile : Option NMConnection) : Except String NMConnection :=
  match newProfile with
  | some connection => cfg.ensureNormalized (some uuid) connection
  | none => .ok (s.connections settConn).connection

def updateFlags (inMemory : Bool) (settFlags : IntFlags) : IntFlags :=
  if inMemory then settFlags else .none

/-- What happens when a profile is updated. -/
structure Updates (cfg : SettingsConfig) (s : NMSettings) (settConn : Nat) (uuid : Uuid)
    (entry : SettConnEntry) (mode : PersistMode) (newInMemory ignoreFailure : Bool)
    (settFlags : IntFlags) (outcome : FileOutcome) (connection : NMConnection)
    (persisted : Persisted) : Prop where
  entry_eq : s.sceIdx uuid = some entry
  settConn_eq : entry.settConn = some settConn
  exposes : Exposes s entry settConn
  current : HoldsProfile s uuid (s.connections settConn).storage
  same_uuid : connection.uuid = uuid
  stored : (if mode = .noPersist then
      .ok (Persisted.mk s (s.connections settConn).storage connection none)
    else s.persist cfg entry (s.connections settConn).storage connection mode newInMemory settFlags
      ignoreFailure outcome) = .ok persisted
  profile : Written cfg.dirs s persisted.settings uuid persisted.newStorage persisted.newConnection
  dropped : ∀ storage, persisted.dropStorage = some storage → HoldsProfile s uuid storage

theorem updateConnection_cases {ignoreFailure defaultWired : Bool}
    {newProfile : Option NMConnection} (inv : SettingsInv cfg s)
    (exposed : s.getConnectionByUuid uuid = some settConn) :
    (∃ error, s.updateConnection cfg settConn newProfile persistMode settFlags settMask
        ignoreFailure defaultWired outcome = (s, .error error)) ∨
      ∃ entry connection newMask persisted,
        s.updateProfile cfg settConn uuid newProfile = .ok connection ∧
        Updates cfg s settConn uuid entry
          (s.updateMode settConn persistMode settFlags settMask defaultWired)
          (s.updateInMemory settConn persistMode settFlags settMask defaultWired) ignoreFailure
          (updateFlags (s.updateInMemory settConn persistMode settFlags settMask defaultWired)
            settFlags) outcome connection persisted ∧
        s.updateConnection cfg settConn newProfile persistMode settFlags settMask ignoreFailure
            defaultWired outcome =
          (finishUpdate cfg persisted uuid (s.connections settConn).storage
            (updateFlags (s.updateInMemory settConn persistMode settFlags settMask defaultWired)
              settFlags) newMask outcome,
            .ok (persisted.newStorage, persisted.newConnection)) := by
  obtain ⟨entry, entry_eq, settConn_eq, exposes, current, old_uuid⟩ := inv.exposed exposed
  unfold updateConnection
  dsimp only
  rw [current.uuid_eq, entry_eq, Option.getD_some]
  split
  · exact Or.inl ⟨_, rfl⟩
  · rename_i connection result
    have same_uuid : connection.uuid = uuid := by
      split at result
      · exact cfg.ensureNormalized_uuid (some uuid) _ connection result
      · rw [← Except.ok.inj result, old_uuid]
    split
    · exact Or.inl ⟨_, rfl⟩
    · rename_i persisted done
      refine Or.inr ⟨entry, connection, _, persisted, result,
        ⟨entry_eq, settConn_eq, exposes, current, same_uuid, done, ?_, ?_⟩, rfl⟩
      · split at done
        · rw [← Except.ok.inj done]
          exact written_again inv.keyfile current same_uuid
        · exact (persist_written inv.toSettled entry_eq current same_uuid done).1
      · intro storage dropped
        split at done
        · rw [← Except.ok.inj done] at dropped
          cases dropped
        · rw [(persist_written inv.toSettled entry_eq current same_uuid done).2] at dropped
          exact updatePlan_holds inv.toSettled entry_eq current (Or.inr dropped)

variable {entry : SettConnEntry}

section

variable {mode : PersistMode} {newInMemory ignoreFailure : Bool} {persisted : Persisted}
  (updates : Updates cfg s settConn uuid entry mode newInMemory ignoreFailure settFlags outcome connection persisted)

include updates

theorem Updates.drop_holds (storage : Nat)
    (dropped : (persisted.dropStorage.filter
      fun storage => decide (storage ≠ persisted.newStorage)) = some storage) :
    storage ≠ persisted.newStorage ∧ HoldsProfile s uuid storage ∧
      HoldsProfile (persisted.settings.track persisted.newStorage (some persisted.newConnection)
        true) uuid storage := by
  obtain ⟨drop, different⟩ := Option.filter_eq_some_iff.mp dropped
  have different := of_decide_eq_true different
  have holds := updates.dropped storage drop
  have profile := updates.profile
  rw [← profile.connection_uuid] at profile
  exact ⟨different, holds, holdsProfile_written holds profile different true⟩

theorem Updates.settingsInv (inv : SettingsInv cfg s) (newFlags newMask : IntFlags) :
    SettingsInv cfg (finishUpdate cfg persisted uuid (s.connections settConn).storage newFlags
      newMask outcome) := by
  have tracked := inv.toTrackInv.written updates.profile true
  rw [finishUpdate_eq]
  obtain ⟨storages, retracts, -⟩ := @dropReplaced_retracts cfg _ uuid outcome tracked _
    (s.connections settConn).storage fun storage dropped => (updates.drop_holds storage dropped).2.2
  exact settingsInv_processAllDirty (retracts.trackInv tracked)
    (retracts.placed (updates.profile.placed inv.placed)) _ _ _

end

theorem Deletes.settingsInv {curStorage : Nat} {st : Deleting} {tombstones : List Nat}
    {after : NMSettings} (deletes : Deletes cfg s uuid entry curStorage outcome st tombstones after)
    (inv : SettingsInv cfg s) :
    SettingsInv cfg (after.processAllDirty cfg.plugins .none .none false) := by
  have retracts := deletes.dropped.retracts.trans deletes.hidden.retracts
  exact settingsInv_processAllDirty (retracts.trackInv inv.toTrackInv)
    (retracts.placed inv.placed) _ _ _

/-- What a plugin other than keyfile may report: its own storages, with connections of their
UUID. -/
def LawfulOther (s : NMSettings) : OtherEvent → Prop
  | .new content connection =>
    content.getPlugin ≠ .keyfile ∧ ∀ c ∈ connection, c.uuid = content.getUuid
  | .change storage content connection =>
    storage < s.keyfile.next ∧ content.identity = (s.keyfile.heap storage).identity ∧
      content.getPlugin ≠ .keyfile ∧ ∀ c ∈ connection, c.uuid = content.getUuid

/-- All the reports are such ones. -/
def LawfulOthers (s : NMSettings) : List OtherEvent → Prop
  | [] => True
  | event :: events => s.LawfulOther event ∧ LawfulOthers (s.trackOther event) events

theorem trackOther_inv {event : OtherEvent} (inv : TrackInv [] s)
    (placed : s.keyfile.Placed cfg.dirs) (lawful : s.LawfulOther event) :
    TrackInv [] (s.trackOther event) ∧ (s.trackOther event).keyfile.Placed cfg.dirs := by
  cases event with
  | new content connection =>
    obtain ⟨other, same_uuid⟩ := lawful
    have step := NMSKeyfilePlugin.step_objectNew inv.keyfile other connection
    have heap_new : (s.keyfile.objectNew content).heap s.keyfile.next = content := if_pos rfl
    refine ⟨(inv.step step s.files).track (step.event _ (List.mem_singleton_self _)) ?_,
      placed.objectNew (Placed.other other)⟩
    intro c c_eq
    exact (same_uuid c c_eq).trans (congrArg getUuid heap_new).symm
  | change storage content connection =>
    obtain ⟨allocated, identity, other, same_uuid⟩ := lawful
    have step := NMSKeyfilePlugin.step_write inv.keyfile allocated identity other connection
    have heap_new : (s.keyfile.write storage content).heap storage = content := if_pos rfl
    refine ⟨(inv.step step s.files).track (step.event _ (List.mem_singleton_self _)) ?_,
      placed.write (Placed.other other)⟩
    intro c c_eq
    exact (same_uuid c c_eq).trans (congrArg getUuid heap_new).symm

theorem foldl_trackOther_inv {events : List OtherEvent} (inv : TrackInv [] s)
    (placed : s.keyfile.Placed cfg.dirs) (lawful : s.LawfulOthers events) :
    TrackInv [] (events.foldl trackOther s) ∧
      (events.foldl trackOther s).keyfile.Placed cfg.dirs := by
  induction events generalizing s with
  | nil => exact ⟨inv, placed⟩
  | cons event events ih =>
    obtain ⟨next_inv, next_placed⟩ := trackOther_inv inv placed lawful.1
    exact ih next_inv next_placed lawful.2

/-- The settings when files may have changed. -/
def refreshFiles (s : NMSettings) (fs : Filename → FileState) : NMSettings :=
  { s with files := fun filename => fileNmmeta (fs filename) }

theorem refreshFiles_inv (inv : TrackInv [] s) (fs : Filename → FileState) :
    TrackInv [] (s.refreshFiles fs) := by
  refine ⟨inv.keyfile, inv.queue_nodup, inv.queue_entry, inv.nonempty, fun uuid entry entry_eq => ?_⟩
  obtain ⟨unique, dirty_unique, sd_ok, dirty_ok, synced, live, exposes, queued⟩ :=
    inv.entry uuid entry entry_eq
  refine ⟨unique, dirty_unique, sd_ok, dirty_ok, synced, live, fun settConn settConn_eq => ?_, queued⟩
  obtain ⟨allocated, storage, listed, unhidden⟩ := exposes settConn settConn_eq
  exact ⟨allocated, storage, listed, unhidden⟩

/-- The settings with what the keyfile plugin reports when it reloads. -/
def keyfileReload (cfg : SettingsConfig) (s : NMSettings) (fs : Filename → FileState)
    (names : NMSKeyfileStorageType → List Basename) : NMSettings :=
  { s with keyfile := (s.keyfile.reloadConnections cfg.dirs fs names).1 }.trackEvents
    (s.keyfile.reloadConnections cfg.dirs fs names).2

def keyfileLoad (cfg : SettingsConfig) (s : NMSettings) (fs : Filename → FileState)
    (entries : List NMSKeyfilePlugin.LoadEntry) : NMSettings :=
  { s with keyfile := (s.keyfile.loadConnections cfg.dirs fs entries).1 }.trackEvents
    (s.keyfile.loadConnections cfg.dirs fs entries).2.1

theorem pluginConnectionsReload_eq (fs : Filename → FileState)
    (names : NMSKeyfileStorageType → List Basename) (before after : List OtherEvent) :
    s.pluginConnectionsReload cfg fs names before after =
      (after.foldl trackOther (keyfileReload cfg (before.foldl trackOther (s.refreshFiles fs)) fs
        names)).processAllDirty cfg.plugins .none .none true := rfl

theorem loadConnections_eq (fs : Filename → FileState)
    (entries : List NMSKeyfilePlugin.LoadEntry) (before after : List OtherEvent) :
    s.loadConnections cfg fs entries before after =
      (after.foldl trackOther (keyfileLoad cfg (before.foldl trackOther (s.refreshFiles fs)) fs
        entries)).processAllDirty cfg.plugins .none .none true := rfl

theorem trackEvents_keyfile (s : NMSettings) (events : List NMSKeyfilePlugin.LoadEvent) :
    (s.trackEvents events).keyfile = s.keyfile := by
  unfold trackEvents
  induction events generalizing s with
  | nil => rfl
  | cons event events ih => exact ih _

theorem keyfileStep_inv {p' : NMSKeyfilePlugin} {events : List NMSKeyfilePlugin.LoadEvent}
    (inv : TrackInv [] s) (step : NMSKeyfilePlugin.Step s.keyfile p' events)
    (same_uuid : ∀ event ∈ events, ∀ connection ∈ event.connection,
      connection.uuid = (p'.heap event.storage).getUuid) :
    TrackInv [] ({ s with keyfile := p' }.trackEvents events) :=
  (inv.step step s.files).trackEvents step.event same_uuid

theorem keyfileReload_inv (inv : TrackInv [] s) (placed : s.keyfile.Placed cfg.dirs)
    (fs : Filename → FileState) (names : NMSKeyfileStorageType → List Basename) :
    TrackInv [] (keyfileReload cfg s fs names) ∧
      (keyfileReload cfg s fs names).keyfile.Placed cfg.dirs := by
  refine ⟨keyfileStep_inv inv (NMSKeyfilePlugin.reloadConnections_step _ fs names inv.keyfile)
    (NMSKeyfilePlugin.reloadConnections_uuid _ fs names inv.keyfile), ?_⟩
  unfold keyfileReload
  rw [trackEvents_keyfile]
  exact NMSKeyfilePlugin.reloadConnections_placed fs names inv.keyfile placed

theorem keyfileLoad_inv (inv : TrackInv [] s) (placed : s.keyfile.Placed cfg.dirs)
    (fs : Filename → FileState) (entries : List NMSKeyfilePlugin.LoadEntry) :
    TrackInv [] (keyfileLoad cfg s fs entries) ∧
      (keyfileLoad cfg s fs entries).keyfile.Placed cfg.dirs := by
  refine ⟨keyfileStep_inv inv (NMSKeyfilePlugin.loadConnections_step _ fs entries inv.keyfile).1
    (NMSKeyfilePlugin.loadConnections_uuid _ fs entries inv.keyfile), ?_⟩
  unfold keyfileLoad
  rw [trackEvents_keyfile]
  exact NMSKeyfilePlugin.loadConnections_placed fs entries inv.keyfile placed

/-- A call, with what the file system and the other plugins answer. -/
inductive SettingsCall where
  | add (connection : NMConnection) (persistMode : PersistMode) (settFlags : IntFlags)
      (outcome : FileOutcome)
  | update (settConn : Nat) (connection : Option NMConnection) (persistMode : PersistMode)
      (settFlags settMask : IntFlags) (ignoreFailure defaultWired : Bool) (outcome : FileOutcome)
  | delete (settConn : Nat) (outcome : FileOutcome)
  /-- `_plugin_connections_reload`. -/
  | reload (fs : Filename → FileState) (names : NMSKeyfileStorageType → List Basename)
      (before after : List OtherEvent)
  /-- `impl_settings_load_connections`. -/
  | load (fs : Filename → FileState) (entries : List NMSKeyfilePlugin.LoadEntry)
      (before after : List OtherEvent)

/-- The settings before the first call. -/
def new : NMSettings where
  keyfile := .new
  files _ := none
  sceIdx _ := none
  sceDirtyLst := []
  connections _ := ⟨0, ⟨"", ""⟩, .none⟩
  nextConnection := 0

def perform (cfg : SettingsConfig) (s : NMSettings) : SettingsCall → NMSettings
  | .add connection persistMode settFlags outcome =>
    (s.addConnection cfg connection persistMode settFlags outcome).1
  | .update settConn connection persistMode settFlags settMask ignoreFailure defaultWired outcome =>
    (s.updateConnection cfg settConn connection persistMode settFlags settMask ignoreFailure
      defaultWired outcome).1
  | .delete settConn outcome => s.deleteConnection cfg settConn outcome
  | .reload fs names before after => s.pluginConnectionsReload cfg fs names before after
  | .load fs entries before after => s.loadConnections cfg fs entries before after

def IsExposed (s : NMSettings) (settConn : Nat) : Prop :=
  ∃ uuid, s.getConnectionByUuid uuid = some settConn

/-- What callers respect: only exposed profiles are updated and deleted, and the other plugins
report their own storages. -/
def Callable (cfg : SettingsConfig) (s : NMSettings) : SettingsCall → Prop
  | .add .. => True
  | .update settConn .. => s.IsExposed settConn
  | .delete settConn _ => s.IsExposed settConn
  | .reload fs names before after =>
    (s.refreshFiles fs).LawfulOthers before ∧
      (keyfileReload cfg (before.foldl trackOther (s.refreshFiles fs)) fs names).LawfulOthers after
  | .load fs entries before after =>
    (s.refreshFiles fs).LawfulOthers before ∧
      (keyfileLoad cfg (before.foldl trackOther (s.refreshFiles fs)) fs entries).LawfulOthers after

def machine (cfg : SettingsConfig) : GuardedMachine NMSettings SettingsCall where
  step s call := s.perform cfg call
  guard s call := s.Callable cfg call

theorem settingsInv_new (cfg : SettingsConfig) : SettingsInv cfg new := by
  refine ⟨⟨⟨NMSKeyfilePlugin.Inv.new, List.nodup_nil, List.forall_mem_nil _, ?_, ?_⟩, rfl⟩,
    NMSKeyfilePlugin.Placed.new _⟩
  · intro uuid entry impossible
    cases impossible
  · intro uuid entry impossible
    cases impossible

theorem perform_settingsInv {call : SettingsCall} (inv : SettingsInv cfg s)
    (callable : s.Callable cfg call) : SettingsInv cfg (s.perform cfg call) := by
  cases call with
  | add connection persistMode settFlags outcome =>
    show SettingsInv cfg (s.addConnection cfg connection persistMode settFlags outcome).1
    rcases @addConnection_cases cfg s connection settFlags outcome persistMode inv with
      ⟨error, eq⟩ | ⟨storage, newConnection, written, storages, after, adds, eq⟩
    · rw [eq]
      exact inv
    · rw [eq]
      exact adds.settingsInv inv _ _
  | update settConn connection persistMode settFlags settMask ignoreFailure defaultWired outcome =>
    obtain ⟨uuid, exposed⟩ := callable
    show SettingsInv cfg (s.updateConnection cfg settConn connection persistMode settFlags settMask
      ignoreFailure defaultWired outcome).1
    rcases @updateConnection_cases cfg s uuid settConn settFlags settMask outcome persistMode
      ignoreFailure defaultWired connection inv exposed with
      ⟨error, eq⟩ | ⟨entry, normal, newMask, persisted, -, updates, eq⟩
    · rw [eq]
      exact inv
    · rw [eq]
      exact updates.settingsInv inv _ newMask
  | delete settConn outcome =>
    obtain ⟨uuid, exposed⟩ := callable
    obtain ⟨entry, st, tombstones, after, -, -, -, deletes, eq⟩ :=
      @deleteConnection_deletes cfg s uuid settConn outcome inv.toSettled exposed
    show SettingsInv cfg (s.deleteConnection cfg settConn outcome)
    rw [eq]
    exact deletes.settingsInv inv
  | reload fs names before after =>
    show SettingsInv cfg (s.pluginConnectionsReload cfg fs names before after)
    rw [pluginConnectionsReload_eq]
    have refreshed := refreshFiles_inv inv.toTrackInv fs
    obtain ⟨first, first_placed⟩ := foldl_trackOther_inv refreshed inv.placed callable.1
    obtain ⟨second, second_placed⟩ := keyfileReload_inv first first_placed fs names
    obtain ⟨third, third_placed⟩ := foldl_trackOther_inv second second_placed callable.2
    exact settingsInv_processAllDirty third third_placed _ _ _
  | load fs entries before after =>
    show SettingsInv cfg (s.loadConnections cfg fs entries before after)
    rw [loadConnections_eq]
    have refreshed := refreshFiles_inv inv.toTrackInv fs
    obtain ⟨first, first_placed⟩ := foldl_trackOther_inv refreshed inv.placed callable.1
    obtain ⟨second, second_placed⟩ := keyfileLoad_inv first first_placed fs entries
    obtain ⟨third, third_placed⟩ := foldl_trackOther_inv second second_placed callable.2
    exact settingsInv_processAllDirty third third_placed _ _ _

theorem run_settingsInv {calls : List SettingsCall} (lawful : (machine cfg).Lawful new calls) :
    SettingsInv cfg ((machine cfg).run new calls) :=
  (machine cfg).run_preserves (fun _ _ inv callable => perform_settingsInv inv callable)
    (settingsInv_new cfg) lawful

end NMSettings

end NetworkManager
