import NetworkManager.Settings.Exposure
import NetworkManager.Settings.KeyfileContents

/-!
# Reloading

When the keyfile plugin is the only one, a reload brings the settings to a state that the files
decide.  Every storage that is still listed was reported with the content of its file and without
priority, and the storages of a UUID are ordered by what their files hold.
-/

namespace NetworkManager

namespace NMSettings

open List NMSettingsStorage

open NMSKeyfilePlugin (LoadEvent Holds Reloaded SameContents)

/-- The changes of a UUID that were not merged yet. -/
def dirtySdLst (s : NMSettings) (uuid : Uuid) : List StorageData :=
  ((s.sceIdx uuid).getD .new).dirtySdLst

/-- The changes that events of a UUID amount to. -/
def eventSds (heap : Nat → NMSettingsStorage) (uuid : Uuid) (events : List LoadEvent) :
    List StorageData :=
  (events.filter fun event => (heap event.storage).getUuid = uuid).map fun event =>
    ⟨event.storage, event.connection, false⟩

variable {s : NMSettings} {uuid : Uuid}

theorem trackSd_new {dirty : List StorageData} {storage : Nat}
    (unchanged : ∀ sd ∈ dirty, sd.storage ≠ storage) (connection : Option NMConnection) :
    trackSd dirty storage connection false = dirty ++ [⟨storage, connection, false⟩] := by
  have none_found : (dirty.any fun sd => sd.storage == storage) = false := by
    rw [any_eq_false]
    intro sd mem
    simp [unchanged sd mem]
  simp [trackSd, none_found]

theorem track_dirtySdLst (storage : Nat) (connection : Option NMConnection)
    (unchanged : ∀ sd ∈ s.dirtySdLst uuid, sd.storage ≠ storage) :
    (s.track storage connection false).dirtySdLst uuid =
      s.dirtySdLst uuid ++ eventSds s.keyfile.heap uuid [⟨storage, connection⟩] := by
  by_cases own : uuid = (s.keyfile.heap storage).getUuid
  · subst own
    unfold dirtySdLst at unchanged ⊢
    rw [track_sceIdx_self]
    simp [trackSd_new unchanged, eventSds]
  · unfold dirtySdLst
    rw [track_sceIdx_other own]
    simp [eventSds, Ne.symm own]

theorem track_sdLst (storage : Nat) (connection : Option NMConnection) (prioritize : Bool) :
    (s.track storage connection prioritize).sdLst uuid = s.sdLst uuid := by
  unfold sdLst
  by_cases own : uuid = (s.keyfile.heap storage).getUuid
  · subst own
    rw [track_sceIdx_self]
    rfl
  · rw [track_sceIdx_other own]

theorem eventSds_cons (heap : Nat → NMSettingsStorage) (event : LoadEvent)
    (events : List LoadEvent) :
    eventSds heap uuid (event :: events) =
      eventSds heap uuid [event] ++ eventSds heap uuid events := by
  unfold eventSds
  rw [← map_append, ← filter_append]
  rfl

variable {sd : StorageData}

theorem mem_eventSds {heap : Nat → NMSettingsStorage} {events : List LoadEvent} :
    sd ∈ eventSds heap uuid events ↔
      ∃ event ∈ events, (heap event.storage).getUuid = uuid ∧
        sd = ⟨event.storage, event.connection, false⟩ := by
  simp [eventSds, and_assoc, eq_comm]

theorem trackEvents_spec {events : List LoadEvent} (nodup : (events.map (·.storage)).Nodup)
    (unchanged : ∀ sd ∈ s.dirtySdLst uuid, ∀ event ∈ events, sd.storage ≠ event.storage) :
    (s.trackEvents events).sdLst uuid = s.sdLst uuid ∧
      (s.trackEvents events).dirtySdLst uuid =
        s.dirtySdLst uuid ++ eventSds s.keyfile.heap uuid events ∧
      ((∀ event ∈ events, (s.keyfile.heap event.storage).getUuid ≠ uuid) →
        (s.trackEvents events).sceIdx uuid = s.sceIdx uuid) := by
  induction events generalizing s with
  | nil => exact ⟨rfl, (append_nil _).symm, fun _ => rfl⟩
  | cons event events ih =>
    obtain ⟨event_new, nodup⟩ := nodup_cons.mp nodup
    have first : (s.track event.storage event.connection false).dirtySdLst uuid =
        s.dirtySdLst uuid ++ eventSds s.keyfile.heap uuid [event] :=
      track_dirtySdLst event.storage event.connection
        fun sd mem => unchanged sd mem event mem_cons_self
    have unchanged' : ∀ sd ∈ (s.track event.storage event.connection false).dirtySdLst uuid,
        ∀ other ∈ events, sd.storage ≠ other.storage := by
      intro sd mem other other_mem
      rw [first] at mem
      rcases mem_append.mp mem with old | new
      · exact unchanged sd old other (mem_cons_of_mem _ other_mem)
      · obtain ⟨same, same_mem, -, rfl⟩ := mem_eventSds.mp new
        rw [mem_singleton.mp same_mem]
        intro same_storage
        exact event_new (mem_map.mpr ⟨other, other_mem, same_storage.symm⟩)
    have rest := ih nodup unchanged'
    refine ⟨rest.1.trans (track_sdLst _ _ _), ?_, ?_⟩
    · refine rest.2.1.trans ?_
      rw [first, append_assoc, eventSds_cons s.keyfile.heap event events]
      rfl
    · intro foreign
      refine (rest.2.2 fun other mem => foreign other (mem_cons_of_mem _ mem)).trans ?_
      exact track_sceIdx_other (Ne.symm (foreign event mem_cons_self))

/-- Only the keyfile plugin has storages. -/
def KeyfileOnly (s : NMSettings) : Prop :=
  ∀ storage < s.keyfile.next, (s.keyfile.heap storage).getPlugin = .keyfile

instance (s : NMSettings) : Decidable s.KeyfileOnly :=
  inferInstanceAs (Decidable (∀ storage < s.keyfile.next, _))

/-- The storages of a UUID are those of the files in the directories, without priority. -/
structure Reflects (held : NMSettingsStorage → Prop) (uuid : Uuid) (heap : Nat → NMSettingsStorage)
    (sds : List StorageData) : Prop where
  sound : ∀ sd ∈ sds, sd.prioritize = false ∧ ∃ content, held content ∧ content.getUuid = uuid ∧
    heap sd.storage = content.stealConnection ∧ sd.connection = content.stolenConnection
  complete : ∀ content, held content → content.getUuid = uuid → ∃ sd ∈ sds,
    heap sd.storage = content.stealConnection ∧ sd.connection = content.stolenConnection

theorem entry_of_listed (listed : sd ∈ s.sdLst uuid) :
    ∃ entry, s.sceIdx uuid = some entry ∧ sd ∈ entry.sdLst := by
  unfold sdLst at listed
  cases entry_eq : s.sceIdx uuid with
  | none =>
    rw [entry_eq] at listed
    cases listed
  | some entry =>
    rw [entry_eq] at listed
    exact ⟨entry, rfl, listed⟩

theorem tracked_of_listed (settled : Settled s) (keyfileOnly : s.KeyfileOnly)
    (listed : sd ∈ s.sdLst uuid) : sd.storage ∈ s.keyfile.storages.storageLst := by
  obtain ⟨entry, entry_eq, mem⟩ := entry_of_listed listed
  have entry_inv := settled.entry uuid entry entry_eq
  have alive := entry_inv.live sd mem not_mem_nil
  rw [settled.dirtySdLst entry_eq] at alive
  have alive := alive.resolve_right (fun ⟨_, change_mem, _⟩ => by cases change_mem)
  rcases (Bool.or_eq_true _ _).mp alive with connected | is_meta
  · have ok := entry_inv.sd_ok sd mem
    exact settled.synced entry_eq mem (keyfileOnly sd.storage ok.allocated) (ok.profile connected)
      connected
  · exact (isMetaDataAlive_isSome.mp is_meta).1

section Entry

variable {cfg : SettingsConfig} {fs : Filename → FileState}
  {names : NMSKeyfileStorageType → List Basename} {p' : NMSKeyfilePlugin}
  {events : List LoadEvent}

theorem dirtySdLst_of_settled (settled : Settled s) (uuid : Uuid) : s.dirtySdLst uuid = [] := by
  unfold dirtySdLst
  cases entry_eq : s.sceIdx uuid with
  | none => rfl
  | some entry => exact settled.dirtySdLst entry_eq

theorem reported_of_listed (settled : Settled s) (keyfileOnly : s.KeyfileOnly)
    (step : NMSKeyfilePlugin.Step s.keyfile p' events)
    (reloaded : Reloaded cfg.dirs fs names p' events) {sd : StorageData}
    (listed : sd ∈ s.sdLst uuid) : ∃ event ∈ events, event.storage = sd.storage := by
  have tracked := tracked_of_listed settled keyfileOnly listed
  by_cases still : sd.storage ∈ p'.storages.storageLst
  · exact reloaded.tracked sd.storage still
  · exact step.reported sd.storage tracked still

/-- What is known about the entry of a UUID when the plugin has reported everything: there is a
change for each of its storages. -/
theorem reload_entry (settled : Settled s) (keyfileOnly : s.KeyfileOnly)
    (step : NMSKeyfilePlugin.Step s.keyfile p' events)
    (reloaded : Reloaded cfg.dirs fs names p' events) {files : Filename → Option KeyfileNmmeta}
    {t : NMSettings} (t_eq : t = { s with keyfile := p', files := files }.trackEvents events) :
    t.dirtySdLst uuid = eventSds p'.heap uuid events ∧
      (∀ sd ∈ t.sdLst uuid, ∃ change ∈ t.dirtySdLst uuid, change.storage = sd.storage) ∧
      (t.dirtySdLst uuid = [] → t.sceIdx uuid = none) := by
  subst t_eq
  obtain ⟨r, r_eq⟩ : ∃ r : NMSettings, r = { s with keyfile := p', files := files } := ⟨_, rfl⟩
  rw [← r_eq]
  have none_dirty : r.dirtySdLst uuid = [] := by
    rw [r_eq]
    exact dirtySdLst_of_settled settled uuid
  have spec : _ ∧ _ ∧ _ := @trackEvents_spec r uuid events reloaded.nodup (by
    intro sd mem
    rw [none_dirty] at mem
    cases mem)
  obtain ⟨sdLst_eq, dirty_eq, unchanged⟩ := spec
  rw [none_dirty, nil_append] at dirty_eq
  subst r_eq
  rw [dirty_eq]
  have changed : ∀ sd ∈ s.sdLst uuid, ∃ change ∈ eventSds p'.heap uuid events,
      change.storage = sd.storage := by
    intro sd listed
    obtain ⟨event, event_mem, same⟩ :=
      reported_of_listed settled keyfileOnly step reloaded listed
    obtain ⟨entry, entry_eq, mem⟩ := entry_of_listed listed
    have ok := (settled.entry uuid entry entry_eq).sd_ok sd mem
    refine ⟨_, mem_eventSds.mpr ⟨event, event_mem, ?_, rfl⟩, same⟩
    rw [same, getUuid_eq_of_identity (step.identity sd.storage ok.allocated)]
    exact ok.uuid_eq
  refine ⟨rfl, ?_, ?_⟩
  · rw [sdLst_eq]
    exact changed
  · intro none_changed
    have unlisted : s.sdLst uuid = [] := by
      rw [eq_nil_iff_forall_not_mem]
      intro sd listed
      obtain ⟨change, change_mem, -⟩ := changed sd listed
      rw [none_changed] at change_mem
      cases change_mem
    refine (unchanged ?_).trans ?_
    · intro event event_mem own
      have mem := mem_eventSds.mpr ⟨event, event_mem, own, rfl⟩
      rw [none_changed] at mem
      cases mem
    · cases entry_eq : s.sceIdx uuid with
      | none => rfl
      | some entry =>
        have unlisted' : entry.sdLst = [] := by
          unfold sdLst at unlisted
          rw [entry_eq] at unlisted
          exact unlisted
        rcases settled.nonempty uuid entry entry_eq with nonempty | nonempty
        · exact absurd unlisted' nonempty
        · exact absurd (settled.dirtySdLst entry_eq) nonempty

theorem sdsUpdate_reflects (reloaded : Reloaded cfg.dirs fs names p' events) {entry : SettConnEntry}
    (unique : Unique entry.dirtySdLst)
    (dirty_eq : entry.dirtySdLst = eventSds p'.heap uuid events)
    (changed : ∀ sd ∈ entry.sdLst, ∃ change ∈ entry.dirtySdLst, change.storage = sd.storage) :
    Reflects (Holds cfg.dirs fs names) uuid p'.heap (sdsUpdate cfg.plugins p' entry) := by
  have mem_iff : ∀ sd, sd ∈ sdsUpdate cfg.plugins p' entry ↔
      sd ∈ eventSds p'.heap uuid events ∧ isAlive p' sd = true := by
    intro sd
    unfold sdsUpdate
    rw [ListSort.mem_sort, mem_filter, mem_sdsMerge unique, ← dirty_eq]
    refine and_congr_left fun _ => or_iff_left ?_
    rintro ⟨unchanged, old, old_mem, rfl⟩
    obtain ⟨change, change_mem, same⟩ := changed old old_mem
    exact unchanged change change_mem same
  constructor
  · intro sd mem
    obtain ⟨mem, alive⟩ := (mem_iff sd).mp mem
    obtain ⟨event, event_mem, own, rfl⟩ := mem_eventSds.mp mem
    rcases reloaded.sound event event_mem with
      ⟨-, content, held, content_eq, connection_eq⟩ | ⟨untracked, disconnected⟩
    · refine ⟨rfl, content, held, ?_, content_eq, connection_eq⟩
      rw [content_eq, getUuid_stealConnection] at own
      exact own
    · have dead : isAlive p' ⟨event.storage, event.connection, false⟩ = false := by
        simp [isAlive, disconnected, NMSKeyfilePlugin.isMetaDataAlive, untracked]
      rw [dead] at alive
      cases alive
  · intro content held own
    obtain ⟨event, event_mem, tracked, content_eq, connection_eq⟩ := reloaded.complete content held
    refine ⟨⟨event.storage, event.connection, false⟩, (mem_iff _).mpr ⟨?_, ?_⟩, content_eq,
      connection_eq⟩
    · refine mem_eventSds.mpr ⟨event, event_mem, ?_, rfl⟩
      rw [content_eq, getUuid_stealConnection]
      exact own
    · obtain ⟨type, -, basename, -, loaded⟩ := held
      have loaded := (NMSKeyfilePlugin.loadFile_loaded loaded).1
      unfold isAlive
      rw [Bool.or_eq_true, isMetaDataAlive_isSome, content_eq, connection_eq,
        NMSKeyfilePlugin.isMetaData_stealConnection]
      cases is_meta : content.isMetaData.isSome with
      | true => exact Or.inr ⟨tracked, rfl⟩
      | false => exact Or.inl (loaded.connection is_meta)

end Entry

section Winner

variable {dirs : KeyfileDirs} {fs : Filename → FileState}
  {names : NMSKeyfileStorageType → List Basename} {plugins : List NMSettingsPlugin}
  {heap heap' : Nat → NMSettingsStorage} {sds sds' : List StorageData}

theorem sdsUpdateCmpAscending_congr {a a' b b' : StorageData}
    (a_content : heap a.storage = heap' a'.storage) (a_prioritize : a.prioritize = a'.prioritize)
    (b_content : heap b.storage = heap' b'.storage)
    (b_prioritize : b.prioritize = b'.prioritize) :
    sdsUpdateCmpAscending heap plugins a b = sdsUpdateCmpAscending heap' plugins a' b' := by
  unfold sdsUpdateCmpAscending
  rw [a_content, a_prioritize, b_content, b_prioritize]

theorem value_inj {a b : NMSKeyfileStorageType} (same : a.value = b.value) : a = b := by
  cases a <;> cases b <;> simp only [NMSKeyfileStorageType.value] at same <;>
    first | rfl | omega | (congr 1; omega)

theorem getFilename_eq_of_storageOrder {a b : NMSettingsStorage} (a_keyfile : a.getPlugin = .keyfile)
    (b_keyfile : b.getPlugin = .keyfile) (same_uuid : a.getUuid = b.getUuid)
    (equal : storageOrder plugins a b = .eq) : a.getFilename = b.getFilename := by
  simp only [storageOrder, compareLex, compareOn, Ordering.then_eq_eq, compare_eq_iff_eq] at equal
  obtain ⟨-, -, same_type, same_kind, -, -, -, same_name⟩ := equal
  cases a with
  | keyfileConn uuid type name data =>
    cases b with
    | keyfileConn uuid' type' name' data' =>
      have types_eq := value_inj (Int.neg_inj.mp same_type)
      subst types_eq
      exact congrArg (fun name => some (Filename.keyfile type name)) same_name
    | keyfileMeta => cases same_kind
    | ifcfgRh => cases b_keyfile
    | ifupdown => cases b_keyfile
  | keyfileMeta uuid type metaData =>
    cases b with
    | keyfileConn => cases same_kind
    | keyfileMeta uuid' type' metaData' =>
      have types_eq := value_inj (Int.neg_inj.mp same_type)
      subst types_eq
      exact congrArg (fun uuid => some (Filename.nmmeta type uuid)) same_uuid
    | ifcfgRh => cases b_keyfile
    | ifupdown => cases b_keyfile
  | ifcfgRh => cases a_keyfile
  | ifupdown => cases a_keyfile

theorem holds_keyfile {content : NMSettingsStorage} (held : Holds dirs fs names content) :
    content.stealConnection.getPlugin = .keyfile := by
  obtain ⟨type, -, basename, -, loaded⟩ := held
  rw [getPlugin_stealConnection]
  exact (NMSKeyfilePlugin.loadFile_loaded loaded).1.keyfile

section

variable (reflects : Reflects (Holds dirs fs names) uuid heap sds)

include reflects

theorem Reflects.cmp_eq (found : .keyfile ∈ plugins) {a b : StorageData} (a_mem : a ∈ sds)
    (b_mem : b ∈ sds) :
    sdsUpdateCmpAscending heap plugins a b = rankOrder heap plugins (runRank heap) a b := by
  have keyfile : ∀ sd ∈ sds, (heap sd.storage).getPlugin ∈ plugins := by
    intro sd mem
    obtain ⟨-, content, held, -, content_eq, -⟩ := reflects.sound sd mem
    rw [content_eq, holds_keyfile held]
    exact found
  have unmoved : ∀ sd ∈ sds, ¬ IsMovedProfile heap sd := by
    intro sd mem moved
    exact absurd moved.2.2 (Bool.eq_false_iff.mp (reflects.sound sd mem).1)
  exact cmp_eq_runRank (keyfile a a_mem) (keyfile b b_mem) (fun both => unmoved b b_mem both.2)
    (fun both => unmoved a a_mem both.2)

theorem Reflects.greatest_eq {best best' : StorageData}
    (reflects' : Reflects (Holds dirs fs names) uuid heap' sds') (found : .keyfile ∈ plugins)
    (best_mem : best ∈ sds) (best_mem' : best' ∈ sds')
    (greatest : ∀ sd ∈ sds, sdsUpdateCmpAscending heap plugins sd best ≠ .gt)
    (greatest' : ∀ sd ∈ sds', sdsUpdateCmpAscending heap' plugins sd best' ≠ .gt) :
    heap best.storage = heap' best'.storage ∧ best.connection = best'.connection := by
  obtain ⟨unprioritized, content, held, own, content_eq, connection_eq⟩ :=
    reflects.sound best best_mem
  obtain ⟨unprioritized', content', held', own', content_eq', connection_eq'⟩ :=
    reflects'.sound best' best_mem'
  obtain ⟨other, other_mem, other_eq, -⟩ := reflects.complete content' held' own'
  obtain ⟨other', other_mem', other_eq', -⟩ := reflects'.complete content held own
  have not_greater := greatest other other_mem
  have not_less := greatest' other' other_mem'
  have swap : rankOrder heap plugins (runRank heap) best other =
      (rankOrder heap plugins (runRank heap) other best).swap := Std.OrientedCmp.eq_swap
  rw [sdsUpdateCmpAscending_congr (other_eq'.trans content_eq.symm)
      ((reflects'.sound other' other_mem').1.trans unprioritized.symm)
      (content_eq'.trans other_eq.symm)
      (unprioritized'.trans (reflects.sound other other_mem).1.symm),
    reflects.cmp_eq found best_mem other_mem, swap] at not_less
  rw [reflects.cmp_eq found other_mem best_mem] at not_greater
  have equal : rankOrder heap plugins (runRank heap) other best = .eq := by
    cases rank_eq : rankOrder heap plugins (runRank heap) other best with
    | eq => rfl
    | gt => exact absurd rank_eq not_greater
    | lt =>
      rw [rank_eq] at not_less
      exact absurd rfl not_less
  have same_name : content'.getFilename = content.getFilename := by
    simp only [rankOrder, compareLex, Ordering.then_eq_eq] at equal
    have order := equal.2.2.2
    rw [other_eq, content_eq] at order
    have names_eq := getFilename_eq_of_storageOrder (holds_keyfile held') (holds_keyfile held)
      (by simp [own, own']) order
    simpa using names_eq
  have same := held'.eq held same_name
  subst same
  exact ⟨content_eq.trans content_eq'.symm, connection_eq.trans connection_eq'.symm⟩

theorem Reflects.head_eq (reflects' : Reflects (Holds dirs fs names) uuid heap' sds')
    (found : .keyfile ∈ plugins)
    (greatest : ∀ best, sds.head? = some best → ∀ sd ∈ sds,
      sdsUpdateCmpAscending heap plugins sd best ≠ .gt)
    (greatest' : ∀ best, sds'.head? = some best → ∀ sd ∈ sds',
      sdsUpdateCmpAscending heap' plugins sd best ≠ .gt) :
    sds.head?.map (fun best => (heap best.storage, best.connection)) =
      sds'.head?.map fun best => (heap' best.storage, best.connection) := by
  cases sds with
  | nil =>
    cases sds' with
    | nil => rfl
    | cons best' rest' =>
      obtain ⟨-, content, held, own, -⟩ := reflects'.sound best' mem_cons_self
      obtain ⟨sd, mem, -⟩ := reflects.complete content held own
      cases mem
  | cons best rest =>
    cases sds' with
    | nil =>
      obtain ⟨-, content, held, own, -⟩ := reflects.sound best mem_cons_self
      obtain ⟨sd, mem, -⟩ := reflects'.complete content held own
      cases mem
    | cons best' rest' =>
      obtain ⟨content_eq, connection_eq⟩ := reflects.greatest_eq reflects' found
        mem_cons_self mem_cons_self (greatest best rfl) (greatest' best' rfl)
      show some (heap best.storage, best.connection) = some (heap' best'.storage, best'.connection)
      rw [content_eq, connection_eq]

end

end Winner

/-- The file of the storage that wins for a UUID. -/
def winningFile (s : NMSettings) (uuid : Uuid) : Option Filename :=
  ((s.sceIdx uuid).bind (·.storage)).bind fun storage => (s.keyfile.heap storage).getFilename

def exposedConnection (s : NMSettings) (uuid : Uuid) : Option NMConnection :=
  (s.getConnectionByUuid uuid).map fun settConn => (s.connections settConn).connection

theorem entryProcessed_winner {list : List StorageData} {before : Option Nat}
    (done : EntryProcessed list before uuid s) :
    s.sdLst uuid = list ∧
      s.winningFile uuid = list.head?.bind (fun best => (s.keyfile.heap best.storage).getFilename) ∧
      s.exposedConnection uuid = list.head?.bind (·.connection) := by
  unfold sdLst winningFile exposedConnection getConnectionByUuid
  cases head_eq : list.head? with
  | none =>
    rw [head?_eq_none_iff] at head_eq
    rw [done.empty head_eq]
    exact ⟨head_eq.symm, rfl, rfl⟩
  | some best =>
    cases connection_eq : best.connection with
    | none =>
      rw [done.hidden best head_eq connection_eq]
      exact ⟨rfl, rfl, connection_eq.symm⟩
    | some connection =>
      obtain ⟨settConn, entry_eq, -, -, exposed_eq⟩ :=
        done.exposed best connection head_eq connection_eq
      rw [entry_eq]
      refine ⟨rfl, rfl, ?_⟩
      show some (s.connections settConn).connection = best.connection
      rw [exposed_eq, connection_eq]

section Outcome

variable {cfg : SettingsConfig} {fs : Filename → FileState}
  {names : NMSKeyfileStorageType → List Basename}

/-- When the entries are processed, the storages of a UUID are those of the files, and nothing
precedes the first one. -/
theorem processed_of_reloaded {t : NMSettings} {events : List LoadEvent}
    (track_inv : TrackInv [] t) (reloaded : Reloaded cfg.dirs fs names t.keyfile events)
    (found : .keyfile ∈ cfg.plugins)
    (dirty_eq : t.dirtySdLst uuid = eventSds t.keyfile.heap uuid events)
    (changed : ∀ sd ∈ t.sdLst uuid, ∃ change ∈ t.dirtySdLst uuid, change.storage = sd.storage)
    (unlisted : t.dirtySdLst uuid = [] → t.sceIdx uuid = none) (settFlags settMask : IntFlags)
    (override : Bool) :
    ∃ list before,
      EntryProcessed list before uuid (t.processAllDirty cfg.plugins settFlags settMask override) ∧
      Reflects (Holds cfg.dirs fs names) uuid t.keyfile.heap list ∧
      ∀ best, list.head? = some best → ∀ sd ∈ list,
        sdsUpdateCmpAscending t.keyfile.heap cfg.plugins sd best ≠ .gt := by
  unfold dirtySdLst at dirty_eq changed unlisted
  unfold sdLst at changed
  cases entry_eq : t.sceIdx uuid with
  | none =>
    rw [entry_eq] at dirty_eq
    have unqueued : uuid ∉ t.sceDirtyLst := by
      intro queued
      have present := track_inv.queue_entry uuid queued
      rw [entry_eq] at present
      cases present
    have absent :
        (t.processAllDirty cfg.plugins settFlags settMask override).sceIdx uuid = none := by
      rw [(processAllDirty_unqueued _ _ _ _ track_inv unqueued).1, entry_eq]
    refine ⟨[], none, ⟨fun _ => absent, by simp, by simp⟩, ⟨by simp, ?_⟩, by simp⟩
    intro content held own
    obtain ⟨event, event_mem, -, content_eq, -⟩ := reloaded.complete content held
    have event_own : (t.keyfile.heap event.storage).getUuid = uuid := by
      rw [content_eq, getUuid_stealConnection, own]
    have mem := mem_eventSds.mpr ⟨event, event_mem, event_own, rfl⟩
    rw [← dirty_eq] at mem
    cases mem
  | some entry =>
    rw [entry_eq] at dirty_eq changed unlisted
    have entry_inv := track_inv.entry uuid entry entry_eq
    have dirty : entry.dirtySdLst ≠ [] := by
      intro none_dirty
      cases unlisted none_dirty
    have reflects := sdsUpdate_reflects reloaded entry_inv.dirty_unique dirty_eq changed
    refine ⟨_, entry.settConn,
      track_inv.entryProcessed _ _ _ _ (entry_inv.queued dirty) entry_eq, reflects, ?_⟩
    intro best head_eq
    have order := priorityOrder_of_rank fun a a_mem b b_mem => reflects.cmp_eq found a_mem b_mem
    exact order.head _ (ListSort.sort_perm _ _).symm best head_eq

theorem reload_processed (inv : SettingsInv cfg s) (keyfileOnly : s.KeyfileOnly)
    (found : .keyfile ∈ cfg.plugins) (fs : Filename → FileState)
    (names : NMSKeyfileStorageType → List Basename) (uuid : Uuid) {after : NMSettings}
    (after_eq : after = s.pluginConnectionsReload cfg fs names [] []) :
    ∃ list before, EntryProcessed list before uuid after ∧
      Reflects (Holds cfg.dirs fs names) uuid after.keyfile.heap list ∧
      ∀ best, list.head? = some best → ∀ sd ∈ list,
        sdsUpdateCmpAscending after.keyfile.heap cfg.plugins sd best ≠ .gt := by
  have reloaded := NMSKeyfilePlugin.reloadConnections_reloaded cfg.dirs fs names inv.keyfile
  have step := NMSKeyfilePlugin.reloadConnections_step cfg.dirs fs names inv.keyfile
  have track_inv := (keyfileReload_inv (refreshFiles_inv inv.toTrackInv fs) inv.placed fs names).1
  subst after_eq
  rw [pluginConnectionsReload_eq, foldl_nil, foldl_nil, processAllDirty_keyfile _ _ _ _ track_inv]
  have keyfile_eq : (keyfileReload cfg (s.refreshFiles fs) fs names).keyfile =
      (s.keyfile.reloadConnections cfg.dirs fs names).1 := trackEvents_keyfile _ _
  have tracked_eq : keyfileReload cfg (s.refreshFiles fs) fs names =
      { s with
        keyfile := (s.keyfile.reloadConnections cfg.dirs fs names).1
        files := fun filename => fileNmmeta (fs filename) }.trackEvents
          (s.keyfile.reloadConnections cfg.dirs fs names).2 := rfl
  obtain ⟨dirty_eq, changed, unlisted⟩ :=
    @reload_entry s uuid _ _ _ _ _ inv.toSettled keyfileOnly step reloaded _ _ tracked_eq
  rw [← keyfile_eq] at reloaded dirty_eq
  exact processed_of_reloaded track_inv reloaded found dirty_eq changed unlisted _ _ _

/-- The reload of every state without storages of other plugins brings about what the files in the
directories say: the storage that wins for a UUID and the profile that is exposed are the same for
all such states and for any order of the files, and every storage that is listed has a file with
its UUID. -/
theorem reload_fileContents (cfg : SettingsConfig) (plugins_eq : cfg.plugins = [.keyfile])
    (calls calls' : List SettingsCall) (lawful : (machine cfg).Lawful new calls)
    (lawful' : (machine cfg).Lawful new calls') (s s' : NMSettings)
    (reached : s = (machine cfg).run new calls) (reached' : s' = (machine cfg).run new calls')
    (keyfileOnly : s.KeyfileOnly) (keyfileOnly' : s'.KeyfileOnly)
    (fs fs' : Filename → FileState) (names names' : NMSKeyfileStorageType → List Basename)
    (same : SameContents cfg.dirs fs fs' names names') (after after' : NMSettings)
    (after_eq : after = s.pluginConnectionsReload cfg fs names [] [])
    (after_eq' : after' = s'.pluginConnectionsReload cfg fs' names' [] []) (uuid : Uuid) :
    after.winningFile uuid = after'.winningFile uuid ∧
      after.exposedConnection uuid = after'.exposedConnection uuid ∧
      ∀ sd ∈ after.sdLst uuid, ∃ content, Holds cfg.dirs fs names content ∧ content.getUuid = uuid ∧
        (after.keyfile.heap sd.storage).getFilename = content.getFilename := by
  have found : .keyfile ∈ cfg.plugins := by
    rw [plugins_eq]
    exact mem_singleton_self _
  have inv : SettingsInv cfg s := reached ▸ run_settingsInv lawful
  have inv' : SettingsInv cfg s' := reached' ▸ run_settingsInv lawful'
  obtain ⟨list, before, done, reflects, greatest⟩ :=
    reload_processed inv keyfileOnly found fs names uuid after_eq
  obtain ⟨list', before', done', reflects', greatest'⟩ :=
    reload_processed inv' keyfileOnly' found fs' names' uuid after_eq'
  have reflects' : Reflects (Holds cfg.dirs fs names) uuid after'.keyfile.heap list' :=
    (funext fun content => propext (same.holds_iff content) :
      Holds cfg.dirs fs names = Holds cfg.dirs fs' names') ▸ reflects'
  obtain ⟨sdLst_eq, file_eq, connection_eq⟩ := entryProcessed_winner done
  obtain ⟨-, file_eq', connection_eq'⟩ := entryProcessed_winner done'
  have heads := reflects.head_eq reflects' found greatest greatest'
  refine ⟨?_, ?_, ?_⟩
  · have files := congrArg (fun head => head.bind fun best : NMSettingsStorage × _ =>
      best.1.getFilename) heads
    simpa only [Option.bind_map, Function.comp_def, ← file_eq, ← file_eq'] using files
  · have connections := congrArg (fun head => head.bind fun best : NMSettingsStorage × _ =>
      best.2) heads
    simpa only [Option.bind_map, Function.comp_def, ← connection_eq, ← connection_eq'] using
      connections
  · rw [sdLst_eq]
    intro sd mem
    obtain ⟨-, content, held, own, content_eq, -⟩ := reflects.sound sd mem
    refine ⟨content, held, own, ?_⟩
    rw [content_eq, getFilename_stealConnection]

end Outcome

/-- The profile in `/etc` is updated, which gives its storage priority, and then hidden by a
profile in memory. -/
def movedCalls : List SettingsCall :=
  twoFilesCalls ++
    [.update 0 (some ⟨"u", "new"⟩) .toDisk .none .none false false (usualOutcome "c" true true),
      .update 0 (some ⟨"u", "newer"⟩) .inMemory .none .none false false (usualOutcome "c" true true)]

/-- The names of the files, in one order or the other. -/
def listedNames (reversed : Bool) : NMSKeyfileStorageType → List Basename
  | .run => []
  | .etc => if reversed then [.ignored "a~", .keyfile "a"] else [.keyfile "a", .ignored "a~"]
  | .lib _ => [.keyfile "b"]

/-- Whatever happened before, the profiles are those of the files when the settings are reloaded. -/
theorem reload_fileContents_moved :
    (machine usualConfig).Lawful new movedCalls ∧
      (((machine usualConfig).run new movedCalls).pluginConnectionsReload usualConfig
        (NMSKeyfilePlugin.twoFiles "v" true) (listedNames true) [] []).exposedConnection "v" =
        some ⟨"v", "a"⟩ := by
  have lawful : (machine usualConfig).Lawful new movedCalls := by
    refine ⟨⟨trivial, trivial⟩, ⟨"u", ?_⟩, ⟨"u", ?_⟩, trivial⟩
    · decide +kernel
    · decide +kernel
  have same : SameContents usualConfig.dirs (NMSKeyfilePlugin.twoFiles "v" true)
      (NMSKeyfilePlugin.twoFiles "v" true) (listedNames true) (listedNames false) := by
    refine ⟨fun type _ basename => ?_, fun _ _ _ _ => rfl⟩
    cases type <;> simp [listedNames, or_comm]
  have reloaded := reload_fileContents usualConfig rfl movedCalls [] lawful trivial _ new rfl rfl
    (by decide +kernel) (by decide) _ _ _ _ same _ _ rfl rfl "v"
  refine ⟨lawful, reloaded.2.1.trans ?_⟩
  decide +kernel

end NMSettings

end NetworkManager
