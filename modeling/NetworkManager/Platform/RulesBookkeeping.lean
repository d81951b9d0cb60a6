import NetworkManager.Platform.RuleCoherence
import NetworkManager.Platform.RulesTables

/-!
# The bookkeeping of the rules manager

In every run there is one record for each pair of a rule and a tag that is being tracked, and both
tables list exactly the records.  An entry of a rule without records is kept only to undo what we
did to the rule.

An entry of a tag without records is what the code leaves behind in one place: when a rule is taken
over from a tag that tracks nothing else, the entry of this tag stays.
-/

namespace NetworkManager.RulesManager

open List Option

section

variable (support : KernelSupport) {Tag : Type} [DecidableEq Tag]

/-- The bookkeeping of the manager is in order. -/
structure Bookkeeping (system : System Tag) : Prop where
  tables : system.manager.Tables support
  tracks : system.manager.Tracks support system.tracked
  tagsInUse : system.manager.TagsInUse

variable {support} {self : NMPRulesManager Tag}

namespace NMPRulesManager

omit [DecidableEq Tag] in
theorem foldl_betterData_isSome (records : List (RulesData Tag)) (best : RulesData Tag) :
    (records.foldl betterData (some best)).isSome = true := by
  induction records generalizing best with
  | nil => rfl
  | cons record records ih =>
    rw [foldl_cons]
    unfold betterData
    dsimp only
    split
    · exact ih best
    · split
      · exact ih best
      · exact ih record

omit [DecidableEq Tag] in
theorem rulesObjGetBestData_eq_none {objData : RulesObjData} :
    self.rulesObjGetBestData objData = none ↔ objData.objLst.filterMap self.data = [] := by
  unfold rulesObjGetBestData
  cases objData.objLst.filterMap self.data with
  | nil => exact iff_of_true rfl rfl
  | cons record records =>
    refine iff_of_false ?_ nofun
    intro none_found
    have found := foldl_betterData_isSome records record
    rw [show records.foldl betterData (some record) = none from none_found] at found
    cases found

theorem Tables.objLst_eq_nil (tables : self.Tables support) {byObj : List RulesObjData}
    (indexes : (objView support).Indexes
      (self.byData.map fun record => (record.1, record.2.obj)) byObj)
    {objData : RulesObjData} (mem : objData ∈ byObj)
    (untracked : self.rulesObjGetBestData objData = none) : objData.objLst = [] := by
  rw [rulesObjGetBestData_eq_none] at untracked
  cases listed : objData.objLst with
  | nil => rfl
  | cons id ids =>
    have id_listed : id ∈ (objView support).ids objData := by
      show id ∈ objData.objLst
      rw [listed]
      exact mem_cons_self
    obtain ⟨rule, node_mem, -⟩ := (indexes.mem_iff objData mem id).mp id_listed
    obtain ⟨⟨address, rulesData⟩, record_mem, equal⟩ := List.mem_map.mp node_mem
    obtain ⟨rfl, -⟩ := Prod.mk.inj equal
    rw [listed, filterMap_cons_some (tables.data_eq_some record_mem)] at untracked
    cases untracked

omit [DecidableEq Tag] in
theorem deleteDecision_remembers {best : Option (RulesData Tag)} {keepDeletedRules : Bool}
    {configState : ConfigState} (untracked : best = none) (touched : configState ≠ .none) :
    (deleteDecision best keepDeletedRules configState).1 ≠ .none := by
  rw [untracked]
  unfold deleteDecision
  cases keepDeletedRules with
  | true => exact touched
  | false => exact ConfigState.noConfusion

section Sync

variable {nodes : List (Nat × Rule)} (self) (keepDeletedRules : Bool)

omit [DecidableEq Tag] in
theorem syncDeleteStep_byObj {acc : List RulesObjData × List Rule} (plobj : Rule)
    (indexes : (objView support).Indexes nodes acc.1)
    (remembered : ∀ objData ∈ acc.1, objData.objLst = [] → objData.configState ≠ .none) :
    (objView support).Indexes nodes (self.syncDeleteStep support keepDeletedRules acc plobj).1 ∧
    ∀ objData ∈ (self.syncDeleteStep support keepDeletedRules acc plobj).1,
      objData.objLst = [] → objData.configState ≠ .none := by
  unfold syncDeleteStep
  cases found : (objView support).find acc.1 plobj with
  | none => exact ⟨indexes, remembered⟩
  | some home =>
    refine ⟨indexes.modify plobj (fun _ => rfl) fun _ => rfl, ?_⟩
    intro changed mem empty
    obtain ⟨objData, objData_mem, rfl⟩ := List.mem_map.mp mem
    by_cases same : (objView support).same plobj ((objView support).key objData) = true
    · have equal := indexes.find_eq_some objData_mem same
      rw [found, Option.some.injEq] at equal
      rw [if_pos same] at empty ⊢
      have empty : objData.objLst = [] := empty
      refine deleteDecision_remembers ?_ (equal ▸ remembered objData objData_mem empty)
      rw [rulesObjGetBestData_eq_none, equal, empty]
      rfl
    · rw [if_neg same] at empty ⊢
      exact remembered objData objData_mem empty

omit [DecidableEq Tag] in
theorem syncDelete_byObj (platform : List Rule) {acc : List RulesObjData × List Rule}
    (indexes : (objView support).Indexes nodes acc.1)
    (remembered : ∀ objData ∈ acc.1, objData.objLst = [] → objData.configState ≠ .none) :
    (objView support).Indexes nodes
      (platform.foldl (self.syncDeleteStep support keepDeletedRules) acc).1 ∧
    ∀ objData ∈ (platform.foldl (self.syncDeleteStep support keepDeletedRules) acc).1,
      objData.objLst = [] → objData.configState ≠ .none := by
  induction platform generalizing acc with
  | nil => exact ⟨indexes, remembered⟩
  | cons plobj platform ih =>
    obtain ⟨step_indexes, step_remembered⟩ :=
      syncDeleteStep_byObj self keepDeletedRules plobj indexes remembered
    exact ih step_indexes step_remembered

variable (support) in
/-- What a turn of the second loop does. -/
inductive SyncAddTurn (succeeds : Rule → Bool) (acc : SyncAddState) (objData : RulesObjData) :
    SyncAddState → Prop where
  /-- An entry without records is dropped. -/
  | dropped (unrecorded : self.rulesObjGetBestData objData = none) :
      SyncAddTurn succeeds acc objData acc
  /-- The rule is asked for and missing, so it is added. -/
  | added (best : RulesData Tag) (found : self.rulesObjGetBestData objData = some best)
      (wanted : (addDecision best objData.configState).2 = true)
      (missing : ∀ rule ∈ acc.platform, sameRule support objData.obj rule = false) :
      SyncAddTurn succeeds acc objData
        ⟨acc.byObj ++ [{ objData with configState := .addedByUs }],
          if succeeds objData.obj then acc.platform ++ [objData.obj] else acc.platform,
          acc.added ++ [objData.obj]⟩
  /-- The rule is not asked for, or it is there. -/
  | kept (best : RulesData Tag) (found : self.rulesObjGetBestData objData = some best)
      (present : (addDecision best objData.configState).2 = true →
        ∃ rule ∈ acc.platform, sameRule support objData.obj rule = true) :
      SyncAddTurn succeeds acc objData
        { acc with
          byObj := acc.byObj ++
            [{ objData with configState := (addDecision best objData.configState).1 }] }

omit [DecidableEq Tag] in
variable (support) in
theorem syncAddTurn (succeeds : Rule → Bool) (acc : SyncAddState) (objData : RulesObjData) :
    self.SyncAddTurn support succeeds acc objData
      (self.syncAddStep support succeeds acc objData) := by
  unfold syncAddStep
  cases found : self.rulesObjGetBestData objData with
  | none => exact .dropped found
  | some best =>
    dsimp only
    split
    · rename_i adds
      rw [Bool.and_eq_true, Bool.not_eq_true', List.any_eq_false] at adds
      obtain ⟨wanted, missing⟩ := adds
      exact .added best found wanted fun rule mem => Bool.eq_false_iff.mpr (missing rule mem)
    · rename_i stays
      refine .kept best found fun wanted => ?_
      rw [wanted, Bool.true_and, Bool.not_eq_true', Bool.not_eq_false] at stays
      exact List.any_eq_true.mp stays

omit [DecidableEq Tag] in
/-- The second loop keeps the entries that have records, up to their states. -/
theorem syncAdd_byObj (succeeds : Rule → Bool) (byObj : List RulesObjData) (acc : SyncAddState) :
    (byObj.foldl (self.syncAddStep support succeeds) acc).byObj.map
        (fun objData => (objData.obj, objData.objLst)) =
      acc.byObj.map (fun objData => (objData.obj, objData.objLst)) ++
        (byObj.filter fun objData => (self.rulesObjGetBestData objData).isSome).map
          fun objData => (objData.obj, objData.objLst) := by
  induction byObj generalizing acc with
  | nil => simp
  | cons objData byObj ih =>
    rw [foldl_cons, ih]
    have turn := self.syncAddTurn support succeeds acc objData
    generalize self.syncAddStep support succeeds acc objData = after at turn ⊢
    cases turn with
    | dropped unrecorded => simp [unrecorded]
    | added best found wanted missing => simp [found]
    | kept best found present => simp [found]

variable {self} {keepDeletedRules}

/-- The entries and the rules to delete after the first loop. -/
def afterDelete (support : KernelSupport) (self : NMPRulesManager Tag) (keepDeletedRules : Bool)
    (platform : List Rule) : List RulesObjData × List Rule :=
  platform.foldl (self.syncDeleteStep support keepDeletedRules) (self.byObj, [])

/-- The outcome of the second loop. -/
def afterAdd (support : KernelSupport) (self : NMPRulesManager Tag) (keepDeletedRules : Bool)
    (outcome : PlatformOutcome) (platform : List Rule) : SyncAddState :=
  (self.afterDelete support keepDeletedRules platform).1.foldl
    (self.syncAddStep support outcome.adds)
    ⟨[], (self.afterDelete support keepDeletedRules platform).2.foldl
      (platformDelete support outcome.deletes) platform, []⟩

omit [DecidableEq Tag] in
theorem sync_eq (outcome : PlatformOutcome) (platform : List Rule) :
    self.sync support keepDeletedRules outcome platform =
      ⟨{ self with byObj := (self.afterAdd support keepDeletedRules outcome platform).byObj },
        (self.afterAdd support keepDeletedRules outcome platform).platform,
        (self.afterDelete support keepDeletedRules platform).2,
        (self.afterAdd support keepDeletedRules outcome platform).added⟩ := rfl

theorem Tables.sync (tables : self.Tables support) (outcome : PlatformOutcome)
    (platform : List Rule) :
    (self.sync support keepDeletedRules outcome platform).manager.Tables support := by
  have start : (objView support).Indexes _ (self.byObj, ([] : List Rule)).1 := tables.byObj
  obtain ⟨indexes, -⟩ := syncDelete_byObj self keepDeletedRules platform start tables.remembered
  have kept := indexes.filter (fun objData mem dropped => tables.objLst_eq_nil indexes mem
    (isNone_iff_eq_none.mp (isSome_eq_false_iff.mp dropped)))
  have entries : (self.afterAdd support keepDeletedRules outcome platform).byObj.map
      (fun objData => (objData.obj, objData.objLst)) =
      ((self.afterDelete support keepDeletedRules platform).1.filter fun objData =>
        (self.rulesObjGetBestData objData).isSome).map
          fun objData => (objData.obj, objData.objLst) :=
    syncAdd_byObj self outcome.adds _ _
  rw [sync_eq]
  refine ⟨tables.unique, tables.addresses, tables.fresh, kept.congr entries, tables.byUserTag, ?_⟩
  intro objData mem empty
  have mapped := List.mem_map_of_mem (f := fun objData : RulesObjData =>
    (objData.obj, objData.objLst)) mem
  rw [show _ = _ from entries] at mapped
  obtain ⟨old, old_mem, equal⟩ := List.mem_map.mp mapped
  obtain ⟨-, some_best⟩ := mem_filter.mp old_mem
  have old_empty : old.objLst = [] := (Prod.mk.inj equal).2.trans empty
  have none_best : self.rulesObjGetBestData old = none := by
    rw [rulesObjGetBestData_eq_none, old_empty]
    rfl
  rw [none_best] at some_best
  cases some_best

end Sync

end NMPRulesManager

open NMPRulesManager

theorem alone_userTag_iff {tracked : Rule → Tag → Option Bool} (tables : self.Tables support)
    (tracks : self.Tracks support tracked) {id : Nat} {rulesData : RulesData Tag}
    (mem : (id, rulesData) ∈ self.byData) :
    userTagView.alone self.byUserTag id = false ↔ ∃ other,
      sameRule support rulesData.obj other = false ∧
        (tracked other rulesData.userTag).isSome = true := by
  obtain ⟨home, home_mem, home_same⟩ := tables.byUserTag.covered _ (List.mem_map_of_mem mem)
  have found : userTagView.find self.byUserTag rulesData.userTag = some home :=
    tables.byUserTag.find_eq_some home_mem home_same
  have listed : id ∈ home.userTagLst := (tables.mem_userTagLst_iff found mem).mpr rfl
  constructor
  · intro not_alone
    by_contra no_other
    have single : ∀ other ∈ home.userTagLst, other = id := by
      intro other other_listed
      obtain ⟨tag, node_mem, same⟩ :=
        (tables.byUserTag.mem_iff home home_mem other).mp other_listed
      obtain ⟨⟨address, data⟩, record_mem, equal⟩ := List.mem_map.mp node_mem
      obtain ⟨rfl, rfl⟩ := Prod.mk.inj equal
      have same_tag := (tables.mem_userTagLst_iff found record_mem).mp other_listed
      have tracked_pair : tracked data.obj rulesData.userTag = some data.dirty :=
        (tracks _ _ _).mpr ⟨_, record_mem, (objView support).same_refl _, same_tag, rfl⟩
      have same_rule : sameRule support rulesData.obj data.obj = true := by
        by_contra different
        refine no_other ⟨data.obj, Bool.eq_false_iff.mpr different, ?_⟩
        rw [tracked_pair]
        rfl
      exact (congrArg Prod.fst (tables.eq_of_pair mem record_mem same_rule same_tag.symm)).symm
    have ids_eq : home.userTagLst = [id] := by
      by_contra several
      have nodup : home.userTagLst.Nodup := tables.byUserTag.nodup home home_mem
      rcases (nodup.ne_singleton_iff id).mp several with none | ⟨other, other_listed, different⟩
      · rw [none] at listed
        cases listed
      · exact different (single other other_listed)
    rw [BucketView.alone_of_mem home_mem ids_eq] at not_alone
    cases not_alone
  · rintro ⟨other, different, is_tracked⟩
    rw [Bool.eq_false_iff]
    intro alone
    have ids_eq := tables.byUserTag.ids_of_alone (tables.only_userTag mem) alone home_mem home_same
    obtain ⟨dirty, tracked_pair⟩ := isSome_iff_exists.mp is_tracked
    obtain ⟨record, record_mem, record_rule, record_tag, -⟩ := (tracks _ _ _).mp tracked_pair
    have record_listed := (tables.mem_userTagLst_iff found record_mem).mpr record_tag
    rw [show home.userTagLst = [id] from ids_eq] at record_listed
    obtain ⟨address, data⟩ := record
    obtain rfl := mem_singleton.mp record_listed
    rw [tables.eq_of_address record_mem mem] at record_rule
    rw [sameRule_symm record_rule] at different
    cases different

/-- The part of the bookkeeping that no event disturbs. -/
def InOrder (support : KernelSupport) (system : System Tag) : Prop :=
  system.manager.Tables support ∧ system.manager.Tracks support system.tracked

/-- If a rule is taken over from a tag, then this tag tracks another rule as well. -/
def KeepsTag (support : KernelSupport) (system : System Tag) : Event Tag → Prop
  | .track rule _ userTag (some other) =>
    userTag ≠ other → (system.tracked rule other).isSome = true →
      ∃ another, sameRule support rule another = false ∧
        (system.tracked another other).isSome = true
  | _ => True

section

variable (tracked : Rule → Tag → Option Bool)

include tracked

theorem trackedAfterTrack_none (rule r : Rule) (userTag tag : Tag) :
    trackedAfterTrack support tracked rule userTag none r tag =
      if sameRule support rule r = true ∧ tag = userTag then some false else tracked r tag := by
  unfold trackedAfterTrack
  simp

theorem trackedAfterTrack_self (rule : Rule) (userTag : Tag) :
    trackedAfterTrack support tracked rule userTag (some userTag) =
      trackedAfterTrack support tracked rule userTag none := by
  funext r tag
  rw [trackedAfterTrack_none]
  unfold trackedAfterTrack
  by_cases pair : sameRule support rule r = true ∧ tag = userTag
  · rw [if_pos pair, if_pos pair]
  · have other : ¬ (sameRule support rule r = true ∧ some userTag = some tag) := by
      rintro ⟨same, equal⟩
      exact pair ⟨same, (Option.some.inj equal).symm⟩
    rw [if_neg pair, if_neg pair, if_neg other]

theorem trackedAfterTrack_some (rule : Rule) {userTag other : Tag} (different : userTag ≠ other) :
    trackedAfterTrack support tracked rule userTag (some other) =
      trackedAfterUntrack support (trackedAfterTrack support tracked rule userTag none) rule
        other := by
  funext r tag
  unfold trackedAfterUntrack
  rw [trackedAfterTrack_none]
  unfold trackedAfterTrack
  by_cases pair : sameRule support rule r = true ∧ tag = other
  · have apart : ¬ (sameRule support rule r = true ∧ tag = userTag) := by
      rintro ⟨-, equal⟩
      exact different (equal.symm.trans pair.2)
    rw [if_pos pair, if_neg apart, if_pos ⟨pair.1, congrArg some pair.2.symm⟩]
  · have unequal : ¬ (sameRule support rule r = true ∧ some other = some tag) := by
      rintro ⟨same, equal⟩
      exact pair ⟨same, (Option.some.inj equal).symm⟩
    rw [if_neg pair, if_neg unequal]

end

section Steps

variable {tracked : Rule → Tag → Option Bool} (tables : self.Tables support)
  (tracks : self.Tracks support tracked) (rule : Rule) (priority : Int) (userTag : Tag)

include tables tracks

theorem track_inOrder (userTagUntrack : Option Tag) :
    (self.track support rule priority userTag userTagUntrack).Tables support ∧
    (self.track support rule priority userTag userTagUntrack).Tracks support
      (trackedAfterTrack support tracked rule userTag userTagUntrack) := by
  have next_tables : (self.trackData support rule priority userTag).Tables support :=
    tables.trackData
  have next_tracks : (self.trackData support rule priority userTag).Tracks support
      (trackedAfterTrack support tracked rule userTag none) := tracks.trackData tables
  unfold track
  cases userTagUntrack with
  | none => exact ⟨next_tables, next_tracks⟩
  | some other =>
    dsimp only
    by_cases same : userTag = other
    · rw [if_neg (not_not.mpr same), ← same, trackedAfterTrack_self]
      exact ⟨next_tables, next_tracks⟩
    · rw [if_pos same, trackedAfterTrack_some tracked rule same]
      cases found : (self.trackData support rule priority userTag).rulesDataLookup support rule
          other with
      | none => exact ⟨next_tables, next_tracks.untrack_of_none found⟩
      | some record =>
        obtain ⟨mem, same_tag, same_rule⟩ := of_rulesDataLookup found
        exact ⟨next_tables.rulesDataUntrack mem,
          next_tracks.rulesDataUntrack next_tables mem same_tag same_rule⟩

theorem track_tagsInUse_iff (in_use : self.TagsInUse) (userTagUntrack : Option Tag) :
    (self.track support rule priority userTag userTagUntrack).TagsInUse ↔
      ∀ other, userTagUntrack = some other → userTag ≠ other →
        (tracked rule other).isSome = true → ∃ another,
          sameRule support rule another = false ∧ (tracked another other).isSome = true := by
  have next_tables : (self.trackData support rule priority userTag).Tables support :=
    tables.trackData
  have next_tracks : (self.trackData support rule priority userTag).Tracks support
      (trackedAfterTrack support tracked rule userTag none) := tracks.trackData tables
  have next_in_use : (self.trackData support rule priority userTag).TagsInUse := in_use.trackData
  unfold track
  cases userTagUntrack with
  | none => exact iff_of_true next_in_use fun other absurd => nomatch absurd
  | some other =>
    dsimp only
    by_cases same : userTag = other
    · rw [if_neg (not_not.mpr same)]
      refine iff_of_true next_in_use ?_
      rintro _ equal different
      exact absurd (same.trans (Option.some.inj equal)) different
    · rw [if_pos same]
      -- The tag that is untracked is not affected by the tracking before.
      have unaffected : ∀ r, trackedAfterTrack support tracked rule userTag none r other =
          tracked r other := by
        intro r
        rw [trackedAfterTrack_none, if_neg fun pair => same pair.2.symm]
      cases found : (self.trackData support rule priority userTag).rulesDataLookup support rule
          other with
      | none =>
        refine iff_of_true next_in_use ?_
        rintro _ ⟨⟩ - is_tracked
        obtain ⟨dirty, tracked_pair⟩ := isSome_iff_exists.mp is_tracked
        rw [← unaffected] at tracked_pair
        obtain ⟨record, mem, record_rule, record_tag, -⟩ := (next_tracks _ _ _).mp tracked_pair
        have unmatched := of_rulesDataLookup_none found mem record_tag
        rw [record_rule] at unmatched
        cases unmatched
      | some record =>
        obtain ⟨id, rulesData⟩ := record
        obtain ⟨mem, same_tag, same_rule⟩ := of_rulesDataLookup found
        have is_tracked : (tracked rule other).isSome = true := by
          have tracked_pair := (next_tracks rule other rulesData.dirty).mpr
            ⟨_, mem, same_rule, same_tag, rfl⟩
          rw [unaffected] at tracked_pair
          rw [tracked_pair]
          rfl
        dsimp only
        rw [tagsInUse_takeOver_iff next_in_use, alone_userTag_iff next_tables next_tracks mem,
          same_tag]
        have same_for : ∀ another, (objView support).same rulesData.obj another =
            (objView support).same rule another :=
          fun another => (BucketView.same_congr_left same_rule another).symm
        have same_for : ∀ another, sameRule support rulesData.obj another =
            sameRule support rule another := same_for
        simp only [unaffected, same_for]
        constructor
        · rintro another_exists _ ⟨⟩ - -
          exact another_exists
        · intro condition
          exact condition other rfl same is_tracked

end Steps

variable {system : System Tag} {event : Event Tag}

theorem InOrder.step (in_order : InOrder support system) (event : Event Tag) :
    InOrder support (system.step support event) := by
  obtain ⟨tables, tracks⟩ := in_order
  cases event with
  | track rule priority userTag userTagUntrack =>
    exact track_inOrder tables tracks rule priority userTag userTagUntrack
  | untrack rule userTag =>
    show (system.manager.untrack support rule userTag).Tables support ∧
      (system.manager.untrack support rule userTag).Tracks support _
    unfold untrack
    cases found : system.manager.rulesDataLookup support rule userTag with
    | none => exact ⟨tables, tracks.untrack_of_none found⟩
    | some record =>
      obtain ⟨mem, same_tag, same_rule⟩ := of_rulesDataLookup found
      exact ⟨tables.rulesDataUntrack mem, tracks.rulesDataUntrack tables mem same_tag same_rule⟩
  | setDirty userTag => exact ⟨tables.setDirty userTag, tracks.setDirty tables userTag⟩
  | untrackAll userTag all =>
    exact ⟨(untrackAll_spec all tables).1, tracks.untrackAll all (untrackAll_spec all tables).2.2⟩
  | sync keepDeletedRules outcome => exact ⟨tables.sync outcome system.platform, tracks⟩
  | externalAdd rule =>
    unfold System.step
    dsimp only
    split
    · exact ⟨tables, tracks⟩
    · exact ⟨tables, tracks⟩
  | externalRemove rule => exact ⟨tables, tracks⟩

theorem step_tagsInUse_iff (in_order : InOrder support system)
    (in_use : system.manager.TagsInUse) (event : Event Tag) :
    (system.step support event).manager.TagsInUse ↔ KeepsTag support system event := by
  obtain ⟨tables, tracks⟩ := in_order
  cases event with
  | track rule priority userTag userTagUntrack =>
    refine (track_tagsInUse_iff tables tracks rule priority userTag in_use userTagUntrack).trans ?_
    cases userTagUntrack with
    | none => exact iff_of_true (fun _ absurd => nomatch absurd) trivial
    | some other =>
      constructor
      · intro condition
        exact condition other rfl
      · rintro condition _ ⟨⟩
        exact condition
  | untrack rule userTag =>
    refine iff_of_true ?_ trivial
    show (system.manager.untrack support rule userTag).TagsInUse
    unfold untrack
    cases found : system.manager.rulesDataLookup support rule userTag with
    | none => exact in_use
    | some record => exact in_use.rulesDataUntrack tables (of_rulesDataLookup found).1
  | setDirty userTag =>
    refine iff_of_true ?_ trivial
    show ∀ userTagData ∈ (system.manager.setDirty userTag).byUserTag, _
    rw [setDirty_byUserTag]
    exact in_use
  | untrackAll userTag all => exact iff_of_true ((untrackAll_spec all tables).2.1 in_use) trivial
  | sync keepDeletedRules outcome => exact iff_of_true in_use trivial
  | externalAdd rule =>
    refine iff_of_true ?_ trivial
    unfold System.step
    dsimp only
    split
    · exact in_use
    · exact in_use
  | externalRemove rule => exact iff_of_true in_use trivial

theorem bookkeeping_iff {system : System Tag} :
    Bookkeeping support system ↔ InOrder support system ∧ system.manager.TagsInUse := by
  constructor
  · rintro ⟨tables, tracks, in_use⟩
    exact ⟨⟨tables, tracks⟩, in_use⟩
  · rintro ⟨⟨tables, tracks⟩, in_use⟩
    exact ⟨tables, tracks, in_use⟩

theorem bookkeeping_initial (Tag : Type) [DecidableEq Tag] (platform : List Rule) :
    Bookkeeping support (System.initial Tag platform) where
  tables :=
    { unique := List.Pairwise.nil
      addresses := nodup_nil
      fresh := nofun
      byObj := .empty
      byUserTag := .empty
      remembered := nofun }
  tracks := by
    intro rule tag dirty
    refine iff_of_false nofun ?_
    rintro ⟨record, mem, -⟩
    cases mem
  tagsInUse := nofun

variable (support) in
/-- A run keeps the bookkeeping in order throughout exactly if no step takes over a rule from a tag
that tracks nothing else. -/
theorem run_bookkeeping_iff (platform : List Rule) (events : List (Event Tag)) :
    (machine support).Throughout (Bookkeeping support) (System.initial Tag platform) events ↔
      (machine support).Along (KeepsTag support) (System.initial Tag platform) events := by
  have initial : Bookkeeping support (System.initial Tag platform) :=
    bookkeeping_initial Tag platform
  refine (machine support).throughout_iff_along (InOrder support)
    (fun system event in_order _ => in_order.step event) ?_ (bookkeeping_iff.mp initial).1 initial
    ((machine support).along_of_forall (fun _ _ => trivial) _ _)
  intro system event in_order in_books _
  rw [bookkeeping_iff, ← step_tagsInUse_iff in_order (bookkeeping_iff.mp in_books).2 event]
  exact and_iff_right (in_order.step event)

end

def mainRule : Rule := ⟨mainTableRule 0, by decide⟩

/-- The entry of a tag is left without records when the only rule of the tag is taken over. -/
theorem run_bookkeeping_fails :
    ¬ ∀ (support : KernelSupport) (platform : List Rule) (events : List (Event Nat)),
      (machine support).Throughout (Bookkeeping support) (System.initial Nat platform) events := by
  intro always
  obtain ⟨-, -, in_books⟩ := always ⟨true, true, true, true⟩ []
    [.track mainRule 0 1 none, .track mainRule 10 2 (some 1)]
  exact in_books.tagsInUse ⟨1, []⟩ mem_cons_self rfl

end NetworkManager.RulesManager
