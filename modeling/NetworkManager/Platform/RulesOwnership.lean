import NetworkManager.Platform.RulesSync

/-!
# Whose rules are deleted

Synchronising deletes a rule of the platform because its best record asks for its absence, or
because nobody tracks the rule any more and it is our own.  Whether it is our own is remembered in
the state of its entry, and this memory is not exact: an entry whose rule we removed is treated as
if we owned a rule that somebody else adds afterwards, and so is an entry whose rule was removed and
added again by others.  Runs without these events delete only what they should.
-/

namespace NetworkManager.RulesManager

open BucketView List

variable {support : KernelSupport} {Tag : Type} [DecidableEq Tag] {self : NMPRulesManager Tag}

/-- The entry says that the rule is our own. -/
def ConfigState.IsOurs (state : ConfigState) : Prop :=
  state = .addedByUs ∨ state = .ownedByUs

/-- Every entry that says so in the second list has a counterpart in the first one. -/
def OursFrom (before after : List RulesObjData) : Prop :=
  ∀ objData ∈ after, objData.configState.IsOurs →
    ∃ old ∈ before, old.obj = objData.obj ∧ old.configState.IsOurs

theorem OursFrom.refl (byObj : List RulesObjData) : OursFrom byObj byObj :=
  fun objData mem ours => ⟨objData, mem, rfl, ours⟩

theorem OursFrom.trans {first second third : List RulesObjData} (one : OursFrom first second)
    (two : OursFrom second third) : OursFrom first third := by
  intro objData mem ours
  obtain ⟨middle, middle_mem, middle_obj, middle_ours⟩ := two objData mem ours
  obtain ⟨old, old_mem, old_obj, old_ours⟩ := one middle middle_mem middle_ours
  exact ⟨old, old_mem, old_obj.trans middle_obj, old_ours⟩

/-- Every entry of the second list that remembers something has a counterpart in the first one that
remembers the same. -/
def EntriesFrom (before after : List RulesObjData) : Prop :=
  ∀ objData ∈ after, objData.configState ≠ .none →
    ∃ old ∈ before, old.obj = objData.obj ∧ old.configState = objData.configState

theorem EntriesFrom.refl (byObj : List RulesObjData) : EntriesFrom byObj byObj :=
  fun objData mem _ => ⟨objData, mem, rfl, rfl⟩

theorem EntriesFrom.trans {first second third : List RulesObjData} (one : EntriesFrom first second)
    (two : EntriesFrom second third) : EntriesFrom first third := by
  intro objData mem touched
  obtain ⟨middle, middle_mem, middle_obj, middle_state⟩ := two objData mem touched
  rw [← middle_state] at touched
  obtain ⟨old, old_mem, old_obj, old_state⟩ := one middle middle_mem touched
  exact ⟨old, old_mem, old_obj.trans middle_obj, old_state.trans middle_state⟩

theorem ConfigState.IsOurs.ne_none {state : ConfigState} (ours : state.IsOurs) : state ≠ .none := by
  rintro rfl
  rcases ours with absurd_state | absurd_state
  · cases absurd_state
  · cases absurd_state

theorem EntriesFrom.ours {before after : List RulesObjData} (entries : EntriesFrom before after) :
    OursFrom before after := by
  intro objData mem ours
  obtain ⟨old, old_mem, old_obj, old_state⟩ := entries objData mem ours.ne_none
  rw [← old_state] at ours
  exact ⟨old, old_mem, old_obj, ours⟩

namespace NMPRulesManager

theorem entriesFrom_unlink {byObj : List RulesObjData} (id : Nat) :
    EntriesFrom byObj ((objView support).unlink byObj id) := by
  intro objData mem _
  obtain ⟨old, old_mem, rfl⟩ := mem_map.mp mem
  exact ⟨old, old_mem, rfl, rfl⟩

theorem entriesFrom_filter {byObj : List RulesObjData} (keep : RulesObjData → Bool) :
    EntriesFrom byObj (byObj.filter keep) :=
  fun objData mem _ => ⟨objData, (mem_filter.mp mem).1, rfl, rfl⟩

theorem entriesFrom_trackData (rule : Rule) (priority : Int) (userTag : Tag) :
    EntriesFrom self.byObj (self.trackData support rule priority userTag).byObj := by
  cases found : self.rulesDataLookup support rule userTag with
  | some record =>
    rw [trackData_of_some found]
    exact .refl _
  | none =>
    rw [trackData_of_none found]
    intro objData mem touched
    unfold link at mem
    cases home : (objView support).find self.byObj rule with
    | some entry =>
      rw [home] at mem
      obtain ⟨old, old_mem, rfl⟩ := mem_map.mp mem
      by_cases same : (objView support).same rule ((objView support).key old) = true
      · rw [if_pos same]
        exact ⟨old, old_mem, rfl, rfl⟩
      · rw [if_neg same]
        exact ⟨old, old_mem, rfl, rfl⟩
    | none =>
      rw [home] at mem
      rcases mem_append.mp mem with mem | mem
      · exact ⟨objData, mem, rfl, rfl⟩
      · rw [mem_singleton.mp mem] at touched
        exact absurd rfl touched

theorem entriesFrom_forget (byObj : List RulesObjData) (forget : Bool) (rule : Rule) (id : Nat) :
    EntriesFrom byObj ((objView support).unlink
      (if forget then (objView support).remove byObj rule else byObj) id) := by
  cases forget with
  | true => exact (entriesFrom_filter _).trans (entriesFrom_unlink id)
  | false => exact entriesFrom_unlink id

theorem entriesFrom_untrack (id : Nat) (rulesData : RulesData Tag) (removeUserTagData : Bool) :
    EntriesFrom self.byObj
      (self.rulesDataUntrack support id rulesData removeUserTagData false).byObj :=
  entriesFrom_forget self.byObj _ rulesData.obj id

variable {objData : RulesObjData}

/-- Taking a rule over makes its entry our own, unless it remembers something. -/
theorem takeOver_entries {id : Nat} {rulesData : RulesData Tag}
    (mem : objData ∈ (self.rulesDataUntrack support id rulesData false true).byObj)
    (touched : objData.configState ≠ .none) :
    (∃ old ∈ self.byObj, old.obj = objData.obj ∧ old.configState = objData.configState) ∨
      (objData.configState = .ownedByUs ∧ sameRule support rulesData.obj objData.obj = true) := by
  obtain ⟨owned, owned_mem, owned_obj, owned_state⟩ :=
    entriesFrom_forget _ _ rulesData.obj id objData mem touched
  have owned_mem : owned ∈ (objView support).modify self.byObj rulesData.obj _ := owned_mem
  obtain ⟨old, old_mem, rfl⟩ := mem_map.mp owned_mem
  by_cases same : (objView support).same rulesData.obj ((objView support).key old) = true
  · rw [if_pos same] at owned_obj owned_state
    dsimp only at owned_obj owned_state
    by_cases untouched : old.configState = .none
    · rw [if_pos untouched] at owned_obj owned_state
      rw [← owned_obj]
      exact .inr ⟨owned_state.symm, same⟩
    · rw [if_neg untouched] at owned_obj owned_state
      exact .inl ⟨old, old_mem, owned_obj, owned_state⟩
  · rw [if_neg same] at owned_obj owned_state
    exact .inl ⟨old, old_mem, owned_obj, owned_state⟩

theorem entriesFrom_untrackIfDirty (all : Bool) (id : Nat) :
    EntriesFrom self.byObj (untrackIfDirty support all self id).byObj := by
  unfold untrackIfDirty
  cases self.data id with
  | none => exact .refl _
  | some rulesData =>
    dsimp only
    split
    · exact entriesFrom_untrack id rulesData false
    · exact .refl _

theorem entriesFrom_foldl_untrackIfDirty (all : Bool) (ids : List Nat) :
    EntriesFrom self.byObj (ids.foldl (untrackIfDirty support all) self).byObj := by
  induction ids generalizing self with
  | nil => exact .refl _
  | cons id ids ih => exact (entriesFrom_untrackIfDirty all id).trans ih

theorem entriesFrom_untrackAll (userTag : Tag) (all : Bool) :
    EntriesFrom self.byObj (self.untrackAll support userTag all).byObj := by
  cases found : userTagView.find self.byUserTag userTag with
  | none =>
    unfold untrackAll
    rw [found]
    exact .refl _
  | some userTagData =>
    rw [untrackAll_of_some all found]
    split
    · exact entriesFrom_foldl_untrackIfDirty all _
    · exact entriesFrom_foldl_untrackIfDirty all _

theorem entriesFrom_untrackRule (rule : Rule) (userTag : Tag) :
    EntriesFrom self.byObj (self.untrack support rule userTag).byObj := by
  unfold untrack
  split
  · exact entriesFrom_untrack _ _ true
  · exact .refl _

theorem entriesFrom_setDirty (userTag : Tag) :
    EntriesFrom self.byObj (self.setDirty userTag).byObj := by
  unfold setDirty
  split
  · exact .refl _
  · exact .refl _

theorem track_entries (rule : Rule) (priority : Int) (userTag : Tag) (userTagUntrack : Option Tag)
    (mem : objData ∈ (self.track support rule priority userTag userTagUntrack).byObj)
    (touched : objData.configState ≠ .none) :
    (∃ old ∈ self.byObj, old.obj = objData.obj ∧ old.configState = objData.configState) ∨
    (objData.configState = .ownedByUs ∧
      self.takesOver support rule priority userTag userTagUntrack = true ∧
      sameRule support rule objData.obj = true) := by
  have tracked : EntriesFrom self.byObj (self.trackData support rule priority userTag).byObj :=
    entriesFrom_trackData rule priority userTag
  unfold track at mem
  cases userTagUntrack with
  | none => exact .inl (tracked objData mem touched)
  | some other =>
    dsimp only at mem
    by_cases different : userTag ≠ other
    · rw [if_pos different] at mem
      cases found : (self.trackData support rule priority userTag).rulesDataLookup support rule
          other with
      | none =>
        rw [found] at mem
        exact .inl (tracked objData mem touched)
      | some record =>
        rw [found] at mem
        obtain ⟨-, -, same_rule⟩ := of_rulesDataLookup found
        rcases takeOver_entries mem touched with
          ⟨old, old_mem, old_obj, old_state⟩ | ⟨owned, same⟩
        · rw [← old_state] at touched
          obtain ⟨first, first_mem, first_obj, first_state⟩ := tracked old old_mem touched
          exact .inl ⟨first, first_mem, first_obj.trans old_obj, first_state.trans old_state⟩
        · refine .inr ⟨owned, ?_, sameRule_trans same_rule same⟩
          unfold takesOver
          dsimp only
          rw [found, decide_eq_true different]
          rfl
    · rw [if_neg different] at mem
      exact .inl (tracked objData mem touched)

theorem track_ours (rule : Rule) (priority : Int) (userTag : Tag) (userTagUntrack : Option Tag)
    (mem : objData ∈ (self.track support rule priority userTag userTagUntrack).byObj)
    (ours : objData.configState.IsOurs) :
    (∃ old ∈ self.byObj, old.obj = objData.obj ∧ old.configState.IsOurs) ∨
    (self.takesOver support rule priority userTag userTagUntrack = true ∧
      sameRule support rule objData.obj = true) := by
  rcases track_entries rule priority userTag userTagUntrack mem ours.ne_none with
    ⟨old, old_mem, old_obj, old_state⟩ | ⟨-, taken⟩
  · rw [← old_state] at ours
    exact .inl ⟨old, old_mem, old_obj, ours⟩
  · exact .inr taken

section Sync

variable {keepDeletedRules : Bool} {state : ConfigState} {rule : Rule} {acc : SyncAddState}

omit [DecidableEq Tag]

theorem not_isOurs : ¬ state.IsOurs ↔ state = .none ∨ state = .removedByUs := by
  unfold ConfigState.IsOurs
  cases state <;> simp

/-- The first loop does not make an entry our own. -/
theorem deleteDecision_ours {best : Option (RulesData Tag)}
    (ours : (deleteDecision best keepDeletedRules state).1.IsOurs) : state.IsOurs := by
  by_contra others
  refine absurd ours (not_isOurs.mpr ?_)
  unfold deleteDecision
  cases best with
  | none =>
    cases keepDeletedRules with
    | true => exact not_isOurs.mp others
    | false => exact .inr rfl
  | some best =>
    dsimp only
    by_cases present : best.trackPriorityPresent = true
    · rw [if_pos present, if_neg fun owned => others (.inr owned)]
      exact not_isOurs.mp others
    · rw [if_neg present]
      by_cases weak : best.trackPriorityVal = 0
      · rw [if_pos weak, if_neg (show ¬ (state = .addedByUs ∨ state = .ownedByUs) from others)]
        exact .inl rfl
      · rw [if_neg weak]
        cases keepDeletedRules with
        | true => exact not_isOurs.mp others
        | false => exact .inr rfl

theorem not_kept_of_deleteDecision {best : Option (RulesData Tag)}
    (deleted : (deleteDecision best keepDeletedRules state).2 = true) :
    keepDeletedRules = false := by
  by_contra kept
  rw [Bool.not_eq_false] at kept
  rw [kept] at deleted
  unfold deleteDecision at deleted
  cases best with
  | none => cases deleted
  | some best =>
    dsimp only at deleted
    split at deleted
    · cases deleted
    · split at deleted
      · split at deleted
        · cases deleted
        · cases deleted
      · cases deleted

theorem not_kept_of_mem_deleted {platform : List Rule}
    (deleted : rule ∈ (self.afterDelete support keepDeletedRules platform).2) :
    keepDeletedRules = false := by
  rcases mem_foldl_syncDeleteStep platform deleted with absurd_mem | ⟨-, state, _, -, -, decision⟩
  · cases absurd_mem
  · exact not_kept_of_deleteDecision decision

/-- Neither does the second loop, unless it adds the rule. -/
theorem addDecision_ours {best : RulesData Tag} (ours : (addDecision best state).1.IsOurs) :
    state.IsOurs := by
  by_contra others
  refine absurd ours (not_isOurs.mpr ?_)
  unfold addDecision
  by_cases absent : best.trackPriorityPresent = false
  · rw [if_pos absent, if_neg fun owned => others (.inr owned)]
    exact not_isOurs.mp others
  · rw [if_neg absent]
    by_cases weak : best.trackPriorityVal = 0
    · rw [if_pos weak]
      exact .inl rfl
    · rw [if_neg weak]
      exact not_isOurs.mp others

theorem oursFrom_syncDeleteStep {acc : List RulesObjData × List Rule}
    (unique : acc.1.Pairwise fun a b => sameRule support a.obj b.obj = false) (plobj : Rule) :
    OursFrom acc.1 (self.syncDeleteStep support keepDeletedRules acc plobj).1 := by
  unfold syncDeleteStep
  cases found : (objView support).find acc.1 plobj with
  | none => exact .refl _
  | some home =>
    intro objData mem ours
    obtain ⟨old, old_mem, rfl⟩ := mem_map.mp mem
    by_cases same : (objView support).same plobj ((objView support).key old) = true
    · have old_found := find_eq_some_of_unique unique old_mem same
      rw [found, Option.some.injEq] at old_found
      rw [if_pos same] at ours ⊢
      refine ⟨old, old_mem, rfl, ?_⟩
      rw [old_found] at ours
      exact deleteDecision_ours ours
    · rw [if_neg same] at ours ⊢
      exact ⟨old, old_mem, rfl, ours⟩

/-- The first loop does not make entries our own. -/
theorem oursFrom_afterDelete {acc : List RulesObjData × List Rule}
    (unique : acc.1.Pairwise fun a b => sameRule support a.obj b.obj = false)
    (platform : List Rule) :
    OursFrom acc.1 (platform.foldl (self.syncDeleteStep support keepDeletedRules) acc).1 := by
  induction platform generalizing acc with
  | nil => exact .refl _
  | cons plobj platform ih =>
    have keys : (self.syncDeleteStep support keepDeletedRules acc plobj).1.map
        (fun objData => ((objView support).key objData, (objView support).ids objData)) =
        acc.1.map fun objData => ((objView support).key objData, (objView support).ids objData) :=
      syncDeleteStep_entryKeys plobj
    exact (oursFrom_syncDeleteStep unique plobj).trans (ih (unique_congr keys unique))

variable {succeeds : Rule → Bool}

/-- An entry that says so was our own before the second loop, or its rule was not in the platform
then and has been added. -/
theorem syncAdd_ours (byObj : List RulesObjData) (acc : SyncAddState) {objData : RulesObjData}
    (mem : objData ∈ (byObj.foldl (self.syncAddStep support succeeds) acc).byObj)
    (ours : objData.configState.IsOurs) :
    objData ∈ acc.byObj ∨ ∃ old ∈ byObj, old.obj = objData.obj ∧
      (old.configState.IsOurs ∨ ∀ rule ∈ acc.platform, sameRule support old.obj rule = false) := by
  induction byObj generalizing acc with
  | nil => exact .inl mem
  | cons first byObj ih =>
    rcases ih _ mem with before | ⟨old, old_mem, old_obj, reason⟩
    · have turn := self.syncAddTurn support succeeds acc first
      generalize self.syncAddStep support succeeds acc first = after at turn before
      cases turn with
      | dropped unrecorded => exact .inl before
      | added best found wanted missing =>
        rcases mem_append.mp before with before | before
        · exact .inl before
        · rw [mem_singleton.mp before]
          exact .inr ⟨first, mem_cons_self, rfl, .inr missing⟩
      | kept best found present =>
        rcases mem_append.mp before with before | before
        · exact .inl before
        · rw [mem_singleton.mp before] at ours ⊢
          exact .inr ⟨first, mem_cons_self, rfl, .inl (addDecision_ours ours)⟩
    · refine .inr ⟨old, mem_cons_of_mem first old_mem, old_obj, ?_⟩
      rcases reason with old_ours | missing
      · exact .inl old_ours
      · exact .inr fun rule rule_mem => missing rule (mem_syncAddStep_of_mem first rule_mem)

theorem mem_added_of_mem (byObj : List RulesObjData) (mem : rule ∈ acc.added) :
    rule ∈ (byObj.foldl (self.syncAddStep support succeeds) acc).added := by
  induction byObj generalizing acc with
  | nil => exact mem
  | cons objData byObj ih =>
    refine ih ?_
    have turn := self.syncAddTurn support succeeds acc objData
    generalize self.syncAddStep support succeeds acc objData = after at turn ⊢
    cases turn with
    | dropped unrecorded => exact mem
    | added best found wanted missing => exact mem_append_left _ mem
    | kept best found present => exact mem

theorem of_mem_syncAddStep {objData : RulesObjData}
    (mem : rule ∈ (self.syncAddStep support succeeds acc objData).platform) :
    rule ∈ acc.platform ∨
      (rule ∈ (self.syncAddStep support succeeds acc objData).added ∧ succeeds rule = true) := by
  have turn := self.syncAddTurn support succeeds acc objData
  generalize self.syncAddStep support succeeds acc objData = after at turn mem ⊢
  cases turn with
  | dropped unrecorded => exact .inl mem
  | added best found wanted missing =>
    dsimp only at mem ⊢
    by_cases success : succeeds objData.obj = true
    · rw [if_pos success] at mem
      rcases mem_append.mp mem with mem | mem
      · exact .inl mem
      · rw [mem_singleton.mp mem]
        exact .inr ⟨mem_append_right _ (mem_singleton.mpr rfl), success⟩
    · rw [if_neg success] at mem
      exact .inl mem
  | kept best found present => exact .inl mem

theorem of_mem_platform (byObj : List RulesObjData)
    (mem : rule ∈ (byObj.foldl (self.syncAddStep support succeeds) acc).platform) :
    rule ∈ acc.platform ∨
      (rule ∈ (byObj.foldl (self.syncAddStep support succeeds) acc).added ∧
        succeeds rule = true) := by
  induction byObj generalizing acc with
  | nil => exact .inl mem
  | cons objData byObj ih =>
    rcases ih mem with before | added
    · rcases of_mem_syncAddStep before with before | ⟨added, success⟩
      · exact .inl before
      · exact .inr ⟨mem_added_of_mem byObj added, success⟩
    · exact .inr added

end Sync

/-- Rules that are tracked weakly shall be present. -/
def WeakPresent (self : NMPRulesManager Tag) : Prop :=
  ∀ record ∈ self.byData, record.2.trackPriorityVal = 0 → record.2.trackPriorityPresent = true

omit [DecidableEq Tag] in
theorem WeakPresent.of_filter {next : NMPRulesManager Tag} (weak : self.WeakPresent)
    (subset : ∀ record ∈ next.byData, record ∈ self.byData) : next.WeakPresent :=
  fun record mem => weak record (subset record mem)

theorem WeakPresent.trackData (weak : self.WeakPresent) (rule : Rule) (priority : Int)
    (userTag : Tag) : (self.trackData support rule priority userTag).WeakPresent := by
  have zero_present : priority.natAbs = 0 → decide (0 ≤ priority) = true := by
    intro zero
    rw [Int.natAbs_eq_zero.mp zero]
    rfl
  cases found : self.rulesDataLookup support rule userTag with
  | none =>
    rw [trackData_of_none found]
    intro record mem
    rcases mem_append.mp mem with mem | mem
    · exact weak record mem
    · rw [mem_singleton.mp mem]
      exact zero_present
  | some home =>
    rw [trackData_of_some found]
    intro changed mem
    obtain ⟨record, record_mem, rfl⟩ := mem_map.mp mem
    split
    · exact zero_present
    · exact weak record record_mem

omit [DecidableEq Tag] in
theorem foldl_betterData_mem {records : List (RulesData Tag)} {start : Option (RulesData Tag)}
    {best : RulesData Tag} (found : records.foldl betterData start = some best) :
    start = some best ∨ best ∈ records := by
  induction records generalizing start with
  | nil => exact .inl found
  | cons record records ih =>
    rcases ih found with better | mem
    · unfold betterData at better
      cases start with
      | none => exact .inr (mem_cons.mpr (.inl (Option.some.inj better).symm))
      | some old =>
        dsimp only at better
        split at better
        · exact .inl better
        · split at better
          · exact .inl better
          · exact .inr (mem_cons.mpr (.inl (Option.some.inj better).symm))
    · exact .inr (mem_cons_of_mem record mem)

omit [DecidableEq Tag] in
theorem exists_of_best {best : RulesData Tag} (found : self.rulesObjGetBestData objData = some best) :
    ∃ id ∈ objData.objLst, (id, best) ∈ self.byData := by
  rcases foldl_betterData_mem found with absurd_eq | mem
  · cases absurd_eq
  · obtain ⟨id, listed, data⟩ := mem_filterMap.mp mem
    exact ⟨id, listed, mem_of_data data⟩

theorem WeakPresent.track (weak : self.WeakPresent) (rule : Rule) (priority : Int) (userTag : Tag)
    (userTagUntrack : Option Tag) :
    (self.track support rule priority userTag userTagUntrack).WeakPresent := by
  have tracked : (self.trackData support rule priority userTag).WeakPresent :=
    weak.trackData rule priority userTag
  unfold NMPRulesManager.track
  cases userTagUntrack with
  | none => exact tracked
  | some other =>
    dsimp only
    split
    · split
      · exact tracked.of_filter fun record mem => (mem_filter.mp mem).1
      · exact tracked
    · exact tracked

theorem WeakPresent.untrack (weak : self.WeakPresent) (rule : Rule) (userTag : Tag) :
    (self.untrack support rule userTag).WeakPresent := by
  unfold NMPRulesManager.untrack
  split
  · exact weak.of_filter fun record mem => (mem_filter.mp mem).1
  · exact weak

theorem WeakPresent.setDirty (weak : self.WeakPresent) (userTag : Tag) :
    (self.setDirty userTag).WeakPresent := by
  cases found : userTagView.find self.byUserTag userTag with
  | none =>
    unfold NMPRulesManager.setDirty
    rw [found]
    exact weak
  | some userTagData =>
    rw [setDirty_of_some found]
    intro changed mem
    obtain ⟨record, record_mem, rfl⟩ := mem_map.mp mem
    split
    · exact weak record record_mem
    · exact weak record record_mem

end NMPRulesManager

open NMPRulesManager

/-- A rule of the platform whose entry says that it is our own is our own. -/
structure Ownership (support : KernelSupport) (system : System Tag) : Prop where
  inOrder : InOrder support system
  weak : system.manager.WeakPresent
  /-- The entries are right about our own rules. -/
  owned : ∀ objData ∈ system.manager.byObj, objData.configState.IsOurs →
    ∀ rule ∈ system.platform, sameRule support objData.obj rule = true →
      ∃ own ∈ system.owned, sameRule support own rule = true

/-- Synchronising does not find a rule that nobody tracks, that we removed and that is there again,
and others do not add a rule whose entry says that it is our own. -/
def NoForeignRule (support : KernelSupport) (system : System Tag) : Event Tag → Prop
  | .sync keepDeletedRules _ => keepDeletedRules = false →
      ∀ rule ∈ system.platform, ∀ objData ∈ system.manager.byObj,
        sameRule support rule objData.obj = true → objData.objLst = [] →
          objData.configState ≠ .removedByUs
  | .externalAdd rule => ∀ objData ∈ system.manager.byObj,
      sameRule support rule objData.obj = true → ¬ objData.configState.IsOurs
  | _ => True

/-- Every rule that is deleted has a best record that asks for its absence with a priority, or has
no record with a priority and is our own. -/
def JustifiedDeletions (support : KernelSupport) (system : System Tag) : Event Tag → Prop
  | .sync keepDeletedRules outcome =>
    ∀ rule ∈ (system.manager.sync support keepDeletedRules outcome system.platform).deleted,
      (∃ objData best, (objView support).find system.manager.byObj rule = some objData ∧
        system.manager.rulesObjGetBestData objData = some best ∧
        best.trackPriorityPresent = false ∧ 0 < best.trackPriorityVal) ∨
      ((∀ record ∈ system.manager.byData, sameRule support rule record.2.obj = true →
          record.2.trackPriorityVal = 0) ∧
        ∃ own ∈ system.owned, sameRule support own rule = true)
  | _ => True

section Runs

variable {system : System Tag}

section

variable (ownership : Ownership support system)

include ownership

/-- A step that leaves the platform alone and makes no entry our own. -/
theorem Ownership.of_oursFrom {next : System Tag} (in_order : InOrder support next)
    (weak : next.manager.WeakPresent) (ours : OursFrom system.manager.byObj next.manager.byObj)
    (platform : next.platform = system.platform) (owned : next.owned = system.owned) :
    Ownership support next where
  inOrder := in_order
  weak := weak
  owned := by
    intro objData mem is_ours rule rule_mem same
    obtain ⟨old, old_mem, old_obj, old_ours⟩ := ours objData mem is_ours
    rw [platform] at rule_mem
    rw [← old_obj] at same
    rw [owned]
    exact ownership.owned old old_mem old_ours rule rule_mem same

theorem Ownership.sync (keepDeletedRules : Bool) (outcome : PlatformOutcome) :
    Ownership support (system.step support (.sync keepDeletedRules outcome)) := by
  refine ⟨ownership.inOrder.step _, ownership.weak, ?_⟩
  intro objData mem is_ours rule rule_mem same
  have mem : objData ∈ (system.manager.afterAdd support keepDeletedRules outcome
      system.platform).byObj := mem
  have rule_mem : rule ∈ (system.manager.afterAdd support keepDeletedRules outcome
      system.platform).platform := rule_mem
  show ∃ own ∈ (system.manager.afterDelete support keepDeletedRules system.platform).2.foldl
      (platformDelete support outcome.deletes) system.owned ++
      (system.manager.afterAdd support keepDeletedRules outcome
        system.platform).added.filter outcome.adds, sameRule support own rule = true
  rcases of_mem_platform _ rule_mem with before | ⟨added, success⟩
  · rcases syncAdd_ours _ _ mem is_ours with absurd_mem | ⟨old, old_mem, old_obj, reason⟩
    · cases absurd_mem
    · rcases reason with old_ours | missing
      · -- The rule survived the deletions, and so does our ownership of it.
        have unique : system.manager.byObj.Pairwise fun a b =>
            sameRule support a.obj b.obj = false := ownership.inOrder.1.byObj.unique
        have from_before : OursFrom system.manager.byObj
            (system.manager.afterDelete support keepDeletedRules system.platform).1 :=
          oursFrom_afterDelete unique system.platform
        obtain ⟨first, first_mem, first_obj, first_ours⟩ := from_before old old_mem old_ours
        obtain ⟨there, spared⟩ := (mem_foldl_platformDelete _ _ _).mp before
        rw [← old_obj, ← first_obj] at same
        obtain ⟨own, own_mem, own_same⟩ := ownership.owned first first_mem first_ours rule there same
        refine ⟨own, mem_append_left _ ((mem_foldl_platformDelete _ _ _).mpr
          ⟨own_mem, ?_⟩), own_same⟩
        intro other deleted success
        by_contra other_same
        rw [Bool.not_eq_false] at other_same
        have rule_same := sameRule_trans other_same own_same
        rw [spared other deleted success] at rule_same
        cases rule_same
      · rw [← old_obj, missing rule before] at same
        cases same
  · exact ⟨rule, mem_append_right _ (mem_filter.mpr ⟨added, success⟩),
      (objView support).same_refl rule⟩

theorem Ownership.externalAdd {rule : Rule}
    (respected : NoForeignRule support system (.externalAdd rule)) :
    Ownership support (system.step support (.externalAdd rule)) := by
  have in_order := ownership.inOrder.step (.externalAdd rule)
  unfold System.step at in_order ⊢
  dsimp only at in_order ⊢
  by_cases there : system.platform.any (sameRule support rule) = true
  · rw [if_pos there]
    exact ownership
  · rw [if_neg there] at in_order ⊢
    refine ⟨in_order, ownership.weak, ?_⟩
    intro objData mem is_ours other other_mem same
    rcases mem_append.mp other_mem with other_mem | other_mem
    · obtain ⟨own, own_mem, own_same⟩ := ownership.owned objData mem is_ours other other_mem same
      refine ⟨own, mem_filter.mpr ⟨own_mem, ?_⟩, own_same⟩
      rw [Bool.not_eq_true', Bool.eq_false_iff]
      intro rule_same
      exact there (any_eq_true.mpr ⟨other, other_mem, sameRule_trans rule_same own_same⟩)
    · rw [mem_singleton.mp other_mem] at same
      exact absurd is_ours (respected objData mem (sameRule_symm same))

theorem Ownership.externalRemove (rule : Rule) :
    Ownership support (system.step support (.externalRemove rule)) := by
  refine ⟨ownership.inOrder.step (.externalRemove rule), ownership.weak, ?_⟩
  intro objData mem is_ours other other_mem same
  obtain ⟨other_mem, different⟩ := mem_filter.mp other_mem
  obtain ⟨own, own_mem, own_same⟩ := ownership.owned objData mem is_ours other other_mem same
  refine ⟨own, mem_filter.mpr ⟨own_mem, ?_⟩, own_same⟩
  rw [Bool.not_eq_true'] at different ⊢
  rw [Bool.eq_false_iff] at different ⊢
  exact fun rule_same => different (sameRule_trans rule_same own_same)

end

theorem WeakPresent.step (in_order : InOrder support system) (weak : system.manager.WeakPresent)
    (event : Event Tag) : (system.step support event).manager.WeakPresent := by
  cases event with
  | track rule priority userTag userTagUntrack =>
    exact weak.track rule priority userTag userTagUntrack
  | untrack rule userTag => exact weak.untrack rule userTag
  | setDirty userTag => exact weak.setDirty userTag
  | untrackAll userTag all =>
    refine weak.of_filter fun record mem => ?_
    have mem : record ∈ (system.manager.untrackAll support userTag all).byData := mem
    rw [(untrackAll_spec all in_order.1).2.2] at mem
    exact (mem_filter.mp mem).1
  | sync keepDeletedRules outcome => exact weak
  | externalAdd rule =>
    unfold System.step
    dsimp only
    split
    · exact weak
    · exact weak
  | externalRemove rule => exact weak

theorem Ownership.step (ownership : Ownership support system) {event : Event Tag}
    (respected : NoForeignRule support system event) :
    Ownership support (system.step support event) := by
  have in_order : InOrder support (system.step support event) := ownership.inOrder.step event
  have weak := WeakPresent.step ownership.inOrder ownership.weak event
  cases event with
  | track rule priority userTag userTagUntrack =>
    refine ⟨in_order, weak, ?_⟩
    intro objData mem is_ours other other_mem same
    have mem : objData ∈ (system.manager.track support rule priority userTag
        userTagUntrack).byObj := mem
    show ∃ own ∈ (if system.manager.takesOver support rule priority userTag userTagUntrack then
      system.owned ++ [rule] else system.owned), sameRule support own other = true
    rcases track_ours rule priority userTag userTagUntrack mem is_ours with
      ⟨old, old_mem, old_obj, old_ours⟩ | ⟨taken, rule_same⟩
    · rw [← old_obj] at same
      obtain ⟨own, own_mem, own_same⟩ := ownership.owned old old_mem old_ours other other_mem same
      refine ⟨own, ?_, own_same⟩
      split
      · exact mem_append_left _ own_mem
      · exact own_mem
    · rw [if_pos taken]
      exact ⟨rule, mem_append_right _ (mem_singleton.mpr rfl), sameRule_trans rule_same same⟩
  | untrack rule userTag =>
    refine ownership.of_oursFrom in_order weak ?_ rfl rfl
    exact (entriesFrom_untrackRule rule userTag).ours
  | setDirty userTag =>
    refine ownership.of_oursFrom in_order weak ?_ rfl rfl
    exact (entriesFrom_setDirty userTag).ours
  | untrackAll userTag all =>
    exact ownership.of_oursFrom in_order weak (entriesFrom_untrackAll userTag all).ours rfl rfl
  | sync keepDeletedRules outcome => exact ownership.sync keepDeletedRules outcome
  | externalAdd rule => exact ownership.externalAdd respected
  | externalRemove rule => exact ownership.externalRemove rule

theorem Ownership.untracked (ownership : Ownership support system) {objData : RulesObjData}
    (mem : objData ∈ system.manager.byObj) (empty : objData.objLst = []) {rule : Rule}
    (same : sameRule support rule objData.obj = true) {record : Nat × RulesData Tag}
    (record_mem : record ∈ system.manager.byData) :
    ¬ sameRule support rule record.2.obj = true := by
  intro record_same
  have listed : record.1 ∈ (objView support).ids objData :=
    (ownership.inOrder.1.byObj.mem_iff objData mem record.1).mpr
      ⟨record.2.obj, mem_map_of_mem record_mem, sameRule_trans (sameRule_symm record_same) same⟩
  rw [show (objView support).ids objData = [] from empty] at listed
  cases listed

theorem Ownership.justifiedDeletions (ownership : Ownership support system) {event : Event Tag}
    (respected : NoForeignRule support system event) :
    JustifiedDeletions support system event := by
  cases event with
  | sync keepDeletedRules outcome =>
    intro rule deleted
    have deleted : rule ∈ (system.manager.afterDelete support keepDeletedRules
        system.platform).2 := deleted
    obtain ⟨there, objData, mem, same, absent⟩ := of_mem_deleted deleted
    have tables := ownership.inOrder.1
    cases found : system.manager.rulesObjGetBestData objData with
    | some best =>
      have not_present := absent best found
      refine .inl ⟨objData, best, ?_, found, not_present, ?_⟩
      · exact find_eq_some_of_unique tables.byObj.unique mem same
      · by_contra weak
        obtain ⟨id, -, best_mem⟩ := exists_of_best found
        have present := ownership.weak (id, best) best_mem (Nat.eq_zero_of_not_pos weak)
        rw [show best.trackPriorityPresent = true from present] at not_present
        cases not_present
    | none =>
      have empty := tables.objLst_eq_nil tables.byObj mem found
      refine .inr ⟨?_, ?_⟩
      · intro record record_mem record_same
        exact absurd record_same (ownership.untracked mem empty same record_mem)
      · have not_kept := not_kept_of_mem_deleted deleted
        have is_ours : objData.configState.IsOurs := by
          by_contra others
          rcases not_isOurs.mp others with untouched | removed
          · exact tables.remembered objData mem empty untouched
          · exact respected not_kept rule there objData mem same empty removed
        exact ownership.owned objData mem is_ours rule there (sameRule_symm same)
  | track | untrack | setDirty | untrackAll | externalAdd | externalRemove => trivial

theorem ownership_initial (support : KernelSupport) (Tag : Type) [DecidableEq Tag]
    (platform : List Rule) : Ownership support (System.initial Tag platform) where
  inOrder := (bookkeeping_iff.mp (bookkeeping_initial Tag platform)).1
  weak := nofun
  owned := nofun

variable (support) in
/-- In every run in which others do not add rules that the manager takes for its own, all deletions
are justified. -/
theorem run_justifiedDeletions (platform : List Rule) (events : List (Event Tag))
    (respected : (machine support).Along (NoForeignRule support) (System.initial Tag platform)
      events) :
    (machine support).Along (JustifiedDeletions support) (System.initial Tag platform) events :=
  (machine support).along_of_invariant (fun _ _ ownership met => ownership.step met)
    (fun _ _ ownership met => ownership.justifiedDeletions met)
    (ownership_initial support Tag platform) respected

end Runs

/-- We add a rule and delete it when it is not tracked any more. -/
theorem run_justifiedDeletions_own :
    (machine ⟨true, true, true, true⟩).Along (JustifiedDeletions ⟨true, true, true, true⟩)
      (System.initial Nat []) [.track mainRule 10 1 none, .sync false .success,
        .untrack mainRule 1, .sync false .success] := by
  refine run_justifiedDeletions ⟨true, true, true, true⟩ [] _ ⟨trivial, ?_, trivial, ?_, trivial⟩
  · intro _ rule mem
    cases mem
  · intro _ rule _ objData mem _ _
    rw [mem_singleton.mp (show objData ∈ [⟨mainRule, [], .addedByUs⟩] from mem)]
    exact ConfigState.noConfusion

/-- We remove a rule, somebody adds it again, and when we do not track it any more we delete it. -/
theorem run_justifiedDeletions_fails :
    ¬ ∀ (support : KernelSupport) (platform : List Rule) (events : List (Event Nat)),
      (machine support).Along (JustifiedDeletions support) (System.initial Nat platform)
        events := by
  intro always
  obtain ⟨-, -, -, -, justified, -⟩ := always ⟨true, true, true, true⟩ [mainRule]
    [.track mainRule (-5) 1 none, .sync false .success, .externalAdd mainRule,
      .untrack mainRule 1, .sync false .success]
  rcases justified mainRule (mem_singleton.mpr rfl) with
    ⟨objData, best, found, best_found, -⟩ | ⟨-, own, owned, -⟩
  · obtain rfl : ⟨mainRule, [], .removedByUs⟩ = objData := Option.some.inj found
    cases best_found
  · cases owned

end NetworkManager.RulesManager
