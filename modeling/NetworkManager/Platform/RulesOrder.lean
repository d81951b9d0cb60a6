import Mathlib.Data.Prod.Lex
import NetworkManager.Platform.RulesOwnership
import NetworkManager.Platform.RulesView

/-!
# The order in which rules are tracked

The best record of a rule is the one with the greatest priority, whatever the order of the list.  So
what synchronising does depends on what the manager knows about the rules, and not on how its tables
came about.  Requests of different tags do not disturb one another, unless one of them takes the rule
over from the tag of the other.
-/

namespace NetworkManager.RulesManager

open BucketView List NMPRulesManager Option

variable {support : KernelSupport} {Tag : Type}

theorem betterData_le {best next data : RulesData Tag}
    (better : betterData (some best) data = some next) :
    toLex best.trackPriority ≤ toLex next.trackPriority ∧
      toLex data.trackPriority ≤ toLex next.trackPriority := by
  unfold betterData at better
  dsimp only at better
  split at better
  · rename_i greater
    obtain rfl := Option.some.inj better
    exact ⟨le_refl _, Prod.Lex.toLex_le_toLex.mpr (.inl greater)⟩
  · rename_i not_greater
    split at better
    · rename_i equal
      obtain rfl := Option.some.inj better
      have present_le : data.trackPriorityPresent ≤ best.trackPriorityPresent := by
        rcases equal.2 with present | absent
        · rw [present]
          exact Bool.le_true _
        · rw [absent]
          exact Bool.false_le _
      exact ⟨le_refl _, Prod.Lex.toLex_le_toLex.mpr (.inr ⟨equal.1.symm, present_le⟩)⟩
    · rename_i unequal
      obtain rfl := Option.some.inj better
      refine ⟨Prod.Lex.toLex_le_toLex.mpr ?_, le_refl _⟩
      rcases Nat.lt_or_eq_of_le (Nat.le_of_not_lt not_greater) with less | equal
      · exact .inl less
      · have absent : best.trackPriorityPresent = false := by
          by_contra present
          exact unequal ⟨equal, .inl (Bool.not_eq_false _ ▸ present)⟩
        have present_le : best.trackPriorityPresent ≤ data.trackPriorityPresent := by
          rw [absent]
          exact Bool.false_le _
        exact .inr ⟨equal, present_le⟩

theorem foldl_betterData_greatest {records : List (RulesData Tag)} {start : Option (RulesData Tag)}
    {best : RulesData Tag} (found : records.foldl betterData start = some best) :
    (∀ data ∈ records, toLex data.trackPriority ≤ toLex best.trackPriority) ∧
      ∀ data, start = some data → toLex data.trackPriority ≤ toLex best.trackPriority := by
  induction records generalizing start with
  | nil =>
    refine ⟨fun _ mem => absurd mem not_mem_nil, fun data started => ?_⟩
    rw [foldl_nil, started] at found
    rw [Option.some.inj found]
  | cons first records ih =>
    obtain ⟨rest, from_next⟩ := ih found
    cases start with
    | none =>
      have first_le := from_next first rfl
      exact ⟨forall_mem_cons.mpr ⟨first_le, rest⟩, nofun⟩
    | some data =>
      obtain ⟨next, next_eq⟩ : ∃ next, betterData (some data) first = some next := by
        unfold betterData
        dsimp only
        split
        · exact ⟨_, rfl⟩
        · split
          · exact ⟨_, rfl⟩
          · exact ⟨_, rfl⟩
      obtain ⟨data_le, first_le⟩ := betterData_le next_eq
      have next_le := from_next next next_eq
      refine ⟨forall_mem_cons.mpr ⟨first_le.trans next_le, rest⟩, ?_⟩
      rintro _ ⟨⟩
      exact data_le.trans next_le

/-- The greatest priority of those that track a rule. -/
def RuleView.IsBest (known : RuleView Tag) : Option (Nat × Bool) → Prop
  | none => ∀ tag, known.priority tag = none
  | some best => (∃ tag, known.priority tag = some best) ∧
      ∀ tag priority, known.priority tag = some priority → toLex priority ≤ toLex best

theorem RuleView.IsBest.unique {known : RuleView Tag} {a b : Option (Nat × Bool)}
    (best_a : known.IsBest a) (best_b : known.IsBest b) : a = b := by
  cases a with
  | none =>
    cases b with
    | none => rfl
    | some b =>
      obtain ⟨⟨tag, found⟩, -⟩ := best_b
      rw [best_a tag] at found
      cases found
  | some a =>
    obtain ⟨⟨tag, found⟩, greatest⟩ := best_a
    cases b with
    | none =>
      rw [best_b tag] at found
      cases found
    | some b =>
      obtain ⟨⟨other_tag, other_found⟩, other_greatest⟩ := best_b
      have equal := le_antisymm (other_greatest tag a found)
        (greatest other_tag b other_found)
      rw [toLex_inj.mp equal]

namespace NMPRulesManager

variable [DecidableEq Tag] {self : NMPRulesManager Tag}

theorem Tables.mem_records (tables : self.Tables support) {objData : RulesObjData}
    (mem : objData ∈ self.byObj) {data : RulesData Tag} :
    data ∈ objData.objLst.filterMap self.data ↔ ∃ id, (id, data) ∈ self.byData ∧
      sameRule support objData.obj data.obj = true := by
  rw [mem_filterMap]
  constructor
  · rintro ⟨id, listed, found⟩
    have record_mem := mem_of_data found
    obtain ⟨rule, node_mem, same⟩ := (tables.byObj.mem_iff objData mem id).mp listed
    rw [tables.only_obj record_mem rule node_mem] at same
    exact ⟨id, record_mem, sameRule_symm same⟩
  · rintro ⟨id, record_mem, same⟩
    have listed : id ∈ objData.objLst := (tables.byObj.mem_iff objData mem id).mpr
      ⟨data.obj, List.mem_map_of_mem record_mem, sameRule_symm same⟩
    exact ⟨id, listed, tables.data_eq_some record_mem⟩

theorem Tables.isBest (tables : self.Tables support) {objData : RulesObjData}
    (mem : objData ∈ self.byObj) {rule : Rule} (same : sameRule support rule objData.obj = true) :
    (self.view support rule).IsBest
      ((self.rulesObjGetBestData objData).map RulesData.trackPriority) := by
  have tracked (tag : Tag) (priority : Nat × Bool)
      (is_tracked : (self.view support rule).priority tag = some priority) :
      ∃ data ∈ objData.objLst.filterMap self.data, data.trackPriority = priority := by
    obtain ⟨record, record_mem, record_same, -, priority_eq⟩ :=
      tables.priority_eq_some.mp is_tracked
    exact ⟨record.2, (tables.mem_records mem).mpr
      ⟨record.1, record_mem, sameRule_trans (sameRule_symm same) record_same⟩, priority_eq⟩
  cases found : self.rulesObjGetBestData objData with
  | none =>
    have empty := tables.objLst_eq_nil tables.byObj mem found
    intro tag
    cases is_tracked : (self.view support rule).priority tag with
    | none => rfl
    | some priority =>
      obtain ⟨data, data_mem, -⟩ := tracked tag priority is_tracked
      rw [empty] at data_mem
      cases data_mem
  | some best =>
    constructor
    · obtain ⟨id, listed, record_mem⟩ := exists_of_best found
      obtain ⟨other, node_mem, node_same⟩ := (tables.byObj.mem_iff objData mem id).mp listed
      rw [tables.only_obj record_mem other node_mem] at node_same
      exact ⟨best.userTag, tables.priority_eq_some.mpr ⟨(id, best), record_mem,
        sameRule_trans same (sameRule_symm node_same), rfl, rfl⟩⟩
    · intro tag priority is_tracked
      obtain ⟨data, data_mem, rfl⟩ := tracked tag priority is_tracked
      exact (foldl_betterData_greatest found).1 data data_mem

end NMPRulesManager

theorem deleteDecision_congr {a b : Option (RulesData Tag)}
    (same : a.map RulesData.trackPriority = b.map RulesData.trackPriority)
    (keepDeletedRules : Bool) (state : ConfigState) :
    deleteDecision a keepDeletedRules state = deleteDecision b keepDeletedRules state := by
  cases a with
  | none =>
    cases b with
    | none => rfl
    | some b => cases same
  | some a =>
    cases b with
    | none => cases same
    | some b =>
      obtain ⟨val_eq, present_eq⟩ := Prod.mk.inj (Option.some.inj same)
      unfold deleteDecision
      dsimp only
      rw [val_eq, present_eq]

theorem addDecision_congr {a b : RulesData Tag} (same : a.trackPriority = b.trackPriority)
    (state : ConfigState) : addDecision a state = addDecision b state := by
  obtain ⟨val_eq, present_eq⟩ := Prod.mk.inj same
  unfold addDecision
  rw [val_eq, present_eq]

namespace NMPRulesManager

variable {self other : NMPRulesManager Tag}

def entryView (support : KernelSupport) (self : NMPRulesManager Tag) (byObj : List RulesObjData)
    (rule : Rule) : Option (ConfigState × Option (Nat × Bool)) :=
  ((objView support).find byObj rule).map fun objData =>
    (objData.configState, (self.rulesObjGetBestData objData).map RulesData.trackPriority)

theorem entryView_modify {byObj : List RulesObjData} (rule other : Rule) (state : ConfigState) :
    self.entryView support ((objView support).modify byObj rule fun objData =>
        { objData with configState := state }) other =
      (self.entryView support byObj other).map fun entry =>
        if sameRule support rule other then (state, entry.2) else entry := by
  have same_key (objData : RulesObjData) : (objView support).key
      { objData with configState := state } = (objView support).key objData := rfl
  unfold entryView
  rw [find_modify same_key, Option.map_map, Option.map_map]
  congr 1
  funext objData
  show (RulesObjData.configState (if sameRule support rule other then _ else _), Option.map _
    (self.rulesObjGetBestData (if sameRule support rule other then _ else _))) = _
  by_cases same : sameRule support rule other = true
  · rw [if_pos same, Function.comp_apply, if_pos same]
    rfl
  · rw [if_neg same, Function.comp_apply, if_neg same]

/-- Two managers have the same entries, each in its own tables. -/
def SameEntries (support : KernelSupport) (self other : NMPRulesManager Tag)
    (byObj others : List RulesObjData) : Prop :=
  ∀ rule, self.entryView support byObj rule = other.entryView support others rule

theorem SameEntries.found {byObj others : List RulesObjData}
    (same : SameEntries support self other byObj others) (rule : Rule) :
    ((objView support).find byObj rule = none ∧ (objView support).find others rule = none) ∨
    ∃ a b, (objView support).find byObj rule = some a ∧
      (objView support).find others rule = some b ∧ a.configState = b.configState ∧
      (self.rulesObjGetBestData a).map RulesData.trackPriority =
        (other.rulesObjGetBestData b).map RulesData.trackPriority := by
  have equal := same rule
  unfold entryView at equal
  cases found : (objView support).find byObj rule with
  | none =>
    rw [found, map_none, eq_comm, map_eq_none_iff] at equal
    exact .inl ⟨rfl, equal⟩
  | some a =>
    rw [found, map_some, eq_comm, map_eq_some_iff] at equal
    obtain ⟨b, other_found, agree⟩ := equal
    obtain ⟨state_eq, best_eq⟩ := Prod.mk.inj agree
    exact .inr ⟨a, b, rfl, other_found, state_eq.symm, best_eq.symm⟩

section

variable {acc others : List RulesObjData × List Rule}
  (same : SameEntries support self other acc.1 others.1)

include same

theorem SameEntries.syncDeleteStep {keepDeletedRules : Bool} (deleted : acc.2 = others.2)
    (plobj : Rule) :
    SameEntries support self other (self.syncDeleteStep support keepDeletedRules acc plobj).1
      (other.syncDeleteStep support keepDeletedRules others plobj).1 ∧
    (self.syncDeleteStep support keepDeletedRules acc plobj).2 =
      (other.syncDeleteStep support keepDeletedRules others plobj).2 := by
  unfold NMPRulesManager.syncDeleteStep
  rcases same.found plobj with ⟨missing, other_missing⟩ | ⟨a, b, found, other_found, state, best⟩
  · rw [missing, other_missing]
    exact ⟨same, deleted⟩
  · rw [found, other_found]
    dsimp only
    rw [deleteDecision_congr best, state, deleted]
    refine ⟨fun rule => ?_, rfl⟩
    rw [entryView_modify, entryView_modify, same rule]

theorem SameEntries.afterDelete {keepDeletedRules : Bool} (deleted : acc.2 = others.2)
    (platform : List Rule) :
    SameEntries support self other
      (platform.foldl (self.syncDeleteStep support keepDeletedRules) acc).1
      (platform.foldl (other.syncDeleteStep support keepDeletedRules) others).1 ∧
    (platform.foldl (self.syncDeleteStep support keepDeletedRules) acc).2 =
      (platform.foldl (other.syncDeleteStep support keepDeletedRules) others).2 := by
  induction platform generalizing acc others with
  | nil => exact ⟨same, deleted⟩
  | cons plobj platform ih =>
    obtain ⟨next_same, next_deleted⟩ := same.syncDeleteStep deleted plobj
    exact ih next_same next_deleted

end

theorem isPresent_added {byObj : List RulesObjData}
    (hashed : byObj.Pairwise fun a b => sameRule support a.obj b.obj = false)
    (adds : RulesObjData → Bool) (succeeds : Rule → Bool) (rule : Rule) :
    isPresent support (((byObj.filter adds).map RulesObjData.obj).filter succeeds) rule =
      ((objView support).find byObj rule).any fun objData =>
        adds objData && succeeds objData.obj := by
  rw [Bool.eq_iff_iff, Option.any_eq_true]
  constructor
  · intro present
    obtain ⟨added, added_mem, same⟩ := List.any_eq_true.mp present
    obtain ⟨added_mem, success⟩ := mem_filter.mp added_mem
    obtain ⟨objData, mem, rfl⟩ := List.mem_map.mp added_mem
    obtain ⟨mem, asked⟩ := mem_filter.mp mem
    refine ⟨objData, find_eq_some_of_unique hashed mem same, ?_⟩
    rw [asked, success]
    rfl
  · rintro ⟨objData, found, asked⟩
    obtain ⟨asked, success⟩ := Bool.and_eq_true_iff.mp asked
    refine List.any_eq_true.mpr ⟨objData.obj, mem_filter.mpr ⟨List.mem_map_of_mem
      (mem_filter.mpr ⟨mem_of_find found, asked⟩), success⟩, ?_⟩
    exact same_of_find found

theorem entryAfterAdd_agree {a b : RulesObjData} (state : a.configState = b.configState)
    (best : (self.rulesObjGetBestData a).map RulesData.trackPriority =
      (other.rulesObjGetBestData b).map RulesData.trackPriority)
    {platform : List Rule}
    (present : isPresent support platform a.obj = isPresent support platform b.obj) :
    self.addsEntry support platform a = other.addsEntry support platform b ∧
    (self.entryAfterAdd support platform a).map RulesObjData.configState =
      (other.entryAfterAdd support platform b).map RulesObjData.configState := by
  unfold addsEntry entryAfterAdd
  rw [Option.map_map, Option.map_map]
  cases found : self.rulesObjGetBestData a with
  | none =>
    rw [found, map_none, eq_comm, map_eq_none_iff] at best
    rw [best]
    exact ⟨rfl, rfl⟩
  | some left =>
    rw [found, map_some, eq_comm, map_eq_some_iff] at best
    obtain ⟨right, other_found, agree⟩ := best
    have decision := addDecision_congr agree.symm b.configState
    have asked : addsRule left (isPresent support platform a.obj) a.configState =
        addsRule right (isPresent support platform b.obj) b.configState := by
      unfold addsRule
      rw [state, present, decision]
    rw [other_found]
    refine ⟨asked, congrArg some ?_⟩
    show stateAfterAdd left _ _ = stateAfterAdd right _ _
    unfold stateAfterAdd
    rw [asked, state, decision]

theorem SameEntries.sync
    (hashed : self.byObj.Pairwise fun a b => sameRule support a.obj b.obj = false)
    (other_hashed : other.byObj.Pairwise fun a b => sameRule support a.obj b.obj = false)
    (same : SameEntries support self other self.byObj other.byObj) (keepDeletedRules : Bool)
    (outcome : PlatformOutcome)
    (adds_congr : ∀ a b, sameRule support a b = true → outcome.adds a = outcome.adds b)
    (platform : List Rule) (rule : Rule) :
    isPresent support (self.sync support keepDeletedRules outcome platform).platform rule =
      isPresent support (other.sync support keepDeletedRules outcome platform).platform rule ∧
    ((objView support).find (self.sync support keepDeletedRules outcome platform).manager.byObj
        rule).map RulesObjData.configState =
      ((objView support).find (other.sync support keepDeletedRules outcome platform).manager.byObj
        rule).map RulesObjData.configState := by
  have start : ((self.byObj, []) : List RulesObjData × List Rule).2 =
    ((other.byObj, []) : List RulesObjData × List Rule).2 := rfl
  have loops : SameEntries support self other
      (platform.foldl (self.syncDeleteStep support keepDeletedRules) (self.byObj, [])).1
      (platform.foldl (other.syncDeleteStep support keepDeletedRules) (other.byObj, [])).1 ∧
      (platform.foldl (self.syncDeleteStep support keepDeletedRules) (self.byObj, [])).2 =
        (platform.foldl (other.syncDeleteStep support keepDeletedRules) (other.byObj, [])).2 :=
    SameEntries.afterDelete same start platform
  obtain ⟨between, deleted⟩ : SameEntries support self other
      (self.afterDelete support keepDeletedRules platform).1
      (other.afterDelete support keepDeletedRules platform).1 ∧
      (self.afterDelete support keepDeletedRules platform).2 =
        (other.afterDelete support keepDeletedRules platform).2 := loops
  have unique_after (manager : NMPRulesManager Tag)
      (unique : manager.byObj.Pairwise fun a b => sameRule support a.obj b.obj = false) :
      (manager.afterDelete support keepDeletedRules platform).1.Pairwise
        fun a b => sameRule support a.obj b.obj = false := by
    have keys : (manager.afterDelete support keepDeletedRules platform).1.map
        (fun objData => ((objView support).key objData, (objView support).ids objData)) =
        manager.byObj.map fun objData =>
          ((objView support).key objData, (objView support).ids objData) :=
      foldl_syncDeleteStep_entryKeys platform
    exact unique_congr keys unique
  have entry_key (manager : NMPRulesManager Tag) (present : List Rule)
      (objData changed : RulesObjData)
      (eq : manager.entryAfterAdd support present objData = some changed) :
      (objView support).key changed = (objView support).key objData := by
    obtain ⟨best, -, rfl⟩ := map_eq_some_iff.mp eq
    rfl
  rw [sync_eq, sync_eq]
  dsimp only
  unfold NMPRulesManager.afterAdd
  rw [foldl_syncAddStep_eq _ _ _ (unique_after self hashed),
    foldl_syncAddStep_eq _ _ _ (unique_after other other_hashed)]
  dsimp only
  rw [nil_append, nil_append, isPresent_append, isPresent_append,
    isPresent_added (unique_after self hashed), isPresent_added (unique_after other other_hashed),
    find_filterMap (unique_after self hashed) (entry_key self _),
    find_filterMap (unique_after other other_hashed) (entry_key other _), deleted]
  rcases between.found rule with ⟨missing, other_missing⟩ | ⟨a, b, found, other_found, state, best⟩
  · rw [missing, other_missing]
    exact ⟨rfl, rfl⟩
  · have same_entry : sameRule support a.obj b.obj = true :=
      sameRule_trans (sameRule_symm (same_of_find found))
        (same_of_find other_found)
    obtain ⟨asked, state_eq⟩ := entryAfterAdd_agree state best
      (isPresent_congr ((other.afterDelete support keepDeletedRules platform).2.foldl
        (platformDelete support outcome.deletes) platform) same_entry)
    rw [found, other_found, any_some, any_some, bind_some, bind_some,
      asked, state_eq, adds_congr a.obj b.obj same_entry]
    exact ⟨rfl, rfl⟩

end NMPRulesManager

section Requests

variable [DecidableEq Tag]

/-- The requests come from different tags, and none of them takes the rule over from the other
one. -/
structure TrackRequest.Apart (a b : TrackRequest Tag) : Prop where
  userTag : a.userTag ≠ b.userTag
  keeps : a.userTagUntrack ≠ some b.userTag
  kept : b.userTagUntrack ≠ some a.userTag

/-- Requests that are made for one rule are apart. -/
def TrackRequest.Independent (support : KernelSupport) (a b : TrackRequest Tag) : Prop :=
  sameRule support a.rule b.rule = true → a.Apart b

def RuleView.taken (known : RuleView Tag) (request : TrackRequest Tag) : Bool :=
  request.userTagUntrack.any fun other =>
    decide (request.userTag ≠ other) && (known.priority other).isSome

section

variable (known : RuleView Tag)

include known

theorem RuleView.priority_requested (request : TrackRequest Tag) (tag : Tag) :
    (known.requested request).priority tag =
      if tag = request.userTag then some (request.priority.natAbs, decide (0 ≤ request.priority))
      else if request.userTagUntrack = some tag then none
      else known.priority tag := by
  unfold requested
  cases request.userTagUntrack with
  | none => rfl
  | some other =>
    dsimp only
    by_cases different : request.userTag ≠ other
    · rw [if_pos different]
      show (if tag = other then none else if tag = request.userTag then _ else _) = _
      by_cases here : tag = other
      · subst here
        rw [if_pos rfl, if_neg different.symm, if_pos rfl]
      · have elsewhere : ¬ some other = some tag := fun equal => here (Option.some.inj equal).symm
        rw [if_neg here, if_neg elsewhere]
    · rw [if_neg different]
      show (if tag = request.userTag then _ else _) = _
      by_cases here : tag = request.userTag
      · rw [if_pos here, if_pos here]
      · have elsewhere : ¬ some other = some tag := by
          intro equal
          exact here ((Option.some.inj equal).symm.trans (not_not.mp different).symm)
        rw [if_neg here, if_neg here, if_neg elsewhere]

theorem RuleView.configState_requested (request : TrackRequest Tag) :
    (known.requested request).configState =
      some (if known.configState.getD .none = .none ∧ known.taken request = true then .ownedByUs
        else known.configState.getD .none) := by
  unfold requested taken
  cases request.userTagUntrack with
  | none => simp [tracked]
  | some other =>
    dsimp only
    rw [any_some]
    by_cases different : request.userTag ≠ other
    · rw [if_pos different, decide_eq_true different, Bool.true_and]
      have priority_eq : (known.tracked request.priority request.userTag).priority other =
          known.priority other := if_neg different.symm
      unfold takenOver
      rw [priority_eq]
      cases (known.priority other).isSome with
      | true => simp [tracked]
      | false => simp [tracked]
    · rw [if_neg different, decide_eq_false different, Bool.false_and]
      simp [tracked]

/-- A request that is apart from another one takes the rule over as before, unless the other one has
taken it over from the same tag. -/
theorem RuleView.taken_requested {a b : TrackRequest Tag} (apart : a.Apart b) :
    (known.requested a).taken b =
      (known.taken b && !decide (a.userTagUntrack = b.userTagUntrack)) := by
  unfold taken
  cases untracked : b.userTagUntrack with
  | none => rfl
  | some other =>
    have other_ne : other ≠ a.userTag := by
      rintro rfl
      exact apart.kept untracked
    rw [any_some, any_some, priority_requested, if_neg other_ne]
    by_cases same : a.userTagUntrack = some other
    · simp [same]
    · simp [same]

theorem RuleView.taken_congr {a b : TrackRequest Tag} (apart : a.Apart b)
    (same : a.userTagUntrack = b.userTagUntrack) : known.taken a = known.taken b := by
  unfold taken
  rw [same]
  cases untracked : b.userTagUntrack with
  | none => rfl
  | some other =>
    have ne_a : a.userTag ≠ other := by
      rintro rfl
      exact apart.kept untracked
    have ne_b : b.userTag ≠ other := by
      rintro rfl
      exact apart.keeps (same.trans untracked)
    rw [any_some, any_some, decide_eq_true ne_a, decide_eq_true ne_b]

theorem RuleView.requested_comm {a b : TrackRequest Tag} (apart : a.Apart b) :
    (known.requested a).requested b = (known.requested b).requested a := by
  have flipped : b.Apart a := ⟨apart.userTag.symm, apart.kept, apart.keeps⟩
  have priorities : ((known.requested a).requested b).priority =
      ((known.requested b).requested a).priority := by
    funext tag
    simp only [priority_requested]
    by_cases here : tag = a.userTag
    · subst here
      simp only [if_true, apart.userTag, apart.kept, if_false]
    · by_cases there : tag = b.userTag
      · subst there
        simp only [if_true, here, apart.keeps, if_false]
      · simp only [here, there, if_false]
        split
        · split
          · rfl
          · rfl
        · rfl
  have states : ((known.requested a).requested b).configState =
      ((known.requested b).requested a).configState := by
    have swapped : decide (b.userTagUntrack = a.userTagUntrack) =
        decide (a.userTagUntrack = b.userTagUntrack) := decide_eq_decide.mpr eq_comm
    have from_same : decide (a.userTagUntrack = b.userTagUntrack) = true →
        known.taken a = known.taken b := by
      intro same
      exact known.taken_congr apart (of_decide_eq_true same)
    simp only [configState_requested, getD_some, taken_requested known apart,
      taken_requested known flipped, swapped]
    -- The entry is owned if one of the requests took the rule over.
    generalize decide (a.userTagUntrack = b.userTagUntrack) = same_tag at from_same
    generalize known.taken a = taken_a at from_same
    generalize known.taken b = taken_b at from_same
    by_cases untouched : known.configState.getD .none = .none
    · cases same_tag <;> cases taken_a <;> cases taken_b <;> simp_all
    · simp [untouched]
  exact congrArg₂ RuleView.mk priorities states

end

def RuleView.after (support : KernelSupport) (rule : Rule) (known : RuleView Tag)
    (request : TrackRequest Tag) : RuleView Tag :=
  if sameRule support request.rule rule = true then known.requested request else known

theorem RuleView.after_comm (rule : Rule) (known : RuleView Tag) {a b : TrackRequest Tag}
    (independent : a.Independent support b) :
    (known.after support rule a).after support rule b =
      (known.after support rule b).after support rule a := by
  unfold RuleView.after
  by_cases same_a : sameRule support a.rule rule = true
  · by_cases same_b : sameRule support b.rule rule = true
    · simp only [same_a, same_b, if_true]
      exact known.requested_comm (independent (sameRule_trans same_a (sameRule_symm same_b)))
    · rw [if_neg same_b, if_neg same_b]
  · rw [if_neg same_a, if_neg same_a]

theorem RuleView.foldl_after_perm {requests others : List (TrackRequest Tag)}
    (perm : requests.Perm others)
    (independent : requests.Pairwise (TrackRequest.Independent support)) (rule : Rule)
    (known : RuleView Tag) :
    requests.foldl (RuleView.after support rule) known =
      others.foldl (RuleView.after support rule) known := by
  have symmetric : Std.Symm fun a b : TrackRequest Tag => a.Independent support b :=
    ⟨fun a b apart same => by
      have flipped := apart (sameRule_symm same)
      exact ⟨flipped.userTag.symm, flipped.kept, flipped.keeps⟩⟩
  refine perm.foldl_eq' (fun a mem_a b mem_b known => ?_) known
  by_cases equal : a = b
  · rw [equal]
  · exact known.after_comm rule (independent.forall mem_a mem_b equal)

end Requests

section Runs

variable [DecidableEq Tag] {system : System Tag}

theorem InOrder.run (in_order : InOrder support system) (events : List (Event Tag)) :
    InOrder support ((machine support).run system events) :=
  (machine support).run_preserves (fun _ event before _ => before.step event) in_order
    ((machine support).along_of_forall (fun _ _ => trivial) _ _)

theorem run_requests (in_order : InOrder support system) (requests : List (TrackRequest Tag))
    (rule : Rule) :
    ((machine support).run system (requests.map TrackRequest.event)).manager.view support rule =
      requests.foldl (RuleView.after support rule) (system.manager.view support rule) ∧
    ((machine support).run system (requests.map TrackRequest.event)).platform = system.platform := by
  induction requests generalizing system with
  | nil => exact ⟨rfl, rfl⟩
  | cons request requests ih =>
    obtain ⟨view_eq, platform_eq⟩ := ih (in_order.step request.event)
    have first : (system.step support request.event).manager.view support rule =
        (system.manager.view support rule).after support rule request :=
      view_track in_order.1 request rule
    rw [map_cons, GuardedMachine.run_cons, foldl_cons, ← first]
    exact ⟨view_eq, platform_eq⟩

theorem sameEntries_of_view {self other : NMPRulesManager Tag} (tables : self.Tables support)
    (other_tables : other.Tables support)
    (same : ∀ rule, self.view support rule = other.view support rule) :
    SameEntries support self other self.byObj other.byObj := by
  intro rule
  have states : ((objView support).find self.byObj rule).map RulesObjData.configState =
      ((objView support).find other.byObj rule).map RulesObjData.configState :=
    congrArg RuleView.configState (same rule)
  unfold entryView
  cases found : (objView support).find self.byObj rule with
  | none =>
    rw [found, map_none, eq_comm, map_eq_none_iff] at states
    rw [states]
    rfl
  | some a =>
    rw [found, map_some, eq_comm, map_eq_some_iff] at states
    obtain ⟨b, other_found, state_eq⟩ := states
    have best_a := tables.isBest (mem_of_find found) (same_of_find found)
    have best_b := other_tables.isBest (mem_of_find other_found)
      (same_of_find other_found)
    rw [← same rule] at best_b
    rw [other_found, map_some, map_some, state_eq, best_a.unique best_b]

variable (support) in
/-- Requests to track rules are made in two orders, in any state that a run reaches.  No two of them
are made for one rule by one tag, and none of them takes a rule over from the tag of another one.
Synchronising leads to the same rules in the platform and to the same states of the entries.  A rule
is identified as the platform identifies it.  The best record of a rule is always a record with the
greatest priority. -/
theorem run_track_order (platform : List Rule) (events : List (Event Tag))
    {requests others : List (TrackRequest Tag)} (perm : requests.Perm others)
    (independent : requests.Pairwise (TrackRequest.Independent support)) (keepDeletedRules : Bool)
    (outcome : PlatformOutcome)
    (adds_congr : ∀ a b, sameRule support a b = true → outcome.adds a = outcome.adds b) :
    let system := (machine support).run (System.initial Tag platform) events
    let one := ((machine support).run system (requests.map TrackRequest.event)).step support
      (.sync keepDeletedRules outcome)
    let two := ((machine support).run system (others.map TrackRequest.event)).step support
      (.sync keepDeletedRules outcome)
    (∀ rule, isPresent support one.platform rule = isPresent support two.platform rule ∧
      ((objView support).find one.manager.byObj rule).map RulesObjData.configState =
        ((objView support).find two.manager.byObj rule).map RulesObjData.configState) ∧
    ∀ objData ∈ system.manager.byObj, ∀ best,
      system.manager.rulesObjGetBestData objData = some best →
        (∃ record ∈ system.manager.byData, record.2 = best ∧
          sameRule support objData.obj record.2.obj = true) ∧
        ∀ record ∈ system.manager.byData, sameRule support objData.obj record.2.obj = true →
          toLex record.2.trackPriority ≤ toLex best.trackPriority := by
  intro system one two
  have in_order : InOrder support system :=
    (ownership_initial support Tag platform).inOrder.run events
  constructor
  · intro rule
    have tables := (in_order.run (requests.map TrackRequest.event)).1
    have other_tables := (in_order.run (others.map TrackRequest.event)).1
    have same : SameEntries support _ _ _ _ := sameEntries_of_view tables other_tables
      fun rule => by
        rw [(run_requests in_order requests rule).1, (run_requests in_order others rule).1,
          RuleView.foldl_after_perm perm independent]
    have synced := same.sync tables.byObj.unique other_tables.byObj.unique keepDeletedRules outcome
      adds_congr system.platform rule
    unfold one two System.step
    dsimp only
    rw [(run_requests in_order requests rule).2, (run_requests in_order others rule).2]
    exact synced
  · intro objData mem best found
    constructor
    · obtain ⟨id, listed, record_mem⟩ := exists_of_best found
      obtain ⟨other, node_mem, same⟩ := (in_order.1.byObj.mem_iff objData mem id).mp listed
      rw [in_order.1.only_obj record_mem other node_mem] at same
      exact ⟨(id, best), record_mem, rfl, sameRule_symm same⟩
    · intro record record_mem same
      exact (foldl_betterData_greatest found).1 record.2
        ((in_order.1.mem_records mem).mpr ⟨record.1, record_mem, same⟩)

end Runs

/-- Two tags track a rule with different priorities. -/
theorem run_track_order_two :
    let support : KernelSupport := ⟨true, true, true, true⟩
    let system := System.initial Nat [mainRule]
    let one := ((machine support).run system [.track mainRule 0 1 none,
      .track mainRule (-10) 2 none]).step support (.sync false .success)
    let two := ((machine support).run system [.track mainRule (-10) 2 none,
      .track mainRule 0 1 none]).step support (.sync false .success)
    isPresent support one.platform mainRule = isPresent support two.platform mainRule ∧
      ((objView support).find one.manager.byObj mainRule).map RulesObjData.configState =
        ((objView support).find two.manager.byObj mainRule).map RulesObjData.configState :=
  (run_track_order ⟨true, true, true, true⟩ [mainRule] []
    (Perm.swap ⟨mainRule, -10, 2, none⟩ ⟨mainRule, 0, 1, none⟩ [])
    (pairwise_pair.mpr fun _ => ⟨by decide, nofun, nofun⟩) false .success
    fun _ _ _ => rfl).1 mainRule

/-- A rule of the platform becomes our own if it is taken over from the tag that tracked it before,
and it does not if the other tag tracks it afterwards. -/
theorem run_track_order_fails :
    let support : KernelSupport := ⟨true, true, true, true⟩
    let system := System.initial Nat [mainRule]
    let one := ((machine support).run system [.track mainRule 0 1 none,
      .track mainRule 10 2 (some 1)]).step support (.sync false .success)
    let two := ((machine support).run system [.track mainRule 10 2 (some 1),
      .track mainRule 0 1 none]).step support (.sync false .success)
    one.manager.byObj.map RulesObjData.configState = [.addedByUs] ∧
      two.manager.byObj.map RulesObjData.configState = [.none] := by
  decide +kernel

end NetworkManager.RulesManager
