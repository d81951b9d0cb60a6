import NetworkManager.Platform.RulesIdempotent

/-!
# What the rules manager knows about a rule

The tables of the manager depend on the order of the calls, but what they tell about one rule does
not depend on the addresses of the records or on the order of the lists.  It is the priority with
which each tag tracks the rule, and the state of the entry.  A request to track a rule changes this
for the rule of the request only.
-/

namespace NetworkManager.RulesManager

open BucketView Function List Option

variable {Tag : Type}

/-- The priority of a record.  Its sign decides where the values are equal. -/
def RulesData.trackPriority (data : RulesData Tag) : Nat × Bool :=
  (data.trackPriorityVal, data.trackPriorityPresent)

/-- What the manager knows about a rule. -/
structure RuleView (Tag : Type) where
  /-- The priorities with which tags track the rule. -/
  priority : Tag → Option (Nat × Bool)
  configState : Option ConfigState

/-- The arguments of `nmp_rules_manager_track`. -/
structure TrackRequest (Tag : Type) where
  rule : Rule
  priority : Int
  userTag : Tag
  /-- From whom the rule is taken over. -/
  userTagUntrack : Option Tag

/-- A call of `nmp_rules_manager_track`. -/
def TrackRequest.event (request : TrackRequest Tag) : Event Tag :=
  .track request.rule request.priority request.userTag request.userTagUntrack

section

variable [DecidableEq Tag]

def RuleView.tracked (known : RuleView Tag) (priority : Int) (userTag : Tag) : RuleView Tag where
  priority tag :=
    if tag = userTag then some (priority.natAbs, decide (0 ≤ priority)) else known.priority tag
  configState := some (known.configState.getD .none)

def RuleView.takenOver (known : RuleView Tag) (userTag : Tag) : RuleView Tag where
  priority tag := if tag = userTag then none else known.priority tag
  configState :=
    if (known.priority userTag).isSome then
      known.configState.map fun state => if state = .none then .ownedByUs else state
    else known.configState

def RuleView.requested (known : RuleView Tag) (request : TrackRequest Tag) : RuleView Tag :=
  match request.userTagUntrack with
  | none => known.tracked request.priority request.userTag
  | some other =>
    if request.userTag ≠ other then
      (known.tracked request.priority request.userTag).takenOver other
    else known.tracked request.priority request.userTag

theorem RuleView.takenOver_of_none {known : RuleView Tag} {userTag : Tag}
    (untracked : known.priority userTag = none) : known.takenOver userTag = known := by
  have same : (fun tag => if tag = userTag then none else known.priority tag) = known.priority := by
    funext tag
    split
    · rename_i equal
      rw [equal, untracked]
    · rfl
  unfold RuleView.takenOver
  rw [same, untracked]
  rfl

variable (support : KernelSupport)

def NMPRulesManager.view (self : NMPRulesManager Tag) (rule : Rule) : RuleView Tag where
  priority tag := (self.rulesDataLookup support rule tag).map fun record => record.2.trackPriority
  configState := ((objView support).find self.byObj rule).map RulesObjData.configState

end

namespace NMPRulesManager

variable [DecidableEq Tag] {support : KernelSupport} {self : NMPRulesManager Tag}

theorem rulesDataLookup_congr {a b : Rule} (same : sameRule support a b = true) (tag : Tag) :
    self.rulesDataLookup support a tag = self.rulesDataLookup support b tag := by
  have tests : (fun record : Nat × RulesData Tag =>
        decide (record.2.userTag = tag) && sameRule support a record.2.obj) =
      fun record => decide (record.2.userTag = tag) && sameRule support b record.2.obj :=
    funext fun record => congrArg (decide (record.2.userTag = tag) && ·)
      ((objView support).same_congr_left same record.2.obj)
  unfold rulesDataLookup
  rw [tests]

theorem Tables.priority_eq_some (tables : self.Tables support) {rule : Rule} {tag : Tag}
    {priority : Nat × Bool} :
    (self.view support rule).priority tag = some priority ↔ ∃ record ∈ self.byData,
      sameRule support rule record.2.obj = true ∧ record.2.userTag = tag ∧
        record.2.trackPriority = priority := by
  change (self.rulesDataLookup support rule tag).map _ = some priority ↔ _
  rw [map_eq_some_iff]
  constructor
  · rintro ⟨⟨id, data⟩, found, priority_eq⟩
    obtain ⟨mem, tag_eq, same⟩ := of_rulesDataLookup found
    exact ⟨(id, data), mem, same, tag_eq, priority_eq⟩
  · rintro ⟨record, mem, same, tag_eq, priority_eq⟩
    cases found : self.rulesDataLookup support rule tag with
    | none =>
      rw [of_rulesDataLookup_none found mem tag_eq] at same
      cases same
    | some other =>
      obtain ⟨other_mem, other_tag, other_same⟩ := of_rulesDataLookup found
      have equal := tables.eq_of_pair mem other_mem
        (sameRule_trans (sameRule_symm same) other_same) (tag_eq.trans other_tag.symm)
      exact ⟨record, congrArg some equal.symm, priority_eq⟩

section Track

variable {rule other : Rule} {priority : Int} {userTag : Tag}

theorem rulesDataLookup_trackData (tables : self.Tables support) (tag : Tag) :
    ((self.trackData support rule priority userTag).rulesDataLookup support other tag).map
        (fun record => record.2.trackPriority) =
      if sameRule support rule other = true ∧ tag = userTag then
        some (priority.natAbs, decide (0 ≤ priority))
      else (self.rulesDataLookup support other tag).map fun record => record.2.trackPriority := by
  cases found : self.rulesDataLookup support rule userTag with
  | none =>
    rw [trackData_of_none found]
    unfold rulesDataLookup
    dsimp only
    rw [find?_append, find?_singleton]
    by_cases pair : sameRule support rule other = true ∧ tag = userTag
    · have missing : self.rulesDataLookup support other tag = none := by
        rw [← rulesDataLookup_congr pair.1, pair.2]
        exact found
      have matched : (decide (userTag = tag) && sameRule support other rule) = true := by
        rw [Bool.and_eq_true, decide_eq_true_eq, sameRule_comm]
        exact ⟨pair.2.symm, pair.1⟩
      unfold rulesDataLookup at missing
      rw [missing, none_or, if_pos pair, if_pos matched]
      rfl
    · have unmatched : ¬ (decide (userTag = tag) && sameRule support other rule) = true := by
        rw [Bool.and_eq_true, decide_eq_true_eq, sameRule_comm]
        exact fun both => pair ⟨both.2, both.1.symm⟩
      rw [if_neg unmatched, if_neg pair, or_none]
  | some home =>
    obtain ⟨id, data⟩ := home
    obtain ⟨home_mem, home_tag, home_rule⟩ := of_rulesDataLookup found
    have changed : (self.trackData support rule priority userTag).rulesDataLookup support other
        tag = (self.rulesDataLookup support other tag).map fun record =>
          if record.1 = id then
            (id, { record.2 with
              trackPriorityVal := priority.natAbs
              trackPriorityPresent := decide (0 ≤ priority)
              dirty := false })
          else record := by
      rw [trackData_of_some found]
      unfold rulesDataLookup
      rw [find?_map]
      congr 1
      have tests : ((fun record : Nat × RulesData Tag =>
            decide (record.2.userTag = tag) && sameRule support other record.2.obj) ∘
          fun record => if record.1 = id then (id, { record.2 with
              trackPriorityVal := priority.natAbs
              trackPriorityPresent := decide (0 ≤ priority)
              dirty := false })
            else record) =
          fun record => decide (record.2.userTag = tag) && sameRule support other record.2.obj := by
        funext record
        rw [comp_apply]
        split
        · rfl
        · rfl
      rw [tests]
    rw [changed, Option.map_map]
    by_cases pair : sameRule support rule other = true ∧ tag = userTag
    · rw [if_pos pair, ← rulesDataLookup_congr pair.1, pair.2, found, map_some,
        comp_apply, if_pos rfl]
      rfl
    · rw [if_neg pair]
      cases there : self.rulesDataLookup support other tag with
      | none => rfl
      | some record =>
        obtain ⟨address, known⟩ := record
        obtain ⟨mem, tag_eq, same⟩ := of_rulesDataLookup there
        -- The changed record belongs to another pair.
        have apart : address ≠ id := by
          rintro rfl
          have equal := tables.eq_of_address mem home_mem
          subst equal
          exact pair ⟨sameRule_trans home_rule (sameRule_symm same), tag_eq.symm.trans home_tag⟩
        rw [map_some, map_some, comp_apply, if_neg apart]

theorem configState_trackData (tables : self.Tables support) :
    (((objView support).find (self.trackData support rule priority userTag).byObj other).map
        RulesObjData.configState) =
      if sameRule support rule other = true then
        some ((((objView support).find self.byObj other).map RulesObjData.configState).getD .none)
      else ((objView support).find self.byObj other).map RulesObjData.configState := by
  cases found : self.rulesDataLookup support rule userTag with
  | none =>
    rw [trackData_of_none found]
    dsimp only
    have fresh_key : (objView support).key ⟨rule, [], .none⟩ = rule := rfl
    rw [find_link fresh_key]
    by_cases same : sameRule support rule other = true
    · rw [if_pos same, if_pos (show (objView support).same rule other = true from same), map_some]
      cases (objView support).find self.byObj other with
      | none => rfl
      | some entry => rfl
    · rw [if_neg same, if_neg (show ¬ (objView support).same rule other = true from same)]
  | some home =>
    rw [trackData_of_some found]
    dsimp only
    by_cases same : sameRule support rule other = true
    · obtain ⟨home_mem, -, home_rule⟩ := of_rulesDataLookup found
      obtain ⟨entry, entry_mem, entry_same⟩ :=
        tables.byObj.covered (home.1, home.2.obj) (List.mem_map_of_mem home_mem)
      have there : (objView support).find self.byObj other = some entry :=
        tables.byObj.find_eq_some entry_mem
          (sameRule_trans (sameRule_trans (sameRule_symm same) home_rule) entry_same)
      rw [if_pos same, there]
      rfl
    · rw [if_neg same]

theorem view_trackData (tables : self.Tables support) :
    (self.trackData support rule priority userTag).view support other =
      if sameRule support rule other = true then
        (self.view support other).tracked priority userTag
      else self.view support other := by
  unfold view
  rw [configState_trackData tables]
  by_cases same : sameRule support rule other = true
  · rw [if_pos same, if_pos same]
    unfold RuleView.tracked
    congr 1
    funext tag
    rw [rulesDataLookup_trackData tables]
    simp only [same, true_and]
  · rw [if_neg same, if_neg same]
    congr 1
    funext tag
    rw [rulesDataLookup_trackData tables, if_neg fun pair => same pair.1]

end Track

section TakeOver

variable {rule other : Rule} {id : Nat} {rulesData : RulesData Tag}

theorem priority_untrack (tables : self.Tables support) (mem : (id, rulesData) ∈ self.byData)
    (removeUserTagData makeOwnedByUs : Bool) (tag : Tag) :
    ((self.rulesDataUntrack support id rulesData removeUserTagData makeOwnedByUs).view support
        other).priority tag =
      if sameRule support rulesData.obj other = true ∧ tag = rulesData.userTag then none
      else (self.view support other).priority tag := by
  have next : (self.rulesDataUntrack support id rulesData removeUserTagData
    makeOwnedByUs).Tables support := tables.rulesDataUntrack mem
  refine ext fun priority => ?_
  rw [next.priority_eq_some]
  by_cases pair : sameRule support rulesData.obj other = true ∧ tag = rulesData.userTag
  · rw [if_pos pair]
    refine iff_of_false ?_ nofun
    rintro ⟨record, record_mem, same, tag_eq, -⟩
    obtain ⟨record_mem, different⟩ := mem_filter.mp record_mem
    have equal := tables.eq_of_pair record_mem mem
      (sameRule_trans (sameRule_symm same) (sameRule_symm pair.1)) (tag_eq.trans pair.2)
    exact of_decide_eq_true different (congrArg Prod.fst equal)
  · rw [if_neg pair, tables.priority_eq_some]
    constructor
    · rintro ⟨record, record_mem, matched⟩
      exact ⟨record, (mem_filter.mp record_mem).1, matched⟩
    · rintro ⟨⟨address, data⟩, record_mem, same, tag_eq, priority_eq⟩
      refine ⟨(address, data), mem_filter.mpr ⟨record_mem, decide_eq_true ?_⟩, same, tag_eq,
        priority_eq⟩
      rintro rfl
      have equal := tables.eq_of_address record_mem mem
      subst equal
      exact pair ⟨sameRule_symm same, tag_eq.symm⟩

/-- What taking over makes of an entry. -/
def owned (objData : RulesObjData) : RulesObjData :=
  if objData.configState = .none then { objData with configState := .ownedByUs } else objData

variable (objData : RulesObjData)

theorem obj_owned : (owned objData).obj = objData.obj := by
  unfold owned
  split
  · rfl
  · rfl

theorem configState_owned :
    (owned objData).configState =
      if objData.configState = .none then .ownedByUs else objData.configState := by
  unfold owned
  split
  · rfl
  · rfl

theorem configState_owned_ne_none :
    (owned objData).configState ≠ .none := by
  rw [configState_owned]
  split
  · exact ConfigState.noConfusion
  · assumption

theorem byObj_takeOver :
    (self.rulesDataUntrack support id rulesData false true).byObj =
      (objView support).unlink ((objView support).modify self.byObj rulesData.obj owned) id := by
  have not_forgotten : (((objView support).find ((objView support).modify self.byObj rulesData.obj
      owned) rulesData.obj).any fun objData => decide (objData.configState = .none) &&
        (objView support).alone ((objView support).modify self.byObj rulesData.obj owned) id) =
      false := by
    rw [find_modify obj_owned]
    cases (objView support).find self.byObj rulesData.obj with
    | none => rfl
    | some entry =>
      rw [map_some, any_some, if_pos ((objView support).same_refl _),
        decide_eq_false (configState_owned_ne_none entry), Bool.false_and]
  change (objView support).unlink (if _ then _ else _) id = _
  exact congrArg (fun forgotten : Bool => (objView support).unlink (if forgotten then
      (objView support).remove ((objView support).modify self.byObj rulesData.obj owned)
        rulesData.obj
    else (objView support).modify self.byObj rulesData.obj owned) id) not_forgotten

theorem configState_takeOver :
    ((objView support).find (self.rulesDataUntrack support id rulesData false true).byObj
        other).map RulesObjData.configState =
      if sameRule support rulesData.obj other = true then
        (((objView support).find self.byObj other).map RulesObjData.configState).map fun state =>
          if state = .none then .ownedByUs else state
      else ((objView support).find self.byObj other).map RulesObjData.configState := by
  rw [byObj_takeOver]
  unfold unlink
  rw [find_map fun _ => (objView support).key_withIds _ _, find_modify obj_owned]
  by_cases same : sameRule support rulesData.obj other = true
  · rw [if_pos same]
    cases (objView support).find self.byObj other with
    | none => rfl
    | some entry =>
      have same_key : (objView support).same rulesData.obj other = true := same
      rw [map_some, if_pos same_key]
      exact congrArg some (configState_owned entry)
  · rw [if_neg same]
    cases (objView support).find self.byObj other with
    | none => rfl
    | some entry =>
      have other_key : ¬ (objView support).same rulesData.obj other = true := same
      rw [map_some, if_neg other_key]
      rfl

theorem view_takeOver (tables : self.Tables support) (tag : Tag) :
    (match self.rulesDataLookup support rule tag with
      | some (id, rulesData) => self.rulesDataUntrack support id rulesData false true
      | none => self).view support other =
      if sameRule support rule other = true then (self.view support other).takenOver tag
      else self.view support other := by
  have priority_eq (same : sameRule support rule other = true) :
      (self.view support other).priority tag =
        (self.rulesDataLookup support rule tag).map fun record => record.2.trackPriority := by
    rw [rulesDataLookup_congr same]
    rfl
  cases found : self.rulesDataLookup support rule tag with
  | none =>
    by_cases same : sameRule support rule other = true
    · have untracked := priority_eq same
      rw [found] at untracked
      rw [if_pos same, RuleView.takenOver_of_none untracked]
    · rw [if_neg same]
  | some record =>
    obtain ⟨id, rulesData⟩ := record
    obtain ⟨mem, tag_eq, rule_same⟩ := of_rulesDataLookup found
    have priority (other_tag : Tag) :
        ((self.rulesDataUntrack support id rulesData false true).view support
          other).priority other_tag = _ := priority_untrack tables mem false true other_tag
    have state : ((self.rulesDataUntrack support id rulesData false true).view support
        other).configState = _ := configState_takeOver
    rw [tag_eq] at priority
    dsimp only
    by_cases same : sameRule support rule other = true
    · have data_same := sameRule_trans (sameRule_symm rule_same) same
      have is_tracked : ((self.view support other).priority tag).isSome = true := by
        rw [priority_eq same, found]
        rfl
      simp only [data_same, true_and] at priority
      rw [if_pos data_same] at state
      rw [if_pos same]
      unfold RuleView.takenOver
      rw [if_pos is_tracked]
      exact congrArg₂ RuleView.mk (funext priority) state
    · have data_other : ¬ sameRule support rulesData.obj other = true :=
        fun data_same => same (sameRule_trans rule_same data_same)
      simp only [data_other] at priority
      rw [if_neg data_other] at state
      rw [if_neg same]
      exact congrArg₂ RuleView.mk (funext priority) state

end TakeOver

theorem view_track (tables : self.Tables support) (request : TrackRequest Tag) (other : Rule) :
    (self.track support request.rule request.priority request.userTag
        request.userTagUntrack).view support other =
      if sameRule support request.rule other = true then
        (self.view support other).requested request
      else self.view support other := by
  have next : (self.trackData support request.rule request.priority request.userTag).Tables
    support := tables.trackData
  unfold track RuleView.requested
  cases request.userTagUntrack with
  | none => exact view_trackData tables
  | some tag =>
    dsimp only
    by_cases different : request.userTag ≠ tag
    · rw [if_pos different, if_pos different]
      refine (view_takeOver next tag).trans ?_
      rw [view_trackData tables]
      split
      · rfl
      · rfl
    · rw [if_neg different, if_neg different]
      exact view_trackData tables

end NMPRulesManager

end NetworkManager.RulesManager
