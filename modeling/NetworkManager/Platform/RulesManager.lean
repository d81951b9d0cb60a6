import NetworkManager.Library.Buckets
import NetworkManager.Platform.Identity

/-!
# The rules manager

The rules manager makes sure that the routing rules of the profiles are present, or absent, in the
platform.  A user of the manager is known by a tag and tracks rules with a priority.  The manager
keeps one record for each pair of a rule and a tag, and two tables of intrusive lists: the records
of each rule, together with what the manager did to the rule, and the records of each tag.

A hash table is the list of its entries.  The tables of the source are created on first use; a
manager without tables behaves like one with empty tables.  Records are named by their addresses.
-/

namespace NetworkManager.RulesManager

/-- A routing rule that is visible in the sense of `nmp_object_is_visible`. -/
abbrev Rule := {rule : NMPlatformRoutingRule // isInetFamily rule.addrFamily = true}

/-- Whether two rules have the same identity, `NM_PLATFORM_ROUTING_RULE_CMP_TYPE_ID`. -/
def sameRule (support : KernelSupport) (a b : Rule) : Bool :=
  (routingRuleCmp support a.1 b.1 .id).isEq

/-- `RulesData`: one tag tracks one rule. -/
structure RulesData (Tag : Type) where
  obj : Rule
  userTag : Tag
  /-- The absolute value of the priority.  Rules with priority zero are tracked weakly. -/
  trackPriorityVal : Nat
  /-- Whether the rule shall be present, and not absent. -/
  trackPriorityPresent : Bool
  /-- Whether the tag has not confirmed the record since `set_dirty`. -/
  dirty : Bool

/-- `ConfigState`: whether we touched a rule, and how. -/
inductive ConfigState where
  | none
  | addedByUs
  | removedByUs
  | ownedByUs
  deriving DecidableEq, Repr

/-- `RulesObjData`: the records of a rule. -/
structure RulesObjData where
  obj : Rule
  /-- The records that track the rule. -/
  objLst : List Nat
  configState : ConfigState

/-- `RulesUserTagData`: the records of a tag. -/
structure RulesUserTagData (Tag : Type) where
  userTag : Tag
  userTagLst : List Nat

/-- `NMPRulesManager`. -/
structure NMPRulesManager (Tag : Type) where
  /-- All records, with their addresses. -/
  byData : List (Nat × RulesData Tag)
  byObj : List RulesObjData
  byUserTag : List (RulesUserTagData Tag)
  nextAddress : Nat

/-- `nmp_rules_manager_new`. -/
def NMPRulesManager.new (Tag : Type) : NMPRulesManager Tag := ⟨[], [], [], 0⟩

section

variable (support : KernelSupport) {Tag : Type} [DecidableEq Tag]

theorem sameRule_iff {a b : Rule} :
    sameRule support a b = true ↔ a.1.key support = b.1.key support := by
  unfold sameRule
  rw [Ordering.isEq_iff_eq_eq]
  exact routingRuleCmp_id a.2

/-- The table of rules: `_rules_obj_equal` compares identities. -/
def objView : BucketView RulesObjData Rule where
  key := RulesObjData.obj
  ids := RulesObjData.objLst
  withIds obj_data ids := { obj_data with objLst := ids }
  same := sameRule support
  key_withIds _ _ := rfl
  ids_withIds _ _ := rfl
  same_refl _ := (sameRule_iff support).mpr rfl
  same_symm _ _ same := (sameRule_iff support).mpr ((sameRule_iff support).mp same).symm
  same_trans _ _ _ first second := (sameRule_iff support).mpr
    (((sameRule_iff support).mp first).trans ((sameRule_iff support).mp second))

/-- The table of tags: `_rules_user_tag_equal` compares pointers. -/
def userTagView : BucketView (RulesUserTagData Tag) Tag where
  key := RulesUserTagData.userTag
  ids := RulesUserTagData.userTagLst
  withIds user_tag_data ids := { user_tag_data with userTagLst := ids }
  same a b := decide (a = b)
  key_withIds _ _ := rfl
  ids_withIds _ _ := rfl
  same_refl _ := decide_eq_true rfl
  same_symm _ _ same := decide_eq_true (of_decide_eq_true same).symm
  same_trans _ _ _ first second :=
    decide_eq_true ((of_decide_eq_true first).trans (of_decide_eq_true second))

namespace NMPRulesManager

section

variable (self : NMPRulesManager Tag)

/-- The record at an address. -/
def data (id : Nat) : Option (RulesData Tag) :=
  self.byData.lookup id

/-- `_rules_data_lookup`. -/
def rulesDataLookup (obj : Rule) (userTag : Tag) : Option (Nat × RulesData Tag) :=
  self.byData.find? fun record =>
    decide (record.2.userTag = userTag) && sameRule support obj record.2.obj

/-- A step of the loop of `_rules_obj_get_best_data`.  If the priorities are identical, then
present wins over absent. -/
def betterData (best : Option (RulesData Tag)) (data : RulesData Tag) : Option (RulesData Tag) :=
  match best with
  | none => some data
  | some best =>
    if best.trackPriorityVal > data.trackPriorityVal then some best
    else if best.trackPriorityVal = data.trackPriorityVal ∧
        (best.trackPriorityPresent = true ∨ data.trackPriorityPresent = false) then some best
    else some data

/-- `_rules_obj_get_best_data`. -/
def rulesObjGetBestData (objData : RulesObjData) : Option (RulesData Tag) :=
  (objData.objLst.filterMap self.data).foldl betterData none

/-- The first half of `nmp_rules_manager_track`: a new record is linked in both tables, an existing
one is updated. -/
def trackData (routingRule : Rule) (trackPriority : Int) (userTag : Tag) : NMPRulesManager Tag :=
  let trackPriorityVal := trackPriority.natAbs
  let trackPriorityPresent := decide (0 ≤ trackPriority)
  match self.rulesDataLookup support routingRule userTag with
  | none =>
    let id := self.nextAddress
    { byData := self.byData ++
        [(id, ⟨routingRule, userTag, trackPriorityVal, trackPriorityPresent, false⟩)]
      byObj := (objView support).link self.byObj routingRule ⟨routingRule, [], .none⟩ id
      byUserTag := userTagView.link self.byUserTag userTag ⟨userTag, []⟩ id
      nextAddress := id + 1 }
  | some (id, _) =>
    { self with
      byData := self.byData.map fun record =>
        if record.1 = id then
          (id, { record.2 with
            trackPriorityVal := trackPriorityVal
            trackPriorityPresent := trackPriorityPresent
            dirty := false })
        else record }

/-- `_rules_data_untrack`.  Destroying the record unlinks it from both lists. -/
def rulesDataUntrack (id : Nat) (rulesData : RulesData Tag) (removeUserTagData makeOwnedByUs : Bool) :
    NMPRulesManager Tag :=
  let byObj :=
    if makeOwnedByUs then
      (objView support).modify self.byObj rulesData.obj fun objData =>
        if objData.configState = .none then { objData with configState := .ownedByUs } else objData
    else self.byObj
  let byUserTag :=
    if !makeOwnedByUs && (removeUserTagData && userTagView.alone self.byUserTag id) then
      userTagView.remove self.byUserTag rulesData.userTag
    else self.byUserTag
  -- What we did earlier has to be undone by the next sync, so the entry stays until then.
  let forget := ((objView support).find byObj rulesData.obj).any fun objData =>
    decide (objData.configState = .none) && (objView support).alone byObj id
  let byObj := if forget then (objView support).remove byObj rulesData.obj else byObj
  { self with
    byData := self.byData.filter fun record => record.1 ≠ id
    byObj := (objView support).unlink byObj id
    byUserTag := userTagView.unlink byUserTag id }

/-- `nmp_rules_manager_track`. -/
def track (routingRule : Rule) (trackPriority : Int) (userTag : Tag) (userTagUntrack : Option Tag) :
    NMPRulesManager Tag :=
  let self := self.trackData support routingRule trackPriority userTag
  match userTagUntrack with
  | none => self
  | some userTagUntrack =>
    if userTag ≠ userTagUntrack then
      match self.rulesDataLookup support routingRule userTagUntrack with
      | some (id, rulesData) => self.rulesDataUntrack support id rulesData false true
      | none => self
    else self

/-- `nmp_rules_manager_untrack`. -/
def untrack (routingRule : Rule) (userTag : Tag) : NMPRulesManager Tag :=
  match self.rulesDataLookup support routingRule userTag with
  | some (id, rulesData) => self.rulesDataUntrack support id rulesData true false
  | none => self

/-- `nmp_rules_manager_set_dirty`. -/
def setDirty (userTag : Tag) : NMPRulesManager Tag :=
  match userTagView.find self.byUserTag userTag with
  | none => self
  | some userTagData =>
    { self with
      byData := self.byData.map fun record =>
        if record.1 ∈ userTagData.userTagLst then (record.1, { record.2 with dirty := true })
        else record }

/-- A step of the loop of `nmp_rules_manager_untrack_all`. -/
def untrackIfDirty (all : Bool) (self : NMPRulesManager Tag) (id : Nat) : NMPRulesManager Tag :=
  match self.data id with
  | some rulesData =>
    if all || rulesData.dirty then self.rulesDataUntrack support id rulesData false false
    else self
  | none => self

/-- `nmp_rules_manager_untrack_all`: all records of a tag, or only the dirty ones. -/
def untrackAll (userTag : Tag) (all : Bool) : NMPRulesManager Tag :=
  match userTagView.find self.byUserTag userTag with
  | none => self
  | some userTagData =>
    let self := userTagData.userTagLst.foldl (untrackIfDirty support all) self
    if (userTagView.find self.byUserTag userTag).any fun userTagData =>
        userTagData.userTagLst.isEmpty then
      { self with byUserTag := userTagView.remove self.byUserTag userTag }
    else self

end

end NMPRulesManager

/-- What the first loop of `nmp_rules_manager_sync` decides about a rule of the platform that has an
entry: the new state of the entry, and whether the rule is deleted. -/
def deleteDecision (best : Option (RulesData Tag)) (keepDeletedRules : Bool)
    (configState : ConfigState) : ConfigState × Bool :=
  match best with
  | some best =>
    if best.trackPriorityPresent then
      (if configState = .ownedByUs then .addedByUs else configState, false)
    else if best.trackPriorityVal = 0 then
      if configState = .addedByUs ∨ configState = .ownedByUs then
        if keepDeletedRules then (.none, false) else (.removedByUs, true)
      else (.none, false)
    else if keepDeletedRules then (configState, false)
    else (.removedByUs, true)
  | none => if keepDeletedRules then (configState, false) else (.removedByUs, true)

/-- What the second loop decides about an entry that has records: its new state, and whether the
rule shall be in the platform. -/
def addDecision (best : RulesData Tag) (configState : ConfigState) : ConfigState × Bool :=
  if best.trackPriorityPresent = false then
    (if configState = .ownedByUs then .removedByUs else configState, false)
  else if best.trackPriorityVal = 0 then
    (.none, decide (configState = .removedByUs ∨ configState = .ownedByUs))
  else (configState, true)

section

variable (self : NMPRulesManager Tag)

/-- A step of the first loop: the entries, and the rules to delete. -/
def NMPRulesManager.syncDeleteStep (keepDeletedRules : Bool) (acc : List RulesObjData × List Rule)
    (plobj : Rule) : List RulesObjData × List Rule :=
  match (objView support).find acc.1 plobj with
  | none => acc
  | some objData =>
    let decision :=
      deleteDecision (self.rulesObjGetBestData objData) keepDeletedRules objData.configState
    ((objView support).modify acc.1 plobj fun objData =>
        { objData with configState := decision.1 },
      if decision.2 then acc.2 ++ [plobj] else acc.2)

/-- The platform after a request to delete a rule, which may fail. -/
def platformDelete (succeeds : Rule → Bool) (platform : List Rule) (rule : Rule) : List Rule :=
  if succeeds rule then platform.filter fun plobj => !sameRule support rule plobj else platform

/-- The entries, the platform and the rules that we asked the platform to add. -/
structure SyncAddState where
  byObj : List RulesObjData
  platform : List Rule
  /-- The rules we asked to add. -/
  added : List Rule

/-- A step of the second loop.  Entries without records are dropped. -/
def NMPRulesManager.syncAddStep (succeeds : Rule → Bool) (acc : SyncAddState)
    (objData : RulesObjData) : SyncAddState :=
  match self.rulesObjGetBestData objData with
  | none => acc
  | some best =>
    let decision := addDecision best objData.configState
    if decision.2 && !acc.platform.any (sameRule support objData.obj) then
      { byObj := acc.byObj ++ [{ objData with configState := .addedByUs }]
        platform := if succeeds objData.obj then acc.platform ++ [objData.obj] else acc.platform
        added := acc.added ++ [objData.obj] }
    else { acc with byObj := acc.byObj ++ [{ objData with configState := decision.1 }] }

/-- Which requests to the platform succeed. -/
structure PlatformOutcome where
  deletes : Rule → Bool
  adds : Rule → Bool

def PlatformOutcome.success : PlatformOutcome := ⟨fun _ => true, fun _ => true⟩

/-- What `nmp_rules_manager_sync` does. -/
structure SyncResult (Tag : Type) where
  manager : NMPRulesManager Tag
  platform : List Rule
  deleted : List Rule
  /-- The rules we asked to add, after the deletions. -/
  added : List Rule

/-- `nmp_rules_manager_sync`. -/
def NMPRulesManager.sync (keepDeletedRules : Bool) (outcome : PlatformOutcome)
    (platform : List Rule) : SyncResult Tag :=
  let (byObj, rulesToDelete) :=
    platform.foldl (self.syncDeleteStep support keepDeletedRules) (self.byObj, [])
  let platform := rulesToDelete.foldl (platformDelete support outcome.deletes) platform
  let final := byObj.foldl (self.syncAddStep support outcome.adds) ⟨[], platform, []⟩
  ⟨{ self with byObj := final.byObj }, final.platform, rulesToDelete, final.added⟩

end

end

end NetworkManager.RulesManager
