import NetworkManager.Platform.RulesSystem

/-!
# The tables of the rules manager

The records and the two tables of lists are updated together.  Tracking and untracking rules keep
both tables in agreement with the records, and the records in agreement with what is being tracked.
-/

namespace NetworkManager.RulesManager

open BucketView Function List Option

section

variable (support : KernelSupport) {Tag : Type} [DecidableEq Tag]

structure NMPRulesManager.Tables (manager : NMPRulesManager Tag) : Prop where
  /-- No pair of a rule and a tag has two records. -/
  unique : manager.byData.Pairwise fun a b =>
    ¬ (sameRule support a.2.obj b.2.obj = true ∧ a.2.userTag = b.2.userTag)
  addresses : (manager.byData.map Prod.fst).Nodup
  fresh : ∀ record ∈ manager.byData, record.1 < manager.nextAddress
  /-- Every record is linked in the list of its rule, and in no other list of a rule. -/
  byObj : (objView support).Indexes (manager.byData.map fun record => (record.1, record.2.obj))
    manager.byObj
  /-- Every record is linked in the list of its tag, and in no other list of a tag. -/
  byUserTag : userTagView.Indexes (manager.byData.map fun record => (record.1, record.2.userTag))
    manager.byUserTag
  /-- An entry of a rule without records remembers what we did to the rule. -/
  remembered : ∀ objData ∈ manager.byObj, objData.objLst = [] → objData.configState ≠ .none

/-- There is a record for exactly the pairs that are being tracked. -/
def NMPRulesManager.Tracks (self : NMPRulesManager Tag) (tracked : Rule → Tag → Option Bool) :
    Prop :=
  ∀ rule tag dirty, tracked rule tag = some dirty ↔ ∃ record ∈ self.byData,
    sameRule support rule record.2.obj = true ∧ record.2.userTag = tag ∧ record.2.dirty = dirty

/-- No entry of a tag is without records. -/
def NMPRulesManager.TagsInUse (self : NMPRulesManager Tag) : Prop :=
  ∀ userTagData ∈ self.byUserTag, userTagData.userTagLst ≠ []

variable {support} {self : NMPRulesManager Tag}

namespace NMPRulesManager

variable {rulesData : RulesData Tag} {userTag : Tag} {record : Nat × RulesData Tag}

omit [DecidableEq Tag] in
theorem mem_of_data {id : Nat} (found : self.data id = some rulesData) :
    (id, rulesData) ∈ self.byData := by
  obtain ⟨before, after, split, -⟩ := lookup_eq_some_iff.mp found
  rw [split]
  simp

theorem Tables.eq_of_address (tables : self.Tables support) {id : Nat} {a b : RulesData Tag}
    (mem_a : (id, a) ∈ self.byData) (mem_b : (id, b) ∈ self.byData) : a = b :=
  congrArg Prod.snd (inj_on_of_nodup_map tables.addresses mem_a mem_b rfl)

theorem Tables.data_eq_some (tables : self.Tables support) {id : Nat}
    (mem : (id, rulesData) ∈ self.byData) : self.data id = some rulesData := by
  cases found : self.data id with
  | some other => rw [tables.eq_of_address (mem_of_data found) mem]
  | none =>
    have absent := lookup_eq_none_iff.mp found (id, rulesData) mem
    simp at absent

theorem of_rulesDataLookup {rule : Rule} {id : Nat}
    (found : self.rulesDataLookup support rule userTag = some (id, rulesData)) :
    (id, rulesData) ∈ self.byData ∧ rulesData.userTag = userTag ∧
      sameRule support rule rulesData.obj = true := by
  have matched := find?_some found
  rw [Bool.and_eq_true, decide_eq_true_eq] at matched
  exact ⟨List.mem_of_find?_eq_some found, matched.1, matched.2⟩

theorem of_rulesDataLookup_none {rule : Rule}
    (absent : self.rulesDataLookup support rule userTag = none) (mem : record ∈ self.byData)
    (same_tag : record.2.userTag = userTag) :
    sameRule support rule record.2.obj = false := by
  have unmatched := find?_eq_none.mp absent record mem
  rw [Bool.and_eq_true, not_and, decide_eq_true_eq] at unmatched
  exact Bool.eq_false_iff.mpr (unmatched same_tag)

/-- Changes of records that keep addresses, rules and tags keep the tables in agreement. -/
theorem Tables.congr {next : NMPRulesManager Tag} (tables : self.Tables support)
    (records : next.byData.map (fun record => (record.1, record.2.obj, record.2.userTag)) =
      self.byData.map fun record => (record.1, record.2.obj, record.2.userTag))
    (byObj : next.byObj = self.byObj) (byUserTag : next.byUserTag = self.byUserTag)
    (nextAddress : next.nextAddress = self.nextAddress) : next.Tables support := by
  have by_obj : next.byData.map (fun record => (record.1, record.2.obj)) =
      self.byData.map fun record => (record.1, record.2.obj) := by
    have mapped := congrArg (map fun entry : Nat × Rule × Tag => (entry.1, entry.2.1)) records
    simpa only [List.map_map, comp_def] using mapped
  have by_userTag : next.byData.map (fun record => (record.1, record.2.userTag)) =
      self.byData.map fun record => (record.1, record.2.userTag) := by
    have mapped := congrArg (map fun entry : Nat × Rule × Tag => (entry.1, entry.2.2)) records
    simpa only [List.map_map, comp_def] using mapped
  have addresses : next.byData.map Prod.fst = self.byData.map Prod.fst := by
    have mapped := congrArg (map Prod.fst) records
    simpa only [List.map_map, comp_def] using mapped
  refine ⟨?_, ?_, ?_, ?_, ?_, ?_⟩
  · have apart : (self.byData.map fun record =>
        (record.1, record.2.obj, record.2.userTag)).Pairwise
        fun a b => ¬ (sameRule support a.2.1 b.2.1 = true ∧ a.2.2 = b.2.2) :=
      pairwise_map.mpr tables.unique
    rw [← records, pairwise_map] at apart
    exact apart
  · rw [addresses]
    exact tables.addresses
  · intro record mem
    have mem := List.mem_map_of_mem (f := Prod.fst) mem
    rw [addresses] at mem
    obtain ⟨old, old_mem, old_address⟩ := List.mem_map.mp mem
    rw [nextAddress, ← old_address]
    exact tables.fresh old old_mem
  · rw [by_obj, byObj]
    exact tables.byObj
  · rw [by_userTag, byUserTag]
    exact tables.byUserTag
  · rw [byObj]
    exact tables.remembered

theorem sameRule_symm {a b : Rule} (same : sameRule support a b = true) :
    sameRule support b a = true :=
  (objView support).same_symm a b same

theorem sameRule_trans {a b c : Rule} (first : sameRule support a b = true)
    (second : sameRule support b c = true) : sameRule support a c = true :=
  (objView support).same_trans a b c first second

theorem Tables.eq_of_pair (tables : self.Tables support) {a b : Nat × RulesData Tag}
    (mem_a : a ∈ self.byData) (mem_b : b ∈ self.byData)
    (same_rule : sameRule support a.2.obj b.2.obj = true)
    (same_tag : a.2.userTag = b.2.userTag) : a = b := by
  have symmetric : Std.Symm fun a b : Nat × RulesData Tag =>
      ¬ (sameRule support a.2.obj b.2.obj = true ∧ a.2.userTag = b.2.userTag) :=
    ⟨fun a b apart same => apart ⟨sameRule_symm same.1, same.2.symm⟩⟩
  by_contra different
  exact tables.unique.forall mem_a mem_b different ⟨same_rule, same_tag⟩

section Track

variable {rule : Rule} {priority : Int} {userTag : Tag}

theorem trackData_of_none (absent : self.rulesDataLookup support rule userTag = none) :
    self.trackData support rule priority userTag =
      { byData := self.byData ++ [(self.nextAddress,
          ⟨rule, userTag, priority.natAbs, decide (0 ≤ priority), false⟩)]
        byObj := (objView support).link self.byObj rule ⟨rule, [], .none⟩ self.nextAddress
        byUserTag := userTagView.link self.byUserTag userTag ⟨userTag, []⟩ self.nextAddress
        nextAddress := self.nextAddress + 1 } := by
  unfold trackData
  rw [absent]

theorem trackData_of_some {id : Nat} {rulesData : RulesData Tag}
    (found : self.rulesDataLookup support rule userTag = some (id, rulesData)) :
    self.trackData support rule priority userTag =
      { self with
        byData := self.byData.map fun record =>
          if record.1 = id then
            (id, { record.2 with
              trackPriorityVal := priority.natAbs
              trackPriorityPresent := decide (0 ≤ priority)
              dirty := false })
          else record } := by
  unfold trackData
  rw [found]

theorem Tables.trackData (tables : self.Tables support) :
    (self.trackData support rule priority userTag).Tables support := by
  cases found : self.rulesDataLookup support rule userTag with
  | some record =>
    rw [trackData_of_some found]
    refine tables.congr ?_ rfl rfl rfl
    rw [List.map_map]
    refine map_congr_left fun old _ => ?_
    show (fun record : Nat × RulesData Tag => (record.1, record.2.obj, record.2.userTag))
      (if old.1 = record.1 then _ else old) = _
    split
    · rename_i same
      rw [same]
    · rfl
  | none =>
    have new : ∀ record ∈ self.byData, record.1 ≠ self.nextAddress :=
      fun record mem => Nat.ne_of_lt (tables.fresh record mem)
    rw [trackData_of_none found]
    refine ⟨?_, ?_, ?_, ?_, ?_, ?_⟩
    · refine pairwise_append.mpr ⟨tables.unique, pairwise_singleton _ _, ?_⟩
      rintro record mem other other_mem ⟨same_rule, same_tag⟩
      rw [mem_singleton.mp other_mem] at same_rule same_tag
      have unmatched := of_rulesDataLookup_none found mem same_tag
      rw [sameRule_symm same_rule] at unmatched
      cases unmatched
    · rw [map_append, nodup_append_comm]
      refine nodup_cons.mpr ⟨?_, tables.addresses⟩
      intro mem
      obtain ⟨record, record_mem, address⟩ := List.mem_map.mp mem
      exact new record record_mem address
    · intro record mem
      show record.1 < self.nextAddress + 1
      rcases mem_append.mp mem with mem | mem
      · exact Nat.lt_succ_of_lt (tables.fresh record mem)
      · rw [mem_singleton.mp mem]
        exact Nat.lt_succ_self _
    · rw [map_append]
      refine tables.byObj.link ?_ ((objView support).same_refl rule)
      intro node mem
      obtain ⟨record, record_mem, rfl⟩ := List.mem_map.mp mem
      exact new record record_mem
    · rw [map_append]
      refine tables.byUserTag.link ?_ (userTagView.same_refl userTag)
      intro node mem
      obtain ⟨record, record_mem, rfl⟩ := List.mem_map.mp mem
      exact new record record_mem
    · intro objData mem empty
      exact tables.remembered objData (mem_of_link_of_empty mem empty) empty

theorem TagsInUse.trackData (in_use : self.TagsInUse) :
    (self.trackData support rule priority userTag).TagsInUse := by
  cases found : self.rulesDataLookup support rule userTag with
  | some record =>
    rw [trackData_of_some found]
    exact in_use
  | none =>
    rw [trackData_of_none found]
    intro userTagData mem empty
    exact in_use userTagData (mem_of_link_of_empty mem empty) empty

theorem Tracks.trackData {tracked : Rule → Tag → Option Bool} (tables : self.Tables support)
    (tracks : self.Tracks support tracked) :
    (self.trackData support rule priority userTag).Tracks support
      (trackedAfterTrack support tracked rule userTag none) := by
  intro other tag dirty
  unfold trackedAfterTrack
  simp only [reduceCtorEq, and_false, if_false]
  cases found : self.rulesDataLookup support rule userTag with
  | none =>
    rw [trackData_of_none found]
    by_cases pair : sameRule support rule other = true ∧ tag = userTag
    · rw [if_pos pair, Option.some.injEq]
      constructor
      · rintro rfl
        exact ⟨_, mem_append_right _ (mem_singleton.mpr rfl), sameRule_symm pair.1,
          pair.2.symm, rfl⟩
      · rintro ⟨record, mem, same_rule, same_tag, same_dirty⟩
        rcases mem_append.mp mem with mem | mem
        · have unmatched := of_rulesDataLookup_none found mem (same_tag.trans pair.2)
          rw [sameRule_trans pair.1 same_rule] at unmatched
          cases unmatched
        · rw [mem_singleton.mp mem] at same_dirty
          exact same_dirty
    · rw [if_neg pair, tracks other tag dirty]
      constructor
      · rintro ⟨record, mem, matched⟩
        exact ⟨record, mem_append_left _ mem, matched⟩
      · rintro ⟨record, mem, same_rule, same_tag, same_dirty⟩
        rcases mem_append.mp mem with mem | mem
        · exact ⟨record, mem, same_rule, same_tag, same_dirty⟩
        · rw [mem_singleton.mp mem] at same_rule same_tag
          exact absurd ⟨sameRule_symm same_rule, same_tag.symm⟩ pair
  | some record =>
    obtain ⟨id, rulesData⟩ := record
    obtain ⟨home_mem, home_tag, home_rule⟩ := of_rulesDataLookup found
    rw [trackData_of_some found]
    by_cases pair : sameRule support rule other = true ∧ tag = userTag
    · rw [if_pos pair, Option.some.injEq]
      have home_other := sameRule_trans (sameRule_symm pair.1) home_rule
      constructor
      · rintro rfl
        refine ⟨_, List.mem_map_of_mem home_mem, ?_⟩
        rw [if_pos rfl]
        exact ⟨home_other, home_tag.trans pair.2.symm, rfl⟩
      · rintro ⟨changed, mem, same_rule, same_tag, same_dirty⟩
        obtain ⟨record, record_mem, rfl⟩ := List.mem_map.mp mem
        by_cases address : record.1 = id
        · rw [if_pos address] at same_dirty
          exact same_dirty
        · rw [if_neg address] at same_rule same_tag
          have equal := tables.eq_of_pair record_mem home_mem
            (sameRule_trans (sameRule_symm same_rule) home_other)
            (same_tag.trans (pair.2.trans home_tag.symm))
          exact absurd (congrArg Prod.fst equal) address
    · rw [if_neg pair, tracks other tag dirty]
      -- The changed record belongs to another pair.
      have apart : ∀ record ∈ self.byData, sameRule support other record.2.obj = true →
          record.2.userTag = tag → record.1 ≠ id := by
        rintro ⟨address, data⟩ mem same_rule same_tag rfl
        have equal := tables.eq_of_address mem home_mem
        subst equal
        exact pair
          ⟨sameRule_trans home_rule (sameRule_symm same_rule), same_tag.symm.trans home_tag⟩
      constructor
      · rintro ⟨record, mem, same_rule, same_tag, same_dirty⟩
        refine ⟨_, List.mem_map_of_mem mem, ?_⟩
        rw [if_neg (apart record mem same_rule same_tag)]
        exact ⟨same_rule, same_tag, same_dirty⟩
      · rintro ⟨changed, mem, same_rule, same_tag, same_dirty⟩
        obtain ⟨record, record_mem, rfl⟩ := List.mem_map.mp mem
        by_cases address : record.1 = id
        · rw [if_pos address] at same_rule same_tag
          exact absurd address (apart record record_mem same_rule same_tag)
        · rw [if_neg address] at same_rule same_tag same_dirty
          exact ⟨record, record_mem, same_rule, same_tag, same_dirty⟩

end Track

section Untrack

variable {id : Nat} {rulesData : RulesData Tag} {removeUserTagData makeOwnedByUs : Bool}

theorem Tables.only_obj (tables : self.Tables support) (mem : (id, rulesData) ∈ self.byData) :
    ∀ other, (id, other) ∈ self.byData.map (fun record => (record.1, record.2.obj)) →
      other = rulesData.obj := by
  intro other node_mem
  obtain ⟨⟨address, data⟩, record_mem, equal⟩ := List.mem_map.mp node_mem
  obtain ⟨rfl, rfl⟩ := Prod.mk.inj equal
  rw [tables.eq_of_address record_mem mem]

theorem Tables.only_userTag (tables : self.Tables support) (mem : (id, rulesData) ∈ self.byData) :
    ∀ other, (id, other) ∈ self.byData.map (fun record => (record.1, record.2.userTag)) →
      other = rulesData.userTag := by
  intro other node_mem
  obtain ⟨⟨address, data⟩, record_mem, equal⟩ := List.mem_map.mp node_mem
  obtain ⟨rfl, rfl⟩ := Prod.mk.inj equal
  rw [tables.eq_of_address record_mem mem]

variable {rule : Rule}

section

variable {nodes : List (Nat × Rule)} {byObj : List RulesObjData}
  (indexes : (objView support).Indexes nodes byObj)

include indexes

/-- The entries of the rules after a record has been unlinked.  An entry is forgotten if the record
was its last one and we did nothing to the rule. -/
theorem untrack_byObj
    (remembered : ∀ objData ∈ byObj, objData.objLst = [] → objData.configState ≠ .none)
    (only : ∀ other, (id, other) ∈ nodes → other = rule) {forget : Bool}
    (forget_eq : forget = ((objView support).find byObj rule).any fun objData =>
      decide (objData.configState = .none) && (objView support).alone byObj id) :
    (objView support).Indexes (nodes.filter fun node => node.1 ≠ id)
      ((objView support).unlink (if forget then (objView support).remove byObj rule else byObj)
        id) ∧
    ∀ objData ∈ (objView support).unlink
        (if forget then (objView support).remove byObj rule else byObj) id,
      objData.objLst = [] → objData.configState ≠ .none := by
  cases forgotten : forget with
  | true =>
    rw [forgotten, eq_comm, Option.any_eq_true] at forget_eq
    obtain ⟨home, found, state_and_alone⟩ := forget_eq
    rw [Bool.and_eq_true] at state_and_alone
    refine ⟨indexes.unlink_remove only state_and_alone.2, ?_⟩
    intro objData mem empty
    obtain ⟨old, old_mem, rfl, old_ids⟩ := of_unlink_of_empty mem empty
    obtain ⟨old_mem, different⟩ := mem_remove.mp old_mem
    rcases old_ids with old_ids | old_ids
    · exact remembered old old_mem old_ids
    · have same := indexes.same_of_mem only old_mem (old_ids ▸ mem_singleton_self id)
      rw [same] at different
      cases different
  | false =>
    rw [if_neg Bool.false_ne_true]
    refine ⟨indexes.unlink id, ?_⟩
    intro objData mem empty
    obtain ⟨old, old_mem, rfl, old_ids⟩ := of_unlink_of_empty mem empty
    rcases old_ids with old_ids | old_ids
    · exact remembered old old_mem old_ids
    · -- The entry has lost its last record, so it would have been forgotten.
      intro state
      have same := indexes.same_of_mem only old_mem (old_ids ▸ mem_singleton_self id)
      have found := indexes.find_eq_some old_mem same
      rw [forgotten, found, any_some, alone_of_mem old_mem old_ids] at forget_eq
      have state : old.configState = .none := state
      rw [state] at forget_eq
      cases forget_eq

/-- Making a rule our own keeps the entries of the rules in order. -/
theorem own_byObj
    (remembered : ∀ objData ∈ byObj, objData.objLst = [] → objData.configState ≠ .none) :
    (objView support).Indexes nodes ((objView support).modify byObj rule fun objData =>
        if objData.configState = .none then { objData with configState := .ownedByUs }
        else objData) ∧
    ∀ objData ∈ (objView support).modify byObj rule (fun objData =>
        if objData.configState = .none then { objData with configState := .ownedByUs }
        else objData),
      objData.objLst = [] → objData.configState ≠ .none := by
  constructor
  · refine indexes.modify rule (fun objData => ?_) fun objData => ?_
    · split
      · rfl
      · rfl
    · split
      · rfl
      · rfl
  · intro changed mem empty
    obtain ⟨objData, objData_mem, rfl⟩ := List.mem_map.mp mem
    by_cases same : (objView support).same rule ((objView support).key objData) = true
    · rw [if_pos same] at empty ⊢
      dsimp only at empty ⊢
      by_cases state : objData.configState = .none
      · rw [if_pos state]
        exact ConfigState.noConfusion
      · rwa [if_neg state]
    · rw [if_neg same] at empty ⊢
      exact remembered objData objData_mem empty

end

omit [DecidableEq Tag] in
theorem map_filter_address {α : Type*} (records : List (Nat × RulesData Tag))
    (part : RulesData Tag → α) :
    (records.filter fun record => record.1 ≠ id).map (fun record => (record.1, part record.2)) =
      (records.map fun record => (record.1, part record.2)).filter fun node => node.1 ≠ id := by
  rw [List.filter_map]
  rfl

theorem Tables.rulesDataUntrack (tables : self.Tables support)
    (mem : (id, rulesData) ∈ self.byData) :
    (self.rulesDataUntrack support id rulesData removeUserTagData makeOwnedByUs).Tables support := by
  have entries : (objView support).Indexes
        (self.byData.map fun record => (record.1, record.2.obj))
        (if makeOwnedByUs then
          (objView support).modify self.byObj rulesData.obj fun objData =>
            if objData.configState = .none then { objData with configState := .ownedByUs }
            else objData
        else self.byObj) ∧
      ∀ objData ∈ (if makeOwnedByUs then
          (objView support).modify self.byObj rulesData.obj fun objData =>
            if objData.configState = .none then { objData with configState := .ownedByUs }
            else objData
        else self.byObj), objData.objLst = [] → objData.configState ≠ .none := by
    cases makeOwnedByUs with
    | true => exact own_byObj tables.byObj tables.remembered
    | false => exact ⟨tables.byObj, tables.remembered⟩
  have unlinked := untrack_byObj entries.1 entries.2 (tables.only_obj mem) rfl
  refine ⟨?_, ?_, ?_, ?_, ?_, ?_⟩
  · exact tables.unique.filter _
  · exact tables.addresses.sublist (filter_sublist.map _)
  · exact fun record record_mem => tables.fresh record (mem_filter.mp record_mem).1
  · show (objView support).Indexes ((self.byData.filter fun record => record.1 ≠ id).map
      fun record => (record.1, record.2.obj)) _
    rw [map_filter_address self.byData RulesData.obj]
    exact unlinked.1
  · show userTagView.Indexes ((self.byData.filter fun record => record.1 ≠ id).map
      fun record => (record.1, record.2.userTag)) (userTagView.unlink (if _ then _ else _) id)
    rw [map_filter_address self.byData RulesData.userTag]
    split
    · rename_i dropped
      rw [Bool.and_eq_true, Bool.and_eq_true] at dropped
      exact tables.byUserTag.unlink_remove (tables.only_userTag mem) dropped.2.2
    · exact tables.byUserTag.unlink id
  · exact unlinked.2

theorem Tracks.rulesDataUntrack {tracked : Rule → Tag → Option Bool} {userTag : Tag}
    (tables : self.Tables support) (tracks : self.Tracks support tracked)
    (mem : (id, rulesData) ∈ self.byData) (same_tag : rulesData.userTag = userTag)
    (same_rule : sameRule support rule rulesData.obj = true) :
    (self.rulesDataUntrack support id rulesData removeUserTagData makeOwnedByUs).Tracks support
      (trackedAfterUntrack support tracked rule userTag) := by
  intro other tag dirty
  show (if _ then none else tracked other tag) = some dirty ↔
    ∃ record ∈ self.byData.filter fun record => record.1 ≠ id, _
  by_cases pair : sameRule support rule other = true ∧ tag = userTag
  · rw [if_pos pair]
    refine iff_of_false nofun ?_
    rintro ⟨record, record_mem, record_rule, record_tag, -⟩
    obtain ⟨record_mem, different⟩ := mem_filter.mp record_mem
    have equal := tables.eq_of_pair record_mem mem
      (sameRule_trans (sameRule_symm record_rule) (sameRule_trans (sameRule_symm pair.1) same_rule))
      (record_tag.trans (pair.2.trans same_tag.symm))
    exact of_decide_eq_true different (congrArg Prod.fst equal)
  · rw [if_neg pair, tracks other tag dirty]
    constructor
    · rintro ⟨record, record_mem, record_rule, record_tag, record_dirty⟩
      refine ⟨record, mem_filter.mpr ⟨record_mem, decide_eq_true ?_⟩, record_rule, record_tag,
        record_dirty⟩
      rintro rfl
      have equal := tables.eq_of_address record_mem mem
      rw [equal] at record_rule record_tag
      exact pair ⟨sameRule_trans same_rule (sameRule_symm record_rule),
        record_tag.symm.trans same_tag⟩
    · rintro ⟨record, record_mem, matched⟩
      exact ⟨record, (mem_filter.mp record_mem).1, matched⟩

theorem Tracks.untrack_of_none {tracked : Rule → Tag → Option Bool} {userTag : Tag}
    (tracks : self.Tracks support tracked)
    (absent : self.rulesDataLookup support rule userTag = none) :
    self.Tracks support (trackedAfterUntrack support tracked rule userTag) := by
  intro other tag dirty
  unfold trackedAfterUntrack
  by_cases pair : sameRule support rule other = true ∧ tag = userTag
  · rw [if_pos pair]
    refine iff_of_false nofun ?_
    rintro ⟨record, mem, record_rule, record_tag, -⟩
    have unmatched := of_rulesDataLookup_none absent mem (record_tag.trans pair.2)
    rw [sameRule_trans pair.1 record_rule] at unmatched
    cases unmatched
  · rw [if_neg pair]
    exact tracks other tag dirty

theorem TagsInUse.rulesDataUntrack (tables : self.Tables support) (in_use : self.TagsInUse)
    (mem : (id, rulesData) ∈ self.byData) :
    (self.rulesDataUntrack support id rulesData true false).TagsInUse := by
  intro userTagData tag_mem empty
  have tag_mem : userTagData ∈ userTagView.unlink _ id := tag_mem
  obtain ⟨old, old_mem, rfl, old_ids⟩ := of_unlink_of_empty tag_mem empty
  by_cases alone : userTagView.alone self.byUserTag id = true
  · rw [alone] at old_mem
    obtain ⟨old_mem, different⟩ := mem_remove.mp old_mem
    rcases old_ids with old_ids | old_ids
    · exact in_use old old_mem old_ids
    · have same := tables.byUserTag.same_of_mem (tables.only_userTag mem) old_mem
        (old_ids ▸ mem_singleton_self id)
      rw [same] at different
      cases different
  · rw [Bool.eq_false_iff.mpr alone] at old_mem
    rcases old_ids with old_ids | old_ids
    · exact in_use old old_mem old_ids
    · exact alone (alone_of_mem old_mem old_ids)

/-- Taking a rule over leaves the entry of the other tag, with or without records. -/
theorem tagsInUse_takeOver_iff (in_use : self.TagsInUse) :
    (self.rulesDataUntrack support id rulesData false true).TagsInUse ↔
      userTagView.alone self.byUserTag id = false := by
  constructor
  · intro still_in_use
    rw [Bool.eq_false_iff]
    intro alone
    obtain ⟨single, single_mem, single_ids⟩ := List.any_eq_true.mp alone
    have erased : single.userTagLst.erase id = [] := by
      rw [show single.userTagLst = [id] from of_decide_eq_true single_ids, erase_cons_head]
    exact still_in_use { single with userTagLst := single.userTagLst.erase id }
      (List.mem_map_of_mem single_mem) erased
  · intro not_alone userTagData tag_mem empty
    have tag_mem : userTagData ∈ userTagView.unlink _ id := tag_mem
    obtain ⟨old, old_mem, rfl, old_ids⟩ := of_unlink_of_empty tag_mem empty
    have old_mem : old ∈ self.byUserTag := old_mem
    rcases old_ids with old_ids | old_ids
    · exact in_use old old_mem old_ids
    · rw [alone_of_mem old_mem old_ids] at not_alone
      cases not_alone

end Untrack

theorem setDirty_of_some {userTagData : RulesUserTagData Tag}
    (found : userTagView.find self.byUserTag userTag = some userTagData) :
    self.setDirty userTag = { self with
      byData := self.byData.map fun record =>
        if record.1 ∈ userTagData.userTagLst then (record.1, { record.2 with dirty := true })
        else record } := by
  unfold setDirty
  rw [found]

section

variable (tables : self.Tables support)

include tables

theorem Tables.mem_userTagLst_iff {userTagData : RulesUserTagData Tag}
    (found : userTagView.find self.byUserTag userTag = some userTagData)
    (mem : record ∈ self.byData) :
    record.1 ∈ userTagData.userTagLst ↔ record.2.userTag = userTag := by
  have same_tag : userTag = userTagData.userTag :=
    of_decide_eq_true (same_of_find found)
  have listed := tables.byUserTag.mem_iff userTagData (mem_of_find found) record.1
  refine listed.trans ⟨?_, ?_⟩
  · rintro ⟨tag, node_mem, same⟩
    rw [← tables.only_userTag mem tag node_mem, same_tag]
    exact of_decide_eq_true same
  · intro record_tag
    exact ⟨record.2.userTag, List.mem_map_of_mem mem, decide_eq_true (record_tag.trans same_tag)⟩

theorem Tables.userTag_ne (absent : userTagView.find self.byUserTag userTag = none)
    (mem : record ∈ self.byData) :
    record.2.userTag ≠ userTag := by
  rintro rfl
  obtain ⟨userTagData, tag_mem, same⟩ := tables.byUserTag.covered _ (List.mem_map_of_mem mem)
  rw [find_eq_none.mp absent userTagData tag_mem] at same
  cases same

theorem Tables.setDirty (userTag : Tag) : (self.setDirty userTag).Tables support := by
  cases found : userTagView.find self.byUserTag userTag with
  | none =>
    unfold NMPRulesManager.setDirty
    rw [found]
    exact tables
  | some userTagData =>
    rw [setDirty_of_some found]
    refine tables.congr ?_ rfl rfl rfl
    rw [List.map_map]
    refine map_congr_left fun record _ => ?_
    show (fun record : Nat × RulesData Tag => (record.1, record.2.obj, record.2.userTag))
      (if _ then _ else record) = _
    split
    · rfl
    · rfl

theorem Tracks.setDirty {tracked : Rule → Tag → Option Bool} (tracks : self.Tracks support tracked)
    (userTag : Tag) :
    (self.setDirty userTag).Tracks support (trackedAfterSetDirty tracked userTag) := by
  intro rule tag dirty
  unfold trackedAfterSetDirty
  cases found : userTagView.find self.byUserTag userTag with
  | none =>
    unfold NMPRulesManager.setDirty
    rw [found]
    by_cases same : tag = userTag
    · rw [if_pos same]
      have untracked : tracked rule tag = none := by
        cases old : tracked rule tag with
        | none => rfl
        | some old_dirty =>
          obtain ⟨record, mem, -, record_tag, -⟩ := (tracks rule tag old_dirty).mp old
          exact absurd (record_tag.trans same) (tables.userTag_ne found mem)
      rw [untracked]
      refine iff_of_false nofun ?_
      rintro ⟨record, mem, -, record_tag, -⟩
      exact tables.userTag_ne found mem (record_tag.trans same)
    · rw [if_neg same]
      exact tracks rule tag dirty
  | some userTagData =>
    rw [setDirty_of_some found]
    by_cases same : tag = userTag
    · rw [if_pos same, map_eq_some_iff]
      constructor
      · rintro ⟨old_dirty, old, rfl⟩
        obtain ⟨record, mem, record_rule, record_tag, -⟩ := (tracks rule tag old_dirty).mp old
        refine ⟨_, List.mem_map_of_mem mem, ?_⟩
        rw [if_pos ((tables.mem_userTagLst_iff found mem).mpr (record_tag.trans same))]
        exact ⟨record_rule, record_tag, rfl⟩
      · rintro ⟨changed, mem, record_rule, record_tag, record_dirty⟩
        obtain ⟨record, record_mem, rfl⟩ := List.mem_map.mp mem
        by_cases listed : record.1 ∈ userTagData.userTagLst
        · rw [if_pos listed] at record_rule record_tag record_dirty
          exact ⟨record.2.dirty, (tracks rule tag _).mpr
            ⟨record, record_mem, record_rule, record_tag, rfl⟩, record_dirty⟩
        · rw [if_neg listed] at record_tag
          exact absurd ((tables.mem_userTagLst_iff found record_mem).mpr
            (record_tag.trans same)) listed
    · rw [if_neg same, tracks rule tag dirty]
      constructor
      · rintro ⟨record, mem, record_rule, record_tag, record_dirty⟩
        refine ⟨_, List.mem_map_of_mem mem, ?_⟩
        rw [if_neg fun listed => same
          (record_tag.symm.trans ((tables.mem_userTagLst_iff found mem).mp listed))]
        exact ⟨record_rule, record_tag, record_dirty⟩
      · rintro ⟨changed, mem, record_rule, record_tag, record_dirty⟩
        obtain ⟨record, record_mem, rfl⟩ := List.mem_map.mp mem
        by_cases listed : record.1 ∈ userTagData.userTagLst
        · rw [if_pos listed] at record_tag
          exact absurd (record_tag.symm.trans
            ((tables.mem_userTagLst_iff found record_mem).mp listed)) same
        · rw [if_neg listed] at record_rule record_tag record_dirty
          exact ⟨record, record_mem, record_rule, record_tag, record_dirty⟩

end

theorem setDirty_byUserTag (userTag : Tag) :
    (self.setDirty userTag).byUserTag = self.byUserTag := by
  unfold setDirty
  split
  · rfl
  · rfl

section UntrackAll

variable {userTag : Tag} (all : Bool)

/-- At most the entry of one tag is without records. -/
def InUseBut (self : NMPRulesManager Tag) (userTag : Tag) : Prop :=
  ∀ userTagData ∈ self.byUserTag, userTagData.userTagLst = [] → userTagData.userTag = userTag

theorem Tables.untrackIfDirty (tables : self.Tables support) (id : Nat) :
    (untrackIfDirty support all self id).Tables support := by
  unfold NMPRulesManager.untrackIfDirty
  cases found : self.data id with
  | none => exact tables
  | some rulesData =>
    dsimp only
    split
    · exact tables.rulesDataUntrack (mem_of_data found)
    · exact tables

theorem Tables.untrackIfDirty_byData (tables : self.Tables support) (id : Nat) :
    (NMPRulesManager.untrackIfDirty support all self id).byData = self.byData.filter fun record =>
      !(decide (record.1 = id) && (all || record.2.dirty)) := by
  unfold NMPRulesManager.untrackIfDirty
  cases found : self.data id with
  | none =>
    symm
    refine filter_eq_self.mpr fun record mem => ?_
    have different : record.1 ≠ id := by
      rintro rfl
      rw [tables.data_eq_some mem] at found
      cases found
    rw [decide_eq_false different]
    rfl
  | some rulesData =>
    have only : ∀ record ∈ self.byData, record.1 = id → record.2 = rulesData := by
      rintro record mem rfl
      exact tables.eq_of_address mem (mem_of_data found)
    dsimp only
    by_cases removed : (all || rulesData.dirty) = true
    · rw [if_pos removed]
      refine filter_congr fun record mem => ?_
      by_cases address : record.1 = id
      · rw [only record mem address, removed, decide_eq_true address,
          decide_eq_false (not_not.mpr address)]
        rfl
      · rw [decide_eq_false address, decide_eq_true address]
        rfl
    · rw [if_neg removed]
      symm
      refine filter_eq_self.mpr fun record mem => ?_
      by_cases address : record.1 = id
      · rw [only record mem address, Bool.eq_false_iff.mpr removed, Bool.and_false]
        rfl
      · rw [decide_eq_false address]
        rfl

variable {all} in
theorem InUseBut.untrackIfDirty (tables : self.Tables support) (in_use : self.InUseBut userTag)
    {id : Nat} (own : ∀ rulesData, (id, rulesData) ∈ self.byData → rulesData.userTag = userTag) :
    (untrackIfDirty support all self id).InUseBut userTag := by
  unfold NMPRulesManager.untrackIfDirty
  cases found : self.data id with
  | none => exact in_use
  | some rulesData =>
    have mem := mem_of_data found
    dsimp only
    split
    · intro userTagData tag_mem empty
      have tag_mem : userTagData ∈ userTagView.unlink _ id := tag_mem
      obtain ⟨old, old_mem, rfl, old_ids⟩ := of_unlink_of_empty tag_mem empty
      have old_mem : old ∈ self.byUserTag := old_mem
      rcases old_ids with old_ids | old_ids
      · exact in_use old old_mem old_ids
      · have same := tables.byUserTag.same_of_mem (tables.only_userTag mem) old_mem
          (old_ids ▸ mem_singleton_self id)
        exact (of_decide_eq_true same).symm.trans (own rulesData mem)
    · exact in_use

theorem untrackAll_loop (ids : List Nat) (tables : self.Tables support)
    (own : ∀ id ∈ ids, ∀ rulesData, (id, rulesData) ∈ self.byData → rulesData.userTag = userTag) :
    (ids.foldl (untrackIfDirty support all) self).Tables support ∧
    (self.InUseBut userTag → (ids.foldl (untrackIfDirty support all) self).InUseBut userTag) ∧
    (ids.foldl (untrackIfDirty support all) self).byData = self.byData.filter fun record =>
      !(decide (record.1 ∈ ids) && (all || record.2.dirty)) := by
  induction ids generalizing self with
  | nil =>
    refine ⟨tables, id, ?_⟩
    symm
    exact filter_eq_self.mpr fun record _ => rfl
  | cons id ids ih =>
    have byData := tables.untrackIfDirty_byData all id
    obtain ⟨loop_tables, loop_in_use, loop_byData⟩ := ih (tables.untrackIfDirty all id) (by
      intro other other_mem rulesData mem
      rw [byData] at mem
      exact own other (mem_cons_of_mem id other_mem) rulesData (mem_filter.mp mem).1)
    refine ⟨loop_tables, ?_, ?_⟩
    · intro in_use
      exact loop_in_use (in_use.untrackIfDirty tables (own id mem_cons_self))
    rw [foldl_cons, loop_byData, byData, List.filter_filter]
    refine filter_congr fun record _ => ?_
    by_cases first : record.1 = id
    · rw [decide_eq_true first, decide_eq_true (mem_cons.mpr (.inl first))]
      cases decide (record.1 ∈ ids) <;> cases all || record.2.dirty <;> rfl
    · have later : (record.1 ∈ id :: ids) ↔ record.1 ∈ ids := by
        rw [mem_cons, or_iff_right first]
      rw [decide_eq_false first, decide_eq_decide.mpr later]
      cases decide (record.1 ∈ ids) <;> cases all || record.2.dirty <;> rfl

theorem untrackAll_of_some {userTagData : RulesUserTagData Tag}
    (found : userTagView.find self.byUserTag userTag = some userTagData) :
    self.untrackAll support userTag all =
      if (userTagView.find (userTagData.userTagLst.foldl (untrackIfDirty support all)
          self).byUserTag userTag).any fun userTagData => userTagData.userTagLst.isEmpty then
        { userTagData.userTagLst.foldl (untrackIfDirty support all) self with
          byUserTag := userTagView.remove
            (userTagData.userTagLst.foldl (untrackIfDirty support all) self).byUserTag userTag }
      else userTagData.userTagLst.foldl (untrackIfDirty support all) self := by
  unfold untrackAll
  rw [found]

theorem dropEmptyTag (tables : self.Tables support) :
    let next := if (userTagView.find self.byUserTag userTag).any
        fun userTagData => userTagData.userTagLst.isEmpty then
        { self with byUserTag := userTagView.remove self.byUserTag userTag }
      else self
    next.Tables support ∧ (self.InUseBut userTag → next.TagsInUse) ∧ next.byData = self.byData := by
  dsimp only
  split
  · rename_i dropped
    obtain ⟨userTagData, found, empty⟩ := (Option.any_eq_true _ _).mp dropped
    have empty := List.isEmpty_iff.mp empty
    refine ⟨⟨tables.unique, tables.addresses, tables.fresh, tables.byObj, ?_, tables.remembered⟩,
      ?_, rfl⟩
    · refine tables.byUserTag.filter fun bucket mem same => ?_
      rw [Bool.not_eq_false'] at same
      have equal := tables.byUserTag.find_eq_some mem same
      rw [found, Option.some.injEq] at equal
      rw [← equal]
      exact empty
    · intro in_use other mem other_empty
      obtain ⟨other_mem, different⟩ := mem_remove.mp mem
      exact absurd (decide_eq_true (in_use other other_mem other_empty).symm)
        (Bool.eq_false_iff.mp different)
  · rename_i kept
    refine ⟨tables, ?_, rfl⟩
    intro in_use other mem other_empty
    have found := tables.byUserTag.find_eq_some mem
      (decide_eq_true (in_use other mem other_empty).symm)
    rw [found, any_some, List.isEmpty_iff] at kept
    exact kept other_empty

theorem untrackAll_spec (tables : self.Tables support) :
    (self.untrackAll support userTag all).Tables support ∧
    (self.TagsInUse → (self.untrackAll support userTag all).TagsInUse) ∧
    (self.untrackAll support userTag all).byData = self.byData.filter fun record =>
      !(decide (record.2.userTag = userTag) && (all || record.2.dirty)) := by
  cases found : userTagView.find self.byUserTag userTag with
  | none =>
    have unchanged : self.untrackAll support userTag all = self := by
      unfold untrackAll
      rw [found]
    rw [unchanged]
    refine ⟨tables, id, ?_⟩
    symm
    refine filter_eq_self.mpr fun record mem => ?_
    rw [decide_eq_false (tables.userTag_ne found mem)]
    rfl
  | some userTagData =>
    obtain ⟨loop_tables, loop_in_use, loop_byData⟩ :=
      untrackAll_loop all userTagData.userTagLst tables (by
        intro id listed rulesData mem
        exact (tables.mem_userTagLst_iff found mem).mp listed)
    rw [untrackAll_of_some all found]
    obtain ⟨drop_tables, drop_in_use, drop_byData⟩ := dropEmptyTag loop_tables
    refine ⟨drop_tables, ?_, ?_⟩
    · intro in_use
      exact drop_in_use (loop_in_use fun other mem empty => absurd empty (in_use other mem))
    rw [drop_byData, loop_byData]
    refine filter_congr fun record mem => ?_
    rw [decide_eq_decide.mpr (tables.mem_userTagLst_iff found mem)]

theorem Tracks.untrackAll {tracked : Rule → Tag → Option Bool}
    (tracks : self.Tracks support tracked)
    (byData : (self.untrackAll support userTag all).byData = self.byData.filter fun record =>
      !(decide (record.2.userTag = userTag) && (all || record.2.dirty))) :
    (self.untrackAll support userTag all).Tracks support
      (trackedAfterUntrackAll tracked userTag all) := by
  intro rule tag dirty
  unfold trackedAfterUntrackAll
  rw [byData]
  by_cases same : tag = userTag
  · rw [if_pos same, filter_eq_some_iff, tracks rule tag dirty]
    constructor
    · rintro ⟨⟨record, mem, record_rule, record_tag, record_dirty⟩, kept⟩
      refine ⟨record, mem_filter.mpr ⟨mem, ?_⟩, record_rule, record_tag, record_dirty⟩
      rw [record_dirty, decide_eq_true (record_tag.trans same)]
      exact kept
    · rintro ⟨record, mem, record_rule, record_tag, record_dirty⟩
      obtain ⟨mem, kept⟩ := mem_filter.mp mem
      rw [record_dirty, decide_eq_true (record_tag.trans same)] at kept
      exact ⟨⟨record, mem, record_rule, record_tag, record_dirty⟩, kept⟩
  · rw [if_neg same, tracks rule tag dirty]
    constructor
    · rintro ⟨record, mem, record_rule, record_tag, record_dirty⟩
      refine ⟨record, mem_filter.mpr ⟨mem, ?_⟩, record_rule, record_tag, record_dirty⟩
      rw [decide_eq_false fun other => same (record_tag.symm.trans other)]
      rfl
    · rintro ⟨record, mem, matched⟩
      exact ⟨record, (mem_filter.mp mem).1, matched⟩

end UntrackAll

end NMPRulesManager

end

end NetworkManager.RulesManager
