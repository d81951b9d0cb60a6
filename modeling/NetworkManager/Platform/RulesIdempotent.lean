import Mathlib.Data.List.Induction
import NetworkManager.Platform.RulesSync

/-!
# Synchronising twice

Whether a rule is in the platform, and what the state of its entry is, is decided for each entry on
its own.  A second run finds the platform as it wants it and asks for nothing.  It may still change
the state of an entry: a weakly tracked rule that the first run restored is remembered as added by
us, and the second run forgets about that.
-/

namespace NetworkManager.RulesManager

open BucketView List Option

section Entry

variable {Tag : Type}

/-- The state of an entry after the first loop.  Only a rule that is present is looked at. -/
def stateAfterDelete (best : Option (RulesData Tag)) (keepDeletedRules present : Bool)
    (configState : ConfigState) : ConfigState :=
  if present then (deleteDecision best keepDeletedRules configState).1 else configState

def deletesRule (best : Option (RulesData Tag)) (keepDeletedRules present : Bool)
    (configState : ConfigState) : Bool :=
  present && (deleteDecision best keepDeletedRules configState).2

def presentAfterDelete (best : Option (RulesData Tag)) (keepDeletedRules present : Bool)
    (configState : ConfigState) : Bool :=
  present && !deletesRule best keepDeletedRules present configState

/-- Whether the second loop adds a rule, depending on what it finds. -/
def addsRule (best : RulesData Tag) (present : Bool) (configState : ConfigState) : Bool :=
  (addDecision best configState).2 && !present

/-- The state of an entry after the second loop. -/
def stateAfterAdd (best : RulesData Tag) (present : Bool) (configState : ConfigState) :
    ConfigState :=
  if addsRule best present configState then .addedByUs else (addDecision best configState).1

/-- The rule is restored by the second loop because it is tracked weakly and we removed it. -/
def RestoresWeakly (best : RulesData Tag) (present : Bool) (configState : ConfigState) : Prop :=
  best.trackPriorityPresent = true ∧ best.trackPriorityVal = 0 ∧ present = false ∧
    (configState = .removedByUs ∨ configState = .ownedByUs)

/-- What a whole run makes of an entry with records: its state, and whether its rule is present. -/
def entryAfterSync (best : RulesData Tag) (keepDeletedRules : Bool) (entry : ConfigState × Bool) :
    ConfigState × Bool :=
  let state := stateAfterDelete (some best) keepDeletedRules entry.2 entry.1
  let present := presentAfterDelete (some best) keepDeletedRules entry.2 entry.1
  (stateAfterAdd best present state, present || addsRule best present state)

theorem entryAfterSync_quiet (best : RulesData Tag) (keepDeletedRules : Bool)
    (entry : ConfigState × Bool) :
    let after := entryAfterSync best keepDeletedRules entry
    deletesRule (some best) keepDeletedRules after.2 after.1 = false ∧
    addsRule best after.2 (stateAfterDelete (some best) keepDeletedRules after.2 after.1) =
      false := by
  obtain ⟨state, present⟩ := entry
  obtain ⟨obj, userTag, priority, wanted, dirty⟩ := best
  by_cases weak : priority = 0
  · cases wanted <;> cases keepDeletedRules <;> cases present <;> cases state <;>
      simp [entryAfterSync, stateAfterDelete, presentAfterDelete, deletesRule, addsRule,
        stateAfterAdd, deleteDecision, addDecision, weak]
  · cases wanted <;> cases keepDeletedRules <;> cases present <;> cases state <;>
      simp [entryAfterSync, stateAfterDelete, presentAfterDelete, deletesRule, addsRule,
        stateAfterAdd, deleteDecision, addDecision, weak]

theorem entryAfterSync_twice_iff (best : RulesData Tag) (keepDeletedRules : Bool)
    (entry : ConfigState × Bool) :
    (entryAfterSync best keepDeletedRules (entryAfterSync best keepDeletedRules entry)).1 =
        (entryAfterSync best keepDeletedRules entry).1 ↔
      ¬ RestoresWeakly best entry.2 entry.1 := by
  obtain ⟨state, present⟩ := entry
  obtain ⟨obj, userTag, priority, wanted, dirty⟩ := best
  by_cases weak : priority = 0
  · cases wanted <;> cases keepDeletedRules <;> cases present <;> cases state <;>
      simp [entryAfterSync, stateAfterDelete, presentAfterDelete, deletesRule, addsRule,
        stateAfterAdd, deleteDecision, addDecision, RestoresWeakly, weak]
  · cases wanted <;> cases keepDeletedRules <;> cases present <;> cases state <;>
      simp [entryAfterSync, stateAfterDelete, presentAfterDelete, deletesRule, addsRule,
        stateAfterAdd, deleteDecision, addDecision, RestoresWeakly, weak]

end Entry

open NMPRulesManager

variable {support : KernelSupport} {Tag : Type} {self : NMPRulesManager Tag}

def isPresent (support : KernelSupport) (platform : List Rule) (rule : Rule) : Bool :=
  platform.any (sameRule support rule)

theorem sameRule_comm (a b : Rule) : sameRule support a b = sameRule support b a := by
  rw [Bool.eq_iff_iff]
  exact ⟨sameRule_symm, sameRule_symm⟩

theorem isPresent_congr (platform : List Rule) {a b : Rule} (same : sameRule support a b = true) :
    isPresent support platform a = isPresent support platform b := by
  refine any_congr rfl fun plobj => ?_
  rw [Bool.eq_iff_iff]
  exact ⟨sameRule_trans (sameRule_symm same), sameRule_trans same⟩

theorem entry_eq_of_same {byObj : List RulesObjData}
    (hashed : byObj.Pairwise fun a b => sameRule support a.obj b.obj = false) {a b : RulesObjData}
    (mem_a : a ∈ byObj) (mem_b : b ∈ byObj) (same : sameRule support a.obj b.obj = true) :
    a = b := by
  have unique : byObj.Pairwise fun a b =>
      (objView support).same ((objView support).key a) ((objView support).key b) = false := hashed
  exact eq_of_same_of_unique unique mem_a mem_b same

theorem isPresent_append (platform others : List Rule) (rule : Rule) :
    isPresent support (platform ++ others) rule =
      (isPresent support platform rule || isPresent support others rule) :=
  any_append

namespace NMPRulesManager

/-- An entry after the first loop. -/
def entryAfterDelete (support : KernelSupport) (self : NMPRulesManager Tag)
    (keepDeletedRules : Bool) (platform : List Rule) (objData : RulesObjData) : RulesObjData :=
  { objData with
    configState := stateAfterDelete (self.rulesObjGetBestData objData) keepDeletedRules
      (isPresent support platform objData.obj) objData.configState }

def deletesFromPlatform (support : KernelSupport) (self : NMPRulesManager Tag)
    (keepDeletedRules : Bool) (plobj : Rule) : Bool :=
  ((objView support).find self.byObj plobj).any fun objData =>
    (deleteDecision (self.rulesObjGetBestData objData) keepDeletedRules objData.configState).2

variable {objData : RulesObjData} {keepDeletedRules : Bool} {platform : List Rule}

theorem entryAfterDelete_of_absent (absent : isPresent support platform objData.obj = false) :
    self.entryAfterDelete support keepDeletedRules platform objData = objData := by
  unfold entryAfterDelete stateAfterDelete
  rw [absent]
  rfl

theorem afterDelete_eq (keepDeletedRules : Bool) (platform : List Rule)
    (hashed : self.byObj.Pairwise fun a b => sameRule support a.obj b.obj = false)
    (unique : platform.Pairwise fun a b => sameRule support a b = false) :
    self.afterDelete support keepDeletedRules platform =
      (self.byObj.map (self.entryAfterDelete support keepDeletedRules platform),
        platform.filter (self.deletesFromPlatform support keepDeletedRules)) := by
  unfold afterDelete
  induction platform using reverseRecOn with
  | nil =>
    refine Prod.ext ?_ rfl
    refine (List.map_id' self.byObj).symm.trans (map_congr_left fun objData _ => ?_)
    exact (entryAfterDelete_of_absent rfl).symm
  | append_singleton platform plobj ih =>
    obtain ⟨unique_before, -, apart⟩ := pairwise_append.mp unique
    have apart : ∀ other ∈ platform, sameRule support other plobj = false :=
      fun other mem => apart other mem plobj (mem_singleton.mpr rfl)
    rw [foldl_append, ih unique_before, foldl_cons, foldl_nil, filter_append]
    -- An entry of another rule does not see the last rule.
    have others : ∀ objData, sameRule support plobj objData.obj = false →
        self.entryAfterDelete support keepDeletedRules (platform ++ [plobj]) objData =
          self.entryAfterDelete support keepDeletedRules platform objData := by
      intro objData different
      have last : isPresent support [plobj] objData.obj = false := by
        show (sameRule support objData.obj plobj || false) = false
        rw [sameRule_comm, different, Bool.or_false]
      unfold entryAfterDelete
      rw [isPresent_append, last, Bool.or_false]
    have find_map : (objView support).find
        (self.byObj.map (self.entryAfterDelete support keepDeletedRules platform)) plobj =
        ((objView support).find self.byObj plobj).map
          (self.entryAfterDelete support keepDeletedRules platform) := by
      unfold find
      rw [find?_map]
      rfl
    unfold syncDeleteStep
    dsimp only
    rw [find_map]
    cases found : (objView support).find self.byObj plobj with
    | none =>
      have untouched : self.deletesFromPlatform support keepDeletedRules plobj = false := by
        unfold deletesFromPlatform
        rw [found]
        rfl
      rw [filter_singleton, untouched]
      refine Prod.ext (map_congr_left fun objData mem => ?_) (append_nil _).symm
      exact (others objData (find_eq_none.mp found objData mem)).symm
    | some objData =>
      have same : sameRule support plobj objData.obj = true := same_of_find found
      have before : isPresent support platform objData.obj = false := by
        rw [← isPresent_congr platform same]
        refine List.any_eq_false.mpr fun other mem other_same => ?_
        have := apart other mem
        rw [sameRule_symm other_same] at this
        cases this
      have decision : self.deletesFromPlatform support keepDeletedRules plobj =
          (deleteDecision (self.rulesObjGetBestData objData) keepDeletedRules
            objData.configState).2 := by
        unfold deletesFromPlatform
        rw [found]
        rfl
      rw [map_some, entryAfterDelete_of_absent before, filter_singleton, decision]
      refine Prod.ext ?_ ?_
      · show (objView support).modify _ plobj _ = _
        unfold BucketView.modify
        rw [List.map_map]
        refine map_congr_left fun other mem => ?_
        show (if sameRule support plobj other.obj = true then _ else _) = _
        by_cases other_same : sameRule support plobj other.obj = true
        · have equal : objData = other :=
            entry_eq_of_same hashed (mem_of_find found) mem
              (sameRule_trans (sameRule_symm same) other_same)
          subst equal
          have after : isPresent support (platform ++ [plobj]) objData.obj = true := by
            rw [isPresent_append, before, Bool.false_or]
            exact List.any_eq_true.mpr ⟨plobj, mem_singleton.mpr rfl, sameRule_symm same⟩
          rw [if_pos same, entryAfterDelete_of_absent before]
          unfold entryAfterDelete stateAfterDelete
          rw [after]
          rfl
        · rw [if_neg other_same, others other (Bool.eq_false_iff.mpr other_same)]
      · show (if _ then _ else _) = _
        cases (deleteDecision (self.rulesObjGetBestData objData) keepDeletedRules
          objData.configState).2 with
        | true => rfl
        | false => exact (append_nil _).symm

def addsEntry (support : KernelSupport) (self : NMPRulesManager Tag) (platform : List Rule)
    (objData : RulesObjData) : Bool :=
  (self.rulesObjGetBestData objData).any fun best =>
    addsRule best (isPresent support platform objData.obj) objData.configState

/-- An entry after the second loop, which drops it if it has no records. -/
def entryAfterAdd (support : KernelSupport) (self : NMPRulesManager Tag) (platform : List Rule)
    (objData : RulesObjData) : Option RulesObjData :=
  (self.rulesObjGetBestData objData).map fun best =>
    { objData with
      configState := stateAfterAdd best (isPresent support platform objData.obj)
        objData.configState }

section

variable {platform other : List Rule}
  (same : isPresent support platform objData.obj = isPresent support other objData.obj)

include same

theorem addsEntry_congr :
    self.addsEntry support platform objData = self.addsEntry support other objData := by
  unfold addsEntry
  rw [same]

theorem entryAfterAdd_congr :
    self.entryAfterAdd support platform objData = self.entryAfterAdd support other objData := by
  unfold entryAfterAdd
  rw [same]

end

/-- The rules that the second loop asks to add for an entry. -/
def addedBy (support : KernelSupport) (self : NMPRulesManager Tag) (platform : List Rule)
    (objData : RulesObjData) : List Rule :=
  if self.addsEntry support platform objData then [objData.obj] else []

theorem syncAddStep_eq (succeeds : Rule → Bool) (acc : SyncAddState) (objData : RulesObjData) :
    self.syncAddStep support succeeds acc objData =
      ⟨acc.byObj ++ (self.entryAfterAdd support acc.platform objData).toList,
        acc.platform ++ (self.addedBy support acc.platform objData).filter succeeds,
        acc.added ++ self.addedBy support acc.platform objData⟩ := by
  unfold syncAddStep entryAfterAdd addedBy addsEntry
  cases self.rulesObjGetBestData objData with
  | none => simp
  | some best =>
    show (if addsRule best (isPresent support acc.platform objData.obj) objData.configState = true
      then _ else _) = _
    rw [map_some, any_some, toList_some]
    unfold stateAfterAdd
    by_cases adds : addsRule best (isPresent support acc.platform objData.obj)
        objData.configState = true
    · rw [if_pos adds, if_pos adds, if_pos adds, filter_singleton]
      cases succeeds objData.obj with
      | true => rfl
      | false => simp
    · rw [if_neg adds, if_neg adds, if_neg adds, filter_nil, append_nil, append_nil]

/-- What the second loop does, entry by entry.  The rules that it adds do not matter to the entries
that follow. -/
theorem foldl_syncAddStep_eq (succeeds : Rule → Bool) (byObj : List RulesObjData)
    (acc : SyncAddState)
    (hashed : byObj.Pairwise fun a b => sameRule support a.obj b.obj = false) :
    byObj.foldl (self.syncAddStep support succeeds) acc =
      ⟨acc.byObj ++ byObj.filterMap (self.entryAfterAdd support acc.platform),
        acc.platform ++
          ((byObj.filter (self.addsEntry support acc.platform)).map RulesObjData.obj).filter
            succeeds,
        acc.added ++
          (byObj.filter (self.addsEntry support acc.platform)).map RulesObjData.obj⟩ := by
  induction byObj generalizing acc with
  | nil => simp
  | cons objData byObj ih =>
    obtain ⟨apart, hashed⟩ := pairwise_cons.mp hashed
    have unseen : ∀ other ∈ byObj,
        isPresent support (acc.platform ++
          (self.addedBy support acc.platform objData).filter succeeds) other.obj =
        isPresent support acc.platform other.obj := by
      intro other mem
      have different : isPresent support
          ((self.addedBy support acc.platform objData).filter succeeds) other.obj = false := by
        refine List.any_eq_false.mpr fun rule rule_mem => ?_
        have added := (mem_filter.mp rule_mem).1
        unfold addedBy at added
        split at added
        · rw [mem_singleton.mp added, sameRule_comm, apart other mem]
          exact Bool.false_ne_true
        · cases added
      rw [isPresent_append, different, Bool.or_false]
    rw [foldl_cons, syncAddStep_eq, ih _ hashed]
    dsimp only
    have entries : byObj.filterMap (self.entryAfterAdd support (acc.platform ++
          (self.addedBy support acc.platform objData).filter succeeds)) =
        byObj.filterMap (self.entryAfterAdd support acc.platform) :=
      filterMap_congr fun other mem => entryAfterAdd_congr (unseen other mem)
    have added : byObj.filter (self.addsEntry support (acc.platform ++
          (self.addedBy support acc.platform objData).filter succeeds)) =
        byObj.filter (self.addsEntry support acc.platform) :=
      filter_congr fun other mem => addsEntry_congr (unseen other mem)
    have here : ((objData :: byObj).filter (self.addsEntry support acc.platform)).map
          RulesObjData.obj =
        self.addedBy support acc.platform objData ++
          (byObj.filter (self.addsEntry support acc.platform)).map RulesObjData.obj := by
      unfold addedBy
      rw [filter_cons]
      split
      · rfl
      · rfl
    rw [entries, added, here, filter_append, append_assoc, append_assoc, append_assoc]
    congr 2
    rw [filterMap_cons]
    cases self.entryAfterAdd support acc.platform objData with
    | none => rfl
    | some entry => rfl

def entryAfterRun (support : KernelSupport) (self : NMPRulesManager Tag) (keepDeletedRules : Bool)
    (platform : List Rule) (objData : RulesObjData) : Option RulesObjData :=
  (self.rulesObjGetBestData objData).map fun best =>
    { objData with
      configState := (entryAfterSync best keepDeletedRules
        (objData.configState, isPresent support platform objData.obj)).1 }

theorem entryAfterRun_of_some {best : RulesData Tag}
    (found : self.rulesObjGetBestData objData = some best) (configState : ConfigState) :
    self.entryAfterRun support keepDeletedRules platform
        { objData with configState := configState } =
      some { objData with
        configState := (entryAfterSync best keepDeletedRules
          (configState, isPresent support platform objData.obj)).1 } := by
  have found : self.rulesObjGetBestData { objData with configState := configState } = some best :=
    found
  unfold entryAfterRun
  rw [found]
  rfl

theorem entryAfterRun_isSome :
    (self.entryAfterRun support keepDeletedRules platform objData).isSome =
      (self.rulesObjGetBestData objData).isSome :=
  isSome_map

def platformAfterDelete (support : KernelSupport) (self : NMPRulesManager Tag)
    (keepDeletedRules : Bool) (platform : List Rule) : List Rule :=
  (self.afterDelete support keepDeletedRules platform).2.foldl
    (platformDelete support fun _ => true) platform

section Run

variable {keepDeletedRules : Bool} {platform : List Rule}
  (hashed : self.byObj.Pairwise fun a b => sameRule support a.obj b.obj = false)
  (unique : platform.Pairwise fun a b => sameRule support a b = false)

theorem platformAfterDelete_sublist :
    (self.platformAfterDelete support keepDeletedRules platform).Sublist platform := by
  unfold platformAfterDelete
  generalize (self.afterDelete support keepDeletedRules platform).2 = deleted
  induction deleted using reverseRecOn with
  | nil => exact Sublist.refl platform
  | append_singleton deleted rule ih =>
    rw [foldl_append]
    exact filter_sublist.trans ih

include hashed

variable {objData : RulesObjData}

theorem deletesFromPlatform_of_mem (mem : objData ∈ self.byObj) {plobj : Rule}
    (same : sameRule support plobj objData.obj = true) :
    self.deletesFromPlatform support keepDeletedRules plobj =
      (deleteDecision (self.rulesObjGetBestData objData) keepDeletedRules
        objData.configState).2 := by
  have found : (objView support).find self.byObj plobj = some objData :=
    find_eq_some_of_unique hashed mem same
  unfold deletesFromPlatform
  rw [found]
  rfl

include unique

theorem isPresent_platformAfterDelete (mem : objData ∈ self.byObj) :
    isPresent support (self.platformAfterDelete support keepDeletedRules platform) objData.obj =
      presentAfterDelete (self.rulesObjGetBestData objData) keepDeletedRules
        (isPresent support platform objData.obj) objData.configState := by
  have deleted_eq : (self.afterDelete support keepDeletedRules platform).2 =
      platform.filter (self.deletesFromPlatform support keepDeletedRules) := by
    rw [afterDelete_eq keepDeletedRules platform hashed unique]
  rw [Bool.eq_iff_iff]
  unfold presentAfterDelete deletesRule platformAfterDelete
  rw [Bool.and_eq_true, Bool.not_eq_true', Bool.and_eq_false_iff]
  constructor
  · intro present
    obtain ⟨plobj, plobj_mem, same⟩ := List.any_eq_true.mp present
    obtain ⟨there, spared⟩ := (mem_foldl_platformDelete _ _ _).mp plobj_mem
    refine ⟨List.any_eq_true.mpr ⟨plobj, there, same⟩, .inr (Bool.eq_false_iff.mpr ?_)⟩
    intro decision
    rw [← deletesFromPlatform_of_mem hashed mem (sameRule_symm same)] at decision
    have deleted : plobj ∈ (self.afterDelete support keepDeletedRules platform).2 := by
      rw [deleted_eq]
      exact mem_filter.mpr ⟨there, decision⟩
    exact absurd ((objView support).same_refl plobj)
      (Bool.eq_false_iff.mp (spared plobj deleted rfl))
  · rintro ⟨present, kept⟩
    obtain ⟨plobj, there, same⟩ := List.any_eq_true.mp present
    refine List.any_eq_true.mpr
      ⟨plobj, (mem_foldl_platformDelete _ _ _).mpr ⟨there, fun other deleted _ => ?_⟩, same⟩
    by_contra other_same
    rw [Bool.not_eq_false] at other_same
    rw [deleted_eq] at deleted
    have decision := (mem_filter.mp deleted).2
    rw [deletesFromPlatform_of_mem hashed mem
      (sameRule_symm (sameRule_trans same (sameRule_symm other_same)))] at decision
    rcases kept with absent | kept
    · rw [absent] at present
      cases present
    · rw [kept] at decision
      cases decision

theorem sync_eq_entries :
    self.sync support keepDeletedRules .success platform =
      ⟨{ self with byObj :=
          self.byObj.filterMap (self.entryAfterRun support keepDeletedRules platform) },
        self.platformAfterDelete support keepDeletedRules platform ++
          ((self.byObj.map (self.entryAfterDelete support keepDeletedRules platform)).filter
            (self.addsEntry support
              (self.platformAfterDelete support keepDeletedRules platform))).map
                RulesObjData.obj,
        platform.filter (self.deletesFromPlatform support keepDeletedRules),
        ((self.byObj.map (self.entryAfterDelete support keepDeletedRules platform)).filter
          (self.addsEntry support
            (self.platformAfterDelete support keepDeletedRules platform))).map
              RulesObjData.obj⟩ := by
  have first := afterDelete_eq keepDeletedRules platform hashed unique
  have hashed_after : (self.byObj.map
      (self.entryAfterDelete support keepDeletedRules platform)).Pairwise
        fun a b => sameRule support a.obj b.obj = false := pairwise_map.mpr hashed
  have second : self.afterAdd support keepDeletedRules .success platform =
      (self.afterDelete support keepDeletedRules platform).1.foldl
        (self.syncAddStep support fun _ => true)
        ⟨[], self.platformAfterDelete support keepDeletedRules platform, []⟩ := rfl
  rw [sync_eq, second, first]
  dsimp only
  rw [foldl_syncAddStep_eq _ _ _ hashed_after, nil_append, nil_append, filterMap_map, filter_true]
  have entries : self.byObj.filterMap
      (self.entryAfterAdd support (self.platformAfterDelete support keepDeletedRules platform) ∘
        self.entryAfterDelete support keepDeletedRules platform) =
      self.byObj.filterMap (self.entryAfterRun support keepDeletedRules platform) := by
    refine filterMap_congr fun objData mem => ?_
    show (self.rulesObjGetBestData objData).map _ = (self.rulesObjGetBestData objData).map _
    cases found : self.rulesObjGetBestData objData with
    | none => rfl
    | some best =>
      have between : isPresent support
          (self.platformAfterDelete support keepDeletedRules platform) objData.obj = _ :=
        isPresent_platformAfterDelete hashed unique mem
      rw [map_some, map_some]
      unfold entryAfterDelete entryAfterSync
      dsimp only
      rw [between, found]
  rw [entries]

theorem isPresent_sync (mem : objData ∈ self.byObj) {best : RulesData Tag}
    (found : self.rulesObjGetBestData objData = some best) :
    isPresent support (self.sync support keepDeletedRules .success platform).platform objData.obj =
      (entryAfterSync best keepDeletedRules
        (objData.configState, isPresent support platform objData.obj)).2 := by
  have between : isPresent support
      (self.platformAfterDelete support keepDeletedRules platform) objData.obj = _ :=
    isPresent_platformAfterDelete hashed unique mem
  have own : self.addsEntry support (self.platformAfterDelete support keepDeletedRules platform)
      (self.entryAfterDelete support keepDeletedRules platform objData) =
      addsRule best (isPresent support
        (self.platformAfterDelete support keepDeletedRules platform) objData.obj)
        (stateAfterDelete (some best) keepDeletedRules (isPresent support platform objData.obj)
          objData.configState) := by
    show (self.rulesObjGetBestData objData).any _ = _
    rw [found, any_some]
    unfold entryAfterDelete
    rw [found]
  rw [sync_eq_entries hashed unique, isPresent_append]
  unfold entryAfterSync
  dsimp only
  rw [found] at between
  rw [between] at own ⊢
  rw [← own]
  congr 1
  rw [Bool.eq_iff_iff]
  constructor
  · intro present
    obtain ⟨rule, rule_mem, same⟩ := List.any_eq_true.mp present
    obtain ⟨added, added_mem, rfl⟩ := List.mem_map.mp rule_mem
    obtain ⟨after_mem, adds⟩ := mem_filter.mp added_mem
    obtain ⟨other, other_mem, rfl⟩ := List.mem_map.mp after_mem
    rwa [entry_eq_of_same hashed mem other_mem same]
  · intro adds
    have added := mem_filter.mpr ⟨List.mem_map_of_mem mem, adds⟩
    exact List.any_eq_true.mpr
      ⟨objData.obj, List.mem_map.mpr ⟨_, added, rfl⟩, (objView support).same_refl objData.obj⟩

/-- Every entry has records, and none of them asks for a change of the platform. -/
def Quiet (support : KernelSupport) (self : NMPRulesManager Tag) (keepDeletedRules : Bool)
    (platform : List Rule) : Prop :=
  ∀ objData ∈ self.byObj, ∃ best, self.rulesObjGetBestData objData = some best ∧
    deletesRule (some best) keepDeletedRules (isPresent support platform objData.obj)
      objData.configState = false ∧
    addsRule best (isPresent support platform objData.obj) (stateAfterDelete (some best)
      keepDeletedRules (isPresent support platform objData.obj) objData.configState) = false

/-- A run that is not asked for anything leaves the platform alone. -/
theorem sync_platform_of_quiet (quiet : self.Quiet support keepDeletedRules platform) :
    (self.sync support keepDeletedRules .success platform).platform = platform := by
  have deleted : (self.afterDelete support keepDeletedRules platform).2 = [] := by
    rw [afterDelete_eq keepDeletedRules platform hashed unique]
    refine filter_eq_nil_iff.mpr fun plobj there => ?_
    unfold deletesFromPlatform
    cases found : (objView support).find self.byObj plobj with
    | none => exact Bool.false_ne_true
    | some objData =>
      obtain ⟨best, best_found, spared, -⟩ := quiet objData (mem_of_find found)
      have present : isPresent support platform objData.obj = true :=
        List.any_eq_true.mpr ⟨plobj, there, sameRule_symm (same_of_find found)⟩
      unfold deletesRule at spared
      rw [present, Bool.true_and] at spared
      rw [any_some, best_found, spared]
      exact Bool.false_ne_true
  have between : self.platformAfterDelete support keepDeletedRules platform = platform := by
    unfold platformAfterDelete
    rw [deleted, foldl_nil]
  have added : (self.byObj.map (self.entryAfterDelete support keepDeletedRules platform)).filter
      (self.addsEntry support platform) = [] := by
    refine filter_eq_nil_iff.mpr fun after after_mem => ?_
    obtain ⟨objData, mem, rfl⟩ := List.mem_map.mp after_mem
    obtain ⟨best, best_found, -, unasked⟩ := quiet objData mem
    show ¬ (self.rulesObjGetBestData objData).any _ = true
    unfold entryAfterDelete
    rw [best_found, any_some, unasked]
    exact Bool.false_ne_true
  rw [sync_eq_entries hashed unique, between, added]
  exact append_nil platform

end Run

end NMPRulesManager

theorem filterMap_eq_filterMap_iff {α β : Type*} {f g : α → Option β} (entries : List α)
    (same : ∀ entry ∈ entries, (f entry).isSome = (g entry).isSome) :
    entries.filterMap f = entries.filterMap g ↔ ∀ entry ∈ entries, f entry = g entry := by
  induction entries with
  | nil => exact iff_of_true rfl fun entry mem => absurd mem not_mem_nil
  | cons entry entries ih =>
    obtain ⟨same_here, same⟩ := forall_mem_cons.mp same
    rw [forall_mem_cons, ← ih same, filterMap_cons, filterMap_cons]
    cases first : f entry with
    | none =>
      rw [first] at same_here
      rw [isNone_iff_eq_none.mp (isSome_eq_false_iff.mp same_here.symm)]
      exact (and_iff_right rfl).symm
    | some left =>
      rw [first] at same_here
      obtain ⟨right, second⟩ := isSome_iff_exists.mp same_here.symm
      rw [second, List.cons.injEq, Option.some.injEq]

section Twice

variable {keepDeletedRules : Bool} {platform : List Rule}
  (hashed : self.byObj.Pairwise fun a b => sameRule support a.obj b.obj = false)
  (unique : platform.Pairwise fun a b => sameRule support a b = false)

include hashed unique

/-- The entries of the table have different rules after a run, too. -/
theorem sync_hashed :
    (self.sync support keepDeletedRules .success platform).manager.byObj.Pairwise
      fun a b => sameRule support a.obj b.obj = false := by
  rw [sync_eq_entries hashed unique]
  refine List.Pairwise.filterMap _ (fun a b apart left left_eq right right_eq => ?_) hashed
  obtain ⟨_, -, rfl⟩ := map_eq_some_iff.mp left_eq
  obtain ⟨_, -, rfl⟩ := map_eq_some_iff.mp right_eq
  exact apart

theorem sync_unique :
    (self.sync support keepDeletedRules .success platform).platform.Pairwise
      fun a b => sameRule support a b = false := by
  rw [sync_eq_entries hashed unique]
  refine pairwise_append.mpr ⟨unique.sublist platformAfterDelete_sublist, ?_, ?_⟩
  · refine pairwise_map.mpr (List.Pairwise.filter _ (pairwise_map.mpr ?_))
    exact hashed
  · intro plobj there rule rule_mem
    -- A rule is added only if the platform does not have it.
    obtain ⟨added, added_mem, rfl⟩ := List.mem_map.mp rule_mem
    obtain ⟨best, -, adds⟩ := (Option.any_eq_true _ _).mp (mem_filter.mp added_mem).2
    unfold addsRule at adds
    rw [Bool.and_eq_true, Bool.not_eq_true'] at adds
    rw [sameRule_comm]
    exact Bool.eq_false_iff.mpr (List.any_eq_false.mp adds.2 plobj there)

theorem sync_quiet :
    (self.sync support keepDeletedRules .success platform).manager.Quiet support keepDeletedRules
      (self.sync support keepDeletedRules .success platform).platform := by
  intro after mem
  have entries : (self.sync support keepDeletedRules .success platform).manager.byObj =
      self.byObj.filterMap (self.entryAfterRun support keepDeletedRules platform) := by
    rw [sync_eq_entries hashed unique]
  rw [entries] at mem
  obtain ⟨objData, objData_mem, after_eq⟩ := mem_filterMap.mp mem
  obtain ⟨best, found, rfl⟩ := map_eq_some_iff.mp after_eq
  have present : isPresent support
      (self.sync support keepDeletedRules .success platform).platform objData.obj = _ :=
    isPresent_sync hashed unique objData_mem found
  have quiet := entryAfterSync_quiet best keepDeletedRules
    (objData.configState, isPresent support platform objData.obj)
  dsimp only at quiet
  rw [← present] at quiet
  exact ⟨best, found, quiet⟩

end Twice

/-- A second run leaves the platform alone.  It leaves the manager alone as well, unless the first
run restored a weakly tracked rule.  The entries of a hash table have different keys, and so have
the rules of the platform. -/
theorem sync_idempotent_iff (support : KernelSupport) (self : NMPRulesManager Tag)
    (hashed : self.byObj.Pairwise fun a b => sameRule support a.obj b.obj = false)
    (platform : List Rule) (unique : platform.Pairwise fun a b => sameRule support a b = false)
    (keepDeletedRules : Bool) :
    let once := self.sync support keepDeletedRules .success platform
    let twice := once.manager.sync support keepDeletedRules .success once.platform
    (twice.platform = once.platform ∧ twice.manager = once.manager) ↔
      ∀ objData ∈ self.byObj, ∀ best, self.rulesObjGetBestData objData = some best →
        ¬ RestoresWeakly best (isPresent support platform objData.obj) objData.configState := by
  intro once twice
  have hashed_once : once.manager.byObj.Pairwise
      fun a b => sameRule support a.obj b.obj = false := sync_hashed hashed unique
  have unique_once : once.platform.Pairwise fun a b => sameRule support a b = false :=
    sync_unique hashed unique
  have platform_eq : twice.platform = once.platform :=
    sync_platform_of_quiet hashed_once unique_once (sync_quiet hashed unique)
  have once_manager : once.manager = { self with
      byObj := self.byObj.filterMap (self.entryAfterRun support keepDeletedRules platform) } := by
    rw [show once = _ from sync_eq_entries hashed unique]
  have twice_manager : twice.manager = { self with
      byObj := self.byObj.filterMap fun objData =>
        (self.entryAfterRun support keepDeletedRules platform objData).bind
          (self.entryAfterRun support keepDeletedRules once.platform) } := by
    rw [show twice = _ from sync_eq_entries hashed_once unique_once, ← filterMap_filterMap,
      once_manager]
    rfl
  rw [and_iff_right platform_eq, once_manager, twice_manager, NMPRulesManager.mk.injEq,
    and_iff_right rfl, and_iff_left ⟨rfl, rfl⟩, filterMap_eq_filterMap_iff]
  · refine forall₂_congr fun objData mem => ?_
    cases found : self.rulesObjGetBestData objData with
    | none =>
      refine iff_of_true ?_ nofun
      rw [isNone_iff_eq_none.mp (isSome_eq_false_iff.mp
        (entryAfterRun_isSome.trans (congrArg isSome found)))]
      rfl
    | some best =>
      have present : isPresent support once.platform objData.obj = _ :=
        isPresent_sync hashed unique mem found
      rw [show self.entryAfterRun support keepDeletedRules platform objData = _ from
          entryAfterRun_of_some found objData.configState,
        bind_some, entryAfterRun_of_some found, present, Option.some.injEq,
        RulesObjData.mk.injEq, and_iff_right rfl, and_iff_right rfl]
      simp only [Option.some.injEq, forall_eq']
      exact entryAfterSync_twice_iff best keepDeletedRules
        (objData.configState, isPresent support platform objData.obj)
  · intro objData mem
    cases found : self.entryAfterRun support keepDeletedRules platform objData with
    | none => rfl
    | some after =>
      obtain ⟨best, best_found, rfl⟩ := map_eq_some_iff.mp found
      rw [bind_some, entryAfterRun_of_some best_found]
      rfl

/-- A manager that wants one rule, on an empty platform. -/
theorem sync_idempotent_addition :
    let manager := (NMPRulesManager.new Nat).track ⟨true, true, true, true⟩ mainRule 10 1 none
    let once := manager.sync ⟨true, true, true, true⟩ false .success []
    let twice := once.manager.sync ⟨true, true, true, true⟩ false .success once.platform
    twice.platform = once.platform ∧ twice.manager = once.manager := by
  refine (sync_idempotent_iff ⟨true, true, true, true⟩
    ((NMPRulesManager.new Nat).track ⟨true, true, true, true⟩ mainRule 10 1 none)
    (pairwise_singleton _ _) [] List.Pairwise.nil false).mpr ?_
  intro objData mem best found restores
  rw [mem_singleton.mp mem] at restores
  rcases restores.2.2.2 with removed | owned
  · cases removed
  · cases owned

/-- A manager that removed a weakly tracked rule, and that nobody asks any more to remove it. -/
def removedManager : NMPRulesManager Nat :=
  let support : KernelSupport := ⟨true, true, true, true⟩
  let manager := (NMPRulesManager.new Nat).track support mainRule 0 1 none
  let manager := manager.track support mainRule (-10) 2 none
  (manager.sync support false .success [mainRule]).manager.untrack support mainRule 2

/-- The rule is restored, and the second run forgets who restored it. -/
theorem sync_idempotent_fails :
    let once := removedManager.sync ⟨true, true, true, true⟩ false .success []
    let twice := once.manager.sync ⟨true, true, true, true⟩ false .success once.platform
    once.manager.byObj.map RulesObjData.configState = [.addedByUs] ∧
    twice.manager.byObj.map RulesObjData.configState = [.none] := by
  decide +kernel

end NetworkManager.RulesManager
