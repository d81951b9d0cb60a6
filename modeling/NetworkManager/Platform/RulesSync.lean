import NetworkManager.Platform.RulesBookkeeping

/-!
# What synchronising achieves

The first loop of `nmp_rules_manager_sync` deletes rules, the second one adds rules.  They do not
undo one another: after both, a rule with a priority is in the platform exactly if its best record
asks for it.  Rules without an entry are left alone.
-/

namespace NetworkManager.RulesManager

open BucketView List

variable {support : KernelSupport} {Tag : Type} {self : NMPRulesManager Tag}

namespace NMPRulesManager

theorem rulesObjGetBestData_congr {a b : RulesObjData} (same : a.objLst = b.objLst) :
    self.rulesObjGetBestData a = self.rulesObjGetBestData b := by
  unfold rulesObjGetBestData
  rw [same]

def entryKeys (byObj : List RulesObjData) : List (Rule × List Nat) :=
  byObj.map fun objData => (objData.obj, objData.objLst)

section Delete

variable {keepDeletedRules : Bool} {acc : List RulesObjData × List Rule}

theorem syncDeleteStep_entryKeys (plobj : Rule) :
    entryKeys (self.syncDeleteStep support keepDeletedRules acc plobj).1 = entryKeys acc.1 := by
  unfold syncDeleteStep
  cases (objView support).find acc.1 plobj with
  | none => rfl
  | some objData =>
    show ((objView support).modify acc.1 plobj _).map
      (fun objData => ((objView support).key objData, (objView support).ids objData)) = _
    exact map_modify plobj (fun _ => rfl) fun _ => rfl

variable (platform : List Rule)

theorem foldl_syncDeleteStep_entryKeys :
    entryKeys (platform.foldl (self.syncDeleteStep support keepDeletedRules) acc).1 =
      entryKeys acc.1 := by
  induction platform generalizing acc with
  | nil => rfl
  | cons plobj platform ih => rw [foldl_cons, ih, syncDeleteStep_entryKeys]

theorem mem_syncDeleteStep {plobj rule : Rule} :
    rule ∈ (self.syncDeleteStep support keepDeletedRules acc plobj).2 ↔
      rule ∈ acc.2 ∨ (rule = plobj ∧ ∃ objData, (objView support).find acc.1 plobj = some objData ∧
        (deleteDecision (self.rulesObjGetBestData objData) keepDeletedRules
          objData.configState).2 = true) := by
  unfold syncDeleteStep
  cases found : (objView support).find acc.1 plobj with
  | none => simp
  | some objData =>
    dsimp only
    split
    · rename_i deleted
      simp [deleted]
    · rename_i kept
      simp [kept]

variable {rule : Rule}

theorem mem_foldl_syncDeleteStep
    (deleted : rule ∈ (platform.foldl (self.syncDeleteStep support keepDeletedRules) acc).2) :
    rule ∈ acc.2 ∨ (rule ∈ platform ∧ ∃ state, ∃ entry ∈ entryKeys acc.1,
      sameRule support rule entry.1 = true ∧
      (deleteDecision (self.rulesObjGetBestData ⟨entry.1, entry.2, state⟩) keepDeletedRules
        state).2 = true) := by
  induction platform generalizing acc with
  | nil => exact .inl deleted
  | cons plobj platform ih =>
    rcases ih deleted with before | ⟨mem, state, entry, entry_mem, same, decision⟩
    · rcases mem_syncDeleteStep.mp before with before | ⟨rfl, objData, found, decision⟩
      · exact .inl before
      · exact .inr ⟨mem_cons_self, objData.configState, _,
          mem_map_of_mem (mem_of_find found), same_of_find found,
          decision⟩
    · rw [syncDeleteStep_entryKeys] at entry_mem
      exact .inr ⟨mem_cons_of_mem plobj mem, state, entry, entry_mem, same, decision⟩

/-- A rule that is deleted was in the platform, and its best record, if any, does not ask for it. -/
theorem of_mem_deleted {platform : List Rule}
    (deleted : rule ∈ (self.afterDelete support keepDeletedRules platform).2) :
    rule ∈ platform ∧ ∃ objData ∈ self.byObj, sameRule support rule objData.obj = true ∧
      ∀ best, self.rulesObjGetBestData objData = some best → best.trackPriorityPresent = false := by
  rcases mem_foldl_syncDeleteStep platform deleted with
    absurd_mem | ⟨mem, state, entry, entry_mem, same, decision⟩
  · cases absurd_mem
  · obtain ⟨objData, objData_mem, rfl⟩ := mem_map.mp entry_mem
    refine ⟨mem, objData, objData_mem, same, ?_⟩
    intro best found
    have found : self.rulesObjGetBestData ⟨objData.obj, objData.objLst, state⟩ = some best := found
    rw [found] at decision
    by_contra present
    unfold deleteDecision at decision
    rw [Bool.not_eq_false] at present
    simp [present] at decision

theorem mem_foldl_of_mem (deleted : rule ∈ acc.2) :
    rule ∈ (platform.foldl (self.syncDeleteStep support keepDeletedRules) acc).2 := by
  induction platform generalizing acc with
  | nil => exact deleted
  | cons plobj platform ih => exact ih (mem_syncDeleteStep.mpr (.inl deleted))

theorem mem_deleted {platform : List Rule} (mem : rule ∈ platform)
    (unique : acc.1.Pairwise fun a b => sameRule support a.obj b.obj = false)
    {objData : RulesObjData} (objData_mem : objData ∈ acc.1)
    (same : sameRule support rule objData.obj = true) {best : RulesData Tag}
    (found : self.rulesObjGetBestData objData = some best)
    (absent : best.trackPriorityPresent = false) (priority : 0 < best.trackPriorityVal) :
    rule ∈ (platform.foldl (self.syncDeleteStep support false) acc).2 := by
  induction platform generalizing acc objData with
  | nil => cases mem
  | cons plobj platform ih =>
    rcases mem_cons.mp mem with rfl | mem
    · refine mem_foldl_of_mem platform (mem_syncDeleteStep.mpr (.inr ⟨rfl, objData, ?_, ?_⟩))
      · exact find_eq_some_of_unique unique objData_mem same
      · rw [found]
        unfold deleteDecision
        simp [absent, priority.ne']
    · -- The entry survives the step, up to its state.
      have keys : (self.syncDeleteStep support false acc plobj).1.map
          (fun objData => ((objView support).key objData, (objView support).ids objData)) =
          acc.1.map fun objData =>
            ((objView support).key objData, (objView support).ids objData) :=
        syncDeleteStep_entryKeys plobj
      obtain ⟨next, next_mem, next_obj, next_lst⟩ :=
        exists_counterpart keys objData_mem
      refine ih mem (unique_congr keys unique) next_mem ?_ ?_
      · rwa [show next.obj = objData.obj from next_obj]
      · rwa [rulesObjGetBestData_congr (show next.objLst = objData.objLst from next_lst)]

end Delete

theorem mem_foldl_platformDelete {rule : Rule} (succeeds : Rule → Bool) (deleted : List Rule)
    (platform : List Rule) :
    rule ∈ deleted.foldl (platformDelete support succeeds) platform ↔
      rule ∈ platform ∧ ∀ other ∈ deleted, succeeds other = true →
        sameRule support other rule = false := by
  induction deleted generalizing platform with
  | nil => simp
  | cons first deleted ih =>
    rw [foldl_cons, ih, forall_mem_cons]
    unfold platformDelete
    by_cases success : succeeds first = true
    · rw [if_pos success, mem_filter, Bool.not_eq_true', and_assoc, forall_prop_of_true success]
    · rw [if_neg success]
      simp [success]

section Add

variable {succeeds : Rule → Bool} {acc : SyncAddState}

variable (support self succeeds acc) in
theorem syncAddStep_platform (objData : RulesObjData) :
    (self.syncAddStep support succeeds acc objData).platform = acc.platform ∨
    ((self.syncAddStep support succeeds acc objData).platform = acc.platform ++ [objData.obj] ∧
      succeeds objData.obj = true ∧
      ∃ best, self.rulesObjGetBestData objData = some best ∧ best.trackPriorityPresent = true) := by
  have turn := self.syncAddTurn support succeeds acc objData
  generalize self.syncAddStep support succeeds acc objData = after at turn ⊢
  cases turn with
  | dropped unrecorded => exact .inl rfl
  | added best found wanted missing =>
    have present : best.trackPriorityPresent = true := by
      by_contra absent
      rw [Bool.not_eq_true] at absent
      unfold addDecision at wanted
      rw [if_pos absent] at wanted
      exact absurd wanted Bool.false_ne_true
    dsimp only
    by_cases success : succeeds objData.obj = true
    · rw [if_pos success]
      exact .inr ⟨rfl, success, best, found, present⟩
    · rw [if_neg success]
      exact .inl rfl
  | kept best found present => exact .inl rfl

theorem mem_syncAddStep_of_mem {rule : Rule} (objData : RulesObjData) (mem : rule ∈ acc.platform) :
    rule ∈ (self.syncAddStep support succeeds acc objData).platform := by
  rcases syncAddStep_platform support self succeeds acc objData with same | ⟨added, -⟩
  · rwa [same]
  · rw [added]
    exact mem_append_left _ mem

theorem mem_foldl_syncAddStep_of_mem {rule : Rule} (byObj : List RulesObjData)
    (mem : rule ∈ acc.platform) :
    rule ∈ (byObj.foldl (self.syncAddStep support succeeds) acc).platform := by
  induction byObj generalizing acc with
  | nil => exact mem
  | cons objData byObj ih => exact ih (mem_syncAddStep_of_mem objData mem)

/-- A rule that the second loop brought in is asked for by its best record. -/
theorem of_mem_foldl_syncAddStep {rule : Rule} (byObj : List RulesObjData)
    (mem : rule ∈ (byObj.foldl (self.syncAddStep support succeeds) acc).platform) :
    rule ∈ acc.platform ∨ ∃ objData ∈ byObj, objData.obj = rule ∧
      ∃ best, self.rulesObjGetBestData objData = some best ∧ best.trackPriorityPresent = true := by
  induction byObj generalizing acc with
  | nil => exact .inl mem
  | cons objData byObj ih =>
    rcases ih mem with before | ⟨other, other_mem, found⟩
    · rcases syncAddStep_platform support self succeeds acc objData with
        same | ⟨added, -, found⟩
      · rw [same] at before
        exact .inl before
      · rw [added] at before
        rcases mem_append.mp before with before | before
        · exact .inl before
        · exact .inr ⟨objData, mem_cons_self, (mem_singleton.mp before).symm, found⟩
    · exact .inr ⟨other, mem_cons_of_mem objData other_mem, found⟩

/-- If adding succeeds, a rule that its best record asks for is in the platform in the end. -/
theorem exists_mem_foldl_syncAddStep {byObj : List RulesObjData} {objData : RulesObjData}
    (mem : objData ∈ byObj) {best : RulesData Tag}
    (found : self.rulesObjGetBestData objData = some best)
    (present : best.trackPriorityPresent = true) (priority : 0 < best.trackPriorityVal) :
    ∃ rule ∈ (byObj.foldl (self.syncAddStep support fun _ => true) acc).platform,
      sameRule support objData.obj rule = true := by
  induction byObj generalizing acc with
  | nil => cases mem
  | cons first byObj ih =>
    rcases mem_cons.mp mem with rfl | mem
    · have here : ∃ rule ∈ (self.syncAddStep support (fun _ => true) acc objData).platform,
          sameRule support objData.obj rule = true := by
        have wanted : (addDecision best objData.configState).2 = true := by
          unfold addDecision
          simp [present, priority.ne']
        have turn := self.syncAddTurn support (fun _ => true) acc objData
        generalize self.syncAddStep support (fun _ => true) acc objData = after at turn ⊢
        cases turn with
        | dropped unrecorded =>
          rw [unrecorded] at found
          cases found
        | added other other_found asked missing =>
          exact ⟨objData.obj, mem_append_right _ (mem_singleton.mpr rfl),
            (objView support).same_refl _⟩
        | kept other other_found there =>
          obtain rfl : best = other := Option.some.inj (found.symm.trans other_found)
          exact there wanted
      obtain ⟨rule, rule_mem, same⟩ := here
      exact ⟨rule, mem_foldl_syncAddStep_of_mem byObj rule_mem, same⟩
    · exact ih mem

end Add

end NMPRulesManager

open NMPRulesManager

/-- If the platform does what it is asked for, then after synchronising a rule with a priority is in
the platform exactly if its best record asks for it, and rules without an entry are untouched.  The
entries of a hash table have different keys. -/
theorem sync_achieves (support : KernelSupport) (self : NMPRulesManager Tag)
    (hashed : self.byObj.Pairwise fun a b => sameRule support a.obj b.obj = false)
    (platform : List Rule) :
    (∀ objData ∈ self.byObj, ∀ best, self.rulesObjGetBestData objData = some best →
      0 < best.trackPriorityVal →
        ((∃ rule ∈ (self.sync support false .success platform).platform,
          sameRule support objData.obj rule = true) ↔ best.trackPriorityPresent = true)) ∧
    (∀ rule ∈ platform, (objView support).find self.byObj rule = none →
      rule ∈ (self.sync support false .success platform).platform) := by
  rw [sync_eq]
  have keys : entryKeys (self.afterDelete support false platform).1 = entryKeys self.byObj :=
    foldl_syncDeleteStep_entryKeys platform
  constructor
  · intro objData mem best found priority
    constructor
    · rintro ⟨rule, rule_mem, same⟩
      rcases of_mem_foldl_syncAddStep _ rule_mem with before | ⟨other, other_mem, rfl, wanted⟩
      · -- The first loop would have deleted the rule.
        by_contra absent
        obtain ⟨there, spared⟩ := (mem_foldl_platformDelete _ _ _).mp before
        have deleted : rule ∈ (self.afterDelete support false platform).2 :=
          mem_deleted there hashed mem (sameRule_symm same) found (Bool.eq_false_iff.mpr absent)
            priority
        exact absurd ((objView support).same_refl rule)
          (Bool.eq_false_iff.mp (spared rule deleted rfl))
      · -- The entry that brought the rule in is the same one.
        have other_key : (other.obj, other.objLst) ∈ entryKeys self.byObj := by
          rw [← keys]
          exact mem_map_of_mem other_mem
        obtain ⟨entry, entry_mem, entry_eq⟩ := mem_map.mp other_key
        obtain ⟨obj_eq, lst_eq⟩ := Prod.mk.inj entry_eq
        have entry_same : (objView support).same objData.obj entry.obj = true := by
          rw [obj_eq]
          exact same
        have unique : self.byObj.Pairwise fun a b =>
            (objView support).same ((objView support).key a) ((objView support).key b) = false :=
          hashed
        have equal := eq_of_same_of_unique unique mem entry_mem entry_same
        obtain ⟨other_best, other_found, present⟩ := wanted
        rw [← rulesObjGetBestData_congr lst_eq, ← equal, found, Option.some.injEq] at other_found
        rwa [other_found]
    · intro present
      have key : (objData.obj, objData.objLst) ∈
          entryKeys (self.afterDelete support false platform).1 := by
        rw [keys]
        exact mem_map_of_mem mem
      obtain ⟨entry, entry_mem, entry_eq⟩ := mem_map.mp key
      obtain ⟨obj_eq, lst_eq⟩ := Prod.mk.inj entry_eq
      rw [← obj_eq]
      refine exists_mem_foldl_syncAddStep entry_mem ?_ present priority
      rwa [rulesObjGetBestData_congr lst_eq]
  · intro rule mem untracked
    refine mem_foldl_syncAddStep_of_mem _ ((mem_foldl_platformDelete _ _ _).mpr ⟨mem, ?_⟩)
    intro other deleted _
    obtain ⟨-, objData, objData_mem, same, -⟩ := of_mem_deleted deleted
    by_contra other_same
    rw [Bool.not_eq_false] at other_same
    have rule_same := sameRule_trans (sameRule_symm other_same) same
    have different := find_eq_none.mp untracked objData objData_mem
    rw [show (objView support).same rule ((objView support).key objData) = true from rule_same]
      at different
    cases different

/-- A manager that wants one rule, on an empty platform. -/
theorem sync_achieves_addition :
    ∃ rule ∈ (((NMPRulesManager.new Nat).track ⟨true, true, true, true⟩ mainRule 10 1 none).sync
        ⟨true, true, true, true⟩ false .success []).platform,
      sameRule ⟨true, true, true, true⟩ mainRule rule = true :=
  ((sync_achieves ⟨true, true, true, true⟩
    ((NMPRulesManager.new Nat).track ⟨true, true, true, true⟩ mainRule 10 1 none)
    (pairwise_singleton _ _) []).1 ⟨mainRule, [0], .none⟩ (mem_singleton.mpr rfl)
    ⟨mainRule, 1, 10, true, false⟩ rfl (by decide)).mpr rfl

end NetworkManager.RulesManager
