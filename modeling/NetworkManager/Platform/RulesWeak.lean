import NetworkManager.Platform.RulesOwnership
import NetworkManager.Platform.RulesIdempotent

/-!
# Rules that are tracked weakly

A rule with priority zero is restored if the manager removed it, and is left alone otherwise.  What
the manager did to the rule is remembered in the state of its entry.  The state tells of a removal
that was asked for, or of a user that took the rule over from another one.
-/

namespace NetworkManager.RulesManager

open List NMPRulesManager

variable {support : KernelSupport} {Tag : Type} [DecidableEq Tag] {self : NMPRulesManager Tag}

/-- The event is a synchronisation that asks for the deletion of the rule. -/
def Event.Deletes (support : KernelSupport) (rule : Rule) (system : System Tag) : Event Tag → Prop
  | .sync keepDeletedRules outcome =>
    ∃ deleted ∈ (system.manager.sync support keepDeletedRules outcome system.platform).deleted,
      sameRule support deleted rule = true
  | _ => False

/-- The event is a call that tracks the rule and untracks it for another tag. -/
def Event.TakesOver (support : KernelSupport) (rule : Rule) (system : System Tag) : Event Tag → Prop
  | .track tracked priority userTag userTagUntrack =>
    system.manager.takesOver support tracked priority userTag userTagUntrack = true ∧
      sameRule support tracked rule = true
  | _ => False

namespace NMPRulesManager

section

variable {keepDeletedRules : Bool} {acc : List RulesObjData × List Rule}

omit [DecidableEq Tag] in
/-- The first loop remembers a removal only if it asks for one or remembered one before. -/
theorem deleteDecision_state (best : Option (RulesData Tag)) (keepDeletedRules : Bool)
    (state : ConfigState) :
    ((deleteDecision best keepDeletedRules state).1 = .ownedByUs → state = .ownedByUs) ∧
    ((deleteDecision best keepDeletedRules state).1 = .removedByUs →
      state = .removedByUs ∨ (deleteDecision best keepDeletedRules state).2 = true) := by
  cases best with
  | none => cases keepDeletedRules <;> cases state <;> simp [deleteDecision]
  | some best =>
    obtain ⟨obj, userTag, priority, wanted, dirty⟩ := best
    by_cases weak : priority = 0
    · cases wanted <;> cases keepDeletedRules <;> cases state <;> simp [deleteDecision, weak]
    · cases wanted <;> cases keepDeletedRules <;> cases state <;> simp [deleteDecision, weak]

/-- What an entry remembers, compared with an earlier entry of its rule. -/
structure FollowsFrom (support : KernelSupport) (deleted : List Rule) (old new : RulesObjData) :
    Prop where
  obj : old.obj = new.obj
  objLst : old.objLst = new.objLst
  owned : new.configState = .ownedByUs → old.configState = .ownedByUs
  removed : new.configState = .removedByUs → old.configState = .removedByUs ∨
    ∃ rule ∈ deleted, sameRule support rule new.obj = true

theorem FollowsFrom.trans {first second : List Rule} {a b c : RulesObjData}
    (one : FollowsFrom support first a b) (two : FollowsFrom support second b c)
    (subset : first ⊆ second) : FollowsFrom support second a c where
  obj := one.obj.trans two.obj
  objLst := one.objLst.trans two.objLst
  owned is_owned := one.owned (two.owned is_owned)
  removed is_removed := by
    rcases two.removed is_removed with before | deleted
    · rcases one.removed before with first_removed | ⟨rule, mem, same⟩
      · exact .inl first_removed
      · rw [two.obj] at same
        exact .inr ⟨rule, subset mem, same⟩
    · exact .inr deleted

omit [DecidableEq Tag] in
theorem followsFrom_syncDeleteStep
    (unique : acc.1.Pairwise fun a b => sameRule support a.obj b.obj = false) (plobj : Rule)
    {entry : RulesObjData}
    (mem : entry ∈ (self.syncDeleteStep support keepDeletedRules acc plobj).1) :
    ∃ old ∈ acc.1, FollowsFrom support
      (self.syncDeleteStep support keepDeletedRules acc plobj).2 old entry := by
  cases found : (objView support).find acc.1 plobj with
  | none =>
    have same_acc : self.syncDeleteStep support keepDeletedRules acc plobj = acc := by
      unfold syncDeleteStep
      rw [found]
    rw [same_acc] at mem
    exact ⟨entry, mem, rfl, rfl, id, .inl⟩
  | some home =>
    have entries : (self.syncDeleteStep support keepDeletedRules acc plobj).1 =
        (objView support).modify acc.1 plobj fun objData =>
          { objData with configState := (deleteDecision (self.rulesObjGetBestData home)
              keepDeletedRules home.configState).1 } := by
      unfold syncDeleteStep
      rw [found]
    rw [entries] at mem
    obtain ⟨old, old_mem, rfl⟩ := mem_map.mp mem
    by_cases same : (objView support).same plobj ((objView support).key old) = true
    · have old_found := BucketView.find_eq_some_of_unique unique old_mem same
      rw [found, Option.some.injEq] at old_found
      subst old_found
      rw [if_pos same]
      obtain ⟨owned, removed⟩ := deleteDecision_state (self.rulesObjGetBestData home)
        keepDeletedRules home.configState
      refine ⟨home, old_mem, rfl, rfl, owned, fun is_removed => ?_⟩
      rcases removed is_removed with before | deleted
      · exact .inl before
      · exact .inr ⟨plobj, mem_syncDeleteStep.mpr (.inr ⟨rfl, home, found, deleted⟩), same⟩
    · rw [if_neg same]
      exact ⟨old, old_mem, rfl, rfl, id, .inl⟩

omit [DecidableEq Tag] in
theorem followsFrom_afterDelete
    (unique : acc.1.Pairwise fun a b => sameRule support a.obj b.obj = false)
    (platform : List Rule) {entry : RulesObjData}
    (mem : entry ∈ (platform.foldl (self.syncDeleteStep support keepDeletedRules) acc).1) :
    ∃ old ∈ acc.1, FollowsFrom support
      (platform.foldl (self.syncDeleteStep support keepDeletedRules) acc).2 old entry := by
  induction platform generalizing acc with
  | nil => exact ⟨entry, mem, rfl, rfl, id, .inl⟩
  | cons plobj platform ih =>
    have keys : (self.syncDeleteStep support keepDeletedRules acc plobj).1.map
        (fun objData => ((objView support).key objData, (objView support).ids objData)) =
        acc.1.map fun objData => ((objView support).key objData, (objView support).ids objData) :=
      syncDeleteStep_entryKeys plobj
    obtain ⟨middle, middle_mem, later⟩ := ih (BucketView.unique_congr keys unique) mem
    obtain ⟨old, old_mem, first⟩ := followsFrom_syncDeleteStep unique plobj middle_mem
    refine ⟨old, old_mem, first.trans later fun rule deleted => ?_⟩
    exact mem_foldl_of_mem platform deleted

end

section

variable {succeeds : Rule → Bool}

omit [DecidableEq Tag]

/-- The second loop remembers a removal only if one was remembered, or the rule was taken over. -/
theorem addDecision_state (best : RulesData Tag) (state : ConfigState) :
    ((addDecision best state).1 = .ownedByUs → state = .ownedByUs) ∧
    ((addDecision best state).1 = .removedByUs → state = .removedByUs ∨ state = .ownedByUs) := by
  obtain ⟨obj, userTag, priority, wanted, dirty⟩ := best
  by_cases weak : priority = 0
  · cases wanted <;> cases state <;> simp [addDecision, weak]
  · cases wanted <;> cases state <;> simp [addDecision, weak]

theorem syncAdd_entries (byObj : List RulesObjData) (acc : SyncAddState) {entry : RulesObjData}
    (mem : entry ∈ (byObj.foldl (self.syncAddStep support succeeds) acc).byObj) :
    entry ∈ acc.byObj ∨ ∃ old ∈ byObj, old.obj = entry.obj ∧
      (entry.configState = .ownedByUs → old.configState = .ownedByUs) ∧
      (entry.configState = .removedByUs →
        old.configState = .removedByUs ∨ old.configState = .ownedByUs) := by
  induction byObj generalizing acc with
  | nil => exact .inl mem
  | cons first byObj ih =>
    rcases ih _ mem with before | ⟨old, old_mem, follows⟩
    · have turn := self.syncAddTurn support succeeds acc first
      generalize self.syncAddStep support succeeds acc first = after at turn before
      cases turn with
      | dropped unrecorded => exact .inl before
      | added best found wanted missing =>
        rcases mem_append.mp before with before | before
        · exact .inl before
        · rw [mem_singleton.mp before]
          exact .inr ⟨first, mem_cons_self, rfl, nofun, nofun⟩
      | kept best found present =>
        rcases mem_append.mp before with before | before
        · exact .inl before
        · rw [mem_singleton.mp before]
          exact .inr ⟨first, mem_cons_self, rfl, addDecision_state best first.configState⟩
    · exact .inr ⟨old, mem_cons_of_mem first old_mem, follows⟩

theorem of_mem_added (byObj : List RulesObjData) (acc : SyncAddState) {rule : Rule}
    (mem : rule ∈ (byObj.foldl (self.syncAddStep support succeeds) acc).added) :
    rule ∈ acc.added ∨ ∃ entry ∈ byObj, entry.obj = rule ∧
      ∃ best, self.rulesObjGetBestData entry = some best ∧
        (addDecision best entry.configState).2 = true := by
  induction byObj generalizing acc with
  | nil => exact .inl mem
  | cons first byObj ih =>
    rcases ih _ mem with before | ⟨entry, entry_mem, found⟩
    · have turn := self.syncAddTurn support succeeds acc first
      generalize self.syncAddStep support succeeds acc first = after at turn before
      cases turn with
      | dropped unrecorded => exact .inl before
      | added best found wanted missing =>
        rcases mem_append.mp before with before | before
        · exact .inl before
        · exact .inr ⟨first, mem_cons_self, (mem_singleton.mp before).symm, best, found, wanted⟩
      | kept best found present => exact .inl before
    · exact .inr ⟨entry, mem_cons_of_mem first entry_mem, found⟩

end

end NMPRulesManager

/-- The states of the entries tell what happened to their rules in a run. -/
structure Remembers (support : KernelSupport) (start : System Tag) (events : List (Event Tag)) :
    Prop where
  owned : ∀ objData ∈ ((machine support).run start events).manager.byObj,
    objData.configState = .ownedByUs →
      (machine support).Once (Event.TakesOver support objData.obj) start events
  /-- A rule that is removed has been deleted or taken over. -/
  removed : ∀ objData ∈ ((machine support).run start events).manager.byObj,
    objData.configState = .removedByUs →
      (machine support).Once (Event.Deletes support objData.obj) start events ∨
        (machine support).Once (Event.TakesOver support objData.obj) start events

section Runs

variable {start : System Tag} {events : List (Event Tag)} {event : Event Tag}

section

variable (remembers : Remembers support start events)

include remembers

theorem Remembers.of_entries
    (entries : ∀ objData ∈ ((machine support).run start (events ++ [event])).manager.byObj,
      objData.configState ≠ .none →
        (∃ old ∈ ((machine support).run start events).manager.byObj, old.obj = objData.obj ∧
          old.configState = objData.configState) ∨
        (objData.configState = .ownedByUs ∧
          event.TakesOver support objData.obj ((machine support).run start events))) :
    Remembers support start (events ++ [event]) := by
  constructor
  · intro objData mem owned
    rw [GuardedMachine.once_concat]
    rcases entries objData mem (owned ▸ ConfigState.noConfusion) with
      ⟨old, old_mem, old_obj, old_state⟩ | ⟨-, taken⟩
    · have before := remembers.owned old old_mem (old_state.trans owned)
      rw [old_obj] at before
      exact .inl before
    · exact .inr taken
  · intro objData mem removed
    rw [GuardedMachine.once_concat, GuardedMachine.once_concat]
    rcases entries objData mem (removed ▸ ConfigState.noConfusion) with
      ⟨old, old_mem, old_obj, old_state⟩ | ⟨owned, -⟩
    · have before := remembers.removed old old_mem (old_state.trans removed)
      rw [old_obj] at before
      exact before.imp .inl .inl
    · rw [removed] at owned
      cases owned

theorem Remembers.sync (in_order : InOrder support ((machine support).run start events))
    (keepDeletedRules : Bool) (outcome : PlatformOutcome) :
    Remembers support start (events ++ [.sync keepDeletedRules outcome]) := by
  generalize system_eq : (machine support).run start events = system at in_order
  have unique : system.manager.byObj.Pairwise fun a b => sameRule support a.obj b.obj = false :=
    in_order.1.byObj.unique
  -- An entry after the run goes back to one before it.
  have entries : ∀ objData ∈ ((machine support).run start
      (events ++ [.sync keepDeletedRules outcome])).manager.byObj,
      ∃ old ∈ system.manager.byObj, old.obj = objData.obj ∧
        (objData.configState = .ownedByUs → old.configState = .ownedByUs) ∧
        (objData.configState = .removedByUs → old.configState = .removedByUs ∨
          old.configState = .ownedByUs ∨
          Event.Deletes support objData.obj system (.sync keepDeletedRules outcome)) := by
    intro objData mem
    rw [GuardedMachine.run_concat, system_eq] at mem
    have mem : objData ∈ (system.manager.afterAdd support keepDeletedRules outcome
        system.platform).byObj := mem
    rcases syncAdd_entries _ _ mem with absurd_mem | ⟨middle, middle_mem, middle_obj, owned, removed⟩
    · cases absurd_mem
    · obtain ⟨old, old_mem, follows⟩ := followsFrom_afterDelete unique system.platform middle_mem
      refine ⟨old, old_mem, follows.obj.trans middle_obj, fun is_owned => follows.owned
        (owned is_owned), fun is_removed => ?_⟩
      rcases removed is_removed with middle_removed | middle_owned
      · rcases follows.removed middle_removed with old_removed | deleted
        · exact .inl old_removed
        · rw [middle_obj] at deleted
          exact .inr (.inr deleted)
      · exact .inr (.inl (follows.owned middle_owned))
  subst system_eq
  constructor
  · intro objData mem is_owned
    obtain ⟨old, old_mem, old_obj, owned, -⟩ := entries objData mem
    have before := remembers.owned old old_mem (owned is_owned)
    rw [old_obj] at before
    exact ((machine support).once_concat _ _ _).mpr (.inl before)
  · intro objData mem is_removed
    obtain ⟨old, old_mem, old_obj, -, removed⟩ := entries objData mem
    rw [GuardedMachine.once_concat, GuardedMachine.once_concat]
    rcases removed is_removed with old_removed | old_owned | deleted
    · have before := remembers.removed old old_mem old_removed
      rw [old_obj] at before
      exact before.imp .inl .inl
    · have before := remembers.owned old old_mem old_owned
      rw [old_obj] at before
      exact .inr (.inl before)
    · exact .inl (.inr deleted)

theorem Remembers.step (in_order : InOrder support ((machine support).run start events))
    (event : Event Tag) :
    Remembers support start (events ++ [event]) := by
  cases event with
  | sync keepDeletedRules outcome => exact remembers.sync in_order keepDeletedRules outcome
  | track rule priority userTag userTagUntrack =>
    refine remembers.of_entries fun objData mem touched => ?_
    rw [GuardedMachine.run_concat] at mem
    exact track_entries rule priority userTag userTagUntrack mem touched
  | untrack rule userTag =>
    refine remembers.of_entries fun objData mem touched => .inl ?_
    rw [GuardedMachine.run_concat] at mem
    exact entriesFrom_untrackRule rule userTag objData mem touched
  | setDirty userTag =>
    refine remembers.of_entries fun objData mem touched => .inl ?_
    rw [GuardedMachine.run_concat] at mem
    exact entriesFrom_setDirty userTag objData mem touched
  | untrackAll userTag all =>
    refine remembers.of_entries fun objData mem touched => .inl ?_
    rw [GuardedMachine.run_concat] at mem
    exact entriesFrom_untrackAll userTag all objData mem touched
  | externalAdd rule =>
    refine remembers.of_entries fun objData mem _ => .inl ?_
    rw [GuardedMachine.run_concat] at mem
    change objData ∈ (System.step support _ (.externalAdd rule)).manager.byObj at mem
    unfold System.step at mem
    dsimp only at mem
    split at mem
    · exact ⟨objData, mem, rfl, rfl⟩
    · exact ⟨objData, mem, rfl, rfl⟩
  | externalRemove rule =>
    refine remembers.of_entries fun objData mem _ => .inl ?_
    rw [GuardedMachine.run_concat] at mem
    exact ⟨objData, mem, rfl, rfl⟩

end

variable (support) in
/-- In every run the tables are in order, weakly tracked rules shall be present, and the states of
the entries are right. -/
theorem run_remembers (platform : List Rule) (events : List (Event Tag)) :
    InOrder support ((machine support).run (System.initial Tag platform) events) ∧
      ((machine support).run (System.initial Tag platform) events).manager.WeakPresent ∧
      Remembers support (System.initial Tag platform) events := by
  induction events using reverseRecOn with
  | nil =>
    have initial := ownership_initial support Tag platform
    exact ⟨initial.inOrder, initial.weak, nofun, nofun⟩
  | append_singleton events event ih =>
    obtain ⟨in_order, weak, remembers⟩ := ih
    rw [GuardedMachine.run_concat]
    exact ⟨in_order.step event, WeakPresent.step in_order weak event, remembers.step in_order event⟩

end Runs

/-- In every run, a rule whose best record has priority zero is not deleted.  It is added only if
its entry remembers a removal, which was asked for before unless the rule was taken over, or that the
rule was taken over. -/
theorem run_weaklyTracked (support : KernelSupport) (platform : List Rule)
    (events : List (Event Tag)) (keepDeletedRules : Bool) (outcome : PlatformOutcome) :
    let start := System.initial Tag platform
    let system := (machine support).run start events
    let result := system.manager.sync support keepDeletedRules outcome system.platform
    ∀ objData ∈ system.manager.byObj, ∀ best,
      system.manager.rulesObjGetBestData objData = some best → best.trackPriorityVal = 0 →
        (∀ rule ∈ result.deleted, sameRule support rule objData.obj = false) ∧
        ∀ rule ∈ result.added, sameRule support rule objData.obj = true →
          (objData.configState = .removedByUs ∧
            ((machine support).Once (Event.Deletes support objData.obj) start events ∨
              (machine support).Once (Event.TakesOver support objData.obj) start events)) ∨
          (objData.configState = .ownedByUs ∧
            (machine support).Once (Event.TakesOver support objData.obj) start events) := by
  intro start system result objData mem best found zero
  obtain ⟨in_order, weak, remembers⟩ := run_remembers support platform events
  have unique : system.manager.byObj.Pairwise fun a b => sameRule support a.obj b.obj = false :=
    in_order.1.byObj.unique
  have present : best.trackPriorityPresent = true := by
    obtain ⟨id, -, best_mem⟩ := exists_of_best found
    exact weak (id, best) best_mem zero
  have not_deleted : ∀ rule ∈ result.deleted, sameRule support rule objData.obj = false := by
    intro rule deleted
    obtain ⟨-, other, other_mem, other_same, absent⟩ := of_mem_deleted deleted
    by_contra same
    rw [Bool.not_eq_false] at same
    have equal := entry_eq_of_same unique mem other_mem
      (sameRule_trans (sameRule_symm same) other_same)
    subst equal
    rw [absent best found] at present
    cases present
  refine ⟨not_deleted, fun rule added same => ?_⟩
  rcases of_mem_added _ _ added with absurd_mem | ⟨entry, entry_mem, rfl, wanted, wanted_found, asks⟩
  · cases absurd_mem
  · obtain ⟨old, old_mem, follows⟩ := followsFrom_afterDelete unique system.platform entry_mem
    -- The entry that asks for the rule is the one of the weakly tracked rule.
    have equal : old = objData := by
      refine entry_eq_of_same unique old_mem mem ?_
      rw [follows.obj]
      exact same
    subst equal
    have best_eq : wanted = best := by
      have found_again : system.manager.rulesObjGetBestData entry = some best := by
        rw [← rulesObjGetBestData_congr follows.objLst]
        exact found
      exact Option.some.inj (wanted_found.symm.trans found_again)
    subst best_eq
    have state : entry.configState = .removedByUs ∨ entry.configState = .ownedByUs := by
      have not_absent : ¬ wanted.trackPriorityPresent = false := by
        rw [present]
        exact Bool.noConfusion
      unfold addDecision at asks
      rw [if_neg not_absent, if_pos zero] at asks
      exact of_decide_eq_true asks
    rcases state with removed | owned
    · rcases follows.removed removed with old_removed | ⟨deleted, deleted_mem, deleted_same⟩
      · exact .inl ⟨old_removed, remembers.removed old old_mem old_removed⟩
      · have different := not_deleted deleted deleted_mem
        rw [sameRule_trans deleted_same same] at different
        cases different
    · have old_owned := follows.owned owned
      exact .inr ⟨old_owned, remembers.owned old old_mem old_owned⟩

/-- A weakly tracked rule is removed for another user, who does not want that any more. -/
def restoringEvents : List (Event Nat) :=
  [.track mainRule 0 1 none, .track mainRule (-10) 2 none, .sync false .success,
    .untrack mainRule 2]

/-- A rule that we removed is restored when it is only tracked weakly. -/
theorem run_weaklyTracked_restored :
    (machine ⟨true, true, true, true⟩).Once (Event.Deletes ⟨true, true, true, true⟩ mainRule)
        (System.initial Nat [mainRule]) restoringEvents ∨
      (machine ⟨true, true, true, true⟩).Once (Event.TakesOver ⟨true, true, true, true⟩ mainRule)
        (System.initial Nat [mainRule]) restoringEvents := by
  have records : ((machine ⟨true, true, true, true⟩).run (System.initial Nat [mainRule])
      restoringEvents).manager.byData = [(0, ⟨mainRule, 1, 0, true, false⟩)] := rfl
  have found : ((machine ⟨true, true, true, true⟩).run (System.initial Nat [mainRule])
      restoringEvents).manager.rulesObjGetBestData ⟨mainRule, [0], .removedByUs⟩ =
        some ⟨mainRule, 1, 0, true, false⟩ := by
    unfold NMPRulesManager.rulesObjGetBestData NMPRulesManager.data
    rw [records]
    rfl
  have run := run_weaklyTracked ⟨true, true, true, true⟩ [mainRule] restoringEvents false .success
    ⟨mainRule, [0], .removedByUs⟩ (mem_singleton.mpr rfl) _ found rfl
  rcases run.2 mainRule (mem_singleton.mpr rfl) rfl with ⟨-, before⟩ | ⟨owned, -⟩
  · exact before
  · cases owned

/-- A rule that was never deleted is added, because it was taken over. -/
theorem run_weaklyTracked_fails :
    let support : KernelSupport := ⟨true, true, true, true⟩
    let events : List (Event Nat) := [.track mainRule 0 1 none, .track mainRule 0 2 (some 1)]
    let system := (machine support).run (System.initial Nat []) events
    let result := system.manager.sync support false .success system.platform
    (system.manager.byObj.map fun objData => (objData.configState,
        (system.manager.rulesObjGetBestData objData).map RulesData.trackPriorityVal)) =
      [(.ownedByUs, some 0)] ∧
    result.added.length = 1 ∧
    ¬ (machine support).Once (Event.Deletes support mainRule) (System.initial Nat []) events := by
  refine ⟨by decide +kernel, by decide +kernel, ?_⟩
  rintro (absurd_event | absurd_event | absurd_event)
  · exact absurd_event
  · exact absurd_event
  · exact absurd_event

end NetworkManager.RulesManager
