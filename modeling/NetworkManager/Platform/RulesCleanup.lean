import NetworkManager.Platform.RulesOrder

/-!
# Cleaning up

When nothing is tracked any more, synchronising deletes the rules that the manager remembers, leaves
the other ones alone and forgets everything.
-/

namespace NetworkManager.RulesManager

open BucketView List NMPRulesManager

variable {support : KernelSupport} {Tag : Type}

section

variable {self : NMPRulesManager Tag}
  (untracked : ∀ objData, self.rulesObjGetBestData objData = none)

include untracked

theorem syncDelete_untracked (acc : List RulesObjData × List Rule) (platform : List Rule) :
    (platform.foldl (self.syncDeleteStep support false) acc).2 =
      acc.2 ++ platform.filter fun rule => ((objView support).find acc.1 rule).isSome := by
  induction platform generalizing acc with
  | nil => simp
  | cons plobj platform ih =>
    rw [foldl_cons, ih]
    unfold syncDeleteStep
    cases found : (objView support).find acc.1 plobj with
    | none => simp [found]
    | some objData =>
      simp only [untracked, deleteDecision, found, filter_cons_of_pos, Option.isSome_some,
        Bool.false_eq_true, if_false, if_true, append_assoc, singleton_append]
      refine congrArg (acc.2 ++ plobj :: ·) (filter_congr fun rule _ => ?_)
      rw [find_modify, Option.isSome_map]
      exact fun _ => rfl

theorem syncAdd_untracked (succeeds : Rule → Bool) (byObj : List RulesObjData)
    (acc : SyncAddState) : byObj.foldl (self.syncAddStep support succeeds) acc = acc := by
  induction byObj with
  | nil => rfl
  | cons objData byObj ih =>
    rw [foldl_cons, syncAddStep, untracked]
    exact ih

end

/-- However the rules were tracked before, and whatever happened to the platform: if nothing is
tracked any more, the next synchronisation deletes exactly the rules that have an entry, and leaves
neither records nor entries. -/
theorem run_sync_untracked [DecidableEq Tag] (support : KernelSupport) (platform : List Rule)
    (events : List (Event Tag)) (untracked : ∀ rule tag,
      ((machine support).run (System.initial Tag platform) events).tracked rule tag = none) :
    let system := (machine support).run (System.initial Tag platform) events
    let after := system.step support (.sync false .success)
    after.manager.byData = [] ∧ after.manager.byObj = [] ∧
      ∀ rule, rule ∈ after.platform ↔
        rule ∈ system.platform ∧ (objView support).find system.manager.byObj rule = none := by
  intro system after
  have in_order : InOrder support system :=
    (ownership_initial support Tag platform).inOrder.run events
  have no_records : system.manager.byData = [] := by
    refine eq_nil_iff_forall_not_mem.mpr fun record mem => ?_
    have tracked := (in_order.2 record.2.obj record.2.userTag record.2.dirty).mpr
      ⟨record, mem, (objView support).same_refl _, rfl, rfl⟩
    cases (untracked _ _).symm.trans tracked
  have no_best : ∀ objData, system.manager.rulesObjGetBestData objData = none := by
    intro objData
    rw [rulesObjGetBestData_eq_none]
    unfold data
    simp [no_records]
  refine ⟨no_records, ?_, fun rule => ?_⟩
  · exact congrArg SyncAddState.byObj (syncAdd_untracked no_best _ _ _)
  · have platform_eq : after.platform = _ :=
      congrArg SyncAddState.platform (syncAdd_untracked no_best _ _ _)
    rw [platform_eq, mem_foldl_platformDelete, syncDelete_untracked no_best]
    refine and_congr_right fun mem => ⟨fun apart => ?_, fun absent other deleted _ => ?_⟩
    · by_contra found
      cases (apart rule (mem_filter.mpr ⟨mem, Option.isSome_iff_ne_none.mpr found⟩) rfl).symm.trans
        ((objView support).same_refl rule)
    · rw [Bool.eq_false_iff]
      intro same
      have found := (mem_filter.mp deleted).2
      rw [find_congr same] at found
      cases found.symm.trans (congrArg Option.isSome absent)

theorem run_sync_untracked_own :
    ((machine ⟨true, true, true, true⟩).run (System.initial Nat []) [.track mainRule 10 1 none,
      .sync false .success, .untrack mainRule 1, .sync false .success]).manager.byObj = [] :=
  (run_sync_untracked ⟨true, true, true, true⟩ [] [.track mainRule 10 1 none,
    .sync false .success, .untrack mainRule 1] fun rule tag => by
      show trackedAfterUntrack _ (trackedAfterTrack _ (fun _ _ => none) _ 1 none) _ 1 rule tag = none
      grind [trackedAfterUntrack, trackedAfterTrack]).2.1

end NetworkManager.RulesManager
