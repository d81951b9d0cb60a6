import Mathlib.Data.List.Basic
import Mathlib.Order.Compare

/-!
# The best item, kept up to date

The best of the candidates in a list, found by a scan from left to right.  Under a total order the
result depends on the items only, not on their order, so that it can be kept while items come and
go.
-/

namespace RunningBest

open List

variable {α : Type*}

section Definitions

variable (candidate : α → Bool) (cmp : α → α → Ordering)

def better (best : Option α) (item : α) : Option α :=
  if candidate item then
    match best with
    | none => some item
    | some current => if cmp current item = .gt then some item else some current
  else best

def scan (items : List α) : Option α := items.foldl (better candidate cmp) none

/-- No candidate is better, and without a best item there are no candidates. -/
def IsBest (items : List α) : Option α → Prop
  | none => ∀ item ∈ items, candidate item = false
  | some best => best ∈ items ∧ candidate best = true ∧
      ∀ item ∈ items, candidate item = true → cmp best item ≠ .gt

end Definitions

variable {candidate : α → Bool} {cmp : α → α → Ordering} {items others : List α} {best : Option α}

theorem IsBest.congr (is_best : IsBest candidate cmp items best)
    (mem_iff : ∀ item, item ∈ items ↔ item ∈ others) : IsBest candidate cmp others best := by
  cases best with
  | none => exact fun item mem => is_best item ((mem_iff item).mpr mem)
  | some best =>
    obtain ⟨mem, chosen, least⟩ := is_best
    exact ⟨(mem_iff best).mp mem, chosen, fun item item_mem => least item ((mem_iff item).mpr
      item_mem)⟩

theorem IsBest.subset (is_best : IsBest candidate cmp items best) (subset : others ⊆ items)
    (kept : ∀ item, best = some item → item ∈ others) : IsBest candidate cmp others best := by
  cases best with
  | none => exact fun item mem => is_best item (subset mem)
  | some best =>
    obtain ⟨-, chosen, least⟩ := is_best
    exact ⟨kept best rfl, chosen, fun item mem => least item (subset mem)⟩

section Lawful

variable [Std.TransCmp cmp]

theorem self_not_gt (item : α) : cmp item item ≠ .gt := by
  have equal : cmp item item = .eq := Std.ReflCmp.compare_self
  rw [equal]
  decide

variable (cmp) in
theorem swap_cmp (first second : α) : cmp first second = (cmp second first).swap :=
  Std.OrientedCmp.eq_swap

theorem IsBest.better (is_best : IsBest candidate cmp items best) (item : α) :
    IsBest candidate cmp (items ++ [item]) (better candidate cmp best item) := by
  unfold RunningBest.better
  cases chosen : candidate item with
  | false =>
    rw [if_neg (by decide)]
    cases best with
    | none =>
      intro other mem
      rcases mem_append.mp mem with mem | mem
      · exact is_best other mem
      · obtain rfl := mem_singleton.mp mem
        exact chosen
    | some best =>
      obtain ⟨best_mem, best_chosen, least⟩ := is_best
      refine ⟨mem_append_left _ best_mem, best_chosen, ?_⟩
      intro other mem other_chosen
      rcases mem_append.mp mem with mem | mem
      · exact least other mem other_chosen
      · obtain rfl := mem_singleton.mp mem
        rw [chosen] at other_chosen
        cases other_chosen
  | true =>
    rw [if_pos rfl]
    cases best with
    | none =>
      refine ⟨by simp, chosen, ?_⟩
      intro other mem other_chosen
      rcases mem_append.mp mem with mem | mem
      · rw [is_best other mem] at other_chosen
        cases other_chosen
      · obtain rfl := mem_singleton.mp mem
        exact self_not_gt _
    | some best =>
      obtain ⟨best_mem, best_chosen, least⟩ := is_best
      dsimp only
      by_cases worse : cmp best item = .gt
      · rw [if_pos worse]
        refine ⟨by simp, chosen, ?_⟩
        intro other mem other_chosen
        rcases mem_append.mp mem with mem | mem
        · have below : (cmp item best).isLE = true := by
            rw [swap_cmp cmp item best, worse]
            rfl
          have above : (cmp best other).isLE = true := by
            have := least other mem other_chosen
            cases compared : cmp best other <;> simp_all
          have both := Std.TransCmp.isLE_trans below above
          intro greater
          rw [greater] at both
          cases both
        · obtain rfl := mem_singleton.mp mem
          exact self_not_gt _
      · rw [if_neg worse]
        refine ⟨mem_append_left _ best_mem, best_chosen, ?_⟩
        intro other mem other_chosen
        rcases mem_append.mp mem with mem | mem
        · exact least other mem other_chosen
        · obtain rfl := mem_singleton.mp mem
          exact worse

theorem isBest_foldl (is_best : IsBest candidate cmp items best) (more : List α) :
    IsBest candidate cmp (items ++ more) (more.foldl (RunningBest.better candidate cmp) best) := by
  induction more generalizing items best with
  | nil => simpa using is_best
  | cons item more ih =>
    have next := ih (is_best.better item)
    rwa [append_assoc, singleton_append] at next

theorem isBest_scan (items : List α) : IsBest candidate cmp items (scan candidate cmp items) := by
  have none_best : IsBest candidate cmp [] none := by
    intro item mem
    cases mem
  have folded := isBest_foldl none_best items
  rwa [nil_append] at folded

variable [Std.LawfulEqCmp cmp]

theorem IsBest.unique {other : Option α} (first : IsBest candidate cmp items best)
    (second : IsBest candidate cmp items other) : best = other := by
  cases best with
  | none =>
    cases other with
    | none => rfl
    | some other =>
      have absent := first other second.1
      rw [second.2.1] at absent
      cases absent
  | some best =>
    cases other with
    | none =>
      have absent := second best first.1
      rw [first.2.1] at absent
      cases absent
    | some other =>
      have forward := first.2.2 other second.1 second.2.1
      have backward := second.2.2 best first.1 first.2.1
      rw [swap_cmp cmp other best] at backward
      have equal : cmp best other = .eq := by
        cases compared : cmp best other with
        | lt => simp [compared] at backward
        | eq => rfl
        | gt => exact absurd compared forward
      rw [Std.LawfulEqCmp.eq_of_compare equal]

theorem isBest_iff_scan : IsBest candidate cmp items best ↔ best = scan candidate cmp items := by
  constructor
  · intro is_best
    exact is_best.unique (isBest_scan items)
  · intro found
    rw [found]
    exact isBest_scan items

end Lawful

end RunningBest
