import Mathlib.Data.List.Nodup
import Mathlib.Data.List.Dedup
import Mathlib.Data.List.Perm.Subperm

/-!
# Loops that start again

A loop looks for an item that wants something no item serves.  When it finds one, it adds an item
that serves it, and starts again, because the items have changed.  It ends, after at most one restart
for everything that is wanted.
-/

/-- A loop over the items of a state, and what is known of it. -/
structure RestartLoop (State Item Target : Type*) where
  items : State → List Item
  /-- Whether the loop stops at an item. -/
  pending : State → Item → Bool
  /-- What the loop does at an item before it starts again. -/
  remedy : State → Item → State
  wants : Item → Bool
  target : Item → Target
  serves : Item → Target → Bool
  /-- The loop stops at items that want something no item serves. -/
  pending_iff : ∀ state item, pending state item = true ↔
    wants item = true ∧ ∀ other ∈ items state, serves other (target item) = false
  /-- Then an item is added that serves it and wants nothing. -/
  remedy_items : ∀ state item, pending state item = true → ∃ new,
    items (remedy state item) = items state ++ [new] ∧ wants new = false ∧
      serves new (target item) = true

namespace RestartLoop

open List

variable {State Item Target : Type*} (loop : RestartLoop State Item Target) {state : State}
  {item : Item}

theorem pending_of_remedy {other : Item} (stopped : loop.pending state item = true)
    (still : loop.pending (loop.remedy state item) other = true) :
    loop.pending state other = true ∧ loop.target other ≠ loop.target item := by
  obtain ⟨new, items_eq, -, serves⟩ := loop.remedy_items state item stopped
  obtain ⟨wants, unserved⟩ := (loop.pending_iff _ _).mp still
  rw [items_eq] at unserved
  refine ⟨(loop.pending_iff _ _).mpr ⟨wants, fun mem in_items => ?_⟩, fun same => ?_⟩
  · exact unserved mem (mem_append_left _ in_items)
  · have unserved_new := unserved new (mem_append_right _ (mem_singleton_self new))
    rw [same, serves] at unserved_new
    cases unserved_new

theorem length_pending_lt (listed : item ∈ loop.items state)
    (stopped : loop.pending state item = true) :
    ((loop.items (loop.remedy state item)).filter (loop.pending (loop.remedy state item))).length <
      ((loop.items state).filter (loop.pending state)).length := by
  obtain ⟨new, items_eq, unwanted, -⟩ := loop.remedy_items state item stopped
  have new_settled : loop.pending (loop.remedy state item) new = false := by
    rw [Bool.eq_false_iff]
    intro still
    rw [((loop.pending_iff _ _).mp still).1] at unwanted
    cases unwanted
  have item_settled : loop.pending (loop.remedy state item) item = false := by
    rw [Bool.eq_false_iff]
    exact fun still => (loop.pending_of_remedy stopped still).2 rfl
  have filter_new : [new].filter (loop.pending (loop.remedy state item)) = [] := by
    simp [new_settled]
  rw [items_eq, filter_append, filter_new, append_nil]
  have filter_twice : (loop.items state).filter (loop.pending (loop.remedy state item)) =
      ((loop.items state).filter (loop.pending state)).filter
        (loop.pending (loop.remedy state item)) := by
    rw [filter_filter]
    refine filter_congr fun other _ => ?_
    cases still : loop.pending (loop.remedy state item) other with
    | false => rfl
    | true => rw [(loop.pending_of_remedy stopped still).1, Bool.and_true]
  rw [filter_twice]
  have listed_pending : item ∈ (loop.items state).filter (loop.pending state) :=
    mem_filter.mpr ⟨listed, stopped⟩
  refine Nat.lt_of_le_of_ne (length_filter_le _ _) fun same => ?_
  have all_pending := length_filter_eq_length_iff.mp same item listed_pending
  rw [item_settled] at all_pending
  cases all_pending

/-- The state at the end of the loop, and the items at which it started again. -/
def run (state : State) : State × List Item :=
  match _found : (loop.items state).find? (loop.pending state) with
  | none => (state, [])
  | some item =>
    let rest := run (loop.remedy state item)
    (rest.1, item :: rest.2)
termination_by ((loop.items state).filter (loop.pending state)).length
decreasing_by
  exact loop.length_pending_lt (List.mem_of_find?_eq_some _found) (List.find?_some _found)

/-- What holds of the end of a loop: it may end where it is, and it may go on after a remedy. -/
theorem run_induction {motive : State → State × List Item → Prop}
    (ends : ∀ state, (∀ item ∈ loop.items state, loop.pending state item = false) →
      motive state (state, []))
    (restarts : ∀ state item rest, item ∈ loop.items state → loop.pending state item = true →
      motive (loop.remedy state item) rest → motive state (rest.1, item :: rest.2))
    (state : State) : motive state (loop.run state) := by
  fun_induction loop.run state with
  | case1 state none_found =>
    refine ends state fun item mem => ?_
    simpa using find?_eq_none.mp none_found item mem
  | case2 state item found rest ih =>
    exact restarts state item rest (List.mem_of_find?_eq_some found) (find?_some found) ih

theorem run_settled (state : State) :
    ∀ item ∈ loop.items (loop.run state).1, loop.pending (loop.run state).1 item = false :=
  loop.run_induction
    (motive := fun _ rest => ∀ item ∈ loop.items rest.1, loop.pending rest.1 item = false)
    (fun _ settled => settled) (fun _ _ _ _ _ ih => ih) state

theorem run_items (state : State) :
    ∃ added, loop.items (loop.run state).1 = loop.items state ++ added ∧
      ∀ new ∈ added, loop.wants new = false := by
  refine loop.run_induction (motive := fun state rest => ∃ added,
    loop.items rest.1 = loop.items state ++ added ∧ ∀ new ∈ added, loop.wants new = false)
    (fun state _ => ⟨[], by simp⟩) (fun state item rest _ stopped ih => ?_) state
  obtain ⟨new, items_eq, unwanted, -⟩ := loop.remedy_items state item stopped
  obtain ⟨added, rest_eq, added_unwanted⟩ := ih
  refine ⟨new :: added, ?_, forall_mem_cons.mpr ⟨unwanted, added_unwanted⟩⟩
  rw [rest_eq, items_eq, append_assoc]
  rfl

theorem run_restarts (state : State) :
    (∀ item ∈ (loop.run state).2, item ∈ loop.items state ∧ loop.pending state item = true) ∧
      ((loop.run state).2.map loop.target).Nodup := by
  refine loop.run_induction (motive := fun state rest =>
    (∀ item ∈ rest.2, item ∈ loop.items state ∧ loop.pending state item = true) ∧
      (rest.2.map loop.target).Nodup)
    (fun state _ => ⟨forall_mem_nil _, nodup_nil⟩)
    (fun state item rest listed stopped ih => ?_) state
  obtain ⟨later, distinct⟩ := ih
  obtain ⟨new, items_eq, unwanted, -⟩ := loop.remedy_items state item stopped
  have earlier : ∀ other ∈ rest.2, other ∈ loop.items state ∧
      loop.pending state other = true ∧ loop.target other ≠ loop.target item := by
    intro other mem
    obtain ⟨other_listed, still⟩ := later other mem
    refine ⟨?_, loop.pending_of_remedy stopped still⟩
    rw [items_eq] at other_listed
    rcases mem_append.mp other_listed with in_items | is_new
    · exact in_items
    · rw [mem_singleton.mp is_new] at still
      rw [((loop.pending_iff _ _).mp still).1] at unwanted
      cases unwanted
  refine ⟨forall_mem_cons.mpr ⟨⟨listed, stopped⟩, fun other mem =>
    ⟨(earlier other mem).1, (earlier other mem).2.1⟩⟩, nodup_cons.mpr ⟨?_, distinct⟩⟩
  rw [mem_map]
  rintro ⟨other, mem, same⟩
  exact (earlier other mem).2.2 same

theorem length_restarts_le [DecidableEq Target] (state : State) :
    (loop.run state).2.length ≤
      (((loop.items state).filter loop.wants).map loop.target).dedup.length := by
  obtain ⟨restarts, distinct⟩ := loop.run_restarts state
  rw [← length_map loop.target]
  refine (subperm_of_subset distinct fun target mem => ?_).length_le
  obtain ⟨item, item_mem, rfl⟩ := mem_map.mp mem
  obtain ⟨listed, stopped⟩ := restarts item item_mem
  rw [mem_dedup]
  exact mem_map_of_mem
    (mem_filter.mpr ⟨listed, ((loop.pending_iff _ _).mp stopped).1⟩)

end RestartLoop
