import Mathlib.Data.List.Nodup

/-!
# Loops over lists

A loop that assigns values is described by the assignments that its turns make: what it leaves
somewhere is what the assignments there agree on.  A loop whose turns change different components
is described by each turn on its own.
-/

namespace Loop

open List

variable {State Item Component α : Type*} {step : State → Item → State} {items : List Item}
  (look : State → α)

theorem foldl_assign {assigns : Item → Bool} {value : α}
    (turn : ∀ state, ∀ item ∈ items, look (step state item) =
      if assigns item then value else look state) (state : State) :
    look (items.foldl step state) = if items.any assigns then value else look state := by
  induction items generalizing state with
  | nil => rfl
  | cons item items ih =>
    rw [foldl_cons, ih fun state other listed => turn state other (.tail _ listed),
      turn state item mem_cons_self, any_cons]
    cases assigns item <;> simp

theorem foldl_assign_at [DecidableEq Item] {place : Item} {condition assigned : Bool} {value : α}
    (turn : ∀ state, ∀ item ∈ items, look (step state item) =
      if decide (item = place) && condition then value else look state)
    (assigned_iff : place ∈ items ∧ condition = true ↔ assigned = true) (state : State) :
    look (items.foldl step state) = if assigned then value else look state := by
  rw [foldl_assign look turn]
  refine if_congr (Iff.trans ?_ assigned_iff) rfl rfl
  rw [any_eq_true]
  constructor
  · rintro ⟨item, listed, assigns⟩
    obtain ⟨same, holds⟩ := Bool.and_eq_true_iff.mp assigns
    exact ⟨of_decide_eq_true same ▸ listed, holds⟩
  · rintro ⟨listed, holds⟩
    exact ⟨place, listed, Bool.and_eq_true_iff.mpr ⟨decide_eq_true rfl, holds⟩⟩

theorem foldl_unchanged (turn : ∀ state, ∀ item ∈ items, look (step state item) = look state)
    (state : State) :
    look (items.foldl step state) = look state := by
  induction items generalizing state with
  | nil => rfl
  | cons item items ih =>
    rw [foldl_cons, ih fun state other listed => turn state other (.tail _ listed),
      turn state item mem_cons_self]

/-- In a loop over distinct items, each of which changes its own component only, an item finds its
component as it was before the loop, and it is left like this for the end. -/
theorem foldl_component (component : State → Item → Component)
    (own : ∀ state item other, other ≠ item → component (step state item) other =
      component state other) (distinct : items.Nodup) {item : Item} (listed : item ∈ items)
    (state : State) :
    ∃ before, component before item = component state item ∧
      component (items.foldl step state) item = component (step before item) item := by
  obtain ⟨first, last, rfl⟩ := append_of_mem listed
  obtain ⟨_, last_distinct, apart⟩ := nodup_append.mp distinct
  have not_first : item ∉ first := fun in_first => apart item in_first item mem_cons_self rfl
  have not_last : item ∉ last := (nodup_cons.mp last_distinct).1
  have unchanged : ∀ {items : List Item}, item ∉ items → ∀ state,
      component (items.foldl step state) item = component state item := by
    intro items absent
    have turn : ∀ state, ∀ other ∈ items, component (step state other) item =
        component state item :=
      fun state other listed => own state other item fun same => absent (same ▸ listed)
    exact foldl_unchanged (component · item) turn
  refine ⟨first.foldl step state, unchanged not_first state, ?_⟩
  rw [foldl_append, foldl_cons]
  exact unchanged not_last _

end Loop
