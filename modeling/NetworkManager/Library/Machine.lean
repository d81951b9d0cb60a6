import Mathlib.Data.List.Basic

/-!
# Guarded machines

A guarded machine is a deterministic transition function together with the inputs that its
environment may offer in each state.  A lawful run offers only such inputs.
-/

/-- A deterministic machine whose environment respects a guard. -/
structure GuardedMachine (State Input : Type*) where
  step : State → Input → State
  /-- The inputs the environment may offer. -/
  guard : State → Input → Prop

namespace GuardedMachine

variable {State Input : Type*}

def run (machine : GuardedMachine State Input) : State → List Input → State
  | state, [] => state
  | state, input :: inputs => machine.run (machine.step state input) inputs

/-- Every input of the sequence meets a condition in the state in which it is offered. -/
def Along (machine : GuardedMachine State Input) (condition : State → Input → Prop) :
    State → List Input → Prop
  | _, [] => True
  | state, input :: inputs =>
    condition state input ∧ machine.Along condition (machine.step state input) inputs

/-- Every input of the sequence meets the guard. -/
def Lawful (machine : GuardedMachine State Input) (state : State) (inputs : List Input) : Prop :=
  machine.Along machine.guard state inputs

/-- Every state of the run, the first and the last included, has a property. -/
def Throughout (machine : GuardedMachine State Input) (property : State → Prop) :
    State → List Input → Prop
  | state, [] => property state
  | state, input :: inputs =>
    property state ∧ machine.Throughout property (machine.step state input) inputs

/-- Some input of the sequence meets a condition in the state in which it is offered. -/
def Once (machine : GuardedMachine State Input) (condition : State → Input → Prop) :
    State → List Input → Prop
  | _, [] => False
  | state, input :: inputs =>
    condition state input ∨ machine.Once condition (machine.step state input) inputs

@[simp] theorem run_cons (machine : GuardedMachine State Input) (state : State) (input : Input)
    (inputs : List Input) :
    machine.run state (input :: inputs) = machine.run (machine.step state input) inputs := rfl

theorem run_concat (machine : GuardedMachine State Input) (state : State) (inputs : List Input)
    (input : Input) :
    machine.run state (inputs ++ [input]) = machine.step (machine.run state inputs) input := by
  induction inputs generalizing state with
  | nil => rfl
  | cons first inputs ih => exact ih (machine.step state first)

variable {condition : State → Input → Prop} {inputs : List Input}

section

variable (machine : GuardedMachine State Input)

include machine

theorem once_concat (state : State) (inputs : List Input) (input : Input) :
    machine.Once condition state (inputs ++ [input]) ↔
      machine.Once condition state inputs ∨ condition (machine.run state inputs) input := by
  induction inputs generalizing state with
  | nil => exact or_comm
  | cons first inputs ih =>
    rw [List.cons_append, Once, ih, Once, or_assoc]
    rfl

theorem along_of_forall (always : ∀ state input, condition state input) (state : State)
    (inputs : List Input) :
    machine.Along condition state inputs := by
  induction inputs generalizing state with
  | nil => trivial
  | cons input inputs ih => exact ⟨always state input, ih _⟩

theorem run_preserves {invariant : State → Prop}
    (preserves : ∀ state input, invariant state → machine.guard state input →
      invariant (machine.step state input)) {state : State} (holds : invariant state)
    (lawful : machine.Lawful state inputs) :
    invariant (machine.run state inputs) := by
  induction inputs generalizing state with
  | nil => exact holds
  | cons input inputs ih => exact ih (preserves state input holds lawful.1) lawful.2

/-- When an invariant that steps under a condition keep implies a property of these steps, all the
steps of a run that meet the condition have the property. -/
theorem along_of_invariant {invariant : State → Prop} {condition property : State → Input → Prop}
    (preserves : ∀ state input, invariant state → condition state input →
      invariant (machine.step state input))
    (implies : ∀ state input, invariant state → condition state input → property state input)
    {state : State} (holds : invariant state) (met : machine.Along condition state inputs) :
    machine.Along property state inputs := by
  induction inputs generalizing state with
  | nil => trivial
  | cons input inputs ih =>
    exact ⟨implies state input holds met.1, ih (preserves state input holds met.1) met.2⟩

/-- When a step keeps a property exactly under a condition, a run keeps it throughout exactly when
all its steps meet the condition. -/
theorem throughout_iff_along (invariant : State → Prop) {property : State → Prop}
    (preserves : ∀ state input, invariant state → machine.guard state input →
      invariant (machine.step state input))
    (step_iff : ∀ state input, invariant state → property state → machine.guard state input →
      (property (machine.step state input) ↔ condition state input)) {state : State}
    (holds : invariant state) (start : property state) (lawful : machine.Lawful state inputs) :
    machine.Throughout property state inputs ↔ machine.Along condition state inputs := by
  induction inputs generalizing state with
  | nil => exact iff_of_true start trivial
  | cons input inputs ih =>
    have next_iff := step_iff state input holds start lawful.1
    have next_holds := preserves state input holds lawful.1
    constructor
    · rintro ⟨-, later⟩
      have next : property (machine.step state input) := by
        cases inputs with
        | nil => exact later
        | cons _ _ => exact later.1
      exact ⟨next_iff.mp next, (ih next_holds next lawful.2).mp later⟩
    · rintro ⟨met, later⟩
      have next := next_iff.mpr met
      exact ⟨start, (ih next_holds next lawful.2).mpr later⟩

theorem run_append (state : State) (first last : List Input) :
    machine.run state (first ++ last) = machine.run (machine.run state first) last := by
  induction first generalizing state with
  | nil => rfl
  | cons input first ih => exact ih (machine.step state input)

theorem along_append (state : State) (first last : List Input) :
    machine.Along condition state (first ++ last) ↔
      machine.Along condition state first ∧
        machine.Along condition (machine.run state first) last := by
  induction first generalizing state with
  | nil => exact (iff_of_eq (true_and _)).symm
  | cons input first ih =>
    rw [List.cons_append, Along, ih, Along, and_assoc]
    rfl

theorem foldl_follows {Concrete Item : Type*} {look : Concrete → State}
    {turn : Concrete → Item → Concrete} {inputs : Item → List Input}
    (follows : ∀ concrete item, machine.Lawful (look concrete) (inputs item) →
      look (turn concrete item) = machine.run (look concrete) (inputs item)) {items : List Item}
    {concrete : Concrete} (lawful : machine.Lawful (look concrete) (items.flatMap inputs)) :
    look (items.foldl turn concrete) = machine.run (look concrete) (items.flatMap inputs) := by
  induction items generalizing concrete with
  | nil => rfl
  | cons item items ih =>
    rw [List.flatMap_cons] at lawful ⊢
    obtain ⟨here, later⟩ := (machine.along_append _ _ _).mp lawful
    have now := follows concrete item here
    rw [← now] at later
    rw [run_append, ← now]
    exact ih later

end

end GuardedMachine
