import Mathlib.Data.List.Basic

/-!
# Scans of signed conditions

A list has conditions and exceptions.  A scan finds out whether there are any of a sign, and whether
any of a sign is met.  It asks a condition only as long as none of its sign is met, and asking can
change a state that keeps what was computed for the answer.  If the answers do not depend on what
the state keeps, the scan finds what the list as a whole says, in any order and with repetitions.
-/

namespace SignedScan

open List

/-- What a scan has found. -/
structure Found where
  hasExcept : Bool := false
  hasNotExcept : Bool := false
  hasMatch : Bool := false
  hasMatchExcept : Bool := false
  deriving DecidableEq, Repr

variable {Item State : Type*}

section Definitions

variable (except : Item → Bool) (ask : Item → State → Bool × State) (holds : Item → Bool)

def step (scanned : Found × State) (item : Item) : Found × State :=
  let found := if except item then { scanned.1 with hasExcept := true }
    else { scanned.1 with hasNotExcept := true }
  if (except item && found.hasMatchExcept) || (!except item && found.hasMatch) then
    -- The answer does not give new information.
    (found, scanned.2)
  else
    let (met, state) := ask item scanned.2
    if !met then (found, state)
    else if except item then ({ found with hasMatchExcept := true }, state)
    else ({ found with hasMatch := true }, state)

def scan (items : List Item) (state : State) : Found × State :=
  items.foldl (step except ask) ({}, state)

/-- What a list says, with every condition asked. -/
def declared (items : List Item) : Found where
  hasExcept := items.any except
  hasNotExcept := items.any fun item => !except item
  hasMatch := items.any fun item => !except item && holds item
  hasMatchExcept := items.any fun item => except item && holds item

/-- The answers are the same ones whatever the state keeps. -/
structure Answers (Consistent : State → Prop) : Prop where
  answer : ∀ {state}, Consistent state → ∀ item, (ask item state).1 = holds item
  keeps : ∀ {state}, Consistent state → ∀ item, Consistent (ask item state).2

end Definitions

def Found.merge (first second : Found) : Found where
  hasExcept := first.hasExcept || second.hasExcept
  hasNotExcept := first.hasNotExcept || second.hasNotExcept
  hasMatch := first.hasMatch || second.hasMatch
  hasMatchExcept := first.hasMatchExcept || second.hasMatchExcept

variable {except : Item → Bool} {ask : Item → State → Bool × State} {holds : Item → Bool}
  {Consistent : State → Prop} {state : State}

theorem Found.merge_assoc (first second third : Found) :
    (first.merge second).merge third = first.merge (second.merge third) := by
  simp only [merge, Bool.or_assoc]

@[simp]
theorem Found.empty_merge (found : Found) : Found.merge {} found = found := by
  simp only [merge, Bool.false_or]

@[simp]
theorem Found.merge_declared_nil (found : Found) :
    found.merge (declared except holds []) = found := by
  simp only [merge, declared, any_nil, Bool.or_false]

theorem declared_cons (item : Item) (items : List Item) :
    declared except holds (item :: items) =
      (declared except holds [item]).merge (declared except holds items) := by
  simp only [declared, Found.merge, any_cons, any_nil, Bool.or_false]

variable (except) in
/-- A turn finds what its item says, whether the item is asked or not. -/
theorem step_found (answers : Answers ask holds Consistent) (consistent : Consistent state)
    (found : Found) (item : Item) :
    (step except ask (found, state) item).1 = found.merge (declared except holds [item]) ∧
      Consistent (step except ask (found, state) item).2 := by
  have answer := answers.answer consistent item
  have keeps := answers.keeps consistent item
  unfold step
  generalize ask item state = asked at answer keeps
  obtain ⟨met, next⟩ := asked
  dsimp only at answer keeps
  subst answer
  obtain ⟨hasExcept, hasNotExcept, hasMatch, hasMatchExcept⟩ := found
  cases sign : except item with
  | true =>
    cases hasMatchExcept with
    | true => simp [declared, Found.merge, sign, consistent]
    | false => cases met : holds item <;> simp [declared, Found.merge, sign, met, keeps]
  | false =>
    cases hasMatch with
    | true => simp [declared, Found.merge, sign, consistent]
    | false => cases met : holds item <;> simp [declared, Found.merge, sign, met, keeps]

theorem foldl_step_found (answers : Answers ask holds Consistent) (items : List Item) :
    ∀ (found : Found) (state : State), Consistent state →
      (items.foldl (step except ask) (found, state)).1 =
        found.merge (declared except holds items) := by
  induction items with
  | nil =>
    intro found state _
    exact (Found.merge_declared_nil found).symm
  | cons item items ih =>
    intro found state consistent
    obtain ⟨item_found, item_consistent⟩ := step_found except answers consistent found item
    have rest_found := ih (step except ask (found, state) item).1 _ item_consistent
    rw [foldl_cons, rest_found, item_found, Found.merge_assoc, ← declared_cons]

theorem scan_found (answers : Answers ask holds Consistent) (consistent : Consistent state)
    (items : List Item) : (scan except ask items state).1 = declared except holds items := by
  rw [scan, foldl_step_found answers items {} state consistent, Found.empty_merge]

theorem any_congr {items others : List Item} (same : ∀ item, item ∈ items ↔ item ∈ others)
    (p : Item → Bool) : items.any p = others.any p := by
  rw [Bool.eq_iff_iff, any_eq_true, any_eq_true]
  simp only [same]

theorem declared_congr {items others : List Item} (same : ∀ item, item ∈ items ↔ item ∈ others) :
    declared except holds items = declared except holds others := by
  simp only [declared, any_congr same]

end SignedScan
