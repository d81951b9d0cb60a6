import Mathlib.Order.Basic

/-!
# Bisection

A search in a range of integers with a test that says of an index whether the boundary is above it.
The test may fail.  The upper bound itself may be out of range if the boundary is below it: it is
not looked at unless nothing else is left.
-/

namespace Bisection

/-- The middle of a range, rounded down. -/
def middle (low high : Int) : Int := low + (high - low) / 2

theorem middle_mem {low high : Int} (le : low ≤ high) :
    low ≤ middle low high ∧ middle low high ≤ high := by
  unfold middle
  omega

def search (below : Int → Option Bool) (low high : Int) : Option Int :=
  if low ≤ high then
    match below (middle low high) with
    | none => none
    | some true => search below (middle low high + 1) high
    | some false => search below low (middle low high - 1)
  else some low
  termination_by (high + 1 - low).toNat
  decreasing_by all_goals unfold middle; omega

variable {below : Int → Option Bool} {low high boundary : Int}

theorem search_eq (lower : ∀ i, low ≤ i → i < boundary → below i = some true)
    (upper : ∀ i, boundary ≤ i → i < high → below i = some false)
    (top : boundary = high → below high = some false)
    (low_le : low ≤ boundary) (le_high : boundary ≤ high + 1) :
    search below low high = some boundary := by
  fun_induction search below low high with
  | case1 low high more missing =>
    unfold middle at missing
    by_cases before : low + (high - low) / 2 < boundary
    · rw [lower _ (by omega) before] at missing
      cases missing
    · by_cases last : low + (high - low) / 2 = high
      · rw [last, top (by omega)] at missing
        cases missing
      · rw [upper _ (by omega) (by omega)] at missing
        cases missing
  | case2 low high more is_below ih =>
    have before : middle low high < boundary := by
      by_contra after
      unfold middle at after is_below
      by_cases last : low + (high - low) / 2 = high
      · rw [last, top (by omega)] at is_below
        cases is_below
      · rw [upper _ (by omega) (by omega)] at is_below
        cases is_below
    unfold middle at before ih
    exact ih (fun i le => lower i (by omega)) upper top (by omega) le_high
  | case3 low high more is_above ih =>
    have after : boundary ≤ middle low high := by
      by_contra before
      rw [lower _ (by unfold middle; omega) (by omega)] at is_above
      cases is_above
    unfold middle at after ih
    exact ih lower (fun i le lt => upper i le (by omega)) (fun same => upper _ (by omega) (by omega))
      low_le (by omega)
  | case4 low high done =>
    congr 1
    omega

end Bisection
