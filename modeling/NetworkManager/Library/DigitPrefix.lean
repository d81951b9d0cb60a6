import Mathlib.Algebra.Group.Nat.Defs
import Mathlib.Data.List.Basic

/-!
# Leading digits

Numbers of a fixed width share their leading digits exactly if they share a quotient.  A range of
quotients, such as the numbers that share a prefix of a digit, is counted once.
-/

namespace DigitPrefix

open List

/-- The digit of a number of `width` digits at an index, the first one in the highest place. -/
def digit (base width index number : Nat) : Nat :=
  number / base ^ (width - 1 - index) % base

/-- The first digits of a number of `width` digits. -/
def leading (base width count number : Nat) : List Nat :=
  (List.range count).map fun index => digit base width index number

variable {base width count x y : Nat}

@[simp]
theorem length_leading (base width count number : Nat) :
    (leading base width count number).length = count := by
  rw [leading, length_map, length_range]

theorem leading_succ (base width count number : Nat) :
    leading base width (count + 1) number =
      leading base width count number ++ [digit base width count number] := by
  rw [leading, range_succ, map_append]
  rfl

theorem take_leading (le : count ≤ y) : (leading base width y x).take count =
    leading base width count x := by
  rw [leading, ← map_take, take_range, Nat.min_eq_left le, leading]

theorem eq_iff_div_mod (base x y : Nat) : x = y ↔ x / base = y / base ∧ x % base = y % base := by
  constructor
  · rintro rfl
    exact ⟨rfl, rfl⟩
  · rintro ⟨quotients, remainders⟩
    rw [← Nat.div_add_mod x base, ← Nat.div_add_mod y base, quotients, remainders]

/-- Numbers share their first digits exactly if they are the same without their last ones. -/
theorem leading_eq_iff (le : count ≤ width) (x_lt : x < base ^ width) (y_lt : y < base ^ width) :
    leading base width count x = leading base width count y ↔
      x / base ^ (width - count) = y / base ^ (width - count) := by
  induction count with
  | zero =>
    rw [Nat.sub_zero, Nat.div_eq_of_lt x_lt, Nat.div_eq_of_lt y_lt]
    exact iff_of_true rfl rfl
  | succ count ih =>
    have quotient : ∀ number, number / base ^ (width - count) =
        number / base ^ (width - (count + 1)) / base := by
      intro number
      have width_eq : width - count = width - (count + 1) + 1 := by omega
      rw [width_eq, Nat.pow_succ, Nat.div_div_eq_div_mul]
    have digit_eq : ∀ number, digit base width count number =
        number / base ^ (width - (count + 1)) % base := by
      intro number
      have width_eq : width - 1 - count = width - (count + 1) := by omega
      rw [digit, width_eq]
    rw [eq_iff_div_mod base, ← quotient, ← quotient, ← digit_eq, ← digit_eq,
      ← ih (Nat.le_of_succ_le le), leading_succ, leading_succ]
    constructor
    · intro same
      obtain ⟨firsts, lasts⟩ := append_inj' same rfl
      exact ⟨firsts, (cons.inj lasts).1⟩
    · rintro ⟨firsts, lasts⟩
      rw [firsts, lasts]

theorem digit_add_last (le : count + 1 ≤ width) (room : digit base width count x + 1 < base) :
    digit base width count (x + base ^ (width - (count + 1))) = digit base width count x + 1 ∧
      ∀ index < count,
        digit base width index (x + base ^ (width - (count + 1))) = digit base width index x := by
  have base_pos : 0 < base := Nat.lt_of_le_of_lt (Nat.zero_le _) room
  have unit_pos : 0 < base ^ (width - (count + 1)) := Nat.pow_pos base_pos
  have last_eq : width - 1 - count = width - (count + 1) := by omega
  have moved := Nat.add_div_right x unit_pos
  unfold digit at room ⊢
  rw [last_eq] at room ⊢
  rw [moved]
  have split := Nat.div_add_mod (x / base ^ (width - (count + 1))) base
  have next : x / base ^ (width - (count + 1)) + 1 =
      base * (x / base ^ (width - (count + 1)) / base) +
        (x / base ^ (width - (count + 1)) % base + 1) := by omega
  constructor
  · rw [next, Nat.mul_add_mod, Nat.mod_eq_of_lt room]
  · intro index index_lt
    have power : base ^ (width - 1 - index) =
        base ^ (width - (count + 1)) * (base * base ^ (count - index - 1)) := by
      rw [← Nat.pow_succ', ← Nat.pow_add]
      congr 1
      omega
    have quotient_eq : (x / base ^ (width - (count + 1)) + 1) / base =
        x / base ^ (width - (count + 1)) / base := by
      rw [next, Nat.mul_add_div base_pos, Nat.div_eq_of_lt room, Nat.add_zero]
    rw [power, ← Nat.div_div_eq_div_mul, ← Nat.div_div_eq_div_mul, ← Nat.div_div_eq_div_mul,
      ← Nat.div_div_eq_div_mul, moved, quotient_eq]

theorem countP_range_eq (start length value : Nat) :
    (List.range length).countP (fun index => decide (start + index = value)) =
      if start ≤ value ∧ value < start + length then 1 else 0 := by
  induction length with
  | zero =>
    rw [if_neg (by omega)]
    rfl
  | succ length ih =>
    rw [range_succ, countP_append, ih, countP_singleton]
    by_cases last : start + length = value
    · rw [if_neg (by omega), if_pos (decide_eq_true last), if_pos (by omega)]
    · rw [if_neg (fun same => last (of_decide_eq_true same))]
      split
      · rw [if_pos (by omega)]
      · rw [if_neg (by omega)]

theorem quotients_iff (size quotient value : Nat) (positive : 0 < size) :
    (quotient * size ≤ value ∧ value < quotient * size + size) ↔ value / size = quotient := by
  rw [Nat.div_eq_iff positive]
  have product_pos : 0 < quotient * size + size := Nat.lt_of_lt_of_le positive (Nat.le_add_left _ _)
  omega

end DigitPrefix
