import Mathlib.Algebra.Group.Nat.Defs
import Mathlib.Data.List.Basic

/-!
# Fields in a sequence

A sequence of fields can be taken apart again if each field says where it ends.  A field ends at a
terminator that does not occur in it, or it has a fixed length.
-/

namespace Framing

open List

variable {α : Type*}

theorem terminated_inj {terminator : α} {first second first_rest second_rest : List α}
    (first_free : terminator ∉ first) (second_free : terminator ∉ second)
    (same : first ++ terminator :: first_rest = second ++ terminator :: second_rest) :
    first = second ∧ first_rest = second_rest := by
  induction first generalizing second with
  | nil =>
    cases second with
    | nil => exact ⟨rfl, (List.cons.inj same).2⟩
    | cons other second =>
      obtain ⟨rfl, -⟩ := List.cons.inj same
      exact absurd mem_cons_self second_free
  | cons item first ih =>
    cases second with
    | nil =>
      obtain ⟨rfl, -⟩ := List.cons.inj same
      exact absurd mem_cons_self first_free
    | cons other second =>
      obtain ⟨rfl, tails_same⟩ := List.cons.inj same
      obtain ⟨rfl, rest_eq⟩ := ih (not_mem_of_not_mem_cons first_free)
        (not_mem_of_not_mem_cons second_free) tails_same
      exact ⟨rfl, rest_eq⟩

/-- The bytes of a number of fixed width, the highest first. -/
def bigEndian : Nat → Nat → List UInt8
  | 0, _ => []
  | width + 1, number => bigEndian width (number / 256) ++ [UInt8.ofNat (number % 256)]

@[simp]
theorem length_bigEndian (width number : Nat) : (bigEndian width number).length = width := by
  induction width generalizing number with
  | zero => rfl
  | succ width ih => rw [bigEndian, length_append, ih, length_singleton]

/-- Numbers that fit are determined by their bytes. -/
theorem bigEndian_inj {width first second : Nat} (first_fits : first < 256 ^ width)
    (second_fits : second < 256 ^ width) (same : bigEndian width first = bigEndian width second) :
    first = second := by
  induction width generalizing first second with
  | zero => omega
  | succ width ih =>
    rw [Nat.pow_succ] at first_fits second_fits
    obtain ⟨high_eq, low_eq⟩ := append_inj same (by simp)
    have quotient_eq := ih (Nat.div_lt_of_lt_mul (by omega)) (Nat.div_lt_of_lt_mul (by omega))
      high_eq
    have low_value := congrArg UInt8.toNat (List.cons.inj low_eq).1
    rw [UInt8.toNat_ofNat', UInt8.toNat_ofNat'] at low_value
    omega

theorem bigEndian_append_inj {width first second : Nat} {first_rest second_rest : List UInt8}
    (first_fits : first < 256 ^ width) (second_fits : second < 256 ^ width)
    (same : bigEndian width first ++ first_rest = bigEndian width second ++ second_rest) :
    first = second ∧ first_rest = second_rest := by
  obtain ⟨bytes_eq, rest_eq⟩ := append_inj same (by simp)
  exact ⟨bigEndian_inj first_fits second_fits bytes_eq, rest_eq⟩

end Framing
