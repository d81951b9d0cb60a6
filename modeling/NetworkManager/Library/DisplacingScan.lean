import Mathlib.Data.List.Basic
import Mathlib.Data.List.Induction

/-!
# Scans that displace what they keep

A scan keeps one item at a time: the next item takes its place, unless the kept item holds it back.
Which items are passed over is described without the kept item, by the items in front alone.
-/

namespace DisplacingScan

open List Option

variable {α : Type*}

section Definitions

variable (holds : α → α → Bool)

def displace (kept : Option α) (item : α) : Option α :=
  if kept.any fun current => holds current item then kept else some item

/-- The item that a scan keeps in the end. -/
def scan (items : List α) : Option α := items.foldl (displace holds) none

/-- An item is held back by one of the items in front of it that was not passed over itself.  The
nearest item in front comes first. -/
def passedOver : List α → α → Bool
  | [], _ => false
  | other :: front, item => (holds other item && !passedOver front other) || passedOver front item

/-- An item that displaces another one holds back what the other one does. -/
def Inherits : Prop :=
  ∀ ⦃current item next⦄, holds current item = false → holds current next = true →
    holds item next = true

end Definitions

variable {holds : α → α → Bool} {items front back : List α} {best item : α}

theorem scan_concat (items : List α) (item : α) :
    scan holds (items ++ [item]) = displace holds (scan holds items) item := by
  rw [scan, foldl_append]
  rfl

theorem scan_eq_none : scan holds items = none ↔ items = [] := by
  induction items using reverseRecOn with
  | nil => exact ⟨fun _ => rfl, fun _ => rfl⟩
  | append_singleton items item _ =>
    rw [scan_concat, displace]
    cases kept : scan holds items with
    | none => simp
    | some current =>
      rw [any_some]
      split <;> simp

section

variable (inherits : Inherits holds)

include inherits

theorem any_scan (items : List α) (item : α) :
    ((scan holds items).any fun current => holds current item) =
      passedOver holds items.reverse item := by
  induction items using reverseRecOn generalizing item with
  | nil => rfl
  | append_singleton items next ih =>
    rw [scan_concat, displace, ih next, reverse_append, reverse_singleton,
      singleton_append, passedOver, ← ih item]
    cases passed : passedOver holds items.reverse next with
    | true => simp
    | false =>
      rw [if_neg Bool.false_ne_true, any_some, Bool.not_false, Bool.and_true]
      cases kept : scan holds items with
      | none => simp
      | some current =>
        have displaced := ih next
        rw [passed, kept, any_some] at displaced
        cases held : holds current item with
        | false => simp [held]
        | true => simp [held, inherits displaced held]

theorem scan_concat_eq (items : List α) (item : α) :
    scan holds (items ++ [item]) =
      if passedOver holds items.reverse item then scan holds items else some item := by
  rw [scan_concat, displace, any_scan inherits]

theorem exists_of_scan (kept : scan holds items = some best) :
    ∃ front back, items = front ++ best :: back ∧ passedOver holds front.reverse best = false := by
  induction items using reverseRecOn with
  | nil => cases kept
  | append_singleton items item ih =>
    rw [scan_concat_eq inherits] at kept
    split at kept
    · obtain ⟨front, back, rfl, not_passed⟩ := ih kept
      exact ⟨front, back ++ [item], by simp, not_passed⟩
    · rename_i not_passed
      obtain rfl := Option.some.inj kept
      exact ⟨items, [], rfl, Bool.eq_false_iff.mpr not_passed⟩

theorem scan_of_holds (not_passed : passedOver holds front.reverse best = false)
    (holds_back : ∀ item ∈ back, holds best item = true) :
    scan holds (front ++ best :: back) = some best := by
  induction back using reverseRecOn with
  | nil =>
    rw [scan_concat_eq inherits, if_neg (Bool.eq_false_iff.mp not_passed)]
  | append_singleton back item ih =>
    have kept := ih fun other mem => holds_back other (mem_append_left _ mem)
    have held := holds_back item (mem_append_right _ mem_cons_self)
    rw [← cons_append, ← append_assoc, scan_concat, kept, displace, any_some, if_pos held]

/-- The kept item is one of the items that hold back all others exactly if one of these is not
passed over. -/
theorem exists_scan_iff {top : α → Prop}
    (top_holds : ∀ best, top best → ∀ item ∈ items, holds best item = true) :
    (∃ best, scan holds items = some best ∧ top best) ↔
      ∃ front best back, items = front ++ best :: back ∧ top best ∧
        passedOver holds front.reverse best = false := by
  constructor
  · rintro ⟨best, kept, is_top⟩
    obtain ⟨front, back, split, not_passed⟩ := exists_of_scan inherits kept
    exact ⟨front, best, back, split, is_top, not_passed⟩
  · rintro ⟨front, best, back, rfl, is_top, not_passed⟩
    refine ⟨best, scan_of_holds inherits not_passed fun item mem => ?_, is_top⟩
    exact top_holds best is_top item
      (mem_append_right _ (mem_cons_of_mem best mem))

end

theorem passedOver_eq_false (free : ∀ other ∈ front, holds other item = false) :
    passedOver holds front item = false := by
  induction front with
  | nil => rfl
  | cons other front ih =>
    obtain ⟨first, free⟩ := forall_mem_cons.mp free
    rw [passedOver, first, ih free]
    rfl

theorem passedOver_of_first {first : α} (front : List α) (held : holds first item = true) :
    passedOver holds (front ++ [first]) item = true := by
  induction front with
  | nil => simp [passedOver, held]
  | cons other front ih => rw [cons_append, passedOver, ih, Bool.or_true]

end DisplacingScan
