import Mathlib.Data.List.InsertIdx
import Mathlib.Data.List.Perm.Basic

/-!
# Insertion into a ranked list

A list is ranked when the ranks of its items do not increase.  A new item goes before the first
item of a lower rank.  When there is none, it matters where it goes: at the end the list stays
ranked, at the front it does so only when no item has a higher rank.
-/

namespace RankedList

open List

variable {α : Type*} {rank : α → Nat} {items left right : List α} {new : α}

def Ranked (rank : α → Nat) (items : List α) : Prop :=
  items.Pairwise fun earlier later => rank later ≤ rank earlier

def firstLower (rank : α → Nat) (new : α) (items : List α) : Option Nat :=
  items.findIdx? fun item => rank item < rank new

theorem Ranked.sublist (ranked : Ranked rank items) (sublist : List.Sublist left items) :
    Ranked rank left :=
  List.Pairwise.sublist sublist ranked

theorem ranked_append_cons :
    Ranked rank (left ++ new :: right) ↔ Ranked rank (left ++ right) ∧
      (∀ item ∈ left, rank new ≤ rank item) ∧ ∀ item ∈ right, rank item ≤ rank new := by
  unfold Ranked
  simp only [pairwise_append, pairwise_cons, mem_cons, forall_eq_or_imp]
  constructor
  · rintro ⟨left_ranked, ⟨above, right_ranked⟩, across⟩
    exact ⟨⟨left_ranked, right_ranked, fun item member => (across item member).2⟩,
      fun item member => (across item member).1, above⟩
  · rintro ⟨⟨left_ranked, right_ranked, across⟩, below, above⟩
    exact ⟨left_ranked, ⟨above, right_ranked⟩, fun item member =>
      ⟨below item member, across item member⟩⟩

theorem Ranked.replace {old : α} (ranked : Ranked rank (left ++ old :: right))
    (same : rank new = rank old) : Ranked rank (left ++ new :: right) := by
  rw [ranked_append_cons] at ranked ⊢
  rw [same]
  exact ranked

theorem firstLower_eq_none : firstLower rank new items = none ↔
    ∀ item ∈ items, rank new ≤ rank item := by
  simp [firstLower]

theorem firstLower_append : firstLower rank new (left ++ right) =
    (firstLower rank new left).or
      ((firstLower rank new right).map fun index => index + left.length) := by
  simp only [firstLower, findIdx?_append]

theorem firstLower_append_singleton {item : α} :
    firstLower rank new (left ++ [item]) =
      if rank item < rank new ∧ firstLower rank new left = none then some left.length
      else firstLower rank new left := by
  rw [firstLower_append]
  cases found : firstLower rank new left with
  | some index => simp
  | none =>
    by_cases lower : rank item < rank new
    · simp [firstLower, lower]
    · simp [firstLower, lower]

theorem firstLower_eq_some {index : Nat} (found : firstLower rank new items = some index) :
    ∃ left low right, items = left ++ low :: right ∧ left.length = index ∧
      rank low < rank new ∧ ∀ item ∈ left, rank new ≤ rank item := by
  obtain ⟨bound, lower, first⟩ := findIdx?_eq_some_iff_getElem.mp found
  refine ⟨items.take index, items[index], items.drop (index + 1), ?_, ?_, ?_, ?_⟩
  · rw [← drop_eq_getElem_cons bound, take_append_drop]
  · rw [length_take]
    omega
  · exact of_decide_eq_true lower
  · intro item member
    obtain ⟨position, position_bound, rfl⟩ := mem_take_iff_getElem.mp member
    have position_lt : position < index := by omega
    have not_lower := first position position_lt
    simpa using not_lower

theorem firstLower_le_length {index : Nat} (found : firstLower rank new items = some index) :
    index ≤ items.length := by
  obtain ⟨left, low, right, rfl, rfl, -, -⟩ := firstLower_eq_some found
  simp

theorem insertIdx_length_append : (left ++ right).insertIdx left.length new =
    left ++ new :: right := by
  induction left with
  | nil => rfl
  | cons item left ih =>
    rw [cons_append, length_cons, insertIdx_succ_cons, ih, cons_append]

theorem Ranked.insertIdx_firstLower (ranked : Ranked rank items) {index : Nat}
    (found : firstLower rank new items = some index) : Ranked rank (items.insertIdx index new) := by
  obtain ⟨left, low, right, rfl, rfl, lower, above⟩ := firstLower_eq_some found
  rw [insertIdx_length_append, ranked_append_cons]
  refine ⟨ranked, above, fun item member => ?_⟩
  have below_low := (ranked_append_cons.mp ranked).2.2
  rcases mem_cons.mp member with rfl | member
  · exact Nat.le_of_lt lower
  · exact Nat.le_trans (below_low item member) (Nat.le_of_lt lower)

theorem Ranked.insertIdx_length (ranked : Ranked rank items)
    (none_lower : firstLower rank new items = none) :
    Ranked rank (items.insertIdx items.length new) := by
  have at_end : (items ++ []).insertIdx items.length new = items ++ [new] :=
    insertIdx_length_append
  rw [append_nil] at at_end
  rw [at_end, ranked_append_cons, append_nil]
  exact ⟨ranked, firstLower_eq_none.mp none_lower, fun item member => nomatch member⟩

theorem Ranked.insertIdx_zero (ranked : Ranked rank items) :
    Ranked rank (items.insertIdx 0 new) ↔ ∀ item ∈ items, rank item ≤ rank new := by
  rw [List.insertIdx_zero]
  exact pairwise_cons.trans (and_iff_left ranked)

end RankedList
