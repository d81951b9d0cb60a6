import Mathlib.Data.List.Basic
import Mathlib.Data.List.Nodup
import Mathlib.Data.List.Perm.Basic

/-!
# Intrusive lists

A circular list that is threaded through its own nodes is represented by the sequence of its
linked nodes.  An anchor is either one of these nodes or, written `none`, the list head itself:
linking before the head appends to the list and linking after it prepends.
-/

namespace IntrusiveList

open List

variable {α : Type*}

/-- An anchor lies in a list when it is the list head or one of the linked nodes. -/
def Anchored (anchor : Option α) (nodes : List α) : Prop :=
  ∀ node, anchor = some node → node ∈ nodes

@[simp] theorem anchored_none (nodes : List α) : Anchored none nodes := by
  simp [Anchored]

@[simp] theorem anchored_some (anchor : α) (nodes : List α) :
    Anchored (some anchor) nodes ↔ anchor ∈ nodes := by
  simp [Anchored]

/-- A node stands directly before an anchor, and the others are in their order. -/
def StandsBefore (anchor : Option α) (node : α) (others nodes : List α) : Prop :=
  match anchor with
  | none => nodes = others ++ [node]
  | some anchor => ∃ front back, others = front ++ anchor :: back ∧
      nodes = front ++ node :: anchor :: back

/-- A node stands directly after an anchor, and the others are in their order. -/
def StandsAfter (anchor : Option α) (node : α) (others nodes : List α) : Prop :=
  match anchor with
  | none => nodes = node :: others
  | some anchor => ∃ front back, others = front ++ anchor :: back ∧
      nodes = front ++ anchor :: node :: back

variable {anchor : Option α} {node : α} {others nodes : List α}

theorem StandsBefore.perm (stands : StandsBefore anchor node others nodes) :
    nodes.Perm (node :: others) := by
  cases anchor with
  | none =>
    obtain rfl : nodes = others ++ [node] := stands
    exact perm_append_singleton node others
  | some anchor =>
    obtain ⟨front, back, rfl, rfl⟩ := stands
    exact perm_middle

theorem StandsAfter.perm (stands : StandsAfter anchor node others nodes) :
    nodes.Perm (node :: others) := by
  cases anchor with
  | none => exact Perm.of_eq stands
  | some anchor =>
    obtain ⟨front, back, rfl, rfl⟩ := stands
    exact ((Perm.swap node anchor back).append_left front).trans perm_middle

theorem StandsBefore.mem (stands : StandsBefore anchor node others nodes) : node ∈ nodes :=
  stands.perm.mem_iff.mpr mem_cons_self

theorem StandsAfter.mem (stands : StandsAfter anchor node others nodes) : node ∈ nodes :=
  stands.perm.mem_iff.mpr mem_cons_self

theorem not_infix_of_short {a b : α}
    (short : ∀ first second rest, nodes = first :: second :: rest → False) : ¬ [a, b] <:+: nodes := by
  intro inside
  match nodes, inside.length_le with
  | first :: second :: rest, _ => exact short first second rest rfl

variable [DecidableEq α]

def linkBeforeNode (anchor node : α) : List α → List α
  | [] => []
  | first :: rest =>
    if first = anchor then node :: first :: rest
    else first :: linkBeforeNode anchor node rest

def linkAfterNode (anchor node : α) : List α → List α
  | [] => []
  | first :: rest =>
    if first = anchor then first :: node :: rest
    else first :: linkAfterNode anchor node rest

def linkBefore (anchor : Option α) (node : α) (nodes : List α) : List α :=
  match anchor with
  | none => nodes ++ [node]
  | some anchor => linkBeforeNode anchor node nodes

def linkAfter (anchor : Option α) (node : α) (nodes : List α) : List α :=
  match anchor with
  | none => node :: nodes
  | some anchor => linkAfterNode anchor node nodes

/-- The node linked directly before an anchor node. -/
def prevNode (anchor : α) : List α → Option α
  | first :: second :: rest =>
    if second = anchor then some first else prevNode anchor (second :: rest)
  | _ => none

/-- The node linked directly after an anchor node. -/
def nextNode (anchor : α) : List α → Option α
  | first :: second :: rest =>
    if first = anchor then some second else nextNode anchor (second :: rest)
  | _ => none

/-- The predecessor of an anchor; `none` when this is the list head. -/
def prev (anchor : Option α) (nodes : List α) : Option α :=
  match anchor with
  | none => nodes.getLast?
  | some anchor => prevNode anchor nodes

/-- The successor of an anchor; `none` when this is the list head. -/
def next (anchor : Option α) (nodes : List α) : Option α :=
  match anchor with
  | none => nodes.head?
  | some anchor => nextNode anchor nodes

/-- Move a linked node before an anchor, reporting whether the list changed. -/
def moveBefore (anchor : Option α) (node : α) (nodes : List α) : List α × Bool :=
  if anchor ≠ some node ∧ prev anchor nodes ≠ some node then
    (linkBefore anchor node (nodes.erase node), true)
  else (nodes, false)

/-- Move a linked node after an anchor, reporting whether the list changed. -/
def moveAfter (anchor : Option α) (node : α) (nodes : List α) : List α × Bool :=
  if anchor ≠ some node ∧ next anchor nodes ≠ some node then
    (linkAfter anchor node (nodes.erase node), true)
  else (nodes, false)

theorem StandsBefore.erase (stands : StandsBefore anchor node others nodes)
    (fresh : node ∉ others) : nodes.erase node = others := by
  cases anchor with
  | none =>
    obtain rfl : nodes = others ++ [node] := stands
    rw [erase_append_right _ fresh, erase_cons_head, append_nil]
  | some anchor =>
    obtain ⟨front, back, rfl, rfl⟩ := stands
    have front_fresh : node ∉ front := fun mem => fresh (mem_append_left _ mem)
    rw [erase_append_right _ front_fresh, erase_cons_head]

theorem StandsAfter.erase (stands : StandsAfter anchor node others nodes)
    (fresh : node ∉ others) : nodes.erase node = others := by
  cases anchor with
  | none =>
    obtain rfl : nodes = node :: others := stands
    rw [erase_cons_head]
  | some anchor =>
    obtain ⟨front, back, rfl, rfl⟩ := stands
    have front_fresh : node ∉ front := fun mem => fresh (mem_append_left _ mem)
    have anchor_ne : anchor ≠ node := by
      rintro rfl
      exact fresh (mem_append_right _ mem_cons_self)
    rw [erase_append_right _ front_fresh, erase_cons_tail (by simpa using anchor_ne),
      erase_cons_head]

theorem linkBefore_stands (node : α) (anchored : Anchored anchor nodes) :
    StandsBefore anchor node nodes (linkBefore anchor node nodes) := by
  cases anchor with
  | none => rfl
  | some anchor =>
    obtain ⟨front, back, rfl, first⟩ := eq_append_cons_of_mem (anchored anchor rfl)
    refine ⟨front, back, rfl, ?_⟩
    clear anchored
    induction front with
    | nil => exact if_pos rfl
    | cons other front ih =>
      have different := ne_of_not_mem_cons first
      exact (if_neg different.symm).trans (congrArg _ (ih (not_mem_of_not_mem_cons first)))

theorem linkAfter_stands (node : α) (anchored : Anchored anchor nodes) :
    StandsAfter anchor node nodes (linkAfter anchor node nodes) := by
  cases anchor with
  | none => rfl
  | some anchor =>
    obtain ⟨front, back, rfl, first⟩ := eq_append_cons_of_mem (anchored anchor rfl)
    refine ⟨front, back, rfl, ?_⟩
    clear anchored
    induction front with
    | nil => exact if_pos rfl
    | cons other front ih =>
      have different := ne_of_not_mem_cons first
      exact (if_neg different.symm).trans (congrArg _ (ih (not_mem_of_not_mem_cons first)))

theorem linkBefore_perm (node : α) (anchored : Anchored anchor nodes) :
    (linkBefore anchor node nodes).Perm (node :: nodes) :=
  (linkBefore_stands node anchored).perm

theorem linkAfter_perm (node : α) (anchored : Anchored anchor nodes) :
    (linkAfter anchor node nodes).Perm (node :: nodes) :=
  (linkAfter_stands node anchored).perm

theorem prevNode_eq_some_iff {anchor : α} (nodup : nodes.Nodup) :
    prevNode anchor nodes = some node ↔ [node, anchor] <:+: nodes := by
  fun_induction prevNode anchor nodes with
  | case1 first rest =>
    have not_later := (nodup_cons.mp (nodup_cons.mp nodup).2).1
    rw [infix_cons_iff, infix_cons_iff, cons_prefix_cons, cons_prefix_cons, cons_prefix_cons,
      or_iff_left, Option.some_inj, eq_comm]
    · simp
    · rintro (⟨-, later⟩ | later)
      · exact not_later (later.subset mem_cons_self)
      · exact not_later (later.subset (mem_cons_of_mem _ mem_cons_self))
  | case2 first second rest other ih =>
    rw [ih (nodup_cons.mp nodup).2, infix_cons_iff (a := first), cons_prefix_cons,
      cons_prefix_cons, or_iff_right]
    exact fun later => other later.2.1.symm
  | case3 nodes short => exact iff_of_false nofun (not_infix_of_short short)

/-- A node that is linked once has the successor that stands behind it. -/
theorem nextNode_eq_some_iff {anchor : α} (nodup : nodes.Nodup) :
    nextNode anchor nodes = some node ↔ [anchor, node] <:+: nodes := by
  fun_induction nextNode anchor nodes with
  | case1 second rest =>
    rw [infix_cons_iff, cons_prefix_cons, cons_prefix_cons, or_iff_left, Option.some_inj, eq_comm]
    · simp
    · exact fun later => (nodup_cons.mp nodup).1 (later.subset mem_cons_self)
  | case2 first second rest other ih =>
    rw [ih (nodup_cons.mp nodup).2, infix_cons_iff (a := first), cons_prefix_cons, or_iff_right]
    exact fun later => other later.1.symm
  | case3 nodes short => exact iff_of_false nofun (not_infix_of_short short)

theorem prev_eq_some_iff (nodup : nodes.Nodup) :
    prev anchor nodes = some node ↔ StandsBefore anchor node (nodes.erase node) nodes := by
  have placed : prev anchor nodes = some node ↔ ∃ others, StandsBefore anchor node others nodes := by
    cases anchor with
    | none => exact getLast?_eq_some_iff
    | some anchor =>
      refine (prevNode_eq_some_iff nodup).trans ⟨?_, ?_⟩
      · rintro ⟨front, back, rfl⟩
        exact ⟨_, front, back, rfl, by simp⟩
      · rintro ⟨others, front, back, -, rfl⟩
        exact ⟨front, back, by simp⟩
  rw [placed]
  refine ⟨?_, fun stands => ⟨_, stands⟩⟩
  rintro ⟨others, stands⟩
  rwa [stands.erase (nodup_cons.mp (stands.perm.nodup_iff.mp nodup)).1]

theorem next_eq_some_iff (nodup : nodes.Nodup) :
    next anchor nodes = some node ↔ StandsAfter anchor node (nodes.erase node) nodes := by
  have placed : next anchor nodes = some node ↔ ∃ others, StandsAfter anchor node others nodes := by
    cases anchor with
    | none => exact head?_eq_some_iff
    | some anchor =>
      refine (nextNode_eq_some_iff nodup).trans ⟨?_, ?_⟩
      · rintro ⟨front, back, rfl⟩
        exact ⟨_, front, back, rfl, by simp⟩
      · rintro ⟨others, front, back, -, rfl⟩
        exact ⟨front, back, by simp⟩
  rw [placed]
  refine ⟨?_, fun stands => ⟨_, stands⟩⟩
  rintro ⟨others, stands⟩
  rwa [stands.erase (nodup_cons.mp (stands.perm.nodup_iff.mp nodup)).1]

theorem anchored_erase (anchored : Anchored anchor nodes) (anchor_ne : anchor ≠ some node) :
    Anchored anchor (nodes.erase node) := by
  intro other anchor_eq
  have other_ne : other ≠ node := by
    rintro rfl
    exact anchor_ne anchor_eq
  exact (mem_erase_of_ne other_ne).mpr (anchored other anchor_eq)

theorem moveBefore_perm (linked : node ∈ nodes) (anchored : Anchored anchor nodes) :
    (moveBefore anchor node nodes).1.Perm nodes := by
  unfold moveBefore
  split
  · rename_i moved
    exact (linkBefore_perm node (anchored_erase anchored moved.1)).trans
      (perm_cons_erase linked).symm
  · exact Perm.refl nodes

theorem moveAfter_perm (linked : node ∈ nodes) (anchored : Anchored anchor nodes) :
    (moveAfter anchor node nodes).1.Perm nodes := by
  unfold moveAfter
  split
  · rename_i moved
    exact (linkAfter_perm node (anchored_erase anchored moved.1)).trans
      (perm_cons_erase linked).symm
  · exact Perm.refl nodes

section

variable (nodup : nodes.Nodup)

include nodup

section

variable (anchored : Anchored anchor nodes)

include anchored

theorem moveBefore_stands (anchor_ne : anchor ≠ some node) :
    StandsBefore anchor node (nodes.erase node) (moveBefore anchor node nodes).1 := by
  unfold moveBefore
  split
  · exact linkBefore_stands node (anchored_erase anchored anchor_ne)
  · rename_i unmoved
    have in_place : prev anchor nodes = some node := by
      by_contra elsewhere
      exact unmoved ⟨anchor_ne, elsewhere⟩
    exact (prev_eq_some_iff nodup).mp in_place

theorem moveAfter_stands (anchor_ne : anchor ≠ some node) :
    StandsAfter anchor node (nodes.erase node) (moveAfter anchor node nodes).1 := by
  unfold moveAfter
  split
  · exact linkAfter_stands node (anchored_erase anchored anchor_ne)
  · rename_i unmoved
    have in_place : next anchor nodes = some node := by
      by_contra elsewhere
      exact unmoved ⟨anchor_ne, elsewhere⟩
    exact (next_eq_some_iff nodup).mp in_place

theorem moveBefore_changed_iff :
    (moveBefore anchor node nodes).2 = true ↔ (moveBefore anchor node nodes).1 ≠ nodes := by
  unfold moveBefore
  split
  · rename_i moved
    refine iff_of_true rfl fun same => moved.2 ?_
    dsimp only at same
    have stands := linkBefore_stands node (anchored_erase anchored moved.1)
    rw [same] at stands
    exact (prev_eq_some_iff nodup).mpr stands
  · exact iff_of_false Bool.false_ne_true fun changed => changed rfl

theorem moveAfter_changed_iff :
    (moveAfter anchor node nodes).2 = true ↔ (moveAfter anchor node nodes).1 ≠ nodes := by
  unfold moveAfter
  split
  · rename_i moved
    refine iff_of_true rfl fun same => moved.2 ?_
    dsimp only at same
    have stands := linkAfter_stands node (anchored_erase anchored moved.1)
    rw [same] at stands
    exact (next_eq_some_iff nodup).mpr stands
  · exact iff_of_false Bool.false_ne_true fun changed => changed rfl

end

theorem moveBefore_head : (moveBefore none node nodes).1 = nodes.erase node ++ [node] :=
  moveBefore_stands nodup (anchored_none nodes) (Option.some_ne_none node).symm

end

theorem moveBefore_self (node : α) (nodes : List α) :
    moveBefore (some node) node nodes = (nodes, false) := by
  unfold moveBefore
  exact if_neg fun moved => moved.1 rfl

theorem moveAfter_self (node : α) (nodes : List α) :
    moveAfter (some node) node nodes = (nodes, false) := by
  unfold moveAfter
  exact if_neg fun moved => moved.1 rfl

end IntrusiveList
