import Mathlib.Data.List.Basic

/-!
# Stable merge sort of a list

A top-down merge sort that splits a list in the middle and prefers the left part on ties.  The
comparison is an arbitrary function.  What the result satisfies depends on how far the comparison
is an order on the elements of the list.
-/

namespace ListSort

open List

variable {α : Type*}

/-- Merge two lists; the fuel bounds the number of elements taken. -/
def merge (cmp : α → α → Ordering) : Nat → List α → List α → List α
  | 0, left, right => left ++ right
  | _ + 1, [], right => right
  | _ + 1, left, [] => left
  | fuel + 1, x :: left, y :: right =>
    if (cmp x y).isLE then x :: merge cmp fuel left (y :: right)
    else y :: merge cmp fuel (x :: left) right

/-- Split and merge; the fuel bounds the depth of the splits. -/
def sortWith (cmp : α → α → Ordering) : Nat → List α → List α
  | 0, nodes => nodes
  | fuel + 1, nodes =>
    if nodes.length ≤ 1 then nodes
    else
      let half := (nodes.length + 1) / 2
      merge cmp nodes.length (sortWith cmp fuel (nodes.take half))
        (sortWith cmp fuel (nodes.drop half))

def sort (cmp : α → α → Ordering) (nodes : List α) : List α :=
  sortWith cmp nodes.length nodes

theorem merge_perm (cmp : α → α → Ordering) (fuel : Nat) (left right : List α) :
    (merge cmp fuel left right).Perm (left ++ right) := by
  induction fuel generalizing left right with
  | zero => exact Perm.refl _
  | succ fuel ih =>
    cases left with
    | nil => exact Perm.refl _
    | cons x left =>
      cases right with
      | nil => simp [merge]
      | cons y right =>
        rw [merge]
        split
        · exact (ih left (y :: right)).cons x
        · exact ((ih (x :: left) right).cons y).trans perm_middle.symm

theorem sortWith_perm (cmp : α → α → Ordering) (fuel : Nat) (nodes : List α) :
    (sortWith cmp fuel nodes).Perm nodes := by
  induction fuel generalizing nodes with
  | zero => exact Perm.refl _
  | succ fuel ih =>
    rw [sortWith]
    split
    · exact Perm.refl _
    · refine (merge_perm cmp _ _ _).trans (((ih _).append (ih _)).trans ?_)
      rw [take_append_drop]

theorem sort_perm (cmp : α → α → Ordering) (nodes : List α) : (sort cmp nodes).Perm nodes :=
  sortWith_perm cmp nodes.length nodes

variable {cmp : α → α → Ordering} {nodes : List α} {node : α} {fuel : Nat}

@[simp] theorem mem_sort : node ∈ sort cmp nodes ↔ node ∈ nodes :=
  (sort_perm cmp nodes).mem_iff

/-- The node precedes all others, whatever the comparison does between these. -/
def Dominates (cmp : α → α → Ordering) (node : α) (nodes : List α) : Prop :=
  ∀ other ∈ nodes, other = node ∨ (cmp node other).isLE = true ∧ (cmp other node).isLE = false

theorem Dominates.subset {nodes fewer : List α} (dominates : Dominates cmp node nodes)
    (subset : fewer ⊆ nodes) :
    Dominates cmp node fewer :=
  fun other member => dominates other (subset member)

theorem head_merge {left right : List α} (dominates : Dominates cmp node (left ++ right))
    (first : left.head? = some node ∨ (right.head? = some node ∧ 0 < fuel)) :
    (merge cmp fuel left right).head? = some node := by
  cases fuel with
  | zero =>
    rcases first with first | ⟨-, impossible⟩
    · simp [merge, head?_append, first]
    · omega
  | succ fuel =>
    cases left with
    | nil => simpa [merge] using first
    | cons x left =>
      cases right with
      | nil => simpa [merge] using first
      | cons y right =>
        rw [merge]
        rcases first with first | ⟨first, -⟩
        · obtain rfl : x = node := by simpa using first
          rcases dominates y (by simp) with rfl | ⟨precedes, -⟩
          · split <;> simp
          · simp [precedes]
        · obtain rfl : y = node := by simpa using first
          rcases dominates x (by simp) with rfl | ⟨-, follows⟩
          · split <;> simp
          · simp [follows]

theorem head_sortWith (enough : nodes.length ≤ fuel) (member : node ∈ nodes)
    (dominates : Dominates cmp node nodes) :
    (sortWith cmp fuel nodes).head? = some node := by
  induction fuel generalizing nodes with
  | zero =>
    have empty : nodes = [] := length_eq_zero_iff.mp (by omega)
    simp [empty] at member
  | succ fuel ih =>
    rw [sortWith]
    split
    · rename_i short
      cases nodes with
      | nil => simp at member
      | cons first rest =>
        have rest_nil : rest = [] := by
          refine length_eq_zero_iff.mp ?_
          simp only [length_cons] at short
          omega
        subst rest_nil
        simp at member
        simp [member]
    · rename_i long
      have half_lt : (nodes.length + 1) / 2 < nodes.length := by omega
      have half_pos : 0 < (nodes.length + 1) / 2 := by omega
      have within : Dominates cmp node
          (sortWith cmp fuel (nodes.take ((nodes.length + 1) / 2)) ++
            sortWith cmp fuel (nodes.drop ((nodes.length + 1) / 2))) := by
        refine dominates.subset fun other other_mem => ?_
        have := ((sortWith_perm cmp fuel _).append (sortWith_perm cmp fuel _)).mem_iff.mp other_mem
        rwa [take_append_drop] at this
      refine head_merge within ?_
      have split_mem : node ∈ nodes.take ((nodes.length + 1) / 2) ++
          nodes.drop ((nodes.length + 1) / 2) := by
        rwa [take_append_drop]
      rcases mem_append.mp split_mem with in_left | in_right
      · refine Or.inl (ih ?_ in_left (dominates.subset (take_subset _ _)))
        rw [length_take]
        omega
      · refine Or.inr ⟨ih ?_ in_right (dominates.subset (drop_subset _ _)), by omega⟩
        rw [length_drop]
        omega

theorem head_sort (member : node ∈ nodes) (dominates : Dominates cmp node nodes) :
    (sort cmp nodes).head? = some node :=
  head_sortWith (Nat.le_refl _) member dominates

/-- No node is followed by one that precedes it. -/
def Sorted (cmp : α → α → Ordering) (nodes : List α) : Prop :=
  nodes.Pairwise fun a b => (cmp a b).isLE = true

/-- The comparison is a total preorder on the nodes of a list. -/
structure PreorderOn (cmp : α → α → Ordering) (nodes : List α) : Prop where
  total : ∀ a ∈ nodes, ∀ b ∈ nodes, (cmp a b).isLE = true ∨ (cmp b a).isLE = true
  trans : ∀ a ∈ nodes, ∀ b ∈ nodes, ∀ c ∈ nodes,
    (cmp a b).isLE = true → (cmp b c).isLE = true → (cmp a c).isLE = true

theorem PreorderOn.subset {nodes fewer : List α} (preorder : PreorderOn cmp nodes)
    (subset : fewer ⊆ nodes) : PreorderOn cmp fewer :=
  ⟨fun a a_mem b b_mem => preorder.total a (subset a_mem) b (subset b_mem),
    fun a a_mem b b_mem c c_mem =>
      preorder.trans a (subset a_mem) b (subset b_mem) c (subset c_mem)⟩

theorem sorted_merge {left right : List α} (enough : left.length + right.length ≤ fuel)
    (preorder : PreorderOn cmp (left ++ right)) (left_sorted : Sorted cmp left)
    (right_sorted : Sorted cmp right) :
    Sorted cmp (merge cmp fuel left right) := by
  induction fuel generalizing left right with
  | zero =>
    have left_nil : left = [] := length_eq_zero_iff.mp (by omega)
    subst left_nil
    exact right_sorted
  | succ fuel ih =>
    cases left with
    | nil => exact right_sorted
    | cons x left =>
      cases right with
      | nil => exact left_sorted
      | cons y right =>
        simp only [length_cons] at enough
        obtain ⟨x_first, left_rest⟩ := pairwise_cons.mp left_sorted
        obtain ⟨y_first, right_rest⟩ := pairwise_cons.mp right_sorted
        rw [merge]
        split
        · rename_i precedes
          refine pairwise_cons.mpr ⟨?_, ih ?_ ?_ left_rest right_sorted⟩
          · intro other other_mem
            rcases mem_append.mp ((merge_perm ..).mem_iff.mp other_mem) with
              in_left | in_right
            · exact x_first other in_left
            · rcases mem_cons.mp in_right with rfl | in_right
              · exact precedes
              · exact preorder.trans x (by simp) y (by simp) other (by simp [in_right])
                  precedes (y_first other in_right)
          · simp only [length_cons]
            omega
          · exact preorder.subset fun other other_mem => by
              simpa using Or.inr (by simpa using other_mem)
        · rename_i follows
          have precedes : (cmp y x).isLE = true :=
            (preorder.total x (by simp) y (by simp)).resolve_left follows
          refine pairwise_cons.mpr ⟨?_, ih ?_ ?_ left_sorted right_rest⟩
          · intro other other_mem
            rcases mem_append.mp ((merge_perm ..).mem_iff.mp other_mem) with
              in_left | in_right
            · rcases mem_cons.mp in_left with rfl | in_left
              · exact precedes
              · exact preorder.trans y (by simp) x (by simp) other (by simp [in_left])
                  precedes (x_first other in_left)
            · exact y_first other in_right
          · simp only [length_cons]
            omega
          · exact preorder.subset fun other other_mem => by
              simp only [mem_append, mem_cons] at other_mem ⊢
              tauto

theorem sorted_sortWith (enough : nodes.length ≤ fuel) (preorder : PreorderOn cmp nodes) :
    Sorted cmp (sortWith cmp fuel nodes) := by
  induction fuel generalizing nodes with
  | zero =>
    have empty : nodes = [] := length_eq_zero_iff.mp (by omega)
    subst empty
    exact List.Pairwise.nil
  | succ fuel ih =>
    rw [sortWith]
    split
    · rename_i short
      cases nodes with
      | nil => exact List.Pairwise.nil
      | cons first rest =>
        have rest_nil : rest = [] := by
          refine length_eq_zero_iff.mp ?_
          simp only [length_cons] at short
          omega
        subst rest_nil
        exact pairwise_singleton _ _
    · rename_i long
      have left_perm := sortWith_perm cmp fuel (nodes.take ((nodes.length + 1) / 2))
      have right_perm := sortWith_perm cmp fuel (nodes.drop ((nodes.length + 1) / 2))
      refine sorted_merge ?_ (preorder.subset fun other other_mem => ?_) (ih ?_ ?_) (ih ?_ ?_)
      · rw [left_perm.length_eq, right_perm.length_eq, length_take, length_drop]
        omega
      · have := (left_perm.append right_perm).mem_iff.mp other_mem
        rwa [take_append_drop] at this
      · rw [length_take]
        omega
      · exact preorder.subset (take_subset _ _)
      · rw [length_drop]
        omega
      · exact preorder.subset (drop_subset _ _)

theorem sorted_sort (preorder : PreorderOn cmp nodes) : Sorted cmp (sort cmp nodes) :=
  sorted_sortWith (Nat.le_refl _) preorder

section

variable (total : ∀ a b, (cmp a b).isLE = true ∨ (cmp b a).isLE = true)

include total

end

end ListSort
