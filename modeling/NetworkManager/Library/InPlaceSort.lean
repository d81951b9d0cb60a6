import Mathlib.Data.List.Nodup
import Mathlib.Data.List.Sort

/-!
# Merge sort with a comparison that sees places

A merge sort of an array that sorts both halves in place, and merges them into a temporary array.
The comparison is given the places of the elements in the array.  A comparison that looks at them
can keep the order of equal elements or reverse it, as it likes for each class of elements: when
two elements are compared, the first one is in the left half.
-/

namespace InPlaceSort

open List

variable {α : Type*}

/-- Merge two sorted parts, whose elements come with their places. -/
def merge (cmp : α × Nat → α × Nat → Ordering) : List (α × Nat) → List (α × Nat) → List α
  | [], right => right.map Prod.fst
  | left, [] => left.map Prod.fst
  | a :: left, b :: right =>
    if (cmp a b).isLE then a.1 :: merge cmp left (b :: right)
    else b.1 :: merge cmp (a :: left) right
  termination_by left right => left.length + right.length

/-- Sort the part of an array that begins at a place. -/
def sortAt (cmp : α × Nat → α × Nat → Ordering) (place : Nat) (nodes : List α) : List α :=
  if _short : nodes.length ≤ 1 then nodes
  else
    let half := nodes.length / 2
    merge cmp ((sortAt cmp place (nodes.take half)).zipIdx place)
      ((sortAt cmp (place + half) (nodes.drop half)).zipIdx (place + half))
  termination_by nodes.length
  decreasing_by
    · rw [List.length_take]
      omega
    · rw [List.length_drop]
      omega

def sort (cmp : α × Nat → α × Nat → Ordering) (nodes : List α) : List α := sortAt cmp 0 nodes

section

variable (cmp : α × Nat → α × Nat → Ordering)

include cmp

theorem merge_perm (left right : List (α × Nat)) :
    (merge cmp left right).Perm (left.map Prod.fst ++ right.map Prod.fst) := by
  fun_induction merge cmp left right with
  | case1 right => exact Perm.refl _
  | case2 left => simp
  | case3 a left b right _ ih => exact ih.cons a.1
  | case4 a left b right _ ih => exact (ih.cons b.1).trans perm_middle.symm

theorem sortAt_perm (place : Nat) (nodes : List α) : (sortAt cmp place nodes).Perm nodes := by
  fun_induction sortAt cmp place nodes with
  | case1 => exact Perm.refl _
  | case2 place nodes _ half ih_left ih_right =>
    refine (merge_perm cmp _ _).trans ?_
    rw [zipIdx_map_fst, zipIdx_map_fst]
    have halves := ih_left.append ih_right
    rwa [take_append_drop] at halves

theorem sort_perm (nodes : List α) : (sort cmp nodes).Perm nodes := sortAt_perm cmp 0 nodes

end

/-- A comparison that sorts by ranks and turns around some of them, when the first element comes
before the second one. -/
def Ranks (cmp : α × Nat → α × Nat → Ordering) (rank : α → Nat) (reversed : Nat → Bool) : Prop :=
  ∀ a b : α × Nat, a.2 < b.2 →
    ((cmp a b).isLE = true ↔
      rank a.1 < rank b.1 ∨ (rank a.1 = rank b.1 ∧ reversed (rank a.1) = false))

def ofRank (rank : α → Nat) (r : Nat) (nodes : List α) : List α := nodes.filter (rank · = r)

section

variable {cmp : α × Nat → α × Nat → Ordering} {rank : α → Nat} {reversed : Nat → Bool}

theorem ofRank_append (rank : α → Nat) (r : Nat) (first second : List α) :
    ofRank rank r (first ++ second) = ofRank rank r first ++ ofRank rank r second :=
  filter_append ..

theorem ofRank_eq_nil {a : α} {nodes : List α} {r : Nat} (below : r < rank a)
    (sorted : (a :: nodes).Pairwise fun a b => rank a ≤ rank b) :
    ofRank rank r (a :: nodes) = [] := by
  rw [ofRank, filter_eq_nil_iff]
  intro b listed
  have le : rank a ≤ rank b := by
    rcases mem_cons.mp listed with rfl | listed
    · exact Nat.le_refl _
    · exact rel_of_pairwise_cons sorted listed
  simpa using (by omega : rank b ≠ r)

theorem merge_spec (ranks : Ranks cmp rank reversed) (left right : List (α × Nat))
    (apart : ∀ a ∈ left, ∀ b ∈ right, a.2 < b.2)
    (left_sorted : (left.map Prod.fst).Pairwise fun a b => rank a ≤ rank b)
    (right_sorted : (right.map Prod.fst).Pairwise fun a b => rank a ≤ rank b) :
    (merge cmp left right).Pairwise (fun a b => rank a ≤ rank b) ∧
      ∀ r, ofRank rank r (merge cmp left right) =
        if reversed r then ofRank rank r (right.map Prod.fst) ++ ofRank rank r (left.map Prod.fst)
        else ofRank rank r (left.map Prod.fst) ++ ofRank rank r (right.map Prod.fst) := by
  fun_induction merge cmp left right with
  | case1 right =>
    refine ⟨right_sorted, fun r => ?_⟩
    split <;> simp [ofRank]
  | case2 left =>
    refine ⟨left_sorted, fun r => ?_⟩
    split <;> simp [ofRank]
  | case3 a left b right le ih =>
    have first := (ranks a b (apart a mem_cons_self b mem_cons_self)).mp le
    obtain ⟨sorted, of_rank⟩ :=
      ih (fun other listed => apart other (mem_cons_of_mem _ listed))
        (List.Pairwise.of_cons left_sorted) right_sorted
    refine ⟨pairwise_cons.mpr ⟨?_, sorted⟩, fun r => ?_⟩
    · intro other listed
      rcases mem_append.mp ((merge_perm cmp _ _).mem_iff.mp listed) with listed | listed
      · exact rel_of_pairwise_cons left_sorted listed
      · have above : rank b.1 ≤ rank other := by
          rcases mem_cons.mp listed with rfl | listed
          · exact Nat.le_refl _
          · exact rel_of_pairwise_cons right_sorted listed
        omega
    · have cons_left := ofRank_append rank r [a.1] (left.map Prod.fst)
      have cons_merged := ofRank_append rank r [a.1] (merge cmp left (b :: right))
      rw [singleton_append] at cons_left cons_merged
      rw [cons_merged, of_rank r]
      simp only [map_cons]
      rw [cons_left]
      cases turned : reversed r with
      | false => simp
      | true =>
        by_cases same : rank a.1 = r
        · have below : r < rank b.1 := by
            rcases first with below | ⟨_, kept⟩
            · omega
            · rw [same, turned] at kept
              cases kept
          have none_right : ofRank rank r (b.1 :: right.map Prod.fst) = [] :=
            ofRank_eq_nil below right_sorted
          rw [none_right]
          simp
        · have not_first : ofRank rank r [a.1] = [] := by simp [ofRank, same]
          rw [not_first]
          simp
  | case4 a left b right not_le ih =>
    have first := fun order => not_le
      ((ranks a b (apart a mem_cons_self b mem_cons_self)).mpr order)
    obtain ⟨sorted, of_rank⟩ :=
      ih (fun other listed last last_listed =>
          apart other listed last (mem_cons_of_mem _ last_listed))
        left_sorted (List.Pairwise.of_cons right_sorted)
    have not_below : ¬ rank a.1 < rank b.1 := fun below => first (.inl below)
    refine ⟨pairwise_cons.mpr ⟨?_, sorted⟩, fun r => ?_⟩
    · intro other listed
      rcases mem_append.mp ((merge_perm cmp _ _).mem_iff.mp listed) with listed | listed
      · have above : rank a.1 ≤ rank other := by
          rcases mem_cons.mp listed with rfl | listed
          · exact Nat.le_refl _
          · exact rel_of_pairwise_cons left_sorted listed
        omega
      · exact rel_of_pairwise_cons right_sorted listed
    · have cons_right := ofRank_append rank r [b.1] (right.map Prod.fst)
      have cons_merged := ofRank_append rank r [b.1] (merge cmp (a :: left) right)
      rw [singleton_append] at cons_right cons_merged
      rw [cons_merged, of_rank r]
      simp only [map_cons]
      rw [cons_right]
      cases turned : reversed r with
      | true => simp
      | false =>
        by_cases same : rank b.1 = r
        · have below : r < rank a.1 := by
            by_contra above
            exact first (.inr ⟨by omega, by rw [show rank a.1 = r by omega]; exact turned⟩)
          have none_left : ofRank rank r (a.1 :: left.map Prod.fst) = [] :=
            ofRank_eq_nil below left_sorted
          rw [none_left]
          simp
        · have not_first : ofRank rank r [b.1] = [] := by simp [ofRank, same]
          rw [not_first]
          simp

/-- Sorting an array keeps or reverses the elements of a rank, and puts lower ranks first. -/
theorem sortAt_spec (ranks : Ranks cmp rank reversed) (place : Nat) (nodes : List α) :
    (sortAt cmp place nodes).Pairwise (fun a b => rank a ≤ rank b) ∧
      ∀ r, ofRank rank r (sortAt cmp place nodes) =
        if reversed r then (ofRank rank r nodes).reverse else ofRank rank r nodes := by
  fun_induction sortAt cmp place nodes with
  | case1 place nodes short =>
    match nodes, short with
    | [], _ => simp [ofRank]
    | [a], _ =>
      refine ⟨pairwise_singleton _ _, fun r => ?_⟩
      by_cases same : rank a = r <;> simp [ofRank, same]
  | case2 place nodes _ half ih_left ih_right =>
    have left_length := (sortAt_perm cmp place (nodes.take half)).length_eq
    have apart : ∀ a ∈ (sortAt cmp place (nodes.take half)).zipIdx place,
        ∀ b ∈ (sortAt cmp (place + half) (nodes.drop half)).zipIdx (place + half),
        a.2 < b.2 := by
      intro a a_listed b b_listed
      have a_place := snd_lt_add_of_mem_zipIdx a_listed
      have b_place := le_snd_of_mem_zipIdx b_listed
      rw [left_length, length_take] at a_place
      omega
    obtain ⟨sorted, of_rank⟩ := merge_spec ranks
      ((sortAt cmp place (nodes.take half)).zipIdx place)
      ((sortAt cmp (place + half) (nodes.drop half)).zipIdx (place + half)) apart
      (by rw [zipIdx_map_fst]; exact ih_left.1)
      (by rw [zipIdx_map_fst]; exact ih_right.1)
    refine ⟨sorted, fun r => ?_⟩
    rw [of_rank r, zipIdx_map_fst, zipIdx_map_fst, ih_left.2, ih_right.2]
    have halves := ofRank_append rank r (nodes.take half) (nodes.drop half)
    rw [take_append_drop] at halves
    rw [halves]
    split <;> simp

theorem ofRank_sort (ranks : Ranks cmp rank reversed) (r : Nat) (nodes : List α) :
    ofRank rank r (sort cmp nodes) =
      if reversed r then (ofRank rank r nodes).reverse else ofRank rank r nodes :=
  (sortAt_spec ranks 0 nodes).2 r

end

end InPlaceSort
