import Mathlib.Algebra.Group.Nat.Defs
import Mathlib.Data.List.Basic

/-!
# Arrays

Memory is zero if it is the same as itself some bytes further on and begins with zeros.  Elements
are removed from an array by moving what lies between them to the front, block by block.
-/

namespace NetworkManager.Arrays

open List

/-- The loop over the first bytes in `nm_utils_memeqzero`: what is returned, or what is left. -/
def memeqzeroLoop : Nat → List UInt8 → Bool ⊕ List UInt8
  | 0, p => .inr p
  | _ + 1, [] => .inl true
  | len + 1, c :: p => if c ≠ 0 then .inl false else memeqzeroLoop len p

def memeqzero (data : List UInt8) : Bool :=
  match memeqzeroLoop 16 data with
  | .inl result => result
  | .inr p => data.take p.length = p

/-- Memory that is the same as what follows its first elements repeats them. -/
theorem eq_of_take_eq {α : Type} {z : α} {front rest : List α} (nonempty : front ≠ [])
    (first : ∀ x ∈ front, x = z) (same : (front ++ rest).take rest.length = rest) :
    ∀ x ∈ rest, x = z := by
  have at_place : ∀ i, ∀ inside : i < rest.length, rest[i] = z := by
    intro i
    induction i using Nat.strongRecOn with
    | ind i ih =>
      intro inside
      have read : (front ++ rest)[i]? = some rest[i] := by
        rw [← List.getElem?_eq_getElem inside, ← List.getElem?_take_of_lt inside, same]
      have positive := length_pos_iff.mpr nonempty
      by_cases early : i < front.length
      · rw [List.getElem?_append_left early, List.getElem?_eq_getElem early] at read
        rw [← Option.some.inj read]
        exact first _ (getElem_mem early)
      · have before : i - front.length < rest.length := by omega
        rw [List.getElem?_append_right (Nat.le_of_not_lt early),
          List.getElem?_eq_getElem before] at read
        rw [← Option.some.inj read]
        exact ih _ (by omega) before
  intro x mem
  obtain ⟨i, inside, rfl⟩ := getElem_of_mem mem
  exact at_place i inside

theorem memeqzeroLoop_spec (len : Nat) (data : List UInt8) :
    match memeqzeroLoop len data with
    | .inl result => result = true ↔ ∀ c ∈ data, c = 0
    | .inr p => data = List.replicate len 0 ++ p := by
  fun_induction memeqzeroLoop len data with
  | case1 p => rfl
  | case2 len => simp
  | case3 len c p nonzero => simp [nonzero]
  | case4 len c p zero ih =>
    rw [not_not.mp zero]
    cases left : memeqzeroLoop len p with
    | inl result => simpa [left] using ih
    | inr rest =>
      rw [left] at ih
      dsimp only at ih ⊢
      rw [replicate_succ, cons_append, ← ih]

/-- The memory is zero exactly if all of its bytes are. -/
theorem memeqzero_iff (data : List UInt8) : memeqzero data = true ↔ ∀ c ∈ data, c = 0 := by
  have spec := memeqzeroLoop_spec 16 data
  unfold memeqzero
  cases left : memeqzeroLoop 16 data with
  | inl result =>
    rw [left] at spec
    exact spec
  | inr p =>
    rw [left] at spec
    dsimp only at spec ⊢
    rw [decide_eq_true_iff]
    have zeros : ∀ c ∈ replicate 16 (0 : UInt8), c = 0 := fun c => eq_of_mem_replicate
    constructor
    · intro same c mem
      rw [spec] at same mem
      rcases mem_append.mp mem with early | late
      · exact zeros c early
      · exact eq_of_take_eq (by simp) zeros same c late
    · intro all
      have p_zero : p = replicate p.length 0 := by
        refine eq_replicate_iff.mpr ⟨rfl, fun c mem => all c ?_⟩
        rw [spec]
        exact mem_append_right _ mem
      rw [spec, p_zero, ← replicate_add, take_replicate]
      simp

variable {α : Type*}

/-- `G_MAXUINT`. -/
def maxUint : Nat := 4294967295

/-- A `GArray`, whose length is a `guint`. -/
structure GArray (α : Type*) where
  data : List α
  len_le : data.length ≤ maxUint

/-- `memmove` of elements, if it stays in the array. -/
def memmove (data : List α) (dst src len : Nat) : Option (List α) :=
  if src + len ≤ data.length ∧ dst + len ≤ data.length then
    some (data.take dst ++ (data.drop src).take len ++ data.drop (dst + len))
  else none

/-- The variables of `nm_utils_array_remove_at_indexes`. -/
structure Removal (α : Type*) where
  data : List α
  indexToDelete : Nat
  /-- The indexes behind the one at hand. -/
  others : List Nat
  mmDst : Nat
  mmSrc : Nat
  mmLen : Nat
  resLength : Nat

/-- The loop that looks for the next index; one that does not ascend is skipped with a warning. -/
def nextIndex (arrayLen : Nat) (state : Removal α) : List Nat → Option (Removal α)
  | [] => some { state with indexToDelete := maxUint, others := [] }
  | dd :: others =>
    if state.indexToDelete < dd then
      if arrayLen ≤ dd then some { state with indexToDelete := dd, others := others }
      else if 0 < state.resLength then
        some { state with
          indexToDelete := dd, others := others, resLength := state.resLength - 1 }
      else none
    else nextIndex arrayLen state others

/-- The block between two indexes moves to the front. -/
def moveBlock (state : Removal α) : Option (List α) :=
  if state.mmLen ≠ 0 then memmove state.data state.mmDst state.mmSrc state.mmLen
  else some state.data

def removalTurn (arrayLen iSrc : Nat) (state : Removal α) : Option (Removal α) :=
  if iSrc < state.indexToDelete then some { state with mmLen := state.mmLen + 1 }
  else do
    let state ← nextIndex arrayLen state state.others
    let data ← moveBlock state
    return { state with
      data := data
      mmDst := state.mmDst + state.mmLen
      mmSrc := state.mmSrc + state.mmLen + 1
      mmLen := 0 }

/-- The turns from a place on. -/
def removalLoop (arrayLen : Nat) : Nat → Nat → Removal α → Option (Removal α)
  | 0, _, state => some state
  | turns + 1, iSrc, state =>
    (removalTurn arrayLen iSrc state).bind (removalLoop arrayLen turns (iSrc + 1))

/-- `nm_utils_array_remove_at_indexes`: the elements afterwards, unless memory outside of the array
is accessed or an assertion fails. -/
def arrayRemoveAtIndexes (array : GArray α) : List Nat → Option (List α)
  | [] => some array.data
  | index :: others =>
    let arrayLen := array.data.length
    if arrayLen ≤ index then some array.data
    else do
      let state ← removalLoop arrayLen (arrayLen - index) index
        ⟨array.data, index, others, index, index, 0, arrayLen - 1⟩
      let data ← moveBlock state
      return data.take state.resLength

/-- The elements that are not at one of the indexes, in an array that begins at a place. -/
def kept (indexes : List Nat) (place : Nat) (data : List α) : List α :=
  ((data.zipIdx place).filter fun element => element.2 ∉ indexes).map Prod.fst

theorem kept_cons (indexes : List Nat) (place : Nat) (x : α) (rest : List α) :
    kept indexes place (x :: rest) =
      (if place ∈ indexes then [] else [x]) ++ kept indexes (place + 1) rest := by
  unfold kept
  rw [zipIdx_cons, filter_cons]
  by_cases mem : place ∈ indexes
  · simp [mem]
  · simp [mem]

theorem kept_append (indexes : List Nat) (place : Nat) (front rest : List α) :
    kept indexes place (front ++ rest) =
      kept indexes place front ++ kept indexes (place + front.length) rest := by
  unfold kept
  rw [zipIdx_append, filter_append, map_append]

/-- Indexes outside of an array do not matter. -/
theorem kept_congr {first second : List Nat} {place : Nat} {data : List α}
    (same : ∀ index, place ≤ index → index < place + data.length →
      (index ∈ first ↔ index ∈ second)) : kept first place data = kept second place data := by
  unfold kept
  congr 1
  refine filter_congr fun element mem => ?_
  obtain ⟨le, lt, -⟩ := mem_zipIdx mem
  simp [same element.2 le lt]

theorem kept_nil (place : Nat) (data : List α) : kept [] place data = data := by
  simp [kept]

theorem memmove_eq (front gap block rest : List α) :
    memmove (front ++ gap ++ block ++ rest) front.length (front ++ gap).length block.length =
      some (front ++ block ++ ((gap ++ block).drop block.length ++ rest)) := by
  have room : block.length ≤ (gap ++ block).length := by
    rw [length_append]
    omega
  rw [memmove, if_pos (by simp; omega)]
  congr 1
  have moved : ((front ++ gap ++ block ++ rest).drop (front ++ gap).length).take block.length =
      block := by
    rw [append_assoc, drop_left, take_left]
  have front_eq : (front ++ gap ++ block ++ rest).take front.length = front := by
    rw [append_assoc, append_assoc, take_left]
  have behind : (front ++ gap ++ block ++ rest).drop (front.length + block.length) =
      (gap ++ block).drop block.length ++ rest := by
    rw [append_assoc front, append_assoc front, ← drop_drop, drop_left,
      drop_append_of_le_length room]
  rw [moved, front_eq, behind]

/-- What the array looks like between two turns.  The elements that stay are in front, then what is
left of moving them, then the block that is to be moved, then what was not looked at. -/
structure Progress (state : Removal α) (pending : List Nat) (front gap block rest : List α) :
    Prop where
  data_eq : state.data = front ++ gap ++ block ++ rest
  index_eq : state.indexToDelete = pending.headD maxUint
  others_eq : state.others = pending.tail
  dst_eq : state.mmDst = front.length
  src_eq : state.mmSrc = (front ++ gap).length
  len_eq : state.mmLen = block.length
  resLength_eq : state.resLength + (if pending = [] then 0 else 1) = (front ++ block ++ rest).length

variable {state : Removal α} {pending : List Nat} {front gap block rest : List α} {x : α}
  {arrayLen : Nat}

theorem moveBlock_eq (progress : Progress state pending front gap block rest) :
    ∃ left, left.length = gap.length ∧
      moveBlock state = some (front ++ block ++ (left ++ rest)) := by
  refine ⟨(gap ++ block).drop block.length, by simp, ?_⟩
  unfold moveBlock
  rw [progress.data_eq, progress.dst_eq, progress.src_eq, progress.len_eq, memmove_eq]
  split
  · rfl
  · rename_i empty
    have block_eq := length_eq_zero_iff.mp (not_not.mp empty)
    simp [block_eq]

/-- An element that stays makes the block longer. -/
theorem removalTurn_stays (progress : Progress state pending front gap block (x :: rest))
    {iSrc : Nat} (before : iSrc < pending.headD maxUint) :
    ∃ after, removalTurn arrayLen iSrc state = some after ∧
      Progress after pending front gap (block ++ [x]) rest := by
  refine ⟨{ state with mmLen := state.mmLen + 1 }, ?_, ?_⟩
  · rw [removalTurn, if_pos (by rwa [progress.index_eq])]
  · refine ⟨?_, progress.index_eq, progress.others_eq, progress.dst_eq, progress.src_eq, ?_, ?_⟩
    · rw [progress.data_eq]
      simp
    · rw [progress.len_eq, length_append, length_singleton]
    · rw [progress.resLength_eq]
      simp

theorem removalTurn_eq {index next resLength : Nat} {others : List Nat} {data : List α}
    (at_index : state.indexToDelete = index)
    (next_eq : nextIndex arrayLen state state.others =
      some { state with indexToDelete := next, others := others, resLength := resLength })
    (moved : moveBlock state = some data) :
    removalTurn arrayLen index state = some ⟨data, next, others, state.mmDst + state.mmLen,
      state.mmSrc + state.mmLen + 1, 0, resLength⟩ := by
  rw [removalTurn, if_neg (by rw [at_index]; exact Nat.lt_irrefl _), next_eq]
  exact congrArg (Option.bind · _) moved

theorem removalTurn_deletes {index : Nat} {others : List Nat}
    (progress : Progress state (index :: others) front gap block (x :: rest))
    (ascending : ∀ other ∈ others, index < other ∧ other < arrayLen)
    (more : others ≠ [] → rest ≠ []) :
    ∃ after left, removalTurn arrayLen index state = some after ∧
      Progress after others (front ++ block) (left ++ [x]) [] rest := by
  have index_eq : state.indexToDelete = index := progress.index_eq
  have others_eq : state.others = others := progress.others_eq
  have resLength_eq : state.resLength = (front ++ block ++ rest).length := by
    have counted := progress.resLength_eq
    rw [if_neg (cons_ne_nil _ _)] at counted
    simp at counted ⊢
    omega
  obtain ⟨left, left_length, moved⟩ := moveBlock_eq progress
  have data_eq : front ++ block ++ (left ++ x :: rest) =
      front ++ block ++ (left ++ [x]) ++ [] ++ rest := by simp
  have dst_eq : state.mmDst + state.mmLen = (front ++ block).length := by
    rw [progress.dst_eq, progress.len_eq, length_append]
  have src_eq : state.mmSrc + state.mmLen + 1 = (front ++ block ++ (left ++ [x])).length := by
    rw [progress.src_eq, progress.len_eq]
    simp [left_length]
    omega
  cases others with
  | nil =>
    have next_eq : nextIndex arrayLen state state.others =
        some { state with indexToDelete := maxUint, others := [] } := by
      rw [others_eq]
      rfl
    exact ⟨_, left, removalTurn_eq index_eq next_eq moved, data_eq, rfl, rfl, dst_eq, src_eq, rfl,
      by simpa using resLength_eq⟩
  | cons other later =>
    obtain ⟨above, inside⟩ := ascending other mem_cons_self
    have positive : 0 < state.resLength := by
      have := length_pos_iff.mpr (more (cons_ne_nil _ _))
      rw [resLength_eq, length_append]
      omega
    have next_eq : nextIndex arrayLen state state.others =
        some { state with
          indexToDelete := other, others := later, resLength := state.resLength - 1 } := by
      rw [others_eq, nextIndex, if_pos (by rwa [index_eq]), if_neg (by omega), if_pos positive]
    refine ⟨_, left, removalTurn_eq index_eq next_eq moved, data_eq, rfl, rfl, dst_eq, src_eq, rfl,
      ?_⟩
    rw [if_neg (cons_ne_nil _ _), append_nil]
    exact (Nat.sub_add_cancel positive).trans resLength_eq

/-- The loop keeps the elements at other places. -/
theorem removalLoop_spec (rest : List α) {state : Removal α} {pending : List Nat}
    {front gap block : List α} {iSrc : Nat}
    (progress : Progress state pending front gap block rest)
    (ascending : pending.Pairwise (· < ·))
    (valid : ∀ index ∈ pending, iSrc ≤ index ∧ index < arrayLen)
    (ends : iSrc + rest.length = arrayLen) (len_le : arrayLen ≤ maxUint) :
    ∃ after frontAfter gapAfter blockAfter,
      removalLoop arrayLen rest.length iSrc state = some after ∧
      Progress after [] frontAfter gapAfter blockAfter [] ∧
      frontAfter ++ blockAfter = front ++ block ++ kept pending iSrc rest := by
  induction rest generalizing state pending front gap block iSrc with
  | nil =>
    have none_left : pending = [] := eq_nil_iff_forall_not_mem.mpr fun index mem => by
      have := valid index mem
      rw [length_nil] at ends
      omega
    subst none_left
    exact ⟨state, front, gap, block, rfl, progress, (append_nil _).symm⟩
  | cons x rest ih =>
    rw [length_cons] at ends
    rw [kept_cons]
    by_cases at_index : pending.head? = some iSrc
    · obtain ⟨others, rfl⟩ := head?_eq_some_iff.mp at_index
      obtain ⟨above, ascending⟩ := pairwise_cons.mp ascending
      have more : others ≠ [] → rest ≠ [] := by
        rintro nonempty rfl
        obtain ⟨other, mem⟩ := exists_mem_of_ne_nil _ nonempty
        have := above other mem
        have := valid other (mem_cons_of_mem _ mem)
        rw [length_nil] at ends
        omega
      obtain ⟨after, left, turn_eq, later⟩ := removalTurn_deletes progress
        (fun other mem => ⟨above other mem, (valid other (mem_cons_of_mem _ mem)).2⟩) more
      obtain ⟨final, frontAfter, gapAfter, blockAfter, loop_eq, done, kept_eq⟩ := ih later ascending
        (fun other mem => ⟨above other mem, (valid other (mem_cons_of_mem _ mem)).2⟩)
        (by omega)
      refine ⟨final, frontAfter, gapAfter, blockAfter, ?_, done, ?_⟩
      · rw [length_cons, removalLoop, turn_eq]
        exact loop_eq
      · rw [kept_eq, if_pos mem_cons_self, append_nil, nil_append]
        congr 1
        refine kept_congr fun index above_place _ => ?_
        rw [mem_cons, or_iff_right (by omega)]
    · have before : iSrc < pending.headD maxUint ∧ iSrc ∉ pending := by
        cases pending with
        | nil => exact ⟨by simp; omega, not_mem_nil⟩
        | cons first others =>
          have first_valid := valid first mem_cons_self
          have other : first ≠ iSrc := fun same => at_index (congrArg some same)
          refine ⟨by simp; omega, ?_⟩
          rw [mem_cons, not_or]
          refine ⟨other.symm, fun mem => ?_⟩
          have := (pairwise_cons.mp ascending).1 iSrc mem
          omega
      obtain ⟨after, turn_eq, later⟩ := removalTurn_stays progress before.1
      have valid_later : ∀ index ∈ pending, iSrc + 1 ≤ index ∧ index < arrayLen := by
        intro index mem
        have differs : index ≠ iSrc := fun same => before.2 (same ▸ mem)
        have := valid index mem
        omega
      obtain ⟨final, frontAfter, gapAfter, blockAfter, loop_eq, done, kept_eq⟩ :=
        ih later ascending valid_later (by omega)
      refine ⟨final, frontAfter, gapAfter, blockAfter, ?_, done, ?_⟩
      · rw [length_cons, removalLoop, turn_eq]
        exact loop_eq
      · rw [kept_eq, if_neg before.2]
        simp

/-- Exactly the elements at the indexes are removed, and the order of the others stays. -/
theorem arrayRemoveAtIndexes_eq (array : GArray α) (indexes : List Nat)
    (ascending : indexes.Pairwise (· < ·)) (valid : ∀ index ∈ indexes, index < array.data.length) :
    arrayRemoveAtIndexes array indexes = some (kept indexes 0 array.data) := by
  cases indexes with
  | nil => rw [kept_nil, arrayRemoveAtIndexes]
  | cons index others =>
    have inside := valid index mem_cons_self
    obtain ⟨above, -⟩ := pairwise_cons.mp ascending
    have start : Progress ⟨array.data, index, others, index, index, 0, array.data.length - 1⟩
        (index :: others) (array.data.take index) [] [] (array.data.drop index) := by
      refine ⟨by simp, rfl, rfl, ?_, ?_, rfl, ?_⟩ <;> simp <;> omega
    have valid_from : ∀ other ∈ index :: others, index ≤ other ∧ other < array.data.length := by
      intro other mem
      refine ⟨?_, valid other mem⟩
      rcases mem_cons.mp mem with rfl | later
      · exact Nat.le_refl _
      · exact Nat.le_of_lt (above other later)
    obtain ⟨after, front, gap, block, loop_eq, done, kept_eq⟩ := removalLoop_spec _ start ascending
      valid_from (by rw [length_drop]; omega) array.len_le
    obtain ⟨left, -, moved⟩ := moveBlock_eq done
    have front_kept : kept (index :: others) 0 (array.data.take index) = array.data.take index := by
      refine (kept_congr fun place _ before => iff_of_false (fun mem => ?_) not_mem_nil).trans
        (kept_nil 0 _)
      have := (valid_from place mem).1
      rw [length_take] at before
      omega
    have kept_all : front ++ block = kept (index :: others) 0 array.data := by
      have split := kept_append (index :: others) 0 (array.data.take index) (array.data.drop index)
      rw [take_append_drop, front_kept, length_take,
        Nat.min_eq_left (Nat.le_of_lt inside), Nat.zero_add] at split
      rw [kept_eq, split, append_nil]
    have resLength_eq : after.resLength = (front ++ block).length := by
      simpa using done.resLength_eq
    rw [length_drop] at loop_eq
    rw [arrayRemoveAtIndexes, if_neg (Nat.not_le.mpr inside), loop_eq, Option.bind_eq_bind,
      Option.bind_some, moved, resLength_eq, ← kept_all]
    exact congrArg some take_left

/-- Two elements next to each other and a later one. -/
theorem arrayRemoveAtIndexes_letters :
    arrayRemoveAtIndexes ⟨['a', 'b', 'c', 'd', 'e'], by decide⟩ [1, 2, 4] = some ['a', 'd'] :=
  arrayRemoveAtIndexes_eq ⟨['a', 'b', 'c', 'd', 'e'], by decide⟩ [1, 2, 4] (by decide) (by decide)

end NetworkManager.Arrays
