import Mathlib.Order.Bounds.Basic
import NetworkManager.Library.Bisection
import NetworkManager.Library.Comparison

/-!
# Binary search in a sorted array

`nm_utils_ptrarray_find_binary_search` bisects for any match, and from there for the first one and
the last one.  A read outside of the array and a failed assertion have no result.
-/

namespace NetworkManager.BinarySearch

open List

open Bisection (middle middle_mem search)

variable {α : Type*}

/-- The comparison with the element at an index, if there is one. -/
def compareAt (cmp : α → α → Ordering) (list : List α) (needle : α) (i : Int) : Option Ordering :=
  if 0 ≤ i then list[i.toNat]?.map (cmp · needle) else none

/-- The loop for the first match goes up from a smaller element and asserts that none is larger. -/
def firstIndex (cmp : α → α → Ordering) (list : List α) (needle : α) (imin imid : Int) :
    Option Int :=
  search (fun i => match compareAt cmp list needle i with
    | some .eq => some false
    | some .lt => some true
    | _ => none) imin (imid + 1)

/-- The loop for the last match goes down from a larger element and asserts that none is smaller. -/
def lastIndex (cmp : α → α → Ordering) (list : List α) (needle : α) (imid imax : Int) :
    Option Int :=
  (search (fun i => match compareAt cmp list needle i with
    | some .eq => some true
    | some .gt => some false
    | _ => none) (imid + 1) imax).map (· - 1)

structure Found where
  index : Int
  outIdxFirst : Option Int
  outIdxLast : Option Int
  deriving DecidableEq

/-- What is stored at a pointer that may be missing. -/
def setOut (asked : Bool) (value : Int) : Option Int := if asked then some value else none

/-- A search that is only made for a pointer. -/
def searchOut (asked : Bool) (result : Option Int) : Option (Option Int) :=
  if asked then result.map some else some none

def findLoop (cmp : α → α → Ordering) (list : List α) (needle : α) (askFirst askLast : Bool)
    (imin imax : Int) : Option Found :=
  if imin ≤ imax then
    match compareAt cmp list needle (middle imin imax) with
    | none => none
    | some .eq => do
      let first ← searchOut askFirst (firstIndex cmp list needle imin (middle imin imax))
      let last ← searchOut askLast (lastIndex cmp list needle (middle imin imax) imax)
      return ⟨middle imin imax, first, last⟩
    | some .lt => findLoop cmp list needle askFirst askLast (middle imin imax + 1) imax
    | some .gt => findLoop cmp list needle askFirst askLast imin (middle imin imax - 1)
  else some ⟨~~~imin, setOut askFirst (~~~imin), setOut askLast (~~~imin)⟩
  termination_by (imax + 1 - imin).toNat
  decreasing_by all_goals unfold middle; omega

def findBinarySearch (cmp : α → α → Ordering) (list : List α) (needle : α)
    (askFirst askLast : Bool) : Option Found :=
  findLoop cmp list needle askFirst askLast 0 (list.length - 1)

variable {cmp : α → α → Ordering} {list : List α} {needle : α}

/-- A sorted array has the smaller elements first, then the matches, then the larger ones. -/
theorem sorted_parts (lawful : LawfulCmpOn {x | x = needle ∨ x ∈ list} cmp)
    (sorted : list.Pairwise fun a b => (cmp a b).isLE = true) :
    ∃ lows sames highs, list = lows ++ (sames ++ highs) ∧ (∀ x ∈ lows, cmp x needle = .lt) ∧
      (∀ x ∈ sames, cmp x needle = .eq) ∧ ∀ x ∈ highs, cmp x needle = .gt := by
  induction list with
  | nil => exact ⟨[], [], [], by simp⟩
  | cons a list ih =>
    rw [pairwise_cons] at sorted
    obtain ⟨lows, sames, highs, rfl, below, same, above⟩ := ih
      (lawful.mono fun x mem => mem.imp_right (mem_cons_of_mem a)) sorted.2
    have a_mem : a ∈ {x | x = needle ∨ x ∈ a :: (lows ++ (sames ++ highs))} := by simp
    have in_tail {x : α} (mem : x ∈ lows ++ (sames ++ highs)) :
        x ∈ {x | x = needle ∨ x ∈ a :: (lows ++ (sames ++ highs))} :=
      .inr (mem_cons_of_mem a mem)
    have needle_mem : needle ∈ {x | x = needle ∨ x ∈ a :: (lows ++ (sames ++ highs))} := .inl rfl
    cases order : cmp a needle with
    | lt =>
      refine ⟨a :: lows, sames, highs, rfl, ?_, same, above⟩
      simpa [order] using below
    | eq =>
      have no_lows : lows = [] := by
        by_contra nonempty
        obtain ⟨x, mem⟩ := exists_mem_of_ne_nil lows nonempty
        have x_mem : x ∈ lows ++ (sames ++ highs) := mem_append_left _ mem
        have less := lawful.lt_of_steps a_mem (in_tail x_mem) needle_mem (sorted.1 x x_mem)
          (by rw [below x mem]; rfl) (.inr (below x mem))
        rw [order] at less
        cases less
      subst no_lows
      refine ⟨[], a :: sames, highs, rfl, by simp, ?_, above⟩
      simpa [order] using same
    | gt =>
      refine ⟨[], [], a :: (lows ++ (sames ++ highs)), rfl, by simp, by simp, fun x mem => ?_⟩
      rcases mem_cons.mp mem with rfl | later
      · exact order
      have needle_a : cmp needle a = .lt := by
        rw [lawful.swap a a_mem needle needle_mem, order]
        rfl
      have less := lawful.lt_of_steps needle_mem a_mem (in_tail later) (by rw [needle_a]; rfl)
        (sorted.1 x later) (.inl needle_a)
      rw [lawful.swap needle needle_mem x (in_tail later), less]
      rfl

/-- In a part whose elements compare the same way, every index gives that comparison. -/
theorem compareAt_part {front part back : List α} {order : Ordering} {i : Int}
    (all : ∀ x ∈ part, cmp x needle = order) (from_le : (front.length : Int) ≤ i)
    (before : i < front.length + part.length) :
    compareAt cmp (front ++ (part ++ back)) needle i = some order := by
  have inside : i.toNat - front.length < part.length := by omega
  rw [compareAt, if_pos (by omega), List.getElem?_append_right (by omega),
    List.getElem?_append_left inside, List.getElem?_eq_getElem inside, Option.map_some,
    all _ (getElem_mem inside)]

/-- The comparisons of an array with smaller elements up to one index and larger ones from another
on. -/
structure Splits (cmp : α → α → Ordering) (list : List α) (needle : α) (p q : Nat) : Prop where
  le : p ≤ q
  le_length : q ≤ list.length
  low : ∀ {i : Int}, 0 ≤ i → i < p → compareAt cmp list needle i = some .lt
  same : ∀ {i : Int}, p ≤ i → i < q → compareAt cmp list needle i = some .eq
  high : ∀ {i : Int}, q ≤ i → i < list.length → compareAt cmp list needle i = some .gt

section

variable {p q : Nat} {imin imid imax : Int}

theorem Splits.at_index (splits : Splits cmp list needle p q) {i : Int} (nonneg : 0 ≤ i)
    (inside : i < list.length) : ∃ order, compareAt cmp list needle i = some order ∧
      match order with
      | .lt => i < p
      | .eq => p ≤ i ∧ i < q
      | .gt => q ≤ i := by
  rcases lt_or_ge i p with below | not_below
  · exact ⟨.lt, splits.low nonneg below, below⟩
  rcases lt_or_ge i q with not_above | above
  · exact ⟨.eq, splits.same not_below not_above, not_below, not_above⟩
  · exact ⟨.gt, splits.high above inside, above⟩

theorem firstIndex_eq (splits : Splits cmp list needle p q) (nonneg : 0 ≤ imin) (le : imin ≤ p)
    (le_mid : p ≤ imid) (mid_lt : imid < q) :
    firstIndex cmp list needle imin imid = some (p : Int) := by
  apply Bisection.search_eq
  · intro i from_le before
    rw [splits.low (by omega) before]
  · intro i from_le before
    rw [splits.same from_le (by omega)]
  · omega
  · exact le
  · omega

theorem lastIndex_eq (splits : Splits cmp list needle p q) (le_mid : p ≤ imid) (mid_lt : imid < q)
    (le_max : q ≤ imax + 1) (max_lt : imax < list.length) :
    lastIndex cmp list needle imid imax = some (q - 1 : Int) := by
  unfold lastIndex
  rw [show search _ _ _ = some (q : Int) from Bisection.search_eq ?_ ?_ ?_ ?_ ?_, Option.map_some]
  · intro i from_le before
    rw [splits.same (by omega) before]
  · intro i from_le before
    rw [splits.high from_le (by omega)]
  · intro last
    rw [splits.high (by omega) max_lt]
  · omega
  · exact le_max

/-- While both boundaries are in the range, the loop ends with a match and the outermost ones, or
with the only place for the needle. -/
theorem findLoop_spec (splits : Splits cmp list needle p q) (askFirst askLast : Bool)
    (nonneg : 0 ≤ imin) (le_p : imin ≤ p) (le_max : q ≤ imax + 1) (max_lt : imax < list.length) :
    (∃ i : Nat, p ≤ i ∧ i < q ∧ findLoop cmp list needle askFirst askLast imin imax
      = some ⟨i, setOut askFirst p, setOut askLast (q - 1)⟩) ∨
    (p = q ∧ findLoop cmp list needle askFirst askLast imin imax
      = some ⟨~~~(p : Int), setOut askFirst (~~~(p : Int)), setOut askLast (~~~(p : Int))⟩) := by
  have p_le_q := splits.le
  fun_induction findLoop cmp list needle askFirst askLast imin imax with
  | case1 imin imax more missing =>
    have inside := middle_mem more
    obtain ⟨order, read, place⟩ := splits.at_index (nonneg.trans inside.1) (by omega)
    rw [read] at missing
    cases missing
  | case2 imin imax more found =>
    have inside := middle_mem more
    obtain ⟨order, read, place⟩ := splits.at_index (nonneg.trans inside.1) (by omega)
    rw [read] at found
    cases found
    refine .inl ⟨(middle imin imax).toNat, by omega, by omega, ?_⟩
    rw [firstIndex_eq splits nonneg le_p place.1 place.2,
      lastIndex_eq splits place.1 place.2 le_max max_lt, Int.toNat_of_nonneg (by omega)]
    cases askFirst <;> cases askLast <;> rfl
  | case3 imin imax more smaller ih =>
    have inside := middle_mem more
    obtain ⟨order, read, place⟩ := splits.at_index (nonneg.trans inside.1) (by omega)
    rw [read] at smaller
    cases smaller
    exact ih (by omega) place le_max max_lt
  | case4 imin imax more larger ih =>
    have inside := middle_mem more
    obtain ⟨order, read, place⟩ := splits.at_index (nonneg.trans inside.1) (by omega)
    rw [read] at larger
    cases larger
    exact ih nonneg le_p (by omega) (by omega)
  | case5 imin imax done =>
    have ended : imin = p := by omega
    rw [ended]
    exact .inr ⟨by omega, rfl⟩

end

def Matches (cmp : α → α → Ordering) (list : List α) (needle : α) (i : Nat) : Prop :=
  ∃ x, list[i]? = some x ∧ cmp x needle = .eq

theorem Splits.matches_iff {p q : Nat} (splits : Splits cmp list needle p q) (j : Nat) :
    Matches cmp list needle j ↔ p ≤ j ∧ j < q := by
  have match_iff : Matches cmp list needle j ↔ compareAt cmp list needle j = some .eq := by
    simp [Matches, compareAt]
  rw [match_iff]
  constructor
  · intro found
    have inside : j < list.length := by
      by_contra outside
      simp [compareAt, List.getElem?_eq_none (Nat.le_of_not_lt outside)] at found
    obtain ⟨order, read, place⟩ := splits.at_index (Int.natCast_nonneg j) (by omega)
    rw [read] at found
    cases found
    omega
  · rintro ⟨from_le, before⟩
    exact splits.same (by omega) (by omega)

/-- The search in a sorted array has a result: the index of a match with the first and the last
one, or the complement of a place for the needle. -/
theorem findBinarySearch_sorted (lawful : LawfulCmpOn {x | x = needle ∨ x ∈ list} cmp)
    (sorted : list.Pairwise fun a b => (cmp a b).isLE = true) (askFirst askLast : Bool) :
    (∃ i first last, Matches cmp list needle i ∧ IsLeast {j | Matches cmp list needle j} first ∧
      IsGreatest {j | Matches cmp list needle j} last ∧
      findBinarySearch cmp list needle askFirst askLast
        = some ⟨i, setOut askFirst first, setOut askLast last⟩) ∨
    ((¬ ∃ i, Matches cmp list needle i) ∧ ∃ k : Nat, k ≤ list.length ∧
      (list.take k ++ needle :: list.drop k).Pairwise (fun a b => (cmp a b).isLE = true) ∧
      findBinarySearch cmp list needle askFirst askLast
        = some ⟨~~~(k : Int), setOut askFirst (~~~(k : Int)), setOut askLast (~~~(k : Int))⟩) := by
  obtain ⟨lows, sames, highs, rfl, below, same, above⟩ := sorted_parts lawful sorted
  have splits : Splits cmp (lows ++ (sames ++ highs)) needle lows.length
      (lows.length + sames.length) := {
    le := Nat.le_add_right _ _
    le_length := by simp
    low := fun nonneg before => by
      rw [← nil_append (lows ++ (sames ++ highs))]
      exact compareAt_part below nonneg (by simpa using before)
    same := fun from_le before => compareAt_part same from_le (by exact_mod_cast before)
    high := fun {i} from_le before => by
      rw [← append_assoc, ← append_nil highs]
      simp only [length_append] at before
      refine compareAt_part above ?_ ?_
      · rw [length_append]
        exact from_le
      · rw [length_append]
        omega }
  have matches_iff (j : Nat) : Matches cmp (lows ++ (sames ++ highs)) needle j ↔
      lows.length ≤ j ∧ j < lows.length + sames.length :=
    splits.matches_iff j
  have covered : ((lows.length + sames.length : Nat) : Int)
      ≤ ((lows ++ (sames ++ highs)).length : Int) - 1 + 1 := by
    simp only [length_append]
    omega
  rcases findLoop_spec splits askFirst askLast (Int.le_refl 0) (by omega) covered (by omega) with
    ⟨i, le, lt, found⟩ | ⟨none_same, missing⟩
  · refine .inl ⟨i, lows.length, lows.length + sames.length - 1, (matches_iff i).mpr ⟨le, lt⟩,
      ⟨(matches_iff _).mpr ⟨by omega, by omega⟩, fun j mem => ((matches_iff j).mp mem).1⟩,
      ⟨(matches_iff _).mpr ⟨by omega, by omega⟩, fun j mem => ?_⟩, ?_⟩
    · have before := ((matches_iff j).mp mem).2
      omega
    · rw [findBinarySearch, found]
      congr
      omega
  · refine .inr ⟨?_, lows.length, by simp, ?_, missing⟩
    · rintro ⟨i, mem⟩
      have inside := (matches_iff i).mp mem
      omega
    · have empty : sames = [] := length_eq_zero_iff.mp (by omega)
      subst empty
      simp only [nil_append, take_left, drop_left] at sorted ⊢
      obtain ⟨lows_sorted, highs_sorted, across⟩ := pairwise_append.mp sorted
      refine pairwise_append.mpr ⟨lows_sorted, pairwise_cons.mpr ⟨?_, highs_sorted⟩, ?_⟩
      · intro x mem
        rw [lawful.swap x (by simp [mem]) needle (.inl rfl), above x mem]
        rfl
      · intro x x_mem y y_mem
        rcases mem_cons.mp y_mem with rfl | later
        · rw [below x x_mem]
          rfl
        · exact across x x_mem y later

theorem findBinarySearch_numbers :
    ∃ i first last : Nat, Matches compare [1, 3, 3, 7] 3 i ∧
      IsLeast {j | Matches compare [1, 3, 3, 7] 3 j} first ∧
      IsGreatest {j | Matches compare [1, 3, 3, 7] 3 j} last ∧
      findBinarySearch compare [1, 3, 3, 7] 3 true true = some ⟨i, some first, some last⟩ :=
  (findBinarySearch_sorted (.on id) (by decide) true true).resolve_right
    fun missing => missing.1 ⟨1, 3, rfl, rfl⟩

end NetworkManager.BinarySearch
