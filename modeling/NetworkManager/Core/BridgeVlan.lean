import Mathlib.Data.List.Chain
import Mathlib.Order.BooleanAlgebra.Basic
import Mathlib.Order.Nat
import NetworkManager.Library.Comparison

/-!
# Lists of bridge VLANs

A list is verified by collecting its VLAN ids in a set.  That it is normalized is verified with a
walk over adjacent ranges, and the sorter has a walk with the comparison of its own.
-/

namespace NetworkManager.Bridge

open List

/-- `NMBridgeVlan`: a range of ids.  Only a single id is ever made the PVID. -/
structure BridgeVlan where
  vidStart : Nat
  vidEnd : Nat
  untagged : Bool
  pvid : Bool
  min_le : 1 ≤ vidStart
  start_le : vidStart ≤ vidEnd
  le_max : vidEnd ≤ 4094
  single : pvid = true → vidStart = vidEnd
  deriving DecidableEq

/-- `nm_bridge_vlan_new`, where an end of zero stands for a single id. -/
def bridgeVlanNew (vidStart vidEnd : Nat) : Option BridgeVlan :=
  if valid : 1 ≤ vidStart ∧ (if vidEnd = 0 then vidStart else vidEnd) ≤ 4094 ∧
      vidStart ≤ (if vidEnd = 0 then vidStart else vidEnd) then
    some {
      vidStart := vidStart
      vidEnd := if vidEnd = 0 then vidStart else vidEnd
      untagged := false
      pvid := false
      min_le := valid.1
      start_le := valid.2.2
      le_max := valid.2.1
      single := Bool.noConfusion }
  else none

def BridgeVlan.setUntagged (vlan : BridgeVlan) (value : Bool) : BridgeVlan :=
  { vlan with untagged := value }

/-- A range is left as it is. -/
def BridgeVlan.setPvid (vlan : BridgeVlan) (value : Bool) : BridgeVlan :=
  if settable : value = true → vlan.vidStart = vlan.vidEnd then
    { vlan with pvid := value, single := settable }
  else vlan

/-- `nm_bridge_vlan_cmp`. -/
def bridgeVlanCmp (a b : BridgeVlan) : Ordering :=
  (compare a.vidStart b.vidStart).then ((compare a.vidEnd b.vidEnd).then
    ((compare a.untagged b.untagged).then (compare a.pvid b.pvid)))

/-- Adds the ids from one on to the set, or stops at one that it has. -/
def addVids (h : List Nat) (v : Nat) : Nat → Except Nat (List Nat)
  | 0 => .ok h
  | count + 1 => if v ∈ h then .error v else addVids (v :: h) (v + 1) count

/-- The loop that looks for ids and PVIDs that are there twice. -/
def verifyLoop (h : List Nat) (pvidFound : Bool) : List BridgeVlan → Except String Unit
  | [] => .ok ()
  | vlan :: vlans =>
    match addVids h vlan.vidStart (vlan.vidEnd + 1 - vlan.vidStart) with
    | .error v => .error s!"duplicate bridge VLAN vid {v}"
    | .ok h =>
      if vlan.pvid = true then
        if vlan.vidStart ≠ vlan.vidEnd ∨ pvidFound = true then
          .error "only one VLAN can be the PVID"
        else verifyLoop h true vlans
      else verifyLoop h pvidFound vlans

/-- The loop that looks for a range that begins before the end of the previous one. -/
def normalizedLoop (vidPrevEnd : Nat) : List BridgeVlan → Except String Unit
  | [] => .ok ()
  | vlan :: vlans =>
    if vlan.vidStart < vidPrevEnd then
      .error s!"Bridge VLANs {vidPrevEnd} and {vlan.vidStart} are not sorted by ascending vid"
    else normalizedLoop vlan.vidEnd vlans

def checkNormalized : List BridgeVlan → Except String Unit
  | [] => .ok ()
  | first :: others => normalizedLoop first.vidEnd others

/-- `_nm_utils_bridge_vlan_verify_list`. -/
def verifyList (vlans : List BridgeVlan) (checkNormalizable : Bool) (setting property : String) :
    Except String Unit :=
  if vlans.length ≤ 1 then .ok ()
  else
    (if checkNormalizable then checkNormalized vlans else verifyLoop [] false vlans).mapError
      fun message => s!"{setting}.{property}: {message}"

/-- Whether two neighbours are in the wrong order. -/
def needSort : List BridgeVlan → Bool
  | vlanPrev :: vlan :: vlans =>
    if bridgeVlanCmp vlanPrev vlan = .gt then true else needSort (vlan :: vlans)
  | _ => false

/-- `_nm_setting_bridge_sort_vlans`: the list afterwards and whether it was sorted. -/
def sortVlans (vlans : List BridgeVlan) : List BridgeVlan × Bool :=
  if needSort vlans then (vlans.mergeSort fun a b => (bridgeVlanCmp a b).isLE, true)
  else (vlans, false)

/-- The ids of a range. -/
def BridgeVlan.covers (vlan : BridgeVlan) (v : Nat) : Bool := vlan.vidStart ≤ v ∧ v ≤ vlan.vidEnd

/-- No id is covered twice, and at most one entry is the PVID. -/
structure Distinct (vlans : List BridgeVlan) : Prop where
  ids : ∀ v, vlans.countP (·.covers v) ≤ 1
  pvids : vlans.countP (·.pvid) ≤ 1

theorem covers_iff {vlan : BridgeVlan} {v : Nat} :
    vlan.covers v = true ↔ vlan.vidStart ≤ v ∧ v ≤ vlan.vidEnd :=
  decide_eq_true_iff

theorem addVids_spec (h : List Nat) (v count : Nat) :
    match addVids h v count with
    | .error _ => ∃ u, v ≤ u ∧ u < v + count ∧ u ∈ h
    | .ok after => ∀ u, (v ≤ u → u < v + count → u ∉ h) ∧
        (u ∈ after ↔ (v ≤ u ∧ u < v + count) ∨ u ∈ h) := by
  fun_induction addVids h v count with
  | case1 h v =>
    refine fun u => ⟨fun le lt => absurd lt (by omega), ?_⟩
    exact ⟨.inr, fun mem => mem.resolve_left fun inside => by omega⟩
  | case2 h v count present => exact ⟨v, by omega, by omega, present⟩
  | case3 h v count absent ih =>
    cases added : addVids (v :: h) (v + 1) count with
    | error u =>
      rw [added] at ih
      obtain ⟨u, le, lt, mem⟩ := ih
      rcases mem_cons.mp mem with rfl | mem
      · omega
      · exact ⟨u, by omega, by omega, mem⟩
    | ok after =>
      rw [added] at ih
      intro u
      obtain ⟨unused, mem_iff⟩ := ih u
      rw [mem_cons] at unused mem_iff
      constructor
      · intro le lt mem
        rcases Nat.eq_or_lt_of_le le with rfl | later
        · exact absent mem
        · exact unused later (by omega) (.inr mem)
      · rw [mem_iff]
        by_cases first : u = v
        · subst first
          simp
        · have rest_iff : v + 1 ≤ u ∧ u < v + 1 + count ↔ v ≤ u ∧ u < v + (count + 1) := by omega
          rw [rest_iff, or_iff_right first]

/-- Adding a range fails if one of its ids is there. -/
theorem addVids_covers (vlan : BridgeVlan) (h : List Nat) :
    match addVids h vlan.vidStart (vlan.vidEnd + 1 - vlan.vidStart) with
    | .error _ => ∃ u, vlan.covers u = true ∧ u ∈ h
    | .ok after => ∀ u, (vlan.covers u = true → u ∉ h) ∧
        (u ∈ after ↔ vlan.covers u = true ∨ u ∈ h) := by
  have spec := addVids_spec h vlan.vidStart (vlan.vidEnd + 1 - vlan.vidStart)
  have inside_iff (u : Nat) : vlan.vidStart ≤ u ∧
      u < vlan.vidStart + (vlan.vidEnd + 1 - vlan.vidStart) ↔ vlan.covers u = true := by
    have := vlan.start_le
    rw [covers_iff]
    omega
  cases added : addVids h vlan.vidStart (vlan.vidEnd + 1 - vlan.vidStart) with
  | error u =>
    rw [added] at spec
    obtain ⟨u, le, lt, mem⟩ := spec
    exact ⟨u, (inside_iff u).mp ⟨le, lt⟩, mem⟩
  | ok after =>
    rw [added] at spec
    intro u
    have here := spec u
    rw [inside_iff, ← and_imp, inside_iff] at here
    exact here

/-- Behind a range that was added, its ids are no longer free. -/
theorem covers_cons_iff {vlan : BridgeVlan} {h after : List Nat}
    (added : addVids h vlan.vidStart (vlan.vidEnd + 1 - vlan.vidStart) = .ok after)
    (vlans : List BridgeVlan) :
    (∀ v, vlans.countP (·.covers v) ≤ if v ∈ after then 0 else 1) ↔
      ∀ v, (vlan :: vlans).countP (·.covers v) ≤ if v ∈ h then 0 else 1 := by
  have spec := addVids_covers vlan h
  rw [added] at spec
  refine forall_congr' fun v => ?_
  obtain ⟨unused, mem_iff⟩ := spec v
  rw [countP_cons]
  by_cases covered : vlan.covers v = true
  · rw [if_pos covered, if_pos (mem_iff.mpr (.inl covered)), if_neg (unused covered)]
    omega
  · have same : v ∈ after ↔ v ∈ h := mem_iff.trans (or_iff_right covered)
    simp [covered, same]

/-- The loop accepts what has no id twice and none of the set, and no PVID twice. -/
theorem verifyLoop_iff (h : List Nat) (pvidFound : Bool) (vlans : List BridgeVlan) :
    verifyLoop h pvidFound vlans = .ok () ↔
      (∀ v, vlans.countP (·.covers v) ≤ if v ∈ h then 0 else 1) ∧
        vlans.countP (·.pvid) ≤ if pvidFound = true then 0 else 1 := by
  fun_induction verifyLoop h pvidFound vlans with
  | case1 h pvidFound => simp
  | case2 h pvidFound vlan vlans v duplicate =>
    have spec := addVids_covers vlan h
    rw [duplicate] at spec
    obtain ⟨u, covered, mem⟩ := spec
    simp only [reduceCtorEq, false_iff]
    rintro ⟨ids, -⟩
    have := ids u
    rw [countP_cons, if_pos covered, if_pos mem] at this
    omega
  | case3 h pvidFound vlan vlans after added is_pvid twice =>
    simp only [reduceCtorEq, false_iff]
    rintro ⟨-, pvids⟩
    rw [countP_cons, if_pos is_pvid, if_pos (twice.resolve_left fun range =>
      range (vlan.single is_pvid))] at pvids
    omega
  | case4 h pvidFound vlan vlans after added is_pvid first ih =>
    have unset : ¬ pvidFound = true := fun found => first (.inr found)
    rw [ih, covers_cons_iff added, countP_cons, if_pos is_pvid, if_neg unset, if_pos rfl]
    exact and_congr_right fun _ => by omega
  | case5 h pvidFound vlan vlans after added not_pvid ih =>
    rw [ih, covers_cons_iff added, countP_cons, if_neg not_pvid]
    rfl

variable {vlans : List BridgeVlan} {setting property : String}

theorem mapError_eq_ok {result : Except String Unit} {describe : String → String} :
    result.mapError describe = .ok () ↔ result = .ok () := by
  cases result with
  | error message => simp [Except.mapError]
  | ok => rfl

/-- The list is accepted if no id and no PVID is there twice. -/
theorem verifyList_iff : verifyList vlans false setting property = .ok () ↔ Distinct vlans := by
  unfold verifyList
  split
  · next few =>
    exact iff_of_true rfl
      ⟨fun _ => countP_le_length.trans few, countP_le_length.trans few⟩
  · rw [mapError_eq_ok, if_neg Bool.false_ne_true, verifyLoop_iff]
    simp only [not_mem_nil, if_false, Bool.false_eq_true]
    exact ⟨fun loop => ⟨loop.1, loop.2⟩, fun distinct => ⟨distinct.ids, distinct.pvids⟩⟩

theorem bridgeVlanCmp_lawful : LawfulCmpOn Set.univ bridgeVlanCmp :=
  (LawfulCmpOn.on _).andThen ((LawfulCmpOn.on _).andThen ((LawfulCmpOn.on _).andThen (.on _)))

/-- The relation between neighbours that the sorter leaves alone. -/
def InOrder (a b : BridgeVlan) : Prop := (bridgeVlanCmp a b).isLE = true

theorem needSort_iff : needSort vlans = false ↔ vlans.IsChain InOrder := by
  fun_induction needSort vlans with
  | case1 a b vlans out_of_order => simp [InOrder, out_of_order]
  | case2 a b vlans in_order ih =>
    have le : InOrder a b := by
      unfold InOrder
      cases order : bridgeVlanCmp a b with
      | gt => exact absurd order in_order
      | _ => rfl
    rw [ih, isChain_cons_cons, and_iff_right le]
  | case3 vlans short =>
    refine iff_of_true rfl ?_
    match vlans, short with
    | [], _ => exact .nil
    | [a], _ => exact .singleton a
    | a :: b :: vlans, short => exact absurd rfl (short a b vlans)

theorem pairwise_sorted (vlans : List BridgeVlan) :
    (vlans.mergeSort fun a b => (bridgeVlanCmp a b).isLE).Pairwise InOrder := by
  have lawful := bridgeVlanCmp_lawful
  refine pairwise_mergeSort (fun a b c => lawful.trans a trivial b trivial c trivial)
    (fun a b => ?_) vlans
  rw [lawful.swap a trivial b trivial]
  cases bridgeVlanCmp a b <;> rfl

theorem sortVlans_perm : (sortVlans vlans).1.Perm vlans := by
  unfold sortVlans
  split
  · exact mergeSort_perm _ _
  · exact .refl _

theorem needSort_sortVlans : needSort (sortVlans vlans).1 = false := by
  unfold sortVlans
  split
  · exact needSort_iff.mpr (pairwise_sorted vlans).isChain
  · next sorted => exact Bool.eq_false_iff.mpr sorted

theorem sortVlans_eq_iff : (sortVlans vlans).1 = vlans ↔ needSort vlans = false := by
  constructor
  · intro same
    rw [← same]
    exact needSort_sortVlans
  · intro sorted
    rw [sortVlans, if_neg (by simp [sorted])]

theorem bridgeVlanCmp_of_lt {a b : BridgeVlan} (lt : a.vidStart < b.vidStart) :
    bridgeVlanCmp a b = .lt := by
  rw [bridgeVlanCmp, Nat.compare_eq_lt.mpr lt]
  rfl

/-- Of two ranges without a common id, one lies behind the other. -/
theorem Distinct.apart {a b : BridgeVlan} (distinct : Distinct (a :: b :: vlans)) :
    a.vidEnd < b.vidStart ∨ b.vidEnd < a.vidStart := by
  by_contra overlap
  have a_le := a.start_le
  have b_le := b.start_le
  have once := distinct.ids (max a.vidStart b.vidStart)
  have in_a : a.covers (max a.vidStart b.vidStart) = true := covers_iff.mpr (by omega)
  have in_b : b.covers (max a.vidStart b.vidStart) = true := covers_iff.mpr (by omega)
  rw [countP_cons, countP_cons, if_pos in_a, if_pos in_b] at once
  omega

theorem Distinct.tail {a : BridgeVlan} (distinct : Distinct (a :: vlans)) : Distinct vlans where
  ids v := (Sublist.countP_le (sublist_cons_self a vlans)).trans (distinct.ids v)
  pvids := (Sublist.countP_le (sublist_cons_self a vlans)).trans distinct.pvids

theorem normalizedLoop_iff {first : BridgeVlan} (distinct : Distinct (first :: vlans)) :
    normalizedLoop first.vidEnd vlans = .ok () ↔ needSort (first :: vlans) = false := by
  induction vlans generalizing first with
  | nil => exact iff_of_true rfl rfl
  | cons second vlans ih =>
    have first_le := first.start_le
    have second_le := second.start_le
    unfold normalizedLoop needSort
    rcases distinct.apart with before | behind
    · rw [if_neg (by omega), bridgeVlanCmp_of_lt (by omega), ih distinct.tail]
      rfl
    · have out_of_order : bridgeVlanCmp first second = .gt := by
        rw [bridgeVlanCmp_lawful.swap second trivial first trivial, bridgeVlanCmp_of_lt (by omega)]
        rfl
      rw [if_pos (by omega), if_pos out_of_order]
      simp

/-- Among ranges without a common id, the walk over the ranges finds the pairs that the comparison
finds. -/
theorem checkNormalized_iff (distinct : Distinct vlans) :
    checkNormalized vlans = .ok () ↔ needSort vlans = false := by
  cases vlans with
  | nil => exact iff_of_true rfl rfl
  | cons first others => exact normalizedLoop_iff distinct

theorem Distinct.perm {others : List BridgeVlan} (perm : others.Perm vlans)
    (distinct : Distinct vlans) : Distinct others where
  ids v := by
    rw [perm.countP_eq]
    exact distinct.ids v
  pvids := by
    rw [perm.countP_eq]
    exact distinct.pvids

theorem verifyList_normalized_iff (distinct : Distinct vlans) :
    verifyList vlans true setting property = .ok () ↔ (sortVlans vlans).1 = vlans := by
  rw [sortVlans_eq_iff, ← checkNormalized_iff distinct]
  unfold verifyList
  split
  · next few =>
    refine iff_of_true rfl ?_
    match vlans, few with
    | [], _ => rfl
    | [_], _ => rfl
  · rw [mapError_eq_ok, if_pos rfl]

/-- The two modes and the sorter agree. -/
theorem verifyList_spec (vlans : List BridgeVlan) (setting property : String) :
    (verifyList vlans false setting property = .ok () ↔ Distinct vlans) ∧
    (verifyList vlans false setting property = .ok () →
      (verifyList vlans true setting property = .ok () ↔ (sortVlans vlans).1 = vlans) ∧
      (sortVlans vlans).1.Perm vlans ∧
      verifyList (sortVlans vlans).1 false setting property = .ok () ∧
      verifyList (sortVlans vlans).1 true setting property = .ok ()) := by
  refine ⟨verifyList_iff, fun accepted => ?_⟩
  have distinct := verifyList_iff.mp accepted
  have sorted_distinct := distinct.perm sortVlans_perm
  refine ⟨verifyList_normalized_iff distinct, sortVlans_perm, verifyList_iff.mpr sorted_distinct,
    (verifyList_normalized_iff sorted_distinct).mpr ?_⟩
  exact sortVlans_eq_iff.mpr needSort_sortVlans

end NetworkManager.Bridge
