import NetworkManager.Library.ListSort
import NetworkManager.Settings.Storage

/-!
# The priority of storages

The comparison of storages consults the prioritize flag at two depths: before the directory when
both sides are profiles, and after tombstones otherwise.  It is an order on a list of storages
unless the list holds a profile in `/run`, a tombstone outside of `/run` and a prioritized profile
outside of `/run` at once.
-/

namespace NetworkManager

open NMSettingsStorage Option Ordering

/-- The importance of the directory of a storage. -/
def NMSettingsStorage.typeKey (storage : NMSettingsStorage) : Int :=
  match storage.storageType with
  | some type => -type.value
  | none => 0

/-- The modification time that storages are compared by. -/
def NMSettingsStorage.mtimeKey : NMSettingsStorage → Timespec
  | .keyfileConn _ _ _ data => data.statMtime
  | .ifcfgRh _ _ statMtime => statMtime
  | _ => ⟨0, 0⟩

def NMSettingsStorage.nameKey : NMSettingsStorage → String
  | .keyfileConn _ _ name _ => name
  | .ifcfgRh _ path _ => path
  | _ => ""

/-- The order of storages, key by key. -/
def storageOrder (plugins : List NMSettingsPlugin) :
    NMSettingsStorage → NMSettingsStorage → Ordering :=
  compareLex (compareOn (·.isKeyfileRun)) <|
  compareLex (compareOn fun storage => -slistIndex plugins storage.getPlugin) <|
  compareLex (compareOn (·.typeKey)) <|
  compareLex (compareOn (·.isMetaData.isSome)) <|
  compareLex (compareOn (·.isTombstone)) <|
  compareLex (compareOn (·.mtimeKey.tvSec)) <|
  compareLex (compareOn (·.mtimeKey.tvNsec)) (compareOn (·.nameKey))

instance (plugins : List NMSettingsPlugin) : Std.TransCmp (storageOrder plugins) := by
  unfold storageOrder
  infer_instance

theorem compare_neg (a b : Int) : compare (-a) (-b) = compare b a := by
  rcases lt_trichotomy a b with less | rfl | greater
  · rw [Int.compare_eq_gt.mpr (by omega : -b < -a), Int.compare_eq_gt.mpr less]
  · simp
  · rw [Int.compare_eq_lt.mpr (by omega : -a < -b), Int.compare_eq_lt.mpr greater]

theorem slistIndex_inj {plugins : List NMSettingsPlugin} {a b : NMSettingsPlugin}
    (a_found : a ∈ plugins) (b_found : b ∈ plugins)
    (same : slistIndex plugins a = slistIndex plugins b) : a = b := by
  simp only [slistIndex, a_found, b_found, if_true, Int.natCast_inj] at same
  exact (List.idxOf_inj a_found).mp same

theorem pluginCmpByPriority_eq (plugins : List NMSettingsPlugin) (a b : NMSettingsPlugin) :
    pluginCmpByPriority plugins a b = compare (-slistIndex plugins a) (-slistIndex plugins b) := by
  rw [compare_neg, pluginCmpByPriority]
  split
  · rfl
  · rename_i same
    simp [not_not.mp same]

theorem then_congr_of_ne {o a b : Ordering} (decided : o ≠ .eq) : o.then a = o.then b := by
  cases o <;> simp at decided ⊢

theorem storageCmp_eq {plugins : List NMSettingsPlugin} {a b : NMSettingsStorage}
    (a_found : a.getPlugin ∈ plugins) (b_found : b.getPlugin ∈ plugins) :
    storageCmp plugins a b = storageOrder plugins a b := by
  rw [storageCmp, storageOrder, pluginCmpByPriority_eq]
  refine congrArg (Ordering.then _) ?_
  by_cases same : a.getPlugin = b.getPlugin
  · refine congrArg (Ordering.then _) ?_
    have meta_first : compare true false = gt := rfl
    have meta_last : compare false true = lt := rfl
    cases a <;> cases b <;>
      simp [getPlugin] at same <;>
      simp [cmpFcn, compareLex, compareOn, typeKey, storageType, compare_neg, isMetaData,
        isTombstone, mtimeKey, nameKey, mtimeCmp, then_assoc, meta_first, meta_last]
  · refine then_congr_of_ne fun equal => ?_
    rw [compare_neg, compare_eq_iff_eq] at equal
    exact same (slistIndex_inj b_found a_found equal).symm

variable (heap : Nat → NMSettingsStorage) (plugins : List NMSettingsPlugin)

/-- A profile in `/run`. -/
def IsRunProfile (sd : StorageData) : Prop :=
  (heap sd.storage).isKeyfileRun = true ∧ (heap sd.storage).isMetaData = none

/-- A tombstone outside of `/run`. -/
def IsDiskTombstone (sd : StorageData) : Prop :=
  (heap sd.storage).isKeyfileRun = false ∧ (heap sd.storage).isTombstone = true

/-- A prioritized profile outside of `/run`. -/
def IsMovedProfile (sd : StorageData) : Prop :=
  (heap sd.storage).isKeyfileRun = false ∧ (heap sd.storage).isMetaData = none ∧
    sd.prioritize = true

/-- The three kinds of storages that precede each other in a circle. -/
def Mixed (sds : List StorageData) : Prop :=
  (∃ sd ∈ sds, IsRunProfile heap sd) ∧ (∃ sd ∈ sds, IsDiskTombstone heap sd) ∧
    ∃ sd ∈ sds, IsMovedProfile heap sd

structure PriorityOrder (sds : List StorageData) : Prop where
  /-- The sign of the comparison changes with the sides. -/
  antisymm : ∀ a ∈ sds, ∀ b ∈ sds,
    sdsUpdateCmpAscending heap plugins a b = (sdsUpdateCmpAscending heap plugins b a).swap
  trans : ∀ a ∈ sds, ∀ b ∈ sds, ∀ c ∈ sds, (sdsUpdateCmpAscending heap plugins a b).isGE = true →
    (sdsUpdateCmpAscending heap plugins b c).isGE = true →
    (sdsUpdateCmpAscending heap plugins a c).isGE = true
  /-- Whatever the initial order, nothing precedes the head of the sorted list. -/
  head : ∀ initial : List StorageData, initial.Perm sds → ∀ best,
    (ListSort.sort (sdsUpdateCmp heap plugins) initial).head? = some best →
    ∀ sd ∈ sds, sdsUpdateCmpAscending heap plugins sd best ≠ .gt

/-- The order of storages by a rank, and by the remaining keys within one rank. -/
def rankOrder (rank : StorageData → Nat) : StorageData → StorageData → Ordering :=
  compareLex (compareOn rank) <|
  compareLex (compareOn fun sd => (heap sd.storage).isTombstone) <|
  compareLex (compareOn (·.prioritize)) fun a b =>
    storageOrder plugins (heap a.storage) (heap b.storage)

instance (rank : StorageData → Nat) : Std.TransCmp (rankOrder heap plugins rank) := by
  have storages : Std.TransCmp fun a b : StorageData =>
      storageOrder plugins (heap a.storage) (heap b.storage) :=
    { eq_swap := Std.OrientedCmp.eq_swap
      isLE_trans := Std.TransCmp.isLE_trans }
  unfold rankOrder
  infer_instance

variable {heap plugins} {sds : List StorageData}

theorem priorityOrder_of_rank {rank : StorageData → Nat}
    (agrees : ∀ a ∈ sds, ∀ b ∈ sds,
      sdsUpdateCmpAscending heap plugins a b = rankOrder heap plugins rank a b) :
    PriorityOrder heap plugins sds := by
  have order_trans : ∀ a b c : StorageData, (rankOrder heap plugins rank a b).isGE = true →
      (rankOrder heap plugins rank b c).isGE = true →
      (rankOrder heap plugins rank a c).isGE = true :=
    fun a b c => Std.TransCmp.isGE_trans
  have antisymm : ∀ a ∈ sds, ∀ b ∈ sds,
      sdsUpdateCmpAscending heap plugins a b = (sdsUpdateCmpAscending heap plugins b a).swap := by
    intro a a_mem b b_mem
    rw [agrees a a_mem b b_mem, agrees b b_mem a a_mem]
    exact Std.OrientedCmp.eq_swap
  have trans : ∀ a ∈ sds, ∀ b ∈ sds, ∀ c ∈ sds,
      (sdsUpdateCmpAscending heap plugins a b).isGE = true →
      (sdsUpdateCmpAscending heap plugins b c).isGE = true →
      (sdsUpdateCmpAscending heap plugins a c).isGE = true := by
    intro a a_mem b b_mem c c_mem
    rw [agrees a a_mem b b_mem, agrees b b_mem c c_mem, agrees a a_mem c c_mem]
    exact order_trans a b c
  refine ⟨antisymm, trans, ?_⟩
  intro initial perm best head_eq sd sd_mem
  have preorder : ListSort.PreorderOn (sdsUpdateCmp heap plugins) initial := by
    refine ⟨?_, ?_⟩
    · intro a a_mem b b_mem
      rw [sdsUpdateCmp, sdsUpdateCmp, antisymm b (perm.mem_iff.mp b_mem) a (perm.mem_iff.mp a_mem)]
      cases sdsUpdateCmpAscending heap plugins a b <;> simp
    · intro a a_mem b b_mem c c_mem first second
      have a_sds := perm.mem_iff.mp a_mem
      have b_sds := perm.mem_iff.mp b_mem
      have c_sds := perm.mem_iff.mp c_mem
      simp only [sdsUpdateCmp] at first second ⊢
      rw [antisymm _ b_sds _ a_sds, isLE_swap] at first
      rw [antisymm _ c_sds _ b_sds, isLE_swap] at second
      rw [antisymm _ c_sds _ a_sds, isLE_swap]
      exact trans a a_sds b b_sds c c_sds first second
  have sorted := ListSort.sorted_sort preorder
  obtain ⟨rest, sort_eq⟩ := List.head?_eq_some_iff.mp head_eq
  have sd_sorted : sd ∈ best :: rest := by
    rw [← sort_eq, ListSort.mem_sort]
    exact perm.mem_iff.mpr sd_mem
  rw [sort_eq] at sorted
  rcases List.mem_cons.mp sd_sorted with rfl | later
  · have self_eq := antisymm sd sd_mem sd sd_mem
    intro greater
    rw [greater] at self_eq
    simp at self_eq
  · have first := (List.pairwise_cons.mp sorted).1 sd later
    intro greater
    simp [sdsUpdateCmp, greater] at first

theorem isMetaData_of_isTombstone {storage : NMSettingsStorage}
    (tombstone : storage.isTombstone = true) : storage.isMetaData.isSome = true := by
  cases meta_eq : storage.isMetaData with
  | none => simp [isTombstone, meta_eq] at tombstone
  | some metaData => rfl

theorem storageOrder_meta (plugins : List NMSettingsPlugin) {a b : NMSettingsStorage}
    (a_run : a.isKeyfileRun = true) (b_run : b.isKeyfileRun = true)
    (a_meta : a.isMetaData.isSome = true) (b_meta : b.isMetaData.isSome = false) :
    storageOrder plugins a b = .gt ∧ storageOrder plugins b a = .lt := by
  have a_type : a.storageType = some .run := by
    simpa [isKeyfileRun] using a_run
  have b_type : b.storageType = some .run := by
    simpa [isKeyfileRun] using b_run
  have a_plugin : a.getPlugin = .keyfile := by
    cases a <;> simp [storageType, getPlugin] at a_type ⊢
  have b_plugin : b.getPlugin = .keyfile := by
    cases b <;> simp [storageType, getPlugin] at b_type ⊢
  have meta_first : compare true false = gt := rfl
  have meta_last : compare false true = lt := rfl
  simp [storageOrder, compareLex, compareOn, a_run, b_run, a_plugin, b_plugin,
    typeKey, a_type, b_type, a_meta, b_meta, meta_first, meta_last]

/-- Storages in `/run` come first. -/
def runRank (heap : Nat → NMSettingsStorage) (sd : StorageData) : Nat :=
  if (heap sd.storage).isKeyfileRun then 1 else 0

/-- A prioritized profile on disk comes after the meta-data in `/run` and before the profiles
there. -/
def movedRank (heap : Nat → NMSettingsStorage) (sd : StorageData) : Nat :=
  if (heap sd.storage).isKeyfileRun then
    if (heap sd.storage).isMetaData.isSome then 3 else 1
  else if sd.prioritize then 2 else 0

/-- Unless a profile in `/run` meets a prioritized one on disk, the directory decides first. -/
theorem cmp_eq_runRank {a b : StorageData} (a_found : (heap a.storage).getPlugin ∈ plugins)
    (b_found : (heap b.storage).getPlugin ∈ plugins)
    (ab : ¬ (IsRunProfile heap a ∧ IsMovedProfile heap b))
    (ba : ¬ (IsRunProfile heap b ∧ IsMovedProfile heap a)) :
    sdsUpdateCmpAscending heap plugins a b = rankOrder heap plugins (runRank heap) a b := by
  have run_first : compare true false = gt := rfl
  have run_last : compare false true = lt := rfl
  have rank_first : compare 1 0 = gt := rfl
  have rank_last : compare 0 1 = lt := rfl
  simp only [IsRunProfile, IsMovedProfile] at ab ba
  simp only [sdsUpdateCmpAscending, rankOrder, compareLex, compareOn, runRank,
    storageCmp_eq a_found b_found]
  cases a_run : (heap a.storage).isKeyfileRun <;> cases b_run : (heap b.storage).isKeyfileRun <;>
    simp only [a_run, b_run] at ab ba ⊢
  · simp
  · by_cases profiles : (heap a.storage).isMetaData.isNone ∧ (heap b.storage).isMetaData.isNone
    · have a_plain : a.prioritize = false := by
        simp only [isNone_iff_eq_none] at profiles
        simpa [profiles] using ba
      cases b_prio : b.prioritize <;> simp [profiles, a_plain, run_last, rank_last]
    · simp only [if_neg profiles]
      simp [run_last, rank_last]
  · by_cases profiles : (heap a.storage).isMetaData.isNone ∧ (heap b.storage).isMetaData.isNone
    · have b_plain : b.prioritize = false := by
        simp only [isNone_iff_eq_none] at profiles
        simpa [profiles] using ab
      cases a_prio : a.prioritize <;> simp [profiles, b_plain, run_first, rank_first]
    · simp only [if_neg profiles]
      simp [run_first, rank_first]
  · simp

variable {sd : StorageData}

theorem prioritize_eq_false (moved : sd.prioritize = true → IsMovedProfile heap sd)
    (run : (heap sd.storage).isKeyfileRun = true) : sd.prioritize = false := by
  cases prio : sd.prioritize with
  | false => rfl
  | true => exact absurd ((moved prio).1.symm.trans run) Bool.false_ne_true

theorem isTombstone_eq_false {storage : NMSettingsStorage}
    (no_meta : storage.isMetaData.isSome = false) : storage.isTombstone = false := by
  rw [Bool.eq_false_iff]
  exact fun tombstone => absurd (no_meta.symm.trans (isMetaData_of_isTombstone tombstone))
    Bool.false_ne_true

theorem cmp_eq_movedRank {a b : StorageData} (a_found : (heap a.storage).getPlugin ∈ plugins)
    (b_found : (heap b.storage).getPlugin ∈ plugins)
    (no_tombstone : ¬ IsDiskTombstone heap a ∧ ¬ IsDiskTombstone heap b)
    (a_moved : a.prioritize = true → IsMovedProfile heap a)
    (b_moved : b.prioritize = true → IsMovedProfile heap b) :
    sdsUpdateCmpAscending heap plugins a b = rankOrder heap plugins (movedRank heap) a b := by
  have run_first : compare true false = gt := rfl
  have run_last : compare false true = lt := rfl
  have less : ∀ {m n : Nat}, m < n → compare m n = .lt := Nat.compare_eq_lt.mpr
  have greater : ∀ {m n : Nat}, n < m → compare m n = .gt := Nat.compare_eq_gt.mpr
  have on_disk : ∀ {sd : StorageData}, ¬ IsDiskTombstone heap sd →
      (heap sd.storage).isKeyfileRun = false → (heap sd.storage).isTombstone = false :=
    fun none disk => Bool.eq_false_iff.mpr fun tombstone => none ⟨disk, tombstone⟩
  simp only [sdsUpdateCmpAscending, rankOrder, compareLex, compareOn, movedRank,
    storageCmp_eq a_found b_found]
  cases a_run : (heap a.storage).isKeyfileRun with
  | false =>
    have a_tombstone := on_disk no_tombstone.1 a_run
    cases b_run : (heap b.storage).isKeyfileRun with
    | false =>
      have b_tombstone := on_disk no_tombstone.2 b_run
      cases a_prio : a.prioritize <;> cases b_prio : b.prioritize <;>
        simp [a_tombstone, b_tombstone, run_first, run_last, less, greater]
    | true =>
      have b_prio := prioritize_eq_false b_moved b_run
      cases b_meta : (heap b.storage).isMetaData with
      | some metaData => cases a_prio : a.prioritize <;> simp [run_last, less]
      | none =>
        cases a_prio : a.prioritize with
        | false => simp [b_prio, run_last, less]
        | true => simp [(a_moved a_prio).2.1, b_prio, run_first, greater]
  | true =>
    have a_prio := prioritize_eq_false a_moved a_run
    cases b_run : (heap b.storage).isKeyfileRun with
    | false =>
      cases a_meta : (heap a.storage).isMetaData with
      | some metaData => cases b_prio : b.prioritize <;> simp [run_first, greater]
      | none =>
        cases b_prio : b.prioritize with
        | false => simp [a_prio, run_first, greater]
        | true => simp [(b_moved b_prio).2.1, a_prio, run_last, less]
    | true =>
      have b_prio := prioritize_eq_false b_moved b_run
      cases a_meta : (heap a.storage).isMetaData.isSome <;>
        cases b_meta : (heap b.storage).isMetaData.isSome
      · simp [a_prio, b_prio]
      · have order := storageOrder_meta plugins b_run a_run b_meta a_meta
        cases tombstone : (heap b.storage).isTombstone <;>
          simp [isTombstone_eq_false a_meta, order.2, a_prio, b_prio, run_last, less]
      · have order := storageOrder_meta plugins a_run b_run a_meta b_meta
        cases tombstone : (heap a.storage).isTombstone <;>
          simp [isTombstone_eq_false b_meta, order.1, a_prio, b_prio, run_first, greater]
      · simp [a_prio, b_prio]

/-- The comparison orders a list with at most one prioritized storage exactly if the list does
not hold all three of a profile in `/run`, a tombstone outside of `/run` and a prioritized profile
outside of `/run`. -/
theorem priorityOrder_iff (heap : Nat → NMSettingsStorage) (plugins : List NMSettingsPlugin)
    (sds : List StorageData) (found : ∀ sd ∈ sds, (heap sd.storage).getPlugin ∈ plugins)
    (one : ∀ a ∈ sds, ∀ b ∈ sds, a.prioritize = true → b.prioritize = true → a = b) :
    PriorityOrder heap plugins sds ↔ ¬ Mixed heap sds := by
  constructor
  · rintro order ⟨⟨a, a_mem, a_run, a_profile⟩, ⟨c, c_mem, c_disk, c_tombstone⟩,
      ⟨b, b_mem, b_disk, b_profile, b_prio⟩⟩
    have a_plain : a.prioritize = false := by
      refine Bool.eq_false_iff.mpr fun a_prio => ?_
      rw [one a a_mem b b_mem a_prio b_prio, b_disk] at a_run
      exact absurd a_run (by simp)
    have c_meta := isMetaData_of_isTombstone c_tombstone
    obtain ⟨metaData, c_meta⟩ := isSome_iff_exists.mp c_meta
    have run_first : compare true false = gt := rfl
    have a_tombstone : (heap a.storage).isTombstone = false := by
      simp [isTombstone, a_profile]
    have b_tombstone : (heap b.storage).isTombstone = false := by
      simp [isTombstone, b_profile]
    -- The three storages precede each other in a circle.
    have a_c : sdsUpdateCmpAscending heap plugins a c = .gt := by
      simp [sdsUpdateCmpAscending, a_run, c_disk, c_meta, run_first]
    have c_b : sdsUpdateCmpAscending heap plugins c b = .gt := by
      simp [sdsUpdateCmpAscending, b_disk, c_disk, c_tombstone, b_tombstone, run_first]
    have b_a : sdsUpdateCmpAscending heap plugins b a = .gt := by
      simp [sdsUpdateCmpAscending, a_run, b_disk, a_profile, b_profile, a_plain, b_prio, run_first]
    have a_b := order.trans a a_mem c c_mem b b_mem (by simp [a_c]) (by simp [c_b])
    rw [order.antisymm a a_mem b b_mem, b_a] at a_b
    simp at a_b
  · intro unmixed
    by_cases moved : ∃ b ∈ sds, IsMovedProfile heap b
    · by_cases running : ∃ a ∈ sds, IsRunProfile heap a
      · obtain ⟨b, b_mem, b_moved⟩ := moved
        have no_tombstone : ∀ sd ∈ sds, ¬ IsDiskTombstone heap sd :=
          fun sd sd_mem tombstone => unmixed ⟨running, ⟨sd, sd_mem, tombstone⟩, b, b_mem, b_moved⟩
        have only : ∀ sd ∈ sds, sd.prioritize = true → IsMovedProfile heap sd := by
          intro sd sd_mem prio
          rw [one sd sd_mem b b_mem prio b_moved.2.2]
          exact b_moved
        exact priorityOrder_of_rank fun a a_mem b b_mem =>
          cmp_eq_movedRank (found a a_mem) (found b b_mem)
            ⟨no_tombstone a a_mem, no_tombstone b b_mem⟩ (only a a_mem) (only b b_mem)
      · exact priorityOrder_of_rank fun a a_mem b b_mem =>
          cmp_eq_runRank (found a a_mem) (found b b_mem)
            (fun both => running ⟨a, a_mem, both.1⟩) (fun both => running ⟨b, b_mem, both.1⟩)
    · exact priorityOrder_of_rank fun a a_mem b b_mem =>
        cmp_eq_runRank (found a a_mem) (found b b_mem)
          (fun both => moved ⟨b, b_mem, both.2⟩) (fun both => moved ⟨a, a_mem, both.2⟩)

theorem isLE_sdsUpdateCmp {a b : StorageData} (greater : sdsUpdateCmpAscending heap plugins a b = .gt)
    (less : sdsUpdateCmpAscending heap plugins b a = .lt) :
    (sdsUpdateCmp heap plugins a b).isLE = true ∧ (sdsUpdateCmp heap plugins b a).isLE = false := by
  unfold sdsUpdateCmp
  rw [less, greater]
  exact ⟨rfl, rfl⟩

/-- A tombstone in `/run` precedes everything else. -/
theorem dominates_runTombstone (run : (heap sd.storage).isKeyfileRun = true)
    (tombstone : (heap sd.storage).isTombstone = true)
    (only : ∀ other ∈ sds, (heap other.storage).isKeyfileRun = true →
      (heap other.storage).isTombstone = true → other = sd) :
    ListSort.Dominates (sdsUpdateCmp heap plugins) sd sds := by
  intro other mem
  by_cases same : other = sd
  · exact Or.inl same
  right
  have run_first : compare true false = gt := rfl
  have run_last : compare false true = lt := rfl
  obtain ⟨metaData, is_meta⟩ :=
    isSome_iff_exists.mp (isMetaData_of_isTombstone tombstone)
  cases other_run : (heap other.storage).isKeyfileRun with
  | true =>
    have other_plain : (heap other.storage).isTombstone = false :=
      Bool.eq_false_iff.mpr fun is_tombstone => same (only other mem other_run is_tombstone)
    refine isLE_sdsUpdateCmp ?_ ?_
    · simp [sdsUpdateCmpAscending, run, other_run, tombstone, other_plain, run_first]
    · simp [sdsUpdateCmpAscending, run, other_run, tombstone, other_plain, run_last]
  | false =>
    refine isLE_sdsUpdateCmp ?_ ?_
    · simp [sdsUpdateCmpAscending, run, other_run, is_meta, run_first]
    · simp [sdsUpdateCmpAscending, run, other_run, is_meta, run_last]

/-- Without storages in `/run`, a tombstone precedes everything else. -/
theorem dominates_diskTombstone (disk : ∀ other ∈ sds, (heap other.storage).isKeyfileRun = false)
    (listed : sd ∈ sds) (tombstone : (heap sd.storage).isTombstone = true)
    (only : ∀ other ∈ sds, (heap other.storage).isTombstone = true → other = sd) :
    ListSort.Dominates (sdsUpdateCmp heap plugins) sd sds := by
  intro other mem
  by_cases same : other = sd
  · exact Or.inl same
  right
  have first : compare true false = gt := rfl
  have last : compare false true = lt := rfl
  have other_plain : (heap other.storage).isTombstone = false :=
    Bool.eq_false_iff.mpr fun is_tombstone => same (only other mem is_tombstone)
  refine isLE_sdsUpdateCmp ?_ ?_
  · simp [sdsUpdateCmpAscending, disk sd listed, disk other mem, tombstone, other_plain, first]
  · simp [sdsUpdateCmpAscending, disk sd listed, disk other mem, tombstone, other_plain, last]

/-- The only prioritized storage is a profile.  It precedes everything else, unless there is
meta-data, which on disk only matters to a profile on disk. -/
theorem dominates_prioritized (profile : (heap sd.storage).isMetaData = none)
    (prioritized : sd.prioritize = true)
    (only : ∀ other ∈ sds, other.prioritize = true → other = sd)
    (no_meta : ∀ other ∈ sds, (heap other.storage).isMetaData.isSome = true →
      (heap other.storage).isKeyfileRun = false ∧ (heap sd.storage).isKeyfileRun = true) :
    ListSort.Dominates (sdsUpdateCmp heap plugins) sd sds := by
  intro other mem
  by_cases same : other = sd
  · exact Or.inl same
  right
  have first : compare true false = gt := rfl
  have last : compare false true = lt := rfl
  have other_plain : other.prioritize = false :=
    Bool.eq_false_iff.mpr fun is_prioritized => same (only other mem is_prioritized)
  have plain : (heap sd.storage).isTombstone = false := by
    simp [isTombstone, profile]
  cases other_meta : (heap other.storage).isMetaData with
  | none =>
    have other_profile : (heap other.storage).isTombstone = false := by
      simp [isTombstone, other_meta]
    by_cases runs : (heap sd.storage).isKeyfileRun = (heap other.storage).isKeyfileRun
    · refine isLE_sdsUpdateCmp ?_ ?_
      · simp [sdsUpdateCmpAscending, runs, plain, other_profile, prioritized, other_plain, first]
      · simp [sdsUpdateCmpAscending, runs, plain, other_profile, prioritized, other_plain, last]
    · refine isLE_sdsUpdateCmp ?_ ?_
      · simp [sdsUpdateCmpAscending, runs, profile, other_meta, prioritized, other_plain, first]
      · simp [sdsUpdateCmpAscending, Ne.symm runs, profile, other_meta, prioritized, other_plain,
          last]
  | some metaData =>
    obtain ⟨other_disk, run⟩ := no_meta other mem (by rw [other_meta]; rfl)
    refine isLE_sdsUpdateCmp ?_ ?_
    · simp [sdsUpdateCmpAscending, run, other_disk, other_meta, first]
    · simp [sdsUpdateCmpAscending, run, other_disk, other_meta, last]

/-- Three storages of one UUID: a profile in `/run`, a tombstone in `/etc` and a profile in
`/etc`. -/
def circleHeap : Nat → NMSettingsStorage
  | 0 => .keyfileConn "u" .run "a" ⟨none, none, ⟨1, 0⟩, false, false, false⟩
  | 1 => .keyfileMeta "u" .etc ⟨none, true⟩
  | _ => .keyfileConn "u" .etc "b" ⟨none, none, ⟨1, 0⟩, false, false, false⟩

/-- The storages of `circleHeap`, with the profile in `/etc` prioritized. -/
def circleSds : List StorageData :=
  [⟨0, some ⟨"u", "a"⟩, false⟩, ⟨1, none, false⟩, ⟨2, some ⟨"u", "b"⟩, true⟩]

/-- Without the tombstone the storages are ordered. -/
theorem priorityOrder_iff_moved :
    PriorityOrder circleHeap [.keyfile] [⟨0, some ⟨"u", "a"⟩, false⟩, ⟨2, some ⟨"u", "b"⟩, true⟩] := by
  refine (priorityOrder_iff circleHeap [.keyfile] _ (by decide) (by decide)).mpr ?_
  rintro ⟨-, ⟨sd, sd_mem, -, tombstone⟩, -⟩
  revert tombstone
  revert sd
  decide

/-- With the tombstone the storages precede each other in a circle, and the head of the sorted list
depends on the initial order. -/
theorem priorityOrder_circle :
    ¬ PriorityOrder circleHeap [.keyfile] circleSds ∧
      (ListSort.sort (sdsUpdateCmp circleHeap [.keyfile]) circleSds).head? ≠
        (ListSort.sort (sdsUpdateCmp circleHeap [.keyfile]) circleSds.reverse).head? := by
  refine ⟨fun order => ?_, by decide⟩
  have trans := order.trans ⟨0, some ⟨"u", "a"⟩, false⟩ (by decide) ⟨1, none, false⟩ (by decide)
    ⟨2, some ⟨"u", "b"⟩, true⟩ (by decide) (by decide) (by decide)
  exact absurd trans (by decide)

end NetworkManager
