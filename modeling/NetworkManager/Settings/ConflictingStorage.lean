import NetworkManager.Settings.Operations
import NetworkManager.Settings.Priority
import Mathlib.Data.List.Chain

/-!
# Conflicting storages

Before a profile is added to a plugin, `_sett_conn_entry_storage_find_conflicting_storage` looks for
a storage that would hide it.  Only the first storage with a connection is compared, by the
priorities of the plugins alone, while the storages are sorted by other keys first.
-/

namespace NetworkManager

open List Ordering

section Definitions

variable (heap : Nat → NMSettingsStorage) (plugins : List NMSettingsPlugin)

/-- A storage that is sorted by its directory, or by its modification date and plugin. -/
def IsPlainProfile (sd : StorageData) : Prop :=
  (heap sd.storage).isKeyfileRun = false ∧ (heap sd.storage).isTombstone = false ∧
    sd.prioritize = false

end Definitions

variable {heap : Nat → NMSettingsStorage} {plugins : List NMSettingsPlugin}
  {targetPlugin : NMSettingsPlugin} {entry : SettConnEntry}

theorem pluginCmpByPriority_isLE {a b : NMSettingsPlugin} :
    (pluginCmpByPriority plugins a b).isLE = true ↔ slistIndex plugins b ≤ slistIndex plugins a := by
  unfold pluginCmpByPriority
  by_cases same : a = b
  · simp [same]
  · rw [if_pos same, Std.isLE_compare]

theorem IsPlainProfile.next {a b : StorageData} (plain : IsPlainProfile heap a)
    (le : (sdsUpdateCmp heap plugins a b).isLE = true) :
    IsPlainProfile heap b ∧ slistIndex plugins (heap a.storage).getPlugin ≤
      slistIndex plugins (heap b.storage).getPlugin := by
  obtain ⟨not_run, not_tombstone, not_prioritized⟩ := plain
  unfold sdsUpdateCmp sdsUpdateCmpAscending at le
  dsimp only at le
  rw [not_run, not_tombstone, not_prioritized] at le
  cases run : (heap b.storage).isKeyfileRun with
  | true =>
    rw [run, if_pos (by decide), isLE_then_iff_and] at le
    have not_less : (if (heap b.storage).isMetaData.isNone = true ∧
        (heap a.storage).isMetaData.isNone = true then compare b.prioritize false else .eq) ≠
        .lt := by
      split
      · cases b.prioritize <;> decide
      · decide
    have run_first := (isLE_then_iff_and.mp le.1).2.resolve_left not_less
    exact absurd run_first (by decide)
  | false =>
    rw [run, if_neg (by decide)] at le
    change ((compare (heap b.storage).isTombstone false).then _).isLE = true at le
    obtain ⟨tombstone_le, le⟩ := isLE_then_iff_and.mp le
    have b_not_tombstone : (heap b.storage).isTombstone = false := by
      cases tombstone : (heap b.storage).isTombstone with
      | false => rfl
      | true =>
        rw [tombstone] at tombstone_le
        exact absurd tombstone_le (by decide)
    rw [b_not_tombstone] at le
    obtain ⟨prioritize_le, le⟩ := isLE_then_iff_and.mp (le.resolve_left (by decide))
    have b_not_prioritized : b.prioritize = false := by
      cases prioritized : b.prioritize with
      | false => rfl
      | true =>
        rw [prioritized] at prioritize_le
        exact absurd prioritize_le (by decide)
    rw [b_not_prioritized] at le
    have storage_le := le.resolve_left (by decide)
    rw [storageCmp, run, not_run, Std.compare_self, eq_then] at storage_le
    have plugin_le := (isLE_then_iff_and.mp storage_le).1
    exact ⟨⟨run, b_not_tombstone, b_not_prioritized⟩, pluginCmpByPriority_isLE.mp plugin_le⟩

end NetworkManager
