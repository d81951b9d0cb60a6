import NetworkManager.Dmi.TableDecode

/-!
# The number of structures

The decoder counts a structure before it knows whether the structure ends within the table.  A
structure without an end is counted, but it is not delivered.
-/

namespace Dmidecode

/-- A callback that also counts how often it is called. -/
def counting {σ : Type} (callback : Option (DmiHeaderCallback σ)) : DmiHeaderCallback (σ × Nat) :=
  fun h userData =>
    ((invoke callback h userData.1).1, (invoke callback h userData.1).2, userData.2 + 1)

/-- From an offset on the walk gets to a structure without an end, as the callback does not ask to
stop before. -/
inductive MeetsUnterminated {σ : Type} (table : Table) (num : UInt16) (flags : UInt32)
    (callback : Option (DmiHeaderCallback σ)) : Nat → Nat → σ → Prop
  | here {i data : Nat} {userData : σ} (unterminated : Unterminated table num i data) :
      MeetsUnterminated table num flags callback i data userData
  | later {i : Nat} {userData : σ} {extent : Extent} (within : extent.Within table)
      (wanted : i < num.toNat ∨ num = 0)
      (goes_on : (invoke callback extent.header userData).1 = 0)
      (no_marker : ¬(extent.header.type = 127 ∧ flags &&& dmiExtFlagStopAtEot ≠ 0))
      (rest : MeetsUnterminated table num flags callback (i + 1) extent.stop
        (invoke callback extent.header userData).2) :
      MeetsUnterminated table num flags callback i extent.header.data userData

variable {σ : Type} {table : Table} {num : UInt16} {flags : UInt32}
  {callback : Option (DmiHeaderCallback σ)} {i data : Nat} {userData : σ} {extent : Extent}

/-- Where a structure starts, it is delivered, and the walk may only fail behind it. -/
theorem meetsUnterminated_within (within : extent.Within table) (wanted : i < num.toNat ∨ num = 0) :
    MeetsUnterminated table num flags callback i extent.header.data userData ↔
      (invoke callback extent.header userData).1 = 0 ∧
      ¬(extent.header.type = 127 ∧ flags &&& dmiExtFlagStopAtEot ≠ 0) ∧
      MeetsUnterminated table num flags callback (i + 1) extent.stop
        (invoke callback extent.header userData).2 := by
  refine ⟨fun meets => ?_, fun ⟨goes_on, no_marker, rest⟩ =>
    .later within wanted goes_on no_marker rest⟩
  generalize data_eq : extent.header.data = data at meets
  cases meets with
  | here unterminated =>
    subst data_eq
    have strings_le := within.strings_le
    have header_eq := within.header_eq
    refine absurd within.terminated (unterminated.no_nul _ ?_ ?_)
    · rw [← header_eq]
      omega
    · have stop_le := within.stop_le
      omega
  | @later _ _ other other_within _ goes_on no_marker rest =>
    have header_eq : extent.header = other.header := by
      rw [within.header_eq, other_within.header_eq, data_eq]
    have seek := within.seekNext_eq (Nat.lt_succ_self _)
    rw [header_eq, other_within.seekNext_eq (Nat.lt_succ_self _), Except.ok.injEq] at seek
    have strings_le := within.strings_le
    have other_le := other_within.strings_le
    have stop_eq : extent.stop = other.stop := by omega
    rw [header_eq, stop_eq]
    exact ⟨goes_on, no_marker, rest⟩

theorem meetsUnterminated_exhausted (exhausted : Exhausted table num i data) :
    MeetsUnterminated table num flags callback i data userData ↔ Unterminated table num i data := by
  refine ⟨fun meets => ?_, .here⟩
  cases meets with
  | here unterminated => exact unterminated
  | @later _ _ extent within wanted =>
    have strings_le := within.strings_le
    have stop_le := within.stop_le
    have header_eq := within.header_eq
    have length_ge := UInt8.le_iff_toNat_le.mp within.length_ge
    change 4 ≤ extent.header.length.toNat at length_ge
    rcases exhausted with counted | no_room | short | no_nul
    · rcases wanted with counting | unknown
      · omega
      · exact absurd unknown counted.1
    · omega
    · exact absurd (header_eq ▸ short) (UInt8.not_lt.mpr within.length_ge)
    · refine absurd within.terminated (no_nul _ ?_ (by omega))
      rw [← header_eq]
      omega

theorem invoke_counting (callback : Option (DmiHeaderCallback σ)) (h : DmiHeader) (userData : σ)
    (calls : Nat) :
    invoke (some (counting callback)) h (userData, calls) =
      ((invoke callback h userData).1, (invoke callback h userData).2, calls + 1) := rfl

open Classical in
/-- From an offset on the structure without an end is the only one that is counted without being
delivered. -/
theorem decodeLoop_counts (table : Table) (num : UInt16) (flags : UInt32)
    (callback : Option (DmiHeaderCallback σ)) (i data : Nat) (userData : σ) :
    ∃ delivered after, ∀ fuel calls, table.len.toNat - data < fuel →
      decodeLoop table num flags callback fuel i data userData = .ok (i + delivered +
        if MeetsUnterminated table num flags callback i data userData then 1 else 0, after) ∧
      decodeLoop table num flags (some (counting callback)) fuel i data (userData, calls) =
        .ok (i + delivered +
          if MeetsUnterminated table num flags callback i data userData then 1 else 0,
          after, calls + delivered) := by
  rcases exhausted_or_within table num i data with exhausted | ⟨wanted, extent, rfl, within⟩
  · refine ⟨0, userData, fun fuel calls enough => ?_⟩
    rw [meetsUnterminated_exhausted exhausted, decodeLoop_exhausted enough exhausted,
      decodeLoop_exhausted enough exhausted]
    by_cases unterminated : Unterminated table num i data
    · rw [if_pos unterminated, if_pos unterminated]
      exact ⟨rfl, rfl⟩
    · rw [if_neg unterminated, if_neg unterminated]
      exact ⟨rfl, rfl⟩
  have strings_le := within.strings_le
  have stop_le := within.stop_le
  rw [meetsUnterminated_within within wanted]
  by_cases stopped : (invoke callback extent.header userData).1 ≠ 0 ∨
      (extent.header.type = 127 ∧ flags &&& dmiExtFlagStopAtEot ≠ 0)
  · refine ⟨1, (invoke callback extent.header userData).2, fun fuel calls enough => ?_⟩
    obtain ⟨fuel, rfl⟩ := Nat.exists_eq_add_one_of_ne_zero (Nat.ne_zero_of_lt enough)
    rw [decodeLoop_within callback userData enough wanted within,
      decodeLoop_within (some (counting callback)) _ enough wanted within, invoke_counting,
      if_pos stopped, if_pos stopped, if_neg fun meets => stopped.elim (absurd meets.1) meets.2.1]
    exact ⟨rfl, rfl⟩
  · obtain ⟨delivered, after, run⟩ := decodeLoop_counts table num flags callback (i + 1) extent.stop
      (invoke callback extent.header userData).2
    refine ⟨delivered + 1, after, fun fuel calls enough => ?_⟩
    obtain ⟨fuel, rfl⟩ := Nat.exists_eq_add_one_of_ne_zero (Nat.ne_zero_of_lt enough)
    obtain ⟨decoded, counted⟩ := run fuel (calls + 1) (by omega)
    rw [decodeLoop_within callback userData enough wanted within,
      decodeLoop_within (some (counting callback)) _ enough wanted within, invoke_counting,
      if_neg stopped, if_neg stopped]
    obtain ⟨goes_on, no_marker⟩ := not_or.mp stopped
    simp only [not_not.mp goes_on, no_marker, not_false_iff, true_and]
    rw [show i + (delivered + 1) = i + 1 + delivered by omega,
      show calls + (delivered + 1) = calls + 1 + delivered by omega]
    exact ⟨decoded, counted⟩
termination_by table.len.toNat - data

/-- The decoder returns how many structures it delivered, except if it gets to a structure that
does not end within the table. -/
theorem count_eq_delivered_iff (table : Table) (num : UInt16) (flags : UInt32)
    (callback : Option (DmiHeaderCallback σ)) (userData : σ) :
    ∃ count delivered after,
      (∀ fuel, table.len.toNat < fuel →
        dmiTableDecodeExt fuel table num flags callback userData = .ok (count, after) ∧
        dmiTableDecodeExt fuel table num flags (some (counting callback)) (userData, 0) =
          .ok (count, after, delivered)) ∧
      (count = delivered ↔ ¬MeetsUnterminated table num flags callback 0 0 userData) := by
  classical
  obtain ⟨delivered, after, run⟩ := decodeLoop_counts table num flags callback 0 0 userData
  refine ⟨0 + delivered +
    if MeetsUnterminated table num flags callback 0 0 userData then 1 else 0, delivered, after,
    fun fuel enough => ?_, ?_⟩
  · obtain ⟨decoded, counted⟩ := run fuel 0 enough
    exact ⟨decoded, counted.trans (by rw [Nat.zero_add delivered])⟩
  · rw [Nat.zero_add]
    split
    · rename_i meets
      exact iff_of_false (by omega) (not_not.mpr meets)
    · rename_i clear
      exact iff_of_true rfl clear

/-- A table of one header, whose string area is missing. -/
def headerOnly : Table where
  byte := fun offset => if offset = 1 then 4 else 0
  len := 4

/-- The header is counted, but the callback is not called. -/
theorem count_eq_delivered_fails :
    dmiTableDecodeExt 5 headerOnly 0 0 (some (counting (none : Option (DmiHeaderCallback Unit))))
      ((), 0) = .ok (1, (), 0) := by
  rfl

end Dmidecode
