import NetworkManager.Dedup.Reachable

/-!
# Sweeping the list of a head

`_remove_head` walks over the entries of one head, removes those that are selected and may mark
the survivors.  Its result depends on the state in which it starts only: the head keeps the
survivors in order and disappears when there are none.
-/

set_option linter.unusedSectionVars false

namespace NetworkManager

namespace NMDedupMultiIndex

open Function List

variable {Obj T : Type*} [DecidableEq Obj] [DecidableEq T] {objClass : NMDedupMultiObjClass Obj}

def sweeps (self : NMDedupMultiIndex Obj T) (removeAll : Bool) (addr : Nat) : Bool :=
  removeAll || ((self.entries addr).map (·.dirty)).getD false

def sweptEntry (self : NMDedupMultiIndex Obj T) (removeAll markSurvivorsDirty : Bool) (addr : Nat) :
    Option (NMDedupMultiEntry Obj) :=
  if self.sweeps removeAll addr then none
  else (self.entries addr).map fun entry =>
    if markSurvivorsDirty then { entry with dirty := true } else entry

/-- The state after sweeping the entries `swept` of a head that keeps the entries `remaining`. -/
structure Swept (before after : NMDedupMultiIndex Obj T) (removeAll markSurvivorsDirty : Bool)
    (headAddr : Nat) (head : NMDedupMultiHeadEntry T) (swept remaining : List Nat) : Prop where
  entries_eq : ∀ addr, after.entries addr =
    if addr ∈ swept then before.sweptEntry removeAll markSurvivorsDirty addr
    else before.entries addr
  /-- Only the head changes, and it is removed when nothing remains. -/
  heads_eq : ∀ addr, after.heads addr =
    if addr = headAddr then
      if remaining = [] then none
      else some { head with lstEntries := remaining, len := remaining.length }
    else before.heads addr
  lstIdx_eq : ∀ idxType, (after.idxTypes idxType).lstIdx =
    if idxType = head.idxType ∧ remaining = [] then
      (before.idxTypes idxType).lstIdx.erase headAddr
    else (before.idxTypes idxType).lstIdx
  /-- The counters of other index types are unchanged. -/
  len_other : ∀ idxType, idxType ≠ head.idxType →
    (after.idxTypes idxType).len = (before.idxTypes idxType).len
  /-- The counter of the index type loses the removed entries, except for the one that took the
  head with it. -/
  len_eq : (after.idxTypes head.idxType).len =
    (before.idxTypes head.idxType).len -
      ((swept.filter (before.sweeps removeAll)).length - if remaining = [] then 1 else 0)

theorem sweptEntry_congr {self other : NMDedupMultiIndex Obj T} {addr : Nat}
    (entry_eq : other.entries addr = self.entries addr) (removeAll markSurvivorsDirty : Bool) :
    other.sweptEntry removeAll markSurvivorsDirty addr =
      self.sweptEntry removeAll markSurvivorsDirty addr := by
  simp [sweptEntry, sweeps, entry_eq]

theorem sweeps_congr (self other : NMDedupMultiIndex Obj T) {addr : Nat}
    (entry_eq : other.entries addr = self.entries addr) (removeAll : Bool) :
    other.sweeps removeAll addr = self.sweeps removeAll addr := by
  simp [sweeps, entry_eq]

variable {self : NMDedupMultiIndex Obj T} {klass : T → NMDedupMultiIdxTypeClass objClass}
  {head : NMDedupMultiHeadEntry T}

theorem entrySetDirty_eq {addr : Nat} {entry : NMDedupMultiEntry Obj}
    (entry_eq : self.entries addr = some entry) (dirty : Bool) :
    self.entrySetDirty addr dirty =
      { self with entries := Function.update self.entries addr (some { entry with dirty }) } := by
  simp [entrySetDirty, entry_eq, setEntry]

/-- A sweep that starts with nothing left to visit changes nothing. -/
private theorem swept_nil (coherent : self.Coherent klass) {headAddr : Nat}
    (head_eq : self.heads headAddr = some head) (removeAll markSurvivorsDirty : Bool) :
    Swept self self removeAll markSurvivorsDirty headAddr head [] head.lstEntries := by
  have nonempty := coherent.heap.lstEntries_ne head_eq
  refine ⟨by simp, ?_, by simp [nonempty], by simp, by simp⟩
  intro addr
  by_cases same : addr = headAddr
  · simp [same, nonempty, head_eq, ← coherent.heap.len_eq head_eq]
  · simp [same]

private theorem swept_survivor {self next after : NMDedupMultiIndex Obj T}
    {removeAll markSurvivorsDirty : Bool} {headAddr addr : Nat} {rest remaining : List Nat}
    (survives : self.sweeps removeAll addr = false) (not_rest : addr ∉ rest)
    (next_entries : ∀ a, next.entries a =
      if a = addr then self.sweptEntry removeAll markSurvivorsDirty addr else self.entries a)
    (next_heads : next.heads = self.heads) (next_types : next.idxTypes = self.idxTypes)
    (later : Swept next after removeAll markSurvivorsDirty headAddr head rest remaining) :
    Swept self after removeAll markSurvivorsDirty headAddr head (addr :: rest) remaining := by
  have same_entry : ∀ a ∈ rest, next.entries a = self.entries a := by
    intro a a_mem
    have differs : a ≠ addr := fun same => not_rest (same ▸ a_mem)
    simp [next_entries, differs]
  have filter_eq : rest.filter (next.sweeps removeAll) = rest.filter (self.sweeps removeAll) :=
    List.filter_congr fun a a_mem => sweeps_congr self next (same_entry a a_mem) removeAll
  refine ⟨?_, ?_, ?_, ?_, ?_⟩
  · intro a
    rw [later.entries_eq, next_entries]
    by_cases first : a = addr
    · subst first
      simp [not_rest]
    · by_cases visited : a ∈ rest
      · simp [visited, sweptEntry_congr (same_entry a visited)]
      · simp [first, visited]
  · intro a
    rw [later.heads_eq, next_heads]
  · intro idxType
    rw [later.lstIdx_eq, next_types]
  · intro idxType differs
    rw [later.len_other idxType differs, next_types]
  · rw [later.len_eq, next_types, filter_eq, filter_cons_of_neg (by simp [survives])]

private theorem swept_removed {self next after : NMDedupMultiIndex Obj T}
    {removeAll markSurvivorsDirty : Bool} {headAddr addr : Nat} {rest remaining lst : List Nat}
    (removed : self.sweeps removeAll addr = true) (not_rest : addr ∉ rest)
    (next_entries : next.entries = Function.update self.entries addr none)
    (next_heads : next.heads = Function.update self.heads headAddr
      (some { head with lstEntries := lst, len := head.len - 1 }))
    (next_types : next.idxTypes = Function.update self.idxTypes head.idxType
      { self.idxTypes head.idxType with len := (self.idxTypes head.idxType).len - 1 })
    (more : remaining = [] → rest.filter (self.sweeps removeAll) ≠ [])
    (later : Swept next after removeAll markSurvivorsDirty headAddr
      { head with lstEntries := lst, len := head.len - 1 } rest remaining) :
    Swept self after removeAll markSurvivorsDirty headAddr head (addr :: rest) remaining := by
  have same_entry : ∀ a ∈ rest, next.entries a = self.entries a := by
    intro a a_mem
    have differs : a ≠ addr := fun same => not_rest (same ▸ a_mem)
    simp [next_entries, differs]
  have filter_eq : rest.filter (next.sweeps removeAll) = rest.filter (self.sweeps removeAll) :=
    List.filter_congr fun a a_mem => sweeps_congr self next (same_entry a a_mem) removeAll
  have lstIdx_same : ∀ idxType, (next.idxTypes idxType).lstIdx =
      (self.idxTypes idxType).lstIdx := by
    intro idxType
    by_cases same : idxType = head.idxType
    · simp [next_types, same]
    · simp [next_types, same]
  refine ⟨?_, ?_, ?_, ?_, ?_⟩
  · intro a
    rw [later.entries_eq]
    by_cases first : a = addr
    · subst first
      simp [not_rest, next_entries, sweptEntry, removed]
    · by_cases visited : a ∈ rest
      · simp [visited, sweptEntry_congr (same_entry a visited)]
      · simp [first, visited, next_entries]
  · intro a
    rw [later.heads_eq]
    by_cases same : a = headAddr
    · simp [same]
    · simp [same, next_heads]
  · intro idxType
    rw [later.lstIdx_eq, lstIdx_same]
  · intro idxType differs
    rw [later.len_other idxType differs]
    simp [next_types, differs]
  · have next_len : (next.idxTypes head.idxType).len = (self.idxTypes head.idxType).len - 1 := by
      simp [next_types]
    have len_eq := later.len_eq
    simp only [filter_eq, next_len] at len_eq
    rw [len_eq, filter_cons_of_pos removed, length_cons]
    split
    · rename_i nothing
      have positive : 0 < (rest.filter (self.sweeps removeAll)).length :=
        length_pos_iff.mpr (more nothing)
      omega
    · omega

private theorem swept_last {self after : NMDedupMultiIndex Obj T} {removeAll : Bool}
    (markSurvivorsDirty : Bool) {headAddr addr : Nat} (removed : self.sweeps removeAll addr = true)
    (after_entries : after.entries = Function.update self.entries addr none)
    (after_heads : after.heads = Function.update self.heads headAddr none)
    (after_types : after.idxTypes = Function.update self.idxTypes head.idxType
      { self.idxTypes head.idxType with
        lstIdx := (self.idxTypes head.idxType).lstIdx.erase headAddr }) :
    Swept self after removeAll markSurvivorsDirty headAddr head [addr] [] := by
  refine ⟨?_, ?_, ?_, ?_, ?_⟩
  · intro a
    by_cases same : a = addr
    · simp [after_entries, same, sweptEntry, removed]
    · simp [after_entries, same]
  · intro a
    simp [after_heads, update_apply]
  · intro idxType
    by_cases same : idxType = head.idxType
    · simp [after_types, same]
    · simp [after_types, same]
  · intro idxType differs
    simp [after_types, differs]
  · simp [after_types, removed]

/-- The loop of `_remove_head` sweeps the entries it has still to visit, and it counts the ones that
it removes. -/
theorem Coherent.removeHeadLoop_swept (coherent : self.Coherent klass) {headAddr : Nat}
    (head_eq : self.heads headAddr = some head) (removeAll markSurvivorsDirty : Bool)
    (kept rest : List Nat) (split : head.lstEntries = kept ++ rest) :
    Swept self (NMDedupMultiIndex.removeHeadLoop klass removeAll markSurvivorsDirty rest self).1
      removeAll markSurvivorsDirty headAddr head rest
      (kept ++ rest.filter fun addr => !self.sweeps removeAll addr) ∧
    (NMDedupMultiIndex.removeHeadLoop klass removeAll markSurvivorsDirty rest self).2 =
      (rest.filter (self.sweeps removeAll)).length := by
  induction rest generalizing self head kept with
  | nil =>
    have whole : head.lstEntries = kept := by simpa using split
    have swept := swept_nil coherent head_eq removeAll markSurvivorsDirty
    exact ⟨by simpa [NMDedupMultiIndex.removeHeadLoop, whole] using swept, rfl⟩
  | cons addr rest ih =>
    have nodup : (kept ++ addr :: rest).Nodup := split ▸ coherent.heap.lstEntries_nodup head_eq
    have not_rest : addr ∉ rest := (nodup_cons.mp (nodup_append.mp nodup).2.1).1
    have not_kept : addr ∉ kept := fun linked =>
      (nodup_append.mp nodup).2.2 addr linked addr (by simp) rfl
    have linked : addr ∈ head.lstEntries := by simp [split]
    obtain ⟨entry, entry_eq, entry_head⟩ := (coherent.heap.mem_lstEntries head_eq).mp linked
    have sweeps_eq : self.sweeps removeAll addr =
        (removeAll || ((self.entries addr).map (·.dirty)).getD false) := rfl
    -- Entries behind the one at hand are as they were.
    have filter_congr : ∀ next : NMDedupMultiIndex Obj T,
        (∀ a ≠ addr, next.entries a = self.entries a) →
        rest.filter (next.sweeps removeAll) = rest.filter (self.sweeps removeAll) ∧
          rest.filter (fun a => !next.sweeps removeAll a) =
            rest.filter fun a => !self.sweeps removeAll a := by
      intro next unchanged
      have sweeps_same : ∀ a ∈ rest, next.sweeps removeAll a = self.sweeps removeAll a := by
        intro a a_mem
        have differs : a ≠ addr := fun same => not_rest (same ▸ a_mem)
        exact sweeps_congr self next (unchanged a differs) removeAll
      exact ⟨List.filter_congr sweeps_same,
        List.filter_congr fun a a_mem => by rw [sweeps_same a a_mem]⟩
    simp only [NMDedupMultiIndex.removeHeadLoop, ← sweeps_eq]
    cases removed : self.sweeps removeAll addr with
    | true =>
      subst entry_head
      have erase_eq : head.lstEntries.erase addr = kept ++ rest := by
        rw [split, erase_append_right _ not_kept, erase_cons_head]
      have remove_eq := coherent.removeEntryInternal_eq entry_eq head_eq
      have next_coherent := coherent.removeEntryInternal addr
      by_cases last : kept ++ rest = []
      · obtain ⟨rfl, rfl⟩ := append_eq_nil_iff.mp last
        rw [erase_eq, if_pos (append_nil [])] at remove_eq
        simp only [remove_eq, if_true]
        constructor
        · simpa [removed] using swept_last markSurvivorsDirty removed rfl rfl rfl
        · simp [removed]
      · rw [erase_eq, if_neg last] at remove_eq
        set next := (self.removeEntryInternal klass addr).1 with next_def
        have head_kept : (self.removeEntryInternal klass addr).2 = false := by rw [remove_eq]
        have next_entries : next.entries = update self.entries addr none := by
          rw [next_def, remove_eq]
        have next_heads : next.heads = update self.heads entry.head
            (some { head with lstEntries := kept ++ rest, len := head.len - 1 }) := by
          rw [next_def, remove_eq]
        have next_types : next.idxTypes = update self.idxTypes head.idxType
            { self.idxTypes head.idxType with
              len := (self.idxTypes head.idxType).len - 1 } := by
          rw [next_def, remove_eq]
        simp only [head_kept, Bool.false_eq_true, if_false, if_true]
        obtain ⟨filter_eq, filter_same⟩ := filter_congr next fun a differs => by
          rw [next_entries, update_of_ne differs]
        obtain ⟨later, count⟩ := ih next_coherent (by rw [next_heads, update_self])
          kept rfl
        rw [filter_same] at later
        rw [filter_eq] at count
        have remaining_eq : (addr :: rest).filter (fun a => !self.sweeps removeAll a) =
            rest.filter fun a => !self.sweeps removeAll a :=
          filter_cons_of_neg (by simp [removed])
        rw [remaining_eq, filter_cons_of_pos removed, length_cons, count]
        refine ⟨swept_removed removed not_rest next_entries next_heads next_types ?_ later, rfl⟩
        intro nothing none_swept
        obtain ⟨rfl, all_swept⟩ := append_eq_nil_iff.mp nothing
        have no_rest : rest = [] := eq_nil_iff_forall_not_mem.mpr fun a a_mem => by
          have swept_a := filter_eq_nil_iff.mp all_swept a a_mem
          have kept_a := filter_eq_nil_iff.mp none_swept a a_mem
          simp_all
        exact last (by simp [no_rest])
    | false =>
      simp only [Bool.false_eq_true, if_false]
      set next := if markSurvivorsDirty = true then self.entrySetDirty addr true else self
        with next_def
      have next_eq : next =
          { self with
            entries := update self.entries addr
              (self.sweptEntry removeAll markSurvivorsDirty addr) } := by
        rw [next_def]
        cases markSurvivorsDirty with
        | true => simp [entrySetDirty_eq entry_eq, sweptEntry, removed, entry_eq]
        | false =>
          have same : update self.entries addr (some entry) = self.entries := by
            rw [← entry_eq, update_eq_self]
          simp [sweptEntry, removed, entry_eq, same]
      have next_coherent : next.Coherent klass := by
        rw [next_def]
        split
        · exact coherent.entrySetDirty addr true
        · exact coherent
      obtain ⟨filter_eq, filter_same⟩ := filter_congr next fun a differs => by
        rw [next_eq]
        exact update_of_ne differs ..
      have next_head : next.heads headAddr = some head := by
        rw [next_eq]
        exact head_eq
      obtain ⟨later, count⟩ := ih next_coherent next_head (kept ++ [addr]) (by simp [split])
      rw [filter_same] at later
      rw [filter_eq] at count
      have swept_eq : (addr :: rest).filter (self.sweeps removeAll) =
          rest.filter (self.sweeps removeAll) := filter_cons_of_neg (by simp [removed])
      have remaining_eq : (addr :: rest).filter (fun a => !self.sweeps removeAll a) =
          addr :: rest.filter fun a => !self.sweeps removeAll a :=
        filter_cons_of_pos (by simp [removed])
      rw [swept_eq, remaining_eq, append_cons]
      refine ⟨swept_survivor removed not_rest ?_ (by rw [next_eq]) (by rw [next_eq]) later, count⟩
      intro a
      simp [next_eq, update_apply]

/-- `_remove_head` sweeps the whole list of its head. -/
theorem Coherent.removeHeadInternal_swept (coherent : self.Coherent klass) {headAddr : Nat}
    (head_eq : self.heads headAddr = some head) (removeAll markSurvivorsDirty : Bool) :
    Swept self (self.removeHeadInternal klass headAddr removeAll markSurvivorsDirty).1
      removeAll markSurvivorsDirty headAddr head head.lstEntries
      (head.lstEntries.filter fun addr => !self.sweeps removeAll addr) := by
  simp only [NMDedupMultiIndex.removeHeadInternal, head_eq]
  exact (coherent.removeHeadLoop_swept head_eq removeAll markSurvivorsDirty [] _ rfl).1

end NMDedupMultiIndex

end NetworkManager
