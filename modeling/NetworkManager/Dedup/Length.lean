import Mathlib.Algebra.BigOperators.Group.List.Basic
import Mathlib.Algebra.GroupWithZero.Nat
import NetworkManager.Dedup.Sweep

/-!
# The entry counter of an index type

The counter of an index type is compared with the number of entries in its heads.  `_remove_entry`
decrements the counter only while the head survives, so the counter exceeds the number of entries
by the number of heads that were ever removed.
-/

set_option linter.unusedSectionVars false

namespace NetworkManager

namespace NMDedupMultiIndex

open List

variable {Obj T : Type*} [DecidableEq Obj] [DecidableEq T] {objClass : NMDedupMultiObjClass Obj}

section

variable (self : NMDedupMultiIndex Obj T)

/-- The counter of a head, zero when there is no such head. -/
def headLen (addr : Nat) : Nat :=
  ((self.heads addr).map (·.len)).getD 0

/-- The number of entries stored for an index type. -/
def storedLen (idxType : T) : Nat :=
  ((self.idxTypes idxType).lstIdx.map self.headLen).sum

/-- The counter of every index type is the number of its entries, and it is zero exactly when the
index type has no heads. -/
def LenExact : Prop :=
  ∀ idxType, (self.idxTypes idxType).len = self.storedLen idxType ∧
    ((self.idxTypes idxType).len = 0 ↔ (self.idxTypes idxType).lstIdx = [])

/-- Whether the head of an entry has further entries. -/
def HasSiblings (addr : Nat) : Prop :=
  ∀ entry head, self.entries addr = some entry → self.heads entry.head = some head →
    1 < head.lstEntries.length

end

variable {self : NMDedupMultiIndex Obj T} {head : NMDedupMultiHeadEntry T}
  {klass : T → NMDedupMultiIdxTypeClass objClass} {addr : Nat} {entry : NMDedupMultiEntry Obj}
  {headAddr : Nat}

theorem hasSiblings_iff (entry_eq : self.entries addr = some entry)
    (head_eq : self.heads entry.head = some head) :
    self.HasSiblings addr ↔ 1 < head.lstEntries.length := by
  constructor
  · intro siblings
    exact siblings entry head entry_eq head_eq
  · intro several otherEntry otherHead other_entry other_head
    cases entry_eq.symm.trans other_entry
    cases head_eq.symm.trans other_head
    exact several

/-- Whether an operation leaves an entry in every head. -/
def KeepsHeads (klass : T → NMDedupMultiIdxTypeClass objClass) (self : NMDedupMultiIndex Obj T) :
    DedupOp Obj T → Prop
  | .removeEntry (.entry addr) => self.HasSiblings addr
  | .removeEntry (.head _) => False
  | .removeObj idxType obj => ∀ addr ∈ self.lookupObj klass idxType obj, self.HasSiblings addr
  | .removeHead idxType obj => self.lookupHead klass idxType obj = none
  | .removeIdx idxType => (self.idxTypes idxType).lstIdx = []
  | .dirtyRemoveIdx idxType _ => ∀ addr ∈ (self.idxTypes idxType).lstIdx, ∀ head,
      self.heads addr = some head → ∃ entry ∈ head.lstEntries, self.sweeps false entry = false
  | _ => True

/-- By how much the counter of an index type exceeds the number of its entries. -/
def excess (self : NMDedupMultiIndex Obj T) (idxType : T) : Int :=
  (self.idxTypes idxType).len - self.storedLen idxType

theorem Coherent.lstIdx_eq_nil_iff (coherent : self.Coherent klass) (idxType : T) :
    (self.idxTypes idxType).lstIdx = [] ↔ self.storedLen idxType = 0 := by
  constructor
  · intro nil
    simp [storedLen, nil]
  · intro zero
    refine eq_nil_iff_forall_not_mem.mpr fun addr linked => ?_
    obtain ⟨head, head_eq, -⟩ := coherent.heap.mem_lstIdx.mp linked
    have positive : 0 < self.headLen addr := by
      simp only [headLen, head_eq, Option.map_some, Option.getD_some]
      rw [coherent.heap.len_eq head_eq]
      exact length_pos_iff.mpr (coherent.heap.lstEntries_ne head_eq)
    have none_stored := List.sum_eq_zero_iff_forall_eq_nat.mp zero (self.headLen addr)
      (mem_map_of_mem linked)
    omega

theorem Coherent.lenExact_iff (coherent : self.Coherent klass) :
    self.LenExact ↔ ∀ idxType, self.excess idxType = 0 := by
  constructor
  · intro exact idxType
    simp [excess, (exact idxType).1]
  · intro no_excess idxType
    have len_eq : (self.idxTypes idxType).len = self.storedLen idxType := by
      have zero := no_excess idxType
      simp only [excess] at zero
      omega
    exact ⟨len_eq, by rw [len_eq, coherent.lstIdx_eq_nil_iff]⟩

/-- Changing one head changes the number of stored entries by the change of its counter. -/
theorem HeapCoherent.storedLen_update (coherent : self.HeapCoherent klass)
    (other : NMDedupMultiIndex Obj T) (head_eq : self.heads headAddr = some head)
    (heads_other : ∀ addr, addr ≠ headAddr → other.heads addr = self.heads addr)
    (lstIdx_eq : ∀ idxType, (other.idxTypes idxType).lstIdx =
      if idxType = head.idxType ∧ other.heads headAddr = none then
        (self.idxTypes idxType).lstIdx.erase headAddr
      else (self.idxTypes idxType).lstIdx) :
    other.storedLen head.idxType + head.len = self.storedLen head.idxType + other.headLen headAddr ∧
      ∀ idxType, idxType ≠ head.idxType → other.storedLen idxType = self.storedLen idxType := by
  have len_other : ∀ addr, addr ≠ headAddr → other.headLen addr = self.headLen addr := by
    intro addr differs
    simp [headLen, heads_other addr differs]
  constructor
  · have linked : headAddr ∈ (self.idxTypes head.idxType).lstIdx :=
      coherent.mem_lstIdx.mpr ⟨head, head_eq, rfl⟩
    have old_sum := sum_map_erase self.headLen linked
    have rest_eq : (((self.idxTypes head.idxType).lstIdx.erase headAddr).map other.headLen).sum =
        (((self.idxTypes head.idxType).lstIdx.erase headAddr).map self.headLen).sum := by
      congr 1
      refine map_congr_left fun addr member => len_other addr ?_
      exact ((coherent.lstIdx_nodup _).mem_erase_iff.mp member).1
    have old_len : self.headLen headAddr = head.len := by simp [headLen, head_eq]
    simp only [storedLen, lstIdx_eq, true_and]
    split
    · rename_i gone
      have zero : other.headLen headAddr = 0 := by simp [headLen, gone]
      rw [rest_eq, zero]
      omega
    · have new_sum := sum_map_erase other.headLen linked
      rw [rest_eq] at new_sum
      omega
  · intro idxType differs
    have not_linked : headAddr ∉ (self.idxTypes idxType).lstIdx := by
      intro linked
      obtain ⟨old, old_eq, rfl⟩ := coherent.mem_lstIdx.mp linked
      cases head_eq.symm.trans old_eq
      exact differs rfl
    simp only [storedLen, lstIdx_eq, differs, false_and, if_false]
    congr 1
    refine map_congr_left fun addr member => len_other addr ?_
    rintro rfl
    exact not_linked member

/-- How an operation changes the excess: it never shrinks, and it is unchanged for all index types
exactly when every head keeps an entry. -/
structure ExcessStep (before after : NMDedupMultiIndex Obj T) (keeps : Prop) : Prop where
  le : ∀ idxType, before.excess idxType ≤ after.excess idxType
  /-- The excess grows exactly when a head is removed. -/
  eq_iff : (∀ idxType, after.excess idxType = before.excess idxType) ↔ keeps

theorem ExcessStep.of_eq {before after : NMDedupMultiIndex Obj T} {keeps : Prop}
    (same : ∀ idxType, after.excess idxType = before.excess idxType) (kept : keeps) :
    ExcessStep before after keeps :=
  ⟨fun idxType => Int.le_of_eq (same idxType).symm, iff_of_true same kept⟩

theorem ExcessStep.of_single {before after : NMDedupMultiIndex Obj T} (keeps : Prop)
    [Decidable keeps] (type : T)
    (growth : ∀ idxType, after.excess idxType =
      before.excess idxType + if idxType = type ∧ ¬ keeps then 1 else 0) :
    ExcessStep before after keeps := by
  constructor
  · intro idxType
    rw [growth]
    split <;> omega
  · constructor
    · intro same
      by_contra lost
      have grown := growth type
      rw [same type, if_pos ⟨rfl, lost⟩] at grown
      omega
    · intro kept idxType
      rw [growth, if_neg fun grows => grows.2 kept, Int.add_zero]

/-- Operations that touch neither the counters nor the lists of heads keep the excess. -/
theorem excess_congr (self other : NMDedupMultiIndex Obj T)
    (types_eq : other.idxTypes = self.idxTypes)
    (len_eq : ∀ addr, other.headLen addr = self.headLen addr) (idxType : T) :
    other.excess idxType = self.excess idxType := by
  have headLen_eq : other.headLen = self.headLen := funext len_eq
  simp [excess, storedLen, types_eq, headLen_eq]

theorem excess_entrySetDirty (self : NMDedupMultiIndex Obj T) (addr : Nat) (dirty : Bool)
    (idxType : T) : (self.entrySetDirty addr dirty).excess idxType = self.excess idxType := by
  unfold entrySetDirty
  split
  · exact excess_congr self _ rfl (fun _ => rfl) idxType
  · rfl

theorem excess_setLstEntries (self : NMDedupMultiIndex Obj T) (addr : Nat) (lstEntries : List Nat)
    (idxType : T) :
    (self.setLstEntries addr lstEntries).excess idxType = self.excess idxType := by
  unfold setLstEntries
  split
  · rename_i head head_eq
    refine excess_congr self (self.setHead addr (some { head with lstEntries })) rfl
      (fun other => ?_) idxType
    by_cases same : other = addr
    · simp [headLen, setHead, same, head_eq]
    · simp [headLen, setHead, same]
  · rfl

theorem excess_objIntern (self : NMDedupMultiIndex Obj T) (obj : Obj) (idxType : T) :
    (self.objIntern objClass obj).1.excess idxType = self.excess idxType := by
  rw [objIntern_fst]
  exact excess_congr self _ rfl (fun _ => rfl) idxType

theorem excess_dirtySetList (addrs : List Nat) (self : NMDedupMultiIndex Obj T) (idxType : T) :
    (dirtySetList addrs self).excess idxType = self.excess idxType := by
  induction addrs generalizing self with
  | nil => rfl
  | cons addr rest ih =>
    rw [dirtySetList, ih]
    exact excess_entrySetDirty self addr true idxType

theorem excess_dirtySetHeadAddr (self : NMDedupMultiIndex Obj T) (addr : Nat) (idxType : T) :
    (self.dirtySetHeadAddr addr).excess idxType = self.excess idxType := by
  unfold dirtySetHeadAddr
  split
  · exact excess_dirtySetList _ self idxType
  · rfl

theorem Coherent.excess_linkedToHead (coherent : self.Coherent klass) {idxType : T} {objNew : Obj}
    {idxObjs : List Obj} (head_eq : self.heads headAddr = some head)
    (type_eq : head.idxType = idxType) (lstEntries : List Nat) (other : T) :
    (self.linkedToHead idxType objNew idxObjs headAddr head lstEntries).excess other =
      self.excess other := by
  subst type_eq
  set after := self.linkedToHead head.idxType objNew idxObjs headAddr head lstEntries
    with after_def
  have lstIdx_same : ∀ t, (after.idxTypes t).lstIdx = (self.idxTypes t).lstIdx := by
    intro t
    by_cases same : t = head.idxType
    · simp [after_def, NMDedupMultiIndex.linkedToHead, same]
    · simp [after_def, NMDedupMultiIndex.linkedToHead, same]
  have head_len : after.headLen headAddr = head.len + 1 := by
    simp [headLen, after_def, NMDedupMultiIndex.linkedToHead]
  obtain ⟨type_sum, other_sum⟩ := coherent.heap.storedLen_update after head_eq
    (fun addr differs => by simp [after_def, NMDedupMultiIndex.linkedToHead, differs])
    (fun t => by
      rw [lstIdx_same, if_neg]
      simp [after_def, NMDedupMultiIndex.linkedToHead])
  by_cases same : other = head.idxType
  · subst same
    have len_eq : (after.idxTypes head.idxType).len = (self.idxTypes head.idxType).len + 1 := by
      simp [after_def, NMDedupMultiIndex.linkedToHead]
    simp only [excess, len_eq]
    omega
  · have len_eq : (after.idxTypes other).len = (self.idxTypes other).len := by
      simp [after_def, NMDedupMultiIndex.linkedToHead, same]
    simp only [excess, len_eq, other_sum other same]

theorem Coherent.excess_linkedToNewHead (coherent : self.Coherent klass) (idxType : T)
    (objNew : Obj) (idxObjs : List Obj) (other : T) :
    (self.linkedToNewHead idxType objNew idxObjs).excess other = self.excess other := by
  have not_linked : ∀ t, self.nextAddr ∉ (self.idxTypes t).lstIdx := by
    intro t linked
    obtain ⟨head, head_eq, -⟩ := coherent.heap.mem_lstIdx.mp linked
    exact Nat.lt_irrefl _ (coherent.heap.head_lt head_eq)
  set after := self.linkedToNewHead idxType objNew idxObjs with after_def
  have len_same : ∀ t, ((self.idxTypes t).lstIdx.map after.headLen).sum = self.storedLen t := by
    intro t
    unfold storedLen
    congr 1
    refine map_congr_left fun addr member => ?_
    have differs : addr ≠ self.nextAddr := fun same => not_linked t (same ▸ member)
    simp [headLen, after_def, NMDedupMultiIndex.linkedToNewHead, differs]
  by_cases same : other = idxType
  · have lst_eq : (after.idxTypes other).lstIdx =
        (self.idxTypes other).lstIdx ++ [self.nextAddr] := by
      simp [after_def, NMDedupMultiIndex.linkedToNewHead, same]
    have len_eq : (after.idxTypes other).len = (self.idxTypes other).len + 1 := by
      simp [after_def, NMDedupMultiIndex.linkedToNewHead, same]
    have new_len : after.headLen self.nextAddr = 1 := by
      simp [headLen, after_def, NMDedupMultiIndex.linkedToNewHead]
    simp only [excess, len_eq, NMDedupMultiIndex.storedLen, lst_eq, map_append,
      sum_append, map_cons, map_nil, sum_cons, sum_nil, new_len]
    rw [len_same, NMDedupMultiIndex.storedLen]
    omega
  · have types_eq : after.idxTypes other = self.idxTypes other := by
      simp [after_def, NMDedupMultiIndex.linkedToNewHead, same]
    simp only [excess, NMDedupMultiIndex.storedLen, types_eq]
    rw [len_same, NMDedupMultiIndex.storedLen]

theorem Coherent.headLen_le (coherent : self.Coherent klass)
    (head_eq : self.heads headAddr = some head) :
    head.len ≤ self.storedLen head.idxType := by
  have linked : headAddr ∈ (self.idxTypes head.idxType).lstIdx :=
    coherent.heap.mem_lstIdx.mpr ⟨head, head_eq, rfl⟩
  have sum_eq := sum_map_erase self.headLen linked
  have len_eq : self.headLen headAddr = head.len := by simp [headLen, head_eq]
  unfold NMDedupMultiIndex.storedLen
  omega

theorem Coherent.excess_removeEntryInternal (coherent : self.Coherent klass)
    (nonneg : ∀ idxType, 0 ≤ self.excess idxType) (entry_eq : self.entries addr = some entry)
    (head_eq : self.heads entry.head = some head) (idxType : T) :
    (self.removeEntryInternal klass addr).1.excess idxType =
      self.excess idxType +
        if idxType = head.idxType ∧ ¬ 1 < head.lstEntries.length then 1 else 0 := by
  have linked : addr ∈ head.lstEntries :=
    (coherent.heap.mem_lstEntries head_eq).mpr ⟨entry, entry_eq, rfl⟩
  have last_iff : head.lstEntries.erase addr = [] ↔ ¬ 1 < head.lstEntries.length := by
    have erased := length_erase_of_mem linked
    have positive := length_pos_of_mem linked
    rw [← length_eq_zero_iff]
    omega
  have head_len := coherent.heap.len_eq head_eq
  have head_le := coherent.headLen_le head_eq
  have type_nonneg := nonneg head.idxType
  set after := (self.removeEntryInternal klass addr).1 with after_def
  rw [coherent.removeEntryInternal_eq entry_eq head_eq] at after_def
  by_cases last : head.lstEntries.erase addr = []
  · rw [if_pos last] at after_def
    obtain ⟨type_sum, other_sum⟩ := coherent.heap.storedLen_update after head_eq
      (fun other differs => by simp [after_def, differs])
      (fun t => by
        by_cases same : t = head.idxType
        · simp [after_def, same]
        · simp [after_def, same])
    have after_len : after.headLen entry.head = 0 := by simp [headLen, after_def]
    have single := last_iff.mp last
    have positive := length_pos_of_mem linked
    by_cases same : idxType = head.idxType
    · subst same
      have len_eq : (after.idxTypes head.idxType).len = (self.idxTypes head.idxType).len := by
        simp [after_def]
      rw [if_pos ⟨rfl, single⟩]
      simp only [excess, len_eq]
      omega
    · have len_eq : (after.idxTypes idxType).len = (self.idxTypes idxType).len := by
        simp [after_def, same]
      rw [if_neg fun both => same both.1]
      simp only [excess, len_eq, other_sum idxType same]
      omega
  · rw [if_neg last] at after_def
    obtain ⟨type_sum, other_sum⟩ := coherent.heap.storedLen_update after head_eq
      (fun other differs => by simp [after_def, differs])
      (fun t => by
        by_cases same : t = head.idxType
        · simp [after_def, same]
        · simp [after_def, same])
    have after_len : after.headLen entry.head = head.len - 1 := by simp [headLen, after_def]
    have several : 1 < head.lstEntries.length := by
      by_contra single
      exact last (last_iff.mpr single)
    by_cases same : idxType = head.idxType
    · subst same
      have len_eq : (after.idxTypes head.idxType).len = (self.idxTypes head.idxType).len - 1 := by
        simp [after_def]
      rw [if_neg fun both => both.2 several]
      simp only [excess] at type_nonneg ⊢
      omega
    · have len_eq : (after.idxTypes idxType).len = (self.idxTypes idxType).len := by
        simp [after_def, same]
      rw [if_neg fun both => same both.1]
      simp only [excess, len_eq, other_sum idxType same]
      omega

theorem Coherent.excess_swept {self after : NMDedupMultiIndex Obj T}
    (coherent : self.Coherent klass) (nonneg : ∀ idxType, 0 ≤ self.excess idxType)
    (head_eq : self.heads headAddr = some head) {removeAll markSurvivorsDirty : Bool}
    (swept : Swept self after removeAll markSurvivorsDirty headAddr head head.lstEntries
      (head.lstEntries.filter fun addr => !self.sweeps removeAll addr)) (idxType : T) :
    after.excess idxType = self.excess idxType +
      if idxType = head.idxType ∧
        ¬ ∃ addr ∈ head.lstEntries, self.sweeps removeAll addr = false then 1 else 0 := by
  set remaining := head.lstEntries.filter fun addr => !self.sweeps removeAll addr
    with remaining_def
  have nothing_iff : remaining = [] ↔
      ¬ ∃ addr ∈ head.lstEntries, self.sweeps removeAll addr = false := by
    simp [remaining_def]
  have counts : (head.lstEntries.filter (self.sweeps removeAll)).length + remaining.length =
      head.len := by
    rw [coherent.heap.len_eq head_eq, remaining_def, ← countP_eq_length_filter,
      ← countP_eq_length_filter]
    simpa using (length_eq_countP_add_countP (self.sweeps removeAll)).symm
  have head_le := coherent.headLen_le head_eq
  have type_nonneg := nonneg head.idxType
  have head_pos : 0 < head.len := by
    rw [coherent.heap.len_eq head_eq]
    exact length_pos_iff.mpr (coherent.heap.lstEntries_ne head_eq)
  have after_len : after.headLen headAddr = remaining.length := by
    by_cases nothing : remaining = []
    · simp [headLen, swept.heads_eq, nothing]
    · simp [headLen, swept.heads_eq, nothing]
  obtain ⟨type_sum, other_sum⟩ := coherent.heap.storedLen_update after head_eq
    (fun other differs => by simp [swept.heads_eq, differs])
    (fun t => by
      rw [swept.lstIdx_eq]
      by_cases nothing : remaining = []
      · simp [swept.heads_eq, nothing]
      · simp [swept.heads_eq, nothing])
  simp only [← nothing_iff]
  by_cases same : idxType = head.idxType
  · subst same
    have len_eq := swept.len_eq
    simp only [excess] at type_nonneg ⊢
    by_cases nothing : remaining = []
    · have no_remaining : remaining.length = 0 := by simp [nothing]
      rw [if_pos nothing] at len_eq
      rw [if_pos ⟨trivial, nothing⟩]
      omega
    · rw [if_neg nothing] at len_eq
      rw [if_neg fun both => nothing both.2]
      omega
  · rw [if_neg fun both => same both.1]
    simp only [excess, swept.len_other idxType same, other_sum idxType same]
    omega

private theorem sweep_other {self after : NMDedupMultiIndex Obj T} (coherent : self.Coherent klass)
    (head_eq : self.heads headAddr = some head) {removeAll markSurvivorsDirty : Bool}
    {remaining : List Nat}
    (swept : Swept self after removeAll markSurvivorsDirty headAddr head head.lstEntries remaining)
    {other : Nat} (differs : other ≠ headAddr) {otherHead : NMDedupMultiHeadEntry T} :
    (after.heads other = some otherHead ↔ self.heads other = some otherHead) ∧
      (self.heads other = some otherHead → ∀ addr ∈ otherHead.lstEntries,
        after.sweeps removeAll addr = self.sweeps removeAll addr) := by
  refine ⟨by simp [swept.heads_eq, differs], ?_⟩
  intro other_eq addr linked
  refine sweeps_congr self after ?_ removeAll
  have not_swept : addr ∉ head.lstEntries := by
    intro swept_linked
    obtain ⟨entry, entry_eq, entry_head⟩ :=
      (coherent.heap.mem_lstEntries other_eq).mp linked
    obtain ⟨again, again_eq, again_head⟩ :=
      (coherent.heap.mem_lstEntries head_eq).mp swept_linked
    cases entry_eq.symm.trans again_eq
    exact differs (entry_head.symm.trans again_head)
  rw [swept.entries_eq, if_neg not_swept]

/-- Sweeping several heads raises the excess exactly when nothing remains of one of them. -/
theorem Coherent.excess_removeIdxLoop (coherent : self.Coherent klass)
    (nonneg : ∀ idxType, 0 ≤ self.excess idxType) (removeAll markSurvivorsDirty : Bool)
    {addrs : List Nat} (nodup : addrs.Nodup) :
    ExcessStep self
      (NMDedupMultiIndex.removeIdxLoop klass removeAll markSurvivorsDirty addrs self).1
      (∀ addr ∈ addrs, ∀ head, self.heads addr = some head →
        ∃ entry ∈ head.lstEntries, self.sweeps removeAll entry = false) := by
  induction addrs generalizing self with
  | nil => exact ExcessStep.of_eq (fun _ => rfl) (by simp)
  | cons headAddr rest ih =>
    obtain ⟨not_rest, rest_nodup⟩ := nodup_cons.mp nodup
    simp only [NMDedupMultiIndex.removeIdxLoop]
    cases head_eq : self.heads headAddr with
    | none =>
      have unchanged : (self.removeHeadInternal klass headAddr removeAll
          markSurvivorsDirty).1 = self := by
        simp [NMDedupMultiIndex.removeHeadInternal, head_eq]
      rw [unchanged]
      have later := ih coherent nonneg rest_nodup
      refine ⟨later.le, later.eq_iff.trans ?_⟩
      simp [head_eq]
    | some head =>
      have swept := coherent.removeHeadInternal_swept head_eq removeAll markSurvivorsDirty
      have growth := coherent.excess_swept nonneg head_eq swept
      have next_coherent := coherent.removeHeadInternal headAddr removeAll markSurvivorsDirty
      set next := (self.removeHeadInternal klass headAddr removeAll markSurvivorsDirty).1
      have le_next : ∀ idxType, self.excess idxType ≤ next.excess idxType := by
        intro idxType
        rw [growth]
        split <;> omega
      have later := ih next_coherent
        (fun idxType => Int.le_trans (nonneg idxType) (le_next idxType)) rest_nodup
      refine ⟨fun idxType => Int.le_trans (le_next idxType) (later.le idxType), ?_⟩
      have later_iff : (∀ addr ∈ rest, ∀ head, next.heads addr = some head →
          ∃ entry ∈ head.lstEntries, next.sweeps removeAll entry = false) ↔
          ∀ addr ∈ rest, ∀ head, self.heads addr = some head →
            ∃ entry ∈ head.lstEntries, self.sweeps removeAll entry = false := by
        refine forall₂_congr fun addr member => forall_congr' fun other => ?_
        have differs : addr ≠ headAddr := fun same => not_rest (same ▸ member)
        obtain ⟨heads_iff, sweeps_eq⟩ := sweep_other coherent head_eq swept differs
        rw [heads_iff]
        refine imp_congr_right fun other_eq => exists_congr fun entry => ?_
        exact and_congr_right fun linked => by rw [sweeps_eq other_eq entry linked]
      constructor
      · intro same
        have next_same : ∀ idxType, next.excess idxType = self.excess idxType :=
          fun idxType => Int.le_antisymm
            ((same idxType) ▸ later.le idxType) (le_next idxType)
        intro addr member other other_eq
        rcases mem_cons.mp member with rfl | member
        · cases head_eq.symm.trans other_eq
          by_contra nothing
          have grown := growth head.idxType
          rw [next_same, if_pos ⟨rfl, nothing⟩] at grown
          omega
        · refine later_iff.mp (later.eq_iff.mp fun idxType => ?_) addr member other other_eq
          rw [same, next_same]
      · intro kept idxType
        have here : ∃ entry ∈ head.lstEntries, self.sweeps removeAll entry = false :=
          kept headAddr (by simp) head head_eq
        rw [later.eq_iff.mpr (later_iff.mpr fun addr member =>
          kept addr (mem_cons_of_mem _ member)) idxType, growth,
          if_neg fun both => both.2 here, Int.add_zero]

theorem excess_addExisting (self : NMDedupMultiIndex Obj T) (obj : Obj) (mode : NMDedupMultiIdxMode)
    (entryOrder : Option Nat) (entry_eq : self.entries addr = some entry)
    (head_eq : self.heads entry.head = some head) (idxType : T) :
    (self.addExisting objClass obj addr mode entryOrder).1.excess idxType =
      self.excess idxType := by
  rw [self.addExisting_fst objClass obj mode entryOrder entry_eq head_eq]
  apply excess_congr
  · rfl
  · intro other
    by_cases same : other = entry.head
    · simp [headLen, same, head_eq]
    · simp [headLen, same]

section

variable (coherent : self.Coherent klass)

include coherent

theorem Coherent.excess_addInternal {idxType : T} {obj : Obj} (mode : NMDedupMultiIdxMode)
    {entryOrder : Option Nat} (order_valid : self.OrderValid klass idxType obj entryOrder)
    {headExisting : Existing} (head_valid : self.HeadValid klass idxType obj headExisting)
    (other : T) :
    (self.addInternal klass idxType obj (self.lookupObj klass idxType obj) mode entryOrder
      headExisting).1.excess other = self.excess other := by
  cases found : self.lookupObj klass idxType obj with
  | some addr =>
    obtain ⟨head, stored, tracks, -, -⟩ := coherent.lookupObj_eq_some.mp found
    obtain ⟨_, entry_eq⟩ := tracks.entry
    obtain ⟨_, _, head_eq⟩ := tracks.head
    exact self.excess_addExisting obj mode entryOrder entry_eq head_eq other
  | none =>
    simp only [NMDedupMultiIndex.addInternal]
    by_cases storable : (klass idxType).partitionable obj = true
    · rcases coherent.addNew_cases found storable mode order_valid head_valid with
        ⟨headAddr, head, head_found, head_eq, -, add_eq⟩ | ⟨-, add_eq⟩
      · rw [add_eq]
        obtain ⟨_, _, tracks, -⟩ := coherent.lookupHead_eq_some.mp head_found
        obtain ⟨_, _, tracked_head⟩ := tracks.head
        cases head_eq.symm.trans tracked_head
        exact coherent.excess_linkedToHead head_eq rfl _ other
      · rw [add_eq]
        exact coherent.excess_linkedToNewHead idxType _ _ other
    · have not_storable : (klass idxType).partitionable obj = false :=
        Bool.eq_false_iff.mpr storable
      simp [addNew, not_storable]

private theorem excessStep_removeHead (nonneg : ∀ idxType, 0 ≤ self.excess idxType)
    (head_eq : self.heads addr = some head) :
    ExcessStep self (self.removeHeadInternal klass addr true false).1 False := by
  refine ExcessStep.of_single False head.idxType fun idxType => ?_
  rw [coherent.excess_swept nonneg head_eq (coherent.removeHeadInternal_swept head_eq true false)]
  simp [sweeps]

theorem Coherent.lookupHead_live {idxType : T} {obj : Option Obj}
    (found : self.lookupHead klass idxType obj = some addr) :
    ∃ head, self.heads addr = some head := by
  unfold NMDedupMultiIndex.lookupHead at found
  split at found
  · obtain ⟨head, head_eq, -⟩ := coherent.heap.mem_lstIdx.mp (mem_of_head? found)
    exact ⟨head, head_eq⟩
  · split at found
    · cases found
      rename_i looked
      exact coherent.mem_idxEntries.mp (List.mem_of_find?_eq_some looked)
    · simp at found

theorem Coherent.excessStep (nonneg : ∀ idxType, 0 ≤ self.excess idxType) {op : DedupOp Obj T}
    (callable : self.Callable klass op) :
    ExcessStep self (self.perform klass op) (self.KeepsHeads klass op) := by
  cases op with
  | add idxType obj mode =>
    exact ExcessStep.of_eq (coherent.excess_addInternal mode
      (orderValid_none klass self idxType obj) trivial) trivial
  | addFull idxType obj mode entryOrder entryExisting headExisting =>
    obtain ⟨order_valid, entry_valid, head_valid⟩ := callable
    refine ExcessStep.of_eq (fun other => ?_) trivial
    simp only [NMDedupMultiIndex.perform]
    rw [addFull_eq_addInternal mode entryOrder headExisting entry_valid]
    exact coherent.excess_addInternal mode order_valid head_valid other
  | removeEntry node =>
    cases node with
    | entry addr =>
      obtain ⟨entry, entry_eq⟩ := callable
      obtain ⟨head, head_eq⟩ := coherent.heap.head_live entry_eq
      have step := ExcessStep.of_single (1 < head.lstEntries.length) head.idxType
        (coherent.excess_removeEntryInternal nonneg entry_eq head_eq)
      exact ⟨step.le, step.eq_iff.trans (hasSiblings_iff entry_eq head_eq).symm⟩
    | head addr =>
      obtain ⟨head, head_eq⟩ := callable
      exact excessStep_removeHead coherent nonneg head_eq
  | removeObj idxType obj =>
    simp only [NMDedupMultiIndex.perform, NMDedupMultiIndex.removeObj]
    cases found : self.lookupObj klass idxType obj with
    | none => exact ExcessStep.of_eq (fun _ => rfl) (by simp [KeepsHeads, found])
    | some addr =>
      obtain ⟨_, _, tracks, -, -⟩ := coherent.lookupObj_eq_some.mp found
      obtain ⟨_, entry_eq⟩ := tracks.entry
      obtain ⟨lst, _, head_eq⟩ := tracks.head
      have keeps_iff : self.KeepsHeads klass (.removeObj idxType obj) ↔ 1 < lst.length := by
        simp [KeepsHeads, found, hasSiblings_iff entry_eq head_eq]
      have step := ExcessStep.of_single (1 < lst.length) idxType
        (coherent.excess_removeEntryInternal nonneg entry_eq head_eq)
      exact ⟨step.le, step.eq_iff.trans keeps_iff.symm⟩
  | removeHead idxType obj =>
    simp only [NMDedupMultiIndex.perform, NMDedupMultiIndex.removeHead]
    cases found : self.lookupHead klass idxType obj with
    | none => exact ExcessStep.of_eq (fun _ => rfl) found
    | some addr =>
      obtain ⟨head, head_eq⟩ := coherent.lookupHead_live found
      have step := excessStep_removeHead coherent nonneg head_eq
      exact ⟨step.le, step.eq_iff.trans (by simp [KeepsHeads, found])⟩
  | removeIdx idxType =>
    have step := coherent.excess_removeIdxLoop nonneg true false
      (coherent.heap.lstIdx_nodup idxType)
    refine ⟨step.le, step.eq_iff.trans ?_⟩
    simp only [sweeps, Bool.true_or, Bool.true_eq_false, and_false, exists_false, KeepsHeads]
    constructor
    · intro none_live
      refine eq_nil_iff_forall_not_mem.mpr fun addr linked => ?_
      obtain ⟨head, head_eq, -⟩ := coherent.heap.mem_lstIdx.mp linked
      exact none_live addr linked head head_eq
    · intro nil
      simp [nil]
  | dirtySetHead idxType obj =>
    refine ExcessStep.of_eq (fun other => ?_) trivial
    simp only [NMDedupMultiIndex.perform, NMDedupMultiIndex.dirtySetHead]
    split
    · exact excess_dirtySetHeadAddr self _ other
    · rfl
  | dirtySetIdx idxType =>
    refine ExcessStep.of_eq (fun other => ?_) trivial
    refine foldlRecOn (motive := fun state : NMDedupMultiIndex Obj T =>
      state.excess other = self.excess other) _ _ rfl fun state same addr _ => ?_
    exact (excess_dirtySetHeadAddr state addr other).trans same
  | dirtyRemoveIdx idxType markSurvivorsDirty =>
    exact coherent.excess_removeIdxLoop nonneg false markSurvivorsDirty
      (coherent.heap.lstIdx_nodup idxType)
  | entrySetDirty addr dirty =>
    exact ExcessStep.of_eq (excess_entrySetDirty self addr dirty) trivial
  | entryReorder addr entryOrder orderAfter =>
    refine ExcessStep.of_eq (fun other => ?_) trivial
    simp only [NMDedupMultiIndex.perform, NMDedupMultiIndex.entryReorder]
    split
    · rfl
    · exact excess_setLstEntries self _ _ other
  | objIntern obj => exact ExcessStep.of_eq (excess_objIntern self obj) trivial
  | objRelease obj =>
    refine ExcessStep.of_eq (fun other => ?_) trivial
    exact excess_congr self (self.objRelease obj) rfl (fun _ => rfl) other

end

/-- Along a lawful run from the empty index the counters of all index types are exact throughout
if and only if no operation of the run takes the last entry of a head. -/
theorem run_lenExact_iff (klass : T → NMDedupMultiIdxTypeClass objClass)
    (ops : List (DedupOp Obj T)) (lawful : (machine klass).Lawful new ops) :
    (machine klass).Throughout LenExact new ops ↔
      (machine klass).Along (KeepsHeads klass) new ops := by
  have start_excess : ∀ idxType, (new : NMDedupMultiIndex Obj T).excess idxType = 0 := by
    intro idxType
    simp [excess, storedLen, new]
  refine (machine klass).throughout_iff_along
    (fun state => state.Coherent klass ∧ ∀ idxType, 0 ≤ state.excess idxType)
    ?_ ?_ ⟨coherent_new klass, fun idxType => Int.le_of_eq (start_excess idxType).symm⟩
    ((coherent_new klass).lenExact_iff.mpr start_excess) lawful
  · rintro state op ⟨coherent, nonneg⟩ callable
    exact ⟨coherent.perform callable, fun idxType =>
      Int.le_trans (nonneg idxType) ((coherent.excessStep nonneg callable).le idxType)⟩
  · rintro state op ⟨coherent, nonneg⟩ exact_before callable
    have no_excess := coherent.lenExact_iff.mp exact_before
    have step := coherent.excessStep nonneg callable
    change (state.perform klass op).LenExact ↔ state.KeepsHeads klass op
    rw [(coherent.perform callable).lenExact_iff, ← step.eq_iff]
    simp only [no_excess]

theorem run_lenExact_iff_siblings :
    (machine dedupIdxTypeClass).Throughout LenExact new
      [.add ⟨20, 3⟩ ⟨1, 1⟩ .append, .add ⟨20, 3⟩ ⟨2, 2⟩ .append, .removeObj ⟨20, 3⟩ ⟨1, 1⟩] := by
  have lawful : (machine dedupIdxTypeClass).Lawful new
      [.add ⟨20, 3⟩ ⟨1, 1⟩ .append, .add ⟨20, 3⟩ ⟨2, 2⟩ .append, .removeObj ⟨20, 3⟩ ⟨1, 1⟩] :=
    ⟨trivial, trivial, trivial, trivial⟩
  refine (run_lenExact_iff dedupIdxTypeClass _ lawful).mpr ⟨trivial, trivial, ?_, trivial⟩
  intro addr found
  obtain rfl : 1 = addr := Option.some.inj found
  exact (hasSiblings_iff rfl rfl).mpr (by decide)

/-- Adding one object and removing it again leaves an index type without heads whose counter
is one. -/
theorem len_after_remove_last :
    let ops : List (DedupOp DedupObj DedupIdxType) :=
      [.add ⟨20, 3⟩ ⟨1, 1⟩ .append, .removeObj ⟨20, 3⟩ ⟨1, 1⟩]
    (machine dedupIdxTypeClass).Lawful new ops ∧
      (((machine dedupIdxTypeClass).run new ops).idxTypes ⟨20, 3⟩).lstIdx = [] ∧
      ((machine dedupIdxTypeClass).run new ops).storedLen ⟨20, 3⟩ = 0 ∧
      (((machine dedupIdxTypeClass).run new ops).idxTypes ⟨20, 3⟩).len = 1 ∧
      ¬ ((machine dedupIdxTypeClass).run new ops).LenExact := by
  refine ⟨⟨trivial, trivial, trivial⟩, by decide, by decide, by decide, ?_⟩
  intro exact_after
  exact absurd (exact_after ⟨20, 3⟩).1 (by decide)

end NMDedupMultiIndex

end NetworkManager
