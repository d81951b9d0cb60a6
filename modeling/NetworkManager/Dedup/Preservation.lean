import NetworkManager.Dedup.Heap

/-!
# Removing and adding entries

The internal operations `_remove_entry` and `_add` are described by the state they leave behind,
and each of them keeps the index coherent.
-/

set_option linter.unusedSectionVars false

namespace NetworkManager

namespace NMDedupMultiIndex

open Function List NMDedupMultiIndex Option

variable {Obj T : Type*} [DecidableEq Obj] [DecidableEq T] {objClass : NMDedupMultiObjClass Obj}
  {head : NMDedupMultiHeadEntry T} {klass : T → NMDedupMultiIdxTypeClass objClass}
  {self : NMDedupMultiIndex Obj T} {entryOrder : Option Nat} {lstEntries : List Nat} {idxType : T}
  {idxObjs : List Obj}

private theorem entryUnpack_setLen {self other : NMDedupMultiIndex Obj T} {addr len : Nat}
    (head_eq : self.heads addr = some head) (entries_eq : other.entries = self.entries)
    (heads_eq : other.heads = Function.update self.heads addr (some { head with len }))
    (node : IdxEntry) : other.entryUnpack node = self.entryUnpack node := by
  cases node with
  | entry e =>
    simp only [entryUnpack, entries_eq, heads_eq]
    cases self.entries e with
    | none => rfl
    | some entry =>
      by_cases same : entry.head = addr
      · simp [same, head_eq]
      · simp [update_of_ne same]
  | head h =>
    simp only [entryUnpack, entries_eq, heads_eq]
    by_cases same : h = addr
    · simp [same, head_eq]
    · simp [update_of_ne same]

variable {addr : Nat} {entry : NMDedupMultiEntry Obj} {obj : Obj}

/-- The heap and the table after `_remove_entry`. -/
theorem Coherent.removeEntryInternal_eq (coherent : self.Coherent klass)
    (entry_eq : self.entries addr = some entry) (head_eq : self.heads entry.head = some head) :
    self.removeEntryInternal klass addr =
      if head.lstEntries.erase addr = [] then
        ({ self with
            entries := Function.update self.entries addr none
            heads := Function.update self.heads entry.head none
            idxTypes := Function.update self.idxTypes head.idxType
              { self.idxTypes head.idxType with
                lstIdx := (self.idxTypes head.idxType).lstIdx.erase entry.head }
            idxEntries := (self.idxEntries.filter fun other => other ≠ .entry addr).filter
              fun other => other ≠ .head entry.head }, true)
      else
        ({ self with
            entries := Function.update self.entries addr none
            heads := Function.update self.heads entry.head (some { head with
              lstEntries := head.lstEntries.erase addr, len := head.len - 1 })
            idxTypes := Function.update self.idxTypes head.idxType
              { self.idxTypes head.idxType with len := (self.idxTypes head.idxType).len - 1 }
            idxEntries := self.idxEntries.filter fun other => other ≠ .entry addr }, false) := by
  have linked : addr ∈ head.lstEntries :=
    (coherent.heap.mem_lstEntries head_eq).mpr ⟨entry, entry_eq, rfl⟩
  have survives : 0 < head.len - 1 ↔ head.lstEntries.erase addr ≠ [] := by
    rw [coherent.heap.len_eq head_eq, ← length_erase_of_mem linked, length_pos_iff]
  have live_entry : self.Live (.entry addr) := ⟨entry, entry_eq⟩
  have live_head : self.Live (.head entry.head) := ⟨head, head_eq⟩
  have table_live : ∀ node ∈ self.idxEntries, self.Live node :=
    fun node member => coherent.mem_idxEntries.mp member
  -- Both table removals happen while only a counter of the heap has changed.
  have remove : ∀ {other : NMDedupMultiIndex Obj T} {node : IdxEntry}, self.Live node →
      other.entries = self.entries →
      other.heads = update self.heads entry.head
        (some { head with len := head.len - 1 }) →
      (∀ member ∈ other.idxEntries, self.Live member) →
      other.idxEntriesRemove klass node =
        { other with idxEntries := other.idxEntries.filter fun member => member ≠ node } := by
    intro other node live entries_eq heads_eq other_live
    exact coherent.heap.idxEntriesRemove_eq (entryUnpack_setLen head_eq entries_eq heads_eq)
      other_live live
  simp only [NMDedupMultiIndex.removeEntryInternal, entry_eq, head_eq]
  by_cases last : head.lstEntries.erase addr = []
  · have dies : ¬ 0 < head.len - 1 := fun positive => survives.mp positive last
    rw [if_neg dies, if_pos last, remove live_entry]
    · rw [remove live_head]
      · simp [setHead, NMDedupMultiIndex.setEntry, setIdxType]
      · rfl
      · rfl
      · exact fun node member => table_live node (mem_of_mem_filter member)
    · rfl
    · rfl
    · exact table_live
  · rw [if_pos (survives.mpr last), if_neg last, remove live_entry]
    · simp [setHead, NMDedupMultiIndex.setEntry, setIdxType, NMDedupMultiIndex.setLstEntries]
    · rfl
    · rfl
    · exact table_live

/-- `_remove_entry` keeps the index coherent. -/
theorem Coherent.removeEntryInternal (coherent : self.Coherent klass) (addr : Nat) :
    (self.removeEntryInternal klass addr).1.Coherent klass := by
  cases entry_eq : self.entries addr with
  | none => simpa [NMDedupMultiIndex.removeEntryInternal, entry_eq] using coherent
  | some entry =>
    obtain ⟨head, head_eq⟩ := coherent.heap.head_live entry_eq
    rw [coherent.removeEntryInternal_eq entry_eq head_eq]
    have entry_ne : ∀ other, (∃ old, update self.entries addr none other = some old) ↔
        other ≠ addr ∧ ∃ old, self.entries other = some old := by
      intro other
      by_cases removed : other = addr
      · simp [removed]
      · simp [removed]
    by_cases last : head.lstEntries.erase addr = []
    · rw [if_pos last]
      refine ⟨?_, (coherent.idxEntries_nodup.filter _).filter _, ?_, ?_, coherent.interned.pairwise⟩
      · refine coherent.heap.unlink entry_eq head_eq ?_ ?_ ?_ rfl
        · intro a
          simp [update_apply]
        · intro h
          simp [update_apply, last]
        · intro t
          by_cases type_eq : t = head.idxType
          · simp [type_eq, last]
          · simp [type_eq]
      · intro node
        simp only [mem_filter, coherent.mem_idxEntries, decide_eq_true_eq]
        cases node with
        | entry other => simp [Live, entry_ne, and_comm]
        | head other =>
          by_cases removed : other = entry.head
          · simp [Live, removed]
          · simp [Live, removed]
      · intro other old old_eq
        obtain ⟨-, kept⟩ := (entry_ne other).mp ⟨old, old_eq⟩
        have same : self.entries other = some old := by
          by_cases removed : other = addr
          · simp [removed] at old_eq
          · simpa [update_of_ne removed] using old_eq
        exact coherent.interned.stored same
    · rw [if_neg last]
      refine ⟨?_, coherent.idxEntries_nodup.filter _, ?_, ?_, coherent.interned.pairwise⟩
      · refine coherent.heap.unlink entry_eq head_eq ?_ ?_ ?_ rfl
        · intro a
          simp [update_apply]
        · intro h
          simp [update_apply, last]
        · intro t
          by_cases type_eq : t = head.idxType
          · simp [type_eq, last]
          · simp [type_eq]
      · intro node
        simp only [mem_filter, coherent.mem_idxEntries, decide_eq_true_eq]
        cases node with
        | entry other => simp [Live, entry_ne, and_comm]
        | head other =>
          by_cases removed : other = entry.head
          · simp [Live, removed, head_eq]
          · simp [Live, update_of_ne removed]
      · intro other old old_eq
        have same : self.entries other = some old := by
          by_cases removed : other = addr
          · simp [removed] at old_eq
          · simpa [update_of_ne removed] using old_eq
        exact coherent.interned.stored same

theorem moveForMode_perm {mode : NMDedupMultiIdxMode} (linked : addr ∈ lstEntries)
    (anchored : IntrusiveList.Anchored entryOrder lstEntries) :
    (moveForMode mode entryOrder addr lstEntries).1.Perm lstEntries := by
  cases mode with
  | prepend => exact Perm.refl _
  | append => exact Perm.refl _
  | prependForce =>
    cases entryOrder with
    | none => exact IntrusiveList.moveAfter_perm linked anchored
    | some order => exact IntrusiveList.moveBefore_perm linked anchored
  | appendForce =>
    cases entryOrder with
    | none => exact IntrusiveList.moveBefore_perm linked anchored
    | some order => exact IntrusiveList.moveAfter_perm linked anchored

theorem linkForMode_perm (mode : NMDedupMultiIdxMode) (addr : Nat)
    (anchored : IntrusiveList.Anchored entryOrder lstEntries) :
    (linkForMode mode entryOrder addr lstEntries).Perm (addr :: lstEntries) := by
  cases mode <;> cases entryOrder <;>
    first
      | exact IntrusiveList.linkBefore_perm addr anchored
      | exact IntrusiveList.linkAfter_perm addr anchored

theorem objIntern_congr (self other : NMDedupMultiIndex Obj T)
    (objs_eq : other.idxObjs = self.idxObjs) (objClass : NMDedupMultiObjClass Obj) (obj : Obj) :
    (other.objIntern objClass obj).2 = (self.objIntern objClass obj).2 ∧
      (other.objIntern objClass obj).1.idxObjs = (self.objIntern objClass obj).1.idxObjs := by
  unfold objIntern objFind
  rw [objs_eq]
  split
  · exact ⟨rfl, objs_eq⟩
  · split
    · exact ⟨rfl, objs_eq⟩
    · exact ⟨rfl, rfl⟩

/-- Whether `_add` keeps the stored object because the given one is fully equal. -/
def KeepsObj (objClass : NMDedupMultiObjClass Obj) (obj stored : Obj) : Prop :=
  obj = stored ∨ objClass.objFullEqual obj stored = true

instance (objClass : NMDedupMultiObjClass Obj) (obj stored : Obj) :
    Decidable (KeepsObj objClass obj stored) :=
  inferInstanceAs (Decidable (_ ∨ _))

/-- The index after the branch of `_add` for a tracked entry: the entry is clean, its list
reordered, and its object unchanged or replaced by an interned equal of the given one. -/
theorem addExisting_fst (self : NMDedupMultiIndex Obj T) (objClass : NMDedupMultiObjClass Obj)
    (obj : Obj) (mode : NMDedupMultiIdxMode) (entryOrder : Option Nat)
    (entry_eq : self.entries addr = some entry) (head_eq : self.heads entry.head = some head) :
    (self.addExisting objClass obj addr mode entryOrder).1 =
      { self with
        entries := Function.update self.entries addr (some {
          obj := if KeepsObj objClass obj entry.obj then entry.obj
            else (self.objIntern objClass obj).2
          dirty := false
          head := entry.head })
        heads := Function.update self.heads entry.head (some { head with
          lstEntries := (moveForMode mode entryOrder addr head.lstEntries).1 })
        idxObjs := if KeepsObj objClass obj entry.obj then self.idxObjs
          else (self.objIntern objClass obj).1.idxObjs } := by
  by_cases keeps : KeepsObj objClass obj entry.obj
  · have keeps' : obj = entry.obj ∨ objClass.objFullEqual obj entry.obj = true := keeps
    simp [addExisting, entrySetDirty, entry_eq, setEntry,
      setLstEntries, head_eq, setHead, keeps, keeps']
  · have keeps' : ¬ (obj = entry.obj ∨ objClass.objFullEqual obj entry.obj = true) := keeps
    simp only [addExisting, entrySetDirty, entry_eq, setEntry, setLstEntries, head_eq, setHead,
      keeps, keeps', update_self, map_some, getD_some, if_false]
    set moved : NMDedupMultiIndex Obj T :=
      { self with
        entries := update self.entries addr (some { entry with dirty := false })
        heads := update self.heads entry.head (some { head with
          lstEntries := (moveForMode mode entryOrder addr head.lstEntries).1 }) } with moved_eq
    obtain ⟨obj_eq, objs_eq⟩ := objIntern_congr self moved rfl objClass obj
    rw [objIntern_fst moved, obj_eq, objs_eq]
    simp [moved_eq]

/-- An `entry_order` argument is absent or tracked in the partition of the object. -/
def OrderValid (klass : T → NMDedupMultiIdxTypeClass objClass) (self : NMDedupMultiIndex Obj T)
    (idxType : T) (obj : Obj) (entryOrder : Option Nat) : Prop :=
  ∀ order ∈ entryOrder, ∃ head stored, self.Tracks order idxType head stored ∧
    (klass idxType).partitionEqual (some obj) (some stored) = true

theorem OrderValid.anchored (valid : self.OrderValid klass idxType obj entryOrder)
    (coherent : self.HeapCoherent klass) (head_eq : self.heads addr = some head)
    (partition : ∀ {b h stored}, self.Tracks b idxType h stored →
      (klass idxType).partitionEqual (some obj) (some stored) = true → h = addr) :
    IntrusiveList.Anchored entryOrder head.lstEntries := by
  intro order order_eq
  obtain ⟨h, stored, tracks, shared⟩ := valid order order_eq
  obtain rfl := partition tracks shared
  obtain ⟨dirty, entry_eq⟩ := tracks.entry
  exact (coherent.mem_lstEntries head_eq).mpr ⟨_, entry_eq, rfl⟩

/-- The object of an entry after a tracked key was added again is interned and fully equal to the
given one. -/
theorem Interned.keeps_or_intern (interned : self.Interned objClass) (obj stored : Obj) :
    objClass.objFullEqual obj (if KeepsObj objClass obj stored then stored
      else (self.objIntern objClass obj).2) = true := by
  split
  · rename_i keeps
    rcases keeps with rfl | equal
    · exact objClass.fullEqual_refl _
    · exact equal
  · exact (interned.objIntern obj).2.2

/-- Adding an object whose key is tracked keeps the index coherent. -/
theorem Coherent.addExisting (coherent : self.Coherent klass) {addr headAddr : Nat} {stored : Obj}
    (tracks : self.Tracks addr idxType headAddr stored)
    (shared : (klass idxType).partitionEqual (some obj) (some stored) = true)
    (equal : (klass idxType).idEqual obj stored = true) (mode : NMDedupMultiIdxMode)
    (order_valid : self.OrderValid klass idxType obj entryOrder) :
    (self.addExisting objClass obj addr mode entryOrder).1.Coherent klass := by
  obtain ⟨dirty, entry_eq⟩ := tracks.entry
  obtain ⟨lst, len, head_eq⟩ := tracks.head
  have anchored := order_valid.anchored coherent.heap head_eq fun other_tracks other_shared =>
    (coherent.heap.same_head other_tracks tracks).mp ((klass idxType).partitionEqual_trans
      ((klass idxType).partitionEqual_symm other_shared) shared)
  have linked : addr ∈ lst := (coherent.heap.mem_lstEntries head_eq).mpr ⟨_, entry_eq, rfl⟩
  have storable : (klass idxType).partitionable obj = true :=
    (klass idxType).partitionable_of_key ((klass idxType).partitionEqual_symm shared)
      ((klass idxType).idEqual_symm equal) (coherent.heap.storable tracks)
  rw [self.addExisting_fst objClass obj mode entryOrder entry_eq head_eq]
  have full_equal := coherent.interned.keeps_or_intern obj stored
  obtain ⟨new_shared, new_equal⟩ := (klass idxType).key_of_fullEqual storable full_equal
  -- First the list is reordered, then the interned objects grow, then the entry is rewritten.
  have moved_coherent := coherent.setLstEntries headAddr
    (moveForMode mode entryOrder addr lst).1 fun head other_eq => by
      cases head_eq.symm.trans other_eq
      exact moveForMode_perm linked anchored
  simp only [NMDedupMultiIndex.setLstEntries, head_eq, setHead] at moved_coherent
  have objs_coherent := moved_coherent.setIdxObjs
    (if KeepsObj objClass obj stored then self.idxObjs
      else (self.objIntern objClass obj).1.idxObjs) (by
        split
        · exact moved_coherent.interned
        · have interned := (coherent.interned.objIntern obj).1
          rw [objIntern_fst] at interned
          exact ⟨interned.stored, interned.pairwise⟩)
  refine objs_coherent.setEntry addr entry_eq ?_ ⟨rfl, ?_⟩
  · change (if KeepsObj objClass obj stored then stored else (self.objIntern objClass obj).2) ∈
      if KeepsObj objClass obj stored then self.idxObjs
      else (self.objIntern objClass obj).1.idxObjs
    split
    · exact coherent.interned.stored entry_eq
    · exact (coherent.interned.objIntern obj).2.1
  · rintro type head ⟨⟨_, old_entry⟩, ⟨_, _, old_head⟩⟩
    cases entry_eq.symm.trans old_entry
    simp only [update_self, Option.some.injEq, NMDedupMultiHeadEntry.mk.injEq] at old_head
    obtain ⟨rfl, -⟩ := old_head
    exact ⟨(klass _).partitionEqual_trans ((klass _).partitionEqual_symm shared) new_shared,
      (klass _).idEqual_trans ((klass _).idEqual_symm equal) new_equal⟩

section

variable (klass : T → NMDedupMultiIdxTypeClass objClass) (self : NMDedupMultiIndex Obj T)

/-- A `head_existing` argument is absent or the result of looking up the head. -/
def HeadValid (idxType : T) (obj : Obj) : Existing → Prop
  | .null => True
  | .missing => self.lookupHead klass idxType (some obj) = none
  | .addr addr => self.lookupHead klass idxType (some obj) = some addr

/-- An `entry_existing` argument is absent or the result of looking up the object. -/
def EntryValid (idxType : T) (obj : Obj) : Existing → Prop
  | .null => True
  | .missing => self.lookupObj klass idxType obj = none
  | .addr addr => self.lookupObj klass idxType obj = some addr

end

theorem lookupHead_eq_none_of (coherent : self.Coherent klass)
    (missing : self.lookupHead klass idxType (some obj) = none) {addr head : Nat} {stored : Obj}
    (tracks : self.Tracks addr idxType head stored) :
    (klass idxType).partitionEqual (some obj) (some stored) = false := by
  refine Bool.eq_false_iff.mpr fun shared => ?_
  have found := coherent.lookupHead_eq_some.mpr ⟨addr, stored, tracks, shared⟩
  simp [missing] at found

/-- The head found for a new entry: a live head of the object's partition, or a new one for a
partition without entries. -/
theorem Coherent.headForNew_cases (coherent : self.Coherent klass) {obj objNew : Obj}
    {headExisting : Existing}
    (shared : (klass idxType).partitionEqual (some obj) (some objNew) = true)
    (valid : self.HeadValid klass idxType obj headExisting) :
    (∃ addr, self.lookupHead klass idxType (some obj) = some addr ∧
      self.headForNew klass idxType objNew headExisting = (self, addr, false)) ∨
    (self.lookupHead klass idxType (some obj) = none ∧
      self.headForNew klass idxType objNew headExisting =
        ({ self with
            nextAddr := self.nextAddr + 1
            heads := Function.update self.heads self.nextAddr
              (some { idxType, lstEntries := [], len := 0 })
            idxTypes := Function.update self.idxTypes idxType
              { self.idxTypes idxType with
                lstIdx := (self.idxTypes idxType).lstIdx ++ [self.nextAddr] } },
          self.nextAddr, true)) := by
  have lookup_eq : self.lookupHead klass idxType (some objNew) =
      self.lookupHead klass idxType (some obj) := by
    refine ext fun addr => ?_
    have same : ∀ stored, (klass idxType).partitionEqual (some objNew) (some stored) = true ↔
        (klass idxType).partitionEqual (some obj) (some stored) = true := fun stored =>
      ⟨(klass idxType).partitionEqual_trans shared,
        (klass idxType).partitionEqual_trans ((klass idxType).partitionEqual_symm shared)⟩
    simp only [coherent.lookupHead_eq_some, same]
  cases headExisting with
  | null =>
    cases found : self.lookupHead klass idxType (some obj) with
    | some addr =>
      refine Or.inl ⟨addr, rfl, ?_⟩
      simp [headForNew, lookup_eq, found]
    | none =>
      refine Or.inr ⟨rfl, ?_⟩
      simp [headForNew, lookup_eq, found, setHead, setIdxType, IntrusiveList.linkBefore]
  | missing =>
    refine Or.inr ⟨valid, ?_⟩
    simp [headForNew, setHead, setIdxType, IntrusiveList.linkBefore]
  | addr addr => exact Or.inl ⟨addr, valid, by simp [headForNew]⟩

/-- The index after the branch of `_add` for a new object in a partition that has a head. -/
def linkedToHead (self : NMDedupMultiIndex Obj T) (idxType : T) (objNew : Obj)
    (idxObjs : List Obj) (headAddr : Nat) (head : NMDedupMultiHeadEntry T)
    (lstEntries : List Nat) : NMDedupMultiIndex Obj T :=
  { entries := Function.update self.entries self.nextAddr
      (some { obj := objNew, dirty := false, head := headAddr })
    heads := Function.update self.heads headAddr (some { head with
      lstEntries, len := head.len + 1 })
    idxTypes := Function.update self.idxTypes idxType
      { self.idxTypes idxType with len := (self.idxTypes idxType).len + 1 }
    idxEntries := self.idxEntries ++ [.entry self.nextAddr]
    idxObjs := idxObjs
    nextAddr := self.nextAddr + 1 }

/-- The index after the branch of `_add` for a new object in a new partition. -/
def linkedToNewHead (self : NMDedupMultiIndex Obj T) (idxType : T) (objNew : Obj)
    (idxObjs : List Obj) : NMDedupMultiIndex Obj T :=
  { entries := Function.update self.entries (self.nextAddr + 1)
      (some { obj := objNew, dirty := false, head := self.nextAddr })
    heads := Function.update self.heads self.nextAddr
      (some { idxType, lstEntries := [self.nextAddr + 1], len := 1 })
    idxTypes := Function.update self.idxTypes idxType
      { lstIdx := (self.idxTypes idxType).lstIdx ++ [self.nextAddr]
        len := (self.idxTypes idxType).len + 1 }
    idxEntries := self.idxEntries ++ [.head self.nextAddr, .entry (self.nextAddr + 1)]
    idxObjs := idxObjs
    nextAddr := self.nextAddr + 2 }

theorem HeapCoherent.setIdxEntries (coherent : self.HeapCoherent klass) (idxEntries : List IdxEntry) :
    ({ self with idxEntries } : NMDedupMultiIndex Obj T).HeapCoherent klass :=
  coherent.agrees ⟨fun _ => rel_refl (EntryAgrees.refl _) _, fun _ => rel_refl HeadAgrees.refl _,
    fun _ => rfl, rfl⟩

/-- An object that may be linked as a new entry: it is an interned equal of a trackable object
whose key is not tracked. -/
structure Linkable (klass : T → NMDedupMultiIdxTypeClass objClass)
    (index : NMDedupMultiIndex Obj T) (idxType : T) (obj objNew : Obj) (idxObjs : List Obj) :
    Prop where
  missing : index.lookupObj klass idxType obj = none
  storable : (klass idxType).partitionable obj = true
  full_equal : objClass.objFullEqual obj objNew = true
  stored : objNew ∈ idxObjs
  interned : ({ index with idxObjs } : NMDedupMultiIndex Obj T).Interned objClass

theorem Linkable.new_storable {obj objNew : Obj}
    (linkable : self.Linkable klass idxType obj objNew idxObjs) :
    (klass idxType).partitionable objNew = true := by
  obtain ⟨shared, equal⟩ :=
    (klass idxType).key_of_fullEqual linkable.storable linkable.full_equal
  exact (klass idxType).partitionable_of_key shared equal linkable.storable

theorem Linkable.absent (coherent : self.Coherent klass) {obj objNew : Obj}
    (linkable : self.Linkable klass idxType obj objNew idxObjs) {addr head : Nat} {stored : Obj}
    (tracks : self.Tracks addr idxType head stored)
    (shared : (klass idxType).partitionEqual (some objNew) (some stored) = true) :
    (klass idxType).idEqual objNew stored = false := by
  obtain ⟨new_shared, new_equal⟩ :=
    (klass idxType).key_of_fullEqual linkable.storable linkable.full_equal
  refine Bool.eq_false_iff.mpr fun equal => ?_
  have found := coherent.lookupObj_eq_some.mpr ⟨head, stored, tracks,
    (klass idxType).partitionEqual_trans new_shared shared,
    (klass idxType).idEqual_trans new_equal equal⟩
  simp [linkable.missing] at found

private theorem not_live_next (coherent : self.HeapCoherent klass) (fresh : self.nextAddr ≤ addr) :
    self.entries addr = none ∧ self.heads addr = none := by
  constructor
  · refine eq_none_iff_forall_ne_some.mpr fun entry entry_eq => ?_
    exact absurd (coherent.entry_lt entry_eq) (Nat.not_lt.mpr fresh)
  · refine eq_none_iff_forall_ne_some.mpr fun head head_eq => ?_
    exact absurd (coherent.head_lt head_eq) (Nat.not_lt.mpr fresh)

theorem Coherent.linkedToHead_heap (coherent : self.Coherent klass) {obj objNew : Obj}
    (linkable : self.Linkable klass idxType obj objNew idxObjs) {headAddr : Nat}
    (found : self.lookupHead klass idxType (some obj) = some headAddr)
    (head_eq : self.heads headAddr = some head)
    (perm : lstEntries.Perm (self.nextAddr :: head.lstEntries)) :
    (self.linkedToHead idxType objNew idxObjs headAddr head lstEntries).HeapCoherent klass := by
  obtain ⟨first, firstObj, first_tracks, first_shared⟩ := coherent.lookupHead_eq_some.mp found
  obtain ⟨new_shared, -⟩ :=
    (klass idxType).key_of_fullEqual linkable.storable linkable.full_equal
  obtain ⟨fresh, -⟩ := not_live_next coherent.heap (Nat.le_refl self.nextAddr)
  have type_eq : head.idxType = idxType := by
    obtain ⟨_, _, tracked_head⟩ := first_tracks.head
    cases head_eq.symm.trans tracked_head
    rfl
  have partition : ∀ {b h stored}, self.Tracks b idxType h stored →
      ((klass idxType).partitionEqual (some objNew) (some stored) = true ↔ h = headAddr) := by
    intro b h stored tracks
    rw [← coherent.heap.same_head tracks first_tracks]
    constructor
    · intro shared
      exact (klass idxType).partitionEqual_trans ((klass idxType).partitionEqual_symm
        ((klass idxType).partitionEqual_trans new_shared shared)) first_shared
    · intro shared
      exact (klass idxType).partitionEqual_trans ((klass idxType).partitionEqual_symm new_shared)
        ((klass idxType).partitionEqual_trans first_shared
          ((klass idxType).partitionEqual_symm shared))
  have lstIdx_eq : ∀ t, ((self.linkedToHead idxType objNew idxObjs headAddr head
      lstEntries).idxTypes t).lstIdx = (self.idxTypes t).lstIdx := by
    intro t
    by_cases same : t = idxType
    · simp [linkedToHead, same]
    · simp [linkedToHead, same]
  refine coherent.heap.link self.nextAddr headAddr idxType objNew false head.lstEntries lstEntries
    ?_ ?_ ?_ perm fresh ?_ ?_ (Nat.le_succ _) (Nat.lt_succ_self _) ?_ partition ?_
    linkable.new_storable
  · intro a
    simp [linkedToHead, update_apply]
  · intro h
    simp [linkedToHead, update_apply, type_eq, coherent.heap.len_eq head_eq]
  · left
    rw [head_eq, ← type_eq, ← coherent.heap.len_eq head_eq]
  · intro t
    rw [lstIdx_eq]
    exact coherent.heap.lstIdx_nodup t
  · intro t h
    rw [lstIdx_eq]
    constructor
    · exact Or.inl
    · rintro (linked | ⟨rfl, rfl⟩)
      · exact linked
      · exact coherent.heap.mem_lstIdx.mpr ⟨head, head_eq, type_eq⟩
  · exact Nat.lt_succ_of_lt (coherent.heap.head_lt head_eq)
  · intro b stored tracks
    exact linkable.absent coherent tracks ((partition tracks).mpr rfl)

theorem Coherent.linkedToNewHead_heap (coherent : self.Coherent klass) {obj objNew : Obj}
    (linkable : self.Linkable klass idxType obj objNew idxObjs)
    (unfound : self.lookupHead klass idxType (some obj) = none) :
    (self.linkedToNewHead idxType objNew idxObjs).HeapCoherent klass := by
  obtain ⟨new_shared, -⟩ :=
    (klass idxType).key_of_fullEqual linkable.storable linkable.full_equal
  obtain ⟨fresh, -⟩ := not_live_next coherent.heap (Nat.le_succ self.nextAddr)
  obtain ⟨-, no_head⟩ := not_live_next coherent.heap (Nat.le_refl self.nextAddr)
  have lstIdx_eq : ∀ t, ((self.linkedToNewHead idxType objNew idxObjs).idxTypes t).lstIdx =
      if t = idxType then (self.idxTypes t).lstIdx ++ [self.nextAddr]
      else (self.idxTypes t).lstIdx := by
    intro t
    by_cases same : t = idxType
    · simp [linkedToNewHead, same]
    · simp [linkedToNewHead, same]
  have no_tracks : ∀ {b t stored}, ¬ self.Tracks b t self.nextAddr stored := by
    intro b t stored tracks
    obtain ⟨_, _, head_eq⟩ := tracks.head
    simp [no_head] at head_eq
  have not_linked : ∀ t, self.nextAddr ∉ (self.idxTypes t).lstIdx := by
    intro t linked
    obtain ⟨head, head_eq, -⟩ := coherent.heap.mem_lstIdx.mp linked
    simp [no_head] at head_eq
  refine coherent.heap.link (self.nextAddr + 1) self.nextAddr idxType objNew false []
    [self.nextAddr + 1] ?_ ?_ (Or.inr ⟨no_head, rfl⟩) (Perm.refl _) fresh ?_ ?_
    ?_ ?_ ?_ ?_ (fun tracks => absurd tracks no_tracks) linkable.new_storable
  · intro a
    simp [linkedToNewHead, update_apply]
  · intro h
    simp [linkedToNewHead, update_apply]
  · intro t
    rw [lstIdx_eq]
    split
    · refine nodup_append.mpr ⟨coherent.heap.lstIdx_nodup t, by simp, ?_⟩
      rintro a a_mem b b_mem rfl
      rw [mem_singleton.mp b_mem] at a_mem
      exact not_linked t a_mem
    · exact coherent.heap.lstIdx_nodup t
  · intro t h
    rw [lstIdx_eq]
    split
    · rename_i same
      simp [same]
    · rename_i differs
      simp [differs]
  · simp [linkedToNewHead]
  · simp [linkedToNewHead]
  · simp [linkedToNewHead]
  · intro b h stored tracks
    constructor
    · intro shared
      have no_shared := lookupHead_eq_none_of coherent unfound tracks
      rw [(klass idxType).partitionEqual_trans new_shared shared] at no_shared
      exact absurd no_shared (by simp)
    · rintro rfl
      exact absurd tracks no_tracks

private theorem interned_of_update {other : NMDedupMultiIndex Obj T}
    (interned : ({ self with idxObjs } : NMDedupMultiIndex Obj T).Interned objClass)
    (entries_eq : other.entries = Function.update self.entries addr (some entry))
    (objs_eq : other.idxObjs = idxObjs) (stored : entry.obj ∈ idxObjs) :
    other.Interned objClass := by
  refine ⟨?_, objs_eq ▸ interned.pairwise⟩
  intro a old old_eq
  rw [entries_eq, update_apply] at old_eq
  rw [objs_eq]
  split at old_eq
  · cases old_eq
    exact stored
  · exact interned.stored old_eq

section

variable (coherent : self.Coherent klass)

include coherent

theorem Coherent.linkedToHead {obj objNew : Obj}
    (linkable : self.Linkable klass idxType obj objNew idxObjs) {headAddr : Nat}
    (found : self.lookupHead klass idxType (some obj) = some headAddr)
    (head_eq : self.heads headAddr = some head)
    (perm : lstEntries.Perm (self.nextAddr :: head.lstEntries)) :
    (self.linkedToHead idxType objNew idxObjs headAddr head lstEntries).Coherent klass := by
  obtain ⟨fresh, -⟩ := not_live_next coherent.heap (Nat.le_refl self.nextAddr)
  have not_listed : IdxEntry.entry self.nextAddr ∉ self.idxEntries := by
    simp [coherent.mem_idxEntries, Live, fresh]
  refine ⟨coherent.linkedToHead_heap linkable found head_eq perm, ?_, ?_,
    interned_of_update linkable.interned rfl rfl linkable.stored⟩
  · refine nodup_append.mpr ⟨coherent.idxEntries_nodup, by simp, ?_⟩
    rintro a a_mem b b_mem rfl
    rw [mem_singleton.mp b_mem] at a_mem
    exact not_listed a_mem
  · intro node
    simp only [NMDedupMultiIndex.linkedToHead, mem_append, mem_singleton, coherent.mem_idxEntries]
    cases node with
    | entry addr =>
      by_cases new : addr = self.nextAddr
      · simp [Live, new]
      · simp [Live, new]
    | head addr =>
      by_cases same : addr = headAddr
      · simp [Live, same, head_eq]
      · simp [Live, same]

theorem Coherent.linkedToNewHead {obj objNew : Obj}
    (linkable : self.Linkable klass idxType obj objNew idxObjs)
    (unfound : self.lookupHead klass idxType (some obj) = none) :
    (self.linkedToNewHead idxType objNew idxObjs).Coherent klass := by
  obtain ⟨fresh, -⟩ := not_live_next coherent.heap (Nat.le_succ self.nextAddr)
  obtain ⟨-, no_head⟩ := not_live_next coherent.heap (Nat.le_refl self.nextAddr)
  have head_not_listed : IdxEntry.head self.nextAddr ∉ self.idxEntries := by
    simp [coherent.mem_idxEntries, Live, no_head]
  have entry_not_listed : IdxEntry.entry (self.nextAddr + 1) ∉ self.idxEntries := by
    simp [coherent.mem_idxEntries, Live, fresh]
  refine ⟨coherent.linkedToNewHead_heap linkable unfound, ?_, ?_,
    interned_of_update linkable.interned rfl rfl linkable.stored⟩
  · refine nodup_append.mpr ⟨coherent.idxEntries_nodup, by simp, ?_⟩
    rintro a a_mem b b_mem rfl
    rcases mem_pair.mp b_mem with rfl | rfl
    · exact head_not_listed a_mem
    · exact entry_not_listed a_mem
  · intro node
    simp only [NMDedupMultiIndex.linkedToNewHead, mem_append, mem_pair, coherent.mem_idxEntries]
    cases node with
    | entry addr =>
      by_cases new : addr = self.nextAddr + 1
      · simp [Live, new]
      · simp [Live, new]
    | head addr =>
      by_cases same : addr = self.nextAddr
      · simp [Live, same]
      · simp [Live, same]

theorem Coherent.linkable (missing : self.lookupObj klass idxType obj = none)
    (storable : (klass idxType).partitionable obj = true) :
    self.Linkable klass idxType obj (self.objIntern objClass obj).2
      (self.objIntern objClass obj).1.idxObjs := by
  obtain ⟨interned, stored, full_equal⟩ := coherent.interned.objIntern obj
  rw [objIntern_fst] at interned
  exact ⟨missing, storable, full_equal, stored, interned⟩

/-- The index after the branch of `_add` for a trackable object that is not tracked yet: the
interned object is linked into the head of its partition, which is created when missing. -/
theorem Coherent.addNew_cases (missing : self.lookupObj klass idxType obj = none)
    (storable : (klass idxType).partitionable obj = true) (mode : NMDedupMultiIdxMode)
    (order_valid : self.OrderValid klass idxType obj entryOrder) {headExisting : Existing}
    (head_valid : self.HeadValid klass idxType obj headExisting) :
    (∃ headAddr head, self.lookupHead klass idxType (some obj) = some headAddr ∧
      self.heads headAddr = some head ∧
      IntrusiveList.Anchored entryOrder head.lstEntries ∧
      self.addNew klass idxType obj mode entryOrder headExisting =
        (self.linkedToHead idxType (self.objIntern objClass obj).2
          (self.objIntern objClass obj).1.idxObjs headAddr head
          (linkForMode mode entryOrder self.nextAddr head.lstEntries),
        { changed := true, outEntry := some self.nextAddr, outObjOld := none })) ∨
    (self.lookupHead klass idxType (some obj) = none ∧
      self.addNew klass idxType obj mode entryOrder headExisting =
        (self.linkedToNewHead idxType (self.objIntern objClass obj).2
          (self.objIntern objClass obj).1.idxObjs,
        { changed := true, outEntry := some (self.nextAddr + 1), outObjOld := none })) := by
  have linkable := coherent.linkable missing storable
  obtain ⟨new_shared, -⟩ := (klass idxType).key_of_fullEqual storable linkable.full_equal
  have intern_coherent := coherent.objIntern obj
  have lookup_same : (self.objIntern objClass obj).1.lookupHead klass idxType (some obj) =
      self.lookupHead klass idxType (some obj) := by
    rw [objIntern_fst]
    rfl
  have intern_valid : (self.objIntern objClass obj).1.HeadValid klass idxType obj headExisting := by
    cases headExisting with
    | null => trivial
    | missing => exact lookup_same.trans head_valid
    | addr addr => exact lookup_same.trans head_valid
  have table_live : ∀ node ∈ self.idxEntries, self.Live node :=
    fun node member => coherent.mem_idxEntries.mp member
  rcases intern_coherent.headForNew_cases new_shared intern_valid with
    ⟨headAddr, found, head_for⟩ | ⟨unfound, head_for⟩
  · rw [lookup_same] at found
    left
    obtain ⟨first, firstObj, first_tracks, first_shared⟩ := coherent.lookupHead_eq_some.mp found
    obtain ⟨lst, len, head_eq⟩ := first_tracks.head
    have anchored := order_valid.anchored coherent.heap head_eq fun tracks shared =>
      (coherent.heap.same_head tracks first_tracks).mp ((klass idxType).partitionEqual_trans
        ((klass idxType).partitionEqual_symm shared) first_shared)
    refine ⟨headAddr, _, found, head_eq, anchored, ?_⟩
    have perm := linkForMode_perm mode self.nextAddr anchored
    have heap := (coherent.linkedToHead_heap linkable found head_eq perm).setIdxEntries
      self.idxEntries
    have table : ∀ node ∈ self.idxEntries, Live _ node := fun node member =>
      (coherent.linkedToHead linkable found head_eq perm).mem_idxEntries.mp
        (mem_append_left _ member)
    obtain ⟨fresh, -⟩ := not_live_next coherent.heap (Nat.le_refl self.nextAddr)
    have added := heap.idxEntriesAdd_eq (.entry self.nextAddr) (by
        intro node member
        cases node with
        | entry a => exact table _ member
        | head a => exact table _ member)
      ⟨_, update_self _ _ _⟩ (by simp [coherent.mem_idxEntries, Live, fresh])
    rw [objIntern_fst] at head_for
    simp only [addNew, storable, Bool.true_eq_false, if_false]
    rw [objIntern_fst, head_for]
    simpa [linkNew, NMDedupMultiIndex.setEntry, setIdxType, setHead, head_eq,
      NMDedupMultiIndex.linkedToHead] using added
  · rw [lookup_same] at unfound
    right
    refine ⟨unfound, ?_⟩
    have no_order : entryOrder = none := by
      refine eq_none_iff_forall_ne_some.mpr fun order order_eq => ?_
      obtain ⟨_, _, tracks, shared⟩ := order_valid order order_eq
      rw [lookupHead_eq_none_of coherent unfound tracks] at shared
      exact absurd shared (by simp)
    subst no_order
    have link_eq : linkForMode mode none (self.nextAddr + 1) [] = [self.nextAddr + 1] := by
      cases mode <;> rfl
    obtain ⟨fresh, -⟩ := not_live_next coherent.heap (Nat.le_succ self.nextAddr)
    obtain ⟨-, no_head⟩ := not_live_next coherent.heap (Nat.le_refl self.nextAddr)
    have final := coherent.linkedToNewHead linkable unfound
    have heap := coherent.linkedToNewHead_heap linkable unfound
    have added_head := (heap.setIdxEntries self.idxEntries).idxEntriesAdd_eq
      (.head self.nextAddr) (by
        intro node member
        have live := final.mem_idxEntries.mp (mem_append_left _ member)
        cases node with
        | entry a => exact live
        | head a => exact live)
      ⟨_, update_self _ _ _⟩ (by simp [coherent.mem_idxEntries, Live, no_head])
    have added_entry := (heap.setIdxEntries
      (self.idxEntries ++ [.head self.nextAddr])).idxEntriesAdd_eq
      (.entry (self.nextAddr + 1)) (by
        intro node member
        have listed : node ∈ self.idxEntries ++ [.head self.nextAddr, .entry (self.nextAddr + 1)] :=
          (append_subset.mpr ⟨subset_append_left _ _, by simp⟩) member
        have live := final.mem_idxEntries.mp listed
        cases node with
        | entry a => exact live
        | head a => exact live)
      ⟨_, update_self _ _ _⟩ (by simp [coherent.mem_idxEntries, Live, fresh])
    rw [objIntern_fst] at head_for
    simp only [addNew, storable, Bool.true_eq_false, if_false]
    rw [objIntern_fst, head_for]
    simp only [linkNew, NMDedupMultiIndex.setEntry, setIdxType, setHead, update_self,
      update_idem, link_eq, Nat.zero_add, if_true]
    simp only [NMDedupMultiIndex.linkedToNewHead] at added_head added_entry
    rw [added_head, added_entry]
    simp [NMDedupMultiIndex.linkedToNewHead]

end

end NMDedupMultiIndex

end NetworkManager
