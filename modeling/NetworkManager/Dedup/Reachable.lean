import NetworkManager.Dedup.Preservation

/-!
# Reachable states of the multi-index

Every operation of the index is an input of a guarded machine.  The guard is what the interface
asks of its callers: entries and heads passed by address are tracked, `entry_order` lies in the
partition of the object, and `entry_existing` and `head_existing` are results of a lookup.
-/

set_option linter.unusedSectionVars false

namespace NetworkManager

/-- The operations of an index. -/
inductive DedupOp (Obj T : Type*) where
  | add (idxType : T) (obj : Obj) (mode : NMDedupMultiIdxMode)
  | addFull (idxType : T) (obj : Obj) (mode : NMDedupMultiIdxMode) (entryOrder : Option Nat)
      (entryExisting headExisting : Existing)
  | removeEntry (node : IdxEntry)
  | removeObj (idxType : T) (obj : Obj)
  | removeHead (idxType : T) (obj : Option Obj)
  | removeIdx (idxType : T)
  | dirtySetHead (idxType : T) (obj : Option Obj)
  | dirtySetIdx (idxType : T)
  | dirtyRemoveIdx (idxType : T) (markSurvivorsDirty : Bool)
  | entrySetDirty (addr : Nat) (dirty : Bool)
  | entryReorder (addr : Nat) (entryOrder : Option Nat) (orderAfter : Bool)
  | objIntern (obj : Obj)
  | objRelease (obj : Obj)

namespace NMDedupMultiIndex

variable {Obj T : Type*} [DecidableEq Obj] [DecidableEq T] {objClass : NMDedupMultiObjClass Obj}

section

variable (klass : T → NMDedupMultiIdxTypeClass objClass)

def perform (self : NMDedupMultiIndex Obj T) : DedupOp Obj T → NMDedupMultiIndex Obj T
  | .add idxType obj mode => (self.add klass idxType obj mode).1
  | .addFull idxType obj mode entryOrder entryExisting headExisting =>
    (self.addFull klass idxType obj mode entryOrder entryExisting headExisting).1
  | .removeEntry node => (self.removeEntry klass node).1
  | .removeObj idxType obj => (self.removeObj klass idxType obj).1
  | .removeHead idxType obj => (self.removeHead klass idxType obj).1
  | .removeIdx idxType => (self.removeIdx klass idxType).1
  | .dirtySetHead idxType obj => self.dirtySetHead klass idxType obj
  | .dirtySetIdx idxType => self.dirtySetIdx idxType
  | .dirtyRemoveIdx idxType markSurvivorsDirty =>
    (self.dirtyRemoveIdx klass idxType markSurvivorsDirty).1
  | .entrySetDirty addr dirty => self.entrySetDirty addr dirty
  | .entryReorder addr entryOrder orderAfter => (self.entryReorder addr entryOrder orderAfter).1
  | .objIntern obj => (self.objIntern objClass obj).1
  | .objRelease obj => self.objRelease obj

/-- What the interface asks of the caller of an operation. -/
def Callable (self : NMDedupMultiIndex Obj T) : DedupOp Obj T → Prop
  | .addFull idxType obj _ entryOrder entryExisting headExisting =>
    self.OrderValid klass idxType obj entryOrder ∧ self.EntryValid klass idxType obj entryExisting ∧
      self.HeadValid klass idxType obj headExisting
  | .removeEntry node => self.Live node
  | .entrySetDirty addr _ => self.Live (.entry addr)
  | .entryReorder addr entryOrder _ => ∃ entry head, self.entries addr = some entry ∧
      self.heads entry.head = some head ∧ IntrusiveList.Anchored entryOrder head.lstEntries
  | .objRelease obj => ∀ addr entry, self.entries addr = some entry → entry.obj ≠ obj
  | _ => True

def machine : GuardedMachine (NMDedupMultiIndex Obj T) (DedupOp Obj T) where
  step := perform klass
  guard := Callable klass

end

theorem coherent_new (klass : T → NMDedupMultiIdxTypeClass objClass) :
    (new : NMDedupMultiIndex Obj T).Coherent klass := by
  have no_tracks : ∀ {addr : Nat} {idxType : T} {head : Nat} {obj : Obj},
      ¬ (new : NMDedupMultiIndex Obj T).Tracks addr idxType head obj := by
    intro addr idxType head obj tracks
    obtain ⟨_, entry_eq⟩ := tracks.entry
    simp [new] at entry_eq
  refine ⟨⟨?_, ?_, ?_, ?_, ?_, ?_, ?_, ?_, ?_, ?_, ?_, ?_⟩, ?_, ?_, ?_, ?_⟩
  · simp [new]
  · simp [new]
  · simp [new]
  · simp [new]
  · simp [new]
  · simp [new]
  · simp [new]
  · simp [new]
  · simp [new]
  · intro _ _ _ _ _ _ _ tracks
    exact absurd tracks no_tracks
  · intro _ _ _ _ _ _ tracks
    exact absurd tracks no_tracks
  · intro _ _ _ _ tracks
    exact absurd tracks no_tracks
  · simp [new]
  · intro node
    cases node <;> simp [new, Live]
  · simp [new]
  · simp [new]

variable {klass : T → NMDedupMultiIdxTypeClass objClass} {self : NMDedupMultiIndex Obj T}
  {entryOrder : Option Nat}

/-- `_add` keeps the index coherent. -/
theorem Coherent.addInternal (coherent : self.Coherent klass) {idxType : T} {obj : Obj}
    (mode : NMDedupMultiIdxMode) (order_valid : self.OrderValid klass idxType obj entryOrder)
    {headExisting : Existing} (head_valid : self.HeadValid klass idxType obj headExisting) :
    (self.addInternal klass idxType obj (self.lookupObj klass idxType obj) mode entryOrder
      headExisting).1.Coherent klass := by
  cases found : self.lookupObj klass idxType obj with
  | some addr =>
    obtain ⟨head, stored, tracks, shared, equal⟩ := coherent.lookupObj_eq_some.mp found
    exact coherent.addExisting tracks shared equal mode order_valid
  | none =>
    by_cases storable : (klass idxType).partitionable obj = true
    · have linkable := coherent.linkable found storable
      simp only [NMDedupMultiIndex.addInternal]
      rcases coherent.addNew_cases found storable mode order_valid head_valid with
        ⟨headAddr, head, head_found, head_eq, anchored, add_eq⟩ | ⟨unfound, add_eq⟩
      · rw [add_eq]
        exact coherent.linkedToHead linkable head_found head_eq
          (linkForMode_perm mode self.nextAddr anchored)
      · rw [add_eq]
        exact coherent.linkedToNewHead linkable unfound
    · have not_storable : (klass idxType).partitionable obj = false :=
        Bool.eq_false_iff.mpr storable
      simpa [NMDedupMultiIndex.addInternal, addNew, not_storable] using coherent

theorem orderValid_none (klass : T → NMDedupMultiIdxTypeClass objClass)
    (self : NMDedupMultiIndex Obj T) (idxType : T) (obj : Obj) :
    self.OrderValid klass idxType obj none := by
  intro order order_eq
  simp at order_eq

theorem addFull_eq_addInternal {idxType : T} {obj : Obj} (mode : NMDedupMultiIdxMode)
    (entryOrder : Option Nat) {entryExisting : Existing} (headExisting : Existing)
    (entry_valid : self.EntryValid klass idxType obj entryExisting) :
    self.addFull klass idxType obj mode entryOrder entryExisting headExisting =
      self.addInternal klass idxType obj (self.lookupObj klass idxType obj) mode entryOrder
        headExisting := by
  cases entryExisting with
  | null => rfl
  | missing =>
    simp only [EntryValid] at entry_valid
    simp only [addFull, entry_valid]
  | addr addr =>
    simp only [EntryValid] at entry_valid
    simp only [addFull, entry_valid]

section

variable (coherent : self.Coherent klass)

include coherent

theorem Coherent.removeHeadLoop (removeAll markSurvivorsDirty : Bool) (addrs : List Nat) :
    (NMDedupMultiIndex.removeHeadLoop klass removeAll markSurvivorsDirty addrs
      self).1.Coherent klass := by
  induction addrs generalizing self with
  | nil => exact coherent
  | cons addr rest ih =>
    simp only [NMDedupMultiIndex.removeHeadLoop]
    split
    · split
      · exact coherent.removeEntryInternal addr
      · exact ih (coherent.removeEntryInternal addr)
    · split
      · exact ih (coherent.entrySetDirty addr true)
      · exact ih coherent

theorem Coherent.removeHeadInternal (addr : Nat) (removeAll markSurvivorsDirty : Bool) :
    (self.removeHeadInternal klass addr removeAll markSurvivorsDirty).1.Coherent klass := by
  unfold NMDedupMultiIndex.removeHeadInternal
  split
  · exact coherent.removeHeadLoop removeAll markSurvivorsDirty _
  · exact coherent

theorem Coherent.removeIdxLoop (removeAll markSurvivorsDirty : Bool) (addrs : List Nat) :
    (NMDedupMultiIndex.removeIdxLoop klass removeAll markSurvivorsDirty addrs
      self).1.Coherent klass := by
  induction addrs generalizing self with
  | nil => exact coherent
  | cons addr rest ih =>
    exact ih (coherent.removeHeadInternal addr removeAll markSurvivorsDirty)

theorem Coherent.dirtySetList (addrs : List Nat) :
    (NMDedupMultiIndex.dirtySetList addrs self).Coherent klass := by
  induction addrs generalizing self with
  | nil => exact coherent
  | cons addr rest ih => exact ih (coherent.entrySetDirty addr true)

theorem Coherent.dirtySetHeadAddr (addr : Nat) : (self.dirtySetHeadAddr addr).Coherent klass := by
  unfold NMDedupMultiIndex.dirtySetHeadAddr
  split
  · exact coherent.dirtySetList _
  · exact coherent

end

theorem reorderList_perm {addr : Nat} (orderAfter : Bool) {lstEntries : List Nat}
    (linked : addr ∈ lstEntries) (anchored : IntrusiveList.Anchored entryOrder lstEntries) :
    (reorderList addr entryOrder orderAfter lstEntries).1.Perm lstEntries := by
  cases entryOrder <;> cases orderAfter <;>
    first
      | exact IntrusiveList.moveBefore_perm linked anchored
      | exact IntrusiveList.moveAfter_perm linked anchored

/-- `nm_dedup_multi_entry_reorder` keeps the index coherent. -/
theorem Coherent.entryReorder (coherent : self.Coherent klass) {addr : Nat}
    {entry : NMDedupMultiEntry Obj} {head : NMDedupMultiHeadEntry T}
    (entry_eq : self.entries addr = some entry) (head_eq : self.heads entry.head = some head)
    (anchored : IntrusiveList.Anchored entryOrder head.lstEntries) (orderAfter : Bool) :
    (self.entryReorder addr entryOrder orderAfter).1.Coherent klass := by
  simp only [NMDedupMultiIndex.entryReorder, entry_eq, head_eq, Option.map_some, Option.getD_some]
  refine coherent.setLstEntries _ _ fun other other_eq => ?_
  cases head_eq.symm.trans other_eq
  exact reorderList_perm orderAfter
    ((coherent.heap.mem_lstEntries head_eq).mpr ⟨entry, entry_eq, rfl⟩) anchored

theorem Coherent.perform (coherent : self.Coherent klass) {op : DedupOp Obj T}
    (callable : self.Callable klass op) : (self.perform klass op).Coherent klass := by
  cases op with
  | add idxType obj mode =>
    exact coherent.addInternal mode (orderValid_none klass self idxType obj) trivial
  | addFull idxType obj mode entryOrder entryExisting headExisting =>
    obtain ⟨order_valid, entry_valid, head_valid⟩ := callable
    simp only [NMDedupMultiIndex.perform]
    rw [addFull_eq_addInternal mode entryOrder headExisting entry_valid]
    exact coherent.addInternal mode order_valid head_valid
  | removeEntry node =>
    cases node with
    | entry addr => exact coherent.removeEntryInternal addr
    | head addr => exact coherent.removeHeadInternal addr true false
  | removeObj idxType obj =>
    simp only [NMDedupMultiIndex.perform, NMDedupMultiIndex.removeObj]
    split
    · exact coherent
    · exact coherent.removeEntryInternal _
  | removeHead idxType obj =>
    simp only [NMDedupMultiIndex.perform, NMDedupMultiIndex.removeHead]
    split
    · exact coherent.removeHeadInternal _ true false
    · exact coherent
  | removeIdx idxType => exact coherent.removeIdxLoop true false _
  | dirtySetHead idxType obj =>
    simp only [NMDedupMultiIndex.perform, NMDedupMultiIndex.dirtySetHead]
    split
    · exact coherent.dirtySetHeadAddr _
    · exact coherent
  | dirtySetIdx idxType =>
    exact List.foldlRecOn _ _ coherent fun _ kept addr _ => kept.dirtySetHeadAddr addr
  | dirtyRemoveIdx idxType markSurvivorsDirty =>
    exact coherent.removeIdxLoop false markSurvivorsDirty _
  | entrySetDirty addr dirty => exact coherent.entrySetDirty addr dirty
  | entryReorder addr entryOrder orderAfter =>
    obtain ⟨entry, head, entry_eq, head_eq, anchored⟩ := callable
    exact coherent.entryReorder entry_eq head_eq anchored orderAfter
  | objIntern obj => exact coherent.objIntern obj
  | objRelease obj => exact coherent.objRelease callable

theorem Coherent.run (coherent : self.Coherent klass) {ops : List (DedupOp Obj T)}
    (lawful : (machine klass).Lawful self ops) : ((machine klass).run self ops).Coherent klass :=
  (machine klass).run_preserves (fun _ _ kept callable => kept.perform callable) coherent lawful

/-- Entries linked in the list of a head, and heads linked in the list of an index type. -/
def Linked (self : NMDedupMultiIndex Obj T) : IdxEntry → Prop
  | .entry addr => ∃ idxType, ∃ headAddr ∈ (self.idxTypes idxType).lstIdx,
      ∃ head, self.heads headAddr = some head ∧ addr ∈ head.lstEntries
  | .head addr => ∃ idxType, addr ∈ (self.idxTypes idxType).lstIdx

/-- An object stored by an entry in the list of a head of the index type. -/
def StoredIn (self : NMDedupMultiIndex Obj T) (idxType : T) (headAddr addr : Nat) (obj : Obj) :
    Prop :=
  headAddr ∈ (self.idxTypes idxType).lstIdx ∧
    (∃ head, self.heads headAddr = some head ∧ addr ∈ head.lstEntries) ∧
    ∃ entry, self.entries addr = some entry ∧ entry.obj = obj

/-- The representation invariant of a multi-index. -/
structure RepInvariant (klass : T → NMDedupMultiIdxTypeClass objClass)
    (index : NMDedupMultiIndex Obj T) : Prop where
  table_nodup : index.idxEntries.Nodup
  table_linked : ∀ node, node ∈ index.idxEntries ↔ index.Linked node
  /-- An index type has at most one entry for each partition and identity. -/
  entry_unique : ∀ {idxType g h a b x y}, index.StoredIn idxType g a x →
    index.StoredIn idxType h b y → (klass idxType).partitionEqual (some x) (some y) = true →
    (klass idxType).idEqual x y = true → a = b
  head_unique : ∀ {idxType h a x}, index.StoredIn idxType h a x →
    ∃! g, ∃ b y, index.StoredIn idxType g b y ∧
      (klass idxType).partitionEqual (some x) (some y) = true
  /-- A linked head has a list that is not empty, and its length is the counter of the head. -/
  head_len : ∀ {idxType h}, h ∈ (index.idxTypes idxType).lstIdx →
    ∃ head, index.heads h = some head ∧ head.lstEntries ≠ [] ∧
      head.len = head.lstEntries.length ∧ head.lstEntries.Nodup
  head_partition : ∀ {idxType h a b x y}, index.StoredIn idxType h a x →
    index.StoredIn idxType h b y → (klass idxType).partitionEqual (some x) (some y) = true
  partitionable : ∀ {idxType h a x}, index.StoredIn idxType h a x →
    (klass idxType).partitionable x = true

theorem HeapCoherent.storedIn_iff (coherent : self.HeapCoherent klass) {idxType : T}
    {headAddr addr : Nat} {obj : Obj} :
    self.StoredIn idxType headAddr addr obj ↔ self.Tracks addr idxType headAddr obj := by
  rw [tracks_iff]
  constructor
  · rintro ⟨head_linked, ⟨head, head_eq, linked⟩, entry, entry_eq, obj_eq⟩
    obtain ⟨other, other_eq, head_type⟩ := coherent.mem_lstIdx.mp head_linked
    cases head_eq.symm.trans other_eq
    obtain ⟨named, named_eq, named_head⟩ := (coherent.mem_lstEntries head_eq).mp linked
    cases entry_eq.symm.trans named_eq
    exact ⟨entry, head, entry_eq, head_eq, obj_eq, named_head, head_type⟩
  · rintro ⟨entry, head, entry_eq, head_eq, obj_eq, entry_head, head_type⟩
    exact ⟨coherent.mem_lstIdx.mpr ⟨head, head_eq, head_type⟩,
      ⟨head, head_eq, (coherent.mem_lstEntries head_eq).mpr ⟨entry, entry_eq, entry_head⟩⟩,
      entry, entry_eq, obj_eq⟩

theorem HeapCoherent.linked_iff (coherent : self.HeapCoherent klass) {node : IdxEntry} :
    self.Linked node ↔ self.Live node := by
  cases node with
  | entry addr =>
    constructor
    · rintro ⟨_, _, _, head, head_eq, linked⟩
      obtain ⟨entry, entry_eq, -⟩ := (coherent.mem_lstEntries head_eq).mp linked
      exact ⟨entry, entry_eq⟩
    · rintro ⟨entry, entry_eq⟩
      obtain ⟨head, head_eq⟩ := coherent.head_live entry_eq
      exact ⟨head.idxType, entry.head, coherent.mem_lstIdx.mpr ⟨head, head_eq, rfl⟩, head,
        head_eq, (coherent.mem_lstEntries head_eq).mpr ⟨entry, entry_eq, rfl⟩⟩
  | head addr =>
    constructor
    · rintro ⟨_, linked⟩
      obtain ⟨head, head_eq, -⟩ := coherent.mem_lstIdx.mp linked
      exact ⟨head, head_eq⟩
    · rintro ⟨head, head_eq⟩
      exact ⟨head.idxType, coherent.mem_lstIdx.mpr ⟨head, head_eq, rfl⟩⟩

theorem Coherent.repInvariant (coherent : self.Coherent klass) : self.RepInvariant klass := by
  have heap := coherent.heap
  refine ⟨coherent.idxEntries_nodup, ?_, ?_, ?_, ?_, ?_, ?_⟩
  · intro node
    rw [coherent.mem_idxEntries, heap.linked_iff]
  · intro idxType g h a b x y first second shared equal
    rw [heap.storedIn_iff] at first second
    obtain rfl := (heap.same_head first second).mp shared
    exact heap.unique first second equal
  · intro idxType h a x stored
    refine ⟨h, ⟨a, x, stored, (klass idxType).partitionEqual_refl x⟩, ?_⟩
    rintro g ⟨b, y, other, shared⟩
    rw [heap.storedIn_iff] at stored other
    exact ((heap.same_head stored other).mp shared).symm
  · intro idxType h linked
    obtain ⟨head, head_eq, -⟩ := heap.mem_lstIdx.mp linked
    exact ⟨head, head_eq, heap.lstEntries_ne head_eq, heap.len_eq head_eq,
      heap.lstEntries_nodup head_eq⟩
  · intro idxType h a b x y first second
    rw [heap.storedIn_iff] at first second
    exact (heap.same_head first second).mpr rfl
  · intro idxType h a x stored
    rw [heap.storedIn_iff] at stored
    exact heap.storable stored

/-- After every lawful run from the empty index the representation invariant holds. -/
theorem run_repInvariant (klass : T → NMDedupMultiIdxTypeClass objClass)
    (ops : List (DedupOp Obj T)) (lawful : (machine klass).Lawful new ops) :
    ((machine klass).run new ops).RepInvariant klass :=
  ((coherent_new klass).run lawful).repInvariant

end NMDedupMultiIndex

/-- The objects of the index tests: a value and a minor field. -/
structure DedupObj where
  /-- The value that decides partition and identity. -/
  val : Nat
  other : Nat
  deriving DecidableEq, Repr

/-- The object class of the index tests; the tested objects live on the stack. -/
def dedupObjClass : NMDedupMultiObjClass DedupObj where
  objFullEqual a b := decide (a.val = b.val) && decide (a.other = b.other)
  objNeedsClone _ := true
  objClone obj := { val := obj.val, other := obj.other }
  fullEqual_refl := by simp
  fullEqual_symm := by
    intro a b equal
    simp_all
  fullEqual_trans := by
    intro a b c first second
    simp_all
  fullEqual_clone := by simp

/-- An index type of the index tests. -/
structure DedupIdxType where
  /-- Number of consecutive values in a partition. -/
  partitionSize : Nat
  valMod : Nat
  deriving DecidableEq, Repr

/-- The index type class of the index tests. -/
def dedupIdxTypeClass (idxType : DedupIdxType) : NMDedupMultiIdxTypeClass dedupObjClass where
  idxObjIdEqual a b := decide (a.val / idxType.partitionSize = b.val / idxType.partitionSize) &&
    decide (a.val % idxType.valMod = b.val % idxType.valMod)
  idxObjPartitionable := none
  idxObjPartitionEqual := some fun a b =>
    decide (a.val / idxType.partitionSize = b.val / idxType.partitionSize)
  id_refl := by simp
  id_symm := by
    intro a b equal
    simp_all
  id_trans := by
    intro a b c first second
    simp_all
  partition_symm := by simp_all
  partition_trans := by simp_all
  id_of_fullEqual := by
    intro a b equal
    simp_all [dedupObjClass]
  partition_of_fullEqual := by simp_all [dedupObjClass]
  partitionable_congr := by simp

open NMDedupMultiIndex in
theorem run_repInvariant_dedup :
    ((machine dedupIdxTypeClass).run new
      [.add ⟨20, 3⟩ ⟨1, 1⟩ .append, .add ⟨20, 3⟩ ⟨1, 2⟩ .append, .add ⟨20, 3⟩ ⟨2, 2⟩ .append,
        .add ⟨20, 3⟩ ⟨41, 1⟩ .prepend, .dirtySetIdx ⟨20, 3⟩, .add ⟨20, 3⟩ ⟨2, 3⟩ .appendForce,
        .dirtyRemoveIdx ⟨20, 3⟩ false, .removeObj ⟨20, 3⟩ ⟨2, 0⟩]).RepInvariant
      dedupIdxTypeClass :=
  run_repInvariant dedupIdxTypeClass _
    ⟨trivial, trivial, trivial, trivial, trivial, trivial, trivial, trivial, trivial⟩

end NetworkManager
