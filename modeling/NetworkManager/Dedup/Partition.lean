import NetworkManager.Dedup.Contents

/-!
# The list of one partition

The entries of a partition form an ordered list of objects with marks.  Updates that move to the
end take the row of an identity out of the list and append its new version unmarked.
-/

set_option linter.unusedSectionVars false

namespace NetworkManager

namespace NMDedupMultiIndex

open Function List NMDedupMultiIdxTypeClass NMDedupMultiIndex Option

variable {Obj T : Type*} [DecidableEq Obj] [DecidableEq T] {objClass : NMDedupMultiObjClass Obj}

section

variable (self : NMDedupMultiIndex Obj T)

/-- The entries in the partition of an object, in order. -/
def partitionEntries (klass : T → NMDedupMultiIdxTypeClass objClass) (idxType : T) (obj : Obj) :
    List Nat :=
  (((self.lookupHead klass idxType (some obj)).bind self.heads).map (·.lstEntries)).getD []

/-- The object and the mark of an entry. -/
def rowAt (addr : Nat) : Option (Obj × Bool) :=
  (self.entries addr).map fun entry => (entry.obj, entry.dirty)

/-- The objects in the partition of an object with their marks, in order. -/
def partitionRows (klass : T → NMDedupMultiIdxTypeClass objClass) (idxType : T) (obj : Obj) :
    List (Obj × Bool) :=
  (self.partitionEntries klass idxType obj).filterMap self.rowAt

end

variable {klass : T → NMDedupMultiIdxTypeClass objClass} {self : NMDedupMultiIndex Obj T}
  {idxType : T}

section

variable (coherent : self.Coherent klass)

include coherent

theorem Coherent.partitionEntries_eq {addr head : Nat} {obj stored : Obj}
    (tracks : self.Tracks addr idxType head stored)
    (shared : (klass idxType).partitionEqual (some obj) (some stored) = true)
    {record : NMDedupMultiHeadEntry T} (head_eq : self.heads head = some record) :
    self.partitionEntries klass idxType obj = record.lstEntries := by
  have found := coherent.lookupHead_eq_some.mpr ⟨addr, stored, tracks, shared⟩
  simp [NMDedupMultiIndex.partitionEntries, found, head_eq]

theorem Coherent.mem_partitionEntries {addr : Nat} {obj : Obj} :
    addr ∈ self.partitionEntries klass idxType obj ↔
      ∃ head stored, self.Tracks addr idxType head stored ∧
        (klass idxType).partitionEqual (some obj) (some stored) = true := by
  constructor
  · intro listed
    unfold NMDedupMultiIndex.partitionEntries at listed
    cases found : self.lookupHead klass idxType (some obj) with
    | none => simp [found] at listed
    | some head =>
      obtain ⟨first, stored, tracks, shared⟩ := coherent.lookupHead_eq_some.mp found
      obtain ⟨lstEntries, len, head_eq⟩ := tracks.head
      simp only [found, bind_some, head_eq, map_some, getD_some] at listed
      obtain ⟨⟨other, dirty, _⟩, entry_eq, rfl⟩ := (coherent.heap.mem_lstEntries head_eq).mp listed
      have other_tracks : self.Tracks addr idxType _ other :=
        ⟨⟨dirty, entry_eq⟩, ⟨lstEntries, len, head_eq⟩⟩
      exact ⟨_, other, other_tracks, partitionEqual_trans _ shared
        ((coherent.heap.same_head tracks other_tracks).mpr rfl)⟩
  · rintro ⟨head, stored, tracks, shared⟩
    obtain ⟨dirty, entry_eq⟩ := tracks.entry
    obtain ⟨lstEntries, len, head_eq⟩ := tracks.head
    rw [coherent.partitionEntries_eq tracks shared head_eq]
    exact (coherent.heap.mem_lstEntries head_eq).mpr ⟨_, entry_eq, rfl⟩

theorem Coherent.partitionEntries_nil {obj : Obj}
    (empty : ∀ addr head stored, self.Tracks addr idxType head stored →
      (klass idxType).partitionEqual (some obj) (some stored) ≠ true) :
    self.partitionEntries klass idxType obj = [] := by
  refine eq_nil_iff_forall_not_mem.mpr fun addr listed => ?_
  obtain ⟨head, stored, tracks, shared⟩ := coherent.mem_partitionEntries.mp listed
  exact empty addr head stored tracks shared

theorem Coherent.partitionEntries_nodup (idxType : T) (obj : Obj) :
    (self.partitionEntries klass idxType obj).Nodup := by
  unfold NMDedupMultiIndex.partitionEntries
  cases bound : (self.lookupHead klass idxType (some obj)).bind self.heads with
  | none => simp
  | some record =>
    obtain ⟨head, -, head_eq⟩ := bind_eq_some_iff.mp bound
    exact coherent.heap.lstEntries_nodup head_eq

theorem Coherent.partitionEntries_congr {a b : Obj}
    (shared : (klass idxType).partitionEqual (some a) (some b) = true) :
    self.partitionEntries klass idxType a = self.partitionEntries klass idxType b := by
  have found_eq : self.lookupHead klass idxType (some a) =
      self.lookupHead klass idxType (some b) := by
    refine ext fun head => ?_
    rw [coherent.lookupHead_eq_some, coherent.lookupHead_eq_some]
    refine exists_congr fun addr => exists_congr fun stored => and_congr_right fun _ => ?_
    constructor
    · exact partitionEqual_trans _
        (partitionEqual_symm _ shared)
    · exact partitionEqual_trans _ shared
  simp only [NMDedupMultiIndex.partitionEntries, found_eq]

theorem Coherent.partitionRows_congr {a b : Obj}
    (shared : (klass idxType).partitionEqual (some a) (some b) = true) :
    self.partitionRows klass idxType a = self.partitionRows klass idxType b := by
  rw [NMDedupMultiIndex.partitionRows, coherent.partitionEntries_congr shared,
    NMDedupMultiIndex.partitionRows]

theorem Coherent.rows_erase {addr head : Nat} {key stored : Obj}
    (tracks : self.Tracks addr idxType head stored)
    (shared : (klass idxType).partitionEqual (some key) (some stored) = true)
    (equal : (klass idxType).idEqual key stored = true) {rowAfter : Nat → Option (Obj × Bool)}
    (unchanged : ∀ other, other ≠ addr → rowAfter other = self.rowAt other) :
    ((self.partitionEntries klass idxType key).erase addr).filterMap rowAfter =
      (self.partitionRows klass idxType key).filter fun row =>
        !(klass idxType).idEqual key row.1 := by
  rw [(coherent.partitionEntries_nodup idxType key).erase_eq_filter, filterMap_filter,
    NMDedupMultiIndex.partitionRows, filter_filterMap]
  refine filterMap_congr fun other listed => ?_
  obtain ⟨otherHead, other_obj, other_tracks, other_shared⟩ :=
    coherent.mem_partitionEntries.mp listed
  obtain ⟨dirty, entry_eq⟩ := other_tracks.entry
  have row_eq : self.rowAt other = some (other_obj, dirty) := by
    simp [NMDedupMultiIndex.rowAt, entry_eq]
  by_cases same : other = addr
  · subst same
    obtain ⟨-, -, rfl⟩ := other_tracks.unique_head tracks
    simp [row_eq, Option.filter, equal]
  · have different : (klass idxType).idEqual key other_obj = false := by
      refine Bool.eq_false_iff.mpr fun key_equal => same ?_
      obtain rfl := (coherent.heap.same_head other_tracks tracks).mp
        (partitionEqual_trans _ (partitionEqual_symm _ other_shared) shared)
      exact coherent.heap.unique other_tracks tracks
        (idEqual_trans _ (idEqual_symm _ key_equal) equal)
    simp [same, unchanged other same, row_eq, Option.filter, different]

omit coherent in
/-- The list after an entry moved to the end, possibly with another version of its object. -/
theorem Coherent.rows_moved {self next : NMDedupMultiIndex Obj T} (coherent : self.Coherent klass)
    (after : next.Coherent klass) {addr head : Nat} {key stored boxed : Obj} {dirty : Bool}
    {record : NMDedupMultiHeadEntry T} (tracks : self.Tracks addr idxType head stored)
    (shared : (klass idxType).partitionEqual (some key) (some stored) = true)
    (equal : (klass idxType).idEqual key stored = true)
    (new_shared : (klass idxType).partitionEqual (some key) (some boxed) = true)
    (new_entry : next.entries addr = some { obj := boxed, dirty, head })
    (new_head : next.heads head = some record) (type_eq : record.idxType = idxType)
    (moved : record.lstEntries = (self.partitionEntries klass idxType key).erase addr ++ [addr])
    (unchanged : ∀ other, other ≠ addr → next.entries other = self.entries other) :
    next.partitionRows klass idxType key =
      ((self.partitionRows klass idxType key).filter fun row =>
        !(klass idxType).idEqual key row.1) ++ [(boxed, dirty)] := by
  have new_tracks : next.Tracks addr idxType head boxed := by
    subst type_eq
    exact ⟨⟨dirty, new_entry⟩, ⟨record.lstEntries, record.len, new_head⟩⟩
  have rows_unchanged : ∀ other, other ≠ addr → next.rowAt other = self.rowAt other := by
    intro other different
    simp [NMDedupMultiIndex.rowAt, unchanged other different]
  rw [← coherent.rows_erase tracks shared equal rows_unchanged, NMDedupMultiIndex.partitionRows,
    after.partitionEntries_eq new_tracks new_shared new_head, moved, filterMap_append]
  simp [NMDedupMultiIndex.rowAt, new_entry]

/-- Adding a tracked identity with `appendForce` moves it to the end. -/
theorem Coherent.addExisting_rows {addr head : Nat} {obj stored : Obj}
    (tracks : self.Tracks addr idxType head stored)
    (shared : (klass idxType).partitionEqual (some obj) (some stored) = true)
    (equal : (klass idxType).idEqual obj stored = true) :
    (self.addExisting objClass obj addr .appendForce none).1.partitionRows klass idxType obj =
      ((self.partitionRows klass idxType obj).filter fun row =>
        !(klass idxType).idEqual obj row.1) ++
        [(if KeepsObj objClass obj stored then stored else (self.objIntern objClass obj).2,
          false)] := by
  have after := coherent.addExisting tracks shared equal .appendForce
    (orderValid_none klass self idxType obj)
  have storable : (klass idxType).partitionable obj = true :=
    partitionable_of_key _
      (partitionEqual_symm _ shared)
      (idEqual_symm _ equal) (coherent.heap.storable tracks)
  obtain ⟨new_shared, -⟩ := key_of_fullEqual (klass idxType) storable
    (coherent.interned.keeps_or_intern obj stored)
  obtain ⟨dirty, entry_eq⟩ := tracks.entry
  obtain ⟨lstEntries, len, head_eq⟩ := tracks.head
  have listed := coherent.partitionEntries_eq tracks shared head_eq
  have nodup := coherent.heap.lstEntries_nodup head_eq
  rw [self.addExisting_fst objClass obj .appendForce none entry_eq head_eq] at after ⊢
  refine coherent.rows_moved after tracks shared equal new_shared (update_self ..)
    (update_self ..) rfl ?_ ?_
  · rw [listed]
    exact IntrusiveList.moveBefore_head nodup
  · intro other different
    exact update_of_ne different ..

/-- Adding a new identity with `appendForce` appends it. -/
theorem Coherent.addNew_rows {obj : Obj} (missing : self.lookupObj klass idxType obj = none)
    (storable : (klass idxType).partitionable obj = true) :
    (self.addNew klass idxType obj .appendForce none .null).1.partitionRows klass idxType obj =
      ((self.partitionRows klass idxType obj).filter fun row =>
        !(klass idxType).idEqual obj row.1) ++
        [((self.objIntern objClass obj).2, false)] := by
  have order_valid := orderValid_none klass self idxType obj
  have no_hint : self.HeadValid klass idxType obj .null := trivial
  have after := coherent.addNew_coherent missing .appendForce order_valid no_hint
  have kept : ((self.partitionRows klass idxType obj).filter fun row =>
      !(klass idxType).idEqual obj row.1) = self.partitionRows klass idxType obj := by
    refine filter_eq_self.mpr fun row row_mem => ?_
    obtain ⟨addr, listed, row_eq⟩ := mem_filterMap.mp row_mem
    obtain ⟨head, stored, tracks, shared⟩ := coherent.mem_partitionEntries.mp listed
    obtain ⟨dirty, entry_eq⟩ := tracks.entry
    simp only [NMDedupMultiIndex.rowAt, entry_eq, map_some, Option.some.injEq] at row_eq
    subst row_eq
    rw [Bool.not_eq_true', ← Bool.not_eq_true]
    intro equal
    have found := coherent.lookupObj_eq_some.mpr ⟨head, stored, tracks, shared, equal⟩
    simp [missing] at found
  obtain ⟨new_shared, -⟩ := key_of_fullEqual (klass idxType) storable
    (coherent.interned.objIntern obj).2.2
  have live : ∀ addr ∈ self.partitionEntries klass idxType obj, addr < self.nextAddr := by
    intro addr listed
    obtain ⟨head, stored, tracks, -⟩ := coherent.mem_partitionEntries.mp listed
    obtain ⟨dirty, entry_eq⟩ := tracks.entry
    exact coherent.heap.entry_lt entry_eq
  rw [kept]
  rcases coherent.addNew_cases missing storable .appendForce order_valid no_hint with
    ⟨headAddr, record, found, head_eq, -, add_eq⟩ | ⟨unfound, add_eq⟩
  · obtain ⟨first, stored, tracks, shared⟩ := coherent.lookupHead_eq_some.mp found
    obtain ⟨lstEntries, len, first_head⟩ := tracks.head
    cases head_eq.symm.trans first_head
    have listed := coherent.partitionEntries_eq tracks shared head_eq
    rw [add_eq] at after ⊢
    have new_tracks : (self.linkedToHead idxType (self.objIntern objClass obj).2
        (self.objIntern objClass obj).1.idxObjs headAddr { idxType, lstEntries, len }
        (linkForMode .appendForce none self.nextAddr lstEntries)).Tracks self.nextAddr idxType
        headAddr (self.objIntern objClass obj).2 :=
      ⟨⟨false, update_self ..⟩, ⟨_, _, update_self ..⟩⟩
    rw [NMDedupMultiIndex.partitionRows, after.partitionEntries_eq new_tracks new_shared
      (update_self ..), NMDedupMultiIndex.partitionRows, listed]
    simp only [linkForMode, IntrusiveList.linkBefore, filterMap_append]
    congr 1
    · refine filterMap_congr fun addr member => ?_
      have old := live addr (listed ▸ member)
      simp [NMDedupMultiIndex.rowAt, NMDedupMultiIndex.linkedToHead, Nat.ne_of_lt old]
    · simp [NMDedupMultiIndex.rowAt, NMDedupMultiIndex.linkedToHead]
  · have empty : self.partitionEntries klass idxType obj = [] := by
      simp [NMDedupMultiIndex.partitionEntries, unfound]
    rw [add_eq] at after ⊢
    have new_tracks : (self.linkedToNewHead idxType (self.objIntern objClass obj).2
        (self.objIntern objClass obj).1.idxObjs).Tracks (self.nextAddr + 1) idxType self.nextAddr
        (self.objIntern objClass obj).2 :=
      ⟨⟨false, update_self ..⟩, ⟨_, _, update_self ..⟩⟩
    rw [NMDedupMultiIndex.partitionRows, after.partitionEntries_eq new_tracks new_shared
      (update_self ..), NMDedupMultiIndex.partitionRows, empty]
    simp [NMDedupMultiIndex.rowAt, NMDedupMultiIndex.linkedToNewHead]

theorem Coherent.removeEntry_rowAt {addr head : Nat} {stored : Obj}
    (tracks : self.Tracks addr idxType head stored) (other : Nat) (different : other ≠ addr) :
    (self.removeEntryInternal klass addr).1.rowAt other = self.rowAt other := by
  obtain ⟨dirty, entry_eq⟩ := tracks.entry
  obtain ⟨lstEntries, len, head_eq⟩ := tracks.head
  rw [coherent.removeEntryInternal_eq entry_eq head_eq]
  split <;> simp [NMDedupMultiIndex.rowAt, different]

theorem Coherent.removeEntry_partitionEntries {addr head : Nat} {stored : Obj}
    (tracks : self.Tracks addr idxType head stored) :
    (self.removeEntryInternal klass addr).1.partitionEntries klass idxType stored =
      (self.partitionEntries klass idxType stored).erase addr := by
  obtain ⟨dirty, entry_eq⟩ := tracks.entry
  obtain ⟨lstEntries, len, head_eq⟩ := tracks.head
  have shared := partitionEqual_refl (klass idxType) stored
  have listed := coherent.partitionEntries_eq tracks shared head_eq
  have after := coherent.removeEntryInternal addr
  rw [listed]
  by_cases last : lstEntries.erase addr = []
  · rw [last]
    refine after.partitionEntries_nil fun other otherHead other_obj other_tracks other_shared => ?_
    obtain ⟨other_old, different⟩ := (coherent.removeEntryInternal_tracks addr).mp other_tracks
    have other_listed := coherent.mem_partitionEntries.mpr ⟨_, _, other_old, other_shared⟩
    rw [listed] at other_listed
    have kept := (mem_erase_of_ne different).mpr other_listed
    simp [last] at kept
  · -- Another entry keeps the head alive.
    obtain ⟨other, kept⟩ := exists_mem_of_ne_nil _ last
    have different : other ≠ addr := by
      rintro rfl
      exact (coherent.heap.lstEntries_nodup head_eq).not_mem_erase kept
    have other_listed : other ∈ self.partitionEntries klass idxType stored :=
      listed ▸ mem_of_mem_erase kept
    obtain ⟨otherHead, other_obj, other_tracks, other_shared⟩ :=
      coherent.mem_partitionEntries.mp other_listed
    obtain rfl := (coherent.heap.same_head tracks other_tracks).mp other_shared
    have head_kept : (self.removeEntryInternal klass addr).1.heads head =
        some { idxType, lstEntries := lstEntries.erase addr, len := len - 1 } := by
      rw [coherent.removeEntryInternal_eq entry_eq head_eq, if_neg last]
      exact update_self ..
    exact after.partitionEntries_eq
      ((coherent.removeEntryInternal_tracks addr).mpr ⟨other_tracks, different⟩) other_shared
      head_kept

end

theorem Coherent.frame_partitionEntries {self next : NMDedupMultiIndex Obj T}
    (coherent : self.Coherent klass) (after : next.Coherent klass) (frame : Frame idxType self next)
    (obj : Obj) :
    next.partitionEntries klass idxType obj = self.partitionEntries klass idxType obj := by
  have found_eq : next.lookupHead klass idxType (some obj) =
      self.lookupHead klass idxType (some obj) := by
    refine ext fun head => ?_
    rw [after.lookupHead_eq_some, coherent.lookupHead_eq_some]
    exact exists_congr fun addr => exists_congr fun stored => and_congr_left fun _ => frame.tracks
  unfold NMDedupMultiIndex.partitionEntries
  rw [found_eq]
  cases found : self.lookupHead klass idxType (some obj) with
  | none => rfl
  | some head =>
    obtain ⟨addr, stored, tracks, -⟩ := coherent.lookupHead_eq_some.mp found
    obtain ⟨lstEntries, len, head_eq⟩ := tracks.head
    rw [bind_some, bind_some, head_eq, (frame.heads rfl).mpr head_eq]

theorem Frame.rowAt {self next : NMDedupMultiIndex Obj T} (frame : Frame idxType self next)
    {addr head : Nat} {obj : Obj} (tracks : self.Tracks addr idxType head obj) :
    next.rowAt addr = self.rowAt addr := by
  obtain ⟨dirty, entry_eq⟩ := tracks.entry
  obtain ⟨lstEntries, len, head_eq⟩ := tracks.head
  have next_eq := (frame.entries (by rw [head_eq]; rfl)).mpr entry_eq
  rw [NMDedupMultiIndex.rowAt, NMDedupMultiIndex.rowAt, entry_eq, next_eq]

theorem Coherent.frame_rows {self next : NMDedupMultiIndex Obj T} (coherent : self.Coherent klass)
    (after : next.Coherent klass) (frame : Frame idxType self next) (obj : Obj) :
    next.partitionRows klass idxType obj = self.partitionRows klass idxType obj := by
  rw [NMDedupMultiIndex.partitionRows, coherent.frame_partitionEntries after frame,
    NMDedupMultiIndex.partitionRows]
  refine filterMap_congr fun addr listed => ?_
  obtain ⟨head, stored, tracks, -⟩ := coherent.mem_partitionEntries.mp listed
  exact frame.rowAt tracks

theorem entrySetDirty_heads (self : NMDedupMultiIndex Obj T) (addr : Nat) (dirty : Bool) :
    (self.entrySetDirty addr dirty).heads = self.heads := by
  unfold entrySetDirty
  split <;> rfl

theorem entrySetDirty_rowAt (self : NMDedupMultiIndex Obj T) (addr : Nat) (dirty : Bool)
    (other : Nat) :
    (self.entrySetDirty addr dirty).rowAt other =
      (self.rowAt other).map fun row => (row.1, if other = addr then dirty else row.2) := by
  unfold entrySetDirty NMDedupMultiIndex.rowAt
  split
  · rename_i entry entry_eq
    by_cases same : other = addr
    · simp [same, setEntry, entry_eq]
    · simp only [setEntry, update_of_ne same, same, if_false]
      rw [Option.map_id']
  · rename_i unused
    by_cases same : other = addr
    · simp [same, unused]
    · simp only [same, if_false]
      rw [Option.map_id']

theorem dirtySetList_heads (addrs : List Nat) (self : NMDedupMultiIndex Obj T) :
    (dirtySetList addrs self).heads = self.heads := by
  induction addrs generalizing self with
  | nil => rfl
  | cons addr rest ih => rw [dirtySetList, ih, entrySetDirty_heads]

theorem dirtySetList_rowAt (addrs : List Nat) (self : NMDedupMultiIndex Obj T) (other : Nat) :
    (dirtySetList addrs self).rowAt other =
      (self.rowAt other).map fun row => (row.1, if other ∈ addrs then true else row.2) := by
  induction addrs generalizing self with
  | nil => simp [dirtySetList]
  | cons addr rest ih =>
    rw [dirtySetList, ih, entrySetDirty_rowAt, Option.map_map]
    congr 1
    funext row
    by_cases listed : other ∈ rest
    · simp [listed]
    · simp [listed]

theorem Coherent.dirtySet_rows (coherent : self.Coherent klass) (idxType : T) (obj : Obj) :
    (NMDedupMultiIndex.dirtySetList (self.partitionEntries klass idxType obj) self).partitionRows
        klass idxType obj =
      (self.partitionRows klass idxType obj).map fun row => (row.1, true) := by
  have listed_eq : ∀ addrs, (NMDedupMultiIndex.dirtySetList addrs self).partitionEntries klass
      idxType obj = self.partitionEntries klass idxType obj := by
    intro addrs
    have found_eq : (NMDedupMultiIndex.dirtySetList addrs self).lookupHead klass idxType
        (some obj) = self.lookupHead klass idxType (some obj) := by
      refine ext fun head => ?_
      rw [(coherent.dirtySetList addrs).lookupHead_eq_some, coherent.lookupHead_eq_some]
      exact exists_congr fun addr => exists_congr fun stored =>
        and_congr_left fun _ => dirtySetList_tracks addrs
    rw [NMDedupMultiIndex.partitionEntries, found_eq, dirtySetList_heads]
    rfl
  rw [NMDedupMultiIndex.partitionRows, listed_eq, NMDedupMultiIndex.partitionRows, map_filterMap]
  refine filterMap_congr fun addr listed => ?_
  simp [dirtySetList_rowAt, listed]

end NMDedupMultiIndex

end NetworkManager
