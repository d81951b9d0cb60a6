import NetworkManager.Dedup.Partition
import NetworkManager.Dedup.Sweep

/-!
# Mark and sweep

To replace the objects of an index type, a caller marks all its entries dirty, adds the objects
that are to stay, which cleans their entries, and removes the entries that are still dirty.  While
objects are added, an entry is clean exactly when one of them has its key.  So the sweep leaves one
entry for each key that was added, and nothing else.
-/

set_option linter.unusedSectionVars false

namespace NetworkManager

open List NMDedupMultiIdxTypeClass Option

namespace NMDedupMultiIdxTypeClass

variable {Obj : Type*} [DecidableEq Obj] {objClass : NMDedupMultiObjClass Obj}
  {klass : NMDedupMultiIdxTypeClass objClass} {a b c : Obj}

/-- Two objects share the partition and the identity. -/
def SameKey (klass : NMDedupMultiIdxTypeClass objClass) (a b : Obj) : Prop :=
  klass.partitionEqual (some a) (some b) = true ∧ klass.idEqual a b = true

theorem SameKey.symm (same : klass.SameKey a b) : klass.SameKey b a :=
  ⟨klass.partitionEqual_symm same.1, klass.idEqual_symm same.2⟩

theorem SameKey.trans (first : klass.SameKey a b) (second : klass.SameKey b c) :
    klass.SameKey a c :=
  ⟨klass.partitionEqual_trans first.1 second.1, klass.idEqual_trans first.2 second.2⟩

end NMDedupMultiIdxTypeClass

namespace NMDedupMultiIndex

variable {Obj T : Type*} [DecidableEq Obj] [DecidableEq T] {objClass : NMDedupMultiObjClass Obj}

def headEntries (self : NMDedupMultiIndex Obj T) (headAddr : Nat) : List Nat :=
  ((self.heads headAddr).map (·.lstEntries)).getD []

/-- The entries of an index type, partition by partition. -/
def typeEntries (self : NMDedupMultiIndex Obj T) (idxType : T) : List Nat :=
  (self.idxTypes idxType).lstIdx.flatMap self.headEntries

variable {self : NMDedupMultiIndex Obj T} {klass : T → NMDedupMultiIdxTypeClass objClass}
  {idxType : T} {obj : Obj} {added : List Obj}

variable {headAddr : Nat} {head : NMDedupMultiHeadEntry T} {addr : Nat} {entryOrder : Option Nat}
  {headExisting : Existing}

theorem headEntries_eq (head_eq : self.heads headAddr = some head) :
    self.headEntries headAddr = head.lstEntries := by
  simp [headEntries, head_eq]

theorem Coherent.mem_headEntries (coherent : self.Coherent klass) {headAddr addr : Nat} :
    addr ∈ self.headEntries headAddr ↔
      ∃ entry, self.entries addr = some entry ∧ entry.head = headAddr := by
  cases head_eq : self.heads headAddr with
  | some head => rw [headEntries_eq head_eq, coherent.heap.mem_lstEntries head_eq]
  | none =>
    refine iff_of_false (by simp [headEntries, head_eq]) ?_
    rintro ⟨entry, entry_eq, rfl⟩
    obtain ⟨head, live⟩ := coherent.heap.head_live entry_eq
    simp [head_eq] at live

theorem Coherent.mem_typeEntries (coherent : self.Coherent klass) :
    addr ∈ self.typeEntries idxType ↔ ∃ head obj, self.Tracks addr idxType head obj := by
  rw [typeEntries, mem_flatMap]
  constructor
  · rintro ⟨headAddr, linked, member⟩
    obtain ⟨head, head_eq, rfl⟩ := coherent.heap.mem_lstIdx.mp linked
    obtain ⟨entry, entry_eq, rfl⟩ := coherent.mem_headEntries.mp member
    exact ⟨entry.head, entry.obj, ⟨entry.dirty, entry_eq⟩, ⟨head.lstEntries, head.len, head_eq⟩⟩
  · rintro ⟨headAddr, obj, ⟨dirty, entry_eq⟩, ⟨lstEntries, len, head_eq⟩⟩
    exact ⟨headAddr, coherent.heap.mem_lstIdx.mpr ⟨_, head_eq, rfl⟩,
      coherent.mem_headEntries.mpr ⟨_, entry_eq, rfl⟩⟩

theorem Coherent.flatMap_headEntries_nodup (coherent : self.Coherent klass) {headAddrs : List Nat}
    (nodup : headAddrs.Nodup) : (headAddrs.flatMap self.headEntries).Nodup := by
  refine nodup_flatMap.mpr ⟨fun headAddr _ => ?_, nodup.imp fun {first second} different => ?_⟩
  · cases head_eq : self.heads headAddr with
    | some head =>
      rw [headEntries_eq head_eq]
      exact coherent.heap.lstEntries_nodup head_eq
    | none => simp [headEntries, head_eq]
  · intro addr in_first in_second
    obtain ⟨entry, entry_eq, rfl⟩ := coherent.mem_headEntries.mp in_first
    obtain ⟨other, other_eq, other_head⟩ := coherent.mem_headEntries.mp in_second
    cases entry_eq.symm.trans other_eq
    exact different other_head

theorem dirtySetList_append (first second : List Nat) (self : NMDedupMultiIndex Obj T) :
    dirtySetList (first ++ second) self = dirtySetList second (dirtySetList first self) := by
  induction first generalizing self with
  | nil => rfl
  | cons addr rest ih => exact ih _

theorem dirtySetHeadAddr_eq (self : NMDedupMultiIndex Obj T) (headAddr : Nat) :
    self.dirtySetHeadAddr headAddr = dirtySetList (self.headEntries headAddr) self := by
  unfold dirtySetHeadAddr headEntries
  cases self.heads headAddr <;> rfl

theorem foldl_dirtySetHeadAddr (headAddrs : List Nat) (self : NMDedupMultiIndex Obj T) :
    headAddrs.foldl dirtySetHeadAddr self =
      dirtySetList (headAddrs.flatMap self.headEntries) self := by
  induction headAddrs generalizing self with
  | nil => rfl
  | cons headAddr rest ih =>
    have same_lists : (dirtySetList (self.headEntries headAddr) self).headEntries =
        self.headEntries := by
      funext other
      rw [headEntries, dirtySetList_heads, headEntries]
    rw [foldl_cons, dirtySetHeadAddr_eq, ih, same_lists, flatMap_cons, dirtySetList_append]

/-- `nm_dedup_multi_index_dirty_set_idx` marks the entries of the index type. -/
theorem dirtySetIdx_eq (self : NMDedupMultiIndex Obj T) (idxType : T) :
    self.dirtySetIdx idxType = dirtySetList (self.typeEntries idxType) self :=
  foldl_dirtySetHeadAddr _ self

theorem entrySetDirty_entries_of_ne (self : NMDedupMultiIndex Obj T) {addr other : Nat}
    (dirty : Bool) (different : other ≠ addr) :
    (self.entrySetDirty addr dirty).entries other = self.entries other := by
  unfold NMDedupMultiIndex.entrySetDirty
  split
  · exact Function.update_of_ne different ..
  · rfl

theorem dirtySetList_entries_of_notMem {addrs : List Nat} (self : NMDedupMultiIndex Obj T)
    {other : Nat} (unlisted : other ∉ addrs) :
    (dirtySetList addrs self).entries other = self.entries other := by
  induction addrs generalizing self with
  | nil => rfl
  | cons addr rest ih =>
    obtain ⟨different, later⟩ := ne_and_not_mem_of_not_mem_cons unlisted
    rw [dirtySetList, ih _ later, entrySetDirty_entries_of_ne _ _ different]

theorem Coherent.type_of_mem_typeEntries (coherent : self.Coherent klass)
    (listed : addr ∈ self.typeEntries idxType) {entry : NMDedupMultiEntry Obj}
    (entry_eq : self.entries addr = some entry) :
    (self.heads entry.head).map (·.idxType) = some idxType := by
  obtain ⟨head, obj, ⟨dirty, tracked⟩, ⟨lstEntries, len, head_eq⟩⟩ :=
    coherent.mem_typeEntries.mp listed
  cases entry_eq.symm.trans tracked
  rw [head_eq]
  rfl

theorem Coherent.frame_of_typeEntries {before after : NMDedupMultiIndex Obj T}
    (coherent : before.Coherent klass) {idxType other : T} (different : idxType ≠ other)
    (heads_eq : ∀ {addr record}, record.idxType = other →
      (after.heads addr = some record ↔ before.heads addr = some record))
    (unchanged : ∀ addr, addr ∉ before.typeEntries idxType →
      after.entries addr = before.entries addr)
    (same_head : ∀ addr entry, after.entries addr = some entry →
      ∃ old, before.entries addr = some old ∧ entry.head = old.head) :
    Frame other before after := by
  refine ⟨heads_eq, fun {addr entry} owned => ?_⟩
  by_cases listed : addr ∈ before.typeEntries idxType
  · refine iff_of_false (fun entry_eq => ?_) (fun entry_eq => ?_)
    · obtain ⟨old, old_eq, head_same⟩ := same_head addr entry entry_eq
      have old_type := coherent.type_of_mem_typeEntries listed old_eq
      rw [← head_same, owned] at old_type
      exact different (Option.some.inj old_type).symm
    · have entry_type := coherent.type_of_mem_typeEntries listed entry_eq
      rw [owned] at entry_type
      exact different (Option.some.inj entry_type).symm
  · rw [unchanged addr listed]

theorem dirtySetIdx_tracks (marked : T) {head : Nat} :
    (self.dirtySetIdx marked).Tracks addr idxType head obj ↔ self.Tracks addr idxType head obj := by
  rw [dirtySetIdx_eq]
  exact dirtySetList_tracks _

theorem Coherent.dirtySetIdx_frame (coherent : self.Coherent klass) {idxType other : T}
    (different : idxType ≠ other) : Frame other self (self.dirtySetIdx idxType) := by
  rw [dirtySetIdx_eq]
  refine coherent.frame_of_typeEntries different ?_ ?_ ?_
  · intro addr record _
    rw [dirtySetList_heads]
  · intro addr unlisted
    exact dirtySetList_entries_of_notMem self unlisted
  · intro addr entry entry_eq
    have row_eq := dirtySetList_rowAt (self.typeEntries idxType) self addr
    cases old_eq : self.entries addr with
    | none => simp [rowAt, entry_eq, old_eq] at row_eq
    | some old =>
      refine ⟨old, rfl, ?_⟩
      obtain ⟨owner, owner_eq⟩ := coherent.heap.head_live old_eq
      have tracks : self.Tracks addr owner.idxType old.head old.obj :=
        ⟨⟨old.dirty, old_eq⟩, ⟨owner.lstEntries, owner.len, owner_eq⟩⟩
      obtain ⟨dirty, marked_eq⟩ := ((dirtySetList_tracks _).mpr tracks).entry
      cases entry_eq.symm.trans marked_eq
      rfl

/-- The mark of an entry. -/
def dirtyAt (self : NMDedupMultiIndex Obj T) (addr : Nat) : Bool :=
  ((self.entries addr).map (·.dirty)).getD false

theorem Coherent.dirtySetIdx_dirtyAt (coherent : self.Coherent klass) {addr head : Nat}
    (tracks : self.Tracks addr idxType head obj) :
    (self.dirtySetIdx idxType).dirtyAt addr = true := by
  have listed := coherent.mem_typeEntries.mpr ⟨head, obj, tracks⟩
  have row_eq := dirtySetList_rowAt (self.typeEntries idxType) self addr
  obtain ⟨dirty, entry_eq⟩ := tracks.entry
  rw [← dirtySetIdx_eq] at row_eq
  simp only [rowAt, entry_eq, listed, if_true, map_some] at row_eq
  obtain ⟨entry, marked_eq, row⟩ := map_eq_some_iff.mp row_eq
  simp only [dirtyAt, marked_eq, map_some, getD_some]
  exact congrArg Prod.snd row

theorem Coherent.eq_of_sameKey (coherent : self.Coherent klass) {a b headA headB : Nat} {x y : Obj}
    (first : self.Tracks a idxType headA x) (second : self.Tracks b idxType headB y)
    (same : (klass idxType).SameKey x y) : a = b := by
  obtain rfl := (coherent.heap.same_head first second).mp same.1
  exact coherent.heap.unique first second same.2

/-- What adding an object does: the entry at an address gets the key of the object and is clean. -/
structure Refreshes (klass : T → NMDedupMultiIdxTypeClass objClass) (idxType : T) (obj : Obj)
    (before after : NMDedupMultiIndex Obj T) (addr : Nat) : Prop where
  tracks : ∃ head stored, after.Tracks addr idxType head stored ∧ (klass idxType).SameKey obj stored
  /-- If there was an entry before, it had the key of the object as well. -/
  old_key : ∀ {head old}, before.Tracks addr idxType head old → (klass idxType).SameKey obj old
  clean : after.dirtyAt addr = false
  others : ∀ {other head stored}, other ≠ addr →
    (after.Tracks other idxType head stored ↔ before.Tracks other idxType head stored)
  /-- The other entries keep their marks. -/
  marks : ∀ other, other ≠ addr → after.dirtyAt other = before.dirtyAt other
  frame : ∀ {otherType}, idxType ≠ otherType → Frame otherType before after

theorem Coherent.addExisting_refreshes (coherent : self.Coherent klass) {addr head : Nat}
    {obj stored : Obj} (tracks : self.Tracks addr idxType head stored)
    (same : (klass idxType).SameKey obj stored) (mode : NMDedupMultiIdxMode)
    (entryOrder : Option Nat) :
    Refreshes klass idxType obj self (self.addExisting objClass obj addr mode entryOrder).1
      addr := by
  have storable : (klass idxType).partitionable obj = true :=
    partitionable_of_key _ same.symm.1 same.symm.2
      (coherent.heap.storable tracks)
  have new_key : (klass idxType).SameKey obj _ :=
    key_of_fullEqual (klass idxType) storable
      (coherent.interned.keeps_or_intern obj stored)
  obtain ⟨dirty, entry_eq⟩ := tracks.entry
  obtain ⟨lstEntries, len, head_eq⟩ := tracks.head
  have after_eq := self.addExisting_fst objClass obj mode entryOrder entry_eq head_eq
  constructor
  · exact ⟨head, _, (addExisting_tracks objClass obj tracks mode entryOrder).mpr
      (.inr ⟨rfl, rfl, rfl, rfl⟩), new_key⟩
  · intro oldHead old old_tracks
    obtain ⟨-, -, rfl⟩ := old_tracks.unique_head tracks
    exact same
  · rw [after_eq]
    simp [dirtyAt]
  · intro other otherHead otherObj different
    rw [addExisting_tracks objClass obj tracks mode entryOrder]
    simp [different]
  · intro other different
    rw [after_eq]
    simp [dirtyAt, different]
  · intro otherType different
    exact addExisting_frame objClass obj tracks mode entryOrder different

theorem Coherent.addNew_refreshes (coherent : self.Coherent klass)
    (missing : self.lookupObj klass idxType obj = none)
    (storable : (klass idxType).partitionable obj = true) (mode : NMDedupMultiIdxMode)
    (order_valid : self.OrderValid klass idxType obj entryOrder)
    (head_valid : self.HeadValid klass idxType obj headExisting) :
    ∃ addr, Refreshes klass idxType obj self
      (self.addNew klass idxType obj mode entryOrder headExisting).1 addr := by
  obtain ⟨addr, head, out_entry, unused, tracks_iff⟩ :=
    coherent.addNew_tracks missing storable mode order_valid head_valid
  have new_key : (klass idxType).SameKey obj _ :=
    key_of_fullEqual (klass idxType) storable
      (coherent.interned.objIntern obj).2.2
  have rows : (self.addNew klass idxType obj mode entryOrder headExisting).1.dirtyAt addr = false ∧
      ∀ other, other ≠ addr →
        (self.addNew klass idxType obj mode entryOrder headExisting).1.dirtyAt other =
          self.dirtyAt other := by
    rcases coherent.addNew_cases missing storable mode order_valid head_valid with
      ⟨headAddr, record, -, -, -, add_eq⟩ | ⟨-, add_eq⟩
    · rw [add_eq] at out_entry ⊢
      obtain rfl := Option.some.inj out_entry
      refine ⟨by simp [dirtyAt, NMDedupMultiIndex.linkedToHead], fun other different => ?_⟩
      simp [dirtyAt, NMDedupMultiIndex.linkedToHead, different]
    · rw [add_eq] at out_entry ⊢
      obtain rfl := Option.some.inj out_entry
      refine ⟨by simp [dirtyAt, NMDedupMultiIndex.linkedToNewHead], fun other different => ?_⟩
      simp [dirtyAt, NMDedupMultiIndex.linkedToNewHead, different]
  refine ⟨addr, ?_⟩
  constructor
  · exact ⟨head, _, tracks_iff.mpr (.inr ⟨rfl, rfl, rfl, rfl⟩), new_key⟩
  · intro oldHead old old_tracks
    obtain ⟨dirty, entry_eq⟩ := old_tracks.entry
    simp [unused] at entry_eq
  · exact rows.1
  · intro other otherHead otherObj different
    rw [tracks_iff]
    simp [different]
  · exact rows.2
  · intro otherType different
    exact coherent.addNew_frame missing storable mode order_valid head_valid different

/-- `_add` refreshes the entry of a key, unless the index type does not track the object. -/
theorem Coherent.addInternal_refreshes (coherent : self.Coherent klass) (mode : NMDedupMultiIdxMode)
    (order_valid : self.OrderValid klass idxType obj entryOrder)
    (head_valid : self.HeadValid klass idxType obj headExisting) :
    (∃ addr, Refreshes klass idxType obj self
      (self.addInternal klass idxType obj (self.lookupObj klass idxType obj) mode entryOrder
        headExisting).1 addr) ∨
    (klass idxType).partitionable obj = false ∧
      (self.addInternal klass idxType obj (self.lookupObj klass idxType obj) mode entryOrder
        headExisting).1 = self := by
  cases found : self.lookupObj klass idxType obj with
  | some addr =>
    obtain ⟨head, stored, tracks, shared, equal⟩ := coherent.lookupObj_eq_some.mp found
    exact .inl ⟨addr, coherent.addExisting_refreshes tracks ⟨shared, equal⟩ mode entryOrder⟩
  | none =>
    cases storable : (klass idxType).partitionable obj with
    | true => exact .inl (coherent.addNew_refreshes found storable mode order_valid head_valid)
    | false => exact .inr ⟨rfl, by simp [NMDedupMultiIndex.addInternal, addNew, storable]⟩

/-- Since the entries were marked, the objects `added` were added: an entry is clean exactly when
it has the key of one of them, and each of them has an entry. -/
structure Refreshed (klass : T → NMDedupMultiIdxTypeClass objClass) (idxType : T)
    (added : List Obj) (index : NMDedupMultiIndex Obj T) : Prop where
  /-- The clean entries are those with the key of an added object. -/
  clean_iff : ∀ {addr head stored}, index.Tracks addr idxType head stored →
    (index.dirtyAt addr = false ↔ ∃ obj ∈ added, (klass idxType).SameKey obj stored)
  /-- Every added object that can be tracked has an entry. -/
  present : ∀ obj ∈ added, (klass idxType).partitionable obj = true →
    ∃ addr head stored, index.Tracks addr idxType head stored ∧ (klass idxType).SameKey obj stored

theorem Refreshed.of_refreshes {self next : NMDedupMultiIndex Obj T}
    (refreshed : Refreshed klass idxType added self) (after : next.Coherent klass)
    (step : Refreshes klass idxType obj self next addr) :
    Refreshed klass idxType (added ++ [obj]) next := by
  obtain ⟨head, stored, tracks, same⟩ := step.tracks
  constructor
  · intro other otherHead otherObj other_tracks
    by_cases here : other = addr
    · subst here
      obtain ⟨-, -, rfl⟩ := other_tracks.unique_head tracks
      exact iff_of_true step.clean ⟨obj, mem_append_right _ mem_cons_self, same⟩
    · rw [step.marks other here, refreshed.clean_iff ((step.others here).mp other_tracks)]
      constructor
      · rintro ⟨earlier, member, key⟩
        exact ⟨earlier, mem_append_left _ member, key⟩
      · rintro ⟨any, member, key⟩
        rcases mem_append.mp member with member | member
        · exact ⟨any, member, key⟩
        · obtain rfl := mem_singleton.mp member
          exact absurd (after.eq_of_sameKey other_tracks tracks (key.symm.trans same)) here
  · intro any member storable
    rcases mem_append.mp member with member | member
    · obtain ⟨other, otherHead, otherObj, other_tracks, key⟩ :=
        refreshed.present any member storable
      by_cases here : other = addr
      · subst here
        have old_same := step.old_key other_tracks
        exact ⟨other, head, stored, tracks, (key.trans old_same.symm).trans same⟩
      · exact ⟨other, otherHead, otherObj, (step.others here).mpr other_tracks, key⟩
    · obtain rfl := mem_singleton.mp member
      exact ⟨addr, head, stored, tracks, same⟩

/-- Adding an object that the index type does not track changes nothing. -/
theorem Refreshed.of_unstorable (refreshed : Refreshed klass idxType added self)
    (coherent : self.Coherent klass) (unstorable : (klass idxType).partitionable obj = false) :
    Refreshed klass idxType (added ++ [obj]) self := by
  constructor
  · intro addr head stored tracks
    rw [refreshed.clean_iff tracks]
    constructor
    · rintro ⟨any, member, key⟩
      exact ⟨any, mem_append_left _ member, key⟩
    · rintro ⟨any, member, key⟩
      rcases mem_append.mp member with member | member
      · exact ⟨any, member, key⟩
      · obtain rfl := mem_singleton.mp member
        have storable := partitionable_of_key _ key.symm.1 key.symm.2
          (coherent.heap.storable tracks)
        rw [unstorable] at storable
        cases storable
  · intro any member storable
    rcases mem_append.mp member with member | member
    · exact refreshed.present any member storable
    · obtain rfl := mem_singleton.mp member
      rw [unstorable] at storable
      cases storable

/-- What a sweep keeps of a head. -/
def sweptHead (self : NMDedupMultiIndex Obj T) (removeAll : Bool) (headAddr : Nat) :
    Option (NMDedupMultiHeadEntry T) :=
  (self.heads headAddr).bind fun head =>
    let remaining := head.lstEntries.filter fun addr => !self.sweeps removeAll addr
    if remaining = [] then none
    else some { head with lstEntries := remaining, len := remaining.length }

/-- The state after sweeping the lists of some heads. -/
structure SweptHeads (before after : NMDedupMultiIndex Obj T) (removeAll markSurvivorsDirty : Bool)
    (headAddrs : List Nat) : Prop where
  entries_eq : ∀ addr, after.entries addr =
    if addr ∈ headAddrs.flatMap before.headEntries then
      before.sweptEntry removeAll markSurvivorsDirty addr
    else before.entries addr
  /-- The heads keep what remains of their lists. -/
  heads_eq : ∀ addr, after.heads addr =
    if addr ∈ headAddrs then before.sweptHead removeAll addr else before.heads addr

theorem sweptHead_congr (self : NMDedupMultiIndex Obj T) {other : NMDedupMultiIndex Obj T}
    (head_eq : other.heads headAddr = self.heads headAddr)
    (entries_eq : ∀ addr ∈ self.headEntries headAddr, other.entries addr = self.entries addr)
    (removeAll : Bool) :
    other.sweptHead removeAll headAddr = self.sweptHead removeAll headAddr := by
  unfold sweptHead
  rw [head_eq]
  cases found : self.heads headAddr with
  | none => rfl
  | some head =>
    rw [headEntries_eq found] at entries_eq
    have filter_eq : head.lstEntries.filter (fun addr => !other.sweeps removeAll addr) =
        head.lstEntries.filter fun addr => !self.sweeps removeAll addr :=
      filter_congr fun addr member => by
        rw [sweeps_congr self other (entries_eq addr member)]
    simp only [bind_some, filter_eq]

/-- `_remove_head` sweeps one head and counts the entries that it removes. -/
theorem Coherent.removeHeadInternal_sweptHeads (coherent : self.Coherent klass)
    (head_eq : self.heads headAddr = some head) (removeAll markSurvivorsDirty : Bool) :
    SweptHeads self (self.removeHeadInternal klass headAddr removeAll markSurvivorsDirty).1
        removeAll markSurvivorsDirty [headAddr] ∧
      (self.removeHeadInternal klass headAddr removeAll markSurvivorsDirty).2 =
        ((self.headEntries headAddr).filter (self.sweeps removeAll)).length := by
  have swept := coherent.removeHeadInternal_swept head_eq removeAll markSurvivorsDirty
  refine ⟨⟨?_, ?_⟩, ?_⟩
  · intro addr
    rw [swept.entries_eq, flatMap_singleton, headEntries_eq head_eq]
  · intro addr
    rw [swept.heads_eq]
    by_cases same : addr = headAddr
    · subst same
      simp [sweptHead, head_eq]
    · simp [same]
  · rw [headEntries_eq head_eq]
    simp only [NMDedupMultiIndex.removeHeadInternal, head_eq]
    exact (coherent.removeHeadLoop_swept head_eq removeAll markSurvivorsDirty [] _ rfl).2

theorem SweptHeads.untouched {self next : NMDedupMultiIndex Obj T} (coherent : self.Coherent klass)
    {removeAll markSurvivorsDirty : Bool} {headAddr other : Nat}
    (swept : SweptHeads self next removeAll markSurvivorsDirty [headAddr])
    (different : other ≠ headAddr) :
    next.heads other = self.heads other ∧ next.headEntries other = self.headEntries other ∧
      ∀ addr ∈ self.headEntries other, next.entries addr = self.entries addr := by
  have head_eq : next.heads other = self.heads other := by
    rw [swept.heads_eq, if_neg (by simpa using different)]
  refine ⟨head_eq, by rw [headEntries, head_eq, headEntries], fun addr member => ?_⟩
  rw [swept.entries_eq, flatMap_singleton, if_neg fun swept_member => ?_]
  obtain ⟨entry, entry_eq, rfl⟩ := coherent.mem_headEntries.mp member
  obtain ⟨same, same_eq, rfl⟩ := coherent.mem_headEntries.mp swept_member
  cases entry_eq.symm.trans same_eq
  exact different rfl

theorem SweptHeads.cons {self next after : NMDedupMultiIndex Obj T} (coherent : self.Coherent klass)
    {removeAll markSurvivorsDirty : Bool} {rest : List Nat} (not_rest : headAddr ∉ rest)
    (first : SweptHeads self next removeAll markSurvivorsDirty [headAddr])
    (second : SweptHeads next after removeAll markSurvivorsDirty rest) :
    SweptHeads self after removeAll markSurvivorsDirty (headAddr :: rest) := by
  have untouched : ∀ other ∈ rest, _ := fun other member =>
    first.untouched coherent fun same => not_rest (same ▸ member)
  have lists_eq : rest.flatMap next.headEntries = rest.flatMap self.headEntries :=
    flatMap_congr fun other member => (untouched other member).2.1
  constructor
  · intro addr
    rw [second.entries_eq, lists_eq]
    by_cases later : addr ∈ rest.flatMap self.headEntries
    · obtain ⟨other, member, listed⟩ := mem_flatMap.mp later
      have entry_eq := (untouched other member).2.2 addr listed
      have anywhere : addr ∈ (headAddr :: rest).flatMap self.headEntries := by
        rw [flatMap_cons]
        exact mem_append_right _ later
      rw [if_pos later, sweptEntry_congr entry_eq, if_pos anywhere]
    · have split : addr ∈ (headAddr :: rest).flatMap self.headEntries ↔
          addr ∈ [headAddr].flatMap self.headEntries := by
        rw [flatMap_cons, mem_append, flatMap_singleton]
        exact or_iff_left later
      rw [if_neg later, first.entries_eq]
      simp only [split]
  · intro addr
    rw [second.heads_eq]
    by_cases later : addr ∈ rest
    · obtain ⟨head_eq, -, entries_eq⟩ := untouched addr later
      rw [if_pos later, if_pos (mem_cons_of_mem _ later), sweptHead_congr self head_eq entries_eq]
    · have split : addr ∈ headAddr :: rest ↔ addr ∈ [headAddr] := by
        rw [mem_cons, mem_singleton]
        exact or_iff_left later
      rw [if_neg later, first.heads_eq]
      simp only [split]

/-- The loop of `_remove_idx_entry` sweeps the heads and counts the entries that it removes. -/
theorem Coherent.removeIdxLoop_sweptHeads (coherent : self.Coherent klass)
    (removeAll markSurvivorsDirty : Bool) {headAddrs : List Nat} (nodup : headAddrs.Nodup)
    (live : ∀ headAddr ∈ headAddrs, ∃ head, self.heads headAddr = some head) :
    SweptHeads self
        (NMDedupMultiIndex.removeIdxLoop klass removeAll markSurvivorsDirty headAddrs self).1
        removeAll markSurvivorsDirty headAddrs ∧
      (NMDedupMultiIndex.removeIdxLoop klass removeAll markSurvivorsDirty headAddrs self).2 =
        ((headAddrs.flatMap self.headEntries).filter (self.sweeps removeAll)).length := by
  induction headAddrs generalizing self with
  | nil => exact ⟨⟨fun _ => rfl, fun _ => rfl⟩, rfl⟩
  | cons headAddr rest ih =>
    obtain ⟨not_rest, rest_nodup⟩ := nodup_cons.mp nodup
    obtain ⟨⟨head, head_eq⟩, rest_live⟩ := forall_mem_cons.mp live
    obtain ⟨first, first_count⟩ :=
      coherent.removeHeadInternal_sweptHeads head_eq removeAll markSurvivorsDirty
    have next_coherent := coherent.removeHeadInternal headAddr removeAll markSurvivorsDirty
    have untouched : ∀ other ∈ rest, _ := fun other member =>
      first.untouched coherent fun same => not_rest (same ▸ member)
    have next_live : ∀ other ∈ rest, ∃ head,
        (self.removeHeadInternal klass headAddr removeAll markSurvivorsDirty).1.heads other =
          some head := by
      intro other member
      rw [(untouched other member).1]
      exact rest_live other member
    obtain ⟨second, second_count⟩ := ih next_coherent rest_nodup next_live
    refine ⟨first.cons coherent not_rest second, ?_⟩
    have filter_eq : (rest.flatMap (self.removeHeadInternal klass headAddr removeAll
          markSurvivorsDirty).1.headEntries).filter
        ((self.removeHeadInternal klass headAddr removeAll markSurvivorsDirty).1.sweeps
          removeAll) = (rest.flatMap self.headEntries).filter (self.sweeps removeAll) := by
      rw [flatMap_congr fun other member => (untouched other member).2.1]
      refine filter_congr fun addr listed => ?_
      obtain ⟨other, member, in_other⟩ := mem_flatMap.mp listed
      exact sweeps_congr self _ ((untouched other member).2.2 addr in_other) removeAll
    rw [filter_eq] at second_count
    rw [flatMap_cons, filter_append, length_append, ← first_count, ← second_count]
    rfl

/-- `nm_dedup_multi_index_dirty_remove_idx` sweeps the index type. -/
theorem Coherent.dirtyRemoveIdx_swept (coherent : self.Coherent klass) (idxType : T)
    (markSurvivorsDirty : Bool) :
    SweptHeads self (self.dirtyRemoveIdx klass idxType markSurvivorsDirty).1 false
        markSurvivorsDirty (self.idxTypes idxType).lstIdx ∧
      (self.dirtyRemoveIdx klass idxType markSurvivorsDirty).2 =
        ((self.typeEntries idxType).filter self.dirtyAt).length := by
  have live : ∀ headAddr ∈ (self.idxTypes idxType).lstIdx, ∃ head,
      self.heads headAddr = some head := by
    intro headAddr linked
    obtain ⟨head, head_eq, -⟩ := coherent.heap.mem_lstIdx.mp linked
    exact ⟨head, head_eq⟩
  exact coherent.removeIdxLoop_sweptHeads false markSurvivorsDirty
    (coherent.heap.lstIdx_nodup idxType) live

theorem sweptEntry_eq_some {markSurvivorsDirty : Bool} {entry : NMDedupMultiEntry Obj} :
    self.sweptEntry false markSurvivorsDirty addr = some entry ↔
      ∃ old, self.entries addr = some old ∧ old.dirty = false ∧
        entry = { old with dirty := markSurvivorsDirty } := by
  unfold sweptEntry sweeps
  cases entry_eq : self.entries addr with
  | none => simp
  | some old =>
    obtain ⟨obj, dirty, head⟩ := old
    cases dirty with
    | true => simp
    | false =>
      have marked_eq : (if markSurvivorsDirty = true then
          ({ obj := obj, dirty := true, head := head } : NMDedupMultiEntry Obj)
          else { obj := obj, dirty := false, head := head }) =
          { obj := obj, dirty := markSurvivorsDirty, head := head } := by
        cases markSurvivorsDirty <;> rfl
      simp only [map_some, getD_some, Bool.or_self, Bool.false_eq_true,
        if_false, marked_eq, Option.some.injEq]
      constructor
      · rintro rfl
        exact ⟨_, rfl, rfl, rfl⟩
      · rintro ⟨old, rfl, -, rfl⟩
        rfl

theorem Coherent.dirtyRemoveIdx_tracks (coherent : self.Coherent klass) (markSurvivorsDirty : Bool)
    {addr head : Nat} {stored : Obj} :
    (self.dirtyRemoveIdx klass idxType markSurvivorsDirty).1.Tracks addr idxType head stored ↔
      self.Tracks addr idxType head stored ∧ self.dirtyAt addr = false := by
  obtain ⟨swept, -⟩ := coherent.dirtyRemoveIdx_swept idxType markSurvivorsDirty
  constructor
  · rintro ⟨⟨dirty, entry_eq⟩, ⟨lstEntries, len, head_eq⟩⟩
    have old_type : ∃ old, self.heads head = some old ∧ old.idxType = idxType := by
      rw [swept.heads_eq] at head_eq
      by_cases linked : head ∈ (self.idxTypes idxType).lstIdx
      · exact coherent.heap.mem_lstIdx.mp linked
      · rw [if_neg linked] at head_eq
        exact ⟨_, head_eq, rfl⟩
    obtain ⟨⟨ownType, oldEntries, oldLen⟩, old_eq, own⟩ := old_type
    obtain rfl : idxType = ownType := own.symm
    rw [swept.entries_eq] at entry_eq
    by_cases listed : addr ∈ self.typeEntries idxType
    · rw [typeEntries] at listed
      rw [if_pos listed] at entry_eq
      obtain ⟨old, old_entry, clean, same⟩ := sweptEntry_eq_some.mp entry_eq
      obtain ⟨rfl, rfl, rfl⟩ := NMDedupMultiEntry.mk.inj same
      have tracks : self.Tracks addr idxType old.head old.obj :=
        ⟨⟨old.dirty, old_entry⟩, ⟨oldEntries, oldLen, old_eq⟩⟩
      exact ⟨tracks, by simp [dirtyAt, old_entry, clean]⟩
    · rw [typeEntries] at listed
      rw [if_neg listed] at entry_eq
      have tracks : self.Tracks addr idxType head stored :=
        ⟨⟨dirty, entry_eq⟩, ⟨oldEntries, oldLen, old_eq⟩⟩
      exact absurd (coherent.mem_typeEntries.mpr ⟨_, _, tracks⟩) listed
  · rintro ⟨tracks, clean⟩
    have listed := coherent.mem_typeEntries.mpr ⟨_, _, tracks⟩
    obtain ⟨⟨dirty, entry_eq⟩, ⟨lstEntries, len, head_eq⟩⟩ := tracks
    have linked := coherent.heap.mem_lstIdx.mpr ⟨_, head_eq, rfl⟩
    obtain rfl : dirty = false := by simpa [dirtyAt, entry_eq] using clean
    constructor
    · refine ⟨markSurvivorsDirty, ?_⟩
      rw [typeEntries] at listed
      rw [swept.entries_eq, if_pos listed]
      exact sweptEntry_eq_some.mpr ⟨_, entry_eq, rfl, rfl⟩
    · have member := (coherent.heap.mem_lstEntries head_eq).mpr ⟨_, entry_eq, rfl⟩
      have remains : lstEntries.filter (fun other => !self.sweeps false other) ≠ [] :=
        ne_nil_of_mem (mem_filter.mpr ⟨member, by simp [sweeps, entry_eq]⟩)
      have kept_eq : (self.dirtyRemoveIdx klass idxType markSurvivorsDirty).1.heads head =
          some { idxType
                 lstEntries := lstEntries.filter fun other => !self.sweeps false other
                 len := (lstEntries.filter fun other => !self.sweeps false other).length } := by
        rw [swept.heads_eq, if_pos linked, sweptHead, head_eq, bind_some]
        exact if_neg remains
      exact ⟨_, _, kept_eq⟩

theorem Coherent.dirtyRemoveIdx_dirtyAt (coherent : self.Coherent klass) (markSurvivorsDirty : Bool)
    {addr head : Nat} {stored : Obj}
    (tracks : (self.dirtyRemoveIdx klass idxType markSurvivorsDirty).1.Tracks addr idxType head
      stored) :
    (self.dirtyRemoveIdx klass idxType markSurvivorsDirty).1.dirtyAt addr = markSurvivorsDirty := by
  obtain ⟨swept, -⟩ := coherent.dirtyRemoveIdx_swept idxType markSurvivorsDirty
  obtain ⟨old_tracks, -⟩ := (coherent.dirtyRemoveIdx_tracks markSurvivorsDirty).mp tracks
  have listed := coherent.mem_typeEntries.mpr ⟨_, _, old_tracks⟩
  obtain ⟨dirty, entry_eq⟩ := tracks.entry
  have swept_eq := swept.entries_eq addr
  rw [typeEntries] at listed
  rw [if_pos listed, entry_eq] at swept_eq
  obtain ⟨old, -, -, same⟩ := sweptEntry_eq_some.mp swept_eq.symm
  simp only [dirtyAt, entry_eq, map_some, getD_some]
  exact congrArg NMDedupMultiEntry.dirty same

theorem Coherent.dirtyRemoveIdx_frame (coherent : self.Coherent klass) {idxType other : T}
    (different : idxType ≠ other) (markSurvivorsDirty : Bool) :
    Frame other self (self.dirtyRemoveIdx klass idxType markSurvivorsDirty).1 := by
  obtain ⟨swept, -⟩ := coherent.dirtyRemoveIdx_swept idxType markSurvivorsDirty
  refine coherent.frame_of_typeEntries different ?_ ?_ ?_
  · intro addr record record_type
    rw [swept.heads_eq]
    by_cases linked : addr ∈ (self.idxTypes idxType).lstIdx
    · obtain ⟨head, head_eq, head_type⟩ := coherent.heap.mem_lstIdx.mp linked
      have foreign : head.idxType ≠ record.idxType := by
        rw [head_type, record_type]
        exact different
      rw [if_pos linked, sweptHead, head_eq, bind_some]
      refine iff_of_false (fun record_eq => ?_) (fun record_eq => ?_)
      · dsimp only at record_eq
        split at record_eq
        · cases record_eq
        · cases record_eq
          exact foreign rfl
      · cases record_eq
        exact foreign rfl
    · rw [if_neg linked]
  · intro addr unlisted
    rw [swept.entries_eq]
    exact if_neg unlisted
  · intro addr entry entry_eq
    rw [swept.entries_eq] at entry_eq
    split at entry_eq
    · obtain ⟨old, old_eq, -, rfl⟩ := sweptEntry_eq_some.mp entry_eq
      exact ⟨old, old_eq, rfl⟩
    · exact ⟨entry, entry_eq, rfl⟩

/-- The operations of an update: objects are added to the index type, and objects are interned and
released. -/
def AddsTo (idxType : T) : DedupOp Obj T → Prop
  | .add newType _ _ => newType = idxType
  | .addFull newType _ _ _ _ _ => newType = idxType
  | .objIntern _ | .objRelease _ => True
  | _ => False

/-- The object that an operation adds. -/
def addedObj : DedupOp Obj T → Option Obj
  | .add _ obj _ => some obj
  | .addFull _ obj _ _ _ _ => some obj
  | _ => none

theorem Refreshed.congr {self next : NMDedupMultiIndex Obj T}
    (refreshed : Refreshed klass idxType added self) (entries_eq : next.entries = self.entries)
    (heads_eq : next.heads = self.heads) : Refreshed klass idxType added next := by
  have tracks_iff : ∀ {addr head stored}, next.Tracks addr idxType head stored ↔
      self.Tracks addr idxType head stored := by
    intro addr head stored
    rw [tracks_iff_type, tracks_iff_type, entries_eq, heads_eq]
  constructor
  · intro addr head stored tracks
    rw [dirtyAt, entries_eq]
    exact refreshed.clean_iff (tracks_iff.mp tracks)
  · intro obj member storable
    obtain ⟨addr, head, stored, tracks, same⟩ := refreshed.present obj member storable
    exact ⟨addr, head, stored, tracks_iff.mpr tracks, same⟩

theorem Frame.of_eq {self next : NMDedupMultiIndex Obj T} (entries_eq : next.entries = self.entries)
    (heads_eq : next.heads = self.heads) :
    Frame idxType self next :=
  ⟨fun _ => by rw [heads_eq], fun _ => by rw [entries_eq]⟩

theorem Coherent.addInternal_refreshed (coherent : self.Coherent klass)
    (refreshed : Refreshed klass idxType added self) (mode : NMDedupMultiIdxMode)
    (order_valid : self.OrderValid klass idxType obj entryOrder)
    (head_valid : self.HeadValid klass idxType obj headExisting) :
    let next := (self.addInternal klass idxType obj (self.lookupObj klass idxType obj) mode
      entryOrder headExisting).1
    Refreshed klass idxType (added ++ [obj]) next ∧
      ∀ other, idxType ≠ other → Frame other self next := by
  have after := coherent.addInternal mode order_valid head_valid
  rcases coherent.addInternal_refreshes mode order_valid head_valid with
    ⟨addr, step⟩ | ⟨unstorable, same⟩
  · exact ⟨refreshed.of_refreshes after step, fun other different => step.frame different⟩
  · rw [same]
    exact ⟨refreshed.of_unstorable coherent unstorable, fun other _ => Frame.refl other self⟩

theorem Coherent.perform_refreshed (coherent : self.Coherent klass)
    (refreshed : Refreshed klass idxType added self) {op : DedupOp Obj T}
    (callable : self.Callable klass op) (adds : AddsTo idxType op) :
    Refreshed klass idxType (added ++ (addedObj op).toList) (self.perform klass op) ∧
      ∀ other, idxType ≠ other → Frame other self (self.perform klass op) := by
  cases op with
  | add newType obj mode =>
    obtain rfl : idxType = newType := Eq.symm adds
    exact coherent.addInternal_refreshed refreshed mode
      (orderValid_none klass self idxType obj) trivial
  | addFull newType obj mode entryOrder entryExisting headExisting =>
    obtain rfl : idxType = newType := Eq.symm adds
    obtain ⟨order_valid, entry_valid, head_valid⟩ := callable
    simp only [NMDedupMultiIndex.perform]
    rw [addFull_eq_addInternal mode entryOrder headExisting entry_valid]
    exact coherent.addInternal_refreshed refreshed mode order_valid head_valid
  | objIntern obj =>
    have fst_eq := self.objIntern_fst objClass obj
    simp only [NMDedupMultiIndex.perform, addedObj, toList_none, append_nil]
    rw [fst_eq]
    exact ⟨refreshed.congr rfl rfl, fun other _ => Frame.of_eq rfl rfl⟩
  | objRelease obj =>
    simp only [addedObj, toList_none, append_nil]
    exact ⟨refreshed.congr rfl rfl, fun other _ => Frame.of_eq rfl rfl⟩
  | removeEntry node => exact adds.elim
  | removeObj newType obj => exact adds.elim
  | removeHead newType obj => exact adds.elim
  | removeIdx newType => exact adds.elim
  | dirtySetHead newType obj => exact adds.elim
  | dirtySetIdx newType => exact adds.elim
  | dirtyRemoveIdx newType markSurvivorsDirty => exact adds.elim
  | entrySetDirty addr dirty => exact adds.elim
  | entryReorder addr entryOrder orderAfter => exact adds.elim

theorem Coherent.run_refreshed (coherent : self.Coherent klass)
    (refreshed : Refreshed klass idxType added self) {ops : List (DedupOp Obj T)}
    (lawful : (machine klass).Lawful self ops) (adds : ∀ op ∈ ops, AddsTo idxType op) :
    Refreshed klass idxType (added ++ ops.filterMap addedObj) ((machine klass).run self ops) ∧
      ∀ other, idxType ≠ other → Frame other self ((machine klass).run self ops) := by
  induction ops generalizing self added with
  | nil =>
    rw [filterMap_nil, append_nil]
    exact ⟨refreshed, fun other _ => Frame.refl other self⟩
  | cons op ops ih =>
    obtain ⟨op_adds, ops_add⟩ := forall_mem_cons.mp adds
    obtain ⟨step, step_frame⟩ := coherent.perform_refreshed refreshed lawful.1 op_adds
    obtain ⟨later, later_frame⟩ := ih (coherent.perform lawful.1) step lawful.2 ops_add
    have added_eq : (op :: ops).filterMap addedObj =
        (addedObj op).toList ++ ops.filterMap addedObj := by
      rw [filterMap_cons]
      cases addedObj op <;> rfl
    rw [added_eq, ← append_assoc]
    exact ⟨later, fun other different =>
      (step_frame other different).trans (later_frame other different)⟩

/-- Marking an index type, adding objects and sweeping leaves exactly one entry for each key of an
added object that the index type tracks.  The sweep returns the number of the entries that it
removed, the survivors are dirty when this was asked for, and other index types are unchanged. -/
theorem dirtySetIdx_adds_dirtyRemoveIdx (klass : T → NMDedupMultiIdxTypeClass objClass)
    (idxType : T) (markSurvivorsDirty : Bool) {past ops : List (DedupOp Obj T)}
    (past_lawful : (machine klass).Lawful new past)
    (lawful : (machine klass).Lawful (((machine klass).run new past).dirtySetIdx idxType) ops)
    (adds : ∀ op ∈ ops, AddsTo idxType op) :
    let start := (machine klass).run new past
    let updated := (machine klass).run (start.dirtySetIdx idxType) ops
    let result := updated.dirtyRemoveIdx klass idxType markSurvivorsDirty
    (∀ obj ∈ ops.filterMap addedObj, (klass idxType).partitionable obj = true →
      ∃! addr, ∃ head stored, result.1.Tracks addr idxType head stored ∧
        (klass idxType).SameKey obj stored) ∧
    (∀ addr head stored, result.1.Tracks addr idxType head stored →
      ∃ obj ∈ ops.filterMap addedObj, (klass idxType).partitionable obj = true ∧
        (klass idxType).SameKey obj stored) ∧
    (updated.typeEntries idxType).Nodup ∧
    result.2 = ((updated.typeEntries idxType).filter fun addr =>
      addr ∉ result.1.typeEntries idxType).length ∧
    (∀ other, idxType ≠ other → Frame other start result.1) ∧
    ∀ addr ∈ result.1.typeEntries idxType, result.1.dirtyAt addr = markSurvivorsDirty := by
  intro start updated result
  have start_coherent : start.Coherent klass := (coherent_new klass).run past_lawful
  have marks : start.Callable klass (.dirtySetIdx idxType) := trivial
  have marked_coherent : (start.dirtySetIdx idxType).Coherent klass := start_coherent.perform marks
  have updated_coherent : updated.Coherent klass := marked_coherent.run lawful
  have sweeps : updated.Callable klass (.dirtyRemoveIdx idxType markSurvivorsDirty) := trivial
  have result_coherent : result.1.Coherent klass := updated_coherent.perform sweeps
  have marked : Refreshed klass idxType [] (start.dirtySetIdx idxType) := by
    refine ⟨fun {addr head stored} tracks => ?_, fun obj member => nomatch member⟩
    have dirty := start_coherent.dirtySetIdx_dirtyAt ((dirtySetIdx_tracks idxType).mp tracks)
    simp [dirty]
  obtain ⟨refreshed, frame⟩ := marked_coherent.run_refreshed marked lawful adds
  rw [nil_append] at refreshed
  have survives : ∀ {addr head stored}, result.1.Tracks addr idxType head stored ↔
      updated.Tracks addr idxType head stored ∧ updated.dirtyAt addr = false :=
    updated_coherent.dirtyRemoveIdx_tracks markSurvivorsDirty
  refine ⟨?_, ?_, ?_, ?_, ?_, ?_⟩
  · intro obj member storable
    obtain ⟨addr, head, stored, tracks, same⟩ := refreshed.present obj member storable
    have clean := (refreshed.clean_iff tracks).mpr ⟨obj, member, same⟩
    refine ⟨addr, ⟨head, stored, survives.mpr ⟨tracks, clean⟩, same⟩, ?_⟩
    rintro other ⟨otherHead, otherObj, other_tracks, other_same⟩
    exact updated_coherent.eq_of_sameKey (survives.mp other_tracks).1 tracks
      (other_same.symm.trans same)
  · intro addr head stored tracks
    obtain ⟨old_tracks, clean⟩ := survives.mp tracks
    obtain ⟨obj, member, same⟩ := (refreshed.clean_iff old_tracks).mp clean
    have storable := partitionable_of_key _ same.symm.1 same.symm.2
      (updated_coherent.heap.storable old_tracks)
    exact ⟨obj, member, storable, same⟩
  · exact updated_coherent.flatMap_headEntries_nodup (updated_coherent.heap.lstIdx_nodup idxType)
  · obtain ⟨-, count⟩ := updated_coherent.dirtyRemoveIdx_swept idxType markSurvivorsDirty
    rw [count]
    refine congrArg length (filter_congr fun addr listed => ?_)
    obtain ⟨head, stored, tracks⟩ := updated_coherent.mem_typeEntries.mp listed
    have kept_iff : addr ∈ result.1.typeEntries idxType ↔ updated.dirtyAt addr = false := by
      rw [result_coherent.mem_typeEntries]
      constructor
      · rintro ⟨otherHead, otherObj, other_tracks⟩
        exact (survives.mp other_tracks).2
      · exact fun clean => ⟨head, stored, survives.mpr ⟨tracks, clean⟩⟩
    cases dirty : updated.dirtyAt addr <;> simp [kept_iff, dirty]
  · intro other different
    exact ((start_coherent.dirtySetIdx_frame different).trans (frame other different)).trans
      (updated_coherent.dirtyRemoveIdx_frame different markSurvivorsDirty)
  · intro addr listed
    obtain ⟨head, stored, tracks⟩ := result_coherent.mem_typeEntries.mp listed
    exact updated_coherent.dirtyRemoveIdx_dirtyAt markSurvivorsDirty tracks

end NMDedupMultiIndex

open NMDedupMultiIndex in
/-- Of two objects one is replaced by another version and one is dropped. -/
theorem dirtySetIdx_adds_dirtyRemoveIdx_dedup :
    let idxType : DedupIdxType := ⟨20, 3⟩
    let past : List (DedupOp DedupObj DedupIdxType) :=
      [.add idxType ⟨1, 1⟩ .append, .add idxType ⟨2, 2⟩ .append]
    let ops : List (DedupOp DedupObj DedupIdxType) :=
      [.add idxType ⟨2, 3⟩ .prepend, .add idxType ⟨41, 1⟩ .append]
    let updated := (machine dedupIdxTypeClass).run
      (((machine dedupIdxTypeClass).run new past).dirtySetIdx idxType) ops
    let result := updated.dirtyRemoveIdx dedupIdxTypeClass idxType true
    (∃! addr, ∃ head stored, result.1.Tracks addr idxType head stored ∧
      (dedupIdxTypeClass idxType).SameKey ⟨2, 3⟩ stored) ∧
    result.2 = ((updated.typeEntries idxType).filter fun addr =>
      addr ∉ result.1.typeEntries idxType).length ∧ result.2 = 1 := by
  intro idxType past ops updated result
  have adds : ∀ op ∈ ops, AddsTo idxType op := by
    simp [ops, AddsTo]
  have past_lawful : (machine dedupIdxTypeClass).Lawful new past := ⟨trivial, trivial, trivial⟩
  have lawful : (machine dedupIdxTypeClass).Lawful
      (((machine dedupIdxTypeClass).run new past).dirtySetIdx idxType) ops :=
    ⟨trivial, trivial, trivial⟩
  obtain ⟨present, -, -, count, -, -⟩ :=
    dirtySetIdx_adds_dirtyRemoveIdx dedupIdxTypeClass idxType true past_lawful lawful adds
  have removed : result.2 = 1 := by decide +kernel
  exact ⟨present ⟨2, 3⟩ mem_cons_self rfl, count, removed⟩

end NetworkManager
