import Mathlib.Logic.Function.Basic
import NetworkManager.Library.IntrusiveList

/-!
# The multi-index

`NMDedupMultiIndex` tracks immutable objects in the ordered lists of any number of index types.
An index type splits its objects into partitions; each partition has one head, which owns the
list of the partition's entries.  Entries and heads live in one hash table under a combined key.

Entries and heads are addressed through a heap of records.  Intrusive lists are sequences of
addresses, and the hash tables are lists searched with the table's own equality function.
-/

namespace NetworkManager

/-- The virtual functions of the objects in an index. -/
structure NMDedupMultiObjClass (Obj : Type*) where
  /-- Full comparison of two objects, including their minor fields. -/
  objFullEqual : Obj → Obj → Bool
  /-- Objects on the stack, of another index or with private state must be cloned. -/
  objNeedsClone : Obj → Bool
  /-- A heap copy of the object. -/
  objClone : Obj → Obj
  fullEqual_refl : ∀ obj, objFullEqual obj obj = true
  fullEqual_symm : ∀ {a b}, objFullEqual a b = true → objFullEqual b a = true
  fullEqual_trans : ∀ {a b c}, objFullEqual a b = true → objFullEqual b c = true →
    objFullEqual a c = true
  fullEqual_clone : ∀ obj, objFullEqual (objClone obj) obj = true

/-- The virtual functions of an index type, together with the contract of its hash keys. -/
structure NMDedupMultiIdxTypeClass {Obj : Type*} (objClass : NMDedupMultiObjClass Obj) where
  /-- Identity of two objects within one partition. -/
  idxObjIdEqual : Obj → Obj → Bool
  /-- Objects that the index type can track; every object when absent. -/
  idxObjPartitionable : Option (Obj → Bool)
  /-- Objects of the same partition; one single partition when absent. -/
  idxObjPartitionEqual : Option (Obj → Obj → Bool)
  id_refl : ∀ obj, idxObjIdEqual obj obj = true
  id_symm : ∀ {a b}, idxObjIdEqual a b = true → idxObjIdEqual b a = true
  id_trans : ∀ {a b c}, idxObjIdEqual a b = true → idxObjIdEqual b c = true →
    idxObjIdEqual a c = true
  partition_symm : ∀ equal ∈ idxObjPartitionEqual, ∀ {a b}, equal a b = true → equal b a = true
  partition_trans : ∀ equal ∈ idxObjPartitionEqual, ∀ {a b c}, equal a b = true →
    equal b c = true → equal a c = true
  id_of_fullEqual : ∀ {a b}, objClass.objFullEqual a b = true → idxObjIdEqual a b = true
  /-- Fully equal objects share their partition, if they have one. -/
  partition_of_fullEqual : ∀ equal ∈ idxObjPartitionEqual, ∀ {a b},
    (∀ partitionable ∈ idxObjPartitionable, partitionable a = true) →
    objClass.objFullEqual a b = true → equal a b = true
  /-- Being trackable depends on the partition and the identity only. -/
  partitionable_congr : ∀ partitionable ∈ idxObjPartitionable, ∀ {a b},
    (∀ equal ∈ idxObjPartitionEqual, equal a b = true) → idxObjIdEqual a b = true →
    partitionable a = true → partitionable b = true

/-- Whether the index type tracks an object at all. -/
def NMDedupMultiIdxTypeClass.partitionable {Obj : Type*} {objClass : NMDedupMultiObjClass Obj}
    (klass : NMDedupMultiIdxTypeClass objClass) (obj : Obj) : Bool :=
  match klass.idxObjPartitionable with
  | none => true
  | some partitionable => partitionable obj

/-- `nm_dedup_multi_idx_type_id_equal`. -/
def NMDedupMultiIdxTypeClass.idEqual {Obj : Type*} [DecidableEq Obj]
    {objClass : NMDedupMultiObjClass Obj} (klass : NMDedupMultiIdxTypeClass objClass)
    (a b : Obj) : Bool :=
  decide (a = b) || klass.idxObjIdEqual a b

/-- `nm_dedup_multi_idx_type_partition_equal`; the object may be omitted when the index type does
not partition. -/
def NMDedupMultiIdxTypeClass.partitionEqual {Obj : Type*} [DecidableEq Obj]
    {objClass : NMDedupMultiObjClass Obj} (klass : NMDedupMultiIdxTypeClass objClass)
    (a b : Option Obj) : Bool :=
  match klass.idxObjPartitionEqual with
  | none => true
  | some equal =>
    match a, b with
    | some a, some b => decide (a = b) || equal a b
    | _, _ => false

/-- Where an object is placed when it is added. -/
inductive NMDedupMultiIdxMode where
  | prepend
  | prependForce
  | append
  | appendForce
  deriving DecidableEq, Repr

/-- An object tracked in the list of one head. -/
structure NMDedupMultiEntry (Obj : Type*) where
  obj : Obj
  /-- Mark for mark-and-sweep updates. -/
  dirty : Bool
  /-- Address of the head that owns the entry. -/
  head : Nat

/-- The head of one partition of an index type. -/
structure NMDedupMultiHeadEntry (T : Type*) where
  idxType : T
  lstEntries : List Nat
  len : Nat

/-- The mutable part of an index type. -/
structure NMDedupMultiIdxType where
  /-- Addresses of the heads of all partitions, in order. -/
  lstIdx : List Nat
  /-- Number of entries in all partitions. -/
  len : Nat

/-- A member of the table `idx_entries`: the address of an entry or of a head. -/
inductive IdxEntry where
  | entry (addr : Nat)
  | head (addr : Nat)
  deriving DecidableEq, Repr

/-- The key under which entries and heads are looked up. -/
structure LookupEntry (Obj T : Type*) where
  /-- The object; it may be missing in the lookup of a head. -/
  obj : Option Obj
  idxType : T
  lookupHead : Bool

/-- The state of an index. -/
structure NMDedupMultiIndex (Obj T : Type*) where
  entries : Nat → Option (NMDedupMultiEntry Obj)
  heads : Nat → Option (NMDedupMultiHeadEntry T)
  /-- The index types registered with the index. -/
  idxTypes : T → NMDedupMultiIdxType
  /-- The hash table of entries and heads. -/
  idxEntries : List IdxEntry
  /-- The hash table of interned objects. -/
  idxObjs : List Obj
  nextAddr : Nat

/-- The optional argument `entry_existing` or `head_existing`: absent, known to be missing, or an
address. -/
inductive Existing where
  | null
  | missing
  | addr (addr : Nat)
  deriving DecidableEq, Repr

namespace NMDedupMultiIndex

variable {Obj T : Type*} [DecidableEq Obj] [DecidableEq T] {objClass : NMDedupMultiObjClass Obj}

/-- An index without objects, over freshly initialized index types. -/
def new : NMDedupMultiIndex Obj T where
  entries _ := none
  heads _ := none
  idxTypes _ := { lstIdx := [], len := 0 }
  idxEntries := []
  idxObjs := []
  nextAddr := 0

section

variable (self : NMDedupMultiIndex Obj T)

/-- Write an entry record. -/
def setEntry (addr : Nat) (entry : Option (NMDedupMultiEntry Obj)) : NMDedupMultiIndex Obj T :=
  { self with entries := Function.update self.entries addr entry }

/-- Write a head record. -/
def setHead (addr : Nat) (head : Option (NMDedupMultiHeadEntry T)) : NMDedupMultiIndex Obj T :=
  { self with heads := Function.update self.heads addr head }

/-- Write an index type record. -/
def setIdxType (idxType : T) (value : NMDedupMultiIdxType) : NMDedupMultiIndex Obj T :=
  { self with idxTypes := Function.update self.idxTypes idxType value }

/-- The key of a member of `idx_entries`.  The key of a head is that of its first entry. -/
def entryUnpack : IdxEntry → Option (LookupEntry Obj T)
  | .head addr =>
    (self.heads addr).bind fun head =>
      (head.lstEntries.head?.bind self.entries).map fun entry =>
        { obj := some entry.obj, idxType := head.idxType, lookupHead := true }
  | .entry addr =>
    (self.entries addr).bind fun entry =>
      (self.heads entry.head).map fun head =>
        { obj := some entry.obj, idxType := head.idxType, lookupHead := false }

end

/-- Equality of two keys of `idx_entries`. -/
def dictIdxEntriesEqual (klass : T → NMDedupMultiIdxTypeClass objClass)
    (a b : LookupEntry Obj T) : Bool :=
  decide (a.idxType = b.idxType) && decide (a.lookupHead = b.lookupHead) &&
    (klass a.idxType).partitionEqual a.obj b.obj &&
    (a.lookupHead ||
      match a.obj, b.obj with
      | some x, some y => (klass a.idxType).idEqual x y
      | _, _ => false)

section

variable (self : NMDedupMultiIndex Obj T) (klass : T → NMDedupMultiIdxTypeClass objClass)

/-- Whether a member of `idx_entries` is stored under a key. -/
def hasKey (key : LookupEntry Obj T) (node : IdxEntry) : Bool :=
  match self.entryUnpack node with
  | some nodeKey => dictIdxEntriesEqual klass key nodeKey
  | none => false

/-- `g_hash_table_lookup` on `idx_entries`. -/
def idxEntriesLookup (key : LookupEntry Obj T) : Option IdxEntry :=
  self.idxEntries.find? (self.hasKey klass key)

/-- `g_hash_table_add` on `idx_entries`; a member with an equal key is replaced. -/
def idxEntriesAdd (node : IdxEntry) : NMDedupMultiIndex Obj T :=
  match self.entryUnpack node with
  | some key =>
    { self with
      idxEntries := (self.idxEntries.filter fun other => !self.hasKey klass key other) ++ [node] }
  | none => self

/-- `g_hash_table_remove` on `idx_entries`. -/
def idxEntriesRemove (node : IdxEntry) : NMDedupMultiIndex Obj T :=
  match self.entryUnpack node with
  | some key =>
    { self with idxEntries := self.idxEntries.filter fun other => !self.hasKey klass key other }
  | none => self

/-- `_entry_lookup_obj`, also `nm_dedup_multi_index_lookup_obj`. -/
def lookupObj (idxType : T) (obj : Obj) : Option Nat :=
  match self.idxEntriesLookup klass { obj := some obj, idxType, lookupHead := false } with
  | some (.entry addr) => some addr
  | _ => none

/-- `_entry_lookup_head`, also `nm_dedup_multi_index_lookup_head`.  An index type without
partitions has at most one head, which is read off its list. -/
def lookupHead (self : NMDedupMultiIndex Obj T) (klass : T → NMDedupMultiIdxTypeClass objClass)
    (idxType : T) (obj : Option Obj) : Option Nat :=
  match (klass idxType).idxObjPartitionEqual with
  | none => (self.idxTypes idxType).lstIdx.head?
  | some _ =>
    match self.idxEntriesLookup klass { obj, idxType, lookupHead := true } with
    | some (.head addr) => some addr
    | _ => none

/-- `_dict_idx_objs_equal`. -/
def dictIdxObjsEqual (objClass : NMDedupMultiObjClass Obj) (a b : Obj) : Bool :=
  decide (a = b) || objClass.objFullEqual a b

section

variable (self : NMDedupMultiIndex Obj T)

section

variable (objClass : NMDedupMultiObjClass Obj)

/-- `nm_dedup_multi_index_obj_find`. -/
def objFind (obj : Obj) : Option Obj :=
  self.idxObjs.find? (dictIdxObjsEqual objClass obj)

/-- `nm_dedup_multi_index_obj_intern`.  An object belongs to the index (`_multi_idx`) exactly while
it is a member of `idx_objs`. -/
def objIntern (obj : Obj) : NMDedupMultiIndex Obj T × Obj :=
  if obj ∈ self.idxObjs then (self, obj)
  else
    match self.objFind objClass obj with
    | some objOld => (self, objOld)
    | none =>
      let objNew := if objClass.objNeedsClone obj then objClass.objClone obj else obj
      ({ self with idxObjs := self.idxObjs ++ [objNew] }, objNew)

/-- `nm_dedup_multi_index_obj_release`, which runs when the last reference to an object is
dropped. -/
def objRelease (obj : Obj) : NMDedupMultiIndex Obj T :=
  { self with idxObjs := self.idxObjs.erase obj }

/-- `nm_dedup_multi_entry_set_dirty`. -/
def entrySetDirty (addr : Nat) (dirty : Bool) : NMDedupMultiIndex Obj T :=
  match self.entries addr with
  | some entry => self.setEntry addr (some { entry with dirty })
  | none => self

/-- Rewrite the entry list of a head in place. -/
def setLstEntries (addr : Nat) (lstEntries : List Nat) : NMDedupMultiIndex Obj T :=
  match self.heads addr with
  | some head => self.setHead addr (some { head with lstEntries })
  | none => self

/-- The new order of a head's list after an existing entry was added again. -/
def moveForMode (mode : NMDedupMultiIdxMode) (entryOrder : Option Nat) (addr : Nat)
    (lstEntries : List Nat) : List Nat × Bool :=
  match mode with
  | .prependForce =>
    match entryOrder with
    | some order => IntrusiveList.moveBefore (some order) addr lstEntries
    | none => IntrusiveList.moveAfter none addr lstEntries
  | .appendForce =>
    match entryOrder with
    | some order => IntrusiveList.moveAfter (some order) addr lstEntries
    | none => IntrusiveList.moveBefore none addr lstEntries
  | .prepend => (lstEntries, false)
  | .append => (lstEntries, false)

/-- The order of a head's list after a new entry was linked. -/
def linkForMode (mode : NMDedupMultiIdxMode) (entryOrder : Option Nat) (addr : Nat)
    (lstEntries : List Nat) : List Nat :=
  match mode with
  | .prepend | .prependForce =>
    match entryOrder with
    | some order => IntrusiveList.linkBefore (some order) addr lstEntries
    | none => IntrusiveList.linkAfter none addr lstEntries
  | .append | .appendForce =>
    match entryOrder with
    | some order => IntrusiveList.linkAfter (some order) addr lstEntries
    | none => IntrusiveList.linkBefore none addr lstEntries

/-- What `_add` reports. -/
structure AddResult (Obj : Type*) where
  changed : Bool
  outEntry : Option Nat
  outObjOld : Option Obj

/-- The branch of `_add` for an entry that is already tracked. -/
def addExisting (obj : Obj) (addr : Nat) (mode : NMDedupMultiIdxMode) (entryOrder : Option Nat) :
    NMDedupMultiIndex Obj T × AddResult Obj :=
  let self := self.entrySetDirty addr false
  match self.entries addr with
  | none => (self, { changed := false, outEntry := none, outObjOld := none })
  | some entry =>
    let lstEntries := ((self.heads entry.head).map (·.lstEntries)).getD []
    let (lstEntries, changed) := moveForMode mode entryOrder addr lstEntries
    let self := self.setLstEntries entry.head lstEntries
    if obj = entry.obj ∨ objClass.objFullEqual obj entry.obj = true then
      (self, { changed, outEntry := some addr, outObjOld := some entry.obj })
    else
      let (self, objNew) := self.objIntern objClass obj
      (self.setEntry addr (some { entry with obj := objNew }),
        { changed := true, outEntry := some addr, outObjOld := some entry.obj })

end

end

/-- The head for a new entry, allocated and linked when the partition is new. -/
def headForNew (idxType : T) (objNew : Obj) (headExisting : Existing) :
    NMDedupMultiIndex Obj T × Nat × Bool :=
  let found :=
    match headExisting with
    | .null => self.lookupHead klass idxType (some objNew)
    | .missing => none
    | .addr addr => some addr
  match found with
  | some addr => (self, addr, false)
  | none =>
    let addr := self.nextAddr
    let self := { self with nextAddr := addr + 1 }
    let self := self.setHead addr (some { idxType, lstEntries := [], len := 0 })
    let types := self.idxTypes idxType
    (self.setIdxType idxType
      { types with lstIdx := IntrusiveList.linkBefore none addr types.lstIdx }, addr, true)

/-- Allocate an entry and link it into the list of its head. -/
def linkNew (self : NMDedupMultiIndex Obj T) (idxType : T) (objNew : Obj) (headAddr : Nat)
    (mode : NMDedupMultiIdxMode) (entryOrder : Option Nat) : NMDedupMultiIndex Obj T × Nat :=
  let addr := self.nextAddr
  let self := { self with nextAddr := addr + 1 }
  let self := self.setEntry addr (some { obj := objNew, dirty := false, head := headAddr })
  let types := self.idxTypes idxType
  let self := self.setIdxType idxType { types with len := types.len + 1 }
  match self.heads headAddr with
  | some head =>
    (self.setHead headAddr (some { head with
      lstEntries := linkForMode mode entryOrder addr head.lstEntries, len := head.len + 1 }), addr)
  | none => (self, addr)

/-- The branch of `_add` for an object that is not tracked yet. -/
def addNew (idxType : T) (obj : Obj) (mode : NMDedupMultiIdxMode) (entryOrder : Option Nat)
    (headExisting : Existing) : NMDedupMultiIndex Obj T × AddResult Obj :=
  if (klass idxType).partitionable obj = false then
    (self, { changed := false, outEntry := none, outObjOld := none })
  else
    let (self, objNew) := self.objIntern objClass obj
    let (self, headAddr, addHeadEntry) := self.headForNew klass idxType objNew headExisting
    let (self, addr) := self.linkNew idxType objNew headAddr mode entryOrder
    let self := if addHeadEntry then self.idxEntriesAdd klass (.head headAddr) else self
    (self.idxEntriesAdd klass (.entry addr),
      { changed := true, outEntry := some addr, outObjOld := none })

/-- `_add`. -/
def addInternal (idxType : T) (obj : Obj) (entry : Option Nat) (mode : NMDedupMultiIdxMode)
    (entryOrder : Option Nat) (headExisting : Existing) :
    NMDedupMultiIndex Obj T × AddResult Obj :=
  match entry with
  | some addr => self.addExisting objClass obj addr mode entryOrder
  | none => self.addNew klass idxType obj mode entryOrder headExisting

/-- `nm_dedup_multi_index_add`. -/
def add (idxType : T) (obj : Obj) (mode : NMDedupMultiIdxMode) :
    NMDedupMultiIndex Obj T × AddResult Obj :=
  self.addInternal klass idxType obj (self.lookupObj klass idxType obj) mode none .null

/-- `nm_dedup_multi_index_add_full`. -/
def addFull (idxType : T) (obj : Obj) (mode : NMDedupMultiIdxMode) (entryOrder : Option Nat)
    (entryExisting headExisting : Existing) : NMDedupMultiIndex Obj T × AddResult Obj :=
  let entry :=
    match entryExisting with
    | .null => self.lookupObj klass idxType obj
    | .missing => none
    | .addr addr => some addr
  self.addInternal klass idxType obj entry mode entryOrder headExisting

/-- `_remove_entry`, with `out_head_entry_removed`.  The total of the index type is decremented only
while the head survives. -/
def removeEntryInternal (addr : Nat) : NMDedupMultiIndex Obj T × Bool :=
  match self.entries addr with
  | none => (self, false)
  | some entry =>
    match self.heads entry.head with
    | none => (self, false)
    | some head =>
      let len := head.len - 1
      let self := self.setHead entry.head (some { head with len })
      if 0 < len then
        let types := self.idxTypes head.idxType
        let self := self.setIdxType head.idxType { types with len := types.len - 1 }
        let self := self.idxEntriesRemove klass (.entry addr)
        let self := self.setLstEntries entry.head (head.lstEntries.erase addr)
        (self.setEntry addr none, false)
      else
        let self := self.idxEntriesRemove klass (.entry addr)
        let self := self.idxEntriesRemove klass (.head entry.head)
        let self := self.setEntry addr none
        let types := self.idxTypes head.idxType
        let self := self.setIdxType head.idxType
          { types with lstIdx := types.lstIdx.erase entry.head }
        (self.setHead entry.head none, true)

end

/-- The loop of `_remove_head` over the entries that were linked when it started. -/
def removeHeadLoop (klass : T → NMDedupMultiIdxTypeClass objClass)
    (removeAll markSurvivorsDirty : Bool) :
    List Nat → NMDedupMultiIndex Obj T → NMDedupMultiIndex Obj T × Nat
  | [], self => (self, 0)
  | addr :: rest, self =>
    if removeAll || ((self.entries addr).map (·.dirty)).getD false then
      let (self, headEntryRemoved) := self.removeEntryInternal klass addr
      if headEntryRemoved then (self, 1)
      else
        let (self, n) := removeHeadLoop klass removeAll markSurvivorsDirty rest self
        (self, n + 1)
    else
      let self := if markSurvivorsDirty then self.entrySetDirty addr true else self
      removeHeadLoop klass removeAll markSurvivorsDirty rest self

/-- `_remove_head`. -/
def removeHeadInternal (self : NMDedupMultiIndex Obj T)
    (klass : T → NMDedupMultiIdxTypeClass objClass) (addr : Nat)
    (removeAll markSurvivorsDirty : Bool) : NMDedupMultiIndex Obj T × Nat :=
  match self.heads addr with
  | some head => removeHeadLoop klass removeAll markSurvivorsDirty head.lstEntries self
  | none => (self, 0)

/-- The loop of `_remove_idx_entry` over the heads that were linked when it started. -/
def removeIdxLoop (klass : T → NMDedupMultiIdxTypeClass objClass)
    (removeAll markSurvivorsDirty : Bool) :
    List Nat → NMDedupMultiIndex Obj T → NMDedupMultiIndex Obj T × Nat
  | [], self => (self, 0)
  | addr :: rest, self =>
    let (self, n) := self.removeHeadInternal klass addr removeAll markSurvivorsDirty
    let (self, m) := removeIdxLoop klass removeAll markSurvivorsDirty rest self
    (self, n + m)

section

variable (self : NMDedupMultiIndex Obj T) (klass : T → NMDedupMultiIdxTypeClass objClass)

/-- `_remove_idx_entry`. -/
def removeIdxEntry (idxType : T) (removeAll markSurvivorsDirty : Bool) :
    NMDedupMultiIndex Obj T × Nat :=
  removeIdxLoop klass removeAll markSurvivorsDirty (self.idxTypes idxType).lstIdx self

/-- `nm_dedup_multi_index_remove_entry`, which accepts entries and heads. -/
def removeEntry : IdxEntry → NMDedupMultiIndex Obj T × Nat
  | .entry addr => ((self.removeEntryInternal klass addr).1, 1)
  | .head addr => self.removeHeadInternal klass addr true false

/-- `nm_dedup_multi_index_remove_obj`. -/
def removeObj (idxType : T) (obj : Obj) : NMDedupMultiIndex Obj T × Nat × Option Obj :=
  match self.lookupObj klass idxType obj with
  | none => (self, 0, none)
  | some addr =>
    ((self.removeEntryInternal klass addr).1, 1, (self.entries addr).map (·.obj))

/-- `nm_dedup_multi_index_remove_head`. -/
def removeHead (idxType : T) (obj : Option Obj) : NMDedupMultiIndex Obj T × Nat :=
  match self.lookupHead klass idxType obj with
  | some addr => self.removeHeadInternal klass addr true false
  | none => (self, 0)

/-- `nm_dedup_multi_index_remove_idx`. -/
def removeIdx (idxType : T) : NMDedupMultiIndex Obj T × Nat :=
  self.removeIdxEntry klass idxType true false

end

def dirtySetList : List Nat → NMDedupMultiIndex Obj T → NMDedupMultiIndex Obj T
  | [], self => self
  | addr :: rest, self => dirtySetList rest (self.entrySetDirty addr true)

section

variable (self : NMDedupMultiIndex Obj T)

/-- Mark every entry of a head dirty. -/
def dirtySetHeadAddr (addr : Nat) : NMDedupMultiIndex Obj T :=
  match self.heads addr with
  | some head => dirtySetList head.lstEntries self
  | none => self

/-- `nm_dedup_multi_index_dirty_set_head`. -/
def dirtySetHead (klass : T → NMDedupMultiIdxTypeClass objClass) (idxType : T) (obj : Option Obj) :
    NMDedupMultiIndex Obj T :=
  match self.lookupHead klass idxType obj with
  | some addr => self.dirtySetHeadAddr addr
  | none => self

/-- `nm_dedup_multi_index_dirty_set_idx`. -/
def dirtySetIdx (idxType : T) : NMDedupMultiIndex Obj T :=
  (self.idxTypes idxType).lstIdx.foldl dirtySetHeadAddr self

/-- `nm_dedup_multi_index_dirty_remove_idx`. -/
def dirtyRemoveIdx (klass : T → NMDedupMultiIdxTypeClass objClass) (idxType : T)
    (markSurvivorsDirty : Bool) :
    NMDedupMultiIndex Obj T × Nat :=
  self.removeIdxEntry klass idxType false markSurvivorsDirty

/-- The new list of `nm_dedup_multi_entry_reorder`. -/
def reorderList (addr : Nat) (entryOrder : Option Nat) (orderAfter : Bool)
    (lstEntries : List Nat) : List Nat × Bool :=
  match entryOrder, orderAfter with
  | none, true => IntrusiveList.moveBefore none addr lstEntries
  | none, false => IntrusiveList.moveAfter none addr lstEntries
  | some order, true => IntrusiveList.moveAfter (some order) addr lstEntries
  | some order, false => IntrusiveList.moveBefore (some order) addr lstEntries

/-- `nm_dedup_multi_entry_reorder`. -/
def entryReorder (addr : Nat) (entryOrder : Option Nat) (orderAfter : Bool) :
    NMDedupMultiIndex Obj T × Bool :=
  match self.entries addr with
  | none => (self, false)
  | some entry =>
    let lstEntries := ((self.heads entry.head).map (·.lstEntries)).getD []
    let (lstEntries, changed) := reorderList addr entryOrder orderAfter lstEntries
    (self.setLstEntries entry.head lstEntries, changed)

end

end NMDedupMultiIndex

end NetworkManager
