import Mathlib.Algebra.Group.Nat.Defs
import NetworkManager.Dedup.Index

/-!
# Interned objects with their references

The objects that an index interns are counted references to memory.  An object carries the index
that it is interned in, and the hash table of that index holds its address, without a reference of
its own: the last reference that is dropped takes the object out of the table.

The objects of any number of indices live in one memory.  The addresses of new objects are chosen
by the allocator, which may hand out the address of an object that was freed.  An operation has no
result if an assertion fails or memory that is not allocated is read.
-/

namespace NetworkManager

/-- The virtual functions of the objects of one class, together with the contract of their hash. -/
structure HashedObjClass (V : Type*) extends NMDedupMultiObjClass V where
  objFullHash : V → Nat
  hash_of_fullEqual : ∀ {a b}, objFullEqual a b = true → objFullHash a = objFullHash b

/-- An object: its class, its fields, the index that it is interned in and its references. -/
structure NMDedupMultiObj (I K V : Type*) where
  klass : K
  value : V
  multiIdx : Option I
  refCount : Nat
  deriving DecidableEq, Repr

/-- `NM_OBJ_REF_COUNT_STACKINIT`, the count of an object that is not counted. -/
def refCountStackinit : Nat := 2 ^ 31 - 1

/-- `++` on a `guint`. -/
@[irreducible] def guintSucc (count : Nat) : Nat := (count + 1) % 2 ^ 32

/-- `--` on a `guint`. -/
@[irreducible] def guintPred (count : Nat) : Nat := (count + (2 ^ 32 - 1)) % 2 ^ 32

theorem guintSucc_eq {count : Nat} (small : count ≤ refCountStackinit) :
    guintSucc count = count + 1 := by
  unfold refCountStackinit at small
  unfold guintSucc
  omega

theorem guintPred_eq {count : Nat} (pos : 0 < count) (small : count ≤ refCountStackinit) :
    guintPred count = count - 1 := by
  unfold refCountStackinit at small
  unfold guintPred
  omega

/-- `nm_assert`. -/
def nmAssert.{u} (condition : Prop) [Decidable condition] : Option PUnit.{u + 1} :=
  if condition then some ⟨⟩ else none

theorem nmAssert_eq {condition : Prop} [Decidable condition] (holds : condition) :
    nmAssert condition = some ⟨⟩ :=
  if_pos holds

/-- The memory of the objects, and the hash table of the interned objects of every index. -/
structure ObjStore (I K V : Type*) where
  objs : Nat → Option (NMDedupMultiObj I K V)
  idxObjs : I → List Nat

namespace ObjStore

variable {I K V : Type*}

/-- No objects, and empty indices. -/
def new : ObjStore I K V where
  objs _ := none
  idxObjs _ := []

/-- Write or free the memory of an object. -/
def setObj (self : ObjStore I K V) (addr : Nat) (obj : Option (NMDedupMultiObj I K V)) :
    ObjStore I K V :=
  { self with objs := Function.update self.objs addr obj }

variable (self : ObjStore I K V)

@[simp] theorem setObj_objs_self (addr : Nat) (obj : Option (NMDedupMultiObj I K V)) :
    (self.setObj addr obj).objs addr = obj :=
  Function.update_self ..

theorem setObj_objs_of_ne {addr other : Nat} (ne : other ≠ addr)
    (obj : Option (NMDedupMultiObj I K V)) :
    (self.setObj addr obj).objs other = self.objs other :=
  Function.update_of_ne ne ..

@[simp] theorem setObj_idxObjs (addr : Nat) (obj : Option (NMDedupMultiObj I K V)) :
    (self.setObj addr obj).idxObjs = self.idxObjs := rfl

section Table

variable [DecidableEq I] [DecidableEq K] (classes : K → HashedObjClass V)

/-- Objects of the same class that the class finds fully equal. -/
def fullEqual (a b : NMDedupMultiObj I K V) : Bool :=
  decide (a.klass = b.klass) && (classes a.klass).objFullEqual a.value b.value

/-- `_dict_idx_objs_hash`. -/
def dictIdxObjsHash (obj : NMDedupMultiObj I K V) : Nat :=
  (classes obj.klass).objFullHash obj.value

section

variable (self : ObjStore I K V)

/-- `_dict_idx_objs_equal`. -/
def dictIdxObjsEqual (a b : Nat) : Bool :=
  decide (a = b) ||
    match self.objs a, self.objs b with
    | some objA, some objB => fullEqual classes objA objB
    | _, _ => false

/-- Whether a member of a hash table is stored under the key `addr`.  An interned object does not
change, so that its hash is still the one that it was added with. -/
def hasObjKey (addr member : Nat) : Bool :=
  decide ((self.objs member).map (dictIdxObjsHash classes) =
      (self.objs addr).map (dictIdxObjsHash classes)) &&
    self.dictIdxObjsEqual classes member addr

/-- `g_hash_table_lookup` on `idx_objs`, also `nm_dedup_multi_index_obj_find`. -/
def objFind (index : I) (addr : Nat) : Option Nat :=
  (self.idxObjs index).find? (self.hasObjKey classes addr)

/-- Write the members of a hash table. -/
def setIdxObjs (index : I) (members : List Nat) : ObjStore I K V :=
  { self with idxObjs := Function.update self.idxObjs index members }

/-- `g_hash_table_add` on `idx_objs`: whether there was no such member before. -/
def idxObjsAdd (index : I) (addr : Nat) : ObjStore I K V × Bool :=
  match self.objFind classes index addr with
  | none => (self.setIdxObjs index (self.idxObjs index ++ [addr]), true)
  | some found => (self.setIdxObjs index ((self.idxObjs index).replace found addr), false)

/-- `g_hash_table_remove` on `idx_objs`: whether there was such a member. -/
def idxObjsRemove (index : I) (addr : Nat) : ObjStore I K V × Bool :=
  match self.objFind classes index addr with
  | none => (self, false)
  | some found => (self.setIdxObjs index ((self.idxObjs index).erase found), true)

/-- `nm_dedup_multi_obj_ref`. -/
def objRef (addr : Nat) : Option (ObjStore I K V) := do
  let obj ← self.objs addr
  nmAssert (obj.refCount ≠ refCountStackinit)
  nmAssert (0 < obj.refCount)
  return self.setObj addr (some { obj with refCount := guintSucc obj.refCount })

/-- `nm_dedup_multi_index_obj_release`. -/
def objRelease (index : I) (addr : Nat) : Option (ObjStore I K V) := do
  let obj ← self.objs addr
  nmAssert (self.objFind classes index addr = some addr)
  nmAssert (obj.multiIdx = some index)
  let removed :=
    (self.setObj addr (some { obj with multiIdx := none })).idxObjsRemove classes index addr
  nmAssert (removed.2 = true)
  return removed.1

end

/-- The passes through the label `again` in `nm_dedup_multi_obj_unref`, at most as many as the
first argument says. -/
def objUnrefAgain : Nat → ObjStore I K V → Nat → Option (ObjStore I K V)
  | 0, _, _ => none
  | passes + 1, self, addr => do
      let obj ← self.objs addr
      let refCount := guintPred obj.refCount
      if refCount ≠ 0 then
        return self.setObj addr (some { obj with refCount })
      else
        match obj.multiIdx with
        | some index =>
          -- the object is released with the reference restored
          let restored := self.setObj addr (some { obj with refCount := guintSucc refCount })
          let released ← restored.objRelease classes index addr
          let obj ← released.objs addr
          nmAssert (obj.refCount = 1)
          nmAssert (obj.multiIdx = none)
          objUnrefAgain passes released addr
        | none => return self.setObj addr none

/-- `nm_dedup_multi_obj_unref`.  What the class drops in turn when the object is destroyed counts as
further calls. -/
def objUnref (self : ObjStore I K V) (addr : Option Nat) : Option (ObjStore I K V) :=
  match addr with
  | none => some self
  | some addr => do
      let obj ← self.objs addr
      nmAssert (0 < obj.refCount)
      nmAssert (obj.refCount ≠ refCountStackinit)
      self.objUnrefAgain classes 2 addr

/-- `nm_dedup_multi_obj_needs_clone`. -/
def objNeedsClone (obj : NMDedupMultiObj I K V) : Bool :=
  if obj.multiIdx.isSome || decide (obj.refCount = refCountStackinit) then true
  else if (classes obj.klass).objNeedsClone obj.value then true
  else false

/-- `nm_dedup_multi_obj_clone`, which gets the memory at `cloneAt`. -/
def objClone (self : ObjStore I K V) (obj : NMDedupMultiObj I K V) (cloneAt : Nat) :
    Option (ObjStore I K V) := do
  nmAssert ((self.objs cloneAt).isNone = true)
  return self.setObj cloneAt
    (some { klass := obj.klass, value := (classes obj.klass).objClone obj.value,
            multiIdx := none, refCount := 1 })

/-- `nm_dedup_multi_index_obj_intern`; a clone gets the memory at `cloneAt`. -/
def objIntern (self : ObjStore I K V) (index : I) (addr cloneAt : Nat) :
    Option (ObjStore I K V × Nat) := do
  let obj ← self.objs addr
  if obj.multiIdx = some index then
    nmAssert (self.objFind classes index addr = some addr)
    let self ← self.objRef addr
    return (self, addr)
  else
    let objOld := self.objFind classes index addr
    nmAssert (objOld ≠ some addr)
    match objOld with
    | some old =>
      let oldObj ← self.objs old
      nmAssert (oldObj.multiIdx = some index)
      let self ← self.objRef old
      return (self, old)
    | none =>
      let referenced : Option (ObjStore I K V × Nat) :=
        if objNeedsClone classes obj then
          (self.objClone classes obj cloneAt).map fun self => (self, cloneAt)
        else (self.objRef addr).map fun self => (self, addr)
      let (self, objNew) ← referenced
      let newObj ← self.objs objNew
      nmAssert (newObj.multiIdx = none)
      let added := self.idxObjsAdd classes index objNew
      nmAssert (added.2 = true)
      return (added.1.setObj objNew (some { newObj with multiIdx := some index }), objNew)

end Table

end ObjStore

end NetworkManager
