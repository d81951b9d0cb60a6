import NetworkManager.Dedup.ObjStore

/-!
# The invariant of interned objects

The members of the hash table of an index are exactly the objects that carry the back pointer to
it, and no two of them are fully equal.  Every operation is one of four changes of the store: an
object is counted anew, memory outside of all tables is written, a member is withdrawn from its
table, and an object enters a table.
-/

namespace NetworkManager.ObjStore

open Function List Option

variable {I K V : Type*} [DecidableEq K] {classes : K → HashedObjClass V}

theorem fullEqual_refl (classes : K → HashedObjClass V) (obj : NMDedupMultiObj I K V) :
    fullEqual classes obj obj = true := by
  simp [fullEqual, (classes obj.klass).fullEqual_refl]

theorem fullEqual_iff {a b : NMDedupMultiObj I K V} :
    fullEqual classes a b = true ↔
      a.klass = b.klass ∧ (classes a.klass).objFullEqual a.value b.value = true := by
  simp [fullEqual]

theorem fullEqual_symm {a b : NMDedupMultiObj I K V} (equal : fullEqual classes a b = true) :
    fullEqual classes b a = true := by
  obtain ⟨klass_eq, value_eq⟩ := fullEqual_iff.mp equal
  refine fullEqual_iff.mpr ⟨klass_eq.symm, ?_⟩
  rw [← klass_eq]
  exact (classes a.klass).fullEqual_symm value_eq

theorem fullEqual_trans {a b c : NMDedupMultiObj I K V} (first : fullEqual classes a b = true)
    (second : fullEqual classes b c = true) : fullEqual classes a c = true := by
  obtain ⟨klass_eq, value_eq⟩ := fullEqual_iff.mp first
  obtain ⟨klass_eq', value_eq'⟩ := fullEqual_iff.mp second
  rw [← klass_eq] at value_eq'
  exact fullEqual_iff.mpr
    ⟨klass_eq.trans klass_eq', (classes a.klass).fullEqual_trans value_eq value_eq'⟩

theorem dictIdxObjsHash_eq {a b : NMDedupMultiObj I K V} (equal : fullEqual classes a b = true) :
    dictIdxObjsHash classes a = dictIdxObjsHash classes b := by
  obtain ⟨klass_eq, value_eq⟩ := fullEqual_iff.mp equal
  unfold dictIdxObjsHash
  rw [← klass_eq]
  exact (classes a.klass).hash_of_fullEqual value_eq

theorem fullEqual_congr {a a' b b' : NMDedupMultiObj I K V} (klass_a : a'.klass = a.klass)
    (value_a : a'.value = a.value) (klass_b : b'.klass = b.klass) (value_b : b'.value = b.value) :
    fullEqual classes a' b' = fullEqual classes a b := by
  unfold fullEqual
  rw [klass_a, value_a, klass_b, value_b]

/-- The keys of a hash table are told apart by full equality alone. -/
theorem hasObjKey_iff {self : ObjStore I K V} {addr member : Nat} {obj : NMDedupMultiObj I K V}
    (obj_eq : self.objs addr = some obj) :
    self.hasObjKey classes addr member = true ↔
      ∃ other, self.objs member = some other ∧ fullEqual classes other obj = true := by
  unfold hasObjKey dictIdxObjsEqual
  rw [Bool.and_eq_true, Bool.or_eq_true, decide_eq_true_eq, decide_eq_true_eq, obj_eq]
  constructor
  · rintro ⟨-, same | equal⟩
    · rw [same]
      exact ⟨obj, obj_eq, fullEqual_refl classes obj⟩
    · cases other_eq : self.objs member with
      | none => simp [other_eq] at equal
      | some other =>
        rw [other_eq] at equal
        exact ⟨other, rfl, equal⟩
  · rintro ⟨other, other_eq, equal⟩
    rw [other_eq]
    exact ⟨congrArg some (dictIdxObjsHash_eq equal), Or.inr equal⟩

theorem objFind_setObj {self : ObjStore I K V} {addr : Nat} {obj new : NMDedupMultiObj I K V}
    (obj_eq : self.objs addr = some obj) (klass_eq : new.klass = obj.klass)
    (value_eq : new.value = obj.value) (index : I) (key : Nat) {keyObj : NMDedupMultiObj I K V}
    (key_eq : self.objs key = some keyObj) :
    (self.setObj addr (some new)).objFind classes index key = self.objFind classes index key := by
  have same_content : ∀ {other : Nat} {otherObj : NMDedupMultiObj I K V},
      self.objs other = some otherObj → ∃ otherNew,
        (self.setObj addr (some new)).objs other = some otherNew ∧
          otherNew.klass = otherObj.klass ∧ otherNew.value = otherObj.value := by
    intro other otherObj other_eq
    by_cases same : other = addr
    · rw [same, obj_eq] at other_eq
      cases other_eq
      rw [same]
      exact ⟨new, setObj_objs_self .., klass_eq, value_eq⟩
    · exact ⟨otherObj, by rw [setObj_objs_of_ne self same, other_eq], rfl, rfl⟩
  obtain ⟨keyNew, keyNew_eq, key_klass, key_value⟩ := same_content key_eq
  have same_key : (self.setObj addr (some new)).hasObjKey classes key =
      self.hasObjKey classes key := by
    funext member
    rw [Bool.eq_iff_iff, hasObjKey_iff keyNew_eq, hasObjKey_iff key_eq]
    cases member_eq : self.objs member with
    | none =>
      have member_ne : member ≠ addr := by
        rintro rfl
        rw [obj_eq] at member_eq
        exact some_ne_none obj member_eq
      rw [setObj_objs_of_ne self member_ne, member_eq]
      simp
    | some memberObj =>
      obtain ⟨memberNew, memberNew_eq, klass, value⟩ := same_content member_eq
      rw [memberNew_eq]
      simp only [Option.some.injEq, exists_eq_left']
      rw [fullEqual_congr klass value key_klass key_value]
  unfold objFind
  rw [same_key, setObj_idxObjs]

section Changes

variable [DecidableEq I]

omit [DecidableEq K]

/-- Take a member out of its table and write or free its memory. -/
def withdraw (self : ObjStore I K V) (index : I) (addr : Nat)
    (new : Option (NMDedupMultiObj I K V)) : ObjStore I K V :=
  (self.setObj addr new).setIdxObjs index ((self.idxObjs index).erase addr)

/-- Put an object into a table. -/
def enter (self : ObjStore I K V) (index : I) (addr : Nat) (obj : NMDedupMultiObj I K V) :
    ObjStore I K V :=
  (self.setIdxObjs index (self.idxObjs index ++ [addr])).setObj addr
    (some { obj with multiIdx := some index })

section

variable (self : ObjStore I K V)

include self

@[simp] theorem withdraw_objs (index : I) (addr : Nat) (new : Option (NMDedupMultiObj I K V)) :
    (self.withdraw index addr new).objs = (self.setObj addr new).objs := rfl

@[simp] theorem withdraw_idxObjs (index : I) (addr : Nat) (new : Option (NMDedupMultiObj I K V)) :
    (self.withdraw index addr new).idxObjs =
      Function.update self.idxObjs index ((self.idxObjs index).erase addr) := rfl

@[simp] theorem enter_idxObjs (index : I) (addr : Nat) (obj : NMDedupMultiObj I K V) :
    (self.enter index addr obj).idxObjs =
      Function.update self.idxObjs index (self.idxObjs index ++ [addr]) := rfl

@[simp] theorem enter_objs_self (index : I) (addr : Nat) (obj : NMDedupMultiObj I K V) :
    (self.enter index addr obj).objs addr = some { obj with multiIdx := some index } :=
  setObj_objs_self ..

theorem enter_objs_of_ne (index : I) {addr other : Nat} (ne : other ≠ addr)
    (obj : NMDedupMultiObj I K V) :
    (self.enter index addr obj).objs other = self.objs other :=
  setObj_objs_of_ne _ ne _

end

end Changes

/-- The hash tables, the back pointers and the reference counts agree. -/
structure Coherent (classes : K → HashedObjClass V) (store : ObjStore I K V) : Prop where
  /-- The members of a table are the objects with the back pointer to its index. -/
  mem_iff : ∀ index addr, addr ∈ store.idxObjs index ↔
    ∃ obj, store.objs addr = some obj ∧ obj.multiIdx = some index
  /-- Fully equal members of a table are the same object. -/
  distinct : ∀ {index a b objA objB}, store.objs a = some objA → store.objs b = some objB →
    objA.multiIdx = some index → objB.multiIdx = some index →
    fullEqual classes objA objB = true → a = b
  nodup : ∀ index, (store.idxObjs index).Nodup
  /-- Every object in memory has references. -/
  counted : ∀ {addr obj}, store.objs addr = some obj →
    0 < obj.refCount ∧ obj.refCount ≤ refCountStackinit

theorem coherent_new (classes : K → HashedObjClass V) :
    (new : ObjStore I K V).Coherent classes := by
  constructor <;> simp [new]

namespace Coherent

variable {self : ObjStore I K V} {index : I} {obj : NMDedupMultiObj I K V}
  {new : Option (NMDedupMultiObj I K V)} {addr : Nat}

section

variable (coherent : self.Coherent classes)

include coherent

theorem mem (obj_eq : self.objs addr = some obj) (interned : obj.multiIdx = some index) :
    addr ∈ self.idxObjs index :=
  (coherent.mem_iff index addr).mpr ⟨obj, obj_eq, interned⟩

theorem objFind_eq_some {addr found : Nat} {obj foundObj : NMDedupMultiObj I K V}
    (obj_eq : self.objs addr = some obj) (found_eq : self.objs found = some foundObj)
    (interned : foundObj.multiIdx = some index) (equal : fullEqual classes foundObj obj = true) :
    self.objFind classes index addr = some found := by
  cases find_eq : self.objFind classes index addr with
  | none =>
    have unmatched := find?_eq_none.mp find_eq found (coherent.mem found_eq interned)
    exact absurd ((hasObjKey_iff obj_eq).mpr ⟨foundObj, found_eq, equal⟩) unmatched
  | some other =>
    obtain ⟨otherObj, other_eq, other_equal⟩ :=
      (hasObjKey_iff obj_eq).mp (find?_some find_eq)
    obtain ⟨otherObj', other_eq', other_interned⟩ :=
      (coherent.mem_iff index other).mp (List.mem_of_find?_eq_some find_eq)
    rw [other_eq] at other_eq'
    cases other_eq'
    rw [coherent.distinct other_eq found_eq other_interned interned
      (fullEqual_trans other_equal (fullEqual_symm equal))]

theorem of_objFind {addr found : Nat} (obj_eq : self.objs addr = some obj)
    (find_eq : self.objFind classes index addr = some found) :
    ∃ foundObj, self.objs found = some foundObj ∧ foundObj.multiIdx = some index ∧
      fullEqual classes foundObj obj = true := by
  obtain ⟨foundObj, found_eq, equal⟩ := (hasObjKey_iff obj_eq).mp (find?_some find_eq)
  obtain ⟨foundObj', found_eq', interned⟩ :=
    (coherent.mem_iff index found).mp (List.mem_of_find?_eq_some find_eq)
  rw [found_eq] at found_eq'
  cases found_eq'
  exact ⟨foundObj, found_eq, interned, equal⟩

theorem not_fullEqual {addr other : Nat} {obj otherObj : NMDedupMultiObj I K V}
    (obj_eq : self.objs addr = some obj) (find_eq : self.objFind classes index addr = none)
    (other_eq : self.objs other = some otherObj) (interned : otherObj.multiIdx = some index) :
    fullEqual classes otherObj obj = false := by
  refine Bool.eq_false_iff.mpr fun equal => ?_
  rw [coherent.objFind_eq_some obj_eq other_eq interned equal] at find_eq
  exact some_ne_none other find_eq

end

/-- Memory that may be written outside of all tables: an object that is not interned, or none. -/
def Loose (obj : Option (NMDedupMultiObj I K V)) : Prop :=
  ∀ content, obj = some content →
    content.multiIdx = none ∧ 0 < content.refCount ∧ content.refCount ≤ refCountStackinit

omit [DecidableEq K] in
theorem objs_of_loose {addr other : Nat} (loose : Loose new) {otherObj : NMDedupMultiObj I K V}
    (other_eq : (self.setObj addr new).objs other = some otherObj)
    (interned : otherObj.multiIdx = some index) :
    other ≠ addr ∧ self.objs other = some otherObj := by
  by_cases same : other = addr
  · rw [same, setObj_objs_self] at other_eq
    rw [(loose _ other_eq).1] at interned
    exact absurd interned.symm (some_ne_none index)
  · rw [setObj_objs_of_ne self same] at other_eq
    exact ⟨same, other_eq⟩

theorem counted_of_loose (coherent : self.Coherent classes) {addr other : Nat} (loose : Loose new)
    {otherObj : NMDedupMultiObj I K V}
    (other_eq : (self.setObj addr new).objs other = some otherObj) :
    0 < otherObj.refCount ∧ otherObj.refCount ≤ refCountStackinit := by
  by_cases same : other = addr
  · rw [same, setObj_objs_self] at other_eq
    exact (loose _ other_eq).2
  · rw [setObj_objs_of_ne self same] at other_eq
    exact coherent.counted other_eq

theorem recounted (coherent : self.Coherent classes) {addr count : Nat}
    (obj_eq : self.objs addr = some obj) (pos : 0 < count) (small : count ≤ refCountStackinit) :
    (self.setObj addr (some { obj with refCount := count })).Coherent classes := by
  -- every object of the new store has its class, its fields and its back pointer from before
  have before : ∀ {other : Nat} {otherObj : NMDedupMultiObj I K V},
      (self.setObj addr (some { obj with refCount := count })).objs other = some otherObj →
        ∃ old, self.objs other = some old ∧ old.klass = otherObj.klass ∧
          old.value = otherObj.value ∧ old.multiIdx = otherObj.multiIdx ∧
          0 < otherObj.refCount ∧ otherObj.refCount ≤ refCountStackinit := by
    intro other otherObj other_eq
    by_cases same : other = addr
    · rw [same, setObj_objs_self] at other_eq
      cases other_eq
      rw [same]
      exact ⟨obj, obj_eq, rfl, rfl, rfl, pos, small⟩
    · rw [setObj_objs_of_ne self same] at other_eq
      exact ⟨otherObj, other_eq, rfl, rfl, rfl, coherent.counted other_eq⟩
  refine ⟨?_, ?_, coherent.nodup, ?_⟩
  · intro index other
    rw [setObj_idxObjs, coherent.mem_iff]
    constructor
    · rintro ⟨old, old_eq, interned⟩
      by_cases same : other = addr
      · rw [same, obj_eq] at old_eq
        cases old_eq
        rw [same]
        exact ⟨_, setObj_objs_self .., interned⟩
      · exact ⟨old, by rw [setObj_objs_of_ne self same, old_eq], interned⟩
    · rintro ⟨otherObj, other_eq, interned⟩
      obtain ⟨old, old_eq, -, -, multiIdx_eq, -⟩ := before other_eq
      exact ⟨old, old_eq, multiIdx_eq.trans interned⟩
  · intro index a b objA objB a_eq b_eq a_interned b_interned equal
    obtain ⟨oldA, oldA_eq, klassA, valueA, multiIdxA, -⟩ := before a_eq
    obtain ⟨oldB, oldB_eq, klassB, valueB, multiIdxB, -⟩ := before b_eq
    refine coherent.distinct oldA_eq oldB_eq (multiIdxA.trans a_interned)
      (multiIdxB.trans b_interned) ?_
    rw [fullEqual_congr klassA valueA klassB valueB]
    exact equal
  · intro other otherObj other_eq
    obtain ⟨_, -, -, -, -, counted⟩ := before other_eq
    exact counted

theorem overwritten (coherent : self.Coherent classes)
    (outside : ∀ {obj}, self.objs addr = some obj → obj.multiIdx = none) (loose : Loose new) :
    (self.setObj addr new).Coherent classes := by
  refine ⟨?_, ?_, coherent.nodup, ?_⟩
  · intro index other
    rw [setObj_idxObjs, coherent.mem_iff]
    constructor
    · rintro ⟨old, old_eq, interned⟩
      have ne : other ≠ addr := by
        rintro rfl
        rw [outside old_eq] at interned
        exact absurd interned.symm (some_ne_none index)
      exact ⟨old, by rw [setObj_objs_of_ne self ne, old_eq], interned⟩
    · rintro ⟨otherObj, other_eq, interned⟩
      exact ⟨otherObj, (objs_of_loose loose other_eq interned).2, interned⟩
  · intro index a b objA objB a_eq b_eq a_interned b_interned equal
    exact coherent.distinct (objs_of_loose loose a_eq a_interned).2
      (objs_of_loose loose b_eq b_interned).2 a_interned b_interned equal
  · intro other otherObj other_eq
    exact coherent.counted_of_loose loose other_eq

variable [DecidableEq I]

theorem withdrawn (coherent : self.Coherent classes) (obj_eq : self.objs addr = some obj)
    (interned : obj.multiIdx = some index) (loose : Loose new) :
    (self.withdraw index addr new).Coherent classes := by
  have mem_iff : ∀ otherIndex other,
      other ∈ update self.idxObjs index ((self.idxObjs index).erase addr) otherIndex ↔
        other ≠ addr ∧ other ∈ self.idxObjs otherIndex := by
    intro otherIndex other
    by_cases same : otherIndex = index
    · rw [same, update_self, (coherent.nodup index).mem_erase_iff]
    · rw [update_of_ne same]
      refine ⟨fun member => ⟨?_, member⟩, And.right⟩
      rintro rfl
      obtain ⟨obj', obj_eq', other_interned⟩ := (coherent.mem_iff otherIndex other).mp member
      rw [obj_eq] at obj_eq'
      cases obj_eq'
      rw [interned] at other_interned
      exact same (Option.some.inj other_interned).symm
  refine ⟨?_, ?_, ?_, ?_⟩
  · intro otherIndex other
    rw [withdraw_objs, withdraw_idxObjs, mem_iff, coherent.mem_iff]
    constructor
    · rintro ⟨ne, old, old_eq, old_interned⟩
      exact ⟨old, by rw [setObj_objs_of_ne self ne, old_eq], old_interned⟩
    · rintro ⟨otherObj, other_eq, other_interned⟩
      obtain ⟨ne, old_eq⟩ := objs_of_loose loose other_eq other_interned
      exact ⟨ne, otherObj, old_eq, other_interned⟩
  · intro otherIndex a b objA objB a_eq b_eq a_interned b_interned equal
    exact coherent.distinct (objs_of_loose loose a_eq a_interned).2
      (objs_of_loose loose b_eq b_interned).2 a_interned b_interned equal
  · intro otherIndex
    by_cases same : otherIndex = index
    · rw [same, withdraw_idxObjs, update_self]
      exact (coherent.nodup index).erase addr
    · rw [withdraw_idxObjs, update_of_ne same]
      exact coherent.nodup otherIndex
  · intro other otherObj other_eq
    exact coherent.counted_of_loose loose other_eq

theorem entered (coherent : self.Coherent classes) (obj_eq : self.objs addr = some obj)
    (outside : obj.multiIdx = none)
    (fresh : ∀ {other otherObj}, self.objs other = some otherObj →
      otherObj.multiIdx = some index → fullEqual classes otherObj obj = false) :
    (self.enter index addr obj).Coherent classes := by
  have not_mem : ∀ otherIndex, addr ∉ self.idxObjs otherIndex := by
    intro otherIndex member
    obtain ⟨obj', obj_eq', interned⟩ := (coherent.mem_iff otherIndex addr).mp member
    rw [obj_eq] at obj_eq'
    cases obj_eq'
    rw [outside] at interned
    exact absurd interned.symm (some_ne_none otherIndex)
  -- for a pair of members of which one is the new object
  have new_unequal : ∀ {other : Nat} {otherObj : NMDedupMultiObj I K V},
      self.objs other = some otherObj → otherObj.multiIdx = some index →
        fullEqual classes otherObj { obj with multiIdx := some index } = false := by
    intro other otherObj other_eq interned
    rw [← fresh other_eq interned]
    exact fullEqual_congr rfl rfl rfl rfl
  refine ⟨?_, ?_, ?_, ?_⟩
  · intro otherIndex other
    rw [enter_idxObjs]
    by_cases same : other = addr
    · rw [same, enter_objs_self]
      simp only [Option.some.injEq, exists_eq_left']
      by_cases same_index : otherIndex = index
      · rw [same_index, update_self]
        simp
      · rw [update_of_ne same_index]
        exact iff_of_false (not_mem otherIndex) (Ne.symm same_index)
    · have update_iff : other ∈ update self.idxObjs index (self.idxObjs index ++ [addr])
          otherIndex ↔ other ∈ self.idxObjs otherIndex := by
        by_cases same_index : otherIndex = index
        · rw [same_index, update_self]
          simp [same]
        · rw [update_of_ne same_index]
      rw [enter_objs_of_ne self index same obj, update_iff]
      exact coherent.mem_iff otherIndex other
  · intro otherIndex a b objA objB a_eq b_eq a_interned b_interned equal
    by_cases a_same : a = addr
    · by_cases b_same : b = addr
      · rw [a_same, b_same]
      · rw [a_same, enter_objs_self] at a_eq
        cases a_eq
        cases a_interned
        rw [enter_objs_of_ne self index b_same obj] at b_eq
        have unequal := new_unequal b_eq b_interned
        rw [fullEqual_symm equal] at unequal
        exact absurd unequal Bool.false_ne_true.symm
    · rw [enter_objs_of_ne self index a_same obj] at a_eq
      by_cases b_same : b = addr
      · rw [b_same, enter_objs_self] at b_eq
        cases b_eq
        cases b_interned
        have unequal := new_unequal a_eq a_interned
        rw [equal] at unequal
        exact absurd unequal Bool.false_ne_true.symm
      · rw [enter_objs_of_ne self index b_same obj] at b_eq
        exact coherent.distinct a_eq b_eq a_interned b_interned equal
  · intro otherIndex
    rw [enter_idxObjs]
    by_cases same : otherIndex = index
    · rw [same, update_self]
      exact nodup_append.mpr ⟨coherent.nodup index, nodup_singleton addr, by
        intro a a_mem b b_mem
        rw [mem_singleton.mp b_mem]
        rintro rfl
        exact not_mem index a_mem⟩
    · rw [update_of_ne same]
      exact coherent.nodup otherIndex
  · intro other otherObj other_eq
    by_cases same : other = addr
    · rw [same, enter_objs_self] at other_eq
      cases other_eq
      have counted := coherent.counted obj_eq
      exact counted
    · rw [enter_objs_of_ne self index same obj] at other_eq
      exact coherent.counted other_eq

end Coherent

end NetworkManager.ObjStore
