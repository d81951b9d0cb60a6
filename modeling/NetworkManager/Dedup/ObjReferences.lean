import NetworkManager.Dedup.InternedObjects

/-!
# What interning, releasing and dropping references do

In a coherent store no assertion fails, and every operation makes one of the changes that keep the
store coherent.
-/

namespace NetworkManager.ObjStore.Coherent

open Option

variable {I K V : Type*} [DecidableEq K] {classes : K → HashedObjClass V} {self : ObjStore I K V}

omit [DecidableEq K] in
theorem loose_none : Loose (none : Option (NMDedupMultiObj I K V)) := by
  intro content contrary
  exact absurd contrary.symm (some_ne_none content)

variable {obj : NMDedupMultiObj I K V} {addr : Nat}

omit [DecidableEq K] in
theorem loose_some (outside : obj.multiIdx = none) (pos : 0 < obj.refCount)
    (small : obj.refCount ≤ refCountStackinit) : Loose (some obj) := by
  intro content content_eq
  cases content_eq
  exact ⟨outside, pos, small⟩

theorem objRef_eq (coherent : self.Coherent classes) (obj_eq : self.objs addr = some obj)
    (countable : obj.refCount ≠ refCountStackinit) :
    self.objRef addr = some (self.setObj addr (some { obj with refCount := obj.refCount + 1 })) := by
  obtain ⟨pos, small⟩ := coherent.counted obj_eq
  unfold objRef
  simp only [obj_eq, nmAssert_eq countable, nmAssert_eq pos, guintSucc_eq small,
    bind_eq_bind, bind_some]
  rfl

theorem objFind_self (coherent : self.Coherent classes) {index : I}
    (obj_eq : self.objs addr = some obj) (interned : obj.multiIdx = some index) :
    self.objFind classes index addr = some addr :=
  coherent.objFind_eq_some obj_eq obj_eq interned (fullEqual_refl classes obj)

variable [DecidableEq I]

/-- A released object leaves its table and loses the back pointer. -/
theorem objRelease_eq (coherent : self.Coherent classes) {index : I}
    (obj_eq : self.objs addr = some obj) (interned : obj.multiIdx = some index) :
    self.objRelease classes index addr =
      some (self.withdraw index addr (some { obj with multiIdx := none })) := by
  have find_eq := coherent.objFind_self obj_eq interned
  have removed_eq :
      (self.setObj addr (some { obj with multiIdx := none })).idxObjsRemove classes index addr =
        (self.withdraw index addr (some { obj with multiIdx := none }), true) := by
    unfold idxObjsRemove
    rw [objFind_setObj obj_eq (by rfl) (by rfl) index addr obj_eq, find_eq]
    rfl
  unfold objRelease
  simp only [obj_eq, nmAssert_eq find_eq, nmAssert_eq interned, removed_eq, bind_eq_bind, bind_some]
  rfl

theorem objUnref_eq_again (coherent : self.Coherent classes) (obj_eq : self.objs addr = some obj)
    (countable : obj.refCount ≠ refCountStackinit) :
    self.objUnref classes (some addr) = self.objUnrefAgain classes 2 addr := by
  unfold objUnref
  simp only [obj_eq, nmAssert_eq (coherent.counted obj_eq).1, nmAssert_eq countable,
    bind_eq_bind, bind_some]

theorem objUnrefAgain_further (classes : K → HashedObjClass V) (passes : Nat)
    {store : ObjStore I K V} (obj_eq : store.objs addr = some obj)
    (further : guintPred obj.refCount ≠ 0) :
    store.objUnrefAgain classes (passes + 1) addr =
      some (store.setObj addr (some { obj with refCount := guintPred obj.refCount })) := by
  rw [objUnrefAgain, obj_eq, bind_eq_bind, bind_some, if_pos further]
  rfl

theorem objUnref_eq (coherent : self.Coherent classes) (obj_eq : self.objs addr = some obj)
    (countable : obj.refCount ≠ refCountStackinit) (further : obj.refCount ≠ 1) :
    self.objUnref classes (some addr) =
      some (self.setObj addr (some { obj with refCount := obj.refCount - 1 })) := by
  obtain ⟨pos, small⟩ := coherent.counted obj_eq
  have pred_eq := guintPred_eq pos small
  have left : guintPred obj.refCount ≠ 0 := by
    rw [pred_eq]
    omega
  rw [coherent.objUnref_eq_again obj_eq countable, objUnrefAgain_further classes 1 obj_eq left,
    pred_eq]

omit [DecidableEq I] [DecidableEq K] in
theorem countable_of_last (last : obj.refCount = 1) : obj.refCount ≠ refCountStackinit := by
  unfold refCountStackinit
  omega

omit [DecidableEq I] [DecidableEq K] in
theorem guintPred_of_last (last : obj.refCount = 1) : guintPred obj.refCount = 0 := by
  unfold guintPred
  omega

theorem guintSucc_zero : guintSucc 0 = 1 := by
  unfold guintSucc
  omega

theorem objUnrefAgain_last (classes : K → HashedObjClass V) (passes : Nat) {store : ObjStore I K V}
    (obj_eq : store.objs addr = some obj) (last : obj.refCount = 1) (outside : obj.multiIdx = none) :
    store.objUnrefAgain classes (passes + 1) addr = some (store.setObj addr none) := by
  rw [objUnrefAgain, obj_eq, bind_eq_bind, bind_some,
    if_neg (not_not.mpr (guintPred_of_last last)), outside]
  rfl

theorem objUnref_last (coherent : self.Coherent classes) (obj_eq : self.objs addr = some obj)
    (last : obj.refCount = 1) (outside : obj.multiIdx = none) :
    self.objUnref classes (some addr) = some (self.setObj addr none) := by
  rw [coherent.objUnref_eq_again obj_eq (countable_of_last last)]
  exact objUnrefAgain_last classes 1 obj_eq last outside

/-- The last reference to an interned object takes it out of its table and frees it. -/
theorem objUnref_last_interned (coherent : self.Coherent classes) {index : I}
    (obj_eq : self.objs addr = some obj) (last : obj.refCount = 1)
    (interned : obj.multiIdx = some index) :
    self.objUnref classes (some addr) = some (self.withdraw index addr none) := by
  -- the reference is restored: the object is released as it was
  have restored_eq : self.setObj addr
      (some { obj with refCount := guintSucc (guintPred obj.refCount) }) = self := by
    have count_eq : guintSucc (guintPred obj.refCount) = obj.refCount := by
      rw [guintPred_of_last last, guintSucc_zero, last]
    rw [count_eq, setObj, ← obj_eq, Function.update_eq_self]
  have released_obj : (self.withdraw index addr (some { obj with multiIdx := none })).objs addr =
      some { obj with multiIdx := none } := setObj_objs_self ..
  have freed : (self.withdraw index addr (some { obj with multiIdx := none })).setObj addr none =
      self.withdraw index addr none := by
    simp [withdraw, setObj, setIdxObjs]
  rw [coherent.objUnref_eq_again obj_eq (countable_of_last last), objUnrefAgain, obj_eq,
    bind_eq_bind, bind_some, if_neg (not_not.mpr (guintPred_of_last last)), restored_eq, interned]
  simp only [coherent.objRelease_eq obj_eq interned, released_obj, nmAssert_eq last,
    nmAssert_eq, bind_eq_bind, bind_some]
  rw [objUnrefAgain_last classes 0 released_obj last rfl, freed]

omit [DecidableEq I] [DecidableEq K] in
theorem of_not_needsClone (kept : objNeedsClone classes obj = false) :
    obj.multiIdx = none ∧ obj.refCount ≠ refCountStackinit := by
  unfold objNeedsClone at kept
  split at kept
  · exact absurd kept Bool.false_ne_true.symm
  · rename_i special
    rw [Bool.or_eq_true, decide_eq_true_eq, not_or, not_isSome_iff_eq_none] at special
    exact special

omit [DecidableEq I] in
/-- The object that is put into the table: a clone, or the object itself with a reference more. -/
theorem referenced (coherent : self.Coherent classes) {addr cloneAt : Nat}
    (obj_eq : self.objs addr = some obj) (free : self.objs cloneAt = none) :
    ∃ new newObj, new = (if objNeedsClone classes obj then cloneAt else addr) ∧
      (∀ {old}, self.objs new = some old → old.multiIdx = none) ∧
      newObj.multiIdx = none ∧ 0 < newObj.refCount ∧ newObj.refCount ≤ refCountStackinit ∧
      fullEqual classes newObj obj = true ∧
      (if objNeedsClone classes obj then
          (self.objClone classes obj cloneAt).map fun self => (self, cloneAt)
        else (self.objRef addr).map fun self => (self, addr)) =
          some (self.setObj new (some newObj), new) := by
  cases needs : objNeedsClone classes obj with
  | true =>
    have one_small : 1 ≤ refCountStackinit := by
      unfold refCountStackinit
      omega
    refine ⟨cloneAt, { klass := obj.klass, value := (classes obj.klass).objClone obj.value,
                       multiIdx := none, refCount := 1 }, (if_pos rfl).symm, ?_, rfl, Nat.one_pos,
      one_small, ?_, ?_⟩
    · intro old old_eq
      rw [free] at old_eq
      exact absurd old_eq.symm (some_ne_none old)
    · exact fullEqual_iff.mpr ⟨rfl, (classes obj.klass).fullEqual_clone obj.value⟩
    · have unused : (self.objs cloneAt).isNone = true := by rw [free]; rfl
      rw [if_pos rfl, objClone, nmAssert_eq unused]
      rfl
  | false =>
    obtain ⟨outside, countable⟩ := of_not_needsClone needs
    obtain ⟨pos, small⟩ := coherent.counted obj_eq
    refine ⟨addr, { obj with refCount := obj.refCount + 1 }, (if_neg Bool.false_ne_true).symm,
      ?_, outside, Nat.succ_pos _, Nat.lt_of_le_of_ne small countable, ?_, ?_⟩
    · intro old old_eq
      rw [obj_eq] at old_eq
      cases old_eq
      exact outside
    · rw [← fullEqual_refl classes obj]
      exact fullEqual_congr rfl rfl rfl rfl
    · rw [if_neg Bool.false_ne_true, coherent.objRef_eq obj_eq countable]
      rfl

/-- Interning either takes a reference to the fully equal member of the table, or puts a new
member into it. -/
theorem objIntern_cases (coherent : self.Coherent classes) {index : I} {addr cloneAt : Nat}
    (obj_eq : self.objs addr = some obj) (free : self.objs cloneAt = none)
    (countable : ∀ {old oldObj}, self.objFind classes index addr = some old →
      self.objs old = some oldObj → oldObj.refCount ≠ refCountStackinit) :
    (∃ old oldObj, self.objs old = some oldObj ∧ oldObj.multiIdx = some index ∧
      fullEqual classes oldObj obj = true ∧ oldObj.refCount ≠ refCountStackinit ∧
      self.objIntern classes index addr cloneAt =
        some (self.setObj old (some { oldObj with refCount := oldObj.refCount + 1 }), old)) ∨
    (self.objFind classes index addr = none ∧ ∃ new newObj,
      new = (if objNeedsClone classes obj then cloneAt else addr) ∧
      (∀ {old}, self.objs new = some old → old.multiIdx = none) ∧
      newObj.multiIdx = none ∧ 0 < newObj.refCount ∧ newObj.refCount ≤ refCountStackinit ∧
      fullEqual classes newObj obj = true ∧
      self.objIntern classes index addr cloneAt =
        some ((self.setObj new (some newObj)).enter index new newObj, new)) := by
  by_cases interned : obj.multiIdx = some index
  · -- the object itself is the member
    have find_eq := coherent.objFind_self obj_eq interned
    have may_count := countable find_eq obj_eq
    refine Or.inl ⟨addr, obj, obj_eq, interned, fullEqual_refl classes obj, may_count, ?_⟩
    rw [objIntern, obj_eq, bind_eq_bind, bind_some, if_pos interned]
    simp only [nmAssert_eq find_eq, coherent.objRef_eq obj_eq may_count, bind_eq_bind,
      bind_some, pure_def]
  · cases find_eq : self.objFind classes index addr with
    | some old =>
      obtain ⟨oldObj, old_eq, old_interned, equal⟩ := coherent.of_objFind obj_eq find_eq
      have may_count := countable find_eq old_eq
      have other : some old ≠ some addr := by
        intro same
        rw [Option.some.inj same, obj_eq] at old_eq
        cases old_eq
        exact interned old_interned
      refine Or.inl ⟨old, oldObj, old_eq, old_interned, equal, may_count, ?_⟩
      rw [objIntern, obj_eq, bind_eq_bind, bind_some, if_neg interned, find_eq]
      simp only [nmAssert_eq other, old_eq, nmAssert_eq old_interned,
        coherent.objRef_eq old_eq may_count, bind_eq_bind, bind_some, pure_def]
    | none =>
      obtain ⟨new, newObj, new_eq, outside, new_outside, pos, small, equal, referenced_eq⟩ :=
        coherent.referenced obj_eq free
      refine Or.inr ⟨rfl, new, newObj, new_eq, outside, new_outside, pos, small, equal, ?_⟩
      have loose : Loose (some newObj) := loose_some new_outside pos small
      have new_find : (self.setObj new (some newObj)).objFind classes index new = none := by
        have coherent' := coherent.overwritten outside loose
        cases found_eq : (self.setObj new (some newObj)).objFind classes index new with
        | none => rfl
        | some found =>
          obtain ⟨foundObj, found_obj, found_interned, found_equal⟩ :=
            coherent'.of_objFind (setObj_objs_self ..) found_eq
          have before := (objs_of_loose loose found_obj found_interned).2
          rw [coherent.objFind_eq_some obj_eq before found_interned
            (fullEqual_trans found_equal equal)] at find_eq
          exact absurd find_eq (some_ne_none found)
      have added_eq : (self.setObj new (some newObj)).idxObjsAdd classes index new =
          ((self.setObj new (some newObj)).setIdxObjs index (self.idxObjs index ++ [new]),
            true) := by
        unfold idxObjsAdd
        rw [new_find]
        rfl
      have no_old : (none : Option Nat) ≠ some addr := (some_ne_none addr).symm
      rw [objIntern, obj_eq, bind_eq_bind, bind_some, if_neg interned, find_eq]
      simp only [nmAssert_eq no_old, referenced_eq, setObj_objs_self, nmAssert_eq new_outside,
        added_eq, nmAssert_eq, bind_eq_bind, bind_some, pure_def]
      rfl

end NetworkManager.ObjStore.Coherent
