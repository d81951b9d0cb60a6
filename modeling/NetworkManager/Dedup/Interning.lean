import NetworkManager.Dedup.ObjReferences
import NetworkManager.Library.Machine

/-!
# Runs of interning

Objects are created and freed, written as long as no index knows them, referenced, interned and
released, in any order and in any number of indices.  What the callers owe is that they use objects
which exist, that they do not count references to objects on the stack, and that they write and
release only what they may.
-/

namespace NetworkManager.ObjStore

open Option

variable {I K V : Type*}

/-- The operations on objects. -/
inductive ObjOp (I K V : Type*) where
  /-- A new object, on the heap or on the stack. -/
  | create (addr : Nat) (klass : K) (value : V) (onStack : Bool)
  | modify (addr : Nat) (value : V)
  /-- The end of an object on the stack. -/
  | leave (addr : Nat)
  | ref (addr : Nat)
  | unref (addr : Option Nat)
  | intern (index : I) (addr cloneAt : Nat)
  | release (index : I) (addr : Nat)

section Perform

variable [DecidableEq I] [DecidableEq K] (classes : K → HashedObjClass V)

def perform (self : ObjStore I K V) : ObjOp I K V → Option (ObjStore I K V)
  | .create addr klass value onStack =>
    some (self.setObj addr (some { klass, value, multiIdx := none,
                                   refCount := if onStack then refCountStackinit else 1 }))
  | .modify addr value =>
    (self.objs addr).map fun obj => self.setObj addr (some { obj with value })
  | .leave addr => some (self.setObj addr none)
  | .ref addr => self.objRef addr
  | .unref addr => self.objUnref classes addr
  | .intern index addr cloneAt => (self.objIntern classes index addr cloneAt).map Prod.fst
  | .release index addr => self.objRelease classes index addr

/-- What the caller of an operation owes. -/
def Callable (self : ObjStore I K V) : ObjOp I K V → Prop
  | .create addr _ _ _ => self.objs addr = none
  | .modify addr _ => ∃ obj, self.objs addr = some obj ∧ obj.multiIdx = none
  | .leave addr => ∃ obj, self.objs addr = some obj ∧ obj.multiIdx = none ∧
      obj.refCount = refCountStackinit
  | .ref addr => ∃ obj, self.objs addr = some obj ∧ obj.refCount ≠ refCountStackinit
  | .unref addr => ∀ a, addr = some a →
      ∃ obj, self.objs a = some obj ∧ obj.refCount ≠ refCountStackinit
  | .intern index addr cloneAt => (∃ obj, self.objs addr = some obj) ∧ self.objs cloneAt = none ∧
      ∀ old oldObj, self.objFind classes index addr = some old → self.objs old = some oldObj →
        oldObj.refCount ≠ refCountStackinit
  | .release index addr => ∃ obj, self.objs addr = some obj ∧ obj.multiIdx = some index

/-- The objects and the indices as a guarded machine. -/
def machine : GuardedMachine (ObjStore I K V) (ObjOp I K V) where
  step self op := (self.perform classes op).getD self
  guard self op := self.Callable classes op

end Perform

namespace Coherent

variable {self : ObjStore I K V}

/-- What an operation does to the objects that are interned: they keep their class, their fields
and their index, except for one that is released or whose last reference is dropped. -/
def Kept (self next : ObjStore I K V) (op : ObjOp I K V) : Prop :=
  ∀ {addr obj index}, self.objs addr = some obj → obj.multiIdx = some index →
    op = .release index addr ∨ next.objs addr = none ∨
      ∃ nextObj, next.objs addr = some nextObj ∧ nextObj.klass = obj.klass ∧
        nextObj.value = obj.value ∧ nextObj.multiIdx = some index

variable {addr : Nat}

theorem kept_overwritten {new : Option (NMDedupMultiObj I K V)}
    (outside : ∀ {obj}, self.objs addr = some obj → obj.multiIdx = none) (op : ObjOp I K V) :
    Kept self (self.setObj addr new) op := by
  intro other obj index obj_eq interned
  have ne : other ≠ addr := by
    rintro rfl
    rw [outside obj_eq] at interned
    exact absurd interned.symm (some_ne_none index)
  exact Or.inr (Or.inr ⟨obj, by rw [setObj_objs_of_ne self ne, obj_eq], rfl, rfl, interned⟩)

variable {obj : NMDedupMultiObj I K V} {op : ObjOp I K V}

theorem kept_recounted (obj_eq : self.objs addr = some obj) (count : Nat) (op : ObjOp I K V) :
    Kept self (self.setObj addr (some { obj with refCount := count })) op := by
  intro other otherObj index other_eq interned
  refine Or.inr (Or.inr ?_)
  by_cases same : other = addr
  · rw [same, obj_eq] at other_eq
    cases other_eq
    rw [same]
    exact ⟨_, setObj_objs_self .., rfl, rfl, interned⟩
  · exact ⟨otherObj, by rw [setObj_objs_of_ne self same, other_eq], rfl, rfl, interned⟩

variable [DecidableEq I]

theorem kept_withdrawn {index : I} {new : Option (NMDedupMultiObj I K V)}
    (obj_eq : self.objs addr = some obj) (interned : obj.multiIdx = some index)
    (gone : op = .release index addr ∨ new = none) :
    Kept self (self.withdraw index addr new) op := by
  intro other otherObj otherIndex other_eq other_interned
  rw [withdraw_objs]
  by_cases same : other = addr
  · rw [same] at other_eq ⊢
    rw [obj_eq] at other_eq
    cases other_eq
    rw [interned] at other_interned
    cases other_interned
    rw [setObj_objs_self]
    exact gone.imp id Or.inl
  · rw [setObj_objs_of_ne self same, other_eq]
    exact Or.inr (Or.inr ⟨otherObj, rfl, rfl, rfl, other_interned⟩)

variable [DecidableEq K] {classes : K → HashedObjClass V}

section

variable (coherent : self.Coherent classes)

include coherent

theorem performed_unref (obj_eq : self.objs addr = some obj)
    (countable : obj.refCount ≠ refCountStackinit) :
    ∃ next, self.objUnref classes (some addr) = some next ∧ next.Coherent classes ∧
      Kept self next (.unref (some addr)) := by
  obtain ⟨pos, small⟩ := coherent.counted obj_eq
  by_cases last : obj.refCount = 1
  · cases interned : obj.multiIdx with
    | none =>
      have outside : ∀ {old}, self.objs addr = some old → old.multiIdx = none := by
        intro old old_eq
        rw [obj_eq] at old_eq
        cases old_eq
        exact interned
      exact ⟨_, coherent.objUnref_last obj_eq last interned,
        coherent.overwritten outside loose_none, kept_overwritten outside _⟩
    | some index =>
      exact ⟨_, coherent.objUnref_last_interned obj_eq last interned,
        coherent.withdrawn obj_eq interned loose_none,
        kept_withdrawn obj_eq interned (Or.inr rfl)⟩
  · have left : 0 < obj.refCount - 1 := by omega
    have less : obj.refCount - 1 ≤ refCountStackinit := by omega
    exact ⟨_, coherent.objUnref_eq obj_eq countable last, coherent.recounted obj_eq left less,
      kept_recounted obj_eq _ _⟩

theorem performed_intern {index : I} {addr cloneAt : Nat} (obj_eq : self.objs addr = some obj)
    (free : self.objs cloneAt = none)
    (countable : ∀ {old oldObj}, self.objFind classes index addr = some old →
      self.objs old = some oldObj → oldObj.refCount ≠ refCountStackinit) :
    ∃ next result resultObj, self.objIntern classes index addr cloneAt = some (next, result) ∧
      next.Coherent classes ∧ Kept self next (.intern index addr cloneAt) ∧
      next.objs result = some resultObj ∧ resultObj.multiIdx = some index ∧
      fullEqual classes resultObj obj = true := by
  rcases coherent.objIntern_cases obj_eq free countable with
    ⟨old, oldObj, old_eq, interned, equal, may_count, intern_eq⟩ |
    ⟨find_eq, new, newObj, -, outside, new_outside, pos, small, equal, intern_eq⟩
  · have more : oldObj.refCount + 1 ≤ refCountStackinit :=
      Nat.lt_of_le_of_ne (coherent.counted old_eq).2 may_count
    refine ⟨_, old, _, intern_eq, coherent.recounted old_eq (Nat.succ_pos _) more,
      kept_recounted old_eq _ _, setObj_objs_self .., interned, ?_⟩
    rw [← equal]
    exact fullEqual_congr rfl rfl rfl rfl
  · have loose : Loose (some newObj) := loose_some new_outside pos small
    have written := coherent.overwritten outside loose
    have fresh : ∀ {other otherObj}, (self.setObj new (some newObj)).objs other = some otherObj →
        otherObj.multiIdx = some index → fullEqual classes otherObj newObj = false := by
      intro other otherObj other_eq interned
      have unequal := coherent.not_fullEqual obj_eq find_eq
        (objs_of_loose loose other_eq interned).2 interned
      refine Bool.eq_false_iff.mpr fun contrary => ?_
      rw [fullEqual_trans contrary equal] at unequal
      exact absurd unequal Bool.false_ne_true.symm
    refine ⟨_, new, _, intern_eq, written.entered (setObj_objs_self ..) new_outside fresh, ?_,
      enter_objs_self .., rfl, ?_⟩
    · intro other otherObj otherIndex other_eq interned
      have ne : other ≠ new := by
        rintro rfl
        rw [outside other_eq] at interned
        exact absurd interned.symm (some_ne_none otherIndex)
      rw [enter_objs_of_ne _ index ne, setObj_objs_of_ne self ne]
      exact Or.inr (Or.inr ⟨otherObj, other_eq, rfl, rfl, interned⟩)
    · rw [← equal]
      exact fullEqual_congr rfl rfl rfl rfl

/-- Every operation that its caller may use has a result, keeps the store coherent and keeps the
interned objects. -/
theorem performed (callable : self.Callable classes op) :
    ∃ next, self.perform classes op = some next ∧ next.Coherent classes ∧ Kept self next op := by
  cases op with
  | create addr klass value onStack =>
    have outside : ∀ {obj}, self.objs addr = some obj → obj.multiIdx = none := by
      intro obj obj_eq
      rw [show self.objs addr = none from callable] at obj_eq
      exact absurd obj_eq.symm (some_ne_none obj)
    have counted : 0 < (if onStack then refCountStackinit else 1) ∧
        (if onStack then refCountStackinit else 1) ≤ refCountStackinit := by
      unfold refCountStackinit
      split <;> omega
    exact ⟨_, rfl, coherent.overwritten outside (loose_some rfl counted.1 counted.2),
      kept_overwritten outside _⟩
  | modify addr value =>
    obtain ⟨obj, obj_eq, obj_outside⟩ := callable
    have outside : ∀ {old}, self.objs addr = some old → old.multiIdx = none := by
      intro old old_eq
      rw [obj_eq] at old_eq
      cases old_eq
      exact obj_outside
    have loose : Loose (some { obj with value }) :=
      loose_some obj_outside (coherent.counted obj_eq).1 (coherent.counted obj_eq).2
    have written : self.perform classes (.modify addr value) =
        some (self.setObj addr (some { obj with value })) := by
      simp only [perform, obj_eq, map_some]
    exact ⟨_, written, coherent.overwritten outside loose, kept_overwritten outside _⟩
  | leave addr =>
    obtain ⟨obj, obj_eq, obj_outside, -⟩ := callable
    have outside : ∀ {old}, self.objs addr = some old → old.multiIdx = none := by
      intro old old_eq
      rw [obj_eq] at old_eq
      cases old_eq
      exact obj_outside
    exact ⟨_, rfl, coherent.overwritten outside loose_none, kept_overwritten outside _⟩
  | ref addr =>
    obtain ⟨obj, obj_eq, countable⟩ := callable
    have more : obj.refCount + 1 ≤ refCountStackinit :=
      Nat.lt_of_le_of_ne (coherent.counted obj_eq).2 countable
    exact ⟨_, coherent.objRef_eq obj_eq countable,
      coherent.recounted obj_eq (Nat.succ_pos _) more, kept_recounted obj_eq _ _⟩
  | unref addr =>
    cases addr with
    | none =>
      exact ⟨self, rfl, coherent, fun obj_eq interned =>
        Or.inr (Or.inr ⟨_, obj_eq, rfl, rfl, interned⟩)⟩
    | some addr =>
      obtain ⟨obj, obj_eq, countable⟩ := callable addr rfl
      exact coherent.performed_unref obj_eq countable
  | intern index addr cloneAt =>
    obtain ⟨⟨obj, obj_eq⟩, free, countable⟩ := callable
    obtain ⟨next, result, _, intern_eq, next_coherent, kept, -⟩ :=
      coherent.performed_intern obj_eq free fun find_eq old_eq => countable _ _ find_eq old_eq
    refine ⟨next, ?_, next_coherent, kept⟩
    simp only [perform, intern_eq, map_some]
  | release index addr =>
    obtain ⟨obj, obj_eq, interned⟩ := callable
    obtain ⟨pos, small⟩ := coherent.counted obj_eq
    have loose : Loose (some { obj with multiIdx := (none : Option I) }) := loose_some rfl pos small
    exact ⟨_, coherent.objRelease_eq obj_eq interned,
      coherent.withdrawn obj_eq interned loose, kept_withdrawn obj_eq interned (Or.inl rfl)⟩

omit coherent in
theorem step_eq {next : ObjStore I K V} (performed_eq : self.perform classes op = some next) :
    (machine classes).step self op = next := by
  rw [show (machine classes).step self op = (self.perform classes op).getD self from rfl,
    performed_eq, getD_some]

theorem step_coherent (callable : self.Callable classes op) :
    ((machine classes).step self op).Coherent classes := by
  obtain ⟨next, performed_eq, next_coherent, -⟩ := coherent.performed callable
  rwa [step_eq performed_eq]

theorem step_kept (callable : self.Callable classes op) :
    Kept self ((machine classes).step self op) op := by
  obtain ⟨next, performed_eq, -, kept⟩ := coherent.performed callable
  rwa [step_eq performed_eq]

/-- An object that stays in memory and is not released stays the interned object of its class of
full equality. -/
theorem run_interned {index : I} (content : NMDedupMultiObj I K V)
    (obj_eq : self.objs addr = some obj) (interned : obj.multiIdx = some index)
    (equal : fullEqual classes obj content = true) {ops : List (ObjOp I K V)}
    (lawful : (machine classes).Lawful self ops)
    (unreleased : (machine classes).Along (fun _ op => op ≠ .release index addr) self ops)
    (alive : (machine classes).Throughout (fun store => (store.objs addr).isSome = true) self ops) :
    ∃ last, ((machine classes).run self ops).objs addr = some last ∧
      last.multiIdx = some index ∧ fullEqual classes last content = true := by
  induction ops generalizing self obj with
  | nil => exact ⟨obj, obj_eq, interned, equal⟩
  | cons op ops ih =>
    have next_coherent := coherent.step_coherent lawful.1
    rcases coherent.step_kept lawful.1 obj_eq interned with released | gone |
      ⟨next, next_eq, klass_eq, value_eq, next_interned⟩
    · exact absurd released unreleased.1
    · have next_alive : (((machine classes).step self op).objs addr).isSome = true := by
        cases ops with
        | nil => exact alive.2
        | cons _ _ => exact alive.2.1
      rw [gone] at next_alive
      exact absurd next_alive Bool.false_ne_true
    · refine ih next_coherent next_eq next_interned ?_ lawful.2 unreleased.2 alive.2
      rw [← equal]
      exact fullEqual_congr klass_eq value_eq rfl rfl

end

end Coherent

/-- A store that is reached when all callers do what they owe. -/
def Reachable [DecidableEq I] [DecidableEq K] (classes : K → HashedObjClass V)
    (store : ObjStore I K V) : Prop :=
  ∃ ops, (machine classes).Lawful new ops ∧ (machine classes).run new ops = store

section Main

variable [DecidableEq I] [DecidableEq K] {classes : K → HashedObjClass V} {store : ObjStore I K V}

theorem Reachable.coherent (reachable : Reachable classes store) : store.Coherent classes := by
  obtain ⟨ops, lawful, rfl⟩ := reachable
  exact (machine classes).run_preserves
    (fun _ _ coherent callable => coherent.step_coherent callable) (coherent_new classes) lawful

theorem Coherent.run_coherent (coherent : store.Coherent classes) {ops : List (ObjOp I K V)}
    (lawful : (machine classes).Lawful store ops) :
    ((machine classes).run store ops).Coherent classes :=
  (machine classes).run_preserves
    (fun _ _ coherent callable => coherent.step_coherent callable) coherent lawful

/-- Dropping the last reference frees an object and leaves it in no table. -/
theorem Coherent.last_unref (coherent : store.Coherent classes) {addr : Nat}
    {obj : NMDedupMultiObj I K V} (obj_eq : store.objs addr = some obj) (last : obj.refCount = 1) :
    ∃ next, store.objUnref classes (some addr) = some next ∧ next.objs addr = none ∧
      ∀ index, addr ∉ next.idxObjs index := by
  obtain ⟨next, unref_eq, next_coherent, -⟩ :=
    coherent.performed_unref obj_eq (countable_of_last last)
  have freed : next.objs addr = none := by
    cases interned : obj.multiIdx with
    | none =>
      rw [coherent.objUnref_last obj_eq last interned] at unref_eq
      rw [← Option.some.inj unref_eq, setObj_objs_self]
    | some index =>
      rw [coherent.objUnref_last_interned obj_eq last interned] at unref_eq
      rw [← Option.some.inj unref_eq, withdraw_objs, setObj_objs_self]
  refine ⟨next, unref_eq, freed, fun index member => ?_⟩
  obtain ⟨gone, gone_eq, -⟩ := (next_coherent.mem_iff index addr).mp member
  rw [freed] at gone_eq
  exact absurd gone_eq.symm (some_ne_none gone)

theorem Coherent.intern_again (coherent : store.Coherent classes) {index : I}
    {addr cloneAt member : Nat} {obj memberObj : NMDedupMultiObj I K V}
    (callable : store.Callable classes (.intern index addr cloneAt))
    (obj_eq : store.objs addr = some obj) (member_eq : store.objs member = some memberObj)
    (interned : memberObj.multiIdx = some index) (equal : fullEqual classes memberObj obj = true) :
    ∃ last, store.objIntern classes index addr cloneAt = some (last, member) := by
  obtain ⟨-, free, countable⟩ := callable
  have find_eq := coherent.objFind_eq_some obj_eq member_eq interned equal
  rcases coherent.objIntern_cases obj_eq free (fun found old => countable _ _ found old) with
    ⟨old, oldObj, old_eq, old_interned, old_equal, -, intern_eq⟩ | ⟨unfound, -⟩
  · rw [coherent.objFind_eq_some obj_eq old_eq old_interned old_equal] at find_eq
    rw [← Option.some.inj find_eq]
    exact ⟨_, intern_eq⟩
  · rw [find_eq] at unfound
    exact absurd unfound (some_ne_none member)

/-- Interning deduplicates.  In every reachable store no operation fails; a table has no two fully
equal members; its members are the objects with the back pointer to its index, and they all have
references; dropping the last reference frees an object and leaves it in no table; and interning
returns a fully equal object with the back pointer, which is returned for every fully equal object
again as long as it is neither freed nor released. -/
theorem interning {store : ObjStore I K V} (reachable : Reachable classes store) :
    (∀ op, store.Callable classes op → (store.perform classes op).isSome = true) ∧
    (∀ index, (store.idxObjs index).Nodup) ∧
    (∀ index a b objA objB, a ∈ store.idxObjs index → b ∈ store.idxObjs index →
      store.objs a = some objA → store.objs b = some objB →
      fullEqual classes objA objB = true → a = b) ∧
    (∀ index addr, addr ∈ store.idxObjs index ↔
      ∃ obj, store.objs addr = some obj ∧ obj.multiIdx = some index) ∧
    (∀ addr obj, store.objs addr = some obj → 0 < obj.refCount) ∧
    (∀ addr obj, store.objs addr = some obj → obj.refCount = 1 →
      ∃ next, store.objUnref classes (some addr) = some next ∧ next.objs addr = none ∧
        ∀ index, addr ∉ next.idxObjs index) ∧
    (∀ index a cloneA objA, store.Callable classes (.intern index a cloneA) →
      store.objs a = some objA →
      ∃ next result resultObj, store.objIntern classes index a cloneA = some (next, result) ∧
        next.objs result = some resultObj ∧ resultObj.multiIdx = some index ∧
        fullEqual classes resultObj objA = true ∧
        ∀ rest, (machine classes).Lawful next rest →
          (machine classes).Along (fun _ op => op ≠ .release index result) next rest →
          (machine classes).Throughout (fun later => (later.objs result).isSome = true) next rest →
          ∀ b cloneB objB,
            ((machine classes).run next rest).Callable classes (.intern index b cloneB) →
            ((machine classes).run next rest).objs b = some objB →
            fullEqual classes objA objB = true →
            ∃ last, ((machine classes).run next rest).objIntern classes index b cloneB =
              some (last, result)) := by
  have coherent := reachable.coherent
  refine ⟨?_, coherent.nodup, ?_, coherent.mem_iff,
    fun addr obj obj_eq => (coherent.counted obj_eq).1,
    fun addr obj obj_eq last => coherent.last_unref obj_eq last, ?_⟩
  · intro op callable
    obtain ⟨next, performed_eq, -⟩ := coherent.performed callable
    rw [performed_eq]
    rfl
  · intro index a b objA objB a_mem b_mem a_eq b_eq equal
    obtain ⟨objA', a_eq', a_interned⟩ := (coherent.mem_iff index a).mp a_mem
    obtain ⟨objB', b_eq', b_interned⟩ := (coherent.mem_iff index b).mp b_mem
    rw [a_eq] at a_eq'
    rw [b_eq] at b_eq'
    cases a_eq'
    cases b_eq'
    exact coherent.distinct a_eq b_eq a_interned b_interned equal
  · intro index a cloneA objA callable a_eq
    obtain ⟨next, result, resultObj, intern_eq, next_coherent, -, result_eq, interned, equal⟩ :=
      coherent.performed_intern a_eq callable.2.1 fun found old => callable.2.2 _ _ found old
    refine ⟨next, result, resultObj, intern_eq, result_eq, interned, equal, ?_⟩
    intro rest lawful unreleased alive b cloneB objB b_callable b_eq same
    obtain ⟨lastObj, last_eq, last_interned, last_equal⟩ :=
      next_coherent.run_interned objA result_eq interned equal lawful unreleased alive
    exact (next_coherent.run_coherent lawful).intern_again b_callable b_eq last_eq last_interned
      (fullEqual_trans last_equal same)

end Main

/-- Numbers that are fully equal if they are the same. -/
def numbers : Unit → HashedObjClass Nat := fun _ =>
  { objFullEqual := fun a b => decide (a = b)
    objNeedsClone := fun _ => false
    objClone := id
    objFullHash := fun n => n % 4
    fullEqual_refl := by simp
    fullEqual_symm := by simp +contextual
    fullEqual_trans := by simp +contextual
    fullEqual_clone := by simp
    hash_of_fullEqual := by simp +contextual }

/-- A seven on the heap and one on the stack. -/
def sevens : ObjStore Unit Unit Nat :=
  (machine numbers).run new [.create 0 () 7 false, .create 1 () 7 true]

theorem reachable_sevens : Reachable numbers sevens :=
  ⟨[.create 0 () 7 false, .create 1 () 7 true], ⟨rfl, rfl, trivial⟩, rfl⟩

def sevenInterned : ObjStore Unit Unit Nat :=
  ((sevens.objIntern numbers () 0 2).map Prod.fst).getD sevens

theorem sevens_intern : sevens.objIntern numbers () 0 2 = some (sevenInterned, 0) := by
  have result_eq : (sevens.objIntern numbers () 0 2).map Prod.snd = some 0 := by
    decide +kernel
  cases intern_eq : sevens.objIntern numbers () 0 2 with
  | none =>
    rw [intern_eq] at result_eq
    exact absurd result_eq (some_ne_none 0).symm
  | some pair =>
    rw [intern_eq] at result_eq
    rw [sevenInterned, intern_eq]
    exact congrArg some (Prod.ext rfl (Option.some.inj result_eq))

theorem sevens_callable : sevens.Callable numbers (.intern () 0 2) := by
  refine ⟨⟨_, rfl⟩, rfl, ?_⟩
  intro old oldObj find_eq
  have unfound : sevens.objFind numbers () 0 = none := by decide +kernel
  rw [unfound] at find_eq
  exact absurd find_eq.symm (some_ne_none old)

theorem sevenInterned_objs_zero : sevenInterned.objs 0 = some ⟨(), 7, some (), 2⟩ := by
  decide +kernel

theorem sevenInterned_alive : (sevenInterned.objs 0).isSome = true := by
  rw [sevenInterned_objs_zero]
  rfl

theorem two_countable : 2 ≠ refCountStackinit := by
  unfold refCountStackinit
  omega

/-- The reference that interning returned is dropped again, but the seven on the heap is still
there: the seven on the stack is interned as that one. -/
theorem interning_sevens :
    ∃ last, ((machine numbers).run sevenInterned [.unref (some 0)]).objIntern numbers () 1 2 =
      some (last, 0) := by
  obtain ⟨next, result, -, intern_eq, -, -, -, again⟩ :=
    (interning reachable_sevens).2.2.2.2.2.2 () 0 2 ⟨(), 7, none, 1⟩ sevens_callable rfl
  rw [sevens_intern] at intern_eq
  cases intern_eq
  have unref_callable : sevenInterned.Callable numbers (.unref (some 0)) := by
    intro addr addr_eq
    cases addr_eq
    exact ⟨_, sevenInterned_objs_zero, two_countable⟩
  have heap_eq : ((machine numbers).run sevenInterned [.unref (some 0)]).objs 0 =
      some ⟨(), 7, some (), 1⟩ := by
    decide +kernel
  have stack_eq : ((machine numbers).run sevenInterned [.unref (some 0)]).objs 1 =
      some ⟨(), 7, none, refCountStackinit⟩ := by
    decide +kernel
  have callable : ((machine numbers).run sevenInterned [.unref (some 0)]).Callable numbers
      (.intern () 1 2) := by
    have free : ((machine numbers).run sevenInterned [.unref (some 0)]).objs 2 = none := by
      decide +kernel
    refine ⟨⟨_, stack_eq⟩, free, ?_⟩
    intro old oldObj find_eq old_eq
    have found : ((machine numbers).run sevenInterned [.unref (some 0)]).objFind numbers () 1 =
        some 0 := by
      decide +kernel
    rw [found] at find_eq
    cases find_eq
    rw [heap_eq] at old_eq
    cases old_eq
    exact Coherent.countable_of_last rfl
  have unreleased : (machine numbers).Along (fun _ op => op ≠ .release () 0) sevenInterned
      [.unref (some 0)] := by
    refine ⟨?_, trivial⟩
    intro same
    cases same
  exact again [.unref (some 0)] ⟨unref_callable, trivial⟩ unreleased
    ⟨sevenInterned_alive, congrArg isSome heap_eq⟩ 1 2 _ callable stack_eq rfl

/-- After a release the same object is not returned, although it still exists. -/
theorem interning_released_fails :
    ¬ ∀ store : ObjStore Unit Unit Nat, Reachable numbers store →
      ∀ index a cloneA objA next result, store.Callable numbers (.intern index a cloneA) →
        store.objs a = some objA →
        store.objIntern numbers index a cloneA = some (next, result) →
        ∀ rest, (machine numbers).Lawful next rest →
          (machine numbers).Throughout (fun later => (later.objs result).isSome = true) next rest →
          ∀ b cloneB objB,
            ((machine numbers).run next rest).Callable numbers (.intern index b cloneB) →
            ((machine numbers).run next rest).objs b = some objB →
            fullEqual numbers objA objB = true →
            ∃ last, ((machine numbers).run next rest).objIntern numbers index b cloneB =
              some (last, result) := by
  intro always
  have released_objs_zero :
      ((machine numbers).run sevenInterned [.release () 0]).objs 0 = some ⟨(), 7, none, 2⟩ := by
    decide +kernel
  have released_objs_one : ((machine numbers).run sevenInterned [.release () 0]).objs 1 =
      some ⟨(), 7, none, refCountStackinit⟩ := by
    decide +kernel
  have alive : (machine numbers).Throughout (fun later => (later.objs 0).isSome = true)
      sevenInterned [.release () 0] :=
    ⟨sevenInterned_alive, congrArg isSome released_objs_zero⟩
  have callable : ((machine numbers).run sevenInterned [.release () 0]).Callable numbers
      (.intern () 1 2) := by
    have free : ((machine numbers).run sevenInterned [.release () 0]).objs 2 = none := by
      decide +kernel
    refine ⟨⟨_, released_objs_one⟩, free, ?_⟩
    intro old oldObj find_eq
    have unfound : ((machine numbers).run sevenInterned [.release () 0]).objFind numbers () 1 =
        none := by
      decide +kernel
    rw [unfound] at find_eq
    exact absurd find_eq.symm (some_ne_none old)
  obtain ⟨last, last_eq⟩ := always sevens reachable_sevens () 0 2 ⟨(), 7, none, 1⟩ sevenInterned 0
    sevens_callable rfl sevens_intern [.release () 0]
    ⟨⟨_, sevenInterned_objs_zero, rfl⟩, trivial⟩ alive 1 2 _ callable released_objs_one rfl
  have result_eq : (((machine numbers).run sevenInterned [.release () 0]).objIntern numbers
      () 1 2).map Prod.snd = some 2 := by
    decide +kernel
  rw [last_eq] at result_eq
  cases result_eq

end NetworkManager.ObjStore
