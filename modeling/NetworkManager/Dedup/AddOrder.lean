import NetworkManager.Dedup.MarkSweep

/-!
# What adding changes

`_add` decides in different branches about the place of an entry, its object and what it reports.
Together they say whether the objects of the partition changed, as they are listed in order.
-/

set_option linter.unusedSectionVars false

namespace NetworkManager

open Function IntrusiveList List NMDedupMultiIdxTypeClass NMDedupMultiIndex

/-- The modes that move an entry which is tracked already. -/
def NMDedupMultiIdxMode.forces : NMDedupMultiIdxMode → Bool
  | .prependForce | .appendForce => true
  | .prepend | .append => false

/-- An entry has the place that a mode asks for: at the front or at the end, or next to
`entry_order`. -/
def NMDedupMultiIdxMode.Stands (mode : NMDedupMultiIdxMode) (entryOrder : Option Nat) (addr : Nat)
    (others nodes : List Nat) : Prop :=
  match mode, entryOrder with
  | .prepend, none | .prependForce, none => StandsAfter none addr others nodes
  | .prepend, some order | .prependForce, some order =>
    StandsBefore (some order) addr others nodes
  | .append, none | .appendForce, none => StandsBefore none addr others nodes
  | .append, some order | .appendForce, some order => StandsAfter (some order) addr others nodes

section

variable {mode : NMDedupMultiIdxMode} {entryOrder : Option Nat} {addr : Nat}
  {others nodes : List Nat} (stands : mode.Stands entryOrder addr others nodes)

include stands

theorem NMDedupMultiIdxMode.Stands.erase (fresh : addr ∉ others) : nodes.erase addr = others := by
  unfold NMDedupMultiIdxMode.Stands at stands
  split at stands
  · exact StandsAfter.erase stands fresh
  · exact StandsAfter.erase stands fresh
  · exact StandsBefore.erase stands fresh
  · exact StandsBefore.erase stands fresh
  · exact StandsBefore.erase stands fresh
  · exact StandsBefore.erase stands fresh
  · exact StandsAfter.erase stands fresh
  · exact StandsAfter.erase stands fresh

theorem NMDedupMultiIdxMode.Stands.mem : addr ∈ nodes := by
  unfold NMDedupMultiIdxMode.Stands at stands
  split at stands
  · exact StandsAfter.mem stands
  · exact StandsAfter.mem stands
  · exact StandsBefore.mem stands
  · exact StandsBefore.mem stands
  · exact StandsBefore.mem stands
  · exact StandsBefore.mem stands
  · exact StandsAfter.mem stands
  · exact StandsAfter.mem stands

end

namespace NMDedupMultiIndex

section Places

variable {mode : NMDedupMultiIdxMode} {entryOrder : Option Nat} {addr : Nat} {lstEntries : List Nat}

theorem linkForMode_stands (mode : NMDedupMultiIdxMode) (addr : Nat)
    (anchored : Anchored entryOrder lstEntries) :
    mode.Stands entryOrder addr lstEntries (linkForMode mode entryOrder addr lstEntries) := by
  cases mode <;> cases entryOrder <;>
    first
      | exact linkBefore_stands addr anchored
      | exact linkAfter_stands addr anchored

theorem moveForMode_of_not_forces (keeps : mode.forces = false) (entryOrder : Option Nat)
    (addr : Nat) (lstEntries : List Nat) :
    moveForMode mode entryOrder addr lstEntries = (lstEntries, false) := by
  cases mode with
  | prepend => rfl
  | append => rfl
  | prependForce => cases keeps
  | appendForce => cases keeps

theorem moveForMode_self (mode : NMDedupMultiIdxMode) (addr : Nat) (lstEntries : List Nat) :
    moveForMode mode (some addr) addr lstEntries = (lstEntries, false) := by
  cases mode with
  | prepend => rfl
  | append => rfl
  | prependForce => exact moveBefore_self addr lstEntries
  | appendForce => exact moveAfter_self addr lstEntries

theorem moveForMode_stands (forces : mode.forces = true) (nodup : lstEntries.Nodup)
    (anchored : Anchored entryOrder lstEntries) (order_ne : entryOrder ≠ some addr) :
    mode.Stands entryOrder addr (lstEntries.erase addr)
      (moveForMode mode entryOrder addr lstEntries).1 := by
  cases mode with
  | prepend => cases forces
  | append => cases forces
  | prependForce =>
    cases entryOrder with
    | none => exact moveAfter_stands nodup anchored order_ne
    | some order => exact moveBefore_stands nodup anchored order_ne
  | appendForce =>
    cases entryOrder with
    | none => exact moveBefore_stands nodup anchored order_ne
    | some order => exact moveAfter_stands nodup anchored order_ne

theorem moveForMode_changed_iff (mode : NMDedupMultiIdxMode) (addr : Nat)
    (nodup : lstEntries.Nodup) (anchored : Anchored entryOrder lstEntries) :
    (moveForMode mode entryOrder addr lstEntries).2 = true ↔
      (moveForMode mode entryOrder addr lstEntries).1 ≠ lstEntries := by
  cases mode with
  | prepend => exact iff_of_false Bool.false_ne_true fun changed => changed rfl
  | append => exact iff_of_false Bool.false_ne_true fun changed => changed rfl
  | prependForce =>
    cases entryOrder with
    | none => exact moveAfter_changed_iff nodup anchored
    | some order => exact moveBefore_changed_iff nodup anchored
  | appendForce =>
    cases entryOrder with
    | none => exact moveBefore_changed_iff nodup anchored
    | some order => exact moveAfter_changed_iff nodup anchored

end Places

variable {Obj T : Type*} [DecidableEq Obj] [DecidableEq T] {objClass : NMDedupMultiObjClass Obj}

/-- The object of an entry. -/
def objAt (self : NMDedupMultiIndex Obj T) (addr : Nat) : Option Obj :=
  (self.entries addr).map (·.obj)

/-- The objects in the partition of an object, in order. -/
def partitionObjs (self : NMDedupMultiIndex Obj T)
    (klass : T → NMDedupMultiIdxTypeClass objClass) (idxType : T) (obj : Obj) : List Obj :=
  (self.partitionEntries klass idxType obj).filterMap self.objAt

/-- The same objects in the same order, when they are compared fully. -/
def SameObjs (objClass : NMDedupMultiObjClass Obj) (before after : List Obj) : Prop :=
  List.Forall₂ (fun a b => objClass.objFullEqual a b = true) before after

/-- What becomes of the list of a partition.  The entry that is added has the place that the mode
asks for, unless it was tracked before and is not moved. -/
structure Placed (mode : NMDedupMultiIdxMode) (entryOrder : Option Nat) (addr : Nat)
    (before after : List Nat) : Prop where
  mem : addr ∈ after
  others : after.erase addr = before.erase addr
  /-- An entry stays where it is if the mode does not move it, or if it is `entry_order` itself. -/
  stays : addr ∈ before → mode.forces = false ∨ entryOrder = some addr → after = before
  /-- A new entry, and one that the mode moves, has its place. -/
  stands : (addr ∈ before → mode.forces = true ∧ entryOrder ≠ some addr) →
    mode.Stands entryOrder addr (before.erase addr) after

/-- What `_add` does to the partition of an object, and what it reports. -/
structure AddEffect (klass : T → NMDedupMultiIdxTypeClass objClass) (idxType : T) (obj : Obj)
    (mode : NMDedupMultiIdxMode) (entryOrder : Option Nat) (before after : NMDedupMultiIndex Obj T)
    (result : AddResult Obj) : Prop where
  /-- A change is reported exactly if the objects of the partition changed. -/
  changed_iff : result.changed = true ↔
    ¬ SameObjs objClass (before.partitionObjs klass idxType obj)
      (after.partitionObjs klass idxType obj)
  /-- The entry that is reported is the one that was found before, if there was one. -/
  placed : ∃ addr, result.outEntry = some addr ∧
    (before.lookupObj klass idxType obj = some addr ↔
      addr ∈ before.partitionEntries klass idxType obj) ∧
    Placed mode entryOrder addr (before.partitionEntries klass idxType obj)
      (after.partitionEntries klass idxType obj)

theorem eq_of_forall₂ {α : Type*} {R : α → α → Prop} {l l' : List α} (related : List.Forall₂ R l l')
    (eq_of : ∀ a ∈ l, ∀ b ∈ l', R a b → a = b) : l = l' := by
  induction related with
  | nil => rfl
  | cons head tail ih =>
    rw [eq_of _ mem_cons_self _ mem_cons_self head, ih fun a a_mem b b_mem =>
      eq_of a (mem_cons_of_mem _ a_mem) b (mem_cons_of_mem _ b_mem)]

section SameObjs

variable {klass : T → NMDedupMultiIdxTypeClass objClass} {self next : NMDedupMultiIndex Obj T}
  {idxType : T} {obj : Obj} {addr : Nat}

/-- The object of an entry that is allocated. -/
def objOf (self : NMDedupMultiIndex Obj T) (default : Obj) (addr : Nat) : Obj :=
  (self.objAt addr).getD default

theorem Tracks.objOf_eq {head : Nat} {stored : Obj} (tracks : self.Tracks addr idxType head stored)
    (default : Obj) : self.objOf default addr = stored := by
  obtain ⟨dirty, entry_eq⟩ := tracks.entry
  rw [objOf, objAt, entry_eq]
  rfl

theorem Coherent.partitionObjs_eq (coherent : self.Coherent klass) (idxType : T) (obj : Obj) :
    self.partitionObjs klass idxType obj =
      (self.partitionEntries klass idxType obj).map (self.objOf obj) := by
  rw [partitionObjs, ← filterMap_eq_map]
  apply filterMap_congr
  intro other listed
  obtain ⟨head, stored, tracks, -⟩ := coherent.mem_partitionEntries.mp listed
  obtain ⟨dirty, entry_eq⟩ := tracks.entry
  rw [comp_apply, tracks.objOf_eq, objAt, entry_eq]
  rfl

theorem Refreshes.eq_of_fullEqual (refreshes : Refreshes klass idxType obj self next addr)
    (coherent : self.Coherent klass) (after : next.Coherent klass) {a b headA headB : Nat}
    {x y : Obj} (first : self.Tracks a idxType headA x) (second : next.Tracks b idxType headB y)
    (equal : objClass.objFullEqual x y = true) : a = b := by
  have same : (klass idxType).SameKey x y :=
    key_of_fullEqual (klass idxType) (coherent.heap.storable first) equal
  by_cases a_eq : a = addr
  · by_cases b_eq : b = addr
    · rw [a_eq, b_eq]
    · exact coherent.eq_of_sameKey first ((refreshes.others b_eq).mp second) same
  · exact after.eq_of_sameKey ((refreshes.others a_eq).mpr first) second same

theorem Refreshes.sameObjs_iff (refreshes : Refreshes klass idxType obj self next addr)
    (coherent : self.Coherent klass) (after : next.Coherent klass) :
    SameObjs objClass (self.partitionObjs klass idxType obj)
        (next.partitionObjs klass idxType obj) ↔
      self.partitionEntries klass idxType obj = next.partitionEntries klass idxType obj ∧
        ∀ a ∈ self.partitionEntries klass idxType obj,
          objClass.objFullEqual (self.objOf obj a) (next.objOf obj a) = true := by
  rw [SameObjs, coherent.partitionObjs_eq, after.partitionObjs_eq, forall₂_map_left_iff,
    forall₂_map_right_iff]
  constructor
  · intro related
    have entries_eq := eq_of_forall₂ related fun a a_mem b b_mem equal => by
      obtain ⟨headA, x, first, -⟩ := coherent.mem_partitionEntries.mp a_mem
      obtain ⟨headB, y, second, -⟩ := after.mem_partitionEntries.mp b_mem
      rw [first.objOf_eq, second.objOf_eq] at equal
      exact refreshes.eq_of_fullEqual coherent after first second equal
    rw [← entries_eq] at related
    exact ⟨entries_eq, forall₂_same.mp related⟩
  · rintro ⟨entries_eq, equal⟩
    rw [← entries_eq]
    exact forall₂_same.mpr equal

end SameObjs

variable {klass : T → NMDedupMultiIdxTypeClass objClass} {self : NMDedupMultiIndex Obj T}
  {idxType : T} {obj : Obj} {entryOrder : Option Nat}

/-- What the branch of `_add` for a tracked entry reports. -/
theorem addExisting_snd (objClass : NMDedupMultiObjClass Obj) (obj : Obj) {addr : Nat}
    {entry : NMDedupMultiEntry Obj} {head : NMDedupMultiHeadEntry T} (mode : NMDedupMultiIdxMode)
    (entryOrder : Option Nat) (entry_eq : self.entries addr = some entry)
    (head_eq : self.heads entry.head = some head) :
    (self.addExisting objClass obj addr mode entryOrder).2 =
      { changed := if KeepsObj objClass obj entry.obj then
          (moveForMode mode entryOrder addr head.lstEntries).2 else true
        outEntry := some addr, outObjOld := some entry.obj } := by
  by_cases keeps : KeepsObj objClass obj entry.obj
  · have keeps' : obj = entry.obj ∨ objClass.objFullEqual obj entry.obj = true := keeps
    simp [addExisting, entrySetDirty, entry_eq, setEntry, head_eq, keeps, keeps']
  · have keeps' : ¬ (obj = entry.obj ∨ objClass.objFullEqual obj entry.obj = true) := keeps
    simp [addExisting, entrySetDirty, entry_eq, setEntry, keeps, keeps']

theorem placed_moveForMode {lstEntries : List Nat} {addr : Nat} (mode : NMDedupMultiIdxMode)
    (nodup : lstEntries.Nodup) (linked : addr ∈ lstEntries)
    (anchored : Anchored entryOrder lstEntries) :
    Placed mode entryOrder addr lstEntries (moveForMode mode entryOrder addr lstEntries).1 := by
  have stays : mode.forces = false ∨ entryOrder = some addr →
      (moveForMode mode entryOrder addr lstEntries).1 = lstEntries := by
    rintro (keeps | rfl)
    · rw [moveForMode_of_not_forces keeps]
    · rw [moveForMode_self]
  constructor
  case mem => exact (moveForMode_perm linked anchored).mem_iff.mpr linked
  case others =>
    by_cases moves : mode.forces = true ∧ entryOrder ≠ some addr
    · exact (moveForMode_stands moves.1 nodup anchored moves.2).erase nodup.not_mem_erase
    · rw [stays]
      rw [not_and_or, Bool.not_eq_true, not_not] at moves
      exact moves
  case stays => exact fun _ => stays
  case stands =>
    intro moves
    obtain ⟨forces, order_ne⟩ := moves linked
    exact moveForMode_stands forces nodup anchored order_ne

theorem Coherent.addExisting_effect (coherent : self.Coherent klass) {addr head : Nat}
    {stored : Obj} (tracks : self.Tracks addr idxType head stored)
    (same : (klass idxType).SameKey obj stored) (mode : NMDedupMultiIdxMode)
    (order_valid : self.OrderValid klass idxType obj entryOrder) :
    AddEffect klass idxType obj mode entryOrder self
      (self.addExisting objClass obj addr mode entryOrder).1
      (self.addExisting objClass obj addr mode entryOrder).2 := by
  obtain ⟨dirty, entry_eq⟩ := tracks.entry
  obtain ⟨lstEntries, len, head_eq⟩ := tracks.head
  have refreshes := coherent.addExisting_refreshes tracks same mode entryOrder
  have after := coherent.addExisting tracks same.1 same.2 mode order_valid
  have nodup := coherent.heap.lstEntries_nodup head_eq
  have linked : addr ∈ lstEntries := (coherent.heap.mem_lstEntries head_eq).mpr ⟨_, entry_eq, rfl⟩
  have anchored := order_valid.anchored coherent.heap head_eq fun other_tracks other_shared =>
    (coherent.heap.same_head other_tracks tracks).mp ((klass idxType).partitionEqual_trans
      ((klass idxType).partitionEqual_symm other_shared) same.1)
  have before_list := coherent.partitionEntries_eq tracks same.1 head_eq
  have new_tracks := (addExisting_tracks objClass obj tracks mode entryOrder).mpr
    (.inr ⟨rfl, rfl, rfl, rfl⟩)
  have found := coherent.lookupObj_eq_some.mpr ⟨head, stored, tracks, same.1, same.2⟩
  have after_list : (self.addExisting objClass obj addr mode entryOrder).1.partitionEntries klass
      idxType obj = (moveForMode mode entryOrder addr lstEntries).1 := by
    obtain ⟨newHead, new, tracked, new_key⟩ := refreshes.tracks
    obtain ⟨-, rfl, rfl⟩ := tracked.unique_head new_tracks
    have after_head : (self.addExisting objClass obj addr mode entryOrder).1.heads newHead =
        some { idxType, lstEntries := (moveForMode mode entryOrder addr lstEntries).1, len } := by
      rw [self.addExisting_fst objClass obj mode entryOrder entry_eq head_eq]
      exact update_self ..
    exact after.partitionEntries_eq new_tracks new_key.1 after_head
  constructor
  case changed_iff =>
    rw [refreshes.sameObjs_iff coherent after, before_list, after_list,
      addExisting_snd objClass obj mode entryOrder entry_eq head_eq]
    dsimp only
    split
    · rename_i keeps
      rw [moveForMode_changed_iff mode addr nodup anchored, and_iff_left_of_imp, ne_comm]
      -- The objects are the same, wherever the entry is.
      intro _ other other_listed
      obtain ⟨⟨old, oldDirty, _⟩, old_eq, rfl⟩ := (coherent.heap.mem_lstEntries head_eq).mp other_listed
      have old_tracks : self.Tracks other idxType _ old := ⟨⟨_, old_eq⟩, ⟨_, _, head_eq⟩⟩
      rw [old_tracks.objOf_eq]
      by_cases same_entry : other = addr
      · subst same_entry
        obtain ⟨-, -, rfl⟩ := old_tracks.unique_head tracks
        rw [if_pos keeps] at new_tracks
        rw [new_tracks.objOf_eq]
        exact objClass.fullEqual_refl _
      · rw [((refreshes.others same_entry).mpr old_tracks).objOf_eq]
        exact objClass.fullEqual_refl _
    · rename_i exchanged
      refine iff_of_true rfl ?_
      rintro ⟨-, equal⟩
      have stored_equal := equal addr linked
      have new_equal := coherent.interned.keeps_or_intern obj stored
      rw [tracks.objOf_eq, new_tracks.objOf_eq] at stored_equal
      exact exchanged (.inr (objClass.fullEqual_trans new_equal (objClass.fullEqual_symm stored_equal)))
  case placed =>
    refine ⟨addr, ?_, ?_, ?_⟩
    · rw [addExisting_snd objClass obj mode entryOrder entry_eq head_eq]
    · rw [before_list]
      exact iff_of_true found linked
    · rw [before_list, after_list]
      exact placed_moveForMode mode nodup linked anchored

variable {headExisting : Existing}

theorem Coherent.addNew_entries (coherent : self.Coherent klass)
    (missing : self.lookupObj klass idxType obj = none)
    (storable : (klass idxType).partitionable obj = true) (mode : NMDedupMultiIdxMode)
    (order_valid : self.OrderValid klass idxType obj entryOrder)
    (head_valid : self.HeadValid klass idxType obj headExisting) :
    ∃ addr, addr ∉ self.partitionEntries klass idxType obj ∧
      (self.addNew klass idxType obj mode entryOrder headExisting).2 =
        { changed := true, outEntry := some addr, outObjOld := none } ∧
      mode.Stands entryOrder addr (self.partitionEntries klass idxType obj)
        ((self.addNew klass idxType obj mode entryOrder headExisting).1.partitionEntries klass
          idxType obj) := by
  have after := coherent.addNew_coherent missing mode order_valid head_valid
  obtain ⟨new_shared, -⟩ := key_of_fullEqual (klass idxType) storable
    (coherent.interned.objIntern obj).2.2
  have fresh : ∀ addr, self.nextAddr ≤ addr → addr ∉ self.partitionEntries klass idxType obj := by
    intro addr beyond listed
    obtain ⟨head, stored, tracks, -⟩ := coherent.mem_partitionEntries.mp listed
    obtain ⟨dirty, entry_eq⟩ := tracks.entry
    exact absurd (coherent.heap.entry_lt entry_eq) (Nat.not_lt.mpr beyond)
  rcases coherent.addNew_cases missing storable mode order_valid head_valid with
    ⟨headAddr, record, found, head_eq, anchored, add_eq⟩ | ⟨unfound, add_eq⟩
  · obtain ⟨first, stored, tracks, shared⟩ := coherent.lookupHead_eq_some.mp found
    obtain ⟨lstEntries, len, first_head⟩ := tracks.head
    cases head_eq.symm.trans first_head
    have before_list := coherent.partitionEntries_eq tracks shared head_eq
    rw [add_eq] at after ⊢
    have new_tracks : (self.linkedToHead idxType (self.objIntern objClass obj).2
        (self.objIntern objClass obj).1.idxObjs headAddr { idxType, lstEntries, len }
        (linkForMode mode entryOrder self.nextAddr lstEntries)).Tracks self.nextAddr idxType
        headAddr (self.objIntern objClass obj).2 :=
      ⟨⟨false, update_self ..⟩, ⟨_, _, update_self ..⟩⟩
    have after_list := after.partitionEntries_eq new_tracks new_shared (update_self ..)
    refine ⟨self.nextAddr, fresh _ (Nat.le_refl _), rfl, ?_⟩
    rw [after_list, before_list]
    exact linkForMode_stands mode self.nextAddr anchored
  · have before_list : self.partitionEntries klass idxType obj = [] := by
      simp [partitionEntries, unfound]
    have no_order : entryOrder = none := by
      refine Option.eq_none_iff_forall_ne_some.mpr fun order order_eq => ?_
      obtain ⟨_, _, tracks, shared⟩ := order_valid order order_eq
      rw [lookupHead_eq_none_of coherent unfound tracks] at shared
      exact Bool.false_ne_true shared
    rw [add_eq] at after ⊢
    have new_tracks : (self.linkedToNewHead idxType (self.objIntern objClass obj).2
        (self.objIntern objClass obj).1.idxObjs).Tracks (self.nextAddr + 1) idxType self.nextAddr
        (self.objIntern objClass obj).2 :=
      ⟨⟨false, update_self ..⟩, ⟨_, _, update_self ..⟩⟩
    have after_list := after.partitionEntries_eq new_tracks new_shared (update_self ..)
    refine ⟨self.nextAddr + 1, fresh _ (Nat.le_succ _), rfl, ?_⟩
    rw [after_list, before_list, no_order]
    cases mode <;> rfl

theorem Coherent.addNew_effect (coherent : self.Coherent klass)
    (missing : self.lookupObj klass idxType obj = none)
    (storable : (klass idxType).partitionable obj = true) (mode : NMDedupMultiIdxMode)
    (order_valid : self.OrderValid klass idxType obj entryOrder)
    (head_valid : self.HeadValid klass idxType obj headExisting) :
    AddEffect klass idxType obj mode entryOrder self
      (self.addNew klass idxType obj mode entryOrder headExisting).1
      (self.addNew klass idxType obj mode entryOrder headExisting).2 := by
  have after := coherent.addNew_coherent missing mode order_valid head_valid
  obtain ⟨addr, fresh, result_eq, stands⟩ :=
    coherent.addNew_entries missing storable mode order_valid head_valid
  have erase_eq := stands.erase fresh
  have mem : addr ∈ (self.addNew klass idxType obj mode entryOrder headExisting).1.partitionEntries
      klass idxType obj := stands.mem
  rw [result_eq]
  constructor
  case changed_iff =>
    refine iff_of_true rfl fun same => ?_
    -- There is one object more.
    have lengths := same.length_eq
    rw [coherent.partitionObjs_eq, after.partitionObjs_eq, length_map, length_map,
      ← erase_eq, length_erase_of_mem mem] at lengths
    have positive := length_pos_of_mem mem
    omega
  case placed =>
    refine ⟨addr, rfl, ?_, ?_⟩
    · rw [missing]
      exact iff_of_false nofun fresh
    · have others := erase_of_not_mem fresh
      constructor
      case mem => exact mem
      case others => rw [erase_eq, others]
      case stays => exact fun old => absurd old fresh
      case stands =>
        intro _
        rw [others]
        exact stands

theorem Coherent.addInternal_effect (coherent : self.Coherent klass)
    (storable : (klass idxType).partitionable obj = true) (mode : NMDedupMultiIdxMode)
    (order_valid : self.OrderValid klass idxType obj entryOrder)
    (head_valid : self.HeadValid klass idxType obj headExisting) :
    AddEffect klass idxType obj mode entryOrder self
      (self.addInternal klass idxType obj (self.lookupObj klass idxType obj) mode entryOrder
        headExisting).1
      (self.addInternal klass idxType obj (self.lookupObj klass idxType obj) mode entryOrder
        headExisting).2 := by
  cases found : self.lookupObj klass idxType obj with
  | some addr =>
    obtain ⟨head, stored, tracks, shared, equal⟩ := coherent.lookupObj_eq_some.mp found
    exact coherent.addExisting_effect tracks ⟨shared, equal⟩ mode order_valid
  | none => exact coherent.addNew_effect found storable mode order_valid head_valid

/-- Adding an object in a state that is reached from an empty index.  The plain function passes no
`entry_order` and no results of lookups. -/
theorem addFull_effect (klass : T → NMDedupMultiIdxTypeClass objClass)
    (ops : List (DedupOp Obj T)) (lawful : (machine klass).Lawful new ops) (idxType : T) (obj : Obj)
    (storable : (klass idxType).partitionable obj = true) (mode : NMDedupMultiIdxMode) :
    (∀ entryOrder entryExisting headExisting,
      Callable klass ((machine klass).run new ops)
        (.addFull idxType obj mode entryOrder entryExisting headExisting) →
      AddEffect klass idxType obj mode entryOrder ((machine klass).run new ops)
        (((machine klass).run new ops).addFull klass idxType obj mode entryOrder entryExisting
          headExisting).1
        (((machine klass).run new ops).addFull klass idxType obj mode entryOrder entryExisting
          headExisting).2) ∧
    AddEffect klass idxType obj mode none ((machine klass).run new ops)
      (((machine klass).run new ops).add klass idxType obj mode).1
      (((machine klass).run new ops).add klass idxType obj mode).2 := by
  have coherent := (coherent_new klass).run lawful
  constructor
  · rintro entryOrder entryExisting headExisting ⟨order_valid, entry_valid, head_valid⟩
    rw [addFull_eq_addInternal mode entryOrder headExisting entry_valid]
    exact coherent.addInternal_effect storable mode order_valid head_valid
  · exact coherent.addInternal_effect storable mode (orderValid_none klass _ idxType obj) trivial

/-- A second version of an object moves behind another entry of its partition. -/
theorem addFull_effect_dedup :
    AddEffect dedupIdxTypeClass ⟨20, 3⟩ ⟨1, 5⟩ .appendForce (some 2)
      ((machine dedupIdxTypeClass).run new
        [.add ⟨20, 3⟩ ⟨1, 1⟩ .append, .add ⟨20, 3⟩ ⟨2, 2⟩ .append])
      (((machine dedupIdxTypeClass).run new
        [.add ⟨20, 3⟩ ⟨1, 1⟩ .append, .add ⟨20, 3⟩ ⟨2, 2⟩ .append]).addFull dedupIdxTypeClass
          ⟨20, 3⟩ ⟨1, 5⟩ .appendForce (some 2) .null .null).1
      (((machine dedupIdxTypeClass).run new
        [.add ⟨20, 3⟩ ⟨1, 1⟩ .append, .add ⟨20, 3⟩ ⟨2, 2⟩ .append]).addFull dedupIdxTypeClass
          ⟨20, 3⟩ ⟨1, 5⟩ .appendForce (some 2) .null .null).2 := by
  refine (addFull_effect dedupIdxTypeClass
    [.add ⟨20, 3⟩ ⟨1, 1⟩ .append, .add ⟨20, 3⟩ ⟨2, 2⟩ .append] ⟨trivial, trivial, trivial⟩
    ⟨20, 3⟩ ⟨1, 5⟩ rfl .appendForce).1 (some 2) .null .null ⟨?_, trivial, trivial⟩
  intro order order_eq
  obtain rfl := Option.mem_some_iff.mp order_eq
  exact ⟨0, ⟨2, 2⟩, ⟨⟨false, rfl⟩, ⟨_, _, rfl⟩⟩, rfl⟩

end NMDedupMultiIndex

end NetworkManager
