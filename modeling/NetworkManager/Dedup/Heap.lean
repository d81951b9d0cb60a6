import NetworkManager.Dedup.Invariant

/-!
# Elementary changes of the multi-index

Rewriting a record, reordering a list, interning an object, linking a new entry and unlinking an
entry are the changes from which the operations of the index are built.  Each of them keeps the
records coherent under its own side conditions.
-/

set_option linter.unusedSectionVars false

namespace NetworkManager

namespace NMDedupMultiIndex

open List Option

variable {Obj T : Type*} [DecidableEq Obj] [DecidableEq T] {objClass : NMDedupMultiObjClass Obj}
  {klass : T → NMDedupMultiIdxTypeClass objClass} {self : NMDedupMultiIndex Obj T}

/-- An entry may exchange its object for one with the same key. -/
def EntryAgrees (klass : T → NMDedupMultiIdxTypeClass objClass) (self : NMDedupMultiIndex Obj T)
    (addr : Nat) (old new : NMDedupMultiEntry Obj) : Prop :=
  new.head = old.head ∧ ∀ {idxType head}, self.Tracks addr idxType head old.obj →
    (klass idxType).partitionEqual (some old.obj) (some new.obj) = true ∧
    (klass idxType).idEqual old.obj new.obj = true

theorem EntryAgrees.refl (addr : Nat) (entry : NMDedupMultiEntry Obj) :
    EntryAgrees klass self addr entry entry :=
  ⟨rfl, fun _ => ⟨(klass _).partitionEqual_refl entry.obj, (klass _).idEqual_refl entry.obj⟩⟩

/-- A head may reorder its list. -/
structure HeadAgrees (old new : NMDedupMultiHeadEntry T) : Prop where
  idxType : new.idxType = old.idxType
  len : new.len = old.len
  perm : new.lstEntries.Perm old.lstEntries

theorem HeadAgrees.refl (head : NMDedupMultiHeadEntry T) : HeadAgrees head head :=
  ⟨rfl, rfl, Perm.refl _⟩

/-- A change that keeps every record's place. -/
structure Agrees (klass : T → NMDedupMultiIdxTypeClass objClass)
    (index other : NMDedupMultiIndex Obj T) : Prop where
  entries : ∀ addr, Rel (EntryAgrees klass index addr) (index.entries addr) (other.entries addr)
  heads : ∀ addr, Rel HeadAgrees (index.heads addr) (other.heads addr)
  lstIdx : ∀ idxType, (other.idxTypes idxType).lstIdx = (index.idxTypes idxType).lstIdx
  nextAddr : other.nextAddr = index.nextAddr

section

variable {α : Type*} {r : α → α → Prop} {a b : α}

theorem rel_refl (refl : ∀ a, r a a) : ∀ x, Rel r x x
  | none => .none
  | some a => .some (refl a)

theorem rel_some {x : Option α} (rel : Rel r x (some b)) : ∃ a, x = some a ∧ r a b := by
  cases rel with
  | some related => exact ⟨_, rfl, related⟩

theorem rel_exists {x y : Option α} {p : α → Prop} (rel : Rel r x y)
    (same : ∀ {a b}, r a b → (p b ↔ p a)) : (∃ b, y = some b ∧ p b) ↔ ∃ a, x = some a ∧ p a := by
  cases rel with
  | none => rfl
  | some related => simp [same related]

theorem rel_update {r : Nat → α → α → Prop} {f : Nat → Option α} {addr : Nat}
    (refl : ∀ i a, r i a a) (f_eq : f addr = some a) (related : r addr a b) (i : Nat) :
    Rel (r i) (f i) (Function.update f addr (some b) i) := by
  by_cases same : i = addr
  · subst same
    rw [f_eq, Function.update_self]
    exact .some related
  · rw [Function.update_of_ne same]
    exact rel_refl (refl i) _

end

variable {other : NMDedupMultiIndex Obj T}

theorem Agrees.live_iff (agrees : Agrees klass self other) (node : IdxEntry) :
    other.Live node ↔ self.Live node := by
  cases node with
  | entry addr => simpa [Live] using rel_exists (p := fun _ => True) (agrees.entries addr) (by simp)
  | head addr => simpa [Live] using rel_exists (p := fun _ => True) (agrees.heads addr) (by simp)

theorem HeapCoherent.agrees (coherent : self.HeapCoherent klass)
    (agrees : Agrees klass self other) : other.HeapCoherent klass := by
  have entry_old {addr : Nat} {entry : NMDedupMultiEntry Obj}
      (entry_eq : other.entries addr = some entry) :
      ∃ old, self.entries addr = some old ∧ EntryAgrees klass self addr old entry :=
    rel_some (entry_eq ▸ agrees.entries addr)
  have head_old {addr : Nat} {head : NMDedupMultiHeadEntry T}
      (head_eq : other.heads addr = some head) :
      ∃ old, self.heads addr = some old ∧ HeadAgrees old head :=
    rel_some (head_eq ▸ agrees.heads addr)
  have tracks_old : ∀ {addr idxType head obj}, other.Tracks addr idxType head obj →
      ∃ old, self.Tracks addr idxType head old ∧
        (klass idxType).partitionEqual (some old) (some obj) = true ∧
        (klass idxType).idEqual old obj = true := by
    rintro addr idxType head obj ⟨⟨dirty, entry_eq⟩, ⟨lst, len, head_eq⟩⟩
    obtain ⟨oldEntry, old_entry, entry_head, same_key⟩ := entry_old entry_eq
    obtain ⟨oldHead, old_head, same⟩ := head_old head_eq
    have tracks : self.Tracks addr idxType head oldEntry.obj :=
      self.tracks_iff.mpr ⟨_, _, old_entry, old_head, rfl, entry_head.symm, same.idxType.symm⟩
    exact ⟨oldEntry.obj, tracks, same_key tracks⟩
  refine ⟨?_, ?_, ?_, ?_, ?_, ?_, ?_, ?_, ?_, ?_, ?_, ?_⟩
  · intro idxType
    rw [agrees.lstIdx]
    exact coherent.lstIdx_nodup idxType
  · intro idxType addr
    rw [agrees.lstIdx, coherent.mem_lstIdx]
    exact (rel_exists (agrees.heads addr) fun same => by rw [same.idxType]).symm
  · intro addr head head_eq
    obtain ⟨old, old_eq, same⟩ := head_old head_eq
    exact same.perm.nodup_iff.mpr (coherent.lstEntries_nodup old_eq)
  · intro addr head head_eq nil
    obtain ⟨old, old_eq, same⟩ := head_old head_eq
    exact coherent.lstEntries_ne old_eq (nil ▸ same.perm).symm.eq_nil
  · intro addr head head_eq
    obtain ⟨old, old_eq, same⟩ := head_old head_eq
    rw [same.len, same.perm.length_eq, coherent.len_eq old_eq]
  · intro addr head head_eq entryAddr
    obtain ⟨old, old_eq, same⟩ := head_old head_eq
    rw [same.perm.mem_iff, coherent.mem_lstEntries old_eq]
    exact (rel_exists (agrees.entries entryAddr) fun same => by rw [same.1]).symm
  · intro addr entry entry_eq
    obtain ⟨oldEntry, old_entry, head_same, -⟩ := entry_old entry_eq
    rw [head_same]
    exact (agrees.live_iff (.head oldEntry.head)).mpr (coherent.head_live old_entry)
  · intro addr entry entry_eq
    obtain ⟨oldEntry, old_entry, -⟩ := entry_old entry_eq
    exact agrees.nextAddr ▸ coherent.entry_lt old_entry
  · intro addr head head_eq
    obtain ⟨old, old_eq, -⟩ := head_old head_eq
    exact agrees.nextAddr ▸ coherent.head_lt old_eq
  · intro idxType a b headA headB x y tracksA tracksB
    obtain ⟨oldA, oldTracksA, sharedA, -⟩ := tracks_old tracksA
    obtain ⟨oldB, oldTracksB, sharedB, -⟩ := tracks_old tracksB
    rw [← coherent.same_head oldTracksA oldTracksB]
    constructor
    · intro shared
      exact (klass idxType).partitionEqual_trans sharedA ((klass idxType).partitionEqual_trans
        shared ((klass idxType).partitionEqual_symm sharedB))
    · intro shared
      exact (klass idxType).partitionEqual_trans ((klass idxType).partitionEqual_symm sharedA)
        ((klass idxType).partitionEqual_trans shared sharedB)
  · intro idxType a b head x y tracksA tracksB equal
    obtain ⟨oldA, oldTracksA, -, equalA⟩ := tracks_old tracksA
    obtain ⟨oldB, oldTracksB, -, equalB⟩ := tracks_old tracksB
    exact coherent.unique oldTracksA oldTracksB ((klass idxType).idEqual_trans equalA
      ((klass idxType).idEqual_trans equal ((klass idxType).idEqual_symm equalB)))
  · intro idxType addr head obj tracks
    obtain ⟨old, oldTracks, shared, equal⟩ := tracks_old tracks
    exact (klass idxType).partitionable_of_key shared equal (coherent.storable oldTracks)

section

variable (coherent : self.Coherent klass)

include coherent

/-- A change that keeps every record's place and the table keeps the index coherent. -/
theorem Coherent.agrees (agrees : Agrees klass self other)
    (idx_eq : other.idxEntries = self.idxEntries) (interned : other.Interned objClass) :
    other.Coherent klass := by
  refine ⟨coherent.heap.agrees agrees, ?_, ?_, interned⟩
  · rw [idx_eq]
    exact coherent.idxEntries_nodup
  · intro node
    rw [idx_eq, coherent.mem_idxEntries, agrees.live_iff]

/-- Rewriting a live entry in place keeps the index coherent when its key is kept. -/
theorem Coherent.setEntry (addr : Nat) {old new : NMDedupMultiEntry Obj}
    (old_eq : self.entries addr = some old) (stored : new.obj ∈ self.idxObjs)
    (same : EntryAgrees klass self addr old new) :
    (self.setEntry addr (some new)).Coherent klass := by
  refine coherent.agrees ⟨rel_update EntryAgrees.refl old_eq same,
    fun _ => rel_refl HeadAgrees.refl _, fun _ => rfl, rfl⟩ rfl ⟨?_, coherent.interned.pairwise⟩
  intro other entry entry_eq
  simp only [NMDedupMultiIndex.setEntry, Function.update_apply] at entry_eq
  split at entry_eq
  · cases entry_eq
    exact stored
  · exact coherent.interned.stored entry_eq

theorem Coherent.entrySetDirty (addr : Nat) (dirty : Bool) :
    (self.entrySetDirty addr dirty).Coherent klass := by
  unfold NMDedupMultiIndex.entrySetDirty
  split
  · rename_i entry entry_eq
    exact coherent.setEntry addr entry_eq
      (show entry.obj ∈ self.idxObjs from coherent.interned.stored entry_eq)
      (EntryAgrees.refl addr entry)
  · exact coherent

theorem Coherent.setLstEntries (addr : Nat) (lstEntries : List Nat)
    (perm : ∀ head, self.heads addr = some head → lstEntries.Perm head.lstEntries) :
    (self.setLstEntries addr lstEntries).Coherent klass := by
  unfold NMDedupMultiIndex.setLstEntries
  split
  · rename_i old old_eq
    exact coherent.agrees ⟨fun _ => rel_refl (EntryAgrees.refl _) _,
      rel_update (fun _ => HeadAgrees.refl) old_eq ⟨rfl, rfl, perm old old_eq⟩,
      fun _ => rfl, rfl⟩ rfl ⟨coherent.interned.stored, coherent.interned.pairwise⟩
  · exact coherent

theorem Coherent.setIdxObjs (idxObjs : List Obj)
    (interned : ({ self with idxObjs } : NMDedupMultiIndex Obj T).Interned objClass) :
    ({ self with idxObjs } : NMDedupMultiIndex Obj T).Coherent klass :=
  coherent.agrees ⟨fun _ => rel_refl (EntryAgrees.refl _) _, fun _ => rel_refl HeadAgrees.refl _,
    fun _ => rfl, rfl⟩ rfl interned

end

theorem objIntern_fst (self : NMDedupMultiIndex Obj T) (objClass : NMDedupMultiObjClass Obj)
    (obj : Obj) :
    (self.objIntern objClass obj).1 =
      { self with idxObjs := (self.objIntern objClass obj).1.idxObjs } := by
  unfold objIntern
  split
  · rfl
  · split <;> rfl

theorem Interned.objIntern (interned : self.Interned objClass) (obj : Obj) :
    (self.objIntern objClass obj).1.Interned objClass ∧
      (self.objIntern objClass obj).2 ∈ (self.objIntern objClass obj).1.idxObjs ∧
      objClass.objFullEqual obj (self.objIntern objClass obj).2 = true := by
  unfold NMDedupMultiIndex.objIntern
  by_cases member : obj ∈ self.idxObjs
  · simp only [member, if_true]
    exact ⟨interned, trivial, objClass.fullEqual_refl obj⟩
  · simp only [member, if_false]
    cases found : self.objFind objClass obj with
    | some objOld =>
      have equal : objClass.objFullEqual obj objOld = true := by
        have matched := find?_some found
        rcases Bool.or_eq_true_iff.mp matched with same | equal
        · rw [of_decide_eq_true same]
          exact objClass.fullEqual_refl objOld
        · exact equal
      exact ⟨interned, List.mem_of_find?_eq_some found, equal⟩
    | none =>
      have not_equal : ∀ other ∈ self.idxObjs, objClass.objFullEqual obj other = false := by
        intro other other_mem
        have unmatched := find?_eq_none.mp found other other_mem
        simp only [dictIdxObjsEqual, Bool.or_eq_true, not_or, Bool.not_eq_true] at unmatched
        exact unmatched.2
      set objNew := if objClass.objNeedsClone obj then objClass.objClone obj else obj
        with objNew_eq
      have new_equal : objClass.objFullEqual obj objNew = true := by
        rw [objNew_eq]
        split
        · exact objClass.fullEqual_symm (objClass.fullEqual_clone obj)
        · exact objClass.fullEqual_refl obj
      refine ⟨⟨?_, ?_⟩, by simp, new_equal⟩
      · intro addr entry entry_eq
        exact mem_append_left _ (interned.stored entry_eq)
      · refine pairwise_append.mpr ⟨interned.pairwise, pairwise_singleton _ _, ?_⟩
        intro other other_mem new new_mem
        rw [mem_singleton.mp new_mem]
        refine Bool.eq_false_iff.mpr fun equal => ?_
        have contrary := objClass.fullEqual_trans new_equal (objClass.fullEqual_symm equal)
        rw [not_equal other other_mem] at contrary
        exact Bool.false_ne_true contrary

theorem Coherent.objIntern (coherent : self.Coherent klass) (obj : Obj) :
    (self.objIntern objClass obj).1.Coherent klass := by
  rw [objIntern_fst]
  refine coherent.setIdxObjs _ ?_
  rw [← objIntern_fst]
  exact (coherent.interned.objIntern obj).1

theorem Coherent.objRelease (coherent : self.Coherent klass) {obj : Obj}
    (unused : ∀ addr entry, self.entries addr = some entry → entry.obj ≠ obj) :
    (self.objRelease obj).Coherent klass := by
  refine coherent.setIdxObjs _ ⟨?_, ?_⟩
  · intro addr entry entry_eq
    exact (mem_erase_of_ne (unused addr entry entry_eq)).mpr
      (coherent.interned.stored entry_eq)
  · exact coherent.interned.pairwise.sublist erase_sublist

theorem HeapCoherent.link (coherent : self.HeapCoherent klass) (addr head : Nat) (idxType : T) (obj : Obj) (dirty : Bool)
    (before after : List Nat)
    (entries_eq : ∀ a, other.entries a =
      if a = addr then some { obj, dirty, head } else self.entries a)
    (heads_eq : ∀ h, other.heads h =
      if h = head then some { idxType, lstEntries := after, len := before.length + 1 }
      else self.heads h)
    (old_head : self.heads head = some { idxType, lstEntries := before, len := before.length } ∨
      self.heads head = none ∧ before = []) (perm : after.Perm (addr :: before))
    (fresh : self.entries addr = none) (idx_nodup : ∀ t, (other.idxTypes t).lstIdx.Nodup)
    (mem_idx : ∀ t h, h ∈ (other.idxTypes t).lstIdx ↔
      h ∈ (self.idxTypes t).lstIdx ∨ (h = head ∧ t = idxType))
    (next_le : self.nextAddr ≤ other.nextAddr) (addr_lt : addr < other.nextAddr)
    (head_lt : head < other.nextAddr)
    (partition : ∀ {b h stored}, self.Tracks b idxType h stored →
      ((klass idxType).partitionEqual (some obj) (some stored) = true ↔ h = head))
    (absent : ∀ {b stored}, self.Tracks b idxType head stored →
      (klass idxType).idEqual obj stored = false)
    (storable : (klass idxType).partitionable obj = true) : other.HeapCoherent klass := by
  have old_type : ∀ {headEntry}, self.heads head = some headEntry →
      headEntry = { idxType, lstEntries := before, len := before.length } := by
    intro headEntry head_eq
    rcases old_head with present | ⟨missing, -⟩
    · exact Option.some.inj (head_eq.symm.trans present)
    · exact absurd (head_eq.symm.trans missing) (by simp)
  have tracks_cases : ∀ {b t h stored}, other.Tracks b t h stored →
      (b = addr ∧ t = idxType ∧ h = head ∧ stored = obj) ∨ self.Tracks b t h stored := by
    rintro b t h stored ⟨⟨d, entry_eq⟩, ⟨lst, len, head_eq⟩⟩
    rw [entries_eq] at entry_eq
    rw [heads_eq] at head_eq
    by_cases new : b = addr
    · rw [if_pos new] at entry_eq
      cases entry_eq
      rw [if_pos rfl] at head_eq
      cases head_eq
      exact Or.inl ⟨new, rfl, rfl, rfl⟩
    · rw [if_neg new] at entry_eq
      refine Or.inr ⟨⟨d, entry_eq⟩, ?_⟩
      by_cases same : h = head
      · subst same
        rw [if_pos rfl] at head_eq
        cases head_eq
        obtain ⟨old, old_eq⟩ := coherent.head_live entry_eq
        exact ⟨_, _, (old_type old_eq) ▸ old_eq⟩
      · rw [if_neg same] at head_eq
        exact ⟨lst, len, head_eq⟩
  have before_mem : ∀ {b}, b ∈ before ↔
      ∃ entry, self.entries b = some entry ∧ entry.head = head := by
    intro b
    rcases old_head with present | ⟨missing, rfl⟩
    · exact coherent.mem_lstEntries present
    · constructor
      · intro linked
        simp at linked
      · rintro ⟨entry, entry_eq, rfl⟩
        obtain ⟨headEntry, head_eq⟩ := coherent.head_live entry_eq
        exact absurd (head_eq.symm.trans missing) (by simp)
  have before_nodup : before.Nodup := by
    rcases old_head with present | ⟨-, rfl⟩
    · exact coherent.lstEntries_nodup present
    · exact nodup_nil
  have not_before : addr ∉ before := by
    intro linked
    obtain ⟨entry, entry_eq, -⟩ := before_mem.mp linked
    exact absurd (entry_eq.symm.trans fresh) (by simp)
  refine ⟨idx_nodup, ?_, ?_, ?_, ?_, ?_, ?_, ?_, ?_, ?_, ?_, ?_⟩
  · intro t h
    rw [mem_idx, coherent.mem_lstIdx, heads_eq]
    by_cases same : h = head
    · subst same
      constructor
      · rintro (⟨headEntry, head_eq, rfl⟩ | ⟨-, rfl⟩)
        · exact ⟨_, if_pos rfl, by simp [old_type head_eq]⟩
        · exact ⟨_, if_pos rfl, rfl⟩
      · rintro ⟨headEntry, head_eq, rfl⟩
        rw [if_pos rfl] at head_eq
        cases head_eq
        exact Or.inr ⟨rfl, rfl⟩
    · simp [same]
  · intro h headEntry head_eq
    rw [heads_eq] at head_eq
    split at head_eq
    · cases head_eq
      exact perm.nodup_iff.mpr (nodup_cons.mpr ⟨not_before, before_nodup⟩)
    · exact coherent.lstEntries_nodup head_eq
  · intro h headEntry head_eq
    rw [heads_eq] at head_eq
    split at head_eq
    · cases head_eq
      intro nil
      have nil_perm : [].Perm (addr :: before) := by
        rw [← (show after = [] from nil)]
        exact perm
      exact absurd nil_perm.symm.eq_nil (by simp)
    · exact coherent.lstEntries_ne head_eq
  · intro h headEntry head_eq
    rw [heads_eq] at head_eq
    split at head_eq
    · cases head_eq
      simp [perm.length_eq]
    · exact coherent.len_eq head_eq
  · intro h headEntry head_eq b
    rw [heads_eq] at head_eq
    rw [entries_eq]
    by_cases same : h = head
    · subst same
      rw [if_pos rfl] at head_eq
      cases head_eq
      rw [perm.mem_iff, mem_cons, before_mem]
      by_cases new : b = addr
      · simp [new]
      · simp [new]
    · rw [if_neg same] at head_eq
      rw [coherent.mem_lstEntries head_eq]
      by_cases new : b = addr
      · subst new
        simp [fresh, Ne.symm same]
      · simp [new]
  · intro b entry entry_eq
    rw [entries_eq] at entry_eq
    rw [heads_eq]
    split at entry_eq
    · cases entry_eq
      exact ⟨_, if_pos rfl⟩
    · obtain ⟨headEntry, head_eq⟩ := coherent.head_live entry_eq
      split
      · exact ⟨_, rfl⟩
      · exact ⟨headEntry, head_eq⟩
  · intro b entry entry_eq
    rw [entries_eq] at entry_eq
    split at entry_eq
    · rename_i new
      exact new ▸ addr_lt
    · exact Nat.lt_of_lt_of_le (coherent.entry_lt entry_eq) next_le
  · intro h headEntry head_eq
    rw [heads_eq] at head_eq
    split at head_eq
    · rename_i same
      exact same ▸ head_lt
    · exact Nat.lt_of_lt_of_le (coherent.head_lt head_eq) next_le
  · intro t a b headA headB x y tracksA tracksB
    rcases tracks_cases tracksA with ⟨rfl, rfl, rfl, rfl⟩ | oldA
    · rcases tracks_cases tracksB with ⟨-, -, rfl, rfl⟩ | oldB
      · simp [NMDedupMultiIdxTypeClass.partitionEqual_refl]
      · rw [partition oldB]
        exact eq_comm
    · rcases tracks_cases tracksB with ⟨rfl, rfl, rfl, rfl⟩ | oldB
      · rw [← partition oldA]
        exact ⟨(klass _).partitionEqual_symm, (klass _).partitionEqual_symm⟩
      · exact coherent.same_head oldA oldB
  · intro t a b h x y tracksA tracksB equal
    rcases tracks_cases tracksA with ⟨rfl, rfl, rfl, rfl⟩ | oldA
    · rcases tracks_cases tracksB with ⟨rfl, -, -, -⟩ | oldB
      · rfl
      · rw [absent oldB] at equal
        exact absurd equal (by simp)
    · rcases tracks_cases tracksB with ⟨rfl, rfl, rfl, rfl⟩ | oldB
      · have symm := (klass _).idEqual_symm equal
        rw [absent oldA] at symm
        exact absurd symm (by simp)
      · exact coherent.unique oldA oldB equal
  · intro t b h stored tracks
    rcases tracks_cases tracks with ⟨-, rfl, -, rfl⟩ | old
    · exact storable
    · exact coherent.storable old

theorem HeapCoherent.unlink (coherent : self.HeapCoherent klass) {addr : Nat} {entry : NMDedupMultiEntry Obj}
    {head : NMDedupMultiHeadEntry T} (entry_eq : self.entries addr = some entry)
    (head_eq : self.heads entry.head = some head)
    (entries_eq : ∀ a, other.entries a = if a = addr then none else self.entries a)
    (heads_eq : ∀ h, other.heads h =
      if h = entry.head then
        if head.lstEntries.erase addr = [] then none
        else some { head with lstEntries := head.lstEntries.erase addr, len := head.len - 1 }
      else self.heads h)
    (idx_eq : ∀ t, (other.idxTypes t).lstIdx =
      if t = head.idxType ∧ head.lstEntries.erase addr = [] then
        (self.idxTypes t).lstIdx.erase entry.head
      else (self.idxTypes t).lstIdx) (next_eq : other.nextAddr = self.nextAddr) :
    other.HeapCoherent klass := by
  have linked : addr ∈ head.lstEntries :=
    (coherent.mem_lstEntries head_eq).mpr ⟨entry, entry_eq, rfl⟩
  -- A head is the one that lost the entry, or it is as before.
  have heads_cases : ∀ {h headEntry}, other.heads h = some headEntry →
      (h = entry.head ∧ head.lstEntries.erase addr ≠ [] ∧
        headEntry = { head with lstEntries := head.lstEntries.erase addr, len := head.len - 1 }) ∨
      (h ≠ entry.head ∧ self.heads h = some headEntry) := by
    intro h headEntry new_eq
    rw [heads_eq] at new_eq
    split at new_eq
    · rename_i same
      split at new_eq
      · cases new_eq
      · rename_i filled
        exact .inl ⟨same, filled, (Option.some.inj new_eq).symm⟩
    · rename_i differs
      exact .inr ⟨differs, new_eq⟩
  have heads_old : ∀ {h headEntry}, other.heads h = some headEntry →
      ∃ old, self.heads h = some old ∧ headEntry.idxType = old.idxType := by
    intro h headEntry new_eq
    rcases heads_cases new_eq with ⟨rfl, -, rfl⟩ | ⟨-, old_eq⟩
    · exact ⟨head, head_eq, rfl⟩
    · exact ⟨headEntry, old_eq, rfl⟩
  have entries_old : ∀ {b old}, other.entries b = some old → b ≠ addr ∧
      self.entries b = some old := by
    intro b old new_eq
    rw [entries_eq] at new_eq
    split at new_eq
    · simp at new_eq
    · rename_i differs
      exact ⟨differs, new_eq⟩
  have tracks_old : ∀ {b t h stored}, other.Tracks b t h stored → self.Tracks b t h stored := by
    rintro b t h stored ⟨⟨d, new_entry⟩, ⟨lst, len, new_head⟩⟩
    obtain ⟨old, old_eq, type_eq⟩ := heads_old new_head
    exact self.tracks_iff.mpr ⟨_, old, (entries_old new_entry).2, old_eq, rfl, rfl, type_eq.symm⟩
  have nodup := coherent.lstEntries_nodup head_eq
  refine ⟨?_, ?_, ?_, ?_, ?_, ?_, ?_, ?_, ?_, ?_, ?_, ?_⟩
  · intro t
    rw [idx_eq]
    split
    · exact (coherent.lstIdx_nodup t).erase _
    · exact coherent.lstIdx_nodup t
  · intro t h
    rw [idx_eq, heads_eq]
    by_cases same : h = entry.head
    · subst same
      by_cases last : head.lstEntries.erase addr = []
      · have gone : entry.head ∉ (self.idxTypes head.idxType).lstIdx.erase entry.head :=
          (coherent.lstIdx_nodup head.idxType).not_mem_erase
        by_cases type_eq : t = head.idxType
        · subst type_eq
          simp [last, gone]
        · have other_type : entry.head ∉ (self.idxTypes t).lstIdx := by
            rw [coherent.mem_lstIdx]
            rintro ⟨old, old_eq, rfl⟩
            cases head_eq.symm.trans old_eq
            exact type_eq rfl
          simp [last, type_eq, other_type]
      · simp only [last, and_false, if_false, if_true]
        rw [coherent.mem_lstIdx, head_eq]
        simp
    · have erase_iff : h ∈ (self.idxTypes t).lstIdx.erase entry.head ↔
          h ∈ (self.idxTypes t).lstIdx := mem_erase_of_ne same
      rw [if_neg same]
      split
      · rw [erase_iff, coherent.mem_lstIdx]
      · rw [coherent.mem_lstIdx]
  · intro h headEntry new_eq
    rcases heads_cases new_eq with ⟨-, -, rfl⟩ | ⟨-, old_eq⟩
    · exact nodup.erase addr
    · exact coherent.lstEntries_nodup old_eq
  · intro h headEntry new_eq
    rcases heads_cases new_eq with ⟨-, filled, rfl⟩ | ⟨-, old_eq⟩
    · exact filled
    · exact coherent.lstEntries_ne old_eq
  · intro h headEntry new_eq
    rcases heads_cases new_eq with ⟨-, -, rfl⟩ | ⟨-, old_eq⟩
    · rw [length_erase_of_mem linked, coherent.len_eq head_eq]
    · exact coherent.len_eq old_eq
  · intro h headEntry new_eq b
    rw [entries_eq]
    rcases heads_cases new_eq with ⟨rfl, -, rfl⟩ | ⟨differs, old_eq⟩
    · rw [nodup.mem_erase_iff, coherent.mem_lstEntries head_eq]
      by_cases removed : b = addr
      · simp [removed]
      · simp [removed]
    · rw [coherent.mem_lstEntries old_eq]
      by_cases removed : b = addr
      · subst removed
        simp [entry_eq, Ne.symm differs]
      · simp [removed]
  · intro b old new_eq
    obtain ⟨differs, old_eq⟩ := entries_old new_eq
    obtain ⟨headEntry, live⟩ := coherent.head_live old_eq
    rw [heads_eq]
    split
    · rename_i same
      have stays : b ∈ head.lstEntries.erase addr := by
        rw [nodup.mem_erase_iff, coherent.mem_lstEntries head_eq]
        exact ⟨differs, old, old_eq, same⟩
      rw [if_neg (ne_nil_of_mem stays)]
      exact ⟨_, rfl⟩
    · exact ⟨headEntry, live⟩
  · intro b old new_eq
    rw [next_eq]
    exact coherent.entry_lt (entries_old new_eq).2
  · intro h headEntry new_eq
    obtain ⟨old, old_eq, -⟩ := heads_old new_eq
    rw [next_eq]
    exact coherent.head_lt old_eq
  · intro t a b headA headB x y tracksA tracksB
    exact coherent.same_head (tracks_old tracksA) (tracks_old tracksB)
  · intro t a b h x y tracksA tracksB equal
    exact coherent.unique (tracks_old tracksA) (tracks_old tracksB) equal
  · intro t b h stored tracks
    exact coherent.storable (tracks_old tracks)

end NMDedupMultiIndex

end NetworkManager
