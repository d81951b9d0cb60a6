import NetworkManager.Dedup.Reachable

/-!
# The contents of a multi-index

What an operation does to the stored objects, regardless of the shape of the records: which entries
are tracked afterwards, under which index type and head, and with which object.
-/

set_option linter.unusedSectionVars false

namespace NetworkManager

namespace NMDedupMultiIndex

open Function NMDedupMultiIndex Option

variable {Obj T : Type*} [DecidableEq Obj] [DecidableEq T] {objClass : NMDedupMultiObjClass Obj}

/-- Whether an index type stores an object. -/
def Holds (self : NMDedupMultiIndex Obj T) (idxType : T) (obj : Obj) : Prop :=
  ∃ addr head, self.Tracks addr idxType head obj

variable {addr : Nat} {idxType : T} {head : Nat} {obj : Obj}
  {klass : T → NMDedupMultiIdxTypeClass objClass} {self : NMDedupMultiIndex Obj T} {stored : Obj}
  {entryOrder : Option Nat} {headExisting : Existing}

theorem tracks_iff_type (self : NMDedupMultiIndex Obj T) :
    self.Tracks addr idxType head obj ↔
      (∃ dirty, self.entries addr = some { obj, dirty, head }) ∧
        (self.heads head).map (·.idxType) = some idxType := by
  constructor
  · rintro ⟨entry, ⟨lstEntries, len, head_eq⟩⟩
    exact ⟨entry, by rw [head_eq]; rfl⟩
  · rintro ⟨entry, type_eq⟩
    obtain ⟨⟨_, lstEntries, len⟩, head_eq, rfl⟩ := map_eq_some_iff.mp type_eq
    exact ⟨entry, ⟨lstEntries, len, head_eq⟩⟩

theorem Coherent.removeEntryInternal_tracks (coherent : self.Coherent klass) (removed : Nat) :
    (self.removeEntryInternal klass removed).1.Tracks addr idxType head obj ↔
      self.Tracks addr idxType head obj ∧ addr ≠ removed := by
  cases entry_eq : self.entries removed with
  | none =>
    simp only [NMDedupMultiIndex.removeEntryInternal, entry_eq]
    refine (and_iff_left_of_imp fun tracks => ?_).symm
    rintro rfl
    obtain ⟨_, tracked⟩ := tracks.entry
    simp [entry_eq] at tracked
  | some entry =>
    obtain ⟨owner, owner_eq⟩ := coherent.heap.head_live entry_eq
    rw [coherent.removeEntryInternal_eq entry_eq owner_eq, tracks_iff_type, tracks_iff_type]
    by_cases same : addr = removed
    · split <;> simp [same]
    · split
      · rename_i last
        -- The head dies with its only entry.
        have alive : (∃ dirty, self.entries addr = some { obj, dirty, head }) →
            head ≠ entry.head := by
          rintro ⟨dirty, row_eq⟩ rfl
          have listed := (coherent.heap.mem_lstEntries owner_eq).mpr ⟨_, row_eq, rfl⟩
          have kept := (List.mem_erase_of_ne same).mpr listed
          simp [last] at kept
        simp only [update_of_ne same, same, ne_eq, not_false_eq_true, and_true]
        refine and_congr_right fun row => ?_
        rw [update_of_ne (alive row)]
      · simp only [update_of_ne same, same, ne_eq, not_false_eq_true, and_true]
        refine and_congr_right fun _ => ?_
        by_cases owned : head = entry.head
        · simp [owned, owner_eq]
        · rw [update_of_ne owned]

variable {ownType : T} {other : Obj} {newType : T}

/-- Adding a tracked key again exchanges the object of its entry. -/
theorem addExisting_tracks (objClass : NMDedupMultiObjClass Obj) (obj : Obj) {entryAddr owner : Nat}
    (tracks : self.Tracks entryAddr ownType owner stored) (mode : NMDedupMultiIdxMode)
    (entryOrder : Option Nat) :
    (self.addExisting objClass obj entryAddr mode entryOrder).1.Tracks addr idxType head other ↔
      (self.Tracks addr idxType head other ∧ addr ≠ entryAddr) ∨
        (addr = entryAddr ∧ idxType = ownType ∧ head = owner ∧
          other = if KeepsObj objClass obj stored then stored
            else (self.objIntern objClass obj).2) := by
  obtain ⟨dirty, entry_eq⟩ := tracks.entry
  obtain ⟨lst, len, head_eq⟩ := tracks.head
  rw [self.addExisting_fst objClass obj mode entryOrder entry_eq head_eq, tracks_iff_type,
    tracks_iff_type]
  by_cases same : addr = entryAddr
  · subst same
    simp only [update_self, Option.some.injEq, NMDedupMultiEntry.mk.injEq, ne_eq,
      not_true_eq_false, and_false, false_or, true_and]
    constructor
    · rintro ⟨⟨_, rfl, rfl, rfl⟩, type_eq⟩
      simp only [update_self, map_some, Option.some.injEq] at type_eq
      exact ⟨type_eq.symm, rfl, rfl⟩
    · rintro ⟨rfl, rfl, rfl⟩
      simp
  · simp only [update_of_ne same, same, ne_eq, not_false_eq_true, and_true, false_and, or_false]
    refine and_congr_right fun _ => ?_
    by_cases owned : head = owner
    · simp [owned, head_eq]
    · rw [update_of_ne owned]

section

variable (coherent : self.Coherent klass)

include coherent

theorem Coherent.addNew_tracks (missing : self.lookupObj klass newType obj = none)
    (storable : (klass newType).partitionable obj = true) (mode : NMDedupMultiIdxMode)
    (order_valid : self.OrderValid klass newType obj entryOrder)
    (head_valid : self.HeadValid klass newType obj headExisting) :
    ∃ new newHead,
      (self.addNew klass newType obj mode entryOrder headExisting).2.outEntry = some new ∧
      self.entries new = none ∧
      ∀ {addr : Nat} {idxType : T} {head : Nat} {other : Obj},
        (self.addNew klass newType obj mode entryOrder headExisting).1.Tracks addr idxType head
          other ↔ self.Tracks addr idxType head other ∨
            (addr = new ∧ idxType = newType ∧ head = newHead ∧
              other = (self.objIntern objClass obj).2) := by
  have fresh : ∀ addr, self.nextAddr ≤ addr → self.entries addr = none := by
    intro addr beyond
    refine eq_none_iff_forall_ne_some.mpr fun entry entry_eq => ?_
    exact absurd (coherent.heap.entry_lt entry_eq) (Nat.not_lt.mpr beyond)
  rcases coherent.addNew_cases missing storable mode order_valid head_valid with
    ⟨headAddr, record, found, head_eq, anchored, add_eq⟩ | ⟨unfound, add_eq⟩
  · obtain ⟨_, _, first_tracks, -⟩ := coherent.lookupHead_eq_some.mp found
    obtain ⟨_, _, first_head⟩ := first_tracks.head
    cases head_eq.symm.trans first_head
    refine ⟨self.nextAddr, headAddr, by rw [add_eq], fresh _ (Nat.le_refl _), ?_⟩
    intro addr idxType head other
    rw [add_eq, tracks_iff_type, tracks_iff_type]
    simp only [NMDedupMultiIndex.linkedToHead]
    by_cases same : addr = self.nextAddr
    · subst same
      simp only [update_self, fresh _ (Nat.le_refl _), Option.some.injEq,
        NMDedupMultiEntry.mk.injEq, reduceCtorEq, exists_false, false_and, false_or, true_and]
      constructor
      · rintro ⟨⟨_, rfl, rfl, rfl⟩, type_eq⟩
        simp only [update_self, map_some, Option.some.injEq] at type_eq
        exact ⟨type_eq.symm, rfl, rfl⟩
      · rintro ⟨rfl, rfl, rfl⟩
        simp
    · simp only [update_of_ne same, same, false_and, or_false]
      refine and_congr_right fun _ => ?_
      by_cases owned : head = headAddr
      · simp [owned, head_eq]
      · rw [update_of_ne owned]
  · refine ⟨self.nextAddr + 1, self.nextAddr, by rw [add_eq], fresh _ (Nat.le_succ _), ?_⟩
    intro addr idxType head other
    rw [add_eq, tracks_iff_type, tracks_iff_type]
    simp only [NMDedupMultiIndex.linkedToNewHead]
    by_cases same : addr = self.nextAddr + 1
    · subst same
      simp only [update_self, fresh _ (Nat.le_succ _), Option.some.injEq,
        NMDedupMultiEntry.mk.injEq, reduceCtorEq, exists_false, false_and, false_or, true_and]
      constructor
      · rintro ⟨⟨_, rfl, rfl, rfl⟩, type_eq⟩
        simp only [update_self, map_some, Option.some.injEq] at type_eq
        exact ⟨type_eq.symm, rfl, rfl⟩
      · rintro ⟨rfl, rfl, rfl⟩
        simp
    · simp only [update_of_ne same, same, false_and, or_false]
      refine and_congr_right fun row => ?_
      obtain ⟨dirty, row_eq⟩ := row
      have old : head ≠ self.nextAddr := by
        rintro rfl
        obtain ⟨record, record_eq⟩ := coherent.heap.head_live row_eq
        exact absurd (coherent.heap.head_lt record_eq) (Nat.lt_irrefl _)
      rw [update_of_ne old]

theorem Coherent.tracks_unique {a b g h : Nat} (first : self.Tracks a idxType g obj)
    (second : self.Tracks b idxType h obj) :
    a = b := by
  obtain rfl := (coherent.heap.same_head first second).mp
    ((klass idxType).partitionEqual_refl obj)
  exact coherent.heap.unique first second ((klass idxType).idEqual_refl obj)

theorem Coherent.removeEntryInternal_holds {removed owner : Nat}
    (tracks : self.Tracks removed idxType owner stored) :
    (self.removeEntryInternal klass removed).1.Holds idxType obj ↔
      self.Holds idxType obj ∧ obj ≠ stored := by
  constructor
  · rintro ⟨addr, head, after⟩
    obtain ⟨before, different⟩ := (coherent.removeEntryInternal_tracks removed).mp after
    refine ⟨⟨addr, head, before⟩, ?_⟩
    rintro rfl
    exact different (coherent.tracks_unique before tracks)
  · rintro ⟨⟨addr, head, before⟩, different⟩
    refine ⟨addr, head, (coherent.removeEntryInternal_tracks removed).mpr ⟨before, ?_⟩⟩
    rintro rfl
    exact different (before.unique_head tracks).2.2

theorem Coherent.removeEntryInternal_idxObjs (removed : Nat) :
    (self.removeEntryInternal klass removed).1.idxObjs = self.idxObjs := by
  cases entry_eq : self.entries removed with
  | none => simp [NMDedupMultiIndex.removeEntryInternal, entry_eq]
  | some entry =>
    obtain ⟨owner, owner_eq⟩ := coherent.heap.head_live entry_eq
    rw [coherent.removeEntryInternal_eq entry_eq owner_eq]
    split <;> rfl

end

theorem objIntern_of_mem (interned : obj ∈ self.idxObjs) (objClass : NMDedupMultiObjClass Obj) :
    self.objIntern objClass obj = (self, obj) := by
  simp [objIntern, interned]

theorem Interned.eq_of_fullEqual (interned : self.Interned objClass) {a b : Obj}
    (a_mem : a ∈ self.idxObjs) (b_mem : b ∈ self.idxObjs) (equal : objClass.objFullEqual a b = true) :
    a = b := by
  have forward : self.idxObjs.Pairwise fun x y => objClass.objFullEqual x y = true → x = y :=
    interned.pairwise.imp fun apart equal => absurd equal (by simp [apart])
  have backward : self.idxObjs.Pairwise
      (flip fun x y => objClass.objFullEqual x y = true → x = y) :=
    interned.pairwise.imp fun apart equal => absurd (objClass.fullEqual_symm equal) (by simp [apart])
  exact List.Pairwise.forall_of_forall_of_flip (fun _ _ _ => rfl) forward backward a_mem b_mem equal

theorem mem_objIntern (objClass : NMDedupMultiObjClass Obj) {obj other : Obj}
    (interned : other ∈ self.idxObjs) :
    other ∈ (self.objIntern objClass obj).1.idxObjs := by
  unfold objIntern
  split
  · exact interned
  · split
    · exact interned
    · exact List.mem_append_left _ interned

/-- Adding the exact object of an interned version to a tracked key replaces the stored version. -/
theorem Coherent.addExisting_holds (coherent : self.Coherent klass) {entryAddr owner : Nat}
    (tracks : self.Tracks entryAddr idxType owner stored) (obj : Obj) (mode : NMDedupMultiIdxMode)
    (entryOrder : Option Nat) :
    (self.addExisting objClass obj entryAddr mode entryOrder).1.Holds idxType other ↔
      (self.Holds idxType other ∧ other ≠ stored) ∨
        other = if KeepsObj objClass obj stored then stored
          else (self.objIntern objClass obj).2 := by
  constructor
  · rintro ⟨addr, head, after⟩
    rcases (addExisting_tracks objClass obj tracks mode entryOrder).mp after with
      ⟨before, different⟩ | ⟨-, -, -, same⟩
    · refine Or.inl ⟨⟨addr, head, before⟩, ?_⟩
      rintro rfl
      exact different (coherent.tracks_unique before tracks)
    · exact Or.inr same
  · rintro (⟨⟨addr, head, before⟩, different⟩ | same)
    · refine ⟨addr, head, (addExisting_tracks objClass obj tracks mode entryOrder).mpr
        (Or.inl ⟨before, ?_⟩)⟩
      rintro rfl
      exact different (before.unique_head tracks).2.2
    · exact ⟨entryAddr, owner, (addExisting_tracks objClass obj tracks mode entryOrder).mpr
        (Or.inr ⟨rfl, rfl, rfl, same⟩)⟩

theorem addExisting_idxObjs (objClass : NMDedupMultiObjClass Obj) (obj : Obj)
    {entryAddr owner : Nat} (tracks : self.Tracks entryAddr ownType owner stored)
    (mode : NMDedupMultiIdxMode) (entryOrder : Option Nat) (interned : other ∈ self.idxObjs) :
    other ∈ (self.addExisting objClass obj entryAddr mode entryOrder).1.idxObjs := by
  obtain ⟨dirty, entry_eq⟩ := tracks.entry
  obtain ⟨lst, len, head_eq⟩ := tracks.head
  rw [self.addExisting_fst objClass obj mode entryOrder entry_eq head_eq]
  dsimp only
  split
  · exact interned
  · exact mem_objIntern objClass interned

theorem Coherent.addNew_idxObjs (coherent : self.Coherent klass)
    (missing : self.lookupObj klass newType obj = none)
    (storable : (klass newType).partitionable obj = true) (mode : NMDedupMultiIdxMode)
    (order_valid : self.OrderValid klass newType obj entryOrder)
    (head_valid : self.HeadValid klass newType obj headExisting) (interned : other ∈ self.idxObjs) :
    other ∈ (self.addNew klass newType obj mode entryOrder headExisting).1.idxObjs := by
  rcases coherent.addNew_cases missing storable mode order_valid head_valid with
    ⟨_, _, _, _, _, add_eq⟩ | ⟨_, add_eq⟩
  · rw [add_eq]
    exact mem_objIntern objClass interned
  · rw [add_eq]
    exact mem_objIntern objClass interned

theorem Coherent.addNew_coherent (coherent : self.Coherent klass)
    (missing : self.lookupObj klass newType obj = none) (mode : NMDedupMultiIdxMode)
    (order_valid : self.OrderValid klass newType obj entryOrder)
    (head_valid : self.HeadValid klass newType obj headExisting) :
    (self.addNew klass newType obj mode entryOrder headExisting).1.Coherent klass := by
  simpa [NMDedupMultiIndex.addInternal, missing] using
    coherent.addInternal mode order_valid head_valid

/-- Everything that belongs to an index type is unchanged. -/
structure Frame (idxType : T) (before after : NMDedupMultiIndex Obj T) : Prop where
  heads : ∀ {addr record}, record.idxType = idxType →
    (after.heads addr = some record ↔ before.heads addr = some record)
  entries : ∀ {addr entry}, (before.heads entry.head).map (·.idxType) = some idxType →
    (after.entries addr = some entry ↔ before.entries addr = some entry)

theorem Frame.refl (idxType : T) (self : NMDedupMultiIndex Obj T) : Frame idxType self self :=
  ⟨fun _ => Iff.rfl, fun _ => Iff.rfl⟩

theorem Frame.type_iff {before after : NMDedupMultiIndex Obj T} (frame : Frame idxType before after) :
    (after.heads addr).map (·.idxType) = some idxType ↔
      (before.heads addr).map (·.idxType) = some idxType := by
  simp only [map_eq_some_iff]
  constructor
  · rintro ⟨record, record_eq, type_eq⟩
    exact ⟨record, (frame.heads type_eq).mp record_eq, type_eq⟩
  · rintro ⟨record, record_eq, type_eq⟩
    exact ⟨record, (frame.heads type_eq).mpr record_eq, type_eq⟩

theorem Frame.trans {before middle after : NMDedupMultiIndex Obj T}
    (first : Frame idxType before middle) (second : Frame idxType middle after) :
    Frame idxType before after :=
  ⟨fun type_eq => (second.heads type_eq).trans (first.heads type_eq),
    fun owned => (second.entries (first.type_iff.mpr owned)).trans (first.entries owned)⟩

theorem Frame.tracks {before after : NMDedupMultiIndex Obj T} (frame : Frame idxType before after)
    {addr head : Nat} :
    after.Tracks addr idxType head obj ↔ before.Tracks addr idxType head obj := by
  rw [tracks_iff_type, tracks_iff_type, frame.type_iff, and_comm,
    and_comm (a := ∃ dirty, before.entries addr = _)]
  refine and_congr_right fun owned => exists_congr fun dirty => ?_
  exact frame.entries owned

theorem Frame.holds {before after : NMDedupMultiIndex Obj T} (frame : Frame idxType before after) :
    after.Holds idxType obj ↔ before.Holds idxType obj :=
  exists_congr fun _ => exists_congr fun _ => frame.tracks

/-- A change to one entry and its head is not seen by index types that the head does not belong
to. -/
theorem Frame.of_update {before after : NMDedupMultiIndex Obj T} (entryAddr owner : Nat)
    (heads_eq : ∀ addr, addr ≠ owner → after.heads addr = before.heads addr)
    (entries_eq : ∀ addr, addr ≠ entryAddr → after.entries addr = before.entries addr)
    (head_before : ∀ record, before.heads owner = some record → record.idxType ≠ idxType)
    (head_after : ∀ record, after.heads owner = some record → record.idxType ≠ idxType)
    (entry_before : ∀ entry, before.entries entryAddr = some entry → entry.head = owner)
    (entry_after : ∀ entry, after.entries entryAddr = some entry → entry.head = owner) :
    Frame idxType before after := by
  constructor
  · intro addr record type_eq
    by_cases same : addr = owner
    · subst same
      exact iff_of_false (fun record_eq => head_after _ record_eq type_eq)
        (fun record_eq => head_before _ record_eq type_eq)
    · rw [heads_eq addr same]
  · intro addr entry owned
    by_cases same : addr = entryAddr
    · subst same
      obtain ⟨record, record_eq, type_eq⟩ := map_eq_some_iff.mp owned
      refine iff_of_false (fun entry_eq => ?_) (fun entry_eq => ?_)
      · rw [entry_after _ entry_eq] at record_eq
        exact head_before _ record_eq type_eq
      · rw [entry_before _ entry_eq] at record_eq
        exact head_before _ record_eq type_eq
    · rw [entries_eq addr same]

theorem Coherent.removeEntryInternal_frame (coherent : self.Coherent klass) {removed : Nat}
    {owner : Nat} (tracks : self.Tracks removed ownType owner stored) (other : ownType ≠ idxType) :
    Frame idxType self (self.removeEntryInternal klass removed).1 := by
  obtain ⟨dirty, entry_eq⟩ := tracks.entry
  obtain ⟨lst, len, head_eq⟩ := tracks.head
  rw [coherent.removeEntryInternal_eq entry_eq head_eq]
  have own_before : ∀ record, self.heads owner = some record → record.idxType ≠ idxType := by
    intro record record_eq
    cases head_eq.symm.trans record_eq
    exact other
  refine Frame.of_update removed owner ?_ ?_ own_before ?_ ?_ ?_
  · intro addr different
    split <;> simp [different]
  · intro addr different
    split <;> simp [different]
  · intro record record_eq
    split at record_eq
    · simp at record_eq
    · simp only [update_self, Option.some.injEq] at record_eq
      subst record_eq
      exact other
  · intro entry found
    cases entry_eq.symm.trans found
    rfl
  · intro entry found
    split at found <;> simp at found

theorem addExisting_frame (objClass : NMDedupMultiObjClass Obj) (obj : Obj) {entryAddr owner : Nat}
    (tracks : self.Tracks entryAddr ownType owner stored) (mode : NMDedupMultiIdxMode)
    (entryOrder : Option Nat) (other : ownType ≠ idxType) :
    Frame idxType self (self.addExisting objClass obj entryAddr mode entryOrder).1 := by
  obtain ⟨dirty, entry_eq⟩ := tracks.entry
  obtain ⟨lst, len, head_eq⟩ := tracks.head
  rw [self.addExisting_fst objClass obj mode entryOrder entry_eq head_eq]
  refine Frame.of_update entryAddr owner ?_ ?_ ?_ ?_ ?_ ?_
  · intro addr different
    simp [different]
  · intro addr different
    simp [different]
  · intro record record_eq
    cases head_eq.symm.trans record_eq
    exact other
  · intro record record_eq
    simp only [update_self, Option.some.injEq] at record_eq
    subst record_eq
    exact other
  · intro entry found
    cases entry_eq.symm.trans found
    rfl
  · intro entry found
    simp only [update_self, Option.some.injEq] at found
    subst found
    rfl

theorem Coherent.addNew_frame (coherent : self.Coherent klass)
    (missing : self.lookupObj klass newType obj = none)
    (storable : (klass newType).partitionable obj = true) (mode : NMDedupMultiIdxMode)
    (order_valid : self.OrderValid klass newType obj entryOrder)
    (head_valid : self.HeadValid klass newType obj headExisting) (other : newType ≠ idxType) :
    Frame idxType self (self.addNew klass newType obj mode entryOrder headExisting).1 := by
  have fresh_entry : ∀ addr, self.nextAddr ≤ addr → ∀ entry, self.entries addr ≠ some entry :=
    fun addr beyond entry entry_eq =>
      absurd (coherent.heap.entry_lt entry_eq) (Nat.not_lt.mpr beyond)
  rcases coherent.addNew_cases missing storable mode order_valid head_valid with
    ⟨headAddr, record, found, head_eq, anchored, add_eq⟩ | ⟨unfound, add_eq⟩
  · obtain ⟨_, _, first_tracks, -⟩ := coherent.lookupHead_eq_some.mp found
    obtain ⟨_, _, first_head⟩ := first_tracks.head
    cases head_eq.symm.trans first_head
    rw [add_eq]
    refine Frame.of_update self.nextAddr headAddr ?_ ?_ ?_ ?_ ?_ ?_
    · intro addr different
      simp [NMDedupMultiIndex.linkedToHead, different]
    · intro addr different
      simp [NMDedupMultiIndex.linkedToHead, different]
    · intro record record_eq
      cases head_eq.symm.trans record_eq
      exact other
    · intro record record_eq
      simp only [NMDedupMultiIndex.linkedToHead, update_self, Option.some.injEq] at record_eq
      subst record_eq
      exact other
    · intro entry found
      exact absurd found (fresh_entry _ (Nat.le_refl _) entry)
    · intro entry found
      simp only [NMDedupMultiIndex.linkedToHead, update_self, Option.some.injEq] at found
      subst found
      rfl
  · rw [add_eq]
    refine Frame.of_update (self.nextAddr + 1) self.nextAddr ?_ ?_ ?_ ?_ ?_ ?_
    · intro addr different
      simp [NMDedupMultiIndex.linkedToNewHead, different]
    · intro addr different
      simp [NMDedupMultiIndex.linkedToNewHead, different]
    · intro record record_eq
      exact absurd (coherent.heap.head_lt record_eq) (Nat.lt_irrefl _)
    · intro record record_eq
      simp only [NMDedupMultiIndex.linkedToNewHead, update_self, Option.some.injEq] at record_eq
      subst record_eq
      exact other
    · intro entry found
      exact absurd found (fresh_entry _ (Nat.le_succ _) entry)
    · intro entry found
      simp only [NMDedupMultiIndex.linkedToNewHead, update_self, Option.some.injEq] at found
      subst found
      rfl

theorem entrySetDirty_tracks (entryAddr : Nat) (dirty : Bool) :
    (self.entrySetDirty entryAddr dirty).Tracks addr idxType head obj ↔
      self.Tracks addr idxType head obj := by
  rw [tracks_iff_type, tracks_iff_type]
  unfold entrySetDirty
  split
  · rename_i entry entry_eq
    simp only [setEntry]
    refine and_congr_left fun _ => ?_
    by_cases same : addr = entryAddr
    · subst same
      simp only [update_self, entry_eq, Option.some.injEq]
      constructor
      · rintro ⟨_, row_eq⟩
        cases row_eq
        exact ⟨entry.dirty, rfl⟩
      · rintro ⟨_, rfl⟩
        exact ⟨dirty, rfl⟩
    · rw [update_of_ne same]
  · rfl

theorem setLstEntries_tracks (owner : Nat) (lstEntries : List Nat) :
    (self.setLstEntries owner lstEntries).Tracks addr idxType head obj ↔
      self.Tracks addr idxType head obj := by
  rw [tracks_iff_type, tracks_iff_type]
  unfold setLstEntries
  split
  · rename_i record record_eq
    simp only [setHead]
    refine and_congr_right fun _ => ?_
    by_cases same : head = owner
    · simp [same, record_eq]
    · rw [update_of_ne same]
  · rfl

theorem entryReorder_tracks (entryAddr : Nat) (entryOrder : Option Nat) (orderAfter : Bool) :
    (self.entryReorder entryAddr entryOrder orderAfter).1.Tracks addr idxType head obj ↔
      self.Tracks addr idxType head obj := by
  unfold entryReorder
  split
  · rfl
  · exact setLstEntries_tracks _ _

theorem dirtySetList_tracks (addrs : List Nat) :
    (dirtySetList addrs self).Tracks addr idxType head obj ↔ self.Tracks addr idxType head obj := by
  induction addrs generalizing self with
  | nil => rfl
  | cons first rest ih => exact ih.trans (entrySetDirty_tracks first true)

theorem objIntern_tracks (objClass : NMDedupMultiObjClass Obj) (interned : Obj) :
    (self.objIntern objClass interned).1.Tracks addr idxType head obj ↔
      self.Tracks addr idxType head obj := by
  rw [objIntern_fst, tracks_iff, tracks_iff]

theorem objRelease_tracks (released : Obj) :
    (self.objRelease released).Tracks addr idxType head obj ↔
      self.Tracks addr idxType head obj := by
  rw [tracks_iff, tracks_iff]
  rfl

end NMDedupMultiIndex

end NetworkManager
