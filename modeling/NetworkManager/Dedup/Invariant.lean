import NetworkManager.Library.Machine
import NetworkManager.Dedup.Index

/-!
# The representation invariant of the multi-index

The heap part of the invariant ties entries, heads and index types together; the table part says
that the shared hash table holds exactly the live records.  Every operation keeps both.
-/

set_option linter.unusedSectionVars false

namespace NetworkManager

open List

namespace NMDedupMultiIdxTypeClass

variable {Obj : Type*} [DecidableEq Obj] {objClass : NMDedupMultiObjClass Obj}
  (klass : NMDedupMultiIdxTypeClass objClass)

theorem idEqual_refl (obj : Obj) : klass.idEqual obj obj = true := by
  simp [idEqual]

theorem idEqual_iff {a b : Obj} : klass.idEqual a b = true ↔ klass.idxObjIdEqual a b = true := by
  constructor
  · intro equal
    rcases Bool.or_eq_true_iff.mp equal with same | equal
    · rw [of_decide_eq_true same]
      exact klass.id_refl b
    · exact equal
  · intro equal
    simp [idEqual, equal]

theorem idEqual_symm {a b : Obj} (equal : klass.idEqual a b = true) : klass.idEqual b a = true :=
  klass.idEqual_iff.mpr (klass.id_symm (klass.idEqual_iff.mp equal))

theorem idEqual_trans {a b c : Obj} (first : klass.idEqual a b = true)
    (second : klass.idEqual b c = true) : klass.idEqual a c = true :=
  klass.idEqual_iff.mpr (klass.id_trans (klass.idEqual_iff.mp first) (klass.idEqual_iff.mp second))

theorem partitionEqual_iff {a b : Obj} :
    klass.partitionEqual (some a) (some b) = true ↔
      ∀ equal ∈ klass.idxObjPartitionEqual, a = b ∨ equal a b = true := by
  unfold partitionEqual
  cases klass.idxObjPartitionEqual with
  | none => simp
  | some equal => simp

theorem partitionEqual_refl (obj : Obj) : klass.partitionEqual (some obj) (some obj) = true :=
  klass.partitionEqual_iff.mpr fun _ _ => Or.inl rfl

theorem partitionEqual_symm {a b : Obj} (shared : klass.partitionEqual (some a) (some b) = true) :
    klass.partitionEqual (some b) (some a) = true := by
  rw [partitionEqual_iff] at shared ⊢
  intro equal present
  rcases shared equal present with same | shared
  · exact Or.inl same.symm
  · exact Or.inr (klass.partition_symm equal present shared)

theorem partitionEqual_trans {a b c : Obj} (first : klass.partitionEqual (some a) (some b) = true)
    (second : klass.partitionEqual (some b) (some c) = true) :
    klass.partitionEqual (some a) (some c) = true := by
  rw [partitionEqual_iff] at first second ⊢
  intro equal present
  rcases first equal present with rfl | first
  · exact second equal present
  · rcases second equal present with rfl | second
    · exact Or.inr first
    · exact Or.inr (klass.partition_trans equal present first second)

theorem partitionable_iff {obj : Obj} :
    klass.partitionable obj = true ↔
      ∀ partitionable ∈ klass.idxObjPartitionable, partitionable obj = true := by
  unfold partitionable
  cases klass.idxObjPartitionable with
  | none => simp
  | some partitionable => simp

theorem key_of_fullEqual {a b : Obj} (storable : klass.partitionable a = true)
    (equal : objClass.objFullEqual a b = true) :
    klass.partitionEqual (some a) (some b) = true ∧ klass.idEqual a b = true :=
  ⟨klass.partitionEqual_iff.mpr fun shared present => Or.inr <|
      klass.partition_of_fullEqual shared present (klass.partitionable_iff.mp storable) equal,
    klass.idEqual_iff.mpr (klass.id_of_fullEqual equal)⟩

theorem partitionable_of_key {a b : Obj} (shared : klass.partitionEqual (some a) (some b) = true)
    (equal : klass.idEqual a b = true) (storable : klass.partitionable a = true) :
    klass.partitionable b = true := by
  by_cases same : a = b
  · exact same ▸ storable
  · rw [partitionable_iff] at storable ⊢
    intro partitionable present
    refine klass.partitionable_congr partitionable present ?_ (klass.idEqual_iff.mp equal)
      (storable partitionable present)
    intro shares shares_present
    exact (klass.partitionEqual_iff.mp shared shares shares_present).resolve_left same

end NMDedupMultiIdxTypeClass

namespace NMDedupMultiIndex

variable {Obj T : Type*} [DecidableEq Obj] [DecidableEq T] {objClass : NMDedupMultiObjClass Obj}

structure Tracks (index : NMDedupMultiIndex Obj T) (addr : Nat) (idxType : T) (head : Nat)
    (obj : Obj) : Prop where
  entry : ∃ dirty, index.entries addr = some { obj, dirty, head }
  head : ∃ lstEntries len, index.heads head = some { idxType, lstEntries, len }

/-- A member of `idx_entries` whose record is allocated. -/
def Live (self : NMDedupMultiIndex Obj T) : IdxEntry → Prop
  | .entry addr => ∃ entry, self.entries addr = some entry
  | .head addr => ∃ head, self.heads addr = some head

/-- The invariant of the records and their lists. -/
structure HeapCoherent (klass : T → NMDedupMultiIdxTypeClass objClass)
    (index : NMDedupMultiIndex Obj T) : Prop where
  lstIdx_nodup : ∀ idxType, (index.idxTypes idxType).lstIdx.Nodup
  mem_lstIdx : ∀ {idxType addr}, addr ∈ (index.idxTypes idxType).lstIdx ↔
    ∃ head, index.heads addr = some head ∧ head.idxType = idxType
  lstEntries_nodup : ∀ {addr head}, index.heads addr = some head → head.lstEntries.Nodup
  lstEntries_ne : ∀ {addr head}, index.heads addr = some head → head.lstEntries ≠ []
  len_eq : ∀ {addr head}, index.heads addr = some head → head.len = head.lstEntries.length
  /-- A head links exactly the entries that name it. -/
  mem_lstEntries : ∀ {addr head}, index.heads addr = some head → ∀ {entryAddr},
    entryAddr ∈ head.lstEntries ↔ ∃ entry, index.entries entryAddr = some entry ∧ entry.head = addr
  head_live : ∀ {addr entry}, index.entries addr = some entry →
    ∃ head, index.heads entry.head = some head
  /-- Addresses at or beyond the next free one hold no entry. -/
  entry_lt : ∀ {addr entry}, index.entries addr = some entry → addr < index.nextAddr
  /-- Addresses at or beyond the next free one hold no head. -/
  head_lt : ∀ {addr head}, index.heads addr = some head → addr < index.nextAddr
  /-- Entries of one index type share a head exactly when their objects share a partition. -/
  same_head : ∀ {idxType a b headA headB x y}, index.Tracks a idxType headA x →
    index.Tracks b idxType headB y →
    ((klass idxType).partitionEqual (some x) (some y) = true ↔ headA = headB)
  unique : ∀ {idxType a b head x y}, index.Tracks a idxType head x → index.Tracks b idxType head y →
    (klass idxType).idEqual x y = true → a = b
  storable : ∀ {idxType addr head obj}, index.Tracks addr idxType head obj →
    (klass idxType).partitionable obj = true

/-- The invariant of the table of interned objects. -/
structure Interned (objClass : NMDedupMultiObjClass Obj) (index : NMDedupMultiIndex Obj T) :
    Prop where
  stored : ∀ {addr entry}, index.entries addr = some entry → entry.obj ∈ index.idxObjs
  pairwise : index.idxObjs.Pairwise fun a b => objClass.objFullEqual a b = false

structure Coherent (klass : T → NMDedupMultiIdxTypeClass objClass)
    (index : NMDedupMultiIndex Obj T) : Prop where
  heap : index.HeapCoherent klass
  idxEntries_nodup : index.idxEntries.Nodup
  mem_idxEntries : ∀ {node}, node ∈ index.idxEntries ↔ index.Live node
  interned : index.Interned objClass

variable {addr : Nat} {self : NMDedupMultiIndex Obj T}
  {klass : T → NMDedupMultiIdxTypeClass objClass} {idxType : T} {node : IdxEntry}

theorem tracks_iff (self : NMDedupMultiIndex Obj T) {head : Nat} {obj : Obj} :
    self.Tracks addr idxType head obj ↔
      ∃ entry headEntry, self.entries addr = some entry ∧ self.heads head = some headEntry ∧
        entry.obj = obj ∧ entry.head = head ∧ headEntry.idxType = idxType := by
  constructor
  · rintro ⟨⟨dirty, entry_eq⟩, ⟨lstEntries, len, head_eq⟩⟩
    exact ⟨_, _, entry_eq, head_eq, rfl, rfl, rfl⟩
  · rintro ⟨⟨_, dirty, _⟩, ⟨_, lstEntries, len⟩, entry_eq, head_eq, rfl, rfl, rfl⟩
    exact ⟨⟨dirty, entry_eq⟩, ⟨lstEntries, len, head_eq⟩⟩

theorem Tracks.unique_head {s t : T} {g h : Nat} {x y : Obj} (first : self.Tracks addr s g x)
    (second : self.Tracks addr t h y) :
    s = t ∧ g = h ∧ x = y := by
  obtain ⟨⟨_, entry_eq⟩, ⟨_, _, head_eq⟩⟩ := first
  obtain ⟨⟨_, entry_eq'⟩, ⟨_, _, head_eq'⟩⟩ := second
  cases entry_eq.symm.trans entry_eq'
  cases head_eq.symm.trans head_eq'
  exact ⟨rfl, rfl, rfl⟩

theorem HeapCoherent.tracks (coherent : self.HeapCoherent klass) {entry : NMDedupMultiEntry Obj}
    (entry_eq : self.entries addr = some entry) :
    ∃ idxType, self.Tracks addr idxType entry.head entry.obj := by
  obtain ⟨head, head_eq⟩ := coherent.head_live entry_eq
  exact ⟨head.idxType, self.tracks_iff.mpr ⟨entry, head, entry_eq, head_eq, rfl, rfl, rfl⟩⟩

theorem HeapCoherent.first (coherent : self.HeapCoherent klass) {head : NMDedupMultiHeadEntry T}
    (head_eq : self.heads addr = some head) :
    ∃ first obj, self.Tracks first head.idxType addr obj ∧
      self.entryUnpack (.head addr) =
        some { obj := some obj, idxType := head.idxType, lookupHead := true } := by
  obtain ⟨first, rest, lst_eq⟩ := exists_cons_of_ne_nil (coherent.lstEntries_ne head_eq)
  have linked : first ∈ head.lstEntries := by simp [lst_eq]
  obtain ⟨entry, entry_eq, entry_head⟩ := (coherent.mem_lstEntries head_eq).mp linked
  refine ⟨first, entry.obj, ?_, ?_⟩
  · exact self.tracks_iff.mpr ⟨entry, head, entry_eq, head_eq, rfl, entry_head, rfl⟩
  · simp [entryUnpack, head_eq, lst_eq, entry_eq]

theorem Tracks.unpack {addr head : Nat} {obj : Obj} (tracks : self.Tracks addr idxType head obj) :
    self.entryUnpack (.entry addr) = some { obj := some obj, idxType, lookupHead := false } := by
  obtain ⟨⟨_, entry_eq⟩, ⟨_, _, head_eq⟩⟩ := tracks
  simp [entryUnpack, entry_eq, head_eq]

section

variable (coherent : self.HeapCoherent klass)

include coherent

theorem HeapCoherent.hasKey_obj (idxType : T) (obj : Obj) (live : self.Live node) :
    self.hasKey klass { obj := some obj, idxType, lookupHead := false } node = true ↔
      ∃ addr head stored, node = .entry addr ∧ self.Tracks addr idxType head stored ∧
        (klass idxType).partitionEqual (some obj) (some stored) = true ∧
        (klass idxType).idEqual obj stored = true := by
  cases node with
  | entry addr =>
    obtain ⟨entry, entry_eq⟩ := live
    obtain ⟨type, tracks⟩ := coherent.tracks entry_eq
    simp only [hasKey, tracks.unpack, dictIdxEntriesEqual, Bool.and_eq_true, decide_eq_true_eq,
      Bool.false_or, IdxEntry.entry.injEq]
    constructor
    · rintro ⟨⟨⟨rfl, -⟩, shared⟩, equal⟩
      exact ⟨addr, entry.head, entry.obj, rfl, tracks, shared, equal⟩
    · rintro ⟨other, head, stored, rfl, other_tracks, shared, equal⟩
      obtain ⟨rfl, rfl, rfl⟩ := tracks.unique_head other_tracks
      exact ⟨⟨⟨rfl, trivial⟩, shared⟩, equal⟩
  | head addr =>
    obtain ⟨head, head_eq⟩ := live
    obtain ⟨first, stored, -, unpack⟩ := coherent.first head_eq
    simp [hasKey, unpack, dictIdxEntriesEqual]

theorem HeapCoherent.hasKey_partition (idxType : T) (obj : Obj) (live : self.Live node) :
    self.hasKey klass { obj := some obj, idxType, lookupHead := true } node = true ↔
      ∃ addr entry stored, node = .head addr ∧ self.Tracks entry idxType addr stored ∧
        (klass idxType).partitionEqual (some obj) (some stored) = true := by
  cases node with
  | entry addr =>
    obtain ⟨entry, entry_eq⟩ := live
    obtain ⟨type, tracks⟩ := coherent.tracks entry_eq
    simp [hasKey, tracks.unpack, dictIdxEntriesEqual]
  | head addr =>
    obtain ⟨head, head_eq⟩ := live
    obtain ⟨first, stored, tracks, unpack⟩ := coherent.first head_eq
    simp only [hasKey, unpack, dictIdxEntriesEqual, Bool.and_eq_true, decide_eq_true_eq,
      Bool.true_or, and_true, IdxEntry.head.injEq]
    constructor
    · rintro ⟨rfl, shared⟩
      exact ⟨addr, first, stored, rfl, tracks, shared⟩
    · rintro ⟨_, entry, other, rfl, other_tracks, shared⟩
      have type_eq : head.idxType = idxType := by
        obtain ⟨_, _, other_head⟩ := other_tracks.head
        simp [Option.some.inj (head_eq.symm.trans other_head)]
      subst type_eq
      refine ⟨rfl, (klass head.idxType).partitionEqual_trans shared ?_⟩
      exact (coherent.same_head other_tracks tracks).mpr rfl

theorem HeapCoherent.hasKey_unique {node other : IdxEntry} {key : LookupEntry Obj T}
    (unpack : self.entryUnpack node = some key) (live : self.Live node)
    (other_live : self.Live other) :
    self.hasKey klass key other = true ↔ other = node := by
  cases node with
  | entry addr =>
    obtain ⟨entry, entry_eq⟩ := live
    obtain ⟨type, tracks⟩ := coherent.tracks entry_eq
    cases unpack.symm.trans tracks.unpack
    rw [coherent.hasKey_obj _ _ other_live]
    constructor
    · rintro ⟨otherAddr, head, stored, rfl, other_tracks, shared, equal⟩
      obtain rfl := (coherent.same_head tracks other_tracks).mp shared
      rw [coherent.unique tracks other_tracks equal]
    · rintro rfl
      exact ⟨addr, entry.head, entry.obj, rfl, tracks,
        (klass type).partitionEqual_refl entry.obj, (klass type).idEqual_refl entry.obj⟩
  | head addr =>
    obtain ⟨head, head_eq⟩ := live
    obtain ⟨first, stored, tracks, first_unpack⟩ := coherent.first head_eq
    cases unpack.symm.trans first_unpack
    rw [coherent.hasKey_partition _ _ other_live]
    constructor
    · rintro ⟨otherAddr, entry, otherStored, rfl, other_tracks, shared⟩
      rw [(coherent.same_head tracks other_tracks).mp shared]
    · rintro rfl
      exact ⟨addr, first, stored, rfl, tracks, (klass head.idxType).partitionEqual_refl stored⟩

theorem HeapCoherent.exists_unpack (live : self.Live node) :
    ∃ key, self.entryUnpack node = some key := by
  cases node with
  | entry addr =>
    obtain ⟨entry, entry_eq⟩ := live
    obtain ⟨type, tracks⟩ := coherent.tracks entry_eq
    exact ⟨_, tracks.unpack⟩
  | head addr =>
    obtain ⟨head, head_eq⟩ := live
    obtain ⟨_, _, -, unpack⟩ := coherent.first head_eq
    exact ⟨_, unpack⟩

end

theorem hasKey_congr {self other : NMDedupMultiIndex Obj T}
    (unpack_eq : ∀ node, other.entryUnpack node = self.entryUnpack node) (key : LookupEntry Obj T)
    (node : IdxEntry) :
    other.hasKey klass key node = self.hasKey klass key node := by
  simp only [hasKey, unpack_eq]

/-- Removing a live record from a table of live records removes just this record.  The table may
be that of an intermediate state in which the keys are those of a coherent heap. -/
theorem HeapCoherent.idxEntriesRemove_eq {self other : NMDedupMultiIndex Obj T}
    (coherent : self.HeapCoherent klass)
    (unpack_eq : ∀ node, other.entryUnpack node = self.entryUnpack node)
    (table_live : ∀ node ∈ other.idxEntries, self.Live node) (live : self.Live node) :
    other.idxEntriesRemove klass node =
      { other with idxEntries := other.idxEntries.filter fun member => member ≠ node } := by
  obtain ⟨key, unpack⟩ := coherent.exists_unpack live
  have keep_eq : (other.idxEntries.filter fun member => !other.hasKey klass key member) =
      other.idxEntries.filter fun member => member ≠ node := by
    refine filter_congr fun member member_mem => ?_
    rw [hasKey_congr unpack_eq]
    have unique := coherent.hasKey_unique unpack live (table_live member member_mem)
    by_cases same : member = node
    · rw [unique.mpr same]
      simp [same]
    · simp [same, Bool.eq_false_iff.mpr fun has => same (unique.mp has)]
  simp only [idxEntriesRemove, unpack_eq, unpack, keep_eq]

/-- Adding a new live record to a table of live records appends it. -/
theorem HeapCoherent.idxEntriesAdd_eq (coherent : self.HeapCoherent klass) (node : IdxEntry)
    (table_live : ∀ node ∈ self.idxEntries, self.Live node) (live : self.Live node)
    (absent : node ∉ self.idxEntries) :
    self.idxEntriesAdd klass node = { self with idxEntries := self.idxEntries ++ [node] } := by
  obtain ⟨key, unpack⟩ := coherent.exists_unpack live
  have keep_eq : (self.idxEntries.filter fun member => !self.hasKey klass key member) =
      self.idxEntries := by
    refine filter_eq_self.mpr fun member member_mem => ?_
    have unique := coherent.hasKey_unique unpack live (table_live member member_mem)
    have differs : member ≠ node := fun same => absent (same ▸ member_mem)
    simp [Bool.eq_false_iff.mpr fun has => differs (unique.mp has)]
  simp only [idxEntriesAdd, unpack, keep_eq]

theorem Coherent.idxEntriesLookup_eq_some (coherent : self.Coherent klass)
    {key : LookupEntry Obj T}
    (unique : ∀ {a b}, self.Live a → self.Live b → self.hasKey klass key a = true →
      self.hasKey klass key b = true → a = b) :
    self.idxEntriesLookup klass key = some node ↔
      self.Live node ∧ self.hasKey klass key node = true := by
  constructor
  · intro found
    exact ⟨coherent.mem_idxEntries.mp (List.mem_of_find?_eq_some found), find?_some found⟩
  · rintro ⟨live, has⟩
    obtain ⟨other, found⟩ := Option.isSome_iff_exists.mp
      (find?_isSome.mpr ⟨node, coherent.mem_idxEntries.mpr live, has⟩)
    have other_live := coherent.mem_idxEntries.mp (List.mem_of_find?_eq_some found)
    rw [idxEntriesLookup, found, unique other_live live (find?_some found) has]

theorem Coherent.lookupObj_eq_some (coherent : self.Coherent klass) {obj : Obj} :
    self.lookupObj klass idxType obj = some addr ↔
      ∃ head stored, self.Tracks addr idxType head stored ∧
        (klass idxType).partitionEqual (some obj) (some stored) = true ∧
        (klass idxType).idEqual obj stored = true := by
  have lookup_iff : self.lookupObj klass idxType obj = some addr ↔
      self.idxEntriesLookup klass { obj := some obj, idxType, lookupHead := false } =
        some (.entry addr) := by
    unfold lookupObj
    split <;> simp_all
  rw [lookup_iff, coherent.idxEntriesLookup_eq_some]
  · constructor
    · rintro ⟨live, has⟩
      obtain ⟨_, head, stored, ⟨⟩, rest⟩ := (coherent.heap.hasKey_obj idxType obj live).mp has
      exact ⟨head, stored, rest⟩
    · rintro ⟨head, stored, tracks, rest⟩
      obtain ⟨dirty, entry_eq⟩ := tracks.entry
      have live : self.Live (.entry addr) := ⟨_, entry_eq⟩
      exact ⟨live, (coherent.heap.hasKey_obj idxType obj live).mpr
        ⟨addr, head, stored, rfl, tracks, rest⟩⟩
  · intro x y x_live y_live x_key y_key
    obtain ⟨a, headA, storedA, rfl, tracksA, sharedA, equalA⟩ :=
      (coherent.heap.hasKey_obj _ _ x_live).mp x_key
    obtain ⟨b, headB, storedB, rfl, tracksB, sharedB, equalB⟩ :=
      (coherent.heap.hasKey_obj _ _ y_live).mp y_key
    obtain rfl := (coherent.heap.same_head tracksA tracksB).mp
      ((klass idxType).partitionEqual_trans ((klass idxType).partitionEqual_symm sharedA) sharedB)
    rw [coherent.heap.unique tracksA tracksB
      ((klass idxType).idEqual_trans ((klass idxType).idEqual_symm equalA) equalB)]

theorem HeapCoherent.exists_tracks (coherent : self.HeapCoherent klass) :
    addr ∈ (self.idxTypes idxType).lstIdx ↔ ∃ entry obj, self.Tracks entry idxType addr obj := by
  rw [coherent.mem_lstIdx]
  constructor
  · rintro ⟨head, head_eq, rfl⟩
    obtain ⟨first, obj, tracks, -⟩ := coherent.first head_eq
    exact ⟨first, obj, tracks⟩
  · rintro ⟨entry, obj, tracks⟩
    obtain ⟨_, _, head_eq⟩ := tracks.head
    exact ⟨_, head_eq, rfl⟩

theorem Coherent.lookupHead_eq_some (coherent : self.Coherent klass) {obj : Obj} :
    self.lookupHead klass idxType (some obj) = some addr ↔
      ∃ entry stored, self.Tracks entry idxType addr stored ∧
        (klass idxType).partitionEqual (some obj) (some stored) = true := by
  cases partitions : (klass idxType).idxObjPartitionEqual with
  | none =>
    have shared : ∀ a b, (klass idxType).partitionEqual a b = true := by
      simp [NMDedupMultiIdxTypeClass.partitionEqual, partitions]
    have one_head : ∀ {a b}, a ∈ (self.idxTypes idxType).lstIdx →
        b ∈ (self.idxTypes idxType).lstIdx → a = b := by
      intro a b a_mem b_mem
      obtain ⟨_, _, tracksA⟩ := coherent.heap.exists_tracks.mp a_mem
      obtain ⟨_, _, tracksB⟩ := coherent.heap.exists_tracks.mp b_mem
      exact (coherent.heap.same_head tracksA tracksB).mp (shared _ _)
    simp only [lookupHead, partitions, shared, and_true]
    rw [← coherent.heap.exists_tracks]
    constructor
    · exact mem_of_head?
    · intro linked
      obtain ⟨first, first_eq⟩ := Option.isSome_iff_exists.mp
        (isSome_head?.mpr (ne_nil_of_mem linked))
      rw [first_eq, one_head (mem_of_head? first_eq) linked]
  | some equal =>
    have lookup_iff : self.lookupHead klass idxType (some obj) = some addr ↔
        self.idxEntriesLookup klass { obj := some obj, idxType, lookupHead := true } =
          some (.head addr) := by
      simp only [lookupHead, partitions]
      split <;> simp_all
    rw [lookup_iff, coherent.idxEntriesLookup_eq_some]
    · constructor
      · rintro ⟨live, has⟩
        obtain ⟨_, entry, stored, ⟨⟩, rest⟩ :=
          (coherent.heap.hasKey_partition idxType obj live).mp has
        exact ⟨entry, stored, rest⟩
      · rintro ⟨entry, stored, tracks, shared⟩
        obtain ⟨_, _, head_eq⟩ := tracks.head
        have live : self.Live (.head addr) := ⟨_, head_eq⟩
        exact ⟨live, (coherent.heap.hasKey_partition idxType obj live).mpr
          ⟨addr, entry, stored, rfl, tracks, shared⟩⟩
    · intro x y x_live y_live x_key y_key
      obtain ⟨a, entryA, storedA, rfl, tracksA, sharedA⟩ :=
        (coherent.heap.hasKey_partition _ _ x_live).mp x_key
      obtain ⟨b, entryB, storedB, rfl, tracksB, sharedB⟩ :=
        (coherent.heap.hasKey_partition _ _ y_live).mp y_key
      rw [(coherent.heap.same_head tracksA tracksB).mp ((klass idxType).partitionEqual_trans
        ((klass idxType).partitionEqual_symm sharedA) sharedB)]

end NMDedupMultiIndex

end NetworkManager
