import NetworkManager.Dedup.Contents
import NetworkManager.Platform.Cache

/-!
# Consistency of the cache indexes

Every secondary index mirrors the main index: it holds exactly the objects of the main index that
it can file.  An update replaces the old version of an object by the new one in each index, no
matter whether the version changes its partition, enters an index or leaves it.
-/

namespace NetworkManager

namespace NMPCache

variable {support : KernelSupport}

abbrev Index := NMDedupMultiIndex NMPObject NMPCacheIdType

open List NMDedupMultiIdxTypeClass NMDedupMultiIndex NMPObject Option

structure Replaces (support : KernelSupport) (idType : NMPCacheIdType)
    (objOld objNew : Option NMPObject) (before after : Index) : Prop where
  coherent : after.Coherent (dedupMultiIdxTypeClass support)
  interned : ∀ obj ∈ before.idxObjs, obj ∈ after.idxObjs
  /-- The old version is gone, and the new version is there if it can be filed. -/
  holds : ∀ obj, after.Holds idType obj ↔
    (before.Holds idType obj ∧ objOld ≠ some obj) ∨
      (objNew = some obj ∧ (dedupMultiIdxTypeClass support idType).partitionable obj = true)
  frame : ∀ other, other ≠ idType → Frame other before after

structure Versions (support : KernelSupport) (idType : NMPCacheIdType)
    (objOld objNew : Option NMPObject) (multiIdx : Index) : Prop where
  /-- Nothing else is stored under the identity of the old version. -/
  old : ∀ old ∈ objOld, ∀ stored, multiIdx.Holds idType stored →
    old.idEqual support stored = true → stored = old
  /-- Only the old version is stored under the identity of the new one. -/
  new : ∀ new ∈ objNew, ∀ stored, multiIdx.Holds idType stored →
    new.idEqual support stored = true → objOld = some stored
  interned : ∀ new ∈ objNew, new ∈ multiIdx.idxObjs

variable {idType : NMPCacheIdType} {objNew : Option NMPObject} {multiIdx : Index} {addr : Nat}
  {cache : NMPCache} {obj : NMPObject} {entryOld : Option Nat}

theorem klass_idEqual_iff {a b : NMPObject} :
    (dedupMultiIdxTypeClass support idType).idEqual a b = true ↔ a.idEqual support b = true :=
  (dedupMultiIdxTypeClass support idType).idEqual_iff

variable {old : NMPObject} {entryOrder : Option Nat}

theorem Versions.tracks_old (versions : Versions support idType (some old) objNew multiIdx)
    (coherent : multiIdx.Coherent (dedupMultiIdxTypeClass support)) :
    multiIdx.lookupObj (dedupMultiIdxTypeClass support) idType old = some addr ↔
      ∃ head, multiIdx.Tracks addr idType head old := by
  rw [coherent.lookupObj_eq_some]
  constructor
  · rintro ⟨head, stored, tracks, -, equal⟩
    obtain rfl := versions.old old rfl stored ⟨addr, head, tracks⟩ (klass_idEqual_iff.mp equal)
    exact ⟨head, tracks⟩
  · rintro ⟨head, tracks⟩
    exact ⟨head, old, tracks, partitionEqual_refl _ _, idEqual_refl _ _⟩

section

variable (coherent : multiIdx.Coherent (dedupMultiIdxTypeClass support))

include coherent

theorem entryForNew_eq (idType : NMPCacheIdType) (objOld : Option NMPObject) (objNew : NMPObject) :
    entryForNew support multiIdx idType objOld objNew =
      multiIdx.lookupObj (dedupMultiIdxTypeClass support) idType objNew := by
  cases objOld with
  | none => rfl
  | some old =>
    simp only [entryForNew]
    split
    · rename_i same_key
      obtain ⟨equal, shared⟩ := Bool.and_eq_true_iff.mp same_key
      refine ext fun addr => ?_
      rw [coherent.lookupObj_eq_some, coherent.lookupObj_eq_some]
      refine exists_congr fun head => exists_congr fun stored => and_congr_right fun _ => ?_
      constructor
      · rintro ⟨old_shared, old_equal⟩
        exact ⟨partitionEqual_trans _ (partitionEqual_symm _ shared) old_shared,
          idEqual_trans _
            (idEqual_symm _ equal) old_equal⟩
      · rintro ⟨new_shared, new_equal⟩
        exact ⟨partitionEqual_trans _ shared new_shared, idEqual_trans _ equal new_equal⟩
    · rfl

theorem replaces_remove {addr head : Nat} (tracks : multiIdx.Tracks addr idType head old) :
    Replaces support idType (some old) none multiIdx
      (multiIdx.removeEntry (dedupMultiIdxTypeClass support) (.entry addr)).1 := by
  refine ⟨coherent.removeEntryInternal addr, ?_, ?_, ?_⟩
  · intro obj interned
    rw [removeEntry, coherent.removeEntryInternal_idxObjs]
    exact interned
  · intro obj
    refine (coherent.removeEntryInternal_holds tracks).trans ⟨?_, ?_⟩
    · rintro ⟨holds, different⟩
      exact Or.inl ⟨holds, fun same => different (Option.some.inj same).symm⟩
    · rintro (⟨holds, different⟩ | ⟨⟨⟩, -⟩)
      exact ⟨holds, fun same => different (congrArg some same.symm)⟩
  · intro other different
    exact coherent.removeEntryInternal_frame tracks (Ne.symm different)

/-- Nothing changes when there is neither an old nor a new version to file. -/
theorem replaces_nothing {objOld objNew : Option NMPObject}
    (no_old : ∀ old ∈ objOld, ¬ multiIdx.Holds idType old)
    (no_new : ∀ new ∈ objNew, (dedupMultiIdxTypeClass support idType).partitionable new = false) :
    Replaces support idType objOld objNew multiIdx multiIdx := by
  refine ⟨coherent, fun _ interned => interned, ?_, fun other _ => Frame.refl other multiIdx⟩
  intro obj
  constructor
  · intro holds
    refine Or.inl ⟨holds, ?_⟩
    rintro rfl
    exact no_old obj rfl holds
  · rintro (⟨holds, -⟩ | ⟨rfl, storable⟩)
    · exact holds
    · rw [no_new obj rfl] at storable
      exact absurd storable (by simp)

end

/-- The interned version of a new object is filed like the object. -/
theorem boxed_storable {new boxed : NMPObject} (equal : new.equal support boxed = true)
    (storable : (dedupMultiIdxTypeClass support idType).partitionable new = true) :
    (dedupMultiIdxTypeClass support idType).partitionable boxed = true := by
  obtain ⟨shared, same⟩ := key_of_fullEqual _ storable equal
  exact partitionable_of_key _ shared same storable

section

variable (coherent : multiIdx.Coherent (dedupMultiIdxTypeClass support))

include coherent

theorem replaces_addNew {new : NMPObject}
    (missing : multiIdx.lookupObj (dedupMultiIdxTypeClass support) idType new = none)
    (storable : (dedupMultiIdxTypeClass support idType).partitionable new = true)
    (mode : NMDedupMultiIdxMode)
    (order_valid : multiIdx.OrderValid (dedupMultiIdxTypeClass support) idType new entryOrder)
    {headExisting : Existing}
    (head_valid : multiIdx.HeadValid (dedupMultiIdxTypeClass support) idType new headExisting) :
    Replaces support idType none
      (some (multiIdx.objIntern (nmpObjectClass support) new).2) multiIdx
      (multiIdx.addNew (dedupMultiIdxTypeClass support) idType new mode entryOrder
        headExisting).1 := by
  obtain ⟨addr, head, -, -, tracks_iff⟩ :=
    coherent.addNew_tracks missing storable mode order_valid head_valid
  have new_storable := boxed_storable (coherent.interned.objIntern new).2.2 storable
  refine ⟨coherent.addNew_coherent missing mode order_valid head_valid, ?_, ?_, ?_⟩
  · intro obj
    exact coherent.addNew_idxObjs missing storable mode order_valid head_valid
  · intro obj
    constructor
    · rintro ⟨a, h, after⟩
      rcases tracks_iff.mp after with before | ⟨-, -, -, rfl⟩
      · exact Or.inl ⟨⟨a, h, before⟩, by simp⟩
      · exact Or.inr ⟨rfl, new_storable⟩
    · rintro (⟨⟨a, h, before⟩, -⟩ | ⟨same, -⟩)
      · exact ⟨a, h, tracks_iff.mpr (Or.inl before)⟩
      · cases same
        exact ⟨addr, head, tracks_iff.mpr (Or.inr ⟨rfl, rfl, rfl, rfl⟩)⟩
  · intro other different
    exact coherent.addNew_frame missing storable mode order_valid head_valid (Ne.symm different)

omit coherent in
theorem Replaces.without_old {objOld objNew : Option NMPObject} {before after : Index}
    (filed : Replaces support idType none objNew before after)
    (no_old : ∀ old ∈ objOld, ¬ before.Holds idType old) :
    Replaces support idType objOld objNew before after := by
  refine ⟨filed.coherent, filed.interned, ?_, filed.frame⟩
  intro obj
  rw [filed.holds]
  refine or_congr_left (and_congr_right fun holds => ?_)
  refine iff_of_true (by simp) ?_
  rintro rfl
  exact no_old obj rfl holds

omit coherent in
theorem Replaces.then_remove {before middle after : Index}
    (filed : Replaces support idType none objNew before middle)
    (removed : Replaces support idType (some old) none middle after) (different : objNew ≠ some old) :
    Replaces support idType (some old) objNew before after := by
  refine ⟨removed.coherent, fun obj interned => removed.interned obj (filed.interned obj interned),
    ?_, fun other other_ne => (filed.frame other other_ne).trans (removed.frame other other_ne)⟩
  intro obj
  rw [removed.holds, filed.holds]
  constructor
  · rintro (⟨⟨holds, -⟩ | new, not_old⟩ | ⟨⟨⟩, -⟩)
    · exact Or.inl ⟨holds, not_old⟩
    · exact Or.inr new
  · rintro (⟨holds, not_old⟩ | ⟨rfl, storable⟩)
    · exact Or.inl ⟨Or.inl ⟨holds, by simp⟩, not_old⟩
    · exact Or.inl ⟨Or.inr ⟨rfl, storable⟩, different.symm⟩

theorem replaces_addExisting {addr head : Nat} {old new : NMPObject}
    (tracks : multiIdx.Tracks addr idType head old)
    (shared : (dedupMultiIdxTypeClass support idType).partitionEqual (some new) (some old) = true)
    (equal : (dedupMultiIdxTypeClass support idType).idEqual new old = true)
    (mode : NMDedupMultiIdxMode)
    (order_valid : multiIdx.OrderValid (dedupMultiIdxTypeClass support) idType new entryOrder) :
    Replaces support idType (some old)
      (some (if KeepsObj (nmpObjectClass support) new old then old
        else (multiIdx.objIntern (nmpObjectClass support) new).2)) multiIdx
      (multiIdx.addExisting (nmpObjectClass support) new addr mode entryOrder).1 := by
  have storable : (dedupMultiIdxTypeClass support idType).partitionable new = true :=
    partitionable_of_key _
      (partitionEqual_symm _ shared)
      (idEqual_symm _ equal) (coherent.heap.storable tracks)
  have new_storable := boxed_storable (coherent.interned.keeps_or_intern new old) storable
  refine ⟨coherent.addExisting tracks shared equal mode order_valid, ?_, ?_, ?_⟩
  · intro obj
    exact addExisting_idxObjs _ new tracks mode entryOrder
  · intro obj
    rw [coherent.addExisting_holds tracks new mode entryOrder]
    constructor
    · rintro (⟨holds, different⟩ | rfl)
      · exact Or.inl ⟨holds, fun same => different (Option.some.inj same).symm⟩
      · exact Or.inr ⟨rfl, new_storable⟩
    · rintro (⟨holds, different⟩ | ⟨same, -⟩)
      · exact Or.inl ⟨holds, fun same => different (congrArg some same.symm)⟩
      · exact Or.inr (Option.some.inj same).symm
  · intro other different
    exact addExisting_frame _ new tracks mode entryOrder (Ne.symm different)

theorem boxed_of_interned {addr head : Nat} {old new : NMPObject}
    (tracks : multiIdx.Tracks addr idType head old) (interned : new ∈ multiIdx.idxObjs) :
    (if KeepsObj (nmpObjectClass support) new old then old
      else (multiIdx.objIntern (nmpObjectClass support) new).2) = new := by
  have old_interned : old ∈ multiIdx.idxObjs := by
    obtain ⟨dirty, entry_eq⟩ := tracks.entry
    exact coherent.interned.stored entry_eq
  rw [objIntern_of_mem interned]
  split
  · rename_i keeps
    rcases keeps with rfl | full_equal
    · rfl
    · exact (coherent.interned.eq_of_fullEqual interned old_interned full_equal).symm
  · rfl

omit coherent in
theorem addExisting_outEntry {addr head : Nat} (tracks : multiIdx.Tracks addr idType head old)
    (new : NMPObject) (mode : NMDedupMultiIdxMode) (entryOrder : Option Nat) :
    (multiIdx.addExisting (nmpObjectClass support) new addr mode entryOrder).2.outEntry =
      some addr := by
  obtain ⟨dirty, entry_eq⟩ := tracks.entry
  simp only [addExisting, entrySetDirty, entry_eq, setEntry, Function.update_self]
  split <;> rfl

/-- `_idxcache_update_other_cache_ids` replaces the old version by the new one. -/
theorem replaces_otherCacheIds {objOld objNew : Option NMPObject}
    (versions : Versions support idType objOld objNew multiIdx) (isDump : Bool) :
    Replaces support idType objOld objNew multiIdx
      (idxcacheUpdateOtherCacheIds support multiIdx idType objOld objNew isDump) := by
  have old_entry : ∀ old ∈ objOld, ∀ addr,
      multiIdx.lookupObj (dedupMultiIdxTypeClass support) idType old = some addr ↔
        ∃ head, multiIdx.Tracks addr idType head old := by
    rintro old rfl addr
    exact versions.tracks_old coherent
  have no_old : objOld.bind (multiIdx.lookupObj (dedupMultiIdxTypeClass support) idType) = none →
      ∀ old ∈ objOld, ¬ multiIdx.Holds idType old := by
    rintro unfound old rfl ⟨addr, head, tracks⟩
    have found := (old_entry old rfl addr).mpr ⟨head, tracks⟩
    simp [found] at unfound
  cases objNew with
  | none =>
    simp only [idxcacheUpdateOtherCacheIds]
    cases found : objOld.bind (multiIdx.lookupObj (dedupMultiIdxTypeClass support) idType) with
    | none =>
      exact replaces_nothing coherent (no_old found) (by simp)
    | some addr =>
      obtain ⟨old, rfl, lookup_eq⟩ := bind_eq_some_iff.mp found
      obtain ⟨head, tracks⟩ := (old_entry old rfl addr).mp lookup_eq
      exact replaces_remove coherent tracks
  | some new =>
    have interned := versions.interned new rfl
    simp only [idxcacheUpdateOtherCacheIds, entryForNew_eq coherent]
    cases found : multiIdx.lookupObj (dedupMultiIdxTypeClass support) idType new with
    | some addr =>
      obtain ⟨head, stored, tracks, shared, equal⟩ := coherent.lookupObj_eq_some.mp found
      obtain rfl := versions.new new rfl stored ⟨addr, head, tracks⟩
        (klass_idEqual_iff.mp equal)
      have lookup_old := (old_entry stored rfl addr).mpr ⟨head, tracks⟩
      have order_valid : multiIdx.OrderValid (dedupMultiIdxTypeClass support) idType new
          (if isDump then none else some addr) := by
        intro order order_eq
        split at order_eq
        · simp at order_eq
        · cases order_eq
          exact ⟨head, stored, tracks, shared⟩
      simp only [bind_some, lookup_old, addFull, addInternal,
        addExisting_outEntry tracks, ne_eq, not_true_eq_false, if_false]
      have replaced := replaces_addExisting coherent tracks shared equal
        (if isDump then .appendForce else objGetAddMode new) order_valid
      rwa [boxed_of_interned coherent tracks interned] at replaced
    | none =>
      generalize entryOld_eq : objOld.bind
        (multiIdx.lookupObj (dedupMultiIdxTypeClass support) idType) = entryOld at no_old ⊢
      generalize entryOrder_eq : (entryOld.filter fun addr =>
        (dedupMultiIdxTypeClass support idType).partitionEqual (entryObj multiIdx addr)
          (some new)) = entryOrder
      have order_tracks : ∀ order ∈ entryOrder, ∃ head stored,
          multiIdx.Tracks order idType head stored ∧
          (dedupMultiIdxTypeClass support idType).partitionEqual (some new) (some stored) =
            true := by
        intro order order_mem
        rw [← entryOrder_eq] at order_mem
        obtain ⟨entry_mem, shared⟩ := mem_filter_iff.mp order_mem
        obtain ⟨old, rfl, lookup_eq⟩ := bind_eq_some_iff.mp (entryOld_eq.trans entry_mem)
        obtain ⟨head, tracks⟩ := (old_entry old rfl order).mp lookup_eq
        obtain ⟨dirty, entry_eq⟩ := tracks.entry
        simp only [entryObj, entry_eq, map_some] at shared
        exact ⟨head, old, tracks, partitionEqual_symm _ shared⟩
      have order_valid : multiIdx.OrderValid (dedupMultiIdxTypeClass support) idType new
          (if isDump then none else entryOrder) := by
        intro order order_eq
        split at order_eq
        · simp at order_eq
        · exact order_tracks order order_eq
      have head_valid : multiIdx.HeadValid (dedupMultiIdxTypeClass support) idType new
          (existingHead multiIdx entryOrder) := by
        unfold existingHead
        cases bound : entryOrder.bind multiIdx.entries with
        | none => trivial
        | some entry =>
          obtain ⟨order, order_eq, entry_eq⟩ := bind_eq_some_iff.mp bound
          obtain ⟨head, stored, tracks, shared⟩ := order_tracks order order_eq
          obtain ⟨dirty, tracked⟩ := tracks.entry
          cases entry_eq.symm.trans tracked
          exact coherent.lookupHead_eq_some.mpr ⟨order, stored, tracks, shared⟩
      have remove_old : ∀ {middle : Index} {addr : Nat}, entryOld = some addr →
          Replaces support idType none (some new) multiIdx middle →
          (∀ {head stored}, multiIdx.Tracks addr idType head stored →
            middle.Tracks addr idType head stored) →
          Replaces support idType objOld (some new) multiIdx
            (middle.removeEntry (dedupMultiIdxTypeClass support) (.entry addr)).1 := by
        intro middle addr old_found filed kept
        obtain ⟨old, rfl, lookup_eq⟩ := bind_eq_some_iff.mp (entryOld_eq.trans old_found)
        obtain ⟨head, tracks⟩ := (old_entry old rfl addr).mp lookup_eq
        refine filed.then_remove (replaces_remove filed.coherent (kept tracks)) ?_
        rintro ⟨⟩
        simp [found] at lookup_eq
      simp only [addFull, addInternal]
      by_cases storable : (dedupMultiIdxTypeClass support idType).partitionable new = true
      · have filed := replaces_addNew coherent found storable
          (if isDump then .appendForce else objGetAddMode new) order_valid head_valid
        rw [objIntern_of_mem interned] at filed
        obtain ⟨fresh, newHead, out_eq, unused, tracks_iff⟩ := coherent.addNew_tracks found
          storable (if isDump then .appendForce else objGetAddMode new) order_valid head_valid
        cases entryOld with
        | some addr =>
          have old_live : fresh ≠ addr := by
            rintro rfl
            obtain ⟨old, rfl, lookup_eq⟩ := bind_eq_some_iff.mp entryOld_eq
            obtain ⟨head, tracks⟩ := (old_entry old rfl fresh).mp lookup_eq
            obtain ⟨dirty, entry_eq⟩ := tracks.entry
            simp [unused] at entry_eq
          dsimp only
          rw [out_eq, if_pos (by simpa using old_live)]
          exact remove_old rfl filed fun tracks => tracks_iff.mpr (Or.inl tracks)
        | none => exact filed.without_old (no_old rfl)
      · have not_storable : (dedupMultiIdxTypeClass support idType).partitionable new = false :=
          Bool.eq_false_iff.mpr storable
        have unfiled : Replaces support idType none (some new) multiIdx multiIdx :=
          replaces_nothing coherent (by simp) (by simpa using not_storable)
        rw [addNew, if_pos not_storable]
        cases entryOld with
        | some addr =>
          dsimp only
          rw [if_pos (by simp)]
          exact remove_old rfl unfiled id
        | none => exact unfiled.without_old (no_old rfl)

end

structure ReplacesAll (support : KernelSupport) (idTypes : List NMPCacheIdType)
    (objOld objNew : Option NMPObject) (before after : Index) : Prop where
  coherent : after.Coherent (dedupMultiIdxTypeClass support)
  /-- The old version is gone, and the new version is there if it can be filed. -/
  holds : ∀ idType ∈ idTypes, ∀ obj, after.Holds idType obj ↔
    (before.Holds idType obj ∧ objOld ≠ some obj) ∨
      (objNew = some obj ∧ (dedupMultiIdxTypeClass support idType).partitionable obj = true)
  frame : ∀ other, other ∉ idTypes → Frame other before after

theorem Versions.of_frame {objOld objNew : Option NMPObject} {before after : Index}
    (versions : Versions support idType objOld objNew before) (frame : Frame idType before after)
    (interned : ∀ obj ∈ before.idxObjs, obj ∈ after.idxObjs) :
    Versions support idType objOld objNew after := by
  refine ⟨?_, ?_, ?_⟩
  · intro old old_eq stored holds
    exact versions.old old old_eq stored (frame.holds.mp holds)
  · intro new new_eq stored holds
    exact versions.new new new_eq stored (frame.holds.mp holds)
  · intro new new_eq
    exact interned new (versions.interned new new_eq)

/-- The loop of `_idxcache_update` replaces the old version in every index type it visits. -/
theorem replacesAll_updateOtherLoop {idTypes : List NMPCacheIdType} (nodup : idTypes.Nodup)
    (coherent : multiIdx.Coherent (dedupMultiIdxTypeClass support))
    {objOld objNew : Option NMPObject}
    (versions : ∀ idType ∈ idTypes, Versions support idType objOld objNew multiIdx) (isDump : Bool) :
    ReplacesAll support idTypes objOld objNew multiIdx
      (updateOtherLoop support objOld objNew isDump idTypes multiIdx) := by
  induction idTypes generalizing multiIdx with
  | nil => exact ⟨coherent, by simp, fun other _ => Frame.refl other multiIdx⟩
  | cons idType rest ih =>
    obtain ⟨not_later, rest_nodup⟩ := nodup_cons.mp nodup
    have first := replaces_otherCacheIds coherent
      (versions idType mem_cons_self) isDump
    have rest_ne : ∀ later ∈ rest, later ≠ idType := by
      rintro later later_mem rfl
      exact not_later later_mem
    have later := ih rest_nodup first.coherent fun next next_mem =>
      (versions next (mem_cons_of_mem _ next_mem)).of_frame
        (first.frame next (rest_ne next next_mem)) first.interned
    refine ⟨later.coherent, ?_, ?_⟩
    · intro visited visited_mem obj
      rcases mem_cons.mp visited_mem with rfl | visited_mem
      · exact (later.frame visited not_later).holds.trans (first.holds obj)
      · rw [updateOtherLoop, later.holds visited visited_mem,
          (first.frame visited (rest_ne visited visited_mem)).holds]
    · intro other other_mem
      obtain ⟨other_ne, other_rest⟩ := not_or.mp (fun h => other_mem (mem_cons.mpr h))
      exact (first.frame other other_ne).trans (later.frame other other_rest)

structure Invariant (support : KernelSupport) (cache : NMPCache) : Prop where
  coherent : cache.multiIdx.Coherent (dedupMultiIdxTypeClass support)
  /-- A secondary index holds what it can file of the main index. -/
  mirrors : ∀ idType, idType ≠ .objectType → ∀ obj, cache.multiIdx.Holds idType obj ↔
    cache.multiIdx.Holds .objectType obj ∧
      (dedupMultiIdxTypeClass support idType).partitionable obj = true

theorem partitionable_main (obj : NMPObject) :
    (dedupMultiIdxTypeClass support .objectType).partitionable obj = true := rfl

theorem main_shared {a b : NMPObject} (equal : a.idEqual support b = true) :
    (dedupMultiIdxTypeClass support .objectType).partitionEqual (some a) (some b) = true := by
  have same := NMPObject.idEqual_iff.mp equal
  have types : a.getType = b.getType := by
    rw [← key_getType support a, same, key_getType]
  refine (partitionEqual_iff _).mpr ?_
  rintro _ ⟨⟩
  exact Or.inr (by simp [idxObjPart, types])

theorem main_unique (coherent : multiIdx.Coherent (dedupMultiIdxTypeClass support))
    {a b : NMPObject} (a_holds : multiIdx.Holds .objectType a)
    (b_holds : multiIdx.Holds .objectType b) (equal : a.idEqual support b = true) : a = b := by
  obtain ⟨addr, head, a_tracks⟩ := a_holds
  obtain ⟨other, otherHead, b_tracks⟩ := b_holds
  obtain rfl := (coherent.heap.same_head a_tracks b_tracks).mp (main_shared equal)
  obtain rfl := coherent.heap.unique a_tracks b_tracks (klass_idEqual_iff.mpr equal)
  exact (a_tracks.unique_head b_tracks).2.2

theorem lookupEntry_eq_some (coherent : cache.multiIdx.Coherent (dedupMultiIdxTypeClass support)) :
    cache.lookupEntry support obj = some addr ↔
      ∃ head stored, cache.multiIdx.Tracks addr .objectType head stored ∧
        obj.idEqual support stored = true := by
  unfold lookupEntry lookupEntryWithIdxType
  rw [coherent.lookupObj_eq_some]
  refine exists_congr fun head => exists_congr fun stored => and_congr_right fun _ => ?_
  rw [klass_idEqual_iff]
  exact ⟨fun both => both.2, fun equal => ⟨main_shared equal, equal⟩⟩

theorem mem_secondaryCacheIds (secondary : idType ≠ .objectType)
    (storable : (dedupMultiIdxTypeClass support idType).partitionable obj = true) :
    idType ∈ obj.getType.secondaryCacheIds := by
  have filed : idxObjPart idType obj none = true := storable
  cases idType with
  | objectType => exact absurd rfl secondary
  | linkByIfname =>
    cases obj <;> simp [idxObjPart] at filed
    simp [getType, NMPObjectType.secondaryCacheIds]
  | defaultRoutes =>
    cases obj <;> simp [idxObjPart, isDefaultRoute] at filed <;>
      simp [getType, NMPObjectType.secondaryCacheIds]
  | objectByIfindex =>
    cases obj <;>
      simp [idxObjPart, hasIfindexIndex, getType] at filed <;>
      simp [getType, NMPObjectType.secondaryCacheIds]
  | routesByWeakId =>
    cases obj <;> simp [idxObjPart] at filed <;>
      simp [getType, NMPObjectType.secondaryCacheIds]
  | objectByAddrFamily =>
    cases obj <;> simp [idxObjPart] at filed
    simp [getType, NMPObjectType.secondaryCacheIds]

theorem secondaryCacheIds_nodup (type : NMPObjectType) : type.secondaryCacheIds.Nodup := by
  cases type <;> decide

theorem main_not_mem_secondaryCacheIds (type : NMPObjectType) :
    NMPCacheIdType.objectType ∉ type.secondaryCacheIds := by
  cases type <;> decide

/-- The secondary indexes that `_idxcache_update` visits. -/
def updatedIds (objOld boxed : Option NMPObject) : List NMPCacheIdType :=
  ((boxed.or objOld).map (·.getType.secondaryCacheIds)).getD []

theorem updatedIds_nodup (objOld boxed : Option NMPObject) : (updatedIds objOld boxed).Nodup := by
  unfold updatedIds
  cases boxed.or objOld with
  | none => exact nodup_nil
  | some obj => exact secondaryCacheIds_nodup obj.getType

theorem main_not_mem_updatedIds (objOld boxed : Option NMPObject) :
    NMPCacheIdType.objectType ∉ updatedIds objOld boxed := by
  unfold updatedIds
  cases boxed.or objOld with
  | none => exact not_mem_nil
  | some obj => exact main_not_mem_secondaryCacheIds obj.getType

/-- What the part of an update for the main index establishes: the new version is boxed, and it
replaces the old one. -/
structure MainUpdate (support : KernelSupport)
    (objOld objNew boxed : Option NMPObject) (before after : Index) : Prop where
  replaces : Replaces support .objectType objOld boxed before after
  interned : ∀ new ∈ boxed, new ∈ after.idxObjs
  equal : ∀ new ∈ boxed, ∃ given ∈ objNew, given.equal support new = true

/-- The entry passed to `_idxcache_update` is the tracked version of the object. -/
def EntryCurrent (support : KernelSupport) (cache : NMPCache) (entryOld : Option Nat)
    (objNew : Option NMPObject) : Prop :=
  match objNew with
  | some new => entryOld = cache.lookupEntry support new
  | none => ∃ addr head stored, entryOld = some addr ∧
      cache.multiIdx.Tracks addr .objectType head stored

theorem tracks_entryObj {addr head : Nat} (tracks : multiIdx.Tracks addr idType head obj) :
    entryObj multiIdx addr = some obj := by
  obtain ⟨dirty, entry_eq⟩ := tracks.entry
  simp [entryObj, entry_eq]

/-- The part of `_idxcache_update` for the main index. -/
theorem mainUpdate (coherent : cache.multiIdx.Coherent (dedupMultiIdxTypeClass support))
    (isDump : Bool) (current : EntryCurrent support cache entryOld objNew) :
    MainUpdate support (entryOld.bind (entryObj cache.multiIdx)) objNew
      ((updateMain support cache.multiIdx entryOld objNew isDump).2.bind
        (entryObj (updateMain support cache.multiIdx entryOld objNew isDump).1))
      cache.multiIdx (updateMain support cache.multiIdx entryOld objNew isDump).1 := by
  cases objNew with
  | none =>
    obtain ⟨addr, head, stored, rfl, tracks⟩ := current
    simp only [updateMain, bind_none, bind_some, tracks_entryObj tracks]
    exact ⟨replaces_remove coherent tracks, by simp, by simp⟩
  | some new =>
    obtain rfl : entryOld = _ := current
    cases found : cache.lookupEntry support new with
    | some addr =>
      obtain ⟨head, stored, tracks, equal⟩ := (lookupEntry_eq_some coherent).mp found
      have order_valid := orderValid_none (dedupMultiIdxTypeClass support) cache.multiIdx
        .objectType new
      have replaced := replaces_addExisting coherent tracks (main_shared equal)
        (klass_idEqual_iff.mpr equal)
        (if isDump then .appendForce else objGetAddMode new) order_valid
      have stored_eq := tracks_entryObj (addExisting_tracks (nmpObjectClass support) new tracks
        (if isDump then .appendForce else objGetAddMode new) none |>.mpr
          (Or.inr ⟨rfl, rfl, rfl, rfl⟩))
      simp only [updateMain, addFull, addInternal, addExisting_outEntry tracks,
        bind_some, stored_eq, tracks_entryObj tracks]
      refine ⟨replaced, ?_, ?_⟩
      · rintro boxed ⟨⟩
        obtain ⟨dirty, entry_eq⟩ := (addExisting_tracks (nmpObjectClass support) new tracks
          (if isDump then .appendForce else objGetAddMode new) none |>.mpr
            (Or.inr ⟨rfl, rfl, rfl, rfl⟩)).entry
        exact replaced.coherent.interned.stored entry_eq
      · rintro boxed ⟨⟩
        exact ⟨new, rfl, coherent.interned.keeps_or_intern new stored⟩
    | none =>
      have missing : cache.multiIdx.lookupObj (dedupMultiIdxTypeClass support) .objectType new =
          none := found
      have order_valid := orderValid_none (dedupMultiIdxTypeClass support) cache.multiIdx
        .objectType new
      have no_hint : cache.multiIdx.HeadValid (dedupMultiIdxTypeClass support) .objectType new
          .null := trivial
      have filed := replaces_addNew coherent missing (partitionable_main new)
        (if isDump then .appendForce else objGetAddMode new) order_valid no_hint
      obtain ⟨fresh, newHead, out_eq, -, tracks_iff⟩ := coherent.addNew_tracks missing
        (partitionable_main new) (if isDump then .appendForce else objGetAddMode new)
        order_valid no_hint
      have tracks := tracks_iff.mpr (Or.inr ⟨rfl, rfl, rfl, rfl⟩)
      simp only [updateMain, addFull, addInternal, out_eq, bind_some,
        tracks_entryObj tracks, bind_none]
      refine ⟨filed, ?_, ?_⟩
      · rintro boxed ⟨⟩
        obtain ⟨dirty, entry_eq⟩ := tracks.entry
        exact filed.coherent.interned.stored entry_eq
      · rintro boxed ⟨⟩
        exact ⟨new, rfl, (coherent.interned.objIntern new).2.2⟩

section

variable (invariant : Invariant support cache)

include invariant

theorem MainUpdate.versions {objNew boxed : Option NMPObject} {after : Index}
    (current : EntryCurrent support cache entryOld objNew)
    (main : MainUpdate support (entryOld.bind (entryObj cache.multiIdx)) objNew boxed
      cache.multiIdx after) (secondary : idType ≠ .objectType) :
    Versions support idType (entryOld.bind (entryObj cache.multiIdx)) boxed after := by
  have held : ∀ stored, after.Holds idType stored → cache.multiIdx.Holds .objectType stored :=
    fun stored holds => ((invariant.mirrors idType secondary stored).mp
      ((main.replaces.frame idType secondary).holds.mp holds)).1
  have old_held : ∀ old ∈ entryOld.bind (entryObj cache.multiIdx),
      cache.multiIdx.Holds .objectType old := by
    intro old old_eq
    obtain ⟨addr, rfl, obj_eq⟩ := bind_eq_some_iff.mp old_eq
    have tracked : ∃ head stored, cache.multiIdx.Tracks addr .objectType head stored := by
      cases objNew with
      | none =>
        obtain ⟨_, head, stored, ⟨⟩, tracks⟩ := current
        exact ⟨head, stored, tracks⟩
      | some new =>
        obtain ⟨head, stored, tracks, -⟩ :=
          (lookupEntry_eq_some invariant.coherent).mp (Eq.symm current)
        exact ⟨head, stored, tracks⟩
    obtain ⟨head, stored, tracks⟩ := tracked
    cases (tracks_entryObj tracks).symm.trans obj_eq
    exact ⟨addr, head, tracks⟩
  refine ⟨?_, ?_, main.interned⟩
  · intro old old_eq stored holds equal
    exact (main_unique invariant.coherent (old_held old old_eq) (held stored holds) equal).symm
  · intro new new_eq stored holds equal
    obtain ⟨given, given_eq, full_equal⟩ := main.equal new new_eq
    cases given_eq
    -- The given version has the identity of the stored one, so that its lookup finds that one.
    have identical : given.idEqual support stored = true := by
      refine NMPObject.idEqual_iff.mpr ?_
      rw [key_of_canonical (equal_iff.mp full_equal)]
      exact NMPObject.idEqual_iff.mp equal
    obtain ⟨addr, head, tracks⟩ := held stored holds
    have found := (lookupEntry_eq_some invariant.coherent).mpr ⟨head, stored, tracks, identical⟩
    rw [show entryOld = some addr from Eq.trans current found, bind_some]
    exact tracks_entryObj tracks

theorem MainUpdate.not_storable {objNew boxed : Option NMPObject} {after : Index}
    (current : EntryCurrent support cache entryOld objNew)
    (main : MainUpdate support (entryOld.bind (entryObj cache.multiIdx)) objNew boxed
      cache.multiIdx after) (secondary : idType ≠ .objectType)
    (unsupported : idType ∉ updatedIds (entryOld.bind (entryObj cache.multiIdx)) boxed)
    (version : entryOld.bind (entryObj cache.multiIdx) = some obj ∨ boxed = some obj) :
    (dedupMultiIdxTypeClass support idType).partitionable obj = false := by
  refine Bool.eq_false_iff.mpr fun storable => unsupported ?_
  have supported := mem_secondaryCacheIds secondary storable
  cases boxed with
  | some new =>
    have same_type : new.getType = obj.getType := by
      rcases version with old_eq | new_eq
      · obtain ⟨given, given_eq, full_equal⟩ := main.equal new rfl
        cases given_eq
        obtain ⟨addr, rfl, obj_eq⟩ := bind_eq_some_iff.mp old_eq
        obtain ⟨head, stored, tracks, identical⟩ :=
          (lookupEntry_eq_some invariant.coherent).mp (Eq.symm current)
        cases (tracks_entryObj tracks).symm.trans obj_eq
        rw [← key_getType support new, ← key_getType support obj,
          ← NMPObject.idEqual_iff.mp identical, key_of_canonical (equal_iff.mp full_equal)]
      · cases new_eq
        rfl
    simpa [updatedIds, same_type] using supported
  | none =>
    rcases version with old_eq | new_eq
    · simpa [updatedIds, old_eq] using supported
    · simp at new_eq

/-- After the main index, `_idxcache_update` replaces the old version in the secondary indexes. -/
theorem Invariant.replacesAll (isDump : Bool) (current : EntryCurrent support cache entryOld objNew) :
    ReplacesAll support
      (updatedIds (entryOld.bind (entryObj cache.multiIdx))
        ((updateMain support cache.multiIdx entryOld objNew isDump).2.bind
          (entryObj (updateMain support cache.multiIdx entryOld objNew isDump).1)))
      (entryOld.bind (entryObj cache.multiIdx))
      ((updateMain support cache.multiIdx entryOld objNew isDump).2.bind
        (entryObj (updateMain support cache.multiIdx entryOld objNew isDump).1))
      (updateMain support cache.multiIdx entryOld objNew isDump).1
      (cache.idxcacheUpdate support entryOld objNew isDump).1.multiIdx := by
  have main := mainUpdate invariant.coherent isDump current
  refine replacesAll_updateOtherLoop (updatedIds_nodup _ _) main.replaces.coherent ?_ isDump
  intro idType supported
  refine main.versions invariant current ?_
  rintro rfl
  exact main_not_mem_updatedIds _ _ supported

/-- `_idxcache_update` keeps the secondary indexes in line with the main index. -/
theorem Invariant.idxcacheUpdate (isDump : Bool)
    (current : EntryCurrent support cache entryOld objNew) :
    Invariant support (cache.idxcacheUpdate support entryOld objNew isDump).1 := by
  have main := mainUpdate invariant.coherent isDump current
  have others := invariant.replacesAll isDump current
  generalize updateMain support cache.multiIdx entryOld objNew isDump = updated at main others
  generalize boxed_eq : updated.2.bind (entryObj updated.1) = boxed at main others
  have no_main := main_not_mem_updatedIds (entryOld.bind (entryObj cache.multiIdx)) boxed
  refine ⟨others.coherent, ?_⟩
  intro idType secondary obj
  have before := invariant.mirrors idType secondary obj
  have main_holds := (others.frame .objectType no_main).holds.trans (main.replaces.holds obj)
  have kept : updated.1.Holds idType obj ↔ cache.multiIdx.Holds idType obj :=
    (main.replaces.frame idType secondary).holds
  by_cases supported : idType ∈ updatedIds (entryOld.bind (entryObj cache.multiIdx)) boxed
  · rw [others.holds idType supported, kept, before, main_holds]
    constructor
    · rintro (⟨⟨holds, storable⟩, different⟩ | ⟨new_eq, storable⟩)
      · exact ⟨Or.inl ⟨holds, different⟩, storable⟩
      · exact ⟨Or.inr ⟨new_eq, partitionable_main obj⟩, storable⟩
    · rintro ⟨⟨holds, different⟩ | ⟨new_eq, -⟩, storable⟩
      · exact Or.inl ⟨⟨holds, storable⟩, different⟩
      · exact Or.inr ⟨new_eq, storable⟩
  · rw [(others.frame idType supported).holds, kept, before, main_holds]
    refine and_congr_left fun storable => ?_
    have not_version : ¬ (entryOld.bind (entryObj cache.multiIdx) = some obj ∨ boxed = some obj) := by
      intro version
      have unfiled := main.not_storable invariant current secondary supported version
      rw [storable] at unfiled
      exact absurd unfiled (by simp)
    constructor
    · intro holds
      exact Or.inl ⟨holds, fun old_eq => not_version (Or.inl old_eq)⟩
    · rintro (⟨holds, -⟩ | ⟨new_eq, -⟩)
      · exact holds
      · exact absurd (Or.inr new_eq) not_version

end

theorem Invariant.new (support : KernelSupport) (useUdev : Bool) :
    Invariant support (NMPCache.new useUdev) := by
  have empty : ∀ idType obj, ¬ (NMPCache.new useUdev).multiIdx.Holds idType obj := by
    rintro idType obj ⟨addr, head, tracks⟩
    obtain ⟨dirty, entry_eq⟩ := tracks.entry
    simp [NMPCache.new, NMDedupMultiIndex.new] at entry_eq
  refine ⟨coherent_new _, ?_⟩
  intro idType secondary obj
  exact iff_of_false (empty idType obj) fun both => empty _ obj both.1

section

variable (invariant : Invariant support cache)

include invariant

theorem Invariant.tracked (found : cache.lookupEntry support obj = some addr) :
    ∃ head stored, cache.multiIdx.Tracks addr .objectType head stored ∧
      obj.idEqual support stored = true ∧ entryObj cache.multiIdx addr = some stored := by
  obtain ⟨head, stored, tracks, equal⟩ := (lookupEntry_eq_some invariant.coherent).mp found
  exact ⟨head, stored, tracks, equal, tracks_entryObj tracks⟩

theorem Invariant.removeOld (found : cache.lookupEntry support obj = some addr) :
    Invariant support (cache.removeOld support addr).cache := by
  obtain ⟨head, stored, tracks, -, -⟩ := invariant.tracked found
  exact invariant.idxcacheUpdate false ⟨addr, head, stored, rfl, tracks⟩

theorem Invariant.updateTo {new : NMPObject} (isDump : Bool) (ops : NMPCacheOpsType)
    (current : entryOld = cache.lookupEntry support new) :
    Invariant support (cache.updateTo support entryOld new isDump ops).cache :=
  invariant.idxcacheUpdate isDump current

theorem Invariant.lookupEntry_congr {a b : NMPObject} (same : a.key support = b.key support) :
    cache.lookupEntry support a = cache.lookupEntry support b := by
  refine ext fun addr => ?_
  rw [lookupEntry_eq_some invariant.coherent, lookupEntry_eq_some invariant.coherent]
  simp only [NMPObject.idEqual_iff, same]

end

/-- Only the order of entries and their marks change. -/
structure Rearranges (support : KernelSupport) (before after : Index) : Prop where
  coherent : after.Coherent (dedupMultiIdxTypeClass support)
  tracks : ∀ addr idType head obj,
    after.Tracks addr idType head obj ↔ before.Tracks addr idType head obj

theorem Rearranges.trans {before middle after : Index} (first : Rearranges support before middle)
    (second : Rearranges support middle after) : Rearranges support before after :=
  ⟨second.coherent, fun addr idType head obj =>
    (second.tracks addr idType head obj).trans (first.tracks addr idType head obj)⟩

theorem Invariant.rearranges (invariant : Invariant support cache)
    (rearranges : Rearranges support cache.multiIdx multiIdx) :
    Invariant support { cache with multiIdx } := by
  have holds_iff : ∀ idType obj, multiIdx.Holds idType obj ↔ cache.multiIdx.Holds idType obj :=
    fun idType obj => exists_congr fun addr => exists_congr fun head =>
      rearranges.tracks addr idType head obj
  refine ⟨rearranges.coherent, ?_⟩
  intro idType secondary obj
  rw [holds_iff, holds_iff]
  exact invariant.mirrors idType secondary obj

section

variable (coherent : multiIdx.Coherent (dedupMultiIdxTypeClass support))

include coherent

theorem rearranges_entryReorder {entry : NMDedupMultiEntry NMPObject}
    {head : NMDedupMultiHeadEntry NMPCacheIdType} (entry_eq : multiIdx.entries addr = some entry)
    (head_eq : multiIdx.heads entry.head = some head)
    (anchored : IntrusiveList.Anchored entryOrder head.lstEntries) (orderAfter : Bool) :
    Rearranges support multiIdx (multiIdx.entryReorder addr entryOrder orderAfter).1 :=
  ⟨coherent.entryReorder entry_eq head_eq anchored orderAfter, fun _ _ _ _ =>
    entryReorder_tracks addr entryOrder orderAfter⟩

theorem rearranges_moveToEnd {addr head : Nat} (tracks : multiIdx.Tracks addr idType head obj)
    (orderAfter : Bool) :
    Rearranges support multiIdx (multiIdx.entryReorder addr none orderAfter).1 := by
  obtain ⟨dirty, entry_eq⟩ := tracks.entry
  obtain ⟨lstEntries, len, head_eq⟩ := tracks.head
  exact rearranges_entryReorder coherent entry_eq head_eq (by simp) orderAfter

omit coherent in
theorem rearranges_updateOrderLoop (obj : NMPObject) (idTypes : List NMPCacheIdType)
    (coherent : multiIdx.Coherent (dedupMultiIdxTypeClass support)) :
    Rearranges support multiIdx (updateOrderLoop support obj idTypes multiIdx) := by
  induction idTypes generalizing multiIdx with
  | nil => exact ⟨coherent, fun _ _ _ _ => Iff.rfl⟩
  | cons idType rest ih =>
    rw [updateOrderLoop]
    split
    · rename_i addr found
      obtain ⟨head, stored, tracks, -, -⟩ := coherent.lookupObj_eq_some.mp found
      have moved := rearranges_moveToEnd coherent tracks true
      exact moved.trans (ih moved.coherent)
    · exact ih coherent

theorem rearranges_updateOrderForDump {addr head : Nat}
    (tracks : multiIdx.Tracks addr .objectType head obj) :
    Rearranges support multiIdx (idxcacheUpdateOrderForDump support multiIdx addr) := by
  have moved := rearranges_moveToEnd coherent tracks true
  simp only [idxcacheUpdateOrderForDump]
  split
  · exact moved.trans (rearranges_updateOrderLoop _ _ moved.coherent)
  · exact moved

/-- The path of an update that finds an equal version: the order, and the mark. -/
theorem rearranges_confirm {addr head : Nat} (tracks : multiIdx.Tracks addr .objectType head obj)
    (isDump : Bool) :
    Rearranges support multiIdx
      ((if isDump then idxcacheUpdateOrderForDump support multiIdx addr
        else multiIdx).entrySetDirty addr false) := by
  have ordered : Rearranges support multiIdx
      (if isDump then idxcacheUpdateOrderForDump support multiIdx addr else multiIdx) := by
    split
    · exact rearranges_updateOrderForDump coherent tracks
    · exact ⟨coherent, fun _ _ _ _ => Iff.rfl⟩
  exact ordered.trans ⟨ordered.coherent.entrySetDirty addr false, fun _ _ _ _ =>
    entrySetDirty_tracks addr false⟩

end

/-- `nmp_cache_remove` keeps the invariant. -/
theorem Invariant.remove (invariant : Invariant support cache) (objNeedle : Needle)
    (equalsByPtr onlyDirty : Bool) :
    Invariant support (cache.remove support objNeedle equalsByPtr onlyDirty).cache := by
  unfold NMPCache.remove
  split
  · exact invariant
  · rename_i addr found
    split
    · exact invariant
    · split
      · exact invariant
      · split
        · exact invariant
        · exact invariant.removeOld found

@[simp] theorem fixupLinkMasterConnected_ifindex (cache : NMPCache) (obj : NMPObjectLink) :
    (cache.fixupLinkMasterConnected support obj).link.ifindex = obj.link.ifindex := by
  unfold fixupLinkMasterConnected
  split <;> rfl

@[simp] theorem fixupLinkUdevFields_ifindex (drivers : LinkDrivers) (useUdev : Bool)
    (obj : NMPObjectLink) :
    (fixupLinkUdevFields drivers useUdev obj).link.ifindex = obj.link.ifindex := rfl

section

variable (invariant : Invariant support cache)

include invariant

theorem Invariant.lookupEntry_link {a b : NMPObjectLink} (same : a.link.ifindex = b.link.ifindex) :
    cache.lookupEntry support (.link a) = cache.lookupEntry support (.link b) :=
  invariant.lookupEntry_congr (by simp [key, same])

theorem Invariant.lookupEntry_stored {obj stored : NMPObject}
    (found : cache.lookupEntry support obj = some addr)
    (stored_eq : entryObj cache.multiIdx addr = some stored) :
    cache.lookupEntry support stored = some addr := by
  obtain ⟨head, other, tracks, identical, obj_eq⟩ := invariant.tracked found
  cases obj_eq.symm.trans stored_eq
  rw [← found]
  exact invariant.lookupEntry_congr (NMPObject.idEqual_iff.mp identical).symm

theorem Invariant.updateLink {old new : NMPObjectLink}
    (found : cache.lookupEntry support obj = some addr)
    (stored_eq : entryObj cache.multiIdx addr = some (.link old))
    (same : old.link.ifindex = new.link.ifindex) :
    Invariant support (cache.updateTo support (some addr) (.link new) false .updated).cache := by
  refine invariant.updateTo false .updated ?_
  rw [← invariant.lookupEntry_stored found stored_eq]
  exact invariant.lookupEntry_link same

variable (drivers : LinkDrivers) (objHandOver : NMPObject) (isDump : Bool)

/-- `nmp_cache_remove_netlink` keeps the invariant. -/
theorem Invariant.removeNetlink (objNeedle : NMPObject) :
    Invariant support (cache.removeNetlink support drivers objNeedle).cache := by
  unfold NMPCache.removeNetlink
  split
  · exact invariant
  · rename_i addr found
    split
    · rename_i objOld stored_eq
      split
      · exact invariant
      · split
        · exact invariant.removeOld found
        · exact invariant.updateLink found stored_eq (by simp)
    · exact invariant.removeOld found

theorem Invariant.updateAlive {objHandOver : NMPObject}
    (found : cache.lookupEntry support objHandOver = some addr) (isDump : Bool) :
    Invariant support (cache.updateAlive support addr objHandOver isDump).cache := by
  obtain ⟨head, stored, tracks, -, -⟩ := invariant.tracked found
  unfold NMPCache.updateAlive
  split
  · exact invariant
  · split
    · exact invariant.rearranges (rearranges_confirm invariant.coherent tracks isDump)
    · exact invariant.updateTo isDump .updated found.symm

/-- `nmp_cache_update_netlink` keeps the invariant. -/
theorem Invariant.updateNetlink :
    Invariant support (cache.updateNetlink support drivers objHandOver isDump).cache := by
  unfold NMPCache.updateNetlink
  split
  · rename_i missing
    split
    · split
      · refine invariant.updateTo isDump .added ?_
        rw [← missing]
        exact invariant.lookupEntry_link (by simp)
      · exact invariant.updateTo isDump .added missing.symm
    · exact invariant
  · rename_i addr found
    split
    · split
      · exact invariant
      · split
        · refine invariant.updateAlive ?_ isDump
          rw [← found]
          exact invariant.lookupEntry_link (by simp)
        · exact invariant.removeOld found
    · split
      · exact invariant.updateAlive found isDump
      · exact invariant.removeOld found

theorem Invariant.updateRouteEntry :
    Invariant support (cache.updateRouteEntry support objHandOver isDump).1 := by
  unfold NMPCache.updateRouteEntry
  split
  · rename_i missing
    split
    · exact invariant.idxcacheUpdate isDump missing.symm
    · exact invariant
  · rename_i addr found
    obtain ⟨head, stored, tracks, -, -⟩ := invariant.tracked found
    split
    · split
      · exact invariant.rearranges (rearranges_confirm invariant.coherent tracks isDump)
      · exact invariant.idxcacheUpdate isDump found.symm
    · exact invariant.removeOld found

theorem Invariant.rearranges_reorderRoute (entryNew : Nat) (flags : NlmFlags) :
    Rearranges support cache.multiIdx (cache.reorderRoute support entryNew flags).1.multiIdx := by
  have unchanged : Rearranges support cache.multiIdx cache.multiIdx :=
    ⟨invariant.coherent, fun _ _ _ _ => Iff.rfl⟩
  unfold NMPCache.reorderRoute
  split
  · exact unchanged
  · rename_i entryCur found
    obtain ⟨obj, -, lookup_eq⟩ := bind_eq_some_iff.mp found
    obtain ⟨head, stored, tracks, -, -⟩ := invariant.coherent.lookupObj_eq_some.mp lookup_eq
    obtain ⟨dirty, entry_eq⟩ := tracks.entry
    obtain ⟨lstEntries, len, head_eq⟩ := tracks.head
    simp only [entry_eq, bind_some, head_eq, map_some, getD_some]
    split
    · exact unchanged
    · split
      · split
        · rename_i entryReplace replace_eq
          refine rearranges_entryReorder invariant.coherent entry_eq head_eq ?_ false
          simpa using List.mem_of_find?_eq_some replace_eq
        · exact unchanged
      · exact rearranges_moveToEnd invariant.coherent tracks true
      · exact rearranges_moveToEnd invariant.coherent tracks false
      · exact unchanged

theorem Invariant.reorderRoute (entryNew : Nat) (flags : NlmFlags) :
    Invariant support (cache.reorderRoute support entryNew flags).1 := by
  have reordered := invariant.rearranges (invariant.rearranges_reorderRoute entryNew flags)
  exact ⟨reordered.coherent, reordered.mirrors⟩

/-- `nmp_cache_update_netlink_route` keeps the invariant. -/
theorem Invariant.updateNetlinkRoute (flags : NlmFlags) :
    Invariant support (cache.updateNetlinkRoute support objHandOver isDump flags).cache := by
  have updated := invariant.updateRouteEntry objHandOver isDump
  unfold NMPCache.updateNetlinkRoute
  dsimp only
  split
  · exact updated
  · split
    · exact updated
    · exact updated.reorderRoute _ flags

/-- `nmp_cache_update_link_udev` keeps the invariant. -/
theorem Invariant.updateLinkUdev (ifindex : Int) (udevice : Option Nat) :
    Invariant support (cache.updateLinkUdev support drivers ifindex udevice).cache := by
  unfold NMPCache.updateLinkUdev
  split
  · rename_i missing
    split
    · exact invariant
    · refine invariant.updateTo false .added ?_
      rw [← missing]
      exact invariant.lookupEntry_link (by simp)
  · rename_i addr found
    split
    · rename_i objOld stored_eq
      split
      · exact invariant
      · split
        · exact invariant.removeOld found
        · exact invariant.updateLink found stored_eq (by simp)
    · exact invariant

/-- `nmp_cache_update_link_master_connected` keeps the invariant. -/
theorem Invariant.updateLinkMasterConnected (ifindex : Int) :
    Invariant support (cache.updateLinkMasterConnected support ifindex).cache := by
  unfold NMPCache.updateLinkMasterConnected
  split
  · exact invariant
  · rename_i addr found
    split
    · rename_i objOld stored_eq
      split
      · exact invariant.updateLink found stored_eq (by simp)
      · exact invariant
    · exact invariant

end

theorem Invariant.dirtySetLoop (idType : NMPCacheIdType) (addrs : List Nat)
    (invariant : Invariant support cache) :
    Invariant support (cache.dirtySetLoop support idType addrs) := by
  induction addrs generalizing cache with
  | nil => exact invariant
  | cons addr rest ih =>
    rw [NMPCache.dirtySetLoop]
    split
    · rename_i mainEntry _
      exact ih (invariant.rearranges ⟨invariant.coherent.entrySetDirty mainEntry true,
        fun _ _ _ _ => entrySetDirty_tracks mainEntry true⟩)
    · exact ih invariant

theorem Invariant.pruneLoop (idType : NMPCacheIdType) (addrs : List Nat)
    (invariant : Invariant support cache) :
    Invariant support (cache.pruneLoop support idType addrs) := by
  induction addrs generalizing cache with
  | nil => exact invariant
  | cons addr rest ih =>
    refine ih ?_
    unfold NMPCache.pruneEntry
    split
    · split
      · exact invariant.remove _ true true
      · exact invariant
    · exact invariant

/-- What happens to a cache: its operations, and objects of the shared index that other users
intern and release. -/
inductive CacheOp where
  | updateNetlink (drivers : LinkDrivers) (objHandOver : NMPObject) (isDump : Bool)
  | updateNetlinkRoute (objHandOver : NMPObject) (isDump : Bool) (flags : NlmFlags)
  | remove (objNeedle : Needle) (equalsByPtr onlyDirty : Bool)
  | removeNetlink (drivers : LinkDrivers) (objNeedle : NMPObject)
  | updateLinkUdev (drivers : LinkDrivers) (ifindex : Int) (udevice : Option Nat)
  | updateLinkMasterConnected (ifindex : Int)
  | dirtySetAllMain (idType : NMPCacheIdType) (selectObj : NMPObject)
  | pruneOneType (idType : NMPCacheIdType) (selectObj : NMPObject)
  | objIntern (obj : NMPObject)
  | objRelease (obj : NMPObject)

def perform (support : KernelSupport) (cache : NMPCache) : CacheOp → NMPCache
  | .updateNetlink drivers objHandOver isDump =>
    (cache.updateNetlink support drivers objHandOver isDump).cache
  | .updateNetlinkRoute objHandOver isDump flags =>
    (cache.updateNetlinkRoute support objHandOver isDump flags).cache
  | .remove objNeedle equalsByPtr onlyDirty =>
    (cache.remove support objNeedle equalsByPtr onlyDirty).cache
  | .removeNetlink drivers objNeedle => (cache.removeNetlink support drivers objNeedle).cache
  | .updateLinkUdev drivers ifindex udevice =>
    (cache.updateLinkUdev support drivers ifindex udevice).cache
  | .updateLinkMasterConnected ifindex => (cache.updateLinkMasterConnected support ifindex).cache
  | .dirtySetAllMain idType selectObj => cache.dirtySetAllMain support idType selectObj
  | .pruneOneType idType selectObj => cache.pruneOneType support idType selectObj
  | .objIntern obj =>
    { cache with multiIdx := (cache.multiIdx.objIntern (nmpObjectClass support) obj).1 }
  | .objRelease obj => { cache with multiIdx := cache.multiIdx.objRelease obj }

/-- An object that is released is not stored any more: every entry holds a reference. -/
def Callable (cache : NMPCache) : CacheOp → Prop
  | .objRelease obj => ∀ addr entry, cache.multiIdx.entries addr = some entry → entry.obj ≠ obj
  | _ => True

def machine (support : KernelSupport) : GuardedMachine NMPCache CacheOp where
  step := perform support
  guard := Callable

theorem Invariant.perform (invariant : Invariant support cache) {op : CacheOp}
    (callable : Callable cache op) : Invariant support (cache.perform support op) := by
  cases op with
  | updateNetlink drivers objHandOver isDump =>
    exact invariant.updateNetlink drivers objHandOver isDump
  | updateNetlinkRoute objHandOver isDump flags =>
    exact invariant.updateNetlinkRoute objHandOver isDump flags
  | remove objNeedle equalsByPtr onlyDirty =>
    exact invariant.remove objNeedle equalsByPtr onlyDirty
  | removeNetlink drivers objNeedle => exact invariant.removeNetlink drivers objNeedle
  | updateLinkUdev drivers ifindex udevice =>
    exact invariant.updateLinkUdev drivers ifindex udevice
  | updateLinkMasterConnected ifindex => exact invariant.updateLinkMasterConnected ifindex
  | dirtySetAllMain idType selectObj => exact invariant.dirtySetLoop idType _
  | pruneOneType idType selectObj => exact invariant.pruneLoop idType _
  | objIntern obj =>
    exact invariant.rearranges ⟨invariant.coherent.objIntern obj, fun _ _ _ _ =>
      objIntern_tracks _ obj⟩
  | objRelease obj =>
    exact invariant.rearranges ⟨invariant.coherent.objRelease callable, fun _ _ _ _ =>
      objRelease_tracks obj⟩

/-- The secondary indexes of a cache are consistent with its main index. -/
structure IndexConsistent (support : KernelSupport) (cache : NMPCache) : Prop where
  /-- A secondary index stores exactly the objects of the main index that it can partition. -/
  stored_iff : ∀ idType, idType ≠ .objectType → ∀ obj,
    (∃ head addr, cache.multiIdx.StoredIn idType head addr obj) ↔
      (∃ head addr, cache.multiIdx.StoredIn .objectType head addr obj) ∧
        (dedupMultiIdxTypeClass support idType).partitionable obj = true
  /-- An object is stored under its own partition, where a lookup finds it. -/
  own_partition : ∀ {idType head addr obj}, cache.multiIdx.StoredIn idType head addr obj →
    cache.lookupAll support idType obj = some head ∧
      cache.lookupEntryWithIdxType support idType obj = some addr
  /-- Two objects share a head exactly if they are in one partition. -/
  same_head : ∀ {idType head addr obj otherHead otherAddr other},
    cache.multiIdx.StoredIn idType head addr obj →
    cache.multiIdx.StoredIn idType otherHead otherAddr other →
    (head = otherHead ↔
      (dedupMultiIdxTypeClass support idType).partitionEqual (some obj) (some other) = true)
  /-- No index stores a version of an object other than the one in the main index. -/
  same_version : ∀ {idType head addr obj mainHead mainAddr main},
    cache.multiIdx.StoredIn idType head addr obj →
    cache.multiIdx.StoredIn .objectType mainHead mainAddr main →
    main.idEqual support obj = true → main = obj
  /-- No index stores an object twice. -/
  stored_once : ∀ {idType head addr obj otherHead otherAddr},
    cache.multiIdx.StoredIn idType head addr obj →
    cache.multiIdx.StoredIn idType otherHead otherAddr obj → addr = otherAddr

theorem Invariant.indexConsistent (invariant : Invariant support cache) :
    IndexConsistent support cache := by
  have coherent := invariant.coherent
  have stored : ∀ {idType head addr obj}, cache.multiIdx.StoredIn idType head addr obj ↔
      cache.multiIdx.Tracks addr idType head obj := coherent.heap.storedIn_iff
  have holds : ∀ {idType obj}, (∃ head addr, cache.multiIdx.StoredIn idType head addr obj) ↔
      cache.multiIdx.Holds idType obj := by
    intro idType obj
    rw [exists_comm]
    exact exists_congr fun addr => exists_congr fun head => stored
  refine ⟨?_, ?_, ?_, ?_, ?_⟩
  · intro idType secondary obj
    rw [holds, holds]
    exact invariant.mirrors idType secondary obj
  · intro idType head addr obj obj_stored
    have tracks := stored.mp obj_stored
    exact ⟨coherent.lookupHead_eq_some.mpr ⟨addr, obj, tracks, partitionEqual_refl _ _⟩,
      coherent.lookupObj_eq_some.mpr ⟨head, obj, tracks, partitionEqual_refl _ _, idEqual_refl _ _⟩⟩
  · intro idType head addr obj otherHead otherAddr other obj_stored other_stored
    exact (coherent.heap.same_head (stored.mp obj_stored) (stored.mp other_stored)).symm
  · intro idType head addr obj mainHead mainAddr main obj_stored main_stored identical
    have obj_main : cache.multiIdx.Holds .objectType obj := by
      by_cases is_main : idType = .objectType
      · subst is_main
        exact ⟨addr, head, stored.mp obj_stored⟩
      · exact ((invariant.mirrors idType is_main obj).mp ⟨addr, head, stored.mp obj_stored⟩).1
    exact main_unique coherent ⟨mainAddr, mainHead, stored.mp main_stored⟩ obj_main identical
  · intro idType head addr obj otherHead otherAddr obj_stored other_stored
    exact coherent.tracks_unique (stored.mp obj_stored) (stored.mp other_stored)

/-- In every reachable state of the cache, the secondary indexes are consistent with the main
index. -/
theorem run_indexConsistent (support : KernelSupport) (useUdev : Bool) (ops : List CacheOp)
    (lawful : (machine support).Lawful (NMPCache.new useUdev) ops) :
    IndexConsistent support ((machine support).run (NMPCache.new useUdev) ops) :=
  ((machine support).run_preserves (fun _ _ kept callable => Invariant.perform kept callable)
    (Invariant.new support useUdev) lawful).indexConsistent

def linkInNetlink (ifindex : Int) (name : String) : NMPObjectLink :=
  { newLink ifindex with link := { (newLink ifindex).link with name }, isInNetlink := true }

/-- A link is announced, found by udev, renamed and removed. -/
theorem run_indexConsistent_rename :
    IndexConsistent ⟨true, true, true, true⟩ ((machine ⟨true, true, true, true⟩).run
      (NMPCache.new true)
      [.updateNetlink ⟨fun _ => none, fun _ => none⟩ (.link (linkInNetlink 1 "eth0")) false,
        .updateLinkUdev ⟨fun _ => some "veth", fun _ => none⟩ 1 (some 7),
        .updateNetlink ⟨fun _ => none, fun _ => none⟩ (.link (linkInNetlink 1 "eth1")) true,
        .removeNetlink ⟨fun _ => none, fun _ => none⟩ (.link (newLink 1)),
        .remove ⟨.link (newLink 1), false⟩ false false]) :=
  run_indexConsistent _ true _ ⟨trivial, trivial, trivial, trivial, trivial, trivial⟩

end NMPCache

end NetworkManager
