import Mathlib.Data.List.Pairwise
import NetworkManager.IpConfig.Objects

/-!
# Entries with distinct identities

What the functions on entries do to the objects in their order, for any class of objects whose
comparisons are lawful.
-/

namespace NetworkManager.IPConfig

open List Ordering

/-- Objects are compared completely, identities are an equivalence, and merging keeps them. -/
class LawfulNMPClass (α : Type) [NMPClass α] : Prop where
  /-- The comparison takes all fields into account. -/
  cmp_eq : ∀ a b : α, NMPClass.cmp a b = .eq ↔ a = b
  id_equivalence : Equivalence fun a b : α => idEqual a b = true
  merge_id : ∀ {new old : α}, idEqual old new = true → idEqual (NMPClass.mergeOld new old) new = true
  /-- The interface index belongs to the identity. -/
  id_ifindex : ∀ {a b : α}, idEqual a b = true → NMPClass.ifindex a = NMPClass.ifindex b
  ifindex_setIfindex : ∀ (a : α) ifindex, NMPClass.ifindex (NMPClass.setIfindex a ifindex) = ifindex
  /-- Nothing changes with the same interface index. -/
  setIfindex_self : ∀ a : α, NMPClass.setIfindex a (NMPClass.ifindex a) = a

section Lookup

variable {α : Type} [NMPClass α] {entries : List (Entry α)} {needle : α} {entry : Entry α}

theorem lookupObj_some (found : lookupObj entries needle = some entry) :
    entry ∈ entries ∧ idEqual entry.obj needle = true :=
  ⟨List.mem_of_find?_eq_some found, by simpa using find?_some found⟩

theorem lookupObj_none (absent : lookupObj entries needle = none) :
    ∀ obj ∈ objs entries, idEqual obj needle = false := by
  intro obj mem
  obtain ⟨entry, entry_mem, rfl⟩ := mem_map.mp mem
  simpa using find?_eq_none.mp absent entry entry_mem

theorem lookupObj_isSome_iff :
    (lookupObj entries needle).isSome = true ↔ ∃ obj ∈ objs entries, idEqual obj needle = true := by
  cases found : lookupObj entries needle with
  | none =>
    have absent := lookupObj_none found
    simp only [Option.isSome_none, Bool.false_eq_true, false_iff]
    rintro ⟨obj, mem, same⟩
    rw [absent obj mem] at same
    cases same
  | some entry =>
    obtain ⟨mem, same⟩ := lookupObj_some found
    simp only [Option.isSome_some, true_iff]
    exact ⟨entry.obj, mem_map_of_mem mem, same⟩

/-- An object takes the place of the one with its identity. -/
def putObj (items : List α) (obj : α) : List α :=
  items.map fun other => if idEqual other obj then obj else other

theorem objs_overwrite (entries : List (Entry α)) (obj : α) :
    objs (overwrite entries obj false) = putObj (objs entries) obj := by
  unfold overwrite objs putObj
  rw [if_neg (by decide), map_map, map_map]
  refine map_congr_left ?_
  intro entry _
  dsimp only [Function.comp_apply]
  split <;> rfl

omit [NMPClass α] in
theorem objs_filter (entries : List (Entry α)) (test : α → Bool) :
    objs (entries.filter fun entry => test entry.obj) = (objs entries).filter test := by
  unfold objs
  rw [filter_map]
  rfl

theorem objs_removeObj (entries : List (Entry α)) (needle : α) :
    objs (removeObj entries needle).1 = (objs entries).filter fun obj => !idEqual obj needle :=
  objs_filter entries fun obj => !idEqual obj needle

/-- An object has no identity of a list. -/
def outside (needles : List α) (obj : α) : Bool := needles.all fun needle => !idEqual obj needle

theorem outside_false {needles : List α} {obj needle : α} (mem : needle ∈ needles)
    (same : idEqual obj needle = true) : outside needles obj = false := by
  unfold outside
  rw [all_eq_false]
  exact ⟨needle, mem, by simp [same]⟩

theorem objs_foldl_removeObj (needles : List α) (entries : List (Entry α)) :
    objs (needles.foldl (fun entries needle => (removeObj entries needle).1) entries) =
      (objs entries).filter (outside needles) := by
  induction needles generalizing entries with
  | nil => exact (filter_eq_self.mpr fun _ _ => rfl).symm
  | cons needle needles ih =>
    rw [foldl_cons, ih, objs_removeObj, filter_filter]
    refine filter_congr ?_
    intro obj _
    simp [outside, Bool.and_comm]

/-- No two objects have the same identity. -/
def Distinct (items : List α) : Prop := items.Pairwise fun a b => idEqual a b = false

theorem Distinct.filter {items : List α} (distinct : Distinct items) (test : α → Bool) :
    Distinct (items.filter test) :=
  List.Pairwise.filter _ distinct

end Lookup

section Lawful

variable {α : Type} [NMPClass α] [LawfulNMPClass α]

theorem objEqual_iff {a b : α} : objEqual a b = true ↔ a = b := by
  unfold objEqual
  rw [isEq_iff_eq_eq, LawfulNMPClass.cmp_eq]

@[simp] theorem idEqual_refl (a : α) : idEqual a a = true :=
  LawfulNMPClass.id_equivalence.refl a

theorem idEqual_symm {a b : α} (same : idEqual a b = true) : idEqual b a = true :=
  LawfulNMPClass.id_equivalence.symm same

theorem idEqual_trans {a b c : α} (first : idEqual a b = true) (second : idEqual b c = true) :
    idEqual a c = true :=
  LawfulNMPClass.id_equivalence.trans first second

theorem idEqual_congr_left {a b : α} (same : idEqual a b = true) (other : α) :
    idEqual a other = idEqual b other := by
  rw [Bool.eq_iff_iff]
  exact ⟨fun first => idEqual_trans (idEqual_symm same) first,
    fun first => idEqual_trans same first⟩

theorem Distinct.eq_of_idEqual {items : List α} (distinct : Distinct items) {a b : α}
    (a_mem : a ∈ items) (b_mem : b ∈ items) (same : idEqual a b = true) : a = b := by
  by_contra different
  have symmetric : Std.Symm fun a b : α => idEqual a b = false :=
    ⟨fun a b apart => Bool.eq_false_iff.mpr fun same => by
      rw [idEqual_symm same] at apart
      cases apart⟩
  have apart := List.Pairwise.forall distinct a_mem b_mem different
  rw [same] at apart
  cases apart

section Add

variable {entries : List (Entry α)} {objNew : α} {merge : Bool} {items : List α}

theorem putObj_self (distinct : Distinct items) {obj : α} (mem : obj ∈ items) :
    putObj items obj = items := by
  unfold putObj
  have same : ∀ other ∈ items, (if idEqual other obj then obj else other) = other := by
    intro other other_mem
    split
    · rename_i same
      exact (distinct.eq_of_idEqual other_mem mem same).symm
    · rfl
  exact (map_congr_left same).trans (map_id _)

theorem putObj_distinct (distinct : Distinct items) (obj : α) : Distinct (putObj items obj) := by
  unfold Distinct putObj
  rw [pairwise_map]
  refine distinct.imp ?_
  intro a b apart
  split
  · rename_i a_same
    split
    · rename_i b_same
      rw [idEqual_trans a_same (idEqual_symm b_same)] at apart
      cases apart
    · rename_i b_apart
      rw [Bool.eq_false_iff]
      intro same
      exact b_apart (idEqual_symm same)
  · rename_i a_apart
    split
    · exact Bool.eq_false_iff.mpr a_apart
    · exact apart

theorem addObjTo_some {entryOld : Entry α} (found : lookupObj entries objNew = some entryOld)
    (merge appendForce : Bool) :
    ∃ obj, idEqual obj objNew = true ∧
      (addObjTo entries objNew merge appendForce).entries = overwrite entries obj appendForce ∧
      (addObjTo entries objNew merge appendForce).objNew = obj ∧
      (addObjTo entries objNew merge appendForce).objOld = some entryOld.obj ∧
      ((addObjTo entries objNew merge appendForce).changed = false → obj = entryOld.obj) ∧
      (obj ≠ entryOld.obj → obj = if merge then NMPClass.mergeOld objNew entryOld.obj else objNew) ∧
      (obj = entryOld.obj → appendForce = false →
        (addObjTo entries objNew merge appendForce).changed = false) := by
  have old_same := (lookupObj_some found).2
  unfold addObjTo
  rw [found]
  dsimp only
  generalize merged_eq : (if (!objEqual objNew entryOld.obj) = true ∧ merge = true then
    NMPClass.mergeOld objNew entryOld.obj else objNew) = merged
  have merged_same : idEqual merged objNew = true := by
    rw [← merged_eq]
    split
    · exact LawfulNMPClass.merge_id old_same
    · exact idEqual_refl objNew
  by_cases equal : objEqual merged entryOld.obj = true
  · rw [if_pos equal]
    refine ⟨entryOld.obj, old_same, rfl, rfl, rfl, fun _ => rfl, fun changed => absurd rfl changed,
      ?_⟩
    rintro - rfl
    rfl
  · rw [if_neg equal]
    refine ⟨merged, merged_same, rfl, rfl, rfl, by simp, ?_, ?_⟩
    · intro _
      rw [← merged_eq]
      by_cases same : objEqual objNew entryOld.obj = true
      · simp only [same, Bool.not_true, Bool.false_eq_true, false_and, if_false] at merged_eq
        rw [← merged_eq] at equal
        exact absurd same equal
      · simp [same]
    · intro unchanged
      exact absurd (objEqual_iff.mpr unchanged) equal

theorem addObjTo_objNew (entries : List (Entry α)) (objNew : α) (merge appendForce : Bool) :
    idEqual (addObjTo entries objNew merge appendForce).objNew objNew = true := by
  cases found : lookupObj entries objNew with
  | none =>
    unfold addObjTo
    rw [found]
    exact idEqual_refl objNew
  | some entryOld =>
    obtain ⟨obj, same, -, stored, -⟩ := addObjTo_some found merge appendForce
    rw [stored]
    exact same

theorem objs_addObjTo (entries : List (Entry α)) (objNew : α) (merge : Bool) :
    objs (addObjTo entries objNew merge false).entries =
      match lookupObj entries objNew with
      | none => objs entries ++ [objNew]
      | some _ => putObj (objs entries) (addObjTo entries objNew merge false).objNew := by
  cases found : lookupObj entries objNew with
  | none =>
    unfold addObjTo
    rw [found]
    exact map_append
  | some entryOld =>
    obtain ⟨obj, -, overwritten, stored, -⟩ := addObjTo_some found merge false
    rw [overwritten, stored]
    exact objs_overwrite _ _

theorem addObjTo_distinct (distinct : Distinct (objs entries)) (objNew : α) (merge : Bool) :
    Distinct (objs (addObjTo entries objNew merge false).entries) := by
  rw [objs_addObjTo]
  cases found : lookupObj entries objNew with
  | none =>
    refine pairwise_append.mpr ⟨distinct, pairwise_singleton _ _, ?_⟩
    intro a a_mem b b_mem
    obtain rfl := mem_singleton.mp b_mem
    exact lookupObj_none found a a_mem
  | some entryOld => exact putObj_distinct distinct _

theorem addObjTo_force (entries : List (Entry α)) (objNew : α) :
    (addObjTo entries objNew false true).entries =
      (entries.filter fun entry => !idEqual entry.obj objNew) ++ [⟨objNew, false⟩] ∧
      (addObjTo entries objNew false true).objNew = objNew := by
  unfold addObjTo
  cases found : lookupObj entries objNew with
  | none =>
    dsimp only
    refine ⟨?_, rfl⟩
    have kept : (entries.filter fun entry => !idEqual entry.obj objNew) = entries := by
      rw [filter_eq_self]
      intro entry mem
      rw [lookupObj_none found entry.obj (mem_map_of_mem mem)]
      rfl
    rw [kept]
  | some entryOld =>
    simp only [Bool.false_eq_true, and_false, if_false]
    split
    · rename_i equal
      rw [objEqual_iff] at equal
      rw [← equal]
      exact ⟨rfl, rfl⟩
    · exact ⟨rfl, rfl⟩

theorem addObjTo_forall {holds : α → Prop} (all : ∀ obj ∈ objs entries, holds obj)
    (new_holds : holds objNew)
    (merged_holds : ∀ old, idEqual old objNew = true → holds (NMPClass.mergeOld objNew old))
    (merge : Bool) : ∀ obj ∈ objs (addObjTo entries objNew merge false).entries, holds obj := by
  rw [objs_addObjTo]
  cases found : lookupObj entries objNew with
  | none =>
    intro obj mem
    rcases mem_append.mp mem with mem | mem
    · exact all obj mem
    · rw [mem_singleton.mp mem]
      exact new_holds
  | some entryOld =>
    obtain ⟨old_mem, old_same⟩ := lookupObj_some found
    obtain ⟨stored, -, -, stored_eq, -, -, is_merged, -⟩ := addObjTo_some found merge false
    have stored_holds : holds stored := by
      by_cases is_old : stored = entryOld.obj
      · rw [is_old]
        exact all _ (mem_map_of_mem old_mem)
      · rw [is_merged is_old]
        split
        · exact merged_holds _ old_same
        · exact new_holds
    intro obj mem
    dsimp only at mem
    rw [stored_eq] at mem
    unfold putObj at mem
    obtain ⟨other, other_mem, rfl⟩ := mem_map.mp mem
    split
    · exact stored_holds
    · exact all other other_mem

theorem addObjTo_ifindex {ifindex : Int}
    (uniform : ∀ obj ∈ objs entries, NMPClass.ifindex obj = ifindex)
    (new_ifindex : NMPClass.ifindex objNew = ifindex) (merge : Bool) :
    ∀ obj ∈ objs (addObjTo entries objNew merge false).entries, NMPClass.ifindex obj = ifindex := by
  refine addObjTo_forall uniform new_ifindex ?_ merge
  intro old same
  rw [LawfulNMPClass.id_ifindex (LawfulNMPClass.merge_id same)]
  exact new_ifindex

theorem foldl_addObjTo_force (distinct : Distinct items) (entries : List (Entry α)) :
    items.foldl (fun entries obj => (addObjTo entries obj false true).entries) entries =
      (entries.filter fun entry => outside items entry.obj) ++ items.map fun obj => ⟨obj, false⟩ := by
  induction items generalizing entries with
  | nil => simp [outside]
  | cons item items ih =>
    obtain ⟨apart, distinct⟩ := pairwise_cons.mp distinct
    have item_outside : outside items item = true := by
      unfold outside
      rw [all_eq_true]
      intro other mem
      rw [apart other mem]
      rfl
    rw [foldl_cons, ih distinct, (addObjTo_force entries item).1, filter_append,
      filter_filter, map_cons]
    have kept : ∀ entry : Entry α, (outside items entry.obj && !idEqual entry.obj item) =
        outside (item :: items) entry.obj := by
      intro entry
      simp [outside, Bool.and_comm]
    simp [kept, item_outside]

theorem dirtyRemoveIdx_foldl (distinct : Distinct items) (entries : List (Entry α)) :
    dirtyRemoveIdx (items.foldl (fun entries obj => (addObjTo entries obj false true).entries)
      (dirtySetIdx entries)) = items.map fun obj => ⟨obj, false⟩ := by
  rw [foldl_addObjTo_force distinct]
  unfold dirtyRemoveIdx dirtySetIdx
  rw [filter_append]
  have removed : ((entries.map fun entry => { entry with dirty := true }).filter fun entry =>
      outside items entry.obj).filter (fun entry => !entry.dirty) = [] := by
    rw [filter_eq_nil_iff]
    intro entry mem
    obtain ⟨old, -, rfl⟩ := mem_map.mp (mem_filter.mp mem).1
    simp
  rw [removed, nil_append, filter_eq_self]
  intro entry mem
  obtain ⟨obj, -, rfl⟩ := mem_map.mp mem
  rfl

end Add

theorem outside_congr {a b : α} (same : idEqual a b = true) (needles : List α) :
    outside needles a = outside needles b := by
  unfold outside
  have congr_left := fun needle => idEqual_congr_left same needle
  simp only [congr_left]

/-- Adding an object changes nothing outside of its identity. -/
theorem filter_addObjTo {needles : List α} {objNew : α} (inside : outside needles objNew = false)
    (entries : List (Entry α)) (merge : Bool) :
    (objs (addObjTo entries objNew merge false).entries).filter (outside needles) =
      (objs entries).filter (outside needles) := by
  rw [objs_addObjTo]
  cases lookupObj entries objNew with
  | none => simp [inside]
  | some entryOld =>
    dsimp only
    have stored := addObjTo_objNew entries objNew merge false
    generalize (addObjTo entries objNew merge false).objNew = obj at stored
    have obj_inside : outside needles obj = false := by
      rw [outside_congr stored]
      exact inside
    unfold putObj
    induction objs entries with
    | nil => rfl
    | cons item items ih =>
      rw [map_cons, filter_cons, filter_cons, ih]
      split
      · rename_i same
        simp only [obj_inside, outside_congr same, Bool.false_eq_true, if_false]
      · rfl

end Lawful

section Instances

theorem equivalence_of_key {α κ : Type} [NMPClass α] (key : α → κ)
    (id_iff : ∀ a b : α, NMPClass.idCmp a b = .eq ↔ key a = key b) :
    Equivalence fun a b : α => idEqual a b = true := by
  have same_iff : ∀ a b : α, idEqual a b = true ↔ key a = key b := by
    intro a b
    unfold idEqual
    rw [isEq_iff_eq_eq]
    exact id_iff a b
  simp only [same_iff]
  exact ⟨fun a => rfl, fun same => same.symm, fun first second => first.trans second⟩

theorem mergeAddress_id (new old : NMPlatformIPAddress) :
    (mergeAddress new old).ifindex = new.ifindex ∧ (mergeAddress new old).plen = new.plen := by
  unfold mergeAddress
  dsimp only
  split <;> split <;> exact ⟨rfl, rfl⟩

/-- The identity of an IPv4 address. -/
def ip4AddressKey (address : NMPlatformIP4Address) : Int × UInt8 × InAddr × InAddr :=
  (address.ifindex, address.plen, address.address,
    htonl (ip4AddressClearHostAddress address.peerAddress address.plen))

theorem ip4AddressIdCmp_eq {a b : NMPlatformIP4Address} :
    ip4AddressIdCmp a b = .eq ↔ ip4AddressKey a = ip4AddressKey b := by
  unfold ip4AddressIdCmp ip4AddressKey
  simp only [then_eq_eq, Std.compare_eq_iff_eq, ip4AddressSamePrefixCmp_eq, Prod.mk.injEq]
  constructor
  · rintro ⟨ifindex, plen, address, peer⟩
    refine ⟨ifindex, plen, address, ?_⟩
    rw [peer, plen]
  · rintro ⟨ifindex, plen, address, peer⟩
    refine ⟨ifindex, plen, address, ?_⟩
    rw [peer, plen]

instance : LawfulNMPClass NMPlatformIP4Address where
  cmp_eq := fun a b => NMPObject.ip4AddressCmp_eq
  id_equivalence := equivalence_of_key ip4AddressKey fun a b => ip4AddressIdCmp_eq
  merge_id := by
    intro new old _
    unfold idEqual
    rw [Ordering.isEq_iff_eq_eq]
    refine ip4AddressIdCmp_eq.mpr ?_
    obtain ⟨ifindex_eq, plen_eq⟩ :=
      mergeAddress_id new.toNMPlatformIPAddress old.toNMPlatformIPAddress
    simp [ip4AddressKey, NMPClass.mergeOld, ifindex_eq, plen_eq]
  id_ifindex := by
    intro a b same
    unfold idEqual at same
    rw [Ordering.isEq_iff_eq_eq] at same
    exact congrArg Prod.fst (ip4AddressIdCmp_eq.mp same)
  ifindex_setIfindex := fun _ _ => rfl
  setIfindex_self := fun _ => rfl

theorem mergeRoute_eq (new old : NMPlatformIPRoute) :
    mergeRoute new old = new ∨ mergeRoute new old = { new with rtSource := old.rtSource } := by
  unfold mergeRoute
  split
  · exact Or.inr rfl
  · exact Or.inl rfl

instance : LawfulNMPClass NMPlatformIP4Route where
  cmp_eq := fun a b => NMPObject.ip4RouteCmp_full
  id_equivalence := equivalence_of_key NMPlatformIP4Route.key fun a b => ip4RouteCmp_id
  merge_id := by
    intro new old same
    unfold idEqual at same ⊢
    rw [Ordering.isEq_iff_eq_eq] at same ⊢
    have same_key := ip4RouteCmp_id.mp same
    refine ip4RouteCmp_id.mpr ?_
    dsimp only [NMPClass.mergeOld]
    -- The source is part of the identity only as far as the routing protocol goes.
    have same_rtprot := congrArg Ip4RouteKey.rtprot same_key
    rcases mergeRoute_eq new.toNMPlatformIPRoute old.toNMPlatformIPRoute with merged | merged
    · rw [merged]
    · rw [merged]
      exact congrArg (fun rtprot => { new.key with rtprot := rtprot }) same_rtprot
  id_ifindex := by
    intro a b same
    unfold idEqual at same
    rw [Ordering.isEq_iff_eq_eq] at same
    exact congrArg Ip4RouteKey.ifindex (ip4RouteCmp_id.mp same)
  ifindex_setIfindex := fun _ _ => rfl
  setIfindex_self := fun _ => rfl

instance : LawfulNMPClass NMPlatformIP6Route where
  cmp_eq := fun a b => NMPObject.ip6RouteCmp_full
  id_equivalence := by
    refine equivalence_of_key (fun route : NMPlatformIP6Route =>
      (route.weakKey, route.ifindex, route.gateway)) fun a b => ?_
    simp only [Prod.mk.injEq]
    exact ip6RouteCmp_id
  merge_id := by
    intro new old _
    unfold idEqual
    rw [Ordering.isEq_iff_eq_eq]
    refine ip6RouteCmp_id.mpr ?_
    dsimp only [NMPClass.mergeOld]
    rcases mergeRoute_eq new.toNMPlatformIPRoute old.toNMPlatformIPRoute with merged | merged
    · rw [merged]
      exact ⟨rfl, rfl, rfl⟩
    · rw [merged]
      exact ⟨rfl, rfl, rfl⟩
  id_ifindex := by
    intro a b same
    unfold idEqual at same
    rw [Ordering.isEq_iff_eq_eq] at same
    exact (ip6RouteCmp_id.mp same).2.1
  ifindex_setIfindex := fun _ _ => rfl
  setIfindex_self := fun _ => rfl

end Instances

end NetworkManager.IPConfig
