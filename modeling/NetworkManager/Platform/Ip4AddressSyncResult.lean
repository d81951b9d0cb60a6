import NetworkManager.Platform.Identity
import NetworkManager.Platform.Ip4AddressSync
import Mathlib.Data.List.ReduceOption
import Mathlib.Data.Set.Insert
import Mathlib.Order.BooleanAlgebra.Set

/-!
# What synchronising IPv4 addresses achieves

Whichever addresses the first loop takes for primary ones, an address that it leaves on the
interface is known.  So it is enough that the last loop adds all known addresses: in the end the
interface has these and no others.  A known address is dropped from the list only when it has
expired, and in particular not because the list has it twice.
-/

namespace NetworkManager.Ip4AddressSync

open AddressSync List

theorem sameId_iff {a b : NMPlatformIP4Address} :
    sameId a b = true ↔ a.ifindex = b.ifindex ∧ addressId a = addressId b := by
  simp only [sameId, Ordering.isEq_iff_eq_eq, ip4AddressIdCmp, Ordering.then_eq_eq,
    Std.compare_eq_iff_eq, ip4AddressSamePrefixCmp_eq, addressId, idOf, Ip4AddressId.mk.injEq]
  constructor
  · rintro ⟨ifindex, plen, address, network⟩
    exact ⟨ifindex, address, plen, by rw [← plen]; exact network⟩
  · rintro ⟨ifindex, address, plen, network⟩
    exact ⟨ifindex, plen, address, by rw [plen]; rw [plen] at network; exact network⟩

theorem sameId_self (a : NMPlatformIP4Address) : sameId a a = true :=
  sameId_iff.mpr ⟨rfl, rfl⟩

theorem sameId_symm {a b : NMPlatformIP4Address} (same : sameId a b = true) :
    sameId b a = true := by
  obtain ⟨ifindex, id⟩ := sameId_iff.mp same
  exact sameId_iff.mpr ⟨ifindex.symm, id.symm⟩

theorem sameId_trans {a b c : NMPlatformIP4Address} (first : sameId a b = true)
    (second : sameId b c = true) : sameId a c = true := by
  obtain ⟨ifindex, id⟩ := sameId_iff.mp first
  obtain ⟨ifindex', id'⟩ := sameId_iff.mp second
  exact sameId_iff.mpr ⟨ifindex.trans ifindex', id.trans id'⟩

theorem objectAt_map_some (plats : List Ip4Object) (place : Nat) :
    objectAt (plats.map some) place = plats[place]? := by
  rw [objectAt, List.getElem?_map]
  cases plats[place]? <;> rfl

theorem objectAt_set_of_ne {addresses : List (Option Ip4Object)} {place other : Nat}
    (apart : place ≠ other) :
    objectAt (addresses.set place none) other = objectAt addresses other := by
  rw [objectAt, objectAt, List.getElem?_set_ne apart]

variable {σ : Type*}

/-- The identities of the addresses of the interface. -/
def Ip4Platform.ids (platform : Ip4Platform σ) (state : σ) : Set Ip4AddressId :=
  {id | ∃ o ∈ platform.addresses state, addressId o.address = id}

/-- Adding and deleting addresses succeeds, and it affects no addresses of other identities. -/
structure Ip4Platform.Succeeds (platform : Ip4Platform σ) : Prop where
  /-- An address that was deleted is gone, and the others are left alone. -/
  delete_ids : ∀ state address plen peerAddress,
    platform.ids (platform.ip4AddressDelete state address plen peerAddress) =
      platform.ids state \ {idOf address plen peerAddress}
  /-- An address that was added is there, and the others are left alone. -/
  add_ids : ∀ state request,
    platform.ids (platform.ip4AddressAdd state request).1 = insert request.id (platform.ids state)
  add_success : ∀ state request, (platform.ip4AddressAdd state request).2 = true

variable {platform : Ip4Platform σ} {known : List (Option Ip4Object)} {subnets : Subnets}

def deleteAll (platform : Ip4Platform σ) (state : σ) (deleted : List NMPlatformIP4Address) : σ :=
  deleted.foldl
    (fun state a => platform.ip4AddressDelete state a.address a.plen a.peerAddress) state

theorem ids_deleteAll (succeeds : platform.Succeeds) (state : σ)
    (deleted : List NMPlatformIP4Address) :
    platform.ids (deleteAll platform state deleted) =
      platform.ids state \ {id | id ∈ deleted.map addressId} := by
  induction deleted generalizing state with
  | nil =>
    ext id
    simp [deleteAll]
  | cons a deleted ih =>
    calc platform.ids (deleteAll platform state (a :: deleted))
      _ = platform.ids (platform.ip4AddressDelete state a.address a.plen a.peerAddress) \
            {id | id ∈ deleted.map addressId} := ih _
      _ = (platform.ids state \ {addressId a}) \ {id | id ∈ deleted.map addressId} := by
        rw [succeeds.delete_ids]
        rfl
      _ = platform.ids state \ {id | id ∈ (a :: deleted).map addressId} := by
        ext id
        simp only [Set.mem_sdiff, Set.mem_singleton_iff, Set.mem_ofPred_eq, map_cons,
          mem_cons, not_or, and_assoc]

/-- What the first loop knows of its own deletions, after it came by some places: no other address
lost its place in the array, and an address it came by is deleted unless it is to be kept. -/
structure Progress (platform : Ip4Platform σ) (known : List (Option Ip4Object)) (initial : σ)
    (handled : List Nat) (state : DeleteState σ) : Prop where
  recorded : state.platform = deleteAll platform initial state.deleted
  tombstones : ∀ place o, (platform.addresses initial)[place]? = some o →
    objectAt state.platAddresses place = some o ∨ addressId o.address ∈ state.deleted.map addressId
  settled : ∀ place ∈ handled, ∀ o, (platform.addresses initial)[place]? = some o →
    isKept known o = true ∨ addressId o.address ∈ state.deleted.map addressId

namespace Progress

variable {initial : σ} {handled : List Nat} {state : DeleteState σ}

theorem start : Progress platform known initial []
    ⟨initial, (platform.addresses initial).map some, []⟩ where
  recorded := rfl
  tombstones place _ listed := Or.inl ((objectAt_map_some _ place).trans listed)
  settled _ absent := absurd absent not_mem_nil

theorem delete (progress : Progress platform known initial handled state)
    (a : NMPlatformIP4Address) :
    Progress platform known initial handled (state.delete platform a) := by
  have more : ∀ {id}, id ∈ state.deleted.map addressId →
      id ∈ (state.delete platform a).deleted.map addressId := by
    intro id mem
    rw [DeleteState.delete, map_append]
    exact mem_append_left _ mem
  refine ⟨?_, fun place o listed => ?_, fun place passed o listed => ?_⟩
  · rw [DeleteState.delete, progress.recorded, deleteAll, deleteAll, foldl_append]
    rfl
  · exact (progress.tombstones place o listed).imp_right more
  · exact (progress.settled place passed o listed).imp_right more

variable (platform state) in
theorem mem_deleted_delete (a : NMPlatformIP4Address) :
    addressId a ∈ (state.delete platform a).deleted.map addressId := by
  simp [DeleteState.delete]

section

variable (progress : Progress platform known initial handled state)

include progress

theorem deleteSecondary (place : Nat) :
    Progress platform known initial handled (deleteSecondary platform state place) := by
  unfold Ip4AddressSync.deleteSecondary
  cases found : objectAt state.platAddresses place with
  | none => exact progress
  | some o =>
    have deleted := progress.delete o.address
    refine ⟨deleted.recorded, fun other p listed => ?_, deleted.settled⟩
    by_cases same : place = other
    · subst same
      -- The place lost what was deleted, or it had a tombstone already.
      rcases progress.tombstones place p listed with present | gone
      · obtain rfl : o = p := Option.some.inj (found.symm.trans present)
        exact Or.inr (mem_deleted_delete platform state _)
      · refine Or.inr ?_
        show addressId p.address ∈ (state.deleted ++ [o.address]).map addressId
        rw [map_append]
        exact mem_append_left _ gone
    · rw [objectAt_set_of_ne same]
      exact deleted.tombstones other p listed

theorem deleteSecondaries (places : List Nat) :
    Progress platform known initial handled
      (places.foldl (Ip4AddressSync.deleteSecondary platform) state) := by
  induction places generalizing state with
  | nil => exact progress
  | cons place places ih => exact ih (progress.deleteSecondary place)

theorem handle {place : Nat}
    (here : ∀ o, objectAt state.platAddresses place = some o →
      isKept known o = true ∨ addressId o.address ∈ state.deleted.map addressId) :
    Progress platform known initial (handled ++ [place]) state := by
  refine ⟨progress.recorded, progress.tombstones, fun other passed o listed => ?_⟩
  rcases mem_append.mp passed with earlier | last
  · exact progress.settled other earlier o listed
  · rw [mem_singleton.mp last] at listed
    rcases progress.tombstones place o listed with present | gone
    · exact here o present
    · exact Or.inr gone

/-- One turn of the first loop settles what happens to the address at a place. -/
theorem deleteUnknown (place : Nat) :
    Progress platform known initial (handled ++ [place])
      (deleteUnknown platform known subnets state place) := by
  unfold Ip4AddressSync.deleteUnknown
  cases found : objectAt state.platAddresses place with
  | none =>
    apply progress.handle
    intro o present
    rw [found] at present
    cases present
  | some platObj =>
    by_cases kept : isKept known platObj = true
    · simp only [if_pos kept]
      apply progress.handle
      intro o present
      obtain rfl : platObj = o := Option.some.inj (found.symm.trans present)
      exact Or.inl kept
    · simp only [if_neg kept]
      have deleted : Progress platform known initial (handled ++ [place])
          (state.delete platform platObj.address) := by
        apply (progress.delete platObj.address).handle
        intro o present
        obtain rfl : platObj = o := Option.some.inj (found.symm.trans present)
        exact Or.inr (mem_deleted_delete platform state _)
      split
      · exact deleted.deleteSecondaries _
      · exact deleted

theorem run (places : List Nat) :
    Progress platform known initial (handled ++ places)
      (places.foldl (Ip4AddressSync.deleteUnknown platform known subnets) state) := by
  induction places generalizing handled state with
  | nil => rwa [append_nil]
  | cons place places ih =>
    rw [← singleton_append, ← append_assoc]
    exact ih (progress.deleteUnknown place)

end

end Progress

/-- In the end the first loop came by all places. -/
theorem deleteAllUnknown_progress (platform : Ip4Platform σ) (known : List (Option Ip4Object))
    (state : σ) :
    Progress platform known state (List.range (platform.addresses state).length)
      (deleteAllUnknown platform known state) := by
  unfold deleteAllUnknown
  rw [← length_map some]
  exact Progress.start.run _

theorem kept_or_deleted (platform : Ip4Platform σ) (known : List (Option Ip4Object)) {state : σ}
    {o : Ip4Object} (listed : o ∈ platform.addresses state) :
    isKept known o = true ∨
      addressId o.address ∈ (deleteAllUnknown platform known state).deleted.map addressId := by
  obtain ⟨place, inside, rfl⟩ := mem_iff_getElem.mp listed
  exact (deleteAllUnknown_progress platform known state).settled place
    (mem_range.mpr inside) _ (List.getElem?_eq_getElem inside)

theorem exists_known_of_isKept {o : Ip4Object} (kept : isKept known o = true) :
    ∃ a, some a ∈ known ∧ addressId a.address = addressId o.address := by
  unfold isKept at kept
  cases found : lookupKnown known o with
  | none =>
    rw [found] at kept
    cases kept
  | some a =>
    have mem := List.mem_of_find?_eq_some found
    have same := find?_some found
    refine ⟨a, ?_, (sameId_iff.mp same).2.symm⟩
    exact reduceOption_mem_iff.mp (mem_reverse.mp mem)

theorem known_of_mem_ids (succeeds : platform.Succeeds) {state : σ} {id : Ip4AddressId}
    (present : id ∈ platform.ids (deleteAllUnknown platform known state).platform) :
    ∃ a, some a ∈ known ∧ addressId a.address = id := by
  rw [(deleteAllUnknown_progress platform known state).recorded, ids_deleteAll succeeds] at present
  obtain ⟨⟨o, listed, rfl⟩, not_deleted⟩ := present
  rcases kept_or_deleted platform known listed with kept | deleted
  · exact exists_known_of_isKept kept
  · exact absurd deleted not_deleted

/-- The last loop adds all addresses that are valid, and drops none of them. -/
theorem addKnown_spec (succeeds : platform.Succeeds) (ifindex : Int) (now : Nat)
    (extendedIfaFlags : Bool) (valid : ∀ o, some o ∈ known → isValid now o = true) (state : σ) :
    let result := addKnown platform ifindex now extendedIfaFlags known state
    platform.ids result.1 =
        platform.ids state ∪ {id | ∃ o, some o ∈ known ∧ addressId o.address = id} ∧
      result.2 = known := by
  induction known generalizing state with
  | nil => simp [addKnown]
  | cons entry known ih =>
    have rest := ih (fun o mem => valid o (mem_cons_of_mem _ mem))
    cases entry with
    | none =>
      obtain ⟨ids, list⟩ := rest state
      refine ⟨ids.trans ?_, congrArg (none :: ·) list⟩
      simp only [mem_cons, reduceCtorEq, false_or]
    | some o =>
      have here := valid o mem_cons_self
      let request := addressRequest ifindex now extendedIfaFlags o.address
      obtain ⟨ids, list⟩ := rest (platform.ip4AddressAdd state request).1
      simp only [addKnown, if_pos here, succeeds.add_success, if_true]
      refine ⟨?_, congrArg (some o :: ·) list⟩
      rw [ids, succeeds.add_ids]
      ext id
      simp only [Set.mem_union, Set.mem_insert_iff, Set.mem_ofPred_eq, mem_cons,
        Option.some.injEq, or_and_right, exists_or, exists_eq_left]
      rw [or_comm (a := id = _), or_assoc, @eq_comm _ id]
      rfl

theorem mem_cleanExpired {now : Nat} {known : List Ip4Object} {o : Ip4Object} :
    some o ∈ addrArrayCleanExpired now known ↔ o ∈ known ∧ isValid now o = true := by
  simp only [addrArrayCleanExpired, mem_map, Option.ite_none_right_eq_some, Option.some.injEq]
  constructor
  · rintro ⟨_, mem, valid, rfl⟩
    exact ⟨mem, valid⟩
  · rintro ⟨mem, valid⟩
    exact ⟨o, mem, valid, rfl⟩

/-- If the platform does what it is asked for, then in the end the interface has the known addresses
that are valid, and the list has tombstones where addresses expired. -/
theorem ip4AddressSync_achieves (platform : Ip4Platform σ) (succeeds : platform.Succeeds)
    (ifindex : Int) (now : Nat) (extendedIfaFlags : Bool) (known : List Ip4Object) (state : σ) :
    let result := ip4AddressSync platform ifindex now extendedIfaFlags known state
    platform.ids result.platform =
        {id | ∃ o ∈ known, isValid now o = true ∧ addressId o.address = id} ∧
      result.knownAddresses = known.map fun o => if isValid now o then some o else none := by
  have valid : ∀ o, some o ∈ addrArrayCleanExpired now known → isValid now o = true :=
    fun o mem => (mem_cleanExpired.mp mem).2
  obtain ⟨ids, list⟩ := addKnown_spec succeeds ifindex now extendedIfaFlags valid
    (deleteAllUnknown platform (addrArrayCleanExpired now known) state).platform
  refine ⟨ids.trans (Set.Subset.antisymm ?_ ?_), list⟩
  · intro id present
    have known_id : ∃ a, some a ∈ addrArrayCleanExpired now known ∧ addressId a.address = id := by
      rcases present with left | added
      · exact known_of_mem_ids succeeds left
      · exact added
    obtain ⟨o, mem, same⟩ := known_id
    obtain ⟨listed, lasting⟩ := mem_cleanExpired.mp mem
    exact ⟨o, listed, lasting, same⟩
  · rintro id ⟨o, listed, lasting, same⟩
    exact Or.inr ⟨o, mem_cleanExpired.mpr ⟨listed, lasting⟩, same⟩

theorem mem_kernel_ids {list : List NMPlatformIP4Address} {id : Ip4AddressId} :
    id ∈ kernel.ids list ↔ id ∈ list.map addressId := by
  have contents : (kernel.addresses list).map Ip4Object.address = list := by
    simp only [kernel, map_map]
    exact zipIdx_map_fst 0 list
  constructor
  · rintro ⟨o, listed, rfl⟩
    exact mem_map_of_mem (contents ▸ mem_map_of_mem listed)
  · intro mem
    rw [← contents, map_map] at mem
    exact mem_map.mp mem

theorem mem_ids_kernelAdd (list : List NMPlatformIP4Address) (request : Ip4AddressRequest)
    (id : Ip4AddressId) :
    id ∈ (kernelAdd list request).map addressId ↔ id = request.id ∨ id ∈ list.map addressId := by
  have added : ∀ secondary, addressId (request.toAddress secondary) = request.id := fun _ => rfl
  unfold kernelAdd
  split
  next existing =>
    have refreshed : (list.map fun a =>
        if addressId a = request.id then refresh request a else a).map addressId =
          list.map addressId := by
      rw [map_map]
      refine map_congr_left fun a _ => ?_
      rw [Function.comp_apply, apply_ite addressId]
      exact ite_self _
    rw [refreshed]
    obtain ⟨a, listed, same⟩ := any_eq_true.mp existing
    refine ⟨Or.inr, fun present => present.elim (fun requested => ?_) fun mem => mem⟩
    rw [requested, ← eq_of_beq same]
    exact mem_map_of_mem listed
  next =>
    simp only
    split
    · rw [map_append, mem_append, or_comm, map_singleton, mem_singleton, added]
    · have parts : id ∈ list.map addressId ↔
          id ∈ (list.filter fun a => !isFlaggedSecondary a).map addressId ∨
            id ∈ (list.filter isFlaggedSecondary).map addressId := by
        rw [← mem_append, ← map_append]
        exact (((filter_append_perm isFlaggedSecondary list).symm.trans
          perm_append_comm).map addressId).mem_iff
      rw [map_append, map_cons, mem_append, mem_cons, added, parts, or_left_comm]

theorem kernel_succeeds : kernel.Succeeds where
  delete_ids list address plen peerAddress := by
    ext id
    rw [Set.mem_sdiff, mem_kernel_ids, mem_kernel_ids, Set.mem_singleton_iff]
    simp only [kernel, mem_map, mem_filter, Bool.not_eq_true', beq_eq_false_iff_ne]
    constructor
    · rintro ⟨a, ⟨listed, other⟩, rfl⟩
      exact ⟨⟨a, listed, rfl⟩, other⟩
    · rintro ⟨⟨a, listed, rfl⟩, other⟩
      exact ⟨a, ⟨listed, other⟩, rfl⟩
  add_ids list request := by
    ext id
    rw [Set.mem_insert_iff, mem_kernel_ids, mem_kernel_ids]
    exact mem_ids_kernelAdd list request id
  add_success _ _ := rfl

/-- An address of interface 1 that is its own peer. -/
def plainAddress (address : InAddr) (plen : UInt8) (timestamp lifetime : UInt32)
    (nIfaFlags : UInt32) : NMPlatformIP4Address where
  ifindex := 1
  addrSource := 266
  timestamp := timestamp
  lifetime := lifetime
  preferred := lifetime
  nIfaFlags := nIfaFlags
  plen := plen
  isExternal := false
  address := address
  peerAddress := address
  label := ""

/-- The kernel has 10.0.0.1/24 and, with a wrong role, 10.0.0.2/24. -/
def stale : List NMPlatformIP4Address :=
  [plainAddress 0x0100000a 24 0 0 0, plainAddress 0x0200000a 24 0 0 ifaFSecondary]

/-- 10.0.0.2/24, twice, and 10.0.0.3/24, which has expired at time 100. -/
def wanted : List Ip4Object :=
  [⟨10, plainAddress 0x0200000a 24 0 0 0⟩, ⟨11, plainAddress 0x0200000a 24 0 0 0⟩,
    ⟨12, plainAddress 0x0300000a 24 5 5 0⟩]

/-- An address that is to be primary is deleted and added again. -/
theorem ip4AddressSync_achieves_stale :
    let result := ip4AddressSync kernel 1 100 true wanted stale
    kernel.ids result.platform =
        {id | ∃ o ∈ wanted, isValid 100 o = true ∧ addressId o.address = id} ∧
      result.knownAddresses = wanted.map fun o => if isValid 100 o then some o else none :=
  ip4AddressSync_achieves kernel kernel_succeeds 1 100 true wanted stale

/-- The list keeps an address that it has twice: only addresses that expired leave a tombstone. -/
theorem ip4AddressSync_drops_duplicates_fails :
    ¬ ∀ (σ : Type) (platform : Ip4Platform σ), platform.Succeeds →
      ∀ (ifindex : Int) (now : Nat) (extendedIfaFlags : Bool) (known : List Ip4Object) (state : σ),
        let result := ip4AddressSync platform ifindex now extendedIfaFlags known state
        platform.ids result.platform =
            {id | ∃ o ∈ known, isValid now o = true ∧ addressId o.address = id} ∧
          ∀ place o, known[place]? = some o →
            (objectAt result.knownAddresses place = none ↔
              isValid now o = false ∨
                ∃ earlier < place, ∃ other, known[earlier]? = some other ∧
                  isValid now other = true ∧ sameId other.address o.address = true) := by
  intro claim
  obtain ⟨_, tombstones⟩ := claim _ kernel kernel_succeeds 1 100 true wanted stale
  have dropped := (tombstones 1 ⟨11, plainAddress 0x0200000a 24 0 0 0⟩ rfl).mpr
    (Or.inr ⟨0, Nat.one_pos, ⟨10, plainAddress 0x0200000a 24 0 0 0⟩, rfl, by decide, by decide⟩)
  revert dropped
  decide +kernel

end NetworkManager.Ip4AddressSync
