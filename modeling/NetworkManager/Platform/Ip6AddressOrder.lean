import Mathlib.Data.List.Nodup
import Mathlib.Data.List.ReduceOption
import Mathlib.Data.List.TakeWhile
import NetworkManager.Platform.Ip6AddressSync

/-!
# The order of IPv6 addresses

After synchronising, the interface has the known addresses in the reverse of their order, and the
temporary addresses in between.  The addresses that are not deleted match a first part of the known
addresses, starting with the lowest priority.  Each of the others is new when it is added, and since
no address of higher priority is there yet, it comes first among the addresses that are not
temporary.
-/

namespace NetworkManager.AddressSync

open List

/-- What identifies an address of an interface, and its prefix length. -/
def addressKey (a : NMPlatformIP6Address) : In6Addr × UInt8 := (a.address, a.plen)

def lasting (list : List NMPlatformIP6Address) : List NMPlatformIP6Address :=
  list.filter fun a => !isTemporary a

def temporaries (list : List NMPlatformIP6Address) : List In6Addr :=
  (list.filter isTemporary).map fun a => a.address

variable {list : List NMPlatformIP6Address}

theorem kernelAdd_present {request : AddressRequest}
    (present : ∃ a ∈ list, a.address = request.address) :
    (lasting (kernelAdd list request)).map addressKey = (lasting list).map addressKey ∧
      temporaries (kernelAdd list request) = temporaries list := by
  have there : (list.any fun a => a.address == request.address) = true := by
    obtain ⟨a, mem, same⟩ := present
    exact any_eq_true.mpr ⟨a, mem, beq_iff_eq.mpr same⟩
  have temporary_eq : ∀ a : NMPlatformIP6Address,
      isTemporary (if a.address = request.address then refresh request a else a) =
        isTemporary a := by
    intro a
    split
    · rfl
    · rfl
  have key_eq : ∀ a : NMPlatformIP6Address,
      addressKey (if a.address = request.address then refresh request a else a) = addressKey a := by
    intro a
    split
    · rfl
    · rfl
  unfold kernelAdd
  rw [if_pos there]
  constructor
  · unfold lasting
    rw [filter_map, map_map]
    have filters : (fun a => !isTemporary a) ∘
        (fun a => if a.address = request.address then refresh request a else a) =
        fun a => !isTemporary a := by
      funext a
      exact congrArg not (temporary_eq a)
    rw [filters]
    exact map_congr_left fun a _ => key_eq a
  · unfold temporaries
    rw [filter_map, map_map]
    have filters : isTemporary ∘
        (fun a => if a.address = request.address then refresh request a else a) = isTemporary := by
      funext a
      exact temporary_eq a
    rw [filters]
    exact map_congr_left fun a _ => congrArg Prod.fst (key_eq a)

theorem kernelAdd_new {request : AddressRequest} (absent : ∀ a ∈ list, a.address ≠ request.address)
    (not_temporary : isTemporary request.toAddress = false)
    (highest : ∀ a ∈ lasting list,
      ip6AddressScopePriority a.address ≤ ip6AddressScopePriority request.address) :
    lasting (kernelAdd list request) = request.toAddress :: lasting list ∧
      temporaries (kernelAdd list request) = temporaries list := by
  have not_there : ¬ (list.any fun a => a.address == request.address) = true := by
    rw [any_eq_true]
    rintro ⟨a, mem, same⟩
    exact absent a mem (beq_iff_eq.mp same)
  unfold kernelAdd
  rw [if_neg not_there]
  dsimp only
  generalize shape : (fun a : NMPlatformIP6Address => decide
    (ip6AddressScopePriority request.address < ip6AddressScopePriority a.address)) = higher
  have whole : list.takeWhile higher ++ list.dropWhile higher = list :=
    takeWhile_append_dropWhile
  constructor
  · -- Only temporary addresses are in front of the new one.
    have front : (list.takeWhile higher).filter (fun a => !isTemporary a) = [] := by
      refine filter_eq_nil_iff.mpr fun a mem lasts => ?_
      have in_list : a ∈ lasting list := by
        refine mem_filter.mpr ⟨?_, lasts⟩
        rw [← whole]
        exact mem_append_left _ mem
      have above := mem_takeWhile_imp mem
      rw [← shape] at above
      exact absurd (of_decide_eq_true above) (not_lt.mpr (highest a in_list))
    have rest : (list.dropWhile higher).filter (fun a => !isTemporary a) = lasting list := by
      unfold lasting
      nth_rewrite 2 [← whole]
      rw [filter_append, front, nil_append]
    unfold lasting at rest ⊢
    rw [filter_append, front, nil_append, filter_cons, not_temporary, rest]
    rfl
  · unfold temporaries
    nth_rewrite 3 [← whole]
    rw [filter_append, filter_append, filter_cons, not_temporary]
    rfl

theorem addMissing_kernel (request : NMPlatformIP6Address → AddressRequest)
    (known : List (Option NMPlatformIP6Address)) (list : List NMPlatformIP6Address) :
    addMissing kernel request known list =
      ((known.reduceOption.map request).foldl kernelAdd list, true) := by
  induction known generalizing list with
  | nil => rfl
  | cons a known ih =>
    cases a with
    | none => exact ih list
    | some a => exact ih (kernelAdd list (request a))

theorem exists_address_of_key {known : List NMPlatformIP6Address}
    (keys : (lasting list).map addressKey = known.map addressKey) {a : NMPlatformIP6Address}
    (mem : a ∈ known) : ∃ b ∈ list, b.address = a.address := by
  have key_mem : addressKey a ∈ (lasting list).map addressKey := by
    rw [keys]
    exact mem_map_of_mem mem
  obtain ⟨b, b_mem, same⟩ := mem_map.mp key_mem
  exact ⟨b, (mem_filter.mp b_mem).1, congrArg Prod.fst same⟩

theorem address_mem_of_lasting {list known : List NMPlatformIP6Address}
    (keys : (lasting list).map addressKey = known.map addressKey) {a : NMPlatformIP6Address}
    (mem : a ∈ lasting list) : ∃ b ∈ known, b.address = a.address := by
  have key_mem : addressKey a ∈ known.map addressKey := by
    rw [← keys]
    exact mem_map_of_mem mem
  obtain ⟨b, b_mem, same⟩ := mem_map.mp key_mem
  exact ⟨b, b_mem, congrArg Prod.fst same⟩

section Add

variable {request : NMPlatformIP6Address → AddressRequest}
  (request_key : ∀ a, addressKey (request a).toAddress = addressKey a)
  (request_lasts : ∀ a, isTemporary a = false → isTemporary (request a).toAddress = false)

include request_key

theorem request_address (a : NMPlatformIP6Address) : (request a).address = a.address :=
  congrArg Prod.fst (request_key a)

theorem foldl_kernelAdd_present {known : List NMPlatformIP6Address}
    {list : List NMPlatformIP6Address} {all : List NMPlatformIP6Address}
    (keys : (lasting list).map addressKey = all.map addressKey) (subset : known ⊆ all) :
    (lasting ((known.map request).foldl kernelAdd list)).map addressKey = all.map addressKey ∧
      temporaries ((known.map request).foldl kernelAdd list) = temporaries list := by
  induction known generalizing list with
  | nil => exact ⟨keys, rfl⟩
  | cons a known ih =>
    obtain ⟨b, b_mem, same⟩ := exists_address_of_key keys (subset mem_cons_self)
    obtain ⟨step_keys, step_temporaries⟩ :=
      kernelAdd_present ⟨b, b_mem, same.trans (request_address request_key a).symm⟩
    obtain ⟨rest_keys, rest_temporaries⟩ :=
      ih (step_keys.trans keys) fun c mem => subset (mem_cons_of_mem a mem)
    exact ⟨rest_keys, rest_temporaries.trans step_temporaries⟩

include request_lasts

/-- New addresses come first, one after the other.  An address that the interface has as a temporary
one stays temporary. -/
theorem foldl_kernelAdd_new {before known : List NMPlatformIP6Address}
    {list : List NMPlatformIP6Address}
    (keys : (lasting list).map addressKey = before.reverse.map addressKey)
    (lasts : ∀ a ∈ known, isTemporary a = false)
    (distinct : ((before ++ known).map fun a => a.address).Nodup)
    (sorted : (before ++ known).Pairwise fun a b =>
      ip6AddressScopePriority a.address ≤ ip6AddressScopePriority b.address) :
    (lasting ((known.map request).foldl kernelAdd list)).map addressKey =
        (before ++ known.filter fun a => decide (a.address ∉ temporaries list)).reverse.map
          addressKey ∧
      temporaries ((known.map request).foldl kernelAdd list) = temporaries list := by
  induction known generalizing list before with
  | nil =>
    rw [filter_nil, append_nil]
    exact ⟨keys, rfl⟩
  | cons a known ih =>
    have address_eq := request_address request_key a
    have known_lasts := fun b mem => lasts b (mem_cons_of_mem a mem)
    by_cases temporary : a.address ∈ temporaries list
    · -- The address exists as a temporary one.
      obtain ⟨b, b_mem, same⟩ := mem_map.mp temporary
      obtain ⟨step_keys, step_temporaries⟩ := kernelAdd_present
        ⟨b, (mem_filter.mp b_mem).1, same.trans address_eq.symm⟩
      have fewer : (before ++ known).Sublist (before ++ a :: known) :=
        (Sublist.refl before).append (sublist_cons_self a known)
      obtain ⟨rest_keys, rest_temporaries⟩ := ih (step_keys.trans keys) known_lasts
        (distinct.sublist (fewer.map _)) (sorted.sublist fewer)
      rw [step_temporaries] at rest_keys
      refine ⟨?_, rest_temporaries.trans step_temporaries⟩
      rw [filter_cons_of_neg (by simpa using temporary)]
      exact rest_keys
    · -- The address is new.
      have front : before ++ a :: known = (before ++ [a]) ++ known := by
        rw [append_assoc, singleton_append]
      have absent : ∀ b ∈ list, b.address ≠ (request a).address := by
        intro b b_mem same
        rw [address_eq] at same
        by_cases b_temporary : isTemporary b = true
        · exact temporary (mem_map.mpr ⟨b, mem_filter.mpr ⟨b_mem, b_temporary⟩, same⟩)
        · have b_lasts : b ∈ lasting list :=
            mem_filter.mpr ⟨b_mem, by rw [Bool.eq_false_iff.mpr b_temporary]; rfl⟩
          obtain ⟨c, c_mem, c_same⟩ := address_mem_of_lasting keys b_lasts
          rw [map_append, nodup_append] at distinct
          exact distinct.2.2 c.address (mem_map_of_mem (mem_reverse.mp c_mem)) a.address
            (mem_map_of_mem mem_cons_self) (c_same.trans same)
      have highest : ∀ b ∈ lasting list,
          ip6AddressScopePriority b.address ≤ ip6AddressScopePriority (request a).address := by
        intro b b_mem
        obtain ⟨c, c_mem, c_same⟩ := address_mem_of_lasting keys b_mem
        rw [← c_same, address_eq]
        exact (pairwise_append.mp sorted).2.2 c (mem_reverse.mp c_mem) a
          mem_cons_self
      obtain ⟨step_list, step_temporaries⟩ :=
        kernelAdd_new absent (request_lasts a (lasts a mem_cons_self)) highest
      have step_keys : (lasting (kernelAdd list (request a))).map addressKey =
          (before ++ [a]).reverse.map addressKey := by
        rw [step_list, map_cons, request_key, keys, reverse_append]
        rfl
      rw [front] at distinct sorted
      obtain ⟨rest_keys, rest_temporaries⟩ := ih step_keys known_lasts distinct sorted
      rw [step_temporaries] at rest_keys
      refine ⟨?_, rest_temporaries.trans step_temporaries⟩
      rw [filter_cons_of_pos (by simpa using temporary)]
      rw [append_assoc, singleton_append] at rest_keys
      exact rest_keys

end Add

def deleteAll (list deleted : List NMPlatformIP6Address) : List NMPlatformIP6Address :=
  deleted.foldl (fun list a => kernel.ip6AddressDelete list a.address a.plen) list

theorem deleteAll_append (list first second : List NMPlatformIP6Address) :
    deleteAll list (first ++ second) = deleteAll (deleteAll list first) second :=
  foldl_append

theorem deleteAll_eq_filter (list deleted : List NMPlatformIP6Address) :
    deleteAll list deleted =
      list.filter fun a => decide (∀ d ∈ deleted, addressKey d ≠ addressKey a) := by
  induction deleted generalizing list with
  | nil =>
    refine (filter_eq_self.mpr fun a _ => decide_eq_true ?_).symm
    exact forall_mem_nil _
  | cons d deleted ih =>
    show deleteAll (kernel.ip6AddressDelete list d.address d.plen) deleted = _
    rw [ih]
    show (list.filter fun a => !(a.address == d.address && a.plen == d.plen)).filter _ = _
    rw [filter_filter]
    refine filter_congr fun a _ => ?_
    rw [Bool.eq_iff_iff]
    simp only [Bool.and_eq_true, Bool.not_eq_true', Bool.and_eq_false_iff, beq_eq_false_iff_ne,
      decide_eq_true_eq, forall_mem_cons, addressKey, ne_eq, Prod.mk.injEq, not_and_or]
    rw [and_comm, eq_comm, @eq_comm _ a.plen]

section

variable (known : List NMPlatformIP6Address)

/-- Whether the first loop finds a known address with the same prefix length. -/
def isKnown (plat : NMPlatformIP6Address) : Bool :=
  (known.find? fun know => (ip6AddressIdCmp plat know).isEq).any fun know => plat.plen == know.plen

/-- Whether the first loop deletes an address. -/
def drops (fullSync : Bool) (plat : NMPlatformIP6Address) :
    Bool :=
  if isTemporary plat then fullSync else !isKnown known plat

/-- Whether the first loop leaves an address to the second one. -/
def keeps (plat : NMPlatformIP6Address) : Bool :=
  !isTemporary plat && isKnown known plat

end

theorem foldl_dropUnknown (known : List NMPlatformIP6Address) (fullSync : Bool)
    (plats state : List NMPlatformIP6Address) (marked : List (Option NMPlatformIP6Address)) :
    plats.foldl (dropUnknown kernel known fullSync) (state, marked) =
      (deleteAll state (plats.filter (drops known fullSync)),
        marked ++ plats.map fun plat => if keeps known plat then some plat else none) := by
  induction plats generalizing state marked with
  | nil => rw [map_nil, append_nil]; rfl
  | cons plat plats ih =>
    have step : dropUnknown kernel known fullSync (state, marked) plat =
        (deleteAll state (if drops known fullSync plat then [plat] else []),
          marked ++ [if keeps known plat then some plat else none]) := by
      unfold dropUnknown drops keeps isKnown
      cases temporary : isTemporary plat with
      | true =>
        cases fullSync with
        | true => rfl
        | false => rfl
      | false =>
        cases (known.find? fun know => (ip6AddressIdCmp plat know).isEq).any fun know =>
            plat.plen == know.plen with
        | true => rfl
        | false => rfl
    rw [foldl_cons, step, ih, ← deleteAll_append, append_assoc, singleton_append, map_cons]
    have filtered : (plat :: plats).filter (drops known fullSync) =
        (if drops known fullSync plat then [plat] else []) ++
          plats.filter (drops known fullSync) := by
      rw [filter_cons]
      split
      · rfl
      · rfl
    rw [filtered]

/-- The addresses that the second loop deletes. -/
def misplaced : List NMPlatformIP6Address → List NMPlatformIP6Address → List NMPlatformIP6Address
  | [], _ => []
  | plat :: plats, [] => plat :: plats
  | plat :: plats, know :: known =>
    if plat.address = know.address then misplaced plats known else plat :: plats

theorem deleteMisplaced_nil (plats : List (Option NMPlatformIP6Address))
    (state : List NMPlatformIP6Address) :
    deleteMisplaced kernel plats [] state = deleteAll state plats.reduceOption := by
  induction plats generalizing state with
  | nil => rfl
  | cons plat plats ih =>
    cases plat with
    | none => exact ih state
    | some plat => exact ih (kernel.ip6AddressDelete state plat.address plat.plen)

theorem misplaced_matchKnown (plat : NMPlatformIP6Address) (plats : List NMPlatformIP6Address)
    (known : List (Option NMPlatformIP6Address)) :
    misplaced (plat :: plats) known.reduceOption =
      match matchKnown plat known with
      | some rest => misplaced plats rest.reduceOption
      | none => plat :: plats := by
  induction known with
  | nil => rfl
  | cons know known ih =>
    cases know with
    | none => exact ih
    | some know =>
      show (if plat.address = know.address then misplaced plats known.reduceOption
        else plat :: plats) = _
      unfold matchKnown
      split
      · rfl
      · rfl

theorem deleteMisplaced_eq (plats known : List (Option NMPlatformIP6Address))
    (state : List NMPlatformIP6Address) :
    deleteMisplaced kernel plats known state =
      deleteAll state (misplaced plats.reduceOption known.reduceOption) := by
  induction plats generalizing known state with
  | nil => rfl
  | cons plat plats ih =>
    cases plat with
    | none => exact ih known state
    | some plat =>
      rw [reduceOption_cons_of_some, misplaced_matchKnown]
      unfold deleteMisplaced
      cases matchKnown plat known with
      | some rest => exact ih rest state
      | none => exact deleteMisplaced_nil plats _

theorem misplaced_spec (plats known : List NMPlatformIP6Address) :
    ∃ kept, plats = kept ++ misplaced plats known ∧
      (kept.map fun a => a.address) = (known.take kept.length).map fun a => a.address := by
  induction plats generalizing known with
  | nil => exact ⟨[], rfl, rfl⟩
  | cons plat plats ih =>
    cases known with
    | nil => exact ⟨[], rfl, rfl⟩
    | cons know known =>
      unfold misplaced
      split
      · rename_i same
        obtain ⟨kept, split_eq, addresses⟩ := ih known
        refine ⟨plat :: kept, congrArg (plat :: ·) split_eq, ?_⟩
        rw [map_cons, length_cons, take_succ_cons, map_cons, addresses, same]
      · exact ⟨[], rfl, rfl⟩

/-- Addresses of one interface, no two of them with the same identity. -/
abbrev InterfaceAddresses (ifindex : Int) :=
  {list : List NMPlatformIP6Address // (∀ a ∈ list, a.ifindex = ifindex) ∧
    list.Pairwise fun a b => ip6AddressIdCmp a b ≠ .eq}

theorem ip6AddressIdCmp_eq {a b : NMPlatformIP6Address} :
    ip6AddressIdCmp a b = .eq ↔ a.ifindex = b.ifindex ∧ a.address = b.address := by
  unfold ip6AddressIdCmp
  rw [Ordering.then_eq_eq, Std.compare_eq_iff_eq, Std.compare_eq_iff_eq]

theorem InterfaceAddresses.nodup {ifindex : Int} (list : InterfaceAddresses ifindex) :
    (list.1.map fun a => a.address).Nodup := by
  obtain ⟨list, on_interface, distinct⟩ := list
  rw [Nodup, pairwise_map]
  refine distinct.imp_of_mem fun {a b} a_mem b_mem different same => different ?_
  rw [ip6AddressIdCmp_eq, on_interface a a_mem, on_interface b b_mem]
  exact ⟨rfl, same⟩

theorem exists_of_isKnown {known : List NMPlatformIP6Address} {plat : NMPlatformIP6Address}
    (is_known : isKnown known plat = true) : ∃ know ∈ known, addressKey know = addressKey plat := by
  unfold isKnown at is_known
  obtain ⟨know, found, same_plen⟩ := (Option.any_eq_true _ _).mp is_known
  have same := find?_some found
  rw [Ordering.isEq_iff_eq_eq, ip6AddressIdCmp_eq] at same
  exact ⟨know, List.mem_of_find?_eq_some found, Prod.ext same.2.symm (beq_iff_eq.mp same_plen).symm⟩

theorem map_addressKey_eq {known kept first : List NMPlatformIP6Address}
    (distinct : (known.map fun a => a.address).Nodup)
    (addresses : (kept.map fun a => a.address) = first.map fun a => a.address)
    (kept_known : ∀ a ∈ kept, ∃ know ∈ known, addressKey know = addressKey a)
    (first_known : first ⊆ known) : kept.map addressKey = first.map addressKey := by
  induction kept generalizing first with
  | nil =>
    rw [map_eq_nil_iff.mp addresses.symm]
  | cons a kept ih =>
    cases first with
    | nil => cases addresses
    | cons b first =>
      obtain ⟨same, rest⟩ := List.cons.inj addresses
      obtain ⟨know, know_mem, know_key⟩ := kept_known a mem_cons_self
      have know_eq : know = b :=
        inj_on_of_nodup_map distinct know_mem (first_known mem_cons_self)
          ((congrArg Prod.fst know_key).trans same)
      rw [map_cons, map_cons, ← know_key, know_eq,
        ih rest (fun c mem => kept_known c (mem_cons_of_mem a mem))
          fun c mem => first_known (mem_cons_of_mem b mem)]

theorem filter_not_mem_of_nodup {kept others : List NMPlatformIP6Address}
    (nodup : (kept ++ others).Nodup) :
    (others.reverse ++ kept.reverse).filter (fun a => decide (a ∉ others)) = kept.reverse := by
  rw [filter_append, filter_eq_nil_iff.mpr, nil_append, filter_eq_self.mpr]
  · intro a mem
    refine decide_eq_true fun in_others => ?_
    exact (nodup_append.mp nodup).2.2 a (mem_reverse.mp mem) a in_others rfl
  · intro a mem not_in
    exact of_decide_eq_true not_in (mem_reverse.mp mem)

section Left

variable {list known : List NMPlatformIP6Address} {fullSync : Bool}

def afterDeletion (list known : List NMPlatformIP6Address) (fullSync : Bool) :
    List NMPlatformIP6Address :=
  deleteAll list (list.filter (drops known fullSync) ++
    misplaced (list.filter (keeps known)).reverse known)

theorem misplaced_subset : misplaced (list.filter (keeps known)).reverse known ⊆
    list.filter (keeps known) := by
  obtain ⟨kept, split_eq, -⟩ := misplaced_spec (list.filter (keeps known)).reverse known
  intro a mem
  rw [← mem_reverse, split_eq]
  exact mem_append_right _ mem

section

variable (distinct : (list.map fun a => a.address).Nodup)

include distinct

theorem afterDeletion_eq :
    afterDeletion list known fullSync = list.filter fun a =>
      !drops known fullSync a &&
        decide (a ∉ misplaced (list.filter (keeps known)).reverse known) := by
  unfold afterDeletion
  rw [deleteAll_eq_filter]
  refine filter_congr fun a mem => ?_
  have key_inj : ∀ d ∈ list, addressKey d = addressKey a → d = a :=
    fun d d_mem same => inj_on_of_nodup_map distinct d_mem mem (congrArg Prod.fst same)
  rw [Bool.eq_iff_iff, decide_eq_true_eq, Bool.and_eq_true, Bool.not_eq_true', decide_eq_true_eq]
  constructor
  · intro spared
    constructor
    · refine Bool.eq_false_iff.mpr fun dropped => ?_
      exact spared a (mem_append_left _ (mem_filter.mpr ⟨mem, dropped⟩)) rfl
    · intro is_misplaced
      exact spared a (mem_append_right _ is_misplaced) rfl
  · rintro ⟨not_dropped, not_misplaced⟩ d d_mem same
    rcases mem_append.mp d_mem with d_mem | d_mem
    · obtain ⟨d_mem, dropped⟩ := mem_filter.mp d_mem
      rw [key_inj d d_mem same, not_dropped] at dropped
      cases dropped
    · have in_list := (mem_filter.mp (misplaced_subset d_mem)).1
      rw [key_inj d in_list same] at d_mem
      exact not_misplaced d_mem

theorem temporaries_afterDeletion :
    temporaries (afterDeletion list known fullSync) =
      if fullSync then [] else temporaries list := by
  unfold temporaries
  rw [afterDeletion_eq distinct, filter_filter]
  have survives : ∀ a ∈ list, (isTemporary a && (!drops known fullSync a &&
      decide (a ∉ misplaced (list.filter (keeps known)).reverse known))) =
      (isTemporary a && !fullSync) := by
    intro a _
    cases temporary : isTemporary a with
    | false => rfl
    | true =>
      have not_misplaced : a ∉ misplaced (list.filter (keeps known)).reverse known := by
        intro is_misplaced
        have kept := (mem_filter.mp (misplaced_subset is_misplaced)).2
        unfold keeps at kept
        rw [temporary] at kept
        cases kept
      unfold drops
      rw [if_pos temporary, decide_eq_true not_misplaced, Bool.and_true]
  rw [filter_congr survives]
  cases fullSync with
  | true =>
    rw [filter_eq_nil_iff.mpr]
    · rfl
    · intro a _ both
      rw [Bool.and_eq_true] at both
      cases both.2
  | false => simp only [Bool.not_false, Bool.and_true, Bool.false_eq_true, if_false]

theorem lasting_afterDeletion (known_distinct : (known.map fun a => a.address).Nodup) :
    ∃ count, (lasting (afterDeletion list known fullSync)).map addressKey =
        (known.take count).reverse.map addressKey ∧
      ∀ a ∈ known.take count, a.address ∉ temporaries list := by
  obtain ⟨kept, split_eq, addresses⟩ := misplaced_spec (list.filter (keeps known)).reverse known
  have kept_keeps : ∀ a ∈ kept, a ∈ list.filter (keeps known) := by
    intro a mem
    rw [← mem_reverse, split_eq]
    exact mem_append_left _ mem
  have kept_nodup : ((kept ++ misplaced (list.filter (keeps known)).reverse known)).Nodup := by
    rw [← split_eq, nodup_reverse]
    exact distinct.of_map.filter _
  have survivors : lasting (afterDeletion list known fullSync) = kept.reverse := by
    unfold lasting
    rw [afterDeletion_eq distinct, filter_filter]
    have survives : ∀ a ∈ list, ((!isTemporary a) && (!drops known fullSync a &&
        decide (a ∉ misplaced (list.filter (keeps known)).reverse known))) =
        (decide (a ∉ misplaced (list.filter (keeps known)).reverse known) && keeps known a) := by
      intro a _
      unfold drops keeps
      cases isTemporary a with
      | true => rw [Bool.not_true, Bool.false_and, Bool.false_and, Bool.and_false]
      | false =>
        rw [Bool.not_false, Bool.true_and, Bool.true_and, if_neg (by decide), Bool.not_not,
          Bool.and_comm]
    rw [filter_congr survives, ← filter_filter]
    generalize misplaced (list.filter (keeps known)).reverse known = others at split_eq kept_nodup ⊢
    have whole : list.filter (keeps known) = others.reverse ++ kept.reverse := by
      rw [← reverse_append, ← split_eq, reverse_reverse]
    rw [whole]
    exact filter_not_mem_of_nodup kept_nodup
  have keys : kept.map addressKey = (known.take kept.length).map addressKey := by
    refine map_addressKey_eq known_distinct addresses (fun a mem => ?_) (take_subset _ _)
    have kept_a := (mem_filter.mp (kept_keeps a mem)).2
    unfold keeps at kept_a
    rw [Bool.and_eq_true] at kept_a
    exact exists_of_isKnown kept_a.2
  refine ⟨kept.length, ?_, ?_⟩
  · rw [survivors, map_reverse, keys, map_reverse]
  · intro a mem temporary
    have address_mem : a.address ∈ kept.map fun a => a.address := by
      rw [addresses]
      exact mem_map_of_mem mem
    obtain ⟨b, b_mem, b_same⟩ := mem_map.mp address_mem
    obtain ⟨c, c_mem, c_same⟩ := mem_map.mp temporary
    obtain ⟨b_list, b_keeps⟩ := mem_filter.mp (kept_keeps b b_mem)
    obtain ⟨c_list, c_temporary⟩ := mem_filter.mp c_mem
    have equal := inj_on_of_nodup_map distinct b_list c_list (b_same.trans c_same.symm)
    unfold keeps at b_keeps
    rw [equal, c_temporary] at b_keeps
    cases b_keeps

end

end Left

/-- The known addresses that shall be on the interface, in the order of their scopes. -/
def wantedAddresses (now : Nat) (known : List NMPlatformIP6Address) : List NMPlatformIP6Address :=
  (known.mergeSort scopeLe).filter (isWanted now)

theorem reduceOption_cleanExpired (now : Nat) (array : List NMPlatformIP6Address) :
    (addrArrayCleanExpired now array).reduceOption = array.filter (isWanted now) := by
  unfold addrArrayCleanExpired
  induction array with
  | nil => rfl
  | cons a array ih =>
    rw [map_cons, filter_cons]
    split
    · rw [reduceOption_cons_of_some, ih]
    · rw [reduceOption_cons_of_none, ih]

theorem reduceOption_marked (known plats : List NMPlatformIP6Address) :
    (plats.map fun plat => if keeps known plat then some plat else none).reduceOption =
      plats.filter (keeps known) := by
  induction plats with
  | nil => rfl
  | cons plat plats ih =>
    rw [map_cons, filter_cons]
    split
    · rw [reduceOption_cons_of_some, ih]
    · rw [reduceOption_cons_of_none, ih]

theorem ip6AddressSync_kernel (ifindex : Int) (now : Nat) (extendedIfaFlags : Bool)
    (known : List NMPlatformIP6Address) (fullSync : Bool) (list : List NMPlatformIP6Address) :
    (ip6AddressSync kernel ifindex now extendedIfaFlags known fullSync list).platform =
      ((wantedAddresses now known).map (addressRequest ifindex now extendedIfaFlags)).foldl
        kernelAdd (afterDeletion list (wantedAddresses now known) fullSync) := by
  unfold ip6AddressSync
  dsimp only
  have reversed : ∀ marked : List (Option NMPlatformIP6Address),
      marked.reverse.reduceOption = marked.reduceOption.reverse := by
    intro marked
    unfold reduceOption
    rw [filterMap_reverse]
  rw [addMissing_kernel, reduceOption_cleanExpired, show kernel.addresses list = list from rfl,
    foldl_dropUnknown, deleteMisplaced_eq, nil_append, reversed, reduceOption_marked,
    reduceOption_cleanExpired, ← deleteAll_append]
  rfl

theorem isTemporary_addressRequest (ifindex : Int) (now : Nat) (extendedIfaFlags : Bool)
    (a : NMPlatformIP6Address) (lasts : isTemporary a = false) :
    isTemporary (addressRequest ifindex now extendedIfaFlags a).toAddress = false := by
  unfold isTemporary at lasts ⊢
  rw [decide_eq_false_iff_not, not_ne_iff] at lasts ⊢
  have split_flags : ∀ flags : UInt32, (flags ||| a.nIfaFlags) &&& ifaFTemporary =
      (flags &&& ifaFTemporary) ||| (a.nIfaFlags &&& ifaFTemporary) := fun flags =>
    UInt32.toBitVec_inj.mp BitVec.and_or_distrib_right
  show ((if extendedIfaFlags then ifaFNoprefixroute else 0) ||| a.nIfaFlags) &&& ifaFTemporary = 0
  rw [split_flags, lasts]
  cases extendedIfaFlags with
  | true => decide
  | false => decide

theorem pairwise_mergeSort_scopeLe (known : List NMPlatformIP6Address) :
    (known.mergeSort scopeLe).Pairwise fun a b =>
      ip6AddressScopePriority a.address ≤ ip6AddressScopePriority b.address := by
  have sorted : (known.mergeSort scopeLe).Pairwise fun a b => scopeLe a b = true := by
    refine pairwise_mergeSort (fun a b c first second => ?_) (fun a b => ?_) known
    · exact decide_eq_true ((of_decide_eq_true first).trans (of_decide_eq_true second))
    · rw [Bool.or_eq_true]
      exact (Nat.le_total _ _).imp decide_eq_true decide_eq_true
  exact sorted.imp of_decide_eq_true

theorem temporaries_subset {fullSync : Bool} {address : In6Addr}
    (mem : address ∈ if fullSync then [] else temporaries list) : address ∈ temporaries list := by
  cases fullSync with
  | true => exact absurd mem not_mem_nil
  | false => exact mem

/-- After synchronising, the lasting addresses of the interface are the known addresses that are
valid and not temporary, in the reverse of their order by scope.  Unless all temporary addresses are
deleted, they stay, and a known address that is one of them stays temporary. -/
theorem ip6AddressSync_order (ifindex : Int) (now : Nat) (extendedIfaFlags fullSync : Bool)
    (known list : InterfaceAddresses ifindex) :
    let after :=
      (ip6AddressSync kernel ifindex now extendedIfaFlags known.1 fullSync list.1).platform
    let remaining := if fullSync then [] else temporaries list.1
    (lasting after).map addressKey = ((wantedAddresses now known.1).filter fun a =>
        decide (a.address ∉ remaining)).reverse.map addressKey ∧
      temporaries after = remaining := by
  intro after remaining
  have wanted_sub : (wantedAddresses now known.1).Sublist (known.1.mergeSort scopeLe) :=
    filter_sublist
  have wanted_nodup : ((wantedAddresses now known.1).map fun a => a.address).Nodup :=
    (((mergeSort_perm known.1 scopeLe).map _).nodup_iff.mpr known.nodup).sublist
      (wanted_sub.map _)
  have wanted_sorted := (pairwise_mergeSort_scopeLe known.1).sublist wanted_sub
  have wanted_lasts : ∀ a ∈ wantedAddresses now known.1, isTemporary a = false := by
    intro a mem
    have wanted := (mem_filter.mp mem).2
    unfold isWanted at wanted
    rw [Bool.and_eq_true, Bool.not_eq_true'] at wanted
    exact wanted.1
  have after_eq : after = _ :=
    ip6AddressSync_kernel ifindex now extendedIfaFlags known.1 fullSync list.1
  generalize wantedAddresses now known.1 = wanted at *
  obtain ⟨count, left_keys, not_temporary⟩ : ∃ count,
      (lasting (afterDeletion list.1 wanted fullSync)).map addressKey =
          (wanted.take count).reverse.map addressKey ∧
        ∀ a ∈ wanted.take count, a.address ∉ temporaries list.1 :=
    lasting_afterDeletion list.nodup wanted_nodup
  have left_temporaries : temporaries (afterDeletion list.1 wanted fullSync) = remaining :=
    temporaries_afterDeletion list.nodup
  have request_key : ∀ a, addressKey (addressRequest ifindex now extendedIfaFlags a).toAddress =
      addressKey a := fun _ => rfl
  obtain ⟨present_keys, present_temporaries⟩ := foldl_kernelAdd_present request_key left_keys
    fun a mem => mem_reverse.mpr mem
  rw [← take_append_drop count wanted] at wanted_nodup wanted_sorted
  obtain ⟨new_keys, new_temporaries⟩ := foldl_kernelAdd_new request_key
    (isTemporary_addressRequest ifindex now extendedIfaFlags) present_keys
    (fun a mem => wanted_lasts a (drop_subset count wanted mem)) wanted_nodup wanted_sorted
  rw [present_temporaries, left_temporaries] at new_keys new_temporaries
  have added : after = ((wanted.drop count).map (addressRequest ifindex now extendedIfaFlags)).foldl
      kernelAdd (((wanted.take count).map (addressRequest ifindex now extendedIfaFlags)).foldl
        kernelAdd (afterDeletion list.1 wanted fullSync)) := by
    rw [after_eq, ← foldl_append, ← map_append, take_append_drop]
  have taken : (wanted.take count).filter (fun a => decide (a.address ∉ remaining)) =
      wanted.take count :=
    filter_eq_self.mpr fun a mem =>
      decide_eq_true fun still => not_temporary a mem (temporaries_subset still)
  rw [added]
  refine ⟨new_keys.trans ?_, new_temporaries⟩
  nth_rewrite 3 [← take_append_drop count wanted]
  rw [filter_append, taken]

/-- A permanent address of interface 1 with a prefix of 64 bits. -/
def permanentAddress (address : In6Addr) (flags : UInt32) : NMPlatformIP6Address where
  ifindex := 1
  addrSource := 4
  timestamp := 0
  lifetime := 0
  preferred := 0
  nIfaFlags := flags
  plen := 64
  isExternal := false
  address := address
  peerAddress := 0

/-- The interface has 2001:db8::1, and 2001:db8::2 as a temporary address.  When both are known,
2001:db8::2 stays temporary. -/
theorem ip6AddressSync_order_fails : ¬ ∀ (ifindex : Int) (now : Nat) (extendedIfaFlags : Bool)
    (fullSync : Bool) (known list : InterfaceAddresses ifindex),
    (list.1.Pairwise fun a b => scopeLe b a = true) →
    (lasting (ip6AddressSync kernel ifindex now extendedIfaFlags known.1 fullSync
        list.1).platform).map addressKey =
      (wantedAddresses now known.1).reverse.map addressKey := by
  intro every
  have order := every 1 100 true false
    ⟨[permanentAddress 0x20010db8000000000000000000000001 0,
      permanentAddress 0x20010db8000000000000000000000002 0], by decide⟩
    ⟨[permanentAddress 0x20010db8000000000000000000000001 0,
      permanentAddress 0x20010db8000000000000000000000002 ifaFTemporary], by decide⟩ (by decide)
  dsimp only at order
  unfold wantedAddresses ip6AddressSync at order
  rw [mergeSort_of_pairwise (by decide)] at order
  revert order
  decide +kernel

end NetworkManager.AddressSync
