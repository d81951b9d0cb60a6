import NetworkManager.Platform.Ip4AddressSyncResult
import Mathlib.Data.List.Forall2
import Mathlib.Data.List.Induction

/-!
# When synchronising IPv4 addresses deletes nothing

The kernel makes an address secondary if an earlier one has its prefix length and its network.  The
index of the known addresses knows networks only: it takes an address for secondary if an earlier
one has its network, even with another prefix length.  On an interface that has the known addresses
already, the two roles agree for all addresses, so that nothing is deleted, exactly if the known
addresses of a network have one prefix length.
-/

namespace NetworkManager.Ip4AddressSync

open List Option

section Follows

variable {α κ β : Type*} {key : α → κ} {kind : α → β} {list : List α}

theorem kind_eq_of_follows
    (follows : ∀ before a after, list = before ++ a :: after → (∃ e ∈ before, key e = key a) →
      ∃ e ∈ before, kind e = kind a ∧ key e = key a) :
    ∀ a ∈ list, ∀ b ∈ list, key a = key b → kind a = kind b := by
  induction list using reverseRecOn with
  | nil => exact fun a listed => absurd listed not_mem_nil
  | append_singleton list last ih =>
    have earlier : ∀ a ∈ list, ∀ b ∈ list, key a = key b → kind a = kind b := by
      refine ih fun before a after split found => ?_
      refine follows before a (after ++ [last]) ?_ found
      rw [split, append_assoc, cons_append]
    have of_last : ∀ a ∈ list, key a = key last → kind a = kind last := by
      intro a listed same
      obtain ⟨e, e_listed, e_kind, e_key⟩ := follows list last [] rfl ⟨a, listed, same⟩
      exact (earlier a listed e e_listed (same.trans e_key.symm)).trans e_kind
    intro a a_listed b b_listed same
    rcases mem_append.mp a_listed with a_earlier | a_last
    · rcases mem_append.mp b_listed with b_earlier | b_last
      · exact earlier a a_earlier b b_earlier same
      · rw [mem_singleton.mp b_last] at same ⊢
        exact of_last a a_earlier same
    · rw [mem_singleton.mp a_last] at same ⊢
      rcases mem_append.mp b_listed with b_earlier | b_last
      · exact (of_last b b_earlier same.symm).symm
      · rw [mem_singleton.mp b_last]

theorem follows_iff :
    (∀ before a after, list = before ++ a :: after →
      ((∃ e ∈ before, key e = key a) ↔ ∃ e ∈ before, kind e = kind a ∧ key e = key a)) ↔
    ∀ a ∈ list, ∀ b ∈ list, key a = key b → kind a = kind b := by
  constructor
  · intro follows
    exact kind_eq_of_follows fun before a after split => (follows before a after split).mp
  · rintro same before a after rfl
    constructor
    · rintro ⟨e, listed, e_key⟩
      refine ⟨e, listed, same e ?_ a ?_ e_key, e_key⟩
      · exact mem_append_left _ listed
      · exact mem_append_right _ mem_cons_self
    · rintro ⟨e, listed, _, e_key⟩
      exact ⟨e, listed, e_key⟩

theorem find?_eq_self_iff [DecidableEq κ] {before after : List α} {a : α} (new : a ∉ before) :
    (before ++ a :: after).find? (fun e => decide (key e = key a)) = some a ↔
      ¬ ∃ e ∈ before, key e = key a := by
  rw [find?_append]
  cases found : before.find? fun e => decide (key e = key a) with
  | none =>
    have absent : ¬ ∃ e ∈ before, key e = key a := by
      rintro ⟨e, listed, same⟩
      exact find?_eq_none.mp found e listed (decide_eq_true same)
    simp [absent]
  | some e =>
    have listed := List.mem_of_find?_eq_some found
    have same : key e = key a := by simpa using find?_some found
    rw [some_or, Option.some.injEq]
    constructor
    · rintro rfl
      exact absurd listed new
    · intro absent
      exact absurd ⟨e, listed, same⟩ absent

theorem exists_split_of_forall₂ {R : α → β → Prop} {before after : List β} {b : β}
    (related : List.Forall₂ R list (before ++ b :: after)) :
    ∃ front a back, list = front ++ a :: back ∧ List.Forall₂ R front before ∧ R a b := by
  have front := forall₂_take_append list before (b :: after) related
  have back := forall₂_drop_append list before (b :: after) related
  obtain ⟨a, rest, here, _, split⟩ := forall₂_cons_right_iff.mp back
  refine ⟨_, a, rest, ?_, front, here⟩
  rw [← split, take_append_drop]

theorem exists_mem_iff_of_forall₂ {R : α → β → Prop} {P : α → Prop} {Q : β → Prop} {others : List β}
    (agree : ∀ a b, R a b → (P a ↔ Q b)) (related : List.Forall₂ R list others) :
    (∃ a ∈ list, P a) ↔ ∃ b ∈ others, Q b := by
  induction related with
  | nil => simp only [not_mem_nil, false_and, exists_false]
  | cons here _ ih => simp only [mem_cons, exists_eq_or_imp, agree _ _ here, ih]

end Follows

/-- Whether an element of an array has an address of a network. -/
def hasNet (network : UInt32) (element : Option Ip4Object × Nat) : Bool :=
  element.1.any fun o => decide (net o.address = network)

theorem indexAddress_primary (subnets : Subnets) (element : Option Ip4Object × Nat)
    (network : UInt32) :
    indexAddress false false subnets element network =
      (subnets network).or
        (if hasNet network element then some (.plainAddress element.2) else none) := by
  obtain ⟨object, place⟩ := element
  cases object with
  | none => exact or_none.symm
  | some o =>
    by_cases here : net o.address = network
    · subst here
      simp only [indexAddress, hasNet, any_some, decide_true, if_true]
      cases found : subnets (net o.address) with
      | none => exact Function.update_self _ _ _
      | some subnet => exact found
    · have other : network ≠ net o.address := Ne.symm here
      simp only [indexAddress, hasNet, any_some, decide_eq_false here]
      cases found : subnets (net o.address) with
      | none => simp [Function.update_of_ne other]
      | some subnet => simp

theorem foldl_indexAddress_primary (elements : List (Option Ip4Object × Nat)) (subnets : Subnets)
    (network : UInt32) :
    elements.foldl (indexAddress false false) subnets network =
      (subnets network).or
        ((elements.find? (hasNet network)).map fun element => .plainAddress element.2) := by
  induction elements generalizing subnets with
  | nil => exact or_none.symm
  | cons element elements ih =>
    rw [foldl_cons, ih, indexAddress_primary, Option.or_assoc, find?_cons]
    cases hasNet network element <;> rfl

theorem find?_hasNet (known : List (Option Ip4Object)) (network : UInt32) (start : Nat) :
    ((known.zipIdx start).find? (hasNet network)).bind Prod.fst =
      known.reduceOption.find? fun o => decide (net o.address = network) := by
  induction known generalizing start with
  | nil => rfl
  | cons entry known ih =>
    rw [zipIdx_cons, find?_cons]
    cases entry with
    | none => exact ih (start + 1)
    | some o =>
      rw [reduceOption_cons_of_some, find?_cons]
      simp only [hasNet, any_some]
      cases decide (net o.address = network) with
      | true => rfl
      | false => exact ih (start + 1)

theorem isSecondary_known {known : List (Option Ip4Object)} {o : Ip4Object}
    (listed : some o ∈ known) :
    (ip4AddrSubnetsIsSecondary o (ip4AddrSubnetsBuildIndex known false false) known).1 =
      decide (known.reduceOption.find? (fun a => decide (net a.address = net o.address)) ≠
        some o) := by
  have entry : ip4AddrSubnetsBuildIndex known false false (net o.address) =
      (known.zipIdx.find? (hasNet (net o.address))).map fun element =>
        .plainAddress element.2 :=
    foldl_indexAddress_primary known.zipIdx (fun _ => none) (net o.address)
  have first := find?_hasNet known (net o.address) 0
  rw [← first, ip4AddrSubnetsIsSecondary, entry]
  cases found : known.zipIdx.find? (hasNet (net o.address)) with
  | none =>
    rw [found] at first
    have absent := find?_eq_none.mp first.symm o (reduceOption_mem_iff.mpr listed)
    exact absurd (decide_eq_true rfl) absent
  | some element =>
    have here : objectAt known element.2 = element.1 := by
      have place := mem_zipIdx_iff_getElem?.mp (List.mem_of_find?_eq_some found)
      rw [objectAt, place, join_some]
    simp only [map_some, bind_some, here]
    exact decide_eq_decide.mpr ne_comm

/-- The interface has the known addresses in their order.  They are valid, none is listed twice, and
the kernel made those secondary that follow an address of their network and prefix length. -/
structure InSync (now : Nat) (known plats : List Ip4Object) : Prop where
  valid : ∀ o ∈ known, isValid now o = true
  distinct : known.Pairwise fun a b => sameId a.address b.address = false
  listed : List.Forall₂ (fun o p => sameId o.address p.address = true) known plats
  /-- Their roles are right. -/
  flagged : ∀ before p after, plats = before ++ p :: after →
    (isFlaggedSecondary p.address = true ↔
      ∃ e ∈ before, e.address.plen = p.address.plen ∧ net e.address = net p.address)

theorem plen_net_of_sameId {a b : NMPlatformIP4Address} (same : sameId a b = true) :
    a.plen = b.plen ∧ net a = net b := by
  have ids := (sameId_iff.mp same).2
  have plen : a.plen = b.plen := congrArg Ip4AddressId.plen ids
  have address : a.address = b.address := congrArg Ip4AddressId.address ids
  exact ⟨plen, by rw [net, net, plen, address]⟩

theorem reduceOption_map_some (known : List Ip4Object) : (known.map some).reduceOption = known := by
  rw [reduceOption, filterMap_map]
  exact filterMap_some

namespace InSync

variable {now : Nat} {known plats : List Ip4Object}

section

variable (inSync : InSync now known plats)

include inSync

theorem cleanExpired : addrArrayCleanExpired now known = known.map some :=
  map_congr_left fun o listed => if_pos (inSync.valid o listed)

theorem lookupKnown {before after : List Ip4Object} {o p : Ip4Object}
    (split : known = before ++ o :: after) (same : sameId o.address p.address = true) :
    lookupKnown (known.map some) p = some o := by
  have later : ∀ e ∈ after, sameId p.address e.address ≠ true := by
    intro e listed match_e
    have pairs := split ▸ inSync.distinct
    have apart := (pairwise_cons.mp (pairwise_append.mp pairs).2.1).1 e listed
    rw [sameId_trans same match_e] at apart
    cases apart
  have none_later : (after.reverse.find? fun e => sameId p.address e.address) = none :=
    find?_eq_none.mpr fun e listed => later e (mem_reverse.mp listed)
  rw [Ip4AddressSync.lookupKnown, reduceOption_map_some, split, reverse_append,
    reverse_cons, append_assoc, find?_append, none_later, none_or]
  exact find?_cons_of_pos (sameId_symm same)

/-- An address of the interface is kept if its role is right among the networks. -/
theorem isKept_iff {before after : List Ip4Object} {o p : Ip4Object}
    (split : known = before ++ o :: after) (same : sameId o.address p.address = true) :
    isKept (known.map some) p = true ↔
      ((∃ e ∈ before, net e.address = net o.address) ↔ isFlaggedSecondary p.address = true) := by
  have listed : o ∈ known := split ▸ mem_append_right _ mem_cons_self
  have new : o ∉ before := by
    intro earlier
    have pairs := split ▸ inSync.distinct
    have apart := (pairwise_append.mp pairs).2.2 o earlier o mem_cons_self
    rw [sameId_self] at apart
    cases apart
  have first : (before ++ o :: after).find? (fun e => decide (net e.address = net o.address)) =
      some o ↔ ¬ ∃ e ∈ before, net e.address = net o.address := find?_eq_self_iff new
  rw [isKept, inSync.lookupKnown split same]
  simp only [isSecondary_known (List.mem_map_of_mem listed), reduceOption_map_some]
  rw [beq_iff_eq, Bool.eq_iff_iff, decide_eq_true_eq, ne_eq, split, first, not_not]

theorem isKept_iff_follows {before after front back : List Ip4Object} {o p : Ip4Object}
    (split : known = before ++ o :: after) (plats_split : plats = front ++ p :: back)
    (related : List.Forall₂ (fun o p => sameId o.address p.address = true) before front)
    (same : sameId o.address p.address = true) :
    isKept (known.map some) p = true ↔
      ((∃ e ∈ before, net e.address = net o.address) ↔
        ∃ e ∈ before, e.address.plen = o.address.plen ∧ net e.address = net o.address) := by
  have flagged : (∃ e ∈ before, e.address.plen = o.address.plen ∧
      net e.address = net o.address) ↔ isFlaggedSecondary p.address = true := by
    rw [inSync.flagged front p back plats_split]
    refine exists_mem_iff_of_forall₂ (fun a b same_ab => ?_) related
    obtain ⟨plen, network⟩ := plen_net_of_sameId same
    obtain ⟨plen', network'⟩ := plen_net_of_sameId same_ab
    rw [plen, network, plen', network']
  rw [inSync.isKept_iff split same, flagged]

/-- An interface that has the known addresses keeps them all if the two notions of a role agree for
each of them. -/
theorem all_kept_iff :
    (∀ p ∈ plats, isKept (known.map some) p = true) ↔
      ∀ before o after, known = before ++ o :: after →
        ((∃ e ∈ before, net e.address = net o.address) ↔
          ∃ e ∈ before, e.address.plen = o.address.plen ∧ net e.address = net o.address) := by
  constructor
  · intro all_kept before o after split
    have related := split ▸ inSync.listed
    obtain ⟨front, p, back, plats_split, fronts, same⟩ := exists_split_of_forall₂ related.flip
    have listed : p ∈ plats := plats_split ▸ mem_append_right _ mem_cons_self
    exact (inSync.isKept_iff_follows split plats_split fronts.flip same).mp (all_kept p listed)
  · intro agree p listed
    obtain ⟨front, back, plats_split⟩ := append_of_mem listed
    have related := plats_split ▸ inSync.listed
    obtain ⟨before, o, after, split, fronts, same⟩ := exists_split_of_forall₂ related
    exact (inSync.isKept_iff_follows split plats_split fronts same).mpr
      (agree before o after split)

end

end InSync

theorem deleteAllUnknown_deleted_eq_nil {σ : Type*} (platform : Ip4Platform σ)
    (known : List (Option Ip4Object)) (state : σ) :
    (deleteAllUnknown platform known state).deleted = [] ↔
      ∀ p ∈ platform.addresses state, isKept known p = true := by
  constructor
  · intro nothing p listed
    rcases kept_or_deleted platform known listed with kept | deleted
    · exact kept
    · rw [nothing] at deleted
      cases deleted
  · intro all_kept
    have idle : ∀ place, deleteUnknown platform known
        (ip4AddrSubnetsBuildIndex ((platform.addresses state).map some) true true)
        ⟨state, (platform.addresses state).map some, []⟩ place =
          ⟨state, (platform.addresses state).map some, []⟩ := by
      intro place
      rw [deleteUnknown]
      simp only [objectAt_map_some]
      cases found : (platform.addresses state)[place]? with
      | none => rfl
      | some p => exact if_pos (all_kept p (mem_of_getElem? found))
    rw [deleteAllUnknown]
    simp only [foldl_fixed' idle]

/-- An interface that has the known addresses loses none of them exactly if the known addresses of a
network have one prefix length. -/
theorem ip4AddressSync_deletes_nothing_iff {σ : Type*} (platform : Ip4Platform σ) (ifindex : Int)
    (now : Nat) (extendedIfaFlags : Bool) (known : List Ip4Object) (state : σ)
    (inSync : InSync now known (platform.addresses state)) :
    (ip4AddressSync platform ifindex now extendedIfaFlags known state).deleted = [] ↔
      ∀ a ∈ known, ∀ b ∈ known, net a.address = net b.address →
        a.address.plen = b.address.plen := by
  calc (ip4AddressSync platform ifindex now extendedIfaFlags known state).deleted = []
    _ ↔ (deleteAllUnknown platform (known.map some) state).deleted = [] := by
      rw [← inSync.cleanExpired]
      rfl
    _ ↔ ∀ p ∈ platform.addresses state, isKept (known.map some) p = true :=
      deleteAllUnknown_deleted_eq_nil platform (known.map some) state
    _ ↔ _ := inSync.all_kept_iff
    _ ↔ _ := follows_iff

theorem InSync.pair {now : Nat} {a b p q : Ip4Object} (valid_a : isValid now a = true)
    (valid_b : isValid now b = true) (apart : sameId a.address b.address = false)
    (same_a : sameId a.address p.address = true) (same_b : sameId b.address q.address = true)
    (first : isFlaggedSecondary p.address = false)
    (second : isFlaggedSecondary q.address = true ↔
      p.address.plen = q.address.plen ∧ net p.address = net q.address) :
    InSync now [a, b] [p, q] where
  valid := forall_mem_cons.mpr ⟨valid_a, forall_mem_singleton.mpr valid_b⟩
  distinct := pairwise_pair.mpr apart
  listed := .cons same_a (.cons same_b .nil)
  flagged before o after split := by
    rcases before with _ | ⟨e, _ | ⟨e', rest⟩⟩
    · obtain ⟨rfl, _⟩ := List.cons.inj split
      simp [first]
    · obtain ⟨rfl, tail⟩ := List.cons.inj split
      obtain ⟨rfl, _⟩ := List.cons.inj tail
      simpa using second
    · have lengths := congrArg length split
      simp only [length_cons, length_append, length_nil] at lengths
      omega

/-- 10.0.0.1/24 and 10.0.0.2/24, and the second one is secondary. -/
theorem ip4AddressSync_deletes_nothing_pair :
    let known : List Ip4Object :=
      [⟨10, plainAddress 0x0100000a 24 0 0 0⟩, ⟨11, plainAddress 0x0200000a 24 0 0 0⟩]
    let plats := [plainAddress 0x0100000a 24 0 0 0, plainAddress 0x0200000a 24 0 0 ifaFSecondary]
    (ip4AddressSync kernel 1 100 true known plats).deleted = [] ↔
      ∀ a ∈ known, ∀ b ∈ known, net a.address = net b.address →
        a.address.plen = b.address.plen := by
  intro known plats
  have inSync : InSync 100 known (kernel.addresses plats) :=
    .pair (by decide) (by decide) (by decide) (by decide) (by decide) (by decide) (by decide)
  exact ip4AddressSync_deletes_nothing_iff kernel 1 100 true known plats inSync

/-- 10.0.0.1/8 and 10.0.0.2/16 are both primary for the kernel, but the second one is to be secondary
among the known addresses, so that both are deleted. -/
theorem ip4AddressSync_deletes_nothing_fails :
    ¬ ∀ (σ : Type) (platform : Ip4Platform σ) (ifindex : Int) (now : Nat) (extendedIfaFlags : Bool)
      (known : List Ip4Object) (state : σ), InSync now known (platform.addresses state) →
        (ip4AddressSync platform ifindex now extendedIfaFlags known state).deleted = [] := by
  intro claim
  have inSync : InSync 100
      [⟨10, plainAddress 0x0100000a 8 0 0 0⟩, ⟨11, plainAddress 0x0200000a 16 0 0 0⟩]
      (kernel.addresses [plainAddress 0x0100000a 8 0 0 0, plainAddress 0x0200000a 16 0 0 0]) :=
    .pair (by decide) (by decide) (by decide) (by decide) (by decide) (by decide) (by decide)
  have nothing := claim _ kernel 1 100 true _ _ inSync
  revert nothing
  decide +kernel

end NetworkManager.Ip4AddressSync
