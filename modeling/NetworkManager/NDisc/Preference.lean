import Mathlib.Data.List.Nodup
import NetworkManager.Library.RankedList
import NetworkManager.NDisc.Data

/-!
# The order of gateways and routes

Gateways and routes are listed once for each identity and in the order of their preference.  The
search for a new item meets the item that it replaces, if there is one, and finds the first item of
a lower priority among the others.  From what the search returns follows what adding an item does.

A new gateway that nothing listed is less preferable than goes to the end, and the gateways stay in
order.  A new route of this kind goes to the front, where it is in order only when no other route
is more preferable.
-/

namespace NetworkManager.NDisc

open List RankedList

variable {α κ : Type} {view : ItemView α κ} {items left right others : List α} {old new : α}

section Search

variable [DecidableEq κ]

theorem searchLoop_append (before : List α) (rest : List α)
    (fresh : ∀ item ∈ left, view.key item ≠ view.key new) :
    searchLoop view new before (firstLower view.priority new before) (left ++ rest) =
      searchLoop view new (before ++ left) (firstLower view.priority new (before ++ left)) rest := by
  induction left generalizing before with
  | nil => simp
  | cons item left ih =>
    rw [forall_mem_cons] at fresh
    rw [cons_append, searchLoop, if_neg fresh.1, ← firstLower_append_singleton,
      ih _ fresh.2, append_assoc, singleton_append]

theorem searchLoop_fresh (before : List α) (fresh : ∀ item ∈ items, view.key item ≠ view.key new) :
    searchLoop view new before (firstLower view.priority new before) items =
      .exhausted (before ++ items) (firstLower view.priority new (before ++ items)) := by
  have passed := searchLoop_append before [] fresh
  rw [append_nil] at passed
  rw [passed, searchLoop]

theorem searchLoop_listed (same_key : view.key old = view.key new)
    (fresh_left : ∀ item ∈ left, view.key item ≠ view.key new)
    (fresh_right : ∀ item ∈ right, view.key item ≠ view.key new) :
    searchLoop view new [] none (left ++ old :: right) =
      if view.lifetime new = 0 then .returned (left ++ right) true
      else if view.preference old ≠ view.preference new then
        .exhausted (left ++ right) (firstLower view.priority new (left ++ right))
      else if view.upToDate old new then .returned (left ++ old :: right) false
      else .returned (left ++ new :: right) true := by
  have passed := searchLoop_append [] (old :: right) fresh_left
  rw [nil_append] at passed
  have start : firstLower view.priority new [] = none := rfl
  rw [start] at passed
  rw [passed, searchLoop, if_pos same_key, searchLoop_fresh left fresh_right]

end Search

/-- What adding an item to an array may do.  A new item is inserted before the first item of a
lower priority, or else at an index that depends on the function. -/
inductive Added (view : ItemView α κ) (fallback : List α → Nat) (new : α) (items : List α) :
    List α × Bool → Prop where
  /-- An item that is withdrawn was not listed. -/
  | ignored (withdrawn : view.lifetime new = 0)
      (fresh : ∀ item ∈ items, view.key item ≠ view.key new) :
      Added view fallback new items (items, false)
  | removed {left right : List α} {old : α} (withdrawn : view.lifetime new = 0)
      (split : items = left ++ old :: right) :
      Added view fallback new items (left ++ right, true)
  /-- An item is announced again, with the same values. -/
  | kept {left right : List α} {old : α} (split : items = left ++ old :: right)
      (same_key : view.key old = view.key new)
      (same_preference : view.preference old = view.preference new)
      (current : view.upToDate old new = true) : Added view fallback new items (items, false)
  /-- An item is announced again, with the same preference and other values. -/
  | replaced {left right : List α} {old : α} (valid : view.lifetime new ≠ 0)
      (split : items = left ++ old :: right)
      (same_key : view.key old = view.key new)
      (same_preference : view.preference old = view.preference new)
      (stale : view.upToDate old new = false) :
      Added view fallback new items (left ++ new :: right, true)
  /-- An item is inserted, in place of an item of another preference when its identity is
  listed. -/
  | inserted {others : List α} (valid : view.lifetime new ≠ 0)
      (preference_ne : ∀ item ∈ items, view.key item = view.key new →
        view.preference item ≠ view.preference new)
      (sublist : List.Sublist others items)
      (mem_others : ∀ item, item ∈ others ↔ item ∈ items ∧ view.key item ≠ view.key new) :
      Added view fallback new items
        (others.insertIdx ((firstLower view.priority new others).getD (fallback others)) new, true)

/-- What a function that adds an item does after its search. -/
def finishSearch (view : ItemView α κ) (fallback : List α → Nat) (new : α) :
    SearchEnd α → List α × Bool
  | .returned items changed => (items, changed)
  | .exhausted items insertIdx =>
    if view.lifetime new ≠ 0 then
      (items.insertIdx (insertIdx.getD (fallback items)) new, true)
    else (items, false)

theorem ndiscAddGateway_eq (gateways : List NMNDiscGateway) (new : NMNDiscGateway) :
    ndiscAddGateway gateways new =
      finishSearch gatewayView List.length new (searchLoop gatewayView new [] none gateways) := by
  unfold ndiscAddGateway
  cases searchLoop gatewayView new [] none gateways <;> rfl

theorem ndiscAddRoute_eq {new : NMNDiscRoute} (plen_ne : new.plen ≠ 0) (plen_le : new.plen ≤ 128)
    (routes : List NMNDiscRoute) :
    ndiscAddRoute routes new =
      finishSearch routeView (fun _ => 0) new (searchLoop routeView new [] none routes) := by
  have in_range : ¬(new.plen = 0 ∨ 128 < new.plen) := not_or.mpr ⟨plen_ne, UInt8.not_lt.mpr plen_le⟩
  unfold ndiscAddRoute
  rw [if_neg in_range]
  cases searchLoop routeView new [] none routes <;> rfl

section Adding

variable [DecidableEq κ] {fallback : List α → Nat}

theorem added_of_fresh (fallback : List α → Nat)
    (fresh : ∀ item ∈ items, view.key item ≠ view.key new) :
    Added view fallback new items
      (finishSearch view fallback new (searchLoop view new [] none items)) := by
  have exhausted : searchLoop view new [] none items =
      .exhausted items (firstLower view.priority new items) := searchLoop_fresh [] fresh
  rw [exhausted, finishSearch]
  by_cases withdrawn : view.lifetime new = 0
  · rw [if_neg (not_not.mpr withdrawn)]
    exact .ignored withdrawn fresh
  · rw [if_pos withdrawn]
    refine .inserted withdrawn ?_ (Sublist.refl _) ?_
    · intro item member same_key
      exact absurd same_key (fresh item member)
    · intro item
      exact ⟨fun member => ⟨member, fresh item member⟩, And.left⟩

theorem added_of_listed (fallback : List α → Nat) (same_key : view.key old = view.key new)
    (fresh_left : ∀ item ∈ left, view.key item ≠ view.key new)
    (fresh_right : ∀ item ∈ right, view.key item ≠ view.key new) :
    Added view fallback new (left ++ old :: right)
      (finishSearch view fallback new (searchLoop view new [] none (left ++ old :: right))) := by
  rw [searchLoop_listed same_key fresh_left fresh_right]
  by_cases withdrawn : view.lifetime new = 0
  · rw [if_pos withdrawn]
    exact .removed withdrawn rfl
  rw [if_neg withdrawn]
  by_cases same_preference : view.preference old = view.preference new
  · rw [if_neg (not_not.mpr same_preference)]
    cases current : view.upToDate old new with
    | true => exact .kept rfl same_key same_preference current
    | false => exact .replaced withdrawn rfl same_key same_preference current
  · rw [if_pos same_preference, finishSearch, if_pos withdrawn]
    refine .inserted withdrawn ?_ ((sublist_cons_self old right).append_left left) ?_
    · intro item member item_key
      rcases mem_append.mp member with member | member
      · exact absurd item_key (fresh_left item member)
      · rcases mem_cons.mp member with rfl | member
        · exact same_preference
        · exact absurd item_key (fresh_right item member)
    · intro item
      rw [mem_append, mem_append, mem_cons]
      constructor
      · rintro (member | member)
        · exact ⟨.inl member, fresh_left item member⟩
        · exact ⟨.inr (.inr member), fresh_right item member⟩
      · rintro ⟨member | rfl | member, item_key⟩
        · exact .inl member
        · exact absurd same_key item_key
        · exact .inr member

theorem added_finishSearch (fallback : List α → Nat) (new : α)
    (distinct : (items.map view.key).Nodup) :
    Added view fallback new items
      (finishSearch view fallback new (searchLoop view new [] none items)) := by
  by_cases listed : ∃ item ∈ items, view.key item = view.key new
  · obtain ⟨old, member, same_key⟩ := listed
    obtain ⟨left, right, rfl⟩ := append_of_mem member
    rw [map_append, map_cons, nodup_middle, nodup_cons, mem_append, not_or] at distinct
    obtain ⟨⟨not_left, not_right⟩, -⟩ := distinct
    refine added_of_listed fallback same_key ?_ ?_
    · intro item item_member item_key
      exact not_left (mem_map.mpr ⟨item, item_member, item_key.trans same_key.symm⟩)
    · intro item item_member item_key
      exact not_right (mem_map.mpr ⟨item, item_member, item_key.trans same_key.symm⟩)
  · refine added_of_fresh fallback fun item member same_key => ?_
    exact listed ⟨item, member, same_key⟩

end Adding

section Keeping

variable {fallback : List α → Nat} {result : List α × Bool}

theorem insertIdx_perm (bounded : ∀ others, fallback others ≤ others.length) :
    (others.insertIdx ((firstLower view.priority new others).getD (fallback others)) new).Perm
      (new :: others) := by
  refine perm_insertIdx new others ?_
  cases found : firstLower view.priority new others with
  | none => exact bounded others
  | some index => exact firstLower_le_length found

section

variable (added : Added view fallback new items result)

include added

theorem Added.mem (bounded : ∀ others, fallback others ≤ others.length) {item : α}
    (member : item ∈ result.1) :
    item ∈ items ∨ item = new ∧ view.lifetime new ≠ 0 := by
  cases added with
  | ignored withdrawn fresh => exact .inl member
  | removed withdrawn split =>
    rw [split]
    exact .inl (((sublist_cons_self _ _).append_left _).subset member)
  | kept split same_key same_preference current => exact .inl member
  | replaced valid split same_key same_preference stale =>
    rcases mem_append.mp member with member | member
    · exact .inl (split ▸ mem_append_left _ member)
    · rcases mem_cons.mp member with rfl | member
      · exact .inr ⟨rfl, valid⟩
      · exact .inl (split ▸ mem_append_right _ (mem_cons_of_mem _ member))
  | inserted valid preference_ne sublist mem_others =>
    rcases mem_cons.mp ((insertIdx_perm bounded).mem_iff.mp member) with rfl | member
    · exact .inr ⟨rfl, valid⟩
    · exact .inl (sublist.subset member)

theorem Added.distinct (bounded : ∀ others, fallback others ≤ others.length)
    (distinct : (items.map view.key).Nodup) : (result.1.map view.key).Nodup := by
  cases added with
  | ignored withdrawn fresh => exact distinct
  | removed withdrawn split =>
    rw [split] at distinct
    exact distinct.sublist (((sublist_cons_self _ _).append_left _).map view.key)
  | kept split same_key same_preference current => exact distinct
  | replaced valid split same_key same_preference stale =>
    rw [split, map_append, map_cons, same_key] at distinct
    rw [map_append, map_cons]
    exact distinct
  | inserted valid preference_ne sublist mem_others =>
    have fresh : view.key new ∉ _ := fun member => by
      obtain ⟨item, item_member, item_key⟩ := mem_map.mp member
      exact ((mem_others item).mp item_member).2 item_key
    rw [((insertIdx_perm bounded).map view.key).nodup_iff, map_cons, nodup_cons]
    exact ⟨fresh, distinct.sublist (sublist.map view.key)⟩

/-- An item that replaces another one of its preference keeps the order, and so does one that is
withdrawn.  An item that is inserted keeps it when the index is right. -/
theorem Added.ranked (ranked : Ranked view.priority items)
    (fits : ∀ others, Ranked view.priority others → firstLower view.priority new others = none →
      Ranked view.priority (others.insertIdx (fallback others) new)) :
    Ranked view.priority result.1 := by
  cases added with
  | ignored withdrawn fresh => exact ranked
  | removed withdrawn split =>
    rw [split] at ranked
    exact ranked.sublist ((sublist_cons_self _ _).append_left _)
  | kept split same_key same_preference current => exact ranked
  | replaced valid split same_key same_preference stale =>
    rw [split] at ranked
    exact ranked.replace (congrArg preferenceToPriority same_preference.symm)
  | @inserted others valid preference_ne sublist mem_others =>
    have others_ranked := ranked.sublist sublist
    cases found : firstLower view.priority new others with
    | none => exact fits others others_ranked found
    | some index => exact others_ranked.insertIdx_firstLower found

end

/-- When an item that goes to the front, unless another one is less preferable, keeps the order:
it is withdrawn, or it replaces an item of its preference, or another item is less preferable, or
no other item is more preferable. -/
def FitsFront (view : ItemView α κ) (items : List α) (new : α) : Prop :=
  view.lifetime new = 0 ∨
  (∃ item ∈ items, view.key item = view.key new ∧ view.preference item = view.preference new) ∨
  (∃ item ∈ items, view.key item ≠ view.key new ∧ view.priority item < view.priority new) ∨
  ∀ item ∈ items, view.key item ≠ view.key new → view.priority item ≤ view.priority new

theorem Added.ranked_iff_fitsFront (added : Added view (fun _ => 0) new items result)
    (ranked : Ranked view.priority items) :
    Ranked view.priority result.1 ↔ FitsFront view items new := by
  cases added with
  | ignored withdrawn fresh => exact iff_of_true ranked (.inl withdrawn)
  | removed withdrawn split =>
    rw [split] at ranked
    exact iff_of_true (ranked.sublist ((sublist_cons_self _ _).append_left _))
      (.inl withdrawn)
  | @kept left right old split same_key same_preference current =>
    have member : old ∈ items := split ▸ mem_append_cons_self
    exact iff_of_true ranked (.inr (.inl ⟨old, member, same_key, same_preference⟩))
  | @replaced left right old valid split same_key same_preference stale =>
    have member : old ∈ items := split ▸ mem_append_cons_self
    rw [split] at ranked
    exact iff_of_true (ranked.replace (congrArg preferenceToPriority same_preference.symm))
      (.inr (.inl ⟨old, member, same_key, same_preference⟩))
  | @inserted others valid preference_ne sublist mem_others =>
    have others_ranked := ranked.sublist sublist
    cases found : firstLower view.priority new others with
    | some index =>
      obtain ⟨left, low, right, others_eq, -, lower, -⟩ := firstLower_eq_some found
      have low_member := (mem_others low).mp (others_eq ▸ mem_append_cons_self)
      exact iff_of_true (others_ranked.insertIdx_firstLower found)
        (.inr (.inr (.inl ⟨low, low_member.1, low_member.2, lower⟩)))
    | none =>
      have not_lower := firstLower_eq_none.mp found
      refine others_ranked.insertIdx_zero.trans ⟨fun below => ?_, ?_⟩
      · exact .inr (.inr (.inr fun item member key_ne =>
          below item ((mem_others item).mpr ⟨member, key_ne⟩)))
      · rintro (withdrawn | ⟨item, member, same_key, same_preference⟩ |
          ⟨item, member, key_ne, lower⟩ | below)
        · exact absurd withdrawn valid
        · exact absurd same_preference (preference_ne item member same_key)
        · have above := not_lower item ((mem_others item).mpr ⟨member, key_ne⟩)
          exact absurd lower (Nat.not_lt.mpr above)
        · intro item member
          obtain ⟨item_member, key_ne⟩ := (mem_others item).mp member
          exact below item item_member key_ne

end Keeping

/-- `_ASSERT_data_gateways`. -/
structure AssertDataGateways (gateways : List NMNDiscGateway) : Prop where
  address_ne : ∀ item ∈ gateways, item.address ≠ 0
  /-- The timestamps are positive and fit a signed number of 32 bits. -/
  timestamp : ∀ item ∈ gateways, 0 < item.timestamp ∧ item.timestamp.toNat ≤ maxInt32
  distinct : (gateways.map NMNDiscGateway.address).Nodup
  lifetime_pos : ∀ item ∈ gateways, 0 < item.lifetime
  ranked : Ranked (fun item => preferenceToPriority item.preference) gateways

theorem AssertDataGateways.sublist {gateways kept : List NMNDiscGateway}
    (asserted : AssertDataGateways gateways) (sublist : List.Sublist kept gateways) :
    AssertDataGateways kept where
  address_ne item member := asserted.address_ne item (sublist.subset member)
  timestamp item member := asserted.timestamp item (sublist.subset member)
  distinct := asserted.distinct.sublist (sublist.map NMNDiscGateway.address)
  lifetime_pos item member := asserted.lifetime_pos item (sublist.subset member)
  ranked := asserted.ranked.sublist sublist

variable {gateways : List NMNDiscGateway} {data : NMNDiscDataInternal} {call : NDiscCall}

theorem added_ndiscAddGateway (new : NMNDiscGateway)
    (distinct : (gateways.map NMNDiscGateway.address).Nodup) :
    Added gatewayView List.length new gateways (ndiscAddGateway gateways new) := by
  rw [ndiscAddGateway_eq]
  exact added_finishSearch length new distinct

theorem AssertDataGateways.ndiscAddGateway (asserted : AssertDataGateways gateways)
    {new : NMNDiscGateway} (address_ne : new.address ≠ 0)
    (timestamp : 0 < new.timestamp ∧ new.timestamp.toNat ≤ maxInt32) :
    AssertDataGateways (ndiscAddGateway gateways new).1 := by
  have added := added_ndiscAddGateway new asserted.distinct
  have bounded : ∀ others : List NMNDiscGateway, others.length ≤ others.length :=
    fun others => Nat.le_refl _
  refine ⟨?_, ?_, added.distinct bounded asserted.distinct, ?_, ?_⟩
  · intro item member
    rcases added.mem bounded member with listed | ⟨rfl, -⟩
    · exact asserted.address_ne item listed
    · exact address_ne
  · intro item member
    rcases added.mem bounded member with listed | ⟨rfl, -⟩
    · exact asserted.timestamp item listed
    · exact timestamp
  · intro item member
    rcases added.mem bounded member with listed | ⟨rfl, valid⟩
    · exact asserted.lifetime_pos item listed
    · exact UInt32.pos_iff_ne_zero.mpr valid
  · exact added.ranked asserted.ranked fun others ranked none_lower =>
      ranked.insertIdx_length none_lower

/-- What a caller sees of a gateway: the address, the preference and the expiry. -/
def NMNDiscGateway.seen (item : NMNDiscGateway) : In6Addr × NMIcmpv6RouterPref × Int :=
  (item.address, item.preference, item.getExpiry)

/-- Adding a gateway reports exactly the changes of the addresses, preferences and expiries. -/
theorem ndiscAddGateway_changed_iff (distinct : (gateways.map NMNDiscGateway.address).Nodup)
    (new : NMNDiscGateway) :
    (ndiscAddGateway gateways new).2 = true ↔
      (ndiscAddGateway gateways new).1.map NMNDiscGateway.seen ≠
        gateways.map NMNDiscGateway.seen := by
  have added := added_ndiscAddGateway new distinct
  generalize ndiscAddGateway gateways new = result at added
  cases added with
  | ignored withdrawn fresh => simp
  | removed withdrawn split =>
    refine iff_of_true rfl fun same => ?_
    have lengths := congrArg length same
    rw [split] at lengths
    simp at lengths
  | kept split same_key same_preference current => simp
  | @replaced left right old valid split same_key same_preference stale =>
    refine iff_of_true rfl fun same => ?_
    rw [split, map_append, map_append] at same
    have tails := append_cancel_left same
    rw [map_cons, map_cons] at tails
    have expiry : new.getExpiry = old.getExpiry :=
      congrArg (fun seen => seen.2.2) (List.cons.inj tails).1
    exact of_decide_eq_false stale expiry.symm
  | @inserted others valid preference_ne sublist mem_others =>
    refine iff_of_true rfl fun same => ?_
    -- the new gateway is seen before, so the address was listed with this preference
    have member : new.seen ∈ gateways.map NMNDiscGateway.seen := by
      rw [← same]
      refine mem_map_of_mem ?_
      exact (insertIdx_perm fun others => Nat.le_refl _).mem_iff.mpr mem_cons_self
    obtain ⟨item, item_member, item_seen⟩ := mem_map.mp member
    have same_key : item.address = new.address := congrArg Prod.fst item_seen
    have same_preference : item.preference = new.preference :=
      congrArg (fun seen => seen.2.1) item_seen
    exact preference_ne item item_member same_key same_preference

theorem AssertDataGateways.apply (asserted : AssertDataGateways data.gateways)
    (admitted : call.Admitted) :
    AssertDataGateways (call.apply data).gateways := by
  cases call with
  | addGateway new => exact asserted.ndiscAddGateway admitted.1 admitted.2
  | addRoute new => exact asserted
  | checkTimestamps now changed =>
    exact asserted.sublist (checkTimestamps_gateways now changed data)

/-- After every sequence of calls the assertions on the gateways hold, and the next call that adds
a gateway reports exactly the changes of the addresses, preferences and expiries. -/
theorem run_assertDataGateways {calls : List NDiscCall}
    (lawful : machine.Lawful NMNDiscDataInternal.new calls) :
    AssertDataGateways (machine.run NMNDiscDataInternal.new calls).gateways ∧
    ∀ new : NMNDiscGateway,
      let gateways := (machine.run NMNDiscDataInternal.new calls).gateways
      ((ndiscAddGateway gateways new).2 = true ↔
        (ndiscAddGateway gateways new).1.map NMNDiscGateway.seen ≠
          gateways.map NMNDiscGateway.seen) := by
  have start : AssertDataGateways NMNDiscDataInternal.new.gateways := by
    constructor <;> simp [NMNDiscDataInternal.new, Ranked]
  have preserved : ∀ data call, AssertDataGateways data.gateways → machine.guard data call →
      AssertDataGateways (machine.step data call).gateways := by
    intro data call holds admitted
    exact holds.apply admitted
  have asserted : AssertDataGateways (machine.run NMNDiscDataInternal.new calls).gateways :=
    machine.run_preserves preserved start lawful
  exact ⟨asserted, ndiscAddGateway_changed_iff asserted.distinct⟩

/-- A router that raises its preference moves to the front of the list. -/
theorem run_assertDataGateways_raised :
    let first : NMNDiscGateway := { address := 1, timestamp := 1, lifetime := 9, preference := .low }
    let second : NMNDiscGateway := { first with address := 2, preference := .medium }
    let calls : List NDiscCall := [.addGateway first, .addGateway second,
      .addGateway { first with preference := .high }, .checkTimestamps 5 0]
    machine.Lawful NMNDiscDataInternal.new calls ∧
    (machine.run NMNDiscDataInternal.new calls).gateways =
      [{ first with preference := .high }, second] ∧
    AssertDataGateways (machine.run NMNDiscDataInternal.new calls).gateways := by
  intro first second calls
  have lawful : machine.Lawful NMNDiscDataInternal.new calls := by
    refine ⟨?_, ?_, ?_, trivial, trivial⟩ <;> exact ⟨by decide, by decide, by decide⟩
  exact ⟨lawful, by decide, (run_assertDataGateways lawful).1⟩

structure RoutesOrdered (routes : List NMNDiscRoute) : Prop where
  distinct : (routes.map fun item => (item.network, item.plen)).Nodup
  ranked : Ranked (fun item => preferenceToPriority item.preference) routes

theorem added_ndiscAddRoute {routes : List NMNDiscRoute} {new : NMNDiscRoute}
    (plen_ne : new.plen ≠ 0) (plen_le : new.plen ≤ 128)
    (distinct : (routes.map fun item => (item.network, item.plen)).Nodup) :
    Added routeView (fun _ => 0) new routes (ndiscAddRoute routes new) := by
  rw [ndiscAddRoute_eq plen_ne plen_le]
  exact added_finishSearch (fun _ => 0) new distinct

def NDiscCall.KeepsRouteOrder (data : NMNDiscDataInternal) : NDiscCall → Prop
  | .addRoute new => FitsFront routeView data.routes new
  | .addGateway _ | .checkTimestamps _ _ => True

theorem apply_routes_distinct
    (distinct : (data.routes.map fun item => (item.network, item.plen)).Nodup)
    (admitted : call.Admitted) :
    ((call.apply data).routes.map fun item => (item.network, item.plen)).Nodup := by
  cases call with
  | addGateway new => exact distinct
  | addRoute new =>
    have added := added_ndiscAddRoute admitted.1.1 admitted.1.2 distinct
    exact added.distinct (fun others => Nat.zero_le _) distinct
  | checkTimestamps now changed =>
    exact distinct.sublist ((checkTimestamps_routes now changed data).map _)

theorem apply_routesOrdered_iff (ordered : RoutesOrdered data.routes) (admitted : call.Admitted) :
    RoutesOrdered (call.apply data).routes ↔ call.KeepsRouteOrder data := by
  have distinct := apply_routes_distinct ordered.distinct admitted
  cases call with
  | addGateway new => exact iff_of_true ordered trivial
  | addRoute new =>
    have added := added_ndiscAddRoute admitted.1.1 admitted.1.2 ordered.distinct
    have ranked_iff := added.ranked_iff_fitsFront ordered.ranked
    exact ⟨fun after => ranked_iff.mp after.ranked, fun fits =>
      ⟨distinct, ranked_iff.mpr fits⟩⟩
  | checkTimestamps now changed =>
    exact iff_of_true
      ⟨distinct, ordered.ranked.sublist (checkTimestamps_routes now changed data)⟩ trivial

/-- In a run the routes stay in order throughout exactly when every route that is added is
withdrawn, or replaces one of its preference, or comes when another route is less preferable or no
other route is more preferable. -/
theorem throughout_routesOrdered_iff {calls : List NDiscCall}
    (lawful : machine.Lawful NMNDiscDataInternal.new calls) :
    machine.Throughout (fun data => RoutesOrdered data.routes) NMNDiscDataInternal.new calls ↔
      machine.Along NDiscCall.KeepsRouteOrder NMNDiscDataInternal.new calls := by
  have start : RoutesOrdered NMNDiscDataInternal.new.routes := by
    constructor <;> simp [NMNDiscDataInternal.new, Ranked]
  refine machine.throughout_iff_along (fun _ => True) ?_ ?_ trivial start lawful
  · intro data call _ _
    trivial
  · intro data call _ ordered admitted
    exact apply_routesOrdered_iff ordered admitted

/-- A network that is announced with a medium preference. -/
def sampleRoute (network : In6Addr) : NMNDiscRoute where
  network := network
  plen := 64
  gateway := 1
  timestamp := 1
  lifetime := 9
  preference := .medium

/-- Routes of one preference, in a run whose last call raises the preference of the first one. -/
theorem throughout_routesOrdered_raised :
    let calls : List NDiscCall := [.addRoute (sampleRoute 1), .addRoute (sampleRoute 2),
      .addRoute { sampleRoute 1 with preference := .high }]
    machine.Lawful NMNDiscDataInternal.new calls ∧
    machine.Throughout (fun data => RoutesOrdered data.routes) NMNDiscDataInternal.new calls := by
  intro calls
  have lawful : machine.Lawful NMNDiscDataInternal.new calls := by
    refine ⟨?_, ?_, ?_, trivial⟩ <;> exact ⟨⟨by decide, by decide⟩, by decide, by decide⟩
  refine ⟨lawful, (throughout_routesOrdered_iff lawful).mpr ⟨?_, ?_, ?_, trivial⟩⟩
  all_goals
    unfold NDiscCall.KeepsRouteOrder FitsFront
    decide

theorem run_routes_high_medium :
    let calls : List NDiscCall := [.addRoute { sampleRoute 1 with preference := .high },
      .addRoute (sampleRoute 2)]
    machine.Lawful NMNDiscDataInternal.new calls ∧
    ¬RoutesOrdered (machine.run NMNDiscDataInternal.new calls).routes := by
  intro calls
  have lawful : machine.Lawful NMNDiscDataInternal.new calls := by
    refine ⟨?_, ?_, trivial⟩ <;> exact ⟨⟨by decide, by decide⟩, by decide, by decide⟩
  refine ⟨lawful, fun ordered => ?_⟩
  have routes_eq : (machine.run NMNDiscDataInternal.new calls).routes =
      [sampleRoute 2, { sampleRoute 1 with preference := .high }] := by decide
  have ranked := ordered.ranked
  rw [routes_eq] at ranked
  have first_rank := (pairwise_cons.mp ranked).1 _ mem_cons_self
  exact absurd first_rank (by decide)

end NetworkManager.NDisc
