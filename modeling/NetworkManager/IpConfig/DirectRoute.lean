import NetworkManager.IpConfig.BestRoute
import NetworkManager.IpConfig.Calls
import NetworkManager.Library.DisplacingScan
import Mathlib.Data.Prod.Lex
import Mathlib.Data.Finset.Max

/-!
# The direct route to a host

`nm_ip4_config_get_direct_route_for_host` looks for a route without a gateway that covers a host.
One scan compares prefix lengths and metrics separately, so that a route with a longer prefix has to
have a lower metric as well in order to take the place of the best route so far.
-/

namespace NetworkManager.IPConfig

open List Option

section

variable (host : InAddr) (routeTable : UInt32)

/-- A step of the loop of `nm_ip4_config_get_direct_route_for_host`. -/
def directRouteStep (bestRoute : Option NMPlatformIP4Route) (item : NMPlatformIP4Route) :
    Option NMPlatformIP4Route :=
  if item.gateway ≠ 0 then bestRoute
  else if bestRoute.any fun best => decide (best.plen > item.plen) then bestRoute
  else if routeTableUncoerce item.tableCoerced true ≠ routeTable then bestRoute
  else if ip4AddressClearHostAddress host item.plen ≠
      ip4AddressClearHostAddress item.network item.plen then bestRoute
  else if bestRoute.any fun best => decide (best.metric ≤ item.metric) then bestRoute
  else some item

/-- `nm_ip4_config_get_direct_route_for_host`, of the routes in their order. -/
def getDirectRouteForHost (routes : List NMPlatformIP4Route) : Option NMPlatformIP4Route :=
  if host = 0 then none else routes.foldl (directRouteStep host routeTable) none

/-- A route without a gateway whose network contains the host. -/
def coversHost (route : NMPlatformIP4Route) : Bool :=
  route.gateway = 0 && routeTableUncoerce route.tableCoerced true = routeTable &&
    ip4AddressClearHostAddress host route.plen = ip4AddressClearHostAddress route.network route.plen

structure IsLongestMatch (routes : List NMPlatformIP4Route) (best : NMPlatformIP4Route) :
    Prop where
  mem : best ∈ routes
  covers : coversHost host routeTable best = true
  longest : ∀ other ∈ routes, coversHost host routeTable other = true → other.plen ≤ best.plen
  least : ∀ other ∈ routes, coversHost host routeTable other = true → other.plen = best.plen →
    best.metric ≤ other.metric

def IsLongestMatchLookup (routes : List NMPlatformIP4Route) (answer : Option NMPlatformIP4Route) :
    Prop :=
  (answer = none ↔ ∀ route ∈ routes, coversHost host routeTable route = false) ∧
    ∀ best, answer = some best → IsLongestMatch host routeTable routes best

end

/-- The tests of the loop that keep the best route so far. -/
def keepsPlace (best item : NMPlatformIP4Route) : Bool :=
  best.plen > item.plen || best.metric ≤ item.metric

variable {host : InAddr} {routeTable : UInt32} {routes : List NMPlatformIP4Route}

theorem directRouteStep_eq (bestRoute : Option NMPlatformIP4Route) (item : NMPlatformIP4Route) :
    directRouteStep host routeTable bestRoute item =
      if coversHost host routeTable item then DisplacingScan.displace keepsPlace bestRoute item
      else bestRoute := by
  unfold directRouteStep coversHost
  by_cases gateway : item.gateway = 0
  · by_cases table : routeTableUncoerce item.tableCoerced true = routeTable
    · by_cases network : ip4AddressClearHostAddress host item.plen =
          ip4AddressClearHostAddress item.network item.plen
      · cases bestRoute with
        | none => simp [gateway, table, network, DisplacingScan.displace]
        | some best =>
          by_cases longer : best.plen > item.plen <;> by_cases less : best.metric ≤ item.metric <;>
            simp [gateway, table, network, DisplacingScan.displace, keepsPlace, longer, less]
      · simp [gateway, table, network]
    · simp [gateway, table]
  · simp [gateway]

theorem foldl_directRouteStep (routes : List NMPlatformIP4Route)
    (bestRoute : Option NMPlatformIP4Route) :
    routes.foldl (directRouteStep host routeTable) bestRoute =
      (routes.filter (coversHost host routeTable)).foldl (DisplacingScan.displace keepsPlace)
        bestRoute := by
  induction routes generalizing bestRoute with
  | nil => rfl
  | cons route routes ih =>
    rw [foldl_cons, ih, directRouteStep_eq, filter_cons]
    split
    · rw [foldl_cons]
    · rfl

theorem getDirectRouteForHost_eq (nonzero : host ≠ 0) (routes : List NMPlatformIP4Route) :
    getDirectRouteForHost host routeTable routes =
      DisplacingScan.scan keepsPlace (routes.filter (coversHost host routeTable)) := by
  rw [getDirectRouteForHost, if_neg nonzero, foldl_directRouteStep]
  rfl

theorem getDirectRouteForHost_eq_none (nonzero : host ≠ 0) :
    getDirectRouteForHost host routeTable routes = none ↔
      ∀ route ∈ routes, coversHost host routeTable route = false := by
  rw [getDirectRouteForHost_eq nonzero, DisplacingScan.scan_eq_none, filter_eq_nil_iff]
  simp only [Bool.not_eq_true]

theorem keepsPlace_inherits : DisplacingScan.Inherits keepsPlace := by
  intro current item next displaced held
  simp only [keepsPlace, Bool.or_eq_false_iff, decide_eq_false_iff_not, Bool.or_eq_true,
    decide_eq_true_eq, UInt8.lt_iff_toNat_lt, UInt32.le_iff_toNat_le] at displaced held ⊢
  omega

variable {best : NMPlatformIP4Route}

section

variable (is_best : IsLongestMatch host routeTable routes best)

include is_best

theorem IsLongestMatch.keepsPlace :
    ∀ item ∈ routes.filter (coversHost host routeTable), keepsPlace best item = true := by
  intro item mem
  obtain ⟨mem, covers⟩ := mem_filter.mp mem
  have longest := is_best.longest item mem covers
  have least := is_best.least item mem covers
  simp only [IPConfig.keepsPlace, Bool.or_eq_true, decide_eq_true_eq]
  rcases UInt8.lt_or_eq_of_le longest with shorter | same
  · exact .inl shorter
  · exact .inr (least same)

theorem IsLongestMatch.perm {others : List NMPlatformIP4Route} (perm : routes.Perm others) :
    IsLongestMatch host routeTable others best where
  mem := perm.mem_iff.mp is_best.mem
  covers := is_best.covers
  longest other mem := is_best.longest other (perm.mem_iff.mpr mem)
  least other mem := is_best.least other (perm.mem_iff.mpr mem)

theorem IsLongestMatch.exists_first :
    ∃ front first back, routes.filter (coversHost host routeTable) = front ++ first :: back ∧
      IsLongestMatch host routeTable routes first ∧
      ∀ other ∈ front, ¬ IsLongestMatch host routeTable routes other := by
  classical
  have listed : best ∈ routes.filter (coversHost host routeTable) :=
    mem_filter.mpr ⟨is_best.mem, is_best.covers⟩
  have found : ((routes.filter (coversHost host routeTable)).find? fun route =>
      decide (IsLongestMatch host routeTable routes route)).isSome = true := by
    rw [find?_isSome]
    exact ⟨best, listed, decide_eq_true is_best⟩
  obtain ⟨first, first_eq⟩ := isSome_iff_exists.mp found
  obtain ⟨is_first, front, back, split, none_before⟩ := find?_eq_some_iff_append.mp first_eq
  refine ⟨front, first, back, split, of_decide_eq_true is_first, fun other mem => ?_⟩
  simpa using none_before other mem

end

/-- The lookup finds the longest match exactly if no route covers the host, or the host is not zero
and one of the longest matches is not passed over. -/
theorem isLongestMatchLookup_iff (routes : List NMPlatformIP4Route) :
    IsLongestMatchLookup host routeTable routes (getDirectRouteForHost host routeTable routes) ↔
      (∀ route ∈ routes, coversHost host routeTable route = false) ∨
        (host ≠ 0 ∧ ∃ front best back,
          routes.filter (coversHost host routeTable) = front ++ best :: back ∧
          IsLongestMatch host routeTable routes best ∧
          DisplacingScan.passedOver keepsPlace front.reverse best = false) := by
  have scan_iff : (∃ best, DisplacingScan.scan keepsPlace
        (routes.filter (coversHost host routeTable)) = some best ∧
          IsLongestMatch host routeTable routes best) ↔
      ∃ front best back, routes.filter (coversHost host routeTable) = front ++ best :: back ∧
        IsLongestMatch host routeTable routes best ∧
        DisplacingScan.passedOver keepsPlace front.reverse best = false :=
    DisplacingScan.exists_scan_iff keepsPlace_inherits fun _ is_best => is_best.keepsPlace
  by_cases uncovered : ∀ route ∈ routes, coversHost host routeTable route = false
  · refine ⟨fun _ => .inl uncovered, fun _ => ?_⟩
    have nothing : getDirectRouteForHost host routeTable routes = none := by
      by_cases zero : host = 0
      · exact if_pos zero
      · exact (getDirectRouteForHost_eq_none zero).mpr uncovered
    rw [nothing]
    exact ⟨⟨fun _ => uncovered, fun _ => rfl⟩, fun best is_some => by cases is_some⟩
  · rw [or_iff_right uncovered]
    by_cases zero : host = 0
    · have nothing : getDirectRouteForHost host routeTable routes = none := if_pos zero
      rw [nothing]
      exact ⟨fun lookup => absurd (lookup.1.mp rfl) uncovered, fun found => absurd zero found.1⟩
    · rw [and_iff_right zero, ← scan_iff, ← getDirectRouteForHost_eq zero]
      constructor
      · rintro ⟨none_iff, some_best⟩
        have found : getDirectRouteForHost host routeTable routes ≠ none :=
          fun nothing => uncovered (none_iff.mp nothing)
        obtain ⟨best, best_eq⟩ := ne_none_iff_exists'.mp found
        exact ⟨best, best_eq, some_best best best_eq⟩
      · rintro ⟨best, best_eq, is_best⟩
        refine ⟨getDirectRouteForHost_eq_none zero, fun other other_eq => ?_⟩
        rw [best_eq] at other_eq
        exact Option.some.inj other_eq ▸ is_best

/-- A shorter prefix that covers the host has a greater metric than the longest match. -/
def ShorterIsDearer (host : InAddr) (routeTable : UInt32) (routes : List NMPlatformIP4Route) :
    Prop :=
  ∀ best, IsLongestMatch host routeTable routes best → ∀ other ∈ routes,
    coversHost host routeTable other = true → other.plen < best.plen → best.metric < other.metric

/-- The prefix length and the metric of a route. -/
def rank (route : NMPlatformIP4Route) : UInt8 × UInt32 := (route.plen, route.metric)

section

variable {best other : NMPlatformIP4Route} (is_best : IsLongestMatch host routeTable routes best)

include is_best

theorem IsLongestMatch.rank_eq (is_other : IsLongestMatch host routeTable routes other) :
    rank best = rank other := by
  have plen : best.plen = other.plen := UInt8.le_antisymm
    (is_other.longest best is_best.mem is_best.covers)
    (is_best.longest other is_other.mem is_other.covers)
  have metric : best.metric = other.metric := UInt32.le_antisymm
    (is_best.least other is_other.mem is_other.covers plen.symm)
    (is_other.least best is_best.mem is_best.covers plen)
  rw [rank, rank, plen, metric]

theorem IsLongestMatch.of_rank_eq (mem : other ∈ routes)
    (covers : coversHost host routeTable other = true) (same : rank other = rank best) :
    IsLongestMatch host routeTable routes other where
  mem := mem
  covers := covers
  longest next next_mem next_covers := by
    have plen_eq : other.plen = best.plen := congrArg Prod.fst same
    rw [plen_eq]
    exact is_best.longest next next_mem next_covers
  least next next_mem next_covers plen := by
    have plen_eq : other.plen = best.plen := congrArg Prod.fst same
    have metric_eq : other.metric = best.metric := congrArg Prod.snd same
    rw [metric_eq]
    exact is_best.least next next_mem next_covers (plen.trans plen_eq)

end

theorem exists_isLongestMatch {route : NMPlatformIP4Route} (mem : route ∈ routes)
    (covers : coversHost host routeTable route = true) :
    ∃ best, IsLongestMatch host routeTable routes best := by
  let cost (route : NMPlatformIP4Route) : ℕ ×ₗ ℕ :=
    toLex (UInt8.size - route.plen.toNat, route.metric.toNat)
  obtain ⟨best, best_mem, best_least⟩ :=
    (routes.filter (coversHost host routeTable)).toFinset.exists_min_image cost
      ⟨route, by simp [mem, covers]⟩
  obtain ⟨best_mem, best_covers⟩ := mem_filter.mp (List.mem_toFinset.mp best_mem)
  have least : ∀ other ∈ routes, coversHost host routeTable other = true →
      cost best ≤ cost other := fun other other_mem other_covers =>
    best_least other (List.mem_toFinset.mpr (mem_filter.mpr ⟨other_mem, other_covers⟩))
  refine ⟨best, best_mem, best_covers, fun other other_mem other_covers => ?_,
    fun other other_mem other_covers plen => ?_⟩
  · have cost_le := least other other_mem other_covers
    rw [Prod.Lex.toLex_le_toLex] at cost_le
    have best_lt := best.plen.toNat_lt
    have other_lt := other.plen.toNat_lt
    rw [UInt8.le_iff_toNat_le]
    simp only [UInt8.size] at cost_le
    omega
  · have cost_le := least other other_mem other_covers
    rw [Prod.Lex.toLex_le_toLex, plen] at cost_le
    rw [UInt32.le_iff_toNat_le]
    omega

theorem getDirectRouteForHost_cons (nonzero : host ≠ 0)
    (covers : coversHost host routeTable best = true)
    (holds_back : ∀ item ∈ routes, coversHost host routeTable item = true →
      IPConfig.keepsPlace best item = true) :
    getDirectRouteForHost host routeTable (best :: routes) = some best := by
  rw [getDirectRouteForHost_eq nonzero, filter_cons, if_pos covers]
  have kept : DisplacingScan.scan IPConfig.keepsPlace
      ([] ++ best :: routes.filter (coversHost host routeTable)) = some best :=
    DisplacingScan.scan_of_holds keepsPlace_inherits rfl fun item mem =>
      holds_back item (mem_filter.mp mem).1 (mem_filter.mp mem).2
  exact kept

theorem exists_order_found (nonzero : host ≠ 0)
    (is_best : IsLongestMatch host routeTable routes best) :
    ∃ order, order.Perm routes ∧ getDirectRouteForHost host routeTable order = some best := by
  obtain ⟨front, back, rfl⟩ := append_of_mem is_best.mem
  refine ⟨best :: (front ++ back), perm_middle.symm, ?_⟩
  refine getDirectRouteForHost_cons nonzero is_best.covers fun item mem covers => ?_
  have listed : item ∈ front ++ best :: back :=
    perm_middle.mem_iff.mpr (mem_cons_of_mem best mem)
  exact is_best.keepsPlace item (mem_filter.mpr ⟨listed, covers⟩)

/-- A route with a shorter prefix keeps a longer one out if it comes first and its metric is not
greater. -/
theorem exists_order_missed (nonzero : host ≠ 0) {best other : NMPlatformIP4Route}
    (is_best : IsLongestMatch host routeTable routes best) (mem : other ∈ routes)
    (covers : coversHost host routeTable other = true) (shorter : other.plen < best.plen)
    (cheaper : other.metric ≤ best.metric) :
    ∃ order, order.Perm routes ∧ ∃ answer,
      getDirectRouteForHost host routeTable order = some answer ∧ rank answer ≠ rank best := by
  obtain ⟨front, back, rfl⟩ := append_of_mem mem
  have best_mem : best ∈ front ++ back := by
    rcases mem_cons.mp (perm_middle.mem_iff.mp is_best.mem) with rfl | best_mem
    · exact absurd shorter (UInt8.lt_irrefl _)
    · exact best_mem
  obtain ⟨front', back', split⟩ := append_of_mem best_mem
  refine ⟨other :: best :: (front' ++ back'), ?_, ?_⟩
  · refine Perm.trans ?_ perm_middle.symm
    rw [split]
    exact Perm.cons other perm_middle.symm
  · have covered : (other :: best :: (front' ++ back')).filter (coversHost host routeTable) =
        other :: best :: (front' ++ back').filter (coversHost host routeTable) := by
      rw [filter_cons, if_pos covers, filter_cons, if_pos is_best.covers]
    have found : getDirectRouteForHost host routeTable (other :: best :: (front' ++ back')) ≠
        none := by
      rw [getDirectRouteForHost_eq nonzero, covered, Ne, DisplacingScan.scan_eq_none]
      exact cons_ne_nil _ _
    obtain ⟨answer, answer_eq⟩ := ne_none_iff_exists'.mp found
    refine ⟨answer, answer_eq, fun same => ?_⟩
    -- The answer is not passed over, although the shorter route at the front holds it back.
    rw [getDirectRouteForHost_eq nonzero, covered] at answer_eq
    obtain ⟨passed, rest, passed_eq, not_passed⟩ :=
      DisplacingScan.exists_of_scan keepsPlace_inherits answer_eq
    have plen : answer.plen = best.plen := congrArg Prod.fst same
    have metric : answer.metric = best.metric := congrArg Prod.snd same
    cases passed with
    | nil =>
      obtain rfl : other = answer := (List.cons.inj passed_eq).1
      exact absurd (plen ▸ shorter) (UInt8.lt_irrefl _)
    | cons first passed =>
      obtain rfl : other = first := (List.cons.inj passed_eq).1
      have held : IPConfig.keepsPlace other answer = true := by
        simp [IPConfig.keepsPlace, metric, cheaper]
      rw [reverse_cons, DisplacingScan.passedOver_of_first passed.reverse held] at not_passed
      cases not_passed

/-- Every answer has the prefix length and the metric of the longest match, in every order, if a
shorter prefix is dearer. -/
theorem ShorterIsDearer.isLongestMatch (dearer : ShorterIsDearer host routeTable routes)
    {order : List NMPlatformIP4Route} (perm : order.Perm routes) {answer : NMPlatformIP4Route}
    (answer_eq : getDirectRouteForHost host routeTable order = some answer) :
    IsLongestMatch host routeTable routes answer := by
  have nonzero : host ≠ 0 := by
    intro zero
    rw [getDirectRouteForHost, if_pos zero] at answer_eq
    cases answer_eq
  have found := answer_eq
  rw [getDirectRouteForHost_eq nonzero] at found
  obtain ⟨front, back, split, _⟩ := DisplacingScan.exists_of_scan keepsPlace_inherits found
  have listed : answer ∈ order.filter (coversHost host routeTable) := by
    rw [split]
    exact mem_append_right _ mem_cons_self
  obtain ⟨mem, covers⟩ := mem_filter.mp listed
  obtain ⟨best, is_best⟩ := exists_isLongestMatch mem covers
  obtain ⟨front, first, back, split, is_first, none_before⟩ := is_best.exists_first
  have free : ∀ other ∈ front.reverse, IPConfig.keepsPlace other first = false := by
    intro other other_mem
    rw [mem_reverse] at other_mem
    have other_listed : other ∈ order.filter (coversHost host routeTable) := by
      rw [split]
      exact mem_append_left _ other_mem
    obtain ⟨in_order, other_covers⟩ := mem_filter.mp other_listed
    have longest := is_first.longest other in_order other_covers
    have dearer_metric : first.metric < other.metric := by
      rcases UInt8.lt_or_eq_of_le longest with shorter | same
      · exact dearer first (is_first.perm perm) other (perm.mem_iff.mp in_order) other_covers
          shorter
      · -- A route of the same length that comes before the first longest match is dearer too.
        have least := is_first.least other in_order other_covers same
        rcases UInt32.lt_or_eq_of_le least with less | equal
        · exact less
        · exact absurd (is_first.of_rank_eq in_order other_covers
            (Prod.ext same equal.symm)) (none_before other other_mem)
    simp only [IPConfig.keepsPlace, Bool.or_eq_false_iff, decide_eq_false_iff_not]
    exact ⟨UInt8.not_lt.mpr longest, UInt32.not_le.mpr dearer_metric⟩
  have kept : DisplacingScan.scan IPConfig.keepsPlace (front ++ first :: back) = some first := by
    refine DisplacingScan.scan_of_holds keepsPlace_inherits
      (DisplacingScan.passedOver_eq_false free) fun item item_mem => ?_
    refine is_first.keepsPlace item ?_
    rw [split]
    exact mem_append_right _ (mem_cons_of_mem first item_mem)
  rw [getDirectRouteForHost_eq nonzero, split, kept] at answer_eq
  obtain rfl := Option.some.inj answer_eq
  exact is_first.perm perm

/-- The lookup finds the longest match in every order exactly if no route covers the host, or the
host is not zero and shorter prefixes are dearer. -/
theorem all_orders_isLongestMatchLookup_iff :
    (∀ order, order.Perm routes → IsLongestMatchLookup host routeTable order
        (getDirectRouteForHost host routeTable order)) ↔
      (∀ route ∈ routes, coversHost host routeTable route = false) ∨
        (host ≠ 0 ∧ ShorterIsDearer host routeTable routes) := by
  constructor
  · intro all_orders
    refine or_iff_not_imp_left.mpr fun covered => ?_
    have nonzero : host ≠ 0 := by
      intro zero
      have nothing : getDirectRouteForHost host routeTable routes = none := if_pos zero
      exact covered ((all_orders routes (.refl routes)).1.mp nothing)
    refine ⟨nonzero, fun best is_best other mem covers shorter => ?_⟩
    by_contra cheaper
    obtain ⟨order, perm, answer, answer_eq, other_rank⟩ :=
      exists_order_missed nonzero is_best mem covers shorter (UInt32.not_lt.mp cheaper)
    have is_answer := ((all_orders order perm).2 answer answer_eq).perm perm
    exact other_rank (is_answer.rank_eq is_best)
  · rintro (uncovered | ⟨nonzero, dearer⟩) order perm
    · exact (isLongestMatchLookup_iff order).mpr
        (.inl fun route mem => uncovered route (perm.mem_iff.mp mem))
    · refine ⟨getDirectRouteForHost_eq_none nonzero, fun answer answer_eq => ?_⟩
      exact (dearer.isLongestMatch perm answer_eq).perm perm.symm

/-- The prefix length and the metric of the answer do not depend on the order exactly if the host is
zero or shorter prefixes are dearer. -/
theorem order_independent_iff :
    (∀ order, order.Perm routes → (getDirectRouteForHost host routeTable order).map rank =
        (getDirectRouteForHost host routeTable routes).map rank) ↔
      host = 0 ∨ ShorterIsDearer host routeTable routes := by
  by_cases zero : host = 0
  · have nothing (order : List NMPlatformIP4Route) :
        getDirectRouteForHost host routeTable order = none := if_pos zero
    exact ⟨fun _ => .inl zero, fun _ order _ => by rw [nothing, nothing]⟩
  · rw [or_iff_right zero]
    constructor
    · intro independent best is_best other mem covers shorter
      by_contra cheaper
      obtain ⟨order, perm, best_eq⟩ := exists_order_found zero is_best
      obtain ⟨order', perm', answer, answer_eq, other_rank⟩ :=
        exists_order_missed zero is_best mem covers shorter (UInt32.not_lt.mp cheaper)
      have same := (independent order' perm').trans (independent order perm).symm
      rw [answer_eq, best_eq] at same
      exact other_rank (Option.some.inj same)
    · intro dearer order perm
      have none_iff : getDirectRouteForHost host routeTable order = none ↔
          getDirectRouteForHost host routeTable routes = none := by
        rw [getDirectRouteForHost_eq_none zero, getDirectRouteForHost_eq_none zero]
        exact forall_congr' fun route => by rw [perm.mem_iff]
      cases answer_eq : getDirectRouteForHost host routeTable order with
      | none => rw [none_iff.mp answer_eq]
      | some answer =>
        have found : getDirectRouteForHost host routeTable routes ≠ none := by
          rw [Ne, ← none_iff, answer_eq]
          exact some_ne_none answer
        obtain ⟨other, other_eq⟩ := ne_none_iff_exists'.mp found
        rw [other_eq]
        exact congrArg some ((dearer.isLongestMatch perm answer_eq).rank_eq
          (dearer.isLongestMatch (.refl routes) other_eq))

/-- Of every configuration, the lookup is the one of a longest matching prefix exactly if no route
covers the host, or the host is not zero and a longest match is not passed over in the order of the
routes.  It is so in all orders of the routes exactly if shorter prefixes are dearer, and this is
also when the answer does not depend on the order. -/
theorem getDirectRouteForHost_longestMatch_iff (self : NMIP4ConfigPrivate) (host : InAddr)
    (routeTable : UInt32) :
    let routes := objs self.routeConfig.routes
    (IsLongestMatchLookup host routeTable routes (getDirectRouteForHost host routeTable routes) ↔
      (∀ route ∈ routes, coversHost host routeTable route = false) ∨
        (host ≠ 0 ∧ ∃ front best back,
          routes.filter (coversHost host routeTable) = front ++ best :: back ∧
          IsLongestMatch host routeTable routes best ∧
          DisplacingScan.passedOver keepsPlace front.reverse best = false)) ∧
    ((∀ order, order.Perm routes → IsLongestMatchLookup host routeTable order
        (getDirectRouteForHost host routeTable order)) ↔
      (∀ route ∈ routes, coversHost host routeTable route = false) ∨
        (host ≠ 0 ∧ ShorterIsDearer host routeTable routes)) ∧
    ((∀ order, order.Perm routes → (getDirectRouteForHost host routeTable order).map rank =
        (getDirectRouteForHost host routeTable routes).map rank) ↔
      host = 0 ∨ ShorterIsDearer host routeTable routes) :=
  ⟨isLongestMatchLookup_iff _, all_orders_isLongestMatchLookup_iff, order_independent_iff⟩

/-- A route without a gateway in the main table. -/
def onLinkRoute (network : InAddr) (plen : UInt8) (metric : UInt32) : NMPlatformIP4Route :=
  { exampleRoute 262 0 with network := network, plen := plen, metric := metric, gateway := 0 }

/-- The network 10.0.0.0/8 is added before 10.1.0.0/16, which has a greater metric. -/
def wideFirst : List Ip4Call :=
  [.addRoute 0 (onLinkRoute 0x0000000A 8 100), .addRoute 0 (onLinkRoute 0x0000010A 16 200)]

theorem wideFirst_lawful : ip4Machine.Lawful (ip4Start fun _ => 1) wideFirst := by
  have wide : routeValid (onLinkRoute 0x0000000A 8 100) = true := by decide
  have narrow : routeValid (onLinkRoute 0x0000010A 16 200) = true := by decide
  exact ⟨wide, narrow, trivial⟩

/-- The wider network is found for 10.1.0.1, although the narrower one covers it; in the other order
the narrower one is found. -/
theorem getDirectRouteForHost_longestMatch_fails :
    let self := reachedConfig _ wideFirst_lawful 0
    let routes := objs self.routeConfig.routes
    routes = [onLinkRoute 0x0000000A 8 100, onLinkRoute 0x0000010A 16 200] ∧
      coversHost 0x0100010A 254 (onLinkRoute 0x0000010A 16 200) = true ∧
      getDirectRouteForHost 0x0100010A 254 routes = some (onLinkRoute 0x0000000A 8 100) ∧
      getDirectRouteForHost 0x0100010A 254 routes.reverse = some (onLinkRoute 0x0000010A 16 200) ∧
      ¬ IsLongestMatchLookup 0x0100010A 254 routes
        (getDirectRouteForHost 0x0100010A 254 routes) := by
  have routes_eq : objs (reachedConfig _ wideFirst_lawful 0).routeConfig.routes =
      [onLinkRoute 0x0000000A 8 100, onLinkRoute 0x0000010A 16 200] := by decide
  have covers : coversHost 0x0100010A 254 (onLinkRoute 0x0000010A 16 200) = true := by decide
  dsimp only
  rw [routes_eq]
  have found : getDirectRouteForHost 0x0100010A 254
      [onLinkRoute 0x0000000A 8 100, onLinkRoute 0x0000010A 16 200] =
        some (onLinkRoute 0x0000000A 8 100) := by decide
  refine ⟨rfl, covers, found, by decide, fun lookup => ?_⟩
  have longest := (lookup.2 _ found).longest (onLinkRoute 0x0000010A 16 200) (by simp) covers
  exact absurd longest (by decide)

end NetworkManager.IPConfig
