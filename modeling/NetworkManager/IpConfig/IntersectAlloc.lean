import NetworkManager.IpConfig.BestRoute
import NetworkManager.IpConfig.Calls

/-!
# The intersection of configurations, with and without a copy

`_nm_ip4_config_intersect_helper` serves `nm_ip4_config_intersect` and the dry run of
`nm_ip4_config_intersect_alloc`.  The dry run returns when it finds something to remove; when it does
not, it goes on to set the best default route.
-/

namespace NetworkManager.IPConfig

/-- A loop of `_nm_ip4_config_intersect_helper`: the entries that are kept and `changed`, or nothing
if a dry run returns. -/
def keepFound {α : Type} (found : α → Bool) (updateDst : Bool) :
    List (Entry α) → Option (List (Entry α) × Bool)
  | [] => some ([], false)
  | entry :: entries =>
    if found entry.obj then
      (keepFound found updateDst entries).map fun (kept, changed) => (entry :: kept, changed)
    else if !updateDst then none
    else (keepFound found updateDst entries).map fun (kept, _) => (kept, true)

/-- `_nm_ip4_config_intersect_helper`: the first configuration afterwards, and the result. -/
def ip4ConfigIntersectHelper (dst src : NMIP4ConfigPrivate) (intersectAddresses intersectRoutes : Bool)
    (penalty : UInt32) (updateDst : Bool) : NMIP4ConfigPrivate × Bool :=
  let addresses :=
    if intersectAddresses then
      keepFound (fun address => (lookupObj src.addresses address).isSome) updateDst dst.addresses
    else some (dst.addresses, false)
  match addresses with
  | none => (dst, true)
  | some (addresses, addressesChanged) =>
    let dst := { dst with addresses := addresses }
    if !intersectRoutes then (dst, addressesChanged)
    else
      match keepFound (fun route =>
          (lookupObj src.routeConfig.routes (penalized penalty route)).isSome) updateDst
          dst.routeConfig.routes with
      | none => (dst, true)
      | some (routes, routesChanged) =>
        let newBestDefaultRoute := (objs routes).foldl
          (fun best route => bestDefaultRouteFindBetter best (some route)) none
        ({ dst with
            routeConfig :=
              { dst.routeConfig with
                routes := routes
                bestDefaultRoute := newBestDefaultRoute } },
          addressesChanged || routesChanged)

/-- `nm_ip4_config_clone`. -/
def ip4ConfigClone (self : NMIP4ConfigPrivate) : NMIP4ConfigPrivate :=
  (ip4ConfigReplace (ip4ConfigNew (-1)) self).config

/-- `nm_ip4_config_intersect_alloc`: the first configuration afterwards, and the result. -/
def ip4ConfigIntersectAlloc (a b : NMIP4ConfigPrivate) (intersectAddresses intersectRoutes : Bool)
    (penalty : UInt32) : NMIP4ConfigPrivate × Option NMIP4ConfigPrivate :=
  let (a, different) :=
    ip4ConfigIntersectHelper a b intersectAddresses intersectRoutes penalty false
  if different then
    (a, some (ip4ConfigIntersectHelper (ip4ConfigClone a) b intersectAddresses intersectRoutes
      penalty true).1)
  else (a, none)

section Loops

variable {α : Type} {found : α → Bool}

theorem keepFound_update (entries : List (Entry α)) :
    keepFound found true entries = some (entries.filter (fun entry => found entry.obj),
      entries.any fun entry => !found entry.obj) := by
  induction entries with
  | nil => rfl
  | cons entry entries ih =>
    rw [keepFound, ih]
    cases is_found : found entry.obj with
    | true => simp [is_found]
    | false => simp [is_found]

theorem keepFound_dry (entries : List (Entry α)) :
    keepFound found false entries =
      if ∀ obj ∈ objs entries, found obj = true then some (entries, false) else none := by
  induction entries with
  | nil => rfl
  | cons entry entries ih =>
    rw [keepFound, ih]
    cases is_found : found entry.obj with
    | true =>
      by_cases all : ∀ obj ∈ objs entries, found obj = true
      · have all_found : ∀ obj ∈ objs (entry :: entries), found obj = true :=
          List.forall_mem_cons.mpr ⟨is_found, all⟩
        rw [if_pos rfl, if_pos all, if_pos all_found]
        rfl
      · have not_all : ¬ ∀ obj ∈ objs (entry :: entries), found obj = true :=
          fun all_found => all (List.forall_mem_cons.mp all_found).2
        rw [if_pos rfl, if_neg all, if_neg not_all]
        rfl
    | false =>
      have not_all : ¬ ∀ obj ∈ objs (entry :: entries), found obj = true := by
        intro all_found
        have first := (List.forall_mem_cons.mp all_found).1
        rw [is_found] at first
        cases first
      rw [if_neg Bool.false_ne_true, if_neg not_all]
      rfl

end Loops

/-- The helper that updates is `nm_ip4_config_intersect`. -/
theorem ip4ConfigIntersectHelper_update (dst src : NMIP4ConfigPrivate)
    (intersectAddresses intersectRoutes : Bool) (penalty : UInt32) :
    (ip4ConfigIntersectHelper dst src intersectAddresses intersectRoutes penalty true).1 =
      ip4ConfigIntersect dst src intersectAddresses intersectRoutes penalty := by
  unfold ip4ConfigIntersectHelper ip4ConfigIntersect
  simp only [keepFound_update]
  cases intersectAddresses <;> cases intersectRoutes <;> rfl

section Intersection

variable (a b : NMIP4ConfigPrivate) (intersectAddresses intersectRoutes : Bool) (penalty : UInt32)

/-- All addresses and routes that are compared are in the other configuration. -/
structure NothingToRemove : Prop where
  addresses : intersectAddresses = true → ∀ address ∈ objs a.addresses,
    (lookupObj b.addresses address).isSome = true
  routes : intersectRoutes = true → ∀ route ∈ objs a.routeConfig.routes,
    (lookupObj b.routeConfig.routes (penalized penalty route)).isSome = true

/-- An intersection removes no address and no route. -/
def RemovesNothing (before after : NMIP4ConfigPrivate) : Prop :=
  objs after.addresses = objs before.addresses ∧
    objs after.routeConfig.routes = objs before.routeConfig.routes

/-- A configuration whose best default route was found again. -/
def withFoundBest (config : NMIP4ConfigPrivate) : NMIP4ConfigPrivate :=
  { config with
    routeConfig :=
      { config.routeConfig with bestDefaultRoute := bestDefaultRouteFind config.routeConfig.routes } }

theorem withFoundBest_eq_self (config : NMIP4ConfigPrivate) :
    withFoundBest config = config ↔ config.routeConfig.bestDefaultRoute =
      bestDefaultRouteFind config.routeConfig.routes := by
  constructor
  · intro same
    exact (congrArg (fun config => config.routeConfig.bestDefaultRoute) same).symm
  · intro tracked
    rw [withFoundBest, ← tracked]

variable {a b intersectAddresses intersectRoutes penalty}

/-- A dry run removes no address if there is none to remove. -/
theorem keepFound_addresses (addresses : intersectAddresses = true → ∀ address ∈ objs a.addresses,
      (lookupObj b.addresses address).isSome = true) :
    (if intersectAddresses then keepFound (fun address => (lookupObj b.addresses address).isSome)
        false a.addresses else some (a.addresses, false)) = some (a.addresses, false) := by
  split
  · rename_i compared
    rw [keepFound_dry, if_pos (addresses compared)]
  · rfl

theorem ip4ConfigIntersectHelper_dry_same
    (nothing : NothingToRemove a b intersectAddresses intersectRoutes penalty) :
    ip4ConfigIntersectHelper a b intersectAddresses intersectRoutes penalty false =
      (if intersectRoutes then withFoundBest a else a, false) := by
  rw [ip4ConfigIntersectHelper, keepFound_addresses nothing.addresses]
  cases compared : intersectRoutes with
  | false => rfl
  | true =>
    dsimp only
    rw [keepFound_dry, if_pos (nothing.routes compared)]
    rfl

theorem ip4ConfigIntersectHelper_dry_different
    (something : ¬ NothingToRemove a b intersectAddresses intersectRoutes penalty) :
    ip4ConfigIntersectHelper a b intersectAddresses intersectRoutes penalty false = (a, true) := by
  unfold ip4ConfigIntersectHelper
  by_cases addresses : intersectAddresses = true → ∀ address ∈ objs a.addresses,
      (lookupObj b.addresses address).isSome = true
  · rw [keepFound_addresses addresses]
    cases compared : intersectRoutes with
    | false =>
      have no_routes : intersectRoutes ≠ true := by simp [compared]
      exact absurd ⟨addresses, fun impossible => absurd impossible no_routes⟩ something
    | true =>
      dsimp only
      have missing : ¬ ∀ route ∈ objs a.routeConfig.routes,
          (lookupObj b.routeConfig.routes (penalized penalty route)).isSome = true :=
        fun routes => something ⟨addresses, fun _ => routes⟩
      rw [keepFound_dry, if_neg missing]
      rfl
  · obtain ⟨compared, missing⟩ := Classical.not_imp.mp addresses
    rw [if_pos compared, keepFound_dry, if_neg missing]

theorem removesNothing_iff :
    RemovesNothing a (ip4ConfigIntersect a b intersectAddresses intersectRoutes penalty) ↔
      NothingToRemove a b intersectAddresses intersectRoutes penalty := by
  have kept {α : Type} (entries : List (Entry α)) (found : α → Bool) :
      objs (entries.filter fun entry => found entry.obj) = objs entries ↔
        ∀ obj ∈ objs entries, found obj = true := by
    rw [objs_filter, List.filter_eq_self]
  unfold RemovesNothing ip4ConfigIntersect
  constructor
  · rintro ⟨addresses, routes⟩
    refine ⟨fun compared => ?_, fun compared => ?_⟩
    · rw [if_pos compared] at addresses
      exact (kept a.addresses _).mp addresses
    · rw [if_pos compared] at routes
      exact (kept a.routeConfig.routes _).mp routes
  · rintro ⟨addresses, routes⟩
    refine ⟨?_, ?_⟩
    · dsimp only
      split
      · rename_i compared
        exact (kept a.addresses _).mpr (addresses compared)
      · rfl
    · dsimp only
      split
      · rename_i compared
        exact (kept a.routeConfig.routes _).mpr (routes compared)
      · rfl

end Intersection

theorem ip4ConfigClone_objs {a : NMIP4ConfigPrivate} (valid : a.Valid) :
    objs (ip4ConfigClone a).addresses = objs a.addresses ∧
      objs (ip4ConfigClone a).routeConfig.routes = objs a.routeConfig.routes := by
  have content := content_replace valid (ip4ConfigNew (-1))
  exact ⟨congrArg Content.addresses content, congrArg Content.routes content⟩

/-- The answer is that nothing would be removed from a copy, or the copy from which it was removed;
an intersection keeps, in their order, the addresses and routes that are in the other configuration.
The first configuration stays as it is exactly if its best default route is the one that is found
among its routes, or routes are not compared, or there is something to remove. -/
theorem ip4ConfigIntersectAlloc_iff (a b : NMIP4Config) (intersectAddresses intersectRoutes : Bool)
    (penalty : UInt32) :
    let a := a.toNMIP4ConfigPrivate
    let b := b.toNMIP4ConfigPrivate
    let intersected :=
      ip4ConfigIntersect (ip4ConfigClone a) b intersectAddresses intersectRoutes penalty
    let after := ip4ConfigIntersectAlloc a b intersectAddresses intersectRoutes penalty
    (after.2 = none ↔ RemovesNothing (ip4ConfigClone a) intersected) ∧
      (∀ copy, after.2 = some copy → copy = intersected) ∧
      objs intersected.addresses = (objs a.addresses).filter (fun address =>
        !intersectAddresses || (lookupObj b.addresses address).isSome) ∧
      objs intersected.routeConfig.routes = (objs a.routeConfig.routes).filter (fun route =>
        !intersectRoutes || (lookupObj b.routeConfig.routes (penalized penalty route)).isSome) ∧
      (after.1 = a ↔ a.routeConfig.bestDefaultRoute = bestDefaultRouteFind a.routeConfig.routes ∨
        intersectRoutes = false ∨
        ¬ NothingToRemove a b intersectAddresses intersectRoutes penalty) := by
  dsimp only
  obtain ⟨addresses_eq, routes_eq⟩ := ip4ConfigClone_objs a.valid
  have same_nothing : NothingToRemove (ip4ConfigClone a.toNMIP4ConfigPrivate)
      b.toNMIP4ConfigPrivate intersectAddresses intersectRoutes penalty ↔ NothingToRemove
        a.toNMIP4ConfigPrivate b.toNMIP4ConfigPrivate intersectAddresses intersectRoutes
        penalty := by
    constructor
    · rintro ⟨addresses, routes⟩
      exact ⟨addresses_eq ▸ addresses, routes_eq ▸ routes⟩
    · rintro ⟨addresses, routes⟩
      exact ⟨addresses_eq ▸ addresses, routes_eq ▸ routes⟩
  rw [removesNothing_iff, same_nothing]
  have kept : objs (ip4ConfigIntersect (ip4ConfigClone a.toNMIP4ConfigPrivate)
        b.toNMIP4ConfigPrivate intersectAddresses intersectRoutes penalty).addresses =
      (objs a.addresses).filter (fun address =>
        !intersectAddresses || (lookupObj b.addresses address).isSome) ∧
      objs (ip4ConfigIntersect (ip4ConfigClone a.toNMIP4ConfigPrivate)
        b.toNMIP4ConfigPrivate intersectAddresses intersectRoutes penalty).routeConfig.routes =
      (objs a.routeConfig.routes).filter (fun route => !intersectRoutes ||
        (lookupObj b.routeConfig.routes (penalized penalty route)).isSome) := by
    rw [← addresses_eq, ← routes_eq, ip4ConfigIntersect]
    refine ⟨?_, ?_⟩
    · cases intersectAddresses with
      | true => exact objs_filter _ fun address => (lookupObj b.addresses address).isSome
      | false => simp
    · cases intersectRoutes with
      | true => exact objs_filter _ fun route =>
        (lookupObj b.routeConfig.routes (penalized penalty route)).isSome
      | false => simp
  unfold ip4ConfigIntersectAlloc
  by_cases nothing : NothingToRemove a.toNMIP4ConfigPrivate b.toNMIP4ConfigPrivate
      intersectAddresses intersectRoutes penalty
  · rw [ip4ConfigIntersectHelper_dry_same nothing]
    dsimp only
    rw [if_neg Bool.false_ne_true]
    refine ⟨iff_of_true rfl nothing, fun copy => nofun, kept.1, kept.2, ?_⟩
    cases intersectRoutes with
    | false => exact iff_of_true rfl (.inr (.inl rfl))
    | true =>
      rw [if_pos rfl, withFoundBest_eq_self]
      refine ⟨.inl, ?_⟩
      rintro (tracked | impossible | something)
      · exact tracked
      · cases impossible
      · exact absurd nothing something
  · rw [ip4ConfigIntersectHelper_dry_different nothing]
    refine ⟨iff_of_false (by simp) nothing, fun copy is_copy => ?_, kept.1, kept.2,
      iff_of_true rfl (.inr (.inr nothing))⟩
    rw [← Option.some.inj is_copy]
    exact ip4ConfigIntersectHelper_update _ _ _ _ _

/-- Two default routes of different sources, of which the first one is overwritten with a worse
one. -/
def overwrittenCalls : List Ip4Call :=
  [.addRoute 0 (exampleRoute 262 0), .addRoute 0 (exampleRoute 263 1),
    .addRoute 0 (exampleRoute 266 0)]

theorem overwrittenCalls_lawful : ip4Machine.Lawful (ip4Start fun _ => 1) overwrittenCalls := by
  have first : routeValid (exampleRoute 262 0) = true := by decide
  have second : routeValid (exampleRoute 263 1) = true := by decide
  have third : routeValid (exampleRoute 266 0) = true := by decide
  exact ⟨first, second, third, trivial⟩

/-- The best default route is out of date.  The intersection of the configuration with itself is
empty-handed, but it replaces the best default route of the configuration. -/
theorem ip4ConfigIntersectAlloc_changes :
    let a := (reachedConfig _ overwrittenCalls_lawful 0).toNMIP4ConfigPrivate
    let after := ip4ConfigIntersectAlloc a a true true 0
    after.2 = none ∧ a.routeConfig.bestDefaultRoute = some (exampleRoute 266 0) ∧
      after.1.routeConfig.bestDefaultRoute = some (exampleRoute 263 1) ∧ after.1 ≠ a := by
  have best : (reachedConfig _ overwrittenCalls_lawful 0).routeConfig.bestDefaultRoute =
      some (exampleRoute 266 0) := by decide
  have changed : (ip4ConfigIntersectAlloc
      (reachedConfig _ overwrittenCalls_lawful 0).toNMIP4ConfigPrivate
      (reachedConfig _ overwrittenCalls_lawful 0).toNMIP4ConfigPrivate true true
      0).1.routeConfig.bestDefaultRoute = some (exampleRoute 263 1) := by decide
  refine ⟨by decide, best, changed, fun same => ?_⟩
  rw [same, best] at changed
  exact absurd changed (by decide)

end NetworkManager.IPConfig
