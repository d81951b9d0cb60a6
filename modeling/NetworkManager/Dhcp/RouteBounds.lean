import NetworkManager.Dhcp.ClasslessRoutes
import NetworkManager.Platform.RouteNormalize

/-!
# Bounds of the parsers of classless routes

A DHCP server chooses the numbers.  The parsers walk through an array of tokens that ends with
`NULL`.  Here they read the array by index, and a read that leaves it is an error.  None of them
leaves the array, and only well-formed routes are added, although the check of a prefix length lets
negative numbers pass.
-/

namespace NetworkManager.Dhcp

open Ascii IPConfig InetAddress List Option

section Arrays

variable (inetPton : List Char → Option InAddr) (routeTable routeMetric : UInt32)
  (tokens : List (List Char))

/-- A pointer in the array, the one at the end included. -/
def pointerAt (place : Nat) : Option (Option (List Char)) :=
  if place ≤ tokens.length then some tokens[place]? else none

def stringsAt (place : Nat) : Nat → Option (List (List Char))
  | 0 => some []
  | count + 1 => tokens[place]?.bind fun token =>
    (stringsAt (place + 1) count).map (token :: ·)

/-- One turn of the loop in `ip4_process_dhcpcd_rfc3442_routes`.  The gateway is read last. -/
def dhcpcdTurn (r : Nat) (network : List Char) (parsed : Parsed) : Option Parsed :=
  if (dhcpcdCidr (cutAt '/' network).2).isNone || (inetPton (cutAt '/' network).1).isNone then
    some parsed
  else
    tokens[r + 1]?.map fun gateway =>
      dhcpcdRoute inetPton routeTable routeMetric network gateway parsed

theorem lt_of_pointerAt {place : Nat} {token : List Char}
    (read : pointerAt tokens place = some (some token)) : place < tokens.length := by
  unfold pointerAt at read
  split at read
  · exact (List.getElem?_eq_some_iff.mp (Option.some.inj read)).1
  · cases read

/-- The loop in `ip4_process_dhcpcd_rfc3442_routes`. -/
def dhcpcdLoop (r : Nat) (parsed : Parsed) : Option Parsed :=
  match _read : pointerAt tokens r with
  | none => none
  | some none => some parsed
  | some (some network) =>
    (dhcpcdTurn inetPton routeTable routeMetric tokens r network parsed).bind fun parsed =>
      dhcpcdLoop (r + 2) parsed
  termination_by tokens.length - r
  decreasing_by
    have := lt_of_pointerAt tokens _read
    omega

/-- `process_dhclient_rfc3442_route`: the route and the place after it, if there is one. -/
def processRouteAt (o : Nat) (first : List Char) :
    Option (Option ((InAddr × UInt8 × InAddr) × Nat)) :=
  let plen := strToInt64 first 10 0 32 (-1)
  let o := o + 1
  if plen = -1 then some none
  else if tokens.length - o < addrLen plen + 4 then some none
  else
    (stringsAt tokens o (addrLen plen)).bind fun addr =>
      match dhclientNetwork inetPton plen addr with
      | none => some none
      | some network =>
        (stringsAt tokens (o + addrLen plen) 4).map fun nextHop =>
          (inetPton (joinDots nextHop)).map fun gateway =>
            ((network, UInt8.ofInt plen, gateway), o + addrLen plen + 4)

theorem lt_of_processRouteAt {o next : Nat} {first : List Char} {route : InAddr × UInt8 × InAddr}
    (read : processRouteAt inetPton tokens o first = some (some (route, next))) : o < next := by
  unfold processRouteAt at read
  dsimp only at read
  split at read
  · cases read
  split at read
  · cases read
  obtain ⟨addr, -, read⟩ := bind_eq_some_iff.mp read
  split at read
  · cases read
  obtain ⟨nextHop, -, read⟩ := map_eq_some_iff.mp read
  obtain ⟨gateway, -, same⟩ := map_eq_some_iff.mp read
  obtain ⟨_, rfl⟩ := Prod.mk.inj same
  omega

/-- What the loop in `ip4_process_dhclient_rfc3442_routes` makes of a route. -/
def dhclientApply (parsed : Parsed) (route : InAddr × UInt8 × InAddr) : Parsed :=
  if route.2.1 = 0 then { parsed with haveRoutes := true, gwaddr := route.2.2 }
  else
    { parsed with
      haveRoutes := true
      ip4Config := ip4ConfigAddRoute parsed.ip4Config
        (dhcpRoute routeTable routeMetric route.1 route.2.1 route.2.2) }

/-- The loop in `ip4_process_dhclient_rfc3442_routes`. -/
def dhclientLoop (o : Nat) (parsed : Parsed) : Option Parsed :=
  match _inside : pointerAt tokens o with
  | none => none
  | some none => some parsed
  | some (some first) =>
    match _read : processRouteAt inetPton tokens o first with
    | none => none
    | some none => some parsed
    | some (some (route, next)) =>
      dhclientLoop next (dhclientApply routeTable routeMetric parsed route)
  termination_by tokens.length - o
  decreasing_by
    have := lt_of_pointerAt tokens _inside
    have := lt_of_processRouteAt inetPton tokens _read
    omega

/-- `ip4_process_classless_routes` on arrays. -/
def ip4ProcessClasslessRoutesAt (options : String → Option (List Char))
    (ip4Config : NMIP4ConfigPrivate) : Option Parsed :=
  let nothing : Parsed := ⟨false, ip4Config, 0⟩
  match classlessRoutesOption options with
  | none => some nothing
  | some str =>
    if str = [] then some nothing
    else if str.any fun c => !(c.isDigit || c == ' ' || c == '.' || c == '/') then some nothing
    else if '/' ∈ str then
      let routes := strsplit str
      if routes.length = 0 ∨ routes.length % 2 ≠ 0 then some nothing
      else dhcpcdLoop inetPton routeTable routeMetric routes 0 nothing
    else
      let octets := strsplitSet str
      if octets.length < 5 then some nothing
      else dhclientLoop inetPton routeTable routeMetric octets 0 nothing

end Arrays

section Bounds

variable {inetPton : List Char → Option InAddr} {routeTable routeMetric : UInt32}
  {tokens : List (List Char)}

theorem stringsAt_eq {place count : Nat} (inside : place + count ≤ tokens.length) :
    stringsAt tokens place count = some ((tokens.drop place).take count) := by
  induction count generalizing place with
  | zero => rfl
  | succ count ih =>
    have here : place < tokens.length := by omega
    rw [stringsAt, List.getElem?_eq_getElem here, bind_some, ih (by omega),
      drop_eq_getElem_cons here, take_succ_cons, map_some]

theorem dhcpcdTurn_eq {r : Nat} {network gateway : List Char}
    (next : tokens[r + 1]? = some gateway) (parsed : Parsed) :
    dhcpcdTurn inetPton routeTable routeMetric tokens r network parsed =
      some (dhcpcdRoute inetPton routeTable routeMetric network gateway parsed) := by
  unfold dhcpcdTurn dhcpcdRoute
  rw [next]
  rcases cutAt '/' network with ⟨address, slash⟩
  dsimp only
  rcases dhcpcdCidr slash with _ | cidr
  · rfl
  · rcases inetPton address with _ | addr <;> rfl

theorem pointerAt_eq {place : Nat} (inside : place ≤ tokens.length) :
    pointerAt tokens place = some tokens[place]? := if_pos inside

theorem dhcpcdLoop_eq {r : Nat} (inside : r ≤ tokens.length)
    (even : (tokens.length - r) % 2 = 0) (parsed : Parsed) :
    dhcpcdLoop inetPton routeTable routeMetric tokens r parsed =
      some (dhcpcdRoutes inetPton routeTable routeMetric (tokens.drop r) parsed) := by
  fun_induction dhcpcdLoop inetPton routeTable routeMetric tokens r parsed with
  | case1 r parsed read =>
    rw [pointerAt_eq inside] at read
    cases read
  | case2 r parsed read =>
    rw [pointerAt_eq inside] at read
    have last := List.getElem?_eq_none_iff.mp (Option.some.inj read)
    rw [drop_eq_nil_of_le last]
    rfl
  | case3 r parsed network read ih =>
    rw [pointerAt_eq inside] at read
    obtain ⟨here, same⟩ := List.getElem?_eq_some_iff.mp (Option.some.inj read)
    have next : r + 1 < tokens.length := by omega
    rw [dhcpcdTurn_eq (List.getElem?_eq_getElem next), bind_some, ih _ (by omega) (by omega),
      drop_eq_getElem_cons here, drop_eq_getElem_cons next, same]
    rfl

theorem processRouteAt_eq (inetPton : List Char → Option InAddr) {o : Nat} {first : List Char} (here : tokens[o]? = some first) :
    (processDhclientRfc3442Route inetPton (tokens.drop o) = none ∧
        processRouteAt inetPton tokens o first = some none) ∨
      ∃ route next, next ≤ tokens.length ∧
        processDhclientRfc3442Route inetPton (tokens.drop o) = some (route, tokens.drop next) ∧
        processRouteAt inetPton tokens o first = some (some (route, next)) := by
  obtain ⟨inside, same⟩ := List.getElem?_eq_some_iff.mp here
  rw [drop_eq_getElem_cons inside, same]
  unfold processDhclientRfc3442Route processRouteAt
  dsimp only
  generalize strToInt64 first 10 0 32 (-1) = plen
  rw [length_drop]
  split
  · exact .inl ⟨rfl, rfl⟩
  split
  · exact .inl ⟨rfl, rfl⟩
  rw [stringsAt_eq (by omega), stringsAt_eq (by omega), bind_some]
  rcases dhclientNetwork inetPton plen ((tokens.drop (o + 1)).take (addrLen plen)) with _ | network
  · exact .inl ⟨rfl, rfl⟩
  dsimp only
  rw [drop_drop, map_some]
  rcases inetPton (joinDots ((tokens.drop (o + 1 + addrLen plen)).take 4)) with _ | gateway
  · exact .inl ⟨rfl, rfl⟩
  · refine .inr ⟨_, o + 1 + addrLen plen + 4, by omega, ?_, rfl⟩
    dsimp only
    rw [drop_drop, Nat.add_assoc (o + 1)]

theorem dhclientRoutes_none {o : List (List Char)}
    (read : processDhclientRfc3442Route inetPton o = none) (parsed : Parsed) :
    dhclientRoutes inetPton routeTable routeMetric o parsed = parsed := by
  rw [dhclientRoutes]
  split
  · rfl
  · split
    · rfl
    · rename_i other
      rw [read] at other
      cases other

theorem dhclientRoutes_some {o rest : List (List Char)} {route : InAddr × UInt8 × InAddr}
    (read : processDhclientRfc3442Route inetPton o = some (route, rest)) (parsed : Parsed) :
    dhclientRoutes inetPton routeTable routeMetric o parsed =
      dhclientRoutes inetPton routeTable routeMetric rest
        (dhclientApply routeTable routeMetric parsed route) := by
  rw [dhclientRoutes]
  split
  · rename_i empty
    rw [empty] at read
    cases read
  · split
    · rename_i other
      rw [read] at other
      cases other
    · rename_i other
      rw [read] at other
      obtain ⟨rfl, rfl⟩ := Prod.mk.inj (Option.some.inj other)
      unfold dhclientApply
      split <;> rfl

theorem dhclientLoop_eq {o : Nat} (inside : o ≤ tokens.length) (parsed : Parsed) :
    dhclientLoop inetPton routeTable routeMetric tokens o parsed =
      some (dhclientRoutes inetPton routeTable routeMetric (tokens.drop o) parsed) := by
  fun_induction dhclientLoop inetPton routeTable routeMetric tokens o parsed with
  | case1 o parsed read =>
    rw [pointerAt_eq inside] at read
    cases read
  | case2 o parsed read =>
    rw [pointerAt_eq inside] at read
    rw [drop_eq_nil_of_le (List.getElem?_eq_none_iff.mp (Option.some.inj read)),
      dhclientRoutes, if_pos rfl]
  | case3 o parsed first here read =>
    rw [pointerAt_eq inside] at here
    rcases processRouteAt_eq inetPton (Option.some.inj here) with
      ⟨-, same⟩ | ⟨route, next, -, -, same⟩
    · rw [same] at read
      cases read
    · rw [same] at read
      cases read
  | case4 o parsed first here read =>
    rw [pointerAt_eq inside] at here
    rcases processRouteAt_eq inetPton (Option.some.inj here) with
      ⟨refused, -⟩ | ⟨route, next, -, -, same⟩
    · rw [dhclientRoutes_none refused]
    · rw [same] at read
      cases read
  | case5 o parsed first here route next read ih =>
    rw [pointerAt_eq inside] at here
    rcases processRouteAt_eq inetPton (Option.some.inj here) with
      ⟨-, same⟩ | ⟨_, _, within, listed, same⟩
    · rw [same] at read
      cases read
    · rw [same] at read
      obtain ⟨rfl, rfl⟩ := Prod.mk.inj (Option.some.inj (Option.some.inj read))
      rw [ih within, dhclientRoutes_some listed]

theorem ip4ProcessClasslessRoutesAt_eq (options : String → Option (List Char))
    (ip4Config : NMIP4ConfigPrivate) :
    ip4ProcessClasslessRoutesAt inetPton routeTable routeMetric options ip4Config =
      some (ip4ProcessClasslessRoutes inetPton routeTable routeMetric options ip4Config) := by
  unfold ip4ProcessClasslessRoutesAt ip4ProcessClasslessRoutes ip4ProcessDhcpcdRfc3442Routes
    ip4ProcessDhclientRfc3442Routes
  rcases classlessRoutesOption options with _ | str
  · rfl
  dsimp only
  split
  · rfl
  split
  · rfl
  split
  · split
    · rfl
    · rename_i even
      rw [dhcpcdLoop_eq (Nat.zero_le _) (by omega), drop_zero]
  · split
    · rfl
    · rw [dhclientLoop_eq (Nat.zero_le _), drop_zero]

/-- The configuration has become what it is by adding well-formed routes. -/
def Grown (ip4Config : NMIP4ConfigPrivate) (parsed : Parsed) : Prop :=
  ∃ added : List NMPlatformIP4Route, (∀ route ∈ added, routeValid route = true) ∧
    parsed.ip4Config = { ip4Config with routeConfig := added.foldl addRoute ip4Config.routeConfig }

-- A prefix length beyond the limit is refused only here.
variable {ip4Config : NMIP4ConfigPrivate} {parsed : Parsed}

theorem Grown.addMasked (grown : Grown ip4Config parsed) (network : InAddr) (plen : UInt8)
    (gateway : InAddr) :
    Grown ip4Config
      { parsed with
        haveRoutes := true
        ip4Config := ip4ConfigAddRoute parsed.ip4Config (dhcpRoute routeTable routeMetric
          (ip4AddressClearHostAddress network plen) plen gateway) } := by
  obtain ⟨added, valid, same⟩ := grown
  unfold ip4ConfigAddRoute ipConfigAddRoute
  split
  · rename_i accepted
    refine ⟨added ++ [dhcpRoute routeTable routeMetric
      (ip4AddressClearHostAddress network plen) plen gateway], ?_, ?_⟩
    · intro route member
      rcases mem_append.mp member with old | new
      · exact valid route old
      · obtain rfl := mem_singleton.mp new
        exact decide_eq_true ⟨accepted.1, (ip4AddressClearHostAddress_twice _ _).symm⟩
    · rw [foldl_append, foldl_cons, foldl_nil, same]
  · exact ⟨added, valid, same⟩

theorem dhcpcdRoute_grown (grown : Grown ip4Config parsed) (network gateway : List Char) :
    Grown ip4Config (dhcpcdRoute inetPton routeTable routeMetric network gateway parsed) := by
  unfold dhcpcdRoute
  dsimp only
  split
  · split
    · exact grown
    · exact grown.addMasked _ _ _
  · exact grown

theorem dhcpcdRoutes_grown (grown : Grown ip4Config parsed) (routes : List (List Char)) :
    Grown ip4Config (dhcpcdRoutes inetPton routeTable routeMetric routes parsed) := by
  fun_induction dhcpcdRoutes inetPton routeTable routeMetric routes parsed with
  | case1 network gateway routes parsed ih => exact ih (dhcpcdRoute_grown grown network gateway)
  | case2 => exact grown

theorem dhclientNetwork_masked {plen : Int} {o : List (List Char)} {network : InAddr}
    (read : dhclientNetwork inetPton plen o = some network) :
    ∃ addr, network = ip4AddressClearHostAddress addr (UInt8.ofInt plen) := by
  unfold dhclientNetwork at read
  split at read
  · obtain ⟨addr, -, masked⟩ := map_eq_some_iff.mp read
    exact ⟨addr, masked.symm⟩
  · obtain rfl := Option.some.inj read
    exact ⟨0, (UInt32.zero_and).symm⟩

theorem processDhclientRfc3442Route_masked {o rest : List (List Char)}
    {route : InAddr × UInt8 × InAddr}
    (read : processDhclientRfc3442Route inetPton o = some (route, rest)) :
    ∃ addr, route.1 = ip4AddressClearHostAddress addr route.2.1 := by
  rcases o with _ | ⟨first, o⟩
  · cases read
  unfold processDhclientRfc3442Route at read
  dsimp only at read
  split at read
  · cases read
  split at read
  · cases read
  split at read
  · rename_i networkFound _
    obtain ⟨rfl, -⟩ := Prod.mk.inj (Option.some.inj read)
    exact dhclientNetwork_masked networkFound
  · cases read

theorem dhclientRoutes_grown (grown : Grown ip4Config parsed) (o : List (List Char)) :
    Grown ip4Config (dhclientRoutes inetPton routeTable routeMetric o parsed) := by
  fun_induction dhclientRoutes inetPton routeTable routeMetric o parsed with
  | case1 => exact grown
  | case2 => exact grown
  | case3 o parsed _ _ gateway rest _ ih => exact ih grown
  | case4 o parsed _ network plen gateway rest read _ ih =>
    obtain ⟨addr, masked⟩ := processDhclientRfc3442Route_masked read
    dsimp only at masked
    rw [masked] at ih ⊢
    exact ih (grown.addMasked addr plen gateway)

/-- Whatever the option holds, no token beyond the end is read, and only well-formed routes are
added. -/
theorem ip4ProcessClasslessRoutesAt_grown (inetPton : List Char → Option InAddr)
    (routeTable routeMetric : UInt32) (options : String → Option (List Char))
    (ip4Config : NMIP4ConfigPrivate) :
    ∃ parsed,
      ip4ProcessClasslessRoutesAt inetPton routeTable routeMetric options ip4Config = some parsed ∧
      Grown ip4Config parsed := by
  refine ⟨_, ip4ProcessClasslessRoutesAt_eq options ip4Config, ?_⟩
  have nothing : Grown ip4Config ⟨false, ip4Config, 0⟩ := ⟨[], by simp, rfl⟩
  unfold ip4ProcessClasslessRoutes ip4ProcessDhcpcdRfc3442Routes ip4ProcessDhclientRfc3442Routes
  rcases classlessRoutesOption options with _ | str
  · exact nothing
  dsimp only
  split
  · exact nothing
  split
  · exact nothing
  split
  · split
    · exact nothing
    · exact dhcpcdRoutes_grown nothing _
  · split
    · exact nothing
    · exact dhclientRoutes_grown nothing _

end Bounds

end NetworkManager.Dhcp
