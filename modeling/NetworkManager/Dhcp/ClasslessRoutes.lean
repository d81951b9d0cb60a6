import NetworkManager.Core.InetAddress
import NetworkManager.IpConfig.Config
import NetworkManager.Platform.PrefixOrder

/-!
# Classless routes of a DHCP lease

The clients give the classless routes as text, in one of two forms.  In the form of `dhclient` a
route is its prefix length, the significant bytes of its network and the bytes of its gateway,
without a mark where the next route begins.  In the form of `dhcpcd` a route is a network with its
prefix length and a gateway.  Each form has a parser of its own.  This file shows that both parsers
give the routes that were written.
-/

namespace NetworkManager.Dhcp

open Ascii IPConfig InetAddress List

/-- `NM_IP_CONFIG_SOURCE_DHCP`. -/
def ipConfigSourceDhcp : Nat := 264

/-- `nm_platform_route_table_coerce`. -/
def routeTableCoerce (table : UInt32) : UInt32 :=
  if table = 0 then 254 else if table = 254 then 0 else table

/-- A route of zeros with the fields that the parsers set. -/
def dhcpRoute (routeTable routeMetric : UInt32) (network : InAddr) (plen : UInt8)
    (gateway : InAddr) : NMPlatformIP4Route where
  ifindex := 0
  rtSource := ipConfigSourceDhcp
  plen := plen
  lockWindow := false
  lockCwnd := false
  lockInitcwnd := false
  lockInitrwnd := false
  lockMtu := false
  rRtmFlags := 0
  mss := 0
  window := 0
  cwnd := 0
  initcwnd := 0
  initrwnd := 0
  mtu := 0
  metric := routeMetric
  tableCoerced := routeTableCoerce routeTable
  network := network
  gateway := gateway
  prefSrc := 0
  tos := 0
  scopeInv := 0

/-- What a parser has done so far. -/
structure Parsed where
  haveRoutes : Bool
  ip4Config : NMIP4ConfigPrivate
  /-- `*gwaddr`. -/
  gwaddr : InAddr

section Parsers

-- `inet_pton` with `AF_INET` has no value here unless it returns 1.
variable (inetPton : List Char → Option InAddr) (routeTable routeMetric : UInt32)

/-- The prefix length in `ip4_process_dhcpcd_rfc3442_routes`, an `int` that `strtol` gives, unless
there is none. -/
def dhcpcdCidr : Option (List Char) → Option Int
  | none => some 32
  | some digits =>
    let cidr := (strtoll digits 10).value.bmod (2 ^ 32)
    if (strtoll digits 10).error ∨ cidr > 32 then none else some cidr

/-- One turn of the loop in `ip4_process_dhcpcd_rfc3442_routes`. -/
def dhcpcdRoute (network gateway : List Char) (parsed : Parsed) : Parsed :=
  let (address, slash) := cutAt '/' network
  match dhcpcdCidr slash, inetPton address, inetPton gateway with
  | some rtCidr, some rtAddr, some rtRoute =>
    if rtCidr = 0 ∧ rtAddr = 0 then { parsed with haveRoutes := true, gwaddr := rtRoute }
    else
      let plen := UInt8.ofInt rtCidr
      { parsed with
        haveRoutes := true
        ip4Config := ip4ConfigAddRoute parsed.ip4Config (dhcpRoute routeTable routeMetric
          (ip4AddressClearHostAddress rtAddr plen) plen rtRoute) }
  | _, _, _ => parsed

/-- The loop in `ip4_process_dhcpcd_rfc3442_routes`. -/
def dhcpcdRoutes : List (List Char) → Parsed → Parsed
  | network :: gateway :: routes, parsed =>
    dhcpcdRoutes routes (dhcpcdRoute inetPton routeTable routeMetric network gateway parsed)
  | _, parsed => parsed

/-- `g_strsplit` at blanks. -/
def strsplit (str : List Char) : List (List Char) := if str = [] then [] else str.splitOn ' '

/-- `ip4_process_dhcpcd_rfc3442_routes`. -/
def ip4ProcessDhcpcdRfc3442Routes (str : List Char) (parsed : Parsed) : Parsed :=
  let routes := strsplit str
  if routes.length = 0 ∨ routes.length % 2 ≠ 0 then parsed
  else dhcpcdRoutes inetPton routeTable routeMetric routes parsed

/-- `g_strjoin` with dots. -/
def joinDots (octets : List (List Char)) : List Char := ['.'].intercalate octets

/-- The number of octets of a network, `addr_len` in `process_dhclient_rfc3442_route`. -/
def addrLen (plen : Int) : Nat := if plen > 0 then ((plen - 1) / 8 + 1).toNat else 0

/-- The network of a route, from its octets. -/
def dhclientNetwork (plen : Int) (o : List (List Char)) : Option InAddr :=
  if plen > 0 then
    (inetPton (joinDots (o ++ List.replicate (4 - o.length) ['0']))).map fun tmpAddr =>
      ip4AddressClearHostAddress tmpAddr (UInt8.ofInt plen)
  else some 0

/-- `process_dhclient_rfc3442_route`: the network, prefix length and gateway of a route, and the
octets that remain. -/
def processDhclientRfc3442Route :
    List (List Char) → Option ((InAddr × UInt8 × InAddr) × List (List Char))
  | [] => none
  | first :: o =>
    let plen := strToInt64 first 10 0 32 (-1)
    if plen = -1 then none
    else if o.length < addrLen plen + 4 then none
    else
      match dhclientNetwork inetPton plen (o.take (addrLen plen)),
        inetPton (joinDots ((o.drop (addrLen plen)).take 4)) with
      | some network, some nextHop =>
        some ((network, UInt8.ofInt plen, nextHop), o.drop (addrLen plen + 4))
      | _, _ => none

theorem length_processDhclientRfc3442Route {octets rest : List (List Char)}
    {route : InAddr × UInt8 × InAddr}
    (read : processDhclientRfc3442Route inetPton octets = some (route, rest)) :
    rest.length < octets.length := by
  cases octets with
  | nil => cases read
  | cons first o =>
    unfold processDhclientRfc3442Route at read
    dsimp only at read
    split at read
    · cases read
    · split at read
      · cases read
      · split at read
        · obtain ⟨_, rfl⟩ := Prod.mk.inj (Option.some.inj read)
          rw [length_drop, length_cons]
          omega
        · cases read

/-- The loop in `ip4_process_dhclient_rfc3442_routes`. -/
def dhclientRoutes (o : List (List Char)) (parsed : Parsed) : Parsed :=
  if o = [] then parsed
  else
    match _read : processDhclientRfc3442Route inetPton o with
    | none => parsed
    | some ((network, plen, gateway), rest) =>
      if plen = 0 then
        dhclientRoutes rest { parsed with haveRoutes := true, gwaddr := gateway }
      else
        dhclientRoutes rest
          { parsed with
            haveRoutes := true
            ip4Config := ip4ConfigAddRoute parsed.ip4Config
              (dhcpRoute routeTable routeMetric network plen gateway) }
  termination_by o.length
  decreasing_by
    · exact length_processDhclientRfc3442Route inetPton _read
    · exact length_processDhclientRfc3442Route inetPton _read

/-- `nm_utils_strsplit_set_with_empty` at blanks and dots. -/
def strsplitSet (str : List Char) : List (List Char) :=
  if str = [] then [] else str.splitOnP fun c => c == ' ' || c == '.'

/-- `ip4_process_dhclient_rfc3442_routes`. -/
def ip4ProcessDhclientRfc3442Routes (str : List Char) (parsed : Parsed) : Parsed :=
  let octets := strsplitSet str
  if octets.length < 5 then parsed
  else dhclientRoutes inetPton routeTable routeMetric octets parsed

/-- The options with the classless routes, in the order in which they are looked up. -/
def classlessRoutesOption (options : String → Option (List Char)) : Option (List Char) :=
  (options "classless_static_routes").or
    ((options "rfc3442_classless_static_routes").or (options "ms_classless_static_routes"))

/-- `ip4_process_classless_routes`. -/
def ip4ProcessClasslessRoutes (options : String → Option (List Char))
    (ip4Config : NMIP4ConfigPrivate) : Parsed :=
  let nothing : Parsed := ⟨false, ip4Config, 0⟩
  match classlessRoutesOption options with
  | none => nothing
  | some str =>
    if str = [] then nothing
    else if str.any fun c => !(c.isDigit || c == ' ' || c == '.' || c == '/') then nothing
    else if '/' ∈ str then ip4ProcessDhcpcdRfc3442Routes inetPton routeTable routeMetric str nothing
    else ip4ProcessDhclientRfc3442Routes inetPton routeTable routeMetric str nothing

end Parsers

def octets (addr : InAddr) : List Nat :=
  let value := (htonl addr).toNat
  [value / 2 ^ 24 % 256, value / 2 ^ 16 % 256, value / 2 ^ 8 % 256, value % 256]

def dottedQuad (addr : InAddr) : List Char := groupsText 10 '.' (octets addr)

structure ClasslessRoute where
  network : InAddr
  plen : Nat
  gateway : InAddr
  plen_le : plen ≤ 32
  masked : ip4AddressClearHostAddress network plen.toUInt8 = network

namespace ClasslessRoute

/-- The number of significant bytes. -/
def significant (route : ClasslessRoute) : Nat := (route.plen + 7) / 8

/-- A route in the form of `dhclient`. -/
def dhclientWords (route : ClasslessRoute) : List (List Char) :=
  (route.plen :: (octets route.network).take route.significant ++ octets route.gateway).map
    (Nat.toDigits 10)

/-- A route in the form of `dhcpcd`. -/
def dhcpcdWords (route : ClasslessRoute) : List (List Char) :=
  [dottedQuad route.network ++ '/' :: Nat.toDigits 10 route.plen, dottedQuad route.gateway]

end ClasslessRoute

/-- Words with a dot or a blank after each of them but the last. -/
def joinWords (dot : Nat → Bool) : List (List Char) → List Char
  | [] => []
  | [word] => word
  | word :: next :: words =>
    word ++ (if dot 0 then '.' else ' ') :: joinWords (fun index => dot (index + 1)) (next :: words)

/-- Routes in the form of `dhclient`, with any choice of the separators. -/
def dhclientText (dot : Nat → Bool) (routes : List ClasslessRoute) : List Char :=
  joinWords dot (routes.flatMap ClasslessRoute.dhclientWords)

/-- Routes in the form of `dhcpcd`. -/
def dhcpcdText (routes : List ClasslessRoute) : List Char :=
  joinWords (fun _ => false) (routes.flatMap ClasslessRoute.dhcpcdWords)

def meaning (routeTable routeMetric : UInt32) (routes : List ClasslessRoute)
    (ip4Config : NMIP4ConfigPrivate) : Parsed where
  haveRoutes := true
  ip4Config := ((routes.filter fun route => route.plen ≠ 0).map fun route =>
    dhcpRoute routeTable routeMetric route.network route.plen.toUInt8 route.gateway).foldl
      ip4ConfigAddRoute ip4Config
  gwaddr := (((routes.filter fun route => route.plen = 0).map
    ClasslessRoute.gateway).getLast?).getD 0

theorem splitOnP_joinWords {separates : Char → Bool} {dot : Nat → Bool} {words : List (List Char)}
    (nonempty : words ≠ []) (plain : ∀ word ∈ words, ∀ c ∈ word, separates c = false)
    (separators : ∀ index, separates (if dot index then '.' else ' ') = true) :
    (joinWords dot words).splitOnP separates = words := by
  fun_induction joinWords dot words with
  | case1 => exact absurd rfl nonempty
  | case2 dot word => exact splitOnP_eq_singleton (plain word mem_cons_self)
  | case3 dot word next words ih =>
    rw [splitOnP_append_cons_of_forall_mem (plain word mem_cons_self) _ (separators 0),
      ih (by simp) (fun other listed => plain other (mem_cons_of_mem _ listed))
        fun index => separators (index + 1)]

theorem mem_joinWords {dot : Nat → Bool} {words : List (List Char)} {c : Char}
    (mem : c ∈ joinWords dot words) : c = '.' ∨ c = ' ' ∨ ∃ word ∈ words, c ∈ word := by
  fun_induction joinWords dot words with
  | case1 => cases mem
  | case2 dot word => exact .inr (.inr ⟨word, mem_cons_self, mem⟩)
  | case3 dot word next words ih =>
    rcases mem_append.mp mem with mem | mem
    · exact .inr (.inr ⟨word, mem_cons_self, mem⟩)
    · rcases mem_cons.mp mem with rfl | mem
      · cases dot 0 <;> simp
      · rcases ih mem with dot_eq | blank | ⟨other, listed, other_mem⟩
        · exact .inl dot_eq
        · exact .inr (.inl blank)
        · exact .inr (.inr ⟨other, mem_cons_of_mem _ listed, other_mem⟩)

theorem digitValue_of_mem_toDigits {number : Nat} {c : Char} (mem : c ∈ Nat.toDigits 10 number) :
    digitValue c < 10 := digitValue_lt_of_mem_toDigits (by decide) (by decide) mem

theorem dottedQuad_eq (addr : InAddr) :
    dottedQuad addr = joinDots ((octets addr).map (Nat.toDigits 10)) := rfl

theorem uint8_ofInt (number : Nat) : UInt8.ofInt number = number.toUInt8 := by
  apply UInt8.toNat_inj.mp
  show ((number : Int) % 2 ^ 8).toNat % 2 ^ 8 = number % 2 ^ 8
  omega

variable (route : ClasslessRoute)

theorem toNat_plen : route.plen.toUInt8.toNat = route.plen := by
  have := route.plen_le
  exact UInt8.toNat_ofNat_of_lt' (by rw [UInt8.size]; omega)

theorem octets_masked :
    octets route.network = (octets route.network).take route.significant ++
      List.replicate (4 - route.significant) 0 := by
  have leading := toNat_clearHostAddress route.network route.plen.toUInt8
  rw [route.masked, toNat_plen] at leading
  have plen_le := route.plen_le
  have dvd : 2 ^ (8 * (4 - route.significant)) ∣ (htonl route.network).toNat := by
    rw [leading]
    refine (Nat.pow_dvd_pow 2 ?_).trans (Nat.dvd_mul_left _ _)
    unfold ClasslessRoute.significant
    omega
  have significant_le : route.significant ≤ 4 := by
    unfold ClasslessRoute.significant
    omega
  unfold octets
  generalize (htonl route.network).toNat = value at dvd
  generalize route.significant = significant at dvd significant_le
  obtain ⟨quotient, rfl⟩ := dvd
  interval_cases significant <;> simp <;> omega

theorem network_of_plen_zero {route : ClasslessRoute} (zero : route.plen = 0) :
    route.network = 0 := by
  rw [← route.masked, zero, ip4AddressClearHostAddress]
  have mask : ip4PrefixToNetmask (0 : Nat).toUInt8 = 0 := by decide
  rw [mask, UInt32.and_zero]

theorem addrLen_plen : addrLen route.plen = route.significant := by
  unfold addrLen ClasslessRoute.significant
  split <;> omega

theorem length_significant :
    ((octets route.network).take route.significant).length = route.significant := by
  have plen_le := route.plen_le
  rw [length_take]
  unfold ClasslessRoute.significant
  exact min_eq_left (show (route.plen + 7) / 8 ≤ 4 by omega)

section

variable {inetPton : List Char → Option InAddr}

theorem dhclientNetwork_words (quads : ∀ addr, inetPton (dottedQuad addr) = some addr)
    (route : ClasslessRoute) :
    dhclientNetwork inetPton route.plen
      (((octets route.network).take route.significant).map (Nat.toDigits 10)) =
        some route.network := by
  have zero_digits : replicate (4 - route.significant) ['0'] =
      (replicate (4 - route.significant) 0).map (Nat.toDigits 10) := by
    rw [map_replicate]
    rfl
  unfold dhclientNetwork
  split
  · rw [length_map, length_significant, zero_digits, ← map_append, ← octets_masked,
      ← dottedQuad_eq, quads, Option.map_some]
    rw [uint8_ofInt, route.masked]
  · rename_i not_positive
    rw [network_of_plen_zero (by omega)]

theorem processDhclientRfc3442Route_words (quads : ∀ addr, inetPton (dottedQuad addr) = some addr)
    (route : ClasslessRoute) (rest : List (List Char)) :
    processDhclientRfc3442Route inetPton (route.dhclientWords ++ rest) =
      some ((route.network, route.plen.toUInt8, route.gateway), rest) := by
  have plen_le := route.plen_le
  have plen_read : strToInt64 (Nat.toDigits 10 route.plen) 10 0 32 (-1) = route.plen :=
    strToInt64_decimal (-1) (Int.natCast_nonneg _) (by omega) (by omega)
  have words_eq : route.dhclientWords ++ rest = Nat.toDigits 10 route.plen ::
      (((octets route.network).take route.significant).map (Nat.toDigits 10) ++
        ((octets route.gateway).map (Nat.toDigits 10) ++ rest)) := by
    simp [ClasslessRoute.dhclientWords]
  have network_length : (((octets route.network).take route.significant).map
      (Nat.toDigits 10)).length = route.significant := by
    rw [length_map, length_significant]
  have gateway_length : ((octets route.gateway).map (Nat.toDigits 10)).length = 4 := rfl
  have enough : ¬ (((octets route.network).take route.significant).map (Nat.toDigits 10) ++
      ((octets route.gateway).map (Nat.toDigits 10) ++ rest)).length < route.significant + 4 := by
    rw [length_append, network_length, length_append, gateway_length]
    omega
  rw [words_eq, processDhclientRfc3442Route, plen_read, if_neg (by omega), addrLen_plen,
    if_neg enough, take_left' network_length, drop_left' network_length, take_left' gateway_length,
    ← dottedQuad_eq, quads, dhclientNetwork_words quads, ← drop_drop, drop_left' network_length,
    drop_left' gateway_length, uint8_ofInt]

def apply (routeTable routeMetric : UInt32) (parsed : Parsed) (route : ClasslessRoute) : Parsed :=
  if route.plen = 0 then { parsed with haveRoutes := true, gwaddr := route.gateway }
  else
    { parsed with
      haveRoutes := true
      ip4Config := ip4ConfigAddRoute parsed.ip4Config
        (dhcpRoute routeTable routeMetric route.network route.plen.toUInt8 route.gateway) }

variable (routeTable routeMetric : UInt32)

theorem plen_eq_zero_iff (route : ClasslessRoute) : route.plen.toUInt8 = 0 ↔ route.plen = 0 := by
  rw [← UInt8.toNat_inj, toNat_plen]
  rfl

section

variable (quads : ∀ addr, inetPton (dottedQuad addr) = some addr)

include quads

theorem dhclientRoutes_words (routes : List ClasslessRoute) (parsed : Parsed) :
    dhclientRoutes inetPton routeTable routeMetric (routes.flatMap ClasslessRoute.dhclientWords)
      parsed = routes.foldl (apply routeTable routeMetric) parsed := by
  induction routes generalizing parsed with
  | nil => rw [flatMap_nil, dhclientRoutes, if_pos rfl, foldl_nil]
  | cons route routes ih =>
    have nonempty : route.dhclientWords ++ routes.flatMap ClasslessRoute.dhclientWords ≠ [] := by
      simp [ClasslessRoute.dhclientWords]
    rw [flatMap_cons, dhclientRoutes, if_neg nonempty]
    split
    · rename_i not_read
      rw [processDhclientRfc3442Route_words quads] at not_read
      cases not_read
    · rename_i read
      rw [processDhclientRfc3442Route_words quads] at read
      cases read
      rw [foldl_cons, apply]
      simp only [plen_eq_zero_iff, ih]
      split <;> rfl

/-- A route in the form of `dhcpcd` is read. -/
theorem dhcpcdRoute_words (route : ClasslessRoute) (parsed : Parsed) :
    dhcpcdRoute inetPton routeTable routeMetric
      (dottedQuad route.network ++ '/' :: Nat.toDigits 10 route.plen) (dottedQuad route.gateway)
      parsed = apply routeTable routeMetric parsed route := by
  have plen_le := route.plen_le
  have no_slash : '/' ∉ dottedQuad route.network := by
    intro mem
    rcases mem_groupsText (by decide) (by decide) mem with same | below
    · cases same
    · exact absurd below (by decide)
  have plen_read : strtoll (Nat.toDigits 10 route.plen) 10 = ⟨route.plen, [], false⟩ := by
    have read := strtoll_decimal route.plen (stopsDigits_nil 10) (by omega)
    rwa [append_nil] at read
  have cidr : dhcpcdCidr (some (Nat.toDigits 10 route.plen)) = some (route.plen : Int) := by
    have same : (route.plen : Int).bmod (2 ^ 32) = route.plen :=
      Int.bmod_eq_of_le (by omega) (by omega)
    rw [dhcpcdCidr, plen_read]
    dsimp only
    rw [same, if_neg]
    rintro (impossible | above)
    · cases impossible
    · omega
  unfold dhcpcdRoute
  rw [cutAt_append no_slash]
  simp only [cidr, quads]
  unfold apply
  by_cases zero : route.plen = 0
  · rw [if_pos ⟨by omega, network_of_plen_zero zero⟩, if_pos zero]
  · rw [if_neg (by omega), if_neg zero, uint8_ofInt, route.masked]

theorem dhcpcdRoutes_words (routes : List ClasslessRoute) (parsed : Parsed) :
    dhcpcdRoutes inetPton routeTable routeMetric (routes.flatMap ClasslessRoute.dhcpcdWords)
      parsed = routes.foldl (apply routeTable routeMetric) parsed := by
  induction routes generalizing parsed with
  | nil => rfl
  | cons route routes ih =>
    rw [flatMap_cons, ClasslessRoute.dhcpcdWords, cons_append, cons_append, nil_append,
      dhcpcdRoutes, dhcpcdRoute_words routeTable routeMetric quads, ih, foldl_cons]

end

theorem foldl_apply (routes : List ClasslessRoute) (parsed : Parsed) :
    routes.foldl (apply routeTable routeMetric) parsed =
      { haveRoutes := parsed.haveRoutes || !routes.isEmpty
        ip4Config := (meaning routeTable routeMetric routes parsed.ip4Config).ip4Config
        gwaddr := (((routes.filter fun route => route.plen = 0).map
          ClasslessRoute.gateway).getLast?).getD parsed.gwaddr } := by
  induction routes generalizing parsed with
  | nil => simp [meaning]
  | cons route routes ih =>
    rw [foldl_cons, ih]
    unfold apply meaning
    by_cases zero : route.plen = 0
    · simp [zero, getLast?_cons]
    · simp [zero]

variable {routes : List ClasslessRoute} {word : List Char}

theorem foldl_apply_nothing (nonempty : routes ≠ []) (ip4Config : NMIP4ConfigPrivate) :
    routes.foldl (apply routeTable routeMetric) ⟨false, ip4Config, 0⟩ =
      meaning routeTable routeMetric routes ip4Config := by
  rw [foldl_apply, isEmpty_eq_false_iff.mpr nonempty]
  rfl

theorem mem_dhclientWord {route : ClasslessRoute} (listed : word ∈ route.dhclientWords) {c : Char}
    (mem : c ∈ word) : digitValue c < 10 := by
  obtain ⟨number, _, rfl⟩ := mem_map.mp listed
  exact digitValue_of_mem_toDigits mem

theorem mem_dhcpcdWord {route : ClasslessRoute} (listed : word ∈ route.dhcpcdWords) {c : Char}
    (mem : c ∈ word) :
    c = '.' ∨ c = '/' ∨ digitValue c < 10 := by
  have quad : ∀ {addr : InAddr}, c ∈ dottedQuad addr → c = '.' ∨ c = '/' ∨ digitValue c < 10 := by
    intro addr mem
    exact (mem_groupsText (by decide) (by decide) mem).imp_right .inr
  simp only [ClasslessRoute.dhcpcdWords, mem_cons, not_mem_nil, or_false] at listed
  rcases listed with rfl | rfl
  · rcases mem_append.mp mem with mem | mem
    · exact quad mem
    · rcases mem_cons.mp mem with same | mem
      · exact .inr (.inl same)
      · exact .inr (.inr (digitValue_of_mem_toDigits mem))
  · exact quad mem

theorem joinWords_ne_nil {dot : Nat → Bool} {words : List (List Char)} (nonempty : word ≠ []) :
    joinWords dot (word :: words) ≠ [] := by
  cases words with
  | nil => exact nonempty
  | cons next words =>
    rw [joinWords]
    simp

theorem joinWords_valid (dot : Nat → Bool) {words : List (List Char)}
    (plain : ∀ word ∈ words, ∀ c ∈ word, c = '.' ∨ c = '/' ∨ digitValue c < 10) :
    (joinWords dot words).any (fun c => !(c.isDigit || c == ' ' || c == '.' || c == '/')) =
      false := by
  rw [any_eq_false]
  intro c mem
  rcases mem_joinWords mem with rfl | rfl | ⟨word, listed, word_mem⟩
  · decide
  · decide
  · rcases plain word listed c word_mem with rfl | rfl | below
    · decide
    · decide
    · simp [isDigit_of_digitValue below]

variable {options : String → Option (List Char)}

/-- The form of `dhclient` is read, with any separators. -/
theorem ip4ProcessClasslessRoutes_dhclient (quads : ∀ addr, inetPton (dottedQuad addr) = some addr)
    (nonempty : routes ≠ []) {dot : Nat → Bool} (ip4Config : NMIP4ConfigPrivate)
    (given : classlessRoutesOption options = some (dhclientText dot routes)) :
    ip4ProcessClasslessRoutes inetPton routeTable routeMetric options ip4Config =
      meaning routeTable routeMetric routes ip4Config := by
  have digits : ∀ word ∈ routes.flatMap ClasslessRoute.dhclientWords, ∀ c ∈ word,
      digitValue c < 10 := by
    intro word listed c mem
    obtain ⟨route, _, word_listed⟩ := mem_flatMap.mp listed
    exact mem_dhclientWord word_listed mem
  obtain ⟨route, others, routes_eq⟩ := exists_cons_of_ne_nil nonempty
  have text_ne : dhclientText dot routes ≠ [] := by
    rw [routes_eq]
    exact joinWords_ne_nil Nat.toDigits_ne_nil
  have words_length : ¬ (routes.flatMap ClasslessRoute.dhclientWords).length < 5 := by
    rw [routes_eq]
    simp [ClasslessRoute.dhclientWords, octets]
    omega
  have split : (dhclientText dot routes).splitOnP (fun c => c == ' ' || c == '.') =
      routes.flatMap ClasslessRoute.dhclientWords := by
    refine splitOnP_joinWords ?_ ?_ ?_
    · rintro empty
      rw [empty] at words_length
      exact words_length (by decide)
    · intro word listed c mem
      have below := digits word listed c mem
      refine Bool.or_eq_false_iff.mpr ⟨beq_false_of_ne ?_, beq_false_of_ne ?_⟩
      · rintro rfl
        exact absurd below (by decide)
      · rintro rfl
        exact absurd below (by decide)
    · intro index
      cases dot index <;> rfl
  have no_slash : '/' ∉ dhclientText dot routes := by
    intro mem
    rcases mem_joinWords mem with same | same | ⟨word, listed, word_mem⟩
    · cases same
    · cases same
    · exact absurd (digits word listed _ word_mem) (by decide)
  have valid : (dhclientText dot routes).any _ = false := joinWords_valid dot
    fun word listed c mem => .inr (.inr (digits word listed c mem))
  unfold ip4ProcessClasslessRoutes ip4ProcessDhclientRfc3442Routes strsplitSet
  rw [given]
  dsimp only
  rw [if_neg text_ne, valid, if_neg Bool.false_ne_true, if_neg no_slash, if_neg text_ne, split,
    if_neg words_length, dhclientRoutes_words routeTable routeMetric quads,
    foldl_apply_nothing routeTable routeMetric nonempty]

/-- The form of `dhcpcd` is read. -/
theorem ip4ProcessClasslessRoutes_dhcpcd (quads : ∀ addr, inetPton (dottedQuad addr) = some addr)
    (nonempty : routes ≠ []) (ip4Config : NMIP4ConfigPrivate)
    (given : classlessRoutesOption options = some (dhcpcdText routes)) :
    ip4ProcessClasslessRoutes inetPton routeTable routeMetric options ip4Config =
      meaning routeTable routeMetric routes ip4Config := by
  have word_characters : ∀ word ∈ routes.flatMap ClasslessRoute.dhcpcdWords, ∀ c ∈ word,
      c = '.' ∨ c = '/' ∨ digitValue c < 10 := by
    intro word listed c mem
    obtain ⟨route, _, word_listed⟩ := mem_flatMap.mp listed
    exact mem_dhcpcdWord word_listed mem
  have words_even : (routes.flatMap ClasslessRoute.dhcpcdWords).length = 2 * routes.length := by
    rw [length_flatMap]
    simp [ClasslessRoute.dhcpcdWords, Nat.mul_comm]
  have routes_pos := length_pos_of_ne_nil nonempty
  have split : (dhcpcdText routes).splitOn ' ' = routes.flatMap ClasslessRoute.dhcpcdWords := by
    rw [splitOn_eq_splitOnP]
    refine splitOnP_joinWords (ne_nil_of_length_pos (by omega)) ?_ fun _ => rfl
    intro word listed c mem
    refine beq_false_of_ne ?_
    rintro rfl
    rcases word_characters word listed _ mem with same | same | below
    · cases same
    · cases same
    · exact absurd below (by decide)
  obtain ⟨route, others, routes_eq⟩ := exists_cons_of_ne_nil nonempty
  have slash : '/' ∈ dhcpcdText routes := by
    rw [routes_eq]
    simp [dhcpcdText, ClasslessRoute.dhcpcdWords, joinWords]
  have valid : (dhcpcdText routes).any _ = false := joinWords_valid _ word_characters
  have text_ne : dhcpcdText routes ≠ [] := ne_nil_of_mem slash
  have even : ¬ ((routes.flatMap ClasslessRoute.dhcpcdWords).length = 0 ∨
      (routes.flatMap ClasslessRoute.dhcpcdWords).length % 2 ≠ 0) := by
    rw [words_even]
    omega
  unfold ip4ProcessClasslessRoutes ip4ProcessDhcpcdRfc3442Routes strsplit
  rw [given]
  dsimp only
  rw [if_neg text_ne, valid, if_neg Bool.false_ne_true, if_pos slash, if_neg text_ne, split,
    if_neg even, dhcpcdRoutes_words routeTable routeMetric quads,
    foldl_apply_nothing routeTable routeMetric nonempty]

/-- Both forms of a list of classless routes are read, and mean the same. -/
theorem ip4ProcessClasslessRoutes_forms
    (quads : ∀ addr, inetPton (dottedQuad addr) = some addr) {routes : List ClasslessRoute}
    (nonempty : routes ≠ []) (dot : Nat → Bool) (ip4Config : NMIP4ConfigPrivate)
    {options others : String → Option (List Char)}
    (dhclient : classlessRoutesOption options = some (dhclientText dot routes))
    (dhcpcd : classlessRoutesOption others = some (dhcpcdText routes)) :
    ip4ProcessClasslessRoutes inetPton routeTable routeMetric options ip4Config =
        meaning routeTable routeMetric routes ip4Config ∧
      ip4ProcessClasslessRoutes inetPton routeTable routeMetric others ip4Config =
        meaning routeTable routeMetric routes ip4Config :=
  ⟨ip4ProcessClasslessRoutes_dhclient routeTable routeMetric quads nonempty ip4Config dhclient,
    ip4ProcessClasslessRoutes_dhcpcd routeTable routeMetric quads nonempty ip4Config dhcpcd⟩

end

/-- `inet_pton` for dotted quads without zeros in front of the numbers. -/
def readDottedQuad (text : List Char) : Option InAddr :=
  let groups := textGroups 10 '.' text
  if groups.length = 4 ∧ groups.all (· < 256) ∧ groupsText 10 '.' groups = text then
    some (htonl (UInt32.ofNat (groups.foldl (fun value group => 256 * value + group) 0)))
  else none

theorem readDottedQuad_dottedQuad (addr : InAddr) : readDottedQuad (dottedQuad addr) = some addr := by
  have groups_eq : textGroups 10 '.' (dottedQuad addr) = octets addr :=
    textGroups_groupsText (by decide) (by decide) (by decide) (by simp [octets])
  have small : (octets addr).all (· < 256) := by
    simp [octets, Nat.mod_lt]
  have value_eq : (octets addr).foldl (fun value group => 256 * value + group) 0 =
      (htonl addr).toNat := by
    have bound := (htonl addr).toNat_lt
    simp only [octets, foldl_cons, foldl_nil]
    omega
  unfold readDottedQuad
  rw [groups_eq]
  dsimp only
  rw [if_pos ⟨rfl, small, rfl⟩, value_eq, UInt32.ofNat_toNat, htonl_htonl]

/-- A default route, and a route whose network has one significant byte. -/
def leaseRoutes : List ClasslessRoute :=
  [⟨0, 0, 0x7100a8c0, by decide, by decide⟩, ⟨10, 8, 0x06ff220a, by decide, by decide⟩]

theorem ip4ProcessClasslessRoutes_forms_lease :
    ip4ProcessClasslessRoutes readDottedQuad 254 100
        (fun key => if key = "ms_classless_static_routes" then
          some "0.192.168.0.113 8 10.10.34.255.6".toList else none) (ip4ConfigNew 1) =
        meaning 254 100 leaseRoutes (ip4ConfigNew 1) ∧
      ip4ProcessClasslessRoutes readDottedQuad 254 100
        (fun key => if key = "classless_static_routes" then
          some "0.0.0.0/0 192.168.0.113 10.0.0.0/8 10.34.255.6".toList else none)
        (ip4ConfigNew 1) =
        meaning 254 100 leaseRoutes (ip4ConfigNew 1) :=
  ip4ProcessClasslessRoutes_forms 254 100 readDottedQuad_dottedQuad (by decide)
    (fun index => index ≠ 4 && index ≠ 5) (ip4ConfigNew 1) (by decide +kernel) (by decide +kernel)

end NetworkManager.Dhcp
