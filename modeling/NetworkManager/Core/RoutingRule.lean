import NetworkManager.Core.InetAddress
import NetworkManager.Core.InterfaceName
import NetworkManager.Library.Machine

/-!
# Routing rules

A policy rule for routing, with the setters through which it is made, the check of a rule, and the
order of rules.  A rule keeps the text of an address only if it was asked for, or if the text is no
address.
-/

namespace NetworkManager.RoutingRule

open Ascii InetAddress InterfaceName

/-- `FR_ACT_TO_TBL`. -/
def frActToTbl : UInt8 := 1

/-- `RT_TABLE_DEFAULT`. -/
def rtTableDefault : Int := 253

/-- `RT_TABLE_MAIN`. -/
def rtTableMain : Int := 254

/-- `RT_TABLE_LOCAL`. -/
def rtTableLocal : Int := 255

/-- `NMIPRoutingRule`. -/
structure NMIPRoutingRule where
  /-- The address from which packets come. -/
  fromBin : NMIPAddr := .zero
  /-- The address to which packets go. -/
  toBin : NMIPAddr := .zero
  /-- The text of the address from which packets come. -/
  fromStr : Option (List Char) := none
  /-- The text of the address to which packets go. -/
  toStr : Option (List Char) := none
  /-- The interface on which packets come. -/
  iifname : Option (List Char) := none
  /-- The interface on which packets go. -/
  oifname : Option (List Char) := none
  priority : UInt32 := 0
  table : UInt32
  /-- Routes with prefixes of at most this length are not used. -/
  suppressPrefixlength : Int
  fwmark : UInt32 := 0
  /-- The bits of the mark that count. -/
  fwmask : UInt32 := 0
  /-- The first source port. -/
  sportStart : UInt16 := 0
  /-- The last source port. -/
  sportEnd : UInt16 := 0
  /-- The first destination port. -/
  dportStart : UInt16 := 0
  /-- The last destination port. -/
  dportEnd : UInt16 := 0
  action : UInt8
  /-- The prefix length of the address from which packets come. -/
  fromLen : UInt8 := 0
  /-- The prefix length of the address to which packets go. -/
  toLen : UInt8 := 0
  tos : UInt8 := 0
  ipproto : UInt8 := 0
  /-- Whether the family is `AF_INET`. -/
  isV4 : Bool
  priorityHas : Bool := false
  /-- Whether there is an address from which packets come. -/
  fromHas : Bool := false
  /-- Whether that address could be read. -/
  fromValid : Bool := false
  /-- Whether there is an address to which packets go. -/
  toHas : Bool := false
  /-- Whether that address could be read. -/
  toValid : Bool := false
  /-- Whether the rule is for the packets that do not match. -/
  invert : Bool := false
  deriving DecidableEq, Repr

/-- `nm_ip_routing_rule_new`. -/
def new (family : AddrFamily) : NMIPRoutingRule where
  isV4 := family = .inet
  action := frActToTbl
  table := UInt32.ofNat rtTableMain.toNat
  suppressPrefixlength := -1

namespace NMIPRoutingRule

section

variable (rule : NMIPRoutingRule)

/-- `nm_ip_routing_rule_get_addr_family`. -/
def addrFamily : AddrFamily := if rule.isV4 then .inet else .inet6

/-- `nm_ip_routing_rule_new_clone`. -/
def newClone : NMIPRoutingRule :=
  { rule with
    fromStr := if rule.fromHas ∧ !rule.fromValid then rule.fromStr else none
    toStr := if rule.toHas ∧ !rule.toValid then rule.toStr else none }

/-- `nm_ip_routing_rule_set_priority`. -/
def setPriority (priority : Int) : NMIPRoutingRule :=
  if 0 ≤ priority ∧ priority ≤ 0xFFFFFFFF then
    { rule with priority := UInt32.ofNat priority.toNat, priorityHas := true }
  else if priority = -1 then { rule with priority := 0, priorityHas := false }
  else rule

/-- `nm_ip_routing_rule_set_invert`. -/
def setInvert (invert : Bool) : NMIPRoutingRule :=
  { rule with invert := invert }

/-- `nm_ip_routing_rule_set_from_bin`. -/
def setFromBin : Option NMIPAddr → UInt8 → NMIPRoutingRule
  | none, len => { rule with fromStr := none, fromHas := false, fromLen := len }
  | some addr, len =>
    { rule with
      fromStr := none, fromHas := true, fromLen := len, fromValid := true
      fromBin := NMIPAddr.ipAddrSet rule.addrFamily rule.fromBin
        (addr.address rule.addrFamily) }

/-- `nm_ip_routing_rule_set_to_bin`. -/
def setToBin : Option NMIPAddr → UInt8 → NMIPRoutingRule
  | none, len => { rule with toStr := none, toHas := false, toLen := len }
  | some addr, len =>
    { rule with
      toStr := none, toHas := true, toLen := len, toValid := true
      toBin := NMIPAddr.ipAddrSet rule.addrFamily rule.toBin (addr.address rule.addrFamily) }

section

variable (inet : Inet) (rule : NMIPRoutingRule)

/-- `nm_ip_routing_rule_set_from`. -/
def setFrom : Option (List Char) → UInt8 → NMIPRoutingRule
  | none, len => { rule with fromStr := none, fromHas := false, fromLen := len }
  | some text, len =>
    match parseInaddrBin inet (some rule.addrFamily) text rule.fromBin with
    | none =>
      { rule with fromStr := some text, fromHas := true, fromLen := len, fromValid := false }
    | some (_, addr) =>
      { rule with
        fromStr := none, fromHas := true, fromLen := len, fromValid := true, fromBin := addr }

/-- `nm_ip_routing_rule_set_to`. -/
def setTo : Option (List Char) → UInt8 → NMIPRoutingRule
  | none, len => { rule with toStr := none, toHas := false, toLen := len }
  | some text, len =>
    match parseInaddrBin inet (some rule.addrFamily) text rule.toBin with
    | none => { rule with toStr := some text, toHas := true, toLen := len, toValid := false }
    | some (_, addr) =>
      { rule with toStr := none, toHas := true, toLen := len, toValid := true, toBin := addr }

/-- What `nm_ip_routing_rule_get_from` leaves behind. -/
def getFrom : NMIPRoutingRule :=
  if rule.fromHas ∧ rule.fromStr = none then
    { rule with
      fromStr := some (inet.ntop rule.addrFamily (rule.fromBin.address rule.addrFamily)) }
  else rule

/-- What `nm_ip_routing_rule_get_to` leaves behind. -/
def getTo : NMIPRoutingRule :=
  if rule.toHas ∧ rule.toStr = none then
    { rule with toStr := some (inet.ntop rule.addrFamily (rule.toBin.address rule.addrFamily)) }
  else rule

end

/-- `nm_ip_routing_rule_set_tos`. -/
def setTos (tos : UInt8) : NMIPRoutingRule := { rule with tos := tos }

/-- `nm_ip_routing_rule_set_ipproto`. -/
def setIpproto (ipproto : UInt8) : NMIPRoutingRule :=
  { rule with ipproto := ipproto }

/-- `nm_ip_routing_rule_set_source_port`. -/
def setSourcePort (first last : UInt16) : NMIPRoutingRule :=
  { rule with sportStart := first, sportEnd := last }

/-- `nm_ip_routing_rule_set_destination_port`. -/
def setDestinationPort (first last : UInt16) : NMIPRoutingRule :=
  { rule with dportStart := first, dportEnd := last }

/-- `nm_ip_routing_rule_set_fwmark`. -/
def setFwmark (fwmark fwmask : UInt32) : NMIPRoutingRule :=
  { rule with fwmark := fwmark, fwmask := fwmask }

/-- `nm_ip_routing_rule_set_iifname`. -/
def setIifname (iifname : Option (List Char)) : NMIPRoutingRule :=
  { rule with iifname := iifname }

/-- `nm_ip_routing_rule_set_oifname`. -/
def setOifname (oifname : Option (List Char)) : NMIPRoutingRule :=
  { rule with oifname := oifname }

/-- `nm_ip_routing_rule_set_action`. -/
def setAction (action : UInt8) : NMIPRoutingRule :=
  { rule with action := action }

/-- `nm_ip_routing_rule_set_table`. -/
def setTable (table : UInt32) : NMIPRoutingRule :=
  { rule with table := table }

/-- `nm_ip_routing_rule_set_suppress_prefixlength`. -/
def setSuppressPrefixlength (suppressPrefixlength : Int) : NMIPRoutingRule :=
  { rule with suppressPrefixlength := suppressPrefixlength }

end

/-- The order of the addresses in `nm_ip_routing_rule_cmp`. -/
def cmpAddress (family : AddrFamily) (has otherHas valid otherValid : Bool)
    (bin otherBin : NMIPAddr) (str otherStr : Option (List Char)) : Ordering :=
  (compare has otherHas).then
    (if has then
      (compare valid otherValid).then
        (if valid then
          compare (bin.address family).toList (otherBin.address family).toList
        else compare str otherStr)
    else .eq)

/-- `nm_ip_routing_rule_cmp`. -/
def cmp (rule other : NMIPRoutingRule) : Ordering :=
  (compare rule.priorityHas other.priorityHas).then <|
  (if rule.priorityHas then compare rule.priority other.priority else .eq).then <|
  (compare rule.isV4 other.isV4).then <|
  (compare rule.invert other.invert).then <|
  (compare rule.tos other.tos).then <|
  (compare rule.fwmark other.fwmark).then <|
  (compare rule.fwmask other.fwmask).then <|
  (compare rule.action other.action).then <|
  (compare rule.table other.table).then <|
  (compare rule.suppressPrefixlength other.suppressPrefixlength).then <|
  (compare rule.sportStart other.sportStart).then <|
  (compare rule.sportEnd other.sportEnd).then <|
  (compare rule.dportStart other.dportStart).then <|
  (compare rule.dportEnd other.dportEnd).then <|
  (compare rule.ipproto other.ipproto).then <|
  (compare rule.iifname other.iifname).then <|
  (compare rule.oifname other.oifname).then <|
  (compare rule.fromLen other.fromLen).then <|
  (cmpAddress rule.addrFamily rule.fromHas other.fromHas rule.fromValid other.fromValid
    rule.fromBin other.fromBin rule.fromStr other.fromStr).then <|
  (compare rule.toLen other.toLen).then <|
  cmpAddress rule.addrFamily rule.toHas other.toHas rule.toValid other.toValid
    rule.toBin other.toBin rule.toStr other.toStr

end NMIPRoutingRule

/-- The errors of the check and of the readers. -/
inductive RuleError where
  /-- "invalid priority" -/
  | invalidPriority
  /-- "missing table" -/
  | missingTable
  /-- "invalid action" -/
  | invalidAction
  /-- "has %s but the prefix-length is zero" -/
  | hasAddress (part : List Char)
  /-- "missing %s for a non zero prefix-length" -/
  | missingAddress (part : List Char)
  /-- "invalid %s" -/
  | invalidAddress (part : List Char)
  /-- "invalid prefix length for %s" -/
  | invalidPrefixLength (part : List Char)
  /-- "invalid iifname" -/
  | invalidIifname
  /-- "invalid oifname" -/
  | invalidOifname
  /-- "invalid source port range" -/
  | invalidSourcePorts
  /-- "invalid destination port range" -/
  | invalidDestinationPorts
  /-- "suppress_prefixlength out of range" -/
  | suppressPrefixlengthOutOfRange
  /-- "suppress_prefixlength is only allowed with the to-table action" -/
  | suppressPrefixlengthNotAllowed
  /-- "Unsupported to-string-flags argument" -/
  | unsupportedFlags
  /-- "Unsupported extra-argument" -/
  | unsupportedExtraArgument
  /-- "invalid address family" -/
  | invalidAddressFamily
  /-- "rule is invalid: %s" -/
  | ruleIsInvalid (error : RuleError)
  /-- "unsupported key \"%s\"" -/
  | unsupportedKey (key : List Char)
  /-- "duplicate key \"%s\"", and "duplicate key %s" -/
  | duplicateKey (key : List Char)
  /-- "invalid value for \"%s\"" -/
  | invalidValue (key : List Char)
  /-- "empty text does not describe a rule" -/
  | emptyText
  /-- "missing argument for \"%s\"" -/
  | missingArgument (key : List Char)
  /-- "invalid \"%s\" part" -/
  | invalidPart (part : List Char)
  /-- "cannot detect address family for rule" -/
  | cannotDetectFamily
  /-- "invalid key \"%s\"" -/
  | invalidKey (key : List Char)
  /-- "invalid variant type '%s' for \"%s\"" -/
  | invalidVariantType (type key : List Char)
  /-- "missing \"%s\"" -/
  | missingKey (key : List Char)
  /-- "invalid \"%s\"" -/
  | invalidFamily (key : List Char)
  deriving DecidableEq, Repr

/-- `_rr_xport_range_valid`. -/
def xportRangeValid (first last : UInt16) : Bool :=
  if first = 0 then last = 0 else first ≤ last ∧ last < 0xFFFF

def require (condition : Bool) (error : RuleError) : Except RuleError Unit :=
  if condition then .ok () else .error error

/-- The check of the action, which has to be to look up a table. -/
def validateAction (rule : NMIPRoutingRule) : Except RuleError Unit :=
  if rule.action = frActToTbl then require (rule.table ≠ 0) .missingTable
  else .error .invalidAction

/-- The check of an address in `nm_ip_routing_rule_validate`. -/
def validateAddress (part : List Char) (family : AddrFamily) (len : UInt8) (has valid : Bool) :
    Except RuleError Unit :=
  if len = 0 then require (!has) (.hasAddress part)
  else if len.toNat ≤ 8 * family.size then do
    require has (.missingAddress part)
    require valid (.invalidAddress part)
  else .error (.invalidPrefixLength part)

/-- The check of the length below which routes are not used. -/
def validateSuppressPrefixlength (rule : NMIPRoutingRule) : Except RuleError Unit :=
  if rule.suppressPrefixlength ≠ -1 then do
    require (!(rule.suppressPrefixlength < -1 ∨
      rule.suppressPrefixlength > (if rule.isV4 then 32 else 128))) .suppressPrefixlengthOutOfRange
    require (rule.action = frActToTbl) .suppressPrefixlengthNotAllowed
  else .ok ()

/-- `nm_ip_routing_rule_validate`.  Texts are always valid UTF-8 here, so that `g_utf8_validate`
accepts the names. -/
def validate (rule : NMIPRoutingRule) : Except RuleError Unit := do
  require rule.priorityHas .invalidPriority
  validateAction rule
  validateAddress "from/src".toList rule.addrFamily rule.fromLen rule.fromHas rule.fromValid
  validateAddress "to/dst".toList rule.addrFamily rule.toLen rule.toHas rule.toValid
  require (rule.iifname.all isValidIfaceNameUtf8safe) .invalidIifname
  require (rule.oifname.all isValidIfaceNameUtf8safe) .invalidOifname
  require (xportRangeValid rule.sportStart rule.sportEnd) .invalidSourcePorts
  require (xportRangeValid rule.dportStart rule.dportEnd) .invalidDestinationPorts
  validateSuppressPrefixlength rule

/-- An address that passed the check. -/
structure ValidAddress (family : AddrFamily) (len : UInt8) (has valid : Bool) : Prop where
  has_iff : has = true ↔ len ≠ 0
  readable : has = true → valid = true
  bound : len.toNat ≤ 8 * family.size

/-- A rule that passed the check. -/
structure ValidRule (rule : NMIPRoutingRule) : Prop where
  priority : rule.priorityHas = true
  action : rule.action = frActToTbl
  table : rule.table ≠ 0
  fromAddress : ValidAddress rule.addrFamily rule.fromLen rule.fromHas rule.fromValid
  toAddress : ValidAddress rule.addrFamily rule.toLen rule.toHas rule.toValid
  iifname : ∀ name ∈ rule.iifname, isValidIfaceNameUtf8safe name = true
  oifname : ∀ name ∈ rule.oifname, isValidIfaceNameUtf8safe name = true
  sport : xportRangeValid rule.sportStart rule.sportEnd = true
  dport : xportRangeValid rule.dportStart rule.dportEnd = true
  /-- The length below which routes are not used. -/
  suppress : rule.suppressPrefixlength = -1 ∨
    0 ≤ rule.suppressPrefixlength ∧ rule.suppressPrefixlength ≤ (if rule.isV4 then 32 else 128)

@[simp] theorem require_eq_ok {condition : Bool} {error : RuleError} :
    require condition error = .ok () ↔ condition = true := by
  unfold require
  split <;> simp_all

theorem andThen_eq_ok {first second : Except RuleError Unit} :
    (do first; second) = .ok () ↔ first = .ok () ∧ second = .ok () := by
  cases first with
  | error error => simp [bind, Except.bind]
  | ok value => simp [bind, Except.bind]

variable {rule : NMIPRoutingRule}

theorem validateAction_eq_ok :
    validateAction rule = .ok () ↔ rule.action = frActToTbl ∧ rule.table ≠ 0 := by
  unfold validateAction
  split
  · rename_i action
    simp [action]
  · rename_i other
    simp [other]

theorem validateAddress_eq_ok {part : List Char} {family : AddrFamily} {len : UInt8}
    {has valid : Bool} :
    validateAddress part family len has valid = .ok () ↔ ValidAddress family len has valid := by
  unfold validateAddress
  split
  · rename_i no_len
    subst no_len
    rw [require_eq_ok]
    constructor
    · intro no_address
      refine ⟨by simpa using no_address, ?_, Nat.zero_le _⟩
      intro address
      simp [address] at no_address
    · intro valid_address
      simpa using valid_address.has_iff
  · rename_i some_len
    split
    · rename_i bound
      rw [andThen_eq_ok, require_eq_ok, require_eq_ok]
      constructor
      · rintro ⟨address, readable⟩
        exact ⟨⟨fun _ => some_len, fun _ => address⟩, fun _ => readable, bound⟩
      · intro valid_address
        have address := valid_address.has_iff.mpr some_len
        exact ⟨address, valid_address.readable address⟩
    · rename_i too_long
      constructor
      · intro impossible
        cases impossible
      · intro valid_address
        exact absurd valid_address.bound too_long

theorem validateSuppressPrefixlength_eq_ok (action : rule.action = frActToTbl) :
    validateSuppressPrefixlength rule = .ok () ↔ rule.suppressPrefixlength = -1 ∨
      0 ≤ rule.suppressPrefixlength ∧
        rule.suppressPrefixlength ≤ (if rule.isV4 then 32 else 128) := by
  unfold validateSuppressPrefixlength
  generalize (if rule.isV4 then (32 : Int) else 128) = limit
  split
  · rename_i present
    rw [andThen_eq_ok, require_eq_ok, require_eq_ok]
    simp only [Bool.not_eq_true', decide_eq_false_iff_not, decide_eq_true_eq]
    constructor
    · rintro ⟨in_range, -⟩
      exact Or.inr (by omega)
    · intro in_range
      exact ⟨by omega, action⟩
  · rename_i absent
    exact ⟨fun _ => Or.inl (not_not.mp absent), fun _ => rfl⟩

theorem validate_eq_ok_iff : validate rule = .ok () ↔ ValidRule rule := by
  unfold validate
  simp only [andThen_eq_ok, require_eq_ok, validateAction_eq_ok, validateAddress_eq_ok,
    Option.all_eq_true]
  constructor
  · rintro ⟨priority, ⟨action, table⟩, fromAddress, toAddress, iifname, oifname, sport, dport,
      suppress⟩
    exact ⟨priority, action, table, fromAddress, toAddress, iifname, oifname, sport, dport,
      (validateSuppressPrefixlength_eq_ok action).mp suppress⟩
  · intro valid
    exact ⟨valid.priority, ⟨valid.action, valid.table⟩, valid.fromAddress, valid.toAddress,
      valid.iifname, valid.oifname, valid.sport, valid.dport,
      (validateSuppressPrefixlength_eq_ok valid.action).mpr valid.suppress⟩

/-- Addresses that `nm_ip_routing_rule_cmp` does not tell apart. -/
structure SameAddress (family : AddrFamily) (has otherHas valid otherValid : Bool)
    (bin otherBin : NMIPAddr) : Prop where
  has_eq : otherHas = has
  readable : has = true → valid = true
  other_readable : has = true → otherValid = true
  address_eq : has = true → otherBin.address family = bin.address family

theorem cmpAddress_eq {family : AddrFamily} {has otherHas valid otherValid : Bool}
    {bin otherBin : NMIPAddr}
    (same : SameAddress family has otherHas valid otherValid bin otherBin)
    (str otherStr : Option (List Char)) :
    NMIPRoutingRule.cmpAddress family has otherHas valid otherValid bin otherBin str otherStr =
      .eq := by
  obtain ⟨rfl, readable, other_readable, address_eq⟩ := same
  unfold NMIPRoutingRule.cmpAddress
  cases otherHas with
  | false => rfl
  | true =>
    rw [readable rfl, other_readable rfl, address_eq rfl]
    simp

/-- Rules that differ only in what `nm_ip_routing_rule_cmp` does not look at. -/
structure SameRule (rule other : NMIPRoutingRule) : Prop where
  /-- The numbers, names and flags are the same. -/
  fields_eq : { other with
    fromBin := rule.fromBin, toBin := rule.toBin, fromStr := rule.fromStr, toStr := rule.toStr,
    fromHas := rule.fromHas, toHas := rule.toHas, fromValid := rule.fromValid,
    toValid := rule.toValid } = rule
  from_same : SameAddress rule.addrFamily rule.fromHas other.fromHas rule.fromValid
    other.fromValid rule.fromBin other.fromBin
  to_same : SameAddress rule.addrFamily rule.toHas other.toHas rule.toValid other.toValid
    rule.toBin other.toBin

theorem cmp_eq_of_same {rule other : NMIPRoutingRule} (same : SameRule rule other) :
    rule.cmp other = .eq := by
  obtain ⟨fields_eq, from_same, to_same⟩ := same
  unfold NMIPRoutingRule.cmp
  rw [cmpAddress_eq from_same, cmpAddress_eq to_same, ← fields_eq]
  simp

section Calls

variable (inet : Inet)

/-- The text that is kept for an address that could be read is the text of the address. -/
def Cached (family : AddrFamily) (has valid : Bool) (bin : NMIPAddr)
    (str : Option (List Char)) : Prop :=
  has = true → valid = true → ∀ text ∈ str, text = inet.ntop family (bin.address family)

/-- The texts of both addresses of a rule. -/
def RuleCached (rule : NMIPRoutingRule) : Prop :=
  Cached inet rule.addrFamily rule.fromHas rule.fromValid rule.fromBin rule.fromStr ∧
    Cached inet rule.addrFamily rule.toHas rule.toValid rule.toBin rule.toStr

/-- A rule whose texts are those of its addresses. -/
structure CachedRule where
  rule : NMIPRoutingRule
  cached : RuleCached inet rule

/-- A call of a function `nm_ip_routing_rule_…` that makes or changes a rule. -/
inductive RuleCall where
  | newClone
  | setPriority (priority : Int)
  | setInvert (invert : Bool)
  | setFromBin (addr : Option NMIPAddr) (len : UInt8)
  | setToBin (addr : Option NMIPAddr) (len : UInt8)
  | setFrom (text : Option (List Char)) (len : UInt8)
  | setTo (text : Option (List Char)) (len : UInt8)
  | getFrom
  | getTo
  | setTos (tos : UInt8)
  | setIpproto (ipproto : UInt8)
  | setSourcePort (first last : UInt16)
  | setDestinationPort (first last : UInt16)
  | setFwmark (fwmark fwmask : UInt32)
  | setIifname (iifname : Option (List Char))
  | setOifname (oifname : Option (List Char))
  | setAction (action : UInt8)
  | setTable (table : UInt32)
  | setSuppressPrefixlength (suppressPrefixlength : Int)

def ruleCall (rule : NMIPRoutingRule) : RuleCall → NMIPRoutingRule
  | .newClone => rule.newClone
  | .setPriority priority => rule.setPriority priority
  | .setInvert invert => rule.setInvert invert
  | .setFromBin addr len => rule.setFromBin addr len
  | .setToBin addr len => rule.setToBin addr len
  | .setFrom text len => rule.setFrom inet text len
  | .setTo text len => rule.setTo inet text len
  | .getFrom => rule.getFrom inet
  | .getTo => rule.getTo inet
  | .setTos tos => rule.setTos tos
  | .setIpproto ipproto => rule.setIpproto ipproto
  | .setSourcePort first last => rule.setSourcePort first last
  | .setDestinationPort first last => rule.setDestinationPort first last
  | .setFwmark fwmark fwmask => rule.setFwmark fwmark fwmask
  | .setIifname iifname => rule.setIifname iifname
  | .setOifname oifname => rule.setOifname oifname
  | .setAction action => rule.setAction action
  | .setTable table => rule.setTable table
  | .setSuppressPrefixlength length => rule.setSuppressPrefixlength length

def ruleMachine : GuardedMachine NMIPRoutingRule RuleCall where
  step := ruleCall inet
  guard _ _ := True

variable {inet} (family : AddrFamily)

theorem cached_none (has valid : Bool) (bin : NMIPAddr) :
    Cached inet family has valid bin none := by
  intro _ _ text mem
  cases mem

theorem cached_of_not_valid (has : Bool) (bin : NMIPAddr) (str : Option (List Char)) :
    Cached inet family has false bin str := by
  intro _ impossible
  cases impossible

theorem cached_of_unread (has valid : Bool) (bin : NMIPAddr) (str : Option (List Char)) :
    Cached inet family has valid bin (if has ∧ !valid then str else none) := by
  intro _ is_valid text mem
  rw [if_neg (by simp [is_valid])] at mem
  cases mem

theorem ruleCall_cached {rule : NMIPRoutingRule} (cached : RuleCached inet rule)
    (call : RuleCall) : RuleCached inet (ruleCall inet rule call) := by
  obtain ⟨from_cached, to_cached⟩ := cached
  cases call with
  | newClone => exact ⟨cached_of_unread _ _ _ _ _, cached_of_unread _ _ _ _ _⟩
  | setPriority priority =>
    change RuleCached inet (rule.setPriority priority)
    unfold NMIPRoutingRule.setPriority
    split
    · exact ⟨from_cached, to_cached⟩
    · split <;> exact ⟨from_cached, to_cached⟩
  | setFromBin addr len =>
    change RuleCached inet (rule.setFromBin addr len)
    unfold NMIPRoutingRule.setFromBin RuleCached
    cases addr with
    | none => exact ⟨cached_none _ _ _ _, to_cached⟩
    | some addr =>
      -- The family is that of the rule, whatever the address is.
      unfold NMIPRoutingRule.addrFamily at to_cached ⊢
      exact ⟨cached_none _ _ _ _, to_cached⟩
  | setToBin addr len =>
    change RuleCached inet (rule.setToBin addr len)
    unfold NMIPRoutingRule.setToBin RuleCached
    cases addr with
    | none => exact ⟨from_cached, cached_none _ _ _ _⟩
    | some addr =>
      -- The family is that of the rule, whatever the address is.
      unfold NMIPRoutingRule.addrFamily at from_cached ⊢
      exact ⟨from_cached, cached_none _ _ _ _⟩
  | setFrom text len =>
    cases text with
    | none => exact ⟨cached_none _ _ _ _, to_cached⟩
    | some text =>
      change RuleCached inet (rule.setFrom inet (some text) len)
      unfold NMIPRoutingRule.setFrom
      dsimp only
      split
      · exact ⟨cached_of_not_valid _ _ _ _, to_cached⟩
      · exact ⟨cached_none _ _ _ _, to_cached⟩
  | setTo text len =>
    cases text with
    | none => exact ⟨from_cached, cached_none _ _ _ _⟩
    | some text =>
      change RuleCached inet (rule.setTo inet (some text) len)
      unfold NMIPRoutingRule.setTo
      dsimp only
      split
      · exact ⟨from_cached, cached_of_not_valid _ _ _ _⟩
      · exact ⟨from_cached, cached_none _ _ _ _⟩
  | getFrom =>
    change RuleCached inet (rule.getFrom inet)
    unfold NMIPRoutingRule.getFrom
    split
    · refine ⟨?_, to_cached⟩
      intro _ _ text mem
      exact (Option.some.inj mem).symm
    · exact ⟨from_cached, to_cached⟩
  | getTo =>
    change RuleCached inet (rule.getTo inet)
    unfold NMIPRoutingRule.getTo
    split
    · refine ⟨from_cached, ?_⟩
      intro _ _ text mem
      exact (Option.some.inj mem).symm
    · exact ⟨from_cached, to_cached⟩
  | _ => exact ⟨from_cached, to_cached⟩

theorem ruleRun_cached (calls : List RuleCall) :
    RuleCached inet ((ruleMachine inet).run (new family) calls) := by
  have preserves : ∀ rule call, RuleCached inet rule → (ruleMachine inet).guard rule call →
      RuleCached inet ((ruleMachine inet).step rule call) :=
    fun _ call cached _ => ruleCall_cached cached call
  have start : RuleCached inet (new family) := ⟨cached_none _ _ _ _, cached_none _ _ _ _⟩
  exact (ruleMachine inet).run_preserves preserves start
    ((ruleMachine inet).along_of_forall (fun _ _ => trivial) _ calls)

def madeRule (family : AddrFamily) (calls : List RuleCall) : CachedRule inet :=
  ⟨(ruleMachine inet).run (new family) calls, ruleRun_cached family calls⟩

end Calls

end NetworkManager.RoutingRule
