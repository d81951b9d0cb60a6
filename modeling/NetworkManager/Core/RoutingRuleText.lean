import NetworkManager.Core.RoutingRule

/-!
# Routing rules as text

A rule is written in the style of `ip rule`, as words that blanks separate.  Each option that
differs from its default is written, and an address is written in any case, so that the family can
be told from the text.
-/

namespace NetworkManager.RoutingRule

open Ascii EscapedTokens InetAddress InterfaceName

/-- `NM_IP_ROUTING_RULE_AS_STRING_FLAGS_AF_INET`. -/
def flagAfInet : BitVec 32 := 1

/-- `NM_IP_ROUTING_RULE_AS_STRING_FLAGS_AF_INET6`. -/
def flagAfInet6 : BitVec 32 := 2

/-- `NM_IP_ROUTING_RULE_AS_STRING_FLAGS_VALIDATE`. -/
def flagValidate : BitVec 32 := 4

/-- `NM_FLAGS_HAS`, of a single flag. -/
def flagsHas (flags flag : BitVec 32) : Bool := flags &&& flag ≠ 0

/-- `_rr_string_validate`, with the number of extra arguments. -/
def rrStringValidate (flags : BitVec 32) (extraArgs : Nat) : Except RuleError Unit := do
  require (flags &&& ~~~(flagAfInet ||| flagAfInet6 ||| flagValidate) = 0) .unsupportedFlags
  require (extraArgs = 0) .unsupportedExtraArgument

/-- `_rr_string_addr_family_from_flags`. -/
def rrStringAddrFamilyFromFlags (flags : BitVec 32) : Option AddrFamily :=
  if flagsHas flags flagAfInet then
    if flagsHas flags flagAfInet6 then none else some .inet
  else if flagsHas flags flagAfInet6 then some .inet6
  else none

/-- `nm_ip_routing_rule_validate`, where it is asked for. -/
def validateIf (wanted : Bool) (rule : NMIPRoutingRule) : Except RuleError Unit :=
  if wanted then (validate rule).mapError .ruleIsInvalid else .ok ()

/-- The names under which options are written. -/
def fromName : List Char := ['f', 'r', 'o', 'm']

@[inherit_doc fromName]
def toName : List Char := ['t', 'o']

@[inherit_doc fromName]
def notName : List Char := ['n', 'o', 't']

@[inherit_doc fromName]
def priorityName : List Char := ['p', 'r', 'i', 'o', 'r', 'i', 't', 'y']

@[inherit_doc fromName]
def tosName : List Char := ['t', 'o', 's']

@[inherit_doc fromName]
def ipprotoName : List Char := ['i', 'p', 'p', 'r', 'o', 't', 'o']

@[inherit_doc fromName]
def fwmarkName : List Char := ['f', 'w', 'm', 'a', 'r', 'k']

@[inherit_doc fromName]
def sportName : List Char := ['s', 'p', 'o', 'r', 't']

@[inherit_doc fromName]
def dportName : List Char := ['d', 'p', 'o', 'r', 't']

@[inherit_doc fromName]
def iifName : List Char := ['i', 'i', 'f']

@[inherit_doc fromName]
def oifName : List Char := ['o', 'i', 'f']

@[inherit_doc fromName]
def tableName : List Char := ['t', 'a', 'b', 'l', 'e']

@[inherit_doc fromName]
def suppressPrefixlengthName : List Char :=
  ['s', 'u', 'p', 'p', 'r', 'e', 's', 's', '_', 'p', 'r', 'e', 'f', 'i', 'x', 'l', 'e', 'n', 'g',
    't', 'h']

def decimal (number : Nat) : List Char := Nat.toDigits 10 number

def signedDecimal (number : Int) : List Char :=
  if number < 0 then '-' :: decimal number.natAbs else decimal number.natAbs

/-- A number in hexadecimal digits, at least as many as wanted, after a mark. -/
def hexadecimal (width number : Nat) : List Char :=
  '0' :: 'x' :: (List.replicate (width - (Nat.toDigits 16 number).length) '0' ++
    Nat.toDigits 16 number)

/-- `nm_gstring_add_space_delimiter`. -/
def addSpaceDelimiter (str : List Char) : List Char := if str = [] then [] else str ++ [' ']

def appendPart (str : List Char) : Option (List Char) → List Char
  | none => str
  | some part => addSpaceDelimiter str ++ part

def namedPart (name value : List Char) : List Char := name ++ ' ' :: value

section

variable (inet : Inet)

/-- `_rr_string_append_inet_addr`. -/
def inetAddrPart (name : List Char) (required : Bool) (family : AddrFamily) (addr : NMIPAddr)
    (len : UInt8) : Option (List Char) :=
  if len = 0 then
    if required then some (namedPart name (anyAddress family ++ ['/', '0'])) else none
  else
    some (namedPart name (inet.ntop family (addr.address family) ++
      if len.toNat ≠ family.size * 8 then '/' :: decimal len.toNat else []))

/-- The mark of packets, with the bits that count. -/
def fwmarkPart (fwmark fwmask : UInt32) : Option (List Char) :=
  if fwmark ≠ 0 ∨ fwmask ≠ 0 then
    some (namedPart fwmarkName ((if fwmark ≠ 0 then hexadecimal 0 fwmark.toNat else ['0']) ++
      if fwmask ≠ 0xFFFFFFFF then
        '/' :: if fwmask ≠ 0 then hexadecimal 0 fwmask.toNat else ['0']
      else []))
  else none

/-- A range of ports. -/
def xportPart (name : List Char) (first last : UInt16) : Option (List Char) :=
  if first ≠ 0 ∨ last ≠ 0 then
    some (namedPart name (decimal first.toNat ++
      if first ≠ last then '-' :: decimal last.toNat else []))
  else none

def xifnamePart (name : List Char) (xifname : Option (List Char)) : Option (List Char) :=
  xifname.map fun xifname => namedPart name (escapedTokensEscape xifname asciiSpaces)

/-- The options of a rule, in the order in which they are written. -/
def ruleParts (rule : NMIPRoutingRule) : List (Option (List Char)) :=
  [if rule.priorityHas then some (namedPart priorityName (decimal rule.priority.toNat)) else none,
    if rule.invert then some notName else none,
    inetAddrPart inet fromName (!rule.toHas || !rule.toValid) rule.addrFamily rule.fromBin
      (if rule.fromHas && rule.fromValid then rule.fromLen else 0),
    inetAddrPart inet toName false rule.addrFamily rule.toBin
      (if rule.toHas && rule.toValid then rule.toLen else 0),
    if rule.tos ≠ 0 then some (namedPart tosName (hexadecimal 2 rule.tos.toNat)) else none,
    if rule.ipproto ≠ 0 then some (namedPart ipprotoName (decimal rule.ipproto.toNat)) else none,
    fwmarkPart rule.fwmark rule.fwmask,
    xportPart sportName rule.sportStart rule.sportEnd,
    xportPart dportName rule.dportStart rule.dportEnd,
    xifnamePart iifName rule.iifname,
    xifnamePart oifName rule.oifname,
    if rule.table ≠ 0 then some (namedPart tableName (decimal rule.table.toNat)) else none,
    if rule.suppressPrefixlength ≠ -1 then
      some (namedPart suppressPrefixlengthName (signedDecimal rule.suppressPrefixlength))
    else none]

/-- `nm_ip_routing_rule_to_string`. -/
def toString (rule : NMIPRoutingRule) (flags : BitVec 32) (extraArgs : Nat) :
    Except RuleError (List Char) := do
  rrStringValidate flags extraArgs
  require (rrStringAddrFamilyFromFlags flags = none ∨
    rrStringAddrFamilyFromFlags flags = some rule.addrFamily) .invalidAddressFamily
  validateIf (flagsHas flags flagValidate) rule
  return (ruleParts inet rule).foldl appendPart []

/-- The options. -/
inductive RuleKey where
  | fromAddress
  | toAddress
  /-- Whether the rule is for the packets that do not match. -/
  | invert
  | priority
  | table
  /-- The type of service. -/
  | tos
  /-- The protocol. -/
  | ipproto
  | sport
  /-- The destination ports. -/
  | dport
  | fwmark
  | iif
  /-- The interface on which packets go. -/
  | oif
  /-- The length below which routes are not used. -/
  | suppressPrefixlength
  deriving DecidableEq, Repr

def ruleKeyNames : List (List Char × RuleKey) :=
  [(fromName, .fromAddress), (toName, .toAddress), (notName, .invert), (priorityName, .priority),
    (['o', 'r', 'd', 'e', 'r'], .priority), (['p', 'r', 'e', 'f'], .priority),
    (['p', 'r', 'e', 'f', 'e', 'r', 'e', 'n', 'c', 'e'], .priority), (tableName, .table),
    (['l', 'o', 'o', 'k', 'u', 'p'], .table), (tosName, .tos),
    (['d', 's', 'f', 'i', 'e', 'l', 'd'], .tos), (ipprotoName, .ipproto), (sportName, .sport),
    (dportName, .dport), (fwmarkName, .fwmark), (iifName, .iif), (['d', 'e', 'v'], .iif),
    (oifName, .oif), (suppressPrefixlengthName, .suppressPrefixlength),
    (['s', 'u', 'p', '_', 'p', 'l'], .suppressPrefixlength)]

def ruleKey (word : List Char) : Option RuleKey := ruleKeyNames.lookup word

/-- What `nm_ip_routing_rule_from_string` has found.  A number that was not found is -1. -/
structure RuleArgs where
  /-- The address from which packets come. -/
  wordFrom : Option (List Char) := none
  /-- The address to which packets go. -/
  wordTo : Option (List Char) := none
  /-- The interface on which packets come. -/
  wordIifname : Option (List Char) := none
  /-- The interface on which packets go. -/
  wordOifname : Option (List Char) := none
  i64Priority : Int := -1
  i64Table : Int := -1
  i64Tos : Int := -1
  i64Fwmark : Int := -1
  /-- The bits of the mark that count. -/
  i64Fwmask : Int := -1
  /-- The first source port. -/
  i64SportStart : Int := -1
  i64Ipproto : Int := -1
  /-- The length below which routes are not used. -/
  i64SuppressPrefixlength : Int := -1
  /-- The last source port. -/
  sportEnd : UInt16 := 0
  /-- The first destination port. -/
  i64DportStart : Int := -1
  /-- The last destination port. -/
  dportEnd : UInt16 := 0
  /-- Whether the rule is for the packets that do not match. -/
  valInvert : Bool := false
  deriving DecidableEq, Repr

/-- Why an option is refused. -/
inductive KeyError where
  /-- The option was found before. -/
  | duplicate
  /-- The value cannot be read. -/
  | invalid
  deriving DecidableEq, Repr

def KeyError.toRuleError (word0 : List Char) : KeyError → RuleError
  | .duplicate => .duplicateKey word0
  | .invalid => .invalidValue word0

def once {α β : Type} (found : Bool) (value : Option α) (store : α → β) : Except KeyError β :=
  if found then .error .duplicate
  else
    match value with
    | none => .error .invalid
    | some value => .ok (store value)

def unlessMinusOne (number : Int) : Option Int := if number = -1 then none else some number

def tableNumber (word1 : List Char) : Int :=
  let number := strToInt64 word1 0 1 0xFFFFFFFF (-1)
  if number ≠ -1 then number
  else if word1 = ['m', 'a', 'i', 'n'] then rtTableMain
  else if word1 = ['l', 'o', 'c', 'a', 'l'] then rtTableLocal
  else if word1 = ['d', 'e', 'f', 'a', 'u', 'l', 't'] then rtTableDefault
  else -1

/-- `_rr_xport_range_parse`. -/
def xportRangeParse (str : List Char) : Option (Int × UInt16) :=
  let (str, s) := cutAt '-' str
  match unlessMinusOne (strToInt64 str 10 0 0xFFFF (-1)) with
  | none => none
  | some first =>
    match s with
    | none => some (first, UInt16.ofNat first.toNat)
    | some s =>
      (unlessMinusOne (strToInt64 s 10 0 0xFFFF (-1))).map fun last =>
        (first, UInt16.ofNat last.toNat)

/-- The mark of packets and the bits that count, which are all unless some are given. -/
def fwmarkParse (word1 : List Char) : Option (Int × Int) :=
  let (word1, s) := cutAt '/' word1
  match unlessMinusOne (strToInt64 word1 0 0 0xFFFFFFFF (-1)) with
  | none => none
  | some fwmark =>
    match s with
    | none => some (fwmark, 0xFFFFFFFF)
    | some s =>
      (unlessMinusOne (strToInt64 s 0 0 0xFFFFFFFF (-1))).map fun fwmask => (fwmark, fwmask)

/-- Store the value of an option. -/
def setArg (args : RuleArgs) (key : RuleKey) (word1 : List Char) : Except KeyError RuleArgs :=
  match key with
  | .fromAddress =>
    once args.wordFrom.isSome (some word1) fun word => { args with wordFrom := some word }
  | .toAddress =>
    once args.wordTo.isSome (some word1) fun word => { args with wordTo := some word }
  | .invert => .ok { args with valInvert := true }
  | .priority =>
    once (args.i64Priority ≠ -1) (unlessMinusOne (strToInt64 word1 0 0 0xFFFFFFFF (-1)))
      fun number => { args with i64Priority := number }
  | .table =>
    once (args.i64Table ≠ -1) (unlessMinusOne (tableNumber word1))
      fun number => { args with i64Table := number }
  | .tos =>
    once (args.i64Tos ≠ -1) (unlessMinusOne (strToInt64 word1 16 0 0xFF (-1)))
      fun number => { args with i64Tos := number }
  | .ipproto =>
    once (args.i64Ipproto ≠ -1) (unlessMinusOne (strToInt64 word1 10 0 0xFF (-1)))
      fun number => { args with i64Ipproto := number }
  | .sport =>
    once (args.i64SportStart ≠ -1) (xportRangeParse word1)
      fun range => { args with i64SportStart := range.1, sportEnd := range.2 }
  | .dport =>
    once (args.i64DportStart ≠ -1) (xportRangeParse word1)
      fun range => { args with i64DportStart := range.1, dportEnd := range.2 }
  | .fwmark =>
    once (args.i64Fwmark ≠ -1) (fwmarkParse word1)
      fun mark => { args with i64Fwmark := mark.1, i64Fwmask := mark.2 }
  | .iif =>
    once args.wordIifname.isSome (some word1) fun word => { args with wordIifname := some word }
  | .oif =>
    once args.wordOifname.isSome (some word1) fun word => { args with wordOifname := some word }
  | .suppressPrefixlength =>
    once (args.i64SuppressPrefixlength ≠ -1)
      (unlessMinusOne (strToInt64 word1 0 0 0x7FFFFFFF (-1)))
      fun number => { args with i64SuppressPrefixlength := number }

/-- An option of the loop of `nm_ip_routing_rule_from_string`.  There is no result if the value is
still to come; only one of the options has no value. -/
def consumeWords (args : RuleArgs) (word0 : List Char) (word1 : Option (List Char)) :
    Except RuleError (Option RuleArgs) :=
  match ruleKey word0 with
  | none => .error (.unsupportedKey word0)
  | some .invert => .ok (some { args with valInvert := true })
  | some key =>
    match word1 with
    | none => .ok none
    | some word1 => ((setArg args key word1).mapError (KeyError.toRuleError word0)).map some

/-- The loop of `nm_ip_routing_rule_from_string`, with the option whose value is to come. -/
def fromStringLoop : Option (List Char) → RuleArgs → List (List Char) →
    Except RuleError (Option (List Char) × RuleArgs)
  | word0, args, [] => .ok (word0, args)
  | word0, args, token :: tokens =>
    match consumeWords args (word0.getD token) (word0.map fun _ => token) with
    | .error error => .error error
    | .ok none => fromStringLoop (some (word0.getD token)) args tokens
    | .ok (some args) => fromStringLoop none args tokens

/-- An address of `nm_ip_routing_rule_from_string`, with the family and the prefix length. -/
def parseAddressArg (name : List Char) (family : Option AddrFamily) :
    Option (List Char) → Except RuleError (Option AddrFamily × NMIPAddr × Int)
  | none => .ok (family, .zero, -1)
  | some word =>
    if word = ['a', 'l', 'l'] then .ok (family, .zero, -1)
    else
      match parseInaddrPrefixBin inet family word .zero with
      | none => .error (.invalidPart name)
      | some (family, addr, len) =>
        .ok (some family, addr, if len = -1 then family.size * 8 else len)

def storesAddress (family : AddrFamily) (addr : NMIPAddr) (len : Int) : Bool :=
  len > 0 ∨ len = 0 ∧ !addr.isNull family

/-- The rule that `nm_ip_routing_rule_from_string` makes of what it has found. -/
def builtRule (family : AddrFamily) (args : RuleArgs) (valFrom : NMIPAddr) (valFromLen : Int)
    (valTo : NMIPAddr) (valToLen : Int) : NMIPRoutingRule :=
  let rule := new family
  let rule := if args.valInvert then rule.setInvert true else rule
  let rule := if args.i64Priority ≠ -1 then rule.setPriority args.i64Priority else rule
  let rule := if args.i64Tos ≠ -1 then rule.setTos (UInt8.ofNat args.i64Tos.toNat) else rule
  let rule :=
    if args.i64Ipproto ≠ -1 then rule.setIpproto (UInt8.ofNat args.i64Ipproto.toNat) else rule
  let rule :=
    if args.i64Fwmark ≠ -1 then
      rule.setFwmark (UInt32.ofNat args.i64Fwmark.toNat) (UInt32.ofNat args.i64Fwmask.toNat)
    else rule
  let rule :=
    if args.i64SportStart ≠ -1 then
      rule.setSourcePort (UInt16.ofNat args.i64SportStart.toNat) args.sportEnd
    else rule
  let rule :=
    if args.i64DportStart ≠ -1 then
      rule.setDestinationPort (UInt16.ofNat args.i64DportStart.toNat) args.dportEnd
    else rule
  let rule :=
    if args.i64SuppressPrefixlength ≠ -1 then
      rule.setSuppressPrefixlength args.i64SuppressPrefixlength
    else rule
  let rule :=
    if storesAddress family valFrom valFromLen then
      rule.setFromBin (some valFrom) (UInt8.ofNat valFromLen.toNat)
    else rule
  let rule :=
    if storesAddress family valTo valToLen then
      rule.setToBin (some valTo) (UInt8.ofNat valToLen.toNat)
    else rule
  let rule := if args.wordIifname.isSome then rule.setIifname args.wordIifname else rule
  let rule := if args.wordOifname.isSome then rule.setOifname args.wordOifname else rule
  if args.i64Table ≠ -1 then rule.setTable (UInt32.ofNat args.i64Table.toNat) else rule

/-- The end of `nm_ip_routing_rule_from_string`, after the words were read. -/
def ruleOfArgs (flags : BitVec 32) (args : RuleArgs) :
    Except RuleError NMIPRoutingRule := do
  let (family, valFrom, valFromLen) ←
    parseAddressArg inet fromName (rrStringAddrFamilyFromFlags flags) args.wordFrom
  let (family, valTo, valToLen) ← parseAddressArg inet toName family args.wordTo
  match family with
  | none => .error .cannotDetectFamily
  | some family =>
    let rule := builtRule family args valFrom valFromLen valTo valToLen
    validateIf (flagsHas flags flagValidate) rule
    return rule

/-- `nm_ip_routing_rule_from_string`. -/
def fromString (str : List Char) (flags : BitVec 32) (extraArgs : Nat) :
    Except RuleError NMIPRoutingRule := do
  rrStringValidate flags extraArgs
  let tokens := escapedTokensSplit str asciiSpaces
  let (word0, args) ← fromStringLoop none {} tokens
  require (tokens ≠ []) .emptyText
  match word0 with
  | some word0 => .error (.missingArgument word0)
  | none => ruleOfArgs inet flags args

end

end NetworkManager.RoutingRule
