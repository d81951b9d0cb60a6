import NetworkManager.Core.VariantRoundTrip

/-!
# Traffic control objects as text

Queueing disciplines, filters and actions are written in the style of `tc`, as words and attributes
that blanks separate.  Handles are unsigned numbers of 32 bits, with a major number in the upper
half and a minor number in the lower half.
-/

namespace NetworkManager.TrafficControl

open Ascii VariantAttributes

/-- `TC_H_UNSPEC`. -/
def tcUnspec : Nat := 0

/-- `TC_H_ROOT`. -/
def tcRoot : Nat := 0xffffffff

/-- `TC_H_INGRESS`. -/
def tcIngress : Nat := 0xfffffff1

/-- `TC_H_MAKE`, of numbers that have at most 16 bits. -/
def tcMake (maj min : Nat) : Nat := maj * 2 ^ 16 + min

/-- `TC_H_MAJ`, shifted to the lower half. -/
def tcMaj (handle : Nat) : Nat := handle / 2 ^ 16

/-- `TC_H_MIN`. -/
def tcMin (handle : Nat) : Nat := handle % 2 ^ 16

/-- The handle `TC_H_MAKE (TC_H_INGRESS, 0)`. -/
def tcIngressHandle : Nat := tcMake (tcMaj tcIngress) 0

/-- `g_ascii_isxdigit`. -/
def isXdigit (c : Char) : Bool := digitValue c < 16

/-- `_string_append_tc_handle`. -/
def handleToStr (handle : Nat) : List Char :=
  Nat.toDigits 16 (tcMaj handle) ++ ':' ::
    if tcMin handle ≠ tcUnspec then Nat.toDigits 16 (tcMin handle) else []

/-- The last check of `_nm_utils_parse_tc_handle`. -/
def checkTcHandle (str : List Char) (maj min : Int) : Option Nat :=
  if maj ≤ 0 ∨ maj > 0xffff ∨ min < 0 ∨ min > 0xffff ∨
      !str.all (fun c => isXdigit c || c == ':' || isSpace c) then none
  else some (tcMake maj.toNat min.toNat)

/-- `_nm_utils_parse_tc_handle`, with no handle in place of `TC_H_UNSPEC`. -/
def parseTcHandle (str : List Char) : Option Nat :=
  let maj := strtoll str 16
  if maj.rest = str then none
  else
    match skipLeadingSpaces maj.rest with
    | [] => checkTcHandle str maj.value 0
    | c :: str2 =>
      if c = ':' then
        let min := strtoll str2 16
        if skipLeadingSpaces min.rest ≠ [] then none
        else checkTcHandle str maj.value min.value
      else none

/-- `NMTCQdisc`. -/
structure NMTCQdisc where
  kind : List Char
  handle : Nat
  parent : Nat
  attributes : Attributes
  deriving DecidableEq, Repr

/-- `NMTCAction`. -/
structure NMTCAction where
  kind : List Char
  attributes : Attributes
  deriving DecidableEq, Repr

/-- `NMTCTfilter`. -/
structure NMTCTfilter where
  kind : List Char
  handle : Nat
  parent : Nat
  action : Option NMTCAction
  deriving DecidableEq, Repr

inductive TcError where
  /-- The attributes cannot be read. -/
  | attributes (error : ParseError)
  /-- "'%s' unexpected: parent already specified." -/
  | parentAlreadySpecified (parent : List Char)
  /-- "'%s' is not a valid handle." -/
  | notValidHandle (handle : List Char)
  /-- "invalid handle: '%s'" -/
  | invalidHandle (handle : List Char)
  /-- "parent not specified." -/
  | parentNotSpecified
  /-- "unsupported qdisc option: '%s'." -/
  | unsupportedQdiscOption (rest : List Char)
  /-- "unsupported action option: '%s'." -/
  | unsupportedActionOption (rest : List Char)
  /-- "unsupported tfilter option: '%s'." -/
  | unsupportedTfilterOption (rest : List Char)
  /-- "action name missing." -/
  | actionNameMissing
  /-- "kind is missing" -/
  | kindMissing
  /-- "'%s' is not a valid kind" -/
  | notValidKind (kind : List Char)
  /-- "parent handle missing" -/
  | parentHandleMissing
  /-- "invalid action: ", in front of another error. -/
  | invalidAction (error : TcError)
  /-- A text that is not there was to be read. -/
  | noText
  deriving DecidableEq, Repr

/-- The checks of the kind that `nm_tc_qdisc_new`, `nm_tc_action_new` and `nm_tc_tfilter_new` have
in common. -/
def checkKind : Option (List Char) → Except TcError (List Char)
  | none => .error .kindMissing
  | some kind =>
    if kind = [] then .error .kindMissing
    else if ' ' ∈ kind ∨ '\t' ∈ kind then .error (.notValidKind kind)
    else .ok kind

/-- The checks of `nm_tc_qdisc_new` and `nm_tc_tfilter_new`. -/
def checkNew (kind : Option (List Char)) (parent : Nat) : Except TcError (List Char) :=
  match checkKind kind with
  | .error error => .error error
  | .ok kind => if parent = tcUnspec then .error .parentHandleMissing else .ok kind

/-- `nm_tc_qdisc_set_attribute` and `nm_tc_action_set_attribute`, of a value. -/
def setAttribute (attributes : Attributes) (entry : List Char × GVariant) : Attributes :=
  if entry.1 = [] ∨ entry.1 = ['k', 'i', 'n', 'd'] then attributes
  else attributes.filter (fun other => other.1 ≠ entry.1) ++ [entry]

/-- `g_hash_table_lookup`. -/
def lookupAttribute (ht : Attributes) (name : List Char) : Option GVariant :=
  (ht.find? fun entry => entry.1 = name).map Prod.snd

/-- `g_variant_get_string`. -/
def getString : GVariant → List Char
  | .string value => value
  | _ => []

def nameRoot : List Char := ['r', 'o', 'o', 't']

def nameParent : List Char := ['p', 'a', 'r', 'e', 'n', 't']

def nameHandle : List Char := ['h', 'a', 'n', 'd', 'l', 'e']

def nameKind : List Char := ['k', 'i', 'n', 'd']

def nameIngress : List Char := ['i', 'n', 'g', 'r', 'e', 's', 's']

def nameAction : List Char := ['a', 'c', 't', 'i', 'o', 'n']

def nameFqCodel : List Char := ['f', 'q', '_', 'c', 'o', 'd', 'e', 'l']

def nameEcn : List Char := ['e', 'c', 'n']

def nameSimple : List Char := ['s', 'i', 'm', 'p', 'l', 'e']

def nameSdata : List Char := ['s', 'd', 'a', 't', 'a']

def nameMirred : List Char := ['m', 'i', 'r', 'r', 'e', 'd']

/-- `tc_object_attribute_spec`. -/
def tcObjectAttributeSpec : List NMVariantAttributeSpec :=
  [⟨nameRoot, .boolean, true, false⟩, ⟨nameParent, .string, false, false⟩,
    ⟨nameHandle, .string, false, false⟩, ⟨nameKind, .string, true, false⟩,
    ⟨[], .string, true, true⟩]

/-- `tc_qdisc_fq_codel_spec`. -/
def tcQdiscFqCodelSpec : List NMVariantAttributeSpec :=
  [⟨['l', 'i', 'm', 'i', 't'], .uint32, false, false⟩,
    ⟨['f', 'l', 'o', 'w', 's'], .uint32, false, false⟩,
    ⟨['t', 'a', 'r', 'g', 'e', 't'], .uint32, false, false⟩,
    ⟨['i', 'n', 't', 'e', 'r', 'v', 'a', 'l'], .uint32, false, false⟩,
    ⟨['q', 'u', 'a', 'n', 't', 'u', 'm'], .uint32, false, false⟩,
    ⟨['c', 'e', '_', 't', 'h', 'r', 'e', 's', 'h', 'o', 'l', 'd'], .uint32, false, false⟩,
    ⟨['m', 'e', 'm', 'o', 'r', 'y', '_', 'l', 'i', 'm', 'i', 't'], .uint32, false, false⟩,
    ⟨nameEcn, .boolean, true, false⟩]

/-- `tc_qdisc_attribute_spec`. -/
def tcQdiscAttributeSpec : List (List Char × List NMVariantAttributeSpec) :=
  [(nameFqCodel, tcQdiscFqCodelSpec)]

/-- `tc_action_simple_attribute_spec`. -/
def tcActionSimpleAttributeSpec : List NMVariantAttributeSpec :=
  [⟨nameSdata, .bytestring, false, false⟩]

/-- `tc_action_mirred_attribute_spec`. -/
def tcActionMirredAttributeSpec : List NMVariantAttributeSpec :=
  [⟨['e', 'g', 'r', 'e', 's', 's'], .boolean, true, false⟩, ⟨nameIngress, .boolean, true, false⟩,
    ⟨['m', 'i', 'r', 'r', 'o', 'r'], .boolean, true, false⟩,
    ⟨['r', 'e', 'd', 'i', 'r', 'e', 'c', 't'], .boolean, true, false⟩,
    ⟨['d', 'e', 'v'], .string, true, false⟩]

/-- `tc_action_attribute_spec`. -/
def tcActionAttributeSpec : List NMVariantAttributeSpec :=
  [⟨nameKind, .string, true, false⟩, ⟨[], .string, true, true⟩]

/-- `tc_tfilter_attribute_spec`. -/
def tcTfilterAttributeSpec : List NMVariantAttributeSpec :=
  [⟨nameAction, .boolean, true, false⟩, ⟨[], .string, true, true⟩]

/-- `nm_utils_parse_variant_attributes`, as it is used for these objects. -/
def parseAttributes (str : List Char) (spec : List NMVariantAttributeSpec) :
    Except TcError Attributes :=
  match parseVariantAttributes str ' ' ' ' false spec with
  | .error error => .error (.attributes error)
  | .ok ht => .ok ht

/-- The parent that the options give. -/
def readParent (ht : Attributes) : Except TcError Nat :=
  let parent := if ht.contains nameRoot then tcRoot else tcUnspec
  match lookupAttribute ht nameParent with
  | none => .ok parent
  | some variant =>
    if parent ≠ tcUnspec then .error (.parentAlreadySpecified (getString variant))
    else
      match parseTcHandle (getString variant) with
      | none => .error (.notValidHandle (getString variant))
      | some parent => .ok parent

/-- The handle that the options give. -/
def readHandle (ht : Attributes) : Except TcError Nat :=
  match lookupAttribute ht nameHandle with
  | none => .ok tcUnspec
  | some variant =>
    match parseTcHandle (getString variant) with
    | none => .error (.notValidHandle (getString variant))
    | some handle =>
      if tcMin handle ≠ 0 then .error (.invalidHandle (getString variant)) else .ok handle

/-- What `_tc_read_common_opts` gives. -/
structure CommonOpts where
  handle : Nat
  parent : Nat
  kind : Option (List Char)
  rest : Option (List Char)
  deriving DecidableEq, Repr

/-- The options after the kind "ingress" was taken into account. -/
def commonOpts (ht : Attributes) (parent handle : Nat) : Except TcError CommonOpts :=
  let kind := (lookupAttribute ht nameKind).map getString
  let parent := if kind = some nameIngress ∧ parent = tcUnspec then tcIngress else parent
  let handle := if kind = some nameIngress ∧ handle = tcUnspec then tcIngressHandle else handle
  if parent = tcUnspec then .error .parentNotSpecified
  else .ok ⟨handle, parent, kind, (lookupAttribute ht []).map getString⟩

/-- `_tc_read_common_opts`. -/
def tcReadCommonOpts (str : List Char) : Except TcError CommonOpts :=
  match parseAttributes str tcObjectAttributeSpec with
  | .error error => .error error
  | .ok ht =>
    match readParent ht with
    | .error error => .error error
    | .ok parent =>
      match readHandle ht with
      | .error error => .error error
      | .ok handle => commonOpts ht parent handle

/-- The options of a queueing discipline.  The rest of the text is dropped if the kind has none. -/
def qdiscOptions (kind rest : Option (List Char)) : Except TcError (Option Attributes) :=
  match rest with
  | none => .ok none
  | some rest =>
    match tcQdiscAttributeSpec.find? fun attrs => some attrs.1 = kind with
    | none => .ok none
    | some attrs =>
      match parseAttributes rest attrs.2 with
      | .error error => .error error
      | .ok options => .ok (some options)

/-- `nm_utils_tc_qdisc_from_str`. -/
def tcQdiscFromStr (str : List Char) : Except TcError NMTCQdisc :=
  match tcReadCommonOpts str with
  | .error error => .error error
  | .ok opts =>
    match qdiscOptions opts.kind opts.rest with
    | .error error => .error error
    | .ok options =>
      match options.bind fun options => lookupAttribute options [] with
      | some value => .error (.unsupportedQdiscOption (getString value))
      | none =>
        match checkNew opts.kind opts.parent with
        | .error error => .error error
        | .ok kind =>
          .ok ⟨kind, opts.handle, opts.parent, (options.getD []).foldl setAttribute []⟩

def actionAttrs (kind : List Char) : Option (List NMVariantAttributeSpec) :=
  if kind = nameSimple then some tcActionSimpleAttributeSpec
  else if kind = nameMirred then some tcActionMirredAttributeSpec
  else none

/-- `nm_utils_tc_action_from_str`. -/
def tcActionFromStr (str : List Char) : Except TcError NMTCAction :=
  match parseAttributes str tcActionAttributeSpec with
  | .error error => .error error
  | .ok ht =>
    match lookupAttribute ht nameKind with
    | none => .error .actionNameMissing
    | some variant =>
      match checkKind (some (getString variant)) with
      | .error error => .error error
      | .ok kind =>
        match lookupAttribute ht [] with
        | none => .ok ⟨kind, []⟩
        | some rest =>
          match actionAttrs kind with
          | none => .error (.unsupportedActionOption (getString rest))
          | some attrs =>
            match parseAttributes (getString rest) attrs with
            | .error error => .error error
            | .ok options => .ok ⟨kind, options.foldl setAttribute []⟩

/-- The action of a filter, from the rest of its text. -/
def tfilterAction (rest : Option (List Char)) : Except TcError (Option NMTCAction) :=
  match rest with
  | none => .ok none
  | some rest =>
    match parseAttributes rest tcTfilterAttributeSpec with
    | .error error => .error error
    | .ok ht =>
      if ht.contains nameAction then
        match lookupAttribute ht [] with
        | none => .error (.invalidAction .noText)
        | some extraOpts =>
          match tcActionFromStr (getString extraOpts) with
          | .error error => .error (.invalidAction error)
          | .ok action => .ok (some action)
      else .error (.unsupportedTfilterOption rest)

/-- `nm_utils_tc_tfilter_from_str`. -/
def tcTfilterFromStr (str : List Char) : Except TcError NMTCTfilter :=
  match tcReadCommonOpts str with
  | .error error => .error error
  | .ok opts =>
    match tfilterAction opts.rest with
    | .error error => .error error
    | .ok action =>
      match checkNew opts.kind opts.parent with
      | .error error => .error error
      | .ok kind => .ok ⟨kind, opts.handle, opts.parent, action⟩

/-- `_nm_utils_string_append_tc_parent`, with the word "parent". -/
def parentToStr (parent : Nat) : List Char :=
  if parent = tcRoot then nameRoot ++ [' ']
  else if parent = tcIngress then []
  else nameParent ++ ' ' :: handleToStr parent ++ [' ']

def handleWord (written : Bool) (handle : Nat) : List Char :=
  if handle ≠ tcUnspec ∧ written then nameHandle ++ ' ' :: handleToStr handle ++ [' '] else []

def attributesToStr (attributes : Attributes) : List Char :=
  match formatVariantAttributes attributes ' ' ' ' with
  | none => []
  | some str => ' ' :: str

/-- `nm_utils_tc_qdisc_to_str`.  The handle of the kind "ingress" is not written. -/
def tcQdiscToStr (qdisc : NMTCQdisc) : List Char :=
  parentToStr qdisc.parent ++ handleWord (qdisc.kind ≠ nameIngress) qdisc.handle ++
    qdisc.kind ++ attributesToStr qdisc.attributes

/-- `nm_utils_tc_action_to_str`. -/
def tcActionToStr (action : NMTCAction) : List Char :=
  action.kind ++ attributesToStr action.attributes

/-- `nm_utils_tc_tfilter_to_str`. -/
def tcTfilterToStr (tfilter : NMTCTfilter) : List Char :=
  parentToStr tfilter.parent ++ handleWord true tfilter.handle ++ tfilter.kind ++
    match tfilter.action with
    | none => []
    | some action => ' ' :: nameAction ++ ' ' :: tcActionToStr action

end NetworkManager.TrafficControl
