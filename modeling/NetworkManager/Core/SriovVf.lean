import NetworkManager.Core.VariantAttributes
import NetworkManager.Library.OrderedMap

/-!
# Virtual functions as text

A virtual function of a network card has an index, attributes and VLANs.  Its text is the index,
followed by the attributes and the list of the VLANs, which is written like an attribute but read
with separators of its own.
-/

namespace NetworkManager.Sriov

open Ascii VariantAttributes

/-- `NMSriovVFVlanProtocol`. -/
inductive NMSriovVFVlanProtocol where
  /-- `NM_SRIOV_VF_VLAN_PROTOCOL_802_1Q`. -/
  | q
  /-- `NM_SRIOV_VF_VLAN_PROTOCOL_802_1AD`. -/
  | ad
  deriving DecidableEq, Repr

/-- `VFVlan`, whose identifier is the key in the table. -/
structure VFVlan where
  qos : UInt32
  protocol : NMSriovVFVlanProtocol
  deriving DecidableEq, Repr

/-- `NMSriovVF`. -/
structure NMSriovVF where
  index : UInt32
  attributes : OrderedMap (List Char) GVariant
  vlans : OrderedMap UInt32 VFVlan
  deriving DecidableEq

namespace NMSriovVF

/-- `nm_sriov_vf_new`. -/
def new (index : UInt32) : NMSriovVF := ⟨index, .empty, .empty⟩

section

variable (vf : NMSriovVF)

/-- `nm_sriov_vf_set_attribute`, of a value that is there. -/
def setAttribute (name : List Char) (value : GVariant) : NMSriovVF :=
  if name = [] || name = "index".toList then vf
  else { vf with attributes := vf.attributes.set name value }

/-- `nm_sriov_vf_get_attribute_names`. -/
def getAttributeNames : List (List Char) :=
  ListSort.sort compare vf.attributes.keys

/-- `nm_sriov_vf_get_attribute`. -/
def getAttribute (name : List Char) : Option GVariant := vf.attributes.get name

/-- `nm_sriov_vf_add_vlan`, without a value if the VLAN exists. -/
def addVlan (vlanId : UInt32) : Option NMSriovVF :=
  if (vf.vlans.get vlanId).isSome then none
  else some { vf with vlans := vf.vlans.set vlanId ⟨0, .q⟩ }

/-- `nm_sriov_vf_get_vlan_ids`. -/
def getVlanIds : List UInt32 := ListSort.sort compare vf.vlans.keys

/-- `nm_sriov_vf_set_vlan_qos`. -/
def setVlanQos (vlanId qos : UInt32) : NMSriovVF :=
  match vf.vlans.get vlanId with
  | none => vf
  | some vlan => { vf with vlans := vf.vlans.set vlanId { vlan with qos := qos } }

/-- `nm_sriov_vf_set_vlan_protocol`. -/
def setVlanProtocol (vlanId : UInt32) (protocol : NMSriovVFVlanProtocol) : NMSriovVF :=
  match vf.vlans.get vlanId with
  | none => vf
  | some vlan => { vf with vlans := vf.vlans.set vlanId { vlan with protocol := protocol } }

/-- `nm_sriov_vf_get_vlan_qos`. -/
def getVlanQos (vlanId : UInt32) : UInt32 :=
  ((vf.vlans.get vlanId).map VFVlan.qos).getD 0

/-- `nm_sriov_vf_get_vlan_protocol`. -/
def getVlanProtocol (vlanId : UInt32) : NMSriovVFVlanProtocol :=
  ((vf.vlans.get vlanId).map VFVlan.protocol).getD .q

end

/-- `nm_sriov_vf_equal`. -/
def equal (vf other : NMSriovVF) : Bool :=
  vf.index = other.index &&
    vf.attributes.entries.length = other.attributes.entries.length &&
    (vf.attributes.entries.all fun entry => other.attributes.get entry.1 = some entry.2) &&
    vf.vlans.entries.length = other.vlans.entries.length &&
    vf.vlans.entries.all fun entry => other.vlans.get entry.1 = some entry.2

end NMSriovVF

/-- The kinds of texts in `str_type`. -/
inductive StrType where
  | none
  /-- 'm', for a MAC address. -/
  | mac
  /-- 'd', for D-Bus only. -/
  | dbus
  deriving DecidableEq, Repr

/-- `_nm_sriov_vf_attribute_spec`, with the kinds of texts. -/
def sriovVfAttributeSpecTypes : List (NMVariantAttributeSpec × StrType) :=
  [(⟨"mac".toList, .string, false, false⟩, .mac),
    (⟨"spoof-check".toList, .boolean, false, false⟩, .none),
    (⟨"trust".toList, .boolean, false, false⟩, .none),
    (⟨"min-tx-rate".toList, .uint32, false, false⟩, .none),
    (⟨"max-tx-rate".toList, .uint32, false, false⟩, .none),
    (⟨"vlans".toList, .string, false, false⟩, .dbus)]

/-- `_nm_sriov_vf_attribute_spec`. -/
def sriovVfAttributeSpec : List NMVariantAttributeSpec := sriovVfAttributeSpecTypes.map Prod.fst

inductive ValidateError where
  /-- "attribute '%s':unknown attribute". -/
  | unknownAttribute (name : List Char)
  /-- "attribute '%s':invalid attribute type '%s'". -/
  | invalidType (name : List Char) (type : VariantType)
  /-- "attribute '%s':'%s' is not a valid MAC address". -/
  | invalidMac (name string : List Char)
  /-- "min_tx_rate is greater than max_tx_rate". -/
  | minGreaterMax
  deriving DecidableEq, Repr

/-- `nm_utils_hexchar_to_int`, without a value for -1. -/
def hexcharToInt (c : Char) : Option Nat := if digitValue c < 16 then some (digitValue c) else none

/-- `nm_utils_hexstr2bin_full`, as it is called for hardware addresses: a delimiter is required.
The bytes that were read are counted, and there are at most as many as the buffer has room for. -/
def hexstr2bin (delimiterCandidates : List Char) :
    Nat → Option Char → List Char → List Nat → Option (List Nat)
  | 0, _, _, _ => none
  | bufferLen + 1, delimiter, hexstr, out =>
    -- What follows a byte, unless the text is at its end.
    let next (d2 : Char) (rest : List Char) (out : List Nat) : Option (List Nat) :=
      if bufferLen = 0 then none
      else
        match delimiter with
        | some delimiter =>
          if d2 ≠ delimiter then none
          else hexstr2bin delimiterCandidates bufferLen (some delimiter) rest out
        | none =>
          if d2 ∈ delimiterCandidates then
            hexstr2bin delimiterCandidates bufferLen (some d2) rest out
          else none
    match hexstr with
    | [] => none
    | d1 :: rest =>
      match hexcharToInt d1 with
      | none => none
      | some i1 =>
        match rest with
        | [] => some (out ++ [i1])
        | d2 :: rest =>
          match hexcharToInt d2 with
          | some i2 =>
            match rest with
            | [] => some (out ++ [i1 * 16 + i2])
            | d3 :: rest => next d3 rest (out ++ [i1 * 16 + i2])
          | none => next d2 rest (out ++ [i1])

/-- `nm_utils_hwaddr_valid`, for any length up to `NM_UTILS_HWADDR_LEN_MAX`. -/
def hwaddrValid (asc : List Char) : Bool := (hexstr2bin [':', '-'] 20 none asc []).isSome

/-- `nm_sriov_vf_attribute_validate`. -/
def attributeValidate (name : List Char) (value : GVariant) : Except ValidateError Unit :=
  match sriovVfAttributeSpecTypes.find? fun spec => spec.1.name = name with
  | none => .error (.unknownAttribute name)
  | some (spec, strType) =>
    if strType = .dbus then .error (.unknownAttribute name)
    else if value.type ≠ spec.type then .error (.invalidType name value.type)
    else
      match value, strType with
      | .string string, .mac =>
        if hwaddrValid string then .ok () else .error (.invalidMac name string)
      | _, _ => .ok ()

/-- `_nm_sriov_vf_attribute_validate_all`. -/
def attributeValidateAll (vf : NMSriovVF) : Except ValidateError Unit :=
  match vf.attributes.entries.forM fun entry => attributeValidate entry.1 entry.2 with
  | .error error => .error error
  | .ok () =>
    match vf.getAttribute "min-tx-rate".toList, vf.getAttribute "max-tx-rate".toList with
    | some (.uint32 min), some (.uint32 max) =>
      if min > max then .error .minGreaterMax else .ok ()
    | _, _ => .ok ()

def vlanText (vlanId qos : UInt32) (protocol : NMSriovVFVlanProtocol) : List Char :=
  Nat.toDigits 10 vlanId.toNat ++
    if qos ≠ 0 ∨ protocol ≠ .q then
      '.' :: Nat.toDigits 10 qos.toNat ++ if protocol = .q then [] else ".ad".toList
    else []

/-- The loop over VLANs in `nm_utils_sriov_vf_to_str`, with what is written in front of the next
one. -/
def vlansText (vf : NMSriovVF) : Char → List UInt32 → List Char
  | _, [] => []
  | separator, vlanId :: vlanIds =>
    separator :: vlanText vlanId (vf.getVlanQos vlanId) (vf.getVlanProtocol vlanId) ++
      vlansText vf ';' vlanIds

/-- `nm_utils_sriov_vf_to_str`. -/
def sriovVfToStr (vf : NMSriovVF) (omitIndex : Bool) : List Char :=
  let index := if omitIndex then [] else Nat.toDigits 10 vf.index.toNat
  let values : Attributes := vf.getAttributeNames.filterMap fun name =>
    (vf.getAttribute name).map fun value => (name, value)
  let attributes :=
    if values.length > 0 then
      (if omitIndex then [] else [' ']) ++ formatVariantAttributesFull ' ' '=' [] values
    else []
  let vlanIds := vf.getVlanIds
  let vlans := if vlanIds.length ≠ 0 then " vlans".toList ++ vlansText vf '=' vlanIds else []
  index ++ attributes ++ vlans

inductive ReadError where
  /-- "invalid index". -/
  | invalidIndex
  | attributes (error : ParseError)
  /-- "empty VF VLAN". -/
  | emptyVlan
  /-- "invalid VF VLAN id '%s'". -/
  | invalidVlanId (text : List Char)
  /-- "duplicate VLAN id %u". -/
  | duplicateVlanId (vlanId : UInt32)
  /-- "invalid VF VLAN QoS '%s'". -/
  | invalidVlanQos (text : List Char)
  /-- "invalid VF VLAN protocol '%s'". -/
  | invalidVlanProtocol (text : List Char)
  deriving DecidableEq, Repr

/-- `nm_utils_strsplit_set` with one delimiter: the parts that are not empty. -/
def strsplitSet (delimiter : Char) (str : List Char) : List (List Char) :=
  (str.splitOn delimiter).filter (· ≠ [])

/-- `g_strsplit` of a text that is not empty, with the number of cuts that are left. -/
def strsplit (delimiter : Char) : Nat → List Char → List (List Char)
  | 0, string => [string]
  | cuts + 1, string =>
    match cutAt delimiter string with
    | (front, none) => [front]
    | (front, some rest) => front :: strsplit delimiter cuts rest

/-- `g_strchomp`. -/
def strchomp (string : List Char) : List Char := (string.reverse.dropWhile isSpace).reverse

/-- A number in any base, if there are only characters for one. -/
def parseNumber (text : List Char) (max fallback : Int) : Int :=
  if text.all fun c => c == 'x' || c.isDigit then strToInt64 text 0 0 max fallback else fallback

/-- One turn of the loop in `_nm_sriov_vf_parse_vlans`. -/
def parseVlan (vf : NMSriovVF) (vlan : List Char) : Except ReadError NMSriovVF :=
  let stripped := skipLeadingSpaces vlan
  match if stripped = [] then [] else strsplit '.' 2 stripped with
  | [] => .error .emptyVlan
  | idText :: params =>
    if idText = [] then .error .emptyVlan
    else
      let idText := if params = [] then strchomp idText else idText
      let id := parseNumber idText 4095 (2 ^ 32 - 1)
      if id = 2 ^ 32 - 1 then .error (.invalidVlanId idText)
      else
        let vlanId := UInt32.ofNat id.toNat
        match vf.addVlan vlanId with
        | none => .error (.duplicateVlanId vlanId)
        | some vf =>
          match params with
          | [] => .ok vf
          | qosText :: params =>
            let qosText := if params = [] then strchomp qosText else qosText
            let qos := parseNumber qosText (2 ^ 32 - 1) (-1)
            if qos = -1 then .error (.invalidVlanQos qosText)
            else
              let vf := vf.setVlanQos vlanId (UInt32.ofNat qos.toNat)
              match params with
              | [] => .ok vf
              | protocolText :: _ =>
                let protocolText := strchomp protocolText
                if protocolText = "ad".toList then .ok (vf.setVlanProtocol vlanId .ad)
                else if protocolText = "q".toList then .ok (vf.setVlanProtocol vlanId .q)
                else .error (.invalidVlanProtocol protocolText)

/-- `_nm_sriov_vf_parse_vlans`. -/
def parseVlans (vf : NMSriovVF) (str : List Char) : Except ReadError NMSriovVF :=
  match strsplitSet ';' str with
  | [] => .error .emptyVlan
  | vlans => vlans.foldlM parseVlan vf

/-- `_nm_utils_sriov_vf_from_strparts`. -/
def sriovVfFromStrparts (index : List Char) (detail : Option (List Char)) (ignoreUnknown : Bool) :
    Except ReadError NMSriovVF :=
  -- A negative number stands for `errno`.
  let number := strToInt64 index 10 0 (2 ^ 32 - 1) (-1)
  if number < 0 then .error .invalidIndex
  else
    let vf := NMSriovVF.new (UInt32.ofNat number.toNat)
    match detail with
    | none => .ok vf
    | some detail =>
      match parseVariantAttributes detail ' ' '=' ignoreUnknown sriovVfAttributeSpec with
      | .error error => .error (.attributes error)
      | .ok ht =>
        let vlans := match ht.find? fun entry => entry.1 = "vlans".toList with
          | some (_, .string str) => some str
          | _ => none
        match match vlans with
          | some str => parseVlans vf str
          | none => .ok vf with
        | .error error => .error error
        | .ok vf =>
          .ok ((ht.filter fun entry => entry.1 ≠ "vlans".toList).foldl
            (fun vf entry => vf.setAttribute entry.1 entry.2) vf)

/-- `nm_utils_sriov_vf_from_str`. -/
def sriovVfFromStr (str : List Char) : Except ReadError NMSriovVF :=
  let (index, detail) := cutAt ' ' (str.dropWhile (· = ' '))
  sriovVfFromStrparts index detail false

end NetworkManager.Sriov
