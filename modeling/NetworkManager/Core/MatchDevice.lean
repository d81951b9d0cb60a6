import NetworkManager.Core.HexString
import NetworkManager.Library.SignedScan

/-!
# Matching device specs

A list of specs says which devices are meant.  A spec names one property of a device, or it is an
exception.  Some properties are parsed when a spec first asks for them, and the parsed value is kept
for the specs that follow.  Whether a spec matches does not depend on what was kept.
-/

namespace NetworkManager.MatchSpec

open Ascii HexString SignedScan

/-- `NMMatchSpecMatchType`. -/
inductive NMMatchSpecMatchType where
  | noMatch
  | match
  | negMatch
  deriving DecidableEq, Repr

/-- `_MATCH_CHECK`: the text behind a tag, if a spec begins with it. -/
def matchCheck (spec tag : List Char) : Option (List Char) :=
  if caseEqual (spec.take tag.length) tag then some (spec.drop tag.length) else none

/-- `EXCEPT_TAG`. -/
def exceptTag : List Char := "except:".toList

/-- `DEVICE_TYPE_TAG`. -/
def deviceTypeTag : List Char := "type:".toList

/-- `NM_MATCH_SPEC_MAC_TAG`. -/
def macTag : List Char := "mac:".toList

/-- `NM_MATCH_SPEC_INTERFACE_NAME_TAG`. -/
def interfaceNameTag : List Char := "interface-name:".toList

/-- `DRIVER_TAG`. -/
def driverTag : List Char := "driver:".toList

/-- `NM_MATCH_SPEC_S390_SUBCHANNELS_TAG`. -/
def s390SubchannelsTag : List Char := "s390-subchannels:".toList

/-- `DHCP_PLUGIN_TAG`. -/
def dhcpPluginTag : List Char := "dhcp-plugin:".toList

/-- A spec without the tag of an exception. -/
structure SpecItem where
  except : Bool
  text : List Char
  deriving DecidableEq, Repr

/-- `match_except`. -/
def matchExcept (spec : List Char) : SpecItem :=
  match matchCheck spec exceptTag with
  | some text => ⟨true, text⟩
  | none => ⟨false, spec⟩

/-- The spec of a list element, which is left out if it is `NULL` or empty. -/
def specItem : Option (List Char) → Option SpecItem
  | none => none
  | some [] => none
  | some (c :: spec) => some (matchExcept (c :: spec))

/-- `_match_result`. -/
def matchResult (found : Found) : NMMatchSpecMatchType :=
  if found.hasExcept && !found.hasNotExcept then
    if found.hasMatchExcept then .negMatch else .match
  else if found.hasMatchExcept then .negMatch
  else if found.hasMatch then .match
  else .noMatch

/-- The loop over a list of specs, which `nm_match_spec_device` and `nm_match_spec_config` have in
common. -/
def matchSpecs {State : Type*} (eval : SpecItem → State → Bool × State)
    (specs : List (Option (List Char))) (state : State) : NMMatchSpecMatchType :=
  if specs = [] then .noMatch
  else matchResult (specs.foldl (fun scanned spec =>
    match specItem spec with
    | none => scanned
    | some item => step SpecItem.except eval scanned item) ({}, state)).1

/-- `NM_UTILS_HWADDR_LEN_MAX`. -/
def hwaddrLenMax : UInt64 := 20

/-- `hwaddr_aton`. -/
def hwaddrAton (asc : List Char) : Hexstr2bin :=
  hexstr2binFull asc false true [':', '-'] 0 hwaddrLenMax

/-- The hardware address of a device. -/
structure HwaddrData where
  value : Option (List Char)
  isParsed : Bool := false
  len : Nat := 0
  bin : List UInt8 := []
  deriving DecidableEq, Repr

/-- `INFINIBAND_ALEN`. -/
def infinibandAlen : Nat := 20

/-- `nm_utils_hwaddr_matches` of a text and an address. -/
def hwaddrMatches (hwaddr1 : List Char) (hwaddr2 : List UInt8) : Bool :=
  let buf1 := hwaddrAton hwaddr1
  if !buf1.success then false
  else if hwaddr2.length = 0 || hwaddr2.length > hwaddrLenMax.toNat then false
  else if hwaddr2.length ≠ buf1.outLen then false
  else if buf1.outLen = infinibandAlen then
    buf1.written.drop (infinibandAlen - 8) == hwaddr2.drop (infinibandAlen - 8)
  else buf1.written == hwaddr2

/-- The first part of `match_device_hwaddr_eval`: the address is parsed if it was not. -/
def HwaddrData.parse (hwaddr : HwaddrData) : HwaddrData :=
  if hwaddr.isParsed then hwaddr
  else
    match hwaddr.value with
    | none => { hwaddr with isParsed := true }
    | some value =>
      let aton := hwaddrAton value
      if aton.success then
        { hwaddr with isParsed := true, len := aton.outLen, bin := aton.written }
      else { hwaddr with isParsed := true, bin := aton.written }

/-- `match_device_hwaddr_eval`. -/
def matchDeviceHwaddrEval (spec : List Char) (hwaddr : HwaddrData) : Bool × HwaddrData :=
  let hwaddr := hwaddr.parse
  if hwaddr.len = 0 then (false, hwaddr)
  else (hwaddrMatches spec (hwaddr.bin.take hwaddr.len), hwaddr)

/-- The loop of `match_device_s390_subchannels_parse`, with the characters that were copied. -/
def copySubchannel (copied : List Char) : List Char → Option (List Char)
  | [] => some copied
  | c :: rest =>
    if ¬ digitValue c < 16 ∧ c ≠ '.' then
      -- Only the first channel is considered.
      if c = ',' then some copied else none
    else if copied.length ≥ 30 then none
    else copySubchannel (copied ++ [c]) rest

def subchannelNumber (text : List Char) : Option UInt32 :=
  let number := strToInt64 text 16 0 0xFFFFFFFF (-1)
  if number = -1 then none else some (UInt32.ofNat number.toNat)

/-- `match_device_s390_subchannels_parse`. -/
def matchDeviceS390SubchannelsParse (subchannels : List Char) : Option (UInt32 × UInt32 × UInt32) :=
  match subchannels with
  | [] => none
  | c :: _ =>
    if ¬ digitValue c < 16 then none
    else do
      let buf ← copySubchannel [] subchannels
      let (pa, pb) := cutAt '.' buf
      let (pb, pc) := cutAt '.' (← pb)
      let pc ← pc
      let a ← subchannelNumber pa
      let b ← subchannelNumber pb
      let c ← subchannelNumber pc
      some (a, b, c)

/-- The subchannels of a device. -/
structure SubchannelsData where
  value : Option (List Char)
  isParsed : Bool := false
  a : UInt32 := 0
  b : UInt32 := 0
  c : UInt32 := 0
  deriving DecidableEq, Repr

/-- The first part of `match_data_s390_subchannels_eval`: the subchannels are parsed if they were
not, and given up if they cannot be. -/
def SubchannelsData.parse (subchannels : SubchannelsData) : SubchannelsData :=
  if subchannels.isParsed then subchannels
  else
    match subchannels.value.bind matchDeviceS390SubchannelsParse with
    | none => { subchannels with isParsed := true, value := none }
    | some (a, b, c) => { subchannels with isParsed := true, a := a, b := b, c := c }

/-- `match_data_s390_subchannels_eval`. -/
def matchDataS390SubchannelsEval (spec : List Char) (subchannels : SubchannelsData) :
    Bool × SubchannelsData :=
  let subchannels := subchannels.parse
  if subchannels.value = none then (false, subchannels)
  else
    match matchDeviceS390SubchannelsParse spec with
    | none => (false, subchannels)
    | some (a, b, c) =>
      (subchannels.a == a && subchannels.b == b && subchannels.c == c, subchannels)

/-- `MatchDeviceData`. -/
structure MatchDeviceData where
  interfaceName : Option (List Char)
  deviceType : Option (List Char)
  driver : Option (List Char)
  driverVersion : Option (List Char)
  dhcpPlugin : Option (List Char)
  hwaddr : HwaddrData
  subchannels : SubchannelsData
  deriving DecidableEq, Repr

/-- The arguments of `nm_match_spec_device` about the device. -/
structure Device where
  interfaceName : Option (List Char) := none
  deviceType : Option (List Char) := none
  driver : Option (List Char) := none
  driverVersion : Option (List Char) := none
  hwaddr : Option (List Char) := none
  subchannels : Option (List Char) := none
  dhcpPlugin : Option (List Char) := none
  deriving DecidableEq, Repr

/-- `nm_str_not_empty`. -/
def strNotEmpty (str : Option (List Char)) : Option (List Char) :=
  str.filter fun str => str ≠ []

@[simp] theorem strNotEmpty_none : strNotEmpty none = none := rfl

@[simp] theorem strNotEmpty_nil : strNotEmpty (some []) = none := rfl

@[simp] theorem strNotEmpty_cons (c : Char) (str : List Char) :
    strNotEmpty (some (c :: str)) = some (c :: str) := rfl

def Device.matchData (device : Device) : MatchDeviceData where
  interfaceName := device.interfaceName
  deviceType := strNotEmpty device.deviceType
  driver := strNotEmpty device.driver
  driverVersion := strNotEmpty device.driverVersion
  dhcpPlugin := strNotEmpty device.dhcpPlugin
  hwaddr := { value := device.hwaddr }
  subchannels := { value := device.subchannels }

/-- `strncmp` finds no difference in the first characters of two texts. -/
def strncmpEqual : Nat → List Char → List Char → Bool
  | 0, _, _ => true
  | _ + 1, [], [] => true
  | count + 1, c :: left, d :: right => c == d && strncmpEqual count left right
  | _ + 1, _, _ => false

/-- `strrchr`: the texts in front of the last occurrence of a character and after it. -/
def strrchr (c : Char) (str : List Char) : Option (List Char × List Char) :=
  let (after, before) := cutAt c str.reverse
  before.map fun before => (before.reverse, after.reverse)

/-- `g_pattern_match_simple`, as it is documented: `*` is any text and `?` is any character. -/
def patternMatchSimple : List Char → List Char → Bool
  | [], str => str.isEmpty
  | '*' :: pattern, str => str.tails.any (patternMatchSimple pattern)
  | '?' :: pattern, str =>
    match str with
    | [] => false
    | _ :: str => patternMatchSimple pattern str
  | c :: pattern, str =>
    match str with
    | [] => false
    | d :: str => c == d && patternMatchSimple pattern str

section

variable (glob : List Char → List Char → Bool)

/-- How `match_device_eval` compares an interface name, where `=` asks for the name itself and `~`
for a pattern. -/
def interfaceNameEval (spec : List Char) (interfaceName : Option (List Char)) : Bool :=
  let (spec, usePattern) := match spec with
    | '=' :: spec => (spec, false)
    | '~' :: spec => (spec, true)
    | spec => (spec, true)
  match interfaceName with
  | none => false
  | some name => spec == name || (usePattern && glob spec name)

/-- How `match_device_eval` compares a driver and its version. -/
def driverEval (spec : List Char) (driver driverVersion : Option (List Char)) : Bool :=
  match driver with
  | none => false
  | some driver =>
    match strrchr '/' spec with
    | none => spec == driver
    | some (front, version) =>
      strncmpEqual front.length spec driver && glob version (driverVersion.getD [])

/-- `match_device_eval`, for any `g_pattern_match_simple`. -/
def matchDeviceEval (spec : List Char) (allowFuzzy : Bool) (data : MatchDeviceData) :
    Bool × MatchDeviceData :=
  if spec = ['*'] then (true, data)
  else if let some spec := matchCheck spec deviceTypeTag then
    (data.deviceType == some spec, data)
  else if let some spec := matchCheck spec macTag then
    let (matched, hwaddr) := matchDeviceHwaddrEval spec data.hwaddr
    (matched, { data with hwaddr := hwaddr })
  else if let some spec := matchCheck spec interfaceNameTag then
    (interfaceNameEval glob spec data.interfaceName, data)
  else if let some spec := matchCheck spec driverTag then
    (driverEval glob spec data.driver data.driverVersion, data)
  else if let some spec := matchCheck spec s390SubchannelsTag then
    let (matched, subchannels) := matchDataS390SubchannelsEval spec data.subchannels
    (matched, { data with subchannels := subchannels })
  else if let some spec := matchCheck spec dhcpPluginTag then
    (data.dhcpPlugin == some spec, data)
  else if allowFuzzy then
    let (matched, hwaddr) := matchDeviceHwaddrEval spec data.hwaddr
    (matched || data.interfaceName == some spec, { data with hwaddr := hwaddr })
  else (false, data)

/-- `nm_match_spec_device`. -/
def nmMatchSpecDevice (specs : List (Option (List Char))) (device : Device) :
    NMMatchSpecMatchType :=
  matchSpecs (fun item => matchDeviceEval glob item.text (!item.except)) specs device.matchData

end

end NetworkManager.MatchSpec
