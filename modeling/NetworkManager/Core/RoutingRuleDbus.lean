import NetworkManager.Core.RoutingRuleRoundTrip

/-!
# Routing rules as dictionaries

On the bus a rule is a dictionary of variants.  The strict reader refuses keys that it does not
know, keys that occur twice and values of a wrong type.
-/

namespace NetworkManager.RoutingRule

open Ascii EscapedTokens Function InetAddress InterfaceName Option

/-- The values in a dictionary. -/
inductive RuleVariant where
  /-- `G_VARIANT_TYPE_BYTE`. -/
  | byte (value : UInt8)
  /-- `G_VARIANT_TYPE_UINT16`. -/
  | uint16 (value : UInt16)
  /-- `G_VARIANT_TYPE_INT32`. -/
  | int32 (value : Int)
  /-- `G_VARIANT_TYPE_STRING`. -/
  | string (value : List Char)
  /-- `G_VARIANT_TYPE_UINT32`. -/
  | uint32 (value : UInt32)
  /-- `G_VARIANT_TYPE_BOOLEAN`. -/
  | boolean (value : Bool)
  /-- A value of any other type. -/
  | other (type : List Char)
  deriving DecidableEq, Repr

namespace RuleVariant

def type : RuleVariant → List Char
  | byte _ => ['y']
  | uint16 _ => ['q']
  | int32 _ => ['i']
  | string _ => ['s']
  | uint32 _ => ['u']
  | boolean _ => ['b']
  | other type => type

/-- `g_variant_get_byte`, of a value of that type. -/
def getByte : RuleVariant → UInt8
  | byte value => value
  | _ => 0

/-- `g_variant_get_uint16`, of a value of that type. -/
def getUint16 : RuleVariant → UInt16
  | uint16 value => value
  | _ => 0

/-- `g_variant_get_int32`, of a value of that type. -/
def getInt32 : RuleVariant → Int
  | int32 value => value
  | _ => 0

/-- `g_variant_get_string`, of a value of that type. -/
def getString : RuleVariant → List Char
  | string value => value
  | _ => []

/-- `g_variant_get_uint32`, of a value of that type. -/
def getUint32 : RuleVariant → UInt32
  | uint32 value => value
  | _ => 0

/-- `g_variant_get_boolean`, of a value of that type. -/
def getBoolean : RuleVariant → Bool
  | boolean value => value
  | _ => false

end RuleVariant

/-- `RRDbusAttr`. -/
inductive RRDbusAttr where
  | action | dportEnd | dportStart | family | fromAddress | fromLen | fwmark | fwmask | iifname
  | invert | ipproto | oifname | priority | sportEnd | sportStart | table | suppressPrefixlength
  | toAddress | tos | toLen
  deriving DecidableEq, Repr

/-- The attributes, in the order of their numbers. -/
def rrDbusAttrs : List RRDbusAttr :=
  [.action, .dportEnd, .dportStart, .family, .fromAddress, .fromLen, .fwmark, .fwmask, .iifname,
    .invert, .ipproto, .oifname, .priority, .sportEnd, .sportStart, .table,
    .suppressPrefixlength, .toAddress, .tos, .toLen]

/-- The names in `rr_dbus_data`. -/
def RRDbusAttr.name : RRDbusAttr → List Char
  | action => ['a', 'c', 't', 'i', 'o', 'n']
  | dportEnd => ['d', 'p', 'o', 'r', 't', '-', 'e', 'n', 'd']
  | dportStart => ['d', 'p', 'o', 'r', 't', '-', 's', 't', 'a', 'r', 't']
  | family => ['f', 'a', 'm', 'i', 'l', 'y']
  | fromAddress => ['f', 'r', 'o', 'm']
  | fromLen => ['f', 'r', 'o', 'm', '-', 'l', 'e', 'n']
  | fwmark => ['f', 'w', 'm', 'a', 'r', 'k']
  | fwmask => ['f', 'w', 'm', 'a', 's', 'k']
  | iifname => ['i', 'i', 'f', 'n', 'a', 'm', 'e']
  | invert => ['i', 'n', 'v', 'e', 'r', 't']
  | ipproto => ['i', 'p', 'p', 'r', 'o', 't', 'o']
  | oifname => ['o', 'i', 'f', 'n', 'a', 'm', 'e']
  | priority => ['p', 'r', 'i', 'o', 'r', 'i', 't', 'y']
  | sportEnd => ['s', 'p', 'o', 'r', 't', '-', 'e', 'n', 'd']
  | sportStart => ['s', 'p', 'o', 'r', 't', '-', 's', 't', 'a', 'r', 't']
  | table => ['t', 'a', 'b', 'l', 'e']
  | suppressPrefixlength =>
    ['s', 'u', 'p', 'p', 'r', 'e', 's', 's', '-', 'p', 'r', 'e', 'f', 'i', 'x', 'l', 'e', 'n',
      'g', 't', 'h']
  | toAddress => ['t', 'o']
  | tos => ['t', 'o', 's']
  | toLen => ['t', 'o', '-', 'l', 'e', 'n']

/-- The types in `rr_dbus_data`. -/
def RRDbusAttr.dbusType : RRDbusAttr → List Char
  | action | fromLen | ipproto | tos | toLen => ['y']
  | dportEnd | dportStart | sportEnd | sportStart => ['q']
  | family | suppressPrefixlength => ['i']
  | fromAddress | iifname | oifname | toAddress => ['s']
  | fwmark | fwmask | priority | table => ['u']
  | invert => ['b']

/-- The values that were found. -/
abbrev RuleVariants := RRDbusAttr → Option RuleVariant

/-- The loop over the dictionary in `nm_ip_routing_rule_from_dbus`. -/
def collectVariants (strict : Bool) :
    RuleVariants → List (List Char × RuleVariant) → Except RuleError RuleVariants
  | variants, [] => .ok variants
  | variants, (key, value) :: entries =>
    match rrDbusAttrs.find? (fun attr => attr.name = key) with
    | none => if strict then .error (.invalidKey key) else collectVariants strict variants entries
    | some attr =>
      if strict && (variants attr).isSome then .error (.duplicateKey key)
      else collectVariants strict (Function.update variants attr (some value)) entries

/-- The check of the types in `nm_ip_routing_rule_from_dbus`. -/
def checkVariantTypes (variants : RuleVariants) : Except RuleError Unit :=
  match rrDbusAttrs.find? (fun attr => (variants attr).any (·.type ≠ attr.dbusType)) with
  | none => .ok ()
  | some attr => .error (.invalidVariantType attr.dbusType attr.name)

/-- The family in `nm_ip_routing_rule_from_dbus`. -/
def variantFamily (variants : RuleVariants) : Except RuleError AddrFamily :=
  match variants .family with
  | none => .error (.missingKey RRDbusAttr.family.name)
  | some value =>
    if value.getInt32 = AddrFamily.inet.number then .ok .inet
    else if value.getInt32 = AddrFamily.inet6.number then .ok .inet6
    else .error (.invalidFamily RRDbusAttr.family.name)

def setIf {α : Type} (value : Option α) (rule : NMIPRoutingRule) (set : α → NMIPRoutingRule) :
    NMIPRoutingRule :=
  match value with
  | none => rule
  | some value => set value

/-- The ports of a range; a missing one is the same as the other. -/
def variantPorts (first last : Option RuleVariant) : Option (UInt16 × UInt16) :=
  (first.or last).map fun either =>
    ((first.getD either).getUint16, (last.getD either).getUint16)

/-- Two values of which one may be missing. -/
def eitherVariant (first second : Option RuleVariant) :
    Option (Option RuleVariant × Option RuleVariant) :=
  if first.isSome || second.isSome then some (first, second) else none

/-- The rule that `nm_ip_routing_rule_from_dbus` makes of the values. -/
def dbusRule (inet : Inet) (family : AddrFamily) (variants : RuleVariants) : NMIPRoutingRule :=
  let rule := new family
  let rule := setIf (variants .priority) rule fun value => rule.setPriority value.getUint32.toNat
  let rule := setIf (variants .invert) rule fun value => rule.setInvert value.getBoolean
  let rule := setIf (variants .tos) rule fun value => rule.setTos value.getByte
  let rule := setIf (variants .ipproto) rule fun value => rule.setIpproto value.getByte
  let rule := setIf (variantPorts (variants .dportStart) (variants .dportEnd)) rule fun ports =>
    rule.setDestinationPort ports.1 ports.2
  let rule := setIf (variantPorts (variants .sportStart) (variants .sportEnd)) rule fun ports =>
    rule.setSourcePort ports.1 ports.2
  let rule := setIf (eitherVariant (variants .fwmark) (variants .fwmask)) rule fun values =>
    rule.setFwmark (values.1.elim 0 RuleVariant.getUint32) (values.2.elim 0 RuleVariant.getUint32)
  let rule := setIf (eitherVariant (variants .fromAddress) (variants .fromLen)) rule fun values =>
    rule.setFrom inet (values.1.map RuleVariant.getString) (values.2.elim 0 RuleVariant.getByte)
  let rule := setIf (eitherVariant (variants .toAddress) (variants .toLen)) rule fun values =>
    rule.setTo inet (values.1.map RuleVariant.getString) (values.2.elim 0 RuleVariant.getByte)
  let rule := setIf (variants .iifname) rule fun value => rule.setIifname (some value.getString)
  let rule := setIf (variants .oifname) rule fun value => rule.setOifname (some value.getString)
  let rule := setIf (variants .action) rule fun value => rule.setAction value.getByte
  let rule := setIf (variants .table) rule fun value => rule.setTable value.getUint32
  setIf (variants .suppressPrefixlength) rule fun value =>
    rule.setSuppressPrefixlength value.getInt32

/-- `nm_ip_routing_rule_from_dbus`. -/
def fromDbus (inet : Inet) (entries : List (List Char × RuleVariant)) (strict : Bool) :
    Except RuleError NMIPRoutingRule := do
  let variants ← collectVariants strict (fun _ => none) entries
  checkVariantTypes variants
  let family ← variantFamily variants
  let rule := dbusRule inet family variants
  if strict then validate rule
  return rule

/-- The order in which `nm_ip_routing_rule_to_dbus` adds the attributes. -/
def toDbusOrder : List RRDbusAttr :=
  [.family, .invert, .priority, .tos, .ipproto, .fwmark, .fwmask, .sportStart, .sportEnd,
    .dportStart, .dportEnd, .fromAddress, .fromLen, .toAddress, .toLen, .iifname, .oifname,
    .action, .table, .suppressPrefixlength]

/-- The value that `nm_ip_routing_rule_to_dbus` adds for an attribute. -/
def toDbusValue (inet : Inet) (rule : NMIPRoutingRule) : RRDbusAttr → Option RuleVariant
  | .family => some (.int32 rule.addrFamily.number)
  | .invert => if rule.invert then some (.boolean true) else none
  | .priority => if rule.priorityHas then some (.uint32 rule.priority) else none
  | .tos => if rule.tos ≠ 0 then some (.byte rule.tos) else none
  | .ipproto => if rule.ipproto ≠ 0 then some (.byte rule.ipproto) else none
  | .fwmark => if rule.fwmark ≠ 0 then some (.uint32 rule.fwmark) else none
  | .fwmask => if rule.fwmask ≠ 0 then some (.uint32 rule.fwmask) else none
  | .sportStart =>
    if rule.sportStart ≠ 0 ∨ rule.sportEnd ≠ 0 then some (.uint16 rule.sportStart) else none
  | .sportEnd =>
    if (rule.sportStart ≠ 0 ∨ rule.sportEnd ≠ 0) ∧ rule.sportStart ≠ rule.sportEnd then
      some (.uint16 rule.sportEnd)
    else none
  | .dportStart =>
    if rule.dportStart ≠ 0 ∨ rule.dportEnd ≠ 0 then some (.uint16 rule.dportStart) else none
  | .dportEnd =>
    if (rule.dportStart ≠ 0 ∨ rule.dportEnd ≠ 0) ∧ rule.dportStart ≠ rule.dportEnd then
      some (.uint16 rule.dportEnd)
    else none
  | .fromAddress =>
    if rule.fromHas ∨ rule.fromLen ≠ 0 then
      some (.string (rule.fromStr.getD
        (inet.ntop rule.addrFamily (rule.fromBin.address rule.addrFamily))))
    else none
  | .fromLen => if rule.fromHas ∨ rule.fromLen ≠ 0 then some (.byte rule.fromLen) else none
  | .toAddress =>
    if rule.toHas ∨ rule.toLen ≠ 0 then
      some (.string (rule.toStr.getD
        (inet.ntop rule.addrFamily (rule.toBin.address rule.addrFamily))))
    else none
  | .toLen => if rule.toHas ∨ rule.toLen ≠ 0 then some (.byte rule.toLen) else none
  | .iifname => rule.iifname.map .string
  | .oifname => rule.oifname.map .string
  | .action => if rule.action ≠ frActToTbl then some (.byte rule.action) else none
  | .table => if rule.table ≠ 0 then some (.uint32 rule.table) else none
  | .suppressPrefixlength =>
    if rule.suppressPrefixlength ≠ -1 then some (.int32 rule.suppressPrefixlength) else none

/-- `nm_ip_routing_rule_to_dbus`. -/
def toDbus (inet : Inet) (rule : NMIPRoutingRule) : List (List Char × RuleVariant) :=
  toDbusOrder.filterMap fun attr => (toDbusValue inet rule attr).map fun value => (attr.name, value)

theorem find_name (attr : RRDbusAttr) :
    rrDbusAttrs.find? (fun other => other.name = attr.name) = some attr := by
  cases attr <;> rfl

theorem collectVariants_filterMap (values : RuleVariants) {order : List RRDbusAttr}
    (nodup : order.Nodup) {variants : RuleVariants} (fresh : ∀ attr ∈ order, variants attr = none) :
    collectVariants true variants (order.filterMap fun attr =>
        (values attr).map fun value => (attr.name, value)) =
      .ok fun attr => if attr ∈ order then values attr else variants attr := by
  induction order generalizing variants with
  | nil => simp [collectVariants]
  | cons attr order ih =>
    obtain ⟨not_mem, nodup⟩ := List.nodup_cons.mp nodup
    obtain ⟨attr_fresh, fresh⟩ := List.forall_mem_cons.mp fresh
    cases value_eq : values attr with
    | none =>
      rw [List.filterMap_cons_none (by rw [value_eq]; rfl), ih nodup fresh]
      congr 1
      funext other
      by_cases same : other = attr
      · subst same
        rw [if_neg not_mem, if_pos List.mem_cons_self, attr_fresh, value_eq]
      · simp [same]
    | some value =>
      have updated : ∀ other ∈ order, update variants attr (some value) other = none := by
        intro other mem
        have other_ne : other ≠ attr := by
          rintro rfl
          exact not_mem mem
        rw [update_of_ne other_ne]
        exact fresh other mem
      rw [List.filterMap_cons_some (by rw [value_eq]; rfl), collectVariants]
      simp only [find_name, attr_fresh]
      rw [if_neg (by simp), ih nodup updated]
      congr 1
      funext other
      by_cases same : other = attr
      · subst same
        rw [if_neg not_mem, if_pos List.mem_cons_self, update_self, value_eq]
      · simp [same]

section Dictionary

variable {inet : Inet} {rule : NMIPRoutingRule}

theorem collectVariants_toDbus :
    collectVariants true (fun _ => none) (toDbus inet rule) = .ok (toDbusValue inet rule) := by
  have complete : ∀ attr, attr ∈ toDbusOrder := by
    intro attr
    cases attr <;> decide
  unfold toDbus
  rw [collectVariants_filterMap _ (by decide) (fun _ _ => rfl)]
  congr 1
  funext attr
  exact if_pos (complete attr)

theorem type_toDbusValue {attr : RRDbusAttr} {value : RuleVariant}
    (mem : value ∈ toDbusValue inet rule attr) : value.type = attr.dbusType := by
  cases attr <;>
    simp only [toDbusValue, mem_def, map_eq_some_iff,
      ite_none_right_eq_some, Option.some.injEq] at mem <;>
    first
      | (subst mem; rfl)
      | (obtain ⟨_, rfl⟩ := mem; rfl)
      | (obtain ⟨_, _, rfl⟩ := mem; rfl)

theorem checkVariantTypes_toDbus : checkVariantTypes (toDbusValue inet rule) = .ok () := by
  have typed : rrDbusAttrs.find? (fun attr =>
      (toDbusValue inet rule attr).any (·.type ≠ attr.dbusType)) = none := by
    rw [List.find?_eq_none]
    intro attr _ wrong
    obtain ⟨value, mem, wrong⟩ := (any_eq_true _ _).mp wrong
    exact of_decide_eq_true wrong (type_toDbusValue mem)
  unfold checkVariantTypes
  rw [typed]

theorem variantFamily_toDbus : variantFamily (toDbusValue inet rule) = .ok rule.addrFamily := by
  change (if rule.addrFamily.number = AddrFamily.inet.number then Except.ok AddrFamily.inet
    else if rule.addrFamily.number = AddrFamily.inet6.number then .ok .inet6 else _) = _
  cases rule.addrFamily <;> rfl

theorem setIf_ite {α : Type} {written : Prop} [Decidable written] (value : α)
    (built : NMIPRoutingRule) (set : α → NMIPRoutingRule) :
    setIf (if written then some value else none) built set =
      if written then set value else built := by
  split <;> rfl

theorem setIf_map {α β : Type} (value : Option α) (make : α → β) (built : NMIPRoutingRule)
    (set : β → NMIPRoutingRule) :
    setIf (value.map make) built set = setIf value built fun value => set (make value) := by
  cases value <;> rfl

variable {built : NMIPRoutingRule}

theorem ite_setAction {written : Prop} [Decidable written] (action : UInt8) :
    (if written then built.setAction action else built) =
      { built with action := if written then action else built.action } := by
  split <;> rfl

theorem setIf_iifname (iifname : Option (List Char)) :
    setIf iifname built (fun name => built.setIifname (some name)) =
      { built with iifname := iifname.or built.iifname } := by
  cases iifname <;> rfl

theorem setIf_oifname (oifname : Option (List Char)) :
    setIf oifname built (fun name => built.setOifname (some name)) =
      { built with oifname := oifname.or built.oifname } := by
  cases oifname <;> rfl

/-- A range is read back; its end is left out if it is the same as its start. -/
theorem variantPorts_eq (first last : UInt16) :
    variantPorts (if first ≠ 0 ∨ last ≠ 0 then some (.uint16 first) else none)
      (if (first ≠ 0 ∨ last ≠ 0) ∧ first ≠ last then some (.uint16 last) else none) =
      if first ≠ 0 ∨ last ≠ 0 then some (first, last) else none := by
  by_cases present : first ≠ 0 ∨ last ≠ 0
  · rw [if_pos present, if_pos present]
    by_cases same : first = last
    · rw [if_neg (fun different => different.2 same), same]
      rfl
    · rw [if_pos ⟨present, same⟩]
      rfl
  · rw [if_neg present, if_neg present, if_neg (fun different => present different.1)]
    rfl

theorem setIf_marks (fwmark fwmask : UInt32) (set : UInt32 → UInt32 → NMIPRoutingRule) :
    setIf (eitherVariant (if fwmark ≠ 0 then some (.uint32 fwmark) else none)
        (if fwmask ≠ 0 then some (.uint32 fwmask) else none)) built
      (fun values => set (values.1.elim 0 RuleVariant.getUint32)
        (values.2.elim 0 RuleVariant.getUint32)) =
      if fwmark ≠ 0 ∨ fwmask ≠ 0 then set fwmark fwmask else built := by
  by_cases no_mark : fwmark = 0 <;> by_cases no_mask : fwmask = 0 <;>
    simp [eitherVariant, setIf, RuleVariant.getUint32, no_mark, no_mask]

/-- The text of an address in the dictionary is the one that is kept or a new one. -/
theorem setIf_address {family : AddrFamily} {len : UInt8} {has valid : Bool} {bin : NMIPAddr}
    {str : Option (List Char)} (address : ValidAddress family len has valid)
    (cached : Cached inet family has valid bin str) (built : NMIPRoutingRule)
    (set : Option RuleVariant × Option RuleVariant → NMIPRoutingRule) :
    setIf (eitherVariant
        (if has ∨ len ≠ 0 then
          some (.string (str.getD (inet.ntop family (bin.address family))))
        else none)
        (if has ∨ len ≠ 0 then some (.byte len) else none)) built set =
      if has then
        set (some (.string (inet.ntop family (bin.address family))), some (.byte len))
      else built := by
  cases is_there : has with
  | false =>
    have no_len : len = 0 := not_not.mp (mt address.has_iff.mpr (by simp [is_there]))
    simp [eitherVariant, setIf, no_len]
  | true =>
    have text_eq : str.getD (inet.ntop family (bin.address family)) =
        inet.ntop family (bin.address family) := by
      cases str with
      | none => rfl
      | some text => exact cached is_there (address.readable is_there) text rfl
    simp [eitherVariant, setIf, text_eq]

section

variable (lawful : inet.Lawful)

include lawful

theorem parseInaddrBin_ntop (family : AddrFamily) (address : Vector UInt8 family.size)
    (out : NMIPAddr) :
    parseInaddrBin inet (some family) (inet.ntop family address) out =
      some (family, NMIPAddr.ipAddrSet family out address) := by
  unfold parseInaddrBin familyOf
  rw [getD_some, lawful.pton_ntop]
  rfl

theorem ite_setFrom {written : Prop} [Decidable written] {family : AddrFamily}
    (family_eq : built.addrFamily = family) (address : Vector UInt8 family.size) (len : UInt8) :
    (if written then built.setFrom inet (some (inet.ntop family address)) len else built) =
      { built with
        fromStr := if written then none else built.fromStr
        fromHas := if written then true else built.fromHas
        fromLen := if written then len else built.fromLen
        fromValid := if written then true else built.fromValid
        fromBin :=
          if written then NMIPAddr.ipAddrSet family built.fromBin address else built.fromBin } := by
  unfold NMIPRoutingRule.setFrom
  dsimp only
  rw [family_eq, parseInaddrBin_ntop lawful]
  split <;> rfl

theorem ite_setTo {written : Prop} [Decidable written] {family : AddrFamily}
    (family_eq : built.addrFamily = family) (address : Vector UInt8 family.size) (len : UInt8) :
    (if written then built.setTo inet (some (inet.ntop family address)) len else built) =
      { built with
        toStr := if written then none else built.toStr
        toHas := if written then true else built.toHas
        toLen := if written then len else built.toLen
        toValid := if written then true else built.toValid
        toBin :=
          if written then NMIPAddr.ipAddrSet family built.toBin address else built.toBin } := by
  unfold NMIPRoutingRule.setTo
  dsimp only
  rw [family_eq, parseInaddrBin_ntop lawful]
  split <;> rfl

theorem dbusRule_eq (valid : ValidRule rule) (cached : RuleCached inet rule) :
    dbusRule inet rule.addrFamily (toDbusValue inet rule) =
      { rule with
        fromStr := none, toStr := none, fromValid := rule.fromHas, toValid := rule.toHas
        fromBin :=
          if rule.fromHas then
            NMIPAddr.ipAddrSet rule.addrFamily .zero (rule.fromBin.address rule.addrFamily)
          else .zero
        toBin :=
          if rule.toHas then
            NMIPAddr.ipAddrSet rule.addrFamily .zero (rule.toBin.address rule.addrFamily)
          else .zero } := by
  have from_eq := setIf_address valid.fromAddress cached.1
  have to_eq := setIf_address valid.toAddress cached.2
  have from_len : (if rule.fromHas then rule.fromLen else 0) = rule.fromLen :=
    valid.fromAddress.len_eq fun _ => rfl
  have to_len : (if rule.toHas then rule.toLen else 0) = rule.toLen :=
    valid.toAddress.len_eq fun _ => rfl
  have isV4 := isV4_eq rule
  have action := valid.action
  have has := valid.priority
  have table := valid.table
  have family_eq {built : NMIPRoutingRule} (same : built.isV4 = (new rule.addrFamily).isV4) :
      built.addrFamily = rule.addrFamily := by
    unfold NMIPRoutingRule.addrFamily at same ⊢
    rw [same]
    cases rule.isV4 <;> rfl
  simp only [dbusRule, toDbusValue, setIf_ite, setIf_map, variantPorts_eq, setIf_marks, from_eq,
    to_eq, map_some, elim_some, RuleVariant.getByte, RuleVariant.getInt32,
    RuleVariant.getString, RuleVariant.getUint32, RuleVariant.getBoolean, ite_setPriority,
    ite_setInvert, ite_setTos, ite_setIpproto, ite_setDestinationPort, ite_setSourcePort,
    ite_setFwmark, ite_setFrom lawful, ite_setTo lawful, family_eq, setIf_iifname, setIf_oifname,
    ite_setAction, ite_setTable, ite_setSuppressPrefixlength]
  generalize rule.addrFamily = family at *
  cases rule
  cases family <;> simp_all [new]

theorem dbusRule_same (valid : ValidRule rule) (cached : RuleCached inet rule) :
    SameRule rule (dbusRule inet rule.addrFamily (toDbusValue inet rule)) := by
  rw [dbusRule_eq lawful valid cached]
  refine sameRule_of_addresses valid (fun has => ?_) (fun has => ?_)
  · rw [if_pos has, NMIPAddr.address_ipAddrSet]
  · rw [if_pos has, NMIPAddr.address_ipAddrSet]

theorem fromDbus_toDbus (valid : ValidRule rule) (cached : RuleCached inet rule) :
    ∃ read, fromDbus inet (toDbus inet rule) true = .ok read ∧ SameRule rule read := by
  have same := dbusRule_same lawful valid cached
  refine ⟨_, ?_, same⟩
  unfold fromDbus
  rw [collectVariants_toDbus]
  change (checkVariantTypes (toDbusValue inet rule) >>= _) = _
  rw [checkVariantTypes_toDbus]
  change (variantFamily (toDbusValue inet rule) >>= _) = _
  rw [variantFamily_toDbus]
  change (validate (dbusRule inet rule.addrFamily (toDbusValue inet rule)) >>= _) = _
  rw [validate_eq_ok_iff.mpr (validRule_of_same same valid)]
  rfl

end

end Dictionary

/-- Every rule that the program made and that passes the check is read back from its text, whichever
fitting flags are given on either side, and from its dictionary; the rules compare equal. -/
theorem serialization_round_trip {inet : Inet} (lawful : inet.Lawful) (made : CachedRule inet)
    (accepted : validate made.rule = .ok ()) :
    (∀ flags readFlags, FlagsFit made.rule.addrFamily flags →
      FlagsFit made.rule.addrFamily readFlags →
      ∃ text read, toString inet made.rule flags 0 = .ok text ∧
        fromString inet text readFlags 0 = .ok read ∧ made.rule.cmp read = .eq) ∧
    ∃ read, fromDbus inet (toDbus inet made.rule) true = .ok read ∧ made.rule.cmp read = .eq := by
  have valid := validate_eq_ok_iff.mp accepted
  refine ⟨?_, ?_⟩
  · intro flags readFlags fit read_fit
    obtain ⟨text, read, written, read_eq, same⟩ := fromString_toString lawful valid fit read_fit
    exact ⟨text, read, written, read_eq, cmp_eq_of_same same⟩
  · obtain ⟨read, read_eq, same⟩ := fromDbus_toDbus lawful valid made.cached
    exact ⟨read, read_eq, cmp_eq_of_same same⟩

def exampleRule : CachedRule plainInet :=
  madeRule .inet [.setPriority 5, .setSourcePort 80 90,
    .setFromBin (some ⟨#v[192, 0, 2, 0, 0, 0, 0, 0, 0, 0, 0, 0, 0, 0, 0, 0]⟩) 24]

/-- The rule is read back, with the family left out in its text. -/
theorem serialization_round_trip_example :
    (∃ text read, toString plainInet exampleRule.rule flagAfInet 0 = .ok text ∧
      fromString plainInet text flagValidate 0 = .ok read ∧ exampleRule.rule.cmp read = .eq) ∧
    ∃ read, fromDbus plainInet (toDbus plainInet exampleRule.rule) true = .ok read ∧
      exampleRule.rule.cmp read = .eq := by
  have accepted : validate exampleRule.rule = .ok () := by decide
  obtain ⟨text, dictionary⟩ := serialization_round_trip plainInet_lawful exampleRule accepted
  exact ⟨text flagAfInet flagValidate ⟨by decide, by decide⟩ ⟨by decide, by decide⟩, dictionary⟩

end NetworkManager.RoutingRule
