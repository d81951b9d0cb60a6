import NetworkManager.Core.RoutingRuleRead

/-!
# Round trip of routing rules

A valid rule is read back from its text, with and without the address family, and from its
dictionary.
-/

namespace NetworkManager.RoutingRule

open Ascii EscapedTokens InetAddress InterfaceName

theorem foundNumber_ne {written : Prop} [Decidable written] (number : Nat) :
    foundNumber written number ≠ -1 ↔ written := by
  unfold foundNumber
  split <;> simp_all

theorem toNat_foundNumber {written : Prop} [Decidable written] (number : Nat) :
    (foundNumber written number).toNat = if written then number else 0 := by
  unfold foundNumber
  split <;> rfl

section Setters

variable {built : NMIPRoutingRule} {written : Prop} [Decidable written]

theorem setPriority_toNat (priority : UInt32) : built.setPriority priority.toNat =
    { built with priority := priority, priorityHas := true } := by
  have small := priority.toNat_lt
  unfold NMIPRoutingRule.setPriority
  rw [if_pos (by omega), Int.toNat_natCast, UInt32.ofNat_toNat]

theorem ite_setPriority (priority : UInt32) :
    (if written then built.setPriority priority.toNat else built) =
      { built with
        priority := if written then priority else built.priority
        priorityHas := if written then true else built.priorityHas } := by
  rw [setPriority_toNat]
  split <;> rfl

theorem ite_setInvert (invert : Bool) : (if written then built.setInvert invert else built) =
    { built with invert := if written then invert else built.invert } := by
  split <;> rfl

theorem ite_setTos (tos : UInt8) : (if written then built.setTos tos else built) =
    { built with tos := if written then tos else built.tos } := by
  split <;> rfl

theorem ite_setIpproto (ipproto : UInt8) :
    (if written then built.setIpproto ipproto else built) =
      { built with ipproto := if written then ipproto else built.ipproto } := by
  split <;> rfl

theorem ite_setFwmark (fwmark fwmask : UInt32) :
    (if written then built.setFwmark fwmark fwmask else built) =
      { built with
        fwmark := if written then fwmark else built.fwmark
        fwmask := if written then fwmask else built.fwmask } := by
  split <;> rfl

theorem ite_setSourcePort (first last : UInt16) :
    (if written then built.setSourcePort first last else built) =
      { built with
        sportStart := if written then first else built.sportStart
        sportEnd := if written then last else built.sportEnd } := by
  split <;> rfl

theorem ite_setDestinationPort (first last : UInt16) :
    (if written then built.setDestinationPort first last else built) =
      { built with
        dportStart := if written then first else built.dportStart
        dportEnd := if written then last else built.dportEnd } := by
  split <;> rfl

theorem ite_setSuppressPrefixlength (length : Int) :
    (if written then built.setSuppressPrefixlength length else built) =
      { built with
        suppressPrefixlength := if written then length else built.suppressPrefixlength } := by
  split <;> rfl

theorem ite_setIifname (iifname : Option (List Char)) :
    (if written then built.setIifname iifname else built) =
      { built with iifname := if written then iifname else built.iifname } := by
  split <;> rfl

theorem ite_setOifname (oifname : Option (List Char)) :
    (if written then built.setOifname oifname else built) =
      { built with oifname := if written then oifname else built.oifname } := by
  split <;> rfl

theorem ite_setTable (table : UInt32) : (if written then built.setTable table else built) =
    { built with table := if written then table else built.table } := by
  split <;> rfl

theorem ite_setFromBin (addr : NMIPAddr) (len : UInt8) :
    (if written then built.setFromBin (some addr) len else built) =
      { built with
        fromStr := if written then none else built.fromStr
        fromHas := if written then true else built.fromHas
        fromValid := if written then true else built.fromValid
        fromLen := if written then len else built.fromLen
        fromBin :=
          if written then
            NMIPAddr.ipAddrSet (if built.isV4 then .inet else .inet6) built.fromBin
              (addr.address (if built.isV4 then .inet else .inet6))
          else built.fromBin } := by
  split <;> rfl

theorem ite_setToBin (addr : NMIPAddr) (len : UInt8) :
    (if written then built.setToBin (some addr) len else built) =
      { built with
        toStr := if written then none else built.toStr
        toHas := if written then true else built.toHas
        toValid := if written then true else built.toValid
        toLen := if written then len else built.toLen
        toBin :=
          if written then
            NMIPAddr.ipAddrSet (if built.isV4 then .inet else .inet6) built.toBin
              (addr.address (if built.isV4 then .inet else .inet6))
          else built.toBin } := by
  split <;> rfl

end Setters

section

variable {family : AddrFamily} {len : UInt8} {has valid : Bool}
  (address : ValidAddress family len has valid)

include address

theorem ValidAddress.has_eq : has = decide (len ≠ 0) := by
  rw [Bool.eq_iff_iff, address.has_iff, decide_eq_true_eq]

theorem ValidAddress.len_eq {read : UInt8} (same : len ≠ 0 → read = len) :
    (if has then read else 0) = len := by
  rw [address.has_eq]
  by_cases no_len : len = 0 <;> simp_all

theorem ValidAddress.written_len : (if has && valid then len else 0) = len := by
  cases is_there : has with
  | false =>
    have no_len := mt address.has_iff.mpr (by simp [is_there])
    simpa using (not_not.mp no_len).symm
  | true => simp [address.readable is_there]

end

theorem isV4_eq (rule : NMIPRoutingRule) : decide (rule.addrFamily = .inet) = rule.isV4 := by
  unfold NMIPRoutingRule.addrFamily
  cases rule.isV4 <;> rfl

variable {rule : NMIPRoutingRule}

/-- The text of an address may be missing, and so may an address that is not there. -/
theorem sameRule_of_addresses (valid : ValidRule rule) {fromBin toBin : NMIPAddr}
    (from_eq : rule.fromHas = true →
      fromBin.address rule.addrFamily = rule.fromBin.address rule.addrFamily)
    (to_eq : rule.toHas = true →
      toBin.address rule.addrFamily = rule.toBin.address rule.addrFamily) :
    SameRule rule { rule with
      fromStr := none, toStr := none, fromValid := rule.fromHas, toValid := rule.toHas
      fromBin := fromBin, toBin := toBin } :=
  ⟨rfl, ⟨rfl, valid.fromAddress.readable, id, from_eq⟩, ⟨rfl, valid.toAddress.readable, id, to_eq⟩⟩

theorem builtRule_eq (inet : Inet) (valid : ValidRule rule) {required toRequired : Bool}
    {given readFamily toGiven toReadFamily : Option AddrFamily} {valFrom valTo : NMIPAddr}
    {valFromLen valToLen : Int}
    (from_read : AddressRead required given rule.addrFamily rule.fromBin rule.fromLen readFamily
      valFrom valFromLen)
    (to_read : AddressRead toRequired toGiven rule.addrFamily rule.toBin rule.toLen toReadFamily
      valTo valToLen) :
    builtRule rule.addrFamily (foundArgs inet rule) valFrom valFromLen valTo valToLen =
      { rule with
        fromStr := none, toStr := none, fromValid := rule.fromHas, toValid := rule.toHas
        fromBin :=
          if rule.fromHas then
            NMIPAddr.ipAddrSet rule.addrFamily .zero (valFrom.address rule.addrFamily)
          else .zero
        toBin :=
          if rule.toHas then
            NMIPAddr.ipAddrSet rule.addrFamily .zero (valTo.address rule.addrFamily)
          else .zero } := by
  have priority : foundNumber rule.priorityHas rule.priority.toNat = rule.priority.toNat :=
    if_pos valid.priority
  have nonneg : (rule.priority.toNat : Int) ≠ -1 := by omega
  have from_has := from_read.stores.trans valid.fromAddress.has_eq.symm
  have to_has := to_read.stores.trans valid.toAddress.has_eq.symm
  have from_len := valid.fromAddress.len_eq from_read.len_eq
  have to_len := valid.toAddress.len_eq to_read.len_eq
  have isV4 := isV4_eq rule
  have table := valid.table
  have action := valid.action
  have has := valid.priority
  generalize rule.addrFamily = family at *
  unfold builtRule foundArgs
  simp only [priority, foundNumber_ne, toNat_foundNumber, from_has, to_has, UInt8.ofNat_toNat,
    UInt16.ofNat_toNat, UInt32.ofNat_toNat, apply_ite UInt8.ofNat, apply_ite UInt16.ofNat,
    apply_ite UInt32.ofNat, ite_setPriority, ite_setInvert, ite_setTos, ite_setIpproto,
    ite_setFwmark, ite_setSourcePort, ite_setDestinationPort, ite_setSuppressPrefixlength,
    ite_setFromBin, ite_setToBin, ite_setIifname, ite_setOifname, ite_setTable]
  cases rule
  cases family <;> simp_all [new]

theorem validRule_of_same {rule other : NMIPRoutingRule} (same : SameRule rule other)
    (valid : ValidRule rule) : ValidRule other := by
  obtain ⟨fields_eq, from_same, to_same⟩ := same
  rw [← fields_eq] at valid
  refine ⟨valid.priority, valid.action, valid.table, ?_, ?_, valid.iifname, valid.oifname,
    valid.sport, valid.dport, valid.suppress⟩
  · rw [from_same.has_eq]
    exact ⟨valid.fromAddress.has_iff, from_same.other_readable, valid.fromAddress.bound⟩
  · rw [to_same.has_eq]
    exact ⟨valid.toAddress.has_iff, to_same.other_readable, valid.toAddress.bound⟩

theorem validateIf_eq_ok (wanted : Bool) (valid : ValidRule rule) :
    validateIf wanted rule = .ok () := by
  unfold validateIf
  rw [validate_eq_ok_iff.mpr valid]
  split <;> rfl

structure FlagsFit (family : AddrFamily) (flags : BitVec 32) : Prop where
  supported : rrStringValidate flags 0 = .ok ()
  /-- The family is not given, or it is given as it is. -/
  family_eq : rrStringAddrFamilyFromFlags flags = none ∨
    rrStringAddrFamilyFromFlags flags = some family

section Text

variable {inet : Inet} {rule : NMIPRoutingRule}

theorem toString_eq (valid : ValidRule rule) {flags : BitVec 32}
    (fit : FlagsFit rule.addrFamily flags) :
    toString inet rule flags 0 = .ok ((ruleParts inet rule).foldl appendPart []) := by
  have family_ok : require (decide (rrStringAddrFamilyFromFlags flags = none ∨
      rrStringAddrFamilyFromFlags flags = some rule.addrFamily)) .invalidAddressFamily =
      .ok () := require_eq_ok.mpr (decide_eq_true fit.family_eq)
  unfold toString
  rw [fit.supported, family_ok, validateIf_eq_ok _ valid]
  rfl

theorem parseAddressArg_from (lawful : inet.Lawful) (valid : ValidRule rule)
    {given : Option AddrFamily} (compatible : given = none ∨ given = some rule.addrFamily) :
    ∃ readFamily valFrom valFromLen,
      parseAddressArg inet fromName given (fromValue inet rule) =
        .ok (readFamily, valFrom, valFromLen) ∧
      AddressRead (!rule.toHas || !rule.toValid) given rule.addrFamily rule.fromBin rule.fromLen
        readFamily valFrom valFromLen := by
  unfold fromValue
  rw [valid.fromAddress.written_len]
  exact parseAddressArg_value lawful fromName valid.fromAddress.bound compatible

theorem parseAddressArg_to (lawful : inet.Lawful) (valid : ValidRule rule)
    {given : Option AddrFamily} (compatible : given = none ∨ given = some rule.addrFamily) :
    ∃ readFamily valTo valToLen,
      parseAddressArg inet toName given (toValue inet rule) = .ok (readFamily, valTo, valToLen) ∧
      AddressRead false given rule.addrFamily rule.toBin rule.toLen readFamily valTo valToLen := by
  unfold toValue
  rw [valid.toAddress.written_len]
  exact parseAddressArg_value lawful toName valid.toAddress.bound compatible

theorem ruleOfArgs_found (lawful : inet.Lawful) (valid : ValidRule rule) {flags : BitVec 32}
    (fit : FlagsFit rule.addrFamily flags) :
    ∃ read, ruleOfArgs inet flags (foundArgs inet rule) = .ok read ∧ SameRule rule read := by
  obtain ⟨readFamily, valFrom, valFromLen, from_eq, from_read⟩ :=
    parseAddressArg_from lawful valid fit.family_eq
  have to_given : readFamily = none ∨ readFamily = some rule.addrFamily := by
    rcases from_read.compatible with rfl | rfl
    · exact fit.family_eq
    · exact Or.inr rfl
  obtain ⟨toReadFamily, valTo, valToLen, to_eq, to_read⟩ :=
    parseAddressArg_to lawful valid to_given
  -- One of the addresses is written, so that the family is known.
  have known : toReadFamily = some rule.addrFamily := by
    by_cases to_len : rule.toLen ≠ 0
    · exact to_read.family_eq (Or.inr to_len)
    · have no_to : rule.toHas = false := by
        rw [valid.toAddress.has_eq]
        exact decide_eq_false to_len
      have from_known := from_read.family_eq (Or.inl (by rw [no_to]; rfl))
      rcases to_read.compatible with same | same
      · exact same.trans from_known
      · exact same
  have same : SameRule rule
      (builtRule rule.addrFamily (foundArgs inet rule) valFrom valFromLen valTo valToLen) := by
    rw [builtRule_eq inet valid from_read to_read]
    refine sameRule_of_addresses valid (fun has => ?_) (fun has => ?_)
    · rw [if_pos has, NMIPAddr.address_ipAddrSet]
      exact from_read.address_eq (valid.fromAddress.has_iff.mp has)
    · rw [if_pos has, NMIPAddr.address_ipAddrSet]
      exact to_read.address_eq (valid.toAddress.has_iff.mp has)
  refine ⟨_, ?_, same⟩
  have from_eq : parseAddressArg inet fromName (rrStringAddrFamilyFromFlags flags)
      (foundArgs inet rule).wordFrom = .ok (readFamily, valFrom, valFromLen) := from_eq
  have to_eq : parseAddressArg inet toName readFamily (foundArgs inet rule).wordTo =
      .ok (toReadFamily, valTo, valToLen) := to_eq
  unfold ruleOfArgs
  rw [from_eq]
  change (parseAddressArg inet toName readFamily (foundArgs inet rule).wordTo >>= _) = _
  rw [to_eq, known]
  change (validateIf _ _ >>= _) = _
  rw [validateIf_eq_ok _ (validRule_of_same same valid)]
  rfl

theorem fromString_toString (lawful : inet.Lawful) (valid : ValidRule rule)
    {flags readFlags : BitVec 32} (fit : FlagsFit rule.addrFamily flags)
    (read_fit : FlagsFit rule.addrFamily readFlags) :
    ∃ text read, toString inet rule flags 0 = .ok text ∧
      fromString inet text readFlags 0 = .ok read ∧ SameRule rule read := by
  obtain ⟨read, read_eq, same⟩ := ruleOfArgs_found lawful valid read_fit
  refine ⟨_, read, toString_eq valid fit, ?_, same⟩
  have nonempty : (ruleWords inet rule).flatten ≠ [] := by
    unfold ruleWords valueIf
    rw [if_pos valid.priority]
    exact List.cons_ne_nil _ _
  unfold fromString
  rw [read_fit.supported, escapedTokensSplit_rule lawful valid]
  change (fromStringLoop none {} (ruleWords inet rule).flatten >>= _) = _
  rw [fromStringLoop_rule inet valid]
  change (require (decide ((ruleWords inet rule).flatten ≠ [])) .emptyText >>= fun _ => _) = _
  rw [require_eq_ok.mpr (decide_eq_true nonempty)]
  exact read_eq

end Text

end NetworkManager.RoutingRule
