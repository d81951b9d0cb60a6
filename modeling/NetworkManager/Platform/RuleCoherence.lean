import NetworkManager.Library.Comparison
import NetworkManager.Platform.HashUpdate
import NetworkManager.Platform.Identity

/-!
# Comparing and hashing routing rules

The comparison of routing rules skips fields that do not matter: those that the kernel does not
support, the target of a rule that does not jump, the address of an empty prefix.  Whether a field
is skipped depends on fields that were compared before it, so the comparison is a total preorder,
and the hash function, which skips the same fields, cannot tell equal rules apart.
-/

namespace NetworkManager

/-- The rules of a supported address family. -/
def supportedRules : Set NMPlatformRoutingRule :=
  {rule | isInetFamily rule.addrFamily = true}

namespace RuleCoherence

open LawfulCmpOn Ordering

variable {values : Set NMPlatformRoutingRule}

theorem rangeCmp_lawful {β : Type*} [Ord β] [Std.TransOrd β]
    (part : NMPlatformRoutingRule → β × β) :
    LawfulCmpOn values fun a b => rangeCmp (part a) (part b) :=
  (on fun a => (part a).1).andThen (on fun a => (part a).2)

theorem familyAddrCmp_lawful {family : UInt8} (part : NMPlatformRoutingRule → In6Addr)
    (same_family : ∀ rule ∈ values, rule.addrFamily = family) :
    LawfulCmpOn values fun a b => familyAddrCmp a.addrFamily (part a) (part b) := by
  refine congr (fun a mem b _ => ?_) (on fun a => familyAddr family (part a))
  rw [same_family a mem]
  unfold familyAddrCmp familyAddr
  split <;> rfl

/-- The comparison is a total preorder on the rules of the supported address families. -/
theorem routingRuleCmp_lawful (support : KernelSupport) (cmpType : NMPlatformRoutingRuleCmpType) :
    LawfulCmpOn supportedRules fun a b => routingRuleCmp support a b cmpType := by
  unfold routingRuleCmp
  refine andThen (on fun a : NMPlatformRoutingRule => isInetFamily a.addrFamily) ?_
  have supported : ∀ a ∈ supportedRules, ∀ b ∈ supportedRules,
      ¬ isInetFamily a.addrFamily = false := by
    intro a mem b _ invalid
    exact absurd invalid (ne_false_of_eq_true mem)
  refine congr (fun a mem b mem_b => if_neg (supported a mem b mem_b)) ?_
  refine on_then NMPlatformRoutingRule.addrFamily fun family => ?_
  refine on_then NMPlatformRoutingRule.action fun action => ?_
  refine andThen (on NMPlatformRoutingRule.priority) ?_
  refine andThen (on NMPlatformRoutingRule.tunId) ?_
  refine andThen (ite (fun _ _ _ _ holds => holds) ?_) ?_
  · split
    · exact on NMPlatformRoutingRule.l3mdev
    · exact on fun a : NMPlatformRoutingRule => decide (a.l3mdev ≠ 0)
  refine andThen (on NMPlatformRoutingRule.table) ?_
  refine andThen (on fun a : NMPlatformRoutingRule => a.flags &&& _) ?_
  refine andThen (on NMPlatformRoutingRule.fwmark) ?_
  refine andThen (on NMPlatformRoutingRule.fwmask) ?_
  refine andThen (ite ?_ (on NMPlatformRoutingRule.gotoTarget)) ?_
  · rintro a ⟨-, same_a⟩ b ⟨-, same_b⟩ holds
    rwa [same_b, ← same_a]
  refine andThen (on NMPlatformRoutingRule.suppressPrefixlenInverse) ?_
  refine andThen (on NMPlatformRoutingRule.suppressIfgroupInverse) ?_
  refine andThen (on NMPlatformRoutingRule.tos) ?_
  refine mono (fun a mem => mem.1) ?_
  refine andThen (ite ?_ (on NMPlatformRoutingRule.flow)) ?_
  · rintro a ⟨-, same_a⟩ b ⟨-, same_b⟩ holds
    rwa [same_b, ← same_a]
  refine andThen (ite (fun _ _ _ _ holds => holds) (on NMPlatformRoutingRule.protocol)) ?_
  refine andThen (ite (fun _ _ _ _ holds => holds) ?_) ?_
  · exact (on NMPlatformRoutingRule.ipProto).andThen
      ((rangeCmp_lawful NMPlatformRoutingRule.sportRange).andThen
        (rangeCmp_lawful NMPlatformRoutingRule.dportRange))
  refine on_then NMPlatformRoutingRule.srcLen fun srcLen => ?_
  refine andThen (ite ?_ (familyAddrCmp_lawful NMPlatformRoutingRule.src fun a mem => mem.1.2)) ?_
  · rintro a ⟨-, same_a⟩ b ⟨-, same_b⟩ holds
    rwa [same_b, ← same_a]
  refine on_then NMPlatformRoutingRule.dstLen fun dstLen => ?_
  refine andThen (ite ?_ (familyAddrCmp_lawful NMPlatformRoutingRule.dst fun a mem => mem.1.1.2)) ?_
  · rintro a ⟨-, same_a⟩ b ⟨-, same_b⟩ holds
    rwa [same_b, ← same_a]
  refine andThen (ite (fun _ _ _ _ holds => holds) ?_) ?_
  · refine on_then NMPlatformRoutingRule.uidRangeHas fun has => ?_
    refine ite ?_ (rangeCmp_lawful NMPlatformRoutingRule.uidRange)
    rintro a ⟨-, same_a⟩ b ⟨-, same_b⟩ holds
    rwa [same_b, ← same_a]
  exact (on NMPlatformRoutingRule.iifname).andThen (on NMPlatformRoutingRule.oifname)

theorem ite_then_congr {β : Type*} {p : Prop} [Decidable p] {x y z : β} (same : p → x = y) :
    (if p then x else z) = if p then y else z := by
  by_cases holds : p
  · rw [if_pos holds, if_pos holds, same holds]
  · rw [if_neg holds, if_neg holds]

theorem familyAddrBytes_congr {family : UInt8} {a b : In6Addr}
    (same : familyAddrCmp family a b = .eq) :
    familyAddrBytes family a = familyAddrBytes family b := by
  rw [familyAddrCmp_eq] at same
  unfold familyAddr at same
  unfold familyAddrBytes In6Addr.bytes
  by_cases inet : family = afInet
  · rw [if_pos inet, if_pos inet] at same
    rw [if_pos inet]
    refine List.map_congr_left fun index mem => ?_
    have bound : index < 4 := List.mem_range.mp mem
    have shift : 120 - 8 * index = 96 + (24 - 8 * index) := by omega
    unfold In6Addr.firstBytes at same
    unfold In6Addr.byte
    rw [shift, BitVec.shiftRight_add, BitVec.shiftRight_add, same]
  · rw [if_neg inet, if_neg inet] at same
    rw [same]

theorem l3mdev_congr {full : Prop} [Decidable full] {a b : UInt8}
    (same : (if full then compare a b else compare (decide (a ≠ 0)) (decide (b ≠ 0))) = .eq) :
    (if full then a.toNat else (decide (a ≠ 0)).toNat) =
      if full then b.toNat else (decide (b ≠ 0)).toNat := by
  by_cases is_full : full
  · rw [if_pos is_full, Std.compare_eq_iff_eq] at same
    rw [same]
  · rw [if_neg is_full, Std.compare_eq_iff_eq] at same
    rw [if_neg is_full, if_neg is_full, same]

theorem uidRange_congr {full : Bool} {a b : NMPlatformRoutingRule}
    (same : a.uidRangeHas = b.uidRangeHas ∧
      ((full || a.uidRangeHas) = true → a.uidRange = b.uidRange)) :
    (if full || a.uidRangeHas then
      numberBytes 4 a.uidRange.1.toNat ++ numberBytes 4 a.uidRange.2.toNat else []) =
      if full || b.uidRangeHas then
        numberBytes 4 b.uidRange.1.toNat ++ numberBytes 4 b.uidRange.2.toNat else [] := by
  obtain ⟨has, range⟩ := same
  rw [has] at range ⊢
  refine ite_then_congr fun compared => ?_
  rw [range compared]

theorem ipProto_congr {a b : NMPlatformRoutingRule}
    (same : a.ipProto = b.ipProto ∧ a.sportRange = b.sportRange ∧ a.dportRange = b.dportRange) :
    numberBytes 1 a.ipProto.toNat ++
        numberBytes 2 a.sportRange.1.toNat ++ numberBytes 2 a.sportRange.2.toNat ++
        numberBytes 2 a.dportRange.1.toNat ++ numberBytes 2 a.dportRange.2.toNat =
      numberBytes 1 b.ipProto.toNat ++
        numberBytes 2 b.sportRange.1.toNat ++ numberBytes 2 b.sportRange.2.toNat ++
        numberBytes 2 b.dportRange.1.toNat ++ numberBytes 2 b.dportRange.2.toNat := by
  obtain ⟨proto, sport, dport⟩ := same
  rw [proto, sport, dport]

variable {support : KernelSupport}

theorem routingRuleHashUpdate_congr {a b : NMPlatformRoutingRule}
    {cmpType : NMPlatformRoutingRuleCmpType} (address_a address_b : UInt64)
    (valid : a ∈ supportedRules) (same : routingRuleCmp support a b cmpType = .eq) :
    routingRuleHashUpdate support address_a a cmpType =
      routingRuleHashUpdate support address_b b cmpType := by
  have valid_a : isInetFamily a.addrFamily = true := valid
  simp only [routingRuleCmp, valid_a, Bool.true_eq_false, if_false, then_eq_eq,
    Std.compare_eq_iff_eq, ite_eq_iff_imp, rangeCmp_eq] at same
  obtain ⟨-, family, action, priority, tunId, l3mdev, table, flags, fwmark, fwmask, goto, prefixlen,
    ifgroup, tos, flow, protocol, ipProto, srcLen, src, dstLen, dst, uidRange, iifname, oifname⟩ :=
    same
  have valid_b : isInetFamily b.addrFamily = true := family ▸ valid_a
  rw [family] at flow src dst
  rw [action] at goto
  rw [srcLen] at src
  rw [dstLen] at dst
  have goto_part := ite_then_congr (z := 0) goto
  have flow_part := ite_then_congr (z := 0) flow
  have has_part := ite_then_congr (z := false) fun compared => (uidRange compared).1
  have protocol_part := ite_then_congr (z := 0xFFFF) fun compared =>
    congrArg UInt8.toNat (protocol compared)
  have src_part := ite_then_congr (z := []) fun compared => familyAddrBytes_congr (src compared)
  have dst_part := ite_then_congr (z := []) fun compared => familyAddrBytes_congr (dst compared)
  have l3mdev_part := ite_then_congr (z := 0xFFFF) fun compared => l3mdev_congr (l3mdev compared)
  have uidRange_part := ite_then_congr (z := []) fun compared => uidRange_congr (uidRange compared)
  have ipProto_part := ite_then_congr (z := []) fun compared => ipProto_congr (ipProto compared)
  simp only [routingRuleHashUpdate, valid_a, valid_b, Bool.true_eq_false, if_false]
  rw [family, action, priority, tunId, table, flags, fwmark, fwmask, prefixlen, ifgroup, tos,
    srcLen, dstLen, iifname, oifname, goto_part, flow_part, has_part, protocol_part, src_part,
    dst_part, l3mdev_part, uidRange_part, ipProto_part]

theorem semantically_of_full {a b : NMPlatformRoutingRule} (valid : a ∈ supportedRules)
    (same : routingRuleCmp support a b .full = .eq) :
    routingRuleCmp support a b .semantically = .eq := by
  have valid_a : isInetFamily a.addrFamily = true := valid
  simp only [routingRuleCmp, valid_a, Bool.true_eq_false, if_false, then_eq_eq,
    Std.compare_eq_iff_eq, ite_eq_iff_imp, rangeCmp_eq, routingRuleCompare, decide_true,
    Bool.true_or, reduceCtorEq, if_true, decide_false, Bool.false_or, Bool.false_eq_true] at same ⊢
  obtain ⟨inet, family, action, priority, tunId, l3mdev, table, flags, fwmark, fwmask, goto,
    prefixlen, ifgroup, tos, flow, protocol, ipProto, srcLen, src, dstLen, dst, uidRange, iifname,
    oifname⟩ := same
  exact ⟨inet, family, action, priority, tunId, fun _ => by rw [l3mdev], table, flags, fwmark,
    fwmask, fun _ => goto, prefixlen, ifgroup, tos, fun _ => flow, fun _ => protocol,
    fun _ => ipProto, srcLen, fun _ => src, dstLen, fun _ => dst,
    fun _ => ⟨uidRange.1, fun _ => uidRange.2⟩, iifname, oifname⟩

theorem id_of_semantically {a b : NMPlatformRoutingRule} (valid : a ∈ supportedRules)
    (same : routingRuleCmp support a b .semantically = .eq) :
    routingRuleCmp support a b .id = .eq := by
  have valid_a : isInetFamily a.addrFamily = true := valid
  simp only [routingRuleCmp, valid_a, Bool.true_eq_false, if_false, then_eq_eq,
    Std.compare_eq_iff_eq, ite_eq_iff_imp, rangeCmp_eq, routingRuleCompare, decide_true,
    Bool.true_and, reduceCtorEq, if_true, decide_false, Bool.false_or, Bool.false_and,
    Bool.false_eq_true, true_and] at same ⊢
  obtain ⟨inet, family, action, priority, tunId, l3mdev, table, flags, fwmark, fwmask, -,
    prefixlen, rest⟩ := same
  refine ⟨inet, family, action, priority, tunId, l3mdev, table, ?_, fwmark, fwmask, prefixlen, rest⟩
  rw [NMPObject.and_allBits, NMPObject.and_allBits] at flags
  rw [flags]

end RuleCoherence

/-- Comparing and hashing routing rules is coherent: the comparison is a total preorder on the
rules of the supported address families, the hash function does not separate equal rules, and
equality of all fields implies the same meaning, which implies the same identity. -/
theorem routingRule_coherent (support : KernelSupport) :
    (∀ cmpType, LawfulCmpOn supportedRules fun a b => routingRuleCmp support a b cmpType) ∧
    (∀ cmpType, ∀ a ∈ supportedRules, ∀ b ∈ supportedRules,
      routingRuleCmp support a b cmpType = .eq → ∀ address_a address_b,
        routingRuleHashUpdate support address_a a cmpType =
          routingRuleHashUpdate support address_b b cmpType) ∧
    (∀ a ∈ supportedRules, ∀ b ∈ supportedRules,
      routingRuleCmp support a b .full = .eq → routingRuleCmp support a b .semantically = .eq) ∧
    (∀ a ∈ supportedRules, ∀ b ∈ supportedRules,
      routingRuleCmp support a b .semantically = .eq → routingRuleCmp support a b .id = .eq) :=
  ⟨RuleCoherence.routingRuleCmp_lawful support,
    fun _ _ valid _ _ same address_a address_b =>
      RuleCoherence.routingRuleHashUpdate_congr address_a address_b valid same,
    fun _ valid _ _ same => RuleCoherence.semantically_of_full valid same,
    fun _ valid _ _ same => RuleCoherence.id_of_semantically valid same⟩

def mainTableRule (l3mdev : UInt8) : NMPlatformRoutingRule where
  src := 0
  dst := 0
  tunId := 0
  table := 254
  flags := 0
  priority := 100
  fwmark := 0
  fwmask := 0
  gotoTarget := 0
  flow := 0
  suppressPrefixlenInverse := 0
  suppressIfgroupInverse := 0
  uidRange := (0, 0)
  sportRange := (0, 0)
  dportRange := (0, 0)
  iifname := ""
  oifname := ""
  addrFamily := afInet
  action := 1
  tos := 0
  srcLen := 0
  dstLen := 0
  l3mdev := l3mdev
  protocol := 0
  ipProto := 0
  uidRangeHas := false

/-- Two rules for different l3mdev numbers have the same identity, hence they hash alike. -/
theorem routingRule_coherent_l3mdev :
    routingRuleCmp ⟨true, true, true, true⟩ (mainTableRule 1) (mainTableRule 2) .id = .eq ∧
    routingRuleHashUpdate ⟨true, true, true, true⟩ 4096 (mainTableRule 1) .id =
      routingRuleHashUpdate ⟨true, true, true, true⟩ 8192 (mainTableRule 2) .id :=
  have same : routingRuleCmp ⟨true, true, true, true⟩ (mainTableRule 1) (mainTableRule 2) .id =
      .eq := by decide
  ⟨same, (routingRule_coherent ⟨true, true, true, true⟩).2.1 .id _ rfl _ rfl same 4096 8192⟩

end NetworkManager
