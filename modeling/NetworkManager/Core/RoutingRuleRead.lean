import NetworkManager.Core.RoutingRuleWords

/-!
# Reading a routing rule back

The options of a rule are read one after the other from its words.  What is found determines the
rule, up to the texts that it keeps.
-/

namespace NetworkManager.RoutingRule

open Ascii EscapedTokens InetAddress InterfaceName List

theorem fromStringLoop_option {name : List Char} {key : RuleKey} (known : ruleKey name = some key)
    (has_value : key ≠ .invert) {args found : RuleArgs} {value : Option (List Char)}
    (absent : value = none → found = args)
    (present : ∀ word ∈ value, setArg args key word = .ok found) (rest : List (List Char)) :
    fromStringLoop none args (optionWords name value ++ rest) = fromStringLoop none found rest := by
  cases value with
  | none =>
    rw [absent rfl]
    rfl
  | some word =>
    have name_read : consumeWords args name none = .ok none := by
      unfold consumeWords
      rw [known]
      cases key <;> first | rfl | exact absurd rfl has_value
    have value_read : consumeWords args name (some word) = .ok (some found) := by
      unfold consumeWords
      rw [known]
      cases key <;>
        first | exact absurd rfl has_value | (dsimp only; rw [present word rfl]; rfl)
    change fromStringLoop none args (name :: word :: rest) = _
    rw [fromStringLoop, Option.getD_none, Option.map_none, name_read]
    dsimp only
    rw [fromStringLoop, Option.getD_some, Option.map_some, value_read]

def foundNumber (written : Prop) [Decidable written] (number : Nat) : Int :=
  if written then number else -1

theorem unlessMinusOne_natCast (number : Nat) : unlessMinusOne number = some (number : Int) :=
  if_neg (by omega)

theorem once_fresh {α : Type} {isSet : Bool} (fresh : isSet = false) {read : Option α} {value : α}
    (read_eq : read = some value) (store : α → RuleArgs) :
    once isSet read store = .ok (store value) := by
  rw [fresh, read_eq]
  rfl

theorem once_number {isSet : Bool} (fresh : isSet = false) {number : Nat} {value : Int}
    (value_eq : value = number) (store : Int → RuleArgs) :
    once isSet (unlessMinusOne value) store = .ok (store number) :=
  once_fresh fresh (value_eq ▸ unlessMinusOne_natCast number) store

theorem fromStringLoop_number {name : List Char} {key : RuleKey} {args : RuleArgs}
    {written : Prop} [Decidable written] {digits : List Char}
    (number : Nat) (known : ruleKey name = some key) (has_value : key ≠ .invert)
    (store : RuleArgs → Int → RuleArgs) (absent : store args (-1) = args)
    (present : written → setArg args key digits = .ok (store args number))
    (rest : List (List Char)) :
    fromStringLoop none args (optionWords name (valueIf written digits) ++ rest) =
      fromStringLoop none (store args (foundNumber written number)) rest := by
  unfold foundNumber valueIf
  split
  · rename_i is_written
    refine fromStringLoop_option known has_value ?_ ?_ rest
    · intro impossible
      cases impossible
    · intro word mem
      rw [← Option.some.inj mem]
      exact present is_written
  · exact fromStringLoop_option known has_value (fun _ => absent)
      (fun _ impossible => by cases impossible) rest

theorem fromStringLoop_text {name : List Char} {key : RuleKey} {args : RuleArgs}
    (known : ruleKey name = some key) (has_value : key ≠ .invert)
    (store : RuleArgs → Option (List Char) → RuleArgs) (fresh : store args none = args)
    (stores : ∀ word, setArg args key word = .ok (store args (some word)))
    (value : Option (List Char)) (rest : List (List Char)) :
    fromStringLoop none args (optionWords name value ++ rest) =
      fromStringLoop none (store args value) rest := by
  refine fromStringLoop_option known has_value ?_ ?_ rest
  · rintro rfl
    exact fresh
  · intro word mem
    rw [stores word, ← mem]

section Options

variable {inet : Inet} {rule : NMIPRoutingRule} {args : RuleArgs}

theorem tableNumber_decimal {table : UInt32} (nonzero : table ≠ 0) :
    tableNumber (decimal table.toNat) = table.toNat := by
  have small := table.toNat_lt
  have positive : table.toNat ≠ 0 := fun zero => nonzero (UInt32.toNat_inj.mp zero)
  have number : strToInt64 (decimal table.toNat) 0 1 0xFFFFFFFF (-1) = table.toNat :=
    strToInt64_decimal_auto (-1) (by omega) (by omega) (by omega)
  unfold tableNumber
  rw [number]
  exact if_pos (by omega)

theorem fromStringLoop_suppressPrefixlength (valid : ValidRule rule)
    (fresh : args.i64SuppressPrefixlength = -1) (rest : List (List Char)) :
    fromStringLoop none args
      (optionWords suppressPrefixlengthName
        (valueIf (rule.suppressPrefixlength ≠ -1) (signedDecimal rule.suppressPrefixlength)) ++
        rest) =
      fromStringLoop none
        { args with i64SuppressPrefixlength := rule.suppressPrefixlength } rest := by
  have known : ruleKey suppressPrefixlengthName = some .suppressPrefixlength := by decide
  rcases valid.suppress with absent | ⟨low, high⟩
  · rw [absent]
    refine fromStringLoop_option known (by decide) ?_ ?_ rest
    · intro _
      rw [← fresh]
    · intro word mem
      cases mem
  · obtain ⟨number, number_eq⟩ := Int.eq_ofNat_of_zero_le low
    have high : rule.suppressPrefixlength ≤ 128 := high.trans (by split <;> decide)
    have digits : signedDecimal rule.suppressPrefixlength = decimal number := by
      rw [number_eq]
      exact if_neg (by omega)
    refine fromStringLoop_option known (by decide) ?_ ?_ rest
    · intro impossible
      rw [valueIf, if_pos (by omega)] at impossible
      cases impossible
    · intro word mem
      rw [valueIf, if_pos (by omega), digits] at mem
      rw [← Option.some.inj mem, number_eq]
      exact once_number (by rw [fresh]; rfl)
        (strToInt64_decimal_auto (-1) (Int.natCast_nonneg _) (by omega) (by omega)) _

variable {value : List Char}

theorem xportRangeParse_value {first last : UInt16} (written : value ∈ xportValue first last) :
    xportRangeParse value = some ((first.toNat : Int), last) := by
  have first_small := first.toNat_lt
  have last_small := last.toNat_lt
  have no_mark : '-' ∉ decimal first.toNat := not_mem_toDigits _ (by decide)
  have first_read : strToInt64 (decimal first.toNat) 10 0 0xFFFF (-1) = first.toNat :=
    strToInt64_decimal (-1) (Int.natCast_nonneg _) (by omega) (by omega)
  have last_read : strToInt64 (decimal last.toNat) 10 0 0xFFFF (-1) = last.toNat :=
    strToInt64_decimal (-1) (Int.natCast_nonneg _) (by omega) (by omega)
  unfold xportValue at written
  split at written
  · rw [← Option.some.inj written]
    unfold xportRangeParse
    by_cases same : first = last
    · rw [if_neg (not_not.mpr same), append_nil, cutAt_eq_none no_mark]
      simp only [first_read, unlessMinusOne_natCast]
      simp [same]
    · rw [if_pos same, cutAt_append no_mark]
      simp only [first_read, last_read, unlessMinusOne_natCast]
      simp
  · cases written

theorem xportValue_eq_none {first last : UInt16} (absent : xportValue first last = none) :
    first = 0 ∧ last = 0 := by
  unfold xportValue at absent
  split at absent
  · cases absent
  · rename_i zero
    exact not_or.mp zero |>.imp not_not.mp not_not.mp

theorem foundNumber_of_mem_xportValue {first last : UInt16}
    (written : value ∈ xportValue first last) (number : Nat) :
    foundNumber (first ≠ 0 ∨ last ≠ 0) number = number := by
  unfold xportValue at written
  split at written
  · rename_i present
    exact if_pos present
  · cases written

theorem fromStringLoop_xport {name : List Char} {key : RuleKey} {first last : UInt16}
    (known : ruleKey name = some key) (has_value : key ≠ .invert)
    (store : RuleArgs → Int → UInt16 → RuleArgs) (absent : store args (-1) 0 = args)
    (present : ∀ word ∈ xportValue first last,
      setArg args key word = .ok (store args first.toNat last)) (rest : List (List Char)) :
    fromStringLoop none args (optionWords name (xportValue first last) ++ rest) =
      fromStringLoop none
        (store args (foundNumber (first ≠ 0 ∨ last ≠ 0) first.toNat) last) rest := by
  refine fromStringLoop_option known has_value ?_ ?_ rest
  · intro none_written
    obtain ⟨rfl, rfl⟩ := xportValue_eq_none none_written
    exact absent
  · intro word mem
    rw [foundNumber_of_mem_xportValue mem, present word mem]

theorem strToInt64_mark (mark : UInt32) :
    strToInt64 (if mark ≠ 0 then hexadecimal 0 mark.toNat else ['0']) 0 0 0xFFFFFFFF (-1) =
      mark.toNat := by
  have small := mark.toNat_lt
  split
  · exact strToInt64_hexMark (Or.inl rfl) _ (-1) (Int.natCast_nonneg _) (by omega) (by omega)
  · rename_i zero
    rw [not_not.mp zero]
    decide

theorem slash_not_mem_mark (mark : UInt32) :
    '/' ∉ (if mark ≠ 0 then hexadecimal 0 mark.toNat else ['0']) := by
  split
  · intro mem
    unfold hexadecimal at mem
    simp only [mem_cons, mem_append, mem_replicate] at mem
    rcases mem with same | same | ⟨-, same⟩ | mem
    · exact absurd same (by decide)
    · exact absurd same (by decide)
    · exact absurd same (by decide)
    · exact absurd (digitValue_lt_of_mem_toDigits (by decide) (by decide) mem) (by decide)
  · decide

theorem fwmarkParse_value {fwmark fwmask : UInt32} (written : value ∈ fwmarkValue fwmark fwmask) :
    fwmarkParse value = some ((fwmark.toNat : Int), (fwmask.toNat : Int)) := by
  unfold fwmarkValue at written
  split at written
  · rw [← Option.some.inj written]
    have mark_read := strToInt64_mark fwmark
    have mask_read := strToInt64_mark fwmask
    have no_slash := slash_not_mem_mark fwmark
    generalize (if fwmark ≠ 0 then hexadecimal 0 fwmark.toNat else ['0']) = mark at *
    generalize (if fwmask ≠ 0 then hexadecimal 0 fwmask.toNat else ['0']) = mask at *
    unfold fwmarkParse
    by_cases all_bits : fwmask = 0xFFFFFFFF
    · rw [if_neg (not_not.mpr all_bits), append_nil, cutAt_eq_none no_slash, all_bits]
      simp only [mark_read, unlessMinusOne_natCast]
      rfl
    · rw [if_pos all_bits, cutAt_append no_slash]
      simp only [mark_read, mask_read, unlessMinusOne_natCast]
      rfl
  · cases written

theorem fromStringLoop_fwmark (fresh : args.i64Fwmark = -1) (fresh_mask : args.i64Fwmask = -1)
    (rest : List (List Char)) :
    fromStringLoop none args
      (optionWords fwmarkName (fwmarkValue rule.fwmark rule.fwmask) ++ rest) =
      fromStringLoop none
        { args with
          i64Fwmark := foundNumber (rule.fwmark ≠ 0 ∨ rule.fwmask ≠ 0) rule.fwmark.toNat
          i64Fwmask := foundNumber (rule.fwmark ≠ 0 ∨ rule.fwmask ≠ 0) rule.fwmask.toNat }
        rest := by
  have known : ruleKey fwmarkName = some .fwmark := by decide
  have written_iff : (fwmarkValue rule.fwmark rule.fwmask).isSome = true ↔
      (rule.fwmark ≠ 0 ∨ rule.fwmask ≠ 0) := by
    unfold fwmarkValue
    split <;> simp_all
  refine fromStringLoop_option known (by decide) ?_ ?_ rest
  · intro absent
    rw [absent] at written_iff
    have not_written := mt written_iff.mpr Bool.false_ne_true
    cases args
    dsimp only at fresh fresh_mask
    rw [fresh, fresh_mask]
    simp only [foundNumber, if_neg not_written]
  · intro word mem
    have written := written_iff.mp (Option.isSome_of_mem mem)
    unfold setArg
    dsimp only
    rw [fresh, fwmarkParse_value mem, foundNumber, foundNumber, if_pos written, if_pos written]
    rfl

theorem fromStringLoop_not (fresh : args.valInvert = false) (invert : Bool)
    (rest : List (List Char)) :
    fromStringLoop none args ((if invert then [notName] else []) ++ rest) =
      fromStringLoop none { args with valInvert := invert } rest := by
  cases invert with
  | false =>
    have same : { args with valInvert := false } = args := by rw [← fresh]
    rw [same]
    rfl
  | true => rfl

end Options

def foundArgs (inet : Inet) (rule : NMIPRoutingRule) : RuleArgs where
  wordFrom := fromValue inet rule
  wordTo := toValue inet rule
  wordIifname := rule.iifname
  wordOifname := rule.oifname
  i64Priority := foundNumber rule.priorityHas rule.priority.toNat
  i64Table := foundNumber (rule.table ≠ 0) rule.table.toNat
  i64Tos := foundNumber (rule.tos ≠ 0) rule.tos.toNat
  i64Fwmark := foundNumber (rule.fwmark ≠ 0 ∨ rule.fwmask ≠ 0) rule.fwmark.toNat
  i64Fwmask := foundNumber (rule.fwmark ≠ 0 ∨ rule.fwmask ≠ 0) rule.fwmask.toNat
  i64SportStart := foundNumber (rule.sportStart ≠ 0 ∨ rule.sportEnd ≠ 0) rule.sportStart.toNat
  i64Ipproto := foundNumber (rule.ipproto ≠ 0) rule.ipproto.toNat
  i64SuppressPrefixlength := rule.suppressPrefixlength
  sportEnd := rule.sportEnd
  i64DportStart := foundNumber (rule.dportStart ≠ 0 ∨ rule.dportEnd ≠ 0) rule.dportStart.toNat
  dportEnd := rule.dportEnd
  valInvert := rule.invert

theorem fromStringLoop_rule (inet : Inet) {rule : NMIPRoutingRule} (valid : ValidRule rule) :
    fromStringLoop none {} (ruleWords inet rule).flatten = .ok (none, foundArgs inet rule) := by
  have priority_lt := rule.priority.toNat_lt
  have tos_lt := rule.tos.toNat_lt
  have ipproto_lt := rule.ipproto.toNat_lt
  unfold ruleWords
  simp only [flatten_cons]
  refine .trans (fromStringLoop_number rule.priority.toNat
    (show ruleKey priorityName = some .priority by decide) (by decide)
    (fun args number => { args with i64Priority := number }) rfl ?_ _) ?_
  · exact fun _ => once_number rfl (strToInt64_decimal_auto (-1) (Int.natCast_nonneg _)
      (by omega) (by omega)) _
  rw [fromStringLoop_not rfl]
  refine .trans (fromStringLoop_text (show ruleKey fromName = some .fromAddress by decide) (by decide)
    (fun args value => { args with wordFrom := value }) rfl (fun _ => rfl) _ _) ?_
  refine .trans (fromStringLoop_text (show ruleKey toName = some .toAddress by decide) (by decide)
    (fun args value => { args with wordTo := value }) rfl (fun _ => rfl) _ _) ?_
  refine .trans (fromStringLoop_number rule.tos.toNat
    (show ruleKey tosName = some .tos by decide) (by decide)
    (fun args number => { args with i64Tos := number }) rfl ?_ _) ?_
  · exact fun _ => once_number rfl (strToInt64_hexMark (Or.inr rfl) _ (-1) (Int.natCast_nonneg _)
      (by omega) (by omega)) _
  refine .trans (fromStringLoop_number rule.ipproto.toNat
    (show ruleKey ipprotoName = some .ipproto by decide) (by decide)
    (fun args number => { args with i64Ipproto := number }) rfl ?_ _) ?_
  · exact fun _ => once_number rfl (strToInt64_decimal (-1) (Int.natCast_nonneg _)
      (by omega) (by omega)) _
  rw [fromStringLoop_fwmark rfl rfl]
  refine .trans (fromStringLoop_xport (show ruleKey sportName = some .sport by decide) (by decide)
    (fun args first last => { args with i64SportStart := first, sportEnd := last }) rfl ?_ _) ?_
  · exact fun _ mem => once_fresh rfl (xportRangeParse_value mem) _
  refine .trans (fromStringLoop_xport (show ruleKey dportName = some .dport by decide) (by decide)
    (fun args first last => { args with i64DportStart := first, dportEnd := last }) rfl ?_ _) ?_
  · exact fun _ mem => once_fresh rfl (xportRangeParse_value mem) _
  refine .trans (fromStringLoop_text (show ruleKey iifName = some .iif by decide) (by decide)
    (fun args value => { args with wordIifname := value }) rfl (fun _ => rfl) _ _) ?_
  refine .trans (fromStringLoop_text (show ruleKey oifName = some .oif by decide) (by decide)
    (fun args value => { args with wordOifname := value }) rfl (fun _ => rfl) _ _) ?_
  refine .trans (fromStringLoop_number rule.table.toNat
    (show ruleKey tableName = some .table by decide) (by decide)
    (fun args number => { args with i64Table := number }) rfl ?_ _) ?_
  · exact fun written => once_number rfl (tableNumber_decimal written) _
  rw [fromStringLoop_suppressPrefixlength valid rfl]
  rfl

structure AddressRead (required : Bool) (given : Option AddrFamily) (family : AddrFamily)
    (addr : NMIPAddr) (len : UInt8) (readFamily : Option AddrFamily) (readAddr : NMIPAddr)
    (readLen : Int) : Prop where
  compatible : readFamily = given ∨ readFamily = some family
  family_eq : required = true ∨ len ≠ 0 → readFamily = some family
  stores : storesAddress family readAddr readLen = decide (len ≠ 0)
  len_eq : len ≠ 0 → UInt8.ofNat readLen.toNat = len
  address_eq : len ≠ 0 → readAddr.address family = addr.address family

theorem ne_all_of_mem {text : List Char} {c : Char} (mem : c ∈ text)
    (other : c ∉ ['a', 'l', 'l']) : text ≠ ['a', 'l', 'l'] := by
  rintro rfl
  exact other mem

variable {family : AddrFamily}

theorem parseAddressArg_some {inet : Inet} {given : Option AddrFamily} {word : List Char}
    {addr : NMIPAddr} {len : Int} (name : List Char) (not_all : word ≠ ['a', 'l', 'l'])
    (read : parseInaddrPrefixBin inet given word .zero = some (family, addr, len)) :
    parseAddressArg inet name given (some word) =
      .ok (some family, addr, if len = -1 then family.size * 8 else len) := by
  unfold parseAddressArg
  dsimp only
  rw [if_neg not_all, read]

theorem storesAddress_pos {addr : NMIPAddr} {len : Int} (pos : 0 < len) :
    storesAddress family addr len = true := decide_eq_true (Or.inl pos)

theorem parseAddressArg_value {inet : Inet} (lawful : inet.Lawful) (name : List Char)
    {required : Bool} {addr : NMIPAddr} {len : UInt8} (bound : len.toNat ≤ 8 * family.size)
    {given : Option AddrFamily} (compatible : given = none ∨ given = some family) :
    ∃ readFamily readAddr readLen,
      parseAddressArg inet name given (addressValue inet required family addr len) =
        .ok (readFamily, readAddr, readLen) ∧
      AddressRead required given family addr len readFamily readAddr readLen := by
  unfold addressValue
  by_cases no_len : len = 0
  · rw [if_pos no_len]
    cases required with
    | false =>
      refine ⟨given, .zero, -1, rfl, Or.inl rfl, ?_, ?_, ?_, ?_⟩
      · rintro (impossible | some_len)
        · cases impossible
        · exact absurd no_len some_len
      · simp [storesAddress, no_len]
      · exact fun some_len => absurd no_len some_len
      · exact fun some_len => absurd no_len some_len
    | true =>
      have read := (denotes_any lawful family).parse_prefixLength compatible .zero
        (Nat.zero_le (8 * family.size))
      have not_all : anyAddress family ++ ['/', '0'] ≠ ['a', 'l', 'l'] :=
        ne_all_of_mem (mem_append_right _ mem_cons_self) (by decide)
      refine ⟨_, _, _, parseAddressArg_some name not_all read, Or.inr rfl, fun _ => rfl, ?_, ?_, ?_⟩
      · simp [storesAddress, no_len, NMIPAddr.isNull]
      · exact fun some_len => absurd no_len some_len
      · exact fun some_len => absurd no_len some_len
  · have positive : 0 < len.toNat := Nat.pos_of_ne_zero fun zero =>
      no_len (UInt8.toNat_inj.mp zero)
    have denotes := denotes_ntop lawful (addr.address family)
    rw [if_neg no_len]
    by_cases full : len.toNat = family.size * 8
    · have read := denotes.parse compatible .zero
      have not_all : inet.ntop family (addr.address family) ≠ ['a', 'l', 'l'] := by
        intro same
        exact denotes.not_mem (show ¬ (digitValue 'l' < 16 ∨ _) by decide) (by simp [same])
      have len_eq : ((family.size : Int) * 8).toNat = len.toNat := by omega
      rw [if_neg (not_not.mpr full), append_nil]
      refine ⟨_, _, _, parseAddressArg_some name not_all read, Or.inr rfl, fun _ => rfl, ?_, ?_, ?_⟩
      · rw [if_pos rfl, storesAddress_pos (by omega)]
        simp [no_len]
      · intro _
        rw [if_pos rfl, len_eq, UInt8.ofNat_toNat]
      · intro _
        exact NMIPAddr.address_ipAddrSet _ _ _
    · have read := denotes.parse_prefixLength compatible .zero bound
      have not_all : inet.ntop family (addr.address family) ++ '/' :: decimal len.toNat ≠
          ['a', 'l', 'l'] :=
        ne_all_of_mem (mem_append_right _ mem_cons_self) (by decide)
      rw [if_pos full]
      refine ⟨_, _, _, parseAddressArg_some name not_all read, Or.inr rfl, fun _ => rfl, ?_, ?_, ?_⟩
      · rw [if_neg (by omega), storesAddress_pos (by omega)]
        simp [no_len]
      · intro _
        rw [if_neg (by omega)]
        simp
      · intro _
        exact NMIPAddr.address_ipAddrSet _ _ _

end NetworkManager.RoutingRule
