import NetworkManager.Core.RoutingRuleText

/-!
# The words of a routing rule

The text of a rule consists of the names and values of its options, escaped and separated by
blanks, so that splitting the text gives these words back.
-/

namespace NetworkManager.RoutingRule

open Ascii EscapedTokens InetAddress InterfaceName

def addressValue (inet : Inet) (required : Bool) (family : AddrFamily) (addr : NMIPAddr)
    (len : UInt8) : Option (List Char) :=
  if len = 0 then if required then some (anyAddress family ++ ['/', '0']) else none
  else
    some (inet.ntop family (addr.address family) ++
      if len.toNat ≠ family.size * 8 then '/' :: decimal len.toNat else [])

/-- The value under which the mark of packets is written. -/
def fwmarkValue (fwmark fwmask : UInt32) : Option (List Char) :=
  if fwmark ≠ 0 ∨ fwmask ≠ 0 then
    some ((if fwmark ≠ 0 then hexadecimal 0 fwmark.toNat else ['0']) ++
      if fwmask ≠ 0xFFFFFFFF then
        '/' :: if fwmask ≠ 0 then hexadecimal 0 fwmask.toNat else ['0']
      else [])
  else none

/-- The value under which a range of ports is written. -/
def xportValue (first last : UInt16) : Option (List Char) :=
  if first ≠ 0 ∨ last ≠ 0 then
    some (decimal first.toNat ++ if first ≠ last then '-' :: decimal last.toNat else [])
  else none

def valueIf (written : Prop) [Decidable written] (value : List Char) : Option (List Char) :=
  if written then some value else none

def optionWords (name : List Char) : Option (List Char) → List (List Char)
  | none => []
  | some value => [name, value]

section

variable (inet : Inet) (rule : NMIPRoutingRule)

/-- The address from which packets come, as it is written. -/
def fromValue : Option (List Char) :=
  addressValue inet (!rule.toHas || !rule.toValid) rule.addrFamily rule.fromBin
    (if rule.fromHas && rule.fromValid then rule.fromLen else 0)

/-- The address to which packets go, as it is written. -/
def toValue : Option (List Char) :=
  addressValue inet false rule.addrFamily rule.toBin
    (if rule.toHas && rule.toValid then rule.toLen else 0)

def ruleWords : List (List (List Char)) :=
  [optionWords priorityName (valueIf rule.priorityHas (decimal rule.priority.toNat)),
    if rule.invert then [notName] else [],
    optionWords fromName (fromValue inet rule),
    optionWords toName (toValue inet rule),
    optionWords tosName (valueIf (rule.tos ≠ 0) (hexadecimal 2 rule.tos.toNat)),
    optionWords ipprotoName (valueIf (rule.ipproto ≠ 0) (decimal rule.ipproto.toNat)),
    optionWords fwmarkName (fwmarkValue rule.fwmark rule.fwmask),
    optionWords sportName (xportValue rule.sportStart rule.sportEnd),
    optionWords dportName (xportValue rule.dportStart rule.dportEnd),
    optionWords iifName rule.iifname,
    optionWords oifName rule.oifname,
    optionWords tableName (valueIf (rule.table ≠ 0) (decimal rule.table.toNat)),
    optionWords suppressPrefixlengthName
      (valueIf (rule.suppressPrefixlength ≠ -1) (signedDecimal rule.suppressPrefixlength))]

end

/-- A word in which nothing is escaped. -/
structure PlainValue (value : List Char) : Prop extends Word value where
  no_backslash : '\\' ∉ value

variable {value : List Char}

theorem escape_plain (plain : PlainValue value) :
    escapedTokensEscape value asciiSpaces = value := by
  rw [escape_word plain.toWord]
  have single : ∀ c ∈ value, escapeChar asciiSpaces c = [c] := by
    intro c mem
    rw [escapeChar_plain (plain.no_space c mem), if_neg]
    rintro rfl
    exact plain.no_backslash mem
  rw [List.flatMap_congr single]
  exact List.flatMap_singleton' value

/-- The characters of values that are not names: digits, and what stands between them. -/
def IsValueChar (c : Char) : Prop :=
  digitValue c < 36 ∨ c = '.' ∨ c = ':' ∨ c = '/' ∨ c = '-'

instance (c : Char) : Decidable (IsValueChar c) := inferInstanceAs (Decidable (_ ∨ _))

theorem plainValue_of_chars (nonempty : value ≠ []) (chars : ∀ c ∈ value, IsValueChar c) :
    PlainValue value := by
  refine ⟨⟨nonempty, ?_⟩, ?_⟩
  · intro c mem blank
    simp only [asciiSpaces, List.mem_cons, List.not_mem_nil, or_false] at blank
    rcases blank with rfl | rfl | rfl | rfl | rfl <;> exact absurd (chars _ mem) (by decide)
  · intro mem
    exact absurd (chars _ mem) (by decide)

theorem plainValue_of_all (nonempty : value ≠ [])
    (all : value.all (fun c => !asciiSpaces.contains c && c != '\\') = true) :
    PlainValue value := by
  simp only [List.all_eq_true, Bool.and_eq_true, Bool.not_eq_true', bne_iff_ne,
    List.contains_eq_mem, decide_eq_false_iff_not] at all
  exact ⟨⟨nonempty, fun c mem => (all c mem).1⟩, fun mem => (all _ mem).2 rfl⟩

theorem isValueChar_toDigits {base : Nat} (one_lt : 1 < base) (small : base ≤ 16) (number : Nat) :
    ∀ c ∈ Nat.toDigits base number, IsValueChar c := by
  intro c mem
  have below := digitValue_lt_of_mem_toDigits one_lt small mem
  exact Or.inl (by omega)

theorem isValueChar_decimal (number : Nat) : ∀ c ∈ decimal number, IsValueChar c :=
  isValueChar_toDigits (by decide) (by decide) number

theorem isValueChar_hexadecimal (width number : Nat) :
    ∀ c ∈ hexadecimal width number, IsValueChar c := by
  intro c mem
  unfold hexadecimal at mem
  simp only [List.mem_cons, List.mem_append, List.mem_replicate] at mem
  rcases mem with rfl | rfl | ⟨-, rfl⟩ | mem
  · decide
  · decide
  · decide
  · exact isValueChar_toDigits (by decide) (by decide) number c mem

variable {inet : Inet} {name : List Char}

theorem isValueChar_denotes {family : AddrFamily} {text : List Char}
    {address : Vector UInt8 family.size} (denotes : Denotes inet family text address) :
    ∀ c ∈ text, IsValueChar c := by
  intro c mem
  rcases denotes.chars c mem with digit | rfl | rfl
  · exact Or.inl (by omega)
  · decide
  · decide

theorem forall_append {front rest : List Char} {property : Char → Prop}
    (in_front : ∀ c ∈ front, property c) (in_rest : ∀ c ∈ rest, property c) :
    ∀ c ∈ front ++ rest, property c := List.forall_mem_append.mpr ⟨in_front, in_rest⟩

theorem plainValue_decimal (number : Nat) : PlainValue (decimal number) :=
  plainValue_of_chars Nat.toDigits_ne_nil (isValueChar_decimal number)

theorem plainValue_hexadecimal (width number : Nat) : PlainValue (hexadecimal width number) :=
  plainValue_of_chars (List.cons_ne_nil _ _) (isValueChar_hexadecimal width number)

theorem plainValue_signedDecimal (number : Int) : PlainValue (signedDecimal number) := by
  unfold signedDecimal
  split
  · refine plainValue_of_chars (List.cons_ne_nil _ _) ?_
    exact List.forall_mem_cons.mpr ⟨by decide, isValueChar_decimal _⟩
  · exact plainValue_decimal _

theorem plainValue_append {front rest : List Char} {mark : Char} {condition : Prop}
    [Decidable condition] (plain_mark : IsValueChar mark) (nonempty : front ≠ [])
    (in_front : ∀ c ∈ front, IsValueChar c) (in_rest : ∀ c ∈ rest, IsValueChar c) :
    PlainValue (front ++ if condition then mark :: rest else []) := by
  refine plainValue_of_chars (by simp [nonempty]) (forall_append in_front ?_)
  split
  · exact List.forall_mem_cons.mpr ⟨plain_mark, in_rest⟩
  · simp

theorem isValueChar_mark (mark : UInt32) :
    ∀ c ∈ (if mark ≠ 0 then hexadecimal 0 mark.toNat else ['0']), IsValueChar c := by
  split
  · exact isValueChar_hexadecimal 0 mark.toNat
  · exact List.forall_mem_singleton.mpr (by decide)

theorem plainValue_fwmarkValue {fwmark fwmask : UInt32}
    (written : value ∈ fwmarkValue fwmark fwmask) : PlainValue value := by
  unfold fwmarkValue at written
  split at written
  · obtain rfl := Option.some.inj written
    refine plainValue_append (by decide) ?_ (isValueChar_mark fwmark) (isValueChar_mark fwmask)
    split <;> exact List.cons_ne_nil _ _
  · cases written

theorem plainValue_xportValue {first last : UInt16} (written : value ∈ xportValue first last) :
    PlainValue value := by
  unfold xportValue at written
  split at written
  · obtain rfl := Option.some.inj written
    exact plainValue_append (by decide) Nat.toDigits_ne_nil (isValueChar_decimal _)
      (isValueChar_decimal _)
  · cases written

theorem plainValue_addressValue (lawful : inet.Lawful) {required : Bool} {family : AddrFamily}
    {addr : NMIPAddr} {len : UInt8} (written : value ∈ addressValue inet required family addr len) :
    PlainValue value := by
  unfold addressValue at written
  split at written
  · split at written
    · obtain rfl := Option.some.inj written
      cases family <;> exact plainValue_of_all (List.cons_ne_nil _ _) (by decide)
    · cases written
  · obtain rfl := Option.some.inj written
    have denotes := denotes_ntop lawful (addr.address family)
    exact plainValue_append (by decide) denotes.nonempty (isValueChar_denotes denotes)
      (isValueChar_decimal _)

/-- A part of the text consists of words. -/
structure Writes (part : Option (List Char)) (words : List (List Char)) : Prop where
  all_words : ∀ word ∈ words, Word word
  part_eq : part = if words = [] then none
    else some (join (words.map fun word => escapedTokensEscape word asciiSpaces))

theorem writes_option (plain_name : PlainValue name) {value : Option (List Char)}
    (all_words : ∀ word ∈ value, Word word) :
    Writes (value.map fun value => namedPart name (escapedTokensEscape value asciiSpaces))
      (optionWords name value) := by
  cases value with
  | none => exact ⟨by simp [optionWords], rfl⟩
  | some value =>
    refine ⟨?_, ?_⟩
    · have value_word := all_words value rfl
      simp [optionWords, plain_name.toWord, value_word]
    · have joined : join [name, escapedTokensEscape value asciiSpaces] =
          namedPart name (escapedTokensEscape value asciiSpaces) := by
        rw [join_cons (List.cons_ne_nil _ _), join_singleton]
        rfl
      simp [optionWords, escape_plain plain_name, joined]

theorem writes_plain (plain_name : PlainValue name) {value : Option (List Char)}
    (plain_value : ∀ word ∈ value, PlainValue word) :
    Writes (value.map (namedPart name)) (optionWords name value) := by
  have writes := writes_option plain_name fun word mem => (plain_value word mem).toWord
  have same : (value.map fun value => namedPart name (escapedTokensEscape value asciiSpaces)) =
      value.map (namedPart name) := by
    cases value with
    | none => rfl
    | some value => simp [escape_plain (plain_value value rfl)]
  rw [same] at writes
  exact writes

theorem map_valueIf (written : Prop) [Decidable written] (name value : List Char) :
    (valueIf written value).map (namedPart name) =
      if written then some (namedPart name value) else none := by
  unfold valueIf
  split <;> rfl

theorem plain_valueIf {written : Prop} [Decidable written] (plain : PlainValue value) :
    ∀ word ∈ valueIf written value, PlainValue word := by
  intro word mem
  unfold valueIf at mem
  split at mem
  · obtain rfl := Option.some.inj mem
    exact plain
  · cases mem

theorem join_ne_nil {words : List (List Char)} (nonempty : words ≠ [])
    (all_words : ∀ word ∈ words, Word word) :
    join (words.map fun word => escapedTokensEscape word asciiSpaces) ≠ [] := by
  intro empty
  have split := escapedTokensSplit_join all_words
  rw [empty] at split
  exact nonempty split.symm

theorem foldl_appendPart {parts : List (Option (List Char))} {words : List (List (List Char))}
    (writes : List.Forall₂ Writes parts words) {front : List (List Char)}
    (front_words : ∀ word ∈ front, Word word) :
    parts.foldl appendPart (join (front.map fun word => escapedTokensEscape word asciiSpaces)) =
      join ((front ++ words.flatten).map fun word => escapedTokensEscape word asciiSpaces) := by
  induction writes generalizing front with
  | nil => simp
  | @cons part part_words parts words writes _ ih =>
    obtain ⟨all_words, rfl⟩ := writes
    have step : appendPart (join (front.map fun word => escapedTokensEscape word asciiSpaces))
        (if part_words = [] then none
          else some (join (part_words.map fun word => escapedTokensEscape word asciiSpaces))) =
        join ((front ++ part_words).map fun word => escapedTokensEscape word asciiSpaces) := by
      by_cases no_words : part_words = []
      · simp [no_words, appendPart]
      · rw [if_neg no_words]
        unfold appendPart addSpaceDelimiter
        dsimp only
        by_cases no_front : front = []
        · simp [no_front, join]
        · rw [if_neg (join_ne_nil no_front front_words), List.map_append,
            join_append (by simpa using no_front) (by simpa using no_words)]
          simp
    rw [List.foldl_cons, step, ih (List.forall_mem_append.mpr ⟨front_words, all_words⟩),
      List.flatten_cons, List.append_assoc]

theorem plainValue_ruleKeyNames (known : name ∈ ruleKeyNames.map Prod.fst) : PlainValue name := by
  have nonempty : (ruleKeyNames.map Prod.fst).all (fun name => name ≠ []) = true := by decide
  have plain : (ruleKeyNames.map Prod.fst).all (fun name =>
      name.all fun c => !asciiSpaces.contains c && c != '\\') = true := by decide
  rw [List.all_eq_true] at nonempty plain
  exact plainValue_of_all (of_decide_eq_true (nonempty _ known)) (plain _ known)

theorem writes_valueIf (known : name ∈ ruleKeyNames.map Prod.fst) {written : Prop}
    [Decidable written] (plain : PlainValue value) :
    Writes (if written then some (namedPart name value) else none)
      (optionWords name (valueIf written value)) := by
  rw [← map_valueIf]
  exact writes_plain (plainValue_ruleKeyNames known) (plain_valueIf plain)

theorem writes_not {written : Prop} [Decidable written] :
    Writes (if written then some notName else none) (if written then [notName] else []) := by
  have plain : PlainValue notName := plainValue_ruleKeyNames (by decide)
  split
  · refine ⟨List.forall_mem_singleton.mpr plain.toWord, ?_⟩
    rw [if_neg (List.cons_ne_nil _ _), List.map_singleton, join_singleton, escape_plain plain]
  · exact ⟨by simp, rfl⟩

theorem map_addressValue (inet : Inet) (name : List Char) (required : Bool) (family : AddrFamily)
    (addr : NMIPAddr) (len : UInt8) :
    (addressValue inet required family addr len).map (namedPart name) =
      inetAddrPart inet name required family addr len := by
  unfold addressValue inetAddrPart
  split
  · split <;> rfl
  · rfl

theorem map_fwmarkValue (fwmark fwmask : UInt32) :
    (fwmarkValue fwmark fwmask).map (namedPart fwmarkName) = fwmarkPart fwmark fwmask := by
  unfold fwmarkValue fwmarkPart
  split <;> rfl

theorem map_xportValue (name : List Char) (first last : UInt16) :
    (xportValue first last).map (namedPart name) = xportPart name first last := by
  unfold xportValue xportPart
  split <;> rfl

theorem writes_rule (lawful : inet.Lawful) {rule : NMIPRoutingRule} (valid : ValidRule rule) :
    List.Forall₂ Writes (ruleParts inet rule) (ruleWords inet rule) := by
  refine .cons ?_ <| .cons ?_ <| .cons ?_ <| .cons ?_ <| .cons ?_ <| .cons ?_ <| .cons ?_ <|
    .cons ?_ <| .cons ?_ <| .cons ?_ <| .cons ?_ <| .cons ?_ <| .cons ?_ .nil
  · exact writes_valueIf (by decide) (plainValue_decimal _)
  · exact writes_not
  · rw [← map_addressValue]
    exact writes_plain (plainValue_ruleKeyNames (by decide)) fun _ => plainValue_addressValue lawful
  · rw [← map_addressValue]
    exact writes_plain (plainValue_ruleKeyNames (by decide)) fun _ => plainValue_addressValue lawful
  · exact writes_valueIf (by decide) (plainValue_hexadecimal _ _)
  · exact writes_valueIf (by decide) (plainValue_decimal _)
  · rw [← map_fwmarkValue]
    exact writes_plain (plainValue_ruleKeyNames (by decide)) fun _ => plainValue_fwmarkValue
  · rw [← map_xportValue]
    exact writes_plain (plainValue_ruleKeyNames (by decide)) fun _ => plainValue_xportValue
  · rw [← map_xportValue]
    exact writes_plain (plainValue_ruleKeyNames (by decide)) fun _ => plainValue_xportValue
  · exact writes_option (plainValue_ruleKeyNames (by decide)) fun name mem =>
      word_of_isValidIfaceNameUtf8safe (valid.iifname name mem)
  · exact writes_option (plainValue_ruleKeyNames (by decide)) fun name mem =>
      word_of_isValidIfaceNameUtf8safe (valid.oifname name mem)
  · exact writes_valueIf (by decide) (plainValue_decimal _)
  · exact writes_valueIf (by decide) (plainValue_signedDecimal _)

theorem all_words_flatten {parts : List (Option (List Char))} {words : List (List (List Char))}
    (writes : List.Forall₂ Writes parts words) : ∀ word ∈ words.flatten, Word word := by
  induction writes with
  | nil => simp
  | cons writes _ ih =>
    rw [List.flatten_cons]
    exact List.forall_mem_append.mpr ⟨writes.all_words, ih⟩

theorem escapedTokensSplit_rule (lawful : inet.Lawful) {rule : NMIPRoutingRule}
    (valid : ValidRule rule) :
    escapedTokensSplit ((ruleParts inet rule).foldl appendPart []) asciiSpaces =
      (ruleWords inet rule).flatten := by
  have writes := writes_rule lawful valid
  have written := foldl_appendPart writes (show ∀ word ∈ [], Word word by simp)
  rw [List.nil_append] at written
  change List.foldl appendPart [] _ = _ at written
  rw [written, escapedTokensSplit_join (all_words_flatten writes)]

end NetworkManager.RoutingRule
