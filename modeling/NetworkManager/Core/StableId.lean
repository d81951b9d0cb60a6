import NetworkManager.Core.Ascii
import NetworkManager.Library.Framing

/-!
# Expanding a stable id

A stable id is a template in which some patterns stand for properties of the connection, of the
device or of the boot.  The value of a pattern is written after the pattern with its length in front,
so that different templates and different values never give the same text.
-/

namespace NetworkManager.StableId

open Ascii List

/-- `NMUtilsStableType`. -/
inductive NMUtilsStableType where
  | uuid
  | stableId
  | generated
  | random
  deriving DecidableEq, Repr

/-- What the patterns stand for.  `none` is `NULL`. -/
structure Context where
  deviceid : Option (List Char)
  hwaddr : Option (List Char)
  bootid : Option (List Char)
  uuid : Option (List Char)

/-- The patterns that are substituted. -/
inductive Substitution where
  | connection
  | boot
  | device
  | mac
  deriving DecidableEq, Repr

namespace Substitution

def pattern : Substitution → List Char
  | connection => "$\x7bCONNECTION\x7d".toList
  | boot => "$\x7bBOOT\x7d".toList
  | device => "$\x7bDEVICE\x7d".toList
  | mac => "$\x7bMAC\x7d".toList

/-- What a pattern stands for. -/
def value (context : Context) : Substitution → Option (List Char)
  | connection => context.uuid
  | boot => context.bootid
  | device => context.deviceid
  | mac => context.hwaddr

end Substitution

/-- The pattern that asks for a random id. -/
def randomPattern : List Char := "$\x7bRANDOM\x7d".toList

/-- `_stable_id_append`. -/
def stableIdAppend (substitution : Option (List Char)) : List Char :=
  let substitution := substitution.getD []
  '=' :: (Nat.toDigits 10 substitution.length ++ '\x7b' :: (substitution ++ ['\x7d']))

def checkPatterns (text : List Char) : Option Substitution :=
  [Substitution.connection, .boot, .device, .mac].find? fun substitution =>
    substitution.pattern.isPrefixOf text

/-- What the loop of `nm_utils_stable_id_parse` finds at a position. -/
inductive Item where
  /-- Characters that are taken as they are. -/
  | verbatim (text : List Char)
  /-- A pattern that is substituted. -/
  | substituted (which : Substitution)
  /-- The pattern that asks for a random id. -/
  | random
  deriving DecidableEq, Repr

/-- The characters of the template that an item covers. -/
def Item.text : Item → List Char
  | .verbatim text => text
  | .substituted which => which.pattern
  | .random => randomPattern

/-- The item at the front of a template.  Of two dollar signs, the second one is taken as it is too. -/
def nextItem : List Char → Option Item
  | [] => none
  | c :: rest =>
    if c ≠ '$' then some (.verbatim [c])
    else
      match checkPatterns (c :: rest) with
      | some which => some (.substituted which)
      | none =>
        if randomPattern.isPrefixOf (c :: rest) then some .random
        else if rest.head? = some '$' then some (.verbatim ['$', '$'])
        else some (.verbatim ['$'])

variable {template : List Char} {item : Item}

theorem Item.length_pos (next : nextItem template = some item) :
    template ≠ [] ∧ 0 < item.text.length := by
  unfold nextItem at next
  split at next
  · cases next
  · refine ⟨cons_ne_nil _ _, ?_⟩
    split at next
    · rw [← Option.some.inj next]
      exact Nat.one_pos
    · split at next
      · rename_i which _
        rw [← Option.some.inj next]
        cases which <;> decide
      · split at next
        · rw [← Option.some.inj next]
          decide
        · split at next <;> rw [← Option.some.inj next] <;> decide

theorem length_drop_lt (next : nextItem template = some item) :
    (template.drop item.text.length).length < template.length := by
  obtain ⟨nonempty, positive⟩ := Item.length_pos next
  have := length_pos_iff.mpr nonempty
  rw [length_drop]
  omega

/-- The loop of `nm_utils_stable_id_parse`, with the characters from `idx_start` on and with `str`. -/
def parseLoop (context : Context) (pending : List Char) (str : Option (List Char))
    (template : List Char) : NMUtilsStableType × Option (List Char) :=
  match next : nextItem template with
  | none =>
    match str with
    | none => (.stableId, none)
    | some str => (.generated, some (str ++ pending))
  | some item =>
    match item with
    | .verbatim text => parseLoop context (pending ++ text) str (template.drop text.length)
    | .substituted which =>
      parseLoop context []
        (some (str.getD [] ++ (pending ++ which.pattern) ++ stableIdAppend (which.value context)))
        (template.drop which.pattern.length)
    | .random => (.random, none)
termination_by template.length
decreasing_by
  · exact length_drop_lt next
  · exact length_drop_lt next

/-- `nm_utils_stable_id_parse`. -/
def stableIdParse (context : Context) : Option (List Char) → NMUtilsStableType × Option (List Char)
  | none => (.uuid, none)
  | some stableId => parseLoop context [] none stableId

def items (template : List Char) : List Item :=
  match next : nextItem template with
  | none => []
  | some item => item :: items (template.drop item.text.length)
termination_by template.length
decreasing_by exact length_drop_lt next

def Item.output (context : Context) : Item → List Char
  | .verbatim text => text
  | .substituted which => which.pattern ++ stableIdAppend (which.value context)
  | .random => randomPattern

/-- The template with the values of its patterns. -/
def expand (context : Context) (template : List Char) : List Char :=
  (items template).flatMap (Item.output context)

theorem items_nil : items [] = [] := by
  rw [items]
  rfl

theorem items_of_nextItem (next : nextItem template = some item) :
    items template = item :: items (template.drop item.text.length) := by
  rw [items]
  split
  · rename_i missing
    rw [missing] at next
    cases next
  · rename_i other found
    rw [found] at next
    rw [Option.some.inj next]

theorem expand_nil (context : Context) : expand context [] = [] := by
  rw [expand, items_nil]
  rfl

theorem expand_of_nextItem (context : Context) (next : nextItem template = some item) :
    expand context template =
      item.output context ++ expand context (template.drop item.text.length) := by
  rw [expand, items_of_nextItem next, flatMap_cons, expand]

theorem exists_nextItem (nonempty : template ≠ []) : ∃ item, nextItem template = some item := by
  obtain ⟨c, rest, rfl⟩ := exists_cons_of_ne_nil nonempty
  unfold nextItem
  dsimp only
  split
  · exact ⟨_, rfl⟩
  · split
    · exact ⟨_, rfl⟩
    · split
      · exact ⟨_, rfl⟩
      · split <;> exact ⟨_, rfl⟩

theorem nextItem_plain {c : Char} (plain : c ≠ '$') (rest : List Char) :
    nextItem (c :: rest) = some (.verbatim [c]) := by
  rw [nextItem, if_pos plain]

theorem expand_plain (context : Context) {c : Char} (plain : c ≠ '$') (rest : List Char) :
    expand context (c :: rest) = c :: expand context rest :=
  expand_of_nextItem context (nextItem_plain plain rest)

/-- What comes after the dollar sign of a pattern. -/
def Substitution.body : Substitution → List Char
  | connection => "\x7bCONNECTION\x7d".toList
  | boot => "\x7bBOOT\x7d".toList
  | device => "\x7bDEVICE\x7d".toList
  | mac => "\x7bMAC\x7d".toList

variable (which : Substitution) (rest : List Char)

theorem Substitution.pattern_eq : which.pattern = '$' :: which.body := by
  cases which <;> rfl

theorem Substitution.no_dollar : '$' ∉ which.body := by
  cases which <;> decide

/-- What comes after the dollar sign of the pattern for a random id. -/
def randomBody : List Char := "\x7bRANDOM\x7d".toList

theorem checkPatterns_eq_some {text : List Char} {which : Substitution}
    (found : checkPatterns text = some which) : which.pattern <+: text := by
  unfold checkPatterns at found
  have starts := find?_some found
  exact isPrefixOf_iff_prefix.mp starts

theorem checkPatterns_eq_none {text : List Char} :
    checkPatterns text = none ↔ ∀ which : Substitution, ¬ which.pattern <+: text := by
  have all : ∀ which : Substitution, which ∈ [Substitution.connection, .boot, .device, .mac] := by
    intro which
    cases which <;> decide
  unfold checkPatterns
  rw [find?_eq_none]
  constructor
  · intro none_found which starts
    exact none_found which (all which) (List.isPrefixOf_iff_prefix.mpr starts)
  · intro none_starts which _ found
    exact none_starts which (List.isPrefixOf_iff_prefix.mp found)

theorem nextItem_pattern :
    nextItem (which.pattern ++ rest) = some (.substituted which) := by
  cases which <;> rfl

theorem nextItem_random : nextItem (randomPattern ++ rest) = some .random := rfl

theorem nextItem_dollars :
    nextItem ('$' :: '$' :: rest) = some (.verbatim ['$', '$']) := rfl

section

variable (next : nextItem template = some item)

include next

theorem nextItem_eq :
    (∃ c rest, c ≠ '$' ∧ template = c :: rest ∧ item = .verbatim [c]) ∨
      (∃ which, which.pattern <+: template ∧ item = .substituted which) ∨
      (randomPattern <+: template ∧ item = .random) ∨
      (∃ rest, template = '$' :: '$' :: rest ∧ item = .verbatim ['$', '$']) ∨
      ∃ rest, template = '$' :: rest ∧ item = .verbatim ['$'] ∧ rest.head? ≠ some '$' ∧
        (∀ which : Substitution, ¬ which.body <+: rest) ∧ ¬ randomBody <+: rest := by
  unfold nextItem at next
  split at next
  · cases next
  · rename_i c rest
    split at next
    · rename_i plain
      exact Or.inl ⟨c, rest, plain, rfl, (Option.some.inj next).symm⟩
    · rename_i is_dollar
      obtain rfl : c = '$' := Decidable.not_not.mp is_dollar
      split at next
      · rename_i which found
        exact Or.inr (Or.inl ⟨which, checkPatterns_eq_some found, (Option.some.inj next).symm⟩)
      · rename_i none_found
        have no_pattern := checkPatterns_eq_none.mp none_found
        split at next
        · rename_i is_random
          exact Or.inr (Or.inr (Or.inl
            ⟨List.isPrefixOf_iff_prefix.mp is_random, (Option.some.inj next).symm⟩))
        · rename_i no_random
          split at next
          · rename_i second
            obtain ⟨rest, rfl⟩ := head?_eq_some_iff.mp second
            exact Or.inr (Or.inr (Or.inr (Or.inl ⟨rest, rfl, (Option.some.inj next).symm⟩)))
          · rename_i no_second
            refine Or.inr (Or.inr (Or.inr (Or.inr
              ⟨rest, rfl, (Option.some.inj next).symm, no_second, fun which starts => ?_,
                fun starts => ?_⟩)))
            · refine no_pattern which ?_
              rw [which.pattern_eq]
              exact cons_prefix_cons.mpr ⟨rfl, starts⟩
            · refine no_random (List.isPrefixOf_iff_prefix.mpr ?_)
              exact cons_prefix_cons.mpr ⟨rfl, starts⟩

theorem Item.text_prefix : item.text <+: template := by
  rcases nextItem_eq next with ⟨c, rest, -, rfl, rfl⟩ | ⟨which, starts, rfl⟩ | ⟨starts, rfl⟩ |
    ⟨rest, rfl, rfl⟩ | ⟨rest, rfl, rfl, -⟩
  · exact ⟨rest, rfl⟩
  · exact starts
  · exact starts
  · exact ⟨rest, rfl⟩
  · exact ⟨rest, rfl⟩

theorem Item.text_append_drop : item.text ++ template.drop item.text.length = template := by
  obtain ⟨rest, template_eq⟩ := Item.text_prefix next
  rw [← template_eq, drop_left]

end

section

variable (context : Context)

theorem head?_expand (template : List Char) : (expand context template).head? = template.head? := by
  by_cases empty : template = []
  · rw [empty, expand_nil]
  · obtain ⟨item, next⟩ := exists_nextItem empty
    rw [expand_of_nextItem context next]
    rcases nextItem_eq next with ⟨c, rest, -, rfl, rfl⟩ | ⟨which, ⟨rest, rfl⟩, rfl⟩ |
      ⟨⟨rest, rfl⟩, rfl⟩ | ⟨rest, rfl, rfl⟩ | ⟨rest, rfl, rfl, -⟩
    · rfl
    · cases which <;> rfl
    · rfl
    · rfl
    · rfl

theorem prefix_of_prefix_expand {text template : List Char} (no_dollar : '$' ∉ text)
    (starts : text <+: expand context template) : text <+: template := by
  induction text generalizing template with
  | nil => exact nil_prefix
  | cons c text ih =>
    obtain ⟨c_ne, no_dollar⟩ := ne_and_not_mem_of_not_mem_cons no_dollar
    have first : template.head? = some c := by
      rw [← head?_expand context]
      obtain ⟨rest, expand_eq⟩ := starts
      rw [← expand_eq]
      rfl
    obtain ⟨rest, rfl⟩ := head?_eq_some_iff.mp first
    rw [expand_plain context (Ne.symm c_ne)] at starts
    exact cons_prefix_cons.mpr ⟨rfl, ih no_dollar (cons_prefix_cons.mp starts).2⟩

theorem nextItem_expand (template : List Char) :
    nextItem (expand context template) = nextItem template := by
  by_cases empty : template = []
  · rw [empty, expand_nil]
  · obtain ⟨item, next⟩ := exists_nextItem empty
    rw [next, expand_of_nextItem context next]
    rcases nextItem_eq next with ⟨c, rest, plain, -, rfl⟩ | ⟨which, -, rfl⟩ | ⟨-, rfl⟩ |
      ⟨rest, -, rfl⟩ | ⟨rest, rfl, rfl, no_second, no_pattern, no_random⟩
    · exact nextItem_plain plain _
    · rw [Item.output, append_assoc]
      exact nextItem_pattern which _
    · exact nextItem_random _
    · exact nextItem_dollars _
    · change nextItem ('$' :: expand context rest) = _
      have no_patterns : checkPatterns ('$' :: expand context rest) = none := by
        refine checkPatterns_eq_none.mpr fun which starts => ?_
        rw [which.pattern_eq] at starts
        exact no_pattern which (prefix_of_prefix_expand context which.no_dollar
          (cons_prefix_cons.mp starts).2)
      have not_random : ¬ randomPattern.isPrefixOf ('$' :: expand context rest) = true := by
        intro starts
        exact no_random (prefix_of_prefix_expand context (by decide)
          (cons_prefix_cons.mp (List.isPrefixOf_iff_prefix.mp starts)).2)
      have not_second : (expand context rest).head? ≠ some '$' := by
        rw [head?_expand]
        exact no_second
      rw [nextItem, if_neg (by decide), no_patterns]
      dsimp only
      rw [if_neg not_random, if_neg not_second]

end

theorem toDigits_no_brace (number : Nat) : '\x7b' ∉ Nat.toDigits 10 number := by
  intro mem
  exact absurd (digitValue_lt_of_mem_toDigits (by decide) (by decide) mem) (by decide)

theorem stableIdAppend_inj {first second : Option (List Char)} {first_rest second_rest : List Char}
    (same : stableIdAppend first ++ first_rest = stableIdAppend second ++ second_rest) :
    first.getD [] = second.getD [] ∧ first_rest = second_rest := by
  unfold stableIdAppend at same
  simp only [cons_append, List.cons.injEq, true_and, append_assoc] at same
  obtain ⟨digits_eq, rest_eq⟩ :=
    Framing.terminated_inj (toDigits_no_brace _) (toDigits_no_brace _) same
  have length_eq : (first.getD []).length = (second.getD []).length := by
    have values := congrArg (digitsValue 10) digits_eq
    rwa [digitsValue_toDigits _ (by decide) (by decide),
      digitsValue_toDigits _ (by decide) (by decide)] at values
  obtain ⟨value_eq, rest_eq⟩ := append_inj rest_eq length_eq
  exact ⟨value_eq, (List.cons.inj rest_eq).2⟩

/-- Two contexts give the same value to a pattern, where no value is the empty one. -/
def SameValue (first second : Context) (which : Substitution) : Prop :=
  (which.value first).getD [] = (which.value second).getD []

/-- A pattern is used in a template. -/
def Uses (template : List Char) (which : Substitution) : Prop :=
  .substituted which ∈ items template

theorem stableIdAppend_congr {first second : Option (List Char)}
    (same : first.getD [] = second.getD []) : stableIdAppend first = stableIdAppend second := by
  unfold stableIdAppend
  rw [same]

theorem expand_congr {first second : Context}
    (same : ∀ which, Uses template which → SameValue first second which) :
    expand first template = expand second template := by
  refine flatMap_congr fun item mem => ?_
  cases item with
  | verbatim text => rfl
  | substituted which => rw [Item.output, Item.output, stableIdAppend_congr (same which mem)]
  | random => rfl

theorem not_uses_nil : ¬ Uses [] which := by
  unfold Uses
  rw [items_nil]
  exact not_mem_nil

theorem uses_iff (next : nextItem template = some item) (which : Substitution) :
    Uses template which ↔
      item = .substituted which ∨ Uses (template.drop item.text.length) which := by
  unfold Uses
  rw [items_of_nextItem next, mem_cons]
  exact or_congr eq_comm Iff.rfl

theorem Item.output_inj {first second : Context} {first_rest second_rest : List Char}
    (same : item.output first ++ first_rest = item.output second ++ second_rest) :
    first_rest = second_rest ∧
      ∀ which, item = .substituted which → SameValue first second which := by
  cases item with
  | verbatim text =>
    exact ⟨append_cancel_left same, fun _ impossible => (by cases impossible)⟩
  | substituted which =>
    rw [Item.output, Item.output, append_assoc, append_assoc] at same
    obtain ⟨value_eq, rest_eq⟩ := stableIdAppend_inj (append_cancel_left same)
    refine ⟨rest_eq, fun other item_eq => ?_⟩
    cases item_eq
    exact value_eq
  | random => exact ⟨append_cancel_left same, fun _ impossible => (by cases impossible)⟩

/-- Equal expansions come from equal templates and equal values.  The induction follows the items:
the first item of both templates is the first item of their common expansion. -/
theorem expand_inj {first second : Context} {template other : List Char}
    (same : expand first template = expand second other) :
    template = other ∧ ∀ which, Uses template which → SameValue first second which := by
  induction length_eq : template.length using Nat.strong_induction_on
    generalizing template other with
  | _ length ih =>
    have items_eq : nextItem template = nextItem other := by
      rw [← nextItem_expand first, same, nextItem_expand]
    by_cases empty : template = []
    · subst empty
      have other_empty : other = [] := by
        by_contra nonempty
        obtain ⟨item, next⟩ := exists_nextItem nonempty
        rw [← items_eq] at next
        cases next
      exact ⟨other_empty.symm, fun which uses => absurd uses (not_uses_nil which)⟩
    · obtain ⟨item, next⟩ := exists_nextItem empty
      have other_next : nextItem other = some item := by rw [← items_eq, next]
      rw [expand_of_nextItem first next, expand_of_nextItem second other_next] at same
      obtain ⟨rest_same, value_eq⟩ := Item.output_inj same
      obtain ⟨rest_eq, values_eq⟩ :=
        ih _ (length_eq ▸ length_drop_lt next) rest_same rfl
      refine ⟨?_, fun which uses => ?_⟩
      · rw [← Item.text_append_drop next, ← Item.text_append_drop other_next, rest_eq]
      · rcases (uses_iff next which).mp uses with is_item | uses
        · exact value_eq which is_item
        · exact values_eq which uses

theorem parseLoop_generated {context : Context} {pending template generated : List Char}
    {str : Option (List Char)}
    (parsed : parseLoop context pending str template = (.generated, some generated)) :
    generated = str.getD [] ++ (pending ++ expand context template) := by
  induction length_eq : template.length using Nat.strong_induction_on
    generalizing pending str template with
  | _ length ih =>
    rw [parseLoop.eq_def] at parsed
    split at parsed
    · rename_i missing
      have empty : template = [] := by
        by_contra nonempty
        obtain ⟨item, next⟩ := exists_nextItem nonempty
        rw [missing] at next
        cases next
      cases str with
      | none => cases parsed
      | some str =>
        rw [empty, expand_nil, append_nil]
        exact (Option.some.inj (Prod.mk.inj parsed).2).symm
    · rename_i item next
      have shorter := length_drop_lt next
      cases item with
      | verbatim text =>
        rw [ih _ (length_eq ▸ shorter) parsed rfl, expand_of_nextItem context next]
        simp [Item.output, Item.text]
      | substituted which =>
        rw [ih _ (length_eq ▸ shorter) parsed rfl, expand_of_nextItem context next]
        simp [Item.output, Item.text]
      | random => cases parsed

/-- Two generated ids are equal exactly if the templates are equal and all values that are used in
them are equal. -/
theorem stableIdParse_eq_iff {first second : Context} {template other generated : List Char}
    {other_generated : List Char}
    (parsed : stableIdParse first (some template) = (.generated, some generated))
    (other_parsed : stableIdParse second (some other) = (.generated, some other_generated)) :
    generated = other_generated ↔
      template = other ∧ ∀ which, Uses template which → SameValue first second which := by
  rw [parseLoop_generated parsed, parseLoop_generated other_parsed]
  constructor
  · exact expand_inj
  · rintro ⟨rfl, same⟩
    exact expand_congr same

/-- Two templates, of which one imitates the value in the expansion of the other. -/
theorem stableIdParse_imitation :
    let first : Context := ⟨none, none, some "a".toList, none⟩
    let second : Context := ⟨none, none, none, none⟩
    let template := "$\x7bBOOT\x7d".toList
    let other := "$\x7bBOOT\x7d=1\x7ba\x7d".toList
    let generated := "$\x7bBOOT\x7d=1\x7ba\x7d".toList
    let other_generated := "$\x7bBOOT\x7d=0\x7b\x7d=1\x7ba\x7d".toList
    stableIdParse first (some template) = (.generated, some generated) ∧
      stableIdParse second (some other) = (.generated, some other_generated) ∧
      (generated = other_generated ↔
        template = other ∧ ∀ which, Uses template which → SameValue first second which) := by
  intro first second template other generated other_generated
  have parsed : stableIdParse first (some template) = (.generated, some generated) := by
    decide +kernel
  have other_parsed : stableIdParse second (some other) = (.generated, some other_generated) := by
    decide +kernel
  exact ⟨parsed, other_parsed, stableIdParse_eq_iff parsed other_parsed⟩

end NetworkManager.StableId
