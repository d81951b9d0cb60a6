import NetworkManager.Core.TrafficWords
import Mathlib.Data.List.Find

/-!
# Ignoring unknown attributes

A reader that ignores unknown attributes passes over the text of one, but takes what follows it for
the rest of the same attribute.  Everything behind the first unknown attribute is lost, and so is
everything behind an attribute that is given twice.
-/

namespace NetworkManager.VariantAttributes

open List Option

open TrafficControl (Complete complete_plain attributeUnescape_complete)

/-- The text between the separators, from `ptr` on, with the text from `start` to `ptr`. -/
def splitAttributes (attrSeparator : Char) : List Char → List Char → List (List Char)
  | [], word => [word]
  | c :: rest, word =>
    if c = '\\' then
      match rest with
      | [] => [word ++ [c]]
      | escaped :: rest => splitAttributes attrSeparator rest (word ++ [c, escaped])
    else if c = attrSeparator then word :: splitAttributes attrSeparator rest []
    else splitAttributes attrSeparator rest (word ++ [c])

def attributeTexts (attrSeparator : Char) (string : List Char) : List (List Char) :=
  (splitAttributes attrSeparator string []).filter fun word => word ≠ []

/-- The name that the reader takes from an attribute. -/
def attributeName (keyValueSeparator : Char) (word : List Char) : List Char :=
  attributeUnescape (some keyValueSeparator) (findSeparator keyValueSeparator word).1

/-- The value that the reader takes from an attribute. -/
def attributeValue (keyValueSeparator : Char) (word : List Char) : List Char :=
  attributeUnescape none ((findSeparator keyValueSeparator word).2.getD [])

/-- The text has no open escape sequence, and every attribute has a name and a value. -/
structure WellFormed (attrSeparator keyValueSeparator : Char) (string : List Char) : Prop where
  complete : Complete string = true
  separated : ∀ word ∈ attributeTexts attrSeparator string,
    (findSeparator keyValueSeparator word).2.isSome = true

section

variable (keyValueSeparator : Char) (spec : List NMVariantAttributeSpec)

def isKnown (word : List Char) : Bool :=
  spec.any fun s => s.name = attributeName keyValueSeparator word

def withoutUnknown (attrSeparator keyValueSeparator : Char) (spec : List NMVariantAttributeSpec)
    (string : List Char) : List Char :=
  List.intercalate [attrSeparator]
    ((attributeTexts attrSeparator string).filter (isKnown keyValueSeparator spec))

/-- The value of an attribute can be read as its specification says. -/
def readsValue (word : List Char) : Bool :=
  match spec.find? fun s => s.name = attributeName keyValueSeparator word with
  | none => false
  | some s =>
    match parseValue s (attributeValue keyValueSeparator word) with
    | .ok _ => true
    | .error _ => false

/-- Nothing is lost behind the first attribute of unknown name: what goes before it is not read to
its end, because a value is refused or a name is repeated, or there are no attributes of known name
behind it, or the first of these repeats a name, too. -/
def NothingLost (words : List (List Char)) : Prop :=
  let before := words.takeWhile (isKnown keyValueSeparator spec)
  let behind := (words.dropWhile (isKnown keyValueSeparator spec)).filter
    (isKnown keyValueSeparator spec)
  (∀ word ∈ before, readsValue keyValueSeparator spec word = true) →
    (before.map (attributeName keyValueSeparator)).Nodup →
      ∀ word ∈ behind.head?,
        attributeName keyValueSeparator word ∈ before.map (attributeName keyValueSeparator)

end

section Separators

variable {keyValueSeparator : Char} {word before after : List Char}

theorem findSeparator_escaped {escaped : Char} (different : escaped ≠ keyValueSeparator)
    (text : List Char) :
    findSeparator keyValueSeparator ('\\' :: escaped :: text) =
      ('\\' :: escaped :: (findSeparator keyValueSeparator text).1,
        (findSeparator keyValueSeparator text).2) := by
  rw [findSeparator, if_pos rfl, if_neg different]

theorem findSeparator_append (found : findSeparator keyValueSeparator word = (before, some after))
    (more : List Char) :
    findSeparator keyValueSeparator (word ++ more) = (before, some (after ++ more)) := by
  fun_induction findSeparator keyValueSeparator word generalizing before with
  | case1 => cases found
  | case2 => cases found
  | case3 text =>
    obtain ⟨rfl, after_eq⟩ := Prod.mk.inj found
    rw [cons_append, cons_append, findSeparator, if_pos rfl, if_pos rfl, Option.some.inj after_eq]
  | case4 escaped text different stem rest split ih =>
    obtain ⟨rfl, rfl⟩ := Prod.mk.inj found
    rw [cons_append, cons_append, findSeparator_escaped different, ih split]
  | case5 text no_backslash =>
    obtain ⟨rfl, after_eq⟩ := Prod.mk.inj found
    rw [cons_append, findSeparator.eq_def]
    dsimp only
    rw [if_neg no_backslash, if_pos rfl, Option.some.inj after_eq]
  | case6 c text no_backslash different stem rest split ih =>
    obtain ⟨rfl, rfl⟩ := Prod.mk.inj found
    rw [cons_append, findSeparator_plain no_backslash different, ih split]

theorem complete_after (found : findSeparator keyValueSeparator word = (before, some after))
    (complete : Complete word = true) : Complete after = true := by
  fun_induction findSeparator keyValueSeparator word generalizing before with
  | case1 => cases found
  | case2 => cases found
  | case3 text =>
    obtain ⟨-, after_eq⟩ := Prod.mk.inj found
    rw [← Option.some.inj after_eq]
    simpa [Complete] using complete
  | case4 escaped text different stem rest split ih =>
    obtain ⟨rfl, rfl⟩ := Prod.mk.inj found
    exact ih split (by simpa [Complete] using complete)
  | case5 text no_backslash =>
    obtain ⟨-, after_eq⟩ := Prod.mk.inj found
    rw [← Option.some.inj after_eq]
    rwa [complete_plain no_backslash] at complete
  | case6 c text no_backslash different stem rest split ih =>
    obtain ⟨rfl, rfl⟩ := Prod.mk.inj found
    rw [complete_plain no_backslash] at complete
    exact ih split complete

theorem complete_append (complete : Complete word = true) (more : List Char) :
    Complete (word ++ more) = Complete more := by
  fun_induction Complete word with
  | case1 => rfl
  | case2 => cases complete
  | case3 escaped word ih => simpa [Complete] using ih complete
  | case4 c word no_backslash ih =>
    rw [cons_append, complete_plain no_backslash, ih complete]

end Separators

/-- The reader of the attributes of a text: a name that is unknown, or repeated, is the last. -/
def readWords (keyValueSeparator : Char) (spec : List NMVariantAttributeSpec) :
    List (List Char) → Attributes → Except ParseError Attributes
  | [], ht => .ok ht
  | word :: words, ht =>
    match findSpec spec ht (attributeName keyValueSeparator word) with
    | none => .ok ht
    | some s =>
      match insertAttribute ht s (attributeValue keyValueSeparator word) with
      | .error error => .error error
      | .ok ht => readWords keyValueSeparator spec words ht

section Reader

variable {attrSeparator keyValueSeparator : Char} {spec : List NMVariantAttributeSpec}
  {text word before after : List Char}

theorem parseLoop_swallow (complete : Complete text = true)
    (found : findSeparator keyValueSeparator word = (before, some after)) {ht : Attributes}
    (unknown : findSpec spec ht (attributeUnescape (some keyValueSeparator) before) = none)
    (more : List Char) :
    parseLoop attrSeparator keyValueSeparator true spec text ht (word ++ more) = .ok ht := by
  have ended : ∀ more rest, attributeEnd keyValueSeparator true spec ht (word ++ more) rest =
      .ok .next := by
    intro more rest
    simp [attributeEnd, findSeparator_append found more, unknown]
  have nonempty : ∀ more, word ++ more ≠ [] := by
    intro more empty
    rw [(append_eq_nil_iff.mp empty).1] at found
    cases found
  fun_induction Complete text generalizing more with
  | case1 => rw [parseLoop, if_neg (nonempty more), ended]
  | case2 => cases complete
  | case3 escaped text ih =>
    rw [parseLoop, if_pos rfl, append_assoc]
    exact ih complete _
  | case4 c text no_backslash ih =>
    rw [parseLoop.eq_def]
    dsimp only
    rw [if_neg no_backslash, if_neg (nonempty more), ended, append_assoc]
    split <;> exact ih complete _

theorem attributeEnd_separated (no_positional : ∀ s ∈ spec, s.noValue = false)
    (complete : Complete word = true)
    (separated : (findSeparator keyValueSeparator word).2.isSome = true) (ht : Attributes)
    (rest : List Char) :
    attributeEnd keyValueSeparator true spec ht word rest =
      match findSpec spec ht (attributeName keyValueSeparator word) with
      | none => .ok .next
      | some s =>
        (insertAttribute ht s (attributeValue keyValueSeparator word)).map .inserted := by
  obtain ⟨before, after, found⟩ : ∃ before after,
      findSeparator keyValueSeparator word = (before, some after) :=
    ⟨_, _, Prod.ext rfl (some_get separated).symm⟩
  have value : attributeUnescape rest.head? after = attributeUnescape none after :=
    attributeUnescape_complete (complete_after found complete) _
  simp only [attributeEnd, attributeName, attributeValue, found, isSome_some, if_true, getD_some]
  cases fits : findSpec spec ht (attributeUnescape (some keyValueSeparator) before) with
  | none => simp
  | some s =>
    have positional := no_positional s (findSpec_mem fits)
    simp [positional, value]

theorem parseLoop_eq_readWords (no_positional : ∀ s ∈ spec, s.noValue = false)
    (complete : Complete text = true) (complete_word : Complete word = true)
    (separated : ∀ next ∈ (splitAttributes attrSeparator text word).filter (· ≠ []),
      (findSeparator keyValueSeparator next).2.isSome = true) (ht : Attributes) :
    parseLoop attrSeparator keyValueSeparator true spec text ht word =
      readWords keyValueSeparator spec
        ((splitAttributes attrSeparator text word).filter (· ≠ [])) ht := by
  fun_induction splitAttributes attrSeparator text word generalizing ht with
  | case1 word =>
    by_cases empty : word = []
    · simp [parseLoop, empty, readWords]
    have separated := separated word (by simp [empty])
    rw [parseLoop, if_neg empty, attributeEnd_separated no_positional complete_word separated,
      filter_cons_of_pos (by simpa using empty), readWords]
    cases findSpec spec ht (attributeName keyValueSeparator word) with
    | none => rfl
    | some s =>
      dsimp only
      cases insertAttribute ht s (attributeValue keyValueSeparator word) <;> rfl
  | case2 => simp [Complete] at complete
  | case3 word escaped rest ih =>
    rw [parseLoop, if_pos rfl]
    refine ih (by simpa [Complete] using complete) ?_ separated ht
    rw [complete_append complete_word]
    rfl
  | case4 rest word no_backslash ih =>
    rw [complete_plain no_backslash] at complete
    rw [parseLoop.eq_def]
    dsimp only
    rw [if_neg no_backslash, if_pos rfl]
    by_cases empty : word = []
    · rw [if_pos empty]
      rw [filter_cons_of_neg (by simpa using empty)] at separated ⊢
      exact ih complete rfl separated ht
    rw [filter_cons_of_pos (by simpa using empty)] at separated ⊢
    have separated_word := separated word mem_cons_self
    rw [if_neg empty, attributeEnd_separated no_positional complete_word separated_word, readWords]
    cases fits : findSpec spec ht (attributeName keyValueSeparator word) with
    | none =>
      exact parseLoop_swallow complete
        (Prod.ext rfl (some_get separated_word).symm) fits [attrSeparator]
    | some s =>
      dsimp only
      cases insertAttribute ht s (attributeValue keyValueSeparator word) with
      | error error => rfl
      | ok inserted =>
        exact ih complete rfl
          (fun next mem => separated next (mem_cons_of_mem _ mem)) inserted
  | case5 c rest word no_backslash different ih =>
    rw [parseLoop_plain no_backslash different]
    rw [complete_plain no_backslash] at complete
    refine ih complete ?_ separated ht
    rw [complete_append complete_word, complete_plain no_backslash]
    rfl

end Reader

section Prefix

variable {keyValueSeparator : Char} {spec : List NMVariantAttributeSpec}
  {words before : List (List Char)} {word : List Char} {ht final : Attributes}

theorem findSpec_eq (no_positional : ∀ s ∈ spec, s.noValue = false) (ht : Attributes)
    (name : List Char) :
    findSpec spec ht name =
      if name ∈ ht.map Prod.fst then none else spec.find? fun s => s.name = name := by
  have contains_iff : ht.contains name = true ↔ name ∈ ht.map Prod.fst := by
    simp [Attributes.contains]
  split
  · rename_i used
    refine find?_eq_none.mpr ?_
    intro s mem
    simp only [no_positional s mem, Bool.false_and, Bool.or_false, Bool.and_eq_true,
      decide_eq_true_eq, not_and]
    rintro unused rfl
    simp [contains_iff.mpr used] at unused
  · rename_i unused
    refine find?_congr ?_
    intro s mem
    rw [no_positional s mem, Bool.false_and, Bool.or_false, Bool.eq_iff_iff]
    simp only [Bool.and_eq_true, Bool.not_eq_true', decide_eq_true_eq]
    constructor
    · rintro ⟨-, same⟩
      exact same.symm
    · rintro rfl
      exact ⟨by simpa using mt contains_iff.mp unused, rfl⟩

/-- The attribute is read: its name is known and not used yet, and its value fits. -/
def Reads (keyValueSeparator : Char) (spec : List NMVariantAttributeSpec) (ht : Attributes)
    (word : List Char) : Prop :=
  readsValue keyValueSeparator spec word = true ∧
    attributeName keyValueSeparator word ∉ ht.map Prod.fst

theorem readWords_reads (no_positional : ∀ s ∈ spec, s.noValue = false)
    (reads : Reads keyValueSeparator spec ht word) :
    ∃ variant, ∀ words, readWords keyValueSeparator spec (word :: words) ht =
      readWords keyValueSeparator spec words
        (ht ++ [(attributeName keyValueSeparator word, variant)]) := by
  obtain ⟨readable, unused⟩ := reads
  unfold readsValue at readable
  cases found : spec.find? fun s => s.name = attributeName keyValueSeparator word with
  | none => simp [found] at readable
  | some s =>
    have named : s.name = attributeName keyValueSeparator word := by
      simpa using find?_some found
    rw [found] at readable
    dsimp only at readable
    cases value : parseValue s (attributeValue keyValueSeparator word) with
    | error error => simp [value] at readable
    | ok variant =>
      refine ⟨variant, fun words => ?_⟩
      rw [readWords, findSpec_eq no_positional, if_neg unused, found]
      simp only [insertAttribute, value, named]

theorem readWords_stops (no_positional : ∀ s ∈ spec, s.noValue = false)
    (stops : ¬ Reads keyValueSeparator spec ht word) (words : List (List Char)) :
    readWords keyValueSeparator spec (word :: words) ht =
      readWords keyValueSeparator spec [word] ht := by
  rw [readWords, readWords, findSpec_eq no_positional]
  split
  · rfl
  · rename_i s fits
    split at fits
    · cases fits
    · rename_i unused
      have unreadable : readsValue keyValueSeparator spec word ≠ true :=
        fun readable => stops ⟨readable, unused⟩
      unfold readsValue at unreadable
      rw [fits] at unreadable
      dsimp only [insertAttribute] at unreadable ⊢
      cases value : parseValue s (attributeValue keyValueSeparator word) with
      | error error => rfl
      | ok variant => simp [value] at unreadable

theorem readWords_extends (read : readWords keyValueSeparator spec words ht = .ok final) :
    ht <+: final := by
  induction words generalizing ht with
  | nil =>
    obtain rfl : ht = final := by simpa [readWords] using read
    exact prefix_refl ht
  | cons word words ih =>
    rw [readWords] at read
    split at read
    · obtain rfl : ht = final := by simpa using read
      exact prefix_refl ht
    · dsimp only [insertAttribute] at read
      split at read
      · cases read
      · rename_i inserted
        split at inserted
        · cases inserted
        · obtain rfl := Except.ok.inj inserted
          exact (prefix_append _ _).trans (ih read)

def ReadsAll (keyValueSeparator : Char) (spec : List NMVariantAttributeSpec) (ht : Attributes)
    (words : List (List Char)) : Prop :=
  (∀ word ∈ words, Reads keyValueSeparator spec ht word) ∧
    (words.map (attributeName keyValueSeparator)).Nodup

theorem readsAll_cons (variant : GVariant) :
    ReadsAll keyValueSeparator spec ht (word :: words) ↔
      Reads keyValueSeparator spec ht word ∧
        ReadsAll keyValueSeparator spec
          (ht ++ [(attributeName keyValueSeparator word, variant)]) words := by
  simp only [ReadsAll, Reads, forall_mem_cons, map_cons, nodup_cons, List.mem_map,
    map_append, map_nil, mem_append, mem_singleton, not_or]
  grind

theorem readWords_through (no_positional : ∀ s ∈ spec, s.noValue = false)
    (reads : ReadsAll keyValueSeparator spec ht before) :
    ∃ added : Attributes, added.map Prod.fst = before.map (attributeName keyValueSeparator) ∧
      ∀ words, readWords keyValueSeparator spec (before ++ words) ht =
        readWords keyValueSeparator spec words (ht ++ added) := by
  induction before generalizing ht with
  | nil => exact ⟨[], rfl, by simp⟩
  | cons word before ih =>
    obtain ⟨variant, read⟩ :=
      readWords_reads no_positional (reads.1 word mem_cons_self)
    obtain ⟨added, names, through⟩ := ih ((readsAll_cons variant).mp reads).2
    refine ⟨(attributeName keyValueSeparator word, variant) :: added, by simp [names], ?_⟩
    intro words
    rw [cons_append, read, through, append_assoc, singleton_append]

theorem readWords_within (no_positional : ∀ s ∈ spec, s.noValue = false)
    (stops : ¬ ReadsAll keyValueSeparator spec ht before) (words : List (List Char)) :
    readWords keyValueSeparator spec (before ++ words) ht =
      readWords keyValueSeparator spec before ht := by
  induction before generalizing ht with
  | nil => exact absurd ⟨by simp, by simp⟩ stops
  | cons word before ih =>
    by_cases reads : Reads keyValueSeparator spec ht word
    · obtain ⟨variant, read⟩ := readWords_reads no_positional reads
      rw [cons_append, read, read]
      exact ih fun all => stops ((readsAll_cons variant).mpr ⟨reads, all⟩)
    · rw [cons_append, readWords_stops no_positional reads,
        readWords_stops no_positional reads before]

end Prefix

section Split

variable {attrSeparator keyValueSeparator : Char} {spec : List NMVariantAttributeSpec}
  {text word string : List Char} {words : List (List Char)}

/-- What holds of no text, and goes on to hold when an attribute goes on, holds of attributes. -/
theorem splitAttributes_induction {motive : List Char → Prop} (empty : motive [])
    (escape : ∀ word escaped, motive word → motive (word ++ ['\\', escaped]))
    (plain : ∀ word c, c ≠ '\\' → c ≠ attrSeparator → motive word → motive (word ++ [c]))
    (complete : Complete text = true) (start : motive word) :
    ∀ next ∈ splitAttributes attrSeparator text word, motive next := by
  fun_induction splitAttributes attrSeparator text word with
  | case1 word =>
    intro next mem
    obtain rfl := mem_singleton.mp mem
    exact start
  | case2 => simp [Complete] at complete
  | case3 word escaped rest ih =>
    exact ih (by simpa [Complete] using complete) (escape word escaped start)
  | case4 rest word no_backslash ih =>
    rw [complete_plain no_backslash] at complete
    intro next mem
    rcases mem_cons.mp mem with rfl | mem
    · exact start
    · exact ih complete empty next mem
  | case5 c rest word no_backslash different ih =>
    rw [complete_plain no_backslash] at complete
    exact ih complete (plain word c no_backslash different start)

/-- The text does not end within an escape sequence, and has no separator. -/
def Whole (attrSeparator : Char) (word : List Char) : Prop :=
  Complete word = true ∧ ∀ rest start, splitAttributes attrSeparator (word ++ rest) start =
    splitAttributes attrSeparator rest (start ++ word)

theorem splitAttributes_whole (complete : Complete text = true) :
    ∀ word ∈ splitAttributes attrSeparator text [], Whole attrSeparator word := by
  refine splitAttributes_induction ⟨rfl, by simp⟩ ?_ ?_ complete ⟨rfl, by simp⟩
  · rintro word escaped ⟨complete, passes⟩
    refine ⟨complete_append complete _, fun rest start => ?_⟩
    rw [append_assoc, passes, cons_append, cons_append, splitAttributes,
      if_pos rfl, append_assoc, nil_append]
  · rintro word c no_backslash different ⟨complete, passes⟩
    refine ⟨?_, fun rest start => ?_⟩
    · rw [complete_append complete, complete_plain no_backslash]
      rfl
    · rw [append_assoc, passes, singleton_append, splitAttributes.eq_def]
      dsimp only
      rw [if_neg no_backslash, if_neg different, append_assoc]

theorem splitAttributes_intercalate (nonempty : words ≠ [])
    (short : attrSeparator = '\\' → words.length ≤ 1)
    (whole : ∀ word ∈ words, Whole attrSeparator word) :
    splitAttributes attrSeparator (List.intercalate [attrSeparator] words) [] = words ∧
      Complete (List.intercalate [attrSeparator] words) = true := by
  induction words with
  | nil => exact absurd rfl nonempty
  | cons word words ih =>
    obtain ⟨⟨complete, passes⟩, whole⟩ := forall_mem_cons.mp whole
    cases words with
    | nil =>
      have alone := passes [] []
      rw [append_nil, nil_append, splitAttributes] at alone
      exact ⟨by simpa using alone, by simpa using complete⟩
    | cons next words =>
      have no_backslash : attrSeparator ≠ '\\' := fun same => by simpa using short same
      obtain ⟨split, complete_rest⟩ :=
        ih (by simp) (fun same => absurd same no_backslash) whole
      rw [intercalate_cons_cons, append_assoc, singleton_append]
      refine ⟨?_, ?_⟩
      · rw [passes, splitAttributes.eq_def]
        dsimp only
        rw [if_neg no_backslash, if_pos rfl, split, nil_append]
      · rw [complete_append complete, complete_plain no_backslash]
        exact complete_rest

theorem attributeTexts_intercalate (short : attrSeparator = '\\' → words.length ≤ 1)
    (nonempty : ∀ word ∈ words, word ≠ []) (whole : ∀ word ∈ words, Whole attrSeparator word) :
    attributeTexts attrSeparator (List.intercalate [attrSeparator] words) = words ∧
      Complete (List.intercalate [attrSeparator] words) = true := by
  by_cases empty : words = []
  · rw [empty]
    exact ⟨rfl, rfl⟩
  obtain ⟨split, complete⟩ := splitAttributes_intercalate empty short whole
  refine ⟨?_, complete⟩
  rw [attributeTexts, split]
  exact filter_eq_self.mpr fun word mem => by simpa using nonempty word mem

theorem splitAttributes_backslash (text word : List Char) :
    (splitAttributes '\\' text word).length = 1 := by
  fun_induction splitAttributes '\\' text word with
  | case1 => rfl
  | case2 => rfl
  | case3 word escaped rest ih => exact ih
  | case4 rest word no_backslash ih => exact absurd rfl no_backslash
  | case5 c rest word no_backslash different ih => exact ih

theorem attributeTexts_withoutUnknown (attrSeparator keyValueSeparator : Char)
    (spec : List NMVariantAttributeSpec) (complete : Complete string = true) :
    attributeTexts attrSeparator (withoutUnknown attrSeparator keyValueSeparator spec string) =
        (attributeTexts attrSeparator string).filter (isKnown keyValueSeparator spec) ∧
      Complete (withoutUnknown attrSeparator keyValueSeparator spec string) = true := by
  have kept : ∀ word ∈ (attributeTexts attrSeparator string).filter
      (isKnown keyValueSeparator spec), word ∈ attributeTexts attrSeparator string :=
    fun word mem => mem_of_mem_filter mem
  refine attributeTexts_intercalate ?_ ?_ ?_
  · rintro rfl
    calc ((attributeTexts '\\' string).filter (isKnown keyValueSeparator spec)).length
        ≤ (attributeTexts '\\' string).length := length_filter_le _ _
      _ ≤ (splitAttributes '\\' string []).length := length_filter_le _ _
      _ ≤ 1 := (splitAttributes_backslash string []).le
  · intro word mem
    simpa using of_mem_filter (kept word mem)
  · intro word mem
    exact splitAttributes_whole complete word (mem_of_mem_filter (kept word mem))

theorem parseVariantAttributes_eq_readWords (no_positional : ∀ s ∈ spec, s.noValue = false)
    (well_formed : WellFormed attrSeparator keyValueSeparator string) :
    parseVariantAttributes string attrSeparator keyValueSeparator true spec =
      readWords keyValueSeparator spec (attributeTexts attrSeparator string) [] :=
  parseLoop_eq_readWords no_positional well_formed.complete rfl well_formed.separated []

end Split

section Loss

variable {keyValueSeparator : Char} {spec : List NMVariantAttributeSpec}
  {words : List (List Char)} {word : List Char} {ht : Attributes}

theorem find?_eq_none_iff :
    (spec.find? fun s => s.name = attributeName keyValueSeparator word) = none ↔
      isKnown keyValueSeparator spec word = false := by
  simp [isKnown]

section

variable (no_positional : ∀ s ∈ spec, s.noValue = false)

include no_positional

/-- The reader inserts nothing exactly if the first name is used already. -/
theorem readWords_eq_self_iff (known : isKnown keyValueSeparator spec word = true) :
    readWords keyValueSeparator spec (word :: words) ht = .ok ht ↔
      attributeName keyValueSeparator word ∈ ht.map Prod.fst := by
  rw [readWords, findSpec_eq no_positional]
  constructor
  · intro read
    by_contra unused
    rw [if_neg unused] at read
    cases found : spec.find? fun s => s.name = attributeName keyValueSeparator word with
    | none =>
      rw [find?_eq_none_iff, known] at found
      cases found
    | some s =>
      rw [found] at read
      dsimp only [insertAttribute] at read
      cases value : parseValue s (attributeValue keyValueSeparator word) with
      | error error => simp [value] at read
      | ok variant =>
        rw [value] at read
        simpa using (readWords_extends read).length_le
  · intro used
    rw [if_pos used]

theorem readWords_dropWhile :
    readWords keyValueSeparator spec (words.dropWhile (isKnown keyValueSeparator spec)) ht =
      .ok ht := by
  have unknown := head?_dropWhile_not (isKnown keyValueSeparator spec) words
  cases remaining : words.dropWhile (isKnown keyValueSeparator spec) with
  | nil => rfl
  | cons word others =>
    rw [remaining] at unknown
    rw [readWords, findSpec_eq no_positional, find?_eq_none_iff.mpr unknown, ite_self]

theorem readWords_eq_filter_iff :
    readWords keyValueSeparator spec words [] =
        readWords keyValueSeparator spec (words.filter (isKnown keyValueSeparator spec)) [] ↔
      NothingLost keyValueSeparator spec words := by
  have stopped : ∀ ht, readWords keyValueSeparator spec
      (words.dropWhile (isKnown keyValueSeparator spec)) ht = .ok ht :=
    fun ht => readWords_dropWhile no_positional
  have all_known : ∀ word ∈ words.takeWhile (isKnown keyValueSeparator spec),
      isKnown keyValueSeparator spec word = true := fun word mem => mem_takeWhile_imp mem
  have split : words.takeWhile (isKnown keyValueSeparator spec) ++
      words.dropWhile (isKnown keyValueSeparator spec) = words := takeWhile_append_dropWhile
  unfold NothingLost
  dsimp only
  generalize words.takeWhile (isKnown keyValueSeparator spec) = before at *
  generalize words.dropWhile (isKnown keyValueSeparator spec) = others at *
  rw [← split, filter_append, filter_eq_self.mpr all_known]
  by_cases reads : ReadsAll keyValueSeparator spec [] before
  · obtain ⟨added, names, through⟩ := readWords_through no_positional reads
    have readable : ∀ word ∈ before, readsValue keyValueSeparator spec word = true :=
      fun word mem => (reads.1 word mem).1
    rw [through, through, stopped, forall_prop_of_true readable, forall_prop_of_true reads.2]
    cases behind : others.filter (isKnown keyValueSeparator spec) with
    | nil => simp [readWords]
    | cons word behind_words =>
      have known : isKnown keyValueSeparator spec word = true :=
        of_mem_filter (behind ▸ mem_cons_self)
      rw [nil_append, eq_comm, readWords_eq_self_iff no_positional known, names]
      simp
  · rw [readWords_within no_positional reads, readWords_within no_positional reads]
    refine iff_of_true rfl fun readable nodup => absurd ⟨fun word mem => ?_, nodup⟩ reads
    exact ⟨readable word mem, by simp⟩

end

end Loss

/-- A reader that ignores unknown attributes makes the same of a text as of the text without them
exactly if nothing is lost behind the first of them. -/
theorem parseVariantAttributes_ignoreUnknown_iff (attrSeparator keyValueSeparator : Char)
    (spec : List NMVariantAttributeSpec) (string : List Char)
    (no_positional : ∀ s ∈ spec, s.noValue = false)
    (well_formed : WellFormed attrSeparator keyValueSeparator string) :
    parseVariantAttributes string attrSeparator keyValueSeparator true spec =
        parseVariantAttributes (withoutUnknown attrSeparator keyValueSeparator spec string)
          attrSeparator keyValueSeparator true spec ↔
      NothingLost keyValueSeparator spec (attributeTexts attrSeparator string) := by
  obtain ⟨texts, complete⟩ :=
    attributeTexts_withoutUnknown attrSeparator keyValueSeparator spec well_formed.complete
  have deleted : WellFormed attrSeparator keyValueSeparator
      (withoutUnknown attrSeparator keyValueSeparator spec string) := by
    refine ⟨complete, fun word mem => ?_⟩
    rw [texts] at mem
    exact well_formed.separated word (mem_of_mem_filter mem)
  rw [parseVariantAttributes_eq_readWords no_positional well_formed,
    parseVariantAttributes_eq_readWords no_positional deleted, texts]
  exact readWords_eq_filter_iff no_positional

def textSpec : List NMVariantAttributeSpec :=
  [⟨['s', 'r', 'c'], .string, false, false⟩, ⟨['d', 's', 't'], .string, false, false⟩]

/-- Nothing is lost if the attributes of unknown name are the last ones. -/
theorem parseVariantAttributes_ignoreUnknown_last :
    parseVariantAttributes "src=a dst=b x=c y=d".toList ' ' '=' true textSpec =
      parseVariantAttributes (withoutUnknown ' ' '=' textSpec "src=a dst=b x=c y=d".toList)
        ' ' '=' true textSpec := by
  refine (parseVariantAttributes_ignoreUnknown_iff ' ' '=' textSpec _ (by decide)
    ⟨by decide +kernel, by decide +kernel⟩).mpr ?_
  unfold NothingLost
  decide +kernel

/-- An attribute behind one of unknown name is lost. -/
theorem parseVariantAttributes_ignoreUnknown_fails :
    (∀ s ∈ textSpec, s.noValue = false) ∧ WellFormed ' ' '=' "src=a x=c dst=b".toList ∧
      withoutUnknown ' ' '=' textSpec "src=a x=c dst=b".toList = "src=a dst=b".toList ∧
      parseVariantAttributes "src=a x=c dst=b".toList ' ' '=' true textSpec =
        .ok [("src".toList, .string ['a'])] ∧
      parseVariantAttributes "src=a dst=b".toList ' ' '=' true textSpec =
        .ok [("src".toList, .string ['a']), ("dst".toList, .string ['b'])] :=
  ⟨by decide, ⟨by decide +kernel, by decide +kernel⟩, by decide +kernel, by decide +kernel,
    by decide +kernel⟩

end NetworkManager.VariantAttributes
