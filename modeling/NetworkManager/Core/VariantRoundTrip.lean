import NetworkManager.Core.VariantAttributes
import Mathlib.Data.List.Nodup

/-!
# Reading attributes back

What the reader makes of the text of a writer whose separators differ.  A name that holds the
key-value separator is cut at it, although the writer escapes it.
-/

namespace NetworkManager.VariantAttributes

open Ascii List

def entryText (attrSeparator keyValueSeparator : Char) (name value : List Char) : List Char :=
  attributeEscape attrSeparator keyValueSeparator name ++ keyValueSeparator ::
    attributeEscape attrSeparator keyValueSeparator value

/-- The name and the value that the reader takes from the text of an attribute: the first
key-value separator in the name is taken for the end of the name. -/
def readBack (keyValueSeparator : Char) : List Char → List Char → List Char × List Char
  | [], value => ([], value)
  | c :: name, value =>
    if c = keyValueSeparator then ([c], name ++ keyValueSeparator :: value)
    else (c :: (readBack keyValueSeparator name value).1, (readBack keyValueSeparator name value).2)

section Entry

variable {attrSeparator keyValueSeparator : Char}

theorem entryText_ne_nil (name value : List Char) :
    entryText attrSeparator keyValueSeparator name value ≠ [] := by
  simp [entryText]

theorem attributeUnescape_entryText (no_backslash : keyValueSeparator ≠ '\\')
    (following : Option Char) (name value : List Char) :
    attributeUnescape following (entryText attrSeparator keyValueSeparator name value) =
      name ++ keyValueSeparator :: value := by
  rw [entryText, attributeUnescape_escape_append, attributeUnescape_plain no_backslash,
    attributeUnescape_escape]

variable (attrSeparator) in
theorem findSeparator_entryText (no_backslash : keyValueSeparator ≠ '\\')
    (name value more : List Char) :
    ∃ before after,
      findSeparator keyValueSeparator
          (entryText attrSeparator keyValueSeparator name value ++ more) =
        (before, some (after ++ more)) ∧
      attributeUnescape (some keyValueSeparator) before =
        (readBack keyValueSeparator name value).1 ∧
      ∀ following, attributeUnescape following after =
        (readBack keyValueSeparator name value).2 := by
  induction name with
  | nil =>
    refine ⟨[], attributeEscape attrSeparator keyValueSeparator value, ?_, rfl, ?_⟩
    · rw [entryText, attributeEscape_nil, nil_append, cons_append, findSeparator.eq_def]
      dsimp only
      rw [if_neg no_backslash, if_pos rfl]
    · intro following
      exact attributeUnescape_escape _ _ following value
  | cons c name ih =>
    obtain ⟨before, after, found, before_eq, after_eq⟩ := ih
    by_cases is_separator : c = keyValueSeparator
    · -- The escaped separator ends the name, and the rest of the name goes to the value.
      refine ⟨['\\'], entryText attrSeparator keyValueSeparator name value, ?_, ?_, ?_⟩
      · rw [entryText, attributeEscape, if_pos (Or.inr (Or.inl is_separator)), cons_append,
          cons_append, cons_append, cons_append, findSeparator, if_pos rfl, if_pos is_separator]
        rfl
      · rw [readBack, if_pos is_separator, is_separator]
        rfl
      · intro following
        rw [readBack, if_pos is_separator, attributeUnescape_entryText no_backslash]
    · rw [readBack, if_neg is_separator]
      by_cases special : c = attrSeparator ∨ c = keyValueSeparator ∨ c = '\\'
      · refine ⟨'\\' :: c :: before, after, ?_, ?_, after_eq⟩
        · rw [entryText] at found
          rw [entryText, attributeEscape, if_pos special, cons_append, cons_append, cons_append,
            cons_append, findSeparator, if_pos rfl, if_neg is_separator, found]
        · rw [attributeUnescape, if_pos rfl, before_eq]
      · have plain : c ≠ '\\' := fun same => special (Or.inr (Or.inr same))
        refine ⟨c :: before, after, ?_, ?_, after_eq⟩
        · rw [entryText] at found
          rw [entryText, attributeEscape, if_neg special, cons_append, cons_append,
            findSeparator_plain plain is_separator, found]
        · rw [attributeUnescape_plain plain, before_eq]

theorem readBack_of_not_mem {name : List Char} (absent : keyValueSeparator ∉ name)
    (value : List Char) : readBack keyValueSeparator name value = (name, value) := by
  induction name with
  | nil => rfl
  | cons c name ih =>
    have different : c ≠ keyValueSeparator := fun same => absent (same ▸ mem_cons_self)
    rw [readBack, if_neg different, ih fun mem => absent (mem_cons_of_mem _ mem)]

theorem readBack_append_separator {stem : List Char} (absent : keyValueSeparator ∉ stem)
    (others value : List Char) :
    readBack keyValueSeparator (stem ++ keyValueSeparator :: others) value =
      (stem ++ [keyValueSeparator], others ++ keyValueSeparator :: value) := by
  induction stem with
  | nil => rw [nil_append, readBack, if_pos rfl, nil_append]
  | cons c stem ih =>
    have different : c ≠ keyValueSeparator := fun same => absent (same ▸ mem_cons_self)
    rw [cons_append, readBack, if_neg different,
      ih fun mem => absent (mem_cons_of_mem _ mem), cons_append]

theorem readBack_readBack (name value other : List Char) :
    (readBack keyValueSeparator (readBack keyValueSeparator name value).1 other).1 =
      (readBack keyValueSeparator name value).1 := by
  induction name with
  | nil => rfl
  | cons c name ih =>
    rw [readBack]
    split
    · rename_i is_separator
      rw [readBack, if_pos is_separator]
    · rename_i different
      rw [readBack, if_neg different, ih]

end Entry

/-- What the reader makes of written attributes, one after the other. -/
def readEntries (keyValueSeparator : Char) (ignoreUnknown : Bool)
    (spec : List NMVariantAttributeSpec) :
    List (List Char × List Char) → Attributes → Except ParseError Attributes
  | [], ht => .ok ht
  | (name, value) :: entries, ht =>
    match findSpec spec ht (readBack keyValueSeparator name value).1 with
    | none =>
      if ignoreUnknown then .ok ht
      else .error (.unknownAttribute (readBack keyValueSeparator name value).1)
    | some s =>
      match insertAttribute ht s (readBack keyValueSeparator name value).2 with
      | .error error => .error error
      | .ok ht => readEntries keyValueSeparator ignoreUnknown spec entries ht

def valueText (variant : GVariant) : List Char := (formatValue variant).getD []

def entryTexts (values : Attributes) : List (List Char × List Char) :=
  values.map fun entry => (entry.1, valueText entry.2)

theorem formatValue_eq {variant : GVariant} (supported : variant ≠ .other) :
    formatValue variant = some (valueText variant) := by
  cases variant with
  | other => exact absurd rfl supported
  | _ => rfl

section Loop

variable {attrSeparator keyValueSeparator : Char} {ignoreUnknown : Bool}
  {spec : List NMVariantAttributeSpec}

theorem formatFull_cons (sep : List Char) {entry : List Char × GVariant}
    (supported : entry.2 ≠ .other) (values : Attributes) :
    formatVariantAttributesFull attrSeparator keyValueSeparator sep (entry :: values) =
      sep ++ (entryText attrSeparator keyValueSeparator entry.1 (valueText entry.2) ++
        formatVariantAttributesFull attrSeparator keyValueSeparator [attrSeparator] values) := by
  rw [formatVariantAttributesFull, formatValue_eq supported]
  simp [entryText]

theorem findSpec_mem {ht : Attributes} {name : List Char} {s : NMVariantAttributeSpec}
    (found : findSpec spec ht name = some s) : s ∈ spec :=
  List.mem_of_find?_eq_some found

theorem attributeEnd_entryText (no_backslash : keyValueSeparator ≠ '\\')
    (no_positional : ∀ s ∈ spec, s.noValue = false) (ht : Attributes)
    (name value rest : List Char) :
    attributeEnd keyValueSeparator ignoreUnknown spec ht
        (entryText attrSeparator keyValueSeparator name value) rest =
      match findSpec spec ht (readBack keyValueSeparator name value).1 with
      | none =>
        if ignoreUnknown then .ok .next
        else .error (.unknownAttribute (readBack keyValueSeparator name value).1)
      | some s =>
        (insertAttribute ht s (readBack keyValueSeparator name value).2).map .inserted := by
  obtain ⟨before, after, found, before_eq, after_eq⟩ :=
    findSeparator_entryText attrSeparator no_backslash name value []
  rw [append_nil, append_nil] at found
  unfold attributeEnd
  rw [found]
  simp only [Option.isSome_some, if_true, before_eq, after_eq]
  cases lookup : findSpec spec ht (readBack keyValueSeparator name value).1 with
  | none => rfl
  | some s =>
    have positional := no_positional s (findSpec_mem lookup)
    simp only [positional, Bool.false_eq_true, if_false]

theorem attributeEnd_unknown (no_backslash : keyValueSeparator ≠ '\\') {ht : Attributes}
    {name value : List Char}
    (unknown : findSpec spec ht (readBack keyValueSeparator name value).1 = none)
    (more rest : List Char) :
    attributeEnd keyValueSeparator true spec ht
        (entryText attrSeparator keyValueSeparator name value ++ more) rest = .ok .next := by
  obtain ⟨before, after, found, before_eq, -⟩ :=
    findSeparator_entryText attrSeparator no_backslash name value more
  unfold attributeEnd
  rw [found]
  simp only [Option.isSome_some, if_true, before_eq, unknown]

variable (no_backslash : keyValueSeparator ≠ '\\') (attr_no_backslash : attrSeparator ≠ '\\')
  (different : attrSeparator ≠ keyValueSeparator)

include no_backslash different in
theorem parseLoop_entryText (name value rest : List Char) (ht : Attributes) (word : List Char) :
    parseLoop attrSeparator keyValueSeparator ignoreUnknown spec
        (entryText attrSeparator keyValueSeparator name value ++ rest) ht word =
      parseLoop attrSeparator keyValueSeparator ignoreUnknown spec rest ht
        (word ++ entryText attrSeparator keyValueSeparator name value) := by
  rw [entryText, append_assoc, parseLoop_escape, cons_append,
    parseLoop_plain no_backslash different.symm, parseLoop_escape]
  simp

include attr_no_backslash in
theorem parseLoop_separator {word : List Char} (nonempty : word ≠ []) (rest : List Char)
    (ht : Attributes) :
    parseLoop attrSeparator keyValueSeparator ignoreUnknown spec (attrSeparator :: rest) ht word =
      match attributeEnd keyValueSeparator ignoreUnknown spec ht word (attrSeparator :: rest) with
      | .error error => .error error
      | .ok .next =>
        parseLoop attrSeparator keyValueSeparator ignoreUnknown spec rest ht
          (word ++ [attrSeparator])
      | .ok (.inserted ht) =>
        parseLoop attrSeparator keyValueSeparator ignoreUnknown spec rest ht []
      | .ok (.consumed ht) => .ok ht := by
  rw [parseLoop.eq_def]
  dsimp only
  rw [if_neg attr_no_backslash, if_pos rfl]
  exact if_neg nonempty

include no_backslash attr_no_backslash different in
theorem parseLoop_unknown {ht : Attributes} {name value : List Char}
    (unknown : findSpec spec ht (readBack keyValueSeparator name value).1 = none)
    {values : Attributes} (supported : ∀ entry ∈ values, entry.2 ≠ .other) (more : List Char) :
    parseLoop attrSeparator keyValueSeparator true spec
        (formatVariantAttributesFull attrSeparator keyValueSeparator [attrSeparator] values) ht
        (entryText attrSeparator keyValueSeparator name value ++ more) = .ok ht := by
  have nonempty : ∀ more, entryText attrSeparator keyValueSeparator name value ++ more ≠ [] := by
    intro more
    simp [entryText_ne_nil]
  induction values generalizing more with
  | nil =>
    rw [formatVariantAttributesFull, parseLoop, if_neg (nonempty more),
      attributeEnd_unknown no_backslash unknown]
  | cons entry values ih =>
    obtain ⟨entry_supported, supported⟩ := forall_mem_cons.mp supported
    rw [formatFull_cons _ entry_supported, singleton_append,
      parseLoop_separator attr_no_backslash (nonempty more),
      attributeEnd_unknown no_backslash unknown]
    dsimp only
    rw [parseLoop_entryText no_backslash different, append_assoc, append_assoc]
    exact ih supported _

include no_backslash attr_no_backslash different in
theorem parseLoop_format (no_positional : ∀ s ∈ spec, s.noValue = false)
    {entry : List Char × GVariant} {values : Attributes}
    (supported : ∀ other ∈ entry :: values, other.2 ≠ .other) (ht : Attributes) :
    parseLoop attrSeparator keyValueSeparator ignoreUnknown spec
        (formatVariantAttributesFull attrSeparator keyValueSeparator [] (entry :: values)) ht [] =
      readEntries keyValueSeparator ignoreUnknown spec (entryTexts (entry :: values)) ht := by
  induction values generalizing entry ht with
  | nil =>
    rw [formatFull_cons _ (supported entry mem_cons_self), nil_append,
      parseLoop_entryText no_backslash different, nil_append, formatVariantAttributesFull,
      parseLoop, if_neg (entryText_ne_nil _ _),
      attributeEnd_entryText no_backslash no_positional, entryTexts, map_cons, readEntries]
    cases findSpec spec ht (readBack keyValueSeparator entry.1 (valueText entry.2)).1 with
    | none => cases ignoreUnknown <;> rfl
    | some s =>
      dsimp only
      cases insertAttribute ht s (readBack keyValueSeparator entry.1 (valueText entry.2)).2 with
      | error error => rfl
      | ok ht => rfl
  | cons next values ih =>
    obtain ⟨entry_supported, supported⟩ := forall_mem_cons.mp supported
    have next_supported := supported next mem_cons_self
    have later : formatVariantAttributesFull attrSeparator keyValueSeparator [attrSeparator]
        (next :: values) = attrSeparator ::
          formatVariantAttributesFull attrSeparator keyValueSeparator [] (next :: values) := by
      rw [formatFull_cons _ next_supported, formatFull_cons _ next_supported]
      rfl
    rw [formatFull_cons _ entry_supported, nil_append,
      parseLoop_entryText no_backslash different, nil_append]
    rw [entryTexts, map_cons, readEntries]
    cases found : findSpec spec ht (readBack keyValueSeparator entry.1 (valueText entry.2)).1 with
    | none =>
      cases ignoreUnknown with
      | true =>
        have hidden := parseLoop_unknown no_backslash attr_no_backslash different found
          supported []
        rw [append_nil] at hidden
        exact hidden
      | false =>
        rw [later, parseLoop_separator attr_no_backslash (entryText_ne_nil _ _),
          attributeEnd_entryText no_backslash no_positional, found]
        rfl
    | some s =>
      rw [later, parseLoop_separator attr_no_backslash (entryText_ne_nil _ _),
        attributeEnd_entryText no_backslash no_positional, found]
      dsimp only
      cases insertAttribute ht s (readBack keyValueSeparator entry.1 (valueText entry.2)).2 with
      | error error => rfl
      | ok inserted => exact ih supported inserted

end Loop

/-- A text in front of which the key-value separator was left still reads as the value. -/
def ReadsWith (keyValueSeparator : Char) (variant : GVariant) : Prop :=
  parseValue ⟨[], variant.type, false, false⟩ (keyValueSeparator :: valueText variant) = .ok variant

/-- The key-value separator does not spoil an attribute: it is not in the name, or only at its end
and the value can be read with it. -/
def Unspoiled (keyValueSeparator : Char) (entry : List Char × GVariant) : Prop :=
  keyValueSeparator ∉ entry.1 ∨
    ∃ stem, entry.1 = stem ++ [keyValueSeparator] ∧ keyValueSeparator ∉ stem ∧
      ReadsWith keyValueSeparator entry.2

/-- A table that assigns values of the specified types to specified names. -/
structure Assigns (spec : List NMVariantAttributeSpec) (table : Attributes) : Prop where
  distinct : (spec.map NMVariantAttributeSpec.name).Nodup
  no_positional : ∀ s ∈ spec, s.noValue = false
  nodup : (table.map Prod.fst).Nodup
  /-- The values have the types of the specification, and these are supported. -/
  typed : ∀ entry ∈ table, entry.2 ≠ .other ∧ ∃ s ∈ spec, s.name = entry.1 ∧ s.type = entry.2.type

theorem parseValue_ok_iff {s t : NMVariantAttributeSpec} (same : s.type = t.type)
    (left : s.noValue = false) (right : t.noValue = false) (value : List Char)
    (variant : GVariant) :
    parseValue s value = .ok variant ↔ parseValue t value = .ok variant := by
  unfold parseValue
  rw [same, left, right]
  cases t.type with
  | uint32 => dsimp only; split <;> simp
  | byte => dsimp only; split <;> simp
  | boolean =>
    simp only [Bool.false_eq_true, if_false]
    cases strToBool value <;> simp
  | string => rfl
  | bytestring => rfl
  | other => simp

theorem parseValue_valueText {s : NMVariantAttributeSpec} {variant : GVariant}
    (positional : s.noValue = false) (typed : s.type = variant.type)
    (supported : variant ≠ .other) : parseValue s (valueText variant) = .ok variant := by
  unfold parseValue
  rw [typed, positional]
  cases variant with
  | uint32 value =>
    have bound := value.toNat_lt
    have read : strToInt64 (valueText (.uint32 value)) 10 0 (2 ^ 32 - 1) (-1) = value.toNat :=
      strToInt64_decimal (-1) (by omega) (by omega) (by omega)
    have nonneg : (value.toNat : Int) ≠ -1 := by omega
    dsimp only [GVariant.type]
    rw [read, if_neg nonneg, Int.toNat_natCast, UInt32.ofNat_toNat]
  | byte value =>
    have bound := value.toNat_lt
    have read : strToInt64 (valueText (.byte value)) 10 0 (2 ^ 8 - 1) (-1) = value.toNat :=
      strToInt64_decimal (-1) (by omega) (by omega) (by omega)
    have nonneg : (value.toNat : Int) ≠ -1 := by omega
    dsimp only [GVariant.type]
    rw [read, if_neg nonneg, Int.toNat_natCast, UInt8.ofNat_toNat]
  | boolean value => cases value <;> rfl
  | string value => rfl
  | bytestring value => rfl
  | other => exact absurd rfl supported

theorem unspoiled_iff {keyValueSeparator : Char} {entry : List Char × GVariant}
    {s : NMVariantAttributeSpec} (positional : s.noValue = false)
    (typed : s.type = entry.2.type) (supported : entry.2 ≠ .other) :
    Unspoiled keyValueSeparator entry ↔
      (readBack keyValueSeparator entry.1 (valueText entry.2)).1 = entry.1 ∧
        parseValue s (readBack keyValueSeparator entry.1 (valueText entry.2)).2 = .ok entry.2 := by
  have reads_iff : ReadsWith keyValueSeparator entry.2 ↔
      parseValue s (keyValueSeparator :: valueText entry.2) = .ok entry.2 :=
    parseValue_ok_iff typed.symm rfl positional _ _
  constructor
  · rintro (absent | ⟨stem, name_eq, absent, reads⟩)
    · rw [readBack_of_not_mem absent]
      exact ⟨rfl, parseValue_valueText positional typed supported⟩
    · have cut := readBack_append_separator absent [] (valueText entry.2)
      rw [← name_eq] at cut
      rw [cut]
      exact ⟨rfl, reads_iff.mp reads⟩
  · rintro ⟨uncut, read⟩
    by_cases mem : keyValueSeparator ∈ entry.1
    · obtain ⟨stem, others, name_eq, absent⟩ := eq_append_cons_of_mem mem
      rw [name_eq, readBack_append_separator absent] at uncut read
      obtain rfl : others = [] := by simpa using uncut
      exact Or.inr ⟨stem, name_eq, absent, reads_iff.mpr read⟩
    · exact Or.inl mem

section Table

variable {keyValueSeparator : Char} {ignoreUnknown : Bool} {spec : List NMVariantAttributeSpec}
  {table : Attributes}

theorem findSpec_name (no_positional : ∀ s ∈ spec, s.noValue = false) {ht : Attributes}
    {name : List Char} {s : NMVariantAttributeSpec} (found : findSpec spec ht name = some s) :
    s.name = name := by
  have positional := no_positional s (findSpec_mem found)
  have fits := find?_some found
  simp only [positional, Bool.false_and, Bool.or_false, Bool.and_eq_true, decide_eq_true_eq] at fits
  exact fits.2.symm

theorem findSpec_eq_some (assigns : Assigns spec table) {s : NMVariantAttributeSpec}
    (mem : s ∈ spec) {ht : Attributes} (unused : ∀ entry ∈ ht, entry.1 ≠ s.name) :
    findSpec spec ht s.name = some s := by
  have not_contained : ht.contains s.name = false := by
    simpa [Attributes.contains] using unused
  cases found : findSpec spec ht s.name with
  | none =>
    have none_fits := find?_eq_none.mp found s mem
    simp [not_contained] at none_fits
  | some other =>
    have same := findSpec_name assigns.no_positional found
    rw [inj_on_of_nodup_map assigns.distinct (findSpec_mem found) mem same]

theorem readEntries_origin (no_positional : ∀ s ∈ spec, s.noValue = false)
    {entries : List (List Char × List Char)} {ht parsed : Attributes}
    (read : readEntries keyValueSeparator ignoreUnknown spec entries ht = .ok parsed)
    {entry : List Char × GVariant} (mem : entry ∈ parsed) :
    entry ∈ ht ∨ ∃ written ∈ entries, ∃ s ∈ spec, s.name = entry.1 ∧
      (readBack keyValueSeparator written.1 written.2).1 = entry.1 ∧
      parseValue s (readBack keyValueSeparator written.1 written.2).2 = .ok entry.2 := by
  induction entries generalizing ht with
  | nil =>
    obtain rfl : ht = parsed := by simpa [readEntries] using read
    exact Or.inl mem
  | cons written entries ih =>
    rw [readEntries] at read
    cases found : findSpec spec ht (readBack keyValueSeparator written.1 written.2).1 with
    | none =>
      rw [found] at read
      cases ignoreUnknown with
      | false => cases read
      | true =>
        obtain rfl : ht = parsed := by simpa using read
        exact Or.inl mem
    | some s =>
      rw [found] at read
      dsimp only [insertAttribute] at read
      cases value : parseValue s (readBack keyValueSeparator written.1 written.2).2 with
      | error error =>
        rw [value] at read
        cases read
      | ok variant =>
        rw [value] at read
        rcases ih read with earlier | ⟨other, other_mem, later⟩
        · rcases mem_append.mp earlier with earlier | inserted
          · exact Or.inl earlier
          · obtain rfl : entry = (s.name, variant) := by simpa using inserted
            exact Or.inr ⟨written, mem_cons_self, s, findSpec_mem found, rfl,
              (findSpec_name no_positional found).symm, value⟩
        · exact Or.inr ⟨other, mem_cons_of_mem _ other_mem, later⟩

theorem readEntries_unspoiled (assigns : Assigns spec table) {values ht : Attributes}
    (values_sub : values ⊆ table) (unspoiled : ∀ entry ∈ values, Unspoiled keyValueSeparator entry)
    (nodup : ((ht ++ values).map Prod.fst).Nodup) :
    readEntries keyValueSeparator ignoreUnknown spec (entryTexts values) ht =
      .ok (ht ++ values) := by
  induction values generalizing ht with
  | nil => simp [entryTexts, readEntries]
  | cons entry values ih =>
    obtain ⟨supported, s, s_mem, name_eq, typed⟩ :=
      assigns.typed entry (values_sub mem_cons_self)
    obtain ⟨uncut, read⟩ := (unspoiled_iff (assigns.no_positional s s_mem) typed supported).mp
      (unspoiled entry mem_cons_self)
    obtain ⟨name, variant⟩ := entry
    dsimp only at name_eq uncut read
    have unused : ∀ other ∈ ht, other.1 ≠ s.name := by
      intro other mem same
      rw [map_append, map_cons] at nodup
      have apart := (nodup_append.mp nodup).2.2 other.1 (mem_map_of_mem mem) name
        mem_cons_self
      exact apart (same.trans name_eq)
    have found := findSpec_eq_some assigns s_mem unused
    rw [name_eq] at found
    have inserted : insertAttribute ht s (readBack keyValueSeparator name (valueText variant)).2 =
        .ok (ht ++ [(name, variant)]) := by
      rw [insertAttribute, read, name_eq]
    have rest := @ih (ht ++ [(name, variant)])
      (fun other mem => values_sub (mem_cons_of_mem _ mem))
      (fun other mem => unspoiled other (mem_cons_of_mem _ mem)) (by simpa using nodup)
    rw [entryTexts, map_cons, readEntries, uncut, found]
    dsimp only
    rw [inserted]
    dsimp only
    rw [entryTexts] at rest
    rw [rest, append_assoc, singleton_append]

end Table

/-- The text of a table that is not empty is read back as the same table exactly if the key-value
separator spoils none of its attributes.  There is no text for an empty table. -/
theorem variantAttributes_roundTrip_iff (spec : List NMVariantAttributeSpec) (table : Attributes)
    (attrSeparator keyValueSeparator : Char) (ignoreUnknown : Bool)
    (assigns : Assigns spec table) (different : attrSeparator ≠ keyValueSeparator)
    (attr_no_backslash : attrSeparator ≠ '\\') (no_backslash : keyValueSeparator ≠ '\\') :
    (table = [] ∧ formatVariantAttributes table attrSeparator keyValueSeparator = none) ∨
      ∃ text, formatVariantAttributes table attrSeparator keyValueSeparator = some text ∧
        ((∃ parsed, parseVariantAttributes text attrSeparator keyValueSeparator ignoreUnknown spec =
            .ok parsed ∧ parsed.Perm table) ↔
          ∀ entry ∈ table, Unspoiled keyValueSeparator entry) := by
  by_cases empty : table = []
  · exact Or.inl ⟨empty, by simp [formatVariantAttributes, empty]⟩
  right
  refine ⟨_, by rw [formatVariantAttributes, if_neg empty], ?_⟩
  have sorted : (namedValuesFromStrDict table).Perm table := ListSort.sort_perm _ table
  generalize namedValuesFromStrDict table = values at sorted
  have supported : ∀ entry ∈ values, entry.2 ≠ .other :=
    fun entry mem => (assigns.typed entry (sorted.subset mem)).1
  have text_read : parseVariantAttributes
      (formatVariantAttributesFull attrSeparator keyValueSeparator [] values) attrSeparator
      keyValueSeparator ignoreUnknown spec =
      readEntries keyValueSeparator ignoreUnknown spec (entryTexts values) [] := by
    cases values with
    | nil => exact absurd sorted.symm.eq_nil empty
    | cons entry values =>
      exact parseLoop_format no_backslash attr_no_backslash different assigns.no_positional
        supported []
  rw [text_read]
  constructor
  · rintro ⟨parsed, read, same⟩
    have origin : ∀ entry ∈ table, ∃ written ∈ table, ∃ s ∈ spec, s.name = entry.1 ∧
        (readBack keyValueSeparator written.1 (valueText written.2)).1 = entry.1 ∧
        parseValue s (readBack keyValueSeparator written.1 (valueText written.2)).2 =
          .ok entry.2 := by
      intro entry mem
      rcases readEntries_origin assigns.no_positional read (same.symm.subset mem) with
        impossible | ⟨written, written_mem, found⟩
      · cases impossible
      · obtain ⟨value, value_mem, rfl⟩ := mem_map.mp written_mem
        exact ⟨value, sorted.subset value_mem, found⟩
    -- A name that was cut is not cut again, so that every name of the table is its own origin.
    have uncut : ∀ entry ∈ table, ∀ value,
        (readBack keyValueSeparator entry.1 value).1 = entry.1 := by
      intro entry mem value
      obtain ⟨written, -, s, -, -, cut, -⟩ := origin entry mem
      rw [← cut, readBack_readBack]
    intro entry mem
    obtain ⟨written, written_mem, s, s_mem, name_eq, cut, read_value⟩ := origin entry mem
    rw [uncut written written_mem] at cut
    obtain rfl := inj_on_of_nodup_map assigns.nodup written_mem mem cut
    obtain ⟨is_supported, t, t_mem, t_name, typed⟩ := assigns.typed written mem
    obtain rfl := inj_on_of_nodup_map assigns.distinct s_mem t_mem (name_eq.trans t_name.symm)
    exact (unspoiled_iff (assigns.no_positional s s_mem) typed is_supported).mpr
      ⟨uncut written mem _, read_value⟩
  · intro unspoiled
    refine ⟨values, ?_, sorted⟩
    have nodup : ((([] : Attributes) ++ values).map Prod.fst).Nodup :=
      ((sorted.map Prod.fst).nodup_iff).mpr assigns.nodup
    exact readEntries_unspoiled assigns sorted.subset
      (fun entry mem => unspoiled entry (sorted.subset mem)) nodup

/-- Two attributes, one with separators in its name and its value. -/
def exampleSpec : List NMVariantAttributeSpec :=
  [⟨"lock,mtu".toList, .string, false, false⟩, ⟨"window".toList, .uint32, false, false⟩]

def exampleTable : Attributes :=
  [("window".toList, .uint32 1500), ("lock,mtu".toList, .string "a=b\\,".toList)]

theorem exampleTable_assigns : Assigns exampleSpec exampleTable where
  distinct := by decide
  no_positional := by decide
  nodup := by decide
  typed := by
    intro entry mem
    rcases mem_cons.mp mem with rfl | mem
    · exact ⟨by decide, ⟨"window".toList, .uint32, false, false⟩, by decide, rfl, rfl⟩
    · obtain rfl := mem_singleton.mp mem
      exact ⟨by decide, ⟨"lock,mtu".toList, .string, false, false⟩, by decide, rfl, rfl⟩

/-- Separators in values and attribute separators in names are read back. -/
theorem variantAttributes_roundTrip_iff_example :
    ∃ text, formatVariantAttributes exampleTable ',' '=' = some text ∧
      ∃ parsed, parseVariantAttributes text ',' '=' false exampleSpec = .ok parsed ∧
        parsed.Perm exampleTable := by
  rcases variantAttributes_roundTrip_iff exampleSpec exampleTable ',' '=' false
    exampleTable_assigns (by decide) (by decide) (by decide) with ⟨empty, -⟩ | ⟨text, text_eq, iff⟩
  · exact absurd empty (by decide)
  · refine ⟨text, text_eq, iff.mpr ?_⟩
    intro entry mem
    rcases mem_cons.mp mem with rfl | mem
    · exact Or.inl (by decide)
    · obtain rfl := mem_singleton.mp mem
      exact Or.inl (by decide)

/-- A name with the key-value separator is written, but its text is refused. -/
theorem variantAttributes_roundTrip_fails :
    Assigns [⟨['a', '=', 'b'], .string, false, false⟩] [(['a', '=', 'b'], .string ['c'])] ∧
      formatVariantAttributes [(['a', '=', 'b'], .string ['c'])] ',' '=' =
        some ['a', '\\', '=', 'b', '=', 'c'] ∧
      parseVariantAttributes ['a', '\\', '=', 'b', '=', 'c'] ',' '=' false
        [⟨['a', '=', 'b'], .string, false, false⟩] = .error (.unknownAttribute ['a', '=']) := by
  refine ⟨⟨by decide, by decide, by decide, ?_⟩, by decide, by decide⟩
  intro entry mem
  obtain rfl := mem_singleton.mp mem
  exact ⟨by decide, ⟨['a', '=', 'b'], .string, false, false⟩, by decide, rfl, rfl⟩

end NetworkManager.VariantAttributes
