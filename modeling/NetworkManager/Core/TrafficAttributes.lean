import NetworkManager.Core.TrafficHeader

/-!
# Attributes of traffic control objects as text

The writer gives every attribute a value, also those that are single words.  Attributes with values
are read back; the others are not.
-/

namespace NetworkManager.TrafficControl

open Ascii List VariantAttributes

section Attributes

variable {spec : List NMVariantAttributeSpec} {ht values : Attributes}

structure Keyed (spec : List NMVariantAttributeSpec) (entry : List Char × GVariant) : Prop where
  plain : PlainWord entry.1
  nonempty : entry.1 ≠ []
  supported : entry.2 ≠ .other
  /-- The name is found while it is not used, and the value is read back. -/
  found : ∀ ht : Attributes, ht.contains entry.1 = false →
    ∃ s, findSpec spec ht entry.1 = some s ∧ s.name = entry.1 ∧ s.noValue = false ∧
      parseValue s (valueText entry.2) = .ok entry.2

theorem formatFull_blank (supported : ∀ entry ∈ values, entry.2 ≠ .other) :
    formatVariantAttributesFull ' ' ' ' [' '] values = [] ∧ values = [] ∨
      formatVariantAttributesFull ' ' ' ' [' '] values =
        ' ' :: formatVariantAttributesFull ' ' ' ' [] values := by
  cases values with
  | nil => exact Or.inl ⟨rfl, rfl⟩
  | cons entry values =>
    right
    rw [formatFull_cons _ (supported entry mem_cons_self),
      formatFull_cons _ (supported entry mem_cons_self)]
    rfl

theorem endsWord_format (supported : ∀ entry ∈ values, entry.2 ≠ .other) :
    EndsWord (formatVariantAttributesFull ' ' ' ' [' '] values) := by
  rcases formatFull_blank supported with ⟨text_eq, -⟩ | text_eq
  · rw [text_eq]
    exact endsWord_nil
  · rw [text_eq]
    exact endsWord_blank _

theorem parseWords_format_cons {entry : List Char × GVariant} (keyed : Keyed spec entry)
    (unused : ht.contains entry.1 = false) (supported : ∀ other ∈ values, other.2 ≠ .other) :
    parseWords spec (formatVariantAttributesFull ' ' ' ' [] (entry :: values)) ht [] =
      parseWords spec (formatVariantAttributesFull ' ' ' ' [] values) (ht ++ [entry]) [] := by
  obtain ⟨s, found, name_eq, no_flag, read⟩ := keyed.found ht unused
  have named : findSpec spec ht (attributeUnescape none entry.1) = some s := by
    rw [keyed.plain.unescape]
    exact found
  have insertion : ∀ rest, EndsWord rest →
      parseWords spec (entry.1 ++ ' ' :: (attributeEscape ' ' ' ' (valueText entry.2) ++ rest)) ht
        [] = nextWord spec (ht ++ [(s.name, entry.2)]) rest :=
    fun rest ends => parseWords_keyed keyed.plain.complete keyed.plain.no_blank named no_flag
      keyed.nonempty read ends
  have entry_eq : (s.name, entry.2) = entry := by rw [name_eq]
  rw [entry_eq] at insertion
  rw [formatFull_cons _ keyed.supported, nil_append, entryText, keyed.plain.escape,
    append_assoc, cons_append]
  rcases formatFull_blank supported with ⟨text_eq, rfl⟩ | text_eq
  · rw [text_eq, insertion [] endsWord_nil]
    rfl
  · rw [text_eq, insertion _ (endsWord_blank _)]
    rfl

theorem parseWords_format_append {front : Attributes} (keyed : ∀ entry ∈ front, Keyed spec entry)
    (nodup : ((ht ++ front).map Prod.fst).Nodup)
    (supported : ∀ other ∈ values, other.2 ≠ .other) :
    parseWords spec (formatVariantAttributesFull ' ' ' ' [] (front ++ values)) ht [] =
      parseWords spec (formatVariantAttributesFull ' ' ' ' [] values) (ht ++ front) [] := by
  induction front generalizing ht with
  | nil => rw [nil_append, append_nil]
  | cons entry front ih =>
    obtain ⟨entry_keyed, keyed⟩ := forall_mem_cons.mp keyed
    have unused : ht.contains entry.1 = false := by
      unfold Attributes.contains
      rw [any_eq_false]
      intro other mem same
      rw [map_append, map_cons] at nodup
      have apart := (nodup_append.mp nodup).2.2 other.1 (mem_map_of_mem mem) entry.1
        mem_cons_self
      exact apart (by simpa using same)
    have all_supported : ∀ other ∈ front ++ values, other.2 ≠ .other := by
      intro other mem
      rcases mem_append.mp mem with mem | mem
      · exact (keyed other mem).supported
      · exact supported other mem
    rw [cons_append, parseWords_format_cons entry_keyed unused all_supported,
      ih keyed (by simpa using nodup), append_assoc, singleton_append]

theorem parseWords_format (keyed : ∀ entry ∈ values, Keyed spec entry)
    (nodup : (values.map Prod.fst).Nodup) :
    parseWords spec (formatVariantAttributesFull ' ' ' ' [] values) [] [] = .ok values := by
  have read : parseWords spec (formatVariantAttributesFull ' ' ' ' [] (values ++ [])) [] [] =
      parseWords spec (formatVariantAttributesFull ' ' ' ' [] []) ([] ++ values) [] :=
    parseWords_format_append keyed (by simpa using nodup) (by simp)
  rw [append_nil] at read
  rw [read]
  simp [formatVariantAttributesFull, parseWords, parseLoop]

end Attributes

/-- What the reader gives: distinct names of the specification, with values for them. -/
structure Reads (spec : List NMVariantAttributeSpec) (ht : Attributes) : Prop where
  nodup : (ht.map Prod.fst).Nodup
  typed : ∀ entry ∈ ht, ∃ s ∈ spec, s.name = entry.1 ∧ ∃ value, parseValue s value = .ok entry.2

section Reads

variable {spec : List NMVariantAttributeSpec} {ht : Attributes}

theorem reads_nil (spec : List NMVariantAttributeSpec) : Reads spec [] :=
  ⟨nodup_nil, by simp⟩

theorem findSpec_unused {name : List Char} {s : NMVariantAttributeSpec}
    (found : findSpec spec ht name = some s) : ht.contains s.name = false := by
  have fits := find?_some found
  simp only [Bool.and_eq_true, Bool.not_eq_true'] at fits
  exact fits.1

theorem reads_kept (spec : List NMVariantAttributeSpec) : KeptByInsertion spec (Reads spec) := by
  intro ht name s value variant holds found _ read
  have unused := findSpec_unused found
  refine ⟨?_, ?_⟩
  · rw [map_append, map_singleton]
    refine nodup_append.mpr ⟨holds.nodup, nodup_singleton _, ?_⟩
    intro used used_mem new new_mem same
    obtain ⟨entry, mem, rfl⟩ := mem_map.mp used_mem
    obtain rfl := mem_singleton.mp new_mem
    have apart := any_eq_false.mp unused entry mem
    exact apart (by simpa using same)
  · intro entry mem
    rcases mem_append.mp mem with mem | mem
    · exact holds.typed entry mem
    · obtain rfl := mem_singleton.mp mem
      exact ⟨s, findSpec_mem found, rfl, value, read⟩

theorem parseAttributes_eq (str : List Char) (spec : List NMVariantAttributeSpec)
    (ht : Attributes) :
    parseAttributes str spec = .ok ht ↔ parseWords spec str [] [] = .ok ht := by
  unfold parseAttributes parseVariantAttributes
  rw [← parseWords]
  cases parseWords spec str [] [] with
  | error error => simp
  | ok read => simp

theorem parseAttributes_reads {str : List Char} (read : parseAttributes str spec = .ok ht) :
    Reads spec ht :=
  parseWords_invariant (reads_kept spec) (reads_nil spec) ((parseAttributes_eq str spec ht).mp read)

theorem Reads.perm {other : Attributes} (reads : Reads spec ht) (perm : other.Perm ht) :
    Reads spec other where
  nodup := ((perm.map Prod.fst).nodup_iff).mpr reads.nodup
  typed := fun entry mem => reads.typed entry (perm.subset mem)

theorem parseValue_type {s : NMVariantAttributeSpec} {value : List Char} {variant : GVariant}
    (read : parseValue s value = .ok variant) : s.type = variant.type ∧ variant ≠ .other := by
  unfold parseValue at read
  cases typed : s.type with
  | uint32 =>
    rw [typed] at read
    dsimp only at read
    split at read
    · cases read
    · obtain rfl := Except.ok.inj read
      exact ⟨rfl, by simp⟩
  | byte =>
    rw [typed] at read
    dsimp only at read
    split at read
    · cases read
    · obtain rfl := Except.ok.inj read
      exact ⟨rfl, by simp⟩
  | boolean =>
    rw [typed] at read
    dsimp only at read
    split at read
    · obtain rfl := Except.ok.inj read
      exact ⟨rfl, by simp⟩
    · split at read
      · cases read
      · obtain rfl := Except.ok.inj read
        exact ⟨rfl, by simp⟩
  | string =>
    rw [typed] at read
    obtain rfl := Except.ok.inj read
    exact ⟨rfl, by simp⟩
  | bytestring =>
    rw [typed] at read
    obtain rfl := Except.ok.inj read
    exact ⟨rfl, by simp⟩
  | other =>
    rw [typed] at read
    cases read

theorem Reads.supported (reads : Reads spec ht) : ∀ entry ∈ ht, entry.2 ≠ .other := by
  intro entry mem
  obtain ⟨s, -, -, value, read⟩ := reads.typed entry mem
  exact (parseValue_type read).2

/-- Setting the attributes of a new object one after the other gives all of them. -/
theorem foldl_setAttribute (reads : Reads spec ht)
    (names : ∀ s ∈ spec, s.name ≠ [] ∧ s.name ≠ ['k', 'i', 'n', 'd']) :
    ht.foldl setAttribute [] = ht := by
  have general : ∀ before after : Attributes, Reads spec (before ++ after) →
      after.foldl setAttribute before = before ++ after := by
    intro before after
    induction after generalizing before with
    | nil => intro _; simp
    | cons entry after ih =>
      intro reads
      obtain ⟨s, s_mem, name_eq, -⟩ := reads.typed entry (by simp)
      have named := names s s_mem
      rw [name_eq] at named
      have others : before.filter (fun other => other.1 ≠ entry.1) = before := by
        rw [filter_eq_self]
        intro other mem
        have nodup := reads.nodup
        rw [map_append, map_cons] at nodup
        have apart := (nodup_append.mp nodup).2.2 other.1 (mem_map_of_mem mem) entry.1
          mem_cons_self
        simpa using apart
      have set_eq : setAttribute before entry = before ++ [entry] := by
        rw [setAttribute, if_neg (by simpa using named), others]
      rw [foldl_cons, set_eq, ih _ (by simpa using reads)]
      simp
  exact general [] ht reads

end Reads

/-- The single words of a specification are not strings, and names are distinct plain words that
are no handles and no options of an object. -/
structure PlainSpec (spec : List NMVariantAttributeSpec) : Prop where
  distinct : (spec.map NMVariantAttributeSpec.name).Nodup
  plain : ∀ s ∈ spec, PlainWord s.name ∧ s.name ≠ [] ∧ s.name ≠ ['k', 'i', 'n', 'd']
  no_option : ∀ s ∈ spec, s.name ≠ nameRoot ∧ s.name ≠ nameParent ∧ s.name ≠ nameHandle
  no_handle : ∀ s ∈ spec, parseTcHandle s.name = none

section PlainSpec

variable {spec : List NMVariantAttributeSpec} {ht : Attributes}

theorem findSpec_eq_none (positional : ∀ s ∈ spec, s.noValue = true → s.type ≠ .string)
    {name : List Char} (unknown : ∀ s ∈ spec, s.name ≠ name) : findSpec spec ht name = none := by
  refine find?_eq_none.mpr ?_
  intro s mem fits
  simp only [Bool.and_eq_true, Bool.or_eq_true, decide_eq_true_eq] at fits
  rcases fits.2 with same | ⟨alone, typed⟩
  · exact unknown s mem same.symm
  · exact positional s mem alone typed

theorem findSpec_of_mem (distinct : (spec.map NMVariantAttributeSpec.name).Nodup)
    (positional : ∀ s ∈ spec, s.noValue = true → s.type ≠ .string) {s : NMVariantAttributeSpec}
    (mem : s ∈ spec) (unused : ht.contains s.name = false) :
    findSpec spec ht s.name = some s := by
  cases found : findSpec spec ht s.name with
  | none =>
    have none_fits := find?_eq_none.mp found s mem
    simp [unused] at none_fits
  | some other =>
    have other_mem := findSpec_mem found
    have fits := find?_some found
    simp only [Bool.and_eq_true, Bool.or_eq_true, decide_eq_true_eq] at fits
    rcases fits.2 with same | ⟨alone, typed⟩
    · rw [inj_on_of_nodup_map distinct other_mem mem same.symm]
    · exact absurd typed (positional other other_mem alone)

theorem Reads.keyed (reads : Reads spec ht) (names : PlainSpec spec)
    (positional : ∀ s ∈ spec, s.noValue = true → s.type ≠ .string)
    {entry : List Char × GVariant} (mem : entry ∈ ht)
    (has_value : ∀ s ∈ spec, s.name = entry.1 → s.noValue = false) : Keyed spec entry := by
  obtain ⟨s, s_mem, name_eq, value, read⟩ := reads.typed entry mem
  obtain ⟨plain, nonempty, -⟩ := names.plain s s_mem
  obtain ⟨typed, supported⟩ := parseValue_type read
  rw [name_eq] at plain nonempty
  refine ⟨plain, nonempty, supported, ?_⟩
  intro others unused
  have alone := has_value s s_mem name_eq
  have found := findSpec_of_mem names.distinct positional s_mem (name_eq ▸ unused)
  rw [name_eq] at found
  exact ⟨s, found, name_eq, alone, parseValue_valueText alone typed supported⟩

theorem kindTail_attributes (reads : Reads spec ht) (names : PlainSpec spec) :
    KindTail (attributesToStr ht) (formatVariantAttributes ht ' ' ' ') := by
  unfold attributesToStr formatVariantAttributes
  by_cases empty : ht = []
  · rw [if_pos empty]
    exact KindTail.none
  · rw [if_neg empty]
    dsimp only
    have sorted : (namedValuesFromStrDict ht).Perm ht := ListSort.sort_perm _ ht
    generalize namedValuesFromStrDict ht = values at sorted
    cases values with
    | nil => exact absurd sorted.symm.eq_nil empty
    | cons entry values =>
      have sorted_reads := reads.perm sorted
      obtain ⟨s, s_mem, name_eq, -⟩ := sorted_reads.typed entry mem_cons_self
      obtain ⟨plain, nonempty, -⟩ := names.plain s s_mem
      obtain ⟨no_root, no_parent, no_handle⟩ := names.no_option s s_mem
      have invalid := names.no_handle s s_mem
      rw [name_eq] at plain nonempty no_root no_parent no_handle invalid
      rw [formatFull_cons _ (sorted_reads.supported entry mem_cons_self), nil_append,
        entryText, plain.escape, append_assoc]
      exact KindTail.some _ _ plain nonempty (endsWord_blank _) no_root no_parent no_handle
        invalid

theorem parseAttributes_attributes (reads : Reads spec ht) (names : PlainSpec spec)
    (positional : ∀ s ∈ spec, s.noValue = true → s.type ≠ .string)
    (has_value : ∀ entry ∈ ht, ∀ s ∈ spec, s.name = entry.1 → s.noValue = false)
    {text : List Char} (written : formatVariantAttributes ht ' ' ' ' = some text) :
    ∃ read, parseAttributes text spec = .ok read ∧ read.Perm ht ∧ Reads spec read := by
  have sorted : (namedValuesFromStrDict ht).Perm ht := ListSort.sort_perm _ ht
  unfold formatVariantAttributes at written
  split at written
  · cases written
  · obtain rfl := Option.some.inj written
    have sorted_reads := reads.perm sorted
    refine ⟨_, (parseAttributes_eq _ _ _).mpr (parseWords_format ?_ sorted_reads.nodup), sorted,
      sorted_reads⟩
    intro entry mem
    exact sorted_reads.keyed names positional mem (has_value entry (sorted.subset mem))

end PlainSpec

end NetworkManager.TrafficControl
