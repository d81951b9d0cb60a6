import NetworkManager.Core.TrafficAttributes

/-!
# Reading traffic control objects back

A queueing discipline or a filter that was read is written, and what was written is read again.
The results say exactly which objects are the same after that.
-/

namespace NetworkManager.TrafficControl

open Ascii List VariantAttributes

theorem plainSpec_fqCodel : PlainSpec tcQdiscFqCodelSpec :=
  ⟨by decide, by decide, by decide, by decide⟩

theorem fqCodel_positional : ∀ s ∈ tcQdiscFqCodelSpec, s.noValue = true → s.type ≠ .string := by
  decide

theorem fqCodel_has_value {name : List Char} (no_ecn : name ≠ nameEcn) :
    ∀ s ∈ tcQdiscFqCodelSpec, s.name = name → s.noValue = false := by
  have only_ecn : ∀ s ∈ tcQdiscFqCodelSpec, s.name ≠ nameEcn → s.noValue = false := by decide
  intro s mem name_eq
  exact only_ecn s mem (fun is_ecn => no_ecn (name_eq ▸ is_ecn))

variable {attributes : Attributes} {spec : List NMVariantAttributeSpec}

theorem fqCodel_ecn (reads : Reads tcQdiscFqCodelSpec attributes) {variant : GVariant}
    (mem : (nameEcn, variant) ∈ attributes) : variant = .boolean true := by
  obtain ⟨s, s_mem, name_eq, value, read⟩ := reads.typed _ mem
  have flag : ∀ s ∈ tcQdiscFqCodelSpec, s.name = nameEcn → s.type = .boolean ∧ s.noValue = true := by
    decide
  obtain ⟨typed, alone⟩ := flag s s_mem name_eq
  unfold parseValue at read
  rw [typed, alone] at read
  simpa using read.symm

/-- The attribute "ecn" is written with a value, which is not read back. -/
theorem parseAttributes_ecn (reads : Reads tcQdiscFqCodelSpec attributes)
    (has_ecn : ∃ entry ∈ attributes, entry.1 = nameEcn) {text : List Char}
    (written : formatVariantAttributes attributes ' ' ' ' = some text) (read : Attributes) :
    parseAttributes text tcQdiscFqCodelSpec ≠ .ok read := by
  rw [Ne, parseAttributes_eq]
  have sorted : (namedValuesFromStrDict attributes).Perm attributes := ListSort.sort_perm _ _
  unfold formatVariantAttributes at written
  split at written
  · cases written
  · obtain rfl := Option.some.inj written
    generalize namedValuesFromStrDict attributes = values at sorted
    have sorted_reads := reads.perm sorted
    obtain ⟨⟨name, variant⟩, mem, name_eq⟩ := has_ecn
    obtain rfl : name = nameEcn := name_eq
    have in_values := sorted.symm.subset mem
    obtain rfl := fqCodel_ecn sorted_reads in_values
    obtain ⟨front, back, rfl⟩ := append_of_mem in_values
    have nodup := sorted_reads.nodup
    rw [map_append, map_cons] at nodup
    obtain ⟨front_nodup, -, apart⟩ := nodup_append.mp nodup
    have keyed : ∀ entry ∈ front, Keyed tcQdiscFqCodelSpec entry := by
      intro entry entry_mem
      refine sorted_reads.keyed plainSpec_fqCodel fqCodel_positional
        (mem_append_left _ entry_mem) (fqCodel_has_value ?_)
      exact apart entry.1 (mem_map_of_mem entry_mem) nameEcn mem_cons_self
    have supported := sorted_reads.supported
    rw [parseWords_format_append keyed (by simpa using front_nodup)
      (fun other other_mem => supported other (mem_append_right _ other_mem)),
      nil_append, formatFull_cons _ (by simp), nil_append, entryText]
    have ecn_plain : PlainWord nameEcn := by decide
    have true_plain : PlainWord ['t', 'r', 'u', 'e'] := by decide
    have unused : Attributes.contains front nameEcn = false := by
      refine any_eq_false.mpr ?_
      intro entry entry_mem
      simpa using apart entry.1 (mem_map_of_mem entry_mem) nameEcn mem_cons_self
    have found : findSpec tcQdiscFqCodelSpec front nameEcn =
        some ⟨nameEcn, .boolean, true, false⟩ :=
      findSpec_of_mem plainSpec_fqCodel.distinct fqCodel_positional
        (s := ⟨nameEcn, .boolean, true, false⟩) (by decide) unused
    have value_eq : valueText (.boolean true) = ['t', 'r', 'u', 'e'] := by decide
    rw [ecn_plain.escape, value_eq, true_plain.escape, append_assoc, cons_append,
      ecn_plain.parse _ _ (by decide) (endsWord_blank _),
      endWord_flag (by rw [ecn_plain.name]; exact found) rfl rfl rfl, nextWord]
    have ends : EndsWord (formatVariantAttributesFull ' ' ' ' [' '] back) :=
      endsWord_format fun other other_mem =>
        supported other (mem_append_right _ (mem_cons_of_mem _ other_mem))
    rw [true_plain.parse _ _ (by decide) ends, endWord_unknown]
    · simp
    · rw [true_plain.name]
      exact findSpec_eq_none fqCodel_positional (by decide)

/-- Two queueing disciplines are the same, up to the order of a hash table. -/
structure QdiscSame (first second : NMTCQdisc) : Prop where
  kind : second.kind = first.kind
  parent : second.parent = first.parent
  handle : second.handle = first.handle
  attributes : second.attributes.Perm first.attributes

/-- A queueing discipline that can be written. -/
structure QdiscKept (qdisc : NMTCQdisc) : Prop where
  /-- Parent, handle and kind are read back; the handle of the kind "ingress" is not written. -/
  header : HeaderKept qdisc.parent (qdisc.kind ≠ nameIngress) qdisc.handle qdisc.kind
  no_ecn : ∀ entry ∈ qdisc.attributes, entry.1 ≠ nameEcn

variable {kind : List Char} {rest : Option (List Char)} {str : List Char}

theorem qdiscOptions_ok {options : Option Attributes}
    (read : qdiscOptions (some kind) rest = .ok options) :
    (kind = nameFqCodel ∨ options = none) ∧ Reads tcQdiscFqCodelSpec (options.getD []) := by
  unfold qdiscOptions at read
  split at read
  · obtain rfl := Except.ok.inj read
    exact ⟨Or.inr rfl, reads_nil _⟩
  · split at read
    · obtain rfl := Except.ok.inj read
      exact ⟨Or.inr rfl, reads_nil _⟩
    · rename_i text _ attrs found
      have attrs_eq := mem_singleton.mp (List.mem_of_find?_eq_some found)
      have same_kind : attrs.1 = kind := by simpa using find?_some found
      subst attrs_eq
      split at read
      · cases read
      · rename_i ht parsed
        obtain rfl := Except.ok.inj read
        exact ⟨Or.inl same_kind.symm, parseAttributes_reads parsed⟩

theorem tcQdiscFromStr_ok_iff (str : List Char) (qdisc : NMTCQdisc) :
    tcQdiscFromStr str = .ok qdisc ↔
      ∃ opts options, tcReadCommonOpts str = .ok opts ∧
        qdiscOptions opts.kind opts.rest = .ok options ∧
        (options.bind fun options => lookupAttribute options []) = none ∧
        checkNew opts.kind opts.parent = .ok qdisc.kind ∧ opts.handle = qdisc.handle ∧
        opts.parent = qdisc.parent ∧ (options.getD []).foldl setAttribute [] = qdisc.attributes := by
  unfold tcQdiscFromStr
  cases read : tcReadCommonOpts str with
  | error error => simp
  | ok opts =>
    dsimp only
    cases options_read : qdiscOptions opts.kind opts.rest with
    | error error => simp [options_read]
    | ok options =>
      dsimp only
      cases unknown : options.bind fun options => lookupAttribute options [] with
      | some value => simp [options_read, unknown, -Option.bind_eq_none_iff]
      | none =>
        dsimp only
        cases checked : checkNew opts.kind opts.parent with
        | error error => simp [checked]
        | ok kind =>
          obtain ⟨qdisc_kind, handle, parent, attributes⟩ := qdisc
          simp [options_read, unknown, checked, -Option.bind_eq_none_iff]

theorem checkNew_ok_iff (kind : Option (List Char)) (parent : Nat) (checked : List Char) :
    checkNew kind parent = .ok checked ↔ checkKind kind = .ok checked ∧ parent ≠ tcUnspec := by
  unfold checkNew
  cases checkKind kind with
  | error error => simp
  | ok passed => by_cases unspec : parent = tcUnspec <;> simp [unspec]

theorem tcQdiscToStr_eq (qdisc : NMTCQdisc) :
    tcQdiscToStr qdisc = headerText qdisc.parent (qdisc.kind ≠ nameIngress) qdisc.handle ++
      (qdisc.kind ++ attributesToStr qdisc.attributes) := by
  simp [tcQdiscToStr, headerText]

theorem tcQdiscFromStr_read {qdisc : NMTCQdisc} (read : tcQdiscFromStr str = .ok qdisc) :
    HeaderRead qdisc.parent qdisc.handle qdisc.kind ∧ checkKind (some qdisc.kind) = .ok qdisc.kind ∧
      (qdisc.kind = nameFqCodel ∨ qdisc.attributes = []) ∧
      Reads tcQdiscFqCodelSpec qdisc.attributes := by
  obtain ⟨opts, options, opts_read, options_read, -, checked, handle_eq, parent_eq,
    attributes_eq⟩ := (tcQdiscFromStr_ok_iff str qdisc).mp read
  obtain ⟨kind_checked, -⟩ := (checkNew_ok_iff _ _ _).mp checked
  have header := tcReadCommonOpts_headerRead opts_read kind_checked
  rw [parent_eq, handle_eq] at header
  have kind_eq := (checkKind_ok kind_checked).1
  rw [kind_eq] at options_read kind_checked
  obtain ⟨has_options, reads⟩ := qdiscOptions_ok options_read
  rw [foldl_setAttribute reads (fun s mem => (plainSpec_fqCodel.plain s mem).2)] at attributes_eq
  rw [attributes_eq] at reads
  refine ⟨header, kind_checked, ?_, reads⟩
  rcases has_options with is_fq_codel | rfl
  · exact Or.inl is_fq_codel
  · exact Or.inr attributes_eq.symm

theorem qdiscOptions_attributes (has_options : kind = nameFqCodel ∨ attributes = [])
    (reads : Reads tcQdiscFqCodelSpec attributes) (no_ecn : ∀ entry ∈ attributes, entry.1 ≠ nameEcn) :
    ∃ options : Option Attributes,
      qdiscOptions (some kind) (formatVariantAttributes attributes ' ' ' ') = .ok options ∧
        (options.getD []).Perm attributes ∧ Reads tcQdiscFqCodelSpec (options.getD []) := by
  by_cases empty : attributes = []
  · refine ⟨none, ?_, ?_, reads_nil _⟩
    · rw [empty]
      rfl
    · rw [empty]
      exact Perm.refl _
  · obtain rfl : kind = nameFqCodel := by
      rcases has_options with is_fq_codel | no_attributes
      · exact is_fq_codel
      · exact absurd no_attributes empty
    obtain ⟨text, written⟩ : ∃ text, formatVariantAttributes attributes ' ' ' ' = some text := by
      exact ⟨_, if_neg empty⟩
    obtain ⟨read, parsed, perm, read_reads⟩ :=
      parseAttributes_attributes reads plainSpec_fqCodel fqCodel_positional
        (fun entry mem => fqCodel_has_value (no_ecn entry mem)) written
    refine ⟨some read, ?_, perm, read_reads⟩
    have found : tcQdiscAttributeSpec.find? (fun attrs => some attrs.1 = some nameFqCodel) =
        some (nameFqCodel, tcQdiscFqCodelSpec) := rfl
    unfold qdiscOptions
    rw [written]
    dsimp only
    rw [found]
    dsimp only
    rw [parsed]

theorem Reads.lookup_empty {ht : Attributes} (reads : Reads spec ht) (names : PlainSpec spec) :
    lookupAttribute ht [] = none := by
  unfold lookupAttribute
  rw [Option.map_eq_none_iff, find?_eq_none]
  intro entry mem same
  obtain ⟨s, s_mem, name_eq, -⟩ := reads.typed entry mem
  exact (names.plain s s_mem).2.1 (name_eq.trans (by simpa using same))

theorem tcQdisc_roundTrip {qdisc : NMTCQdisc} (read : tcQdiscFromStr str = .ok qdisc) :
    (∃ again, tcQdiscFromStr (tcQdiscToStr qdisc) = .ok again ∧ QdiscSame qdisc again) ↔
      QdiscKept qdisc := by
  obtain ⟨header, kind_checked, has_options, reads⟩ := tcQdiscFromStr_read read
  have follows := kindTail_attributes reads plainSpec_fqCodel
  have shown : qdisc.kind ≠ nameIngress → decide (qdisc.kind ≠ nameIngress) = true :=
    decide_eq_true
  rw [tcQdiscToStr_eq]
  constructor
  · rintro ⟨again, again_read, same⟩
    obtain ⟨opts, options, opts_read, options_read, -, checked, handle_eq, parent_eq, -⟩ :=
      (tcQdiscFromStr_ok_iff _ again).mp again_read
    have kind_eq := (checkKind_ok ((checkNew_ok_iff _ _ _).mp checked).1).1
    rw [same.kind] at kind_eq
    have kept := headerKept_of_read header shown follows opts_read kind_eq
      (parent_eq.trans same.parent) (handle_eq.trans same.handle)
    refine ⟨kept, ?_⟩
    intro entry mem is_ecn
    rw [tcReadCommonOpts_kept header shown follows kept] at opts_read
    obtain rfl := Except.ok.inj opts_read
    have nonempty : qdisc.attributes ≠ [] := ne_nil_of_mem mem
    have is_fq_codel := has_options.resolve_right nonempty
    obtain ⟨text, written⟩ : ∃ text, formatVariantAttributes qdisc.attributes ' ' ' ' = some text :=
      ⟨_, if_neg nonempty⟩
    have refused := parseAttributes_ecn reads ⟨entry, mem, is_ecn⟩ written
    have found : tcQdiscAttributeSpec.find? (fun attrs => some attrs.1 = some nameFqCodel) =
        some (nameFqCodel, tcQdiscFqCodelSpec) := rfl
    unfold qdiscOptions at options_read
    rw [written] at options_read
    dsimp only at options_read
    rw [is_fq_codel, found] at options_read
    dsimp only at options_read
    split at options_read
    · cases options_read
    · rename_i ht parsed
      exact refused ht parsed
  · intro kept
    obtain ⟨options, options_read, perm, options_reads⟩ :=
      qdiscOptions_attributes has_options reads kept.no_ecn
    refine ⟨⟨qdisc.kind, qdisc.handle, qdisc.parent, options.getD []⟩,
      (tcQdiscFromStr_ok_iff _ _).mpr ⟨_, options,
        tcReadCommonOpts_kept header shown follows kept.header, options_read, ?_, ?_, rfl, rfl,
        foldl_setAttribute options_reads (fun s mem => (plainSpec_fqCodel.plain s mem).2)⟩,
      ⟨rfl, rfl, rfl, perm⟩⟩
    · cases options with
      | none => rfl
      | some options => exact options_reads.lookup_empty plainSpec_fqCodel
    · exact (checkNew_ok_iff _ _ _).mpr ⟨kind_checked, header.parent_valid.ne_unspec⟩

theorem plainSpec_simple : PlainSpec tcActionSimpleAttributeSpec :=
  ⟨by decide, by decide, by decide, by decide⟩

theorem plainSpec_mirred : PlainSpec tcActionMirredAttributeSpec :=
  ⟨by decide, by decide, by decide, by decide⟩

def nameDev : List Char := ['d', 'e', 'v']

/-- The text of a flag that is set. -/
def textTrue : List Char := ['t', 'r', 'u', 'e']

/-- The names of the flags of the action "mirred". -/
def mirredFlags : List (List Char) :=
  [['e', 'g', 'r', 'e', 's', 's'], nameIngress, ['m', 'i', 'r', 'r', 'o', 'r'],
    ['r', 'e', 'd', 'i', 'r', 'e', 'c', 't']]

section Mirred

variable {ht : Attributes} {name : List Char}

theorem findSpec_mirred (ht : Attributes) (name : List Char) :
    findSpec tcActionMirredAttributeSpec ht name =
      ((mirredFlags.find? fun flag => !ht.contains flag && name = flag).map
        fun flag => ⟨flag, .boolean, true, false⟩).or
        (if ht.contains nameDev = false then some ⟨nameDev, .string, true, false⟩ else none) := by
  have spec_eq : tcActionMirredAttributeSpec =
      mirredFlags.map (fun flag => ⟨flag, .boolean, true, false⟩) ++
        [⟨nameDev, .string, true, false⟩] := rfl
  unfold findSpec
  rw [spec_eq, find?_append, find?_map]
  congr 1
  · refine congrArg _ (congrArg (fun test => find? test mirredFlags) ?_)
    funext flag
    simp
  · rw [find?_cons_eq_if _ (by simp; rfl)]
    rfl

theorem findSpec_mirred_other (no_flag : name ∉ mirredFlags) :
    findSpec tcActionMirredAttributeSpec ht name =
      if ht.contains nameDev = false then some ⟨nameDev, .string, true, false⟩ else none := by
  have no_match : (mirredFlags.find? fun flag => !ht.contains flag && name = flag) = none := by
    refine find?_eq_none.mpr ?_
    intro flag mem fits
    simp only [Bool.and_eq_true, decide_eq_true_eq] at fits
    exact no_flag (fits.2 ▸ mem)
  rw [findSpec_mirred, no_match]
  rfl

theorem findSpec_mirred_flag (flag : name ∈ mirredFlags) (unused : ht.contains name = false) :
    findSpec tcActionMirredAttributeSpec ht name = some ⟨name, .boolean, true, false⟩ := by
  have found : (mirredFlags.find? fun flag => !ht.contains flag && name = flag) = some name := by
    cases found : mirredFlags.find? fun flag => !ht.contains flag && name = flag with
    | none =>
      have none_fits := find?_eq_none.mp found name flag
      simp [unused] at none_fits
    | some other =>
      have fits := find?_some found
      simp only [Bool.and_eq_true, decide_eq_true_eq] at fits
      rw [fits.2]
  rw [findSpec_mirred, found]
  rfl

end Mirred

theorem Reads.mirred (reads : Reads tcActionMirredAttributeSpec attributes)
    {entry : List Char × GVariant} (mem : entry ∈ attributes) :
    (entry.1 ∈ mirredFlags ∧ entry.2 = .boolean true) ∨
      ∃ device, entry = (nameDev, .string device) := by
  obtain ⟨s, s_mem, name_eq, value, read⟩ := reads.typed entry mem
  have kinds : ∀ s ∈ tcActionMirredAttributeSpec,
      (s.name ∈ mirredFlags ∧ s.type = .boolean ∧ s.noValue = true) ∨
        s = ⟨nameDev, .string, true, false⟩ := by decide
  rcases kinds s s_mem with ⟨flag, typed, alone⟩ | rfl
  · refine Or.inl ⟨name_eq ▸ flag, ?_⟩
    unfold parseValue at read
    rw [typed, alone] at read
    simpa using read.symm
  · refine Or.inr ⟨value, ?_⟩
    have value_eq : entry.2 = .string value := by simpa [parseValue] using read.symm
    exact Prod.ext name_eq.symm value_eq

section MirredText

variable {ht values read : Attributes}

theorem parseWords_mirred_flag (supported : ∀ entry ∈ values, entry.2 ≠ .other)
    {name : List Char} (flag : name ∈ mirredFlags)
    (unused : ht.contains name = false)
    (parsed : parseWords tcActionMirredAttributeSpec
      (formatVariantAttributesFull ' ' ' ' [] ((name, .boolean true) :: values)) ht [] = .ok read) :
    ht.contains nameDev = false ∧
      nextWord tcActionMirredAttributeSpec
        (ht ++ [(name, .boolean true)] ++ [(nameDev, .string textTrue)])
        (formatVariantAttributesFull ' ' ' ' [' '] values) = .ok read := by
  have plain : PlainWord name ∧ name ≠ [] ∧ name ≠ nameDev := by
    have all : ∀ name ∈ mirredFlags, PlainWord name ∧ name ≠ [] ∧ name ≠ nameDev := by decide
    exact all name flag
  obtain ⟨name_plain, nonempty, no_dev⟩ := plain
  have true_plain : PlainWord textTrue := by decide
  have value_eq : valueText (.boolean true) = textTrue := by decide
  have found := findSpec_mirred_flag flag unused
  rw [formatFull_cons _ (by simp), nil_append, entryText, name_plain.escape, value_eq,
    true_plain.escape, append_assoc, cons_append, name_plain.parse _ _ nonempty (endsWord_blank _),
    endWord_flag (by rw [name_plain.name]; exact found) rfl rfl rfl, nextWord,
    true_plain.parse _ _ (by decide) (endsWord_format supported)] at parsed
  have dev_eq : Attributes.contains (ht ++ [(name, .boolean true)]) nameDev =
      ht.contains nameDev := by
    simp [Attributes.contains, no_dev]
  have lookup : findSpec tcActionMirredAttributeSpec (ht ++ [(name, .boolean true)]) textTrue =
      if ht.contains nameDev = false then some ⟨nameDev, .string, true, false⟩ else none := by
    rw [findSpec_mirred_other (by decide), dev_eq]
  cases has_dev : ht.contains nameDev with
  | true =>
    rw [has_dev, if_neg (by decide)] at lookup
    rw [endWord_unknown (by rw [true_plain.name]; exact lookup)] at parsed
    cases parsed
  | false =>
    rw [has_dev, if_pos rfl] at lookup
    rw [endWord_flag (by rw [true_plain.name]; exact lookup) rfl rfl rfl, true_plain.name] at parsed
    exact ⟨rfl, parsed⟩

theorem parseWords_mirred_dev {device : List Char}
    (parsed : parseWords tcActionMirredAttributeSpec
      (formatVariantAttributesFull ' ' ' ' [] ((nameDev, .string device) :: values)) ht [] =
        .ok read) :
    ht.contains nameDev = false ∧
      parseWords tcActionMirredAttributeSpec
        (attributeEscape ' ' ' ' device ++ formatVariantAttributesFull ' ' ' ' [' '] values)
        (ht ++ [(nameDev, .string nameDev)]) [] = .ok read := by
  have plain : PlainWord nameDev := by decide
  have lookup : findSpec tcActionMirredAttributeSpec ht nameDev =
      if ht.contains nameDev = false then some ⟨nameDev, .string, true, false⟩ else none :=
    findSpec_mirred_other (by decide)
  rw [formatFull_cons _ (by simp), nil_append, entryText, plain.escape, append_assoc,
    cons_append, plain.parse _ _ (by decide) (endsWord_blank _)] at parsed
  cases has_dev : ht.contains nameDev with
  | true =>
    rw [has_dev, if_neg (by decide)] at lookup
    rw [endWord_unknown (by rw [plain.name]; exact lookup)] at parsed
    cases parsed
  | false =>
    rw [has_dev, if_pos rfl] at lookup
    rw [endWord_flag (by rw [plain.name]; exact lookup) rfl rfl rfl, plain.name] at parsed
    exact ⟨rfl, parsed⟩

end MirredText

theorem parseWords_mirred {values read : Attributes}
    (reads : Reads tcActionMirredAttributeSpec values) (nonempty : values ≠ [])
    (parsed : parseWords tcActionMirredAttributeSpec
      (formatVariantAttributesFull ' ' ' ' [] values) [] [] = .ok read) :
    ¬ read.Perm values := by
  intro same
  have supported := reads.supported
  have read_reads := reads.perm same
  -- A name has one value.
  have unique : ∀ first second, (nameDev, first) ∈ values → (nameDev, second) ∈ values →
      first = second := by
    intro first second first_mem second_mem
    have := inj_on_of_nodup_map reads.nodup first_mem second_mem rfl
    exact (Prod.mk.inj this).2
  cases values with
  | nil => exact nonempty rfl
  | cons entry values =>
    obtain ⟨-, rest_supported⟩ := forall_mem_cons.mp supported
    rcases reads.mirred mem_cons_self with ⟨flag, set⟩ | ⟨device, rfl⟩
    · obtain ⟨name, variant⟩ := entry
      obtain rfl : variant = .boolean true := set
      obtain ⟨-, next⟩ := parseWords_mirred_flag rest_supported flag rfl parsed
      have dev_mem : (nameDev, .string textTrue) ∈ (name, .boolean true) :: values := by
        refine same.subset ((nextWord_extends next).subset ?_)
        simp
      cases values with
      | nil =>
        have flag_ne : nameDev ∉ mirredFlags := by decide
        obtain ⟨rfl, -⟩ := Prod.mk.inj (mem_singleton.mp dev_mem)
        exact flag_ne flag
      | cons second values =>
        -- The device is taken, so that neither a flag with its value nor a device can follow.
        obtain ⟨second_supported, later_supported⟩ := forall_mem_cons.mp rest_supported
        rw [formatFull_cons _ second_supported, singleton_append, nextWord,
          ← nil_append (entryText _ _ _ _ ++ _), ← formatFull_cons _ second_supported] at next
        rcases reads.mirred (mem_cons_of_mem _ mem_cons_self) with
          ⟨second_flag, second_set⟩ | ⟨device, rfl⟩
        · obtain ⟨second_name, variant⟩ := second
          obtain rfl : variant = .boolean true := second_set
          have nodup := reads.nodup
          have second_unused : Attributes.contains
              ([] ++ [(name, .boolean true)] ++ [(nameDev, .string textTrue)]) second_name =
              false := by
            have apart : name ≠ second_name := by
              rintro rfl
              simp at nodup
            have no_dev : nameDev ≠ second_name := by
              rintro rfl
              exact absurd second_flag (by decide)
            simp [Attributes.contains, apart, no_dev]
          have no_dev := (parseWords_mirred_flag later_supported second_flag second_unused next).1
          simp [Attributes.contains] at no_dev
        · have no_dev := (parseWords_mirred_dev next).1
          simp [Attributes.contains] at no_dev
    · obtain ⟨-, next⟩ := parseWords_mirred_dev parsed
      have dev_mem : (nameDev, .string nameDev) ∈ (nameDev, .string device) :: values :=
        same.subset ((parseWords_extends next).subset (by simp))
      have device_eq := unique _ _ dev_mem mem_cons_self
      obtain rfl : nameDev = device := by simpa using device_eq
      have plain : PlainWord nameDev := by decide
      have unknown : findSpec tcActionMirredAttributeSpec ([] ++ [(nameDev, .string nameDev)])
          nameDev = none := by
        rw [findSpec_mirred_other (by decide)]
        rfl
      rw [plain.escape, plain.parse _ _ (by decide) (endsWord_format rest_supported),
        endWord_unknown (by rw [plain.name]; exact unknown)] at next
      cases next

/-- Two actions are the same, up to the order of a hash table. -/
structure ActionSame (first second : NMTCAction) : Prop where
  kind : second.kind = first.kind
  attributes : second.attributes.Perm first.attributes

/-- An action that can be written. -/
structure ActionKept (action : NMTCAction) : Prop where
  no_backslash : '\\' ∉ action.kind
  no_mirred : action.kind = nameMirred → action.attributes = []

structure ActionRead (action : NMTCAction) : Prop where
  checked : checkKind (some action.kind) = .ok action.kind
  attributes : action.attributes = [] ∨
    ∃ spec, actionAttrs action.kind = some spec ∧ PlainSpec spec ∧ Reads spec action.attributes

theorem actionAttrs_some (found : actionAttrs kind = some spec) :
    (kind = nameSimple ∧ spec = tcActionSimpleAttributeSpec) ∨
      (kind = nameMirred ∧ spec = tcActionMirredAttributeSpec) := by
  unfold actionAttrs at found
  split at found
  · rename_i is_simple
    exact Or.inl ⟨is_simple, (Option.some.inj found).symm⟩
  · split at found
    · rename_i is_mirred
      exact Or.inr ⟨is_mirred, (Option.some.inj found).symm⟩
    · cases found

theorem actionAttrs_plain (found : actionAttrs kind = some spec) : PlainSpec spec := by
  rcases actionAttrs_some found with ⟨-, rfl⟩ | ⟨-, rfl⟩
  · exact plainSpec_simple
  · exact plainSpec_mirred

def ActionOptions (kind : List Char) (rest : Option GVariant) (attributes : Attributes) : Prop :=
  (rest = none ∧ attributes = []) ∨
    ∃ text spec options, rest = some text ∧ actionAttrs kind = some spec ∧
      parseAttributes (getString text) spec = .ok options ∧
      options.foldl setAttribute [] = attributes

theorem tcActionFromStr_ok_iff (str : List Char) (action : NMTCAction) :
    tcActionFromStr str = .ok action ↔
      ∃ ht variant, parseWords tcActionAttributeSpec str [] [] = .ok ht ∧
        lookupAttribute ht nameKind = some variant ∧
        checkKind (some (getString variant)) = .ok action.kind ∧
        ActionOptions action.kind (lookupAttribute ht []) action.attributes := by
  obtain ⟨action_kind, attributes⟩ := action
  unfold tcActionFromStr
  cases parsed : parseAttributes str tcActionAttributeSpec with
  | error error =>
    have failed : ∀ ht, parseWords tcActionAttributeSpec str [] [] ≠ .ok ht := by
      intro ht read
      rw [(parseAttributes_eq _ _ _).mpr read] at parsed
      cases parsed
    simp [failed]
  | ok ht =>
    rw [(parseAttributes_eq _ _ _).mp parsed]
    dsimp only
    cases found : lookupAttribute ht nameKind with
    | none => simp [found]
    | some variant =>
      dsimp only
      cases checked : checkKind (some (getString variant)) with
      | error error => simp [found, checked]
      | ok kind =>
        dsimp only
        have steps : (∃ ht' variant, (.ok ht : Except ParseError Attributes) = .ok ht' ∧
            lookupAttribute ht' nameKind = some variant ∧
            checkKind (some (getString variant)) = .ok action_kind ∧
            ActionOptions action_kind (lookupAttribute ht' []) attributes) ↔
            kind = action_kind ∧ ActionOptions kind (lookupAttribute ht []) attributes := by
          constructor
          · rintro ⟨_, again, read, again_found, again_checked, options⟩
            obtain rfl := Except.ok.inj read
            obtain rfl := Option.some.inj (found.symm.trans again_found)
            obtain rfl := Except.ok.inj (checked.symm.trans again_checked)
            exact ⟨rfl, options⟩
          · rintro ⟨rfl, options⟩
            exact ⟨ht, variant, rfl, found, checked, options⟩
        rw [steps]
        unfold ActionOptions
        cases rest_found : lookupAttribute ht [] with
        | none => simp [eq_comm]
        | some rest =>
          dsimp only
          cases attrs_found : actionAttrs kind with
          | none => simp
          | some spec =>
            dsimp only
            cases options_read : parseAttributes (getString rest) spec with
            | error error => simp [options_read]
            | ok options => simp [options_read]

theorem findSpec_action_kind (name : List Char) :
    findSpec tcActionAttributeSpec [] name = some ⟨nameKind, .string, true, false⟩ := by
  simp [findSpec, tcActionAttributeSpec, Attributes.contains]

theorem parseWords_actionText {kind tail : List Char} (plain : PlainWord kind)
    (nonempty : kind ≠ []) (follows : KindTail tail rest) :
    parseWords tcActionAttributeSpec (kind ++ tail) [] [] =
      .ok ((nameKind, .string kind) :: restEntries rest) := by
  cases follows with
  | none =>
    rw [plain.parse _ _ nonempty endsWord_nil,
      endWord_flag (findSpec_action_kind _) rfl rfl rfl, plain.name]
    rfl
  | some word more word_plain word_nonempty ends =>
    have found : findSpec tcActionAttributeSpec ([] ++ [(nameKind, .string kind)])
        (wordName word more) = some ⟨[], .string, true, true⟩ := by
      simp [findSpec, tcActionAttributeSpec, Attributes.contains, nameKind]
    rw [plain.parse _ _ nonempty (endsWord_blank _),
      endWord_flag (findSpec_action_kind _) rfl rfl rfl, plain.name, nextWord,
      word_plain.parse _ _ word_nonempty ends, endWord_consume found rfl rfl rfl]
    rfl

theorem tcActionFromStr_read {action : NMTCAction} (read : tcActionFromStr str = .ok action) :
    ActionRead action := by
  obtain ⟨ht, variant, -, -, checked, options⟩ := (tcActionFromStr_ok_iff str action).mp read
  have kind_eq := (checkKind_ok checked).1
  rw [kind_eq] at checked
  refine ⟨checked, ?_⟩
  rcases options with ⟨-, empty⟩ | ⟨text, spec, options, -, found, parsed, attributes_eq⟩
  · exact Or.inl empty
  · have names := actionAttrs_plain found
    have reads := parseAttributes_reads parsed
    rw [foldl_setAttribute reads (fun s mem => (names.plain s mem).2)] at attributes_eq
    exact Or.inr ⟨spec, found, names, attributes_eq ▸ reads⟩

section Action

variable {action : NMTCAction} (was_read : ActionRead action)

include was_read

theorem ActionRead.follows :
    KindTail (attributesToStr action.attributes)
      (formatVariantAttributes action.attributes ' ' ' ') := by
  rcases was_read.attributes with empty | ⟨spec, -, names, reads⟩
  · rw [empty]
    exact KindTail.none
  · exact kindTail_attributes reads names

theorem ActionRead.plain (no_backslash : '\\' ∉ action.kind) :
    PlainWord action.kind ∧ action.kind ≠ [] := by
  obtain ⟨-, nonempty, no_blank⟩ := checkKind_ok was_read.checked
  refine ⟨?_, nonempty⟩
  intro c mem
  refine ⟨?_, ?_⟩
  · rintro rfl
    exact no_backslash mem
  · rintro rfl
    exact no_blank mem

theorem ActionRead.roundTrip (kept : ActionKept action) :
    ∃ again, tcActionFromStr (tcActionToStr action) = .ok again ∧ ActionSame action again := by
  obtain ⟨plain, nonempty⟩ := was_read.plain kept.no_backslash
  have parsed := parseWords_actionText plain nonempty was_read.follows
  by_cases empty : action.attributes = []
  · refine ⟨action, (tcActionFromStr_ok_iff _ _).mpr ⟨_, _, parsed, rfl, was_read.checked, ?_⟩,
      rfl, Perm.refl _⟩
    rw [empty]
    exact Or.inl ⟨rfl, rfl⟩
  · obtain ⟨spec, found, names, reads⟩ := was_read.attributes.resolve_left empty
    obtain ⟨text, written⟩ :
        ∃ text, formatVariantAttributes action.attributes ' ' ' ' = some text :=
      ⟨_, if_neg empty⟩
    obtain ⟨is_simple, rfl⟩ : action.kind = nameSimple ∧ spec = tcActionSimpleAttributeSpec := by
      rcases actionAttrs_some found with simple | ⟨is_mirred, -⟩
      · exact simple
      · exact absurd (kept.no_mirred is_mirred) empty
    obtain ⟨options, options_read, perm, options_reads⟩ :=
      parseAttributes_attributes reads names (by decide)
        (fun entry _ s mem _ => (show ∀ s ∈ tcActionSimpleAttributeSpec, s.noValue = false by
          decide) s mem) written
    rw [written] at parsed
    refine ⟨⟨action.kind, options⟩,
      (tcActionFromStr_ok_iff _ _).mpr ⟨_, _, parsed, rfl, was_read.checked, Or.inr
        ⟨_, _, options, rfl, found, options_read,
          foldl_setAttribute options_reads (fun s mem => (names.plain s mem).2)⟩⟩, rfl, perm⟩

theorem ActionRead.kept {again : NMTCAction}
    (read : tcActionFromStr (tcActionToStr action) = .ok again) (same : ActionSame action again) :
    ActionKept action := by
  obtain ⟨-, nonempty, no_blank⟩ := checkKind_ok was_read.checked
  obtain ⟨ht, variant, parsed, found, checked, options⟩ := (tcActionFromStr_ok_iff _ _).mp read
  have kind_eq : getString variant = action.kind := by
    rw [← same.kind]
    exact Option.some.inj (checkKind_ok checked).1
  have no_backslash : '\\' ∉ action.kind := by
    intro backslash
    obtain ⟨longer, later, ended, different, -⟩ :=
      parseWords_backslash no_blank backslash was_read.follows.ends parsed
    rw [endWord_flag (findSpec_action_kind _) rfl rfl rfl] at ended
    have read_kind := lookup_of_begins rfl (nextWord_extends ended)
    obtain rfl := Option.some.inj (found.symm.trans read_kind)
    exact different kind_eq
  refine ⟨no_backslash, ?_⟩
  intro is_mirred
  by_contra has_attributes
  obtain ⟨spec, spec_found, names, reads⟩ := was_read.attributes.resolve_left has_attributes
  have is_spec : actionAttrs action.kind = some tcActionMirredAttributeSpec := by
    rw [is_mirred]
    rfl
  obtain rfl := Option.some.inj (spec_found.symm.trans is_spec)
  rw [tcActionToStr, parseWords_actionText (was_read.plain no_backslash).1 nonempty
    was_read.follows, formatVariantAttributes, if_neg has_attributes] at parsed
  obtain rfl := Except.ok.inj parsed
  rcases options with ⟨impossible, -⟩ | ⟨text, again_spec, read_options, text_found, again_found,
    options_read, attributes_eq⟩
  · simp [lookupAttribute, restEntries, nameKind] at impossible
  · obtain rfl := Option.some.inj text_found
    rw [same.kind] at again_found
    obtain rfl := Option.some.inj (again_found.symm.trans is_spec)
    have options_reads := parseAttributes_reads options_read
    rw [foldl_setAttribute options_reads (fun s mem => (names.plain s mem).2)] at attributes_eq
    have sorted : (namedValuesFromStrDict action.attributes).Perm action.attributes :=
      ListSort.sort_perm _ _
    refine parseWords_mirred (reads.perm sorted) ?_ ((parseAttributes_eq _ _ _).mp options_read) ?_
    · intro empty
      rw [empty] at sorted
      exact has_attributes sorted.symm.eq_nil
    · rw [attributes_eq]
      exact same.attributes.trans sorted.symm

end Action

/-- Two actions of filters are the same, if there are any. -/
inductive ActionsSame : Option NMTCAction → Option NMTCAction → Prop
  | none : ActionsSame none none
  | some {first second : NMTCAction} (same : ActionSame first second) :
      ActionsSame (some first) (some second)

/-- Two filters are the same, up to the order of a hash table. -/
structure TfilterSame (first second : NMTCTfilter) : Prop where
  kind : second.kind = first.kind
  parent : second.parent = first.parent
  handle : second.handle = first.handle
  action : ActionsSame first.action second.action

/-- A filter that can be written. -/
structure TfilterKept (tfilter : NMTCTfilter) : Prop where
  header : HeaderKept tfilter.parent true tfilter.handle tfilter.kind
  action : ∀ action, tfilter.action = some action → ActionKept action

theorem tcTfilterFromStr_ok_iff (str : List Char) (tfilter : NMTCTfilter) :
    tcTfilterFromStr str = .ok tfilter ↔
      ∃ opts, tcReadCommonOpts str = .ok opts ∧ tfilterAction opts.rest = .ok tfilter.action ∧
        checkNew opts.kind opts.parent = .ok tfilter.kind ∧ opts.handle = tfilter.handle ∧
        opts.parent = tfilter.parent := by
  obtain ⟨tfilter_kind, handle, parent, tfilter_action⟩ := tfilter
  unfold tcTfilterFromStr
  cases read : tcReadCommonOpts str with
  | error error => simp
  | ok opts =>
    dsimp only
    cases action_read : tfilterAction opts.rest with
    | error error => simp [action_read]
    | ok action =>
      dsimp only
      cases checked : checkNew opts.kind opts.parent with
      | error error => simp [checked]
      | ok kind =>
        simp only [Except.ok.injEq, NMTCTfilter.mk.injEq, exists_eq_left', action_read, checked]
        tauto

theorem tfilterAction_ok {action : NMTCAction} (read : tfilterAction rest = .ok (some action)) :
    ∃ str, tcActionFromStr str = .ok action := by
  unfold tfilterAction at read
  split at read
  · cases read
  · split at read
    · cases read
    · split at read
      · split at read
        · cases read
        · rename_i extraOpts _
          split at read
          · cases read
          · rename_i made made_read
            obtain rfl : made = action := by simpa using read
            exact ⟨_, made_read⟩
      · cases read

theorem findSpec_action_rest (name : List Char) :
    findSpec tcTfilterAttributeSpec [(nameAction, .boolean true)] name =
      some ⟨[], .string, true, true⟩ := by
  simp [findSpec, tcTfilterAttributeSpec, Attributes.contains, nameAction]

theorem parseWords_rest {c : Char} {text : List Char} {ht final : Attributes}
    (found : ∀ name, findSpec tcTfilterAttributeSpec ht name = some ⟨[], .string, true, true⟩)
    (no_blank : c ≠ ' ')
    (read : parseWords tcTfilterAttributeSpec (c :: text) ht [] = .ok final) :
    final = ht ++ [([], .string (c :: text))] := by
  have consumed : ∀ (word more : List Char), word ≠ [] →
      parseWords tcTfilterAttributeSpec more ht word = .ok final →
      final = ht ++ [([], .string (word ++ more))] := by
    intro word more nonempty more_read
    obtain ⟨after, rest, rfl, ended⟩ := parseWords_reaches_end nonempty more_read
    rw [endWord_consume (found _) rfl rfl rfl] at ended
    rw [← Except.ok.inj ended, append_assoc]
  by_cases backslash : c = '\\'
  · subst backslash
    cases text with
    | nil => simp [parseWords, parseLoop] at read
    | cons escaped text =>
      have next : parseWords tcTfilterAttributeSpec text ht ['\\', escaped] = .ok final := by
        simpa [parseWords, parseLoop] using read
      exact consumed _ _ (by simp) next
  · rw [parseWords, parseLoop_plain backslash no_blank, ← parseWords] at read
    exact consumed _ _ (by simp) read

theorem parseWords_nameAction (text : List Char) :
    parseWords tcTfilterAttributeSpec (nameAction ++ ' ' :: text) [] [] =
      parseWords tcTfilterAttributeSpec text [(nameAction, .boolean true)] [] := by
  have plain : PlainWord nameAction := by decide
  have found : findSpec tcTfilterAttributeSpec [] (wordName nameAction (' ' :: text)) =
      some ⟨nameAction, .boolean, true, false⟩ := by
    rw [plain.name]
    rfl
  rw [plain.parse _ _ (by decide) (endsWord_blank text), endWord_flag found rfl rfl rfl]
  rfl

theorem lookup_nameAction (text : List Char) :
    Attributes.contains ([(nameAction, .boolean true)] ++ [([], .string text)]) nameAction = true ∧
      lookupAttribute ([(nameAction, .boolean true)] ++ [([], .string text)]) [] =
        some (.string text) := by
  refine ⟨by simp [Attributes.contains], by simp [lookupAttribute, nameAction]⟩

section TfilterAction

variable {action again : NMTCAction} (was_read : ActionRead action)

include was_read

theorem ActionRead.tfilterAction_text {result : Option NMTCAction}
    (read : tfilterAction (some (nameAction ++ ' ' :: tcActionToStr action)) = .ok result) :
    ∃ again, result = some again ∧ tcActionFromStr (tcActionToStr action) = .ok again := by
  obtain ⟨-, nonempty, no_blank⟩ := checkKind_ok was_read.checked
  obtain ⟨c, kind, kind_eq⟩ := exists_cons_of_ne_nil nonempty
  have first_no_blank : c ≠ ' ' := by
    rintro rfl
    exact no_blank (by simp [kind_eq])
  unfold tfilterAction at read
  dsimp only at read
  cases parsed : parseAttributes (nameAction ++ ' ' :: tcActionToStr action)
      tcTfilterAttributeSpec with
  | error error =>
    rw [parsed] at read
    cases read
  | ok ht =>
    rw [parsed] at read
    dsimp only at read
    rw [parseAttributes_eq, parseWords_nameAction, tcActionToStr, kind_eq, cons_append] at parsed
    have ht_eq := parseWords_rest findSpec_action_rest first_no_blank parsed
    rw [← cons_append, ← kind_eq, ← tcActionToStr] at ht_eq
    obtain ⟨has_action, has_rest⟩ := lookup_nameAction (tcActionToStr action)
    rw [ht_eq, if_pos has_action, has_rest] at read
    dsimp only [getString] at read
    split at read
    · cases read
    · rename_i made made_read
      exact ⟨made, (Except.ok.inj read).symm, made_read⟩

theorem ActionRead.tfilterAction_kept (no_backslash : '\\' ∉ action.kind)
    (read : tcActionFromStr (tcActionToStr action) = .ok again) :
    tfilterAction (some (nameAction ++ ' ' :: tcActionToStr action)) = .ok (some again) := by
  obtain ⟨plain, nonempty⟩ := was_read.plain no_backslash
  have parsed : parseAttributes (nameAction ++ ' ' :: tcActionToStr action)
      tcTfilterAttributeSpec =
      .ok ([(nameAction, .boolean true)] ++ [([], .string (tcActionToStr action))]) := by
    rw [parseAttributes_eq, parseWords_nameAction, tcActionToStr,
      plain.parse _ _ nonempty was_read.follows.ends,
      endWord_consume (findSpec_action_rest _) rfl rfl rfl]
  obtain ⟨has_action, has_rest⟩ := lookup_nameAction (tcActionToStr action)
  unfold tfilterAction
  dsimp only
  rw [parsed]
  dsimp only
  rw [if_pos has_action, has_rest]
  dsimp only [getString]
  rw [read]

end TfilterAction

def actionText (action : Option NMTCAction) : Option (List Char) :=
  action.map fun action => nameAction ++ ' ' :: tcActionToStr action

theorem tcTfilterToStr_eq (tfilter : NMTCTfilter) :
    tcTfilterToStr tfilter = headerText tfilter.parent true tfilter.handle ++
      (tfilter.kind ++ ((actionText tfilter.action).elim [] fun text => ' ' :: text)) := by
  unfold tcTfilterToStr actionText headerText
  cases tfilter.action <;> simp

theorem kindTail_actionText (action : Option NMTCAction) :
    KindTail ((actionText action).elim [] fun text => ' ' :: text) (actionText action) := by
  cases action with
  | none => exact KindTail.none
  | some action =>
    exact KindTail.some nameAction _ (by decide) (by decide) (endsWord_blank _) (by decide)
      (by decide) (by decide) (by decide)

theorem tcTfilter_roundTrip {tfilter : NMTCTfilter} (read : tcTfilterFromStr str = .ok tfilter) :
    (∃ again, tcTfilterFromStr (tcTfilterToStr tfilter) = .ok again ∧
        TfilterSame tfilter again) ↔ TfilterKept tfilter := by
  obtain ⟨first_opts, first_read, first_action, first_checked, handle_eq, parent_eq⟩ :=
    (tcTfilterFromStr_ok_iff str tfilter).mp read
  have kind_checked := ((checkNew_ok_iff _ _ _).mp first_checked).1
  have header := tcReadCommonOpts_headerRead first_read kind_checked
  rw [parent_eq, handle_eq] at header
  rw [(checkKind_ok kind_checked).1] at kind_checked
  have action_read : ∀ action, tfilter.action = some action → ActionRead action := by
    intro action is_action
    rw [is_action] at first_action
    obtain ⟨text, made⟩ := tfilterAction_ok first_action
    exact tcActionFromStr_read made
  have follows := kindTail_actionText tfilter.action
  rw [tcTfilterToStr_eq]
  constructor
  · rintro ⟨again, again_read, same⟩
    obtain ⟨opts, opts_read, again_action, checked, again_handle, again_parent⟩ :=
      (tcTfilterFromStr_ok_iff _ again).mp again_read
    have kind_eq := (checkKind_ok ((checkNew_ok_iff _ _ _).mp checked).1).1
    rw [same.kind] at kind_eq
    have kept := headerKept_of_read header (fun _ => rfl) follows opts_read kind_eq
      (again_parent.trans same.parent) (again_handle.trans same.handle)
    refine ⟨kept, ?_⟩
    intro action is_action
    rw [tcReadCommonOpts_kept header (fun _ => rfl) follows kept] at opts_read
    obtain rfl := Except.ok.inj opts_read
    have same_action := same.action
    rw [is_action] at again_action same_action
    obtain ⟨made, made_eq, made_read⟩ := (action_read action is_action).tfilterAction_text
      again_action
    rw [made_eq] at same_action
    cases same_action with
    | some same_action => exact (action_read action is_action).kept made_read same_action
  · intro kept
    have again_action : ∃ action, tfilterAction (actionText tfilter.action) = .ok action ∧
        ActionsSame tfilter.action action := by
      cases is_action : tfilter.action with
      | none => exact ⟨none, rfl, ActionsSame.none⟩
      | some action =>
        have was_read := action_read action is_action
        have action_kept := kept.action action is_action
        obtain ⟨made, made_read, same⟩ := was_read.roundTrip action_kept
        exact ⟨some made, was_read.tfilterAction_kept action_kept.no_backslash made_read,
          ActionsSame.some same⟩
    obtain ⟨action, again_read, same⟩ := again_action
    exact ⟨⟨tfilter.kind, tfilter.handle, tfilter.parent, action⟩,
      (tcTfilterFromStr_ok_iff _ _).mpr ⟨_,
        tcReadCommonOpts_kept header (fun _ => rfl) follows kept.header, again_read,
        (checkNew_ok_iff _ _ _).mpr ⟨kind_checked, header.parent_valid.ne_unspec⟩, rfl, rfl⟩,
      ⟨rfl, rfl, rfl, same⟩⟩

/-- For every text that is accepted, the queueing discipline or the filter that was read is written
to a text that is read as the same object, exactly if the object is kept. -/
theorem trafficControl_roundTrip_iff (str : List Char) :
    (∀ qdisc, tcQdiscFromStr str = .ok qdisc →
      ((∃ again, tcQdiscFromStr (tcQdiscToStr qdisc) = .ok again ∧ QdiscSame qdisc again) ↔
        QdiscKept qdisc)) ∧
    ∀ tfilter, tcTfilterFromStr str = .ok tfilter →
      ((∃ again, tcTfilterFromStr (tcTfilterToStr tfilter) = .ok again ∧
          TfilterSame tfilter again) ↔ TfilterKept tfilter) :=
  ⟨fun _ read => tcQdisc_roundTrip read, fun _ read => tcTfilter_roundTrip read⟩

/-- The text "root fq_codel limit 5". -/
def exampleQdisc : List Char :=
  nameRoot ++ ' ' :: nameFqCodel ++ ' ' :: ['l', 'i', 'm', 'i', 't', ' ', '5']

/-- The text "root matchall action simple sdata Hi". -/
def exampleTfilter : List Char :=
  nameRoot ++ ' ' :: ['m', 'a', 't', 'c', 'h', 'a', 'l', 'l'] ++ ' ' :: nameAction ++
    ' ' :: nameSimple ++ ' ' :: nameSdata ++ [' ', 'H', 'i']

/-- A queueing discipline and a filter that are read back. -/
theorem trafficControl_roundTrip_iff_example :
    (∃ qdisc again, tcQdiscFromStr exampleQdisc = .ok qdisc ∧
      tcQdiscFromStr (tcQdiscToStr qdisc) = .ok again ∧ QdiscSame qdisc again) ∧
    ∃ tfilter again, tcTfilterFromStr exampleTfilter = .ok tfilter ∧
      tcTfilterFromStr (tcTfilterToStr tfilter) = .ok again ∧ TfilterSame tfilter again := by
  have qdisc_read : tcQdiscFromStr exampleQdisc =
      .ok ⟨nameFqCodel, 0, tcRoot, [(['l', 'i', 'm', 'i', 't'], .uint32 5)]⟩ := by decide
  have tfilter_read : tcTfilterFromStr exampleTfilter =
      .ok ⟨['m', 'a', 't', 'c', 'h', 'a', 'l', 'l'], 0, tcRoot,
        some ⟨nameSimple, [(nameSdata, .bytestring ['H', 'i'])]⟩⟩ := by decide
  constructor
  · obtain ⟨again, again_read, same⟩ :=
      ((trafficControl_roundTrip_iff exampleQdisc).1 _ qdisc_read).mpr
        ⟨⟨by decide, by decide, by decide, by decide⟩, by decide⟩
    exact ⟨_, again, qdisc_read, again_read, same⟩
  · have action_kept : ∀ action,
        some (⟨nameSimple, [(nameSdata, .bytestring ['H', 'i'])]⟩ : NMTCAction) = some action →
        ActionKept action := by
      intro action is_action
      obtain rfl := Option.some.inj is_action
      exact ⟨by decide, by decide⟩
    obtain ⟨again, again_read, same⟩ :=
      ((trafficControl_roundTrip_iff exampleTfilter).2 _ tfilter_read).mpr
        ⟨⟨by decide, by decide, by decide, by decide⟩, action_kept⟩
    exact ⟨_, again, tfilter_read, again_read, same⟩

/-- The text "root fq_codel ecn" is accepted, but what is written for it is not. -/
theorem trafficControl_roundTrip_fails :
    tcQdiscFromStr (nameRoot ++ ' ' :: nameFqCodel ++ ' ' :: nameEcn) =
        .ok ⟨nameFqCodel, 0, tcRoot, [(nameEcn, .boolean true)]⟩ ∧
      tcQdiscToStr ⟨nameFqCodel, 0, tcRoot, [(nameEcn, .boolean true)]⟩ =
        nameRoot ++ ' ' :: nameFqCodel ++ ' ' :: nameEcn ++ ' ' :: textTrue ∧
      tcQdiscFromStr (nameRoot ++ ' ' :: nameFqCodel ++ ' ' :: nameEcn ++ ' ' :: textTrue) =
        .error (.attributes (.unknownAttribute textTrue)) := by
  refine ⟨by decide, by decide, by decide⟩

end NetworkManager.TrafficControl
