import NetworkManager.Core.TrafficWords

/-!
# Parents, handles and kinds as text

The parent, the handle and the kind of an object that was read are written, and what was written is
read again.  The writer leaves out what it takes for a default and does not escape kinds; the
results say exactly for which objects this does no harm.
-/

namespace NetworkManager.TrafficControl

open Ascii List VariantAttributes

/-- A handle that can be written. -/
structure ValidHandle (handle : Nat) : Prop where
  maj_pos : 0 < tcMaj handle
  lt : handle < 2 ^ 32

variable {handle : Nat}

theorem ValidHandle.ne_unspec (valid : ValidHandle handle) : handle ≠ tcUnspec := by
  have := valid.maj_pos
  unfold tcMaj at this
  unfold tcUnspec
  omega

theorem validHandle_root : ValidHandle tcRoot := ⟨by decide, by decide⟩

theorem validHandle_ingress : ValidHandle tcIngress := ⟨by decide, by decide⟩

theorem validHandle_ingressHandle : ValidHandle tcIngressHandle := ⟨by decide, by decide⟩

theorem mem_handleToStr {c : Char} (mem : c ∈ handleToStr handle) :
    isXdigit c = true ∨ c = ':' := by
  have digits : ∀ number, c ∈ Nat.toDigits 16 number → isXdigit c = true := by
    intro number in_digits
    have below := digitValue_lt_of_mem_toDigits (show 1 < 16 by decide) (by decide) in_digits
    simpa [isXdigit] using below
  rw [handleToStr] at mem
  rcases mem_append.mp mem with in_maj | mem
  · exact Or.inl (digits _ in_maj)
  · rcases mem_cons.mp mem with rfl | mem
    · exact Or.inr rfl
    · split at mem
      · exact Or.inl (digits _ mem)
      · cases mem

theorem plainWord_handleToStr (handle : Nat) : PlainWord (handleToStr handle) := by
  intro c mem
  rcases mem_handleToStr mem with digit | rfl
  · refine ⟨?_, ?_⟩
    · rintro rfl
      exact absurd digit (by decide)
    · rintro rfl
      exact absurd digit (by decide)
  · decide

theorem parseTcHandle_handleToStr (valid : ValidHandle handle) :
    parseTcHandle (handleToStr handle) = some handle := by
  have maj_small : tcMaj handle < 2 ^ 16 := by
    have := valid.lt
    unfold tcMaj
    omega
  have min_small : tcMin handle < 2 ^ 16 := Nat.mod_lt _ (by decide)
  have make_eq : tcMake (tcMaj handle) (tcMin handle) = handle := by
    unfold tcMake tcMaj tcMin
    omega
  have stops : ∀ tail, StopsDigits 16 (':' :: tail) := by
    intro tail c same
    obtain rfl := Option.some.inj same
    decide
  have unmarked : ∀ tail : List Char, ∀ c, (':' :: tail).head? = some c → c ≠ 'x' ∧ c ≠ 'X' := by
    intro tail c same
    obtain rfl := Option.some.inj same
    decide
  have chars : (handleToStr handle).all (fun c => isXdigit c || c == ':' || isSpace c) = true := by
    rw [all_eq_true]
    intro c mem
    rcases mem_handleToStr mem with digit | rfl
    · simp [digit]
    · rfl
  have checked : checkTcHandle (handleToStr handle) (tcMaj handle) (tcMin handle) =
      some handle := by
    have positive := valid.maj_pos
    rw [checkTcHandle, if_neg, Int.toNat_natCast, Int.toNat_natCast, make_eq]
    simp only [chars, Bool.not_true, Bool.false_eq_true, or_false]
    omega
  have maj_read := fun tail =>
    strtoll_hex (tcMaj handle) (stops tail) (unmarked tail) (by omega)
  have min_read : ∀ tail, tail = (if tcMin handle ≠ tcUnspec then Nat.toDigits 16 (tcMin handle)
      else []) → strtoll tail 16 = ⟨tcMin handle, [], false⟩ := by
    intro tail tail_eq
    by_cases zero : tcMin handle = tcUnspec
    · rw [tail_eq, if_neg (by simp [zero]), zero]
      rfl
    · rw [tail_eq, if_pos zero]
      have read := strtoll_hex (tcMin handle) (stopsDigits_nil 16) (by simp)
        (show tcMin handle < 2 ^ 63 by omega)
      rwa [append_nil] at read
  generalize tail_eq : (if tcMin handle ≠ tcUnspec then Nat.toDigits 16 (tcMin handle)
      else []) = tail at min_read
  have text_eq : handleToStr handle = Nat.toDigits 16 (tcMaj handle) ++ ':' :: tail := by
    rw [handleToStr, tail_eq]
  have not_whole : ':' :: tail ≠ Nat.toDigits 16 (tcMaj handle) ++ ':' :: tail := by
    intro same
    have lengths := congrArg length same
    have positive := Nat.length_toDigits_pos (b := 16) (n := tcMaj handle)
    rw [length_append] at lengths
    omega
  unfold parseTcHandle
  rw [text_eq] at checked ⊢
  rw [maj_read]
  dsimp only
  rw [if_neg not_whole]
  have no_space : skipLeadingSpaces (':' :: tail) = ':' :: tail := by
    simp [skipLeadingSpaces, isSpace]
  rw [no_space]
  dsimp only
  rw [if_pos rfl, min_read tail rfl]
  simp only [skipLeadingSpaces, dropWhile_nil, ne_eq, not_true_eq_false, if_false]
  exact checked

theorem checkTcHandle_some {str : List Char} {maj min : Int}
    (checked : checkTcHandle str maj min = some handle) :
    ValidHandle handle ∧ ∀ c ∈ str, isXdigit c = true ∨ c = ':' ∨ isSpace c = true := by
  unfold checkTcHandle at checked
  split at checked
  · cases checked
  · rename_i passed
    obtain rfl : tcMake maj.toNat min.toNat = handle := by simpa using checked
    simp only [not_or, Int.not_le, Int.not_lt, gt_iff_lt, Bool.not_eq_true] at passed
    obtain ⟨maj_pos, maj_le, min_nonneg, min_le, chars⟩ := passed
    refine ⟨⟨?_, ?_⟩, ?_⟩
    · unfold tcMaj tcMake
      omega
    · unfold tcMake
      omega
    · intro c mem
      have all : str.all (fun c => isXdigit c || c == ':' || isSpace c) = true := by
        simpa using chars
      have allowed := all_eq_true.mp all c mem
      simpa [or_assoc] using allowed

theorem parseTcHandle_some {str : List Char} (read : parseTcHandle str = some handle) :
    ValidHandle handle ∧ ∀ c ∈ str, isXdigit c = true ∨ c = ':' ∨ isSpace c = true := by
  unfold parseTcHandle at read
  dsimp only at read
  split at read
  · cases read
  · split at read
    · exact checkTcHandle_some read
    · split at read
      · split at read
        · cases read
        · exact checkTcHandle_some read
      · cases read

/-- The options that the written parent is read as. -/
def parentEntries (parent : Nat) : Attributes :=
  if parent = tcRoot then [(nameRoot, .boolean true)]
  else if parent = tcIngress then []
  else [(nameParent, .string (handleToStr parent))]

/-- The options that the written handle is read as. -/
def handleEntries (written : Bool) (handle : Nat) : Attributes :=
  if handle ≠ tcUnspec ∧ written then [(nameHandle, .string (handleToStr handle))] else []

/-- The options in front of the kind. -/
def headerEntries (parent : Nat) (written : Bool) (handle : Nat) : Attributes :=
  parentEntries parent ++ handleEntries written handle

/-- The text in front of the kind. -/
def headerText (parent : Nat) (written : Bool) (handle : Nat) : List Char :=
  parentToStr parent ++ handleWord written handle

variable {ht : Attributes}

theorem parseWords_pair {spec : List NMVariantAttributeSpec} {word value rest : List Char}
    {s : NMVariantAttributeSpec} {variant : GVariant} (plain : PlainWord word)
    (nonempty : word ≠ []) (value_plain : PlainWord value) (found : findSpec spec ht word = some s)
    (keyed : s.noValue = false) (read : parseValue s value = .ok variant) :
    parseWords spec (word ++ ' ' :: (value ++ ' ' :: rest)) ht [] =
      parseWords spec rest (ht ++ [(s.name, variant)]) [] := by
  rw [← plain.unescape none] at found
  have keyed_eq := parseWords_keyed plain.complete plain.no_blank found keyed nonempty read
    (endsWord_blank rest)
  rwa [value_plain.escape] at keyed_eq

theorem find?_cons_eq_if {α : Type} {test : α → Bool} {passes : Prop} [Decidable passes]
    {first : α} (others : List α) (passes_iff : test first = true ↔ passes) :
    (first :: others).find? test = if passes then some first else others.find? test := by
  by_cases passed : passes
  · rw [if_pos passed, find?_cons_of_pos (passes_iff.mpr passed)]
  · rw [if_neg passed, find?_cons_of_neg (fun found => passed (passes_iff.mp found))]

theorem findSpec_object (ht : Attributes) (name : List Char) :
    findSpec tcObjectAttributeSpec ht name =
      if ht.contains nameRoot = false ∧ name = nameRoot then
        some ⟨nameRoot, .boolean, true, false⟩
      else if ht.contains nameParent = false ∧ name = nameParent then
        some ⟨nameParent, .string, false, false⟩
      else if ht.contains nameHandle = false ∧ name = nameHandle then
        some ⟨nameHandle, .string, false, false⟩
      else if ht.contains nameKind = false then some ⟨nameKind, .string, true, false⟩
      else if ht.contains [] = false then some ⟨[], .string, true, true⟩
      else none := by
  unfold findSpec tcObjectAttributeSpec
  iterate 5 rw [find?_cons_eq_if _ (by simp; rfl)]
  rfl

theorem contains_headerEntries (parent : Nat) (written : Bool) (handle : Nat) :
    (headerEntries parent written handle).contains nameRoot = decide (parent = tcRoot) ∧
    (headerEntries parent written handle).contains nameParent =
      decide (parent ≠ tcRoot ∧ parent ≠ tcIngress) ∧
    (headerEntries parent written handle).contains nameHandle =
      decide (handle ≠ tcUnspec ∧ written = true) ∧
    (headerEntries parent written handle).contains nameKind = false ∧
    (headerEntries parent written handle).contains [] = false := by
  have different : tcIngress ≠ tcRoot := by decide
  unfold headerEntries parentEntries handleEntries Attributes.contains
  by_cases root : parent = tcRoot <;> by_cases ingress : parent = tcIngress <;>
    by_cases shown : handle ≠ tcUnspec ∧ written = true <;>
    simp [root, ingress, shown, different, nameRoot, nameParent, nameHandle, nameKind]

theorem parseWords_parentToStr (parent : Nat) (text : List Char) :
    parseWords tcObjectAttributeSpec (parentToStr parent ++ text) [] [] =
      parseWords tcObjectAttributeSpec text (parentEntries parent) [] := by
  unfold parentToStr parentEntries
  split
  · have root_plain : PlainWord nameRoot := by decide
    have found : findSpec tcObjectAttributeSpec [] (wordName nameRoot (' ' :: text)) =
        some ⟨nameRoot, .boolean, true, false⟩ := by
      rw [root_plain.name]
      rfl
    rw [append_assoc, singleton_append,
      root_plain.parse _ _ (by decide) (endsWord_blank text), endWord_flag found rfl rfl rfl]
    rfl
  · split
    · rfl
    · rw [append_assoc, append_assoc, cons_append, singleton_append,
        parseWords_pair (by decide) (by decide)
          (plainWord_handleToStr parent)
          (show findSpec tcObjectAttributeSpec [] nameParent = _ from rfl) rfl rfl]
      rfl

/-- The reader gets from the text in front of the kind to the kind. -/
theorem parseWords_headerText (parent : Nat) (written : Bool) (handle : Nat) (text : List Char) :
    parseWords tcObjectAttributeSpec (headerText parent written handle ++ text) [] [] =
      parseWords tcObjectAttributeSpec text (headerEntries parent written handle) [] := by
  rw [headerText, append_assoc, parseWords_parentToStr]
  unfold handleWord headerEntries handleEntries
  split
  · have unused : (parentEntries parent).contains nameHandle = false := by
      have := (contains_headerEntries parent false handle).2.2.1
      simpa [headerEntries, handleEntries] using this
    have found : findSpec tcObjectAttributeSpec (parentEntries parent) nameHandle =
        some ⟨nameHandle, .string, false, false⟩ := by
      rw [findSpec_object, unused]
      simp [nameHandle, nameRoot, nameParent]
    rw [append_assoc, append_assoc, cons_append, singleton_append,
      parseWords_pair (by decide) (by decide) (plainWord_handleToStr handle) found rfl rfl]
  · rw [nil_append, append_nil]

/-- A kind is not taken for another option. -/
structure KindFits (parent : Nat) (written : Bool) (handle : Nat) (kind : List Char) : Prop where
  root : kind = nameRoot → parent = tcRoot
  parent : kind = nameParent → parent ≠ tcRoot ∧ parent ≠ tcIngress
  handle : kind = nameHandle → handle ≠ tcUnspec ∧ written = true

inductive KindTail : List Char → Option (List Char) → Prop
  /-- There is no more text. -/
  | none : KindTail [] none
  /-- A word that is neither an option nor a handle begins the rest. -/
  | some (word more : List Char) (plain : PlainWord word) (nonempty : word ≠ [])
      (ends : EndsWord more) (no_root : word ≠ nameRoot) (no_parent : word ≠ nameParent)
      (no_handle : word ≠ nameHandle) (invalid : parseTcHandle word = Option.none) :
      KindTail (' ' :: (word ++ more)) (some (word ++ more))

theorem KindTail.ends {tail : List Char} {rest : Option (List Char)} (follows : KindTail tail rest) :
    EndsWord tail := by
  cases follows with
  | none => exact endsWord_nil
  | some => exact endsWord_blank _

def restEntries (rest : Option (List Char)) : Attributes :=
  match rest with
  | none => []
  | some rest => [([], .string rest)]

section Header

variable {parent handle : Nat} {written : Bool} {kind tail : List Char} {rest : Option (List Char)}

theorem findSpec_kind (fits : KindFits parent written handle kind) :
    findSpec tcObjectAttributeSpec (headerEntries parent written handle) kind =
      some ⟨nameKind, .string, true, false⟩ := by
  obtain ⟨has_root, has_parent, has_handle, has_kind, -⟩ :=
    contains_headerEntries parent written handle
  have no_root : ¬ (decide (parent = tcRoot) = false ∧ kind = nameRoot) := by
    rintro ⟨absent, same⟩
    simp [fits.root same] at absent
  have no_parent :
      ¬ (decide (parent ≠ tcRoot ∧ parent ≠ tcIngress) = false ∧ kind = nameParent) := by
    rintro ⟨absent, same⟩
    simp [fits.parent same] at absent
  have no_handle : ¬ (decide (handle ≠ tcUnspec ∧ written = true) = false ∧ kind = nameHandle) := by
    rintro ⟨absent, same⟩
    simp [fits.handle same] at absent
  rw [findSpec_object, has_root, has_parent, has_handle, has_kind, if_neg no_root,
    if_neg no_parent, if_neg no_handle, if_pos rfl]

theorem parseAttributes_header (fits : KindFits parent written handle kind)
    (plain : PlainWord kind) (nonempty : kind ≠ []) (follows : KindTail tail rest) :
    parseAttributes (headerText parent written handle ++ (kind ++ tail)) tcObjectAttributeSpec =
      .ok (headerEntries parent written handle ++ [(nameKind, .string kind)] ++
        restEntries rest) := by
  have words : parseWords tcObjectAttributeSpec
      (headerText parent written handle ++ (kind ++ tail)) [] [] =
      .ok (headerEntries parent written handle ++ [(nameKind, .string kind)] ++
        restEntries rest) := by
    have found : ∀ more, findSpec tcObjectAttributeSpec (headerEntries parent written handle)
        (wordName kind more) = some ⟨nameKind, .string, true, false⟩ := by
      intro more
      rw [plain.name]
      exact findSpec_kind fits
    rw [parseWords_headerText]
    cases follows with
    | none =>
      rw [plain.parse _ _ nonempty endsWord_nil, endWord_flag (found []) rfl rfl rfl, plain.name]
      simp [nextWord, restEntries]
    | some word more word_plain word_nonempty ends no_root no_parent no_handle _ =>
      rw [plain.parse _ _ nonempty (endsWord_blank _), endWord_flag (found _) rfl rfl rfl,
        plain.name]
      have has_kind : Attributes.contains
          (headerEntries parent written handle ++ [(nameKind, .string kind)]) nameKind =
          true := by
        simp [Attributes.contains]
      have no_rest : Attributes.contains
          (headerEntries parent written handle ++ [(nameKind, .string kind)]) [] = false := by
        have := (contains_headerEntries parent written handle).2.2.2.2
        unfold Attributes.contains at this ⊢
        rw [any_append, this]
        rfl
      have found : findSpec tcObjectAttributeSpec
          (headerEntries parent written handle ++ [(nameKind, .string kind)])
          (wordName word more) = some ⟨[], .string, true, true⟩ := by
        rw [word_plain.name, findSpec_object, has_kind, no_rest]
        simp [no_root, no_parent, no_handle]
      rw [nextWord, word_plain.parse _ _ word_nonempty ends, endWord_consume found rfl rfl rfl]
      rfl
  unfold parseAttributes
  rw [parseVariantAttributes, ← parseWords, words]

variable {ht : Attributes}

theorem lookup_header (parent : Nat) (written : Bool) (handle : Nat) (kind : List Char)
    (rest : Option (List Char))
    (ht_eq : ht = headerEntries parent written handle ++ [(nameKind, .string kind)] ++
      restEntries rest) :
    ht.contains nameRoot = decide (parent = tcRoot) ∧
    lookupAttribute ht nameParent =
      (if parent ≠ tcRoot ∧ parent ≠ tcIngress then some (.string (handleToStr parent))
        else none) ∧
    lookupAttribute ht nameHandle =
      (if handle ≠ tcUnspec ∧ written = true then some (.string (handleToStr handle))
        else none) ∧
    lookupAttribute ht nameKind = some (.string kind) ∧
    lookupAttribute ht [] = rest.map .string := by
  have different : tcIngress ≠ tcRoot := by decide
  subst ht_eq
  unfold headerEntries parentEntries handleEntries Attributes.contains lookupAttribute restEntries
  by_cases root : parent = tcRoot <;> by_cases ingress : parent = tcIngress <;>
    by_cases shown : handle ≠ tcUnspec ∧ written = true <;> cases rest <;>
    simp [root, ingress, shown, different, nameRoot, nameParent, nameHandle, nameKind]

theorem tcReadCommonOpts_header (fits : KindFits parent written handle kind)
    (plain : PlainWord kind) (nonempty : kind ≠ []) (follows : KindTail tail rest)
    (parent_valid : ValidHandle parent)
    (handle_valid : handle ≠ tcUnspec → ValidHandle handle ∧ tcMin handle = 0) :
    tcReadCommonOpts (headerText parent written handle ++ (kind ++ tail)) =
      if parent = tcIngress ∧ kind ≠ nameIngress then .error .parentNotSpecified
      else .ok ⟨if handle ≠ tcUnspec ∧ written = true then handle
        else if kind = nameIngress then tcIngressHandle else tcUnspec,
        parent, some kind, rest⟩ := by
  have different : tcRoot ≠ tcIngress := by decide
  have specified : tcRoot ≠ tcUnspec ∧ tcIngress ≠ tcUnspec := by decide
  unfold tcReadCommonOpts
  rw [parseAttributes_header fits plain nonempty follows]
  generalize ht_eq : headerEntries parent written handle ++ [(nameKind, .string kind)] ++
    restEntries rest = ht
  obtain ⟨has_root, has_parent, has_handle, has_kind, has_rest⟩ :=
    lookup_header parent written handle kind rest ht_eq.symm
  have parent_read : readParent ht = .ok (if parent = tcIngress then tcUnspec else parent) := by
    unfold readParent
    rw [has_root, has_parent]
    by_cases root : parent = tcRoot
    · simp [root, different]
    · by_cases ingress : parent = tcIngress
      · simp [ingress, different.symm]
      · simp [root, ingress, getString, parseTcHandle_handleToStr parent_valid]
  have handle_read : readHandle ht =
      .ok (if handle ≠ tcUnspec ∧ written = true then handle else tcUnspec) := by
    unfold readHandle
    rw [has_handle]
    by_cases shown : handle ≠ tcUnspec ∧ written = true
    · obtain ⟨valid, min_zero⟩ := handle_valid shown.1
      simp [shown, getString, parseTcHandle_handleToStr valid, min_zero]
    · simp [shown]
  dsimp only
  rw [parent_read]
  dsimp only
  rw [handle_read]
  dsimp only
  unfold commonOpts
  rw [has_kind, has_rest]
  have rest_eq : Option.map getString (Option.map GVariant.string rest) = rest := by
    cases rest <;> rfl
  rw [rest_eq]
  have parent_specified := parent_valid.ne_unspec
  by_cases ingress : parent = tcIngress
  · by_cases is_ingress : kind = nameIngress
    · by_cases shown : handle ≠ tcUnspec ∧ written = true
      · simp [ingress, is_ingress, shown, getString, specified]
      · simp [ingress, is_ingress, shown, getString, specified]
    · simp [ingress, is_ingress, getString]
  · by_cases is_ingress : kind = nameIngress
    · by_cases shown : handle ≠ tcUnspec ∧ written = true
      · simp [ingress, is_ingress, shown, getString, parent_specified]
      · simp [ingress, is_ingress, shown, getString, parent_specified]
    · simp [ingress, is_ingress, getString, parent_specified]

variable {opts : CommonOpts}

theorem tcReadCommonOpts_ok {str : List Char} (read : tcReadCommonOpts str = .ok opts) :
    ∃ ht parent handle, parseWords tcObjectAttributeSpec str [] [] = .ok ht ∧
      readParent ht = .ok parent ∧ readHandle ht = .ok handle ∧
      commonOpts ht parent handle = .ok opts := by
  unfold tcReadCommonOpts parseAttributes parseVariantAttributes at read
  rw [← parseWords] at read
  cases parsed : parseWords tcObjectAttributeSpec str [] [] with
  | error error =>
    rw [parsed] at read
    cases read
  | ok ht =>
    rw [parsed] at read
    dsimp only at read
    cases parent_read : readParent ht with
    | error error =>
      rw [parent_read] at read
      cases read
    | ok parent =>
      rw [parent_read] at read
      dsimp only at read
      cases handle_read : readHandle ht with
      | error error =>
        rw [handle_read] at read
        cases read
      | ok handle =>
        rw [handle_read] at read
        exact ⟨ht, parent, handle, rfl, parent_read, handle_read, read⟩

theorem commonOpts_ok (made : commonOpts ht parent handle = .ok opts) :
    opts.kind = (lookupAttribute ht nameKind).map getString ∧
      opts.rest = (lookupAttribute ht []).map getString ∧ opts.parent ≠ tcUnspec ∧
      opts.parent = (if opts.kind = some nameIngress ∧ parent = tcUnspec then tcIngress
        else parent) ∧
      opts.handle = (if opts.kind = some nameIngress ∧ handle = tcUnspec then tcIngressHandle
        else handle) := by
  unfold commonOpts at made
  dsimp only at made
  generalize parent_eq : (if (lookupAttribute ht nameKind).map getString = some nameIngress ∧
    parent = tcUnspec then tcIngress else parent) = chosen at made
  by_cases specified : chosen = tcUnspec
  · rw [if_pos specified] at made
    cases made
  · rw [if_neg specified] at made
    obtain rfl := Except.ok.inj made
    exact ⟨rfl, rfl, specified, parent_eq.symm, rfl⟩

theorem lookup_of_begins {entries ht : Attributes} {name : List Char} {variant : GVariant}
    (absent : entries.contains name = false) (before : entries ++ [(name, variant)] <+: ht) :
    lookupAttribute ht name = some variant := by
  obtain ⟨later, rfl⟩ := before
  have none_found : entries.find? (fun entry => decide (entry.1 = name)) = none := by
    rw [find?_eq_none]
    intro entry mem
    have := any_eq_false.mp absent entry mem
    simpa using this
  simp [lookupAttribute, none_found]

theorem contains_of_begins {entries ht : Attributes} {name : List Char}
    (present : entries.contains name = true) (before : entries <+: ht) :
    ht.contains name = true := by
  obtain ⟨later, rfl⟩ := before
  unfold Attributes.contains at present ⊢
  rw [any_append, present, Bool.true_or]

theorem readParent_root {read : Nat} (root : ht.contains nameRoot = true)
    (ok : readParent ht = .ok read) : read = tcRoot ∧ lookupAttribute ht nameParent = none := by
  unfold readParent at ok
  rw [root] at ok
  cases found : lookupAttribute ht nameParent with
  | none =>
    rw [found] at ok
    exact ⟨by simpa using ok.symm, rfl⟩
  | some variant =>
    rw [found] at ok
    simp [tcRoot, tcUnspec] at ok

theorem readParent_invalid {read : Nat} {word : List Char}
    (found : lookupAttribute ht nameParent = some (.string word))
    (invalid : parseTcHandle word = none) : readParent ht ≠ .ok read := by
  unfold readParent
  rw [found]
  dsimp only [getString]
  rw [invalid]
  cases ht.contains nameRoot <;> simp [tcRoot, tcUnspec]

theorem readHandle_invalid {read : Nat} {word : List Char}
    (found : lookupAttribute ht nameHandle = some (.string word))
    (invalid : parseTcHandle word = none) : readHandle ht ≠ .ok read := by
  unfold readHandle
  rw [found]
  dsimp only [getString]
  rw [invalid]
  simp

theorem endWord_keyed_tail {ht final : Attributes} {s : NMVariantAttributeSpec}
    (complete : Complete kind = true) (no_blank : ' ' ∉ kind) (follows : KindTail tail rest)
    (found : findSpec tcObjectAttributeSpec ht (attributeUnescape none kind) = some s)
    (keyed : s.noValue = false) (typed : s.type = .string)
    (ended : endWord tcObjectAttributeSpec ht kind tail = .ok final) :
    ∃ word, parseTcHandle word = none ∧ ht ++ [(s.name, .string word)] <+: final := by
  cases follows with
  | none =>
    rw [endWord_missing complete no_blank found keyed] at ended
    cases ended
  | some word more plain nonempty ends no_root no_parent no_handle invalid =>
    refine ⟨word, invalid, ?_⟩
    rw [endWord_key complete no_blank found keyed, parseWords_complete plain.complete
      plain.no_blank, append_assoc, singleton_append,
      parseWords_end (by simp) ends] at ended
    have inserted : attributeEnd ' ' false tcObjectAttributeSpec ht (kind ++ ' ' :: word) more =
        .ok (.inserted (ht ++ [(s.name, .string word)])) := by
      simp [attributeEnd, findSeparator_complete_blank complete no_blank,
        attributeUnescape_complete complete, plain.unescape, found, keyed, insertAttribute,
        parseValue, typed, Except.map]
    unfold endWord at ended
    rw [inserted] at ended
    exact nextWord_extends ended

theorem tcReadCommonOpts_backslash (no_blank : ' ' ∉ kind) (backslash : '\\' ∈ kind)
    (follows : KindTail tail rest)
    (read : tcReadCommonOpts (headerText parent written handle ++ (kind ++ tail)) = .ok opts)
    (same_parent : opts.parent = parent) : opts.kind ≠ some kind := by
  have ends := follows.ends
  obtain ⟨ht, read_parent, read_handle, parsed, parent_ok, handle_ok, made⟩ :=
    tcReadCommonOpts_ok read
  obtain ⟨kind_eq, -, -, parent_eq, -⟩ := commonOpts_ok made
  rw [parseWords_headerText] at parsed
  obtain ⟨longer, later, ended, different, shape⟩ :=
    parseWords_backslash no_blank backslash ends parsed
  obtain ⟨has_root, has_parent, has_handle, has_kind, -⟩ :=
    contains_headerEntries parent written handle
  have object := findSpec_object (headerEntries parent written handle) (wordName longer later)
  -- A name that is an option has no blank.
  have option_shape : ∀ option, ' ' ∉ option → wordName longer later = option →
      longer = kind ∧ later = tail ∧ Complete kind = true := by
    intro option option_no_blank name_eq
    rcases shape with blank | shape
    · exact absurd (name_eq ▸ blank) option_no_blank
    · exact shape
  split at object
  · rename_i is_root
    rw [has_root, decide_eq_false_iff_not] at is_root
    rw [endWord_flag object rfl rfl rfl] at ended
    have root : ht.contains nameRoot = true :=
      contains_of_begins (by simp [Attributes.contains]) (nextWord_extends ended)
    have read_root := (readParent_root root parent_ok).1
    rw [read_root, if_neg (by simp [tcRoot, tcUnspec]), same_parent] at parent_eq
    exact absurd parent_eq is_root.1
  · split at object
    · rename_i is_parent
      obtain ⟨rfl, rfl, complete⟩ := option_shape nameParent (by decide) is_parent.2
      rw [wordName_complete complete no_blank] at object
      obtain ⟨word, invalid, before⟩ :=
        endWord_keyed_tail complete no_blank follows object rfl rfl ended
      exact absurd parent_ok (readParent_invalid (lookup_of_begins is_parent.1 before) invalid)
    · split at object
      · rename_i is_handle
        obtain ⟨rfl, rfl, complete⟩ := option_shape nameHandle (by decide) is_handle.2
        rw [wordName_complete complete no_blank] at object
        obtain ⟨word, invalid, before⟩ :=
          endWord_keyed_tail complete no_blank follows object rfl rfl ended
        exact absurd handle_ok (readHandle_invalid (lookup_of_begins is_handle.1 before) invalid)
      · rw [endWord_flag object rfl rfl rfl] at ended
        have found := lookup_of_begins has_kind (nextWord_extends ended)
        rw [kind_eq, found]
        intro same
        exact different (Option.some.inj same)

theorem tcReadCommonOpts_parent (follows : KindTail tail rest)
    (unwritten : parent = tcRoot ∨ parent = tcIngress) (opts : CommonOpts) :
    tcReadCommonOpts (headerText parent written handle ++ (nameParent ++ tail)) ≠ .ok opts := by
  intro read
  obtain ⟨ht, read_parent, read_handle, parsed, parent_ok, -, -⟩ := tcReadCommonOpts_ok read
  have ends := follows.ends
  have plain : PlainWord nameParent := by decide
  obtain ⟨-, has_parent, -⟩ := contains_headerEntries parent written handle
  have absent : (headerEntries parent written handle).contains nameParent = false := by
    rw [has_parent, decide_eq_false_iff_not]
    rintro ⟨no_root, no_ingress⟩
    rcases unwritten with root | ingress
    · exact no_root root
    · exact no_ingress ingress
  have found : findSpec tcObjectAttributeSpec (headerEntries parent written handle)
      (attributeUnescape none nameParent) = some ⟨nameParent, .string, false, false⟩ := by
    rw [plain.unescape, findSpec_object, absent]
    simp [nameParent, nameRoot]
  rw [parseWords_headerText, plain.parse _ _ (by decide) ends] at parsed
  obtain ⟨word, invalid, before⟩ :=
    endWord_keyed_tail plain.complete plain.no_blank follows found rfl rfl parsed
  exact absurd parent_ok (readParent_invalid (lookup_of_begins absent before) invalid)

end Header

/-- What is known of the options in front of a kind when the kind was read. -/
structure KindAfter (ht : Attributes) (kind : List Char) : Prop where
  root : kind = nameRoot → ht.contains nameRoot = true
  handle : kind = nameHandle → ht.contains nameHandle = true

theorem kindAfter_kept : KeptByInsertion tcObjectAttributeSpec fun ht =>
    ∀ variant, (nameKind, variant) ∈ ht → KindAfter ht (getString variant) := by
  intro ht name s value variant holds found same read entry mem
  have grows : ∀ {option : List Char}, ht.contains option = true →
      Attributes.contains (ht ++ [(s.name, variant)]) option = true :=
    fun present => contains_of_begins present (prefix_append _ _)
  rcases mem_append.mp mem with mem | mem
  · obtain ⟨root, handle⟩ := holds entry mem
    exact ⟨fun is_root => grows (root is_root), fun is_handle => grows (handle is_handle)⟩
  · obtain ⟨is_kind, rfl⟩ : nameKind = s.name ∧ entry = variant := by simpa using mem
    rw [findSpec_object] at found
    split at found
    · obtain rfl := Option.some.inj found
      exact absurd is_kind (by decide)
    · rename_i no_root
      split at found
      · obtain rfl := Option.some.inj found
        exact absurd is_kind (by decide)
      · split at found
        · obtain rfl := Option.some.inj found
          exact absurd is_kind (by decide)
        · rename_i no_handle
          split at found
          · obtain rfl := Option.some.inj found
            obtain rfl := same rfl rfl
            obtain rfl : GVariant.string value = entry := by simpa [parseValue] using read
            refine ⟨?_, ?_⟩
            · intro is_root
              refine grows (Bool.eq_true_of_not_eq_false fun absent => ?_)
              exact no_root ⟨absent, is_root⟩
            · intro is_handle
              refine grows (Bool.eq_true_of_not_eq_false fun absent => ?_)
              exact no_handle ⟨absent, is_handle⟩
          · split at found
            · obtain rfl := Option.some.inj found
              exact absurd is_kind (by decide)
            · cases found

/-- What is known of the options of an object. -/
structure HeaderRead (parent handle : Nat) (kind : List Char) : Prop where
  nonempty : kind ≠ []
  no_blank : ' ' ∉ kind
  parent_valid : ValidHandle parent
  handle_valid : handle ≠ tcUnspec → ValidHandle handle ∧ tcMin handle = 0
  root_parent : kind = nameRoot → parent = tcRoot
  named_handle : kind = nameHandle → handle ≠ tcUnspec
  ingress_handle : kind = nameIngress → handle ≠ tcUnspec

theorem readParent_ok {parent : Nat} (read : readParent ht = .ok parent) :
    parent = tcUnspec ∨ ValidHandle parent := by
  unfold readParent at read
  dsimp only at read
  split at read
  · obtain rfl := Except.ok.inj read
    cases ht.contains nameRoot with
    | true => exact Or.inr validHandle_root
    | false => exact Or.inl rfl
  · rename_i variant found
    by_cases specified : (if ht.contains nameRoot = true then tcRoot else tcUnspec) ≠ tcUnspec
    · rw [if_pos specified] at read
      cases read
    · rw [if_neg specified] at read
      cases parsed : parseTcHandle (getString variant) with
      | none =>
        rw [parsed] at read
        cases read
      | some handle =>
        rw [parsed] at read
        obtain rfl := Except.ok.inj read
        exact Or.inr (parseTcHandle_some parsed).1

theorem readHandle_ok (read : readHandle ht = .ok handle) :
    (handle = tcUnspec ∧ lookupAttribute ht nameHandle = none) ∨
      (ValidHandle handle ∧ tcMin handle = 0) := by
  unfold readHandle at read
  split at read
  · rename_i absent
    obtain rfl := Except.ok.inj read
    exact Or.inl ⟨rfl, absent⟩
  · split at read
    · cases read
    · rename_i variant found parsed_handle parsed
      split at read
      · cases read
      · rename_i min_zero
        obtain rfl := Except.ok.inj read
        exact Or.inr ⟨(parseTcHandle_some parsed).1, by simpa using min_zero⟩

theorem lookup_eq_none {name : List Char} (absent : lookupAttribute ht name = none) :
    ht.contains name = false := by
  unfold lookupAttribute at absent
  rw [Option.map_eq_none_iff, find?_eq_none] at absent
  unfold Attributes.contains
  rw [any_eq_false]
  exact absent

theorem checkKind_ok {kind : Option (List Char)} {checked : List Char}
    (passed : checkKind kind = .ok checked) : kind = some checked ∧ checked ≠ [] ∧ ' ' ∉ checked := by
  unfold checkKind at passed
  split at passed
  · cases passed
  · split at passed
    · cases passed
    · rename_i nonempty
      split at passed
      · cases passed
      · rename_i no_blank
        obtain rfl := Except.ok.inj passed
        exact ⟨rfl, nonempty, fun mem => no_blank (Or.inl mem)⟩

theorem tcReadCommonOpts_headerRead {str kind : List Char} {opts : CommonOpts}
    (read : tcReadCommonOpts str = .ok opts) (checked : checkKind opts.kind = .ok kind) :
    HeaderRead opts.parent opts.handle kind := by
  obtain ⟨ht, read_parent, read_handle, parsed, parent_ok, handle_ok, made⟩ :=
    tcReadCommonOpts_ok read
  obtain ⟨kind_eq, -, specified, parent_eq, handle_eq⟩ := commonOpts_ok made
  obtain ⟨is_kind, nonempty, no_blank⟩ := checkKind_ok checked
  have after : KindAfter ht kind := by
    have holds := parseWords_invariant kindAfter_kept (by simp) parsed
    rw [is_kind] at kind_eq
    cases found : lookupAttribute ht nameKind with
    | none =>
      rw [found] at kind_eq
      cases kind_eq
    | some variant =>
      rw [found] at kind_eq
      obtain rfl : kind = getString variant := by simpa using kind_eq
      unfold lookupAttribute at found
      obtain ⟨entry, entry_found, rfl⟩ := Option.map_eq_some_iff.mp found
      have name_eq : entry.1 = nameKind := by simpa using find?_some entry_found
      have mem := List.mem_of_find?_eq_some entry_found
      rw [show entry = (nameKind, entry.2) by rw [← name_eq]] at mem
      exact holds entry.2 mem
  have unspec_ne : tcUnspec ≠ tcIngressHandle := by decide
  refine ⟨nonempty, no_blank, ?_, ?_, ?_, ?_, ?_⟩
  · rw [parent_eq] at specified ⊢
    split
    · exact validHandle_ingress
    · rename_i not_ingress
      rw [if_neg not_ingress] at specified
      rcases readParent_ok parent_ok with unspec | valid
      · exact absurd unspec specified
      · exact valid
  · intro has_handle
    rw [handle_eq] at has_handle ⊢
    split
    · exact ⟨validHandle_ingressHandle, by decide⟩
    · rename_i not_ingress
      rw [if_neg not_ingress] at has_handle
      rcases readHandle_ok handle_ok with ⟨unspec, -⟩ | valid
      · exact absurd unspec has_handle
      · exact valid
  · intro is_root
    have read_root := (readParent_root (after.root is_root) parent_ok).1
    rw [parent_eq, read_root, if_neg (by simp [tcRoot, tcUnspec])]
  · intro is_handle unspec
    rw [handle_eq] at unspec
    split at unspec
    · exact unspec_ne unspec.symm
    · rcases readHandle_ok handle_ok with ⟨-, absent⟩ | ⟨valid, -⟩
      · have present := after.handle is_handle
        rw [lookup_eq_none absent] at present
        cases present
      · exact valid.ne_unspec unspec
  · intro is_ingress unspec
    rw [handle_eq, is_kind, is_ingress] at unspec
    split at unspec
    · exact unspec_ne unspec.symm
    · rename_i has_handle
      exact has_handle ⟨rfl, unspec⟩

structure HeaderKept (parent : Nat) (written : Bool) (handle : Nat) (kind : List Char) : Prop where
  no_backslash : '\\' ∉ kind
  ingress_parent : parent = tcIngress → kind = nameIngress
  parent_kind : kind = nameParent → parent ≠ tcRoot
  /-- The kind "ingress" has its default handle, unless the handle is written. -/
  ingress_handle : kind = nameIngress → written = true ∨ handle = tcIngressHandle

section Written

variable {parent handle : Nat} {written : Bool} {kind tail : List Char} {rest : Option (List Char)}

section

variable (read : HeaderRead parent handle kind)

include read

theorem HeaderRead.plain (no_backslash : '\\' ∉ kind) : PlainWord kind := by
  intro c mem
  refine ⟨?_, ?_⟩
  · rintro rfl
    exact no_backslash mem
  · rintro rfl
    exact read.no_blank mem

theorem HeaderRead.fits (shown : kind ≠ nameIngress → written = true)
    (has_parent : kind = nameParent → parent ≠ tcRoot ∧ parent ≠ tcIngress) :
    KindFits parent written handle kind where
  root := read.root_parent
  parent := has_parent
  handle := by
    intro is_handle
    refine ⟨read.named_handle is_handle, shown ?_⟩
    rw [is_handle]
    decide

theorem tcReadCommonOpts_kept (shown : kind ≠ nameIngress → written = true)
    (follows : KindTail tail rest) (kept : HeaderKept parent written handle kind) :
    tcReadCommonOpts (headerText parent written handle ++ (kind ++ tail)) =
      .ok ⟨handle, parent, some kind, rest⟩ := by
  have fits : KindFits parent written handle kind := by
    refine read.fits shown ?_
    intro is_parent
    refine ⟨kept.parent_kind is_parent, ?_⟩
    intro ingress
    have := kept.ingress_parent ingress
    rw [is_parent] at this
    exact absurd this (by decide)
  rw [tcReadCommonOpts_header fits (read.plain kept.no_backslash) read.nonempty follows
    read.parent_valid read.handle_valid, if_neg]
  · have handle_eq : (if handle ≠ tcUnspec ∧ written = true then handle
        else if kind = nameIngress then tcIngressHandle else tcUnspec) = handle := by
      by_cases is_ingress : kind = nameIngress
      · have has_handle := read.ingress_handle is_ingress
        rcases kept.ingress_handle is_ingress with is_written | default
        · rw [if_pos ⟨has_handle, is_written⟩]
        · rw [if_pos is_ingress, default, ite_self]
      · by_cases unspec : handle = tcUnspec
        · simp [unspec, is_ingress]
        · rw [if_pos ⟨unspec, shown is_ingress⟩]
    rw [handle_eq]
  · rintro ⟨ingress, other_kind⟩
    exact other_kind (kept.ingress_parent ingress)

theorem headerKept_of_read (shown : kind ≠ nameIngress → written = true)
    (follows : KindTail tail rest) {opts : CommonOpts}
    (again : tcReadCommonOpts (headerText parent written handle ++ (kind ++ tail)) = .ok opts)
    (same_kind : opts.kind = some kind) (same_parent : opts.parent = parent)
    (same_handle : opts.handle = handle) : HeaderKept parent written handle kind := by
  have no_backslash : '\\' ∉ kind := by
    intro backslash
    exact tcReadCommonOpts_backslash read.no_blank backslash follows again same_parent same_kind
  have has_parent : kind = nameParent → parent ≠ tcRoot ∧ parent ≠ tcIngress := by
    rintro rfl
    refine ⟨?_, ?_⟩
    · intro root
      exact tcReadCommonOpts_parent follows (Or.inl root) opts again
    · intro ingress
      exact tcReadCommonOpts_parent follows (Or.inr ingress) opts again
  rw [tcReadCommonOpts_header (read.fits shown has_parent) (read.plain no_backslash) read.nonempty
    follows read.parent_valid read.handle_valid] at again
  by_cases hidden : parent = tcIngress ∧ kind ≠ nameIngress
  · rw [if_pos hidden] at again
    cases again
  · rw [if_neg hidden] at again
    obtain rfl := Except.ok.inj again
    refine ⟨no_backslash, ?_, fun is_parent => (has_parent is_parent).1, ?_⟩
    · intro ingress
      by_contra other_kind
      exact hidden ⟨ingress, other_kind⟩
    · intro is_ingress
      cases written with
      | true => exact Or.inl rfl
      | false =>
        right
        simpa [is_ingress] using same_handle.symm

end

end Written

end NetworkManager.TrafficControl
