import NetworkManager.Core.TrafficControl

/-!
# Words that blanks separate

How the reader of attributes goes on when a blank ends an attribute and separates its name from its
value as well: by words, by pairs of words, and by all that remains.
-/

namespace NetworkManager.TrafficControl

open Ascii List VariantAttributes

section

variable (spec : List NMVariantAttributeSpec)

/-- The loop of the reader for words. -/
def parseWords (text : List Char) (ht : Attributes) (word : List Char) :
    Except ParseError Attributes :=
  parseLoop ' ' ' ' false spec text ht word

/-- How the reader goes on after an attribute that it inserted. -/
def nextWord (ht : Attributes) :
    List Char → Except ParseError Attributes
  | [] => .ok ht
  | _ :: rest => parseWords spec rest ht []

def endWord (ht : Attributes) (word rest : List Char) :
    Except ParseError Attributes :=
  match attributeEnd ' ' false spec ht word rest with
  | .error error => .error error
  | .ok .next =>
    match rest with
    | [] => .ok ht
    | c :: rest => parseWords spec rest ht (word ++ [c])
  | .ok (.inserted ht) => nextWord spec ht rest
  | .ok (.consumed ht) => .ok ht

end

/-- A text that a word may be followed by. -/
def EndsWord (rest : List Char) : Prop := ∀ c, rest.head? = some c → c = ' '

theorem endsWord_nil : EndsWord [] := by
  intro c impossible
  cases impossible

theorem endsWord_blank (rest : List Char) : EndsWord (' ' :: rest) := by
  intro c same
  exact (Option.some.inj same).symm

section Words

variable {spec : List NMVariantAttributeSpec} {ht : Attributes} {word rest : List Char}

theorem parseWords_end (nonempty : word ≠ []) (ends : EndsWord rest) :
    parseWords spec rest ht word = endWord spec ht word rest := by
  cases rest with
  | nil =>
    rw [parseWords, parseLoop, if_neg nonempty, endWord]
    cases attributeEnd ' ' false spec ht word [] with
    | error error => rfl
    | ok result => cases result <;> rfl
  | cons c rest =>
    obtain rfl := ends c rfl
    rw [parseWords, parseLoop.eq_def]
    dsimp only
    rw [if_neg (by decide), if_pos rfl, if_neg nonempty, endWord]
    cases attributeEnd ' ' false spec ht word (' ' :: rest) with
    | error error => rfl
    | ok result => cases result <;> rfl

end Words

/-- Every backslash is followed by a character of the word. -/
def Complete : List Char → Bool
  | [] => true
  | c :: word =>
    if c = '\\' then
      match word with
      | [] => false
      | _ :: word => Complete word
    else Complete word

theorem complete_plain {c : Char} (no_backslash : c ≠ '\\') (word : List Char) :
    Complete (c :: word) = Complete word := by
  rw [Complete.eq_def]
  simp [no_backslash]

/-- The name that the reader takes from a word. -/
def wordName (word rest : List Char) : List Char :=
  attributeUnescape (if (findSeparator ' ' word).2.isSome then some ' ' else rest.head?)
    (findSeparator ' ' word).1

section Complete

variable {spec : List NMVariantAttributeSpec} {ht : Attributes} {word rest : List Char}

section

variable (complete : Complete word = true)

include complete

theorem parseWords_complete (no_blank : ' ' ∉ word) (rest : List Char) (before : List Char) :
    parseWords spec (word ++ rest) ht before = parseWords spec rest ht (before ++ word) := by
  fun_induction Complete word generalizing before with
  | case1 => simp
  | case2 => cases complete
  | case3 escaped word ih =>
    have tail_no_blank : ' ' ∉ word := by
      intro mem
      exact no_blank (by simp [mem])
    have next := ih complete tail_no_blank (before ++ ['\\', escaped])
    simpa [parseWords, parseLoop] using next
  | case4 c word no_backslash ih =>
    have different : c ≠ ' ' := fun same => no_blank (by simp [same])
    have tail_no_blank : ' ' ∉ word := fun mem => no_blank (by simp [mem])
    rw [cons_append, parseWords, parseLoop_plain no_backslash different, ← parseWords,
      ih complete tail_no_blank]
    simp

theorem findSeparator_complete (no_blank : ' ' ∉ word) (rest : List Char) :
    findSeparator ' ' (word ++ rest) =
      (word ++ (findSeparator ' ' rest).1, (findSeparator ' ' rest).2) := by
  fun_induction Complete word with
  | case1 => rfl
  | case2 => cases complete
  | case3 escaped word ih =>
    have different : escaped ≠ ' ' := fun same => no_blank (by simp [same])
    have tail_no_blank : ' ' ∉ word := fun mem => no_blank (by simp [mem])
    rw [cons_append, cons_append, findSeparator, if_pos rfl, if_neg different,
      ih complete tail_no_blank]
    rfl
  | case4 c word no_backslash ih =>
    have different : c ≠ ' ' := fun same => no_blank (by simp [same])
    have tail_no_blank : ' ' ∉ word := fun mem => no_blank (by simp [mem])
    rw [cons_append, findSeparator_plain no_backslash different, ih complete tail_no_blank]
    rfl

theorem attributeUnescape_complete_append (following : Option Char) (rest : List Char) :
    attributeUnescape following (word ++ rest) =
      attributeUnescape following word ++ attributeUnescape following rest := by
  fun_induction Complete word with
  | case1 => rfl
  | case2 => cases complete
  | case3 escaped word ih =>
    rw [cons_append, cons_append, attributeUnescape, if_pos rfl, attributeUnescape,
      if_pos rfl, ih complete, cons_append]
  | case4 c word no_backslash ih =>
    rw [cons_append, attributeUnescape_plain no_backslash,
      attributeUnescape_plain no_backslash, ih complete, cons_append]

theorem length_attributeUnescape (following : Option Char) :
    (attributeUnescape following word).length ≤ word.length ∧
      ('\\' ∈ word → (attributeUnescape following word).length < word.length) := by
  fun_induction Complete word with
  | case1 => simp [attributeUnescape]
  | case2 => cases complete
  | case3 escaped word ih =>
    have shorter := (ih complete).1
    rw [attributeUnescape, if_pos rfl]
    simp only [length_cons]
    omega
  | case4 c word no_backslash ih =>
    obtain ⟨shorter, strictly⟩ := ih complete
    rw [attributeUnescape_plain no_backslash]
    simp only [length_cons]
    refine ⟨by omega, ?_⟩
    intro mem
    have in_word : '\\' ∈ word := by
      rcases mem_cons.mp mem with same | mem
      · exact absurd same.symm no_backslash
      · exact mem
    have := strictly in_word
    omega

end

theorem not_complete (incomplete : Complete word = false) :
    ∃ front, word = front ++ ['\\'] ∧ Complete front = true := by
  fun_induction Complete word with
  | case1 => cases incomplete
  | case2 => exact ⟨[], rfl, rfl⟩
  | case3 escaped word ih =>
    obtain ⟨front, word_eq, complete⟩ := ih incomplete
    exact ⟨'\\' :: escaped :: front, by simp [word_eq], by simpa [Complete] using complete⟩
  | case4 c word no_backslash ih =>
    obtain ⟨front, word_eq, complete⟩ := ih incomplete
    exact ⟨c :: front, by simp [word_eq], by rwa [complete_plain no_backslash]⟩

section

variable (complete : Complete word = true)

include complete

theorem attributeUnescape_complete (following : Option Char) :
    attributeUnescape following word = attributeUnescape none word := by
  fun_induction Complete word with
  | case1 => rfl
  | case2 => cases complete
  | case3 escaped word ih =>
    rw [attributeUnescape, if_pos rfl, attributeUnescape, if_pos rfl, ih complete]
  | case4 c word no_backslash ih =>
    rw [attributeUnescape_plain no_backslash, attributeUnescape_plain no_backslash, ih complete]

theorem findSeparator_complete_none (no_blank : ' ' ∉ word) :
    findSeparator ' ' word = (word, none) := by
  have separator := findSeparator_complete complete no_blank []
  rwa [append_nil, findSeparator, append_nil] at separator

theorem findSeparator_complete_blank (no_blank : ' ' ∉ word) (rest : List Char) :
    findSeparator ' ' (word ++ ' ' :: rest) = (word, some rest) := by
  have blank : findSeparator ' ' (' ' :: rest) = ([], some rest) := by
    rw [findSeparator.eq_def]
    rfl
  rw [findSeparator_complete complete no_blank, blank, append_nil]

theorem wordName_complete (no_blank : ' ' ∉ word) (rest : List Char) :
    wordName word rest = attributeUnescape none word := by
  rw [wordName, findSeparator_complete_none complete no_blank]
  exact attributeUnescape_complete complete _

end

end Complete

section Insertion

variable {spec : List NMVariantAttributeSpec} {ht : Attributes} {word rest : List Char}
  {s : NMVariantAttributeSpec} {variant : GVariant}

theorem endWord_flag (found : findSpec spec ht (wordName word rest) = some s)
    (alone : s.noValue = true) (stops : s.consumesRest = false)
    (value : parseValue s (wordName word rest) = .ok variant) :
    endWord spec ht word rest = nextWord spec (ht ++ [(s.name, variant)]) rest := by
  have ended : attributeEnd ' ' false spec ht word rest =
      .ok (.inserted (ht ++ [(s.name, variant)])) := by
    unfold wordName at found value
    simp [attributeEnd, found, alone, stops, insertAttribute, value, Except.map]
  unfold endWord
  rw [ended]

theorem endWord_consume (found : findSpec spec ht (wordName word rest) = some s)
    (alone : s.noValue = true) (consumes : s.consumesRest = true) (typed : s.type = .string) :
    endWord spec ht word rest = .ok (ht ++ [(s.name, .string (word ++ rest))]) := by
  have ended : attributeEnd ' ' false spec ht word rest =
      .ok (.consumed (ht ++ [(s.name, .string (word ++ rest))])) := by
    unfold wordName at found
    simp [attributeEnd, found, alone, consumes, insertAttribute, parseValue, typed, Except.map]
  unfold endWord
  rw [ended]

theorem endWord_unknown (unknown : findSpec spec ht (wordName word rest) = none) :
    endWord spec ht word rest = .error (.unknownAttribute (wordName word rest)) := by
  unfold wordName at unknown ⊢
  simp [endWord, attributeEnd, unknown]

variable (complete : Complete word = true) (no_blank : ' ' ∉ word)
  (found : findSpec spec ht (attributeUnescape none word) = some s) (keyed : s.noValue = false)

include complete no_blank found keyed

theorem endWord_missing :
    endWord spec ht word [] = .error (.missingSeparator ' ' (attributeUnescape none word)) := by
  simp [endWord, attributeEnd, findSeparator_complete_none complete no_blank, found, keyed]

theorem endWord_key (rest : List Char) :
    endWord spec ht word (' ' :: rest) = parseWords spec rest ht (word ++ [' ']) := by
  simp [endWord, attributeEnd, findSeparator_complete_none complete no_blank,
    attributeUnescape_complete complete, found, keyed]

theorem parseWords_keyed (nonempty : word ≠ []) {value : List Char}
    (read : parseValue s value = .ok variant) (ends : EndsWord rest) :
    parseWords spec (word ++ ' ' :: (attributeEscape ' ' ' ' value ++ rest)) ht [] =
      nextWord spec (ht ++ [(s.name, variant)]) rest := by
  rw [parseWords_complete complete no_blank, nil_append, parseWords_end nonempty (endsWord_blank _),
    endWord_key complete no_blank found keyed, parseWords, parseLoop_escape, ← parseWords,
    append_assoc, singleton_append, parseWords_end (by simp) ends]
  simp [endWord, attributeEnd, findSeparator_complete_blank complete no_blank,
    attributeUnescape_complete complete, attributeUnescape_escape, found, keyed, insertAttribute,
    read, Except.map]

end Insertion

/-- A word without blanks and backslashes. -/
def PlainWord (word : List Char) : Prop := ∀ c ∈ word, c ≠ '\\' ∧ c ≠ ' '

instance (word : List Char) : Decidable (PlainWord word) :=
  List.decidableBAll (fun c => c ≠ '\\' ∧ c ≠ ' ') word

namespace PlainWord

variable {word : List Char} (plain : PlainWord word)

include plain

theorem no_blank : ' ' ∉ word := fun mem => (plain ' ' mem).2 rfl

theorem complete : Complete word = true := by
  fun_induction Complete word with
  | case1 => rfl
  | case2 => exact absurd rfl (plain '\\' (by simp)).1
  | case3 escaped word ih => exact absurd rfl (plain '\\' (by simp)).1
  | case4 c word no_backslash ih => exact ih fun other mem => plain other (by simp [mem])

theorem unescape (following : Option Char) : attributeUnescape following word = word := by
  induction word with
  | nil => rfl
  | cons c word ih =>
    obtain ⟨⟨no_backslash, -⟩, plain⟩ := forall_mem_cons.mp plain
    rw [attributeUnescape_plain no_backslash, ih plain]

theorem escape : attributeEscape ' ' ' ' word = word := by
  induction word with
  | nil => rfl
  | cons c word ih =>
    obtain ⟨⟨no_backslash, no_blank⟩, plain⟩ := forall_mem_cons.mp plain
    rw [attributeEscape, if_neg (by simp [no_backslash, no_blank]), ih plain]

theorem name (rest : List Char) : wordName word rest = word := by
  rw [wordName_complete plain.complete plain.no_blank, plain.unescape]

theorem parse (spec : List NMVariantAttributeSpec) (ht : Attributes) (nonempty : word ≠ [])
    {rest : List Char} (ends : EndsWord rest) :
    parseWords spec (word ++ rest) ht [] = endWord spec ht word rest := by
  rw [parseWords_complete plain.complete plain.no_blank, nil_append, parseWords_end nonempty ends]

end PlainWord

section Invariant

variable {spec : List NMVariantAttributeSpec} {ht final : Attributes} {word rest text : List Char}

/-- What one insertion by the reader keeps. -/
def KeptByInsertion (spec : List NMVariantAttributeSpec) (invariant : Attributes → Prop) : Prop :=
  ∀ ht name s value variant, invariant ht → findSpec spec ht name = some s →
    (s.noValue = true → s.consumesRest = false → value = name) →
    parseValue s value = .ok variant → invariant (ht ++ [(s.name, variant)])

theorem attributeEnd_invariant {invariant : Attributes → Prop}
    (kept : KeptByInsertion spec invariant) (holds : invariant ht)
    {result : AttributeEnd} (ended : attributeEnd ' ' false spec ht word rest = .ok result) :
    match result with
    | .next => True
    | .inserted ht | .consumed ht => invariant ht := by
  have insertion : ∀ {name value : List Char} {s : NMVariantAttributeSpec} {ht' : Attributes},
      findSpec spec ht name = some s →
      (s.noValue = true → s.consumesRest = false → value = name) →
      insertAttribute ht s value = .ok ht' → invariant ht' := by
    intro name value s ht' found same inserted
    unfold insertAttribute at inserted
    split at inserted
    · cases inserted
    · rename_i variant read
      obtain rfl : ht ++ [(s.name, variant)] = ht' := by simpa using inserted
      exact kept ht name s value variant holds found same read
  unfold attributeEnd at ended
  dsimp only at ended
  split at ended
  · cases ended
  · rename_i s found
    split at ended
    · rename_i alone
      split at ended
      · rename_i consumes
        cases inserted : insertAttribute ht s (word ++ rest) with
        | error error =>
          rw [inserted] at ended
          cases ended
        | ok ht' =>
          rw [inserted] at ended
          obtain rfl : AttributeEnd.consumed ht' = result := by simpa [Except.map] using ended
          exact insertion found (fun _ stops => by simp [stops] at consumes) inserted
      · generalize named : attributeUnescape _ _ = name at ended found
        cases inserted : insertAttribute ht s name with
        | error error =>
          rw [inserted] at ended
          cases ended
        | ok ht' =>
          rw [inserted] at ended
          obtain rfl : AttributeEnd.inserted ht' = result := by simpa [Except.map] using ended
          exact insertion found (fun _ _ => rfl) inserted
    · rename_i keyed
      split at ended
      · split at ended
        · cases ended
        · obtain rfl : AttributeEnd.next = result := by simpa using ended
          trivial
      · rename_i after split_eq
        cases inserted : insertAttribute ht s (attributeUnescape rest.head? after) with
        | error error =>
          rw [inserted] at ended
          cases ended
        | ok ht' =>
          rw [inserted] at ended
          obtain rfl : AttributeEnd.inserted ht' = result := by simpa [Except.map] using ended
          exact insertion found (fun alone => absurd alone keyed) inserted

theorem parseWords_invariant {invariant : Attributes → Prop}
    (kept : KeptByInsertion spec invariant) (holds : invariant ht)
    (read : parseWords spec text ht word = .ok final) : invariant final := by
  unfold parseWords at read
  fun_induction parseLoop ' ' ' ' false spec text ht word with
  | case1 ht =>
    obtain rfl : ht = final := by simpa using read
    exact holds
  | case2 => cases read
  | case3 ht word nonempty ended =>
    obtain rfl : ht = final := by simpa using read
    exact holds
  | case4 ht word nonempty inserted ended =>
    obtain rfl : inserted = final := by simpa using read
    exact attributeEnd_invariant kept holds ended
  | case5 ht word nonempty inserted ended =>
    obtain rfl : inserted = final := by simpa using read
    exact attributeEnd_invariant kept holds ended
  | case6 => cases read
  | case7 ht word c rest ih => exact ih holds read
  | case8 rest ht no_backslash ih => exact ih holds read
  | case9 => cases read
  | case10 rest ht word nonempty no_backslash ended ih => exact ih holds read
  | case11 rest ht word nonempty inserted no_backslash ended ih =>
    exact ih (attributeEnd_invariant kept holds ended) read
  | case12 rest ht word nonempty inserted no_backslash ended =>
    obtain rfl : inserted = final := by simpa using read
    exact attributeEnd_invariant kept holds ended
  | case13 c rest ht word no_backslash no_blank ih => exact ih holds read

theorem parseWords_extends (read : parseWords spec text ht word = .ok final) : ht <+: final := by
  refine parseWords_invariant ?_ (prefix_refl ht) read
  intro earlier name s value variant holds _ _ _
  exact holds.trans (prefix_append _ _)

end Invariant

section Backslash

variable {spec : List NMVariantAttributeSpec} {ht final : Attributes} {word rest text : List Char}

theorem parseWords_reaches_end (nonempty : word ≠ [])
    (read : parseWords spec text ht word = .ok final) :
    ∃ more rest, text = more ++ rest ∧ endWord spec ht (word ++ more) rest = .ok final := by
  fun_induction Complete text generalizing word with
  | case1 =>
    rw [parseWords_end nonempty endsWord_nil] at read
    exact ⟨[], [], rfl, by simpa using read⟩
  | case2 => simp [parseWords, parseLoop] at read
  | case3 escaped text ih =>
    have next : parseWords spec text ht (word ++ ['\\', escaped]) = .ok final := by
      simpa [parseWords, parseLoop] using read
    obtain ⟨more, rest, text_eq, ended⟩ := ih (by simp) next
    exact ⟨'\\' :: escaped :: more, rest, by simp [text_eq], by simpa using ended⟩
  | case4 c text no_backslash ih =>
    by_cases blank : c = ' '
    · rw [blank, parseWords_end nonempty (endsWord_blank text)] at read
      exact ⟨[], ' ' :: text, by simp [blank], by simpa using read⟩
    · rw [parseWords, parseLoop_plain no_backslash blank, ← parseWords] at read
      obtain ⟨more, rest, text_eq, ended⟩ := ih (by simp) read
      exact ⟨c :: more, rest, by simp [text_eq], by simpa using ended⟩

theorem parseWords_backslash (no_blank : ' ' ∉ word) (backslash : '\\' ∈ word)
    (ends : EndsWord rest) (read : parseWords spec (word ++ rest) ht [] = .ok final) :
    ∃ longer later, endWord spec ht longer later = .ok final ∧ wordName longer later ≠ word ∧
      (' ' ∈ wordName longer later ∨ longer = word ∧ later = rest ∧ Complete word = true) := by
  have nonempty : word ≠ [] := ne_nil_of_mem backslash
  cases complete : Complete word with
  | true =>
    rw [parseWords_complete complete no_blank, nil_append, parseWords_end nonempty ends] at read
    refine ⟨word, rest, read, ?_, Or.inr ⟨rfl, rfl, rfl⟩⟩
    have shorter := (length_attributeUnescape complete none).2 backslash
    intro same
    rw [wordName_complete complete no_blank] at same
    rw [same] at shorter
    omega
  | false =>
    -- The backslash at the end takes the blank, and the word goes on.
    obtain ⟨front, rfl, front_complete⟩ := not_complete complete
    have front_no_blank : ' ' ∉ front := fun mem => no_blank (mem_append_left _ mem)
    rw [append_assoc, parseWords_complete front_complete front_no_blank, nil_append] at read
    cases rest with
    | nil => simp [parseWords, parseLoop] at read
    | cons c rest =>
      obtain rfl := ends c rfl
      have next : parseWords spec rest ht (front ++ ['\\', ' ']) = .ok final := by
        simpa [parseWords, parseLoop] using read
      obtain ⟨more, later, -, ended⟩ := parseWords_reaches_end (by simp) next
      have separator : findSeparator ' ' (front ++ ['\\', ' '] ++ more) =
          (front ++ ['\\'], some more) := by
        rw [append_assoc, findSeparator_complete front_complete front_no_blank]
        rfl
      have name_eq : wordName (front ++ ['\\', ' '] ++ more) later =
          attributeUnescape (some ' ') front ++ [' '] := by
        rw [wordName, separator]
        exact attributeUnescape_complete_append front_complete _ _
      have blank : ' ' ∈ wordName (front ++ ['\\', ' '] ++ more) later := by
        rw [name_eq]
        simp
      exact ⟨_, later, ended, fun same => no_blank (same ▸ blank), Or.inl blank⟩

theorem nextWord_extends (read : nextWord spec ht rest = .ok final) : ht <+: final := by
  cases rest with
  | nil =>
    obtain rfl : ht = final := by simpa [nextWord] using read
    exact prefix_refl ht
  | cons c rest => exact parseWords_extends read

end Backslash

end NetworkManager.TrafficControl
