import NetworkManager.Core.Ascii

/-!
# Lists of device specs

A list of device specs is one text, with a comma or a semicolon between the specs.  `matchSpecJoin`
writes such a text, and `matchSpecSplit` reads it.  The reader counts the white space at the end of a
spec in order to leave it out, but it goes on counting after other characters.
-/

namespace NetworkManager.MatchSpec

open Ascii List

/-- What a backslash with a character after it stands for. -/
def splitEscape (c : Char) : List Char :=
  if c = 's' then [' ']
  else if c = 'n' then ['\n']
  else if c = 't' then ['\t']
  else if c = 'r' then ['\r']
  else if c = '\\' then ['\\']
  else if c = ',' ∨ c = ';' then [c]
  else ['\\', c]

/-- The characters between `q0` and `q` become a piece, without the white space that was counted. -/
def addPiece (piece : List Char) (trailingWs : Nat) : List (List Char) :=
  if trailingWs < piece.length then [piece.take (piece.length - trailingWs)] else []

/-- The loop of `nm_match_spec_split`, with the characters between `q0` and `q` and with
`trailing_ws`. -/
def splitLoop (piece : List Char) (trailingWs : Nat) : List Char → List (List Char)
  | [] => addPiece piece trailingWs
  | ['\\'] => addPiece piece trailingWs
  | '\\' :: c :: p => splitLoop (piece ++ splitEscape c) 0 p
  | c :: p =>
    if isSpace c then splitLoop (piece ++ [c]) (trailingWs + 1) p
    else if c = ',' ∨ c = ';' then
      addPiece piece trailingWs ++ splitLoop [] 0 (skipLeadingSpaces p)
    else splitLoop (piece ++ [c]) trailingWs p
termination_by p => p.length
decreasing_by
  · simp only [List.length_cons]; omega
  · exact Nat.lt_succ_self _
  · exact Nat.lt_succ_of_le (List.dropWhile_suffix _).length_le
  · exact Nat.lt_succ_self _

/-- `nm_match_spec_split`. -/
def matchSpecSplit (value : List Char) : List (List Char) :=
  splitLoop [] 0 (skipLeadingSpaces value)

/-- The letter that is written after a backslash. -/
def escapeLetter (c : Char) : Char :=
  if c = ' ' then 's' else if c = '\t' then 't' else if c = '\n' then 'n'
  else if c = '\r' then 'r' else c

def alwaysEscaped (c : Char) : Bool := c ∈ ['\n', '\r', '\\', ',', ';']

/-- The white space that is escaped at the ends of a spec. -/
def isBlank (c : Char) : Bool := c ∈ [' ', '\t']

/-- What is written for a character inside a spec. -/
def joinChar (c : Char) : List Char := if alwaysEscaped c then ['\\', escapeLetter c] else [c]

/-- What is written for white space in front of a spec, and what is left of the spec. -/
def joinLeading : List Char → List Char × List Char
  | [] => ([], [])
  | c :: p => if isBlank c then (['\\', escapeLetter c], p) else ([], c :: p)

/-- White space at the end of the text is overwritten. -/
def joinTrailing (str : List Char) : List Char :=
  match str.getLast? with
  | none => str
  | some c => if isBlank c then str.dropLast ++ ['\\', escapeLetter c] else str

/-- One turn of the loop of `nm_match_spec_join`. -/
def joinSpec (str spec : List Char) : List Char :=
  if spec = [] then str
  else
    let str := if str = [] then str else str ++ [',']
    let (leading, p) := joinLeading spec
    joinTrailing (str ++ leading ++ p.flatMap joinChar)

/-- `nm_match_spec_join`. -/
def matchSpecJoin (specs : List (List Char)) : List Char := specs.foldl joinSpec []

/-- A character of a spec, and whether it is written with a backslash. -/
structure Symbol where
  escaped : Bool
  char : Char

namespace Symbol

def text (symbol : Symbol) : List Char :=
  if symbol.escaped then ['\\', escapeLetter symbol.char] else [symbol.char]

@[simp]
theorem text_escaped (c : Char) : text ⟨true, c⟩ = ['\\', escapeLetter c] := rfl

@[simp]
theorem text_plain (c : Char) : text ⟨false, c⟩ = [c] := rfl

/-- White space without a backslash. -/
def blank (symbol : Symbol) : Bool := !symbol.escaped && isSpace symbol.char

/-- The symbol is one that joining writes. -/
structure Fits (symbol : Symbol) : Prop where
  plain : symbol.escaped = false → alwaysEscaped symbol.char = false
  known : symbol.escaped = true → splitEscape (escapeLetter symbol.char) = [symbol.char]

end Symbol

/-- A character inside a spec. -/
def mark (c : Char) : Symbol := ⟨alwaysEscaped c, c⟩

def markEnd (c : Char) : Symbol := ⟨alwaysEscaped c || isBlank c, c⟩

/-- The symbols of a spec after the first one. -/
def symbolsAfter : List Char → List Symbol
  | [] => []
  | [c] => [markEnd c]
  | c :: rest => mark c :: symbolsAfter rest

def symbols : List Char → List Symbol
  | [] => []
  | c :: rest => markEnd c :: symbolsAfter rest

theorem splitEscape_escapeLetter {c : Char} (escaped : (alwaysEscaped c || isBlank c) = true) :
    splitEscape (escapeLetter c) = [c] := by
  simp only [alwaysEscaped, isBlank, mem_cons, not_mem_nil, or_false, Bool.or_eq_true,
    decide_eq_true_eq] at escaped
  rcases escaped with (rfl | rfl | rfl | rfl | rfl) | rfl | rfl <;> decide

variable (c : Char) (rest : List Char)

theorem fits_mark : (mark c).Fits where
  plain escaped := escaped
  known escaped := splitEscape_escapeLetter (Bool.or_eq_true_iff.mpr (Or.inl escaped))

theorem fits_markEnd : (markEnd c).Fits where
  plain escaped := (Bool.or_eq_false_iff.mp escaped).1
  known escaped := splitEscape_escapeLetter escaped

theorem fits_symbolsAfter : ∀ symbol ∈ symbolsAfter rest, symbol.Fits := by
  induction rest with
  | nil =>
    intro symbol impossible
    cases impossible
  | cons c rest ih =>
    intro symbol mem
    cases rest with
    | nil =>
      rw [mem_singleton.mp mem]
      exact fits_markEnd c
    | cons next rest =>
      rcases mem_cons.mp mem with rfl | mem
      · exact fits_mark c
      · exact ih symbol mem

theorem fits_symbols (spec : List Char) : ∀ symbol ∈ symbols spec, symbol.Fits := by
  cases spec with
  | nil =>
    intro symbol impossible
    cases impossible
  | cons c rest =>
    intro symbol mem
    rcases mem_cons.mp mem with rfl | mem
    · exact fits_markEnd c
    · exact fits_symbolsAfter rest symbol mem

theorem char_symbolsAfter : (symbolsAfter rest).map Symbol.char = rest := by
  induction rest with
  | nil => rfl
  | cons c rest ih =>
    cases rest with
    | nil => rfl
    | cons next rest => exact congrArg (c :: ·) ih

theorem char_symbols (spec : List Char) : (symbols spec).map Symbol.char = spec := by
  cases spec with
  | nil => rfl
  | cons c rest => exact congrArg (c :: ·) (char_symbolsAfter rest)

theorem text_mark : (mark c).text = joinChar c := rfl

theorem isBlank_escapeLetter : isBlank (escapeLetter c) = false := by
  unfold escapeLetter isBlank
  split
  · rfl
  · split
    · rfl
    · split
      · rfl
      · split
        · rfl
        · simp_all

theorem joinTrailing_joinChar (str : List Char) (c : Char) :
    joinTrailing (str ++ joinChar c) = str ++ (markEnd c).text := by
  unfold joinTrailing joinChar markEnd Symbol.text
  cases always : alwaysEscaped c with
  | true => simp [isBlank_escapeLetter]
  | false =>
    cases blank : isBlank c with
    | true => simp [blank]
    | false => simp [blank]

theorem joinTrailing_symbolsAfter {rest : List Char} (nonempty : rest ≠ []) (str : List Char) :
    joinTrailing (str ++ rest.flatMap joinChar) = str ++ (symbolsAfter rest).flatMap Symbol.text := by
  induction rest generalizing str with
  | nil => exact absurd rfl nonempty
  | cons c rest ih =>
    cases rest with
    | nil =>
      rw [flatMap_singleton, joinTrailing_joinChar]
      simp [symbolsAfter]
    | cons next rest =>
      have later := ih (cons_ne_nil _ _) (str ++ joinChar c)
      have symbols_eq : symbolsAfter (c :: next :: rest) =
          mark c :: symbolsAfter (next :: rest) := rfl
      rw [flatMap_cons, ← append_assoc, later, symbols_eq, flatMap_cons, text_mark, append_assoc]

theorem joinLeading_eq (p : List Char) :
    (joinLeading (c :: p)).1 ++ (joinLeading (c :: p)).2.flatMap joinChar =
      (markEnd c).text ++ p.flatMap joinChar := by
  rw [joinLeading]
  cases blank : isBlank c with
  | true => simp [markEnd, Symbol.text, blank]
  | false => simp [markEnd, Symbol.text, joinChar, blank]

variable {spec : List Char}

theorem joinSpec_eq (nonempty : spec ≠ []) (str : List Char) :
    joinSpec str spec =
      (if str = [] then [] else str ++ [',']) ++ (symbols spec).flatMap Symbol.text := by
  obtain ⟨c, rest, rfl⟩ := exists_cons_of_ne_nil nonempty
  have front_eq :
      (if str = [] then str else str ++ [',']) = if str = [] then [] else str ++ [','] := by
    split
    · assumption
    · rfl
  unfold joinSpec
  rw [if_neg nonempty]
  dsimp only
  rw [front_eq, append_assoc, joinLeading_eq, symbols, flatMap_cons, ← append_assoc, ← append_assoc]
  by_cases single : rest = []
  · subst single
    unfold joinTrailing markEnd Symbol.text
    cases escaped : alwaysEscaped c || isBlank c with
    | true => simp [symbolsAfter, isBlank_escapeLetter]
    | false => simp [symbolsAfter, (Bool.or_eq_false_iff.mp escaped).2]
  · exact joinTrailing_symbolsAfter single _

/-- The white space that is counted at the end of symbols. -/
def countTrailing : Nat → List Symbol → Nat
  | trailingWs, [] => trailingWs
  | trailingWs, symbol :: rest =>
    countTrailing (if symbol.escaped then 0
      else if isSpace symbol.char then trailingWs + 1 else trailingWs) rest

theorem splitLoop_plain {c : Char} (no_backslash : c ≠ '\\') (piece : List Char) (trailingWs : Nat)
    (p : List Char) :
    splitLoop piece trailingWs (c :: p) =
      if isSpace c then splitLoop (piece ++ [c]) (trailingWs + 1) p
      else if c = ',' ∨ c = ';' then
        addPiece piece trailingWs ++ splitLoop [] 0 (skipLeadingSpaces p)
      else splitLoop (piece ++ [c]) trailingWs p := by
  rw [splitLoop]
  · intro same _
    exact no_backslash same
  · intro other rest same _
    exact no_backslash same

theorem splitLoop_text {symbol : Symbol} (fits : symbol.Fits) (piece : List Char)
    (trailingWs : Nat) (p : List Char) :
    splitLoop piece trailingWs (symbol.text ++ p) =
      splitLoop (piece ++ [symbol.char]) (countTrailing trailingWs [symbol]) p := by
  match symbol, fits with
  | ⟨true, c⟩, fits =>
    rw [Symbol.text_escaped, cons_append, singleton_append, splitLoop, fits.known rfl]
    rfl
  | ⟨false, c⟩, fits =>
    have ordinary : c ≠ '\\' ∧ ¬ (c = ',' ∨ c = ';') := by
      have plain : ¬ alwaysEscaped c = true := Bool.eq_false_iff.mp (fits.plain rfl)
      simp only [alwaysEscaped, decide_eq_true_eq, mem_cons, not_mem_nil, or_false, not_or] at plain
      exact ⟨plain.2.2.1, not_or.mpr plain.2.2.2⟩
    rw [Symbol.text_plain, singleton_append, splitLoop_plain ordinary.1, if_neg ordinary.2]
    cases space : isSpace c with
    | true => simp [countTrailing, space]
    | false => simp [countTrailing, space]

theorem splitLoop_symbols {text : List Symbol} (fits : ∀ symbol ∈ text, symbol.Fits)
    (piece : List Char) (trailingWs : Nat) (p : List Char) :
    splitLoop piece trailingWs (text.flatMap Symbol.text ++ p) =
      splitLoop (piece ++ text.map Symbol.char) (countTrailing trailingWs text) p := by
  induction text generalizing piece trailingWs with
  | nil => simp [countTrailing]
  | cons symbol text ih =>
    obtain ⟨symbol_fits, fits⟩ := forall_mem_cons.mp fits
    rw [flatMap_cons, append_assoc, splitLoop_text symbol_fits, ih fits, map_cons, append_assoc]
    rfl

theorem skipLeadingSpaces_symbols (text : List Symbol) {p : List Char}
    (ends : skipLeadingSpaces p = p) :
    skipLeadingSpaces (text.flatMap Symbol.text ++ p) =
      (text.dropWhile Symbol.blank).flatMap Symbol.text ++ p := by
  have backslash_no_space : isSpace '\\' = false := by decide
  unfold skipLeadingSpaces at ends ⊢
  induction text with
  | nil => exact ends
  | cons symbol text ih =>
    rw [flatMap_cons, append_assoc]
    match symbol with
    | ⟨true, c⟩ => simp [backslash_no_space, Symbol.blank]
    | ⟨false, c⟩ =>
      cases space : isSpace c with
      | true => simpa [space, Symbol.blank] using ih
      | false => simp [space, Symbol.blank]

def readBack (spec : List Char) : List (List Char) :=
  let kept := (symbols spec).dropWhile Symbol.blank
  addPiece (kept.map Symbol.char) (countTrailing 0 kept)

theorem splitLoop_spec (spec : List Char) {p : List Char} (ends : skipLeadingSpaces p = p) :
    splitLoop [] 0 (skipLeadingSpaces ((symbols spec).flatMap Symbol.text ++ p)) =
      splitLoop (((symbols spec).dropWhile Symbol.blank).map Symbol.char)
        (countTrailing 0 ((symbols spec).dropWhile Symbol.blank)) p := by
  have suffix := dropWhile_suffix (l := symbols spec) Symbol.blank
  rw [skipLeadingSpaces_symbols _ ends,
    splitLoop_symbols fun symbol mem => fits_symbols spec symbol (suffix.mem mem)]
  rfl

def joined : List (List Char) → List Char
  | [] => []
  | [spec] => (symbols spec).flatMap Symbol.text
  | spec :: specs => (symbols spec).flatMap Symbol.text ++ ',' :: joined specs

theorem splitLoop_joined (specs : List (List Char)) :
    splitLoop [] 0 (skipLeadingSpaces (joined specs)) = specs.flatMap readBack := by
  induction specs with
  | nil =>
    change splitLoop [] 0 [] = []
    rw [splitLoop]
    rfl
  | cons spec specs ih =>
    cases specs with
    | nil =>
      have read := splitLoop_spec spec (p := []) rfl
      rw [append_nil] at read
      rw [joined, read, splitLoop, flatMap_singleton]
      rfl
    | cons next specs =>
      have ends : skipLeadingSpaces (',' :: joined (next :: specs)) =
          ',' :: joined (next :: specs) := rfl
      have joined_eq : joined (spec :: next :: specs) =
          (symbols spec).flatMap Symbol.text ++ ',' :: joined (next :: specs) := rfl
      rw [joined_eq, splitLoop_spec spec ends, splitLoop_plain (by decide), if_neg (by decide),
        if_pos (Or.inl rfl), ih, flatMap_cons]
      rfl

theorem symbols_text_ne_nil (nonempty : spec ≠ []) : (symbols spec).flatMap Symbol.text ≠ [] := by
  obtain ⟨c, rest, rfl⟩ := exists_cons_of_ne_nil nonempty
  rw [symbols, flatMap_cons]
  unfold Symbol.text
  split <;> simp

variable {specs : List (List Char)}

section

variable (nonempty : ∀ spec ∈ specs, spec ≠ [])

include nonempty

theorem foldl_joinSpec {str : List Char} (str_nonempty : str ≠ []) :
    specs.foldl joinSpec str = if specs = [] then str else str ++ ',' :: joined specs := by
  induction specs generalizing str with
  | nil => rfl
  | cons spec specs ih =>
    obtain ⟨spec_nonempty, nonempty⟩ := forall_mem_cons.mp nonempty
    rw [foldl_cons, joinSpec_eq spec_nonempty, if_neg str_nonempty, ih nonempty (by simp),
      if_neg (cons_ne_nil _ _)]
    cases specs with
    | nil => simp [joined]
    | cons next specs => simp [joined]

theorem matchSpecJoin_eq :
    matchSpecJoin specs = joined specs := by
  unfold matchSpecJoin
  cases specs with
  | nil => rfl
  | cons spec specs =>
    obtain ⟨spec_nonempty, nonempty⟩ := forall_mem_cons.mp nonempty
    rw [foldl_cons, joinSpec_eq spec_nonempty, if_pos rfl, nil_append,
      foldl_joinSpec nonempty (symbols_text_ne_nil spec_nonempty)]
    cases specs with
    | nil => rfl
    | cons next specs => rfl

theorem matchSpecSplit_join :
    matchSpecSplit (matchSpecJoin specs) = specs.flatMap readBack := by
  rw [matchSpecJoin_eq nonempty]
  exact splitLoop_joined specs

end

def HasEscape (text : List Char) : Prop :=
  (∃ c ∈ text, alwaysEscaped c = true) ∨ ∃ c, text.getLast? = some c ∧ isBlank c = true

/-- White space with the text after it is not cut off: it is escaped itself, or something after it
is. -/
def Guarded (c : Char) (after : List Char) : Prop :=
  alwaysEscaped c = true ∨ (isBlank c = true ∧ after = []) ∨ HasEscape after

/-- The end of a spec keeps all its white space. -/
def Protected (text : List Char) : Prop :=
  ∀ c after, c :: after <:+ text → isSpace c = true → Guarded c after

/-- A spec does not begin with a form feed, and all white space after its first character is
escaped or comes before something that is. -/
structure Kept (spec : List Char) : Prop where
  no_formFeed : spec.head? ≠ some '\x0c'
  guarded : Protected spec.tail

theorem protected_nil : Protected [] := by
  intro c after suffix
  exact absurd (suffix_nil.mp suffix) (cons_ne_nil _ _)

theorem protected_cons :
    Protected (c :: rest) ↔ (isSpace c = true → Guarded c rest) ∧ Protected rest := by
  constructor
  · intro whole
    refine ⟨whole c rest suffix_rfl, fun other after suffix => ?_⟩
    exact whole other after (suffix.trans (suffix_cons c rest))
  · rintro ⟨first, others⟩ other after suffix
    rcases suffix_cons_iff.mp suffix with same | suffix
    · obtain ⟨rfl, rfl⟩ := List.cons.inj same
      exact first
    · exact others other after suffix

theorem hasEscape_cons (c next : Char) (rest : List Char) :
    HasEscape (c :: next :: rest) ↔ alwaysEscaped c = true ∨ HasEscape (next :: rest) := by
  unfold HasEscape
  rw [getLast?_cons_cons, or_assoc.symm]
  refine or_congr ?_ Iff.rfl
  simp only [mem_cons, exists_eq_or_imp]

theorem hasEscape_singleton : HasEscape [c] ↔ (alwaysEscaped c || isBlank c) = true := by
  unfold HasEscape
  simp

theorem not_hasEscape_nil : ¬ HasEscape [] := by
  rintro (⟨c, mem, -⟩ | ⟨c, last, -⟩)
  · cases mem
  · cases last

/-- Nothing is counted at the end exactly if all white space is protected. -/
theorem countTrailing_symbolsAfter (trailingWs : Nat) :
    countTrailing trailingWs (symbolsAfter rest) = 0 ↔
      (trailingWs = 0 ∨ HasEscape rest) ∧ Protected rest := by
  induction rest generalizing trailingWs with
  | nil =>
    simp only [symbolsAfter, countTrailing, not_hasEscape_nil, or_false, protected_nil, and_true]
  | cons c rest ih =>
    rw [protected_cons]
    cases rest with
    | nil =>
      have alone : Guarded c [] ↔ (alwaysEscaped c || isBlank c) = true := by
        unfold Guarded
        simp [not_hasEscape_nil]
      rw [hasEscape_singleton, alone]
      simp only [symbolsAfter, countTrailing, markEnd, protected_nil, and_true]
      cases alwaysEscaped c || isBlank c with
      | true => simp
      | false => cases isSpace c <;> simp
    | cons next rest =>
      have guarded_iff : Guarded c (next :: rest) ↔
          alwaysEscaped c = true ∨ HasEscape (next :: rest) := by
        unfold Guarded
        simp
      have symbols_eq : symbolsAfter (c :: next :: rest) =
          mark c :: symbolsAfter (next :: rest) := rfl
      rw [hasEscape_cons, guarded_iff, symbols_eq, countTrailing, ih]
      simp only [mark]
      by_cases always : alwaysEscaped c = true
      · simp [always]
      · by_cases space : isSpace c = true
        · simp only [always, space, Bool.false_eq_true, if_false, if_true, Nat.add_eq_zero_iff,
            one_ne_zero, and_false, false_or, forall_const]
          tauto
        · simp [always, space]

theorem blank_markEnd : (markEnd c).blank = true ↔ c = '\x0c' := by
  unfold Symbol.blank markEnd alwaysEscaped isBlank isSpace
  constructor
  · intro blank
    simp only [Bool.and_eq_true, Bool.not_eq_true', Bool.or_eq_false_iff, decide_eq_false_iff_not,
      mem_cons, not_mem_nil, or_false, not_or, Bool.or_eq_true, beq_iff_eq] at blank
    tauto
  · rintro rfl
    decide

theorem countTrailing_symbols {c : Char} (no_blank : ¬ (markEnd c).blank = true)
    (rest : List Char) :
    countTrailing 0 (symbols (c :: rest)) = countTrailing 0 (symbolsAfter rest) := by
  have start : (if (markEnd c).escaped then 0
      else if isSpace (markEnd c).char then 0 + 1 else 0) = 0 := by
    split
    · rfl
    · rename_i plain
      rw [if_neg]
      intro space
      exact no_blank (by simp [Symbol.blank, plain, space])
  rw [symbols, countTrailing, start]

theorem length_addPiece (piece : List Char) (trailingWs : Nat) :
    (addPiece piece trailingWs).flatten.length = piece.length - trailingWs := by
  unfold addPiece
  split
  · simp
  · simp
    omega

theorem length_readBack_le (spec : List Char) : (readBack spec).flatten.length ≤ spec.length := by
  have shorter := (dropWhile_suffix (l := symbols spec) Symbol.blank).length_le
  have length_eq := congrArg length (char_symbols spec)
  rw [length_map] at length_eq
  rw [readBack, length_addPiece, length_map]
  omega

theorem kept_of_length (nonempty : spec ≠ []) (whole : (readBack spec).flatten.length = spec.length) :
    Kept spec := by
  obtain ⟨c, rest, rfl⟩ := exists_cons_of_ne_nil nonempty
  have length_eq := congrArg length (char_symbols (c :: rest))
  rw [length_map] at length_eq
  rw [readBack, length_addPiece, length_map] at whole
  have no_formFeed : ¬ (markEnd c).blank = true := by
    intro blank
    rw [symbols, dropWhile_cons_of_pos blank] at whole
    have shorter := (dropWhile_suffix (l := symbolsAfter rest) Symbol.blank).length_le
    simp only [symbols, length_cons] at length_eq whole
    omega
  rw [symbols, dropWhile_cons_of_neg no_formFeed, ← symbols, length_eq] at whole
  have none_counted : countTrailing 0 (symbols (c :: rest)) = 0 := by
    simp only [length_cons] at whole
    omega
  rw [countTrailing_symbols no_formFeed, countTrailing_symbolsAfter] at none_counted
  refine ⟨?_, none_counted.2⟩
  rw [head?_cons, ne_eq, Option.some.injEq]
  exact fun formFeed => no_formFeed ((blank_markEnd c).mpr formFeed)

theorem Kept.readBack (kept : Kept spec) (nonempty : spec ≠ []) : readBack spec = [spec] := by
  obtain ⟨c, rest, rfl⟩ := exists_cons_of_ne_nil nonempty
  have chars := char_symbols (c :: rest)
  have no_formFeed : ¬ (markEnd c).blank = true := by
    rw [blank_markEnd]
    exact fun formFeed => kept.no_formFeed (congrArg some formFeed)
  have none_counted : countTrailing 0 (symbols (c :: rest)) = 0 := by
    rw [countTrailing_symbols no_formFeed, countTrailing_symbolsAfter]
    exact ⟨Or.inl rfl, kept.guarded⟩
  unfold MatchSpec.readBack
  dsimp only
  rw [symbols, dropWhile_cons_of_neg no_formFeed, ← symbols, none_counted, chars]
  simp [addPiece]

theorem flatMap_readBack (nonempty : ∀ spec ∈ specs, spec ≠ []) :
    (specs.flatMap readBack).flatten.length ≤ specs.flatten.length ∧
      ((specs.flatMap readBack).flatten.length = specs.flatten.length →
        ∀ spec ∈ specs, Kept spec) := by
  induction specs with
  | nil => exact ⟨Nat.le_refl _, fun _ _ impossible => (by cases impossible)⟩
  | cons spec specs ih =>
    obtain ⟨spec_nonempty, nonempty⟩ := forall_mem_cons.mp nonempty
    obtain ⟨others_le, others_kept⟩ := ih nonempty
    have spec_le := length_readBack_le spec
    rw [flatMap_cons, flatten_append, length_append, flatten_cons, length_append]
    refine ⟨by omega, fun same => forall_mem_cons.mpr ⟨?_, others_kept (by omega)⟩⟩
    exact kept_of_length spec_nonempty (by omega)

/-- A list of specs comes back exactly if no spec loses white space. -/
theorem matchSpecSplit_matchSpecJoin_iff {specs : List (List Char)}
    (nonempty : ∀ spec ∈ specs, spec ≠ []) :
    matchSpecSplit (matchSpecJoin specs) = specs ↔ ∀ spec ∈ specs, Kept spec := by
  rw [matchSpecSplit_join nonempty]
  constructor
  · intro same
    exact (flatMap_readBack nonempty).2 (by rw [same])
  · intro kept
    induction specs with
    | nil => rfl
    | cons spec specs ih =>
      obtain ⟨spec_nonempty, nonempty⟩ := forall_mem_cons.mp nonempty
      obtain ⟨spec_kept, kept⟩ := forall_mem_cons.mp kept
      rw [flatMap_cons, spec_kept.readBack spec_nonempty, ih nonempty kept]
      rfl

/-- Separators, backslashes and white space at the ends come back. -/
theorem matchSpecSplit_interfaces :
    matchSpecSplit (matchSpecJoin ["mac:00:11".toList, " a,b; ".toList, "\\".toList]) =
      ["mac:00:11".toList, " a,b; ".toList, "\\".toList] := by
  refine (matchSpecSplit_matchSpecJoin_iff (by decide)).mpr ?_
  intro spec mem
  simp only [mem_cons, not_mem_nil, or_false] at mem
  rcases mem with rfl | rfl | rfl
  · exact ⟨by decide, ((countTrailing_symbolsAfter _ 0).mp (by decide)).2⟩
  · exact ⟨by decide, ((countTrailing_symbolsAfter _ 0).mp (by decide)).2⟩
  · exact ⟨by decide, ((countTrailing_symbolsAfter _ 0).mp (by decide)).2⟩

/-- A space inside a spec makes it lose its last character. -/
theorem matchSpecSplit_inner_space :
    matchSpecSplit (matchSpecJoin ["a b".toList]) ≠ ["a b".toList] := by
  decide +kernel

end NetworkManager.MatchSpec
