import Mathlib.Data.List.Basic
import Mathlib.Data.List.Induction
import NetworkManager.Core.Ascii

/-!
# Escaped tokens

How the program splits a text at blanks, where a backslash protects the character after it, and that
words which are escaped and separated by blanks are read back.
-/

namespace NetworkManager.EscapedTokens

open Ascii List

/-- `NM_ASCII_SPACES`. -/
def asciiSpaces : List Char := ['\t', '\n', '\x0c', '\r', ' ']

/-- The tokens of `nm_utils_strsplit_set_full` with escaping, before they are stripped.  There is a
token unless the characters in front are delimiters. -/
def splitSet (delimiters : List Char) : Option (List Char) → List Char → List (List Char)
  | token, [] => token.toList
  | token, ['\\'] => [token.getD [] ++ ['\\']]
  | token, '\\' :: c :: str => splitSet delimiters (some (token.getD [] ++ ['\\', c])) str
  | token, c :: str =>
    if c ∈ delimiters then token.toList ++ splitSet delimiters none str
    else splitSet delimiters (some (token.getD [] ++ [c])) str

/-- `_char_is_escaped`, with the characters in front of a character, the last one first. -/
def charIsEscaped (before : List Char) : Bool := (before.takeWhile (· = '\\')).length % 2 ≠ 0

/-- The trailing blanks that are stripped, with the last character first. -/
def stripTrailing : List Char → List Char
  | [] => []
  | c :: before =>
    if before ≠ [] ∧ isSpace c ∧ !charIsEscaped before then stripTrailing before else c :: before

/-- A token without blanks around it. -/
def stripToken (token : List Char) : List Char :=
  (stripTrailing (skipLeadingSpaces token).reverse).reverse

/-- Remove backslashes in front of backslashes, delimiters and blanks. -/
def unescapeToken (delimiters : List Char) : List Char → List Char
  | [] => []
  | ['\\'] => ['\\']
  | '\\' :: c :: token =>
    if c = '\\' ∨ c ∈ delimiters ∨ c ∈ asciiSpaces then c :: unescapeToken delimiters token
    else '\\' :: unescapeToken delimiters (c :: token)
  | c :: token => c :: unescapeToken delimiters token

/-- `nm_utils_escaped_tokens_split`. -/
def escapedTokensSplit (str delimiters : List Char) : List (List Char) :=
  (((splitSet delimiters none str).map stripToken).filter (· ≠ [])).map (unescapeToken delimiters)

/-- A character that needs a backslash, with the backslash. -/
def escapeChar (delimiters : List Char) (c : Char) : List Char :=
  if c = '\\' ∨ c ∈ delimiters then ['\\', c] else [c]

/-- `nm_utils_escaped_tokens_escape`.  A blank at the end is escaped even if it is no delimiter. -/
def escapedTokensEscape (str delimiters : List Char) : List Char :=
  match str.getLast? with
  | none => str
  | some last =>
    if isSpace last ∧ last ∉ delimiters then
      str.dropLast.flatMap (escapeChar delimiters) ++ ['\\', last]
    else str.flatMap (escapeChar delimiters)

/-- A character of a text, and whether it is written with a backslash. -/
structure Symbol where
  /-- There is a backslash in front of the character. -/
  escaped : Bool
  char : Char

namespace Symbol

def text (symbol : Symbol) : List Char :=
  if symbol.escaped then ['\\', symbol.char] else [symbol.char]

/-- The symbol is white space that may be stripped. -/
def blank (symbol : Symbol) : Bool := !symbol.escaped && isSpace symbol.char

@[simp]
theorem text_escaped (c : Char) : text ⟨true, c⟩ = ['\\', c] := rfl

@[simp]
theorem text_plain (c : Char) : text ⟨false, c⟩ = [c] := rfl

@[simp]
theorem blank_escaped (c : Char) : blank ⟨true, c⟩ = false := rfl

@[simp]
theorem blank_plain (c : Char) : blank ⟨false, c⟩ = isSpace c := rfl

/-- The symbol is written so that splitting understands it. -/
structure Fits (delimiters : List Char) (symbol : Symbol) : Prop where
  /-- Without a backslash there is an ordinary character. -/
  plain : symbol.escaped = false → symbol.char ≠ '\\' ∧ symbol.char ∉ delimiters
  /-- With a backslash there is a character for which the backslash is removed. -/
  needed : symbol.escaped = true →
    symbol.char = '\\' ∨ symbol.char ∈ delimiters ∨ symbol.char ∈ asciiSpaces

end Symbol

/-- A character with a backslash if it needs one. -/
def markChar (delimiters : List Char) (c : Char) : Symbol := ⟨c = '\\' ∨ c ∈ delimiters, c⟩

/-- The symbols that are written for a text. -/
def symbols (delimiters str : List Char) : List Symbol :=
  match str.getLast? with
  | none => []
  | some last =>
    if isSpace last ∧ last ∉ delimiters then
      str.dropLast.map (markChar delimiters) ++ [⟨true, last⟩]
    else str.map (markChar delimiters)

theorem mem_asciiSpaces_iff (c : Char) : c ∈ asciiSpaces ↔ isSpace c = true := by
  unfold asciiSpaces isSpace
  simp
  tauto

theorem splitSet_plain {delimiters : List Char} {c : Char} (no_backslash : c ≠ '\\')
    (token : Option (List Char)) (str : List Char) :
    splitSet delimiters token (c :: str) =
      if c ∈ delimiters then token.toList ++ splitSet delimiters none str
      else splitSet delimiters (some (token.getD [] ++ [c])) str := by
  rw [splitSet]
  · intro same _
    exact no_backslash same
  · intro other rest same _
    exact no_backslash same

theorem unescapeToken_plain {delimiters : List Char} {c : Char} (no_backslash : c ≠ '\\')
    (token : List Char) :
    unescapeToken delimiters (c :: token) = c :: unescapeToken delimiters token := by
  rw [unescapeToken]
  · intro same _
    exact no_backslash same
  · intro other rest same _
    exact no_backslash same

section

variable {delimiters : List Char}

variable (str : List Char) (c : Char)

theorem text_markChar : (markChar delimiters c).text = escapeChar delimiters c := by
  unfold Symbol.text markChar escapeChar
  by_cases needed : c = '\\' ∨ c ∈ delimiters
  · simp [needed]
  · simp [needed]

theorem fits_markChar : (markChar delimiters c).Fits delimiters where
  plain escaped := not_or.mp (of_decide_eq_false escaped)
  needed escaped := (of_decide_eq_true escaped).imp_right Or.inl

theorem escapedTokensEscape_eq :
    escapedTokensEscape str delimiters = (symbols delimiters str).flatMap Symbol.text := by
  have marked : ∀ chars : List Char, (chars.map (markChar delimiters)).flatMap Symbol.text =
      chars.flatMap (escapeChar delimiters) := by
    intro chars
    rw [flatMap_map]
    exact flatMap_congr fun c _ => text_markChar c
  unfold escapedTokensEscape symbols
  split
  · rename_i empty
    rw [getLast?_eq_none_iff.mp empty]
    rfl
  · split
    · rw [flatMap_append, marked]
      rfl
    · rw [marked]

variable (delimiters) in
theorem char_symbols : (symbols delimiters str).map Symbol.char = str := by
  have marked : ∀ chars : List Char, (chars.map (markChar delimiters)).map Symbol.char = chars := by
    intro chars
    rw [map_map]
    exact map_id chars
  unfold symbols
  split
  · rename_i empty
    rw [getLast?_eq_none_iff.mp empty]
    rfl
  · rename_i last found
    split
    · rw [map_append, marked]
      exact dropLast_append_getLast? last found
    · exact marked str

variable (delimiters) in
theorem fits_symbols : ∀ symbol ∈ symbols delimiters str,
    symbol.Fits delimiters := by
  have marked : ∀ chars : List Char, ∀ symbol ∈ chars.map (markChar delimiters),
      symbol.Fits delimiters := by
    intro chars symbol mem
    obtain ⟨c, -, rfl⟩ := mem_map.mp mem
    exact fits_markChar c
  intro symbol mem
  unfold symbols at mem
  split at mem
  · cases mem
  · rename_i last _
    split at mem
    · rename_i trailing
      rcases mem_append.mp mem with mem | mem
      · exact marked _ symbol mem
      · obtain rfl := mem_singleton.mp mem
        refine ⟨fun impossible => (by cases impossible), fun _ => Or.inr (Or.inr ?_)⟩
        exact (mem_asciiSpaces_iff last).mpr trailing.1
    · exact marked _ symbol mem

theorem blank_last_symbols {str : List Char} {symbol : Symbol}
    (last : (symbols delimiters str).getLast? = some symbol) : symbol.blank = false := by
  unfold symbols at last
  split at last
  · cases last
  · rename_i c found
    split at last
    · obtain rfl : (⟨true, c⟩ : Symbol) = symbol := by simpa using last
      rfl
    · rename_i kept
      rw [getLast?_map, found] at last
      obtain rfl : markChar delimiters c = symbol := by simpa using last
      by_contra blank
      obtain ⟨unescaped, space⟩ := Bool.and_eq_true_iff.mp (Bool.not_eq_false _ ▸ blank)
      have plain := (fits_markChar c).plain (Bool.not_eq_true' _ ▸ unescaped)
      exact kept ⟨space, plain.2⟩

theorem splitSet_text {symbol : Symbol} (fits : symbol.Fits delimiters)
    (token : Option (List Char)) (str : List Char) :
    splitSet delimiters token (symbol.text ++ str) =
      splitSet delimiters (some (token.getD [] ++ symbol.text)) str := by
  match symbol, fits with
  | ⟨true, _⟩, _ => rfl
  | ⟨false, c⟩, fits =>
    obtain ⟨no_backslash, no_delimiter⟩ := fits.plain rfl
    rw [Symbol.text_plain, singleton_append, splitSet_plain no_backslash, if_neg no_delimiter]

variable {text : List Symbol}

theorem splitSet_symbols (fits : ∀ symbol ∈ text, symbol.Fits delimiters) (token str : List Char) :
    splitSet delimiters (some token) (text.flatMap Symbol.text ++ str) =
      splitSet delimiters (some (token ++ text.flatMap Symbol.text)) str := by
  induction text generalizing token with
  | nil => simp
  | cons symbol text ih =>
    obtain ⟨symbol_fits, fits⟩ := forall_mem_cons.mp fits
    rw [flatMap_cons, append_assoc, splitSet_text symbol_fits, Option.getD_some,
      ih fits, append_assoc]

theorem splitSet_first (fits : ∀ symbol ∈ text, symbol.Fits delimiters) (nonempty : text ≠ [])
    (str : List Char) :
    splitSet delimiters none (text.flatMap Symbol.text ++ str) =
      splitSet delimiters (some (text.flatMap Symbol.text)) str := by
  obtain ⟨symbol, text, rfl⟩ := exists_cons_of_ne_nil nonempty
  obtain ⟨symbol_fits, fits⟩ := forall_mem_cons.mp fits
  rw [flatMap_cons, append_assoc, splitSet_text symbol_fits, Option.getD_none,
    nil_append, splitSet_symbols fits]

theorem symbols_ne_nil {str : List Char} (nonempty : str ≠ []) : symbols delimiters str ≠ [] := by
  intro empty
  have chars := char_symbols delimiters str
  rw [empty] at chars
  exact nonempty chars.symm

theorem splitSet_intercalate {delimiter : Char} (mem : delimiter ∈ delimiters)
    (no_backslash : '\\' ∉ delimiters) {words : List (List Char)}
    (nonempty : ∀ word ∈ words, word ≠ []) :
    splitSet delimiters none ([delimiter].intercalate
        (words.map fun word => escapedTokensEscape word delimiters)) =
      words.map fun word => (symbols delimiters word).flatMap Symbol.text := by
  have delimiter_ne : delimiter ≠ '\\' := fun same => no_backslash (same ▸ mem)
  induction words with
  | nil => rfl
  | cons word words ih =>
    obtain ⟨word_nonempty, nonempty⟩ := forall_mem_cons.mp nonempty
    have first := splitSet_first (fits_symbols delimiters word)
      (symbols_ne_nil word_nonempty)
    rw [map_cons, map_cons, ← ih nonempty, escapedTokensEscape_eq]
    cases words with
    | nil =>
      have split := first []
      rw [append_nil] at split
      rw [map_nil, intercalate_singleton, split]
      rfl
    | cons next words =>
      rw [intercalate_cons_of_ne_nil (by simp), append_assoc, first,
        singleton_append, splitSet_plain delimiter_ne, if_pos mem]
      rfl

theorem skipLeadingSpaces_symbols (text : List Symbol) :
    skipLeadingSpaces (text.flatMap Symbol.text) =
      (text.dropWhile Symbol.blank).flatMap Symbol.text := by
  have backslash_no_space : isSpace '\\' = false := by decide
  unfold skipLeadingSpaces
  induction text with
  | nil => rfl
  | cons symbol text ih =>
    rw [flatMap_cons, dropWhile_cons]
    match symbol with
    | ⟨true, c⟩ => simp [backslash_no_space]
    | ⟨false, c⟩ =>
      cases space : isSpace c with
      | true => simpa [space] using ih
      | false => simp [space]

section

variable (fits : ∀ symbol ∈ text, symbol.Fits delimiters)

include fits

/-- Backslashes at the end of a written text come in pairs. -/
theorem charIsEscaped_symbols : charIsEscaped (text.flatMap Symbol.text).reverse = false := by
  induction text using reverseRecOn with
  | nil => rfl
  | append_singleton text symbol ih =>
    have before := ih fun other mem => fits other (mem_append_left _ mem)
    have symbol_fits := fits symbol (mem_append_right _ mem_cons_self)
    rw [flatMap_append, flatMap_singleton, reverse_append]
    match symbol, symbol_fits with
    | ⟨false, c⟩, symbol_fits =>
      have no_backslash : c ≠ '\\' := (symbol_fits.plain rfl).1
      simp [charIsEscaped, no_backslash]
    | ⟨true, c⟩, _ =>
      by_cases is_backslash : c = '\\'
      · simp [charIsEscaped, is_backslash] at before ⊢
        omega
      · simp [charIsEscaped, is_backslash]

theorem stripTrailing_symbols (last : ∀ symbol, text.getLast? = some symbol → symbol.blank = false) :
    stripTrailing (text.flatMap Symbol.text).reverse = (text.flatMap Symbol.text).reverse := by
  induction text using reverseRecOn with
  | nil => rfl
  | append_singleton text symbol _ =>
    have unescaped := charIsEscaped_symbols fun other mem =>
      fits other (mem_append_left _ mem)
    have symbol_last := last symbol (by simp)
    rw [flatMap_append, flatMap_singleton, reverse_append]
    match symbol, symbol_last with
    | ⟨false, c⟩, no_space =>
      rw [Symbol.blank_plain] at no_space
      simp [stripTrailing, no_space]
    | ⟨true, c⟩, _ =>
      have marked : charIsEscaped ('\\' :: (text.flatMap Symbol.text).reverse) = true := by
        simp [charIsEscaped] at unescaped ⊢
        omega
      simp [stripTrailing, marked]

theorem stripToken_symbols (last : ∀ symbol, text.getLast? = some symbol → symbol.blank = false) :
    stripToken (text.flatMap Symbol.text) = (text.dropWhile Symbol.blank).flatMap Symbol.text := by
  have suffix := dropWhile_suffix (l := text) Symbol.blank
  unfold stripToken
  rw [skipLeadingSpaces_symbols, stripTrailing_symbols, reverse_reverse]
  · exact fun symbol mem => fits symbol (suffix.mem mem)
  · intro symbol symbol_last
    obtain ⟨front, text_eq⟩ := suffix
    refine last symbol ?_
    rw [← text_eq, getLast?_append, symbol_last]
    rfl

theorem unescapeToken_symbols :
    unescapeToken delimiters (text.flatMap Symbol.text) = text.map Symbol.char := by
  induction text with
  | nil => rfl
  | cons symbol text ih =>
    obtain ⟨symbol_fits, fits⟩ := forall_mem_cons.mp fits
    rw [flatMap_cons, map_cons, ← ih fits]
    match symbol, symbol_fits with
    | ⟨true, c⟩, symbol_fits =>
      rw [Symbol.text_escaped, cons_append, singleton_append, unescapeToken,
        if_pos (symbol_fits.needed rfl)]
    | ⟨false, c⟩, symbol_fits =>
      rw [Symbol.text_plain, singleton_append, unescapeToken_plain (symbol_fits.plain rfl).1]

end

variable (delimiters) in
/-- A word does not begin with white space that splitting strips.  White space that is a delimiter
is escaped, and so is the last character. -/
def KeepsFirst (word : List Char) : Prop :=
  ∀ c rest, word = c :: rest → isSpace c → c ∈ delimiters ∨ rest = []

variable (delimiters) in
/-- What is left of a word that was escaped, split, stripped and unescaped. -/
def readBack (word : List Char) : List Char :=
  ((symbols delimiters word).dropWhile Symbol.blank).map Symbol.char

theorem blank_markChar :
    (markChar delimiters c).blank = true ↔ isSpace c = true ∧ c ∉ delimiters := by
  unfold markChar Symbol.blank
  constructor
  · intro blank
    simp only [Bool.and_eq_true, Bool.not_eq_true', decide_eq_false_iff_not, not_or] at blank
    exact ⟨blank.2, blank.1.2⟩
  · rintro ⟨space, no_delimiter⟩
    have no_backslash : c ≠ '\\' := by
      rintro rfl
      exact absurd space (by decide)
    simp [space, no_delimiter, no_backslash]

variable (delimiters) in
theorem symbols_cons (rest : List Char) :
    ∃ symbol others, symbols delimiters (c :: rest) = symbol :: others ∧
      (symbol.blank = true ↔ isSpace c = true ∧ c ∉ delimiters ∧ rest ≠ []) := by
  unfold symbols
  split
  · rename_i empty
    exact absurd (getLast?_eq_none_iff.mp empty) (cons_ne_nil c rest)
  · rename_i last found
    split
    · rename_i trailing
      by_cases single : rest = []
      · subst single
        exact ⟨_, [], rfl, by simp⟩
      · obtain ⟨next, rest, rfl⟩ := exists_cons_of_ne_nil single
        refine ⟨markChar delimiters c, _, rfl, ?_⟩
        rw [blank_markChar]
        simp
    · rename_i kept
      refine ⟨markChar delimiters c, _, rfl, ?_⟩
      rw [blank_markChar]
      refine ⟨fun ⟨space, no_delimiter⟩ => ⟨space, no_delimiter, ?_⟩,
        fun ⟨space, no_delimiter, _⟩ => ⟨space, no_delimiter⟩⟩
      rintro rfl
      obtain rfl : c = last := by simpa using found
      exact kept ⟨space, no_delimiter⟩

theorem readBack_ne_nil {word : List Char} (nonempty : word ≠ []) :
    readBack delimiters word ≠ [] := by
  intro empty
  have all_blank := dropWhile_eq_nil_iff.mp (map_eq_nil_iff.mp empty)
  obtain ⟨last, found⟩ : ∃ last, (symbols delimiters word).getLast? = some last :=
    Option.isSome_iff_exists.mp (by simpa using symbols_ne_nil nonempty)
  have last_blank := all_blank last (mem_of_getLast? found)
  rw [blank_last_symbols found] at last_blank
  cases last_blank

/-- A word comes back, unless white space in front of it is stripped. -/
theorem readBack_eq_iff (word : List Char) :
    readBack delimiters word = word ↔ KeepsFirst delimiters word := by
  have chars := char_symbols delimiters word
  unfold readBack
  cases word with
  | nil => exact ⟨fun _ _ _ impossible => (by cases impossible), fun _ => rfl⟩
  | cons c rest =>
    obtain ⟨symbol, others, symbols_eq, blank_iff⟩ :=
      symbols_cons delimiters c rest
    rw [symbols_eq] at chars ⊢
    constructor
    · intro same other after word_eq space
      obtain ⟨rfl, rfl⟩ := List.cons.inj word_eq
      by_contra lost
      obtain ⟨no_delimiter, more⟩ := not_or.mp lost
      rw [dropWhile_cons_of_pos (blank_iff.mpr ⟨space, no_delimiter, more⟩)] at same
      have shorter := (dropWhile_suffix (l := others) Symbol.blank).length_le
      have same_length := congrArg length same
      have whole_length := congrArg length chars
      simp only [length_map, length_cons] at same_length whole_length
      omega
    · intro keeps
      rw [dropWhile_cons_of_neg, chars]
      intro blank
      obtain ⟨space, no_delimiter, more⟩ := blank_iff.mp blank
      rcases keeps c rest rfl space with delimiter | single
      · exact no_delimiter delimiter
      · exact more single

theorem escapedTokensSplit_intercalate {delimiter : Char} (mem : delimiter ∈ delimiters)
    (no_backslash : '\\' ∉ delimiters) {words : List (List Char)}
    (nonempty : ∀ word ∈ words, word ≠ []) :
    escapedTokensSplit ([delimiter].intercalate
        (words.map fun word => escapedTokensEscape word delimiters)) delimiters =
      words.map (readBack delimiters) := by
  unfold escapedTokensSplit
  rw [splitSet_intercalate mem no_backslash nonempty, map_map]
  induction words with
  | nil => rfl
  | cons word words ih =>
    obtain ⟨word_nonempty, nonempty⟩ := forall_mem_cons.mp nonempty
    have fits := fits_symbols delimiters word
    have suffix := dropWhile_suffix (l := symbols delimiters word) Symbol.blank
    have stripped := stripToken_symbols fits fun _ last => blank_last_symbols last
    have unescaped := unescapeToken_symbols fun symbol mem => fits symbol (suffix.mem mem)
    have kept : ((symbols delimiters word).dropWhile Symbol.blank).flatMap Symbol.text ≠ [] := by
      intro empty
      rw [empty] at unescaped
      exact readBack_ne_nil word_nonempty unescaped.symm
    rw [map_cons, map_cons, Function.comp_apply, stripped,
      filter_cons_of_pos (by simpa using kept), map_cons, unescaped, ih nonempty]
    rfl

theorem map_readBack_eq_iff (words : List (List Char)) :
    words.map (readBack delimiters) = words ↔ ∀ word ∈ words, KeepsFirst delimiters word := by
  induction words with
  | nil => exact ⟨fun _ _ impossible => (by cases impossible), fun _ => rfl⟩
  | cons word words ih =>
    rw [map_cons, List.cons.injEq, readBack_eq_iff, ih, forall_mem_cons]

/-- A list of words is read back exactly if no word begins with white space that is not escaped. -/
theorem escapedTokensSplit_escape_iff {delimiter : Char} (mem : delimiter ∈ delimiters)
    (no_backslash : '\\' ∉ delimiters) {words : List (List Char)}
    (nonempty : ∀ word ∈ words, word ≠ []) :
    escapedTokensSplit ([delimiter].intercalate
        (words.map fun word => escapedTokensEscape word delimiters)) delimiters = words ↔
      ∀ word ∈ words, KeepsFirst delimiters word := by
  rw [escapedTokensSplit_intercalate mem no_backslash nonempty, map_readBack_eq_iff]

end

/-- A list with white space inside and behind, a backslash and the delimiter comes back. -/
theorem escapedTokensSplit_comma :
    escapedTokensSplit ([','].intercalate
        (["a b ".toList, "\\,".toList, " ".toList].map fun word =>
          escapedTokensEscape word [','])) [','] = ["a b ".toList, "\\,".toList, " ".toList] := by
  refine (escapedTokensSplit_escape_iff (by decide) (by decide) (by decide)).mpr ?_
  simp [KeepsFirst, isSpace]

/-- White space in front of a word is lost. -/
theorem escapedTokensSplit_leading_space :
    escapedTokensSplit ([','].intercalate
      ([" a".toList].map fun word => escapedTokensEscape word [','])) [','] ≠ [" a".toList] := by
  decide

/-- A word that is not empty and has no blanks. -/
structure Word (word : List Char) : Prop where
  nonempty : word ≠ []
  no_space : ∀ c ∈ word, c ∉ asciiSpaces

theorem escape_word {word : List Char} (is_word : Word word) :
    escapedTokensEscape word asciiSpaces = word.flatMap (escapeChar asciiSpaces) := by
  unfold escapedTokensEscape
  split
  · rename_i empty
    exact absurd (getLast?_eq_none_iff.mp empty) is_word.nonempty
  · rename_i last found
    rw [if_neg]
    rintro ⟨space, -⟩
    exact is_word.no_space last (mem_of_getLast? found) ((mem_asciiSpaces_iff last).mpr space)

theorem escapeChar_plain {c : Char} (no_space : c ∉ asciiSpaces) :
    escapeChar asciiSpaces c = if c = '\\' then ['\\', '\\'] else [c] := by
  unfold escapeChar
  by_cases is_backslash : c = '\\'
  · simp [is_backslash]
  · simp [is_backslash, no_space]

/-- Words, separated by blanks. -/
def join (words : List (List Char)) : List Char := [' '].intercalate words

theorem join_singleton (word : List Char) : join [word] = word := intercalate_singleton

theorem join_cons {words : List (List Char)} (nonempty : words ≠ []) (word : List Char) :
    join (word :: words) = word ++ ' ' :: join words := by
  unfold join
  rw [intercalate_cons_of_ne_nil nonempty, append_assoc, singleton_append]

theorem join_append {first second : List (List Char)} (first_nonempty : first ≠ [])
    (second_nonempty : second ≠ []) :
    join (first ++ second) = join first ++ ' ' :: join second := by
  induction first with
  | nil => exact absurd rfl first_nonempty
  | cons word first ih =>
    cases first with
    | nil =>
      rw [singleton_append, join_singleton]
      exact join_cons second_nonempty word
    | cons next first =>
      rw [cons_append, join_cons (by simp), join_cons (by simp), ih (by simp)]
      simp

theorem escapedTokensSplit_join {words : List (List Char)} (all_words : ∀ word ∈ words, Word word) :
    escapedTokensSplit (join (words.map fun word => escapedTokensEscape word asciiSpaces))
      asciiSpaces = words := by
  unfold join
  rw [escapedTokensSplit_intercalate (by decide) (by decide)
    fun word mem => (all_words word mem).nonempty, map_readBack_eq_iff]
  intro word _ c _ _ space
  exact Or.inl ((mem_asciiSpaces_iff c).mpr space)

end NetworkManager.EscapedTokens
