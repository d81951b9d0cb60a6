import NetworkManager.Core.StrsplitSetAgree

/-!
# The tokens of a text

Stripping and unescaping in place look at characters and at the backslashes in front of them.  This
is what the marks of the text say, so the function returns the tokens that it is meant to return.
-/

namespace NetworkManager.StrsplitSet

open Ascii EscapeMarks EscapedTokens List

variable {flags : StrsplitSetFlags} {delimiters : List Char}

abbrev marksOf (flags : StrsplitSetFlags) (token : List Char) : List (Char × Bool) :=
  marks (isEscape flags) false token

theorem marksOf_clearTrailing {token : List Char}
    (first : ∀ c rest, token = c :: rest → isSpace c = false) :
    marksOf flags (clearTrailing flags token.reverse).reverse =
      ((marksOf flags token).reverse.dropWhile (separates isSpace)).reverse := by
  induction token using reverseRecOn with
  | nil => rfl
  | append_singleton token c ih =>
    have marks_eq : (marksOf flags (token ++ [c])).reverse =
        (c, looksEscaped flags token.reverse) :: (marksOf flags token).reverse := by
      rw [marksOf, marks_append, nextMark_eq_looksEscaped, reverse_append]
      rfl
    have first' : ∀ d rest, token = d :: rest → isSpace d = false := by
      intro d rest eq
      exact first d (rest ++ [c]) (by rw [eq, cons_append])
    have clears_iff : (token.reverse ≠ [] ∧ isSpace c = true ∧
          ((!flags.fAllowEscaping) = true ∨ (!charIsEscaped token.reverse) = true)) ↔
        separates isSpace (c, looksEscaped flags token.reverse) = true := by
      rw [separates, looksEscaped, Bool.not_and, Bool.and_eq_true, Bool.or_eq_true,
        reverse_ne_nil_iff]
      refine ⟨And.right, fun blank => ⟨?_, blank⟩⟩
      rintro rfl
      rw [first c [] rfl] at blank
      cases blank.1
    rw [marks_eq, reverse_append, reverse_singleton, singleton_append, clearTrailing]
    by_cases blank : separates isSpace (c, looksEscaped flags token.reverse) = true
    · rw [if_pos (clears_iff.mpr blank), dropWhile_cons_of_pos blank, ih first']
    · rw [if_neg (fun clears => blank (clears_iff.mp clears)), dropWhile_cons_of_neg blank,
        ← marks_eq, reverse_reverse, reverse_cons, reverse_reverse]

theorem marksOf_stripped (token : List Char) :
    marksOf flags (stripped flags token) = trim isSpace (marksOf flags token) := by
  have first : ∀ c rest, skipLeadingSpaces token = c :: rest → isSpace c = false := by
    intro c rest eq
    have head := head?_dropWhile_not isSpace token
    rw [← skipLeadingSpaces, eq] at head
    exact head
  rw [stripped, marksOf_clearTrailing first, trim, skipLeadingSpaces, marksOf,
    marks_dropWhile isEscape_of_space]

theorem stripTokens_eq (tokens : List (List Char)) :
    (stripTokens flags tokens).map (marksOf flags) =
      ((tokens.map (marksOf flags)).map (trim isSpace)).filter (keeps flags) := by
  induction tokens with
  | nil => rfl
  | cons token tokens ih =>
    have keeps_iff : keeps flags (marksOf flags (stripped flags token)) = true ↔
        ¬ ((!flags.preserveEmpty) = true ∧ stripped flags token = []) := by
      rw [keeps, decide_eq_true_iff, Ne, marks_eq_nil_iff, not_and_or, Bool.not_eq_true',
        Bool.not_eq_false]
    rw [stripTokens, map_cons, map_cons, ← marksOf_stripped]
    split
    · rename_i dropped
      rw [filter_cons_of_neg (fun kept => keeps_iff.mp kept dropped), ih]
    · rename_i kept
      rw [filter_cons_of_pos (keeps_iff.mpr kept), map_cons, ih]

/-- Empty pieces may be dropped before stripping. -/
theorem filter_map_trim (tokens : List (List (Char × Bool))) :
    ((tokens.filter (keeps flags)).map (trim isSpace)).filter (keeps flags) =
      (tokens.map (trim isSpace)).filter (keeps flags) := by
  have kept_before : ∀ token, keeps flags (trim isSpace token) = true → keeps flags token = true := by
    intro token kept
    rcases of_decide_eq_true kept with preserve | nonempty
    · exact keeps_of_preserveEmpty preserve token
    · refine decide_eq_true (Or.inr ?_)
      rintro rfl
      exact nonempty (trim_nil isSpace)
  rw [filter_map, filter_map, filter_filter]
  congr 1
  apply filter_congr
  intro token _
  rw [Function.comp_apply]
  cases kept : keeps flags (trim isSpace token) with
  | false => rfl
  | true => rw [kept_before token kept]; rfl

theorem unescape_head (special : Char → Bool) (c : Char) (mark mark' : Bool)
    (token : List (Char × Bool)) :
    unescape special ((c, mark) :: token) = unescape special ((c, mark') :: token) := by
  cases token with
  | nil => rfl
  | cons next token => rw [unescape, unescape]

variable (flags) in
theorem unescape_cons_marksOf (special : Char → Bool) (c : Char) (mark : Bool) (token : List Char) :
    unescape special ((c, mark) :: marksOf flags token) =
      c :: unescape special (marksOf flags token) := by
  cases token with
  | nil => rfl
  | cons next token => rw [marksOf, marks_cons, unescape, Bool.false_and, if_neg Bool.false_ne_true]

theorem unescapeToken_eq (allowed : flags.fAllowEscaping = true) {lookup : Char → Bool}
    (backslash : lookup '\\' = true) (token : List Char) :
    unescapeToken lookup token = unescape lookup (marksOf flags token) := by
  fun_induction unescapeToken lookup token with
  | case1 => rfl
  | case2 => rfl
  | case3 c next token special ih =>
    have is_escape : isEscape flags c = true := by
      rw [isEscape, allowed, decide_eq_true special.1, Bool.and_true]
    rw [marksOf, marks_cons, marks_cons, is_escape, unescape, special.2, ih]
    exact (unescape_cons_marksOf flags lookup next true token).symm
  | case4 c next token plain ih =>
    cases is_escape : isEscape flags c with
    | false =>
      have cons := unescape_cons_marksOf flags lookup c false (next :: token)
      rw [marksOf, marks_cons, is_escape, Bool.and_false, cons, ih]
    | true =>
      have is_backslash : c = '\\' := by
        rw [isEscape, allowed, Bool.true_and] at is_escape
        exact of_decide_eq_true is_escape
      have ordinary : lookup next = false := by
        rw [← Bool.not_eq_true]
        exact fun special => plain ⟨is_backslash, special⟩
      have no_backslash : next ≠ '\\' := by
        rintro rfl
        rw [backslash] at ordinary
        cases ordinary
      have next_plain : isEscape flags next = false := isEscape_eq_false no_backslash
      have marked : marksOf flags (c :: next :: token) =
          (c, false) :: (next, true) :: marksOf flags token := by
        rw [marksOf, marks_cons, marks_cons, is_escape]
        rfl
      have marked_next : marksOf flags (next :: token) = (next, false) :: marksOf flags token := by
        rw [marksOf, marks_cons, next_plain]
        rfl
      rw [ih, marked_next, marked, unescape, ordinary, Bool.and_false,
        if_neg Bool.false_ne_true, unescape_head lookup next true false]

abbrev tokenPieces (flags : StrsplitSetFlags) (delimiters str : List Char) :
    List (List (Char × Bool)) :=
  (piecesOf flags delimiters false str).filter (keeps flags)

theorem tokensOf_eq {str : List Char} (nonempty : str ≠ []) :
    tokensOf flags delimiters str =
      let tokens := tokenPieces flags delimiters str
      let tokens :=
        if flags.strstrip then (tokens.map (trim isSpace)).filter (keeps flags) else tokens
      if flags.escaped then tokens.map (unescape (unescapes flags delimiters))
      else tokens.map (·.map Prod.fst) := by
  rw [tokensOf, if_neg nonempty]
  dsimp only
  cases flags.strstrip with
  | false => rfl
  | true =>
    rw [if_pos rfl, if_pos rfl, filter_map_trim]
    rfl

theorem texts_eq (tokens : List (List Char)) :
    (if flags.escaped then tokens.map (unescapeToken (unescapes flags delimiters)) else tokens) =
      if flags.escaped then
        (tokens.map (marksOf flags)).map (unescape (unescapes flags delimiters))
      else (tokens.map (marksOf flags)).map (·.map Prod.fst) := by
  split
  · rename_i escaped
    have allowed : flags.fAllowEscaping = true := by
      rw [StrsplitSetFlags.fAllowEscaping, escaped]
      rfl
    have backslash : unescapes flags delimiters '\\' = true :=
      decide_eq_true (Or.inr (Or.inl rfl))
    rw [map_map]
    exact map_congr_left fun token _ => unescapeToken_eq allowed backslash token
  · rw [map_map]
    have same : ((·.map Prod.fst) ∘ marksOf flags) = id := by
      funext token
      exact map_fst_marks false token
    rw [same, map_id]

theorem tokenPieces_textToSplit (no_backslash : flags.fAllowEscaping = true → '\\' ∉ delimiters)
    (str : Option CText) :
    tokenPieces flags delimiters (textToSplit flags delimiters str) =
      tokenPieces flags delimiters ((str.map Subtype.val).getD []) := by
  unfold textToSplit
  cases preserve : flags.preserveEmpty with
  | true => rfl
  | false => exact (filter_piecesOf_skip no_backslash preserve _).symm

theorem starts_textToSplit {str : Option CText} (more : textToSplit flags delimiters str ≠ []) :
    Starts flags delimiters (textToSplit flags delimiters str) := by
  unfold textToSplit at more ⊢
  cases preserve : flags.preserveEmpty with
  | true => exact Starts.of_preserveEmpty preserve
  | false =>
    rw [preserve] at more
    exact Starts.of_dropWhile more

theorem nul_not_mem_textToSplit (str : Option CText) :
    '\x00' ∉ textToSplit flags delimiters str := by
  have no_nul : '\x00' ∉ (str.map Subtype.val).getD [] := by
    cases str with
    | none => exact not_mem_nil
    | some str => exact str.2
  unfold textToSplit
  dsimp only
  split
  · exact no_nul
  · exact fun mem => no_nul ((dropWhile_suffix _).mem mem)

theorem passes_agree (no_backslash : flags.fAllowEscaping = true → '\\' ∉ delimiters)
    {text : List Char} (no_nul : '\x00' ∉ text) (starts : Starts flags delimiters text) :
    ∃ copy ptr,
      splitTokens flags delimiters (countTokens flags delimiters [] text 1) [] text [] =
        some (copy, ptr) ∧
      ptr.length = countTokens flags delimiters [] text 1 ∧
      (ptr.map (textAt copy)).map (marksOf flags) = tokenPieces flags delimiters text := by
  have counted : countTokens flags delimiters [] text 1 =
      (tokenPieces flags delimiters text).length := by
    have plain : looksEscaped flags [] = false := Bool.and_false _
    rw [countTokens_eq no_backslash, starts.length_tokens, plain, Nat.add_comm]
  have room : ([] : List Nat).length + (tokenPieces flags delimiters text).length ≤
      countTokens flags delimiters [] text 1 := by
    exact Nat.le_of_eq (by rw [length_nil, Nat.zero_add, counted])
  obtain ⟨copy, ptr, stores⟩ := splitTokens_stores no_backslash [] no_nul starts room
  have lengths := congrArg length stores.tokens_eq
  rw [length_map, length_map] at lengths
  exact ⟨copy, ptr, stores.result_eq, lengths.trans counted.symm, stores.tokens_eq⟩

theorem tokensOf_eq_nil (no_backslash : flags.fAllowEscaping = true → '\\' ∉ delimiters)
    {str : Option CText} (empty : textToSplit flags delimiters str = []) :
    tokensOf flags delimiters ((str.map Subtype.val).getD []) = [] := by
  by_cases nonempty : (str.map Subtype.val).getD [] = []
  · rw [tokensOf, if_pos nonempty]
  · have dropped : flags.preserveEmpty = false := by
      cases preserve : flags.preserveEmpty with
      | false => rfl
      | true =>
        rw [textToSplit, preserve] at empty
        exact absurd empty nonempty
    have none : tokenPieces flags delimiters ((str.map Subtype.val).getD []) = [] := by
      rw [← tokenPieces_textToSplit no_backslash, empty, tokenPieces, piecesOf, pieces_nil,
        filter_cons_of_neg (by rw [keeps_nil dropped]; decide)]
      rfl
    rw [tokensOf_eq nonempty, none]
    dsimp only
    split <;> split <;> rfl

theorem tokensOf_of_stored {str : List Char} (nonempty : str ≠ []) {tokens : List (List Char)}
    (stored : tokens.map (marksOf flags) = tokenPieces flags delimiters str) :
    tokensOf flags delimiters str =
      let tokens := if flags.strstrip then stripTokens flags tokens else tokens
      if flags.escaped then tokens.map (unescapeToken (unescapes flags delimiters)) else tokens := by
  rw [tokensOf_eq nonempty, ← stored]
  dsimp only
  rw [texts_eq]
  cases flags.strstrip with
  | false => rfl
  | true =>
    rw [if_pos rfl, if_pos rfl, stripTokens_eq]

theorem ofTokens_eq {tokens : List (List Char)} (f : List Char → List Char)
    (some : flags.strstrip = false → tokens ≠ []) :
    (if flags.strstrip = true ∧ tokens = [] then SplitResult.null
      else if flags.escaped = true then .strv (tokens.map f) else .strv tokens) =
      .ofTokens (if flags.escaped = true then tokens.map f else tokens) := by
  by_cases none : tokens = []
  · have strip : flags.strstrip = true := by
      rw [← Bool.not_eq_false]
      exact fun keep => some keep none
    subst none
    rw [if_pos ⟨strip, rfl⟩]
    split <;> rfl
  · rw [if_neg (fun empty => none empty.2)]
    split
    · rw [SplitResult.ofTokens, if_neg (fun empty => none (map_eq_nil_iff.mp empty))]
    · rw [SplitResult.ofTokens, if_neg none]

theorem strsplitSetFull_ofTokens (str delimiters : Option CText)
    (no_backslash : flags.fAllowEscaping = true → '\\' ∉ delimitersOf delimiters) :
    strsplitSetFull str delimiters flags =
      .ofTokens (tokensOf flags (delimitersOf delimiters) ((str.map Subtype.val).getD [])) := by
  unfold strsplitSetFull
  dsimp only
  generalize delimitersOf delimiters = delimiters at *
  by_cases empty : textToSplit flags delimiters str = []
  · rw [if_pos empty, tokensOf_eq_nil no_backslash empty]
    rfl
  · have nonempty : (str.map Subtype.val).getD [] ≠ [] := by
      intro none
      refine empty ?_
      rw [textToSplit, none]
      split <;> rfl
    have starts := starts_textToSplit empty
    obtain ⟨copy, ptr, stored, -, tokens_eq⟩ := passes_agree no_backslash
      (nul_not_mem_textToSplit str) starts
    rw [tokenPieces_textToSplit no_backslash] at tokens_eq
    rw [if_neg empty, stored, tokensOf_of_stored nonempty tokens_eq]
    dsimp only
    apply ofTokens_eq
    intro keep
    rw [if_neg (by rw [keep]; exact Bool.false_ne_true)]
    intro none
    have counted := starts.length_tokens false
    rw [← tokenPieces, tokenPieces_textToSplit no_backslash, ← tokens_eq, none] at counted
    exact absurd counted (Nat.succ_ne_zero _).symm

/-- For every text, all delimiters and all flags, the second pass stores just as many tokens as the
first one has counted, and the function returns the tokens of the text. -/
theorem strsplitSetFull_eq (str delimiters : Option CText) (flags : StrsplitSetFlags)
    (no_backslash : flags.fAllowEscaping = true → '\\' ∉ delimitersOf delimiters) :
    (∀ text, text = textToSplit flags (delimitersOf delimiters) str → text ≠ [] →
      ∃ copy ptr,
        splitTokens flags (delimitersOf delimiters)
          (countTokens flags (delimitersOf delimiters) [] text 1) [] text [] = some (copy, ptr) ∧
        ptr.length = countTokens flags (delimitersOf delimiters) [] text 1) ∧
    strsplitSetFull str delimiters flags =
      .ofTokens (tokensOf flags (delimitersOf delimiters) ((str.map Subtype.val).getD [])) := by
  constructor
  · rintro text rfl more
    obtain ⟨copy, ptr, stored, counted, -⟩ := passes_agree no_backslash
      (nul_not_mem_textToSplit str) (starts_textToSplit more)
    exact ⟨copy, ptr, stored, counted⟩
  · exact strsplitSetFull_ofTokens str delimiters no_backslash

/-- Blanks, an escaped delimiter and empty words between delimiters. -/
theorem strsplitSetFull_words :
    strsplitSetFull (some ⟨", a\\,b ,,\\ ".toList, by decide⟩) (some ⟨[','], by decide⟩)
      { strstrip := true, escaped := true } = .ofTokens [['a', ',', 'b'], [' ']] :=
  (strsplitSetFull_eq (some ⟨", a\\,b ,,\\ ".toList, by decide⟩) (some ⟨[','], by decide⟩)
    { strstrip := true, escaped := true } (by decide)).2

end NetworkManager.StrsplitSet
