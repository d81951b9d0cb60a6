import NetworkManager.Core.StrsplitSet

/-!
# The two passes of splitting

The first pass counts the pieces that the second one stores: looking back for backslashes at a
delimiter finds the ones that the second pass has skipped.  The tokens that are stored are then
stripped and unescaped as their marks say.
-/

namespace NetworkManager.StrsplitSet

open Ascii EscapeMarks EscapedTokens List

variable {flags : StrsplitSetFlags} {delimiters : List Char}

theorem isEscape_eq_false {c : Char} (no_backslash : c ≠ '\\') : isEscape flags c = false := by
  rw [isEscape, decide_eq_false no_backslash, Bool.and_false]

theorem isEscape_of_space (c : Char) (space : isSpace c = true) : isEscape flags c = false := by
  apply isEscape_eq_false
  rintro rfl
  cases space

theorem charIsEscaped_eq (before : List Char) :
    charIsEscaped before = oddRun (fun c => decide (c = '\\')) before := by
  rw [charIsEscaped, oddRun]

/-- What `_char_is_escaped` finds, with escaping. -/
def looksEscaped (flags : StrsplitSetFlags) (before : List Char) : Bool :=
  flags.fAllowEscaping && charIsEscaped before

/-- One more character in front of `c_str`. -/
theorem looksEscaped_cons (c : Char) (before : List Char) :
    looksEscaped flags (c :: before) = (!looksEscaped flags before && isEscape flags c) := by
  unfold looksEscaped isEscape
  rw [charIsEscaped_eq, charIsEscaped_eq, oddRun_cons]
  cases flags.fAllowEscaping with
  | false => rfl
  | true => simp only [Bool.true_and]

theorem nextMark_eq_looksEscaped (text : List Char) :
    nextMark (isEscape flags) false text = looksEscaped flags text.reverse := by
  unfold looksEscaped
  cases allowed : flags.fAllowEscaping with
  | false =>
    have none : ∀ c, isEscape flags c = false := by
      intro c
      rw [isEscape, allowed, Bool.false_and]
    rw [nextMark_none none, Bool.false_and]
  | true =>
    have same : isEscape flags = fun c => decide (c = '\\') := by
      funext c
      rw [isEscape, allowed, Bool.true_and]
    rw [same, nextMark_eq_oddRun, charIsEscaped_eq, Bool.true_and]

abbrev piecesOf (flags : StrsplitSetFlags) (delimiters : List Char) (escaped : Bool)
    (str : List Char) : List (List (Char × Bool)) :=
  pieces (fun c => decide (c ∈ delimiters)) (isEscape flags) escaped str

/-- Pieces that are no token are dropped. -/
def keeps (flags : StrsplitSetFlags) (piece : List (Char × Bool)) : Bool :=
  flags.preserveEmpty ∨ piece ≠ []

theorem keeps_of_preserveEmpty (preserve : flags.preserveEmpty = true)
    (piece : List (Char × Bool)) : keeps flags piece = true :=
  decide_eq_true (Or.inl preserve)

theorem keeps_nil (drop : flags.preserveEmpty = false) : keeps flags [] = false := by
  unfold keeps
  rw [drop]
  decide

/-- Without empty tokens, a text to be split begins with a token. -/
def Starts (flags : StrsplitSetFlags) (delimiters str : List Char) : Prop :=
  flags.preserveEmpty = true ∨ ∃ c rest, str = c :: rest ∧ c ∉ delimiters

variable {str : List Char}

theorem Starts.of_dropWhile (more : str.dropWhile (fun c => decide (c ∈ delimiters)) ≠ []) :
    Starts flags delimiters (str.dropWhile fun c => decide (c ∈ delimiters)) := by
  right
  obtain ⟨c, rest, eq⟩ := exists_cons_of_ne_nil more
  have first := head?_dropWhile_not (fun c => decide (c ∈ delimiters)) str
  rw [eq] at first
  exact ⟨c, rest, eq, of_decide_eq_false first⟩

theorem Starts.keeps_head (starts : Starts flags delimiters str) (escaped : Bool)
    (piece : List (Char × Bool)) (head : (piecesOf flags delimiters escaped str).head? = some piece) :
    keeps flags piece = true := by
  rcases starts with preserve | ⟨c, rest, rfl, outside⟩
  · exact keeps_of_preserveEmpty preserve piece
  · have joins : separates (fun c => decide (c ∈ delimiters)) (c, escaped) = false := by
      rw [separates, decide_eq_false outside, Bool.false_and]
    rw [piecesOf, pieces_cons_of_not_separates joins] at head
    obtain ⟨first, others, eq⟩ := exists_cons_of_ne_nil (pieces_ne_nil
      (fun c => decide (c ∈ delimiters)) (isEscape flags) (!escaped && isEscape flags c) rest)
    rw [eq, modifyHead_cons, head?_cons] at head
    obtain rfl := Option.some.inj head
    exact decide_eq_true (Or.inr (cons_ne_nil _ _))

theorem Starts.length_tokens (starts : Starts flags delimiters str) (escaped : Bool) :
    ((piecesOf flags delimiters escaped str).filter (keeps flags)).length =
      ((piecesOf flags delimiters escaped str).tail.filter (keeps flags)).length + 1 :=
  length_filter_pieces (starts.keeps_head escaped)

theorem Starts.of_preserveEmpty (preserve : flags.preserveEmpty = true) :
    Starts flags delimiters str :=
  Or.inl preserve

theorem tail_piecesOf_cons {c : Char} {escaped : Bool}
    (joins : separates (fun c => decide (c ∈ delimiters)) (c, escaped) = false) (str : List Char) :
    (piecesOf flags delimiters escaped (c :: str)).tail =
      (piecesOf flags delimiters (!escaped && isEscape flags c) str).tail := by
  rw [piecesOf, pieces_cons_of_not_separates joins, tail_modifyHead]

theorem looksEscaped_eq_false {before : List Char}
    (plain : ¬ (flags.fAllowEscaping = true ∧ charIsEscaped before = true)) :
    looksEscaped flags before = false := by
  rw [looksEscaped, Bool.and_eq_false_iff, ← Bool.not_eq_true, ← Bool.not_eq_true]
  exact not_and_or.mp plain

section Passes

variable (no_backslash : flags.fAllowEscaping = true → '\\' ∉ delimiters)

include no_backslash in
theorem isEscape_of_mem {c : Char} (mem : c ∈ delimiters) : isEscape flags c = false := by
  cases allowed : flags.fAllowEscaping with
  | false => rw [isEscape, allowed, Bool.false_and]
  | true =>
    apply isEscape_eq_false
    rintro rfl
    exact no_backslash allowed mem

include no_backslash in
theorem piecesOf_cons_delimiter {c : Char} (mem : c ∈ delimiters) (str : List Char) :
    piecesOf flags delimiters false (c :: str) = [] :: piecesOf flags delimiters false str := by
  have splits : separates (fun c => decide (c ∈ delimiters)) (c, false) = true := by
    rw [separates, decide_eq_true mem]
    rfl
  rw [piecesOf, pieces_cons_of_separates splits, isEscape_of_mem no_backslash mem, Bool.and_false]

include no_backslash in
theorem filter_piecesOf_skip (drop : flags.preserveEmpty = false) (str : List Char) :
    (piecesOf flags delimiters false str).filter (keeps flags) =
      (piecesOf flags delimiters false (str.dropWhile fun c => decide (c ∈ delimiters))).filter
        (keeps flags) := by
  have separators : ∀ c ∈ str.takeWhile (fun c => decide (c ∈ delimiters)),
      decide (c ∈ delimiters) = true ∧ isEscape flags c = false := by
    intro c mem
    have inside := mem_takeWhile_imp mem
    exact ⟨inside, isEscape_of_mem no_backslash (of_decide_eq_true inside)⟩
  have skipped := filter_pieces_append separators (keeps_nil drop)
    (str.dropWhile fun c => decide (c ∈ delimiters))
  rwa [takeWhile_append_dropWhile] at skipped

include no_backslash in
theorem looksEscaped_behind {skipped : List Char} (all_delimiters : ∀ c ∈ skipped, c ∈ delimiters)
    (nonempty : skipped ≠ []) (before : List Char) :
    looksEscaped flags (skipped.reverse ++ before) = false := by
  obtain ⟨last, others, eq⟩ :=
    exists_cons_of_ne_nil (reverse_ne_nil_iff.mpr nonempty)
  have last_mem : last ∈ skipped := by
    rw [← mem_reverse, eq]
    exact mem_cons_self
  rw [eq, cons_append, looksEscaped_cons,
    isEscape_of_mem no_backslash (all_delimiters last last_mem), Bool.and_false]

include no_backslash in
theorem countTokens_eq (before str : List Char) (numTokens : Nat) :
    countTokens flags delimiters before str numTokens =
      numTokens + ((piecesOf flags delimiters (looksEscaped flags before) str).tail.filter
        (keeps flags)).length := by
  fun_induction countTokens flags delimiters before str numTokens with
  | case1 => rfl
  | case2 before c str numTokens outside ih =>
    have joins : separates (fun c => decide (c ∈ delimiters)) (c, looksEscaped flags before) =
        false := by
      rw [separates, decide_eq_false outside, Bool.false_and]
    rw [ih, looksEscaped_cons, tail_piecesOf_cons joins]
  | case3 before c str numTokens inside escaped ih =>
    have joins : separates (fun c => decide (c ∈ delimiters)) (c, looksEscaped flags before) =
        false := by
      rw [separates, looksEscaped, escaped.1, escaped.2]
      simp
    rw [ih, looksEscaped_cons, tail_piecesOf_cons joins]
  | case4 before c str numTokens inside plain preserve ih =>
    have mem := Decidable.not_not.mp inside
    rw [ih, looksEscaped_cons, looksEscaped_eq_false plain, isEscape_of_mem no_backslash mem,
      Bool.and_false, piecesOf_cons_delimiter no_backslash mem, tail_cons,
      (Starts.of_preserveEmpty preserve).length_tokens]
    omega
  | case5 before c str numTokens inside plain drop next last =>
    have mem := Decidable.not_not.mp inside
    have dropped := Bool.not_eq_true _ ▸ drop
    have all_skipped : str.dropWhile (fun c => decide (c ∈ delimiters)) = [] := last
    have none : (piecesOf flags delimiters false str).filter (keeps flags) = [] := by
      rw [filter_piecesOf_skip no_backslash dropped str, all_skipped, piecesOf, pieces_nil,
        filter_cons_of_neg (by rw [keeps_nil dropped]; exact Bool.false_ne_true)]
      rfl
    rw [looksEscaped_eq_false plain, piecesOf_cons_delimiter no_backslash mem, tail_cons, none]
    rfl
  | case6 before c str numTokens inside plain drop skipped next more ih =>
    have mem := Decidable.not_not.mp inside
    have dropped := Bool.not_eq_true _ ▸ drop
    have before_next : looksEscaped flags (skipped.reverse ++ c :: before) = false := by
      have all_delimiters : ∀ d ∈ c :: skipped, d ∈ delimiters := by
        intro d d_mem
        rcases mem_cons.mp d_mem with rfl | d_mem
        · exact mem
        · have taken : decide (d ∈ delimiters) = true :=
            @mem_takeWhile_imp _ (fun c => decide (c ∈ delimiters)) str d d_mem
          exact of_decide_eq_true taken
      have behind := looksEscaped_behind no_backslash all_delimiters (cons_ne_nil c skipped)
        before
      rwa [reverse_cons, append_assoc, singleton_append] at behind
    rw [ih, before_next, looksEscaped_eq_false plain, piecesOf_cons_delimiter no_backslash mem,
      tail_cons, filter_piecesOf_skip no_backslash dropped str,
      (Starts.of_dropWhile more).length_tokens]
    exact Nat.add_right_comm _ _ _

/-- What the inner loop of the second pass leaves: it passes characters that do not split, and ends
at a delimiter that does, or at the end. -/
structure Spans (flags : StrsplitSetFlags) (delimiters str passed left : List Char) : Prop where
  str_eq : str = passed ++ left
  joins : ∀ mark ∈ marks (isEscape flags) false passed,
    separates (fun c => decide (c ∈ delimiters)) mark = false
  ends : left = [] ∨ ∃ c rest, left = c :: rest ∧ c ∈ delimiters ∧
    nextMark (isEscape flags) false passed = false

variable (flags delimiters) in
theorem spanToken_spans (str : List Char) : Spans flags delimiters str
    (spanToken flags delimiters str).1 (spanToken flags delimiters str).2 := by
  fun_induction spanToken flags delimiters str with
  | case1 => exact ⟨rfl, fun _ mem => absurd mem not_mem_nil, Or.inl rfl⟩
  | case2 c str inside =>
    exact ⟨rfl, fun _ mem => absurd mem not_mem_nil, Or.inr ⟨c, str, rfl, inside, rfl⟩⟩
  | case3 c outside backslash =>
    refine ⟨rfl, ?_, Or.inl rfl⟩
    intro mark mem
    rw [marks_cons, marks_nil, mem_singleton] at mem
    rw [mem, separates, decide_eq_false outside, Bool.false_and]
  | case4 c outside backslash next str passed left span_eq ih =>
    rw [span_eq] at ih
    have is_escape : isEscape flags c = true := by
      rw [isEscape, backslash.2, decide_eq_true backslash.1]
      rfl
    have marks_eq : marks (isEscape flags) false (c :: next :: passed) =
        (c, false) :: (next, true) :: marks (isEscape flags) false passed := by
      rw [marks_cons, marks_cons, is_escape]
      rfl
    have nextMark_eq : nextMark (isEscape flags) false (c :: next :: passed) =
        nextMark (isEscape flags) false passed := by
      rw [nextMark, nextMark, is_escape]
      rfl
    constructor
    case str_eq => rw [ih.str_eq, cons_append, cons_append]
    case joins =>
      rw [marks_eq, forall_mem_cons, forall_mem_cons]
      refine ⟨?_, Bool.and_false _, ih.joins⟩
      rw [separates, decide_eq_false outside, Bool.false_and]
    case ends =>
      rw [nextMark_eq]
      exact ih.ends
  | case5 c str outside plain passed left span_eq ih =>
    rw [span_eq] at ih
    have no_escape : isEscape flags c = false := by
      rw [isEscape, Bool.and_eq_false_iff, ← Bool.not_eq_true, decide_eq_false_iff_not]
      exact (not_and_or.mp plain).symm
    constructor
    case str_eq => rw [ih.str_eq, cons_append]
    case joins =>
      rw [marks_cons, no_escape, Bool.and_false, forall_mem_cons]
      refine ⟨?_, ih.joins⟩
      rw [separates, decide_eq_false outside, Bool.false_and]
    case ends =>
      rw [nextMark, no_escape, Bool.and_false]
      exact ih.ends

variable (front : List Char)

/-- A token that was stored is read up to the zero byte behind it. -/
theorem textAt_token {token : List Char} (no_nul : '\x00' ∉ token) (rest : List Char)
    (ended : rest = [] ∨ ∃ others, rest = '\x00' :: others) :
    textAt (front ++ (token ++ rest)) front.length = token := by
  have inside : ∀ c ∈ token, decide (c ≠ '\x00') = true := by
    intro c mem
    apply decide_eq_true
    rintro rfl
    exact no_nul mem
  rw [textAt, drop_left]
  rw [takeWhile_append_of_pos inside]
  rcases ended with rfl | ⟨others, rfl⟩
  · rw [takeWhile_nil, append_nil]
  · rw [takeWhile_cons_of_neg (by simp), append_nil]

/-- What the second pass stores, if the array has room: the places of the tokens, which are the
pieces of the text. -/
structure Stores (flags : StrsplitSetFlags) (delimiters front str : List Char) (ptr : List Nat)
    (result : Option (List Char × List Nat)) (tail : List Char) (places : List Nat) : Prop where
  result_eq : result = some (front ++ tail, ptr ++ places)
  tokens_eq : (places.map (textAt (front ++ tail))).map (marks (isEscape flags) false) =
    (piecesOf flags delimiters false str).filter (keeps flags)

theorem stores_last {token : List Char} (ptr : List Nat) (no_nul : '\x00' ∉ token)
    (starts : Starts flags delimiters token)
    (joins : ∀ mark ∈ marks (isEscape flags) false token,
      separates (fun c => decide (c ∈ delimiters)) mark = false) :
    Stores flags delimiters front token ptr (some (front ++ token, ptr ++ [front.length])) token
      [front.length] := by
  have kept := starts.keeps_head false (marks (isEscape flags) false token)
  have read := textAt_token front no_nul [] (Or.inl rfl)
  rw [append_nil] at read
  rw [piecesOf, pieces_of_joins joins] at kept
  constructor
  case result_eq => rfl
  case tokens_eq =>
    rw [piecesOf, pieces_of_joins joins, filter_cons_of_pos (kept rfl), map_singleton,
      map_singleton, read]
    rfl

theorem Stores.after_token {front front' copy token skipped next tail : List Char}
    {ptr places : List Nat} {result : Option (List Char × List Nat)} (no_nul : '\x00' ∉ token)
    (front_eq : front' = front ++ (token ++ '\x00' :: skipped))
    (filter_eq : (piecesOf flags delimiters false copy).filter (keeps flags) =
      marks (isEscape flags) false token ::
        (piecesOf flags delimiters false next).filter (keeps flags))
    (stores : Stores flags delimiters front' next (ptr ++ [front.length]) result tail places) :
    Stores flags delimiters front copy ptr result (token ++ '\x00' :: (skipped ++ tail))
      (front.length :: places) := by
  have copy_eq : front' ++ tail = front ++ (token ++ '\x00' :: (skipped ++ tail)) := by
    rw [front_eq, append_assoc, append_assoc, cons_append]
  have result_eq := stores.result_eq
  have tokens_eq := stores.tokens_eq
  rw [copy_eq] at result_eq tokens_eq
  have read := textAt_token front no_nul ('\x00' :: (skipped ++ tail)) (Or.inr ⟨_, rfl⟩)
  constructor
  case result_eq => rw [result_eq, append_assoc, singleton_append]
  case tokens_eq => rw [filter_eq, ← tokens_eq, map_cons, map_cons, read]

include no_backslash in
theorem Spans.filter_eq {copy passed left : List Char} {c : Char}
    (spans : Spans flags delimiters copy passed (c :: left)) (starts : Starts flags delimiters copy) :
    (piecesOf flags delimiters false copy).filter (keeps flags) =
      marks (isEscape flags) false passed ::
        (piecesOf flags delimiters false left).filter (keeps flags) := by
  obtain impossible | ⟨delimiter, rest, left_eq, mem, unescaped⟩ := spans.ends
  · cases impossible
  · obtain ⟨rfl, rfl⟩ := cons.inj left_eq
    have splits : separates (fun c => decide (c ∈ delimiters))
        (c, nextMark (isEscape flags) false passed) = true := by
      rw [separates, decide_eq_true mem, unescaped]
      rfl
    have pieces_eq : piecesOf flags delimiters false copy =
        marks (isEscape flags) false passed :: piecesOf flags delimiters false left := by
      rw [spans.str_eq, piecesOf, pieces_append_cons spans.joins splits, unescaped,
        isEscape_of_mem no_backslash mem, Bool.and_false]
    have kept := starts.keeps_head false (marks (isEscape flags) false passed)
    rw [pieces_eq] at kept ⊢
    rw [filter_cons_of_pos (kept rfl)]

include no_backslash in
theorem splitTokens_stores {numTokens : Nat} {str : List Char} {ptr : List Nat}
    (no_nul : '\x00' ∉ str) (starts : Starts flags delimiters str)
    (room : ptr.length + ((piecesOf flags delimiters false str).filter (keeps flags)).length ≤
      numTokens) :
    ∃ tail places, Stores flags delimiters front str ptr
      (splitTokens flags delimiters numTokens front str ptr) tail places := by
  fun_induction splitTokens flags delimiters numTokens front str ptr with
  | case1 front copy ptr full =>
    rw [starts.length_tokens] at room
    omega
  | case2 front ptr =>
    have stores := stores_last front ptr no_nul starts fun _ mem => absurd mem not_mem_nil
    rw [append_nil] at stores
    exact ⟨_, _, stores⟩
  | case3 front copy ptr _ _ _ passed span =>
    have spans := spanToken_spans flags delimiters copy
    rw [span] at spans
    have copy_eq := spans.str_eq
    rw [append_nil] at copy_eq
    subst copy_eq
    exact ⟨_, _, stores_last front ptr no_nul starts spans.joins⟩
  | case4 front copy ptr _ _ _ passed c left span front' preserve ih =>
    have spans := spanToken_spans flags delimiters copy
    rw [span] at spans
    have filter_eq := spans.filter_eq no_backslash starts
    rw [spans.str_eq] at no_nul
    rw [filter_eq, length_cons] at room
    obtain ⟨tail, places, stores⟩ := ih (fun mem => no_nul (by simp [mem]))
      (Starts.of_preserveEmpty preserve) (by rw [length_append, length_singleton]; omega)
    have front_eq : front' = front ++ (passed ++ '\x00' :: []) := append_assoc _ _ _
    exact ⟨_, _, stores.after_token (fun mem => no_nul (by simp [mem])) front_eq filter_eq⟩
  | case5 front copy ptr _ _ _ passed c left span front' drop skipped next last =>
    have dropped := Bool.not_eq_true _ ▸ drop
    have spans := spanToken_spans flags delimiters copy
    rw [span] at spans
    have filter_eq := spans.filter_eq no_backslash starts
    rw [filter_piecesOf_skip no_backslash dropped left] at filter_eq
    have all_skipped : left.dropWhile (fun c => decide (c ∈ delimiters)) = [] := last
    rw [all_skipped] at filter_eq
    rw [spans.str_eq] at no_nul
    have front_eq : front' ++ skipped = front ++ (passed ++ '\x00' :: skipped) := by
      rw [append_assoc, append_assoc]
      rfl
    have none : Stores flags delimiters (front' ++ skipped) [] (ptr ++ [front.length])
        (some (front' ++ skipped, ptr ++ [front.length])) [] [] := by
      constructor
      case result_eq => rw [append_nil, append_nil]
      case tokens_eq =>
        rw [piecesOf, pieces_nil, filter_cons_of_neg (by rw [keeps_nil dropped]; decide)]
        rfl
    exact ⟨_, _, none.after_token (fun mem => no_nul (by simp [mem])) front_eq filter_eq⟩
  | case6 front copy ptr _ _ _ passed c left span front' drop skipped next more ih =>
    have dropped := Bool.not_eq_true _ ▸ drop
    have spans := spanToken_spans flags delimiters copy
    rw [span] at spans
    have filter_eq := spans.filter_eq no_backslash starts
    rw [filter_piecesOf_skip no_backslash dropped left] at filter_eq
    rw [spans.str_eq] at no_nul
    have next_no_nul : '\x00' ∉ next := fun mem =>
      no_nul (by simp [(dropWhile_suffix _).mem mem])
    rw [filter_eq, length_cons] at room
    obtain ⟨tail, places, stores⟩ := ih next_no_nul (Starts.of_dropWhile more)
      (by rw [length_append, length_singleton, Nat.add_assoc, Nat.add_comm 1]; exact room)
    have front_eq : front' ++ skipped = front ++ (passed ++ '\x00' :: skipped) := by
      rw [append_assoc, append_assoc]
      rfl
    exact ⟨_, _, stores.after_token (fun mem => no_nul (by simp [mem])) front_eq filter_eq⟩

end Passes

end NetworkManager.StrsplitSet
