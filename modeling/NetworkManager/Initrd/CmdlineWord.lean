import Mathlib.Data.List.Basic

/-!
# Words of the kernel command line

An argument on the kernel command line is a sequence of words with a separator between them.  A
word in brackets may have the separator itself, as in the text of an IPv6 address.  The reader cuts
the text into words in place.
-/

namespace NetworkManager.Initrd

open List

/-- What may go wrong: memory behind the terminating zero is accessed, or the fuel does not
suffice. -/
inductive WordFault where
  | outside (offset : Nat)
  | outOfFuel
  deriving DecidableEq, Repr

/-- The character that ends a text. -/
def nul : Char := '\x00'

def readAt (text : List Char) (offset : Nat) : Except WordFault Char :=
  match text[offset]? with
  | some c => .ok c
  | none => .error (.outside offset)

/-- The loop of `get_word`: the text and the cursor afterwards. -/
def getWordLoop (separator : Char) : Nat → List Char → Nat → Nat → Except WordFault (List Char × Nat)
  | 0, _, _, _ => .error .outOfFuel
  | fuel + 1, text, argument, nest => do
      let c ← readAt text argument
      if c = nul then return (text, argument)
      else if nest ≠ 0 ∧ c = ']' then
        getWordLoop separator fuel (text.set argument nul) (argument + 1) (nest - 1)
      else if nest = 0 ∧ c = separator then return (text.set argument nul, argument + 1)
      else getWordLoop separator fuel text (argument + 1) nest

/-- `get_word`: where the word starts, if there is one, and the text and the cursor afterwards. -/
def getWord (separator : Char) (fuel : Nat) (text : List Char) (argument : Nat) :
    Except WordFault (Option Nat × List Char × Nat) := do
  let c ← readAt text argument
  let nest := if c = '[' then 1 else 0
  let word := argument + nest
  let (text, argument) ← getWordLoop separator fuel text word nest
  let first ← readAt text word
  return (if first = nul then none else some word, text, argument)

/-- Calls of `get_word`, one after the other. -/
def getWords (separator : Char) (fuel : Nat) :
    Nat → List Char → Nat → Except WordFault (List (Option Nat) × List Char × Nat)
  | 0, text, argument => return ([], text, argument)
  | calls + 1, text, argument => do
      let (word, text, argument) ← getWord separator fuel text argument
      let (words, text, argument) ← getWords separator fuel calls text argument
      return (word :: words, text, argument)

def written (separator : Char) (word : List Char) : List Char :=
  if separator ∈ word then '[' :: (word ++ [']']) else word

def joined (separator : Char) (words : List (List Char)) : List Char :=
  [separator].intercalate (words.map (written separator))

structure Writable (word : List Char) : Prop where
  no_nul : nul ∉ word
  no_bracket : ']' ∉ word
  not_open : word.head? ≠ some '['

/-- The separators that can be used. -/
structure Separates (separator : Char) : Prop where
  not_nul : separator ≠ nul
  not_open : separator ≠ '['
  not_close : separator ≠ ']'

def textAt (text : List Char) (offset : Nat) : List Char := (text.drop offset).takeWhile (· ≠ nul)

/-- A call returned the word, or nothing if the word is empty. -/
def Returned (text : List Char) (word : List Char) : Option Nat → Prop
  | none => word = []
  | some offset => word ≠ [] ∧ textAt text offset = word

variable {separator : Char} {fuel : Nat} {word : List Char}

theorem readAt_length (front back : List Char) (c : Char) :
    readAt (front ++ c :: back) front.length = .ok c := by
  rw [readAt, List.getElem?_append_right (Nat.le_refl _), Nat.sub_self]
  rfl

theorem set_length (front back : List Char) (c d : Char) :
    (front ++ c :: back).set front.length d = front ++ d :: back := by
  rw [set_append_right _ _ (Nat.le_refl _), Nat.sub_self]
  rfl

theorem getWordLoop_pass (fuel : Nat) {nest : Nat} (plain : ∀ c ∈ word,
      c ≠ nul ∧ ¬(nest ≠ 0 ∧ c = ']') ∧ ¬(nest = 0 ∧ c = separator)) (front back : List Char) :
    getWordLoop separator (fuel + word.length) (front ++ (word ++ back)) front.length nest =
      getWordLoop separator fuel (front ++ (word ++ back)) (front ++ word).length nest := by
  induction word generalizing front with
  | nil =>
    rw [List.append_nil]
    rfl
  | cons c word ih =>
    obtain ⟨⟨not_nul, not_close, not_separator⟩, plain⟩ := List.forall_mem_cons.mp plain
    rw [List.length_cons, ← Nat.add_assoc, getWordLoop, List.cons_append, readAt_length]
    simp only [bind, Except.bind, if_neg not_nul, if_neg not_close, if_neg not_separator]
    have rest := ih plain (front ++ [c])
    rw [List.length_append, List.append_assoc, List.append_assoc] at rest
    exact rest

/-- What stands behind a word: the separator and more, or the end of the text. -/
inductive Follows (separator : Char) : List Char → List Char → List Char → Prop
  | more (rest : List Char) : Follows separator (separator :: rest) [nul] rest
  | done : Follows separator [nul] [] [nul]

theorem getWordLoop_end (separates : Separates separator) {tail ended rest : List Char}
    (follows : Follows separator tail ended rest) (fuel : Nat) (front : List Char) :
    getWordLoop separator (fuel + 1) (front ++ tail) front.length 0 =
      .ok (front ++ (ended ++ rest), (front ++ ended).length) := by
  cases follows with
  | more =>
    rw [getWordLoop, readAt_length]
    simp only [bind, Except.bind, if_neg separates.not_nul]
    rw [if_neg fun both => both.1 rfl, if_pos ⟨trivial, trivial⟩, set_length, length_append]
    rfl
  | done =>
    rw [getWordLoop, readAt_length, append_nil]
    rfl

theorem textAt_length (front back : List Char) (no_nul : nul ∉ word) :
    textAt (front ++ (word ++ nul :: back)) front.length = word := by
  rw [textAt, drop_left, takeWhile_append_of_pos]
  · simp [nul]
  · intro c mem
    exact decide_eq_true fun is_nul => no_nul (is_nul ▸ mem)

theorem returned_word (nonempty : word ≠ []) (no_nul : nul ∉ word) (front back : List Char) :
    Returned (front ++ (word ++ nul :: back)) word (some front.length) :=
  ⟨nonempty, textAt_length front back no_nul⟩

theorem getWord_written (separates : Separates separator) (writable : Writable word)
    {tail ended rest : List Char} (follows : Follows separator tail ended rest) (front : List Char)
    (enough : (written separator word).length < fuel) :
    ∃ result body,
      getWord separator fuel (front ++ (written separator word ++ tail)) front.length =
        .ok (result, front ++ (body ++ (ended ++ rest)), (front ++ body ++ ended).length) ∧
      body.length = (written separator word).length ∧
      ∀ later, Returned (front ++ (body ++ nul :: later)) word result := by
  unfold written at enough ⊢
  unfold getWord
  by_cases inside : separator ∈ word
  · rw [if_pos inside] at enough ⊢
    have nonempty : word ≠ [] := ne_nil_of_mem inside
    have plain : ∀ c ∈ word, c ≠ nul ∧ ¬(1 ≠ 0 ∧ c = ']') ∧ ¬(1 = 0 ∧ c = separator) :=
      fun c mem => ⟨fun is_nul => writable.no_nul (is_nul ▸ mem),
        fun both => writable.no_bracket (both.2 ▸ mem), fun both => by cases both.1⟩
    obtain ⟨extra, rfl⟩ : ∃ extra, fuel = extra + 1 + 1 + word.length := by
      refine ⟨fuel - (word.length + 2), ?_⟩
      simp only [length_cons, length_append, length_nil] at enough
      omega
    obtain ⟨c, others, rfl⟩ := exists_cons_of_ne_nil nonempty
    have start : (front ++ ['[']).length = front.length + 1 := length_append
    have text_eq : front ++ ('[' :: (c :: others ++ [']']) ++ tail) =
        front ++ '[' :: (c :: others ++ ']' :: tail) := by simp
    have opened : ∀ back, front ++ '[' :: back = front ++ ['['] ++ back := by simp
    have close : getWordLoop separator (extra + 1 + 1) (front ++ ['['] ++ (c :: others ++ ']' :: tail))
        (front ++ ['['] ++ c :: others).length 1 =
        .ok (front ++ ['['] ++ (c :: others ++ nul :: (ended ++ rest)),
          (front ++ ('[' :: (c :: others) ++ [nul]) ++ ended).length) := by
      have finish := getWordLoop_end separates follows extra (front ++ ['['] ++ c :: others ++ [nul])
      rw [length_append, append_assoc _ [nul]] at finish
      rw [← append_assoc, getWordLoop, readAt_length]
      simp only [bind, Except.bind, set_length]
      rw [if_neg (by decide), if_pos (by decide)]
      refine finish.trans ?_
      simp
    refine ⟨some (front ++ ['[']).length, '[' :: (c :: others) ++ [nul], ?_, by simp, fun later => ?_⟩
    · rw [text_eq, readAt_length]
      simp only [bind, Except.bind, if_pos]
      rw [opened, ← start, getWordLoop_pass _ plain, close]
      simp only [cons_append]
      rw [readAt_length]
      have not_nul : c ≠ nul := fun is_nul => writable.no_nul (is_nul ▸ mem_cons_self)
      simp only [if_neg not_nul, pure, Except.pure]
      simp
    · have returned := returned_word nonempty writable.no_nul (front ++ ['[']) (nul :: later)
      simpa using returned
  · rw [if_neg inside] at enough ⊢
    have plain : ∀ c ∈ word, c ≠ nul ∧ ¬(0 ≠ 0 ∧ c = ']') ∧ ¬(0 = 0 ∧ c = separator) :=
      fun c mem => ⟨fun is_nul => writable.no_nul (is_nul ▸ mem), fun both => both.1 rfl,
        fun both => inside (both.2 ▸ mem)⟩
    obtain ⟨extra, rfl⟩ : ∃ extra, fuel = extra + 1 + word.length := ⟨fuel - (word.length + 1), by omega⟩
    have loop : getWordLoop separator (extra + 1 + word.length) (front ++ (word ++ tail)) front.length 0 =
        .ok (front ++ (word ++ (ended ++ rest)), (front ++ word ++ ended).length) := by
      rw [getWordLoop_pass _ plain, ← append_assoc, getWordLoop_end separates follows, append_assoc]
    obtain ⟨d, more, tail_eq, not_open⟩ : ∃ d more, tail = d :: more ∧ d ≠ '[' := by
      cases follows with
      | more rest => exact ⟨_, rest, rfl, separates.not_open⟩
      | done => exact ⟨nul, [], rfl, by decide⟩
    obtain ⟨others, ends⟩ : ∃ others, ended ++ rest = nul :: others := by
      cases follows with
      | more rest => exact ⟨rest, rfl⟩
      | done => exact ⟨[], rfl⟩
    cases word with
    | nil =>
      refine ⟨none, [], ?_, rfl, fun later => rfl⟩
      rw [nil_append, nil_append] at loop ⊢
      rw [tail_eq, readAt_length, ← tail_eq]
      simp only [bind, Except.bind, if_neg not_open, Nat.add_zero]
      rw [loop, ends]
      simp only [readAt_length]
      rfl
    | cons c others =>
      have c_not_open : c ≠ '[' := fun is_open => writable.not_open (is_open ▸ rfl)
      have not_nul : c ≠ nul := fun is_nul => writable.no_nul (is_nul ▸ mem_cons_self)
      refine ⟨some front.length, c :: others, ?_, rfl,
        fun later => returned_word (cons_ne_nil _ _) writable.no_nul front later⟩
      rw [cons_append, readAt_length, ← cons_append]
      simp only [bind, Except.bind, if_neg c_not_open, Nat.add_zero]
      rw [loop]
      simp only [cons_append]
      rw [readAt_length]
      simp only [if_neg not_nul]
      rfl

theorem joined_cons_cons (separator : Char) (word next : List Char) (words : List (List Char)) :
    joined separator (word :: next :: words) =
      written separator word ++ separator :: joined separator (next :: words) := by
  rw [joined, map_cons, map_cons, intercalate_cons_cons, append_assoc]
  rfl

/-- The words come back one after the other, and in the end the cursor is at the end of the text. -/
theorem getWords_joined_from (separates : Separates separator) {words : List (List Char)}
    (nonempty : words ≠ []) (writable : ∀ word ∈ words, Writable word) (front : List Char)
    (enough : (joined separator words).length < fuel) :
    ∃ results body,
      getWords separator fuel words.length (front ++ (joined separator words ++ [nul]))
          front.length =
        .ok (results, front ++ (body ++ [nul]), (front ++ body).length) ∧
      body.length = (joined separator words).length ∧
      List.Forall₂ (Returned (front ++ (body ++ [nul]))) words results := by
  induction words generalizing front with
  | nil => exact absurd rfl nonempty
  | cons word words ih =>
    obtain ⟨word_writable, words_writable⟩ := forall_mem_cons.mp writable
    cases words with
    | nil =>
      rw [joined, map_singleton, intercalate_singleton] at enough ⊢
      obtain ⟨result, body, run, body_length, returned⟩ :=
        getWord_written separates word_writable .done front enough
      refine ⟨[result], body, ?_, body_length, .cons (returned []) .nil⟩
      rw [length_singleton, getWords, run]
      simp only [bind, Except.bind, getWords]
      simp [pure, Except.pure]
    | cons next words =>
      rw [joined_cons_cons] at enough ⊢
      have shorter : (written separator word).length < fuel := by
        simp only [length_append] at enough
        omega
      have rest_shorter : (joined separator (next :: words)).length < fuel := by
        simp only [length_append, length_cons] at enough
        omega
      obtain ⟨result, body, run, body_length, returned⟩ := getWord_written separates word_writable
        (.more (joined separator (next :: words) ++ [nul])) front shorter
      obtain ⟨results, others, rest_run, others_length, rest_returned⟩ :=
        ih (cons_ne_nil _ _) words_writable (front ++ body ++ [nul]) rest_shorter
      have text_eq : front ++ (body ++ ([nul] ++ (joined separator (next :: words) ++ [nul]))) =
          front ++ body ++ [nul] ++ (joined separator (next :: words) ++ [nul]) := by simp
      refine ⟨result :: results, body ++ [nul] ++ others, ?_, ?_, ?_⟩
      · rw [length_cons, getWords, append_assoc (written separator word), cons_append]
        simp only [bind, Except.bind]
        rw [run]
        simp only
        rw [text_eq, rest_run]
        simp [pure, Except.pure]
      · rw [length_append, length_append, body_length, others_length,
          append_cons, length_append, length_append]
        rfl
      · have own := returned (others ++ [nul])
        simp only [append_assoc, singleton_append] at own rest_returned ⊢
        exact .cons own rest_returned

/-- The words that were joined come back one after the other, and the cursor ends at the end of the
text, where it stays. -/
theorem getWords_joined (separates : Separates separator) {words : List (List Char)}
    (writable : ∀ word ∈ words, Writable word) (enough : (joined separator words).length < fuel) :
    ∃ results text,
      getWords separator fuel words.length (joined separator words ++ [nul]) 0 =
        .ok (results, text, (joined separator words).length) ∧
      text.length = (joined separator words).length + 1 ∧
      List.Forall₂ (Returned text) words results ∧
      getWord separator fuel text (joined separator words).length =
        .ok (none, text, (joined separator words).length) := by
  have stays : ∀ body : List Char, getWord separator fuel (body ++ [nul]) body.length =
      .ok (none, body ++ [nul], body.length) := by
    intro body
    obtain ⟨fuel, rfl⟩ := Nat.exists_eq_add_one_of_ne_zero (Nat.ne_zero_of_lt enough)
    have looped : getWordLoop separator (fuel + 1) (body ++ [nul]) body.length 0 =
        .ok (body ++ [nul], body.length) := by
      rw [getWordLoop, readAt_length]
      rfl
    rw [getWord, readAt_length]
    simp only [bind, Except.bind]
    rw [if_neg (by decide)]
    simp only [Nat.add_zero]
    rw [looped]
    simp only [readAt_length]
    rfl
  cases words with
  | nil => exact ⟨[], [nul], rfl, rfl, .nil, stays []⟩
  | cons word words =>
    obtain ⟨results, body, run, body_length, returned⟩ :=
      getWords_joined_from separates (cons_ne_nil word words) writable [] enough
    refine ⟨results, body ++ [nul], ?_, ?_, returned, ?_⟩
    · rw [← body_length]
      exact run
    · rw [length_append, body_length, length_singleton]
    · rw [← body_length]
      exact stays body

theorem getWords_joined_address :
    ∃ results text,
      getWords ':' 20 3 (joined ':' ["a".toList, [], "f:1".toList] ++ [nul]) 0 =
        .ok (results, text, 8) ∧
      List.Forall₂ (Returned text) ["a".toList, [], "f:1".toList] results := by
  have separates : Separates ':' := ⟨by decide, by decide, by decide⟩
  have writable : ∀ word ∈ ["a".toList, [], "f:1".toList], Writable word :=
    forall_mem_cons.mpr ⟨⟨by decide, by decide, by decide⟩,
      forall_mem_cons.mpr ⟨⟨by decide, by decide, by decide⟩,
        forall_mem_singleton.mpr ⟨by decide, by decide, by decide⟩⟩⟩
  have enough : (joined ':' ["a".toList, [], "f:1".toList]).length < 20 := by decide
  obtain ⟨results, text, run, -, returned, -⟩ := getWords_joined separates writable enough
  exact ⟨results, text, run, returned⟩

end NetworkManager.Initrd
