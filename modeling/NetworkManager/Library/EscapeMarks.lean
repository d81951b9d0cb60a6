import Mathlib.Data.List.Basic
import Mathlib.Data.List.Induction

/-!
# Escaped characters

An escape character escapes the character after it, unless it is escaped itself.  From the front,
this marks the characters of a text; from behind, a character is escaped if the run of escape
characters in front of it is odd.  A text is split, trimmed and unescaped by its marks.
-/

namespace EscapeMarks

open List

variable {α : Type}

/-- The characters of a text, each with a mark if it is escaped.  The flag is the first mark. -/
def marks (escape : α → Bool) : Bool → List α → List (α × Bool)
  | _, [] => []
  | escaped, c :: text => (c, escaped) :: marks escape (!escaped && escape c) text

/-- The mark of a character behind a text. -/
def nextMark (escape : α → Bool) : Bool → List α → Bool
  | escaped, [] => escaped
  | escaped, c :: text => nextMark escape (!escaped && escape c) text

/-- A text ends with an odd run of escape characters.  Its last character comes first. -/
def oddRun (escape : α → Bool) (before : List α) : Bool :=
  decide ((before.takeWhile escape).length % 2 ≠ 0)

variable {escape : α → Bool}

section

variable (escaped : Bool)

include escaped

@[simp]
theorem marks_nil : marks escape escaped [] = [] := rfl

@[simp]
theorem marks_cons (c : α) (text : List α) :
    marks escape escaped (c :: text) =
      (c, escaped) :: marks escape (!escaped && escape c) text := rfl

@[simp]
theorem map_fst_marks (text : List α) : (marks escape escaped text).map Prod.fst = text := by
  induction text generalizing escaped with
  | nil => rfl
  | cons c text ih => rw [marks_cons, map_cons, ih]

@[simp]
theorem marks_eq_nil_iff (text : List α) : marks escape escaped text = [] ↔ text = [] := by
  cases text with
  | nil => exact iff_of_true rfl rfl
  | cons c text => exact iff_of_false (cons_ne_nil _ _) (cons_ne_nil _ _)

theorem marks_append (front back : List α) :
    marks escape escaped (front ++ back) =
      marks escape escaped front ++ marks escape (nextMark escape escaped front) back := by
  induction front generalizing escaped with
  | nil => rfl
  | cons c front ih => rw [cons_append, marks_cons, ih, marks_cons, nextMark, cons_append]

theorem nextMark_append (front back : List α) :
    nextMark escape escaped (front ++ back) =
      nextMark escape (nextMark escape escaped front) back := by
  induction front generalizing escaped with
  | nil => rfl
  | cons c front ih => rw [cons_append, nextMark, ih, nextMark]

end

theorem oddRun_cons (c : α) (before : List α) :
    oddRun escape (c :: before) = (!oddRun escape before && escape c) := by
  unfold oddRun
  cases is_escape : escape c with
  | false => rw [takeWhile_cons_of_neg (by simp [is_escape]), Bool.and_false]; rfl
  | true =>
    rw [takeWhile_cons_of_pos is_escape, length_cons, Bool.and_true, Bool.eq_iff_iff,
      Bool.not_eq_true', decide_eq_true_iff, decide_eq_false_iff_not]
    omega

theorem nextMark_eq_oddRun (text : List α) :
    nextMark escape false text = oddRun escape text.reverse := by
  induction text using reverseRecOn with
  | nil => rfl
  | append_singleton text c ih =>
    rw [nextMark_append, ih, reverse_append, reverse_singleton, singleton_append, oddRun_cons]
    rfl

theorem nextMark_none (no_escape : ∀ c, escape c = false) (text : List α) :
    nextMark escape false text = false := by
  induction text with
  | nil => rfl
  | cons c text ih => rw [nextMark, no_escape, Bool.and_false, ih]

/-- A character at which a text is split. -/
def separates (separator : α → Bool) (mark : α × Bool) : Bool := separator mark.1 && !mark.2

/-- A text is split at the separators that are not escaped. -/
def pieces (separator escape : α → Bool) (escaped : Bool) (text : List α) :
    List (List (α × Bool)) :=
  (marks escape escaped text).splitOnP (separates separator)

theorem pieces_ne_nil (separator escape : α → Bool) (escaped : Bool) (text : List α) :
    pieces separator escape escaped text ≠ [] :=
  splitOnP_ne_nil _ _

variable {separator : α → Bool}

@[simp]
theorem pieces_nil (escaped : Bool) : pieces separator escape escaped [] = [[]] := rfl

variable {escaped : Bool}

theorem pieces_cons_of_separates {c : α} (splits : separates separator (c, escaped)) (text : List α) :
    pieces separator escape escaped (c :: text) =
      [] :: pieces separator escape (!escaped && escape c) text := by
  unfold pieces
  rw [marks_cons, splitOnP_cons_eq_if_modifyHead, if_pos splits]

theorem pieces_cons_of_not_separates {c : α} (joins : separates separator (c, escaped) = false)
    (text : List α) :
    pieces separator escape escaped (c :: text) =
      (pieces separator escape (!escaped && escape c) text).modifyHead (List.cons (c, escaped)) := by
  unfold pieces
  rw [marks_cons, splitOnP_cons_eq_if_modifyHead, if_neg (by rw [joins]; exact Bool.false_ne_true)]

theorem pieces_of_joins {text : List α}
    (joins : ∀ mark ∈ marks escape escaped text, separates separator mark = false) :
    pieces separator escape escaped text = [marks escape escaped text] :=
  splitOnP_eq_singleton joins

theorem pieces_append_cons {front : List α} {c : α}
    (joins : ∀ mark ∈ marks escape escaped front, separates separator mark = false)
    (splits : separates separator (c, nextMark escape escaped front)) (text : List α) :
    pieces separator escape escaped (front ++ c :: text) =
      marks escape escaped front ::
        pieces separator escape (!nextMark escape escaped front && escape c) text := by
  unfold pieces
  rw [marks_append, marks_cons]
  exact splitOnP_append_cons_of_forall_mem joins _ splits _

theorem filter_pieces_append {front : List α}
    (separators : ∀ c ∈ front, separator c = true ∧ escape c = false)
    {keep : List (α × Bool) → Bool} (drops : keep [] = false) (text : List α) :
    (pieces separator escape false (front ++ text)).filter keep =
      (pieces separator escape false text).filter keep := by
  induction front with
  | nil => rfl
  | cons c front ih =>
    obtain ⟨own, others⟩ := forall_mem_cons.mp separators
    have splits : separates separator (c, false) = true := by
      rw [separates, own.1]
      rfl
    rw [cons_append, pieces_cons_of_separates splits, own.2, Bool.and_false,
      filter_cons_of_neg (by rw [drops]; exact Bool.false_ne_true), ih others]

theorem length_filter_pieces {text : List α} {keep : List (α × Bool) → Bool}
    (kept : ∀ piece, (pieces separator escape escaped text).head? = some piece → keep piece) :
    ((pieces separator escape escaped text).filter keep).length =
      ((pieces separator escape escaped text).tail.filter keep).length + 1 := by
  obtain ⟨piece, others, eq⟩ :=
    exists_cons_of_ne_nil (pieces_ne_nil separator escape escaped text)
  rw [eq] at kept ⊢
  rw [filter_cons_of_pos (kept piece rfl), length_cons, tail_cons]

/-- The marked text without the blanks around it that are not escaped. -/
def trim (blank : α → Bool) (text : List (α × Bool)) : List (α × Bool) :=
  ((text.dropWhile (separates blank)).reverse.dropWhile (separates blank)).reverse

theorem trim_nil (blank : α → Bool) : trim blank [] = [] := rfl

theorem marks_dropWhile {blank : α → Bool} (plain : ∀ c, blank c = true → escape c = false)
    (text : List α) : marks escape false (text.dropWhile blank) =
      (marks escape false text).dropWhile (separates blank) := by
  induction text with
  | nil => rfl
  | cons c text ih =>
    cases is_blank : blank c with
    | true =>
      rw [dropWhile_cons_of_pos is_blank, marks_cons, dropWhile_cons_of_pos, ih,
        plain c is_blank, Bool.and_false]
      rw [separates, is_blank]
      rfl
    | false =>
      rw [dropWhile_cons_of_neg (by simp [is_blank]), marks_cons,
        dropWhile_cons_of_neg (by simp [separates, is_blank])]

/-- The characters of a marked text, without those that escape a special character. -/
def unescape (special : α → Bool) : List (α × Bool) → List α
  | [] => []
  | [mark] => [mark.1]
  | mark :: next :: text =>
    if next.2 && special next.1 then unescape special (next :: text)
    else mark.1 :: unescape special (next :: text)

end EscapeMarks
