import NetworkManager.Dhcp.ClasslessRoutes

/-!
# The search domains of a DHCP lease

The search domains come as one text with blanks between them, and some clients write the escape
sequence `\032` for a blank.  The loop that puts blanks in the place of the escape sequences steps
over the character behind each of them, and so it misses every second one of a row.
-/

namespace NetworkManager.Dhcp

open List

/-- What may go wrong: memory behind the terminating zero is read, or the fuel does not suffice. -/
inductive SearchFault where
  | outside (offset : Nat)
  | outOfFuel
  deriving DecidableEq, Repr

/-- The escape sequence of a blank. -/
def escapedSpace : List Char := ['\\', '0', '3', '2']

/-- The character at an offset, which is missing at the end of the text. -/
def charAt (text : List Char) (p : Nat) : Except SearchFault (Option Char) :=
  if p ≤ text.length then .ok text[p]? else .error (.outside p)

/-- Where the first escape sequence of a text stands. -/
def findEscape : List Char → Option Nat
  | [] => none
  | c :: text =>
    if escapedSpace.isPrefixOf (c :: text) then some 0 else (findEscape text).map (· + 1)

/-- `strstr`, from an offset on. -/
def strstr (text : List Char) (p : Nat) : Except SearchFault (Option Nat) :=
  if p ≤ text.length then .ok ((findEscape (text.drop p)).map (p + ·)) else .error (.outside p)

/-- The loop of `process_domain_search`. -/
def clearEscapes : Nat → List Char → Nat → Except SearchFault (List Char)
  | 0, _, _ => .error .outOfFuel
  | fuel + 1, unescaped, p => do
      match ← strstr unescaped p with
      | none => return unescaped
      | some q =>
        let unescaped := unescaped.take q ++ List.replicate 4 ' ' ++ unescaped.drop (q + 4)
        match ← charAt unescaped (q + 4) with
        | none => return unescaped
        | some _ => clearEscapes fuel unescaped (q + 5)

/-- `process_domain_search`: the domains that are added, unless the option is rejected. -/
def processDomainSearch (fuel : Nat) (str : List Char) :
    Except SearchFault (Option (List (List Char))) := do
  let unescaped ← clearEscapes fuel str 0
  if '\\' ∈ unescaped then return none
  else return some ((strsplit unescaped).filter (· ≠ []))

/-- The text with a blank in the place of each escape sequence. -/
def withSpaces : List Char → List Char
  | '\\' :: '0' :: '3' :: '2' :: text => ' ' :: withSpaces text
  | c :: text => c :: withSpaces text
  | [] => []

def spacedWords (text : List Char) : List (List Char) := (text.splitOn ' ').filter (· ≠ [])

/-- The domains of the text, unless a backslash is left. -/
def searchDomains (str : List Char) : Option (List (List Char)) :=
  if '\\' ∈ withSpaces str then none else some (spacedWords (withSpaces str))

def SideBySide (str : List Char) : Prop := escapedSpace ++ escapedSpace <:+: str

/-- What the loop makes of the text from an offset on. -/
def cleared : List Char → List Char
  | ['\\', '0', '3', '2'] => [' ', ' ', ' ', ' ']
  | '\\' :: '0' :: '3' :: '2' :: c :: text => ' ' :: ' ' :: ' ' :: ' ' :: c :: cleared text
  | c :: text => c :: cleared text
  | [] => []

variable {c : Char} {text : List Char}

section

variable (plain : ¬escapedSpace <+: c :: text)

include plain

theorem cleared_plain : cleared (c :: text) = c :: cleared text := by
  rw [cleared]
  · rintro rfl rfl
    exact plain ⟨[], rfl⟩
  · rintro d rest rfl rfl
    exact plain ⟨d :: rest, rfl⟩

theorem withSpaces_plain : withSpaces (c :: text) = c :: withSpaces text := by
  rw [withSpaces]
  rintro rest rfl rfl
  exact plain ⟨rest, rfl⟩

theorem sideBySide_plain : SideBySide (c :: text) ↔ SideBySide text := by
  refine infix_cons_iff.trans (or_iff_right fun starts => plain ?_)
  exact (prefix_append escapedSpace escapedSpace).trans starts

end

/-- The first escape sequence is found, and what stands before it is left alone. -/
theorem findEscape_spec (text : List Char) : (findEscape text = none ∧ cleared text = text) ∨
    ∃ before after, findEscape text = some before.length ∧
      text = before ++ (escapedSpace ++ after) ∧
      cleared text = before ++ cleared (escapedSpace ++ after) := by
  induction text with
  | nil => exact .inl ⟨rfl, rfl⟩
  | cons c text ih =>
    by_cases starts : escapedSpace <+: c :: text
    · obtain ⟨after, after_eq⟩ := starts
      refine .inr ⟨[], after, ?_, after_eq.symm, by rw [after_eq, nil_append]⟩
      rw [findEscape, if_pos (List.isPrefixOf_iff_prefix.mpr ⟨after, after_eq⟩)]
      rfl
    · rw [findEscape, if_neg (mt isPrefixOf_iff_prefix.mp starts), cleared_plain starts]
      rcases ih with ⟨absent, same⟩ | ⟨before, after, found, text_eq, cleared_eq⟩
      · rw [absent, same]
        exact .inl ⟨rfl, rfl⟩
      · rw [found, cleared_eq]
        exact .inr ⟨c :: before, after, rfl, congrArg (c :: ·) text_eq, rfl⟩

theorem clearEscapes_eq {fuel : Nat} (front rest : List Char) (enough : rest.length < fuel) :
    clearEscapes fuel (front ++ rest) front.length = .ok (front ++ cleared rest) := by
  induction fuel generalizing front rest with
  | zero => exact absurd enough (Nat.not_lt_zero _)
  | succ fuel ih =>
    have inside : front.length ≤ (front ++ rest).length := by simp
    rw [clearEscapes, strstr, if_pos inside, drop_left]
    simp only [bind, Except.bind]
    rcases findEscape_spec rest with ⟨absent, same⟩ | ⟨before, after, found, rest_eq, cleared_eq⟩
    · rw [absent, same]
      rfl
    · rw [found, cleared_eq, rest_eq]
      have written : (front ++ (before ++ (escapedSpace ++ after))).take
            (front.length + before.length) ++ replicate 4 ' ' ++
          (front ++ (before ++ (escapedSpace ++ after))).drop (front.length + before.length + 4) =
          front ++ before ++ replicate 4 ' ' ++ after := by
        rw [← append_assoc front, ← length_append, take_left, ← drop_drop, drop_left]
        rfl
      have behind : front.length + before.length + 4 =
          (front ++ before ++ replicate 4 ' ').length := by
        simp only [length_append, length_replicate]
      simp only [Option.map_some]
      rw [written, charAt, behind, if_pos (by simp), List.getElem?_append_right (Nat.le_refl _),
        Nat.sub_self]
      cases after with
      | nil =>
        rw [append_nil, append_assoc]
        rfl
      | cons c after =>
        have shorter : after.length < fuel := by
          rw [rest_eq] at enough
          simp only [length_append, length_cons] at enough
          omega
        have later := ih (front ++ before ++ replicate 4 ' ' ++ [c]) after shorter
        rw [length_append, ← behind, append_assoc _ [c], append_assoc _ [c]] at later
        refine later.trans ?_
        simp only [append_assoc]
        rfl

theorem spacedWords_space (front back : List Char) :
    spacedWords (front ++ ' ' :: back) = spacedWords front ++ spacedWords back := by
  rw [spacedWords, splitOn_append_cons_self, filter_append]
  rfl

theorem filter_strsplit (text : List Char) : (strsplit text).filter (· ≠ []) = spacedWords text := by
  cases text with
  | nil => rfl
  | cons c text => rfl

/-- Two texts have the same words, whatever stands before them. -/
def SameWords (a b : List Char) : Prop :=
  ∀ front, spacedWords (front ++ a) = spacedWords (front ++ b)

theorem SameWords.cons {a b : List Char} (same : SameWords a b) (c : Char) :
    SameWords (c :: a) (c :: b) := by
  intro front
  rw [← singleton_append, ← append_assoc, same, append_assoc]
  rfl

theorem SameWords.spaces {a b : List Char} (same : SameWords a b) :
    SameWords (' ' :: ' ' :: ' ' :: ' ' :: a) (' ' :: b) := by
  have space : ∀ text, spacedWords (' ' :: text) = spacedWords text := spacedWords_space []
  intro front
  rw [spacedWords_space, spacedWords_space, space, space, space]
  exact congrArg _ (same [])

/-- Unless two escape sequences stand side by side, the loop treats each one as a blank; else it
leaves a backslash. -/
theorem cleared_spec (text : List Char) : (SideBySide text ∧ '\\' ∈ cleared text) ∨
    (¬SideBySide text ∧ SameWords (cleared text) (withSpaces text) ∧
      ('\\' ∈ cleared text ↔ '\\' ∈ withSpaces text)) := by
  by_cases starts : escapedSpace <+: text
  · obtain ⟨rest, rfl⟩ := starts
    cases rest with
    | nil =>
      have short : ¬SideBySide escapedSpace := fun inside =>
        absurd inside.length_le (by decide)
      exact .inr ⟨short, SameWords.spaces fun _ => rfl, by decide⟩
    | cons c text =>
      have cleared_eq : cleared (escapedSpace ++ c :: text) =
          ' ' :: ' ' :: ' ' :: ' ' :: c :: cleared text := rfl
      by_cases again : escapedSpace <+: c :: text
      · refine .inl ⟨((prefix_append_right_inj escapedSpace).mpr again).isInfix, ?_⟩
        obtain ⟨rest, rest_eq⟩ := again
        rw [cleared_eq, ← (List.cons.inj rest_eq).1]
        simp
      · have words_eq : withSpaces (escapedSpace ++ c :: text) = ' ' :: c :: withSpaces text := by
          rw [← withSpaces_plain again]
          rfl
        have side_iff : SideBySide (escapedSpace ++ c :: text) ↔ SideBySide text := by
          rw [← sideBySide_plain again]
          refine ⟨fun inside => ?_, fun inside => inside.trans (suffix_append _ _).isInfix⟩
          rcases infix_cons_iff.mp inside with at_start | inside
          · exact absurd ((prefix_append_right_inj escapedSpace).mp at_start) again
          rcases infix_cons_iff.mp inside with at_zero | inside
          · exact absurd (cons_prefix_cons.mp at_zero).1 (by decide)
          rcases infix_cons_iff.mp inside with at_three | inside
          · exact absurd (cons_prefix_cons.mp at_three).1 (by decide)
          rcases infix_cons_iff.mp inside with at_two | inside
          · exact absurd (cons_prefix_cons.mp at_two).1 (by decide)
          exact inside
        rw [cleared_eq, words_eq, side_iff]
        rcases cleared_spec text with ⟨side, left⟩ | ⟨apart, same, left_iff⟩
        · exact .inl ⟨side, by simp [left]⟩
        · exact .inr ⟨apart, (same.cons c).spaces, by simp [left_iff]⟩
  · cases text with
    | nil =>
      have short : ¬SideBySide [] := fun inside => absurd inside.length_le (by decide)
      exact .inr ⟨short, fun _ => rfl, Iff.rfl⟩
    | cons c text =>
      rw [cleared_plain starts, withSpaces_plain starts, sideBySide_plain starts, mem_cons,
        mem_cons]
      rcases cleared_spec text with ⟨side, left⟩ | ⟨apart, same, left_iff⟩
      · exact .inl ⟨side, .inr left⟩
      · exact .inr ⟨apart, same.cons c, or_congr_right left_iff⟩
termination_by text.length

/-- The option is processed without reading behind its text, and as it should be exactly if no two
escape sequences stand side by side, or if another backslash is a reason to reject it anyway. -/
theorem processDomainSearch_iff (str : List Char) :
    ∃ added, (∀ fuel, str.length < fuel → processDomainSearch fuel str = .ok added) ∧
      (added = searchDomains str ↔ ¬SideBySide str ∨ '\\' ∈ withSpaces str) := by
  refine ⟨if '\\' ∈ cleared str then none else some (spacedWords (cleared str)),
    fun fuel enough => ?_, ?_⟩
  · unfold processDomainSearch
    rw [show clearEscapes fuel str 0 = .ok (cleared str) from clearEscapes_eq [] str enough]
    simp only [bind, Except.bind, filter_strsplit]
    split <;> rfl
  · unfold searchDomains
    rcases cleared_spec str with ⟨side, left⟩ | ⟨apart, same, left_iff⟩
    · rw [if_pos left, or_iff_right (not_not.mpr side)]
      split
      · rename_i stray
        exact iff_of_true rfl stray
      · rename_i clean
        exact iff_of_false (by simp) clean
    · refine iff_of_true ?_ (.inl apart)
      exact if_congr left_iff rfl (congrArg some (same []))

/-- Of two escape sequences side by side, the second one is taken for a stray backslash. -/
theorem processDomainSearch_fails :
    let str := "a\\032\\032b".toList
    processDomainSearch 20 str = .ok none ∧ searchDomains str = some ["a".toList, "b".toList] := by
  decide +kernel

end NetworkManager.Dhcp
