import NetworkManager.Config.InternFile

/-!
# The text of a section

The file of the internal configuration keeps, for each section that it overwrites, a text of what the
user configured in that section.  Sections with the same text are the same.
-/

namespace NetworkManager.Config

open GKeyFile List Option

def isEscaped (c : Char) : Prop := c = '\\' ∨ c = '+' ∨ c = '#' ∨ c = ':'

instance (c : Char) : Decidable (isEscaped c) := inferInstanceAs (Decidable (_ ∨ _ ∨ _ ∨ _))

/-- A text is followed by a character that would be escaped within it, and so it can be told where
it ends. -/
theorem stringAppendVal_append_inj {a b : Text} {mark : Char} (marks : isEscaped mark)
    (not_plus : mark ≠ '+') {restA restB : Text}
    (same : stringAppendVal a ++ mark :: restA = stringAppendVal b ++ mark :: restB) :
    a = b ∧ restA = restB := by
  have body : ∀ a b : Text,
      (a.flatMap fun c => if isEscaped c then ['+', c] else [c]) ++ mark :: restA =
        (b.flatMap fun c => if isEscaped c then ['+', c] else [c]) ++ mark :: restB →
      a = b ∧ restA = restB := by
    intro a
    induction a with
    | nil =>
      intro b same
      cases b with
      | nil => exact ⟨rfl, (List.cons.inj same).2⟩
      | cons d b =>
        rw [flatMap_cons] at same
        split at same
        · exact absurd (List.cons.inj same).1 not_plus
        · rename_i plain
          exact absurd ((List.cons.inj same).1 ▸ marks) plain
    | cons c a ih =>
      intro b same
      cases b with
      | nil =>
        rw [flatMap_cons] at same
        split at same
        · exact absurd (List.cons.inj same).1.symm not_plus
        · rename_i plain
          exact absurd ((List.cons.inj same).1 ▸ marks) plain
      | cons d b =>
        rw [flatMap_cons, flatMap_cons] at same
        by_cases escaped_c : isEscaped c <;> by_cases escaped_d : isEscaped d
        · rw [if_pos escaped_c, if_pos escaped_d] at same
          obtain ⟨rfl, tails⟩ := List.cons.inj (List.cons.inj same).2
          obtain ⟨rfl, rest_eq⟩ := ih b tails
          exact ⟨rfl, rest_eq⟩
        · rw [if_pos escaped_c, if_neg escaped_d] at same
          exact absurd ((List.cons.inj same).1 ▸ .inr (.inl rfl)) escaped_d
        · rw [if_neg escaped_c, if_pos escaped_d] at same
          exact absurd ((List.cons.inj same).1 ▸ .inr (.inl rfl)) escaped_c
        · rw [if_neg escaped_c, if_neg escaped_d] at same
          obtain ⟨rfl, tails⟩ := List.cons.inj same
          obtain ⟨rfl, rest_eq⟩ := ih b tails
          exact ⟨rfl, rest_eq⟩
  exact body a b (List.cons.inj same).2

def keysText (value : Text → Option Text) (keys : List Text) : Text :=
  keys.flatMap fun key =>
    stringAppendVal key ++ ":".toList ++ ((value key).map stringAppendVal).getD [] ++ "#".toList

theorem keysText_cons {value : Text → Option Text} {key word : Text} (found : value key = some word)
    (keys : List Text) :
    keysText value (key :: keys) =
      stringAppendVal key ++ ':' :: (stringAppendVal word ++ '#' :: keysText value keys) := by
  simp [keysText, found]

theorem keysText_inj {valueA valueB : Text → Option Text} {keysA keysB : List Text}
    (hasA : ∀ key ∈ keysA, (valueA key).isSome = true)
    (hasB : ∀ key ∈ keysB, (valueB key).isSome = true)
    (same : keysText valueA keysA = keysText valueB keysB) :
    keysA = keysB ∧ ∀ key ∈ keysA, valueA key = valueB key := by
  induction keysA generalizing keysB with
  | nil =>
    cases keysB with
    | nil => exact ⟨rfl, forall_mem_nil _⟩
    | cons key keys =>
      obtain ⟨word, found⟩ := isSome_iff_exists.mp (hasB key mem_cons_self)
      rw [keysText_cons found] at same
      cases same
  | cons keyA keysA ih =>
    obtain ⟨wordA, foundA⟩ := isSome_iff_exists.mp (hasA keyA mem_cons_self)
    rw [keysText_cons foundA] at same
    cases keysB with
    | nil => cases same
    | cons keyB keysB =>
      obtain ⟨wordB, foundB⟩ := isSome_iff_exists.mp (hasB keyB mem_cons_self)
      rw [keysText_cons foundB] at same
      obtain ⟨rfl, words⟩ :=
        stringAppendVal_append_inj (.inr (.inr (.inr rfl))) (by decide) same
      obtain ⟨rfl, others⟩ :=
        stringAppendVal_append_inj (.inr (.inr (.inl rfl))) (by decide) words
      obtain ⟨rfl, values_eq⟩ := ih (fun key mem => hasA key (.tail _ mem))
        (fun key mem => hasB key (.tail _ mem)) others
      exact ⟨rfl, forall_mem_cons.mpr ⟨foundA.trans foundB.symm, values_eq⟩⟩

/-- The texts of a section in two key files are equal exactly if the section has the same keys, in
the same order and with the same values, or is missing in both. -/
theorem keyfileSerializeSection_eq_iff (a b : GKeyFile) (group : Text) :
    keyfileSerializeSection a group = keyfileSerializeSection b group ↔
      a.getKeys group = b.getKeys group ∧ ∀ key, a.getValue group key = b.getValue group key := by
  refine ⟨fun same => ?_, fun ⟨keys_eq, values_eq⟩ => ?_⟩
  · unfold keyfileSerializeSection at same
    cases keys_a : a.getKeys group with
    | none =>
      rw [keys_a] at same
      cases keys_b : b.getKeys group with
      | none =>
        refine ⟨rfl, fun key => ?_⟩
        rw [getValue_eq_none_of_hasGroup (getKeys_eq_none.mp keys_a),
          getValue_eq_none_of_hasGroup (getKeys_eq_none.mp keys_b)]
      | some keys =>
        rw [keys_b] at same
        exact absurd (List.cons.inj same).1 (by decide)
    | some keysA =>
      rw [keys_a] at same
      cases keys_b : b.getKeys group with
      | none =>
        rw [keys_b] at same
        exact absurd (List.cons.inj same).1 (by decide)
      | some keysB =>
        rw [keys_b] at same
        obtain ⟨rfl, values_eq⟩ := keysText_inj
          (fun key mem => (mem_keys_iff keys_a).mp mem)
          (fun key mem => (mem_keys_iff keys_b).mp mem)
          (append_cancel_left same)
        refine ⟨rfl, fun key => ?_⟩
        by_cases mem : key ∈ keysA
        · exact values_eq key mem
        · have absent_a := mt (mem_keys_iff keys_a).mpr mem
          have absent_b := mt (mem_keys_iff keys_b).mpr mem
          rw [not_isSome_iff_eq_none.mp absent_a, not_isSome_iff_eq_none.mp absent_b]
  · unfold keyfileSerializeSection
    rw [keys_eq]
    simp only [values_eq]

end NetworkManager.Config
