import Mathlib.Data.Set.Finite.Lemmas
import Mathlib.Data.Set.Finite.List
import Mathlib.Logic.Function.Basic

/-!
# Keys that shadow each other

Keys are claimed at ranks.  A claim is refused if the key is claimed at a smaller rank, or if a
key above it is claimed at a smaller rank that shadows.  A table of the claims that were not refused
decides this when the claims come in the order of their ranks: what a refused claim would block is
blocked by the claim that blocks it.
-/

namespace Shadowing

open List

/-- How keys shadow each other. -/
structure Rules (Rank Key : Type*) [LinearOrder Rank] where
  /-- The ranks at which a key shadows the keys below it. -/
  shadows : Rank → Prop
  [decidableShadows : DecidablePred shadows]
  /-- The keys above a key, in the order in which they are looked up. -/
  above : Key → List Key
  shadows_of_lt : ∀ {rank smaller}, smaller < rank → shadows rank → shadows smaller
  above_trans : ∀ {key parent ancestor},
    parent ∈ above key → ancestor ∈ above parent → ancestor ∈ above key

attribute [instance] Rules.decidableShadows

section

variable {Rank Key : Type*} [LinearOrder Rank]

section

variable (rules : Rules Rank Key)

/-- Whether a claim is refused because of the claims in a table. -/
def refused (table : Key → Option Rank) (rank : Rank) (key : Key) : Bool :=
  match table key with
  | some old => old < rank
  | none => (rules.above key).any fun parent =>
    (table parent).any fun above => rules.shadows above ∧ above < rank

/-- Enter a claim, unless it is refused. -/
def claim [DecidableEq Key] (rules : Rules Rank Key) (table : Key → Option Rank) (rank : Rank) (key : Key) :
    Key → Option Rank :=
  if refused rules table rank key then table else Function.update table key (some rank)

def Blocks (first : Rank × Key) (rank : Rank) (key : Key) : Prop :=
  first.1 < rank ∧ (first.2 = key ∨ rules.shadows first.1 ∧ first.2 ∈ rules.above key)

def Blocked (claims : List (Rank × Key)) (rank : Rank) (key : Key) : Prop :=
  ∃ first ∈ claims, Blocks rules first rank key

def Tracks (table : Key → Option Rank) (claims : List (Rank × Key)) : Prop :=
  ∀ key rank, table key = some rank ↔ (rank, key) ∈ claims ∧ ¬ Blocked rules claims rank key

end

variable {rules : Rules Rank Key} {table : Key → Option Rank} {claims : List (Rank × Key)}

instance [DecidableEq Key] (first : Rank × Key) (rank : Rank) (key : Key) :
    Decidable (Blocks rules first rank key) :=
  inferInstanceAs (Decidable (_ ∧ _))

instance [DecidableEq Key] (rank : Rank) (key : Key) : Decidable (Blocked rules claims rank key) :=
  inferInstanceAs (Decidable (∃ first ∈ claims, _))

theorem blocked_append {later : List (Rank × Key)} {rank : Rank}
    (larger : ∀ other ∈ later, rank ≤ other.1) (key : Key) :
    Blocked rules (claims ++ later) rank key ↔ Blocked rules claims rank key := by
  constructor
  · rintro ⟨first, listed, blocks⟩
    rcases mem_append.mp listed with listed | listed
    · exact ⟨first, listed, blocks⟩
    · exact absurd blocks.1 (not_lt.mpr (larger first listed))
  · rintro ⟨first, listed, blocks⟩
    exact ⟨first, mem_append_left _ listed, blocks⟩

theorem Blocks.trans {first : Rank × Key} {rank above : Rank} {key parent : Key}
    (blocks : Blocks rules first above parent) (shadows : rules.shadows above)
    (smaller : above < rank) (is_above : parent ∈ rules.above key) :
    Blocks rules first rank key := by
  obtain ⟨first_smaller, same | ⟨first_shadows, first_above⟩⟩ := blocks
  · exact ⟨first_smaller.trans smaller,
      .inr ⟨rules.shadows_of_lt first_smaller shadows, same ▸ is_above⟩⟩
  · exact ⟨first_smaller.trans smaller, .inr ⟨first_shadows, rules.above_trans is_above first_above⟩⟩

theorem Blocked.least {rank : Rank} {key : Key} (blocked : Blocked rules claims rank key) :
    ∃ first ∈ claims, Blocks rules first rank key ∧
      ∀ other ∈ claims, Blocks rules other rank key → first.1 ≤ other.1 := by
  have finite : {first | first ∈ claims ∧ Blocks rules first rank key}.Finite :=
    (finite_toSet claims).subset fun first mem => mem.1
  obtain ⟨first, ⟨listed, blocks⟩, least⟩ := Set.exists_min_image _ Prod.fst finite blocked
  exact ⟨first, listed, blocks, fun other mem other_blocks => least other ⟨mem, other_blocks⟩⟩

theorem refused_iff (tracks : Tracks rules table claims) (rank : Rank) (key : Key) :
    refused rules table rank key = true ↔ Blocked rules claims rank key := by
  constructor
  · intro is_refused
    unfold refused at is_refused
    split at is_refused
    · rename_i old found
      exact ⟨(old, key), ((tracks key old).mp found).1, of_decide_eq_true is_refused, .inl rfl⟩
    · obtain ⟨parent, is_above, shadowed⟩ := any_eq_true.mp is_refused
      cases found : table parent with
      | none =>
        rw [found] at shadowed
        cases shadowed
      | some above =>
        rw [found] at shadowed
        obtain ⟨shadows, smaller⟩ := of_decide_eq_true shadowed
        exact ⟨(above, parent), ((tracks parent above).mp found).1, smaller,
          .inr ⟨shadows, is_above⟩⟩
  · intro blocked
    obtain ⟨⟨above, parent⟩, listed, ⟨smaller, relation⟩, least⟩ := blocked.least
    -- The least claim is not blocked itself, so the table has it.
    have found : table parent = some above := by
      refine (tracks parent above).mpr ⟨listed, ?_⟩
      rintro ⟨first, first_listed, blocks⟩
      have blocks_key : Blocks rules first rank key := by
        rcases relation with rfl | ⟨shadows, is_above⟩
        · refine ⟨blocks.1.trans smaller, blocks.2⟩
        · exact blocks.trans shadows smaller is_above
      exact absurd (least first first_listed blocks_key) (not_le.mpr blocks.1)
    unfold refused
    split
    · rename_i old old_found
      obtain ⟨old_listed, old_free⟩ := (tracks key old).mp old_found
      have old_le : old ≤ above := by
        by_contra larger
        exact old_free ⟨(above, parent), listed, not_le.mp larger, relation⟩
      exact decide_eq_true (old_le.trans_lt smaller)
    · rename_i not_found
      rcases relation with rfl | ⟨shadows, is_above⟩
      · rw [found] at not_found
        cases not_found
      · refine any_eq_true.mpr ⟨parent, is_above, ?_⟩
        rw [found]
        exact decide_eq_true ⟨shadows, smaller⟩

theorem Tracks.claim [DecidableEq Key] (tracks : Tracks rules table claims) {rank : Rank}
    (key : Key) (largest : ∀ first ∈ claims, first.1 ≤ rank) :
    Tracks rules (claim rules table rank key) (claims ++ [(rank, key)]) := by
  have blocked_iff : ∀ {other : Rank}, other ≤ rank → ∀ otherKey,
      Blocked rules (claims ++ [(rank, key)]) other otherKey ↔
        Blocked rules claims other otherKey := by
    intro other other_le otherKey
    refine blocked_append ?_ otherKey
    intro last last_mem
    obtain rfl := mem_singleton.mp last_mem
    exact other_le
  intro otherKey other
  have step_iff : (other, otherKey) ∈ claims ++ [(rank, key)] ∧
        ¬ Blocked rules (claims ++ [(rank, key)]) other otherKey ↔
      ((other, otherKey) ∈ claims ∨ (other, otherKey) = (rank, key)) ∧
        ¬ Blocked rules claims other otherKey := by
    rw [mem_append, mem_singleton]
    refine and_congr_right fun listed => not_congr (blocked_iff ?_ otherKey)
    rcases listed with listed | same
    · exact largest _ listed
    · exact (Prod.mk.inj same).1.le
  rw [step_iff]
  unfold Shadowing.claim
  split
  · rename_i is_refused
    have blocked := (refused_iff tracks rank key).mp is_refused
    rw [tracks otherKey other]
    constructor
    · rintro ⟨listed, free⟩
      exact ⟨.inl listed, free⟩
    · rintro ⟨listed | same, free⟩
      · exact ⟨listed, free⟩
      · obtain ⟨rfl, rfl⟩ := Prod.mk.inj same
        exact absurd blocked free
  · rename_i not_refused
    have rank_free := fun blocked => not_refused ((refused_iff tracks rank key).mpr blocked)
    by_cases same_key : otherKey = key
    · subst same_key
      rw [Function.update_self]
      constructor
      · intro same
        obtain rfl := Option.some.inj same
        exact ⟨.inr rfl, rank_free⟩
      · rintro ⟨listed | same, _⟩
        · have not_smaller : ¬ other < rank :=
            fun smaller => rank_free ⟨(other, otherKey), listed, smaller, .inl rfl⟩
          have other_le : other ≤ rank := largest _ listed
          rw [le_antisymm other_le (not_lt.mp not_smaller)]
        · rw [(Prod.mk.inj same).1]
    · have not_same : (other, otherKey) ≠ (rank, key) :=
        fun same => same_key (Prod.mk.inj same).2
      rw [Function.update_of_ne same_key, tracks otherKey other, or_iff_left not_same]

theorem tracks_nil : Tracks rules (fun _ => none) [] := by
  intro key rank
  simp

end

end Shadowing
