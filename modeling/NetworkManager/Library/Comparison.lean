import Mathlib.Order.Compare
import Mathlib.Data.Ordering.Basic
import Mathlib.Data.Set.Basic

/-!
# Lawful comparisons

A comparison is lawful on a set of values if it is a total preorder there: no value differs from
itself, exchanging two values reverses the sign, and the order is transitive.  Comparing one part
after the other keeps the laws, also if a later part is skipped on a condition that the earlier
parts settle.  Comparing two texts up to their common length, and then the lengths, keeps them too.
-/

namespace NetworkManager

/-- A comparison that is a total preorder on a set of values. -/
structure LawfulCmpOn {α : Type*} (values : Set α) (cmp : α → α → Ordering) : Prop where
  refl : ∀ a ∈ values, cmp a a = .eq
  swap : ∀ a ∈ values, ∀ b ∈ values, cmp b a = (cmp a b).swap
  trans : ∀ a ∈ values, ∀ b ∈ values, ∀ c ∈ values,
    (cmp a b).isLE = true → (cmp b c).isLE = true → (cmp a c).isLE = true

namespace LawfulCmpOn

variable {α β : Type*} {values : Set α} {first second : α → α → Ordering}

theorem congr (same : ∀ a ∈ values, ∀ b ∈ values, first a b = second a b)
    (lawful : LawfulCmpOn values second) : LawfulCmpOn values first where
  refl a mem := by
    rw [same a mem a mem]
    exact lawful.refl a mem
  swap a mem_a b mem_b := by
    rw [same a mem_a b mem_b, same b mem_b a mem_a]
    exact lawful.swap a mem_a b mem_b
  trans a mem_a b mem_b c mem_c := by
    rw [same a mem_a b mem_b, same b mem_b c mem_c, same a mem_a c mem_c]
    exact lawful.trans a mem_a b mem_b c mem_c

theorem skip : LawfulCmpOn values fun _ _ => .eq where
  refl _ _ := rfl
  swap _ _ _ _ := rfl
  trans _ _ _ _ _ _ _ _ := rfl

theorem on [Ord β] [Std.TransOrd β] (part : α → β) :
    LawfulCmpOn values fun a b => compare (part a) (part b) where
  refl _ _ := Std.ReflOrd.compare_self
  swap _ _ _ _ := Std.OrientedOrd.eq_swap
  trans _ _ _ _ _ _ := Std.TransOrd.isLE_trans

theorem comap {cmp : β → β → Ordering} (lawful : LawfulCmpOn Set.univ cmp) (part : α → β) :
    LawfulCmpOn values fun a b => cmp (part a) (part b) where
  refl _ _ := lawful.refl _ trivial
  swap _ _ _ _ := lawful.swap _ trivial _ trivial
  trans _ _ _ _ _ _ := lawful.trans _ trivial _ trivial _ trivial

private theorem isLE_then {o p : Ordering} :
    (o.then p).isLE = true ↔ o = .lt ∨ (o = .eq ∧ p.isLE = true) := by
  cases o <;> simp [Ordering.then]

private theorem lt_or_eq_of_isLE {o : Ordering} (le : o.isLE = true) : o = .lt ∨ o = .eq := by
  cases o <;> simp_all

section

variable (lawful : LawfulCmpOn values first)

include lawful

theorem eq_symm {a b : α} (mem_a : a ∈ values) (mem_b : b ∈ values) (same : first a b = .eq) :
    first b a = .eq := by
  rw [lawful.swap a mem_a b mem_b, same]
  rfl

/-- If `a ≤ b ≤ c` and one of the steps is strict, then `a < c`. -/
theorem lt_of_steps {a b c : α} (mem_a : a ∈ values) (mem_b : b ∈ values) (mem_c : c ∈ values)
    (ab : (first a b).isLE = true) (bc : (first b c).isLE = true)
    (strict : first a b = .lt ∨ first b c = .lt) : first a c = .lt := by
  have ac := lawful.trans a mem_a b mem_b c mem_c ab bc
  rcases lt_or_eq_of_isLE ac with lt | eq
  · exact lt
  · have ca : (first c a).isLE = true := by
      rw [lawful.eq_symm mem_a mem_c eq]
      rfl
    rcases strict with ab_lt | bc_lt
    · have ba := lawful.trans b mem_b c mem_c a mem_a bc ca
      rw [lawful.swap a mem_a b mem_b, ab_lt] at ba
      simp at ba
    · have cb := lawful.trans c mem_c a mem_a b mem_b ca ab
      rw [lawful.swap b mem_b c mem_c, bc_lt] at cb
      simp at cb

theorem eq_trans {a b c : α} (mem_a : a ∈ values) (mem_b : b ∈ values) (mem_c : c ∈ values)
    (ab : first a b = .eq) (bc : first b c = .eq) : first a c = .eq := by
  have ac : (first a c).isLE = true := by
    refine lawful.trans a mem_a b mem_b c mem_c ?_ ?_
    · rw [ab]
      rfl
    · rw [bc]
      rfl
  have ca : (first c a).isLE = true := by
    refine lawful.trans c mem_c b mem_b a mem_a ?_ ?_
    · rw [lawful.eq_symm mem_b mem_c bc]
      rfl
    · rw [lawful.eq_symm mem_a mem_b ab]
      rfl
  rw [lawful.swap a mem_a c mem_c] at ca
  cases order : first a c with
  | lt => simp [order] at ca
  | eq => rfl
  | gt => simp [order] at ac

theorem then_among (rest : ∀ a ∈ values, LawfulCmpOn {b | b ∈ values ∧ first a b = .eq} second) :
    LawfulCmpOn values fun a b => (first a b).then (second a b) where
  refl a mem := by
    have self := lawful.refl a mem
    show (first a a).then (second a a) = .eq
    rw [self]
    exact (rest a mem).refl a ⟨mem, self⟩
  swap a mem_a b mem_b := by
    show (first b a).then (second b a) = ((first a b).then (second a b)).swap
    rw [Ordering.swap_then, lawful.swap a mem_a b mem_b]
    cases order : first a b with
    | lt => rfl
    | gt => rfl
    | eq => exact (rest a mem_a).swap a ⟨mem_a, lawful.refl a mem_a⟩ b ⟨mem_b, order⟩
  trans a mem_a b mem_b c mem_c ab bc := by
    rw [isLE_then] at ab bc ⊢
    have ab_le : (first a b).isLE = true := by
      rcases ab with lt | ⟨eq, -⟩
      · rw [lt]
        rfl
      · rw [eq]
        rfl
    have bc_le : (first b c).isLE = true := by
      rcases bc with lt | ⟨eq, -⟩
      · rw [lt]
        rfl
      · rw [eq]
        rfl
    rcases ab with ab_lt | ⟨ab_eq, ab_rest⟩
    · exact .inl (lawful.lt_of_steps mem_a mem_b mem_c ab_le bc_le (.inl ab_lt))
    rcases bc with bc_lt | ⟨bc_eq, bc_rest⟩
    · exact .inl (lawful.lt_of_steps mem_a mem_b mem_c ab_le bc_le (.inr bc_lt))
    have ac_eq := lawful.eq_trans mem_a mem_b mem_c ab_eq bc_eq
    exact .inr ⟨ac_eq, (rest a mem_a).trans a ⟨mem_a, lawful.refl a mem_a⟩ b ⟨mem_b, ab_eq⟩ c
      ⟨mem_c, ac_eq⟩ ab_rest bc_rest⟩

end

theorem mono {fewer : Set α} (subset : fewer ⊆ values) (lawful : LawfulCmpOn values first) :
    LawfulCmpOn fewer first where
  refl a mem := lawful.refl a (subset mem)
  swap a mem_a b mem_b := lawful.swap a (subset mem_a) b (subset mem_b)
  trans a mem_a b mem_b c mem_c :=
    lawful.trans a (subset mem_a) b (subset mem_b) c (subset mem_c)

theorem andThen (lawful : LawfulCmpOn values first) (rest : LawfulCmpOn values second) :
    LawfulCmpOn values fun a b => (first a b).then (second a b) :=
  lawful.then_among fun _ _ => rest.mono fun _ mem => mem.1

theorem byPart [Ord β] [Std.TransOrd β] (values : Set α) (part : α → β)
    (rest : LawfulCmpOn values second) :
    LawfulCmpOn values fun a b => (compare (part a) (part b)).then (second a b) :=
  (on part).andThen rest

theorem flip (lawful : LawfulCmpOn values first) : LawfulCmpOn values fun a b => first b a where
  refl := lawful.refl
  swap a mem_a b mem_b := lawful.swap b mem_b a mem_a
  trans a mem_a b mem_b c mem_c above_first above_second :=
    lawful.trans c mem_c b mem_b a mem_a above_second above_first

theorem andThen_assoc {third : α → α → Ordering}
    (lawful : LawfulCmpOn values fun a b => ((first a b).then (second a b)).then (third a b)) :
    LawfulCmpOn values fun a b => (first a b).then ((second a b).then (third a b)) :=
  congr (fun _ _ _ _ => (Ordering.then_assoc _ _ _).symm) lawful

theorem on_then [Ord β] [Std.TransOrd β] [Std.LawfulEqOrd β] (part : α → β)
    (rest : ∀ value, LawfulCmpOn {a | a ∈ values ∧ part a = value} second) :
    LawfulCmpOn values fun a b => (compare (part a) (part b)).then (second a b) := by
  refine then_among (on part) fun a _ => (rest (part a)).mono ?_
  rintro b ⟨mem, same⟩
  exact ⟨mem, (Std.compare_eq_iff_eq.mp same).symm⟩

theorem ite {condition : α → Prop} [DecidablePred condition]
    (agree : ∀ a ∈ values, ∀ b ∈ values, condition a → condition b)
    (lawful : LawfulCmpOn values first) :
    LawfulCmpOn values fun a b => if condition a then first a b else .eq := by
  by_cases compared : ∃ a ∈ values, condition a
  · obtain ⟨a, mem_a, holds⟩ := compared
    exact congr (fun b mem_b _ _ => if_pos (agree a mem_a b mem_b holds)) lawful
  · exact congr (fun a mem_a _ _ => if_neg fun holds => compared ⟨a, mem_a, holds⟩) skip

end LawfulCmpOn

section Prefixes

variable {α β : Type*} [LinearOrder β]

/-- Compares two texts up to the shorter one of two lengths, and then the lengths. -/
def truncatedCmp (truncate : Nat → α → β) (a b : α × Nat) : Ordering :=
  (compare (truncate (min a.2 b.2) a.1) (truncate (min a.2 b.2) b.1)).then (compare a.2 b.2)

variable {truncate : Nat → α → β}

private theorem truncatedCmp_isLE {a b : α × Nat} :
    (truncatedCmp truncate a b).isLE = true ↔
      truncate (min a.2 b.2) a.1 < truncate (min a.2 b.2) b.1 ∨
        (truncate (min a.2 b.2) a.1 = truncate (min a.2 b.2) b.1 ∧ a.2 ≤ b.2) := by
  unfold truncatedCmp
  rw [LawfulCmpOn.isLE_then, compare_lt_iff_lt, compare_eq_iff_eq, Nat.isLE_compare]

/-- Comparing truncated texts is lawful if truncating further keeps the order. -/
theorem truncatedCmp_lawful
    (monotone : ∀ {j k : Nat} {a b : α}, j ≤ k → truncate k a ≤ truncate k b →
      truncate j a ≤ truncate j b) :
    LawfulCmpOn Set.univ (truncatedCmp truncate) where
  refl a _ := by simp [truncatedCmp]
  swap a _ b _ := by
    unfold truncatedCmp
    rw [Ordering.swap_then, min_comm b.2 a.2, ← Std.OrientedOrd.eq_swap, ← Std.OrientedOrd.eq_swap]
  trans a _ b _ c _ ab bc := by
    rw [truncatedCmp_isLE] at ab bc ⊢
    -- At the shortest of the three lengths both steps still hold, and a strict step there is
    -- strict at every longer one.
    obtain ⟨shortest, shortest_eq⟩ : ∃ m, m = min a.2 (min b.2 c.2) := ⟨_, rfl⟩
    have ab_le : truncate shortest a.1 ≤ truncate shortest b.1 :=
      monotone (by omega) (ab.elim le_of_lt fun eq => eq.1.le)
    have bc_le : truncate shortest b.1 ≤ truncate shortest c.1 :=
      monotone (by omega) (bc.elim le_of_lt fun eq => eq.1.le)
    rcases lt_or_eq_of_le (ab_le.trans bc_le) with lt | eq
    · refine .inl (lt_of_not_ge fun ge => absurd (monotone ?_ ge) (not_le_of_gt lt))
      omega
    have ab_eq : truncate shortest a.1 = truncate shortest b.1 :=
      le_antisymm ab_le (bc_le.trans eq.ge)
    have bc_eq : truncate shortest b.1 = truncate shortest c.1 := ab_eq.symm.trans eq
    by_cases a_shortest : shortest = a.2
    · have short : min a.2 c.2 = shortest := by omega
      rw [short]
      exact .inr ⟨eq, by omega⟩
    exfalso
    by_cases b_shortest : shortest = b.2
    · have short : min a.2 b.2 = shortest := by omega
      rw [short] at ab
      rcases ab with lt | ⟨-, le⟩
      · exact lt.ne ab_eq
      · omega
    · have short : min b.2 c.2 = shortest := by omega
      rw [short] at bc
      rcases bc with lt | ⟨-, le⟩
      · exact lt.ne bc_eq
      · omega

end Prefixes

end NetworkManager
