import NetworkManager.Library.Comparison

/-!
# Comparisons with groups

Values belong to groups.  Two values of one group are compared in one way, values of different
groups in another way.  Two total orders joined like this need not be one: if they arrange two
values of a group differently, then a value of another group may lie between them.  Nothing else can
go wrong.
-/

namespace NetworkManager

/-- A comparison that is a total order on a set of values. -/
structure TotalCmpOn {α : Type*} (values : Set α) (cmp : α → α → Ordering) : Prop
    extends LawfulCmpOn values cmp where
  /-- Different values do not compare equal. -/
  eq_of_eq : ∀ a ∈ values, ∀ b ∈ values, cmp a b = .eq → a = b

namespace TotalCmpOn

variable {α : Type*} {values : Set α} {cmp : α → α → Ordering} (total : TotalCmpOn values cmp)

include total

theorem lt_of_isLE {a b : α} (mem_a : a ∈ values) (mem_b : b ∈ values)
    (le : (cmp a b).isLE = true) (different : a ≠ b) : cmp a b = .lt := by
  cases order : cmp a b with
  | lt => rfl
  | eq => exact absurd (total.eq_of_eq a mem_a b mem_b order) different
  | gt =>
    rw [order] at le
    cases le

theorem lt_of_not_isLE {a b : α} (mem_a : a ∈ values) (mem_b : b ∈ values)
    (not_le : ¬ (cmp a b).isLE = true) : cmp b a = .lt := by
  rw [total.swap a mem_a b mem_b]
  cases order : cmp a b with
  | lt =>
    rw [order] at not_le
    exact absurd rfl not_le
  | eq =>
    rw [order] at not_le
    exact absurd rfl not_le
  | gt => rfl

theorem ne_of_lt {a b : α} (mem_a : a ∈ values) (lt : cmp a b = .lt) : a ≠ b := by
  rintro rfl
  rw [total.refl a mem_a] at lt
  cases lt

theorem lt_trans {a b c : α} (mem_a : a ∈ values) (mem_b : b ∈ values) (mem_c : c ∈ values)
    (ab : cmp a b = .lt) (bc : cmp b c = .lt) : cmp a c = .lt := by
  refine total.lt_of_steps mem_a mem_b mem_c ?_ ?_ (.inl ab)
  · rw [ab]
    rfl
  · rw [bc]
    rfl

end TotalCmpOn

section Grouped

variable {α γ : Type*} [DecidableEq γ] (group : α → γ) (within between : α → α → Ordering)
  (values : Set α)

/-- Values of one group are compared in one way, values of different groups in another way. -/
def groupedCmp (a b : α) : Ordering :=
  if group a = group b then within a b else between a b

/-- A value lies between two values of another group, which are arranged the other way round within
their group. -/
def Straddles (a b c : α) : Prop :=
  group a = group b ∧ group c ≠ group a ∧ within a b = .lt ∧ between b c = .lt ∧ between c a = .lt

variable {group within between values}

theorem groupedCmp_same {a b : α} (same : group a = group b) :
    groupedCmp group within between a b = within a b := if_pos same

theorem groupedCmp_other {a b : α} (other : group a ≠ group b) :
    groupedCmp group within between a b = between a b := if_neg other

section

variable (within_total : ∀ a ∈ values, TotalCmpOn {b | b ∈ values ∧ group b = group a} within)

include within_total

theorem groupedCmp_refl {a : α} (mem : a ∈ values) : groupedCmp group within between a a = .eq := by
  rw [groupedCmp_same rfl]
  exact (within_total a mem).refl a ⟨mem, rfl⟩

variable (between_total : TotalCmpOn values between)

include between_total

theorem groupedCmp_swap {a b : α} (mem_a : a ∈ values) (mem_b : b ∈ values) :
    groupedCmp group within between b a = (groupedCmp group within between a b).swap := by
  by_cases same : group a = group b
  · rw [groupedCmp_same same, groupedCmp_same same.symm]
    exact (within_total a mem_a).swap a ⟨mem_a, rfl⟩ b ⟨mem_b, same.symm⟩
  · rw [groupedCmp_other same, groupedCmp_other fun eq => same eq.symm]
    exact between_total.swap a mem_a b mem_b

theorem eq_of_groupedCmp {a b : α} (mem_a : a ∈ values) (mem_b : b ∈ values)
    (equal : groupedCmp group within between a b = .eq) : a = b := by
  by_cases same : group a = group b
  · rw [groupedCmp_same same] at equal
    exact (within_total a mem_a).eq_of_eq a ⟨mem_a, rfl⟩ b ⟨mem_b, same.symm⟩ equal
  · rw [groupedCmp_other same] at equal
    exact between_total.eq_of_eq a mem_a b mem_b equal

theorem groupedCmp_trans
    (free : ∀ a ∈ values, ∀ b ∈ values, ∀ c ∈ values, ¬ Straddles group within between a b c)
    {a b c : α} (mem_a : a ∈ values) (mem_b : b ∈ values) (mem_c : c ∈ values)
    (ab : (groupedCmp group within between a b).isLE = true)
    (bc : (groupedCmp group within between b c).isLE = true) :
    (groupedCmp group within between a c).isLE = true := by
  by_cases first : group a = group b
  · rw [groupedCmp_same first] at ab
    by_cases second : group b = group c
    · -- All three are in one group.
      rw [groupedCmp_same second] at bc
      rw [groupedCmp_same (first.trans second)]
      exact (within_total a mem_a).trans a ⟨mem_a, rfl⟩ b ⟨mem_b, first.symm⟩ c
        ⟨mem_c, (first.trans second).symm⟩ ab bc
    · -- Only the last one is in another group.
      rw [groupedCmp_other second] at bc
      rw [groupedCmp_other fun eq => second (first.symm.trans eq)]
      have bc_lt := between_total.lt_of_isLE mem_b mem_c bc (ne_of_apply_ne group second)
      by_contra not_le
      have ca_lt := between_total.lt_of_not_isLE mem_a mem_c not_le
      have ba_lt := between_total.lt_trans mem_b mem_c mem_a bc_lt ca_lt
      have different : a ≠ b := (between_total.ne_of_lt mem_b ba_lt).symm
      have ab_lt := (within_total a mem_a).lt_of_isLE ⟨mem_a, rfl⟩ ⟨mem_b, first.symm⟩ ab different
      exact free a mem_a b mem_b c mem_c
        ⟨first, fun eq => second (first.symm.trans eq.symm), ab_lt, bc_lt, ca_lt⟩
  · rw [groupedCmp_other first] at ab
    have ab_lt := between_total.lt_of_isLE mem_a mem_b ab (ne_of_apply_ne group first)
    by_cases second : group b = group c
    · -- Only the first one is in another group.
      rw [groupedCmp_same second] at bc
      rw [groupedCmp_other fun eq => first (eq.trans second.symm)]
      by_contra not_le
      have ca_lt := between_total.lt_of_not_isLE mem_a mem_c not_le
      have cb_lt := between_total.lt_trans mem_c mem_a mem_b ca_lt ab_lt
      have different : b ≠ c := (between_total.ne_of_lt mem_c cb_lt).symm
      have bc_lt := (within_total b mem_b).lt_of_isLE ⟨mem_b, rfl⟩ ⟨mem_c, second.symm⟩ bc different
      exact free b mem_b c mem_c a mem_a ⟨second, first, bc_lt, ca_lt, ab_lt⟩
    · rw [groupedCmp_other second] at bc
      have bc_lt := between_total.lt_of_isLE mem_b mem_c bc (ne_of_apply_ne group second)
      by_cases third : group a = group c
      · -- Only the middle one is in another group.
        rw [groupedCmp_same third]
        by_contra not_le
        have ca_lt :=
          (within_total a mem_a).lt_of_not_isLE ⟨mem_a, rfl⟩ ⟨mem_c, third.symm⟩ not_le
        exact free c mem_c a mem_a b mem_b
          ⟨third.symm, fun eq => second eq, ca_lt, ab_lt, bc_lt⟩
      · rw [groupedCmp_other third]
        exact between_total.trans a mem_a b mem_b c mem_c ab bc

/-- Two total orders, one within groups and one between groups, are a total order together exactly
if no value lies between two values of another group that are arranged the other way round. -/
theorem groupedCmp_total_iff :
    TotalCmpOn values (groupedCmp group within between) ↔
      ∀ a ∈ values, ∀ b ∈ values, ∀ c ∈ values, ¬ Straddles group within between a b c := by
  constructor
  · rintro total a mem_a b mem_b c mem_c ⟨same, other, ab, bc, ca⟩
    have ab' : groupedCmp group within between a b = .lt := (groupedCmp_same same).trans ab
    have bc' : groupedCmp group within between b c = .lt :=
      (groupedCmp_other fun eq => other (eq.symm.trans same.symm)).trans bc
    have ca' : groupedCmp group within between c a = .lt := (groupedCmp_other other).trans ca
    have ac' := total.lt_trans mem_a mem_b mem_c ab' bc'
    exact total.ne_of_lt mem_a (total.lt_trans mem_a mem_c mem_a ac' ca') rfl
  · intro free
    exact {
      refl := fun a mem => groupedCmp_refl within_total mem
      swap := fun a mem_a b mem_b => groupedCmp_swap within_total between_total mem_a mem_b
      trans := fun a mem_a b mem_b c mem_c =>
        groupedCmp_trans within_total between_total free mem_a mem_b mem_c
      eq_of_eq := fun a mem_a b mem_b => eq_of_groupedCmp within_total between_total mem_a mem_b }

end

end Grouped

end NetworkManager
