import Mathlib.Data.List.Nodup

/-!
# Lists without duplicates

A list takes an item only if it is accepted, possibly in another spelling, and only if it does not
have the item yet.  Items that were taken can be found again and removed.
-/

namespace UniqueList

open List

variable {α : Type*} [DecidableEq α]

/-- Add an item at the end, unless it is refused or present. -/
def add (accept : α → Option α) (items : List α) (new : α) : List α :=
  match accept new with
  | none => items
  | some item => if item ∈ items then items else items ++ [item]

/-- Remove the first occurrence of an item, by its index. -/
def remove (items : List α) (item : α) : List α :=
  match items.idxOf? item with
  | none => items
  | some index => items.eraseIdx index

/-- The items that another list does not have, in their order. -/
def without (items others : List α) : List α := items.filter fun item => item ∉ others

/-- Items are accepted as they are, and none is there twice. -/
structure Valid (accept : α → Option α) (items : List α) : Prop where
  nodup : items.Nodup
  accepted : ∀ item ∈ items, accept item = some item

def Stable (accept : α → Option α) : Prop :=
  ∀ item accepted, accept item = some accepted → accept accepted = some accepted

variable {accept : α → Option α} {items news : List α}

omit [DecidableEq α] in
theorem Valid.nil : Valid accept ([] : List α) where
  nodup := nodup_nil
  accepted := by
    intro item mem
    cases mem

theorem add_eq {new item : α} (accepted : accept new = some item) :
    add accept items new = if item ∈ items then items else items ++ [item] := by
  unfold add
  rw [accepted]

theorem Valid.add (valid : Valid accept items) (stable : Stable accept) (new : α) :
    Valid accept (add accept items new) := by
  cases accepted : accept new with
  | none =>
    unfold UniqueList.add
    rw [accepted]
    exact valid
  | some item =>
    rw [add_eq accepted]
    split
    · exact valid
    · rename_i absent
      refine ⟨?_, ?_⟩
      · rw [nodup_append_comm]
        exact nodup_cons.mpr ⟨absent, valid.nodup⟩
      · intro other mem
        rcases mem_append.mp mem with mem | mem
        · exact valid.accepted other mem
        · rw [mem_singleton.mp mem]
          exact stable new item accepted

theorem Valid.foldl_add (valid : Valid accept items) (stable : Stable accept) (news : List α) :
    Valid accept (news.foldl (UniqueList.add accept) items) := by
  induction news generalizing items with
  | nil => exact valid
  | cons new news ih => exact ih (valid.add stable new)

omit [DecidableEq α] in
theorem Valid.sublist (valid : Valid accept items) (sublist : List.Sublist news items) :
    Valid accept news where
  nodup := valid.nodup.sublist sublist
  accepted := fun item mem => valid.accepted item (sublist.subset mem)

theorem remove_eq (items : List α) (item : α) : remove items item = items.erase item := by
  rw [erase_eq_eraseIdx]
  rfl

theorem Valid.remove (valid : Valid accept items) (item : α) :
    Valid accept (remove items item) := by
  rw [remove_eq]
  exact valid.sublist erase_sublist

theorem Valid.foldl_remove (valid : Valid accept items) (olds : List α) :
    Valid accept (olds.foldl UniqueList.remove items) := by
  induction olds generalizing items with
  | nil => exact valid
  | cons old olds ih => exact ih (valid.remove old)

theorem foldl_add_append (valid : Valid accept (items ++ news)) :
    news.foldl (add accept) items = items ++ news := by
  induction news generalizing items with
  | nil => simp
  | cons new news ih =>
    have absent : new ∉ items := by
      intro mem
      exact (nodup_append.mp valid.nodup).2.2 new mem new mem_cons_self rfl
    have accepted : accept new = some new := valid.accepted new (by simp)
    have assoc : items ++ new :: news = (items ++ [new]) ++ news := by simp
    rw [foldl_cons, add_eq accepted, if_neg absent, assoc]
    rw [assoc] at valid
    exact ih valid

theorem foldl_add_nil (valid : Valid accept items) : items.foldl (add accept) [] = items :=
  foldl_add_append valid

theorem foldl_remove (nodup : items.Nodup) (olds : List α) :
    olds.foldl remove items = without items olds := by
  have remove_fun : (remove : List α → α → List α) = List.erase := by
    funext items item
    exact remove_eq items item
  rw [remove_fun, ← diff_eq_foldl, nodup.sdiff_eq_filter]
  rfl

theorem without_add {olds : List α} {new item : α} (accepted : accept new = some item)
    (removed : item ∈ olds) :
    without (add accept items new) olds = without items olds := by
  rw [add_eq accepted]
  split
  · rfl
  · simp [without, filter_append, removed]

theorem foldl_remove_add (valid : Valid accept items) (stable : Stable accept)
    (news_valid : Valid accept news) :
    news.foldl remove (news.foldl (add accept) items) = without items news := by
  rw [foldl_remove (valid.foldl_add stable news).nodup]
  have kept : ∀ (more items : List α), more ⊆ news →
      without (more.foldl (add accept) items) news = without items news := by
    intro more
    induction more with
    | nil => exact fun _ _ => rfl
    | cons new more ih =>
      intro items subset
      obtain ⟨mem, subset⟩ := cons_subset.mp subset
      rw [foldl_cons, ih _ subset, without_add (news_valid.accepted new mem) mem]
  exact kept news items (Subset.refl news)

/-- Items of which none is new twice are appended, except for those that are present. -/
theorem foldl_add_some (distinct : (without news items).Nodup) :
    news.foldl (add some) items = items ++ without news items := by
  induction news generalizing items with
  | nil => exact (append_nil _).symm
  | cons new news ih =>
    rw [foldl_cons, add_eq rfl]
    unfold without at distinct ih ⊢
    by_cases present : new ∈ items
    · rw [filter_cons_of_neg (by simpa using present)] at distinct ⊢
      rw [if_pos present]
      exact ih distinct
    · rw [filter_cons_of_pos (by simpa using present)] at distinct ⊢
      obtain ⟨once, distinct⟩ := nodup_cons.mp distinct
      have absent : new ∉ news := by
        intro listed
        exact once (mem_filter.mpr ⟨listed, decide_eq_true present⟩)
      have same : (news.filter fun item => item ∉ items ++ [new]) =
          news.filter fun item => item ∉ items := by
        refine filter_congr fun item listed => ?_
        have other : item ≠ new := fun same => absent (same ▸ listed)
        simp [other]
      rw [if_neg present, ih (by rwa [same]), same, append_assoc, singleton_append]

theorem mem_foldl_add {item : α} :
    item ∈ news.foldl (add some) items ↔ item ∈ items ∨ item ∈ news := by
  induction news generalizing items with
  | nil => simp
  | cons new news ih =>
    rw [foldl_cons, ih, add_eq rfl, mem_cons]
    split
    · rename_i present
      constructor
      · exact Or.imp_right .inr
      · rintro (listed | rfl | listed)
        · exact .inl listed
        · exact .inl present
        · exact .inr listed
    · rw [mem_append, mem_singleton, or_assoc]

theorem without_foldl_add (news items : List α) : without news (news.foldl (add some) items) = [] :=
  filter_eq_nil_iff.mpr fun _ listed => by simpa using mem_foldl_add.mpr (.inr listed)

theorem foldl_add_twice (news items : List α) :
    news.foldl (add some) (news.foldl (add some) items) = news.foldl (add some) items := by
  rw [foldl_add_some (by rw [without_foldl_add]; exact nodup_nil), without_foldl_add, append_nil]

end UniqueList
