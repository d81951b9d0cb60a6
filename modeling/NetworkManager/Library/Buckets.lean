import Mathlib.Data.List.Nodup
import Mathlib.Data.List.Pairwise

/-!
# Buckets of linked nodes

A table of buckets indexes nodes by a key.  Every bucket lists the nodes that have its key, and a
node is named by its address.  Keys are compared by an equivalence of their own, as hash tables do.
The operations below create a bucket with its first node, link a node to the bucket of its key,
unlink a node wherever it is linked, and drop buckets that have become empty.
-/

/-- How to read a bucket: its key, the nodes it lists, and the comparison of keys. -/
structure BucketView (β κ : Type*) where
  key : β → κ
  /-- The linked nodes, in order. -/
  ids : β → List Nat
  withIds : β → List Nat → β
  same : κ → κ → Bool
  key_withIds : ∀ bucket nodes, key (withIds bucket nodes) = key bucket
  ids_withIds : ∀ bucket nodes, ids (withIds bucket nodes) = nodes
  same_refl : ∀ a, same a a = true
  same_symm : ∀ a b, same a b = true → same b a = true
  same_trans : ∀ a b c, same a b = true → same b c = true → same a c = true

namespace BucketView

open List Option

variable {β κ : Type*} (view : BucketView β κ)

attribute [simp] key_withIds ids_withIds same_refl

def find (buckets : List β) (key : κ) : Option β :=
  buckets.find? fun bucket => view.same key (view.key bucket)

section

variable (buckets : List β)

def modify (key : κ) (change : β → β) : List β :=
  buckets.map fun bucket => if view.same key (view.key bucket) then change bucket else bucket

/-- Links a node at the end of the bucket of its key.  The bucket is created if there is none. -/
def link (key : κ) (fresh : β) (id : Nat) : List β :=
  match view.find buckets key with
  | some _ => view.modify buckets key fun bucket => view.withIds bucket (view.ids bucket ++ [id])
  | none => buckets ++ [view.withIds fresh [id]]

/-- Unlinks a node wherever it is linked. -/
def unlink (id : Nat) : List β :=
  buckets.map fun bucket => view.withIds bucket ((view.ids bucket).erase id)

/-- Whether a node is linked and the only one in its bucket. -/
def alone (id : Nat) : Bool :=
  buckets.any fun bucket => decide (view.ids bucket = [id])

def remove (key : κ) : List β :=
  buckets.filter fun bucket => !view.same key (view.key bucket)

end

/-- The buckets index the nodes: no key has two buckets, every node has a bucket, and a bucket lists
exactly the nodes that have its key, each of them once. -/
structure Indexes (nodes : List (Nat × κ)) (buckets : List β) : Prop where
  unique : buckets.Pairwise fun a b => view.same (view.key a) (view.key b) = false
  covered : ∀ node ∈ nodes, ∃ bucket ∈ buckets, view.same node.2 (view.key bucket) = true
  nodup : ∀ bucket ∈ buckets, (view.ids bucket).Nodup
  mem_iff : ∀ bucket ∈ buckets, ∀ id, id ∈ view.ids bucket ↔
    ∃ key, (id, key) ∈ nodes ∧ view.same key (view.key bucket) = true

variable {view} {nodes : List (Nat × κ)} {buckets : List β}

theorem same_comm (a b : κ) : view.same a b = view.same b a := by
  rw [Bool.eq_iff_iff]
  exact ⟨view.same_symm a b, view.same_symm b a⟩

theorem same_congr_left {a b : κ} (same : view.same a b = true) (c : κ) :
    view.same a c = view.same b c := by
  rw [Bool.eq_iff_iff]
  exact ⟨view.same_trans b a c (view.same_symm a b same), view.same_trans a b c same⟩

variable {bucket : β} {key : κ}

theorem mem_of_find (found : view.find buckets key = some bucket) : bucket ∈ buckets :=
  List.mem_of_find?_eq_some found

theorem same_of_find (found : view.find buckets key = some bucket) :
    view.same key (view.key bucket) = true := by
  have holds := find?_some found
  exact holds

theorem find_eq_none :
    view.find buckets key = none ↔ ∀ bucket ∈ buckets, view.same key (view.key bucket) = false := by
  unfold find
  rw [find?_eq_none]
  simp

theorem find_congr {a b : κ} (same : view.same a b = true) :
    view.find buckets a = view.find buckets b := by
  have tests : (fun bucket => view.same a (view.key bucket)) =
      fun bucket => view.same b (view.key bucket) :=
    funext fun bucket => same_congr_left same (view.key bucket)
  unfold find
  rw [tests]

section

variable {change : β → β} (key_change : ∀ bucket, view.key (change bucket) = view.key bucket)

include key_change

theorem find_map (key : κ) :
    view.find (buckets.map change) key = (view.find buckets key).map change := by
  have tests : (fun bucket => view.same key (view.key bucket)) ∘ change =
      fun bucket => view.same key (view.key bucket) :=
    funext fun bucket => congrArg (view.same key) (key_change bucket)
  unfold find
  rw [find?_map, tests]

theorem find_modify (key other : κ) :
    view.find (view.modify buckets key change) other =
      (view.find buckets other).map fun bucket =>
        if view.same key other then change bucket else bucket := by
  unfold modify
  rw [find_map]
  · cases found : view.find buckets other with
    | none => rfl
    | some bucket =>
      rw [map_some, map_some, same_comm key (view.key bucket),
        ← same_congr_left (same_of_find found), same_comm]
  · intro bucket
    split
    · exact key_change bucket
    · rfl

end

theorem find_link {key other : κ} {fresh : β} {id : Nat} (fresh_key : view.key fresh = key) :
    view.find (view.link buckets key fresh id) other =
      if view.same key other then
        some (view.withIds ((view.find buckets other).getD fresh)
          (((view.find buckets other).elim [] view.ids) ++ [id]))
      else view.find buckets other := by
  unfold link
  cases found : view.find buckets key with
  | some home =>
    dsimp only
    rw [find_modify fun bucket => view.key_withIds _ _]
    by_cases same : view.same key other = true
    · rw [if_pos same, ← find_congr same, found]
      simp only [same, if_true, map_some, getD_some, elim_some]
    · simp only [same, if_false, Bool.false_eq_true]
      exact map_id'
  | none =>
    dsimp only
    unfold find
    rw [find?_append]
    by_cases same : view.same key other = true
    · have missing : view.find buckets other = none := by
        rw [← find_congr same]
        exact found
      have there : view.same other (view.key (view.withIds fresh [id])) = true := by
        rw [view.key_withIds, fresh_key]
        exact view.same_symm key other same
      unfold find at missing
      rw [if_pos same, missing, none_or, find?_singleton, if_pos there]
      rfl
    · have elsewhere : ¬ view.same other (view.key (view.withIds fresh [id])) = true := by
        rw [view.key_withIds, fresh_key]
        exact fun reversed => same (view.same_symm other key reversed)
      rw [if_neg same, find?_singleton, if_neg elsewhere, or_none]

theorem mem_of_link_of_empty {fresh : β} {id : Nat} (mem : bucket ∈ view.link buckets key fresh id)
    (empty : view.ids bucket = []) :
    bucket ∈ buckets := by
  unfold link at mem
  cases found : view.find buckets key with
  | some home =>
    rw [found] at mem
    obtain ⟨old, old_mem, rfl⟩ := List.mem_map.mp mem
    by_cases same : view.same key (view.key old) = true
    · rw [if_pos same, view.ids_withIds] at empty
      simp at empty
    · rwa [if_neg same]
  | none =>
    rw [found] at mem
    rcases mem_append.mp mem with mem | mem
    · exact mem
    · rw [mem_singleton.mp mem, view.ids_withIds] at empty
      cases empty

theorem of_unlink_of_empty {id : Nat} (mem : bucket ∈ view.unlink buckets id)
    (empty : view.ids bucket = []) :
    ∃ old ∈ buckets, bucket = view.withIds old [] ∧ (view.ids old = [] ∨ view.ids old = [id]) := by
  obtain ⟨old, old_mem, rfl⟩ := List.mem_map.mp mem
  rw [view.ids_withIds] at empty
  refine ⟨old, old_mem, by rw [empty], ?_⟩
  exact erase_eq_nil_iff.mp empty

theorem alone_of_mem {id : Nat} (mem : bucket ∈ buckets) (single : view.ids bucket = [id]) :
    view.alone buckets id = true :=
  List.any_eq_true.mpr ⟨bucket, mem, decide_eq_true single⟩

theorem mem_remove :
    bucket ∈ view.remove buckets key ↔
      bucket ∈ buckets ∧ view.same key (view.key bucket) = false := by
  unfold remove
  rw [mem_filter, Bool.not_eq_true']

section

variable (unique : buckets.Pairwise fun a b => view.same (view.key a) (view.key b) = false)

include unique

theorem eq_of_same_of_unique {a b : β} (mem_a : a ∈ buckets) (mem_b : b ∈ buckets)
    (same : view.same (view.key a) (view.key b) = true) : a = b := by
  have : Std.Symm fun a b : β => view.same (view.key a) (view.key b) = false :=
    ⟨fun a b apart => by rwa [same_comm]⟩
  by_contra different
  have apart := unique.forall mem_a mem_b different
  rw [same] at apart
  cases apart

theorem find_eq_some_of_unique (mem : bucket ∈ buckets)
    (same : view.same key (view.key bucket) = true) :
    view.find buckets key = some bucket := by
  cases found : view.find buckets key with
  | none =>
    rw [find_eq_none.mp found bucket mem] at same
    cases same
  | some other =>
    have other_same := same_of_find found
    rw [same_congr_left same] at other_same
    rw [eq_of_same_of_unique unique mem (mem_of_find found) other_same]

theorem find_filterMap {change : β → Option β}
    (key_change : ∀ bucket changed, change bucket = some changed →
      view.key changed = view.key bucket) (key : κ) :
    view.find (buckets.filterMap change) key = (view.find buckets key).bind change := by
  induction buckets with
  | nil => rfl
  | cons bucket buckets ih =>
    obtain ⟨apart, unique⟩ := pairwise_cons.mp unique
    have ih := ih unique
    unfold find at ih ⊢
    rw [find?_cons, filterMap_cons]
    cases same : view.same key (view.key bucket) with
    | false =>
      dsimp only
      cases changed_eq : change bucket with
      | none => exact ih
      | some changed =>
        dsimp only
        rw [find?_cons, key_change bucket changed changed_eq, same]
        exact ih
    | true =>
      rw [bind_some]
      cases changed_eq : change bucket with
      | some changed =>
        dsimp only
        rw [find?_cons, key_change bucket changed changed_eq, same]
      | none =>
        -- No other bucket has the key.
        have missing : buckets.find? (fun other => view.same key (view.key other)) = none := by
          refine find?_eq_none.mpr fun other mem => ?_
          rw [same_congr_left same, apart other mem]
          exact Bool.false_ne_true
        dsimp only
        rw [ih, missing]
        rfl

end

section

variable {others : List β}
  (same : others.map (fun bucket => (view.key bucket, view.ids bucket)) =
    buckets.map fun bucket => (view.key bucket, view.ids bucket))

include same

theorem exists_counterpart (mem : bucket ∈ buckets) :
    ∃ other ∈ others, view.key other = view.key bucket ∧ view.ids other = view.ids bucket := by
  have mapped : (view.key bucket, view.ids bucket) ∈
      others.map fun bucket => (view.key bucket, view.ids bucket) := by
    rw [same]
    exact List.mem_map_of_mem mem
  obtain ⟨other, other_mem, eq⟩ := List.mem_map.mp mapped
  exact ⟨other, other_mem, Prod.mk.inj eq⟩

theorem unique_congr
    (unique : buckets.Pairwise fun a b => view.same (view.key a) (view.key b) = false) :
    others.Pairwise fun a b => view.same (view.key a) (view.key b) = false := by
  have apart : (buckets.map fun bucket => (view.key bucket, view.ids bucket)).Pairwise
      fun a b => view.same a.1 b.1 = false := pairwise_map.mpr unique
  rw [← same, pairwise_map] at apart
  exact apart

end

theorem map_modify (key : κ) {change : β → β}
    (key_change : ∀ bucket, view.key (change bucket) = view.key bucket)
    (ids_change : ∀ bucket, view.ids (change bucket) = view.ids bucket) :
    (view.modify buckets key change).map (fun bucket => (view.key bucket, view.ids bucket)) =
      buckets.map fun bucket => (view.key bucket, view.ids bucket) := by
  unfold modify
  rw [List.map_map]
  refine map_congr_left fun bucket _ => ?_
  show (view.key (if _ then _ else _), view.ids (if _ then _ else _)) = _
  split
  · rw [key_change, ids_change]
  · rfl

namespace Indexes

variable (indexes : view.Indexes nodes buckets)

theorem empty : view.Indexes [] [] where
  unique := List.Pairwise.nil
  covered := by
    intro node mem
    cases mem
  nodup := by
    intro bucket mem
    cases mem
  mem_iff := by
    intro bucket mem
    cases mem

include indexes

theorem eq_of_same {a b : β} (mem_a : a ∈ buckets) (mem_b : b ∈ buckets)
    (same : view.same (view.key a) (view.key b) = true) : a = b :=
  eq_of_same_of_unique indexes.unique mem_a mem_b same

variable {key : κ} {bucket : β} {id : Nat}

theorem find_eq_some (mem : bucket ∈ buckets) (same : view.same key (view.key bucket) = true) :
    view.find buckets key = some bucket :=
  find_eq_some_of_unique indexes.unique mem same

theorem congr {others : List β}
    (same : others.map (fun bucket => (view.key bucket, view.ids bucket)) =
      buckets.map fun bucket => (view.key bucket, view.ids bucket)) :
    view.Indexes nodes others where
  unique := unique_congr same indexes.unique
  covered node mem := by
    obtain ⟨bucket, bucket_mem, node_same⟩ := indexes.covered node mem
    obtain ⟨other, other_mem, key_eq, -⟩ := exists_counterpart same bucket_mem
    exact ⟨other, other_mem, key_eq ▸ node_same⟩
  nodup other mem := by
    obtain ⟨bucket, bucket_mem, -, ids_eq⟩ := exists_counterpart same.symm mem
    exact ids_eq ▸ indexes.nodup bucket bucket_mem
  mem_iff other mem id := by
    obtain ⟨bucket, bucket_mem, key_eq, ids_eq⟩ := exists_counterpart same.symm mem
    rw [← key_eq, ← ids_eq]
    exact indexes.mem_iff bucket bucket_mem id

theorem modify (key : κ) {change : β → β}
    (key_change : ∀ bucket, view.key (change bucket) = view.key bucket)
    (ids_change : ∀ bucket, view.ids (change bucket) = view.ids bucket) :
    view.Indexes nodes (view.modify buckets key change) :=
  indexes.congr (map_modify key key_change ids_change)

theorem filter {keep : β → Bool}
    (dropped_empty : ∀ bucket ∈ buckets, keep bucket = false → view.ids bucket = []) :
    view.Indexes nodes (buckets.filter keep) where
  unique := indexes.unique.filter keep
  covered node mem := by
    obtain ⟨bucket, bucket_mem, same⟩ := indexes.covered node mem
    refine ⟨bucket, mem_filter.mpr ⟨bucket_mem, ?_⟩, same⟩
    by_contra dropped
    have linked := (indexes.mem_iff bucket bucket_mem node.1).mpr ⟨node.2, mem, same⟩
    rw [dropped_empty bucket bucket_mem (Bool.not_eq_true _ ▸ dropped)] at linked
    cases linked
  nodup bucket mem := indexes.nodup bucket (mem_filter.mp mem).1
  mem_iff bucket mem := indexes.mem_iff bucket (mem_filter.mp mem).1

theorem unlink (id : Nat) :
    view.Indexes (nodes.filter fun node => node.1 ≠ id) (view.unlink buckets id) where
  unique := by
    unfold BucketView.unlink
    rw [pairwise_map]
    refine indexes.unique.imp fun {a b} apart => ?_
    rwa [view.key_withIds, view.key_withIds]
  covered node mem := by
    obtain ⟨bucket, bucket_mem, same⟩ := indexes.covered node (mem_filter.mp mem).1
    refine ⟨_, List.mem_map_of_mem bucket_mem, ?_⟩
    rwa [view.key_withIds]
  nodup := by
    intro changed mem
    obtain ⟨bucket, bucket_mem, rfl⟩ := List.mem_map.mp mem
    rw [view.ids_withIds]
    exact (indexes.nodup bucket bucket_mem).erase id
  mem_iff := by
    intro changed mem other
    obtain ⟨bucket, bucket_mem, rfl⟩ := List.mem_map.mp mem
    rw [view.ids_withIds, view.key_withIds, (indexes.nodup bucket bucket_mem).mem_erase_iff,
      indexes.mem_iff bucket bucket_mem]
    constructor
    · rintro ⟨different, key, node_mem, same⟩
      exact ⟨key, mem_filter.mpr ⟨node_mem, decide_eq_true different⟩, same⟩
    · rintro ⟨key, node_mem, same⟩
      obtain ⟨node_mem, different⟩ := mem_filter.mp node_mem
      exact ⟨of_decide_eq_true different, key, node_mem, same⟩

theorem not_mem_ids (new : ∀ node ∈ nodes, node.1 ≠ id) (mem : bucket ∈ buckets) :
    id ∉ view.ids bucket := by
  intro linked
  obtain ⟨key, node_mem, -⟩ := (indexes.mem_iff bucket mem id).mp linked
  exact new (id, key) node_mem rfl

omit indexes in
theorem exists_mem_append {other : Nat} {place : κ} :
    (∃ old, (other, old) ∈ nodes ++ [(id, key)] ∧ view.same old place = true) ↔
      (∃ old, (other, old) ∈ nodes ∧ view.same old place = true) ∨
        other = id ∧ view.same key place = true := by
  simp [or_and_right, exists_or, and_assoc]

theorem link_existing {home : β} (new : ∀ node ∈ nodes, node.1 ≠ id) (home_mem : home ∈ buckets)
    (home_same : view.same key (view.key home) = true) :
    view.Indexes (nodes ++ [(id, key)])
      (view.modify buckets key fun bucket => view.withIds bucket (view.ids bucket ++ [id])) := by
  have key_change : ∀ bucket, view.key (if view.same key (view.key bucket) then
      view.withIds bucket (view.ids bucket ++ [id]) else bucket) = view.key bucket := by
    intro bucket
    split
    · exact view.key_withIds _ _
    · rfl
  unfold BucketView.modify
  refine ⟨?_, ?_, ?_, ?_⟩
  · rw [pairwise_map]
    refine indexes.unique.imp fun {a b} apart => ?_
    rwa [key_change, key_change]
  · intro node mem
    rcases mem_append.mp mem with mem | mem
    · obtain ⟨bucket, bucket_mem, same⟩ := indexes.covered node mem
      refine ⟨_, List.mem_map_of_mem bucket_mem, ?_⟩
      rwa [key_change]
    · rw [mem_singleton.mp mem]
      refine ⟨_, List.mem_map_of_mem home_mem, ?_⟩
      rwa [key_change]
  · intro changed mem
    obtain ⟨bucket, bucket_mem, rfl⟩ := List.mem_map.mp mem
    split
    · rw [view.ids_withIds, nodup_append_comm]
      exact nodup_cons.mpr
        ⟨indexes.not_mem_ids new bucket_mem, indexes.nodup bucket bucket_mem⟩
    · exact indexes.nodup bucket bucket_mem
  · intro changed mem other
    obtain ⟨bucket, bucket_mem, rfl⟩ := List.mem_map.mp mem
    rw [key_change, exists_mem_append, ← indexes.mem_iff bucket bucket_mem]
    split
    · rename_i same
      rw [view.ids_withIds, mem_append, mem_singleton, and_iff_left same]
    · rename_i different
      rw [or_iff_left fun added => different added.2]

theorem link_fresh {fresh : β}
    (absent : ∀ bucket ∈ buckets, view.same key (view.key bucket) = false)
    (fresh_key : view.same key (view.key fresh) = true) :
    view.Indexes (nodes ++ [(id, key)]) (buckets ++ [view.withIds fresh [id]]) := by
  refine ⟨?_, ?_, ?_, ?_⟩
  · rw [pairwise_append]
    refine ⟨indexes.unique, pairwise_singleton _ _, ?_⟩
    intro bucket mem other other_mem
    rw [mem_singleton.mp other_mem, view.key_withIds, same_comm, ← same_congr_left fresh_key]
    exact absent bucket mem
  · intro node mem
    rcases mem_append.mp mem with mem | mem
    · obtain ⟨bucket, bucket_mem, same⟩ := indexes.covered node mem
      exact ⟨bucket, mem_append_left _ bucket_mem, same⟩
    · rw [mem_singleton.mp mem]
      refine ⟨_, mem_append_right _ (mem_singleton.mpr rfl), ?_⟩
      rwa [view.key_withIds]
  · intro bucket mem
    rcases mem_append.mp mem with mem | mem
    · exact indexes.nodup bucket mem
    · rw [mem_singleton.mp mem, view.ids_withIds]
      exact nodup_singleton id
  · intro bucket mem other
    rw [exists_mem_append]
    rcases mem_append.mp mem with old_mem | new_mem
    · rw [indexes.mem_iff bucket old_mem, absent bucket old_mem]
      simp
    · rw [mem_singleton.mp new_mem, view.ids_withIds, view.key_withIds, mem_singleton,
        and_iff_left fresh_key, or_iff_right]
      rintro ⟨old_key, node_mem, old_same⟩
      -- A node of this key would have a bucket already.
      obtain ⟨bucket, bucket_mem, bucket_same⟩ := indexes.covered _ node_mem
      have key_same : view.same key (view.key bucket) = true := by
        rw [same_congr_left fresh_key, ← same_congr_left old_same]
        exact bucket_same
      rw [absent bucket bucket_mem] at key_same
      cases key_same

theorem link {fresh : β} (new : ∀ node ∈ nodes, node.1 ≠ id)
    (fresh_key : view.same key (view.key fresh) = true) :
    view.Indexes (nodes ++ [(id, key)]) (view.link buckets key fresh id) := by
  unfold BucketView.link
  cases found : view.find buckets key with
  | some home => exact indexes.link_existing new (mem_of_find found) (same_of_find found)
  | none => exact indexes.link_fresh (find_eq_none.mp found) fresh_key

section

variable (only : ∀ other, (id, other) ∈ nodes → other = key)

include only

theorem same_of_mem (mem : bucket ∈ buckets) (linked : id ∈ view.ids bucket) :
    view.same key (view.key bucket) = true := by
  obtain ⟨other, node_mem, same⟩ := (indexes.mem_iff bucket mem id).mp linked
  rwa [only other node_mem] at same

theorem ids_of_alone (alone : view.alone buckets id = true) (mem : bucket ∈ buckets)
    (same : view.same key (view.key bucket) = true) : view.ids bucket = [id] := by
  obtain ⟨single, single_mem, single_ids⟩ := List.any_eq_true.mp alone
  have single_ids := of_decide_eq_true single_ids
  have single_same := indexes.same_of_mem only single_mem (single_ids ▸ mem_singleton_self id)
  rw [same_congr_left single_same] at same
  rw [← indexes.eq_of_same single_mem mem same, single_ids]

theorem unlink_remove (alone : view.alone buckets id = true) :
    view.Indexes (nodes.filter fun node => node.1 ≠ id)
      (view.unlink (view.remove buckets key) id) := by
  have commute : view.unlink (view.remove buckets key) id =
      (view.unlink buckets id).filter fun bucket => !view.same key (view.key bucket) := by
    unfold BucketView.unlink BucketView.remove
    rw [List.filter_map]
    simp only [Function.comp_def, view.key_withIds]
  rw [commute]
  refine (indexes.unlink id).filter fun changed mem dropped => ?_
  obtain ⟨bucket, bucket_mem, rfl⟩ := List.mem_map.mp mem
  rw [view.key_withIds, Bool.not_eq_false'] at dropped
  rw [view.ids_withIds, indexes.ids_of_alone only alone bucket_mem dropped, erase_cons_head]

end

end Indexes

end BucketView
