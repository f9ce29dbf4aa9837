import Mathlib.Data.Finset.Card
import Mathlib.Data.List.Sort

/-!
# Places in a stable sort

`sortBy key` sorts by a key and leaves elements of one key as they were.  `[b, a] <+ l` says that
`b` stands before `a` in `l`.

* `pair_sortBy_of_lt`, `pair_sortBy_of_le`, `le_of_pair_sortBy`, `lt_of_pair_sortBy`: which of two
  elements stands first after the sort.
* `find?_sortBy_iff`: what is found first in the sorted list.
* `mem_take_of_card_lt`, `notMem_take_of_le_card`: an element is one of the first `k` by how many
  stand before it.
-/

namespace DealFlow.Lib

variable {α β ν : Type*}

/-! ## Two places in a list -/

section Pairs

variable {l : List α} {a b : α}

theorem pair_sublist_append {before after : List α} (mem : b ∈ before) :
    [b, a].Sublist (before ++ a :: after) :=
  (List.singleton_sublist.mpr mem).append (List.singleton_sublist.mpr List.mem_cons_self)

/-- In a list without duplicates what stands before an element is in the part before it. -/
theorem mem_of_pair_sublist {before after : List α} (nodup : (before ++ a :: after).Nodup)
    (pair : [b, a].Sublist (before ++ a :: after)) : b ∈ before := by
  induction before with
  | nil =>
      have rest : [a].Sublist after := by
        cases pair with
        | cons _ pair => exact (List.sublist_cons_self b [a]).trans pair
        | cons_cons _ pair => exact pair
      exact absurd (List.singleton_sublist.mp rest) (List.nodup_cons.mp nodup).1
  | cons first before ih =>
      cases pair with
      | cons _ pair =>
          exact List.mem_cons_of_mem _ (ih (List.nodup_cons.mp nodup).2 pair)
      | cons_cons _ pair => exact List.mem_cons_self

theorem not_pair_sublist_swap (nodup : l.Nodup) (pair : [b, a].Sublist l) :
    ¬ [a, b].Sublist l := by
  intro swapped
  have mem : a ∈ l := pair.subset (by simp)
  obtain ⟨before, after, rfl⟩ := List.append_of_mem mem
  have early := mem_of_pair_sublist nodup pair
  -- the place of `b` is before that of `a`, so `a` would be there too
  obtain ⟨front, back, rfl⟩ := List.append_of_mem early
  rw [List.append_assoc, List.cons_append] at nodup swapped
  have again := mem_of_pair_sublist nodup swapped
  exact (List.nodup_append.mp nodup).2.2 a again a (by simp) rfl

theorem pair_or_swap (memA : a ∈ l) (memB : b ∈ l) (ne : b ≠ a) :
    [b, a].Sublist l ∨ [a, b].Sublist l := by
  obtain ⟨before, after, rfl⟩ := List.append_of_mem memA
  rcases List.mem_append.mp memB with early | late
  · exact .inl (pair_sublist_append early)
  · have behind : b ∈ after := (List.mem_cons.mp late).resolve_left ne
    exact .inr (((List.singleton_sublist.mpr behind).cons_cons a).trans
      (List.sublist_append_right before _))

/-- Elements whose images come in an order are in that order themselves. -/
theorem pair_of_map_sublist {f : α → ν} {order : List ν} (nodup : order.Nodup)
    (sublist : (l.map f).Sublist order) (memA : a ∈ l) (memB : b ∈ l)
    (pair : [f b, f a].Sublist order) : [b, a].Sublist l := by
  have ne : b ≠ a := by
    rintro rfl
    simpa using nodup.sublist pair
  rcases pair_or_swap memA memB ne with inOrder | swapped
  · exact inOrder
  · exact absurd ((swapped.map f).trans sublist) (not_pair_sublist_swap nodup pair)

end Pairs

/-! ## The first elements -/

section Take

variable {name : α → ν} {l : List α} {a : α} {S : Finset ν} {k : ℕ}

theorem mem_take_iff {before after : List α} (nodup : (before ++ a :: after).Nodup) :
    a ∈ (before ++ a :: after).take k ↔ before.length < k := by
  have fresh : a ∉ before := fun mem => (List.nodup_append.mp nodup).2.2 a mem a (by simp) rfl
  rw [List.take_append, List.mem_append]
  constructor
  · rintro (early | here)
    · exact absurd (List.mem_of_mem_take early) fresh
    · by_contra short
      rw [Nat.sub_eq_zero_of_le (not_lt.mp short)] at here
      cases here
  · intro enough
    refine .inr ?_
    obtain ⟨rest, sum⟩ := Nat.exists_eq_add_of_lt enough
    have more : k - before.length = rest + 1 := by omega
    rw [more]
    exact List.mem_cons_self

/-- An element that fewer than `k` elements stand before is one of the first `k`. -/
theorem mem_take_of_card_lt (names : (l.map name).Nodup) (mem : a ∈ l)
    (before : ∀ b, [b, a].Sublist l → name b ∈ S) (few : S.card < k) : a ∈ l.take k := by
  obtain ⟨front, back, rfl⟩ := List.append_of_mem mem
  have nodup := List.Nodup.of_map name names
  refine (mem_take_iff nodup).mpr (lt_of_le_of_lt ?_ few)
  rw [List.map_append] at names
  classical
  have distinct := (List.nodup_append.mp names).1
  rw [← List.length_map name, ← List.toFinset_card_of_nodup distinct]
  refine Finset.card_le_card fun q memQ => ?_
  obtain ⟨b, memB, rfl⟩ := List.mem_map.mp (List.mem_toFinset.mp memQ)
  exact before b (pair_sublist_append memB)

/-- An element that at least `k` elements stand before is not one of the first `k`. -/
theorem notMem_take_of_le_card (nodup : l.Nodup) (mem : a ∈ l)
    (ahead : ∀ q ∈ S, ∃ b, name b = q ∧ [b, a].Sublist l) (many : k ≤ S.card) :
    a ∉ l.take k := by
  obtain ⟨front, back, rfl⟩ := List.append_of_mem mem
  rw [mem_take_iff nodup, not_lt]
  classical
  have sub : S ⊆ (front.map name).toFinset := by
    intro q memQ
    obtain ⟨b, rfl, pair⟩ := ahead q memQ
    exact List.mem_toFinset.mpr (List.mem_map_of_mem (mem_of_pair_sublist nodup pair))
  calc k ≤ S.card := many
    _ ≤ (front.map name).toFinset.card := Finset.card_le_card sub
    _ ≤ (front.map name).length := List.toFinset_card_le _
    _ = front.length := List.length_map name

end Take

/-! ## Sorting by a key -/

variable [LinearOrder β] (key : α → β)

/-- Lowest first; elements of one key stay as they were. -/
def sortBy (l : List α) : List α :=
  l.insertionSort fun a b => key a ≤ key b

variable {key} {l : List α} {a b : α}

theorem sortBy_perm : (sortBy key l).Perm l :=
  List.perm_insertionSort _ l

theorem mem_sortBy : a ∈ sortBy key l ↔ a ∈ l :=
  List.mem_insertionSort _

theorem sortBy_pairwise : (sortBy key l).Pairwise fun a b => key a ≤ key b := by
  have total : Std.Total fun a b : α => key a ≤ key b := ⟨fun a b => le_total _ _⟩
  have trans : IsTrans α fun a b => key a ≤ key b := ⟨fun _ _ _ => le_trans⟩
  exact List.pairwise_insertionSort _ l

theorem pair_sortBy_of_le (le : key b ≤ key a) (pair : [b, a].Sublist l) :
    [b, a].Sublist (sortBy key l) := by
  have total : Std.Total fun a b : α => key a ≤ key b := ⟨fun a b => le_total _ _⟩
  have trans : IsTrans α fun a b => key a ≤ key b := ⟨fun _ _ _ => le_trans⟩
  exact List.pair_sublist_insertionSort le pair

theorem le_of_pair_sortBy (pair : [b, a].Sublist (sortBy key l)) : key b ≤ key a := by
  have sorted : (sortBy key l).Pairwise fun a b => key a ≤ key b := sortBy_pairwise
  exact (List.pairwise_cons.mp (sorted.sublist pair)).1 a (List.mem_singleton_self a)

theorem pair_sortBy_of_lt (memA : a ∈ l) (memB : b ∈ l) (lt : key b < key a) :
    [b, a].Sublist (sortBy key l) := by
  have ne : b ≠ a := fun same => lt.ne (congrArg key same)
  have sorted : (sortBy key l).Pairwise fun a b => key a ≤ key b := sortBy_pairwise
  have memSorted : b ∈ sortBy key l := mem_sortBy.mpr memB
  have placed : a ∈ sortBy key l := mem_sortBy.mpr memA
  obtain ⟨front, back, split⟩ := List.append_of_mem placed
  rw [split] at sorted memSorted ⊢
  rcases List.mem_append.mp memSorted with early | late
  · exact pair_sublist_append early
  · rcases List.mem_cons.mp late with same | late
    · exact absurd same ne
    · have order := (List.pairwise_cons.mp (List.pairwise_append.mp sorted).2.1).1 b late
      exact absurd order (not_le.mpr lt)

/-- An element that stood behind goes first only with a lower key. -/
theorem lt_of_pair_sortBy (nodup : l.Nodup) (pair : [b, a].Sublist (sortBy key l))
    (stood : [a, b].Sublist l) : key b < key a := by
  by_contra le
  have swapped : [a, b].Sublist (sortBy key l) := pair_sortBy_of_le (not_lt.mp le) stood
  exact not_pair_sublist_swap (sortBy_perm.nodup_iff.mpr nodup) pair swapped

/-- The first of the accepted elements of the lowest key. -/
structure IsFirstLowest (key : α → β) (ok : α → Bool) (l : List α) (a : α) : Prop where
  mem : a ∈ l
  accepted : ok a = true
  lowest : ∀ b ∈ l, ok b = true → key a ≤ key b
  first : ∀ b ∈ l, ok b = true → b ≠ a → key b = key a → [a, b].Sublist l

theorem IsFirstLowest.unique {ok : α → Bool} (nodup : l.Nodup)
    (first : IsFirstLowest key ok l a) (first' : IsFirstLowest key ok l b) : a = b := by
  by_contra ne
  have same : key a = key b := le_antisymm (first.lowest b first'.mem first'.accepted)
    (first'.lowest a first.mem first.accepted)
  exact not_pair_sublist_swap nodup
    (first.first b first'.mem first'.accepted (Ne.symm ne) same.symm)
    (first'.first a first.mem first.accepted ne same)

theorem isFirstLowest_of_find? {ok : α → Bool} (nodup : l.Nodup)
    (found : (sortBy key l).find? ok = some a) : IsFirstLowest key ok l a := by
  obtain ⟨accepted, before, after, split, rejected⟩ := List.find?_eq_some_iff_append.mp found
  have sortedNodup : (sortBy key l).Nodup := sortBy_perm.nodup_iff.mpr nodup
  have behind : ∀ b ∈ l, ok b = true → b ≠ a → [a, b].Sublist (sortBy key l) := by
    intro b mem okB ne
    have memSorted : b ∈ sortBy key l := mem_sortBy.mpr mem
    rw [split] at memSorted ⊢
    rcases List.mem_append.mp memSorted with early | late
    · have no := rejected b early
      rw [okB] at no
      cases no
    · have later : b ∈ after := (List.mem_cons.mp late).resolve_left ne
      exact ((List.singleton_sublist.mpr later).cons_cons a).trans
        (List.sublist_append_right before _)
  have memA : a ∈ l := mem_sortBy.mp (List.mem_of_find?_eq_some found)
  refine ⟨memA, accepted, ?_, ?_⟩
  · intro b mem okB
    rcases eq_or_ne b a with rfl | ne
    · exact le_rfl
    · exact le_of_pair_sortBy (behind b mem okB ne)
  · intro b mem okB ne same
    rcases pair_or_swap mem memA ne.symm with inOrder | swapped
    · exact inOrder
    · exact absurd (behind b mem okB ne)
        (not_pair_sublist_swap sortedNodup (pair_sortBy_of_le same.le swapped))

/-- A search through the sorted list finds the first of the accepted elements of the lowest key. -/
theorem find?_sortBy_iff {ok : α → Bool} (nodup : l.Nodup) :
    (sortBy key l).find? ok = some a ↔ IsFirstLowest key ok l a := by
  refine ⟨isFirstLowest_of_find? nodup, fun first => ?_⟩
  cases found : (sortBy key l).find? ok with
  | none =>
      have rejected := List.find?_eq_none.mp found a (mem_sortBy.mpr first.mem)
      exact absurd first.accepted rejected
  | some b => rw [(isFirstLowest_of_find? nodup found).unique nodup first]

end DealFlow.Lib
