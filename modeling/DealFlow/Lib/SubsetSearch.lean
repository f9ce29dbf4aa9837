import DealFlow.Lib.Ranking
import Mathlib.Data.List.Sublists
import Mathlib.Data.List.Sort

/-!
# Searching the subsets of a list by size

`combinations k l` lists the sublists of `l` of length `k`, those with an earlier element first.
`searchBySize ok cost sizes l` goes through the sizes in order, sorts the combinations of each size
by cost (stably) and returns the first acceptable one.

* `searchBySize_some`: what it returns is an acceptable sublist of the first size that has one, and
  no acceptable sublist of that size costs less.
* `searchBySize_first`: where the first size has an acceptable sublist, it returns the first of the
  cheapest.
* `searchBySize_none`: it returns nothing exactly when no sublist of a listed size is acceptable.
-/

namespace DealFlow.Lib

variable {α β : Type*}

/-- The sublists of length `k`, in the order that takes earlier elements first. -/
def combinations : ℕ → List α → List (List α)
  | 0, _ => [[]]
  | _ + 1, [] => []
  | k + 1, a :: l => (combinations k l).map (a :: ·) ++ combinations (k + 1) l

theorem combinations_perm (k : ℕ) (l : List α) :
    (combinations k l).Perm (List.sublistsLen k l) := by
  induction l generalizing k with
  | nil => cases k <;> simp [combinations]
  | cons a l ih =>
      cases k with
      | zero => simp [combinations]
      | succ k =>
          rw [combinations, List.sublistsLen_succ_cons]
          exact List.perm_append_comm.trans ((ih (k + 1)).append ((ih k).map _))

theorem mem_combinations {k : ℕ} {l s : List α} :
    s ∈ combinations k l ↔ s.Sublist l ∧ s.length = k := by
  rw [(combinations_perm k l).mem_iff, List.mem_sublistsLen]

theorem combinations_nodup {l : List α} (nodup : l.Nodup) (k : ℕ) : (combinations k l).Nodup :=
  (combinations_perm k l).nodup_iff.mpr (List.nodup_sublistsLen k nodup)

theorem combinations_one (l : List α) : combinations 1 l = l.map fun a => [a] := by
  induction l with
  | nil => rfl
  | cons a l ih => rw [combinations, ih, combinations, List.map_singleton, List.map_cons]; rfl

/-- The combinations with the first element come before those without it. -/
theorem pair_combinations_head {k : ℕ} {x : α} {l s t : List α} (memS : s ∈ combinations k l)
    (memT : t ∈ combinations (k + 1) l) :
    [x :: s, t].Sublist (combinations (k + 1) (x :: l)) :=
  (List.singleton_sublist.mpr (List.mem_map_of_mem memS)).append (List.singleton_sublist.mpr memT)

theorem mem_combinations_two {x : α} {l s : List α} :
    s ∈ combinations 2 (x :: l) ↔ (∃ b ∈ l, s = [x, b]) ∨ s ∈ combinations 2 l := by
  rw [combinations, combinations_one, List.map_map, List.mem_append, List.mem_map]
  simp only [Function.comp_apply, eq_comm]

/-- Two pairs with the first element come in the order of their other elements. -/
theorem pair_combinations_two {x b c : α} {l : List α} (pair : [b, c].Sublist l) :
    [[x, b], [x, c]].Sublist (combinations 2 (x :: l)) := by
  have pairs := (pair.map fun a => [a]).map fun s => x :: s
  rw [combinations, combinations_one]
  exact pairs.trans (List.sublist_append_left _ _)

variable [LinearOrder β]

/-- The cheapest acceptable combination of the first size that has an acceptable one. -/
def searchBySize (ok : List α → Bool) (cost : List α → β) (sizes : List ℕ) (l : List α) :
    Option (List α) :=
  sizes.findSome? fun k =>
    ((combinations k l).insertionSort fun s t => cost s ≤ cost t).find? ok

/-- The first acceptable element of a sorted list costs no more than any acceptable one. -/
theorem cost_le_of_find? {ok : α → Bool} {cost : α → β} {l : List α} {s t : α}
    (sorted : l.Pairwise fun x y => cost x ≤ cost y) (found : l.find? ok = some s)
    (mem : t ∈ l) (accepted : ok t = true) : cost s ≤ cost t := by
  obtain ⟨-, before, after, rfl, rejected⟩ := List.find?_eq_some_iff_append.mp found
  rcases List.mem_append.mp mem with early | late
  · simp at rejected
    exact absurd accepted (by simp [rejected t early])
  · rcases List.mem_cons.mp late with rfl | late
    · exact le_rfl
    · have tail := (List.pairwise_append.mp sorted).2.1
      exact (List.pairwise_cons.mp tail).1 t late

section Correct

variable {ok : List α → Bool} {cost : List α → β} {sizes : List ℕ} {l s : List α}

theorem mem_sorted_combinations {k : ℕ} {t : List α} :
    t ∈ (combinations k l).insertionSort (fun s t => cost s ≤ cost t) ↔
      t.Sublist l ∧ t.length = k := by
  rw [List.mem_insertionSort, mem_combinations]

theorem searchBySize_none :
    searchBySize ok cost sizes l = none ↔
      ∀ t : List α, t.Sublist l → t.length ∈ sizes → ok t = false := by
  unfold searchBySize
  simp only [List.findSome?_eq_none_iff, List.find?_eq_none, mem_sorted_combinations]
  constructor
  · intro rejected t sub mem
    exact Bool.eq_false_iff.mpr (rejected _ mem t ⟨sub, rfl⟩)
  · rintro rejected k mem t ⟨sub, rfl⟩
    exact Bool.eq_false_iff.mp (rejected t sub mem)

/-- What the search returns over increasing sizes: an acceptable sublist, none of a smaller listed
size is acceptable, and none of its own size is acceptable at a lower cost. -/
theorem searchBySize_some (increasing : sizes.Pairwise (· < ·))
    (found : searchBySize ok cost sizes l = some s) :
    s.Sublist l ∧ s.length ∈ sizes ∧ ok s = true ∧
      (∀ t : List α, t.Sublist l → t.length ∈ sizes → ok t = true → s.length ≤ t.length) ∧
      ∀ t : List α, t.Sublist l → t.length = s.length → ok t = true → cost s ≤ cost t := by
  obtain ⟨smaller, k, larger, rfl, hit, missed⟩ := List.findSome?_eq_some_iff.mp found
  obtain ⟨sub, rfl⟩ := mem_sorted_combinations.mp (List.mem_of_find?_eq_some hit)
  have sorted : ((combinations s.length l).insertionSort fun s t => cost s ≤ cost t).Pairwise
      fun s t => cost s ≤ cost t := by
    have total : Std.Total fun s t : List α => cost s ≤ cost t := ⟨fun s t => le_total _ _⟩
    have trans : IsTrans (List α) fun s t => cost s ≤ cost t := ⟨fun _ _ _ => le_trans⟩
    exact List.pairwise_insertionSort _ _
  refine ⟨sub, List.mem_append_right _ List.mem_cons_self, List.find?_some hit, ?_, ?_⟩
  · intro t subT mem accepted
    rcases List.mem_append.mp mem with early | late
    · have rejected := List.find?_eq_none.mp (missed _ early) t
        (mem_sorted_combinations.mpr ⟨subT, rfl⟩)
      exact absurd accepted rejected
    · rcases List.mem_cons.mp late with same | late
      · exact same.ge
      · have tail := (List.pairwise_append.mp increasing).2.1
        exact ((List.pairwise_cons.mp tail).1 _ late).le
  · intro t subT size accepted
    exact cost_le_of_find? sorted hit (mem_sorted_combinations.mpr ⟨subT, size⟩) accepted

/-- Where some sublist of the first size is acceptable, the first of the cheapest is returned. -/
theorem searchBySize_first {k : ℕ} (nodup : l.Nodup)
    (some : ∃ t, t.Sublist l ∧ t.length = k ∧ ok t = true) :
    ∃ s, searchBySize ok cost (k :: sizes) l = Option.some s ∧
      IsFirstLowest cost ok (combinations k l) s := by
  cases found : (sortBy cost (combinations k l)).find? ok with
  | none =>
      obtain ⟨t, sub, size, accepted⟩ := some
      have mem : t ∈ sortBy cost (combinations k l) :=
        mem_sortBy.mpr (mem_combinations.mpr ⟨sub, size⟩)
      exact absurd accepted (List.find?_eq_none.mp found t mem)
  | some s =>
      refine ⟨s, ?_, (find?_sortBy_iff (combinations_nodup nodup k)).mp found⟩
      unfold searchBySize
      unfold sortBy at found
      rw [List.findSome?_cons, found]

end Correct

end DealFlow.Lib
