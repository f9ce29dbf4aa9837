import Mathlib.Data.List.Nodup
import Mathlib.Data.List.Sort
import Mathlib.Data.Nat.Basic

/-!
# Lists in the order of a key

Facts about two rows of a list by where they stand in it.

* `rel_of_key_lt`: what holds of every two rows in the order of the list holds of two rows whose
  keys say which comes first.
* `pairwise_take`: a row before one of the first `n` is one of the first `n`.
* `sublist_of_increasing`: of two increasing lists, one within the other is a sublist of it.

`pageOf size number` is one page of a list, counted from zero, and `pageCount` the number of pages
that it takes.

* `flatten_pages`: the pages one after another are the list.
* `eq_of_strictly_sorted`: a list of rows with different keys has one order by its keys.
* `pageOf_served`: where every page comes from a query of its own, and the keys differ, the pages are
  those of one list.
-/

namespace DealFlow.Lib

section

variable {α : Type*} {R : α → α → Prop} {l : List α}

theorem rel_of_key_lt {f : α → ℕ} (pairs : l.Pairwise R)
    (increasing : l.Pairwise fun a b => f a < f b) {a b : α} (memA : a ∈ l) (memB : b ∈ l)
    (before : f a < f b) : R a b := by
  have both : l.Pairwise fun a b => f a < f b → R a b := by
    refine pairs.imp ?_
    intro a b holds _
    exact holds
  have flipped : l.Pairwise (flip fun a b => f a < f b → R a b) :=
    increasing.imp fun lt gt => absurd gt (Nat.lt_asymm lt)
  have apart : ∀ x ∈ l, f x < f x → R x x := fun x _ lt => absurd lt (Nat.lt_irrefl _)
  exact List.Pairwise.forall_of_forall_of_flip apart both flipped memA memB before

theorem pairwise_take (nodup : l.Nodup) {n : ℕ} (pairs : (l.take n).Pairwise R) :
    l.Pairwise fun a b => b ∈ l.take n → a ∈ l.take n ∧ R a b := by
  have split : (l.take n ++ l.drop n).Nodup := by rwa [List.take_append_drop]
  have later : ∀ b ∈ l.drop n, b ∉ l.take n := fun b memB memA =>
    (List.nodup_append.mp split).2.2 b memA b memB rfl
  suffices (l.take n ++ l.drop n).Pairwise fun a b => b ∈ l.take n → a ∈ l.take n ∧ R a b by
    rwa [List.take_append_drop] at this
  refine List.pairwise_append.mpr ⟨?_, ?_, ?_⟩
  · exact List.Pairwise.imp_of_mem (fun memA _ holds _ => ⟨memA, holds⟩) pairs
  · exact List.Pairwise.imp_of_mem (fun _ memB _ mem => absurd mem (later _ memB))
      (List.pairwise_of_forall fun _ _ => trivial : (l.drop n).Pairwise fun _ _ => True)
  · exact fun a _ b memB mem => absurd mem (later b memB)

theorem sublist_of_increasing {xs ys : List ℕ} (xsInc : xs.Pairwise (· < ·))
    (ysInc : ys.Pairwise (· < ·)) (within : xs ⊆ ys) : xs.Sublist ys :=
  List.sublist_of_subperm_of_pairwise
    (List.subperm_of_subset (xsInc.imp Nat.ne_of_lt) within) xsInc ysInc

end

/-! ## Pages -/

variable {α : Type*}

def pageOf (size number : ℕ) (rows : List α) : List α :=
  (rows.drop (number * size)).take size

def pageCount (size total : ℕ) : ℕ :=
  if 0 < size then (total + size - 1) / size else 0

/-- So many pages, one after another, are the start of the list. -/
theorem flatMap_pageOf (size : ℕ) (rows : List α) (count : ℕ) :
    (List.range count).flatMap (pageOf size · rows) = rows.take (count * size) := by
  induction count with
  | zero => simp
  | succ count ih =>
      rw [List.range_succ, List.flatMap_append, ih, List.flatMap_singleton, pageOf,
        Nat.succ_mul, List.take_add]

theorem le_pageCount_mul {size : ℕ} (pos : 0 < size) (total : ℕ) :
    total ≤ pageCount size total * size := by
  rw [pageCount, if_pos pos]
  have split := Nat.div_add_mod (total + size - 1) size
  have small := Nat.mod_lt (total + size - 1) pos
  rw [Nat.mul_comm] at split
  omega

/-- The pages of a list, one after another, are the list. -/
theorem flatten_pages {size : ℕ} (pos : 0 < size) (rows : List α) :
    (List.range (pageCount size rows.length)).flatMap (pageOf size · rows) = rows := by
  rw [flatMap_pageOf]
  exact List.take_of_length_le (le_pageCount_mul pos rows.length)

/-- Rows with different keys have one order by their keys. -/
theorem eq_of_strictly_sorted {κ : Type*} [LinearOrder κ] (key : α → κ) {xs ys : List α}
    (perm : xs.Perm ys) (distinct : (xs.map key).Nodup)
    (sortedX : xs.Pairwise fun a b => key b ≤ key a)
    (sortedY : ys.Pairwise fun a b => key b ≤ key a) : xs = ys := by
  refine perm.eq_of_pairwise (fun a b memA memB ab ba => ?_) sortedX sortedY
  exact List.inj_on_of_nodup_map distinct memA (perm.mem_iff.mpr memB) (le_antisymm ba ab)

/-- The rows as a query in descending order of their keys may give them: those with one key come in
any order. -/
structure NewestFirst {κ : Type*} [LE κ] (key : α → κ) (serve : List α → List α) : Prop where
  perm : ∀ rows, (serve rows).Perm rows
  sorted : ∀ rows, (serve rows).Pairwise fun a b => key b ≤ key a

section Served

variable {κ : Type*} [LinearOrder κ] {key : α → κ}

/-- Rows with different keys come in one order. -/
theorem NewestFirst.unique {serve serve' : List α → List α} (served : NewestFirst key serve)
    (served' : NewestFirst key serve') {rows : List α} (distinct : (rows.map key).Nodup) :
    serve rows = serve' rows := by
  refine eq_of_strictly_sorted key ((served.perm rows).trans (served'.perm rows).symm) ?_
    (served.sorted rows) (served'.sorted rows)
  exact ((served.perm rows).map key).nodup_iff.mpr distinct

/-- Rows with different keys come in strictly descending order. -/
theorem NewestFirst.strictly {serve : List α → List α} (served : NewestFirst key serve)
    {rows : List α} (distinct : (rows.map key).Nodup) :
    (serve rows).Pairwise fun a b => key b < key a := by
  have apart : (serve rows).Pairwise fun a b => key a ≠ key b :=
    List.pairwise_map.mp (((served.perm rows).map key).nodup_iff.mpr distinct)
  refine ((served.sorted rows).and apart).imp ?_
  rintro a b ⟨older, ne⟩
  exact lt_of_le_of_ne older ne.symm

/-- Sorting by descending keys is one such order. -/
theorem newestFirst_insertionSort (key : α → κ) :
    NewestFirst key fun rows => rows.insertionSort fun a b => key b ≤ key a := by
  have total : Std.Total fun a b : α => key b ≤ key a := ⟨fun a b => le_total _ _⟩
  have trans : IsTrans α fun a b => key b ≤ key a := ⟨fun a b c first second => second.trans first⟩
  exact ⟨fun rows => List.perm_insertionSort _ rows, fun rows => List.pairwise_insertionSort _ rows⟩

/-- A page of one query is that page of any other. -/
theorem pageOf_served {serve : ℕ → List α → List α} (served : ∀ n, NewestFirst key (serve n))
    {rows : List α} (distinct : (rows.map key).Nodup) (size n : ℕ) :
    pageOf size n (serve n rows) = pageOf size n (serve 0 rows) := by
  rw [(served n).unique (served 0) distinct]

end Served

end DealFlow.Lib
