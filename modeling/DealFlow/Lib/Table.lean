import Mathlib.Data.List.Nodup
import Mathlib.Logic.Function.Basic
import Mathlib.Order.Basic
import Mathlib.Data.Nat.Basic

/-!
# Tables of rows by id

The rows of a database table by their ids, which a counter gives out: no row has an id the counter
has not reached.  `insert` takes the next id, `rewrite` replaces or drops each row by its id and
value, and `modify`, `filter` and `erase` are its uses.

* `row_insert`, `row_insertAll`, `row_modify`, `row_filter`, `row_erase`: a lookup after each.
* `mem_entries`: the listed rows are the rows looked up.
-/

namespace DealFlow.Lib

structure Table (α : Type*) where
  row : ℕ → Option α
  next : ℕ
  free : ∀ id, next ≤ id → row id = none

namespace Table

variable {α : Type*}

def empty : Table α where
  row _ := none
  next := 1
  free _ _ := rfl

/-- The rows with their ids, in the order of the ids. -/
def entries (t : Table α) : List (ℕ × α) :=
  (List.range t.next).filterMap fun id => (t.row id).map (id, ·)

def insert (t : Table α) (a : α) : Table α where
  row := Function.update t.row t.next (some a)
  next := t.next + 1
  free id le := by
    rw [Function.update_of_ne (by omega)]
    exact t.free id (by omega)

/-- Each row replaced by its image, or dropped where it has none. -/
def rewrite (t : Table α) (f : ℕ → α → Option α) : Table α where
  row id := (t.row id).bind (f id)
  next := t.next
  free id le := by rw [t.free id le, Option.bind_none]

def modify (t : Table α) (ids : List ℕ) (f : α → α) : Table α :=
  t.rewrite fun id a => some (if id ∈ ids then f a else a)

/-- The rows that pass a test. -/
def filter (t : Table α) (p : α → Bool) : Table α :=
  t.rewrite fun _ a => if p a then some a else none

/-- The rows take the next ids in their order. -/
def insertAll (t : Table α) (as : List α) : Table α :=
  as.foldl insert t

def erase (t : Table α) (ids : List ℕ) : Table α :=
  t.rewrite fun id a => if id ∈ ids then none else some a

@[ext] theorem ext {t u : Table α} (row : t.row = u.row) (next : t.next = u.next) : t = u := by
  cases t
  cases u
  cases row
  cases next
  rfl

@[simp] theorem row_next (t : Table α) : t.row t.next = none := t.free t.next le_rfl

theorem lt_next {t : Table α} {id : ℕ} {a : α} (row : t.row id = some a) : id < t.next := by
  by_contra reached
  rw [t.free id (not_lt.mp reached)] at row
  cases row

@[simp] theorem row_insert (t : Table α) (a : α) (id : ℕ) :
    (t.insert a).row id = if id = t.next then some a else t.row id :=
  Function.update_apply t.row t.next (some a) id

theorem row_insert_of_some {t : Table α} {id : ℕ} {b : α} (row : t.row id = some b) (a : α) :
    (t.insert a).row id = some b := by
  rw [row_insert, if_neg (lt_next row).ne, row]

@[simp] theorem row_modify (t : Table α) (ids : List ℕ) (f : α → α) (id : ℕ) :
    (t.modify ids f).row id = if id ∈ ids then (t.row id).map f else t.row id := by
  change ((t.row id).bind fun a => some (if id ∈ ids then f a else a)) = _
  cases t.row id with
  | none => split <;> rfl
  | some a =>
      rw [Option.bind_some]
      split <;> rfl

theorem modify_nil (t : Table α) (f : α → α) : t.modify [] f = t := by
  refine ext (funext fun id => ?_) rfl
  rw [row_modify, if_neg List.not_mem_nil]

/-- Where doing it twice is doing it once, two modifications are one. -/
theorem modify_modify {f : α → α} (idem : ∀ a, f (f a) = f a) (t : Table α) (ids later : List ℕ) :
    (t.modify ids f).modify later f = t.modify (ids ++ later) f := by
  refine ext (funext fun id => ?_) rfl
  simp only [row_modify, List.mem_append]
  by_cases first : id ∈ ids
  · by_cases second : id ∈ later
    · simp only [first, second, if_true, true_or, Option.map_map]
      exact congrArg (Option.map · _) (funext idem)
    · simp only [first, second, if_true, if_false, true_or]
  · simp only [first, if_false, false_or]

theorem modify_of_none {t : Table α} {id : ℕ} (row : t.row id = none) (f : α → α) :
    t.modify [id] f = t := by
  refine ext (funext fun other => ?_) rfl
  rw [row_modify]
  split
  · next mem => rw [List.mem_singleton.mp mem, row, Option.map_none]
  · rfl

@[simp] theorem row_erase (t : Table α) (ids : List ℕ) (id : ℕ) :
    (t.erase ids).row id = if id ∈ ids then none else t.row id := by
  change ((t.row id).bind fun a => if id ∈ ids then none else some a) = _
  cases t.row id with
  | none => split <;> rfl
  | some a => rw [Option.bind_some]

@[simp] theorem row_filter (t : Table α) (p : α → Bool) (id : ℕ) :
    (t.filter p).row id = (t.row id).filter p := by
  change ((t.row id).bind fun a => if p a then some a else none) = _
  cases t.row id <;> rfl

@[simp] theorem next_filter (t : Table α) (p : α → Bool) : (t.filter p).next = t.next := rfl

theorem row_insertAll (t : Table α) (as : List α) (id : ℕ) :
    (t.insertAll as).row id = if id < t.next then t.row id else as[id - t.next]? := by
  induction as generalizing t with
  | nil =>
      change t.row id = _
      split
      · rfl
      · next reached => exact t.free id (not_lt.mp reached)
  | cons a as ih =>
      have first : (t.insertAll (a :: as)).row id = ((t.insert a).insertAll as).row id := rfl
      rw [first, ih, row_insert]
      change (if id < t.next + 1 then _ else as[id - (t.next + 1)]?) = _
      rcases Nat.lt_trichotomy id t.next with before | same | after
      · rw [if_pos (by omega), if_neg before.ne, if_pos before]
      · rw [if_pos (by omega), if_pos same, if_neg (by omega), same, Nat.sub_self]
        rfl
      · have shift : id - t.next = id - (t.next + 1) + 1 := by omega
        rw [if_neg (by omega), if_neg (by omega), shift, List.getElem?_cons_succ]

theorem mem_entries {t : Table α} {entry : ℕ × α} :
    entry ∈ t.entries ↔ t.row entry.1 = some entry.2 := by
  obtain ⟨id, a⟩ := entry
  rw [entries, List.mem_filterMap]
  constructor
  · rintro ⟨found, -, image⟩
    obtain ⟨b, row, eq⟩ := Option.map_eq_some_iff.mp image
    cases eq
    exact row
  · intro row
    exact ⟨id, List.mem_range.mpr (lt_next row), by rw [row]; rfl⟩

/-- A new row is listed last. -/
theorem entries_insert (t : Table α) (a : α) : (t.insert a).entries = t.entries ++ [(t.next, a)] := by
  unfold entries
  have last : (t.insert a).next = t.next + 1 := rfl
  rw [last, List.range_succ, List.filterMap_append]
  congr 1
  · refine List.filterMap_congr fun id mem => ?_
    rw [row_insert, if_neg (List.mem_range.mp mem).ne]
  · simp

theorem entries_modify (t : Table α) (ids : List ℕ) (f : α → α) :
    (t.modify ids f).entries =
      t.entries.map fun entry => if entry.1 ∈ ids then (entry.1, f entry.2) else entry := by
  rw [entries, entries, List.map_filterMap]
  refine List.filterMap_congr fun id _ => ?_
  rw [row_modify]
  cases t.row id with
  | none => simp
  | some a => split <;> simp [*]

theorem entries_nodup (t : Table α) : (t.entries.map Prod.fst).Nodup := by
  rw [entries, List.map_filterMap]
  refine List.Nodup.filterMap (fun i j id memI memJ => ?_) List.nodup_range
  have key : ∀ {k}, id ∈ ((t.row k).map (k, ·)).map Prod.fst → k = id := by
    intro k mem
    obtain ⟨entry, row, eq⟩ := Option.map_eq_some_iff.mp mem
    obtain ⟨a, -, rfl⟩ := Option.map_eq_some_iff.mp row
    exact eq
  exact (key memI).trans (key memJ).symm

end Table

end DealFlow.Lib
