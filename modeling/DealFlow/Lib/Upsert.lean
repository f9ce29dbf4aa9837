import Mathlib.Data.List.Nodup

/-!
# Updating the first row of a key

A table is a list of rows, some of which have a key.  An upsert updates the first row of a key, or
appends a row for it; other rows of the key are left as they are.

* `upsertAll_cons`: a run of upserts of distinct keys is a pass over the rows.
* `upsertAll_forall_iff`: when all rows satisfy a property that upserts establish.
* `upsertAll_upsertAll`: a second run of the same upserts changes nothing.
-/

namespace DealFlow.Lib

variable {ρ κ ν : Type*} [DecidableEq κ]

/-- How rows are keyed, updated and created. -/
structure Upsert (ρ κ ν : Type*) where
  key : ρ → Option κ
  update : ν → ρ → ρ
  create : κ → ν → ρ
  key_update : ∀ v r, key (update v r) = key r
  key_create : ∀ k v, key (create k v) = some k
  update_update : ∀ v r, update v (update v r) = update v r
  update_create : ∀ k v, update v (create k v) = create k v

namespace Upsert

variable (u : Upsert ρ κ ν)

/-- Update the first row of a key, or append one. -/
def upsertFirst (entry : κ × ν) : List ρ → List ρ
  | [] => [u.create entry.1 entry.2]
  | r :: rows =>
      if u.key r = some entry.1 then u.update entry.2 r :: rows
      else r :: upsertFirst entry rows

def upsertAll (entries : List (κ × ν)) (rows : List ρ) : List ρ :=
  entries.foldl (fun rows entry => u.upsertFirst entry rows) rows

/-- A row after the upserts that come up to it. -/
def refreshed (entries : List (κ × ν)) (r : ρ) : ρ :=
  match entries.find? fun entry => u.key r = some entry.1 with
  | none => r
  | some entry => u.update entry.2 r

/-- The entries whose key is not the one of a row. -/
def others (entries : List (κ × ν)) (r : ρ) : List (κ × ν) :=
  entries.filter fun entry => u.key r ≠ some entry.1

/-- A row that an upsert updates: no row before it has the key. -/
def Reached (entries : List (κ × ν)) (before : List ρ) (r : ρ) : Prop :=
  ∃ entry ∈ entries, u.key r = some entry.1 ∧ ∀ other ∈ before, u.key other ≠ some entry.1

variable {u}

theorem key_refreshed (entries : List (κ × ν)) (r : ρ) :
    u.key (u.refreshed entries r) = u.key r := by
  unfold refreshed
  split
  · rfl
  · exact u.key_update _ r

theorem others_nodup {entries : List (κ × ν)} (distinct : (entries.map Prod.fst).Nodup) (r : ρ) :
    ((u.others entries r).map Prod.fst).Nodup :=
  (List.filter_sublist.map _).nodup distinct

/-- Upserts of other keys leave a row alone. -/
theorem refreshed_of_notMem {entries : List (κ × ν)} {r : ρ}
    (other : ∀ entry ∈ entries, u.key r ≠ some entry.1) : u.refreshed entries r = r := by
  have none : (entries.find? fun entry => u.key r = some entry.1) = none :=
    List.find?_eq_none.mpr fun entry mem same => other entry mem (of_decide_eq_true same)
  unfold refreshed
  rw [none]

theorem others_of_notMem {entries : List (κ × ν)} {r : ρ}
    (other : ∀ entry ∈ entries, u.key r ≠ some entry.1) : u.others entries r = entries :=
  List.filter_eq_self.mpr fun entry mem => decide_eq_true (other entry mem)

/-- The first row is refreshed, and the rest gets the entries of other keys. -/
theorem upsertAll_cons {entries : List (κ × ν)} (distinct : (entries.map Prod.fst).Nodup) (r : ρ)
    (rows : List ρ) :
    u.upsertAll entries (r :: rows) =
      u.refreshed entries r :: u.upsertAll (u.others entries r) rows := by
  unfold upsertAll
  induction entries generalizing r rows with
  | nil => rfl
  | cons entry entries ih =>
      obtain ⟨fresh, rest⟩ := List.nodup_cons.mp distinct
      rw [List.foldl_cons, upsertFirst]
      by_cases here : u.key r = some entry.1
      · -- the later entries are of other keys
        have other : ∀ e ∈ entries, u.key r ≠ some e.1 := by
          intro e mem same
          have keys : entry.1 = e.1 := Option.some.inj (here.symm.trans same)
          exact fresh (List.mem_map.mpr ⟨e, mem, keys.symm⟩)
        have other' : ∀ e ∈ entries, u.key (u.update entry.2 r) ≠ some e.1 := by
          intro e mem
          rw [u.key_update]
          exact other e mem
        have kept : u.others (entry :: entries) r = entries := by
          unfold others
          rw [List.filter_cons_of_neg (by simpa using here)]
          exact others_of_notMem other
        have first : u.refreshed (entry :: entries) r = u.update entry.2 r := by
          unfold refreshed
          rw [List.find?_cons_of_pos (by simpa using here)]
        rw [if_pos here, ih rest, refreshed_of_notMem other', others_of_notMem other', kept, first]
      · have kept : u.others (entry :: entries) r = entry :: u.others entries r :=
          List.filter_cons_of_pos (by simpa using here)
        have first : u.refreshed (entry :: entries) r = u.refreshed entries r := by
          unfold refreshed
          rw [List.find?_cons_of_neg (by simpa using here)]
        rw [if_neg here, ih rest, kept, first, List.foldl_cons]

/-- On an empty table every entry makes a row. -/
theorem upsertAll_nil {entries : List (κ × ν)} (distinct : (entries.map Prod.fst).Nodup) :
    u.upsertAll entries [] = entries.map fun entry => u.create entry.1 entry.2 := by
  induction entries with
  | nil => rfl
  | cons entry entries ih =>
      obtain ⟨fresh, rest⟩ := List.nodup_cons.mp distinct
      have other : ∀ e ∈ entries, u.key (u.create entry.1 entry.2) ≠ some e.1 := by
        intro e mem same
        rw [u.key_create] at same
        exact fresh (List.mem_map.mpr ⟨e, mem, (Option.some.inj same).symm⟩)
      change u.upsertAll entries [u.create entry.1 entry.2] = _
      rw [upsertAll_cons rest, refreshed_of_notMem other, others_of_notMem other, ih rest]
      rfl

/-- A row after another is reached by the entries that are not of the other's key. -/
theorem reached_cons {entries : List (κ × ν)} {r s : ρ} {before : List ρ} :
    u.Reached entries (r :: before) s ↔ u.Reached (u.others entries r) before s := by
  unfold Reached others
  constructor
  · rintro ⟨entry, mem, same, others⟩
    have other := others r List.mem_cons_self
    exact ⟨entry, List.mem_filter.mpr ⟨mem, decide_eq_true other⟩, same,
      fun earlier memBefore => others earlier (List.mem_cons_of_mem _ memBefore)⟩
  · rintro ⟨entry, mem, same, others⟩
    obtain ⟨mem, other⟩ := List.mem_filter.mp mem
    refine ⟨entry, mem, same, ?_⟩
    intro earlier memBefore
    rcases List.mem_cons.mp memBefore with here | memBefore
    · exact here ▸ of_decide_eq_true other
    · exact others earlier memBefore

/-- A refreshed row satisfies what upserts establish when an entry has its key or it did before. -/
theorem refreshed_iff {P : ρ → Prop} {entries : List (κ × ν)}
    (updated : ∀ entry ∈ entries, ∀ r, u.key r = some entry.1 → P (u.update entry.2 r)) (r : ρ) :
    P (u.refreshed entries r) ↔ u.Reached entries [] r ∨ P r := by
  by_cases reached : u.Reached entries [] r
  · refine iff_of_true ?_ (.inl reached)
    obtain ⟨entry, mem, same, -⟩ := reached
    unfold refreshed
    cases found : entries.find? fun entry => u.key r = some entry.1 with
    | none => exact absurd (decide_eq_true same) (List.find?_eq_none.mp found entry mem)
    | some entry =>
        have same : u.key r = some entry.1 := by simpa using List.find?_some found
        exact updated entry (List.mem_of_find?_eq_some found) r same
  · have other : ∀ entry ∈ entries, u.key r ≠ some entry.1 := fun entry mem same =>
      reached ⟨entry, mem, same, fun earlier none => absurd none List.not_mem_nil⟩
    rw [refreshed_of_notMem other, or_iff_right reached]

/-- All rows satisfy what upserts establish when those that no upsert reaches do. -/
theorem upsertAll_forall_iff {P : ρ → Prop} {entries : List (κ × ν)}
    (distinct : (entries.map Prod.fst).Nodup)
    (updated : ∀ entry ∈ entries, ∀ r, u.key r = some entry.1 → P (u.update entry.2 r))
    (created : ∀ entry ∈ entries, P (u.create entry.1 entry.2)) (rows : List ρ) :
    (∀ r ∈ u.upsertAll entries rows, P r) ↔
      ∀ before r after, rows = before ++ r :: after → u.Reached entries before r ∨ P r := by
  induction rows generalizing entries with
  | nil =>
      rw [upsertAll_nil distinct]
      refine iff_of_true ?_ ?_
      · intro r mem
        obtain ⟨entry, memEntry, rfl⟩ := List.mem_map.mp mem
        exact created entry memEntry
      · intro before r after none
        exact absurd none.symm (by simp)
  | cons r rows ih =>
      have sub : ∀ entry ∈ u.others entries r, entry ∈ entries := fun entry mem =>
        (List.mem_filter.mp mem).1
      rw [upsertAll_cons distinct, List.forall_mem_cons, refreshed_iff updated,
        ih (others_nodup distinct r) (fun entry mem => updated entry (sub entry mem))
          fun entry mem => created entry (sub entry mem)]
      constructor
      · rintro ⟨head, tail⟩ before s after split
        cases before with
        | nil =>
            obtain ⟨rfl, rfl⟩ := List.cons.inj split
            exact head
        | cons first before =>
            obtain ⟨rfl, rest⟩ := List.cons.inj split
            rw [reached_cons]
            exact tail before s after rest
      · intro all
        refine ⟨all [] r rows rfl, ?_⟩
        intro before s after split
        rw [← reached_cons]
        exact all (r :: before) s after (by rw [split, List.cons_append])

theorem refreshed_refreshed (entries : List (κ × ν)) (r : ρ) :
    u.refreshed entries (u.refreshed entries r) = u.refreshed entries r := by
  have key := key_refreshed (u := u) entries r
  unfold refreshed at key ⊢
  cases found : entries.find? fun entry => u.key r = some entry.1 with
  | none =>
      dsimp only
      rw [found]
  | some entry =>
      dsimp only
      rw [u.key_update, found]
      exact u.update_update _ _

/-- The same upserts again change nothing. -/
theorem upsertAll_upsertAll {entries : List (κ × ν)} (distinct : (entries.map Prod.fst).Nodup)
    (rows : List ρ) :
    u.upsertAll entries (u.upsertAll entries rows) = u.upsertAll entries rows := by
  induction rows generalizing entries with
  | nil =>
      rw [upsertAll_nil distinct]
      induction entries with
      | nil => rfl
      | cons entry entries ih =>
          obtain ⟨fresh, rest⟩ := List.nodup_cons.mp distinct
          have kept : u.others (entry :: entries) (u.create entry.1 entry.2) = entries := by
            unfold others
            rw [u.key_create, List.filter_cons_of_neg (by simp)]
            refine List.filter_eq_self.mpr fun e mem => ?_
            have ne : entry.1 ≠ e.1 := fun same => fresh (List.mem_map.mpr ⟨e, mem, same.symm⟩)
            simpa using ne
          have first : u.refreshed (entry :: entries) (u.create entry.1 entry.2) =
              u.create entry.1 entry.2 := by
            unfold refreshed
            rw [u.key_create, List.find?_cons_of_pos (by simp)]
            exact u.update_create _ _
          rw [List.map_cons, upsertAll_cons distinct, first, kept, ih rest]
  | cons r rows ih =>
      have kept : u.others entries (u.refreshed entries r) = u.others entries r := by
        unfold others
        rw [key_refreshed]
      rw [upsertAll_cons distinct, upsertAll_cons distinct, refreshed_refreshed, kept,
        ih (others_nodup distinct r)]

end Upsert

end DealFlow.Lib
