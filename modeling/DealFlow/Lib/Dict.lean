import Mathlib.Algebra.Order.Ring.Int
import Mathlib.Data.Int.Cast.Basic
import Mathlib.Data.List.Nodup
import Mathlib.Tactic.Abel
import Mathlib.Tactic.Push

/-!
# Dictionaries in the order of their keys' first assignment

A dictionary lists its entries, each key once.  `set` replaces the value of a key where it stands,
or appends the key.

* `mem_entries`: the listed entries are the entries looked up.
* `get_set`, `lookup_setEntry`: what an assignment does to lookups.
* `flatten_push`, `push_forall`: a dictionary of lists that grows by one element of a list.
* `get_foldl_increment`, `getD_foldl_increment`: a dictionary that counts what it is given.
* `total_modify`, `total_foldl`: a figure of the values added up, as one value after another is
  changed.
* `get_update`: a lookup after several assignments.
-/

namespace DealFlow.Lib

structure Dict (κ α : Type*) where
  entries : List (κ × α)
  nodup : (entries.map Prod.fst).Nodup

namespace Dict

variable {κ α : Type*} [DecidableEq κ]

def empty : Dict κ α where
  entries := []
  nodup := List.nodup_nil

def keys (d : Dict κ α) : List κ := d.entries.map Prod.fst

def get (d : Dict κ α) (k : κ) : Option α :=
  (d.entries.find? fun entry => entry.1 = k).map Prod.snd

/-- The value at an entry of the key replaced. -/
def replaceAt (k : κ) (a : α) (entry : κ × α) : κ × α :=
  if entry.1 = k then (k, a) else entry

@[simp] theorem replaceAt_fst (k : κ) (a : α) (entry : κ × α) :
    (replaceAt k a entry).1 = entry.1 := by
  unfold replaceAt
  split
  · next same => exact same.symm
  · rfl

theorem map_replaceAt_fst (k : κ) (a : α) (entries : List (κ × α)) :
    (entries.map (replaceAt k a)).map Prod.fst = entries.map Prod.fst := by
  rw [List.map_map]
  exact List.map_congr_left fun entry _ => replaceAt_fst k a entry

def set (d : Dict κ α) (k : κ) (a : α) : Dict κ α :=
  if known : k ∈ d.keys then
    { entries := d.entries.map (replaceAt k a)
      nodup := (map_replaceAt_fst k a d.entries).symm ▸ d.nodup }
  else
    { entries := d.entries ++ [(k, a)]
      nodup := by
        rw [List.map_append]
        refine List.nodup_append.mpr ⟨d.nodup, List.nodup_singleton k, ?_⟩
        intro other mem new memNew same
        rw [List.map_singleton, List.mem_singleton] at memNew
        rw [same, memNew] at mem
        exact known mem }

theorem mem_entries {d : Dict κ α} {k : κ} {a : α} : (k, a) ∈ d.entries ↔ d.get k = some a := by
  unfold get
  rw [Option.map_eq_some_iff]
  constructor
  · intro mem
    cases found : d.entries.find? fun entry => entry.1 = k with
    | none =>
        have missing := List.find?_eq_none.mp found (k, a) mem
        exact absurd (decide_eq_true rfl) missing
    | some entry =>
        refine ⟨entry, rfl, ?_⟩
        have key : entry.1 = k := by simpa using List.find?_some found
        have same : entry = (k, a) :=
          List.inj_on_of_nodup_map d.nodup (List.mem_of_find?_eq_some found) mem key
        rw [same]
  · intro found
    obtain ⟨entry, found, rfl⟩ := found
    have key : entry.1 = k := by simpa using List.find?_some found
    rw [← key]
    exact List.mem_of_find?_eq_some found

theorem get_set (d : Dict κ α) (k : κ) (a : α) (other : κ) :
    (d.set k a).get other = if other = k then some a else d.get other := by
  have entries : ∀ b, (other, b) ∈ (d.set k a).entries ↔
      if other = k then b = a else (other, b) ∈ d.entries := by
    intro b
    unfold set
    split
    · next known =>
        dsimp only
        rw [List.mem_map]
        constructor
        · intro mem
          obtain ⟨entry, mem, same⟩ := mem
          unfold replaceAt at same
          split at same
          · cases same
            rw [if_pos rfl]
          · next ne =>
              subst same
              rwa [if_neg ne]
        · intro mem
          split at mem
          · next same =>
              subst same mem
              obtain ⟨entry, memEntry, key⟩ := List.mem_map.mp known
              exact ⟨entry, memEntry, if_pos key⟩
          · next ne => exact ⟨_, mem, if_neg ne⟩
    · next unknown =>
        dsimp only
        rw [List.mem_append, List.mem_singleton, Prod.mk.injEq]
        split
        · next same =>
            subst same
            have missing : (other, b) ∉ d.entries := fun mem =>
              unknown (List.mem_map.mpr ⟨_, mem, rfl⟩)
            simp [missing]
        · next ne => simp [ne]
  refine Option.ext fun b => ?_
  rw [← mem_entries, entries]
  split
  · rw [Option.some.injEq]
    exact eq_comm
  · exact mem_entries

theorem get_empty (k : κ) : (empty : Dict κ α).get k = none := rfl

/-- A new key is appended. -/
theorem entries_set_of_notMem {d : Dict κ α} {k : κ} (unknown : k ∉ d.keys) (a : α) :
    (d.set k a).entries = d.entries ++ [(k, a)] := by
  unfold set
  rw [dif_neg unknown]

/-- Looking a key up in bare entries after an assignment, which no repeated key disturbs. -/
theorem lookup_setEntry {β : Type*} (entries : List (κ × β)) (k : κ) (b : β) (other : κ) :
    (if k ∈ entries.map (·.1) then entries.map (replaceAt k b) else entries ++ [(k, b)]).lookup
        other =
      if other = k then some b else entries.lookup other := by
  by_cases same : other = k
  · subst same
    rw [if_pos rfl]
    split
    · next known =>
        induction entries with
        | nil => cases known
        | cons entry entries ih =>
            rw [List.map_cons, List.lookup_cons, replaceAt_fst]
            by_cases here : entry.1 = other
            · rw [here, beq_self_eq_true]
              exact congrArg (fun e : κ × β => some e.2) (if_pos here)
            · rw [beq_eq_false_iff_ne.mpr (Ne.symm here)]
              exact ih ((List.mem_cons.mp known).resolve_left (Ne.symm here))
    · next unknown =>
        have missing : entries.lookup other = none := by
          rw [List.lookup_eq_none_iff]
          intro entry mem
          rw [bne_iff_ne]
          exact fun eq => unknown (List.mem_map.mpr ⟨entry, mem, eq.symm⟩)
        rw [List.lookup_append, missing, Option.none_or, List.lookup_cons_self]
  · rw [if_neg same]
    split
    · next known =>
        clear known
        induction entries with
        | nil => rfl
        | cons entry entries ih =>
            rw [List.map_cons, List.lookup_cons, List.lookup_cons, replaceAt_fst]
            cases first : other == entry.1 with
            | true =>
                have ne : entry.1 ≠ k := fun eq => same ((beq_iff_eq.mp first).trans eq)
                exact congrArg (fun e : κ × β => some e.2) (if_neg ne)
            | false => exact ih
    · rw [List.lookup_append, List.lookup_cons, beq_eq_false_iff_ne.mpr same, List.lookup_nil,
        Option.or_none]

/-! ## Dictionaries of lists -/

/-- Append to the list of a key, which is empty at first. -/
def push (d : Dict κ (List α)) (k : κ) (a : α) : Dict κ (List α) :=
  d.set k ((d.get k).getD [] ++ [a])

/-- The elements of all lists. -/
def flatten (d : Dict κ (List α)) : List α :=
  d.entries.flatMap Prod.snd

theorem get_eq_none {d : Dict κ α} {k : κ} : d.get k = none ↔ k ∉ d.keys := by
  unfold get keys
  rw [Option.map_eq_none_iff, List.find?_eq_none, List.mem_map]
  constructor
  · rintro none ⟨entry, mem, same⟩
    exact none entry mem (decide_eq_true same)
  · intro none entry mem same
    exact none ⟨entry, mem, of_decide_eq_true same⟩

/-- The other entries stay when a value is replaced. -/
theorem map_replaceAt_of_notMem {k : κ} {entries : List (κ × α)}
    (other : k ∉ entries.map Prod.fst) (a : α) : entries.map (replaceAt k a) = entries := by
  refine (List.map_congr_left fun entry mem => ?_).trans (List.map_id _)
  exact if_neg fun same => other (List.mem_map.mpr ⟨entry, mem, same⟩)

/-- An entry that is replaced keeps its place. -/
theorem entries_set_of_get {d : Dict κ α} {k : κ} {a : α} (found : d.get k = some a) (b : α) :
    ∃ before after, d.entries = before ++ (k, a) :: after ∧
      (d.set k b).entries = before ++ (k, b) :: after := by
  have mem : (k, a) ∈ d.entries := mem_entries.mpr found
  have known : k ∈ d.keys := List.mem_map_of_mem mem
  obtain ⟨before, after, split⟩ := List.append_of_mem mem
  have distinct := d.nodup
  rw [split, List.map_append, List.map_cons, List.nodup_middle, List.nodup_cons, List.mem_append,
    not_or] at distinct
  refine ⟨before, after, split, ?_⟩
  unfold set
  rw [dif_pos known]
  dsimp only
  rw [split, List.map_append, List.map_cons, map_replaceAt_of_notMem distinct.1.1,
    map_replaceAt_of_notMem distinct.1.2, replaceAt, if_pos rfl]

/-- One element more, whatever its key. -/
theorem flatten_push (d : Dict κ (List α)) (k : κ) (a : α) :
    (d.push k a).flatten.Perm (d.flatten ++ [a]) := by
  unfold push flatten
  cases found : d.get k with
  | none =>
      rw [entries_set_of_notMem (get_eq_none.mp found)]
      simp
  | some as =>
      obtain ⟨before, after, split, replaced⟩ := entries_set_of_get found (as ++ [a])
      rw [Option.getD_some, replaced, split]
      simp only [List.flatMap_append, List.flatMap_cons, List.append_assoc]
      exact (List.perm_append_comm.append_left _).append_left _

/-- What holds of a key and the elements of its list holds with one more that it holds of. -/
theorem push_forall {P : κ → α → Prop} {d : Dict κ (List α)} {k : κ} {a : α}
    (old : ∀ entry ∈ d.entries, ∀ b ∈ entry.2, P entry.1 b) (new : P k a) :
    ∀ entry ∈ (d.push k a).entries, ∀ b ∈ entry.2, P entry.1 b := by
  rintro ⟨other, bs⟩ mem b memB
  have found := mem_entries.mp mem
  rw [push, get_set] at found
  split at found
  · next same =>
      cases found
      rw [same]
      rcases List.mem_append.mp memB with earlier | last
      · cases kept : d.get k with
        | none =>
            rw [kept] at earlier
            cases earlier
        | some cs =>
            rw [kept] at earlier
            exact old (k, cs) (mem_entries.mpr kept) b earlier
      · rw [List.mem_singleton.mp last]
        exact new
  · exact old (other, bs) (mem_entries.mpr found) b memB

/-! ## Dictionaries of counts -/

/-- One more of a key, which is not there at first. -/
def increment (d : Dict κ ℤ) (k : κ) : Dict κ ℤ :=
  d.set k ((d.get k).getD 0 + 1)

/-- A key is there when it was or is counted, with as many as it is counted times. -/
theorem get_foldl_increment (ks : List κ) (d : Dict κ ℤ) (k : κ) :
    (ks.foldl increment d).get k =
      if k ∈ ks then some ((d.get k).getD 0 + ks.countP fun other => other = k) else d.get k := by
  induction ks generalizing d with
  | nil => rw [List.foldl_nil, if_neg List.not_mem_nil]
  | cons other ks ih =>
      rw [List.foldl_cons, ih, increment, get_set]
      by_cases same : k = other
      · subst same
        rw [if_pos rfl, if_pos List.mem_cons_self, List.countP_cons_of_pos (by simp),
          Option.getD_some]
        split
        · push_cast
          rw [add_assoc, add_comm (1 : ℤ)]
        · next none =>
            have zero : (ks.countP fun other => other = k) = 0 :=
              List.countP_eq_zero.mpr fun other mem same => none (of_decide_eq_true same ▸ mem)
            rw [zero]
            rfl
      · rw [if_neg same, List.countP_cons_of_neg (by simpa using Ne.symm same)]
        simp [same]

/-- Keys not counted yet stand at zero. -/
theorem getD_foldl_increment (ks : List κ) (d : Dict κ ℤ) (k : κ) :
    ((ks.foldl increment d).get k).getD 0 = (d.get k).getD 0 + ks.count k := by
  have same : (ks.countP fun other => other = k) = ks.count k := by
    rw [List.count_eq_countP]
    exact List.countP_congr fun other _ => by simp
  rw [get_foldl_increment, same]
  split
  · rfl
  · next absent => rw [List.count_eq_zero.mpr absent, Nat.cast_zero, add_zero]

/-! ## Dictionaries with a default -/

/-- Change the value of a key, which starts from a default. -/
def modify (d : Dict κ α) (k : κ) (default : α) (f : α → α) : Dict κ α :=
  d.set k (f ((d.get k).getD default))

/-- A figure of the values, added up. -/
def total {M : Type*} [AddCommMonoid M] (d : Dict κ α) (figure : α → M) : M :=
  (d.entries.map fun entry => figure entry.2).sum

/-- A change that adds to the figure of any value adds as much to the total. -/
theorem total_modify {M : Type*} [AddCommMonoid M] {figure : α → M} {default : α} {f : α → α}
    {x : M} (start : figure default = 0) (adds : ∀ a, figure (f a) = figure a + x)
    (d : Dict κ α) (k : κ) : (d.modify k default f).total figure = d.total figure + x := by
  unfold modify total
  cases found : d.get k with
  | none =>
      rw [entries_set_of_notMem (get_eq_none.mp found)]
      simp [adds, start]
  | some a =>
      obtain ⟨before, after, split, replaced⟩ := entries_set_of_get found (f a)
      rw [Option.getD_some, replaced, split]
      simp only [List.map_append, List.map_cons, List.sum_append, List.sum_cons, adds]
      abel

omit [DecidableEq κ] in
/-- So with one change after another. -/
theorem total_foldl {β M : Type*} [AddCommMonoid M] {figure : α → M}
    {step : Dict κ α → β → Dict κ α} {x : β → M}
    (adds : ∀ d b, (step d b).total figure = d.total figure + x b) (bs : List β) (d : Dict κ α) :
    (bs.foldl step d).total figure = d.total figure + (bs.map x).sum := by
  induction bs generalizing d with
  | nil => simp
  | cons b bs ih => rw [List.foldl_cons, ih, adds, List.map_cons, List.sum_cons, add_assoc]

/-! ## Updates -/

/-- `dict.update`: the entries assigned one after another. -/
def update (d : Dict κ α) (entries : List (κ × α)) : Dict κ α :=
  entries.foldl (fun acc entry => acc.set entry.1 entry.2) d

/-- The last assignment to a key wins, and a key that has none keeps its value. -/
theorem get_update (entries : List (κ × α)) (d : Dict κ α) (k : κ) :
    (d.update entries).get k = (entries.reverse.lookup k).or (d.get k) := by
  induction entries generalizing d with
  | nil => rfl
  | cons entry entries ih =>
      have first : d.update (entry :: entries) = (d.set entry.1 entry.2).update entries := rfl
      rw [first, ih, get_set, List.reverse_cons, List.lookup_append, Option.or_assoc]
      by_cases same : k = entry.1
      · subst same
        rw [if_pos rfl, List.lookup_cons_self]
        rfl
      · have other : (k == entry.1) = false := beq_false_of_ne same
        rw [if_neg same, List.lookup_cons, other]
        rfl

end Dict

end DealFlow.Lib
