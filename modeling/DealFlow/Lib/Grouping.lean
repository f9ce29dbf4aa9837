import DealFlow.Lib.Dict
import Mathlib.Algebra.BigOperators.Group.List.Basic
import Mathlib.Data.List.Induction

/-!
# Rows grouped by a key

`groupBy key rows` collects the rows of each key in a dictionary, in the order in which the keys
come up.

* `getD_groupBy`: the group of a key are the rows of that key, in their order.
* `sum_groupBy`: a figure added up group by group is the figure of all rows.
* `sum_fibers`: so it is along any list that has the keys of all rows, each once.
-/

namespace DealFlow.Lib

variable {β κ M : Type*} [DecidableEq κ] (key : β → κ)

def groupBy (key : β → κ) (rows : List β) : Dict κ (List β) :=
  rows.foldl (fun groups b => groups.push (key b) b) .empty

theorem groupBy_append_singleton (rows : List β) (b : β) :
    groupBy key (rows ++ [b]) = (groupBy key rows).push (key b) b := by
  rw [groupBy, List.foldl_append]
  rfl

theorem getD_groupBy (rows : List β) (k : κ) :
    ((groupBy key rows).get k).getD [] = rows.filter fun b => key b = k := by
  induction rows using List.reverseRecOn with
  | nil => rfl
  | append_singleton rows b ih =>
      rw [groupBy_append_singleton, Dict.push, Dict.get_set, List.filter_append]
      by_cases same : k = key b
      · subst same
        rw [if_pos rfl, Option.getD_some, ih, List.filter_cons_of_pos (by simp), List.filter_nil]
      · rw [if_neg same, ih, List.filter_cons_of_neg (by simpa using Ne.symm same), List.filter_nil,
          List.append_nil]

theorem flatten_groupBy (rows : List β) : (groupBy key rows).flatten.Perm rows := by
  induction rows using List.reverseRecOn with
  | nil => rfl
  | append_singleton rows b ih =>
      rw [groupBy_append_singleton]
      exact (Dict.flatten_push _ _ _).trans (ih.append_right [b])

variable [AddCommMonoid M]

theorem sum_groupBy (figure : β → M) (rows : List β) :
    ((groupBy key rows).entries.map fun entry => (entry.2.map figure).sum).sum =
      (rows.map figure).sum := by
  have flat : ((groupBy key rows).flatten.map figure).sum =
      ((groupBy key rows).entries.map fun entry => (entry.2.map figure).sum).sum := by
    rw [Dict.flatten, List.flatMap_def, List.map_flatten, List.sum_flatten, List.map_map,
      List.map_map]
    rfl
  rw [← flat]
  exact ((flatten_groupBy key rows).map figure).sum_eq

/-- Of different keys one is a given one. -/
theorem sum_ite_of_nodup {keys : List κ} (distinct : keys.Nodup) {k : κ} (mem : k ∈ keys) (x : M) :
    (keys.map fun other => if k = other then x else 0).sum = x := by
  obtain ⟨before, after, rfl⟩ := List.append_of_mem mem
  rw [List.nodup_middle, List.nodup_cons, List.mem_append, not_or] at distinct
  have zero : ∀ {ks : List κ}, k ∉ ks →
      (ks.map fun other => if k = other then x else 0).sum = 0 := by
    intro ks absent
    refine List.sum_eq_zero fun y memY => ?_
    obtain ⟨other, memOther, rfl⟩ := List.mem_map.mp memY
    exact if_neg fun same : k = other => absent (same ▸ memOther)
  rw [List.map_append, List.map_cons, List.sum_append, List.sum_cons, zero distinct.1.1,
    zero distinct.1.2, if_pos rfl, zero_add, add_zero]

theorem sum_fibers {keys : List κ} (distinct : keys.Nodup) (figure : β → M) {rows : List β}
    (known : ∀ b ∈ rows, key b ∈ keys) :
    (keys.map fun k => ((rows.filter fun b => key b = k).map figure).sum).sum =
      (rows.map figure).sum := by
  induction rows with
  | nil =>
      refine List.sum_eq_zero fun x mem => ?_
      obtain ⟨k, -, rfl⟩ := List.mem_map.mp mem
      rfl
  | cons b rows ih =>
      have split : ∀ k, (((b :: rows).filter fun other => key other = k).map figure).sum =
          (if key b = k then figure b else 0) +
            ((rows.filter fun other => key other = k).map figure).sum := by
        intro k
        by_cases same : key b = k
        · rw [List.filter_cons_of_pos (by simpa using same), if_pos same, List.map_cons,
            List.sum_cons]
        · rw [List.filter_cons_of_neg (by simpa using same), if_neg same, zero_add]
      have once : (keys.map fun k => if key b = k then figure b else 0).sum = figure b :=
        sum_ite_of_nodup distinct (known b List.mem_cons_self) (figure b)
      rw [List.map_congr_left fun k _ => split k, List.sum_map_add, once,
        ih fun other mem => known other (List.mem_cons_of_mem _ mem), List.map_cons, List.sum_cons]

end DealFlow.Lib
