import Mathlib.Data.List.Infix
import Mathlib.Logic.Relation

/-!
# Forests by parent links

A node has at most one parent.  `Climb` lists the nodes from one up to its root.

* `Climb.mem_iff`: the listed nodes are the node and its ancestors.
* `Climb.belowRoot_eq_iff`: two lists agree next to their ends when some node that is no root is in
  both.
-/

namespace DealFlow.Lib

variable {α : Type*}

section Forest

variable (parent : α → Option α)

/-- `a` is `c` or an ancestor of it. -/
def Above (c a : α) : Prop :=
  Relation.ReflTransGen (fun c p => parent c = some p) c a

/-- The nodes from `c` up to its root. -/
inductive Climb : α → List α → Prop
  | root {c : α} : parent c = none → Climb c [c]
  | step {c p : α} {path : List α} : parent c = some p → Climb p path → Climb c (c :: path)

end Forest

variable {parent : α → Option α} {a b c : α} {path path' : List α}

theorem Climb.unique (climb : Climb parent c path) (climb' : Climb parent c path') :
    path = path' := by
  induction climb generalizing path' with
  | root none =>
      cases climb' with
      | root => rfl
      | step some =>
          rw [none] at some
          cases some
  | step some above ih =>
      cases climb' with
      | root none =>
          rw [some] at none
          cases none
      | step some' above' =>
          rw [some] at some'
          cases some'
          rw [ih above']

theorem Climb.mem_self (climb : Climb parent c path) : c ∈ path := by
  cases climb with
  | root => exact List.mem_cons_self
  | step => exact List.mem_cons_self

/-- The list of an ancestor ends the list. -/
theorem Climb.suffix (climb : Climb parent c path) (above : Above parent c a) :
    ∃ rest, Climb parent a rest ∧ rest <:+ path := by
  induction above using Relation.ReflTransGen.head_induction_on generalizing path with
  | refl => exact ⟨path, climb, List.suffix_refl path⟩
  | head link _ ih =>
      cases climb with
      | root none =>
          rw [link] at none
          cases none
      | step some climb =>
          rw [link] at some
          cases some
          obtain ⟨rest, climb, suffix⟩ := ih climb
          exact ⟨rest, climb, suffix.trans (List.suffix_cons _ _)⟩

theorem Climb.mem_iff (climb : Climb parent c path) : a ∈ path ↔ Above parent c a := by
  constructor
  · intro mem
    induction climb with
    | root =>
        rw [List.mem_singleton.mp mem]
        exact .refl
    | step link _ ih =>
        rcases List.mem_cons.mp mem with rfl | mem
        · exact .refl
        · exact .head link (ih mem)
  · intro above
    obtain ⟨rest, climb', suffix⟩ := climb.suffix above
    exact suffix.subset climb'.mem_self

theorem Climb.one_lt_length_iff (climb : Climb parent c path) :
    1 < path.length ↔ (parent c).isSome = true := by
  cases climb with
  | root none => simp [none]
  | step some above =>
      have pos := List.length_pos_of_mem above.mem_self
      simp only [List.length_cons, some, Option.isSome_some, iff_true]
      omega

/-- The element next to the end is the one of an ending. -/
theorem belowEnd_of_suffix {rest : List α} (suffix : rest <:+ path) (two : 1 < rest.length) :
    path[path.length - 2]? = rest[rest.length - 2]? := by
  obtain ⟨front, rfl⟩ := suffix
  rw [List.length_append, List.getElem?_append_right (by omega)]
  congr 1
  omega

/-- Next to the end stands a node that is no root. -/
theorem Climb.belowRoot (climb : Climb parent c path) (two : 1 < path.length) :
    ∃ d ∈ path, path[path.length - 2]? = some d ∧ (parent d).isSome = true := by
  induction climb with
  | root => simp at two
  | @step c p path link above ih =>
      by_cases more : 1 < path.length
      · obtain ⟨d, mem, found, up⟩ := ih more
        exact ⟨d, List.mem_cons_of_mem _ mem,
          (belowEnd_of_suffix (List.suffix_cons c path) more).trans found, up⟩
      · have pos := List.length_pos_of_mem above.mem_self
        have one : path.length = 1 := by omega
        refine ⟨c, List.mem_cons_self, ?_, by rw [link]; rfl⟩
        rw [List.length_cons, one]
        rfl

/-- A node of the list that is no root settles what stands next to the end. -/
theorem Climb.belowRoot_of_mem {d : α} {rest : List α} (climb : Climb parent c path)
    (mem : d ∈ path) (climbD : Climb parent d rest) (up : (parent d).isSome = true) :
    1 < path.length ∧ path[path.length - 2]? = rest[rest.length - 2]? := by
  obtain ⟨rest', climbD', suffix⟩ := climb.suffix (climb.mem_iff.mp mem)
  rw [climbD'.unique climbD] at suffix
  have two := climbD.one_lt_length_iff.mpr up
  exact ⟨lt_of_lt_of_le two suffix.length_le, belowEnd_of_suffix suffix two⟩

/-- Two lists agree next to their ends when some node that is no root is in both. -/
theorem Climb.belowRoot_eq_iff (climb : Climb parent a path) (climb' : Climb parent b path') :
    (1 < path.length ∧ 1 < path'.length ∧
      path[path.length - 2]? = path'[path'.length - 2]?) ↔
    ∃ d, Above parent a d ∧ Above parent b d ∧ (parent d).isSome = true := by
  constructor
  · rintro ⟨two, two', same⟩
    obtain ⟨d, mem, found, up⟩ := climb.belowRoot two
    obtain ⟨d', mem', found', -⟩ := climb'.belowRoot two'
    rw [found, found', Option.some.injEq] at same
    exact ⟨d, climb.mem_iff.mp mem, climb'.mem_iff.mp (same ▸ mem'), up⟩
  · rintro ⟨d, above, above', up⟩
    obtain ⟨rest, climbD, -⟩ := climb.suffix above
    obtain ⟨two, same⟩ := climb.belowRoot_of_mem (climb.mem_iff.mpr above) climbD up
    obtain ⟨two', same'⟩ := climb'.belowRoot_of_mem (climb'.mem_iff.mpr above') climbD up
    exact ⟨two, two', same.trans same'.symm⟩

end DealFlow.Lib
