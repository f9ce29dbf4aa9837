import Mathlib.Algebra.Order.BigOperators.Group.List
import Mathlib.Algebra.Order.Ring.Defs
import Mathlib.Tactic.Ring
import Mathlib.Tactic.Linarith

/-!
# Filling a demand from a row of stores

A row of stores with capacities `cs` serves a demand `d` in order: every store gives as much as it
has and is still needed.  `fill cs d` is what each store gives, `drain cs d` what each store keeps,
`unmet cs d` what the row could not serve.

* `sum_fill_add_unmet`: what the row gives and what stays unmet is the demand, and `unmet_eq` leaves
  exactly its excess over the whole capacity unmet.
* `zip_fill_le` and `zip_fill_exhausts`: no store gives more than it has, and one that gives
  anything comes after stores that gave all they had.
* `drain_drain` and `unmet_add_unmet_drain`: serving two demands one after the other leaves, and
  leaves unmet, what serving their sum does, so a run of demands depends on its total only.
-/

namespace DealFlow.Lib

variable {K : Type*} [CommRing K] [LinearOrder K]

/-- What each store of the row gives to the demand. -/
def fill : List K → K → List K
  | [], _ => []
  | c :: cs, d => min c d :: fill cs (d - min c d)

/-- What each store of the row keeps after serving the demand. -/
def drain : List K → K → List K
  | [], _ => []
  | c :: cs, d => (c - min c d) :: drain cs (d - min c d)

/-- The part of the demand the row does not serve. -/
def unmet : List K → K → K
  | [], d => d
  | c :: cs, d => unmet cs (d - min c d)

@[simp] theorem fill_nil (d : K) : fill ([] : List K) d = [] := rfl

@[simp] theorem drain_nil (d : K) : drain ([] : List K) d = [] := rfl

@[simp] theorem unmet_nil (d : K) : unmet ([] : List K) d = d := rfl

@[simp] theorem fill_cons (c : K) (cs : List K) (d : K) :
    fill (c :: cs) d = min c d :: fill cs (d - min c d) := rfl

@[simp] theorem drain_cons (c : K) (cs : List K) (d : K) :
    drain (c :: cs) d = (c - min c d) :: drain cs (d - min c d) := rfl

@[simp] theorem unmet_cons (c : K) (cs : List K) (d : K) :
    unmet (c :: cs) d = unmet cs (d - min c d) := rfl

/-- Nothing is lost or made up: what the row gives and what stays unmet is the demand. -/
theorem sum_fill_add_unmet (cs : List K) (d : K) : (fill cs d).sum + unmet cs d = d := by
  induction cs generalizing d with
  | nil => simp
  | cons c cs ih =>
      have rest := ih (d - min c d)
      rw [fill_cons, unmet_cons, List.sum_cons, add_assoc, rest]
      ring

/-- What a store keeps is what it had less what it gave. -/
theorem sum_drain (cs : List K) (d : K) : (drain cs d).sum = cs.sum - (fill cs d).sum := by
  induction cs generalizing d with
  | nil => simp
  | cons c cs ih =>
      rw [drain_cons, fill_cons, List.sum_cons, List.sum_cons, List.sum_cons, ih]
      ring

/-- A demand that is already served leaves the row as it is. -/
theorem drain_zero {cs : List K} (capacities : ∀ c ∈ cs, 0 ≤ c) : drain cs 0 = cs := by
  induction cs with
  | nil => rfl
  | cons c cs ih =>
      have head : min c 0 = 0 := min_eq_right (capacities c List.mem_cons_self)
      rw [drain_cons, head, sub_zero, sub_zero,
        ih fun x mem => capacities x (List.mem_cons_of_mem _ mem)]

@[simp] theorem length_fill (cs : List K) (d : K) : (fill cs d).length = cs.length := by
  induction cs generalizing d with
  | nil => rfl
  | cons c cs ih => rw [fill_cons, List.length_cons, ih, List.length_cons]

/-- Nothing is given to no demand. -/
theorem fill_zero {cs : List K} (capacities : ∀ c ∈ cs, 0 ≤ c) : ∀ g ∈ fill cs 0, g = 0 := by
  induction cs with
  | nil => simp
  | cons c cs ih =>
      obtain ⟨first, rest⟩ := List.forall_mem_cons.mp capacities
      have none : min c 0 = 0 := min_eq_right first
      rw [fill_cons, none, sub_zero, List.forall_mem_cons]
      exact ⟨rfl, ih rest⟩

theorem zip_fill_le (cs : List K) (d : K) : ∀ t ∈ cs.zip (fill cs d), t.2 ≤ t.1 := by
  induction cs generalizing d with
  | nil => simp
  | cons c cs ih =>
      rw [fill_cons, List.zip_cons_cons, List.forall_mem_cons]
      exact ⟨min_le_left c d, ih _⟩

/-- A store gives something only when each one before it gave all it had. -/
theorem zip_fill_exhausts {cs : List K} (capacities : ∀ c ∈ cs, 0 ≤ c) (d : K) :
    (cs.zip (fill cs d)).Pairwise fun earlier later => 0 < later.2 → earlier.2 = earlier.1 := by
  induction cs generalizing d with
  | nil => exact .nil
  | cons c cs ih =>
      obtain ⟨-, rest⟩ := List.forall_mem_cons.mp capacities
      rw [fill_cons, List.zip_cons_cons]
      refine .cons (fun later mem gives => ?_) (ih rest _)
      rcases le_total c d with all | part
      · exact min_eq_left all
      · -- the first store serves the demand, and nothing is left to give
        rw [min_eq_right part, sub_self] at mem
        have none := fill_zero rest later.2 (List.of_mem_zip mem).2
        exact absurd none gives.ne'

variable [IsStrictOrderedRing K]

theorem fill_nonneg {cs : List K} (capacities : ∀ c ∈ cs, 0 ≤ c) {d : K} (demand : 0 ≤ d) :
    ∀ g ∈ fill cs d, 0 ≤ g := by
  induction cs generalizing d with
  | nil => simp
  | cons c cs ih =>
      obtain ⟨first, rest⟩ := List.forall_mem_cons.mp capacities
      rw [fill_cons, List.forall_mem_cons]
      exact ⟨le_min first demand, ih rest (sub_nonneg.mpr (min_le_right c d))⟩

theorem drain_nonneg (cs : List K) (d : K) : ∀ x ∈ drain cs d, 0 ≤ x := by
  induction cs generalizing d with
  | nil => simp
  | cons c cs ih =>
      rw [drain_cons, List.forall_mem_cons]
      exact ⟨sub_nonneg.mpr (min_le_left c d), ih _⟩

/-- The unmet part is the excess of the demand over the whole capacity. -/
theorem unmet_eq {cs : List K} {d : K} (capacities : ∀ c ∈ cs, 0 ≤ c) (demand : 0 ≤ d) :
    unmet cs d = max 0 (d - cs.sum) := by
  induction cs generalizing d with
  | nil => simp [demand]
  | cons c cs ih =>
      have tail : ∀ x ∈ cs, 0 ≤ x := fun x mem => capacities x (List.mem_cons_of_mem _ mem)
      have total : 0 ≤ cs.sum := List.sum_nonneg tail
      rw [unmet_cons, ih tail (sub_nonneg.mpr (min_le_right c d)), List.sum_cons]
      grind

theorem unmet_nonneg {cs : List K} {d : K} (capacities : ∀ c ∈ cs, 0 ≤ c) (demand : 0 ≤ d) :
    0 ≤ unmet cs d := by
  rw [unmet_eq capacities demand]
  exact le_max_left _ _

/-- Two demands served in turn drain the row as their sum does. -/
theorem drain_drain (cs : List K) {d e : K} (later : 0 ≤ e) :
    drain (drain cs d) e = drain cs (d + e) := by
  induction cs generalizing d e with
  | nil => rfl
  | cons c cs ih =>
      have keep : c - min c d - min (c - min c d) e = c - min c (d + e) := by grind
      have pass : d - min c d + (e - min (c - min c d) e) = d + e - min c (d + e) := by grind
      rw [drain_cons, drain_cons, drain_cons, keep,
        ih (sub_nonneg.mpr (min_le_right _ _)), pass]

/-- The second of two demands is unmet as far as their sum is unmet beyond the first. -/
theorem unmet_add_unmet_drain (cs : List K) {d e : K} (later : 0 ≤ e) :
    unmet cs d + unmet (drain cs d) e = unmet cs (d + e) := by
  induction cs generalizing d e with
  | nil => simp
  | cons c cs ih =>
      have pass : d - min c d + (e - min (c - min c d) e) = d + e - min c (d + e) := by grind
      rw [unmet_cons, drain_cons, unmet_cons, unmet_cons,
        ih (sub_nonneg.mpr (min_le_right _ _)), pass]

end DealFlow.Lib
