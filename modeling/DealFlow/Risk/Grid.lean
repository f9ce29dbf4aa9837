import DealFlow.Risk.Comparison

/-!
# Figures on the grid of two decimals

Amounts and points are multiples of 0.01.  Sums, minima and maxima of such figures are so too, and
rounding them again changes nothing (`OnGrid.quantizeDec`).
-/

namespace DealFlow

open Lib

/-- A multiple of 0.01. -/
def OnGrid (x : ℚ) : Prop := ∃ n : ℤ, x * 10 ^ 2 = n

theorem OnGrid.quantizeDec {x : ℚ} (grid : OnGrid x) : quantizeDec x = x := by
  obtain ⟨n, eq⟩ := grid
  exact quantize_of_grid eq

theorem onGrid_quantizeDec (x : ℚ) : OnGrid (DealFlow.quantizeDec x) :=
  ⟨roundHalfUp (x * 10 ^ 2), by
    simp only [DealFlow.quantizeDec, quantize]
    field_simp⟩

theorem onGrid_natCast (n : ℕ) : OnGrid n :=
  ⟨n * 100, by push_cast; norm_num⟩

theorem OnGrid.add {x y : ℚ} (gridX : OnGrid x) (gridY : OnGrid y) : OnGrid (x + y) := by
  obtain ⟨m, eqX⟩ := gridX
  obtain ⟨n, eqY⟩ := gridY
  exact ⟨m + n, by rw [add_mul, eqX, eqY, Int.cast_add]⟩

theorem OnGrid.min {x y : ℚ} (gridX : OnGrid x) (gridY : OnGrid y) : OnGrid (min x y) := by
  rcases min_choice x y with eq | eq
  · rwa [eq]
  · rwa [eq]

theorem OnGrid.max {x y : ℚ} (gridX : OnGrid x) (gridY : OnGrid y) : OnGrid (max x y) := by
  rcases max_choice x y with eq | eq
  · rwa [eq]
  · rwa [eq]

theorem OnGrid.sub {x y : ℚ} (gridX : OnGrid x) (gridY : OnGrid y) : OnGrid (x - y) := by
  obtain ⟨m, eqX⟩ := gridX
  obtain ⟨n, eqY⟩ := gridY
  exact ⟨m - n, by rw [sub_mul, eqX, eqY, Int.cast_sub]⟩

theorem onGrid_sum {xs : List ℚ} (grid : ∀ x ∈ xs, OnGrid x) : OnGrid xs.sum := by
  induction xs with
  | nil => exact onGrid_natCast 0
  | cons x xs ih =>
      obtain ⟨head, tail⟩ := List.forall_mem_cons.mp grid
      rw [List.sum_cons]
      exact head.add (ih tail)

/-! ## Points of the factors under the default weights -/

theorem onGrid_margin (policy : RiskPolicy) (marginPct : ℚ) :
    OnGrid (points (marginFactors {} policy marginPct)) := by
  rw [points_marginFactors]
  unfold marginPoints
  split
  · exact (onGrid_natCast 25).min (onGrid_quantizeDec _)
  · exact onGrid_natCast 0

theorem onGrid_inventory (lines : List DealLineContext) :
    OnGrid (points (inventoryFactors {} lines)) := by
  have fold : ∀ p, OnGrid p → OnGrid (lines.foldl (inventoryPoints {}) p) := by
    induction lines with
    | nil => exact fun p grid => grid
    | cons l ls ih =>
        intro p grid
        refine ih _ ?_
        unfold inventoryPoints
        split_ifs
        · exact grid.max (onGrid_natCast 20)
        · exact grid.max (onGrid_natCast 8)
        · exact grid
        · exact grid
  have capped := (onGrid_natCast 20).min (fold 0 (onGrid_natCast 0))
  simp only [inventoryFactors]
  split
  · rw [points_singleton]
    exact capped
  · exact onGrid_natCast 0

theorem onGrid_negotiation (counter : Bool) : OnGrid (points (negotiationFactors counter)) := by
  cases counter
  · exact onGrid_natCast 0
  · exact ⟨500, by norm_num [points, negotiationFactors]⟩

end DealFlow
