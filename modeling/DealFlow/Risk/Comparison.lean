import DealFlow.Risk.Factors

/-!
# Comparing two calculations

What the discount factor and the margin factor do when every line's overage rises and the margin
falls.  `OverageRises` is the comparison of two entries of the calculation; the lines of the two
deals correspond one to one, so the lists are compared with `List.Forall₂`.

* `discountExcessContrib_rises`: the points of the discount factor rise.
* `points_marginFactors`, `marginPoints_mono`: the margin factor depends on the gap alone, and rises
  with it.
-/

namespace DealFlow

open Lib

/-- The second entry has at least the overage of the first, under the same weight. -/
structure OverageRises (o o' : LineOverage) : Prop where
  overage : o.overage ≤ o'.overage
  weight : o'.weight = o.weight
  nonneg : 0 ≤ o.weight

theorem lineOverage_weight_nonneg {ctx : DealContext} {lineCeilings : ℤ → Option ℚ}
    {l : DealLineContext} (amount : 0 ≤ l.qty * l.priceUnit) :
    0 ≤ (lineOverage ctx lineCeilings l).weight := by
  simp only [lineOverage]
  split
  · next pos => exact rounds_decimal28.nonneg (div_nonneg amount pos.le)
  · exact le_rfl

/-- The excess before it is capped rises with each of its terms. -/
theorem rawDiscExcess_mono (weights : RiskWeights) {largest largest' weighted weighted' ratio
    ratio' : ℚ} (largestLe : largest ≤ largest') (weightedLe : weighted ≤ weighted')
    (ratioLe : ratio ≤ ratio') :
    rawDiscExcess weights largest weighted ratio ≤
      rawDiscExcess weights largest' weighted' ratio' := by
  have first := mul_le_mul_of_nonneg_left largestLe weights.wDiscountMax.2
  have second := mul_le_mul_of_nonneg_left weightedLe weights.wDiscountWeighted.2
  have third := mul_le_mul_of_nonneg_left ratioLe weights.wDiscountRatio.2
  have mono := rounds_decimal28.mono
  exact mono (add_le_add (mono (add_le_add (mono first) (mono second))) (mono third))

theorem rawDiscExcess_nonneg (weights : RiskWeights) {largest weighted ratio : ℚ}
    (largestNonneg : 0 ≤ largest) (weightedNonneg : 0 ≤ weighted) (ratioNonneg : 0 ≤ ratio) :
    0 ≤ rawDiscExcess weights largest weighted ratio := by
  have zero : rawDiscExcess weights 0 0 0 = 0 := by
    simp [rawDiscExcess, rounds_decimal28.zero]
  exact zero ▸ rawDiscExcess_mono weights largestNonneg weightedNonneg ratioNonneg

section Rises

variable {os os' : List LineOverage} (rises : List.Forall₂ OverageRises os os')

include rises

theorem maxOverage_rises : maxOverage os ≤ maxOverage os' := by
  rcases (maxOverage_spec os).2 with ⟨rfl, zero⟩ | ⟨o, mem, eq⟩
  · cases rises
    exact le_rfl
  · obtain ⟨i, inside, rfl⟩ := List.mem_iff_getElem.mp mem
    have inside' : i < os'.length := rises.length_eq ▸ inside
    have bound := (maxOverage_spec os').1 _ (List.getElem_mem inside')
    calc maxOverage os
        = os[i].overage := eq
      _ ≤ os'[i].overage := (rises.get inside inside').overage
      _ ≤ maxOverage os' := bound

theorem weightedOverage_rises : weightedOverage os ≤ weightedOverage os' := by
  refine runningSum_mono rounds_decimal28 ?_
  rw [List.forall₂_map_left_iff, List.forall₂_map_right_iff]
  refine rises.imp fun o o' rise => rounds_decimal28.mono ?_
  rw [rise.weight]
  exact mul_le_mul_of_nonneg_right rise.overage rise.nonneg

theorem violatingLines_rises : (violatingLines os).length ≤ (violatingLines os').length := by
  unfold violatingLines
  induction rises with
  | nil => exact le_rfl
  | @cons o o' os os' head _ ih =>
      by_cases violates : 0 < o.overage
      · have violates' : 0 < o'.overage := violates.trans_le head.overage
        simp only [List.filter_cons, violates, violates', decide_true, if_true, List.length_cons]
        omega
      · simp only [List.filter_cons, violates, decide_false, Bool.false_eq_true, if_false]
        split
        · exact ih.trans (Nat.le_succ _)
        · exact ih

theorem violationRatio_rises : violationRatio os ≤ violationRatio os' := by
  have count := violatingLines_rises rises
  unfold violationRatio
  rw [rises.length_eq]
  split
  · exact rounds_decimal28.mono
      (div_le_div_of_nonneg_right (Nat.cast_le.mpr count) (Nat.cast_nonneg _))
  · exact le_rfl

theorem discountExcessContrib_rises (weights : RiskWeights) :
    discountExcessContrib weights os ≤ discountExcessContrib weights os' :=
  quantizeDec_mono 2 (min_le_min_left _ (rawDiscExcess_mono weights (maxOverage_rises rises)
    (weightedOverage_rises rises) (violationRatio_rises rises)))

end Rises

/-! ## The margin gap -/

/-- The points for a margin that misses its floor by `gap`. -/
def marginPoints (weights : RiskWeights) (gap : ℚ) : ℚ :=
  if 0 < gap then min weights.marginCap (quantizeDec (weights.wMargin * gap)) else 0

theorem points_marginFactors (weights : RiskWeights) (policy : RiskPolicy) (marginPct : ℚ) :
    points (marginFactors weights policy marginPct) =
      marginPoints weights (policy.minimumMarginPct - marginPct) := by
  unfold marginFactors marginPoints
  by_cases below : marginPct < policy.minimumMarginPct
  · rw [if_pos below, if_pos (sub_pos.mpr below), points_singleton]
  · rw [if_neg below, if_neg (mt sub_pos.mp below), points_nil]

theorem marginPoints_nonneg (weights : RiskWeights) (gap : ℚ) : 0 ≤ marginPoints weights gap := by
  unfold marginPoints
  split
  · next pos =>
      have scaled : 0 ≤ (weights.wMargin : ℚ) * gap := mul_nonneg weights.wMargin.2 pos.le
      exact le_min weights.marginCap.2 (quantizeDec_nonneg scaled)
  · exact le_rfl

theorem marginPoints_mono (weights : RiskWeights) : Monotone (marginPoints weights) := by
  intro gap gap' le
  by_cases pos : 0 < gap
  · have scaled := mul_le_mul_of_nonneg_left le weights.wMargin.2
    unfold marginPoints
    rw [if_pos pos, if_pos (pos.trans_le le)]
    exact min_le_min_left _ (quantizeDec_mono 2 scaled)
  · calc marginPoints weights gap
        = 0 := if_neg pos
      _ ≤ marginPoints weights gap' := marginPoints_nonneg weights gap'

end DealFlow
