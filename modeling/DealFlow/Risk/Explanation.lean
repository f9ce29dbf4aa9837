import DealFlow.Risk.Grid
import DealFlow.Risk.Strictness

/-!
# The explanation of a score

The factors of a calculation explain its score: those of the discount excess are one for each line
that exceeds its ceiling (`discountFactors_lines`) and add up to the excess, and under the default
weights the score is the sum of all contributions, at most 100 (`calculateDealRisk_explained`).

Overages are kept to four decimals, so a line above its ceiling by less than half of the last one
counts as within it.
-/

namespace DealFlow

open Lib

section Lines

variable (ctx : DealContext) (lineCeilings : ℤ → Option ℚ)

def AboveCeiling (l : DealLineContext) : Prop :=
  ceilingOf ctx lineCeilings l < effectiveDiscount ctx l

/-- Above the ceiling by half of the last decimal at least that overages are kept to. -/
def ExceedsCeiling (l : DealLineContext) : Prop :=
  ceilingOf ctx lineCeilings l + 1 / 20000 ≤ effectiveDiscount ctx l

instance (l : DealLineContext) : Decidable (AboveCeiling ctx lineCeilings l) :=
  inferInstanceAs (Decidable (_ < _))

instance (l : DealLineContext) : Decidable (ExceedsCeiling ctx lineCeilings l) :=
  inferInstanceAs (Decidable (_ ≤ _))

variable {ctx lineCeilings}

theorem lineOverage_pos_iff {l : DealLineContext} :
    0 < (lineOverage ctx lineCeilings l).overage ↔ ExceedsCeiling ctx lineCeilings l := by
  unfold lineOverage ExceedsCeiling
  dsimp only
  rw [quantizeDec, quantize_pos_iff]
  rcases max_cases 0 (effectiveDiscount ctx l - ceilingOf ctx lineCeilings l) with
    ⟨eq, below⟩ | ⟨eq, above⟩
  · rw [eq]
    constructor <;> intro h <;> linarith
  · rw [eq]
    constructor <;> intro h <;> linarith

/-- Where a ceiling has four decimals at most, a line above it exceeds it. -/
theorem exceedsCeiling_iff {l : DealLineContext} {n : ℤ}
    (decimals : ceilingOf ctx lineCeilings l * 10 ^ 4 = n) :
    ExceedsCeiling ctx lineCeilings l ↔ AboveCeiling ctx lineCeilings l := by
  unfold ExceedsCeiling AboveCeiling
  constructor
  · intro exceeds
    linarith
  · intro above
    have grid : ∃ m : ℤ, effectiveDiscount ctx l * 10 ^ 4 = m := by
      unfold effectiveDiscount quantizeDec quantize
      exact ⟨_, div_mul_cancel₀ _ (by positivity)⟩
    obtain ⟨m, discount⟩ := grid
    have scaled : (n : ℚ) < m := by
      rw [← decimals, ← discount]
      exact mul_lt_mul_of_pos_right above (by norm_num)
    have apart : (n : ℚ) + 1 ≤ m := by exact_mod_cast scaled
    linarith

theorem violatingLines_lineOverages :
    violatingLines (lineOverages ctx lineCeilings) =
      (ctx.lines.filter fun l => ExceedsCeiling ctx lineCeilings l).map
        (lineOverage ctx lineCeilings) := by
  unfold violatingLines lineOverages
  rw [List.filter_map]
  refine congrArg _ (List.filter_congr fun l _ => ?_)
  exact decide_eq_decide.mpr lineOverage_pos_iff

end Lines

section Factors

variable {ctx : DealContext} {lineCeilings : ℤ → Option ℚ}

/-- What a factor of the discount excess says of its line. -/
def RiskFactorDetail.subject (f : RiskFactorDetail) : RiskFactorType × String × ℚ :=
  (f.factorType, f.sourceReference, f.rawValue)

/-- A line with its overage. -/
def overageSubject (ctx : DealContext) (lineCeilings : ℤ → Option ℚ) (l : DealLineContext) :
    RiskFactorType × String × ℚ :=
  (.discountExcess, s!"line:{l.lineId}", (lineOverage ctx lineCeilings l).overage)

/-- One factor for each line that exceeds its ceiling, where there is an excess. -/
theorem discountFactors_lines (weights : RiskWeights) :
    (discountFactors weights (lineOverages ctx lineCeilings)).map (·.subject) =
      if 0 < discountExcessContrib weights (lineOverages ctx lineCeilings) then
        (ctx.lines.filter fun l => ExceedsCeiling ctx lineCeilings l).map
          (overageSubject ctx lineCeilings)
      else [] := by
  split
  · next pos =>
      have violates : violatingLines (lineOverages ctx lineCeilings) ≠ [] := by
        intro none
        rw [discountExcessContrib_of_none weights none] at pos
        exact lt_irrefl 0 pos
      obtain ⟨before, o, after, lines, -, split⟩ := discountFactors_split weights pos violates
      have subjects : (discountFactors weights (lineOverages ctx lineCeilings)).map (·.subject) =
          (violatingLines (lineOverages ctx lineCeilings)).map fun o =>
            (.discountExcess, s!"line:{o.line.lineId}", o.overage) := by
        rw [split, lines]
        simp only [List.map_append, List.map_cons, List.map_map]
        rfl
      rw [subjects, violatingLines_lineOverages, List.map_map]
      rfl
  · next none => rw [discountFactors, if_neg none, List.map_nil]

/-- The factors of the discount excess among all. -/
theorem factors_discountExcess (policy : RiskPolicy) (weights : RiskWeights) (counter : Bool) :
    (calculateDealRisk ctx lineCeilings policy weights counter).factors.filter
        (fun f => f.factorType = .discountExcess) =
      discountFactors weights (lineOverages ctx lineCeilings) := by
  have discount : (discountFactors weights (lineOverages ctx lineCeilings)).filter
      (fun f => f.factorType = .discountExcess) =
        discountFactors weights (lineOverages ctx lineCeilings) := by
    refine List.filter_eq_self.mpr fun f mem => decide_eq_true ?_
    have listed := List.mem_map_of_mem (f := RiskFactorDetail.subject) mem
    rw [discountFactors_lines] at listed
    split at listed
    · obtain ⟨l, -, same⟩ := List.mem_map.mp listed
      exact (congrArg Prod.fst same).symm
    · cases listed
  have margin : (marginFactors weights policy
      (dealMarginPct (lineOverages ctx lineCeilings))).filter
        (fun f => f.factorType = .discountExcess) = [] := by
    unfold marginFactors
    split <;> rfl
  have inventory : (inventoryFactors weights ctx.lines).filter
      (fun f => f.factorType = .discountExcess) = [] := by
    unfold inventoryFactors
    dsimp only
    split <;> rfl
  have negotiation : (negotiationFactors counter).filter
      (fun f => f.factorType = .discountExcess) = [] := by
    cases counter <;> rfl
  unfold calculateDealRisk
  dsimp only
  rw [List.filter_append, List.filter_append, List.filter_append, discount, margin, inventory,
    negotiation, List.append_nil, List.append_nil, List.append_nil]

/-- The excess of lines of no negative amount is not negative. -/
theorem discountExcessContrib_nonneg (weights : RiskWeights)
    (amounts : ∀ l ∈ ctx.lines, 0 ≤ l.qty * l.priceUnit) :
    0 ≤ discountExcessContrib weights (lineOverages ctx lineCeilings) := by
  have weighted : 0 ≤ weightedOverage (lineOverages ctx lineCeilings) := by
    refine runningSum_nonneg rounds_decimal28 fun x mem => ?_
    obtain ⟨o, memO, rfl⟩ := List.mem_map.mp mem
    obtain ⟨l, memL, rfl⟩ := List.mem_map.mp memO
    exact rounds_decimal28.nonneg
      (mul_nonneg (lineOverage_nonneg l) (lineOverage_weight_nonneg (amounts l memL)))
  have ratio : 0 ≤ violationRatio (lineOverages ctx lineCeilings) := by
    unfold violationRatio
    split
    · exact rounds_decimal28.nonneg (by positivity)
    · exact le_rfl
  exact quantizeDec_nonneg (le_min weights.discountCap.2
    (rawDiscExcess_nonneg weights maxOverage_nonneg weighted ratio))

/-- Under the default weights the sum of all contributions needs no rounding. -/
theorem riskScore_eq_points (policy : RiskPolicy) (counter : Bool) :
    (calculateDealRisk ctx lineCeilings policy {} counter).riskScore =
      min 100 (points (calculateDealRisk ctx lineCeilings policy {} counter).factors) := by
  have discount : OnGrid (points (discountFactors {} (lineOverages ctx lineCeilings))) := by
    rw [sum_discountFactors]
    exact OnGrid.max (onGrid_natCast 0) (onGrid_quantizeDec _)
  have grid : OnGrid (points (calculateDealRisk ctx lineCeilings policy {} counter).factors) := by
    unfold calculateDealRisk
    dsimp only
    rw [points_append, points_append, points_append]
    exact ((discount.add (onGrid_margin policy _)).add (onGrid_inventory _)).add
      (onGrid_negotiation counter)
  calc (calculateDealRisk ctx lineCeilings policy {} counter).riskScore
      = min 100 (quantizeDec
          (points (calculateDealRisk ctx lineCeilings policy {} counter).factors)) := rfl
    _ = _ := by rw [grid.quantizeDec]

theorem riskScore_bounds (ctx : DealContext) (lineCeilings : ℤ → Option ℚ) (policy : RiskPolicy)
    (weights : RiskWeights) (counter : Bool) :
    0 ≤ (calculateDealRisk ctx lineCeilings policy weights counter).riskScore ∧
      (calculateDealRisk ctx lineCeilings policy weights counter).riskScore ≤ 100 := by
  rw [calculateDealRisk_score]
  refine ⟨le_min (by norm_num) (quantizeDec_nonneg ?_), min_le_left _ _⟩
  have margin : 0 ≤ points (marginFactors weights policy
      (dealMarginPct (lineOverages ctx lineCeilings))) := by
    rw [points_marginFactors]
    exact marginPoints_nonneg _ _
  have inventory : 0 ≤ points (inventoryFactors weights ctx.lines) := by
    simp only [inventoryFactors]
    split
    · next pos =>
        rw [points_singleton]
        exact pos.le
    · exact le_rfl
  have negotiation : 0 ≤ points (negotiationFactors counter) := by
    cases counter
    · exact le_rfl
    · simp [negotiationFactors]
  have discount := le_max_left 0 (discountExcessContrib weights (lineOverages ctx lineCeilings))
  linarith

end Factors

/-- The contributions of the discount excess add up to it; its factors are one for each line that
exceeds its ceiling where there is an excess, which is each line above its ceiling where ceilings
have four decimals at most; and the score is the sum of all contributions, capped at 100. -/
theorem calculateDealRisk_explained (ctx : DealContext) (lineCeilings : ℤ → Option ℚ)
    (policy : RiskPolicy) (counter : Bool)
    (nonneg : ∀ l ∈ ctx.lines, 0 ≤ l.qty ∧ 0 ≤ l.priceUnit) :
    let res := calculateDealRisk ctx lineCeilings policy {} counter
    let excess := discountExcessContrib {} (lineOverages ctx lineCeilings)
    let explained := res.factors.filter fun f => f.factorType = .discountExcess
    points explained = excess ∧
      explained.map (·.subject) =
        (if 0 < excess then
          (ctx.lines.filter fun l => ExceedsCeiling ctx lineCeilings l).map
            (overageSubject ctx lineCeilings)
        else []) ∧
      (∀ l ∈ ctx.lines, (∃ n : ℤ, ceilingOf ctx lineCeilings l * 10 ^ 4 = n) →
        (ExceedsCeiling ctx lineCeilings l ↔ AboveCeiling ctx lineCeilings l)) ∧
      res.riskScore = min 100 (points res.factors) ∧ 0 ≤ res.riskScore ∧ res.riskScore ≤ 100 := by
  intro res excess explained
  have amounts : ∀ l ∈ ctx.lines, 0 ≤ l.qty * l.priceUnit := fun l mem =>
    mul_nonneg (nonneg l mem).1 (nonneg l mem).2
  have factors : explained = discountFactors {} (lineOverages ctx lineCeilings) :=
    factors_discountExcess policy {} counter
  refine ⟨?_, ?_, fun l _ ⟨n, decimals⟩ => exceedsCeiling_iff decimals,
    riskScore_eq_points policy counter, riskScore_bounds ctx lineCeilings policy {} counter⟩
  · rw [factors, sum_discountFactors]
    exact max_eq_right (discountExcessContrib_nonneg {} amounts)
  · rw [factors]
    exact discountFactors_lines {}

theorem strictnessContext_explained :
    let res := calculateDealRisk strictnessContext (fun _ => some 15)
    points (res.factors.filter fun f => f.factorType = .discountExcess) =
        discountExcessContrib {} (lineOverages strictnessContext fun _ => some 15) ∧
      res.riskScore = min 100 (points res.factors) := by
  obtain ⟨sum, -, -, score, -⟩ := calculateDealRisk_explained strictnessContext
    (fun _ => some 15) {} false (by decide +kernel)
  exact ⟨sum, score⟩

/-- The first line is 10 points above its ceiling; the second one is a hundred-thousandth above, and
no factor is about it. -/
theorem strictnessContext_unexplained :
    let ceilings : ℤ → Option ℚ := fun id => if id = 1 then some 15 else some (499999 / 100000)
    0 < discountExcessContrib {} (lineOverages strictnessContext ceilings) ∧
      ∃ l ∈ strictnessContext.lines, AboveCeiling strictnessContext ceilings l ∧
        ∀ f ∈ (calculateDealRisk strictnessContext ceilings).factors,
          f.sourceReference ≠ s!"line:{l.lineId}" := by
  decide +kernel

end DealFlow
