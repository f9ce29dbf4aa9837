import DealFlow.Guardian.MaterialChange
import DealFlow.Risk.Comparison

/-!
# A stricter policy never lowers the risk

`Stricter` compares two settings of the ceilings and policy figures.  Tightening raises every
overage, so each term of the discount factor rises, and it raises the margin gap; the other factors
do not look at the settings (`riskScore_mono`).

For the level, what was not waved through stays so: its overage is still positive or its score
still reaches the threshold, whatever the order of the thresholds (`requiredLevel_mono`).
-/

namespace DealFlow

/-- The second setting is at least as strict as the first on the lines of the deal. -/
structure Stricter (ctx : DealContext) (lineCeilings : ℤ → Option ℚ) (policy : RiskPolicy)
    (lineCeilings' : ℤ → Option ℚ) (policy' : RiskPolicy) : Prop where
  ceilings : ∀ l ∈ ctx.lines, ceilingOf ctx lineCeilings' l ≤ ceilingOf ctx lineCeilings l
  minimumMargin : policy.minimumMarginPct ≤ policy'.minimumMarginPct
  managerThreshold : policy'.managerThreshold ≤ policy.managerThreshold
  financeThreshold : policy'.financeThreshold ≤ policy.financeThreshold
  singleLineFinance : policy'.singleLineFinancePts ≤ policy.singleLineFinancePts

section Overages

variable {ctx : DealContext} {lineCeilings lineCeilings' : ℤ → Option ℚ}
  (tighter : ∀ l ∈ ctx.lines, ceilingOf ctx lineCeilings' l ≤ ceilingOf ctx lineCeilings l)

include tighter

theorem lineOverage_mono : ∀ l ∈ ctx.lines,
    (lineOverage ctx lineCeilings l).overage ≤ (lineOverage ctx lineCeilings' l).overage := by
  intro l mem
  have gap : effectiveDiscount ctx l - ceilingOf ctx lineCeilings l ≤
      effectiveDiscount ctx l - ceilingOf ctx lineCeilings' l :=
    sub_le_sub_left (tighter l mem) _
  exact quantizeDec_mono 4 (max_le_max_left 0 gap)

theorem lineOverages_rise (amounts : ∀ l ∈ ctx.lines, 0 ≤ l.qty * l.priceUnit) :
    List.Forall₂ OverageRises (lineOverages ctx lineCeilings) (lineOverages ctx lineCeilings') := by
  unfold lineOverages
  rw [List.forall₂_map_left_iff, List.forall₂_map_right_iff]
  refine List.forall₂_same.mpr fun l mem => ?_
  exact
    { overage := lineOverage_mono tighter l mem
      weight := rfl
      nonneg := lineOverage_weight_nonneg (amounts l mem) }

end Overages

/-- The ceilings have no part in the margin of the deal. -/
theorem dealMarginPct_ceilings (ctx : DealContext) (lineCeilings lineCeilings' : ℤ → Option ℚ) :
    dealMarginPct (lineOverages ctx lineCeilings) =
      dealMarginPct (lineOverages ctx lineCeilings') := by
  simp [dealMarginPct, totalNet, lineOverages, lineOverage, Function.comp_def]

section Strict

variable {ctx : DealContext} {lineCeilings lineCeilings' : ℤ → Option ℚ}
  {policy policy' : RiskPolicy}

theorem riskScore_mono (amounts : ∀ l ∈ ctx.lines, 0 ≤ l.qty * l.priceUnit)
    (stricter : Stricter ctx lineCeilings policy lineCeilings' policy') (weights : RiskWeights)
    (counter : Bool) :
    (calculateDealRisk ctx lineCeilings policy weights counter).riskScore ≤
      (calculateDealRisk ctx lineCeilings' policy' weights counter).riskScore := by
  have discount := max_le_max_left 0
    (discountExcessContrib_rises (lineOverages_rise stricter.ceilings amounts) weights)
  have margin := marginPoints_mono weights (sub_le_sub_right stricter.minimumMargin
    (dealMarginPct (lineOverages ctx lineCeilings)))
  rw [calculateDealRisk_score, calculateDealRisk_score, points_marginFactors, points_marginFactors,
    dealMarginPct_ceilings ctx lineCeilings' lineCeilings]
  refine min_le_min_left _ (quantizeDec_mono 2 ?_)
  gcongr

/-- Routing rises with the score and the overage and with every lowered threshold. -/
theorem routingLevel_mono {score score' overage overage' : ℚ} (scores : score ≤ score')
    (overages : overage ≤ overage') (nonneg : 0 ≤ overage)
    (stricter : Stricter ctx lineCeilings policy lineCeilings' policy') :
    levelPriority (routingLevel policy score overage).1 ≤
      levelPriority (routingLevel policy' score' overage').1 := by
  by_cases waved : overage = 0 ∧ score < policy.managerThreshold
  · rw [routingLevel, if_pos waved]
    exact Nat.zero_le _
  · have notWaved : ¬(overage' = 0 ∧ score' < policy'.managerThreshold) := by
      rintro ⟨zero, low⟩
      refine waved ⟨le_antisymm (zero ▸ overages) nonneg, ?_⟩
      exact (scores.trans_lt low).trans_le stricter.managerThreshold
    rw [routingLevel, if_neg waved, routingLevel, if_neg notWaved]
    by_cases finance : policy.financeThreshold < score ∨ policy.singleLineFinancePts ≤ overage
    · have finance' : policy'.financeThreshold < score' ∨
          policy'.singleLineFinancePts ≤ overage' := by
        rcases finance with high | large
        · exact .inl ((stricter.financeThreshold.trans_lt high).trans_le scores)
        · exact .inr ((stricter.singleLineFinance.trans large).trans overages)
      rw [if_pos finance, if_pos finance']
    · rw [if_neg finance]
      split
      · exact Nat.le_succ 1
      · exact le_rfl

theorem requiredLevel_mono (amounts : ∀ l ∈ ctx.lines, 0 ≤ l.qty * l.priceUnit)
    (stricter : Stricter ctx lineCeilings policy lineCeilings' policy') (weights : RiskWeights)
    (counter : Bool) :
    levelPriority (calculateDealRisk ctx lineCeilings policy weights counter).requiredLevel ≤
      levelPriority (calculateDealRisk ctx lineCeilings' policy' weights counter).requiredLevel :=
  routingLevel_mono (riskScore_mono amounts stricter weights counter)
    (maxOverage_rises (lineOverages_rise stricter.ceilings amounts)) maxOverage_nonneg stricter

end Strict

/-- Policy strictness is monotone in score and level. -/
theorem calculateDealRisk_strictness {ctx : DealContext} {lineCeilings lineCeilings' : ℤ → Option ℚ}
    {policy policy' : RiskPolicy}
    (nonneg : ∀ l ∈ ctx.lines, 0 ≤ l.qty ∧ 0 ≤ l.priceUnit)
    (stricter : Stricter ctx lineCeilings policy lineCeilings' policy') (weights : RiskWeights)
    (hasOpenNegotiationCounter : Bool) :
    (calculateDealRisk ctx lineCeilings policy weights hasOpenNegotiationCounter).riskScore ≤
        (calculateDealRisk ctx lineCeilings' policy' weights hasOpenNegotiationCounter).riskScore ∧
      levelPriority (calculateDealRisk ctx lineCeilings policy weights
          hasOpenNegotiationCounter).requiredLevel ≤
        levelPriority (calculateDealRisk ctx lineCeilings' policy' weights
          hasOpenNegotiationCounter).requiredLevel := by
  have amounts : ∀ l ∈ ctx.lines, 0 ≤ l.qty * l.priceUnit := fun l mem =>
    mul_nonneg (nonneg l mem).1 (nonneg l mem).2
  exact ⟨riskScore_mono amounts stricter weights _, requiredLevel_mono amounts stricter weights _⟩

/-- Two lines of list value 600, one at 25 % discount. -/
def strictnessContext : DealContext :=
  dealContextOf {}
    { header :=
        { id := 7, name := "S00007", partnerId := 3, partnerName := "Acme", state := "draft"
          currency := "INR", userId := 4, teamId := none, companyId := 1 }
      lines :=
        [{ id := 1, productId := 10, productName := "Desk", categoryId := 1
           productType := "STOCKABLE", qty := 2, priceUnit := 100, discountPct := 25
           unitCost := 40, taxRatePct := 0 },
          { id := 2, productId := 11, productName := "Setup", categoryId := 2
            productType := "SERVICE", qty := 4, priceUnit := 100, discountPct := 5
            unitCost := 60, taxRatePct := 18 }] }
    fun _ => ∅

theorem strictnessContext_strictness :
    (calculateDealRisk strictnessContext (fun _ => some 20)).riskScore ≤
        (calculateDealRisk strictnessContext (fun _ => some 15)
          { minimumMarginPct := 30, managerThreshold := 15 }).riskScore ∧
      levelPriority (calculateDealRisk strictnessContext (fun _ => some 20)).requiredLevel ≤
        levelPriority (calculateDealRisk strictnessContext (fun _ => some 15)
          { minimumMarginPct := 30, managerThreshold := 15 }).requiredLevel := by
  refine calculateDealRisk_strictness (by decide +kernel) ?_ {} false
  exact
    { ceilings := by decide +kernel
      minimumMargin := by norm_num
      managerThreshold := by norm_num
      financeThreshold := le_rfl
      singleLineFinance := le_rfl }

end DealFlow
