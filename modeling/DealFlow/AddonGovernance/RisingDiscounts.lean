import DealFlow.AddonGovernance.Gates

/-!
# Rising discounts

What an evaluation finds when the discount of a line is raised.  The list values stay and the
discounts on them rise, so the blended discount rises; a line's penalty rises with its discount, the
jump at the ceiling included; the margin falls (`governanceFindings_worse`).  Score, health and lock
follow (`evaluateGovernance_rises`).

All that is used of the arithmetic is that it keeps order, so this holds of exact amounts and of
doubles alike.
-/

namespace DealFlow.Addon

open Lib

/-- How bad a health status is. -/
def OrderHealth.severity : OrderHealth → ℕ
  | .healthy => 0
  | .atRisk => 1
  | .critical => 2

/-- The line at another discount, which is no lower. -/
structure DiscountRises (line line' : SaleOrderLine) : Prop where
  kept : line' = { line with discount := line'.discount }
  raised : line.discount ≤ line'.discount

section Line

variable {line line' : SaleOrderLine} (rises : DiscountRises line line')

include rises

theorem DiscountRises.gross : line'.gross = line.gross := by
  rw [rises.kept]
  rfl

theorem DiscountRises.ceiling : line'.ceiling = line.ceiling := by
  rw [rises.kept]
  rfl

theorem DiscountRises.listAmount (round : ℚ → ℚ) :
    line'.listAmount round = line.listAmount round := by
  rw [rises.kept]
  rfl

theorem DiscountRises.lineCost (round : ℚ → ℚ) : line'.lineCost round = line.lineCost round := by
  rw [rises.kept]
  rfl

/-- The discounted subtotal falls. -/
theorem DiscountRises.subtotal (nonneg : 0 ≤ line.gross) :
    line'.gross * (1 - line'.discount / 100) ≤ line.gross * (1 - line.discount / 100) := by
  have raised := rises.raised
  rw [rises.gross]
  exact mul_le_mul_of_nonneg_left (by linarith) nonneg

section Rounded

variable {round : ℚ → ℚ} (rounds : Rounds round) (nonneg : 0 ≤ line.listAmount round)

include rounds

theorem DiscountRises.discountShare :
    round (round line.discount / 100) ≤ round (round line'.discount / 100) :=
  rounds.mono (div_le_div_of_nonneg_right (rounds.mono rises.raised) (by norm_num))

include nonneg

theorem DiscountRises.discountAmount :
    line.discountAmount round ≤ line'.discountAmount round := by
  unfold SaleOrderLine.discountAmount
  rw [rises.listAmount]
  exact rounds.mono (mul_le_mul_of_nonneg_left (rises.discountShare rounds) nonneg)

/-- So does what the evaluation takes for it. -/
theorem DiscountRises.discountedAmount :
    line'.discountedAmount round ≤ line.discountedAmount round := by
  have share := rises.discountShare rounds
  unfold SaleOrderLine.discountedAmount
  rw [rises.listAmount]
  exact rounds.mono (mul_le_mul_of_nonneg_left (rounds.mono (by linarith)) nonneg)

end Rounded

end Line

/-- What a line above its ceiling adds to the score. -/
def breachPenalty (round : ℚ → ℚ) (line : SaleOrderLine) : ℚ :=
  if line.ceiling < line.discount then
    round (round (round (round line.discount - line.ceiling) * 2) + 15)
  else 0

section Penalty

variable {round : ℚ → ℚ} (rounds : Rounds round)

include rounds

/-- The ceilings are whole numbers. -/
theorem round_categoryCeiling (category : String) :
    round (categoryCeiling category) = categoryCeiling category := by
  have kept : ∀ n : ℕ, n < 2 ^ 53 → round n = n := fun n small => rounds.whole n small
  unfold categoryCeiling
  split_ifs
  · exact kept 15 (by norm_num)
  · exact kept 15 (by norm_num)
  · exact kept 10 (by norm_num)
  · exact kept 10 (by norm_num)

/-- A discount above the ceiling is not below it once it is rounded. -/
theorem excess_nonneg {line : SaleOrderLine} (above : line.ceiling < line.discount) :
    0 ≤ round line.discount - line.ceiling := by
  have rounded := rounds.mono above.le
  unfold SaleOrderLine.ceiling at *
  rw [round_categoryCeiling rounds] at rounded
  linarith

theorem breachPenalty_nonneg (line : SaleOrderLine) : 0 ≤ breachPenalty round line := by
  unfold breachPenalty
  split
  · next above =>
      have excess := rounds.nonneg (excess_nonneg rounds above)
      have doubled := rounds.nonneg (mul_nonneg excess (by norm_num : (0 : ℚ) ≤ 2))
      exact rounds.nonneg (by linarith)
  · exact le_rfl

theorem DiscountRises.penalty {line line' : SaleOrderLine} (rises : DiscountRises line line') :
    breachPenalty round line ≤ breachPenalty round line' := by
  have raised := rounds.mono rises.raised
  by_cases above : line.ceiling < line.discount
  · unfold breachPenalty
    rw [rises.ceiling, if_pos above, if_pos (above.trans_le rises.raised)]
    have excess := rounds.mono (sub_le_sub_right raised line.ceiling)
    have doubled := rounds.mono (mul_le_mul_of_nonneg_right excess (by norm_num : (0 : ℚ) ≤ 2))
    exact rounds.mono (by linarith)
  · have nothing : breachPenalty round line = 0 := if_neg above
    rw [nothing]
    exact breachPenalty_nonneg rounds line'

/-- Lines within their ceilings add nothing to a sum. -/
theorem sum_breaches (lines : List (ℕ × SaleOrderLine)) (before after : List ℚ) :
    runningSum round (before ++ (lines.filterMap (lineBreach round)).map (·.penalty round) ++
        after) =
      runningSum round (before ++ (lines.map fun entry => breachPenalty round entry.2) ++
        after) := by
  induction lines generalizing before with
  | nil => rfl
  | cons entry lines ih =>
      rw [List.map_cons, List.filterMap_cons]
      by_cases above : entry.2.ceiling < entry.2.discount
      · have breach : lineBreach round entry = some _ := if_pos above
        have penalty : breachPenalty round entry.2 = _ := if_pos above
        have rest := ih (before ++ [breachPenalty round entry.2])
        rw [List.append_assoc, List.append_assoc] at rest
        rw [breach]
        simp only [List.map_cons, List.append_assoc] at rest ⊢
        rw [penalty] at rest ⊢
        exact rest
      · have breach : lineBreach round entry = none := if_neg above
        have nothing : breachPenalty round entry.2 = 0 := if_neg above
        have rest := ih before
        rw [List.append_assoc, List.append_assoc] at rest
        rw [breach, nothing, List.append_assoc, List.append_assoc, List.cons_append,
          runningSum_skip rounds]
        exact rest

end Penalty

/-! ## Findings -/

/-- The blended discount of the lines of some entries. -/
theorem computeBlendedDiscount_entries (round : ℚ → ℚ) (lines : List (ℕ × SaleOrderLine)) :
    computeBlendedDiscount round (lines.map (·.2)) =
      let list := runningSum round (lines.map fun entry => entry.2.listAmount round)
      let discounts := runningSum round (lines.map fun entry => entry.2.discountAmount round)
      if 0 < list then round (roundTo 2 (round (round (discounts / list) * 100))) else 0 := by
  unfold computeBlendedDiscount
  simp only [List.map_map]
  rfl

/-- What holds of a line and stays true as it is raised holds of one of the raised lines. -/
theorem any_raised {lines : List (ℕ × SaleOrderLine)}
    {raise : ℕ × SaleOrderLine → ℕ × SaleOrderLine} (p : SaleOrderLine → Bool)
    (stays : ∀ entry ∈ lines, p entry.2 = true → p (raise entry).2 = true)
    (some : (lines.any fun entry => p entry.2) = true) :
    ((lines.map raise).any fun entry => p entry.2) = true := by
  obtain ⟨entry, mem, holds⟩ := List.any_eq_true.mp some
  exact List.any_eq_true.mpr ⟨raise entry, List.mem_map_of_mem mem, stays entry mem holds⟩

/-- In a sum the penalties of some breaches are so many terms. -/
def Penalizes (round : ℚ → ℚ) (breaches : List CategoryBreach) (penalties : List ℚ) : Prop :=
  ∀ before after, runningSum round (before ++ breaches.map (·.penalty round) ++ after) =
    runningSum round (before ++ penalties ++ after)

/-- The second findings are no better than the first. -/
structure FindingsWorse (round : ℚ → ℚ) (f f' : GovernanceFindings) : Prop where
  blended : f.blendedDiscount ≤ f'.blendedDiscount
  penalty : ∃ penalties penalties', List.Forall₂ (· ≤ ·) penalties penalties' ∧
    Penalizes round f.categoryBreaches penalties ∧ Penalizes round f'.categoryBreaches penalties'
  breached : f.categoryBreaches ≠ [] → f'.categoryBreaches ≠ []
  negative : f.hasNegativeMargin = true → f'.hasNegativeMargin = true
  margin : f'.totalMargin ≤ f.totalMargin
  free : f.isFreeDeal = true → f'.isFreeDeal = true

section Findings

variable {lines : List (ℕ × SaleOrderLine)} {raise : ℕ × SaleOrderLine → ℕ × SaleOrderLine}
  (rises : ∀ entry ∈ lines, DiscountRises entry.2 (raise entry).2)

include rises

theorem listAmounts_raised (round : ℚ → ℚ) :
    (lines.map raise).map (fun entry => entry.2.listAmount round) =
      lines.map fun entry => entry.2.listAmount round := by
  rw [List.map_map]
  exact List.map_congr_left fun entry mem => (rises entry mem).listAmount round

theorem lineCosts_raised (round : ℚ → ℚ) :
    (lines.map raise).map (fun entry => entry.2.lineCost round) =
      lines.map fun entry => entry.2.lineCost round := by
  rw [List.map_map]
  exact List.map_congr_left fun entry mem => (rises entry mem).lineCost round

theorem subtotals_raised (nonneg : ∀ entry ∈ lines, 0 ≤ entry.2.gross) :
    ((lines.map raise).map fun entry => entry.2.gross * (1 - entry.2.discount / 100)).sum ≤
      (lines.map fun entry => entry.2.gross * (1 - entry.2.discount / 100)).sum := by
  rw [List.map_map]
  exact List.sum_le_sum fun entry mem => (rises entry mem).subtotal (nonneg entry mem)

section Rounded

variable {round : ℚ → ℚ} (rounds : Rounds round)
  (nonneg : ∀ entry ∈ lines, 0 ≤ entry.2.listAmount round)

include rounds nonneg

theorem computeBlendedDiscount_raised :
    computeBlendedDiscount round (lines.map (·.2)) ≤
      computeBlendedDiscount round ((lines.map raise).map (·.2)) := by
  have discounts : runningSum round (lines.map fun entry => entry.2.discountAmount round) ≤
      runningSum round ((lines.map raise).map fun entry => entry.2.discountAmount round) := by
    refine runningSum_mono rounds ?_
    rw [List.map_map, List.forall₂_map_left_iff, List.forall₂_map_right_iff, List.forall₂_same]
    exact fun entry mem => (rises entry mem).discountAmount rounds (nonneg entry mem)
  rw [computeBlendedDiscount_entries, computeBlendedDiscount_entries,
    listAmounts_raised rises round]
  dsimp only
  split
  · next pos =>
      have share := rounds.mono (div_le_div_of_nonneg_right discounts pos.le)
      have percent := rounds.mono (mul_le_mul_of_nonneg_right share (by norm_num : (0 : ℚ) ≤ 100))
      exact rounds.mono (roundTo_mono 2 percent)
  · exact le_rfl

theorem governanceFindings_worse {amount amount' : ℚ} (untaxed : amount' ≤ amount) :
    FindingsWorse round (governanceFindings round amount lines)
      (governanceFindings round amount' (lines.map raise)) where
  blended := computeBlendedDiscount_raised rises rounds nonneg
  penalty := by
    refine ⟨_, _, ?_, sum_breaches rounds lines, sum_breaches rounds (lines.map raise)⟩
    rw [List.map_map, List.forall₂_map_left_iff, List.forall₂_map_right_iff, List.forall₂_same]
    exact fun entry mem => (rises entry mem).penalty rounds
  breached := by
    intro breached none
    have within := lineBreaches_eq_nil_iff.mp none
    refine breached (lineBreaches_eq_nil_iff.mpr fun entry mem => ?_)
    have below := within (raise entry) (List.mem_map_of_mem mem)
    rw [(rises entry mem).ceiling] at below
    exact (rises entry mem).raised.trans below
  negative := by
    refine any_raised (fun line => line.discountedAmount round < line.lineCost round) ?_
    intro entry mem negative
    refine decide_eq_true ?_
    have falls := (rises entry mem).discountedAmount rounds (nonneg entry mem)
    rw [(rises entry mem).lineCost]
    exact falls.trans_lt (of_decide_eq_true negative)
  margin := by
    unfold governanceFindings
    dsimp only
    rw [lineCosts_raised rises]
    exact rounds.mono (sub_le_sub_right (rounds.mono untaxed) _)
  free := by
    intro free
    refine Bool.or_eq_true_iff.mpr ((Bool.or_eq_true_iff.mp free).imp ?_ ?_)
    · refine any_raised (fun line => 100 ≤ line.discount) ?_
      intro entry mem free
      exact decide_eq_true ((of_decide_eq_true free).trans (rises entry mem).raised)
    · intro blended
      obtain ⟨value, whole⟩ := Bool.and_eq_true_iff.mp blended
      refine Bool.and_eq_true_iff.mpr ⟨decide_eq_true ?_, decide_eq_true ?_⟩
      · rw [listAmounts_raised rises]
        exact of_decide_eq_true value
      · have rose := computeBlendedDiscount_raised rises rounds nonneg
        exact (of_decide_eq_true whole).trans rose

end Rounded

end Findings

section Verdict

variable {round : ℚ → ℚ} {f f' : GovernanceFindings}

/-- What the score is added up from, where a part that is absent counts for nothing. -/
theorem sum_riskParts (rounds : Rounds round) {penalties : List ℚ}
    (penalizes : Penalizes round f.categoryBreaches penalties) :
    runningSum round (f.riskParts round) =
      runningSum round
        ((if defaultMaxRepDiscount < f.blendedDiscount then
          round (round (f.blendedDiscount - defaultMaxRepDiscount) * (3 / 2)) else 0) ::
        (penalties ++ [if f.totalMargin < 0 ∨ f.hasNegativeMargin = true then 35 else 0])) := by
  have first := runningSum_ite rounds (defaultMaxRepDiscount < f.blendedDiscount) []
    (round (round (f.blendedDiscount - defaultMaxRepDiscount) * (3 / 2)))
  have last := fun parts => runningSum_ite rounds
    (f.totalMargin < 0 ∨ f.hasNegativeMargin = true) parts 35 []
  unfold GovernanceFindings.riskParts
  rw [penalizes, List.append_assoc]
  simp only [List.nil_append, List.append_nil] at first last
  rw [first, ← List.cons_append, last, List.cons_append]

variable (worse : FindingsWorse round f f')

include worse

theorem riskScore_worse (rounds : Rounds round) : f.riskScore round ≤ f'.riskScore round := by
  have capped : f.riskScore round ≤ round (roundTo 2 100) :=
    rounds.mono (roundTo_mono 2 (min_le_left _ _))
  unfold GovernanceFindings.riskScore at capped ⊢
  dsimp only at capped ⊢
  by_cases free' : f'.isFreeDeal = true
  · rw [if_pos free']
    exact capped.trans_eq (by norm_num)
  · have free : ¬ f.isFreeDeal = true := fun free => free' (worse.free free)
    obtain ⟨penalties, penalties', penalty, penalizes, penalizes'⟩ := worse.penalty
    rw [if_neg free', if_neg free, sum_riskParts rounds penalizes, sum_riskParts rounds penalizes']
    refine rounds.mono (roundTo_mono 2 (min_le_min_left 100 (max_le_max_left 0 ?_)))
    have blended : (if defaultMaxRepDiscount < f.blendedDiscount then
          round (round (f.blendedDiscount - defaultMaxRepDiscount) * (3 / 2)) else 0) ≤
        if defaultMaxRepDiscount < f'.blendedDiscount then
          round (round (f'.blendedDiscount - defaultMaxRepDiscount) * (3 / 2)) else 0 := by
      have rose := rounds.mono (sub_le_sub_right worse.blended defaultMaxRepDiscount)
      split
      · next above =>
          rw [if_pos (above.trans_le worse.blended)]
          exact rounds.mono (mul_le_mul_of_nonneg_right rose (by norm_num))
      · split
        · next above =>
            have excess := rounds.nonneg (sub_nonneg.mpr above.le)
            exact rounds.nonneg (mul_nonneg excess (by norm_num))
        · exact le_rfl
    have margin : (if f.totalMargin < 0 ∨ f.hasNegativeMargin = true then (35 : ℚ) else 0) ≤
        if f'.totalMargin < 0 ∨ f'.hasNegativeMargin = true then 35 else 0 := by
      split
      · next negative =>
          rw [if_pos (negative.imp worse.margin.trans_lt worse.negative)]
      · split
        · norm_num
        · exact le_rfl
    exact runningSum_mono rounds
      (.cons blended (List.rel_append penalty (.cons margin .nil)))

theorem healthStatus_worse : f.healthStatus.severity ≤ f'.healthStatus.severity := by
  have critical : f.isFreeDeal = true ∨ defaultFinanceDiscountThreshold ≤ f.blendedDiscount ∨
        f.totalMargin < 0 →
      f'.isFreeDeal = true ∨ defaultFinanceDiscountThreshold ≤ f'.blendedDiscount ∨
        f'.totalMargin < 0 :=
    Or.imp worse.free (Or.imp (fun above => above.trans worse.blended) worse.margin.trans_lt)
  have atRisk : f.categoryBreaches ≠ [] ∨ defaultMaxRepDiscount < f.blendedDiscount →
      f'.categoryBreaches ≠ [] ∨ defaultMaxRepDiscount < f'.blendedDiscount :=
    Or.imp worse.breached fun above => above.trans_le worse.blended
  unfold GovernanceFindings.healthStatus
  split
  · next bad => rw [if_pos (critical bad)]
  · split
    · next bad =>
        split
        · exact Nat.le_succ 1
        · rw [if_pos (atRisk bad)]
    · exact Nat.zero_le _

theorem unhealthy_worse (unhealthy : f.healthStatus ≠ .healthy) : f'.healthStatus ≠ .healthy := by
  intro healthy
  have severity := healthStatus_worse worse
  rw [healthy] at severity
  cases status : f.healthStatus with
  | healthy => exact unhealthy status
  | atRisk =>
      rw [status] at severity
      exact absurd severity (by decide)
  | critical =>
      rw [status] at severity
      exact absurd severity (by decide)

end Verdict

/-! ## Orders -/

/-- The database with another discount on a line. -/
def Db.withDiscount (db : Db) (lineId : ℕ) (discount : ℚ) : Db :=
  { db with lines := db.lines.modify [lineId] fun line => { line with discount } }

/-- The untaxed amount of an order is the sum of its lines' discounted subtotals. -/
def SumsSubtotals (base : BaseOdoo) (db : Db) (orderId : ℕ) : Prop :=
  base.amountUntaxed ((db.orderLine orderId).map (·.2)) =
    ((db.pricedLines orderId).map fun entry => entry.2.gross * (1 - entry.2.discount / 100)).sum

section Orders

variable {db : Db} {orderId lineId : ℕ} {discount : ℚ}

/-- What another discount makes of an entry. -/
def rediscount (lineId : ℕ) (discount : ℚ) (entry : ℕ × SaleOrderLine) : ℕ × SaleOrderLine :=
  if entry.1 ∈ [lineId] then (entry.1, { entry.2 with discount }) else entry

theorem pricedLines_withDiscount :
    (db.withDiscount lineId discount).pricedLines orderId =
      (db.pricedLines orderId).map (rediscount lineId discount) := by
  have kept : ∀ entry, (rediscount lineId discount entry).2.orderId = entry.2.orderId ∧
      (rediscount lineId discount entry).2.displayType = entry.2.displayType := by
    intro entry
    unfold rediscount
    split
    · exact ⟨rfl, rfl⟩
    · exact ⟨rfl, rfl⟩
  unfold Db.pricedLines Db.orderLine Db.withDiscount
  dsimp only
  rw [Table.entries_modify]
  change List.filter _ (List.filter _ (db.lines.entries.map (rediscount lineId discount))) = _
  rw [List.filter_map, List.filter_map]
  simp only [Function.comp_def, kept]

theorem rediscount_rises
    (raised : ∀ line, db.lines.row lineId = some line → line.discount ≤ discount) :
    ∀ entry ∈ db.pricedLines orderId,
      DiscountRises entry.2 (rediscount lineId discount entry).2 := by
  intro entry mem
  have row : db.lines.row entry.1 = some entry.2 :=
    Table.mem_entries.mp (List.mem_filter.mp (List.mem_filter.mp mem).1).1
  unfold rediscount
  split
  · next chosen =>
      rw [List.mem_singleton.mp chosen] at row
      exact ⟨rfl, raised entry.2 row⟩
  · exact ⟨rfl, le_rfl⟩

/-- The findings on an order are no better once a discount on it is raised. -/
theorem findings_withDiscount {base : BaseOdoo} {round : ℚ → ℚ} (rounds : Rounds round)
    (nonneg : ∀ entry ∈ db.pricedLines orderId, 0 ≤ entry.2.priceUnit ∧ 0 ≤ entry.2.productUomQty)
    (raised : ∀ line, db.lines.row lineId = some line → line.discount ≤ discount)
    (sums : SumsSubtotals base db orderId)
    (sums' : SumsSubtotals base (db.withDiscount lineId discount) orderId) :
    FindingsWorse round (db.findings base round orderId)
      ((db.withDiscount lineId discount).findings base round orderId) := by
  have rises : ∀ entry ∈ db.pricedLines orderId,
      DiscountRises entry.2 (rediscount lineId discount entry).2 := rediscount_rises raised
  have gross : ∀ entry ∈ db.pricedLines orderId, 0 ≤ entry.2.gross := fun entry mem =>
    mul_nonneg (nonneg entry mem).1 (nonneg entry mem).2
  have amounts : ∀ entry ∈ db.pricedLines orderId, 0 ≤ entry.2.listAmount round := by
    intro entry mem
    obtain ⟨price, qty⟩ := nonneg entry mem
    exact rounds.nonneg (mul_nonneg (rounds.nonneg price) (rounds.nonneg qty))
  unfold Db.findings
  rw [sums, sums', pricedLines_withDiscount]
  exact governanceFindings_worse rises rounds amounts (subtotals_raised rises gross)

end Orders

/-- Raising the discount of a line never lowers the score, never betters the health status and never
leaves an order unlocked that is locked without it, be the arithmetic exact or rounded. -/
theorem evaluateGovernance_rises {round : ℚ → ℚ} (rounds : Rounds round) {base : BaseOdoo}
    {env : Env} {db after after' : Db} {orderId lineId : ℕ} {discount : ℚ}
    {report report' : EvaluationReport}
    (nonneg : ∀ entry ∈ db.pricedLines orderId, 0 ≤ entry.2.priceUnit ∧ 0 ≤ entry.2.productUomQty)
    (raised : ∀ line, db.lines.row lineId = some line → line.discount ≤ discount)
    (sums : SumsSubtotals base db orderId)
    (sums' : SumsSubtotals base (db.withDiscount lineId discount) orderId)
    (ok : evaluateGovernance base env round orderId db = .ok (report, after))
    (ok' : evaluateGovernance base env round orderId (db.withDiscount lineId discount) =
      .ok (report', after')) :
    report.riskScore ≤ report'.riskScore ∧
      report.healthStatus.severity ≤ report'.healthStatus.severity ∧
      ((after.orders.row orderId).map (·.dealflowLocked) = some true →
        (after'.orders.row orderId).map (·.dealflowLocked) = some true) := by
  have worse := findings_withDiscount rounds nonneg raised sums sums'
  obtain ⟨score, health, lock⟩ := evaluation_outcome ok
  obtain ⟨score', health', lock'⟩ := evaluation_outcome ok'
  rw [score, score', health, health', lock, lock']
  refine ⟨riskScore_worse worse rounds, healthStatus_worse worse, fun locked => ?_⟩
  obtain ⟨order, row, locks⟩ := Option.map_eq_some_iff.mp locked
  -- the orders are the same in both databases
  change (db.orders.row orderId).map _ = _
  rw [row]
  refine congrArg some ?_
  by_cases unhealthy : (db.findings base round orderId).healthStatus ≠ .healthy ∧
      order.dealflowApprovalState ≠ .approved
  · exact if_pos ⟨unhealthy_worse worse unhealthy.1, unhealthy.2⟩
  · rw [if_neg unhealthy] at locks
    dsimp only
    rw [locks, ite_self]

/-- The hardware line of the quote goes from 12 % to 40 %. -/
theorem hardwareQuote_rises :
    ∃ report after report' after',
      actionDealflowEvaluateGovernance openOdoo salesRep 1 hardwareQuote = .ok (report, after) ∧
      actionDealflowEvaluateGovernance openOdoo salesRep 1 (hardwareQuote.withDiscount 1 40) =
        .ok (report', after') ∧
      report.riskScore ≤ report'.riskScore ∧
      report.healthStatus.severity ≤ report'.healthStatus.severity ∧
      ((after.orders.row 1).map (·.dealflowLocked) = some true →
        (after'.orders.row 1).map (·.dealflowLocked) = some true) := by
  have ok : (actionDealflowEvaluateGovernance openOdoo salesRep 1 hardwareQuote).isOk = true := by
    decide +kernel
  have ok' : (actionDealflowEvaluateGovernance openOdoo salesRep 1
      (hardwareQuote.withDiscount 1 40)).isOk = true := by
    decide +kernel
  cases evaluated : actionDealflowEvaluateGovernance openOdoo salesRep 1 hardwareQuote with
  | error e =>
      rw [evaluated] at ok
      cases ok
  | ok result =>
      cases evaluated' : actionDealflowEvaluateGovernance openOdoo salesRep 1
          (hardwareQuote.withDiscount 1 40) with
      | error e =>
          rw [evaluated'] at ok'
          cases ok'
      | ok result' =>
          have raised : ∀ line, hardwareQuote.lines.row 1 = some line → line.discount ≤ 40 := by
            rintro line ⟨⟩
            norm_num
          have sums : SumsSubtotals openOdoo hardwareQuote 1 := by
            unfold SumsSubtotals
            decide +kernel
          have sums' : SumsSubtotals openOdoo (hardwareQuote.withDiscount 1 40) 1 := by
            unfold SumsSubtotals
            decide +kernel
          exact ⟨result.1, result.2, result'.1, result'.2, rfl, rfl,
            evaluateGovernance_rises rounds_float64 (by decide +kernel) raised sums sums' evaluated
              evaluated'⟩

end DealFlow.Addon
