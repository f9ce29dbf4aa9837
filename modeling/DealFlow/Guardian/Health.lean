import DealFlow.Guardian.Evaluator
import DealFlow.Risk.Grid

/-!
# The health of a deal

`calculate_deal_health` of `app/guardian/health.py`: penalty points for five causes, each with a cap
of its own, and a status by their sum.

The overall score is the sum of the five causes' points, each within its own bounds, and 100 at
most (`overallScore_eq`).  It takes two causes to put a deal at risk (`atRisk_two_causes`), and a
deal that is worse off in every respect has no lower score and no better status (`health_worsens`).
-/

namespace DealFlow

open Lib

inductive HealthStatus
  | healthy | watch | atRisk
  deriving DecidableEq, Repr

def HealthStatus.value : HealthStatus → String
  | .healthy => "HEALTHY"
  | .watch => "WATCH"
  | .atRisk => "AT_RISK"

def terminalDealStatuses : List DealStatus :=
  [.confirmed, .inFulfillment, .fulfilled, .invoiced, .paid, .cancelled, .expired]

structure HealthArgs where
  dealStatus : DealStatus
  daysSinceActivity : ℚ := 0
  stalledThresholdDays : ℤ := 7
  daysPendingApproval : ℚ := 0
  anomalySeverity : Option RiskSeverity := none
  hasSlippingDelivery : Bool := false
  hasBackorder : Bool := false
  hasWarehouseSplit : Bool := false
  openNegotiationRequests : ℤ := 0
  deriving DecidableEq, Repr

structure HealthDetail where
  stalledDays : ℚ
  stalledThreshold : ℤ
  daysPendingApproval : ℚ
  anomalySeverity : Option RiskSeverity
  hasSlippingDelivery : Bool
  hasBackorder : Bool
  hasWarehouseSplit : Bool
  openNegotiationRequests : ℤ
  deriving DecidableEq, Repr

structure HealthCalculationResult where
  overallScore : ℚ
  healthStatus : HealthStatus
  stalledScore : ℚ
  approvalDelayScore : ℚ
  discountAnomalyScore : ℚ
  deliveryRiskScore : ℚ
  negotiationScore : ℚ
  detail : HealthDetail
  deriving DecidableEq, Repr

namespace HealthArgs

variable (a : HealthArgs)

def stalledThresh : ℤ :=
  max 1 a.stalledThresholdDays

def daysActivity : ℚ :=
  max 0 (quantizeDec a.daysSinceActivity)

def stalledScore : ℚ :=
  if a.dealStatus ∈ terminalDealStatuses then 0
  else min 40 (max 0 (quantizeDec (40 * a.daysActivity / (2 * a.stalledThresh))))

def daysPending : ℚ :=
  max 0 (quantizeDec a.daysPendingApproval)

def approvalDelayScore : ℚ :=
  min 20 (max 0 (quantizeDec (5 * a.daysPending)))

def discountAnomalyScore : ℚ :=
  match a.anomalySeverity with
  | some .high => 25
  | some .medium => 15
  | _ => 0

def deliveryRiskScore : ℚ :=
  if a.hasSlippingDelivery then 30
  else if a.hasBackorder then 20
  else if a.hasWarehouseSplit then 10
  else 0

def openReqs : ℤ :=
  max 0 a.openNegotiationRequests

def negotiationScore : ℚ :=
  min 15 (quantizeDec (5 * a.openReqs))

def rawTotal : ℚ :=
  a.stalledScore + a.approvalDelayScore + a.discountAnomalyScore + a.deliveryRiskScore +
    a.negotiationScore

def overallScore : ℚ :=
  min 100 (quantizeDec a.rawTotal)

end HealthArgs

/-- The status by the score: up to 30 healthy, up to 60 to watch. -/
def healthStatusOf (overallScore : ℚ) : HealthStatus :=
  if overallScore ≤ 30 then .healthy
  else if overallScore ≤ 60 then .watch
  else .atRisk

def calculateDealHealth (a : HealthArgs) : HealthCalculationResult :=
  { overallScore := a.overallScore
    healthStatus := healthStatusOf a.overallScore
    stalledScore := a.stalledScore
    approvalDelayScore := a.approvalDelayScore
    discountAnomalyScore := a.discountAnomalyScore
    deliveryRiskScore := a.deliveryRiskScore
    negotiationScore := a.negotiationScore
    detail :=
      { stalledDays := a.daysActivity
        stalledThreshold := a.stalledThresh
        daysPendingApproval := a.daysPending
        anomalySeverity := a.anomalySeverity
        hasSlippingDelivery := a.hasSlippingDelivery
        hasBackorder := a.hasBackorder
        hasWarehouseSplit := a.hasWarehouseSplit
        openNegotiationRequests := a.openReqs } }

/-! ## What the score says -/

namespace HealthArgs

variable (a : HealthArgs)

theorem stalledScore_bounds : 0 ≤ a.stalledScore ∧ a.stalledScore ≤ 40 := by
  unfold stalledScore
  split
  · norm_num
  · exact ⟨le_min (by norm_num) (le_max_left _ _), min_le_left _ _⟩

theorem approvalDelayScore_bounds : 0 ≤ a.approvalDelayScore ∧ a.approvalDelayScore ≤ 20 :=
  ⟨le_min (by norm_num) (le_max_left _ _), min_le_left _ _⟩

theorem discountAnomalyScore_bounds :
    0 ≤ a.discountAnomalyScore ∧ a.discountAnomalyScore ≤ 25 := by
  unfold discountAnomalyScore
  split <;> norm_num

theorem deliveryRiskScore_bounds : 0 ≤ a.deliveryRiskScore ∧ a.deliveryRiskScore ≤ 30 := by
  unfold deliveryRiskScore
  split_ifs <;> norm_num

theorem negotiationScore_bounds : 0 ≤ a.negotiationScore ∧ a.negotiationScore ≤ 15 := by
  have reqs : (0 : ℚ) ≤ a.openReqs := Int.cast_nonneg (le_max_left 0 a.openNegotiationRequests)
  have points : (0 : ℚ) ≤ quantizeDec (5 * a.openReqs) := quantize_nonneg (by positivity)
  exact ⟨le_min (by norm_num) points, min_le_left _ _⟩

/-! ### The sum -/

theorem onGrid_discountAnomalyScore : OnGrid a.discountAnomalyScore := by
  unfold discountAnomalyScore
  split
  · exact onGrid_natCast 25
  · exact onGrid_natCast 15
  · exact onGrid_natCast 0

theorem onGrid_deliveryRiskScore : OnGrid a.deliveryRiskScore := by
  unfold deliveryRiskScore
  split_ifs
  · exact onGrid_natCast 30
  · exact onGrid_natCast 20
  · exact onGrid_natCast 10
  · exact onGrid_natCast 0

theorem onGrid_rawTotal : OnGrid a.rawTotal := by
  have stalled : OnGrid a.stalledScore := by
    unfold stalledScore
    split
    · exact onGrid_natCast 0
    · exact (onGrid_natCast 40).min ((onGrid_natCast 0).max (onGrid_quantizeDec _))
  have delay : OnGrid a.approvalDelayScore :=
    (onGrid_natCast 20).min ((onGrid_natCast 0).max (onGrid_quantizeDec _))
  have negotiation : OnGrid a.negotiationScore := (onGrid_natCast 15).min (onGrid_quantizeDec _)
  exact (((stalled.add delay).add a.onGrid_discountAnomalyScore).add
    a.onGrid_deliveryRiskScore).add negotiation

/-- The rounding of the sum changes nothing: all points are multiples of 0.01. -/
theorem overallScore_eq : a.overallScore = min 100 a.rawTotal := by
  rw [overallScore, a.onGrid_rawTotal.quantizeDec]

/-- The points of the causes, in the order of the fields. -/
def causes : List ℚ :=
  [a.stalledScore, a.approvalDelayScore, a.discountAnomalyScore, a.deliveryRiskScore,
    a.negotiationScore]

end HealthArgs

theorem healthStatusOf_atRisk {score : ℚ} : healthStatusOf score = .atRisk ↔ 60 < score := by
  unfold healthStatusOf
  split
  · next low => exact iff_of_false nofun (by linarith)
  · split
    · next low => exact iff_of_false nofun (not_lt.mpr low)
    · next high => exact iff_of_true rfl (not_le.mp high)

/-- Figures below a cap add up to the cap for each that counts, at most. -/
theorem sum_le_count_mul {cap : ℚ} {xs : List ℚ} (capped : ∀ x ∈ xs, x ≤ cap) :
    xs.sum ≤ (xs.filter (0 < ·)).length * cap := by
  induction xs with
  | nil => simp
  | cons x xs ih =>
      obtain ⟨head, tail⟩ := List.forall_mem_cons.mp capped
      have rest := ih tail
      rw [List.sum_cons, List.filter_cons]
      split
      · rw [List.length_cons]
        push_cast
        linarith
      · next none =>
          rw [decide_eq_true_eq, not_lt] at none
          linarith

/-- A deal at risk has two causes at least that count. -/
theorem atRisk_two_causes (a : HealthArgs) (atRisk : (calculateDealHealth a).healthStatus = .atRisk) :
    2 ≤ (a.causes.filter (0 < ·)).length := by
  have score : 60 < a.rawTotal := by
    have points := healthStatusOf_atRisk.mp atRisk
    rw [a.overallScore_eq] at points
    exact (lt_min_iff.mp points).2
  have total : a.rawTotal = a.causes.sum := by
    simp only [HealthArgs.causes, HealthArgs.rawTotal, List.sum_cons, List.sum_nil, add_zero]
    ring
  have capped : ∀ x ∈ a.causes, x ≤ 40 := by
    simp only [HealthArgs.causes, List.forall_mem_cons]
    refine ⟨a.stalledScore_bounds.2, ?_, ?_, ?_, ?_, nofun⟩
    · linarith [a.approvalDelayScore_bounds.2]
    · linarith [a.discountAnomalyScore_bounds.2]
    · linarith [a.deliveryRiskScore_bounds.2]
    · linarith [a.negotiationScore_bounds.2]
  have points := sum_le_count_mul capped
  rw [← total] at points
  by_contra few
  have one : ((a.causes.filter (0 < ·)).length : ℚ) ≤ 1 := by
    exact_mod_cast Nat.lt_succ_iff.mp (not_le.mp few)
  linarith

/-- An idle deal whose goods are late: stalled for two thresholds and slipping, 70 points. -/
theorem atRisk_idle_and_late :
    2 ≤ ((HealthArgs.causes
      { dealStatus := .sent
        daysSinceActivity := 20
        hasSlippingDelivery := true }).filter (0 < ·)).length :=
  atRisk_two_causes _ (by decide +kernel)

/-! ### Worse in every respect -/

/-- Severities in the order of their points. -/
def severityRank : Option RiskSeverity → ℕ
  | some .high => 2
  | some .medium => 1
  | _ => 0

def healthRank : HealthStatus → ℕ
  | .healthy => 0
  | .watch => 1
  | .atRisk => 2

/-- Every cause is at least as bad in the second. -/
structure HealthArgs.Worse (a b : HealthArgs) : Prop where
  /-- Only a deal that is not decided yet can stall. -/
  status : a.dealStatus ∈ terminalDealStatuses ∨ b.dealStatus ∉ terminalDealStatuses
  idle : a.daysSinceActivity ≤ b.daysSinceActivity
  threshold : b.stalledThresholdDays ≤ a.stalledThresholdDays
  pending : a.daysPendingApproval ≤ b.daysPendingApproval
  anomaly : severityRank a.anomalySeverity ≤ severityRank b.anomalySeverity
  slipping : a.hasSlippingDelivery = true → b.hasSlippingDelivery = true
  backorder : a.hasBackorder = true → b.hasBackorder = true
  split : a.hasWarehouseSplit = true → b.hasWarehouseSplit = true
  negotiations : a.openNegotiationRequests ≤ b.openNegotiationRequests

namespace HealthArgs.Worse

variable {a b : HealthArgs}

theorem stalledScore (worse : Worse a b) : a.stalledScore ≤ b.stalledScore := by
  unfold HealthArgs.stalledScore
  rcases worse.status with decided | undecided
  · rw [if_pos decided]
    exact b.stalledScore_bounds.1
  · rw [if_neg undecided]
    split
    · exact le_min (by norm_num) (le_max_left _ _)
    · refine min_le_min_left _ (max_le_max_left _ (quantize_mono 2 ?_))
      have days : a.daysActivity ≤ b.daysActivity :=
        max_le_max_left _ (quantize_mono 2 worse.idle)
      have nonneg : 0 ≤ b.daysActivity := le_max_left _ _
      have positive : (0 : ℚ) < b.stalledThresh :=
        Int.cast_pos.mpr (lt_of_lt_of_le one_pos (le_max_left 1 _))
      have thresholds : (b.stalledThresh : ℚ) ≤ a.stalledThresh :=
        Int.cast_le.mpr (max_le_max_left _ worse.threshold)
      exact div_le_div₀ (by positivity) (by linarith) (by positivity) (by linarith)

theorem approvalDelayScore (worse : Worse a b) : a.approvalDelayScore ≤ b.approvalDelayScore := by
  have days : a.daysPending ≤ b.daysPending := max_le_max_left _ (quantize_mono 2 worse.pending)
  exact min_le_min_left _ (max_le_max_left _ (quantize_mono 2 (by linarith)))

theorem discountAnomalyScore (worse : Worse a b) :
    a.discountAnomalyScore ≤ b.discountAnomalyScore := by
  have points : ∀ args : HealthArgs, args.discountAnomalyScore =
      if severityRank args.anomalySeverity = 0 then 0
      else if severityRank args.anomalySeverity = 1 then 15 else 25 := by
    intro args
    unfold HealthArgs.discountAnomalyScore severityRank
    rcases args.anomalySeverity with _ | _ | _ | _ <;> rfl
  have rank := worse.anomaly
  rw [points a, points b]
  split_ifs <;> first | omega | norm_num

theorem deliveryRiskScore (worse : Worse a b) : a.deliveryRiskScore ≤ b.deliveryRiskScore := by
  unfold HealthArgs.deliveryRiskScore
  by_cases late : b.hasSlippingDelivery = true
  · rw [if_pos late]
    exact a.deliveryRiskScore_bounds.2
  rw [if_neg late, if_neg (mt worse.slipping late)]
  by_cases short : b.hasBackorder = true
  · rw [if_pos short]
    split_ifs <;> norm_num
  rw [if_neg short, if_neg (mt worse.backorder short)]
  by_cases apart : b.hasWarehouseSplit = true
  · rw [if_pos apart]
    split_ifs <;> norm_num
  · rw [if_neg apart, if_neg (mt worse.split apart)]

theorem negotiationScore (worse : Worse a b) : a.negotiationScore ≤ b.negotiationScore := by
  have reqs : (a.openReqs : ℚ) ≤ b.openReqs :=
    Int.cast_le.mpr (max_le_max_left _ worse.negotiations)
  exact min_le_min_left _ (quantize_mono 2 (by linarith))

end HealthArgs.Worse

theorem healthStatusOf_mono {x y : ℚ} (le : x ≤ y) :
    healthRank (healthStatusOf x) ≤ healthRank (healthStatusOf y) := by
  unfold healthStatusOf
  split_ifs <;> first | decide | (exfalso; linarith)

/-- A deal that is worse off in every respect has no lower score and no better status. -/
theorem health_worsens {a b : HealthArgs} (worse : HealthArgs.Worse a b) :
    (calculateDealHealth a).overallScore ≤ (calculateDealHealth b).overallScore ∧
      healthRank (calculateDealHealth a).healthStatus ≤
        healthRank (calculateDealHealth b).healthStatus := by
  have score : a.overallScore ≤ b.overallScore := by
    rw [a.overallScore_eq, b.overallScore_eq]
    refine min_le_min_left _ ?_
    unfold HealthArgs.rawTotal
    linarith [worse.stalledScore, worse.approvalDelayScore, worse.discountAnomalyScore,
      worse.deliveryRiskScore, worse.negotiationScore]
  exact ⟨score, healthStatusOf_mono score⟩

/-- Three more days of silence and a backorder. -/
theorem health_worsens_backorder :
    (calculateDealHealth { dealStatus := .sent, daysSinceActivity := 4 }).overallScore ≤
        (calculateDealHealth
          { dealStatus := .sent, daysSinceActivity := 7, hasBackorder := true }).overallScore ∧
      healthRank (calculateDealHealth
          { dealStatus := .sent, daysSinceActivity := 4 }).healthStatus ≤
        healthRank (calculateDealHealth
          { dealStatus := .sent, daysSinceActivity := 7, hasBackorder := true }).healthStatus :=
  health_worsens
    { status := .inr (by decide)
      idle := by norm_num
      threshold := le_rfl
      pending := le_rfl
      anomaly := le_rfl
      slipping := nofun
      backorder := nofun
      split := nofun
      negotiations := le_rfl }

end DealFlow
