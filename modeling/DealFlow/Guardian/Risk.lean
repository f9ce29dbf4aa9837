import DealFlow.Lib.Significant
import DealFlow.Services.DealContextBuilder

/-!
# Deal risk

`calculate_deal_risk` of `app/guardian/risk.py`: a discount factor apportioned to the lines above
their ceilings, a margin factor, an inventory factor and a negotiation factor make up a score
between 0 and 100, and score and largest overage decide the approval level.

The figures are decimals of 28 digits.  The weights of the lines and the ratio of violating lines
are quotients that seldom fit in them, so these are rounded, and so is all that is computed from
them (`decimal28`).  Amounts, their products and sums and the points of the factors have few
decimals, and are exact.  The margin is a quotient too, but goes to two places at once: of such
amounts it is on a tie, and then exact, or further from it than the 28th digit tells.
-/

namespace DealFlow

open Lib

structure RiskFactorDetail where
  factorType : RiskFactorType
  sourceReference : String
  rawValue : ℚ
  weight : ℚ
  contribution : ℚ
  deriving DecidableEq, Repr

structure RiskCalculationResult where
  riskScore : ℚ
  severity : RiskSeverity
  requiredLevel : ApprovalLevel
  decision : String
  factors : List RiskFactorDetail
  maxOverage : ℚ
  weightedOverage : ℚ
  violationRatio : ℚ
  marginPct : ℚ
  minimumMarginPct : ℚ
  deriving DecidableEq, Repr

/-- The policy figures of a calculation. -/
structure RiskPolicy where
  minimumMarginPct : ℚ := 20
  managerThreshold : ℚ := 20
  financeThreshold : ℚ := 50
  singleLineFinancePts : ℚ := 10
  deriving DecidableEq, Repr

/-- The weights and caps of the factors, none negative. -/
structure RiskWeights where
  wDiscountMax : ℚ≥0 := (5 : ℕ)
  wDiscountWeighted : ℚ≥0 := (2 : ℕ)
  wDiscountRatio : ℚ≥0 := (10 : ℕ)
  discountCap : ℚ≥0 := (60 : ℕ)
  wMargin : ℚ≥0 := (3 : ℕ)
  marginCap : ℚ≥0 := (25 : ℕ)
  invSplitPoints : ℚ≥0 := (8 : ℕ)
  invBackorderPoints : ℚ≥0 := (20 : ℕ)
  invCap : ℚ≥0 := (20 : ℕ)

/-! ## Overage per line -/

structure LineOverage where
  line : DealLineContext
  effective : ℚ
  overage : ℚ
  listAmt : ℚ
  weight : ℚ
  deriving DecidableEq, Repr

/-- The discount of a line once the order discount is applied on top. -/
def effectiveDiscount (ctx : DealContext) (l : DealLineContext) : ℚ :=
  quantizeDec
    (if 0 < ctx.orderDiscountPct then
      100 * (1 - (1 - l.discountPct / 100) * (1 - ctx.orderDiscountPct / 100))
    else l.discountPct) 4

def totalList (ctx : DealContext) : ℚ :=
  (ctx.lines.map fun l => l.qty * l.priceUnit).sum

/-- The ceiling of a line, the tier's default where none is set. -/
def ceilingOf (ctx : DealContext) (lineCeilings : ℤ → Option ℚ) (l : DealLineContext) : ℚ :=
  (lineCeilings l.lineId).getD ctx.tierDefaultCeiling

def lineOverage (ctx : DealContext) (lineCeilings : ℤ → Option ℚ) (l : DealLineContext) :
    LineOverage :=
  let eff := effectiveDiscount ctx l
  let listAmt := l.qty * l.priceUnit
  { line := l
    effective := eff
    overage := quantizeDec (max 0 (eff - ceilingOf ctx lineCeilings l)) 4
    listAmt
    weight := if 0 < totalList ctx then decimal28 (listAmt / totalList ctx) else 0 }

/-- `o["overage"] * o["weight"]` -/
def LineOverage.weighted (o : LineOverage) : ℚ :=
  decimal28 (o.overage * o.weight)

def lineOverages (ctx : DealContext) (lineCeilings : ℤ → Option ℚ) : List LineOverage :=
  ctx.lines.map (lineOverage ctx lineCeilings)

def maxOverage (os : List LineOverage) : ℚ :=
  (os.map (·.overage)).max?.getD 0

def weightedOverage (os : List LineOverage) : ℚ :=
  runningSum decimal28 (os.map (·.weighted))

def violatingLines (os : List LineOverage) : List LineOverage :=
  os.filter fun o => 0 < o.overage

def violationRatio (os : List LineOverage) : ℚ :=
  if 0 < os.length then decimal28 ((violatingLines os).length / os.length) else 0

/-! ## The discount factor -/

/-- `raw_disc_excess` -/
def rawDiscExcess (weights : RiskWeights) (maxOverage weightedOverage violationRatio : ℚ) : ℚ :=
  decimal28
    (decimal28 (decimal28 (weights.wDiscountMax * maxOverage) +
        decimal28 (weights.wDiscountWeighted * weightedOverage)) +
      decimal28 (weights.wDiscountRatio * violationRatio))

/-- The points of the discount factor as a whole. -/
def discountExcessContrib (weights : RiskWeights) (os : List LineOverage) : ℚ :=
  quantizeDec
    (min weights.discountCap
      (rawDiscExcess weights (maxOverage os) (weightedOverage os) (violationRatio os)))

/-- The running values of the loop that apportions the discount factor. -/
structure ApportionState where
  factors : List RiskFactorDetail := []
  accumContrib : ℚ := 0
  maxLineEntry : Option ℕ := none
  highestOverage : ℚ := -1

/-- The share of one violating line. -/
def overageShare (violating : List LineOverage) (o : LineOverage) : ℚ :=
  if 0 < weightedOverage violating then decimal28 (o.weighted / weightedOverage violating)
  else decimal28 (1 / violating.length)

def apportionLine (weights : RiskWeights) (contrib : ℚ) (violating : List LineOverage)
    (s : ApportionState) (o : LineOverage) : ApportionState :=
  let lineContrib := quantizeDec (decimal28 (contrib * overageShare violating o))
  let higher : Bool := s.highestOverage < o.overage
  { factors := s.factors ++
      [{ factorType := .discountExcess
         sourceReference := s!"line:{o.line.lineId}"
         rawValue := o.overage
         weight := weights.wDiscountMax
         contribution := lineContrib }]
    accumContrib := s.accumContrib + lineContrib
    maxLineEntry := if higher then some s.factors.length else s.maxLineEntry
    highestOverage := if higher then o.overage else s.highestOverage }

/-- The discount factor apportioned to the violating lines, what rounding left over going to the
line with the largest overage. -/
def discountFactors (weights : RiskWeights) (os : List LineOverage) : List RiskFactorDetail :=
  let contrib := discountExcessContrib weights os
  if 0 < contrib then
    let violating := violatingLines os
    let s := violating.foldl (apportionLine weights contrib violating) {}
    let diff := contrib - s.accumContrib
    match s.maxLineEntry with
    | some entry =>
        if diff ≠ 0 then
          s.factors.modify entry fun f => { f with contribution := f.contribution + diff }
        else s.factors
    | none => s.factors
  else []

/-! ## The other factors -/

def totalNet (os : List LineOverage) : ℚ :=
  (os.map fun o => o.listAmt * (1 - o.effective / 100)).sum

def dealMarginPct (os : List LineOverage) : ℚ :=
  let net := totalNet os
  let margin := net - (os.map (·.line.costSubtotal)).sum
  quantizeDec (if 0 < net then margin / net * 100 else 0)

def marginFactors (weights : RiskWeights) (policy : RiskPolicy) (marginPct : ℚ) :
    List RiskFactorDetail :=
  if marginPct < policy.minimumMarginPct then
    let marginGap := policy.minimumMarginPct - marginPct
    [{ factorType := .marginExposure
       sourceReference := "deal:margin"
       rawValue := marginGap
       weight := weights.wMargin
       contribution := min weights.marginCap (quantizeDec (weights.wMargin * marginGap)) }]
  else []

/-- The inventory points after looking at one more line. -/
def inventoryPoints (weights : RiskWeights) (points : ℚ) (l : DealLineContext) : ℚ :=
  if isStockable l.productType then
    if l.availableQty < truncDec l.qty then max points weights.invBackorderPoints
    else if l.inventoryShortage then max points weights.invSplitPoints
    else points
  else points

def inventoryFactors (weights : RiskWeights) (lines : List DealLineContext) :
    List RiskFactorDetail :=
  let points := min (weights.invCap : ℚ) (lines.foldl (inventoryPoints weights) 0)
  if 0 < points then
    [{ factorType := .inventoryRisk
       sourceReference := "warehouse:inventory"
       rawValue := points
       weight := 1
       contribution := points }]
  else []

def negotiationFactors (hasOpenNegotiationCounter : Bool) : List RiskFactorDetail :=
  if hasOpenNegotiationCounter then
    [{ factorType := .negotiationPressure
       sourceReference := "negotiation:counter"
       rawValue := 1
       weight := 5
       contribution := 5 }]
  else []

/-! ## Score and level -/

def severityBand (policy : RiskPolicy) (riskScore : ℚ) : RiskSeverity :=
  if riskScore < policy.managerThreshold then .low
  else if riskScore ≤ policy.financeThreshold then .medium
  else .high

def routingLevel (policy : RiskPolicy) (riskScore overage : ℚ) : ApprovalLevel × String :=
  if overage = 0 ∧ riskScore < policy.managerThreshold then (.none, "AUTO_APPROVED")
  else if policy.financeThreshold < riskScore ∨ policy.singleLineFinancePts ≤ overage then
    (.managerAndFinance, "FINANCE_APPROVAL_REQUIRED")
  else (.manager, "MANAGER_APPROVAL_REQUIRED")

def calculateDealRisk (ctx : DealContext) (lineCeilings : ℤ → Option ℚ)
    (policy : RiskPolicy := {}) (weights : RiskWeights := {})
    (hasOpenNegotiationCounter : Bool := false) : RiskCalculationResult :=
  let os := lineOverages ctx lineCeilings
  let marginPct := dealMarginPct os
  let factors := discountFactors weights os ++ marginFactors weights policy marginPct ++
    inventoryFactors weights ctx.lines ++ negotiationFactors hasOpenNegotiationCounter
  let riskScore := min 100 (quantizeDec (factors.map (·.contribution)).sum)
  let level := routingLevel policy riskScore (maxOverage os)
  { riskScore
    severity := severityBand policy riskScore
    requiredLevel := level.1
    decision := level.2
    factors
    maxOverage := maxOverage os
    weightedOverage := weightedOverage os
    violationRatio := violationRatio os
    marginPct
    minimumMarginPct := policy.minimumMarginPct }

end DealFlow
