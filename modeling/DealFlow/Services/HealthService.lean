import DealFlow.Guardian.Evaluator
import DealFlow.Guardian.NextAction

/-!
# The next best action of a deal

`recompute_deal_health` of `app/services/health_service.py`, as far as it makes up the arguments of
`determine_next_best_action`, and step 13 of `evaluate_deal`, which calls it.

What it looks up in tables the deal's store does not hold in full (the detail of a discount factor,
plans, scores of recommendations) is a `HealthReading`, whichever that is.
-/

namespace DealFlow

open Lib

structure HealthReading where
  maxOverage : ℚ := 0
  worstLineId : Option ℤ := none
  worstLineName : Option String := none
  worstLineCeiling : Option ℚ := none
  topRec : Option TopRecommendation := none
  fulfillmentPlanStatus : Option FulfillmentPlanStatus := none
  hasConsolidatableBackorder : Bool := false
  deriving DecidableEq, Repr

/-- The days since the last activity on the deal, to two places. -/
def daysSinceActivity (deal : Deal) (now : Timestamp) : ℚ :=
  quantize 2 (max 0 (((now - deal.lastActivityAt : ℤ) : ℚ) / 86400))

def openNegotiationCount (db : DealStore) : ℕ :=
  (db.negotiations.filter fun n => n.status = .open).length

/-- The points of the margin factor of the current assessment. -/
def marginExposure (db : DealStore) : ℚ :=
  match db.currentAssessment with
  | none => 0
  | some assessment =>
      match db.factors.find? fun f =>
        f.riskAssessmentId = assessment.id ∧ f.factorType = .marginExposure with
      | none => 0
      | some factor => factor.contribution

def nextActionArgs (reading : HealthReading) (justInvalidated : Bool) (userRole : Option Role)
    (now : Timestamp) (db : DealStore) : NextActionArgs :=
  { dealId := some db.deal.id
    approvalState := db.deal.approvalState
    dealStatus := db.deal.status
    justInvalidated
    openNegotiationRequests := openNegotiationCount db
    maxOverage := reading.maxOverage
    worstLineId := reading.worstLineId
    worstLineName := reading.worstLineName
    worstLineCeiling := reading.worstLineCeiling
    marginExposure := marginExposure db
    topActiveRecommendation := reading.topRec
    fulfillmentPlanStatus := reading.fulfillmentPlanStatus
    hasConsolidatableBackorder := reading.hasConsolidatableBackorder
    daysSinceActivity := ⌊daysSinceActivity db.deal now⌋
    stalledDays := 7
    customerConfirmedPending := db.deal.customerConfirmedPending
    userRole }

def recomputeDealHealth (read : DealStore → Except DealFlowException HealthReading)
    (justInvalidated : Bool) (userRole : Option Role) (now : Timestamp) (db : DealStore) :
    Except DealFlowException NextBestAction :=
  match read db with
  | .error e => .error e
  | .ok reading =>
      .ok (determineNextBestAction (nextActionArgs reading justInvalidated userRole now db))

/-- The next best action an evaluation computes at its end, where it gets there.  An exception of
the computation is swallowed. -/
def evaluationNextAction {σ : Type} (gateway : OdooGateway σ)
    (read : DealStore → Except DealFlowException HealthReading) (args : EvaluateArgs)
    (w : World σ) : Option NextBestAction :=
  match evaluateDeal gateway args w with
  | (.error _, _) => none
  | (.ok _, evaluated) =>
      let isInvalidated : Bool := evaluated.db.deal.approvalState = .invalidated
      match recomputeDealHealth read isInvalidated args.actorRole args.now evaluated.db with
      | .error _ => none
      | .ok nba => some nba

end DealFlow
