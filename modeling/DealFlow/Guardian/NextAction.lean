import DealFlow.Lib.Significant
import DealFlow.Models.Enums

/-!
# The next best action

`determine_next_best_action` of `app/guardian/next_action.py`: thirteen rules in a fixed order, the
first that matches wins.
-/

namespace DealFlow

open Lib

/-- The best active recommendation, as the dictionary the rules are given. -/
structure TopRecommendation where
  id : ℕ
  productId : ℤ
  productName : String
  score : ℚ
  projectedMarginDelta : ℚ
  deriving DecidableEq, Repr

inductive PayloadValue
  | null
  | text (s : String)
  | integer (n : ℤ)
  | number (x : ℚ)
  | flag (b : Bool)
  | recommendation (rec : TopRecommendation)
  deriving DecidableEq, Repr

structure NextBestAction where
  type : NextBestActionType
  priority : String
  title : String
  explanation : String
  payload : List (String × PayloadValue) := []
  ctaEndpoint : Option String := none
  deriving DecidableEq, Repr

structure NextActionArgs where
  dealId : Option ℕ := none
  approvalState : ApprovalState := .notEvaluated
  dealStatus : DealStatus := .draft
  justInvalidated : Bool := false
  openNegotiationRequests : ℕ := 0
  maxOverage : ℚ := 0
  worstLineId : Option ℤ := none
  worstLineName : Option String := none
  worstLineCeiling : Option ℚ := none
  marginExposure : ℚ := 0
  topActiveRecommendation : Option TopRecommendation := none
  fulfillmentPlanStatus : Option FulfillmentPlanStatus := none
  hasConsolidatableBackorder : Bool := false
  daysSinceActivity : ℤ := 0
  stalledDays : ℤ := 7
  customerConfirmedPending : Bool := false
  userRole : Option Role := none
  deriving DecidableEq, Repr

def TopRecommendation.payload (rec : TopRecommendation) : List (String × PayloadValue) :=
  [("id", .text (toString rec.id)), ("product_id", .integer rec.productId),
    ("product_name", .text rec.productName), ("score", .number rec.score),
    ("projected_margin_delta", .number rec.projectedMarginDelta)]

namespace NextActionArgs

/-- A page of the deal, the fallback where the deal is not known. -/
def dealPage (a : NextActionArgs) (page fallback : String) : Option String :=
  match a.dealId with
  | none => some fallback
  | some id => some s!"/deals/{id}{page}"

def financeApprovalRequired (a : NextActionArgs) : NextBestAction :=
  { type :=
      if a.userRole ∈ [some .finance, some .admin] then .awaitingApprover
      else .financeApprovalRequired
    priority := "HIGH"
    title := "Finance Approval Required"
    explanation :=
      "Deal requires finance approval due to elevated risk or major line discount overage."
    payload :=
      [("approval_state", .text a.approvalState.value), ("required_level", .text "FINANCE")]
    ctaEndpoint := some "/approvals/inbox" }

def managerApprovalRequired (a : NextActionArgs) : NextBestAction :=
  { type :=
      if a.userRole ∈ [some .salesManager, some .admin] then .awaitingApprover
      else .managerApprovalRequired
    priority := "HIGH"
    title := "Manager Approval Required"
    explanation :=
      "Deal discount exceeds sales rep policy ceiling; manager approval required."
    payload :=
      [("approval_state", .text a.approvalState.value), ("required_level", .text "SALES_MANAGER")]
    ctaEndpoint := some "/approvals/inbox" }

def reapprovalRequired (a : NextActionArgs) : NextBestAction :=
  { type := .reapprovalRequired
    priority := "HIGH"
    title := "Re-approval Required"
    explanation :=
      "Deal terms were modified materially after prior approval; " ++
        "deal must be re-evaluated and approved."
    payload := [("deal_id", .text ((a.dealId.map toString).getD ""))]
    ctaEndpoint := a.dealPage "/evaluate" "/deals" }

def respondToCustomer (a : NextActionArgs) : NextBestAction :=
  { type := .respondToCustomer
    priority := "HIGH"
    title := "Respond to Customer Negotiation"
    explanation :=
      s!"Customer has submitted {a.openNegotiationRequests} open negotiation request(s) via portal."
    payload := [("open_requests_count", .integer a.openNegotiationRequests)]
    ctaEndpoint := a.dealPage "/negotiations" "/negotiations" }

def reduceDiscount (a : NextActionArgs) : NextBestAction :=
  let targetDiscount := a.worstLineCeiling.getD 0
  let lineDesc := (a.worstLineName.filter (· ≠ "")).getD "discounted item"
  { type := .reduceDiscount
    priority := "HIGH"
    title := s!"Reduce Discount on {lineDesc}"
    explanation :=
      s!"Discount on {lineDesc} exceeds policy ceiling. " ++
        s!"Reduce discount to {oneDecimal targetDiscount}% to clear approval gate."
    payload :=
      [("line_id", (a.worstLineId.map .integer).getD .null),
        ("product_name", (a.worstLineName.map .text).getD .null),
        ("target_discount_pct", .number targetDiscount), ("max_overage", .number a.maxOverage)]
    ctaEndpoint := a.dealPage "" "/deals" }

def restoreMargin (a : NextActionArgs) : NextBestAction :=
  { type := .restoreMargin
    priority := "MEDIUM"
    title := "Restore Deal Margin"
    explanation :=
      "Deal gross margin is below policy floor. " ++
        "Attach recommended high-margin products to lift overall profitability."
    payload :=
      [("margin_exposure", .number a.marginExposure),
        ("top_recommendation", (a.topActiveRecommendation.map .recommendation).getD .null)]
    ctaEndpoint := a.dealPage "/recommendations" "/recommendations" }

def acceptFulfillmentPlan (a : NextActionArgs) : NextBestAction :=
  { type := .acceptFulfillmentPlan
    priority := "MEDIUM"
    title := "Accept Fulfillment Plan"
    explanation :=
      "Multi-warehouse fulfillment plan proposed for confirmed deal. " ++
        "Accept plan to lock inventory routing."
    payload :=
      [("fulfillment_status", (a.fulfillmentPlanStatus.map fun s => .text s.value).getD .null)]
    ctaEndpoint := a.dealPage "/fulfillment/accept" "/fulfillment" }

def consolidateBackorder (a : NextActionArgs) : NextBestAction :=
  { type := .consolidateBackorder
    priority := "MEDIUM"
    title := "Consolidate Restocked Backorder"
    explanation :=
      "Warehouse inventory restocked. " ++
        "Consolidate outstanding backorder to complete customer shipment."
    ctaEndpoint := a.dealPage "/fulfillment/consolidate" "/fulfillment" }

def sendToCustomer (a : NextActionArgs) : NextBestAction :=
  { type := .sendToCustomer
    priority := "MEDIUM"
    title := "Send Quote to Customer"
    explanation :=
      "Deal quotation is compliant and approved. Ready to be sent to customer for review."
    payload := [("approval_state", .text a.approvalState.value)]
    ctaEndpoint := a.dealPage "/send" "/deals" }

def followUpCustomer (a : NextActionArgs) : NextBestAction :=
  { type := .followUpCustomer
    priority := "MEDIUM"
    title := "Follow Up with Customer"
    explanation :=
      s!"Quotation sent {a.daysSinceActivity} days ago with no customer interaction."
    payload :=
      [("days_since_activity", .integer a.daysSinceActivity),
        ("stalled_threshold", .integer a.stalledDays)]
    ctaEndpoint := a.dealPage "" "/deals" }

def confirmOrder (a : NextActionArgs) : NextBestAction :=
  { type := .confirmOrder
    priority := "HIGH"
    title := "Confirm Customer Order"
    explanation :=
      "Customer accepted quotation terms via portal. " ++
        "Finalize order confirmation and trigger fulfillment."
    payload := [("customer_confirmed_pending", .flag true)]
    ctaEndpoint := a.dealPage "/confirm" "/deals" }

def addRecommendation (a : NextActionArgs) (rec : TopRecommendation) : NextBestAction :=
  { type := .addRecommendation
    priority := "LOW"
    title := s!"Add Recommendation: {rec.productName}"
    explanation :=
      s!"Accretive recommendation available with {floatText rec.projectedMarginDelta}% margin lift."
    payload := rec.payload
    ctaEndpoint := a.dealPage "/recommendations" "/recommendations" }

end NextActionArgs

/-- Rule 13, where no other matches. -/
def noAction : NextBestAction :=
  { type := .none
    priority := "LOW"
    title := "No Immediate Action Required"
    explanation := "Deal is progressing normally along its lifecycle." }

/-- The states in which a deal needs no approval any more. -/
def ApprovalState.cleared (state : ApprovalState) : Bool :=
  state = .approved ∨ state = .evaluatedNoApproval

def determineNextBestAction (a : NextActionArgs) : NextBestAction :=
  if a.approvalState = .pendingFinance then a.financeApprovalRequired
  else if a.approvalState = .pendingManager then a.managerApprovalRequired
  else if a.justInvalidated = true ∨ a.approvalState = .invalidated then a.reapprovalRequired
  else if 0 < a.openNegotiationRequests then a.respondToCustomer
  else if (a.approvalState = .returned ∨ a.approvalState = .rejected) ∧ 0 < a.maxOverage then
    a.reduceDiscount
  else if 0 < a.marginExposure then a.restoreMargin
  else if a.fulfillmentPlanStatus = some .proposed ∧ a.dealStatus = .confirmed then
    a.acceptFulfillmentPlan
  else if a.hasConsolidatableBackorder then a.consolidateBackorder
  else if a.dealStatus = .draft ∧ a.approvalState.cleared then a.sendToCustomer
  else if a.dealStatus = .sent ∧ a.stalledDays ≤ a.daysSinceActivity then a.followUpCustomer
  else if a.customerConfirmedPending ∧ a.approvalState.cleared then a.confirmOrder
  else
    match a.topActiveRecommendation with
    | some rec => a.addRecommendation rec
    | none => noAction

/-! ## Where re-approval is asked for -/

theorem financeApprovalRequired_type (a : NextActionArgs) :
    a.financeApprovalRequired.type ≠ .reapprovalRequired := by
  change (if _ then _ else _ : NextBestActionType) ≠ _
  split <;> exact nofun

theorem managerApprovalRequired_type (a : NextActionArgs) :
    a.managerApprovalRequired.type ≠ .reapprovalRequired := by
  change (if _ then _ else _ : NextBestActionType) ≠ _
  split <;> exact nofun

/-- A rule that asks for something else passes the question on to the rules after it. -/
theorem nextRule_type {matched : Prop} [Decidable matched] {rule rest : NextBestAction}
    (other : rule.type ≠ .reapprovalRequired) (later : rest.type ≠ .reapprovalRequired) :
    (if matched then rule else rest).type ≠ .reapprovalRequired := by
  by_cases here : matched
  · rwa [if_pos here]
  · rwa [if_neg here]

/-- Re-approval is asked for exactly where the third rule is reached and matches. -/
theorem determineNextBestAction_reapproval_iff (a : NextActionArgs) :
    (determineNextBestAction a).type = .reapprovalRequired ↔
      a.approvalState ≠ .pendingFinance ∧ a.approvalState ≠ .pendingManager ∧
        (a.justInvalidated = true ∨ a.approvalState = .invalidated) := by
  unfold determineNextBestAction
  by_cases finance : a.approvalState = .pendingFinance
  · rw [if_pos finance]
    exact iff_of_false (financeApprovalRequired_type a) fun h => h.1 finance
  rw [if_neg finance]
  by_cases manager : a.approvalState = .pendingManager
  · rw [if_pos manager]
    exact iff_of_false (managerApprovalRequired_type a) fun h => h.2.1 manager
  rw [if_neg manager]
  by_cases third : a.justInvalidated = true ∨ a.approvalState = .invalidated
  · rw [if_pos third]
    exact iff_of_true rfl ⟨finance, manager, third⟩
  rw [if_neg third]
  refine iff_of_false ?_ fun h => third h.2.2
  -- no later rule asks for it
  iterate 8 refine nextRule_type nofun ?_
  cases a.topActiveRecommendation <;> exact nofun

end DealFlow
