/-!
# Enumerations

The enumerations of `app/models/enums.py` that the governed operations use.  A row stores the
`value` of an enumeration member; the rows here hold the member itself.
-/

namespace DealFlow

inductive Role
  | admin | salesManager | salesRep | finance | customer
  deriving DecidableEq, Repr

def Role.value : Role → String
  | .admin => "ADMIN"
  | .salesManager => "SALES_MANAGER"
  | .salesRep => "SALES_REP"
  | .finance => "FINANCE"
  | .customer => "CUSTOMER"

inductive DealStatus
  | draft | sent | underNegotiation | confirmed | inFulfillment | fulfilled | invoiced | paid
  | cancelled | expired
  deriving DecidableEq, Repr

def DealStatus.value : DealStatus → String
  | .draft => "DRAFT"
  | .sent => "SENT"
  | .underNegotiation => "UNDER_NEGOTIATION"
  | .confirmed => "CONFIRMED"
  | .inFulfillment => "IN_FULFILLMENT"
  | .fulfilled => "FULFILLED"
  | .invoiced => "INVOICED"
  | .paid => "PAID"
  | .cancelled => "CANCELLED"
  | .expired => "EXPIRED"

inductive ApprovalState
  | notEvaluated | evaluatedNoApproval | pendingManager | pendingFinance | approved | rejected
  | returned | invalidated
  deriving DecidableEq, Repr

def ApprovalState.value : ApprovalState → String
  | .notEvaluated => "NOT_EVALUATED"
  | .evaluatedNoApproval => "EVALUATED_NO_APPROVAL"
  | .pendingManager => "PENDING_MANAGER"
  | .pendingFinance => "PENDING_FINANCE"
  | .approved => "APPROVED"
  | .rejected => "REJECTED"
  | .returned => "RETURNED"
  | .invalidated => "INVALIDATED"

inductive ApprovalLevel
  | none | manager | managerAndFinance
  deriving DecidableEq, Repr

inductive ApprovalRequestStatus
  | pending | approved | rejected | returned | invalidated | expired
  deriving DecidableEq, Repr

def ApprovalRequestStatus.value : ApprovalRequestStatus → String
  | .pending => "PENDING"
  | .approved => "APPROVED"
  | .rejected => "REJECTED"
  | .returned => "RETURNED"
  | .invalidated => "INVALIDATED"
  | .expired => "EXPIRED"

/-- The two values the `required_level` column of an approval request takes. -/
inductive ApprovalStage
  | salesManager | finance
  deriving DecidableEq, Repr

inductive ApprovalActionType
  | approve | reject | return | escalate | invalidate
  deriving DecidableEq, Repr

inductive RiskSeverity
  | low | medium | high
  deriving DecidableEq, Repr

inductive RiskFactorType
  | discountExcess | marginExposure | inventoryRisk | approvalDelay | negotiationPressure
  deriving DecidableEq, Repr

inductive TriggerType
  | dealCreated | discountChanged | lineAdded | lineRemoved | quantityChanged
  | customerNegotiated | negotiationAccepted | approvalCompleted | stockChanged | orderStalled
  | manual | sync
  deriving DecidableEq, Repr

inductive MaterialChangeKind
  | discount | quantity | lineAdded | lineRemoved | customerCounter | paymentTerms
  | subscriptionTerms | fulfillmentRisk
  deriving DecidableEq, Repr

inductive NegotiationRequestType
  | comment | qtyChange | removeLine | addLine | counterDiscount
  deriving DecidableEq, Repr

def NegotiationRequestType.value : NegotiationRequestType → String
  | .comment => "COMMENT"
  | .qtyChange => "QTY_CHANGE"
  | .removeLine => "REMOVE_LINE"
  | .addLine => "ADD_LINE"
  | .counterDiscount => "COUNTER_DISCOUNT"

inductive NegotiationRequestStatus
  | open | accepted | rejected | countered | withdrawn
  deriving DecidableEq, Repr

def NegotiationRequestStatus.value : NegotiationRequestStatus → String
  | .open => "OPEN"
  | .accepted => "ACCEPTED"
  | .rejected => "REJECTED"
  | .countered => "COUNTERED"
  | .withdrawn => "WITHDRAWN"

inductive RecommendationStatus
  | active | added | dismissed | expired
  deriving DecidableEq, Repr

def RecommendationStatus.value : RecommendationStatus → String
  | .active => "ACTIVE"
  | .added => "ADDED"
  | .dismissed => "DISMISSED"
  | .expired => "EXPIRED"

inductive FulfillmentPlanStatus
  | proposed | accepted | overridden | applied | superseded | cancelled
  deriving DecidableEq, Repr

def FulfillmentPlanStatus.value : FulfillmentPlanStatus → String
  | .proposed => "PROPOSED"
  | .accepted => "ACCEPTED"
  | .overridden => "OVERRIDDEN"
  | .applied => "APPLIED"
  | .superseded => "SUPERSEDED"
  | .cancelled => "CANCELLED"

inductive NextBestActionType
  | financeApprovalRequired | managerApprovalRequired | reduceDiscount | restoreMargin
  | reapprovalRequired | respondToCustomer | acceptFulfillmentPlan | consolidateBackorder
  | addRecommendation | sendToCustomer | followUpCustomer | confirmOrder | awaitingApprover | none
  deriving DecidableEq, Repr

inductive AuditEventType
  | dealSynced | riskRecalculated | approvalCreated | approvalApproved | approvalRejected
  | approvalReturned | approvalEscalated | approvalInvalidated | negotiationReceived
  | negotiationResponded | customerConfirmed | recommendationAdded | recommendationDismissed
  | orderSent | orderConfirmed | fulfillmentPlanned | fulfillmentAccepted
  | fulfillmentOverridden | fulfillmentApplied | fulfillmentReplanned | paymentReceived
  deriving DecidableEq, Repr

end DealFlow
