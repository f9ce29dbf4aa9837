import DealFlow.Models.Enums
import Mathlib.Data.Rat.Defs

/-!
# The rows of one deal

`DealStore` holds a deal and the rows that refer to it: risk assessments, approval requests and
actions, negotiations, portal comments, recommendations, audit events, notifications and processed
webhook events.  Every query of the services filters by the deal or goes through one of its rows, so
one deal is an aggregate of its own.

Row ids are random UUIDs in the source.  Here `nextId` counts them off, so a new row's id differs
from those of the rows there are.  A time stamp is the `utc_now()` of the operation writing it.
-/

namespace DealFlow

abbrev Timestamp := ℤ

structure Deal where
  id : ℕ
  reference : String
  odooSaleOrderId : ℤ
  odooOrderName : String
  odooPartnerId : ℤ
  partnerNameCache : String
  ownerOdooUserId : ℤ
  currencyCode : String := "INR"
  status : DealStatus := .draft
  approvalState : ApprovalState := .notEvaluated
  currentRiskScore : Option ℚ := none
  currentSeverity : Option RiskSeverity := none
  currentAssessmentId : Option ℕ := none
  approvedAssessmentId : Option ℕ := none
  requiredLevel : ApprovalLevel := .none
  orderDiscountPct : ℚ := 0
  amountTotalCache : ℚ := 0
  amountUntaxedCache : ℚ := 0
  marginPctCache : ℚ := 0
  oneTimeTotalCache : ℚ := 0
  recurringFirstCycleTotalCache : ℚ := 0
  customerConfirmedPending : Bool := false
  sentAt : Option Timestamp := none
  confirmedAt : Option Timestamp := none
  promisedDeliveryDate : Option Timestamp := none
  createdAt : Timestamp := 0
  lastActivityAt : Timestamp := 0
  lastSyncedAt : Timestamp := 0
  version : ℤ := 1
  deriving DecidableEq, Repr

/-- A line as an assessment records it. -/
structure LineSnapshot where
  lineId : ℤ
  productId : ℤ
  productName : String
  qty : ℚ
  priceUnit : ℚ
  discountPct : ℚ
  subtotal : ℚ
  cost : ℚ
  marginPct : ℚ
  deriving DecidableEq, Repr

structure AssessmentTotals where
  amountUntaxed : ℚ
  amountTotal : ℚ
  totalCost : ℚ
  totalMarginPct : ℚ
  blendedDiscountPct : ℚ
  deriving DecidableEq, Repr

structure RiskAssessment where
  id : ℕ
  riskScore : ℚ
  severity : RiskSeverity
  requiredLevel : ApprovalLevel
  decision : String
  triggerType : TriggerType
  lineSnapshot : List LineSnapshot
  totals : AssessmentTotals
  calculatedAt : Timestamp
  deriving DecidableEq, Repr

structure RiskFactor where
  riskAssessmentId : ℕ
  factorType : RiskFactorType
  sourceReference : String
  rawValue : ℚ
  weight : ℚ
  contribution : ℚ
  deriving DecidableEq, Repr

structure ApprovalRequest where
  id : ℕ
  riskAssessmentId : ℕ
  requiredLevel : ApprovalStage
  sequence : ℕ
  status : ApprovalRequestStatus
  requestedAt : Timestamp
  completedAt : Option Timestamp := none
  decidedByOdooUserId : Option ℤ := none
  decisionReason : Option String := none
  deriving DecidableEq, Repr

structure ApprovalAction where
  approvalRequestId : ℕ
  actorOdooUserId : ℤ
  actorRole : Role
  action : ApprovalActionType
  reason : Option String
  createdAt : Timestamp
  deriving DecidableEq, Repr

/-- What a negotiation change asks to alter. -/
inductive ChangeField
  | productUomQty | discount | removeLine | addProduct
  deriving DecidableEq, Repr

structure NegotiationChange where
  odooSaleOrderLineId : Option ℤ
  fieldName : ChangeField
  requestedValue : Option ℚ
  deriving DecidableEq, Repr

structure NegotiationRequest where
  id : ℕ
  customerPartnerId : ℤ
  requestedByOdooUserId : ℤ
  type : String
  status : NegotiationRequestStatus
  message : Option String
  basedOnAssessmentId : Option ℕ
  createdAt : Timestamp
  counterValue : Option ℚ
  processedAt : Option Timestamp := none
  processedByOdooUserId : Option ℤ := none
  responseMessage : Option String := none
  appliedAssessmentId : Option ℕ := none
  changes : List NegotiationChange := []
  deriving DecidableEq, Repr

structure Recommendation where
  id : ℕ
  odooProductId : ℤ
  productNameCache : String
  status : RecommendationStatus := .active
  addedAt : Option Timestamp := none
  dismissedAt : Option Timestamp := none
  deriving DecidableEq, Repr

structure PortalComment where
  id : ℕ
  odooSaleOrderLineId : Option ℤ
  authorOdooUserId : ℤ
  authorRole : Role
  body : String
  isInternal : Bool
  createdAt : Timestamp
  deriving DecidableEq, Repr

structure AuditEvent where
  eventType : AuditEventType
  entityType : String
  entityId : String
  actorType : String
  actorId : Option ℤ := none
  actorRole : Option Role := none
  sourceEventId : Option String := none
  createdAt : Timestamp
  deriving DecidableEq, Repr

structure Notification where
  recipientOdooUserId : ℤ
  type : String
  title : String
  body : String
  entityType : String
  entityId : String
  dedupeKey : Option String := none
  createdAt : Timestamp
  deriving DecidableEq, Repr

structure DealStore where
  deal : Deal
  assessments : List RiskAssessment := []
  factors : List RiskFactor := []
  requests : List ApprovalRequest := []
  actions : List ApprovalAction := []
  negotiations : List NegotiationRequest := []
  comments : List PortalComment := []
  recommendations : List Recommendation := []
  auditEvents : List AuditEvent := []
  notifications : List Notification := []
  processedEvents : List String := []
  nextId : ℕ
  deriving DecidableEq, Repr

/-- A user acting on a deal. -/
structure DealflowUser where
  odooUserId : ℤ
  role : Role
  deriving DecidableEq, Repr

/-! ## Exceptions -/

structure DealFlowException where
  code : String
  message : String
  deriving DecidableEq, Repr

def notFoundError (message : String) : DealFlowException :=
  { code := "NOT_FOUND", message }

def entityNotFoundError (entityName entityId : String) : DealFlowException :=
  { code := "ENTITY_NOT_FOUND", message := s!"{entityName} with ID '{entityId}' not found." }

def businessRuleError (code message : String) : DealFlowException :=
  { code, message }

def versionConflictError (currentVersion attemptedVersion : ℤ) : DealFlowException :=
  { code := "STALE_VERSION"
    message := s!"Quotation has been modified by another transaction. Expected version {attemptedVersion}, found {currentVersion}." }

def forbiddenError (message : String) : DealFlowException :=
  { code := "FORBIDDEN", message }

/-! ## Queries and updates -/

namespace DealStore

def findRequest (db : DealStore) (requestId : ℕ) : Option ApprovalRequest :=
  db.requests.find? fun r => r.id = requestId

def findAssessment (db : DealStore) (assessmentId : ℕ) : Option RiskAssessment :=
  db.assessments.find? fun a => a.id = assessmentId

/-- The requests still waiting for a decision. -/
def pendingRequests (db : DealStore) : List ApprovalRequest :=
  db.requests.filter fun r => r.status = .pending

/-- The assessment the deal stands under now. -/
def currentAssessment (db : DealStore) : Option RiskAssessment :=
  db.deal.currentAssessmentId.bind db.findAssessment

/-- The assessment whose terms were approved last. -/
def approvedAssessment (db : DealStore) : Option RiskAssessment :=
  db.deal.approvedAssessmentId.bind db.findAssessment

/-- Rewrite the rows of one request. -/
def updateRequest (db : DealStore) (requestId : ℕ) (f : ApprovalRequest → ApprovalRequest) :
    DealStore :=
  { db with requests := db.requests.map fun r => if r.id = requestId then f r else r }

def updateDeal (db : DealStore) (f : Deal → Deal) : DealStore :=
  { db with deal := f db.deal }

def addRequest (db : DealStore) (request : ApprovalRequest) : DealStore :=
  { db with requests := db.requests ++ [request], nextId := db.nextId + 1 }

/-- `audit_service.record_audit_event`: the event is stored and counts as activity of the deal. -/
def recordAuditEvent (db : DealStore) (event : AuditEvent) : DealStore :=
  { db with
    auditEvents := db.auditEvents ++ [event]
    deal := { db.deal with lastActivityAt := event.createdAt } }

/-- Events recorded one after another: nothing else of the store changes. -/
theorem foldl_recordAuditEvent {α : Type} (event : α → AuditEvent) (rows : List α)
    (db : DealStore) :
    rows.foldl (fun acc r => acc.recordAuditEvent (event r)) db =
      { db with
        auditEvents := db.auditEvents ++ rows.map event
        deal :=
          { db.deal with
            lastActivityAt :=
              rows.foldl (fun _ r => (event r).createdAt) db.deal.lastActivityAt } } := by
  induction rows generalizing db with
  | nil =>
      rw [List.map_nil, List.append_nil]
      rfl
  | cons r rows ih =>
      rw [List.foldl_cons, ih, List.map_cons, List.append_cons]
      rfl

/-- `notification_service.create_notification`: a dedupe key already used suppresses the row. -/
def createNotification (db : DealStore) (notification : Notification) : DealStore :=
  if notification.dedupeKey.isSome ∧
      (db.notifications.any fun n => n.dedupeKey = notification.dedupeKey) then db
  else { db with notifications := db.notifications ++ [notification] }

end DealStore

/-- A notification to the owner of the deal. -/
def ownerNotification (deal : Deal) (type title body : String) (dedupeKey : Option String)
    (now : Timestamp) : Notification :=
  { recipientOdooUserId := deal.ownerOdooUserId
    type
    title
    body
    entityType := "deal"
    entityId := toString deal.id
    dedupeKey
    createdAt := now }

end DealFlow
