import DealFlow.Odoo.Interface

/-!
# Approval decisions

`decide_approval_request` of `app/services/approval_service.py`: guards on the request, the owner
and the actor's role, then one branch per action.  Only approving, rejecting and returning close the
request; an escalation is announced, and any other action is only recorded.

A decision whose guards raise leaves the store as it was.
-/

namespace DealFlow

def roleGuard (req : ApprovalRequest) (actor : DealflowUser) : Except DealFlowException Unit :=
  if actor.role = .admin then .ok ()
  else
    match req.requiredLevel with
    | .salesManager =>
        if actor.role = .salesManager then .ok ()
        else .error (forbiddenError "Only Sales Managers can decide stage 1 approval requests.")
    | .finance =>
        if actor.role = .finance then .ok ()
        else .error (forbiddenError "Only Finance can decide stage 2 approval requests.")

/-- The request to decide, once the guards have passed. -/
def guardDecision (db : DealStore) (requestId : ℕ) (actor : DealflowUser) :
    Except DealFlowException ApprovalRequest :=
  match db.findRequest requestId with
  | none => .error (entityNotFoundError "ApprovalRequest" (toString requestId))
  | some req =>
      if req.status ≠ .pending then
        .error (businessRuleError "REQUEST_NOT_PENDING"
          s!"Approval request is not pending (current status: {req.status.value}).")
      else if db.deal.ownerOdooUserId = actor.odooUserId then
        .error (businessRuleError "OWN_DEAL" "Sales reps cannot approve deals they own.")
      else
        match roleGuard req actor with
        | .error e => .error e
        | .ok () => .ok req

/-- A decided request. -/
def closeRequest (status : ApprovalRequestStatus) (actor : DealflowUser) (reason : Option String)
    (now : Timestamp) (req : ApprovalRequest) : ApprovalRequest :=
  { req with
    status
    completedAt := some now
    decidedByOdooUserId := some actor.odooUserId
    decisionReason := reason }

/-- The audit event of a decision. -/
def decisionEvent (eventType : AuditEventType) (req : ApprovalRequest) (actor : DealflowUser)
    (now : Timestamp) : AuditEvent :=
  { eventType
    entityType := "approval_request"
    entityId := toString req.id
    actorType := "USER"
    actorId := some actor.odooUserId
    actorRole := some actor.role
    createdAt := now }

/-- A reason as the notifications print it. -/
def reasonText (reason : Option String) : String :=
  match reason with
  | some text => if text = "" then "No reason specified" else text
  | none => "No reason specified"

/-- Hand the chain over to the finance stage. -/
def openFinanceStage (db : DealStore) (req : ApprovalRequest) (now : Timestamp) : DealStore :=
  let opened := db.addRequest
    { id := db.nextId
      riskAssessmentId := req.riskAssessmentId
      requiredLevel := .finance
      sequence := 2
      status := .pending
      requestedAt := now }
  (opened.updateDeal fun d =>
    { d with approvalState := .pendingFinance, lastActivityAt := now }).recordAuditEvent
    -- the new row has no id yet when the event is written
    { eventType := .approvalCreated
      entityType := "approval_request"
      entityId := "None"
      actorType := "SYSTEM"
      createdAt := now }

/-- Confirm the order of a deal the customer had accepted; a failure is swallowed. -/
def autoConfirm {σ : Type} (gateway : OdooGateway σ) (now : Timestamp) (w : World σ) : World σ :=
  if w.db.deal.customerConfirmedPending = true then
    match gateway.confirm w.db.deal.odooSaleOrderId w.odoo with
    | (.error _, odoo) => { w with odoo }
    | (.ok (), odoo) =>
        { db :=
            (w.db.updateDeal fun d =>
              { d with
                status := .confirmed
                confirmedAt := some now
                customerConfirmedPending := false }).recordAuditEvent
              { eventType := .orderConfirmed
                entityType := "deal"
                entityId := toString w.db.deal.id
                actorType := "SYSTEM"
                createdAt := now }
          odoo }
  else w

/-- The deal with its approval. -/
def grantApproval (req : ApprovalRequest) (now : Timestamp) (db : DealStore) : DealStore :=
  db.updateDeal fun d =>
    { d with
      approvalState := .approved
      approvedAssessmentId := some req.riskAssessmentId
      lastActivityAt := now }

/-- The last stage has approved: the deal is approved, the order unlocked and, if the customer
accepted it before, confirmed. -/
def finalApproval {σ : Type} (gateway : OdooGateway σ) (req : ApprovalRequest) (now : Timestamp)
    (w : World σ) : World σ :=
  let db := grantApproval req now w.db
  let odoo := (gateway.setGovernance db.deal.odooSaleOrderId ApprovalState.approved.value
    (db.deal.currentRiskScore.getD 0) false w.odoo).2
  let confirmed := autoConfirm gateway now { db, odoo }
  let deal := confirmed.db.deal
  { confirmed with
    db := confirmed.db.createNotification
      (ownerNotification deal "APPROVAL_APPROVED" s!"Deal {deal.reference} Approved"
        s!"Deal {deal.reference} ({deal.odooOrderName}) has received final governance approval."
        (some s!"app_approved_{deal.id}") now) }

def approveRequest {σ : Type} (gateway : OdooGateway σ) (req : ApprovalRequest)
    (actor : DealflowUser) (reason : Option String) (now : Timestamp) (w : World σ) : World σ :=
  let db := (w.db.updateRequest req.id (closeRequest .approved actor reason now)).recordAuditEvent
    (decisionEvent .approvalApproved req actor now)
  if db.deal.requiredLevel = .managerAndFinance ∧ req.requiredLevel = .salesManager then
    { w with db := openFinanceStage db req now }
  else finalApproval gateway req now { w with db }

/-- Close the request without approving: the deal takes `state`, and Odoo is told. -/
def declineRequest {σ : Type} (gateway : OdooGateway σ) (status : ApprovalRequestStatus)
    (state : ApprovalState) (locked : Bool) (event : AuditEventType)
    (notification : Deal → Notification) (req : ApprovalRequest) (actor : DealflowUser)
    (reason : Option String) (now : Timestamp) (w : World σ) : World σ :=
  let db := (w.db.updateRequest req.id (closeRequest status actor reason now)).updateDeal fun d =>
    { d with approvalState := state, lastActivityAt := now }
  let odoo := (gateway.setGovernance db.deal.odooSaleOrderId state.value
    (db.deal.currentRiskScore.getD 0) locked w.odoo).2
  { db := (db.recordAuditEvent (decisionEvent event req actor now)).createNotification
      (notification db.deal)
    odoo }

def rejectRequest {σ : Type} (gateway : OdooGateway σ) (req : ApprovalRequest)
    (actor : DealflowUser) (reason : Option String) (now : Timestamp) (w : World σ) : World σ :=
  declineRequest gateway .rejected .rejected true .approvalRejected
    (fun deal => ownerNotification deal "APPROVAL_REJECTED" s!"Deal {deal.reference} Rejected"
      s!"Deal {deal.reference} was rejected by {actor.role.value}: {reasonText reason}" none now)
    req actor reason now w

/-- Returning unlocks the order, so that the sales rep can revise it. -/
def returnRequest {σ : Type} (gateway : OdooGateway σ) (req : ApprovalRequest)
    (actor : DealflowUser) (reason : Option String) (now : Timestamp) (w : World σ) : World σ :=
  declineRequest gateway .returned .returned false .approvalReturned
    (fun deal => ownerNotification deal "APPROVAL_RETURNED" s!"Deal {deal.reference} Returned"
      s!"Deal {deal.reference} was returned for revisions: {reasonText reason}" none now)
    req actor reason now w

/-- An escalation keeps the request pending. -/
def escalateRequest (req : ApprovalRequest) (actor : DealflowUser) (reason : Option String)
    (now : Timestamp) (db : DealStore) : DealStore :=
  let db := (db.updateRequest req.id fun r => { r with decisionReason := reason }).recordAuditEvent
    (decisionEvent .approvalEscalated req actor now)
  db.createNotification
    (ownerNotification db.deal "APPROVAL_ESCALATED" s!"Deal {db.deal.reference} Escalated"
      s!"Deal {db.deal.reference} has been escalated: {reasonText reason}" none now)

def decideApprovalRequest {σ : Type} (gateway : OdooGateway σ) (requestId : ℕ)
    (actor : DealflowUser) (action : ApprovalActionType) (reason : Option String)
    (now : Timestamp) (w : World σ) : Except DealFlowException Unit × World σ :=
  match guardDecision w.db requestId actor with
  | .error e => (.error e, w)
  | .ok req =>
      let entry : ApprovalAction :=
        { approvalRequestId := req.id
          actorOdooUserId := actor.odooUserId
          actorRole := actor.role
          action
          reason
          createdAt := now }
      let w := { w with db := { w.db with actions := w.db.actions ++ [entry] } }
      match action with
      | .approve => (.ok (), approveRequest gateway req actor reason now w)
      | .reject => (.ok (), rejectRequest gateway req actor reason now w)
      | .return => (.ok (), returnRequest gateway req actor reason now w)
      | .escalate => (.ok (), { w with db := escalateRequest req actor reason now w.db })
      | .invalidate => (.ok (), w)

end DealFlow
