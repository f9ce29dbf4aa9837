import DealFlow.Models.Store

/-!
# Approval routing

`app/guardian/approval_routing.py`: after an evaluation, keep a covered approval, else invalidate
what is pending and start the chain anew at the sales manager, if any approval is required.
-/

namespace DealFlow

/-- Close every pending request as superseded, with an audit event each. -/
def invalidatePending (db : DealStore) (now : Timestamp) : DealStore :=
  let closed : DealStore :=
    { db with
      requests := db.requests.map fun r =>
        if r.status = .pending then
          { r with
            status := .invalidated
            completedAt := some now
            decisionReason := some "Superseded by re-evaluation" }
        else r }
  db.pendingRequests.foldl
    (fun acc r => acc.recordAuditEvent
      { eventType := .approvalInvalidated
        entityType := "approval_request"
        entityId := toString r.id
        actorType := "SYSTEM"
        createdAt := now })
    closed

/-- Open the first stage of the approval chain for an assessment. -/
def openManagerStage (db : DealStore) (riskAssessmentId : ℕ) (now : Timestamp) : DealStore :=
  let opened := db.addRequest
    { id := db.nextId
      riskAssessmentId
      requiredLevel := .salesManager
      sequence := 1
      status := .pending
      requestedAt := now }
  (opened.updateDeal fun d => { d with approvalState := .pendingManager }).recordAuditEvent
    { eventType := .approvalCreated
      entityType := "approval_request"
      entityId := toString db.nextId
      actorType := "SYSTEM"
      createdAt := now }

def applyApprovalRouting (db : DealStore) (riskAssessmentId : ℕ) (requiredLevel : ApprovalLevel)
    (isCovered : Bool) (now : Timestamp) : DealStore :=
  if isCovered = true ∧ db.deal.approvalState = .approved then db
  else
    match requiredLevel with
    | .none =>
        (invalidatePending db now).updateDeal fun d =>
          { d with approvalState := .evaluatedNoApproval }
    | .manager | .managerAndFinance =>
        openManagerStage (invalidatePending db now) riskAssessmentId now

end DealFlow
