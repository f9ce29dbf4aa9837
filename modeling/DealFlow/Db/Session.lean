import DealFlow.Models.Store

/-!
# Database sessions

`get_db` of `app/db/session.py` gives every request a session of its own.  The request works on the
rows it loaded; at the end its session writes what the request changed and commits, or rolls back.
An update writes the columns that differ from what was loaded, into the row as it is by then; a new
row is inserted.  No row is locked and no version is checked.  The one constraint that can refuse a
commit is that the dedupe keys of notifications are unique.

Only the tables that an evaluation or a decision writes are here.
-/

namespace DealFlow

/-- A column after the update of its row. -/
def flushColumn {α : Type} [DecidableEq α] (loaded now stored : α) : α :=
  if now = loaded then stored else now

def flushDeal (loaded now stored : Deal) : Deal :=
  { id := flushColumn loaded.id now.id stored.id
    reference := flushColumn loaded.reference now.reference stored.reference
    odooSaleOrderId :=
      flushColumn loaded.odooSaleOrderId now.odooSaleOrderId stored.odooSaleOrderId
    odooOrderName := flushColumn loaded.odooOrderName now.odooOrderName stored.odooOrderName
    odooPartnerId := flushColumn loaded.odooPartnerId now.odooPartnerId stored.odooPartnerId
    partnerNameCache :=
      flushColumn loaded.partnerNameCache now.partnerNameCache stored.partnerNameCache
    ownerOdooUserId :=
      flushColumn loaded.ownerOdooUserId now.ownerOdooUserId stored.ownerOdooUserId
    currencyCode := flushColumn loaded.currencyCode now.currencyCode stored.currencyCode
    status := flushColumn loaded.status now.status stored.status
    approvalState := flushColumn loaded.approvalState now.approvalState stored.approvalState
    currentRiskScore :=
      flushColumn loaded.currentRiskScore now.currentRiskScore stored.currentRiskScore
    currentSeverity :=
      flushColumn loaded.currentSeverity now.currentSeverity stored.currentSeverity
    currentAssessmentId :=
      flushColumn loaded.currentAssessmentId now.currentAssessmentId stored.currentAssessmentId
    approvedAssessmentId :=
      flushColumn loaded.approvedAssessmentId now.approvedAssessmentId stored.approvedAssessmentId
    requiredLevel := flushColumn loaded.requiredLevel now.requiredLevel stored.requiredLevel
    orderDiscountPct :=
      flushColumn loaded.orderDiscountPct now.orderDiscountPct stored.orderDiscountPct
    amountTotalCache :=
      flushColumn loaded.amountTotalCache now.amountTotalCache stored.amountTotalCache
    amountUntaxedCache :=
      flushColumn loaded.amountUntaxedCache now.amountUntaxedCache stored.amountUntaxedCache
    marginPctCache := flushColumn loaded.marginPctCache now.marginPctCache stored.marginPctCache
    oneTimeTotalCache :=
      flushColumn loaded.oneTimeTotalCache now.oneTimeTotalCache stored.oneTimeTotalCache
    recurringFirstCycleTotalCache :=
      flushColumn loaded.recurringFirstCycleTotalCache now.recurringFirstCycleTotalCache
        stored.recurringFirstCycleTotalCache
    customerConfirmedPending :=
      flushColumn loaded.customerConfirmedPending now.customerConfirmedPending
        stored.customerConfirmedPending
    sentAt := flushColumn loaded.sentAt now.sentAt stored.sentAt
    confirmedAt := flushColumn loaded.confirmedAt now.confirmedAt stored.confirmedAt
    promisedDeliveryDate :=
      flushColumn loaded.promisedDeliveryDate now.promisedDeliveryDate stored.promisedDeliveryDate
    createdAt := flushColumn loaded.createdAt now.createdAt stored.createdAt
    lastActivityAt := flushColumn loaded.lastActivityAt now.lastActivityAt stored.lastActivityAt
    lastSyncedAt := flushColumn loaded.lastSyncedAt now.lastSyncedAt stored.lastSyncedAt
    version := flushColumn loaded.version now.version stored.version }

def flushRequest (loaded now stored : ApprovalRequest) : ApprovalRequest :=
  { id := stored.id
    riskAssessmentId :=
      flushColumn loaded.riskAssessmentId now.riskAssessmentId stored.riskAssessmentId
    requiredLevel := flushColumn loaded.requiredLevel now.requiredLevel stored.requiredLevel
    sequence := flushColumn loaded.sequence now.sequence stored.sequence
    status := flushColumn loaded.status now.status stored.status
    requestedAt := flushColumn loaded.requestedAt now.requestedAt stored.requestedAt
    completedAt := flushColumn loaded.completedAt now.completedAt stored.completedAt
    decidedByOdooUserId :=
      flushColumn loaded.decidedByOdooUserId now.decidedByOdooUserId stored.decidedByOdooUserId
    decisionReason :=
      flushColumn loaded.decisionReason now.decisionReason stored.decisionReason }

/-- The row of a request after the flush: the one with its id was loaded and changed, or the row
is not the session's. -/
def flushRow (loaded now : DealStore) (stored : ApprovalRequest) : ApprovalRequest :=
  match loaded.findRequest stored.id, now.findRequest stored.id with
  | some before, some after => flushRequest before after stored
  | _, _ => stored

/-- The rows a request added to a table. -/
def inserted {α : Type} (loaded now : List α) : List α :=
  now.drop loaded.length

/-- A notification that the request added has a dedupe key that is taken by now. -/
def dedupeConflict (loaded now stored : DealStore) : Bool :=
  (inserted loaded.notifications now.notifications).any fun n =>
    n.dedupeKey.isSome && stored.notifications.any fun old => old.dedupeKey = n.dedupeKey

/-- What the commit of a session leaves stored.  Its ids were given out when it ran. -/
def commitSession (loaded now stored : DealStore) : DealStore :=
  if dedupeConflict loaded now stored = true then stored
  else
    { stored with
      deal := flushDeal loaded.deal now.deal stored.deal
      assessments := stored.assessments ++ inserted loaded.assessments now.assessments
      factors := stored.factors ++ inserted loaded.factors now.factors
      requests := stored.requests.map (flushRow loaded now) ++
        inserted loaded.requests now.requests
      actions := stored.actions ++ inserted loaded.actions now.actions
      auditEvents := stored.auditEvents ++ inserted loaded.auditEvents now.auditEvents
      notifications := stored.notifications ++ inserted loaded.notifications now.notifications }

/-! ## Commits that meet the rows they loaded -/

@[simp] theorem flushColumn_unchanged {α : Type} [DecidableEq α] (loaded stored : α) :
    flushColumn loaded loaded stored = stored := if_pos rfl

@[simp] theorem flushColumn_loaded {α : Type} [DecidableEq α] (loaded now : α) :
    flushColumn loaded now loaded = now := by
  unfold flushColumn
  split
  · next same => exact same.symm
  · rfl

@[simp] theorem flushDeal_unchanged (loaded stored : Deal) :
    flushDeal loaded loaded stored = stored := by
  simp [flushDeal]

@[simp] theorem flushDeal_loaded (loaded now : Deal) : flushDeal loaded now loaded = now := by
  simp [flushDeal]

theorem flushRequest_unchanged (loaded stored : ApprovalRequest) :
    flushRequest loaded loaded stored = stored := by
  simp [flushRequest]

theorem flushRequest_loaded {loaded now : ApprovalRequest} (id : now.id = loaded.id) :
    flushRequest loaded now loaded = now := by
  simp [flushRequest, ← id]

theorem flushRow_unchanged (loaded : DealStore) (stored : ApprovalRequest) :
    flushRow loaded loaded stored = stored := by
  unfold flushRow
  cases loaded.findRequest stored.id with
  | none => rfl
  | some before => exact flushRequest_unchanged before stored

@[simp] theorem inserted_unchanged {α : Type} (loaded : List α) : inserted loaded loaded = [] :=
  List.drop_length

@[simp] theorem inserted_append {α : Type} (loaded added : List α) :
    inserted loaded (loaded ++ added) = added := List.drop_left

/-- A session that changed nothing writes nothing. -/
theorem commitSession_unchanged (loaded stored : DealStore) :
    commitSession loaded loaded stored = stored := by
  have rows : stored.requests.map (flushRow loaded loaded) = stored.requests := by
    conv_rhs => rw [← List.map_id stored.requests]
    exact List.map_congr_left fun r _ => flushRow_unchanged loaded r
  unfold commitSession
  split
  · rfl
  · simp [rows]

end DealFlow
