import DealFlow.Api.Events
import DealFlow.Governance.Footing
import DealFlow.Governance.ServiceFrame
import DealFlow.Lib.Run
import DealFlow.Services.DealService
import DealFlow.Services.FulfillmentService

/-!
# The lifecycle of a deal

All operations on a deal, on any gateway, with its plans and payments; plans are proposed, accepted
and overridden and the Odoo side changes as it likes.

Of the status of a deal and the flag of a customer's acceptance (`Progress`) the operations are a
machine of their own, `LifecycleOp.progress`, and every operation takes the deal where that machine
says (`LifecycleOp.apply_progress`).
-/

namespace DealFlow

open Lib

inductive LifecycleOp (σ : Type)
  | evaluate (args : EvaluateArgs)
  | decide (requestId : ℕ) (actor : DealflowUser) (action : ApprovalActionType)
      (reason : Option String) (now : Timestamp)
  | sync (tables : PolicyTables) (expectedVersion : Option ℤ) (actor : SyncActor)
      (now : Timestamp)
  | send (currentUser : DealflowUser) (now : Timestamp)
  | submitNegotiation (customerPartnerId actorUserId : ℤ) (payload : PortalNegotiationSubmit)
      (now : Timestamp)
  | respondNegotiation (requestId : ℕ) (actor : DealflowUser) (action : NegotiationAction)
      (responseMessage : Option String) (counterValue : Option ℚ) (tables : PolicyTables)
      (now : Timestamp)
  | confirmByCustomer (customerPartnerId : ℤ) (comment : Option String) (now : Timestamp)
  | applyRecommendation (recommendationId : ℕ) (actor : DealflowUser)
      (action : RecommendationAction) (tables : PolicyTables) (now : Timestamp)
  | applyFulfillment (planId : ℕ) (actor : DealflowUser) (now : Timestamp)
  | recordPayment (invId : ℤ) (amount : ℚ) (currentUser : DealflowUser) (now : Timestamp)
  | inboundEvent (payload : OdooEventPayload) (now : Timestamp)
  | changePlans (change : List FulfillmentPlan → List FulfillmentPlan)
  | onOdoo (change : σ → σ)

/-- The order of a deal, its status, and whether its customer has accepted it. -/
structure Progress where
  odooSaleOrderId : ℤ
  status : DealStatus
  customerConfirmedPending : Bool
  deriving DecidableEq, Repr

def DealStore.progress (db : DealStore) : Progress :=
  { odooSaleOrderId := db.deal.odooSaleOrderId
    status := db.deal.status
    customerConfirmedPending := db.deal.customerConfirmedPending }

section Machine

variable {σ : Type} (gateway : BackOfficeGateway σ)

def LifecycleOp.apply : LifecycleOp σ → DealWorld σ → DealWorld σ
  | .evaluate args, w =>
      { w with toWorld := (evaluateDeal gateway.toOdooGateway args w.toWorld).2 }
  | .decide requestId actor action reason now, w =>
      { w with
        toWorld := (decideApprovalRequest gateway.toOdooGateway requestId actor action reason now
          w.toWorld).2 }
  | .sync tables expectedVersion actor now, w =>
      { w with
        toWorld := (syncDealFromOdoo gateway.toOdooGateway tables expectedVersion actor now
          w.toWorld).2 }
  | .send currentUser now, w => { w with db := sendDeal currentUser now w.db }
  | .submitNegotiation customerPartnerId actorUserId payload now, w =>
      { w with db := (submitNegotiationRequest customerPartnerId actorUserId payload now w.db).2 }
  | .respondNegotiation requestId actor action responseMessage counterValue tables now, w =>
      { w with
        toWorld := (respondNegotiationRequest gateway.toOdooGateway requestId actor action
          responseMessage counterValue tables now w.toWorld).2 }
  | .confirmByCustomer customerPartnerId comment now, w =>
      { w with
        toWorld := (confirmDealByCustomer gateway.toOdooGateway customerPartnerId comment now
          w.toWorld).2 }
  | .applyRecommendation recommendationId actor action tables now, w =>
      { w with
        toWorld := (applyRecommendationAction gateway.toOdooGateway recommendationId actor action
          tables now w.toWorld).2 }
  | .applyFulfillment planId actor now, w => (applyFulfillmentPlan gateway planId actor now w).2
  | .recordPayment invId amount currentUser now, w =>
      { w with toWorld := (recordInvoicePayment gateway invId amount currentUser now w.toWorld).2 }
  | .inboundEvent payload now, w => { w with db := handleOdooInboundEvent payload now w.db }
  | .changePlans change, w => { w with plans := change w.plans }
  | .onOdoo change, w => { w with odoo := change w.odoo }

/-! ## The machine of status and acceptance -/

/-- The customer is the one of the deal, and the deal is not confirmed yet. -/
def ReachesDeal (db : DealStore) (customerPartnerId : ℤ) : Prop :=
  db.deal.odooPartnerId = customerPartnerId ∧ alreadyConfirmed db.deal.status = false

instance (db : DealStore) (customerPartnerId : ℤ) :
    Decidable (ReachesDeal db customerPartnerId) :=
  inferInstanceAs (Decidable (_ ∧ _))

/-- The customer is the one of the deal, and the deal is not closed. -/
def Negotiable (db : DealStore) (customerPartnerId : ℤ) : Prop :=
  db.deal.odooPartnerId = customerPartnerId ∧
    db.deal.status ∉ [.confirmed, .cancelled, .expired]

instance (db : DealStore) (customerPartnerId : ℤ) :
    Decidable (Negotiable db customerPartnerId) :=
  inferInstanceAs (Decidable (_ ∧ _))

/-- The negotiation of an id, if it is open. -/
def openNegotiation (db : DealStore) (requestId : ℕ) : Option NegotiationRequest :=
  (db.negotiations.find? fun n => n.id = requestId).filter fun n => n.status = .open

/-- The context in which a deal is evaluated after a sync: both read the order. -/
def syncedContext (gateway : OdooGateway σ) (tables : PolicyTables) (orderId : ℤ) (odoo : σ) :
    Option DealContext :=
  match buildDealContext gateway tables orderId odoo with
  | (.error _, _) => none
  | (.ok _, odoo) =>
      match buildDealContext gateway tables orderId odoo with
      | (.error _, _) => none
      | (.ok ctx, _) => some ctx

/-- The context in which an acceptance evaluates the deal, if it gets that far. -/
def acceptedContext (gateway : OdooGateway σ) (tables : PolicyTables) (req : NegotiationRequest)
    (w : World σ) : Option DealContext :=
  match applyChanges gateway w.db.deal.odooSaleOrderId req.changes w.odoo with
  | (.error _, _) => none
  | (.ok (), odoo) => syncedContext gateway tables w.db.deal.odooSaleOrderId odoo

/-- The event is a new one that cancels the order of the deal. -/
def Cancels (db : DealStore) (payload : OdooEventPayload) : Prop :=
  payload.eventId ∉ db.processedEvents ∧ payload.resolvedModel = "sale.order" ∧
    payload.resolvedRecordId = db.deal.odooSaleOrderId ∧ payload.isCancel = true

instance (db : DealStore) (payload : OdooEventPayload) : Decidable (Cancels db payload) :=
  inferInstanceAs (Decidable (_ ∧ _))

/-- The plan can be applied, and Odoo carries it out. -/
def CarriesOut (w : DealWorld σ) (planId : ℕ) : Prop :=
  ∃ plan, guardPlan w planId = .ok plan ∧
    (gateway.applyFulfillmentPlan w.db.deal.odooSaleOrderId plan.allocPayload w.odoo).1.isOk = true

instance (w : DealWorld σ) (planId : ℕ) : Decidable (CarriesOut gateway w planId) :=
  match guarded : guardPlan w planId with
  | .error _ => isFalse (by simp [CarriesOut, guarded])
  | .ok plan =>
      decidable_of_iff ((gateway.applyFulfillmentPlan w.db.deal.odooSaleOrderId plan.allocPayload
        w.odoo).1.isOk = true) (by simp [CarriesOut, guarded])

/-- The decision confirms the order, and the gateway does. -/
def ConfirmsByDecision (gateway : OdooGateway σ) (w : World σ) (requestId : ℕ)
    (actor : DealflowUser) (action : ApprovalActionType) : Prop :=
  ∃ req, guardDecision w.db requestId actor = .ok req ∧ AutoConfirms w.db req action ∧
    (autoConfirmAnswer gateway w).1.isOk = true

instance (gateway : OdooGateway σ) (w : World σ) (requestId : ℕ) (actor : DealflowUser)
    (action : ApprovalActionType) :
    Decidable (ConfirmsByDecision gateway w requestId actor action) :=
  match guarded : guardDecision w.db requestId actor with
  | .error _ => isFalse (by simp [ConfirmsByDecision, guarded])
  | .ok req =>
      decidable_of_iff (AutoConfirms w.db req action ∧
        (autoConfirmAnswer gateway w).1.isOk = true) (by simp [ConfirmsByDecision, guarded])

/-- What an answer to a negotiation makes of the status. -/
def answeredStatus (gateway : OdooGateway σ) (tables : PolicyTables) (req : NegotiationRequest)
    (w : World σ) : NegotiationAction → Option DealStatus
  | .accept => (acceptedContext gateway tables req w).map fun _ => .sent
  | .reject => some .sent
  | .counter => some .underNegotiation
  | .other _ => none

/-- Where an operation takes a deal. -/
def LifecycleOp.progress (w : DealWorld σ) : LifecycleOp σ → Progress
  | .decide requestId actor action _ _ =>
      if ConfirmsByDecision gateway.toOdooGateway w.toWorld requestId actor action then
        { w.db.progress with status := .confirmed, customerConfirmedPending := false }
      else w.db.progress
  | .send _ _ => { w.db.progress with status := .sent }
  | .submitNegotiation customerPartnerId _ _ _ =>
      if Negotiable w.db customerPartnerId then
        { w.db.progress with status := .underNegotiation }
      else w.db.progress
  | .respondNegotiation requestId _ action _ _ tables _ =>
      match (openNegotiation w.db requestId).bind fun req =>
        answeredStatus gateway.toOdooGateway tables req w.toWorld action with
      | none => w.db.progress
      | some status => { w.db.progress with status }
  | .confirmByCustomer customerPartnerId _ _ =>
      if ReachesDeal w.db customerPartnerId then
        if w.db.deal.approvalState = .approved then
          { w.db.progress with status := .confirmed, customerConfirmedPending := false }
        else { w.db.progress with customerConfirmedPending := true }
      else w.db.progress
  | .applyFulfillment planId _ _ =>
      if CarriesOut gateway w planId then { w.db.progress with status := .inFulfillment }
      else w.db.progress
  | .inboundEvent payload _ =>
      if Cancels w.db payload then { w.db.progress with status := .cancelled } else w.db.progress
  | .evaluate _ | .sync _ _ _ _ | .applyRecommendation _ _ _ _ _ | .recordPayment _ _ _ _
  | .changePlans _ | .onOdoo _ => w.db.progress

end Machine

/-! ## Every operation follows the machine -/

section Progress

variable {σ : Type} {gateway : OdooGateway σ}

theorem progress_ext {db : DealStore} {p : Progress}
    (order : db.deal.odooSaleOrderId = p.odooSaleOrderId) (status : db.deal.status = p.status)
    (pending : db.deal.customerConfirmedPending = p.customerConfirmedPending) :
    db.progress = p := by
  unfold DealStore.progress
  rw [order, status, pending]

@[simp] theorem createNotification_progress (db : DealStore) (notification : Notification) :
    (db.createNotification notification).progress = db.progress := by
  unfold DealStore.createNotification
  split <;> rfl

theorem evaluateDeal_progress (gateway : OdooGateway σ) (args : EvaluateArgs) (w : World σ) :
    (evaluateDeal gateway args w).2.db.progress = w.db.progress := by
  have footing := evaluateDeal_footing gateway args w
  refine progress_ext ?_ (congrArg Footing.status footing)
    (congrArg Footing.customerConfirmedPending footing)
  rcases evaluateDeal_cases gateway args w with ⟨e, -, kept⟩ | ⟨ctx, response, -, -, assessed⟩
  · exact congrArg (fun db => db.deal.odooSaleOrderId) kept
  · exact (congrArg Approvals.odooSaleOrderId assessed).trans (assess_order ..)

theorem decide_progress (w : World σ) (requestId : ℕ) (actor : DealflowUser)
    (action : ApprovalActionType) (reason : Option String) (now : Timestamp) :
    (decideApprovalRequest gateway requestId actor action reason now w).2.db.progress =
      if ConfirmsByDecision gateway w requestId actor action then
        { w.db.progress with status := .confirmed, customerConfirmedPending := false }
      else w.db.progress := by
  cases guarded : guardDecision w.db requestId actor with
  | error e =>
      rw [if_neg]
      · rw [decideApprovalRequest_refused gateway guarded]
      · rintro ⟨req, passed, -⟩
        cases guarded.symm.trans passed
  | ok req =>
      have footing := decideApprovalRequest_footing gateway guarded action reason now
      have order : (decideApprovalRequest gateway requestId actor action reason now
          w).2.db.deal.odooSaleOrderId = w.db.deal.odooSaleOrderId := by
        rcases decideApprovalRequest_cases gateway requestId actor action reason now w with
          ⟨e, raised⟩ | ⟨req', -, -, outcome⟩
        · rw [raised]
        · exact (congrArg Approvals.odooSaleOrderId outcome).trans (decided_frame ..).1
      by_cases confirms : AutoConfirms w.db req action ∧
          (autoConfirmAnswer gateway w).1.isOk = true
      · rw [if_pos confirms] at footing
        rw [if_pos ⟨req, guarded, confirms⟩]
        exact progress_ext order (congrArg Footing.status footing)
          (congrArg Footing.customerConfirmedPending footing)
      · rw [if_neg confirms] at footing
        rw [if_neg]
        · exact progress_ext order (congrArg Footing.status footing)
            (congrArg Footing.customerConfirmedPending footing)
        · rintro ⟨req', passed, confirmed⟩
          obtain rfl : req = req' := Except.ok.inj (guarded.symm.trans passed)
          exact confirms confirmed

variable (gateway) in
theorem syncDealFromOdoo_progress (tables : PolicyTables) (expectedVersion : Option ℤ)
    (actor : SyncActor) (now : Timestamp) (w : World σ) :
    (syncDealFromOdoo gateway tables expectedVersion actor now w).2.db.progress = w.db.progress ∧
      ∀ committed, (syncDealFromOdoo gateway tables expectedVersion actor now w).1 =
        .ok committed → committed.progress = w.db.progress :=
  syncDealFromOdoo_view (fun _ _ _ => rfl) (fun _ _ => rfl) gateway tables expectedVersion actor now
    w

variable (gateway) in
theorem syncAndEvaluate_progress (args : EvaluateArgs) (before : DealStore) (w : World σ)
    (same : w.db.progress = before.progress) :
    (syncAndEvaluate gateway args before w).2.db.progress = before.progress :=
  syncAndEvaluate_view (fun _ _ _ => rfl) (fun _ _ => rfl) (evaluateDeal_progress gateway args)
    before w same

/-- The risk depends on the store through its negotiations alone. -/
theorem assessRisk_negotiations {db db' : DealStore} (same : db'.negotiations = db.negotiations)
    (tables : PolicyTables) (ctx : DealContext) :
    assessRisk db' tables ctx = assessRisk db tables ctx := by
  unfold assessRisk hasOpenCounter
  rw [same]

/-- A sync that reads the order refreshes the figures of the deal, and nothing else. -/
theorem syncDealFromOdoo_reads {tables : PolicyTables} {w : World σ} {ctx : DealContext} {odoo : σ}
    (built : buildDealContext gateway tables w.db.deal.odooSaleOrderId w.odoo = (.ok ctx, odoo))
    (actor : SyncActor) (now : Timestamp) :
    ∃ committed synced,
      syncDealFromOdoo gateway tables none actor now w = (.ok committed, { db := synced, odoo }) ∧
      committed.approvals = w.db.approvals ∧ synced.approvals = w.db.approvals ∧
      synced.negotiations = w.db.negotiations := by
  unfold syncDealFromOdoo
  rw [built]
  exact ⟨_, _, rfl, rfl, rfl, rfl⟩

/-- A sync with evaluation assesses the deal where both reads of the order succeed, and raises
where one does not. -/
theorem syncAndEvaluate_cases (gateway : OdooGateway σ) (args : EvaluateArgs) (before : DealStore)
    (w : World σ) (same : w.db.approvals = before.approvals) :
    (syncedContext gateway args.tables w.db.deal.odooSaleOrderId w.odoo = none ∧
        (∃ e, (syncAndEvaluate gateway args before w).1 = .error e) ∧
        (syncAndEvaluate gateway args before w).2.db.approvals = before.approvals) ∨
      ∃ ctx, syncedContext gateway args.tables w.db.deal.odooSaleOrderId w.odoo = some ctx ∧
        (∃ response, (syncAndEvaluate gateway args before w).1 = .ok response) ∧
        (syncAndEvaluate gateway args before w).2.db.approvals =
          before.approvals.assess
            (newAssessment before.nextId ctx (assessRisk w.db args.tables ctx) args) args.now := by
  unfold syncedContext
  rcases first : buildDealContext gateway args.tables w.db.deal.odooSaleOrderId w.odoo with
    ⟨e | again, odoo⟩
  · left
    unfold syncAndEvaluate syncDealFromOdoo
    rw [first]
    exact ⟨rfl, ⟨e, rfl⟩, rfl⟩
  · obtain ⟨committed, synced, run, kept, approvals, negotiations⟩ := syncDealFromOdoo_reads first
      { actorId := args.actorId, actorRole := args.actorRole } args.now
    have order : synced.deal.odooSaleOrderId = w.db.deal.odooSaleOrderId :=
      congrArg Approvals.odooSaleOrderId approvals
    unfold syncAndEvaluate
    rw [run]
    dsimp only
    rcases second : buildDealContext gateway args.tables w.db.deal.odooSaleOrderId odoo with
      ⟨e | ctx, odoo'⟩
    · left
      rw [← order] at second
      rw [evaluateDeal_raises (w := { db := synced, odoo }) second]
      exact ⟨rfl, ⟨e, rfl⟩, kept.trans same⟩
    · right
      rw [← order] at second
      have found := approvals.trans same
      have id : synced.nextId = before.nextId := congrArg Approvals.nextId found
      have assessed := (evaluateDeal_approvals (w := { db := synced, odoo }) second).trans
        (settleEvaluation_approvals synced args ctx)
      rw [found, id, assessRisk_negotiations negotiations] at assessed
      refine ⟨ctx, rfl, ?_⟩
      unfold evaluateDeal at assessed ⊢
      rw [second] at assessed ⊢
      exact ⟨⟨_, rfl⟩, assessed⟩

theorem submitNegotiation_progress (customerPartnerId actorUserId : ℤ)
    (payload : PortalNegotiationSubmit) (now : Timestamp) (db : DealStore) :
    (submitNegotiationRequest customerPartnerId actorUserId payload now db).2.progress =
      if Negotiable db customerPartnerId then { db.progress with status := .underNegotiation }
      else db.progress := by
  unfold submitNegotiationRequest
  by_cases partner : db.deal.odooPartnerId = customerPartnerId
  · rw [if_neg (not_not.mpr partner)]
    by_cases closed : db.deal.status ∈ [.confirmed, .cancelled, .expired]
    · rw [if_pos closed, if_neg fun negotiable => negotiable.2 closed]
    · rw [if_neg closed, if_pos ⟨partner, closed⟩]
      exact createNotification_progress ..
  · rw [if_pos partner, if_neg fun negotiable => partner negotiable.1]

theorem finishAcceptance_progress (req : NegotiationRequest) (actor : DealflowUser)
    (now : Timestamp) (r : Except DealFlowException EvaluationResponse × World σ) :
    (finishAcceptance req actor now r).2.db.progress =
      if r.1.isOk = true then { r.2.db.progress with status := .sent } else r.2.db.progress := by
  rcases r with ⟨e | response, w⟩ <;> rfl

/-- The evaluation an acceptance makes. -/
def acceptanceArgs (tables : PolicyTables) (actor : DealflowUser) (now : Timestamp) :
    EvaluateArgs :=
  { tables
    triggerType := .negotiationAccepted
    actorId := some actor.odooUserId
    actorRole := some actor.role
    now }

/-- The store in which an acceptance evaluates the deal. -/
def acceptedStore (req : NegotiationRequest) (answered : DealStore) : DealStore :=
  updateNegotiation answered req.id fun n => { n with status := .accepted }

/-- An acceptance raises and leaves the deal where it was, or assesses the order as changed and
sends the quotation again. -/
theorem acceptNegotiation_cases (gateway : OdooGateway σ) (req : NegotiationRequest)
    (actor : DealflowUser) (tables : PolicyTables) (now : Timestamp) (answered : DealStore)
    (w : World σ) (approvals : answered.approvals = w.db.approvals)
    (progress : answered.progress = w.db.progress) :
    (acceptedContext gateway tables req w = none ∧
        (acceptNegotiation gateway req actor tables now answered w).2.db.progress =
          w.db.progress ∧
        (acceptNegotiation gateway req actor tables now answered w).2.db.approvals =
          w.db.approvals) ∨
      ∃ ctx, acceptedContext gateway tables req w = some ctx ∧
        (acceptNegotiation gateway req actor tables now answered w).2.db.progress =
          { w.db.progress with status := .sent } ∧
        (acceptNegotiation gateway req actor tables now answered w).2.db.approvals =
          w.db.approvals.assess
            (newAssessment w.db.nextId ctx (assessRisk (acceptedStore req answered) tables ctx)
              (acceptanceArgs tables actor now)) now := by
  unfold acceptNegotiation acceptedContext
  dsimp only
  rcases applyChanges gateway w.db.deal.odooSaleOrderId req.changes w.odoo with ⟨e | ⟨⟩, odoo⟩
  · exact .inl ⟨rfl, rfl, rfl⟩
  · dsimp only
    have order : answered.deal.odooSaleOrderId = w.db.deal.odooSaleOrderId :=
      congrArg Approvals.odooSaleOrderId approvals
    have kept := syncAndEvaluate_progress gateway (acceptanceArgs tables actor now)
      w.db { db := acceptedStore req answered, odoo } progress
    have outcome := syncAndEvaluate_cases gateway (acceptanceArgs tables actor now)
      w.db { db := acceptedStore req answered, odoo } approvals
    rw [finishAcceptance_progress, finishAcceptance_approvals, ← order]
    rcases outcome with ⟨unread, ⟨e, raised⟩, chain⟩ | ⟨ctx, read, ⟨response, ok⟩, assessed⟩
    · refine .inl ⟨unread, Eq.trans (if_neg fun ok => ?_) kept, chain⟩
      cases (congrArg Except.isOk raised).symm.trans ok
    · refine .inr ⟨ctx, read, Eq.trans (if_pos ?_) ?_, assessed⟩
      · exact congrArg Except.isOk ok
      · exact congrArg (fun p : Progress => { p with status := .sent }) kept

/-- The store with an answer noted on its negotiation. -/
def answeredStore (req : NegotiationRequest) (actor : DealflowUser)
    (responseMessage : Option String) (now : Timestamp) (db : DealStore) : DealStore :=
  updateNegotiation db req.id fun n =>
    { n with
      processedAt := some now
      processedByOdooUserId := some actor.odooUserId
      responseMessage }

section Respond

variable {requestId : ℕ} {req : NegotiationRequest} (actor : DealflowUser)
  (responseMessage : Option String) (counterValue : Option ℚ) (tables : PolicyTables)
  (now : Timestamp) {w : World σ}

theorem openNegotiation_some {db : DealStore} (opened : openNegotiation db requestId = some req) :
    (db.negotiations.find? fun n => n.id = requestId) = some req ∧ req.status = .open := by
  obtain ⟨found, isOpen⟩ := Option.filter_eq_some_iff.mp opened
  exact ⟨found, of_decide_eq_true isOpen⟩

/-- An answer to a negotiation that is not open is refused. -/
theorem respondNegotiation_closed (closed : openNegotiation w.db requestId = none)
    (action : NegotiationAction) :
    (respondNegotiationRequest gateway requestId actor action responseMessage counterValue tables
      now w).2 = w := by
  unfold respondNegotiationRequest
  cases found : w.db.negotiations.find? fun n => n.id = requestId with
  | none => rfl
  | some req =>
      have notOpen : req.status ≠ .open := by
        intro isOpen
        unfold openNegotiation at closed
        rw [found] at closed
        simp [Option.filter, isOpen] at closed
      dsimp only
      rw [if_pos notOpen]

theorem respondNegotiation_accept (opened : openNegotiation w.db requestId = some req) :
    respondNegotiationRequest gateway requestId actor .accept responseMessage counterValue tables
        now w =
      acceptNegotiation gateway req actor tables now
        (answeredStore req actor responseMessage now w.db) w := by
  obtain ⟨found, isOpen⟩ := openNegotiation_some opened
  unfold respondNegotiationRequest
  rw [found]
  dsimp only
  rw [if_neg (not_not.mpr isOpen)]
  rfl

/-- Any other answer is about the status of the deal alone. -/
theorem respondNegotiation_refusal (opened : openNegotiation w.db requestId = some req)
    {action : NegotiationAction} (refuses : action ≠ .accept) :
    (respondNegotiationRequest gateway requestId actor action responseMessage counterValue tables
        now w).2.odoo = w.odoo ∧
      (respondNegotiationRequest gateway requestId actor action responseMessage counterValue tables
        now w).2.db.approvals = w.db.approvals ∧
      (respondNegotiationRequest gateway requestId actor action responseMessage counterValue tables
          now w).2.db.progress =
        match answeredStatus gateway tables req w action with
        | none => w.db.progress
        | some status => { w.db.progress with status } := by
  obtain ⟨found, isOpen⟩ := openNegotiation_some opened
  unfold respondNegotiationRequest
  rw [found]
  dsimp only
  rw [if_neg (not_not.mpr isOpen)]
  cases action with
  | accept => exact absurd rfl refuses
  | reject => exact ⟨rfl, rfl, rfl⟩
  | counter => exact ⟨rfl, rfl, rfl⟩
  | other name => exact ⟨rfl, rfl, rfl⟩

theorem respondNegotiation_progress (requestId : ℕ) (action : NegotiationAction) (w : World σ) :
    (respondNegotiationRequest gateway requestId actor action responseMessage counterValue tables
        now w).2.db.progress =
      match (openNegotiation w.db requestId).bind fun req =>
        answeredStatus gateway tables req w action with
      | none => w.db.progress
      | some status => { w.db.progress with status } := by
  cases opened : openNegotiation w.db requestId with
  | none => exact congrArg (fun w => w.db.progress) (respondNegotiation_closed _ _ _ _ _ opened _)
  | some req =>
      rw [Option.bind_some]
      by_cases accepts : action = .accept
      · subst accepts
        rw [respondNegotiation_accept _ _ _ _ _ opened]
        unfold answeredStatus
        rcases acceptNegotiation_cases gateway req actor tables now
            (answeredStore req actor responseMessage now w.db) w rfl rfl with
          ⟨unread, progress, -⟩ | ⟨ctx, read, progress, -⟩
        · rw [unread]
          exact progress
        · rw [read]
          exact progress
      · exact (respondNegotiation_refusal _ _ _ _ _ opened accepts).2.2

end Respond

theorem getDealForPortal_progress (customerPartnerId : ℤ) (w : World σ) :
    (getDealForPortal gateway customerPartnerId w).2.db.progress = w.db.progress := by
  unfold getDealForPortal
  split
  · rfl
  · split <;> rfl

theorem noteConfirmation_progress (comment : Option String) (now : Timestamp) (db : DealStore) :
    (noteConfirmation comment now db).progress = db.progress := by
  unfold noteConfirmation
  split <;> rfl

theorem confirmByCustomer_progress (customerPartnerId : ℤ) (comment : Option String)
    (now : Timestamp) (w : World σ) :
    (confirmDealByCustomer gateway customerPartnerId comment now w).2.db.progress =
      if ReachesDeal w.db customerPartnerId then
        if w.db.deal.approvalState = .approved then
          { w.db.progress with status := .confirmed, customerConfirmedPending := false }
        else { w.db.progress with customerConfirmedPending := true }
      else w.db.progress := by
  unfold confirmDealByCustomer
  by_cases partner : w.db.deal.odooPartnerId = customerPartnerId
  · rw [if_neg (not_not.mpr partner)]
    by_cases confirmed : alreadyConfirmed w.db.deal.status = true
    · rw [if_pos confirmed, if_neg fun reaches => by
        cases confirmed.symm.trans reaches.2]
      exact getDealForPortal_progress customerPartnerId w
    · have reaches : ReachesDeal w.db customerPartnerId :=
        ⟨partner, Bool.eq_false_iff.mpr confirmed⟩
      rw [if_neg confirmed, if_pos reaches]
      dsimp only
      rw [getDealForPortal_progress, noteConfirmation_progress]
      split
      · exact createNotification_progress ..
      · exact createNotification_progress ..
  · rw [if_pos partner, if_neg fun reaches => partner reaches.1]

theorem applyRecommendation_progress (recommendationId : ℕ) (actor : DealflowUser)
    (action : RecommendationAction) (tables : PolicyTables) (now : Timestamp) (w : World σ) :
    (applyRecommendationAction gateway recommendationId actor action tables now w).2.db.progress =
      w.db.progress := by
  have finished : ∀ rec (r : Except DealFlowException EvaluationResponse × World σ),
      (finishAddition gateway rec actor tables now r).2.db.progress = r.2.db.progress := by
    rintro rec ⟨e | response, w⟩
    · rfl
    · unfold finishAddition
      dsimp only
      split <;> rfl
  unfold applyRecommendationAction
  split
  · rfl
  · next rec found =>
      cases action with
      | add quantity =>
          dsimp only
          split
          · rfl
          · unfold addRecommended
            split
            · rfl
            · dsimp only
              rw [finished]
              exact syncAndEvaluate_progress gateway _ _ _ rfl
      | dismiss => rfl
      | other name => rfl

theorem applyFulfillment_progress {gateway : BackOfficeGateway σ} (planId : ℕ)
    (actor : DealflowUser) (now : Timestamp) (w : DealWorld σ) :
    (applyFulfillmentPlan gateway planId actor now w).2.db.progress =
      if CarriesOut gateway w planId then { w.db.progress with status := .inFulfillment }
      else w.db.progress := by
  unfold applyFulfillmentPlan
  rcases guarded : guardPlan w planId with e | plan
  · rw [if_neg]
    rintro ⟨plan, passed, -⟩
    cases guarded.symm.trans passed
  · dsimp only
    rcases applied : gateway.applyFulfillmentPlan w.db.deal.odooSaleOrderId plan.allocPayload
        w.odoo with ⟨e | pickingIds, odoo⟩
    · rw [if_neg]
      rintro ⟨plan', passed, done⟩
      obtain rfl : plan = plan' := Except.ok.inj (guarded.symm.trans passed)
      rw [applied] at done
      cases done
    · rw [if_pos ⟨plan, guarded, by rw [applied]; rfl⟩]
      rfl

theorem recordPayment_progress {gateway : BackOfficeGateway σ} (invId : ℤ) (amount : ℚ)
    (currentUser : DealflowUser) (now : Timestamp) (w : World σ) :
    (recordInvoicePayment gateway invId amount currentUser now w).2.db.progress =
      w.db.progress := by
  unfold recordInvoicePayment
  split <;> rfl

theorem inboundEvent_progress (payload : OdooEventPayload) (now : Timestamp) (db : DealStore) :
    (handleOdooInboundEvent payload now db).progress =
      if Cancels db payload then { db.progress with status := .cancelled } else db.progress := by
  unfold handleOdooInboundEvent
  by_cases seen : payload.eventId ∈ db.processedEvents
  · rw [if_pos seen, if_neg fun cancels => cancels.1 seen]
  · rw [if_neg seen]
    dsimp only
    by_cases about : payload.resolvedModel = "sale.order" ∧
        payload.resolvedRecordId = db.deal.odooSaleOrderId
    · rw [if_pos about]
      unfold dispatchEvent
      by_cases cancel : payload.isCancel = true
      · rw [if_pos cancel, if_pos ⟨seen, about.1, about.2, cancel⟩]
        rfl
      · rw [if_neg cancel, if_neg fun cancels => cancel cancels.2.2.2]
        rfl
    · rw [if_neg about, if_neg fun cancels => about ⟨cancels.2.1, cancels.2.2.1⟩]
      rfl

/-- Every operation takes the deal where the machine of status and acceptance says. -/
theorem LifecycleOp.apply_progress (gateway : BackOfficeGateway σ) (op : LifecycleOp σ)
    (w : DealWorld σ) : (op.apply gateway w).db.progress = op.progress gateway w := by
  cases op with
  | evaluate args => exact evaluateDeal_progress ..
  | decide requestId actor action reason now => exact decide_progress ..
  | sync tables expectedVersion actor now =>
      exact (syncDealFromOdoo_progress _ tables expectedVersion actor now w.toWorld).1
  | send currentUser now => rfl
  | submitNegotiation customerPartnerId actorUserId payload now =>
      exact submitNegotiation_progress ..
  | respondNegotiation requestId actor action responseMessage counterValue tables now =>
      exact respondNegotiation_progress ..
  | confirmByCustomer customerPartnerId comment now => exact confirmByCustomer_progress ..
  | applyRecommendation recommendationId actor action tables now =>
      exact applyRecommendation_progress ..
  | applyFulfillment planId actor now => exact applyFulfillment_progress ..
  | recordPayment invId amount currentUser now => exact recordPayment_progress ..
  | inboundEvent payload now => exact inboundEvent_progress ..
  | changePlans change => rfl
  | onOdoo change => rfl

end Progress

end DealFlow
