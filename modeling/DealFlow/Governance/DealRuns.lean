import DealFlow.Api.Events
import DealFlow.Governance.Runs
import DealFlow.Governance.ServiceFrame
import DealFlow.Governance.Terms

/-!
# Runs of a deal

The operations on a deal that reach its approval, its order or its confirmation, on any gateway
with a record of its calls.  An order may also be edited from outside at any time.

Every operation is of one of four kinds (`DealOp.effect`): it does nothing to assessments and calls
for no confirmation; it assesses the order as it is afterwards; it decides a request; or it confirms
an approved deal.  Only the last two call for a confirmation, at the terms they found, and only
where `MayConfirm` says so.
-/

namespace DealFlow

open Lib

/-- Changes of the database that leave the approval chain of the deal alone, such as
those of fulfilment, invoicing, health and comments.  They may give out ids. -/
structure Bookkeeping where
  change : DealStore → DealStore
  keepsApprovals : ∀ db, ∃ n, db.nextId ≤ n ∧
    (change db).approvals = { db.approvals with nextId := n }

inductive DealOp (σ : Type)
  | evaluate (args : EvaluateArgs)
  | decide (requestId : ℕ) (actor : DealflowUser) (action : ApprovalActionType)
      (reason : Option String) (now : Timestamp)
  | sync (tables : PolicyTables) (expectedVersion : Option ℤ) (actor : SyncActor)
      (now : Timestamp)
  | send (currentUser : DealflowUser) (now : Timestamp)
  | submitNegotiation (customerPartnerId actorUserId : ℤ) (payload : PortalNegotiationSubmit)
      (now : Timestamp)
  | respondNegotiation (requestId : ℕ) (actor : DealflowUser) (action : NegotiationAction)
      (responseMessage : Option String) (counterValue : Option ℚ) (tables : PolicyTables)
      (now : Timestamp)
  | confirmByCustomer (customerPartnerId : ℤ) (comment : Option String) (now : Timestamp)
  | applyRecommendation (recommendationId : ℕ) (actor : DealflowUser)
      (action : RecommendationAction) (tables : PolicyTables) (now : Timestamp)
  | inboundEvent (payload : OdooEventPayload) (now : Timestamp)
  | bookkeeping (b : Bookkeeping)
  | editOrder (change : σ → σ)

/-- The Odoo side with a record of calls, confirmations with the terms they were called at. -/
abbrev Recorded (σ : Type) := σ × List (GatewayCall (List LineTerms))

/-- The terms at which confirmations were called for. -/
def confirmations {V : Type} (calls : List (GatewayCall V)) : List V :=
  calls.filterMap fun
    | .setGovernance .. => none
    | .confirm _ seen => some seen

section Runs

variable {σ : Type} (gateway : OdooGateway σ) (terms : σ → List LineTerms)

def DealOp.apply : DealOp σ → World (Recorded σ) → World (Recorded σ)
  | .evaluate args, w => (evaluateDeal (recording gateway terms) args w).2
  | .decide requestId actor action reason now, w =>
      (decideApprovalRequest (recording gateway terms) requestId actor action reason now w).2
  | .sync tables expectedVersion actor now, w =>
      (syncDealFromOdoo (recording gateway terms) tables expectedVersion actor now w).2
  | .send currentUser now, w => { w with db := sendDeal currentUser now w.db }
  | .submitNegotiation customerPartnerId actorUserId payload now, w =>
      { w with db := (submitNegotiationRequest customerPartnerId actorUserId payload now w.db).2 }
  | .respondNegotiation requestId actor action responseMessage counterValue tables now, w =>
      (respondNegotiationRequest (recording gateway terms) requestId actor action responseMessage
        counterValue tables now w).2
  | .confirmByCustomer customerPartnerId comment now, w =>
      (confirmDealByCustomer (recording gateway terms) customerPartnerId comment now w).2
  | .applyRecommendation recommendationId actor action tables now, w =>
      (applyRecommendationAction (recording gateway terms) recommendationId actor action tables now
        w).2
  | .inboundEvent payload now, w => { w with db := handleOdooInboundEvent payload now w.db }
  | .bookkeeping b, w => { w with db := b.change w.db }
  | .editOrder change, w => { w with odoo := (change w.odoo.1, w.odoo.2) }

/-- The operation is one that calls for the confirmation of the order: the customer confirms an
approved deal, or the last stage of a deal the customer has accepted is approved. -/
def MayConfirm (w : World (Recorded σ)) : DealOp σ → Prop
  | .confirmByCustomer customerPartnerId _ _ =>
      w.db.deal.odooPartnerId = customerPartnerId ∧ alreadyConfirmed w.db.deal.status = false ∧
        w.db.deal.approvalState = .approved
  | .decide requestId actor .approve _ _ =>
      w.db.deal.customerConfirmedPending = true ∧
        ∃ req, guardDecision w.db requestId actor = .ok req ∧
          ¬ (w.db.deal.requiredLevel = .managerAndFinance ∧ req.requiredLevel = .salesManager)
  | _ => False

/-! ## The kinds of operations -/

/-- What the gateway shows: the terms of the order and the confirmations called for so far. -/
def shown (s : Recorded σ) : List LineTerms × List (List LineTerms) :=
  (terms s.1, confirmations s.2)

/-- What an operation does. -/
inductive Effect (op : DealOp σ) (w w' : World (Recorded σ)) : Prop
  | idle (n : ℕ) (later : w.db.nextId ≤ n)
      (approvals : w'.db.approvals = { w.db.approvals with nextId := n })
      (quiet : confirmations w'.odoo.2 = confirmations w.odoo.2)
  | evaluates (s : RiskAssessment) (now : Timestamp) (fresh : s.id = w.db.nextId)
      (approvals : w'.db.approvals = w.db.approvals.assess s now)
      (snapshot : s.terms = (terms w'.odoo.1).map LineTerms.rounded)
      (quiet : confirmations w'.odoo.2 = confirmations w.odoo.2)
  | decides (req : ApprovalRequest) (requestId : ℕ) (actor : DealflowUser)
      (action : ApprovalActionType) (reason : Option String) (now : Timestamp)
      (guarded : guardDecision w.db requestId actor = .ok req)
      (approvals : w'.db.approvals = decided w.db.approvals req actor action reason now)
      (calls : confirmations w'.odoo.2 = confirmations w.odoo.2 ∨
        confirmations w'.odoo.2 = confirmations w.odoo.2 ++ [terms w.odoo.1] ∧
          MayConfirm w op ∧ w'.db.deal.approvalState = .approved)
  | confirms (approvals : w'.db.approvals = w.db.approvals)
      (calls : confirmations w'.odoo.2 = confirmations w.odoo.2 ++ [terms w.odoo.1])
      (may : MayConfirm w op) (state : w'.db.deal.approvalState = .approved)

end Runs

/-! ## What the calls show -/

section Shown

variable {σ : Type} {gateway : OdooGateway σ} {terms : σ → List LineTerms} {orderId : ℤ}

theorem confirmations_concat {V : Type} (calls : List (GatewayCall V)) (call : GatewayCall V) :
    confirmations (calls ++ [call]) = confirmations calls ++ confirmations [call] :=
  List.filterMap_append

theorem recording_reads (laws : OrderLaws gateway orderId terms) :
    ReadsKeep (recording gateway terms) (shown terms) where
  getSaleOrder id s := Prod.ext (laws.reads.getSaleOrder id s.1) rfl
  getAvailability ids s := Prod.ext (laws.reads.getAvailability ids s.1) rfl

theorem recording_sets (laws : OrderLaws gateway orderId terms) (id : ℤ) (approvalState : String)
    (riskScore : ℚ) (locked : Bool) :
    Keeps (shown terms)
      ((recording gateway terms).setGovernance id approvalState riskScore locked) := by
  intro s
  refine Prod.ext (laws.sets id approvalState riskScore locked s.1) ?_
  exact (confirmations_concat s.2 _).trans (List.append_nil _)

theorem recording_confirm (laws : OrderLaws gateway orderId terms) (id : ℤ) (s : Recorded σ) :
    shown terms ((recording gateway terms).confirm id s).2 =
      (terms s.1, confirmations s.2 ++ [terms s.1]) :=
  Prod.ext (laws.confirms id s.1) (confirmations_concat s.2 _)

variable (gateway terms) in
/-- Writing lines calls for no confirmation. -/
theorem applyChanges_quiet (orderId : ℤ) (changes : List NegotiationChange) (s : Recorded σ) :
    (applyChanges (recording gateway terms) orderId changes s).2.2 = s.2 := by
  have reads : ReadsKeep (recording gateway terms) fun s : Recorded σ => s.2 :=
    ⟨fun _ _ => rfl, fun _ _ => rfl⟩
  exact applyChanges_keeps reads (fun _ _ _ => rfl) (fun _ _ _ _ _ => rfl) orderId changes s

end Shown

end DealFlow
