import DealFlow.Governance.AcceptedTerms
import DealFlow.Governance.Reevaluation

/-!
# Acceptances that are stuck

A customer's acceptance waits for the approval of the deal, and the approval confirms the order.  So
no acceptance should wait on a deal that is approved, or that was evaluated to need no approval
(`Stuck`), as long as the gateway carries out the confirmations called for.

Decisions see to that.  But a customer who confirms a deal that needs no approval is made to wait
for one, and an evaluation that finds none needed does not ask whether an acceptance waits
(`StrandsAcceptance`).  A run is free of stuck acceptances exactly when no step of it does either
(`stuckAcceptance_run_iff`).
-/

namespace DealFlow

open Lib

section Acceptance

variable {σ : Type}

/-- The operations of governance, negotiation and the portal. -/
def LifecycleOp.IsDealing : LifecycleOp σ → Prop
  | .evaluate _ | .decide _ _ _ _ _ | .submitNegotiation _ _ _ _
  | .respondNegotiation _ _ _ _ _ _ _ | .confirmByCustomer _ _ _ => True
  | .sync _ _ _ _ | .send _ _ | .applyRecommendation _ _ _ _ _ | .applyFulfillment _ _ _
  | .recordPayment _ _ _ _ | .inboundEvent _ _ | .changePlans _ | .onOdoo _ => False

/-- The gateway carries out a confirmation that the operation calls for. -/
def ConfirmSucceeds (gateway : BackOfficeGateway σ) (w : DealWorld σ) (op : LifecycleOp σ) : Prop :=
  CallsConfirm w.toWorld op →
    (gateway.confirm w.db.deal.odooSaleOrderId
      (calledOn gateway.toOdooGateway w.toWorld op)).1.isOk = true

/-- An acceptance waits on a deal that needs no approval, or none any more. -/
def Stuck (db : DealStore) : Prop :=
  db.deal.customerConfirmedPending = true ∧
    (db.deal.approvalState = .approved ∨ db.deal.approvalState = .evaluatedNoApproval)

instance (db : DealStore) : Decidable (Stuck db) :=
  inferInstanceAs (Decidable (_ ∧ _))

/-- The level an operation assesses the deal at, if it gets that far. -/
def LifecycleOp.assessedLevel (gateway : BackOfficeGateway σ) (w : DealWorld σ) :
    LifecycleOp σ → Option ApprovalLevel
  | .evaluate args =>
      match (buildDealContext gateway.toOdooGateway args.tables w.db.deal.odooSaleOrderId
          w.odoo).1 with
      | .error _ => none
      | .ok ctx => some (assessRisk w.db args.tables ctx).requiredLevel
  | .respondNegotiation requestId _ .accept _ _ tables _ =>
      (openNegotiation w.db requestId).bind fun req =>
        (acceptedContext gateway.toOdooGateway tables req w.toWorld).map fun ctx =>
          (assessRisk (acceptedStore req w.db) tables ctx).requiredLevel
  | _ => none

/-- The customer confirms a deal that needs no approval, or an evaluation finds that a deal needs
none while an acceptance waits. -/
def StrandsAcceptance (gateway : BackOfficeGateway σ) (w : DealWorld σ) : LifecycleOp σ → Prop
  | .confirmByCustomer customerPartnerId _ _ =>
      ReachesDeal w.db customerPartnerId ∧ w.db.deal.approvalState = .evaluatedNoApproval
  | op => w.db.deal.customerConfirmedPending = true ∧ op.assessedLevel gateway w = some .none

/-! ## Assessing -/

/-- What becomes of the chain when a deal is assessed at a level, or not at all. -/
def Assessed (level : Option ApprovalLevel) (a a' : Approvals) : Prop :=
  (level = none ∧ a'.approvalState = a.approvalState) ∨
    ∃ s now, level = some s.requiredLevel ∧ a' = a.assess s now

variable (gateway : BackOfficeGateway σ)

theorem evaluate_assessed (args : EvaluateArgs) (w : DealWorld σ) :
    Assessed ((LifecycleOp.evaluate args).assessedLevel gateway w) w.db.approvals
      ((LifecycleOp.evaluate args).apply gateway w).db.approvals := by
  unfold LifecycleOp.assessedLevel
  dsimp only
  rcases built : buildDealContext gateway.toOdooGateway args.tables w.db.deal.odooSaleOrderId
      w.odoo with ⟨e | ctx, odoo⟩
  · refine .inl ⟨rfl, ?_⟩
    exact congrArg (fun r : _ × World σ => r.2.db.approvals.approvalState)
      (evaluateDeal_raises (w := w.toWorld) built)
  · refine .inr
      ⟨newAssessment w.db.nextId ctx (assessRisk w.db args.tables ctx) args, args.now, rfl, ?_⟩
    exact (evaluateDeal_approvals (w := w.toWorld) built).trans
      (settleEvaluation_approvals w.db args ctx)

/-- What else is noted of an answer has no part in the risk. -/
theorem acceptedStore_assessRisk (req : NegotiationRequest) (db : DealStore)
    {f : NegotiationRequest → NegotiationRequest}
    (keeps : ∀ n, (f n).id = n.id ∧ (f n).type = n.type) (tables : PolicyTables)
    (ctx : DealContext) :
    assessRisk (acceptedStore req (updateNegotiation db req.id f)) tables ctx =
      assessRisk (acceptedStore req db) tables ctx := by
  have counter : hasOpenCounter (acceptedStore req (updateNegotiation db req.id f)) =
      hasOpenCounter (acceptedStore req db) := by
    unfold hasOpenCounter acceptedStore updateNegotiation
    simp only [List.map_map, List.any_map]
    congr 1
    funext n
    by_cases same : n.id = req.id
    · simp [same, (keeps n).1]
    · simp [same]
  unfold assessRisk
  rw [counter]

theorem respondNegotiation_assessed (requestId : ℕ) (actor : DealflowUser)
    (action : NegotiationAction) (responseMessage : Option String) (counterValue : Option ℚ)
    (tables : PolicyTables) (now : Timestamp) (w : DealWorld σ) :
    Assessed
      ((LifecycleOp.respondNegotiation requestId actor action responseMessage counterValue tables
        now).assessedLevel gateway w) w.db.approvals
      ((LifecycleOp.respondNegotiation requestId actor action responseMessage counterValue tables
        now).apply gateway w).db.approvals := by
  change Assessed _ _ (respondNegotiationRequest gateway.toOdooGateway requestId actor action
    responseMessage counterValue tables now w.toWorld).2.db.approvals
  by_cases accepts : action = .accept
  · subst accepts
    unfold LifecycleOp.assessedLevel
    dsimp only
    cases opened : openNegotiation w.db requestId with
    | none =>
        rw [respondNegotiation_closed _ _ _ _ _ opened]
        exact .inl ⟨rfl, rfl⟩
    | some req =>
        rw [respondNegotiation_accept _ _ _ _ _ opened, Option.bind_some]
        rcases acceptNegotiation_cases gateway.toOdooGateway req actor tables now
            (answeredStore req actor responseMessage now w.db) w.toWorld rfl rfl with
          ⟨unread, -, same⟩ | ⟨ctx, read, -, assessed⟩
        · rw [unread]
          exact .inl ⟨rfl, congrArg Approvals.approvalState same⟩
        · rw [read]
          refine .inr ⟨_, now, ?_, assessed⟩
          refine congrArg (fun r : RiskCalculationResult => some r.requiredLevel)
            (acceptedStore_assessRisk req w.db ?_ tables ctx).symm
          exact fun n => ⟨rfl, rfl⟩
  · have unassessed : (LifecycleOp.respondNegotiation requestId actor action responseMessage
        counterValue tables now).assessedLevel gateway w = none := by
      cases action with
      | accept => exact absurd rfl accepts
      | reject | counter | other => rfl
    refine .inl ⟨unassessed, congrArg Approvals.approvalState ?_⟩
    cases opened : openNegotiation w.db requestId with
    | none => rw [respondNegotiation_closed _ _ _ _ _ opened]
    | some req => exact (respondNegotiation_refusal _ _ _ _ _ opened accepts).2.1

/-! ## One step -/

variable {gateway}

/-- Without a new acceptance, one gets stuck exactly where the deal is assessed to need no approval
while it waits. -/
theorem stuck_assessed_iff {db db' : DealStore} {level : Option ApprovalLevel} (free : ¬ Stuck db)
    (flag : db'.deal.customerConfirmedPending = db.deal.customerConfirmedPending)
    (assessed : Assessed level db.approvals db'.approvals) :
    Stuck db' ↔ db.deal.customerConfirmedPending = true ∧ level = some .none := by
  unfold Stuck
  rw [flag]
  refine and_congr_right fun waits => ?_
  have unapproved : db.approvals.approvalState ≠ .approved := fun approved =>
    free ⟨waits, .inl approved⟩
  rcases assessed with ⟨rfl, same⟩ | ⟨s, now, rfl, chain⟩
  · have state : db'.deal.approvalState = db.deal.approvalState := same
    rw [state]
    exact iff_of_false (fun cleared => free ⟨waits, cleared⟩) nofun
  · obtain ⟨opened, -, outcome⟩ := assess_anew (a := db.approvals) s now unapproved
    have state : db'.deal.approvalState = _ := congrArg Approvals.approvalState chain
    rw [state]
    rcases outcome with ⟨level, -, cleared⟩ | ⟨level, -, pending⟩
    · exact iff_of_true (.inr cleared) (congrArg some level)
    · rw [pending]
      refine iff_of_false (fun cleared => ?_) fun none => level (Option.some.inj none)
      rcases cleared with approved | unneeded
      · cases approved
      · cases unneeded

/-- Only an approval makes a deal approved, and no decision finds that none is needed. -/
theorem decided_cleared {a : Approvals} {req : ApprovalRequest} {actor : DealflowUser}
    {action : ApprovalActionType} {reason : Option String} {now : Timestamp}
    (before : ¬ (a.approvalState = .approved ∨ a.approvalState = .evaluatedNoApproval))
    (after : (decided a req actor action reason now).approvalState = .approved ∨
      (decided a req actor action reason now).approvalState = .evaluatedNoApproval) :
    action = .approve ∧
      ¬ (a.requiredLevel = .managerAndFinance ∧ req.requiredLevel = .salesManager) := by
  cases action with
  | approve =>
      refine ⟨rfl, fun twoStage => ?_⟩
      unfold decided Approvals.approve at after
      dsimp only at after
      rw [if_pos twoStage] at after
      rcases after with approved | unneeded
      · cases approved
      · cases unneeded
  | reject =>
      rcases after with approved | unneeded
      · cases approved
      · cases unneeded
  | «return» =>
      rcases after with approved | unneeded
      · cases approved
      · cases unneeded
  | escalate => exact absurd after before
  | invalidate => exact absurd after before

/-- No decision leaves an acceptance stuck. -/
theorem decide_unstuck {w : DealWorld σ} {requestId : ℕ} {actor : DealflowUser}
    {action : ApprovalActionType} {reason : Option String} {now : Timestamp}
    (succeeds : ConfirmSucceeds gateway w (.decide requestId actor action reason now))
    (free : ¬ Stuck w.db) :
    ¬ Stuck ((LifecycleOp.decide requestId actor action reason now).apply gateway w).db := by
  set op : LifecycleOp σ := .decide requestId actor action reason now
  have moved := congrArg Progress.customerConfirmedPending (op.apply_progress gateway w)
  rintro ⟨waitsAfter, cleared⟩
  have unconfirmed :
      ¬ ConfirmsByDecision gateway.toOdooGateway w.toWorld requestId actor action := by
    intro confirms
    have settled : op.progress gateway w = _ := if_pos confirms
    rw [settled] at moved
    cases moved.symm.trans waitsAfter
  have waits : w.db.deal.customerConfirmedPending = true := by
    have kept : op.progress gateway w = w.db.progress := if_neg unconfirmed
    rw [kept] at moved
    exact moved.symm.trans waitsAfter
  have before : ¬ (w.db.approvals.approvalState = .approved ∨
      w.db.approvals.approvalState = .evaluatedNoApproval) := fun cleared => free ⟨waits, cleared⟩
  rcases decideApprovalRequest_cases gateway.toOdooGateway requestId actor action reason now
      w.toWorld with ⟨e, raised⟩ | ⟨req, guarded, -, outcome⟩
  · have same : (op.apply gateway w).db = w.db :=
      congrArg (fun r : _ × World σ => r.2.db) raised
    rw [same] at cleared
    exact before cleared
  · have state : (op.apply gateway w).db.deal.approvalState = _ :=
      congrArg Approvals.approvalState outcome
    rw [state] at cleared
    obtain ⟨rfl, lastStage⟩ := decided_cleared before cleared
    have auto : AutoConfirms w.db req .approve := ⟨rfl, lastStage, waits⟩
    exact unconfirmed ⟨req, guarded, auto, succeeds ⟨req, guarded, auto⟩⟩

/-- The customer's confirmation gets stuck where no approval is needed. -/
theorem confirmByCustomer_stuck_iff {w : DealWorld σ} (free : ¬ Stuck w.db)
    (customerPartnerId : ℤ) (comment : Option String) (now : Timestamp) :
    Stuck ((LifecycleOp.confirmByCustomer customerPartnerId comment now).apply gateway w).db ↔
      ReachesDeal w.db customerPartnerId ∧ w.db.deal.approvalState = .evaluatedNoApproval := by
  set op : LifecycleOp σ := .confirmByCustomer customerPartnerId comment now
  have moved := congrArg Progress.customerConfirmedPending (op.apply_progress gateway w)
  have state : (op.apply gateway w).db.deal.approvalState = w.db.deal.approvalState :=
    congrArg Approvals.approvalState
      (confirmByCustomer_approvals gateway.toOdooGateway customerPartnerId comment now w.toWorld)
  by_cases reaches : ReachesDeal w.db customerPartnerId
  · have progress : op.progress gateway w =
        if w.db.deal.approvalState = .approved then
          { w.db.progress with status := .confirmed, customerConfirmedPending := false }
        else { w.db.progress with customerConfirmedPending := true } := if_pos reaches
    rw [progress] at moved
    unfold Stuck
    rw [state]
    by_cases approved : w.db.deal.approvalState = .approved
    · rw [if_pos approved] at moved
      refine iff_of_false (fun stuck => ?_) fun unneeded => ?_
      · cases moved.symm.trans stuck.1
      · cases approved.symm.trans unneeded.2
    · rw [if_neg approved] at moved
      constructor
      · rintro ⟨-, approved' | unneeded⟩
        · exact absurd approved' approved
        · exact ⟨reaches, unneeded⟩
      · rintro ⟨-, unneeded⟩
        exact ⟨moved, .inr unneeded⟩
  · have progress : op.progress gateway w = w.db.progress := if_neg reaches
    rw [progress] at moved
    refine iff_of_false (fun stuck => free ?_) fun strands => reaches strands.1
    exact ⟨moved.symm.trans stuck.1, state ▸ stuck.2⟩

/-- A step from a deal without a stuck acceptance leaves one exactly where it strands it. -/
theorem stuck_step_iff {w : DealWorld σ} {op : LifecycleOp σ} (dealing : op.IsDealing)
    (succeeds : ConfirmSucceeds gateway w op) (free : ¬ Stuck w.db) :
    Stuck (op.apply gateway w).db ↔ StrandsAcceptance gateway w op := by
  have moved := congrArg Progress.customerConfirmedPending (op.apply_progress gateway w)
  cases op with
  | evaluate args => exact stuck_assessed_iff free moved (evaluate_assessed gateway args w)
  | decide requestId actor action reason now =>
      exact iff_of_false (decide_unstuck succeeds free) fun strands => nomatch strands.2
  | submitNegotiation customerPartnerId actorUserId payload now =>
      obtain ⟨n, -, approvals⟩ :=
        submitNegotiation_approvals customerPartnerId actorUserId payload now w.db
      have state := congrArg Approvals.approvalState approvals
      refine stuck_assessed_iff free (moved.trans ?_) (.inl ⟨rfl, state⟩)
      unfold LifecycleOp.progress
      dsimp only
      split <;> rfl
  | respondNegotiation requestId actor action responseMessage counterValue tables now =>
      refine stuck_assessed_iff free (moved.trans ?_) (respondNegotiation_assessed ..)
      unfold LifecycleOp.progress
      dsimp only
      split <;> rfl
  | confirmByCustomer customerPartnerId comment now =>
      exact confirmByCustomer_stuck_iff free customerPartnerId comment now
  | sync | send | applyRecommendation | applyFulfillment | recordPayment | inboundEvent
  | changePlans | onOdoo => cases dealing

/-! ## Whole runs -/

/-- Where the gateway carries out the confirmations called for, a run never reaches a stuck
acceptance exactly when no step of it strands one. -/
theorem stuckAcceptance_run_iff {w : DealWorld σ} (free : ¬ Stuck w.db)
    (ops : List (LifecycleOp σ)) (dealing : ∀ op ∈ ops, op.IsDealing)
    (succeeds : ∀ t ∈ history (LifecycleOp.apply gateway) ops w, ConfirmSucceeds gateway t.1 t.2) :
    (∀ t ∈ history (LifecycleOp.apply gateway) ops w, ¬ Stuck (t.2.apply gateway t.1).db) ↔
      ∀ t ∈ history (LifecycleOp.apply gateway) ops w, ¬ StrandsAcceptance gateway t.1 t.2 := by
  have allowed := history_allowed (LifecycleOp.apply gateway) dealing w
  have same : ∀ (now : DealWorld σ) (op : LifecycleOp σ),
      op.IsDealing ∧ ConfirmSucceeds gateway now op → ¬ Stuck now.db →
        (¬ Stuck (op.apply gateway now).db ↔ ¬ StrandsAcceptance gateway now op) :=
    fun now op fits free => not_congr (stuck_step_iff fits.1 fits.2 free)
  exact run_forall_iff (fun now => ¬ Stuck now.db) free same
    (fun now op fits free kept => (same now op fits free).mpr kept) ops
    fun t mem => ⟨allowed t mem, succeeds t mem⟩

end Acceptance

/-! ## The in-memory gateway -/

theorem acceptService_stuck_iff :
    (∀ t ∈ history (LifecycleOp.apply fakeBooksGateway) acceptService serviceBooks,
        ¬ Stuck (t.2.apply fakeBooksGateway t.1).db) ↔
      ∀ t ∈ history (LifecycleOp.apply fakeBooksGateway) acceptService serviceBooks,
        ¬ StrandsAcceptance fakeBooksGateway t.1 t.2 := by
  refine stuckAcceptance_run_iff (by decide) acceptService ?_ ?_
  · simp [acceptService, LifecycleOp.IsDealing]
  · intro t mem
    simp only [acceptService, history_cons, history_nil, List.mem_cons, List.not_mem_nil,
      or_false] at mem
    rcases mem with rfl | rfl | rfl | rfl
    · exact fun calls => False.elim calls
    · intro calls
      have approved := calls.2
      revert approved
      decide +kernel
    · intro _
      decide +kernel
    · intro _
      decide +kernel

/-- The service deal at a discount that needs no approval. -/
def modestBooks : DealWorld FakeBooks :=
  { serviceBooks with
    odoo :=
      { serviceBooks.odoo with
        toFakeOdoo := serviceOdoo.editLines 101 (List.map fun l => { l with discountPct := 5 }) } }

/-- Its customer confirms it, and waits for an approval that no one is asked for. -/
theorem modestBooks_stuck :
    Stuck (run (LifecycleOp.apply fakeBooksGateway)
        [.evaluate { tables := goldTables, now := 1 }, .confirmByCustomer 1 none 2]
        modestBooks).db ∧
      (run (LifecycleOp.apply fakeBooksGateway)
        [.evaluate { tables := goldTables, now := 1 }, .confirmByCustomer 1 none 2]
        modestBooks).db.requests = [] ∧
      (run (LifecycleOp.apply fakeBooksGateway)
        [.evaluate { tables := goldTables, now := 1 }, .confirmByCustomer 1 none 2]
        modestBooks).odoo.orderState 101 = some "draft" := by
  decide +kernel

end DealFlow
