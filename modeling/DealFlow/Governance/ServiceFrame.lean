import DealFlow.Governance.Frame
import DealFlow.Services.PortalService
import DealFlow.Services.RecommendationService

/-!
# What the services do besides governing

The services around governance read the order, evaluate, and rewrite rows of their own.  A view of
the Odoo side that reads and `set_governance` leave alone is kept by their syncs, evaluations and
portal views, and by their writes to the order where these leave it alone.  The approval chain is
left alone by everything but the evaluation itself.
-/

namespace DealFlow

section OdooSide

variable {σ β : Type} {gateway : OdooGateway σ} {f : σ → β}

theorem syncDealFromOdoo_keeps (reads : ReadsKeep gateway f) (tables : PolicyTables)
    (expectedVersion : Option ℤ) (actor : SyncActor) (now : Timestamp) (w : World σ) :
    f (syncDealFromOdoo gateway tables expectedVersion actor now w).2.odoo = f w.odoo := by
  have read := buildDealContext_keeps reads tables w.db.deal.odooSaleOrderId w.odoo
  unfold syncDealFromOdoo
  split
  · next raised =>
      rw [raised] at read
      exact read
  · next built =>
      rw [built] at read
      split
      · exact read
      · exact read

theorem syncAndEvaluate_keeps (reads : ReadsKeep gateway f)
    (sets : ∀ orderId approvalState riskScore locked,
      Keeps f (gateway.setGovernance orderId approvalState riskScore locked))
    (args : EvaluateArgs) (before : DealStore) (w : World σ) :
    f (syncAndEvaluate gateway args before w).2.odoo = f w.odoo := by
  have read := syncDealFromOdoo_keeps reads args.tables none
    { actorId := args.actorId, actorRole := args.actorRole } args.now w
  unfold syncAndEvaluate
  split
  · next raised =>
      rw [raised] at read
      exact read
  · next committed w' synced =>
      rw [synced] at read
      have evaluated := evaluateDeal_keeps reads sets args w'
      split
      · next raised =>
          rw [raised] at evaluated
          exact evaluated.trans read
      · next done =>
          rw [done] at evaluated
          exact evaluated.trans read

theorem finishAcceptance_odoo (req : NegotiationRequest) (actor : DealflowUser)
    (now : Timestamp) (r : Except DealFlowException EvaluationResponse × World σ) :
    (finishAcceptance req actor now r).2.odoo = r.2.odoo := by
  rcases r with ⟨e | response, w⟩ <;> rfl

theorem finishAddition_keeps (reads : ReadsKeep gateway f) (rec : Recommendation)
    (actor : DealflowUser) (tables : PolicyTables) (now : Timestamp)
    (r : Except DealFlowException EvaluationResponse × World σ) :
    f (finishAddition gateway rec actor tables now r).2.odoo = f r.2.odoo := by
  rcases r with ⟨e | response, w⟩
  · rfl
  · have read := buildDealContext_keeps reads tables w.db.deal.odooSaleOrderId w.odoo
    unfold finishAddition
    dsimp only
    split
    · next raised => exact (congrArg (fun r => f r.2) raised).symm.trans read
    · next built => exact (congrArg (fun r => f r.2) built).symm.trans read

section Writes

variable (reads : ReadsKeep gateway f)
  (writes : ∀ orderId changes, Keeps f (gateway.applyLineChanges orderId changes))
  (adds : ∀ orderId productId qty discount, Keeps f (gateway.addLine orderId productId qty discount))

include reads writes adds

theorem applyChange_keeps (orderId : ℤ) (chg : NegotiationChange) :
    Keeps f (applyChange gateway orderId chg) := by
  intro s
  unfold applyChange
  split
  · exact writes ..
  · exact writes ..
  · split
    · next raised => exact (congrArg (fun r => f r.2) raised).symm.trans (adds ..)
    · next done => exact (congrArg (fun r => f r.2) done).symm.trans (adds ..)
  · exact writes ..
  · have read := reads.getSaleOrder orderId s
    split
    · next raised =>
        rw [raised] at read
        exact read
    · next raw found =>
        rw [found] at read
        split
        · exact read
        · exact (writes ..).trans read
  · rfl

theorem applyChanges_keeps (orderId : ℤ) (changes : List NegotiationChange) :
    Keeps f (applyChanges gateway orderId changes) := by
  induction changes with
  | nil => exact fun s => rfl
  | cons chg changes ih =>
      intro s
      have first := applyChange_keeps reads writes adds orderId chg s
      unfold applyChanges
      split
      · next raised =>
          rw [raised] at first
          exact first
      · next applied =>
          rw [applied] at first
          exact (ih _).trans first

end Writes

/-- After its changes an acceptance reads and sets the governance of the order. -/
theorem acceptNegotiation_written (reads : ReadsKeep gateway f)
    (sets : ∀ orderId approvalState riskScore locked,
      Keeps f (gateway.setGovernance orderId approvalState riskScore locked))
    (req : NegotiationRequest) (actor : DealflowUser) (tables : PolicyTables) (now : Timestamp)
    (answered : DealStore) (w : World σ) :
    f (acceptNegotiation gateway req actor tables now answered w).2.odoo =
      f (applyChanges gateway w.db.deal.odooSaleOrderId req.changes w.odoo).2 := by
  unfold acceptNegotiation
  dsimp only
  split
  · next raised => rw [raised]
  · next applied =>
      rw [applied, finishAcceptance_odoo]
      exact syncAndEvaluate_keeps reads sets _ _ _

theorem applyRecommendation_keeps (reads : ReadsKeep gateway f)
    (sets : ∀ orderId approvalState riskScore locked,
      Keeps f (gateway.setGovernance orderId approvalState riskScore locked))
    (recommendationId : ℕ) (actor : DealflowUser) {action : RecommendationAction}
    (tables : PolicyTables) (now : Timestamp) {w : World σ}
    (written : ∀ quantity, action = .add quantity → ∀ rec ∈ w.db.recommendations,
      f (gateway.addLine w.db.deal.odooSaleOrderId rec.odooProductId quantity 0 w.odoo).2 =
        f w.odoo) :
    f (applyRecommendationAction gateway recommendationId actor action tables now w).2.odoo =
      f w.odoo := by
  unfold applyRecommendationAction
  split
  · rfl
  · next rec found =>
      cases action with
      | add quantity =>
          have added := written quantity rfl rec (List.mem_of_find?_eq_some found)
          dsimp only
          split
          · rfl
          · unfold addRecommended
            split
            · next raised =>
                rw [raised] at added
                exact added
            · next placed =>
                rw [placed] at added
                dsimp only
                rw [finishAddition_keeps reads]
                exact (syncAndEvaluate_keeps reads sets _ _ _).trans added
      | dismiss => rfl
      | other name => rfl

theorem getDealForPortal_keeps (reads : ReadsKeep gateway f) (customerPartnerId : ℤ)
    (w : World σ) : f (getDealForPortal gateway customerPartnerId w).2.odoo = f w.odoo := by
  have read := reads.getSaleOrder w.db.deal.odooSaleOrderId w.odoo
  unfold getDealForPortal
  split
  · rfl
  · split
    · next raised =>
        rw [raised] at read
        exact read
    · next found =>
        rw [found] at read
        exact read

end OdooSide

/-! ## Views of the store -/

section Views

variable {σ γ : Type} {view : DealStore → γ}
  (figures : ∀ ctx now db, view (db.updateDeal (syncedDeal ctx now)) = view db)
  (events : ∀ event db, view (db.recordAuditEvent event) = view db)

include figures events

/-- A sync refreshes figures of the deal and records an event, in what it commits and in what it
leaves. -/
theorem syncDealFromOdoo_view (gateway : OdooGateway σ) (tables : PolicyTables)
    (expectedVersion : Option ℤ) (actor : SyncActor) (now : Timestamp) (w : World σ) :
    view (syncDealFromOdoo gateway tables expectedVersion actor now w).2.db = view w.db ∧
      ∀ committed, (syncDealFromOdoo gateway tables expectedVersion actor now w).1 = .ok committed →
        view committed = view w.db := by
  unfold syncDealFromOdoo
  split
  · refine ⟨rfl, fun committed ok => ?_⟩
    cases ok
  · split
    · refine ⟨rfl, fun committed ok => ?_⟩
      cases ok
    · refine ⟨(events _ _).trans (figures _ _ _), fun committed ok => ?_⟩
      cases ok
      exact figures _ _ _

/-- So does a sync with evaluation, where an evaluation leaves the view. -/
theorem syncAndEvaluate_view {gateway : OdooGateway σ} {args : EvaluateArgs}
    (evaluates : ∀ w, view (evaluateDeal gateway args w).2.db = view w.db) (before : DealStore)
    (w : World σ) (same : view w.db = view before) :
    view (syncAndEvaluate gateway args before w).2.db = view before := by
  obtain ⟨kept, commits⟩ := syncDealFromOdoo_view figures events gateway args.tables none
    { actorId := args.actorId, actorRole := args.actorRole } args.now w
  unfold syncAndEvaluate
  split
  · rfl
  · next committed w' synced =>
      rw [synced] at kept commits
      have evaluated := evaluates w'
      split
      · exact (commits committed rfl).trans same
      · next ok =>
          rw [ok] at evaluated
          exact evaluated.trans (kept.trans same)

end Views

/-! ## The approval chain -/

section Chain

variable {σ : Type}

theorem syncDealFromOdoo_approvals (gateway : OdooGateway σ) (tables : PolicyTables)
    (expectedVersion : Option ℤ) (actor : SyncActor) (now : Timestamp) (w : World σ) :
    (syncDealFromOdoo gateway tables expectedVersion actor now w).2.db.approvals =
        w.db.approvals ∧
      ∀ committed, (syncDealFromOdoo gateway tables expectedVersion actor now w).1 = .ok committed →
        committed.approvals = w.db.approvals :=
  syncDealFromOdoo_view (fun _ _ _ => rfl) (fun _ _ => rfl) gateway tables expectedVersion actor now
    w

theorem finishAcceptance_approvals (req : NegotiationRequest) (actor : DealflowUser)
    (now : Timestamp) (r : Except DealFlowException EvaluationResponse × World σ) :
    (finishAcceptance req actor now r).2.db.approvals = r.2.db.approvals := by
  rcases r with ⟨e | response, w⟩ <;> rfl

theorem finishAddition_approvals (gateway : OdooGateway σ) (rec : Recommendation)
    (actor : DealflowUser) (tables : PolicyTables) (now : Timestamp)
    (r : Except DealFlowException EvaluationResponse × World σ) :
    (finishAddition gateway rec actor tables now r).2.db.approvals = r.2.db.approvals := by
  rcases r with ⟨e | response, w⟩
  · rfl
  · unfold finishAddition
    dsimp only
    split <;> rfl

theorem submitNegotiation_approvals (customerPartnerId actorUserId : ℤ)
    (payload : PortalNegotiationSubmit) (now : Timestamp) (db : DealStore) :
    ∃ n, db.nextId ≤ n ∧
      (submitNegotiationRequest customerPartnerId actorUserId payload now db).2.approvals =
        { db.approvals with nextId := n } := by
  unfold submitNegotiationRequest
  split
  · exact ⟨db.nextId, le_rfl, rfl⟩
  · split
    · exact ⟨db.nextId, le_rfl, rfl⟩
    · refine ⟨db.nextId + 1, Nat.le_succ _, ?_⟩
      dsimp only
      rw [createNotification_approvals]
      rfl

theorem getDealForPortal_db (gateway : OdooGateway σ) (customerPartnerId : ℤ) (w : World σ) :
    (getDealForPortal gateway customerPartnerId w).2.db = w.db := by
  unfold getDealForPortal
  split
  · rfl
  · split <;> rfl

theorem acceptPending_approvals (customerPartnerId : ℤ) (now : Timestamp) (db : DealStore) :
    (acceptPending customerPartnerId now db).approvals = db.approvals := by
  unfold acceptPending
  exact createNotification_approvals _ _

theorem confirmApproved_approvals (gateway : OdooGateway σ) (customerPartnerId : ℤ)
    (now : Timestamp) (w : World σ) :
    (confirmApproved gateway customerPartnerId now w).db.approvals = w.db.approvals := by
  unfold confirmApproved
  exact createNotification_approvals _ _

theorem noteConfirmation_approvals (comment : Option String) (now : Timestamp) (db : DealStore) :
    (noteConfirmation comment now db).approvals = db.approvals := by
  unfold noteConfirmation
  split <;> rfl

/-- A customer's confirmation leaves the chain alone. -/
theorem confirmByCustomer_approvals (gateway : OdooGateway σ) (customerPartnerId : ℤ)
    (comment : Option String) (now : Timestamp) (w : World σ) :
    (confirmDealByCustomer gateway customerPartnerId comment now w).2.db.approvals =
      w.db.approvals := by
  unfold confirmDealByCustomer
  split
  · rfl
  · split
    · exact congrArg DealStore.approvals (getDealForPortal_db gateway customerPartnerId w)
    · dsimp only
      rw [getDealForPortal_db, noteConfirmation_approvals]
      split
      · exact confirmApproved_approvals gateway customerPartnerId now w
      · exact acceptPending_approvals customerPartnerId now w.db

end Chain

end DealFlow
