import DealFlow.Governance.DealRuns

/-!
# What the operations on a deal do

One lemma per operation says which `Effect` it has, given a gateway that obeys the laws of the order
of the deal; `DealOp.effect` collects them.  An operation that syncs and evaluates, and raises on
the way, has changed nothing of the approval chain, whatever it has written to the order before.
-/

namespace DealFlow

section Effects

variable {σ : Type} {gateway : OdooGateway σ} {terms : σ → List LineTerms} {orderId : ℤ}
  {w : World (Recorded σ)}

theorem recording_laws (laws : OrderLaws gateway orderId terms) :
    OrderLaws (recording gateway terms) orderId fun s : Recorded σ => terms s.1 where
  read s raw read := laws.read s.1 raw read
  reads :=
    { getSaleOrder := fun id => keeps_passThrough (laws.reads.getSaleOrder id)
      getAvailability := fun ids => keeps_passThrough (laws.reads.getAvailability ids) }
  sets id approvalState riskScore locked :=
    keeps_recorded (laws.sets id approvalState riskScore locked) _
  confirms id := keeps_recorded (laws.confirms id) _

/-- Nothing happened to the chain. -/
theorem Effect.same {op : DealOp σ} {w' : World (Recorded σ)}
    (approvals : w'.db.approvals = w.db.approvals)
    (quiet : confirmations w'.odoo.2 = confirmations w.odoo.2) : Effect terms op w w' :=
  .idle w.db.nextId le_rfl approvals quiet

/-! ## Evaluating -/

/-- An evaluation raises, or assesses the terms it finds. -/
theorem evaluateDeal_effect (laws : OrderLaws gateway orderId terms) (args : EvaluateArgs)
    (order : w.db.deal.odooSaleOrderId = orderId) :
    shown terms (evaluateDeal (recording gateway terms) args w).2.odoo = shown terms w.odoo ∧
      ((∃ e, (evaluateDeal (recording gateway terms) args w).1 = .error e ∧
          (evaluateDeal (recording gateway terms) args w).2.db = w.db) ∨
        ∃ response s, (evaluateDeal (recording gateway terms) args w).1 = .ok response ∧
          s.id = w.db.nextId ∧ s.terms = (terms w.odoo.1).map LineTerms.rounded ∧
          (evaluateDeal (recording gateway terms) args w).2.db.approvals =
            w.db.approvals.assess s args.now) := by
  refine ⟨evaluateDeal_keeps (recording_reads laws) (recording_sets laws) args w, ?_⟩
  rcases evaluateDeal_cases (recording gateway terms) args w with
    raised | ⟨ctx, response, read, ok, assessed⟩
  · exact .inl raised
  · subst order
    refine .inr ⟨response, _, ok, rfl, ?_, assessed⟩
    exact snapshot_terms (recording_laws laws) (Prod.ext read rfl) _ _ args

/-- Syncing and evaluating raises and leaves the chain as it was before, or assesses the terms it
finds. -/
theorem syncAndEvaluate_effect (laws : OrderLaws gateway orderId terms) (args : EvaluateArgs)
    {before : DealStore} (same : w.db.approvals = before.approvals)
    (order : w.db.deal.odooSaleOrderId = orderId) :
    shown terms (syncAndEvaluate (recording gateway terms) args before w).2.odoo =
        shown terms w.odoo ∧
      ((∃ e, (syncAndEvaluate (recording gateway terms) args before w).1 = .error e ∧
          (syncAndEvaluate (recording gateway terms) args before w).2.db.approvals =
            before.approvals) ∨
        ∃ response s, (syncAndEvaluate (recording gateway terms) args before w).1 = .ok response ∧
          s.id = before.nextId ∧ s.terms = (terms w.odoo.1).map LineTerms.rounded ∧
          (syncAndEvaluate (recording gateway terms) args before w).2.db.approvals =
            before.approvals.assess s args.now) := by
  refine ⟨syncAndEvaluate_keeps (recording_reads laws) (recording_sets laws) args before w, ?_⟩
  let actor : SyncActor := { actorId := args.actorId, actorRole := args.actorRole }
  have syncShown := syncDealFromOdoo_keeps (recording_reads laws) args.tables none actor args.now w
  obtain ⟨syncKept, commits⟩ := syncDealFromOdoo_approvals (recording gateway terms) args.tables
    none actor args.now w
  unfold syncAndEvaluate
  split
  · exact .inl ⟨_, rfl, rfl⟩
  · next committed w' synced =>
      rw [synced] at syncShown syncKept commits
      have kept : committed.approvals = before.approvals := (commits committed rfl).trans same
      have found : w'.db.approvals = before.approvals := syncKept.trans same
      have sameOrder : w'.db.deal.odooSaleOrderId = orderId :=
        (congrArg Approvals.odooSaleOrderId syncKept).trans order
      have sameTerms : terms w'.odoo.1 = terms w.odoo.1 := congrArg Prod.fst syncShown
      obtain ⟨-, outcome⟩ := evaluateDeal_effect laws args sameOrder
      split
      · exact .inl ⟨_, rfl, kept⟩
      · next response w'' ok =>
          right
          rw [ok] at outcome
          rcases outcome with ⟨e, raised, -⟩ | ⟨response', s, same', fresh, snapshot, assessed⟩
          · cases raised
          · have id : s.id = before.nextId :=
              fresh.trans (congrArg Approvals.nextId found)
            exact ⟨response, s, rfl, id, sameTerms ▸ snapshot, found ▸ assessed⟩

theorem evaluate_effect (laws : OrderLaws gateway orderId terms)
    (order : w.db.deal.odooSaleOrderId = orderId) (args : EvaluateArgs) :
    Effect terms (.evaluate args) w ((DealOp.evaluate args).apply gateway terms w) := by
  obtain ⟨same, outcome⟩ := evaluateDeal_effect laws args order
  rcases outcome with ⟨e, -, kept⟩ | ⟨response, s, -, fresh, snapshot, assessed⟩
  · exact .same (congrArg DealStore.approvals kept) (congrArg Prod.snd same)
  · refine .evaluates s args.now fresh assessed ?_ (congrArg Prod.snd same)
    have sameTerms : terms _ = terms w.odoo.1 := congrArg Prod.fst same
    exact snapshot.trans (congrArg _ sameTerms.symm)

/-! ## Negotiating and recommending -/

/-- A write to the order followed by a sync and an evaluation: either nothing happens to the chain,
or the terms as written are assessed.  What is done after that changes neither. -/
theorem written_effect (laws : OrderLaws gateway orderId terms)
    (order : w.db.deal.odooSaleOrderId = orderId) {op : DealOp σ} {args : EvaluateArgs}
    {db : DealStore} (sameChain : db.approvals = w.db.approvals) {odoo : Recorded σ}
    (quiet : odoo.2 = w.odoo.2)
    {finish : Except DealFlowException EvaluationResponse × World (Recorded σ) →
      Except ServiceError Unit × World (Recorded σ)}
    (finishApprovals : ∀ r, (finish r).2.db.approvals = r.2.db.approvals)
    (finishShown : ∀ r, shown terms (finish r).2.odoo = shown terms r.2.odoo) :
    Effect terms op w
      (finish (syncAndEvaluate (recording gateway terms) args w.db { db, odoo })).2 := by
  have sameOrder : db.deal.odooSaleOrderId = orderId :=
    (congrArg Approvals.odooSaleOrderId sameChain).trans order
  obtain ⟨same, outcome⟩ :=
    syncAndEvaluate_effect (w := { db, odoo }) laws args sameChain sameOrder
  have after := (finishShown _).trans same
  have calls := (congrArg Prod.snd after).trans (congrArg confirmations quiet)
  rcases outcome with ⟨e, -, kept⟩ | ⟨response, s, -, fresh, snapshot, assessed⟩
  · exact .same ((finishApprovals _).trans kept) calls
  · refine .evaluates s args.now fresh ((finishApprovals _).trans assessed) ?_ calls
    have sameTerms := congrArg Prod.fst after
    exact snapshot.trans (congrArg _ sameTerms.symm)

theorem acceptNegotiation_effect (laws : OrderLaws gateway orderId terms)
    (order : w.db.deal.odooSaleOrderId = orderId) {op : DealOp σ} (req : NegotiationRequest)
    (actor : DealflowUser) (tables : PolicyTables) (now : Timestamp) {answered : DealStore}
    (same : answered.approvals = w.db.approvals) :
    Effect terms op w
      (acceptNegotiation (recording gateway terms) req actor tables now answered w).2 := by
  have written := applyChanges_quiet gateway terms w.db.deal.odooSaleOrderId req.changes w.odoo
  unfold acceptNegotiation
  dsimp only
  split
  · next raised =>
      rw [raised] at written
      exact .same rfl (congrArg confirmations written)
  · next odoo applied =>
      rw [applied] at written
      refine written_effect laws order ?_ ?_ ?_ fun r => ?_
      · exact same
      · exact written
      · exact finishAcceptance_approvals req actor now
      · rw [finishAcceptance_odoo]

theorem respondNegotiation_effect (laws : OrderLaws gateway orderId terms)
    (order : w.db.deal.odooSaleOrderId = orderId) {op : DealOp σ} (requestId : ℕ)
    (actor : DealflowUser) (action : NegotiationAction) (responseMessage : Option String)
    (counterValue : Option ℚ) (tables : PolicyTables) (now : Timestamp) :
    Effect terms op w
      (respondNegotiationRequest (recording gateway terms) requestId actor action responseMessage
        counterValue tables now w).2 := by
  unfold respondNegotiationRequest
  split
  · exact .same rfl rfl
  · next req found =>
      split
      · exact .same rfl rfl
      · cases action with
        | accept => exact acceptNegotiation_effect laws order req actor tables now rfl
        | reject => exact .same rfl rfl
        | counter => exact .same rfl rfl
        | other name => exact .same rfl rfl

theorem applyRecommendation_effect (laws : OrderLaws gateway orderId terms)
    (order : w.db.deal.odooSaleOrderId = orderId) {op : DealOp σ} (recommendationId : ℕ)
    (actor : DealflowUser) (action : RecommendationAction) (tables : PolicyTables)
    (now : Timestamp) :
    Effect terms op w
      (applyRecommendationAction (recording gateway terms) recommendationId actor action tables now
        w).2 := by
  unfold applyRecommendationAction
  split
  · exact .same rfl rfl
  · next rec found =>
      cases action with
      | dismiss => exact .same rfl rfl
      | other name => exact .same rfl rfl
      | add quantity =>
          dsimp only
          split
          · exact .same rfl rfl
          · unfold addRecommended
            split
            · next raised => exact .same rfl (congrArg (fun r => confirmations r.2.2) raised.symm)
            · next odoo added =>
                dsimp only
                refine written_effect laws order ?_ ?_ ?_ ?_
                · rfl
                · exact congrArg (fun r => r.2.2) added.symm
                · exact finishAddition_approvals (recording gateway terms) rec actor tables now
                · exact finishAddition_keeps (recording_reads laws) rec actor tables now

/-! ## Confirming -/

/-- The customer confirms an approved deal. -/
theorem confirmByCustomer_called (laws : OrderLaws gateway orderId terms) {customerPartnerId : ℤ}
    {comment : Option String} {now : Timestamp}
    (may : MayConfirm w (.confirmByCustomer customerPartnerId comment now)) :
    shown terms (confirmDealByCustomer (recording gateway terms) customerPartnerId comment now
      w).2.odoo = (terms w.odoo.1, confirmations w.odoo.2 ++ [terms w.odoo.1]) := by
  rcases may with ⟨partner, unconfirmed, approved⟩
  unfold confirmDealByCustomer
  rw [if_neg (not_not.mpr partner), if_neg (Bool.eq_false_iff.mp unconfirmed)]
  dsimp only
  rw [if_pos approved, getDealForPortal_keeps (recording_reads laws)]
  exact recording_confirm laws w.db.deal.odooSaleOrderId w.odoo

theorem confirmByCustomer_effect (laws : OrderLaws gateway orderId terms) (customerPartnerId : ℤ)
    (comment : Option String) (now : Timestamp) :
    Effect terms (.confirmByCustomer customerPartnerId comment now) w
      ((DealOp.confirmByCustomer customerPartnerId comment now).apply gateway terms w) := by
  have approvals := confirmByCustomer_approvals (recording gateway terms) customerPartnerId comment
    now w
  by_cases may : MayConfirm w (.confirmByCustomer customerPartnerId comment now)
  · have called := confirmByCustomer_called laws may
    exact .confirms approvals (congrArg Prod.snd called) may
      ((congrArg Approvals.approvalState approvals).trans may.2.2)
  · refine .same approvals (congrArg Prod.snd (?_ : shown terms _ = shown terms w.odoo))
    have portal := getDealForPortal_keeps (recording_reads laws) customerPartnerId
    change shown terms (confirmDealByCustomer (recording gateway terms) customerPartnerId comment
      now w).2.odoo = _
    unfold confirmDealByCustomer
    split
    · rfl
    · next partner =>
        split
        · exact portal w
        · next unconfirmed =>
            have pending : ¬ w.db.deal.approvalState = .approved := fun approved =>
              may ⟨not_not.mp partner, Bool.eq_false_iff.mpr unconfirmed, approved⟩
            dsimp only
            rw [if_neg pending]
            exact portal _

/-! ## Deciding -/

/-- The last stage of a deal that the customer had accepted is approved. -/
theorem lastApproval_called (laws : OrderLaws gateway orderId terms) {requestId : ℕ}
    {actor : DealflowUser} {reason : Option String} {now : Timestamp}
    (may : MayConfirm w (.decide requestId actor .approve reason now)) :
    shown terms (decideApprovalRequest (recording gateway terms) requestId actor .approve reason now
      w).2.odoo = (terms w.odoo.1, confirmations w.odoo.2 ++ [terms w.odoo.1]) := by
  rcases may with ⟨accepted, req, guarded, last⟩
  rw [decideApprovalRequest_odoo (recording gateway terms) guarded]
  dsimp only
  rw [if_neg last, if_pos accepted]
  have told : shown terms (toldOdoo (recording gateway terms) w .approved false) =
      shown terms w.odoo := recording_sets laws ..
  have setTerms := congrArg Prod.fst told
  have setCalls := congrArg Prod.snd told
  refine (recording_confirm laws _ _).trans ?_
  exact Prod.ext setTerms (congrArg₂ (fun cs t => cs ++ [t]) setCalls setTerms)

/-- Any other decision calls for no confirmation. -/
theorem decide_quiet (laws : OrderLaws gateway orderId terms) {requestId : ℕ}
    {actor : DealflowUser} {action : ApprovalActionType} {reason : Option String} {now : Timestamp}
    (other : ¬ MayConfirm w (.decide requestId actor action reason now)) :
    shown terms (decideApprovalRequest (recording gateway terms) requestId actor action reason now
      w).2.odoo = shown terms w.odoo := by
  refine decideApprovalRequest_keeps (recording_sets laws) (fun req guarded approves accepted => ?_)
    reason now
  subst approves
  by_contra last
  exact other ⟨accepted, req, guarded, last⟩

theorem decide_effect (laws : OrderLaws gateway orderId terms) (requestId : ℕ)
    (actor : DealflowUser) (action : ApprovalActionType) (reason : Option String)
    (now : Timestamp) :
    Effect terms (.decide requestId actor action reason now) w
      ((DealOp.decide requestId actor action reason now).apply gateway terms w) := by
  change Effect terms _ w
    (decideApprovalRequest (recording gateway terms) requestId actor action reason now w).2
  rcases decideApprovalRequest_cases (recording gateway terms) requestId actor action reason now w
    with ⟨e, raised⟩ | ⟨req, guarded, -, outcome⟩
  · rw [raised]
    exact .same rfl rfl
  · refine .decides req requestId actor action reason now guarded outcome ?_
    by_cases may : MayConfirm w (.decide requestId actor action reason now)
    · cases action with
      | approve =>
          refine .inr ⟨congrArg Prod.snd (lastApproval_called laws may), may, ?_⟩
          rcases may with ⟨-, req', guarded', last⟩
          obtain rfl : req = req' := Except.ok.inj (guarded.symm.trans guarded')
          have approved : (decided w.db.approvals req actor .approve reason now).approvalState =
              .approved := by
            unfold decided Approvals.approve
            exact congrArg Approvals.approvalState (if_neg last)
          exact (congrArg Approvals.approvalState outcome).trans approved
      | reject => cases may
      | «return» => cases may
      | escalate => cases may
      | invalidate => cases may
    · exact .inl (congrArg Prod.snd (decide_quiet laws may))

/-! ## Every operation -/

theorem handleOdooInboundEvent_approvals (payload : OdooEventPayload) (now : Timestamp)
    (db : DealStore) : (handleOdooInboundEvent payload now db).approvals = db.approvals := by
  unfold handleOdooInboundEvent
  split
  · rfl
  · dsimp only
    split
    · unfold dispatchEvent
      split <;> rfl
    · rfl

/-- The effect of an operation on the deal of an order whose laws the gateway obeys. -/
theorem DealOp.effect (laws : OrderLaws gateway orderId terms)
    (order : w.db.deal.odooSaleOrderId = orderId) (op : DealOp σ) :
    Effect terms op w (op.apply gateway terms w) := by
  cases op with
  | evaluate args => exact evaluate_effect laws order args
  | decide requestId actor action reason now =>
      exact decide_effect laws requestId actor action reason now
  | sync tables expectedVersion actor now =>
      have same := syncDealFromOdoo_keeps (recording_reads laws) tables expectedVersion actor now w
      obtain ⟨kept, -⟩ := syncDealFromOdoo_approvals (recording gateway terms) tables
        expectedVersion actor now w
      exact .same kept (congrArg Prod.snd same)
  | send currentUser now => exact .same rfl rfl
  | submitNegotiation customerPartnerId actorUserId payload now =>
      obtain ⟨n, later, approvals⟩ :=
        submitNegotiation_approvals customerPartnerId actorUserId payload now w.db
      exact .idle n later approvals rfl
  | respondNegotiation requestId actor action responseMessage counterValue tables now =>
      exact respondNegotiation_effect laws order requestId actor action responseMessage counterValue
        tables now
  | confirmByCustomer customerPartnerId comment now =>
      exact confirmByCustomer_effect laws customerPartnerId comment now
  | applyRecommendation recommendationId actor action tables now =>
      exact applyRecommendation_effect laws order recommendationId actor action tables now
  | inboundEvent payload now =>
      exact .same (handleOdooInboundEvent_approvals payload now w.db) rfl
  | bookkeeping b =>
      obtain ⟨n, later, approvals⟩ := b.keepsApprovals w.db
      exact .idle n later approvals rfl
  | editOrder change => exact .same rfl rfl

/-- Where an operation may call for a confirmation, it does. -/
theorem MayConfirm.called (laws : OrderLaws gateway orderId terms) {op : DealOp σ}
    (may : MayConfirm w op) :
    confirmations (op.apply gateway terms w).odoo.2 =
      confirmations w.odoo.2 ++ [terms w.odoo.1] := by
  cases op with
  | confirmByCustomer customerPartnerId comment now =>
      exact congrArg Prod.snd (confirmByCustomer_called laws may)
  | decide requestId actor action reason now =>
      cases action with
      | approve => exact congrArg Prod.snd (lastApproval_called laws may)
      | reject => cases may
      | «return» => cases may
      | escalate => cases may
      | invalidate => cases may
  | evaluate | sync | send | submitNegotiation | respondNegotiation | applyRecommendation
  | inboundEvent | bookkeeping | editOrder => cases may

end Effects

end DealFlow
