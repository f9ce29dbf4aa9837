import DealFlow.Governance.DealRuns
import DealFlow.Governance.LifecycleRuns

/-!
# What the operations of the lifecycle do

Beside reading orders and setting their governance, an operation may write to the Odoo side: lines,
pickings, payments, or a change from outside (`LifecycleOp.LeavesAlone` says that it leaves alone
what a view shows), and it may call for the confirmation of the order (`CallsConfirm`).

`LifecycleOp.moves` says where an operation may take the deal, and `LifecycleOp.odoo_cases` what it
does to the Odoo side: a view that reads, governance and the operation's own writes leave alone
changes at most by the confirmation that is called for.  Where the gateway's calls are recorded,
`newConfirmations_cases` says which confirmations an operation adds.
-/

namespace DealFlow

section Frame

variable {σ β : Type}

/-- The customer confirms an approved deal, or the last approval of a deal that the customer has
accepted does. -/
def CallsConfirm (w : World σ) : LifecycleOp σ → Prop
  | .confirmByCustomer customerPartnerId _ _ =>
      ReachesDeal w.db customerPartnerId ∧ w.db.deal.approvalState = .approved
  | .decide requestId actor action _ _ =>
      ∃ req, guardDecision w.db requestId actor = .ok req ∧ AutoConfirms w.db req action
  | _ => False

/-- The customer confirms the deal in the portal. -/
def ConfirmsInPortal (w : World σ) : LifecycleOp σ → Prop
  | .confirmByCustomer customerPartnerId _ _ => ReachesDeal w.db customerPartnerId
  | _ => False

instance (w : World σ) (op : LifecycleOp σ) : Decidable (ConfirmsInPortal w op) := by
  cases op
  case confirmByCustomer customerPartnerId comment now =>
    exact inferInstanceAs (Decidable (ReachesDeal w.db customerPartnerId))
  all_goals exact inferInstanceAs (Decidable False)

/-- The Odoo side on which an operation calls for the confirmation. -/
def calledOn (gateway : OdooGateway σ) (w : World σ) : LifecycleOp σ → σ
  | .decide _ _ _ _ _ => unlockedOdoo gateway w
  | _ => w.odoo

/-- What the operation writes to the Odoo side leaves alone what `f` shows. -/
def LifecycleOp.LeavesAlone (gateway : BackOfficeGateway σ) (f : σ → β) (w : DealWorld σ) :
    LifecycleOp σ → Prop
  | .respondNegotiation requestId _ action _ _ _ _ =>
      action = .accept → ∀ req, openNegotiation w.db requestId = some req →
        f (applyChanges gateway.toOdooGateway w.db.deal.odooSaleOrderId req.changes w.odoo).2 =
          f w.odoo
  | .applyRecommendation _ _ action _ _ =>
      ∀ quantity, action = .add quantity → ∀ rec ∈ w.db.recommendations,
        f (gateway.addLine w.db.deal.odooSaleOrderId rec.odooProductId quantity 0 w.odoo).2 =
          f w.odoo
  | .applyFulfillment planId _ _ =>
      ∀ plan, guardPlan w planId = .ok plan →
        f (gateway.applyFulfillmentPlan w.db.deal.odooSaleOrderId plan.allocPayload w.odoo).2 =
          f w.odoo
  | .recordPayment invId amount _ _ => f (gateway.registerPayment invId amount w.odoo).2 = f w.odoo
  | .onOdoo change => f (change w.odoo) = f w.odoo
  | .evaluate _ | .decide _ _ _ _ _ | .sync _ _ _ _ | .send _ _ | .submitNegotiation _ _ _ _
  | .confirmByCustomer _ _ _ | .inboundEvent _ _ | .changePlans _ => True

/-! ## Negotiating -/

section Governed

variable {gateway : OdooGateway σ} {f : σ → β}

/-- What an acceptance leaves of the order is what its changes leave. -/
theorem respondNegotiation_written (reads : ReadsKeep gateway f)
    (sets : ∀ orderId approvalState riskScore locked,
      Keeps f (gateway.setGovernance orderId approvalState riskScore locked))
    {requestId : ℕ} {w : World σ} {req : NegotiationRequest}
    (opened : openNegotiation w.db requestId = some req) (actor : DealflowUser)
    (responseMessage : Option String) (counterValue : Option ℚ) (tables : PolicyTables)
    (now : Timestamp) :
    f (respondNegotiationRequest gateway requestId actor .accept responseMessage counterValue tables
        now w).2.odoo =
      f (applyChanges gateway w.db.deal.odooSaleOrderId req.changes w.odoo).2 := by
  rw [respondNegotiation_accept _ _ _ _ _ opened]
  exact acceptNegotiation_written reads sets req actor tables now _ w

theorem respondNegotiation_keeps (reads : ReadsKeep gateway f)
    (sets : ∀ orderId approvalState riskScore locked,
      Keeps f (gateway.setGovernance orderId approvalState riskScore locked))
    {requestId : ℕ} (actor : DealflowUser) {action : NegotiationAction}
    (responseMessage : Option String) (counterValue : Option ℚ) (tables : PolicyTables)
    (now : Timestamp) {w : World σ}
    (written : action = .accept → ∀ req, openNegotiation w.db requestId = some req →
      f (applyChanges gateway w.db.deal.odooSaleOrderId req.changes w.odoo).2 = f w.odoo) :
    f (respondNegotiationRequest gateway requestId actor action responseMessage counterValue tables
      now w).2.odoo = f w.odoo := by
  cases opened : openNegotiation w.db requestId with
  | none => rw [respondNegotiation_closed _ _ _ _ _ opened]
  | some req =>
      by_cases accepts : action = .accept
      · rw [accepts, respondNegotiation_written reads sets opened]
        exact written accepts req opened
      · rw [(respondNegotiation_refusal _ _ _ _ _ opened accepts).1]

/-! ## Confirming -/

/-- Where the customer's confirmation reaches an approved deal, the order is confirmed and the
portal reads it. -/
theorem confirmByCustomer_calls (reads : ReadsKeep gateway f) {customerPartnerId : ℤ}
    {comment : Option String} {now : Timestamp} {w : World σ}
    (calls : CallsConfirm w (.confirmByCustomer customerPartnerId comment now)) :
    f (confirmDealByCustomer gateway customerPartnerId comment now w).2.odoo =
      f (gateway.confirm w.db.deal.odooSaleOrderId w.odoo).2 := by
  rcases calls with ⟨⟨partner, unconfirmed⟩, approved⟩
  unfold confirmDealByCustomer
  rw [if_neg (not_not.mpr partner), if_neg (Bool.eq_false_iff.mp unconfirmed)]
  dsimp only
  rw [if_pos approved]
  exact getDealForPortal_keeps reads _ _

theorem confirmByCustomer_quiet (reads : ReadsKeep gateway f) {customerPartnerId : ℤ}
    {comment : Option String} {now : Timestamp} {w : World σ}
    (quiet : ¬ CallsConfirm w (.confirmByCustomer customerPartnerId comment now)) :
    f (confirmDealByCustomer gateway customerPartnerId comment now w).2.odoo = f w.odoo := by
  unfold confirmDealByCustomer
  split
  · rfl
  · next partner =>
      split
      · exact getDealForPortal_keeps reads customerPartnerId w
      · next unconfirmed =>
          have unapproved : ¬ w.db.deal.approvalState = .approved := fun approved =>
            quiet ⟨⟨not_not.mp partner, Bool.eq_false_iff.mpr unconfirmed⟩, approved⟩
          dsimp only
          rw [if_neg unapproved]
          exact getDealForPortal_keeps reads _ _

/-- A decision that confirms does so last. -/
theorem decide_calls {requestId : ℕ} {actor : DealflowUser} {action : ApprovalActionType}
    {reason : Option String} {now : Timestamp} {w : World σ}
    (calls : CallsConfirm w (.decide requestId actor action reason now)) :
    (decideApprovalRequest gateway requestId actor action reason now w).2.odoo =
      (autoConfirmAnswer gateway w).2 := by
  rcases calls with ⟨req, guarded, rfl, lastStage, accepted⟩
  rw [decideApprovalRequest_odoo gateway guarded]
  exact (if_neg lastStage).trans (if_pos accepted)

theorem decide_keeps_unless (sets : ∀ orderId approvalState riskScore locked,
      Keeps f (gateway.setGovernance orderId approvalState riskScore locked))
    {requestId : ℕ} {actor : DealflowUser} {action : ApprovalActionType} {reason : Option String}
    {now : Timestamp} {w : World σ}
    (quiet : ¬ CallsConfirm w (.decide requestId actor action reason now)) :
    f (decideApprovalRequest gateway requestId actor action reason now w).2.odoo = f w.odoo := by
  refine decideApprovalRequest_keeps sets (fun req guarded approves accepted => ?_) reason now
  by_contra lastStage
  exact quiet ⟨req, guarded, approves, lastStage, accepted⟩

end Governed

/-! ## Every operation -/

variable {gateway : BackOfficeGateway σ} {f : σ → β}

theorem recordPayment_odoo (gateway : BackOfficeGateway σ) (invId : ℤ) (amount : ℚ)
    (currentUser : DealflowUser) (now : Timestamp) (w : World σ) :
    (recordInvoicePayment gateway invId amount currentUser now w).2.odoo =
      (gateway.registerPayment invId amount w.odoo).2 := by
  unfold recordInvoicePayment
  split
  · next raised => rw [raised]
  · next done => rw [done]

/-- A view that reads, governance and the writes of an operation leave alone is left alone by the
operation, up to the confirmation it may call for. -/
theorem LifecycleOp.odoo_cases (reads : ReadsKeep gateway.toOdooGateway f)
    (sets : ∀ orderId approvalState riskScore locked,
      Keeps f (gateway.setGovernance orderId approvalState riskScore locked))
    {op : LifecycleOp σ} {w : DealWorld σ} (leaves : op.LeavesAlone gateway f w) :
    (¬ CallsConfirm w.toWorld op ∧ f (op.apply gateway w).odoo = f w.odoo) ∨
      CallsConfirm w.toWorld op ∧
        f (calledOn gateway.toOdooGateway w.toWorld op) = f w.odoo ∧
        f (op.apply gateway w).odoo =
          f (gateway.confirm w.db.deal.odooSaleOrderId
            (calledOn gateway.toOdooGateway w.toWorld op)).2 := by
  cases op with
  | evaluate args => exact .inl ⟨nofun, evaluateDeal_keeps reads sets args w.toWorld⟩
  | decide requestId actor action reason now =>
      by_cases calls : CallsConfirm w.toWorld (.decide requestId actor action reason now)
      · exact .inr ⟨calls, sets _ _ _ _ w.odoo, congrArg f (decide_calls calls)⟩
      · exact .inl ⟨calls, decide_keeps_unless sets calls⟩
  | sync tables expectedVersion actor now =>
      exact .inl ⟨nofun, syncDealFromOdoo_keeps reads tables expectedVersion actor now w.toWorld⟩
  | send currentUser now => exact .inl ⟨nofun, rfl⟩
  | submitNegotiation customerPartnerId actorUserId payload now => exact .inl ⟨nofun, rfl⟩
  | respondNegotiation requestId actor action responseMessage counterValue tables now =>
      exact .inl ⟨nofun, respondNegotiation_keeps reads sets actor responseMessage counterValue
        tables now leaves⟩
  | confirmByCustomer customerPartnerId comment now =>
      by_cases calls : CallsConfirm w.toWorld (.confirmByCustomer customerPartnerId comment now)
      · exact .inr ⟨calls, rfl, confirmByCustomer_calls reads calls⟩
      · exact .inl ⟨calls, confirmByCustomer_quiet reads calls⟩
  | applyRecommendation recommendationId actor action tables now =>
      exact .inl ⟨nofun, applyRecommendation_keeps reads sets recommendationId actor tables now
        leaves⟩
  | applyFulfillment planId actor now =>
      refine .inl ⟨nofun, ?_⟩
      change f (applyFulfillmentPlan gateway planId actor now w).2.odoo = f w.odoo
      unfold applyFulfillmentPlan
      split
      · rfl
      · next plan guarded =>
          have picked := leaves plan guarded
          split
          · next raised =>
              rw [raised] at picked
              exact picked
          · next done =>
              rw [done] at picked
              exact picked
  | recordPayment invId amount currentUser now =>
      refine .inl ⟨nofun, Eq.trans (congrArg f ?_) leaves⟩
      exact recordPayment_odoo gateway invId amount currentUser now w.toWorld
  | inboundEvent payload now => exact .inl ⟨nofun, rfl⟩
  | changePlans change => exact .inl ⟨nofun, rfl⟩
  | onOdoo change => exact .inl ⟨nofun, leaves⟩

/-- A confirmation that is called for and goes through leaves the deal CONFIRMED. -/
theorem CallsConfirm.confirms {op : LifecycleOp σ} {w : DealWorld σ}
    (calls : CallsConfirm w.toWorld op)
    (answer : (gateway.confirm w.db.deal.odooSaleOrderId
      (calledOn gateway.toOdooGateway w.toWorld op)).1.isOk = true) :
    op.progress gateway w =
      { w.db.progress with status := .confirmed, customerConfirmedPending := false } := by
  cases op with
  | confirmByCustomer customerPartnerId comment now =>
      exact (if_pos calls.1).trans (if_pos calls.2)
  | decide requestId actor action reason now =>
      rcases calls with ⟨req, guarded, auto⟩
      exact if_pos ⟨req, guarded, auto, answer⟩
  | evaluate | sync | send | submitNegotiation | respondNegotiation | applyRecommendation
  | applyFulfillment | recordPayment | inboundEvent | changePlans | onOdoo => cases calls

/-- Where an operation may take a deal. -/
inductive LifecycleOp.Moves (w : DealWorld σ) (op : LifecycleOp σ) : Progress → Prop
  | stays : op.Moves w w.db.progress
  | goes (status : DealStatus) (unconfirmed : status ≠ .confirmed) :
      op.Moves w { w.db.progress with status }
  | confirms (calls : CallsConfirm w.toWorld op) :
      op.Moves w { w.db.progress with status := .confirmed, customerConfirmedPending := false }
  | waits (confirms : ConfirmsInPortal w.toWorld op) :
      op.Moves w { w.db.progress with customerConfirmedPending := true }

theorem answeredStatus_unconfirmed {tables : PolicyTables} {req : NegotiationRequest}
    {w : World σ} {action : NegotiationAction} {status : DealStatus}
    (answered : answeredStatus gateway.toOdooGateway tables req w action = some status) :
    status ≠ .confirmed := by
  cases action with
  | accept =>
      obtain ⟨ctx, -, rfl⟩ := Option.map_eq_some_iff.mp answered
      decide
  | reject =>
      cases answered
      decide
  | counter =>
      cases answered
      decide
  | other name => cases answered

/-- Only a confirmation that is called for makes a deal CONFIRMED, and only the customer's makes it
wait. -/
theorem LifecycleOp.moves (gateway : BackOfficeGateway σ) (w : DealWorld σ) (op : LifecycleOp σ) :
    op.Moves w (op.progress gateway w) := by
  unfold LifecycleOp.progress
  cases op with
  | decide requestId actor action reason now =>
      dsimp only
      split
      · next confirms =>
          rcases confirms with ⟨req, guarded, auto, -⟩
          exact .confirms ⟨req, guarded, auto⟩
      · exact .stays
  | send currentUser now => exact .goes .sent (by decide)
  | submitNegotiation customerPartnerId actorUserId payload now =>
      dsimp only
      split
      · exact .goes .underNegotiation (by decide)
      · exact .stays
  | respondNegotiation requestId actor action responseMessage counterValue tables now =>
      dsimp only
      split
      · exact .stays
      · next status answered =>
          obtain ⟨req, -, answers⟩ := Option.bind_eq_some_iff.mp answered
          exact .goes status (answeredStatus_unconfirmed answers)
  | confirmByCustomer customerPartnerId comment now =>
      dsimp only
      split
      · next reaches =>
          split
          · next approved => exact .confirms ⟨reaches, approved⟩
          · exact .waits reaches
      · exact .stays
  | applyFulfillment planId actor now =>
      dsimp only
      split
      · exact .goes .inFulfillment (by decide)
      · exact .stays
  | inboundEvent payload now =>
      dsimp only
      split
      · exact .goes .cancelled (by decide)
      · exact .stays
  | evaluate | sync | applyRecommendation | recordPayment | changePlans | onOdoo => exact .stays

/-- A deal stays with its order. -/
theorem LifecycleOp.apply_order (gateway : BackOfficeGateway σ) (op : LifecycleOp σ)
    (w : DealWorld σ) :
    (op.apply gateway w).db.deal.odooSaleOrderId = w.db.deal.odooSaleOrderId := by
  have moved := congrArg Progress.odooSaleOrderId (op.apply_progress gateway w)
  have moves := op.moves gateway w
  generalize op.progress gateway w = after at moves moved
  cases moves with
  | stays | goes | confirms | waits => exact moved

/-- Every call besides payments and confirmations leaves alone what `f` shows. -/
structure QuietCalls (gateway : BackOfficeGateway σ) (f : σ → β) : Prop where
  reads : ReadsKeep gateway.toOdooGateway f
  sets : ∀ orderId approvalState riskScore locked,
    Keeps f (gateway.setGovernance orderId approvalState riskScore locked)
  writes : ∀ orderId changes, Keeps f (gateway.applyLineChanges orderId changes)
  adds : ∀ orderId productId qty discount, Keeps f (gateway.addLine orderId productId qty discount)
  picks : ∀ orderId allocations, Keeps f (gateway.applyFulfillmentPlan orderId allocations)

/-- Operations within the application leave alone what its calls do. -/
theorem QuietCalls.leavesAlone (quiet : QuietCalls gateway f) {op : LifecycleOp σ}
    {w : DealWorld σ}
    (paid : ∀ invId amount actor now, op = .recordPayment invId amount actor now →
      f (gateway.registerPayment invId amount w.odoo).2 = f w.odoo)
    (outside : ∀ change, op = .onOdoo change → f (change w.odoo) = f w.odoo) :
    op.LeavesAlone gateway f w := by
  cases op with
  | respondNegotiation =>
      exact fun _ req _ => applyChanges_keeps quiet.reads quiet.writes quiet.adds _ req.changes _
  | applyRecommendation => exact fun quantity _ rec _ => quiet.adds ..
  | applyFulfillment => exact fun plan _ => quiet.picks ..
  | recordPayment invId amount actor now => exact paid invId amount actor now rfl
  | onOdoo change => exact outside change rfl
  | evaluate | decide | sync | send | submitNegotiation | confirmByCustomer | inboundEvent
  | changePlans => trivial

/-! ## Recorded confirmations -/

section Recorded

variable {V : Type} {view : σ → V}

/-- What `f` shows, and the confirmations called for so far. -/
def shownCalls (f : σ → β) (s : σ × List (GatewayCall V)) : β × List V :=
  (f s.1, confirmations s.2)

/-- The confirmations an operation called for. -/
def newConfirmations (before after : DealWorld (σ × List (GatewayCall V))) : List V :=
  (confirmations after.odoo.2).drop (confirmations before.odoo.2).length

theorem newConfirmations_quiet {before after : DealWorld (σ × List (GatewayCall V))}
    (quiet : confirmations after.odoo.2 = confirmations before.odoo.2) :
    newConfirmations before after = [] := by
  unfold newConfirmations
  rw [quiet, List.drop_length]

theorem newConfirmations_called {before after : DealWorld (σ × List (GatewayCall V))} {seen : V}
    (called : confirmations after.odoo.2 = confirmations before.odoo.2 ++ [seen]) :
    newConfirmations before after = [seen] := by
  unfold newConfirmations
  rw [called, List.drop_left]

theorem QuietCalls.recorded (quiet : QuietCalls gateway f) (view : σ → V) :
    QuietCalls (recordingBackOffice gateway view) (shownCalls f) where
  reads :=
    { getSaleOrder := fun id s => Prod.ext (quiet.reads.getSaleOrder id s.1) rfl
      getAvailability := fun ids s => Prod.ext (quiet.reads.getAvailability ids s.1) rfl }
  sets id approvalState riskScore locked s := by
    refine Prod.ext (quiet.sets id approvalState riskScore locked s.1) ?_
    exact (confirmations_concat s.2 _).trans (List.append_nil _)
  writes id changes s := Prod.ext (quiet.writes id changes s.1) rfl
  adds id productId qty discount s := Prod.ext (quiet.adds id productId qty discount s.1) rfl
  picks id allocations s := Prod.ext (quiet.picks id allocations s.1) rfl

theorem recordingBackOffice_confirm (gateway : BackOfficeGateway σ) (view : σ → V) (f : σ → β)
    (id : ℤ) (s : σ × List (GatewayCall V)) :
    shownCalls f ((recordingBackOffice gateway view).confirm id s).2 =
      (f (gateway.confirm id s.1).2, confirmations s.2 ++ [view s.1]) :=
  Prod.ext rfl (confirmations_concat s.2 _)

/-- What is recorded of a confirmation that is called for. -/
theorem CallsConfirm.recorded {op : LifecycleOp (σ × List (GatewayCall V))}
    {w : DealWorld (σ × List (GatewayCall V))} (calls : CallsConfirm w.toWorld op)
    (quiet : QuietCalls gateway f) :
    shownCalls f (calledOn (recordingBackOffice gateway view).toOdooGateway w.toWorld op) =
        shownCalls f w.odoo ∧
      shownCalls f (op.apply (recordingBackOffice gateway view) w).odoo =
        (f (gateway.confirm w.db.deal.odooSaleOrderId
            (calledOn (recordingBackOffice gateway view).toOdooGateway w.toWorld op).1).2,
          confirmations w.odoo.2 ++
            [view (calledOn (recordingBackOffice gateway view).toOdooGateway w.toWorld op).1]) := by
  have recorded := quiet.recorded view
  have leaves : op.LeavesAlone (recordingBackOffice gateway view) (shownCalls f) w := by
    refine recorded.leavesAlone ?_ ?_
    · rintro invId amount actor now rfl
      cases calls
    · rintro change rfl
      cases calls
  rcases LifecycleOp.odoo_cases recorded.reads recorded.sets leaves with
    ⟨quiet, -⟩ | ⟨-, before, after⟩
  · exact absurd calls quiet
  · rw [recordingBackOffice_confirm] at after
    have answers : _ = confirmations w.odoo.2 := congrArg Prod.snd before
    rw [← answers]
    exact ⟨before, after⟩

variable (gateway view) in
/-- An operation calls for one confirmation, on the Odoo side it finds there, or for none. -/
theorem newConfirmations_cases {op : LifecycleOp (σ × List (GatewayCall V))}
    (record : ∀ change, op = .onOdoo change → ∀ s, (change s).2 = s.2)
    (w : DealWorld (σ × List (GatewayCall V))) :
    (¬ CallsConfirm w.toWorld op ∧
        newConfirmations w (op.apply (recordingBackOffice gateway view) w) = []) ∨
      CallsConfirm w.toWorld op ∧
        newConfirmations w (op.apply (recordingBackOffice gateway view) w) =
          [view (calledOn (recordingBackOffice gateway view).toOdooGateway w.toWorld op).1] := by
  have blind : QuietCalls gateway fun _ => () :=
    { reads := ⟨fun _ _ => rfl, fun _ _ => rfl⟩
      sets := fun _ _ _ _ _ => rfl
      writes := fun _ _ _ => rfl
      adds := fun _ _ _ _ _ => rfl
      picks := fun _ _ _ => rfl }
  by_cases calls : CallsConfirm w.toWorld op
  · have called : shownCalls _ (op.apply (recordingBackOffice gateway view) w).odoo = _ :=
      (calls.recorded blind).2
    exact .inr ⟨calls, newConfirmations_called (congrArg Prod.snd called)⟩
  · have recorded := blind.recorded view
    have leaves : op.LeavesAlone (recordingBackOffice gateway view) (shownCalls fun _ => ()) w :=
      recorded.leavesAlone (fun _ _ _ _ _ => rfl) fun change is =>
        Prod.ext rfl (congrArg confirmations (record change is w.odoo))
    rcases LifecycleOp.odoo_cases recorded.reads recorded.sets leaves with
      ⟨-, same⟩ | ⟨called, -⟩
    · exact .inl ⟨calls, newConfirmations_quiet (congrArg Prod.snd same)⟩
    · exact absurd called calls

end Recorded

/-- The Odoo side with a record of its calls, confirmations with whether they go through. -/
abbrev Answered (σ : Type) := σ × List (GatewayCall Bool)

/-- The gateway with that record, for the confirmations of one order. -/
abbrev answering (gateway : BackOfficeGateway σ) (orderId : ℤ) :
    BackOfficeGateway (Answered σ) :=
  recordingBackOffice gateway fun s => (gateway.confirm orderId s).1.isOk

end Frame

end DealFlow
