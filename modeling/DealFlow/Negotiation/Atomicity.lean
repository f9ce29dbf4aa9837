import DealFlow.Governance.Lifecycle
import DealFlow.Governance.Terms
import DealFlow.Negotiation.Effects

/-!
# When an acceptance raises

An acceptance carries its changes out in Odoo one by one, commits with the sync of the deal, and
evaluates.  What raises before the sync's commit is rolled back in the database, but not in Odoo;
what raises after it is not rolled back at all.

So an acceptance that raises has left everything as it was exactly when it is not the evaluation
that raised, and the calls that had gone through left the order as it was (`acceptsAtomically_iff`).
-/

namespace DealFlow

section Atomic

variable {σ β : Type} (gateway : OdooGateway σ)

/-- Where an acceptance raises, it leaves the store and the lines of the order as they were. -/
def AcceptsAtomically (lines : σ → β) (requestId : ℕ) (actor : DealflowUser)
    (message : Option String) (counterValue : Option ℚ) (tables : PolicyTables) (now : Timestamp)
    (w : World σ) : Prop :=
  (respondNegotiationRequest gateway requestId actor .accept message counterValue tables now
      w).1.isOk = false →
    (respondNegotiationRequest gateway requestId actor .accept message counterValue tables now
        w).2.db = w.db ∧
      lines (respondNegotiationRequest gateway requestId actor .accept message counterValue tables
        now w).2.odoo = lines w.odoo

/-- The order cannot be read. -/
def Unreadable (tables : PolicyTables) (orderId : ℤ) (odoo : σ) : Prop :=
  (buildDealContext gateway tables orderId odoo).1.isOk = false

instance (tables : PolicyTables) (orderId : ℤ) (odoo : σ) :
    Decidable (Unreadable gateway tables orderId odoo) :=
  inferInstanceAs (Decidable (_ = _))

/-- A change raises. -/
def ChangesRaise (req : NegotiationRequest) (w : World σ) : Prop :=
  (applyChanges gateway w.db.deal.odooSaleOrderId req.changes w.odoo).1.isOk = false

instance (req : NegotiationRequest) (w : World σ) : Decidable (ChangesRaise gateway req w) :=
  inferInstanceAs (Decidable (_ = _))

/-- Odoo once the changes are carried out, as far as they are. -/
def changedOdoo (req : NegotiationRequest) (w : World σ) : σ :=
  (applyChanges gateway w.db.deal.odooSaleOrderId req.changes w.odoo).2

/-- The changes go through and the sync raises. -/
def SyncRaises (tables : PolicyTables) (req : NegotiationRequest) (w : World σ) : Prop :=
  ¬ ChangesRaise gateway req w ∧
    Unreadable gateway tables w.db.deal.odooSaleOrderId (changedOdoo gateway req w)

/-- The changes and the sync go through and the evaluation raises. -/
def EvaluationRaises (tables : PolicyTables) (req : NegotiationRequest) (w : World σ) : Prop :=
  ¬ ChangesRaise gateway req w ∧
    ¬ Unreadable gateway tables w.db.deal.odooSaleOrderId (changedOdoo gateway req w) ∧
    Unreadable gateway tables w.db.deal.odooSaleOrderId
      (buildDealContext gateway tables w.db.deal.odooSaleOrderId (changedOdoo gateway req w)).2

variable {gateway}

/-- A sync with evaluation: what raises in the sync leaves the store of before, what raises in the
evaluation the synced one. -/
theorem syncAndEvaluate_outcome (gateway : OdooGateway σ) (args : EvaluateArgs)
    (before : DealStore) (w : World σ) :
    (Unreadable gateway args.tables w.db.deal.odooSaleOrderId w.odoo ∧
        (syncAndEvaluate gateway args before w).1.isOk = false ∧
        (syncAndEvaluate gateway args before w).2.db = before) ∨
      (¬ Unreadable gateway args.tables w.db.deal.odooSaleOrderId w.odoo ∧
        Unreadable gateway args.tables w.db.deal.odooSaleOrderId
          (buildDealContext gateway args.tables w.db.deal.odooSaleOrderId w.odoo).2 ∧
        (syncAndEvaluate gateway args before w).1.isOk = false ∧
        (syncAndEvaluate gateway args before w).2.db.deal.version = w.db.deal.version + 1) ∨
      (¬ Unreadable gateway args.tables w.db.deal.odooSaleOrderId w.odoo ∧
        ¬ Unreadable gateway args.tables w.db.deal.odooSaleOrderId
          (buildDealContext gateway args.tables w.db.deal.odooSaleOrderId w.odoo).2 ∧
        (syncAndEvaluate gateway args before w).1.isOk = true) := by
  unfold Unreadable
  rcases first : buildDealContext gateway args.tables w.db.deal.odooSaleOrderId w.odoo with
    ⟨e | again, odoo⟩
  · left
    unfold syncAndEvaluate syncDealFromOdoo
    rw [first]
    exact ⟨rfl, rfl, rfl⟩
  · right
    dsimp only
    rcases second : buildDealContext gateway args.tables w.db.deal.odooSaleOrderId odoo with
      ⟨e | ctx, odoo'⟩
    · left
      unfold syncAndEvaluate syncDealFromOdoo evaluateDeal
      rw [first]
      dsimp only [Option.filter, DealStore.recordAuditEvent, DealStore.updateDeal, syncedDeal]
      rw [second]
      exact ⟨Bool.noConfusion, rfl, rfl, rfl⟩
    · right
      unfold syncAndEvaluate syncDealFromOdoo evaluateDeal
      rw [first]
      dsimp only [Option.filter, DealStore.recordAuditEvent, DealStore.updateDeal, syncedDeal]
      rw [second]
      exact ⟨Bool.noConfusion, Bool.noConfusion, rfl⟩

/-- The end of an acceptance raises what the evaluation raised, with its store. -/
theorem finishAcceptance_raises (req : NegotiationRequest) (actor : DealflowUser)
    (now : Timestamp) (r : Except DealFlowException EvaluationResponse × World σ) :
    (finishAcceptance req actor now r).1.isOk = r.1.isOk ∧
      (r.1.isOk = false → (finishAcceptance req actor now r).2.db = r.2.db) := by
  rcases r with ⟨e | response, w⟩
  · exact ⟨rfl, fun _ => rfl⟩
  · exact ⟨rfl, fun raised => by cases raised⟩

/-- Where an acceptance raises, and what it leaves in the store. -/
theorem acceptNegotiation_outcome (gateway : OdooGateway σ) (req : NegotiationRequest)
    (actor : DealflowUser) (tables : PolicyTables) (now : Timestamp) (answered : DealStore)
    (w : World σ) (deal : answered.deal = w.db.deal) :
    ((ChangesRaise gateway req w ∨ SyncRaises gateway tables req w) ∧
        ¬ EvaluationRaises gateway tables req w ∧
        (acceptNegotiation gateway req actor tables now answered w).1.isOk = false ∧
        (acceptNegotiation gateway req actor tables now answered w).2.db = w.db) ∨
      (EvaluationRaises gateway tables req w ∧
        (acceptNegotiation gateway req actor tables now answered w).1.isOk = false ∧
        (acceptNegotiation gateway req actor tables now answered w).2.db ≠ w.db) ∨
      (¬ (ChangesRaise gateway req w ∨ SyncRaises gateway tables req w) ∧
        ¬ EvaluationRaises gateway tables req w ∧
        (acceptNegotiation gateway req actor tables now answered w).1.isOk = true) := by
  unfold acceptNegotiation SyncRaises EvaluationRaises ChangesRaise changedOdoo
  rcases applyChanges gateway w.db.deal.odooSaleOrderId req.changes w.odoo with ⟨e | done, odoo⟩
  · exact .inl ⟨.inl rfl, fun raises => raises.1 rfl, rfl, rfl⟩
  · have went : ¬ (Except.ok done : Except OdooError Unit).isOk = false := Bool.noConfusion
    have outcome := syncAndEvaluate_outcome gateway (acceptanceArgs tables actor now) w.db
      { db := acceptedStore req answered, odoo }
    have order : (acceptedStore req answered).deal = w.db.deal := deal
    rw [order] at outcome
    dsimp only at outcome ⊢
    obtain ⟨answer, store⟩ := finishAcceptance_raises req actor now
      (syncAndEvaluate gateway (acceptanceArgs tables actor now) w.db
        { db := acceptedStore req answered, odoo })
    unfold acceptanceArgs acceptedStore at answer store outcome
    rw [answer]
    rcases outcome with ⟨unread, raised, kept⟩ | ⟨read, unread, raised, version⟩ |
      ⟨read, again, ok⟩
    · refine .inl ⟨.inr ⟨went, unread⟩, fun raises => raises.2.1 unread, raised, ?_⟩
      exact (store raised).trans kept
    · refine .inr (.inl ⟨⟨went, read, unread⟩, raised, fun same => ?_⟩)
      rw [store raised] at same
      rw [same] at version
      omega
    · refine .inr (.inr ⟨?_, fun raises => again raises.2.2, ok⟩)
      rintro (raises | ⟨-, raises⟩)
      · exact went raises
      · exact read raises

variable {lines : σ → β} (reads : ReadsKeep gateway lines)
  (sets : ∀ orderId approvalState riskScore locked,
    Keeps lines (gateway.setGovernance orderId approvalState riskScore locked))

include reads sets in
/-- An acceptance is atomic exactly when the evaluation does not raise, and what raises before it
finds the lines of the order as they were. -/
theorem acceptsAtomically_iff (requestId : ℕ) (actor : DealflowUser) (message : Option String)
    (counterValue : Option ℚ) (tables : PolicyTables) (now : Timestamp) (w : World σ) :
    AcceptsAtomically gateway lines requestId actor message counterValue tables now w ↔
      ∀ req, openNegotiation w.db requestId = some req →
        ¬ EvaluationRaises gateway tables req w ∧
          (ChangesRaise gateway req w ∨ SyncRaises gateway tables req w →
            lines (changedOdoo gateway req w) = lines w.odoo) := by
  unfold AcceptsAtomically
  cases opened : openNegotiation w.db requestId with
  | none =>
      have kept : (respondNegotiationRequest gateway requestId actor .accept message counterValue
          tables now w).2 = w :=
        respondNegotiation_closed actor message counterValue tables now opened .accept
      rw [kept]
      simp
  | some req =>
      rw [respondNegotiation_accept _ _ _ _ _ opened]
      have written := acceptNegotiation_written reads sets req actor tables now
        (answeredStore req actor message now w.db) w
      simp only [Option.some.injEq, forall_eq']
      rw [written]
      rcases acceptNegotiation_outcome gateway req actor tables now
          (answeredStore req actor message now w.db) w rfl with
        ⟨early, evaluated, raised, kept⟩ | ⟨late, raised, changed⟩ | ⟨quiet, evaluated, ok⟩
      · constructor
        · intro atomic
          exact ⟨evaluated, fun _ => (atomic raised).2⟩
        · rintro ⟨-, same⟩ -
          exact ⟨kept, same early⟩
      · constructor
        · intro atomic
          exact absurd (atomic raised).1 changed
        · rintro ⟨unraised, -⟩
          exact absurd late unraised
      · constructor
        · intro _
          exact ⟨evaluated, fun early => absurd early quiet⟩
        · intro _ raised
          rw [ok] at raised
          cases raised

end Atomic

/-- The customer of the service asks for 30 % on every line. -/
def negotiatedService : World FakeOdoo :=
  { serviceWorld with
    db := (submitNegotiationRequest 1 9
      { type := some "COUNTER_DISCOUNT", counterValue := some 30 } 1 serviceWorld.db).2 }

/-- A connection that lasts for some calls; from then on every call raises. -/
def whileConnected {σ α : Type} (call : OdooCall σ α) : OdooCall (σ × ℕ) α := fun s =>
  match s.2 with
  | 0 => (.error (.other "Connection lost"), s)
  | callsLeft + 1 => ((call s.1).1, (call s.1).2, callsLeft)

def brokenConnection {σ : Type} (gateway : OdooGateway σ) : OdooGateway (σ × ℕ) where
  getSaleOrder orderId := whileConnected (gateway.getSaleOrder orderId)
  getAvailability productIds := whileConnected (gateway.getAvailability productIds)
  applyLineChanges orderId changes := whileConnected (gateway.applyLineChanges orderId changes)
  addLine orderId productId qty discount :=
    whileConnected (gateway.addLine orderId productId qty discount)
  setGovernance orderId approvalState riskScore locked :=
    whileConnected (gateway.setGovernance orderId approvalState riskScore locked)
  confirm orderId := whileConnected (gateway.confirm orderId)

theorem whileConnected_keeps {σ α β : Type} {f : σ → β} {call : OdooCall σ α}
    (keeps : Keeps f call) : Keeps (fun s : σ × ℕ => f s.1) (whileConnected call) := by
  rintro ⟨odoo, _ | callsLeft⟩
  · rfl
  · exact keeps odoo

theorem brokenConnection_reads {σ β : Type} {gateway : OdooGateway σ} {f : σ → β}
    (reads : ReadsKeep gateway f) :
    ReadsKeep (brokenConnection gateway) fun s : σ × ℕ => f s.1 where
  getSaleOrder orderId := whileConnected_keeps (reads.getSaleOrder orderId)
  getAvailability productIds := whileConnected_keeps (reads.getAvailability productIds)

/-- The connection breaks once the order is read: the discount is not written, the acceptance
raises, and the request is as open as before. -/
theorem brokenConnection_atomic :
    let w : World (FakeOdoo × ℕ) := { db := negotiatedService.db, odoo := (serviceOdoo, 1) }
    (respondNegotiationRequest (brokenConnection fakeOdooGateway) 2 salesRep .accept none none
        goldTables 2 w).1.isOk = false ∧
      AcceptsAtomically (brokenConnection fakeOdooGateway) (fun s => s.1.linesOf 101) 2 salesRep
        none none goldTables 2 w := by
  intro w
  refine ⟨by decide +kernel, ?_⟩
  refine (acceptsAtomically_iff (brokenConnection_reads (fakeOdooGateway_reads _))
    (fun orderId approvalState riskScore locked => whileConnected_keeps
      (fakeOdooGateway_sets_lines 101 orderId approvalState riskScore locked)) 2
    salesRep none none goldTables 2 w).mpr fun req opened => ?_
  cases opened
  exact ⟨fun raises => absurd raises.1 (by decide +kernel), fun _ => by decide +kernel⟩

/-- The connection breaks between the sync and the evaluation: the discount is written and the
request ACCEPTED, and the acceptance raises. -/
theorem brokenConnection_halfAccepted :
    ¬ AcceptsAtomically (brokenConnection fakeOdooGateway) (fun s => s.1.linesOf 101) 2 salesRep
      none none goldTables 2 { db := negotiatedService.db, odoo := (serviceOdoo, 4) } := by
  intro atomic
  obtain ⟨kept, -⟩ := atomic (by decide +kernel)
  exact absurd (congrArg (fun db => db.deal.version) kept) (by decide +kernel)

end DealFlow
