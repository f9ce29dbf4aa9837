import DealFlow.Governance.Lifecycle
import DealFlow.Governance.LifecycleFrame
import DealFlow.Governance.Terms
import DealFlow.Lib.Run
import DealFlow.Negotiation.Effects

/-!
# Negotiations and the figures of an order

Neither the schema of a request nor anything after it bounds the discount or the quantity a customer
asks for.  So the lines of an order keep a discount in 0..100 and a quantity that is not negative
exactly in the runs that accept only requests with such figures, as far as these reach a line
(`wellFormed_run_iff`).
-/

namespace DealFlow

open Lib

def FakeLine.WellFormed (l : FakeLine) : Prop :=
  0 ≤ l.discountPct ∧ l.discountPct ≤ 100 ∧ 0 ≤ l.qty

instance (l : FakeLine) : Decidable l.WellFormed :=
  inferInstanceAs (Decidable (_ ∧ _))

def LinesWellFormed (lines : List FakeLine) : Prop :=
  ∀ l ∈ lines, l.WellFormed

instance (lines : List FakeLine) : Decidable (LinesWellFormed lines) :=
  inferInstanceAs (Decidable (∀ l ∈ lines, l.WellFormed))

/-- The figures an effect brings to a line are in range. -/
def LineEffect.InRange (s : FakeOdoo) (lines : List FakeLine) : LineEffect → Prop
  | .line c =>
      ∀ l ∈ lines, l.id = c.lineId →
        (∀ discount ∈ c.discount, 0 ≤ discount ∧ discount ≤ 100) ∧ ∀ qty ∈ c.qty, 0 ≤ qty
  | .every discount =>
      lines ≠ [] → (∃ raw, s.rawLines lines = .ok raw) → 0 ≤ discount ∧ discount ≤ 100
  | .nothing | .add _ => True

/-- A customer's submission, or a rep's response. -/
inductive NegotiationOp
  | submit (customerPartnerId actorUserId : ℤ) (payload : PortalNegotiationSubmit)
      (now : Timestamp)
  | respond (requestId : ℕ) (actor : DealflowUser) (action : NegotiationAction)
      (responseMessage : Option String) (counterValue : Option ℚ) (tables : PolicyTables)
      (now : Timestamp)

def NegotiationOp.apply {σ : Type} (gateway : OdooGateway σ) (op : NegotiationOp) (w : World σ) :
    World σ :=
  match op with
  | .submit customerPartnerId actorUserId payload now =>
      { w with db := (submitNegotiationRequest customerPartnerId actorUserId payload now w.db).2 }
  | .respond requestId actor action responseMessage counterValue tables now =>
      (respondNegotiationRequest gateway requestId actor action responseMessage counterValue tables
        now w).2

/-- A request the operation accepts brings figures in range. -/
def AcceptsInRange (w : World FakeOdoo) : NegotiationOp → Prop
  | .respond requestId _ action _ _ _ _ =>
      action = .accept → ∀ req, openNegotiation w.db requestId = some req →
        ∀ chg ∈ req.changes,
          chg.effect.InRange w.odoo (w.odoo.linesOf w.db.deal.odooSaleOrderId)
  | .submit _ _ _ _ => True

/-- What the requests on file change. -/
def DealStore.requestedChanges (db : DealStore) : List (List NegotiationChange) :=
  db.negotiations.map (·.changes)

/-- Every request on file is one a customer submitted. -/
def SubmittedRequests (db : DealStore) : Prop :=
  ∀ changes ∈ db.requestedChanges, ∃ payload : PortalNegotiationSubmit, changes = payload.change

/-- The lines of the order are well-formed after every operation. -/
def StaysWellFormed (ops : List NegotiationOp) (start : World FakeOdoo) : Prop :=
  ∀ t ∈ history (NegotiationOp.apply fakeOdooGateway) ops start,
    LinesWellFormed ((t.2.apply fakeOdooGateway t.1).odoo.linesOf start.db.deal.odooSaleOrderId)

/-! ## One effect -/

/-- Lines stay well-formed exactly under figures in range. -/
theorem LineEffect.onFake_wellFormed_iff {s : FakeOdoo} {lines : List FakeLine}
    (before : LinesWellFormed lines) (effect : LineEffect) :
    LinesWellFormed (effect.onFake s lines) ↔ effect.InRange s lines := by
  cases effect with
  | nothing => exact iff_of_true before trivial
  | line c =>
      dsimp only [LineEffect.onFake, LineEffect.InRange]
      unfold LinesWellFormed FakeOdoo.changeLine
      rw [List.forall_mem_map]
      refine forall₂_congr fun l mem => ?_
      obtain ⟨low, high, qty⟩ := before l mem
      by_cases named : l.id = c.lineId
      · rw [if_pos named]
        unfold FakeLine.WellFormed
        dsimp only
        cases c.discount <;> cases c.qty <;> simp [named, low, high, qty, and_assoc]
      · rw [if_neg named]
        exact iff_of_true (before l mem) fun same => absurd same named
  | every discount =>
      dsimp only [LineEffect.onFake, LineEffect.InRange]
      cases read : s.rawLines lines with
      | error e => exact iff_of_true before fun _ ⟨raw, ok⟩ => by cases ok
      | ok raw =>
          dsimp only
          unfold LinesWellFormed
          rw [List.forall_mem_map]
          constructor
          · rintro after some -
            obtain ⟨l, mem⟩ := List.exists_mem_of_ne_nil lines some
            obtain ⟨low, high, -⟩ := after l mem
            exact ⟨low, high⟩
          · intro inRange l mem
            obtain ⟨low, high⟩ := inRange (List.ne_nil_of_mem mem) ⟨raw, rfl⟩
            exact ⟨low, high, (before l mem).2.2⟩
  | add productId =>
      dsimp only [LineEffect.onFake, LineEffect.InRange]
      refine iff_of_true ?_ trivial
      cases s.products.lookup productId with
      | none => exact before
      | some prod =>
          refine List.forall_mem_append.mpr ⟨before, List.forall_mem_singleton.mpr ?_⟩
          exact ⟨le_rfl, by norm_num [FakeOdoo.newLine], by norm_num [FakeOdoo.newLine]⟩

theorem PortalNegotiationSubmit.effect_inRange_iff (payload : PortalNegotiationSubmit)
    (s : FakeOdoo) (lines : List FakeLine) :
    payload.effect.InRange s lines ↔ ∀ chg ∈ payload.change, chg.effect.InRange s lines := by
  unfold PortalNegotiationSubmit.effect
  rcases payload.change_cases with none | ⟨chg, one⟩
  · rw [none]
    exact iff_of_true trivial (by simp)
  · rw [one, List.forall_mem_singleton]
    rfl

/-- On an order that is not there nothing is carried out. -/
theorem LineEffect.carryOut_fake_absent {s : FakeOdoo} {orderId : ℤ}
    (absent : s.orders.lookup orderId = none) (effect : LineEffect) :
    (effect.carryOut fakeOdooGateway orderId s).2 = s := by
  cases effect with
  | nothing => rfl
  | line c =>
      change (FakeOdoo.onOrder orderId _ s).2 = s
      unfold FakeOdoo.onOrder
      rw [absent]
  | every discount =>
      dsimp only [LineEffect.carryOut, fakeOdooGateway]
      unfold FakeOdoo.getSaleOrder
      rw [absent]
  | add productId =>
      dsimp only [LineEffect.carryOut, fakeOdooGateway]
      unfold FakeOdoo.addLine
      rw [absent]

/-- The lines of an order once an effect is carried out on it. -/
theorem LineEffect.carryOut_wellFormed_iff {s : FakeOdoo} {orderId : ℤ}
    (before : LinesWellFormed (s.linesOf orderId)) (effect : LineEffect) :
    LinesWellFormed ((effect.carryOut fakeOdooGateway orderId s).2.linesOf orderId) ↔
      effect.InRange s (s.linesOf orderId) := by
  cases found : s.orders.lookup orderId with
  | none =>
      rw [carryOut_fake_absent found, FakeOdoo.linesOf_absent found]
      refine iff_of_true (by simp [LinesWellFormed]) ?_
      cases effect with
      | nothing => trivial
      | line c => exact fun l mem => absurd mem List.not_mem_nil
      | every discount => exact fun some => absurd rfl some
      | add productId => trivial
  | some order =>
      have after : (effect.carryOut fakeOdooGateway orderId s).2.linesOf orderId =
          effect.onFake s order.lines := by
        unfold FakeOdoo.linesOf
        rw [carryOut_fake found, if_pos rfl]
        rfl
      rw [FakeOdoo.linesOf_found found] at before ⊢
      rw [after]
      exact onFake_wellFormed_iff before effect

/-! ## The requests on file -/

section Requests

variable {σ : Type}

theorem updateNegotiation_changes (db : DealStore) (requestId : ℕ)
    {f : NegotiationRequest → NegotiationRequest} (kept : ∀ n, (f n).changes = n.changes) :
    (updateNegotiation db requestId f).requestedChanges = db.requestedChanges := by
  unfold updateNegotiation DealStore.requestedChanges
  rw [List.map_map]
  refine List.map_congr_left fun n _ => ?_
  rw [Function.comp_apply]
  split
  · exact kept n
  · rfl

theorem evaluateDeal_changes (gateway : OdooGateway σ) (args : EvaluateArgs) (w : World σ) :
    (evaluateDeal gateway args w).2.db.requestedChanges = w.db.requestedChanges := by
  have kept := congrArg Footing.negotiations (evaluateDeal_footing gateway args w)
  exact congrArg (List.map (·.changes)) kept

theorem syncAndEvaluate_changes (gateway : OdooGateway σ) (args : EvaluateArgs)
    (before : DealStore) (w : World σ)
    (same : w.db.requestedChanges = before.requestedChanges) :
    (syncAndEvaluate gateway args before w).2.db.requestedChanges = before.requestedChanges :=
  syncAndEvaluate_view (fun _ _ _ => rfl) (fun _ _ => rfl) (evaluateDeal_changes gateway args)
    before w same

theorem finishAcceptance_changes (req : NegotiationRequest) (actor : DealflowUser)
    (now : Timestamp) (r : Except DealFlowException EvaluationResponse × World σ) :
    (finishAcceptance req actor now r).2.db.requestedChanges = r.2.db.requestedChanges := by
  rcases r with ⟨e | response, w⟩
  · rfl
  · exact updateNegotiation_changes w.db req.id (f := fun n =>
      { n with appliedAssessmentId := some response.riskAssessment.id }) fun _ => rfl

theorem acceptNegotiation_changes (gateway : OdooGateway σ) (req : NegotiationRequest)
    (actor : DealflowUser) (tables : PolicyTables) (now : Timestamp) {answered : DealStore}
    {w : World σ} (same : answered.requestedChanges = w.db.requestedChanges) :
    (acceptNegotiation gateway req actor tables now answered w).2.db.requestedChanges =
      w.db.requestedChanges := by
  unfold acceptNegotiation
  rcases applyChanges gateway w.db.deal.odooSaleOrderId req.changes w.odoo with ⟨e | ⟨⟩, odoo⟩
  · rfl
  · have accepted : (acceptedStore req answered).requestedChanges = answered.requestedChanges :=
      updateNegotiation_changes answered req.id (f := fun n => { n with status := .accepted })
        fun _ => rfl
    dsimp only
    rw [finishAcceptance_changes]
    exact syncAndEvaluate_changes gateway (acceptanceArgs tables actor now) w.db
      { db := acceptedStore req answered, odoo } (accepted.trans same)

/-- A response leaves what the requests change. -/
theorem respondNegotiation_changes (gateway : OdooGateway σ) (requestId : ℕ)
    (actor : DealflowUser) (action : NegotiationAction) (responseMessage : Option String)
    (counterValue : Option ℚ) (tables : PolicyTables) (now : Timestamp) (w : World σ) :
    (respondNegotiationRequest gateway requestId actor action responseMessage counterValue tables
      now w).2.db.requestedChanges = w.db.requestedChanges := by
  unfold respondNegotiationRequest
  cases w.db.negotiations.find? fun n => n.id = requestId with
  | none => rfl
  | some req =>
      have answered := updateNegotiation_changes w.db req.id
        (f := fun n => { n with
          processedAt := some now
          processedByOdooUserId := some actor.odooUserId
          responseMessage }) fun _ => rfl
      dsimp only
      split
      · rfl
      · cases action with
        | accept => exact acceptNegotiation_changes gateway req actor tables now answered
        | reject =>
            refine Eq.trans ?_ answered
            exact updateNegotiation_changes _ req.id (f := fun n => { n with status := .rejected })
              fun _ => rfl
        | counter =>
            refine Eq.trans ?_ answered
            exact updateNegotiation_changes _ req.id
              (f := fun n => { n with status := .countered, counterValue }) fun _ => rfl
        | other name => exact answered

/-- A submission adds its own change, or is refused. -/
theorem submitNegotiation_changes (customerPartnerId actorUserId : ℤ)
    (payload : PortalNegotiationSubmit) (now : Timestamp) (db : DealStore) :
    (submitNegotiationRequest customerPartnerId actorUserId payload now db).2.requestedChanges =
        db.requestedChanges ∨
      (submitNegotiationRequest customerPartnerId actorUserId payload now db).2.requestedChanges =
        db.requestedChanges ++ [payload.change] := by
  have noted : ∀ (db : DealStore) (notification : Notification),
      (db.createNotification notification).requestedChanges = db.requestedChanges := by
    intro db notification
    have kept := congrArg Footing.negotiations (createNotification_footing db notification)
    exact congrArg (List.map (·.changes)) kept
  unfold submitNegotiationRequest
  split
  · exact .inl rfl
  · split
    · exact .inl rfl
    · right
      dsimp only
      rw [noted]
      exact List.map_append ..

end Requests

/-! ## Runs -/

theorem NegotiationOp.apply_order {σ : Type} (gateway : OdooGateway σ) (op : NegotiationOp)
    (w : World σ) :
    (op.apply gateway w).db.deal.odooSaleOrderId = w.db.deal.odooSaleOrderId := by
  cases op with
  | submit customerPartnerId actorUserId payload now =>
      have moved := congrArg Progress.odooSaleOrderId
        (submitNegotiation_progress customerPartnerId actorUserId payload now w.db)
      refine moved.trans ?_
      split <;> rfl
  | respond requestId actor action responseMessage counterValue tables now =>
      dsimp only [NegotiationOp.apply]
      have moved := congrArg Progress.odooSaleOrderId (@respondNegotiation_progress σ gateway actor
        responseMessage counterValue tables now requestId action w)
      refine moved.trans ?_
      split <;> rfl

theorem NegotiationOp.apply_submitted {σ : Type} (gateway : OdooGateway σ) (op : NegotiationOp)
    {w : World σ} (submitted : SubmittedRequests w.db) :
    SubmittedRequests (op.apply gateway w).db := by
  unfold SubmittedRequests at submitted ⊢
  cases op with
  | submit customerPartnerId actorUserId payload now =>
      dsimp only [NegotiationOp.apply]
      rcases submitNegotiation_changes customerPartnerId actorUserId payload now w.db with
        same | added
      · rw [same]
        exact submitted
      · rw [added]
        exact List.forall_mem_append.mpr ⟨submitted, List.forall_mem_singleton.mpr ⟨payload, rfl⟩⟩
  | respond requestId actor action responseMessage counterValue tables now =>
      dsimp only [NegotiationOp.apply]
      rw [respondNegotiation_changes]
      exact submitted

/-- The lines are well-formed after an operation exactly when what it accepts is in range. -/
theorem NegotiationOp.apply_wellFormed_iff {w : World FakeOdoo} (submitted : SubmittedRequests w.db)
    (before : LinesWellFormed (w.odoo.linesOf w.db.deal.odooSaleOrderId)) (op : NegotiationOp) :
    LinesWellFormed ((op.apply fakeOdooGateway w).odoo.linesOf w.db.deal.odooSaleOrderId) ↔
      AcceptsInRange w op := by
  cases op with
  | submit customerPartnerId actorUserId payload now => exact iff_of_true before trivial
  | respond requestId actor action responseMessage counterValue tables now =>
      dsimp only [NegotiationOp.apply, AcceptsInRange]
      cases opened : openNegotiation w.db requestId with
      | none =>
          have kept : (respondNegotiationRequest fakeOdooGateway requestId actor action
              responseMessage counterValue tables now w).2 = w :=
            respondNegotiation_closed actor responseMessage counterValue tables now opened action
          rw [kept]
          exact iff_of_true before (by simp)
      | some req =>
          simp only [Option.some.injEq, forall_eq']
          by_cases accepts : action = .accept
          · obtain ⟨payload, change⟩ := submitted req.changes
              (List.mem_map_of_mem (List.mem_of_find?_eq_some (openNegotiation_some opened).1))
            have written := respondNegotiation_written
              (fakeOdooGateway_reads fun s => s.linesOf w.db.deal.odooSaleOrderId)
              (fakeOdooGateway_sets_lines w.db.deal.odooSaleOrderId) opened actor responseMessage
              counterValue tables now
            rw [accepts, written, change, applyChanges_submitted,
              LineEffect.carryOut_wellFormed_iff before, ← payload.effect_inRange_iff]
            exact ⟨fun inRange _ => inRange, fun inRange => inRange rfl⟩
          · have refused : (respondNegotiationRequest fakeOdooGateway requestId actor action
                responseMessage counterValue tables now w).2.odoo = w.odoo :=
              (respondNegotiation_refusal actor responseMessage counterValue tables now opened
                accepts).1
            rw [refused]
            exact iff_of_true before fun accepted => absurd accepted accepts

/-- The lines of an order stay well-formed along a run exactly when every request it accepts brings
figures in range. -/
theorem wellFormed_run_iff (ops : List NegotiationOp) {start : World FakeOdoo}
    (submitted : SubmittedRequests start.db)
    (wellFormed : LinesWellFormed (start.odoo.linesOf start.db.deal.odooSaleOrderId)) :
    StaysWellFormed ops start ↔
      ∀ t ∈ history (NegotiationOp.apply fakeOdooGateway) ops start, AcceptsInRange t.1 t.2 := by
  unfold StaysWellFormed
  refine @run_forall_iff _ _ (NegotiationOp.apply fakeOdooGateway)
    (fun w => SubmittedRequests w.db ∧
      w.db.deal.odooSaleOrderId = start.db.deal.odooSaleOrderId ∧
      LinesWellFormed (w.odoo.linesOf start.db.deal.odooSaleOrderId))
    (fun _ _ => True)
    (fun w op => LinesWellFormed ((op.apply fakeOdooGateway w).odoo.linesOf
      start.db.deal.odooSaleOrderId))
    AcceptsInRange start ⟨submitted, rfl, wellFormed⟩ ?_ ?_ ops fun _ _ => trivial
  · rintro now op - ⟨requests, order, before⟩
    rw [← order] at before ⊢
    exact op.apply_wellFormed_iff requests before
  · rintro now op - ⟨requests, order, before⟩ inRange
    refine ⟨op.apply_submitted fakeOdooGateway requests,
      (op.apply_order fakeOdooGateway now).trans order, ?_⟩
    rw [← order] at before ⊢
    exact (op.apply_wellFormed_iff requests before).mpr inRange

/-- The customer of the service asks for a discount on its line, and the rep accepts. -/
def acceptedDiscount (counterValue : ℚ) : List NegotiationOp :=
  [.submit 1 9
      { type := some "COUNTER_DISCOUNT", odooSaleOrderLineId := some 1001
        counterValue := some counterValue } 1,
    .respond 2 salesRep .accept none none goldTables 2]

theorem serviceWorld_submitted : SubmittedRequests serviceWorld.db := by
  intro changes mem
  cases mem

theorem serviceWorld_wellFormed :
    LinesWellFormed (serviceWorld.odoo.linesOf serviceWorld.db.deal.odooSaleOrderId) := by
  decide +kernel

theorem acceptedDiscount_wellFormed : StaysWellFormed (acceptedDiscount 30) serviceWorld := by
  refine (wellFormed_run_iff (acceptedDiscount 30) serviceWorld_submitted
    serviceWorld_wellFormed).mpr ?_
  intro t mem
  rcases List.mem_cons.mp mem with rfl | mem
  · trivial
  · rw [List.mem_singleton.mp mem]
    rintro - req opened chg change
    cases opened
    rw [List.mem_singleton.mp change]
    rintro l - -
    exact ⟨by decide +kernel, by decide +kernel⟩

/-- A discount of 150 % goes all the way to the line. -/
theorem acceptedDiscount_outOfRange :
    SubmittedRequests serviceWorld.db ∧
      LinesWellFormed (serviceWorld.odoo.linesOf serviceWorld.db.deal.odooSaleOrderId) ∧
      ¬ StaysWellFormed (acceptedDiscount 150) serviceWorld := by
  refine ⟨serviceWorld_submitted, serviceWorld_wellFormed, fun stays => ?_⟩
  exact absurd (stays _ (List.mem_cons_of_mem _ (List.mem_singleton_self _))) (by decide +kernel)

end DealFlow
