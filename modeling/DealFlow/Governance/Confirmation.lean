import DealFlow.Governance.DealEffects

/-!
# The terms that are confirmed

Whenever a confirmation is called for, the order should stand at the terms of the deal's current
assessment, and that assessment should be the approved one or covered by it
(`ConfirmsApprovedTerms`).

The approval is always in order: the current assessment of an approved deal is covered.  The terms
are not looked at again: a confirmation trusts the stored state, and the webhook that follows an
edit of the order marks the deal as synced without evaluating it.  So the confirmations of a run are
right exactly when each finds the order at the terms, rounded, of the last evaluation of the run
(`confirmsApprovedTerms_run_iff`).
-/

namespace DealFlow

open Lib

section Confirmation

variable {σ : Type} (gateway : OdooGateway σ) (terms : σ → List LineTerms)

/-- Every confirmation the operation called for was at the terms of the current assessment, which
is the approved one or covered by it. -/
def ConfirmsApprovedTerms (before after : World (Recorded σ)) : Prop :=
  ∀ seen ∈ (confirmations after.odoo.2).drop (confirmations before.odoo.2).length,
    ∃ current approved, after.db.currentAssessment = some current ∧
      after.db.approvedAssessment = some approved ∧ seen = current.terms ∧
      (current.id = approved.id ∨
        isCoveredByApprovedAssessment (some approved) current.requiredLevel current.riskScore =
          true)

/-- The step stored an assessment. -/
def Evaluated (t : World (Recorded σ) × DealOp σ) : Prop :=
  t.1.db.assessments.length < (t.2.apply gateway terms t.1).db.assessments.length

instance (t : World (Recorded σ) × DealOp σ) : Decidable (Evaluated gateway terms t) :=
  inferInstanceAs (Decidable (_ < _))

/-- The terms of the order when it was evaluated last. -/
def evaluatedTerms (past : List (World (Recorded σ) × DealOp σ)) : Option (List LineTerms) :=
  past.foldl
    (fun known t =>
      if Evaluated gateway terms t then some (terms (t.2.apply gateway terms t.1).odoo.1)
      else known)
    none

/-- A confirmation that is called for finds the order at the terms of the last evaluation. -/
def FindsEvaluatedTerms (past : List (World (Recorded σ) × DealOp σ)) (now : World (Recorded σ))
    (op : DealOp σ) : Prop :=
  MayConfirm now op →
    (evaluatedTerms gateway terms past).map (List.map LineTerms.rounded) = some (terms now.odoo.1)

/-- Everything a deal stands on along a run. -/
structure Standing (orderId : ℤ) (past : List (World (Recorded σ) × DealOp σ))
    (now : World (Recorded σ)) : Prop where
  order : now.db.deal.odooSaleOrderId = orderId
  chain : Chain now.db.approvals
  authority : Authority (fun _ _ => True) now.db.approvals
  snapshot : ∀ current, now.db.currentAssessment = some current →
    ∃ evaluated, evaluatedTerms gateway terms past = some evaluated ∧
      current.terms = evaluated.map LineTerms.rounded

variable {gateway terms} {orderId : ℤ}

theorem evaluatedTerms_concat (past : List (World (Recorded σ) × DealOp σ))
    (t : World (Recorded σ) × DealOp σ) :
    evaluatedTerms gateway terms (past ++ [t]) =
      if Evaluated gateway terms t then some (terms (t.2.apply gateway terms t.1).odoo.1)
      else evaluatedTerms gateway terms past :=
  List.foldl_concat ..

/-! ## One step -/

section Step

variable {past : List (World (Recorded σ) × DealOp σ)} {now : World (Recorded σ)}

/-- A step that keeps order, assessments and the current assessment keeps what a deal stands on. -/
theorem Standing.keep (standing : Standing gateway terms orderId past now) {op : DealOp σ}
    {after : Approvals} (approvals : (op.apply gateway terms now).db.approvals = after)
    (order : after.odooSaleOrderId = now.db.approvals.odooSaleOrderId)
    (assessments : after.assessments = now.db.approvals.assessments)
    (current : after.currentAssessmentId = now.db.approvals.currentAssessmentId)
    (chain : Chain after) (authority : Authority (fun _ _ => True) after) :
    Standing gateway terms orderId (past ++ [(now, op)]) (op.apply gateway terms now) := by
  have sameOrder : (op.apply gateway terms now).db.deal.odooSaleOrderId = _ :=
    congrArg Approvals.odooSaleOrderId approvals
  have sameAssessments : (op.apply gateway terms now).db.assessments = now.db.assessments :=
    (congrArg Approvals.assessments approvals).trans assessments
  have sameCurrent : (op.apply gateway terms now).db.currentAssessment =
      now.db.currentAssessment := by
    have unchanged : after.currentAssessment = now.db.approvals.currentAssessment := by
      unfold Approvals.currentAssessment
      rw [assessments, current]
    exact (congrArg Approvals.currentAssessment approvals).trans unchanged
  have unevaluated : ¬ Evaluated gateway terms (now, op) := by
    unfold Evaluated
    rw [sameAssessments]
    exact lt_irrefl _
  refine ⟨(sameOrder.trans order).trans standing.order, approvals ▸ chain,
    approvals ▸ authority, ?_⟩
  rw [sameCurrent, evaluatedTerms_concat, if_neg unevaluated]
  exact standing.snapshot

theorem Standing.step (laws : OrderLaws gateway orderId terms)
    (standing : Standing gateway terms orderId past now) (op : DealOp σ) :
    Standing gateway terms orderId (past ++ [(now, op)]) (op.apply gateway terms now) := by
  cases op.effect laws standing.order with
  | idle n later approvals quiet =>
      exact standing.keep approvals rfl rfl rfl (standing.chain.skip later)
        (standing.authority.skip n)
  | evaluates s time fresh approvals snapshot quiet =>
      obtain ⟨stored, current⟩ := standing.chain.assess_currentAssessment fresh time
      have evaluated : Evaluated gateway terms (now, op) := by
        have grown : (op.apply gateway terms now).db.assessments = now.db.assessments ++ [s] :=
          (congrArg Approvals.assessments approvals).trans stored
        unfold Evaluated
        rw [grown, List.length_append]
        exact Nat.lt_succ_self _
      have order : (op.apply gateway terms now).db.deal.odooSaleOrderId = _ :=
        (congrArg Approvals.odooSaleOrderId approvals).trans (assess_order _ s time)
      refine ⟨order.trans standing.order, approvals ▸ standing.chain.assess fresh time,
        approvals ▸ standing.authority.assess s time, fun c carried => ?_⟩
      have same : (op.apply gateway terms now).db.currentAssessment = some s :=
        (congrArg Approvals.currentAssessment approvals).trans current
      obtain rfl : s = c := Option.some.inj (same.symm.trans carried)
      rw [evaluatedTerms_concat, if_pos evaluated]
      exact ⟨_, rfl, snapshot⟩
  | decides req requestId actor action reason time guarded approvals calls =>
      obtain ⟨found, waits, -, -⟩ := guardDecision_ok guarded
      have mem := List.mem_of_find?_eq_some found
      obtain ⟨order, assessments, current⟩ :=
        decided_frame now.db.approvals req actor action reason time
      exact standing.keep approvals order assessments current
        (standing.chain.decided mem waits actor action reason time)
        (standing.authority.decided_any standing.chain mem waits actor action reason time)
  | confirms approvals calls may state =>
      exact standing.keep approvals rfl rfl rfl standing.chain standing.authority

/-- The assessments a confirmation is made on: approved, and on the terms evaluated last. -/
theorem Standing.approved (standing : Standing gateway terms orderId past now)
    (state : now.db.deal.approvalState = .approved) :
    ∃ current approved evaluated, now.db.currentAssessment = some current ∧
      now.db.approvedAssessment = some approved ∧
      isCoveredByApprovedAssessment (some approved) current.requiredLevel current.riskScore = true ∧
      evaluatedTerms gateway terms past = some evaluated ∧
      current.terms = evaluated.map LineTerms.rounded := by
  obtain ⟨current, approved, isCurrent, isApproved, covers⟩ :=
    standing.authority.current_covered standing.chain state
  obtain ⟨evaluated, known, snapshot⟩ := standing.snapshot current isCurrent
  exact ⟨current, approved, evaluated, isCurrent, isApproved, covers, known, snapshot⟩

/-- A step that confirms does not evaluate, and leaves the deal approved. -/
theorem MayConfirm.outcome (laws : OrderLaws gateway orderId terms) {op : DealOp σ}
    (may : MayConfirm now op) (order : now.db.deal.odooSaleOrderId = orderId) :
    ¬ Evaluated gateway terms (now, op) ∧
      (op.apply gateway terms now).db.deal.approvalState = .approved := by
  have called := may.called laws
  -- an operation that leaves the record alone would not have called
  have loud : confirmations (op.apply gateway terms now).odoo.2 ≠ confirmations now.odoo.2 := by
    rw [called]
    simp
  have unevaluated : (op.apply gateway terms now).db.assessments = now.db.assessments →
      ¬ Evaluated gateway terms (now, op) := by
    intro same
    unfold Evaluated
    rw [same]
    exact lt_irrefl _
  cases op.effect laws order with
  | idle n later approvals quiet => exact absurd quiet loud
  | evaluates s time fresh approvals snapshot quiet => exact absurd quiet loud
  | decides req requestId actor action reason time guarded approvals calls =>
      obtain ⟨-, assessments, -⟩ := decided_frame now.db.approvals req actor action reason time
      rcases calls with quiet | ⟨-, -, state⟩
      · exact absurd quiet loud
      · exact ⟨unevaluated ((congrArg Approvals.assessments approvals).trans assessments), state⟩
  | confirms approvals calls may state =>
      exact ⟨unevaluated (congrArg Approvals.assessments approvals), state⟩

/-- An operation that may not confirm calls for nothing. -/
theorem not_mayConfirm_quiet (laws : OrderLaws gateway orderId terms) {op : DealOp σ}
    (other : ¬ MayConfirm now op) (order : now.db.deal.odooSaleOrderId = orderId) :
    confirmations (op.apply gateway terms now).odoo.2 = confirmations now.odoo.2 := by
  cases op.effect laws order with
  | idle n later approvals quiet => exact quiet
  | evaluates s time fresh approvals snapshot quiet => exact quiet
  | decides req requestId actor action reason time guarded approvals calls =>
      rcases calls with quiet | ⟨-, may, -⟩
      · exact quiet
      · exact absurd may other
  | confirms approvals calls may state => exact absurd may other

/-- Where a deal stands as it should, a step confirms approved terms exactly when it finds the
terms of the last evaluation. -/
theorem Standing.confirms_iff (laws : OrderLaws gateway orderId terms)
    (standing : Standing gateway terms orderId past now) (op : DealOp σ) :
    ConfirmsApprovedTerms now (op.apply gateway terms now) ↔
      FindsEvaluatedTerms gateway terms past now op := by
  by_cases may : MayConfirm now op
  · obtain ⟨unevaluated, state⟩ := may.outcome laws standing.order
    obtain ⟨current, approved, evaluated, isCurrent, isApproved, covers, known, snapshot⟩ :=
      (standing.step laws op).approved state
    rw [evaluatedTerms_concat, if_neg unevaluated] at known
    have called : (confirmations (op.apply gateway terms now).odoo.2).drop
        (confirmations now.odoo.2).length = [terms now.odoo.1] := by
      rw [may.called laws, List.drop_left]
    unfold ConfirmsApprovedTerms FindsEvaluatedTerms
    rw [called, known, Option.map_some, ← snapshot]
    constructor
    · intro confirmed _
      obtain ⟨c, -, isC, -, seen, -⟩ := confirmed _ (List.mem_singleton_self _)
      obtain rfl : current = c := Option.some.inj (isCurrent.symm.trans isC)
      exact congrArg some seen.symm
    · intro found seen mem
      rw [List.mem_singleton.mp mem]
      exact ⟨current, approved, isCurrent, isApproved, (Option.some.inj (found may)).symm,
        .inr covers⟩
  · refine iff_of_true (fun seen mem => ?_) fun confirms => absurd confirms may
    rw [not_mayConfirm_quiet laws may standing.order, List.drop_length] at mem
    cases mem

end Step

/-! ## Whole runs -/

theorem FreshDeal.standing {now : World (Recorded σ)} (fresh : FreshDeal now.db)
    (order : now.db.deal.odooSaleOrderId = orderId) :
    Standing gateway terms orderId [] now := by
  refine ⟨order, fresh.chain, fresh.authority _, fun current carried => ?_⟩
  simp [DealStore.currentAssessment, fresh.currentAssessmentId] at carried

/-- From a fresh deal, the confirmations of a run are all made on approved terms exactly when each
finds the order at the terms, rounded, of the last evaluation before it. -/
theorem confirmsApprovedTerms_run_iff (laws : OrderLaws gateway orderId terms)
    {w : World (Recorded σ)} (fresh : FreshDeal w.db)
    (order : w.db.deal.odooSaleOrderId = orderId) (ops : List (DealOp σ)) :
    (∀ t ∈ history (DealOp.apply gateway terms) ops w,
        ConfirmsApprovedTerms t.1 (t.2.apply gateway terms t.1)) ↔
      ∀ past t later, history (DealOp.apply gateway terms) ops w = past ++ t :: later →
        FindsEvaluatedTerms gateway terms past t.1 t.2 :=
  run_steps_iff (fresh.standing order) (fun _ _ op standing => standing.step laws op)
    (fun _ _ op standing => standing.confirms_iff laws op) ops

end Confirmation

/-- The fresh service deal, with a record of the gateway's calls. -/
def recordedServiceWorld : World (Recorded FakeOdoo) :=
  { db := serviceWorld.db, odoo := (serviceOdoo, []) }

/-- The service deal is evaluated and approved at 25 %. -/
def approveService : List (DealOp FakeOdoo) :=
  [.evaluate { tables := goldTables, now := 1 },
    .decide 3 salesManager .approve none 2,
    .decide 4 financeOfficer .approve none 3]

/-- Then its line is set to 40 % in Odoo, whose webhook follows. -/
def editService : List (DealOp FakeOdoo) :=
  [.editOrder (FakeOdoo.editLines 101 (List.map fun l => { l with discountPct := 40 })),
    .inboundEvent
      { eventId := "evt_1", eventType := "sale.order.changed", orderId := some 101 } 4]

/-- The customer confirms what the order then says. -/
def editedServiceWorld : World (Recorded FakeOdoo) :=
  run (DealOp.apply fakeOdooGateway (FakeOdoo.terms 101)) (approveService ++ editService)
    recordedServiceWorld

theorem approveService_confirms_iff :
    (∀ t ∈ history (DealOp.apply fakeOdooGateway (FakeOdoo.terms 101))
          (approveService ++ [.confirmByCustomer 1 none 5]) recordedServiceWorld,
        ConfirmsApprovedTerms t.1 (t.2.apply fakeOdooGateway (FakeOdoo.terms 101) t.1)) ↔
      ∀ past t later,
        history (DealOp.apply fakeOdooGateway (FakeOdoo.terms 101))
            (approveService ++ [.confirmByCustomer 1 none 5]) recordedServiceWorld =
          past ++ t :: later →
        FindsEvaluatedTerms fakeOdooGateway (FakeOdoo.terms 101) past t.1 t.2 :=
  confirmsApprovedTerms_run_iff (fakeOdooGateway_laws 101) serviceWorld_fresh rfl _

/-- The line is confirmed at 40 %, although it was evaluated and approved at 25 %. -/
theorem editedService_confirms_unapproved :
    FreshDeal recordedServiceWorld.db ∧
      ¬ ConfirmsApprovedTerms editedServiceWorld
        ((DealOp.confirmByCustomer 1 none 5).apply fakeOdooGateway (FakeOdoo.terms 101)
          editedServiceWorld) ∧
      ((((DealOp.confirmByCustomer 1 none 5).apply fakeOdooGateway (FakeOdoo.terms 101)
        editedServiceWorld).odoo.1.orders.lookup 101).map (·.header.state)) = some "sale" := by
  refine ⟨serviceWorld_fresh, fun confirmed => ?_, by decide +kernel⟩
  obtain ⟨current, -, isCurrent, -, seen, -⟩ := confirmed
    [{ lineId := 1001, productId := 107, qty := 1, priceUnit := 100000, discountPct := 40 }]
    (by decide +kernel)
  have evaluated : ((DealOp.confirmByCustomer 1 none 5).apply fakeOdooGateway
      (FakeOdoo.terms 101) editedServiceWorld).db.currentAssessment.map (·.terms) =
      some [{ lineId := 1001, productId := 107, qty := 1, priceUnit := 100000
              discountPct := 25 }] := by decide +kernel
  rw [isCurrent, Option.map_some, ← seen] at evaluated
  revert evaluated
  decide +kernel

end DealFlow
