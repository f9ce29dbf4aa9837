import DealFlow.Governance.Coverage
import DealFlow.Services.HealthService

/-!
# An approval taken away

An evaluation that takes the approval of a deal away should show it: an `APPROVAL_INVALIDATED` event
of the deal, and re-approval as its next best action (`RevocationVisible`).

It never does (`revocation_never_visible`).  Routing leaves the deal waiting for its sales manager
or clear of approval, never in the state `INVALIDATED` by which the evaluator knows that it has just
revoked, so the rule that asks for re-approval is never reached.  The event is recorded for each
request that is pending (`revocation_recorded_iff`), and an approved deal has none
(`revocation_unrecorded_run`).
-/

namespace DealFlow

open Lib

/-- The events an operation records. -/
def newEvents (before after : DealStore) : List AuditEvent :=
  after.auditEvents.drop before.auditEvents.length

def RecordsInvalidation (before after : DealStore) : Prop :=
  ∃ e ∈ newEvents before after, e.eventType = .approvalInvalidated

instance (before after : DealStore) : Decidable (RecordsInvalidation before after) :=
  inferInstanceAs (Decidable (∃ e ∈ newEvents before after, e.eventType = .approvalInvalidated))

structure RevocationVisible (before after : DealStore) (nextAction : Option NextBestAction) :
    Prop where
  recorded : RecordsInvalidation before after
  asked : nextAction.map (·.type) = some .reapprovalRequired

/-! ## What routing leaves -/

/-- An assessment that takes the approval away leaves the deal in one of two states. -/
theorem assess_lost {a : Approvals} {s : RiskAssessment} {now : Timestamp}
    (lost : (a.assess s now).approvalState ≠ .approved) :
    (a.assess s now).approvalState = .evaluatedNoApproval ∨
      (a.assess s now).approvalState = .pendingManager := by
  unfold Approvals.assess at lost ⊢
  split
  · next kept =>
      rw [if_pos kept] at lost
      exact absurd kept.2 lost
  · split
    · exact .inl rfl
    · exact .inr rfl

/-- The event of a request that is closed as superseded. -/
def supersededEvent (now : Timestamp) (r : ApprovalRequest) : AuditEvent :=
  { eventType := .approvalInvalidated
    entityType := "approval_request"
    entityId := toString r.id
    actorType := "SYSTEM"
    createdAt := now }

theorem invalidatePending_auditEvents (db : DealStore) (now : Timestamp) :
    (invalidatePending db now).auditEvents =
      db.auditEvents ++ db.pendingRequests.map (supersededEvent now) := by
  unfold invalidatePending
  rw [DealStore.foldl_recordAuditEvent]
  rfl

theorem openManagerStage_auditEvents (db : DealStore) (riskAssessmentId : ℕ) (now : Timestamp) :
    ∃ event : AuditEvent, event.eventType = .approvalCreated ∧
      (openManagerStage db riskAssessmentId now).auditEvents = db.auditEvents ++ [event] :=
  ⟨_, rfl, rfl⟩

/-- Where a covered approval does not stand, routing closes what is pending, with an event each, and
records no other invalidation. -/
theorem applyApprovalRouting_auditEvents (db : DealStore) (riskAssessmentId : ℕ)
    (requiredLevel : ApprovalLevel) {isCovered : Bool} (now : Timestamp)
    (lost : ¬ (isCovered = true ∧ db.deal.approvalState = .approved)) :
    ∃ opened, (∀ e ∈ opened, e.eventType ≠ .approvalInvalidated) ∧
      (applyApprovalRouting db riskAssessmentId requiredLevel isCovered now).auditEvents =
        db.auditEvents ++ db.pendingRequests.map (supersededEvent now) ++ opened := by
  have opensStage : ∃ opened, (∀ e ∈ opened, e.eventType ≠ .approvalInvalidated) ∧
      (openManagerStage (invalidatePending db now) riskAssessmentId now).auditEvents =
        db.auditEvents ++ db.pendingRequests.map (supersededEvent now) ++ opened := by
    obtain ⟨event, created, events⟩ :=
      openManagerStage_auditEvents (invalidatePending db now) riskAssessmentId now
    rw [invalidatePending_auditEvents] at events
    refine ⟨[event], fun e mem => ?_, events⟩
    rw [List.mem_singleton.mp mem, created]
    exact nofun
  unfold applyApprovalRouting
  rw [if_neg lost]
  cases requiredLevel with
  | none =>
      refine ⟨[], fun e mem => absurd mem List.not_mem_nil, ?_⟩
      rw [List.append_nil, ← invalidatePending_auditEvents]
      rfl
  | manager => exact opensStage
  | managerAndFinance => exact opensStage

section Evaluation

variable {σ : Type} {gateway : OdooGateway σ} {args : EvaluateArgs} {w : World σ}

/-- An evaluation that takes the approval away completes, and leaves the deal in one of two
states. -/
theorem evaluateDeal_lost (state : w.db.deal.approvalState = .approved)
    (lost : (evaluateDeal gateway args w).2.db.deal.approvalState ≠ .approved) :
    (evaluateDeal gateway args w).2.db.deal.approvalState = .evaluatedNoApproval ∨
      (evaluateDeal gateway args w).2.db.deal.approvalState = .pendingManager := by
  rcases evaluateDeal_cases gateway args w with
    ⟨e, -, unchanged⟩ | ⟨ctx, response, -, -, assessed⟩
  · rw [unchanged] at lost
    exact absurd state lost
  · have after : (evaluateDeal gateway args w).2.db.deal.approvalState = _ :=
      congrArg Approvals.approvalState assessed
    rw [after] at lost ⊢
    exact assess_lost lost

/-- No evaluation asks for re-approval as the next best action. -/
theorem evaluationNextAction_lost {read : DealStore → Except DealFlowException HealthReading}
    (state : w.db.deal.approvalState = .approved)
    (lost : (evaluateDeal gateway args w).2.db.deal.approvalState ≠ .approved) :
    (evaluationNextAction gateway read args w).map (·.type) ≠ some .reapprovalRequired := by
  have left := evaluateDeal_lost state lost
  unfold evaluationNextAction
  revert left
  rcases evaluateDeal gateway args w with ⟨e | response, evaluated⟩
  · exact fun _ => nofun
  intro left
  dsimp only at left ⊢
  have notInvalidated : evaluated.db.deal.approvalState ≠ .invalidated := by
    rcases left with clear | waiting
    · rw [clear]
      exact nofun
    · rw [waiting]
      exact nofun
  unfold recomputeDealHealth
  cases read evaluated.db with
  | error e => exact nofun
  | ok reading =>
      intro asked
      obtain ⟨-, -, invalidated | invalidated⟩ :=
        (determineNextBestAction_reapproval_iff _).mp (Option.some.inj asked)
      · exact notInvalidated (of_decide_eq_true invalidated)
      · exact notInvalidated invalidated

/-- Whatever the deal, an evaluation that takes its approval away does not show it. -/
theorem revocation_never_visible (gateway : OdooGateway σ)
    (read : DealStore → Except DealFlowException HealthReading) (args : EvaluateArgs)
    (w : World σ) (state : w.db.deal.approvalState = .approved)
    (lost : (evaluateDeal gateway args w).2.db.deal.approvalState ≠ .approved) :
    ¬ RevocationVisible w.db (evaluateDeal gateway args w).2.db
        (evaluationNextAction gateway read args w) :=
  fun visible => evaluationNextAction_lost state lost visible.asked

/-- The events of an evaluation that takes the approval away. -/
theorem evaluateDeal_lost_events (state : w.db.deal.approvalState = .approved)
    (lost : (evaluateDeal gateway args w).2.db.deal.approvalState ≠ .approved) :
    ∃ others : List AuditEvent, (∀ e ∈ others, e.eventType ≠ .approvalInvalidated) ∧
      newEvents w.db (evaluateDeal gateway args w).2.db =
        w.db.pendingRequests.map (supersededEvent args.now) ++ others := by
  revert lost
  unfold evaluateDeal
  rcases buildDealContext gateway args.tables w.db.deal.odooSaleOrderId w.odoo with
    ⟨e | ctx, odoo⟩
  · exact fun lost => absurd state lost
  intro lost
  dsimp only at lost ⊢
  set calcRes := assessRisk w.db args.tables ctx with calcDef
  have uncovered : ¬ (isCovered w.db calcRes = true ∧ w.db.deal.approvalState = .approved) := by
    rintro ⟨covered, -⟩
    refine lost ?_
    change (settleEvaluation w.db args ctx).approvals.approvalState = .approved
    rw [settleEvaluation_approvals, assess_approved_iff]
    exact ⟨covered, state⟩
  obtain ⟨opened, quiet, events⟩ := applyApprovalRouting_auditEvents
    (persistAssessment w.db (newAssessment w.db.nextId ctx calcRes args) calcRes.factors)
    w.db.nextId calcRes.requiredLevel args.now uncovered
  have settled : (settleEvaluation w.db args ctx).auditEvents =
      w.db.auditEvents ++ w.db.pendingRequests.map (supersededEvent args.now) ++ opened := events
  have recorded : ∀ event, newEvents w.db
      ((settleEvaluation w.db args ctx).recordAuditEvent event) =
        w.db.pendingRequests.map (supersededEvent args.now) ++ (opened ++ [event]) := by
    intro event
    change List.drop _ ((settleEvaluation w.db args ctx).auditEvents ++ [event]) = _
    rw [settled, List.append_assoc, List.append_assoc, List.drop_left]
  refine ⟨_, ?_, recorded _⟩
  intro e mem
  rcases List.mem_append.mp mem with mem | mem
  · exact quiet e mem
  · rw [List.mem_singleton.mp mem]
    exact nofun

/-- It records an invalidation exactly where a request is pending. -/
theorem revocation_recorded_iff (state : w.db.deal.approvalState = .approved)
    (lost : (evaluateDeal gateway args w).2.db.deal.approvalState ≠ .approved) :
    RecordsInvalidation w.db (evaluateDeal gateway args w).2.db ↔ w.db.pendingRequests ≠ [] := by
  obtain ⟨others, quiet, events⟩ := evaluateDeal_lost_events state lost
  unfold RecordsInvalidation
  rw [events]
  constructor
  · rintro ⟨e, mem, invalidation⟩ empty
    rw [empty] at mem
    exact quiet e mem invalidation
  · intro pending
    obtain ⟨r, mem⟩ := List.exists_mem_of_ne_nil _ pending
    exact ⟨supersededEvent args.now r,
      List.mem_append_left _ (List.mem_map_of_mem mem), rfl⟩

/-- Along a governance run no such evaluation records an invalidation: an approved deal has nothing
pending. -/
theorem revocation_unrecorded_run (fresh : FreshDeal w.db) (ops : List (GovernanceOp σ))
    (state : (run (GovernanceOp.apply gateway) ops w).db.deal.approvalState = .approved)
    (lost : (evaluateDeal gateway args
      (run (GovernanceOp.apply gateway) ops w)).2.db.deal.approvalState ≠ .approved) :
    ¬ RecordsInvalidation (run (GovernanceOp.apply gateway) ops w).db
        (evaluateDeal gateway args (run (GovernanceOp.apply gateway) ops w)).2.db := by
  rw [revocation_recorded_iff state lost, not_not]
  refine (approvalChain_run fresh ops).otherwise ?_ ?_
  · rw [state]
    exact nofun
  · rw [state]
    exact nofun

end Evaluation

/-! ## A deal that loses its approval -/

/-- The service order at 16 %, its deal approved by the sales manager, and then at 40 %. -/
def regradedWorld : World FakeOdoo :=
  run (GovernanceOp.apply fakeOdooGateway)
    [.onOdoo (FakeOdoo.editLines 101 (List.map fun l => { l with discountPct := 16 })),
      .evaluate { tables := goldTables, now := 1 },
      .decide 3 salesManager .approve none 2,
      .onOdoo (FakeOdoo.editLines 101 (List.map fun l => { l with discountPct := 40 }))]
    serviceWorld

/-- The evaluation takes the approval away, records no invalidation, and asks for the approval of
the sales manager. -/
theorem regradedWorld_not_visible :
    FreshDeal serviceWorld.db ∧
      regradedWorld.db.deal.approvalState = .approved ∧
      (evaluateDeal fakeOdooGateway { tables := goldTables, now := 4 }
        regradedWorld).2.db.deal.approvalState = .pendingManager ∧
      ¬ RecordsInvalidation regradedWorld.db
        (evaluateDeal fakeOdooGateway { tables := goldTables, now := 4 } regradedWorld).2.db ∧
      (evaluationNextAction fakeOdooGateway (fun _ => .ok {}) { tables := goldTables, now := 4 }
        regradedWorld).map (·.type) = some .managerApprovalRequired ∧
      ¬ RevocationVisible regradedWorld.db
        (evaluateDeal fakeOdooGateway { tables := goldTables, now := 4 } regradedWorld).2.db
        (evaluationNextAction fakeOdooGateway (fun _ => .ok {}) { tables := goldTables, now := 4 }
          regradedWorld) := by
  have shown : regradedWorld.db.deal.approvalState = .approved ∧
      (evaluateDeal fakeOdooGateway { tables := goldTables, now := 4 }
        regradedWorld).2.db.deal.approvalState = .pendingManager ∧
      ¬ RecordsInvalidation regradedWorld.db
        (evaluateDeal fakeOdooGateway { tables := goldTables, now := 4 } regradedWorld).2.db ∧
      (evaluationNextAction fakeOdooGateway (fun _ => .ok {}) { tables := goldTables, now := 4 }
        regradedWorld).map (·.type) = some .managerApprovalRequired := by
    decide +kernel
  obtain ⟨state, waiting, unrecorded, asked⟩ := shown
  exact ⟨serviceWorld_fresh, state, waiting, unrecorded, asked,
    fun visible => unrecorded visible.recorded⟩

theorem regradedWorld_never_visible :
    ¬ RevocationVisible regradedWorld.db
        (evaluateDeal fakeOdooGateway { tables := goldTables, now := 4 } regradedWorld).2.db
        (evaluationNextAction fakeOdooGateway (fun _ => .ok {}) { tables := goldTables, now := 4 }
          regradedWorld) :=
  revocation_never_visible fakeOdooGateway (fun _ => .ok {}) { tables := goldTables, now := 4 }
    regradedWorld (by decide +kernel) (by decide +kernel)

end DealFlow
