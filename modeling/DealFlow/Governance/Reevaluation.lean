import DealFlow.Governance.Confirmation
import DealFlow.Governance.Decisions

/-!
# Evaluating again

A deal is evaluated from many places.  Where nothing the guardian reads has changed since the
current assessment (`UnchangedSince`), evaluating again should leave the approval state and the
pending and decided stages as they are (`Idempotent`).

Routing looks at the state only to keep a covered approval; in any other state it starts the chain
anew.  That comes out the same for a deal that needs no approval or waits for its sales manager.
A deal that waits for finance, or was returned or rejected, is put back
(`reevaluation_idempotent_iff`).
-/

namespace DealFlow

open Lib

section Definitions

variable {σ : Type}

/-- An assessment as order, policies, negotiations and stock would give it now. -/
def reassess (gateway : OdooGateway σ) (args : EvaluateArgs) (w : World σ) (s : RiskAssessment) :
    Option RiskAssessment :=
  match (buildDealContext gateway args.tables w.db.deal.odooSaleOrderId w.odoo).1 with
  | .error _ => none
  | .ok ctx =>
      some (newAssessment s.id ctx (assessRisk w.db args.tables ctx)
        { args with triggerType := s.triggerType, now := s.calculatedAt })

/-- Order, policies, negotiations and stock give the current assessment again. -/
def UnchangedSince (gateway : OdooGateway σ) (args : EvaluateArgs) (w : World σ) : Prop :=
  w.db.currentAssessment.isSome = true ∧
    w.db.currentAssessment.bind (reassess gateway args w) = w.db.currentAssessment

instance (gateway : OdooGateway σ) (args : EvaluateArgs) (w : World σ) :
    Decidable (UnchangedSince gateway args w) :=
  inferInstanceAs (Decidable (_ ∧ _))

/-- The stages that wait for a decision. -/
def pendingStages (requests : List ApprovalRequest) : Set ApprovalStage :=
  { stage | ∃ r ∈ requests, r.status = .pending ∧ r.requiredLevel = stage }

/-- The stages that were decided, with how. -/
def decidedStages (requests : List ApprovalRequest) :
    Set (ApprovalStage × ApprovalRequestStatus) :=
  { p | ∃ r ∈ requests, r.status.decision ≠ none ∧ (r.requiredLevel, r.status) = p }

/-- Nothing happened to the approval of the deal. -/
structure Idempotent (before after : DealStore) : Prop where
  state : after.deal.approvalState = before.deal.approvalState
  pending : pendingStages after.requests = pendingStages before.requests
  decided : decidedStages after.requests = decidedStages before.requests

/-- An evaluation whose inputs are those of a completed one finds them unchanged. -/
theorem unchangedSince_of_same {gateway : OdooGateway σ} {args args' : EvaluateArgs}
    {w w' : World σ} {ctx : DealContext} {s : RiskAssessment}
    (assessed : s = newAssessment w.db.nextId ctx (assessRisk w.db args.tables ctx) args)
    (current : w'.db.currentAssessment = some s)
    (read : (buildDealContext gateway args'.tables w'.db.deal.odooSaleOrderId w'.odoo).1 = .ok ctx)
    (tables : args'.tables = args.tables) (counter : hasOpenCounter w'.db = hasOpenCounter w.db) :
    UnchangedSince gateway args' w' := by
  have risk : assessRisk w'.db args.tables ctx = assessRisk w.db args.tables ctx := by
    unfold assessRisk
    rw [counter]
  unfold UnchangedSince
  rw [current]
  refine ⟨rfl, ?_⟩
  change reassess gateway args' w' s = some s
  unfold reassess
  rw [read, tables]
  dsimp only
  rw [risk, assessed]
  rfl

end Definitions

/-! ## Stages of the rows -/

theorem pendingStages_eq (requests : List ApprovalRequest) :
    pendingStages requests = { stage | ∃ r ∈ waiting requests, r.requiredLevel = stage } := by
  ext stage
  simp [pendingStages, waiting, and_assoc]

/-- Superseding what waits decides nothing, and neither does opening a stage. -/
theorem decidedStages_anew (requests : List ApprovalRequest) (now : Timestamp)
    {opened : List ApprovalRequest} (waits : ∀ r ∈ opened, r.status = .pending) :
    decidedStages (requests.map (supersede now) ++ opened) = decidedStages requests := by
  ext p
  constructor
  · rintro ⟨r, mem, closed, rfl⟩
    rcases List.mem_append.mp mem with old | new
    · obtain ⟨r', mem', rfl⟩ := List.mem_map.mp old
      unfold supersede at closed ⊢
      split at closed
      · exact absurd rfl closed
      · next decided =>
          rw [if_neg decided]
          exact ⟨r', mem', closed, rfl⟩
    · rw [waits r new] at closed
      exact absurd rfl closed
  · rintro ⟨r, mem, closed, rfl⟩
    have decided : r.status ≠ .pending := by
      intro pending
      rw [pending] at closed
      exact closed rfl
    have kept : r ∈ requests.map (supersede now) := List.mem_map.mpr ⟨r, mem, if_neg decided⟩
    exact ⟨r, List.mem_append_left _ kept, closed, rfl⟩

/-! ## The level a state stands on -/

/-- The state of a deal agrees with the level of its current assessment. -/
structure Levelled (a : Approvals) : Prop where
  noApproval : a.approvalState = .evaluatedNoApproval → a.requiredLevel = .none
  manager : a.approvalState = .pendingManager → a.requiredLevel ≠ .none
  valid : a.approvalState ≠ .invalidated
  unevaluated : a.approvalState = .notEvaluated → a.currentAssessmentId = none

theorem Levelled.assess (a : Approvals) (s : RiskAssessment) (now : Timestamp) :
    Levelled (a.assess s now) := by
  unfold Approvals.assess
  split
  · next kept =>
      have state : (a.settle s).approvalState = .approved := kept.2
      refine ⟨fun h => ?_, fun h => ?_, fun h => ?_, fun h => ?_⟩
      all_goals cases state.symm.trans h
  · split
    · next level => exact ⟨fun _ => level, nofun, nofun, nofun⟩
    · next level => exact ⟨nofun, fun _ => level, nofun, nofun⟩

theorem Levelled.decided {a : Approvals} (levelled : Levelled a) (req : ApprovalRequest)
    (actor : DealflowUser) (action : ApprovalActionType) (reason : Option String)
    (now : Timestamp) : Levelled (decided a req actor action reason now) := by
  cases action with
  | approve =>
      unfold DealFlow.decided Approvals.approve
      dsimp only
      split
      · exact ⟨nofun, nofun, nofun, nofun⟩
      · exact ⟨nofun, nofun, nofun, nofun⟩
  | reject => exact ⟨nofun, nofun, nofun, nofun⟩
  | «return» => exact ⟨nofun, nofun, nofun, nofun⟩
  | escalate =>
      exact ⟨levelled.noApproval, levelled.manager, levelled.valid, levelled.unevaluated⟩
  | invalidate => exact levelled

theorem FreshDeal.levelled {db : DealStore} (fresh : FreshDeal db) : Levelled db.approvals := by
  have state : db.approvals.approvalState = .notEvaluated := fresh.approvalState
  refine ⟨fun h => ?_, fun h => ?_, fun h => ?_, fun _ => fresh.currentAssessmentId⟩
  all_goals cases state.symm.trans h

/-! ## Assessing the same again -/

section Again

variable {a : Approvals} {current s : RiskAssessment}

/-- The deal carries the level of its current assessment. -/
theorem Chain.current_level (chain : Chain a) (found : a.currentAssessment = some current) :
    a.requiredLevel = current.requiredLevel := by
  obtain ⟨assessmentId, carried, stored⟩ := Option.bind_eq_some_iff.mp found
  have matched := List.find?_some stored
  have id : current.id = assessmentId := of_decide_eq_true matched
  exact (chain.currentCarried current (List.mem_of_find?_eq_some stored)
    (carried.trans (congrArg some id.symm))).1

/-- An approval covers the risk it covered before. -/
theorem Authority.covers_again {granted : Grants} (authority : Authority granted a)
    (chain : Chain a) (found : a.currentAssessment = some current)
    (level : s.requiredLevel = current.requiredLevel) (score : s.riskScore = current.riskScore)
    (state : a.approvalState = .approved) : a.covers s = true := by
  obtain ⟨current', approved, found', isApproved, covers⟩ := authority.current_covered chain state
  obtain rfl : current = current' := Option.some.inj (found.symm.trans found')
  unfold Approvals.covers
  rw [isApproved, level, score]
  exact covers

/-- Outside the approved state the chain starts anew. -/
theorem assess_anew (s : RiskAssessment) (now : Timestamp) (state : a.approvalState ≠ .approved) :
    ∃ opened, (a.assess s now).requests = a.requests.map (supersede now) ++ opened ∧
      (s.requiredLevel = .none ∧ opened = [] ∧
          (a.assess s now).approvalState = .evaluatedNoApproval ∨
        s.requiredLevel ≠ .none ∧
          opened = [stageRequest .salesManager 1 (a.nextId + 1) s.id now] ∧
          (a.assess s now).approvalState = .pendingManager) := by
  have anew : ¬ (a.covers s = true ∧ a.approvalState = .approved) := fun kept => state kept.2
  unfold Approvals.assess
  rw [if_neg anew]
  by_cases level : s.requiredLevel = .none
  · rw [if_pos level]
    exact ⟨[], (List.append_nil _).symm, .inl ⟨level, rfl, rfl⟩⟩
  · rw [if_neg level]
    exact ⟨_, rfl, .inr ⟨level, rfl, rfl⟩⟩

theorem pendingStages_anew (requests : List ApprovalRequest) (now : Timestamp)
    (opened : List ApprovalRequest) :
    pendingStages (requests.map (supersede now) ++ opened) = pendingStages opened := by
  rw [pendingStages_eq, pendingStages_eq, waiting_append, waiting_supersede, List.nil_append]

/-- Assessing the same again changes nothing exactly where no stage is behind the deal and nothing
was turned down. -/
theorem assess_again_iff {granted : Grants} (authority : Authority granted a) (chain : Chain a)
    (levelled : Levelled a) (found : a.currentAssessment = some current)
    (level : s.requiredLevel = current.requiredLevel) (score : s.riskScore = current.riskScore)
    (now : Timestamp) :
    ((a.assess s now).approvalState = a.approvalState ∧
        pendingStages (a.assess s now).requests = pendingStages a.requests ∧
        decidedStages (a.assess s now).requests = decidedStages a.requests) ↔
      a.approvalState ≠ .pendingFinance ∧ a.approvalState ≠ .returned ∧
        a.approvalState ≠ .rejected := by
  have sameLevel : s.requiredLevel = a.requiredLevel :=
    level.trans (chain.current_level found).symm
  by_cases approved : a.approvalState = .approved
  · have kept : a.assess s now = a.settle s :=
      if_pos ⟨authority.covers_again chain found level score approved, approved⟩
    rw [kept]
    refine iff_of_true ⟨rfl, rfl, rfl⟩ ?_
    rw [approved]
    decide
  · obtain ⟨opened, rows, outcome⟩ := assess_anew s now approved
    have waits : ∀ r ∈ opened, r.status = .pending := by
      rcases outcome with ⟨-, rfl, -⟩ | ⟨-, rfl, -⟩
      · simp
      · intro r mem
        rw [List.mem_singleton.mp mem]
        rfl
    -- the states a deal is put back from
    have moved : (a.assess s now).approvalState ≠ .pendingFinance ∧
        (a.assess s now).approvalState ≠ .rejected ∧ (a.assess s now).approvalState ≠ .returned := by
      rcases outcome with ⟨-, -, after⟩ | ⟨-, -, after⟩
      · rw [after]
        decide
      · rw [after]
        decide
    rw [rows, pendingStages_anew, decidedStages_anew a.requests now waits]
    cases state : a.approvalState with
    | notEvaluated =>
        have uncurrent := levelled.unevaluated state
        simp [Approvals.currentAssessment, uncurrent] at found
    | evaluatedNoApproval =>
        have none := sameLevel.trans (levelled.noApproval state)
        rcases outcome with ⟨-, rfl, after⟩ | ⟨some, -, -⟩
        · rw [after, pendingStages_eq a.requests]
          have empty : waiting a.requests = [] := by
            rcases chain.phase with ⟨empty, -⟩ | ⟨r, -, waiting, -⟩
            · exact empty
            · cases stage : r.requiredLevel <;> rw [state, stage] at waiting <;> cases waiting
          rw [empty]
          simp [pendingStages]
        · exact absurd none some
    | pendingManager =>
        have some := sameLevel.trans_ne (levelled.manager state)
        rcases outcome with ⟨none, -, -⟩ | ⟨-, rfl, after⟩
        · exact absurd none some
        · rw [after, pendingStages_eq a.requests]
          obtain ⟨r, only, stage⟩ := (chain.phase.state_iff .salesManager).mp state
          have one : waiting a.requests = [r] := only
          rw [one]
          simp [pendingStages, stageRequest, stage]
    | pendingFinance => exact iff_of_false (fun kept => moved.1 kept.1) (by simp)
    | approved => exact absurd state approved
    | rejected => exact iff_of_false (fun kept => moved.2.1 kept.1) (by simp)
    | returned => exact iff_of_false (fun kept => moved.2.2 kept.1) (by simp)
    | invalidated => exact absurd state levelled.valid

end Again

/-! ## Along a run -/

section Runs

variable {σ : Type} {gateway : OdooGateway σ} {terms : σ → List LineTerms} {orderId : ℤ}

theorem Levelled.step (laws : OrderLaws gateway orderId terms) {w : World (Recorded σ)}
    (order : w.db.deal.odooSaleOrderId = orderId) (levelled : Levelled w.db.approvals)
    (op : DealOp σ) : Levelled (op.apply gateway terms w).db.approvals := by
  cases op.effect laws order with
  | idle n later approvals quiet =>
      rw [approvals]
      exact ⟨levelled.noApproval, levelled.manager, levelled.valid, levelled.unevaluated⟩
  | evaluates s now fresh approvals snapshot quiet =>
      rw [approvals]
      exact .assess _ s now
  | decides req requestId actor action reason now guarded approvals calls =>
      rw [approvals]
      exact levelled.decided req actor action reason now
  | confirms approvals calls may state =>
      rw [approvals]
      exact levelled

/-- In every state a deal reaches, evaluating it again on what it was evaluated on leaves its
approval alone exactly when it does not wait for finance and was neither returned nor rejected. -/
theorem reevaluation_idempotent_iff (laws : OrderLaws gateway orderId terms)
    {w : World (Recorded σ)} (fresh : FreshDeal w.db) (order : w.db.deal.odooSaleOrderId = orderId)
    (ops : List (DealOp σ)) (args : EvaluateArgs)
    (unchanged : UnchangedSince (recording gateway terms) args
      (run (DealOp.apply gateway terms) ops w)) :
    Idempotent (run (DealOp.apply gateway terms) ops w).db
        (evaluateDeal (recording gateway terms) args (run (DealOp.apply gateway terms) ops w)).2.db ↔
      (run (DealOp.apply gateway terms) ops w).db.deal.approvalState ≠ .pendingFinance ∧
        (run (DealOp.apply gateway terms) ops w).db.deal.approvalState ≠ .returned ∧
        (run (DealOp.apply gateway terms) ops w).db.deal.approvalState ≠ .rejected := by
  obtain ⟨standing, levelled⟩ := run_induction
    (motive := fun past now =>
      Standing gateway terms orderId past now ∧ Levelled now.db.approvals)
    ⟨fresh.standing order, fresh.levelled⟩
    (fun _ _ op ⟨standing, levelled⟩ =>
      ⟨standing.step laws op, levelled.step laws standing.order op⟩) ops
  generalize run (DealOp.apply gateway terms) ops w = now at standing levelled unchanged ⊢
  obtain ⟨current, found⟩ := Option.isSome_iff_exists.mp unchanged.1
  have same := unchanged.2
  rw [found, Option.bind_some] at same
  unfold reassess at same
  rcases built : buildDealContext (recording gateway terms) args.tables
    now.db.deal.odooSaleOrderId now.odoo with ⟨e | ctx, odoo⟩
  · rw [built] at same
    cases same
  · rw [built] at same
    have again := Option.some.inj same
    have assessed := (evaluateDeal_approvals built).trans
      (settleEvaluation_approvals now.db args ctx)
    have level : (assessRisk now.db args.tables ctx).requiredLevel = current.requiredLevel :=
      congrArg RiskAssessment.requiredLevel again
    have score : (assessRisk now.db args.tables ctx).riskScore = current.riskScore :=
      congrArg RiskAssessment.riskScore again
    have state := congrArg Approvals.approvalState assessed
    have requests := congrArg Approvals.requests assessed
    refine Iff.trans ?_ (assess_again_iff standing.authority standing.chain levelled found
      (s := newAssessment now.db.nextId ctx (assessRisk now.db args.tables ctx) args)
      level score args.now)
    rw [← state, ← requests]
    constructor
    · rintro ⟨sameState, samePending, sameDecided⟩
      exact ⟨sameState, samePending, sameDecided⟩
    · rintro ⟨sameState, samePending, sameDecided⟩
      exact ⟨sameState, samePending, sameDecided⟩

/-- Waiting for its sales manager, the service deal may be evaluated again. -/
theorem evaluatedService_idempotent_iff :
    UnchangedSince (recording fakeOdooGateway (FakeOdoo.terms 101)) { tables := goldTables, now := 5 }
        (run (DealOp.apply fakeOdooGateway (FakeOdoo.terms 101)) (approveService.take 1)
          recordedServiceWorld) ∧
      (Idempotent
          (run (DealOp.apply fakeOdooGateway (FakeOdoo.terms 101)) (approveService.take 1)
            recordedServiceWorld).db
          (evaluateDeal (recording fakeOdooGateway (FakeOdoo.terms 101))
            { tables := goldTables, now := 5 }
            (run (DealOp.apply fakeOdooGateway (FakeOdoo.terms 101)) (approveService.take 1)
              recordedServiceWorld)).2.db ↔
        (run (DealOp.apply fakeOdooGateway (FakeOdoo.terms 101)) (approveService.take 1)
            recordedServiceWorld).db.deal.approvalState ≠ .pendingFinance ∧
          (run (DealOp.apply fakeOdooGateway (FakeOdoo.terms 101)) (approveService.take 1)
            recordedServiceWorld).db.deal.approvalState ≠ .returned ∧
          (run (DealOp.apply fakeOdooGateway (FakeOdoo.terms 101)) (approveService.take 1)
            recordedServiceWorld).db.deal.approvalState ≠ .rejected) := by
  have unchanged : UnchangedSince (recording fakeOdooGateway (FakeOdoo.terms 101))
      { tables := goldTables, now := 5 }
      (run (DealOp.apply fakeOdooGateway (FakeOdoo.terms 101)) (approveService.take 1)
        recordedServiceWorld) := by
    decide +kernel
  exact ⟨unchanged, reevaluation_idempotent_iff (fakeOdooGateway_laws 101) serviceWorld_fresh rfl _
    _ unchanged⟩

/-- Approved by its sales manager and evaluated again on the same order, the service deal waits for
the sales manager once more. -/
theorem handedOverService_not_idempotent :
    FreshDeal recordedServiceWorld.db ∧
      UnchangedSince (recording fakeOdooGateway (FakeOdoo.terms 101))
        { tables := goldTables, now := 5 }
        (run (DealOp.apply fakeOdooGateway (FakeOdoo.terms 101)) (approveService.take 2)
          recordedServiceWorld) ∧
      ¬ Idempotent
        (run (DealOp.apply fakeOdooGateway (FakeOdoo.terms 101)) (approveService.take 2)
          recordedServiceWorld).db
        (evaluateDeal (recording fakeOdooGateway (FakeOdoo.terms 101))
          { tables := goldTables, now := 5 }
          (run (DealOp.apply fakeOdooGateway (FakeOdoo.terms 101)) (approveService.take 2)
            recordedServiceWorld)).2.db := by
  refine ⟨serviceWorld_fresh, ?_, fun kept => ?_⟩
  · decide +kernel
  · have state := kept.state
    revert state
    decide +kernel

end Runs

end DealFlow
