import DealFlow.Governance.Runs
import DealFlow.Governance.Terms

/-!
# What an order shows of its governance

`set_governance` writes an overlay on the order: the approval state of the deal and a lock.  An
operation of a governance run is of one of three kinds (`Telling`): it changes neither the state nor
the overlay; it hands the deal over to finance, which changes the state only; or it moves the state
and tells the order.

* `orderLock_run`: from the first evaluation on, the order is locked exactly while the deal waits
  for a decision or is rejected.
* `mirroredState_run_iff`: the state on the order is the state of the deal after every operation
  exactly when no operation of the run hands the deal over.
-/

namespace DealFlow

open Lib

structure Overlay where
  approvalState : String
  locked : Bool
  deriving DecidableEq, Repr

def FakeOrder.overlay (order : FakeOrder) : Overlay :=
  { approvalState := order.dealflowApprovalState, locked := order.dealflowLocked }

/-- The overlay of an in-memory order, if there is such an order. -/
def FakeOdoo.overlay (orderId : ℤ) (s : FakeOdoo) : Option Overlay :=
  (s.orders.lookup orderId).map FakeOrder.overlay

/-- The states in which an order is locked. -/
def ApprovalState.locks (state : ApprovalState) : Bool :=
  state ∈ [.pendingManager, .pendingFinance, .rejected]

/-- What the order of a deal in a state should show. -/
def ApprovalState.overlay (state : ApprovalState) : Overlay :=
  { approvalState := state.value, locked := state.locks }

/-- The sales manager approves a deal that finance has to approve too. -/
def HandsOver {σ : Type} (w : World σ) : GovernanceOp σ → Prop
  | .decide requestId actor .approve _ _ =>
      w.db.deal.requiredLevel = .managerAndFinance ∧
        ∃ req, guardDecision w.db requestId actor = .ok req ∧ req.requiredLevel = .salesManager
  | _ => False

/-- What an operation does to the state of a deal and to the overlay of its order. -/
inductive Telling (orderId : ℤ) (op : GovernanceOp FakeOdoo) (w w' : World FakeOdoo) : Prop
  | silent (state : w'.db.deal.approvalState = w.db.deal.approvalState)
      (assessments : w'.db.assessments = w.db.assessments)
      (overlay : w'.odoo.overlay orderId = w.odoo.overlay orderId)
      (same : ¬ HandsOver w op)
  | handsOver (handed : HandsOver w op)
      (before : w.db.deal.approvalState = .pendingManager)
      (state : w'.db.deal.approvalState = .pendingFinance)
      (assessments : w'.db.assessments = w.db.assessments)
      (overlay : w'.odoo.overlay orderId = w.odoo.overlay orderId)
  | tells (told : ApprovalState) (state : w'.db.deal.approvalState = told)
      (overlay : w'.odoo.overlay orderId = some told.overlay)
      (same : ¬ HandsOver w op)

/-! ## The calls of the in-memory gateway -/

section Overlay

variable {orderId : ℤ}

theorem setGovernance_overlay {s : FakeOdoo} {overlay : Overlay}
    (shown : s.overlay orderId = some overlay) (approvalState : String) (riskScore : ℚ)
    (locked : Bool) :
    FakeOdoo.overlay orderId
        (fakeOdooGateway.setGovernance orderId approvalState riskScore locked s).2 =
      some { approvalState, locked } := by
  obtain ⟨order, found, -⟩ := Option.map_eq_some_iff.mp shown
  change FakeOdoo.overlay orderId
    (FakeOdoo.setGovernance orderId approvalState riskScore locked s).2 = _
  unfold FakeOdoo.setGovernance FakeOdoo.onOrder
  rw [found]
  unfold FakeOdoo.overlay
  dsimp only
  rw [AList.lookup_insert]
  rfl

theorem confirm_keeps_overlay (id : ℤ) :
    Keeps (FakeOdoo.overlay orderId) (fakeOdooGateway.confirm id) := by
  intro s
  have inserted : ∀ order order' : FakeOrder, s.orders.lookup id = some order →
      order'.overlay = order.overlay →
      FakeOdoo.overlay orderId { s with orders := s.orders.insert id order' } =
        s.overlay orderId := by
    intro order order' found same
    unfold FakeOdoo.overlay
    by_cases here : orderId = id
    · rw [here, found, AList.lookup_insert]
      exact congrArg some same
    · rw [AList.lookup_insert_ne here]
  change FakeOdoo.overlay orderId (FakeOdoo.confirm id s).2 = _
  unfold FakeOdoo.confirm
  split
  · rfl
  · next order found =>
      split
      · rfl
      · dsimp only
        split
        · exact inserted order _ found rfl
        · exact inserted order _ found rfl

/-! ## One step -/

/-- Whatever an evaluation is routed to, it locks the order exactly in the states that lock. -/
theorem assess_locks (a : Approvals) (s : RiskAssessment) (now : Timestamp) :
    isLocked s.requiredLevel (a.assess s now).approvalState =
      (a.assess s now).approvalState.locks := by
  unfold Approvals.assess
  split
  · next kept =>
      have state : (a.settle s).approvalState = .approved := kept.2
      rw [state]
      unfold isLocked
      split <;> rfl
  · split
    · next level =>
        rw [level]
        rfl
    · next level => exact if_neg level

variable {w : World FakeOdoo}

/-- Reading and telling, an evaluation finds the order it is about. -/
theorem evaluate_telling {overlay : Overlay} (shown : w.odoo.overlay orderId = some overlay)
    (order : w.db.deal.odooSaleOrderId = orderId) (args : EvaluateArgs) :
    Telling orderId (.evaluate args) w ((GovernanceOp.evaluate args).apply fakeOdooGateway w) := by
  have read := buildDealContext_keeps (fakeOdooGateway_reads (FakeOdoo.overlay orderId))
    args.tables w.db.deal.odooSaleOrderId w.odoo
  cases built : buildDealContext fakeOdooGateway args.tables w.db.deal.odooSaleOrderId w.odoo with
  | mk result odoo =>
      rw [built] at read
      have raised := @evaluateDeal_raises _ fakeOdooGateway args w
      cases result with
      | error e =>
          have kept := raised built
          refine .silent ?_ ?_ ?_ id
          · exact congrArg (fun r => r.2.db.deal.approvalState) kept
          · exact congrArg (fun r => r.2.db.assessments) kept
          · exact (congrArg (fun r => r.2.odoo.overlay orderId) kept).trans read
      | ok ctx =>
          have found : FakeOdoo.overlay orderId odoo = some overlay := read.trans shown
          have approvals := (evaluateDeal_approvals built).trans
            (settleEvaluation_approvals w.db args ctx)
          have settled := settleEvaluation_approvals w.db args ctx
          have state := congrArg Approvals.approvalState settled
          have same : (settleEvaluation w.db args ctx).deal.odooSaleOrderId = orderId :=
            (congrArg Approvals.odooSaleOrderId settled).trans ((assess_order ..).trans order)
          have locks := assess_locks w.db.approvals
            (newAssessment w.db.nextId ctx (assessRisk w.db args.tables ctx) args) args.now
          rw [← settled] at locks
          refine .tells (settleEvaluation w.db args ctx).deal.approvalState
            (congrArg Approvals.approvalState (evaluateDeal_approvals built)) ?_ id
          change FakeOdoo.overlay orderId (evaluateDeal fakeOdooGateway args w).2.odoo = _
          rw [evaluateDeal_odoo built, same, setGovernance_overlay found]
          exact congrArg (fun locked => some (Overlay.mk _ locked)) locks

/-- The overlay after a decision whose guards pass. -/
theorem decided_overlay {overlay : Overlay} (shown : w.odoo.overlay orderId = some overlay)
    (order : w.db.deal.odooSaleOrderId = orderId) {requestId : ℕ} {actor : DealflowUser}
    {req : ApprovalRequest} (guarded : guardDecision w.db requestId actor = .ok req)
    (action : ApprovalActionType) (reason : Option String) (now : Timestamp) :
    FakeOdoo.overlay orderId
        (decideApprovalRequest fakeOdooGateway requestId actor action reason now w).2.odoo =
      match action with
      | .approve =>
          if w.db.deal.requiredLevel = .managerAndFinance ∧ req.requiredLevel = .salesManager then
            some overlay
          else some ApprovalState.approved.overlay
      | .reject => some ApprovalState.rejected.overlay
      | .return => some ApprovalState.returned.overlay
      | .escalate | .invalidate => some overlay := by
  have told : ∀ approvalState riskScore locked, FakeOdoo.overlay orderId
      (fakeOdooGateway.setGovernance w.db.deal.odooSaleOrderId approvalState riskScore locked
        w.odoo).2 = some { approvalState, locked } := by
    rw [order]
    exact setGovernance_overlay shown
  rw [decideApprovalRequest_odoo fakeOdooGateway guarded]
  cases action with
  | approve =>
      by_cases twoStage :
          w.db.deal.requiredLevel = .managerAndFinance ∧ req.requiredLevel = .salesManager
      · dsimp only
        rw [if_pos twoStage, if_pos twoStage]
        exact shown
      · dsimp only
        rw [if_neg twoStage, if_neg twoStage]
        split
        · exact (confirm_keeps_overlay _ _).trans (told ..)
        · exact told ..
  | reject => exact told ..
  | «return» => exact told ..
  | escalate => exact shown
  | invalidate => exact shown

/-- A decision tells the order of every state it moves the deal to, but that of finance. -/
theorem decide_telling {overlay : Overlay} (shown : w.odoo.overlay orderId = some overlay)
    (order : w.db.deal.odooSaleOrderId = orderId) (chain : Chain w.db.approvals) (requestId : ℕ)
    (actor : DealflowUser) (action : ApprovalActionType) (reason : Option String)
    (now : Timestamp) :
    Telling orderId (.decide requestId actor action reason now) w
      ((GovernanceOp.decide requestId actor action reason now).apply fakeOdooGateway w) := by
  rcases decideApprovalRequest_cases fakeOdooGateway requestId actor action reason now w with
    ⟨e, raised⟩ | ⟨req, guarded, -, outcome⟩
  · refine .silent ?_ ?_ ?_ fun handed => ?_
    · exact congrArg (fun r => r.2.db.deal.approvalState) raised
    · exact congrArg (fun r => r.2.db.assessments) raised
    · exact congrArg (fun r => r.2.odoo.overlay orderId) raised
    · cases action with
      | approve =>
          rcases handed with ⟨-, req, passed, -⟩
          unfold decideApprovalRequest at raised
          rw [passed] at raised
          cases congrArg Prod.fst raised
      | reject | «return» | escalate | invalidate => exact handed
  · have overlaid := decided_overlay shown order guarded action reason now
    have state := congrArg Approvals.approvalState outcome
    have assessments := (decided_frame w.db.approvals req actor action reason now).2.1
    have kept := (congrArg Approvals.assessments outcome).trans assessments
    cases action with
    | approve =>
        by_cases twoStage :
            w.db.deal.requiredLevel = .managerAndFinance ∧ req.requiredLevel = .salesManager
        · obtain ⟨found, waits, -, -⟩ := guardDecision_ok guarded
          obtain ⟨-, before, -⟩ := chain.awaits (List.mem_of_find?_eq_some found) waits
          rw [twoStage.2] at before
          refine .handsOver ⟨twoStage.1, req, guarded, twoStage.2⟩ before ?_ kept ?_
          · exact state.trans (congrArg Approvals.approvalState (if_pos twoStage))
          · exact (overlaid.trans (if_pos twoStage)).trans shown.symm
        · refine .tells .approved ?_ (overlaid.trans (if_neg twoStage)) fun handed => ?_
          · exact state.trans (congrArg Approvals.approvalState (if_neg twoStage))
          · rcases handed with ⟨level, req', passed, stage⟩
            cases guarded.symm.trans passed
            exact twoStage ⟨level, stage⟩
    | reject => exact .tells .rejected state overlaid id
    | «return» => exact .tells .returned state overlaid id
    | escalate => exact .silent state kept (overlaid.trans shown.symm) id
    | invalidate => exact .silent state kept (overlaid.trans shown.symm) id

/-- What happens to the order outside leaves its overlay alone. -/
def GovernanceOp.LeavesOverlay (orderId : ℤ) : GovernanceOp FakeOdoo → Prop
  | .onOdoo change => ∀ s : FakeOdoo, (change s).overlay orderId = s.overlay orderId
  | _ => True

/-- The deal and its order, along a governance run. -/
structure Overlaid (orderId : ℤ) (w : World FakeOdoo) : Prop where
  order : w.db.deal.odooSaleOrderId = orderId
  chain : Chain w.db.approvals
  shown : ∃ overlay, w.odoo.overlay orderId = some overlay

theorem Overlaid.telling (overlaid : Overlaid orderId w) {op : GovernanceOp FakeOdoo}
    (outside : op.LeavesOverlay orderId) :
    Telling orderId op w (op.apply fakeOdooGateway w) := by
  obtain ⟨overlay, shown⟩ := overlaid.shown
  cases op with
  | evaluate args => exact evaluate_telling shown overlaid.order args
  | decide requestId actor action reason now =>
      exact decide_telling shown overlaid.order overlaid.chain requestId actor action reason now
  | onOdoo change => exact .silent rfl rfl (outside w.odoo) id

theorem Overlaid.step (overlaid : Overlaid orderId w) {op : GovernanceOp FakeOdoo}
    (outside : op.LeavesOverlay orderId) : Overlaid orderId (op.apply fakeOdooGateway w) := by
  refine ⟨?_, overlaid.chain.step op, ?_⟩
  · have same : (op.apply fakeOdooGateway w).db.approvals.odooSaleOrderId =
        w.db.approvals.odooSaleOrderId := by
      rcases governanceStep_cases fakeOdooGateway op w with
        unchanged | ⟨s, now, -, assessed⟩ | ⟨_, actor, action, reason, now, req, -, -, -, outcome⟩
      · rw [unchanged]
      · rw [assessed, assess_order]
      · rw [outcome]
        exact (decided_frame w.db.approvals req actor action reason now).1
    exact same.trans overlaid.order
  · cases overlaid.telling outside with
    | silent state assessments overlay same => exact overlay ▸ overlaid.shown
    | handsOver handed before state assessments overlay => exact overlay ▸ overlaid.shown
    | tells told state overlay same => exact ⟨_, overlay⟩

/-- A deal that waits for a stage has been evaluated. -/
theorem Overlaid.evaluated (overlaid : Overlaid orderId w)
    (waits : w.db.deal.approvalState = .pendingManager) : w.db.assessments ≠ [] := by
  rcases overlaid.chain.phase with ⟨-, state⟩ | ⟨r, -, -, current⟩
  · exact absurd waits (state .salesManager)
  · obtain ⟨s, mem, -⟩ := overlaid.chain.currentStored _ current
    exact List.ne_nil_of_mem mem

theorem FreshDeal.overlaid (fresh : FreshDeal w.db)
    (ordered : (w.odoo.orders.lookup w.db.deal.odooSaleOrderId).isSome) :
    Overlaid w.db.deal.odooSaleOrderId w := by
  obtain ⟨order, found⟩ := Option.isSome_iff_exists.mp ordered
  exact ⟨rfl, fresh.chain, order.overlay, Option.map_eq_some_iff.mpr ⟨order, found, rfl⟩⟩

/-! ## The lock along a run -/

/-- An evaluated deal has its order locked exactly in the states that lock. -/
def LockMatches (orderId : ℤ) (w : World FakeOdoo) : Prop :=
  w.db.assessments ≠ [] →
    (w.odoo.overlay orderId).map Overlay.locked = some w.db.deal.approvalState.locks

theorem LockMatches.step (lock : LockMatches orderId w) (overlaid : Overlaid orderId w)
    {op : GovernanceOp FakeOdoo} (outside : op.LeavesOverlay orderId) :
    LockMatches orderId (op.apply fakeOdooGateway w) := by
  intro evaluated
  cases overlaid.telling outside with
  | silent state assessments overlay same =>
      rw [overlay, state]
      exact lock (assessments ▸ evaluated)
  | handsOver handed before state assessments overlay =>
      -- both stages wait on a locked order
      have locked := lock (assessments ▸ evaluated)
      rw [before] at locked
      rw [overlay, state]
      exact locked
  | tells told state overlay same =>
      rw [overlay, state]
      rfl

theorem locks_iff (state : ApprovalState) :
    state.locks = true ↔ state = .pendingManager ∨ state = .pendingFinance ∨ state = .rejected := by
  simp [ApprovalState.locks]

/-- From the first evaluation on, the order is locked exactly while the deal waits for a decision or
is rejected. -/
theorem orderLock_run {w : World FakeOdoo} (fresh : FreshDeal w.db)
    (ordered : (w.odoo.orders.lookup w.db.deal.odooSaleOrderId).isSome)
    (ops : List (GovernanceOp FakeOdoo))
    (outside : ∀ op ∈ ops, op.LeavesOverlay w.db.deal.odooSaleOrderId)
    (evaluated : (run (GovernanceOp.apply fakeOdooGateway) ops w).db.assessments ≠ []) :
    ∃ order, (run (GovernanceOp.apply fakeOdooGateway) ops w).odoo.orders.lookup
        w.db.deal.odooSaleOrderId = some order ∧
      (order.dealflowLocked = true ↔
        (run (GovernanceOp.apply fakeOdooGateway) ops w).db.deal.approvalState = .pendingManager ∨
        (run (GovernanceOp.apply fakeOdooGateway) ops w).db.deal.approvalState = .pendingFinance ∨
        (run (GovernanceOp.apply fakeOdooGateway) ops w).db.deal.approvalState = .rejected) := by
  obtain ⟨-, -, lock⟩ := run_guarded
    (fun now => Overlaid w.db.deal.odooSaleOrderId now ∧ LockMatches w.db.deal.odooSaleOrderId now)
    (fun _ op => op.LeavesOverlay w.db.deal.odooSaleOrderId)
    ⟨fresh.overlaid ordered, fun assessed => absurd fresh.assessments assessed⟩
    (fun _ _ allowed ⟨overlaid, lock⟩ => ⟨overlaid.step allowed, lock.step overlaid allowed⟩) ops
    (history_allowed _ outside w)
  obtain ⟨overlay, shown, locked⟩ := Option.map_eq_some_iff.mp (lock evaluated)
  obtain ⟨order, found, rfl⟩ := Option.map_eq_some_iff.mp shown
  refine ⟨order, found, ?_⟩
  rw [← locks_iff, ← locked]
  rfl

/-- Approved by its sales manager, the service deal waits for finance on a locked order. -/
theorem serviceApproval_lock :
    ∃ order, (run (GovernanceOp.apply fakeOdooGateway) (serviceApproval.take 2)
        serviceWorld).odoo.orders.lookup 101 = some order ∧
      (order.dealflowLocked = true ↔
        (run (GovernanceOp.apply fakeOdooGateway) (serviceApproval.take 2)
          serviceWorld).db.deal.approvalState = .pendingManager ∨
        (run (GovernanceOp.apply fakeOdooGateway) (serviceApproval.take 2)
          serviceWorld).db.deal.approvalState = .pendingFinance ∨
        (run (GovernanceOp.apply fakeOdooGateway) (serviceApproval.take 2)
          serviceWorld).db.deal.approvalState = .rejected) :=
  orderLock_run serviceWorld_fresh (by decide +kernel) (serviceApproval.take 2)
    (by simp [serviceApproval, GovernanceOp.LeavesOverlay]) (by decide +kernel)

/-! ## The mirrored state along a run -/

/-- An evaluated deal has its state on its order. -/
def Mirrored (orderId : ℤ) (w : World FakeOdoo) : Prop :=
  w.db.assessments ≠ [] →
    (w.odoo.orders.lookup orderId).map FakeOrder.dealflowApprovalState =
      some w.db.deal.approvalState.value

theorem mirrored_iff : Mirrored orderId w ↔ (w.db.assessments ≠ [] →
    (w.odoo.overlay orderId).map Overlay.approvalState = some w.db.deal.approvalState.value) := by
  unfold Mirrored FakeOdoo.overlay
  rw [Option.map_map]
  rfl

/-- A step leaves the state mirrored exactly when it is no hand-over. -/
theorem Mirrored.step_iff (mirrored : Mirrored orderId w) (overlaid : Overlaid orderId w)
    {op : GovernanceOp FakeOdoo} (outside : op.LeavesOverlay orderId) :
    Mirrored orderId (op.apply fakeOdooGateway w) ↔ ¬ HandsOver w op := by
  rw [mirrored_iff] at mirrored ⊢
  cases overlaid.telling outside with
  | silent state assessments overlay same =>
      refine iff_of_true ?_ same
      rw [assessments, overlay, state]
      exact mirrored
  | handsOver handed before state assessments overlay =>
      refine iff_of_false (fun after => ?_) (not_not.mpr handed)
      have evaluated := overlaid.evaluated before
      rw [assessments, overlay, state] at after
      rw [before] at mirrored
      have stale := (mirrored evaluated).symm.trans (after evaluated)
      revert stale
      decide
  | tells told state overlay same =>
      refine iff_of_true (fun _ => ?_) same
      rw [overlay, state]
      rfl

/-- The state is mirrored after every operation of a run exactly when none hands the deal over. -/
theorem mirroredState_run_iff {w : World FakeOdoo} (fresh : FreshDeal w.db)
    (ordered : (w.odoo.orders.lookup w.db.deal.odooSaleOrderId).isSome)
    (ops : List (GovernanceOp FakeOdoo))
    (outside : ∀ op ∈ ops, op.LeavesOverlay w.db.deal.odooSaleOrderId) :
    (∀ t ∈ history (GovernanceOp.apply fakeOdooGateway) ops w,
        Mirrored w.db.deal.odooSaleOrderId (t.2.apply fakeOdooGateway t.1)) ↔
      ∀ t ∈ history (GovernanceOp.apply fakeOdooGateway) ops w, ¬ HandsOver t.1 t.2 := by
  have start : Overlaid w.db.deal.odooSaleOrderId w ∧ Mirrored w.db.deal.odooSaleOrderId w :=
    ⟨fresh.overlaid ordered, fun assessed => absurd fresh.assessments assessed⟩
  refine @run_forall_iff _ _ (GovernanceOp.apply fakeOdooGateway)
    (fun now => Overlaid w.db.deal.odooSaleOrderId now ∧ Mirrored w.db.deal.odooSaleOrderId now)
    (fun _ op => op.LeavesOverlay w.db.deal.odooSaleOrderId)
    (fun now op => Mirrored w.db.deal.odooSaleOrderId (op.apply fakeOdooGateway now))
    (fun now op => ¬ HandsOver now op) w start ?_ ?_ ops (history_allowed _ outside w)
  · rintro now op allowed ⟨overlaid, mirrored⟩
    exact mirrored.step_iff overlaid allowed
  · rintro now op allowed ⟨overlaid, mirrored⟩ same
    exact ⟨overlaid.step allowed, (mirrored.step_iff overlaid allowed).mpr same⟩

/-- Evaluated and rejected, the service deal is mirrored throughout. -/
theorem serviceRejection_mirrored_iff :
    (∀ t ∈ history (GovernanceOp.apply fakeOdooGateway)
          [.evaluate { tables := goldTables, now := 1 }, .decide 3 salesManager .reject none 2]
          serviceWorld,
        Mirrored 101 (t.2.apply fakeOdooGateway t.1)) ↔
      ∀ t ∈ history (GovernanceOp.apply fakeOdooGateway)
          [.evaluate { tables := goldTables, now := 1 }, .decide 3 salesManager .reject none 2]
          serviceWorld,
        ¬ HandsOver t.1 t.2 :=
  mirroredState_run_iff serviceWorld_fresh (by decide +kernel) _
    (by simp [GovernanceOp.LeavesOverlay])

/-- Approved by its sales manager, the service deal waits for finance; its order still shows the
manager's stage. -/
theorem serviceApproval_not_mirrored :
    FreshDeal serviceWorld.db ∧
      (run (GovernanceOp.apply fakeOdooGateway) (serviceApproval.take 2)
        serviceWorld).db.deal.approvalState = .pendingFinance ∧
      ¬ Mirrored 101
        (run (GovernanceOp.apply fakeOdooGateway) (serviceApproval.take 2) serviceWorld) := by
  refine ⟨serviceWorld_fresh, by decide +kernel, fun mirrored => ?_⟩
  have shown := mirrored (by decide +kernel)
  revert shown
  decide +kernel

end Overlay

end DealFlow
