import DealFlow.Governance.Coverage
import DealFlow.Governance.Frame
import DealFlow.Odoo.XmlRpc

/-!
# The lock on the addon order

Evaluations and decisions tell Odoo whether the order is locked and where its approval stands.  The
addon order should show what they told it last (`LockReached`).

No such call gets through: the addon has no `dealflow_set_governance`, and the `write` it falls back
to carries the application's name of the approval state, which the addon's selection does not
contain (`setGovernance_rejected`).  The callers swallow the error, so the order keeps the fields it
was created with, and the operations of a run leave it right exactly when every evaluation that
completes finds no approval required (`lockReached_run_iff`).
-/

namespace DealFlow

open Lib

section Lock

variable {ρ : Type} (live : LiveOdoo ρ)

/-- The production gateway with a record of its calls. -/
abbrev recordedXmlRpc : OdooGateway (AddonOdoo ρ × List (GatewayCall Unit)) :=
  recording (xmlRpcGateway live) fun _ => ()

/-- The calls an operation made. -/
def callsSince {σ V : Type} (before after : World (σ × List (GatewayCall V))) :
    List (GatewayCall V) :=
  after.odoo.2.drop before.odoo.2.length

/-- The addon order shows the lock the operation computed, and `approved` exactly when the deal is
approved. -/
structure LockReached (before after : World (AddonOdoo ρ × List (GatewayCall Unit))) : Prop where
  locked : ∀ orderId approvalState riskScore locked,
    .setGovernance orderId approvalState riskScore locked ∈ callsSince before after →
      after.odoo.1.order.dealflowLocked = locked
  approved : after.odoo.1.order.dealflowApprovalState = .approved ↔
    after.db.deal.approvalState = .approved

/-- The operation is no evaluation that completes and finds an approval required. -/
def EvaluatesClear (w : World (AddonOdoo ρ × List (GatewayCall Unit)))
    (op : GovernanceOp (AddonOdoo ρ × List (GatewayCall Unit))) : Prop :=
  ∀ args ctx, op = .evaluate args →
    (buildDealContext (recordedXmlRpc live) args.tables w.db.deal.odooSaleOrderId w.odoo).1 =
      .ok ctx →
    (assessRisk w.db args.tables ctx).requiredLevel = .none

/-- What happens to the order outside does not reach its governance fields, nor the record. -/
def LeavesGovernance (op : GovernanceOp (AddonOdoo ρ × List (GatewayCall Unit))) : Prop :=
  ∀ change, op = .onOdoo change → ∀ s, (change s).1.order = s.1.order ∧ (change s).2 = s.2

/-! ## What reaches the order -/

theorem approvalState_not_selected (state : ApprovalState) :
    (approvalStates.find? fun st => st.value = state.value) = none := by
  cases state <;> decide

theorem execute_missing {orderId : ℤ} {method : String} {args : RpcArgs} (s : AddonOdoo ρ)
    (missing : saleOrderMethod live orderId method args = none) :
    ∃ message, execute live orderId method args s =
      (.error (.capabilityMissing method message), s) := by
  unfold execute
  rw [missing]
  exact ⟨_, rfl⟩

theorem writeGovernance_rejected {vals : GovernanceVals} (s : AddonOdoo ρ)
    (notSelected : (approvalStates.find? fun st => st.value = vals.approvalState) = none) :
    (writeGovernance live vals s).2 = s := by
  unfold writeGovernance
  rw [notSelected]
  split
  · rfl
  · split <;> rfl

/-- Setting the governance of an order to an approval state of the application changes nothing. -/
theorem setGovernance_rejected (orderId : ℤ) (state : ApprovalState) (riskScore : ℚ)
    (locked : Bool) (s : AddonOdoo ρ) :
    ((xmlRpcGateway live).setGovernance orderId state.value riskScore locked s).2 = s := by
  have missing : saleOrderMethod live orderId "dealflow_set_governance"
      (.vals { approvalState := state.value, riskScore, locked }) = none := rfl
  obtain ⟨message, raised⟩ := execute_missing live s missing
  simp only [xmlRpcGateway, withFallback, raised]
  exact writeGovernance_rejected live s (approvalState_not_selected state)

theorem recorded_reads_keep_order :
    ReadsKeep (recordedXmlRpc live) fun s => (s.1.order, s.2) where
  getSaleOrder _ := fun _ => rfl
  getAvailability _ := fun _ => rfl

/-- What a completed evaluation leaves on the Odoo side. -/
theorem evaluateDeal_recorded {args : EvaluateArgs}
    {w : World (AddonOdoo ρ × List (GatewayCall Unit))} {ctx : DealContext}
    (read : (buildDealContext (recordedXmlRpc live) args.tables w.db.deal.odooSaleOrderId
      w.odoo).1 = .ok ctx) :
    (evaluateDeal (recordedXmlRpc live) args w).2.odoo.1.order = w.odoo.1.order ∧
      (evaluateDeal (recordedXmlRpc live) args w).2.odoo.2 = w.odoo.2 ++
        [.setGovernance (settleEvaluation w.db args ctx).deal.odooSaleOrderId
          (settleEvaluation w.db args ctx).deal.approvalState.value
          (assessRisk w.db args.tables ctx).riskScore
          (isLocked (assessRisk w.db args.tables ctx).requiredLevel
            (settleEvaluation w.db args ctx).deal.approvalState)] := by
  have kept := buildDealContext_keeps (recorded_reads_keep_order live) args.tables
    w.db.deal.odooSaleOrderId w.odoo
  cases built : buildDealContext (recordedXmlRpc live) args.tables w.db.deal.odooSaleOrderId
      w.odoo with
  | mk result odoo =>
      rw [built] at read kept
      obtain rfl : result = .ok ctx := read
      obtain ⟨order, record⟩ := Prod.mk.inj kept
      rw [evaluateDeal_odoo built]
      simp only [recording, recorded, setGovernance_rejected]
      exact ⟨order, by rw [record]⟩

/-! ## One step -/

/-- Nothing of the deal is pending or approved, and its order is neither locked nor approved. -/
structure Untouched (w : World (AddonOdoo ρ × List (GatewayCall Unit))) : Prop where
  decided : ∀ r ∈ w.db.requests, r.status ≠ .pending
  notApproved : w.db.deal.approvalState ≠ .approved
  unlocked : w.odoo.1.order.dealflowLocked = false
  unapproved : w.odoo.1.order.dealflowApprovalState ≠ .approved

/-- What leaves the governance fields of the order alone leaves the deal untouched. -/
theorem Untouched.outside {w : World (AddonOdoo ρ × List (GatewayCall Unit))}
    (untouched : Untouched w) {odoo : AddonOdoo ρ × List (GatewayCall Unit)}
    (order : odoo.1.order = w.odoo.1.order) : Untouched { w with odoo } :=
  { decided := untouched.decided
    notApproved := untouched.notApproved
    unlocked := order ▸ untouched.unlocked
    unapproved := order ▸ untouched.unapproved }

/-- An operation that makes no call leaves the order right. -/
theorem Untouched.lockReached {before after : World (AddonOdoo ρ × List (GatewayCall Unit))}
    (untouched : Untouched after) (quiet : after.odoo.2 = before.odoo.2) :
    LockReached before after := by
  refine ⟨fun orderId approvalState riskScore locked mem => ?_, ?_⟩
  · simp [callsSince, quiet] at mem
  · exact iff_of_false untouched.unapproved untouched.notApproved

theorem Untouched.decide {w : World (AddonOdoo ρ × List (GatewayCall Unit))}
    (untouched : Untouched w) (requestId : ℕ) (actor : DealflowUser) (action : ApprovalActionType)
    (reason : Option String) (now : Timestamp) :
    (decideApprovalRequest (recordedXmlRpc live) requestId actor action reason now w).2 = w := by
  have refused : ∃ e, guardDecision w.db requestId actor = .error e := by
    unfold guardDecision
    cases found : w.db.findRequest requestId with
    | none => exact ⟨_, rfl⟩
    | some req =>
        have notPending := untouched.decided req (List.mem_of_find?_eq_some found)
        exact ⟨_, if_pos notPending⟩
  rcases refused with ⟨e, refused⟩
  rw [decideApprovalRequest_refused _ refused]

/-- The lock an evaluation computes for a deal it leaves unapproved. -/
theorem isLocked_of_not_approved {state : ApprovalState} (notApproved : state ≠ .approved)
    (level : ApprovalLevel) : isLocked level state = false ↔ level = .none := by
  unfold isLocked
  rw [if_neg notApproved]
  split
  · next clear => exact iff_of_true rfl clear
  · next required => exact iff_of_false nofun required

/-- What an evaluation on an untouched deal comes to. -/
theorem Untouched.evaluate {w : World (AddonOdoo ρ × List (GatewayCall Unit))}
    (untouched : Untouched w) {args : EvaluateArgs} {ctx : DealContext}
    (read : (buildDealContext (recordedXmlRpc live) args.tables w.db.deal.odooSaleOrderId
      w.odoo).1 = .ok ctx) :
    (LockReached w (evaluateDeal (recordedXmlRpc live) args w).2 ↔
        (assessRisk w.db args.tables ctx).requiredLevel = .none) ∧
      ((assessRisk w.db args.tables ctx).requiredLevel = .none →
        Untouched (evaluateDeal (recordedXmlRpc live) args w).2) := by
  obtain ⟨order, record⟩ := evaluateDeal_recorded live read
  have approvals := evaluateDeal_approvals (Prod.ext read rfl)
  set after := (evaluateDeal (recordedXmlRpc live) args w).2
  set settled := settleEvaluation w.db args ctx
  have assessed : settled.approvals = _ := settleEvaluation_approvals w.db args ctx
  have state : after.db.deal.approvalState = settled.deal.approvalState :=
    congrArg Approvals.approvalState approvals
  have notApproved : settled.deal.approvalState ≠ .approved := by
    have settledState : settled.deal.approvalState = _ :=
      congrArg Approvals.approvalState assessed
    rw [settledState, Ne, assess_approved_iff]
    exact fun kept => untouched.notApproved kept.2
  have unapproved : after.odoo.1.order.dealflowApprovalState ≠ .approved := by
    rw [order]
    exact untouched.unapproved
  have unlocked : after.odoo.1.order.dealflowLocked = false := by
    rw [order]
    exact untouched.unlocked
  have calls : callsSince w after = _ :=
    (congrArg (List.drop w.odoo.2.length) record).trans List.drop_left
  refine ⟨⟨fun reached => ?_, fun clear => ⟨?_, ?_⟩⟩, fun clear => ⟨?_, ?_, unlocked, unapproved⟩⟩
  · have computed := reached.locked _ _ _ _ (calls ▸ List.mem_singleton_self _)
    rw [unlocked] at computed
    exact (isLocked_of_not_approved notApproved _).mp computed.symm
  · intro orderId approvalState riskScore locked mem
    rw [calls] at mem
    cases List.mem_singleton.mp mem
    rw [unlocked]
    exact ((isLocked_of_not_approved notApproved _).mpr clear).symm
  · rw [state]
    exact iff_of_false unapproved notApproved
  · have requests : after.db.requests = (w.db.approvals.assess _ args.now).requests :=
      congrArg Approvals.requests (approvals.trans assessed)
    have level :
        (newAssessment w.db.nextId ctx (assessRisk w.db args.tables ctx) args).requiredLevel =
          .none := clear
    rw [requests, Approvals.assess, if_neg fun kept => untouched.notApproved kept.2, if_pos level]
    intro r mem
    obtain ⟨old, -, rfl⟩ := List.mem_map.mp mem
    exact supersede_status args.now old
  · rw [state]
    exact notApproved

/-! ## Whole runs -/

/-- An evaluation that reads the order evaluates clear when the risk it finds needs no approval. -/
theorem evaluatesClear_iff {w : World (AddonOdoo ρ × List (GatewayCall Unit))}
    {args : EvaluateArgs} {ctx : DealContext}
    (read : (buildDealContext (recordedXmlRpc live) args.tables w.db.deal.odooSaleOrderId
      w.odoo).1 = .ok ctx) :
    EvaluatesClear live w (.evaluate args) ↔
      (assessRisk w.db args.tables ctx).requiredLevel = .none := by
  refine ⟨fun clear => clear args ctx rfl read, fun clear args' ctx' same read' => ?_⟩
  cases same
  obtain rfl : ctx = ctx' := Except.ok.inj (read.symm.trans read')
  exact clear

/-- Under an untouched deal an operation leaves the addon order right exactly when it evaluates
clear. -/
theorem Untouched.lockReached_iff {w : World (AddonOdoo ρ × List (GatewayCall Unit))}
    (untouched : Untouched w) {op : GovernanceOp (AddonOdoo ρ × List (GatewayCall Unit))}
    (outside : LeavesGovernance op) :
    (LockReached w (op.apply (recordedXmlRpc live) w) ↔ EvaluatesClear live w op) ∧
      (EvaluatesClear live w op → Untouched (op.apply (recordedXmlRpc live) w)) := by
  cases op with
  | evaluate args =>
      cases built : buildDealContext (recordedXmlRpc live) args.tables w.db.deal.odooSaleOrderId
          w.odoo with
      | mk result odoo =>
          cases result with
          | error e =>
              have kept := buildDealContext_keeps (recorded_reads_keep_order live) args.tables
                w.db.deal.odooSaleOrderId w.odoo
              rw [built] at kept
              obtain ⟨order, record⟩ := Prod.mk.inj kept
              have after := untouched.outside order
              have clear : EvaluatesClear live w (.evaluate args) := by
                intro args' ctx same read
                cases same
                rw [built] at read
                cases read
              simp only [GovernanceOp.apply, evaluateDeal_raises built]
              exact ⟨iff_of_true (after.lockReached record) clear, fun _ => after⟩
          | ok ctx =>
              have read : (buildDealContext (recordedXmlRpc live) args.tables
                  w.db.deal.odooSaleOrderId w.odoo).1 = .ok ctx := congrArg Prod.fst built
              obtain ⟨reached, kept⟩ := untouched.evaluate live read
              have clear := evaluatesClear_iff live read
              exact ⟨reached.trans clear.symm, fun h => kept (clear.mp h)⟩
  | decide requestId actor action reason now =>
      simp only [GovernanceOp.apply, untouched.decide live]
      exact ⟨iff_of_true (untouched.lockReached rfl) (fun _ _ same => by cases same),
        fun _ => untouched⟩
  | onOdoo change =>
      obtain ⟨order, record⟩ := outside change rfl w.odoo
      have after := untouched.outside order
      exact ⟨iff_of_true (after.lockReached record) (fun _ _ same => by cases same),
        fun _ => after⟩

/-- From an untouched deal, every operation of a run leaves the order right exactly when every
evaluation that completes finds no approval required. -/
theorem lockReached_run_iff {w : World (AddonOdoo ρ × List (GatewayCall Unit))}
    (start : Untouched w)
    (ops : List (GovernanceOp (AddonOdoo ρ × List (GatewayCall Unit))))
    (outside : ∀ op ∈ ops, LeavesGovernance op) :
    (∀ t ∈ history (GovernanceOp.apply (recordedXmlRpc live)) ops w,
        LockReached t.1 (t.2.apply (recordedXmlRpc live) t.1)) ↔
      ∀ t ∈ history (GovernanceOp.apply (recordedXmlRpc live)) ops w,
        EvaluatesClear live t.1 t.2 :=
  run_forall_iff _ start
    (fun _ _ allowed untouched => (untouched.lockReached_iff live allowed).1)
    (fun _ _ allowed untouched => (untouched.lockReached_iff live allowed).2) ops
    (history_allowed _ outside w)

/-- A fresh deal on a new addon order is untouched. -/
theorem FreshDeal.untouched {w : World (AddonOdoo ρ × List (GatewayCall Unit))}
    (fresh : FreshDeal w.db) (new : w.odoo.1.order = {}) : Untouched w := by
  refine ⟨?_, ?_, ?_, ?_⟩
  · rw [fresh.requests]
    intro r mem
    cases mem
  · rw [fresh.approvalState]
    decide
  · rw [new]
  · rw [new]
    decide

end Lock

/-- A live Odoo with the service order, whose 25 % are above the addon's limit for a rep. -/
def serviceLive : LiveOdoo FakeOdoo where
  base := fakeOdooGateway
  portalUser _ := false
  repOverThreshold _ := false
  discountBreach _ := true
  approvedDiscount _ _ := 0

/-- The fresh service deal on a new addon order. -/
def addonWorld : World (AddonOdoo FakeOdoo × List (GatewayCall Unit)) :=
  { db := serviceWorld.db, odoo := ({ order := {}, rest := serviceOdoo }, []) }

/-- The evaluation and both approvals of the service deal. -/
def addonApproval : List (GovernanceOp (AddonOdoo FakeOdoo × List (GatewayCall Unit))) :=
  [.evaluate { tables := goldTables, now := 1 },
    .decide 3 salesManager .approve none 2,
    .decide 4 financeOfficer .approve none 3]

theorem addonWorld_untouched : Untouched addonWorld :=
  FreshDeal.untouched serviceWorld_fresh rfl

theorem addonApproval_outside : ∀ op ∈ addonApproval, LeavesGovernance op := by
  intro op mem change same
  simp [addonApproval, same] at mem

theorem addonApproval_lockReached_iff :
    (∀ t ∈ history (GovernanceOp.apply (recordedXmlRpc serviceLive)) addonApproval addonWorld,
        LockReached t.1 (t.2.apply (recordedXmlRpc serviceLive) t.1)) ↔
      ∀ t ∈ history (GovernanceOp.apply (recordedXmlRpc serviceLive)) addonApproval addonWorld,
        EvaluatesClear serviceLive t.1 t.2 :=
  lockReached_run_iff serviceLive addonWorld_untouched addonApproval addonApproval_outside

/-- The first evaluation computes a lock that never reaches the order, and once the deal is approved
the order is still a draft. -/
theorem addonOrder_keeps_defaults :
    FreshDeal addonWorld.db ∧ addonWorld.odoo.1.order = {} ∧
      ¬ LockReached addonWorld
        ((GovernanceOp.evaluate { tables := goldTables, now := 1 }).apply
          (recordedXmlRpc serviceLive) addonWorld) ∧
      (run (GovernanceOp.apply (recordedXmlRpc serviceLive)) addonApproval
        addonWorld).db.deal.approvalState = .approved ∧
      (run (GovernanceOp.apply (recordedXmlRpc serviceLive)) addonApproval
        addonWorld).odoo.1.order.dealflowApprovalState = .draft := by
  refine ⟨serviceWorld_fresh, rfl, fun reached => ?_, by decide +kernel, by decide +kernel⟩
  have shown := reached.locked 101 "PENDING_MANAGER" 85 true (by decide +kernel)
  revert shown
  decide +kernel

end DealFlow
