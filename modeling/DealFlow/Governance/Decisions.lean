import DealFlow.Governance.Footing
import DealFlow.Governance.Runs

/-!
# Decisions are final and accounted for

A request that left PENDING stays as it is (`DecisionsFinal`), and the approval actions say who
decided it (`Accounted`): one final action for an approved, rejected or returned request, by the
actor it names, who does not own the deal, and none for any other.

Requests are written by decisions and by the evaluations that supersede them, the actions only by
decisions; `Ledger.step` shows that every operation of a governance run keeps the two in
agreement, and `decisions_run` that they agree along every run.
-/

namespace DealFlow

open Lib

/-- The action that closes a request in a status. -/
def ApprovalRequestStatus.decision : ApprovalRequestStatus → Option ApprovalActionType
  | .approved => some .approve
  | .rejected => some .reject
  | .returned => some .return
  | .pending | .invalidated | .expired => none

/-- The action is one of those that close a request. -/
def ApprovalActionType.isFinal (action : ApprovalActionType) : Bool :=
  action ∈ [.approve, .reject, .return]

/-- The final actions among some on a request. -/
def finalActions (actions : List ApprovalAction) (requestId : ℕ) : List ApprovalAction :=
  actions.filter fun a => a.approvalRequestId = requestId ∧ a.action.isFinal = true

/-- A request and the final actions on it agree. -/
structure Accounted (ownerOdooUserId : ℤ) (decisions : List ApprovalAction)
    (r : ApprovalRequest) : Prop where
  completed : r.status ≠ .pending → r.completedAt.isSome = true
  decided : ∀ action, r.status.decision = some action →
    ∃ a, decisions = [a] ∧ a.action = action ∧ r.decidedByOdooUserId = some a.actorOdooUserId ∧
      a.actorOdooUserId ≠ ownerOdooUserId
  undecided : r.status.decision = none → decisions = []

/-- The requests that are closed in one state are the same in the other. -/
def DecisionsFinal (before after : DealStore) : Prop :=
  ∀ requestId r, before.findRequest requestId = some r → r.status ≠ .pending →
    after.findRequest requestId = some r

/-- The approval actions account for the requests of a chain. -/
structure Ledger (ownerOdooUserId : ℤ) (actions : List ApprovalAction) (a : Approvals) : Prop where
  chain : Chain a
  known : ∀ entry ∈ actions, entry.approvalRequestId < a.nextId
  accounted : ∀ r ∈ a.requests, Accounted ownerOdooUserId (finalActions actions r.id) r

/-! ## Rows and actions -/

theorem finalActions_concat (actions : List ApprovalAction) (entry : ApprovalAction)
    (requestId : ℕ) :
    finalActions (actions ++ [entry]) requestId =
      finalActions actions requestId ++ finalActions [entry] requestId :=
  List.filter_append ..

/-- An action on another request does not count. -/
theorem finalActions_other (actions : List ApprovalAction) {entry : ApprovalAction}
    {requestId : ℕ} (other : entry.approvalRequestId ≠ requestId) :
    finalActions (actions ++ [entry]) requestId = finalActions actions requestId := by
  have none : finalActions [entry] requestId = [] := by
    simp [finalActions, other]
  rw [finalActions_concat, none, List.append_nil]

/-- Nothing has been done about a request that is not there yet. -/
theorem finalActions_new {actions : List ApprovalAction} {requestId : ℕ}
    (known : ∀ a ∈ actions, a.approvalRequestId < requestId) :
    finalActions actions requestId = [] := by
  refine List.filter_eq_nil_iff.mpr fun a mem => ?_
  have older := known a mem
  simp only [decide_eq_true_eq, not_and]
  omega

/-- A request as a stage opens it is accounted for by no action. -/
theorem accounted_stageRequest (ownerOdooUserId : ℤ) (stage : ApprovalStage)
    (sequence requestId riskAssessmentId : ℕ) (now : Timestamp) :
    Accounted ownerOdooUserId [] (stageRequest stage sequence requestId riskAssessmentId now) :=
  ⟨fun closed => absurd rfl closed, fun action closes => (by cases closes), fun _ => rfl⟩

/-- Superseding a request needs no action. -/
theorem Accounted.supersede {ownerOdooUserId : ℤ} {decisions : List ApprovalAction}
    {r : ApprovalRequest} (accounted : Accounted ownerOdooUserId decisions r) (now : Timestamp) :
    Accounted ownerOdooUserId decisions (supersede now r) := by
  unfold DealFlow.supersede
  split
  · next waits =>
      have none : r.status.decision = none := by
        rw [waits]
        rfl
      refine ⟨fun _ => rfl, fun action closes => ?_, fun _ => accounted.undecided none⟩
      cases closes
  · exact accounted

/-- A decision on a pending request, with the action it records, leaves the request accounted
for. -/
theorem Accounted.decide {ownerOdooUserId : ℤ} {decisions : List ApprovalAction}
    {req : ApprovalRequest} (accounted : Accounted ownerOdooUserId decisions req)
    (waits : req.status = .pending) {actor : DealflowUser}
    (notOwner : ownerOdooUserId ≠ actor.odooUserId) {status : ApprovalRequestStatus}
    {action : ApprovalActionType} (closes : status.decision = some action)
    (reason : Option String) (now : Timestamp) :
    Accounted ownerOdooUserId (decisions ++ [decisionEntry req actor action reason now])
      (closeRequest status actor reason now req) := by
  have none : decisions = [] := accounted.undecided (by rw [waits]; rfl)
  refine ⟨fun _ => rfl, fun kind same => ?_, fun other => ?_⟩
  · obtain rfl : action = kind := Option.some.inj (closes.symm.trans same)
    exact ⟨decisionEntry req actor action reason now, by rw [none, List.nil_append], rfl, rfl,
      notOwner.symm⟩
  · cases other.symm.trans closes

/-! ## The operations of the chain -/

section Operations

variable {ownerOdooUserId : ℤ} {actions : List ApprovalAction} {a : Approvals}

/-- A request that a stage opens is accounted for: nothing has been done about it. -/
theorem accounted_opened {rows : List ApprovalRequest}
    (accounted : ∀ r ∈ rows, Accounted ownerOdooUserId (finalActions actions r.id) r)
    {requestId : ℕ} (known : ∀ entry ∈ actions, entry.approvalRequestId < requestId)
    (stage : ApprovalStage) (sequence riskAssessmentId : ℕ) (now : Timestamp) :
    ∀ r ∈ rows ++ [stageRequest stage sequence requestId riskAssessmentId now],
      Accounted ownerOdooUserId (finalActions actions r.id) r := by
  intro r mem
  rcases List.mem_append.mp mem with old | new
  · exact accounted r old
  · obtain rfl := List.mem_singleton.mp new
    change Accounted ownerOdooUserId (finalActions actions requestId) _
    rw [finalActions_new known]
    exact accounted_stageRequest ..

theorem Ledger.assess (ledger : Ledger ownerOdooUserId actions a) {s : RiskAssessment}
    (fresh : s.id = a.nextId) (now : Timestamp) :
    Ledger ownerOdooUserId actions (a.assess s now) := by
  have chain := ledger.chain.assess fresh now
  have superseded : ∀ r ∈ a.requests.map (supersede now),
      Accounted ownerOdooUserId (finalActions actions r.id) r := by
    intro r mem
    obtain ⟨old, memOld, rfl⟩ := List.mem_map.mp mem
    rw [supersede_id]
    exact (ledger.accounted old memOld).supersede now
  have known : ∀ n, a.nextId ≤ n → ∀ entry ∈ actions, entry.approvalRequestId < n :=
    fun n later entry mem => (ledger.known entry mem).trans_le later
  unfold Approvals.assess at chain ⊢
  split at chain
  · next kept =>
      rw [if_pos kept]
      exact ⟨chain, known _ (Nat.le_succ _), ledger.accounted⟩
  · next anew =>
      rw [if_neg anew]
      split at chain
      · next level =>
          rw [if_pos level]
          exact ⟨chain, known _ (Nat.le_succ _), superseded⟩
      · next level =>
          rw [if_neg level]
          exact ⟨chain, known _ (Nat.le_add_right _ 2),
            accounted_opened superseded (known _ (Nat.le_succ _)) .salesManager 1 s.id now⟩

/-- Rewriting the row of a request, with the action that says why, leaves every row accounted
for. -/
theorem Ledger.rewritten (ledger : Ledger ownerOdooUserId actions a) {req : ApprovalRequest}
    (mem : req ∈ a.requests) {f : ApprovalRequest → ApprovalRequest}
    (keepsId : ∀ r, (f r).id = r.id)
    {entry : ApprovalAction} (about : entry.approvalRequestId = req.id)
    (accounted : Accounted ownerOdooUserId (finalActions (actions ++ [entry]) req.id) (f req)) :
    ∀ r ∈ a.requests.map (onRequest req.id f),
      Accounted ownerOdooUserId (finalActions (actions ++ [entry]) r.id) r := by
  intro r memR
  obtain ⟨old, memOld, rfl⟩ := List.mem_map.mp memR
  unfold onRequest
  split
  · next same =>
      obtain rfl := List.inj_on_of_nodup_map ledger.chain.requestIds memOld mem same
      rw [keepsId]
      exact accounted
  · next other =>
      rw [finalActions_other actions (about.trans_ne (Ne.symm other))]
      exact ledger.accounted old memOld

/-- An action that does not close the request does not count. -/
theorem finalActions_remark (actions : List ApprovalAction) (requestId : ℕ)
    {entry : ApprovalAction} (remark : entry.action.isFinal = false) :
    finalActions (actions ++ [entry]) requestId = finalActions actions requestId := by
  have none : finalActions [entry] requestId = [] := by
    simp [finalActions, remark]
  rw [finalActions_concat, none, List.append_nil]

/-- A final action counts on its request. -/
theorem finalActions_entry (actions : List ApprovalAction) {entry : ApprovalAction}
    (final : entry.action.isFinal = true) :
    finalActions (actions ++ [entry]) entry.approvalRequestId =
      finalActions actions entry.approvalRequestId ++ [entry] := by
  have one : finalActions [entry] entry.approvalRequestId = [entry] := by
    simp [finalActions, final]
  rw [finalActions_concat, one]

theorem Ledger.decided (ledger : Ledger ownerOdooUserId actions a) {req : ApprovalRequest}
    (mem : req ∈ a.requests) (waits : req.status = .pending) {actor : DealflowUser}
    (notOwner : ownerOdooUserId ≠ actor.odooUserId) (action : ApprovalActionType)
    (reason : Option String) (now : Timestamp) :
    Ledger ownerOdooUserId (actions ++ [decisionEntry req actor action reason now])
      (decided a req actor action reason now) := by
  have chain := ledger.chain.decided mem waits actor action reason now
  have before := ledger.accounted req mem
  have known : ∀ n, a.nextId ≤ n →
      ∀ entry ∈ actions ++ [decisionEntry req actor action reason now],
        entry.approvalRequestId < n := by
    intro n later entry memEntry
    rcases List.mem_append.mp memEntry with old | new
    · exact (ledger.known entry old).trans_le later
    · rw [List.mem_singleton.mp new]
      exact (ledger.chain.requestIdsBelow req mem).trans_le later
  -- the row a final action closes
  have closed : ∀ status : ApprovalRequestStatus, status.decision = some action →
      ∀ r ∈ a.requests.map (onRequest req.id (closeRequest status actor reason now)),
        Accounted ownerOdooUserId
          (finalActions (actions ++ [decisionEntry req actor action reason now]) r.id) r := by
    intro status closes
    refine ledger.rewritten mem (closeRequest_id status actor reason now) rfl ?_
    have final : (decisionEntry req actor action reason now).action.isFinal = true := by
      change action.isFinal = true
      cases status <;> cases closes <;> rfl
    have counted := finalActions_entry actions final
    change Accounted _
      (finalActions _ (decisionEntry req actor action reason now).approvalRequestId)
      _
    rw [counted]
    exact before.decide waits notOwner closes reason now
  cases action with
  | approve =>
      have approved := closed .approved rfl
      unfold DealFlow.decided Approvals.approve at chain ⊢
      dsimp only at chain ⊢
      by_cases twoStage : a.requiredLevel = .managerAndFinance ∧ req.requiredLevel = .salesManager
      · rw [if_pos twoStage] at chain ⊢
        exact ⟨chain, known _ (Nat.le_succ _),
          accounted_opened approved (known _ le_rfl) .finance 2 req.riskAssessmentId now⟩
      · rw [if_neg twoStage] at chain ⊢
        exact ⟨chain, known _ le_rfl, approved⟩
  | reject => exact ⟨chain, known _ le_rfl, closed .rejected rfl⟩
  | «return» => exact ⟨chain, known _ le_rfl, closed .returned rfl⟩
  | escalate =>
      have keepsId : ∀ r : ApprovalRequest, { r with decisionReason := reason }.id = r.id :=
        fun _ => rfl
      refine ⟨chain, known _ le_rfl, ledger.rewritten mem keepsId rfl ?_⟩
      rw [finalActions_remark actions req.id rfl]
      exact ⟨before.completed, before.decided, before.undecided⟩
  | invalidate =>
      refine ⟨chain, known _ le_rfl, fun r memR => ?_⟩
      rw [finalActions_remark actions r.id rfl]
      exact ledger.accounted r memR

/-! ## Closed requests stay -/

/-- A new assessment leaves the closed requests alone. -/
theorem assess_closed (a : Approvals) (s : RiskAssessment) (now : Timestamp) {r : ApprovalRequest}
    (mem : r ∈ a.requests) (closed : r.status ≠ .pending) : r ∈ (a.assess s now).requests := by
  have superseded : r ∈ a.requests.map (supersede now) :=
    List.mem_map.mpr ⟨r, mem, if_neg closed⟩
  unfold Approvals.assess
  split
  · exact mem
  · split
    · exact superseded
    · exact List.mem_append_left _ superseded

/-- A decision rewrites the row of its pending request only. -/
theorem Chain.decided_closed (chain : Chain a) {req : ApprovalRequest} (memReq : req ∈ a.requests)
    (waits : req.status = .pending) (actor : DealflowUser) (action : ApprovalActionType)
    (reason : Option String) (now : Timestamp) {r : ApprovalRequest} (mem : r ∈ a.requests)
    (closed : r.status ≠ .pending) :
    r ∈ (DealFlow.decided a req actor action reason now).requests := by
  have other : r.id ≠ req.id := by
    intro same
    obtain rfl := List.inj_on_of_nodup_map chain.requestIds mem memReq same
    exact closed waits
  have kept : ∀ f, r ∈ a.requests.map (onRequest req.id f) := fun f =>
    List.mem_map.mpr ⟨r, mem, if_neg other⟩
  cases action with
  | approve =>
      unfold DealFlow.decided Approvals.approve
      dsimp only
      split
      · exact List.mem_append_left _ (kept _)
      · exact kept _
  | reject => exact kept _
  | «return» => exact kept _
  | escalate => exact kept _
  | invalidate => exact mem

end Operations

/-! ## One step -/

section Step

variable {σ : Type} {gateway : OdooGateway σ} {w : World σ}

variable (gateway w) in
/-- An operation leaves actions and requests alone, assesses and leaves the actions alone, or
decides a pending request and records the decision. -/
theorem governanceStep_records (op : GovernanceOp σ) :
    (op.apply gateway w).db.deal.ownerOdooUserId = w.db.deal.ownerOdooUserId ∧
      (((op.apply gateway w).db.actions = w.db.actions ∧
          ((op.apply gateway w).db.approvals = w.db.approvals ∨
            ∃ s now, s.id = w.db.approvals.nextId ∧
              (op.apply gateway w).db.approvals = w.db.approvals.assess s now)) ∨
        ∃ requestId actor action reason now req,
          guardDecision w.db requestId actor = .ok req ∧
            (op.apply gateway w).db.actions =
              w.db.actions ++ [decisionEntry req actor action reason now] ∧
            (op.apply gateway w).db.approvals =
              decided w.db.approvals req actor action reason now) := by
  cases op with
  | evaluate args =>
      have footing := evaluateDeal_footing gateway args w
      refine ⟨congrArg Footing.ownerOdooUserId footing,
        .inl ⟨congrArg Footing.actions footing, ?_⟩⟩
      rcases evaluateDeal_cases gateway args w with ⟨e, -, kept⟩ | ⟨ctx, response, -, -, assessed⟩
      · exact .inl (congrArg DealStore.approvals kept)
      · exact .inr ⟨_, args.now, rfl, assessed⟩
  | decide requestId actor action reason now =>
      rcases decideApprovalRequest_cases gateway requestId actor action reason now w with
        ⟨e, raised⟩ | ⟨req, guarded, -, outcome⟩
      · have kept := congrArg (fun r => r.2.db) raised
        refine ⟨?_, .inl ⟨?_, .inl ?_⟩⟩
        · exact congrArg (fun db => db.deal.ownerOdooUserId) kept
        · exact congrArg DealStore.actions kept
        · exact congrArg DealStore.approvals kept
      · have footing := decideApprovalRequest_footing gateway guarded action reason now
        refine ⟨(congrArg Footing.ownerOdooUserId footing).trans ?_,
          .inr ⟨requestId, actor, action, reason, now, req, guarded,
            (congrArg Footing.actions footing).trans ?_, outcome⟩⟩
        · split <;> rfl
        · split <;> rfl
  | onOdoo change => exact ⟨rfl, .inl ⟨rfl, .inl rfl⟩⟩

/-- The approval actions of a deal account for its requests. -/
def DealStore.Ledger (db : DealStore) : Prop :=
  DealFlow.Ledger db.deal.ownerOdooUserId db.actions db.approvals

theorem DealStore.Ledger.step (ledger : w.db.Ledger) (op : GovernanceOp σ) :
    (op.apply gateway w).db.Ledger := by
  obtain ⟨owner, outcome⟩ := governanceStep_records gateway w op
  unfold DealStore.Ledger at ledger ⊢
  rw [owner]
  rcases outcome with ⟨actions, unchanged | ⟨s, now, fresh, assessed⟩⟩ |
    ⟨requestId, actor, action, reason, now, req, guarded, actions, outcome⟩
  · rw [actions, unchanged]
    exact ledger
  · rw [actions, assessed]
    exact ledger.assess fresh now
  · rw [actions, outcome]
    obtain ⟨found, waits, notOwner, -⟩ := guardDecision_ok guarded
    exact ledger.decided (List.mem_of_find?_eq_some found) waits notOwner action reason now

/-- A closed request is not touched again. -/
theorem DealStore.Ledger.closed (ledger : w.db.Ledger) (op : GovernanceOp σ) {r : ApprovalRequest}
    (mem : r ∈ w.db.requests) (closed : r.status ≠ .pending) :
    r ∈ (op.apply gateway w).db.requests := by
  obtain ⟨-, outcome⟩ := governanceStep_records gateway w op
  change r ∈ (op.apply gateway w).db.approvals.requests
  rcases outcome with ⟨-, unchanged | ⟨s, now, -, assessed⟩⟩ |
    ⟨requestId, actor, action, reason, now, req, guarded, -, outcome⟩
  · rw [unchanged]
    exact mem
  · rw [assessed]
    exact assess_closed w.db.approvals s now mem closed
  · rw [outcome]
    obtain ⟨found, waits, -, -⟩ := guardDecision_ok guarded
    exact ledger.chain.decided_closed (List.mem_of_find?_eq_some found) waits actor action reason
      now mem closed

theorem FreshDeal.ledger {db : DealStore} (fresh : FreshDeal db) : db.Ledger := by
  refine ⟨fresh.chain, fun entry mem => ?_, fun r mem => ?_⟩
  · rw [fresh.actions] at mem
    cases mem
  · have none : db.approvals.requests = [] := fresh.requests
    rw [none] at mem
    cases mem

/-! ## Whole runs -/

/-- Ids being distinct, a row is found by its id exactly when it is there. -/
theorem Chain.findRequest_iff {db : DealStore} (chain : Chain db.approvals) (requestId : ℕ)
    (r : ApprovalRequest) :
    db.findRequest requestId = some r ↔ r ∈ db.requests ∧ r.id = requestId := by
  constructor
  · intro found
    have id := List.find?_some found
    exact ⟨List.mem_of_find?_eq_some found, of_decide_eq_true id⟩
  · rintro ⟨mem, rfl⟩
    unfold DealStore.findRequest
    cases found : db.requests.find? fun r' => r'.id = r.id with
    | none =>
        have missing := List.find?_eq_none.mp found r mem
        simp at missing
    | some r' =>
        have matched := List.find?_some found
        have same : r'.id = r.id := of_decide_eq_true matched
        rw [List.inj_on_of_nodup_map chain.requestIds (List.mem_of_find?_eq_some found) mem same]

/-- Along every governance run a closed request stays as it is, and every request is accounted for
by the final actions on it. -/
theorem decisions_run {w : World σ} (fresh : FreshDeal w.db) (ops later : List (GovernanceOp σ)) :
    DecisionsFinal (run (GovernanceOp.apply gateway) ops w).db
        (run (GovernanceOp.apply gateway) (ops ++ later) w).db ∧
      ∀ r ∈ (run (GovernanceOp.apply gateway) ops w).db.requests,
        Accounted (run (GovernanceOp.apply gateway) ops w).db.deal.ownerOdooUserId
          (finalActions (run (GovernanceOp.apply gateway) ops w).db.actions r.id) r := by
  obtain ⟨-, ledger⟩ := run_invariant (GovernanceOp.apply gateway) (fun now => now.db.Ledger)
    fresh.ledger (fun _ op ledger => ledger.step op) ops
  refine ⟨fun requestId r found closed => ?_, ledger.accounted⟩
  rw [run_append]
  obtain ⟨mem, id⟩ := (ledger.chain.findRequest_iff requestId r).mp found
  obtain ⟨-, after, stays⟩ := run_invariant (GovernanceOp.apply gateway)
    (fun now => now.db.Ledger ∧ r ∈ now.db.requests) ⟨ledger, mem⟩
    (fun _ op ⟨ledger, here⟩ => ⟨ledger.step op, ledger.closed op here closed⟩) later
  exact (after.chain.findRequest_iff requestId r).mpr ⟨stays, id⟩

/-- Both stages of the service deal are decided once, by the two who decided them. -/
theorem serviceApproval_decisions :
    FreshDeal serviceWorld.db ∧
      DecisionsFinal
        (run (GovernanceOp.apply fakeOdooGateway) (serviceApproval.take 2) serviceWorld).db
        (run (GovernanceOp.apply fakeOdooGateway)
          (serviceApproval.take 2 ++ serviceApproval.drop 2) serviceWorld).db :=
  ⟨serviceWorld_fresh,
    (decisions_run serviceWorld_fresh (serviceApproval.take 2) (serviceApproval.drop 2)).1⟩

end Step

end DealFlow
