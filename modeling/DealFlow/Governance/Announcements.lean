import DealFlow.Governance.Runs
import DealFlow.Governance.Footing

/-!
# The notice of an approval

The owner of a deal is told of its decisions.  A rejection, a return and an escalation are announced
each time.  The notice of an approval carries a key that names the deal and nothing else, and a key
that is in use already suppresses the notice.  So an approval is announced exactly where the deal
has no such notice yet (`approval_announced_iff`), and along a run from a new deal that is where no
decision before it has approved the deal (`approvals_announced_iff`).
-/

namespace DealFlow

open Lib

/-- What says whether a notice is sent, and to whom. -/
structure Mailbox where
  dealId : ℕ
  ownerOdooUserId : ℤ
  notifications : List Notification

def DealStore.mailbox (db : DealStore) : Mailbox :=
  { dealId := db.deal.id
    ownerOdooUserId := db.deal.ownerOdooUserId
    notifications := db.notifications }

/-- The key of the approval notice of a deal. -/
def approvedKey (dealId : ℕ) : String :=
  s!"app_approved_{dealId}"

/-- The approval notice of the deal is there. -/
def Mailbox.hasNotice (m : Mailbox) : Bool :=
  m.notifications.any fun n => n.dedupeKey = some (approvedKey m.dealId)

/-- The store has the notice of an approval of its deal. -/
def DealStore.hasNotice (db : DealStore) : Bool :=
  db.mailbox.hasNotice

/-- A mailbox with one notification more. -/
def Mailbox.post (m : Mailbox) (n : Notification) : Mailbox :=
  { m with notifications := m.notifications ++ [n] }

theorem Mailbox.hasNotice_post (m : Mailbox) (n : Notification) :
    (m.post n).hasNotice = true ↔
      m.hasNotice = true ∨ n.dedupeKey = some (approvedKey m.dealId) := by
  unfold hasNotice post
  rw [List.any_append, Bool.or_eq_true]
  simp

theorem createNotification_mailbox (db : DealStore) (n : Notification) :
    (db.createNotification n).mailbox =
      if n.dedupeKey.isSome ∧ (db.notifications.any fun old => old.dedupeKey = n.dedupeKey) = true
      then db.mailbox
      else db.mailbox.post n := by
  unfold DealStore.createNotification
  split <;> rfl

/-- A notification without a key is always sent. -/
theorem createNotification_mailbox_unkeyed (db : DealStore) {n : Notification}
    (unkeyed : n.dedupeKey = none) : (db.createNotification n).mailbox = db.mailbox.post n := by
  rw [createNotification_mailbox, unkeyed, if_neg]
  exact fun keyed => absurd keyed.1 Bool.false_ne_true

/-! ## What an operation does to the mailbox -/

theorem evaluateDeal_mailbox {σ : Type} (gateway : OdooGateway σ) (args : EvaluateArgs)
    (w : World σ) : (evaluateDeal gateway args w).2.db.mailbox = w.db.mailbox := by
  have kept := congrArg DealStore.mailbox (evaluateDeal_unassessed gateway args w)
  exact kept

section Decision

variable {σ : Type} (gateway : OdooGateway σ)

theorem autoConfirm_mailbox (now : Timestamp) (w : World σ) :
    (autoConfirm gateway now w).db.mailbox = w.db.mailbox := by
  unfold autoConfirm
  split
  · split <;> rfl
  · rfl

/-- The notice of the last approval. -/
def approvalNotice (deal : Deal) (now : Timestamp) : Notification :=
  ownerNotification deal "APPROVAL_APPROVED" s!"Deal {deal.reference} Approved"
    s!"Deal {deal.reference} ({deal.odooOrderName}) has received final governance approval."
    (some (approvedKey deal.id)) now

/-- The last approval sends its notice where there is none yet. -/
theorem finalApproval_mailbox (req : ApprovalRequest) (now : Timestamp) {w : World σ} {m : Mailbox}
    (start : w.db.mailbox = m) :
    ∃ n : Notification, n.type = "APPROVAL_APPROVED" ∧
      n.recipientOdooUserId = m.ownerOdooUserId ∧ n.dedupeKey = some (approvedKey m.dealId) ∧
      (finalApproval gateway req now w).db.mailbox =
        if m.hasNotice = true then m else m.post n := by
  unfold finalApproval
  dsimp only
  generalize told : (gateway.setGovernance _ _ _ _ _).2 = odoo
  have same := autoConfirm_mailbox gateway now { db := grantApproval req now w.db, odoo }
  generalize autoConfirm gateway now { db := grantApproval req now w.db, odoo } = confirmed
    at same ⊢
  obtain rfl : confirmed.db.mailbox = m := same.trans start
  refine ⟨approvalNotice confirmed.db.deal now, rfl, rfl, rfl, ?_⟩
  refine (createNotification_mailbox _ _).trans (if_congr ?_ rfl rfl)
  exact and_iff_right rfl

/-- The decision is an approval, and no other stage has to follow. -/
def LastApproval (db : DealStore) (req : ApprovalRequest) (action : ApprovalActionType) : Prop :=
  action = .approve ∧
    ¬ (db.deal.requiredLevel = .managerAndFinance ∧ req.requiredLevel = .salesManager)

/-- A decision that is not the last approval sends what it sends without a key, and the last
approval sends its notice where there is none yet. -/
theorem decideApprovalRequest_mailbox {w : World σ} {requestId : ℕ} {actor : DealflowUser}
    {req : ApprovalRequest} (guarded : guardDecision w.db requestId actor = .ok req)
    (action : ApprovalActionType) (reason : Option String) (now : Timestamp) :
    (LastApproval w.db req action ∧ ∃ n : Notification, n.type = "APPROVAL_APPROVED" ∧
        n.recipientOdooUserId = w.db.deal.ownerOdooUserId ∧
        n.dedupeKey = some (approvedKey w.db.deal.id) ∧
        (decideApprovalRequest gateway requestId actor action reason now w).2.db.mailbox =
          if w.db.hasNotice = true then w.db.mailbox else w.db.mailbox.post n) ∨
      ¬ LastApproval w.db req action ∧
        ((decideApprovalRequest gateway requestId actor action reason now w).2.db.mailbox =
            w.db.mailbox ∨
          ∃ n : Notification, n.dedupeKey = none ∧
            (decideApprovalRequest gateway requestId actor action reason now w).2.db.mailbox =
              w.db.mailbox.post n) := by
  have other : action ≠ .approve → ¬ LastApproval w.db req action := fun ne last => ne last.1
  unfold decideApprovalRequest
  rw [guarded]
  cases action with
  | approve =>
      dsimp only
      unfold approveRequest
      dsimp only
      split
      · next twoStage => exact .inr ⟨fun last => last.2 twoStage, .inl rfl⟩
      · next lastStage =>
          refine .inl ⟨⟨rfl, lastStage⟩, ?_⟩
          exact finalApproval_mailbox gateway req now (m := w.db.mailbox) rfl
  | reject =>
      refine .inr ⟨other (by decide), .inr ⟨_, ?_, createNotification_mailbox_unkeyed _ ?_⟩⟩ <;> rfl
  | «return» =>
      refine .inr ⟨other (by decide), .inr ⟨_, ?_, createNotification_mailbox_unkeyed _ ?_⟩⟩ <;> rfl
  | escalate =>
      refine .inr ⟨other (by decide), .inr ⟨_, ?_, createNotification_mailbox_unkeyed _ ?_⟩⟩ <;> rfl
  | invalidate => exact .inr ⟨other (by decide), .inl rfl⟩

/-- The state a decision leaves, by what it decides. -/
theorem decideApprovalRequest_state {w : World σ} {requestId : ℕ} {actor : DealflowUser}
    {req : ApprovalRequest} (guarded : guardDecision w.db requestId actor = .ok req)
    (action : ApprovalActionType) (reason : Option String) (now : Timestamp)
    (waits : w.db.deal.approvalState ≠ .approved) :
    (decideApprovalRequest gateway requestId actor action reason now w).2.db.deal.approvalState =
        .approved ↔ LastApproval w.db req action := by
  rcases decideApprovalRequest_cases gateway requestId actor action reason now w with
    ⟨e, raised⟩ | ⟨req', guarded', -, outcome⟩
  · unfold decideApprovalRequest at raised
    rw [guarded] at raised
    cases action <;> cases congrArg Prod.fst raised
  · cases guarded.symm.trans guarded'
    have state := congrArg Approvals.approvalState outcome
    change (decideApprovalRequest gateway requestId actor action reason now
      w).2.db.deal.approvalState = _ at state
    rw [state]
    unfold LastApproval decided
    cases action with
    | approve =>
        unfold Approvals.approve
        dsimp only
        split
        · next twoStage => exact iff_of_false nofun fun last => last.2 twoStage
        · next lastStage => exact iff_of_true rfl ⟨rfl, lastStage⟩
    | reject => exact iff_of_false nofun fun last => nomatch last.1
    | «return» => exact iff_of_false nofun fun last => nomatch last.1
    | escalate => exact iff_of_false waits fun last => nomatch last.1
    | invalidate => exact iff_of_false waits fun last => nomatch last.1

end Decision

/-! ## Approvals and their notices -/

section Step

variable {σ : Type} (gateway : OdooGateway σ)

/-- The step is a decision, and it moves the deal into `APPROVED`. -/
def MovesIntoApproved (t : World σ × GovernanceOp σ) : Prop :=
  (∃ requestId actor action reason now, t.2 = .decide requestId actor action reason now) ∧
    t.1.db.deal.approvalState ≠ .approved ∧
    (t.2.apply gateway t.1).db.deal.approvalState = .approved

/-- The step sends the owner of the deal a new notice that it is approved. -/
def Announced (t : World σ × GovernanceOp σ) : Prop :=
  ∃ n : Notification, n.type = "APPROVAL_APPROVED" ∧
    n.recipientOdooUserId = t.1.db.deal.ownerOdooUserId ∧
    (t.2.apply gateway t.1).db.notifications = t.1.db.notifications ++ [n]

variable {gateway}

/-- A decision that moves the deal into `APPROVED` passes its guards, and is the last approval. -/
theorem MovesIntoApproved.last {w : World σ} {op : GovernanceOp σ}
    (moves : MovesIntoApproved gateway (w, op)) :
    ∃ requestId actor action reason now req, op = .decide requestId actor action reason now ∧
      guardDecision w.db requestId actor = .ok req ∧ LastApproval w.db req action := by
  rcases moves with ⟨⟨requestId, actor, action, reason, now, rfl⟩, waits, approved⟩
  cases guarded : guardDecision w.db requestId actor with
  | error e =>
      change (decideApprovalRequest gateway requestId actor action reason now
        w).2.db.deal.approvalState = _ at approved
      rw [decideApprovalRequest_refused gateway guarded] at approved
      exact absurd approved waits
  | ok req =>
      have last := (decideApprovalRequest_state gateway guarded action reason now waits).mp approved
      exact ⟨requestId, actor, action, reason, now, req, rfl, guarded, last⟩

/-- An approval is announced exactly where the deal has no approval notice yet. -/
theorem approval_announced_iff {t : World σ × GovernanceOp σ}
    (moves : MovesIntoApproved gateway t) :
    Announced gateway t ↔ ¬ t.1.db.hasNotice = true := by
  obtain ⟨w, op⟩ := t
  obtain ⟨requestId, actor, action, reason, now, req, rfl, guarded, last⟩ := moves.last
  rcases decideApprovalRequest_mailbox gateway guarded action reason now with
    ⟨-, n, type, recipient, -, mailbox⟩ | ⟨other, -⟩
  · have notifications := congrArg Mailbox.notifications mailbox
    change ((GovernanceOp.decide requestId actor action reason now).apply gateway
      w).db.notifications = _ at notifications
    unfold Announced
    rw [notifications]
    by_cases noticed : w.db.hasNotice = true
    · rw [if_pos noticed]
      refine iff_of_false ?_ (not_not.mpr noticed)
      rintro ⟨n, -, -, same⟩
      have length := congrArg List.length same
      rw [List.length_append, List.length_singleton] at length
      change w.db.notifications.length = w.db.notifications.length + 1 at length
      omega
    · rw [if_neg noticed]
      exact iff_of_true ⟨n, type, recipient, rfl⟩ noticed
  · exact absurd last other

/-- A decision whose guards pass moves the deal into `APPROVED` where it is the last approval. -/
theorem movesIntoApproved_decide_iff {w : World σ} (chain : Chain w.db.approvals) {requestId : ℕ}
    {actor : DealflowUser} {req : ApprovalRequest}
    (guarded : guardDecision w.db requestId actor = .ok req) (action : ApprovalActionType)
    (reason : Option String) (now : Timestamp) :
    MovesIntoApproved gateway (w, .decide requestId actor action reason now) ↔
      LastApproval w.db req action := by
  obtain ⟨found, pending, -, -⟩ := guardDecision_ok guarded
  have waits : w.db.deal.approvalState ≠ .approved := by
    obtain ⟨-, state, -⟩ := chain.awaits (List.mem_of_find?_eq_some found) pending
    intro approved
    exact approved_ne_pendingState _ (approved.symm.trans state)
  rw [← decideApprovalRequest_state gateway guarded action reason now waits]
  exact ⟨fun moves => moves.2.2, fun approved => ⟨⟨_, _, _, _, _, rfl⟩, waits, approved⟩⟩

/-- A refused decision leaves the deal and its notices. -/
theorem hasNotice_refused {w : World σ} {requestId : ℕ} {actor : DealflowUser}
    {e : DealFlowException} (guarded : guardDecision w.db requestId actor = .error e)
    (action : ApprovalActionType) (reason : Option String) (now : Timestamp) :
    (decideApprovalRequest gateway requestId actor action reason now w).2.db.hasNotice = true ↔
      w.db.hasNotice = true ∨
        MovesIntoApproved gateway (w, .decide requestId actor action reason now) := by
  have refused := decideApprovalRequest_refused gateway guarded action reason now
  rw [refused]
  refine (or_iff_left ?_).symm
  rintro ⟨-, waits, approved⟩
  change (decideApprovalRequest gateway requestId actor action reason now
    w).2.db.deal.approvalState = _ at approved
  rw [refused] at approved
  exact waits approved

/-- A deal gets its approval notice when a decision approves it, and keeps it. -/
theorem hasNotice_step {w : World σ} (chain : Chain w.db.approvals) (op : GovernanceOp σ) :
    (op.apply gateway w).db.hasNotice = true ↔
      w.db.hasNotice = true ∨ MovesIntoApproved gateway (w, op) := by
  cases op with
  | evaluate args =>
      have same : (evaluateDeal gateway args w).2.db.hasNotice = w.db.hasNotice :=
        congrArg Mailbox.hasNotice (evaluateDeal_mailbox gateway args w)
      change (evaluateDeal gateway args w).2.db.hasNotice = true ↔ _
      rw [same]
      exact (or_iff_left (by rintro ⟨⟨_, _, _, _, _, eq⟩, -⟩; cases eq)).symm
  | onOdoo change =>
      exact (or_iff_left (by rintro ⟨⟨_, _, _, _, _, eq⟩, -⟩; cases eq)).symm
  | decide requestId actor action reason now =>
      change (decideApprovalRequest gateway requestId actor action reason now
        w).2.db.hasNotice = true ↔ _
      cases guarded : guardDecision w.db requestId actor with
      | error e => exact hasNotice_refused guarded action reason now
      | ok req =>
          rw [movesIntoApproved_decide_iff chain guarded]
          unfold DealStore.hasNotice
          rcases decideApprovalRequest_mailbox gateway guarded action reason now with
            ⟨last, n, -, -, key, mailbox⟩ | ⟨other, same | ⟨n, unkeyed, mailbox⟩⟩
          · refine iff_of_true ?_ (.inr last)
            rw [mailbox]
            split
            · next noticed => exact noticed
            · exact (Mailbox.hasNotice_post _ n).mpr (.inr key)
          · rw [same]
            exact (or_iff_left other).symm
          · rw [mailbox, Mailbox.hasNotice_post, unkeyed]
            exact or_congr_right (iff_of_false nofun other)

end Step

/-! ## Along a run -/

section Runs

variable {σ : Type} (gateway : OdooGateway σ)

/-- In a run from a new deal, every approval is announced exactly where each finds no approval
notice of the deal, which is where no decision before it had approved the deal. -/
theorem approvals_announced_iff {w : World σ} (fresh : FreshDeal w.db)
    (unnoticed : w.db.hasNotice = false) (ops : List (GovernanceOp σ)) :
    ((∀ t ∈ history (GovernanceOp.apply gateway) ops w,
        MovesIntoApproved gateway t → Announced gateway t) ↔
      ∀ t ∈ history (GovernanceOp.apply gateway) ops w,
        MovesIntoApproved gateway t → ¬ t.1.db.hasNotice = true) ∧
    ((∀ t ∈ history (GovernanceOp.apply gateway) ops w,
        MovesIntoApproved gateway t → Announced gateway t) ↔
      ∀ past t later, history (GovernanceOp.apply gateway) ops w = past ++ t :: later →
        MovesIntoApproved gateway t → ∀ earlier ∈ past, ¬ MovesIntoApproved gateway earlier) := by
  constructor
  · exact forall₂_congr fun t _ => forall_congr' approval_announced_iff
  · have start : Chain w.db.approvals ∧ (w.db.hasNotice = true ↔
        ∃ earlier ∈ ([] : List (World σ × GovernanceOp σ)),
          MovesIntoApproved gateway earlier) := by
      rw [unnoticed]
      exact ⟨fresh.chain, by simp⟩
    have first : ∀ (past : List (World σ × GovernanceOp σ)) (now : World σ) (op : GovernanceOp σ),
        (Chain now.db.approvals ∧
          (now.db.hasNotice = true ↔ ∃ earlier ∈ past, MovesIntoApproved gateway earlier)) →
        ((MovesIntoApproved gateway (now, op) → Announced gateway (now, op)) ↔
          (MovesIntoApproved gateway (now, op) →
            ∀ earlier ∈ past, ¬ MovesIntoApproved gateway earlier)) := by
      rintro past now op ⟨-, noticed⟩
      refine imp_congr_right fun moves => ?_
      rw [approval_announced_iff moves, noticed]
      simp
    refine run_steps_iff (motive := fun past (now : World σ) => Chain now.db.approvals ∧
      (now.db.hasNotice = true ↔ ∃ earlier ∈ past, MovesIntoApproved gateway earlier))
      start ?_ first ops
    rintro past now op ⟨chain, noticed⟩
    refine ⟨chain.step op, ?_⟩
    rw [hasNotice_step chain op, noticed]
    simp [or_and_right, exists_or]

end Runs

/-- Approved once, the owner is told. -/
theorem serviceApproval_announced :
    FreshDeal serviceWorld.db ∧
      ∀ t ∈ history (GovernanceOp.apply fakeOdooGateway) serviceApproval serviceWorld,
        MovesIntoApproved fakeOdooGateway t → Announced fakeOdooGateway t := by
  refine ⟨serviceWorld_fresh, ?_⟩
  refine (approvals_announced_iff fakeOdooGateway serviceWorld_fresh rfl serviceApproval).1.mpr ?_
  have unnoticed : ∀ t ∈ history (GovernanceOp.apply fakeOdooGateway) serviceApproval serviceWorld,
      t.1.db.hasNotice = false := by decide +kernel
  intro t mem _ noticed
  rw [unnoticed t mem] at noticed
  cases noticed

/-- The tier with a ceiling of 24 %, before it is 15 %. -/
def lenientTables : PolicyTables :=
  { customerTiers := [{ code := "GOLD", defaultMaxDiscountPct := 24 }]
    tierAssignments := [{ odooPartnerId := 1, tierCode := "GOLD" }] }

/-- The deal is approved, loses the approval to the stricter policy, and is approved again. -/
def serviceReapproval : List (GovernanceOp FakeOdoo) :=
  [.evaluate { tables := lenientTables, now := 1 },
    .decide 3 salesManager .approve none 2,
    .evaluate { tables := goldTables, now := 3 },
    .decide 5 salesManager .approve none 4,
    .decide 6 financeOfficer .approve none 5]

/-- The last approval. -/
def secondApproval : World FakeOdoo × GovernanceOp FakeOdoo :=
  (run (GovernanceOp.apply fakeOdooGateway) (serviceReapproval.take 4) serviceWorld,
    .decide 6 financeOfficer .approve none 5)

/-- Its owner is not told. -/
theorem serviceReapproval_unannounced :
    FreshDeal serviceWorld.db ∧ serviceWorld.db.hasNotice = false ∧
      ¬ ∀ t ∈ history (GovernanceOp.apply fakeOdooGateway) serviceReapproval serviceWorld,
        MovesIntoApproved fakeOdooGateway t → Announced fakeOdooGateway t := by
  refine ⟨serviceWorld_fresh, rfl, fun announced => ?_⟩
  have mem : secondApproval ∈
      history (GovernanceOp.apply fakeOdooGateway) serviceReapproval serviceWorld :=
    List.mem_append_right (history (GovernanceOp.apply fakeOdooGateway) (serviceReapproval.take 4)
      serviceWorld) (List.mem_singleton_self _)
  have moves : MovesIntoApproved fakeOdooGateway secondApproval :=
    ⟨⟨6, financeOfficer, .approve, none, 5, rfl⟩, by decide +kernel, by decide +kernel⟩
  have noticed : secondApproval.1.db.hasNotice = true := by decide +kernel
  exact (approval_announced_iff moves).mp (announced _ mem moves) noticed

end DealFlow
