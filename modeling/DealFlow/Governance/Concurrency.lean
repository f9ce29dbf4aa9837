import DealFlow.Db.Session
import DealFlow.Governance.Decisions

/-!
# Concurrent decisions

A server runs evaluations and decisions in sessions of their own.  A session reads and computes in
one step and commits in another; what other sessions do in between is up to the schedule.

Where every commit that writes finds the rows as its session loaded them (`Undisturbed`), the
sessions have the effect of operations run one after the other, and decisions stay consistent
(`concurrentDecisions_run`).  Nothing in the code makes sure of that, and a stale commit breaks each
of the three guarantees (`staleCommits_inconsistent`).
-/

namespace DealFlow

open Lib

/-- A request on its way: the rows its session loaded, and as the request left them. -/
structure Flight where
  loaded : DealStore
  now : DealStore

structure Server (σ : Type) where
  db : DealStore
  odoo : σ
  flights : ℕ → Option Flight

inductive ServerOp (σ : Type)
  | read (session : ℕ) (op : GovernanceOp σ)
  | commit (session : ℕ)

section Server

variable {σ : Type}

def Server.setFlight (server : Server σ) (session : ℕ) (flight : Option Flight) : Server σ :=
  { server with flights := fun k => if k = session then flight else server.flights k }

/-- A session reads only when it is free.  The ids a request draws are its own: the stored counter
moves past them. -/
def ServerOp.apply (gateway : OdooGateway σ) : ServerOp σ → Server σ → Server σ
  | .read session op, server =>
      match server.flights session with
      | some _ => server
      | none =>
          let ran := op.apply gateway { db := server.db, odoo := server.odoo }
          { server.setFlight session (some { loaded := server.db, now := ran.db }) with
            db := { server.db with nextId := ran.db.nextId }
            odoo := ran.odoo }
  | .commit session, server =>
      match server.flights session with
      | none => server
      | some flight =>
          { server.setFlight session none with
            db := commitSession flight.loaded flight.now server.db }

/-- A server with no request on its way. -/
def Server.idle (w : World σ) : Server σ :=
  { db := w.db, odoo := w.odoo, flights := fun _ => none }

/-- A commit that writes finds the rows its session loaded. -/
def Undisturbed (server : Server σ) : ServerOp σ → Prop
  | .read .. => True
  | .commit session => ∀ flight, server.flights session = some flight →
      flight.now = flight.loaded ∨
        { flight.loaded with nextId := server.db.nextId } = server.db

instance (server : Server σ) : ∀ op : ServerOp σ, Decidable (Undisturbed server op)
  | .read .. => isTrue trivial
  | .commit session =>
      match found : server.flights session with
      | none => isTrue fun flight own => by
          rw [found] at own
          cases own
      | some flight =>
          decidable_of_iff
            (flight.now = flight.loaded ∨
              { flight.loaded with nextId := server.db.nextId } = server.db)
            ⟨fun stands other own => by
              rw [found] at own
              cases own
              exact stands, fun undisturbed => undisturbed flight found⟩

end Server

/-- The finance stages opened for an assessment. -/
def financeStages (requests : List ApprovalRequest) (assessmentId : ℕ) : ℕ :=
  requests.countP fun r => r.requiredLevel = .finance ∧ r.riskAssessmentId = assessmentId

/-- The first stages approved for an assessment. -/
def approvedFirstStages (requests : List ApprovalRequest) (assessmentId : ℕ) : ℕ :=
  requests.countP fun r =>
    r.requiredLevel = .salesManager ∧ r.riskAssessmentId = assessmentId ∧ r.status = .approved

/-- What concurrent requests must not break. -/
structure ConsistentDecisions (db : DealStore) : Prop where
  oneDecision : ∀ r ∈ db.requests, (finalActions db.actions r.id).length ≤ 1
  oneFinanceStage : ∀ assessmentId,
    financeStages db.requests assessmentId ≤ approvedFirstStages db.requests assessmentId
  approvedTerms : db.deal.approvalState = .approved →
    ∃ current approved, db.currentAssessment = some current ∧
      db.approvedAssessment = some approved ∧
      (approved.id = current.id ∨
        isCoveredByApprovedAssessment (some approved) current.requiredLevel current.riskScore =
          true)

/-! ## Stages in pairs -/

section Stages

/-- Every finance stage has its approved first stage. -/
def StagesPaired (requests : List ApprovalRequest) : Prop :=
  ∀ assessmentId,
    financeStages requests assessmentId ≤ approvedFirstStages requests assessmentId

theorem financeStages_append (rows more : List ApprovalRequest) (assessmentId : ℕ) :
    financeStages (rows ++ more) assessmentId =
      financeStages rows assessmentId + financeStages more assessmentId :=
  List.countP_append

theorem approvedFirstStages_append (rows more : List ApprovalRequest) (assessmentId : ℕ) :
    approvedFirstStages (rows ++ more) assessmentId =
      approvedFirstStages rows assessmentId + approvedFirstStages more assessmentId :=
  List.countP_append

/-- Rewriting rows without moving them keeps the finance stages. -/
theorem financeStages_map {f : ApprovalRequest → ApprovalRequest}
    (stage : ∀ r, (f r).requiredLevel = r.requiredLevel)
    (assessment : ∀ r, (f r).riskAssessmentId = r.riskAssessmentId)
    (requests : List ApprovalRequest) (assessmentId : ℕ) :
    financeStages (requests.map f) assessmentId = financeStages requests assessmentId := by
  unfold financeStages
  rw [List.countP_map]
  refine List.countP_congr fun r _ => ?_
  simp only [Function.comp_apply, stage, assessment]

/-- It keeps the approved first stages where it leaves approved rows approved. -/
theorem approvedFirstStages_map {f : ApprovalRequest → ApprovalRequest}
    (stage : ∀ r, (f r).requiredLevel = r.requiredLevel)
    (assessment : ∀ r, (f r).riskAssessmentId = r.riskAssessmentId)
    {requests : List ApprovalRequest}
    (approved : ∀ r ∈ requests, r.status = .approved → (f r).status = .approved)
    (assessmentId : ℕ) :
    approvedFirstStages requests assessmentId ≤
      approvedFirstStages (requests.map f) assessmentId := by
  unfold approvedFirstStages
  rw [List.countP_map]
  refine List.countP_mono_left fun r mem counted => ?_
  simp only [decide_eq_true_eq, Function.comp_apply, stage, assessment] at counted ⊢
  exact ⟨counted.1, counted.2.1, approved r mem counted.2.2⟩

/-- Approving a first stage that was not approved adds one to those of its assessment. -/
theorem approvedFirstStages_lt {f : ApprovalRequest → ApprovalRequest}
    (stage : ∀ r, (f r).requiredLevel = r.requiredLevel)
    (assessment : ∀ r, (f r).riskAssessmentId = r.riskAssessmentId)
    {requests : List ApprovalRequest}
    (approved : ∀ r ∈ requests, r.status = .approved → (f r).status = .approved)
    {req : ApprovalRequest} (mem : req ∈ requests) (first : req.requiredLevel = .salesManager)
    (before : req.status ≠ .approved) (after : (f req).status = .approved) :
    approvedFirstStages requests req.riskAssessmentId <
      approvedFirstStages (requests.map f) req.riskAssessmentId := by
  obtain ⟨front, back, rfl⟩ := List.append_of_mem mem
  have kept : ∀ rows : List ApprovalRequest, (∀ r ∈ rows, r ∈ front ++ req :: back) →
      approvedFirstStages rows req.riskAssessmentId ≤
        approvedFirstStages (rows.map f) req.riskAssessmentId := fun rows among =>
    approvedFirstStages_map stage assessment (fun r memR => approved r (among r memR)) _
  have inFront := kept front fun r memR => List.mem_append_left _ memR
  have inBack := kept back fun r memR => List.mem_append_right _ (List.mem_cons_of_mem _ memR)
  unfold approvedFirstStages at inFront inBack ⊢
  rw [List.map_append, List.map_cons, List.countP_append, List.countP_append, List.countP_cons,
    List.countP_cons]
  have uncounted : ¬ (req.requiredLevel = .salesManager ∧
      req.riskAssessmentId = req.riskAssessmentId ∧ req.status = .approved) :=
    fun counted => before counted.2.2
  have counted : (f req).requiredLevel = .salesManager ∧
      (f req).riskAssessmentId = req.riskAssessmentId ∧ (f req).status = .approved :=
    ⟨(stage req).trans first, assessment req, after⟩
  rw [if_neg (by simpa using uncounted), if_pos (by simpa using counted)]
  omega

theorem supersede_level (now : Timestamp) (r : ApprovalRequest) :
    (supersede now r).requiredLevel = r.requiredLevel := by
  unfold supersede
  split <;> rfl

theorem supersede_assessment (now : Timestamp) (r : ApprovalRequest) :
    (supersede now r).riskAssessmentId = r.riskAssessmentId := by
  unfold supersede
  split <;> rfl

theorem StagesPaired.map {requests : List ApprovalRequest} (paired : StagesPaired requests)
    {f : ApprovalRequest → ApprovalRequest} (stage : ∀ r, (f r).requiredLevel = r.requiredLevel)
    (assessment : ∀ r, (f r).riskAssessmentId = r.riskAssessmentId)
    (approved : ∀ r ∈ requests, r.status = .approved → (f r).status = .approved) :
    StagesPaired (requests.map f) := by
  intro assessmentId
  rw [financeStages_map stage assessment]
  exact (paired assessmentId).trans (approvedFirstStages_map stage assessment approved assessmentId)

theorem StagesPaired.assess {a : Approvals} (paired : StagesPaired a.requests)
    (s : RiskAssessment) (now : Timestamp) : StagesPaired (a.assess s now).requests := by
  have superseded := paired.map (supersede_level now) (supersede_assessment now) fun r _ done => by
    unfold supersede
    rw [if_neg (by rw [done]; decide)]
    exact done
  unfold Approvals.assess
  split
  · exact paired
  · split
    · exact superseded
    · intro assessmentId
      have before := superseded assessmentId
      rw [financeStages_append, approvedFirstStages_append]
      simpa [financeStages, approvedFirstStages, stageRequest] using before

/-- Approving a first stage makes up for the finance stage it opens. -/
theorem StagesPaired.approveFirst {requests : List ApprovalRequest}
    (paired : StagesPaired requests) {f : ApprovalRequest → ApprovalRequest}
    (stage : ∀ r, (f r).requiredLevel = r.requiredLevel)
    (assessment : ∀ r, (f r).riskAssessmentId = r.riskAssessmentId)
    (approved : ∀ r ∈ requests, r.status = .approved → (f r).status = .approved)
    {req : ApprovalRequest} (mem : req ∈ requests) (first : req.requiredLevel = .salesManager)
    (before : req.status ≠ .approved) (after : (f req).status = .approved) (id : ℕ)
    (now : Timestamp) :
    StagesPaired (requests.map f ++ [stageRequest .finance 2 id req.riskAssessmentId now]) := by
  intro assessmentId
  have closed := paired.map stage assessment approved assessmentId
  have opened : financeStages [stageRequest .finance 2 id req.riskAssessmentId now] assessmentId =
      if req.riskAssessmentId = assessmentId then 1 else 0 := by
    simp [financeStages, stageRequest, List.countP_cons]
  have unapproved : approvedFirstStages
      [stageRequest .finance 2 id req.riskAssessmentId now] assessmentId = 0 := by
    simp [approvedFirstStages, stageRequest]
  rw [financeStages_append, approvedFirstStages_append, opened, unapproved]
  by_cases here : req.riskAssessmentId = assessmentId
  · subst here
    have kept := financeStages_map stage assessment requests req.riskAssessmentId
    have more := approvedFirstStages_lt stage assessment approved mem first before after
    have start := paired req.riskAssessmentId
    rw [if_pos rfl]
    omega
  · rw [if_neg here]
    exact closed

/-- Rewriting the row of a pending request that keeps its stage and assessment. -/
theorem Chain.onRequest_keeps {a : Approvals} (chain : Chain a) {req : ApprovalRequest}
    (mem : req ∈ a.requests) (waits : req.status = .pending)
    {f : ApprovalRequest → ApprovalRequest} (stage : ∀ r, (f r).requiredLevel = r.requiredLevel)
    (assessment : ∀ r, (f r).riskAssessmentId = r.riskAssessmentId) :
    (∀ r, (onRequest req.id f r).requiredLevel = r.requiredLevel) ∧
      (∀ r, (onRequest req.id f r).riskAssessmentId = r.riskAssessmentId) ∧
      ∀ r ∈ a.requests, r.status = .approved → (onRequest req.id f r).status = .approved := by
  refine ⟨fun r => ?_, fun r => ?_, fun r memR done => ?_⟩
  · unfold onRequest
    split
    · exact stage r
    · rfl
  · unfold onRequest
    split
    · exact assessment r
    · rfl
  · unfold onRequest
    rw [if_neg]
    · exact done
    · intro same
      obtain rfl := List.inj_on_of_nodup_map chain.requestIds memR mem same
      cases waits.symm.trans done

theorem StagesPaired.decided {a : Approvals} (paired : StagesPaired a.requests) (chain : Chain a)
    {req : ApprovalRequest} (mem : req ∈ a.requests) (waits : req.status = .pending)
    (actor : DealflowUser) (action : ApprovalActionType) (reason : Option String)
    (now : Timestamp) : StagesPaired (decided a req actor action reason now).requests := by
  have keeps : ∀ status : ApprovalRequestStatus, _ := fun status =>
    chain.onRequest_keeps mem waits (f := closeRequest status actor reason now) (fun _ => rfl)
      fun _ => rfl
  have closed : ∀ status : ApprovalRequestStatus,
      StagesPaired (a.requests.map (onRequest req.id (closeRequest status actor reason now))) :=
    fun status => paired.map (keeps status).1 (keeps status).2.1 (keeps status).2.2
  cases action with
  | approve =>
      unfold DealFlow.decided Approvals.approve
      dsimp only
      split
      · next twoStage =>
          refine paired.approveFirst (keeps .approved).1 (keeps .approved).2.1 (keeps .approved).2.2
            mem twoStage.2 (by rw [waits]; decide) ?_ a.nextId now
          unfold onRequest
          rw [if_pos rfl]
          rfl
      · exact closed .approved
  | reject => exact closed .rejected
  | «return» => exact closed .returned
  | escalate =>
      obtain ⟨stage, assessment, approved⟩ := chain.onRequest_keeps mem waits
        (f := fun r => { r with decisionReason := reason }) (fun _ => rfl) fun _ => rfl
      exact paired.map stage assessment approved
  | invalidate => exact paired

end Stages

/-! ## What one operation does -/

/-- Everything that keeps decisions consistent. -/
structure Orderly (ownerOdooUserId : ℤ) (actions : List ApprovalAction) (a : Approvals) : Prop where
  ledger : Ledger ownerOdooUserId actions a
  authority : Authority (fun _ _ => True) a
  paired : StagesPaired a.requests

def DealStore.Orderly (db : DealStore) : Prop :=
  DealFlow.Orderly db.deal.ownerOdooUserId db.actions db.approvals

/-- What an operation writes: it changes rows in place and adds rows. -/
structure Extends (loaded now : DealStore) : Prop where
  owner : now.deal.ownerOdooUserId = loaded.deal.ownerOdooUserId
  requests : ∃ f opened, (∀ r, (f r).id = r.id) ∧
    now.requests = loaded.requests.map f ++ opened
  assessments : ∃ added, now.assessments = loaded.assessments ++ added
  actions : ∃ added, now.actions = loaded.actions ++ added
  nextId : loaded.nextId ≤ now.nextId

theorem assess_extends (a : Approvals) (s : RiskAssessment) (now : Timestamp) :
    (∃ f opened, (∀ r : ApprovalRequest, (f r).id = r.id) ∧
        (a.assess s now).requests = a.requests.map f ++ opened) ∧
      (∃ added, (a.assess s now).assessments = a.assessments ++ added) ∧
      a.nextId ≤ (a.assess s now).nextId := by
  have superseded := supersede_id now
  unfold Approvals.assess
  split
  · refine ⟨⟨id, [], fun _ => rfl, ?_⟩, ⟨[s], rfl⟩, Nat.le_succ _⟩
    rw [List.map_id, List.append_nil]
    rfl
  · split
    · exact ⟨⟨supersede now, [], superseded, (List.append_nil _).symm⟩, ⟨[s], rfl⟩, Nat.le_succ _⟩
    · exact ⟨⟨supersede now, _, superseded, rfl⟩, ⟨[s], rfl⟩, Nat.le_add_right _ 2⟩

theorem decided_extends (a : Approvals) (req : ApprovalRequest) (actor : DealflowUser)
    (action : ApprovalActionType) (reason : Option String) (now : Timestamp) :
    (∃ f opened, (∀ r : ApprovalRequest, (f r).id = r.id) ∧
        (decided a req actor action reason now).requests = a.requests.map f ++ opened) ∧
      a.nextId ≤ (decided a req actor action reason now).nextId := by
  have keepsId : ∀ f : ApprovalRequest → ApprovalRequest, (∀ r, (f r).id = r.id) →
      ∀ r, (onRequest req.id f r).id = r.id := by
    intro f keeps r
    unfold onRequest
    split
    · exact keeps r
    · rfl
  have closes : ∀ status, ∀ r, (onRequest req.id (closeRequest status actor reason now) r).id =
      r.id := fun status => keepsId _ (closeRequest_id status actor reason now)
  cases action with
  | approve =>
      unfold DealFlow.decided Approvals.approve
      dsimp only
      split
      · exact ⟨⟨_, _, closes .approved, rfl⟩, Nat.le_succ _⟩
      · exact ⟨⟨_, [], closes .approved, (List.append_nil _).symm⟩, le_rfl⟩
  | reject => exact ⟨⟨_, [], closes .rejected, (List.append_nil _).symm⟩, le_rfl⟩
  | «return» => exact ⟨⟨_, [], closes .returned, (List.append_nil _).symm⟩, le_rfl⟩
  | escalate =>
      refine ⟨⟨_, [], keepsId (fun r => { r with decisionReason := reason }) fun _ => rfl, ?_⟩,
        le_rfl⟩
      exact (List.append_nil _).symm
  | invalidate =>
      refine ⟨⟨id, [], fun _ => rfl, ?_⟩, le_rfl⟩
      rw [List.map_id, List.append_nil]
      rfl

section Operation

variable {σ : Type} {gateway : OdooGateway σ} {w : World σ}

variable (gateway w) in
theorem governanceStep_extends (op : GovernanceOp σ) :
    Extends w.db (op.apply gateway w).db := by
  obtain ⟨owner, outcome⟩ := governanceStep_records gateway w op
  rcases outcome with ⟨actions, unchanged | ⟨s, now, -, assessed⟩⟩ |
    ⟨requestId, actor, action, reason, now, req, -, actions, outcome⟩
  · have requests := congrArg Approvals.requests unchanged
    have assessments := congrArg Approvals.assessments unchanged
    refine ⟨owner, ⟨id, [], fun _ => rfl, ?_⟩, ⟨[], ?_⟩, ⟨[], ?_⟩, ?_⟩
    · rw [List.map_id, List.append_nil]
      exact requests
    · rw [List.append_nil]
      exact assessments
    · rw [List.append_nil]
      exact actions
    · exact (congrArg Approvals.nextId unchanged).ge
  · obtain ⟨⟨f, opened, keepsId, requests⟩, ⟨added, assessments⟩, later⟩ :=
      assess_extends w.db.approvals s now
    refine ⟨owner, ⟨f, opened, keepsId, ?_⟩, ⟨added, ?_⟩, ⟨[], ?_⟩, ?_⟩
    · exact (congrArg Approvals.requests assessed).trans requests
    · exact (congrArg Approvals.assessments assessed).trans assessments
    · rw [List.append_nil]
      exact actions
    · exact later.trans (congrArg Approvals.nextId assessed).ge
  · obtain ⟨⟨f, opened, keepsId, requests⟩, later⟩ :=
      decided_extends w.db.approvals req actor action reason now
    have assessments := (decided_frame w.db.approvals req actor action reason now).2.1
    refine ⟨owner, ⟨f, opened, keepsId, ?_⟩, ⟨[], ?_⟩, ⟨_, actions⟩, ?_⟩
    · exact (congrArg Approvals.requests outcome).trans requests
    · rw [List.append_nil]
      exact (congrArg Approvals.assessments outcome).trans assessments
    · exact later.trans (congrArg Approvals.nextId outcome).ge

theorem DealStore.Orderly.step (orderly : w.db.Orderly) (op : GovernanceOp σ) :
    (op.apply gateway w).db.Orderly := by
  have ledger : (op.apply gateway w).db.Ledger := DealStore.Ledger.step orderly.ledger op
  have chain := orderly.ledger.chain
  obtain ⟨-, outcome⟩ := governanceStep_records gateway w op
  rcases outcome with ⟨-, unchanged | ⟨s, now, -, assessed⟩⟩ |
    ⟨requestId, actor, action, reason, now, req, guarded, -, outcome⟩
  · refine ⟨ledger, ?_, ?_⟩
    · rw [unchanged]
      exact orderly.authority
    · rw [unchanged]
      exact orderly.paired
  · refine ⟨ledger, ?_, ?_⟩
    · rw [assessed]
      exact orderly.authority.assess s now
    · rw [assessed]
      exact orderly.paired.assess s now
  · obtain ⟨found, waits, -, -⟩ := guardDecision_ok guarded
    have mem := List.mem_of_find?_eq_some found
    refine ⟨ledger, ?_, ?_⟩
    · rw [outcome]
      exact orderly.authority.decided_any chain mem waits actor action reason now
    · rw [outcome]
      exact orderly.paired.decided chain mem waits actor action reason now

end Operation

/-- Ids given out elsewhere do not matter. -/
theorem Orderly.skip {ownerOdooUserId : ℤ} {actions : List ApprovalAction} {a : Approvals}
    (orderly : Orderly ownerOdooUserId actions a) {n : ℕ} (later : a.nextId ≤ n) :
    Orderly ownerOdooUserId actions { a with nextId := n } := by
  obtain ⟨chain, known, accounted⟩ := orderly.ledger
  exact ⟨⟨chain.skip later, fun entry mem => (known entry mem).trans_le later, accounted⟩,
    orderly.authority.skip n, orderly.paired⟩

theorem FreshDeal.orderly {db : DealStore} (fresh : FreshDeal db) : db.Orderly := by
  have none : db.approvals.requests = [] := fresh.requests
  refine ⟨fresh.ledger, fresh.authority _, fun assessmentId => ?_⟩
  rw [none]
  exact le_rfl

theorem DealStore.Orderly.consistent {db : DealStore} (orderly : db.Orderly) :
    ConsistentDecisions db := by
  refine ⟨fun r mem => ?_, orderly.paired, fun state => ?_⟩
  · have accounted := orderly.ledger.accounted r mem
    cases decision : r.status.decision with
    | none =>
        rw [accounted.undecided decision]
        exact Nat.zero_le 1
    | some action =>
        obtain ⟨entry, only, -⟩ := accounted.decided action decision
        rw [only]
        exact le_rfl
  · obtain ⟨current, approved, here, found, covered⟩ :=
      orderly.authority.current_covered orderly.ledger.chain state
    exact ⟨current, approved, here, found, .inr covered⟩

/-! ## Commits of undisturbed sessions -/

section Commit

variable {loaded now : DealStore}

/-- The rows a commit leaves are those its session left. -/
theorem Extends.flushed (written : Extends loaded now) (before : Chain loaded.approvals)
    (after : Chain now.approvals) :
    loaded.requests.map (flushRow loaded now) ++ inserted loaded.requests now.requests =
      now.requests := by
  obtain ⟨f, opened, keepsId, requests⟩ := written.requests
  have added : inserted loaded.requests now.requests = opened := by
    rw [requests]
    unfold inserted
    have size : (loaded.requests.map f).length = loaded.requests.length := List.length_map f
    rw [← size]
    exact List.drop_left
  have rows : loaded.requests.map (flushRow loaded now) = loaded.requests.map f := by
    refine List.map_congr_left fun r mem => ?_
    have changed : f r ∈ now.requests := by
      rw [requests]
      exact List.mem_append_left _ (List.mem_map_of_mem mem)
    unfold flushRow
    rw [(before.findRequest_iff r.id r).mpr ⟨mem, rfl⟩,
      (after.findRequest_iff r.id (f r)).mpr ⟨changed, keepsId r⟩]
    exact flushRequest_loaded (keepsId r)
  rw [added, rows, requests]

/-- A commit that finds the rows its session loaded leaves them as the session did, or is
refused. -/
theorem Extends.commit (written : Extends loaded now) (before : Chain loaded.approvals)
    (after : Chain now.approvals) (n : ℕ) :
    commitSession loaded now { loaded with nextId := n } = { loaded with nextId := n } ∨
      (commitSession loaded now { loaded with nextId := n }).approvals =
          { now.approvals with nextId := n } ∧
        (commitSession loaded now { loaded with nextId := n }).actions = now.actions ∧
        (commitSession loaded now { loaded with nextId := n }).deal = now.deal := by
  by_cases refused : dedupeConflict loaded now { loaded with nextId := n } = true
  · exact .inl (if_pos refused)
  · right
    have stored : commitSession loaded now { loaded with nextId := n } = _ := if_neg refused
    obtain ⟨assessed, assessments⟩ := written.assessments
    obtain ⟨acted, actions⟩ := written.actions
    have requests := written.flushed before after
    rw [stored]
    refine ⟨?_, ?_, flushDeal_loaded loaded.deal now.deal⟩
    · simp only [DealStore.approvals, flushDeal_loaded, requests, assessments, inserted_append]
    · rw [actions, inserted_append]

end Commit

/-- A request on its way: what it loaded and what it will write are in order by themselves. -/
structure Flight.Sound (nextId : ℕ) (flight : Flight) : Prop where
  loaded : flight.loaded.Orderly
  now : flight.now.Orderly
  written : Extends flight.loaded flight.now
  drawn : flight.now.nextId ≤ nextId

structure Server.Sound {σ : Type} (server : Server σ) : Prop where
  stored : server.db.Orderly
  flights : ∀ session flight, server.flights session = some flight →
    flight.Sound server.db.nextId

theorem Flight.Sound.later {flight : Flight} {n n' : ℕ} (sound : flight.Sound n)
    (later : n ≤ n') : flight.Sound n' :=
  ⟨sound.loaded, sound.now, sound.written, sound.drawn.trans later⟩

@[simp] theorem commitSession_nextId (loaded now stored : DealStore) :
    (commitSession loaded now stored).nextId = stored.nextId := by
  unfold commitSession
  split <;> rfl

section Steps

variable {σ : Type} {gateway : OdooGateway σ} {server : Server σ}

/-- Storing a session or letting one go leaves the others as they are. -/
theorem setFlight_sound {n : ℕ} {session : ℕ} {flight : Option Flight}
    (others : ∀ session flight, server.flights session = some flight → flight.Sound n)
    (own : ∀ f, flight = some f → f.Sound n) :
    ∀ k f, (server.setFlight session flight).flights k = some f → f.Sound n := by
  intro k f found
  simp only [Server.setFlight] at found
  split at found
  · exact own f found
  · exact others k f found

theorem Server.Sound.read (sound : server.Sound) (session : ℕ) (op : GovernanceOp σ) :
    ((ServerOp.read session op).apply gateway server).Sound := by
  unfold ServerOp.apply
  dsimp only
  split
  · exact sound
  · have written := governanceStep_extends gateway { db := server.db, odoo := server.odoo } op
    have after : (op.apply gateway { db := server.db, odoo := server.odoo }).db.Orderly :=
      DealStore.Orderly.step sound.stored op
    refine ⟨sound.stored.skip written.nextId, setFlight_sound ?_ ?_⟩
    · exact fun session flight found => (sound.flights session flight found).later written.nextId
    · rintro f ⟨⟩
      exact ⟨sound.stored, after, written, le_rfl⟩

theorem Server.Sound.commit (sound : server.Sound) {session : ℕ}
    (undisturbed : Undisturbed server (ServerOp.commit session)) :
    ((ServerOp.commit session).apply gateway server).Sound := by
  cases found : server.flights session with
  | none =>
      unfold ServerOp.apply
      dsimp only
      rw [found]
      exact sound
  | some flight =>
      have own := sound.flights session flight found
      have stored : (commitSession flight.loaded flight.now server.db).Orderly := by
        rcases undisturbed flight found with idle | current
        · rw [idle, commitSession_unchanged]
          exact sound.stored
        · have outcome := own.written.commit own.loaded.ledger.chain own.now.ledger.chain
            server.db.nextId
          rw [current] at outcome
          rcases outcome with refused | ⟨approvals, actions, deal⟩
          · rw [refused]
            exact sound.stored
          · unfold DealStore.Orderly
            rw [approvals, actions, deal]
            exact own.now.skip own.drawn
      unfold ServerOp.apply
      dsimp only
      rw [found]
      refine ⟨stored, setFlight_sound ?_ fun f none => by cases none⟩
      rw [commitSession_nextId]
      exact sound.flights

theorem Server.Sound.step (sound : server.Sound) {op : ServerOp σ}
    (undisturbed : Undisturbed server op) : (op.apply gateway server).Sound := by
  cases op with
  | read session op => exact sound.read session op
  | commit session => exact sound.commit undisturbed

/-- In every run of a server whose commits are undisturbed, decisions are consistent throughout. -/
theorem concurrentDecisions_run {w : World σ} (fresh : FreshDeal w.db) (ops : List (ServerOp σ))
    (undisturbed : ∀ t ∈ history (ServerOp.apply gateway) ops (Server.idle w),
      Undisturbed t.1 t.2) :
    (∀ t ∈ history (ServerOp.apply gateway) ops (Server.idle w), ConsistentDecisions t.1.db) ∧
      ConsistentDecisions (run (ServerOp.apply gateway) ops (Server.idle w)).db := by
  have start : (Server.idle w).Sound := ⟨fresh.orderly, fun session flight none => by cases none⟩
  obtain ⟨before, last⟩ := run_guarded Server.Sound Undisturbed start
    (fun _ _ undisturbed sound => sound.step undisturbed) ops undisturbed
  exact ⟨fun t mem => (before t mem).stored.consistent, last.stored.consistent⟩

end Steps

/-! ## Runs of the service deal -/

def deputyManager : DealflowUser := { odooUserId := 3, role := .salesManager }

def evaluateService : List (ServerOp FakeOdoo) :=
  [.read 0 (.evaluate { tables := goldTables, now := 1 }), .commit 0]

/-- Requests overlap.  A decision that reads before the evaluation has committed, one of an officer
on a stage that is not theirs, and one on a request that is decided by then are refused and write
nothing; the evaluation and the decisions of both stages go through. -/
def overlappingService : List (ServerOp FakeOdoo) :=
  [.read 0 (.evaluate { tables := goldTables, now := 1 }),
    .read 1 (.decide 3 salesManager .approve none 1),
    .commit 0,
    .commit 1,
    .read 1 (.decide 3 financeOfficer .approve none 2),
    .read 2 (.decide 3 salesManager .approve none 2),
    .commit 2,
    .read 3 (.decide 4 financeOfficer .approve none 3),
    .read 4 (.decide 3 deputyManager .reject none 3),
    .commit 1,
    .commit 3,
    .commit 4]

theorem overlappingService_consistent :
    FreshDeal serviceWorld.db ∧
      (run (ServerOp.apply fakeOdooGateway) overlappingService
        (Server.idle serviceWorld)).db.deal.approvalState = .approved ∧
      ConsistentDecisions
        (run (ServerOp.apply fakeOdooGateway) overlappingService
          (Server.idle serviceWorld)).db := by
  refine ⟨serviceWorld_fresh, by decide +kernel,
    (concurrentDecisions_run serviceWorld_fresh overlappingService ?_).2⟩
  decide +kernel

/-- Both sales managers read the pending request before either commits. -/
def approvedTwice : Server FakeOdoo :=
  run (ServerOp.apply fakeOdooGateway)
    (evaluateService ++
      [.read 1 (.decide 3 salesManager .approve none 2),
        .read 2 (.decide 3 deputyManager .approve none 3),
        .commit 1,
        .commit 2])
    (Server.idle serviceWorld)

/-- The service order at 16 %. -/
def modestWorld : World FakeOdoo :=
  { serviceWorld with
    odoo := serviceWorld.odoo.editLines 101 (List.map fun l => { l with discountPct := 16 }) }

/-- The approval of 16 % commits after the evaluation of 30 %, and has not seen it. -/
def approvedUnseen : Server FakeOdoo :=
  run (ServerOp.apply fakeOdooGateway)
    (evaluateService ++
      [.read 1 (.decide 3 salesManager .approve none 2),
        .read 0 (.onOdoo (FakeOdoo.editLines 101 (List.map fun l => { l with discountPct := 30 }))),
        .commit 0,
        .read 2 (.evaluate { tables := goldTables, now := 3 }),
        .commit 2,
        .commit 1])
    (Server.idle modestWorld)

/-- Stale commits decide a request twice, open two finance stages on one approved first stage, and
leave a deal approved on terms nobody approved. -/
theorem staleCommits_inconsistent :
    FreshDeal serviceWorld.db ∧ FreshDeal modestWorld.db ∧
      (∃ r ∈ approvedTwice.db.requests, (finalActions approvedTwice.db.actions r.id).length = 2) ∧
      financeStages approvedTwice.db.requests 2 = 2 ∧
      approvedFirstStages approvedTwice.db.requests 2 = 1 ∧
      approvedUnseen.db.deal.approvalState = .approved ∧
      ∃ current ∈ approvedUnseen.db.currentAssessment,
        ∃ approved ∈ approvedUnseen.db.approvedAssessment, approved.id ≠ current.id ∧
          isCoveredByApprovedAssessment (some approved) current.requiredLevel current.riskScore =
            false := by
  refine ⟨serviceWorld_fresh, ?_, ?_⟩
  · constructor <;> rfl
  · decide +kernel

end DealFlow
