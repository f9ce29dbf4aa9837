import DealFlow.Services.ApprovalService
import DealFlow.Services.DealRegistry

/-!
# The approval queue

`list_pending_approvals` of `app/services/approval_service.py`, on the deals of the whole store: the
pending requests of the actor's own stage, newest first and in pages.

Whoever may read the approval queue finds in it the requests that are theirs to decide, and no
others, but for those on deals of their own, which are shown and may not be decided.  Whoever may
not read it can decide nothing (`queue_matches_authority`).
-/

namespace DealFlow

open Lib

/-! ## The queue -/

/-- The deals with their requests, each under its own id. -/
structure ApprovalDb where
  deals : List DealStore
  keyed : (deals.map fun db => db.deal.id).Nodup
  requestsKeyed : ∀ db ∈ deals, (db.requests.map (·.id)).Nodup

structure PendingApprovalSummary where
  dealId : ℕ
  dealReference : String
  odooSaleOrderId : ℤ
  odooOrderName : String
  partnerName : String
  approvalRequestId : ℕ
  requiredLevel : ApprovalStage
  riskScore : ℚ
  amountTotal : ℚ
  requestedAt : Timestamp
  deriving DecidableEq, Repr

def pendingApprovalSummary (row : ApprovalRequest × Deal) : PendingApprovalSummary :=
  { dealId := row.2.id
    dealReference := row.2.reference
    odooSaleOrderId := row.2.odooSaleOrderId
    odooOrderName := row.2.odooOrderName
    partnerName := row.2.partnerNameCache
    approvalRequestId := row.1.id
    requiredLevel := row.1.requiredLevel
    riskScore := row.2.currentRiskScore.getD 0
    amountTotal := row.2.amountTotalCache
    requestedAt := row.1.requestedAt }

/-- The pending requests, each with its deal. -/
def ApprovalDb.pendingRows (db : ApprovalDb) : List (ApprovalRequest × Deal) :=
  db.deals.flatMap fun store => store.pendingRequests.map fun req => (req, store.deal)

/-- The stages a role sees. -/
def queueFilter (role : Role) : Except DealFlowException (ApprovalStage → Bool) :=
  match role with
  | .admin => .ok fun _ => true
  | .salesManager => .ok fun level => level = .salesManager
  | .finance => .ok fun level => level = .finance
  | _ => .error (forbiddenError "Insufficient permissions to view approval queue.")

/-- `math.ceil(total / page_size)`, and one page where there is no page size. -/
def queuePages (total pageSize : ℕ) : ℕ :=
  if 0 < pageSize then (total + pageSize - 1) / pageSize else 1

/-- `list_pending_approvals`; requests of one moment come in the order `serve` gives them. -/
def listPendingApprovals (serve : List (ApprovalRequest × Deal) → List (ApprovalRequest × Deal))
    (db : ApprovalDb) (actor : DealflowUser) (pagination : PaginationParams) :
    Except DealFlowException (List PendingApprovalSummary × PaginationMeta) := do
  let shows ← queueFilter actor.role
  let rows := db.pendingRows.filter fun row => shows row.1.requiredLevel
  .ok ((pageOf pagination.pageSize (pagination.page - 1) (serve rows)).map pendingApprovalSummary,
    { page := pagination.page
      pageSize := pagination.pageSize
      total := rows.length
      totalPages := queuePages rows.length pagination.pageSize })

/-! ## The queue and the authority to decide -/

/-- The roles that read the queue. -/
def ReadsQueue (role : Role) : Prop :=
  role = .admin ∨ role = .salesManager ∨ role = .finance

/-- The filter of the queue and the guard of a decision are one rule. -/
theorem queueFilter_roleGuard {actor : DealflowUser} {shows : ApprovalStage → Bool}
    (filter : queueFilter actor.role = .ok shows) (req : ApprovalRequest) :
    shows req.requiredLevel = true ↔ roleGuard req actor = .ok () := by
  unfold queueFilter at filter
  unfold roleGuard
  cases role : actor.role <;> rw [role] at filter <;> cases filter <;>
    cases req.requiredLevel <;> simp

theorem queueFilter_reads {role : Role} (reads : ReadsQueue role) :
    ∃ shows, queueFilter role = .ok shows := by
  rcases reads with rfl | rfl | rfl
  · exact ⟨_, rfl⟩
  · exact ⟨_, rfl⟩
  · exact ⟨_, rfl⟩

theorem queueFilter_denies {role : Role} (denied : ¬ ReadsQueue role) :
    queueFilter role =
      .error (forbiddenError "Insufficient permissions to view approval queue.") := by
  cases role with
  | admin => exact absurd (.inl rfl) denied
  | salesManager => exact absurd (.inr (.inl rfl)) denied
  | finance => exact absurd (.inr (.inr rfl)) denied
  | salesRep => rfl
  | customer => rfl

theorem roleGuard_denies {actor : DealflowUser} (denied : ¬ ReadsQueue actor.role)
    (req : ApprovalRequest) : roleGuard req actor ≠ .ok () := by
  unfold roleGuard
  cases role : actor.role with
  | admin => exact absurd (.inl role) denied
  | salesManager => exact absurd (.inr (.inl role)) denied
  | finance => exact absurd (.inr (.inr role)) denied
  | salesRep => cases req.requiredLevel <;> exact nofun
  | customer => cases req.requiredLevel <;> exact nofun

namespace ApprovalDb

variable {db : ApprovalDb}

theorem findRequest_mem {store : DealStore} (mem : store ∈ db.deals) {req : ApprovalRequest}
    (own : req ∈ store.requests) : store.findRequest req.id = some req := by
  unfold DealStore.findRequest
  cases found : store.requests.find? fun r => r.id = req.id with
  | none =>
      have absent := List.find?_eq_none.mp found req own
      exact absurd (decide_eq_true rfl) absent
  | some other =>
      have same : other.id = req.id := of_decide_eq_true (List.find?_some found :)
      exact congrArg some (List.inj_on_of_nodup_map (db.requestsKeyed store mem)
        (List.mem_of_find?_eq_some found) own same)

/-- A decision passes its guards where the request is pending, the deal another's and the stage the
actor's. -/
theorem guardDecision_iff {store : DealStore} (mem : store ∈ db.deals) {req : ApprovalRequest}
    (own : req ∈ store.requests) (actor : DealflowUser) :
    guardDecision store req.id actor = .ok req ↔
      req.status = .pending ∧ store.deal.ownerOdooUserId ≠ actor.odooUserId ∧
        roleGuard req actor = .ok () := by
  unfold guardDecision
  rw [findRequest_mem mem own]
  dsimp only
  split
  · next decided => exact iff_of_false nofun fun passes => decided passes.1
  · next pending =>
      rw [not_not] at pending
      split
      · next owner => exact iff_of_false nofun fun passes => passes.2.1 owner
      · next other =>
          cases guard : roleGuard req actor with
          | error e => exact iff_of_false nofun fun passes => nomatch passes.2.2
          | ok u => exact iff_of_true rfl ⟨pending, other, rfl⟩

theorem mem_pendingRows {row : ApprovalRequest × Deal} :
    row ∈ db.pendingRows ↔ ∃ store ∈ db.deals, row.2 = store.deal ∧ row.1 ∈ store.requests ∧
      row.1.status = .pending := by
  rcases row with ⟨req, deal⟩
  simp only [pendingRows, DealStore.pendingRequests, List.mem_flatMap, List.mem_map,
    List.mem_filter, decide_eq_true_eq, Prod.mk.injEq]
  constructor
  · rintro ⟨store, mem, r, ⟨own, pending⟩, rfl, rfl⟩
    exact ⟨store, mem, rfl, own, pending⟩
  · rintro ⟨store, mem, rfl, own, pending⟩
    exact ⟨store, mem, req, ⟨own, pending⟩, rfl, rfl⟩

/-- The ids of a summary name one request of one deal. -/
theorem summary_inj {store : DealStore} (mem : store ∈ db.deals) {req : ApprovalRequest}
    (own : req ∈ store.requests) {row : ApprovalRequest × Deal} (pending : row ∈ db.pendingRows)
    (same : pendingApprovalSummary row = pendingApprovalSummary (req, store.deal)) :
    row = (req, store.deal) := by
  obtain ⟨store', mem', deal, own', -⟩ := mem_pendingRows.mp pending
  have ids : store'.deal.id = store.deal.id := by
    rw [← deal]
    exact congrArg PendingApprovalSummary.dealId same
  obtain rfl := List.inj_on_of_nodup_map db.keyed mem' mem ids
  have requests : row.1 = req := List.inj_on_of_nodup_map (db.requestsKeyed _ mem) own' own
    (congrArg PendingApprovalSummary.approvalRequestId same)
  exact Prod.ext requests deal

/-- A request is among the summaries of the pending rows of some levels where it is pending and of
such a level. -/
theorem mem_summaries {store : DealStore} (mem : store ∈ db.deals) {req : ApprovalRequest}
    (own : req ∈ store.requests) {shows : ApprovalStage → Bool}
    {rows : List (ApprovalRequest × Deal)}
    (perm : rows.Perm (db.pendingRows.filter fun row => shows row.1.requiredLevel)) :
    pendingApprovalSummary (req, store.deal) ∈ rows.map pendingApprovalSummary ↔
      req.status = .pending ∧ shows req.requiredLevel = true := by
  rw [List.mem_map]
  constructor
  · rintro ⟨row, mem', same⟩
    rw [perm.mem_iff, List.mem_filter] at mem'
    obtain ⟨pending, shown⟩ := mem'
    obtain rfl := summary_inj mem own pending same
    obtain ⟨-, -, -, -, status⟩ := mem_pendingRows.mp pending
    exact ⟨status, shown⟩
  · rintro ⟨status, shown⟩
    refine ⟨(req, store.deal), ?_, rfl⟩
    rw [perm.mem_iff, List.mem_filter]
    exact ⟨mem_pendingRows.mpr ⟨store, mem, rfl, own, status⟩, shown⟩

end ApprovalDb

/-- The pages of the queue are those of one list, newest first, of what the actor may decide, with
the pending requests on the actor's own deals; who may not read the queue may decide nothing. -/
theorem queue_matches_authority
    {serve : ℕ → List (ApprovalRequest × Deal) → List (ApprovalRequest × Deal)}
    (served : ∀ n, NewestFirst (fun row => row.1.requestedAt) (serve n)) (db : ApprovalDb)
    (distinct : (db.pendingRows.map (·.1.requestedAt)).Nodup) (actor : DealflowUser)
    (pageSize : ℕ) :
    (ReadsQueue actor.role → ∃ shown : List PendingApprovalSummary,
      (∀ n, (listPendingApprovals (serve n) db actor { page := n + 1, pageSize }).map (·.1) =
        .ok (pageOf pageSize n shown)) ∧
      shown.Pairwise (fun a b => b.requestedAt < a.requestedAt) ∧
      ∀ store ∈ db.deals, ∀ req ∈ store.requests,
        (pendingApprovalSummary (req, store.deal) ∈ shown ↔
          if store.deal.ownerOdooUserId = actor.odooUserId then
            req.status = .pending ∧ roleGuard req actor = .ok ()
          else guardDecision store req.id actor = .ok req)) ∧
    (¬ ReadsQueue actor.role →
      (∀ n, listPendingApprovals (serve n) db actor { page := n + 1, pageSize } =
        .error (forbiddenError "Insufficient permissions to view approval queue.")) ∧
      ∀ store ∈ db.deals, ∀ req ∈ store.requests,
        guardDecision store req.id actor ≠ .ok req) := by
  constructor
  · intro reads
    obtain ⟨shows, filter⟩ := queueFilter_reads reads
    have apart : ((db.pendingRows.filter fun row => shows row.1.requiredLevel).map
        (·.1.requestedAt)).Nodup :=
      distinct.sublist (List.filter_sublist.map _)
    refine ⟨(serve 0 (db.pendingRows.filter fun row => shows row.1.requiredLevel)).map
      pendingApprovalSummary, fun n => ?_, ?_, fun store mem req own => ?_⟩
    · unfold listPendingApprovals
      rw [filter]
      change Except.ok _ = Except.ok _
      dsimp only
      rw [Nat.add_sub_cancel, pageOf_served served apart]
      simp only [pageOf, List.map_take, List.map_drop]
    · rw [List.pairwise_map]
      exact (served 0).strictly apart
    · have listed : pendingApprovalSummary (req, store.deal) ∈
          (serve 0 (db.pendingRows.filter fun row => shows row.1.requiredLevel)).map
            pendingApprovalSummary ↔ req.status = .pending ∧ roleGuard req actor = .ok () := by
        rw [← queueFilter_roleGuard filter req]
        exact ApprovalDb.mem_summaries mem own ((served 0).perm _)
      rw [listed]
      split
      · rfl
      · next other =>
          rw [ApprovalDb.guardDecision_iff mem own]
          exact and_congr_right fun _ => (and_iff_right other).symm
  · intro denied
    refine ⟨fun n => ?_, fun store mem req own passes => ?_⟩
    · unfold listPendingApprovals
      rw [queueFilter_denies denied]
      rfl
    · obtain ⟨-, -, guard⟩ := (ApprovalDb.guardDecision_iff mem own actor).mp passes
      exact roleGuard_denies denied req guard

/-- A deal that waits for both stages. -/
def queuedDeal : DealStore :=
  { deal :=
      { id := 0, reference := "D-1001", odooSaleOrderId := 7, odooOrderName := "S00007"
        odooPartnerId := 1, partnerNameCache := "Acme", ownerOdooUserId := 4 }
    requests :=
      [{ id := 1, riskAssessmentId := 0, requiredLevel := .salesManager, sequence := 1
         status := .approved, requestedAt := 10 },
       { id := 2, riskAssessmentId := 0, requiredLevel := .finance, sequence := 2
         status := .pending, requestedAt := 20 }]
    nextId := 3 }

/-- A deal with one pending request. -/
def waitingDeal (id : ℕ) (owner : ℤ) (level : ApprovalStage) (requestedAt : Timestamp) :
    DealStore :=
  { deal :=
      { id, reference := "D-1002", odooSaleOrderId := 8, odooOrderName := "S00008"
        odooPartnerId := 1, partnerNameCache := "Acme", ownerOdooUserId := owner }
    requests :=
      [{ id := 1, riskAssessmentId := 0, requiredLevel := level, sequence := 1
         status := .pending, requestedAt }]
    nextId := 2 }

/-- Four deals wait for finance, one of them finance's own, and one waits for a manager: finance
finds the four, the newest first, in two pages. -/
theorem queue_of_finance :
    let db : ApprovalDb :=
      { deals :=
          [queuedDeal, waitingDeal 1 4 .finance 40, waitingDeal 2 5 .finance 30,
            waitingDeal 3 4 .salesManager 35, waitingDeal 4 4 .finance 50]
        keyed := by decide
        requestsKeyed := by decide +kernel }
    let serve : ℕ → List (ApprovalRequest × Deal) → List (ApprovalRequest × Deal) := fun _ rows =>
      rows.insertionSort fun a b => b.1.requestedAt ≤ a.1.requestedAt
    let finance : DealflowUser := { odooUserId := 5, role := .finance }
    (∀ n < 2, (listPendingApprovals (serve n) db finance
      { page := n + 1, pageSize := 3 }).toOption.map (·.1.map (·.dealId)) =
        some (if n = 0 then [4, 1, 2] else [0])) ∧
    ∃ shown : List PendingApprovalSummary,
      (∀ n, (listPendingApprovals (serve n) db finance { page := n + 1, pageSize := 3 }).map (·.1) =
        .ok (pageOf 3 n shown)) ∧
      shown.Pairwise (fun a b => b.requestedAt < a.requestedAt) ∧
      ∀ store ∈ db.deals, ∀ req ∈ store.requests,
        (pendingApprovalSummary (req, store.deal) ∈ shown ↔
          if store.deal.ownerOdooUserId = 5 then
            req.status = .pending ∧ roleGuard req finance = .ok ()
          else guardDecision store req.id finance = .ok req) := by
  intro db serve finance
  exact ⟨by decide +kernel,
    (queue_matches_authority (fun _ => newestFirst_insertionSort _) db (by decide +kernel)
      finance 3).1 (.inr (.inr rfl))⟩

end DealFlow
