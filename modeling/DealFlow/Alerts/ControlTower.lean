import DealFlow.Governance.ApprovalQueue
import DealFlow.Services.AlertDetectors
import DealFlow.Services.FulfillmentService

/-!
# The control tower

`get_control_tower_data` of `app/services/health_service.py`: the figures of the dashboard and its
action queue, in which the open alerts and the pending approvals of all deals stand together, the
most urgent first and of these the oldest.  The average hours of an approval are left out.

The figures and the queue come of queries of their own.  `control_tower_agrees`: the queue leaves
nothing out and shows nothing twice, the figures count its items, to which the one for fulfilment
risk adds the deals with backorders, and its approvals are as many as the approval queue has for an
administrator.
-/

namespace DealFlow

open Lib

/-! ## The dashboard -/

/-- What the control tower reads: the deals with their requests, the health each has got, the
alerts, each of which is about a deal there is, and the plans of the deals. -/
structure TowerDb where
  approvals : ApprovalDb
  healthStatus : ℕ → HealthStatus
  alerts : Table DealAlert
  owned : ∀ id alert, alerts.row id = some alert →
    ∃ store ∈ approvals.deals, store.deal.id = alert.dealId
  plans : List (ℕ × FulfillmentPlan)

inductive ActionItemType
  | alert | approval
  deriving DecidableEq, Repr

inductive ActionTitle
  /-- "[type] title" -/
  | alert (type : AlertType) (title : AlertTitle)
  /-- "Approval Required: level" -/
  | approval (requiredLevel : ApprovalStage)
  deriving DecidableEq, Repr

inductive ActionDetail
  | alert (detail : AlertDetail)
  | approval (requiredLevel : ApprovalStage) (sequence : ℕ)
  deriving DecidableEq, Repr

/-- The type of the alert that a title is about. -/
def ActionTitle.alertType : ActionTitle → Option AlertType
  | .alert type _ => some type
  | .approval _ => none

structure ActionQueueItem where
  id : ℕ
  itemType : ActionItemType
  dealId : ℕ
  dealReference : String
  partnerName : String
  title : ActionTitle
  severity : RiskSeverity
  priority : RiskSeverity
  deepLink : String
  createdAt : Timestamp
  detail : ActionDetail
  deriving DecidableEq, Repr

structure ControlTowerKPIs where
  pipelineValue : ℚ
  atRiskCount : ℕ
  pendingApprovals : ℕ
  discountExposureAmount : ℚ
  stalledCount : ℕ
  fulfillmentRiskCount : ℕ
  deriving DecidableEq, Repr

structure ControlTowerResponse where
  kpis : ControlTowerKPIs
  actionQueue : List ActionQueueItem
  generatedAt : Timestamp
  deriving DecidableEq, Repr

def alertPriority (severity : RiskSeverity) : RiskSeverity :=
  if severity = .high then .high else if severity = .medium then .medium else .low

def alertItem (row : (ℕ × DealAlert) × Deal) : ActionQueueItem :=
  { id := row.1.1
    itemType := .alert
    dealId := row.2.id
    dealReference := row.2.reference
    partnerName := row.2.partnerNameCache
    title := .alert row.1.2.type row.1.2.title
    severity := row.1.2.severity
    priority := alertPriority row.1.2.severity
    deepLink := s!"/deals/{row.2.id}"
    createdAt := row.1.2.raisedAt
    detail := .alert row.1.2.detail }

def approvalItem (row : ApprovalRequest × Deal) : ActionQueueItem :=
  { id := row.1.id
    itemType := .approval
    dealId := row.2.id
    dealReference := row.2.reference
    partnerName := row.2.partnerNameCache
    title := .approval row.1.requiredLevel
    severity := .high
    priority := .high
    deepLink := s!"/deals/{row.2.id}"
    createdAt := row.1.requestedAt
    detail := .approval row.1.requiredLevel row.1.sequence }

/-- `prio_order`. -/
def prioOrder : RiskSeverity → ℕ
  | .high => 0
  | .medium => 1
  | .low => 2

/-- The order of the queue: by priority, then by date. -/
def ActionQueueItem.before (x y : ActionQueueItem) : Prop :=
  prioOrder x.priority < prioOrder y.priority ∨
    prioOrder x.priority = prioOrder y.priority ∧ x.createdAt ≤ y.createdAt

instance (x y : ActionQueueItem) : Decidable (x.before y) :=
  inferInstanceAs (Decidable (_ ∨ _))

section Tower

variable (db : TowerDb)

def TowerDb.deals : List Deal := db.approvals.deals.map (·.deal)

def TowerDb.activePipeline : List Deal :=
  db.deals.filter fun d => d.status ≠ .cancelled ∧ d.status ≠ .expired

/-- The open alerts of a type. -/
def TowerDb.openAlertCount (type : AlertType) : ℕ :=
  db.alerts.entries.countP fun entry => entry.2.type = type ∧ entry.2.status = .open

/-- The deals of plans that have a backorder and are in force. -/
def TowerDb.backorderDeals : List ℕ :=
  ((db.plans.filter fun entry =>
    entry.2.status ≠ .superseded ∧ entry.2.lines.any fun l => 0 < l.backorderQty).map
      (·.1)).dedup

/-- What the discount of a deal costs. -/
def Deal.discountLoss (d : Deal) : ℚ :=
  if 0 < d.orderDiscountPct ∧ 0 < d.amountUntaxedCache then
    d.amountUntaxedCache * d.orderDiscountPct / 100
  else 0

def TowerDb.kpis : ControlTowerKPIs :=
  { pipelineValue := (db.activePipeline.map (·.amountTotalCache)).sum
    atRiskCount := db.activePipeline.countP fun d => db.healthStatus d.id = .atRisk
    pendingApprovals :=
      (db.approvals.deals.flatMap (·.requests)).countP fun req => req.status = .pending
    discountExposureAmount := quantize 2 (db.activePipeline.map (·.discountLoss)).sum
    stalledCount := db.openAlertCount .stalledDeal
    fulfillmentRiskCount := db.openAlertCount .deliverySlippage + db.backorderDeals.length }

/-- The open alerts, each with its deal. -/
def TowerDb.alertRows : List ((ℕ × DealAlert) × Deal) :=
  (db.alerts.entries.filter fun entry => entry.2.status = .open).flatMap fun entry =>
    (db.deals.filter fun d => d.id = entry.2.dealId).map fun d => (entry, d)

/-- `get_control_tower_data`; rows of one moment come in the order the two queries give them. -/
def getControlTowerData
    (serveAlerts : List ((ℕ × DealAlert) × Deal) → List ((ℕ × DealAlert) × Deal))
    (serveRequests : List (ApprovalRequest × Deal) → List (ApprovalRequest × Deal))
    (now : Timestamp) : ControlTowerResponse :=
  let actionQueue := (serveAlerts db.alertRows).map alertItem ++
    (serveRequests db.approvals.pendingRows).map approvalItem
  { kpis := db.kpis
    actionQueue := actionQueue.insertionSort fun x y => x.before y
    generatedAt := now }

end Tower

/-! ## Figures and queue -/

instance : Std.Total ActionQueueItem.before where
  total x y := by
    rcases lt_trichotomy (prioOrder x.priority) (prioOrder y.priority) with first | same | second
    · exact Or.inl (Or.inl first)
    · rcases le_total x.createdAt y.createdAt with earlier | later
      · exact Or.inl (Or.inr ⟨same, earlier⟩)
      · exact Or.inr (Or.inr ⟨same.symm, later⟩)
    · exact Or.inr (Or.inl second)

instance : IsTrans ActionQueueItem ActionQueueItem.before where
  trans x y z first second := by
    rcases first with urgent | ⟨same, earlier⟩ <;> rcases second with urgent' | ⟨same', earlier'⟩
    · exact Or.inl (urgent.trans urgent')
    · exact Or.inl (same' ▸ urgent)
    · exact Or.inl (same ▸ urgent')
    · exact Or.inr ⟨same.trans same', earlier.trans earlier'⟩

/-- The item is the open alert of this id. -/
structure ShowsAlert (db : TowerDb) (id : ℕ) (alert : DealAlert) (item : ActionQueueItem) :
    Prop where
  kind : item.itemType = .alert
  named : item.id = id
  row : db.alerts.row id = some alert
  isOpen : alert.status = .open
  deal : item.dealId = alert.dealId
  title : item.title = .alert alert.type alert.title
  priority : item.priority = alert.severity
  raised : item.createdAt = alert.raisedAt

section Agreement

variable {db : TowerDb}

theorem alertPriority_eq (severity : RiskSeverity) : alertPriority severity = severity := by
  cases severity <;> rfl

theorem deals_nodup (db : TowerDb) : (db.deals.map (·.id)).Nodup := by
  unfold TowerDb.deals
  rw [List.map_map]
  exact db.approvals.keyed

/-- Every alert is about one deal. -/
theorem dealOf_alert {id : ℕ} {alert : DealAlert} (row : db.alerts.row id = some alert) :
    ∃ deal, deal.id = alert.dealId ∧
      (db.deals.filter fun d => d.id = alert.dealId) = [deal] := by
  obtain ⟨store, mem, same⟩ := db.owned id alert row
  have inside : store.deal ∈ db.deals.filter fun d => d.id = alert.dealId :=
    List.mem_filter.mpr ⟨List.mem_map_of_mem mem, decide_eq_true same⟩
  have distinct : ((db.deals.filter fun d => d.id = alert.dealId).map (·.id)).Nodup :=
    (deals_nodup db).sublist (List.filter_sublist.map _)
  refine ⟨store.deal, same, ?_⟩
  cases listed : db.deals.filter fun d => d.id = alert.dealId with
  | nil =>
      rw [listed] at inside
      cases inside
  | cons first rest =>
      have all : ∀ d ∈ first :: rest, d.id = alert.dealId := fun d mem =>
        of_decide_eq_true (List.mem_filter.mp (listed.symm ▸ mem :
          d ∈ db.deals.filter fun d => d.id = alert.dealId)).2
      rw [listed] at inside distinct
      have alone : rest = [] := by
        refine List.eq_nil_iff_forall_not_mem.mpr fun other later => ?_
        rw [List.map_cons, List.nodup_cons] at distinct
        refine distinct.1 (List.mem_map.mpr ⟨other, later, ?_⟩)
        rw [all other (List.mem_cons_of_mem first later), all first List.mem_cons_self]
      rw [alone] at inside ⊢
      rw [List.mem_singleton.mp inside]

theorem mem_alertRows {row : (ℕ × DealAlert) × Deal} :
    row ∈ db.alertRows ↔ db.alerts.row row.1.1 = some row.1.2 ∧ row.1.2.status = .open ∧
      row.2 ∈ db.deals ∧ row.2.id = row.1.2.dealId := by
  rcases row with ⟨entry, deal⟩
  simp only [TowerDb.alertRows, List.mem_flatMap, List.mem_filter, List.mem_map, Table.mem_entries,
    decide_eq_true_eq, Prod.mk.injEq]
  constructor
  · intro mem
    obtain ⟨other, ⟨row, isOpen⟩, d, ⟨inside, same⟩, rfl, rfl⟩ := mem
    exact ⟨row, isOpen, inside, same⟩
  · intro holds
    obtain ⟨row, isOpen, inside, same⟩ := holds
    exact ⟨entry, ⟨row, isOpen⟩, deal, ⟨inside, same⟩, rfl, rfl⟩

/-- No open alert is lost or doubled where the deals are joined. -/
theorem alertRows_alerts (db : TowerDb) :
    db.alertRows.map (·.1) = db.alerts.entries.filter fun entry => entry.2.status = .open := by
  have alone : ∀ entry ∈ db.alerts.entries.filter fun entry => entry.2.status = .open,
      ((db.deals.filter fun d => d.id = entry.2.dealId).map fun d => (entry, d)).map (·.1) =
        [entry] := by
    intro entry mem
    obtain ⟨deal, -, one⟩ := dealOf_alert (Table.mem_entries.mp (List.mem_filter.mp mem).1)
    rw [one]
    rfl
  unfold TowerDb.alertRows
  rw [List.map_flatMap, List.flatMap_congr alone]
  exact List.flatMap_singleton' _

theorem alertItem_shows {row : (ℕ × DealAlert) × Deal} (mem : row ∈ db.alertRows) :
    ShowsAlert db row.1.1 row.1.2 (alertItem row) := by
  obtain ⟨found, isOpen, -, deal⟩ := mem_alertRows.mp mem
  exact ⟨rfl, rfl, found, isOpen, deal, rfl, alertPriority_eq _, rfl⟩

end Agreement

/-- The item is a pending request of a deal. -/
structure ShowsRequest (db : TowerDb) (dealId : ℕ) (req : ApprovalRequest)
    (item : ActionQueueItem) : Prop where
  kind : item.itemType = .approval
  named : item.id = req.id
  deal : item.dealId = dealId
  row : ∃ store ∈ db.approvals.deals, store.deal.id = dealId ∧ req ∈ store.requests
  pending : req.status = .pending
  title : item.title = .approval req.requiredLevel
  priority : item.priority = .high
  requested : item.createdAt = req.requestedAt

/-- The queue shows each open alert and each pending request once, and nothing else. -/
structure QueueExact (db : TowerDb) (queue : List ActionQueueItem) : Prop where
  /-- The most urgent first, and of these the oldest. -/
  sorted : queue.Pairwise ActionQueueItem.before
  shows : ∀ item ∈ queue, (∃ id alert, ShowsAlert db id alert item) ∨
    ∃ dealId req, ShowsRequest db dealId req item
  alerts : ((queue.filter fun item => item.itemType = .alert).map (·.id)).Perm
    ((db.alerts.entries.filter fun entry => entry.2.status = .open).map (·.1))
  approvals : ((queue.filter fun item => item.itemType = .approval).map fun item =>
    (item.dealId, item.id)).Perm (db.approvals.pendingRows.map fun row => (row.2.id, row.1.id))

/-- The figures count the items of the queue; the one for fulfilment risk adds the deals with
backorders, which are no items. -/
structure TowerFigures (db : TowerDb) (kpis : ControlTowerKPIs) (queue : List ActionQueueItem) :
    Prop where
  approvals : kpis.pendingApprovals = queue.countP fun item => item.itemType = .approval
  stalled : kpis.stalledCount = queue.countP fun item => item.title.alertType = some .stalledDeal
  fulfillment : kpis.fulfillmentRiskCount =
    (queue.countP fun item => item.title.alertType = some .deliverySlippage) +
      db.backorderDeals.length

section Exact

variable {db : TowerDb}
  {serveAlerts : List ((ℕ × DealAlert) × Deal) → List ((ℕ × DealAlert) × Deal)}
  {serveRequests : List (ApprovalRequest × Deal) → List (ApprovalRequest × Deal)}

theorem approvalItem_shows {row : ApprovalRequest × Deal} (mem : row ∈ db.approvals.pendingRows) :
    ShowsRequest db row.2.id row.1 (approvalItem row) := by
  obtain ⟨store, inside, deal, own, pending⟩ := ApprovalDb.mem_pendingRows.mp mem
  exact ⟨rfl, rfl, rfl, ⟨store, inside, congrArg Deal.id deal.symm, own⟩, pending, rfl, rfl, rfl⟩

/-- The queue is the alerts and the approvals, sorted. -/
theorem actionQueue_perm (servedAlerts : ∀ rows, (serveAlerts rows).Perm rows)
    (servedRequests : ∀ rows, (serveRequests rows).Perm rows) (now : Timestamp) :
    (getControlTowerData db serveAlerts serveRequests now).actionQueue.Perm
      (db.alertRows.map alertItem ++ db.approvals.pendingRows.map approvalItem) :=
  (List.perm_insertionSort _ _).trans
    (((servedAlerts _).map alertItem).append ((servedRequests _).map approvalItem))

theorem alertItem_kind : ∀ item ∈ db.alertRows.map alertItem, item.itemType = .alert := by
  intro item mem
  obtain ⟨row, -, rfl⟩ := List.mem_map.mp mem
  rfl

theorem approvalItem_kind :
    ∀ item ∈ db.approvals.pendingRows.map approvalItem, item.itemType = .approval := by
  intro item mem
  obtain ⟨row, -, rfl⟩ := List.mem_map.mp mem
  rfl

theorem filter_alertItems :
    (db.alertRows.map alertItem ++ db.approvals.pendingRows.map approvalItem).filter
        (fun item => item.itemType = .alert) = db.alertRows.map alertItem := by
  have alerts : (db.alertRows.map alertItem).filter (fun item => item.itemType = .alert) =
      db.alertRows.map alertItem :=
    List.filter_eq_self.mpr fun item mem => decide_eq_true (alertItem_kind item mem)
  have noApprovals : (db.approvals.pendingRows.map approvalItem).filter
      (fun item => item.itemType = .alert) = [] := by
    refine List.filter_eq_nil_iff.mpr fun item mem => ?_
    rw [approvalItem_kind item mem]
    exact Bool.false_ne_true
  rw [List.filter_append, alerts, noApprovals, List.append_nil]

theorem filter_approvalItems :
    (db.alertRows.map alertItem ++ db.approvals.pendingRows.map approvalItem).filter
        (fun item => item.itemType = .approval) = db.approvals.pendingRows.map approvalItem := by
  have noAlerts : (db.alertRows.map alertItem).filter (fun item => item.itemType = .approval) =
      [] := by
    refine List.filter_eq_nil_iff.mpr fun item mem => ?_
    rw [alertItem_kind item mem]
    exact Bool.false_ne_true
  have approvals : (db.approvals.pendingRows.map approvalItem).filter
      (fun item => item.itemType = .approval) = db.approvals.pendingRows.map approvalItem :=
    List.filter_eq_self.mpr fun item mem => decide_eq_true (approvalItem_kind item mem)
  rw [List.filter_append, noAlerts, approvals, List.nil_append]

theorem queueExact_of_perm {queue : List ActionQueueItem}
    (sorted : queue.Pairwise ActionQueueItem.before)
    (perm : queue.Perm (db.alertRows.map alertItem ++ db.approvals.pendingRows.map approvalItem)) :
    QueueExact db queue := by
  constructor
  case sorted => exact sorted
  case shows =>
    intro item mem
    rcases List.mem_append.mp (perm.mem_iff.mp mem) with alert | approval
    · obtain ⟨row, inside, rfl⟩ := List.mem_map.mp alert
      exact Or.inl ⟨_, _, alertItem_shows inside⟩
    · obtain ⟨row, inside, rfl⟩ := List.mem_map.mp approval
      exact Or.inr ⟨_, _, approvalItem_shows inside⟩
  case alerts =>
    have kinds := perm.filter fun item => item.itemType = .alert
    have ids : (db.alertRows.map alertItem).map (·.id) =
        (db.alerts.entries.filter fun entry => entry.2.status = .open).map (·.1) := by
      rw [← alertRows_alerts, List.map_map, List.map_map]
      rfl
    rw [filter_alertItems] at kinds
    rw [← ids]
    exact kinds.map _
  case approvals =>
    have kinds := perm.filter fun item => item.itemType = .approval
    have ids :
        (db.approvals.pendingRows.map approvalItem).map (fun item => (item.dealId, item.id)) =
        db.approvals.pendingRows.map fun row => (row.2.id, row.1.id) := by
      rw [List.map_map]
      rfl
    rw [filter_approvalItems] at kinds
    rw [← ids]
    exact kinds.map _

/-- The items of alerts of a type are as many as the open alerts of it. -/
theorem countP_alertType {queue : List ActionQueueItem}
    (perm : queue.Perm (db.alertRows.map alertItem ++ db.approvals.pendingRows.map approvalItem))
    (type : AlertType) :
    db.openAlertCount type = queue.countP fun item => item.title.alertType = some type := by
  have none : (db.approvals.pendingRows.map approvalItem).countP
      (fun item => item.title.alertType = some type) = 0 := by
    refine List.countP_eq_zero.mpr fun item mem => ?_
    obtain ⟨row, -, rfl⟩ := List.mem_map.mp mem
    exact of_decide_eq_true rfl
  have alerts : (db.alertRows.map alertItem).countP
      (fun item => item.title.alertType = some type) =
        (db.alertRows.map (·.1)).countP fun entry => entry.2.type = type := by
    rw [List.countP_map, List.countP_map]
    refine List.countP_congr fun row _ => ?_
    change decide (some row.1.2.type = some type) = true ↔ decide (row.1.2.type = type) = true
    rw [decide_eq_true_iff, decide_eq_true_iff, Option.some.injEq]
  rw [perm.countP_eq, List.countP_append, none, alerts, alertRows_alerts, Nat.add_zero,
    List.countP_filter]
  unfold TowerDb.openAlertCount
  refine List.countP_congr fun entry _ => ?_
  rw [decide_eq_true_iff, Bool.and_eq_true, decide_eq_true_iff, decide_eq_true_iff]

/-- The pending requests are those that are listed with their deals. -/
theorem countP_pending (db : ApprovalDb) :
    (db.deals.flatMap (·.requests)).countP (fun req => req.status = .pending) =
      db.pendingRows.length := by
  unfold ApprovalDb.pendingRows
  induction db.deals with
  | nil => rfl
  | cons store stores ih =>
      rw [List.flatMap_cons, List.countP_append, ih, List.flatMap_cons, List.length_append,
        List.length_map]
      exact congrArg (· + _) List.countP_eq_length_filter

theorem towerFigures_of_perm {queue : List ActionQueueItem}
    (perm : queue.Perm (db.alertRows.map alertItem ++ db.approvals.pendingRows.map approvalItem)) :
    TowerFigures db db.kpis queue := by
  constructor
  case approvals =>
    rw [perm.countP_eq, List.countP_eq_length_filter, filter_approvalItems, List.length_map]
    exact countP_pending db.approvals
  case stalled => exact countP_alertType perm .stalledDeal
  case fulfillment => exact congrArg (· + _) (countP_alertType perm .deliverySlippage)

/-- Whatever is stored, the action queue has every open alert and every pending request once, in the
order it is to have; the figures agree with it, the deals with backorders added, and so does an
administrator's approval queue. -/
theorem control_tower_agrees (servedAlerts : ∀ rows, (serveAlerts rows).Perm rows)
    (servedRequests : ∀ rows, (serveRequests rows).Perm rows) (now : Timestamp) :
    let tower := getControlTowerData db serveAlerts serveRequests now
    QueueExact db tower.actionQueue ∧ TowerFigures db tower.kpis tower.actionQueue ∧
      ∀ serve actor pagination, actor.role = .admin →
        (listPendingApprovals serve db.approvals actor pagination).map (·.2.total) =
          .ok tower.kpis.pendingApprovals := by
  intro tower
  have perm : tower.actionQueue.Perm _ := actionQueue_perm servedAlerts servedRequests now
  refine ⟨queueExact_of_perm (List.pairwise_insertionSort _ _) perm, towerFigures_of_perm perm, ?_⟩
  intro serve actor pagination admin
  unfold listPendingApprovals queueFilter
  rw [admin]
  change Except.ok _ = Except.ok _
  rw [List.filter_eq_self.mpr fun _ _ => rfl]
  exact congrArg _ (countP_pending db.approvals).symm

end Exact

theorem queuedDeal_keyed : ∀ store ∈ [queuedDeal], (store.requests.map (·.id)).Nodup := by
  decide +kernel

/-- A deal with a pending request and an open alert. -/
def waitingTower : TowerDb where
  approvals :=
    { deals := [queuedDeal], keyed := List.nodup_singleton _, requestsKeyed := queuedDeal_keyed }
  healthStatus _ := .healthy
  alerts := Table.empty.insert
    { dealId := 0, type := .stalledDeal, severity := .medium, status := .open,
      title := .stalled 9, detail := .stalled 9 7 0, raisedAt := 5 }
  owned id alert row := by
    rw [Table.row_insert] at row
    split at row
    · cases row
      exact ⟨queuedDeal, List.mem_singleton_self _, rfl⟩
    · cases row
  plans := []

/-- Its request comes first, though the alert is older. -/
theorem waitingTower_agrees :
    let tower := getControlTowerData waitingTower id id 100
    tower.actionQueue.map (·.itemType) = [.approval, .alert] ∧
      QueueExact waitingTower tower.actionQueue ∧
      TowerFigures waitingTower tower.kpis tower.actionQueue := by
  intro tower
  have agrees := @control_tower_agrees waitingTower id id
    (fun rows => .refl rows) (fun rows => .refl rows) 100
  exact ⟨by decide +kernel, agrees.1, agrees.2.1⟩

end DealFlow
