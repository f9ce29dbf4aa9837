import DealFlow.Lib.Dict
import DealFlow.Lib.PythonText
import DealFlow.Lib.Significant
import DealFlow.Models.Store
import DealFlow.Services.AlertDetectors
import DealFlow.Services.FulfillmentService
import Mathlib.Data.List.Sort

/-!
# Reports

`app/services/report_service.py`: the deals a report is about (`_get_matching_deals`), the lines of
them that `get_products_report` counts, how the reports print shares, and two of the reports.

* `get_approvals_report`: the approval requests of the matching deals by status and by stage, and
  the reasons for which they were turned down.  The turnaround hours are not here.
* `get_fulfillment_report`: what the plans of the matching deals ship from each warehouse, how many
  of them are split or leave a backorder, and how many deals have no delivery slipping.

The line snapshot of an assessment is a JSON column.  `LineSnapshot.json` is a line of it as
`evaluate_deal` stores it, and the filters look its keys up.  The ids of requests are those of one
deal, so a row has the id of its deal with it, and so have the rows of plans and alerts.  The
warehouses are those the gateway answers with, none where it fails or there is no gateway.
-/

namespace DealFlow

open Lib

/-- A value in a stored document; an array is one of ids. -/
inductive JsonValue
  | int (n : ℤ)
  | float (x : ℚ)
  | str (s : String)
  | ids (ns : List ℤ)
  deriving DecidableEq, Repr

def LineSnapshot.json (l : LineSnapshot) : Dict String JsonValue where
  entries :=
    [("line_id", .int l.lineId),
      ("product_id", .int l.productId),
      ("product_name", .str l.productName),
      ("qty", .float l.qty),
      ("price_unit", .float l.priceUnit),
      ("discount_pct", .float l.discountPct),
      ("subtotal", .float l.subtotal),
      ("cost", .float l.cost),
      ("margin_pct", .float l.marginPct)]
  nodup := by
    simp only [List.map_cons, List.map_nil]
    decide

/-- The filters as `parse_filters` returns them. -/
structure ReportFilters where
  fromDate : Option Timestamp := none
  toDate : Option Timestamp := none
  teamId : Option ℤ := none
  repId : Option ℤ := none
  approvalStatus : Option String := none
  productId : Option ℤ := none
  categoryId : Option ℤ := none
  deriving DecidableEq, Repr

/-- A deal with what is stored about it, and its sales team. -/
structure ReportedDeal extends DealStore where
  salesTeamOdooId : Option ℤ := none

/-- A filter by id filters where it is given and not zero. -/
def givenId (id : Option ℤ) : Option ℤ :=
  id.filter fun id => id ≠ 0

/-! ## The query -/

def approvalStatusMatches (appStatus : String) (d : Deal) : Bool :=
  if appStatus ∈ ["pending", "pending_approval"] then
    d.approvalState ∈ [.pendingManager, .pendingFinance]
  else if appStatus = "approved" then d.approvalState = .approved ∨ d.approvedAssessmentId.isSome
  else if appStatus = "rejected" then d.approvalState = .rejected
  else if appStatus ∈ ["none", "evaluated_no_approval"] then
    d.approvalState = .evaluatedNoApproval ∨ d.approvalState = .notEvaluated ∨
      d.requiredLevel = .none ∧
        d.approvalState ∉ [.pendingManager, .pendingFinance, .approved, .rejected, .returned]
  else d.approvalState.value = upper appStatus

def ReportFilters.admits (filters : ReportFilters) (d : ReportedDeal) : Bool :=
  filters.fromDate.all (· ≤ d.deal.createdAt) ∧
    filters.toDate.all (d.deal.createdAt ≤ ·) ∧
    (givenId filters.teamId).all (d.salesTeamOdooId = some ·) ∧
    (givenId filters.repId).all (d.deal.ownerOdooUserId = ·) ∧
    (filters.approvalStatus.filter (· ≠ "")).all (approvalStatusMatches · d.deal)

/-! ## Product and category -/

/-- `line.get("category_path", [])` -/
def categoryPathOf (line : Dict String JsonValue) : List ℤ :=
  match line.get "category_path" with
  | some (.ids path) => path
  | _ => []

def productMatches (pid : ℤ) (line : Dict String JsonValue) : Bool :=
  line.get "product_id" = some (.int pid)

def categoryMatches (cid : ℤ) (line : Dict String JsonValue) : Bool :=
  line.get "category_id" = some (.int cid) ∨ cid ∈ categoryPathOf line

/-- The line snapshot of the deal's current assessment, if it has one. -/
def ReportedDeal.lineSnapshot (d : ReportedDeal) : List (Dict String JsonValue) :=
  match d.currentAssessment with
  | none => []
  | some ass => ass.lineSnapshot.map (·.json)

def ReportFilters.matchesSnapshot (filters : ReportFilters) (d : ReportedDeal) : Bool :=
  d.lineSnapshot.any fun line =>
    (givenId filters.productId).any (productMatches · line) ∨
      (givenId filters.categoryId).any (categoryMatches · line)

/-- The deals of a report, the newest first. -/
def getMatchingDeals (deals : List ReportedDeal) (filters : ReportFilters) : List ReportedDeal :=
  let found := (deals.filter filters.admits).insertionSort fun d e =>
    e.deal.createdAt ≤ d.deal.createdAt
  if (givenId filters.productId).isSome ∨ (givenId filters.categoryId).isSome then
    found.filter filters.matchesSnapshot
  else found

/-! ## Shares -/

/-- `(count / total) * 100.0` in doubles. -/
def percentage (count : ℤ) (total : ℕ) : ℚ :=
  float64 (float64 (count / total) * 100)

/-- A share in percent to two places, 0 of nothing. -/
def shareRate (count total : ℕ) : ℚ :=
  if 0 < total then roundTo 2 (percentage count total) else 0

/-! ## The approvals report -/

/-- The rows of the approval requests, each with the id of its deal. -/
def requestRows (deals : List ReportedDeal) : List (ℕ × ApprovalRequest) :=
  deals.flatMap fun d => d.requests.map fun r => (d.deal.id, r)

/-- The rows of the approval actions, each with the id of the deal of its request. -/
def actionRows (deals : List ReportedDeal) : List (ℕ × ApprovalAction) :=
  deals.flatMap fun d => d.actions.map fun a => (d.deal.id, a)

/-- The filters under which no deal found means that the report is empty. -/
def ReportFilters.narrows (filters : ReportFilters) : Bool :=
  (givenId filters.teamId).isSome ∨ (givenId filters.repId).isSome ∨ filters.fromDate.isSome

/-- The requests the report is about. -/
def approvalsReportRequests (deals : List ReportedDeal) (filters : ReportFilters) :
    List (ℕ × ApprovalRequest) :=
  let dealIds := (getMatchingDeals deals filters).map fun d => d.deal.id
  if dealIds ≠ [] then (requestRows deals).filter fun row => row.1 ∈ dealIds
  else if filters.narrows then []
  else requestRows deals

/-! ### Reasons -/

/-- `str.strip` of a reason. -/
def stripReason (reason : String) : String :=
  String.ofList (strip reason.toList)

/-- The reason a request was turned down for, as the report counts it. -/
def rejectionReason (r : ApprovalRequest) : Option String :=
  if r.status = .rejected ∨ r.status = .returned then
    (r.decisionReason.filter (· ≠ "")).map stripReason
  else none

/-- The reason of an action that turns a request down. -/
def actionReason (a : ApprovalAction) : Option String :=
  if a.action = .reject ∨ a.action = .return then
    ((a.reason.filter (· ≠ "")).map stripReason).filter (· ≠ "")
  else none

/-- The actions of some requests. -/
def actionsOf (requests : List (ℕ × ApprovalRequest)) (actions : List (ℕ × ApprovalAction)) :
    List (ℕ × ApprovalAction) :=
  let reqIds := requests.map fun row => (row.1, row.2.id)
  actions.filter fun row => (row.1, row.2.approvalRequestId) ∈ reqIds

/-- How often each reason is counted: once for each request, and once for each action. -/
def reasonCounts (requests : List (ℕ × ApprovalRequest)) (actions : List (ℕ × ApprovalAction)) :
    Dict String ℤ :=
  let counted := (requests.filterMap fun row => rejectionReason row.2).foldl Dict.increment .empty
  ((actionsOf requests actions).filterMap fun row => actionReason row.2).foldl Dict.increment
    counted

/-! ### The report -/

structure ApprovalStageTurnaround where
  requiredLevel : ApprovalStage
  totalRequests : ℕ
  approvedCount : ℕ
  rejectedCount : ℕ
  returnedCount : ℕ
  deriving DecidableEq, Repr

structure ReportApprovalsResponse where
  byStatus : List (String × ℤ) := []
  turnaroundByStage : List ApprovalStageTurnaround := []
  topRejectionReasons : List (String × ℤ) := []
  totalRequests : ℕ := 0
  completedRequests : ℕ := 0
  approvalRate : ℚ := 0
  deriving DecidableEq, Repr

def stageTurnaround (stage : ApprovalStage) (requests : List ApprovalRequest) :
    ApprovalStageTurnaround :=
  { requiredLevel := stage
    totalRequests := requests.length
    approvedCount := requests.countP fun r => r.status = .approved
    rejectedCount := requests.countP fun r => r.status = .rejected
    returnedCount := requests.countP fun r => r.status = .returned }

/-- The ten reasons counted most often. -/
def topRejections (counts : Dict String ℤ) : List (String × ℤ) :=
  (counts.entries.insertionSort fun x y => y.2 ≤ x.2).take 10

def getApprovalsReport (deals : List ReportedDeal) (filters : ReportFilters) :
    ReportApprovalsResponse :=
  let rows := approvalsReportRequests deals filters
  let requests := rows.map Prod.snd
  let statusCounts := (requests.map fun r => r.status.value).foldl Dict.increment .empty
  let stageGroups : Dict ApprovalStage (List ApprovalRequest) :=
    requests.foldl (fun groups r => groups.push r.requiredLevel r) .empty
  let completedReqs := requests.countP fun r => r.completedAt.isSome
  { byStatus := statusCounts.entries.insertionSort fun x y => x.1 ≤ y.1
    turnaroundByStage := stageGroups.entries.map fun group => stageTurnaround group.1 group.2
    topRejectionReasons := topRejections (reasonCounts rows (actionRows deals))
    totalRequests := requests.length
    completedRequests := completedReqs
    approvalRate := shareRate (requests.countP fun r => r.status = .approved) completedReqs }

/-! ## The fulfillment report -/

/-- The plans of the matching deals. -/
def fulfillmentReportPlans (deals : List ReportedDeal) (plans : List (ℕ × FulfillmentPlan))
    (filters : ReportFilters) : List FulfillmentPlan :=
  let dealIds := (getMatchingDeals deals filters).map fun d => d.deal.id
  if dealIds ≠ [] then (plans.filter fun row => row.1 ∈ dealIds).map Prod.snd else []

/-! ### The breakdown by warehouse -/

structure WarehouseFigures where
  shipments : ℕ := 0
  allocatedQty : ℤ := 0
  shippingCost : ℚ := 0
  deriving DecidableEq, Repr

/-- The warehouse a line ships from, if it ships anything. -/
def FulfillmentPlanLine.shipsFrom (l : FulfillmentPlanLine) : Option ℤ :=
  if 0 < l.allocatedQty then nonZero l.odooWarehouseId else none

/-- The warehouses a plan ships from, each once. -/
def FulfillmentPlan.whAllocated (p : FulfillmentPlan) : List ℤ :=
  (p.lines.filterMap (·.shipsFrom)).dedup

def addAllocation (breakdown : Dict ℤ WarehouseFigures) (l : FulfillmentPlanLine) :
    Dict ℤ WarehouseFigures :=
  match l.shipsFrom with
  | none => breakdown
  | some wid =>
      breakdown.modify wid {} fun item =>
        { item with
          allocatedQty := item.allocatedQty + l.allocatedQty
          shippingCost := item.shippingCost + l.shippingCost }

def addShipment (breakdown : Dict ℤ WarehouseFigures) (wid : ℤ) : Dict ℤ WarehouseFigures :=
  breakdown.modify wid {} fun item => { item with shipments := item.shipments + 1 }

def addPlan (breakdown : Dict ℤ WarehouseFigures) (p : FulfillmentPlan) :
    Dict ℤ WarehouseFigures :=
  p.whAllocated.foldl addShipment (p.lines.foldl addAllocation breakdown)

def whBreakdown (plans : List FulfillmentPlan) : Dict ℤ WarehouseFigures :=
  plans.foldl addPlan .empty

/-- The names of the warehouses by id. -/
def gwWhNames (warehouses : List RawWarehouse) : Dict ℤ String :=
  warehouses.foldl (fun names wh => names.set wh.id wh.name)
    (((Dict.empty.set 1 "Main Warehouse").set 2 "East Warehouse").set 3 "West Warehouse")

/-! ### The report -/

structure WarehouseFulfillmentItem where
  warehouseId : ℤ
  warehouseName : String
  shipmentCount : ℕ
  totalAllocatedQty : ℤ
  totalShippingCost : ℚ
  deriving DecidableEq, Repr

structure ReportFulfillmentResponse where
  warehouseBreakdown : List WarehouseFulfillmentItem := []
  splitRate : ℚ := 0
  backorderRate : ℚ := 0
  onTimePct : ℚ := 0
  totalPlans : ℕ := 0
  totalShipments : ℕ := 0
  deriving DecidableEq, Repr

/-- The deals with an alert of a slipping delivery, resolved or not. -/
def slippageDeals (dealIds : List ℕ) (alerts : List DealAlert) : List ℕ :=
  ((alerts.filter fun a => a.dealId ∈ dealIds ∧ a.type = .deliverySlippage).map (·.dealId)).dedup

def onTimeRate (dealIds : List ℕ) (alerts : List DealAlert) : ℚ :=
  if dealIds = [] then 100
  else
    let onTimeCount : ℤ := dealIds.length - (slippageDeals dealIds alerts).length
    roundTo 2 (max 0 (percentage onTimeCount dealIds.length))

def warehouseItem (names : Dict ℤ String) (entry : ℤ × WarehouseFigures) :
    WarehouseFulfillmentItem :=
  { warehouseId := entry.1
    warehouseName := (names.get entry.1).getD s!"Warehouse #{entry.1}"
    shipmentCount := entry.2.shipments
    totalAllocatedQty := entry.2.allocatedQty
    totalShippingCost := entry.2.shippingCost }

def getFulfillmentReport (deals : List ReportedDeal) (plans : List (ℕ × FulfillmentPlan))
    (alerts : List DealAlert) (warehouses : List RawWarehouse) (filters : ReportFilters) :
    ReportFulfillmentResponse :=
  let dealIds := (getMatchingDeals deals filters).map fun d => d.deal.id
  let reported := fulfillmentReportPlans deals plans filters
  { warehouseBreakdown := (whBreakdown reported).entries.map (warehouseItem (gwWhNames warehouses))
    splitRate := shareRate (reported.countP fun p => 2 ≤ p.whAllocated.length) reported.length
    backorderRate :=
      shareRate (reported.countP fun p => p.lines.any fun l => 0 < l.backorderQty) reported.length
    onTimePct := onTimeRate dealIds alerts
    totalPlans := reported.length
    totalShipments := (reported.map (·.estimatedShipments)).sum }

end DealFlow
