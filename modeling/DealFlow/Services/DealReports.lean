import DealFlow.Lib.Grouping
import DealFlow.Services.ReportService

/-!
# Reports on deals

The reports of `app/services/report_service.py` that are about the deals themselves: the summary,
the list of deals, the discounts of the representatives, the pipeline and the billing.  The health
of a deal, the turnaround hours and the period and the time a report prints are not here.

The rows of risk factors have the id of their deal with them, as the ids of assessments are those of
one deal.  What the gateway answers of an order's billing is up to the gateway, and may be an error.
-/

namespace DealFlow

open Lib

/-- `round(sum(xs) / len(xs), 2)` on decimals. -/
def averageOf (xs : List ℚ) : ℚ :=
  roundTo 2 (xs.sum / xs.length)

/-- The average, or zero of nothing. -/
def averageOrZero (xs : List ℚ) : ℚ :=
  if xs = [] then 0 else averageOf xs

/-! ## The summary -/

/-- The statuses of an order that is confirmed. -/
def confirmedStatuses : List DealStatus :=
  [.confirmed, .inFulfillment, .fulfilled, .invoiced, .paid]

def Deal.countsAsSent (d : Deal) : Bool :=
  d.sentAt.isSome ∨ d.status ∈ .sent :: .underNegotiation :: confirmedStatuses

def Deal.countsAsConfirmed (d : Deal) : Bool :=
  d.confirmedAt.isSome ∨ d.status ∈ confirmedStatuses

/-- What a confirmed deal brings in at once; of a deal without either figure it is the whole
amount. -/
def Deal.confirmedRevenue (d : Deal) : ℚ :=
  let rev := d.oneTimeTotalCache + d.recurringFirstCycleTotalCache
  if rev = 0 then d.amountTotalCache else rev

structure ReportSummaryResponse where
  quotationsCreated : ℕ := 0
  quotationsSent : ℕ := 0
  quotationsConfirmed : ℕ := 0
  winRate : ℚ := 0
  revenueConfirmed : ℚ := 0
  avgDiscount : ℚ := 0
  avgMargin : ℚ := 0
  pendingApprovalsCount : ℕ := 0
  deriving DecidableEq, Repr

def getSummaryReport (allDeals : List ReportedDeal) (filters : ReportFilters) :
    ReportSummaryResponse :=
  let deals := (getMatchingDeals allDeals filters).map (·.deal)
  let confirmed := deals.filter (·.countsAsConfirmed)
  let dealIds := deals.map (·.id)
  { quotationsCreated := deals.length
    quotationsSent := deals.countP (·.countsAsSent)
    quotationsConfirmed := confirmed.length
    winRate := shareRate confirmed.length deals.length
    revenueConfirmed := (confirmed.map (·.confirmedRevenue)).sum
    avgDiscount := averageOrZero (deals.map (·.orderDiscountPct))
    avgMargin := averageOrZero (deals.map (·.marginPctCache))
    pendingApprovalsCount :=
      (requestRows allDeals).countP fun row => row.1 ∈ dealIds ∧ row.2.status = .pending }

/-! ## The list -/

structure ReportDealItem where
  dealId : String
  reference : String
  odooOrderName : String
  partnerName : String
  ownerOdooUserId : ℤ
  salesTeamOdooId : Option ℤ
  status : DealStatus
  approvalState : ApprovalState
  currentRiskScore : Option ℚ
  currentSeverity : Option RiskSeverity
  amountTotal : ℚ
  orderDiscountPct : ℚ
  marginPct : ℚ
  createdAt : Timestamp
  sentAt : Option Timestamp
  confirmedAt : Option Timestamp
  deriving DecidableEq, Repr

structure ReportDealsResponse where
  items : List ReportDealItem := []
  total : ℕ := 0
  deriving DecidableEq, Repr

def ReportedDeal.item (d : ReportedDeal) : ReportDealItem :=
  { dealId := toString d.deal.id
    reference := d.deal.reference
    odooOrderName := d.deal.odooOrderName
    partnerName :=
      if d.deal.partnerNameCache ≠ "" then d.deal.partnerNameCache
      else s!"Partner #{d.deal.odooPartnerId}"
    ownerOdooUserId := d.deal.ownerOdooUserId
    salesTeamOdooId := d.salesTeamOdooId
    status := d.deal.status
    approvalState := d.deal.approvalState
    currentRiskScore := d.deal.currentRiskScore
    currentSeverity := d.deal.currentSeverity
    amountTotal := d.deal.amountTotalCache
    orderDiscountPct := d.deal.orderDiscountPct
    marginPct := d.deal.marginPctCache
    createdAt := d.deal.createdAt
    sentAt := d.deal.sentAt
    confirmedAt := d.deal.confirmedAt }

def getDealsReport (allDeals : List ReportedDeal) (filters : ReportFilters) : ReportDealsResponse :=
  let items := (getMatchingDeals allDeals filters).map (·.item)
  { items, total := items.length }

/-! ## The discounts of the representatives -/

structure RepDiscountPerformanceItem where
  repId : ℤ
  repName : String
  teamId : Option ℤ
  dealsCount : ℕ
  totalRevenue : ℚ
  avgWeightedDiscountPct : ℚ
  overageCount : ℕ
  overageFrequencyPct : ℚ
  anomalyCount : ℤ
  maxDiscountPct : ℚ
  deriving DecidableEq, Repr

structure ReportDiscountsResponse where
  repStats : List RepDiscountPerformanceItem := []
  companyAvgDiscountPct : ℚ := 0
  totalAnomalies : ℤ := 0
  totalOverages : ℕ := 0
  deriving DecidableEq, Repr

/-- The discount is more than what is looked on as usual. -/
def Deal.overage (d : Deal) : Bool := 10 < d.orderDiscountPct

/-- The average discount of a representative's deals, by their amounts where these come to
anything. -/
def avgWeightedDiscount (deals : List Deal) : ℚ :=
  let totRev := (deals.map (·.amountTotalCache)).sum
  if 0 < totRev then
    roundTo 2 ((deals.map fun d => d.amountTotalCache * d.orderDiscountPct).sum / totRev)
  else averageOrZero (deals.map (·.orderDiscountPct))

/-- The representative an alert is counted for: the owner of its deal, unless the id is zero. -/
def alertOwner (dealOwnerMap : Dict ℕ ℤ) (alert : DealAlert) : Option ℤ :=
  givenId (dealOwnerMap.get alert.dealId)

/-- How many anomalies each representative has. -/
def anomalyCounts (deals : List Deal) (alerts : List DealAlert) : Dict ℤ ℤ :=
  let dealIds := deals.map (·.id)
  let dealOwnerMap : Dict ℕ ℤ :=
    deals.foldl (fun owners d => owners.set d.id d.ownerOdooUserId) .empty
  let found := alerts.filter fun alert => alert.dealId ∈ dealIds ∧ alert.type = .discountAnomaly
  (found.filterMap (alertOwner dealOwnerMap)).foldl Dict.increment .empty

def repItem (userNames : Dict ℤ String) (anomalies : Dict ℤ ℤ)
    (group : ℤ × List ReportedDeal) : RepDiscountPerformanceItem :=
  let deals := group.2.map (·.deal)
  let overageCount := deals.countP (·.overage)
  { repId := group.1
    repName := (userNames.get group.1).getD s!"Sales Rep #{group.1}"
    teamId := group.2.head?.bind (·.salesTeamOdooId)
    dealsCount := deals.length
    totalRevenue := (deals.map (·.amountTotalCache)).sum
    avgWeightedDiscountPct := avgWeightedDiscount deals
    overageCount
    overageFrequencyPct := shareRate overageCount deals.length
    anomalyCount := (anomalies.get group.1).getD 0
    maxDiscountPct := (deals.map (·.orderDiscountPct)).foldl max 0 }

def getDiscountsReport (allDeals : List ReportedDeal) (alerts : List DealAlert)
    (userNames : Dict ℤ String) (filters : ReportFilters) : ReportDiscountsResponse :=
  let deals := getMatchingDeals allDeals filters
  let repDeals := groupBy (fun d : ReportedDeal => d.deal.ownerOdooUserId) deals
  let anomalies := anomalyCounts (deals.map (·.deal)) alerts
  let repStats := repDeals.entries.map (repItem userNames anomalies)
  { repStats :=
      repStats.insertionSort fun x y => y.avgWeightedDiscountPct ≤ x.avgWeightedDiscountPct
    companyAvgDiscountPct :=
      averageOrZero (repDeals.flatten.map fun d : ReportedDeal => d.deal.orderDiscountPct)
    totalAnomalies := (anomalies.entries.map Prod.snd).sum
    totalOverages := (repStats.map (·.overageCount)).sum }

/-! ## The pipeline -/

/-- `list(DealStatus)` -/
def DealStatus.members : List DealStatus :=
  [.draft, .sent, .underNegotiation, .confirmed, .inFulfillment, .fulfilled, .invoiced, .paid,
    .cancelled, .expired]

/-- `list(RiskSeverity)` -/
def RiskSeverity.members : List RiskSeverity := [.low, .medium, .high]

structure PipelineStageItem where
  status : DealStatus
  count : ℕ := 0
  totalValue : ℚ := 0
  avgDiscountPct : ℚ := 0
  avgMarginPct : ℚ := 0
  deriving DecidableEq, Repr

structure RiskSeverityBreakdown where
  severity : RiskSeverity
  count : ℕ := 0
  totalValue : ℚ := 0
  avgRiskScore : ℚ := 0
  deriving DecidableEq, Repr

structure TopRiskFactorItem where
  factorType : RiskFactorType
  count : ℕ := 0
  avgContribution : ℚ := 0
  deriving DecidableEq, Repr

structure ReportPipelineResponse where
  pipelineFunnel : List PipelineStageItem := []
  riskDistribution : List RiskSeverityBreakdown := []
  topRiskFactors : List TopRiskFactorItem := []
  totalPipelineValue : ℚ := 0
  totalDealsCount : ℕ := 0
  deriving DecidableEq, Repr

def stageItem (statusGroups : Dict DealStatus (List Deal)) (st : DealStatus) : PipelineStageItem :=
  let deals := (statusGroups.get st).getD []
  { status := st
    count := deals.length
    totalValue := (deals.map (·.amountTotalCache)).sum
    avgDiscountPct := averageOrZero (deals.map (·.orderDiscountPct))
    avgMarginPct := averageOrZero (deals.map (·.marginPctCache)) }

/-- A deal that has no severity yet counts as low. -/
def Deal.reportedSeverity (d : Deal) : RiskSeverity := d.currentSeverity.getD .low

def severityItem (sevGroups : Dict RiskSeverity (List Deal)) (sev : RiskSeverity) :
    RiskSeverityBreakdown :=
  let deals := (sevGroups.get sev).getD []
  { severity := sev
    count := deals.length
    totalValue := (deals.map (·.amountTotalCache)).sum
    avgRiskScore := averageOrZero (deals.filterMap (·.currentRiskScore)) }

/-- The rows of the risk factors, each with the id of its deal. -/
def factorRows (deals : List ReportedDeal) : List (ℕ × RiskFactor) :=
  deals.flatMap fun d => d.factors.map fun f => (d.deal.id, f)

/-- The factors of the deals' current assessments. -/
def currentFactors (allDeals : List ReportedDeal) (deals : List Deal) : List RiskFactor :=
  let assessmentIds := deals.filterMap fun d => d.currentAssessmentId.map fun id => (d.id, id)
  ((factorRows allDeals).filter fun row =>
    assessmentIds.contains (row.1, row.2.riskAssessmentId)).map Prod.snd

def topRiskFactors (factors : List RiskFactor) : List TopRiskFactorItem :=
  let items := (groupBy (·.factorType) factors).entries.map fun group =>
    ({ factorType := group.1
       count := group.2.length
       avgContribution := averageOrZero (group.2.map (·.contribution)) } : TopRiskFactorItem)
  items.insertionSort fun x y => y.count ≤ x.count

def getPipelineReport (allDeals : List ReportedDeal) (filters : ReportFilters) :
    ReportPipelineResponse :=
  let deals := (getMatchingDeals allDeals filters).map (·.deal)
  let statusGroups := groupBy (·.status) deals
  let sevGroups := groupBy (·.reportedSeverity) deals
  { pipelineFunnel := DealStatus.members.map (stageItem statusGroups)
    riskDistribution := RiskSeverity.members.map (severityItem sevGroups)
    topRiskFactors := topRiskFactors (currentFactors allDeals deals)
    totalPipelineValue := (deals.map (·.amountTotalCache)).sum
    totalDealsCount := deals.length }

/-! ## Billing -/

/-- What the report reads of an invoice. -/
structure BilledInvoice where
  amountTotal : ℚ := 0
  amountPaid : ℚ := 0
  amountResidual : ℚ := 0
  isOverdue : Bool := false
  deriving DecidableEq, Repr

structure BilledSubscription where
  state : String
  recurringTotal : ℚ := 0
  deriving DecidableEq, Repr

/-- What a gateway answers of the billing of an order, as far as the report reads it. -/
structure RawBillingSummary where
  invoices : List BilledInvoice := []
  subscriptions : List BilledSubscription := []
  deriving DecidableEq, Repr

structure ReportBillingResponse where
  totalInvoiced : ℚ := 0
  totalPaid : ℚ := 0
  totalOutstanding : ℚ := 0
  overdueAmount : ℚ := 0
  overdueCount : ℕ := 0
  mrr : ℚ := 0
  activeSubscriptionsCount : ℕ := 0
  totalCreditNotesAmount : ℚ := 0
  creditNotesCount : ℕ := 0
  deriving DecidableEq, Repr

def addInvoice (report : ReportBillingResponse) (inv : BilledInvoice) : ReportBillingResponse :=
  { report with
    totalInvoiced := report.totalInvoiced + inv.amountTotal
    totalPaid := report.totalPaid + inv.amountPaid
    totalOutstanding := report.totalOutstanding + inv.amountResidual
    overdueAmount :=
      if inv.isOverdue then report.overdueAmount + inv.amountResidual else report.overdueAmount
    overdueCount := if inv.isOverdue then report.overdueCount + 1 else report.overdueCount }

def addSubscription (report : ReportBillingResponse) (sub : BilledSubscription) :
    ReportBillingResponse :=
  if sub.state ∈ ["in_progress", "active"] then
    { report with
      mrr := report.mrr + sub.recurringTotal
      activeSubscriptionsCount := report.activeSubscriptionsCount + 1 }
  else report

/-- A deal whose billing the gateway cannot tell is passed over. -/
def addSummary (getBillingSummary : ℤ → Except OdooError RawBillingSummary)
    (report : ReportBillingResponse) (d : Deal) : ReportBillingResponse :=
  match getBillingSummary d.odooSaleOrderId with
  | .error _ => report
  | .ok summary =>
      summary.subscriptions.foldl addSubscription (summary.invoices.foldl addInvoice report)

/-- Without a gateway the whole amount of a deal counts as invoiced, and as paid or outstanding, by
its status. -/
def addInvoicedCache (report : ReportBillingResponse) (d : Deal) : ReportBillingResponse :=
  if d.status = .invoiced ∨ d.status = .paid then
    { report with
      totalInvoiced := report.totalInvoiced + d.amountTotalCache
      totalPaid :=
        if d.status = .paid then report.totalPaid + d.amountTotalCache else report.totalPaid
      totalOutstanding :=
        if d.status = .paid then report.totalOutstanding
        else report.totalOutstanding + d.amountTotalCache }
  else report

def addDealCache (report : ReportBillingResponse) (d : Deal) : ReportBillingResponse :=
  let invoiced := addInvoicedCache report d
  if 0 < d.recurringFirstCycleTotalCache then
    { invoiced with
      mrr := invoiced.mrr + d.recurringFirstCycleTotalCache
      activeSubscriptionsCount := invoiced.activeSubscriptionsCount + 1 }
  else invoiced

def getBillingReport (gateway : Option (ℤ → Except OdooError RawBillingSummary))
    (allDeals : List ReportedDeal) (filters : ReportFilters) : ReportBillingResponse :=
  let deals := (getMatchingDeals allDeals filters).map (·.deal)
  match gateway with
  | some getBillingSummary => deals.foldl (addSummary getBillingSummary) {}
  | none => deals.foldl addDealCache {}

end DealFlow
