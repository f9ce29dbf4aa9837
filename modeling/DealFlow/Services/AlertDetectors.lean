import DealFlow.Services.DiscountBaseline

/-!
# Deal alerts

The alert detectors of `app/services/health_service.py`, `recompute_all_alerts` and the two actions
users take on an alert, over the rows of all deals and alerts.  Each detector comes to a verdict on
a deal: to raise its alert, to clear it, or neither.  `settle` carries a verdict out, and does so in
the same way for all three: it looks for the open alert of the deal and the type, updates or
resolves that, or inserts one.  An alert that is inserted or resolved is recorded in the audit log,
which marks the deal as active.

Titles and details are kept as what is printed into them.  A picking's schedule is the time its text
denotes, if it denotes one.
-/

namespace DealFlow

open Lib

inductive AlertType
  | stalledDeal | discountAnomaly | deliverySlippage | approvalDelay
  deriving DecidableEq, Repr

inductive AlertStatus
  | «open» | acknowledged | resolved
  deriving DecidableEq, Repr

inductive AlertTitle
  /-- "Deal stalled for … days without activity" -/
  | stalled (ageDays : ℚ)
  /-- "Delivery promised for … is … days overdue" -/
  | promised (date : Timestamp) (daysLate : ℚ)
  /-- "Picking #… scheduled for … is … days overdue" -/
  | picking (id : ℤ) (date : Timestamp) (daysLate : ℚ)
  /-- "Discount anomaly: …% exceeds … baseline …%" -/
  | anomaly (weightedDiscount : ℚ) (source : BaselineSource) (avg : ℚ)
  deriving DecidableEq, Repr

inductive AlertDetail
  | stalled (daysSinceActivity : ℚ) (stalledThreshold : ℤ) (lastActivityAt : Timestamp)
  | slippage (daysLate : ℚ) (promisedDeliveryDate : Option Timestamp)
  | anomaly (quoteDiscount repAvg repStd threshold : ℚ) (sampleSize : ℕ)
      (baselineSource : BaselineSource)
  deriving DecidableEq, Repr

structure DealAlert where
  dealId : ℕ
  type : AlertType
  severity : RiskSeverity
  status : AlertStatus
  title : AlertTitle
  detail : AlertDetail
  raisedAt : Timestamp
  acknowledgedBy : Option ℤ := none
  acknowledgedAt : Option Timestamp := none
  resolvedAt : Option Timestamp := none
  deriving DecidableEq, Repr

/-- The alert is an open one of the deal and the type. -/
def DealAlert.isOpen (dealId : ℕ) (type : AlertType) (a : DealAlert) : Bool :=
  a.dealId = dealId ∧ a.type = type ∧ a.status = .open

inductive AlertEventType
  | alertRaised | alertResolved
  deriving DecidableEq, Repr

inductive AlertReason
  | title (title : AlertTitle)
  | text (text : String)
  deriving DecidableEq, Repr

/-- An audit event about an alert. -/
structure AlertEvent where
  eventType : AlertEventType
  alertId : ℕ
  dealId : ℕ
  actorType : String := "SYSTEM"
  actorId : Option ℤ := none
  reason : AlertReason
  createdAt : Timestamp
  deriving DecidableEq, Repr

structure AlertDb where
  deals : Table DealRow
  snapshots : Snapshots := fun _ => none
  alerts : Table DealAlert := .empty
  auditEvents : List AlertEvent := []

namespace AlertDb

/-- `audit_service.record_audit_event` for a deal.  It marks the deal as active whatever the event
is and whoever acts. -/
def recordAuditEvent (db : AlertDb) (event : AlertEvent) : AlertDb :=
  { db with
    auditEvents := db.auditEvents ++ [event]
    deals := db.deals.modify [event.dealId] fun d =>
      { d with lastActivityAt := event.createdAt } }

/-- The first open alert of a deal and a type. -/
def openAlert (db : AlertDb) (dealId : ℕ) (type : AlertType) : Option (ℕ × DealAlert) :=
  db.alerts.entries.find? fun entry => entry.2.isOpen dealId type

def updateAlert (db : AlertDb) (id : ℕ) (f : DealAlert → DealAlert) : AlertDb :=
  { db with alerts := db.alerts.modify [id] f }

/-- An open alert of the deal is resolved by a detector. -/
def autoResolve (db : AlertDb) (now : Timestamp) (id dealId : ℕ) (reason : String) : AlertDb :=
  (db.updateAlert id fun a => { a with status := .resolved, resolvedAt := some now }
    ).recordAuditEvent
      { eventType := .alertResolved, alertId := id, dealId, reason := .text reason,
        createdAt := now }

end AlertDb

/-- What a detector makes of a deal. -/
inductive AlertVerdict
  | raise (severity : RiskSeverity) (title : AlertTitle) (detail : AlertDetail)
  | clear (reason : String)
  | leave
  deriving DecidableEq, Repr

/-- A verdict on a deal carried out, and the alert that stands where the verdict is to raise one. -/
def AlertDb.settle (db : AlertDb) (now : Timestamp) (dealId : ℕ) (type : AlertType) :
    AlertVerdict → AlertDb × Option ℕ
  | .raise severity title detail =>
      match db.openAlert dealId type with
      | some (id, _) => (db.updateAlert id fun a => { a with severity, title, detail }, some id)
      | none =>
          let alert : DealAlert :=
            { dealId, type, severity, status := .open, title, detail, raisedAt := now }
          let id := db.alerts.next
          (({ db with alerts := db.alerts.insert alert }).recordAuditEvent
            { eventType := .alertRaised, alertId := id, dealId, reason := .title title,
              createdAt := now }, some id)
  | .clear reason =>
      match db.openAlert dealId type with
      | some (id, _) => (db.autoResolve now id dealId reason, none)
      | none => (db, none)
  | .leave => (db, none)

/-- A detector carried over a list of deals, and what it gives back for each where it does. -/
def sweep {α : Type} (detect : AlertDb → ℕ → AlertDb × Option α) :
    List ℕ → AlertDb → AlertDb × List α
  | [], db => (db, [])
  | dealId :: dealIds, db =>
      let (db, found) := detect db dealId
      let (db, others) := sweep detect dealIds db
      (db, found.toList ++ others)

/-- The deals with one of the statuses. -/
def AlertDb.dealsIn (db : AlertDb) (statuses : List DealStatus) : List ℕ :=
  (db.deals.entries.filter fun entry => entry.2.status ∈ statuses).map Prod.fst

/-- The days between two times, to two places. -/
def daysBetween (start finish : Timestamp) : ℚ :=
  quantize 2 (max 0 (((finish - start : ℤ) : ℚ) / 86400))

/-! ## Stalled deals -/

def stalledVerdict (now : Timestamp) (stalledDays : ℤ) (d : DealRow) : AlertVerdict :=
  let ageDays := daysBetween d.lastActivityAt now
  if ageDays ≥ stalledDays then
    let severity : RiskSeverity :=
      if ageDays < 2 * stalledDays then .low
      else if ageDays < 4 * stalledDays then .medium
      else .high
    .raise severity (.stalled ageDays) (.stalled ageDays stalledDays d.lastActivityAt)
  else .clear "Deal activity resumed."

def detectStalledDeal (now : Timestamp) (stalledDays : ℤ) (db : AlertDb) (dealId : ℕ) :
    AlertDb × Option ℕ :=
  match db.deals.row dealId with
  | none => (db, none)
  | some d => db.settle now dealId .stalledDeal (stalledVerdict now stalledDays d)

def stallingStatuses : List DealStatus :=
  [.draft, .sent, .underNegotiation]

def terminalStatuses : List DealStatus :=
  [.confirmed, .inFulfillment, .fulfilled, .invoiced, .paid, .cancelled, .expired]

/-- The open stalled alerts of deals that got to a terminal status, with their deals. -/
def AlertDb.terminalAlerts (db : AlertDb) : List (ℕ × ℕ) :=
  (db.alerts.entries.filter fun entry =>
    (db.deals.row entry.2.dealId).any (fun d => d.status ∈ terminalStatuses) = true ∧
      entry.2.type = .stalledDeal ∧ entry.2.status = .open).map
    fun entry => (entry.1, entry.2.dealId)

def resolveTerminal (now : Timestamp) (db : AlertDb) (alert : ℕ × ℕ) : AlertDb :=
  db.autoResolve now alert.1 alert.2 "Deal transitioned to confirmed/terminal status."

/-- The alerts raised, after the pass. -/
def detectStalledDeals (now : Timestamp) (db : AlertDb) (stalledDays : ℤ := 7) :
    AlertDb × List ℕ :=
  let (db, raised) :=
    sweep (detectStalledDeal now stalledDays) (db.dealsIn stallingStatuses) db
  (db.terminalAlerts.foldl (resolveTerminal now) db, raised)

/-! ## Delivery slippages -/

structure PickingSchedule where
  id : ℤ
  state : String
  scheduledDate : Option Timestamp
  deriving DecidableEq, Repr

/-- The pickings of an order, where the gateway gives them. -/
abbrev PickingReader := ℤ → Option (List PickingSchedule)

/-- How late a delivery is found to be and what says so, where it is late. -/
abbrev Slippage := Option (ℚ × AlertTitle)

def Slippage.daysLate (s : Slippage) : ℚ :=
  s.elim 0 Prod.fst

def promisedSlippage (now : Timestamp) (graceDays : ℤ) (promised : Option Timestamp) : Slippage :=
  match promised with
  | none => none
  | some date =>
      let deadline := date + graceDays * 86400
      if now > deadline then
        let daysLate := quantize 2 (((now - deadline : ℤ) : ℚ) / 86400)
        some (daysLate, .promised date daysLate)
      else none

/-- A picking that is later than what has been found so far takes its place. -/
def pickingSlippage (now : Timestamp) (s : Slippage) (p : PickingSchedule) : Slippage :=
  if p.state = "done" ∨ p.state = "cancel" then s
  else
    match p.scheduledDate with
    | none => s
    | some date =>
        let late := quantize 2 (((now - date : ℤ) : ℚ) / 86400)
        if now > date ∧ late > s.daysLate then some (late, .picking p.id date late) else s

def slippageOf (now : Timestamp) (pickings : PickingReader) (graceDays : ℤ) (d : DealRow) :
    Slippage :=
  ((pickings d.odooSaleOrderId).getD []).foldl (pickingSlippage now)
    (promisedSlippage now graceDays d.promisedDeliveryDate)

def slippageVerdict (now : Timestamp) (pickings : PickingReader) (graceDays : ℤ) (d : DealRow) :
    AlertVerdict :=
  match slippageOf now pickings graceDays d with
  | some (daysLate, title) =>
      .raise (if daysLate > 3 then .high else .medium) title
        (.slippage daysLate d.promisedDeliveryDate)
  | none => .clear "Shipment delivered or slippage cleared."

def detectDeliverySlippage (now : Timestamp) (pickings : PickingReader) (graceDays : ℤ)
    (db : AlertDb) (dealId : ℕ) : AlertDb × Option ℕ :=
  match db.deals.row dealId with
  | none => (db, none)
  | some d => db.settle now dealId .deliverySlippage (slippageVerdict now pickings graceDays d)

def monitoredStatuses : List DealStatus :=
  [.confirmed, .inFulfillment]

def detectDeliverySlippages (now : Timestamp) (pickings : PickingReader) (db : AlertDb)
    (graceDays : ℤ := 0) : AlertDb × List ℕ :=
  sweep (detectDeliverySlippage now pickings graceDays) (db.dealsIn monitoredStatuses) db

/-! ## Discount anomalies -/

/-- The verdict on a deal, by the rows of all deals there are. -/
def anomalyVerdict (deals : Table DealRow) (snapshots : Snapshots) (d : DealRow)
    (minSample : ℕ := 3) : AlertVerdict :=
  let discount := weightedDiscount snapshots d
  let base := calculateRepDiscountBaseline deals snapshots d.ownerOdooUserId d.salesTeamOdooId
    d.odooCompanyId 20 minSample
  if base.sampleSize < minSample then .leave
  else
    let threshold := quantize 2 (max (base.avg * (3 / 2)) (base.avg + 5))
    if discount ≥ 10 ∧ discount > threshold then
      .raise (if discount > base.avg + 2 * base.stddev then .high else .medium)
        (.anomaly discount base.source base.avg)
        (.anomaly discount base.avg base.stddev threshold base.sampleSize base.source)
    else .clear "Discount anomaly condition cleared."

def detectDealDiscountAnomaly (now : Timestamp) (db : AlertDb) (dealId : ℕ) :
    AlertDb × Option RiskSeverity :=
  match db.deals.row dealId with
  | none => (db, none)
  | some d =>
      let verdict := anomalyVerdict db.deals db.snapshots d
      ((db.settle now dealId .discountAnomaly verdict).1,
        match verdict with
        | .raise severity _ _ => some severity
        | _ => none)

/-! ## All detectors -/

structure RecomputeAlertsResponse where
  scannedDeals : ℕ
  stalledAlerts : ℕ
  anomalyAlerts : ℕ
  slippageAlerts : ℕ
  message : String := "All alert detectors evaluated successfully."
  deriving DecidableEq, Repr

def anomalyStatuses : List DealStatus :=
  [.draft, .sent, .underNegotiation, .confirmed]

def recomputeAllAlerts (now : Timestamp) (pickings : PickingReader) (db : AlertDb) :
    AlertDb × RecomputeAlertsResponse :=
  let (db, stalled) := detectStalledDeals now db
  let (db, slippage) := detectDeliverySlippages now pickings db
  let activeDeals := db.dealsIn anomalyStatuses
  let (db, anomalies) := sweep (detectDealDiscountAnomaly now) activeDeals db
  (db,
    { scannedDeals := activeDeals.length
      stalledAlerts := stalled.length
      anomalyAlerts := anomalies.length
      slippageAlerts := slippage.length })

/-! ## What users do with an alert -/

/-- `none` where there is no such alert. -/
def acknowledgeAlert (now : Timestamp) (alertId : ℕ) (userId : ℤ) (db : AlertDb) :
    Option AlertDb :=
  match db.alerts.row alertId with
  | none => none
  | some _ =>
      some (db.updateAlert alertId fun a =>
        { a with
          status := .acknowledged
          acknowledgedBy := some userId
          acknowledgedAt := some now })

/-- `none` where there is no such alert. -/
def resolveAlert (now : Timestamp) (alertId : ℕ) (userId : ℤ) (db : AlertDb) : Option AlertDb :=
  match db.alerts.row alertId with
  | none => none
  | some alert =>
      some ((db.updateAlert alertId fun a => { a with status := .resolved, resolvedAt := some now }
        ).recordAuditEvent
          { eventType := .alertResolved, alertId, dealId := alert.dealId, actorType := "USER",
            actorId := some userId, reason := .text "Alert manually resolved by user.",
            createdAt := now })

/-- What happens to the alerts.  Between two of their operations the deals may change in any way. -/
inductive AlertOp
  | detectStalled (now : Timestamp) (stalledDays : ℤ)
  | detectSlippages (now : Timestamp) (pickings : PickingReader) (graceDays : ℤ)
  | detectAnomaly (now : Timestamp) (dealId : ℕ)
  | recompute (now : Timestamp) (pickings : PickingReader)
  | acknowledge (now : Timestamp) (alertId : ℕ) (userId : ℤ)
  | resolve (now : Timestamp) (alertId : ℕ) (userId : ℤ)
  | changeDeals (deals : Table DealRow) (snapshots : Snapshots)

def AlertOp.step : AlertOp → AlertDb → AlertDb
  | .detectStalled now stalledDays, db => (detectStalledDeals now db stalledDays).1
  | .detectSlippages now pickings graceDays, db =>
      (detectDeliverySlippages now pickings db graceDays).1
  | .detectAnomaly now dealId, db => (detectDealDiscountAnomaly now db dealId).1
  | .recompute now pickings, db => (recomputeAllAlerts now pickings db).1
  | .acknowledge now alertId userId, db => (acknowledgeAlert now alertId userId db).getD db
  | .resolve now alertId userId, db => (resolveAlert now alertId userId db).getD db
  | .changeDeals deals snapshots, db => { db with deals, snapshots }

end DealFlow
