import DealFlow.Models.Store
import DealFlow.Lib.Rounding
import DealFlow.Lib.Table
import Mathlib.Data.List.Sort
import Mathlib.Data.Nat.Sqrt

/-!
# Discount baselines

`calculate_rep_discount_baseline` of `app/services/health_service.py` over the rows of all deals,
and the weighted discount `detect_deal_discount_anomaly` holds against it.  The baseline of a rep is
taken from the deals of the rep with the latest activity, from those of the team where the rep has
too few, and from those of the company where the team has too few as well.

The row of `RepDiscountStats` it keeps for the reports is not here.
-/

namespace DealFlow

open Lib

/-- A deal as the alert detectors see it. -/
structure DealRow where
  status : DealStatus
  odooSaleOrderId : ℤ
  ownerOdooUserId : ℤ
  salesTeamOdooId : Option ℤ := none
  odooCompanyId : ℤ := 1
  currentAssessmentId : Option ℕ := none
  orderDiscountPct : ℚ := 0
  promisedDeliveryDate : Option Timestamp := none
  lastActivityAt : Timestamp
  deriving DecidableEq, Repr

inductive BaselineSource
  | rep | team | company
  deriving DecidableEq, Repr

/-- The line snapshots of the risk assessments, by assessment. -/
abbrev Snapshots := ℕ → Option (List LineSnapshot)

/-- The discount of a deal: that of the lines of its current assessment by their list value, or of
the order where there are none. -/
def weightedDiscount (snapshots : Snapshots) (d : DealRow) : ℚ :=
  match (d.currentAssessmentId.bind snapshots).getD [] with
  | [] => d.orderDiscountPct
  | item :: items =>
      let lines := item :: items
      let totalList := (lines.map fun i => i.priceUnit * i.qty).sum
      let weightedSum := (lines.map fun i => i.priceUnit * i.qty * i.discountPct).sum
      if totalList > 0 then quantize 2 (weightedSum / totalList) else d.orderDiscountPct

def eligibleStatuses : List DealStatus :=
  [.sent, .underNegotiation, .confirmed, .inFulfillment, .fulfilled, .invoiced, .paid]

/-- The eligible deals of a group with the latest activity. -/
def latestDeals (deals : Table DealRow) (window : ℕ) (group : DealRow → Bool) : List DealRow :=
  ((((deals.entries.map Prod.snd).filter fun d => group d ∧ d.status ∈ eligibleStatuses)
    ).insertionSort fun a b => b.lastActivityAt ≤ a.lastActivityAt).take window

/-- The deals of a rep's baseline, and whose they are. -/
def sampleDeals (deals : Table DealRow) (odooUserId : ℤ) (salesTeamId : Option ℤ)
    (odooCompanyId : ℤ) (window minSample : ℕ) : BaselineSource × List DealRow :=
  let repDeals := latestDeals deals window fun d => d.ownerOdooUserId = odooUserId
  if repDeals.length < minSample then
    match salesTeamId with
    | none => (.rep, repDeals)
    | some team =>
        let teamDeals := latestDeals deals window fun d => d.salesTeamOdooId = some team
        if teamDeals.length ≥ minSample then (.team, teamDeals)
        else (.company, latestDeals deals window fun d => d.odooCompanyId = odooCompanyId)
  else (.rep, repDeals)

/-- The square root to two places. -/
def sqrtTwoPlaces (v : ℚ) : ℚ :=
  ((Nat.sqrt ⌊40000 * v⌋₊ + 1) / 2 : ℕ) / 100

structure DiscountBaseline where
  avg : ℚ
  stddev : ℚ
  source : BaselineSource
  sampleSize : ℕ
  deriving DecidableEq, Repr

def calculateRepDiscountBaseline (deals : Table DealRow) (snapshots : Snapshots)
    (odooUserId : ℤ) (salesTeamId : Option ℤ) (odooCompanyId : ℤ) (window : ℕ := 20)
    (minSample : ℕ := 3) : DiscountBaseline :=
  let (source, sample) :=
    sampleDeals deals odooUserId salesTeamId odooCompanyId window minSample
  let sampleSize := sample.length
  if sampleSize = 0 then { avg := 0, stddev := 0, source, sampleSize := 0 }
  else
    let discounts := sample.map (weightedDiscount snapshots)
    let avg := quantize 2 (discounts.sum / sampleSize)
    let stddev :=
      if sampleSize > 1 then
        sqrtTwoPlaces ((discounts.map fun x => (x - avg) ^ 2).sum / (sampleSize - 1))
      else 0
    { avg, stddev, source, sampleSize }

end DealFlow
