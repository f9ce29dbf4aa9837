import DealFlow.Services.DealReports

/-!
# The reports agree

Whatever the filters, the summary, the list, the pipeline and the discounts report are about the
same deals: their counts and their amounts are the same, and whichever way a report breaks them
down, by status, by severity or by representative, each deal is counted in one place
(`reports_agree`).
-/

namespace DealFlow

open Lib

/-! ## Sums over groups -/

theorem sum_map_one {β : Type} (rows : List β) : (rows.map fun _ => 1).sum = rows.length := by
  simp

theorem sum_map_ite_one {β : Type} (p : β → Bool) (rows : List β) :
    (rows.map fun b => if p b then 1 else 0).sum = rows.countP p := by
  induction rows with
  | nil => rfl
  | cons b rows ih =>
      rw [List.map_cons, List.sum_cons, ih, List.countP_cons, Nat.add_comm]

theorem sum_length_fibers {β κ : Type} [DecidableEq κ] {key : β → κ} {keys : List κ}
    (distinct : keys.Nodup) {rows : List β} (known : ∀ b ∈ rows, key b ∈ keys) :
    (keys.map fun k => (rows.filter fun b => key b = k).length).sum = rows.length := by
  have ones := sum_fibers key distinct (fun _ => 1) known
  simpa only [sum_map_one] using ones

/-- The values of a dictionary added up along keys among which its own are. -/
theorem sum_getD_of_subset {κ : Type} [DecidableEq κ] {d : Dict κ ℤ} {keys : List κ}
    (distinct : keys.Nodup) (known : ∀ k ∈ d.keys, k ∈ keys) :
    (keys.map fun k => (d.get k).getD 0).sum = (d.entries.map Prod.snd).sum := by
  have fibers := sum_fibers Prod.fst distinct (Prod.snd : κ × ℤ → ℤ)
    fun entry (mem : entry ∈ d.entries) => known _ (List.mem_map_of_mem mem)
  have value : ∀ k, ((d.entries.filter fun entry => entry.1 = k).map Prod.snd).sum =
      (d.get k).getD 0 := by
    intro k
    cases found : d.get k with
    | none =>
        have absent := Dict.get_eq_none.mp found
        rw [List.filter_eq_nil_iff.mpr]
        · rfl
        · intro entry mem same
          exact absent (of_decide_eq_true same ▸ List.mem_map_of_mem mem)
    | some n =>
        obtain ⟨before, after, split, -⟩ := Dict.entries_set_of_get found n
        have once := d.nodup
        rw [split, List.map_append, List.map_cons, List.nodup_middle, List.nodup_cons,
          List.mem_append, not_or] at once
        have none : ∀ entries : List (κ × ℤ), k ∉ entries.map Prod.fst →
            (entries.filter fun entry => entry.1 = k) = [] := by
          intro entries absent
          refine List.filter_eq_nil_iff.mpr fun entry mem same => absent ?_
          exact of_decide_eq_true same ▸ List.mem_map_of_mem mem
        rw [split, List.filter_append, List.filter_cons_of_pos (by simp), none _ once.1.1,
          none _ once.1.2]
        simp
  rw [← fibers]
  exact congrArg List.sum (List.map_congr_left fun k _ => (value k).symm)

/-- An average does not depend on the order. -/
theorem averageOrZero_perm {xs ys : List ℚ} (perm : xs.Perm ys) :
    averageOrZero xs = averageOrZero ys := by
  unfold averageOrZero averageOf
  rw [perm.sum_eq, perm.length_eq]
  by_cases empty : xs = []
  · rw [if_pos empty, if_pos (List.nil_perm.mp (empty ▸ perm))]
  · rw [if_neg empty, if_neg fun nil : ys = [] => empty (List.perm_nil.mp (nil ▸ perm))]

/-! ## The pipeline -/

variable (allDeals : List ReportedDeal) (filters : ReportFilters)

theorem DealStatus.mem_members (st : DealStatus) : st ∈ DealStatus.members := by
  cases st <;> decide

theorem RiskSeverity.mem_members (sev : RiskSeverity) : sev ∈ RiskSeverity.members := by
  cases sev <;> decide

theorem funnel_totals :
    let report := getPipelineReport allDeals filters
    (report.pipelineFunnel.map (·.count)).sum = report.totalDealsCount ∧
      (report.pipelineFunnel.map (·.totalValue)).sum = report.totalPipelineValue := by
  dsimp only [getPipelineReport]
  rw [List.map_map, List.map_map]
  have distinct : DealStatus.members.Nodup := by decide
  constructor
  · simp only [Function.comp_def, stageItem, getD_groupBy]
    exact sum_length_fibers distinct fun d _ => d.status.mem_members
  · simp only [Function.comp_def, stageItem, getD_groupBy]
    exact sum_fibers _ distinct (fun d : Deal => d.amountTotalCache) fun d _ => d.status.mem_members

theorem severity_totals :
    let report := getPipelineReport allDeals filters
    (report.riskDistribution.map (·.count)).sum = report.totalDealsCount ∧
      (report.riskDistribution.map (·.totalValue)).sum = report.totalPipelineValue := by
  dsimp only [getPipelineReport]
  rw [List.map_map, List.map_map]
  have distinct : RiskSeverity.members.Nodup := by decide
  constructor
  · simp only [Function.comp_def, severityItem, getD_groupBy]
    exact sum_length_fibers distinct fun d _ => d.reportedSeverity.mem_members
  · simp only [Function.comp_def, severityItem, getD_groupBy]
    exact sum_fibers _ distinct (fun d : Deal => d.amountTotalCache)
      fun d _ => d.reportedSeverity.mem_members

/-! ## The discounts -/

variable (alerts : List DealAlert) (userNames : Dict ℤ String)

/-- An anomaly is counted for the owner of a deal of the report. -/
theorem anomalyCounts_keys (deals : List Deal) {rep : ℤ}
    (counted : rep ∈ (anomalyCounts deals alerts).keys) :
    rep ∈ deals.map (·.ownerOdooUserId) := by
  have found : (anomalyCounts deals alerts).get rep ≠ none := fun none =>
    Dict.get_eq_none.mp none counted
  unfold anomalyCounts at found
  dsimp only at found
  rw [Dict.get_foldl_increment, Dict.get_empty] at found
  split at found
  · next mem =>
      obtain ⟨alert, -, owner⟩ := List.mem_filterMap.mp mem
      obtain ⟨owned, -⟩ := Option.filter_eq_some_iff.mp owner
      have pairs : deals.foldl (fun owners d => owners.set d.id d.ownerOdooUserId) Dict.empty =
          Dict.empty.update (deals.map fun d => (d.id, d.ownerOdooUserId)) := by
        rw [Dict.update, List.foldl_map]
      rw [pairs, Dict.get_update, Dict.get_empty, Option.or_none] at owned
      obtain ⟨before, after, split, -⟩ := List.lookup_eq_some_iff.mp owned
      have listed : (alert.dealId, rep) ∈ deals.map fun d => (d.id, d.ownerOdooUserId) := by
        rw [← List.mem_reverse, split]
        exact List.mem_append_right _ List.mem_cons_self
      obtain ⟨d, memD, pair⟩ := List.mem_map.mp listed
      exact List.mem_map.mpr ⟨d, memD, congrArg Prod.snd pair⟩
  · exact absurd rfl found

/-- The representatives of the report: the owners of its deals, each once. -/
theorem mem_repDeals_keys (deals : List ReportedDeal) {rep : ℤ}
    (owner : rep ∈ (deals.map (·.deal)).map (·.ownerOdooUserId)) :
    rep ∈ (groupBy (fun d : ReportedDeal => d.deal.ownerOdooUserId) deals).keys := by
  obtain ⟨inner, memInner, rfl⟩ := List.mem_map.mp owner
  obtain ⟨d, mem, rfl⟩ := List.mem_map.mp memInner
  by_contra absent
  have found := getD_groupBy (fun d : ReportedDeal => d.deal.ownerOdooUserId) deals
    d.deal.ownerOdooUserId
  rw [Dict.get_eq_none.mpr absent, Option.getD_none] at found
  exact List.filter_eq_nil_iff.mp found.symm d mem (by simp)

/-- What the representatives' items come to, in whatever order they are listed. -/
theorem sum_repStats {M : Type} [AddCommMonoid M] (figure : RepDiscountPerformanceItem → M) :
    ((getDiscountsReport allDeals alerts userNames filters).repStats.map figure).sum =
      ((groupBy (fun d : ReportedDeal => d.deal.ownerOdooUserId)
        (getMatchingDeals allDeals filters)).entries.map fun group => figure (repItem userNames
          (anomalyCounts ((getMatchingDeals allDeals filters).map (·.deal)) alerts) group)).sum := by
  unfold getDiscountsReport
  dsimp only
  rw [((List.perm_insertionSort _ _).map figure).sum_eq, List.map_map]
  rfl

/-! ## Agreement -/

/-- The four reports are about the same deals, and each breakdown counts each deal once. -/
structure ReportsAgree (summary : ReportSummaryResponse) (list : ReportDealsResponse)
    (pipeline : ReportPipelineResponse) (discounts : ReportDiscountsResponse) : Prop where
  counts : summary.quotationsCreated = list.total ∧ pipeline.totalDealsCount = list.total
  value : pipeline.totalPipelineValue = (list.items.map (·.amountTotal)).sum
  byStatus : (pipeline.pipelineFunnel.map (·.count)).sum = list.total ∧
    (pipeline.pipelineFunnel.map (·.totalValue)).sum = pipeline.totalPipelineValue
  bySeverity : (pipeline.riskDistribution.map (·.count)).sum = list.total ∧
    (pipeline.riskDistribution.map (·.totalValue)).sum = pipeline.totalPipelineValue
  byRep : (discounts.repStats.map (·.dealsCount)).sum = list.total ∧
    (discounts.repStats.map (·.totalRevenue)).sum = pipeline.totalPipelineValue
  overages : discounts.totalOverages = (discounts.repStats.map (·.overageCount)).sum ∧
    discounts.totalOverages = list.items.countP fun item => 10 < item.orderDiscountPct
  anomalies : discounts.totalAnomalies = (discounts.repStats.map (·.anomalyCount)).sum
  average : discounts.companyAvgDiscountPct = summary.avgDiscount

theorem repStats_counts :
    let discounts := getDiscountsReport allDeals alerts userNames filters
    (discounts.repStats.map (·.dealsCount)).sum = (getMatchingDeals allDeals filters).length ∧
      (discounts.repStats.map (·.totalRevenue)).sum =
        ((getMatchingDeals allDeals filters).map (·.deal.amountTotalCache)).sum := by
  dsimp only
  rw [sum_repStats, sum_repStats]
  simp only [repItem, List.length_map, List.map_map, Function.comp_def]
  constructor
  · have ones := sum_groupBy (fun d : ReportedDeal => d.deal.ownerOdooUserId) (fun _ => 1)
      (getMatchingDeals allDeals filters)
    simpa only [sum_map_one] using ones
  · exact sum_groupBy _ (fun d : ReportedDeal => d.deal.amountTotalCache) _

theorem repStats_overages :
    let discounts := getDiscountsReport allDeals alerts userNames filters
    discounts.totalOverages = (discounts.repStats.map (·.overageCount)).sum ∧
      discounts.totalOverages =
        (getMatchingDeals allDeals filters).countP fun d => d.deal.overage := by
  have listed := sum_repStats allDeals filters alerts userNames (·.overageCount)
  have total : (getDiscountsReport allDeals alerts userNames filters).totalOverages =
      ((getDiscountsReport allDeals alerts userNames filters).repStats.map (·.overageCount)).sum := by
    rw [listed]
    unfold getDiscountsReport
    dsimp only
    rw [List.map_map]
    rfl
  refine ⟨total, ?_⟩
  rw [total, listed]
  have ones := sum_groupBy (fun d : ReportedDeal => d.deal.ownerOdooUserId)
    (fun d => if d.deal.overage then 1 else 0) (getMatchingDeals allDeals filters)
  simp only [sum_map_ite_one] at ones
  rw [← ones]
  simp only [repItem, List.countP_map, Function.comp_def]

theorem repStats_anomalies :
    let discounts := getDiscountsReport allDeals alerts userNames filters
    discounts.totalAnomalies = (discounts.repStats.map (·.anomalyCount)).sum := by
  dsimp only
  rw [sum_repStats]
  have subset := sum_getD_of_subset
    (groupBy (fun d : ReportedDeal => d.deal.ownerOdooUserId)
      (getMatchingDeals allDeals filters)).nodup
    fun rep counted => mem_repDeals_keys _ (anomalyCounts_keys alerts
      ((getMatchingDeals allDeals filters).map (·.deal)) counted)
  rw [List.map_map] at subset
  exact subset.symm

/-- Whatever the filters, the reports agree. -/
theorem reports_agree :
    ReportsAgree (getSummaryReport allDeals filters) (getDealsReport allDeals filters)
      (getPipelineReport allDeals filters)
      (getDiscountsReport allDeals alerts userNames filters) := by
  have total : (getDealsReport allDeals filters).total =
      (getMatchingDeals allDeals filters).length := List.length_map _
  have count : (getPipelineReport allDeals filters).totalDealsCount =
      (getDealsReport allDeals filters).total := by
    rw [total]
    exact List.length_map _
  have value : (getPipelineReport allDeals filters).totalPipelineValue =
      ((getMatchingDeals allDeals filters).map (·.deal.amountTotalCache)).sum := by
    unfold getPipelineReport
    dsimp only
    rw [List.map_map]
    rfl
  obtain ⟨repCount, repValue⟩ := repStats_counts allDeals filters alerts userNames
  obtain ⟨repOverages, overages⟩ := repStats_overages allDeals filters alerts userNames
  constructor
  case counts => exact ⟨(List.length_map _).trans total.symm, count⟩
  case value =>
    rw [value, getDealsReport, List.map_map]
    rfl
  case byStatus =>
    rw [← count]
    exact funnel_totals allDeals filters
  case bySeverity =>
    rw [← count]
    exact severity_totals allDeals filters
  case byRep => exact ⟨repCount.trans total.symm, repValue.trans value.symm⟩
  case overages =>
    refine ⟨repOverages, overages.trans ?_⟩
    rw [getDealsReport, List.countP_map]
    rfl
  case anomalies => exact repStats_anomalies allDeals filters alerts userNames
  case average =>
    unfold getDiscountsReport getSummaryReport
    dsimp only
    rw [List.map_map]
    exact averageOrZero_perm ((flatten_groupBy _ _).map _)

end DealFlow
