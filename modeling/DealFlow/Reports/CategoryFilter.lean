import DealFlow.Governance.Runs
import DealFlow.Governance.Terms
import DealFlow.Services.ReportService

/-!
# What reports read of a line snapshot

An evaluation stores the product of each line and a report finds it (`productMatches_json`).  A
report looks for the category of a line and for its category path as well, and an evaluation stores
neither, so a category filter leaves out every deal (`categoryMatches_json`).
-/

namespace DealFlow

open Lib

/-- The line belongs to the category, itself or through its category path. -/
def RawOrderLine.BelongsTo (categoryPath : RawOrderLine → List ℤ) (categoryId : ℤ)
    (l : RawOrderLine) : Prop :=
  l.categoryId = categoryId ∨ categoryId ∈ categoryPath l

section Keys

variable (l : LineSnapshot)

theorem json_product : l.json.get "product_id" = some (.int l.productId) := by
  simp [LineSnapshot.json, Dict.get]

theorem json_noCategory : l.json.get "category_id" = none := by
  simp [LineSnapshot.json, Dict.get]

theorem json_noCategoryPath : l.json.get "category_path" = none := by
  simp [LineSnapshot.json, Dict.get]

theorem productMatches_json (pid : ℤ) : productMatches pid l.json = decide (l.productId = pid) := by
  unfold productMatches
  rw [json_product]
  simp

theorem categoryMatches_json (cid : ℤ) : categoryMatches cid l.json = false := by
  unfold categoryMatches categoryPathOf
  rw [json_noCategory, json_noCategoryPath]
  simp

end Keys

/-- The snapshot of an evaluation has the lines of the order it read. -/
theorem evaluateDeal_lineSnapshot {σ : Type} {gateway : OdooGateway σ} {args : EvaluateArgs}
    {w evaluated : World σ} {raw : RawOrder} {response : EvaluationResponse}
    (read : (gateway.getSaleOrder w.db.deal.odooSaleOrderId w.odoo).1 = .ok raw)
    (assessed : evaluateDeal gateway args w = (.ok response, evaluated)) :
    response.riskAssessment.lineSnapshot.map (fun l => (l.lineId, l.productId)) =
      raw.lines.map fun l => (l.id, l.productId) := by
  unfold evaluateDeal at assessed
  cases built : buildDealContext gateway args.tables w.db.deal.odooSaleOrderId w.odoo with
  | mk result odoo =>
      rw [built] at assessed
      cases result with
      | error e => cases assessed
      | ok ctx =>
          cases assessed
          obtain ⟨raw', stock, read', rfl⟩ := buildDealContext_ok built
          cases Except.ok.inj (read.symm.trans read')
          dsimp only [newAssessment, dealContextOf]
          rw [List.map_map, List.map_map]
          rfl

section Reports

variable {deals : List ReportedDeal} {d : ReportedDeal} {filters : ReportFilters}

theorem mem_getMatchingDeals :
    d ∈ getMatchingDeals deals filters ↔
      d ∈ deals ∧ filters.admits d = true ∧
        ((givenId filters.productId).isSome = true ∨ (givenId filters.categoryId).isSome = true →
          filters.matchesSnapshot d = true) := by
  have sorted := (List.perm_insertionSort
    (fun d e : ReportedDeal => e.deal.createdAt ≤ d.deal.createdAt)
    (deals.filter filters.admits)).mem_iff (a := d)
  unfold getMatchingDeals
  dsimp only
  split
  · next given =>
      rw [List.mem_filter, sorted, List.mem_filter, and_assoc]
      exact and_congr_right fun _ => and_congr_right fun _ => ⟨fun h _ => h, fun h => h given⟩
  · next given =>
      rw [sorted, List.mem_filter]
      exact and_congr_right fun _ => ⟨fun h => ⟨h, fun some => absurd some given⟩, And.left⟩

theorem mem_lineSnapshot {line : Dict String JsonValue} (mem : line ∈ d.lineSnapshot) :
    ∃ ass l, d.currentAssessment = some ass ∧ l ∈ ass.lineSnapshot ∧ l.json = line := by
  unfold ReportedDeal.lineSnapshot at mem
  split at mem
  · cases mem
  · next ass current =>
      obtain ⟨l, memL, rfl⟩ := List.mem_map.mp mem
      exact ⟨ass, l, current, memL, rfl⟩

/-- No line of a snapshot is of a category for the reports. -/
theorem lineSnapshot_noCategory {line : Dict String JsonValue} (mem : line ∈ d.lineSnapshot)
    (cid : ℤ) : categoryMatches cid line = false := by
  obtain ⟨-, l, -, -, rfl⟩ := mem_lineSnapshot mem
  exact categoryMatches_json l cid

/-- A category filter leaves out every deal. -/
theorem mem_getMatchingDeals_category {categoryId : ℤ} (category : categoryId ≠ 0) :
    d ∉ getMatchingDeals deals { categoryId := some categoryId } := by
  rw [mem_getMatchingDeals]
  rintro ⟨-, -, matched⟩
  have given : givenId (some categoryId) = some categoryId :=
    Option.filter_eq_some_iff.mpr ⟨rfl, decide_eq_true category⟩
  obtain ⟨line, mem, found⟩ := List.any_eq_true.mp
    (matched (Or.inr (by rw [given]; rfl)))
  have unknown := lineSnapshot_noCategory mem categoryId
  simp [givenId, category, unknown] at found

/-- A product filter finds the deals with a line for the product. -/
theorem mem_getMatchingDeals_product {productId : ℤ} (product : productId ≠ 0)
    {ass : RiskAssessment} (current : d.currentAssessment = some ass) (mem : d ∈ deals) :
    d ∈ getMatchingDeals deals { productId := some productId } ↔
      ∃ l ∈ ass.lineSnapshot, l.productId = productId := by
  have given : givenId (some productId) = some productId :=
    Option.filter_eq_some_iff.mpr ⟨rfl, decide_eq_true product⟩
  have matched : ({ productId := some productId } : ReportFilters).matchesSnapshot d = true ↔
      ∃ l ∈ ass.lineSnapshot, l.productId = productId := by
    unfold ReportFilters.matchesSnapshot ReportedDeal.lineSnapshot
    rw [current]
    simp [product, productMatches_json, givenId]
  rw [mem_getMatchingDeals, ← matched]
  constructor
  · rintro ⟨-, -, found⟩
    exact found (Or.inl (by rw [given]; rfl))
  · intro found
    exact ⟨mem, rfl, fun _ => found⟩

end Reports

/-- A deal whose current assessment is of an order is found by a category filter just where some
line of the order belongs to the category, exactly if no line does. (Zero is no category, and takes
the place of a missing filter.) -/
theorem categoryFilter_iff {σ : Type} {gateway : OdooGateway σ} {args : EvaluateArgs}
    {w evaluated : World σ} {raw : RawOrder} {response : EvaluationResponse}
    (read : (gateway.getSaleOrder w.db.deal.odooSaleOrderId w.odoo).1 = .ok raw)
    (assessed : evaluateDeal gateway args w = (.ok response, evaluated))
    {d : ReportedDeal} (current : d.currentAssessment = some response.riskAssessment)
    {deals : List ReportedDeal} (mem : d ∈ deals) (categoryPath : RawOrderLine → List ℤ)
    (categoryId : ℤ) :
    (∀ productId ≠ 0, d ∈ getMatchingDeals deals { productId := some productId } ↔
        ∃ l ∈ raw.lines, l.productId = productId) ∧
      ((d ∈ getMatchingDeals deals { categoryId := some categoryId } ↔
          ∃ l ∈ raw.lines, l.BelongsTo categoryPath categoryId) ↔
        ((∃ l ∈ raw.lines, l.BelongsTo categoryPath categoryId) ↔ categoryId = 0)) := by
  constructor
  · intro productId product
    have same := congrArg (List.map Prod.snd) (evaluateDeal_lineSnapshot read assessed)
    rw [List.map_map, List.map_map] at same
    have products : productId ∈ response.riskAssessment.lineSnapshot.map (·.productId) ↔
        productId ∈ raw.lines.map (·.productId) := iff_of_eq (congrArg (productId ∈ ·) same)
    rw [mem_getMatchingDeals_product product current mem, ← List.mem_map, products, List.mem_map]
  · by_cases category : categoryId = 0
    · have included : d ∈ getMatchingDeals deals { categoryId := some categoryId } := by
        refine mem_getMatchingDeals.mpr ⟨mem, rfl, fun given => ?_⟩
        rw [category] at given
        exact absurd given (by decide)
      rw [iff_true_left included, iff_true_right category]
    · have excluded : d ∉ getMatchingDeals deals { categoryId := some categoryId } :=
        mem_getMatchingDeals_category category
      rw [iff_false_left excluded, iff_false_right category]

/-- The service deal as reports see it, evaluated. -/
def serviceReported : ReportedDeal where
  toDealStore :=
    (evaluateDeal fakeOdooGateway { tables := goldTables, now := 1 } serviceWorld).2.db

theorem serviceReported_otherCategory :
    ∃ raw, (fakeOdooGateway.getSaleOrder 101 serviceWorld.odoo).1 = .ok raw ∧
      (serviceReported ∈ getMatchingDeals [serviceReported] { categoryId := some 3 } ↔
        ∃ l ∈ raw.lines, l.BelongsTo (fun l => [l.categoryId]) 3) := by
  have read : (fakeOdooGateway.getSaleOrder serviceWorld.db.deal.odooSaleOrderId
      serviceWorld.odoo).1 = .ok _ := rfl
  have assessed : evaluateDeal fakeOdooGateway { tables := goldTables, now := 1 } serviceWorld =
      (.ok _, _) := rfl
  refine ⟨_, rfl, (categoryFilter_iff read assessed (by decide +kernel)
    (List.mem_singleton_self serviceReported) _ 3).2.mpr (iff_of_false ?_ (by decide))⟩
  rintro ⟨l, mem, belongs⟩
  cases List.mem_singleton.mp mem
  rcases belongs with same | path
  · exact absurd same (by decide)
  · exact absurd path (by decide)

/-- The order is for a product of category 2, and the reports on category 2 leave it out. -/
theorem serviceReported_missed :
    ∃ raw, (fakeOdooGateway.getSaleOrder 101 serviceWorld.odoo).1 = .ok raw ∧
      (∃ l ∈ raw.lines, l.BelongsTo (fun l => [l.categoryId]) 2) ∧
        serviceReported ∉ getMatchingDeals [serviceReported] { categoryId := some 2 } := by
  refine ⟨_, rfl, ⟨_, List.mem_singleton_self _, Or.inl rfl⟩, ?_⟩
  exact mem_getMatchingDeals_category (by decide)

end DealFlow
