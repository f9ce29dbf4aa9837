import DealFlow.Guardian.Evaluator
import DealFlow.Risk.Evaluation
import DealFlow.Risk.Grid

/-!
# What-if against evaluation

A simulation on an order is compared with an evaluation of the order that holds the overridden
figures (`WhatIfAgrees`).  Both see the same effective discounts, ceilings and list amounts
(`lineFigures_simulated`); the simulation keeps cost, shortage and totals of the order as it is,
counts no negotiation and goes by the default policy figures.

* `whatIfAgrees_iff`: agreement where nothing of that makes a difference; and under default figures
  and overrides of two decimals, agreement exactly when the total and the points besides the
  discount factor come out the same.
-/

namespace DealFlow

open Lib

/-- The order line with its overrides. -/
def LineOverrides.apply (overrides : LineOverrides) (l : RawOrderLine) : RawOrderLine :=
  { l with
    discountPct := (overrides.lineDiscounts l.id).getD l.discountPct
    qty := (overrides.lineQuantities l.id).getD l.qty }

/-- The order that holds the overridden figures. -/
def overriddenOrder (overrides : LineOverrides) (raw : RawOrder) : RawOrder :=
  { raw with lines := raw.lines.map overrides.apply }

def simulatedOutcome {σ : Type} (gateway : OdooGateway σ) (tables : PolicyTables)
    (overrides : LineOverrides) (w : World σ) : Option (Verdict × ℚ) :=
  match (simulateDealWhatIf gateway tables none overrides w).1 with
  | .error _ => none
  | .ok response =>
      some ((response.simulatedRiskScore, response.simulatedSeverity,
        response.simulatedRequiredLevel), response.amountTotal)

def evaluatedOutcome {σ : Type} (gateway : OdooGateway σ) (args : EvaluateArgs) (w : World σ) :
    Option (Verdict × ℚ) :=
  match (evaluateDeal gateway args w).1 with
  | .error _ => none
  | .ok response =>
      some ((response.riskAssessment.riskScore, response.riskAssessment.severity,
        response.riskAssessment.requiredLevel), response.riskAssessment.totals.amountTotal)

/-- On whatever gateway, the simulation on the order says what an evaluation of the overridden
order would. -/
def WhatIfAgrees (args : EvaluateArgs) (db : DealStore) (raw : RawOrder) (stock : Availability)
    (overrides : LineOverrides) : Prop :=
  ∀ {σ : Type} (gateway : OdooGateway σ) (odoo odoo' : σ),
    ReadsOrder gateway db.deal.odooSaleOrderId odoo raw stock →
    ReadsOrder gateway db.deal.odooSaleOrderId odoo' (overriddenOrder overrides raw) stock →
    simulatedOutcome gateway args.tables overrides { db, odoo } =
      evaluatedOutcome gateway args { db, odoo := odoo' }

/-- The overrides of the order's lines have two decimals at most. -/
def TwoDecimals (overrides : LineOverrides) (raw : RawOrder) : Prop :=
  ∀ l ∈ raw.lines,
    (∀ d, overrides.lineDiscounts l.id = some d → quantizeDec d = d) ∧
      ∀ q, overrides.lineQuantities l.id = some q → quantizeDec q = q

/-- The figures of the order's last line are the defaults. -/
def DefaultFigures (tables : PolicyTables) (ctx : DealContext) : Prop :=
  ∀ l ∈ ctx.lines.getLast?, (linePolicy tables ctx l).figures = {}

/-- The points of a calculation besides the discount factor. -/
def sidePoints (ctx : DealContext) (lineCeilings : ℤ → Option ℚ) (counter : Bool) : ℚ :=
  points (marginFactors {} {} (dealMarginPct (lineOverages ctx lineCeilings))) +
    points (inventoryFactors {} ctx.lines) + points (negotiationFactors counter)

/-! ## The two contexts -/

section Contexts

variable {tables : PolicyTables} {raw : RawOrder} {stock : Availability}
  {overrides : LineOverrides} {lineCeilings : ℤ → Option ℚ}

/-- Quantity and discount of a line are the same in both. -/
theorem build_apply (twoDecimals : TwoDecimals overrides raw) {l : RawOrderLine}
    (mem : l ∈ raw.lines) (prodStock : AList fun _ : ℤ => ℤ) :
    (buildLineContext (overrides.apply l) prodStock).qty =
        (overrides.patch (buildLineContext l prodStock)).qty ∧
      (buildLineContext (overrides.apply l) prodStock).discountPct =
        (overrides.patch (buildLineContext l prodStock)).discountPct := by
  obtain ⟨discounts, quantities⟩ := twoDecimals l mem
  simp only [buildLineContext, LineOverrides.apply, LineOverrides.patch]
  constructor
  · cases q : overrides.lineQuantities l.id with
    | none => rfl
    | some q' => exact quantities q' q
  · cases d : overrides.lineDiscounts l.id with
    | none => rfl
    | some d' => exact discounts d' d

/-- The lines of both contexts, from those of the order. -/
theorem lines_overridden :
    (dealContextOf tables (overriddenOrder overrides raw) stock).lines =
      raw.lines.map fun l => buildLineContext (overrides.apply l) (stock l.productId) := by
  simp only [dealContextOf, overriddenOrder, List.map_map]
  rfl

theorem lines_simulated :
    (whatIfContext none overrides (dealContextOf tables raw stock)).lines =
      raw.lines.map fun l => overrides.patch (buildLineContext l (stock l.productId)) := by
  simp only [whatIfContext, dealContextOf, List.map_map]
  rfl

/-- Policies are resolved from the categories of the lines, which are not overridden. -/
theorem resolvePolicies_overridden :
    resolvePolicies tables (dealContextOf tables (overriddenOrder overrides raw) stock) =
      resolvePolicies tables (dealContextOf tables raw stock) := by
  simp only [resolvePolicies, dealContextOf, overriddenOrder, List.foldl_map]
  rfl

theorem totalList_simulated (tables : PolicyTables) (stock : Availability)
    (twoDecimals : TwoDecimals overrides raw) :
    totalList (whatIfContext none overrides (dealContextOf tables raw stock)) =
      totalList (dealContextOf tables (overriddenOrder overrides raw) stock) := by
  unfold totalList
  rw [lines_simulated, lines_overridden, List.map_map, List.map_map]
  refine congrArg List.sum (List.map_congr_left fun l mem => ?_)
  simp only [Function.comp_apply, (build_apply twoDecimals mem _).1]
  rfl

/-- The figures the discount factor and the net amount are computed from. -/
def LineOverage.figures (o : LineOverage) : ℚ × ℚ × ℚ × ℚ :=
  (o.overage, o.weight, o.listAmt, o.effective)

theorem lineFigures_simulated (tables : PolicyTables) (stock : Availability)
    (lineCeilings : ℤ → Option ℚ) (twoDecimals : TwoDecimals overrides raw) :
    (lineOverages (whatIfContext none overrides (dealContextOf tables raw stock))
        lineCeilings).map (·.figures) =
      (lineOverages (dealContextOf tables (overriddenOrder overrides raw) stock)
        lineCeilings).map (·.figures) := by
  have total := totalList_simulated tables stock twoDecimals
  unfold lineOverages
  rw [lines_simulated, lines_overridden]
  simp only [List.map_map]
  refine List.map_congr_left fun l mem => ?_
  obtain ⟨qty, discount⟩ := build_apply twoDecimals mem (stock l.productId)
  simp only [Function.comp_apply, LineOverage.figures, lineOverage, effectiveDiscount, total, qty,
    discount]
  rfl

end Contexts

/-! ## Figures in common -/

section Common

variable {os os' : List LineOverage} (same : os.map (·.figures) = os'.map (·.figures))

include same

theorem map_of_figures {β : Type} (g : ℚ × ℚ × ℚ × ℚ → β) :
    (os.map fun o => g o.figures) = os'.map fun o => g o.figures := by
  simpa only [List.map_map, Function.comp_def] using congrArg (List.map g) same

theorem maxOverage_of_figures : maxOverage os = maxOverage os' := by
  have overages : os.map (·.overage) = os'.map (·.overage) := map_of_figures same (·.1)
  unfold maxOverage
  rw [overages]

theorem totalNet_of_figures : totalNet os = totalNet os' :=
  congrArg List.sum (map_of_figures same fun f => f.2.2.1 * (1 - f.2.2.2 / 100))

theorem discountExcessContrib_of_figures (weights : RiskWeights) :
    discountExcessContrib weights os = discountExcessContrib weights os' := by
  have weighted : weightedOverage os = weightedOverage os' :=
    congrArg (runningSum decimal28) (map_of_figures same fun f => decimal28 (f.1 * f.2.1))
  have length : os.length = os'.length := by
    simpa only [List.length_map] using congrArg List.length same
  have count : (violatingLines os).length = (violatingLines os').length := by
    have filtered := congrArg (fun fs => (fs.filter fun f : ℚ × ℚ × ℚ × ℚ => 0 < f.1).length) same
    simp only [List.filter_map, List.length_map] at filtered
    exact filtered
  unfold discountExcessContrib violationRatio
  rw [maxOverage_of_figures same, weighted, length, count]

end Common

/-! ## The score -/

theorem onGrid_sidePoints (ctx : DealContext) (lineCeilings : ℤ → Option ℚ) (counter : Bool) :
    OnGrid (sidePoints ctx lineCeilings counter) :=
  ((onGrid_margin _ _).add (onGrid_inventory _)).add (onGrid_negotiation counter)

/-- Under the default figures the score is the discount points and the side points, at most 100. -/
theorem riskScore_eq_sidePoints (ctx : DealContext) (lineCeilings : ℤ → Option ℚ) (counter : Bool) :
    (calculateDealRisk ctx lineCeilings {} {} counter).riskScore =
      min 100 (max 0 (discountExcessContrib {} (lineOverages ctx lineCeilings)) +
        sidePoints ctx lineCeilings counter) := by
  have discount : OnGrid (max 0 (discountExcessContrib {} (lineOverages ctx lineCeilings))) :=
    OnGrid.max ⟨0, by norm_num⟩ (onGrid_quantizeDec _)
  have grid := discount.add (onGrid_sidePoints ctx lineCeilings counter)
  rw [calculateDealRisk_score, ← grid.quantizeDec, sidePoints, ← add_assoc, ← add_assoc]

/-- The verdict under the default figures follows from score and overage. -/
theorem verdict_eq_iff {ctx ctx' : DealContext} {lineCeilings : ℤ → Option ℚ}
    {counter counter' : Bool}
    (same : (lineOverages ctx lineCeilings).map (·.figures) =
      (lineOverages ctx' lineCeilings).map (·.figures)) :
    (calculateDealRisk ctx lineCeilings {} {} counter).verdict =
        (calculateDealRisk ctx' lineCeilings {} {} counter').verdict ↔
      (calculateDealRisk ctx lineCeilings {} {} counter).riskScore =
        (calculateDealRisk ctx' lineCeilings {} {} counter').riskScore := by
  constructor
  · intro eq
    exact congrArg Prod.fst eq
  · intro score
    have band : ∀ (c : DealContext) (n : Bool),
        (calculateDealRisk c lineCeilings {} {} n).verdict =
          ((calculateDealRisk c lineCeilings {} {} n).riskScore,
            severityBand {} (calculateDealRisk c lineCeilings {} {} n).riskScore,
            (routingLevel {} (calculateDealRisk c lineCeilings {} {} n).riskScore
              (maxOverage (lineOverages c lineCeilings))).1) := fun _ _ => rfl
    rw [band, band, score, maxOverage_of_figures same]

/-- Two sums with a term in common come to the same under a cap. -/
theorem min_add_eq_iff {cap common x y : ℚ} :
    min cap (common + x) = min cap (common + y) ↔
      x = y ∨ cap ≤ common + x ∧ cap ≤ common + y := by
  constructor
  · intro eq
    rcases le_total cap (common + x) with reachX | belowX
    · rw [min_eq_left reachX] at eq
      exact .inr ⟨reachX, min_eq_left_iff.mp eq.symm⟩
    · rw [min_eq_right belowX] at eq
      rcases le_total cap (common + y) with reachY | belowY
      · rw [min_eq_left reachY] at eq
        exact .inr ⟨eq.ge, reachY⟩
      · rw [min_eq_right belowY] at eq
        exact .inl (add_left_cancel eq)
  · rintro (rfl | ⟨reachX, reachY⟩)
    · rfl
    · rw [min_eq_left reachX, min_eq_left reachY]

/-! ## Agreement -/

/-- What lets a simulation pass for an evaluation: nothing it leaves out makes a difference. -/
structure WhatIfFaithful (args : EvaluateArgs) (db : DealStore) (raw : RawOrder)
    (stock : Availability) (overrides : LineOverrides) : Prop where
  counter : hasOpenCounter db = false
  figures : DefaultFigures args.tables (dealContextOf args.tables raw stock)
  decimals : TwoDecimals overrides raw
  cost : (dealContextOf args.tables raw stock).totalCost =
    (dealContextOf args.tables (overriddenOrder overrides raw) stock).totalCost
  shortage : ∀ l ∈ raw.lines,
    (buildLineContext l (stock l.productId)).inventoryShortage =
      (buildLineContext (overrides.apply l) (stock l.productId)).inventoryShortage
  total : (dealContextOf args.tables raw stock).amountTotal =
    (dealContextOf args.tables (overriddenOrder overrides raw) stock).amountTotal

section Agreement

variable {args : EvaluateArgs} {db : DealStore} {raw : RawOrder} {stock : Availability}
  {overrides : LineOverrides}

theorem simulatedOutcome_of_reads {σ : Type} {gateway : OdooGateway σ} {odoo : σ}
    (reads : ReadsOrder gateway db.deal.odooSaleOrderId odoo raw stock) :
    simulatedOutcome gateway args.tables overrides { db, odoo } =
      some ((calculateDealRisk
          (whatIfContext none overrides (dealContextOf args.tables raw stock))
          (resolvePolicies args.tables (dealContextOf args.tables raw stock)).1).verdict,
        (dealContextOf args.tables raw stock).amountTotal) := by
  unfold simulatedOutcome simulateDealWhatIf
  cases read : buildDealContext gateway args.tables db.deal.odooSaleOrderId odoo with
  | mk answer odoo' =>
      have ok : answer = .ok (dealContextOf args.tables raw stock) := by
        rw [← reads args.tables, read]
      subst ok
      rfl

theorem evaluatedOutcome_of_reads {σ : Type} {gateway : OdooGateway σ} {odoo : σ}
    (reads : ReadsOrder gateway db.deal.odooSaleOrderId odoo raw stock) :
    evaluatedOutcome gateway args { db, odoo } =
      some ((assessRisk db args.tables (dealContextOf args.tables raw stock)).verdict,
        (dealContextOf args.tables raw stock).amountTotal) := by
  obtain ⟨response, ok, assessed⟩ := evaluateDeal_of_reads args reads
  unfold evaluatedOutcome
  rw [ok]
  dsimp only
  rw [assessed]
  rfl

/-- Agreement is about the two contexts alone. -/
theorem whatIfAgrees_iff_contexts :
    WhatIfAgrees args db raw stock overrides ↔
      (calculateDealRisk (whatIfContext none overrides (dealContextOf args.tables raw stock))
          (resolvePolicies args.tables (dealContextOf args.tables raw stock)).1).verdict =
        (assessRisk db args.tables
          (dealContextOf args.tables (overriddenOrder overrides raw) stock)).verdict ∧
      (dealContextOf args.tables raw stock).amountTotal =
        (dealContextOf args.tables (overriddenOrder overrides raw) stock).amountTotal := by
  constructor
  · intro agrees
    have same := agrees orderOnFile (raw, stock) (overriddenOrder overrides raw, stock)
      (orderOnFile_reads _ raw stock) (orderOnFile_reads _ _ stock)
    rw [simulatedOutcome_of_reads (orderOnFile_reads _ raw stock),
      evaluatedOutcome_of_reads (orderOnFile_reads _ _ stock)] at same
    exact Prod.ext_iff.mp (Option.some.inj same)
  · rintro ⟨verdicts, totals⟩ σ gateway odoo odoo' reads reads'
    rw [simulatedOutcome_of_reads reads, evaluatedOutcome_of_reads reads', verdicts, totals]

theorem assessRisk_of_defaultFigures
    (figures : DefaultFigures args.tables (dealContextOf args.tables raw stock)) :
    assessRisk db args.tables (dealContextOf args.tables (overriddenOrder overrides raw) stock) =
      calculateDealRisk (dealContextOf args.tables (overriddenOrder overrides raw) stock)
        (resolvePolicies args.tables (dealContextOf args.tables raw stock)).1 {} {}
        (hasOpenCounter db) := by
  have default : (resolvePolicies args.tables (dealContextOf args.tables raw stock)).2 = {} := by
    rw [resolvePolicies_figures]
    cases last : (dealContextOf args.tables raw stock).lines.getLast? with
    | none => rfl
    | some l => exact figures l last
  unfold assessRisk
  dsimp only
  rw [resolvePolicies_overridden, default]

/-- Where cost and shortages are unaffected and no counter is open, the side points are the same. -/
theorem sidePoints_of_faithful (faithful : WhatIfFaithful args db raw stock overrides)
    (lineCeilings : ℤ → Option ℚ) :
    sidePoints (whatIfContext none overrides (dealContextOf args.tables raw stock)) lineCeilings
        false =
      sidePoints (dealContextOf args.tables (overriddenOrder overrides raw) stock) lineCeilings
        (hasOpenCounter db) := by
  have net := totalNet_of_figures
    (lineFigures_simulated args.tables stock lineCeilings faithful.decimals)
  have cost : ((lineOverages (whatIfContext none overrides (dealContextOf args.tables raw stock))
        lineCeilings).map (·.line.costSubtotal)).sum =
      ((lineOverages (dealContextOf args.tables (overriddenOrder overrides raw) stock)
        lineCeilings).map (·.line.costSubtotal)).sum := by
    have simulated : (lineOverages (whatIfContext none overrides
        (dealContextOf args.tables raw stock)) lineCeilings).map (·.line.costSubtotal) =
          (dealContextOf args.tables raw stock).lines.map (·.costSubtotal) := by
      simp only [lineOverages, whatIfContext, List.map_map]
      rfl
    have evaluated : (lineOverages (dealContextOf args.tables (overriddenOrder overrides raw) stock)
        lineCeilings).map (·.line.costSubtotal) =
          (dealContextOf args.tables (overriddenOrder overrides raw) stock).lines.map
            (·.costSubtotal) := by
      simp only [lineOverages, List.map_map]
      rfl
    rw [simulated, evaluated]
    exact faithful.cost
  have stocked : inventoryFactors {} (whatIfContext none overrides
        (dealContextOf args.tables raw stock)).lines =
      inventoryFactors {}
        (dealContextOf args.tables (overriddenOrder overrides raw) stock).lines := by
    have folds : ∀ p, (raw.lines.foldl (fun p l => inventoryPoints {} p
          (overrides.patch (buildLineContext l (stock l.productId)))) p) =
        raw.lines.foldl (fun p l => inventoryPoints {} p
          (buildLineContext (overrides.apply l) (stock l.productId))) p := by
      intro p
      refine List.foldl_ext _ _ p fun p l mem => ?_
      have qty := (build_apply faithful.decimals mem (stock l.productId)).1
      have shortage := faithful.shortage l mem
      simp only [inventoryPoints, qty, ← shortage]
      rfl
    unfold inventoryFactors
    rw [lines_simulated, lines_overridden, List.foldl_map, List.foldl_map, folds]
  unfold sidePoints dealMarginPct
  rw [net, cost, stocked, faithful.counter]

/-- A simulation that leaves out nothing of consequence agrees, and none does whose overrides move
the total.  Under default figures and with overrides of two decimals it agrees exactly if the total
stays and the points of margin, inventory and negotiation add up to the same, or with those of the
discounts to 100 and more both times. -/
theorem whatIfAgrees_iff (args : EvaluateArgs) (db : DealStore) (raw : RawOrder)
    (stock : Availability) (overrides : LineOverrides) :
    let ctx := dealContextOf args.tables raw stock
    let overridden := dealContextOf args.tables (overriddenOrder overrides raw) stock
    let lineCeilings := (resolvePolicies args.tables ctx).1
    let discount := max 0 (discountExcessContrib {} (lineOverages overridden lineCeilings))
    let simulatedSide := sidePoints (whatIfContext none overrides ctx) lineCeilings false
    let evaluatedSide := sidePoints overridden lineCeilings (hasOpenCounter db)
    (WhatIfFaithful args db raw stock overrides → WhatIfAgrees args db raw stock overrides) ∧
      (WhatIfAgrees args db raw stock overrides → ctx.amountTotal = overridden.amountTotal) ∧
      (DefaultFigures args.tables ctx → TwoDecimals overrides raw →
        (WhatIfAgrees args db raw stock overrides ↔
          ctx.amountTotal = overridden.amountTotal ∧
            (simulatedSide = evaluatedSide ∨
              100 ≤ discount + simulatedSide ∧ 100 ≤ discount + evaluatedSide))) := by
  intro ctx overridden lineCeilings discount simulatedSide evaluatedSide
  have exact' : DefaultFigures args.tables ctx → TwoDecimals overrides raw →
      (WhatIfAgrees args db raw stock overrides ↔
        ctx.amountTotal = overridden.amountTotal ∧
          (simulatedSide = evaluatedSide ∨
            100 ≤ discount + simulatedSide ∧ 100 ≤ discount + evaluatedSide)) := by
    intro figures decimals
    have same := lineFigures_simulated args.tables stock lineCeilings decimals
    rw [whatIfAgrees_iff_contexts, assessRisk_of_defaultFigures figures, verdict_eq_iff same,
      riskScore_eq_sidePoints, riskScore_eq_sidePoints, discountExcessContrib_of_figures same,
      and_comm]
    refine and_congr Iff.rfl ?_
    exact min_add_eq_iff
  refine ⟨fun faithful => ?_, fun agrees => (whatIfAgrees_iff_contexts.mp agrees).2, exact'⟩
  exact (exact' faithful.figures faithful.decimals).mpr
    ⟨faithful.total, .inl (sidePoints_of_faithful faithful lineCeilings)⟩

end Agreement

/-- Two desks, the second at 10 % discount. -/
def twoDesks : RawOrder :=
  quotation [goodsLine, { goodsLine with id := 2, discountPct := 10 }]

/-- The discount moved from the second desk to the first. -/
def movedDiscount : LineOverrides :=
  { lineDiscounts := fun id => if id = 1 then some 10 else if id = 2 then some 0 else none }

theorem twoDesks_agrees :
    WhatIfFaithful { tables := {}, now := 1 } quotationStore twoDesks (fun _ => ∅)
        movedDiscount ∧
      WhatIfAgrees { tables := {}, now := 1 } quotationStore twoDesks (fun _ => ∅)
        movedDiscount := by
  have faithful : WhatIfFaithful { tables := {}, now := 1 } quotationStore twoDesks (fun _ => ∅)
      movedDiscount :=
    { counter := by decide +kernel
      figures := by
        intro l last
        cases last
        decide +kernel
      decimals := by
        intro l mem
        simp only [twoDesks, quotation, List.mem_cons, List.not_mem_nil, or_false] at mem
        rcases mem with rfl | rfl
        · exact ⟨fun d eq => by cases eq; decide +kernel, fun q eq => by cases eq⟩
        · exact ⟨fun d eq => by cases eq; decide +kernel, fun q eq => by cases eq⟩
      cost := by decide +kernel
      shortage := by decide +kernel
      total := by decide +kernel }
  exact ⟨faithful, (whatIfAgrees_iff _ _ _ _ _).1 faithful⟩

/-- A desk sold near its cost. -/
def nearCost : RawOrder :=
  quotation [{ goodsLine with unitCost := 90 }]

/-- Two of them instead of one. -/
def doubled : LineOverrides :=
  { lineQuantities := fun id => if id = 1 then some 2 else none }

/-- The simulation sells the second desk at no cost, under the total of one. -/
theorem nearCost_disagrees :
    simulatedOutcome orderOnFile {} doubled
          { db := quotationStore, odoo := (nearCost, fun _ => ∅) } =
        some ((0, .low, .none), 118) ∧
      evaluatedOutcome orderOnFile { tables := {}, now := 1 }
          { db := quotationStore, odoo := (overriddenOrder doubled nearCost, fun _ => ∅) } =
        some ((25, .medium, .manager), 236) ∧
      ¬ WhatIfAgrees { tables := {}, now := 1 } quotationStore nearCost (fun _ => ∅) doubled := by
  have simulated : simulatedOutcome orderOnFile {} doubled
      { db := quotationStore, odoo := (nearCost, fun _ => ∅) } =
        some ((0, .low, .none), 118) := by decide +kernel
  have evaluated : evaluatedOutcome orderOnFile { tables := {}, now := 1 }
      { db := quotationStore, odoo := (overriddenOrder doubled nearCost, fun _ => ∅) } =
        some ((25, .medium, .manager), 236) := by decide +kernel
  refine ⟨simulated, evaluated, fun agrees => ?_⟩
  have same := agrees orderOnFile _ _ (orderOnFile_reads _ _ _) (orderOnFile_reads _ _ _)
  rw [simulated, evaluated] at same
  cases same

end DealFlow
