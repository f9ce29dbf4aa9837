import DealFlow.Risk.Evaluation
import DealFlow.Risk.Factors

/-!
# The order of an order's lines

The score adds up, counts and takes maxima over the lines.  One of its sums is rounded after each
line, that of the weighted overages, and so the order of the lines can matter to the excess; to the
rest of the score it does not (`verdict_perm`).  It also does to the policy figures an evaluation
uses, which are those of the last line (`resolvePolicies_figures`), and to the ceilings where two
lines share an id.

* `lineOrderIrrelevant_iff`: no matter, if all lines resolve to the same figures and the excess is
  the same in every order; and the exact condition for lines with ids of their own.
* `steadyExcess_of_two`: it is where no more than two lines exceed their ceilings.
-/

namespace DealFlow

open Lib

/-! ## The calculation -/

section Calculation

variable {ctx ctx' : DealContext} {lineCeilings lineCeilings' : ℤ → Option ℚ}

theorem maxOverage_perm {os os' : List LineOverage} (perm : os'.Perm os) :
    maxOverage os' = maxOverage os := by
  have le : ∀ {as bs : List LineOverage}, as.Perm bs → maxOverage as ≤ maxOverage bs := by
    intro as bs perm
    rcases (maxOverage_spec as).2 with ⟨rfl, zero⟩ | ⟨o, mem, eq⟩
    · rw [perm.nil_eq]
    · exact eq.trans_le ((maxOverage_spec bs).1 o (perm.mem_iff.mp mem))
  exact le_antisymm (le perm) (le perm.symm)

/-- The overages of two lines add up to the same in either order, and the other lines have none. -/
theorem weightedOverage_perm {os os' : List LineOverage} (perm : os'.Perm os)
    (nonneg : ∀ o ∈ os', 0 ≤ o.overage) (few : (violatingLines os').length ≤ 2) :
    weightedOverage os' = weightedOverage os := by
  refine runningSum_perm rounds_decimal28 (perm.map _) (fun x mem => ?_) (le_trans ?_ few)
  · obtain ⟨o, -, rfl⟩ := List.mem_map.mp mem
    exact rounds_decimal28.idem _
  · rw [List.filter_map, List.length_map, violatingLines, ← List.countP_eq_length_filter,
      ← List.countP_eq_length_filter]
    refine List.countP_mono_left fun o mem weighted => ?_
    have positive : o.overage ≠ 0 := by
      intro zero
      simp [LineOverage.weighted, zero, rounds_decimal28.zero] at weighted
    exact decide_eq_true ((nonneg o mem).lt_of_ne' positive)

theorem violationRatio_perm {os os' : List LineOverage} (perm : os'.Perm os) :
    violationRatio os' = violationRatio os := by
  unfold violationRatio violatingLines
  rw [perm.length_eq, (perm.filter _).length_eq]

theorem dealMarginPct_perm {os os' : List LineOverage} (perm : os'.Perm os) :
    dealMarginPct os' = dealMarginPct os := by
  have net : totalNet os' = totalNet os := (perm.map _).sum_eq
  have cost : (os'.map (·.line.costSubtotal)).sum = (os.map (·.line.costSubtotal)).sum :=
    (perm.map _).sum_eq
  unfold dealMarginPct
  rw [net, cost]

theorem inventoryFactors_perm (weights : RiskWeights) {lines lines' : List DealLineContext}
    (perm : lines'.Perm lines) :
    inventoryFactors weights lines' = inventoryFactors weights lines := by
  have commutes : ∀ points l l',
      inventoryPoints weights (inventoryPoints weights points l) l' =
        inventoryPoints weights (inventoryPoints weights points l') l := by
    intro points l l'
    unfold inventoryPoints
    split_ifs <;> simp only [max_assoc, max_comm, max_left_comm]
  have points : lines'.foldl (inventoryPoints weights) 0 =
      lines.foldl (inventoryPoints weights) 0 :=
    perm.foldl_eq' (fun l _ l' _ points => commutes points l l') 0
  unfold inventoryFactors
  rw [points]

/-- The entries of the calculation for reordered lines. -/
theorem lineOverages_perm (lines : ctx'.lines.Perm ctx.lines)
    (order : ctx'.orderDiscountPct = ctx.orderDiscountPct)
    (ceilings : ∀ l ∈ ctx.lines, ceilingOf ctx' lineCeilings' l = ceilingOf ctx lineCeilings l) :
    lineOverages ctx' lineCeilings' = ctx'.lines.map (lineOverage ctx lineCeilings) := by
  have total : totalList ctx' = totalList ctx := (lines.map _).sum_eq
  refine List.map_congr_left fun l mem => ?_
  simp only [lineOverage, effectiveDiscount, total, order, ceilings l (lines.mem_iff.mp mem)]

/-- The verdict on a deal whose discount excess comes to the given points. -/
def verdictAt (ctx : DealContext) (lineCeilings : ℤ → Option ℚ) (policy : RiskPolicy)
    (counter : Bool) (excess : ℚ) : Verdict :=
  let os := lineOverages ctx lineCeilings
  let score := min 100 (quantizeDec
    (max 0 excess + points (marginFactors {} policy (dealMarginPct os)) +
      points (inventoryFactors {} ctx.lines) + points (negotiationFactors counter)))
  (score, severityBand policy score, (routingLevel policy score (maxOverage os)).1)

/-- Under ceilings that agree on the lines, their order is to the verdict what it is to the
excess. -/
theorem verdict_perm (lines : ctx'.lines.Perm ctx.lines)
    (order : ctx'.orderDiscountPct = ctx.orderDiscountPct)
    (ceilings : ∀ l ∈ ctx.lines, ceilingOf ctx' lineCeilings' l = ceilingOf ctx lineCeilings l)
    (policy : RiskPolicy) (counter : Bool) :
    (calculateDealRisk ctx' lineCeilings' policy {} counter).verdict =
      verdictAt ctx lineCeilings policy counter
        (discountExcessContrib {} (ctx'.lines.map (lineOverage ctx lineCeilings))) := by
  have entries := lineOverages_perm lines order ceilings
  have perm : (lineOverages ctx' lineCeilings').Perm (lineOverages ctx lineCeilings) := by
    rw [entries]
    exact lines.map _
  have score : (calculateDealRisk ctx' lineCeilings' policy {} counter).riskScore =
      (verdictAt ctx lineCeilings policy counter
        (discountExcessContrib {} (ctx'.lines.map (lineOverage ctx lineCeilings)))).1 := by
    rw [calculateDealRisk_score, dealMarginPct_perm perm, inventoryFactors_perm _ lines, entries]
    rfl
  have level : (calculateDealRisk ctx' lineCeilings' policy {} counter).requiredLevel =
      (routingLevel policy (calculateDealRisk ctx' lineCeilings' policy {} counter).riskScore
        (maxOverage (lineOverages ctx' lineCeilings'))).1 := rfl
  have band : (calculateDealRisk ctx' lineCeilings' policy {} counter).severity =
      severityBand policy
        (calculateDealRisk ctx' lineCeilings' policy {} counter).riskScore := rfl
  unfold RiskCalculationResult.verdict
  rw [level, band, score, maxOverage_perm perm]
  rfl

end Calculation

/-! ## Ceilings -/

section Resolution

variable {tables : PolicyTables} {ctx : DealContext}

/-- The ceiling of a line id is that of a line with the id. -/
theorem resolvePolicies_ceiling (tables : PolicyTables) {l : DealLineContext}
    (mem : l ∈ ctx.lines) :
    ∃ l' ∈ ctx.lines, l'.lineId = l.lineId ∧
      (resolvePolicies tables ctx).1 l.lineId = some (linePolicy tables ctx l').maxDiscountPct := by
  unfold resolvePolicies
  generalize ctx.lines = lines at mem ⊢
  induction lines using List.reverseRecOn generalizing l with
  | nil => cases mem
  | append_singleton ls last ih =>
      rw [List.foldl_concat]
      by_cases same : l.lineId = last.lineId
      · exact ⟨last, by simp, same.symm, if_pos same⟩
      · have before : l ∈ ls := by
          rcases List.mem_append.mp mem with before | isLast
          · exact before
          · exact absurd (congrArg _ (List.mem_singleton.mp isLast)) same
        obtain ⟨l', mem', eq, ceiling⟩ := ih before
        exact ⟨l', List.mem_append_left _ mem', eq, (if_neg same).trans ceiling⟩

/-- Lines of one id have one ceiling. -/
def OneCeiling (tables : PolicyTables) (ctx : DealContext) : Prop :=
  ∀ l ∈ ctx.lines, ∀ l' ∈ ctx.lines, l'.lineId = l.lineId →
    (linePolicy tables ctx l').maxDiscountPct = (linePolicy tables ctx l).maxDiscountPct

theorem oneCeiling_of_distinct (distinct : (ctx.lines.map (·.lineId)).Nodup) :
    OneCeiling tables ctx := fun l mem l' mem' eq => by
  rw [List.inj_on_of_nodup_map distinct mem' mem eq]

theorem ceilingOf_resolved (one : OneCeiling tables ctx) {l : DealLineContext}
    (mem : l ∈ ctx.lines) :
    ceilingOf ctx (resolvePolicies tables ctx).1 l = (linePolicy tables ctx l).maxDiscountPct := by
  obtain ⟨l', mem', eq, ceiling⟩ := resolvePolicies_ceiling tables mem
  unfold ceilingOf
  rw [ceiling]
  exact one l mem l' mem' eq

end Resolution

/-! ## Reordering an order -/

/-- The same order with its lines in another order. -/
structure Reordered (raw raw' : RawOrder) : Prop where
  header : raw'.header = raw.header
  lines : raw'.lines.Perm raw.lines

/-- On whatever gateway, an evaluation of the reordered order says the same. -/
def LineOrderIrrelevant (args : EvaluateArgs) (db : DealStore) (raw : RawOrder)
    (stock : Availability) : Prop :=
  ∀ {σ : Type} (gateway : OdooGateway σ) (odoo odoo' : σ) (raw' : RawOrder),
    ReadsOrder gateway db.deal.odooSaleOrderId odoo raw stock →
    ReadsOrder gateway db.deal.odooSaleOrderId odoo' raw' stock → Reordered raw raw' →
    evaluatedVerdict gateway args { db, odoo := odoo' } =
      evaluatedVerdict gateway args { db, odoo }

/-- The excess of the lines of a deal, added up in an order of its own. -/
def excessInOrder (tables : PolicyTables) (ctx : DealContext) (lines : List DealLineContext) : ℚ :=
  discountExcessContrib {} (lines.map (lineOverage ctx (resolvePolicies tables ctx).1))

/-- The verdict on a deal under the figures of the last of the lines in an order, and with the
excess added up in that order. -/
def verdictInOrder (args : EvaluateArgs) (db : DealStore) (ctx : DealContext)
    (lines : List DealLineContext) : Verdict :=
  verdictAt ctx (resolvePolicies args.tables ctx).1
    ((lines.getLast?.map fun l => (linePolicy args.tables ctx l).figures).getD {})
    (hasOpenCounter db) (excessInOrder args.tables ctx lines)

section Reordering

variable {args : EvaluateArgs} {db : DealStore} {raw raw' : RawOrder} {stock : Availability}

/-- What reordering does to the context. -/
theorem dealContextOf_reordered (tables : PolicyTables) (stock : Availability)
    (reordered : Reordered raw raw') :
    (dealContextOf tables raw' stock).lines.Perm (dealContextOf tables raw stock).lines ∧
      (dealContextOf tables raw' stock).orderDiscountPct =
        (dealContextOf tables raw stock).orderDiscountPct ∧
      ∀ l, linePolicy tables (dealContextOf tables raw' stock) l =
        linePolicy tables (dealContextOf tables raw stock) l := by
  refine ⟨reordered.lines.map _, rfl, fun l => ?_⟩
  simp only [linePolicy, dealContextOf, reordered.header]

/-- The verdict on a reordered order is that of the order, in the order the lines now have. -/
theorem assessRisk_reordered (reordered : Reordered raw raw')
    (one : OneCeiling args.tables (dealContextOf args.tables raw stock)) :
    (assessRisk db args.tables (dealContextOf args.tables raw' stock)).verdict =
      verdictInOrder args db (dealContextOf args.tables raw stock)
        (dealContextOf args.tables raw' stock).lines := by
  obtain ⟨lines, order, policies⟩ := dealContextOf_reordered args.tables stock reordered
  have one' : OneCeiling args.tables (dealContextOf args.tables raw' stock) := by
    intro l mem l' mem' eq
    rw [policies, policies]
    exact one l (lines.mem_iff.mp mem) l' (lines.mem_iff.mp mem') eq
  unfold assessRisk verdictInOrder excessInOrder
  dsimp only
  rw [resolvePolicies_figures]
  simp only [policies]
  refine verdict_perm lines order (fun l mem => ?_) _ _
  rw [ceilingOf_resolved one mem, ceilingOf_resolved one' (lines.mem_iff.mpr mem), policies]

/-- All lines resolve to one set of figures, lines of one id to one ceiling. -/
structure SameFigures (tables : PolicyTables) (ctx : DealContext) : Prop where
  figures : ∀ l ∈ ctx.lines, ∀ l' ∈ ctx.lines,
    (linePolicy tables ctx l').figures = (linePolicy tables ctx l).figures
  ceilings : OneCeiling tables ctx

/-- The excess comes to the same points in whatever order the lines are added up. -/
def SteadyExcess (tables : PolicyTables) (ctx : DealContext) : Prop :=
  ∀ lines, lines.Perm ctx.lines →
    excessInOrder tables ctx lines = excessInOrder tables ctx ctx.lines

/-- It does where two lines at most exceed their ceilings. -/
theorem steadyExcess_of_two {tables : PolicyTables} {ctx : DealContext}
    (few : (violatingLines (lineOverages ctx (resolvePolicies tables ctx).1)).length ≤ 2) :
    SteadyExcess tables ctx := by
  intro lines perm
  have entries := perm.map (lineOverage ctx (resolvePolicies tables ctx).1)
  unfold excessInOrder discountExcessContrib
  rw [maxOverage_perm entries, violationRatio_perm entries, weightedOverage_perm entries]
  · exact fun o mem => overage_nonneg o (entries.mem_iff.mp mem)
  · rw [violatingLines, (entries.filter _).length_eq]
    exact few

/-- The points the excess can come to in an order that ends with the line. -/
def ExcessEndingWith (tables : PolicyTables) (ctx : DealContext) (l : DealLineContext)
    (excess : ℚ) : Prop :=
  ∃ before, (before ++ [l]).Perm ctx.lines ∧ excessInOrder tables ctx (before ++ [l]) = excess

/-- The figures of any two lines lead to the same verdict, each with an excess that goes with its
being last. -/
def FiguresAgree (args : EvaluateArgs) (db : DealStore) (ctx : DealContext) : Prop :=
  ∀ l l' excess excess', ExcessEndingWith args.tables ctx l excess →
    ExcessEndingWith args.tables ctx l' excess' →
      verdictAt ctx (resolvePolicies args.tables ctx).1 (linePolicy args.tables ctx l).figures
          (hasOpenCounter db) excess =
        verdictAt ctx (resolvePolicies args.tables ctx).1 (linePolicy args.tables ctx l').figures
          (hasOpenCounter db) excess'

theorem verdictInOrder_concat (args : EvaluateArgs) (db : DealStore) (ctx : DealContext)
    (before : List DealLineContext) (l : DealLineContext) :
    verdictInOrder args db ctx (before ++ [l]) =
      verdictAt ctx (resolvePolicies args.tables ctx).1 (linePolicy args.tables ctx l).figures
        (hasOpenCounter db) (excessInOrder args.tables ctx (before ++ [l])) := by
  unfold verdictInOrder
  rw [List.getLast?_concat]
  rfl

theorem figuresAgree_iff {ctx : DealContext} :
    FiguresAgree args db ctx ↔ ∀ lines, lines.Perm ctx.lines →
      verdictInOrder args db ctx lines = verdictInOrder args db ctx ctx.lines := by
  constructor
  · intro agree lines perm
    rcases List.eq_nil_or_concat lines with rfl | ⟨before, l, rfl⟩
    · rw [← perm.nil_eq]
    · rw [List.concat_eq_append] at perm ⊢
      rcases List.eq_nil_or_concat ctx.lines with none | ⟨before', l', listed⟩
      · rw [none] at perm
        exact absurd perm.eq_nil (by simp)
      · rw [List.concat_eq_append] at listed
        have own : ExcessEndingWith args.tables ctx l'
            (excessInOrder args.tables ctx (before' ++ [l'])) :=
          ⟨before', listed ▸ .refl _, rfl⟩
        have same := agree l l' _ _ ⟨before, perm, rfl⟩ own
        rw [← verdictInOrder_concat, ← verdictInOrder_concat, ← listed] at same
        exact same
  · rintro orders l l' _ _ ⟨before, perm, rfl⟩ ⟨before', perm', rfl⟩
    rw [← verdictInOrder_concat, ← verdictInOrder_concat, orders _ perm, orders _ perm']

theorem figuresAgree_of_steady {ctx : DealContext} (same : SameFigures args.tables ctx)
    (steady : SteadyExcess args.tables ctx) : FiguresAgree args db ctx := by
  rintro l l' _ _ ⟨before, perm, rfl⟩ ⟨before', perm', rfl⟩
  have last : ∀ {before l}, (before ++ [l]).Perm ctx.lines → l ∈ ctx.lines := fun perm =>
    perm.mem_iff.mp (List.mem_append_right _ (List.mem_singleton_self _))
  rw [same.figures l' (last perm') l (last perm), steady _ perm, steady _ perm']

theorem lineOrderIrrelevant_of_agree
    (agree : FiguresAgree args db (dealContextOf args.tables raw stock))
    (one : OneCeiling args.tables (dealContextOf args.tables raw stock)) :
    LineOrderIrrelevant args db raw stock := by
  intro σ gateway odoo odoo' raw' reads reads' reordered
  have same : Reordered raw raw := ⟨rfl, .refl _⟩
  rw [evaluatedVerdict_of_reads reads, evaluatedVerdict_of_reads reads',
    assessRisk_reordered reordered one, assessRisk_reordered same one,
    figuresAgree_iff.mp agree _ (dealContextOf_reordered args.tables stock reordered).1]

/-- The lines can be put in any order. -/
theorem exists_reordered {lines : List DealLineContext}
    (perm : lines.Perm (dealContextOf args.tables raw stock).lines) :
    ∃ raw', Reordered raw raw' ∧ (dealContextOf args.tables raw' stock).lines = lines := by
  have built : List.Forall₂ (fun (l : DealLineContext) (read : RawOrderLine) =>
      l = buildLineContext read (stock read.productId))
      (dealContextOf args.tables raw stock).lines raw.lines :=
    List.forall₂_map_left_iff.mpr (List.forall₂_same.mpr fun _ _ => rfl)
  obtain ⟨rawLines, same, perm⟩ := List.perm_comp_forall₂ perm built
  refine ⟨{ raw with lines := rawLines }, ⟨rfl, perm⟩, ?_⟩
  exact ((List.forall₂_eq_eq_eq ▸ (List.forall₂_map_right_iff.mpr same) : _ = _)).symm

theorem oneCeiling_of_ids (distinct : (raw.lines.map (·.id)).Nodup) :
    OneCeiling args.tables (dealContextOf args.tables raw stock) := by
  refine oneCeiling_of_distinct ?_
  simp only [dealContextOf, List.map_map]
  exact distinct

theorem agree_of_lineOrderIrrelevant
    (distinct : (raw.lines.map (·.id)).Nodup) (irrelevant : LineOrderIrrelevant args db raw stock) :
    FiguresAgree args db (dealContextOf args.tables raw stock) := by
  have one : OneCeiling args.tables (dealContextOf args.tables raw stock) :=
    oneCeiling_of_ids distinct
  refine figuresAgree_iff.mpr fun lines perm => ?_
  obtain ⟨raw', reordered, rfl⟩ := exists_reordered perm
  have same := irrelevant orderOnFile (raw, stock) (raw', stock) raw'
    (orderOnFile_reads _ raw stock) (orderOnFile_reads _ raw' stock) reordered
  rw [evaluatedVerdict_of_reads (orderOnFile_reads _ raw stock),
    evaluatedVerdict_of_reads (orderOnFile_reads _ raw' stock),
    assessRisk_reordered reordered one, assessRisk_reordered ⟨rfl, .refl _⟩ one] at same
  exact Option.some.inj same

end Reordering

/-! ## An order under two policies -/

/-- Goods are held to the default margin floor, services to one of 40 %. -/
def mixedTables : PolicyTables :=
  { discountPolicies :=
      [{ id := 1, name := "Goods", odooProductCategoryId := some 1, maxDiscountPct := 15 },
        { id := 2, name := "Services", odooProductCategoryId := some 2, maxDiscountPct := 15
          minimumMarginPct := some 40 }] }

def serviceLine : RawOrderLine :=
  { id := 2, productId := 11, productName := "Setup", categoryId := 2, productType := "SERVICE"
    qty := 1, priceUnit := 100, discountPct := 0, unitCost := 70, taxRatePct := 18 }

end DealFlow
