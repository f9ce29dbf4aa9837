import DealFlow.Risk.Evaluation
import DealFlow.Risk.Grid

/-!
# Totals of a deal context

Subtotals, costs and margins are rounded line by line, the totals once more.  All of them are
multiples of 0.01, so the second rounding changes nothing and the totals are the sums of the lines
(`TotalsAdd`).  The blended discount is off the weighted mean of the lines' discounts by what the
subtotals and the percentage were rounded by (`blendedDiscount_error`).
-/

namespace DealFlow

open Lib

/-- The value of the lines before discounts. -/
def listValue (ctx : DealContext) : ℚ :=
  (ctx.lines.map fun l => l.qty * l.priceUnit).sum

/-- The mean of the lines' discounts, weighted with their list values. -/
def meanDiscount (ctx : DealContext) : ℚ :=
  (ctx.lines.map fun l => l.qty * l.priceUnit * l.discountPct).sum / listValue ctx

/-- The totals are the sums of the lines. -/
structure TotalsAdd (ctx : DealContext) : Prop where
  untaxed : ctx.amountUntaxed = (ctx.lines.map (·.subtotal)).sum
  cycles : ctx.amountUntaxed = ctx.oneTimeTotal + ctx.recurringFirstCycleTotal
  cost : ctx.totalCost = (ctx.lines.map (·.costSubtotal)).sum
  margins : ctx.totalMarginAmount = (ctx.lines.map (·.marginAmount)).sum
  margin : ctx.totalMarginAmount = ctx.amountUntaxed - ctx.totalCost

/-! ## Lines -/

/-- A line of a context: the amounts are rounded, the margin needs no rounding. -/
structure LineAmounts (l : DealLineContext) : Prop where
  subtotal : l.subtotal = quantizeDec (l.qty * l.priceUnit * (1 - l.discountPct / 100))
  cost : OnGrid l.costSubtotal
  margin : l.marginAmount = l.subtotal - l.costSubtotal

theorem buildLineContext_amounts (l : RawOrderLine) (stock : AList fun _ : ℤ => ℤ) :
    LineAmounts (buildLineContext l stock) where
  subtotal := rfl
  cost := onGrid_quantizeDec _
  margin := ((onGrid_quantizeDec _).sub (onGrid_quantizeDec _)).quantizeDec

theorem LineAmounts.onGrid {l : DealLineContext} (amounts : LineAmounts l) :
    OnGrid l.subtotal := by
  rw [amounts.subtotal]
  exact onGrid_quantizeDec _

theorem sum_sub (lines : List DealLineContext) (f g : DealLineContext → ℚ) :
    (lines.map fun l => f l - g l).sum = (lines.map f).sum - (lines.map g).sum := by
  induction lines with
  | nil => simp
  | cons l ls ih =>
      simp only [List.map_cons, List.sum_cons, ih]
      ring

/-- Lines that recur and lines that do not are all there are. -/
theorem sum_split (lines : List DealLineContext) (p : DealLineContext → Bool)
    (f : DealLineContext → ℚ) :
    ((lines.filter fun l => !p l).map f).sum + ((lines.filter p).map f).sum =
      (lines.map f).sum := by
  induction lines with
  | nil => simp
  | cons l ls ih =>
      cases recurs : p l
      · simp only [List.filter_cons, recurs, Bool.not_false, if_true, List.map_cons, List.sum_cons,
          ← ih, Bool.false_eq_true, if_false]
        ring
      · simp only [List.filter_cons, recurs, Bool.not_true, if_true, List.map_cons, List.sum_cons,
          ← ih, Bool.false_eq_true, if_false]
        ring

/-! ## Contexts -/

section Context

variable (tables : PolicyTables) (rawOrder : RawOrder) (stock : Availability)

theorem dealContextOf_amounts :
    ∀ l ∈ (dealContextOf tables rawOrder stock).lines, LineAmounts l := by
  intro l mem
  obtain ⟨raw, -, rfl⟩ := List.mem_map.mp mem
  exact buildLineContext_amounts raw _

theorem dealContextOf_margin :
    (dealContextOf tables rawOrder stock).totalMarginAmount =
      (dealContextOf tables rawOrder stock).amountUntaxed -
        (dealContextOf tables rawOrder stock).totalCost := by
  have lines := dealContextOf_amounts tables rawOrder stock
  have untaxed : OnGrid ((dealContextOf tables rawOrder stock).lines.map (·.subtotal)).sum := by
    refine onGrid_sum fun x mem => ?_
    obtain ⟨l, memL, rfl⟩ := List.mem_map.mp mem
    exact (lines l memL).onGrid
  have cost : OnGrid ((dealContextOf tables rawOrder stock).lines.map (·.costSubtotal)).sum := by
    refine onGrid_sum fun x mem => ?_
    obtain ⟨l, memL, rfl⟩ := List.mem_map.mp mem
    exact (lines l memL).cost
  exact (untaxed.sub cost).quantizeDec

theorem dealContextOf_totalsAdd : TotalsAdd (dealContextOf tables rawOrder stock) where
  untaxed := rfl
  cycles := (sum_split (dealContextOf tables rawOrder stock).lines (·.isRecurring)
    (·.subtotal)).symm
  cost := rfl
  margins := by
    have each : (dealContextOf tables rawOrder stock).lines.map (·.marginAmount) =
        (dealContextOf tables rawOrder stock).lines.map fun l => l.subtotal - l.costSubtotal :=
      List.map_congr_left fun l mem => (dealContextOf_amounts tables rawOrder stock l mem).margin
    rw [each, sum_sub, dealContextOf_margin]
    rfl
  margin := dealContextOf_margin tables rawOrder stock

/-- What the discounts take off the list values, exactly. -/
theorem sum_net (lines : List DealLineContext) :
    (lines.map fun l => l.qty * l.priceUnit * (1 - l.discountPct / 100)).sum =
      (lines.map fun l => l.qty * l.priceUnit).sum -
        (lines.map fun l => l.qty * l.priceUnit * l.discountPct).sum / 100 := by
  induction lines with
  | nil => simp
  | cons l ls ih =>
      simp only [List.map_cons, List.sum_cons, ih]
      ring

/-- The untaxed amount is off the exact net value by half a cent a line at most. -/
theorem amountUntaxed_error :
    |(dealContextOf tables rawOrder stock).amountUntaxed -
        (listValue (dealContextOf tables rawOrder stock) -
          ((dealContextOf tables rawOrder stock).lines.map fun l =>
            l.qty * l.priceUnit * l.discountPct).sum / 100)| ≤
      (dealContextOf tables rawOrder stock).lines.length * (1 / 200) := by
  set lines := (dealContextOf tables rawOrder stock).lines with known
  have untaxed : (dealContextOf tables rawOrder stock).amountUntaxed =
      (lines.map fun l => quantize 2 (l.qty * l.priceUnit * (1 - l.discountPct / 100))).sum :=
    congrArg List.sum (List.map_congr_left fun l mem =>
      (dealContextOf_amounts tables rawOrder stock l (known ▸ mem)).subtotal)
  have error := sum_quantize_error 2
    (fun l : DealLineContext => l.qty * l.priceUnit * (1 - l.discountPct / 100)) lines
  rw [← untaxed, sum_net] at error
  norm_num at error ⊢
  exact error

/-- The blended discount is the percentage rounded, and that is off by what the subtotals are. -/
theorem blendedDiscount_error (value : 0 < listValue (dealContextOf tables rawOrder stock)) :
    |(dealContextOf tables rawOrder stock).blendedDiscountPct -
        meanDiscount (dealContextOf tables rawOrder stock)| ≤
      5 / 1000 + 1 / 2 * (dealContextOf tables rawOrder stock).lines.length /
        listValue (dealContextOf tables rawOrder stock) := by
  set ctx := dealContextOf tables rawOrder stock with known
  have blended : ctx.blendedDiscountPct =
      quantize 2 ((listValue ctx - ctx.amountUntaxed) / listValue ctx * 100) := if_pos value
  have percentage := quantize_error 2 ((listValue ctx - ctx.amountUntaxed) / listValue ctx * 100)
  rw [← blended] at percentage
  have subtotals := amountUntaxed_error tables rawOrder stock
  rw [← known] at subtotals
  have exact : (listValue ctx - ctx.amountUntaxed) / listValue ctx * 100 - meanDiscount ctx =
      -(ctx.amountUntaxed - (listValue ctx -
        (ctx.lines.map fun l => l.qty * l.priceUnit * l.discountPct).sum / 100)) * 100 /
          listValue ctx := by
    unfold meanDiscount
    ring
  have net : |(listValue ctx - ctx.amountUntaxed) / listValue ctx * 100 - meanDiscount ctx| ≤
      1 / 2 * ctx.lines.length / listValue ctx := by
    have hundred : (0 : ℚ) < 100 := by norm_num
    rw [exact, abs_div, abs_mul, abs_neg, abs_of_pos value, abs_of_pos hundred]
    refine div_le_div_of_nonneg_right ?_ value.le
    linarith
  calc |ctx.blendedDiscountPct - meanDiscount ctx|
      ≤ |ctx.blendedDiscountPct - (listValue ctx - ctx.amountUntaxed) / listValue ctx * 100| +
          |(listValue ctx - ctx.amountUntaxed) / listValue ctx * 100 - meanDiscount ctx| :=
        abs_sub_le _ _ _
    _ ≤ 5 / 1000 + 1 / 2 * ctx.lines.length / listValue ctx := by
        refine add_le_add (percentage.trans ?_) net
        norm_num

end Context

/-- An order that can be read has a context, under some stock. -/
theorem buildDealContext_of_read {σ : Type} (gateway : OdooGateway σ) (tables : PolicyTables)
    (orderId : ℤ) {odoo odoo' : σ} {rawOrder : RawOrder}
    (read : gateway.getSaleOrder orderId odoo = (.ok rawOrder, odoo')) :
    ∃ stock, (buildDealContext gateway tables orderId odoo).1 =
      .ok (dealContextOf tables rawOrder stock) := by
  unfold buildDealContext
  rw [read]
  dsimp only
  split
  · exact ⟨_, rfl⟩
  · split
    · exact ⟨_, rfl⟩
    · exact ⟨_, rfl⟩

/-- Every order that can be read has a context whose totals add up. -/
theorem buildDealContext_totals {σ : Type} (gateway : OdooGateway σ) (tables : PolicyTables)
    (orderId : ℤ) {odoo odoo' : σ} {rawOrder : RawOrder}
    (read : gateway.getSaleOrder orderId odoo = (.ok rawOrder, odoo')) :
    ∃ ctx, ∃ stock : Availability, (buildDealContext gateway tables orderId odoo).1 = .ok ctx ∧
      ctx.lines = rawOrder.lines.map (fun l => buildLineContext l (stock l.productId)) ∧
        TotalsAdd ctx ∧
          (0 < listValue ctx → |ctx.blendedDiscountPct - meanDiscount ctx| ≤
            5 / 1000 + 1 / 2 * rawOrder.lines.length / listValue ctx) := by
  obtain ⟨stock, built⟩ := buildDealContext_of_read gateway tables orderId read
  refine ⟨_, stock, built, rfl, dealContextOf_totalsAdd tables rawOrder stock, fun value => ?_⟩
  have length : (dealContextOf tables rawOrder stock).lines.length = rawOrder.lines.length :=
    List.length_map _
  rw [← length]
  exact blendedDiscount_error tables rawOrder stock value

/-- A subscription and two one-time lines, each off a cent by rounding. -/
def roundedQuotation : RawOrder :=
  quotation
    [{ id := 1, productId := 10, productName := "Desk", categoryId := 1
       productType := "STOCKABLE", qty := 3, priceUnit := 9999 / 100, discountPct := 15 / 2
       unitCost := 4105 / 100, taxRatePct := 18 },
      { id := 2, productId := 11, productName := "Setup", categoryId := 2
        productType := "SERVICE", qty := 1 / 3, priceUnit := 1000, discountPct := 10 / 3
        unitCost := 60, taxRatePct := 18 },
      { id := 3, productId := 12, productName := "Support", categoryId := 2
        productType := "SERVICE", qty := 1, priceUnit := 1 / 100, discountPct := 50
        unitCost := 0, taxRatePct := 18, isRecurring := true }]

theorem roundedQuotation_totals :
    ∃ ctx, ∃ stock : Availability,
      (buildDealContext orderOnFile {} 7 (roundedQuotation, fun _ => ∅)).1 = .ok ctx ∧
      ctx.lines = roundedQuotation.lines.map (fun l => buildLineContext l (stock l.productId)) ∧
        TotalsAdd ctx ∧ 0 < listValue ctx ∧
          |ctx.blendedDiscountPct - meanDiscount ctx| ≤
            5 / 1000 + 1 / 2 * (3 : ℕ) / listValue ctx := by
  obtain ⟨ctx, stock, built, lines, totals, bound⟩ :=
    buildDealContext_totals orderOnFile {} 7
      (rfl : orderOnFile.getSaleOrder 7 (roundedQuotation, fun _ => ∅) = _)
  have value : 0 < listValue ctx := by
    unfold listValue
    rw [lines, List.map_map]
    have listed : 0 < (roundedQuotation.lines.map fun l =>
        quantizeDec l.qty * quantizeDec l.priceUnit).sum := by decide +kernel
    exact listed
  exact ⟨ctx, stock, built, lines, totals, value, bound value⟩

end DealFlow
