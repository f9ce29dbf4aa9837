import DealFlow.Risk.Strictness
import Mathlib.Data.Finset.Order

/-!
# Raising the discount of a line

`withDiscount ctx i d` sets the discount of one line.  A higher discount raises that line's overage
and lowers the net amount of the order, so the discount factor rises, and the margin falls, as long
as there is a net amount to take it of.  Where nothing is left to pay, the margin counts as zero:
an order sold at a loss then looks better than one sold for a little (`DiscountRaiseSafe`).

* `riskRises_withDiscount`: score and level rise with the discount outside of that case.
* `riskRises_withDiscount_iff`: and in that case they do not, under some policy.
-/

namespace DealFlow

open Lib

/-- The context with the discount of its `i`-th line set. -/
def DealContext.withDiscount (ctx : DealContext) (i : ℕ) (discountPct : ℚ) : DealContext :=
  { ctx with lines := ctx.lines.modify i fun l => { l with discountPct } }

/-- Under every ceilings, policy and negotiation, score and level of the second deal are at least
those of the first. -/
def RiskRises (ctx ctx' : DealContext) : Prop :=
  ∀ (lineCeilings : ℤ → Option ℚ) (policy : RiskPolicy) (counter : Bool),
    (calculateDealRisk ctx lineCeilings policy {} counter).riskScore ≤
        (calculateDealRisk ctx' lineCeilings policy {} counter).riskScore ∧
      levelPriority (calculateDealRisk ctx lineCeilings policy {} counter).requiredLevel ≤
        levelPriority (calculateDealRisk ctx' lineCeilings policy {} counter).requiredLevel

/-- What the customer pays for the lines, before tax. -/
def orderNet (ctx : DealContext) : ℚ :=
  (ctx.lines.map fun l => l.qty * l.priceUnit * (1 - effectiveDiscount ctx l / 100)).sum

def orderCost (ctx : DealContext) : ℚ :=
  (ctx.lines.map (·.costSubtotal)).sum

/-- When raising the discount of a line to `d` is sure not to lower the risk. -/
structure DiscountRaiseSafe (ctx : DealContext) (i : ℕ) (d : ℚ) : Prop where
  /-- An order discount above 100 % turns the discounts of the lines around. -/
  effective : ctx.orderDiscountPct ≤ 100 ∨ ∀ l, ctx.lines[i]? = some l →
    effectiveDiscount ctx l ≤ effectiveDiscount ctx { l with discountPct := d }
  /-- The raise leaves something to pay, or cost exceeds it by less than 0.005 % before. -/
  revenue : 0 < orderNet ctx →
    0 < orderNet (ctx.withDiscount i d) ∨ 20000 * orderCost ctx < 20001 * orderNet ctx

/-! ## The lines -/

section Lines

variable {ctx : DealContext} {i : ℕ} {d : ℚ}

/-- Two lines that differ in the discount at most, which takes effect more on the second. -/
structure LineRaised (ctx : DealContext) (l l' : DealLineContext) : Prop where
  same : ∃ discountPct, l' = { l with discountPct }
  effective : effectiveDiscount ctx l ≤ effectiveDiscount ctx l'

theorem effectiveDiscount_mono (order : ctx.orderDiscountPct ≤ 100) {l : DealLineContext}
    (raise : l.discountPct ≤ d) :
    effectiveDiscount ctx l ≤ effectiveDiscount ctx { l with discountPct := d } := by
  refine quantizeDec_mono 4 ?_
  split
  · have kept : 0 ≤ 1 - ctx.orderDiscountPct / 100 := by linarith
    have line : 1 - d / 100 ≤ 1 - l.discountPct / 100 := by linarith
    have product := mul_le_mul_of_nonneg_right line kept
    linarith
  · exact raise

/-- Setting a discount does not move what a line has besides it. -/
theorem map_lines_withDiscount {β : Type} {g : DealLineContext → β}
    (blind : ∀ l discountPct, g { l with discountPct } = g l) :
    (ctx.withDiscount i d).lines.map g = ctx.lines.map g := by
  refine List.ext_getElem? fun j => ?_
  rw [List.getElem?_map, List.getElem?_map, DealContext.withDiscount, List.getElem?_modify]
  cases ctx.lines[j]? with
  | none => rfl
  | some l =>
      simp only [Option.map_some]
      split
      · exact congrArg some (blind l d)
      · rfl

theorem lines_raised
    (effective : ∀ l, ctx.lines[i]? = some l →
      effectiveDiscount ctx l ≤ effectiveDiscount ctx { l with discountPct := d }) :
    List.Forall₂ (LineRaised ctx) ctx.lines (ctx.withDiscount i d).lines := by
  refine List.forall₂_iff_get.mpr ⟨(List.length_modify ..).symm, fun j inside inside' => ?_⟩
  simp only [DealContext.withDiscount, List.get_eq_getElem, List.getElem_modify]
  split
  · next same =>
      subst same
      exact ⟨⟨d, rfl⟩, effective _ (List.getElem?_eq_getElem inside)⟩
  · exact ⟨⟨_, rfl⟩, le_rfl⟩

variable {lineCeilings : ℤ → Option ℚ}

theorem totalList_withDiscount : totalList (ctx.withDiscount i d) = totalList ctx :=
  congrArg List.sum (map_lines_withDiscount fun _ _ => rfl)

/-- The entry of a raised line. -/
theorem lineOverage_raised {l l' : DealLineContext} (raised : LineRaised ctx l l')
    (amount : 0 ≤ l.qty * l.priceUnit) :
    OverageRises (lineOverage ctx lineCeilings l)
      (lineOverage (ctx.withDiscount i d) lineCeilings l') := by
  obtain ⟨⟨discountPct, rfl⟩, effective⟩ := raised
  refine ⟨?_, ?_, lineOverage_weight_nonneg amount⟩
  · exact quantizeDec_mono 4 (max_le_max_left 0 (sub_le_sub_right effective _))
  · simp only [lineOverage, totalList_withDiscount]

theorem lineOverages_raised (amounts : ∀ l ∈ ctx.lines, 0 ≤ l.qty * l.priceUnit)
    (effective : ∀ l, ctx.lines[i]? = some l →
      effectiveDiscount ctx l ≤ effectiveDiscount ctx { l with discountPct := d }) :
    List.Forall₂ OverageRises (lineOverages ctx lineCeilings)
      (lineOverages (ctx.withDiscount i d) lineCeilings) := by
  obtain ⟨sameLength, raised⟩ := List.forall₂_iff_get.mp (lines_raised effective)
  unfold lineOverages
  rw [List.forall₂_map_left_iff, List.forall₂_map_right_iff]
  refine List.forall₂_iff_get.mpr ⟨sameLength, fun j inside inside' => ?_⟩
  exact lineOverage_raised (raised j inside inside') (amounts _ (List.getElem_mem inside))

end Lines

/-! ## The margin -/

section Margin

variable {ctx : DealContext} {i : ℕ} {d : ℚ}

theorem dealMarginPct_eq (ctx : DealContext) (lineCeilings : ℤ → Option ℚ) :
    dealMarginPct (lineOverages ctx lineCeilings) =
      quantizeDec
        (if 0 < orderNet ctx then (orderNet ctx - orderCost ctx) / orderNet ctx * 100 else 0) := by
  simp only [dealMarginPct, totalNet, lineOverages, List.map_map, orderNet, orderCost]
  rfl

theorem orderCost_withDiscount : orderCost (ctx.withDiscount i d) = orderCost ctx :=
  congrArg List.sum (map_lines_withDiscount fun _ _ => rfl)

theorem orderNet_withDiscount (amounts : ∀ l ∈ ctx.lines, 0 ≤ l.qty * l.priceUnit)
    (effective : ∀ l, ctx.lines[i]? = some l →
      effectiveDiscount ctx l ≤ effectiveDiscount ctx { l with discountPct := d }) :
    orderNet (ctx.withDiscount i d) ≤ orderNet ctx := by
  obtain ⟨sameLength, raised⟩ := List.forall₂_iff_get.mp (lines_raised effective)
  refine List.Forall₂.sum_le_sum ?_
  rw [List.forall₂_map_left_iff, List.forall₂_map_right_iff]
  refine List.forall₂_iff_get.mpr ⟨sameLength.symm, fun j inside inside' => ?_⟩
  obtain ⟨⟨discountPct, eq⟩, more⟩ := raised j inside' inside
  have amount := amounts _ (List.getElem_mem inside')
  rw [eq] at more ⊢
  refine mul_le_mul_of_nonneg_left ?_ amount
  have more' : effectiveDiscount ctx (ctx.lines.get ⟨j, inside'⟩) / 100 ≤
      effectiveDiscount ctx { ctx.lines.get ⟨j, inside'⟩ with discountPct } / 100 :=
    div_le_div_of_nonneg_right more (by norm_num)
  exact sub_le_sub_left more' 1

/-- The margin is negative when the cost exceeds what is paid by 0.005 % at least. -/
theorem dealMarginPct_neg_iff (ctx : DealContext) (lineCeilings : ℤ → Option ℚ) :
    dealMarginPct (lineOverages ctx lineCeilings) < 0 ↔
      0 < orderNet ctx ∧ 20001 * orderNet ctx ≤ 20000 * orderCost ctx := by
  rw [dealMarginPct_eq, quantizeDec, quantize_neg_iff]
  by_cases paid : 0 < orderNet ctx
  · rw [if_pos paid]
    have scaled : (orderNet ctx - orderCost ctx) / orderNet ctx * 100 * 10 ^ 2 =
        10000 * (orderNet ctx - orderCost ctx) / orderNet ctx := by
      field_simp
      ring
    rw [scaled, div_le_iff₀ paid]
    constructor
    · intro below
      exact ⟨paid, by linarith⟩
    · rintro ⟨-, loss⟩
      linarith
  · rw [if_neg paid]
    constructor
    · intro below
      norm_num at below
    · rintro ⟨paid', -⟩
      exact absurd paid' paid

/-- A higher discount lowers the margin, unless it ends a loss by leaving nothing to pay. -/
theorem dealMarginPct_withDiscount (lineCeilings : ℤ → Option ℚ) (cost : 0 ≤ orderCost ctx)
    (less : orderNet (ctx.withDiscount i d) ≤ orderNet ctx)
    (revenue : 0 < orderNet ctx →
      0 < orderNet (ctx.withDiscount i d) ∨ 20000 * orderCost ctx < 20001 * orderNet ctx) :
    dealMarginPct (lineOverages (ctx.withDiscount i d) lineCeilings) ≤
      dealMarginPct (lineOverages ctx lineCeilings) := by
  by_cases paid' : 0 < orderNet (ctx.withDiscount i d)
  · have paid : 0 < orderNet ctx := paid'.trans_le less
    rw [dealMarginPct_eq, dealMarginPct_eq, if_pos paid', if_pos paid, orderCost_withDiscount]
    refine quantizeDec_mono 2 (mul_le_mul_of_nonneg_right ?_ (by norm_num))
    rw [sub_div, div_self paid'.ne', sub_div, div_self paid.ne']
    exact sub_le_sub_left (div_le_div_of_nonneg_left cost paid' less) 1
  · have zero : dealMarginPct (lineOverages (ctx.withDiscount i d) lineCeilings) = 0 := by
      rw [dealMarginPct_eq, if_neg paid', quantizeDec_zero]
    rw [zero]
    by_contra negative
    obtain ⟨paid, loss⟩ := (dealMarginPct_neg_iff ctx lineCeilings).mp (not_le.mp negative)
    rcases revenue paid with left | small
    · exact paid' left
    · exact absurd loss small.not_ge

end Margin

/-! ## Score and level -/

section Score

variable {ctx : DealContext} {i : ℕ} {d : ℚ}

/-- The inventory factor does not look at discounts. -/
theorem inventoryFactors_withDiscount (weights : RiskWeights) :
    inventoryFactors weights (ctx.withDiscount i d).lines = inventoryFactors weights ctx.lines := by
  have fold : ∀ lines : List DealLineContext, lines.foldl (inventoryPoints weights) 0 =
      (lines.map fun l => { l with discountPct := 0 }).foldl (inventoryPoints weights) 0 := by
    intro lines
    rw [List.foldl_map]
    rfl
  have points : (ctx.withDiscount i d).lines.foldl (inventoryPoints weights) 0 =
      ctx.lines.foldl (inventoryPoints weights) 0 := by
    rw [fold, map_lines_withDiscount fun _ _ => rfl, ← fold]
  unfold inventoryFactors
  rw [points]

theorem Stricter.refl (ctx : DealContext) (lineCeilings : ℤ → Option ℚ) (policy : RiskPolicy) :
    Stricter ctx lineCeilings policy lineCeilings policy :=
  { ceilings := fun _ _ => le_rfl
    minimumMargin := le_rfl
    managerThreshold := le_rfl
    financeThreshold := le_rfl
    singleLineFinance := le_rfl }

/-- A safe raise never lowers score or level. -/
theorem riskRises_withDiscount (amounts : ∀ l ∈ ctx.lines, 0 ≤ l.qty * l.priceUnit)
    (cost : 0 ≤ orderCost ctx)
    (effective : ∀ l, ctx.lines[i]? = some l →
      effectiveDiscount ctx l ≤ effectiveDiscount ctx { l with discountPct := d })
    (revenue : 0 < orderNet ctx →
      0 < orderNet (ctx.withDiscount i d) ∨ 20000 * orderCost ctx < 20001 * orderNet ctx) :
    RiskRises ctx (ctx.withDiscount i d) := by
  intro lineCeilings policy counter
  have rises : List.Forall₂ OverageRises (lineOverages ctx lineCeilings)
      (lineOverages (ctx.withDiscount i d) lineCeilings) := lineOverages_raised amounts effective
  have margin := dealMarginPct_withDiscount lineCeilings cost
    (orderNet_withDiscount amounts effective) revenue
  have discount := max_le_max_left 0 (discountExcessContrib_rises rises {})
  have gap := marginPoints_mono {} (sub_le_sub_left margin policy.minimumMarginPct)
  have score : (calculateDealRisk ctx lineCeilings policy {} counter).riskScore ≤
      (calculateDealRisk (ctx.withDiscount i d) lineCeilings policy {} counter).riskScore := by
    rw [calculateDealRisk_score, calculateDealRisk_score, points_marginFactors,
      points_marginFactors, inventoryFactors_withDiscount]
    refine min_le_min_left _ (quantizeDec_mono 2 ?_)
    gcongr
  exact ⟨score, routingLevel_mono score (maxOverage_rises rises) maxOverage_nonneg
    (Stricter.refl ctx lineCeilings policy)⟩

end Score

/-! ## Where the risk falls -/

section Falls

variable {ctx : DealContext} {i : ℕ} {d : ℚ}

/-- Ceilings no line exceeds leave no overage. -/
theorem lineOverages_zero {lineCeilings : ℤ → Option ℚ}
    (under : ∀ l ∈ ctx.lines, effectiveDiscount ctx l ≤ ceilingOf ctx lineCeilings l) :
    ∀ o ∈ lineOverages ctx lineCeilings, o.overage = 0 := by
  intro o mem
  obtain ⟨l, memL, rfl⟩ := List.mem_map.mp mem
  have none : max 0 (effectiveDiscount ctx l - ceilingOf ctx lineCeilings l) = 0 :=
    max_eq_left (sub_nonpos.mpr (under l memL))
  simp only [lineOverage, none, quantizeDec_zero]

theorem maxOverage_zero {os : List LineOverage} (zero : ∀ o ∈ os, o.overage = 0) :
    maxOverage os = 0 := by
  rcases (maxOverage_spec os).2 with ⟨-, eq⟩ | ⟨o, mem, eq⟩
  · exact eq
  · exact eq.trans (zero o mem)

/-- The score without overages. -/
theorem riskScore_without_overage {lineCeilings : ℤ → Option ℚ} (policy : RiskPolicy)
    (under : ∀ l ∈ ctx.lines, effectiveDiscount ctx l ≤ ceilingOf ctx lineCeilings l) :
    (calculateDealRisk ctx lineCeilings policy {} false).riskScore =
      min 100 (quantizeDec (points (inventoryFactors {} ctx.lines) +
        marginPoints {}
          (policy.minimumMarginPct - dealMarginPct (lineOverages ctx lineCeilings)))) := by
  have none : violatingLines (lineOverages ctx lineCeilings) = [] :=
    List.filter_eq_nil_iff.mpr fun o mem => by simp [lineOverages_zero under o mem]
  rw [calculateDealRisk_score, discountExcessContrib_of_none {} none, points_marginFactors]
  simp only [max_self, zero_add, negotiationFactors, Bool.false_eq_true, if_false, points_nil,
    add_comm]

theorem inventoryFactors_bounds (weights : RiskWeights) (lines : List DealLineContext) :
    0 ≤ points (inventoryFactors weights lines) ∧
      points (inventoryFactors weights lines) ≤ weights.invCap := by
  simp only [inventoryFactors]
  split
  · next pos =>
      rw [points_singleton]
      exact ⟨pos.le, min_le_left _ _⟩
  · exact ⟨le_rfl, weights.invCap.2⟩

/-- Points for a negative margin against a floor of zero. -/
theorem marginPoints_of_loss {marginPct : ℚ} (loss : marginPct ≤ -1 / 10 ^ 2) :
    (1 : ℕ) / 10 ^ 2 ≤ marginPoints {} (0 - marginPct) := by
  have gap : 1 / 100 ≤ 0 - marginPct := by linarith
  have least : marginPoints {} (1 / 100) = 3 / 100 := by decide +kernel
  calc ((1 : ℕ) : ℚ) / 10 ^ 2
      ≤ marginPoints {} (1 / 100) := by rw [least]; norm_num
    _ ≤ marginPoints {} (0 - marginPct) := marginPoints_mono {} gap

/-- A ceiling for all lines of two contexts. -/
theorem exists_ceiling (ctx ctx' : DealContext) :
    ∃ ceiling, (∀ l ∈ ctx.lines, effectiveDiscount ctx l ≤ ceiling) ∧
      ∀ l ∈ ctx'.lines, effectiveDiscount ctx' l ≤ ceiling := by
  obtain ⟨ceiling, bound⟩ := Finset.exists_le (ctx.lines.map (effectiveDiscount ctx) ++
    ctx'.lines.map (effectiveDiscount ctx')).toFinset
  refine ⟨ceiling, fun l mem => bound _ (List.mem_toFinset.mpr ?_),
    fun l mem => bound _ (List.mem_toFinset.mpr ?_)⟩
  · exact List.mem_append_left _ (List.mem_map_of_mem mem)
  · exact List.mem_append_right _ (List.mem_map_of_mem mem)

/-- Leaving nothing to pay of an order sold at a loss lowers the score under a floor of zero. -/
theorem revenue_of_riskRises (rises : RiskRises ctx (ctx.withDiscount i d))
    (paid : 0 < orderNet ctx) :
    0 < orderNet (ctx.withDiscount i d) ∨ 20000 * orderCost ctx < 20001 * orderNet ctx := by
  by_contra unsafe'
  obtain ⟨nothing, loss⟩ := not_or.mp unsafe'
  obtain ⟨ceiling, under, under'⟩ := exists_ceiling ctx (ctx.withDiscount i d)
  have score := (rises (fun _ => some ceiling) { minimumMarginPct := 0 } false).1
  have margin' : dealMarginPct (lineOverages (ctx.withDiscount i d) fun _ => some ceiling) = 0 := by
    rw [dealMarginPct_eq, if_neg nothing, quantizeDec_zero]
  have margin : dealMarginPct (lineOverages ctx fun _ => some ceiling) ≤ -1 / 10 ^ 2 :=
    quantize_le_of_neg ((dealMarginPct_neg_iff ctx _).mpr ⟨paid, not_lt.mp loss⟩)
  have points' : marginPoints {} (0 - 0) = 0 := by decide +kernel
  have gained := marginPoints_of_loss margin
  obtain ⟨lower, upper⟩ := inventoryFactors_bounds {} ctx.lines
  set stock := points (inventoryFactors {} ctx.lines)
  have stocked : quantizeDec stock ≤ 20 := by
    calc quantizeDec stock
        ≤ quantizeDec 20 := quantizeDec_mono 2 upper
      _ = 20 := by decide +kernel
  have more : quantizeDec stock + (1 : ℕ) / 10 ^ 2 ≤ quantizeDec (stock +
      marginPoints {} (0 - dealMarginPct (lineOverages ctx fun _ => some ceiling))) := by
    rw [quantizeDec, ← quantize_add_grid lower]
    exact quantizeDec_mono 2 (add_le_add_right gained stock)
  rw [riskScore_without_overage _ under, riskScore_without_overage _ under',
    inventoryFactors_withDiscount, margin', points', add_zero] at score
  have low := score.trans (min_le_right _ _)
  have step : (0 : ℚ) < (1 : ℕ) / 10 ^ 2 := by norm_num
  rcases min_le_iff.mp low with capped | falls
  · linarith
  · exact absurd (more.trans falls) (lt_add_of_pos_right _ step).not_ge

/-- The ceilings that are `ceiling` on one line and `others` on the rest. -/
def ceilingsBut (lineId : ℤ) (ceiling others : ℚ) : ℤ → Option ℚ := fun id =>
  some (if id = lineId then ceiling else others)

/-- Rounded figures differ by a rounded figure. -/
theorem quantizeDec_sub (x y : ℚ) (places : ℕ) :
    quantizeDec (quantizeDec x places - quantizeDec y places) places =
      quantizeDec x places - quantizeDec y places := by
  have scale : (10 : ℚ) ^ places ≠ 0 := by positivity
  refine quantize_of_grid (n := roundHalfUp (x * 10 ^ places) - roundHalfUp (y * 10 ^ places)) ?_
  simp only [quantizeDec, quantize]
  push_cast
  field_simp

/-- Without an overage nothing has to be approved below the manager's threshold. -/
theorem requiredLevel_without_overage {lineCeilings : ℤ → Option ℚ}
    (under : ∀ l ∈ ctx.lines, effectiveDiscount ctx l ≤ ceilingOf ctx lineCeilings l) :
    (calculateDealRisk ctx lineCeilings { managerThreshold := 101 } {} false).requiredLevel =
      .none := by
  have zero := maxOverage_zero (lineOverages_zero under)
  have low : (calculateDealRisk ctx lineCeilings { managerThreshold := 101 } {} false).riskScore <
      101 := (min_le_left _ _).trans_lt (by norm_num)
  exact congrArg Prod.fst (if_pos ⟨zero, low⟩)

/-- With an overage something has. -/
theorem requiredLevel_of_overage {lineCeilings : ℤ → Option ℚ}
    (above : 0 < maxOverage (lineOverages ctx lineCeilings)) (policy : RiskPolicy) :
    levelPriority (calculateDealRisk ctx lineCeilings policy {} false).requiredLevel ≠ 0 := by
  simp only [calculateDealRisk, routingLevel, above.ne', false_and, if_false]
  split
  · exact Nat.succ_ne_zero 1
  · exact Nat.succ_ne_zero 0

/-- A line whose discount takes less effect after the raise comes under a ceiling it was above. -/
theorem effective_of_riskRises (distinct : (ctx.lines.map (·.lineId)).Nodup)
    (rises : RiskRises ctx (ctx.withDiscount i d)) {l : DealLineContext}
    (line : ctx.lines[i]? = some l) :
    effectiveDiscount ctx l ≤ effectiveDiscount ctx { l with discountPct := d } := by
  by_contra less
  obtain ⟨inside, rfl⟩ := List.getElem?_eq_some_iff.mp line
  obtain ⟨others, -, under⟩ := exists_ceiling ctx (ctx.withDiscount i d)
  set lowered := effectiveDiscount ctx { ctx.lines[i] with discountPct := d } with loweredDef
  have level := (rises (ceilingsBut ctx.lines[i].lineId lowered others)
    { managerThreshold := 101 } false).2
  -- the line is above its ceiling before
  have above : 0 < maxOverage
      (lineOverages ctx (ceilingsBut ctx.lines[i].lineId lowered others)) := by
    have bound := (maxOverage_spec
      (lineOverages ctx (ceilingsBut ctx.lines[i].lineId lowered others))).1 _
      (List.mem_map.mpr ⟨ctx.lines[i], List.getElem_mem inside, rfl⟩)
    refine lt_of_lt_of_le ?_ bound
    have gap : 0 < effectiveDiscount ctx ctx.lines[i] - lowered := sub_pos.mpr (not_le.mp less)
    have own : ceilingOf ctx (ceilingsBut ctx.lines[i].lineId lowered others) ctx.lines[i] =
        lowered := by simp [ceilingOf, ceilingsBut]
    simp only [lineOverage, own, max_eq_right gap.le]
    rw [loweredDef, effectiveDiscount, effectiveDiscount, quantizeDec_sub]
    exact gap
  -- and no line is afterwards
  have within : ∀ l' ∈ (ctx.withDiscount i d).lines,
      effectiveDiscount (ctx.withDiscount i d) l' ≤ ceilingOf (ctx.withDiscount i d)
        (ceilingsBut ctx.lines[i].lineId lowered others) l' := by
    intro l' mem
    obtain ⟨j, inside', rfl⟩ := List.mem_iff_getElem.mp mem
    have inLines : j < ctx.lines.length := by
      simpa [DealContext.withDiscount] using inside'
    by_cases same : i = j
    · subst same
      simp [DealContext.withDiscount, ceilingOf, ceilingsBut, loweredDef, effectiveDiscount]
    · have other : ctx.lines[j].lineId ≠ ctx.lines[i].lineId := by
        intro eq
        have bound : i < (ctx.lines.map (·.lineId)).length := by simpa using inside
        have bound' : j < (ctx.lines.map (·.lineId)).length := by simpa using inLines
        have ids : (ctx.lines.map (·.lineId))[i] = (ctx.lines.map (·.lineId))[j] := by
          simpa using eq.symm
        exact same (distinct.getElem_inj_iff.mp ids)
      have bound := under _ mem
      simpa [DealContext.withDiscount, List.getElem_modify, same, ceilingOf, ceilingsBut, other]
        using bound
  rw [requiredLevel_without_overage within] at level
  exact requiredLevel_of_overage above _ (Nat.le_zero.mp level)

end Falls

/-- Raising the discount of a line never lowers score or level, whatever ceilings and policy, if
the raise is safe; and where the lines have their own ids, only then. -/
theorem riskRises_withDiscount_iff {ctx : DealContext} {i : ℕ} {d : ℚ}
    (nonneg : ∀ l ∈ ctx.lines, 0 ≤ l.qty ∧ 0 ≤ l.priceUnit ∧ 0 ≤ l.costSubtotal)
    (raise : ∀ l, ctx.lines[i]? = some l → l.discountPct ≤ d) :
    (DiscountRaiseSafe ctx i d → RiskRises ctx (ctx.withDiscount i d)) ∧
      ((ctx.lines.map (·.lineId)).Nodup → RiskRises ctx (ctx.withDiscount i d) →
        DiscountRaiseSafe ctx i d) := by
  constructor
  · rintro ⟨effective, revenue⟩
    have amounts : ∀ l ∈ ctx.lines, 0 ≤ l.qty * l.priceUnit := fun l mem =>
      mul_nonneg (nonneg l mem).1 (nonneg l mem).2.1
    have cost : 0 ≤ orderCost ctx := List.sum_nonneg fun x mem => by
      obtain ⟨l, memL, rfl⟩ := List.mem_map.mp mem
      exact (nonneg l memL).2.2
    refine riskRises_withDiscount amounts cost (fun l line => ?_) revenue
    rcases effective with order | more
    · exact effectiveDiscount_mono order (raise l line)
    · exact more l line
  · intro distinct rises
    exact
      { effective := .inr fun l line => effective_of_riskRises distinct rises line
        revenue := revenue_of_riskRises rises }

theorem strictnessContext_riskRises :
    DiscountRaiseSafe strictnessContext 0 60 ∧
      RiskRises strictnessContext (strictnessContext.withDiscount 0 60) := by
  have safe : DiscountRaiseSafe strictnessContext 0 60 :=
    { effective := .inl (by decide +kernel)
      revenue := fun _ => .inl (by decide +kernel) }
  exact ⟨safe, (riskRises_withDiscount_iff (by decide +kernel) (by decide +kernel)).1 safe⟩

/-- One line of list value 100 and cost 150, at half price. -/
def lossLeader : DealContext :=
  dealContextOf {}
    { header :=
        { id := 8, name := "S00008", partnerId := 3, partnerName := "Acme", state := "draft"
          currency := "INR", userId := 4, teamId := none, companyId := 1 }
      lines :=
        [{ id := 1, productId := 12, productName := "Sample", categoryId := 3
           productType := "SERVICE", qty := 1, priceUnit := 100, discountPct := 50
           unitCost := 150, taxRatePct := 0 }] }
    fun _ => ∅

/-- Given away for nothing it needs no approval any more. -/
theorem lossLeader_risk_falls :
    ((∀ l ∈ lossLeader.lines, 0 ≤ l.qty ∧ 0 ≤ l.priceUnit ∧ 0 ≤ l.costSubtotal) ∧
        lossLeader.lines.map (·.discountPct) = [50]) ∧
      (calculateDealRisk lossLeader (fun _ => some 100) { minimumMarginPct := 5 }).riskScore = 25 ∧
      (calculateDealRisk lossLeader (fun _ => some 100)
          { minimumMarginPct := 5 }).requiredLevel = .manager ∧
      (calculateDealRisk (lossLeader.withDiscount 0 100) (fun _ => some 100)
          { minimumMarginPct := 5 }).riskScore = 15 ∧
      (calculateDealRisk (lossLeader.withDiscount 0 100) (fun _ => some 100)
          { minimumMarginPct := 5 }).requiredLevel = .none := by
  decide +kernel

end DealFlow
