import DealFlow.Lib.PythonText
import DealFlow.Risk.OneMoreLine

/-!
# Removed lines

An accepted removal leaves its line on the order with quantity zero.  Fulfillment passes over such
lines; the risk calculation does not: a removed line counts as one more line on the order, its
discount is held against its ceiling, and above that it takes part in the apportionment.

`removed_iff` says when the calculation comes out as without the line, in terms of the lines that
stay (`RemovalNeutral`).
-/

namespace DealFlow

open Lib

/-- The context with other lines. -/
def DealContext.withLines (ctx : DealContext) (lines : List DealLineContext) : DealContext :=
  { ctx with lines }

/-! ## Contexts -/

/-- A line does not matter to the calculation. -/
def CarriesNoRisk (ctx : DealContext) (lineCeilings : ℤ → Option ℚ)
    (before : List DealLineContext) (z : DealLineContext) (after : List DealLineContext) : Prop :=
  ∀ policy counter,
    let kept := calculateDealRisk (ctx.withLines (before ++ z :: after)) lineCeilings policy {}
      counter
    let deleted := calculateDealRisk (ctx.withLines (before ++ after)) lineCeilings policy {}
      counter
    kept.riskScore = deleted.riskScore ∧ kept.severity = deleted.severity ∧
      kept.requiredLevel = deleted.requiredLevel ∧
      kept.factors.filter (fun f => f.sourceReference ≠ s!"line:{z.lineId}") =
        deleted.factors.filter fun f => f.sourceReference ≠ s!"line:{z.lineId}"

/-- A line as the calculation sees it among the lines that stay. -/
def amongOthers (ctx : DealContext) (lineCeilings : ℤ → Option ℚ)
    (before after : List DealLineContext) : DealLineContext → LineOverage :=
  lineOverage (ctx.withLines (before ++ after)) lineCeilings

/-- The lines that stay, as the calculation sees them. -/
def staying (ctx : DealContext) (lineCeilings : ℤ → Option ℚ)
    (before after : List DealLineContext) : List LineOverage :=
  (before ++ after).map (amongOthers ctx lineCeilings before after)

/-- What it takes for a removed line not to matter.  Its cost leaves the rounded margin of the
others alone, it has no more inventory points than they have and no larger overage, and the points
of the excess come to the same with the ratio of violating lines that it makes.  If it is above its
ceiling itself, it takes nothing of what the others are charged. -/
structure RemovalNeutral (ctx : DealContext) (lineCeilings : ℤ → Option ℚ)
    (before : List DealLineContext) (z : DealLineContext) (after : List DealLineContext) :
    Prop where
  margin : marginWith (staying ctx lineCeilings before after) z.costSubtotal =
    marginWith (staying ctx lineCeilings before after) 0
  inventory : inventoryPoints {} 0 z ≤ (before ++ after).foldl (inventoryPoints {}) 0
  overage : (amongOthers ctx lineCeilings before after z).overage ≤
    maxOverage (staying ctx lineCeilings before after)
  excess :
    max 0 (excessAt {} (staying ctx lineCeilings before after)
        (ratioWith (staying ctx lineCeilings before after)
          (amongOthers ctx lineCeilings before after z))) =
      max 0 (excessAt {} (staying ctx lineCeilings before after)
        (violationRatio (staying ctx lineCeilings before after)))
  charges : 0 < (amongOthers ctx lineCeilings before after z).overage →
    0 < excessAt {} (staying ctx lineCeilings before after)
      (violationRatio (staying ctx lineCeilings before after)) →
    ChargesUnmoved
      (excessAt {} (staying ctx lineCeilings before after)
        (violationRatio (staying ctx lineCeilings before after)))
      (staying ctx lineCeilings before after)
      (FirstHighest (before.map (amongOthers ctx lineCeilings before after))
        (amongOthers ctx lineCeilings before after z)
        (after.map (amongOthers ctx lineCeilings before after)))

/-- The figures of the calculation with the line are those without it: margin, inventory points,
largest overage and the points of the excess, and if the line is above its ceiling what the other
lines are charged. -/
structure AggregatesKept (ctx : DealContext) (lineCeilings : ℤ → Option ℚ)
    (before : List DealLineContext) (z : DealLineContext) (after : List DealLineContext) :
    Prop where
  margin :
    dealMarginPct ((before ++ z :: after).map (amongOthers ctx lineCeilings before after)) =
      dealMarginPct ((before ++ after).map (amongOthers ctx lineCeilings before after))
  inventory : inventoryPoints {} 0 z ≤ (before ++ after).foldl (inventoryPoints {}) 0
  overage : (amongOthers ctx lineCeilings before after z).overage ≤
    maxOverage ((before ++ after).map (amongOthers ctx lineCeilings before after))
  excess :
    max 0 (discountExcessContrib {}
        ((before ++ z :: after).map (amongOthers ctx lineCeilings before after))) =
      max 0 (discountExcessContrib {}
        ((before ++ after).map (amongOthers ctx lineCeilings before after)))
  charges : 0 < (amongOthers ctx lineCeilings before after z).overage →
    0 < discountExcessContrib {}
      ((before ++ after).map (amongOthers ctx lineCeilings before after)) →
    ChargesKept {} (before.map (amongOthers ctx lineCeilings before after))
      (amongOthers ctx lineCeilings before after z)
      (after.map (amongOthers ctx lineCeilings before after))

section Contexts

variable {ctx : DealContext} {lineCeilings : ℤ → Option ℚ} {before after : List DealLineContext}
  {z : DealLineContext}

theorem totalList_removed (removed : z.qty = 0) :
    totalList (ctx.withLines (before ++ z :: after)) =
      totalList (ctx.withLines (before ++ after)) := by
  simp [totalList, DealContext.withLines, removed]

/-- The lines are seen alike with the removed line and without it. -/
theorem lineOverages_removed (removed : z.qty = 0) :
    lineOverages (ctx.withLines (before ++ z :: after)) lineCeilings =
      (before ++ z :: after).map (amongOthers ctx lineCeilings before after) := by
  refine List.map_congr_left fun l _ => ?_
  unfold amongOthers lineOverage
  rw [totalList_removed removed]
  rfl

theorem amongOthers_removed (removed : z.qty = 0) :
    (amongOthers ctx lineCeilings before after z).weight = 0 ∧
      (amongOthers ctx lineCeilings before after z).listAmt = 0 := by
  simp [amongOthers, lineOverage, removed, rounds_decimal28.zero]

theorem inventoryPoints_eq_max (l : DealLineContext) {p : ℚ} (nonneg : 0 ≤ p) :
    inventoryPoints {} p l = max p (inventoryPoints {} 0 l) := by
  unfold inventoryPoints
  split_ifs
  · rw [← max_assoc, max_eq_left nonneg]
  · rw [← max_assoc, max_eq_left nonneg]
  · rw [max_eq_left nonneg]
  · rw [max_eq_left nonneg]

theorem inventoryPoints_bounds (l : DealLineContext) :
    0 ≤ inventoryPoints {} 0 l ∧ inventoryPoints {} 0 l ≤ 20 := by
  unfold inventoryPoints
  split_ifs <;> norm_num

/-- The inventory points of some lines are the most that one of them has. -/
theorem foldl_inventoryPoints (lines : List DealLineContext) {p : ℚ} (nonneg : 0 ≤ p) :
    lines.foldl (inventoryPoints {}) p = max p (lines.foldl (inventoryPoints {}) 0) := by
  induction lines generalizing p with
  | nil => exact (max_eq_left nonneg).symm
  | cons l ls ih =>
      rw [List.foldl_cons, List.foldl_cons, inventoryPoints_eq_max l nonneg,
        ih (le_max_of_le_left nonneg), ih (inventoryPoints_bounds l).1, max_assoc]

theorem foldl_inventoryPoints_bounds (lines : List DealLineContext) :
    0 ≤ lines.foldl (inventoryPoints {}) 0 ∧ lines.foldl (inventoryPoints {}) 0 ≤ 20 := by
  induction lines with
  | nil => norm_num
  | cons l ls ih =>
      obtain ⟨nonneg, most⟩ := inventoryPoints_bounds l
      rw [List.foldl_cons, foldl_inventoryPoints ls nonneg]
      exact ⟨le_max_of_le_left nonneg, max_le most ih.2⟩

theorem foldl_inventoryPoints_removed :
    (before ++ z :: after).foldl (inventoryPoints {}) 0 =
      max (inventoryPoints {} 0 z) ((before ++ after).foldl (inventoryPoints {}) 0) := by
  have nonneg := (foldl_inventoryPoints_bounds before).1
  rw [List.foldl_append, List.foldl_cons, inventoryPoints_eq_max z nonneg,
    foldl_inventoryPoints after (le_max_of_le_left nonneg), List.foldl_append,
    foldl_inventoryPoints after nonneg, max_comm (List.foldl _ _ before), max_assoc]

/-- The inventory factor is worth the points of the lines, which the cap does not touch. -/
theorem points_inventoryFactors (lines : List DealLineContext) :
    points (inventoryFactors {} lines) = lines.foldl (inventoryPoints {}) 0 := by
  obtain ⟨nonneg, most⟩ := foldl_inventoryPoints_bounds lines
  have capped : min (((20 : ℕ) : ℚ≥0) : ℚ) (lines.foldl (inventoryPoints {}) 0) =
      lines.foldl (inventoryPoints {}) 0 := min_eq_right (by simpa using most)
  unfold inventoryFactors
  dsimp only
  rw [capped]
  split
  · rw [points_singleton]
  · next none => exact le_antisymm nonneg (not_lt.mp none)

/-- The inventory factor of some lines is that of their points. -/
theorem inventoryFactors_congr {lines lines' : List DealLineContext}
    (same : lines.foldl (inventoryPoints {}) 0 = lines'.foldl (inventoryPoints {}) 0) :
    inventoryFactors {} lines = inventoryFactors {} lines' := by
  unfold inventoryFactors
  rw [same]

/-- References of lines with other ids are other references. -/
theorem lineReference_amongOthers (ctx : DealContext) (lineCeilings : ℤ → Option ℚ)
    (distinct : ∀ l ∈ before ++ after, l.lineId ≠ z.lineId) :
    ∀ r ∈ before.map (amongOthers ctx lineCeilings before after) ++
        after.map (amongOthers ctx lineCeilings before after),
      lineReference r ≠ lineReference (amongOthers ctx lineCeilings before after z) := by
  intro r mem same
  rw [← List.map_append] at mem
  obtain ⟨l, memL, rfl⟩ := List.mem_map.mp mem
  exact distinct l memL
    (intToString_injective ((String.append_right_inj (toString "line:")).mp same))

theorem map_removed (f : DealLineContext → LineOverage) :
    (before ++ z :: after).map f = before.map f ++ f z :: after.map f := by
  rw [List.map_append, List.map_cons]

theorem amongOthers_nonneg :
    ∀ r ∈ before.map (amongOthers ctx lineCeilings before after) ++
      amongOthers ctx lineCeilings before after z ::
        after.map (amongOthers ctx lineCeilings before after), 0 ≤ r.overage := by
  intro r mem
  rw [← map_removed] at mem
  obtain ⟨l, -, rfl⟩ := List.mem_map.mp mem
  exact lineOverage_nonneg l

theorem maxOverage_amongOthers :
    maxOverage ((before ++ z :: after).map (amongOthers ctx lineCeilings before after)) =
      max (amongOthers ctx lineCeilings before after z).overage
        (maxOverage ((before ++ after).map (amongOthers ctx lineCeilings before after))) := by
  rw [map_removed, List.map_append]
  exact maxOverage_removed amongOthers_nonneg

/-! ## Sufficiency -/

/-- The score as the sum of the four factors' points. -/
theorem riskScore_parts (policy : RiskPolicy) (counter : Bool) :
    (calculateDealRisk ctx lineCeilings policy {} counter).riskScore =
      min 100 (max 0 (discountExcessContrib {} (lineOverages ctx lineCeilings)) +
          ctx.lines.foldl (inventoryPoints {}) 0 +
        marginPoints {} (policy.minimumMarginPct -
          dealMarginPct (lineOverages ctx lineCeilings)) +
        points (negotiationFactors counter)) := by
  rw [riskScore_eq_points]
  unfold calculateDealRisk
  dsimp only
  rw [points_append, points_append, points_append, sum_discountFactors, points_marginFactors,
    points_inventoryFactors, add_right_comm (max _ _)]

theorem eq_of_max_zero {x y : ℚ} (same : max 0 x = max 0 y) (pos : 0 < y) : x = y := by
  rw [max_eq_right pos.le] at same
  rcases max_choice 0 x with none | some
  · rw [none] at same
    exact absurd same pos.ne
  · exact some.symm.trans same

/-- The factors of the discount excess about the other lines, under the condition. -/
theorem discountFactors_of_kept
    (distinct : ∀ l ∈ before ++ after, l.lineId ≠ z.lineId)
    (neutral : AggregatesKept ctx lineCeilings before z after) :
    (discountFactors {} ((before ++ z :: after).map
        (amongOthers ctx lineCeilings before after))).filter
          (fun f => f.sourceReference ≠ s!"line:{z.lineId}") =
      (discountFactors {} ((before ++ after).map
        (amongOthers ctx lineCeilings before after))).filter
          fun f => f.sourceReference ≠ s!"line:{z.lineId}" := by
  have others := lineReference_amongOthers ctx lineCeilings distinct
  have excess := neutral.excess
  have charges := neutral.charges
  have within := neutral.overage
  rw [map_removed, List.map_append] at excess ⊢
  rw [List.map_append] at charges within
  by_cases violates : 0 < (amongOthers ctx lineCeilings before after z).overage
  · by_cases pos : 0 < discountExcessContrib {}
        (before.map (amongOthers ctx lineCeilings before after) ++
          after.map (amongOthers ctx lineCeilings before after))
    · have equal := eq_of_max_zero excess pos
      have same := (charges_iff equal (equal ▸ pos) violates within others).mpr
        (charges violates pos)
      change _ = (discountFactors {} _).filter fun f => f.sourceReference ≠
        lineReference (amongOthers ctx lineCeilings before after z)
      rw [← same, List.filter_filter]
      simp only [Bool.and_self]
      rfl
    · rw [max_eq_left (not_lt.mp pos)] at excess
      rw [discountFactors, discountFactors, if_neg pos,
        if_neg (not_lt.mpr (max_eq_left_iff.mp excess))]
  · have listed : violatingLines (before.map (amongOthers ctx lineCeilings before after) ++
        amongOthers ctx lineCeilings before after z ::
          after.map (amongOthers ctx lineCeilings before after)) = _ := violatingLines_removed
    rw [if_neg violates] at listed
    rw [discountFactors, discountFactors, listed]
    split
    · next pos =>
        have equal := eq_of_max_zero excess.symm pos
        rw [equal, if_pos (equal ▸ pos)]
    · next nothing =>
        rw [max_eq_left (not_lt.mp nothing)] at excess
        rw [if_neg (not_lt.mpr (max_eq_left_iff.mp excess.symm))]

theorem carriesNoRisk_of_kept (removed : z.qty = 0)
    (distinct : ∀ l ∈ before ++ after, l.lineId ≠ z.lineId)
    (neutral : AggregatesKept ctx lineCeilings before z after) :
    CarriesNoRisk ctx lineCeilings before z after := by
  intro policy counter kept deleted
  have seen : lineOverages (ctx.withLines (before ++ z :: after)) lineCeilings = _ :=
    lineOverages_removed removed
  have seen' : lineOverages (ctx.withLines (before ++ after)) lineCeilings =
      (before ++ after).map (amongOthers ctx lineCeilings before after) := rfl
  have inventory : (before ++ z :: after).foldl (inventoryPoints {}) 0 =
      (before ++ after).foldl (inventoryPoints {}) 0 := by
    rw [foldl_inventoryPoints_removed, max_eq_right neutral.inventory]
  have largest : maxOverage ((before ++ z :: after).map
      (amongOthers ctx lineCeilings before after)) =
      maxOverage ((before ++ after).map (amongOthers ctx lineCeilings before after)) := by
    rw [maxOverage_amongOthers, max_eq_right neutral.overage]
  have score : kept.riskScore = deleted.riskScore := by
    change (calculateDealRisk _ _ _ _ _).riskScore = (calculateDealRisk _ _ _ _ _).riskScore
    rw [riskScore_parts, riskScore_parts, seen, seen', neutral.excess, neutral.margin]
    change min 100 (_ + (before ++ z :: after).foldl (inventoryPoints {}) 0 + _ + _) = _
    rw [inventory]
    rfl
  have level : kept.requiredLevel = deleted.requiredLevel := by
    change (routingLevel policy kept.riskScore (maxOverage (lineOverages _ lineCeilings))).1 =
      (routingLevel policy deleted.riskScore (maxOverage (lineOverages _ lineCeilings))).1
    rw [score, seen, seen', largest]
  refine ⟨score, congrArg (severityBand policy) score, level, ?_⟩
  change (discountFactors {} (lineOverages _ lineCeilings) ++
      marginFactors {} policy (dealMarginPct (lineOverages _ lineCeilings)) ++
      inventoryFactors {} (before ++ z :: after) ++ negotiationFactors counter).filter _ =
    (discountFactors {} (lineOverages _ lineCeilings) ++
      marginFactors {} policy (dealMarginPct (lineOverages _ lineCeilings)) ++
      inventoryFactors {} (before ++ after) ++ negotiationFactors counter).filter _
  rw [seen, seen', neutral.margin, inventoryFactors_congr inventory]
  simp only [List.filter_append]
  rw [discountFactors_of_kept distinct neutral]

/-! ## Necessity -/

theorem discountExcessContrib_le (os : List LineOverage) : discountExcessContrib {} os ≤ 60 := by
  have cap : quantizeDec (60 : ℚ) = 60 := OnGrid.quantizeDec (onGrid_natCast 60)
  calc discountExcessContrib {} os
      ≤ quantizeDec 60 := quantizeDec_mono 2 (min_le_left _ _)
    _ = 60 := cap

/-- A rounded margin that misses its floor costs points. -/
theorem marginPoints_pos {gap : ℚ} (grid : OnGrid gap) (pos : 0 < gap) :
    0 < marginPoints {} gap := by
  obtain ⟨n, eq⟩ := grid
  have step : 1 ≤ n := by
    have scaled : (0 : ℚ) < n := by rw [← eq]; positivity
    exact_mod_cast scaled
  have step' : (1 : ℚ) ≤ gap * 10 ^ 2 := by
    rw [eq]
    exact_mod_cast step
  have weight : (((3 : ℕ) : ℚ≥0) : ℚ) = 3 := by norm_num
  unfold marginPoints
  rw [if_pos pos]
  refine lt_min (by norm_num) (quantize_pos_iff.mpr ?_)
  rw [weight]
  linarith

/-- The references of the discount factors are those of lines above their ceilings. -/
theorem discountFactors_reference {weights : RiskWeights} {f : RiskFactorDetail}
    (mem : f ∈ discountFactors weights (lineOverages ctx lineCeilings)) :
    ∃ l ∈ ctx.lines, ExceedsCeiling ctx lineCeilings l ∧
      f.sourceReference = s!"line:{l.lineId}" := by
  have listed := List.mem_map_of_mem (f := RiskFactorDetail.subject) mem
  rw [discountFactors_lines] at listed
  split at listed
  · obtain ⟨l, memL, same⟩ := List.mem_map.mp listed
    obtain ⟨memL, exceeds⟩ := List.mem_filter.mp memL
    exact ⟨l, memL, of_decide_eq_true exceeds,
      (congrArg (fun s : RiskFactorType × String × ℚ => s.2.1) same).symm⟩
  · cases listed

/-- When finance has to approve. -/
theorem requiredLevel_finance_iff (ctx : DealContext) (lineCeilings : ℤ → Option ℚ)
    (policy : RiskPolicy) (counter : Bool) :
    (calculateDealRisk ctx lineCeilings policy {} counter).requiredLevel = .managerAndFinance ↔
      ¬ (maxOverage (lineOverages ctx lineCeilings) = 0 ∧
          (calculateDealRisk ctx lineCeilings policy {} counter).riskScore <
            policy.managerThreshold) ∧
        (policy.financeThreshold <
            (calculateDealRisk ctx lineCeilings policy {} counter).riskScore ∨
          policy.singleLineFinancePts ≤ maxOverage (lineOverages ctx lineCeilings)) := by
  change (routingLevel policy (calculateDealRisk ctx lineCeilings policy {} counter).riskScore
    (maxOverage (lineOverages ctx lineCeilings))).1 = _ ↔ _
  unfold routingLevel
  split
  · next auto => exact iff_of_false nofun fun needed => needed.1 auto
  · next routed =>
      split
      · next finance => exact iff_of_true rfl ⟨routed, finance⟩
      · next manager => exact iff_of_false nofun fun needed => manager needed.2

section Necessity

/-- What the other figures leave of a hundred is enough for discount and inventory. -/
theorem excess_add_inventory_lt (ctx : DealContext) (lineCeilings : ℤ → Option ℚ)
    (lines : List DealLineContext) :
    max 0 (discountExcessContrib {} (lineOverages ctx lineCeilings)) +
      lines.foldl (inventoryPoints {}) 0 < 100 := by
  have excess : max 0 (discountExcessContrib {} (lineOverages ctx lineCeilings)) ≤ 60 :=
    max_le (by norm_num) (discountExcessContrib_le _)
  have inventory := (foldl_inventoryPoints_bounds lines).2
  linarith

variable (safe : CarriesNoRisk ctx lineCeilings before z after)

include safe

/-- The scores agree whatever the floor of the margin is. -/
theorem scores_of_safe (floor : ℚ) :
    min 100 (max 0 (discountExcessContrib {}
            (lineOverages (ctx.withLines (before ++ z :: after)) lineCeilings)) +
          (before ++ z :: after).foldl (inventoryPoints {}) 0 +
        marginPoints {} (floor - dealMarginPct
          (lineOverages (ctx.withLines (before ++ z :: after)) lineCeilings))) =
      min 100 (max 0 (discountExcessContrib {}
            (lineOverages (ctx.withLines (before ++ after)) lineCeilings)) +
          (before ++ after).foldl (inventoryPoints {}) 0 +
        marginPoints {} (floor - dealMarginPct
          (lineOverages (ctx.withLines (before ++ after)) lineCeilings))) := by
  have scores := (safe { minimumMarginPct := floor } false).1
  rw [riskScore_parts, riskScore_parts] at scores
  have none : points (negotiationFactors false) = 0 := rfl
  rw [none, add_zero, add_zero] at scores
  exact scores

/-- Discount and inventory points come to the same together. -/
theorem excess_add_inventory_of_safe :
    max 0 (discountExcessContrib {}
          (lineOverages (ctx.withLines (before ++ z :: after)) lineCeilings)) +
        (before ++ z :: after).foldl (inventoryPoints {}) 0 =
      max 0 (discountExcessContrib {}
          (lineOverages (ctx.withLines (before ++ after)) lineCeilings)) +
        (before ++ after).foldl (inventoryPoints {}) 0 := by
  have scores := scores_of_safe safe (min
    (dealMarginPct (lineOverages (ctx.withLines (before ++ z :: after)) lineCeilings))
    (dealMarginPct (lineOverages (ctx.withLines (before ++ after)) lineCeilings)))
  have none : ∀ x y : ℚ, marginPoints {} (min x y - x) = 0 := fun x y =>
    if_neg (sub_nonpos.mpr (min_le_left x y)).not_gt
  have none' : ∀ x y : ℚ, marginPoints {} (min x y - y) = 0 := fun x y =>
    if_neg (sub_nonpos.mpr (min_le_right x y)).not_gt
  rw [none, none', add_zero, add_zero, min_eq_right (excess_add_inventory_lt ..).le,
    min_eq_right (excess_add_inventory_lt ..).le] at scores
  exact scores

theorem margin_of_safe :
    dealMarginPct (lineOverages (ctx.withLines (before ++ z :: after)) lineCeilings) =
      dealMarginPct (lineOverages (ctx.withLines (before ++ after)) lineCeilings) := by
  have total := excess_add_inventory_of_safe safe
  have below := excess_add_inventory_lt (ctx.withLines (before ++ after)) lineCeilings
    (before ++ after)
  have grid : OnGrid (dealMarginPct
      (lineOverages (ctx.withLines (before ++ z :: after)) lineCeilings)) := onGrid_quantizeDec _
  have grid' : OnGrid (dealMarginPct
      (lineOverages (ctx.withLines (before ++ after)) lineCeilings)) := onGrid_quantizeDec _
  have free : ∀ x : ℚ, marginPoints {} (x - x) = 0 := fun x => if_neg (by simp)
  have capped : ∀ x y : ℚ, x < 100 → 0 < y → min 100 (x + y) ≠ min 100 (x + 0) := by
    intro x y low pos same
    rw [add_zero, min_eq_right low.le] at same
    rcases min_choice 100 (x + y) with eq | eq <;> rw [eq] at same <;> linarith
  rcases lt_trichotomy (dealMarginPct (lineOverages (ctx.withLines (before ++ z :: after))
      lineCeilings)) (dealMarginPct (lineOverages (ctx.withLines (before ++ after)) lineCeilings))
    with lower | same | higher
  · have scores := scores_of_safe safe
      (dealMarginPct (lineOverages (ctx.withLines (before ++ after)) lineCeilings))
    rw [total, free] at scores
    exact absurd scores (capped _ _ below (marginPoints_pos (grid'.sub grid) (sub_pos.mpr lower)))
  · exact same
  · have scores := scores_of_safe safe
      (dealMarginPct (lineOverages (ctx.withLines (before ++ z :: after)) lineCeilings))
    rw [total, free] at scores
    exact absurd scores.symm
      (capped _ _ below (marginPoints_pos (grid.sub grid') (sub_pos.mpr higher)))

/-- A line of the largest overage would decide whether finance has to approve. -/
theorem overage_of_safe (removed : z.qty = 0) :
    (amongOthers ctx lineCeilings before after z).overage ≤
      maxOverage ((before ++ after).map (amongOthers ctx lineCeilings before after)) := by
  by_contra above
  rw [not_le] at above
  set worst := (amongOthers ctx lineCeilings before after z).overage
  have nonneg : 0 ≤ maxOverage (lineOverages (ctx.withLines (before ++ after)) lineCeilings) :=
    maxOverage_nonneg
  have largest : maxOverage (lineOverages (ctx.withLines (before ++ z :: after)) lineCeilings) =
      worst := by
    rw [lineOverages_removed removed, maxOverage_amongOthers, max_eq_left above.le]
  have level := (safe { financeThreshold := 101, singleLineFinancePts := worst } false).2.2.1
  have needed := (requiredLevel_finance_iff (ctx.withLines (before ++ z :: after)) lineCeilings
    { financeThreshold := 101, singleLineFinancePts := worst } false).mpr
      ⟨fun none => (nonneg.trans_lt above).ne' (largest.symm.trans none.1), .inr largest.ge⟩
  rw [level, requiredLevel_finance_iff] at needed
  rcases needed.2 with score | overage
  · have bounded := (riskScore_bounds (ctx.withLines (before ++ after)) lineCeilings
      { financeThreshold := 101, singleLineFinancePts := worst } {} false).2
    exact absurd (score.trans_le bounded) (by norm_num)
  · exact absurd above overage.not_gt

/-- The factors of the discount excess about the other lines agree. -/
theorem discountFactors_of_safe (removed : z.qty = 0)
    (distinct : ∀ l ∈ before ++ after, l.lineId ≠ z.lineId) :
    (discountFactors {} ((before ++ z :: after).map
        (amongOthers ctx lineCeilings before after))).filter
          (fun f => f.sourceReference ≠ s!"line:{z.lineId}") =
      discountFactors {} ((before ++ after).map (amongOthers ctx lineCeilings before after)) := by
  have factors := congrArg (List.filter fun f => f.factorType = .discountExcess)
    (safe {} false).2.2.2
  rw [List.filter_comm, factors_discountExcess, List.filter_comm, factors_discountExcess,
    lineOverages_removed removed] at factors
  rw [factors]
  refine List.filter_eq_self.mpr fun f mem => decide_eq_true fun own => ?_
  obtain ⟨l, memL, -, reference⟩ := discountFactors_reference mem
  have same := (String.append_right_inj (toString "line:")).mp (reference.symm.trans own)
  exact distinct l memL (intToString_injective same)

/-- Discount and inventory points come to the same each. -/
theorem excess_of_safe (removed : z.qty = 0)
    (distinct : ∀ l ∈ before ++ after, l.lineId ≠ z.lineId) :
    max 0 (discountExcessContrib {}
        ((before ++ z :: after).map (amongOthers ctx lineCeilings before after))) =
      max 0 (discountExcessContrib {}
        ((before ++ after).map (amongOthers ctx lineCeilings before after))) := by
  have total := excess_add_inventory_of_safe safe
  rw [lineOverages_removed removed] at total
  have inventory : (before ++ after).foldl (inventoryPoints {}) 0 ≤
      (before ++ z :: after).foldl (inventoryPoints {}) 0 := by
    rw [foldl_inventoryPoints_removed]
    exact le_max_right _ _
  by_cases violates : 0 < (amongOthers ctx lineCeilings before after z).overage
  · have grows : discountExcessContrib {}
          ((before ++ after).map (amongOthers ctx lineCeilings before after)) ≤
        discountExcessContrib {}
          ((before ++ z :: after).map (amongOthers ctx lineCeilings before after)) := by
      have within := overage_of_safe safe removed
      rw [List.map_append] at within ⊢
      rw [map_removed]
      rw [discountExcessContrib_removed {} amongOthers_nonneg (amongOthers_removed removed).1
        within]
      exact excessAt_mono {} _ (violationRatio_le_ratioWith violates)
    have grows' := max_le_max_left 0 grows
    change _ + _ = max 0 (discountExcessContrib {}
      ((before ++ after).map (amongOthers ctx lineCeilings before after))) + _ at total
    linarith
  · -- the line has no factor, so the others' factors are all there are
    have others := discountFactors_of_safe safe removed distinct
    rw [List.filter_eq_self.mpr] at others
    · have sum := sum_discountFactors {} (ctx.withLines (before ++ z :: after)) lineCeilings
      have sum' := sum_discountFactors {} (ctx.withLines (before ++ after)) lineCeilings
      rw [lineOverages_removed removed] at sum
      exact sum.symm.trans ((congrArg points others).trans sum')
    · intro f mem
      rw [← lineOverages_removed removed] at mem
      obtain ⟨l, memL, exceeds, reference⟩ := discountFactors_reference mem
      refine decide_eq_true fun own => ?_
      have same := intToString_injective
        ((String.append_right_inj (toString "line:")).mp (reference.symm.trans own))
      rcases mem_between.mp memL with rfl | other
      · exact violates (lineOverage_pos_iff.mpr exceeds)
      · exact distinct l other same

/-- The line adds no inventory points to those of the others. -/
theorem inventory_of_safe (removed : z.qty = 0)
    (distinct : ∀ l ∈ before ++ after, l.lineId ≠ z.lineId) :
    inventoryPoints {} 0 z ≤ (before ++ after).foldl (inventoryPoints {}) 0 := by
  have total := excess_add_inventory_of_safe safe
  have excess : max 0 (discountExcessContrib {}
      (lineOverages (ctx.withLines (before ++ z :: after)) lineCeilings)) =
        max 0 (discountExcessContrib {}
          (lineOverages (ctx.withLines (before ++ after)) lineCeilings)) := by
    rw [lineOverages_removed removed]
    exact excess_of_safe safe removed distinct
  rw [excess, add_right_inj, foldl_inventoryPoints_removed] at total
  exact max_eq_right_iff.mp total

theorem kept_of_carriesNoRisk (removed : z.qty = 0)
    (distinct : ∀ l ∈ before ++ after, l.lineId ≠ z.lineId) :
    AggregatesKept ctx lineCeilings before z after where
  margin := by
    rw [← lineOverages_removed removed]
    exact margin_of_safe safe
  inventory := inventory_of_safe safe removed distinct
  overage := overage_of_safe safe removed
  excess := excess_of_safe safe removed distinct
  charges := by
    intro violates pos
    have excess := eq_of_max_zero (excess_of_safe safe removed distinct) pos
    have within := overage_of_safe safe removed
    have factors := discountFactors_of_safe safe removed distinct
    rw [map_removed, List.map_append] at excess factors
    rw [List.map_append] at pos within
    exact (charges_iff excess (excess ▸ pos) violates within
      (lineReference_amongOthers ctx lineCeilings distinct)).mp factors

end Necessity

/-- The margin with the line, from the lines that stay. -/
theorem dealMarginPct_amongOthers (removed : z.qty = 0) :
    dealMarginPct ((before ++ z :: after).map (amongOthers ctx lineCeilings before after)) =
      marginWith (staying ctx lineCeilings before after) z.costSubtotal := by
  rw [map_removed, staying, List.map_append]
  exact dealMarginPct_removed (amongOthers_removed removed).2

/-- The excess with the line, from the lines that stay. -/
theorem discountExcessContrib_amongOthers (removed : z.qty = 0)
    (within : (amongOthers ctx lineCeilings before after z).overage ≤
      maxOverage (staying ctx lineCeilings before after)) :
    discountExcessContrib {}
        ((before ++ z :: after).map (amongOthers ctx lineCeilings before after)) =
      excessAt {} (staying ctx lineCeilings before after)
        (ratioWith (staying ctx lineCeilings before after)
          (amongOthers ctx lineCeilings before after z)) := by
  rw [map_removed]
  rw [staying, List.map_append] at within ⊢
  exact discountExcessContrib_removed {} amongOthers_nonneg (amongOthers_removed removed).1 within

/-- What the others are charged, from the lines that stay. -/
theorem chargesKept_amongOthers (removed : z.qty = 0)
    (violates : 0 < (amongOthers ctx lineCeilings before after z).overage)
    (within : (amongOthers ctx lineCeilings before after z).overage ≤
      maxOverage (staying ctx lineCeilings before after))
    (excess : max 0 (discountExcessContrib {}
        ((before ++ z :: after).map (amongOthers ctx lineCeilings before after))) =
      max 0 (discountExcessContrib {} (staying ctx lineCeilings before after)))
    (pos : 0 < discountExcessContrib {} (staying ctx lineCeilings before after)) :
    ChargesKept {} (before.map (amongOthers ctx lineCeilings before after))
        (amongOthers ctx lineCeilings before after z)
        (after.map (amongOthers ctx lineCeilings before after)) ↔
      ChargesUnmoved (discountExcessContrib {} (staying ctx lineCeilings before after))
        (staying ctx lineCeilings before after)
        (FirstHighest (before.map (amongOthers ctx lineCeilings before after))
          (amongOthers ctx lineCeilings before after z)
          (after.map (amongOthers ctx lineCeilings before after))) := by
  have same := eq_of_max_zero excess pos
  rw [map_removed] at same
  rw [staying, List.map_append] at within pos same ⊢
  obtain ⟨r, memR, -⟩ := violatingLines_others violates within
  exact chargesKept_iff same pos (amongOthers_removed removed).1 violates
    (List.ne_nil_of_mem memR)

/-- The figures are kept exactly under the condition on the lines that stay. -/
theorem aggregatesKept_iff (removed : z.qty = 0) :
    AggregatesKept ctx lineCeilings before z after ↔
      RemovalNeutral ctx lineCeilings before z after := by
  have margin : dealMarginPct (staying ctx lineCeilings before after) =
      marginWith (staying ctx lineCeilings before after) 0 := dealMarginPct_eq_marginWith _
  constructor
  · intro kept
    exact
      { margin := by
          rw [← dealMarginPct_amongOthers removed, ← margin]
          exact kept.margin
        inventory := kept.inventory
        overage := kept.overage
        excess := by
          rw [← discountExcessContrib_amongOthers removed kept.overage]
          exact kept.excess
        charges := fun violates pos =>
          (chargesKept_amongOthers removed violates kept.overage kept.excess pos).mp
            (kept.charges violates pos) }
  · intro neutral
    have excess := neutral.excess
    rw [← discountExcessContrib_amongOthers removed neutral.overage] at excess
    exact
      { margin := by
          rw [dealMarginPct_amongOthers removed]
          exact neutral.margin.trans margin.symm
        inventory := neutral.inventory
        overage := neutral.overage
        excess := excess
        charges := fun violates pos =>
          (chargesKept_amongOthers removed violates neutral.overage excess pos).mpr
            (neutral.charges violates pos) }

/-- A line of quantity zero leaves the assessment of the other lines alone exactly where it adds
nothing to any of the aggregates and takes nothing in the apportionment. -/
theorem removed_iff (ctx : DealContext) (lineCeilings : ℤ → Option ℚ)
    (before : List DealLineContext) (z : DealLineContext) (after : List DealLineContext)
    (removed : z.qty = 0) (distinct : ∀ l ∈ before ++ after, l.lineId ≠ z.lineId) :
    CarriesNoRisk ctx lineCeilings before z after ↔
      RemovalNeutral ctx lineCeilings before z after := by
  rw [← aggregatesKept_iff removed]
  exact ⟨fun safe => kept_of_carriesNoRisk safe removed distinct,
    carriesNoRisk_of_kept removed distinct⟩

/-- A line that is within its ceiling, on an order where no other is above and no stock is negative,
does not matter once it is removed. -/
theorem carriesNoRisk_of_compliant (ctx : DealContext) (lineCeilings : ℤ → Option ℚ)
    (removed : z.qty = 0) (costless : z.costSubtotal = 0)
    (distinct : ∀ l ∈ before ++ after, l.lineId ≠ z.lineId)
    (stocked : inventoryPoints {} 0 z = 0)
    (compliant : ∀ l ∈ before ++ z :: after,
      (amongOthers ctx lineCeilings before after l).overage = 0) :
    CarriesNoRisk ctx lineCeilings before z after := by
  have others : ∀ l ∈ before ++ after, l ∈ before ++ z :: after :=
    fun _ mem => mem_between.mpr (.inr mem)
  have none : ∀ ls : List DealLineContext, (∀ l ∈ ls, l ∈ before ++ z :: after) →
      violatingLines (ls.map (amongOthers ctx lineCeilings before after)) = [] := by
    intro ls sub
    refine List.filter_eq_nil_iff.mpr fun o mem => ?_
    obtain ⟨l, memL, rfl⟩ := List.mem_map.mp mem
    simp [compliant l (sub l memL)]
  have excess : discountExcessContrib {}
      (lineOverages (ctx.withLines (before ++ z :: after)) lineCeilings) = 0 := by
    refine discountExcessContrib_of_none {} ?_
    rw [lineOverages_removed removed]
    exact none _ fun _ mem => mem
  have excess' : discountExcessContrib {}
      (lineOverages (ctx.withLines (before ++ after)) lineCeilings) = 0 :=
    discountExcessContrib_of_none {} (none _ others)
  have own := compliant z (by simp)
  refine carriesNoRisk_of_kept removed distinct
    { margin := by
        rw [map_removed, List.map_append, dealMarginPct_removed (amongOthers_removed removed).2,
          dealMarginPct_eq_marginWith]
        exact congrArg _ costless
      inventory := stocked.le.trans (foldl_inventoryPoints_bounds _).1
      overage := own.le.trans maxOverage_nonneg
      excess := ?_
      charges := fun violates => absurd own violates.ne' }
  rw [← lineOverages_removed removed, excess]
  exact congrArg _ excess'.symm

end Contexts

/-- A desk of the order, with what has become of its quantity. -/
def deskLine (id : ℤ) (qty discountPct : ℚ) : DealLineContext :=
  buildLineContext
    { id, productId := 10, productName := "Desk", categoryId := 1, productType := "STOCKABLE", qty
      priceUnit := 100, discountPct, unitCost := 40, taxRatePct := 0 } ∅

theorem deskLine_carriesNoRisk :
    CarriesNoRisk strictnessContext (fun _ => some 15) [deskLine 1 2 10] (deskLine 2 0 12) [] := by
  refine (removed_iff _ _ _ _ _ (by decide +kernel) (by decide +kernel)).mpr ?_
  exact
    { margin := by decide +kernel
      inventory := by decide +kernel
      overage := by decide +kernel
      excess := by decide +kernel
      charges := fun violates => absurd violates (by decide +kernel) }

/-- A line at 20 % against a ceiling of 15 scores less next to one that was removed: half of the
lines are above their ceilings then, no longer all of them. -/
theorem deskLine_carriesRisk :
    (deskLine 2 0 0).qty = 0 ∧
      ¬ CarriesNoRisk strictnessContext (fun _ => some 15) [deskLine 1 2 20] (deskLine 2 0 0)
        [] := by
  refine ⟨by decide +kernel, fun safe => absurd (safe {} false).1 ?_⟩
  decide +kernel

end DealFlow
