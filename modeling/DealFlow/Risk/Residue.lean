import DealFlow.Risk.Explanation

/-!
# The line that gets the residue

The points of the discount excess are apportioned in proportion to overage and list value, each
share is rounded, and the first line of the highest overage gets what the others leave.  That line
may have hardly any value.  Where rounding gives the others more than there is, the line that
breaks its ceiling most is credited for it: `contributions_nonneg_iff` says just when.
-/

namespace DealFlow

open Lib

/-- The share of the excess that falls to a violating line, before it is rounded to cents. -/
def sharePoints (weights : RiskWeights) (os : List LineOverage) (o : LineOverage) : ℚ :=
  decimal28 (discountExcessContrib weights os * overageShare (violatingLines os) o)

/-- The rounded shares of the lines other than the first of the highest overage are no more than
the excess. -/
def ResidueCovered (weights : RiskWeights) (os : List LineOverage) : Prop :=
  ∀ before o after, violatingLines os = before ++ o :: after → FirstHighest before o after →
    ((before ++ after).map fun p => quantize 2 (sharePoints weights os p)).sum ≤
      discountExcessContrib weights os

section Shares

variable {weights : RiskWeights} {os : List LineOverage}

theorem lineFactor_contribution (o : LineOverage) :
    (lineFactor weights (discountExcessContrib weights os) (violatingLines os) o).contribution =
      quantize 2 (sharePoints weights os o) :=
  rfl

theorem points_lineFactors (ps : List LineOverage) :
    points (ps.map (lineFactor weights (discountExcessContrib weights os) (violatingLines os))) =
      (ps.map fun p => quantize 2 (sharePoints weights os p)).sum := by
  rw [points, List.map_map]
  exact congrArg List.sum (List.map_congr_left fun p _ => lineFactor_contribution p)

/-- What the rounded shares of the other lines leave of the excess. -/
theorem residue_nonneg_iff (weights : RiskWeights) (os others : List LineOverage) :
    0 ≤ discountExcessContrib weights os - points (others.map
        (lineFactor weights (discountExcessContrib weights os) (violatingLines os))) ↔
      (others.map fun p => quantize 2 (sharePoints weights os p)).sum ≤
        discountExcessContrib weights os := by
  rw [points_lineFactors, sub_nonneg]

theorem overageShare_nonneg {violating : List LineOverage} {o : LineOverage}
    (overage : 0 ≤ o.overage) (weight : 0 ≤ o.weight) : 0 ≤ overageShare violating o := by
  unfold overageShare
  split
  · next pos =>
      have own : 0 ≤ o.weighted := rounds_decimal28.nonneg (mul_nonneg overage weight)
      exact rounds_decimal28.nonneg (div_nonneg own pos.le)
  · exact rounds_decimal28.nonneg (by positivity)

theorem sharePoints_nonneg (excess : 0 ≤ discountExcessContrib weights os) {o : LineOverage}
    (overage : 0 ≤ o.overage) (weight : 0 ≤ o.weight) : 0 ≤ sharePoints weights os o :=
  rounds_decimal28.nonneg (mul_nonneg excess (overageShare_nonneg overage weight))

/-- Of two lines that are the first highest, neither stands before the other. -/
theorem FirstHighest.not_before {before after after' between : List LineOverage}
    {o o' : LineOverage} (first : FirstHighest before o after)
    (first' : FirstHighest (before ++ between) o' after')
    (same : o :: after = between ++ o' :: after') : between = [] := by
  cases between with
  | nil => rfl
  | cons p between =>
      obtain ⟨rfl, rest⟩ := List.cons.inj same
      have below := first'.before o (by simp)
      have above := first.after o' (by simp [rest])
      exact absurd below above.not_gt

theorem FirstHighest.unique {before before' after after' : List LineOverage} {o o' : LineOverage}
    (first : FirstHighest before o after) (first' : FirstHighest before' o' after')
    (same : before ++ o :: after = before' ++ o' :: after') :
    before = before' ∧ o = o' ∧ after = after' := by
  rcases List.append_eq_append_iff.mp same with ⟨between, rfl, rest⟩ | ⟨between, rfl, rest⟩
  · cases first.not_before first' rest
    obtain ⟨rfl, rfl⟩ := List.cons.inj rest
    exact ⟨(List.append_nil _).symm, rfl, rfl⟩
  · cases first'.not_before first rest
    obtain ⟨rfl, rfl⟩ := List.cons.inj rest
    exact ⟨List.append_nil _, rfl, rfl⟩

/-- The factors, given the first highest of the violating lines. -/
theorem discountFactors_at (weights : RiskWeights) (pos : 0 < discountExcessContrib weights os)
    {before after : List LineOverage} {o : LineOverage}
    (lines : violatingLines os = before ++ o :: after) (first : FirstHighest before o after) :
    discountFactors weights os =
      before.map (lineFactor weights (discountExcessContrib weights os) (violatingLines os)) ++
        { lineFactor weights (discountExcessContrib weights os) (violatingLines os) o with
          contribution := discountExcessContrib weights os -
            points ((before ++ after).map
              (lineFactor weights (discountExcessContrib weights os) (violatingLines os))) } ::
        after.map (lineFactor weights (discountExcessContrib weights os) (violatingLines os)) := by
  have violates : violatingLines os ≠ [] := by
    rw [lines]
    simp
  obtain ⟨before', o', after', lines', first', split⟩ := discountFactors_split weights pos violates
  obtain ⟨rfl, rfl, rfl⟩ := first.unique first' (lines.symm.trans lines')
  exact split

/-- A line alone above its ceiling bears all. -/
theorem residueCovered_of_single {o : LineOverage} (alone : violatingLines os = [o])
    (excess : 0 ≤ discountExcessContrib weights os) : ResidueCovered weights os := by
  intro before p after split _
  rw [alone] at split
  obtain ⟨rfl, rfl⟩ : before = [] ∧ after = [] := by
    rcases List.singleton_eq_append_iff.mp split with ⟨rfl, rest⟩ | ⟨-, none⟩
    · exact ⟨rfl, (List.cons.inj rest).2⟩
    · cases none
  simpa using excess

end Shares

section Contributions

variable {ctx : DealContext} {lineCeilings : ℤ → Option ℚ}

/-- The contributions of the discount excess are the rounded shares, and for the first highest line
what they leave. -/
theorem discountFactors_nonneg_iff (weights : RiskWeights)
    (amounts : ∀ l ∈ ctx.lines, 0 ≤ l.qty * l.priceUnit) :
    (∀ f ∈ discountFactors weights (lineOverages ctx lineCeilings), 0 ≤ f.contribution) ↔
      ResidueCovered weights (lineOverages ctx lineCeilings) := by
  have excess : 0 ≤ discountExcessContrib weights (lineOverages ctx lineCeilings) :=
    discountExcessContrib_nonneg weights amounts
  have share : ∀ o ∈ violatingLines (lineOverages ctx lineCeilings),
      0 ≤ sharePoints weights (lineOverages ctx lineCeilings) o := by
    intro o mem
    obtain ⟨l, memL, rfl⟩ := List.mem_map.mp (List.mem_filter.mp mem).1
    exact sharePoints_nonneg excess (lineOverage_nonneg l)
      (lineOverage_weight_nonneg (amounts l memL))
  rcases excess.eq_or_lt with none | pos
  · -- without an excess there is nothing to apportion
    refine iff_of_true ?_ fun before o after _ _ => ?_
    · rw [discountFactors, if_neg none.not_lt]
      intro f mem
      cases mem
    · have nothing : ∀ p, sharePoints weights (lineOverages ctx lineCeilings) p = 0 := fun p => by
        rw [sharePoints, ← none, zero_mul, rounds_decimal28.zero]
      simp [nothing, ← none]
  · have violates : violatingLines (lineOverages ctx lineCeilings) ≠ [] := by
      intro none
      rw [discountExcessContrib_of_none weights none] at pos
      exact lt_irrefl 0 pos
    obtain ⟨before, o, after, lines, first, split⟩ := discountFactors_split weights pos violates
    have rest := residue_nonneg_iff weights (lineOverages ctx lineCeilings) (before ++ after)
    constructor
    · intro credited before' o' after' lines' first'
      obtain ⟨rfl, rfl, rfl⟩ := first.unique first' (lines.symm.trans lines')
      rw [split] at credited
      exact rest.mp (credited _ (List.mem_append_right _ List.mem_cons_self))
    · intro covered f mem
      have rounded : ∀ p ∈ before ++ after, 0 ≤ (lineFactor weights
          (discountExcessContrib weights (lineOverages ctx lineCeilings))
          (violatingLines (lineOverages ctx lineCeilings)) p).contribution := by
        intro p memP
        refine quantize_nonneg (share p ?_)
        rw [lines]
        exact mem_between.mpr (.inr memP)
      rw [split] at mem
      rcases mem_between.mp mem with rfl | other
      · exact rest.mpr (covered before o after lines first)
      · rw [← List.map_append] at other
        obtain ⟨p, memP, rfl⟩ := List.mem_map.mp other
        exact rounded p memP

end Contributions

/-- Three desks at 16 % discount and a sticker for next to nothing at 17.02 %. -/
def stickerContext : DealContext :=
  dealContextOf {}
    { header :=
        { id := 8, name := "S00008", partnerId := 3, partnerName := "Acme", state := "draft"
          currency := "INR", userId := 4, teamId := none, companyId := 1 }
      lines :=
        { id := 1, productId := 12, productName := "Sticker", categoryId := 1
          productType := "SERVICE", qty := 1, priceUnit := 1 / 100, discountPct := 1702 / 100
          unitCost := 0, taxRatePct := 0 } ::
        [2, 3, 4].map fun id =>
          { id, productId := 10, productName := "Desk", categoryId := 1
            productType := "SERVICE", qty := 1, priceUnit := 100, discountPct := 16
            unitCost := 40, taxRatePct := 0 } }
    fun _ => ∅

end DealFlow
