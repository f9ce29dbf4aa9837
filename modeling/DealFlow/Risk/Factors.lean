import DealFlow.Guardian.Risk

/-!
# What the risk factors add up to

The score reads the factors through the sum of their contributions only.

* `discountFactors_split`: every violating line's share is rounded on its own, and the loop keeps
  the sum of what it handed out and the first highest line (`Apportioned`), which gets what the
  others leave of the points.
* `sum_discountFactors`: the apportioned lines carry exactly the points of the discount factor.
* `calculateDealRisk_score`: the score as a capped, rounded sum of the four factors' points.
-/

namespace DealFlow

open Lib

@[simp] theorem quantizeDec_zero (places : ℕ) : quantizeDec 0 places = 0 :=
  quantize_zero places

theorem quantizeDec_mono (places : ℕ) : Monotone fun x => quantizeDec x places :=
  quantize_mono places

theorem quantizeDec_nonneg {x : ℚ} {places : ℕ} (nonneg : 0 ≤ x) : 0 ≤ quantizeDec x places :=
  quantize_nonneg nonneg

/-- The points a list of factors contributes. -/
def points (factors : List RiskFactorDetail) : ℚ :=
  (factors.map (·.contribution)).sum

@[simp] theorem points_nil : points [] = 0 := rfl

@[simp] theorem points_append (as bs : List RiskFactorDetail) :
    points (as ++ bs) = points as + points bs := by
  simp [points]

@[simp] theorem points_singleton (f : RiskFactorDetail) : points [f] = f.contribution := by
  simp [points]

/-- The entry at a position, changed. -/
theorem modify_between {α : Type} (f : α → α) (before : List α) (x : α) (after : List α) :
    (before ++ x :: after).modify before.length f = before ++ f x :: after := by
  induction before with
  | nil => exact List.modify_zero_cons ..
  | cons y ys ih =>
      rw [List.cons_append, List.length_cons, List.modify_succ_cons, ih, List.cons_append]

/-! ## Overages -/

section Overages

variable {ctx : DealContext} {lineCeilings : ℤ → Option ℚ}

theorem lineOverage_nonneg (l : DealLineContext) :
    0 ≤ (lineOverage ctx lineCeilings l).overage :=
  quantizeDec_nonneg (le_max_left _ _)

theorem overage_nonneg : ∀ o ∈ lineOverages ctx lineCeilings, 0 ≤ o.overage := by
  intro o mem
  obtain ⟨l, -, rfl⟩ := List.mem_map.mp mem
  exact lineOverage_nonneg l

/-- The largest overage bounds every line's, and is one of them unless there are no lines. -/
theorem maxOverage_spec (os : List LineOverage) :
    (∀ o ∈ os, o.overage ≤ maxOverage os) ∧
      ((os = [] ∧ maxOverage os = 0) ∨ ∃ o ∈ os, maxOverage os = o.overage) := by
  unfold maxOverage
  cases largest : (os.map (·.overage)).max? with
  | none =>
      have empty : os = [] := List.map_eq_nil_iff.mp (List.max?_eq_none_iff.mp largest)
      subst empty
      exact ⟨by simp, .inl ⟨rfl, rfl⟩⟩
  | some a =>
      obtain ⟨mem, bound⟩ := List.max?_eq_some_iff.mp largest
      obtain ⟨o, memO, eq⟩ := List.mem_map.mp mem
      exact ⟨fun p memP => bound _ (List.mem_map.mpr ⟨p, memP, rfl⟩), .inr ⟨o, memO, eq.symm⟩⟩

theorem maxOverage_nonneg : 0 ≤ maxOverage (lineOverages ctx lineCeilings) := by
  rcases (maxOverage_spec (lineOverages ctx lineCeilings)).2 with ⟨-, zero⟩ | ⟨o, mem, eq⟩
  · exact zero.ge
  · exact eq ▸ overage_nonneg o mem

/-- Without a violating line the discount factor has no points. -/
theorem discountExcessContrib_of_none (weights : RiskWeights)
    (none : violatingLines (lineOverages ctx lineCeilings) = []) :
    discountExcessContrib weights (lineOverages ctx lineCeilings) = 0 := by
  have zero : ∀ o ∈ lineOverages ctx lineCeilings, o.overage = 0 := by
    intro o mem
    have notPos := List.filter_eq_nil_iff.mp none o mem
    exact le_antisymm (not_lt.mp (by simpa using notPos)) (overage_nonneg o mem)
  have largest : maxOverage (lineOverages ctx lineCeilings) = 0 := by
    rcases (maxOverage_spec (lineOverages ctx lineCeilings)).2 with ⟨-, eq⟩ | ⟨o, mem, eq⟩
    · exact eq
    · rw [eq, zero o mem]
  have weighted : weightedOverage (lineOverages ctx lineCeilings) = 0 := by
    refine runningSum_of_zero rounds_decimal28 fun x mem => ?_
    obtain ⟨o, memO, rfl⟩ := List.mem_map.mp mem
    rw [LineOverage.weighted, zero o memO, zero_mul, rounds_decimal28.zero]
  have ratio : violationRatio (lineOverages ctx lineCeilings) = 0 := by
    simp [violationRatio, none, rounds_decimal28.zero]
  simp [discountExcessContrib, rawDiscExcess, largest, weighted, ratio, rounds_decimal28.zero]

end Overages

/-! ## Apportioning -/

/-- The factor of a violating line, with its share rounded. -/
def lineFactor (weights : RiskWeights) (contrib : ℚ) (violating : List LineOverage)
    (o : LineOverage) : RiskFactorDetail :=
  { factorType := .discountExcess
    sourceReference := s!"line:{o.line.lineId}"
    rawValue := o.overage
    weight := weights.wDiscountMax
    contribution := quantizeDec (decimal28 (contrib * overageShare violating o)) }

/-- A line has the largest overage, and none before it has the same. -/
structure FirstHighest (before : List LineOverage) (o : LineOverage) (after : List LineOverage) :
    Prop where
  before : ∀ p ∈ before, p.overage < o.overage
  after : ∀ p ∈ after, p.overage ≤ o.overage

/-- A list with one more entry has that entry and the others. -/
theorem mem_between {α : Type} {x y : α} {xs ys : List α} :
    x ∈ xs ++ y :: ys ↔ x = y ∨ x ∈ xs ++ ys := by
  rw [List.perm_middle.mem_iff, List.mem_cons]

/-- No line is above the first highest. -/
theorem FirstHighest.le {before after : List LineOverage} {o p : LineOverage}
    (first : FirstHighest before o after) (mem : p ∈ before ++ o :: after) :
    p.overage ≤ o.overage := by
  rcases mem_between.mp mem with rfl | other
  · exact le_rfl
  · rcases List.mem_append.mp other with earlier | later
    · exact (first.before p earlier).le
    · exact first.after p later

/-- The invariant of the apportioning loop: it has a factor for each line it served, knows the sum
it handed out, and once it served a line it has recorded the first highest. -/
structure Apportioned (weights : RiskWeights) (contrib : ℚ) (violating served : List LineOverage)
    (s : ApportionState) : Prop where
  factors : s.factors = served.map (lineFactor weights contrib violating)
  accum : points s.factors = s.accumContrib
  entry : (served = [] ∧ s.highestOverage = -1) ∨
    ∃ before o after, served = before ++ o :: after ∧ FirstHighest before o after ∧
      s.maxLineEntry = some before.length ∧ s.highestOverage = o.overage

section Loop

variable {weights : RiskWeights} {contrib : ℚ} {violating served : List LineOverage}
  {s : ApportionState}

theorem apportioned_start : Apportioned weights contrib violating [] {} :=
  ⟨rfl, rfl, .inl ⟨rfl, rfl⟩⟩

theorem Apportioned.line (inv : Apportioned weights contrib violating served s) {o : LineOverage}
    (positive : 0 < o.overage) :
    Apportioned weights contrib violating (served ++ [o])
      (apportionLine weights contrib violating s o) := by
  have length : s.factors.length = served.length := by
    rw [inv.factors, List.length_map]
  constructor
  · rw [List.map_append, ← inv.factors]
    rfl
  · simp only [apportionLine, points_append, points_singleton, inv.accum]
  · right
    by_cases higher : s.highestOverage < o.overage
    · refine ⟨served, o, [], rfl, ⟨?_, by simp⟩, ?_, ?_⟩
      · rcases inv.entry with ⟨rfl, -⟩ | ⟨before, p, after, rfl, first, -, highest⟩
        · simp
        · rw [highest] at higher
          intro q mem
          exact (first.le mem).trans_lt higher
      · simp [apportionLine, higher, length]
      · simp [apportionLine, higher]
    · -- a line that is not higher has one before it
      rcases inv.entry with ⟨-, start⟩ | ⟨before, p, after, rfl, first, entry, highest⟩
      · rw [start] at higher
        linarith
      · refine ⟨before, p, after ++ [o], by simp, ⟨first.before, ?_⟩, ?_, ?_⟩
        · intro q mem
          rcases List.mem_append.mp mem with earlier | last
          · exact first.after q earlier
          · rw [List.mem_singleton.mp last, ← highest]
            exact not_lt.mp higher
        · simp [apportionLine, higher, entry]
        · rw [← highest]
          simp [apportionLine, higher]

theorem apportioned_foldl {os : List LineOverage} (positive : ∀ o ∈ os, 0 < o.overage)
    (inv : Apportioned weights contrib violating served s) :
    Apportioned weights contrib violating (served ++ os)
      (os.foldl (apportionLine weights contrib violating) s) := by
  induction os generalizing s served with
  | nil =>
      rw [List.append_nil]
      exact inv
  | cons o os ih =>
      obtain ⟨head, tail⟩ := List.forall_mem_cons.mp positive
      have rest := ih tail (inv.line head)
      rwa [List.append_assoc, List.singleton_append] at rest

end Loop

/-- The factors are those of the violating lines, but that the first highest one gets what the
others leave. -/
theorem discountFactors_split (weights : RiskWeights) {os : List LineOverage}
    (pos : 0 < discountExcessContrib weights os) (violates : violatingLines os ≠ []) :
    ∃ before o after, violatingLines os = before ++ o :: after ∧ FirstHighest before o after ∧
      discountFactors weights os =
        before.map (lineFactor weights (discountExcessContrib weights os) (violatingLines os)) ++
          { lineFactor weights (discountExcessContrib weights os) (violatingLines os) o with
            contribution := discountExcessContrib weights os -
              points ((before ++ after).map
                (lineFactor weights (discountExcessContrib weights os) (violatingLines os))) } ::
          after.map (lineFactor weights (discountExcessContrib weights os)
            (violatingLines os)) := by
  have positive : ∀ o ∈ violatingLines os, 0 < o.overage := fun o mem => by
    simpa using (List.mem_filter.mp mem).2
  have inv : Apportioned weights (discountExcessContrib weights os) (violatingLines os)
      ([] ++ violatingLines os) ((violatingLines os).foldl
        (apportionLine weights (discountExcessContrib weights os) (violatingLines os)) {}) :=
    apportioned_foldl positive apportioned_start
  rw [List.nil_append] at inv
  unfold discountFactors
  dsimp only
  rw [if_pos pos]
  set contrib := discountExcessContrib weights os
  set violating := violatingLines os
  set s := violating.foldl (apportionLine weights contrib violating) {}
  rcases inv.entry with ⟨none, -⟩ | ⟨before, o, after, split, first, entry, -⟩
  · exact absurd none violates
  · refine ⟨before, o, after, split, first, ?_⟩
    have handedOut : s.accumContrib =
        points ((before ++ after).map (lineFactor weights contrib violating)) +
          (lineFactor weights contrib violating o).contribution := by
      rw [← inv.accum, inv.factors, split]
      simp only [points, List.map_append, List.map_cons, List.sum_append, List.sum_cons]
      ring
    have listed : s.factors = before.map (lineFactor weights contrib violating) ++
        lineFactor weights contrib violating o ::
          after.map (lineFactor weights contrib violating) := by
      rw [inv.factors, split, List.map_append, List.map_cons]
    rw [entry]
    dsimp only
    rw [listed, handedOut]
    split
    · rw [← List.length_map (lineFactor weights contrib violating), modify_between]
      refine congrArg (fun f => _ ++ f :: _) ?_
      congr 1
      ring
    · next settled =>
        have own := sub_eq_zero.mp (not_not.mp settled)
        refine congrArg (fun f => _ ++ f :: _) ?_
        rw [show contrib - points ((before ++ after).map (lineFactor weights contrib violating)) =
          (lineFactor weights contrib violating o).contribution by linarith]

/-- The apportioned contributions sum to the points of the factor. -/
theorem sum_discountFactors (weights : RiskWeights) (ctx : DealContext)
    (lineCeilings : ℤ → Option ℚ) :
    points (discountFactors weights (lineOverages ctx lineCeilings)) =
      max 0 (discountExcessContrib weights (lineOverages ctx lineCeilings)) := by
  rcases le_or_gt (discountExcessContrib weights (lineOverages ctx lineCeilings)) 0 with
    notPos | pos
  · rw [max_eq_left notPos, discountFactors, if_neg notPos.not_gt, points_nil]
  · have violates : violatingLines (lineOverages ctx lineCeilings) ≠ [] := by
      intro none
      rw [discountExcessContrib_of_none weights none] at pos
      exact lt_irrefl 0 pos
    obtain ⟨before, o, after, -, -, split⟩ := discountFactors_split weights pos violates
    rw [split, max_eq_right pos.le]
    simp only [points, List.map_append, List.map_cons, List.sum_append, List.sum_cons]
    ring

/-- The score is the rounded sum of the factors' points, at most 100. -/
theorem calculateDealRisk_score (ctx : DealContext) (lineCeilings : ℤ → Option ℚ)
    (policy : RiskPolicy) (weights : RiskWeights) (hasOpenNegotiationCounter : Bool) :
    (calculateDealRisk ctx lineCeilings policy weights hasOpenNegotiationCounter).riskScore =
      min 100 (quantizeDec
        (max 0 (discountExcessContrib weights (lineOverages ctx lineCeilings)) +
          points (marginFactors weights policy (dealMarginPct (lineOverages ctx lineCeilings))) +
          points (inventoryFactors weights ctx.lines) +
          points (negotiationFactors hasOpenNegotiationCounter))) := by
  rw [← sum_discountFactors, ← points_append, ← points_append, ← points_append]
  rfl

end DealFlow
