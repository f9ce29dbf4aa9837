import DealFlow.Risk.Residue

/-!
# One more line of no value

A line without a list value leaves the sum of the weighted overages alone.  It counts all the same:
as one more line of the order, as one more above its ceiling, and where it is the worst it gets the
residue.  The aggregates with the line are compared one by one with those without it
(`maxOverage_removed`, `weightedOverage_removed`, `violationRatio_removed`), then the apportioned
factors of the other lines (`charges_iff`).
-/

namespace DealFlow

open Lib

/-! ## Aggregates -/

section Aggregates

variable {before after : List LineOverage} {o : LineOverage}

/-- The largest overage is that of the line or of the others. -/
theorem maxOverage_removed (nonneg : ∀ p ∈ before ++ o :: after, 0 ≤ p.overage) :
    maxOverage (before ++ o :: after) = max o.overage (maxOverage (before ++ after)) := by
  obtain ⟨bound, attained⟩ := maxOverage_spec (before ++ o :: after)
  obtain ⟨bound', attained'⟩ := maxOverage_spec (before ++ after)
  apply le_antisymm
  · rcases attained with ⟨none, -⟩ | ⟨p, mem, eq⟩
    · exact absurd none (by simp)
    · rw [eq]
      rcases mem_between.mp mem with rfl | other
      · exact le_max_left _ _
      · exact le_max_of_le_right (bound' p other)
  · refine max_le (bound o (by simp)) ?_
    rcases attained' with ⟨-, zero⟩ | ⟨p, mem, eq⟩
    · rw [zero]
      exact (nonneg o (by simp)).trans (bound o (by simp))
    · rw [eq]
      exact bound p (mem_between.mpr (.inr mem))

theorem weighted_eq_zero (weightless : o.weight = 0) : o.weighted = 0 := by
  rw [LineOverage.weighted, weightless, mul_zero, rounds_decimal28.zero]

theorem weightedOverage_removed (weightless : o.weight = 0) :
    weightedOverage (before ++ o :: after) = weightedOverage (before ++ after) := by
  unfold weightedOverage
  rw [List.map_append, List.map_cons, weighted_eq_zero weightless, List.map_append]
  exact runningSum_skip rounds_decimal28 _ _

theorem violatingLines_append (os os' : List LineOverage) :
    violatingLines (os ++ os') = violatingLines os ++ violatingLines os' :=
  List.filter_append ..

/-- The line is one of the violating ones or it is not. -/
theorem violatingLines_removed :
    violatingLines (before ++ o :: after) =
      if 0 < o.overage then violatingLines before ++ o :: violatingLines after
      else violatingLines (before ++ after) := by
  rw [violatingLines_append, violatingLines_append]
  unfold violatingLines
  rw [List.filter_cons]
  by_cases violates : 0 < o.overage
  · rw [if_pos (decide_eq_true violates), if_pos violates]
  · rw [if_neg (by simpa using violates), if_neg violates]

/-- The ratio of violating lines with one more line. -/
def ratioWith (os : List LineOverage) (o : LineOverage) : ℚ :=
  decimal28 (((violatingLines os).length + if 0 < o.overage then 1 else 0) / (os.length + 1))

theorem violationRatio_removed :
    violationRatio (before ++ o :: after) = ratioWith (before ++ after) o := by
  have length : (before ++ o :: after).length = (before ++ after).length + 1 := by
    simp only [List.length_append, List.length_cons]
    omega
  unfold violationRatio ratioWith
  rw [violatingLines_removed, length, if_pos (Nat.succ_pos _)]
  split
  · rw [violatingLines_append]
    simp only [List.length_append, List.length_cons, Nat.cast_add, Nat.cast_one, add_assoc]
  · push_cast
    rw [add_zero]

/-- The points of the excess, with the ratio of violating lines as it may be. -/
def excessAt (weights : RiskWeights) (os : List LineOverage) (ratio : ℚ) : ℚ :=
  quantizeDec
    (min weights.discountCap
      (rawDiscExcess weights (maxOverage os) (weightedOverage os) ratio))

/-- With a removed line that is not the worst only the ratio is another. -/
theorem discountExcessContrib_removed (weights : RiskWeights)
    (nonneg : ∀ p ∈ before ++ o :: after, 0 ≤ p.overage) (weightless : o.weight = 0)
    (within : o.overage ≤ maxOverage (before ++ after)) :
    discountExcessContrib weights (before ++ o :: after) =
      excessAt weights (before ++ after) (ratioWith (before ++ after) o) := by
  unfold discountExcessContrib excessAt
  rw [maxOverage_removed nonneg, max_eq_right within, weightedOverage_removed weightless,
    violationRatio_removed]

theorem violatingLines_length_le (os : List LineOverage) :
    (violatingLines os).length ≤ os.length :=
  List.length_filter_le ..

/-- One more violating line makes the ratio no smaller. -/
theorem violationRatio_le_ratioWith {os : List LineOverage} (violates : 0 < o.overage) :
    violationRatio os ≤ ratioWith os o := by
  have bounded : ((violatingLines os).length : ℚ) ≤ os.length :=
    Nat.cast_le.mpr (violatingLines_length_le os)
  unfold violationRatio ratioWith
  rw [if_pos violates]
  split
  · next some =>
      have positive : (0 : ℚ) < os.length := Nat.cast_pos.mpr some
      refine rounds_decimal28.mono ?_
      rw [div_le_div_iff₀ positive (by linarith)]
      linarith
  · exact rounds_decimal28.nonneg (by positivity)

theorem excessAt_mono (weights : RiskWeights) (os : List LineOverage) {ratio ratio' : ℚ}
    (le : ratio ≤ ratio') : excessAt weights os ratio ≤ excessAt weights os ratio' := by
  exact quantizeDec_mono 2 (min_le_min_left _ (rawDiscExcess_mono weights le_rfl le_rfl le))

/-- The margin of some lines at an additional cost. -/
def marginWith (os : List LineOverage) (cost : ℚ) : ℚ :=
  quantizeDec
    (if 0 < totalNet os then
      (totalNet os - ((os.map (·.line.costSubtotal)).sum + cost)) / totalNet os * 100
    else 0)

theorem dealMarginPct_removed (free : o.listAmt = 0) :
    dealMarginPct (before ++ o :: after) =
      marginWith (before ++ after) o.line.costSubtotal := by
  have net : totalNet (before ++ o :: after) = totalNet (before ++ after) := by
    simp [totalNet, free]
  have cost : ((before ++ o :: after).map (·.line.costSubtotal)).sum =
      ((before ++ after).map (·.line.costSubtotal)).sum + o.line.costSubtotal := by
    simp only [List.map_append, List.map_cons, List.sum_append, List.sum_cons]
    ring
  unfold dealMarginPct marginWith
  dsimp only
  rw [net, cost]

theorem dealMarginPct_eq_marginWith (os : List LineOverage) :
    dealMarginPct os = marginWith os 0 := by
  unfold dealMarginPct marginWith
  rw [add_zero]

end Aggregates

/-! ## Apportionment -/

/-- The reference of the factors about a line. -/
def lineReference (o : LineOverage) : String := s!"line:{o.line.lineId}"

/-- Every other violating line is charged the same with the line as without it: the shares round
alike, and the line takes nothing, be it its own share or the residue. -/
structure ChargesKept (weights : RiskWeights) (before : List LineOverage) (o : LineOverage)
    (after : List LineOverage) : Prop where
  shares : ∀ b p a, violatingLines (before ++ after) = b ++ p :: a → FirstHighest b p a →
    ∀ r ∈ b ++ a, quantize 2 (sharePoints weights (before ++ o :: after) r) =
      quantize 2 (sharePoints weights (before ++ after) r)
  share : ¬ FirstHighest before o after →
    quantize 2 (sharePoints weights (before ++ o :: after) o) = 0
  residue : FirstHighest before o after →
    ((violatingLines (before ++ after)).map fun r =>
      quantize 2 (sharePoints weights (before ++ o :: after) r)).sum =
        discountExcessContrib weights (before ++ o :: after)

section Apportionment

variable {weights : RiskWeights} {before after b a : List LineOverage} {o p : LineOverage}

theorem firstHighest_violating (violates : 0 < o.overage) :
    FirstHighest (violatingLines before) o (violatingLines after) ↔
      FirstHighest before o after := by
  constructor
  · intro first
    constructor
    · intro r mem
      by_cases above : 0 < r.overage
      · exact first.before r (List.mem_filter.mpr ⟨mem, decide_eq_true above⟩)
      · exact (not_lt.mp above).trans_lt violates
    · intro r mem
      by_cases above : 0 < r.overage
      · exact first.after r (List.mem_filter.mpr ⟨mem, decide_eq_true above⟩)
      · exact (not_lt.mp above).trans violates.le
  · intro first
    exact ⟨fun r mem => first.before r (List.mem_filter.mp mem).1,
      fun r mem => first.after r (List.mem_filter.mp mem).1⟩

/-- A lower line ahead of the first highest leaves it the first highest. -/
theorem FirstHighest.ahead {b₁ b₂ : List LineOverage} (first : FirstHighest (b₁ ++ b₂) p a)
    (lower : o.overage < p.overage) : FirstHighest (b₁ ++ o :: b₂) p a := by
  refine ⟨fun r mem => ?_, first.after⟩
  rcases mem_between.mp mem with rfl | other
  · exact lower
  · exact first.before r other

/-- A line that is no higher can stand behind the first highest. -/
theorem FirstHighest.behind {a₁ a₂ : List LineOverage} (first : FirstHighest b p (a₁ ++ a₂))
    (within : o.overage ≤ p.overage) : FirstHighest b p (a₁ ++ o :: a₂) := by
  refine ⟨first.before, fun r mem => ?_⟩
  rcases mem_between.mp mem with rfl | other
  · exact within
  · exact first.after r other

/-- Where the line is not the first highest, the same line is as without it. -/
theorem firstHighest_kept (violates : 0 < o.overage) (behind : ¬ FirstHighest before o after)
    (lines : violatingLines (before ++ after) = b ++ p :: a) (first : FirstHighest b p a)
    (within : o.overage ≤ p.overage) :
    ∃ b₁ b₂ a₁ a₂, b = b₁ ++ b₂ ∧ a = a₁ ++ a₂ ∧
      ((b₂ = [] ∧ violatingLines (before ++ o :: after) = b ++ p :: (a₁ ++ o :: a₂) ∧
          FirstHighest b p (a₁ ++ o :: a₂)) ∨
        a₁ = [] ∧ violatingLines (before ++ o :: after) = (b₁ ++ o :: b₂) ++ p :: a ∧
          FirstHighest (b₁ ++ o :: b₂) p a) := by
  have listed : violatingLines (before ++ o :: after) =
      violatingLines before ++ o :: violatingLines after := by
    rw [violatingLines_removed, if_pos violates]
  rw [violatingLines_append] at lines
  have ahead : ∀ t, b = violatingLines before ++ t → violatingLines after = t ++ p :: a →
      ∃ b₁ b₂ a₁ a₂, b = b₁ ++ b₂ ∧ a = a₁ ++ a₂ ∧
        ((b₂ = [] ∧ violatingLines (before ++ o :: after) = b ++ p :: (a₁ ++ o :: a₂) ∧
            FirstHighest b p (a₁ ++ o :: a₂)) ∨
          a₁ = [] ∧ violatingLines (before ++ o :: after) = (b₁ ++ o :: b₂) ++ p :: a ∧
            FirstHighest (b₁ ++ o :: b₂) p a) := by
    rintro t rfl rest
    have lower : o.overage < p.overage := by
      refine lt_of_le_of_ne within fun same => behind ((firstHighest_violating violates).mp ?_)
      refine ⟨fun r mem => ?_, fun r mem => ?_⟩
      · rw [same]
        exact first.before r (List.mem_append_left _ mem)
      · rw [rest] at mem
        rw [same]
        refine first.le ?_
        rw [List.append_assoc]
        exact List.mem_append_right _ mem
    refine ⟨violatingLines before, t, [], a, rfl, rfl, .inr ⟨rfl, ?_, first.ahead lower⟩⟩
    rw [listed, rest]
    simp
  rcases List.append_eq_append_iff.mp lines with ⟨t, rfl, rest⟩ | ⟨t, split, rest⟩
  · exact ahead t rfl rest
  · cases t with
    | nil =>
        rw [List.append_nil] at split
        exact ahead [] (by rw [split, List.append_nil]) rest.symm
    | cons p' t =>
        obtain ⟨rfl, rfl⟩ := List.cons.inj rest
        refine ⟨b, [], t, violatingLines after, (List.append_nil b).symm, rfl,
          .inl ⟨rfl, ?_, first.behind within⟩⟩
        rw [listed, split]
        simp

theorem map_cons_map_inj {G G' : LineOverage → RiskFactorDetail} {f f' : RiskFactorDetail} :
    b.map G ++ f :: a.map G = b.map G' ++ f' :: a.map G' ↔ (∀ r ∈ b ++ a, G r = G' r) ∧ f = f' := by
  constructor
  · intro same
    obtain ⟨head, tail⟩ := List.append_inj same (by rw [List.length_map, List.length_map])
    obtain ⟨middle, tail⟩ := List.cons.inj tail
    refine ⟨fun r mem => ?_, middle⟩
    rcases List.mem_append.mp mem with earlier | later
    · exact List.map_inj_left.mp head r earlier
    · exact List.map_inj_left.mp tail r later
  · rintro ⟨same, rfl⟩
    rw [List.map_congr_left fun r mem => same r (List.mem_append_left _ mem),
      List.map_congr_left fun r mem => same r (List.mem_append_right _ mem)]

/-- Of some factors only the one about the line is left out. -/
theorem filter_between {xs ys : List RiskFactorDetail} {f : RiskFactorDetail}
    (own : f.sourceReference = lineReference o)
    (others : ∀ g ∈ xs ++ ys, g.sourceReference ≠ lineReference o) :
    (xs ++ f :: ys).filter (fun f => f.sourceReference ≠ lineReference o) = xs ++ ys := by
  rw [List.filter_append, List.filter_cons_of_neg (by simp [own]), ← List.filter_append]
  exact List.filter_eq_self.mpr fun g mem => decide_eq_true (others g mem)

/-- The charges of the others where the line is not the first highest: what it takes itself is left
out at the one that is. -/
theorem others_of_behind {G : LineOverage → RiskFactorDetail}
    (charged : lineFactor weights (discountExcessContrib weights (before ++ o :: after))
      (violatingLines (before ++ o :: after)) = G)
    (pos : 0 < discountExcessContrib weights (before ++ o :: after))
    (violates : 0 < o.overage) (behind : ¬ FirstHighest before o after)
    (lines : violatingLines (before ++ after) = b ++ p :: a) (first : FirstHighest b p a)
    (within : o.overage ≤ p.overage)
    (others : ∀ r ∈ before ++ after, lineReference r ≠ lineReference o) :
    (discountFactors weights (before ++ o :: after)).filter
        (fun f => f.sourceReference ≠ lineReference o) =
      b.map G ++ { G p with
        contribution := discountExcessContrib weights (before ++ o :: after) -
          (points ((b ++ a).map G) + (G o).contribution) } :: a.map G := by
  have references : ∀ r, (G r).sourceReference = lineReference r := charged ▸ fun _ => rfl
  have distinct : ∀ f ∈ b.map G ++ { G p with
        contribution := discountExcessContrib weights (before ++ o :: after) -
          (points ((b ++ a).map G) + (G o).contribution) } :: a.map G,
      f.sourceReference ≠ lineReference o := by
    intro f mem
    have referred : f.sourceReference ∈ (b ++ p :: a).map lineReference := by
      have listed := List.mem_map_of_mem (f := RiskFactorDetail.sourceReference) mem
      simpa [Function.comp_def, references] using listed
    obtain ⟨r, memR, same⟩ := List.mem_map.mp referred
    rw [← same]
    exact others r (List.mem_filter.mp (lines ▸ memR)).1
  have residue : ∀ rs : List LineOverage, rs.Perm (o :: (b ++ a)) →
      discountExcessContrib weights (before ++ o :: after) - points (rs.map G) =
        discountExcessContrib weights (before ++ o :: after) -
          (points ((b ++ a).map G) + (G o).contribution) := by
    intro rs perm
    have sums : points (rs.map G) = points ((o :: (b ++ a)).map G) :=
      ((perm.map G).map _).sum_eq
    rw [sums, List.map_cons, points, List.map_cons, List.sum_cons, points]
    ring
  have inserted : ∀ xs ys : List LineOverage,
      (xs ++ o :: ys).map G = xs.map G ++ G o :: ys.map G := fun _ _ => by
    rw [List.map_append, List.map_cons]
  obtain ⟨b₁, b₂, a₁, a₂, rfl, rfl, ⟨rfl, listed, first'⟩ | ⟨rfl, listed, first'⟩⟩ :=
    firstHighest_kept violates behind lines first within
  · have arranged := discountFactors_at weights pos listed first'
    have moved : (b₁ ++ a₁ ++ o :: a₂).Perm (o :: (b₁ ++ a₁ ++ a₂)) := List.perm_middle
    rw [charged, residue (b₁ ++ [] ++ (a₁ ++ o :: a₂)) (by simpa using moved), inserted,
      ← List.cons_append, ← List.append_assoc] at arranged
    rw [arranged, filter_between (references o)]
    · rw [List.append_assoc, List.cons_append, ← List.map_append]
    · rw [List.append_assoc, List.cons_append, ← List.map_append]
      exact distinct
  · have arranged := discountFactors_at weights pos listed first'
    rw [charged, residue (b₁ ++ o :: b₂ ++ ([] ++ a₂)) (by simp), inserted,
      List.append_assoc, List.cons_append] at arranged
    rw [arranged, filter_between (references o)]
    · rw [← List.append_assoc, ← List.map_append]
    · rw [← List.append_assoc, ← List.map_append]
      exact distinct

/-- Where the line is the first highest, the others are charged their rounded shares. -/
theorem others_of_first (pos : 0 < discountExcessContrib weights (before ++ o :: after))
    (violates : 0 < o.overage) (first : FirstHighest before o after)
    (others : ∀ r ∈ before ++ after, lineReference r ≠ lineReference o) :
    (discountFactors weights (before ++ o :: after)).filter
        (fun f => f.sourceReference ≠ lineReference o) =
      (violatingLines (before ++ after)).map
        (lineFactor weights (discountExcessContrib weights (before ++ o :: after))
          (violatingLines (before ++ o :: after))) := by
  have listed : violatingLines (before ++ o :: after) =
      violatingLines before ++ o :: violatingLines after := by
    rw [violatingLines_removed, if_pos violates]
  rw [discountFactors_at weights pos listed ((firstHighest_violating violates).mpr first),
    filter_between rfl]
  · rw [← List.map_append, ← violatingLines_append]
  · intro f mem
    rw [← List.map_append, ← violatingLines_append] at mem
    obtain ⟨r, memR, rfl⟩ := List.mem_map.mp mem
    exact others r (List.mem_filter.mp memR).1

/-- Two factors of a line differ in their contributions only. -/
theorem lineFactor_eq_iff {os os' : List LineOverage} (r : LineOverage) :
    lineFactor weights (discountExcessContrib weights os) (violatingLines os) r =
        lineFactor weights (discountExcessContrib weights os') (violatingLines os') r ↔
      quantize 2 (sharePoints weights os r) = quantize 2 (sharePoints weights os' r) := by
  constructor
  · exact congrArg RiskFactorDetail.contribution
  · intro same
    unfold sharePoints at same
    unfold lineFactor quantizeDec
    rw [same]

theorem lineFactor_eq_with_iff {os os' : List LineOverage} (r : LineOverage) (y : ℚ) :
    lineFactor weights (discountExcessContrib weights os) (violatingLines os) r =
        { lineFactor weights (discountExcessContrib weights os') (violatingLines os') r with
          contribution := y } ↔
      quantize 2 (sharePoints weights os r) = y := by
  constructor
  · exact congrArg RiskFactorDetail.contribution
  · rintro rfl
    rfl

theorem with_contribution_iff {os os' : List LineOverage} (r : LineOverage) (x y : ℚ) :
    { lineFactor weights (discountExcessContrib weights os) (violatingLines os) r with
          contribution := x } =
        { lineFactor weights (discountExcessContrib weights os') (violatingLines os') r with
          contribution := y } ↔ x = y := by
  constructor
  · exact congrArg RiskFactorDetail.contribution
  · rintro rfl
    rfl

/-- The violating lines of the others, where the line is not the worst. -/
theorem violatingLines_others (violates : 0 < o.overage)
    (within : o.overage ≤ maxOverage (before ++ after)) :
    ∃ r ∈ violatingLines (before ++ after), o.overage ≤ r.overage := by
  rcases (maxOverage_spec (before ++ after)).2 with ⟨-, zero⟩ | ⟨r, mem, eq⟩
  · rw [zero] at within
    exact absurd violates within.not_gt
  · rw [eq] at within
    have above : 0 < r.overage := violates.trans_le within
    exact ⟨r, List.mem_filter.mpr ⟨mem, decide_eq_true above⟩, within⟩

/-- One decomposition of the violating lines stands for all. -/
theorem shares_iff (weights : RiskWeights) (o : LineOverage)
    (lines : violatingLines (before ++ after) = b ++ p :: a) (first : FirstHighest b p a) :
    (∀ b p a, violatingLines (before ++ after) = b ++ p :: a → FirstHighest b p a →
        ∀ r ∈ b ++ a, quantize 2 (sharePoints weights (before ++ o :: after) r) =
          quantize 2 (sharePoints weights (before ++ after) r)) ↔
      ∀ r ∈ b ++ a, lineFactor weights (discountExcessContrib weights (before ++ o :: after))
          (violatingLines (before ++ o :: after)) r =
        lineFactor weights (discountExcessContrib weights (before ++ after))
          (violatingLines (before ++ after)) r := by
  simp only [lineFactor_eq_iff]
  refine ⟨fun kept => kept b p a lines first, fun kept b' p' a' lines' first' => ?_⟩
  obtain ⟨rfl, -, rfl⟩ := first.unique first' (lines.symm.trans lines')
  exact kept

/-- The factors about the other lines come out as without the line exactly where it takes nothing
and leaves the shares alone. -/
theorem charges_iff
    (same : discountExcessContrib weights (before ++ o :: after) =
      discountExcessContrib weights (before ++ after))
    (pos : 0 < discountExcessContrib weights (before ++ o :: after)) (violates : 0 < o.overage)
    (within : o.overage ≤ maxOverage (before ++ after))
    (others : ∀ r ∈ before ++ after, lineReference r ≠ lineReference o) :
    (discountFactors weights (before ++ o :: after)).filter
        (fun f => f.sourceReference ≠ lineReference o) =
      discountFactors weights (before ++ after) ↔ ChargesKept weights before o after := by
  obtain ⟨r, memR, above⟩ := violatingLines_others violates within
  obtain ⟨b, p, a, lines, first, split'⟩ :=
    discountFactors_split weights (same ▸ pos) (List.ne_nil_of_mem memR)
  have within' : o.overage ≤ p.overage := above.trans (first.le (lines ▸ memR))
  have shares := shares_iff weights o lines first
  have sums : (∀ r ∈ b ++ a,
      lineFactor weights (discountExcessContrib weights (before ++ o :: after))
          (violatingLines (before ++ o :: after)) r =
        lineFactor weights (discountExcessContrib weights (before ++ after))
          (violatingLines (before ++ after)) r) →
      points ((b ++ a).map (lineFactor weights (discountExcessContrib weights (before ++ after))
          (violatingLines (before ++ after)))) =
        ((b ++ a).map fun r => quantize 2 (sharePoints weights (before ++ o :: after) r)).sum := by
    intro kept
    rw [← points_lineFactors, List.map_congr_left kept]
  rw [split']
  by_cases ahead : FirstHighest before o after
  · have whole : ((violatingLines (before ++ after)).map fun r =>
        quantize 2 (sharePoints weights (before ++ o :: after) r)).sum =
        ((b ++ a).map fun r => quantize 2 (sharePoints weights (before ++ o :: after) r)).sum +
          quantize 2 (sharePoints weights (before ++ o :: after) p) := by
      rw [lines]
      simp only [List.map_append, List.map_cons, List.sum_append, List.sum_cons]
      ring
    rw [others_of_first pos violates ahead others]
    have listed : (violatingLines (before ++ after)).map
        (lineFactor weights (discountExcessContrib weights (before ++ o :: after))
          (violatingLines (before ++ o :: after))) = _ := congrArg _ lines
    rw [listed, List.map_append, List.map_cons, map_cons_map_inj, lineFactor_eq_with_iff]
    constructor
    · rintro ⟨kept, own⟩
      refine ⟨shares.mpr kept, fun behind => absurd ahead behind, fun _ => ?_⟩
      rw [sums kept, ← same] at own
      rw [whole, own]
      ring
    · rintro ⟨kept, -, residue⟩
      have kept' := shares.mp kept
      refine ⟨kept', ?_⟩
      have total := residue ahead
      rw [whole] at total
      rw [sums kept', ← same]
      linarith
  · rw [others_of_behind rfl pos violates ahead lines first within' others, map_cons_map_inj,
      with_contribution_iff, lineFactor_contribution]
    constructor
    · rintro ⟨kept, own⟩
      refine ⟨shares.mpr kept, fun _ => ?_, fun first => absurd first ahead⟩
      rw [sums kept, ← same, points_lineFactors] at own
      linarith
    · rintro ⟨kept, share, -⟩
      have kept' := shares.mp kept
      refine ⟨kept', ?_⟩
      have nothing := share ahead
      rw [sums kept', ← same, points_lineFactors, nothing, add_zero]

/-- One of so many equal parts of an excess. -/
def equalPart (excess : ℚ) (parts : ℕ) : ℚ :=
  quantize 2 (decimal28 (excess * decimal28 (1 / parts)))

/-- What some lines are charged of an excess is left alone by one more violating line that is worth
nothing, whether or not it is the first worst.  Where the others are worth something their shares
stay; else all shares are equal parts, one part smaller. -/
structure ChargesUnmoved (excess : ℚ) (os : List LineOverage) (worst : Prop) : Prop where
  rest : 0 < weightedOverage (violatingLines os) → worst →
    ((violatingLines os).map fun r =>
      quantize 2 (decimal28
        (excess * decimal28 (r.weighted / weightedOverage (violatingLines os))))).sum = excess
  parts : ¬ 0 < weightedOverage (violatingLines os) → 1 < (violatingLines os).length →
    equalPart excess ((violatingLines os).length + 1) =
      equalPart excess (violatingLines os).length
  part : ¬ 0 < weightedOverage (violatingLines os) → ¬ worst →
    equalPart excess ((violatingLines os).length + 1) = 0
  restPart : ¬ 0 < weightedOverage (violatingLines os) → worst →
    (violatingLines os).length * equalPart excess ((violatingLines os).length + 1) = excess

/-- The share of a line next to one that is worth nothing. -/
theorem sharePoints_removed (weights : RiskWeights) (before after : List LineOverage)
    (weightless : o.weight = 0) (violates : 0 < o.overage) (r : LineOverage) :
    sharePoints weights (before ++ o :: after) r =
      decimal28 (discountExcessContrib weights (before ++ o :: after) *
        if 0 < weightedOverage (violatingLines (before ++ after)) then
          decimal28 (r.weighted / weightedOverage (violatingLines (before ++ after)))
        else decimal28 (1 / ((violatingLines (before ++ after)).length + 1 : ℕ))) := by
  have listed : violatingLines (before ++ o :: after) =
      violatingLines before ++ o :: violatingLines after := by
    rw [violatingLines_removed, if_pos violates]
  have total : weightedOverage (violatingLines (before ++ o :: after)) =
      weightedOverage (violatingLines (before ++ after)) := by
    rw [listed, violatingLines_append, weightedOverage_removed weightless]
  have length : (violatingLines (before ++ o :: after)).length =
      (violatingLines (before ++ after)).length + 1 := by
    rw [listed, violatingLines_append]
    simp only [List.length_append, List.length_cons]
    omega
  unfold sharePoints overageShare
  rw [total, length]

theorem chargesKept_iff
    (same : discountExcessContrib weights (before ++ o :: after) =
      discountExcessContrib weights (before ++ after))
    (pos : 0 < discountExcessContrib weights (before ++ after)) (weightless : o.weight = 0)
    (violates : 0 < o.overage) (others : violatingLines (before ++ after) ≠ []) :
    ChargesKept weights before o after ↔
      ChargesUnmoved (discountExcessContrib weights (before ++ after)) (before ++ after)
        (FirstHighest before o after) := by
  have withLine := sharePoints_removed weights before after weightless violates
  have without : ∀ r, sharePoints weights (before ++ after) r =
      decimal28 (discountExcessContrib weights (before ++ after) *
        if 0 < weightedOverage (violatingLines (before ++ after)) then
          decimal28 (r.weighted / weightedOverage (violatingLines (before ++ after)))
        else decimal28 (1 / (violatingLines (before ++ after)).length)) := fun _ => rfl
  rw [same] at withLine
  by_cases valued : 0 < weightedOverage (violatingLines (before ++ after))
  · simp only [valued, if_true] at withLine without
    constructor
    · intro kept
      refine ⟨fun _ worst => ?_, fun none => absurd valued none, fun none => absurd valued none,
        fun none => absurd valued none⟩
      have residue := kept.residue worst
      simp only [withLine, same] at residue
      exact residue
    · intro unmoved
      refine ⟨fun b p a _ _ r _ => by rw [withLine, without], fun _ => ?_, fun worst => ?_⟩
      · rw [withLine, weighted_eq_zero weightless, zero_div, rounds_decimal28.zero, mul_zero,
          rounds_decimal28.zero]
        exact quantize_zero 2
      · simp only [withLine, same]
        exact unmoved.rest valued worst
  · simp only [valued, if_false] at withLine without
    obtain ⟨b, p, a, lines, first, -⟩ := discountFactors_split weights pos others
    have length : (violatingLines (before ++ after)).length = (b ++ a).length + 1 := by
      rw [lines]
      simp only [List.length_append, List.length_cons]
      omega
    constructor
    · intro kept
      refine ⟨fun some => absurd some valued, fun _ several => ?_, fun _ behind => ?_,
        fun _ worst => ?_⟩
      · have some : b ++ a ≠ [] := List.length_pos_iff.mp (by omega)
        obtain ⟨r, memR⟩ := List.exists_mem_of_ne_nil _ some
        have shares := kept.shares b p a lines first r memR
        rw [withLine, without] at shares
        exact shares
      · have share := kept.share behind
        rw [withLine] at share
        exact share
      · have residue := kept.residue worst
        simp only [withLine, same] at residue
        rw [List.map_const', List.sum_replicate, nsmul_eq_mul] at residue
        exact residue
    · intro unmoved
      refine ⟨fun b' p' a' lines' _ r memR => ?_, fun behind => ?_, fun worst => ?_⟩
      · rw [withLine, without]
        refine unmoved.parts valued ?_
        have some := List.length_pos_iff.mpr (List.ne_nil_of_mem memR)
        rw [lines']
        simp only [List.length_append, List.length_cons] at some ⊢
        omega
      · rw [withLine]
        exact unmoved.part valued behind
      · simp only [withLine, same]
        rw [List.map_const', List.sum_replicate, nsmul_eq_mul]
        exact unmoved.restPart valued worst

end Apportionment

end DealFlow
