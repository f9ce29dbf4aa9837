import DealFlow.Alerts.Baseline
import Mathlib.Algebra.BigOperators.Group.List.Basic
import Mathlib.Data.List.Count
import Mathlib.Tactic.Ring

/-!
# Anomalies and higher discounts

What happens to a discount anomaly when the discounts in the deal's own assessment go up.  The
deal's discount goes up, and where the deal is one of those its baseline is taken from, so does the
baseline, and with it the threshold the discount has to pass.  All three are rounded to two places,
so the threshold may go up by 0.02 where the discount goes up by 0.01, and then the discount may
come to rest on it (`raises_after_iff`).  In no other way does an anomaly end.
-/

namespace DealFlow

open Lib

/-! ## The threshold, in steps of 0.01 -/

section Cents

/-- The threshold of a baseline. -/
def anomalyThreshold (avg : ℚ) : ℚ :=
  quantize 2 (max (avg * (3 / 2)) (avg + 5))

/-- The threshold of a baseline of `avg` steps. -/
def thresholdSteps (avg : ℤ) : ℤ :=
  if 1000 ≤ avg then (3 * avg + 1) / 2 else avg + 500

theorem quantize_two (x : ℚ) : quantize 2 x = (roundHalfUp (x * 100) : ℚ) / 100 := by
  unfold quantize
  norm_num

theorem anomalyThreshold_steps (avg : ℤ) :
    anomalyThreshold ((avg : ℚ) / 100) = (thresholdSteps avg : ℚ) / 100 := by
  unfold anomalyThreshold thresholdSteps
  split
  · next large =>
      have large' : (1000 : ℚ) ≤ avg := by exact_mod_cast large
      have factor : (avg : ℚ) / 100 + 5 ≤ avg / 100 * (3 / 2) := by linarith
      have nonneg : (0 : ℚ) ≤ avg / 100 * (3 / 2) * 100 := by linarith
      have lower : (3 * avg + 1) / 2 * 2 ≤ 3 * avg + 1 := by omega
      have upper : 3 * avg + 1 < (3 * avg + 1) / 2 * 2 + 2 := by omega
      have lower' : (((3 * avg + 1) / 2 : ℤ) : ℚ) * 2 ≤ 3 * avg + 1 := by exact_mod_cast lower
      have upper' : (3 * avg + 1 : ℚ) < (((3 * avg + 1) / 2 : ℤ) : ℚ) * 2 + 2 := by
        exact_mod_cast upper
      have floor : ⌊(avg : ℚ) / 100 * (3 / 2) * 100 + 1 / 2⌋ = (3 * avg + 1) / 2 :=
        Int.floor_eq_iff.mpr ⟨by linarith, by linarith⟩
      rw [max_eq_left factor, quantize_two, roundHalfUp, if_pos nonneg, floor]
  · next small =>
      have small' : (avg : ℚ) < 1000 := by exact_mod_cast not_le.mp small
      have points : (avg : ℚ) / 100 * (3 / 2) ≤ avg / 100 + 5 := by linarith
      rw [max_eq_right points, quantize_of_grid (n := avg + 500)]
      · push_cast
        ring
      · push_cast
        ring

theorem anomalyThreshold_quantize (average : ℚ) :
    anomalyThreshold (quantize 2 average) =
      (thresholdSteps (roundHalfUp (average * 100)) : ℚ) / 100 := by
  rw [quantize_two, anomalyThreshold_steps]

/-- Where the average goes up by about half as much as the discount at most, so does the threshold
by no more than the discount, or the discount goes up by one step and the threshold by two. -/
theorem thresholdSteps_step {avg avg' rise : ℤ} (positive : 0 < rise) (le : avg ≤ avg')
    (weak : 2 * (avg' - avg) ≤ rise + 2) (strict : 0 < avg → 2 * (avg' - avg) ≤ rise + 1) :
    thresholdSteps avg' ≤ thresholdSteps avg + rise ∨
      rise = 1 ∧ thresholdSteps avg' = thresholdSteps avg + 2 := by
  unfold thresholdSteps
  split
  · split <;> omega
  · split <;> omega

theorem steps_eq_add_iff {steps steps' : ℤ} :
    (steps' : ℚ) / 100 = steps / 100 + 1 / 100 ↔ steps' - steps = 1 := by
  rw [← add_div, div_left_inj' (by norm_num)]
  constructor
  · intro eq
    have ints : steps' = steps + 1 := by exact_mod_cast eq
    omega
  · intro one
    have ints : steps' = steps + 1 := by omega
    rw [ints]
    push_cast
    rfl

/-- Where the average goes up by half as much as the discount at most, one above the threshold
stays above it, unless it goes up by one step and meets the threshold. -/
theorem above_threshold_iff {average average' : ℚ} {discount rise : ℤ} (positive : 0 < rise)
    (le : average ≤ average') (near : 2 * (average' - average) ≤ rise)
    (above : thresholdSteps (roundHalfUp average) < discount) :
    thresholdSteps (roundHalfUp average') < discount + rise ↔
      ¬ (rise = 1 ∧ thresholdSteps (roundHalfUp average') = discount + rise) := by
  have mono := roundHalfUp_mono le
  have error := abs_le.mp (roundHalfUp_error average)
  have error' := abs_le.mp (roundHalfUp_error average')
  have weak : 2 * (roundHalfUp average' - roundHalfUp average) ≤ rise + 2 := by
    have cast : 2 * ((roundHalfUp average' : ℚ) - roundHalfUp average) ≤ rise + 2 := by linarith
    exact_mod_cast cast
  have strict : 0 < roundHalfUp average →
      2 * (roundHalfUp average' - roundHalfUp average) ≤ rise + 1 := by
    intro pos
    have nonneg : 0 ≤ average := by
      by_contra neg
      exact pos.not_ge (roundHalfUp_nonpos (not_le.mp neg))
    have less := roundHalfUp_lt_add nonneg le
    have cast : 2 * ((roundHalfUp average' : ℚ) - roundHalfUp average) < rise + 2 := by linarith
    have ints : 2 * (roundHalfUp average' - roundHalfUp average) < rise + 2 := by
      exact_mod_cast cast
    omega
  rcases thresholdSteps_step positive mono weak strict with less | ⟨one, two⟩
  · constructor
    · intro higher rest
      omega
    · intro _
      omega
  · constructor
    · intro higher rest
      omega
    · intro rest
      omega

end Cents

/-! ## The discount of the deal -/

section Discount

/-- A line with its discount raised, or left. -/
structure RaisedLine (before after : LineSnapshot) : Prop where
  price : after.priceUnit = before.priceUnit
  qty : after.qty = before.qty
  discount : before.discountPct ≤ after.discountPct

/-- The list value of some lines. -/
def listTotal (lines : List LineSnapshot) : ℚ :=
  (lines.map fun i => i.priceUnit * i.qty).sum

/-- The discounts of some lines, each as often as its list value says. -/
def discountTotal (lines : List LineSnapshot) : ℚ :=
  (lines.map fun i => i.priceUnit * i.qty * i.discountPct).sum

variable {snapshots : Snapshots} {d : DealRow} {assessment : ℕ} {lines lines' : List LineSnapshot}

theorem weightedDiscount_assessed (assessed : d.currentAssessmentId = some assessment)
    (row : snapshots assessment = some lines) :
    weightedDiscount snapshots d =
      if listTotal lines > 0 then quantize 2 (discountTotal lines / listTotal lines)
      else d.orderDiscountPct := by
  unfold weightedDiscount
  rw [assessed, Option.bind_some, row, Option.getD_some]
  cases lines with
  | nil => rfl
  | cons item items => rfl

theorem weightedDiscount_other (other : d.currentAssessmentId ≠ some assessment) :
    weightedDiscount (Function.update snapshots assessment (some lines')) d =
      weightedDiscount snapshots d := by
  unfold weightedDiscount
  cases current : d.currentAssessmentId with
  | none => rfl
  | some id =>
      have ne : id ≠ assessment := fun eq => other (current.trans (congrArg some eq))
      rw [Option.bind_some, Option.bind_some, Function.update_of_ne ne]

theorem listTotal_raised (raised : List.Forall₂ RaisedLine lines lines') :
    listTotal lines' = listTotal lines := by
  unfold listTotal
  induction raised with
  | nil => rfl
  | cons head _ ih =>
      rw [List.map_cons, List.map_cons, List.sum_cons, List.sum_cons, ih, head.price, head.qty]

theorem discountTotal_raised (raised : List.Forall₂ RaisedLine lines lines')
    (listed : ∀ i ∈ lines, 0 ≤ i.priceUnit * i.qty) :
    discountTotal lines ≤ discountTotal lines' := by
  unfold discountTotal
  induction raised with
  | nil => exact le_rfl
  | cons head _ ih =>
      rw [List.forall_mem_cons] at listed
      rw [List.map_cons, List.map_cons, List.sum_cons, List.sum_cons, head.price, head.qty]
      exact add_le_add (mul_le_mul_of_nonneg_left head.discount listed.1) (ih listed.2)

/-- Higher discounts on lines of no negative list value make for a higher discount of the deal. -/
theorem weightedDiscount_raised (assessed : d.currentAssessmentId = some assessment)
    (row : snapshots assessment = some lines) (raised : List.Forall₂ RaisedLine lines lines')
    (listed : ∀ i ∈ lines, 0 ≤ i.priceUnit * i.qty) :
    weightedDiscount snapshots d ≤
      weightedDiscount (Function.update snapshots assessment (some lines')) d := by
  rw [weightedDiscount_assessed assessed row,
    weightedDiscount_assessed assessed (Function.update_self assessment (some lines') snapshots),
    listTotal_raised raised]
  split
  · next positive =>
      exact quantize_mono 2 (div_le_div_of_nonneg_right (discountTotal_raised raised listed)
        positive.le)
  · exact le_rfl

/-- Raised discounts leave the discount of the deal as it is, or take it from one whole number of
steps to another. -/
theorem weightedDiscount_steps (assessed : d.currentAssessmentId = some assessment)
    (row : snapshots assessment = some lines) (raised : List.Forall₂ RaisedLine lines lines') :
    weightedDiscount (Function.update snapshots assessment (some lines')) d =
        weightedDiscount snapshots d ∨
      ∃ steps steps' : ℤ, weightedDiscount snapshots d = (steps : ℚ) / 100 ∧
        weightedDiscount (Function.update snapshots assessment (some lines')) d =
          (steps' : ℚ) / 100 := by
  rw [weightedDiscount_assessed assessed row,
    weightedDiscount_assessed assessed (Function.update_self assessment (some lines') snapshots),
    listTotal_raised raised]
  split
  · exact .inr ⟨_, _, quantize_two _, quantize_two _⟩
  · exact .inl rfl

end Discount

/-! ## The baseline of the deal -/

section Baseline

variable {deals : Table DealRow} {snapshots : Snapshots} {d : DealRow}

/-- The deals the baseline of a deal is taken from. -/
def sampleOf (deals : Table DealRow) (d : DealRow) (minSample : ℕ) : List DealRow :=
  (sampleDeals deals d.ownerOdooUserId d.salesTeamOdooId d.odooCompanyId 20 minSample).2

/-- The average discount of some deals, before it is rounded. -/
def averageDiscount (snapshots : Snapshots) (sample : List DealRow) : ℚ :=
  (sample.map (weightedDiscount snapshots)).sum / sample.length

theorem baseline_avg (minSample : ℕ) :
    (calculateRepDiscountBaseline deals snapshots d.ownerOdooUserId d.salesTeamOdooId
        d.odooCompanyId 20 minSample).avg =
      quantize 2 (averageDiscount snapshots (sampleOf deals d minSample)) := by
  unfold calculateRepDiscountBaseline averageDiscount sampleOf
  dsimp only
  split
  · next empty => rw [empty, Nat.cast_zero, div_zero, quantize_zero]
  · rfl

/-- An anomaly is raised where there are deals enough, and the discount is 10 % or more and above
the threshold. -/
theorem anomalyVerdict_raises_iff {minSample : ℕ} :
    (anomalyVerdict deals snapshots d minSample).effect = some true ↔
      minSample ≤ (sampleOf deals d minSample).length ∧ 10 ≤ weightedDiscount snapshots d ∧
        anomalyThreshold (quantize 2 (averageDiscount snapshots (sampleOf deals d minSample))) <
          weightedDiscount snapshots d := by
  rw [← baseline_avg]
  unfold sampleOf
  rw [← sampleSize_eq deals snapshots]
  unfold anomalyVerdict anomalyThreshold
  dsimp only
  split
  · next few => exact iff_of_false nofun fun enough => few.not_ge enough.1
  · next enough =>
      split
      · next above => exact iff_of_true rfl ⟨not_lt.mp enough, above⟩
      · next below => exact iff_of_false nofun fun above => below above.2

/-- So in steps, where the discount is a whole number of them. -/
theorem anomalyVerdict_raises_steps_iff {minSample : ℕ} {steps : ℤ}
    (eq : weightedDiscount snapshots d = (steps : ℚ) / 100) :
    (anomalyVerdict deals snapshots d minSample).effect = some true ↔
      minSample ≤ (sampleOf deals d minSample).length ∧ 1000 ≤ steps ∧
        thresholdSteps
          (roundHalfUp (averageDiscount snapshots (sampleOf deals d minSample) * 100)) < steps := by
  have least : (10 : ℚ) ≤ (steps : ℚ) / 100 ↔ 1000 ≤ steps := by
    rw [le_div_iff₀ (by norm_num)]
    norm_num
    exact_mod_cast Iff.rfl
  rw [anomalyVerdict_raises_iff, anomalyThreshold_quantize, eq, least,
    div_lt_div_iff_of_pos_right (by norm_num), Int.cast_lt]

/-- A deal that is its own baseline has no anomaly. -/
theorem not_raises_alone {minSample : ℕ} {steps : ℤ}
    (eq : weightedDiscount snapshots d = (steps : ℚ) / 100)
    (alone : sampleOf deals d minSample = [d]) :
    (anomalyVerdict deals snapshots d minSample).effect ≠ some true := by
  have average : averageDiscount snapshots (sampleOf deals d minSample) * 100 = steps := by
    unfold averageDiscount
    rw [alone, List.map_singleton, List.sum_singleton, List.length_singleton, eq, Nat.cast_one,
      div_one, div_mul_cancel₀ _ (by norm_num)]
  intro raises
  rw [anomalyVerdict_raises_steps_iff eq, average, roundHalfUp_intCast] at raises
  obtain ⟨-, least, above⟩ := raises
  unfold thresholdSteps at above
  rw [if_pos least] at above
  omega

/-- The sample is some of the deals there are, each once. -/
theorem latestDeals_subperm (window : ℕ) (group : DealRow → Bool) :
    (latestDeals deals window group).Subperm (deals.entries.map Prod.snd) := by
  unfold latestDeals
  refine (List.take_sublist _ _).subperm.trans ?_
  refine (List.perm_insertionSort _ _).subperm.trans ?_
  exact List.filter_sublist.subperm

theorem sampleOf_subperm (minSample : ℕ) :
    (sampleOf deals d minSample).Subperm (deals.entries.map Prod.snd) := by
  unfold sampleOf sampleDeals
  dsimp only
  split
  · split
    · exact latestDeals_subperm 20 _
    · split <;> exact latestDeals_subperm 20 _
  · exact latestDeals_subperm 20 _

end Baseline

/-! ## Raising the discounts of one deal -/

section Raise

/-- A sum over a list, of two functions that differ at one element. -/
theorem sum_map_eq_add_count {α : Type} [DecidableEq α] (f g : α → ℚ) (a : α) (l : List α)
    (others : ∀ b ∈ l, b ≠ a → g b = f b) :
    (l.map g).sum = (l.map f).sum + l.count a * (g a - f a) := by
  induction l with
  | nil => simp
  | cons b l ih =>
      rw [List.forall_mem_cons] at others
      rw [List.map_cons, List.map_cons, List.sum_cons, List.sum_cons, ih others.2, List.count_cons]
      by_cases here : b = a
      · rw [here, if_pos (beq_self_eq_true a)]
        push_cast
        ring
      · rw [others.1 here, if_neg (by simpa using here), Nat.add_zero]
        ring

variable {deals : Table DealRow} {dealId assessment : ℕ} {d : DealRow}

/-- No other deal has the assessment as its current one. -/
def OwnAssessment (deals : Table DealRow) (dealId assessment : ℕ) : Prop :=
  ∀ id e, deals.row id = some e → e.currentAssessmentId = some assessment → id = dealId

/-- A deal that is the only one with its assessment is among the deals once. -/
theorem count_le_one (own : OwnAssessment deals dealId assessment)
    (assessed : d.currentAssessmentId = some assessment) :
    (deals.entries.map Prod.snd).count d ≤ 1 := by
  have nodup : ((deals.entries.filter ((· == d) ∘ Prod.snd)).map Prod.fst).Nodup :=
    (deals.entries_nodup).sublist (List.filter_sublist.map Prod.fst)
  have same : ∀ id ∈ (deals.entries.filter ((· == d) ∘ Prod.snd)).map Prod.fst,
      id = dealId := by
    intro id mem
    obtain ⟨entry, found, rfl⟩ := List.mem_map.mp mem
    obtain ⟨listed, eq⟩ := List.mem_filter.mp found
    have value : entry.2 = d := beq_iff_eq.mp eq
    exact own entry.1 entry.2 (Table.mem_entries.mp listed) (value ▸ assessed)
  rw [List.eq_replicate_of_mem same, List.nodup_replicate, List.length_map] at nodup
  rw [List.count_eq_countP, List.countP_map, List.countP_eq_length_filter]
  exact nodup

section Average

variable (snapshots : Snapshots) (lines' : List LineSnapshot)

/-- What the new discounts of one deal add to the discounts of the sample. -/
theorem sum_sample_raised (row : deals.row dealId = some d)
    (own : OwnAssessment deals dealId assessment) (minSample : ℕ) :
    ((sampleOf deals d minSample).map
        (weightedDiscount (Function.update snapshots assessment (some lines')))).sum =
      ((sampleOf deals d minSample).map (weightedDiscount snapshots)).sum +
        (sampleOf deals d minSample).count d *
          (weightedDiscount (Function.update snapshots assessment (some lines')) d -
            weightedDiscount snapshots d) := by
  refine sum_map_eq_add_count _ _ d _ fun e mem ne => weightedDiscount_other fun current => ne ?_
  obtain ⟨⟨id, e'⟩, listed, rfl⟩ := List.mem_map.mp ((sampleOf_subperm minSample).subset mem)
  have found := Table.mem_entries.mp listed
  have here : id = dealId := own id e' found current
  rw [here, row] at found
  exact (Option.some.inj found).symm

theorem averageDiscount_same (row : deals.row dealId = some d)
    (own : OwnAssessment deals dealId assessment) (minSample : ℕ)
    (same : weightedDiscount (Function.update snapshots assessment (some lines')) d =
      weightedDiscount snapshots d) :
    averageDiscount (Function.update snapshots assessment (some lines'))
        (sampleOf deals d minSample) =
      averageDiscount snapshots (sampleOf deals d minSample) := by
  unfold averageDiscount
  rw [sum_sample_raised snapshots lines' row own, same, sub_self, mul_zero, add_zero]

/-- The average goes up by half the rise of the discount at most where the deal is no more than half
of the sample. -/
theorem averageDiscount_raised (row : deals.row dealId = some d)
    (own : OwnAssessment deals dealId assessment)
    {minSample : ℕ} (rise : weightedDiscount snapshots d ≤
      weightedDiscount (Function.update snapshots assessment (some lines')) d)
    (half : 2 * (sampleOf deals d minSample).count d ≤ (sampleOf deals d minSample).length) :
    averageDiscount snapshots (sampleOf deals d minSample) ≤
        averageDiscount (Function.update snapshots assessment (some lines'))
          (sampleOf deals d minSample) ∧
      2 * (averageDiscount (Function.update snapshots assessment (some lines'))
            (sampleOf deals d minSample) -
          averageDiscount snapshots (sampleOf deals d minSample)) ≤
        weightedDiscount (Function.update snapshots assessment (some lines')) d -
          weightedDiscount snapshots d := by
  have half' : (2 : ℚ) * (sampleOf deals d minSample).count d ≤
      (sampleOf deals d minSample).length := by exact_mod_cast half
  unfold averageDiscount
  rw [sum_sample_raised snapshots lines' row own minSample, add_div, add_sub_cancel_left]
  have share : 0 ≤ ((sampleOf deals d minSample).count d : ℚ) *
      (weightedDiscount (Function.update snapshots assessment (some lines')) d -
        weightedDiscount snapshots d) := mul_nonneg (Nat.cast_nonneg _) (sub_nonneg.mpr rise)
  constructor
  · exact le_add_of_nonneg_right (div_nonneg share (Nat.cast_nonneg _))
  · rw [← mul_div_assoc, ← mul_assoc]
    refine div_le_of_le_mul₀ (Nat.cast_nonneg _) (sub_nonneg.mpr rise) ?_
    rw [mul_comm (_ - _)]
    exact mul_le_mul_of_nonneg_right half' (sub_nonneg.mpr rise)

end Average

/-- The deal is at most half of the sample, or all of it. -/
theorem count_sample (own : OwnAssessment deals dealId assessment)
    (assessed : d.currentAssessmentId = some assessment) (minSample : ℕ) :
    2 * (sampleOf deals d minSample).count d ≤ (sampleOf deals d minSample).length ∨
      sampleOf deals d minSample = [d] := by
  have one := ((sampleOf_subperm (d := d) minSample).count_le d).trans (count_le_one own assessed)
  have less := List.count_le_length (a := d) (l := sampleOf deals d minSample)
  by_cases half : 2 * (sampleOf deals d minSample).count d ≤ (sampleOf deals d minSample).length
  · exact .inl half
  · have whole : (sampleOf deals d minSample).length = 1 := by omega
    obtain ⟨e, sample⟩ := List.length_eq_one_iff.mp whole
    have mem : d ∈ sampleOf deals d minSample := List.count_pos_iff.mp (by omega)
    rw [sample, List.mem_singleton] at mem
    exact .inr (sample.trans (by rw [mem]))

variable {snapshots : Snapshots} {lines lines' : List LineSnapshot}

/-- Where the discounts in a deal's own assessment go up, with an anomaly raised before, one is
raised after, unless the discount goes up by 0.01 and comes to rest on the threshold. -/
theorem raises_after_iff (row : deals.row dealId = some d)
    (assessed : d.currentAssessmentId = some assessment)
    (own : OwnAssessment deals dealId assessment) (before : snapshots assessment = some lines)
    (raised : List.Forall₂ RaisedLine lines lines') (minSample : ℕ) :
    let after := Function.update snapshots assessment (some lines')
    ((∀ i ∈ lines, 0 ≤ i.priceUnit * i.qty) →
        weightedDiscount snapshots d ≤ weightedDiscount after d) ∧
      (weightedDiscount snapshots d ≤ weightedDiscount after d →
        (anomalyVerdict deals snapshots d minSample).effect = some true →
        ((anomalyVerdict deals after d minSample).effect = some true ↔
          ¬ (weightedDiscount after d = weightedDiscount snapshots d + 1 / 100 ∧
            weightedDiscount after d =
              anomalyThreshold (calculateRepDiscountBaseline deals after d.ownerOdooUserId
                d.salesTeamOdooId d.odooCompanyId 20 minSample).avg))) := by
  intro after
  refine ⟨weightedDiscount_raised assessed before raised, ?_⟩
  intro higher raises
  rw [baseline_avg]
  by_cases same : weightedDiscount after d = weightedDiscount snapshots d
  · -- nothing changes
    have average : averageDiscount after (sampleOf deals d minSample) = _ :=
      averageDiscount_same snapshots lines' row own minSample same
    rw [anomalyVerdict_raises_iff] at raises ⊢
    rw [same, average]
    refine iff_of_true raises ?_
    rintro ⟨more, -⟩
    linarith
  · obtain ⟨steps, steps', eq, eq'⟩ :=
      (weightedDiscount_steps assessed before raised).resolve_left same
    change weightedDiscount after d = _ at eq'
    have positive : 0 < steps' - steps := by
      have less : weightedDiscount snapshots d < weightedDiscount after d :=
        lt_of_le_of_ne higher (Ne.symm same)
      rw [eq, eq', div_lt_div_iff_of_pos_right (by norm_num), Int.cast_lt] at less
      omega
    rcases count_sample own assessed minSample with half | alone
    · obtain ⟨le, near⟩ := averageDiscount_raised snapshots lines' row own higher half
      change _ ≤ averageDiscount after _ at le
      change 2 * (averageDiscount after _ - _) ≤ weightedDiscount after d - _ at near
      rw [eq, eq'] at near
      obtain ⟨enough, least, above⟩ := (anomalyVerdict_raises_steps_iff eq).mp raises
      have stays := above_threshold_iff positive (mul_le_mul_of_nonneg_right le (by norm_num))
        (by push_cast; linarith) above
      rw [add_sub_cancel] at stays
      rw [anomalyVerdict_raises_steps_iff eq', anomalyThreshold_quantize, eq, eq',
        steps_eq_add_iff, div_left_inj' (by norm_num), Int.cast_inj, eq_comm (a := steps'),
        ← stays, and_iff_right enough, and_iff_right (by omega)]
    · exact absurd raises (not_raises_alone eq alone)

end Raise

/-! ## A discount that comes to rest on the threshold -/

/-- A deal of rep 4. -/
def demoRepDeal (assessment : Option ℕ) (discount : ℚ) : DealRow :=
  { status := .sent, odooSaleOrderId := 3001, ownerOdooUserId := 4
    currentAssessmentId := assessment, orderDiscountPct := discount, lastActivityAt := 0 }

/-- Three deals of one rep, of which the first has an assessment. -/
def demoRepDeals : Table DealRow :=
  ((Table.empty.insert (demoRepDeal (some 1) 0)).insert (demoRepDeal none (15 / 2))).insert
    (demoRepDeal none (15 / 2))

/-- A line of list value 100. -/
def demoDiscounted (discountPct : ℚ) : LineSnapshot :=
  { lineId := 1, productId := 7, productName := "Desk", qty := 1, priceUnit := 100, discountPct
    subtotal := 100 - discountPct, cost := 40, marginPct := 50 }

def demoAssessed (discountPct : ℚ) : Snapshots :=
  Function.update (fun _ => none) 1 (some [demoDiscounted discountPct])

/-- At 15.01 % the baseline is 10.00 % and the threshold 15.00 %; at 15.02 % they are 10.01 % and
15.02 %, and the anomaly is over. -/
theorem demoRepDeals_settles_on_threshold :
    demoRepDeals.row 1 = some (demoRepDeal (some 1) 0) ∧
      List.Forall₂ RaisedLine [demoDiscounted 15.01] [demoDiscounted 15.02] ∧
      weightedDiscount (demoAssessed 15.01) (demoRepDeal (some 1) 0) <
        weightedDiscount (demoAssessed 15.02) (demoRepDeal (some 1) 0) ∧
      (calculateRepDiscountBaseline demoRepDeals (demoAssessed 15.01) 4 none 1).sampleSize = 3 ∧
      (anomalyVerdict demoRepDeals (demoAssessed 15.01) (demoRepDeal (some 1) 0)).effect =
        some true ∧
      (anomalyVerdict demoRepDeals (demoAssessed 15.02) (demoRepDeal (some 1) 0)).effect =
        some false := by
  refine ⟨by decide +kernel, ?_, by decide +kernel, by decide +kernel, by decide +kernel,
    by decide +kernel⟩
  exact .cons ⟨rfl, rfl, by decide +kernel⟩ .nil

/-- At 15.03 % the threshold is 15.02 % still. -/
theorem demoRepDeals_raises_after :
    (anomalyVerdict demoRepDeals (demoAssessed 15.03) (demoRepDeal (some 1) 0)).effect =
      some true := by
  have own : OwnAssessment demoRepDeals 1 1 := by
    intro id e row current
    have listed := Table.lt_next row
    change id < 4 at listed
    rcases (by omega : id = 0 ∨ id = 1 ∨ id = 2 ∨ id = 3) with rfl | rfl | rfl | rfl
    · cases row
    · rfl
    · cases row
      cases current
    · cases row
      cases current
  have raised : List.Forall₂ RaisedLine [demoDiscounted 15.01] [demoDiscounted 15.03] :=
    .cons ⟨rfl, rfl, by decide +kernel⟩ .nil
  have row : demoRepDeals.row 1 = some (demoRepDeal (some 1) 0) := by decide +kernel
  have assessed : demoAssessed 15.01 1 = some [demoDiscounted 15.01] := rfl
  have kept := raises_after_iff row rfl own assessed raised 3
  have update : Function.update (demoAssessed 15.01) 1 (some [demoDiscounted 15.03]) =
      demoAssessed 15.03 := Function.update_idem _ _ _
  rw [update] at kept
  exact (kept.2 (by decide +kernel) (by decide +kernel)).mpr (by decide +kernel)

end DealFlow
