import DealFlow.Recommendations.KeptRules

/-!
# The best scores are recommended

What the engine returns is a beginning of the ranking of all candidates, and the candidates are just
the products that may be recommended (`mem_candidates_iff_eligible`).  With weights that are not
negative and sum to one a score is a mean of factors between 0 and 1, so the products returned are
eligible ones with such scores, and none that is left out scores more
(`evaluateRecommendations_best`).
-/

namespace DealFlow

open Lib

namespace RecommendArgs

variable (a : RecommendArgs)

def priceOf (productId : ℤ) (prod : CatalogProduct) : ℚ :=
  (a.pricesMap productId).getD prod.listPrice

def marginPctOf (productId : ℤ) (prod : CatalogProduct) : ℚ :=
  a.arithmetic.decimal (a.arithmetic.decimal
    (a.arithmetic.decimal (a.priceOf productId prod - prod.standardPrice) /
      a.priceOf productId prod) * 100)

/-- The product has a price, and its margin is not below a floor. -/
structure Sellable (productId : ℤ) (prod : CatalogProduct) : Prop where
  priced : 0 < a.priceOf productId prod
  floor : a.minMarginPct ≤ a.marginPctOf productId prod
  policyFloor : ∀ floor, a.minPolicyMarginPct = some floor → floor ≤ a.marginPctOf productId prod

/-- An active rule suggests the product for one on the order, and it may be sold. -/
structure Eligible (productId : ℤ) : Prop where
  suggested : ∃ r ∈ a.rules, r.active = true ∧
    r.triggerProductId ∈ a.dealLines.map (·.productId) ∧ r.suggestedProductId = productId
  notOrdered : productId ∉ a.dealLines.map (·.productId)
  notDismissed : productId ∉ a.dismissedProductIds
  sellable : ∃ prod, a.productsMap productId = some prod ∧ a.Sellable productId prod

/-- The weight of a factor, with the default of the engine. -/
def weightOf (key : String) (default : ℚ) : ℚ :=
  (a.weights.get key).getD default

/-- The weights are not negative and sum to one. -/
structure NormalWeights : Prop where
  co : 0 ≤ a.weightOf "co" (9 / 20)
  promo : 0 ≤ a.weightOf "promo" (1 / 10)
  margin : 0 ≤ a.weightOf "margin" (3 / 10)
  rel : 0 ≤ a.weightOf "rel" (3 / 20)
  sum : a.weightOf "co" (9 / 20) + a.weightOf "promo" (1 / 10) + a.weightOf "margin" (3 / 10) +
    a.weightOf "rel" (3 / 20) = 1

end RecommendArgs

/-- The recommendations are distinct eligible products with scores between 0 and 1, the highest
first, and an eligible product that is not among them is left out by the limit and scores no more
than any of them. -/
structure BestRecommendations (a : RecommendArgs) (result : List RecommendationCandidate) :
    Prop where
  distinct : (result.map (·.odooProductId)).Nodup
  eligible : ∀ c ∈ result, a.Eligible c.odooProductId
  scores : ∀ c ∈ result, 0 ≤ c.score ∧ c.score ≤ 1
  sorted : result.Pairwise fun c d => d.score ≤ c.score
  complete : ∀ productId, a.Eligible productId → ∃ c ∈ a.candidates, c.odooProductId = productId ∧
    (c ∈ result ∨ a.maxRecs ≤ result.length ∧ ∀ d ∈ result, c.score ≤ d.score)

/-! ## Candidates -/

section Candidates

variable {a : RecommendArgs}

/-- A product is scored exactly when it is known and may be sold. -/
theorem scoreCandidate_isSome_iff {maxCo : ℤ} {productId : ℤ} {rule : RecommendationRule} :
    (a.scoreCandidate maxCo (productId, rule)).isSome ↔
      ∃ prod, a.productsMap productId = some prod ∧ a.Sellable productId prod := by
  unfold RecommendArgs.scoreCandidate
  dsimp only
  cases known : a.productsMap productId with
  | none => simp
  | some prod =>
      dsimp only
      constructor
      · intro scored
        refine ⟨prod, rfl, ?_⟩
        split at scored
        · cases scored
        next priced =>
          split at scored
          · cases scored
          next floor =>
            split at scored
            · cases scored
            next policyFloor =>
              refine ⟨not_le.mp priced, not_lt.mp floor, fun policy set => not_lt.mp ?_⟩
              intro below
              rw [set] at policyFloor
              exact policyFloor (decide_eq_true below)
      · rintro ⟨_, ⟨⟩, priced, floor, policyFloor⟩
        unfold RecommendArgs.marginPctOf at floor policyFloor
        unfold RecommendArgs.priceOf at priced floor policyFloor
        rw [if_neg (not_le.mpr priced), if_neg (not_lt.mpr floor), if_neg]
        · rfl
        · intro below
          cases set : a.minPolicyMarginPct with
          | none =>
              rw [set] at below
              cases below
          | some policy =>
              rw [set] at below
              exact absurd (policyFloor policy set) (not_le.mpr (of_decide_eq_true below))

/-- The candidates are the products that may be recommended. -/
theorem mem_candidates_iff_eligible {productId : ℤ} :
    (∃ c ∈ a.candidates, c.odooProductId = productId) ↔ a.Eligible productId := by
  constructor
  · rintro ⟨c, mem, rfl⟩
    obtain ⟨rule, memRule, applies, suggested, scored⟩ := mem_candidates mem
    obtain ⟨active, triggered, notOrdered, notDismissed, -⟩ := of_decide_eq_true applies
    rw [suggested] at notOrdered notDismissed
    refine ⟨⟨rule, memRule, active, triggered, suggested⟩, notOrdered, notDismissed, ?_⟩
    exact scoreCandidate_isSome_iff.mp (Option.isSome_of_eq_some scored)
  · intro eligible
    obtain ⟨r, memRule, active, triggered, rfl⟩ := eligible.suggested
    obtain ⟨prod, known, sellable⟩ := eligible.sellable
    have applies : a.applies r = true :=
      decide_eq_true ⟨active, triggered, eligible.notOrdered, eligible.notDismissed, by
        rw [known]
        rfl⟩
    have kept := (bestRulePerProduct_isSome a.arithmetic a.candidateRules r.suggestedProductId).mpr
      ⟨r, List.mem_filter.mpr ⟨memRule, applies⟩, rfl⟩
    obtain ⟨rule, kept⟩ := Option.isSome_iff_exists.mp kept
    have scores : (a.scoreCandidate (maxCoPurchase a.candidateRules)
        (r.suggestedProductId, rule)).isSome :=
      scoreCandidate_isSome_iff.mpr ⟨prod, known, sellable⟩
    obtain ⟨c, scored⟩ := Option.isSome_iff_exists.mp scores
    exact ⟨c, List.mem_filterMap.mpr ⟨_, Dict.mem_entries.mpr kept, scored⟩,
      scoreCandidate_productId scored⟩

end Candidates

/-! ## Scores -/

section Scores

variable {a : RecommendArgs}

/-- Between 0 and 1. -/
def InUnit (x : ℚ) : Prop :=
  0 ≤ x ∧ x ≤ 1

theorem inUnit_clamp (x : ℚ) : InUnit (clamp x) :=
  ⟨le_min zero_le_one (le_max_left 0 x), min_le_left 1 _⟩

theorem inUnit_relevanceScore (line : Option LineContextLike) (prod : CatalogProduct) :
    InUnit (relevanceScore line prod) := by
  unfold relevanceScore InUnit
  split
  · norm_num
  · dsimp only
    split
    · norm_num
    split
    · norm_num
    split
    · norm_num
    · norm_num

/-- Rounding to places does not leave the interval. -/
theorem InUnit.roundTo {x : ℚ} (unit : InUnit x) (places : ℕ) : InUnit (roundTo places x) := by
  have zero : DealFlow.Lib.roundTo places 0 = 0 := roundTo_of_grid (n := 0) (by simp)
  have one : DealFlow.Lib.roundTo places 1 = 1 := roundTo_of_grid (n := 10 ^ places) (by simp)
  constructor
  · rw [← zero]
    exact roundTo_mono places unit.1
  · rw [← one]
    exact roundTo_mono places unit.2

/-- A mean of factors between 0 and 1 is between 0 and 1. -/
theorem RecommendArgs.NormalWeights.inUnit (normal : a.NormalWeights) {co promo margin rel : ℚ}
    (unitCo : InUnit co) (unitPromo : InUnit promo) (unitMargin : InUnit margin)
    (unitRel : InUnit rel) :
    InUnit (a.weightOf "co" (9 / 20) * co + a.weightOf "promo" (1 / 10) * promo +
      a.weightOf "margin" (3 / 10) * margin + a.weightOf "rel" (3 / 20) * rel) := by
  have upper : ∀ {w x : ℚ}, 0 ≤ w → InUnit x → w * x ≤ w :=
    fun weight unit => mul_le_of_le_one_right weight unit.2
  constructor
  · have coPart := mul_nonneg normal.co unitCo.1
    have promoPart := mul_nonneg normal.promo unitPromo.1
    have marginPart := mul_nonneg normal.margin unitMargin.1
    have relPart := mul_nonneg normal.rel unitRel.1
    linarith
  · have coPart := upper normal.co unitCo
    have promoPart := upper normal.promo unitPromo
    have marginPart := upper normal.margin unitMargin
    have relPart := upper normal.rel unitRel
    have sum := normal.sum
    linarith

theorem scoreCandidate_inUnit (exact : a.arithmetic = .exact) (normal : a.NormalWeights)
    {maxCo : ℤ} {kept : ℤ × RecommendationRule} {c : RecommendationCandidate}
    (scored : a.scoreCandidate maxCo kept = some c) : InUnit c.score := by
  obtain ⟨prod, scores⟩ := scoreCandidate_scores scored
  rw [scores.score]
  unfold RecommendArgs.totalScore
  rw [exact]
  refine (normal.inUnit (inUnit_clamp _) ?_ (inUnit_clamp _)
    (inUnit_relevanceScore _ _)).roundTo 3
  split
  · exact ⟨zero_le_one, le_rfl⟩
  · exact ⟨le_rfl, zero_le_one⟩

end Scores

/-! ## The ranking -/

section Ranking

variable {a : RecommendArgs}

theorem rankCandidates_pairwise (candidates : List RecommendationCandidate) :
    (rankCandidates candidates).Pairwise fun c d => d.key ≤ c.key := by
  have total : Std.Total fun c d : RecommendationCandidate => d.key ≤ c.key :=
    ⟨fun _ _ => le_total _ _⟩
  have trans : IsTrans RecommendationCandidate fun c d => d.key ≤ c.key :=
    ⟨fun _ _ _ left right => le_trans right left⟩
  exact List.pairwise_insertionSort _ _

theorem score_le_of_key_le {c d : RecommendationCandidate} (le : c.key ≤ d.key) :
    c.score ≤ d.score := by
  rcases Prod.Lex.le_iff.mp le with less | ⟨same, -⟩
  · exact less.le
  · exact same.le

/-- The result is a beginning of the ranking, as long as the limit lets it be. -/
theorem firstUpTo_eq_take {α : Type} (n : ℤ) (xs : List α) :
    ∃ k, firstUpTo n xs = xs.take k ∧ (k < xs.length → n ≤ k) := by
  unfold firstUpTo
  split
  · exact ⟨n.toNat, rfl, fun _ => Int.self_le_toNat n⟩
  · exact ⟨xs.length - n.natAbs, rfl, fun _ => by omega⟩

/-- With weights that are not negative and sum to one, the arithmetic being exact, the best of the
eligible products are recommended. -/
theorem evaluateRecommendations_best (a : RecommendArgs) (exact : a.arithmetic = .exact)
    (normal : a.NormalWeights) :
    BestRecommendations a (evaluateRecommendations a) := by
  have candidate : ∀ c ∈ evaluateRecommendations a, c ∈ a.candidates :=
    fun c => mem_evaluateRecommendations
  refine ⟨evaluateRecommendations_nodup a, ?_, ?_, ?_, ?_⟩
  · exact fun c mem => mem_candidates_iff_eligible.mp ⟨c, candidate c mem, rfl⟩
  · intro c mem
    obtain ⟨rule, -, -, -, scored⟩ := mem_candidates (candidate c mem)
    exact scoreCandidate_inUnit exact normal scored
  · rw [evaluateRecommendations_eq]
    split
    · exact .nil
    · exact ((rankCandidates_pairwise _).imp score_le_of_key_le).sublist (firstUpTo_sublist _ _)
  · intro productId eligible
    obtain ⟨c, mem, product⟩ := mem_candidates_iff_eligible.mpr eligible
    refine ⟨c, mem, product, ?_⟩
    have some : a.candidateRules ≠ [] := by
      intro none
      unfold RecommendArgs.candidates at mem
      rw [none] at mem
      cases mem
    obtain ⟨k, taken, limited⟩ := firstUpTo_eq_take a.maxRecs (rankCandidates a.candidates)
    rw [evaluateRecommendations_eq, if_neg some, taken]
    have ranked := (rankCandidates_perm a.candidates).mem_iff.mpr mem
    rw [← List.take_append_drop k (rankCandidates a.candidates)] at ranked
    rcases List.mem_append.mp ranked with returned | out
    · exact .inl returned
    · have inOrder := (rankCandidates_pairwise a.candidates).imp score_le_of_key_le
      rw [← List.take_append_drop k (rankCandidates a.candidates), List.pairwise_append] at inOrder
      have short : k < (rankCandidates a.candidates).length := by
        have more := List.length_pos_of_mem out
        rw [List.length_drop] at more
        omega
      refine .inr ⟨?_, fun d memD => inOrder.2.2 d memD c out⟩
      rw [List.length_take, min_eq_left short.le]
      exact limited short

end Ranking

/-- A laptop is on the order; a dock and a bag are suggested for it, and one of them may be
shown. -/
def laptopArgs : RecommendArgs where
  dealLines := [{ productId := 101, productName := "Laptop", categoryId := 1, categoryPath := [1] }]
  dealAmountUntaxed := 1000
  dealTotalCost := 700
  dealTotalMarginPct := 30
  rules :=
    [{ triggerProductId := 101, suggestedProductId := 103, coPurchaseCount := 2 },
     { triggerProductId := 101, suggestedProductId := 102, coPurchaseCount := 10 }]
  productsMap productId :=
    if productId = 102 then
      some { id := 102, type := "STOCKABLE", name := "Dock", categoryId := 1, categoryPath := [1]
             standardPrice := 60, listPrice := 100 }
    else if productId = 103 then
      some { id := 103, type := "STOCKABLE", name := "Bag", categoryId := 2, categoryPath := [2]
             standardPrice := 30, listPrice := 50 }
    else none
  pricesMap _ := none
  dismissedProductIds := []
  maxRecs := 1

def exactLaptopArgs : RecommendArgs :=
  { laptopArgs with arithmetic := .exact }

theorem laptopArgs_best :
    BestRecommendations exactLaptopArgs (evaluateRecommendations exactLaptopArgs) ∧
      (evaluateRecommendations exactLaptopArgs).map (·.odooProductId) = [102] := by
  refine ⟨evaluateRecommendations_best exactLaptopArgs rfl ⟨?_, ?_, ?_, ?_, ?_⟩, by decide +kernel⟩
  · decide +kernel
  · decide +kernel
  · decide +kernel
  · decide +kernel
  · decide +kernel

end DealFlow
