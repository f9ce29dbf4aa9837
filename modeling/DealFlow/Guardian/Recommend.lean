import DealFlow.Lib.Dict
import DealFlow.Lib.Significant
import DealFlow.Odoo.Warehouse
import Mathlib.Data.List.Sort
import Mathlib.Data.Prod.Lex

/-!
# The recommendation engine

`evaluate_recommendations` of `app/guardian/recommend.py`: the products that the rules suggest for
the lines of a deal, each scored by its best rule, the highest scores first.

Prices, costs and margins are decimals, boosts, weights and scores floats; the arithmetic of both is
an argument, Python's unless another is given.  A candidate's reason is kept as what is printed into
it.
-/

namespace DealFlow

open Lib

inductive RecommendationType
  | upsell | crossSell
  deriving DecidableEq, Repr

structure RecommendationRule where
  odooCompanyId : ℤ := 1
  triggerProductId : ℤ
  suggestedProductId : ℤ
  coPurchaseCount : ℤ := 0
  manualBoost : ℚ := 0
  isPromotedOverride : Option Bool := none
  source : String := "MANUAL"
  active : Bool := true
  deriving DecidableEq, Repr

/-- What the engine reads of a line of the deal. -/
structure LineContextLike where
  productId : ℤ
  productName : String
  categoryId : ℤ
  categoryPath : List ℤ
  deriving DecidableEq, Repr

/-- A product with what the engine reads of it. -/
structure CatalogProduct extends RawProduct where
  name : String
  categoryId : ℤ
  categoryPath : List ℤ
  standardPrice : ℚ
  listPrice : ℚ
  tags : List String := []
  deriving DecidableEq, Repr

/-- "Frequently bought with … (… deals), currently promoted; adds … projected margin (… pts)" -/
structure RecommendationReason where
  triggerProdName : String
  coPurchaseCount : ℤ
  isPromoted : Bool
  marginDeltaAmount : ℚ
  marginDeltaPct : ℚ
  deriving DecidableEq, Repr

structure RecommendationCandidate where
  odooProductId : ℤ
  productName : String
  recommendationType : RecommendationType
  score : ℚ
  coPurchaseScore : ℚ
  promotionScore : ℚ
  marginScore : ℚ
  relevanceScore : ℚ
  marginDeltaAmount : ℚ
  marginDeltaPct : ℚ
  unitPrice : ℚ
  reason : RecommendationReason
  source : String := "RULE"
  deriving DecidableEq, Repr

/-! ## Settings -/

def recMinMarginPct : ℚ := 15

def recMax : ℤ := 5

def recWeights : Dict String ℚ where
  entries := [("co", 2 / 5), ("promo", 3 / 20), ("margin", 3 / 10), ("rel", 3 / 20)]
  nodup := by decide

/-- The arguments of an evaluation. -/
structure RecommendArgs where
  dealLines : List LineContextLike
  dealAmountUntaxed : ℚ
  dealTotalCost : ℚ
  dealTotalMarginPct : ℚ
  rules : List RecommendationRule
  productsMap : ℤ → Option CatalogProduct
  pricesMap : ℤ → Option ℚ
  dismissedProductIds : List ℤ
  minPolicyMarginPct : Option ℚ := none
  minMarginPct : ℚ := recMinMarginPct
  maxRecs : ℤ := recMax
  weights : Dict String ℚ := recWeights
  arithmetic : Arithmetic := .python

/-! ## Candidate rules -/

/-- The rule suggests a known product that the deal does not have and that was not dismissed, for a
product it has. -/
def RecommendArgs.applies (a : RecommendArgs) (r : RecommendationRule) : Bool :=
  let dealProductIds := a.dealLines.map (·.productId)
  r.active ∧ r.triggerProductId ∈ dealProductIds ∧ r.suggestedProductId ∉ dealProductIds ∧
    r.suggestedProductId ∉ a.dismissedProductIds ∧
      (a.productsMap r.suggestedProductId).isSome = true

def RecommendArgs.candidateRules (a : RecommendArgs) : List RecommendationRule :=
  a.rules.filter a.applies

/-- The largest co-purchase count, which the counts are divided by. -/
def maxCoPurchase (rules : List RecommendationRule) : ℤ :=
  match (rules.map (·.coPurchaseCount)).max? with
  | none => 1
  | some most => if most ≤ 0 then 1 else most

/-- What rules for one product are compared by: a sum of floats. -/
def RecommendationRule.strength (arithmetic : Arithmetic) (r : RecommendationRule) : ℚ :=
  arithmetic.float (arithmetic.float r.coPurchaseCount + arithmetic.float r.manualBoost)

/-- A rule takes the place of a weaker one for the same product. -/
def keepRule (arithmetic : Arithmetic) (best : Dict ℤ RecommendationRule)
    (r : RecommendationRule) : Dict ℤ RecommendationRule :=
  match best.get r.suggestedProductId with
  | none => best.set r.suggestedProductId r
  | some existing =>
      if r.strength arithmetic > existing.strength arithmetic then
        best.set r.suggestedProductId r
      else best

def bestRulePerProduct (arithmetic : Arithmetic) (rules : List RecommendationRule) :
    Dict ℤ RecommendationRule :=
  rules.foldl (keepRule arithmetic) .empty

/-! ## Scores -/

/-- The value cut off below 0 and above 1. -/
def clamp (x : ℚ) : ℚ :=
  min 1 (max 0 x)

/-- How close the categories of the triggering line and of the product are. -/
def relevanceScore (triggerLine : Option LineContextLike) (prod : CatalogProduct) : ℚ :=
  match triggerLine with
  | none => 3 / 10
  | some line =>
      let triggerPath := line.categoryPath
      let prodPath := prod.categoryPath
      if prod.categoryId = line.categoryId ∨ prod.categoryId ∈ triggerPath then 1
      else if prodPath.length > 1 ∧ triggerPath.length > 1 ∧
          prodPath[prodPath.length - 2]? = triggerPath[triggerPath.length - 2]? then 3 / 5
      else if line.categoryId ∈ prodPath then 1
      else 3 / 10

/-- The weighted sum of the four factors, in floats. -/
def RecommendArgs.totalScore (a : RecommendArgs) (co promo margin rel : ℚ) : ℚ :=
  let float := a.arithmetic.float
  let weighted (key : String) (default factor : ℚ) : ℚ :=
    float (float ((a.weights.get key).getD default) * factor)
  float
    (float (float (weighted "co" (9 / 20) co + weighted "promo" (1 / 10) promo) +
      weighted "margin" (3 / 10) margin) + weighted "rel" (3 / 20) rel)

/-- A product under its rule, where its price and its margin are high enough. -/
def RecommendArgs.scoreCandidate (a : RecommendArgs) (maxCo : ℤ)
    (kept : ℤ × RecommendationRule) : Option RecommendationCandidate :=
  let suggId := kept.1
  let rule := kept.2
  match a.productsMap suggId with
  | none => none
  | some prod =>
      let float := a.arithmetic.float
      let decimal := a.arithmetic.decimal
      let price := (a.pricesMap suggId).getD prod.listPrice
      let cost := prod.standardPrice
      if price ≤ 0 then none
      else
        let margin := decimal (decimal (price - cost) / price)
        let candidateMarginPct := decimal (margin * 100)
        if candidateMarginPct < a.minMarginPct then none
        else if a.minPolicyMarginPct.any (candidateMarginPct < ·) = true then none
        else
          let rawCo := float (float rule.coPurchaseCount / float maxCo)
          let coScore := clamp (float (rawCo + float rule.manualBoost))
          let isPromoted := rule.isPromotedOverride.getD ("DealFlow Promo" ∈ prod.tags)
          let promoScore : ℚ := if isPromoted then 1 else 0
          let marginScore := clamp (float margin)
          let triggerLine := a.dealLines.find? fun l => l.productId = rule.triggerProductId
          let relevance := relevanceScore triggerLine prod
          let totalScore := a.totalScore coScore promoScore marginScore (float relevance)
          let marginDeltaAmount := roundTo 2 (decimal (price - cost))
          let newUntaxed := decimal (a.dealAmountUntaxed + price)
          let newCost := decimal (a.dealTotalCost + cost)
          let newMarginPct :=
            if newUntaxed > 0 then
              decimal (decimal (decimal (newUntaxed - newCost) / newUntaxed) * 100)
            else 0
          let marginDeltaPct := roundTo 2 (decimal (newMarginPct - a.dealTotalMarginPct))
          some
            { odooProductId := suggId
              productName := prod.name
              recommendationType :=
                if triggerLine.any (·.categoryId = prod.categoryId) = true then .upsell
                else .crossSell
              score := roundTo 3 (a.arithmetic.printed totalScore)
              coPurchaseScore := roundTo 3 (a.arithmetic.printed coScore)
              -- the other two are literals, which print as they are written
              promotionScore := roundTo 3 promoScore
              marginScore := roundTo 3 (a.arithmetic.printed marginScore)
              relevanceScore := roundTo 3 relevance
              marginDeltaAmount
              marginDeltaPct
              unitPrice := price
              reason :=
                { triggerProdName :=
                    (triggerLine.map (·.productName)).getD s!"Product {rule.triggerProductId}"
                  coPurchaseCount := rule.coPurchaseCount
                  isPromoted
                  marginDeltaAmount
                  marginDeltaPct }
              source := rule.source }

/-! ## Ranking -/

/-- The key candidates are sorted by. -/
def RecommendationCandidate.key (c : RecommendationCandidate) : ℚ ×ₗ ℚ ×ₗ ℚ :=
  toLex (c.score, toLex (c.coPurchaseScore, c.marginDeltaAmount))

/-- Highest first; candidates with one key stay as they were. -/
def rankCandidates (candidates : List RecommendationCandidate) : List RecommendationCandidate :=
  candidates.insertionSort fun c d => d.key ≤ c.key

/-- `xs[:n]`: the first `n`, or all but the last `-n`. -/
def firstUpTo {α : Type} (n : ℤ) (xs : List α) : List α :=
  if 0 ≤ n then xs.take n.toNat else xs.take (xs.length - n.natAbs)

/-- All candidates, in the order their products were first suggested. -/
def RecommendArgs.candidates (a : RecommendArgs) : List RecommendationCandidate :=
  (bestRulePerProduct a.arithmetic a.candidateRules).entries.filterMap
    (a.scoreCandidate (maxCoPurchase a.candidateRules))

def evaluateRecommendations (a : RecommendArgs) : List RecommendationCandidate :=
  if a.dealLines = [] ∨ a.rules = [] then []
  else if a.candidateRules = [] then []
  else firstUpTo a.maxRecs (rankCandidates a.candidates)

/-! ## What is recommended -/

theorem firstUpTo_sublist {α : Type} (n : ℤ) (xs : List α) : (firstUpTo n xs).Sublist xs := by
  unfold firstUpTo
  split
  · exact List.take_sublist _ _
  · exact List.take_sublist _ _

theorem rankCandidates_perm (candidates : List RecommendationCandidate) :
    (rankCandidates candidates).Perm candidates :=
  List.perm_insertionSort _ _

section Kept

variable {arithmetic : Arithmetic} {rules : List RecommendationRule}

theorem keepRule_get {best : Dict ℤ RecommendationRule} {r kept : RecommendationRule} {pid : ℤ}
    (found : (keepRule arithmetic best r).get pid = some kept) :
    best.get pid = some kept ∨ kept = r ∧ pid = r.suggestedProductId := by
  have set : (best.set r.suggestedProductId r).get pid = some kept →
      best.get pid = some kept ∨ kept = r ∧ pid = r.suggestedProductId := by
    intro found
    rw [Dict.get_set] at found
    split at found
    · next same => exact Or.inr ⟨(Option.some.inj found).symm, same⟩
    · exact Or.inl found
  unfold keepRule at found
  split at found
  · exact set found
  · split at found
    · exact set found
    · exact Or.inl found

theorem foldl_keepRule_get {best : Dict ℤ RecommendationRule} {pid : ℤ}
    {kept : RecommendationRule}
    (found : (rules.foldl (keepRule arithmetic) best).get pid = some kept) :
    best.get pid = some kept ∨ kept ∈ rules ∧ kept.suggestedProductId = pid := by
  induction rules generalizing best with
  | nil => exact Or.inl found
  | cons r rules ih =>
      rcases ih found with known | ⟨mem, same⟩
      · rcases keepRule_get known with known | ⟨rfl, same⟩
        · exact Or.inl known
        · exact Or.inr ⟨List.mem_cons_self, same.symm⟩
      · exact Or.inr ⟨List.mem_cons_of_mem _ mem, same⟩

/-- The rule kept for a product is one of the rules and suggests that product. -/
theorem bestRulePerProduct_get {pid : ℤ} {kept : RecommendationRule}
    (found : (bestRulePerProduct arithmetic rules).get pid = some kept) :
    kept ∈ rules ∧ kept.suggestedProductId = pid := by
  rcases foldl_keepRule_get found with known | new
  · rw [Dict.get_empty] at known
    cases known
  · exact new

end Kept

section Candidates

variable {a : RecommendArgs}

/-- What a scored candidate has from its product and its kept rule. -/
structure RecommendArgs.Scores (a : RecommendArgs) (maxCo : ℤ) (kept : ℤ × RecommendationRule)
    (prod : CatalogProduct) (c : RecommendationCandidate) : Prop where
  known : a.productsMap kept.1 = some prod
  productId : c.odooProductId = kept.1
  relevance : c.relevanceScore = roundTo 3
    (relevanceScore (a.dealLines.find? fun l => l.productId = kept.2.triggerProductId) prod)
  score : c.score = roundTo 3 (a.arithmetic.printed (a.totalScore
    (clamp (a.arithmetic.float (a.arithmetic.float (a.arithmetic.float kept.2.coPurchaseCount /
      a.arithmetic.float maxCo) + a.arithmetic.float kept.2.manualBoost)))
    (if kept.2.isPromotedOverride.getD ("DealFlow Promo" ∈ prod.tags) then 1 else 0)
    (clamp (a.arithmetic.float (a.arithmetic.decimal (a.arithmetic.decimal
      ((a.pricesMap kept.1).getD prod.listPrice - prod.standardPrice) /
        (a.pricesMap kept.1).getD prod.listPrice))))
    (a.arithmetic.float
      (relevanceScore (a.dealLines.find? fun l => l.productId = kept.2.triggerProductId) prod))))

theorem scoreCandidate_scores {maxCo : ℤ} {kept : ℤ × RecommendationRule}
    {c : RecommendationCandidate} (scored : a.scoreCandidate maxCo kept = some c) :
    ∃ prod, a.Scores maxCo kept prod c := by
  unfold RecommendArgs.scoreCandidate at scored
  dsimp only at scored
  split at scored
  · cases scored
  next prod known =>
    split at scored
    · cases scored
    · split at scored
      · cases scored
      · split at scored
        · cases scored
        · cases scored
          exact ⟨prod, known, rfl, rfl, rfl⟩

theorem scoreCandidate_productId {maxCo : ℤ} {kept : ℤ × RecommendationRule}
    {c : RecommendationCandidate} (scored : a.scoreCandidate maxCo kept = some c) :
    c.odooProductId = kept.1 := by
  obtain ⟨prod, scores⟩ := scoreCandidate_scores scored
  exact scores.productId

/-- A candidate comes from a rule that applies. -/
theorem mem_candidates_iff {c : RecommendationCandidate} :
    c ∈ a.candidates ↔
      ∃ rule, (bestRulePerProduct a.arithmetic a.candidateRules).get c.odooProductId = some rule ∧
        a.scoreCandidate (maxCoPurchase a.candidateRules) (c.odooProductId, rule) = some c := by
  unfold RecommendArgs.candidates
  rw [List.mem_filterMap]
  constructor
  · rintro ⟨⟨pid, rule⟩, memKept, scored⟩
    have same := scoreCandidate_productId scored
    dsimp only at same
    subst same
    exact ⟨rule, Dict.mem_entries.mp memKept, scored⟩
  · rintro ⟨rule, kept, scored⟩
    exact ⟨(c.odooProductId, rule), Dict.mem_entries.mpr kept, scored⟩

theorem mem_candidates {c : RecommendationCandidate} (mem : c ∈ a.candidates) :
    ∃ rule ∈ a.rules, a.applies rule = true ∧ rule.suggestedProductId = c.odooProductId ∧
      a.scoreCandidate (maxCoPurchase a.candidateRules) (c.odooProductId, rule) = some c := by
  obtain ⟨rule, kept, scored⟩ := mem_candidates_iff.mp mem
  obtain ⟨memRule, suggested⟩ := bestRulePerProduct_get kept
  obtain ⟨memRule, applies⟩ := List.mem_filter.mp memRule
  exact ⟨rule, memRule, applies, suggested, scored⟩

/-- The products of the candidates are products with a rule, in the same order. -/
theorem candidates_sublist (a : RecommendArgs) :
    (a.candidates.map (·.odooProductId)).Sublist
      (bestRulePerProduct a.arithmetic a.candidateRules).keys := by
  unfold RecommendArgs.candidates Dict.keys
  generalize (bestRulePerProduct a.arithmetic a.candidateRules).entries = entries
  induction entries with
  | nil => exact .slnil
  | cons entry entries ih =>
      rw [List.filterMap_cons]
      cases scored : a.scoreCandidate (maxCoPurchase a.candidateRules) entry with
      | none => exact ih.cons _
      | some c =>
          rw [List.map_cons, List.map_cons, scoreCandidate_productId scored]
          exact ih.cons_cons _

/-- Each product is a candidate once. -/
theorem candidates_nodup (a : RecommendArgs) : (a.candidates.map (·.odooProductId)).Nodup :=
  (bestRulePerProduct a.arithmetic a.candidateRules).nodup.sublist (candidates_sublist a)

theorem mem_evaluateRecommendations {c : RecommendationCandidate}
    (mem : c ∈ evaluateRecommendations a) : c ∈ a.candidates := by
  unfold evaluateRecommendations at mem
  split at mem
  · cases mem
  · split at mem
    · cases mem
    · exact (rankCandidates_perm _).mem_iff.mp ((firstUpTo_sublist _ _).subset mem)

theorem evaluateRecommendations_nodup (a : RecommendArgs) :
    ((evaluateRecommendations a).map (·.odooProductId)).Nodup := by
  unfold evaluateRecommendations
  split
  · exact List.nodup_nil
  · split
    · exact List.nodup_nil
    · have ranked : ((rankCandidates a.candidates).map (·.odooProductId)).Nodup :=
        ((rankCandidates_perm a.candidates).map _).nodup_iff.mpr (candidates_nodup a)
      exact ranked.sublist ((firstUpTo_sublist _ _).map _)

/-- No product is recommended that was dismissed or is on the order. -/
theorem evaluateRecommendations_fresh {c : RecommendationCandidate}
    (mem : c ∈ evaluateRecommendations a) :
    c.odooProductId ∉ a.dismissedProductIds ∧
      c.odooProductId ∉ a.dealLines.map (·.productId) := by
  obtain ⟨rule, -, applies, suggested, -⟩ := mem_candidates (mem_evaluateRecommendations mem)
  obtain ⟨-, -, notOrdered, notDismissed, -⟩ := of_decide_eq_true applies
  rw [suggested] at notOrdered notDismissed
  exact ⟨notDismissed, notOrdered⟩

/-- Without lines or rules there are no candidate rules either. -/
theorem evaluateRecommendations_eq (a : RecommendArgs) :
    evaluateRecommendations a =
      if a.candidateRules = [] then [] else firstUpTo a.maxRecs (rankCandidates a.candidates) := by
  unfold evaluateRecommendations
  split
  · next nothing =>
      have unsuggested : a.candidateRules = [] := by
        refine List.filter_eq_nil_iff.mpr fun r mem applies => ?_
        obtain ⟨-, triggered, -⟩ := of_decide_eq_true applies
        rcases nothing with noLines | noRules
        · rw [noLines] at triggered
          cases triggered
        · rw [noRules] at mem
          cases mem
      rw [if_pos unsuggested]
  · rfl

/-- Rules that do not apply do not matter. -/
theorem evaluateRecommendations_rules (a : RecommendArgs) (rules : List RecommendationRule)
    (same : rules.filter a.applies = a.candidateRules) :
    evaluateRecommendations { a with rules } = evaluateRecommendations a := by
  have rulesSame : ({ a with rules } : RecommendArgs).candidateRules = a.candidateRules := same
  have candidatesSame : ({ a with rules } : RecommendArgs).candidates = a.candidates := by
    unfold RecommendArgs.candidates
    rw [rulesSame]
    rfl
  rw [evaluateRecommendations_eq, evaluateRecommendations_eq, rulesSame, candidatesSame]

/-- Only the prices of suggested products matter. -/
theorem evaluateRecommendations_prices (a : RecommendArgs) (pricesMap : ℤ → Option ℚ)
    (same : ∀ r ∈ a.candidateRules,
      pricesMap r.suggestedProductId = a.pricesMap r.suggestedProductId) :
    evaluateRecommendations { a with pricesMap } = evaluateRecommendations a := by
  have candidatesSame : ({ a with pricesMap } : RecommendArgs).candidates = a.candidates := by
    refine List.filterMap_congr fun kept mem => ?_
    obtain ⟨memRule, suggested⟩ := bestRulePerProduct_get (Dict.mem_entries.mp mem)
    have price := same kept.2 memRule
    rw [suggested] at price
    unfold RecommendArgs.scoreCandidate
    dsimp only
    rw [price]
    rfl
  rw [evaluateRecommendations_eq, evaluateRecommendations_eq, candidatesSame]
  rfl

end Candidates

end DealFlow
