import DealFlow.Lib.Ranking
import DealFlow.Recommendations.TopScores
import Mathlib.Data.Set.Finite.Lemmas

/-!
# Whether the order of the rules matters

Of several strongest rules for a product the engine keeps the first, and of candidates with one key
it ranks first the one whose product was suggested first.  So the order of the rules decides which
candidate a product gets and, at the limit, which products are returned.

It does not matter exactly when each product is returned in every order of the rules, with one
score, or in none (`ruleOrderFree_iff`).  A product is returned in every order when too few others
can rank as high as it does at its lowest, and in none when enough others rank higher than it does
at its highest.
-/

namespace DealFlow

open Lib

namespace RecommendArgs

variable (a : RecommendArgs)

/-- A candidate a product may get: the product under one of the strongest rules for it. -/
def Possible (p : ℤ) (c : RecommendationCandidate) : Prop :=
  ∃ r, IsStrongest a.arithmetic a.candidateRules r ∧ r.suggestedProductId = p ∧
    a.scoreCandidate (maxCoPurchase a.candidateRules) (p, r) = some c

/-- The product `q` may rank as high as `p`. -/
def MayReach (q p : ℤ) : Prop :=
  ∃ d c, a.Possible q d ∧ a.Possible p c ∧ c.key ≤ d.key

open Classical in
/-- The products that have a candidate. -/
noncomputable def products : Finset ℤ :=
  (a.candidateRules.map (·.suggestedProductId)).toFinset.filter fun p => ∃ c, a.Possible p c

open Classical in
/-- The other products that may rank as high. -/
noncomputable def rivals (p : ℤ) : Finset ℤ :=
  a.products.filter fun q => q ≠ p ∧ a.MayReach q p

open Classical in
/-- The products that always rank higher. -/
noncomputable def ahead (p : ℤ) : Finset ℤ :=
  a.products.filter fun q => ¬ a.MayReach p q

/-- How many candidates are returned, as far as there are so many. -/
noncomputable def limit : ℕ :=
  if 0 ≤ a.maxRecs then a.maxRecs.toNat else a.products.card - a.maxRecs.natAbs

/-- The product is always returned, with one score, or never. -/
def Settled (p : ℤ) : Prop :=
  ((a.rivals p).card < a.limit ∧ ∀ c d, a.Possible p c → a.Possible p d → c.score = d.score) ∨
    a.limit ≤ (a.ahead p).card

end RecommendArgs

/-- The products with their scores. -/
def scoredProducts (result : List RecommendationCandidate) : List (ℤ × ℚ) :=
  result.map fun c => (c.odooProductId, c.score)

/-- The same products with the same scores, in the same order but for products of one score. -/
structure SameUpToTies (result result' : List RecommendationCandidate) : Prop where
  products : (scoredProducts result).Perm (scoredProducts result')
  order : result.map (·.score) = result'.map (·.score)

/-- The rules may come in any order. -/
def RuleOrderFree (a : RecommendArgs) : Prop :=
  ∀ rules : List RecommendationRule, rules.Perm a.rules →
    SameUpToTies (evaluateRecommendations a) (evaluateRecommendations (a.withRules rules))

/-! ## What is the same in every order -/

section Reordered

variable {a : RecommendArgs} {rules : List RecommendationRule} {p q : ℤ}
  {c d : RecommendationCandidate}

theorem RecommendArgs.Possible.productId (possible : a.Possible p c) : c.odooProductId = p := by
  obtain ⟨r, -, -, scored⟩ := possible
  exact scoreCandidate_productId scored

theorem RecommendArgs.mem_products : p ∈ a.products ↔ ∃ c, a.Possible p c := by
  classical
  unfold products
  rw [Finset.mem_filter, List.mem_toFinset, and_iff_right_of_imp]
  rintro ⟨c, r, strongest, suggested, -⟩
  exact List.mem_map.mpr ⟨r, strongest.mem, suggested⟩

/-- The candidates of any order are possible ones. -/
theorem possible_of_mem (perm : rules.Perm a.rules)
    (mem : c ∈ (a.withRules rules).candidates) : a.Possible c.odooProductId c := by
  obtain ⟨r, kept, scored⟩ := mem_candidates_iff.mp mem
  obtain ⟨strongest, suggested⟩ := bestRulePerProduct_strongest kept
  rw [maxCoPurchase_perm (candidateRules_perm perm)] at scored
  exact ⟨r, strongest.perm (candidateRules_perm perm), suggested, scored⟩

/-- Every product has a candidate in any order. -/
theorem exists_candidate (perm : rules.Perm a.rules) (mem : p ∈ a.products) :
    ∃ c ∈ (a.withRules rules).candidates, c.odooProductId = p := by
  obtain ⟨c, r, strongest, suggested, scored⟩ := RecommendArgs.mem_products.mp mem
  have sellable := scoreCandidate_isSome_iff.mp (Option.isSome_of_eq_some scored)
  have memRule := (candidateRules_perm perm).mem_iff.mpr strongest.mem
  obtain ⟨kept, found⟩ := Option.isSome_iff_exists.mp
    ((bestRulePerProduct_isSome _ _ p).mpr ⟨r, memRule, suggested⟩)
  have sellable' : ∃ prod, (a.withRules rules).productsMap p = some prod ∧
      (a.withRules rules).Sellable p prod := by
    obtain ⟨prod, known, priced, floor, policyFloor⟩ := sellable
    exact ⟨prod, known, priced, floor, policyFloor⟩
  obtain ⟨d, scored'⟩ := Option.isSome_iff_exists.mp (scoreCandidate_isSome_iff.mpr sellable')
  have same := scoreCandidate_productId scored'
  exact ⟨d, mem_candidates_iff.mpr ⟨kept, by rw [same]; exact ⟨found, scored'⟩⟩, same⟩

theorem candidates_length (perm : rules.Perm a.rules) :
    (a.withRules rules).candidates.length = a.products.card := by
  have nodup := candidates_nodup (a.withRules rules)
  rw [← List.length_map (·.odooProductId), ← List.toFinset_card_of_nodup nodup]
  congr 1
  ext p
  rw [List.mem_toFinset, List.mem_map]
  constructor
  · rintro ⟨c, mem, rfl⟩
    exact RecommendArgs.mem_products.mpr ⟨c, possible_of_mem perm mem⟩
  · exact exists_candidate perm

/-- What candidates are ranked by, the highest first. -/
def rankKey (c : RecommendationCandidate) : (ℚ ×ₗ ℚ ×ₗ ℚ)ᵒᵈ :=
  OrderDual.toDual c.key

theorem evaluateRecommendations_take (perm : rules.Perm a.rules) :
    evaluateRecommendations (a.withRules rules) =
      (sortBy rankKey (a.withRules rules).candidates).take a.limit := by
  have length := candidates_length perm
  rw [evaluateRecommendations_eq]
  split
  · next none =>
      have noCandidates : (a.withRules rules).candidates = [] := by
        unfold RecommendArgs.candidates
        rw [none]
        rfl
      rw [noCandidates]
      exact List.take_nil.symm
  · have ranked : (rankCandidates (a.withRules rules).candidates).length =
        a.products.card := by
      rw [(rankCandidates_perm _).length_eq, length]
    unfold firstUpTo RecommendArgs.limit
    rw [ranked]
    split
    · rfl
    · rfl

/-- A candidate that ranks before another is of another product. -/
theorem ne_of_pair
    (pair : [d, c].Sublist (sortBy rankKey (a.withRules rules).candidates)) :
    d.odooProductId ≠ c.odooProductId := by
  have nodup : ((sortBy rankKey (a.withRules rules).candidates).map
      (·.odooProductId)).Nodup :=
    (sortBy_perm.map _).nodup_iff.mpr (candidates_nodup _)
  have two := nodup.sublist (pair.map _)
  simpa using two

/-- With fewer rivals than the limit a product is returned. -/
theorem mem_of_rivals (perm : rules.Perm a.rules)
    (mem : c ∈ (a.withRules rules).candidates)
    (few : (a.rivals c.odooProductId).card < a.limit) :
    c ∈ evaluateRecommendations (a.withRules rules) := by
  rw [evaluateRecommendations_take perm]
  have names : ((sortBy rankKey (a.withRules rules).candidates).map
      (·.odooProductId)).Nodup :=
    (sortBy_perm.map _).nodup_iff.mpr (candidates_nodup _)
  refine mem_take_of_card_lt names (mem_sortBy.mpr mem) (fun d pair => ?_) few
  have memD : d ∈ (a.withRules rules).candidates :=
    mem_sortBy.mp (pair.subset List.mem_cons_self)
  have possible := possible_of_mem perm memD
  have order : rankKey d ≤ rankKey c := le_of_pair_sortBy pair
  classical
  exact Finset.mem_filter.mpr ⟨RecommendArgs.mem_products.mpr ⟨d, possible⟩, ne_of_pair pair,
    d, c, possible, possible_of_mem perm mem, order⟩

/-- With as many products ahead as the limit a product is not returned. -/
theorem ne_of_ahead (perm : rules.Perm a.rules) (many : a.limit ≤ (a.ahead p).card)
    (mem : c ∈ evaluateRecommendations (a.withRules rules)) : c.odooProductId ≠ p := by
  rintro rfl
  have memC := mem_evaluateRecommendations mem
  rw [evaluateRecommendations_take perm] at mem
  have nodup := (candidates_nodup (a.withRules rules)).of_map
  have ahead : ∀ q ∈ a.ahead c.odooProductId, ∃ d : RecommendationCandidate,
      d.odooProductId = q ∧ [d, c].Sublist (sortBy rankKey (a.withRules rules).candidates) := by
    intro q memQ
    classical
    obtain ⟨memProducts, unreached⟩ := Finset.mem_filter.mp memQ
    obtain ⟨d, memD, rfl⟩ := exists_candidate perm memProducts
    refine ⟨d, rfl, pair_sortBy_of_lt memC memD ?_⟩
    by_contra low
    exact unreached ⟨c, d, possible_of_mem perm memC, possible_of_mem perm memD, not_lt.mp low⟩
  exact notMem_take_of_le_card (sortBy_perm.nodup_iff.mpr nodup) (mem_sortBy.mpr memC) ahead many
    mem

end Reordered

/-! ## Orders of the rules -/

section Orders

variable {a : RecommendArgs} {p : ℤ} {c : RecommendationCandidate}

/-- A strongest rule gives its product a candidate that is wanted of it, if one is possible. -/
def Gives (a : RecommendArgs) (wanted : RecommendationCandidate → Prop) (r : RecommendationRule) :
    Prop :=
  IsStrongest a.arithmetic a.candidateRules r ∧
    ((∃ d, a.Possible r.suggestedProductId d ∧ wanted d) →
      ∃ d, a.scoreCandidate (maxCoPurchase a.candidateRules) (r.suggestedProductId, r) = some d ∧
        wanted d)

theorem exists_gives (wanted : RecommendationCandidate → Prop) {q : ℤ}
    (suggested : q ∈ a.candidateRules.map (·.suggestedProductId)) :
    ∃ r, r.suggestedProductId = q ∧ Gives a wanted r := by
  by_cases some : ∃ d, a.Possible q d ∧ wanted d
  · obtain ⟨d, ⟨r, strongest, rfl, scored⟩, want⟩ := some
    exact ⟨r, rfl, strongest, fun _ => ⟨d, scored, want⟩⟩
  · obtain ⟨r, mem, same⟩ := List.mem_map.mp suggested
    obtain ⟨kept, found⟩ := Option.isSome_iff_exists.mp
      ((bestRulePerProduct_isSome a.arithmetic a.candidateRules q).mpr ⟨r, mem, same⟩)
    obtain ⟨strongest, rfl⟩ := bestRulePerProduct_strongest found
    exact ⟨kept, rfl, strongest, fun want => absurd want some⟩

/-- Rules of a kind for each of a list of products. -/
theorem exists_heads {P : RecommendationRule → Prop} {order : List ℤ}
    (each : ∀ q ∈ order, ∃ r, r.suggestedProductId = q ∧ P r) :
    ∃ heads : List RecommendationRule, heads.map (·.suggestedProductId) = order ∧
      ∀ r ∈ heads, P r := by
  induction order with
  | nil => exact ⟨[], rfl, fun r none => absurd none List.not_mem_nil⟩
  | cons q order ih =>
      obtain ⟨⟨r, same, good⟩, later⟩ := List.forall_mem_cons.mp each
      obtain ⟨heads, products, all⟩ := ih later
      refine ⟨r :: heads, ?_, List.forall_mem_cons.mpr ⟨good, all⟩⟩
      rw [List.map_cons, same, products]

/-- The products may be suggested in any order, and each with a candidate that is wanted of it. -/
theorem exists_order (wanted : RecommendationCandidate → Prop) {order : List ℤ}
    (nodup : order.Nodup)
    (complete : ∀ q, q ∈ order ↔ q ∈ a.candidateRules.map (·.suggestedProductId)) :
    ∃ rules : List RecommendationRule, rules.Perm a.rules ∧
      ((a.withRules rules).candidates.map (·.odooProductId)).Sublist order ∧
        ∀ c ∈ (a.withRules rules).candidates,
          (∃ d, a.Possible c.odooProductId d ∧ wanted d) → wanted c := by
  obtain ⟨heads, products, gives⟩ := exists_heads fun q mem =>
    exists_gives wanted ((complete q).mp mem)
  have every : ∀ s ∈ a.candidateRules,
      s.suggestedProductId ∈ heads.map (·.suggestedProductId) := by
    intro s mem
    rw [products, complete]
    exact List.mem_map_of_mem mem
  obtain ⟨rules, perm, entries⟩ := exists_perm_entries (products ▸ nodup)
    (fun r mem => (gives r mem).1) every
  refine ⟨rules, perm, ?_, ?_⟩
  · have sublist := candidates_sublist (a.withRules rules)
    rw [Dict.keys, entries, List.map_map] at sublist
    rw [← products]
    exact sublist
  · intro c mem possible
    obtain ⟨r, kept, scored⟩ := mem_candidates_iff.mp mem
    have memEntries := Dict.mem_entries.mpr kept
    rw [entries] at memEntries
    obtain ⟨r', memHead, same⟩ := List.mem_map.mp memEntries
    obtain ⟨product, rfl⟩ := Prod.mk.inj same
    rw [← product] at possible
    obtain ⟨d, scored', want⟩ := (gives r' memHead).2 possible
    rw [maxCoPurchase_perm (candidateRules_perm perm), ← product] at scored
    rw [← Option.some.inj (scored'.symm.trans scored)]
    exact want

theorem possible_finite (a : RecommendArgs) (p : ℤ) : {c | a.Possible p c}.Finite := by
  refine (List.finite_toSet (a.candidateRules.filterMap fun r =>
    a.scoreCandidate (maxCoPurchase a.candidateRules) (p, r))).subset ?_
  rintro c ⟨r, strongest, -, scored⟩
  exact List.mem_filterMap.mpr ⟨r, strongest.mem, scored⟩

/-- The suggested products without one. -/
def otherProducts (a : RecommendArgs) (p : ℤ) : List ℤ :=
  (a.candidateRules.map (·.suggestedProductId)).dedup.filter (· ≠ p)

theorem mem_otherProducts {q : ℤ} :
    q ∈ otherProducts a p ↔ q ∈ a.candidateRules.map (·.suggestedProductId) ∧ q ≠ p := by
  unfold otherProducts
  rw [List.mem_filter, List.mem_dedup, decide_eq_true_iff]

theorem nodup_otherProducts (a : RecommendArgs) (p : ℤ) : (otherProducts a p).Nodup :=
  (List.nodup_dedup _).filter _

theorem suggested_of_mem (mem : p ∈ a.products) :
    p ∈ a.candidateRules.map (·.suggestedProductId) := by
  classical
  exact List.mem_toFinset.mp (Finset.mem_filter.mp mem).1

/-- With as many rivals as the limit some order leaves the product out: it comes last, with its
lowest candidate, and its rivals with high ones. -/
theorem exists_unreturned (mem : p ∈ a.products) (many : a.limit ≤ (a.rivals p).card) :
    ∃ rules : List RecommendationRule, rules.Perm a.rules ∧
      ∀ c ∈ evaluateRecommendations (a.withRules rules), c.odooProductId ≠ p := by
  obtain ⟨low, possible, lowest⟩ := Set.exists_min_image _ RecommendationCandidate.key
    (possible_finite a p) (RecommendArgs.mem_products.mp mem)
  have nodup : (otherProducts a p ++ [p]).Nodup := by
    rw [← List.concat_eq_append]
    exact (nodup_otherProducts a p).concat fun here => (mem_otherProducts.mp here).2 rfl
  have complete : ∀ q, q ∈ otherProducts a p ++ [p] ↔
      q ∈ a.candidateRules.map (·.suggestedProductId) := by
    intro q
    rw [List.mem_append, mem_otherProducts, List.mem_singleton]
    have here := suggested_of_mem mem
    grind
  obtain ⟨rules, perm, sublist, wanted⟩ := exists_order
    (fun d => if d.odooProductId = p then d = low else low.key ≤ d.key) nodup complete
  refine ⟨rules, perm, ?_⟩
  rintro c memResult rfl
  have memC := mem_evaluateRecommendations memResult
  have same : c = low := by
    have want := wanted c memC ⟨low, possible, by rw [if_pos possible.productId]⟩
    rwa [if_pos rfl] at want
  rw [evaluateRecommendations_take perm] at memResult
  have names := (candidates_nodup (a.withRules rules)).of_map
  have ahead : ∀ q ∈ a.rivals c.odooProductId, ∃ d : RecommendationCandidate,
      d.odooProductId = q ∧ [d, c].Sublist (sortBy rankKey (a.withRules rules).candidates) := by
    intro q memQ
    classical
    obtain ⟨memProducts, ne, e, f, possibleE, possibleF, le⟩ := Finset.mem_filter.mp memQ
    obtain ⟨d, memD, rfl⟩ := exists_candidate perm memProducts
    have high : low.key ≤ d.key := by
      have want := wanted d memD ⟨e, possibleE, by
        rw [if_neg (by rwa [possibleE.productId])]
        exact (lowest f possibleF).trans le⟩
      rwa [if_neg ne] at want
    rw [← same] at high
    have early : d.odooProductId ∈ otherProducts a c.odooProductId :=
      mem_otherProducts.mpr ⟨suggested_of_mem memProducts, ne⟩
    exact ⟨d, rfl, pair_sortBy_of_le high
      (pair_of_map_sublist nodup sublist memC memD (pair_sublist_append early))⟩
  exact notMem_take_of_le_card (sortBy_perm.nodup_iff.mpr names) (mem_sortBy.mpr memC) ahead many
    memResult

/-- With fewer products ahead than the limit some order returns the product: it comes first, with
its highest candidate, and the others with low ones. -/
theorem exists_returned (mem : p ∈ a.products) (few : (a.ahead p).card < a.limit) :
    ∃ rules : List RecommendationRule, rules.Perm a.rules ∧
      ∃ c ∈ evaluateRecommendations (a.withRules rules), c.odooProductId = p := by
  obtain ⟨high, possible, highest⟩ := Set.exists_max_image _ RecommendationCandidate.key
    (possible_finite a p) (RecommendArgs.mem_products.mp mem)
  have nodup : (p :: otherProducts a p).Nodup :=
    List.nodup_cons.mpr ⟨fun here => (mem_otherProducts.mp here).2 rfl, nodup_otherProducts a p⟩
  have complete : ∀ q, q ∈ p :: otherProducts a p ↔
      q ∈ a.candidateRules.map (·.suggestedProductId) := by
    intro q
    rw [List.mem_cons, mem_otherProducts]
    have here := suggested_of_mem mem
    grind
  obtain ⟨rules, perm, sublist, wanted⟩ := exists_order
    (fun d => if d.odooProductId = p then d = high else d.key ≤ high.key) nodup complete
  obtain ⟨c, memC, rfl⟩ := exists_candidate perm mem
  refine ⟨rules, perm, c, ?_, rfl⟩
  have same : c = high := by
    have want := wanted c memC ⟨high, possible, by rw [if_pos possible.productId]⟩
    rwa [if_pos rfl] at want
  have products := candidates_nodup (a.withRules rules)
  have names : ((sortBy rankKey (a.withRules rules).candidates).map (·.odooProductId)).Nodup :=
    (sortBy_perm.map _).nodup_iff.mpr products
  rw [evaluateRecommendations_take perm]
  refine mem_take_of_card_lt names (mem_sortBy.mpr memC) (fun d pair => ?_) few
  have memD := mem_sortBy.mp (pair.subset List.mem_cons_self)
  have ne := ne_of_pair pair
  have possibleD := possible_of_mem perm memD
  have memProducts : d.odooProductId ∈ a.products := RecommendArgs.mem_products.mpr ⟨d, possibleD⟩
  have stood : [c, d].Sublist (a.withRules rules).candidates := by
    have late : d.odooProductId ∈ otherProducts a c.odooProductId :=
      mem_otherProducts.mpr ⟨suggested_of_mem memProducts, ne⟩
    exact pair_of_map_sublist nodup sublist memD memC
      ((List.singleton_sublist.mpr late).cons_cons _)
  have order : rankKey d < rankKey c := lt_of_pair_sortBy products.of_map pair stood
  have higher : c.key < d.key := order
  classical
  refine Finset.mem_filter.mpr ⟨memProducts, ?_⟩
  rintro ⟨e, f, possibleE, possibleF, le⟩
  have want := wanted d memD ⟨f, possibleF, by
    rw [if_neg (by rwa [possibleF.productId])]
    exact le.trans (highest e possibleE)⟩
  rw [if_neg ne, ← same] at want
  exact absurd higher (not_lt.mpr want)

/-- Any possible candidate is the product's in some order. -/
theorem exists_order_of_possible (possible : a.Possible p c) :
    ∃ rules : List RecommendationRule, rules.Perm a.rules ∧
      c ∈ (a.withRules rules).candidates := by
  have mem : p ∈ a.products := RecommendArgs.mem_products.mpr ⟨c, possible⟩
  obtain ⟨rules, perm, -, wanted⟩ := exists_order (fun d => d.odooProductId = p → d = c)
    (List.nodup_dedup _) fun q => List.mem_dedup
  obtain ⟨d, memD, rfl⟩ := exists_candidate perm mem
  have same := wanted d memD ⟨c, possible, fun _ => rfl⟩ rfl
  exact ⟨rules, perm, same ▸ memD⟩

end Orders

/-! ## When the order does not matter -/

section Free

variable {a : RecommendArgs} {rules : List RecommendationRule}

theorem mem_scoredProducts {result : List RecommendationCandidate} {p : ℤ} {s : ℚ} :
    (p, s) ∈ scoredProducts result ↔ ∃ c ∈ result, c.odooProductId = p ∧ c.score = s := by
  unfold scoredProducts
  simp only [List.mem_map, Prod.mk.injEq]

theorem nodup_scoredProducts (a : RecommendArgs) :
    (scoredProducts (evaluateRecommendations a)).Nodup := by
  have products := evaluateRecommendations_nodup a
  have same : (scoredProducts (evaluateRecommendations a)).map Prod.fst =
      (evaluateRecommendations a).map (·.odooProductId) := by
    unfold scoredProducts
    rw [List.map_map]
    rfl
  rw [← same] at products
  exact products.of_map

theorem scores_pairwise (a : RecommendArgs) :
    ((evaluateRecommendations a).map (·.score)).Pairwise (· ≥ ·) := by
  rw [evaluateRecommendations_eq, List.pairwise_map]
  split
  · exact .nil
  · exact ((rankCandidates_pairwise _).imp score_le_of_key_le).sublist (firstUpTo_sublist _ _)

/-- The same products with the same scores come in the same order, since the scores fall. -/
theorem sameUpToTies_of_perm {a' : RecommendArgs}
    (products : (scoredProducts (evaluateRecommendations a)).Perm
      (scoredProducts (evaluateRecommendations a'))) :
    SameUpToTies (evaluateRecommendations a) (evaluateRecommendations a') := by
  refine ⟨products, ?_⟩
  have scores := products.map Prod.snd
  unfold scoredProducts at scores
  rw [List.map_map, List.map_map] at scores
  exact scores.eq_of_pairwise' (scores_pairwise a) (scores_pairwise a')

/-- What is returned when every product is settled. -/
theorem mem_scoredProducts_of_settled (settled : ∀ p ∈ a.products, a.Settled p)
    (perm : rules.Perm a.rules) {p : ℤ} {s : ℚ} :
    (p, s) ∈ scoredProducts (evaluateRecommendations (a.withRules rules)) ↔
      (a.rivals p).card < a.limit ∧ ¬ a.limit ≤ (a.ahead p).card ∧
        ∃ c, a.Possible p c ∧ c.score = s := by
  rw [mem_scoredProducts]
  constructor
  · rintro ⟨c, mem, rfl, rfl⟩
    have possible := possible_of_mem perm (mem_evaluateRecommendations mem)
    have unbeaten : ¬ a.limit ≤ (a.ahead c.odooProductId).card :=
      fun many => ne_of_ahead perm many mem rfl
    rcases settled _ (RecommendArgs.mem_products.mpr ⟨c, possible⟩) with ⟨few, -⟩ | many
    · exact ⟨few, unbeaten, c, possible, rfl⟩
    · exact absurd many unbeaten
  · rintro ⟨few, unbeaten, c, possible, rfl⟩
    have mem := RecommendArgs.mem_products.mpr ⟨c, possible⟩
    obtain ⟨d, memD, rfl⟩ := exists_candidate perm mem
    refine ⟨d, mem_of_rivals perm memD few, rfl, ?_⟩
    rcases settled _ mem with ⟨-, oneScore⟩ | many
    · exact oneScore d c (possible_of_mem perm memD) possible
    · exact absurd many unbeaten

/-- The rules may come in any order exactly when every product is settled. -/
theorem ruleOrderFree_iff (a : RecommendArgs) :
    RuleOrderFree a ↔ ∀ p ∈ a.products, a.Settled p := by
  constructor
  · intro free p mem
    by_cases many : a.limit ≤ (a.ahead p).card
    · exact .inr many
    -- some order returns the product, so every order does
    have returned : ∀ rules : List RecommendationRule, rules.Perm a.rules →
        ∃ c ∈ evaluateRecommendations (a.withRules rules), c.odooProductId = p := by
      obtain ⟨rules, perm, c, memC, same⟩ := exists_returned mem (not_le.mp many)
      intro rules' perm'
      have here : (p, c.score) ∈ scoredProducts (evaluateRecommendations (a.withRules rules)) :=
        mem_scoredProducts.mpr ⟨c, memC, same, rfl⟩
      rw [← (free rules perm).products.mem_iff, (free rules' perm').products.mem_iff,
        mem_scoredProducts] at here
      obtain ⟨d, memD, same, -⟩ := here
      exact ⟨d, memD, same⟩
    have few : (a.rivals p).card < a.limit := by
      by_contra enough
      obtain ⟨rules, perm, none⟩ := exists_unreturned mem (not_lt.mp enough)
      obtain ⟨c, memC, same⟩ := returned rules perm
      exact none c memC same
    have score : ∀ c, a.Possible p c →
        (p, c.score) ∈ scoredProducts (evaluateRecommendations a) := by
      intro c possible
      obtain ⟨rules, perm, memC⟩ := exists_order_of_possible possible
      have product := possible.productId
      rw [(free rules perm).products.mem_iff, mem_scoredProducts]
      exact ⟨c, mem_of_rivals perm memC (product ▸ few), product, rfl⟩
    refine .inl ⟨few, fun c d possibleC possibleD => ?_⟩
    obtain ⟨c', memC, productC, scoreC⟩ := mem_scoredProducts.mp (score c possibleC)
    obtain ⟨d', memD, productD, scoreD⟩ := mem_scoredProducts.mp (score d possibleD)
    have same : c' = d' := List.inj_on_of_nodup_map (evaluateRecommendations_nodup a) memC memD
      (productC.trans productD.symm)
    rw [← scoreC, ← scoreD, same]
  · intro settled rules perm
    refine sameUpToTies_of_perm ((List.perm_ext_iff_of_nodup (nodup_scoredProducts a)
      (nodup_scoredProducts _)).mpr ?_)
    rintro ⟨p, s⟩
    exact (mem_scoredProducts_of_settled settled (List.Perm.refl a.rules)).trans
      (mem_scoredProducts_of_settled settled perm).symm

end Free

/-- A dock is suggested for a laptop by two rules of one strength; one of them has it promoted. -/
def dockArgs : RecommendArgs :=
  { laptopArgs with
    rules :=
      [{ triggerProductId := 101, suggestedProductId := 102, coPurchaseCount := 10
         isPromotedOverride := some true },
       { triggerProductId := 101, suggestedProductId := 102, coPurchaseCount := 10
         isPromotedOverride := some false }] }

/-- The dock's score depends on which of the two rules comes first. -/
theorem dockArgs_not_ruleOrderFree : ¬ RuleOrderFree dockArgs := by
  intro free
  have scores := (free dockArgs.rules.reverse (List.reverse_perm _)).order
  exact absurd scores (by decide +kernel)

end DealFlow
