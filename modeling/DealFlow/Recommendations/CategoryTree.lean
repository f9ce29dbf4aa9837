import DealFlow.Guardian.Recommend
import DealFlow.Odoo.Categories

/-!
# Relevance and the category tree

The relevance score compares two category paths next to their ends, where it takes the parents to
stand.  The paths of the XML-RPC gateway end at the root, so what stands there is the category just
below it, of whatever depth the categories are.

* `relevanceScore_eq`: the score of two categories of a forest, by their ancestors.
* `evaluateRecommendations_followsTree_iff`: for which categories it follows the tree.
-/

namespace DealFlow

open Lib

namespace CategoryForest

variable (forest : CategoryForest)

/-- The path is one the gateway gives products of the category. -/
def Built (cid : ℤ) (path : List ℤ) : Prop :=
  forest.Has cid ∧ ∃ categoryIds, cid ∈ categoryIds ∧
    path = productCategoryPath forest.categories categoryIds cid

/-- One of the categories is the other or an ancestor of it. -/
def Related (p t : ℤ) : Prop :=
  Above forest.parent t p ∨ Above forest.parent p t

def SameParent (p t : ℤ) : Prop :=
  ∃ q, forest.parent p = some q ∧ forest.parent t = some q

/-- Some category that is no root is above both. -/
def MeetBelowRoot (p t : ℤ) : Prop :=
  ∃ d, Above forest.parent p d ∧ Above forest.parent t d ∧ (forest.parent d).isSome = true

/-- The relevance of a product for a line, as the tree of their categories has it. -/
structure FollowsTree (p t : ℤ) (relevance : ℚ) : Prop where
  related : relevance = 1 ↔ forest.Related p t
  siblings : relevance = 3 / 5 ↔ ¬ forest.Related p t ∧ forest.SameParent p t
  apart : relevance = 3 / 10 ↔ ¬ forest.Related p t ∧ ¬ forest.SameParent p t

/-- The product's category is above the line's, or below it and that is a root, or they are
unrelated and siblings just when they meet below a root. -/
def SeenFromRoot (p t : ℤ) : Prop :=
  Above forest.parent t p ∨
    Above forest.parent p t ∧ forest.parent t = none ∨
      ¬ forest.Related p t ∧ (forest.SameParent p t ↔ forest.MeetBelowRoot p t)

variable {forest}

theorem Built.climb {cid : ℤ} {path : List ℤ} (built : forest.Built cid path) :
    Climb forest.parent cid path := by
  obtain ⟨has, categoryIds, mem, rfl⟩ := built
  rw [productCategoryPath_of_mem mem]
  exact climb_spec has

theorem followsTree_iff {p t : ℤ} {relevance : ℚ} :
    forest.FollowsTree p t relevance ↔
      (forest.Related p t → relevance = 1) ∧
        (¬ forest.Related p t → forest.SameParent p t → relevance = 3 / 5) ∧
          (¬ forest.Related p t → ¬ forest.SameParent p t → relevance = 3 / 10) := by
  constructor
  · intro follows
    exact ⟨follows.related.mpr, fun apart same => follows.siblings.mpr ⟨apart, same⟩,
      fun apart other => follows.apart.mpr ⟨apart, other⟩⟩
  · rintro ⟨related, siblings, apart⟩
    by_cases rel : forest.Related p t
    · rw [related rel]
      constructor <;> norm_num [rel]
    · by_cases same : forest.SameParent p t
      · rw [siblings rel same]
        constructor <;> norm_num [rel, same]
      · rw [apart rel same]
        constructor <;> norm_num [rel, same]

/-- A root meets nothing below a root. -/
theorem MeetBelowRoot.parent_isSome {p t : ℤ} (meet : forest.MeetBelowRoot p t) :
    (forest.parent t).isSome = true := by
  obtain ⟨d, -, above, up⟩ := meet
  rcases Relation.ReflTransGen.cases_head above with rfl | ⟨q, link, -⟩
  · exact up
  · rw [link]
    rfl

end CategoryForest

section Relevance

variable {forest : CategoryForest} {line : LineContextLike} {prod : CatalogProduct}

open Classical in
/-- The score of two categories, by what is above them. -/
theorem relevanceScore_eq (linePath : forest.Built line.categoryId line.categoryPath)
    (prodPath : forest.Built prod.categoryId prod.categoryPath) :
    relevanceScore (some line) prod =
      if Above forest.parent line.categoryId prod.categoryId then 1
      else if forest.MeetBelowRoot prod.categoryId line.categoryId then 3 / 5
      else if Above forest.parent prod.categoryId line.categoryId then 1
      else 3 / 10 := by
  have above : (prod.categoryId = line.categoryId ∨ prod.categoryId ∈ line.categoryPath) ↔
      Above forest.parent line.categoryId prod.categoryId := by
    rw [linePath.climb.mem_iff]
    refine or_iff_right_of_imp fun same => ?_
    rw [same]
    exact .refl
  have meet := prodPath.climb.belowRoot_eq_iff linePath.climb
  have below := prodPath.climb.mem_iff (a := line.categoryId)
  unfold relevanceScore
  dsimp only
  refine if_congr above rfl (if_congr meet rfl (if_congr below rfl rfl))

theorem relevanceScore_followsTree_iff (linePath : forest.Built line.categoryId line.categoryPath)
    (prodPath : forest.Built prod.categoryId prod.categoryPath) :
    forest.FollowsTree prod.categoryId line.categoryId (relevanceScore (some line) prod) ↔
      forest.SeenFromRoot prod.categoryId line.categoryId := by
  rw [relevanceScore_eq linePath prodPath, CategoryForest.followsTree_iff]
  unfold CategoryForest.SeenFromRoot
  by_cases above : Above forest.parent line.categoryId prod.categoryId
  · have related : forest.Related prod.categoryId line.categoryId := .inl above
    simp [above, related]
  by_cases meet : forest.MeetBelowRoot prod.categoryId line.categoryId
  · by_cases below : Above forest.parent prod.categoryId line.categoryId
    · -- the line's category is no root, and the score takes the two for siblings
      have related : forest.Related prod.categoryId line.categoryId := .inr below
      have up : forest.parent line.categoryId ≠ none :=
        Option.isSome_iff_ne_none.mp meet.parent_isSome
      norm_num [above, meet, related, up]
    · have apart : ¬ forest.Related prod.categoryId line.categoryId := not_or.mpr ⟨above, below⟩
      by_cases same : forest.SameParent prod.categoryId line.categoryId
      · norm_num [above, meet, below, apart, same]
      · norm_num [above, meet, below, apart, same]
  · by_cases below : Above forest.parent prod.categoryId line.categoryId
    · have related : forest.Related prod.categoryId line.categoryId := .inr below
      have root : forest.parent line.categoryId = none := by
        by_contra up
        exact meet ⟨_, below, .refl, Option.isSome_iff_ne_none.mpr up⟩
      simp [above, meet, below, related, root]
    · have apart : ¬ forest.Related prod.categoryId line.categoryId := not_or.mpr ⟨above, below⟩
      by_cases same : forest.SameParent prod.categoryId line.categoryId
      · norm_num [above, meet, below, apart, same]
      · norm_num [above, meet, below, apart, same]

/-- The scores are exact to three places. -/
theorem roundTo_relevanceScore (line : Option LineContextLike) (prod : CatalogProduct) :
    roundTo 3 (relevanceScore line prod) = relevanceScore line prod := by
  have one : roundTo 3 1 = 1 := roundTo_of_grid (n := 1000) (by norm_num)
  have siblings : roundTo 3 (3 / 5) = 3 / 5 := roundTo_of_grid (n := 600) (by norm_num)
  have other : roundTo 3 (3 / 10) = 3 / 10 := roundTo_of_grid (n := 300) (by norm_num)
  unfold relevanceScore
  split
  · exact other
  · dsimp only
    split
    · exact one
    split
    · exact siblings
    split
    · exact one
    · exact other

end Relevance

section Candidates

variable {a : RecommendArgs} {c : RecommendationCandidate} {rule : RecommendationRule}
  {prod : CatalogProduct}

theorem scoreCandidate_relevance {maxCo : ℤ}
    (scored : a.scoreCandidate maxCo (c.odooProductId, rule) = some c)
    (known : a.productsMap c.odooProductId = some prod) :
    c.relevanceScore =
      relevanceScore (a.dealLines.find? fun l => l.productId = rule.triggerProductId) prod := by
  obtain ⟨prod', scores⟩ := scoreCandidate_scores scored
  obtain rfl := Option.some.inj (scores.known.symm.trans known)
  exact scores.relevance.trans (roundTo_relevanceScore _ _)

/-- The relevance of a candidate whose kept rule is triggered by a line follows the tree of the
categories when the tree can be seen from its root. -/
theorem evaluateRecommendations_followsTree_iff (forest : CategoryForest)
    (mem : c ∈ evaluateRecommendations a)
    (kept : (bestRulePerProduct a.arithmetic a.candidateRules).get c.odooProductId = some rule)
    {line : LineContextLike}
    (triggered : (a.dealLines.find? fun l => l.productId = rule.triggerProductId) = some line)
    (known : a.productsMap c.odooProductId = some prod)
    (linePath : forest.Built line.categoryId line.categoryPath)
    (prodPath : forest.Built prod.categoryId prod.categoryPath) :
    forest.FollowsTree prod.categoryId line.categoryId c.relevanceScore ↔
      forest.SeenFromRoot prod.categoryId line.categoryId := by
  obtain ⟨rule', kept', scored⟩ := mem_candidates_iff.mp (mem_evaluateRecommendations mem)
  rw [kept, Option.some.injEq] at kept'
  subst kept'
  rw [scoreCandidate_relevance scored known, triggered]
  exact relevanceScore_followsTree_iff linePath prodPath

end Candidates

/-! ## Categories next to the root -/

/-- A root with two categories under it, and two more under the first of these. -/
def deskCategories : List ProductCategory :=
  [⟨1, none⟩, ⟨2, some 1⟩, ⟨3, some 1⟩, ⟨4, some 2⟩, ⟨5, some 2⟩]

/-- Parents have smaller ids. -/
theorem deskCategories_lt {c p : ℤ} (link : parentOf deskCategories c = some p) : p < c := by
  obtain ⟨category, mem, rfl, up⟩ := mem_of_parentOf link
  have smaller : ∀ category ∈ deskCategories, ∀ p ∈ category.parentId, p < category.id := by decide
  exact smaller category mem p up

theorem deskCategories_transGen_lt {c a : ℤ}
    (up : Relation.TransGen (fun c p => parentOf deskCategories c = some p) c a) : a < c := by
  induction up with
  | single link => exact deskCategories_lt link
  | tail _ link ih => exact (deskCategories_lt link).trans ih

def deskForest : CategoryForest where
  categories := deskCategories
  ids_ne_zero := by decide
  acyclic cid loop := lt_irrefl cid (deskCategories_transGen_lt loop)

def lamp (category : ℤ) : CatalogProduct where
  id := 102
  type := "STOCKABLE"
  name := "Lamp"
  categoryId := category
  categoryPath := categoryHierarchy deskCategories category
  standardPrice := 60
  listPrice := 100

def lampRule : RecommendationRule where
  triggerProductId := 101
  suggestedProductId := 102
  coPurchaseCount := 10

/-- A lamp of a category is suggested for a line of another. -/
def deskArgs (productCategory lineCategory : ℤ) : RecommendArgs where
  dealLines :=
    [{ productId := 101, productName := "Desk", categoryId := lineCategory
       categoryPath := categoryHierarchy deskCategories lineCategory }]
  dealAmountUntaxed := 1000
  dealTotalCost := 700
  dealTotalMarginPct := 30
  rules := [lampRule]
  productsMap productId := if productId = 102 then some (lamp productCategory) else none
  pricesMap _ := none
  dismissedProductIds := []

theorem deskForest_built {cid : ℤ} (has : deskForest.Has cid) :
    deskForest.Built cid (categoryHierarchy deskCategories cid) :=
  ⟨has, [cid], List.mem_singleton_self cid,
    (productCategoryPath_of_mem (List.mem_singleton_self cid)).symm⟩

/-- The lamp is recommended in both cases. -/
theorem deskArgs_nonempty : evaluateRecommendations (deskArgs 4 5) ≠ [] ∧
    evaluateRecommendations (deskArgs 2 3) ≠ [] := by
  decide +kernel

/-- Two categories under one that is no root: the lamp's relevance is that of siblings. -/
theorem deskArgs_siblings :
    ∃ c ∈ evaluateRecommendations (deskArgs 4 5), deskForest.FollowsTree 4 5 c.relevanceScore := by
  have four : deskForest.Built 4 [4, 2, 1] := deskForest_built ⟨⟨4, some 2⟩, by decide, rfl⟩
  have five : deskForest.Built 5 [5, 2, 1] := deskForest_built ⟨⟨5, some 2⟩, by decide, rfl⟩
  have apart : ¬ deskForest.Related 4 5 := by
    rintro (above | below)
    · exact absurd (five.climb.mem_iff.mpr above) (by decide)
    · exact absurd (four.climb.mem_iff.mpr below) (by decide)
  have meet : deskForest.MeetBelowRoot 4 5 :=
    ⟨2, four.climb.mem_iff.mp (by decide), five.climb.mem_iff.mp (by decide), rfl⟩
  have seen : deskForest.SeenFromRoot 4 5 := .inr (.inr ⟨apart, iff_of_true ⟨2, rfl, rfl⟩ meet⟩)
  have mem := List.head_mem deskArgs_nonempty.1
  have kept : (bestRulePerProduct (deskArgs 4 5).arithmetic (deskArgs 4 5).candidateRules).get
      ((evaluateRecommendations (deskArgs 4 5)).head deskArgs_nonempty.1).odooProductId =
        some lampRule := by decide +kernel
  have known : (deskArgs 4 5).productsMap
      ((evaluateRecommendations (deskArgs 4 5)).head deskArgs_nonempty.1).odooProductId =
        some (lamp 4) := by decide +kernel
  exact ⟨_, mem, (evaluateRecommendations_followsTree_iff deskForest mem kept rfl known five
    four).mpr seen⟩

/-- Two categories under a root: the lamp's relevance is that of strangers. -/
theorem deskArgs_underRoot :
    ∃ c ∈ evaluateRecommendations (deskArgs 2 3),
      deskForest.Built 2 [2, 1] ∧ deskForest.Built 3 [3, 1] ∧ deskForest.SameParent 2 3 ∧
        ¬ deskForest.FollowsTree 2 3 c.relevanceScore := by
  have two : deskForest.Built 2 [2, 1] := deskForest_built ⟨⟨2, some 1⟩, by decide, rfl⟩
  have three : deskForest.Built 3 [3, 1] := deskForest_built ⟨⟨3, some 1⟩, by decide, rfl⟩
  have apart : ¬ deskForest.Related 2 3 := by
    rintro (above | below)
    · exact absurd (three.climb.mem_iff.mpr above) (by decide)
    · exact absurd (two.climb.mem_iff.mpr below) (by decide)
  have same : deskForest.SameParent 2 3 := ⟨1, rfl, rfl⟩
  refine ⟨_, List.head_mem deskArgs_nonempty.2, two, three, same, fun follows => ?_⟩
  have score := follows.siblings.mpr ⟨apart, same⟩
  exact absurd score (by decide +kernel)

end DealFlow
