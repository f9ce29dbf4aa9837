import DealFlow.Recommendations.Dismissals

/-!
# Current recommendations

A generation that gets as far as the candidates leaves active rows for just the products that the
engine recommends now (`current_of_suggests`).  Where no rule suggests a product that is not on the
order, it returns before it clears the active rows of the deal, although the engine recommends
nothing then: rows of an earlier generation stay, also for products that are on the order by now.
`currentFor_iff` says when the active rows are current.
-/

namespace DealFlow

open Lib

namespace RecommendationDb

/-- A rule of the company suggests a product for one on the order that is not on it itself. -/
def Suggests (db : RecommendationDb) (companyId : ℤ) (dealPids : List ℤ) : Prop :=
  ∃ r ∈ db.rules, r.odooCompanyId = companyId ∧ r.active = true ∧ r.triggerProductId ∈ dealPids ∧
    r.suggestedProductId ∉ dealPids

/-- The products suggested for an order. -/
def suggestedProductIds (db : RecommendationDb) (companyId : ℤ) (dealPids : List ℤ) : List ℤ :=
  (((db.triggeredRules companyId dealPids).map (·.suggestedProductId)).filter fun pid =>
    pid ∉ dealPids).dedup

/-- What the engine is to be called with for an order: all rules of the company, and the products
and prices as Odoo has them. -/
def currentArgs (reads : RecommendationReads) (db : RecommendationDb) (dealId : ℕ)
    (deal : RecommendedDeal) (ctx : OrderContext) : RecommendArgs :=
  let dealPids := ctx.lines.map (·.productId)
  { dealLines := ctx.lines
    dealAmountUntaxed := ctx.amountUntaxed
    dealTotalCost := ctx.totalCost
    dealTotalMarginPct := ctx.totalMarginPct
    rules := db.rules.filter fun r => r.odooCompanyId = deal.odooCompanyId
    productsMap :=
      (reads.getProducts (dealPids ++ db.suggestedProductIds deal.odooCompanyId dealPids).dedup
        ).toOption.getD fun _ => none
    pricesMap := fun pid => (reads.getPrice deal.odooPartnerId pid 1).toOption
    dismissedProductIds := db.dismissedProductIds dealId
    minPolicyMarginPct := db.minPolicyMarginPct deal.odooCompanyId }

/-- The products with an active row are the ones recommended for the order as it is, and none of
them is on it. -/
def CurrentFor (reads : RecommendationReads) (db after : RecommendationDb) (dealId : ℕ)
    (deal : RecommendedDeal) : Prop :=
  ∃ ctx, reads.buildDealContext deal.odooSaleOrderId = .ok ctx ∧
    (∀ productId, after.isRecommended dealId productId ↔
      productId ∈ (evaluateRecommendations (db.currentArgs reads dealId deal ctx)).map
        (·.odooProductId)) ∧
    ∀ l ∈ ctx.lines, ¬ after.isRecommended dealId l.productId

end RecommendationDb

open RecommendationDb

section Suggestions

variable {db : RecommendationDb} {companyId : ℤ} {dealPids : List ℤ}

theorem mem_suggestedProductIds {pid : ℤ} :
    pid ∈ db.suggestedProductIds companyId dealPids ↔
      (∃ r ∈ db.triggeredRules companyId dealPids, r.suggestedProductId = pid) ∧
        pid ∉ dealPids := by
  unfold suggestedProductIds
  rw [List.mem_dedup, List.mem_filter, List.mem_map, decide_eq_true_iff]

theorem mem_triggeredRules {r : RecommendationRule} :
    r ∈ db.triggeredRules companyId dealPids ↔
      r ∈ db.rules ∧ r.odooCompanyId = companyId ∧ r.triggerProductId ∈ dealPids ∧
        r.active = true := by
  unfold triggeredRules
  rw [List.mem_filter, decide_eq_true_iff]

/-- The early returns of a generation are one condition. -/
theorem suggests_iff {lines : List LineContextLike} :
    db.Suggests companyId (lines.map (·.productId)) ↔
      ¬ (lines = [] ∨ db.triggeredRules companyId (lines.map (·.productId)) = [] ∨
        db.suggestedProductIds companyId (lines.map (·.productId)) = []) := by
  constructor
  · rintro ⟨r, mem, company, active, triggered, new⟩ nothing
    have found := mem_triggeredRules.mpr ⟨mem, company, triggered, active⟩
    have suggested := mem_suggestedProductIds.mpr ⟨⟨r, found, rfl⟩, new⟩
    rcases nothing with noLines | noRules | noProducts
    · rw [noLines] at triggered
      cases triggered
    · rw [noRules] at found
      cases found
    · rw [noProducts] at suggested
      cases suggested
  · intro something
    obtain ⟨-, something⟩ := not_or.mp something
    obtain ⟨-, something⟩ := not_or.mp something
    obtain ⟨pid, mem⟩ := List.exists_mem_of_ne_nil _ something
    obtain ⟨⟨r, found, rfl⟩, new⟩ := mem_suggestedProductIds.mp mem
    obtain ⟨memRule, company, triggered, active⟩ := mem_triggeredRules.mp found
    exact ⟨r, memRule, company, active, triggered, new⟩

end Suggestions

/-- The prices read for some products. -/
theorem lookup_mapM {ε : Type} {f : ℤ → Except ε ℚ} {pids : List ℤ} {prices : List (ℤ × ℚ)}
    (priced : (pids.mapM fun pid => (f pid).map (pid, ·)) = .ok prices) {pid : ℤ}
    (mem : pid ∈ pids) : prices.lookup pid = (f pid).toOption := by
  induction pids generalizing prices with
  | nil => cases mem
  | cons first rest ih =>
      rw [List.mapM_cons] at priced
      cases price : f first with
      | error e =>
          rw [price] at priced
          cases priced
      | ok p =>
          rw [price] at priced
          cases others : (rest.mapM fun pid => (f pid).map (pid, ·)) with
          | error e =>
              rw [others] at priced
              cases priced
          | ok ps =>
              rw [others] at priced
              cases priced
              rw [List.lookup_cons]
              by_cases same : pid = first
              · rw [same, beq_self_eq_true, price]
                rfl
              · rw [beq_eq_false_iff_ne.mpr same]
                exact ih others ((List.mem_cons.mp mem).resolve_left same)

section Generation

variable {reads : RecommendationReads} {db : RecommendationDb} {dealId : ℕ} {deal : RecommendedDeal}

/-- The rules that apply are triggered ones. -/
theorem applies_triggered {ctx : OrderContext} {a : RecommendArgs}
    (lines : a.dealLines = ctx.lines) :
    (db.rules.filter fun r => r.odooCompanyId = deal.odooCompanyId).filter a.applies =
      (db.triggeredRules deal.odooCompanyId (ctx.lines.map (·.productId))).filter a.applies := by
  unfold triggeredRules
  rw [List.filter_filter, List.filter_filter]
  refine List.filter_congr fun r _ => ?_
  by_cases applies : a.applies r = true
  · obtain ⟨active, triggered, -⟩ := of_decide_eq_true applies
    rw [lines] at triggered
    rw [applies, Bool.true_and, Bool.true_and]
    exact decide_eq_decide.mpr
      ⟨fun company => ⟨company, triggered, active⟩, fun found => found.1⟩
  · rw [Bool.not_eq_true] at applies
    rw [applies, Bool.false_and, Bool.false_and]

/-- Where a generation gets to the candidates, they are what the engine recommends now. -/
theorem candidatesFor_suggests {ctx : OrderContext}
    (built : reads.buildDealContext deal.odooSaleOrderId = .ok ctx)
    (suggests : db.Suggests deal.odooCompanyId (ctx.lines.map (·.productId)))
    {found : Option (List RecommendationCandidate)}
    (computed : db.candidatesFor reads dealId deal = .ok found) :
    found = some (evaluateRecommendations (db.currentArgs reads dealId deal ctx)) := by
  have wanted := suggests_iff.mp suggests
  unfold suggestedProductIds at wanted
  unfold candidatesFor at computed
  rw [built] at computed
  dsimp only at computed
  rw [if_neg wanted] at computed
  cases read : reads.getProducts (ctx.lines.map (·.productId) ++
      db.suggestedProductIds deal.odooCompanyId (ctx.lines.map (·.productId))).dedup with
  | error e =>
      unfold suggestedProductIds at read
      rw [read] at computed
      cases computed
  | ok productsMap =>
      have products := read
      unfold suggestedProductIds at read
      rw [read] at computed
      dsimp only at computed
      split at computed
      · cases computed
      · next prices priced =>
          cases computed
          refine congrArg some ?_
          have pricesSame := evaluateRecommendations_prices (db.currentArgs reads dealId deal ctx)
            (fun pid => prices.lookup pid) fun r mem => ?_
          · have rulesSame := evaluateRecommendations_rules
              { db.currentArgs reads dealId deal ctx with
                pricesMap := fun pid => prices.lookup pid }
              (db.triggeredRules deal.odooCompanyId (ctx.lines.map (·.productId)))
              (applies_triggered rfl).symm
            rw [← pricesSame, ← rulesSame]
            unfold currentArgs
            dsimp only
            rw [products]
            rfl
          · obtain ⟨memRule, applies⟩ := List.mem_filter.mp mem
            obtain ⟨active, triggered, new, -⟩ := of_decide_eq_true applies
            obtain ⟨memRule, company⟩ := List.mem_filter.mp memRule
            refine lookup_mapM priced (mem_suggestedProductIds.mpr ⟨⟨r, ?_, rfl⟩, new⟩)
            exact mem_triggeredRules.mpr ⟨memRule, of_decide_eq_true company, triggered, active⟩

/-- Where it does not get there, the engine recommends nothing. -/
theorem evaluateRecommendations_unsuggested (reads : RecommendationReads) (dealId : ℕ)
    {ctx : OrderContext} (unsuggested : ¬ db.Suggests deal.odooCompanyId
      (ctx.lines.map (·.productId))) :
    evaluateRecommendations (db.currentArgs reads dealId deal ctx) = [] := by
  rw [evaluateRecommendations_eq, if_pos]
  refine List.filter_eq_nil_iff.mpr fun r mem applies => unsuggested ?_
  obtain ⟨memRule, company⟩ := List.mem_filter.mp mem
  obtain ⟨active, triggered, new, -⟩ := of_decide_eq_true applies
  exact ⟨r, memRule, of_decide_eq_true company, active, triggered, new⟩

/-- The active rows of the deal after a replacement are the candidates'. -/
theorem isRecommended_replaceActive {candidates : List RecommendationCandidate}
    {riskAssessmentId : ℕ} {now : Timestamp} {productId : ℤ} :
    (db.replaceActive dealId riskAssessmentId now candidates).isRecommended dealId productId ↔
      productId ∈ candidates.map (·.odooProductId) := by
  unfold isRecommended
  constructor
  · rintro ⟨id, active⟩
    rcases (hasStatus_replaceActive ..).mp active with ⟨-, other⟩ | ⟨-, -, -, here⟩
    · exact absurd ⟨rfl, rfl⟩ other
    · exact List.mem_of_getElem? here
  · intro mem
    obtain ⟨k, here⟩ := List.mem_iff_getElem?.mp mem
    refine ⟨db.recommendations.next + k, (hasStatus_replaceActive ..).mpr (Or.inr ?_)⟩
    refine ⟨rfl, rfl, Nat.le_add_right _ _, ?_⟩
    rw [Nat.add_sub_cancel_left]
    exact here

/-- What is recommended now is not on the order. -/
theorem currentFor_intro {after : RecommendationDb} {ctx : OrderContext}
    (built : reads.buildDealContext deal.odooSaleOrderId = .ok ctx)
    (same : ∀ productId, after.isRecommended dealId productId ↔
      productId ∈ (evaluateRecommendations (db.currentArgs reads dealId deal ctx)).map
        (·.odooProductId)) :
    db.CurrentFor reads after dealId deal := by
  refine ⟨ctx, built, same, fun l mem recommended => ?_⟩
  obtain ⟨c, memC, product⟩ := List.mem_map.mp ((same l.productId).mp recommended)
  refine (evaluateRecommendations_fresh memC).2 ?_
  rw [product]
  exact List.mem_map_of_mem mem

variable {riskAssessmentId : ℕ} {now : Timestamp} {after : RecommendationDb} {ids : List ℕ}

/-- What a generation leaves that succeeds. -/
theorem generated_cases
    (generated : db.generateAndPersistRecommendations reads dealId deal riskAssessmentId now =
      .ok (after, ids)) :
    ∃ ctx, reads.buildDealContext deal.odooSaleOrderId = .ok ctx ∧
      (db.Suggests deal.odooCompanyId (ctx.lines.map (·.productId)) ∧
          after = db.replaceActive dealId riskAssessmentId now
            (evaluateRecommendations (db.currentArgs reads dealId deal ctx)) ∨
        ¬ db.Suggests deal.odooCompanyId (ctx.lines.map (·.productId)) ∧ after = db) := by
  unfold generateAndPersistRecommendations at generated
  cases computed : db.candidatesFor reads dealId deal with
  | error e =>
      rw [computed] at generated
      cases generated
  | ok found =>
      rw [computed] at generated
      cases built : reads.buildDealContext deal.odooSaleOrderId with
      | error e =>
          unfold candidatesFor at computed
          rw [built] at computed
          cases computed
      | ok ctx =>
          refine ⟨ctx, rfl, ?_⟩
          by_cases suggests : db.Suggests deal.odooCompanyId (ctx.lines.map (·.productId))
          · cases candidatesFor_suggests built suggests computed
            cases generated
            exact Or.inl ⟨suggests, rfl⟩
          · have unsuggested := not_not.mp (mt suggests_iff.mpr suggests)
            unfold suggestedProductIds at unsuggested
            unfold candidatesFor at computed
            rw [built] at computed
            dsimp only at computed
            rw [if_pos unsuggested] at computed
            cases computed
            cases generated
            exact Or.inr ⟨suggests, rfl⟩

/-- After a generation that succeeds, from whatever rows, the active ones are current exactly where
a rule suggests a product for the order, or the deal had no active row before. -/
theorem currentFor_iff
    (generated : db.generateAndPersistRecommendations reads dealId deal riskAssessmentId now =
      .ok (after, ids)) :
    db.CurrentFor reads after dealId deal ↔
      (∃ ctx, reads.buildDealContext deal.odooSaleOrderId = .ok ctx ∧
          db.Suggests deal.odooCompanyId (ctx.lines.map (·.productId))) ∨
        ∀ productId, ¬ db.isRecommended dealId productId := by
  obtain ⟨ctx, built, ⟨suggests, rfl⟩ | ⟨unsuggested, rfl⟩⟩ := generated_cases generated
  · refine iff_of_true ?_ (Or.inl ⟨ctx, built, suggests⟩)
    exact currentFor_intro built fun productId => isRecommended_replaceActive
  · have nothing := evaluateRecommendations_unsuggested reads dealId unsuggested
    constructor
    · rintro ⟨ctx', built', same, -⟩
      cases Except.ok.inj (built.symm.trans built')
      refine Or.inr fun productId recommended => ?_
      have mem := (same productId).mp recommended
      rw [nothing] at mem
      cases mem
    · rintro (⟨ctx', built', suggests⟩ | none)
      · cases Except.ok.inj (built.symm.trans built')
        exact absurd suggests unsuggested
      · refine currentFor_intro built fun productId => iff_of_false (none productId) fun mem => ?_
        rw [nothing] at mem
        cases mem

end Generation

/-- The deal of `demoDeals`. -/
def demoRecommendedDeal : RecommendedDeal := { odooSaleOrderId := 4001, odooPartnerId := 9 }

/-- Its rows once product 105 has been recommended. -/
def demoRecommended : RecommendationDb :=
  run RecommendationOp.step [.generate (demoReads [101]) 1 1 0] demoDeals

theorem demoRecommended_current :
    ∃ after ids,
      demoRecommended.generateAndPersistRecommendations (demoReads [101]) 1 demoRecommendedDeal 2
          10 = .ok (after, ids) ∧
        demoRecommended.CurrentFor (demoReads [101]) after 1 demoRecommendedDeal := by
  refine ⟨_, _, rfl, (currentFor_iff rfl).mpr (Or.inl ⟨_, rfl, ?_⟩)⟩
  refine ⟨{ triggerProductId := 101, suggestedProductId := 105, coPurchaseCount := 4 }, ?_⟩
  exact ⟨List.mem_singleton.mpr rfl, rfl, rfl, by decide, by decide⟩

/-- Product 105 has been put on the order, and its row stays active. -/
theorem demoRecommended_stale :
    ∃ after ids,
      demoRecommended.generateAndPersistRecommendations (demoReads [101, 105]) 1
          demoRecommendedDeal 2 10 = .ok (after, ids) ∧
        ¬ demoRecommended.CurrentFor (demoReads [101, 105]) after 1 demoRecommendedDeal := by
  refine ⟨demoRecommended, [], rfl, ?_⟩
  rintro ⟨ctx, built, -, none⟩
  cases built
  have active : (demoRecommended.recommendations.row 1).any (fun r => r.dealId = 1 ∧
      r.odooProductId = 105 ∧ r.status = .active) = true := by decide +kernel
  obtain ⟨r, row, here⟩ := (Option.any_eq_true _ _).mp active
  have ordered : ({ productId := 105, productName := "Laptop", categoryId := 7,
                    categoryPath := [1, 7] } : LineContextLike) ∈
      [101, 105].map fun productId =>
        { productId, productName := "Laptop", categoryId := 7, categoryPath := [1, 7] } := by
    decide
  exact none _ ordered ⟨1, r, row, of_decide_eq_true here⟩

end DealFlow
