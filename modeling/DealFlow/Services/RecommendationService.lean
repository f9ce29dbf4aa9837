import DealFlow.Guardian.Recommend
import DealFlow.Lib.Table
import DealFlow.Lib.Upsert
import DealFlow.Services.DealService

/-!
# Recommendations

`app/services/recommendation_service.py`.

* `apply_recommendation_action`: a recommended product is added to the order, which evaluates the
  deal again, or dismissed.
* `generate_and_persist_recommendations`, over the recommendation rows of all deals: a generation
  replaces the active rows of a deal by one for each candidate; an addition marks a row as added
  and, through `evaluate_deal`, generates again; a dismissal marks a row as dismissed.
* `mine_co_purchase_rules`: the orders of the last days are gone through, each ordered pair of
  products of an order is counted, and the rule of each counted pair gets its count.

What the services read of Odoo is data of the operation that reads it.  An exception of a generation
within an evaluation is swallowed, and one that reaches the endpoint takes back what was not
committed.  A day is the number of a date, since the orders are asked for by date.
-/

namespace DealFlow

open Lib

inductive RecommendationAction
  | add (quantity : ℚ)
  | dismiss
  | other (name : String)
  deriving DecidableEq, Repr

def updateRecommendation (db : DealStore) (recommendationId : ℕ)
    (f : Recommendation → Recommendation) : DealStore :=
  { db with
    recommendations := db.recommendations.map fun r => if r.id = recommendationId then f r else r }

def recommendationEvent (eventType : AuditEventType) (rec : Recommendation) (actor : DealflowUser)
    (now : Timestamp) : AuditEvent :=
  { eventType
    entityType := "recommendation"
    entityId := toString rec.id
    actorType := "USER"
    actorId := some actor.odooUserId
    actorRole := some actor.role
    createdAt := now }

/-- The rest of an addition, once the deal has been evaluated.  The workspace bundle it returns
reads the order once more. -/
def finishAddition {σ : Type} (gateway : OdooGateway σ) (rec : Recommendation)
    (actor : DealflowUser) (tables : PolicyTables) (now : Timestamp) :
    Except DealFlowException EvaluationResponse × World σ → Except ServiceError Unit × World σ
  | (.error e, w) => (.error (.dealflow e), w)
  | (.ok _, w) =>
      let db := w.db.recordAuditEvent (recommendationEvent .recommendationAdded rec actor now)
      match buildDealContext gateway tables db.deal.odooSaleOrderId w.odoo with
      | (.error e, odoo) => (.error (.dealflow e), { db, odoo })
      | (.ok _, odoo) => (.ok (), { db, odoo })

/-- Add the product to the order, sync and evaluate. -/
def addRecommended {σ : Type} (gateway : OdooGateway σ) (rec : Recommendation)
    (actor : DealflowUser) (quantity : ℚ) (tables : PolicyTables) (now : Timestamp) (w : World σ) :
    Except ServiceError Unit × World σ :=
  match gateway.addLine w.db.deal.odooSaleOrderId rec.odooProductId quantity 0 w.odoo with
  | (.error e, odoo) => (.error (.odoo e), { w with odoo })
  | (.ok _, odoo) =>
      let added := (updateRecommendation w.db rec.id fun r =>
        { r with status := .added, addedAt := some now }).updateDeal fun d =>
          { d with lastActivityAt := now }
      finishAddition gateway rec actor tables now
        (syncAndEvaluate gateway
          { tables
            triggerType := .lineAdded
            actorId := some actor.odooUserId
            actorRole := some actor.role
            now }
          w.db { db := added, odoo })

def applyRecommendationAction {σ : Type} (gateway : OdooGateway σ) (recommendationId : ℕ)
    (actor : DealflowUser) (action : RecommendationAction) (tables : PolicyTables)
    (now : Timestamp) (w : World σ) : Except ServiceError Unit × World σ :=
  match w.db.recommendations.find? fun r => r.id = recommendationId with
  | none =>
      (.error (.dealflow (entityNotFoundError "Recommendation" (toString recommendationId))), w)
  | some rec =>
      match action with
      | .add quantity =>
          if rec.status ≠ .active then
            (.error (.dealflow (businessRuleError "REC_NOT_ACTIVE"
              s!"Recommendation is already {rec.status.value}.")), w)
          else addRecommended gateway rec actor quantity tables now w
      | .dismiss =>
          let dismissed := (updateRecommendation w.db rec.id fun r =>
            { r with status := .dismissed, dismissedAt := some now }).updateDeal fun d =>
              { d with lastActivityAt := now }
          (.ok (),
            { w with
              db := dismissed.recordAuditEvent
                (recommendationEvent .recommendationDismissed rec actor now) })
      | .other name =>
          (.error (.dealflow (businessRuleError "INVALID_ACTION"
            s!"Unknown recommendation action '{name}'.")), w)

/-! ## Recommendation rows -/

/-- A deal as recommendations see it. -/
structure RecommendedDeal where
  odooSaleOrderId : ℤ
  odooPartnerId : ℤ
  odooCompanyId : ℤ := 1
  lastActivityAt : Timestamp := 0
  deriving DecidableEq, Repr

structure RecommendationRow extends RecommendationCandidate where
  dealId : ℕ
  riskAssessmentId : ℕ
  status : RecommendationStatus := .active
  createdAt : Timestamp
  addedAt : Option Timestamp := none
  dismissedAt : Option Timestamp := none
  deriving DecidableEq, Repr

def RecommendationRow.toAdded (now : Timestamp) (r : RecommendationRow) : RecommendationRow :=
  { r with status := .added, addedAt := some now }

def RecommendationRow.toDismissed (now : Timestamp) (r : RecommendationRow) : RecommendationRow :=
  { r with status := .dismissed, dismissedAt := some now }

/-- An audit event about a recommendation. -/
structure RecommendationEvent where
  eventType : AuditEventType
  recommendationId : ℕ
  dealId : ℕ
  actorId : ℤ
  actorRole : Role
  reason : String
  createdAt : Timestamp
  deriving DecidableEq, Repr

structure RecommendationDb where
  deals : Table RecommendedDeal
  rules : List RecommendationRule := []
  policies : List DiscountPolicy := []
  recommendations : Table RecommendationRow := .empty
  auditEvents : List RecommendationEvent := []

/-- What recommendations are computed from in the context of a deal. -/
structure OrderContext where
  lines : List LineContextLike
  amountUntaxed : ℚ
  totalCost : ℚ
  totalMarginPct : ℚ
  deriving DecidableEq, Repr

/-- What a generation reads of Odoo: the context of an order, the products that are there, and the
price of a product for a partner and a quantity. -/
structure RecommendationReads where
  buildDealContext : ℤ → Except DealFlowException OrderContext
  getProducts : List ℤ → Except OdooError (ℤ → Option CatalogProduct)
  getPrice : ℤ → ℤ → ℚ → Except OdooError ℚ

namespace RecommendationDb

/-! ### Generation -/

/-- The rules for the products of an order. -/
def triggeredRules (db : RecommendationDb) (companyId : ℤ) (dealPids : List ℤ) :
    List RecommendationRule :=
  db.rules.filter fun r =>
    r.odooCompanyId = companyId ∧ r.triggerProductId ∈ dealPids ∧ r.active = true

/-- The products dismissed for a deal. -/
def dismissedProductIds (db : RecommendationDb) (dealId : ℕ) : List ℤ :=
  ((db.recommendations.entries.map Prod.snd).filter fun r =>
    r.dealId = dealId ∧ r.status = .dismissed).map (·.odooProductId)

/-- The margin floor of the company's first active policy, if it has one. -/
def minPolicyMarginPct (db : RecommendationDb) (companyId : ℤ) : Option ℚ :=
  (db.policies.find? fun p => p.odooCompanyId = companyId ∧ p.active = true).bind
    (·.minimumMarginPct)

/-- The active rows of the deal are deleted and the candidates stored. -/
def replaceActive (db : RecommendationDb) (dealId riskAssessmentId : ℕ) (now : Timestamp)
    (candidates : List RecommendationCandidate) : RecommendationDb :=
  { db with
    recommendations :=
      (db.recommendations.filter fun r => !decide (r.dealId = dealId ∧ r.status = .active)
        ).insertAll (candidates.map fun c =>
          { toRecommendationCandidate := c, dealId, riskAssessmentId, createdAt := now }) }

/-- The candidates for a deal, where a generation gets to compute them. -/
def candidatesFor (reads : RecommendationReads) (db : RecommendationDb) (dealId : ℕ)
    (deal : RecommendedDeal) : Except ServiceError (Option (List RecommendationCandidate)) :=
  match reads.buildDealContext deal.odooSaleOrderId with
  | .error e => .error (.dealflow e)
  | .ok ctx =>
      let dealPids := ctx.lines.map (·.productId)
      let rules := db.triggeredRules deal.odooCompanyId dealPids
      let candidateSuggPids :=
        ((rules.map (·.suggestedProductId)).filter fun pid => pid ∉ dealPids).dedup
      if ctx.lines = [] ∨ rules = [] ∨ candidateSuggPids = [] then .ok none
      else
        match reads.getProducts (dealPids ++ candidateSuggPids).dedup with
        | .error e => .error (.odoo e)
        | .ok productsMap =>
            match candidateSuggPids.mapM fun pid =>
              (reads.getPrice deal.odooPartnerId pid 1).map (pid, ·) with
            | .error e => .error (.odoo e)
            | .ok prices =>
                .ok (some (evaluateRecommendations
                  { dealLines := ctx.lines
                    dealAmountUntaxed := ctx.amountUntaxed
                    dealTotalCost := ctx.totalCost
                    dealTotalMarginPct := ctx.totalMarginPct
                    rules
                    productsMap
                    pricesMap := fun pid => prices.lookup pid
                    dismissedProductIds := db.dismissedProductIds dealId
                    minPolicyMarginPct := db.minPolicyMarginPct deal.odooCompanyId }))

/-- The new rows' ids come with the database.  Without lines, rules or suggested products the rows
there are stay. -/
def generateAndPersistRecommendations (reads : RecommendationReads) (db : RecommendationDb)
    (dealId : ℕ) (deal : RecommendedDeal) (riskAssessmentId : ℕ) (now : Timestamp) :
    Except ServiceError (RecommendationDb × List ℕ) :=
  match db.candidatesFor reads dealId deal with
  | .error e => .error e
  | .ok none => .ok (db, [])
  | .ok (some candidates) =>
      .ok (db.replaceActive dealId riskAssessmentId now candidates,
        List.range' db.recommendations.next candidates.length)

/-- A generation within an evaluation. -/
def regenerate (reads : RecommendationReads) (db : RecommendationDb) (dealId : ℕ)
    (deal : RecommendedDeal) (riskAssessmentId : ℕ) (now : Timestamp) : RecommendationDb :=
  match db.generateAndPersistRecommendations reads dealId deal riskAssessmentId now with
  | .error _ => db
  | .ok (generated, _) => generated

/-! ### Actions -/

def updateRow (db : RecommendationDb) (recommendationId : ℕ)
    (f : RecommendationRow → RecommendationRow) : RecommendationDb :=
  { db with recommendations := db.recommendations.modify [recommendationId] f }

/-- The deal has been active. -/
def touchDeal (db : RecommendationDb) (dealId : ℕ) (now : Timestamp) : RecommendationDb :=
  { db with deals := db.deals.modify [dealId] fun d => { d with lastActivityAt := now } }

def recordEvent (db : RecommendationDb) (event : RecommendationEvent) : RecommendationDb :=
  { db with auditEvents := db.auditEvents ++ [event] }.touchDeal event.dealId event.createdAt

end RecommendationDb

/-- How the services go that an addition calls, in turn: the line added to the order, the sync of
the deal, its evaluation, which gives the new assessment, and the workspace bundle returned. -/
structure AdditionCalls where
  addLine : ℤ → ℤ → ℚ → Except OdooError ℤ
  syncDealFromOdoo : Except DealFlowException Unit := .ok ()
  evaluateDeal : Except DealFlowException ℕ
  getDealDetail : Except DealFlowException Unit := .ok ()
  reads : RecommendationReads

namespace RecommendationDb

def addRecommended (calls : AdditionCalls) (db : RecommendationDb) (dealId recommendationId : ℕ)
    (deal : RecommendedDeal) (rec : RecommendationRow) (actor : DealflowUser) (quantity : ℚ)
    (now : Timestamp) : Except ServiceError Unit × RecommendationDb :=
  match calls.addLine deal.odooSaleOrderId rec.odooProductId quantity with
  | .error e => (.error (.odoo e), db)
  | .ok lineId =>
      match calls.syncDealFromOdoo with
      | .error e => (.error (.dealflow e), db)
      | .ok () =>
          -- the sync commits
          let added := (db.updateRow recommendationId (.toAdded now)).touchDeal dealId now
          match calls.evaluateDeal with
          | .error e => (.error (.dealflow e), added)
          | .ok assessmentId =>
              let evaluated := (added.regenerate calls.reads dealId deal assessmentId now
                ).recordEvent
                  { eventType := .recommendationAdded, recommendationId, dealId
                    actorId := actor.odooUserId
                    actorRole := actor.role
                    reason := s!"Added recommended product {rec.productName} (line {lineId})"
                    createdAt := now }
              (calls.getDealDetail.mapError .dealflow, evaluated)

def applyRecommendationAction (calls : AdditionCalls) (db : RecommendationDb)
    (dealId recommendationId : ℕ) (actor : DealflowUser) (action : RecommendationAction)
    (now : Timestamp) : Except ServiceError Unit × RecommendationDb :=
  match (db.recommendations.row recommendationId).filter fun r => r.dealId = dealId with
  | none =>
      (.error (.dealflow (entityNotFoundError "Recommendation" (toString recommendationId))), db)
  | some rec =>
      match db.deals.row dealId with
      | none => (.error (.dealflow (entityNotFoundError "Deal" (toString dealId))), db)
      | some deal =>
          match action with
          | .add quantity =>
              if rec.status ≠ .active then
                (.error (.dealflow (businessRuleError "REC_NOT_ACTIVE"
                  s!"Recommendation is already {rec.status.value}.")), db)
              else db.addRecommended calls dealId recommendationId deal rec actor quantity now
          | .dismiss =>
              let dismissed :=
                (db.updateRow recommendationId (.toDismissed now)).touchDeal dealId now
              (.ok (), dismissed.recordEvent
                { eventType := .recommendationDismissed, recommendationId, dealId
                  actorId := actor.odooUserId
                  actorRole := actor.role
                  reason := s!"Dismissed recommendation for {rec.productName}"
                  createdAt := now })
          | .other name =>
              (.error (.dealflow (businessRuleError "INVALID_ACTION"
                s!"Unknown recommendation action '{name}'.")), db)

end RecommendationDb

/-- What happens to recommendations.  Between two of their operations the deals, rules and policies
may change in any way. -/
inductive RecommendationOp
  | generate (reads : RecommendationReads) (dealId riskAssessmentId : ℕ) (now : Timestamp)
  | apply (calls : AdditionCalls) (dealId recommendationId : ℕ) (actor : DealflowUser)
      (action : RecommendationAction) (now : Timestamp)
  | change (deals : Table RecommendedDeal) (rules : List RecommendationRule)
      (policies : List DiscountPolicy)

def RecommendationOp.step : RecommendationOp → RecommendationDb → RecommendationDb
  | .generate reads dealId riskAssessmentId now, db =>
      match db.deals.row dealId with
      | none => db
      | some deal => db.regenerate reads dealId deal riskAssessmentId now
  | .apply calls dealId recommendationId actor action now, db =>
      (db.applyRecommendationAction calls dealId recommendationId actor action now).2
  | .change deals rules policies, db => { db with deals, rules, policies }

/-! ## Mining of co-purchases -/

/-- An order as the mining reads it. -/
structure MiningOrder where
  productIds : List ℤ
  deriving DecidableEq, Repr

/-- The gateway's confirmed orders from a day on. -/
structure MiningGateway where
  getConfirmedOrdersForMining : ℤ → List MiningOrder

/-- The products of an order, each once and in the order of their ids. -/
def MiningOrder.pids (o : MiningOrder) : List ℤ :=
  o.productIds.dedup.insertionSort (· ≤ ·)

/-- The pairs at different places; each product stands at one place. -/
def MiningOrder.pairs (o : MiningOrder) : List (ℤ × ℤ) :=
  (o.pids.product o.pids).filter fun pair => pair.1 ≠ pair.2

def countPairs (counts : Dict (ℤ × ℤ) ℤ) (o : MiningOrder) : Dict (ℤ × ℤ) ℤ :=
  o.pairs.foldl Dict.increment counts

def pairCounts (orders : List MiningOrder) : Dict (ℤ × ℤ) ℤ :=
  orders.foldl countPairs .empty

/-- The rule that is looked up for a pair is the first of the company. -/
def minedRules (companyId : ℤ) : Upsert RecommendationRule (ℤ × ℤ) ℤ where
  key r :=
    if r.odooCompanyId = companyId then some (r.triggerProductId, r.suggestedProductId) else none
  update count r := { r with coPurchaseCount := count, source := "MINED" }
  create pair count :=
    { odooCompanyId := companyId
      triggerProductId := pair.1
      suggestedProductId := pair.2
      coPurchaseCount := count
      manualBoost := 0
      source := "MINED"
      active := true }
  key_update _ _ := rfl
  key_create _ _ := if_pos rfl
  update_update _ _ := rfl
  update_create _ _ := rfl

structure MiningResult where
  status : String
  ordersAnalyzed : ℕ
  rulesUpserted : ℕ
  deriving DecidableEq, Repr

/-- The orders of the mining window. -/
def MiningGateway.window (gateway : MiningGateway) (today lookbackDays : ℤ) : List MiningOrder :=
  gateway.getConfirmedOrdersForMining (today - lookbackDays)

/-- Returns the report and the rules as they are then. -/
def mineCoPurchaseRules (gateway : MiningGateway) (today : ℤ) (rules : List RecommendationRule)
    (companyId : ℤ := 1) (lookbackDays : ℤ := 365) : MiningResult × List RecommendationRule :=
  let orders := gateway.window today lookbackDays
  let counted := (pairCounts orders).entries
  ({ status := "completed", ordersAnalyzed := orders.length, rulesUpserted := counted.length },
    (minedRules companyId).upsertAll counted rules)

end DealFlow
