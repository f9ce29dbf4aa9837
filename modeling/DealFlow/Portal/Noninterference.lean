import DealFlow.Odoo.Costs
import DealFlow.Portal.Isolation

/-!
# What the portal tells of internals

Costs, margins, assessments, approval states and internal comments are not for customers.  A view of
a deal factors through the deal without them (`getDealForPortal_result`); the list of a customer
shows the approval states.
So on two systems that agree on everything but the internals, whatever a customer reads is the same
exactly when the approval states of that customer's deals are (`portalReads_iff`).
-/

namespace DealFlow

/-! ## Without the internals -/

/-- The assessments a request refers to are internals. -/
def NegotiationRequest.withoutAssessments (n : NegotiationRequest) : NegotiationRequest :=
  { n with basedOnAssessmentId := none, appliedAssessmentId := none }

def Deal.withoutInternals (d : Deal) : Deal :=
  { d with
    approvalState := .notEvaluated
    currentRiskScore := none
    currentSeverity := none
    currentAssessmentId := none
    approvedAssessmentId := none
    requiredLevel := .none
    marginPctCache := 0 }

/-- The rows of a deal without its internals; how many ids were given out goes with them. -/
def DealStore.withoutInternals (db : DealStore) : DealStore :=
  { db with
    deal := db.deal.withoutInternals
    assessments := []
    factors := []
    requests := []
    actions := []
    negotiations := db.negotiations.map NegotiationRequest.withoutAssessments
    comments := db.comments.filter fun c => !c.isInternal
    nextId := 0 }

structure AgreeButInternals {σ : Type} (gateway : OdooGateway σ) (s t : PortalSystem σ) :
    Prop where
  deals : s.deals.map DealStore.withoutInternals = t.deals.map DealStore.withoutInternals
  orders : SameButCosts gateway s.odoo t.odoo

/-- The deals of a customer stand at the same approval state in both. -/
def SameApprovalStates {σ : Type} (customerPartnerId : ℤ) (s t : PortalSystem σ) : Prop :=
  ∀ db ∈ s.deals, ∀ db' ∈ t.deals, db.deal.id = db'.deal.id →
    db.deal.odooPartnerId = customerPartnerId → db.deal.approvalState = db'.deal.approvalState

/-- A request that only reads. -/
def PortalRequest.IsRead : PortalRequest → Prop
  | .listDeals | .onDeal _ .view => True
  | .onDeal _ (.negotiate _) | .onDeal _ (.confirm _) | .onDeal _ (.comment _) => False

/-- Whatever the customer reads is the same in both. -/
def ReadsAgree {σ : Type} (gateway : OdooGateway σ) (user : PortalUser) (now : Timestamp)
    (s t : PortalSystem σ) : Prop :=
  ∀ request : PortalRequest, request.IsRead →
    (request.serve gateway user now s).1 = (request.serve gateway user now t).1

/-! ## Views -/

theorem listPortalComments_withoutInternals (db : DealStore) :
    listPortalComments false db.withoutInternals = listPortalComments false db := by
  unfold listPortalComments DealStore.withoutInternals
  dsimp only
  rw [if_neg Bool.false_ne_true, if_neg Bool.false_ne_true, List.filter_filter]
  simp only [Bool.and_self]

theorem listNegotiationRequests_withoutInternals (db : DealStore) :
    listNegotiationRequests db.withoutInternals =
      (listNegotiationRequests db).map NegotiationRequest.withoutAssessments := by
  unfold listNegotiationRequests
  exact (List.map_insertionSort _ _ NegotiationRequest.withoutAssessments db.negotiations
    fun n _ m _ => Iff.rfl).symm

/-- The view of a deal has nothing of the internals. -/
theorem portalDealRead_withoutInternals (db : DealStore) (rawOrder : RawOrder) :
    portalDealRead db.withoutInternals rawOrder.withoutCosts = portalDealRead db rawOrder := by
  unfold portalDealRead
  rw [listPortalComments_withoutInternals, listNegotiationRequests_withoutInternals, List.map_map]
  dsimp only [RawOrder.withoutCosts]
  rw [List.map_map]
  rfl

/-- What a customer is shown of a deal, given the read of its order. -/
def shownDeal (customerPartnerId : ℤ) (db : DealStore) (read : Except OdooError RawOrder) :
    Except ServiceError PortalDealRead :=
  if db.deal.odooPartnerId ≠ customerPartnerId then
    .error (.dealflow (entityNotFoundError "Deal" (toString db.deal.id)))
  else (read.mapError .odoo).map (portalDealRead db)

section Reads

variable {σ : Type} {gateway : OdooGateway σ}

/-- A view looks at the deal without its internals, and at the order without costs. -/
theorem getDealForPortal_result (customerPartnerId : ℤ) (w : World σ) :
    (getDealForPortal gateway customerPartnerId w).1 =
      shownDeal customerPartnerId w.db.withoutInternals
        ((gateway.getSaleOrder w.db.deal.odooSaleOrderId w.odoo).1.map RawOrder.withoutCosts) := by
  unfold getDealForPortal shownDeal
  change _ = if w.db.deal.odooPartnerId ≠ customerPartnerId then _ else _
  split
  · rfl
  · rcases gateway.getSaleOrder w.db.deal.odooSaleOrderId w.odoo with ⟨e | rawOrder, odoo⟩
    · rfl
    · exact congrArg Except.ok (portalDealRead_withoutInternals w.db rawOrder).symm

theorem getDealForPortal_agree {db db' : DealStore} {odoo odoo' : σ}
    (deal : db.withoutInternals = db'.withoutInternals) (orders : SameButCosts gateway odoo odoo')
    (customerPartnerId : ℤ) :
    (getDealForPortal gateway customerPartnerId { db, odoo }).1 =
      (getDealForPortal gateway customerPartnerId { db := db', odoo := odoo' }).1 := by
  have order : db.deal.odooSaleOrderId = db'.deal.odooSaleOrderId :=
    congrArg (fun db => db.deal.odooSaleOrderId) deal
  rw [getDealForPortal_result, getDealForPortal_result]
  dsimp only
  rw [deal, order, orders]

variable {s t : PortalSystem σ}

/-- Both systems find the same deal, but for its internals. -/
theorem AgreeButInternals.find (agree : AgreeButInternals gateway s t) (dealId : ℕ) :
    (s.find dealId).map DealStore.withoutInternals =
      (t.find dealId).map DealStore.withoutInternals := by
  have named : ∀ u : PortalSystem σ, (u.find dealId).map DealStore.withoutInternals =
      (u.deals.map DealStore.withoutInternals).find? fun db => db.deal.id = dealId := by
    intro u
    rw [List.find?_map]
    rfl
  rw [named, named, agree.deals]

/-- The view of a deal tells nothing of internals. -/
theorem viewDeal_agree (agree : AgreeButInternals gateway s t) (user : PortalUser)
    (now : Timestamp) (dealId : ℕ) :
    (PortalRequest.serve gateway user now (.onDeal dealId .view) s).1 =
      (PortalRequest.serve gateway user now (.onDeal dealId .view) t).1 := by
  have same := agree.find dealId
  dsimp only [PortalRequest.serve]
  cases found : s.find dealId with
  | none =>
      rw [found, Option.map_none] at same
      rw [Option.map_eq_none_iff.mp same.symm]
  | some db =>
      rw [found, Option.map_some] at same
      obtain ⟨db', found', deal⟩ := Option.map_eq_some_iff.mp same.symm
      rw [found']
      exact congrArg (Except.map PortalReply.deal)
        (getDealForPortal_agree deal.symm agree.orders user.partnerId)

/-! ## The list -/

/-- On lists that agree under a key, another column agrees exactly when rows with the same key have
it the same. -/
theorem map_eq_iff_of_key {α β γ : Type} {key : α → β} (column : α → γ) {rows rows' : List α}
    (keys : rows.map key = rows'.map key)
    (keyed : ∀ a ∈ rows', ∀ b ∈ rows', key a = key b → a = b) :
    rows.map column = rows'.map column ↔
      ∀ a ∈ rows, ∀ b ∈ rows', key a = key b → column a = column b := by
  constructor
  · intro columns a mem b mem' same
    have both : rows.map (fun r => (key r, column r)) = rows'.map fun r => (key r, column r) := by
      rw [← List.zip_map', ← List.zip_map', keys, columns]
    have shown : (key a, column a) ∈ rows'.map fun r => (key r, column r) :=
      both ▸ List.mem_map_of_mem mem
    rcases List.mem_map.mp shown with ⟨c, mem'', pair⟩
    obtain ⟨sameKey, sameColumn⟩ := Prod.mk.inj pair
    rw [← sameColumn, keyed c mem'' b mem' (sameKey.trans same)]
  · intro columns
    have length : rows.length = rows'.length := by
      simpa using congrArg List.length keys
    refine List.ext_getElem (by simpa using length) fun i bound bound' => ?_
    have sameKey : (rows.map key)[i]? = (rows'.map key)[i]? := by rw [keys]
    rw [List.length_map] at bound bound'
    rw [List.getElem?_map, List.getElem?_map, List.getElem?_eq_getElem bound,
      List.getElem?_eq_getElem bound'] at sameKey
    rw [List.getElem_map, List.getElem_map]
    exact columns _ (List.getElem_mem bound) _ (List.getElem_mem bound') (Option.some.inj sameKey)

/-- The deals of a customer in the order of the list. -/
def listedDeals (customerPartnerId : ℤ) (deals : List DealStore) : List DealStore :=
  (deals.filter fun db => db.deal.odooPartnerId = customerPartnerId).insertionSort
    fun a b => b.deal.createdAt ≤ a.deal.createdAt

theorem mem_listedDeals {customerPartnerId : ℤ} {deals : List DealStore} {db : DealStore} :
    db ∈ listedDeals customerPartnerId deals ↔
      db ∈ deals ∧ db.deal.odooPartnerId = customerPartnerId := by
  unfold listedDeals
  rw [List.mem_insertionSort, List.mem_filter, decide_eq_true_eq]

theorem listedDeals_withoutInternals (customerPartnerId : ℤ) (deals : List DealStore) :
    (listedDeals customerPartnerId deals).map DealStore.withoutInternals =
      listedDeals customerPartnerId (deals.map DealStore.withoutInternals) := by
  unfold listedDeals
  rw [List.filter_map]
  exact List.map_insertionSort _ _ DealStore.withoutInternals _ fun a _ b _ => Iff.rfl

/-- The entries of one deal are the same exactly when its approval states are. -/
theorem portalDealEntry_iff {db db' : DealStore}
    (deal : db.withoutInternals = db'.withoutInternals) :
    portalDealEntry db.deal = portalDealEntry db'.deal ↔
      db.deal.approvalState = db'.deal.approvalState := by
  constructor
  · exact congrArg PortalDealEntry.approvalState
  · intro state
    have entry : ∀ db : DealStore, portalDealEntry db.deal =
        { portalDealEntry db.withoutInternals.deal with approvalState := db.deal.approvalState } :=
      fun _ => rfl
    rw [entry db, entry db', deal, state]

/-- The list of a customer is the same exactly when the approval states of the deals are. -/
theorem listDealsForPortal_iff (agree : AgreeButInternals gateway s t) (customerPartnerId : ℤ) :
    listDealsForPortal customerPartnerId s.deals = listDealsForPortal customerPartnerId t.deals ↔
      SameApprovalStates customerPartnerId s t := by
  have keys : (listedDeals customerPartnerId s.deals).map DealStore.withoutInternals =
      (listedDeals customerPartnerId t.deals).map DealStore.withoutInternals := by
    rw [listedDeals_withoutInternals, listedDeals_withoutInternals, agree.deals]
  have id : ∀ db db' : DealStore, db.withoutInternals = db'.withoutInternals →
      db.deal.id = db'.deal.id := fun db db' same => congrArg (fun db => db.deal.id) same
  have keyed : ∀ a ∈ listedDeals customerPartnerId t.deals,
      ∀ b ∈ listedDeals customerPartnerId t.deals,
        a.withoutInternals = b.withoutInternals → a = b := fun a mem b mem' same =>
    PortalSystem.eq_of_id (mem_listedDeals.mp mem).1 (mem_listedDeals.mp mem').1 (id a b same)
  refine (map_eq_iff_of_key (fun db => portalDealEntry db.deal) keys keyed).trans ?_
  constructor
  · intro entries db mem db' mem' same own
    have listed := mem_listedDeals.mpr ⟨mem, own⟩
    -- the deal with the same id in the other system
    have shown : db.withoutInternals ∈
        (listedDeals customerPartnerId t.deals).map DealStore.withoutInternals :=
      keys ▸ List.mem_map_of_mem listed
    rcases List.mem_map.mp shown with ⟨other, listed', deal⟩
    have entry := entries db listed other listed' deal.symm
    have found := PortalSystem.eq_of_id (mem_listedDeals.mp listed').1 mem'
      ((id other db deal).trans same)
    rw [found] at entry
    exact congrArg PortalDealEntry.approvalState entry
  · intro states db listed db' listed' deal
    obtain ⟨mem, own⟩ := mem_listedDeals.mp listed
    exact (portalDealEntry_iff deal).mpr
      (states db mem db' (mem_listedDeals.mp listed').1 (id db db' deal) own)

/-- Whatever a customer reads is the same exactly when the approval states of the customer's deals
are. -/
theorem portalReads_iff (agree : AgreeButInternals gateway s t) (user : PortalUser)
    (now : Timestamp) :
    ReadsAgree gateway user now s t ↔ SameApprovalStates user.partnerId s t := by
  rw [← listDealsForPortal_iff agree]
  constructor
  · intro same
    exact PortalReply.deals.inj (Except.ok.inj (same .listDeals trivial))
  · intro same request read
    cases request with
    | listDeals =>
        dsimp only [PortalRequest.serve]
        rw [same]
    | onDeal dealId action =>
        cases action with
        | view => exact viewDeal_agree agree user now dealId
        | negotiate payload => exact absurd read id
        | confirm note => exact absurd read id
        | comment payload => exact absurd read id

end Reads

/-- The service deal once it has been assessed: with a risk score, a margin, a comment among the
reps, and another cost of the service. -/
def assessedPortal : PortalSystem FakeOdoo where
  deals :=
    [{ serviceWorld.db with
       deal := { serviceWorld.db.deal with currentRiskScore := some 40, marginPctCache := 12 }
       comments :=
        [{ id := 0, odooSaleOrderLineId := none, authorOdooUserId := 4, authorRole := .salesRep
           body := "The margin is thin", isInternal := true, createdAt := 1 }] }]
  odoo :=
    { serviceOdoo with
      products := AList.insert 107
        { name := "Setup Service", categoryId := 2, type := "SERVICE"
          standardPrice := 95000, listPrice := 100000 } ∅ }
  keyed := List.nodup_singleton _

theorem assessedPortal_costs : servicePortal.odoo.AgreeButCosts assessedPortal.odoo := by
  refine ⟨fun id => ?_, fun _ => rfl⟩
  by_cases same : id = 107
  · rw [same]
    rfl
  · unfold servicePortal assessedPortal serviceOdoo
    dsimp only
    rw [AList.lookup_insert_ne same, AList.lookup_insert_ne same]

theorem assessedPortal_agrees :
    ReadsAgree fakeOdooGateway { partnerId := 1 } 1 servicePortal assessedPortal := by
  refine (portalReads_iff ⟨by decide +kernel, assessedPortal_costs.sameOrders⟩ { partnerId := 1 }
    1).mpr ?_
  rintro db mem db' mem' - -
  rw [List.mem_singleton.mp mem, List.mem_singleton.mp mem']

/-- The service deal waiting for its manager. -/
def pendingPortal : PortalSystem FakeOdoo where
  deals :=
    [{ serviceWorld.db with
       deal := { serviceWorld.db.deal with approvalState := .pendingManager } }]
  odoo := serviceOdoo
  keyed := List.nodup_singleton _

/-- Its customer can tell from the list. -/
theorem pendingPortal_shows :
    AgreeButInternals fakeOdooGateway servicePortal pendingPortal ∧
      ¬ ReadsAgree fakeOdooGateway { partnerId := 1 } 1 servicePortal pendingPortal := by
  refine ⟨⟨by decide +kernel, fun _ => rfl⟩, fun agree => ?_⟩
  exact absurd (agree .listDeals trivial) (by decide +kernel)

end DealFlow
