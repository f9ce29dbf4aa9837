import DealFlow.Services.PortalService

/-!
# The portal endpoints

`app/api/v1/endpoints/portal.py`, on all deals of the store: a customer who has signed in lists the
deals, or views one, negotiates on it, confirms it or comments on it.
-/

namespace DealFlow

/-- The deals, each with its own id, and the Odoo side. -/
structure PortalSystem (σ : Type) where
  deals : List DealStore
  odoo : σ
  keyed : (deals.map fun db => db.deal.id).Nodup

/-- Who the token of a request stands for. -/
structure PortalUser where
  partnerId : ℤ
  odooUserId : ℤ := 0

structure PortalCommentCreate where
  body : String
  written : 1 ≤ body.length
  odooSaleOrderLineId : Option ℤ := none
  isInternal : Bool := false

/-- What a customer asks of one deal. -/
inductive PortalAction
  | view
  | negotiate (payload : PortalNegotiationSubmit)
  | confirm (comment : Option String)
  | comment (payload : PortalCommentCreate)

inductive PortalRequest
  | listDeals
  | onDeal (dealId : ℕ) (action : PortalAction)

inductive PortalReply
  | deals (entries : List PortalDealEntry)
  | deal (read : PortalDealRead)
  | negotiation (read : PortalNegotiationRead)
  | comment (read : PortalCommentPublicRead)
  deriving DecidableEq, Repr

namespace PortalSystem

variable {σ : Type}

def find (s : PortalSystem σ) (dealId : ℕ) : Option DealStore :=
  s.deals.find? fun db => db.deal.id = dealId

/-- The rows of one deal take the place of those with its id. -/
def store (s : PortalSystem σ) (w : World σ) : PortalSystem σ where
  deals := s.deals.map fun db => if db.deal.id = w.db.deal.id then w.db else db
  odoo := w.odoo
  keyed := by
    have same : ((s.deals.map fun db => if db.deal.id = w.db.deal.id then w.db else db).map
        fun db => db.deal.id) = s.deals.map fun db => db.deal.id := by
      rw [List.map_map]
      refine List.map_congr_left fun db _ => ?_
      rw [Function.comp_apply]
      split
      · next named => exact named.symm
      · rfl
    rw [same]
    exact s.keyed

end PortalSystem

section Serve

variable {σ : Type} (gateway : OdooGateway σ) (user : PortalUser) (now : Timestamp)

/-- The endpoint of an action, on the deal it found.  A comment is always public. -/
def PortalAction.serve (action : PortalAction) (w : World σ) :
    Except ServiceError PortalReply × World σ :=
  match action with
  | .view =>
      let r := getDealForPortal gateway user.partnerId w
      (r.1.map .deal, r.2)
  | .negotiate payload =>
      let r := submitNegotiationRequest user.partnerId user.odooUserId payload now w.db
      ((r.1.map fun req => .negotiation (portalNegotiationRead req)).mapError .dealflow,
        { w with db := r.2 })
  | .confirm note =>
      let r := confirmDealByCustomer gateway user.partnerId note now w
      (r.1.map .deal, r.2)
  | .comment payload =>
      let stored := newPortalComment payload.odooSaleOrderLineId user.odooUserId .customer
        payload.body false now w.db
      (.ok (.comment (portalCommentRead stored)),
        { w with
          db := addPortalComment payload.odooSaleOrderLineId user.odooUserId .customer payload.body
            false now w.db })

def PortalRequest.serve (request : PortalRequest) (s : PortalSystem σ) :
    Except ServiceError PortalReply × PortalSystem σ :=
  match request with
  | .listDeals => (.ok (.deals (listDealsForPortal user.partnerId s.deals)), s)
  | .onDeal dealId action =>
      match s.find dealId with
      | none => (.error (.dealflow (entityNotFoundError "Deal" (toString dealId))), s)
      | some db =>
          let r := action.serve gateway user now { db, odoo := s.odoo }
          (r.1, s.store r.2)

end Serve

/-! ## Finding and storing -/

namespace PortalSystem

variable {σ : Type} {s : PortalSystem σ}

@[ext] theorem ext {s t : PortalSystem σ} (deals : s.deals = t.deals) (odoo : s.odoo = t.odoo) :
    s = t := by
  rcases s with ⟨sDeals, sOdoo, sKeyed⟩
  rcases t with ⟨tDeals, tOdoo, tKeyed⟩
  cases deals
  cases odoo
  rfl

theorem eq_of_id {db db' : DealStore} (mem : db ∈ s.deals) (mem' : db' ∈ s.deals)
    (same : db.deal.id = db'.deal.id) : db = db' :=
  List.inj_on_of_nodup_map s.keyed mem mem' same

theorem find_mem {db : DealStore} (mem : db ∈ s.deals) : s.find db.deal.id = some db := by
  unfold find
  cases found : s.deals.find? fun other => other.deal.id = db.deal.id with
  | none =>
      have absent := List.find?_eq_none.mp found db mem
      exact absurd (decide_eq_true rfl) absent
  | some other =>
      have named := List.find?_some found
      rw [decide_eq_true_eq] at named
      rw [eq_of_id (List.mem_of_find?_eq_some found) mem named]

theorem find_some {dealId : ℕ} {db : DealStore} (found : s.find dealId = some db) :
    db ∈ s.deals ∧ db.deal.id = dealId := by
  unfold find at found
  have named := List.find?_some found
  rw [decide_eq_true_eq] at named
  exact ⟨List.mem_of_find?_eq_some found, named⟩

/-- Storing rows as they were found changes nothing. -/
theorem store_found {db : DealStore} (mem : db ∈ s.deals) :
    s.store { db, odoo := s.odoo } = s := by
  refine ext ?_ rfl
  refine (List.map_congr_left fun other mem' => ?_).trans (List.map_id' s.deals)
  split
  · next named => exact eq_of_id mem mem' named.symm
  · rfl

theorem find_stored (w : World σ) (dealId : ℕ) :
    (s.store w).find dealId =
      (s.find dealId).map fun db => if db.deal.id = w.db.deal.id then w.db else db := by
  unfold find store
  dsimp only
  rw [List.find?_map]
  have named : ((fun db : DealStore => decide (db.deal.id = dealId)) ∘
      fun db => if db.deal.id = w.db.deal.id then w.db else db) =
      fun db => decide (db.deal.id = dealId) := by
    funext db
    rw [Function.comp_apply]
    split
    · next same => rw [same]
    · rfl
  rw [named]

/-- What is stored is found. -/
theorem find_store {w : World σ} {db : DealStore} (found : s.find w.db.deal.id = some db) :
    (s.store w).find w.db.deal.id = some w.db := by
  rw [find_stored, found, Option.map_some, if_pos (find_some found).2]

end PortalSystem

end DealFlow
