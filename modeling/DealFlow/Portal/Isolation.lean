import DealFlow.Api.Portal
import DealFlow.Governance.Runs

/-!
# The portal and the deals of others

Each endpoint of the portal guards the deal by itself: the services behind the view, the negotiation
and the confirmation compare the customer with the deal's partner, and the list filters by it.  The
service behind the comments does not.
So what a customer asks about a deal of another one fails or omits the deal and leaves it as it was,
exactly when it is not a comment (`isolated_iff`).
-/

namespace DealFlow

open Lib

/-- The request is about the deal; a list is about every deal. -/
def PortalRequest.About (dealId : ℕ) : PortalRequest → Prop
  | .listDeals => True
  | .onDeal named _ => named = dealId

def PortalRequest.IsComment : PortalRequest → Prop
  | .onDeal _ (.comment _) => True
  | .onDeal _ (.view) | .onDeal _ (.negotiate _) | .onDeal _ (.confirm _) | .listDeals => False

/-- A reply that says nothing of the deal is a list without it. -/
def PortalReply.Omits (dealId : ℕ) : PortalReply → Prop
  | .deals entries => ∀ entry ∈ entries, entry.id ≠ dealId
  | .deal _ | .negotiation _ | .comment _ => False

section Isolation

variable {σ : Type} (gateway : OdooGateway σ) (user : PortalUser) (now : Timestamp)

/-- The request fails or omits the deal, and leaves all its rows and the Odoo side as they were. -/
structure Isolated (request : PortalRequest) (s : PortalSystem σ) (dealId : ℕ) : Prop where
  silent : ∀ reply, (request.serve gateway user now s).1 = .ok reply → reply.Omits dealId
  untouched : (request.serve gateway user now s).2.find dealId = s.find dealId
  odoo : (request.serve gateway user now s).2.odoo = s.odoo

/-- The list has the customer's own deals. -/
theorem listDealsForPortal_own {deals : List DealStore} {customerPartnerId : ℤ}
    {entry : PortalDealEntry} (mem : entry ∈ listDealsForPortal customerPartnerId deals) :
    ∃ db ∈ deals, db.deal.odooPartnerId = customerPartnerId ∧ entry = portalDealEntry db.deal := by
  unfold listDealsForPortal at mem
  rcases List.mem_map.mp mem with ⟨db, sorted, rfl⟩
  obtain ⟨stored, own⟩ := List.mem_filter.mp ((List.mem_insertionSort _).mp sorted)
  exact ⟨db, stored, of_decide_eq_true own, rfl⟩

/-- Whatever a customer asks of a deal of another one, but for a comment, it is not found. -/
theorem PortalAction.serve_foreign {w : World σ}
    (foreign : w.db.deal.odooPartnerId ≠ user.partnerId) {action : PortalAction}
    (silent : ∀ payload, action ≠ .comment payload) :
    action.serve gateway user now w =
      (.error (.dealflow (entityNotFoundError "Deal" (toString w.db.deal.id))), w) := by
  cases action with
  | view =>
      dsimp only [PortalAction.serve]
      unfold getDealForPortal
      rw [if_pos foreign]
      rfl
  | negotiate payload =>
      dsimp only [PortalAction.serve]
      unfold submitNegotiationRequest
      rw [if_pos foreign]
      rfl
  | confirm note =>
      dsimp only [PortalAction.serve]
      unfold confirmDealByCustomer
      rw [if_pos foreign]
      rfl
  | comment payload => exact absurd rfl (silent payload)

/-- The system refuses such a request and stays as it is. -/
theorem PortalRequest.serve_foreign {s : PortalSystem σ} {db : DealStore} (stored : db ∈ s.deals)
    (foreign : db.deal.odooPartnerId ≠ user.partnerId) {action : PortalAction}
    (silent : ∀ payload, action ≠ .comment payload) :
    PortalRequest.serve gateway user now (.onDeal db.deal.id action) s =
      (.error (.dealflow (entityNotFoundError "Deal" (toString db.deal.id))), s) := by
  have refused := PortalAction.serve_foreign gateway user now (w := { db, odoo := s.odoo }) foreign
    silent
  dsimp only [PortalRequest.serve]
  rw [PortalSystem.find_mem stored]
  dsimp only
  rw [refused]
  exact Prod.ext rfl (PortalSystem.store_found stored)

/-- A comment is stored, whoever it is from. -/
theorem PortalRequest.serve_comment {s : PortalSystem σ} {db : DealStore} (stored : db ∈ s.deals)
    (payload : PortalCommentCreate) :
    (PortalRequest.serve gateway user now (.onDeal db.deal.id (.comment payload)) s).2.find
        db.deal.id ≠ s.find db.deal.id := by
  have found := PortalSystem.find_mem stored
  have after := PortalSystem.find_store (s := s)
    (w := ((PortalAction.comment payload).serve gateway user now { db, odoo := s.odoo }).2) found
  dsimp only [PortalRequest.serve]
  rw [found]
  intro same
  have comments := congrArg (fun rows => rows.map fun db => db.comments.length)
    (after.symm.trans same)
  dsimp only [PortalAction.serve, addPortalComment, Option.map_some] at comments
  rw [List.length_append, List.length_singleton, Option.some.injEq] at comments
  omega

/-- The list of a customer omits the deals of others. -/
theorem listDealsForPortal_omits {s : PortalSystem σ} {db : DealStore} (stored : db ∈ s.deals)
    (foreign : db.deal.odooPartnerId ≠ user.partnerId) :
    (PortalReply.deals (listDealsForPortal user.partnerId s.deals)).Omits db.deal.id := by
  intro entry mem same
  obtain ⟨other, mem', own, rfl⟩ := listDealsForPortal_own mem
  rw [PortalSystem.eq_of_id mem' stored same] at own
  exact foreign own

/-- The portal keeps a customer from a deal of another one exactly in what is not a comment. -/
theorem isolated_iff {s : PortalSystem σ} {db : DealStore} (stored : db ∈ s.deals)
    (foreign : db.deal.odooPartnerId ≠ user.partnerId) (request : PortalRequest)
    (about : request.About db.deal.id) :
    Isolated gateway user now request s db.deal.id ↔ ¬ request.IsComment := by
  cases request with
  | listDeals =>
      refine iff_of_true ⟨?_, rfl, rfl⟩ id
      rintro reply ⟨⟩
      exact listDealsForPortal_omits user stored foreign
  | onDeal named action =>
      cases about
      have kept : (∀ payload, action ≠ .comment payload) →
          Isolated gateway user now (.onDeal db.deal.id action) s db.deal.id := by
        intro silent
        have refused := PortalRequest.serve_foreign gateway user now stored foreign silent
        refine ⟨fun reply ok => ?_, ?_, ?_⟩
        · rw [refused] at ok
          cases ok
        · rw [refused]
        · rw [refused]
      cases action with
      | view => exact iff_of_true (kept (by rintro payload ⟨⟩)) id
      | negotiate payload => exact iff_of_true (kept (by rintro payload ⟨⟩)) id
      | confirm note => exact iff_of_true (kept (by rintro payload ⟨⟩)) id
      | comment payload =>
          exact iff_of_false
            (fun isolated =>
              PortalRequest.serve_comment gateway user now stored payload isolated.untouched)
            (not_not.mpr trivial)

end Isolation

/-- The service deal alone, of the customer 1. -/
def servicePortal : PortalSystem FakeOdoo where
  deals := [serviceWorld.db]
  odoo := serviceOdoo
  keyed := List.nodup_singleton _

theorem strangersView_isolated :
    Isolated fakeOdooGateway { partnerId := 2 } 1 (.onDeal 1 .view) servicePortal 1 :=
  (isolated_iff fakeOdooGateway { partnerId := 2 } 1 (s := servicePortal)
    (List.mem_singleton_self serviceWorld.db) (by decide) (.onDeal 1 .view) rfl).mpr id

/-- The customer 2 comments on it. -/
theorem strangersComment_stored :
    ¬ Isolated fakeOdooGateway { partnerId := 2 } 1
      (.onDeal 1 (.comment { body := "Hello", written := by decide })) servicePortal 1 := by
  intro isolated
  exact absurd isolated.untouched (by decide +kernel)

end DealFlow
