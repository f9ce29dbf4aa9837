import DealFlow.Addon.Negotiation
import DealFlow.Lib.Run

/-!
# Calls on negotiations

The writes and the workflow actions on negotiations, as the operations of a run.  The actions write
one record after another without touching its terms, and then its order: what survives these two
survives an action (`action_related`).
-/

namespace DealFlow.Addon

open Lib

inductive NegotiationCall
  | write (ids : List ℕ) (vals : NegotiationVals)
  | underReview (ids : List ℕ)
  | approve (ids : List ℕ) (reviewNote : Option String)
  | reject (ids : List ℕ) (reviewNote : Option String)
  deriving DecidableEq, Repr

structure NegotiationOp where
  env : Env
  call : NegotiationCall
  deriving DecidableEq

section Calls

variable (base : BaseOdoo)

def performNegotiation (op : NegotiationOp) (db : Db) : Except OdooException Db :=
  match op.call with
  | .write ids vals => writeNegotiations base op.env ids vals db
  | .underReview ids => actionUnderReview base op.env ids db
  | .approve ids reviewNote => actionApprove base op.env ids reviewNote db
  | .reject ids reviewNote => actionReject base op.env ids reviewNote db

def negotiationStep (op : NegotiationOp) (db : Db) : Db :=
  settle db (performNegotiation base op db)

variable {base}

theorem requestedDiscount_of_not_touchesTerms {vals : NegotiationVals}
    (noTerms : vals.touchesTerms = false) : vals.requestedDiscount = none := by
  unfold NegotiationVals.touchesTerms at noTerms
  cases requested : vals.requestedDiscount with
  | none => rfl
  | some discount =>
      rw [requested] at noTerms
      cases noTerms

/-- A preorder that holds across writes of no terms and across writes of an order holds across every
action. -/
theorem action_related {R : Db → Db → Prop} {op : NegotiationOp} (refl : ∀ db, R db db)
    (trans : ∀ a b c, R a b → R b c → R a c)
    (write : ∀ db after ids vals, vals.touchesTerms = false →
      writeNegotiations base op.env ids vals db = .ok after → R db after)
    (govern : ∀ db id state locked, R db (governOrderOf base op.env id state locked db))
    (action : ∀ ids vals, op.call ≠ .write ids vals) (db : Db) :
    R db (negotiationStep base op db) := by
  have decided : ∀ (now after : Db) id status reviewNote state locked,
      (writeNegotiations base op.env [id] (decisionVals op.env status reviewNote) now >>= fun db =>
        Except.ok (governOrderOf base op.env id state locked db)) = .ok after → R now after := by
    intro now after id status reviewNote state locked ok
    obtain ⟨written, wrote, ok⟩ := bind_eq_ok.mp ok
    cases ok
    exact trans _ _ _ (write _ _ _ _ rfl wrote) (govern written id state locked)
  unfold negotiationStep
  cases performed : performNegotiation base op db with
  | error e => exact refl db
  | ok after =>
      change R db after
      unfold performNegotiation at performed
      cases call : op.call with
      | write ids vals => exact absurd call (action ids vals)
      | underReview ids =>
          rw [call] at performed
          exact foldlM_ok (motive := fun _ now => R db now) performed (refl db)
            fun _ _ _ now next wrote ih => trans _ _ _ ih (write now next _ _ rfl wrote)
      | approve ids reviewNote =>
          rw [call] at performed
          obtain ⟨-, loop⟩ := require_bind_eq_ok.mp performed
          refine foldlM_ok (motive := fun _ now => R db now) loop (refl db) ?_
          intro _ id _ now next approved ih
          obtain ⟨-, approved⟩ := require_bind_eq_ok.mp approved
          exact trans _ _ _ ih (decided now next id _ _ _ _ approved)
      | reject ids reviewNote =>
          rw [call] at performed
          refine foldlM_ok (motive := fun _ now => R db now) performed (refl db) ?_
          intro _ id _ now next rejected ih
          exact trans _ _ _ ih (decided now next id _ _ _ _ rejected)

end Calls

/-- An order with a negotiation of ten percent on it. -/
def negotiatedQuote : Db where
  orders := Table.empty.insert { name := "S00001", partner := { id := 3 } }
  lines := Table.empty
  negotiations :=
    Table.empty.insert { saleOrderId := 1, requestedDiscount := 10, submittedAt := 0 }

end DealFlow.Addon
