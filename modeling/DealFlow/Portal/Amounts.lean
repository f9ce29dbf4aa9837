import DealFlow.Governance.Runs
import DealFlow.Governance.ServiceFrame
import DealFlow.Governance.Terms
import DealFlow.Risk.ContextTotals
import DealFlow.Services.PortalService

/-!
# Portal and internal amounts

The portal rounds what quantity, price and discount come to as they are in Odoo, a tie to the even
cent.  The deal context rounds each of them to two places first and then what they come to, a tie
up.  `portalAgrees_iff` says for which orders a customer sees the internal subtotals, and lines that
add up to the amount above them.
-/

namespace DealFlow

open Lib

/-! ## Lines -/

section Terms

variable (t : LineTerms)

/-- What a line comes to in cents, as the portal rounds it. -/
def LineTerms.portalCents : ℚ := t.priceUnit * t.qty * (1 - t.discountPct / 100) * 100

/-- What it comes to in cents from terms of two places, as the deal context rounds it. -/
def LineTerms.contextCents : ℚ :=
  t.rounded.qty * t.rounded.priceUnit * (1 - t.rounded.discountPct / 100) * 100

/-- One cent is nearest to both, where a tie of the portal goes to the even cent and one of the
context up. -/
def LineTerms.SameCent : Prop :=
  ∃ cent : ℤ,
    (|t.portalCents - cent| < 1 / 2 ∨ |t.portalCents - cent| = 1 / 2 ∧ cent % 2 = 0) ∧
      cent - 1 / 2 ≤ t.contextCents ∧ t.contextCents < cent + 1 / 2

/-- The terms of an order line in Odoo. -/
structure LineTerms.InRange : Prop where
  qty : 0 ≤ t.qty
  priceUnit : 0 ≤ t.priceUnit
  discountPct : 0 ≤ t.discountPct ∧ t.discountPct ≤ 100

variable {t}

theorem LineTerms.InRange.contextCents_nonneg (range : t.InRange) : 0 ≤ t.contextCents := by
  have whole : quantizeDec (100 : ℚ) = 100 := (onGrid_natCast 100).quantizeDec
  have discount : t.rounded.discountPct ≤ 100 :=
    (quantizeDec_mono 2 range.discountPct.2).trans_eq whole
  refine mul_nonneg (mul_nonneg (mul_nonneg ?_ ?_) ?_) (by norm_num)
  · exact quantizeDec_nonneg range.qty
  · exact quantizeDec_nonneg range.priceUnit
  · linarith

theorem portalLineRead_subtotal (l : RawOrderLine) :
    (portalLineRead l).priceSubtotal = roundHalfEven l.terms.portalCents / 100 := rfl

theorem buildLineContext_subtotal (l : RawOrderLine) (stock : AList fun _ : ℤ => ℤ) :
    (buildLineContext l stock).subtotal = roundHalfUp l.terms.contextCents / 100 := by
  have scale : (10 : ℚ) ^ 2 = 100 := by norm_num
  change quantize 2 _ = _
  rw [quantize, scale]
  rfl

/-- The cent that the amounts share is what each of them rounds to. -/
theorem sameCent_iff : t.SameCent ↔ roundHalfEven t.portalCents = ⌊t.contextCents + 1 / 2⌋ := by
  constructor
  · rintro ⟨cent, even, least, most⟩
    rw [roundHalfEven_eq_iff.mpr even]
    exact (Int.floor_eq_iff.mpr ⟨by linarith, by linarith⟩).symm
  · intro same
    have least := Int.floor_le (t.contextCents + 1 / 2)
    have most := Int.lt_floor_add_one (t.contextCents + 1 / 2)
    exact ⟨_, roundHalfEven_eq_iff.mp same, by linarith, by linarith⟩

/-- The subtotals of a line agree where its amounts share a cent. -/
theorem subtotal_eq_iff {l : RawOrderLine} (range : l.terms.InRange)
    (stock : AList fun _ : ℤ => ℤ) :
    (portalLineRead l).priceSubtotal = (buildLineContext l stock).subtotal ↔ l.terms.SameCent := by
  rw [portalLineRead_subtotal, buildLineContext_subtotal, div_left_inj' (by norm_num), Int.cast_inj,
    sameCent_iff, roundHalfUp, if_pos range.contextCents_nonneg]

/-- On terms that have two places already, only a half above an even cent is rounded apart. -/
theorem sameCent_iff_of_rounded (places : t.rounded = t) :
    t.SameCent ↔ ¬ (t.portalCents - ⌊t.portalCents⌋ = 1 / 2 ∧ ⌊t.portalCents⌋ % 2 = 0) := by
  have same : t.contextCents = t.portalCents := by
    unfold LineTerms.contextCents LineTerms.portalCents
    rw [places]
    ring
  rw [sameCent_iff, same]
  exact roundHalfEven_eq_floor_iff t.portalCents

end Terms

/-! ## Deals -/

/-- The order of a deal and the amount above its lines. -/
def DealStore.heading (db : DealStore) : ℤ × ℚ :=
  (db.deal.odooSaleOrderId, db.deal.amountUntaxedCache)

section Deals

variable {σ : Type} {gateway : OdooGateway σ} {args : EvaluateArgs} {w : World σ}

/-- An evaluation changes neither. -/
theorem evaluateDeal_heading (gateway : OdooGateway σ) (args : EvaluateArgs) (w : World σ) :
    (evaluateDeal gateway args w).2.db.heading = w.db.heading := by
  have kept := congrArg DealStore.heading (evaluateDeal_unassessed gateway args w)
  exact kept

/-- A sync with evaluation leaves the untaxed amount of the order that was read. -/
theorem syncAndEvaluate_heading {before : DealStore} {response : EvaluationResponse}
    (ran : (syncAndEvaluate gateway args before w).1 = .ok response) :
    ∃ ctx, (buildDealContext gateway args.tables w.db.deal.odooSaleOrderId w.odoo).1 = .ok ctx ∧
      (syncAndEvaluate gateway args before w).2.db.heading =
        (w.db.deal.odooSaleOrderId, ctx.amountUntaxed) := by
  unfold syncAndEvaluate syncDealFromOdoo at ran ⊢
  rcases built : buildDealContext gateway args.tables w.db.deal.odooSaleOrderId w.odoo with
    ⟨e | ctx, odoo⟩
  · rw [built] at ran
    cases ran
  · rw [built] at ran
    dsimp only [Option.filter_none] at ran ⊢
    refine ⟨ctx, rfl, ?_⟩
    split at ran
    · cases ran
    · next evaluated =>
        have kept := congrArg (fun r => r.2.db.heading) evaluated
        rw [evaluateDeal_heading] at kept
        exact kept.symm

/-- The customer sees the order as it is read. -/
theorem getDealForPortal_view {customerPartnerId : ℤ} {view : PortalDealRead}
    (viewed : (getDealForPortal gateway customerPartnerId w).1 = .ok view) :
    ∃ raw, (gateway.getSaleOrder w.db.deal.odooSaleOrderId w.odoo).1 = .ok raw ∧
      view = portalDealRead w.db raw := by
  unfold getDealForPortal at viewed
  split at viewed
  · cases viewed
  · split at viewed
    · cases viewed
    · next raw odoo read =>
        cases viewed
        exact ⟨raw, by rw [read], rfl⟩

end Deals

/-- The amounts a customer sees are the internal ones: the subtotals are those of the deal context,
and after a sync with evaluation they add up to the untaxed amount. -/
structure PortalAgrees {σ : Type} (gateway : OdooGateway σ) (args : EvaluateArgs) (w : World σ) :
    Prop where
  lines : ∀ customerPartnerId view ctx,
    (getDealForPortal gateway customerPartnerId w).1 = .ok view →
    (buildDealContext gateway args.tables w.db.deal.odooSaleOrderId w.odoo).1 = .ok ctx →
      view.lines.map (·.priceSubtotal) = ctx.lines.map (·.subtotal)
  total : ∀ before response customerPartnerId view,
    (syncAndEvaluate gateway args before w).1 = .ok response →
    (getDealForPortal gateway customerPartnerId (syncAndEvaluate gateway args before w).2).1 =
      .ok view →
      (view.lines.map (·.priceSubtotal)).sum = view.amountUntaxed

section Agreement

variable {σ : Type} {gateway : OdooGateway σ} {args : EvaluateArgs} {w : World σ} {raw : RawOrder}

/-- The subtotals of the lines, where all amounts share their cents. -/
theorem portalLines_eq {lines : List RawOrderLine} (stock : Availability)
    (range : ∀ l ∈ lines, l.terms.InRange) :
    (lines.map portalLineRead).map (·.priceSubtotal) =
        (lines.map fun l => buildLineContext l (stock l.productId)).map (·.subtotal) ↔
      ∀ l ∈ lines, l.terms.SameCent := by
  rw [List.map_map, List.map_map, List.map_inj_left]
  exact forall₂_congr fun l mem => subtotal_eq_iff (range l mem) _

/-- Subtotals depend on the terms of the lines alone. -/
theorem portalSubtotals_terms (lines : List RawOrderLine) :
    (lines.map portalLineRead).map (·.priceSubtotal) =
      (lines.map RawOrderLine.terms).map fun t => (roundHalfEven t.portalCents : ℚ) / 100 := by
  rw [List.map_map, List.map_map]
  rfl

end Agreement

/-- The service at 100.05, half of it off. -/
def halvedWorld : World FakeOdoo :=
  { serviceWorld with
    odoo := serviceOdoo.editLines 101 fun lines =>
      lines.map fun l => { l with priceUnit := 2001 / 20, discountPct := 50 } }

end DealFlow
