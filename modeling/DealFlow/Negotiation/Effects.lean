import DealFlow.Governance.ServiceFrame
import DealFlow.Odoo.Fake

/-!
# What an accepted change does to an order

A change of a negotiation acts on one line, on every line, or adds one (`LineEffect`); which it is
shows on the change alone.  `LineEffect.onFake` is what becomes of the lines of the order in the
in-memory gateway.
-/

namespace DealFlow

inductive LineEffect
  | nothing
  | line (c : LineChange)
  | every (discount : ℚ)
  | add (productId : ℤ)
  deriving DecidableEq

/-- The effect of a change, by its field, its line and its value. -/
def NegotiationChange.effect (chg : NegotiationChange) : LineEffect :=
  match chg.fieldName, nonZero chg.odooSaleOrderLineId, chg.requestedValue with
  | .productUomQty, some lineId, some value => .line { lineId, qty := some value }
  | .removeLine, some lineId, _ => .line { lineId, qty := some 0 }
  | .addProduct, _, some value => .add (truncDec value)
  | .discount, some lineId, some value => .line { lineId, discount := some value }
  | .discount, none, some value => .every value
  | _, _, _ => .nothing

/-- The calls that carry an effect out. -/
def LineEffect.carryOut {σ : Type} (gateway : OdooGateway σ) (orderId : ℤ) :
    LineEffect → OdooCall σ Unit
  | .nothing => fun s => (.ok (), s)
  | .line c => gateway.applyLineChanges orderId [c]
  | .every discount => fun s =>
      match gateway.getSaleOrder orderId s with
      | (.error e, s') => (.error e, s')
      | (.ok raw, s') =>
          if raw.lines = [] then (.ok (), s')
          else
            gateway.applyLineChanges orderId
              (raw.lines.map fun l => { lineId := l.id, discount := some discount }) s'
  | .add productId => fun s =>
      match gateway.addLine orderId productId 1 0 s with
      | (.error e, s') => (.error e, s')
      | (.ok _, s') => (.ok (), s')

theorem applyChange_eq {σ : Type} (gateway : OdooGateway σ) (orderId : ℤ)
    (chg : NegotiationChange) :
    applyChange gateway orderId chg = chg.effect.carryOut gateway orderId := by
  funext s
  unfold applyChange NegotiationChange.effect
  cases chg.fieldName <;> cases nonZero chg.odooSaleOrderLineId <;> cases chg.requestedValue <;> rfl

theorem nonZero_some {id : Option ℤ} {lineId : ℤ} (named : nonZero id = some lineId) :
    lineId ≠ 0 :=
  of_decide_eq_true (Option.filter_eq_some_iff.mp named).2

/-- An effect on one line names it and has a value. -/
def LineEffect.WellFormed (effect : LineEffect) : Prop :=
  ∀ c, effect = .line c → c.lineId ≠ 0 ∧ (c.qty.isSome || c.discount.isSome) = true

theorem NegotiationChange.effect_wellFormed (chg : NegotiationChange) :
    chg.effect.WellFormed := by
  intro c line
  unfold NegotiationChange.effect at line
  split at line
  · next named _ =>
      cases line
      exact ⟨nonZero_some named, rfl⟩
  · next named =>
      cases line
      exact ⟨nonZero_some named, rfl⟩
  · cases line
  · next named _ =>
      cases line
      exact ⟨nonZero_some named, rfl⟩
  · cases line
  · cases line

/-! ## A request -/

/-- A request records one change at most. -/
theorem PortalNegotiationSubmit.change_cases (payload : PortalNegotiationSubmit) :
    payload.change = [] ∨ ∃ chg, payload.change = [chg] := by
  unfold PortalNegotiationSubmit.change
  split
  · exact .inr ⟨_, rfl⟩
  · split
    · exact .inr ⟨_, rfl⟩
    · split
      · exact .inr ⟨_, rfl⟩
      · split
        · exact .inr ⟨_, rfl⟩
        · exact .inl rfl

/-- What a request does to the order once it is accepted. -/
def PortalNegotiationSubmit.effect (payload : PortalNegotiationSubmit) : LineEffect :=
  (payload.change.head?.map (·.effect)).getD .nothing

theorem PortalNegotiationSubmit.effect_wellFormed (payload : PortalNegotiationSubmit) :
    payload.effect.WellFormed := by
  unfold PortalNegotiationSubmit.effect
  rcases payload.change_cases with none | ⟨chg, one⟩
  · rw [none]
    intro c line
    cases line
  · rw [one]
    exact chg.effect_wellFormed

theorem applyChanges_submitted {σ : Type} (gateway : OdooGateway σ) (orderId : ℤ)
    (payload : PortalNegotiationSubmit) (s : σ) :
    applyChanges gateway orderId payload.change s = payload.effect.carryOut gateway orderId s := by
  unfold PortalNegotiationSubmit.effect
  rcases payload.change_cases with none | ⟨chg, one⟩
  · rw [none]
    rfl
  · rw [one]
    dsimp only [List.head?, Option.map, Option.getD]
    rw [← applyChange_eq]
    unfold applyChanges applyChanges
    rcases applyChange gateway orderId chg s with ⟨answer, s'⟩
    cases answer with
    | error e => rfl
    | ok _ => rfl

/-! ## The in-memory gateway -/

/-- The lines of an order. -/
def FakeOdoo.linesOf (s : FakeOdoo) (orderId : ℤ) : List FakeLine :=
  ((s.orders.lookup orderId).map (·.lines)).getD []

theorem FakeOdoo.linesOf_found {s : FakeOdoo} {orderId : ℤ} {order : FakeOrder}
    (found : s.orders.lookup orderId = some order) : s.linesOf orderId = order.lines := by
  unfold FakeOdoo.linesOf
  rw [found]
  rfl

theorem FakeOdoo.linesOf_absent {s : FakeOdoo} {orderId : ℤ}
    (absent : s.orders.lookup orderId = none) : s.linesOf orderId = [] := by
  unfold FakeOdoo.linesOf
  rw [absent]
  rfl

/-- The line a new line of a product is. -/
def FakeOdoo.newLine (s : FakeOdoo) (productId : ℤ) (prod : FakeProduct) : FakeLine :=
  { id := s.lineSeq + 1
    productId
    qty := 1
    priceUnit := prod.listPrice
    discountPct := 0
    taxRatePct := if prod.type = "SERVICE" then 18 else 0 }

/-- What becomes of the lines of an order. -/
def LineEffect.onFake (s : FakeOdoo) (lines : List FakeLine) : LineEffect → List FakeLine
  | .nothing => lines
  | .line c => FakeOdoo.changeLine lines c
  | .every discount =>
      match s.rawLines lines with
      | .error _ => lines
      | .ok _ => lines.map fun l => { l with discountPct := discount }
  | .add productId =>
      match s.products.lookup productId with
      | none => lines
      | some prod => lines ++ [s.newLine productId prod]

/-- A read order has the lines it is kept with, by id. -/
theorem FakeOdoo.rawLines_ids {s : FakeOdoo} {lines : List FakeLine} {raw : List RawOrderLine}
    (read : s.rawLines lines = .ok raw) : raw.map (·.id) = lines.map (·.id) := by
  induction lines generalizing raw with
  | nil =>
      cases read
      rfl
  | cons l ls ih =>
      unfold FakeOdoo.rawLines at read
      cases product : s.product l.productId with
      | error e =>
          rw [product] at read
          cases read
      | ok prod =>
          rw [product] at read
          dsimp only at read
          cases rest : s.rawLines ls with
          | error e =>
              rw [rest] at read
              cases read
          | ok raws =>
              rw [rest] at read
              cases read
              rw [List.map_cons, List.map_cons, ih rest]
              rfl

/-- One discount for some line ids. -/
theorem foldl_changeLine_discount (ids : List ℤ) (discount : ℚ) (lines : List FakeLine) :
    (ids.map fun id => ({ lineId := id, discount := some discount } : LineChange)).foldl
        FakeOdoo.changeLine lines =
      lines.map fun l => if l.id ∈ ids then { l with discountPct := discount } else l := by
  induction ids generalizing lines with
  | nil => simp
  | cons id ids ih =>
      rw [List.map_cons, List.foldl_cons, ih]
      unfold FakeOdoo.changeLine
      rw [List.map_map]
      refine List.map_congr_left fun l _ => ?_
      rw [Function.comp_apply]
      by_cases same : l.id = id
      · rw [if_pos same]
        simp [same]
      · rw [if_neg same]
        simp [same]

theorem FakeOdoo.onOrder_lookup {s : FakeOdoo} {orderId : ℤ} {order : FakeOrder}
    (found : s.orders.lookup orderId = some order) (f : FakeOrder → FakeOrder) (id : ℤ) :
    (FakeOdoo.onOrder orderId f s).2.orders.lookup id =
      if id = orderId then some (f order) else s.orders.lookup id := by
  unfold FakeOdoo.onOrder
  rw [found]
  dsimp only
  by_cases same : id = orderId
  · rw [if_pos same, same, AList.lookup_insert]
  · rw [if_neg same, AList.lookup_insert_ne same]

theorem fakeOdooGateway_sets_lines (id : ℤ) (orderId : ℤ) (approvalState : String)
    (riskScore : ℚ) (locked : Bool) :
    Keeps (fun s : FakeOdoo => s.linesOf id)
      (fakeOdooGateway.setGovernance orderId approvalState riskScore locked) := by
  intro s
  change FakeOdoo.linesOf (FakeOdoo.onOrder orderId _ s).2 id = s.linesOf id
  unfold FakeOdoo.linesOf
  cases found : s.orders.lookup orderId with
  | none =>
      unfold FakeOdoo.onOrder
      rw [found]
  | some order =>
      rw [FakeOdoo.onOrder_lookup found]
      split
      · next own =>
          rw [own, found]
          rfl
      · rfl

/-- The orders after an effect. -/
theorem LineEffect.carryOut_fake {s : FakeOdoo} {orderId : ℤ} {order : FakeOrder}
    (found : s.orders.lookup orderId = some order) (effect : LineEffect) (id : ℤ) :
    (effect.carryOut fakeOdooGateway orderId s).2.orders.lookup id =
      if id = orderId then some { order with lines := effect.onFake s order.lines }
      else s.orders.lookup id := by
  have same : s.orders.lookup id = if id = orderId then some { order with lines := order.lines }
      else s.orders.lookup id := by
    split
    · next own => rw [own, found]
    · rfl
  cases effect with
  | nothing => exact same
  | line c => exact FakeOdoo.onOrder_lookup found _ id
  | every discount =>
      dsimp only [LineEffect.carryOut, LineEffect.onFake, fakeOdooGateway]
      unfold FakeOdoo.getSaleOrder
      rw [found]
      dsimp only
      cases lines : s.rawLines order.lines with
      | error e => exact same
      | ok raw =>
          have ids := FakeOdoo.rawLines_ids lines
          dsimp only
          by_cases empty : raw = []
          · have none : order.lines = [] := by
              rw [empty, List.map_nil] at ids
              exact List.map_eq_nil_iff.mp ids.symm
            rw [if_pos empty, none, List.map_nil, ← none]
            exact same
          · rw [if_neg empty]
            refine (FakeOdoo.onOrder_lookup found _ id).trans ?_
            have changes : (raw.map fun l =>
                ({ lineId := l.id, discount := some discount } : LineChange)) =
                (order.lines.map (·.id)).map fun id =>
                  { lineId := id, discount := some discount } := by
              rw [← ids, List.map_map]
              rfl
            rw [changes, foldl_changeLine_discount]
            have all : order.lines.map (fun l =>
                if l.id ∈ order.lines.map (·.id) then { l with discountPct := discount } else l) =
                order.lines.map fun l => { l with discountPct := discount } :=
              List.map_congr_left fun l mem => if_pos (List.mem_map_of_mem mem)
            rw [all]
  | add productId =>
      dsimp only [LineEffect.carryOut, LineEffect.onFake, fakeOdooGateway]
      unfold FakeOdoo.addLine FakeOdoo.product
      rw [found]
      dsimp only
      cases s.products.lookup productId with
      | none => exact same
      | some prod =>
          dsimp only
          by_cases own : id = orderId
          · rw [if_pos own, own, AList.lookup_insert]
            rfl
          · rw [if_neg own, AList.lookup_insert_ne own]

end DealFlow
