import DealFlow.Negotiation.Effects
import DealFlow.Governance.Lifecycle
import DealFlow.Governance.LifecycleFrame
import DealFlow.Governance.Terms
import DealFlow.Odoo.LineStore

/-!
# A negotiation and the orders of others

The line id of a negotiation comes from the customer.  The in-memory gateway looks it up among the
lines of the deal's order; the fallback of the XML-RPC gateway writes whatever row has it.

On orders that agree (`Mirrors`) both gateways do the same to the deal's own lines, and an
acceptance changes no line of another order exactly when the line it names is not, or is not changed
by, a line of another order (`ownOrder_iff`).
-/

namespace DealFlow

/-- What becomes of the rows. -/
def LineEffect.onStore (s : LineStore) (orderId : ℤ) : LineEffect → List StoredLine
  | .nothing => s.lines
  | .line c => s.lines.map (·.writeAt c)
  | .every discount =>
      match s.orders.lookup orderId with
      | none => s.lines
      | some _ => s.lines.map fun l => if l.orderId = orderId then { l with discount } else l
  | .add productId =>
      match s.orders.lookup orderId, s.products.lookup productId with
      | some _, some prod =>
          s.lines ++
            [{ id := s.lineSeq + 1, orderId, productId, productUomQty := 1
               priceUnit := prod.listPrice, discount := 0 }]
      | _, _ => s.lines

section Store

/-- A write to a row that is not there leaves the table alone. -/
theorem LineStore.writeLine_lines (c : LineChange) (s : LineStore) :
    (LineStore.writeLine c s).2.lines = s.lines.map (·.writeAt c) := by
  unfold LineStore.writeLine
  split
  · rfl
  · next absent =>
      have untouched : ∀ l ∈ s.lines, l.writeAt c = l := by
        intro l mem
        refine if_neg fun same => absent ?_
        exact List.any_eq_true.mpr ⟨l, mem, by simpa using same⟩
      exact ((List.map_congr_left untouched).trans (List.map_id' _)).symm

/-- One discount for rows that are there. -/
theorem LineStore.applyLineChanges_discount (orderId : ℤ) (discount : ℚ) {ids : List ℤ}
    {s : LineStore} (present : ∀ id ∈ ids, ∃ l ∈ s.lines, l.id = id) :
    (LineStore.applyLineChanges orderId
        (ids.map fun id => { lineId := id, discount := some discount }) s).2.lines =
      s.lines.map fun l => if l.id ∈ ids then { l with discount } else l := by
  induction ids generalizing s with
  | nil => simp [LineStore.applyLineChanges]
  | cons id ids ih =>
      obtain ⟨here, later⟩ := List.forall_mem_cons.mp present
      obtain ⟨row, mem, rfl⟩ := here
      have nonzero : row.id ≠ 0 := (s.handedOut row mem).1.ne'
      have written : LineStore.writeLine { lineId := row.id, discount := some discount } s =
          (.ok (), s.writeRow { lineId := row.id, discount := some discount }) :=
        if_pos (List.any_eq_true.mpr ⟨row, mem, by simp⟩)
      rw [List.map_cons]
      unfold LineStore.applyLineChanges
      rw [if_pos ⟨rfl, nonzero⟩, written]
      dsimp only
      rw [ih]
      · unfold LineStore.writeRow
        dsimp only
        rw [List.map_map]
        refine List.map_congr_left fun l _ => ?_
        rw [Function.comp_apply, StoredLine.writeAt_id]
        unfold StoredLine.writeAt StoredLine.write
        by_cases same : l.id = row.id
        · rw [if_pos same]
          simp [same]
        · rw [if_neg same]
          simp [same]
      · intro id memId
        obtain ⟨l, memL, rfl⟩ := later id memId
        exact ⟨l.writeAt _, List.mem_map_of_mem memL, StoredLine.writeAt_id _ l⟩

/-- The rows after an effect. -/
theorem LineEffect.carryOut_store {effect : LineEffect} (wellFormed : effect.WellFormed)
    (s : LineStore) (orderId : ℤ) :
    (effect.carryOut lineStoreGateway orderId s).2.lines = effect.onStore s orderId := by
  cases effect with
  | nothing => rfl
  | line c =>
      obtain ⟨nonzero, valued⟩ := wellFormed c rfl
      dsimp only [LineEffect.carryOut, LineEffect.onStore, lineStoreGateway]
      unfold LineStore.applyLineChanges
      rw [if_pos ⟨valued, nonzero⟩, ← LineStore.writeLine_lines]
      rcases LineStore.writeLine c s with ⟨answer, s'⟩
      cases answer with
      | error e => rfl
      | ok _ => rfl
  | every discount =>
      dsimp only [LineEffect.carryOut, LineEffect.onStore, lineStoreGateway]
      unfold LineStore.getSaleOrder
      cases s.orders.lookup orderId with
      | none => rfl
      | some order =>
          have own : ∀ l ∈ s.lines,
              l.id ∈ (s.linesOf orderId).map (·.id) ↔ l.orderId = orderId := by
            intro l mem
            constructor
            · intro named
              obtain ⟨l', mem', same⟩ := List.mem_map.mp named
              obtain ⟨memTable, order⟩ := List.mem_filter.mp mem'
              rw [← List.inj_on_of_nodup_map s.keyed memTable mem same]
              exact of_decide_eq_true order
            · intro order
              exact List.mem_map_of_mem (List.mem_filter.mpr ⟨mem, decide_eq_true order⟩)
          have discounted : (LineStore.applyLineChanges orderId
              (((s.linesOf orderId).map (·.id)).map fun id =>
                { lineId := id, discount := some discount }) s).2.lines =
              s.lines.map fun l => if l.orderId = orderId then { l with discount } else l := by
            rw [LineStore.applyLineChanges_discount]
            · exact List.map_congr_left fun l mem => if_congr (own l mem) rfl rfl
            · intro id mem
              obtain ⟨l, memL, rfl⟩ := List.mem_map.mp mem
              exact ⟨l, (List.mem_filter.mp memL).1, rfl⟩
          dsimp only
          split
          · next empty =>
              rw [List.map_eq_nil_iff] at empty
              rw [empty] at discounted
              exact discounted
          · rw [List.map_map]
            rw [List.map_map] at discounted
            exact discounted
  | add productId =>
      dsimp only [LineEffect.carryOut, LineEffect.onStore, lineStoreGateway]
      unfold LineStore.addLine
      cases s.orders.lookup orderId with
      | none => rfl
      | some order =>
          cases s.products.lookup productId with
          | none => rfl
          | some prod => rfl

end Store

/-! ## Orders that agree -/

/-- A line of the in-memory gateway as a row. -/
def FakeLine.stored (orderId : ℤ) (l : FakeLine) : StoredLine :=
  { id := l.id, orderId, productId := l.productId, productUomQty := l.qty
    priceUnit := l.priceUnit, discount := l.discountPct }

/-- The order is the same in both, and so are the products; its own are in the catalogue. -/
structure Mirrors (orderId : ℤ) (s : FakeOdoo) (t : LineStore) : Prop where
  found : (s.orders.lookup orderId).isSome = true
  stored : (t.orders.lookup orderId).isSome = true
  lines : t.linesOf orderId = (s.linesOf orderId).map (·.stored orderId)
  seq : (t.lineSeq : ℤ) = s.lineSeq
  prices : ∀ productId, (t.products.lookup productId).map (·.listPrice) =
    (s.products.lookup productId).map (·.listPrice)
  catalogued : ∀ l ∈ s.linesOf orderId, (s.products.lookup l.productId).isSome = true

/-- No line of another order changes, and the own lines change alike. -/
structure TouchesOwnOrder (orderId : ℤ) (s s' : FakeOdoo) (t t' : LineStore) : Prop where
  others : ∀ id, id ≠ orderId → s'.linesOf id = s.linesOf id
  otherRows : ∀ id, id ≠ orderId → t'.linesOf id = t.linesOf id
  own : t'.linesOf orderId = (s'.linesOf orderId).map (·.stored orderId)

/-- The row an effect names, if it is of another order, already has the values. -/
def SparesOthers (orderId : ℤ) (t : LineStore) (effect : LineEffect) : Prop :=
  ∀ c, effect = .line c → ∀ l ∈ t.lines, l.orderId ≠ orderId → l.id = c.lineId → l.write c = l

section Effect

variable {orderId : ℤ} {s : FakeOdoo} {t : LineStore}

theorem FakeOdoo.rawLines_catalogued {lines : List FakeLine}
    (catalogued : ∀ l ∈ lines, (s.products.lookup l.productId).isSome = true) :
    ∃ raw, s.rawLines lines = .ok raw := by
  induction lines with
  | nil => exact ⟨[], rfl⟩
  | cons l ls ih =>
      obtain ⟨here, rest⟩ := List.forall_mem_cons.mp catalogued
      obtain ⟨raw, read⟩ := ih rest
      obtain ⟨prod, found⟩ := Option.isSome_iff_exists.mp here
      refine ⟨FakeOdoo.rawLine l prod :: raw, ?_⟩
      unfold FakeOdoo.rawLines FakeOdoo.product
      rw [found, read]

theorem FakeLine.stored_writeAt (orderId : ℤ) (c : LineChange) (l : FakeLine) :
    (l.stored orderId).writeAt c =
      FakeLine.stored orderId
        (if l.id = c.lineId then
          { l with discountPct := c.discount.getD l.discountPct, qty := c.qty.getD l.qty }
        else l) := by
  unfold StoredLine.writeAt
  by_cases same : l.id = c.lineId
  · rw [if_pos same]
    exact if_pos same
  · rw [if_neg same]
    exact if_neg same

/-- Both gateways do the same to the own lines. -/
theorem Mirrors.own (mirrors : Mirrors orderId s t) {order : FakeOrder}
    (found : s.orders.lookup orderId = some order) (effect : LineEffect) :
    ((effect.onStore t orderId).filter fun l => l.orderId = orderId) =
      (effect.onFake s order.lines).map (·.stored orderId) := by
  have shown := FakeOdoo.linesOf_found found
  have lines := mirrors.lines
  have catalogued := mirrors.catalogued
  rw [shown] at lines catalogued
  unfold LineStore.linesOf at lines
  -- a write leaves the order of a row alone
  have written : ∀ g : StoredLine → StoredLine, (∀ l, (g l).orderId = l.orderId) →
      ((t.lines.map g).filter fun l => l.orderId = orderId) =
        (order.lines.map (·.stored orderId)).map g := by
    intro g kept
    rw [List.filter_map, ← lines]
    congr 2
    funext l
    rw [Function.comp_apply, kept]
  cases effect with
  | nothing => exact lines
  | line c =>
      refine (written _ (StoredLine.writeAt_orderId c)).trans ?_
      unfold LineEffect.onFake FakeOdoo.changeLine
      rw [List.map_map, List.map_map]
      exact List.map_congr_left fun l _ => FakeLine.stored_writeAt orderId c l
  | every discount =>
      obtain ⟨storedOrder, isStored⟩ := Option.isSome_iff_exists.mp mirrors.stored
      obtain ⟨raw, read⟩ := FakeOdoo.rawLines_catalogued catalogued
      dsimp only [LineEffect.onStore, LineEffect.onFake]
      rw [isStored, read]
      dsimp only
      rw [written]
      · rw [List.map_map, List.map_map]
        exact List.map_congr_left fun l _ => if_pos rfl
      · intro l
        split <;> rfl
  | add productId =>
      obtain ⟨storedOrder, isStored⟩ := Option.isSome_iff_exists.mp mirrors.stored
      have prices := mirrors.prices productId
      dsimp only [LineEffect.onStore, LineEffect.onFake]
      rw [isStored]
      cases product : s.products.lookup productId with
      | none =>
          rw [product, Option.map_none, Option.map_eq_none_iff] at prices
          rw [prices]
          exact lines
      | some prod =>
          rw [product, Option.map_some, Option.map_eq_some_iff] at prices
          obtain ⟨prod', product', price⟩ := prices
          rw [product']
          dsimp only
          rw [List.filter_append, lines, List.map_append, List.filter_cons_of_pos (by simp), price,
            mirrors.seq]
          rfl

/-- A function on rows that leaves their order alone changes no row of another order exactly when it
leaves these alone. -/
theorem map_spares_iff {g : StoredLine → StoredLine} (kept : ∀ l, (g l).orderId = l.orderId)
    (lines : List StoredLine) :
    (∀ id, id ≠ orderId → ((lines.map g).filter fun l => l.orderId = id) =
        lines.filter fun l => l.orderId = id) ↔
      ∀ l ∈ lines, l.orderId ≠ orderId → g l = l := by
  have moved : ∀ id, ((lines.map g).filter fun l => l.orderId = id) =
      (lines.filter fun l => l.orderId = id).map g := by
    intro id
    rw [List.filter_map]
    congr 2
    funext l
    rw [Function.comp_apply, kept]
  constructor
  · intro spared l mem other
    have same := (moved l.orderId).symm.trans (spared l.orderId other)
    have pointwise := List.map_inj_left.mp (same.trans (List.map_id' _).symm)
    exact pointwise l (List.mem_filter.mpr ⟨mem, by simp⟩)
  · intro fixed id other
    rw [moved]
    refine (List.map_congr_left fun l mem => ?_).trans (List.map_id' _)
    obtain ⟨memLines, order⟩ := List.mem_filter.mp mem
    refine fixed l memLines ?_
    rw [of_decide_eq_true order]
    exact other

/-- When an effect spares the rows of other orders. -/
theorem LineEffect.onStore_others (effect : LineEffect) :
    (∀ id, id ≠ orderId →
        ((effect.onStore t orderId).filter fun l => l.orderId = id) = t.linesOf id) ↔
      SparesOthers orderId t effect := by
  unfold SparesOthers LineStore.linesOf
  cases effect with
  | nothing => simp [LineEffect.onStore]
  | line c =>
      refine (map_spares_iff (StoredLine.writeAt_orderId c) t.lines).trans ?_
      constructor
      · rintro fixed c' same l mem other named
        cases same
        exact (if_pos named).symm.trans (fixed l mem other)
      · intro spared l mem other
        unfold StoredLine.writeAt
        split
        · next named => exact spared c rfl l mem other named
        · rfl
  | every discount =>
      refine iff_of_true ?_ (by simp)
      dsimp only [LineEffect.onStore]
      cases t.orders.lookup orderId with
      | none => exact fun _ _ => rfl
      | some order =>
          refine (map_spares_iff (fun l => ?_) t.lines).mpr fun l _ other => if_neg other
          split <;> rfl
  | add productId =>
      refine iff_of_true (fun id other => ?_) (by simp)
      dsimp only [LineEffect.onStore]
      cases t.orders.lookup orderId with
      | none => rfl
      | some order =>
          cases t.products.lookup productId with
          | none => rfl
          | some prod =>
              dsimp only
              rw [List.filter_append, List.filter_cons_of_neg (by simpa using other.symm),
                List.filter_nil, List.append_nil]

end Effect

/-! ## Accepting -/

/-- The Odoo side after a request is accepted. -/
def acceptedOdoo {σ : Type} (gateway : OdooGateway σ) (requestId : ℕ) (actor : DealflowUser)
    (message : Option String) (tables : PolicyTables) (now : Timestamp) (w : World σ) : σ :=
  (respondNegotiationRequest gateway requestId actor .accept message none tables now w).2.odoo

theorem lineStoreGateway_reads {β : Type} (f : LineStore → β) : ReadsKeep lineStoreGateway f where
  getSaleOrder id s := by
    change f (LineStore.getSaleOrder id s).2 = f s
    unfold LineStore.getSaleOrder
    split <;> rfl
  getAvailability _ _ := rfl

theorem lineStoreGateway_sets_lines (orderId : ℤ) (approvalState : String) (riskScore : ℚ)
    (locked : Bool) :
    Keeps (fun t : LineStore => t.lines)
      (lineStoreGateway.setGovernance orderId approvalState riskScore locked) := by
  intro t
  change (LineStore.writeOrder orderId _ t).2.lines = t.lines
  unfold LineStore.writeOrder
  split <;> rfl

section Accept

variable {w : World FakeOdoo} {t : LineStore} {requestId : ℕ} {req : NegotiationRequest}
  (actor : DealflowUser) (message : Option String) (tables : PolicyTables) (now : Timestamp)

/-- The lines of the orders in the in-memory gateway after an acceptance. -/
theorem acceptedOdoo_fake (opened : openNegotiation w.db requestId = some req)
    {payload : PortalNegotiationSubmit} (submitted : req.changes = payload.change)
    {order : FakeOrder} (found : w.odoo.orders.lookup w.db.deal.odooSaleOrderId = some order)
    (id : ℤ) :
    (acceptedOdoo fakeOdooGateway requestId actor message tables now w).linesOf id =
      if id = w.db.deal.odooSaleOrderId then payload.effect.onFake w.odoo order.lines
      else w.odoo.linesOf id := by
  have written := respondNegotiation_written (fakeOdooGateway_reads fun s => s.linesOf id)
    (fakeOdooGateway_sets_lines id) opened actor message none tables now
  unfold acceptedOdoo
  rw [written, submitted, applyChanges_submitted]
  unfold FakeOdoo.linesOf
  rw [LineEffect.carryOut_fake found]
  split <;> rfl

/-- The rows after an acceptance. -/
theorem acceptedOdoo_store (opened : openNegotiation w.db requestId = some req)
    {payload : PortalNegotiationSubmit} (submitted : req.changes = payload.change) :
    (acceptedOdoo lineStoreGateway requestId actor message tables now
      { db := w.db, odoo := t }).lines = payload.effect.onStore t w.db.deal.odooSaleOrderId := by
  have written := respondNegotiation_written (lineStoreGateway_reads fun t => t.lines)
    lineStoreGateway_sets_lines (w := { db := w.db, odoo := t }) opened actor message none tables
    now
  unfold acceptedOdoo
  rw [written, submitted, applyChanges_submitted]
  exact LineEffect.carryOut_store payload.effect_wellFormed t _

/-- An accepted negotiation touches the own order only, and the same on both gateways, exactly when
the row its change names is spared in other orders. -/
theorem ownOrder_iff (mirrors : Mirrors w.db.deal.odooSaleOrderId w.odoo t)
    (opened : openNegotiation w.db requestId = some req) (payload : PortalNegotiationSubmit)
    (submitted : req.changes = payload.change) :
    TouchesOwnOrder w.db.deal.odooSaleOrderId w.odoo
        (acceptedOdoo fakeOdooGateway requestId actor message tables now w) t
        (acceptedOdoo lineStoreGateway requestId actor message tables now
          { db := w.db, odoo := t }) ↔
      SparesOthers w.db.deal.odooSaleOrderId t payload.effect := by
  obtain ⟨order, found⟩ := Option.isSome_iff_exists.mp mirrors.found
  have fake := acceptedOdoo_fake actor message tables now opened submitted found
  have store := acceptedOdoo_store (t := t) actor message tables now opened submitted
  rw [← LineEffect.onStore_others]
  constructor
  · intro touches id other
    have rows := touches.otherRows id other
    unfold LineStore.linesOf at rows
    rw [store] at rows
    exact rows
  · intro spared
    refine ⟨fun id other => ?_, fun id other => ?_, ?_⟩
    · rw [fake, if_neg other]
    · unfold LineStore.linesOf
      rw [store]
      exact spared id other
    · rw [fake, if_pos rfl, ← mirrors.own found]
      unfold LineStore.linesOf
      rw [store]

end Accept

/-- Next to the service order another customer's, with the line 1002. -/
def sharedOdoo : FakeOdoo :=
  { serviceOdoo with
    orders := serviceOdoo.orders.insert 102
      { header :=
          { id := 102, name := "SO00102", partnerId := 2, partnerName := "Globex"
            state := "draft", currency := "INR", userId := 4, teamId := some 1, companyId := 1 }
        lines :=
          [{ id := 1002, productId := 107, qty := 3, priceUnit := 100000, discountPct := 5
             taxRatePct := 18 }] }
    lineSeq := 1002 }

/-- The same orders in tables. -/
def sharedStore : LineStore where
  products := AList.insert 107
    { name := "Setup Service", categId := 2, detailedType := "service"
      standardPrice := 80000, listPrice := 100000 } ∅
  orders :=
    AList.insert 102
      { header :=
          { id := 102, name := "SO00102", partnerId := 2, partnerName := "Globex"
            state := "draft", currency := "INR", userId := 4, teamId := some 1, companyId := 1 } }
      (AList.insert 101
        { header :=
            { id := 101, name := "SO00101", partnerId := 1, partnerName := "Acme Corp"
              state := "draft", currency := "INR", userId := 4, teamId := some 1
              companyId := 1 } } ∅)
  quants := ∅
  lines :=
    [{ id := 1001, orderId := 101, productId := 107, productUomQty := 1, priceUnit := 100000
       discount := 25 },
      { id := 1002, orderId := 102, productId := 107, productUomQty := 3, priceUnit := 100000
        discount := 5 }]
  lineSeq := 1002
  keyed := by decide
  handedOut := by decide

/-- The customer of the service asks for this discount on a line. -/
def discountOn (lineId : ℤ) : PortalNegotiationSubmit :=
  { type := some "COUNTER_DISCOUNT", odooSaleOrderLineId := some lineId, counterValue := some 90 }

def negotiatedWorld (lineId : ℤ) : World FakeOdoo :=
  { db := (submitNegotiationRequest 1 9 (discountOn lineId) 1 serviceWorld.db).2
    odoo := sharedOdoo }

theorem sharedStore_mirrors : Mirrors 101 sharedOdoo sharedStore := by
  refine ⟨by decide, by decide, by decide +kernel, rfl, fun productId => ?_, by decide +kernel⟩
  by_cases same : productId = 107
  · rw [same]
    rfl
  · unfold sharedStore sharedOdoo serviceOdoo
    dsimp only
    rw [AList.lookup_insert_ne same, AList.lookup_insert_ne same]
    rfl

theorem ownLine_touches :
    TouchesOwnOrder 101 sharedOdoo
      (acceptedOdoo fakeOdooGateway 2 salesRep none goldTables 2 (negotiatedWorld 1001)) sharedStore
      (acceptedOdoo lineStoreGateway 2 salesRep none goldTables 2
        { db := (negotiatedWorld 1001).db, odoo := sharedStore }) := by
  have opened : openNegotiation (negotiatedWorld 1001).db 2 = some _ := rfl
  refine (ownOrder_iff salesRep none goldTables 2 sharedStore_mirrors opened (discountOn 1001)
    rfl).mpr ?_
  intro c line l mem other named
  cases line
  have own : ∀ l ∈ sharedStore.lines, l.id = 1001 → l.orderId = 101 := by decide
  exact absurd (own l mem named) other

/-- Naming line 1002 takes 90 % off the other customer's order. -/
theorem foreignLine_touched :
    ¬ TouchesOwnOrder 101 sharedOdoo
      (acceptedOdoo fakeOdooGateway 2 salesRep none goldTables 2 (negotiatedWorld 1002)) sharedStore
      (acceptedOdoo lineStoreGateway 2 salesRep none goldTables 2
        { db := (negotiatedWorld 1002).db, odoo := sharedStore }) := by
  intro touches
  have rows := touches.otherRows 102 (by decide)
  have opened : openNegotiation (negotiatedWorld 1002).db 2 = some _ := rfl
  have written := acceptedOdoo_store (t := sharedStore) salesRep none goldTables 2 opened
    (show _ = (discountOn 1002).change from rfl)
  unfold LineStore.linesOf at rows
  rw [written] at rows
  exact absurd rows (by decide +kernel)

end DealFlow
