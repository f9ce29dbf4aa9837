import DealFlow.Governance.Coverage
import DealFlow.Guardian.MaterialChange

/-!
# Which changes are noted

`is_material_change` against the terms of a deal: a change is reported exactly where something is
noted (`isMaterialChange_iff`), and the product of a line is never compared, its unit price on a
recurring line alone.  So a change of the terms is reported unless it touches only these
(`changeReported_iff`).
-/

namespace DealFlow

section MaterialChanges

variable {old new : DealContext} {oldLine newLine : DealLineContext} {triggerType : TriggerType}
  {changes : List MaterialChangeKind}

/-! ## Lines -/

def SameLines (old new : DealContext) : Prop :=
  ∀ lineId, lineId ∈ old.lines.map (·.lineId) ↔ lineId ∈ new.lines.map (·.lineId)

/-- The lines the two contexts have for one id. -/
def CommonLine (old new : DealContext) (oldLine newLine : DealLineContext) : Prop :=
  ∃ lineId, lineById old.lines lineId = some oldLine ∧ lineById new.lines lineId = some newLine

theorem lineById_same {lines : List DealLineContext} {lineId : ℤ} {l : DealLineContext}
    (found : lineById lines lineId = some l) : l.lineId = lineId :=
  of_decide_eq_true
    (List.find?_some (p := fun l : DealLineContext => decide (l.lineId = lineId)) found)

theorem lineById_mem {lines : List DealLineContext} {lineId : ℤ} {l : DealLineContext}
    (found : lineById lines lineId = some l) : lineId ∈ lines.map (·.lineId) := by
  have mem := List.mem_reverse.mp (List.mem_of_find?_eq_some found)
  exact lineById_same found ▸ List.mem_map_of_mem mem

/-! ## What is noted -/

/-- A difference between two lines that is noted. -/
inductive LineNoted (oldLine newLine : DealLineContext) : Prop
  | quantity (moved : 1 / 1000 < |newLine.qty - oldLine.qty|)
  | discount (moved : 1 / 100 < |newLine.discountPct - oldLine.discountPct|)
  | subscriptionTerms (recurring : newLine.isRecurring = true)
      (changed : newLine.priceUnit ≠ oldLine.priceUnit ∨ newLine.qty ≠ oldLine.qty ∨
        newLine.discountPct ≠ oldLine.discountPct)

/-- A difference between two contexts, or an occasion, that is noted. -/
inductive Noted (old new : DealContext) (triggerType : TriggerType) : Prop
  | orderDiscount (moved : 1 / 100 < |old.orderDiscountPct - new.orderDiscountPct|)
  | lines (apart : ¬ SameLines old new)
  | line {oldLine newLine : DealLineContext} (common : CommonLine old new oldLine newLine)
      (noted : LineNoted oldLine newLine)
  | customerCounter (negotiated : triggerType = .customerNegotiated)
  | fulfillmentRisk (stock : triggerType = .stockChanged)
      (shortage : new.lines.any (·.inventoryShortage) = true)
      (before : old.lines.any (·.inventoryShortage) = false)

theorem noteChange_ne_nil (kind : MaterialChangeKind) : noteChange changes kind ≠ [] := by
  unfold noteChange
  split
  · next mem => exact List.ne_nil_of_mem mem
  · exact List.append_ne_nil_of_right_ne_nil _ (List.cons_ne_nil _ _)

theorem if_noteChange_eq_nil_iff {p : Prop} [Decidable p] {kind : MaterialChangeKind} :
    (if p then noteChange changes kind else changes) = [] ↔ changes = [] ∧ ¬ p := by
  split
  · next holds => exact iff_of_false (noteChange_ne_nil kind) fun none => none.2 holds
  · next fails => exact (and_iff_left fails).symm

theorem if_append_eq_nil_iff {p : Prop} [Decidable p] {kind : MaterialChangeKind} :
    (if p then changes ++ [kind] else changes) = [] ↔ changes = [] ∧ ¬ p := by
  split <;> simp [*]

theorem lineChanges_eq_nil_iff :
    lineChanges changes oldLine newLine = [] ↔ changes = [] ∧ ¬ LineNoted oldLine newLine := by
  unfold lineChanges
  dsimp only
  rw [if_noteChange_eq_nil_iff, if_noteChange_eq_nil_iff, if_noteChange_eq_nil_iff]
  constructor
  · intro nothing
    rcases nothing with ⟨⟨⟨empty, quantity⟩, discount⟩, terms⟩
    refine ⟨empty, fun noted => ?_⟩
    cases noted with
    | quantity moved => exact quantity moved
    | discount moved => exact discount moved
    | subscriptionTerms recurring changed => exact terms ⟨recurring, changed⟩
  · intro nothing
    rcases nothing with ⟨empty, unnoted⟩
    exact ⟨⟨⟨empty, fun moved => unnoted (.quantity moved)⟩,
      fun moved => unnoted (.discount moved)⟩,
      fun both => unnoted (.subscriptionTerms both.1 both.2)⟩

/-- A loop that only adds ends with nothing where it starts with nothing and no step adds. -/
theorem foldl_eq_nil_iff {α β : Type} {f : List β → α → List β} {p : α → Prop}
    (step : ∀ acc x, f acc x = [] ↔ acc = [] ∧ p x) {xs : List α} {init : List β} :
    xs.foldl f init = [] ↔ init = [] ∧ ∀ x ∈ xs, p x := by
  induction xs generalizing init with
  | nil => simp
  | cons x xs ih =>
      rw [List.foldl_cons, ih, step, List.forall_mem_cons, and_assoc]

theorem if_keep_eq_nil_iff {p : Prop} [Decidable p] {kind : MaterialChangeKind} :
    (if p then changes else changes ++ [kind]) = [] ↔ changes = [] ∧ p := by
  split <;> simp [*]

/-- The lines of both contexts, one by one. -/
theorem commonChanges_eq_nil_iff :
    (new.lines.map (·.lineId)).eraseDups.foldl
        (fun changes lineId =>
          match lineById new.lines lineId, lineById old.lines lineId with
          | some newLine, some oldLine => lineChanges changes oldLine newLine
          | _, _ => changes)
        changes = [] ↔
      changes = [] ∧
        ∀ oldLine newLine, CommonLine old new oldLine newLine → ¬ LineNoted oldLine newLine := by
  rw [foldl_eq_nil_iff (p := fun lineId => ∀ oldLine newLine,
    lineById old.lines lineId = some oldLine → lineById new.lines lineId = some newLine →
      ¬ LineNoted oldLine newLine)]
  · refine and_congr_right' ⟨fun each oldLine newLine => ?_, fun all lineId _ oldLine newLine => ?_⟩
    · intro common
      rcases common with ⟨lineId, foundOld, foundNew⟩
      exact each lineId (List.mem_eraseDups.mpr (lineById_mem foundNew)) _ _ foundOld foundNew
    · exact fun foundOld foundNew => all _ _ ⟨lineId, foundOld, foundNew⟩
  · intro acc lineId
    split
    · next newLine oldLine foundNew foundOld =>
        rw [lineChanges_eq_nil_iff]
        refine and_congr_right' ⟨fun unnoted a b isOld isNew => ?_, fun all => ?_⟩
        · cases foundOld.symm.trans isOld
          cases foundNew.symm.trans isNew
          exact unnoted
        · exact all _ _ foundOld foundNew
    · next neither =>
        exact (and_iff_left fun a b isOld isNew => absurd isOld (neither b a isNew)).symm

theorem sameLines_iff :
    SameLines old new ↔
      (new.lines.map (·.lineId)).eraseDups ⊆ (old.lines.map (·.lineId)).eraseDups ∧
        (old.lines.map (·.lineId)).eraseDups ⊆ (new.lines.map (·.lineId)).eraseDups := by
  unfold SameLines
  constructor
  · intro same
    exact ⟨fun lineId mem => List.mem_eraseDups.mpr ((same lineId).mpr (List.mem_eraseDups.mp mem)),
      fun lineId mem => List.mem_eraseDups.mpr ((same lineId).mp (List.mem_eraseDups.mp mem))⟩
  · intro both lineId
    rcases both with ⟨added, removed⟩
    exact ⟨fun mem => List.mem_eraseDups.mp (removed (List.mem_eraseDups.mpr mem)),
      fun mem => List.mem_eraseDups.mp (added (List.mem_eraseDups.mpr mem))⟩

/-- A change is reported exactly where something is noted. -/
theorem isMaterialChange_iff {previous : RiskAssessment} :
    (isMaterialChange (some old) new triggerType (some previous)).1 = true ↔
      Noted old new triggerType := by
  have orderDiscount : (if 1 / 100 < |old.orderDiscountPct - new.orderDiscountPct| then
      [MaterialChangeKind.discount] else []) = [] ↔
        ¬ 1 / 100 < |old.orderDiscountPct - new.orderDiscountPct| := by
    split
    · next moved => exact iff_of_false (List.cons_ne_nil _ _) (not_not_intro moved)
    · next still => exact iff_of_true rfl still
  unfold isMaterialChange
  dsimp only
  rw [Bool.not_eq_true', List.isEmpty_eq_false_iff, ne_eq, ← not_iff_not, not_not,
    if_append_eq_nil_iff, if_append_eq_nil_iff]
  refine (and_congr_left' (and_congr_left' commonChanges_eq_nil_iff)).trans ?_
  rw [if_keep_eq_nil_iff, if_keep_eq_nil_iff, orderDiscount]
  constructor
  · intro nothing noted
    rcases nothing with ⟨⟨⟨⟨⟨discount, added⟩, removed⟩, lines⟩, counter⟩, risk⟩
    cases noted with
    | orderDiscount moved => exact discount moved
    | lines apart => exact apart (sameLines_iff.mpr ⟨added, removed⟩)
    | line common noted => exact lines _ _ common noted
    | customerCounter negotiated => exact counter negotiated
    | fulfillmentRisk stock shortage before => exact risk ⟨stock, shortage, before⟩
  · intro unnoted
    have same : SameLines old new := by_contra fun apart => unnoted (.lines apart)
    obtain ⟨added, removed⟩ := sameLines_iff.mp same
    refine ⟨⟨⟨⟨⟨fun moved => unnoted (.orderDiscount moved), added⟩, removed⟩, ?_⟩, ?_⟩, ?_⟩
    · exact fun _ _ common noted => unnoted (.line common noted)
    · exact fun negotiated => unnoted (.customerCounter negotiated)
    · exact fun ⟨stock, shortage, before⟩ => unnoted (.fulfillmentRisk stock shortage before)

/-! ## What is reported of the terms -/

/-- The contexts differ in their lines, or in the terms of one of them. -/
inductive TermsDiffer (old new : DealContext) : Prop
  | lines (apart : ¬ SameLines old new)
  | line {oldLine newLine : DealLineContext} (common : CommonLine old new oldLine newLine)
      (differs : newLine.productId ≠ oldLine.productId ∨ 1 / 1000 < |newLine.qty - oldLine.qty| ∨
        newLine.priceUnit ≠ oldLine.priceUnit ∨
        1 / 100 < |newLine.discountPct - oldLine.discountPct|)

/-- A difference in the terms is reported, and without any difference a manual trigger is not. -/
structure ChangeReported (old new : DealContext) (triggerType : TriggerType)
    (previous : RiskAssessment) : Prop where
  complete : TermsDiffer old new →
    (isMaterialChange (some old) new triggerType (some previous)).1 = true
  quiet : old = new → triggerType = .manual →
    (isMaterialChange (some old) new triggerType (some previous)).1 = false

theorem not_moved {tolerance x : ℚ} (nonneg : 0 ≤ tolerance) : ¬ tolerance < |x - x| := by
  rw [sub_self, abs_zero]
  exact not_lt.mpr nonneg

theorem not_noted_self (ctx : DealContext) : ¬ Noted ctx ctx .manual := by
  intro noted
  cases noted with
  | orderDiscount moved => exact not_moved (by norm_num) moved
  | lines apart => exact apart fun lineId => Iff.rfl
  | line common noted =>
      obtain ⟨lineId, foundOld, foundNew⟩ := common
      cases foundOld.symm.trans foundNew
      cases noted with
      | quantity moved => exact not_moved (by norm_num) moved
      | discount moved => exact not_moved (by norm_num) moved
      | subscriptionTerms recurring changed => simp at changed
  | customerCounter negotiated => cases negotiated
  | fulfillmentRisk stock shortage before => cases stock

/-- The terms are reported unless a product or a unit price differs with nothing else to note. -/
theorem changeReported_iff {previous : RiskAssessment} :
    ChangeReported old new triggerType previous ↔
      ∀ oldLine newLine, CommonLine old new oldLine newLine →
        newLine.productId ≠ oldLine.productId ∨ newLine.priceUnit ≠ oldLine.priceUnit →
          Noted old new triggerType := by
  constructor
  · intro reported oldLine newLine common differs
    refine isMaterialChange_iff.mp (reported.complete (.line common ?_))
    rcases differs with product | price
    · exact .inl product
    · exact .inr (.inr (.inl price))
  · intro noted
    refine ⟨fun differ => isMaterialChange_iff.mpr ?_, ?_⟩
    · cases differ with
      | lines apart => exact .lines apart
      | line common differs =>
          rcases differs with product | quantity | price | discount
          · exact noted _ _ common (.inl product)
          · exact .line common (.quantity quantity)
          · exact noted _ _ common (.inr price)
          · exact .line common (.discount discount)
    · rintro rfl rfl
      exact Bool.eq_false_iff.mpr fun reported =>
        not_noted_self old (isMaterialChange_iff.mp reported)

end MaterialChanges

/-- The service order at a unit price. -/
def pricedContext (priceUnit : ℚ) : DealContext :=
  dealContextOf goldTables
    { header :=
        { id := 101, name := "SO00101", partnerId := 1, partnerName := "Acme Corp"
          state := "draft", currency := "INR", userId := 4, teamId := some 1, companyId := 1 }
      lines :=
        [{ id := 1001, productId := 107, productName := "Setup Service", categoryId := 2
           productType := "SERVICE", qty := 1, priceUnit, discountPct := 25
           unitCost := 80000, taxRatePct := 18 }] }
    fun _ => ∅

/-- The price falls below the cost, and nothing is reported. -/
theorem pricedContext_unreported :
    ¬ ChangeReported (pricedContext 150000) (pricedContext 75000) .manual serviceAssessment := by
  intro reported
  have differ : TermsDiffer (pricedContext 150000) (pricedContext 75000) :=
    .line ⟨1001, rfl, rfl⟩ (by decide +kernel)
  have silent : (isMaterialChange (some (pricedContext 150000)) (pricedContext 75000) .manual
      (some serviceAssessment)).1 = false := by
    decide +kernel
  cases (reported.complete differ).symm.trans silent

end DealFlow
