import DealFlow.Guardian.Risk

/-!
# Material change and coverage

`app/guardian/material_change.py`: which differences between two contexts are material, and when an
approved assessment covers a new calculation.
-/

namespace DealFlow

/-- `LEVEL_PRIORITY`. -/
def levelPriority : ApprovalLevel → ℕ
  | .none => 0
  | .manager => 1
  | .managerAndFinance => 2

/-- Whether an approval of `approvedAssessment` extends to the new level and score. -/
def isCoveredByApprovedAssessment (approvedAssessment : Option RiskAssessment)
    (newLevel : ApprovalLevel) (newRiskScore : ℚ) : Bool :=
  match approvedAssessment with
  | none => false
  | some approved =>
      if levelPriority approved.requiredLevel < levelPriority newLevel then false
      else if approved.riskScore < newRiskScore then false
      else true

/-- Append a kind unless it is there. -/
def noteChange (changes : List MaterialChangeKind) (kind : MaterialChangeKind) :
    List MaterialChangeKind :=
  if kind ∈ changes then changes else changes ++ [kind]

/-- The line a dictionary built from the lines in order has for an id: the last of that id. -/
def lineById (lines : List DealLineContext) (lineId : ℤ) : Option DealLineContext :=
  lines.reverse.find? fun l => l.lineId = lineId

/-- The changes of one line that both contexts have. -/
def lineChanges (changes : List MaterialChangeKind) (oldLine newLine : DealLineContext) :
    List MaterialChangeKind :=
  let changes :=
    if 1 / 1000 < |newLine.qty - oldLine.qty| then noteChange changes .quantity else changes
  let changes :=
    if 1 / 100 < |newLine.discountPct - oldLine.discountPct| then noteChange changes .discount
    else changes
  if newLine.isRecurring = true ∧
      (newLine.priceUnit ≠ oldLine.priceUnit ∨ newLine.qty ≠ oldLine.qty ∨
        newLine.discountPct ≠ oldLine.discountPct) then
    noteChange changes .subscriptionTerms
  else changes

def isMaterialChange (oldCtx : Option DealContext) (newCtx : DealContext)
    (triggerType : TriggerType) (previousAssessment : Option RiskAssessment) :
    Bool × List MaterialChangeKind :=
  match oldCtx, previousAssessment with
  | some old, some _ =>
      let oldIds := (old.lines.map (·.lineId)).eraseDups
      let newIds := (newCtx.lines.map (·.lineId)).eraseDups
      let changes : List MaterialChangeKind :=
        if 1 / 100 < |old.orderDiscountPct - newCtx.orderDiscountPct| then [.discount] else []
      let changes := if newIds ⊆ oldIds then changes else changes ++ [.lineAdded]
      let changes := if oldIds ⊆ newIds then changes else changes ++ [.lineRemoved]
      let changes := newIds.foldl
        (fun changes lineId =>
          match lineById newCtx.lines lineId, lineById old.lines lineId with
          | some newLine, some oldLine => lineChanges changes oldLine newLine
          | _, _ => changes)
        changes
      let changes :=
        if triggerType = .customerNegotiated then changes ++ [.customerCounter] else changes
      let changes :=
        if triggerType = .stockChanged ∧ (newCtx.lines.any (·.inventoryShortage)) = true ∧
            (old.lines.any (·.inventoryShortage)) = false then
          changes ++ [.fulfillmentRisk]
        else changes
      (!changes.isEmpty, changes)
  | _, _ => (true, [.discount])

end DealFlow
