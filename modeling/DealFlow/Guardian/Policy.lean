import DealFlow.Services.DealContextBuilder

/-!
# Policy resolution

`app/guardian/policy.py`: the discount policy that applies to a line is the active policy of the
company with the best match of category and tier, a wildcard ranking below a match.
-/

namespace DealFlow

structure ResolvedPolicy where
  policyId : Option ℕ
  name : String
  maxDiscountPct : ℚ
  minimumMarginPct : ℚ
  managerThreshold : ℚ
  financeThreshold : ℚ
  singleLineFinancePts : ℚ
  deriving DecidableEq, Repr

/-- `value or fallback`: a missing value and zero both fall back. -/
def orElseDec (value : Option ℚ) (fallback : ℚ) : ℚ :=
  match value with
  | some v => if v = 0 then fallback else v
  | none => fallback

/-- How well a policy matches, if it does. -/
def policyScore (p : DiscountPolicy) (tierCode : String) (categoryId : ℤ) : Option ℤ :=
  match p.odooProductCategoryId, p.customerTierCode with
  | some category, some tier =>
      if category = categoryId ∧ tier = tierCode then some (400 - p.priority) else none
  | some category, none => if category = categoryId then some (300 - p.priority) else none
  | none, some tier => if tier = tierCode then some (200 - p.priority) else none
  | none, none => some (100 - p.priority)

/-- The first policy of the best score above -1. -/
def bestPolicy (policies : List DiscountPolicy) (tierCode : String) (categoryId : ℤ) :
    Option DiscountPolicy × ℤ :=
  policies.foldl
    (fun best p =>
      match policyScore p tierCode categoryId with
      | some score => if best.2 < score then (some p, score) else best
      | none => best)
    (none, -1)

def resolvePolicyForLine (tables : PolicyTables) (companyId : ℤ) (tierCode : String)
    (categoryId : ℤ) (tierDefaultCeiling : ℚ) : ResolvedPolicy :=
  let policies := tables.discountPolicies.filter fun p => p.active && p.odooCompanyId = companyId
  match (bestPolicy policies tierCode categoryId).1 with
  | some best =>
      { policyId := some best.id
        name := best.name
        maxDiscountPct := best.maxDiscountPct
        minimumMarginPct := orElseDec best.minimumMarginPct 20
        managerThreshold := orElseDec best.managerThreshold 20
        financeThreshold := orElseDec best.financeThreshold 50
        singleLineFinancePts := orElseDec best.singleLineFinancePts 10 }
  | none =>
      { policyId := none
        name := s!"Default Tier Policy ({tierCode})"
        maxDiscountPct := tierDefaultCeiling
        minimumMarginPct := 20
        managerThreshold := 20
        financeThreshold := 50
        singleLineFinancePts := 10 }

end DealFlow
