import DealFlow.Policies.Resolution
import DealFlow.Risk.LineOrder

/-!
# Policies and the ceiling of the tier

The default ceiling of a customer's tier counts only where no policy is resolved.  A policy that is
resolved replaces it, whether it is stricter or not, so a line's ceiling is the smaller of the two
exactly where no policy that tops the bands is above the tier (`minimumRule_iff`).
-/

namespace DealFlow

open Lib

/-- The ceiling that an evaluation holds a line's discount against. -/
def appliedCeiling (tables : PolicyTables) (ctx : DealContext) (l : DealLineContext) : ℚ :=
  ceilingOf ctx (resolvePolicies tables ctx).1 l

/-- The ceiling of every line is that of its policy or of the customer's tier, the smaller one. -/
def MinimumRule (tables : PolicyTables) (ctx : DealContext) : Prop :=
  ∀ l ∈ ctx.lines, appliedCeiling tables ctx l =
    min ctx.tierDefaultCeiling (linePolicy tables ctx l).maxDiscountPct

/-- No policy that is resolved for a line of the order grants more than the tier does. -/
def NoneAboveTier (rows : List StoredPolicy) (ctx : DealContext) : Prop :=
  ∀ l ∈ ctx.lines, ∀ before p after, activeRows rows ctx.companyId = before ++ p :: after →
    TopsBand ctx.tierCode l.categoryId before p after → p.maxDiscountPct ≤ ctx.tierDefaultCeiling

/-- A line's policy is no laxer than the tier if the one that tops the bands is not. -/
theorem linePolicy_le_iff (tables : PolicyTables) (rows : List StoredPolicy) (ctx : DealContext)
    (l : DealLineContext) :
    (linePolicy (tables.withRows rows) ctx l).maxDiscountPct ≤ ctx.tierDefaultCeiling ↔
      ∀ before p after, activeRows rows ctx.companyId = before ++ p :: after →
        TopsBand ctx.tierCode l.categoryId before p after →
          p.maxDiscountPct ≤ ctx.tierDefaultCeiling := by
  unfold linePolicy
  cases chosen : (bestPolicy ((activeRows rows ctx.companyId).map (·.toDiscountPolicy)) ctx.tierCode
      l.categoryId).1 with
  | none =>
      rw [resolvePolicyForLine_none chosen]
      refine iff_of_true le_rfl fun before p after listed tops => ?_
      have some := bestPolicy_eq_some_iff.mpr ⟨before, p, after, listed, tops, rfl⟩
      rw [chosen] at some
      cases some
  | some best =>
      rw [resolvePolicyForLine_some chosen]
      constructor
      · intro below before p after listed tops
        have same := bestPolicy_eq_some_iff.mpr ⟨before, p, after, listed, tops, rfl⟩
        rw [chosen] at same
        cases same
        exact below
      · intro below
        obtain ⟨before, p, after, listed, tops, rfl⟩ := bestPolicy_eq_some_iff.mp chosen
        exact below before p after listed tops

section Contexts

variable {tables : PolicyTables} {ctx : DealContext}

/-- The ceiling of a line is that of its policy. -/
theorem appliedCeiling_eq (distinct : (ctx.lines.map (·.lineId)).Nodup) {l : DealLineContext}
    (mem : l ∈ ctx.lines) :
    appliedCeiling tables ctx l = (linePolicy tables ctx l).maxDiscountPct :=
  ceilingOf_resolved (oneCeiling_of_distinct distinct) mem

theorem minimumRule_iff_le (distinct : (ctx.lines.map (·.lineId)).Nodup) :
    MinimumRule tables ctx ↔
      ∀ l ∈ ctx.lines, (linePolicy tables ctx l).maxDiscountPct ≤ ctx.tierDefaultCeiling := by
  refine forall₂_congr fun l mem => ?_
  rw [appliedCeiling_eq distinct mem, eq_comm, min_eq_right_iff]

end Contexts

/-- An evaluation takes the smaller ceiling on every line of an order exactly where no policy that
is resolved for one of them grants more than the customer's tier. -/
theorem minimumRule_iff (tables : PolicyTables) (rows : List StoredPolicy) (raw : RawOrder)
    (stock : Availability) (distinct : (raw.lines.map (·.id)).Nodup) :
    MinimumRule (tables.withRows rows) (dealContextOf (tables.withRows rows) raw stock) ↔
      NoneAboveTier rows (dealContextOf (tables.withRows rows) raw stock) := by
  have ids : (dealContextOf (tables.withRows rows) raw stock).lines.map (·.lineId) =
      raw.lines.map (·.id) := by
    unfold dealContextOf
    rw [List.map_map]
    rfl
  rw [minimumRule_iff_le (ids ▸ distinct)]
  exact forall₂_congr fun l _ => linePolicy_le_iff tables rows _ l

/-- A standard customer is allowed 5 %, and a policy for all allows less. -/
def strictRows : List StoredPolicy :=
  [{ id := 1, name := "Frozen prices", maxDiscountPct := 2 }]

theorem strictRows_minimumRule :
    MinimumRule (({} : PolicyTables).withRows strictRows)
      (dealContextOf (({} : PolicyTables).withRows strictRows) (quotation [goodsLine])
        fun _ => ∅) := by
  refine (minimumRule_iff {} strictRows (quotation [goodsLine]) (fun _ => ∅) (by decide)).mpr ?_
  intro l _ before p after listed _
  have mem : p ∈ before ++ p :: after := List.mem_append_right _ List.mem_cons_self
  rw [← listed] at mem
  rw [List.mem_singleton.mp (mem_activeRows.mp mem).1]
  decide +kernel

/-- The clearance lets everyone have 40 %, whatever the tier. -/
theorem clearanceRows_minimumRule :
    ¬ MinimumRule (({} : PolicyTables).withRows clearanceRows)
      (dealContextOf (({} : PolicyTables).withRows clearanceRows) (quotation [goodsLine])
        fun _ => ∅) := by
  unfold MinimumRule
  decide +kernel

end DealFlow
