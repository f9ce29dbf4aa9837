import DealFlow.Addon.FulfillmentApi
import DealFlow.Inventory.Overselling
import DealFlow.Lib.Fallible

/-!
# Plans in their dictionary form

The integration service takes a plan object or an equivalent dictionary and hands it on as it came;
the adapter takes plan objects alone.  So a dictionary is refused whatever it holds
(`dictionary_refused`), the HTTP endpoint answers 400 to every plan (`applyFulfillment_refused`),
and the dictionary form of a plan is treated as the plan only where the order id is refused before
the plan is looked at (`dictionaryAgrees_iff`).
-/

namespace DealFlow.Addon

open Lib

variable (exceptionText : AdapterError → String)

/-- Applying the dictionary form of a plan through the service returns or raises what applying the
plan directly does, with the same stock and pickings after it. -/
def DictionaryAgrees (adapter : InventoryAdapter) (call : ServiceCall) (plan : FulfillmentPlanDTO) :
    Prop :=
  let direct := adapter.applyPlanArgument call.args (.dto plan)
  let served := serviceApplyPlan exceptionText adapter call (.dict plan.asdict)
  served.1.mapError AdapterError.integration = direct.1 ∧ Untouched direct.2 served.2

/-! ## What a dictionary does -/

theorem dictionary_refused (adapter : InventoryAdapter) (call : ServiceCall)
    (fields : List (String × JsonValue)) :
    serviceApplyPlan exceptionText adapter call (.dict fields) =
      (.error (if call.orderId ≤ 0 then orderIdError call.orderId else planTypeError),
        adapter) := by
  unfold serviceApplyPlan InventoryAdapter.applyPlanArgument ServiceCall.args
  dsimp only
  split <;> rfl

/-- Over HTTP no plan is ever applied, neither one under the key of its own nor one that is the
payload. -/
theorem applyFulfillment_refused (adapter : InventoryAdapter) (call : ServiceCall)
    {payload : List (String × JsonValue)} {response : ApiResponse} {adapter' : InventoryAdapter}
    (answered : applyFulfillment exceptionText adapter call payload = some (response, adapter')) :
    adapter' = adapter ∧ ∃ e, response = .failure 400 e := by
  unfold applyFulfillment at answered
  obtain ⟨plan, -, served⟩ := Option.map_eq_some_iff.mp answered
  rw [dictionary_refused] at served
  obtain ⟨rfl, rfl⟩ := Prod.mk.inj served
  refine ⟨rfl, ?_⟩
  split
  · exact ⟨orderIdError call.orderId, rfl⟩
  · exact ⟨planTypeError, rfl⟩

/-! ## What a plan object does

Every error about a plan object begins with a capital; the type error does not. -/

def Capitalized (text : String) : Prop :=
  text.toList.head?.any (·.isUpper) = true

instance (text : String) : Decidable (Capitalized text) :=
  inferInstanceAs (Decidable (_ = true))

theorem Capitalized.append {text : String} (capital : Capitalized text) (rest : String) :
    Capitalized (text ++ rest) := by
  unfold Capitalized at *
  rw [String.toList_append]
  cases chars : text.toList with
  | nil => rw [chars] at capital; cases capital
  | cons c cs => rw [chars] at capital; exact capital

theorem planTypeError_not_capitalized : ¬ Capitalized planTypeError.message := by
  decide

theorem allocationError_capitalized {a : FulfillmentSplitItem} {e : DealFlowIntegrationError}
    (raised : allocationError a = some e) : Capitalized e.message := by
  unfold allocationError at raised
  split at raised
  · cases raised
    exact .append (.append (by decide) _) _
  split at raised
  · cases raised
    exact .append (by decide) _
  · cases raised

theorem tamperingError_capitalized {plan : FulfillmentPlanDTO} {e : DealFlowIntegrationError}
    (raised : tamperingError plan = some e) : Capitalized e.message := by
  unfold tamperingError at raised
  split at raised
  · cases raised
  split at raised
  · cases raised
    exact .append (.append (.append (.append (by decide) _) _) _) _
  · cases raised

theorem parameterError_capitalized {orderId : ℤ} {plan : FulfillmentPlanDTO}
    {e : DealFlowIntegrationError} (raised : parameterError orderId plan = some e) :
    Capitalized e.message := by
  unfold parameterError at raised
  split at raised
  · cases raised
    exact .append (.append (by decide) _) _
  split at raised
  · cases raised
    exact .append (.append (.append (by decide) _) _) _
  split at raised
  · cases raised
    decide
  split at raised
  · cases raised
    exact .append (.append (by decide) _) _
  split at raised
  · next found =>
      cases raised
      obtain ⟨a, -, alloc⟩ := List.exists_of_findSome?_eq_some found
      exact allocationError_capitalized alloc
  · exact tamperingError_capitalized raised

theorem openOrder_capitalized {s : InventoryAdapter} {orderId : ℤ} {e : DealFlowIntegrationError}
    (raised : s.openOrder orderId = .error e) : Capitalized e.message := by
  unfold InventoryAdapter.openOrder at raised
  split at raised
  · cases raised
    exact .append (.append (by decide) _) _
  split at raised
  · cases raised
    exact .append (.append (.append (.append (by decide) _) _) _) _
  · cases raised

theorem stockError_capitalized {s : InventoryAdapter} {a : FulfillmentSplitItem}
    {e : DealFlowIntegrationError} (raised : s.stockError a = some e) : Capitalized e.message := by
  unfold InventoryAdapter.stockError at raised
  split at raised
  · next single =>
      cases raised
      unfold InventoryAdapter.getWarehouseStockSingle InventoryAdapter.getWarehouseStock at single
      split at single
      · cases single
        exact .append (.append (by decide) _) _
      · cases single
  · cases raised
    exact .append (.append (.append (.append (.append (by decide) _) _) _) _) _
  · split at raised
    · cases raised
      exact .append (.append (.append (.append (by decide) _) _) _) _
    · cases raised

/-- The loop raises nothing of the integration's. -/
theorem allocateAll_error {head : PickingHead} {allocs : List FulfillmentSplitItem}
    {s : InventoryAdapter} {e : AdapterError}
    (raised : (InventoryAdapter.allocateAll head allocs s).1 = .error e) :
    ∃ productId warehouseId, e = .keyError productId warehouseId := by
  induction allocs generalizing s with
  | nil => cases raised
  | cons a allocs ih =>
      unfold InventoryAdapter.allocateAll at raised
      split at raised
      · cases raised
        exact ⟨a.productId, a.warehouseId, rfl⟩
      · dsimp only at raised
        exact ih (map_eq_error.mp raised)

theorem applyFulfillmentPlan_capitalized {s : InventoryAdapter} {args : ApplyArgs}
    {plan : FulfillmentPlanDTO} {e : DealFlowIntegrationError}
    (raised : (s.applyFulfillmentPlan args plan).1 = .error (.integration e)) :
    Capitalized e.message := by
  unfold InventoryAdapter.applyFulfillmentPlan at raised
  split at raised
  · next found =>
      cases raised
      exact parameterError_capitalized found
  split at raised
  · next found =>
      cases raised
      exact openOrder_capitalized found
  dsimp only at raised
  split at raised
  · split at raised
    · cases raised
    · cases raised
      exact .append (.append (.append (by decide) _) _) _
  split at raised
  · next found =>
      cases raised
      obtain ⟨a, -, alloc⟩ := List.exists_of_findSome?_eq_some found
      exact stockError_capitalized alloc
  · obtain ⟨productId, warehouseId, missing⟩ := allocateAll_error (map_eq_error.mp raised)
    cases missing

/-! ## When the two agree -/

/-- The dictionary form of a plan does what the plan does exactly where the order id is refused. -/
theorem dictionaryAgrees_iff (adapter : InventoryAdapter) (call : ServiceCall)
    (plan : FulfillmentPlanDTO) :
    DictionaryAgrees exceptionText adapter call plan ↔ call.orderId ≤ 0 := by
  unfold DictionaryAgrees
  rw [dictionary_refused]
  dsimp only
  by_cases refused : call.orderId ≤ 0
  · have parameters : parameterError call.args.orderId plan = some (orderIdError call.orderId) :=
      if_pos refused
    have direct : adapter.applyPlanArgument call.args (.dto plan) =
        (.error (.integration (orderIdError call.orderId)), adapter) := by
      unfold InventoryAdapter.applyPlanArgument InventoryAdapter.applyFulfillmentPlan
      dsimp only
      rw [parameters]
    rw [if_pos refused, direct]
    exact iff_of_true ⟨rfl, rfl, rfl⟩ refused
  · rw [if_neg refused]
    refine iff_of_false (fun agrees => ?_) refused
    exact planTypeError_not_capitalized (applyFulfillmentPlan_capitalized agrees.1.symm)

/-- The split of the demo is applied as a plan object and refused as a dictionary. -/
theorem demoSplit_disagrees :
    ¬ DictionaryAgrees (fun _ => "") demoStock { orderId := 1, now := 100, uniqueToken := "A1B2C3" }
      demoSplit := by
  intro agrees
  have applied : (demoStock.applyPlanArgument { orderId := 1, now := 100, uniqueToken := "A1B2C3" }
      (.dto demoSplit)).1.toOption.isSome = true := by decide +kernel
  have refused := agrees.1
  rw [dictionary_refused] at refused
  unfold ServiceCall.args at refused
  dsimp only at refused
  rw [← refused] at applied
  cases applied

end DealFlow.Addon
