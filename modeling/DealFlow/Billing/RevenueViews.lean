import DealFlow.Addon.DealContext
import DealFlow.Billing.BilledRevenue

/-!
# Two views of recurring revenue

The context of a deal goes by the flag and the interval of a line; `parse_mixed_order` also goes by
the words of its names.  A line without the flag that the words catch is counted all the same, and a
monthly line whose product says year or annual is counted by the year.  The two views agree exactly
when what the words change comes to nothing (`viewsAgree_iff`).
-/

namespace DealFlow.Addon

open Lib

/-- A line of a context as `parse_mixed_order` takes it, by the names of its fields. -/
def OrderLineDTO.toMockLine (line : OrderLineDTO) : MockLine :=
  { productName := some line.productName
    categoryName := line.categoryName
    productUomQty := some line.productUomQty
    priceUnit := line.priceUnit
    discount := line.discount
    priceSubtotal := some line.priceSubtotal
    isRecurring := line.isRecurring
    recurringInterval := line.recurringInterval }

/-- The context reports the recurring revenue that is parsed out of its lines. -/
structure ViewsAgree (context : DealContextDTO) : Prop where
  hasRecurring : context.hasRecurringLines =
    (parseMixedOrder (context.lines.map (·.toMockLine))).hasRecurring
  mrr : context.mrr = (parseMixedOrder (context.lines.map (·.toMockLine))).recurringMrr
  arr : context.arr = (parseMixedOrder (context.lines.map (·.toMockLine))).recurringArr

/-! ## What the words change -/

namespace OrderLineDTO

variable (line : OrderLineDTO)

/-- A line without the flag that counts as recurring, by its interval or by its words. -/
def caught : Bool :=
  !line.isRecurring && line.toMockLine.recurs

/-- A flagged line that is not billed by the year and counts as such, by the words of its
product. -/
def misread : Bool :=
  line.isRecurring && line.recurringInterval ≠ some "year" &&
    line.toMockLine.normalizedInterval = .year

/-- What a line brings by the month, by its flag and interval. -/
def statedMrr : ℚ :=
  if line.isRecurring then
    if line.recurringInterval = some "year" then float64 (float64 line.priceSubtotal / 12)
    else float64 line.priceSubtotal
  else 0

def statedArr : ℚ :=
  if line.isRecurring then
    if line.recurringInterval = some "year" then float64 line.priceSubtotal
    else float64 (float64 line.priceSubtotal * 12)
  else 0

/-- What the words make of it: a line that they catch counts, and one that is misread is divided by
the year. -/
def wordedMrr : ℚ :=
  if line.caught then line.toMockLine.mrr
  else if line.misread then float64 (float64 line.priceSubtotal / 12)
  else line.statedMrr

def wordedArr : ℚ :=
  if line.caught then line.toMockLine.arr
  else if line.misread then float64 line.priceSubtotal
  else line.statedArr

end OrderLineDTO

/-- The words catch a line only beside one that has the flag, and what they change comes to nothing
once it is added up and rounded, by the month and by the year. -/
structure WordsChangeNothing (lines : List OrderLineDTO) : Prop where
  flagged : (∃ line ∈ lines, line.caught = true) → ∃ line ∈ lines, line.isRecurring = true
  mrr : roundTo 2 (runningSum float64 (lines.map (·.wordedMrr))) =
    roundTo 2 (runningSum float64 (lines.map (·.statedMrr)))
  arr : roundTo 2 (runningSum float64 (lines.map (·.wordedArr))) =
    roundTo 2 (runningSum float64 (lines.map (·.statedArr)))

section Line

variable (line : OrderLineDTO)

theorem recurs_iff : line.toMockLine.recurs = true ↔
    line.isRecurring = true ∨ line.caught = true := by
  unfold OrderLineDTO.caught
  cases flag : line.isRecurring with
  | true =>
      refine iff_of_true ?_ (.inl rfl)
      unfold MockLine.recurs OrderLineDTO.toMockLine
      dsimp only
      rw [flag]
      rfl
  | false => simp

/-- How a flagged line is read: by the year if it says so or is misread. -/
theorem normalizedInterval_flagged (flag : line.isRecurring = true) :
    line.toMockLine.normalizedInterval =
      if line.recurringInterval = some "year" ∨ line.misread = true then .year else .month := by
  unfold OrderLineDTO.misread
  rw [flag]
  by_cases year : line.recurringInterval = some "year"
  · have read : occursIn "year" "year".toLower = true := by decide +kernel
    rw [if_pos (.inl year)]
    unfold MockLine.normalizedInterval OrderLineDTO.toMockLine
    dsimp only
    rw [year, Option.getD_some, read]
    rfl
  · cases line.toMockLine.normalizedInterval with
    | year => simp [year]
    | month => simp [year]

/-- What is parsed of a line is what its words make of what it states. -/
theorem parsed_eq :
    (if line.toMockLine.recurs then line.toMockLine.mrr else 0) = line.wordedMrr ∧
      (if line.toMockLine.recurs then line.toMockLine.arr else 0) = line.wordedArr := by
  have subtotal : line.toMockLine.subtotal = float64 line.priceSubtotal := rfl
  unfold OrderLineDTO.wordedMrr OrderLineDTO.wordedArr OrderLineDTO.statedMrr OrderLineDTO.statedArr
  cases flag : line.isRecurring with
  | false =>
      have caught : line.caught = line.toMockLine.recurs := by
        unfold OrderLineDTO.caught
        rw [flag]
        rfl
      have misread : line.misread = false := by
        unfold OrderLineDTO.misread
        rw [flag]
        rfl
      rw [caught, misread]
      simp
  | true =>
      have caught : line.caught = false := by
        unfold OrderLineDTO.caught
        rw [flag]
        rfl
      have recurs : line.toMockLine.recurs = true := (recurs_iff line).mpr (.inl flag)
      have interval := normalizedInterval_flagged line flag
      unfold MockLine.mrr MockLine.arr
      rw [recurs, if_pos rfl, if_pos rfl, caught, interval, subtotal]
      by_cases year : line.recurringInterval = some "year"
      · have misread : line.misread = false := by
          unfold OrderLineDTO.misread
          simp [year]
        simp [year, misread]
      · cases line.misread with
        | true => simp
        | false => simp [year]

end Line

/-- What is parsed of some lines before it is rounded. -/
theorem parsedRevenue_eq (lines : List OrderLineDTO) :
    monthlyRevenue (lines.map (·.toMockLine)) = runningSum float64 (lines.map (·.wordedMrr)) ∧
      yearlyRevenue (lines.map (·.toMockLine)) =
        runningSum float64 (lines.map (·.wordedArr)) := by
  unfold monthlyRevenue yearlyRevenue
  rw [runningSum_filter_map rounds_float64, runningSum_filter_map rounds_float64, List.map_map,
    List.map_map]
  constructor
  · exact congrArg _ (List.map_congr_left fun line _ => (parsed_eq line).1)
  · exact congrArg _ (List.map_congr_left fun line _ => (parsed_eq line).2)

/-- The words make an order recur that does not say so when they catch a line and no line has the
flag. -/
theorem hasRecurring_eq_iff (lines : List OrderLineDTO) :
    lines.any (·.isRecurring) = (parseMixedOrder (lines.map (·.toMockLine))).hasRecurring ↔
      ((∃ line ∈ lines, line.caught = true) → ∃ line ∈ lines, line.isRecurring = true) := by
  have parsed : (parseMixedOrder (lines.map (·.toMockLine))).hasRecurring = true ↔
      (∃ line ∈ lines, line.isRecurring = true) ∨ ∃ line ∈ lines, line.caught = true := by
    unfold parseMixedOrder
    dsimp only
    rw [decide_eq_true_eq, ne_eq, List.filter_eq_nil_iff, List.forall_mem_map]
    push Not
    rw [← exists_or]
    refine exists_congr fun line => ?_
    rw [recurs_iff, and_or_left]
  rw [Bool.eq_iff_iff, parsed, List.any_eq_true]
  constructor
  · intro same caught
    exact same.mpr (.inr caught)
  · intro beside
    exact ⟨.inl, fun either => either.elim id beside⟩

section Context

variable {db : Db} {fields : OdooFields} {orderId : ℕ}

theorem dto_year_iff (line : SaleOrderLine) (subtotal : ℚ) (id : ℕ) :
    (line.dto subtotal id).recurringInterval = some "year" ↔
      line.dealflowRecurringInterval = some .year := by
  unfold SaleOrderLine.dto
  dsimp only
  cases line.dealflowRecurringInterval with
  | none => exact iff_of_false nofun nofun
  | some interval => cases interval <;> decide

/-- The loop adds up what the lines state. -/
theorem contextRevenue_eq : db.contextRevenue fields orderId =
    { hasRecurring := (db.contextLines fields orderId).any (·.isRecurring)
      mrr := runningSum float64 ((db.contextLines fields orderId).map (·.statedMrr))
      arr := runningSum float64 ((db.contextLines fields orderId).map (·.statedArr)) } := by
  unfold Db.contextRevenue Db.contextLines
  induction db.pricedLines orderId using List.reverseRecOn with
  | nil => rfl
  | append_singleton entries entry ih =>
      obtain ⟨id, line⟩ := entry
      have flag : (line.dto (fields.priceSubtotal id) id).isRecurring = line.dealflowIsRecurring :=
        rfl
      have amount : (line.dto (fields.priceSubtotal id) id).priceSubtotal =
        fields.priceSubtotal id := rfl
      rw [List.foldl_concat, ih]
      simp only [List.map_append, List.map_singleton, List.any_append, List.any_cons, List.any_nil,
        Bool.or_false, runningSum_concat]
      unfold RecurringRevenue.add OrderLineDTO.statedMrr OrderLineDTO.statedArr
      simp only [flag, amount, dto_year_iff]
      cases line.dealflowIsRecurring with
      | true =>
          simp only [if_true, Bool.or_true]
          split <;> rfl
      | false =>
          simp [runningSum_idem rounds_float64]

end Context

/-- A context that reports what its lines state agrees with what is parsed of them when the words
change nothing. -/
theorem viewsAgree_of_stated {context : DealContextDTO}
    (flag : context.hasRecurringLines = context.lines.any (·.isRecurring))
    (month : context.mrr = roundTo 2 (runningSum float64 (context.lines.map (·.statedMrr))))
    (year : context.arr = roundTo 2 (runningSum float64 (context.lines.map (·.statedArr)))) :
    ViewsAgree context ↔ WordsChangeNothing context.lines := by
  have parsedMonth : (parseMixedOrder (context.lines.map (·.toMockLine))).recurringMrr =
      roundTo 2 (runningSum float64 (context.lines.map (·.wordedMrr))) :=
    congrArg (roundTo 2) (parsedRevenue_eq context.lines).1
  have parsedYear : (parseMixedOrder (context.lines.map (·.toMockLine))).recurringArr =
      roundTo 2 (runningSum float64 (context.lines.map (·.wordedArr))) :=
    congrArg (roundTo 2) (parsedRevenue_eq context.lines).2
  constructor
  · rintro ⟨same, sameMonth, sameYear⟩
    rw [flag] at same
    rw [month, parsedMonth] at sameMonth
    rw [year, parsedYear] at sameYear
    exact ⟨(hasRecurring_eq_iff _).mp same, sameMonth.symm, sameYear.symm⟩
  · rintro ⟨flagged, sameMonth, sameYear⟩
    refine ⟨?_, ?_, ?_⟩
    · rw [flag]
      exact (hasRecurring_eq_iff _).mpr flagged
    · rw [month, parsedMonth, sameMonth]
    · rw [year, parsedYear, sameYear]

/-- Lines that the words neither catch nor misread. -/
theorem wordsChangeNothing_of_plain {lines : List OrderLineDTO}
    (plain : ∀ line ∈ lines, line.caught = false ∧ line.misread = false) :
    WordsChangeNothing lines := by
  have month : lines.map (·.wordedMrr) = lines.map (·.statedMrr) := by
    refine List.map_congr_left fun line mem => ?_
    obtain ⟨caught, misread⟩ := plain line mem
    unfold OrderLineDTO.wordedMrr
    rw [caught, misread]
    rfl
  have year : lines.map (·.wordedArr) = lines.map (·.statedArr) := by
    refine List.map_congr_left fun line mem => ?_
    obtain ⟨caught, misread⟩ := plain line mem
    unfold OrderLineDTO.wordedArr
    rw [caught, misread]
    rfl
  refine ⟨?_, ?_, ?_⟩
  · rintro ⟨line, mem, caught⟩
    rw [(plain line mem).1] at caught
    cases caught
  · rw [month]
  · rw [year]

/-! ## A plan that is billed by the month -/

/-- An order of one service that is flagged and billed by the month. -/
def monthlyService (product : String) : Db :=
  { orders := Table.empty.insert
      { name := "SO0001", partner := { id := 3 }, dealflowDealId := some "DEAL-1" }
    lines := Table.empty.insert
      { orderId := 1
        productId := some { id := 7, name := product, categName := some "Service" }
        priceUnit := 120
        dealflowIsRecurring := true
        dealflowRecurringInterval := some .month }
    negotiations := Table.empty }

def monthlyFields : OdooFields :=
  { customer := { id := 3, name := "Wayne" }
    dateOrder := "2026-01-05"
    amountUntaxed := 120
    amountTax := 0
    amountTotal := 120
    priceSubtotal := fun _ => 120 }

end DealFlow.Addon
