import DealFlow.Services.AlertDetectors
import DealFlow.Alerts.Settle

/-!
# Baselines and activity

A discount baseline is taken from the deals of a group with the latest activity, and a pass of the
detectors rewrites the activity of deals.  How many deals it is taken from does not depend on that
(`sampleSize_touch`), so neither does whether an anomaly is looked for at all.  Where a group has no
more deals than the window takes, the baseline as a whole does not depend on it
(`effect_touch`).
-/

namespace DealFlow

open Lib

section Touch

variable (deals : Table DealRow) (touched : List ℕ) (now : Timestamp)

/-- A deal marked as active is one of the same group and status, with the same discount. -/
theorem weightedDiscount_touch (snapshots : Snapshots) (d : DealRow) :
    weightedDiscount snapshots (d.touch now) = weightedDiscount snapshots d := rfl

/-- The eligible deals of a group. -/
def eligibleDeals (group : DealRow → Bool) : List DealRow :=
  (deals.entries.map Prod.snd).filter fun d => group d ∧ d.status ∈ eligibleStatuses

/-- The group does not go by activity. -/
def IgnoresActivity (group : DealRow → Bool) : Prop :=
  ∀ d now, group (d.touch now) = group d

variable {group : DealRow → Bool}

/-- Marking deals as active changes the activity of the eligible deals and nothing else. -/
theorem eligibleDeals_touch (ignores : IgnoresActivity group) {β : Type} (f : DealRow → β)
    (same : ∀ d, f (d.touch now) = f d) :
    (eligibleDeals (deals.modify touched (DealRow.touch now)) group).map f =
      (eligibleDeals deals group).map f := by
  unfold eligibleDeals
  rw [Table.entries_modify, List.map_map, List.filter_map, List.filter_map, List.map_map,
    List.map_map]
  have test : ∀ entry : ℕ × DealRow,
      ((fun d => decide (group d = true ∧ d.status ∈ eligibleStatuses)) ∘ Prod.snd ∘
          fun entry : ℕ × DealRow =>
            if entry.1 ∈ touched then (entry.1, DealRow.touch now entry.2) else entry) entry =
        ((fun d => decide (group d = true ∧ d.status ∈ eligibleStatuses)) ∘ Prod.snd) entry := by
    intro entry
    simp only [Function.comp_apply]
    split
    · rw [ignores]
      rfl
    · rfl
  rw [List.filter_congr fun entry _ => test entry]
  refine List.map_congr_left fun entry _ => ?_
  simp only [Function.comp_apply]
  split
  · exact same entry.2
  · rfl

theorem latestDeals_length (window : ℕ) :
    (latestDeals deals window group).length = min window (eligibleDeals deals group).length := by
  unfold latestDeals
  rw [List.length_take, List.length_insertionSort]
  rfl

theorem latestDeals_length_touch (ignores : IgnoresActivity group) (window : ℕ) :
    (latestDeals (deals.modify touched (DealRow.touch now)) window group).length =
      (latestDeals deals window group).length := by
  have same := congrArg List.length
    (eligibleDeals_touch deals touched now ignores (fun _ => ()) fun _ => rfl)
  rw [List.length_map, List.length_map] at same
  rw [latestDeals_length, latestDeals_length, same]

/-- Where the window takes all of a group, it takes them in some order. -/
theorem latestDeals_perm {window : ℕ} (fits : (eligibleDeals deals group).length ≤ window) :
    (latestDeals deals window group).Perm (eligibleDeals deals group) := by
  have sorted := List.perm_insertionSort
    (fun a b : DealRow => b.lastActivityAt ≤ a.lastActivityAt) (eligibleDeals deals group)
  unfold latestDeals
  change (((eligibleDeals deals group).insertionSort _).take window).Perm _
  rw [List.take_of_length_le (sorted.length_eq.trans_le fits)]
  exact sorted

end Touch

/-! ## The sample of a deal -/

section Sample

variable (deals : Table DealRow) (touched : List ℕ) (now : Timestamp) (d : DealRow)

/-- The groups a baseline for the deal may be taken from: those of its rep, team and company. -/
def baselineGroups : List (DealRow → Bool) :=
  [fun e => e.ownerOdooUserId = d.ownerOdooUserId, fun e => e.salesTeamOdooId = d.salesTeamOdooId,
    fun e => e.odooCompanyId = d.odooCompanyId]

theorem ignoresActivity_of_mem {group : DealRow → Bool} (mem : group ∈ baselineGroups d) :
    IgnoresActivity group := by
  unfold baselineGroups at mem
  simp only [List.mem_cons, List.not_mem_nil, or_false] at mem
  rcases mem with rfl | rfl | rfl <;> exact fun _ _ => rfl

/-- Marking deals as active does not change which group the sample is taken from. -/
theorem sampleDeals_touch (window minSample : ℕ) :
    ∃ source, ∃ group ∈ baselineGroups d,
      sampleDeals deals d.ownerOdooUserId d.salesTeamOdooId d.odooCompanyId window minSample =
          (source, latestDeals deals window group) ∧
        sampleDeals (deals.modify touched (DealRow.touch now)) d.ownerOdooUserId
            d.salesTeamOdooId d.odooCompanyId window minSample =
          (source, latestDeals (deals.modify touched (DealRow.touch now)) window group) := by
  have groups : ∀ group ∈ baselineGroups d, IgnoresActivity group := fun _ =>
    ignoresActivity_of_mem d
  unfold baselineGroups at *
  simp only [List.forall_mem_cons, List.not_mem_nil, false_imp_iff, implies_true, and_true,
    List.exists_mem_cons_iff, false_and, exists_false, or_false] at groups ⊢
  obtain ⟨rep, team, company⟩ := groups
  unfold sampleDeals
  dsimp only
  rw [latestDeals_length_touch deals touched now rep]
  by_cases few : (latestDeals deals window fun e =>
      decide (e.ownerOdooUserId = d.ownerOdooUserId)).length < minSample
  · simp only [if_pos few]
    cases inTeam : d.salesTeamOdooId with
    | none => exact ⟨.rep, Or.inl ⟨rfl, rfl⟩⟩
    | some id =>
        rw [inTeam] at team
        dsimp only
        rw [latestDeals_length_touch deals touched now team]
        split
        · exact ⟨.team, Or.inr (Or.inl ⟨rfl, rfl⟩)⟩
        · exact ⟨.company, Or.inr (Or.inr ⟨rfl, rfl⟩)⟩
  · simp only [if_neg few]
    exact ⟨.rep, Or.inl ⟨rfl, rfl⟩⟩

variable (snapshots : Snapshots)

theorem sampleSize_eq (odooUserId : ℤ) (salesTeamId : Option ℤ) (odooCompanyId : ℤ)
    (window minSample : ℕ) :
    (calculateRepDiscountBaseline deals snapshots odooUserId salesTeamId odooCompanyId window
        minSample).sampleSize =
      (sampleDeals deals odooUserId salesTeamId odooCompanyId window minSample).2.length := by
  unfold calculateRepDiscountBaseline
  dsimp only
  split
  · next empty => exact empty.symm
  · rfl

theorem effect_eq_none_iff :
    (anomalyVerdict deals snapshots d).effect = none ↔
      (sampleDeals deals d.ownerOdooUserId d.salesTeamOdooId d.odooCompanyId 20 3).2.length <
        3 := by
  rw [← sampleSize_eq deals snapshots]
  unfold anomalyVerdict
  dsimp only
  split
  · next few => exact iff_of_true rfl few
  · next enough =>
      refine iff_of_false ?_ enough
      split <;> exact nofun

/-- Whether a deal has too small a sample does not depend on activity. -/
theorem effect_eq_none_touch :
    (anomalyVerdict (deals.modify touched (DealRow.touch now)) snapshots d).effect = none ↔
      (anomalyVerdict deals snapshots d).effect = none := by
  obtain ⟨source, group, mem, before, after⟩ := sampleDeals_touch deals touched now d 20 3
  rw [effect_eq_none_iff, effect_eq_none_iff, before, after,
    latestDeals_length_touch deals touched now (ignoresActivity_of_mem d mem)]

/-- Where the window takes all deals of each group, neither does the verdict. -/
theorem anomalyVerdict_touch
    (fits : ∀ group ∈ baselineGroups d, (eligibleDeals deals group).length ≤ 20) :
    anomalyVerdict (deals.modify touched (DealRow.touch now)) snapshots d =
      anomalyVerdict deals snapshots d := by
  obtain ⟨source, group, mem, before, after⟩ := sampleDeals_touch deals touched now d 20 3
  have ignores := ignoresActivity_of_mem d mem
  have length := latestDeals_length_touch deals touched now ignores 20
  have eligible := eligibleDeals_touch deals touched now ignores (weightedDiscount snapshots)
    (weightedDiscount_touch now snapshots)
  have fits' : (eligibleDeals (deals.modify touched (DealRow.touch now)) group).length ≤ 20 := by
    have same := congrArg List.length eligible
    rw [List.length_map, List.length_map] at same
    exact same ▸ fits group mem
  have perm : ((latestDeals (deals.modify touched (DealRow.touch now)) 20 group).map
      (weightedDiscount snapshots)).Perm
        ((latestDeals deals 20 group).map (weightedDiscount snapshots)) :=
    ((latestDeals_perm _ fits').map _).trans
      (eligible ▸ ((latestDeals_perm deals (fits group mem)).map _).symm)
  have baseline :
      calculateRepDiscountBaseline (deals.modify touched (DealRow.touch now)) snapshots
          d.ownerOdooUserId d.salesTeamOdooId d.odooCompanyId 20 3 =
        calculateRepDiscountBaseline deals snapshots d.ownerOdooUserId d.salesTeamOdooId
          d.odooCompanyId 20 3 := by
    unfold calculateRepDiscountBaseline
    rw [before, after]
    dsimp only
    rw [length, perm.sum_eq, (perm.map fun x => (x - _) ^ 2).sum_eq]
  unfold anomalyVerdict
  rw [baseline]

end Sample

end DealFlow
