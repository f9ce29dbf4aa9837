import DealFlow.Guardian.Policy
import DealFlow.Lib.FirstBest

/-!
# Which policy is resolved

The resolution folds how specific a policy is and its priority into one number, and takes the first
of the highest.  A stored policy also says from when to when it is in effect, which the resolution
does not read, and its priority is any number.  `resolvePolicyForLine_iff` says for which tables the
policy of a line is the most specific one in effect, of the smallest priority number, with the
figures as they are stored.
-/

namespace DealFlow

open Lib

/-- A row of `discount_policy`, with the columns the resolution does not read. -/
structure StoredPolicy extends DiscountPolicy where
  effectiveFrom : Option Timestamp := none
  effectiveTo : Option Timestamp := none
  deriving DecidableEq, Repr

/-- The tables with these policies. -/
def PolicyTables.withRows (tables : PolicyTables) (rows : List StoredPolicy) : PolicyTables :=
  { tables with discountPolicies := rows.map (·.toDiscountPolicy) }

/-! ## Policies -/

section Policy

variable (p : DiscountPolicy) (tierCode : String) (categoryId : ℤ)

/-- Category and tier are those of the line, or wildcards. -/
def DiscountPolicy.Applies : Prop :=
  (∀ category ∈ p.odooProductCategoryId, category = categoryId) ∧
    ∀ tier ∈ p.customerTierCode, tier = tierCode

instance : Decidable (p.Applies tierCode categoryId) :=
  inferInstanceAs (Decidable (_ ∧ _))

/-- Category and tier before category, before tier, before neither. -/
def DiscountPolicy.specificity : ℕ :=
  (if p.odooProductCategoryId.isSome then 2 else 0) + if p.customerTierCode.isSome then 1 else 0

/-- The number from which the resolution takes off the priority. -/
def DiscountPolicy.band : ℤ := 100 * (p.specificity + 1)

/-- The figures as stored, with the defaults where none is. -/
def DiscountPolicy.resolution : ResolvedPolicy :=
  { policyId := some p.id
    name := p.name
    maxDiscountPct := p.maxDiscountPct
    minimumMarginPct := p.minimumMarginPct.getD 20
    managerThreshold := p.managerThreshold.getD 20
    financeThreshold := p.financeThreshold.getD 50
    singleLineFinancePts := p.singleLineFinancePts.getD 10 }

/-- No threshold is stored as zero. -/
structure DiscountPolicy.NoZero : Prop where
  minimumMargin : p.minimumMarginPct ≠ some 0
  manager : p.managerThreshold ≠ some 0
  finance : p.financeThreshold ≠ some 0
  singleLine : p.singleLineFinancePts ≠ some 0

/-- What applies where no policy does. -/
def tierResolution (tierDefaultCeiling : ℚ) : ResolvedPolicy :=
  { policyId := none
    name := s!"Default Tier Policy ({tierCode})"
    maxDiscountPct := tierDefaultCeiling
    minimumMarginPct := 20
    managerThreshold := 20
    financeThreshold := 50
    singleLineFinancePts := 10 }

end Policy

section Policies

variable {tierCode : String} {categoryId : ℤ}

theorem policyScore_eq_some_iff {p : DiscountPolicy} {s : ℤ} :
    policyScore p tierCode categoryId = some s ↔
      p.Applies tierCode categoryId ∧ s = p.band - p.priority := by
  unfold policyScore DiscountPolicy.Applies DiscountPolicy.band DiscountPolicy.specificity
  split
  · next category tier known known' =>
      simp only [known, known', Option.mem_some_iff, forall_eq', Option.isSome_some, if_true]
      split
      · next same => simpa [same] using eq_comm
      · next other => simp [other]
  · next category known known' =>
      simp only [known, known', Option.mem_some_iff, forall_eq', Option.isSome_some, if_true]
      split
      · next same => simpa [same] using eq_comm
      · next other => simp [other]
  · next tier known known' =>
      simp only [known, known', Option.mem_some_iff, forall_eq', Option.isSome_some, if_true]
      split
      · next same => simpa [same] using eq_comm
      · next other => simp [other]
  · next known known' => simpa [known, known'] using eq_comm

theorem bestPolicy_eq (policies : List DiscountPolicy) :
    bestPolicy policies tierCode categoryId =
      firstBest (fun p => policyScore p tierCode categoryId) (-1) policies := by
  unfold bestPolicy firstBest
  congr 1
  funext best p
  unfold keepBest
  dsimp only
  cases policyScore p tierCode categoryId with
  | none => rfl
  | some score => rfl

/-- A stored value falls back only if it is zero. -/
theorem orElseDec_eq_getD_iff {value : Option ℚ} {fallback : ℚ} (nonzero : fallback ≠ 0) :
    orElseDec value fallback = value.getD fallback ↔ value ≠ some 0 := by
  cases value with
  | none => exact iff_of_true rfl nofun
  | some v =>
      by_cases zero : v = 0
      · rw [zero]
        exact iff_of_false nonzero (not_not.mpr rfl)
      · exact iff_of_true (if_neg zero) fun eq => zero (Option.some.inj eq)

/-- The figures that the resolution gives are the stored ones where none of them is zero. -/
theorem resolution_iff (p : DiscountPolicy) :
    ({ policyId := some p.id
       name := p.name
       maxDiscountPct := p.maxDiscountPct
       minimumMarginPct := orElseDec p.minimumMarginPct 20
       managerThreshold := orElseDec p.managerThreshold 20
       financeThreshold := orElseDec p.financeThreshold 50
       singleLineFinancePts := orElseDec p.singleLineFinancePts 10 } : ResolvedPolicy) =
        p.resolution ↔ p.NoZero := by
  unfold DiscountPolicy.resolution
  rw [ResolvedPolicy.mk.injEq, orElseDec_eq_getD_iff (by norm_num),
    orElseDec_eq_getD_iff (by norm_num), orElseDec_eq_getD_iff (by norm_num),
    orElseDec_eq_getD_iff (by norm_num)]
  constructor
  · rintro ⟨-, -, -, minimumMargin, manager, finance, singleLine⟩
    exact ⟨minimumMargin, manager, finance, singleLine⟩
  · rintro ⟨minimumMargin, manager, finance, singleLine⟩
    exact ⟨rfl, rfl, rfl, minimumMargin, manager, finance, singleLine⟩

end Policies

/-! ## Tables -/

section Rows

variable (rows : List StoredPolicy) (companyId : ℤ) (tierCode : String) (categoryId : ℤ)
  (now : Timestamp)

/-- The policy is in effect. -/
def StoredPolicy.InWindow (p : StoredPolicy) : Prop :=
  (∀ start ∈ p.effectiveFrom, start ≤ now) ∧ ∀ stop ∈ p.effectiveTo, now ≤ stop

instance (p : StoredPolicy) : Decidable (p.InWindow now) :=
  inferInstanceAs (Decidable (_ ∧ _))

/-- A policy of the company that is active, in effect and applies to the line. -/
structure StoredPolicy.Matches (p : StoredPolicy) : Prop where
  active : p.active = true
  company : p.odooCompanyId = companyId
  window : p.InWindow now
  applies : p.Applies tierCode categoryId

/-- No matching policy is more specific, and none as specific has a smaller priority number. -/
def StoredPolicy.Foremost (p : StoredPolicy) : Prop :=
  ∀ q ∈ rows, q.Matches companyId tierCode categoryId now →
    q.specificity < p.specificity ∨ q.specificity = p.specificity ∧ p.priority ≤ q.priority

/-- What the resolution of a line's policy should be. -/
def ResolvesForemost (resolved : ResolvedPolicy) (tierDefaultCeiling : ℚ) : Prop :=
  (∃ p ∈ rows, p.Matches companyId tierCode categoryId now ∧
      p.Foremost rows companyId tierCode categoryId now ∧ resolved = p.resolution) ∨
    (∀ p ∈ rows, ¬ p.Matches companyId tierCode categoryId now) ∧
      resolved = tierResolution tierCode tierDefaultCeiling

/-- The active policies of the company. -/
def activeRows : List StoredPolicy :=
  rows.filter fun p => p.active && p.odooCompanyId = companyId

/-- The policy applies to the line within its band, and of the others that apply none has a larger
difference of band and priority, and none before it the same. -/
structure TopsBand (before : List StoredPolicy) (p : StoredPolicy) (after : List StoredPolicy) :
    Prop where
  applies : p.Applies tierCode categoryId
  inBand : p.priority ≤ p.band
  before : ∀ q ∈ before, q.Applies tierCode categoryId →
    q.band - q.priority < p.band - p.priority
  after : ∀ q ∈ after, q.Applies tierCode categoryId →
    q.band - q.priority ≤ p.band - p.priority

/-- The tables for which bands, windows and defaults do no harm to a line: the policy that tops the
bands is in effect, no more specific one is, and none of its thresholds is zero; or no policy is in
effect and every priority exceeds its band. -/
def BandsHold : Prop :=
  (∃ before p after, activeRows rows companyId = before ++ p :: after ∧
      TopsBand tierCode categoryId before p after ∧ p.InWindow now ∧
      (∀ q ∈ activeRows rows companyId, q.Applies tierCode categoryId → q.InWindow now →
        q.specificity ≤ p.specificity) ∧
      p.NoZero) ∨
    ∀ q ∈ activeRows rows companyId, q.Applies tierCode categoryId →
      ¬ q.InWindow now ∧ q.band < q.priority

end Rows

section Resolution

variable {rows : List StoredPolicy} {companyId : ℤ} {tierCode : String} {categoryId : ℤ}
  {now : Timestamp}

theorem mem_activeRows {p : StoredPolicy} :
    p ∈ activeRows rows companyId ↔ p ∈ rows ∧ p.active = true ∧ p.odooCompanyId = companyId := by
  unfold activeRows
  rw [List.mem_filter, Bool.and_eq_true, decide_eq_true_iff]

theorem matches_iff {p : StoredPolicy} :
    p ∈ rows ∧ p.Matches companyId tierCode categoryId now ↔
      p ∈ activeRows rows companyId ∧ p.Applies tierCode categoryId ∧ p.InWindow now := by
  rw [mem_activeRows]
  constructor
  · rintro ⟨mem, active, company, window, applies⟩
    exact ⟨⟨mem, active, company⟩, applies, window⟩
  · rintro ⟨⟨mem, active, company⟩, applies, window⟩
    exact ⟨mem, active, company, window, applies⟩

/-- The policies that the resolution compares. -/
theorem filter_withRows (tables : PolicyTables) :
    (tables.withRows rows).discountPolicies.filter
        (fun p => p.active && p.odooCompanyId = companyId) =
      (activeRows rows companyId).map (·.toDiscountPolicy) :=
  List.filter_map

/-- The resolution takes the policy that tops the bands. -/
theorem bestPolicy_eq_some_iff {best : DiscountPolicy} :
    (bestPolicy ((activeRows rows companyId).map (·.toDiscountPolicy)) tierCode categoryId).1 =
        some best ↔
      ∃ before p after, activeRows rows companyId = before ++ p :: after ∧
        TopsBand tierCode categoryId before p after ∧ p.toDiscountPolicy = best := by
  rw [bestPolicy_eq, firstBest_iff]
  constructor
  · rintro ⟨before', s, after', split, first⟩
    obtain ⟨before, rest, listed, rfl, tail⟩ := List.map_eq_append_iff.mp split
    obtain ⟨p, after, rfl, rfl, rfl⟩ := List.map_eq_cons_iff.mp tail
    obtain ⟨applies, rfl⟩ := policyScore_eq_some_iff.mp first.scored
    have above := first.above
    refine ⟨before, p, after, listed, ⟨applies, by omega, fun q mem applies => ?_,
      fun q mem applies => ?_⟩, rfl⟩
    · exact first.before q.toDiscountPolicy (List.mem_map_of_mem mem) _
        (policyScore_eq_some_iff.mpr ⟨applies, rfl⟩)
    · exact first.after q.toDiscountPolicy (List.mem_map_of_mem mem) _
        (policyScore_eq_some_iff.mpr ⟨applies, rfl⟩)
  · rintro ⟨before, p, after, split, tops, rfl⟩
    have inBand := tops.inBand
    refine ⟨before.map (·.toDiscountPolicy), p.band - p.priority,
      after.map (·.toDiscountPolicy), by rw [split, List.map_append, List.map_cons],
      policyScore_eq_some_iff.mpr ⟨tops.applies, rfl⟩, by omega, fun q mem s scored => ?_,
      fun q mem s scored => ?_⟩
    · obtain ⟨r, memR, rfl⟩ := List.mem_map.mp mem
      obtain ⟨applies, rfl⟩ := policyScore_eq_some_iff.mp scored
      exact tops.before r memR applies
    · obtain ⟨r, memR, rfl⟩ := List.mem_map.mp mem
      obtain ⟨applies, rfl⟩ := policyScore_eq_some_iff.mp scored
      exact tops.after r memR applies

/-- It takes none where every priority exceeds its band. -/
theorem bestPolicy_eq_none_iff :
    (bestPolicy ((activeRows rows companyId).map (·.toDiscountPolicy)) tierCode categoryId).1 =
        none ↔
      ∀ q ∈ activeRows rows companyId, q.Applies tierCode categoryId → q.band < q.priority := by
  rw [bestPolicy_eq, firstBest_eq_none_iff, List.forall_mem_map]
  refine forall₂_congr fun q _ => ?_
  constructor
  · intro low applies
    have bound := low _ (policyScore_eq_some_iff.mpr ⟨applies, rfl⟩)
    omega
  · intro exceeds s scored
    obtain ⟨applies, rfl⟩ := policyScore_eq_some_iff.mp scored
    have bound := exceeds applies
    omega

theorem resolvePolicyForLine_some {tables : PolicyTables} {ceiling : ℚ} {best : DiscountPolicy}
    (chosen : (bestPolicy ((activeRows rows companyId).map (·.toDiscountPolicy)) tierCode
      categoryId).1 = some best) :
    resolvePolicyForLine (tables.withRows rows) companyId tierCode categoryId ceiling =
      { policyId := some best.id
        name := best.name
        maxDiscountPct := best.maxDiscountPct
        minimumMarginPct := orElseDec best.minimumMarginPct 20
        managerThreshold := orElseDec best.managerThreshold 20
        financeThreshold := orElseDec best.financeThreshold 50
        singleLineFinancePts := orElseDec best.singleLineFinancePts 10 } := by
  unfold resolvePolicyForLine
  dsimp only
  rw [filter_withRows, chosen]

theorem resolvePolicyForLine_none {tables : PolicyTables} {ceiling : ℚ}
    (chosen : (bestPolicy ((activeRows rows companyId).map (·.toDiscountPolicy)) tierCode
      categoryId).1 = none) :
    resolvePolicyForLine (tables.withRows rows) companyId tierCode categoryId ceiling =
      tierResolution tierCode ceiling := by
  unfold resolvePolicyForLine
  dsimp only
  rw [filter_withRows, chosen]
  rfl

/-- No policy that applies is above the one that tops the bands. -/
theorem TopsBand.le {before after : List StoredPolicy} {p q : StoredPolicy}
    (tops : TopsBand tierCode categoryId before p after) (mem : q ∈ before ++ p :: after)
    (applies : q.Applies tierCode categoryId) : q.band - q.priority ≤ p.band - p.priority := by
  rcases List.mem_append.mp mem with earlier | later
  · exact (tops.before q earlier applies).le
  · rcases List.mem_cons.mp later with rfl | later
    · exact le_rfl
    · exact tops.after q later applies

/-- The policy that tops the bands is the foremost one if it is in effect and no more specific one
is. -/
theorem TopsBand.foremost {before after : List StoredPolicy} {p : StoredPolicy}
    (listed : activeRows rows companyId = before ++ p :: after)
    (tops : TopsBand tierCode categoryId before p after)
    (specific : ∀ q ∈ activeRows rows companyId, q.Applies tierCode categoryId → q.InWindow now →
      q.specificity ≤ p.specificity) :
    p.Foremost rows companyId tierCode categoryId now := by
  intro q mem known
  obtain ⟨memActive, applies, window⟩ := matches_iff.mp ⟨mem, known⟩
  rcases (specific q memActive applies window).lt_or_eq with less | equal
  · exact .inl less
  · refine .inr ⟨equal, ?_⟩
    have bands : q.band = p.band := by
      unfold DiscountPolicy.band
      rw [equal]
    have top := tops.le (listed ▸ memActive) applies
    omega

end Resolution

/-- The policy of a line is resolved as it should be exactly for the tables where bands, windows and
defaults do no harm. -/
theorem resolvePolicyForLine_iff (tables : PolicyTables) (rows : List StoredPolicy)
    (companyId : ℤ) (tierCode : String) (categoryId : ℤ) (now : Timestamp) (tierDefaultCeiling : ℚ)
    (ids : (rows.map (·.id)).Nodup) :
    ResolvesForemost rows companyId tierCode categoryId now
        (resolvePolicyForLine (tables.withRows rows) companyId tierCode categoryId
          tierDefaultCeiling) tierDefaultCeiling ↔
      BandsHold rows companyId tierCode categoryId now := by
  constructor
  · intro resolves
    cases chosen : (bestPolicy ((activeRows rows companyId).map (·.toDiscountPolicy)) tierCode
        categoryId).1 with
    | none =>
        rw [resolvePolicyForLine_none chosen] at resolves
        rcases resolves with ⟨p, -, -, -, resolved⟩ | ⟨unmatched, -⟩
        · exact absurd (congrArg ResolvedPolicy.policyId resolved) nofun
        · refine .inr fun q mem applies => ⟨fun window => ?_,
            bestPolicy_eq_none_iff.mp chosen q mem applies⟩
          obtain ⟨memRows, known⟩ := matches_iff.mpr ⟨mem, applies, window⟩
          exact unmatched q memRows known
    | some best =>
        rw [resolvePolicyForLine_some chosen] at resolves
        obtain ⟨before, p, after, listed, tops, rfl⟩ := bestPolicy_eq_some_iff.mp chosen
        have memActive : p ∈ activeRows rows companyId := by
          rw [listed]
          exact List.mem_append_right _ List.mem_cons_self
        rcases resolves with ⟨q, memQ, known, foremost, resolved⟩ | ⟨-, resolved⟩
        · have same : p = q := by
            have id : p.id = q.id := Option.some.inj (congrArg ResolvedPolicy.policyId resolved)
            exact List.inj_on_of_nodup_map ids (mem_activeRows.mp memActive).1 memQ id
          subst same
          refine .inl ⟨before, p, after, listed, tops, known.window, fun r mem applies window => ?_,
            (resolution_iff _).mp resolved⟩
          obtain ⟨memR, knownR⟩ := matches_iff.mpr ⟨mem, applies, window⟩
          rcases foremost r memR knownR with less | ⟨equal, -⟩
          · exact less.le
          · exact equal.le
        · exact absurd (congrArg ResolvedPolicy.policyId resolved) nofun
  · rintro (⟨before, p, after, listed, tops, window, specific, figures⟩ | exceeds)
    · have memActive : p ∈ activeRows rows companyId := by
        rw [listed]
        exact List.mem_append_right _ List.mem_cons_self
      obtain ⟨mem, known⟩ := matches_iff.mpr ⟨memActive, tops.applies, window⟩
      rw [resolvePolicyForLine_some
        (bestPolicy_eq_some_iff.mpr ⟨before, p, after, listed, tops, rfl⟩)]
      exact .inl ⟨p, mem, known, tops.foremost listed specific, (resolution_iff _).mpr figures⟩
    · rw [resolvePolicyForLine_none
        (bestPolicy_eq_none_iff.mpr fun q mem applies => (exceeds q mem applies).2)]
      refine .inr ⟨fun q mem known => ?_, rfl⟩
      obtain ⟨memActive, applies, window⟩ := matches_iff.mp ⟨mem, known⟩
      exact (exceeds q memActive applies).1 window

/-- Priorities below a hundred keep the bands apart, so the tables hold where all active policies
are also in effect and store no threshold as zero. -/
theorem bandsHold_of_tidy {rows : List StoredPolicy} {companyId : ℤ} {now : Timestamp}
    (priorities : ∀ q ∈ activeRows rows companyId, 0 ≤ q.priority ∧ q.priority < 100)
    (windows : ∀ q ∈ activeRows rows companyId, q.InWindow now)
    (figures : ∀ q ∈ activeRows rows companyId, q.NoZero) (tierCode : String) (categoryId : ℤ) :
    BandsHold rows companyId tierCode categoryId now := by
  have least : ∀ q : StoredPolicy, 100 ≤ q.band := by
    intro q
    unfold DiscountPolicy.band
    omega
  cases chosen : (bestPolicy ((activeRows rows companyId).map (·.toDiscountPolicy)) tierCode
      categoryId).1 with
  | none =>
      refine .inr fun q mem applies => ?_
      have exceeds := bestPolicy_eq_none_iff.mp chosen q mem applies
      have priority := (priorities q mem).2
      have band := least q
      omega
  | some best =>
      obtain ⟨before, p, after, listed, tops, rfl⟩ := bestPolicy_eq_some_iff.mp chosen
      have mem : p ∈ activeRows rows companyId := by
        rw [listed]
        exact List.mem_append_right _ List.mem_cons_self
      refine .inl ⟨before, p, after, listed, tops, windows p mem, fun q memQ applies _ => ?_,
        figures p mem⟩
      have top := tops.le (listed ▸ memQ) applies
      have priority := (priorities q memQ).2
      have priority' := (priorities p mem).1
      unfold DiscountPolicy.band at top
      omega

/-- A policy for gold customers and one for them in the first category. -/
def goldRows : List StoredPolicy :=
  [{ id := 1, name := "Gold", customerTierCode := some "GOLD", maxDiscountPct := 20
     minimumMarginPct := some 15 },
    { id := 2, name := "Gold hardware", customerTierCode := some "GOLD"
      odooProductCategoryId := some 1, maxDiscountPct := 25, effectiveFrom := some 0 }]

theorem goldRows_resolves :
    ResolvesForemost goldRows 1 "GOLD" 1 5
      (resolvePolicyForLine (({} : PolicyTables).withRows goldRows) 1 "GOLD" 1 15) 15 := by
  refine (resolvePolicyForLine_iff {} goldRows 1 "GOLD" 1 5 15 (by decide)).mpr ?_
  have rows : ∀ q ∈ activeRows goldRows 1, q.InWindow 5 ∧ 0 ≤ q.priority ∧ q.priority < 100 := by
    decide
  refine bandsHold_of_tidy (fun q mem => (rows q mem).2) (fun q mem => (rows q mem).1) ?_ _ _
  intro q mem
  obtain ⟨inRows, -⟩ := mem_activeRows.mp mem
  rcases List.mem_cons.mp inRows with rfl | later
  · constructor <;> decide
  · rw [List.mem_singleton.mp later]
    constructor <;> decide

/-- A policy for a clearance: no margin is asked for. -/
def clearanceRows : List StoredPolicy :=
  [{ id := 1, name := "Clearance", maxDiscountPct := 40, minimumMarginPct := some 0 }]

/-- The margin of zero is taken for a missing one, so the default of 20 applies. -/
theorem clearanceRows_resolves :
    ¬ ResolvesForemost clearanceRows 1 "GOLD" 1 5
      (resolvePolicyForLine (({} : PolicyTables).withRows clearanceRows) 1 "GOLD" 1 15) 15 := by
  have margin : (resolvePolicyForLine (({} : PolicyTables).withRows clearanceRows) 1 "GOLD" 1
      15).minimumMarginPct = 20 := by
    decide +kernel
  rintro (⟨p, mem, -, -, resolved⟩ | ⟨unmatched, -⟩)
  · rw [List.mem_singleton.mp mem] at resolved
    rw [resolved] at margin
    exact absurd margin (by decide +kernel)
  · exact unmatched _ List.mem_cons_self ⟨rfl, rfl, by decide, by decide⟩

end DealFlow
