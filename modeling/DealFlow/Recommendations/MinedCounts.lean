import DealFlow.Services.RecommendationService

/-!
# What the counts of mined rules count

The mining gives each pair of products that some order of the window has the number of orders that
have it, and the rules it reaches are right.  It does not go back to the rules of pairs that no
order of the window has any more, nor to a second rule of a pair: these keep the count they had.
So the counts are right exactly when those rules had the right count before.

* `get_pairCounts`: what is counted for a pair.
* `mineCoPurchaseRules_again`: mining the same orders again changes nothing.
* `minedCountsHold_iff`: when the counts are those of the window.
-/

namespace DealFlow

open Lib

/-- The number of orders that have both products. -/
def coCount (orders : List MiningOrder) (a b : ℤ) : ℕ :=
  orders.countP fun o => a ∈ o.productIds ∧ b ∈ o.productIds

theorem coCount_comm (orders : List MiningOrder) (a b : ℤ) :
    coCount orders a b = coCount orders b a := by
  unfold coCount
  simp only [and_comm]

/-! ## The pairs of an order -/

theorem MiningOrder.mem_pids {o : MiningOrder} {a : ℤ} : a ∈ o.pids ↔ a ∈ o.productIds := by
  unfold pids
  rw [(List.perm_insertionSort _ _).mem_iff, List.mem_dedup]

theorem MiningOrder.nodup_pids (o : MiningOrder) : o.pids.Nodup :=
  (List.perm_insertionSort _ _).nodup_iff.mpr (List.nodup_dedup o.productIds)

theorem MiningOrder.mem_pairs {o : MiningOrder} {a b : ℤ} :
    (a, b) ∈ o.pairs ↔ a ≠ b ∧ a ∈ o.productIds ∧ b ∈ o.productIds := by
  unfold pairs
  rw [List.mem_filter, List.pair_mem_product, mem_pids, mem_pids, decide_eq_true_iff, and_comm]

theorem MiningOrder.nodup_pairs (o : MiningOrder) : o.pairs.Nodup :=
  (o.nodup_pids.product o.nodup_pids).filter _

theorem MiningOrder.countP_pairs {a b : ℤ} (different : a ≠ b) (o : MiningOrder) :
    (o.pairs.countP fun pair => pair = (a, b)) =
      if a ∈ o.productIds ∧ b ∈ o.productIds then 1 else 0 := by
  have count : o.pairs.count (a, b) = if (a, b) ∈ o.pairs then 1 else 0 := o.nodup_pairs.count
  simp only [mem_pairs, different, ne_eq, not_false_eq_true, true_and] at count
  rw [← count, List.count_eq_countP]
  exact List.countP_congr fun pair _ => by simp

/-! ## The pairs of all orders -/

theorem pairCounts_eq (orders : List MiningOrder) :
    pairCounts orders = (orders.flatMap MiningOrder.pairs).foldl Dict.increment .empty := by
  unfold pairCounts countPairs
  rw [List.foldl_flatMap]

theorem countP_flatMap_pairs {a b : ℤ} (different : a ≠ b) (orders : List MiningOrder) :
    ((orders.flatMap MiningOrder.pairs).countP fun pair => pair = (a, b)) =
      coCount orders a b := by
  induction orders with
  | nil => rfl
  | cons o orders ih =>
      unfold coCount at ih ⊢
      rw [List.flatMap_cons, List.countP_append, ih, MiningOrder.countP_pairs different,
        List.countP_cons, add_comm]
      simp only [decide_eq_true_eq]

theorem mem_flatMap_pairs {a b : ℤ} (orders : List MiningOrder) :
    (a, b) ∈ orders.flatMap MiningOrder.pairs ↔ a ≠ b ∧ 0 < coCount orders a b := by
  unfold coCount
  simp only [List.mem_flatMap, MiningOrder.mem_pairs, List.countP_pos_iff, decide_eq_true_eq]
  constructor
  · rintro ⟨o, mem, different, both⟩
    exact ⟨different, o, mem, both⟩
  · rintro ⟨different, o, mem, both⟩
    exact ⟨o, mem, different, both⟩

/-- A pair is counted when the products differ and some order has them, with the orders that do. -/
theorem get_pairCounts (orders : List MiningOrder) (a b : ℤ) :
    (pairCounts orders).get (a, b) =
      if a ≠ b ∧ 0 < coCount orders a b then some (coCount orders a b : ℤ) else none := by
  rw [pairCounts_eq, Dict.get_foldl_increment, Dict.get_empty, Option.getD_none, zero_add]
  by_cases counted : a ≠ b ∧ 0 < coCount orders a b
  · rw [if_pos ((mem_flatMap_pairs orders).mpr counted), if_pos counted,
      countP_flatMap_pairs counted.1]
  · rw [if_neg (mt (mem_flatMap_pairs orders).mp counted), if_neg counted]

theorem mem_pairCounts {orders : List MiningOrder} {entry : (ℤ × ℤ) × ℤ} :
    entry ∈ (pairCounts orders).entries ↔
      entry.1.1 ≠ entry.1.2 ∧ 0 < coCount orders entry.1.1 entry.1.2 ∧
        entry.2 = coCount orders entry.1.1 entry.1.2 := by
  obtain ⟨⟨a, b⟩, count⟩ := entry
  rw [Dict.mem_entries, get_pairCounts]
  split
  · next counted =>
      rw [Option.some.injEq, eq_comm]
      exact ⟨fun same => ⟨counted.1, counted.2, same⟩, fun all => all.2.2⟩
  · next uncounted =>
      exact ⟨fun none => absurd none (by simp), fun all => absurd ⟨all.1, all.2.1⟩ uncounted⟩

/-! ## The rules after the mining -/

/-- A mined rule of the company. -/
def RecommendationRule.IsMined (companyId : ℤ) (r : RecommendationRule) : Prop :=
  r.odooCompanyId = companyId ∧ r.source = "MINED"

/-- The count of a rule is the number of orders that have its two products. -/
def RecommendationRule.CountIs (orders : List MiningOrder) (r : RecommendationRule) : Prop :=
  r.coPurchaseCount = coCount orders r.triggerProductId r.suggestedProductId

/-- Rules of the company for a pair and its reverse have the same count. -/
def SymmetricCounts (companyId : ℤ) (rules : List RecommendationRule) : Prop :=
  ∀ r ∈ rules, ∀ s ∈ rules, r.IsMined companyId → s.IsMined companyId →
    s.triggerProductId = r.suggestedProductId → s.suggestedProductId = r.triggerProductId →
      s.coPurchaseCount = r.coPurchaseCount

/-- What the mining is for, of the orders of the window. -/
structure MinedCountsHold (gateway : MiningGateway) (today : ℤ) (rules : List RecommendationRule)
    (companyId lookbackDays : ℤ) : Prop where
  counts : ∀ r ∈ (mineCoPurchaseRules gateway today rules companyId lookbackDays).2,
    r.IsMined companyId → r.CountIs (gateway.window today lookbackDays)
  symmetric :
    SymmetricCounts companyId (mineCoPurchaseRules gateway today rules companyId lookbackDays).2
  again :
    (mineCoPurchaseRules gateway today
      (mineCoPurchaseRules gateway today rules companyId lookbackDays).2 companyId lookbackDays).2 =
    (mineCoPurchaseRules gateway today rules companyId lookbackDays).2

theorem minedRules_key {companyId : ℤ} {r : RecommendationRule} {pair : ℤ × ℤ} :
    (minedRules companyId).key r = some pair ↔ r.odooCompanyId = companyId ∧
      r.triggerProductId = pair.1 ∧ r.suggestedProductId = pair.2 := by
  simp [minedRules, Prod.ext_iff]

/-- Mining the same orders again changes nothing. -/
theorem mineCoPurchaseRules_again (gateway : MiningGateway) (today : ℤ)
    (rules : List RecommendationRule) (companyId lookbackDays : ℤ) :
    (mineCoPurchaseRules gateway today
      (mineCoPurchaseRules gateway today rules companyId lookbackDays).2 companyId lookbackDays).2 =
    (mineCoPurchaseRules gateway today rules companyId lookbackDays).2 :=
  Upsert.upsertAll_upsertAll (pairCounts (gateway.window today lookbackDays)).nodup rules

/-- Counts that are those of the orders are symmetric. -/
theorem symmetricCounts_of_countIs {companyId : ℤ} {orders : List MiningOrder}
    {rules : List RecommendationRule}
    (counts : ∀ r ∈ rules, r.IsMined companyId → r.CountIs orders) :
    SymmetricCounts companyId rules := by
  intro r memR s memS minedR minedS trigger suggested
  have countR := counts r memR minedR
  have countS := counts s memS minedS
  unfold RecommendationRule.CountIs at countR countS
  rw [countR, countS, trigger, suggested, coCount_comm]

/-- The mining does not get to a rule: nothing is counted for its pair, or an earlier rule has the
pair too. -/
def Unreached (companyId : ℤ) (orders : List MiningOrder) (before : List RecommendationRule)
    (r : RecommendationRule) : Prop :=
  r.triggerProductId = r.suggestedProductId ∨
    coCount orders r.triggerProductId r.suggestedProductId = 0 ∨
      ∃ earlier ∈ before, earlier.odooCompanyId = companyId ∧
        earlier.triggerProductId = r.triggerProductId ∧
          earlier.suggestedProductId = r.suggestedProductId

/-- The rules of the company that the mining does not get to are those its upserts do not reach. -/
theorem reached_iff {companyId : ℤ} {orders : List MiningOrder} {before : List RecommendationRule}
    {r : RecommendationRule} (company : r.odooCompanyId = companyId) :
    (minedRules companyId).Reached (pairCounts orders).entries before r ↔
      ¬ Unreached companyId orders before r := by
  unfold Upsert.Reached Unreached
  simp only [ne_eq, minedRules_key]
  push Not
  constructor
  · rintro ⟨entry, mem, ⟨-, trigger, suggested⟩, others⟩
    obtain ⟨different, counted, -⟩ := mem_pairCounts.mp mem
    rw [trigger, suggested]
    exact ⟨different, by omega, others⟩
  · rintro ⟨different, counted, others⟩
    have mem : ((r.triggerProductId, r.suggestedProductId),
        (coCount orders r.triggerProductId r.suggestedProductId : ℤ)) ∈
          (pairCounts orders).entries :=
      mem_pairCounts.mpr ⟨different, Nat.pos_of_ne_zero counted, rfl⟩
    exact ⟨_, mem, ⟨company, rfl, rfl⟩, others⟩

/-- After the mining the counts are those of the orders of the window when the mined rules that it
does not get to had these counts before. -/
theorem minedCountsHold_iff (gateway : MiningGateway) (today : ℤ) (rules : List RecommendationRule)
    (companyId lookbackDays : ℤ) :
    MinedCountsHold gateway today rules companyId lookbackDays ↔
      ∀ before r after, rules = before ++ r :: after → r.IsMined companyId →
        Unreached companyId (gateway.window today lookbackDays) before r →
          r.CountIs (gateway.window today lookbackDays) := by
  set orders := gateway.window today lookbackDays with window
  have counts : (∀ r ∈ (mineCoPurchaseRules gateway today rules companyId lookbackDays).2,
      r.IsMined companyId → r.CountIs orders) ↔
      ∀ before r after, rules = before ++ r :: after →
        (minedRules companyId).Reached (pairCounts orders).entries before r ∨
          (r.IsMined companyId → r.CountIs orders) := by
    refine Upsert.upsertAll_forall_iff (pairCounts orders).nodup ?_ ?_ rules
    · intro entry mem r same mined
      obtain ⟨-, trigger, suggested⟩ := minedRules_key.mp same
      have count := (mem_pairCounts.mp mem).2.2
      rw [← trigger, ← suggested] at count
      exact count
    · intro entry mem mined
      exact (mem_pairCounts.mp mem).2.2
  constructor
  · intro hold before r after split mined unreached
    rcases counts.mp hold.counts before r after split with reached | right
    · exact absurd unreached ((reached_iff mined.1).mp reached)
    · exact right mined
  · intro right
    have all : ∀ r ∈ (mineCoPurchaseRules gateway today rules companyId lookbackDays).2,
        r.IsMined companyId → r.CountIs orders := by
      refine counts.mpr fun before r after split => ?_
      by_cases reached : (minedRules companyId).Reached (pairCounts orders).entries before r
      · exact .inl reached
      · refine .inr fun mined => right before r after split mined ?_
        rw [reached_iff mined.1, not_not] at reached
        exact reached
    exact ⟨all, symmetricCounts_of_countIs all, mineCoPurchaseRules_again gateway today rules _ _⟩

/-- A rule mined from five orders of an earlier window. -/
def staleRule : RecommendationRule :=
  { triggerProductId := 101, suggestedProductId := 104, coPurchaseCount := 5, source := "MINED" }

/-- No order of the window has the pair, and the rule still counts five. -/
theorem staleRule_stays : ¬ MinedCountsHold ⟨fun _ => []⟩ 0 [staleRule] 1 365 := by
  intro hold
  have count := hold.counts staleRule List.mem_cons_self ⟨rfl, rfl⟩
  have five : (5 : ℤ) = 0 := count
  omega

end DealFlow
