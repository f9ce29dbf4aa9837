import DealFlow.Guardian.Recommend
import Mathlib.Data.List.Perm.Subperm

/-!
# The rules that are kept

For each product the engine keeps the first of the strongest rules for it
(`bestRulePerProduct_strongest`).  Of several strongest rules any may come first, and the products
may come in any order: whatever strongest rules are picked, one for each product, some order of the
rules makes the engine keep these, in the order in which they are picked (`exists_perm_entries`).
-/

namespace DealFlow

open Lib

/-- No rule for the same product is stronger. -/
structure IsStrongest (arithmetic : Arithmetic) (rules : List RecommendationRule)
    (r : RecommendationRule) : Prop where
  mem : r ∈ rules
  strongest : ∀ s ∈ rules, s.suggestedProductId = r.suggestedProductId →
    s.strength arithmetic ≤ r.strength arithmetic

theorem IsStrongest.perm {arithmetic : Arithmetic} {rules rules' : List RecommendationRule}
    {r : RecommendationRule} (perm : rules.Perm rules')
    (strongest : IsStrongest arithmetic rules r) : IsStrongest arithmetic rules' r where
  mem := perm.mem_iff.mp strongest.mem
  strongest s mem := strongest.strongest s (perm.mem_iff.mpr mem)

/-! ## What is kept -/

section Kept

variable {arithmetic : Arithmetic} {rules heads rest : List RecommendationRule}

/-- What one rule does to the rule kept for a product. -/
theorem keepRule_cases (arithmetic : Arithmetic) (best : Dict ℤ RecommendationRule)
    (r : RecommendationRule) (pid : ℤ) :
    (keepRule arithmetic best r).get pid = best.get pid ∧
        (pid = r.suggestedProductId →
          ∃ kept, best.get pid = some kept ∧ r.strength arithmetic ≤ kept.strength arithmetic) ∨
      (keepRule arithmetic best r).get pid = some r ∧ pid = r.suggestedProductId ∧
        ∀ kept, best.get pid = some kept → kept.strength arithmetic < r.strength arithmetic := by
  unfold keepRule
  by_cases here : pid = r.suggestedProductId
  · subst here
    cases known : best.get r.suggestedProductId with
    | none =>
        right
        simp [Dict.get_set]
    | some kept =>
        dsimp only
        by_cases stronger : r.strength arithmetic > kept.strength arithmetic
        · right
          rw [if_pos stronger, Dict.get_set, if_pos rfl]
          refine ⟨rfl, rfl, fun other same => ?_⟩
          rw [← Option.some.inj same]
          exact stronger
        · left
          rw [if_neg stronger]
          exact ⟨known, fun _ => ⟨kept, rfl, not_lt.mp stronger⟩⟩
  · left
    refine ⟨?_, fun same => absurd same here⟩
    split
    · rw [Dict.get_set, if_neg here]
    · split
      · rw [Dict.get_set, if_neg here]
      · rfl

/-- A rule for a product keeps a rule for it. -/
theorem keepRule_isSome (best : Dict ℤ RecommendationRule) (r : RecommendationRule) (pid : ℤ) :
    ((keepRule arithmetic best r).get pid).isSome ↔
      (best.get pid).isSome ∨ r.suggestedProductId = pid := by
  rcases keepRule_cases arithmetic best r pid with ⟨stays, weak⟩ | ⟨new, same, -⟩
  · rw [stays]
    refine (or_iff_left_of_imp fun same => ?_).symm
    obtain ⟨kept, known, -⟩ := weak same.symm
    rw [known]
    rfl
  · rw [new]
    exact iff_of_true rfl (.inr same.symm)

theorem bestRulePerProduct_isSome (arithmetic : Arithmetic) (rules : List RecommendationRule)
    (pid : ℤ) : ((bestRulePerProduct arithmetic rules).get pid).isSome ↔
      ∃ r ∈ rules, r.suggestedProductId = pid := by
  unfold bestRulePerProduct
  induction rules using List.reverseRecOn with
  | nil => simp [Dict.get_empty]
  | append_singleton rules r ih =>
      rw [List.foldl_append, List.foldl_cons, List.foldl_nil, keepRule_isSome, ih]
      simp [or_and_right, exists_or]

/-- The rule kept for a product is a strongest one. -/
theorem bestRulePerProduct_strongest {pid : ℤ} {kept : RecommendationRule}
    (found : (bestRulePerProduct arithmetic rules).get pid = some kept) :
    IsStrongest arithmetic rules kept ∧ kept.suggestedProductId = pid := by
  obtain ⟨mem, suggested⟩ := bestRulePerProduct_get found
  refine ⟨⟨mem, ?_⟩, suggested⟩
  rw [suggested]
  clear mem suggested
  unfold bestRulePerProduct at found
  induction rules using List.reverseRecOn generalizing kept with
  | nil => exact fun s none => absurd none List.not_mem_nil
  | append_singleton rules r ih =>
      rw [List.foldl_append, List.foldl_cons, List.foldl_nil] at found
      intro s mem same
      rcases List.mem_append.mp mem with earlier | last
      · rcases keepRule_cases arithmetic (rules.foldl (keepRule arithmetic) .empty) r pid with
            ⟨stays, -⟩ | ⟨new, -, lower⟩
        · rw [stays] at found
          exact ih found s earlier same
        · rw [new, Option.some.injEq] at found
          subst found
          obtain ⟨old, known⟩ := Option.isSome_iff_exists.mp
            ((bestRulePerProduct_isSome arithmetic rules pid).mpr ⟨s, earlier, same⟩)
          exact (ih known s earlier same).trans (lower old known).le
      · rw [List.mem_singleton.mp last] at same ⊢
        rcases keepRule_cases arithmetic (rules.foldl (keepRule arithmetic) .empty) r pid with
          ⟨stays, weak⟩ | ⟨new, -, -⟩
        · obtain ⟨old, known, le⟩ := weak same.symm
          rw [stays, known, Option.some.injEq] at found
          rw [← found]
          exact le
        · rw [new, Option.some.injEq] at found
          rw [found]

/-- Rules for different products are all kept, in their order. -/
theorem bestRulePerProduct_heads (distinct : (heads.map (·.suggestedProductId)).Nodup) :
    (bestRulePerProduct arithmetic heads).entries =
      heads.map fun r => (r.suggestedProductId, r) := by
  unfold bestRulePerProduct
  induction heads using List.reverseRecOn with
  | nil => rfl
  | append_singleton heads r ih =>
      rw [List.map_append, List.nodup_append] at distinct
      obtain ⟨distinct, -, fresh⟩ := distinct
      have kept := ih distinct
      have unknown : r.suggestedProductId ∉ (heads.foldl (keepRule arithmetic) .empty).keys := by
        unfold Dict.keys
        rw [kept, List.map_map]
        exact fun mem => fresh _ mem _ (by simp) rfl
      rw [List.foldl_append, List.foldl_cons, List.foldl_nil, keepRule,
        Dict.get_eq_none.mpr unknown, Dict.entries_set_of_notMem unknown, kept, List.map_append]
      rfl

/-- Rules that are not stronger than those kept change nothing. -/
theorem foldl_keepRule_weak {best : Dict ℤ RecommendationRule}
    (weak : ∀ s ∈ rest, ∃ r, best.get s.suggestedProductId = some r ∧
      s.strength arithmetic ≤ r.strength arithmetic) :
    rest.foldl (keepRule arithmetic) best = best := by
  induction rest with
  | nil => rfl
  | cons s rest ih =>
      obtain ⟨⟨r, known, le⟩, later⟩ := List.forall_mem_cons.mp weak
      have stays : keepRule arithmetic best s = best := by
        unfold keepRule
        rw [known]
        exact if_neg (not_lt.mpr le)
      rw [List.foldl_cons, stays]
      exact ih later

/-- Strongest rules that come first are those that are kept. -/
theorem bestRulePerProduct_append (distinct : (heads.map (·.suggestedProductId)).Nodup)
    (weak : ∀ s ∈ rest, ∃ r ∈ heads, r.suggestedProductId = s.suggestedProductId ∧
      s.strength arithmetic ≤ r.strength arithmetic) :
    (bestRulePerProduct arithmetic (heads ++ rest)).entries =
      heads.map fun r => (r.suggestedProductId, r) := by
  rw [← bestRulePerProduct_heads distinct]
  unfold bestRulePerProduct
  rw [List.foldl_append, foldl_keepRule_weak]
  intro s mem
  obtain ⟨r, memHead, same, le⟩ := weak s mem
  refine ⟨r, Dict.mem_entries.mp ?_, le⟩
  have kept : (bestRulePerProduct arithmetic heads).entries =
      heads.map fun r => (r.suggestedProductId, r) := bestRulePerProduct_heads distinct
  unfold bestRulePerProduct at kept
  rw [kept, ← same]
  exact List.mem_map.mpr ⟨r, memHead, rfl⟩

end Kept

/-! ## Which rules may be kept -/

/-- The call with other rules. -/
abbrev RecommendArgs.withRules (a : RecommendArgs) (rules : List RecommendationRule) :
    RecommendArgs :=
  { a with rules }

section Orders

variable {a : RecommendArgs} {rules heads : List RecommendationRule}

theorem candidateRules_perm (perm : rules.Perm a.rules) :
    (a.withRules rules).candidateRules.Perm a.candidateRules :=
  perm.filter a.applies

/-- The counts are divided by the same number in whatever order the rules come. -/
theorem maxCoPurchase_perm {rules rules' : List RecommendationRule} (perm : rules.Perm rules') :
    maxCoPurchase rules = maxCoPurchase rules' := by
  have most : (rules.map (·.coPurchaseCount)).max? = (rules'.map (·.coPurchaseCount)).max? := by
    refine Option.ext fun m => ?_
    rw [List.max?_eq_some_iff, List.max?_eq_some_iff]
    simp only [(perm.map _).mem_iff]
  unfold maxCoPurchase
  rw [most]

/-- Strongest rules, one for each suggested product, are kept in some order of the rules, in their
order. -/
theorem exists_perm_entries (distinct : (heads.map (·.suggestedProductId)).Nodup)
    (strongest : ∀ r ∈ heads, IsStrongest a.arithmetic a.candidateRules r)
    (every : ∀ s ∈ a.candidateRules, s.suggestedProductId ∈ heads.map (·.suggestedProductId)) :
    ∃ rules : List RecommendationRule, rules.Perm a.rules ∧
      (bestRulePerProduct a.arithmetic (a.withRules rules).candidateRules).entries =
        heads.map fun r => (r.suggestedProductId, r) := by
  have nodup := List.Nodup.of_map _ distinct
  have sub : heads ⊆ a.rules := fun r mem => (List.mem_filter.mp (strongest r mem).mem).1
  obtain ⟨heads', permHeads, sublist⟩ := nodup.subperm sub
  obtain ⟨rest, perm⟩ := sublist.exists_perm_append
  have order : (heads ++ rest).Perm a.rules :=
    (permHeads.symm.append_right rest).trans perm.symm
  refine ⟨heads ++ rest, order, ?_⟩
  have applies : heads.filter a.applies = heads :=
    List.filter_eq_self.mpr fun r mem => (List.mem_filter.mp (strongest r mem).mem).2
  have candidates : (a.withRules (heads ++ rest)).candidateRules =
      heads ++ rest.filter a.applies := by
    change (heads ++ rest).filter a.applies = _
    rw [List.filter_append, applies]
  rw [candidates]
  refine bestRulePerProduct_append distinct fun s mem => ?_
  have memRules : s ∈ a.candidateRules := by
    refine (candidateRules_perm order).mem_iff.mp ?_
    rw [candidates]
    exact List.mem_append_right _ mem
  obtain ⟨r, memHead, same⟩ := List.mem_map.mp (every s memRules)
  exact ⟨r, memHead, same, (strongest r memHead).strongest s memRules same.symm⟩

end Orders

end DealFlow
