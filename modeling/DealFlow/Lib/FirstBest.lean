import Mathlib.Order.Lattice
import Mathlib.Data.List.Basic

/-!
# The first best element

A loop keeps an element and its score, and replaces them where a score is higher.  Elements without
a score are passed over.  What it keeps is the first of the highest score above the start
(`firstBest_iff`), or the start where no score is above it (`firstBest_none`).
-/

namespace DealFlow.Lib

variable {α β : Type*} [LinearOrder β] (score : α → Option β)

def keepBest (best : Option α × β) (a : α) : Option α × β :=
  match score a with
  | some s => if best.2 < s then (some a, s) else best
  | none => best

/-- What the loop keeps, from nothing and a score to exceed. -/
def firstBest (floor : β) (as : List α) : Option α × β :=
  as.foldl (keepBest score) (none, floor)

/-- The element is the first of the highest score, which is above the floor. -/
structure IsFirstBest (floor : β) (before : List α) (a : α) (s : β) (after : List α) : Prop where
  scored : score a = some s
  above : floor < s
  before : ∀ b ∈ before, ∀ t ∈ score b, t < s
  after : ∀ b ∈ after, ∀ t ∈ score b, t ≤ s

variable {score} {floor s : β} {best : Option α × β} {as before after : List α} {a : α}

/-- Scores that do not exceed the one kept change nothing. -/
theorem foldl_keepBest_of_le (low : ∀ b ∈ as, ∀ t ∈ score b, t ≤ best.2) :
    as.foldl (keepBest score) best = best := by
  induction as with
  | nil => rfl
  | cons b bs ih =>
      obtain ⟨head, tail⟩ := List.forall_mem_cons.mp low
      have kept : keepBest score best b = best := by
        unfold keepBest
        split
        · next t scored => exact if_neg (head t scored).not_gt
        · rfl
      rw [List.foldl_cons, kept]
      exact ih tail

/-- The score kept stays below what none reaches. -/
theorem foldl_keepBest_lt (start : best.2 < s) (low : ∀ b ∈ as, ∀ t ∈ score b, t < s) :
    (as.foldl (keepBest score) best).2 < s := by
  induction as generalizing best with
  | nil => exact start
  | cons b bs ih =>
      obtain ⟨head, tail⟩ := List.forall_mem_cons.mp low
      refine ih ?_ tail
      unfold keepBest
      split
      · next t scored =>
          split
          · exact head t scored
          · exact start
      · exact start

theorem firstBest_of_isFirstBest (first : IsFirstBest score floor before a s after) :
    firstBest score floor (before ++ a :: after) = (some a, s) := by
  have below : (before.foldl (keepBest score) (none, floor)).2 < s :=
    foldl_keepBest_lt first.above first.before
  have taken : keepBest score (before.foldl (keepBest score) (none, floor)) a = (some a, s) := by
    unfold keepBest
    rw [first.scored]
    exact if_pos below
  rw [firstBest, List.foldl_append, List.foldl_cons, taken]
  exact foldl_keepBest_of_le first.after

theorem firstBest_none (low : ∀ b ∈ as, ∀ t ∈ score b, t ≤ floor) :
    firstBest score floor as = (none, floor) :=
  foldl_keepBest_of_le low

theorem IsFirstBest.le (first : IsFirstBest score floor before a s after) :
    ∀ b ∈ before ++ a :: after, ∀ t ∈ score b, t ≤ s := by
  intro b mem t known
  rcases List.mem_append.mp mem with earlier | later
  · exact (first.before b earlier t known).le
  · rcases List.mem_cons.mp later with rfl | later
    · rw [first.scored] at known
      cases known
      exact le_rfl
    · exact first.after b later t known

/-- There is a first of the highest score, or no score is above the floor. -/
theorem firstBest_cases (score : α → Option β) (floor : β) (as : List α) :
    (∀ b ∈ as, ∀ t ∈ score b, t ≤ floor) ∨
      ∃ before a s after, as = before ++ a :: after ∧ IsFirstBest score floor before a s after := by
  induction as with
  | nil => exact .inl fun b mem => absurd mem List.not_mem_nil
  | cons b bs ih =>
      by_cases wins : ∃ t, score b = some t ∧ floor < t ∧ ∀ c ∈ bs, ∀ u ∈ score c, u ≤ t
      · obtain ⟨t, scored, above, rest⟩ := wins
        exact .inr ⟨[], b, t, bs, rfl, scored, above,
          fun c mem => absurd mem List.not_mem_nil, rest⟩
      · rcases ih with low | ⟨before, a, s, after, rfl, first⟩
        · refine .inl (List.forall_mem_cons.mpr ⟨fun t scored => ?_, low⟩)
          by_contra higher
          rw [not_le] at higher
          exact wins ⟨t, scored, higher, fun c mem u known => (low c mem u known).trans higher.le⟩
        · refine .inr ⟨b :: before, a, s, after, rfl, first.scored, first.above,
            List.forall_mem_cons.mpr ⟨fun t scored => ?_, first.before⟩, first.after⟩
          by_contra high
          rw [not_lt] at high
          exact wins ⟨t, scored, first.above.trans_le high,
            fun c mem u known => (first.le c mem u known).trans high⟩

/-- What the loop keeps is the first of the highest score. -/
theorem firstBest_iff :
    (firstBest score floor as).1 = some a ↔
      ∃ before s after, as = before ++ a :: after ∧ IsFirstBest score floor before a s after := by
  constructor
  · intro kept
    rcases firstBest_cases score floor as with low | ⟨before, b, s, after, rfl, first⟩
    · rw [firstBest_none low] at kept
      cases kept
    · rw [firstBest_of_isFirstBest first] at kept
      cases kept
      exact ⟨before, s, after, rfl, first⟩
  · rintro ⟨before, s, after, rfl, first⟩
    rw [firstBest_of_isFirstBest first]

theorem firstBest_eq_none_iff :
    (firstBest score floor as).1 = none ↔ ∀ b ∈ as, ∀ t ∈ score b, t ≤ floor := by
  constructor
  · intro none
    rcases firstBest_cases score floor as with low | ⟨before, b, s, after, rfl, first⟩
    · exact low
    · rw [firstBest_of_isFirstBest first] at none
      cases none
  · intro low
    rw [firstBest_none low]

end DealFlow.Lib
