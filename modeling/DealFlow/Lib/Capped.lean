import Mathlib.Order.MinMax
import Mathlib.Order.Nat

/-!
# Values capped again and again

`capped cap a n` is `a` after the caps `cap 0, …, cap (n - 1)`, each of which may take it down for
good.

* `le_capped_iff`: what is below it is below all of them.
* `capped_succ_eq_iff`: the last cap alone says what it is exactly when no earlier one was lower.
-/

namespace DealFlow.Lib

variable {α : Type*} [LinearOrder α]

def capped (cap : ℕ → α) (a : α) : ℕ → α
  | 0 => a
  | n + 1 => min (capped cap a n) (cap n)

theorem le_capped_iff {cap : ℕ → α} {a b : α} {n : ℕ} :
    b ≤ capped cap a n ↔ b ≤ a ∧ ∀ i < n, b ≤ cap i := by
  induction n with
  | zero => exact ⟨fun le => ⟨le, fun i lt => absurd lt (Nat.not_lt_zero i)⟩, And.left⟩
  | succ n ih =>
      rw [capped, le_min_iff, ih]
      constructor
      · rintro ⟨⟨le, earlier⟩, last⟩
        refine ⟨le, fun i lt => ?_⟩
        rcases Nat.lt_succ_iff_lt_or_eq.mp lt with before | rfl
        · exact earlier i before
        · exact last
      · rintro ⟨le, all⟩
        exact ⟨⟨le, fun i lt => all i (Nat.lt_succ_of_lt lt)⟩, all n (Nat.lt_succ_self n)⟩

theorem capped_succ_eq_iff {cap : ℕ → α} {a : α} {n : ℕ} :
    capped cap a (n + 1) = min a (cap n) ↔ ∀ i < n, min a (cap n) ≤ cap i := by
  have below : capped cap a (n + 1) ≤ min a (cap n) := by
    obtain ⟨le, caps⟩ := le_capped_iff.mp (le_refl (capped cap a (n + 1)))
    exact le_min le (caps n (Nat.lt_succ_self n))
  constructor
  · intro eq i lt
    exact (le_capped_iff.mp eq.ge).2 i (Nat.lt_succ_of_lt lt)
  · intro within
    refine le_antisymm below (le_capped_iff.mpr ⟨min_le_left _ _, fun i lt => ?_⟩)
    rcases Nat.lt_succ_iff_lt_or_eq.mp lt with before | rfl
    · exact within i before
    · exact min_le_right _ _

end DealFlow.Lib
