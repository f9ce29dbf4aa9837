import DealFlow.Lib.Rounding
import Mathlib.Tactic.Ring

/-!
# Whole cents

Amounts that are a whole number of cents.  They are closed under sums, differences and clipping at
zero, and rounding to the cent leaves them alone.

* `IsCents.roundTo_two`, `IsCents.roundCents`: rounding changes nothing.
* `isCents_sum`: sums of whole cents.
* `roundTo_two_eq_iff`, `roundTo_two_clip`: what rounds to an amount, and what does clipped at zero.
* `le_roundCents_add`: a rounded sum is not below a whole summand.
-/

namespace DealFlow.Lib

/-- A whole number of cents. -/
def IsCents (x : ℚ) : Prop := ∃ n : ℤ, x * 100 = n

instance (x : ℚ) : Decidable (IsCents x) :=
  decidable_of_iff ((x * 100).den = 1)
    ⟨fun whole => ⟨(x * 100).num, (Rat.den_eq_one_iff _).mp whole |>.symm⟩, by
      rintro ⟨n, grid⟩
      rw [grid]
      exact Rat.den_intCast n⟩

theorem isCents_roundCents (x : ℚ) : IsCents (roundCents x) :=
  ⟨roundHalfEven (x * 100), by
    unfold roundCents
    field_simp⟩

theorem isCents_roundTo_two (x : ℚ) : IsCents (roundTo 2 x) :=
  ⟨roundHalfEven (x * 10 ^ 2), by
    unfold roundTo
    norm_num⟩

theorem isCents_zero : IsCents 0 :=
  ⟨0, by norm_num⟩

namespace IsCents

variable {x y : ℚ}

theorem add (hx : IsCents x) (hy : IsCents y) : IsCents (x + y) := by
  rcases hx with ⟨n, hn⟩
  rcases hy with ⟨m, hm⟩
  exact ⟨n + m, by rw [add_mul, hn, hm]; push_cast; rfl⟩

theorem neg (hx : IsCents x) : IsCents (-x) := by
  rcases hx with ⟨n, hn⟩
  exact ⟨-n, by rw [neg_mul, hn]; push_cast; rfl⟩

theorem sub (hx : IsCents x) (hy : IsCents y) : IsCents (x - y) := by
  rw [sub_eq_add_neg]
  exact hx.add hy.neg

theorem max (hx : IsCents x) (hy : IsCents y) : IsCents (max x y) := by
  rcases max_choice x y with eq | eq
  · rw [eq]
    exact hx
  · rw [eq]
    exact hy

theorem roundTo_two (hx : IsCents x) : roundTo 2 x = x := by
  rcases hx with ⟨n, hn⟩
  exact roundTo_of_grid (n := n) (by rw [← hn]; norm_num)

theorem roundCents (hx : IsCents x) : roundCents x = x := by
  rcases hx with ⟨n, hn⟩
  unfold Lib.roundCents
  rw [hn, roundHalfEven_intCast, ← hn]
  exact mul_div_cancel_right₀ x (by norm_num)

end IsCents

theorem isCents_sum {l : List ℚ} (all : ∀ x ∈ l, IsCents x) : IsCents l.sum := by
  induction l with
  | nil => exact isCents_zero
  | cons x l ih =>
      rw [List.forall_mem_cons] at all
      rw [List.sum_cons]
      exact all.1.add (ih all.2)

/-- The amount is the whole cents next to `x`, of two as near the even ones. -/
def NearestCents (x amount : ℚ) : Prop :=
  ∃ n : ℤ, amount * 100 = n ∧ (|x * 100 - n| < 1 / 2 ∨ |x * 100 - n| = 1 / 2 ∧ n % 2 = 0)

theorem roundTo_two_eq_iff {x amount : ℚ} : roundTo 2 x = amount ↔ NearestCents x amount := by
  have hundred : (10 : ℚ) ^ 2 = 100 := by norm_num
  unfold roundTo
  rw [hundred, div_eq_iff (by norm_num)]
  constructor
  · exact fun eq => ⟨_, eq.symm, roundHalfEven_eq_iff.mp rfl⟩
  · rintro ⟨n, whole, near⟩
    rw [roundHalfEven_eq_iff.mpr near, whole]

/-- What rounds to an amount once it is clipped at zero: of no amount, up to half a cent. -/
theorem roundTo_two_clip {x amount : ℚ} :
    roundTo 2 (max 0 x) = amount ↔
      amount = 0 ∧ x ≤ 1 / 200 ∨ 0 < amount ∧ NearestCents x amount := by
  have rounded : 0 ≤ roundTo 2 (max 0 x) := by
    have mono := roundTo_mono 2 (le_max_left 0 x)
    rwa [isCents_zero.roundTo_two] at mono
  have zero : NearestCents (max 0 x) 0 ↔ x ≤ 1 / 200 := by
    have clipped : (0 : ℚ) ≤ max 0 x * 100 := mul_nonneg (le_max_left 0 x) (by norm_num)
    have small : max 0 x ≤ 1 / 200 ↔ x ≤ 1 / 200 := by
      rw [max_le_iff, and_iff_right (by norm_num)]
    unfold NearestCents
    rw [← small]
    constructor
    · rintro ⟨n, whole, near⟩
      rw [← whole, zero_mul, sub_zero, abs_of_nonneg clipped] at near
      rcases near with less | ⟨tie, -⟩ <;> linarith
    · intro le
      refine ⟨0, by norm_num, ?_⟩
      rw [Int.cast_zero, sub_zero, abs_of_nonneg clipped]
      rcases le.lt_or_eq with less | tie
      · exact .inl (by linarith)
      · exact .inr ⟨by linarith, rfl⟩
  rcases lt_trichotomy amount 0 with neg | rfl | pos
  · exact iff_of_false (fun eq => (eq ▸ rounded).not_gt neg) (by
      rintro (⟨eq, -⟩ | ⟨more, -⟩)
      · exact neg.ne eq
      · exact neg.not_gt more)
  · rw [roundTo_two_eq_iff, zero, and_iff_right rfl, or_iff_left fun more => lt_irrefl 0 more.1]
  · rw [roundTo_two_eq_iff, and_iff_right pos, or_iff_right fun none => pos.ne' none.1]
    rcases le_total 0 x with nonneg | nonpos
    · rw [max_eq_right nonneg]
    · -- nothing at most is half a cent or more below every amount
      have far : ∀ y ≤ 0, ¬ NearestCents y amount := by
        rintro y le ⟨n, whole, near⟩
        have one : (1 : ℚ) ≤ n := by
          have some : (0 : ℚ) < n := whole ▸ mul_pos pos (by norm_num)
          exact_mod_cast some
        have off : |y * 100 - n| = n - y * 100 := by
          rw [abs_sub_comm]
          exact abs_of_nonneg (by linarith)
        rw [off] at near
        rcases near with less | ⟨tie, -⟩ <;> linarith
      rw [max_eq_left nonpos]
      exact iff_of_false (far 0 le_rfl) (far x nonpos)

/-- Adding to a whole number of cents does not round below it. -/
theorem le_roundCents_add {paid amount : ℚ} (cents : IsCents paid) (positive : 0 < amount) :
    paid ≤ roundCents (paid + amount) := by
  rcases cents with ⟨n, grid⟩
  have more : (n : ℚ) ≤ (paid + amount) * 100 := by
    rw [← grid]
    linarith
  have rounded := roundHalfEven_mono more
  rw [roundHalfEven_intCast] at rounded
  have scaled : (n : ℚ) ≤ roundHalfEven ((paid + amount) * 100) := Int.cast_le.mpr rounded
  unfold roundCents
  rw [← grid] at scaled
  linarith

end DealFlow.Lib
