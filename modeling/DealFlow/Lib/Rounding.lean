import Mathlib.Algebra.Order.Floor.Ring
import Mathlib.Algebra.Order.Round
import Mathlib.Data.Rat.Floor
import Mathlib.Tactic.FieldSimp
import Mathlib.Tactic.Linarith
import Mathlib.Tactic.Positivity

/-!
# Decimal rounding

`quantize places x` rounds to a number of decimal places, ties away from zero, `roundTo places x`
ties to even.

* `quantize_mono`: quantizing keeps order.
* `quantize_of_grid`: a value already on the grid is unchanged.
* `roundHalfEven_mono`, `roundHalfEven_neg`, `roundHalfEven_intCast`: rounding to the nearest
  integer, ties to even, keeps order and is odd, and leaves the integers alone.
* `roundHalfEven_mul_iff`: when rounding commutes with an even factor.
* `roundTo_of_grid`, `roundTo_mono`: rounding to a number of places, ties to even, leaves its own
  grid alone and keeps order.
-/

namespace DealFlow.Lib

section

variable {K : Type*} [Field K] [LinearOrder K] [IsStrictOrderedRing K] [FloorRing K]

/-- The nearest integer, ties away from zero. -/
def roundHalfUp (x : K) : ℤ :=
  if 0 ≤ x then ⌊x + 1 / 2⌋ else -⌊-x + 1 / 2⌋

/-- `x` rounded to `places` decimal places, ties away from zero. -/
def quantize (places : ℕ) (x : K) : K :=
  (roundHalfUp (x * 10 ^ places) : K) / 10 ^ places

theorem roundHalfUp_nonneg {x : K} (nonneg : 0 ≤ x) : 0 ≤ roundHalfUp x := by
  rw [roundHalfUp, if_pos nonneg]
  exact Int.floor_nonneg.mpr (by linarith)

theorem roundHalfUp_nonpos {x : K} (neg : x < 0) : roundHalfUp x ≤ 0 := by
  rw [roundHalfUp, if_neg neg.not_ge]
  have : 0 ≤ ⌊-x + 1 / 2⌋ := Int.floor_nonneg.mpr (by linarith)
  omega

theorem roundHalfUp_mono {x y : K} (le : x ≤ y) : roundHalfUp x ≤ roundHalfUp y := by
  rcases lt_or_ge x 0 with negX | nonnegX
  · rcases lt_or_ge y 0 with negY | nonnegY
    · rw [roundHalfUp, if_neg negX.not_ge, roundHalfUp, if_neg negY.not_ge]
      exact neg_le_neg (Int.floor_le_floor (by linarith))
    · exact (roundHalfUp_nonpos negX).trans (roundHalfUp_nonneg nonnegY)
  · rw [roundHalfUp, if_pos nonnegX, roundHalfUp, if_pos (nonnegX.trans le)]
    exact Int.floor_le_floor (by linarith)

theorem roundHalfUp_intCast (n : ℤ) : roundHalfUp (n : K) = n := by
  have half : ⌊(1 / 2 : K)⌋ = 0 := Int.floor_eq_iff.mpr ⟨by norm_num, by norm_num⟩
  rw [roundHalfUp]
  split
  · rw [Int.floor_intCast_add, half, add_zero]
  · rw [← Int.cast_neg, Int.floor_intCast_add, half, add_zero, neg_neg]

theorem quantize_mono (places : ℕ) : Monotone (quantize places : K → K) := by
  intro x y le
  have scale : (0 : K) < 10 ^ places := by positivity
  have ints := roundHalfUp_mono (mul_le_mul_of_nonneg_right le scale.le)
  exact div_le_div_of_nonneg_right (Int.cast_le.mpr ints) scale.le

/-- A value on the grid of `places` decimal places is its own rounding. -/
theorem quantize_of_grid {places : ℕ} {x : K} {n : ℤ} (grid : x * 10 ^ places = n) :
    quantize places x = x := by
  have scale : (10 : K) ^ places ≠ 0 := by positivity
  rw [quantize, grid, roundHalfUp_intCast, ← grid]
  exact mul_div_cancel_right₀ x scale

@[simp] theorem quantize_zero (places : ℕ) : quantize places (0 : K) = 0 :=
  quantize_of_grid (n := 0) (by simp)

theorem quantize_nonneg {places : ℕ} {x : K} (nonneg : 0 ≤ x) : 0 ≤ quantize places x := by
  have mono := quantize_mono places nonneg
  rwa [quantize_zero] at mono

/-- Adding an integer number of grid steps to a value that is not negative adds them to its
rounding. -/
theorem quantize_add_grid {places : ℕ} {x : K} (nonneg : 0 ≤ x) (n : ℕ) :
    quantize places (x + n / 10 ^ places) = quantize places x + n / 10 ^ places := by
  have scale : (0 : K) < 10 ^ places := by positivity
  have scaled : (x + n / 10 ^ places) * 10 ^ places = x * 10 ^ places + n := by
    rw [add_mul, div_mul_cancel₀ _ scale.ne']
  have nonneg' : 0 ≤ x * 10 ^ places := mul_nonneg nonneg scale.le
  have step : roundHalfUp (x * 10 ^ places + n) = roundHalfUp (x * 10 ^ places) + n := by
    rw [roundHalfUp, if_pos (add_nonneg nonneg' n.cast_nonneg), roundHalfUp, if_pos nonneg',
      add_right_comm, Int.floor_add_natCast]
  rw [quantize, scaled, step, quantize, Int.cast_add, Int.cast_natCast, add_div]

/-- A rounded value below zero is at least one step below. -/
theorem quantize_le_of_neg {places : ℕ} {x : K} (neg : quantize places x < 0) :
    quantize places x ≤ -1 / 10 ^ places := by
  have scale : (0 : K) < 10 ^ places := by positivity
  have int : roundHalfUp (x * 10 ^ places) < 0 := by
    by_contra nonneg
    exact neg.not_ge (div_nonneg (Int.cast_nonneg (not_lt.mp nonneg)) scale.le)
  have step : ((roundHalfUp (x * 10 ^ places) : ℤ) : K) ≤ ((-1 : ℤ) : K) :=
    Int.cast_le.mpr (by omega)
  rw [quantize]
  refine div_le_div_of_nonneg_right ?_ scale.le
  simpa using step

/-- What rounds below zero is at least half a step below. -/
theorem quantize_neg_iff {places : ℕ} {x : K} :
    quantize places x < 0 ↔ x * 10 ^ places ≤ -(1 / 2) := by
  have scale : (0 : K) < 10 ^ places := by positivity
  rw [quantize, div_lt_iff₀ scale, zero_mul, Int.cast_lt_zero, roundHalfUp]
  split
  · next nonneg =>
      have up : 0 ≤ ⌊x * 10 ^ places + 1 / 2⌋ := Int.floor_nonneg.mpr (by linarith)
      constructor
      · intro neg
        omega
      · intro below
        linarith
  · rw [neg_lt_zero, ← Int.add_one_le_iff, zero_add, Int.le_floor, Int.cast_one]
    constructor <;> intro h <;> linarith

/-- What rounds above zero is at least half a step above. -/
theorem quantize_pos_iff {places : ℕ} {x : K} :
    0 < quantize places x ↔ 1 / 2 ≤ x * 10 ^ places := by
  have scale : (0 : K) < 10 ^ places := by positivity
  rw [quantize, lt_div_iff₀ scale, zero_mul, Int.cast_pos, roundHalfUp]
  split
  · rw [← Int.add_one_le_iff, zero_add, Int.le_floor, Int.cast_one]
    constructor <;> intro h <;> linarith
  · next neg =>
      have down : 0 ≤ ⌊-(x * 10 ^ places) + 1 / 2⌋ := Int.floor_nonneg.mpr (by linarith)
      constructor
      · intro pos
        omega
      · intro above
        linarith

theorem roundHalfUp_error (x : K) : |(roundHalfUp x : K) - x| ≤ 1 / 2 := by
  rw [roundHalfUp, abs_le]
  split
  · have below := Int.floor_le (x + 1 / 2)
    have above := Int.lt_floor_add_one (x + 1 / 2)
    constructor <;> linarith
  · have below := Int.floor_le (-x + 1 / 2)
    have above := Int.lt_floor_add_one (-x + 1 / 2)
    rw [Int.cast_neg]
    constructor <;> linarith

/-- Between values that are not negative, rounding adds less than a step to how far they are
apart. -/
theorem roundHalfUp_lt_add {x y : K} (nonneg : 0 ≤ x) (le : x ≤ y) :
    (roundHalfUp y : K) < roundHalfUp x + (y - x) + 1 := by
  have below := Int.floor_le (y + 1 / 2)
  have above := Int.lt_floor_add_one (x + 1 / 2)
  rw [roundHalfUp, if_pos (nonneg.trans le), roundHalfUp, if_pos nonneg]
  linarith

/-- Rounding moves a value by half a step at most. -/
theorem quantize_error (places : ℕ) (x : K) :
    |quantize places x - x| ≤ 1 / 2 / 10 ^ places := by
  have scale : (0 : K) < 10 ^ places := by positivity
  have scaled := roundHalfUp_error (x * 10 ^ places)
  have factor : quantize places x - x =
      ((roundHalfUp (x * 10 ^ places) : K) - x * 10 ^ places) / 10 ^ places := by
    rw [quantize, sub_div, mul_div_cancel_right₀ _ scale.ne']
  rw [factor, abs_div, abs_of_pos scale]
  exact div_le_div_of_nonneg_right scaled scale.le

/-- Rounding each of some values moves their sum by half a step for each at most. -/
theorem sum_quantize_error {ι : Type*} (places : ℕ) (f : ι → K) (xs : List ι) :
    |(xs.map fun x => quantize places (f x)).sum - (xs.map f).sum| ≤
      xs.length * (1 / 2 / 10 ^ places) := by
  induction xs with
  | nil => simp
  | cons x xs ih =>
      have head := quantize_error places (f x)
      rw [List.map_cons, List.map_cons, List.sum_cons, List.sum_cons, add_sub_add_comm,
        List.length_cons, Nat.cast_add_one, add_mul, one_mul,
        add_comm (_ * _)]
      exact (abs_add_le _ _).trans (add_le_add head ih)

/-- The nearest integer, ties to even. -/
def roundHalfEven (x : ℚ) : ℤ :=
  let below := ⌊x⌋
  if x - below < 1 / 2 then below
  else if 1 / 2 < x - below then below + 1
  else if below % 2 = 0 then below else below + 1

/-- To two decimal places, ties to even. -/
def roundCents (x : ℚ) : ℚ :=
  roundHalfEven (x * 100) / 100

theorem roundHalfEven_bounds (x : ℚ) : ⌊x⌋ ≤ roundHalfEven x ∧ roundHalfEven x ≤ ⌊x⌋ + 1 := by
  unfold roundHalfEven
  dsimp only
  split
  · omega
  · split
    · omega
    · split <;> omega

theorem roundHalfEven_mono {x y : ℚ} (le : x ≤ y) : roundHalfEven x ≤ roundHalfEven y := by
  obtain ⟨-, upper⟩ := roundHalfEven_bounds x
  obtain ⟨lower, -⟩ := roundHalfEven_bounds y
  rcases (Int.floor_le_floor le).lt_or_eq with below | same
  · omega
  · -- on the same floor the remainders decide
    unfold roundHalfEven
    dsimp only
    rw [same]
    split
    · split
      · omega
      · split
        · omega
        · split <;> omega
    · next notBelow =>
        split
        · next above =>
            have notBelow' : ¬ y - ↑⌊y⌋ < 1 / 2 := by linarith
            have above' : 1 / 2 < y - ↑⌊y⌋ := by linarith
            rw [if_neg notBelow', if_pos above']
        · next tie =>
            have notBelow' : ¬ y - ↑⌊y⌋ < 1 / 2 := by linarith
            rw [if_neg notBelow']
            split
            · split <;> omega
            · split <;> omega

/-- What rounds to an integer, ties to even. -/
theorem roundHalfEven_eq_iff {x : ℚ} {n : ℤ} :
    roundHalfEven x = n ↔ |x - n| < 1 / 2 ∨ |x - n| = 1 / 2 ∧ n % 2 = 0 := by
  have lower := Int.floor_le x
  have upper := Int.lt_floor_add_one x
  unfold roundHalfEven
  dsimp only
  rw [abs_lt, abs_eq (by norm_num)]
  constructor
  · rintro rfl
    split
    · next below => exact .inl ⟨by linarith, below⟩
    · next notBelow =>
        split
        · next above =>
            push_cast
            exact .inl ⟨by linarith, by linarith⟩
        · next notAbove =>
            have tie : x - ⌊x⌋ = 1 / 2 := by linarith
            split
            · next even => exact .inr ⟨.inl tie, even⟩
            · next odd =>
                push_cast
                exact .inr ⟨.inr (by linarith), by omega⟩
  · rintro (⟨above, below⟩ | ⟨tie | tie, even⟩)
    · have floor : ⌊x⌋ = n ∨ ⌊x⌋ = n - 1 := by
        have most : ⌊x⌋ < n + 1 := Int.floor_lt.mpr (by push_cast; linarith)
        have least : n - 1 ≤ ⌊x⌋ := Int.le_floor.mpr (by push_cast; linarith)
        omega
      rcases floor with floor | floor
      · rw [floor, if_pos below]
      · rw [floor]
        push_cast
        rw [if_neg (by linarith), if_pos (by linarith)]
        omega
    · have floor : ⌊x⌋ = n := Int.floor_eq_iff.mpr ⟨by linarith, by linarith⟩
      rw [floor, tie, if_neg (lt_irrefl _), if_neg (lt_irrefl _), if_pos even]
    · have floor : ⌊x⌋ = n - 1 :=
        Int.floor_eq_iff.mpr ⟨by push_cast; linarith, by push_cast; linarith⟩
      have tie' : x - (n - 1 : ℤ) = 1 / 2 := by
        push_cast
        linarith
      rw [floor, tie', if_neg (lt_irrefl _), if_neg (lt_irrefl _), if_neg (by omega)]
      omega

theorem roundHalfEven_neg (x : ℚ) : roundHalfEven (-x) = -roundHalfEven x := by
  have here := roundHalfEven_eq_iff.mp (rfl : roundHalfEven x = _)
  have apart : |-x - ((-roundHalfEven x : ℤ) : ℚ)| = |x - roundHalfEven x| := by
    rw [Int.cast_neg, neg_sub_neg, abs_sub_comm]
  rw [roundHalfEven_eq_iff, apart, Int.neg_emod_two]
  exact here

/-- Only at a half above an even integer does it matter whether ties go to even or up. -/
theorem roundHalfEven_eq_floor_iff (x : ℚ) :
    roundHalfEven x = ⌊x + 1 / 2⌋ ↔ ¬ (x - ⌊x⌋ = 1 / 2 ∧ ⌊x⌋ % 2 = 0) := by
  have lower := Int.floor_le x
  have upper := Int.lt_floor_add_one x
  rcases lt_trichotomy (x - ⌊x⌋) (1 / 2) with below | tie | above
  · have up : ⌊x + 1 / 2⌋ = ⌊x⌋ := Int.floor_eq_iff.mpr ⟨by linarith, by linarith⟩
    have even : roundHalfEven x = ⌊x⌋ := if_pos below
    exact iff_of_true (even.trans up.symm) fun half => below.ne half.1
  · have up : ⌊x + 1 / 2⌋ = ⌊x⌋ + 1 :=
      Int.floor_eq_iff.mpr ⟨by push_cast; linarith, by push_cast; linarith⟩
    unfold roundHalfEven
    dsimp only
    rw [up, if_neg tie.not_lt, if_neg tie.not_gt]
    split
    · next even => exact iff_of_false (by omega) (not_not.mpr ⟨tie, even⟩)
    · next odd => exact iff_of_true rfl fun half => odd half.2
  · have up : ⌊x + 1 / 2⌋ = ⌊x⌋ + 1 :=
      Int.floor_eq_iff.mpr ⟨by push_cast; linarith, by push_cast; linarith⟩
    have even : roundHalfEven x = ⌊x⌋ + 1 := by
      unfold roundHalfEven
      dsimp only
      rw [if_neg above.not_gt, if_pos above]
    exact iff_of_true (even.trans up.symm) fun half => above.ne' half.1

theorem roundHalfEven_intCast (n : ℤ) : roundHalfEven n = n := by
  unfold roundHalfEven
  dsimp only
  rw [Int.floor_intCast, sub_self, if_pos (by norm_num)]

/-- Rounding first and multiplying by an even number after comes to the same as the other way round
exactly near the grid: the ties of the product round to the even multiple. -/
theorem roundHalfEven_mul_iff {m : ℕ} (even : m % 2 = 0) (more : 1 < m) {x : ℚ} :
    roundHalfEven (m * x) = m * roundHalfEven x ↔ ∃ k : ℤ, |x - k| ≤ 1 / (2 * m) := by
  have size : (2 : ℚ) ≤ m := by exact_mod_cast more
  have scaled : ∀ k : ℤ, (m : ℚ) * x - (m * k : ℤ) = m * (x - k) := by
    intro k
    push_cast
    ring
  have evenMultiple : ∀ k : ℤ, ((m : ℤ) * k) % 2 = 0 := by
    intro k
    rw [Int.mul_emod]
    have : (m : ℤ) % 2 = 0 := by omega
    rw [this, zero_mul, Int.zero_emod]
  have near : ∀ k : ℤ, roundHalfEven (m * x) = m * k ↔ |x - k| ≤ 1 / (2 * m) := by
    intro k
    rw [roundHalfEven_eq_iff, scaled, abs_mul, abs_of_pos (by linarith : (0 : ℚ) < m),
      le_div_iff₀ (by linarith)]
    constructor
    · rintro (lt | ⟨eq, -⟩) <;> linarith
    · intro le
      rcases le.lt_or_eq with lt | eq
      · exact .inl (by linarith)
      · exact .inr ⟨by linarith, evenMultiple k⟩
  constructor
  · intro eq
    exact ⟨_, (near _).mp eq⟩
  · rintro ⟨k, le⟩
    have nearest : roundHalfEven x = k := by
      refine roundHalfEven_eq_iff.mpr (.inl (le.trans_lt ?_))
      rw [div_lt_div_iff₀ (by linarith) (by norm_num)]
      linarith
    rw [nearest]
    exact (near k).mpr le

/-- `x` rounded to `places` decimal places, ties to even. -/
def roundTo (places : ℕ) (x : ℚ) : ℚ :=
  roundHalfEven (x * 10 ^ places) / 10 ^ places

theorem roundTo_mono (places : ℕ) : Monotone (roundTo places) := by
  intro x y le
  have scale : (0 : ℚ) < 10 ^ places := by positivity
  have scaled : x * 10 ^ places ≤ y * 10 ^ places := mul_le_mul_of_nonneg_right le scale.le
  exact div_le_div_of_nonneg_right (Int.cast_le.mpr (roundHalfEven_mono scaled)) scale.le

/-- A value on the grid of `places` decimal places is its own rounding. -/
theorem roundTo_of_grid {places : ℕ} {x : ℚ} {n : ℤ} (grid : x * 10 ^ places = n) :
    roundTo places x = x := by
  have scale : (10 : ℚ) ^ places ≠ 0 := by positivity
  rw [roundTo, grid, roundHalfEven_intCast, ← grid]
  exact mul_div_cancel_right₀ x scale

end

end DealFlow.Lib
