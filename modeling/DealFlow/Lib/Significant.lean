import DealFlow.Lib.Rounding
import Mathlib.Data.Int.Log
import Mathlib.Data.List.Permutation

/-!
# Rounding to significant digits

Decimals and binary floats keep a number of digits of every result, wherever its point is:
`roundSignificant` rounds to so many digits in a base, ties to even, and no finer than a least unit.
`float64` is an IEEE double, of a rational in the range of the finite doubles, and `decimal28` a
result under Python's default decimal context.

* `roundSignificant_mono`, `roundSignificant_neg`: rounding keeps order and is odd.
* `roundSignificant_idem`: what is rounded stays as it is.
* `roundSignificant_error`, `runningSum_error`: how far off a result is, and a sum.
* `runningSum_mono`, `runningSum_skip`: a sum that is rounded after each term rises with its terms,
  and does not see those that are zero.
* `runningSum_perm`: nor their order, where two of them at most are not zero.

Numbers as Python prints them come last: a float, a float to one or two places, an integer padded
with zeros.
-/

namespace DealFlow.Lib

/-! ## Significant digits -/

section Significant

/-- The weight of the last digit that is kept of `x` in base `b`: there are `more` digits after the
first, and none of a weight below `b ^ least`. -/
def unitInLastPlace (b more : ℕ) (least : ℤ) (x : ℚ) : ℚ :=
  (b : ℚ) ^ max (Int.log b |x| - more) least

/-- `x` rounded to `more + 1` significant digits in base `b`, ties to even. -/
def roundSignificant (b more : ℕ) (least : ℤ) (x : ℚ) : ℚ :=
  let unit := unitInLastPlace b more least x
  roundHalfEven (x / unit) * unit

variable {b : ℕ} (more : ℕ) (least : ℤ)

@[simp] theorem roundSignificant_zero (b : ℕ) : roundSignificant b more least 0 = 0 := by
  unfold roundSignificant
  dsimp only
  rw [zero_div, ← Int.cast_zero, roundHalfEven_intCast, Int.cast_zero, zero_mul]

theorem roundSignificant_neg (b : ℕ) (x : ℚ) :
    roundSignificant b more least (-x) = -roundSignificant b more least x := by
  unfold roundSignificant unitInLastPlace
  dsimp only
  rw [abs_neg, neg_div, roundHalfEven_neg, Int.cast_neg, neg_mul]

/-- Rounding to whole units keeps order. -/
theorem roundUnits_mono (base : 1 < b) {e : ℤ} {x y : ℚ} (le : x ≤ y) :
    (roundHalfEven (x / (b : ℚ) ^ e) : ℚ) * (b : ℚ) ^ e ≤
      roundHalfEven (y / (b : ℚ) ^ e) * (b : ℚ) ^ e := by
  have unit : (0 : ℚ) < (b : ℚ) ^ e := zpow_pos (by exact_mod_cast base.pos) e
  exact mul_le_mul_of_nonneg_right
    (Int.cast_le.mpr (roundHalfEven_mono (div_le_div_of_nonneg_right le unit.le))) unit.le

/-- Whole units of a larger weight are whole units of a smaller one. -/
theorem roundUnits_multiple (base : 1 < b) (n : ℤ) {k e : ℤ} (le : e ≤ k) :
    (roundHalfEven (n * (b : ℚ) ^ k / (b : ℚ) ^ e) : ℚ) * (b : ℚ) ^ e = n * (b : ℚ) ^ k := by
  have ne : (b : ℚ) ≠ 0 := by exact_mod_cast base.pos.ne'
  obtain ⟨j, rfl⟩ := Int.le.dest le
  have whole : (n : ℚ) * (b : ℚ) ^ (e + j) / (b : ℚ) ^ e = ((n * b ^ j : ℤ) : ℚ) := by
    rw [zpow_add₀ ne, mul_left_comm, mul_div_cancel_left₀ _ (zpow_ne_zero _ ne)]
    push_cast
    rfl
  rw [whole, roundHalfEven_intCast, ← whole, div_mul_cancel₀ _ (zpow_ne_zero _ ne)]

/-- An integer of no more digits than are kept is kept. -/
theorem roundSignificant_intCast (base : 1 < b) (least : ℤ) (low : least ≤ 0) {n : ℤ}
    (small : n.natAbs < b ^ (more + 1)) : roundSignificant b more least n = n := by
  rcases eq_or_ne n 0 with rfl | some
  · rw [Int.cast_zero, roundSignificant_zero]
  · have size : |(n : ℚ)| = ((n.natAbs : ℕ) : ℚ) := by
      rw [Nat.cast_natAbs, Int.cast_abs]
    have digits : Int.log b |(n : ℚ)| ≤ more := by
      rw [size, Int.log_natCast]
      exact Int.ofNat_le.mpr (Nat.lt_succ_iff.mp
        (Nat.log_lt_of_lt_pow (Int.natAbs_ne_zero.mpr some) small))
    have kept := roundUnits_multiple base n (k := 0)
      (e := max (Int.log b |(n : ℚ)| - more) least) (by omega)
    rw [zpow_zero, mul_one] at kept
    exact kept

theorem roundUnits_power (base : 1 < b) {k e : ℤ} (le : e ≤ k) :
    (roundHalfEven ((b : ℚ) ^ k / (b : ℚ) ^ e) : ℚ) * (b : ℚ) ^ e = (b : ℚ) ^ k := by
  simpa using roundUnits_multiple base 1 le

theorem roundSignificant_nonneg (base : 1 < b) {x : ℚ} (nonneg : 0 ≤ x) :
    0 ≤ roundSignificant b more least x := by
  have rounded := roundUnits_mono base (e := max (Int.log b |x| - more) least) nonneg
  rwa [zero_div, ← Int.cast_zero, roundHalfEven_intCast, Int.cast_zero, zero_mul] at rounded

theorem roundSignificant_mono_pos (base : 1 < b) {x y : ℚ} (pos : 0 < x) (le : x ≤ y) :
    roundSignificant b more least x ≤ roundSignificant b more least y := by
  have pos' := pos.trans_le le
  have logs := Int.log_mono_right (b := b) pos le
  unfold roundSignificant unitInLastPlace
  dsimp only
  rw [abs_of_pos pos, abs_of_pos pos']
  rcases eq_or_lt_of_le (max_le_max_right least (Int.sub_le_sub_right logs more)) with same | less
  · rw [same]
    exact roundUnits_mono base le
  · -- a power of the base lies between, and both roundings keep it
    have last : max (Int.log b y - more) least = Int.log b y - more := by omega
    have below : x ≤ (b : ℚ) ^ Int.log b y := by
      have upper := Int.lt_zpow_succ_log_self base x
      refine upper.le.trans (zpow_le_zpow_right₀ (by exact_mod_cast base.le) ?_)
      omega
    have above : (b : ℚ) ^ Int.log b y ≤ y := Int.zpow_log_le_self base pos'
    rw [last]
    refine (roundUnits_mono base below).trans (le_trans (le_of_eq ?_) (roundUnits_mono base above))
    rw [roundUnits_power base (by omega), roundUnits_power base (by omega)]

theorem roundSignificant_mono (base : 1 < b) : Monotone (roundSignificant b more least) := by
  intro x y le
  rcases lt_or_ge 0 x with pos | nonpos
  · exact roundSignificant_mono_pos more least base pos le
  · have left : roundSignificant b more least x ≤ 0 := by
      have nonneg := roundSignificant_nonneg more least base (neg_nonneg.mpr nonpos)
      rw [roundSignificant_neg] at nonneg
      exact neg_nonneg.mp nonneg
    rcases le_or_gt 0 y with nonneg | neg
    · exact left.trans (roundSignificant_nonneg more least base nonneg)
    · have negated := roundSignificant_mono_pos more least base (neg_pos.mpr neg) (neg_le_neg le)
      rw [roundSignificant_neg, roundSignificant_neg] at negated
      exact neg_le_neg_iff.mp negated

theorem roundSignificant_idem_nonneg (base : 1 < b) {x : ℚ} (nonneg : 0 ≤ x) :
    roundSignificant b more least (roundSignificant b more least x) =
      roundSignificant b more least x := by
  rcases (roundSignificant_nonneg more least base nonneg).eq_or_lt with zero | pos
  · rw [← zero, roundSignificant_zero]
  · have posX : 0 < x := by
      rcases nonneg.eq_or_lt with rfl | posX
      · rw [roundSignificant_zero] at pos
        exact absurd pos (lt_irrefl 0)
      · exact posX
    obtain ⟨n, k, value, unit⟩ : ∃ n k : ℤ, roundSignificant b more least x = n * (b : ℚ) ^ k ∧
        k = max (Int.log b x - more) least := by
      refine ⟨_, _, rfl, ?_⟩
      rw [abs_of_pos posX]
    by_cases finer : max (Int.log b (roundSignificant b more least x) - more) least ≤ k
    · -- the digits kept of the result are those kept of `x`, or more
      rw [roundSignificant, unitInLastPlace, abs_of_pos pos, value]
      rw [value] at finer
      exact roundUnits_multiple base n finer
    · -- rounding has carried into a new digit, and the result is a power of the base
      set y := roundSignificant b more least x with known
      have carried : max (Int.log b y - more) least = Int.log b y - more := by omega
      have below : x ≤ (b : ℚ) ^ Int.log b y := by
        have upper := Int.lt_zpow_succ_log_self base x
        refine upper.le.trans (zpow_le_zpow_right₀ (by exact_mod_cast base.le) ?_)
        omega
      have power : y = (b : ℚ) ^ Int.log b y := by
        refine le_antisymm ?_ (Int.zpow_log_le_self base pos)
        have rounded := roundUnits_mono base (e := k) below
        rw [roundUnits_power base (by omega)] at rounded
        refine le_trans (le_of_eq ?_) rounded
        rw [known, roundSignificant, unitInLastPlace, abs_of_pos posX, unit]
      have kept := roundUnits_power base (k := Int.log b y) (e := Int.log b y - more) (by omega)
      rw [← power] at kept
      rw [roundSignificant, unitInLastPlace, abs_of_pos pos, carried]
      exact kept

theorem roundSignificant_idem (base : 1 < b) (x : ℚ) :
    roundSignificant b more least (roundSignificant b more least x) =
      roundSignificant b more least x := by
  rcases le_total 0 x with nonneg | nonpos
  · exact roundSignificant_idem_nonneg more least base nonneg
  · have negated := roundSignificant_idem_nonneg more least base (neg_nonneg.mpr nonpos)
    rw [roundSignificant_neg, roundSignificant_neg] at negated
    exact neg_injective negated

/-- A result is off by half its last digit at most. -/
theorem roundSignificant_error (base : 1 < b) {x bound : ℚ} (le : |x| ≤ bound)
    (normal : (b : ℚ) ^ (least + more) ≤ bound) :
    |roundSignificant b more least x - x| ≤ bound / b ^ more / 2 := by
  have posB : (0 : ℚ) < b := by exact_mod_cast base.pos
  rcases eq_or_ne x 0 with rfl | some
  · rw [roundSignificant_zero, sub_zero, abs_zero]
    exact div_nonneg (div_nonneg ((abs_nonneg _).trans le) (by positivity)) (by norm_num)
  · have digits : ∀ k : ℤ, (b : ℚ) ^ (k + more) ≤ bound → (b : ℚ) ^ k ≤ bound / b ^ more := by
      intro k small
      rwa [le_div_iff₀ (by positivity), ← zpow_natCast, ← zpow_add₀ posB.ne']
    have unit : unitInLastPlace b more least x ≤ bound / b ^ more := by
      unfold unitInLastPlace
      rcases max_choice (Int.log b |x| - more) least with last | last
      · rw [last]
        refine digits _ ?_
        rw [sub_add_cancel]
        exact (Int.zpow_log_le_self base (abs_pos.mpr some)).trans le
      · rw [last]
        exact digits least normal
    have posUnit : 0 < unitInLastPlace b more least x := zpow_pos posB _
    have near : |(roundHalfEven (x / unitInLastPlace b more least x) : ℚ) -
        x / unitInLastPlace b more least x| ≤ 1 / 2 := by
      rw [abs_sub_comm]
      exact (roundHalfEven_eq_iff.mp rfl).elim le_of_lt fun tie => tie.1.le
    have scaled : roundSignificant b more least x - x =
        (roundHalfEven (x / unitInLastPlace b more least x) -
          x / unitInLastPlace b more least x) * unitInLastPlace b more least x := by
      rw [sub_mul, div_mul_cancel₀ _ posUnit.ne']
      rfl
    rw [scaled, abs_mul, abs_of_pos posUnit]
    calc _ ≤ 1 / 2 * unitInLastPlace b more least x :=
          mul_le_mul_of_nonneg_right near posUnit.le
      _ ≤ bound / b ^ more / 2 := by linarith

end Significant

/-! ## Doubles and decimals -/

/-- The IEEE double nearest to `x`: 53 significant bits, the last of weight at least `2 ^ -1074`. -/
def float64 (x : ℚ) : ℚ :=
  roundSignificant 2 52 (-1074) x

/-- A double is off by a part in 2 ^ 53 at most. -/
theorem float64_error {x bound : ℚ} (le : |x| ≤ bound) (normal : 1 / 10000 ≤ bound) :
    |float64 x - x| ≤ bound / 2 ^ 53 := by
  have least : (2 : ℚ) ^ (-1074 + (52 : ℕ) : ℤ) ≤ 1 / 10000 :=
    (zpow_le_zpow_right₀ (by norm_num) (by norm_num : (-1074 + (52 : ℕ) : ℤ) ≤ -14)).trans
      (by norm_num)
  have error := roundSignificant_error (b := 2) 52 (-1074) (by norm_num) le
    (by exact_mod_cast least.trans normal)
  calc |float64 x - x| ≤ bound / (2 : ℕ) ^ 52 / 2 := error
    _ = bound / 2 ^ 53 := by
      push_cast
      rw [div_div]
      norm_num

/-- `x` under Python's default decimal context: 28 digits, ties to even. -/
def decimal28 (x : ℚ) : ℚ :=
  roundSignificant 10 27 (-1000026) x

/-- A rounding as arithmetic uses it: it keeps order, its own results, and integers in range. -/
structure Rounds (round : ℚ → ℚ) : Prop where
  mono : Monotone round
  zero : round 0 = 0
  idem : ∀ x, round (round x) = round x
  whole : ∀ n : ℤ, n.natAbs < 2 ^ 53 → round n = n

theorem rounds_float64 : Rounds float64 where
  mono := roundSignificant_mono _ _ (by norm_num)
  zero := roundSignificant_zero _ _ _
  idem := roundSignificant_idem _ _ (by norm_num)
  whole _ small := roundSignificant_intCast _ (by norm_num) _ (by norm_num) small

theorem rounds_decimal28 : Rounds decimal28 where
  mono := roundSignificant_mono _ _ (by norm_num)
  zero := roundSignificant_zero _ _ _
  idem := roundSignificant_idem _ _ (by norm_num)
  whole _ small := roundSignificant_intCast _ (by norm_num) _ (by norm_num)
    (small.trans (by norm_num))

example : decimal28 (1 / 3) = 3333333333333333333333333333 / 10 ^ 28 := by decide +kernel

-- a tenth more than 0.7 is below 0.8 in doubles
example : float64 (float64 (7 / 10) + float64 (1 / 10)) < float64 (8 / 10) := by decide +kernel

/-! ## Sums -/

section Sums

variable (round : ℚ → ℚ)

/-- A sum that is rounded after each term. -/
def runningSum (xs : List ℚ) : ℚ :=
  xs.foldl (fun total x => round (total + x)) 0

@[simp] theorem runningSum_nil : runningSum round [] = 0 := rfl

@[simp] theorem runningSum_concat (xs : List ℚ) (x : ℚ) :
    runningSum round (xs ++ [x]) = round (runningSum round xs + x) :=
  List.foldl_concat _ _ _ _

variable {round}

/-- A sum that is rounded throughout is off by two roundings for each term at most. -/
theorem runningSum_error {bound error : ℚ} (nonneg : 0 ≤ error)
    (near : ∀ x, |x| ≤ bound → |round x - x| ≤ error) {xs : List ℚ} (terms : ∀ x ∈ xs, 0 ≤ x)
    (room : xs.sum + 2 * xs.length * error ≤ bound) :
    |runningSum round (xs.map round) - xs.sum| ≤ 2 * xs.length * error := by
  induction xs using List.reverseRecOn with
  | nil => simp
  | append_singleton xs x ih =>
      obtain ⟨before, last⟩ := List.forall_mem_append.mp terms
      have term := last x (List.mem_singleton_self x)
      have sum : 0 ≤ xs.sum := List.sum_nonneg before
      have size : (0 : ℚ) ≤ 2 * xs.length * error := by positivity
      rw [List.sum_append, List.sum_singleton, List.length_append, List.length_singleton] at room ⊢
      push_cast at room ⊢
      rw [List.map_append, List.map_singleton, runningSum_concat]
      have total := abs_le.mp (ih before (by linarith))
      have rounded := abs_le.mp (near x (abs_le.mpr ⟨by linarith, by linarith⟩))
      have added := abs_le.mp (near (runningSum round (xs.map round) + round x)
        (abs_le.mpr ⟨by linarith, by linarith⟩))
      exact abs_le.mpr ⟨by linarith, by linarith⟩

variable (rounds : Rounds round)

include rounds

theorem Rounds.nonneg {x : ℚ} (nonneg : 0 ≤ x) : 0 ≤ round x :=
  rounds.zero ▸ rounds.mono nonneg

theorem Rounds.nonpos {x : ℚ} (nonpos : x ≤ 0) : round x ≤ 0 :=
  rounds.zero ▸ rounds.mono nonpos

theorem runningSum_idem (xs : List ℚ) : round (runningSum round xs) = runningSum round xs := by
  induction xs using List.reverseRecOn with
  | nil => exact rounds.zero
  | append_singleton xs x _ => rw [runningSum_concat, rounds.idem]

theorem runningSum_mono {xs ys : List ℚ} (le : List.Forall₂ (· ≤ ·) xs ys) :
    runningSum round xs ≤ runningSum round ys := by
  have from_ : ∀ {total total' : ℚ}, total ≤ total' →
      xs.foldl (fun total x => round (total + x)) total ≤
        ys.foldl (fun total x => round (total + x)) total' := by
    induction le with
    | nil => exact fun le => le
    | cons head _ ih => exact fun le => ih (rounds.mono (add_le_add le head))
  exact from_ le_rfl

theorem runningSum_nonneg {xs : List ℚ} (nonneg : ∀ x ∈ xs, 0 ≤ x) : 0 ≤ runningSum round xs := by
  induction xs using List.reverseRecOn with
  | nil => exact le_rfl
  | append_singleton xs x ih =>
      obtain ⟨before, last⟩ := List.forall_mem_append.mp nonneg
      rw [runningSum_concat]
      exact rounds.nonneg (add_nonneg (ih before) (last x (List.mem_singleton_self x)))

/-- A sum of terms that are not negative is no less than any of them. -/
theorem le_runningSum {xs : List ℚ} (nonneg : ∀ x ∈ xs, 0 ≤ x) {x : ℚ} (mem : x ∈ xs)
    (rounded : round x = x) : x ≤ runningSum round xs := by
  induction xs using List.reverseRecOn with
  | nil => exact absurd mem List.not_mem_nil
  | append_singleton xs y ih =>
      obtain ⟨before, last⟩ := List.forall_mem_append.mp nonneg
      have more := last y (List.mem_singleton_self y)
      rw [runningSum_concat, ← rounded]
      rcases List.mem_append.mp mem with earlier | here
      · exact rounds.mono (le_add_of_le_of_nonneg (ih before earlier) more)
      · rw [List.mem_singleton.mp here]
        exact rounds.mono (le_add_of_nonneg_left (runningSum_nonneg rounds before))

/-- A term that is zero leaves the sum. -/
theorem runningSum_skip (xs ys : List ℚ) :
    runningSum round (xs ++ 0 :: ys) = runningSum round (xs ++ ys) := by
  have same : round (runningSum round xs + 0) = runningSum round xs := by
    rw [add_zero, runningSum_idem rounds]
  unfold runningSum at same ⊢
  rw [List.foldl_append, List.foldl_append, List.foldl_cons, same]

/-- A term that may be absent. -/
theorem runningSum_ite (p : Prop) [Decidable p] (xs : List ℚ) (x : ℚ) (ys : List ℚ) :
    runningSum round (xs ++ (if p then [x] else []) ++ ys) =
      runningSum round (xs ++ (if p then x else 0) :: ys) := by
  rw [List.append_assoc]
  split
  · rfl
  · exact (runningSum_skip rounds xs ys).symm

theorem runningSum_filter (xs : List ℚ) :
    runningSum round (xs.filter (· ≠ 0)) = runningSum round xs := by
  induction xs using List.reverseRecOn with
  | nil => rfl
  | append_singleton xs x ih =>
      rw [List.filter_append]
      by_cases zero : x = 0
      · subst zero
        rw [runningSum_skip rounds xs []]
        simpa using ih
      · rw [List.filter_cons_of_pos (by simpa using zero), List.filter_nil, runningSum_concat, ih,
          runningSum_concat]

/-- The terms of some entries only, the others counting for nothing. -/
theorem runningSum_filter_map {α : Type} (p : α → Bool) (f : α → ℚ) (xs : List α) :
    runningSum round ((xs.filter p).map f) =
      runningSum round (xs.map fun x => if p x = true then f x else 0) := by
  induction xs using List.reverseRecOn with
  | nil => rfl
  | append_singleton xs x ih =>
      rw [List.filter_append, List.map_append, List.map_append, List.map_singleton]
      by_cases kept : p x = true
      · rw [List.filter_cons_of_pos kept, List.filter_nil, List.map_singleton, runningSum_concat,
          ih, if_pos kept, runningSum_concat]
      · rw [List.filter_cons_of_neg kept, List.filter_nil, List.map_nil, List.append_nil, ih,
          if_neg kept, runningSum_skip rounds _ [], List.append_nil]

theorem runningSum_of_zero {xs : List ℚ} (zero : ∀ x ∈ xs, x = 0) : runningSum round xs = 0 := by
  rw [← runningSum_filter rounds, List.filter_eq_nil_iff.mpr fun x mem => by simpa using zero x mem,
    runningSum_nil]

/-- Two terms may come in either order. -/
theorem runningSum_perm {xs ys : List ℚ} (perm : xs.Perm ys) (rounded : ∀ x ∈ xs, round x = x)
    (few : (xs.filter (· ≠ 0)).length ≤ 2) : runningSum round xs = runningSum round ys := by
  have short : ∀ {us vs : List ℚ}, us.Perm vs → us.length ≤ 2 → (∀ x ∈ us, round x = x) →
      runningSum round us = runningSum round vs := by
    intro us vs perm few rounded
    match us, few with
    | [], _ => rw [perm.nil_eq]
    | [x], _ => rw [perm.singleton_eq]
    | [x, y], _ =>
        obtain ⟨first, second⟩ := List.forall_mem_cons.mp rounded
        have last := second y (List.mem_singleton_self y)
        rcases List.perm_pair.mp perm.symm with rfl | rfl
        · rfl
        · simp only [runningSum, List.foldl_cons, List.foldl_nil, zero_add, first, last]
          rw [add_comm]
  rw [← runningSum_filter rounds xs, ← runningSum_filter rounds ys]
  exact short (perm.filter _) few fun x mem => rounded x (List.mem_of_mem_filter mem)

end Sums

/-! ## How numbers print -/

/-- The digits of `num / den` behind the point, `fuel` of them at most. -/
def fractionDigits : ℕ → ℕ → ℕ → List Char
  | 0, _, _ => []
  | fuel + 1, num, den =>
      if num = 0 then []
      else Nat.digitChar (num * 10 / den) :: fractionDigits fuel (num * 10 % den) den

/-- A float as it prints, with at least one digit behind the point. -/
def floatText (x : ℚ) : String :=
  let size := x.num.natAbs
  let digits := fractionDigits 17 (size % x.den) x.den
  (if x < 0 then "-" else "") ++ toString (size / x.den) ++ "." ++
    String.ofList (if digits.isEmpty then ['0'] else digits)

/-- What a double prints as: the shortest decimal that it is the double of. -/
def shortestDecimal (x : ℚ) : ℚ :=
  (((List.range 17).map fun more => roundSignificant 10 more (-400) x).find? fun decimal =>
    float64 decimal = x).getD x

/-- What floats and decimals keep of a result, and what a float prints as. -/
structure Arithmetic where
  float : ℚ → ℚ
  decimal : ℚ → ℚ
  printed : ℚ → ℚ

namespace Arithmetic

/-- Nothing is rounded. -/
def exact : Arithmetic where
  float := id
  decimal := id
  printed := id

def python : Arithmetic where
  float := float64
  decimal := decimal28
  printed := shortestDecimal

end Arithmetic

/-- `f"{n:04d}"`. -/
def padded (n : ℤ) : String :=
  let digits := toString n.natAbs
  if n < 0 then "-" ++ String.ofList (List.replicate (3 - digits.length) '0') ++ digits
  else String.ofList (List.replicate (4 - digits.length) '0') ++ digits

/-- `f"{x:.1f}"`: a double to one place, ties to even. -/
def oneDecimal (x : ℚ) : String :=
  let tenths := (roundHalfEven (float64 x * 10)).natAbs
  (if x < 0 then "-" else "") ++ toString (tenths / 10) ++ "." ++ toString (tenths % 10)

/-- `f"{x:.2f}"`: a double to two places, ties to even. -/
def twoDecimals (x : ℚ) : String :=
  let cents := (roundHalfEven (float64 x * 100)).natAbs
  (if x < 0 then "-" else "") ++ toString (cents / 100) ++ "." ++ toString (cents / 10 % 10) ++
    toString (cents % 10)

example : floatText (-49 / 4) = "-12.25" := by decide +kernel

example : floatText (shortestDecimal (float64 (float64 (7 / 10) + float64 (1 / 10)))) =
    "0.7999999999999999" := by
  decide +kernel

-- the double next to 0.15 is below it
example : (oneDecimal (15 / 100), oneDecimal (49 / 4)) = ("0.1", "12.2") := by decide +kernel

example : twoDecimals 1870 = "1870.00" := by decide +kernel

end DealFlow.Lib
