import Mathlib.Data.List.DropRight

/-!
# Bounded buffers

`pushBounded cap` adds an element at the end of a buffer of at most `cap` elements, where the oldest
ones make room.  What a buffer holds after any number of pushes are the last `cap` of all elements
pushed (`pushBounded_rtake`).

`sliceTo` and `sliceFrom` are Python's slices with one bound, which counts from the end where it is
negative.
-/

namespace DealFlow.Lib

variable {α : Type*} (cap : ℕ)

/-- `xs[:limit]`. -/
def sliceTo (limit : ℤ) (xs : List α) : List α :=
  if 0 ≤ limit then xs.take limit.toNat else xs.take (xs.length - limit.natAbs)

/-- `xs[start:]`. -/
def sliceFrom (start : ℤ) (xs : List α) : List α :=
  if 0 ≤ start then xs.drop start.toNat else xs.drop (xs.length - start.natAbs)

def pushBounded (buffer : List α) (a : α) : List α :=
  (buffer ++ [a]).rtake cap

theorem length_rtake_le (xs : List α) : (xs.rtake cap).length ≤ cap := by
  unfold List.rtake
  rw [List.length_drop]
  omega

/-- A buffer with room keeps everything. -/
theorem rtake_of_length_le {xs : List α} (room : xs.length ≤ cap) : xs.rtake cap = xs := by
  unfold List.rtake
  rw [Nat.sub_eq_zero_of_le room, List.drop_zero]

/-- Only the last elements decide what a push leaves. -/
theorem pushBounded_rtake (xs : List α) (a : α) :
    pushBounded cap (xs.rtake cap) a = (xs ++ [a]).rtake cap := by
  unfold pushBounded
  rw [List.rtake_eq_reverse_take_reverse, List.rtake_eq_reverse_take_reverse,
    List.rtake_eq_reverse_take_reverse, List.reverse_append, List.reverse_append,
    List.reverse_reverse, List.reverse_singleton, List.singleton_append]
  cases cap with
  | zero => simp
  | succ cap =>
      rw [List.singleton_append, List.take_succ_cons, List.take_succ_cons, List.take_take,
        Nat.min_eq_left (Nat.le_succ cap)]

/-- The last elements, newest first. -/
theorem reverse_rtake (xs : List α) : (xs.rtake cap).reverse = xs.reverse.take cap := by
  rw [List.rtake_eq_reverse_take_reverse, List.reverse_reverse]

/-- A slice from so many before the end. -/
theorem sliceFrom_neg {n : ℕ} (pos : 0 < n) (xs : List α) :
    sliceFrom (-(n : ℤ)) xs = xs.rtake n := by
  unfold sliceFrom List.rtake
  rw [if_neg (by omega), Int.natAbs_neg, Int.natAbs_natCast]

end DealFlow.Lib
