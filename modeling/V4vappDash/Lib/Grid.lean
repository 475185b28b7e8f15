import Mathlib.Data.Int.Order.Lemmas

set_option autoImplicit false

/-! # Integers rounded down to a grid

A store that keeps a quantity in coarser units than the program rounds it down to a multiple
of the unit. A rounded value is a `GridPoint n`, a multiple of `n` by construction. Rounding
never changes the comparison with a grid point (`floor_lt_iff`), so a test made on the fine
value and repeated on the stored one has the same answer.
-/

/-- The multiples of `n`. -/
structure GridPoint (n : Int) where
  val : Int
  dvd : n ∣ val
  deriving DecidableEq, Repr

namespace GridPoint

variable {n : Int}

@[ext] theorem ext {a b : GridPoint n} (h : a.val = b.val) : a = b := by
  cases a; cases b; simpa using h

/-- The greatest multiple of `n` that is at most `t`. -/
def floor (n t : Int) : GridPoint n := ⟨n * (t / n), Dvd.intro _ rfl⟩

theorem floor_le (hn : 0 < n) (t : Int) : (floor n t).val ≤ t :=
  Int.mul_ediv_self_le (ne_of_gt hn)

/-- Rounding down does not change which side of a grid point a value lies on. -/
theorem floor_lt_iff (hn : 0 < n) (t : Int) (p : GridPoint n) :
    (floor n t).val < p.val ↔ t < p.val := by
  obtain ⟨v, k, rfl⟩ := p
  -- multiples of `n` compare as their factors do
  calc n * (t / n) < n * k
      ↔ t / n < k := Int.mul_lt_mul_left hn
    _ ↔ t < k * n := Int.ediv_lt_iff_lt_mul hn
    _ ↔ t < n * k := by rw [Int.mul_comm]

theorem le_floor_iff (hn : 0 < n) (t : Int) (p : GridPoint n) :
    p.val ≤ (floor n t).val ↔ p.val ≤ t := by
  rw [← not_lt, ← not_lt, floor_lt_iff hn]

theorem floor_mono (hn : 0 < n) {s t : Int} (h : s ≤ t) : (floor n s).val ≤ (floor n t).val :=
  Int.mul_le_mul_of_nonneg_left (Int.ediv_le_ediv hn h) (le_of_lt hn)

/-- A grid point is stored unchanged. -/
@[simp] theorem floor_val (p : GridPoint n) : floor n p.val = p := by
  obtain ⟨v, k, rfl⟩ := p
  apply ext
  show n * (n * k / n) = n * k
  rcases eq_or_ne n 0 with rfl | hn
  · simp
  · rw [Int.mul_ediv_cancel_left k hn]

end GridPoint
