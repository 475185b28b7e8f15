import Mathlib.Data.Int.Log
import Mathlib.Data.Rat.Floor
import Mathlib.Tactic.FieldSimp
import Mathlib.Tactic.Linarith
import Mathlib.Tactic.NormNum
import Mathlib.Tactic.Positivity
import Mathlib.Tactic.Ring

set_option autoImplicit false

/-! # Decimal arithmetic in a context of fixed precision

Decimal numbers are rationals; only their value is modelled, not the exponent they are
written with. An operation in a context of precision `prec` computes the exact result and
rounds it to `prec` significant digits, ties to even (`roundSig`). A result that already fits
in `prec` digits is kept (`roundSig_eq_self`), so a chain of operations is exact as long as
every intermediate value fits. Where one does not, `lt_roundSig_iff` and `le_roundSig_iff` say what
it is rounded across, and `roundSig_of_near` finds a number of few digits again in one close to it.
-/

/-- A decimal number, by value. -/
abbrev Decimal := ℚ

namespace Decimal

/-! ## Rounding to an integer -/

/-- The nearest integer, ties to the even one. -/
def roundHalfEven (q : Decimal) : Int :=
  if q - ⌊q⌋ < 1 / 2 then ⌊q⌋
  else if 1 / 2 < q - ⌊q⌋ then ⌊q⌋ + 1
  else if ⌊q⌋ % 2 = 0 then ⌊q⌋ else ⌊q⌋ + 1

/-- The nearest integer, ties away from zero. -/
def roundHalfUp (q : Decimal) : Int :=
  if 0 ≤ q then ⌊q + 1 / 2⌋ else ⌈q - 1 / 2⌉

/-- The least integer that is not below `q`. -/
def roundCeiling (q : Decimal) : Int := ⌈q⌉

/-- The integer next to `q` on the side of zero. -/
def truncate (q : Decimal) : Int := if 0 ≤ q then ⌊q⌋ else ⌈q⌉

theorem roundHalfUp_eq_iff {q : Decimal} (hq : 0 ≤ q) (n : Int) :
    roundHalfUp q = n ↔ (n : ℚ) - 1 / 2 ≤ q ∧ ¬(n : ℚ) + 1 / 2 ≤ q := by
  rw [roundHalfUp, if_pos hq, Int.floor_eq_iff, not_le]
  constructor
  · rintro ⟨hlow, hhigh⟩
    exact ⟨by linarith, by linarith⟩
  · rintro ⟨hlow, hhigh⟩
    exact ⟨by linarith, by linarith⟩

@[simp] theorem roundHalfEven_intCast (n : Int) : roundHalfEven (n : Decimal) = n := by
  simp [roundHalfEven]

@[simp] theorem roundCeiling_intCast (n : Int) : roundCeiling (n : Decimal) = n := by
  simp [roundCeiling]

theorem roundHalfEven_neg (q : Decimal) : roundHalfEven (-q) = -roundHalfEven q := by
  by_cases hint : (⌊q⌋ : ℚ) = q
  · rw [← hint, ← Int.cast_neg, roundHalfEven_intCast, roundHalfEven_intCast]
  -- the whole part of `-q` is the integer below that of `q`, with the sign changed
  have hfloor : ⌊-q⌋ = -⌊q⌋ - 1 := by
    have hle := Int.floor_le q
    have hlt := Int.lt_floor_add_one q
    have hne := lt_of_le_of_ne hle hint
    rw [Int.floor_eq_iff]
    push_cast
    constructor <;> linarith
  unfold roundHalfEven
  rw [hfloor]
  push_cast
  split_ifs <;> first | omega | (exfalso; linarith)

/-! ## Rounding to a number of significant digits -/

/-- The exponent of the last of the `prec` significant digits of `q`. -/
def lastExp (prec : Nat) (q : Decimal) : Int := Int.log 10 |q| + 1 - prec

/-- `q` rounded to `prec` significant digits, ties to even. -/
def roundSig (prec : Nat) (q : Decimal) : Decimal :=
  if q = 0 then 0
  else (roundHalfEven (q / (10 : ℚ) ^ lastExp prec q) : Decimal) * (10 : ℚ) ^ lastExp prec q

@[simp] theorem roundSig_zero (prec : Nat) : roundSig prec 0 = 0 := by
  simp [roundSig]

theorem roundSig_eq_mul (prec : Nat) (q : Decimal) : roundSig prec q
    = (roundHalfEven (q / (10 : ℚ) ^ lastExp prec q) : Decimal) * (10 : ℚ) ^ lastExp prec q := by
  rw [roundSig]
  split_ifs with hq
  · rw [hq]
    simp [roundHalfEven]
  · rfl

theorem roundSig_neg (prec : Nat) (q : Decimal) : roundSig prec (-q) = -roundSig prec q := by
  rw [roundSig_eq_mul, roundSig_eq_mul, lastExp, lastExp, abs_neg, neg_div, roundHalfEven_neg]
  push_cast
  ring

/-- A multiple of the last significant digit's unit is not changed by rounding. -/
theorem roundSig_eq_self_of_mul {prec : Nat} {q : Decimal} {m : Int}
    (h : q = m * (10 : ℚ) ^ lastExp prec q) : roundSig prec q = q := by
  have hpow : ((10 : ℚ) ^ lastExp prec q) ≠ 0 := zpow_ne_zero _ (by norm_num)
  by_cases hq : q = 0
  · rw [hq, roundSig_zero]
  · have hdiv : q / (10 : ℚ) ^ lastExp prec q = m := by
      rw [div_eq_iff hpow]; exact h
    rw [roundSig, if_neg hq, hdiv, roundHalfEven_intCast]
    exact h.symm

/-- The last significant digit of `m · 10ᵏ` is not below `10ᵏ` when `m` has too many digits
only; with at most `prec` digits it is at or below `10ᵏ`. -/
theorem lastExp_le {prec : Nat} {m k : Int} (hm : |m| < 10 ^ prec) (hm0 : m ≠ 0) :
    lastExp prec ((m : ℚ) * (10 : ℚ) ^ k) ≤ k := by
  have hpos : (0 : ℚ) < |(m : ℚ) * (10 : ℚ) ^ k| := by
    apply abs_pos.mpr
    exact mul_ne_zero (by exact_mod_cast hm0) (zpow_ne_zero _ (by norm_num))
  have hpow : (0 : ℚ) < (10 : ℚ) ^ k := zpow_pos (by norm_num) k
  have habs : |(m : ℚ) * (10 : ℚ) ^ k| < (10 : ℚ) ^ ((prec : Int) + k) := by
    calc |(m : ℚ) * (10 : ℚ) ^ k|
        = |(m : ℚ)| * (10 : ℚ) ^ k := by rw [abs_mul, abs_of_pos hpow]
      _ < (10 : ℚ) ^ prec * (10 : ℚ) ^ k :=
          mul_lt_mul_of_pos_right (by exact_mod_cast hm) hpow
      _ = (10 : ℚ) ^ ((prec : Int) + k) := by rw [zpow_add₀ (by norm_num), zpow_natCast]
  have hlog : Int.log 10 |(m : ℚ) * (10 : ℚ) ^ k| < (prec : Int) + k := by
    -- the logarithm counts the digits before the last significant one
    rw [← Int.lt_zpow_iff_log_lt (by norm_num) hpos]
    exact_mod_cast habs
  rw [lastExp]
  omega

/-- **Exactness.** A number with at most `prec` significant digits is not rounded. -/
theorem roundSig_eq_self {prec : Nat} {m k : Int} (hm : |m| < 10 ^ prec) :
    roundSig prec ((m : ℚ) * (10 : ℚ) ^ k) = (m : ℚ) * (10 : ℚ) ^ k := by
  by_cases hm0 : m = 0
  · subst hm0; simp
  · have hle := lastExp_le (k := k) hm hm0
    -- the unit of the last digit divides `10ᵏ`, and the quotient goes into the integer
    obtain ⟨j, hj⟩ := Int.eq_ofNat_of_zero_le (sub_nonneg.mpr hle)
    apply roundSig_eq_self_of_mul (m := m * 10 ^ j)
    have hk : k = (j : Int) + lastExp prec ((m : ℚ) * (10 : ℚ) ^ k) := by omega
    calc (m : ℚ) * (10 : ℚ) ^ k
        = (m : ℚ) * (10 : ℚ) ^ ((j : Int) + lastExp prec ((m : ℚ) * (10 : ℚ) ^ k)) := by
          conv_lhs => rw [hk]
      _ = (m : ℚ) * ((10 : ℚ) ^ j * (10 : ℚ) ^ lastExp prec ((m : ℚ) * (10 : ℚ) ^ k)) := by
          rw [zpow_add₀ (by norm_num), zpow_natCast]
      _ = ((m * 10 ^ j : Int) : ℚ) * (10 : ℚ) ^ lastExp prec ((m : ℚ) * (10 : ℚ) ^ k) := by
          push_cast
          ring

theorem roundSig_intCast {prec : Nat} {m : Int} (hm : |m| < 10 ^ prec) :
    roundSig prec (m : ℚ) = m := by
  simpa using roundSig_eq_self (k := 0) hm

/-! ## Numbers of few digits -/

/-- `q` has at most `prec` significant digits. -/
def Fits (prec : Nat) (q : Decimal) : Prop :=
  ∃ m k : Int, |m| < 10 ^ prec ∧ q = (m : ℚ) * (10 : ℚ) ^ k

theorem Fits.roundSig {prec : Nat} {q : Decimal} (h : Fits prec q) : roundSig prec q = q := by
  obtain ⟨m, k, hm, rfl⟩ := h
  exact roundSig_eq_self hm

theorem Fits.mul_zpow {prec : Nat} {q : Decimal} (h : Fits prec q) (j : Int) :
    Fits prec (q * (10 : ℚ) ^ j) := by
  obtain ⟨m, k, hm, rfl⟩ := h
  refine ⟨m, k + j, hm, ?_⟩
  rw [mul_assoc, ← zpow_add₀ (by norm_num)]

theorem fits_div_ten_pow {prec : Nat} {q : Decimal} {j : Nat} :
    Fits prec (q / 10 ^ j) ↔ Fits prec q := by
  have hpow : (10 : ℚ) ^ j ≠ 0 := by positivity
  have hdiv : q / 10 ^ j = q * (10 : ℚ) ^ (-(j : Int)) := by
    rw [zpow_neg, zpow_natCast, div_eq_mul_inv]
  constructor
  · intro h
    have hback := h.mul_zpow j
    rwa [zpow_natCast, div_mul_cancel₀ _ hpow] at hback
  · intro h
    rw [hdiv]
    exact h.mul_zpow _

theorem Fits.neg {prec : Nat} {q : Decimal} (h : Fits prec q) : Fits prec (-q) := by
  obtain ⟨m, k, hm, rfl⟩ := h
  refine ⟨-m, k, by rwa [abs_neg], ?_⟩
  push_cast
  ring

theorem Fits.mono {prec prec' : Nat} (hle : prec ≤ prec') {q : Decimal} (h : Fits prec q) :
    Fits prec' q := by
  obtain ⟨m, k, hm, rfl⟩ := h
  exact ⟨m, k, hm.trans_le (pow_le_pow_right₀ (by norm_num) hle), rfl⟩

/-- A multiple of the unit by `10 ^ prec` has one digit. -/
theorem fits_of_abs_le {prec : Nat} (hprec : 0 < prec) {m k : Int} (hm : |m| ≤ 10 ^ prec) :
    Fits prec ((m : ℚ) * (10 : ℚ) ^ k) := by
  rcases hm.lt_or_eq with hlt | heq
  · exact ⟨m, k, hlt, rfl⟩
  · have hone : ∀ s : Int, |s| = 1 → |s| < 10 ^ prec := by
      intro s hs
      rw [hs]
      exact one_lt_pow₀ (by norm_num) (by omega)
    obtain ⟨s, hs, rfl⟩ : ∃ s : Int, |s| = 1 ∧ m = s * 10 ^ prec := by
      rcases abs_eq (by positivity) |>.mp heq with rfl | rfl
      · exact ⟨1, abs_one, (one_mul _).symm⟩
      · exact ⟨-1, by simp, by ring⟩
    refine ⟨s, prec + k, hone s hs, ?_⟩
    rw [zpow_add₀ (by norm_num), zpow_natCast]
    push_cast
    ring

theorem fits_intCast {prec : Nat} {m : Int} (hm : |m| < 10 ^ prec) : Fits prec (m : ℚ) :=
  ⟨m, 0, hm, by simp⟩

theorem fits_natCast_div {prec n : Nat} (hn : n < 10 ^ prec) (j : Nat) :
    Fits prec ((n : ℚ) / 10 ^ j) := by
  rw [fits_div_ten_pow]
  have habs : |(n : Int)| < 10 ^ prec := by
    rw [abs_of_nonneg (Int.natCast_nonneg n)]
    exact_mod_cast hn
  exact_mod_cast fits_intCast habs

/-- The unit of the last significant digit moves with the point. -/
theorem lastExp_mul_zpow (prec : Nat) {q : Decimal} (hq : q ≠ 0) (k : Int) :
    lastExp prec (q * (10 : ℚ) ^ k) = lastExp prec q + k := by
  have hpos : 0 < |q| := abs_pos.mpr hq
  have hpow : (0 : ℚ) < (10 : ℚ) ^ k := zpow_pos (by norm_num) k
  have hpos' : 0 < |q| * (10 : ℚ) ^ k := mul_pos hpos hpow
  have hle : (10 : ℚ) ^ Int.log 10 |q| ≤ |q| := Int.zpow_log_le_self (by norm_num) hpos
  have hlt : |q| < (10 : ℚ) ^ (Int.log 10 |q| + 1) := Int.lt_zpow_succ_log_self (by norm_num) |q|
  have hlog : Int.log 10 (|q| * (10 : ℚ) ^ k) = Int.log 10 |q| + k := by
    apply le_antisymm
    · rw [← Int.lt_add_one_iff, ← Int.lt_zpow_iff_log_lt (by norm_num) hpos']
      calc |q| * (10 : ℚ) ^ k
          < (10 : ℚ) ^ (Int.log 10 |q| + 1) * (10 : ℚ) ^ k := mul_lt_mul_of_pos_right hlt hpow
        _ = (10 : ℚ) ^ (Int.log 10 |q| + k + 1) := by
            rw [← zpow_add₀ (by norm_num)]
            congr 1
            omega
    · rw [← Int.zpow_le_iff_le_log (by norm_num) hpos']
      calc ((10 : ℕ) : ℚ) ^ (Int.log 10 |q| + k)
          = (10 : ℚ) ^ Int.log 10 |q| * (10 : ℚ) ^ k := by
            rw [Nat.cast_ofNat, zpow_add₀ (by norm_num)]
        _ ≤ |q| * (10 : ℚ) ^ k := mul_le_mul_of_nonneg_right hle hpow.le
  rw [lastExp, lastExp, abs_mul, abs_of_pos hpow, hlog]
  omega

/-- Rounding to significant digits does not depend on where the point is. -/
theorem roundSig_mul_zpow (prec : Nat) (q : Decimal) (k : Int) :
    roundSig prec (q * (10 : ℚ) ^ k) = roundSig prec q * (10 : ℚ) ^ k := by
  by_cases hq : q = 0
  · rw [hq, zero_mul, roundSig_zero, zero_mul]
  · have hpow : (10 : ℚ) ^ k ≠ 0 := zpow_ne_zero _ (by norm_num)
    have hdiv : q * (10 : ℚ) ^ k / ((10 : ℚ) ^ lastExp prec q * (10 : ℚ) ^ k)
        = q / (10 : ℚ) ^ lastExp prec q := mul_div_mul_right _ _ hpow
    rw [roundSig, roundSig, if_neg hq, if_neg (mul_ne_zero hq hpow), lastExp_mul_zpow prec hq,
      zpow_add₀ (by norm_num), hdiv, mul_assoc]

/-! ## Comparing with a rounded number -/

/-- An integer is below a rounded number when the number is beyond the middle between it and the
next one; a tie goes to the even one. -/
theorem lt_roundHalfEven_iff (n : Int) (q : Decimal) :
    n < roundHalfEven q ↔ (n : ℚ) + 1 / 2 < q ∨ ((n : ℚ) + 1 / 2 = q ∧ n % 2 = 1) := by
  have hle := Int.floor_le q
  have hlt := Int.lt_floor_add_one q
  unfold roundHalfEven
  rcases lt_trichotomy n ⌊q⌋ with h | h | h
  · have hn : (n : ℚ) + 1 ≤ ⌊q⌋ := by exact_mod_cast h
    have hbeyond : (n : ℚ) + 1 / 2 < q := by linarith
    refine iff_of_true ?_ (Or.inl hbeyond)
    split_ifs <;> omega
  · subst h
    split_ifs with h₁ h₂ h₃
    · refine iff_of_false (lt_irrefl _) ?_
      rintro (h | ⟨h, -⟩) <;> linarith
    · exact iff_of_true (by omega) (Or.inl (by linarith))
    · refine iff_of_false (lt_irrefl _) ?_
      rintro (h | ⟨-, h⟩)
      · linarith
      · omega
    · refine iff_of_true (by omega) (Or.inr ⟨by linarith, by omega⟩)
  · have hn : (⌊q⌋ : ℚ) + 1 ≤ n := by exact_mod_cast h
    refine iff_of_false ?_ ?_
    · split_ifs <;> omega
    · rintro (h | ⟨h, -⟩) <;> linarith

theorem le_roundHalfEven_iff (n : Int) (q : Decimal) :
    n ≤ roundHalfEven q ↔ (n : ℚ) - 1 / 2 < q ∨ ((n : ℚ) - 1 / 2 = q ∧ n % 2 = 0) := by
  have hmid : ((n - 1 : Int) : ℚ) + 1 / 2 = (n : ℚ) - 1 / 2 := by
    push_cast
    ring
  rw [← Int.sub_one_lt_iff, lt_roundHalfEven_iff, hmid]
  refine or_congr Iff.rfl (and_congr Iff.rfl ?_)
  omega

theorem abs_roundHalfEven_sub_le (q : Decimal) : |(roundHalfEven q : ℚ) - q| ≤ 1 / 2 := by
  have hle := Int.floor_le q
  have hlt := Int.lt_floor_add_one q
  unfold roundHalfEven
  rw [abs_le]
  split_ifs
  · constructor <;> linarith
  · push_cast
    constructor <;> linarith
  · constructor <;> linarith
  · push_cast
    constructor <;> linarith

theorem abs_roundHalfEven_le {q : Decimal} {m : Int} (h : |q| ≤ m) : |roundHalfEven q| ≤ m := by
  obtain ⟨hlow, hhigh⟩ := abs_le.mp h
  refine abs_le.mpr ⟨?_, ?_⟩
  · rw [← Int.sub_one_lt_iff, lt_roundHalfEven_iff]
    left
    push_cast
    linarith
  · rw [← not_lt, lt_roundHalfEven_iff]
    rintro (h | ⟨h, -⟩) <;> linarith

/-- What is above `n` when it is rounded to `prec` digits, without rounding: it is beyond the
middle between the last number with this unit that is at most `n` and the next one. -/
def Clears (prec : Nat) (n : Int) (q : Decimal) : Prop :=
  let u : ℚ := (10 : ℚ) ^ lastExp prec q
  let k : Int := ⌊(n : ℚ) / u⌋
  ((k : ℚ) + 1 / 2) * u < q ∨ (((k : ℚ) + 1 / 2) * u = q ∧ k % 2 = 1)

theorem lt_roundSig_iff (prec : Nat) (n : Int) (q : Decimal) :
    (n : ℚ) < roundSig prec q ↔ Clears prec n q := by
  have hpow : (0 : ℚ) < (10 : ℚ) ^ lastExp prec q := zpow_pos (by norm_num) _
  rw [roundSig_eq_mul, ← div_lt_iff₀ hpow, ← Int.floor_lt, lt_roundHalfEven_iff, Clears,
    lt_div_iff₀ hpow, eq_div_iff hpow.ne']

/-- What is at least `t` when it is rounded to `prec` digits, without rounding: it is beyond the
middle between the first number with this unit that is at least `t` and the one before it. -/
def Reaches (prec : Nat) (t q : Decimal) : Prop :=
  let u : ℚ := (10 : ℚ) ^ lastExp prec q
  let k : Int := ⌈t / u⌉
  ((k : ℚ) - 1 / 2) * u < q ∨ (((k : ℚ) - 1 / 2) * u = q ∧ k % 2 = 0)

instance (prec : Nat) (t q : Decimal) : Decidable (Reaches prec t q) :=
  inferInstanceAs (Decidable (_ ∨ _ ∧ _))

theorem le_roundSig_iff (prec : Nat) (t q : Decimal) :
    t ≤ roundSig prec q ↔ Reaches prec t q := by
  have hpow : (0 : ℚ) < (10 : ℚ) ^ lastExp prec q := zpow_pos (by norm_num) _
  rw [roundSig_eq_mul, ← div_le_iff₀ hpow, ← Int.ceil_le, le_roundHalfEven_iff, Reaches,
    lt_div_iff₀ hpow, eq_div_iff hpow.ne']

/-- Where the last digit is a fractional one, the middle is half a unit above the integer. -/
theorem clears_iff {prec : Nat} (hprec : 0 < prec) {q : Decimal} (hpos : 0 < q)
    (hlt : q < 10 ^ (prec - 1)) (n : Int) :
    Clears prec n q ↔ (n : ℚ) + (10 : ℚ) ^ lastExp prec q / 2 < q := by
  have hexp : lastExp prec q ≤ -1 := by
    have hlog : Int.log 10 |q| < ((prec - 1 : Nat) : Int) := by
      rw [abs_of_pos hpos, ← Int.lt_zpow_iff_log_lt (by norm_num) hpos, zpow_natCast]
      exact_mod_cast hlt
    rw [lastExp]
    omega
  obtain ⟨j, hj⟩ : ∃ j : Nat, lastExp prec q = -((j + 1 : Nat) : Int) :=
    ⟨(-1 - lastExp prec q).toNat, by omega⟩
  have hscale : (n : ℚ) / (10 : ℚ) ^ lastExp prec q = ((n * 10 ^ (j + 1) : Int) : ℚ) := by
    rw [hj, zpow_neg, div_inv_eq_mul, zpow_natCast]
    push_cast
    rfl
  have heven : (n * 10 ^ (j + 1) : Int) % 2 = 0 := by
    rw [pow_succ, ← mul_assoc]
    omega
  have hmid : (((n * 10 ^ (j + 1) : Int) : ℚ) + 1 / 2) * (10 : ℚ) ^ lastExp prec q
      = (n : ℚ) + (10 : ℚ) ^ lastExp prec q / 2 := by
    have hpow : (10 : ℚ) ^ lastExp prec q ≠ 0 := zpow_ne_zero _ (by norm_num)
    rw [← hscale, add_mul, div_mul_cancel₀ _ hpow]
    ring
  rw [Clears, hscale, Int.floor_intCast, heven, hmid]
  simp

/-- A positive number is not rounded to zero. -/
theorem roundSig_pos {prec : Nat} (hprec : 0 < prec) {q : Decimal} (hq : 0 < q) :
    0 < roundSig prec q := by
  have hle : (10 : ℚ) ^ lastExp prec q ≤ q := by
    calc (10 : ℚ) ^ lastExp prec q
        ≤ (10 : ℚ) ^ Int.log 10 |q| := by
          apply zpow_le_zpow_right₀ (by norm_num)
          rw [lastExp]
          omega
      _ ≤ |q| := Int.zpow_log_le_self (by norm_num) (abs_pos.mpr hq.ne')
      _ = q := abs_of_pos hq
  have hpow : (0 : ℚ) < (10 : ℚ) ^ lastExp prec q := zpow_pos (by norm_num) _
  have hclears : Clears prec 0 q := by
    refine Or.inl ?_
    rw [Int.cast_zero, zero_div, Int.floor_zero, Int.cast_zero]
    linarith
  exact_mod_cast (lt_roundSig_iff prec 0 q).mpr hclears

theorem roundSig_nonneg {prec : Nat} (hprec : 0 < prec) {q : Decimal} (hq : 0 ≤ q) :
    0 ≤ roundSig prec q := by
  rcases hq.eq_or_lt with rfl | hpos
  · rw [roundSig_zero]
  · exact (roundSig_pos hprec hpos).le

/-- What is nearest among the numbers with the unit of the last digit is what rounding yields. -/
theorem roundSig_eq {prec : Nat} {q : Decimal} {m k : Int} (hq : 0 < q)
    (hlow : (10 : ℚ) ^ (k + prec - 1) ≤ q) (hhigh : q < (10 : ℚ) ^ (k + prec))
    (hnear : |q / (10 : ℚ) ^ k - m| < 1 / 2) : roundSig prec q = (m : ℚ) * (10 : ℚ) ^ k := by
  have hlog : Int.log 10 |q| = k + prec - 1 := by
    rw [abs_of_pos hq]
    apply le_antisymm
    · have hlt : Int.log 10 q < k + prec := by
        rw [← Int.lt_zpow_iff_log_lt (by norm_num) hq]
        exact_mod_cast hhigh
      omega
    · rw [← Int.zpow_le_iff_le_log (by norm_num) hq]
      exact_mod_cast hlow
  have hexp : lastExp prec q = k := by
    rw [lastExp, hlog]
    omega
  obtain ⟨h₁, h₂⟩ := abs_lt.mp hnear
  have hround : roundHalfEven (q / (10 : ℚ) ^ k) = m := by
    apply le_antisymm
    · rw [← not_lt, lt_roundHalfEven_iff]
      rintro (h | ⟨h, -⟩) <;> linarith
    · rw [← Int.sub_one_lt_iff, lt_roundHalfEven_iff]
      left
      push_cast
      linarith
  rw [roundSig, if_neg hq.ne', hexp, hround]

theorem Fits.eq_mul {prec : Nat} {q : Decimal} (h : Fits prec q) :
    ∃ m : Int, q = (m : ℚ) * (10 : ℚ) ^ lastExp prec q :=
  ⟨_, h.roundSig.symm.trans (roundSig_eq_mul prec q)⟩

theorem Fits.eq_mul_of_le {prec : Nat} {q : Decimal} (h : Fits prec q) {k : Int}
    (hk : k ≤ lastExp prec q) : ∃ m : Int, q = (m : ℚ) * (10 : ℚ) ^ k := by
  obtain ⟨m, hm⟩ := h.eq_mul
  obtain ⟨j, hj⟩ := Int.eq_ofNat_of_zero_le (sub_nonneg.mpr hk)
  refine ⟨m * 10 ^ j, hm.trans ?_⟩
  rw [show lastExp prec q = j + k by omega, zpow_add₀ (by norm_num), zpow_natCast]
  push_cast
  ring

/-- A number just below a power of ten is rounded to it. -/
theorem roundSig_of_near_zpow {prec : Nat} {x : Decimal} {e : Int} (hlt : x < (10 : ℚ) ^ e)
    (hnear : 2 * 10 ^ prec * |x - (10 : ℚ) ^ e| < (10 : ℚ) ^ e) :
    roundSig prec x = (10 : ℚ) ^ e := by
  obtain ⟨u, hu⟩ : ∃ u : ℚ, u = (10 : ℚ) ^ (e - prec) := ⟨_, rfl⟩
  have hu0 : 0 < u := by
    rw [hu]
    exact zpow_pos (by norm_num) _
  have hpow : (10 : ℚ) ^ e = 10 ^ prec * u := by
    rw [hu, ← zpow_natCast, ← zpow_add₀ (by norm_num)]
    congr 1
    omega
  have hlow : (10 : ℚ) ^ (e - prec + prec - 1) = 10 ^ prec * u / 10 := by
    rw [sub_add_cancel, zpow_sub_one₀ (by norm_num), hpow]
    rfl
  have hhigh : (10 : ℚ) ^ (e - prec + prec) = 10 ^ prec * u := by rw [sub_add_cancel, hpow]
  have hm : 10 ^ prec * u = ((10 ^ prec : Int) : ℚ) * u := by
    push_cast
    rfl
  rw [hpow] at hlt hnear ⊢
  have hdist : |x - 10 ^ prec * u| < u / 2 := by
    have hscale : 2 * 10 ^ prec * |x - 10 ^ prec * u| < 2 * 10 ^ prec * (u / 2) := by linarith
    exact lt_of_mul_lt_mul_left hscale (by positivity)
  have hle : u ≤ 10 ^ prec * u := le_mul_of_one_le_left hu0.le (one_le_pow₀ (by norm_num))
  have hx := (abs_lt.mp hdist).1
  rw [hm, hu]
  refine roundSig_eq (by linarith) (by rw [hlow]; linarith) (by rw [hhigh]; exact hlt) ?_
  rw [← hu, div_sub' hu0.ne', abs_div, abs_of_pos hu0, div_lt_iff₀ hu0, mul_comm u, ← hm]
  linarith

/-- A number close to one of `prec` digits is rounded to that. -/
theorem roundSig_of_near {prec : Nat} (hprec : 0 < prec) {q x : Decimal} (hq : 0 < q)
    (hfits : Fits prec q) (hnear : 2 * 10 ^ prec * |x - q| < q) : roundSig prec x = q := by
  obtain ⟨m, hm⟩ := hfits.eq_mul
  obtain ⟨k, hk⟩ : ∃ k, lastExp prec q = k := ⟨_, rfl⟩
  rw [hk] at hm
  have hu : (0 : ℚ) < (10 : ℚ) ^ k := zpow_pos (by norm_num) _
  have hlog : Int.log 10 q = k + prec - 1 := by
    rw [lastExp, abs_of_pos hq] at hk
    omega
  have hlow : (10 : ℚ) ^ (k + prec - 1) ≤ q := by
    rw [← hlog]
    exact Int.zpow_log_le_self (by norm_num) hq
  have hnext : (10 : ℚ) ^ (k + prec) = 10 ^ prec * (10 : ℚ) ^ k := by
    rw [add_comm, zpow_add₀ (by norm_num), zpow_natCast]
  have hhigh : q < 10 ^ prec * (10 : ℚ) ^ k := by
    have hlt := Int.lt_zpow_succ_log_self (b := 10) (by norm_num) q
    rw [hlog, sub_add_cancel] at hlt
    rw [← hnext]
    exact_mod_cast hlt
  have hdist : |x - q| < (10 : ℚ) ^ k / 2 := by
    have hscale : 2 * 10 ^ prec * |x - q| < 2 * 10 ^ prec * ((10 : ℚ) ^ k / 2) := by linarith
    exact lt_of_mul_lt_mul_left hscale (by positivity)
  obtain ⟨hbelow, habove⟩ := abs_lt.mp hdist
  by_cases hx : (10 : ℚ) ^ (k + prec - 1) ≤ x
  · rw [hm]
    refine roundSig_eq ((zpow_pos (by norm_num) _).trans_le hx) hx ?_ ?_
    · -- `q` is at least a unit below the next power of ten
      have hlt : m < 10 ^ prec := by
        rw [hm] at hhigh
        exact_mod_cast lt_of_mul_lt_mul_right hhigh hu.le
      have hle : (m : ℚ) + 1 ≤ 10 ^ prec := by exact_mod_cast hlt
      calc x < (m : ℚ) * (10 : ℚ) ^ k + (10 : ℚ) ^ k := by linarith
        _ = ((m : ℚ) + 1) * (10 : ℚ) ^ k := by ring
        _ ≤ 10 ^ prec * (10 : ℚ) ^ k := mul_le_mul_of_nonneg_right hle hu.le
        _ = (10 : ℚ) ^ (k + prec) := hnext.symm
    · rw [div_sub' hu.ne', abs_div, abs_of_pos hu, div_lt_iff₀ hu, mul_comm ((10 : ℚ) ^ k), ← hm]
      linarith
  · -- `q` is the power of ten that `x` falls short of
    rw [not_le] at hx
    have hpow : q = (10 : ℚ) ^ (k + prec - 1) := by
      have hdecade : (10 : ℚ) ^ (k + prec - 1) = ((10 ^ (prec - 1) : Int) : ℚ) * (10 : ℚ) ^ k := by
        push_cast
        rw [← zpow_natCast (10 : ℚ) (prec - 1), ← zpow_add₀ (by norm_num)]
        congr 1
        omega
      rw [hdecade] at hx hlow ⊢
      have hle : (10 ^ (prec - 1) : Int) ≤ m := by
        rw [hm] at hlow
        exact_mod_cast le_of_mul_le_mul_right hlow hu
      have hlt : (m : ℚ) < ((10 ^ (prec - 1) : Int) : ℚ) + 1 := by
        refine lt_of_mul_lt_mul_right ?_ hu.le
        rw [← hm]
        linarith
      have hlt' : m < 10 ^ (prec - 1) + 1 := by exact_mod_cast hlt
      rw [hm, le_antisymm (by omega) hle]
    rw [hpow] at hnear ⊢
    exact roundSig_of_near_zpow hx hnear

theorem abs_div_lastExp_lt (prec : Nat) (q : Decimal) :
    |q / (10 : ℚ) ^ lastExp prec q| < 10 ^ prec := by
  by_cases hq : q = 0
  · rw [hq, zero_div, abs_zero]
    positivity
  have hpow : (0 : ℚ) < (10 : ℚ) ^ lastExp prec q := zpow_pos (by norm_num) _
  rw [abs_div, abs_of_pos hpow, div_lt_iff₀ hpow, ← zpow_natCast, ← zpow_add₀ (by norm_num)]
  calc |q| < (10 : ℚ) ^ (Int.log 10 |q| + 1) := Int.lt_zpow_succ_log_self (by norm_num) |q|
    _ = (10 : ℚ) ^ ((prec : Int) + lastExp prec q) := by
        rw [lastExp]
        congr 1
        omega

/-- What is rounded to `prec` digits has at most `prec` digits. -/
theorem roundSig_fits {prec : Nat} (hprec : 0 < prec) (q : Decimal) :
    Fits prec (roundSig prec q) := by
  rw [roundSig_eq_mul]
  refine fits_of_abs_le hprec (abs_roundHalfEven_le ?_)
  exact_mod_cast (abs_div_lastExp_lt prec q).le

/-- A number whose last digit is behind the point is an integer, or differs from every integer by
a unit of its last digit. -/
theorem Fits.unit_le_abs_sub {prec : Nat} {q : Decimal} (h : Fits prec q) (hpos : 0 < q)
    (hlt : q < 10 ^ prec) {n : Int} (hne : q ≠ n) : (10 : ℚ) ^ lastExp prec q ≤ |q - n| := by
  have hunit : (0 : ℚ) < (10 : ℚ) ^ lastExp prec q := zpow_pos (by norm_num) _
  obtain ⟨m, hm⟩ := h.eq_mul
  obtain ⟨j, hj⟩ : ∃ j : Nat, lastExp prec q = -(j : Int) := by
    have hlog : Int.log 10 |q| < prec := by
      rw [abs_of_pos hpos, ← Int.lt_zpow_iff_log_lt (by norm_num) hpos]
      exact_mod_cast hlt
    refine ⟨(-lastExp prec q).toNat, ?_⟩
    rw [lastExp]
    omega
  have hn : (n : ℚ) = ((n * 10 ^ j : Int) : ℚ) * (10 : ℚ) ^ lastExp prec q := by
    rw [hj, zpow_neg, zpow_natCast]
    push_cast
    rw [mul_inv_cancel_right₀ (by positivity)]
  have hdiff : q - n = ((m - n * 10 ^ j : Int) : ℚ) * (10 : ℚ) ^ lastExp prec q := by
    rw [Int.cast_sub, sub_mul, ← hm, ← hn]
  have hone : (1 : ℚ) ≤ |((m - n * 10 ^ j : Int) : ℚ)| := by
    have hne' : m - n * 10 ^ j ≠ 0 := by
      intro hzero
      rw [hzero, Int.cast_zero, zero_mul] at hdiff
      exact hne (sub_eq_zero.mp hdiff)
    exact_mod_cast Int.one_le_abs hne'
  rw [hdiff, abs_mul, abs_of_pos hunit]
  exact le_mul_of_one_le_left hunit.le hone

/-- An integer is rounded to an integer. -/
theorem exists_roundSig_intCast (prec : Nat) (n : Int) : ∃ m : Int, roundSig prec (n : ℚ) = m := by
  by_cases hlt : |n| < 10 ^ prec
  · exact ⟨n, roundSig_intCast hlt⟩
  · have hn : (n : ℚ) ≠ 0 := by
      rintro h
      rw [Int.cast_eq_zero.mp h, abs_zero] at hlt
      exact hlt (by positivity)
    have hle : ((10 : ℕ) : ℚ) ^ (prec : Int) ≤ |(n : ℚ)| := by
      rw [zpow_natCast]
      exact_mod_cast not_lt.mp hlt
    have hlog := (Int.zpow_le_iff_le_log (by norm_num) (abs_pos.mpr hn)).mp hle
    -- the last digit that is kept is not behind the point
    obtain ⟨j, hj⟩ : ∃ j : Nat, lastExp prec (n : ℚ) = j := by
      refine ⟨(lastExp prec (n : ℚ)).toNat, ?_⟩
      rw [lastExp]
      omega
    refine ⟨roundHalfEven ((n : ℚ) / (10 : ℚ) ^ (j : Int)) * 10 ^ j, ?_⟩
    rw [roundSig, if_neg hn, hj]
    push_cast
    rw [zpow_natCast]

/-! ## Arithmetic in a context -/

/-- Addition, multiplication and division in a context of precision `prec`. -/
def add (prec : Nat) (a b : Decimal) : Decimal := roundSig prec (a + b)

def mul (prec : Nat) (a b : Decimal) : Decimal := roundSig prec (a * b)

def div (prec : Nat) (a b : Decimal) : Decimal := roundSig prec (a / b)

end Decimal
