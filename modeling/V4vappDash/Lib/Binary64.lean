import V4vappDash.Lib.Decimal

set_option autoImplicit false

/-! # Double precision

The numbers of the format binary64, by value. A number is rounded to the nearest double, ties to
even (`nearest`): to a multiple of the unit of its last bit, the 53rd one unless that lies below
the least exponent. From `overflow` on it is rounded past the greatest double, and `ofRat` has no
answer. Small integers are doubles (`nearest_intCast`), and rounding does not cross a power of two
(`abs_nearest_le`); whether it crosses another number is a matter of the middles between doubles
(`le_nearest_iff`). A decimal that no other one of its length has the same double as survives: its
double is written as it was (`Survives.shortest`). Numbers of at most fifteen digits survive
(`shortest_nearest`), and their doubles have their whole part (`floor_nearest`).
-/

namespace Binary64

/-- The exponent of the last bit of the doubles around `q`. -/
def lastBit (q : ℚ) : Int := max (Int.log 2 |q| - 52) (-1074)

/-- The double nearest to `q`, ties to even, as if there were no greatest one. -/
def nearest (q : ℚ) : ℚ :=
  (Decimal.roundHalfEven (q / (2 : ℚ) ^ lastBit q) : ℚ) * (2 : ℚ) ^ lastBit q

/-- The middle between the greatest double and the next power of two. -/
def overflow : ℚ := 2 ^ 1024 - 2 ^ 970

def ofRat (q : ℚ) : Option ℚ := if |q| < overflow then some (nearest q) else none

/-- The decimals with `n` digits next to `q`, the nearest one first. -/
def neighbours (n : Nat) (q : ℚ) : List ℚ :=
  let unit := (10 : ℚ) ^ Decimal.lastExp n q
  [Decimal.roundSig n q, ⌊q / unit⌋ * unit, ⌈q / unit⌉ * unit]

/-- The decimal a double is written as: of those that are rounded to it, one with as few digits
as possible, and the nearest of these. Seventeen digits are always enough. -/
def shortest (x : ℚ) : ℚ :=
  (((List.range 17).flatMap (fun n => neighbours (n + 1) x)).find? (fun c => nearest c = x)).getD x

@[simp] theorem nearest_zero : nearest 0 = 0 := by simp [nearest, Decimal.roundHalfEven]

theorem shortest_zero : shortest 0 = 0 := by decide +kernel

theorem nearest_neg (q : ℚ) : nearest (-q) = -nearest q := by
  rw [nearest, nearest, lastBit, lastBit, abs_neg, neg_div, Decimal.roundHalfEven_neg]
  push_cast
  ring

/-- What is at least `t` when it is rounded to a double, without rounding: it is beyond the middle
between the first multiple of its last bit's unit that is at least `t` and the one before it. -/
def Reaches (t q : ℚ) : Prop :=
  let u : ℚ := (2 : ℚ) ^ lastBit q
  let k : Int := ⌈t / u⌉
  ((k : ℚ) - 1 / 2) * u < q ∨ (((k : ℚ) - 1 / 2) * u = q ∧ k % 2 = 0)

instance (t q : ℚ) : Decidable (Reaches t q) :=
  inferInstanceAs (Decidable (_ ∨ _ ∧ _))

theorem le_nearest_iff (t q : ℚ) : t ≤ nearest q ↔ Reaches t q := by
  have hpow : (0 : ℚ) < (2 : ℚ) ^ lastBit q := zpow_pos (by norm_num) _
  rw [nearest, ← div_le_iff₀ hpow, ← Int.ceil_le, Decimal.le_roundHalfEven_iff, Reaches,
    lt_div_iff₀ hpow, eq_div_iff hpow.ne']

/-- A multiple of the last bit's unit is a double. -/
theorem nearest_eq_self_of_mul {q : ℚ} {m : Int} (h : q = m * (2 : ℚ) ^ lastBit q) :
    nearest q = q := by
  have hpow : ((2 : ℚ) ^ lastBit q) ≠ 0 := zpow_ne_zero _ (by norm_num)
  have hdiv : q / (2 : ℚ) ^ lastBit q = m := by
    rw [div_eq_iff hpow]; exact h
  rw [nearest, hdiv, Decimal.roundHalfEven_intCast]
  exact h.symm

theorem nearest_intCast {n : Int} (hn : |n| < 2 ^ 53) : nearest (n : ℚ) = n := by
  by_cases hn0 : n = 0
  · rw [hn0, Int.cast_zero, nearest_zero]
  have hpos : (0 : ℚ) < |(n : ℚ)| := abs_pos.mpr (by exact_mod_cast hn0)
  have hlog : Int.log 2 |(n : ℚ)| < 53 := by
    rw [← Int.lt_zpow_iff_log_lt (by norm_num) hpos]
    exact_mod_cast hn
  -- the unit of the last bit divides one
  obtain ⟨j, hj⟩ : ∃ j : Nat, lastBit (n : ℚ) = -(j : Int) := by
    refine ⟨(-lastBit (n : ℚ)).toNat, ?_⟩
    rw [lastBit]
    omega
  apply nearest_eq_self_of_mul (m := n * 2 ^ j)
  rw [hj, zpow_neg, zpow_natCast]
  push_cast
  rw [mul_assoc, mul_inv_cancel₀ (by positivity), mul_one]

/-- Only what is at most half the least double is rounded to zero. -/
theorem le_of_nearest_eq_zero {q : ℚ} (hq : 0 ≤ q) (h : nearest q = 0) :
    q ≤ (2 : ℚ) ^ (-1075 : Int) := by
  rcases hq.eq_or_lt with rfl | hpos
  · exact (zpow_pos (by norm_num) _).le
  have hunit : (0 : ℚ) < (2 : ℚ) ^ lastBit q := zpow_pos (by norm_num) _
  have hround : Decimal.roundHalfEven (q / (2 : ℚ) ^ lastBit q) = 0 := by
    rcases mul_eq_zero.mp h with hzero | hzero
    · exact_mod_cast hzero
    · exact absurd hzero hunit.ne'
  have hhalf : q / (2 : ℚ) ^ lastBit q ≤ 1 / 2 := by
    by_contra hgt
    have hlt := (Decimal.lt_roundHalfEven_iff 0 (q / (2 : ℚ) ^ lastBit q)).mpr
      (Or.inl (by push_cast; linarith))
    rw [hround] at hlt
    exact lt_irrefl _ hlt
  rw [div_le_iff₀ hunit] at hhalf
  have hle : q ≤ (2 : ℚ) ^ (lastBit q - 1) := by
    rw [zpow_sub_one₀ (by norm_num)]
    linarith
  have hlog : (2 : ℚ) ^ Int.log 2 |q| ≤ q := by
    rw [abs_of_pos hpos]
    exact Int.zpow_log_le_self (by norm_num) hpos
  -- a number with all its bits is far from zero
  have hbit : lastBit q = -1074 := by
    have hexp := (zpow_le_zpow_iff_right₀ (by norm_num : (1 : ℚ) < 2)).mp (hlog.trans hle)
    unfold lastBit at hexp ⊢
    omega
  rw [hbit] at hle
  exact hle

/-- What is at most a power of two is rounded to at most that. -/
theorem abs_nearest_le {q : ℚ} {k : Int} (hk : -1074 ≤ k) (hq : |q| ≤ (2 : ℚ) ^ k) :
    |nearest q| ≤ (2 : ℚ) ^ k := by
  by_cases hq0 : q = 0
  · rw [hq0, nearest_zero, abs_zero]
    exact (zpow_pos (by norm_num) k).le
  have hlog : Int.log 2 |q| ≤ k := by
    have hlt : Int.log 2 |q| < k + 1 := by
      rw [← Int.lt_zpow_iff_log_lt (by norm_num) (abs_pos.mpr hq0)]
      calc |q| ≤ (2 : ℚ) ^ k := hq
        _ < (2 : ℚ) ^ (k + 1) := zpow_lt_zpow_right₀ (by norm_num) (by omega)
    omega
  obtain ⟨j, hj⟩ : ∃ j : Nat, k = j + lastBit q := by
    refine ⟨(k - lastBit q).toNat, ?_⟩
    rw [lastBit]
    omega
  have hunit : (0 : ℚ) < (2 : ℚ) ^ lastBit q := zpow_pos (by norm_num) _
  have hsplit : (2 : ℚ) ^ k = ((2 ^ j : Int) : ℚ) * (2 : ℚ) ^ lastBit q := by
    conv_lhs => rw [hj, zpow_add₀ (by norm_num), zpow_natCast]
    push_cast
    rfl
  have hint : |Decimal.roundHalfEven (q / (2 : ℚ) ^ lastBit q)| ≤ 2 ^ j := by
    apply Decimal.abs_roundHalfEven_le
    rw [abs_div, abs_of_pos hunit, div_le_iff₀ hunit, ← hsplit]
    exact hq
  rw [nearest, abs_mul, abs_of_pos hunit, hsplit]
  exact mul_le_mul_of_nonneg_right (by exact_mod_cast hint) hunit.le

/-- Rounding moves a number by at most half of its last bit. -/
theorem abs_nearest_sub_le_half (q : ℚ) : |nearest q - q| ≤ 1 / 2 * (2 : ℚ) ^ lastBit q := by
  have hunit : (0 : ℚ) < (2 : ℚ) ^ lastBit q := zpow_pos (by norm_num) _
  have hdiff : nearest q - q = (Decimal.roundHalfEven (q / (2 : ℚ) ^ lastBit q)
      - q / (2 : ℚ) ^ lastBit q) * (2 : ℚ) ^ lastBit q := by
    rw [nearest, sub_mul, div_mul_cancel₀ _ hunit.ne']
  rw [hdiff, abs_mul, abs_of_pos hunit]
  gcongr
  exact Decimal.abs_roundHalfEven_sub_le _

/-- Above the least exponent, this is at most `2⁻⁵³` of the number. -/
theorem abs_nearest_sub_le {q : ℚ} (hq : (2 : ℚ) ^ (-1022 : Int) ≤ |q|) :
    2 ^ 53 * |nearest q - q| ≤ |q| := by
  have hpos : 0 < |q| := (zpow_pos (by norm_num) _).trans_le hq
  have hlog : -1022 ≤ Int.log 2 |q| := by
    rw [← Int.zpow_le_iff_le_log (by norm_num) hpos]
    exact_mod_cast hq
  have hbit : lastBit q = Int.log 2 |q| - 52 := by
    unfold lastBit
    omega
  calc 2 ^ 53 * |nearest q - q|
      ≤ 2 ^ 53 * (1 / 2 * (2 : ℚ) ^ lastBit q) := by
        gcongr
        exact abs_nearest_sub_le_half q
    _ = (2 : ℚ) ^ Int.log 2 |q| := by
        rw [hbit, zpow_sub₀ (by norm_num)]
        norm_num
        ring
    _ ≤ |q| := Int.zpow_log_le_self (by norm_num) hpos

/-- Below `2ᵏ` it moves a number by at most half of the last bit there. -/
theorem abs_nearest_sub_le_of_lt {q : ℚ} {k : Int} (hk : -1021 ≤ k) (hq : |q| < (2 : ℚ) ^ k) :
    |nearest q - q| ≤ (2 : ℚ) ^ (k - 54) := by
  by_cases hq0 : q = 0
  · rw [hq0, nearest_zero, sub_zero, abs_zero]
    exact (zpow_pos (by norm_num) _).le
  have hlog : Int.log 2 |q| < k := by
    rw [← Int.lt_zpow_iff_log_lt (by norm_num) (abs_pos.mpr hq0)]
    exact_mod_cast hq
  have hbit : lastBit q ≤ k - 53 := by
    unfold lastBit
    omega
  calc |nearest q - q|
      ≤ 1 / 2 * (2 : ℚ) ^ lastBit q := abs_nearest_sub_le_half q
    _ ≤ 1 / 2 * (2 : ℚ) ^ (k - 53) := by
        gcongr
        norm_num
    _ = (2 : ℚ) ^ (k - 54) := by
        rw [show k - 54 = k - 53 - 1 by ring, zpow_sub_one₀ (by norm_num)]
        ring

/-- It moves it by less than a unit of its fifteenth digit. -/
theorem abs_nearest_sub_lt_unit {q : ℚ} (hq : (2 : ℚ) ^ (-1022 : Int) ≤ q) :
    |nearest q - q| < (10 : ℚ) ^ Decimal.lastExp 15 q := by
  have hpos : 0 < q := (zpow_pos (by norm_num) _).trans_le hq
  have hunit : (0 : ℚ) < (10 : ℚ) ^ Decimal.lastExp 15 q := zpow_pos (by norm_num) _
  have hdigits := (abs_lt.mp (Decimal.abs_div_lastExp_lt 15 q)).2
  rw [div_lt_iff₀ hunit] at hdigits
  have herror := abs_nearest_sub_le (hq.trans (le_abs_self q))
  rw [abs_of_pos hpos] at herror
  linarith

/-- A number of fifteen digits can be found in its double. -/
theorem roundSig_nearest {q : ℚ} (hq : (2 : ℚ) ^ (-1022 : Int) ≤ q) (hfits : Decimal.Fits 15 q) :
    Decimal.roundSig 15 (nearest q) = q := by
  have hpos : 0 < q := (zpow_pos (by norm_num) _).trans_le hq
  have herror := abs_nearest_sub_le (hq.trans (le_abs_self q))
  rw [abs_of_pos hpos] at herror
  refine Decimal.roundSig_of_near (by norm_num) hpos hfits ?_
  calc 2 * 10 ^ 15 * |nearest q - q|
      = 2 * 10 ^ 15 / 2 ^ 53 * (2 ^ 53 * |nearest q - q|) := by ring
    _ ≤ 2 * 10 ^ 15 / 2 ^ 53 * q := by gcongr
    _ < q := by linarith

theorem fits_of_mem_neighbours {n : Nat} (hn : 0 < n) {c x : ℚ} (hc : c ∈ neighbours n x) :
    Decimal.Fits n c := by
  have habs := abs_lt.mp (Decimal.abs_div_lastExp_lt n x)
  simp only [neighbours, List.mem_cons, List.not_mem_nil, or_false] at hc
  rcases hc with rfl | rfl | rfl
  · exact Decimal.roundSig_fits hn x
  · refine Decimal.fits_of_abs_le hn (abs_le.mpr ⟨?_, ?_⟩)
    · exact Int.le_floor.mpr (by exact_mod_cast habs.1.le)
    · have hle := (Int.floor_le (x / (10 : ℚ) ^ Decimal.lastExp n x)).trans habs.2.le
      exact_mod_cast hle
  · refine Decimal.fits_of_abs_le hn (abs_le.mpr ⟨?_, ?_⟩)
    · have hle := habs.1.le.trans (Int.le_ceil (x / (10 : ℚ) ^ Decimal.lastExp n x))
      exact_mod_cast hle
    · exact Int.ceil_le.mpr (by exact_mod_cast habs.2.le)

/-- A positive double is the double of positive numbers only. -/
theorem le_of_nearest_eq {c x : ℚ} (hx : (2 : ℚ) ^ (-1022 : Int) < x) (hc : nearest c = x) :
    (2 : ℚ) ^ (-1022 : Int) ≤ c := by
  by_contra hlt
  rw [not_le] at hlt
  by_cases hsmall : |c| ≤ (2 : ℚ) ^ (-1022 : Int)
  · have hle := (le_abs_self _).trans (abs_nearest_le (by norm_num) hsmall)
    rw [hc] at hle
    exact absurd hx (not_lt.mpr hle)
  · rw [not_le] at hsmall
    have herror := abs_nearest_sub_le hsmall.le
    have hneg : |c| = -c := by
      refine abs_of_nonpos (le_of_not_gt ?_)
      intro hpos
      rw [abs_of_pos hpos] at hsmall
      exact lt_asymm hsmall hlt
    rw [hc, hneg] at herror
    have hle := le_abs_self (x - c)
    have hpow : (0 : ℚ) < (2 : ℚ) ^ (-1022 : Int) := zpow_pos (by norm_num) _
    linarith

/-- A decimal of `n` digits is found again in its double: it is what the double is rounded to, and
no other one of so many digits has the same double. -/
structure Survives (n : Nat) (q : ℚ) : Prop where
  round : Decimal.roundSig n (nearest q) = q
  only : ∀ c, Decimal.Fits n c → nearest c = nearest q → c = q

theorem Survives.neg {n : Nat} {q : ℚ} (h : Survives n q) : Survives n (-q) where
  round := by rw [nearest_neg, Decimal.roundSig_neg, h.round]
  only := by
    intro c hfits hc
    rw [nearest_neg] at hc
    have hsame : nearest (-c) = nearest q := by rw [nearest_neg, hc, neg_neg]
    rw [← h.only (-c) hfits.neg hsame, neg_neg]

/-- Whatever is tried first for its double is the decimal itself. -/
theorem Survives.shortest {n : Nat} {q : ℚ} (h : Survives (n + 1) q) (hn : n < 17) :
    shortest (nearest q) = q := by
  have hmem : q ∈ neighbours (n + 1) (nearest q) := by
    unfold neighbours
    rw [h.round]
    exact List.mem_cons_self
  obtain ⟨rest, hrange⟩ : ∃ rest, List.range 17 = List.range (n + 1) ++ rest := by
    obtain ⟨j, hj⟩ := Nat.exists_eq_add_of_le (show n + 1 ≤ 17 by omega)
    exact ⟨_, hj ▸ List.range_add⟩
  unfold Binary64.shortest
  rw [hrange, List.flatMap_append, List.find?_append]
  cases hfind : ((List.range (n + 1)).flatMap (fun m => neighbours (m + 1) (nearest q))).find?
      (fun c => nearest c = nearest q) with
  | none =>
      rw [List.find?_eq_none] at hfind
      have hin : q ∈ (List.range (n + 1)).flatMap (fun m => neighbours (m + 1) (nearest q)) :=
        List.mem_flatMap.mpr ⟨n, List.mem_range.mpr (by omega), hmem⟩
      exact absurd (decide_eq_true rfl) (hfind q hin)
  | some c =>
      obtain ⟨m, hm, hc⟩ := List.mem_flatMap.mp (List.mem_of_find?_eq_some hfind)
      have hnearest : nearest c = nearest q := by simpa using List.find?_some hfind
      have hle : m + 1 ≤ n + 1 := List.mem_range.mp hm
      exact h.only c ((fits_of_mem_neighbours (by omega) hc).mono hle) hnearest

theorem survives_of_fits {q : ℚ} (hq : (2 : ℚ) ^ (-1021 : Int) ≤ q) (hfits : Decimal.Fits 15 q) :
    Survives 15 q := by
  have hnormal : (2 : ℚ) ^ (-1022 : Int) ≤ q :=
    (zpow_le_zpow_right₀ (by norm_num) (by norm_num)).trans hq
  have hround := roundSig_nearest hnormal hfits
  have hx : (2 : ℚ) ^ (-1022 : Int) < nearest q := by
    have herror := abs_nearest_sub_le (hnormal.trans (le_abs_self q))
    have hpow : (0 : ℚ) < (2 : ℚ) ^ (-1022 : Int) := zpow_pos (by norm_num) _
    have hdouble : (2 : ℚ) ^ (-1021 : Int) = 2 * (2 : ℚ) ^ (-1022 : Int) := by
      rw [← zpow_one_add₀ (by norm_num)]
      norm_num
    have hle := neg_abs_le (nearest q - q)
    rw [abs_of_pos (hpow.trans_le hnormal)] at herror
    linarith
  refine ⟨hround, ?_⟩
  intro c hc hnearest
  rw [← roundSig_nearest (le_of_nearest_eq hx hnearest) hc, hnearest, hround]

/-- **Fifteen digits survive.** A number of at most fifteen digits, not too small, is what its
double is written as. -/
theorem shortest_nearest {q : ℚ} (hq : (2 : ℚ) ^ (-1021 : Int) ≤ q) (hfits : Decimal.Fits 15 q) :
    shortest (nearest q) = q :=
  (survives_of_fits hq hfits).shortest (by norm_num)

theorem nearest_nonneg {q : ℚ} (hq : 0 ≤ q) : 0 ≤ nearest q := by
  have hunit : (0 : ℚ) < (2 : ℚ) ^ lastBit q := zpow_pos (by norm_num) _
  have hdiv : 0 ≤ q / (2 : ℚ) ^ lastBit q := div_nonneg hq hunit.le
  have hround : -1 < Decimal.roundHalfEven (q / (2 : ℚ) ^ lastBit q) := by
    rw [Decimal.lt_roundHalfEven_iff]
    left
    push_cast
    linarith
  exact mul_nonneg (by exact_mod_cast Int.le_of_sub_one_lt hround) hunit.le

theorem nearest_nonpos {q : ℚ} (hq : q ≤ 0) : nearest q ≤ 0 := by
  have hunit : (0 : ℚ) < (2 : ℚ) ^ lastBit q := zpow_pos (by norm_num) _
  have hdiv : q / (2 : ℚ) ^ lastBit q ≤ 0 := div_nonpos_of_nonpos_of_nonneg hq hunit.le
  have hround : Decimal.roundHalfEven (q / (2 : ℚ) ^ lastBit q) ≤ 0 := by
    rw [← not_lt, Decimal.lt_roundHalfEven_iff]
    push_cast
    rintro (h | ⟨h, -⟩) <;> linarith
  exact mul_nonpos_of_nonpos_of_nonneg (by exact_mod_cast hround) hunit.le

theorem shortest_nonneg {x : ℚ} (hx : 0 ≤ x) : 0 ≤ shortest x := by
  rcases hx.eq_or_lt with rfl | hpos
  · exact shortest_zero.ge
  unfold shortest
  cases hfind : ((List.range 17).flatMap (fun n => neighbours (n + 1) x)).find?
      (fun c => nearest c = x) with
  | none => exact hx
  | some c =>
      have hc : nearest c = x := by simpa using List.find?_some hfind
      show 0 ≤ c
      by_contra hneg
      have hle := nearest_nonpos (not_le.mp hneg).le
      linarith

/-- The whole part of a number of fifteen digits is that of its double. -/
theorem floor_nearest {q : ℚ} (hq : 0 ≤ q) (hlt : q < 10 ^ 15) (hfits : Decimal.Fits 15 q) :
    ⌊nearest q⌋ = ⌊q⌋ := by
  have hfloor := Int.floor_le q
  have hceil := Int.lt_floor_add_one q
  rcases hfloor.eq_or_lt with hint | hfrac
  · -- an integer is its own double
    have hsmall : |⌊q⌋| < 2 ^ 53 := by
      rw [abs_of_nonneg (Int.floor_nonneg.mpr hq)]
      have hwhole : ⌊q⌋ < 10 ^ 15 := by exact_mod_cast hfloor.trans_lt hlt
      omega
    rw [← hint, nearest_intCast hsmall, Int.floor_intCast]
  rw [Int.floor_eq_iff]
  by_cases hhalf : q ≤ 1 / 2
  · have hzero : ⌊q⌋ = 0 := Int.floor_eq_zero_iff.mpr ⟨hq, by linarith⟩
    have hnear : |nearest q| ≤ (2 : ℚ) ^ (-1 : Int) := by
      refine abs_nearest_le (by norm_num) ?_
      rw [abs_of_nonneg hq, zpow_neg_one]
      linarith
    rw [zpow_neg_one] at hnear
    have hle := (le_abs_self _).trans hnear
    rw [hzero, Int.cast_zero]
    exact ⟨nearest_nonneg hq, by linarith⟩
  · rw [not_le] at hhalf
    have hpos : 0 < q := by linarith
    have hnormal : (2 : ℚ) ^ (-1022 : Int) ≤ q := by
      calc (2 : ℚ) ^ (-1022 : Int) ≤ (2 : ℚ) ^ (-1 : Int) :=
            zpow_le_zpow_right₀ (by norm_num) (by norm_num)
        _ ≤ q := by
            rw [zpow_neg_one]
            linarith
    -- a number of fifteen digits is a unit of the last one away from the integers around it
    have hdist := abs_nearest_sub_lt_unit hnormal
    obtain ⟨hbelow, habove⟩ := abs_lt.mp hdist
    have hlow := hfits.unit_le_abs_sub hpos hlt hfrac.ne'
    have hhigh := hfits.unit_le_abs_sub hpos hlt
      (show q ≠ ((⌊q⌋ + 1 : Int) : ℚ) by push_cast; exact hceil.ne)
    rw [abs_of_pos (by linarith)] at hlow
    rw [abs_of_neg (by push_cast; linarith)] at hhigh
    push_cast at hhigh
    constructor
    · linarith
    · linarith

/-- What is at most `2¹⁰²³` is rounded to a double. -/
theorem lt_overflow {x : ℚ} {k : Nat} (hk : k ≤ 1023) (hx : x ≤ 2 ^ k) : x < overflow := by
  have hlt : (2 : ℚ) ^ 970 < 2 ^ 1023 := pow_lt_pow_right₀ (by norm_num) (by norm_num)
  calc x ≤ 2 ^ k := hx
    _ ≤ 2 ^ 1023 := pow_le_pow_right₀ (by norm_num) hk
    _ < 2 ^ 1023 + 2 ^ 1023 - 2 ^ 970 := by
        rw [lt_sub_iff_add_lt]
        exact (add_lt_add_iff_left _).mpr hlt
    _ = overflow := by rw [overflow, ← mul_two, ← pow_succ]

theorem overflow_pos : 0 < overflow :=
  (pow_pos (by norm_num) 1023).trans (lt_overflow le_rfl le_rfl)

end Binary64
