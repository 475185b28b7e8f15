import V4vappDash.Lib.Binary64
import V4vappDash.Lib.Numeral

set_option autoImplicit false

/-! # Amounts

Conversion between duffs and the DASH amounts of the RPC interface and of payment URIs
(`amounts.py`). All arithmetic is in the default context of 28 digits.
-/

namespace V4vappDash

/-- The precision of the default decimal context. -/
def prec : Nat := 28

def DUFFS_PER_DASH : Decimal := 100000000

def SATS_PER_BTC : Int := 100000000

/-- `amount` is the value of `Decimal(str(amount))`, which the constructor does not round. -/
def rpcDashToDuffs (amount : Decimal) : Int :=
  Decimal.roundHalfEven (Decimal.mul prec amount DUFFS_PER_DASH)

/-- `Decimal(str(x))` of the float `x` that a JSON number with a point is read as. -/
def decimalOfFloat (number : Decimal) : Decimal :=
  Binary64.shortest (Binary64.nearest number)

/-- The format `.8f` rounds half to even at the eighth fractional digit, whatever the
precision of the context. -/
def dashAmountString (duffs : Int) : String :=
  Numeral.fixed 8 (Decimal.roundHalfEven (Decimal.div prec (duffs : Decimal) DUFFS_PER_DASH
    * 10 ^ 8))

/-- Up to 28 digits, dividing by `DUFFS_PER_DASH` only moves the point. -/
theorem div_duffsPerDash {duffs : Int} (h : Decimal.Fits prec (duffs : Decimal)) :
    Decimal.div prec (duffs : Decimal) DUFFS_PER_DASH = (duffs : Decimal) / 10 ^ 8 := by
  have hexp : (duffs : Decimal) / DUFFS_PER_DASH = (duffs : Decimal) / 10 ^ 8 := by
    rw [DUFFS_PER_DASH]
    norm_num
  rw [Decimal.div, hexp, (Decimal.fits_div_ten_pow.mpr h).roundSig]

theorem dashAmountString_of_fits {duffs : Int} (h : Decimal.Fits prec (duffs : Decimal)) :
    dashAmountString duffs = Numeral.fixed 8 duffs := by
  rw [dashAmountString, div_duffsPerDash h, div_mul_cancel₀ _ (by norm_num),
    Decimal.roundHalfEven_intCast]

theorem dashAmountString_eq {duffs : Int} (h : |duffs| < 10 ^ 28) :
    dashAmountString duffs = Numeral.fixed 8 duffs :=
  dashAmountString_of_fits (Decimal.fits_intCast h)

/-- The numeral of an amount is read back as that amount. -/
theorem parse_dashAmountString {duffs : Int} (h : |duffs| < 10 ^ 28) :
    Numeral.parse (dashAmountString duffs) = some ((duffs : Decimal) / 10 ^ 8) := by
  rw [dashAmountString_eq h, Numeral.parse_fixed (by decide)]

/-- What is counted is the amount in duffs, rounded to 28 digits. -/
theorem rpcDashToDuffs_eq (n : Int) :
    (rpcDashToDuffs ((n : Decimal) / 10 ^ 8) : Decimal) = Decimal.roundSig prec (n : Decimal) := by
  have hmul : (n : Decimal) / 10 ^ 8 * DUFFS_PER_DASH = n := by
    rw [DUFFS_PER_DASH]; norm_num
  obtain ⟨m, hm⟩ := Decimal.exists_roundSig_intCast prec n
  rw [rpcDashToDuffs, Decimal.mul, hmul, hm, Decimal.roundHalfEven_intCast]

/-- A whole number of duffs, given in DASH, is counted exactly. -/
theorem rpcDashToDuffs_div {duffs : Int} (h : |duffs| < 10 ^ 28) :
    rpcDashToDuffs ((duffs : Decimal) / 10 ^ 8) = duffs := by
  have hread := rpcDashToDuffs_eq duffs
  rw [prec, Decimal.roundSig_intCast h] at hread
  exact_mod_cast hread

/-! ## Amounts as floats

dashd writes an amount with eight fractional digits, and `response.json()` reads a float. -/

/-- Amounts that differ by less than a duff are equal. -/
theorem duffs_eq_of_near {m n : Int}
    (h : |(m : ℚ) * (10 : ℚ) ^ (-8 : Int) - (n : ℚ) * (10 : ℚ) ^ (-8 : Int)|
      < (10 : ℚ) ^ (-8 : Int)) : m = n := by
  have hunit : (0 : ℚ) < (10 : ℚ) ^ (-8 : Int) := zpow_pos (by norm_num) _
  rw [← sub_mul, abs_mul, abs_of_pos hunit, mul_lt_iff_lt_one_left hunit] at h
  have hlt : |m - n| < 1 := by exact_mod_cast h
  exact sub_eq_zero.mp (Int.abs_lt_one_iff.mp hlt)

/-- Up to ten million DASH an amount has at most fifteen digits. -/
theorem survives_small {duffs : Int} (hpos : 0 < duffs) (h : duffs ≤ 10 ^ 15) :
    Binary64.Survives 15 ((duffs : Decimal) / 10 ^ 8) := by
  refine Binary64.survives_of_fits ?_ (Decimal.fits_div_ten_pow.mpr ?_)
  · have hone : (1 : ℚ) ≤ duffs := by exact_mod_cast hpos
    calc (2 : ℚ) ^ (-1021 : Int) ≤ (2 : ℚ) ^ (-27 : Int) :=
          zpow_le_zpow_right₀ (by norm_num) (by norm_num)
      _ ≤ 1 / 10 ^ 8 := by norm_num
      _ ≤ (duffs : ℚ) / 10 ^ 8 := by gcongr
  · have hfits : Decimal.Fits 15 ((duffs : ℚ) * (10 : ℚ) ^ (0 : Int)) :=
      Decimal.fits_of_abs_le (by norm_num) (by rwa [abs_of_pos hpos])
    simpa using hfits

/-- A decimal of sixteen digits from ten million on is a number of duffs. -/
theorem exists_duffs {c : Decimal} (hfits : Decimal.Fits 16 c) (hc : 10 ^ 7 ≤ c) :
    ∃ m : Int, c = (m : ℚ) * (10 : ℚ) ^ (-8 : Int) := by
  refine hfits.eq_mul_of_le ?_
  have hpos : (0 : ℚ) < c := lt_of_lt_of_le (by norm_num) hc
  have hlog : (7 : Int) ≤ Int.log 10 |c| := by
    rw [abs_of_pos hpos, ← Int.zpow_le_iff_le_log (by norm_num) hpos]
    exact_mod_cast hc
  unfold Decimal.lastExp
  omega

/-- Below `2²⁶` DASH the doubles lie closer together than the duffs. -/
theorem survives_large {duffs : Int} (hlow : 10 ^ 15 < duffs) (hhigh : duffs < 2 ^ 26 * 10 ^ 8) :
    Binary64.Survives 16 ((duffs : Decimal) / 10 ^ 8) := by
  have hform : (duffs : Decimal) / 10 ^ 8 = (duffs : ℚ) * (10 : ℚ) ^ (-8 : Int) := by
    rw [zpow_neg, div_eq_mul_inv]
    rfl
  obtain ⟨q, hq⟩ : ∃ q : ℚ, q = (duffs : ℚ) * (10 : ℚ) ^ (-8 : Int) := ⟨_, rfl⟩
  rw [hform, ← hq]
  have hqlow : 10 ^ 7 + 1 / 10 ^ 8 ≤ q := by
    have hle : (10 ^ 15 + 1 : ℚ) ≤ duffs := by exact_mod_cast hlow
    rw [hq]
    norm_num at hle ⊢
    linarith
  have hqhigh : q < 2 ^ 26 := by
    have hlt : (duffs : ℚ) < 2 ^ 26 * 10 ^ 8 := by exact_mod_cast hhigh
    rw [hq]
    norm_num at hlt ⊢
    linarith
  have hqpos : 0 < q := by linarith
  -- the float is a quarter of a duff away at most
  obtain ⟨x, hx⟩ : ∃ x, Binary64.nearest q = x := ⟨_, rfl⟩
  have hdist : |x - q| ≤ 1 / 2 ^ 28 := by
    have hle := Binary64.abs_nearest_sub_le_of_lt (k := 26) (by norm_num)
      (show |q| < (2 : ℚ) ^ (26 : Int) by rw [abs_of_pos hqpos]; exact_mod_cast hqhigh)
    rw [hx] at hle
    norm_num at hle ⊢
    exact hle
  obtain ⟨hxlow, hxhigh⟩ := abs_le.mp hdist
  have hround : Decimal.roundSig 16 x = q := by
    rw [hq]
    refine Decimal.roundSig_eq (by linarith) ?_ ?_ ?_
    · norm_num
      linarith
    · norm_num
      linarith
    · rw [hq] at hxlow hxhigh
      rw [abs_lt]
      norm_num at hxlow hxhigh ⊢
      constructor <;> linarith
  constructor
  · rw [hx]
    exact hround
  · intro c hfits hc
    rw [hx] at hc
    have hmin : (2 : ℚ) ^ (-1022 : Int) ≤ 1 := zpow_le_one_of_nonpos₀ (by norm_num) (by norm_num)
    have hnormal := Binary64.le_of_nearest_eq (lt_of_le_of_lt hmin (by linarith)) hc
    have hcpos : 0 < c := (zpow_pos (by norm_num) _).trans_le hnormal
    have herror := Binary64.abs_nearest_sub_le (hnormal.trans (le_abs_self c))
    rw [hc, abs_of_pos hcpos] at herror
    obtain ⟨hclow, hchigh⟩ := abs_le.mp (show |x - c| ≤ c / 2 ^ 53 by linarith)
    by_cases hc26 : c < 2 ^ 26
    · have hcdist := Binary64.abs_nearest_sub_le_of_lt (k := 26) (by norm_num)
        (show |c| < (2 : ℚ) ^ (26 : Int) by rw [abs_of_pos hcpos]; exact_mod_cast hc26)
      rw [hc] at hcdist
      obtain ⟨hclow, hchigh⟩ := abs_le.mp hcdist
      norm_num at hclow hchigh
      obtain ⟨m, hm⟩ := exists_duffs hfits (by linarith)
      rw [hm, hq, duffs_eq_of_near (m := m) (n := duffs)]
      rw [← hm, ← hq, abs_lt]
      norm_num
      constructor <;> linarith
    · -- what is rounded across `2²⁶` is rounded to it
      exfalso
      obtain ⟨m, hm⟩ := exists_duffs hfits (by linarith)
      have hxtop : x ≤ 2 ^ 26 := by
        have hle := Binary64.abs_nearest_le (k := 26) (by norm_num)
          (show |q| ≤ (2 : ℚ) ^ (26 : Int) by rw [abs_of_pos hqpos]; exact_mod_cast hqhigh.le)
        rw [hx] at hle
        exact_mod_cast (le_abs_self x).trans hle
      have htop : m = 2 ^ 26 * 10 ^ 8 := by
        refine duffs_eq_of_near ?_
        rw [← hm, abs_lt]
        norm_num
        constructor <;> linarith
      have hc26 : c = ((2 ^ 26 : Int) : ℚ) := by
        rw [hm, htop]
        norm_num
      rw [hc26, Binary64.nearest_intCast (by norm_num)] at hc
      refine absurd (duffs_eq_of_near (m := duffs) (n := 2 ^ 26 * 10 ^ 8) ?_) hhigh.ne
      rw [← hq, abs_lt]
      push_cast at hc ⊢
      norm_num at hc ⊢
      constructor <;> linarith

/-- **Amounts as floats.** Below `2²⁶` DASH an amount is what its float is written as. -/
theorem decimalOfFloat_div {duffs : Int} (h : |duffs| < 2 ^ 26 * 10 ^ 8) :
    decimalOfFloat ((duffs : Decimal) / 10 ^ 8) = (duffs : Decimal) / 10 ^ 8 := by
  have hpos : ∀ n : Int, 0 < n → n < 2 ^ 26 * 10 ^ 8 →
      ∃ digits < 17, Binary64.Survives (digits + 1) ((n : Decimal) / 10 ^ 8) := by
    intro n hn hlt
    by_cases hsmall : n ≤ 10 ^ 15
    · exact ⟨14, by norm_num, survives_small hn hsmall⟩
    · exact ⟨15, by norm_num, survives_large (not_le.mp hsmall) hlt⟩
  obtain ⟨hlow, hhigh⟩ := abs_lt.mp h
  rcases lt_trichotomy duffs 0 with hneg | rfl | hgt
  · obtain ⟨digits, hdigits, hsurvives⟩ := hpos (-duffs) (by omega) (by omega)
    have hsame : (duffs : Decimal) / 10 ^ 8 = -(((-duffs : Int) : Decimal) / 10 ^ 8) := by
      push_cast
      ring
    rw [hsame]
    exact hsurvives.neg.shortest hdigits
  · rw [decimalOfFloat, Int.cast_zero, zero_div, Binary64.nearest_zero, Binary64.shortest_zero]
  · obtain ⟨digits, hdigits, hsurvives⟩ := hpos duffs hgt hhigh
    exact hsurvives.shortest hdigits

/-- A number of duffs below `2²⁶` DASH is counted exactly. -/
theorem rpcDashToDuffs_float {duffs : Int} (h : |duffs| < 2 ^ 26 * 10 ^ 8) :
    rpcDashToDuffs (decimalOfFloat ((duffs : Decimal) / 10 ^ 8)) = duffs := by
  rw [decimalOfFloat_div h]
  exact rpcDashToDuffs_div (h.trans (by norm_num))

/-- From there on neighbouring amounts have the same float. -/
example : rpcDashToDuffs (decimalOfFloat (((2 ^ 26 * 10 ^ 8 + 2 : Int) : Decimal) / 10 ^ 8))
    = 2 ^ 26 * 10 ^ 8 + 1 := by
  decide +kernel

/-! ## Round trip -/

/-- **Amounts as text.** Below 10²⁰ duffs an amount is written with eight fractional digits and
read back as it is; a numeral of this form is read and written back with its value if and only if
it has at most 28 digits, which every numeral below 10²⁰ has. -/
theorem amount_roundtrip :
    (∀ d : Nat, d < 10 ^ 20 → Numeral.IsFixed 8 (dashAmountString d) ∧
      ∃ amount, Numeral.parse (dashAmountString d) = some amount ∧ rpcDashToDuffs amount = d) ∧
    (∀ a, Numeral.IsFixed 8 a → ∃ amount, Numeral.parse a = some amount ∧
      (Numeral.parse (dashAmountString (rpcDashToDuffs amount)) = some amount ↔
        Decimal.Fits prec amount) ∧
      (amount < 10 ^ 20 → Decimal.Fits prec amount)) := by
  have hfits : ∀ n : Nat, n < 10 ^ 28 → Decimal.Fits prec (((n : Int) : Decimal)) := by
    intro n hn
    refine Decimal.fits_intCast ?_
    rw [prec, Nat.abs_cast]
    exact_mod_cast hn
  constructor
  · intro d hd
    have hd' := hfits d (hd.trans (by norm_num))
    rw [dashAmountString_of_fits hd']
    refine ⟨Numeral.isFixed_fixed (by decide) (Int.natCast_nonneg d), _,
      Numeral.parse_fixed (by decide) d, ?_⟩
    have hread := rpcDashToDuffs_eq d
    rw [hd'.roundSig] at hread
    exact_mod_cast hread
  · intro a ha
    obtain ⟨n, hn⟩ := ha.parse (by decide)
    refine ⟨_, hn, ?_, ?_⟩
    · have hread := rpcDashToDuffs_eq n
      rw [Int.cast_natCast] at hread
      have hkept : Decimal.Fits prec (rpcDashToDuffs ((n : Decimal) / 10 ^ 8) : Decimal) := by
        rw [hread]
        exact Decimal.roundSig_fits (by decide) _
      rw [dashAmountString_of_fits hkept, Numeral.parse_fixed (by decide), hread, Option.some.injEq,
        div_left_inj' (by norm_num), Decimal.fits_div_ten_pow]
      constructor
      · intro hsame
        rw [← hsame]
        exact Decimal.roundSig_fits (by decide) _
      · exact Decimal.Fits.roundSig
    · intro hlt
      rw [Decimal.fits_div_ten_pow]
      have hn' : n < 10 ^ 28 := by
        rw [div_lt_iff₀ (by norm_num)] at hlt
        norm_num at hlt
        exact_mod_cast hlt
      exact_mod_cast hfits n hn'

/-- A numeral of 29 digits. -/
theorem long_amount_rounded :
    ¬ ∀ a, Numeral.IsFixed 8 a → ∃ amount, Numeral.parse a = some amount ∧
      Numeral.parse (dashAmountString (rpcDashToDuffs amount)) = some amount := by
  intro h
  have hform : Numeral.IsFixed 8 "100000000000000000000.00000001" :=
    ⟨"100000000000000000000".toList, "00000001".toList, by decide, by decide, by decide, by decide,
      by decide⟩
  have htext : "100000000000000000000.00000001" = Numeral.fixed 8 (10 ^ 28 + 1) := by decide
  obtain ⟨amount, hread, hsame⟩ := h _ hform
  rw [htext, Numeral.parse_fixed (by decide)] at hread
  obtain rfl := Option.some.inj hread
  have hround : Decimal.roundSig prec ((10 ^ 28 + 1 : Int) : Decimal)
      = ((10 ^ 27 : Int) : ℚ) * (10 : ℚ) ^ (1 : Int) := by
    rw [prec]
    exact Decimal.roundSig_eq (by norm_num) (by norm_num) (by norm_num)
      (by rw [abs_lt]; constructor <;> norm_num)
  have hduffs : rpcDashToDuffs (((10 ^ 28 + 1 : Int) : Decimal) / 10 ^ 8) = 10 ^ 28 := by
    have heq := rpcDashToDuffs_eq (10 ^ 28 + 1)
    rw [hround] at heq
    have hval : ((10 ^ 27 : Int) : ℚ) * (10 : ℚ) ^ (1 : Int) = ((10 ^ 28 : Int) : ℚ) := by norm_num
    rw [hval] at heq
    exact_mod_cast heq
  have hfits : Decimal.Fits prec ((10 ^ 28 : Int) : Decimal) := ⟨1, 28, by decide, by norm_num⟩
  rw [hduffs, dashAmountString_of_fits hfits, Numeral.parse_fixed (by decide)] at hsame
  have hfalse := Option.some.inj hsame
  norm_num at hfalse

end V4vappDash
