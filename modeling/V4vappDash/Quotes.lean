import V4vappDash.Amounts
import V4vappDash.Api.Errors

set_option autoImplicit false

/-! # Quotes

Pricing of an invoice in duffs (`quotes/service.py`, `models/quote.py`). Fetching a price is an
HTTP call or a look into the process's cache; what comes of it is an input of the model.

A quote is rounded up, but only after the quotient has been rounded to 28 digits:
`duffsFromSats_least_iff` says when the quote is the least one that is worth the sats.
-/

namespace V4vappDash

/-- `models.quote.Quote`. -/
structure Quote where
  source : String
  fetchedAt : String
  btcUsd : Decimal
  dashUsd : Decimal
  dashBtc : Decimal
  satsPerDash : Decimal
  ttlS : Int := 60
  duffsQuoted : Int
  dashQuoted : String
  deriving DecidableEq

/-- The duffs worth `sats` at the price `dashBtc`, rounded up after the division has been
rounded to the context's precision. The errors are `ValueError`s. -/
def duffsFromSats (sats : Int) (dashBtc : Decimal) : Except String Int :=
  if sats < 1 then .error "sats must be >= 1"
  else if dashBtc ≤ 0 then .error "dash_btc must be > 0"
  else
    -- each operation rounds to the context; only the last one rounds up
    let satsPerDash := Decimal.mul prec (SATS_PER_BTC : Decimal) dashBtc
    let raw := Decimal.div prec (Decimal.mul prec (sats : Decimal) DUFFS_PER_DASH) satsPerDash
    .ok (Decimal.roundCeiling raw)

/-- `fetch_quote`, given the quote it found or the last error of the price sources. -/
def fetchQuote (answer : Except String Quote) : Except Failure Quote :=
  match answer with
  | .ok quote => .ok quote
  | .error lastError =>
      .error (.api
        { statusCode := 422
          code := "quote_unavailable"
          message := "All price sources failed: " ++ lastError })

def quoteForSats (sats : Int) (quote : Quote) : Except String Quote := do
  let duffs ← duffsFromSats sats quote.dashBtc
  return { quote with duffsQuoted := duffs, dashQuoted := dashAmountString duffs }

/-- `_build_quote`. The duffs of one sat stand in for those of the invoice. -/
def buildQuote (source fetchedAt : String) (btcUsd dashUsd dashBtc : Decimal) :
    Except String Quote := do
  let duffs ← duffsFromSats 1 dashBtc
  let satsPerDash := Decimal.mul prec (SATS_PER_BTC : Decimal) dashBtc
  return { source, fetchedAt, btcUsd, dashUsd, dashBtc, satsPerDash, duffsQuoted := duffs,
           dashQuoted := dashAmountString duffs }

/-- `_from_coingecko`, on the three prices of the payload. -/
def fromCoingecko (fetchedAt : String) (dashBtc dashUsd btcUsd : Decimal) : Except String Quote :=
  buildQuote "coingecko" fetchedAt btcUsd dashUsd dashBtc

/-- `_from_cmc`, on the two prices of the payload. -/
def fromCmc (fetchedAt : String) (btcUsd dashUsd : Decimal) : Except String Quote :=
  if btcUsd = 0 then
    if dashUsd = 0 then .error "[<class 'decimal.DivisionUndefined'>]"
    else .error "[<class 'decimal.DivisionByZero'>]"
  else buildQuote "coinmarketcap" fetchedAt btcUsd dashUsd (Decimal.div prec dashUsd btcUsd)

theorem quoteForSats_ok {sats : Int} {quote priced : Quote}
    (h : quoteForSats sats quote = .ok priced) :
    priced.dashQuoted = dashAmountString priced.duffsQuoted := by
  rw [quoteForSats] at h
  cases hd : duffsFromSats sats quote.dashBtc with
  | error e => rw [hd] at h; cases h
  | ok duffs => rw [hd] at h; cases h; rfl

/-- When the exact price is a whole number of duffs and no intermediate value has more than
28 digits, the quote is that number. -/
theorem duffsFromSats_exact {sats duffs m : Int} {k : Int} (hsats : 1 ≤ sats) (hm : 0 < m)
    (hsats' : |sats * 100000000| < 10 ^ 28) (hprice : |m * 100000000| < 10 ^ 28)
    (hduffs : |duffs| < 10 ^ 28)
    (h : (sats : Decimal) = (duffs : Decimal) * ((m : Decimal) * (10 : ℚ) ^ k)) :
    duffsFromSats sats ((m : Decimal) * (10 : ℚ) ^ k) = .ok duffs := by
  have hpow : (0 : ℚ) < (10 : ℚ) ^ k := zpow_pos (by norm_num) k
  have hm' : (0 : ℚ) < (m : ℚ) := by exact_mod_cast hm
  have hpos : (0 : ℚ) < (m : ℚ) * (10 : ℚ) ^ k := mul_pos hm' hpow
  have hmul₁ : Decimal.mul prec (SATS_PER_BTC : Decimal) ((m : Decimal) * (10 : ℚ) ^ k)
      = ((m * 100000000 : Int) : ℚ) * (10 : ℚ) ^ k := by
    have heq : (SATS_PER_BTC : Decimal) * ((m : Decimal) * (10 : ℚ) ^ k)
        = ((m * 100000000 : Int) : ℚ) * (10 : ℚ) ^ k := by
      rw [SATS_PER_BTC]; push_cast; ring
    rw [Decimal.mul, heq, prec, Decimal.roundSig_eq_self hprice]
  have hmul₂ : Decimal.mul prec (sats : Decimal) DUFFS_PER_DASH
      = ((sats * 100000000 : Int) : ℚ) := by
    have heq : (sats : Decimal) * DUFFS_PER_DASH = ((sats * 100000000 : Int) : ℚ) := by
      rw [DUFFS_PER_DASH]; push_cast; ring
    rw [Decimal.mul, heq, prec, Decimal.roundSig_intCast hsats']
  -- the power of ten and the two conversions cancel
  have hdiv : ((sats * 100000000 : Int) : ℚ) / (((m * 100000000 : Int) : ℚ) * (10 : ℚ) ^ k)
      = (duffs : ℚ) := by
    rw [div_eq_iff (by push_cast; positivity)]
    calc ((sats * 100000000 : Int) : ℚ)
        = (sats : ℚ) * 100000000 := by push_cast; ring
      _ = (duffs : ℚ) * ((m : ℚ) * (10 : ℚ) ^ k) * 100000000 := by rw [h]
      _ = (duffs : ℚ) * (((m * 100000000 : Int) : ℚ) * (10 : ℚ) ^ k) := by push_cast; ring
  rw [duffsFromSats, if_neg (by omega), if_neg (not_le.mpr hpos)]
  simp only [hmul₁, hmul₂, Decimal.div, hdiv]
  rw [prec, Decimal.roundSig_intCast hduffs, Decimal.roundCeiling_intCast]

/-! ## Rounding up a rounded quotient -/

/-- At a price of at most 28 digits only `sats` and the quotient are rounded. -/
theorem duffsFromSats_eq {sats : Int} {dashBtc : Decimal} (hsats : 1 ≤ sats) (hpos : 0 < dashBtc)
    (hfits : Decimal.Fits prec dashBtc) :
    duffsFromSats sats dashBtc
      = .ok ⌈Decimal.roundSig prec (Decimal.roundSig prec (sats : Decimal) / dashBtc)⌉ := by
  have h10 : (10 : ℚ) ^ (8 : Int) ≠ 0 := by norm_num
  have hprice : Decimal.mul prec (SATS_PER_BTC : Decimal) dashBtc = dashBtc * (10 : ℚ) ^ (8 : Int) := by
    have hcomm : (SATS_PER_BTC : Decimal) * dashBtc = dashBtc * (10 : ℚ) ^ (8 : Int) := by
      rw [SATS_PER_BTC]
      push_cast
      ring
    rw [Decimal.mul, hcomm, (hfits.mul_zpow 8).roundSig]
  have hduffs : Decimal.mul prec (sats : Decimal) DUFFS_PER_DASH
      = Decimal.roundSig prec (sats : Decimal) * (10 : ℚ) ^ (8 : Int) := by
    have hscale : (sats : Decimal) * DUFFS_PER_DASH = (sats : Decimal) * (10 : ℚ) ^ (8 : Int) := by
      rw [DUFFS_PER_DASH]
      norm_num
    rw [Decimal.mul, hscale, Decimal.roundSig_mul_zpow]
  rw [duffsFromSats, if_neg (by omega), if_neg (not_le.mpr hpos)]
  simp only [hprice, hduffs, Decimal.div, mul_div_mul_right _ _ h10]
  rfl

/-- `⌈q⌉` is the least integer `d` with `sats ≤ d * dashBtc`, where `q` is the exact quotient. -/
theorem isLeast_duffs_iff {sats d : Int} {dashBtc : Decimal} (hpos : 0 < dashBtc) :
    IsLeast {d : Int | (sats : ℚ) ≤ d * dashBtc} d ↔ d = ⌈(sats : ℚ) / dashBtc⌉ := by
  have hleast : IsLeast {d : Int | (sats : ℚ) ≤ d * dashBtc} ⌈(sats : ℚ) / dashBtc⌉ := by
    constructor
    · show (sats : ℚ) ≤ ⌈(sats : ℚ) / dashBtc⌉ * dashBtc
      rw [← div_le_iff₀ hpos]
      exact Int.le_ceil _
    · intro e he
      exact Int.ceil_le.mpr ((div_le_iff₀ hpos).mpr he)
  constructor
  · intro h
    exact h.unique hleast
  · rintro rfl
    exact hleast

/-- The quotient is not so close above an integer, and not so large, that its rounding to 28
digits changes the integer above it. A `sats` of at most 28 digits is divided as it is. -/
def CeilKept (sats : Int) (dashBtc : Decimal) : Prop :=
  let quotient := Decimal.roundSig prec (sats : Decimal) / dashBtc
  let least := ⌈(sats : ℚ) / dashBtc⌉
  Decimal.Clears prec (least - 1) quotient ∧ ¬ Decimal.Clears prec least quotient

/-- Below 10²⁷ duffs: the quotient is beyond the integer next below it by more than half a unit of
its 28th digit. -/
theorem ceilKept_iff {sats : Int} {dashBtc : Decimal} (hsats : 1 ≤ sats) (hlt : sats < 10 ^ 28)
    (hpos : 0 < dashBtc) (hq : (sats : ℚ) / dashBtc < 10 ^ 27) :
    CeilKept sats dashBtc ↔
      (⌈(sats : ℚ) / dashBtc⌉ - 1 : ℚ) + (10 : ℚ) ^ Decimal.lastExp prec ((sats : ℚ) / dashBtc) / 2
        < (sats : ℚ) / dashBtc := by
  have hexact : Decimal.roundSig prec (sats : Decimal) = sats := by
    refine Decimal.roundSig_intCast ?_
    rw [abs_of_nonneg (by omega)]
    exact hlt
  have hquot : 0 < (sats : ℚ) / dashBtc := div_pos (by exact_mod_cast hsats) hpos
  have hle := Int.le_ceil ((sats : ℚ) / dashBtc)
  have hunit : (0 : ℚ) < (10 : ℚ) ^ Decimal.lastExp prec ((sats : ℚ) / dashBtc) :=
    zpow_pos (by norm_num) _
  have hclears : ∀ n : Int, Decimal.Clears prec n ((sats : ℚ) / dashBtc) ↔
      (n : ℚ) + (10 : ℚ) ^ Decimal.lastExp prec ((sats : ℚ) / dashBtc) / 2
        < (sats : ℚ) / dashBtc := by
    intro n
    have hq' : (sats : ℚ) / dashBtc < 10 ^ (prec - 1) := by
      rw [prec]
      exact hq
    exact Decimal.clears_iff (by decide) hquot hq' n
  unfold CeilKept
  dsimp only
  rw [hexact, hclears, hclears]
  push_cast
  constructor
  · exact fun h => h.1
  · exact fun h => ⟨h, by linarith⟩

/-- **The quote is the least one** that is worth the sats if and only if rounding the quotient
does not change the integer above it. -/
theorem duffsFromSats_least_iff {sats : Int} {dashBtc : Decimal} (hsats : 1 ≤ sats)
    (hpos : 0 < dashBtc) (hfits : Decimal.Fits prec dashBtc) :
    (∃ d, duffsFromSats sats dashBtc = .ok d ∧ IsLeast {d : Int | (sats : ℚ) ≤ d * dashBtc} d) ↔
      CeilKept sats dashBtc := by
  have hceil : (∃ d, duffsFromSats sats dashBtc = .ok d ∧
      IsLeast {d : Int | (sats : ℚ) ≤ d * dashBtc} d) ↔
      ⌈Decimal.roundSig prec (Decimal.roundSig prec (sats : Decimal) / dashBtc)⌉
        = ⌈(sats : ℚ) / dashBtc⌉ := by
    rw [duffsFromSats_eq hsats hpos hfits]
    constructor
    · rintro ⟨d, hd, hleast⟩
      rw [Except.ok.inj hd]
      exact (isLeast_duffs_iff hpos).mp hleast
    · intro h
      exact ⟨_, rfl, (isLeast_duffs_iff hpos).mpr h⟩
  rw [hceil, Int.ceil_eq_iff, CeilKept, ← not_lt, ← Decimal.lt_roundSig_iff,
    ← Decimal.lt_roundSig_iff]
  push_cast
  rfl

theorem duffsFromSats_least_iff_worked :
    (∃ d, duffsFromSats 25000 (((5 : Int) : ℚ) * (10 : ℚ) ^ (-4 : Int)) = .ok d ∧
      IsLeast {d : Int | ((25000 : Int) : ℚ) ≤ d * (((5 : Int) : ℚ) * (10 : ℚ) ^ (-4 : Int))} d) ↔
      CeilKept 25000 (((5 : Int) : ℚ) * (10 : ℚ) ^ (-4 : Int)) :=
  duffsFromSats_least_iff (by decide) (by norm_num) ⟨5, -4, by decide, rfl⟩

/-- Dash at 20 dollars and bitcoin at 60000: the quotient of the prices has 28 digits, and 10000
sats come to little more than 30000000 duffs. -/
theorem hidden_remainder : ∃ quote, fromCmc "1970-01-01T00:00:00Z" 60000 20 = .ok quote ∧
    0 < quote.dashBtc ∧ Decimal.Fits prec quote.dashBtc ∧
    duffsFromSats 10000 quote.dashBtc = .ok 30000000 ∧
    ¬ ∃ d, duffsFromSats 10000 quote.dashBtc = .ok d ∧
      IsLeast {d : Int | ((10000 : Int) : ℚ) ≤ d * quote.dashBtc} d := by
  have hprice : Decimal.div prec 20 60000
      = ((3333333333333333333333333333 : Int) : ℚ) * (10 : ℚ) ^ (-31 : Int) := by
    rw [Decimal.div, prec]
    exact Decimal.roundSig_eq (by norm_num) (by norm_num) (by norm_num)
      (by rw [abs_lt]; constructor <;> norm_num)
  have hpos : 0 < Decimal.div prec 20 60000 := by
    rw [hprice]
    norm_num
  have hfits : Decimal.Fits prec (Decimal.div prec 20 60000) :=
    Decimal.roundSig_fits (by decide) _
  have hone : duffsFromSats 1 (Decimal.div prec 20 60000) = .ok ⌈Decimal.roundSig prec
      (Decimal.roundSig prec ((1 : Int) : Decimal) / Decimal.div prec 20 60000)⌉ :=
    duffsFromSats_eq le_rfl hpos hfits
  have hduffs : duffsFromSats 10000 (Decimal.div prec 20 60000) = .ok 30000000 := by
    have hsats : Decimal.roundSig prec ((10000 : Int) : Decimal) = ((10000 : Int) : ℚ) :=
      Decimal.roundSig_intCast (by decide)
    have hround : Decimal.roundSig prec (((10000 : Int) : ℚ)
        / (((3333333333333333333333333333 : Int) : ℚ) * (10 : ℚ) ^ (-31 : Int)))
        = ((3000000000000000000000000000 : Int) : ℚ) * (10 : ℚ) ^ (-20 : Int) := by
      rw [prec]
      exact Decimal.roundSig_eq (by norm_num) (by norm_num) (by norm_num)
        (by rw [abs_lt]; constructor <;> norm_num)
    have hval : ((3000000000000000000000000000 : Int) : ℚ) * (10 : ℚ) ^ (-20 : Int)
        = ((30000000 : Int) : ℚ) := by norm_num
    rw [duffsFromSats_eq (by decide) hpos hfits, hsats, hprice, hround, hval, Int.ceil_intCast]
  refine ⟨_, by rw [fromCmc, if_neg (by norm_num), buildQuote, hone]; rfl, hpos, hfits, hduffs, ?_⟩
  rintro ⟨d, hd, hleast⟩
  have hd : d = 30000000 := Except.ok.inj (hd.symm.trans hduffs)
  have hworth : ((10000 : Int) : ℚ) ≤ d * Decimal.div prec 20 60000 := hleast.1
  rw [hd, hprice] at hworth
  norm_num at hworth

end V4vappDash
