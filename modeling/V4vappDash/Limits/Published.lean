import V4vappDash.Api.Create
import V4vappDash.Limits.HiveStatus

set_option autoImplicit false

/-! # Published limits and fees

A request is bounded and charged by the configuration in force. A field that the payload has as a
zero is read as if it were missing, and so are rate limits without a window; a number loses what a
double or 28 digits do not hold. `published_iff` says when what is published is nevertheless what
counts. Plain numbers lose nothing (`exact_of_plain`), so for them it is a matter of the zeros.
-/

namespace V4vappDash

/-! ## What a request is charged -/

/-- The amount checks of `create_invoice`. -/
def checkAmount (sats : Int) (live : LiveConfig) : Except Failure Unit :=
  if sats < live.minimumInvoicePaymentSats then
    .error (.api {
      statusCode := 422
      code := "amount_too_small"
      message := "Minimum invoice is " ++ commaSeparated live.minimumInvoicePaymentSats
        ++ " sats" })
  else if live.maximumInvoicePaymentSats < sats then
    .error (.api {
      statusCode := 422
      code := "amount_too_large"
      message := "Maximum invoice is " ++ commaSeparated live.maximumInvoicePaymentSats
        ++ " sats" })
  else .ok ()

/-- `calculate_invoice_fees`. With an infinite percentage the fee is infinite, and `int` refuses
it. -/
def liveFees (sats : Int) (live : LiveConfig) : Except Failure InvoiceFees :=
  match live.config with
  | some hive => .ok (calculateInvoiceFees sats hive)
  | none => .error (.crash "OverflowError")

/-- The quote for a request whose fees are known. -/
def createQuote (fees : InvoiceFees) (fetched : Except Failure Quote) (material : XpubMaterial) :
    CreatePhase :=
  match fetched with
  | .error (.api error) => .failed (.api error)
  | .error (.crash message) => .refused 422 "quote_unavailable" message
  | .ok rawQuote =>
      match quoteForSats fees.satsCollect rawQuote with
      | .error message => .refused 422 "quote_unavailable" message
      | .ok quote => .priced material { fees, quote }

/-- The price of a request is found in these three parts. -/
theorem createPrice_live {live : LiveConfig} {hive : HiveInvoiceConfig}
    (h : live.config = some hive) (body : InvoiceCreate) (fetched : Except Failure Quote)
    (material : XpubMaterial) :
    createPrice body hive fetched material =
      match checkAmount body.sats live with
      | .error failure => .failed failure
      | .ok () =>
          match liveFees body.sats live with
          | .error failure => .failed failure
          | .ok fees => createQuote fees fetched material := by
  obtain ⟨percent, hpercent, rfl⟩ := Option.map_eq_some_iff.mp h
  unfold createPrice checkAmount liveFees createQuote
  rw [h]
  dsimp only
  split_ifs with hsmall hlarge
  · rfl
  · rfl
  · rfl

/-! ## Published fields -/

/-- The number without its fraction. -/
def JsonNumber.whole (x : JsonNumber) : Int := Decimal.truncate x.value

/-- The double of the number, without its fraction. -/
def JsonNumber.rounded (x : JsonNumber) : Int := Decimal.truncate (Binary64.nearest x.value)

/-- The four fields, none of them negative. -/
structure PublishedFields where
  percent : JsonNumber
  base : JsonNumber
  minimum : JsonNumber
  maximum : JsonNumber
  percent_nonneg : 0 ≤ percent.value
  base_nonneg : 0 ≤ base.value
  minimum_nonneg : 0 ≤ minimum.value
  maximum_nonneg : 0 ≤ maximum.value

/-- The payload has the fields. -/
structure PublishedFields.In (p : PublishedFields) (raw : List (String × Json)) : Prop where
  percent : getField raw "conv_fee_percent" = some (.number p.percent)
  base : getField raw "conv_fee_sats" = some (.number p.base)
  minimum : getField raw "minimum_invoice_payment_sats" = some (.number p.minimum)
  maximum : getField raw "maximum_invoice_payment_sats" = some (.number p.maximum)

section Conversions

variable {x : JsonNumber}

theorem JsonNumber.toInt_eq {n : Int} (h : x.toInt = some n) :
    n = x.rounded ∧ |x.value| < Binary64.overflow := by
  obtain ⟨y, hy, rfl⟩ := Option.map_eq_some_iff.mp h
  unfold Binary64.ofRat at hy
  split_ifs at hy with hlt
  cases hy
  exact ⟨rfl, hlt⟩

/-- A number that vanishes is not noticed as an integer. -/
theorem JsonNumber.rounded_of_vanishes (h : x.vanishes = true) : x.rounded = 0 := by
  unfold JsonNumber.rounded
  cases x with
  | int n =>
      have hn : n = 0 := of_decide_eq_true h
      simp [JsonNumber.value, hn, Decimal.truncate]
  | real q =>
      have hq : Binary64.nearest q = 0 := of_decide_eq_true h
      simp [JsonNumber.value, hq, Decimal.truncate]

/-- It is zero, or far below one. -/
theorem JsonNumber.value_of_vanishes (h : x.vanishes = true) (hx : 0 ≤ x.value) :
    x.value ≤ (2 : ℚ) ^ (-1075 : Int) := by
  cases x with
  | int n =>
      have hn : n = 0 := of_decide_eq_true h
      rw [JsonNumber.value, hn, Int.cast_zero]
      exact (zpow_pos (by norm_num) _).le
  | real q => exact Binary64.le_of_nearest_eq_zero hx (of_decide_eq_true h)

theorem JsonNumber.whole_of_vanishes (h : x.vanishes = true) (hx : 0 ≤ x.value) :
    x.whole = 0 := by
  have hle := JsonNumber.value_of_vanishes h hx
  have hlt : (2 : ℚ) ^ (-1075 : Int) < 1 := zpow_lt_one_of_neg₀ (by norm_num) (by norm_num)
  unfold JsonNumber.whole Decimal.truncate
  rw [if_pos hx, Int.floor_eq_zero_iff]
  exact ⟨hx, lt_of_le_of_lt hle hlt⟩

theorem JsonNumber.whole_nonneg (hx : 0 ≤ x.value) : 0 ≤ x.whole := by
  unfold JsonNumber.whole Decimal.truncate
  rw [if_pos hx]
  exact Int.floor_nonneg.mpr hx

theorem JsonNumber.whole_le (hx : 0 ≤ x.value) : (x.whole : ℚ) ≤ x.value := by
  unfold JsonNumber.whole Decimal.truncate
  rw [if_pos hx]
  exact Int.floor_le _

theorem JsonNumber.rounded_nonneg (hx : 0 ≤ x.value) : 0 ≤ x.rounded := by
  have hdouble := Binary64.nearest_nonneg hx
  unfold JsonNumber.rounded Decimal.truncate
  rw [if_pos hdouble]
  exact Int.floor_nonneg.mpr hdouble

/-- Whether the bounds let an amount pass, by the numbers. -/
theorem JsonNumber.le_whole_iff (hx : 0 ≤ x.value) (n : Int) : n ≤ x.whole ↔ (n : ℚ) ≤ x.value := by
  unfold JsonNumber.whole Decimal.truncate
  rw [if_pos hx, Int.le_floor]

theorem JsonNumber.le_rounded_iff (hx : 0 ≤ x.value) (n : Int) :
    n ≤ x.rounded ↔ Binary64.Reaches n x.value := by
  unfold JsonNumber.rounded Decimal.truncate
  rw [if_pos (Binary64.nearest_nonneg hx), Int.le_floor, Binary64.le_nearest_iff]

theorem JsonNumber.toDecimal_nonneg (hx : 0 ≤ x.value) {percent : Decimal}
    (h : x.toDecimal = some percent) : 0 ≤ percent := by
  cases x with
  | int n =>
      cases h
      exact hx
  | real q =>
      obtain ⟨y, hy, rfl⟩ := Option.map_eq_some_iff.mp h
      unfold Binary64.ofRat at hy
      split_ifs at hy
      cases hy
      exact Binary64.shortest_nonneg (Binary64.nearest_nonneg hx)

end Conversions

/-! ## What is made of the fields -/

section Parsed

variable {texts : TextNumbers} {raw : List (String × Json)}

theorem getTruthy_number {key : String} {x : JsonNumber}
    (h : getField raw key = some (.number x)) :
    getTruthy raw key = if x.vanishes then none else some (.number x) := by
  unfold getTruthy
  rw [h]
  show (if (!x.vanishes) = true then some (Json.number x) else none) = _
  cases x.vanishes <;> rfl

theorem intField_number {key : String} {x : JsonNumber} {default n : Int}
    (h : getField raw key = some (.number x)) (hn : intField texts raw key default = some n) :
    n = (if x.vanishes then default else x.rounded) ∧
      (x.vanishes = false → |x.value| < Binary64.overflow) := by
  unfold intField at hn
  rw [getTruthy_number h] at hn
  cases hx : x.vanishes with
  | true =>
      rw [hx] at hn
      cases hn
      exact ⟨rfl, nofun⟩
  | false =>
      rw [hx] at hn
      obtain ⟨heq, hlt⟩ := JsonNumber.toInt_eq hn
      exact ⟨heq, fun _ => hlt⟩

theorem decimalField_number {key : String} {x : JsonNumber} {default : Decimal}
    (h : getField raw key = some (.number x)) :
    decimalField texts raw key default
      = some (if x.vanishes then some default else x.toDecimal) := by
  unfold decimalField
  rw [getTruthy_number h]
  cases x.vanishes <;> rfl

/-- The configuration made of published fields. -/
structure ParsedFrom (p : PublishedFields) (routingFeeSats : Int) (live : LiveConfig) : Prop where
  percent : live.convFeePercent
    = if p.percent.vanishes then some DEFAULT_CONFIG.convFeePercent else p.percent.toDecimal
  base : live.convFeeSats
    = if p.base.vanishes then DEFAULT_CONFIG.convFeeSats else p.base.rounded
  routing : live.routingFeeSats = routingFeeSats
  minimum : live.minimumInvoicePaymentSats
    = if p.minimum.vanishes then DEFAULT_CONFIG.minimumInvoicePaymentSats else p.minimum.rounded
  maximum : live.maximumInvoicePaymentSats
    = if p.maximum.vanishes then DEFAULT_CONFIG.maximumInvoicePaymentSats else p.maximum.rounded
  maximum_lt : p.maximum.vanishes = false → |p.maximum.value| < Binary64.overflow

/-- What each part of the configuration is read from. -/
structure ReadFrom (texts : TextNumbers) (raw : List (String × Json)) (routingFeeSats : Int)
    (live : LiveConfig) : Prop where
  windows : ∃ windows, parseWindows texts (getTruthy raw "lightning_rate_limits") = some windows ∧
    live.windows = if windows.isEmpty then DEFAULT_WINDOWS else windows
  percent : decimalField texts raw "conv_fee_percent" DEFAULT_CONFIG.convFeePercent
    = some live.convFeePercent
  base : intField texts raw "conv_fee_sats" DEFAULT_CONFIG.convFeeSats = some live.convFeeSats
  routing : live.routingFeeSats = routingFeeSats
  minimum : intField texts raw "minimum_invoice_payment_sats"
    DEFAULT_CONFIG.minimumInvoicePaymentSats = some live.minimumInvoicePaymentSats
  maximum : intField texts raw "maximum_invoice_payment_sats"
    DEFAULT_CONFIG.maximumInvoicePaymentSats = some live.maximumInvoicePaymentSats

/-- **The spec of `_parse_config`.** -/
theorem parseConfig_readFrom {routingFeeSats : Int} {live : LiveConfig}
    (h : parseConfig texts raw routingFeeSats = some live) :
    ReadFrom texts raw routingFeeSats live := by
  unfold parseConfig at h
  obtain ⟨windows, hwindows, h⟩ := Option.bind_eq_some_iff.mp h
  obtain ⟨percent, hpercent, h⟩ := Option.bind_eq_some_iff.mp h
  obtain ⟨base, hbase, h⟩ := Option.bind_eq_some_iff.mp h
  obtain ⟨minimum, hminimum, h⟩ := Option.bind_eq_some_iff.mp h
  obtain ⟨maximum, hmaximum, h⟩ := Option.bind_eq_some_iff.mp h
  cases h
  exact ⟨⟨windows, hwindows, rfl⟩, hpercent, hbase, rfl, hminimum, hmaximum⟩

/-- The configuration of a payload that has the four fields. -/
theorem ReadFrom.parsedFrom {p : PublishedFields} {routingFeeSats : Int} {live : LiveConfig}
    (h : ReadFrom texts raw routingFeeSats live) (hp : p.In raw) :
    ParsedFrom p routingFeeSats live := by
  have hpercent := h.percent
  rw [decimalField_number hp.percent] at hpercent
  obtain ⟨hbase, -⟩ := intField_number hp.base h.base
  obtain ⟨hminimum, -⟩ := intField_number hp.minimum h.minimum
  obtain ⟨hmaximum, hlt⟩ := intField_number hp.maximum h.maximum
  exact ⟨(Option.some.inj hpercent).symm, hbase, h.routing, hminimum, hmaximum, hlt⟩

end Parsed

theorem checkAmount_ok_iff {sats : Int} {live : LiveConfig} : checkAmount sats live = .ok () ↔
    live.minimumInvoicePaymentSats ≤ sats ∧ sats ≤ live.maximumInvoicePaymentSats := by
  unfold checkAmount
  split_ifs with hsmall hlarge
  · exact iff_of_false nofun (by omega)
  · exact iff_of_false nofun (by omega)
  · exact iff_of_true rfl ⟨by omega, by omega⟩

/-- The conversion fee, computed in 28 digits. -/
def convFee (percent : Decimal) (base sats : Int) : Int :=
  Decimal.roundHalfUp (Decimal.add prec (Decimal.mul prec percent (sats : Decimal))
    (base : Decimal))

/-! ## The law -/

/-- The published numbers count: the amount checks let an amount pass if and only if it is within
the published bounds, and an amount that passes is charged the published fee and the routing
pad. -/
structure Honoured (p : PublishedFields) (routingFeeSats : Int) (live : LiveConfig)
    (sats : Int) : Prop where
  amount : checkAmount sats live = .ok () ↔ p.minimum.whole ≤ sats ∧ sats ≤ p.maximum.whole
  fee : checkAmount sats live = .ok () → ∃ fees, liveFees sats live = .ok fees ∧
    fees.totalFeeSats = Decimal.roundHalfUp (p.percent.value * sats + p.base.whole)
      + routingFeeSats ∧
    fees.satsCollect = sats + fees.totalFeeSats

/-- No built-in default stands in the place of a field. -/
structure NoDefault (p : PublishedFields) (live : LiveConfig) : Prop where
  percent : live.convFeePercent = p.percent.toDecimal
  base : live.convFeeSats = p.base.rounded
  minimum : live.minimumInvoicePaymentSats = p.minimum.rounded
  maximum : live.maximumInvoicePaymentSats = p.maximum.rounded

/-- The built-in windows do not stand in the place of published ones. -/
def WindowsHonoured (texts : TextNumbers) (raw : List (String × Json)) (live : LiveConfig) : Prop :=
  ∀ limits, getField raw "lightning_rate_limits" = some limits →
    parseWindows texts (some limits) = some live.windows

/-- The limits are a list with a window in it that has positive numbers. -/
def HasWindow (texts : TextNumbers) (limits : Json) : Prop :=
  ∃ items, limits = .arr items ∧
    ∃ item ∈ items, ∃ window, parseWindow texts item = some (some window)

/-- No field is zero. -/
structure PublishedFields.NoZero (p : PublishedFields) : Prop where
  percent : p.percent.vanishes = false
  base : p.base.vanishes = false
  minimum : p.minimum.vanishes = false
  maximum : p.maximum.vanishes = false

/-- The numbers that a fee is computed from lie, for 28 digits, between the same two halves as the
exact fee. -/
def FeeKept (percent : Decimal) (base sats : Int) (exact : Decimal) : Prop :=
  let fee := Decimal.mul prec percent (sats : Decimal) + (base : Decimal)
  let whole : Decimal := Decimal.roundHalfUp exact
  Decimal.Reaches prec (whole - 1 / 2) fee ∧ ¬Decimal.Reaches prec (whole + 1 / 2) fee

instance (percent : Decimal) (base sats : Int) (exact : Decimal) :
    Decidable (FeeKept percent base sats exact) :=
  inferInstanceAs (Decidable (_ ∧ ¬_))

/-- The amount is within the bounds, without their fractions. -/
def PublishedFields.Within (p : PublishedFields) (sats : Int) : Prop :=
  p.minimum.value < sats + 1 ∧ sats ≤ p.maximum.value

/-- It is within the doubles of the bounds: the number for the minimum does not reach the middle
below the next amount, and the one for the maximum reaches the middle below this amount. -/
def PublishedFields.WithinDoubles (p : PublishedFields) (sats : Int) : Prop :=
  ¬Binary64.Reaches (sats + 1) p.minimum.value ∧ Binary64.Reaches sats p.maximum.value

instance (p : PublishedFields) (sats : Int) : Decidable (p.Within sats) :=
  inferInstanceAs (Decidable (_ ∧ _))

instance (p : PublishedFields) (sats : Int) : Decidable (p.WithinDoubles sats) :=
  inferInstanceAs (Decidable (¬_ ∧ _))

/-- What doubles and 28 digits lose of the fields makes no difference: no bound moves across the
amount, and the fee does not move across a half. -/
structure PublishedFields.LossUnnoticed (p : PublishedFields) (sats : Int) : Prop where
  amount : p.WithinDoubles sats ↔ p.Within sats
  fee : p.Within sats → ∃ percent, p.percent.toDecimal = some percent ∧
    FeeKept percent p.base.rounded sats (p.percent.value * sats + p.base.whole)

/-- The percentage that is used, and the base fee. -/
def PublishedFields.usedPercent (p : PublishedFields) : Decimal :=
  if p.percent.vanishes then DEFAULT_CONFIG.convFeePercent else p.percent.value

def PublishedFields.usedBase (p : PublishedFields) : Int :=
  if p.base.vanishes then DEFAULT_CONFIG.convFeeSats else p.base.whole

/-- Doubles and 28 digits lose nothing. -/
structure PublishedFields.Exact (p : PublishedFields) (sats : Int) : Prop where
  percent : p.percent.vanishes = false → p.percent.toDecimal = some p.percent.value
  base : p.base.rounded = p.base.whole
  minimum : p.minimum.rounded = p.minimum.whole
  maximum : p.maximum.rounded = p.maximum.whole
  product : Decimal.Fits prec (p.usedPercent * sats)
  sum : Decimal.Fits prec (p.usedPercent * sats + p.usedBase)

/-- A number of at most fifteen digits, twelve of them behind the point. -/
def JsonNumber.Plain (x : JsonNumber) : Prop :=
  ∃ m j : Nat, m < 10 ^ 15 ∧ j ≤ 12 ∧ x.value = m / 10 ^ j

structure PublishedFields.Plain (p : PublishedFields) : Prop where
  percent : p.percent.Plain
  base : p.base.Plain
  minimum : p.minimum.Plain
  maximum : p.maximum.Plain

/-- The zeros of the fields make no difference: a maximum of zero is only used for amounts that
are refused anyway, and for an amount within the bounds the base fee is not zero, and with a
percentage of zero the amount is so small that the default percentage is rounded off. -/
def PublishedFields.ZerosHarmless (p : PublishedFields) (sats : Int) : Prop :=
  if p.maximum.vanishes then
    ¬(p.minimum.whole ≤ sats ∧ sats ≤ DEFAULT_CONFIG.maximumInvoicePaymentSats)
  else p.minimum.whole ≤ sats ∧ sats ≤ p.maximum.whole →
    p.base.vanishes = false ∧ (p.percent.vanishes = true → sats ≤ 17)

section Law

variable {p : PublishedFields} {routingFeeSats : Int} {live : LiveConfig} {sats : Int}

theorem liveFees_some {percent : Decimal} (hpercent : live.convFeePercent = some percent)
    (sats : Int) : ∃ fees, liveFees sats live = .ok fees ∧
      fees.totalFeeSats = convFee percent live.convFeeSats sats + live.routingFeeSats ∧
      fees.satsCollect = sats + fees.totalFeeSats := by
  unfold liveFees LiveConfig.config
  rw [hpercent]
  exact ⟨_, rfl, rfl, by unfold calculateInvoiceFees; ring⟩

theorem liveFees_none (hpercent : live.convFeePercent = none) (sats : Int) {fees : InvoiceFees} :
    liveFees sats live ≠ .ok fees := by
  unfold liveFees LiveConfig.config
  rw [hpercent]
  exact nofun

/-- The law, by the configuration that is used. -/
theorem honoured_iff (h : ParsedFrom p routingFeeSats live) (sats : Int) :
    Honoured p routingFeeSats live sats ↔
      (live.minimumInvoicePaymentSats ≤ sats ∧ sats ≤ live.maximumInvoicePaymentSats ↔
        p.minimum.whole ≤ sats ∧ sats ≤ p.maximum.whole) ∧
      (live.minimumInvoicePaymentSats ≤ sats ∧ sats ≤ live.maximumInvoicePaymentSats →
        ∃ percent, live.convFeePercent = some percent ∧ convFee percent live.convFeeSats sats
          = Decimal.roundHalfUp (p.percent.value * sats + p.base.whole)) := by
  rw [← checkAmount_ok_iff]
  constructor
  · rintro ⟨hamount, hfee⟩
    refine ⟨hamount, ?_⟩
    intro hok
    obtain ⟨fees, hfees, htotal, -⟩ := hfee hok
    cases hpercent : live.convFeePercent with
    | none => exact absurd hfees (liveFees_none hpercent sats)
    | some percent =>
        obtain ⟨fees', hfees', htotal', -⟩ := liveFees_some hpercent sats
        rw [hfees] at hfees'
        cases hfees'
        refine ⟨percent, rfl, ?_⟩
        rw [htotal, h.routing] at htotal'
        omega
  · rintro ⟨hamount, hfee⟩
    refine ⟨hamount, ?_⟩
    intro hok
    obtain ⟨percent, hpercent, hconv⟩ := hfee hok
    obtain ⟨fees, hfees, htotal, hcollect⟩ := liveFees_some hpercent sats
    refine ⟨fees, hfees, ?_, hcollect⟩
    rw [htotal, hconv, h.routing]

/-! ### Defaults -/

theorem toDecimal_of_vanishes {x : JsonNumber} (h : x.vanishes = true) :
    x.toDecimal = some 0 ∨ x.toDecimal = none := by
  cases x with
  | int n =>
      have hn : n = 0 := of_decide_eq_true h
      rw [JsonNumber.toDecimal, hn]
      exact Or.inl (congrArg some Int.cast_zero)
  | real q =>
      have hq : Binary64.nearest q = 0 := of_decide_eq_true h
      rw [JsonNumber.toDecimal, Binary64.ofRat, hq]
      split_ifs
      · exact Or.inl (congrArg some Binary64.shortest_zero)
      · exact Or.inr rfl

/-- A default stands in the place of a field if and only if the field is zero. -/
theorem noDefault_iff (h : ParsedFrom p routingFeeSats live) : NoDefault p live ↔ p.NoZero := by
  -- an integer field that vanishes would be 0, which no default is
  have hint : ∀ (x : JsonNumber) (default n : Int), default ≠ 0 →
      n = (if x.vanishes then default else x.rounded) → (n = x.rounded ↔ x.vanishes = false) := by
    rintro x default n hdefault rfl
    cases hx : x.vanishes with
    | true =>
        rw [JsonNumber.rounded_of_vanishes hx]
        simpa using hdefault
    | false => simp
  have hpercent : live.convFeePercent = p.percent.toDecimal ↔ p.percent.vanishes = false := by
    rw [h.percent]
    cases hx : p.percent.vanishes with
    | true =>
        refine iff_of_false ?_ nofun
        have hne : DEFAULT_CONFIG.convFeePercent ≠ 0 := by decide +kernel
        rcases toDecimal_of_vanishes hx with hzero | hnone
        · rw [hzero]
          simpa using hne
        · rw [hnone]
          exact nofun
    | false => simp
  have hbase := hint _ _ _ (by decide) h.base
  have hminimum := hint _ _ _ (by decide) h.minimum
  have hmaximum := hint _ _ _ (by decide) h.maximum
  constructor
  · rintro ⟨h₁, h₂, h₃, h₄⟩
    exact ⟨hpercent.mp h₁, hbase.mp h₂, hminimum.mp h₃, hmaximum.mp h₄⟩
  · rintro ⟨h₁, h₂, h₃, h₄⟩
    exact ⟨hpercent.mpr h₁, hbase.mpr h₂, hminimum.mpr h₃, hmaximum.mpr h₄⟩

theorem mem_of_mapM_eq_some {α β : Type} {f : α → Option β} {l : List α} {ys : List β}
    (h : l.mapM f = some ys) (y : β) : y ∈ ys ↔ ∃ x ∈ l, f x = some y := by
  induction l generalizing ys with
  | nil =>
      cases h
      simp
  | cons x l ih =>
      rw [List.mapM_cons] at h
      obtain ⟨z, hz, h⟩ := Option.bind_eq_some_iff.mp h
      obtain ⟨zs, hzs, h⟩ := Option.bind_eq_some_iff.mp h
      cases h
      rw [List.mem_cons, ih hzs, List.exists_mem_cons_iff, hz, Option.some_inj, eq_comm]

theorem not_hasWindow {texts : TextNumbers} {limits : Json} (h : ∀ items, limits ≠ .arr items) :
    ¬HasWindow texts limits :=
  fun ⟨items, heq, _⟩ => h items heq

/-- No window is read if and only if no item has positive numbers. -/
theorem parseWindows_eq_nil_iff {texts : TextNumbers} {items : List Json}
    {windows : List RateWindow} (h : parseWindows texts (some (.arr items)) = some windows) :
    windows = [] ↔ ¬HasWindow texts (.arr items) := by
  obtain ⟨parsed, hparsed, hwindows⟩ := Option.bind_eq_some_iff.mp h
  cases hwindows
  rw [List.eq_nil_iff_forall_not_mem]
  constructor
  · rintro hnone ⟨_, heq, item, hitem, window, hwindow⟩
    cases heq
    refine hnone window ?_
    rw [List.mem_insertionSort, List.reduceOption_mem_iff, mem_of_mapM_eq_some hparsed]
    exact ⟨item, hitem, hwindow⟩
  · intro hno window hmem
    rw [List.mem_insertionSort, List.reduceOption_mem_iff, mem_of_mapM_eq_some hparsed] at hmem
    obtain ⟨item, hitem, hwindow⟩ := hmem
    exact hno ⟨items, rfl, item, hitem, window, hwindow⟩

/-- The built-in windows stand in the place of published ones if and only if no published one has
positive numbers. -/
theorem windowsHonoured_iff {texts : TextNumbers} {raw : List (String × Json)}
    (h : ReadFrom texts raw routingFeeSats live) :
    WindowsHonoured texts raw live ↔
      ∀ limits, getField raw "lightning_rate_limits" = some limits → HasWindow texts limits := by
  obtain ⟨windows, hwindows, hlive⟩ := h.windows
  have hne : live.windows ≠ [] := by
    rw [hlive]
    cases windows with
    | nil => exact List.cons_ne_nil _ _
    | cons window rest => exact List.cons_ne_nil _ _
  refine forall_congr' fun limits => forall_congr' fun hlimits => ?_
  unfold getTruthy at hwindows
  rw [hlimits] at hwindows
  cases limits with
  | null => exact iff_of_false nofun (not_hasWindow nofun)
  | bool b => exact iff_of_false nofun (not_hasWindow nofun)
  | number x => exact iff_of_false nofun (not_hasWindow nofun)
  | str text =>
      exact iff_of_false (fun heq => hne (Option.some.inj heq).symm) (not_hasWindow nofun)
  | obj fields =>
      exact iff_of_false (fun heq => hne (Option.some.inj heq).symm) (not_hasWindow nofun)
  | arr items =>
      -- an empty list is as good as none
      have hread : parseWindows texts (some (.arr items)) = some windows := by
        cases items with
        | nil => exact hwindows
        | cons item items => exact hwindows
      have hnil := parseWindows_eq_nil_iff hread
      rw [hread, Option.some_inj, hlive]
      cases windows with
      | nil =>
          refine iff_of_false (List.cons_ne_nil _ _).symm ?_
          exact hnil.mp rfl
      | cons window rest =>
          refine iff_of_true rfl ?_
          exact not_not.mp fun hno => List.cons_ne_nil _ _ (hnil.mpr hno)

/-- When the computed fee is the exact one. -/
theorem convFee_eq_iff {percent : Decimal} {base : Int} (hpercent : 0 ≤ percent)
    (hbase : 0 ≤ base) (hsats : 0 ≤ sats) (exact : Decimal) :
    convFee percent base sats = Decimal.roundHalfUp exact ↔ FeeKept percent base sats exact := by
  have hsats' : (0 : ℚ) ≤ sats := by exact_mod_cast hsats
  have hbase' : (0 : ℚ) ≤ base := by exact_mod_cast hbase
  have hproduct : 0 ≤ Decimal.mul prec percent (sats : Decimal) :=
    Decimal.roundSig_nonneg (by decide) (mul_nonneg hpercent hsats')
  have hsum : 0 ≤ Decimal.add prec (Decimal.mul prec percent (sats : Decimal)) (base : Decimal) :=
    Decimal.roundSig_nonneg (by decide) (add_nonneg hproduct hbase')
  rw [convFee, Decimal.roundHalfUp_eq_iff hsum, FeeKept, Decimal.add, Decimal.le_roundSig_iff,
    Decimal.le_roundSig_iff]

theorem PublishedFields.within_iff (p : PublishedFields) (sats : Int) :
    p.Within sats ↔ p.minimum.whole ≤ sats ∧ sats ≤ p.maximum.whole := by
  unfold PublishedFields.Within
  rw [JsonNumber.le_whole_iff p.maximum_nonneg, ← Int.lt_add_one_iff,
    ← not_le (a := sats + 1), JsonNumber.le_whole_iff p.minimum_nonneg, not_le]
  push_cast
  rfl

theorem PublishedFields.withinDoubles_iff (p : PublishedFields) (sats : Int) :
    p.WithinDoubles sats ↔ p.minimum.rounded ≤ sats ∧ sats ≤ p.maximum.rounded := by
  unfold PublishedFields.WithinDoubles
  rw [JsonNumber.le_rounded_iff p.maximum_nonneg, ← Int.lt_add_one_iff,
    ← not_le (a := sats + 1), JsonNumber.le_rounded_iff p.minimum_nonneg]
  push_cast
  rfl

/-- Without zeros, the law is a matter of what the conversions lose. -/
theorem honoured_of_noZero (h : ParsedFrom p routingFeeSats live) (hzero : p.NoZero)
    (hsats : 0 ≤ sats) : Honoured p routingFeeSats live sats ↔ p.LossUnnoticed sats := by
  have hkept : ∀ percent, p.percent.toDecimal = some percent →
      (convFee percent p.base.rounded sats
          = Decimal.roundHalfUp (p.percent.value * sats + p.base.whole) ↔
        FeeKept percent p.base.rounded sats (p.percent.value * sats + p.base.whole)) :=
    fun percent hpercent => convFee_eq_iff (JsonNumber.toDecimal_nonneg p.percent_nonneg hpercent)
      (JsonNumber.rounded_nonneg p.base_nonneg) hsats _
  have hpercent := h.percent
  have hbase := h.base
  have hminimum := h.minimum
  have hmaximum := h.maximum
  rw [hzero.percent] at hpercent
  rw [hzero.base] at hbase
  rw [hzero.minimum] at hminimum
  rw [hzero.maximum] at hmaximum
  rw [honoured_iff h, hpercent, hbase, hminimum, hmaximum]
  change (p.minimum.rounded ≤ sats ∧ sats ≤ p.maximum.rounded ↔ _) ∧
    (p.minimum.rounded ≤ sats ∧ sats ≤ p.maximum.rounded → _) ↔ _
  rw [← p.within_iff, ← p.withinDoubles_iff]
  constructor
  · rintro ⟨hamount, hfee⟩
    refine ⟨hamount, fun hin => ?_⟩
    obtain ⟨percent, hpercent, hexact⟩ := hfee (hamount.mpr hin)
    exact ⟨percent, hpercent, (hkept percent hpercent).mp hexact⟩
  · rintro ⟨hamount, hfee⟩
    refine ⟨hamount, fun hin => ?_⟩
    obtain ⟨percent, hpercent, hfee⟩ := hfee (hamount.mp hin)
    exact ⟨percent, hpercent, (hkept percent hpercent).mpr hfee⟩

/-! ### Zeros -/

/-- A number of sats next to a fraction. -/
theorem roundHalfUp_add {x : Decimal} {b : Int} (hx : 0 ≤ x) (hb : 0 ≤ b) :
    Decimal.roundHalfUp (x + b) = ⌊x + 1 / 2⌋ + b := by
  have hsum : (0 : ℚ) ≤ x + b := add_nonneg hx (by exact_mod_cast hb)
  have hcomm : x + (b : ℚ) + 1 / 2 = x + 1 / 2 + (b : ℚ) := by ring
  rw [Decimal.roundHalfUp, if_pos hsum, hcomm, Int.floor_add_intCast]

/-- A percentage that vanishes charges nothing. -/
theorem floor_of_vanishes (hvanishes : p.percent.vanishes = true)
    (hmax : |p.maximum.value| < Binary64.overflow) (hsats : 0 ≤ sats)
    (hle : sats ≤ p.maximum.whole) : ⌊p.percent.value * sats + 1 / 2⌋ = 0 := by
  have htiny := JsonNumber.value_of_vanishes hvanishes p.percent_nonneg
  have hsats' : (0 : ℚ) ≤ sats := by exact_mod_cast hsats
  have hbound : (sats : ℚ) ≤ (2 : ℚ) ^ (1024 : Int) := by
    have hle' : (sats : ℚ) ≤ p.maximum.whole := by exact_mod_cast hle
    have hwhole := JsonNumber.whole_le p.maximum_nonneg
    have hlt := (abs_lt.mp hmax).2
    have hover : Binary64.overflow ≤ (2 : ℚ) ^ (1024 : Int) := by
      rw [Binary64.overflow]
      norm_num
    linarith
  have hprod : p.percent.value * sats ≤ 1 / 4 := by
    calc p.percent.value * sats
        ≤ (2 : ℚ) ^ (-1075 : Int) * (2 : ℚ) ^ (1024 : Int) :=
          mul_le_mul htiny hbound hsats' (zpow_pos (by norm_num) _).le
      _ = (2 : ℚ) ^ (-51 : Int) := by rw [← zpow_add₀ (by norm_num)]; norm_num
      _ ≤ 1 / 4 := by norm_num
  have hnonneg : 0 ≤ p.percent.value * sats := mul_nonneg p.percent_nonneg hsats'
  rw [Int.floor_eq_zero_iff]
  constructor
  · linarith
  · linarith

/-- The default percentage of an amount is rounded off up to 17 sats. -/
theorem floor_default_eq_zero_iff (hsats : 0 ≤ sats) :
    ⌊DEFAULT_CONFIG.convFeePercent * sats + 1 / 2⌋ = 0 ↔ sats ≤ 17 := by
  have hsats' : (0 : ℚ) ≤ sats := by exact_mod_cast hsats
  show ⌊(29 / 1000 : ℚ) * sats + 1 / 2⌋ = 0 ↔ sats ≤ 17
  rw [Int.floor_eq_zero_iff, Set.mem_Ico]
  constructor
  · rintro ⟨-, hlt⟩
    have hlt' : (sats : ℚ) < 18 := by linarith
    have : sats < 18 := by exact_mod_cast hlt'
    omega
  · intro hle
    have hle' : (sats : ℚ) ≤ 17 := by exact_mod_cast hle
    constructor
    · linarith
    · linarith

/-- The fee of an amount within the bounds. -/
theorem fee_eq_iff (hmax : |p.maximum.value| < Binary64.overflow) (hsats : 0 ≤ sats)
    (hle : sats ≤ p.maximum.whole) :
    Decimal.roundHalfUp (p.usedPercent * sats + p.usedBase)
        = Decimal.roundHalfUp (p.percent.value * sats + p.base.whole) ↔
      p.base.vanishes = false ∧ (p.percent.vanishes = true → sats ≤ 17) := by
  have hsats' : (0 : ℚ) ≤ sats := by exact_mod_cast hsats
  have hused : 0 ≤ p.usedPercent * sats := by
    refine mul_nonneg ?_ hsats'
    unfold PublishedFields.usedPercent
    split_ifs
    · exact (by decide +kernel : (0 : ℚ) ≤ DEFAULT_CONFIG.convFeePercent)
    · exact p.percent_nonneg
  have hbase : 0 ≤ p.usedBase := by
    unfold PublishedFields.usedBase
    split_ifs
    · decide
    · exact JsonNumber.whole_nonneg p.base_nonneg
  rw [roundHalfUp_add hused hbase,
    roundHalfUp_add (mul_nonneg p.percent_nonneg hsats') (JsonNumber.whole_nonneg p.base_nonneg)]
  unfold PublishedFields.usedPercent PublishedFields.usedBase
  cases hb : p.base.vanishes with
  | true =>
      -- the default base fee is more than nothing
      have hwhole := JsonNumber.whole_of_vanishes hb p.base_nonneg
      have hfifty : DEFAULT_CONFIG.convFeeSats = 50 := rfl
      refine iff_of_false ?_ nofun
      rw [hwhole, if_pos rfl, hfifty]
      cases hp : p.percent.vanishes with
      | true =>
          have hzero := floor_of_vanishes hp hmax hsats hle
          have hnonneg : 0 ≤ ⌊DEFAULT_CONFIG.convFeePercent * (sats : ℚ) + 1 / 2⌋ := by
            refine Int.floor_nonneg.mpr ?_
            have : (0 : ℚ) ≤ DEFAULT_CONFIG.convFeePercent := by decide +kernel
            positivity
          rw [hzero, if_pos rfl]
          omega
      | false =>
          rw [if_neg Bool.false_ne_true]
          omega
  | false =>
      rw [if_neg Bool.false_ne_true, add_left_inj]
      cases hp : p.percent.vanishes with
      | true =>
          rw [if_pos rfl, floor_of_vanishes hp hmax hsats hle, floor_default_eq_zero_iff hsats]
          simp
      | false => simp

theorem convFee_of_fits {percent : Decimal} {base : Int}
    (hproduct : Decimal.Fits prec (percent * sats))
    (hsum : Decimal.Fits prec (percent * sats + base)) :
    convFee percent base sats = Decimal.roundHalfUp (percent * sats + base) := by
  rw [convFee, Decimal.mul, hproduct.roundSig, Decimal.add, hsum.roundSig]

/-- Where nothing is lost, the law is a matter of the zeros. -/
theorem honoured_of_exact (h : ParsedFrom p routingFeeSats live) (hexact : p.Exact sats)
    (hsats : 1 ≤ sats) : Honoured p routingFeeSats live sats ↔ p.ZerosHarmless sats := by
  have hpercent : live.convFeePercent = some p.usedPercent := by
    rw [h.percent]
    unfold PublishedFields.usedPercent
    cases hx : p.percent.vanishes with
    | true => rfl
    | false => exact hexact.percent hx
  have hbase : live.convFeeSats = p.usedBase := by
    rw [h.base, hexact.base]
    rfl
  -- a minimum of zero is read as one, and no amount is less
  have hminimum : live.minimumInvoicePaymentSats ≤ sats ↔ p.minimum.whole ≤ sats := by
    rw [h.minimum]
    cases hx : p.minimum.vanishes with
    | true =>
        rw [JsonNumber.whole_of_vanishes hx p.minimum_nonneg]
        exact iff_of_true hsats (by omega)
    | false =>
        rw [hexact.minimum]
        rfl
  rw [honoured_iff h, hminimum, hpercent, hbase]
  unfold PublishedFields.ZerosHarmless
  cases hx : p.maximum.vanishes with
  | true =>
      have hmaximum : live.maximumInvoicePaymentSats
          = DEFAULT_CONFIG.maximumInvoicePaymentSats := by
        rw [h.maximum, hx]
        rfl
      have hnone : ¬(p.minimum.whole ≤ sats ∧ sats ≤ p.maximum.whole) := by
        rw [JsonNumber.whole_of_vanishes hx p.maximum_nonneg]
        omega
      rw [hmaximum, if_pos rfl, iff_false_right hnone]
      exact ⟨fun h => h.1, fun h => ⟨h, fun hin => absurd hin h⟩⟩
  | false =>
      have hmaximum : live.maximumInvoicePaymentSats = p.maximum.whole := by
        rw [h.maximum, hx, hexact.maximum]
        rfl
      rw [hmaximum, if_neg Bool.false_ne_true]
      have hfee : ∀ (_ : p.minimum.whole ≤ sats ∧ sats ≤ p.maximum.whole),
          (∃ percent, some p.usedPercent = some percent ∧ convFee percent p.usedBase sats
            = Decimal.roundHalfUp (p.percent.value * sats + p.base.whole)) ↔
          (p.base.vanishes = false ∧ (p.percent.vanishes = true → sats ≤ 17)) := by
        intro hin
        rw [← fee_eq_iff (h.maximum_lt hx) (by omega) hin.2,
          ← convFee_of_fits hexact.product hexact.sum]
        simp
      constructor
      · rintro ⟨-, hall⟩ hin
        exact (hfee hin).mp (hall hin)
      · intro hall
        exact ⟨Iff.rfl, fun hin => (hfee hin).mpr (hall hin)⟩

/-! ### Plain numbers -/

namespace JsonNumber.Plain

variable {x : JsonNumber}

theorem fits (h : x.Plain) : Decimal.Fits 15 x.value := by
  obtain ⟨m, j, hm, -, hvalue⟩ := h
  rw [hvalue]
  exact Decimal.fits_natCast_div hm j

theorem value_lt (h : x.Plain) : x.value < 10 ^ 15 := by
  obtain ⟨m, j, hm, -, hvalue⟩ := h
  rw [hvalue]
  calc (m : ℚ) / 10 ^ j ≤ m := div_le_self (by positivity) (one_le_pow₀ (by norm_num))
    _ < 10 ^ 15 := by exact_mod_cast hm

theorem rounded_eq (h : x.Plain) (hx : 0 ≤ x.value) : x.rounded = x.whole := by
  unfold rounded whole Decimal.truncate
  rw [if_pos hx, if_pos (Binary64.nearest_nonneg hx), Binary64.floor_nearest hx h.value_lt h.fits]

/-- It is zero, or not too small for its fifteen digits. -/
theorem eq_zero_or_le (h : x.Plain) : x.value = 0 ∨ (2 : ℚ) ^ (-1021 : Int) ≤ x.value := by
  obtain ⟨m, j, -, hj, hvalue⟩ := h
  rcases Nat.eq_zero_or_pos m with rfl | hm
  · left
    rw [hvalue, Nat.cast_zero, zero_div]
  · right
    rw [hvalue]
    calc (2 : ℚ) ^ (-1021 : Int) ≤ (2 : ℚ) ^ (-40 : Int) :=
          zpow_le_zpow_right₀ (by norm_num) (by norm_num)
      _ ≤ 1 / 10 ^ 12 := by norm_num
      _ ≤ 1 / 10 ^ j := by gcongr; norm_num
      _ ≤ m / 10 ^ j := by gcongr; exact_mod_cast hm

theorem toDecimal_eq (h : x.Plain) (hx : 0 ≤ x.value) : x.toDecimal = some x.value := by
  cases x with
  | int n => rfl
  | real q =>
      change 0 ≤ q at hx
      have hlt : |q| < Binary64.overflow := by
        rw [abs_of_nonneg hx]
        exact Binary64.lt_overflow (k := 50) (by norm_num) (h.value_lt.le.trans (by norm_num))
      have hshort : Binary64.shortest (Binary64.nearest q) = q := by
        rcases h.eq_zero_or_le with hzero | hle
        · have hq : q = 0 := hzero
          rw [hq, Binary64.nearest_zero, Binary64.shortest_zero]
        · exact Binary64.shortest_nearest hle h.fits
      rw [toDecimal, Binary64.ofRat, if_pos hlt, Option.map_some, hshort]
      rfl

end JsonNumber.Plain

/-- Nothing is lost of plain numbers and amounts up to 10¹² sats. -/
theorem exact_of_plain (h : p.Plain) (hsats : 0 ≤ sats) (hle : sats ≤ 10 ^ 12) :
    p.Exact sats := by
  obtain ⟨m, j, hm, hj, hpercent⟩ : ∃ m j : Nat, m < 10 ^ 15 ∧ j ≤ 12 ∧
      p.usedPercent = m / 10 ^ j := by
    unfold PublishedFields.usedPercent
    split_ifs
    · exact ⟨29, 3, by norm_num, by norm_num, by decide +kernel⟩
    · exact h.percent
  obtain ⟨b, hb, hbase⟩ : ∃ b : Nat, b < 10 ^ 15 ∧ p.usedBase = b := by
    have hnonneg : 0 ≤ p.usedBase := by
      unfold PublishedFields.usedBase
      split_ifs
      · decide
      · exact JsonNumber.whole_nonneg p.base_nonneg
    have hlt : p.usedBase < 10 ^ 15 := by
      unfold PublishedFields.usedBase
      split_ifs
      · decide
      · exact_mod_cast (JsonNumber.whole_le p.base_nonneg).trans_lt h.base.value_lt
    exact ⟨p.usedBase.toNat, by omega, by omega⟩
  obtain ⟨s, rfl⟩ := Int.eq_ofNat_of_zero_le hsats
  have hs : s ≤ 10 ^ 12 := by exact_mod_cast hle
  have hproduct : m * s ≤ 10 ^ 15 * 10 ^ 12 := Nat.mul_le_mul hm.le hs
  have hshift : b * 10 ^ j ≤ 10 ^ 15 * 10 ^ 12 :=
    Nat.mul_le_mul hb.le (Nat.pow_le_pow_right (by norm_num) hj)
  refine ⟨fun _ => h.percent.toDecimal_eq p.percent_nonneg, h.base.rounded_eq p.base_nonneg,
    h.minimum.rounded_eq p.minimum_nonneg, h.maximum.rounded_eq p.maximum_nonneg, ?_, ?_⟩
  · have heq : p.usedPercent * ((s : Int) : ℚ) = ((m * s : Nat) : ℚ) / 10 ^ j := by
      rw [hpercent]
      push_cast
      ring
    rw [heq]
    exact Decimal.fits_natCast_div (by rw [prec]; omega) j
  · have heq : p.usedPercent * ((s : Int) : ℚ) + p.usedBase
        = ((m * s + b * 10 ^ j : Nat) : ℚ) / 10 ^ j := by
      rw [hpercent, hbase]
      push_cast
      field_simp
    rw [heq]
    exact Decimal.fits_natCast_div (by rw [prec]; omega) j

end Law

/-- **Published numbers.** For every payload in force and every request: the published numbers
count, and no built-in default stands in for one, if and only if none of them is zero and what
doubles and 28 digits lose of them makes no difference; and the built-in windows do not stand in
for published ones if and only if one of these, if there are any, has positive numbers. Where
nothing is lost, the published numbers count for the amount of the request if and only if the
zeros make no difference; and of plain numbers and amounts up to 10¹² sats nothing is lost. -/
theorem published_iff (texts : TextNumbers) (routingFeeSats : Int) (fetches : List HiveFetch)
    (f : HiveFetch) (raw : List (String × Json)) (live : LiveConfig) (p : PublishedFields)
    (body : InvoiceCreate) (hforce : InForce texts routingFeeSats fetches f raw live)
    (hp : p.In raw) :
    let given := (fetchHiveConfig texts routingFeeSats f (cacheAfter texts routingFeeSats fetches)).1
    (Honoured p routingFeeSats given body.sats ∧ NoDefault p given ↔
      p.NoZero ∧ p.LossUnnoticed body.sats) ∧
    (WindowsHonoured texts raw given ↔
      ∀ limits, getField raw "lightning_rate_limits" = some limits → HasWindow texts limits) ∧
    (p.Exact body.sats →
      (Honoured p routingFeeSats given body.sats ↔ p.ZerosHarmless body.sats)) ∧
    (p.Plain → body.sats ≤ 10 ^ 12 → p.Exact body.sats) := by
  intro given
  obtain ⟨hgiven, g, -, -, hparse⟩ := hforce
  have hlive : given = live := hgiven
  rw [hlive]
  have hread := parseConfig_readFrom hparse
  have h := hread.parsedFrom hp
  have hsats : 0 ≤ body.sats := (Int.zero_le_ofNat 1).trans body.one_le_sats
  refine ⟨?_, windowsHonoured_iff hread, fun hexact => honoured_of_exact h hexact body.one_le_sats,
    fun hplain hle => exact_of_plain hplain hsats hle⟩
  rw [noDefault_iff h]
  constructor
  · rintro ⟨hlaw, hzero⟩
    exact ⟨hzero, (honoured_of_noZero h hzero hsats).mp hlaw⟩
  · rintro ⟨hzero, hloss⟩
    exact ⟨(honoured_of_noZero h hzero hsats).mpr hloss, hzero⟩

/-! ## Two payloads -/

/-- The usual numbers with some maximum. -/
def usualFields (maximum : Int) : List (String × Json) :=
  [("conv_fee_percent", .number (.real (29 / 1000))), ("conv_fee_sats", .number (.int 50)),
    ("minimum_invoice_payment_sats", .number (.int 1)),
    ("maximum_invoice_payment_sats", .number (.int maximum))]

def usualPublished (maximum : Nat) : PublishedFields where
  percent := .real (29 / 1000)
  base := .int 50
  minimum := .int 1
  maximum := .int maximum
  percent_nonneg := by decide +kernel
  base_nonneg := by decide +kernel
  minimum_nonneg := by decide +kernel
  maximum_nonneg := by simp [JsonNumber.value]

/-- No text is read as a number. -/
def noTexts : TextNumbers := ⟨fun _ => none, fun _ => none, fun _ => none⟩

/-- The first call. -/
def usualFetch (fields : List (String × Json)) : HiveFetch where
  now := 0
  response := some (.obj [("config", .obj fields)])

def usualConfig (maximum : Int) : LiveConfig :=
  { fallbackConfig 300 with maximumInvoicePaymentSats := maximum }

/-- The numbers next to one window. -/
def windowedFields (maximum : Int) : List (String × Json) :=
  ("lightning_rate_limits",
    .arr [.obj [("hours", .number (.int 4)), ("sats", .number (.int 500000))]])
  :: usualFields maximum

theorem in_windowedFields (maximum : Nat) :
    (usualPublished maximum).In (windowedFields maximum) :=
  ⟨rfl, rfl, rfl, rfl⟩

def windowedConfig (maximum : Int) : LiveConfig :=
  { usualConfig maximum with windows := [⟨4, 500000⟩] }

/-- A maximum of 180000 sats and a window of half a million. -/
theorem published_iff_usual :
    Honoured (usualPublished 180000) 300 (windowedConfig 180000) sampleBody.sats ∧
      NoDefault (usualPublished 180000) (windowedConfig 180000) ∧
      WindowsHonoured noTexts (windowedFields 180000) (windowedConfig 180000) := by
  have hparse : parseConfig noTexts (windowedFields 180000) 300 = some (windowedConfig 180000) := by
    decide +kernel
  have hforce : InForce noTexts 300 [] (usualFetch (windowedFields 180000))
      (windowedFields 180000) (windowedConfig 180000) :=
    ⟨by decide +kernel, _, List.mem_singleton_self _, rfl, hparse⟩
  have hiff := published_iff noTexts 300 [] _ _ _ (usualPublished 180000) sampleBody hforce
    (in_windowedFields 180000)
  dsimp only at hiff
  rw [hforce.1] at hiff
  have hcount : Honoured (usualPublished 180000) 300 (windowedConfig 180000) sampleBody.sats ∧
      NoDefault (usualPublished 180000) (windowedConfig 180000) := by
    refine hiff.1.mpr ⟨⟨?_, rfl, rfl, rfl⟩, ?_, ?_⟩
    · decide +kernel
    · decide +kernel
    · exact fun _ => ⟨29 / 1000, by decide +kernel, by decide +kernel⟩
  refine ⟨hcount.1, hcount.2, hiff.2.1.mpr ?_⟩
  intro limits hlimits
  cases hlimits
  exact ⟨_, rfl, _, List.mem_singleton_self _, ⟨4, 500000⟩, by decide +kernel⟩

/-- A maximum of zero is to stop all invoices, and 100000 sats pass. -/
theorem maximum_zero_ignored :
    InForce noTexts 300 [] (usualFetch (usualFields 0)) (usualFields 0) (usualConfig 180000) ∧
      checkAmount sampleBody.sats (usualConfig 180000) = .ok () ∧
      ¬ Honoured (usualPublished 0) 300 (usualConfig 180000) sampleBody.sats := by
  have hparse : parseConfig noTexts (usualFields 0) 300 = some (usualConfig 180000) := by
    decide +kernel
  refine ⟨⟨by decide +kernel, _, List.mem_singleton_self _, rfl, hparse⟩, rfl, ?_⟩
  intro h
  have hin := (h.amount.mp rfl).2
  exact absurd hin (by decide +kernel)

end V4vappDash
