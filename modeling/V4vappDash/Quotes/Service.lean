import V4vappDash.Config
import V4vappDash.Lib.Iso
import V4vappDash.Lib.TtlCache
import V4vappDash.Limits.HiveStatus
import V4vappDash.Quotes

set_option autoImplicit false

/-! # Price sources

`fetch_quote` of `quotes/service.py`: a price is asked of CoinGecko, and of CoinMarketCap when that
fails and there is a key for it, and is kept for a minute. What the sources answer is a JSON value
or the text of an exception. A quote that has expired is never used again, unlike an expired Hive
configuration.

The texts of validation errors are abbreviated to the name of their class.
-/

namespace V4vappDash

/-! ## Reading a payload -/

/-- `value[key]`, with the texts of the `KeyError` and of the `TypeError`s. -/
def subscript (value : Json) (key : String) : Except String Json :=
  match value with
  | .obj fields =>
      match getField fields key with
      | some item => .ok item
      | none => .error ("'" ++ key ++ "'")
  | .arr _ => .error "list indices must be integers or slices, not str"
  | .str _ => .error "string indices must be integers, not 'str'"
  | .null => .error "'NoneType' object is not subscriptable"
  | .bool _ => .error "'bool' object is not subscriptable"
  | .number (.int _) => .error "'int' object is not subscriptable"
  | .number (.real _) => .error "'float' object is not subscriptable"

/-- `_now_iso`: the seconds of the clock, with `Z` for the offset at the end. -/
def nowIso (now : Datetime) : String :=
  let text := Iso.isoText (now - now % 1000000)
  String.ofList (text.take (text.length - Iso.utcSuffix.length) ++ ['Z'])

section Read

variable (texts : TextNumbers)

/-- `_dec`. A price that is infinite or no number does not get into a `Quote` either. -/
def dec (value : Json) : Except String Decimal :=
  match decimalOf texts value with
  | some (some price) => .ok price
  | some none => .error "ValidationError"
  | none => .error "[<class 'decimal.ConversionSyntax'>]"

/-- `_from_coingecko`, on the payload. -/
def readCoingecko (fetchedAt : String) (payload : Json) : Except String Quote := do
  let dash ← subscript payload "dash"
  let btc ← subscript payload "bitcoin"
  let dashBtc ← dec texts (← subscript dash "btc")
  let dashUsd ← dec texts (← subscript dash "usd")
  let btcUsd ← dec texts (← subscript btc "usd")
  fromCoingecko fetchedAt dashBtc dashUsd btcUsd

/-- `data[symbol]["quote"]["USD"]["price"]`. -/
def cmcPrice (data : Json) (symbol : String) : Except String Decimal := do
  let listing ← subscript data symbol
  let usd ← subscript (← subscript listing "quote") "USD"
  dec texts (← subscript usd "price")

/-- `_from_cmc`, on the payload. -/
def readCmc (fetchedAt : String) (payload : Json) : Except String Quote := do
  let data ← subscript payload "data"
  let btcUsd ← cmcPrice texts data "BTC"
  let dashUsd ← cmcPrice texts data "DASH"
  fromCmc fetchedAt btcUsd dashUsd

end Read

/-! ## Fetching -/

/-- A call of `fetch_quote`: its clock in seconds, the date, and what each source would answer, or
the text of what the request for it raises. -/
structure QuoteFetch where
  now : ℚ
  force : Bool := false
  today : Datetime
  coingecko : Except String Json
  coinmarketcap : Except String Json

/-- `_cache` and `_cache_until`. -/
abbrev QuoteCache := TtlCache.Entry ℚ Quote

/-! The setting `coinmarketcap_api_key` is an argument here. -/

section Fetch

variable (texts : TextNumbers) (coinmarketcapApiKey : String)

/-- The quote of the first source that has one, or the last error. -/
def QuoteFetch.ask (f : QuoteFetch) : Except String Quote :=
  match f.coingecko.bind (readCoingecko texts (nowIso f.today)) with
  | .ok quote => .ok quote
  | .error lastError =>
      if coinmarketcapApiKey = "" then .error lastError
      else f.coinmarketcap.bind (readCmc texts (nowIso f.today))

/-- The requests to the sources. A failure leaves the cache as it is. -/
def refreshQuote (f : QuoteFetch) (cache : Option QuoteCache) :
    Except String Quote × Option QuoteCache :=
  match f.ask texts coinmarketcapApiKey with
  | .ok quote => (.ok quote, some ⟨quote, f.now + quote.ttlS⟩)
  | .error lastError => (.error lastError, cache)

/-- `fetch_quote` up to the error that it raises in the end (`fetchQuote`). -/
def findQuote (f : QuoteFetch) (cache : Option QuoteCache) :
    Except String Quote × Option QuoteCache :=
  match cache with
  | some c =>
      if !f.force && f.now < c.expires then (.ok c.value, cache)
      else refreshQuote texts coinmarketcapApiKey f cache
  | none => refreshQuote texts coinmarketcapApiKey f none

/-- A call as the cache sees it. -/
def QuoteFetch.call (f : QuoteFetch) : TtlCache.Call ℚ Quote :=
  ⟨f.now, f.force, (f.ask texts coinmarketcapApiKey).toOption⟩

end Fetch

/-! ## Sound quotes -/

/-- What a quote of a source tells of itself. -/
structure Quote.Sound (quote : Quote) : Prop where
  source : quote.source = "coingecko" ∨ quote.source = "coinmarketcap"
  price : 0 < quote.dashBtc
  satsPerDash : quote.satsPerDash = Decimal.mul prec (SATS_PER_BTC : Decimal) quote.dashBtc
  ttl : quote.ttlS = 60
  amount : quote.dashQuoted = dashAmountString quote.duffsQuoted
  /-- The bound of the model. -/
  one_le_duffs : 1 ≤ quote.duffsQuoted

/-- A positive amount at a positive price comes to at least one duff. -/
theorem duffsFromSats_ok {sats duffs : Int} {dashBtc : Decimal}
    (h : duffsFromSats sats dashBtc = .ok duffs) : 1 ≤ sats ∧ 0 < dashBtc ∧ 1 ≤ duffs := by
  unfold duffsFromSats at h
  split_ifs at h with hsats hprice
  have hone : 1 ≤ sats := by omega
  have hpos : 0 < dashBtc := not_le.mp hprice
  refine ⟨hone, hpos, ?_⟩
  -- none of the roundings takes a positive number to zero
  have hnum : 0 < Decimal.mul prec (sats : Decimal) DUFFS_PER_DASH := by
    refine Decimal.roundSig_pos (by decide) ?_
    rw [DUFFS_PER_DASH]
    exact mul_pos (by exact_mod_cast hone) (by norm_num)
  have hden : 0 < Decimal.mul prec (SATS_PER_BTC : Decimal) dashBtc := by
    refine Decimal.roundSig_pos (by decide) ?_
    rw [SATS_PER_BTC]
    exact mul_pos (by norm_num) hpos
  have hquot : 0 < Decimal.div prec (Decimal.mul prec (sats : Decimal) DUFFS_PER_DASH)
      (Decimal.mul prec (SATS_PER_BTC : Decimal) dashBtc) :=
    Decimal.roundSig_pos (by decide) (div_pos hnum hden)
  have hceil : duffs = ⌈Decimal.div prec (Decimal.mul prec (sats : Decimal) DUFFS_PER_DASH)
      (Decimal.mul prec (SATS_PER_BTC : Decimal) dashBtc)⌉ := (Except.ok.inj h).symm
  rw [hceil]
  exact Int.one_le_ceil_iff.mpr hquot

/-- A quote for an amount is priced like the one it was made from. -/
theorem quoteForSats_spec {sats : Int} {quote priced : Quote}
    (h : quoteForSats sats quote = .ok priced) :
    duffsFromSats sats quote.dashBtc = .ok priced.duffsQuoted ∧
      priced = { quote with
        duffsQuoted := priced.duffsQuoted
        dashQuoted := dashAmountString priced.duffsQuoted } := by
  unfold quoteForSats at h
  cases hd : duffsFromSats sats quote.dashBtc with
  | error e => rw [hd] at h; cases h
  | ok duffs => rw [hd] at h; cases h; exact ⟨rfl, rfl⟩

theorem buildQuote_sound {source fetchedAt : String} {btcUsd dashUsd dashBtc : Decimal}
    {quote : Quote} (hsource : source = "coingecko" ∨ source = "coinmarketcap")
    (h : buildQuote source fetchedAt btcUsd dashUsd dashBtc = .ok quote) : quote.Sound := by
  unfold buildQuote at h
  cases hd : duffsFromSats 1 dashBtc with
  | error e => rw [hd] at h; cases h
  | ok duffs =>
      rw [hd] at h
      cases h
      obtain ⟨-, hprice, hduffs⟩ := duffsFromSats_ok hd
      exact ⟨hsource, hprice, rfl, rfl, rfl, hduffs⟩

/-- A computation that has read its value. -/
theorem bind_ok {ε α β : Type} {x : Except ε α} {f : α → Except ε β} {b : β}
    (h : x.bind f = .ok b) : ∃ a, x = .ok a ∧ f a = .ok b := by
  cases x with
  | error e => cases h
  | ok a => exact ⟨a, rfl, h⟩

theorem readCoingecko_sound {texts : TextNumbers} {fetchedAt : String} {payload : Json}
    {quote : Quote} (h : readCoingecko texts fetchedAt payload = .ok quote) : quote.Sound := by
  obtain ⟨dash, -, h⟩ := bind_ok h
  obtain ⟨btc, -, h⟩ := bind_ok h
  obtain ⟨_, -, h⟩ := bind_ok h
  obtain ⟨dashBtc, -, h⟩ := bind_ok h
  obtain ⟨_, -, h⟩ := bind_ok h
  obtain ⟨dashUsd, -, h⟩ := bind_ok h
  obtain ⟨_, -, h⟩ := bind_ok h
  obtain ⟨btcUsd, -, h⟩ := bind_ok h
  exact buildQuote_sound (Or.inl rfl) h

theorem readCmc_sound {texts : TextNumbers} {fetchedAt : String} {payload : Json} {quote : Quote}
    (h : readCmc texts fetchedAt payload = .ok quote) : quote.Sound := by
  obtain ⟨data, -, h⟩ := bind_ok h
  obtain ⟨btcUsd, -, h⟩ := bind_ok h
  obtain ⟨dashUsd, -, h⟩ := bind_ok h
  unfold fromCmc at h
  split_ifs at h
  exact buildQuote_sound (Or.inr rfl) h

section Calls

variable {texts : TextNumbers} {coinmarketcapApiKey : String}

/-- **Whichever source answers, its quote is sound.** -/
theorem QuoteFetch.ask_sound {f : QuoteFetch} {quote : Quote}
    (h : f.ask texts coinmarketcapApiKey = .ok quote) : quote.Sound := by
  unfold QuoteFetch.ask at h
  cases hc : f.coingecko.bind (readCoingecko texts (nowIso f.today)) with
  | ok q =>
      rw [hc] at h
      cases h
      obtain ⟨payload, -, hread⟩ := bind_ok hc
      exact readCoingecko_sound hread
  | error e =>
      rw [hc] at h
      dsimp only at h
      split_ifs at h
      obtain ⟨payload, -, hread⟩ := bind_ok h
      exact readCmc_sound hread

theorem ask_of_call {f : QuoteFetch} {quote : Quote}
    (h : (f.call texts coinmarketcapApiKey).read = some quote) :
    f.ask texts coinmarketcapApiKey = .ok quote := by
  unfold QuoteFetch.call at h
  cases ha : f.ask texts coinmarketcapApiKey with
  | error e => rw [ha] at h; cases h
  | ok q => rw [ha] at h; cases h; rfl

theorem refreshQuote_eq (f : QuoteFetch) (cache : Option QuoteCache)
    (hhit : TtlCache.hit (f.call texts coinmarketcapApiKey) cache = none) :
    ((refreshQuote texts coinmarketcapApiKey f cache).1.toOption,
      (refreshQuote texts coinmarketcapApiKey f cache).2)
      = TtlCache.fetch 60 (f.call texts coinmarketcapApiKey) cache := by
  unfold refreshQuote TtlCache.fetch
  rw [hhit]
  cases ha : f.ask texts coinmarketcapApiKey with
  | error e =>
      unfold QuoteFetch.call
      rw [ha]
      rfl
  | ok quote =>
      unfold QuoteFetch.call
      rw [ha]
      dsimp only [Except.toOption]
      rw [(QuoteFetch.ask_sound ha).ttl]
      rfl

/-- **`fetch_quote` is a cache** that keeps a quote for a minute. -/
theorem findQuote_eq (f : QuoteFetch) (cache : Option QuoteCache) :
    ((findQuote texts coinmarketcapApiKey f cache).1.toOption,
      (findQuote texts coinmarketcapApiKey f cache).2)
      = TtlCache.fetch 60 (f.call texts coinmarketcapApiKey) cache := by
  unfold findQuote
  cases cache with
  | none => exact refreshQuote_eq f none rfl
  | some c =>
      dsimp only
      by_cases hfresh : (!f.force && f.now < c.expires) = true
      · have hhit : TtlCache.hit (f.call texts coinmarketcapApiKey) (some c) = some c.value :=
          if_pos hfresh
        rw [if_pos hfresh, TtlCache.fetch, hhit]
        rfl
      · rw [if_neg hfresh]
        exact refreshQuote_eq f (some c) (if_neg hfresh)

end Calls

end V4vappDash
