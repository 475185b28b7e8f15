import Mathlib.Data.List.ReduceOption
import Mathlib.Data.List.Sort
import V4vappDash.Lib.Binary64
import V4vappDash.Lib.Dict
import V4vappDash.Lib.Machine
import V4vappDash.Lib.TtlCache
import V4vappDash.Limits.HiveConfig

set_option autoImplicit false

/-! # The Hive status

How the published configuration is read (`_parse_config` and `_parse_windows` of
`limits/hive_config.py`) and kept (`fetch_hive_config`). The answer of the status endpoint is a
JSON value, with its numbers as they are written; what raises while it is read is not in force,
whatever it raises, so a reading that raises is `none`.
-/

namespace V4vappDash

open Machine

/-! ## JSON values -/

/-- A number: an integer, or one with a point or an exponent, which Python reads as a double. -/
inductive JsonNumber
  | int (n : Int)
  | real (q : ℚ)
  deriving DecidableEq

/-- The number that is written. -/
def JsonNumber.value : JsonNumber → ℚ
  | .int n => n
  | .real q => q

/-- Python takes the number for false: it is zero, or is rounded to zero. -/
def JsonNumber.vanishes : JsonNumber → Bool
  | .int n => n = 0
  | .real q => Binary64.nearest q = 0

/-- `int(float(x))`, which raises when there is no double. -/
def JsonNumber.toInt (x : JsonNumber) : Option Int :=
  (Binary64.ofRat x.value).map Decimal.truncate

/-- `Decimal(str(x))`. A double is written with the digits that are needed to read it back; an
infinite one is an infinite `Decimal` (`none`). -/
def JsonNumber.toDecimal : JsonNumber → Option Decimal
  | .int n => some n
  | .real q => (Binary64.ofRat q).map Binary64.shortest

inductive Json
  | null
  | bool (b : Bool)
  | number (x : JsonNumber)
  | str (s : String)
  | arr (items : List Json)
  | obj (fields : List (String × Json))

def Json.truthy : Json → Bool
  | .null => false
  | .bool b => b
  | .number x => !x.vanishes
  | .str s => s ≠ ""
  | .arr items => !items.isEmpty
  | .obj fields => !fields.isEmpty

/-- `raw.get(key)`; of a key that is there twice the last value counts. -/
def getField (fields : List (String × Json)) (key : String) : Option Json :=
  (Dict.ofList fields).get? key

/-- The value in `raw.get(key) or default`, unless it is the default. -/
def getTruthy (fields : List (String × Json)) (key : String) : Option Json :=
  (getField fields key).filter Json.truthy

/-- How Python reads a text as a number. Each function refuses some texts, and what `float` and
`Decimal` read may be infinite or no number (`some none`). -/
structure TextNumbers where
  float : String → Option (Option ℚ)
  decimal : String → Option (Option Decimal)
  int : String → Option Int

section Numbers

variable (texts : TextNumbers)

/-- `int(float(value))`. -/
def intOfFloat : Json → Option Int
  | .number x => x.toInt
  | .bool b => some (if b then 1 else 0)
  | .str s => (texts.float s).join.map Decimal.truncate
  | .null | .arr _ | .obj _ => none

/-- `int(value)`. -/
def intOf : Json → Option Int
  | .number (.int n) => some n
  | .number (.real q) => (JsonNumber.real q).toInt
  | .bool b => some (if b then 1 else 0)
  | .str s => texts.int s
  | .null | .arr _ | .obj _ => none

/-- `Decimal(str(value))`, which may be infinite (`some none`). -/
def decimalOf : Json → Option (Option Decimal)
  | .number x => some x.toDecimal
  | .str s => texts.decimal s
  | .null | .bool _ | .arr _ | .obj _ => none

/-! ## Reading a payload -/

/-- One item of the rate limits; what is not an object, or has no positive numbers, is left
out. -/
def parseWindow : Json → Option (Option RateWindow)
  | .obj fields => do
      let hours ← match getTruthy fields "hours" with
        | some value => intOf texts value
        | none => some 0
      let sats ← match getTruthy fields "sats" with
        | some value => intOfFloat texts value
        | none => some 0
      return if 0 < hours ∧ 0 < sats then some ⟨hours, sats⟩ else none
  | _ => some none

def parseWindows : Option Json → Option (List RateWindow)
  | none => some []
  | some (.arr items) => do
      let windows ← items.mapM (parseWindow texts)
      return windows.reduceOption.insertionSort (fun a b => a.hours ≤ b.hours)
  -- the characters of a text and the keys of an object are no objects
  | some (.str _) | some (.obj _) => some []
  | some .null | some (.bool _) | some (.number _) => none

/-- `int(float(raw.get(key) or default))`. -/
def intField (fields : List (String × Json)) (key : String) (default : Int) : Option Int :=
  match getTruthy fields key with
  | some value => intOfFloat texts value
  | none => some default

/-- `Decimal(str(raw.get(key) or default))`. -/
def decimalField (fields : List (String × Json)) (key : String) (default : Decimal) :
    Option (Option Decimal) :=
  match getTruthy fields key with
  | some value => decimalOf texts value
  | none => some (some default)

end Numbers

/-- What is read from a payload: a `HiveInvoiceConfig` whose percentage may be infinite or no
number. -/
structure LiveConfig where
  windows : List RateWindow
  convFeePercent : Option Decimal
  convFeeSats : Int
  routingFeeSats : Int
  minimumInvoicePaymentSats : Int
  maximumInvoicePaymentSats : Int
  deriving DecidableEq

def LiveConfig.config (live : LiveConfig) : Option HiveInvoiceConfig :=
  live.convFeePercent.map (fun percent =>
    { windows := live.windows
      convFeePercent := percent
      convFeeSats := live.convFeeSats
      routingFeeSats := live.routingFeeSats
      minimumInvoicePaymentSats := live.minimumInvoicePaymentSats
      maximumInvoicePaymentSats := live.maximumInvoicePaymentSats })

def parseConfig (texts : TextNumbers) (raw : List (String × Json)) (routingFeeSats : Int) :
    Option LiveConfig := do
  let windows ← parseWindows texts (getTruthy raw "lightning_rate_limits")
  let percent ← decimalField texts raw "conv_fee_percent" DEFAULT_CONFIG.convFeePercent
  let convFeeSats ← intField texts raw "conv_fee_sats" DEFAULT_CONFIG.convFeeSats
  let minimum ← intField texts raw "minimum_invoice_payment_sats"
    DEFAULT_CONFIG.minimumInvoicePaymentSats
  let maximum ← intField texts raw "maximum_invoice_payment_sats"
    DEFAULT_CONFIG.maximumInvoicePaymentSats
  return {
    windows := if windows.isEmpty then DEFAULT_WINDOWS else windows
    convFeePercent := percent
    convFeeSats := convFeeSats
    routingFeeSats := routingFeeSats
    minimumInvoicePaymentSats := minimum
    maximumInvoicePaymentSats := maximum }

/-! ## The payload in force -/

/-- The configuration when nothing was ever read. -/
def fallbackConfig (routingFeeSats : Int) : LiveConfig where
  windows := DEFAULT_WINDOWS
  convFeePercent := some DEFAULT_CONFIG.convFeePercent
  convFeeSats := DEFAULT_CONFIG.convFeeSats
  routingFeeSats := routingFeeSats
  minimumInvoicePaymentSats := DEFAULT_CONFIG.minimumInvoicePaymentSats
  maximumInvoicePaymentSats := DEFAULT_CONFIG.maximumInvoicePaymentSats

/-- `resp.json().get("config") or {}`; what has no `get` raises here or in `_parse_config`. -/
def statusConfig : Json → Option (List (String × Json))
  | .obj body =>
      match getTruthy body "config" with
      | none => some []
      | some (.obj fields) => some fields
      | some _ => none
  | _ => none

/-! The setting `dash_routing_fee_sats` is an argument here. -/

structure HiveCache where
  config : LiveConfig
  expires : ℚ

/-- A call of `fetch_hive_config`: its clock, in seconds, and the answer of the endpoint, if it
gets one. -/
structure HiveFetch where
  now : ℚ
  force : Bool := false
  response : Option Json

section Fetch

variable (texts : TextNumbers) (routingFeeSats : Int)

/-- The payload of an answer, with the configuration that is read from it. -/
def HiveFetch.Reads (f : HiveFetch) (raw : List (String × Json)) (live : LiveConfig) : Prop :=
  f.response.bind statusConfig = some raw ∧
    parseConfig texts raw routingFeeSats = some live

/-- The request: what is read goes into the cache for a minute, and otherwise the cache is used
however old it is. -/
def refreshHiveConfig (f : HiveFetch) (cache : Option HiveCache) : LiveConfig × Option HiveCache :=
  match (f.response.bind statusConfig).bind
    (fun raw => parseConfig texts raw routingFeeSats) with
  | some live => (live, some ⟨live, f.now + 60⟩)
  | none =>
      match cache with
      | some c => (c.config, cache)
      | none => (fallbackConfig routingFeeSats, none)

def fetchHiveConfig (f : HiveFetch) (cache : Option HiveCache) : LiveConfig × Option HiveCache :=
  match cache with
  | some c =>
      if !f.force && f.now < c.expires then (c.config, cache)
      else refreshHiveConfig texts routingFeeSats f cache
  | none => refreshHiveConfig texts routingFeeSats f none

/-- The cache after a number of calls, from an empty one. -/
def cacheAfter (fetches : List HiveFetch) : Option HiveCache :=
  run (fun cache f => (fetchHiveConfig texts routingFeeSats f cache).2) none fetches

/-- The call gets the configuration of this payload, which it reads itself or a call before it
did. -/
def InForce (fetches : List HiveFetch) (f : HiveFetch) (raw : List (String × Json))
    (live : LiveConfig) : Prop :=
  (fetchHiveConfig texts routingFeeSats f (cacheAfter texts routingFeeSats fetches)).1 = live ∧
    ∃ g ∈ fetches ++ [f], g.Reads texts routingFeeSats raw live

variable {texts routingFeeSats}

theorem refreshHiveConfig_cases (f : HiveFetch) (cache : Option HiveCache) :
    (∃ raw live, f.Reads texts routingFeeSats raw live ∧
      refreshHiveConfig texts routingFeeSats f cache = (live, some ⟨live, f.now + 60⟩)) ∨
    (∃ c, cache = some c ∧ refreshHiveConfig texts routingFeeSats f cache = (c.config, some c)) ∨
    (cache = none ∧ refreshHiveConfig texts routingFeeSats f cache
      = (fallbackConfig routingFeeSats, none)) := by
  unfold refreshHiveConfig
  cases hread : (f.response.bind statusConfig).bind
      (fun raw => parseConfig texts raw routingFeeSats) with
  | some live =>
      obtain ⟨raw, hraw, hparse⟩ := Option.bind_eq_some_iff.mp hread
      exact Or.inl ⟨raw, live, ⟨hraw, hparse⟩, rfl⟩
  | none =>
      cases cache with
      | some c => exact Or.inr (Or.inl ⟨c, rfl, rfl⟩)
      | none => exact Or.inr (Or.inr ⟨rfl, rfl⟩)

/-- What a call returns and keeps was read in it, was in the cache, or is built in. -/
theorem fetchHiveConfig_cases (f : HiveFetch) (cache : Option HiveCache) :
    (∃ raw live, f.Reads texts routingFeeSats raw live ∧
      fetchHiveConfig texts routingFeeSats f cache = (live, some ⟨live, f.now + 60⟩)) ∨
    (∃ c, cache = some c ∧ fetchHiveConfig texts routingFeeSats f cache = (c.config, some c)) ∨
    (cache = none ∧ fetchHiveConfig texts routingFeeSats f cache
      = (fallbackConfig routingFeeSats, none)) := by
  unfold fetchHiveConfig
  cases cache with
  | none => exact refreshHiveConfig_cases f none
  | some c =>
      dsimp only
      by_cases hfresh : (!f.force && f.now < c.expires) = true
      · rw [if_pos hfresh]
        exact Or.inr (Or.inl ⟨c, rfl, rfl⟩)
      · rw [if_neg hfresh]
        exact refreshHiveConfig_cases f (some c)

/-- The cache as one with a time to live. -/
def HiveCache.entry (c : HiveCache) : TtlCache.Entry ℚ LiveConfig := ⟨c.config, c.expires⟩

/-- A call as the cache sees it. -/
def HiveFetch.call (texts : TextNumbers) (routingFeeSats : Int) (f : HiveFetch) :
    TtlCache.Call ℚ LiveConfig :=
  ⟨f.now, f.force, (f.response.bind statusConfig).bind
    (fun raw => parseConfig texts raw routingFeeSats)⟩

/-- **`fetch_hive_config` is a cache** that keeps a configuration for a minute. A call gets what is
in the cache after it, expired or not. -/
theorem fetchHiveConfig_eq (texts : TextNumbers) (routingFeeSats : Int) (f : HiveFetch)
    (cache : Option HiveCache) :
    (fetchHiveConfig texts routingFeeSats f cache).2.map HiveCache.entry
        = (TtlCache.fetch 60 (f.call texts routingFeeSats) (cache.map HiveCache.entry)).2 ∧
      (fetchHiveConfig texts routingFeeSats f cache).1
        = ((fetchHiveConfig texts routingFeeSats f cache).2.map HiveCache.config).getD
            (fallbackConfig routingFeeSats) := by
  have hrefresh : ∀ cache, TtlCache.hit (f.call texts routingFeeSats)
        (cache.map HiveCache.entry) = none →
      (refreshHiveConfig texts routingFeeSats f cache).2.map HiveCache.entry
        = (TtlCache.fetch 60 (f.call texts routingFeeSats) (cache.map HiveCache.entry)).2 ∧
      (refreshHiveConfig texts routingFeeSats f cache).1
        = ((refreshHiveConfig texts routingFeeSats f cache).2.map HiveCache.config).getD
            (fallbackConfig routingFeeSats) := by
    intro cache hmiss
    unfold refreshHiveConfig TtlCache.fetch
    rw [hmiss]
    unfold HiveFetch.call
    dsimp only
    cases (f.response.bind statusConfig).bind
        (fun raw => parseConfig texts raw routingFeeSats) with
    | some live => exact ⟨rfl, rfl⟩
    | none => cases cache <;> exact ⟨rfl, rfl⟩
  unfold fetchHiveConfig
  cases cache with
  | none => exact hrefresh none rfl
  | some c =>
      dsimp only
      by_cases hfresh : (!f.force && f.now < c.expires) = true
      · have hhit : TtlCache.hit (f.call texts routingFeeSats) (some c.entry) = some c.config :=
          if_pos hfresh
        rw [if_pos hfresh, Option.map_some, TtlCache.fetch, hhit]
        exact ⟨rfl, rfl⟩
      · rw [if_neg hfresh]
        exact hrefresh (some c) (if_neg hfresh)

/-- What the cache holds was read from an answer. -/
theorem cacheAfter_reads (fetches : List HiveFetch) {c : HiveCache}
    (hc : cacheAfter texts routingFeeSats fetches = some c) :
    ∃ g ∈ fetches, ∃ raw, g.Reads texts routingFeeSats raw c.config := by
  induction fetches using List.reverseRecOn generalizing c with
  | nil => cases hc
  | append_singleton fetches f ih =>
      unfold cacheAfter at hc ih
      rw [run_append, run_cons, run_nil] at hc
      rcases fetchHiveConfig_cases f
          (run (fun cache f => (fetchHiveConfig texts routingFeeSats f cache).2) none fetches) with
        ⟨raw, live, hread, heq⟩ | ⟨c', hc', heq⟩ | ⟨-, heq⟩
      · rw [heq] at hc
        cases hc
        exact ⟨f, List.mem_append_right _ (List.mem_singleton_self f), raw, hread⟩
      · rw [heq] at hc
        cases hc
        obtain ⟨g, hg, hread⟩ := ih hc'
        exact ⟨g, List.mem_append_left _ hg, hread⟩
      · rw [heq] at hc
        cases hc

/-- **What is in force.** The configuration that a call gets is built in, or some payload is in
force. -/
theorem inForce_or_fallback (texts : TextNumbers) (routingFeeSats : Int)
    (fetches : List HiveFetch) (f : HiveFetch) :
    (∃ raw live, InForce texts routingFeeSats fetches f raw live) ∨
      (fetchHiveConfig texts routingFeeSats f (cacheAfter texts routingFeeSats fetches)).1
        = fallbackConfig routingFeeSats := by
  rcases fetchHiveConfig_cases f (cacheAfter texts routingFeeSats fetches) with
    ⟨raw, live, hread, heq⟩ | ⟨c, hc, heq⟩ | ⟨-, heq⟩
  · refine Or.inl ⟨raw, live, congrArg Prod.fst heq, f, ?_, hread⟩
    exact List.mem_append_right _ (List.mem_singleton_self f)
  · obtain ⟨g, hg, raw, hread⟩ := cacheAfter_reads fetches hc
    exact Or.inl ⟨raw, c.config, congrArg Prod.fst heq, g, List.mem_append_left _ hg, hread⟩
  · exact Or.inr (congrArg Prod.fst heq)

end Fetch

end V4vappDash
