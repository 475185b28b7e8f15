import V4vappDash.Api.Errors
import V4vappDash.Lib.Binary64
import V4vappDash.Lib.Dict
import V4vappDash.Models.Invoice

set_option autoImplicit false

/-! # Rate limits

The check of a customer's paid sats against the Hive rate windows (`limits/check.py`).
-/

namespace V4vappDash

/-- Commas between groups of three digits, least significant digit first. -/
def groupDigits : List Char → List Char
  | a :: b :: c :: d :: rest => a :: b :: c :: ',' :: groupDigits (d :: rest)
  | l => l

/-- The format `,` of an integer. -/
def commaSeparated (n : Int) : String :=
  let digits := (groupDigits (Nat.toDigits 10 n.natAbs).reverse).reverse
  String.ofList (if n < 0 then '-' :: digits else digits)

/-- A double, or the `OverflowError` of a number that has none. -/
def toDouble (q : ℚ) : Except Failure ℚ :=
  match Binary64.ofRat q with
  | some x => .ok x
  | none => .error (.crash "OverflowError")

/-- The format `,.0f` of an integer, which goes through a double. -/
def commaSeparatedFloat (n : Int) : Except Failure String := do
  let x ← toDouble n
  return commaSeparated (Decimal.roundHalfEven x)

/-- The microseconds as text; `total_seconds()` is the double next to their seconds. -/
def formatTimeDelta (delta : Int) : String :=
  let seconds := Decimal.truncate (max (Binary64.nearest ((delta : ℚ) / 1000000)) 0)
  let hours := seconds / 3600
  let rem := seconds % 3600
  let minutes := rem / 60
  let secs := rem % 60
  if hours ≠ 0 then toString hours ++ "h " ++ toString minutes ++ "m"
  else if minutes ≠ 0 then toString minutes ++ "m " ++ toString secs ++ "s"
  else toString secs ++ "s"

-- a microsecond before the hour
example : formatTimeDelta 17999999999999999 = "5000000h 0m" := by decide +kernel

def PAID_STATES : List DashInvoiceState := [.SETTLED, .OVERPAID]

def satsOf (doc : InvoiceDoc) : Int :=
  match doc.satsCredited with
  | some credited => credited
  | none => doc.satsRequested

/-- The first and the last instant a `datetime` can express, in the years 1 and 9999. -/
def MIN_DATETIME : Datetime := -62135596800000000

def MAX_DATETIME : Datetime := 253402300799999999

/-- The result of adding a `timedelta` to a `datetime`. -/
def checkedDatetime (t : Datetime) : Except Failure Datetime :=
  if MIN_DATETIME ≤ t ∧ t ≤ MAX_DATETIME then .ok t else .error (.crash "OverflowError")

/-- `now - timedelta(hours=h)`. -/
def hoursBefore (now : Datetime) (h : Int) : Except Failure Datetime :=
  checkedDatetime (now - hours h)

/-- `t + timedelta(hours=h)`. -/
def hoursAfter (t : Datetime) (h : Int) : Except Failure Datetime :=
  checkedDatetime (t + hours h)

/-- The customer's paid invoices settled since `since`; the bound of the query is stored in
milliseconds like every other time. -/
def paidSince (invoices : Invoices) (custId : String) (since : Datetime) : List InvoiceDoc :=
  (Collection.query invoices (fun e => e.2.custId = some custId && e.2.state ∈ PAID_STATES &&
    match e.2.settledAt with
    | some t => since.stored.val ≤ t.val
    | none => false)).map Prod.snd

/-- The documents of `paid` settled since `since`. -/
def settledSince (paid : List InvoiceDoc) (since : Datetime) : List InvoiceDoc :=
  paid.filter (fun doc => match doc.settledAt with
    | some t => since ≤ t.val
    | none => false)

/-- `int((total / limit) * 100)`, in doubles. -/
def limitPercent (total limit : Int) : Except Failure Int :=
  if limit = 0 then .ok 0
  else do
    let ratio ← toDouble (total / limit)
    -- a product past the greatest double is infinite, and `int` refuses it
    let percent ← toDouble (ratio * 100)
    return Decimal.truncate percent

def limitText (window : RateWindow) (custId totalText limitSatsText : String) (ok : Bool) :
    String :=
  "Lightning conversions for " ++ custId ++ " in the last " ++ toString window.hours ++ " hours: "
    ++ totalText ++ " sats (limit: " ++ limitSatsText ++ " sats, "
    ++ (if ok then "ok" else "exceeded") ++ ")"

def periodResult (window : RateWindow) (used extra : Int) (custId : String) :
    Except Failure PeriodResult := do
  let total := used + extra
  let percent ← limitPercent total window.sats
  let ok := total ≤ window.sats
  let totalText ← commaSeparatedFloat total
  let limitSatsText ← commaSeparatedFloat window.sats
  return {
    hours := window.hours
    limitHours := window.hours
    limitSats := window.sats
    sats := total
    satsPaid := used
    satsRequested := extra
    limitOk := ok
    limitPercent := percent
    limitText := limitText window custId totalText limitSatsText ok }

/-- What one turn of the loop over the windows finds. -/
structure WindowResult where
  window : RateWindow
  inWindow : List InvoiceDoc
  result : PeriodResult

/-- The loop over the windows. -/
def windowResults (paid : List InvoiceDoc) (custId : String) (extraSats : Int) (now : Datetime) :
    List RateWindow → Except Failure (List WindowResult)
  | [] => .ok []
  | window :: rest => do
      let since ← hoursBefore now window.hours
      let inWindow := settledSince paid since
      let result ← periodResult window (inWindow.map satsOf).sum extraSats custId
      let results ← windowResults paid custId extraSats now rest
      return { window, inWindow, result } :: results

/-- `min(docs, key=settled_at)`: the first of the earliest settled documents. -/
def oldest : List InvoiceDoc → Option (Stamp × InvoiceDoc)
  | [] => none
  | doc :: rest =>
      match doc.settledAt, oldest rest with
      | none, found => found
      | some t, none => some (t, doc)
      | some t, some (t', doc') => if t'.val < t.val then some (t', doc') else some (t, doc)

/-- The loop over the exceeded windows: the first expiry so far, with the sats it frees. -/
def soonestExpiry : List WindowResult → Option (Datetime × Int) →
    Except Failure (Option (Datetime × Int))
  | [], soonest => .ok soonest
  | exceeded :: rest, soonest =>
      match oldest exceeded.inWindow with
      | none => soonestExpiry rest soonest
      | some (t, doc) => do
          let expiry ← hoursAfter t.val exceeded.window.hours
          match soonest with
          | some s =>
              if expiry < s.1 then soonestExpiry rest (some (expiry, satsOf doc))
              else soonestExpiry rest soonest
          | none => soonestExpiry rest (some (expiry, satsOf doc))

def nextLimitText (now : Datetime) (soonest : Option (Datetime × Int)) : Except Failure String :=
  match soonest with
  | none => .ok ""
  | some (expiry, freed) => do
      let freedText ← commaSeparatedFloat freed
      return "Next limit expires in: " ++ formatTimeDelta (expiry - now) ++ ", freeing "
        ++ freedText ++ " sats"

/-- The error that is raised about the first period over the limit. -/
def rejection (custId : String) (periods : Dict String PeriodResult) (firstOver : PeriodResult)
    (soonest : Option (Datetime × Int)) (nextText : String) : ApiError where
  statusCode := 422
  code := "rate_limit_exceeded"
  message := if nextText ≠ "" then firstOver.limitText ++ ". " ++ nextText else firstOver.limitText
  extra := some
    { custId
      limitOk := false
      nextLimitExpiry := nextText
      expiry := soonest.map Prod.fst
      satsFreed := (soonest.map Prod.snd).getD 0
      periods := periods.items }

/-- When no period is over the limit `next` raises `StopIteration`, which a coroutine turns into a
`RuntimeError`. -/
def limitError (custId : String) (now : Datetime) (periods : Dict String PeriodResult)
    (overLimit : List WindowResult) : Except Failure ApiError := do
  let soonest ← soonestExpiry overLimit none
  let nextText ← nextLimitText now soonest
  match periods.items.find? (fun p => !p.2.limitOk) with
  | none => .error (.crash "coroutine raised StopIteration")
  | some (_, firstOver) => return rejection custId periods firstOver soonest nextText

def limitExceeded (custId : String) (now : Datetime) (periods : Dict String PeriodResult)
    (overLimit : List WindowResult) : Failure :=
  match limitError custId now periods overLimit with
  | .ok error => .api error
  | .error failure => failure

/-- The dictionary of the periods, under their hours as text. -/
def periodsOf (results : List WindowResult) : Dict String PeriodResult :=
  Dict.ofList (results.map (fun r => (toString r.window.hours, r.result)))

/-- Raise 422 `rate_limit_exceeded` if the paid sats of the customer plus `extraSats` exceed any
rate window. -/
def checkCustRateLimit (invoices : Invoices) (windows : List RateWindow) (custId : String)
    (extraSats : Int) (now : Datetime) : Except Failure Unit :=
  if custId = "" then .ok ()
  else
    match (windows.map RateWindow.hours).max? with
    | none => .ok ()
    | some maxHours => do
        let since ← hoursBefore now maxHours
        let results ← windowResults (paidSince invoices custId since) custId extraSats now windows
        let overLimit := results.filter (fun r => !r.result.limitOk)
        if overLimit.isEmpty then return ()
        else .error (limitExceeded custId now (periodsOf results) overLimit)

/-! ## What the check counts -/

/-- The customer has paid the invoice, and it was settled since `since`. -/
def settledBy (custId : String) (since : Datetime) (e : ObjectId × InvoiceDoc) : Bool :=
  e.2.custId = some custId && e.2.state ∈ PAID_STATES &&
    match e.2.settledAt with
    | some t => since ≤ t.val
    | none => false

/-- The sats that the customer has paid in a window. -/
def usedSats (invoices : Invoices) (custId : String) (now : Datetime) (window : RateWindow) : Int :=
  ((Collection.query invoices (settledBy custId (now - hours window.hours))).map
    (fun e => satsOf e.2)).sum

theorem hours_mono {h h' : Int} (hle : h ≤ h') : hours h ≤ hours h' := by
  unfold hours
  omega

/-- Of the documents settled since a time, those settled since a later time. -/
theorem settledSince_query (invoices : Invoices) (custId : String) {first since : Datetime}
    (hle : first ≤ since) :
    settledSince ((Collection.query invoices (settledBy custId first)).map Prod.snd) since
      = (Collection.query invoices (settledBy custId since)).map Prod.snd := by
  rw [settledSince, List.filter_map, Collection.filter_query]
  refine congrArg (List.map Prod.snd) (congrArg (Collection.query invoices) (funext fun e => ?_))
  unfold settledBy
  dsimp only [Function.comp_apply]
  cases e.2.settledAt with
  | none => simp
  | some t =>
      have himp : since ≤ t.val → first ≤ t.val := hle.trans
      rw [Bool.and_assoc]
      refine congrArg _ ?_
      show (decide (first ≤ t.val) && decide (since ≤ t.val)) = decide (since ≤ t.val)
      rw [← Bool.decide_and, decide_eq_decide, and_iff_right_of_imp himp]

/-- The bound of the query, which is stored in milliseconds, excludes nothing that is settled
since a later time. -/
theorem settledSince_paidSince (invoices : Invoices) (custId : String) {first since : Datetime}
    (hle : first ≤ since) : settledSince (paidSince invoices custId first) since
      = (Collection.query invoices (settledBy custId since)).map Prod.snd :=
  settledSince_query invoices custId ((stored_le first).trans hle)

end V4vappDash
