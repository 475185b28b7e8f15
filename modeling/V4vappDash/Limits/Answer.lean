import V4vappDash.Api.Create
import Mathlib.Data.List.MinMax

set_option autoImplicit false

/-! # The answer of the rate limit check

What the loop over the windows finds, when the check rejects a request, and with what. All numbers
of the check are times or doubles somewhere, so each of its steps can raise `OverflowError`; what
it does otherwise is `checkCustRateLimit_eq`.
-/

namespace V4vappDash

/-! ## What the loop over the windows finds -/

/-- A time that a `datetime` can express. -/
def IsDatetime (t : Datetime) : Prop := MIN_DATETIME ≤ t ∧ t ≤ MAX_DATETIME

theorem checkedDatetime_ok {t : Datetime} (h : IsDatetime t) : checkedDatetime t = .ok t :=
  if_pos h

theorem checkedDatetime_error {t : Datetime} (h : ¬IsDatetime t) :
    checkedDatetime t = .error (.crash "OverflowError") := if_neg h

theorem toDouble_ok {q : ℚ} (h : |q| < Binary64.overflow) :
    toDouble q = .ok (Binary64.nearest q) := by
  unfold toDouble Binary64.ofRat
  rw [if_pos h]

theorem toDouble_error {q : ℚ} (h : Binary64.overflow ≤ |q|) :
    toDouble q = .error (.crash "OverflowError") := by
  unfold toDouble Binary64.ofRat
  rw [if_neg (not_lt.mpr h)]

/-- The sats of a window, or their percentage, are beyond the doubles they are written with. -/
def SatsOverflow (window : RateWindow) (total : Int) : Prop :=
  Binary64.overflow ≤ |(total : ℚ)| ∨ Binary64.overflow ≤ |(window.sats : ℚ)| ∨
    Binary64.overflow ≤ |Binary64.nearest ((total : ℚ) / window.sats) * 100|

/-- The text of an integer that has a double. -/
def doubleText (n : Int) : String :=
  commaSeparated (Decimal.roundHalfEven (Binary64.nearest (n : ℚ)))

/-- The result of a window whose numbers all have doubles. -/
def periodOf (window : RateWindow) (used extra : Int) (custId : String) : PeriodResult :=
  let total := used + extra
  { hours := window.hours
    limitHours := window.hours
    limitSats := window.sats
    sats := total
    satsPaid := used
    satsRequested := extra
    limitOk := total ≤ window.sats
    limitPercent := if window.sats = 0 then 0
      else Decimal.truncate
        (Binary64.nearest (Binary64.nearest ((total : ℚ) / window.sats) * 100))
    limitText := limitText window custId (doubleText total) (doubleText window.sats)
      (total ≤ window.sats) }

/-- A quotient of integers is not larger than the dividend. -/
theorem abs_div_intCast_le (total limit : Int) : |(total : ℚ) / limit| ≤ |(total : ℚ)| := by
  by_cases hlimit : limit = 0
  · rw [hlimit, Int.cast_zero, div_zero, abs_zero]
    exact abs_nonneg _
  · have hone : (1 : ℚ) ≤ |(limit : ℚ)| := by exact_mod_cast Int.one_le_abs hlimit
    rw [abs_div]
    exact div_le_self (abs_nonneg _) hone

/-- The percentage of a total that has a double: there, or past the greatest double. -/
theorem limitPercent_ok {total limit : Int} (htotal : |(total : ℚ)| < Binary64.overflow)
    (h : |Binary64.nearest ((total : ℚ) / limit) * 100| < Binary64.overflow) :
    limitPercent total limit = .ok (if limit = 0 then 0 else Decimal.truncate
      (Binary64.nearest (Binary64.nearest ((total : ℚ) / limit) * 100))) := by
  have hratio := (abs_div_intCast_le total limit).trans_lt htotal
  unfold limitPercent
  by_cases hzero : limit = 0
  · rw [if_pos hzero, if_pos hzero]
  · rw [if_neg hzero, if_neg hzero]
    simp only [toDouble_ok hratio, bind, Except.bind, toDouble_ok h]
    rfl

theorem limitPercent_error {total limit : Int} (htotal : |(total : ℚ)| < Binary64.overflow)
    (h : Binary64.overflow ≤ |Binary64.nearest ((total : ℚ) / limit) * 100|) :
    limitPercent total limit = .error (.crash "OverflowError") := by
  have hratio := (abs_div_intCast_le total limit).trans_lt htotal
  have hzero : limit ≠ 0 := by
    rintro rfl
    rw [Int.cast_zero, div_zero, Binary64.nearest_zero, zero_mul, abs_zero] at h
    exact absurd Binary64.overflow_pos (not_lt.mpr h)
  unfold limitPercent
  rw [if_neg hzero]
  simp only [toDouble_ok hratio, bind, Except.bind, toDouble_error h]

theorem limitPercent_cases (total limit : Int) :
    (∃ percent, limitPercent total limit = .ok percent) ∨
      limitPercent total limit = .error (.crash "OverflowError") := by
  unfold limitPercent
  by_cases hzero : limit = 0
  · exact Or.inl ⟨_, if_pos hzero⟩
  rw [if_neg hzero]
  rcases lt_or_ge |(total : ℚ) / limit| Binary64.overflow with hratio | hratio
  · simp only [toDouble_ok hratio, bind, Except.bind]
    rcases lt_or_ge |Binary64.nearest ((total : ℚ) / limit) * 100| Binary64.overflow with h | h
    · exact Or.inl ⟨_, by rw [toDouble_ok h]; rfl⟩
    · exact Or.inr (by rw [toDouble_error h])
  · exact Or.inr (by rw [toDouble_error hratio]; rfl)

theorem commaSeparatedFloat_ok {n : Int} (h : |(n : ℚ)| < Binary64.overflow) :
    commaSeparatedFloat n = .ok (doubleText n) := by
  rw [commaSeparatedFloat, toDouble_ok h]
  rfl

theorem commaSeparatedFloat_error {n : Int} (h : Binary64.overflow ≤ |(n : ℚ)|) :
    commaSeparatedFloat n = .error (.crash "OverflowError") := by
  rw [commaSeparatedFloat, toDouble_error h]
  rfl

theorem periodResult_ok {window : RateWindow} {used extra : Int}
    (h : ¬SatsOverflow window (used + extra)) (custId : String) :
    periodResult window used extra custId = .ok (periodOf window used extra custId) := by
  simp only [SatsOverflow, not_or, not_le] at h
  obtain ⟨htotal, hsats, hpercent⟩ := h
  unfold periodResult
  simp only [limitPercent_ok htotal hpercent, commaSeparatedFloat_ok htotal,
    commaSeparatedFloat_ok hsats, bind, Except.bind]
  rfl

theorem periodResult_error {window : RateWindow} {used extra : Int}
    (h : SatsOverflow window (used + extra)) (custId : String) :
    periodResult window used extra custId = .error (.crash "OverflowError") := by
  unfold periodResult
  rcases limitPercent_cases (used + extra) window.sats with ⟨percent, hpercent⟩ | hpercent
  · simp only [hpercent, bind, Except.bind]
    rcases lt_or_ge |((used + extra : Int) : ℚ)| Binary64.overflow with htotal | htotal
    · simp only [commaSeparatedFloat_ok htotal]
      rcases h with h | h | h
      · exact absurd htotal (not_lt.mpr h)
      · simp only [commaSeparatedFloat_error h]
      · -- the percentage would not be there
        rw [limitPercent_error htotal h] at hpercent
        cases hpercent
    · simp only [commaSeparatedFloat_error htotal]
  · simp only [hpercent, bind, Except.bind]

/-- Nothing within a limit overflows but the limit. -/
theorem not_satsOverflow {window : RateWindow} {total : Int} (hnonneg : 0 ≤ total)
    (hle : total ≤ window.sats) (hsats : |(window.sats : ℚ)| < Binary64.overflow) :
    ¬SatsOverflow window total := by
  have htotal : |(total : ℚ)| ≤ |(window.sats : ℚ)| := by
    exact_mod_cast abs_le_abs_of_nonneg hnonneg hle
  have hratio : |(total : ℚ) / window.sats| ≤ (2 : ℚ) ^ (0 : Int) := by
    rw [zpow_zero, abs_div]
    exact div_le_one_of_le₀ htotal (abs_nonneg _)
  have hpercent : |Binary64.nearest ((total : ℚ) / window.sats) * 100| ≤ 2 ^ 7 := by
    have hnear := Binary64.abs_nearest_le (by norm_num) hratio
    rw [zpow_zero] at hnear
    rw [abs_mul, abs_of_nonneg (by norm_num : (0 : ℚ) ≤ 100)]
    linarith
  rintro (h | h | h)
  · exact absurd (htotal.trans_lt hsats) (not_lt.mpr h)
  · exact absurd hsats (not_lt.mpr h)
  · exact absurd (Binary64.lt_overflow (by norm_num) hpercent) (not_lt.mpr h)

section Windows

variable {invoices : Invoices} {windows : List RateWindow} {custId : String} {extraSats : Int}
  {now : Datetime}

variable (invoices custId now) in
/-- The customer's paid documents in a window. -/
def docsIn (window : RateWindow) : List InvoiceDoc :=
  (Collection.query invoices (settledBy custId (now - hours window.hours))).map Prod.snd

theorem sum_docsIn (window : RateWindow) :
    ((docsIn invoices custId now window).map satsOf).sum = usedSats invoices custId now window := by
  rw [docsIn, List.map_map]
  rfl

variable (invoices custId extraSats now) in
/-- A window whose start or whose sats cannot be expressed. -/
def WindowOverflow (window : RateWindow) : Prop :=
  ¬IsDatetime (now - hours window.hours) ∨
    SatsOverflow window (usedSats invoices custId now window + extraSats)

variable (invoices custId extraSats now) in
/-- What the loop finds for a window. -/
def resultOf (window : RateWindow) : WindowResult where
  window
  inWindow := docsIn invoices custId now window
  result := periodOf window (usedSats invoices custId now window) extraSats custId

variable (invoices custId extraSats now) in
/-- The customer has paid too much in the window. -/
def Exceeded (window : RateWindow) : Prop :=
  window.sats < usedSats invoices custId now window + extraSats

instance : DecidablePred (Exceeded invoices custId extraSats now) :=
  fun _ => inferInstanceAs (Decidable (_ < _))

theorem windowResults_ok {paid : List InvoiceDoc}
    (hpaid : ∀ w ∈ windows, settledSince paid (now - hours w.hours) = docsIn invoices custId now w)
    (h : ∀ w ∈ windows, ¬WindowOverflow invoices custId extraSats now w) :
    windowResults paid custId extraSats now windows
      = .ok (windows.map (resultOf invoices custId extraSats now)) := by
  induction windows with
  | nil => rfl
  | cons window rest ih =>
      obtain ⟨hstart, hsats⟩ := not_or.mp (h window List.mem_cons_self)
      have hrest := ih (fun w hw => hpaid w (List.mem_cons_of_mem _ hw))
        (fun w hw => h w (List.mem_cons_of_mem _ hw))
      simp only [windowResults, hoursBefore, checkedDatetime_ok (not_not.mp hstart), bind,
        Except.bind, hpaid window List.mem_cons_self, sum_docsIn, periodResult_ok hsats custId, hrest]
      rfl

theorem windowResults_error {paid : List InvoiceDoc}
    (hpaid : ∀ w ∈ windows, settledSince paid (now - hours w.hours) = docsIn invoices custId now w)
    (h : ∃ w ∈ windows, WindowOverflow invoices custId extraSats now w) :
    windowResults paid custId extraSats now windows = .error (.crash "OverflowError") := by
  induction windows with
  | nil => obtain ⟨w, hw, -⟩ := h; cases hw
  | cons window rest ih =>
      by_cases hstart : IsDatetime (now - hours window.hours)
      · simp only [windowResults, hoursBefore, checkedDatetime_ok hstart, bind, Except.bind,
          hpaid window List.mem_cons_self, sum_docsIn]
        by_cases hsats : SatsOverflow window (usedSats invoices custId now window + extraSats)
        · simp only [periodResult_error hsats]
        · -- the window that cannot be expressed is a later one
          have hrest : ∃ w ∈ rest, WindowOverflow invoices custId extraSats now w := by
            obtain ⟨w, hw, hover⟩ := h
            rcases List.mem_cons.mp hw with rfl | hw
            · exact absurd hover (not_or.mpr ⟨not_not.mpr hstart, hsats⟩)
            · exact ⟨w, hw, hover⟩
          simp only [periodResult_ok hsats custId,
            ih (fun w hw => hpaid w (List.mem_cons_of_mem _ hw)) hrest]
      · simp only [windowResults, hoursBefore, checkedDatetime_error hstart, bind, Except.bind]

/-! ## What the check answers -/

/-- In every window, the documents found are those that were paid in it. -/
theorem settledSince_docsIn {maxHours : Int}
    (hmax : (windows.map RateWindow.hours).max? = some maxHours) {w : RateWindow}
    (hw : w ∈ windows) :
    settledSince (paidSince invoices custId (now - hours maxHours)) (now - hours w.hours)
      = docsIn invoices custId now w := by
  have hle : w.hours ≤ maxHours :=
    (List.max?_eq_some_iff.mp hmax).2 _ (List.mem_map_of_mem hw)
  exact settledSince_paidSince invoices custId (Int.sub_le_sub_left (hours_mono hle) now)

variable (invoices custId extraSats now) in
/-- The results over the limit are those of the exceeded windows. -/
theorem filter_resultOf (windows : List RateWindow) :
    (windows.map (resultOf invoices custId extraSats now)).filter (fun r => !r.result.limitOk)
      = (windows.filter (Exceeded invoices custId extraSats now)).map
        (resultOf invoices custId extraSats now) := by
  rw [List.filter_map]
  refine congrArg _ (List.filter_congr fun w _ => ?_)
  show (!decide (usedSats invoices custId now w + extraSats ≤ w.sats))
    = decide (w.sats < usedSats invoices custId now w + extraSats)
  rw [← decide_not, decide_eq_decide, not_le]

theorem checkCustRateLimit_overflow (hcust : custId ≠ "")
    (h : ∃ w ∈ windows, WindowOverflow invoices custId extraSats now w) :
    checkCustRateLimit invoices windows custId extraSats now = .error (.crash "OverflowError") := by
  rw [checkCustRateLimit, if_neg hcust]
  cases hmax : (windows.map RateWindow.hours).max? with
  | none =>
      obtain ⟨w, hw, -⟩ := h
      rw [List.map_eq_nil_iff.mp (List.max?_eq_none_iff.mp hmax)] at hw
      cases hw
  | some maxHours =>
      by_cases hstart : IsDatetime (now - hours maxHours)
      · simp only [hoursBefore, checkedDatetime_ok hstart, bind, Except.bind,
          windowResults_error (fun w hw => settledSince_docsIn hmax hw) h]
      · simp only [hoursBefore, checkedDatetime_error hstart, bind, Except.bind]

/-- The check of a customer, when every window can be expressed. -/
theorem checkCustRateLimit_eq (hcust : custId ≠ "")
    (h : ∀ w ∈ windows, ¬WindowOverflow invoices custId extraSats now w) :
    checkCustRateLimit invoices windows custId extraSats now =
      if ∃ w ∈ windows, Exceeded invoices custId extraSats now w then
        .error (limitExceeded custId now
          (periodsOf (windows.map (resultOf invoices custId extraSats now)))
          ((windows.filter (Exceeded invoices custId extraSats now)).map
            (resultOf invoices custId extraSats now)))
      else .ok () := by
  rw [checkCustRateLimit, if_neg hcust]
  cases hmax : (windows.map RateWindow.hours).max? with
  | none =>
      obtain rfl := List.map_eq_nil_iff.mp (List.max?_eq_none_iff.mp hmax)
      rw [if_neg (by simp)]
  | some maxHours =>
      have hstart : IsDatetime (now - hours maxHours) := by
        obtain ⟨w, hw, heq⟩ := List.mem_map.mp (List.max?_eq_some_iff.mp hmax).1
        rw [← heq]
        exact not_not.mp (not_or.mp (h w hw)).1
      simp only [hoursBefore, checkedDatetime_ok hstart, bind, Except.bind, pure, Except.pure,
        windowResults_ok (fun w hw => settledSince_docsIn hmax hw) h, filter_resultOf]
      by_cases hover : ∃ w ∈ windows, Exceeded invoices custId extraSats now w
      · rw [if_pos hover, if_neg]
        simpa [List.filter_eq_nil_iff] using hover
      · rw [if_neg hover, if_pos]
        simpa [List.filter_eq_nil_iff] using hover

/-- The outcomes of the check. -/
inductive LimitOutcome (invoices : Invoices) (windows : List RateWindow) (custId : String)
    (extraSats : Int) (now : Datetime) : Except Failure Unit → Prop
  | unchecked (h : custId = "" ∨ windows = []) :
      LimitOutcome invoices windows custId extraSats now (.ok ())
  /-- The start of a window, or its sats, cannot be expressed. -/
  | overflow : LimitOutcome invoices windows custId extraSats now (.error (.crash "OverflowError"))
  | within (h : ∀ w ∈ windows, usedSats invoices custId now w + extraSats ≤ w.sats) :
      LimitOutcome invoices windows custId extraSats now (.ok ())
  | exceeded (periods : Dict String PeriodResult) (overLimit : List WindowResult)
      (h : ∃ w ∈ windows, w.sats < usedSats invoices custId now w + extraSats) :
      LimitOutcome invoices windows custId extraSats now
        (.error (limitExceeded custId now periods overLimit))

variable (invoices windows custId extraSats now) in
theorem checkCustRateLimit_outcome :
    LimitOutcome invoices windows custId extraSats now
      (checkCustRateLimit invoices windows custId extraSats now) := by
  by_cases hcust : custId = ""
  · rw [checkCustRateLimit, if_pos hcust]
    exact .unchecked (Or.inl hcust)
  by_cases hoverflow : ∃ w ∈ windows, WindowOverflow invoices custId extraSats now w
  · rw [checkCustRateLimit_overflow hcust hoverflow]
    exact .overflow
  have hnot : ∀ w ∈ windows, ¬WindowOverflow invoices custId extraSats now w :=
    fun w hw hover => hoverflow ⟨w, hw, hover⟩
  rw [checkCustRateLimit_eq hcust hnot]
  split_ifs with hover
  · exact .exceeded _ _ hover
  · exact .within (fun w hw => not_lt.mp (fun hlt => hover ⟨w, hw, hlt⟩))

end Windows

/-! ## The error of a rejection -/

/-- When the first document of a window leaves it, and the sats that it frees. -/
def expiryOf (r : WindowResult) : Option (Datetime × Int) :=
  (oldest r.inWindow).map (fun p => (p.1.val + hours r.window.hours, satsOf p.2))

theorem soonestExpiry_ok {overLimit : List WindowResult}
    (h : ∀ r ∈ overLimit, ∀ p ∈ expiryOf r, IsDatetime p.1) (soonest : Option (Datetime × Int)) :
    soonestExpiry overLimit soonest = .ok
      ((overLimit.filterMap expiryOf).foldl (List.argAux fun a b => a.1 < b.1) soonest) := by
  induction overLimit generalizing soonest with
  | nil => rfl
  | cons r rest ih =>
      have hrest := ih (fun r' hr' => h r' (List.mem_cons_of_mem _ hr'))
      have hfirst := h r List.mem_cons_self
      rw [soonestExpiry, List.filterMap_cons]
      cases hold : oldest r.inWindow with
      | none =>
          simp only [expiryOf, hold, Option.map_none]
          exact hrest soonest
      | some p =>
          simp only [expiryOf, hold, Option.map_some, Option.mem_some_iff, forall_eq'] at hfirst ⊢
          simp only [hoursAfter, checkedDatetime_ok hfirst, bind, Except.bind, List.foldl_cons]
          cases soonest with
          | none => exact hrest _
          | some s =>
              simp only [List.argAux]
              split_ifs
              · exact hrest _
              · exact hrest _

theorem soonestExpiry_error {overLimit : List WindowResult}
    (h : ∃ r ∈ overLimit, ∃ p ∈ expiryOf r, ¬IsDatetime p.1) (soonest : Option (Datetime × Int)) :
    soonestExpiry overLimit soonest = .error (.crash "OverflowError") := by
  induction overLimit generalizing soonest with
  | nil => obtain ⟨r, hr, -⟩ := h; cases hr
  | cons r rest ih =>
      rw [soonestExpiry]
      cases hold : oldest r.inWindow with
      | none =>
          obtain ⟨r', hr', p, hp, hover⟩ := h
          rcases List.mem_cons.mp hr' with rfl | hr'
          · simp [expiryOf, hold] at hp
          · exact ih ⟨r', hr', p, hp, hover⟩ soonest
      | some q =>
          by_cases hfirst : IsDatetime (q.1.val + hours r.window.hours)
          · have hrest : ∃ r ∈ rest, ∃ p ∈ expiryOf r, ¬IsDatetime p.1 := by
              obtain ⟨r', hr', p, hp, hover⟩ := h
              rcases List.mem_cons.mp hr' with rfl | hr'
              · obtain rfl : _ = p := by simpa [expiryOf, hold] using hp
                exact absurd hfirst hover
              · exact ⟨r', hr', p, hp, hover⟩
            simp only [hoursAfter, checkedDatetime_ok hfirst, bind, Except.bind]
            cases soonest with
            | none => exact ih hrest _
            | some s =>
                dsimp only
                split_ifs
                · exact ih hrest _
                · exact ih hrest _
          · simp only [hoursAfter, checkedDatetime_error hfirst, bind, Except.bind]

theorem nextLimitText_some_ok {now expiry : Datetime} {freed : Int}
    (h : |(freed : ℚ)| < Binary64.overflow) :
    ∃ text, nextLimitText now (some (expiry, freed)) = .ok text :=
  ⟨_, by simp only [nextLimitText, commaSeparatedFloat_ok h, bind, Except.bind]; rfl⟩

/-- The steps before the look into the periods raise nothing but `OverflowError`. -/
theorem limitError_crash {custId : String} {now : Datetime} {periods : Dict String PeriodResult}
    {overLimit : List WindowResult} {failure : Failure}
    (h : limitError custId now periods overLimit = .error failure) :
    ∃ message, failure = .crash message := by
  unfold limitError at h
  by_cases hlate : ∃ r ∈ overLimit, ∃ p ∈ expiryOf r, ¬IsDatetime p.1
  · rw [soonestExpiry_error hlate] at h
    exact ⟨_, (Except.error.inj h).symm⟩
  have hok : ∀ r ∈ overLimit, ∀ p ∈ expiryOf r, IsDatetime p.1 :=
    fun r hr p hp => by_contra fun hnot => hlate ⟨r, hr, p, hp, hnot⟩
  rw [soonestExpiry_ok hok] at h
  generalize (overLimit.filterMap expiryOf).foldl _ none = soonest at h
  have htext : (∃ text, nextLimitText now soonest = .ok text) ∨
      nextLimitText now soonest = .error (.crash "OverflowError") := by
    cases soonest with
    | none => exact Or.inl ⟨_, rfl⟩
    | some s =>
        rcases lt_or_ge |(s.2 : ℚ)| Binary64.overflow with hfreed | hfreed
        · exact Or.inl (nextLimitText_some_ok hfreed)
        · refine Or.inr ?_
          simp only [nextLimitText, commaSeparatedFloat_error hfreed, bind, Except.bind]
  rcases htext with ⟨text, htext⟩ | htext
  · simp only [bind, Except.bind, htext] at h
    split at h
    · exact ⟨_, (Except.error.inj h).symm⟩
    · cases h
  · simp only [bind, Except.bind, htext] at h
    exact ⟨_, (Except.error.inj h).symm⟩

theorem limitError_code {custId : String} {now : Datetime} {periods : Dict String PeriodResult}
    {overLimit : List WindowResult} {error : ApiError}
    (h : limitError custId now periods overLimit = .ok error) :
    error.statusCode = 422 ∧ error.code = "rate_limit_exceeded" := by
  unfold limitError at h
  simp only [bind, Except.bind] at h
  split at h
  · cases h
  split at h
  · cases h
  split at h
  · cases h
  · cases h
    exact ⟨rfl, rfl⟩

/-- A rejection is not the answer that an `external_id` exists. -/
theorem limitExceeded_isDuplicate (custId : String) (now : Datetime)
    (periods : Dict String PeriodResult) (overLimit : List WindowResult) :
    (limitExceeded custId now periods overLimit).isDuplicate = false := by
  unfold limitExceeded
  cases h : limitError custId now periods overLimit with
  | error failure =>
      obtain ⟨message, rfl⟩ := limitError_crash h
      rfl
  | ok error =>
      show decide (error.code = "duplicate_external_id") = false
      rw [(limitError_code h).2]
      decide

/-- The rate limit check does not fail with the answer that an `external_id` exists. -/
theorem checkCustRateLimit_isDuplicate {invoices : Invoices} {windows : List RateWindow}
    {custId : String} {extraSats : Int} {now : Datetime} {failure : Failure}
    (hf : checkCustRateLimit invoices windows custId extraSats now = .error failure) :
    failure.isDuplicate = false := by
  have houtcome := checkCustRateLimit_outcome invoices windows custId extraSats now
  rw [hf] at houtcome
  cases houtcome with
  | overflow => rfl
  | exceeded periods overLimit => exact limitExceeded_isDuplicate _ _ _ _

/-- **What an accepted request has shown.** In every window, the sats that the customer has paid
and the request together are within the limit. -/
theorem checkCustRateLimit_ok {invoices : Invoices} {windows : List RateWindow} {custId : String}
    {extraSats : Int} {now : Datetime} {window : RateWindow}
    (hok : checkCustRateLimit invoices windows custId extraSats now = .ok ()) (hne : custId ≠ "")
    (hwindow : window ∈ windows) :
    usedSats invoices custId now window + extraSats ≤ window.sats := by
  have houtcome := checkCustRateLimit_outcome invoices windows custId extraSats now
  rw [hok] at houtcome
  cases houtcome with
  | unchecked h =>
      rcases h with h | rfl
      · exact absurd h hne
      · cases hwindow
  | within h => exact h window hwindow

/-! ## When the answer is the right one -/

section Answer

variable {invoices : Invoices} {windows : List RateWindow} {custId : String} {extraSats : Int}
  {now : Datetime}

/-- What a rejection says about an exceeded window. -/
def exceededText (window : RateWindow) (custId : String) (total : Int) : String :=
  limitText window custId (doubleText total) (doubleText window.sats) false

/-- The answer accepts when every window is within its limit, and otherwise names a window that is
exceeded. -/
structure LimitAnswer (invoices : Invoices) (windows : List RateWindow) (custId : String)
    (extraSats : Int) (now : Datetime) (answer : Except Failure Unit) : Prop where
  accepted : answer = .ok () ↔ ∀ w ∈ windows, usedSats invoices custId now w + extraSats ≤ w.sats
  rejected : ∀ failure, answer = .error failure →
    ∃ error, failure = .api error ∧ error.statusCode = 422 ∧ error.code = "rate_limit_exceeded" ∧
      ∃ w ∈ windows, w.sats < usedSats invoices custId now w + extraSats ∧
        ∃ rest, error.message
          = exceededText w custId (usedSats invoices custId now w + extraSats) ++ rest

variable (invoices windows custId extraSats now) in
/-- Some time or number of the check cannot be expressed: of a window, or of the time at which the
first document leaves an exceeded one. -/
def LimitOverflow : Prop :=
  ∃ w ∈ windows, WindowOverflow invoices custId extraSats now w ∨
    (Exceeded invoices custId extraSats now w ∧
      ∃ p ∈ oldest (docsIn invoices custId now w), ¬IsDatetime (p.1.val + hours w.hours))

variable (invoices windows custId extraSats now) in
/-- Some exceeded window is the last one of its hours. -/
def LastExceeded : Prop :=
  ∃ before w after, windows = before ++ w :: after ∧ Exceeded invoices custId extraSats now w ∧
    ∀ v ∈ after, v.hours ≠ w.hours

/-- The periods that are kept: of several windows with one length, the last one. -/
theorem mem_periodsOf {key : String} {result : PeriodResult} :
    (key, result) ∈
        (periodsOf (windows.map (resultOf invoices custId extraSats now))).items ↔
      ∃ before w after, windows = before ++ w :: after ∧ key = toString w.hours ∧
        result = (resultOf invoices custId extraSats now w).result ∧
        ∀ v ∈ after, v.hours ≠ w.hours := by
  rw [periodsOf, Dict.mem_items_ofList, List.map_map]
  constructor
  · rintro ⟨before, after, hmap, hafter⟩
    obtain ⟨before, rest, rfl, rfl, hrest⟩ := List.map_eq_append_iff.mp hmap
    obtain ⟨w, after, rfl, hw, rfl⟩ := List.map_eq_cons_iff.mp hrest
    obtain ⟨rfl, rfl⟩ := Prod.mk.inj hw
    refine ⟨before, w, after, rfl, rfl, rfl, ?_⟩
    intro v hv heq
    exact hafter _ (List.mem_map_of_mem hv) (congrArg toString heq)
  · rintro ⟨before, w, after, rfl, rfl, rfl, hafter⟩
    refine ⟨_, _, by rw [List.map_append, List.map_cons]; rfl, ?_⟩
    intro p hp
    obtain ⟨v, hv, rfl⟩ := List.mem_map.mp hp
    exact fun heq => hafter v hv (Numeral.toString_injective heq)

/-- The windows over the limit, and the first time at which a document leaves one of them. -/
theorem oldest_mem {docs : List InvoiceDoc} {p : Stamp × InvoiceDoc} (h : p ∈ oldest docs) :
    p.2 ∈ docs ∧ p.2.settledAt = some p.1 := by
  induction docs with
  | nil => cases h
  | cons doc rest ih =>
      rw [oldest] at h
      cases hsettled : doc.settledAt with
      | none =>
          simp only [hsettled] at h
          exact ⟨List.mem_cons_of_mem _ (ih h).1, (ih h).2⟩
      | some t =>
          cases hrest : oldest rest with
          | none =>
              simp only [hsettled, hrest] at h
              cases h
              exact ⟨List.mem_cons_self, hsettled⟩
          | some q =>
              simp only [hsettled, hrest] at h
              split_ifs at h
              · cases h
                exact ⟨List.mem_cons_of_mem _ (ih hrest).1, (ih hrest).2⟩
              · cases h
                exact ⟨List.mem_cons_self, hsettled⟩

theorem mem_docsIn {window : RateWindow} {doc : InvoiceDoc}
    (h : doc ∈ docsIn invoices custId now window) : ∃ id, invoices.lookup id = some doc := by
  obtain ⟨⟨id, doc⟩, hmem, rfl⟩ := List.mem_map.mp h
  exact ⟨id, (Collection.mem_query.mp hmem).1⟩

theorem abs_lt_overflow_of_bsonInt64 {n : Int} (h : bsonInt64 n = true) :
    |(n : ℚ)| < Binary64.overflow := by
  have hle : |n| ≤ 2 ^ 63 := by
    simp only [bsonInt64, Bool.and_eq_true, decide_eq_true_eq] at h
    exact abs_le.mpr ⟨h.1, h.2.le⟩
  exact Binary64.lt_overflow (k := 63) (by norm_num) (by exact_mod_cast hle)

variable (invoices windows custId extraSats now) in
/-- The results of the exceeded windows. -/
def overLimit : List WindowResult :=
  (windows.filter (Exceeded invoices custId extraSats now)).map
    (resultOf invoices custId extraSats now)

variable (invoices windows custId extraSats now) in
/-- The first expiry among the exceeded windows, with the sats that it frees. -/
def soonest : Option (Datetime × Int) :=
  ((overLimit invoices windows custId extraSats now).filterMap expiryOf).foldl
    (List.argAux fun a b => a.1 < b.1) none

theorem soonest_mem {p : Datetime × Int}
    (h : soonest invoices windows custId extraSats now = some p) :
    ∃ r ∈ overLimit invoices windows custId extraSats now, p ∈ expiryOf r := by
  have hargmin : p ∈
      ((overLimit invoices windows custId extraSats now).filterMap expiryOf).argmin Prod.fst := h
  exact List.mem_filterMap.mp (List.argmin_mem hargmin)

/-- The steps of a rejection, when the times can be expressed. -/
theorem limitError_eq
    (hstored : ∀ id doc, invoices.lookup id = some doc → bsonInt64 (satsOf doc) = true)
    (hlate : ∀ r ∈ overLimit invoices windows custId extraSats now, ∀ p ∈ expiryOf r,
      IsDatetime p.1) (periods : Dict String PeriodResult) :
    ∃ text, nextLimitText now (soonest invoices windows custId extraSats now) = .ok text ∧
      limitError custId now periods (overLimit invoices windows custId extraSats now) =
        match periods.items.find? (fun p => !p.2.limitOk) with
        | none => .error (.crash "coroutine raised StopIteration")
        | some (_, firstOver) => .ok (rejection custId periods firstOver
            (soonest invoices windows custId extraSats now) text) := by
  have htext : ∃ text, nextLimitText now (soonest invoices windows custId extraSats now)
      = .ok text := by
    cases hsoonest : soonest invoices windows custId extraSats now with
    | none => exact ⟨_, rfl⟩
    | some p =>
        refine nextLimitText_some_ok (abs_lt_overflow_of_bsonInt64 ?_)
        obtain ⟨r, hr, hexpiry⟩ := soonest_mem hsoonest
        obtain ⟨w, -, rfl⟩ := List.mem_map.mp hr
        obtain ⟨q, hq, rfl⟩ := Option.map_eq_some_iff.mp hexpiry
        obtain ⟨id, hdoc⟩ := mem_docsIn (oldest_mem hq).1
        exact hstored id _ hdoc
  obtain ⟨text, htext⟩ := htext
  refine ⟨text, htext, ?_⟩
  have hsoonest : soonestExpiry (overLimit invoices windows custId extraSats now) none
      = .ok (soonest invoices windows custId extraSats now) := soonestExpiry_ok hlate none
  unfold limitError
  simp only [hsoonest, htext, bind, Except.bind]
  rfl

/-- A document leaves an exceeded window at a time that cannot be expressed. -/
theorem late_iff : (∃ r ∈ overLimit invoices windows custId extraSats now, ∃ p ∈ expiryOf r,
      ¬IsDatetime p.1) ↔
    ∃ w ∈ windows, Exceeded invoices custId extraSats now w ∧
      ∃ p ∈ oldest (docsIn invoices custId now w), ¬IsDatetime (p.1.val + hours w.hours) := by
  constructor
  · rintro ⟨r, hr, p, hp, hnot⟩
    obtain ⟨w, hw, rfl⟩ := List.mem_map.mp hr
    obtain ⟨hw, hover⟩ := List.mem_filter.mp hw
    obtain ⟨q, hq, rfl⟩ := Option.map_eq_some_iff.mp hp
    exact ⟨w, hw, of_decide_eq_true hover, q, hq, hnot⟩
  · rintro ⟨w, hw, hover, q, hq, hnot⟩
    have hmem : resultOf invoices custId extraSats now w
        ∈ overLimit invoices windows custId extraSats now :=
      List.mem_map_of_mem (List.mem_filter.mpr ⟨hw, decide_eq_true hover⟩)
    exact ⟨_, hmem, _, Option.map_eq_some_iff.mpr ⟨q, hq, rfl⟩, hnot⟩

/-- A period over the limit is that of an exceeded window, the last one of its hours. -/
theorem mem_periodsOf_over {key : String} {firstOver : PeriodResult}
    (hmem : (key, firstOver) ∈
      (periodsOf (windows.map (resultOf invoices custId extraSats now))).items)
    (hover : firstOver.limitOk = false) :
    ∃ before w after, windows = before ++ w :: after ∧
      Exceeded invoices custId extraSats now w ∧ (∀ v ∈ after, v.hours ≠ w.hours) ∧
      firstOver.limitText
        = exceededText w custId (usedSats invoices custId now w + extraSats) := by
  obtain ⟨before, w, after, hsplit, -, rfl, hlast⟩ := mem_periodsOf.mp hmem
  have hexceeded : ¬usedSats invoices custId now w + extraSats ≤ w.sats := of_decide_eq_false hover
  refine ⟨before, w, after, hsplit, not_le.mp hexceeded, hlast, ?_⟩
  show limitText w custId _ _ (decide (usedSats invoices custId now w + extraSats ≤ w.sats)) = _
  rw [decide_eq_false hexceeded]
  rfl

/-- Whether a period over the limit is found. -/
theorem find_periodsOf_eq_none :
    (periodsOf (windows.map (resultOf invoices custId extraSats now))).items.find?
        (fun p => !p.2.limitOk) = none ↔
      ¬LastExceeded invoices windows custId extraSats now := by
  rw [List.find?_eq_none]
  constructor
  · rintro hnone ⟨before, w, after, hsplit, hover, hlast⟩
    have hmem : (toString w.hours, (resultOf invoices custId extraSats now w).result) ∈
        (periodsOf (windows.map (resultOf invoices custId extraSats now))).items :=
      mem_periodsOf.mpr ⟨before, w, after, hsplit, rfl, rfl, hlast⟩
    refine hnone _ hmem ?_
    show (!decide (usedSats invoices custId now w + extraSats ≤ w.sats)) = true
    rw [decide_eq_false (not_le.mpr hover)]
    rfl
  · rintro hnot ⟨key, firstOver⟩ hmem hover
    obtain ⟨before, w, after, hsplit, hexceeded, hlast, -⟩ :=
      mem_periodsOf_over hmem (by simpa using hover)
    exact hnot ⟨before, w, after, hsplit, hexceeded, hlast⟩

/-- A rejection finds its text if and only if some exceeded window is the last of its hours. -/
theorem limitAnswer_exceeded_iff
    (hstored : ∀ id doc, invoices.lookup id = some doc → bsonInt64 (satsOf doc) = true)
    (hlate : ¬∃ w ∈ windows, Exceeded invoices custId extraSats now w ∧
      ∃ p ∈ oldest (docsIn invoices custId now w), ¬IsDatetime (p.1.val + hours w.hours)) :
    LimitAnswer invoices windows custId extraSats now (.error (limitExceeded custId now
        (periodsOf (windows.map (resultOf invoices custId extraSats now)))
        (overLimit invoices windows custId extraSats now))) ↔
      LastExceeded invoices windows custId extraSats now := by
  rw [← late_iff] at hlate
  obtain ⟨text, -, herror⟩ := limitError_eq hstored
    (fun r hr p hp => by_contra fun hnot => hlate ⟨r, hr, p, hp, hnot⟩)
    (periodsOf (windows.map (resultOf invoices custId extraSats now)))
  rw [limitExceeded, herror]
  cases hfind : (periodsOf (windows.map (resultOf invoices custId extraSats now))).items.find?
      (fun p => !p.2.limitOk) with
  | none =>
      refine iff_of_false ?_ (find_periodsOf_eq_none.mp hfind)
      intro hanswer
      obtain ⟨error, heq, -⟩ := hanswer.rejected _ rfl
      cases heq
  | some found =>
      obtain ⟨key, firstOver⟩ := found
      obtain ⟨before, w, after, hsplit, hover, hlast, htext⟩ := mem_periodsOf_over
        (List.mem_of_find?_eq_some hfind) (by simpa using List.find?_some hfind)
      have hw : w ∈ windows := hsplit ▸ List.mem_append_right _ List.mem_cons_self
      refine iff_of_true ⟨iff_of_false nofun ?_, ?_⟩ ⟨before, w, after, hsplit, hover, hlast⟩
      · exact fun hwithin => absurd (hwithin w hw) (not_le.mpr hover)
      · rintro failure ⟨⟩
        refine ⟨_, rfl, rfl, rfl, w, hw, hover, ?_⟩
        show ∃ rest, (if text ≠ "" then firstOver.limitText ++ ". " ++ text
          else firstOver.limitText) = _
        rw [← htext]
        split_ifs
        · exact ⟨". " ++ text, String.append_assoc⟩
        · exact ⟨"", String.append_empty.symm⟩

/-- **The answer is the right one** if and only if every time and number can be expressed, and some
exceeded window, if there is one, is the last of its hours. -/
theorem limitAnswer_iff (hcust : custId ≠ "")
    (hstored : ∀ id doc, invoices.lookup id = some doc → bsonInt64 (satsOf doc) = true) :
    LimitAnswer invoices windows custId extraSats now
        (checkCustRateLimit invoices windows custId extraSats now) ↔
      ¬LimitOverflow invoices windows custId extraSats now ∧
        ((∃ w ∈ windows, Exceeded invoices custId extraSats now w) →
          LastExceeded invoices windows custId extraSats now) := by
  have hcrash : ∀ message, ¬LimitAnswer invoices windows custId extraSats now
      (.error (.crash message)) := by
    intro message hanswer
    obtain ⟨error, heq, -⟩ := hanswer.rejected _ rfl
    cases heq
  by_cases hoverflow : ∃ w ∈ windows, WindowOverflow invoices custId extraSats now w
  · rw [checkCustRateLimit_overflow hcust hoverflow]
    obtain ⟨w, hw, hover⟩ := hoverflow
    exact iff_of_false (hcrash _) (fun h => h.1 ⟨w, hw, Or.inl hover⟩)
  have hnot : ∀ w ∈ windows, ¬WindowOverflow invoices custId extraSats now w :=
    fun w hw hover => hoverflow ⟨w, hw, hover⟩
  rw [checkCustRateLimit_eq hcust hnot]
  by_cases hexceeded : ∃ w ∈ windows, Exceeded invoices custId extraSats now w
  · rw [if_pos hexceeded]
    by_cases hlate : ∃ w ∈ windows, Exceeded invoices custId extraSats now w ∧
        ∃ p ∈ oldest (docsIn invoices custId now w), ¬IsDatetime (p.1.val + hours w.hours)
    · -- the first expiry is not found
      have hcrashed : limitError custId now
          (periodsOf (windows.map (resultOf invoices custId extraSats now)))
          (overLimit invoices windows custId extraSats now) = .error (.crash "OverflowError") := by
        rw [limitError, soonestExpiry_error (late_iff.mpr hlate)]
        rfl
      obtain ⟨w, hw, hover, p, hp, hnot⟩ := hlate
      refine iff_of_false ?_ (fun h => h.1 ⟨w, hw, Or.inr ⟨hover, p, hp, hnot⟩⟩)
      show ¬LimitAnswer _ _ _ _ _ (.error (limitExceeded custId now _ (overLimit _ _ _ _ _)))
      rw [limitExceeded, hcrashed]
      exact hcrash _
    · rw [show (windows.filter _).map _ = overLimit invoices windows custId extraSats now from rfl,
        limitAnswer_exceeded_iff hstored hlate]
      constructor
      · intro hlast
        refine ⟨?_, fun _ => hlast⟩
        rintro ⟨w, hw, hover | hover⟩
        · exact hnot w hw hover
        · exact hlate ⟨w, hw, hover⟩
      · exact fun h => h.2 hexceeded
  · rw [if_neg hexceeded]
    have hwithin : ∀ w ∈ windows, usedSats invoices custId now w + extraSats ≤ w.sats :=
      fun w hw => not_lt.mp (fun hlt => hexceeded ⟨w, hw, hlt⟩)
    refine iff_of_true ⟨iff_of_true rfl hwithin, nofun⟩ ⟨?_, fun h => absurd h hexceeded⟩
    rintro ⟨w, hw, hover | ⟨hover, -⟩⟩
    · exact hnot w hw hover
    · exact hexceeded ⟨w, hw, hover⟩

end Answer

/-! ## Two invoices settled by one tick

A customer has paid two invoices of 100000 sats, and a tick has settled both. An hour later the
customer asks for another thousand. -/

def fourHours : RateWindow := ⟨4, 150000⟩

def paidAtEpoch : InvoiceDoc :=
  { sampleInvoice with
    custId := some "alice", state := .SETTLED, satsCredited := some 100000
    settledAt := some (Datetime.stored 0) }

def bothPaid : Invoices := AList.insert 2 paidAtEpoch (AList.insert 1 paidAtEpoch ∅)

def bothPaidCheck : LimitCheck where
  custId := "alice"
  limitOk := false
  nextLimitExpiry := "Next limit expires in: 3h 0m, freeing 100,000 sats"
  expiry := some (hours 4)
  satsFreed := 100000
  periods := [("4",
    { hours := 4, limitHours := 4, limitSats := 150000, sats := 201000, satsPaid := 200000
      satsRequested := 1000, limitOk := false, limitPercent := 134
      limitText := "Lightning conversions for alice in the last 4 hours: " ++
        "201,000 sats (limit: 150,000 sats, exceeded)" })]

def bothPaidError : ApiError where
  statusCode := 422
  code := "rate_limit_exceeded"
  message := "Lightning conversions for alice in the last 4 hours: " ++
    "201,000 sats (limit: 150,000 sats, exceeded). " ++
    "Next limit expires in: 3h 0m, freeing 100,000 sats"
  extra := some bothPaidCheck

theorem rejected_bothPaid : checkCustRateLimit bothPaid [fourHours] "alice" 1000 (hours 1)
    = .error (.api bothPaidError) := by decide +kernel

theorem satsOf_bothPaid {id : ObjectId} {doc : InvoiceDoc} (h : bothPaid.lookup id = some doc) :
    satsOf doc = 100000 := by
  have hall : ∀ e ∈ Collection.docs bothPaid, satsOf e.2 = 100000 := by decide
  exact hall (id, doc) (Collection.mem_docs.mpr h)

/-- The window is exceeded, and the request is rejected with its text. -/
theorem limitAnswer_iff_worked :
    Exceeded bothPaid "alice" 1000 (hours 1) fourHours ∧
    checkCustRateLimit bothPaid [fourHours] "alice" 1000 (hours 1)
      = .error (.api bothPaidError) ∧
    LimitAnswer bothPaid [fourHours] "alice" 1000 (hours 1)
      (checkCustRateLimit bothPaid [fourHours] "alice" 1000 (hours 1)) := by
  have hexceeded : Exceeded bothPaid "alice" 1000 (hours 1) fourHours := by decide
  refine ⟨hexceeded, rejected_bothPaid, (limitAnswer_iff (by decide)
    (fun _ _ hdoc => by rw [satsOf_bothPaid hdoc]; decide)).mpr ⟨?_, fun _ => ?_⟩⟩
  · rintro ⟨w, hw, hover⟩
    obtain rfl := List.mem_singleton.mp hw
    rcases hover with (hstart | hsats) | ⟨-, hlate⟩
    · exact hstart ⟨by decide, by decide⟩
    · revert hsats
      unfold SatsOverflow
      decide +kernel
    · obtain ⟨p, hp, hlate⟩ := hlate
      obtain rfl := Option.some.inj hp
      exact hlate ⟨by decide, by decide⟩
  · exact ⟨[], fourHours, [], rfl, hexceeded, nofun⟩

/-- Two windows of four hours, of 100 and of 1000 sats: 500 sats exceed the first one, and the
period that is kept is that of the second one. -/
theorem colliding_windows :
    ¬LimitAnswer ∅ [⟨4, 100⟩, ⟨4, 1000⟩] "alice" 500 0
      (checkCustRateLimit ∅ [⟨4, 100⟩, ⟨4, 1000⟩] "alice" 500 0) := by
  have hraised : checkCustRateLimit ∅ [⟨4, 100⟩, ⟨4, 1000⟩] "alice" 500 0
      = .error (.crash "coroutine raised StopIteration") := by decide +kernel
  intro hanswer
  obtain ⟨error, heq, -⟩ := hanswer.rejected _ hraised
  cases heq

end V4vappDash
