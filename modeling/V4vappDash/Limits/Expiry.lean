import V4vappDash.Limits.Answer

set_option autoImplicit false

/-! # The next expiry of a rejection

A rejection says when the first document leaves one of the exceeded windows, and how many sats
that frees. Until then no document leaves an exceeded window, so the request stays rejected
(`rejected_until`). The sats are those of one document, also when several were settled at the same
instant and leave the window together: `expiry_iff`.
-/

namespace V4vappDash

section Expiry

variable {invoices : Invoices} {windows : List RateWindow} {custId : String} {extraSats : Int}
  {now t e : Datetime} {freed : Int} {w : RateWindow}

/-! ## Documents leave a window -/

/-- Later on, the documents of a window are some of those it has now. -/
theorem settledSince_docsIn_of_le (hle : now ≤ t) :
    settledSince (docsIn invoices custId now w) (t - hours w.hours)
      = docsIn invoices custId t w :=
  settledSince_query invoices custId (Int.sub_le_sub_right hle _)

theorem settledAt_of_mem_docsIn {doc : InvoiceDoc} (h : doc ∈ docsIn invoices custId now w) :
    ∃ s, doc.settledAt = some s ∧ now - hours w.hours ≤ s.val := by
  obtain ⟨⟨id, doc⟩, hmem, rfl⟩ := List.mem_map.mp h
  have hsettled := ((Bool.and_eq_true _ _).mp (Collection.mem_query.mp hmem).2).2
  cases hs : doc.settledAt with
  | none => simp [hs] at hsettled
  | some s =>
      simp only [hs, decide_eq_true_eq] at hsettled
      exact ⟨s, rfl, hsettled⟩

theorem oldest_le {docs : List InvoiceDoc} {doc : InvoiceDoc} (hdoc : doc ∈ docs) {s : Stamp}
    (hs : doc.settledAt = some s) : ∃ p ∈ oldest docs, p.1.val ≤ s.val := by
  induction docs with
  | nil => cases hdoc
  | cons first rest ih =>
      rw [oldest]
      rcases List.mem_cons.mp hdoc with rfl | hdoc
      · cases hrest : oldest rest with
        | none =>
            simp only [hs]
            exact ⟨_, rfl, le_rfl⟩
        | some q =>
            simp only [hs]
            split_ifs with hlt
            · exact ⟨_, rfl, hlt.le⟩
            · exact ⟨_, rfl, le_rfl⟩
      · obtain ⟨q, hq, hle⟩ := ih hdoc
        rw [Option.mem_def.mp hq]
        cases hfirst : first.settledAt with
        | none => exact ⟨q, rfl, hle⟩
        | some u =>
            dsimp only
            split_ifs with hlt
            · exact ⟨_, rfl, hle⟩
            · exact ⟨_, rfl, (not_lt.mp hlt).trans hle⟩

section Until

/-! ## Until the first document leaves -/

/-- The first expiry is that of an exceeded window, and no later than any other. -/
theorem soonest_le (hsoonest : soonest invoices windows custId extraSats now = some (e, freed))
    (hw : w ∈ windows) (hover : Exceeded invoices custId extraSats now w)
    {p : Stamp × InvoiceDoc} (hp : p ∈ oldest (docsIn invoices custId now w)) :
    e ≤ p.1.val + hours w.hours := by
  have hmem : resultOf invoices custId extraSats now w
      ∈ overLimit invoices windows custId extraSats now :=
    List.mem_map_of_mem (List.mem_filter.mpr ⟨hw, decide_eq_true hover⟩)
  have hexpiry : (p.1.val + hours w.hours, satsOf p.2) ∈
      (overLimit invoices windows custId extraSats now).filterMap expiryOf :=
    List.mem_filterMap.mpr ⟨_, hmem, Option.map_eq_some_iff.mpr ⟨p, hp, rfl⟩⟩
  have hargmin : (e, freed) ∈
      ((overLimit invoices windows custId extraSats now).filterMap expiryOf).argmin Prod.fst :=
    hsoonest
  exact List.le_of_mem_argmin hexpiry hargmin

/-- Until the first expiry an exceeded window keeps its documents. -/
theorem docsIn_until (hsoonest : soonest invoices windows custId extraSats now = some (e, freed))
    (hw : w ∈ windows) (hover : Exceeded invoices custId extraSats now w) (hnow : now ≤ t)
    (ht : t ≤ e) : docsIn invoices custId t w = docsIn invoices custId now w := by
  rw [← settledSince_docsIn_of_le hnow, settledSince, List.filter_eq_self]
  intro doc hdoc
  obtain ⟨s, hs, -⟩ := settledAt_of_mem_docsIn hdoc
  obtain ⟨p, hp, hle⟩ := oldest_le hdoc hs
  have hlast := soonest_le hsoonest hw hover hp
  simp only [hs, decide_eq_true_eq]
  calc t - hours w.hours
      ≤ e - hours w.hours := Int.sub_le_sub_right ht _
    _ ≤ p.1.val := sub_le_iff_le_add.mpr hlast
    _ ≤ s.val := hle

theorem usedSats_until (hsoonest : soonest invoices windows custId extraSats now = some (e, freed))
    (hw : w ∈ windows) (hover : Exceeded invoices custId extraSats now w) (hnow : now ≤ t)
    (ht : t ≤ e) : usedSats invoices custId t w = usedSats invoices custId now w := by
  rw [← sum_docsIn, ← sum_docsIn, docsIn_until hsoonest hw hover hnow ht]

variable (hnonneg : ∀ id doc, invoices.lookup id = some doc → 0 ≤ satsOf doc)

include hnonneg in
theorem satsOf_nonneg {doc : InvoiceDoc} (h : doc ∈ docsIn invoices custId now w) :
    0 ≤ satsOf doc := by
  obtain ⟨id, hdoc⟩ := mem_docsIn h
  exact hnonneg id doc hdoc

include hnonneg in
theorem usedSats_nonneg : 0 ≤ usedSats invoices custId now w := by
  rw [← sum_docsIn]
  refine List.sum_nonneg ?_
  intro sats hsats
  obtain ⟨doc, hdoc, rfl⟩ := List.mem_map.mp hsats
  exact satsOf_nonneg hnonneg hdoc

include hnonneg in
/-- What a customer has used of a window falls with time. -/
theorem usedSats_le (hle : now ≤ t) :
    usedSats invoices custId t w ≤ usedSats invoices custId now w := by
  rw [← sum_docsIn, ← sum_docsIn, ← settledSince_docsIn_of_le hle]
  refine List.Sublist.sum_le_sum (List.filter_sublist.map satsOf) ?_
  intro sats hsats
  obtain ⟨doc, hdoc, rfl⟩ := List.mem_map.mp hsats
  exact satsOf_nonneg hnonneg hdoc

include hnonneg in
/-- Until the first expiry the same windows are exceeded. -/
theorem exceeded_until_iff
    (hsoonest : soonest invoices windows custId extraSats now = some (e, freed))
    (hw : w ∈ windows) (hnow : now ≤ t) (ht : t ≤ e) :
    Exceeded invoices custId extraSats t w ↔ Exceeded invoices custId extraSats now w := by
  constructor
  · intro hover
    exact lt_of_lt_of_le hover (Int.add_le_add_right (usedSats_le hnonneg hnow) _)
  · intro hover
    unfold Exceeded
    rw [usedSats_until hsoonest hw hover hnow ht]
    exact hover

include hnonneg in
theorem overLimit_until
    (hsoonest : soonest invoices windows custId extraSats now = some (e, freed))
    (hnow : now ≤ t) (ht : t ≤ e) : overLimit invoices windows custId extraSats t
      = overLimit invoices windows custId extraSats now := by
  have hfilter : windows.filter (Exceeded invoices custId extraSats t)
      = windows.filter (Exceeded invoices custId extraSats now) :=
    List.filter_congr fun w hw => by
      rw [decide_eq_decide]
      exact exceeded_until_iff hnonneg hsoonest hw hnow ht
  rw [overLimit, overLimit, hfilter]
  refine List.map_congr_left fun w hw => ?_
  obtain ⟨hw, hover⟩ := List.mem_filter.mp hw
  rw [resultOf, resultOf, docsIn_until hsoonest hw (of_decide_eq_true hover) hnow ht,
    usedSats_until hsoonest hw (of_decide_eq_true hover) hnow ht]

include hnonneg in
/-- Until the first expiry every window that can be expressed now can be expressed. -/
theorem not_windowOverflow_until (hhours : ∀ w ∈ windows, 0 < w.hours) (hextra : 1 ≤ extraSats)
    (hnot : ∀ w ∈ windows, ¬WindowOverflow invoices custId extraSats now w)
    (hsoonest : soonest invoices windows custId extraSats now = some (e, freed))
    (hmax : e ≤ MAX_DATETIME) (hnow : now ≤ t) (ht : t ≤ e) (hw : w ∈ windows) :
    ¬WindowOverflow invoices custId extraSats t w := by
  obtain ⟨hstart, hsats⟩ := not_or.mp (hnot w hw)
  have hback : 0 ≤ hours w.hours := by
    have hpos := hhours w hw
    unfold hours
    omega
  refine not_or.mpr ⟨not_not.mpr ⟨?_, ?_⟩, ?_⟩
  · exact (not_not.mp hstart).1.trans (Int.sub_le_sub_right hnow _)
  · exact (Int.sub_le_self _ hback).trans (ht.trans hmax)
  · by_cases hover : Exceeded invoices custId extraSats now w
    · rwa [usedSats_until hsoonest hw hover hnow ht]
    · -- a window within its limit stays within it
      have hused : 0 ≤ usedSats invoices custId t w := usedSats_nonneg hnonneg
      have hwithin : usedSats invoices custId t w + extraSats ≤ w.sats :=
        (Int.add_le_add_right (usedSats_le hnonneg hnow) _).trans (not_lt.mp hover)
      simp only [SatsOverflow, not_or, not_le] at hsats
      exact not_satsOverflow (by omega) hwithin hsats.2.1

variable (hstored : ∀ id doc, invoices.lookup id = some doc → bsonInt64 (satsOf doc) = true)

include hstored in
/-- What a rejection has shown: every time and number could be expressed, and the expiry it names
is the first one. -/
theorem soonest_of_rejected (hcust : custId ≠ "") {error : ApiError} {check : LimitCheck}
    (hreject : checkCustRateLimit invoices windows custId extraSats now = .error (.api error))
    (hcheck : error.extra = some check) (hexpiry : check.expiry = some e) :
    (∀ w ∈ windows, ¬WindowOverflow invoices custId extraSats now w) ∧
      (∀ r ∈ overLimit invoices windows custId extraSats now, ∀ p ∈ expiryOf r, IsDatetime p.1) ∧
      soonest invoices windows custId extraSats now = some (e, check.satsFreed) := by
  have hnot : ∀ w ∈ windows, ¬WindowOverflow invoices custId extraSats now w := by
    intro w hw hover
    rw [checkCustRateLimit_overflow hcust ⟨w, hw, hover⟩] at hreject
    cases hreject
  rw [checkCustRateLimit_eq hcust hnot] at hreject
  split_ifs at hreject
  have herror := Except.error.inj hreject
  change limitExceeded custId now _ (overLimit invoices windows custId extraSats now) = _ at herror
  have hlate : ∀ r ∈ overLimit invoices windows custId extraSats now, ∀ p ∈ expiryOf r,
      IsDatetime p.1 := by
    intro r hr p hp
    by_contra hnot
    rw [limitExceeded, limitError, soonestExpiry_error ⟨r, hr, p, hp, hnot⟩] at herror
    cases herror
  obtain ⟨text, -, hsteps⟩ := limitError_eq hstored hlate
    (periodsOf (windows.map (resultOf invoices custId extraSats now)))
  refine ⟨hnot, hlate, ?_⟩
  cases hfind : (periodsOf (windows.map (resultOf invoices custId extraSats now))).items.find?
      (fun p => !p.2.limitOk) with
  | none =>
      rw [limitExceeded, hsteps, hfind] at herror
      cases herror
  | some found =>
      rw [limitExceeded, hsteps, hfind] at herror
      cases herror
      obtain rfl := Option.some.inj hcheck
      cases hsoonest : soonest invoices windows custId extraSats now with
      | none => simp [hsoonest] at hexpiry
      | some p =>
          obtain rfl : p.1 = e := by simpa [hsoonest] using hexpiry
          rfl

theorem lastExceeded_of_nodup (hdistinct : (windows.map RateWindow.hours).Nodup)
    (hw : w ∈ windows) (hover : Exceeded invoices custId extraSats now w) :
    LastExceeded invoices windows custId extraSats now := by
  obtain ⟨before, after, rfl⟩ := List.append_of_mem hw
  refine ⟨before, w, after, rfl, hover, ?_⟩
  intro v hv heq
  rw [List.map_append, List.map_cons] at hdistinct
  have hnotMem := (List.nodup_cons.mp hdistinct.of_append_right).1
  exact hnotMem (heq ▸ List.mem_map_of_mem hv)

include hnonneg hstored in
/-- **A rejection lasts.** Until the first expiry the same request is rejected. -/
theorem rejected_until (hcust : custId ≠ "") (hhours : ∀ w ∈ windows, 0 < w.hours)
    (hdistinct : (windows.map RateWindow.hours).Nodup) (hextra : 1 ≤ extraSats)
    (hnot : ∀ w ∈ windows, ¬WindowOverflow invoices custId extraSats now w)
    (hlate : ∀ r ∈ overLimit invoices windows custId extraSats now, ∀ p ∈ expiryOf r,
      IsDatetime p.1)
    (hsoonest : soonest invoices windows custId extraSats now = some (e, freed))
    (hnow : now ≤ t) (ht : t ≤ e) :
    ∃ error, checkCustRateLimit invoices windows custId extraSats t = .error (.api error) ∧
      error.code = "rate_limit_exceeded" := by
  obtain ⟨r, hr, hexpiry⟩ := soonest_mem hsoonest
  have hmax : e ≤ MAX_DATETIME := (hlate r hr _ hexpiry).2
  obtain ⟨w, hw, -⟩ := List.mem_map.mp hr
  obtain ⟨hw, hover⟩ := List.mem_filter.mp hw
  have hover : Exceeded invoices custId extraSats t w :=
    (exceeded_until_iff hnonneg hsoonest hw hnow ht).mpr (of_decide_eq_true hover)
  have hnot' : ∀ w ∈ windows, ¬WindowOverflow invoices custId extraSats t w := fun w hw =>
    not_windowOverflow_until hnonneg hhours hextra hnot hsoonest hmax hnow ht hw
  rw [← overLimit_until hnonneg hsoonest hnow ht] at hlate
  have hanswer := (limitAnswer_exceeded_iff hstored (fun hnot => by
    obtain ⟨r, hr, p, hp, hnot⟩ := late_iff.mpr hnot
    exact hnot (hlate r hr p hp))).mpr (lastExceeded_of_nodup hdistinct hw hover)
  obtain ⟨error, herror, -, hcode, -⟩ := hanswer.rejected _ rfl
  refine ⟨error, ?_, hcode⟩
  rw [checkCustRateLimit_eq hcust hnot', if_pos ⟨w, hw, hover⟩, ← herror]
  rfl

end Until

/-! ## The sats that leave together -/

/-- The oldest document is the first one that was settled at its time. -/
theorem find_oldest {docs : List InvoiceDoc} {p : Stamp × InvoiceDoc} (h : p ∈ oldest docs) :
    docs.find? (fun doc => doc.settledAt = some p.1) = some p.2 := by
  induction docs with
  | nil => cases h
  | cons first rest ih =>
      rw [oldest] at h
      cases hfirst : first.settledAt with
      | none =>
          simp only [hfirst] at h
          rw [List.find?_cons_of_neg (by simp [hfirst])]
          exact ih h
      | some u =>
          cases hrest : oldest rest with
          | none =>
              simp only [hfirst, hrest] at h
              cases h
              exact List.find?_cons_of_pos (by simp [hfirst])
          | some q =>
              simp only [hfirst, hrest] at h
              split_ifs at h with hlt
              · cases h
                have hne : u ≠ q.1 := by
                  rintro rfl
                  exact absurd hlt (lt_irrefl _)
                rw [List.find?_cons_of_neg (by simp [hfirst, hne])]
                exact ih hrest
              · cases h
                exact List.find?_cons_of_pos (by simp [hfirst])

/-- The documents that were settled together with the oldest one, in the order of their ids. -/
def settledWithOldest (docs : List InvoiceDoc) : List InvoiceDoc :=
  match oldest docs with
  | some (t, _) => (docs.filter (fun doc => doc.settledAt = some t)).tail
  | none => []

theorem mem_of_mem_settledWithOldest {docs : List InvoiceDoc} {doc : InvoiceDoc}
    (h : doc ∈ settledWithOldest docs) : doc ∈ docs := by
  unfold settledWithOldest at h
  split at h
  · exact List.mem_of_mem_filter (List.mem_of_mem_tail h)
  · cases h

/-- The first document leaves a window from now on. -/
theorem le_expiry {p : Stamp × InvoiceDoc} (hp : p ∈ oldest (docsIn invoices custId now w)) :
    now ≤ p.1.val + hours w.hours := by
  obtain ⟨hmem, hsettled⟩ := oldest_mem hp
  obtain ⟨s, hs, hle⟩ := settledAt_of_mem_docsIn hmem
  obtain rfl : s = p.1 := Option.some.inj (hs.symm.trans hsettled)
  exact sub_le_iff_le_add.mp hle

/-- After its first expiry a window has lost the documents of its oldest time. -/
theorem docsIn_after {p : Stamp × InvoiceDoc} (hp : p ∈ oldest (docsIn invoices custId now w)) :
    docsIn invoices custId (p.1.val + hours w.hours + 1) w
      = (docsIn invoices custId now w).filter (fun doc => ¬doc.settledAt = some p.1) := by
  have hle : now ≤ p.1.val + hours w.hours + 1 := (le_expiry hp).trans (Int.le_add_one le_rfl)
  rw [← settledSince_docsIn_of_le hle, settledSince]
  refine List.filter_congr fun doc hdoc => ?_
  obtain ⟨s, hs, -⟩ := settledAt_of_mem_docsIn hdoc
  obtain ⟨q, hq, hfirst⟩ := oldest_le hdoc hs
  obtain rfl : q = p := Option.some.inj (hq.symm.trans hp)
  have hstart : q.1.val + hours w.hours + 1 - hours w.hours = q.1.val + 1 := by ring
  simp only [hs, Option.some.injEq, decide_eq_decide, hstart, Int.add_one_le_iff]
  constructor
  · rintro hafter rfl
    exact lt_irrefl _ hafter
  · intro hne
    exact lt_of_le_of_ne hfirst (fun heq => hne (GridPoint.ext heq).symm)

/-- What is used of a window falls by the sats of the oldest document and of those that were
settled together with it. -/
theorem usedSats_drop {p : Stamp × InvoiceDoc} (hp : p ∈ oldest (docsIn invoices custId now w)) :
    usedSats invoices custId now w
      = satsOf p.2 + ((settledWithOldest (docsIn invoices custId now w)).map satsOf).sum
        + usedSats invoices custId (p.1.val + hours w.hours + 1) w := by
  have hhead : ((docsIn invoices custId now w).filter
      (fun doc => doc.settledAt = some p.1)).head? = some p.2 := by
    rw [List.head?_filter]
    exact find_oldest hp
  have htogether : (docsIn invoices custId now w).filter (fun doc => doc.settledAt = some p.1)
      = p.2 :: settledWithOldest (docsIn invoices custId now w) := by
    rw [settledWithOldest, Option.mem_def.mp hp]
    exact (List.cons_head?_tail hhead).symm
  have hsplit := List.sum_map_filter_add_sum_map_filter_not
    (fun doc : InvoiceDoc => doc.settledAt = some p.1) satsOf (docsIn invoices custId now w)
  rw [htogether, List.map_cons, List.sum_cons, ← docsIn_after hp, sum_docsIn, sum_docsIn] at hsplit
  exact hsplit.symm

variable (invoices windows custId extraSats now e w) in
/-- The window that the expiry is read from: of the exceeded windows that a document leaves at
that time, the first one. -/
def Determines : Prop :=
  (windows.filter (Exceeded invoices custId extraSats now)).find?
    (fun v => (oldest (docsIn invoices custId now v)).any (fun p => p.1.val + hours v.hours = e))
      = some w

/-- The first of the least elements is the first one that has its value. -/
theorem find_of_argmin {α β : Type} [LinearOrder β] {f : α → β} {l : List α} {p : α}
    (h : l.argmin f = some p) : l.find? (fun q => f q = f p) = some p := by
  induction l using List.reverseRecOn generalizing p with
  | nil => cases h
  | append_singleton l a ih =>
      rw [List.argmin_concat] at h
      rw [List.find?_append]
      cases hl : l.argmin f with
      | none =>
          rw [hl] at h
          obtain rfl := Option.some.inj h
          rw [List.argmin_eq_none.mp hl]
          simp
      | some c =>
          rw [hl] at h
          dsimp only at h
          split_ifs at h with hlt
          · obtain rfl := Option.some.inj h
            have hnone : l.find? (fun q => f q = f a) = none := by
              rw [List.find?_eq_none]
              intro q hq heq
              have hle := List.le_of_mem_argmin hq hl
              rw [of_decide_eq_true heq] at hle
              exact absurd hlt (not_lt.mpr hle)
            rw [hnone]
            simp
          · obtain rfl := Option.some.inj h
            rw [ih hl]
            rfl

theorem exists_determines
    (hsoonest : soonest invoices windows custId extraSats now = some (e, freed)) :
    ∃ w p, Determines invoices windows custId extraSats now e w ∧ w ∈ windows ∧
      Exceeded invoices custId extraSats now w ∧ p ∈ oldest (docsIn invoices custId now w) ∧
      e = p.1.val + hours w.hours ∧ freed = satsOf p.2 := by
  have hargmin : ((overLimit invoices windows custId extraSats now).filterMap expiryOf).argmin
      Prod.fst = some (e, freed) := hsoonest
  have hfind := find_of_argmin hargmin
  rw [overLimit, List.filterMap_map, List.find?_filterMap, Option.bind_eq_some_iff] at hfind
  obtain ⟨w, hw, hexpiry⟩ := hfind
  obtain ⟨p, hp, heq⟩ := Option.map_eq_some_iff.mp hexpiry
  obtain ⟨htime, hsats⟩ := Prod.mk.inj heq
  change p.1.val + hours w.hours = e at htime
  obtain ⟨hwindow, hover⟩ := List.mem_filter.mp (List.mem_of_find?_eq_some hw)
  refine ⟨w, p, ?_, hwindow, of_decide_eq_true hover, hp, htime.symm, hsats.symm⟩
  have hany : ∀ v, ((expiryOf ∘ resultOf invoices custId extraSats now) v).any (fun q => q.1 = e)
      = (oldest (docsIn invoices custId now v)).any (fun q => q.1.val + hours v.hours = e) :=
    fun v => Option.any_map ..
  simp only [hany] at hw
  exact hw

/-- **The sats of an expiry.** A rejection lasts until the expiry that it names; the sats it says
are freed then are those by which the use of the window falls if and only if the documents that
were settled together with the oldest one carry none. -/
theorem expiry_iff (hcust : custId ≠ "")
    (hnonneg : ∀ id doc, invoices.lookup id = some doc → 0 ≤ satsOf doc)
    (hstored : ∀ id doc, invoices.lookup id = some doc → bsonInt64 (satsOf doc) = true)
    (hhours : ∀ w ∈ windows, 0 < w.hours) (hdistinct : (windows.map RateWindow.hours).Nodup)
    (hextra : 1 ≤ extraSats) {error : ApiError} {check : LimitCheck}
    (hreject : checkCustRateLimit invoices windows custId extraSats now = .error (.api error))
    (hcheck : error.extra = some check) (hexpiry : check.expiry = some e) :
    ∃ w, Determines invoices windows custId extraSats now e w ∧
      (((∀ t, now ≤ t → t ≤ e → ∃ error',
          checkCustRateLimit invoices windows custId extraSats t = .error (.api error') ∧
            error'.code = "rate_limit_exceeded") ∧
        check.satsFreed = usedSats invoices custId e w - usedSats invoices custId (e + 1) w) ↔
      ∀ doc ∈ settledWithOldest (docsIn invoices custId now w), satsOf doc = 0) := by
  obtain ⟨hnot, hlate, hsoonest⟩ := soonest_of_rejected hstored hcust hreject hcheck hexpiry
  have hlasts : ∀ t, now ≤ t → t ≤ e → ∃ error',
      checkCustRateLimit invoices windows custId extraSats t = .error (.api error') ∧
        error'.code = "rate_limit_exceeded" :=
    fun t hnow ht => rejected_until hnonneg hstored hcust hhours hdistinct hextra hnot hlate
      hsoonest hnow ht
  obtain ⟨w, p, hdetermines, hw, hover, hp, rfl, hfreed⟩ := exists_determines hsoonest
  refine ⟨w, hdetermines, ?_⟩
  rw [and_iff_right hlasts, usedSats_until hsoonest hw hover (le_expiry hp) le_rfl,
    usedSats_drop hp, hfreed, add_sub_cancel_right, left_eq_add]
  have hsats : ∀ sats ∈ (settledWithOldest (docsIn invoices custId now w)).map satsOf,
      (0 : Int) ≤ sats := by
    intro sats hsats
    obtain ⟨doc, hdoc, rfl⟩ := List.mem_map.mp hsats
    exact satsOf_nonneg hnonneg (mem_of_mem_settledWithOldest hdoc)
  constructor
  · intro hsum doc hdoc
    exact List.all_zero_of_le_zero_le_of_sum_eq_zero hsats hsum (List.mem_map_of_mem hdoc)
  · intro hzero
    exact List.sum_eq_zero (List.forall_mem_map.mpr hzero)

end Expiry

theorem expiry_iff_bothPaid :
    ∃ w, Determines bothPaid [fourHours] "alice" 1000 (hours 1) (hours 4) w ∧
      (((∀ t, hours 1 ≤ t → t ≤ hours 4 → ∃ error',
          checkCustRateLimit bothPaid [fourHours] "alice" 1000 t = .error (.api error') ∧
            error'.code = "rate_limit_exceeded") ∧
        bothPaidCheck.satsFreed = usedSats bothPaid "alice" (hours 4) w
          - usedSats bothPaid "alice" (hours 4 + 1) w) ↔
      ∀ doc ∈ settledWithOldest (docsIn bothPaid "alice" (hours 1) w), satsOf doc = 0) :=
  expiry_iff (by decide) (fun _ _ hdoc => by rw [satsOf_bothPaid hdoc]; decide)
    (fun _ _ hdoc => by rw [satsOf_bothPaid hdoc]; decide) (by decide) (by decide) (by decide)
    rejected_bothPaid rfl rfl

/-- Both documents leave the window at its expiry, and only one is counted. -/
theorem freed_one_of_two :
    ¬∀ error check e, checkCustRateLimit bothPaid [fourHours] "alice" 1000 (hours 1)
        = .error (.api error) → error.extra = some check → check.expiry = some e →
      check.satsFreed = usedSats bothPaid "alice" e fourHours
        - usedSats bothPaid "alice" (e + 1) fourHours := by
  intro h
  exact absurd (h bothPaidError bothPaidCheck (hours 4) rejected_bothPaid rfl rfl) (by decide)

end V4vappDash
