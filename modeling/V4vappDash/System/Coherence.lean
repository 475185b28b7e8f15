import V4vappDash.Api.Cancel
import V4vappDash.Api.Create
import V4vappDash.Watcher.Persist

set_option autoImplicit false

/-! # Coherent invoices

What the fields of a stored invoice say about each other (`Coherent`), and about the time
(`Timely`). Three writers touch an invoice: a create, a cancel, and the watcher's update. Each
keeps these facts: `timely_newInvoice`, `Timely.cancelDoc`, `Timely.update`.
-/

namespace V4vappDash

/-- `t` is the earliest first-seen time among the rows seen before `expiresAt`. -/
structure IsFirstSeen (rows : List (TxRow Stamp)) (expiresAt t : Stamp) : Prop where
  mem : ∃ row ∈ rows, row.detectedAt = t
  lt : t.val < expiresAt.val
  le : ∀ row ∈ rows, row.detectedAt.val < expiresAt.val → t.val ≤ row.detectedAt.val

/-- The fields of a document agree with each other. -/
structure Coherent (doc : InvoiceDoc) : Prop where
  credited_iff_settled : doc.satsCredited ≠ none ↔ doc.settledAt ≠ none
  settled_iff : doc.settledAt ≠ none ↔ doc.state = .SETTLED ∨ doc.state = .OVERPAID
  credited_eq : ∀ sats, doc.satsCredited = some sats → sats = doc.satsRequested
  received : doc.duffsReceived = (doc.txids.map TxRow.duffs).sum
  opened : doc.state = .OPEN → doc.txids = [] ∧ doc.firstSeenAt = none
  seen : doc.state = .DETECTED ∨ doc.state = .SETTLED ∨ doc.state = .OVERPAID ∨
      doc.state = .UNDERPAID →
    ∃ t, doc.firstSeenAt = some t ∧ IsFirstSeen doc.txids doc.expiresAt t ∧
      ∀ s, doc.settledAt = some s → t.val ≤ s.val
  expired : doc.state = .EXPIRED → ∀ row ∈ doc.txids, doc.expiresAt.val ≤ row.detectedAt.val
  canceled_iff : doc.canceledAt ≠ none ↔ doc.state = .CANCELED
  canceled : ∀ t, doc.canceledAt = some t → ∀ row ∈ doc.txids, t.val ≤ row.detectedAt.val
  late_iff : doc.latePayment = true ↔ ∃ row ∈ doc.txids,
    doc.expiresAt.val ≤ row.detectedAt.val ∨
      ∃ t, doc.canceledAt = some t ∧ t.val ≤ row.detectedAt.val

/-- A coherent document, none of whose times lies after `now`. -/
structure Timely (now : Datetime) (doc : InvoiceDoc) : Prop where
  coherent : Coherent doc
  consistent : Consistent doc.txids
  rows_le : ∀ row ∈ doc.txids, row.detectedAt.val ≤ now
  expired_le : doc.state = .EXPIRED → doc.expiresAt.val ≤ now
  canceled_le : ∀ t, doc.canceledAt = some t → t.val ≤ now

theorem Timely.mono {now later : Datetime} {doc : InvoiceDoc} (h : Timely now doc)
    (hle : now ≤ later) : Timely later doc :=
  ⟨h.coherent, h.consistent, fun row hrow => (h.rows_le row hrow).trans hle,
    fun hs => (h.expired_le hs).trans hle, fun t ht => (h.canceled_le t ht).trans hle⟩

/-- A detected document has a recorded output in time. -/
theorem Coherent.seenInTime {doc : InvoiceDoc} (h : Coherent doc) (hs : doc.state = .DETECTED) :
    SeenInTime doc.txids doc.expiresAt := by
  obtain ⟨t, -, hfirst, -⟩ := h.seen (Or.inl hs)
  obtain ⟨row, hrow, rfl⟩ := hfirst.mem
  exact ⟨row, hrow, hfirst.lt⟩

theorem Coherent.canceledAt_eq_none {doc : InvoiceDoc} (h : Coherent doc)
    (hs : doc.state ≠ .CANCELED) : doc.canceledAt = none := by
  by_contra hne
  exact hs (h.canceled_iff.mp hne)

/-! ## Creates and cancels -/

theorem timely_newInvoice (settings : Settings) (body : InvoiceCreate) (pricing : Pricing)
    (address : String) (derivation : Derivation) (created now : Datetime) :
    Timely now (newInvoice settings body pricing address derivation created) := by
  refine ⟨?_, ?_, ?_, ?_, ?_⟩
  · constructor <;> simp [newInvoice]
  · intro r hr
    cases hr
  · intro r hr
    cases hr
  · intro hs
    cases hs
  · intro t ht
    cases ht

theorem Timely.cancelDoc {now : Datetime} {doc : InvoiceDoc} (h : Timely now doc)
    (hc : cancelable doc = true) {at_ : Datetime} (hat : at_ ≤ now) :
    Timely now (cancelDoc at_ doc) := by
  obtain ⟨hopen, -⟩ := cancelable_iff.mp hc
  obtain ⟨hrows, -⟩ := h.coherent.opened hopen
  have hsettled : doc.settledAt = none := by
    by_contra hne
    have := h.coherent.settled_iff.mp hne
    rw [hopen] at this
    simp at this
  have hcredit : doc.satsCredited = none := by
    by_contra hne
    exact (h.coherent.credited_iff_settled.mp hne) hsettled
  have hlate : doc.latePayment = false := by
    rw [← Bool.not_eq_true, h.coherent.late_iff, hrows]
    rintro ⟨row, hrow, -⟩
    cases hrow
  have hreceived : doc.duffsReceived = 0 := by rw [h.coherent.received, hrows]; rfl
  refine ⟨?_, ?_, ?_, ?_, ?_⟩
  · constructor <;> simp [V4vappDash.cancelDoc, hrows, hsettled, hcredit, hlate, hreceived]
  · rw [cancelDoc_txids]; exact h.consistent
  · rw [cancelDoc_txids]; exact h.rows_le
  · intro hs
    cases hs
  · intro t ht
    obtain rfl : Datetime.stored at_ = t := Option.some.inj ht
    calc (Datetime.stored at_).val
        ≤ at_ := stored_le at_
      _ ≤ now := hat

/-! ## The rows of a decision -/

section Rows

variable {outputs : List WatchedOutput}

theorem sum_storedRows (outputs : List WatchedOutput) :
    ((storedRows outputs).map TxRow.duffs).sum = sumDuffs outputs := by
  rw [storedRows, List.map_map, sumDuffs]
  rfl

/-- The sides of a stored time are the same for an output and for the row stored for it. -/
theorem le_stored_detectedAt (t : Stamp) (out : WatchedOutput) :
    t.val ≤ (txDict out).stored.detectedAt.val ↔ t.val ≤ out.detectedAt :=
  le_stored_iff out.detectedAt t

theorem late_storedRows (expiresAt : Stamp) :
    (!(postExpiry expiresAt.val outputs).isEmpty) = true ↔
      ∃ row ∈ storedRows outputs, expiresAt.val ≤ row.detectedAt.val := by
  rw [postExpiry_isEmpty_eq_false]
  constructor
  · rintro ⟨out, hout, hle⟩
    exact ⟨_, mem_storedRows.mpr ⟨out, hout, rfl⟩, (le_stored_detectedAt expiresAt out).mpr hle⟩
  · rintro ⟨row, hrow, hle⟩
    obtain ⟨out, hout, rfl⟩ := mem_storedRows.mp hrow
    exact ⟨out, hout, (le_stored_detectedAt expiresAt out).mp hle⟩

/-- Without an output in time, every stored row is late. -/
theorem storedRows_late {expiresAt : Stamp} (hpre : preExpiry expiresAt.val outputs = []) :
    ∀ row ∈ storedRows outputs, expiresAt.val ≤ row.detectedAt.val := by
  intro row hrow
  obtain ⟨out, hout, rfl⟩ := mem_storedRows.mp hrow
  rw [le_stored_detectedAt]
  exact preExpiry_eq_nil_iff.mp hpre out hout

theorem exists_firstSeen (h : outputs ≠ []) : ∃ m, firstSeen outputs = some m := by
  rw [firstSeen]
  cases hm : (outputs.map WatchedOutput.detectedAt).min? with
  | some m => exact ⟨m, rfl⟩
  | none => exact absurd (List.map_eq_nil_iff.mp (List.min?_eq_none_iff.mp hm)) h

/-- The earliest output in time is the earliest row in time. -/
theorem isFirstSeen_storedRows {expiresAt : Stamp} {m : Datetime}
    (h : firstSeen (preExpiry expiresAt.val outputs) = some m) :
    IsFirstSeen (storedRows outputs) expiresAt (Datetime.stored m) := by
  obtain ⟨hmem, hle⟩ := List.min?_eq_some_iff.mp h
  obtain ⟨out, hout, rfl⟩ := List.mem_map.mp hmem
  obtain ⟨hout, htime⟩ := mem_preExpiry.mp hout
  refine ⟨⟨_, mem_storedRows.mpr ⟨out, hout, rfl⟩, rfl⟩, ?_, ?_⟩
  · rw [stored_lt_iff]
    exact htime
  · intro row hrow hlt
    obtain ⟨o, ho, rfl⟩ := mem_storedRows.mp hrow
    have hpre : o ∈ preExpiry expiresAt.val outputs :=
      mem_preExpiry.mpr ⟨ho, (stored_detectedAt_lt o expiresAt).mp hlt⟩
    exact stored_mono (hle _ (List.mem_map.mpr ⟨o, hpre, rfl⟩))

theorem firstSeen_le {m now : Datetime} (hle : ∀ out ∈ outputs, out.detectedAt ≤ now)
    {expiresAt : Datetime} (h : firstSeen (preExpiry expiresAt outputs) = some m) : m ≤ now := by
  obtain ⟨hmem, -⟩ := List.min?_eq_some_iff.mp h
  obtain ⟨out, hout, rfl⟩ := List.mem_map.mp hmem
  exact hle out (mem_preExpiry.mp hout).1

end Rows

/-! ## The update -/

section Update

variable {now : Datetime} {inv : InvoiceDoc} {fresh : List WatchedOutput}

/-- No output of a merge lies in the future. -/
theorem mergeOutputs_le (h : Timely now inv) (hfresh : ∀ f ∈ fresh, f.detectedAt = now) :
    ∀ out ∈ mergeOutputs inv.txids fresh, out.detectedAt ≤ now := by
  intro out hout
  rcases mergeOutputs_new hfresh hout with ⟨row, hrow, -, hat⟩ | hat
  · rw [hat]; exact h.rows_le row hrow
  · exact le_of_eq hat

/-- The output times of a merge are bounded below by what bounds the recorded rows and now. -/
theorem le_mergeOutputs (hfresh : ∀ f ∈ fresh, f.detectedAt = now) {t : Stamp}
    (hrows : ∀ row ∈ inv.txids, t.val ≤ row.detectedAt.val) (hnow : t.val ≤ now) :
    ∀ row ∈ storedRows (mergeOutputs inv.txids fresh), t.val ≤ row.detectedAt.val := by
  intro row hrow
  obtain ⟨out, hout, rfl⟩ := mem_storedRows.mp hrow
  rw [le_stored_detectedAt]
  rcases mergeOutputs_new hfresh hout with ⟨r, hr, -, hat⟩ | hat
  · rw [hat]; exact hrows r hr
  · rw [hat]; exact hnow

/-- The parts of `Coherent` that are the same for every decision on an open or detected
document: it was not canceled, and a row is late only when it is past `expires_at`. -/
theorem coherent_update_watching {outputs : List WatchedOutput} (hinv : Coherent inv)
    (hs : inv.state = .OPEN ∨ inv.state = .DETECTED)
    (hcanceled : (settle inv outputs now).state ≠ .CANCELED)
    (hcredit : (settle inv outputs now).satsCredited ≠ none ↔
      (settle inv outputs now).settledAt ≠ none)
    (hsettled : (settle inv outputs now).settledAt ≠ none ↔
      (settle inv outputs now).state = .SETTLED ∨ (settle inv outputs now).state = .OVERPAID)
    (hsats : ∀ sats, (settle inv outputs now).satsCredited = some sats →
      sats = inv.satsRequested)
    (hopen : (settle inv outputs now).state = .OPEN →
      outputs = [] ∧ (settle inv outputs now).firstSeenAt = none)
    (hseen : (settle inv outputs now).state = .DETECTED ∨
        (settle inv outputs now).state = .SETTLED ∨
        (settle inv outputs now).state = .OVERPAID ∨
        (settle inv outputs now).state = .UNDERPAID →
      ∃ m, (settle inv outputs now).firstSeenAt = some m ∧
        firstSeen (preExpiry inv.expiresAt.val outputs) = some m ∧
        ∀ s, (settle inv outputs now).settledAt = some s → m ≤ s)
    (hexpired : (settle inv outputs now).state = .EXPIRED →
      preExpiry inv.expiresAt.val outputs = [])
    (hlate : (settle inv outputs now).latePayment = true ↔
      (!(postExpiry inv.expiresAt.val outputs).isEmpty) = true) :
    Coherent ((settle inv outputs now).update now inv) := by
  have hnone : inv.canceledAt = none :=
    hinv.canceledAt_eq_none (by rcases hs with hs | hs <;> rw [hs] <;> decide)
  have htxids : ((settle inv outputs now).update now inv).txids = storedRows outputs :=
    settle_txids inv outputs now
  constructor
  · simpa [Decision.update] using hcredit
  · simpa [Decision.update] using hsettled
  · exact hsats
  · rw [htxids, sum_storedRows]
    exact (applySettlement_records _ _ _ _ _ _ _ _ _).2
  · intro h
    obtain ⟨hnil, hfirst⟩ := hopen h
    rw [htxids]
    refine ⟨by rw [hnil]; rfl, ?_⟩
    show Option.map _ _ = none
    rw [hfirst]
    rfl
  · intro h
    obtain ⟨m, hfirst, hm, hle⟩ := hseen h
    refine ⟨Datetime.stored m, ?_, ?_, ?_⟩
    · show Option.map _ _ = _
      rw [hfirst]
      rfl
    · rw [htxids]
      exact isFirstSeen_storedRows hm
    · intro s hsome
      -- both times are stored, which keeps their order
      obtain ⟨u, hu, rfl⟩ := Option.map_eq_some_iff.mp hsome
      exact stored_mono (hle u hu)
  · intro h
    rw [htxids]
    exact storedRows_late (hexpired h)
  · show inv.canceledAt ≠ none ↔ (settle inv outputs now).state = .CANCELED
    rw [hnone]
    exact iff_of_false (fun h => h rfl) hcanceled
  · intro t ht
    have ht : inv.canceledAt = some t := ht
    rw [hnone] at ht
    cases ht
  · show (settle inv outputs now).latePayment = true ↔ _
    rw [hlate, late_storedRows, htxids]
    show _ ↔ ∃ row ∈ storedRows outputs, inv.expiresAt.val ≤ row.detectedAt.val ∨
      ∃ t, inv.canceledAt = some t ∧ t.val ≤ row.detectedAt.val
    simp [hnone]

/-- The update of an open or detected document is coherent: one case for each outcome. -/
theorem Timely.coherent_update (h : Timely now inv)
    (hs : inv.state = .OPEN ∨ inv.state = .DETECTED) (hfresh : ∀ f ∈ fresh, f.detectedAt = now) :
    Coherent ((settle inv (mergeOutputs inv.txids fresh) now).update now inv) := by
  have hle := mergeOutputs_le h hfresh
  cases settle_watching (mergeOutputs inv.txids fresh) now hs with
  | expired hpre hnow hstate hfirst hsettled hcredit hlate =>
      refine coherent_update_watching h.coherent hs ?_ ?_ ?_ ?_ ?_ ?_ ?_ ?_ <;>
        simp [hstate, hsettled, hcredit, hlate, hpre]
  | waiting hpre hnow hstate hfirst hsettled hcredit hlate =>
      -- nothing was recorded and a fresh output would be in time, so there is none
      have hnil : mergeOutputs inv.txids fresh = [] := by
        apply List.eq_nil_iff_forall_not_mem.mpr
        intro out hout
        have hnot : inv.expiresAt.val ≤ out.detectedAt := by
          simpa using List.filter_eq_nil_iff.mp hpre out hout
        have hlt : now < out.detectedAt := by
          calc now
              < inv.expiresAt.val := hnow
            _ ≤ out.detectedAt := hnot
        exact absurd (hle out hout) (not_le.mpr hlt)
      rw [hnil] at hstate hfirst hsettled hcredit hlate ⊢
      refine coherent_update_watching h.coherent hs ?_ ?_ ?_ ?_ ?_ ?_ ?_ ?_ <;>
        simp [hstate, hsettled, hcredit, hlate, hfirst, postExpiry]
  | credited hpre _ hstate hfirst hsettled hcredit hlate =>
      obtain ⟨m, hm⟩ := exists_firstSeen hpre
      have hmle := firstSeen_le hle hm
      have hcases : (settle inv (mergeOutputs inv.txids fresh) now).state = .SETTLED ∨
          (settle inv (mergeOutputs inv.txids fresh) now).state = .OVERPAID := by
        rw [hstate]
        split_ifs
        · exact Or.inr rfl
        · exact Or.inl rfl
      refine coherent_update_watching h.coherent hs ?_ ?_ ?_ ?_ ?_ ?_ ?_ ?_
      · rcases hcases with hc | hc <;> rw [hc] <;> decide
      · simp [hsettled, hcredit]
      · simp [hsettled, hcases]
      · simp [hcredit, eq_comm]
      · rcases hcases with hc | hc <;> rw [hc] <;> intro h <;> cases h
      · exact fun _ => ⟨m, by rw [hfirst, hm], hm, by simpa [hsettled] using hmle⟩
      · rcases hcases with hc | hc <;> rw [hc] <;> intro h <;> cases h
      · rw [hlate]
  | pending hpre _ _ _ hstate hfirst hsettled hcredit hlate
  | underpaid hpre _ _ _ _ hstate hfirst hsettled hcredit hlate =>
      obtain ⟨m, hm⟩ := exists_firstSeen hpre
      refine coherent_update_watching h.coherent hs ?_ ?_ ?_ ?_ ?_ ?_ ?_ ?_ <;>
        simp [hstate, hsettled, hcredit, hlate, hfirst, hm]

/-- The parts of `Coherent` that are the same for an expired and a canceled document: an update
records payments and leaves the state alone. -/
theorem coherent_update_kept {outputs : List WatchedOutput} (hinv : Coherent inv)
    (hs : inv.state = .EXPIRED ∨ inv.state = .CANCELED)
    (hexpired : inv.state = .EXPIRED →
      ∀ row ∈ storedRows outputs, inv.expiresAt.val ≤ row.detectedAt.val)
    (hcanceled : ∀ t, inv.canceledAt = some t →
      ∀ row ∈ storedRows outputs, t.val ≤ row.detectedAt.val)
    (hlate : (settle inv outputs now).latePayment = true ↔ ∃ row ∈ storedRows outputs,
      inv.expiresAt.val ≤ row.detectedAt.val ∨
        ∃ t, inv.canceledAt = some t ∧ t.val ≤ row.detectedAt.val) :
    Coherent ((settle inv outputs now).update now inv) := by
  have hstate := settle_keeps outputs now hs
  have hcredit := settle_keeps_credit outputs now hs
  obtain ⟨hfirst, hsettled⟩ := settle_keeps_times outputs now hs
  have htxids : ((settle inv outputs now).update now inv).txids = storedRows outputs :=
    settle_txids inv outputs now
  have hkept : ((settle inv outputs now).update now inv).state = inv.state := hstate
  constructor
  · simp [Decision.update, hcredit, hsettled]
  · rw [hkept]
    rcases hs with hs | hs <;> simp [Decision.update, hsettled, hs]
  · simp [Decision.update, hcredit]
  · rw [htxids, sum_storedRows]
    exact (applySettlement_records _ _ _ _ _ _ _ _ _).2
  · rw [hkept]
    intro hopen
    rcases hs with hs | hs <;> rw [hs] at hopen <;> cases hopen
  · rw [hkept]
    intro hseen
    rcases hs with hs | hs <;> rw [hs] at hseen <;> simp at hseen
  · rw [hkept, htxids]
    exact hexpired
  · rw [hkept]
    exact hinv.canceled_iff
  · rw [htxids]
    exact hcanceled
  · rw [htxids]
    exact hlate

/-- The update of an expired document records late payments and changes nothing else. -/
theorem Timely.coherent_update_expired (h : Timely now inv) (hs : inv.state = .EXPIRED)
    (hfresh : ∀ f ∈ fresh, f.detectedAt = now) :
    Coherent ((settle inv (mergeOutputs inv.txids fresh) now).update now inv) := by
  have hrows := le_mergeOutputs hfresh (h.coherent.expired hs) (h.expired_le hs)
  have hnone : inv.canceledAt = none := h.coherent.canceledAt_eq_none (by rw [hs]; decide)
  have hlate : (settle inv (mergeOutputs inv.txids fresh) now).latePayment
      = !(postExpiry inv.expiresAt.val (mergeOutputs inv.txids fresh)).isEmpty := by
    unfold settle
    rw [hs]
    exact congrArg Decision.latePayment (applySettlement_expired ..)
  apply coherent_update_kept h.coherent (Or.inl hs)
  · intro _
    exact hrows
  · intro t ht
    rw [hnone] at ht
    cases ht
  · rw [hlate, late_storedRows]
    simp [hnone]

/-- The update of a canceled document records payments after the cancel, all of them late. -/
theorem Timely.coherent_update_canceled (h : Timely now inv) (hs : inv.state = .CANCELED)
    (hfresh : ∀ f ∈ fresh, f.detectedAt = now) :
    Coherent ((settle inv (mergeOutputs inv.txids fresh) now).update now inv) := by
  obtain ⟨t, ht⟩ := Option.ne_none_iff_exists'.mp (h.coherent.canceled_iff.mpr hs)
  have hrows := le_mergeOutputs hfresh (h.coherent.canceled t ht) (h.canceled_le t ht)
  have hlate : (settle inv (mergeOutputs inv.txids fresh) now).latePayment
      = !(mergeOutputs inv.txids fresh).isEmpty := by
    unfold settle
    rw [hs]
    exact congrArg Decision.latePayment (applySettlement_canceled ..)
  apply coherent_update_kept h.coherent (Or.inr hs)
  · intro hexpired
    rw [hs] at hexpired
    cases hexpired
  · intro t' ht'
    obtain rfl : t = t' := Option.some.inj (ht.symm.trans ht')
    exact hrows
  · rw [hlate, Bool.not_eq_true', List.isEmpty_eq_false_iff_exists_mem]
    -- every recorded row is at or after the cancel
    constructor
    · rintro ⟨out, hout⟩
      have hrow := mem_storedRows.mpr ⟨out, hout, rfl⟩
      exact ⟨_, hrow, Or.inr ⟨t, ht, hrows _ hrow⟩⟩
    · rintro ⟨row, hrow, -⟩
      obtain ⟨out, hout, -⟩ := mem_storedRows.mp hrow
      exact ⟨out, hout⟩

/-- **The watcher's update keeps a document coherent.** -/
theorem Timely.update (h : Timely now inv) (hwatch : inv.state ∈ WATCH_STATES)
    (hfresh : ∀ f ∈ fresh, f.detectedAt = now) :
    Timely now ((settle inv (mergeOutputs inv.txids fresh) now).update now inv) := by
  have htxids : ((settle inv (mergeOutputs inv.txids fresh) now).update now inv).txids
      = storedRows (mergeOutputs inv.txids fresh) := settle_txids ..
  refine ⟨?_, ?_, ?_, ?_, h.canceled_le⟩
  · rcases mem_WATCH_STATES.mp hwatch with hs | hs | hs
    · exact h.coherent_update hs hfresh
    · exact h.coherent_update_expired hs hfresh
    · exact h.coherent_update_canceled hs hfresh
  · rw [htxids]
    exact consistent_mergeOutputs h.consistent hfresh
  · rw [htxids]
    intro row hrow
    obtain ⟨out, hout, rfl⟩ := mem_storedRows.mp hrow
    calc (txDict out).stored.detectedAt.val
        ≤ out.detectedAt := stored_le out.detectedAt
      _ ≤ now := mergeOutputs_le h hfresh out hout
  · intro hs
    rw [update_state] at hs
    rw [update_expiresAt]
    rcases mem_WATCH_STATES.mp hwatch with hi | hi | hi
    · exact settle_expired_le hi hs
    · exact h.expired_le hi
    · rw [settle_keeps _ now (Or.inr hi), hi] at hs
      cases hs

end Update

end V4vappDash
