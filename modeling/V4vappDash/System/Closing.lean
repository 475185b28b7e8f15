import V4vappDash.System.Progress

set_option autoImplicit false

/-! # The end of an invoice

Once the time of an invoice is over and every output that was seen in time satisfies its policy,
there is nothing left to wait for. As long as the steps of one watcher do not fail, the invoice is
then closed after as many loads as any other verdict takes, by the watcher or by a cancel, and is
never open again (`open_invoice_closed`). The settle deadline has no part in this: an output that
does not satisfy the policy is waited for beyond it.
-/

namespace V4vappDash

open Machine

/-- The time is over, and all outputs in time count. -/
structure InvoiceDoc.Due (doc : InvoiceDoc) (now : Datetime) (outputs : List WatchedOutput) :
    Prop where
  ended : doc.expiresAt.val ≤ now
  counts : ∀ out ∈ preExpiry doc.expiresAt.val outputs,
    outputQualifies out (doc.policy.getD {}) = true

/-- There is a verdict, or a cancel. -/
def InvoiceDoc.Closed (doc : InvoiceDoc) : Prop := doc.state ≠ .OPEN ∧ doc.state ≠ .DETECTED

section Closed

variable {doc : InvoiceDoc} {outputs : List WatchedOutput} {now : Datetime}

/-- The verdict on an invoice that is due, and over which states it is stored. -/
theorem settle_due (hopen : doc.state = .OPEN ∨ doc.state = .DETECTED) (h : doc.Due now outputs) :
    ((settle doc outputs now).state = .EXPIRED ∧ preExpiry doc.expiresAt.val outputs = []) ∨
      (settle doc outputs now).state ∈
        ([.UNDERPAID, .SETTLED, .OVERPAID] : List DashInvoiceState) := by
  cases settle_watching outputs now hopen with
  | expired hpre _ hstate => exact Or.inl ⟨hstate, hpre⟩
  | waiting _ hearly => exact absurd h.ended (not_le.mpr hearly)
  | pending _ _ _ hwait =>
      rcases hwait with hearly | ⟨out, hout, hnot⟩
      · exact absurd h.ended (not_le.mpr hearly)
      · rw [h.counts out hout] at hnot
        cases hnot
  | underpaid _ _ _ _ _ hstate =>
      rw [hstate]
      exact Or.inr (by decide)
  | credited _ _ hstate =>
      rw [hstate]
      split_ifs
      · exact Or.inr (by decide)
      · exact Or.inr (by decide)

theorem settle_due_closed (hopen : doc.state = .OPEN ∨ doc.state = .DETECTED)
    (h : doc.Due now outputs) (stored : InvoiceDoc) :
    ((settle doc outputs now).update now stored).Closed := by
  show (settle doc outputs now).state ≠ .OPEN ∧ (settle doc outputs now).state ≠ .DETECTED
  rcases settle_due hopen h with ⟨hstate, -⟩ | hstate
  · rw [hstate]
    decide
  · revert hstate
    generalize (settle doc outputs now).state = decided
    cases decided <;> decide

/-- What has been detected is not expired, so it must still know why it was detected. -/
theorem concludes_closed (hopen : doc.state = .OPEN ∨ doc.state = .DETECTED) :
    Concludes doc (fun now outputs => doc.Due now outputs ∧
      (doc.state = .DETECTED → preExpiry doc.expiresAt.val outputs ≠ [])) InvoiceDoc.Closed where
  make := by
    rintro now outputs ⟨hdue, hseen⟩
    refine ⟨?_, settle_due_closed hopen hdue doc⟩
    rcases settle_due hopen hdue with ⟨hstate, hnil⟩ | hstate
    · have hstill : doc.state = .OPEN := hopen.resolve_right (fun hd => hseen hd hnil)
      rw [hstate, hstill]
      decide
    · revert hstate
      generalize (settle doc outputs now).state = decided
      rcases hopen with ho | ho <;> rw [ho] <;> cases decided <;> decide
  keep := by
    rintro now fresh inv stored hwatched - (⟨rfl, hdue, -⟩ | hinv) -
    · exact settle_due_closed hopen hdue stored
    · have hover : inv.state = .EXPIRED ∨ inv.state = .CANCELED := by
        rcases mem_WATCH_STATES.mp hwatched with (ho | hd) | hover
        · exact absurd ho hinv.1
        · exact absurd hd hinv.2
        · exact hover
      show (settle inv _ now).state ≠ .OPEN ∧ (settle inv _ now).state ≠ .DETECTED
      rw [settle_keeps _ now hover]
      exact hinv

end Closed

/-- **No invoice stays open.** In every run of the deployment in which the steps of one watcher do
not fail, whatever boots, requests, cancels and other watchers do in between: when every watcher
that comes to decide the invoice does so at or after `expires_at`, and every output it knows of that
was first seen before satisfies the policy, then the invoice is closed after the loads of `hmany`,
and stays so. -/
theorem open_invoice_closed (bip44 : Bip44) (i : Nat) (settings : Settings) (s : Deployment)
    (hruns : s.runs i = some settings) (hlimit : 1 ≤ settings.dashWatchBatch) (id : ObjectId)
    (doc : InvoiceDoc) (hdoc : s.service.db.invoices.lookup id = some doc)
    (hopen : doc.state = .OPEN ∨ doc.state = .DETECTED) (hswept : doc.sweptAt = none)
    (hseen : doc.state = .DETECTED →
      Consistent doc.txids ∧ SeenInTime doc.txids doc.expiresAt)
    (hread : ∀ j inv, (id, inv) ∈ (s.watchers j).2.batch → inv = doc)
    (U : Finset ObjectId) (hid : id ∈ U) (actions : List DeploymentAction)
    (hgoes : Along (Deployment.act bip44) (Deployment.GoesOn i) s actions)
    (hdue : Along (Deployment.act bip44) (Deployment.Sees id doc doc.Due) s actions)
    (hU : ∀ rows ∈ s.allLoads bip44 i actions, ∀ k ∈ rows, k ∈ U)
    (hmany : (U.card - 1) / settings.dashWatchBatch + 2 < (s.allLoads bip44 i actions).length) :
    ∃ doc', (run (Deployment.act bip44) s actions).service.db.invoices.lookup id = some doc' ∧
      doc'.Closed := by
  have hwatched : doc.state ∈ WATCH_STATES := mem_WATCH_STATES.mpr (Or.inl hopen)
  have hsees : Along (Deployment.act bip44) (Deployment.Sees id doc (fun now outputs =>
      doc.Due now outputs ∧ (doc.state = .DETECTED →
        preExpiry doc.expiresAt.val outputs ≠ []))) s actions := by
    refine Along.mono (fun t a ht => ?_) hdue
    refine ht.mono (fun now fresh hd => ⟨hd, fun hstate => ?_⟩)
    obtain ⟨hcons, hrow⟩ := hseen hstate
    exact preExpiry_mergeOutputs fresh hcons hrow
  refine (concludes_closed hopen).within hruns hlimit ⟨?_, doc, hdoc, rfl⟩ hwatched hswept hgoes ?_
    hsees hid hU hmany
  · intro j inv hmem
    obtain rfl := hread j inv hmem
    exact ⟨hwatched, rfl⟩
  -- a cancel closes the invoice as well
  · rintro a - t - stored - -
    show DashInvoiceState.CANCELED ≠ .OPEN ∧ DashInvoiceState.CANCELED ≠ .DETECTED
    decide

/-- An invoice that nobody has paid. -/
theorem open_invoice_closed_late : ∃ doc',
    (run (Deployment.act noKeys) (alone aloneSettings aloneStart)
      lateActions).service.db.invoices.lookup 1 = some doc' ∧ doc'.Closed :=
  open_invoice_closed noKeys 0 aloneSettings (alone aloneSettings aloneStart)
    (runs_alone aloneStart watches_aloneSettings) (by decide) 1 sampleInvoice rfl (Or.inl rfl) rfl
    (fun h => absurd h (by decide)) alone_read {1} (by decide) lateActions goesOn_late
    (sees_late.mono (fun _ _ h => h.mono (fun _ _ hd => ⟨hd.1, fun out hout => by
      rw [hd.2] at hout
      cases hout⟩)))
    (by rw [allLoads_late]; decide) (by rw [allLoads_late]; decide)

end V4vappDash
