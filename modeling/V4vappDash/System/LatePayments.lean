import V4vappDash.System.Progress

set_option autoImplicit false

/-! # Late payments

An expired or canceled invoice stays watched: addresses can receive late funds. As long as the
steps of one watcher do not fail, an output that is first seen after the time of the invoice, or
after its cancel, is recorded and flagged after as many loads as any other verdict takes, and
stays so (`late_payment_recorded`). It is never credited.
-/

namespace V4vappDash

open Machine

/-- The output with this outpoint is among the outputs, and late for the invoice. -/
structure InvoiceDoc.KnowsLate (doc : InvoiceDoc) (key : String × Nat)
    (outputs : List WatchedOutput) : Prop where
  known : ∃ out ∈ outputs, out.key = key
  late : ∀ out ∈ outputs, out.key = key →
    doc.state = .CANCELED ∨ doc.expiresAt.val ≤ out.detectedAt

/-- What becomes of `doc` with a late payment. -/
structure InvoiceDoc.LateAs (doc : InvoiceDoc) (key : String × Nat) (doc' : InvoiceDoc) : Prop where
  state : doc'.state = doc.state
  expiresAt : doc'.expiresAt = doc.expiresAt
  flagged : doc'.latePayment = true
  sats : doc'.satsCredited = none
  received : doc'.duffsReceived = (doc'.txids.map TxRow.duffs).sum
  recorded : ∃ row ∈ doc'.txids, row.key = key
  late : ∀ row ∈ doc'.txids, row.key = key →
    doc.state = .CANCELED ∨ doc.expiresAt.val ≤ row.detectedAt.val

section Late

variable {doc inv stored : InvoiceDoc} {key : String × Nat} {outputs : List WatchedOutput}

/-- A decision on an expired or canceled invoice flags a late output. -/
theorem settle_flags (now : Datetime) (hover : inv.state = .EXPIRED ∨ inv.state = .CANCELED)
    (h : inv.KnowsLate key outputs) : (settle inv outputs now).latePayment = true := by
  obtain ⟨out, hout, hkey⟩ := h.known
  unfold settle
  rcases hover with hexpired | hcanceled
  · rw [hexpired]
    show (!(postExpiry inv.expiresAt.val outputs).isEmpty) = true
    rw [postExpiry_isEmpty_eq_false]
    rcases h.late out hout hkey with hcanceled | hle
    · rw [hexpired] at hcanceled
      cases hcanceled
    · exact ⟨out, hout, hle⟩
  · rw [hcanceled]
    show (!outputs.isEmpty) = true
    simpa using List.ne_nil_of_mem hout

/-- The decision records the output, and leaves the state as it is. -/
theorem InvoiceDoc.KnowsLate.update (now : Datetime)
    (hover : inv.state = .EXPIRED ∨ inv.state = .CANCELED) (hstate : inv.state = doc.state)
    (hexpires : inv.expiresAt = doc.expiresAt) (hstored : stored.expiresAt = doc.expiresAt)
    (h : doc.KnowsLate key outputs) :
    doc.LateAs key ((settle inv outputs now).update now stored) := by
  have hinv : inv.KnowsLate key outputs := by
    refine ⟨h.known, ?_⟩
    rw [hstate, hexpires]
    exact h.late
  have hrecords := (applySettlement_records inv.state now inv.expiresAt.val
    inv.settleDeadlineAt.val inv.duffsQuoted inv.satsRequested (inv.policy.getD {}) outputs
    (inv.state == .CANCELED)).2
  constructor
  · exact (settle_keeps outputs now hover).trans hstate
  · exact hstored
  · exact settle_flags now hover hinv
  · exact settle_keeps_credit outputs now hover
  · rw [update_txids, settle_txids]
    unfold storedRows
    rw [List.map_map]
    exact hrecords
  · obtain ⟨out, hout, hkey⟩ := h.known
    rw [update_txids, settle_txids]
    exact ⟨_, mem_storedRows.mpr ⟨out, hout, rfl⟩, hkey⟩
  · rw [update_txids, settle_txids]
    intro row hrow hkey
    obtain ⟨out, hout, rfl⟩ := mem_storedRows.mp hrow
    rcases h.late out hout hkey with hcanceled | hle
    · exact Or.inl hcanceled
    · exact Or.inr ((le_stored_iff out.detectedAt doc.expiresAt).mpr hle)

/-- What is recorded as late stays late, whatever the node reports. -/
theorem InvoiceDoc.LateAs.merge (h : doc.LateAs key inv) (fresh : List WatchedOutput) :
    doc.KnowsLate key (mergeOutputs inv.txids fresh) := by
  obtain ⟨row, hrow, hkey⟩ := h.recorded
  constructor
  · obtain ⟨out, hout, hsame⟩ := exists_mem_mergeOutputs fresh hrow
    exact ⟨out, hout, hsame.trans hkey⟩
  · intro out hout hout_key
    rcases mergeOutputs_cases hout with ⟨old, hold, hsame, hat⟩ | ⟨-, hnew⟩
    · rw [hat]
      exact h.late old hold (hsame.trans hout_key)
    -- the outpoint is not new
    · exact absurd (hkey.trans hout_key.symm) (hnew row hrow)

theorem concludes_late (hover : doc.state = .EXPIRED ∨ doc.state = .CANCELED) :
    Concludes doc (fun _ outputs => doc.KnowsLate key outputs) (doc.LateAs key) where
  make := by
    intro now outputs h
    refine ⟨?_, h.update now hover rfl rfl rfl⟩
    rw [settle_keeps outputs now hover]
    rcases hover with hs | hs <;> rw [hs] <;> decide
  keep := by
    rintro now fresh inv stored - hstored (⟨rfl, h⟩ | hinv) -
    · exact h.update now hover rfl rfl hstored.expiresAt
    · have hover' : inv.state = .EXPIRED ∨ inv.state = .CANCELED := by
        rw [hinv.state]
        exact hover
      exact (hinv.merge fresh).update now hover' hinv.state hinv.expiresAt hstored.expiresAt

end Late

/-- **Late money is recorded.** In every run of the deployment in which the steps of one watcher
do not fail, whatever boots, requests, cancels and other watchers do in between: when every
watcher that comes to decide an expired or canceled invoice knows of an output that is late for
it, then after the loads of `hmany` the output is recorded and counted, the invoice is flagged and
nothing is credited, and it stays so. -/
theorem late_payment_recorded (bip44 : Bip44) (i : Nat) (settings : Settings) (s : Deployment)
    (hruns : s.runs i = some settings) (hlimit : 1 ≤ settings.dashWatchBatch) (id : ObjectId)
    (doc : InvoiceDoc) (hdoc : s.service.db.invoices.lookup id = some doc)
    (hover : doc.state = .EXPIRED ∨ doc.state = .CANCELED) (hswept : doc.sweptAt = none)
    (hread : ∀ j inv, (id, inv) ∈ (s.watchers j).2.batch → inv = doc)
    (U : Finset ObjectId) (hid : id ∈ U) (actions : List DeploymentAction)
    (hgoes : Along (Deployment.act bip44) (Deployment.GoesOn i) s actions) (key : String × Nat)
    (hlate : Along (Deployment.act bip44)
      (Deployment.Sees id doc (fun _ outputs => doc.KnowsLate key outputs)) s actions)
    (hU : ∀ rows ∈ s.allLoads bip44 i actions, ∀ k ∈ rows, k ∈ U)
    (hmany : (U.card - 1) / settings.dashWatchBatch + 2 < (s.allLoads bip44 i actions).length) :
    ∃ doc', (run (Deployment.act bip44) s actions).service.db.invoices.lookup id = some doc' ∧
      doc.LateAs key doc' := by
  have hwatched : doc.state ∈ WATCH_STATES := mem_WATCH_STATES.mpr (Or.inr hover)
  have hopen : ∀ stored : InvoiceDoc, stored.state = doc.state → cancelable stored = false := by
    intro stored hstate
    unfold cancelable
    rw [hstate]
    rcases hover with hs | hs <;> rw [hs] <;> rfl
  refine (concludes_late hover).within hruns hlimit ⟨?_, doc, hdoc, rfl⟩ hwatched hswept hgoes ?_
    hlate hid hU hmany
  · intro j inv hmem
    obtain rfl := hread j inv hmem
    exact ⟨hwatched, rfl⟩
  -- a cancel request finds the invoice over, and changes nothing
  · rintro a - t - stored hstored hc
    have hstate : stored.state = doc.state := by
      rcases hstored with rfl | hstored
      · rfl
      · exact hstored.state
    rw [hopen stored hstate] at hc
    cases hc

/-! ## A payment of a canceled invoice -/

def aloneCanceled : Watch × TickPhase := (⟨AList.singleton 1 canceledInvoice, {}⟩, .idle)

/-- The watcher once it has stored what `sampleInput` pays for the canceled invoice. -/
def aloneFlagged : Watch × TickPhase :=
  (⟨Collection.updateIf (AList.singleton 1 canceledInvoice) 1
      (fun doc => persistFilter .CANCELED .CANCELED doc.state)
      ((settle canceledInvoice [sampleOutput] 1000000).update 1000000),
    { lastId := some 1 }⟩,
    .applying 1000000 (utxosByAddr ["yAddr"] [sampleUtxo]) [])

/-- The first tick, up to its update; then the rest of it, a tick to which the node reports
nothing, and the load of a third. -/
def flaggedActions : List DeploymentAction :=
  List.replicate 3 (.watch 0 sampleInput) ++ List.replicate 5 (.watch 0 quietInput)

theorem watchNext_aloneFlagged :
    (watchNext aloneSettings sampleInput)^[3] aloneCanceled = aloneFlagged := by
  have hd : decideInvoice aloneSettings sampleNode canceledInvoice [sampleUtxo] 1000000
      = .ok (settle canceledInvoice [sampleOutput] 1000000) :=
    decideInvoice_fresh _ freshOutputs_alone
  show watchStep aloneSettings sampleInput
    ⟨AList.singleton 1 canceledInvoice, { lastId := some 1 }⟩
    (.applying 1000000 (utxosByAddr ["yAddr"] [sampleUtxo]) ((1, canceledInvoice) :: []))
      = aloneFlagged
  rw [watchStep_applying hd (by decide) rfl]
  rfl

theorem run_aloneFlagged : run (Deployment.act noKeys) (alone aloneSettings aloneCanceled)
    (List.replicate 3 (.watch 0 sampleInput)) = alone aloneSettings aloneFlagged := by
  rw [run_alone _ _ watches_aloneSettings, watchNext_aloneFlagged]

theorem goesOn_flagged : Along (Deployment.act noKeys) (Deployment.GoesOn 0)
    (alone aloneSettings aloneCanceled) flaggedActions := by
  refine along_append.mpr ⟨goesOn_replicate watches_aloneSettings ?_, ?_⟩
  · intro k hk
    match k, hk with
    | 0, _ | 1, _ => exact nofun
    | 2, _ =>
        have hnext : watchNext aloneSettings sampleInput
            ((watchNext aloneSettings sampleInput)^[2] aloneCanceled) = aloneFlagged :=
          watchNext_aloneFlagged
        rw [hnext]
        exact nofun
  · rw [run_aloneFlagged]
    refine goesOn_replicate watches_aloneSettings ?_
    intro k hk
    match k, hk with
    | 0, _ | 3, _ => exact fun _ => ⟨_, _, rfl⟩
    | 1, _ | 2, _ | 4, _ => exact nofun

theorem allLoads_flagged :
    (alone aloneSettings aloneCanceled).allLoads noKeys 0 flaggedActions = [[1], [1], [1]] := by
  unfold Deployment.allLoads flaggedActions
  rw [outputs_append, run_aloneFlagged]
  rfl

theorem knowsLate_flagged {outputs : List WatchedOutput} (h : outputs.map WatchedOutput.key
    = [("tx-1", 0)]) : canceledInvoice.KnowsLate ("tx-1", 0) outputs := by
  constructor
  · obtain ⟨out, hout, hkey⟩ := List.mem_map.mp (h ▸ List.mem_singleton_self ("tx-1", 0))
    exact ⟨out, hout, hkey⟩
  · exact fun _ _ _ => Or.inl (by decide)

theorem sees_flagged : Along (Deployment.act noKeys) (Deployment.Sees 1 canceledInvoice
    (fun _ outputs => canceledInvoice.KnowsLate ("tx-1", 0) outputs))
    (alone aloneSettings aloneCanceled) flaggedActions := by
  refine along_append.mpr ⟨sees_replicate watches_aloneSettings ?_, ?_⟩
  · intro k hk
    match k, hk with
    | 0, _ | 1, _ => exact nofun
    | 2, _ =>
        rintro now utxosFor rest hphase fresh hfresh
        cases hphase
        obtain rfl : [sampleOutput] = fresh := Except.ok.inj (freshOutputs_alone.symm.trans hfresh)
        exact knowsLate_flagged (by decide)
  · rw [run_aloneFlagged]
    refine sees_replicate watches_aloneSettings ?_
    intro k hk
    match k, hk with
    | 0, _ | 1, _ | 2, _ | 3, _ | 4, _ => exact nofun

/-- The payment of a canceled invoice is recorded in its first tick. -/
theorem late_payment_recorded_canceled : ∃ doc',
    (run (Deployment.act noKeys) (alone aloneSettings aloneCanceled)
      flaggedActions).service.db.invoices.lookup 1 = some doc' ∧
      canceledInvoice.LateAs ("tx-1", 0) doc' :=
  late_payment_recorded noKeys 0 aloneSettings (alone aloneSettings aloneCanceled)
    (runs_alone aloneCanceled watches_aloneSettings) (by decide) 1 canceledInvoice rfl
    (Or.inr (by decide)) rfl alone_read {1} (by decide) flaggedActions goesOn_flagged ("tx-1", 0)
    sees_flagged (by rw [allLoads_flagged]; decide) (by rw [allLoads_flagged]; decide)

end V4vappDash
