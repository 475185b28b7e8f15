import V4vappDash.System.Race
import V4vappDash.System.Runs

set_option autoImplicit false

/-! # The history of an invoice

What holds of every stored invoice in every reachable state of the bridge, and between an
earlier and a later state: the fields agree with each other (`stored_coherent`), and what has
been seen of a payment is never forgotten (`first_seen_freeze`).
-/

namespace V4vappDash

open Interleaving

/-! ## Coherence -/

/-- **Every stored invoice is coherent**, whatever creates, ticks and cancels have done. -/
theorem stored_coherent {bip44 : Bip44} {settings : Settings} {s : Bridge}
    {c : Config Bridge Actor} (hs : s.Initial) (h : Run (bridge bip44 settings) ⟨s, []⟩ c)
    (id : ObjectId) (doc : InvoiceDoc) (hdoc : c.shared.db.invoices.lookup id = some doc) :
    Coherent doc :=
  ((holds_of_initial hs h).1.docs id doc hdoc).timely.coherent

/-- A collection with `sampleInvoice` in it. -/
def sampleBridge : Bridge where
  db := { invoices := AList.singleton 1 sampleInvoice, walletState := fun _ => none }
  watcher := {}
  clock := 0
  phase := .idle

theorem created_sampleInvoice : Created sampleInvoice := by
  refine ⟨{}, sampleBody, samplePricing, "yAddr", _, 0, ?_, rfl⟩
  show "0.00200000" = dashAmountString 200000
  rw [dashAmountString_eq (by decide)]
  decide

theorem initial_sampleBridge : sampleBridge.Initial := by
  refine ⟨rfl, ?_⟩
  intro id doc hdoc
  -- the collection holds one document
  have hmem := Collection.mem_docs.mpr hdoc
  obtain ⟨rfl, rfl⟩ := Prod.ext_iff.mp (List.mem_singleton.mp hmem)
  exact ⟨created_sampleInvoice, by decide⟩

/-- The state one second later. -/
def sampleBridgeLater : Bridge := { sampleBridge with clock := 1000000 }

def sampleInput : TickInput := { node := sampleNode, now := 1000000 }

/-- One iteration over a collection with a single invoice. -/
theorem runWatcherOnce_single (settings : Settings) (input : TickInput) (id : ObjectId)
    (inv : InvoiceDoc) (watcher : WatcherState) {raw : List Utxo} {d : Decision}
    (hfind : input.findError = none) (hupdate : input.updateError id = none)
    (hbatch : loadBatch (AList.singleton id inv) settings.dashWatchBatch watcher.lastId
      = [(id, inv)])
    (haddress : inv.address ≠ "") (hraw : input.node.listunspent [inv.address] = .ok raw)
    (hd : decideInvoice settings input.node inv (utxosByAddr [inv.address] raw inv.address)
      input.now = .ok d)
    (hints : d.ints.all bsonInt64 = true) :
    ∃ watcher', runWatcherOnce settings input ⟨AList.singleton id inv, watcher⟩
        = ⟨AList.singleton id (persistDoc inv.state d input.now inv), watcher'⟩ ∧
      watcher'.lastId = nextCursor settings.dashWatchBatch [(id, inv)] watcher.lastId := by
  let loaded := (Watch.mk (AList.singleton id inv) watcher).afterLoad settings [(id, inv)]
  have haddrs : batchAddresses [(id, inv)] = [inv.address] := by
    unfold batchAddresses
    rw [List.map_singleton, List.filter_singleton, decide_eq_true haddress]
    rfl
  have happly : applyBatch settings input (utxosByAddr [inv.address] raw) [(id, inv)] loaded
      = ({ loaded.countStuck d with
          invoices := AList.singleton id (persistDoc inv.state d input.now inv) }, .ok ()) := by
    rw [applyBatch_cons]
    unfold applyInvoice persist
    simp only [hd, hupdate, hints, if_true, Watch.countStuck_invoices]
    exact congrArg (fun invoices => ({ loaded.countStuck d with invoices }, Except.ok ()))
      (Collection.updateIf_singleton ..)
  unfold runWatcherOnce tick
  simp only [hfind, hbatch, haddrs, askNode, List.isEmpty_cons, hraw, Bool.false_eq_true, if_false]
  rw [happly]
  refine ⟨_, rfl, ?_⟩
  show (loaded.countStuck d).watcher.lastId = _
  unfold Watch.countStuck
  split_ifs <;> rfl

theorem decide_single {inv : InvoiceDoc} (htxids : inv.txids = []) :
    decideInvoice {} sampleNode inv [sampleUtxo] 1000000
      = .ok (settle inv [sampleOutput] 1000000) := by
  have hfresh : freshOutputs {} sampleNode 1000000 [sampleUtxo] = .ok [sampleOutput] :=
    freshOutputs_single 200000 (Utxo.duffs_eq rfl (by decide)) (by decide) rfl
  rw [decideInvoice_fresh _ hfresh, htxids]
  rfl

/-- The bridge after that tick, and the invoice in it. -/
def settledBridge : Bridge :=
  sampleBridgeLater.setWatch (runWatcherOnce {} sampleInput sampleBridgeLater.watch, .idle)

def settledInvoice : InvoiceDoc :=
  (settle sampleInvoice [sampleOutput] 1000000).update 1000000 sampleInvoice

/-- A key derivation that knows no key. -/
def noKeys : Bip44 := fun _ _ _ _ => .error "invalid extended key"

/-- One iteration one second after the epoch. -/
theorem run_sampleBridge {input : TickInput} (hnow : input.now = 1000000) :
    Run (bridge noKeys {}) ⟨sampleBridge, []⟩
      ⟨sampleBridgeLater.setWatch (runWatcherOnce {} input sampleBridgeLater.watch, .idle),
        [.clock, .watcher]⟩ := by
  refine .head (.spawn .clock (Or.inl rfl)) ?_
  refine .head (.spawn .watcher (Or.inr (Or.inl rfl))) ?_
  refine .head (.act 0 rfl (.clock 1000000 (by decide))) ?_
  exact run_runWatcherOnce (fun _ => ActorStep.watch _) rfl hnow (i := 1) rfl

theorem run_settledBridge :
    Run (bridge noKeys {}) ⟨sampleBridge, []⟩ ⟨settledBridge, [.clock, .watcher]⟩ :=
  run_sampleBridge rfl

theorem lookup_settledBridge : settledBridge.db.invoices.lookup 1 = some settledInvoice := by
  obtain ⟨watcher, hw, -⟩ := runWatcherOnce_single {} sampleInput 1 sampleInvoice {} rfl rfl
    rfl (by decide) rfl (decide_single rfl) (by decide)
  exact congrArg (fun w : Watch => w.invoices.lookup 1) hw

/-- An invoice that a tick has settled is coherent. -/
theorem stored_coherent_settled : settledInvoice.state = .SETTLED ∧ Coherent settledInvoice :=
  ⟨by decide, stored_coherent initial_sampleBridge run_settledBridge 1 _ lookup_settledBridge⟩

/-! ## First-seen times -/

/-- **First-seen times are frozen.** Between an earlier and a later state of a run: a recorded
outpoint stays recorded, with the first-seen time it had and on the same side of `expires_at`;
and an invoice that holds an output in time, and has not been canceled, is never open, expired
or canceled again. The side of `expires_at` is the same for an output in a tick and for the row
stored for it. -/
theorem first_seen_freeze {bip44 : Bip44} {settings : Settings} {s : Bridge}
    {c c' : Config Bridge Actor} (hs : s.Initial) (h : Run (bridge bip44 settings) ⟨s, []⟩ c)
    (h' : Run (bridge bip44 settings) c c') :
    (∀ id doc, c.shared.db.invoices.lookup id = some doc →
      ∃ doc', c'.shared.db.invoices.lookup id = some doc' ∧
        (∀ row ∈ doc.txids, (∃ row' ∈ doc'.txids, row'.key = row.key) ∧
          ∀ row' ∈ doc'.txids, row'.key = row.key → row'.detectedAt = row.detectedAt ∧
            (row'.detectedAt.val < doc'.expiresAt.val ↔
              row.detectedAt.val < doc.expiresAt.val)) ∧
        ((∃ row ∈ doc.txids, row.detectedAt.val < doc.expiresAt.val) → doc.state ≠ .CANCELED →
          doc'.state ≠ .EXPIRED ∧ doc'.state ≠ .OPEN ∧ doc'.state ≠ .CANCELED)) ∧
    (∀ now utxosFor rest, c.shared.phase = .applying now utxosFor rest →
      ∀ e ∈ rest, ∀ fresh, ∀ out ∈ mergeOutputs e.2.txids fresh,
        ((txDict out).stored.detectedAt.val < e.2.expiresAt.val ↔
          out.detectedAt < e.2.expiresAt.val)) := by
  have hc := holds_of_initial hs h
  refine ⟨?_, fun _ _ _ _ e _ _ out _ => stored_detectedAt_lt out _⟩
  intro id doc hdoc
  obtain ⟨doc', hdoc', -, hlater⟩ := later_of_run hc h' id doc hdoc (hc.1.docs id doc hdoc)
  refine ⟨doc', hdoc', fun row hrow => ⟨hlater.kept row hrow, ?_⟩, ?_⟩
  · intro row' hrow' hkey
    have hat := hlater.fixed row hrow row' hrow' hkey
    exact ⟨hat, by rw [hat, hlater.expiresAt]⟩
  · intro hseen hnot
    obtain ⟨hopen, hexpired, hcanceled⟩ := hlater.frozen hseen hnot
    exact ⟨hexpired, hopen, hcanceled⟩

/-- The payment is seen without a lock; after `expires_at` the node does not report it. -/
def unlockedInput : TickInput where
  node := { sampleNode with gettransaction := fun _ => .ok {} }
  now := 1000000

def vanishedInput : TickInput where
  node := { sampleNode with listunspent := fun _ => .ok [] }
  now := 3700000000

/-- The invoice after the first tick, and after the second one. -/
def detectedInvoice : InvoiceDoc :=
  (settle sampleInvoice [{ sampleOutput with confirmations := 0 }] 1000000).update 1000000
    sampleInvoice

def frozenInvoice : InvoiceDoc :=
  (settle detectedInvoice (mergeOutputs detectedInvoice.txids []) 3700000000).update 3700000000
    detectedInvoice

def detectedBridge : Bridge :=
  sampleBridgeLater.setWatch (runWatcherOnce {} unlockedInput sampleBridgeLater.watch, .idle)

def frozenBridge : Bridge :=
  let s := { detectedBridge with clock := 3700000000 }
  s.setWatch (runWatcherOnce {} vanishedInput s.watch, .idle)

theorem watch_detectedBridge : ∃ watcher,
    detectedBridge.watch = ⟨AList.singleton 1 detectedInvoice, watcher⟩ ∧
      watcher.lastId = none := by
  have hfresh : freshOutputs {} unlockedInput.node 1000000 [sampleUtxo]
      = .ok [{ sampleOutput with confirmations := 0 }] :=
    freshOutputs_single 200000 (Utxo.duffs_eq rfl (by decide)) (by decide) rfl
  exact runWatcherOnce_single {} unlockedInput 1 sampleInvoice {} rfl rfl rfl (by decide) rfl
    (decideInvoice_fresh _ hfresh) (by decide)

theorem lookup_frozenBridge : frozenBridge.db.invoices.lookup 1 = some frozenInvoice := by
  obtain ⟨watcher, hwatch, hlast⟩ := watch_detectedBridge
  have hbatch : loadBatch (AList.singleton 1 detectedInvoice) 500 watcher.lastId
      = [(1, detectedInvoice)] := by
    rw [hlast]
    rfl
  obtain ⟨watcher', hw, -⟩ := runWatcherOnce_single {} vanishedInput 1 detectedInvoice watcher rfl
    rfl hbatch (by decide) rfl (decideInvoice_fresh _ rfl) (by decide)
  rw [← hwatch] at hw
  exact congrArg (fun w : Watch => w.invoices.lookup 1) hw

theorem run_frozenBridge : Run (bridge noKeys {}) ⟨detectedBridge, [.clock, .watcher]⟩
    ⟨frozenBridge, [.clock, .watcher]⟩ := by
  refine .head (.act 0 rfl (.clock 3700000000 (by decide))) ?_
  exact run_runWatcherOnce (fun _ => ActorStep.watch _) rfl rfl (i := 1) rfl

/-- The payment is recorded with the time it was seen at, and the invoice does not expire. -/
theorem first_seen_freeze_detected :
    frozenBridge.db.invoices.lookup 1 = some frozenInvoice ∧
      frozenInvoice.expiresAt.val < frozenBridge.clock ∧
      (∃ row ∈ frozenInvoice.txids, row.key = ("tx-1", 0)) ∧
      (∀ row ∈ frozenInvoice.txids, row.key = ("tx-1", 0) →
        row.detectedAt = Datetime.stored 1000000) ∧
      frozenInvoice.state ≠ .EXPIRED := by
  obtain ⟨watcher, hwatch, -⟩ := watch_detectedBridge
  have hdoc : detectedBridge.db.invoices.lookup 1 = some detectedInvoice :=
    congrArg (fun w : Watch => w.invoices.lookup 1) hwatch
  have hrow : (txDict { sampleOutput with confirmations := 0 }).stored ∈ detectedInvoice.txids :=
    List.mem_cons_self
  obtain ⟨doc', hdoc', hkept, hfrozen⟩ :=
    (first_seen_freeze initial_sampleBridge (run_sampleBridge rfl) run_frozenBridge).1 1 _ hdoc
  obtain rfl := Option.some.inj (lookup_frozenBridge.symm.trans hdoc')
  obtain ⟨hstays, hfixed⟩ := hkept _ hrow
  exact ⟨hdoc', by decide, hstays, fun row hmem hkey => (hfixed row hmem hkey).1,
    (hfrozen ⟨_, hrow, by decide⟩ (by decide)).1⟩

/-- The invoice after a cancel, and after a tick that sees a payment of the canceled invoice. -/
def canceledBridge : Bridge :=
  { sampleBridge.setInvoices (cancelUpdate sampleBridge.db.invoices 1 0) with clock := 1000000 }

def canceledInvoice : InvoiceDoc := cancelDoc 0 sampleInvoice

def paidAfterCancel : InvoiceDoc :=
  (settle canceledInvoice [sampleOutput] 1000000).update 1000000 canceledInvoice

/-- A canceled invoice that is paid before `expires_at` holds an output in time and stays
canceled. -/
theorem canceled_with_output_in_time :
    ¬ ∀ c c' : Config Bridge Actor, Run (bridge noKeys {}) ⟨sampleBridge, []⟩ c →
      Run (bridge noKeys {}) c c' → ∀ id doc doc', c.shared.db.invoices.lookup id = some doc →
        c'.shared.db.invoices.lookup id = some doc' →
        (∃ row ∈ doc.txids, row.detectedAt.val < doc.expiresAt.val) →
        doc'.state ≠ .EXPIRED ∧ doc'.state ≠ .OPEN ∧ doc'.state ≠ .CANCELED := by
  intro hall
  have hrun : Run (bridge noKeys {}) ⟨sampleBridge, []⟩
      ⟨canceledBridge.setWatch (runWatcherOnce {} sampleInput canceledBridge.watch, .idle),
        [.clock, .watcher, .cancelAnswered (.ok canceledInvoice)]⟩ := by
    refine .head (.spawn .clock (Or.inl rfl)) ?_
    refine .head (.spawn .watcher (Or.inr (Or.inl rfl))) ?_
    refine .head (.spawn (.cancel 1) (Or.inr (Or.inr (Or.inr ⟨1, rfl⟩)))) ?_
    refine .head (.act 2 rfl .cancelRead) ?_
    refine .head (.act 2 rfl (.cancelUpdate sampleInvoice rfl (by decide))) ?_
    refine .head (.act 0 rfl (.clock 1000000 (by decide))) ?_
    exact run_runWatcherOnce (fun _ => ActorStep.watch _) rfl rfl (i := 1) rfl
  have hdoc : (canceledBridge.setWatch
      (runWatcherOnce {} sampleInput canceledBridge.watch, .idle)).db.invoices.lookup 1
        = some paidAfterCancel := by
    obtain ⟨watcher, hw, -⟩ := runWatcherOnce_single {} sampleInput 1 canceledInvoice {} rfl
      rfl rfl (by decide) rfl (decide_single rfl) (by decide)
    exact congrArg (fun w : Watch => w.invoices.lookup 1) hw
  have hstate := (hall _ _ hrun .refl 1 _ _ hdoc hdoc
    ⟨(txDict sampleOutput).stored, by decide, by decide⟩).2.2
  exact hstate (by decide)

end V4vappDash
