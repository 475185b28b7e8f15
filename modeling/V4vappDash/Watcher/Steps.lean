import V4vappDash.Watcher.Persist

set_option autoImplicit false

/-! # A tick as a sequence of atomic steps

Between its database and node calls a tick gives up control, and cancels and creates run.
`watchStep` is one iteration of `run_watcher` cut at these calls; each step makes at most one
conditional update. Taken one after another with the same input, the steps are the iteration as
a whole: `watchStep_runWatcherOnce`.
-/

namespace V4vappDash

/-- Where the watcher is in its tick. -/
inductive TickPhase
  | idle
  /-- The batch is loaded; next are the node's answer and the clock. -/
  | loaded (batch : List (ObjectId × InvoiceDoc))
  /-- The invoices in `rest` are still to be decided and stored. -/
  | applying (now : Datetime) (utxosFor : String → List Utxo)
      (rest : List (ObjectId × InvoiceDoc))

def Watch.withLastError (w : Watch) (lastError : Option String) : Watch :=
  { w with watcher := { w.watcher with lastError } }

/-- One atomic step of the watcher. -/
def watchStep (settings : Settings) (input : TickInput) (w : Watch) :
    TickPhase → Watch × TickPhase
  | .idle =>
      match input.findError with
      -- `run_watcher` catches everything and goes on
      | some message => (w.withLastError (some message), .idle)
      | none =>
          -- from here on other writers may change what was read
          let batch := loadBatch w.invoices settings.dashWatchBatch w.watcher.lastId
          (w.afterLoad settings batch, .loaded batch)
  | .loaded batch =>
      match askNode input.node (batchAddresses batch) with
      | .error (.dashdError _) =>
          -- `tick` records the error and returns, and `run_watcher` clears it
          ({ w with watcher := { w.watcher with
              lastError := none
              lastTickAt := some input.now
              ticks := w.watcher.ticks + 1 } }, .idle)
      | .error e => (w.withLastError (some e.str), .idle)
      | .ok raw => (w, .applying input.now (utxosByAddr (batchAddresses batch) raw) batch)
  | .applying now _ [] =>
      ({ w with watcher := { w.watcher with
          lastError := none
          lastTickAt := some now
          ticks := w.watcher.ticks + 1 } }, .idle)
  | .applying now utxosFor ((id, inv) :: rest) =>
      match applyInvoice settings { input with now } id inv (utxosFor inv.address) w with
      | (w', .ok ()) => (w', .applying now utxosFor rest)
      | (w', .error e) => (w'.withLastError (some e.str), .idle)

/-! ## The steps make up the tick -/

/-- `watchStep` on the state and the phase together. -/
def watchNext (settings : Settings) (input : TickInput) (s : Watch × TickPhase) :
    Watch × TickPhase :=
  watchStep settings input s.1 s.2

/-- How the watcher ends a tick whose batch has been applied. -/
def endBatch (now : Datetime) : Watch × Except Exn Unit → Watch
  | (w, .ok ()) =>
      { w with watcher := { w.watcher with
          lastError := none
          lastTickAt := some now
          ticks := w.watcher.ticks + 1 } }
  | (w, .error e) => w.withLastError (some e.str)

theorem watchNext_applyBatch (settings : Settings) (input : TickInput)
    (utxosFor : String → List Utxo) (batch : List (ObjectId × InvoiceDoc)) (w : Watch) :
    ∃ n, (watchNext settings input)^[n] (w, .applying input.now utxosFor batch)
      = (endBatch input.now (applyBatch settings input utxosFor batch w), .idle) := by
  induction batch generalizing w with
  | nil => exact ⟨1, rfl⟩
  | cons e rest ih =>
      obtain ⟨id, inv⟩ := e
      cases ha : applyInvoice settings input id inv (utxosFor inv.address) w with
      | mk w' result =>
          cases result with
          -- the exception ends the batch
          | error e =>
              refine ⟨1, ?_⟩
              rw [Function.iterate_one, watchNext, watchStep, applyBatch, ha]
              rfl
          | ok u =>
              obtain ⟨n, hn⟩ := ih w'
              refine ⟨n + 1, ?_⟩
              have hstep : watchNext settings input
                  (w, .applying input.now utxosFor ((id, inv) :: rest))
                  = (w', .applying input.now utxosFor rest) := by
                rw [watchNext, watchStep, ha]
              rw [Function.iterate_succ_apply, hstep, hn, applyBatch, ha]

/-- **One iteration is its steps.** Without anyone in between, the atomic steps of an iteration
lead from `idle` to `idle` and do what `runWatcherOnce` does. -/
theorem watchStep_runWatcherOnce (settings : Settings) (input : TickInput) (w : Watch) :
    ∃ n, (watchNext settings input)^[n] (w, .idle)
      = (runWatcherOnce settings input w, .idle) := by
  cases hfind : input.findError with
  | some message =>
      refine ⟨1, ?_⟩
      rw [Function.iterate_one, watchNext, watchStep, runWatcherOnce, tick, hfind]
      rfl
  | none =>
      let batch := loadBatch w.invoices settings.dashWatchBatch w.watcher.lastId
      have hload : watchNext settings input (w, .idle)
          = (w.afterLoad settings batch, .loaded batch) := by
        rw [watchNext, watchStep, hfind]
      cases hask : askNode input.node (batchAddresses batch) with
      | error e =>
          refine ⟨2, ?_⟩
          rw [Function.iterate_succ_apply, hload, Function.iterate_one, watchNext, watchStep, hask,
            runWatcherOnce, tick, hfind]
          dsimp only
          rw [hask]
          cases e <;> rfl
      | ok raw =>
          obtain ⟨n, hn⟩ := watchNext_applyBatch settings input
            (utxosByAddr (batchAddresses batch) raw) batch (w.afterLoad settings batch)
          -- loading, the answer of the node, and the steps of the batch
          refine ⟨n + 2, ?_⟩
          have hanswer : watchNext settings input (w.afterLoad settings batch, .loaded batch)
              = (w.afterLoad settings batch,
                .applying input.now (utxosByAddr (batchAddresses batch) raw) batch) := by
            rw [watchNext, watchStep, hask]
          rw [Function.iterate_succ_apply, Function.iterate_succ_apply, hload, hanswer, hn,
            runWatcherOnce, tick, hfind]
          dsimp only
          rw [hask]
          dsimp only
          cases applyBatch settings input (utxosByAddr (batchAddresses batch) raw) batch
            (w.afterLoad settings batch) with
          | mk w' result => cases result <;> rfl

/-! ## What a step does to the collection -/

/-- What `applyInvoice` does to the collection: nothing, or the conditional update by a decision
on the document that was read. -/
theorem applyInvoice_invoices (settings : Settings) (input : TickInput) (id : ObjectId)
    (inv : InvoiceDoc) (utxos : List Utxo) (w : Watch) :
    (applyInvoice settings input id inv utxos w).1.invoices = w.invoices ∨
    ∃ d, decideInvoice settings input.node inv utxos input.now = .ok d ∧
      (applyInvoice settings input id inv utxos w).1.invoices
        = Collection.updateIf w.invoices id (fun doc => persistFilter inv.state d.state doc.state)
          (d.update input.now) := by
  unfold applyInvoice
  cases hd : decideInvoice settings input.node inv utxos input.now with
  | error e => exact Or.inl rfl
  | ok d =>
      dsimp only
      cases hu : input.updateError id with
      | some message => exact Or.inl (Watch.countStuck_invoices d w)
      | none =>
          unfold persist
          rw [Watch.countStuck_invoices]
          by_cases hints : d.ints.all bsonInt64 = true
          · rw [if_pos hints]
            exact Or.inr ⟨d, rfl, rfl⟩
          · rw [if_neg hints]
            exact Or.inl (Watch.countStuck_invoices d w)

/-- **What a step does to the collection**: nothing, or the conditional update by a decision on
the invoice in front of the batch. -/
theorem watchStep_invoices (settings : Settings) (input : TickInput) (w : Watch)
    (phase : TickPhase) :
    (watchStep settings input w phase).1.invoices = w.invoices ∨
    ∃ now utxosFor id inv rest d, phase = .applying now utxosFor ((id, inv) :: rest) ∧
      decideInvoice settings input.node inv (utxosFor inv.address) now = .ok d ∧
      (watchStep settings input w phase).1.invoices
        = Collection.updateIf w.invoices id (fun doc => persistFilter inv.state d.state doc.state)
          (d.update now) := by
  cases phase with
  | idle =>
      unfold watchStep
      cases input.findError <;> exact Or.inl rfl
  | loaded batch =>
      unfold watchStep
      dsimp only
      cases askNode input.node (batchAddresses batch) with
      | ok raw => exact Or.inl rfl
      | error e => cases e <;> exact Or.inl rfl
  | applying now utxosFor rest =>
      cases rest with
      | nil => exact Or.inl rfl
      | cons e rest =>
          obtain ⟨id, inv⟩ := e
          have hstep : (watchStep settings input w
              (.applying now utxosFor ((id, inv) :: rest))).1.invoices
              = (applyInvoice settings { input with now } id inv (utxosFor inv.address)
                w).1.invoices := by
            rw [watchStep]
            cases applyInvoice settings { input with now } id inv (utxosFor inv.address) w with
            | mk w' result => cases result <;> rfl
          rw [hstep]
          rcases applyInvoice_invoices settings { input with now } id inv (utxosFor inv.address) w
            with hsame | ⟨d, hd, hupdate⟩
          · exact Or.inl hsame
          · exact Or.inr ⟨now, utxosFor, id, inv, rest, d, rfl, hd, hupdate⟩

/-- The step that decides and stores an invoice. -/
theorem watchStep_applying {settings : Settings} {input : TickInput} {w : Watch} {now : Datetime}
    {utxosFor : String → List Utxo} {id : ObjectId} {inv : InvoiceDoc} {d : Decision}
    (hd : decideInvoice settings input.node inv (utxosFor inv.address) now = .ok d)
    (hints : d.ints.all bsonInt64 = true) (hupdate : input.updateError id = none)
    (rest : List (ObjectId × InvoiceDoc)) :
    watchStep settings input w (.applying now utxosFor ((id, inv) :: rest))
      = ({ w.countStuck d with
          invoices := Collection.updateIf w.invoices id
            (fun doc => persistFilter inv.state d.state doc.state) (d.update now) },
        .applying now utxosFor rest) := by
  rw [watchStep]
  unfold applyInvoice persist
  simp only [hd, hupdate, hints, if_true, Watch.countStuck_invoices]

end V4vappDash
