import V4vappDash.Watcher.Cursor

set_option autoImplicit false

/-! # The moves of the watcher

What one atomic step of a tick can do, said once (`watchStep_move`): it loads a batch, gets the
answer of the node, makes one conditional update, ends the tick, or fails and ends it early. Only
loading moves the cursor, and only the update writes.
-/

namespace V4vappDash

/-- The invoices a tick has read and not yet decided. -/
def TickPhase.batch : TickPhase → List (ObjectId × InvoiceDoc)
  | .idle => []
  | .loaded batch => batch
  | .applying _ _ rest => rest

/-- The batch of the tick has been decided. -/
def TickPhase.Finished (phase : TickPhase) : Prop :=
  ∃ now utxosFor, phase = .applying now utxosFor []

section Moves

variable (settings : Settings) (input : TickInput) (w : Watch)

/-- What a step of the watcher does. -/
inductive WatchMove : TickPhase → Watch → TickPhase → Prop
  | load (hfind : input.findError = none) :
      WatchMove .idle
        (w.afterLoad settings (loadBatch w.invoices settings.dashWatchBatch w.watcher.lastId))
        (.loaded (loadBatch w.invoices settings.dashWatchBatch w.watcher.lastId))
  | answer {batch : List (ObjectId × InvoiceDoc)} {raw : List Utxo}
      (hraw : askNode input.node (batchAddresses batch) = .ok raw) :
      WatchMove (.loaded batch) w
        (.applying input.now (utxosByAddr (batchAddresses batch) raw) batch)
  | update {now : Datetime} {utxosFor : String → List Utxo} {id : ObjectId} {inv : InvoiceDoc}
      {rest : List (ObjectId × InvoiceDoc)} {d : Decision} {w' : Watch}
      (hd : decideInvoice settings input.node inv (utxosFor inv.address) now = .ok d)
      (hinvoices : w'.invoices = Collection.updateIf w.invoices id
        (fun doc => persistFilter inv.state d.state doc.state) (d.update now))
      (hlast : w'.watcher.lastId = w.watcher.lastId) (hints : d.ints.all bsonInt64 = true) :
      WatchMove (.applying now utxosFor ((id, inv) :: rest)) w' (.applying now utxosFor rest)
  | finish {phase : TickPhase} {w' : Watch} (hphase : phase.Finished)
      (hinvoices : w'.invoices = w.invoices) (hlast : w'.watcher.lastId = w.watcher.lastId) :
      WatchMove phase w' .idle
  /-- A call has raised, or the node has not answered. -/
  | fail {phase : TickPhase} {w' : Watch} (hphase : ¬ phase.Finished)
      (hinvoices : w'.invoices = w.invoices) (hlast : w'.watcher.lastId = w.watcher.lastId) :
      WatchMove phase w' .idle

/-- Handling an invoice makes the update by its decision, or raises and writes nothing. -/
theorem applyInvoice_cases (id : ObjectId) (inv : InvoiceDoc) (utxos : List Utxo) :
    (∃ e, (applyInvoice settings input id inv utxos w).2 = .error e ∧
      (applyInvoice settings input id inv utxos w).1.invoices = w.invoices) ∨
    ((applyInvoice settings input id inv utxos w).2 = .ok () ∧
      ∃ d, decideInvoice settings input.node inv utxos input.now = .ok d ∧
        d.ints.all bsonInt64 = true ∧ (applyInvoice settings input id inv utxos w).1.invoices
          = Collection.updateIf w.invoices id
            (fun doc => persistFilter inv.state d.state doc.state) (d.update input.now)) := by
  unfold applyInvoice
  cases hd : decideInvoice settings input.node inv utxos input.now with
  | error e => exact Or.inl ⟨e, rfl, rfl⟩
  | ok d =>
      dsimp only
      cases input.updateError id with
      | some message => exact Or.inl ⟨_, rfl, Watch.countStuck_invoices d w⟩
      | none =>
          unfold persist
          rw [Watch.countStuck_invoices]
          split_ifs with hints
          · exact Or.inr ⟨rfl, d, rfl, hints, rfl⟩
          · exact Or.inl ⟨_, rfl, Watch.countStuck_invoices d w⟩

/-- Every step of the watcher is a move. -/
theorem watchStep_move (phase : TickPhase) :
    WatchMove settings input w phase (watchStep settings input w phase).1
      (watchStep settings input w phase).2 := by
  cases phase with
  | idle =>
      unfold watchStep
      cases hfind : input.findError with
      | some message => exact .fail nofun rfl rfl
      | none => exact .load hfind
  | loaded batch =>
      unfold watchStep
      dsimp only
      cases hraw : askNode input.node (batchAddresses batch) with
      | ok raw => exact .answer hraw
      | error e => cases e <;> exact .fail nofun rfl rfl
  | applying now utxosFor rest =>
      cases rest with
      | nil => exact .finish ⟨now, utxosFor, rfl⟩ rfl rfl
      | cons e rest =>
          obtain ⟨id, inv⟩ := e
          have hcases := applyInvoice_cases settings { input with now } w id inv
            (utxosFor inv.address)
          obtain ⟨stuck, hwatcher⟩ := applyInvoice_watcher settings { input with now } id inv
            (utxosFor inv.address) w
          have hlast := congrArg WatcherState.lastId hwatcher
          unfold watchStep
          dsimp only
          cases ha : applyInvoice settings { input with now } id inv (utxosFor inv.address) w with
          | mk w' result =>
              rw [ha] at hcases hlast
              rcases hcases with ⟨e, he, hinvoices⟩ | ⟨hok, d, hd, hints, hinvoices⟩
              · obtain rfl : result = .error e := he
                refine .fail ?_ hinvoices hlast
                rintro ⟨now', utxosFor', hphase⟩
                cases hphase
              · obtain rfl : result = .ok () := hok
                exact .update hd hinvoices hlast hints

end Moves

end V4vappDash
