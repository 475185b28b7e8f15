import V4vappDash.Api.Health
import V4vappDash.Watcher.Rotation

set_option autoImplicit false

/-! # Failures that can be seen

A tick that does not get through its batch is to show in `last_error`, and in the health of the
service. What ends a tick is the first of its calls that raises (`Watch.raised`). When this is
the `DashdError` of `listunspent`, `tick` records it and returns, and `run_watcher` takes the
return for a success; and an error without a text is an error to nobody. In runs without either
every failure can be seen, and in no others (`failures_visible_iff`).
-/

namespace V4vappDash

open Machine

/-! ## What ends a tick -/

/-- What handling an invoice of the batch raises. -/
def raisedBy (settings : Settings) (input : TickInput) (utxosFor : String → List Utxo)
    (e : ObjectId × InvoiceDoc) : Option Exn :=
  match decideInvoice settings input.node e.2 (utxosFor e.2.address) input.now with
  | .error e => some e
  | .ok d =>
      match input.updateError e.1 with
      | some message => some (.other message)
      | none => if d.ints.all bsonInt64 then none else some (.other "OverflowError")

/-- The first exception of the calls of a tick. -/
def Watch.raised (settings : Settings) (input : TickInput) (w : Watch) : Option Exn :=
  let batch := loadBatch w.invoices settings.dashWatchBatch w.watcher.lastId
  match input.findError with
  | some message => some (.other message)
  | none =>
      match askNode input.node (batchAddresses batch) with
      | .error e => some e
      | .ok raw =>
          batch.findSome? (raisedBy settings input (utxosByAddr (batchAddresses batch) raw))

section Raised

variable (settings : Settings) (input : TickInput)

theorem applyInvoice_result (utxosFor : String → List Utxo) (id : ObjectId) (inv : InvoiceDoc)
    (w : Watch) : (applyInvoice settings input id inv (utxosFor inv.address) w).2
      = match raisedBy settings input utxosFor (id, inv) with
        | some e => .error e
        | none => .ok () := by
  unfold applyInvoice raisedBy
  dsimp only
  cases decideInvoice settings input.node inv (utxosFor inv.address) input.now with
  | error e => rfl
  | ok d =>
      dsimp only
      cases input.updateError id with
      | some message => rfl
      | none =>
          dsimp only
          unfold persist
          split_ifs <;> rfl

/-- The loop over the batch ends with its first exception. -/
theorem applyBatch_result (utxosFor : String → List Utxo) (batch : List (ObjectId × InvoiceDoc))
    (w : Watch) : (applyBatch settings input utxosFor batch w).2
      = match batch.findSome? (raisedBy settings input utxosFor) with
        | some e => .error e
        | none => .ok () := by
  induction batch generalizing w with
  | nil => rfl
  | cons e rest ih =>
      obtain ⟨id, inv⟩ := e
      have hone := applyInvoice_result settings input utxosFor id inv w
      rw [applyBatch_cons, List.findSome?_cons]
      cases ha : applyInvoice settings input id inv (utxosFor inv.address) w with
      | mk w' result =>
          rw [ha] at hone
          cases hraised : raisedBy settings input utxosFor (id, inv) with
          | some e =>
              rw [hraised] at hone
              cases hone
              rfl
          | none =>
              rw [hraised] at hone
              cases hone
              exact ih w'

/-- A tick gets through its batch if and only if none of its calls raises. -/
theorem processes_iff (w : Watch) :
    Processes settings input w ↔ w.raised settings input = none := by
  unfold Processes Watch.raised
  dsimp only
  cases input.findError with
  | some message => simp
  | none =>
      cases askNode input.node (batchAddresses
          (loadBatch w.invoices settings.dashWatchBatch w.watcher.lastId)) with
      | error e => simp
      | ok raw =>
          have hresult := applyBatch_result settings input (utxosByAddr (batchAddresses
            (loadBatch w.invoices settings.dashWatchBatch w.watcher.lastId)) raw)
            (loadBatch w.invoices settings.dashWatchBatch w.watcher.lastId)
            (w.afterLoad settings
              (loadBatch w.invoices settings.dashWatchBatch w.watcher.lastId))
          dsimp only
          cases hraised : (loadBatch w.invoices settings.dashWatchBatch
              w.watcher.lastId).findSome? _ with
          | none =>
              rw [hraised] at hresult
              exact iff_of_true ⟨rfl, raw, rfl, hresult⟩ rfl
          | some e =>
              rw [hraised] at hresult
              refine iff_of_false ?_ nofun
              rintro ⟨-, raw', hraw', hok⟩
              cases hraw'
              rw [hresult] at hok
              cases hok

end Raised

/-! ## What is left of it -/

/-- The lookup of an output has its `DashdError` caught. -/
theorem enrich_error {node : Node} {utxo : Utxo} {duffs : Int} {now : Datetime} {e : Exn}
    (h : enrich node utxo duffs now = .error e) : ∃ message, e = .other message := by
  unfold enrich at h
  dsimp only at h
  split at h
  · cases h
  · cases h
  · next e' hne _ =>
      cases h
      cases e with
      | other message => exact ⟨message, rfl⟩
      | dashdError message => exact absurd rfl (hne message)

theorem freshOutputs_error {settings : Settings} {node : Node} {now : Datetime}
    {utxos : List Utxo} {e : Exn} (h : freshOutputs settings node now utxos = .error e) :
    ∃ message, e = .other message := by
  induction utxos with
  | nil => cases h
  | cons utxo rest ih =>
      unfold freshOutputs at h
      split_ifs at h with hdust
      · exact ih h
      · cases he : enrich node utxo utxo.duffs now with
        | error e' =>
            rw [he] at h
            cases h
            exact enrich_error he
        | ok out =>
            rw [he] at h
            dsimp only at h
            cases hrest : freshOutputs settings node now rest with
            | error e' =>
                rw [hrest] at h
                cases h
                exact ih hrest
            | ok outs =>
                rw [hrest] at h
                cases h

/-- Handling an invoice raises no `DashdError`. -/
theorem raisedBy_other {settings : Settings} {input : TickInput} {utxosFor : String → List Utxo}
    {entry : ObjectId × InvoiceDoc} {e : Exn}
    (h : raisedBy settings input utxosFor entry = some e) : ∃ message, e = .other message := by
  unfold raisedBy decideInvoice at h
  cases hf : freshOutputs settings input.node input.now (utxosFor entry.2.address) with
  | error e' =>
      rw [hf] at h
      cases h
      exact freshOutputs_error hf
  | ok fresh =>
      rw [hf] at h
      dsimp only at h
      cases hu : input.updateError entry.1 with
      | some message =>
          rw [hu] at h
          cases h
          exact ⟨message, rfl⟩
      | none =>
          rw [hu] at h
          dsimp only at h
          split_ifs at h
          cases h
          exact ⟨_, rfl⟩

/-- **The last error after an iteration** is the text of what ended it, unless this was the
`DashdError` of `listunspent`. -/
theorem runWatcherOnce_lastError (settings : Settings) (input : TickInput) (w : Watch) :
    (runWatcherOnce settings input w).watcher.lastError
      = match w.raised settings input with
        | some (.other message) => some message
        | some (.dashdError _) => none
        | none => none := by
  unfold runWatcherOnce tick Watch.raised
  cases input.findError with
  | some message => rfl
  | none =>
      dsimp only
      generalize loadBatch w.invoices settings.dashWatchBatch w.watcher.lastId = batch
      cases askNode input.node (batchAddresses batch) with
      | error e => cases e <;> rfl
      | ok raw =>
          have hresult := applyBatch_result settings input
            (utxosByAddr (batchAddresses batch) raw) batch (w.afterLoad settings batch)
          dsimp only
          cases ha : applyBatch settings input (utxosByAddr (batchAddresses batch) raw) batch
              (w.afterLoad settings batch) with
          | mk w' result =>
              rw [ha] at hresult
              cases hraised : batch.findSome?
                  (raisedBy settings input (utxosByAddr (batchAddresses batch) raw)) with
              | none =>
                  rw [hraised] at hresult
                  cases hresult
                  rfl
              | some e =>
                  rw [hraised] at hresult
                  cases hresult
                  obtain ⟨entry, -, hentry⟩ := List.exists_of_findSome?_eq_some hraised
                  obtain ⟨message, rfl⟩ := raisedBy_other hentry
                  rfl

/-! ## Runs -/

/-- After a tick, `last_error` is set if and only if the tick did not get through its batch, and
so is a degraded health, when the database and the node are up. -/
def FailureVisible (settings : Settings) (w : Watch) : WatchAction → Prop
  | .tick input =>
      let w' := runWatcherOnce settings input w
      (w'.watcher.lastError ≠ none ↔ ¬ Processes settings input w) ∧
      ∀ h : HealthInput, h.Up → h.watcher = some w'.watcher →
        ((health settings h).status = .degraded ↔ ¬ Processes settings input w)
  | .change _ => True

/-- What ends the tick, if anything does, has a text and is not the `DashdError` of
`listunspent`. -/
def PlainFailure (settings : Settings) (w : Watch) : WatchAction → Prop
  | .tick input =>
      match w.raised settings input with
      | some (.other message) => message ≠ ""
      | some (.dashdError _) => False
      | none => True
  | .change _ => True

/-- A request for the health, with the database and the node up. -/
def upHealth (watcher : WatcherState) : HealthInput :=
  ⟨some (.ok none), some (.ok {}), some watcher, 0⟩

theorem up_upHealth (watcher : WatcherState) : (upHealth watcher).Up :=
  ⟨⟨none, rfl⟩, {}, rfl, rfl⟩

/-- **The step lemma.** -/
theorem failureVisible_iff (settings : Settings) (w : Watch) (a : WatchAction) :
    FailureVisible settings w a ↔ PlainFailure settings w a := by
  cases a with
  | change invoices => exact Iff.rfl
  | tick input =>
      have hlast := runWatcherOnce_lastError settings input w
      have hdegraded : ∀ h : HealthInput, h.Up →
          h.watcher = some (runWatcherOnce settings input w).watcher →
          ((health settings h).status = .degraded ↔
            errorSet (runWatcherOnce settings input w).watcher.lastError = true) :=
        fun h hup hw => hup.degraded_iff settings hw
      unfold FailureVisible PlainFailure
      dsimp only
      rw [processes_iff]
      cases hraised : w.raised settings input with
      | none =>
          rw [hraised] at hlast
          rw [hlast] at hdegraded ⊢
          refine iff_of_true ⟨by simp, ?_⟩ trivial
          intro h hup hw
          rw [hdegraded h hup hw]
          simp [errorSet]
      | some e =>
          rw [hraised] at hlast
          cases e with
          | dashdError message =>
              -- `run_watcher` has cleared what `tick` recorded
              rw [hlast]
              refine iff_of_false ?_ id
              rintro ⟨hset, -⟩
              exact hset.mpr nofun rfl
          | other message =>
              rw [hlast] at hdegraded ⊢
              dsimp only at hdegraded ⊢
              constructor
              · rintro ⟨-, hall⟩ rfl
                have hstatus := (hall _ (up_upHealth _) rfl).mpr nofun
                rw [hdegraded _ (up_upHealth _) rfl] at hstatus
                cases hstatus
              · intro htext
                refine ⟨iff_of_true nofun nofun, ?_⟩
                intro h hup hw
                rw [hdegraded h hup hw]
                exact iff_of_true (by simpa [errorSet] using htext) nofun

/-- **Failures that can be seen.** In every sequence of iterations, with anything happening to
the collection between them: every failure shows after its iteration and nothing else does, if
and only if no iteration ends with the `DashdError` of `listunspent` or with an error without a
text. -/
theorem failures_visible_iff (settings : Settings) (w : Watch) (actions : List WatchAction) :
    Along (Watch.act settings) (FailureVisible settings) w actions ↔
      Along (Watch.act settings) (PlainFailure settings) w actions := by
  have hany : Along (Watch.act settings) (fun _ _ => True) w actions :=
    along_of_mem (fun _ _ _ => trivial)
  have hiff : ∀ (w : Watch) (a : WatchAction), True → True →
      (FailureVisible settings w a ↔ PlainFailure settings w a) := by
    intro w a _ _
    exact failureVisible_iff settings w a
  exact Along.congr (fun _ _ _ => trivial) hiff hany trivial

/-- The node does not answer for the wallet, and the health is good. -/
theorem wallet_outage_hidden :
    let w : Watch := ⟨twoInvoices, {}⟩
    let w' := runWatcherOnce {} downInput w
    ¬ Processes {} downInput w ∧ w'.watcher.lastError = none ∧
      (health {} (upHealth w'.watcher)).status = .ok ∧
      ¬ Along (Watch.act {}) (FailureVisible {}) w [.tick downInput] := by
  intro w w'
  have hfailed : ¬ Processes {} downInput w := not_processes_downInput {} rfl
  have hnone : w'.watcher.lastError = none := rfl
  refine ⟨hfailed, hnone, rfl, ?_⟩
  rintro ⟨⟨hset, -⟩, -⟩
  exact hset.mpr hfailed hnone

end V4vappDash
