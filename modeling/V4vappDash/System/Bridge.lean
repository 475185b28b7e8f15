import V4vappDash.Api.Moves
import V4vappDash.Lib.Interleaving
import V4vappDash.System.Coherence
import V4vappDash.Watcher.Steps

set_option autoImplicit false

/-! # The bridge

The whole system on one collection: requests that create and cancel invoices, and one watcher
whose ticks follow each other under a clock that never goes back. All of them interleave at
every database and node call; requests may fail anywhere and the watcher's process may restart.

What a tick holds in its hands is a `Snapshot`: the document is still the one that was read, or
it was read as open and has been canceled since. In the second case no update matches.
-/

namespace V4vappDash

open Interleaving

/-- The shared state. There is one watcher, so where it is in its tick belongs here. -/
structure Bridge where
  db : Database
  watcher : WatcherState
  clock : Datetime
  phase : TickPhase

namespace Bridge

/-- The collection and the state of the watcher. -/
def watch (s : Bridge) : Watch := ⟨s.db.invoices, s.watcher⟩

def setInvoices (s : Bridge) (invoices : Invoices) : Bridge :=
  { s with db := { s.db with invoices } }

/-- The state after a step of the watcher. -/
def setWatch (s : Bridge) (r : Watch × TickPhase) : Bridge :=
  { s with db := { s.db with invoices := r.1.invoices }, watcher := r.1.watcher, phase := r.2 }

end Bridge

/-- Who acts on the shared state. -/
inductive Actor
  | clock
  | watcher
  | create (settings : Settings) (body : InvoiceCreate) (phase : CreatePhase)
  | cancel (id : ObjectId)
  /-- A cancel request that has read the clock. -/
  | canceling (id : ObjectId) (now : Datetime)
  /-- A cancel request whose update matched nothing. -/
  | cancelMissed (id : ObjectId)
  | cancelAnswered (answer : Except ApiError InvoiceDoc)

/-- One atomic step of an actor. `settings` are those of the watcher's process; a request may be
served by another one. -/
inductive ActorStep (bip44 : Bip44) (settings : Settings) :
    Bridge → Actor → Bridge → Actor → Prop
  | clock {s : Bridge} (now : Datetime) (h : s.clock ≤ now) :
      ActorStep bip44 settings s .clock { s with clock := now } .clock
  | watch {s : Bridge} (input : TickInput) (hnow : input.now = s.clock) :
      ActorStep bip44 settings s .watcher
        (s.setWatch (watchStep settings input s.watch s.phase)) .watcher
  | restart {s : Bridge} :
      ActorStep bip44 settings s .watcher { s with watcher := {}, phase := .idle } .watcher
  | create {s : Bridge} {own : Settings} {body : InvoiceCreate} {phase : CreatePhase}
      (input : CreateInput) :
      ActorStep bip44 settings s (.create own body phase)
        { s with db := (createStep own bip44 body input s.db phase).1 }
        (.create own body (createStep own bip44 body input s.db phase).2)
  | createFails {s : Bridge} {own : Settings} {body : InvoiceCreate} {phase : CreatePhase}
      (failure : Failure) :
      ActorStep bip44 settings s (.create own body phase) s (.create own body (.failed failure))
  | cancelRead {s : Bridge} {id : ObjectId} :
      ActorStep bip44 settings s (.cancel id) s (.canceling id s.clock)
  | cancelUpdate {s : Bridge} {id : ObjectId} {now : Datetime} (doc : InvoiceDoc)
      (hdoc : s.db.invoices.lookup id = some doc) (hc : cancelable doc = true) :
      ActorStep bip44 settings s (.canceling id now)
        (s.setInvoices (cancelUpdate s.db.invoices id now))
        (.cancelAnswered (.ok (cancelDoc now doc)))
  | cancelMiss {s : Bridge} {id : ObjectId} {now : Datetime}
      (h : ∀ doc, s.db.invoices.lookup id = some doc → cancelable doc = false) :
      ActorStep bip44 settings s (.canceling id now) s (.cancelMissed id)
  | cancelLookup {s : Bridge} {id : ObjectId} :
      ActorStep bip44 settings s (.cancelMissed id) s
        (.cancelAnswered (.error (cancelRefusal (s.db.invoices.lookup id))))

/-- The clock, the watcher, and any number of requests. -/
def bridge (bip44 : Bip44) (settings : Settings) : Family Bridge Actor where
  spawn := fun l => l = .clock ∨ l = .watcher ∨ (∃ own body, l = .create own body .received) ∨
    ∃ id, l = .cancel id
  step := ActorStep bip44 settings

/-! ## Created invoices -/

/-- The document as it was created: with the fields reset that cancels and ticks write. -/
def InvoiceDoc.asCreated (doc : InvoiceDoc) : InvoiceDoc :=
  { doc with
    state := .OPEN
    firstSeenAt := none
    detectedAt := none
    settledAt := none
    canceledAt := none
    duffsReceived := 0
    satsCredited := none
    latePayment := false
    txids := []
    updatedAt := doc.createdAt }

/-- A document that `create_invoice` has built from a quote. -/
def Created (doc : InvoiceDoc) : Prop :=
  ∃ settings body pricing address derivation now,
    pricing.quote.dashQuoted = dashAmountString pricing.quote.duffsQuoted ∧
      doc = newInvoice settings body pricing address derivation now

/-- An update leaves the terms of the document alone. -/
theorem asCreated_persistDoc (prev : DashInvoiceState) (d : Decision) (now : Datetime)
    (doc : InvoiceDoc) : (persistDoc prev d now doc).asCreated = doc.asCreated := by
  unfold persistDoc
  split <;> rfl

/-! ## The invariant -/

/-- A stored document: timely, and created with integers that BSON holds. -/
structure StoredOk (now : Datetime) (doc : InvoiceDoc) : Prop where
  timely : Timely now doc
  created : Created doc.asCreated
  ints : doc.asCreated.newInts.all bsonInt64 = true

/-- What a tick that started at `now` knows about a document it read as `inv`. -/
structure Snapshot (now : Datetime) (inv doc : InvoiceDoc) : Prop where
  watched : inv.state ∈ WATCH_STATES
  timely : Timely now inv
  current : doc = inv ∨ ∃ t, cancelable inv = true ∧ doc = cancelDoc t inv

/-- The rest of a batch in the hands of a tick. -/
structure BatchOk (invoices : Invoices) (now : Datetime) (batch : List (ObjectId × InvoiceDoc)) :
    Prop where
  distinct : batch.Pairwise (fun a b => a.1 ≠ b.1)
  snapshot : ∀ e ∈ batch, ∃ doc, invoices.lookup e.1 = some doc ∧ Snapshot now e.2 doc

def PhaseOk (invoices : Invoices) (clock : Datetime) : TickPhase → Prop
  | .idle => True
  | .loaded batch => BatchOk invoices clock batch
  | .applying now _ rest => now ≤ clock ∧ BatchOk invoices now rest

structure BridgeOk (s : Bridge) : Prop where
  docs : ∀ id doc, s.db.invoices.lookup id = some doc → StoredOk s.clock doc
  phase : PhaseOk s.db.invoices s.clock s.phase

def CreatePhase.Ok : CreatePhase → Prop
  | .priced _ pricing | .limited _ pricing | .allocated _ pricing _ => pricing.Ok
  | .built doc => Created doc
  | _ => True

def ActorOk (s : Bridge) : Actor → Prop
  | .create _ _ phase => phase.Ok
  | .canceling _ now => now ≤ s.clock
  | _ => True

/-! ## Snapshots -/

theorem StoredOk.mono {now later : Datetime} {doc : InvoiceDoc} (h : StoredOk now doc)
    (hle : now ≤ later) : StoredOk later doc :=
  ⟨h.timely.mono hle, h.created, h.ints⟩

theorem BatchOk.mono {invoices : Invoices} {now later : Datetime}
    {batch : List (ObjectId × InvoiceDoc)} (h : BatchOk invoices now batch) (hle : now ≤ later) :
    BatchOk invoices later batch := by
  refine ⟨h.distinct, ?_⟩
  intro e he
  obtain ⟨doc, hdoc, hsnap⟩ := h.snapshot e he
  exact ⟨doc, hdoc, hsnap.watched, hsnap.timely.mono hle, hsnap.current⟩

/-- A cancel leaves a snapshot a snapshot. -/
theorem Snapshot.cancelDoc {now t : Datetime} {inv doc : InvoiceDoc} (h : Snapshot now inv doc)
    (hc : cancelable doc = true) : Snapshot now inv (cancelDoc t doc) := by
  refine ⟨h.watched, h.timely, ?_⟩
  rcases h.current with rfl | ⟨t', -, rfl⟩
  · exact Or.inr ⟨t, hc, rfl⟩
  · cases hc

section Snapshot

variable {settings : Settings} {node : Node} {utxos : List Utxo} {now : Datetime}
  {inv doc : InvoiceDoc} {d : Decision}

/-- What an update by a tick that read `inv` can have overwritten. -/
theorem Snapshot.writes (h : Snapshot now inv doc)
    (hd : decideInvoice settings node inv utxos now = .ok d)
    (hf : persistFilter inv.state d.state doc.state = true) : Writes inv d doc.state := by
  obtain ⟨fresh, -, -, rfl⟩ := decideInvoice_ok hd
  exact writes_of_persistFilter h.watched (fun hs => preExpiry_mergeOutputs fresh
    h.timely.consistent (h.timely.coherent.seenInTime hs)) hf

/-- An update that matches finds the document that was read. -/
theorem Snapshot.eq_of_persistFilter (h : Snapshot now inv doc)
    (hd : decideInvoice settings node inv utxos now = .ok d)
    (hf : persistFilter inv.state d.state doc.state = true) : doc = inv := by
  rcases h.current with heq | ⟨t, hc, rfl⟩
  · exact heq
  · -- canceled since: only a decision on a canceled document matches, and this one was open
    have hw := h.writes hd hf
    rw [cancelDoc_state] at hw
    cases hw with
    | onCanceled hprev => rw [(cancelable_iff.mp hc).1] at hprev; cases hprev

theorem Snapshot.timely_persistDoc {clock : Datetime} (h : Snapshot now inv doc)
    (hd : decideInvoice settings node inv utxos now = .ok d) (hle : now ≤ clock)
    (hdoc : Timely clock doc) : Timely clock (persistDoc inv.state d now doc) := by
  unfold persistDoc
  by_cases hf : persistFilter inv.state d.state doc.state = true
  -- the update found what was read, so it keeps it timely
  · rw [if_pos hf, h.eq_of_persistFilter hd hf]
    obtain ⟨fresh, -, hfresh, rfl⟩ := decideInvoice_ok hd
    exact (h.timely.update h.watched hfresh).mono hle
  · rw [if_neg hf]
    exact hdoc

end Snapshot

/-! ## Later versions of a document -/

/-- A later version of a document: its terms are the same, every recorded outpoint is still
there with the first-seen time it had, and a document with an output in time is never open,
expired or canceled again, unless it was canceled before. -/
structure Later (doc doc' : InvoiceDoc) : Prop where
  terms : doc'.asCreated = doc.asCreated
  kept : ∀ row ∈ doc.txids, ∃ row' ∈ doc'.txids, row'.key = row.key
  fixed : ∀ row ∈ doc.txids, ∀ row' ∈ doc'.txids, row'.key = row.key →
    row'.detectedAt = row.detectedAt
  frozen : SeenInTime doc.txids doc.expiresAt → doc.state ≠ .CANCELED →
    doc'.state ≠ .OPEN ∧ doc'.state ≠ .EXPIRED ∧ doc'.state ≠ .CANCELED

theorem Later.expiresAt {doc doc' : InvoiceDoc} (h : Later doc doc') :
    doc'.expiresAt = doc.expiresAt := by
  have := congrArg InvoiceDoc.expiresAt h.terms
  exact this

/-- With an output in time, a coherent document is not open or expired. -/
theorem Coherent.not_of_seenInTime {doc : InvoiceDoc} (h : Coherent doc)
    (hseen : SeenInTime doc.txids doc.expiresAt) : doc.state ≠ .OPEN ∧ doc.state ≠ .EXPIRED := by
  obtain ⟨row, hrow, hlt⟩ := hseen
  constructor
  · intro hs
    rw [(h.opened hs).1] at hrow
    cases hrow
  · intro hs
    have hle := h.expired hs row hrow
    omega

theorem Later.refl {now : Datetime} {doc : InvoiceDoc} (h : Timely now doc) : Later doc doc where
  terms := rfl
  kept := fun row hrow => ⟨row, hrow, rfl⟩
  fixed := fun row hrow row' hrow' hkey => h.consistent row' hrow' row hrow hkey
  frozen := fun hseen hc =>
    ⟨(h.coherent.not_of_seenInTime hseen).1, (h.coherent.not_of_seenInTime hseen).2, hc⟩

theorem Later.seenInTime {doc doc' : InvoiceDoc} (h : Later doc doc')
    (hseen : SeenInTime doc.txids doc.expiresAt) : SeenInTime doc'.txids doc'.expiresAt := by
  obtain ⟨row, hrow, hlt⟩ := hseen
  obtain ⟨row', hrow', hkey⟩ := h.kept row hrow
  exact ⟨row', hrow', by rw [h.fixed row hrow row' hrow' hkey, h.expiresAt]; exact hlt⟩

theorem Later.trans {doc doc' doc'' : InvoiceDoc} (h : Later doc doc') (h' : Later doc' doc'') :
    Later doc doc'' where
  terms := h'.terms.trans h.terms
  kept := by
    intro row hrow
    obtain ⟨row', hrow', hkey'⟩ := h.kept row hrow
    obtain ⟨row'', hrow'', hkey''⟩ := h'.kept row' hrow'
    exact ⟨row'', hrow'', hkey''.trans hkey'⟩
  fixed := by
    intro row hrow row'' hrow'' hkey
    obtain ⟨row', hrow', hkey'⟩ := h.kept row hrow
    calc row''.detectedAt
        = row'.detectedAt := h'.fixed row' hrow' row'' hrow'' (hkey.trans hkey'.symm)
      _ = row.detectedAt := h.fixed row hrow row' hrow' hkey'
  frozen := fun hseen hc => h'.frozen (h.seenInTime hseen) (h.frozen hseen hc).2.2

theorem later_cancelDoc {now t : Datetime} {doc : InvoiceDoc} (h : Timely now doc)
    (hc : cancelable doc = true) : Later doc (cancelDoc t doc) where
  terms := rfl
  kept := fun row hrow => ⟨row, hrow, rfl⟩
  fixed := fun row hrow row' hrow' hkey => h.consistent row' hrow' row hrow hkey
  frozen := fun hseen _ =>
    absurd (cancelable_iff.mp hc).1 (h.coherent.not_of_seenInTime hseen).1

theorem Snapshot.later_persistDoc {settings : Settings} {node : Node} {utxos : List Utxo}
    {now clock : Datetime} {inv doc : InvoiceDoc} {d : Decision} (h : Snapshot now inv doc)
    (hd : decideInvoice settings node inv utxos now = .ok d) (hdoc : Timely clock doc) :
    Later doc (persistDoc inv.state d now doc) := by
  unfold persistDoc
  by_cases hf : persistFilter inv.state d.state doc.state = true
  · rw [if_pos hf]
    obtain rfl : doc = inv := h.eq_of_persistFilter hd hf
    obtain ⟨fresh, -, -, rfl⟩ := decideInvoice_ok hd
    have htxids := settle_txids doc (mergeOutputs doc.txids fresh) now
    refine ⟨rfl, ?_, ?_, ?_⟩
    · intro row hrow
      obtain ⟨out, hout, hkey⟩ := exists_mem_mergeOutputs fresh hrow
      -- every recorded outpoint is in the merge
      refine ⟨(txDict out).stored, ?_, hkey⟩
      rw [update_txids, htxids]
      exact mem_storedRows.mpr ⟨out, hout, rfl⟩
    · intro row hrow row' hrow' hkey
      rw [update_txids, htxids] at hrow'
      obtain ⟨out, hout, rfl⟩ := mem_storedRows.mp hrow'
      -- the merge keeps the recorded time, a stored one, and storing it again changes nothing
      have hat := mergeOutputs_detectedAt h.timely.consistent hrow hout hkey
      calc Datetime.stored out.detectedAt
          = Datetime.stored row.detectedAt.val := congrArg Datetime.stored hat
        _ = row.detectedAt := stored_val row.detectedAt
    · intro hseen hc
      -- an output in time: the document was detected, and is decided with one in time again
      have hnot := h.timely.coherent.not_of_seenInTime hseen
      have hdet : doc.state = .DETECTED := by
        simpa [mem_WATCH_STATES, hnot.1, hnot.2, hc] using h.watched
      rw [update_state]
      rcases settle_seenInTime now (Or.inr hdet)
        (preExpiry_mergeOutputs fresh h.timely.consistent hseen) with hs | hs
      · rw [hs]; decide
      · refine ⟨?_, ?_, ?_⟩ <;> intro heq <;> rw [heq] at hs <;> cases hs
  · rw [if_neg hf]
    exact .refl hdoc

end V4vappDash
