import V4vappDash.Api.Cancel
import V4vappDash.Api.Create
import V4vappDash.Lib.Interleaving
import V4vappDash.Watcher.Persist

set_option autoImplicit false

/-! # Overlapping writers of one invoice

Any number of watcher ticks and cancel requests act on one document. A tick reads it, decides
later on what it read, and later still issues its conditional update; the document may have
changed in between, and nothing relates the clocks of two ticks. A cancel is one conditional
update.

The invariant that carries the proofs is on what a tick holds in its hands: a document it read
as `DETECTED` has a recorded output in time (`DocOk`), so that its decision is never to expire
the document or to leave it open. `Writes` says what such a decision can overwrite.
-/

namespace V4vappDash

open Interleaving

/-- A writer, by how far it has come. -/
inductive Writer
  /-- A tick that has not read yet. -/
  | tick
  | read (inv : InvoiceDoc)
  | decided (inv : InvoiceDoc) (d : Decision) (now : Datetime)
  /-- A cancel request that has read the clock. -/
  | cancel (now : Datetime)
  /-- A cancel request that has answered 200. -/
  | canceled
  /-- A writer that has ended in any other way. -/
  | finished

/-- One atomic step of a writer on the document. -/
inductive WriterStep : InvoiceDoc → Writer → InvoiceDoc → Writer → Prop
  | read {doc : InvoiceDoc} (hswept : doc.sweptAt = none) (hwatch : doc.state ∈ WATCH_STATES) :
      WriterStep doc .tick doc (.read doc)
  /-- The query does not return the document, or the tick fails. -/
  | skip {doc : InvoiceDoc} : WriterStep doc .tick doc .finished
  | decide {doc inv : InvoiceDoc} (settings : Settings) (node : Node) (utxos : List Utxo)
      (now : Datetime) {d : Decision} (hd : decideInvoice settings node inv utxos now = .ok d) :
      WriterStep doc (.read inv) doc (.decided inv d now)
  /-- `listunspent` or `gettransaction` raises. -/
  | abort {doc inv : InvoiceDoc} : WriterStep doc (.read inv) doc .finished
  | write {doc inv : InvoiceDoc} {d : Decision} {now : Datetime}
      (hints : d.ints.all bsonInt64 = true) :
      WriterStep doc (.decided inv d now) (persistDoc inv.state d now doc) .finished
  /-- The update cannot be encoded, or the database raises. -/
  | fail {doc inv : InvoiceDoc} {d : Decision} {now : Datetime} :
      WriterStep doc (.decided inv d now) doc .finished
  | cancel {doc : InvoiceDoc} {now : Datetime} (h : cancelable doc = true) :
      WriterStep doc (.cancel now) (cancelDoc now doc) .canceled
  | refuse {doc : InvoiceDoc} {now : Datetime} (h : cancelable doc = false) :
      WriterStep doc (.cancel now) doc .finished

/-- Ticks and cancel requests. -/
def writers : Family InvoiceDoc Writer where
  spawn := fun l => l = .tick ∨ ∃ now, l = .cancel now
  step := WriterStep

/-! ## The invariant -/

/-- The recorded rows agree on first-seen times, and a detected document has one in time. -/
structure DocOk (doc : InvoiceDoc) : Prop where
  consistent : Consistent doc.txids
  detected : doc.state = .DETECTED → SeenInTime doc.txids doc.expiresAt

/-- What a decision in flight is known to be: taken on a document in a watched state, from
outputs that agree on first-seen times, with one in time if it was read as detected. -/
structure DecidedOn (inv : InvoiceDoc) (d : Decision) (now : Datetime) : Prop where
  watched : inv.state ∈ WATCH_STATES
  settled : ∃ outputs, d = settle inv outputs now ∧ Consistent (storedRows outputs) ∧
    (inv.state = .DETECTED → preExpiry inv.expiresAt.val outputs ≠ [])

/-- The assertion of a writer. -/
def WriterOk (doc : InvoiceDoc) : Writer → Prop
  | .read inv => inv.state ∈ WATCH_STATES ∧ DocOk inv ∧ inv.expiresAt = doc.expiresAt
  | .decided inv d now => DecidedOn inv d now ∧ inv.expiresAt = doc.expiresAt
  | .canceled => doc.state = .CANCELED
  | _ => True

theorem decidedOn_of_decideInvoice {settings : Settings} {node : Node} {inv : InvoiceDoc}
    {utxos : List Utxo} {now : Datetime} {d : Decision}
    (hd : decideInvoice settings node inv utxos now = .ok d) (hwatch : inv.state ∈ WATCH_STATES)
    (hinv : DocOk inv) : DecidedOn inv d now := by
  obtain ⟨fresh, -, hnow, rfl⟩ := decideInvoice_ok hd
  exact ⟨hwatch, _, rfl, consistent_mergeOutputs hinv.consistent hnow,
    fun hs => preExpiry_mergeOutputs fresh hinv.consistent (hinv.detected hs)⟩

/-- What an update that matches can have been. -/
theorem DecidedOn.writes {inv doc : InvoiceDoc} {d : Decision} {now : Datetime}
    (h : DecidedOn inv d now) (hf : persistFilter inv.state d.state doc.state = true) :
    Writes inv d doc.state := by
  obtain ⟨outputs, rfl, -, hseen⟩ := h.settled
  exact writes_of_persistFilter h.watched hseen hf

/-- An update leaves a document in which the invariant holds. -/
theorem DecidedOn.docOk_update {inv doc : InvoiceDoc} {d : Decision} {now : Datetime}
    (h : DecidedOn inv d now) (hexp : inv.expiresAt = doc.expiresAt) :
    DocOk (d.update now doc) := by
  obtain ⟨outputs, rfl, hcons, hseen⟩ := h.settled
  constructor
  · rw [update_txids, settle_txids]
    exact hcons
  · intro hs
    rw [update_txids, settle_txids, update_expiresAt, ← hexp, seenInTime_storedRows]
    rw [update_state] at hs
    rcases mem_WATCH_STATES.mp h.watched with hi | hi
    · exact settle_needs_output hi (Or.inl hs)
    · -- an expired or canceled document is not decided as detected
      rw [settle_keeps outputs now hi] at hs
      rcases hi with hi | hi <;> rw [hi] at hs <;> cases hs

/-! ## What a writer can do to the document -/

/-- Another writer's view of a step: the state makes a move of the life cycle, a final document
and every `expires_at` is kept. -/
structure Advances (doc doc' : InvoiceDoc) : Prop where
  moves : DashInvoiceState.Moves doc.state doc'.state
  final : doc.state.final = true → doc' = doc
  expiresAt : doc'.expiresAt = doc.expiresAt

theorem Advances.refl (doc : InvoiceDoc) : Advances doc doc :=
  ⟨.keep _, fun _ => rfl, rfl⟩

theorem Advances.trans {doc doc' doc'' : InvoiceDoc} (h : Advances doc doc')
    (h' : Advances doc' doc'') : Advances doc doc'' := by
  refine ⟨h.moves.trans h'.moves, ?_, h'.expiresAt.trans h.expiresAt⟩
  intro hf
  have heq := h.final hf
  subst heq
  exact h'.final hf

/-- An update that matches. -/
theorem Writes.advances {inv doc : InvoiceDoc} {d : Decision} (h : Writes inv d doc.state)
    (now : Datetime) : Advances doc (d.update now doc) := by
  refine ⟨h.moves, ?_, rfl⟩
  intro hfin
  rw [h.not_final] at hfin
  cases hfin

theorem DecidedOn.advances {inv doc : InvoiceDoc} {d : Decision} {now : Datetime}
    (h : DecidedOn inv d now) : Advances doc (persistDoc inv.state d now doc) := by
  unfold persistDoc
  by_cases hf : persistFilter inv.state d.state doc.state = true
  · rw [if_pos hf]
    exact (h.writes hf).advances now
  · rw [if_neg hf]
    exact .refl doc

theorem advances_cancelDoc {doc : InvoiceDoc} {now : Datetime} (h : cancelable doc = true) :
    Advances doc (cancelDoc now doc) := by
  have hopen := (cancelable_iff.mp h).1
  refine ⟨by rw [hopen]; exact .fromOpen _, ?_, rfl⟩
  intro hf
  rw [hopen] at hf
  cases hf

theorem WriterStep.advances {doc doc' : InvoiceDoc} {l l' : Writer}
    (h : WriterStep doc l doc' l') (hl : WriterOk doc l) : Advances doc doc' := by
  cases h with
  | read | skip | decide | abort | fail | refuse => exact .refl doc
  | write => exact hl.1.advances
  | cancel h => exact advances_cancelDoc h

theorem WriterStep.docOk {doc doc' : InvoiceDoc} {l l' : Writer}
    (h : WriterStep doc l doc' l') (hdoc : DocOk doc) (hl : WriterOk doc l) : DocOk doc' := by
  cases h with
  | read | skip | decide | abort | fail | refuse => exact hdoc
  | write =>
      unfold persistDoc
      split
      · exact hl.1.docOk_update hl.2
      · exact hdoc
  | cancel h =>
      refine ⟨hdoc.consistent, ?_⟩
      intro hs
      rw [cancelDoc_state] at hs
      cases hs

theorem WriterStep.writerOk {doc doc' : InvoiceDoc} {l l' : Writer}
    (h : WriterStep doc l doc' l') (hdoc : DocOk doc) (hl : WriterOk doc l) :
    WriterOk doc' l' := by
  cases h with
  | read hswept hwatch => exact ⟨hwatch, hdoc, rfl⟩
  | decide _ _ _ _ hd => exact ⟨decidedOn_of_decideInvoice hd hl.1 hl.2.1, hl.2.2⟩
  | cancel => rfl
  | skip | abort | write | fail | refuse => trivial

/-- No writer disturbs what another one knows. -/
theorem WriterOk.stable {doc doc' : InvoiceDoc} {l : Writer} (hl : WriterOk doc l)
    (h : Advances doc doc') : WriterOk doc' l := by
  cases l with
  | read => exact ⟨hl.1, hl.2.1, hl.2.2.trans h.expiresAt.symm⟩
  | decided => exact ⟨hl.1, hl.2.trans h.expiresAt.symm⟩
  -- no move of the life cycle leads away from a canceled document
  | canceled =>
      have hm := h.moves
      rw [show doc.state = .CANCELED from hl] at hm
      generalize hs : doc'.state = s at hm
      cases hm
      exact hs
  | tick | cancel | finished => trivial

theorem writers_inductive : writers.Inductive DocOk WriterOk where
  spawn := by
    rintro doc l hdoc (rfl | ⟨now, rfl⟩) <;> trivial
  shared := fun hdoc hl h => h.docOk hdoc hl
  own := fun hdoc hl h => h.writerOk hdoc hl
  stable := fun _ hl hm h => hm.stable (h.advances hl)

/-! ## Runs -/

/-- A step in which an update that sets `sats_credited` takes effect. -/
def Credits (c c' : Config InvoiceDoc Writer) : Prop :=
  ∃ i inv d now, c.locals[i]? = some (.decided inv d now) ∧ d.satsCredited ≠ none ∧
    persistFilter inv.state d.state c.shared.state = true ∧
    c' = ⟨d.update now c.shared, c.locals.set i .finished⟩

/-- A decision that credits is final. -/
theorem DecidedOn.final_of_credit {inv : InvoiceDoc} {d : Decision} {now : Datetime}
    (h : DecidedOn inv d now) (hcredit : d.satsCredited ≠ none) : d.state.final = true := by
  obtain ⟨outputs, rfl, -, -⟩ := h.settled
  rcases mem_WATCH_STATES.mp h.watched with hi | hi
  · exact settle_final_of_credit hi hcredit
  · exact absurd (settle_keeps_credit outputs now hi) hcredit

section Run

variable {doc₀ : InvoiceDoc} {c c' : Config InvoiceDoc Writer}

theorem docOk_newInvoice (settings : Settings) (body : InvoiceCreate) (pricing : Pricing)
    (address : String) (derivation : Derivation) (now : Datetime) :
    DocOk (newInvoice settings body pricing address derivation now) := by
  constructor
  · intro r hr
    cases hr
  · intro hs
    cases hs

/-- The invariant holds throughout a run that starts with a document in which it holds. -/
theorem holds_of_run (hdoc : DocOk doc₀) (h : Run writers ⟨doc₀, []⟩ c) :
    Holds DocOk WriterOk c :=
  Run.invariant writers_inductive h ⟨hdoc, fun l hl => by cases hl⟩

theorem advances_of_run (hc : Holds DocOk WriterOk c) (h : Run writers c c') :
    Advances c.shared c'.shared :=
  Run.guarantee writers_inductive Advances.refl Advances.trans
    (fun _ hl hs => hs.advances hl) h hc

/-- After a crediting update the document is final, and no writer knows less than before. -/
theorem Credits.holds (hc : Holds DocOk WriterOk c) (h : Credits c c') :
    Holds DocOk WriterOk c' ∧ c'.shared.state.final = true := by
  obtain ⟨i, inv, d, now, hi, hcredit, hf, rfl⟩ := h
  have hl : WriterOk c.shared (.decided inv d now) := hc.2 _ (List.mem_of_getElem? hi)
  refine ⟨⟨hl.1.docOk_update hl.2, ?_⟩, hl.1.final_of_credit hcredit⟩
  intro m hm
  have hadv : Advances c.shared (d.update now c.shared) := by
    have hadv : Advances c.shared (persistDoc inv.state d now c.shared) := hl.1.advances
    rwa [persistDoc, if_pos hf] at hadv
  rcases List.mem_or_eq_of_mem_set hm with hm | rfl
  · exact (hc.2 m hm).stable hadv
  · trivial

theorem Credits.not_final (hc : Holds DocOk WriterOk c) (h : Credits c c') :
    c.shared.state.final = false := by
  obtain ⟨i, inv, d, now, hi, -, hf, -⟩ := h
  have hl : WriterOk c.shared (.decided inv d now) := hc.2 _ (List.mem_of_getElem? hi)
  exact (hl.1.writes hf).not_final

end Run

/-- **Overlapping ticks and cancels are safe.** Along every run of any number of writers from a
new document: a final document is never changed again, so at most one crediting update takes
effect; an expired or canceled one keeps its state; a detected one settles, is overpaid or
underpaid, or stays; and after a cancel that answered 200 the document stays canceled. -/
theorem overlapping_writers (settings : Settings) (body : InvoiceCreate) (pricing : Pricing)
    (address : String) (derivation : Derivation) (created : Datetime)
    {c c' : Config InvoiceDoc Writer}
    (h₀ : Run writers ⟨newInvoice settings body pricing address derivation created, []⟩ c)
    (h : Run writers c c') :
    (c.shared.state = .SETTLED ∨ c.shared.state = .OVERPAID ∨ c.shared.state = .UNDERPAID →
      c'.shared = c.shared) ∧
    (∀ c₁ c₂ c₃, Credits c c₁ → Run writers c₁ c₂ → ¬ Credits c₂ c₃) ∧
    (c.shared.state = .EXPIRED ∨ c.shared.state = .CANCELED →
      c'.shared.state = c.shared.state) ∧
    (c.shared.state = .DETECTED → c'.shared.state = .DETECTED ∨ c'.shared.state = .SETTLED ∨
      c'.shared.state = .OVERPAID ∨ c'.shared.state = .UNDERPAID) ∧
    (.canceled ∈ c.locals → c'.shared.state = .CANCELED) := by
  have hc : Holds DocOk WriterOk c := holds_of_run (docOk_newInvoice ..) h₀
  have hc' : Holds DocOk WriterOk c' := Run.invariant writers_inductive h hc
  have hadv : Advances c.shared c'.shared := advances_of_run hc h
  have hmoves := hadv.moves
  refine ⟨?_, ?_, ?_, ?_, ?_⟩
  · intro hs
    exact hadv.final (by rcases hs with hs | hs | hs <;> rw [hs] <;> rfl)
  · intro c₁ c₂ c₃ h₁ h₂ h₃
    -- the first credit makes the document final, the second one needs it not to be
    obtain ⟨hc₁, hfinal⟩ := h₁.holds hc
    have hsame := (advances_of_run hc₁ h₂).final hfinal
    have hnot := h₃.not_final (Run.invariant writers_inductive h₂ hc₁)
    rw [hsame, hfinal] at hnot
    cases hnot
  · intro hs
    generalize c'.shared.state = s at hmoves
    rcases hs with hs | hs <;> rw [hs] at hmoves ⊢ <;> cases hmoves <;> rfl
  · intro hs
    rw [hs] at hmoves
    generalize c'.shared.state = s at hmoves
    cases hmoves with
    | keep => exact Or.inl rfl
    | detected hd =>
        cases s <;> simp [DashInvoiceState.final] at hd ⊢
  · intro hmem
    -- the assertion of a writer that has answered 200
    have hstate : c.shared.state = .CANCELED := hc.2 _ hmem
    rw [hstate] at hmoves
    generalize c'.shared.state = s at hmoves
    cases hmoves
    rfl

/-! ## A run -/

/-- The payment of `sampleInvoice`. -/
def sampleUtxo : Utxo where
  txid := "tx-1"
  vout := 0
  address := some "yAddr"
  amount := ((200000 : Int) : Decimal) / 10 ^ 8

/-- A node that reports it, and knows every transaction with six confirmations. -/
def sampleNode : Node where
  listunspent := fun _ => .ok [sampleUtxo]
  gettransaction := fun _ => .ok { confirmations := some 6 }

/-- The output of `sampleUtxo`, one second after the epoch. -/
def sampleOutput : WatchedOutput where
  txid := "tx-1"
  vout := 0
  duffs := 200000
  confirmations := 6
  instantlock := false
  chainlock := false
  detectedAt := 1000000

theorem decide_sampleInvoice :
    decideInvoice {} sampleNode sampleInvoice [sampleUtxo] 1000000
      = .ok (settle sampleInvoice [sampleOutput] 1000000) := by
  have hfresh : freshOutputs {} sampleNode 1000000 [sampleUtxo] = .ok [sampleOutput] :=
    freshOutputs_single 200000 (Utxo.duffs_eq rfl (by decide)) (by decide) rfl
  exact decideInvoice_fresh _ hfresh

/-- A tick settles an invoice that a cancel request then cannot change any more. -/
theorem overlapping_writers_settled :
    ∃ c c', Run writers ⟨sampleInvoice, []⟩ c ∧ Run writers c c' ∧
      c.shared.state = .SETTLED ∧ c'.shared = c.shared := by
  let d := settle sampleInvoice [sampleOutput] 1000000
  let doc := d.update 1000000 sampleInvoice
  have hwrite : persistDoc sampleInvoice.state d 1000000 sampleInvoice = doc := rfl
  have h₀ : Run writers ⟨sampleInvoice, []⟩ ⟨doc, [.finished, .cancel 2000000]⟩ := by
    refine .head (.spawn .tick (Or.inl rfl)) ?_
    refine .head (.spawn (.cancel 2000000) (Or.inr ⟨_, rfl⟩)) ?_
    refine .head (.act 0 rfl (.read rfl (by decide))) ?_
    refine .head (.act 0 rfl (.decide _ _ _ _ decide_sampleInvoice)) ?_
    exact .single (.act 0 rfl (.write (by decide)))
  have h : Run writers ⟨doc, [.finished, .cancel 2000000]⟩ ⟨doc, [.finished, .finished]⟩ :=
    .single (.act 1 rfl (.refuse (by decide)))
  exact ⟨_, _, h₀, h, by decide, (overlapping_writers _ _ _ _ _ _ h₀ h).1 (by decide)⟩

end V4vappDash
