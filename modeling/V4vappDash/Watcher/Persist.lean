import V4vappDash.Watcher.Loop

set_option autoImplicit false

/-! # What one tick does to one invoice

Specifications of the steps of `_apply_invoice` and `_persist`: where the fresh outputs come
from (`mem_freshOutputs`), what a decision on a document that was read can be
(`settle_watching`, `settle_keeps`), and which stored states a conditional update can match
(`writes_of_persistFilter`). The proofs about whole runs use these and do not unfold the code
again.
-/

namespace V4vappDash

/-! ## Fresh outputs -/

/-- An enriched output is the reported one, first seen now. -/
theorem enrich_ok {node : Node} {utxo : Utxo} {duffs : Int} {now : Datetime}
    {out : WatchedOutput} (h : enrich node utxo duffs now = .ok out) :
    out.key = (utxo.txid, utxo.vout) ∧ out.duffs = duffs ∧ out.detectedAt = now := by
  unfold enrich at h
  dsimp only at h
  split at h <;> cases h <;> exact ⟨rfl, rfl, rfl⟩

/-- The first loop of `_apply_invoice`, one entry of the answer at a time: dust is skipped, and
anything else is enriched and put in front. -/
theorem freshOutputs_cons {settings : Settings} {node : Node} {now : Datetime} {utxo : Utxo}
    {rest : List Utxo} {fresh : List WatchedOutput}
    (h : freshOutputs settings node now (utxo :: rest) = .ok fresh) :
    (utxo.duffs < settings.dashDustDuffs ∧
      freshOutputs settings node now rest = .ok fresh) ∨
    (settings.dashDustDuffs ≤ utxo.duffs ∧ ∃ out outs,
      enrich node utxo utxo.duffs now = .ok out ∧
      freshOutputs settings node now rest = .ok outs ∧ fresh = out :: outs) := by
  rw [freshOutputs] at h
  by_cases hdust : utxo.duffs < settings.dashDustDuffs
  · rw [if_pos hdust] at h
    exact Or.inl ⟨hdust, h⟩
  · rw [if_neg hdust] at h
    right
    -- an exception of either call is the result of the loop, which is `.ok`
    cases he : enrich node utxo utxo.duffs now with
    | error e => rw [he] at h; cases h
    | ok out =>
        cases hr : freshOutputs settings node now rest with
        | error e => rw [he, hr] at h; cases h
        | ok outs =>
            rw [he, hr] at h
            cases h
            exact ⟨not_lt.mp hdust, out, outs, rfl, rfl, rfl⟩

/-- The fresh outputs are the enriched outputs of the answer that are not dust. -/
theorem mem_freshOutputs {settings : Settings} {node : Node} {now : Datetime}
    {utxos : List Utxo} {fresh : List WatchedOutput}
    (h : freshOutputs settings node now utxos = .ok fresh) (out : WatchedOutput) :
    out ∈ fresh ↔ ∃ utxo ∈ utxos, settings.dashDustDuffs ≤ utxo.duffs ∧
      enrich node utxo utxo.duffs now = .ok out := by
  induction utxos generalizing fresh with
  | nil => cases h; simp
  | cons utxo rest ih =>
      rcases freshOutputs_cons h with ⟨hdust, hr⟩ | ⟨hdust, o, outs, he, hr, rfl⟩
      · rw [ih hr, List.exists_mem_cons_iff]
        constructor
        · intro hrest
          exact Or.inr hrest
        · rintro (⟨hle, -⟩ | hrest)
          · omega
          · exact hrest
      · rw [List.mem_cons, ih hr, List.exists_mem_cons_iff]
        apply or_congr_left
        constructor
        · rintro rfl
          exact ⟨hdust, he⟩
        · rintro ⟨-, heq⟩
          rw [he] at heq
          exact (Except.ok.inj heq).symm

/-- Every reported output that is not dust becomes a fresh output. -/
theorem exists_freshOutput {settings : Settings} {node : Node} {now : Datetime}
    {utxos : List Utxo} {fresh : List WatchedOutput}
    (h : freshOutputs settings node now utxos = .ok fresh) {utxo : Utxo} (hmem : utxo ∈ utxos)
    (hdust : settings.dashDustDuffs ≤ utxo.duffs) :
    ∃ out ∈ fresh, out.key = (utxo.txid, utxo.vout) := by
  induction utxos generalizing fresh with
  | nil => cases hmem
  | cons u rest ih =>
      rcases freshOutputs_cons h with ⟨hu, hr⟩ | ⟨-, o, outs, he, hr, rfl⟩
      · rcases List.mem_cons.mp hmem with rfl | hmem
        · omega
        · exact ih hr hmem
      · rcases List.mem_cons.mp hmem with rfl | hmem
        · exact ⟨o, List.mem_cons_self, (enrich_ok he).1⟩
        · obtain ⟨out, hout, hkey⟩ := ih hr hmem
          exact ⟨out, List.mem_cons_of_mem _ hout, hkey⟩

/-- The outpoint of an entry of the answer. -/
def Utxo.key (utxo : Utxo) : String × Nat := (utxo.txid, utxo.vout)

/-- The outpoints of the fresh outputs, in the order of the answer. -/
theorem keys_freshOutputs {settings : Settings} {node : Node} {now : Datetime}
    {utxos : List Utxo} {fresh : List WatchedOutput}
    (h : freshOutputs settings node now utxos = .ok fresh) :
    (fresh.map WatchedOutput.key).Sublist (utxos.map Utxo.key) := by
  induction utxos generalizing fresh with
  | nil => cases h; exact List.Sublist.refl _
  | cons utxo rest ih =>
      rcases freshOutputs_cons h with ⟨-, hr⟩ | ⟨-, out, outs, he, hr, rfl⟩
      · exact (ih hr).cons _
      · have hkey : out.key = utxo.key := (enrich_ok he).1
        rw [List.map_cons, List.map_cons, hkey]
        exact (ih hr).cons_cons _

theorem freshOutputs_detectedAt {settings : Settings} {node : Node} {now : Datetime}
    {utxos : List Utxo} {fresh : List WatchedOutput}
    (h : freshOutputs settings node now utxos = .ok fresh) :
    ∀ out ∈ fresh, out.detectedAt = now := by
  intro out hout
  obtain ⟨utxo, -, -, he⟩ := (mem_freshOutputs h out).mp hout
  exact (enrich_ok he).2.2

/-- Below `2²⁶` DASH an amount is counted as the node means it. -/
theorem Utxo.duffs_eq {utxo : Utxo} {duffs : Int}
    (hamount : utxo.amount = (duffs : Decimal) / 10 ^ 8) (h : |duffs| < 2 ^ 26 * 10 ^ 8) :
    utxo.duffs = duffs := by
  rw [Utxo.duffs, hamount, rpcDashToDuffs_float h]

/-- An answer that begins with an output that is not dust. -/
theorem freshOutputs_cons_ok {settings : Settings} {node : Node} {now : Datetime} {utxo : Utxo}
    (duffs : Int) {out : WatchedOutput} {rest : List Utxo} {outs : List WatchedOutput}
    (hduffs : utxo.duffs = duffs) (hdust : settings.dashDustDuffs ≤ duffs)
    (he : enrich node utxo duffs now = .ok out)
    (hrest : freshOutputs settings node now rest = .ok outs) :
    freshOutputs settings node now (utxo :: rest) = .ok (out :: outs) := by
  rw [freshOutputs, hduffs, if_neg (not_lt.mpr hdust), he, hrest]

/-- An answer with one output that is not dust. -/
theorem freshOutputs_single {settings : Settings} {node : Node} {now : Datetime} {utxo : Utxo}
    (duffs : Int) {out : WatchedOutput} (hduffs : utxo.duffs = duffs)
    (hdust : settings.dashDustDuffs ≤ duffs) (he : enrich node utxo duffs now = .ok out) :
    freshOutputs settings node now [utxo] = .ok [out] :=
  freshOutputs_cons_ok duffs hduffs hdust he rfl

theorem decideInvoice_ok {settings : Settings} {node : Node} {inv : InvoiceDoc}
    {utxos : List Utxo} {now : Datetime} {d : Decision}
    (h : decideInvoice settings node inv utxos now = .ok d) :
    ∃ fresh, freshOutputs settings node now utxos = .ok fresh ∧
      (∀ out ∈ fresh, out.detectedAt = now) ∧
      d = settle inv (mergeOutputs inv.txids fresh) now := by
  unfold decideInvoice at h
  cases hf : freshOutputs settings node now utxos with
  | error e => rw [hf] at h; cases h
  | ok fresh =>
      rw [hf] at h
      cases h
      exact ⟨fresh, rfl, freshOutputs_detectedAt hf, rfl⟩

/-- What is decided about the outputs that were found. -/
theorem decideInvoice_fresh {settings : Settings} {node : Node} (inv : InvoiceDoc)
    {utxos : List Utxo} {now : Datetime} {fresh : List WatchedOutput}
    (hfresh : freshOutputs settings node now utxos = .ok fresh) :
    decideInvoice settings node inv utxos now
      = .ok (settle inv (mergeOutputs inv.txids fresh) now) := by
  unfold decideInvoice
  rw [hfresh]

/-! ## Decisions on a document -/

/-- The rows a decision stores. -/
def storedRows (outputs : List WatchedOutput) : List (TxRow Stamp) :=
  outputs.map (fun out => (txDict out).stored)

theorem mem_storedRows {outputs : List WatchedOutput} {row : TxRow Stamp} :
    row ∈ storedRows outputs ↔ ∃ out ∈ outputs, (txDict out).stored = row := List.mem_map

theorem settle_txids (inv : InvoiceDoc) (outputs : List WatchedOutput) (now : Datetime) :
    (settle inv outputs now).txids.map TxRow.stored = storedRows outputs := by
  unfold settle
  rw [(applySettlement_records _ _ _ _ _ _ _ _ _).1, List.map_map]
  rfl

/-- The decision on a canceled or expired document keeps its state. -/
theorem settle_keeps {inv : InvoiceDoc} (outputs : List WatchedOutput) (now : Datetime)
    (h : inv.state = .EXPIRED ∨ inv.state = .CANCELED) :
    (settle inv outputs now).state = inv.state := by
  unfold settle
  rcases h with h | h <;> rw [h] <;> rfl

theorem settle_keeps_times {inv : InvoiceDoc} (outputs : List WatchedOutput) (now : Datetime)
    (h : inv.state = .EXPIRED ∨ inv.state = .CANCELED) :
    (settle inv outputs now).firstSeenAt = none ∧ (settle inv outputs now).settledAt = none := by
  unfold settle
  rcases h with h | h <;> rw [h] <;> exact ⟨rfl, rfl⟩

/-- And it credits nothing. -/
theorem settle_keeps_credit {inv : InvoiceDoc} (outputs : List WatchedOutput) (now : Datetime)
    (h : inv.state = .EXPIRED ∨ inv.state = .CANCELED) :
    (settle inv outputs now).satsCredited = none := by
  unfold settle
  rcases h with h | h <;> rw [h] <;> rfl

/-- The decision on a document that is `OPEN` or `DETECTED` has one of the six outcomes. -/
theorem settle_watching {inv : InvoiceDoc} (outputs : List WatchedOutput) (now : Datetime)
    (h : inv.state = .OPEN ∨ inv.state = .DETECTED) :
    Outcome now inv.expiresAt.val inv.duffsQuoted inv.satsRequested (inv.policy.getD {}) outputs
      (settle inv outputs now) := by
  have hc : (inv.state == .CANCELED) = false := by rcases h with h | h <;> rw [h] <;> rfl
  unfold settle
  rw [hc]
  exact applySettlement_watching _ _ _ _ _ _ _ _ h

/-- The sides of `expires_at` are the same for an output and for the row stored for it. -/
theorem stored_detectedAt_lt (out : WatchedOutput) (expiresAt : Stamp) :
    (txDict out).stored.detectedAt.val < expiresAt.val ↔ out.detectedAt < expiresAt.val :=
  stored_lt_iff out.detectedAt expiresAt

/-- Something recorded in `rows` was first seen before `expiresAt`. -/
def SeenInTime (rows : List (TxRow Stamp)) (expiresAt : Stamp) : Prop :=
  ∃ row ∈ rows, row.detectedAt.val < expiresAt.val

theorem seenInTime_storedRows {outputs : List WatchedOutput} {expiresAt : Stamp} :
    SeenInTime (storedRows outputs) expiresAt ↔ preExpiry expiresAt.val outputs ≠ [] := by
  rw [preExpiry_ne_nil]
  constructor
  · rintro ⟨row, hrow, hlt⟩
    obtain ⟨out, hout, rfl⟩ := mem_storedRows.mp hrow
    exact ⟨out, hout, (stored_detectedAt_lt out expiresAt).mp hlt⟩
  · rintro ⟨out, hout, hlt⟩
    exact ⟨_, mem_storedRows.mpr ⟨out, hout, rfl⟩, (stored_detectedAt_lt out expiresAt).mpr hlt⟩

/-- What was recorded in time stays recorded in time, whatever the node reports. -/
theorem preExpiry_mergeOutputs {rows : List (TxRow Stamp)} (fresh : List WatchedOutput)
    {expiresAt : Stamp} (hcons : Consistent rows) (h : SeenInTime rows expiresAt) :
    preExpiry expiresAt.val (mergeOutputs rows fresh) ≠ [] := by
  obtain ⟨row, hrow, hlt⟩ := h
  obtain ⟨out, hout, hkey⟩ := exists_mem_mergeOutputs fresh hrow
  rw [preExpiry_ne_nil]
  exact ⟨out, hout, by rw [mergeOutputs_detectedAt hcons hrow hout hkey]; exact hlt⟩

/-- A document with a recorded output in time is decided as detected, credited or underpaid. -/
theorem settle_seenInTime {inv : InvoiceDoc} {outputs : List WatchedOutput} (now : Datetime)
    (h : inv.state = .OPEN ∨ inv.state = .DETECTED)
    (hpre : preExpiry inv.expiresAt.val outputs ≠ []) :
    (settle inv outputs now).state = .DETECTED ∨ (settle inv outputs now).state.final := by
  cases settle_watching outputs now h with
  | expired hnil => exact absurd hnil hpre
  | waiting hnil => exact absurd hnil hpre
  | pending _ _ _ _ hstate => exact Or.inl hstate
  | underpaid _ _ _ _ _ hstate => rw [hstate]; exact Or.inr rfl
  | credited _ _ hstate => rw [hstate]; right; split_ifs <;> rfl

/-- A document is decided as detected, credited or underpaid only with an output in time. -/
theorem settle_needs_output {inv : InvoiceDoc} {outputs : List WatchedOutput} {now : Datetime}
    (h : inv.state = .OPEN ∨ inv.state = .DETECTED)
    (hd : (settle inv outputs now).state = .DETECTED ∨ (settle inv outputs now).state.final) :
    preExpiry inv.expiresAt.val outputs ≠ [] := by
  cases settle_watching outputs now h with
  | expired _ _ hstate => rw [hstate] at hd; simp [DashInvoiceState.final] at hd
  | waiting _ _ hstate => rw [hstate] at hd; simp [DashInvoiceState.final] at hd
  | pending hpre | underpaid hpre | credited hpre => exact hpre

/-- Only time that is over expires a document. -/
theorem settle_expired_le {inv : InvoiceDoc} {outputs : List WatchedOutput} {now : Datetime}
    (h : inv.state = .OPEN ∨ inv.state = .DETECTED)
    (hd : (settle inv outputs now).state = .EXPIRED) : inv.expiresAt.val ≤ now := by
  cases settle_watching outputs now h with
  | expired _ hnow => exact hnow
  | waiting _ _ hstate | pending _ _ _ _ hstate | underpaid _ _ _ _ _ hstate =>
      rw [hstate] at hd
      cases hd
  | credited _ _ hstate =>
      rw [hstate] at hd
      split_ifs at hd

/-- A decision on an open or detected document that credits is final. -/
theorem settle_final_of_credit {inv : InvoiceDoc} {outputs : List WatchedOutput} {now : Datetime}
    (h : inv.state = .OPEN ∨ inv.state = .DETECTED)
    (hcredit : (settle inv outputs now).satsCredited ≠ none) :
    (settle inv outputs now).state.final = true := by
  cases settle_watching outputs now h with
  | expired _ _ _ _ _ hc | waiting _ _ _ _ _ hc => exact absurd hc hcredit
  | pending _ _ _ _ _ _ _ hc | underpaid _ _ _ _ _ _ _ _ hc => exact absurd hc hcredit
  | credited _ _ hstate =>
      rw [hstate]
      split_ifs <;> rfl

/-! ## The conditional update -/

@[simp] theorem Watch.countStuck_invoices (d : Decision) (w : Watch) :
    (w.countStuck d).invoices = w.invoices := by
  unfold Watch.countStuck
  split <;> rfl

@[simp] theorem update_state (d : Decision) (now : Datetime) (doc : InvoiceDoc) :
    (d.update now doc).state = d.state := rfl

@[simp] theorem update_txids (d : Decision) (now : Datetime) (doc : InvoiceDoc) :
    (d.update now doc).txids = d.txids.map TxRow.stored := rfl

@[simp] theorem update_expiresAt (d : Decision) (now : Datetime) (doc : InvoiceDoc) :
    (d.update now doc).expiresAt = doc.expiresAt := rfl

/-- The state a document has to be in for an update by the decision `d` on `inv`, and what `d`
then is: an open document takes any decision taken on an open or detected one, a detected
document only one that keeps or finishes it, an expired or canceled document only a decision
taken on itself. -/
inductive Writes (inv : InvoiceDoc) (d : Decision) : DashInvoiceState → Prop
  | onOpen (hprev : inv.state = .OPEN ∨ inv.state = .DETECTED) : Writes inv d .OPEN
  | onDetected (hprev : inv.state = .OPEN ∨ inv.state = .DETECTED)
      (hd : d.state = .DETECTED ∨ d.state.final) : Writes inv d .DETECTED
  | onExpired (hprev : inv.state = .EXPIRED) (hd : d.state = .EXPIRED) : Writes inv d .EXPIRED
  | onCanceled (hprev : inv.state = .CANCELED) (hd : d.state = .CANCELED) :
      Writes inv d .CANCELED

/-- A decision taken with an output in time is stored over open and detected documents only. -/
theorem persistFilter_seen {prev decided stored : DashInvoiceState}
    (hd : decided = .DETECTED ∨ decided.final) (h : persistFilter prev decided stored = true) :
    stored = .OPEN ∨ stored = .DETECTED := by
  revert h hd
  cases decided <;> simp [persistFilter, allowedStates, DashInvoiceState.final]

/-- A decision to leave an open document open, or to expire it, is stored over an open one
only. -/
theorem persistFilter_open {decided stored : DashInvoiceState}
    (hd : decided = .OPEN ∨ decided = .EXPIRED)
    (h : persistFilter .OPEN decided stored = true) : stored = .OPEN := by
  rcases hd with rfl | rfl <;> simpa [persistFilter, allowedStates] using h

/-- A decision that keeps an expired or canceled document is stored over that state only. -/
theorem persistFilter_kept {prev stored : DashInvoiceState}
    (hprev : prev = .EXPIRED ∨ prev = .CANCELED) (h : persistFilter prev prev stored = true) :
    stored = prev := by
  rcases hprev with rfl | rfl <;> simpa [persistFilter] using h

/-- **The filter of the update.** Of a document that was read in a watched state, and whose
decision was taken with an output in time if it was read as detected. -/
theorem writes_of_persistFilter {inv : InvoiceDoc} {outputs : List WatchedOutput}
    {now : Datetime} {stored : DashInvoiceState} (hwatch : inv.state ∈ WATCH_STATES)
    (hseen : inv.state = .DETECTED → preExpiry inv.expiresAt.val outputs ≠ [])
    (h : persistFilter inv.state (settle inv outputs now).state stored = true) :
    Writes inv (settle inv outputs now) stored := by
  -- with an output in time, an open or detected document is updated, as read from either
  have honSeen : (inv.state = .OPEN ∨ inv.state = .DETECTED) →
      preExpiry inv.expiresAt.val outputs ≠ [] → Writes inv (settle inv outputs now) stored := by
    intro hprev hpre
    have hd := settle_seenInTime now hprev hpre
    rcases persistFilter_seen hd h with rfl | rfl
    · exact .onOpen hprev
    · exact .onDetected hprev hd
  -- a document read as expired or canceled keeps the state it was read in
  have honKept : inv.state = .EXPIRED ∨ inv.state = .CANCELED → stored = inv.state := by
    intro hprev
    rw [settle_keeps outputs now hprev] at h
    exact persistFilter_kept hprev h
  rcases mem_WATCH_STATES.mp hwatch with (hs | hs) | hs | hs
  · have honOpen : (settle inv outputs now).state = .OPEN ∨
        (settle inv outputs now).state = .EXPIRED → Writes inv (settle inv outputs now) stored := by
      intro hd
      rw [hs] at h
      rw [persistFilter_open hd h]
      exact .onOpen (Or.inl hs)
    cases settle_watching outputs now (Or.inl hs) with
    | expired _ _ hstate => exact honOpen (Or.inr hstate)
    | waiting _ _ hstate => exact honOpen (Or.inl hstate)
    | pending hpre | underpaid hpre | credited hpre => exact honSeen (Or.inl hs) hpre
  · -- read as detected: the decision is never to expire it or to leave it open
    exact honSeen (Or.inr hs) (hseen hs)
  · rw [honKept (Or.inl hs), hs]
    exact .onExpired hs ((settle_keeps outputs now (Or.inl hs)).trans hs)
  · rw [honKept (Or.inr hs), hs]
    exact .onCanceled hs ((settle_keeps outputs now (Or.inr hs)).trans hs)

/-- Every update is a move of the life cycle. -/
theorem Writes.moves {inv : InvoiceDoc} {d : Decision} {stored : DashInvoiceState}
    (h : Writes inv d stored) : DashInvoiceState.Moves stored d.state := by
  cases h with
  | onOpen => exact .fromOpen _
  | onDetected _ hd => exact .detected hd
  | onExpired _ hd => rw [hd]; exact .keep _
  | onCanceled _ hd => rw [hd]; exact .keep _

/-- An update never matches a settled, overpaid or underpaid document. -/
theorem Writes.not_final {inv : InvoiceDoc} {d : Decision} {stored : DashInvoiceState}
    (h : Writes inv d stored) : stored.final = false := by
  cases h <;> rfl

end V4vappDash
