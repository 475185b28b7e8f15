import V4vappDash.System.Race

set_option autoImplicit false

/-! # The evidence behind a credit

Two conditions under which crediting an invoice rests on what the settlement policy asks for.

* A merge keeps recorded rows that the node no longer reports, with the confirmations and locks
  they had. A credit rests on the answer of the same tick exactly when no such row counts
  (`credit_on_current_evidence`).
* A credit within the tolerance asks for the presence of an output in time, not for one that
  satisfies the policy. It rests on such an output exactly when the tolerance stays below the
  quote or some output satisfies the policy (`credit_on_qualifying_output`).
-/

namespace V4vappDash

open Interleaving

/-! ## Current evidence -/

/-- The outputs that count toward the qualifying sum of a decision on `inv`. -/
def counted (inv : InvoiceDoc) (outputs : List WatchedOutput) : List WatchedOutput :=
  qualifying (inv.policy.getD {}) (preExpiry inv.expiresAt.val outputs)

/-- The node reports `out` in this tick, with the locks or confirmations the policy asks for. -/
def ReportedNow (settings : Settings) (node : Node) (utxos : List Utxo) (now : Datetime)
    (policy : Policy) (out : WatchedOutput) : Prop :=
  ∃ utxo ∈ utxos, settings.dashDustDuffs ≤ utxo.duffs ∧
    ∃ reported, enrich node utxo utxo.duffs now = .ok reported ∧
      reported.key = out.key ∧ reported.duffs = out.duffs ∧
      outputQualifies reported policy = true

/-- The recorded row of an outpoint, if it was first seen in time and satisfies the policy as
recorded, is still in the answer of this tick. -/
def NoVanishedEvidence (settings : Settings) (utxos : List Utxo) (inv : InvoiceDoc) : Prop :=
  ∀ row, (priorRows inv.txids).get? row.key = some row →
    row.detectedAt.val < inv.expiresAt.val →
    outputQualifies (WatchedOutput.ofRow row) (inv.policy.getD {}) = true →
    ∃ utxo ∈ utxos, (utxo.txid, utxo.vout) = row.key ∧
      settings.dashDustDuffs ≤ utxo.duffs

theorem mem_counted {inv : InvoiceDoc} {outputs : List WatchedOutput} {out : WatchedOutput} :
    out ∈ counted inv outputs ↔ out ∈ outputs ∧ out.detectedAt < inv.expiresAt.val ∧
      outputQualifies out (inv.policy.getD {}) = true := by
  rw [counted, mem_qualifying, mem_preExpiry, and_assoc]

/-- The policy looks at locks and confirmations only. -/
theorem outputQualifies_keepFirstSeen (prior : Dict (String × Nat) (TxRow Stamp))
    (out : WatchedOutput) (policy : Policy) :
    outputQualifies (keepFirstSeen prior out) policy = outputQualifies out policy := by
  unfold keepFirstSeen
  split <;> rfl

theorem keepFirstSeen_duffs (prior : Dict (String × Nat) (TxRow Stamp)) (out : WatchedOutput) :
    (keepFirstSeen prior out).duffs = out.duffs := by
  unfold keepFirstSeen
  split <;> rfl

section Current

variable {settings : Settings} {node : Node} {utxos : List Utxo} {now : Datetime}
  {inv : InvoiceDoc} {fresh : List WatchedOutput}

theorem reportedNow_of_fresh (h : freshOutputs settings node now utxos = .ok fresh)
    {out : WatchedOutput} (hout : out ∈ fresh) {policy : Policy}
    (hqual : outputQualifies out policy = true) {out' : WatchedOutput} (hkey : out.key = out'.key)
    (hduffs : out.duffs = out'.duffs) : ReportedNow settings node utxos now policy out' := by
  obtain ⟨utxo, hu, hdust, he⟩ := (mem_freshOutputs h out).mp hout
  exact ⟨utxo, hu, hdust, out, he, hkey, hduffs, hqual⟩

/-- Every counted output is in the answer of this tick if and only if no counted row has
vanished from it. -/
theorem counted_reportedNow_iff (h : freshOutputs settings node now utxos = .ok fresh) :
    (∀ out ∈ counted inv (mergeOutputs inv.txids fresh),
      ReportedNow settings node utxos now (inv.policy.getD {}) out) ↔
    NoVanishedEvidence settings utxos inv := by
  constructor
  · intro hall row hrow htime hqual
    by_cases hseen : row.key ∈ fresh.map WatchedOutput.key
    · obtain ⟨f, hf, hkey⟩ := List.mem_map.mp hseen
      obtain ⟨utxo, hu, hdust, he⟩ := (mem_freshOutputs h f).mp hf
      exact ⟨utxo, hu, (enrich_ok he).1.symm.trans hkey, hdust⟩
    · have hmerge : WatchedOutput.ofRow row ∈ mergeOutputs inv.txids fresh :=
        mem_mergeOutputs.mpr (Or.inr ⟨row, hrow, hseen, rfl⟩)
      obtain ⟨utxo, hu, hdust, out, he, hkey, -, -⟩ :=
        hall _ (mem_counted.mpr ⟨hmerge, htime, hqual⟩)
      exact ⟨utxo, hu, (enrich_ok he).1.symm.trans hkey, hdust⟩
  · intro hcond out hout
    obtain ⟨hmerge, htime, hqual⟩ := mem_counted.mp hout
    rcases mem_mergeOutputs.mp hmerge with ⟨f, hf, rfl⟩ | ⟨row, hrow, hseen, rfl⟩
    · rw [outputQualifies_keepFirstSeen] at hqual
      exact reportedNow_of_fresh h hf hqual (keepFirstSeen_key _ f).symm
        (keepFirstSeen_duffs _ f).symm
    · -- a recorded row that is still reported is not carried over
      obtain ⟨utxo, hu, hkey, hdust⟩ := hcond row hrow htime hqual
      obtain ⟨f, hf, hfkey⟩ := exists_freshOutput h hu hdust
      exact absurd (List.mem_map.mpr ⟨f, hf, hfkey.trans hkey⟩) hseen

end Current

/-- A crediting decision rests on the sum of the counted outputs. -/
theorem settle_credited {inv : InvoiceDoc} {outputs : List WatchedOutput} {now : Datetime}
    (hwatch : inv.state ∈ WATCH_STATES)
    (h : (settle inv outputs now).state = .SETTLED ∨ (settle inv outputs now).state = .OVERPAID) :
    inv.duffsQuoted ≤ sumDuffs (counted inv outputs) ∨
      inv.duffsQuoted - (inv.policy.getD {}).tolerance inv.duffsQuoted
        ≤ sumDuffs (counted inv outputs) := by
  rcases mem_WATCH_STATES.mp hwatch with hs | hk
  · cases settle_watching outputs now hs with
    | credited _ hsum => exact hsum
    | expired _ _ hstate | waiting _ _ hstate | pending _ _ _ _ hstate
    | underpaid _ _ _ _ _ hstate =>
        rw [hstate] at h
        simp at h
  · rw [settle_keeps outputs now hk] at h
    rcases hk with hk | hk <;> rw [hk] at h <;> simp at h

/-- **When a credit rests on the answer of the same tick.** The outputs that count toward the
sum of a crediting decision are all reported in this tick, with the locks or confirmations of
the policy, if and only if no recorded row that counts has vanished from the answer. -/
theorem credit_on_current_evidence {settings : Settings} {node : Node} {inv : InvoiceDoc}
    {utxos : List Utxo} {now : Datetime} {d : Decision} (hwatch : inv.state ∈ WATCH_STATES)
    (h : decideInvoice settings node inv utxos now = .ok d)
    (hcredit : d.state = .SETTLED ∨ d.state = .OVERPAID) :
    ∃ fresh, freshOutputs settings node now utxos = .ok fresh ∧
      (inv.duffsQuoted ≤ sumDuffs (counted inv (mergeOutputs inv.txids fresh)) ∨
        inv.duffsQuoted - (inv.policy.getD {}).tolerance inv.duffsQuoted
          ≤ sumDuffs (counted inv (mergeOutputs inv.txids fresh))) ∧
      ((∀ out ∈ counted inv (mergeOutputs inv.txids fresh),
          ReportedNow settings node utxos now (inv.policy.getD {}) out) ↔
        NoVanishedEvidence settings utxos inv) := by
  obtain ⟨fresh, hfresh, -, rfl⟩ := decideInvoice_ok h
  exact ⟨fresh, hfresh, settle_credited hwatch hcredit, counted_reportedNow_iff hfresh⟩

/-! Half of the quote arrives with six confirmations and is recorded; a second, smaller output then
brings the sum within the tolerance. The first one is still reported by then, or it has disappeared
with its block and was not replaced. -/

/-- The output that disappears. -/
def vanishingUtxo : Utxo where
  txid := "tx-1"
  vout := 0
  address := some "yAddr"
  amount := ((100000 : Int) : Decimal) / 10 ^ 8

/-- The output that is reported when the other one is gone. -/
def secondUtxo : Utxo where
  txid := "tx-2"
  vout := 0
  address := some "yAddr"
  amount := ((60000 : Int) : Decimal) / 10 ^ 8

/-- The outputs made of them. -/
def vanishingOutput : WatchedOutput := { sampleOutput with duffs := 100000 }

def secondOutput : WatchedOutput :=
  { sampleOutput with txid := "tx-2", duffs := 60000, detectedAt := 2000000 }

/-- `sampleInvoice` after a tick that saw the first output. -/
def halfPaidInvoice : InvoiceDoc :=
  (settle sampleInvoice [vanishingOutput] 1000000).update 1000000 sampleInvoice

theorem freshOutputs_vanishing :
    freshOutputs {} sampleNode 1000000 [vanishingUtxo] = .ok [vanishingOutput] :=
  freshOutputs_single 100000 (Utxo.duffs_eq rfl (by decide)) (by decide) rfl

theorem freshOutputs_second :
    freshOutputs {} sampleNode 2000000 [secondUtxo] = .ok [secondOutput] :=
  freshOutputs_single 60000 (Utxo.duffs_eq rfl (by decide)) (by decide) rfl

theorem freshOutputs_both : freshOutputs {} sampleNode 2000000 [vanishingUtxo, secondUtxo]
    = .ok [{ vanishingOutput with detectedAt := 2000000 }, secondOutput] :=
  freshOutputs_cons_ok 100000 (Utxo.duffs_eq rfl (by decide)) (by decide) rfl freshOutputs_second

theorem run_halfPaidInvoice : Run writers ⟨sampleInvoice, []⟩ ⟨halfPaidInvoice, [.finished]⟩ := by
  have hd : decideInvoice {} sampleNode sampleInvoice [vanishingUtxo] 1000000
      = .ok (settle sampleInvoice [vanishingOutput] 1000000) :=
    decideInvoice_fresh _ freshOutputs_vanishing
  refine .head (.spawn .tick (Or.inl rfl)) ?_
  refine .head (.act 0 rfl (.read rfl (by decide))) ?_
  refine .head (.act 0 rfl (.decide _ _ _ _ hd)) ?_
  exact .single (.act 0 rfl (.write (by decide)))

/-- The recorded output is still reported: the credit rests on what is. -/
theorem credit_on_current_evidence_sample :
    Run writers ⟨sampleInvoice, []⟩ ⟨halfPaidInvoice, [.finished]⟩ ∧
    (priorRows halfPaidInvoice.txids).get? ("tx-1", 0) ≠ none ∧
    ∃ fresh d, freshOutputs {} sampleNode 2000000 [vanishingUtxo, secondUtxo] = .ok fresh ∧
      decideInvoice {} sampleNode halfPaidInvoice [vanishingUtxo, secondUtxo] 2000000 = .ok d ∧
      d.state = .SETTLED ∧
      ∀ out ∈ counted halfPaidInvoice (mergeOutputs halfPaidInvoice.txids fresh),
        ReportedNow {} sampleNode [vanishingUtxo, secondUtxo] 2000000
          (halfPaidInvoice.policy.getD {}) out := by
  have hd := decideInvoice_fresh halfPaidInvoice freshOutputs_both
  obtain ⟨fresh, hfresh, -, hiff⟩ :=
    credit_on_current_evidence (by decide) hd (Or.inl (by decide))
  refine ⟨run_halfPaidInvoice, by decide, fresh, _, hfresh, hd, by decide, hiff.mpr ?_⟩
  intro row hrow _ _
  obtain rfl := List.mem_singleton.mp (mem_of_priorRows hrow).1
  have hduffs : vanishingUtxo.duffs = 100000 := Utxo.duffs_eq rfl (by decide)
  exact ⟨vanishingUtxo, List.mem_cons_self, rfl, by rw [hduffs]; decide⟩

/-- An output that is no longer reported tips the sum. -/
theorem credit_on_vanished_output :
    Run writers ⟨sampleInvoice, []⟩ ⟨halfPaidInvoice, [.finished]⟩ ∧
    halfPaidInvoice.state = .DETECTED ∧
    ∃ fresh d, freshOutputs {} sampleNode 2000000 [secondUtxo] = .ok fresh ∧
      decideInvoice {} sampleNode halfPaidInvoice [secondUtxo] 2000000 = .ok d ∧
      d.state = .SETTLED ∧
      ∃ out ∈ counted halfPaidInvoice (mergeOutputs halfPaidInvoice.txids fresh),
        ¬ ReportedNow {} sampleNode [secondUtxo] 2000000 (halfPaidInvoice.policy.getD {}) out := by
  refine ⟨run_halfPaidInvoice, by decide, [secondOutput],
    settle halfPaidInvoice (mergeOutputs halfPaidInvoice.txids [secondOutput]) 2000000,
    freshOutputs_second, ?_, ?_, ?_⟩
  · exact decideInvoice_fresh _ freshOutputs_second
  · decide
  · refine ⟨vanishingOutput, by decide, ?_⟩
    rintro ⟨utxo, hu, -, out, he, hkey, -, -⟩
    rw [List.mem_singleton.mp hu] at he
    have hsecond := (enrich_ok he).1.symm.trans hkey
    exact absurd hsecond (by decide)

/-! ## Qualifying outputs -/

section Qualify

variable {policy : Policy} {outputs : List WatchedOutput}

/-- A positive qualifying sum comes from an output. -/
theorem exists_qualifying_of_pos (h : 0 < sumDuffs (qualifying policy outputs)) :
    ∃ out ∈ outputs, outputQualifies out policy = true := by
  by_contra hnone
  have hnil : qualifying policy outputs = [] := by
    rw [qualifying, List.filter_eq_nil_iff]
    exact fun out hout hqual => hnone ⟨out, hout, hqual⟩
  rw [hnil] at h
  exact absurd h (by decide)

theorem qualifying_preExpiry_nonneg (policy : Policy) (expiresAt : Datetime)
    (h : ∀ out ∈ outputs, 0 ≤ out.duffs) :
    ∀ out ∈ qualifying policy (preExpiry expiresAt outputs), 0 ≤ out.duffs := by
  intro out hout
  exact h out (mem_preExpiry.mp (mem_qualifying.mp hout).1).1

/-- The qualifying sum is positive if an output in time with a positive amount satisfies the
policy. -/
theorem sumDuffs_qualifying_pos_iff {expiresAt : Datetime}
    (h : ∀ out ∈ outputs, 0 ≤ out.duffs) :
    0 < sumDuffs (qualifying policy (preExpiry expiresAt outputs)) ↔
      ∃ out ∈ outputs, out.detectedAt < expiresAt ∧ outputQualifies out policy = true ∧
        0 < out.duffs := by
  rw [sumDuffs_pos_iff (qualifying_preExpiry_nonneg policy expiresAt h)]
  constructor
  · rintro ⟨out, hout, hlt⟩
    obtain ⟨hpre, hqual⟩ := mem_qualifying.mp hout
    obtain ⟨hmem, htime⟩ := mem_preExpiry.mp hpre
    exact ⟨out, hmem, htime, hqual, hlt⟩
  · rintro ⟨out, hmem, htime, hqual, hlt⟩
    exact ⟨out, mem_qualifying.mpr ⟨mem_preExpiry.mpr ⟨hmem, htime⟩, hqual⟩, hlt⟩

end Qualify

/-- What a credit is for: an output in time satisfies the policy, and what satisfies it is worth
something. -/
def RestsOnPolicy (policy : Policy) (expiresAt : Datetime) (outputs : List WatchedOutput) : Prop :=
  (∃ out ∈ outputs, out.detectedAt < expiresAt ∧ outputQualifies out policy = true) ∧
    0 < sumDuffs (qualifying policy (preExpiry expiresAt outputs))

theorem restsOnPolicy_iff {policy : Policy} {expiresAt : Datetime}
    {outputs : List WatchedOutput} : RestsOnPolicy policy expiresAt outputs ↔
      0 < sumDuffs (qualifying policy (preExpiry expiresAt outputs)) := by
  refine ⟨And.right, fun h => ⟨?_, h⟩⟩
  obtain ⟨out, hout, hqual⟩ := exists_qualifying_of_pos h
  obtain ⟨hmem, htime⟩ := mem_preExpiry.mp hout
  exact ⟨out, hmem, htime, hqual⟩

/-- When an open or detected invoice is credited. -/
theorem applySettlement_credit_iff {state : DashInvoiceState}
    (hs : state = .OPEN ∨ state = .DETECTED) (now expiresAt settleDeadlineAt : Datetime)
    (duffsQuoted satsRequested : Int) (policy : Policy) (outputs : List WatchedOutput) :
    (applySettlement state now expiresAt settleDeadlineAt duffsQuoted satsRequested policy
      outputs false).satsCredited ≠ none ↔
    preExpiry expiresAt outputs ≠ [] ∧
      (duffsQuoted ≤ sumDuffs (qualifying policy (preExpiry expiresAt outputs)) ∨
        duffsQuoted - policy.tolerance duffsQuoted
          ≤ sumDuffs (qualifying policy (preExpiry expiresAt outputs))) := by
  cases applySettlement_watching state now expiresAt settleDeadlineAt duffsQuoted satsRequested
    policy outputs hs with
  | expired hpre _ _ _ _ hc | waiting hpre _ _ _ _ hc => simp [hc, hpre]
  | credited hpre hsum _ _ _ hc =>
      rw [hc]
      exact iff_of_true (by simp) ⟨hpre, hsum⟩
  | pending hpre hless hshort _ _ _ _ hc | underpaid hpre hless hshort _ _ _ _ _ hc =>
      rw [hc]
      exact iff_of_false (by simp) (fun h => by omega)

/-- **When a credit rests on an output that satisfies the policy.** For every input: if and only
if nothing was seen in time, or the qualifying sum is positive, or it stays more than the
tolerance below the quote. When no amount is negative: if and only if nothing was seen in time,
or the tolerance is less than the quote, or an output in time with a positive amount satisfies
the policy. -/
theorem credit_on_qualifying_output {state : DashInvoiceState}
    (hs : state = .OPEN ∨ state = .DETECTED) (now expiresAt settleDeadlineAt : Datetime)
    {duffsQuoted : Int} (hquoted : 1 ≤ duffsQuoted) (satsRequested : Int) (policy : Policy)
    (outputs : List WatchedOutput) :
    (((applySettlement state now expiresAt settleDeadlineAt duffsQuoted satsRequested policy
          outputs false).satsCredited ≠ none → RestsOnPolicy policy expiresAt outputs) ↔
      preExpiry expiresAt outputs = [] ∨
      0 < sumDuffs (qualifying policy (preExpiry expiresAt outputs)) ∨
      sumDuffs (qualifying policy (preExpiry expiresAt outputs))
        < duffsQuoted - policy.tolerance duffsQuoted) ∧
    ((∀ out ∈ outputs, 0 ≤ out.duffs) →
      (((applySettlement state now expiresAt settleDeadlineAt duffsQuoted satsRequested policy
          outputs false).satsCredited ≠ none → RestsOnPolicy policy expiresAt outputs) ↔
        (∀ out ∈ outputs, expiresAt ≤ out.detectedAt) ∨
        policy.tolerance duffsQuoted < duffsQuoted ∨
        ∃ out ∈ outputs, out.detectedAt < expiresAt ∧ outputQualifies out policy = true ∧
          0 < out.duffs)) := by
  rw [applySettlement_credit_iff hs, restsOnPolicy_iff]
  have hgeneral : (preExpiry expiresAt outputs ≠ [] ∧
      (duffsQuoted ≤ sumDuffs (qualifying policy (preExpiry expiresAt outputs)) ∨
        duffsQuoted - policy.tolerance duffsQuoted
          ≤ sumDuffs (qualifying policy (preExpiry expiresAt outputs))) →
      0 < sumDuffs (qualifying policy (preExpiry expiresAt outputs))) ↔
      preExpiry expiresAt outputs = [] ∨
      0 < sumDuffs (qualifying policy (preExpiry expiresAt outputs)) ∨
      sumDuffs (qualifying policy (preExpiry expiresAt outputs))
        < duffsQuoted - policy.tolerance duffsQuoted := by
    by_cases hpre : preExpiry expiresAt outputs = []
    · simp [hpre]
    · simp only [ne_eq, hpre, not_false_eq_true, true_and, false_or]
      omega
  refine ⟨hgeneral, fun hnonneg => hgeneral.trans ?_⟩
  have hsum := sumDuffs_nonneg (qualifying_preExpiry_nonneg policy expiresAt hnonneg)
  rw [preExpiry_eq_nil_iff, ← sumDuffs_qualifying_pos_iff hnonneg]
  apply or_congr_right
  -- with a sum that is zero, falling short by more than the tolerance is a matter of the quote
  omega

/-- One unconfirmed output of 10000 duffs for an invoice of 40000, under the default floor. -/
def unconfirmedOutput : WatchedOutput :=
  { sampleOutput with duffs := 10000, confirmations := 0 }

theorem credit_on_qualifying_output_sample :
    (applySettlement .OPEN 1000000 3600000000 7200000000 200000 100000 (invoicePolicy {} none)
        [sampleOutput] false).satsCredited ≠ none ∧
      RestsOnPolicy (invoicePolicy {} none) 3600000000 [sampleOutput] := by
  have hcredit : (applySettlement .OPEN 1000000 3600000000 7200000000 200000 100000
      (invoicePolicy {} none) [sampleOutput] false).satsCredited ≠ none := by decide
  have hquoted : (1 : Int) ≤ 200000 := by decide
  have hiff := (credit_on_qualifying_output (Or.inl rfl) 1000000 3600000000 7200000000
    hquoted 100000 (invoicePolicy {} none) [sampleOutput]).2 (by decide)
  -- the tolerance of 50000 duffs is below the quote
  exact ⟨hcredit, hiff.mpr (Or.inr (Or.inl (by decide))) hcredit⟩

/-- An invoice whose tolerance reaches the quote is credited on an unconfirmed output. -/
theorem credit_on_unconfirmed_output :
    ¬((applySettlement .OPEN 1000000 3600000000 7200000000 40000 20000 (invoicePolicy {} none)
        [unconfirmedOutput] false).satsCredited ≠ none →
      RestsOnPolicy (invoicePolicy {} none) 3600000000 [unconfirmedOutput]) := by
  intro h
  have hcredit : (applySettlement .OPEN 1000000 3600000000 7200000000 40000 20000
      (invoicePolicy {} none) [unconfirmedOutput] false).satsCredited ≠ none := by decide
  exact absurd (h hcredit).2 (by decide)

end V4vappDash
