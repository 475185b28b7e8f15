import V4vappDash.Watcher.Settlement

set_option autoImplicit false

/-! # What a verdict depends on

Three relations between two decisions on the same invoice.

* The verdict looks at the outputs first seen in time and at nothing else, in any order
  (`verdict_congr`).
* More evidence never takes a credit away (`credit_mono`): outputs that stay, get their locks
  and confirmations, and are joined by others (`Evolution`).
* A failure is final (`failure_final`): after `UNDERPAID` or `EXPIRED` no evolution of the
  outputs brings a credit.
-/

namespace V4vappDash

/-! ## Two lists of outputs -/

/-- `out'` is `out` at a later time: the locks are only ever set, the confirmations only
grow. -/
structure Evolves (out out' : WatchedOutput) : Prop where
  duffs : out'.duffs = out.duffs
  detectedAt : out'.detectedAt = out.detectedAt
  instantlock : out.instantlock = true → out'.instantlock = true
  chainlock : out.chainlock = true → out'.chainlock = true
  confirmations : out.confirmations ≤ out'.confirmations

/-- Every output of `outputs` is still in `outputs'`, at a later time; the others in `outputs'`
satisfy `added`. -/
def Evolution (added : WatchedOutput → Prop) (outputs outputs' : List WatchedOutput) : Prop :=
  ∃ seen new, List.Forall₂ Evolves outputs seen ∧ outputs'.Perm (seen ++ new) ∧
    ∀ out ∈ new, added out

section Lists

variable {policy : Policy} {expiresAt : Datetime} {outputs outputs' : List WatchedOutput}

/-- Every later output was an output before. -/
theorem exists_of_evolves (h : List.Forall₂ Evolves outputs outputs') {out' : WatchedOutput}
    (hout' : out' ∈ outputs') : ∃ out ∈ outputs, Evolves out out' := by
  induction h with
  | nil => cases hout'
  | @cons out _ outputs _ hout _ ih =>
      rcases List.mem_cons.mp hout' with rfl | hrest
      · exact ⟨out, List.mem_cons_self, hout⟩
      · obtain ⟨o, ho, hev⟩ := ih hrest
        exact ⟨o, List.mem_cons_of_mem _ ho, hev⟩

theorem Evolves.qualifies {out out' : WatchedOutput} (h : Evolves out out')
    (hqual : outputQualifies out policy = true) : outputQualifies out' policy = true := by
  unfold outputQualifies at hqual ⊢
  cases hp : policy.settlePolicy.getD .instantsend_or_chainlock with
  | instantsend_or_chainlock =>
      simp only [hp, Bool.or_eq_true] at hqual ⊢
      exact hqual.imp h.instantlock h.chainlock
  | conf_n =>
      simp only [hp, decide_eq_true_eq] at hqual ⊢
      exact le_trans hqual h.confirmations

@[simp] theorem sumDuffs_append (outputs outputs' : List WatchedOutput) :
    sumDuffs (outputs ++ outputs') = sumDuffs outputs + sumDuffs outputs' := by
  simp [sumDuffs]

theorem sumDuffs_perm (h : outputs.Perm outputs') : sumDuffs outputs = sumDuffs outputs' :=
  (h.map _).sum_eq

theorem sumDuffs_evolves (h : List.Forall₂ Evolves outputs outputs') :
    sumDuffs outputs' = sumDuffs outputs := by
  induction h with
  | nil => rfl
  | cons hout _ ih => rw [sumDuffs_cons, sumDuffs_cons, ih, hout.duffs]

theorem preExpiry_append (outputs outputs' : List WatchedOutput) :
    preExpiry expiresAt (outputs ++ outputs')
      = preExpiry expiresAt outputs ++ preExpiry expiresAt outputs' :=
  List.filter_append ..

theorem preExpiry_perm (expiresAt : Datetime) (h : outputs.Perm outputs') :
    (preExpiry expiresAt outputs).Perm (preExpiry expiresAt outputs') :=
  h.filter _

theorem preExpiry_evolves (expiresAt : Datetime) (h : List.Forall₂ Evolves outputs outputs') :
    List.Forall₂ Evolves (preExpiry expiresAt outputs) (preExpiry expiresAt outputs') :=
  List.rel_filter (fun _ _ hout => by simp [hout.detectedAt]) h

@[simp] theorem preExpiry_preExpiry :
    preExpiry expiresAt (preExpiry expiresAt outputs) = preExpiry expiresAt outputs := by
  simp [preExpiry]

/-- What was seen in time is unchanged by outputs that were not. -/
theorem preExpiry_evolution {now : Datetime} (hnow : expiresAt ≤ now)
    (h : Evolution (fun out => now ≤ out.detectedAt) outputs outputs') :
    ∃ seen, List.Forall₂ Evolves (preExpiry expiresAt outputs) seen ∧
      (preExpiry expiresAt outputs').Perm seen := by
  obtain ⟨seen, new, hseen, hperm, hnew⟩ := h
  have hlate : preExpiry expiresAt new = [] :=
    preExpiry_eq_nil_iff.mpr (fun out hout => le_trans hnow (hnew out hout))
  have hpre := preExpiry_perm expiresAt hperm
  rw [preExpiry_append, hlate, List.append_nil] at hpre
  exact ⟨preExpiry expiresAt seen, preExpiry_evolves _ hseen, hpre⟩

theorem qualifying_eq_self (h : ∀ out ∈ outputs, outputQualifies out policy = true) :
    qualifying policy outputs = outputs :=
  List.filter_eq_self.mpr h

theorem qualifying_perm (policy : Policy) (h : outputs.Perm outputs') :
    (qualifying policy outputs).Perm (qualifying policy outputs') :=
  h.filter _

/-- The qualifying sum only grows. -/
theorem sumDuffs_qualifying_evolves (policy : Policy) (h : List.Forall₂ Evolves outputs outputs')
    (hnonneg : ∀ out ∈ outputs', 0 ≤ out.duffs) :
    sumDuffs (qualifying policy outputs) ≤ sumDuffs (qualifying policy outputs') := by
  induction h with
  | nil => exact le_refl _
  | @cons out out' outputs outputs' hout _ ih =>
      have hrest := ih (fun o ho => hnonneg o (List.mem_cons_of_mem _ ho))
      have hpos := hnonneg out' List.mem_cons_self
      have hduffs := hout.duffs
      unfold qualifying at hrest ⊢
      rw [List.filter_cons, List.filter_cons]
      by_cases hqual : outputQualifies out policy = true
      · rw [if_pos hqual, if_pos (hout.qualifies hqual), sumDuffs_cons, sumDuffs_cons]
        omega
      · rw [if_neg hqual]
        by_cases hqual' : outputQualifies out' policy = true
        · rw [if_pos hqual', sumDuffs_cons]
          omega
        · rw [if_neg hqual']
          exact hrest

theorem firstSeen_perm (h : outputs.Perm outputs') : firstSeen outputs = firstSeen outputs' := by
  have hmap := h.map WatchedOutput.detectedAt
  unfold firstSeen
  cases hmin : (outputs.map WatchedOutput.detectedAt).min? with
  | none =>
      rw [List.min?_eq_none_iff] at hmin
      rw [hmin] at hmap
      rw [← hmap.nil_eq]
      rfl
  | some first =>
      rw [List.min?_eq_some_iff] at hmin
      symm
      rw [List.min?_eq_some_iff]
      exact ⟨hmap.mem_iff.mp hmin.1, fun t ht => hmin.2 t (hmap.mem_iff.mpr ht)⟩

end Lists

/-! ## Late outputs and the order of outputs -/

/-- What a decision says about the invoice, without the record of what was received. -/
structure Verdict where
  state : DashInvoiceState
  firstSeenAt : Option Datetime
  detectedAt : Option Datetime
  settledAt : Option Datetime
  satsCredited : Option Int
  stuck : Bool
  deriving DecidableEq

def Decision.verdict (d : Decision) : Verdict where
  state := d.state
  firstSeenAt := d.firstSeenAt
  detectedAt := d.detectedAt
  settledAt := d.settledAt
  satsCredited := d.satsCredited
  stuck := d.stuck

section Decisions

variable (state : DashInvoiceState) (now expiresAt settleDeadlineAt : Datetime)
  (duffsQuoted satsRequested : Int) (policy : Policy)

/-- A canceled invoice has one verdict. -/
theorem verdict_canceled (outputs : List WatchedOutput) (canceled : Bool)
    (h : canceled = true ∨ state = .CANCELED) :
    (applySettlement state now expiresAt settleDeadlineAt duffsQuoted satsRequested policy
        outputs canceled).verdict
      = { state := .CANCELED, firstSeenAt := none, detectedAt := none, settledAt := none
          satsCredited := none, stuck := false } := by
  have hc : (canceled || state == DashInvoiceState.CANCELED) = true := by simpa using h
  unfold applySettlement
  simp only [hc, if_true]
  rfl

/-- Leaving out the late outputs does not change the verdict. -/
theorem verdict_preExpiry (outputs : List WatchedOutput) (canceled : Bool) :
    (applySettlement state now expiresAt settleDeadlineAt duffsQuoted satsRequested policy
        outputs canceled).verdict
      = (applySettlement state now expiresAt settleDeadlineAt duffsQuoted satsRequested policy
          (preExpiry expiresAt outputs) canceled).verdict := by
  by_cases hc : (canceled || state == DashInvoiceState.CANCELED) = true
  · have h : canceled = true ∨ state = .CANCELED := by simpa using hc
    rw [verdict_canceled _ _ _ _ _ _ _ _ _ h, verdict_canceled _ _ _ _ _ _ _ _ _ h]
  · rw [Bool.not_eq_true] at hc
    unfold applySettlement
    simp only [hc, Bool.false_eq_true, if_false, preExpiry_preExpiry, Decision.verdict]
    split_ifs <;> rfl

/-- The order of the outputs does not change the verdict. -/
theorem verdict_perm {outputs outputs' : List WatchedOutput} (h : outputs.Perm outputs')
    (canceled : Bool) :
    (applySettlement state now expiresAt settleDeadlineAt duffsQuoted satsRequested policy
        outputs canceled).verdict
      = (applySettlement state now expiresAt settleDeadlineAt duffsQuoted satsRequested policy
          outputs' canceled).verdict := by
  by_cases hc : (canceled || state == DashInvoiceState.CANCELED) = true
  · have hcan : canceled = true ∨ state = .CANCELED := by simpa using hc
    rw [verdict_canceled _ _ _ _ _ _ _ _ _ hcan, verdict_canceled _ _ _ _ _ _ _ _ _ hcan]
  · have hpre := preExpiry_perm expiresAt h
    have hsum := sumDuffs_perm (qualifying_perm policy hpre)
    have hempty : (preExpiry expiresAt outputs).isEmpty
        = (preExpiry expiresAt outputs').isEmpty := by
      rw [Bool.eq_iff_iff, List.isEmpty_iff, List.isEmpty_iff]
      exact ⟨fun he => (he ▸ hpre).nil_eq.symm, fun he => (he ▸ hpre).eq_nil⟩
    have hany := hpre.any_eq (f := fun out => !outputQualifies out policy)
    rw [Bool.not_eq_true] at hc
    unfold applySettlement
    simp only [hc, Bool.false_eq_true, if_false, firstSeen_perm hpre, hsum, hempty, hany,
      Decision.verdict]
    split_ifs <;> rfl

end Decisions

/-- **Late money and ordering.** Two lists of outputs whose outputs in time are the same up to
order get the same verdict, and for a canceled invoice any two lists do. -/
theorem verdict_congr (state : DashInvoiceState) (now expiresAt settleDeadlineAt : Datetime)
    (duffsQuoted satsRequested : Int) (policy : Policy) (canceled : Bool)
    (outputs outputs' : List WatchedOutput)
    (h : (preExpiry expiresAt outputs).Perm (preExpiry expiresAt outputs') ∨
      canceled = true ∨ state = .CANCELED) :
    (applySettlement state now expiresAt settleDeadlineAt duffsQuoted satsRequested policy
        outputs canceled).verdict
      = (applySettlement state now expiresAt settleDeadlineAt duffsQuoted satsRequested policy
          outputs' canceled).verdict := by
  rcases h with hperm | hcan
  · rw [verdict_preExpiry, verdict_perm _ _ _ _ _ _ _ hperm, ← verdict_preExpiry]
  · rw [verdict_canceled _ _ _ _ _ _ _ _ _ hcan, verdict_canceled _ _ _ _ _ _ _ _ _ hcan]

/-- A locked payment seen in time, the deadline being `2000`. -/
def timelyOutput : WatchedOutput where
  txid := "tx-1"
  vout := 0
  duffs := 200000
  confirmations := 0
  instantlock := true
  chainlock := false
  detectedAt := 1000

/-- A payment seen after it. -/
def lateOutput : WatchedOutput := { timelyOutput with txid := "tx-2", detectedAt := 3000 }

/-- A late payment next to one in time. -/
theorem verdict_congr_late :
    (applySettlement .OPEN 3000 2000 9000 400000 1000 {} [timelyOutput] false).verdict
        = (applySettlement .OPEN 3000 2000 9000 400000 1000 {} [lateOutput, timelyOutput]
            false).verdict ∧
    (applySettlement .CANCELED 3000 2000 9000 400000 1000 {} [timelyOutput] false).verdict
        = (applySettlement .CANCELED 3000 2000 9000 400000 1000 {} [] false).verdict :=
  ⟨verdict_congr _ _ _ _ _ _ _ _ _ _ (Or.inl (by decide)),
    verdict_congr _ _ _ _ _ _ _ _ _ _ (Or.inr (Or.inr rfl))⟩

/-! ## More evidence -/

section Evidence

variable {state : DashInvoiceState} {now expiresAt settleDeadlineAt : Datetime}
  {duffsQuoted satsRequested : Int} {policy : Policy} {outputs outputs' : List WatchedOutput}
  {canceled : Bool}

/-- An output in time is still there. -/
theorem preExpiry_ne_nil_evolution {added : WatchedOutput → Prop}
    (h : Evolution added outputs outputs') (hpre : preExpiry expiresAt outputs ≠ []) :
    preExpiry expiresAt outputs' ≠ [] := by
  obtain ⟨seen, new, hseen, hperm, -⟩ := h
  intro hnil
  have hp := preExpiry_perm expiresAt hperm
  rw [hnil, preExpiry_append] at hp
  have hseen' := preExpiry_evolves expiresAt hseen
  rw [(List.append_eq_nil_iff.mp hp.nil_eq.symm).1] at hseen'
  exact hpre (List.forall₂_nil_right_iff.mp hseen')

/-- The sum that counts only grows. -/
theorem qualSum_evolution (policy : Policy) (expiresAt : Datetime)
    {added : WatchedOutput → Prop} 
    (h : Evolution added outputs outputs') (hnonneg : ∀ out ∈ outputs', 0 ≤ out.duffs) :
    sumDuffs (qualifying policy (preExpiry expiresAt outputs))
      ≤ sumDuffs (qualifying policy (preExpiry expiresAt outputs')) := by
  obtain ⟨seen, new, hseen, hperm, -⟩ := h
  have hnonneg' : ∀ out ∈ seen ++ new, 0 ≤ out.duffs :=
    fun out hout => hnonneg out (hperm.mem_iff.mpr hout)
  have hgrow := sumDuffs_qualifying_evolves policy
    (preExpiry_evolves expiresAt hseen)
    (fun out hout => hnonneg' out (List.mem_append_left _ (mem_preExpiry.mp hout).1))
  have hnew : 0 ≤ sumDuffs (qualifying policy (preExpiry expiresAt new)) :=
    sumDuffs_nonneg (fun out hout =>
      hnonneg' out (List.mem_append_right _ (mem_preExpiry.mp (mem_qualifying.mp hout).1).1))
  have hsplit : sumDuffs (qualifying policy (preExpiry expiresAt outputs'))
      = sumDuffs (qualifying policy (preExpiry expiresAt seen))
        + sumDuffs (qualifying policy (preExpiry expiresAt new)) := by
    rw [sumDuffs_perm (qualifying_perm _ (preExpiry_perm _ hperm)), preExpiry_append]
    unfold qualifying
    rw [List.filter_append, sumDuffs_append]
  omega

/-- A decision that credits was made on an invoice that is not canceled. -/
theorem not_canceled_of_credit (hcredit : (applySettlement state now expiresAt settleDeadlineAt
    duffsQuoted satsRequested policy outputs canceled).satsCredited ≠ none) :
    canceled = false := by
  cases canceled with
  | false => rfl
  | true =>
      have h := verdict_canceled state now expiresAt settleDeadlineAt duffsQuoted satsRequested
        policy outputs true (Or.inl rfl)
      exact absurd (congrArg Verdict.satsCredited h) hcredit

/-- A failure verdict was made on an invoice that is not canceled. -/
theorem not_canceled_of_failure
    (h : (applySettlement state now expiresAt settleDeadlineAt duffsQuoted satsRequested policy
        outputs canceled).state = .UNDERPAID ∨
      (applySettlement state now expiresAt settleDeadlineAt duffsQuoted satsRequested policy
        outputs canceled).state = .EXPIRED) : canceled = false := by
  cases canceled with
  | false => rfl
  | true =>
      have hv := verdict_canceled state now expiresAt settleDeadlineAt duffsQuoted satsRequested
        policy outputs true (Or.inl rfl)
      have hstate := congrArg Verdict.state hv
      rcases h with h | h <;> exact absurd (h.symm.trans hstate) (by decide)

/-- A failure: nothing came in time, or all that came in time counts and falls short. -/
theorem failure_cases {d : Decision}
    (hd : Outcome now expiresAt duffsQuoted satsRequested policy outputs d)
    (h : d.state = .UNDERPAID ∨ d.state = .EXPIRED) :
    (expiresAt ≤ now ∧ preExpiry expiresAt outputs = [] ∧ d.state = .EXPIRED) ∨
    (expiresAt ≤ now ∧ preExpiry expiresAt outputs ≠ [] ∧
      (∀ out ∈ preExpiry expiresAt outputs, outputQualifies out policy = true) ∧
      (sumDuffs (qualifying policy (preExpiry expiresAt outputs)) < duffsQuoted ∧
        sumDuffs (qualifying policy (preExpiry expiresAt outputs))
          < duffsQuoted - policy.tolerance duffsQuoted) ∧
      d.state = .UNDERPAID) := by
  cases hd with
  | expired hpre hnow hstate => exact Or.inl ⟨hnow, hpre, hstate⟩
  | underpaid hpre hless hshort hnow hall hstate =>
      exact Or.inr ⟨hnow, hpre, hall, ⟨hless, hshort⟩, hstate⟩
  | waiting _ _ hstate | pending _ _ _ _ hstate =>
      rw [hstate] at h
      rcases h with h | h <;> cases h
  | credited _ _ hstate =>
      rw [hstate] at h
      split_ifs at h <;> rcases h with h | h <;> cases h

/-- Once the time is over and all that came in time counts, the sum that counts is frozen. -/
theorem qualSum_frozen (hnow : expiresAt ≤ now)
    (h : Evolution (fun out => now ≤ out.detectedAt) outputs outputs')
    (hall : ∀ out ∈ preExpiry expiresAt outputs, outputQualifies out policy = true) :
    (∀ out ∈ preExpiry expiresAt outputs', outputQualifies out policy = true) ∧
    sumDuffs (qualifying policy (preExpiry expiresAt outputs'))
      = sumDuffs (qualifying policy (preExpiry expiresAt outputs)) := by
  obtain ⟨seen, hseen, hperm⟩ := preExpiry_evolution hnow h
  have hall' : ∀ out ∈ preExpiry expiresAt outputs', outputQualifies out policy = true := by
    intro out' hout'
    obtain ⟨out, hout, hev⟩ := exists_of_evolves hseen (hperm.mem_iff.mp hout')
    exact hev.qualifies (hall out hout)
  refine ⟨hall', ?_⟩
  calc sumDuffs (qualifying policy (preExpiry expiresAt outputs'))
      = sumDuffs (preExpiry expiresAt outputs') := by rw [qualifying_eq_self hall']
    _ = sumDuffs seen := sumDuffs_perm hperm
    _ = sumDuffs (preExpiry expiresAt outputs) := sumDuffs_evolves hseen
    _ = sumDuffs (qualifying policy (preExpiry expiresAt outputs)) := by
        rw [qualifying_eq_self hall]

end Evidence

/-- **Settlement is monotone in evidence.** If the outputs lead to a credit, then so do outputs
that contain each of them, with the same amount and first-seen time and at least as strong
locks and confirmations, next to any others; and an overpayment stays one. -/
theorem credit_mono {state : DashInvoiceState} {now expiresAt settleDeadlineAt : Datetime}
    {duffsQuoted satsRequested : Int} {policy : Policy} {canceled : Bool}
    {outputs outputs' : List WatchedOutput} (hs : state = .OPEN ∨ state = .DETECTED)
    (hnonneg : ∀ out ∈ outputs', 0 ≤ out.duffs)
    (h : Evolution (fun _ => True) outputs outputs')
    (hcredit : (applySettlement state now expiresAt settleDeadlineAt duffsQuoted satsRequested
      policy outputs canceled).satsCredited = some satsRequested) :
    let d := applySettlement state now expiresAt settleDeadlineAt duffsQuoted satsRequested
      policy outputs canceled
    let d' := applySettlement state now expiresAt settleDeadlineAt duffsQuoted satsRequested
      policy outputs' canceled
    d'.satsCredited = some satsRequested ∧ (d'.state = .SETTLED ∨ d'.state = .OVERPAID) ∧
      (d.state = .OVERPAID → d'.state = .OVERPAID) := by
  obtain rfl := not_canceled_of_credit (by rw [hcredit]; exact Option.some_ne_none _)
  have hsum := qualSum_evolution policy expiresAt h hnonneg
  cases applySettlement_watching state now expiresAt settleDeadlineAt duffsQuoted satsRequested
      policy outputs hs with
  | expired _ _ _ _ _ hnone | waiting _ _ _ _ _ hnone | pending _ _ _ _ _ _ _ hnone
  | underpaid _ _ _ _ _ _ _ _ hnone =>
      rw [hnone] at hcredit
      cases hcredit
  | credited hpre henough hstate =>
      have hpre' := preExpiry_ne_nil_evolution h hpre
      cases applySettlement_watching state now expiresAt settleDeadlineAt duffsQuoted
          satsRequested policy outputs' hs with
      | expired hnil | waiting hnil => exact absurd hnil hpre'
      | pending _ hless hshort | underpaid _ hless hshort =>
          -- the sum that was enough has not become smaller
          omega
      | credited _ _ hstate' _ _ hcredit' =>
          refine ⟨hcredit', ?_, ?_⟩
          · rw [hstate']
            split_ifs
            · exact Or.inr rfl
            · exact Or.inl rfl
          · intro hover
            rw [hstate] at hover
            rw [hstate', if_pos]
            split_ifs at hover with hmore
            omega

/-- The payment, mined. -/
def minedOutput : WatchedOutput := { timelyOutput with confirmations := 1, chainlock := true }

/-- The payment is mined, and another one arrives. -/
theorem credit_mono_mined :
    (applySettlement .OPEN 3000 2000 9000 200000 1000 {} [lateOutput, minedOutput]
      false).satsCredited = some 1000 := by
  have hmined : List.Forall₂ Evolves [timelyOutput] [minedOutput] :=
    .cons ⟨rfl, rfl, id, fun _ => rfl, by decide⟩ .nil
  have h : Evolution (fun _ => True) [timelyOutput] [lateOutput, minedOutput] :=
    ⟨_, [lateOutput], hmined, by decide, fun _ _ => trivial⟩
  exact (credit_mono (Or.inl rfl) (by decide) h (by decide)).1

/-- **Failure verdicts are final.** After `UNDERPAID` or `EXPIRED`, every later decision from
the same state repeats the verdict and credits nothing, whatever locks and confirmations the
outputs get and whatever else arrives. -/
theorem failure_final {state : DashInvoiceState} {now now' expiresAt settleDeadlineAt : Datetime}
    {duffsQuoted satsRequested : Int} {policy : Policy} {canceled : Bool}
    {outputs outputs' : List WatchedOutput} (hs : state = .OPEN ∨ state = .DETECTED)
    (hfail : (applySettlement state now expiresAt settleDeadlineAt duffsQuoted satsRequested
        policy outputs canceled).state = .UNDERPAID ∨
      (applySettlement state now expiresAt settleDeadlineAt duffsQuoted satsRequested
        policy outputs canceled).state = .EXPIRED)
    (hnow : now ≤ now') (h : Evolution (fun out => now ≤ out.detectedAt) outputs outputs') :
    let d := applySettlement state now expiresAt settleDeadlineAt duffsQuoted satsRequested
      policy outputs canceled
    let d' := applySettlement state now' expiresAt settleDeadlineAt duffsQuoted satsRequested
      policy outputs' canceled
    d'.state = d.state ∧ d'.satsCredited = none ∧ d'.settledAt = none := by
  intro d d'
  obtain rfl : canceled = false := not_canceled_of_failure hfail
  have hd := applySettlement_watching state now expiresAt settleDeadlineAt duffsQuoted
    satsRequested policy outputs hs
  have hd' := applySettlement_watching state now' expiresAt settleDeadlineAt duffsQuoted
    satsRequested policy outputs' hs
  rcases failure_cases hd hfail with ⟨hexp, hpre, hstate⟩ | ⟨hexp, hpre, hall, hshort, hstate⟩
  · have hpre' : preExpiry expiresAt outputs' = [] := by
      obtain ⟨seen, hseen, hperm⟩ := preExpiry_evolution hexp h
      rw [hpre] at hseen
      rw [List.forall₂_nil_left_iff.mp hseen] at hperm
      exact hperm.eq_nil
    cases hd' with
    | expired _ _ hstate' _ hsettled hcredit =>
        exact ⟨hstate'.trans hstate.symm, hcredit, hsettled⟩
    | waiting _ hlt => exact absurd (lt_of_lt_of_le hlt (le_trans hexp hnow)) (lt_irrefl _)
    | credited hne | pending hne | underpaid hne => exact absurd hpre' hne
  · obtain ⟨hall', hsum⟩ := qualSum_frozen hexp h hall
    have hpre' : preExpiry expiresAt outputs' ≠ [] := preExpiry_ne_nil_evolution h hpre
    cases hd' with
    | expired hnil | waiting hnil => exact absurd hnil hpre'
    | credited _ henough =>
        rw [hsum] at henough
        omega
    | pending _ _ _ hwait =>
        rcases hwait with hlt | ⟨out, hout, hnot⟩
        · exact absurd (lt_of_lt_of_le hlt (le_trans hexp hnow)) (lt_irrefl _)
        · rw [hall' out hout] at hnot
          cases hnot
    | underpaid _ _ _ _ _ hstate' _ hsettled hcredit =>
        exact ⟨hstate'.trans hstate.symm, hcredit, hsettled⟩

/-- Half of the quote arrives in time, the other half after the verdict. -/
theorem failure_final_half :
    (applySettlement .DETECTED 2000 2000 9000 400000 1000 {} [timelyOutput] false).state
        = .UNDERPAID ∧
    (applySettlement .DETECTED 5000 2000 9000 400000 1000 {} [lateOutput, timelyOutput]
        false).state = .UNDERPAID := by
  have hfail : (applySettlement .DETECTED 2000 2000 9000 400000 1000 {} [timelyOutput]
      false).state = .UNDERPAID := by decide
  have hsame : List.Forall₂ Evolves [timelyOutput] [timelyOutput] :=
    .cons ⟨rfl, rfl, id, id, le_refl _⟩ .nil
  have h : Evolution (fun out => (2000 : Datetime) ≤ out.detectedAt) [timelyOutput]
      [lateOutput, timelyOutput] := ⟨_, [lateOutput], hsame, by decide, by decide⟩
  have hlater : (2000 : Datetime) ≤ 5000 := by decide
  exact ⟨hfail, (failure_final (Or.inr rfl) (Or.inl hfail) hlater h).1.trans hfail⟩

end V4vappDash
