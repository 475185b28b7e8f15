import V4vappDash.Lib.Dict
import V4vappDash.Models.Invoice

set_option autoImplicit false

/-! # Settlement

The pure part of the watcher (`watcher/settlement.py`): which outputs count, what they decide
(`applySettlement`), and how the outputs the node reports are merged with the rows already
recorded (`mergeOutputs`).

Callers of `applySettlement` do not unfold it. What it can decide is said once:
`applySettlement_canceled`, `applySettlement_expired`, and, for an invoice that is still
`OPEN` or `DETECTED`, the six outcomes of `applySettlement_watching`.
-/

namespace V4vappDash

def WATCH_STATES : List DashInvoiceState := [.OPEN, .DETECTED, .EXPIRED, .CANCELED]

/-- The watched states by what a decision does to them: the first two are still decided, the
other two are kept. -/
theorem mem_WATCH_STATES {s : DashInvoiceState} :
    s ∈ WATCH_STATES ↔ (s = .OPEN ∨ s = .DETECTED) ∨ s = .EXPIRED ∨ s = .CANCELED := by
  simp [WATCH_STATES, or_assoc]

structure WatchedOutput where
  txid : String
  vout : Nat
  duffs : Int
  confirmations : Int
  instantlock : Bool
  chainlock : Bool
  detectedAt : Datetime
  deriving DecidableEq

/-- The outpoint of an output. -/
def WatchedOutput.key (out : WatchedOutput) : String × Nat := (out.txid, out.vout)

structure Decision where
  state : DashInvoiceState
  firstSeenAt : Option Datetime
  detectedAt : Option Datetime
  settledAt : Option Datetime
  duffsReceived : Int
  satsCredited : Option Int
  latePayment : Bool
  txids : List (TxRow Datetime)
  stuck : Bool := false
  deriving DecidableEq

/-- `x or d` for an optional integer: both `None` and `0` are false. -/
def orInt (x : Option Int) (d : Int) : Int :=
  match x with
  | none => d
  | some n => if n = 0 then d else n

def underpayTolerance (duffsQuoted bps floorDuffs : Int) : Int :=
  max floorDuffs (duffsQuoted * bps / 10000)

/-- The tolerance under a stored policy. -/
def Policy.tolerance (policy : Policy) (duffsQuoted : Int) : Int :=
  underpayTolerance duffsQuoted (orInt policy.underpayToleranceBps 0)
    (orInt policy.underpayToleranceDuffs 0)

def outputQualifies (output : WatchedOutput) (policy : Policy) : Bool :=
  match policy.settlePolicy.getD .instantsend_or_chainlock with
  | .instantsend_or_chainlock => output.instantlock || output.chainlock
  | .conf_n => orInt policy.minConfirmations 1 ≤ output.confirmations

def txDict (output : WatchedOutput) : TxRow Datetime where
  txid := output.txid
  vout := output.vout
  duffs := output.duffs
  confirmations := output.confirmations
  instantlock := output.instantlock
  chainlock := output.chainlock
  detectedAt := output.detectedAt

/-! ## The parts of a decision -/

/-- The outputs first seen before `expiresAt`. -/
def preExpiry (expiresAt : Datetime) (outputs : List WatchedOutput) : List WatchedOutput :=
  outputs.filter (fun out => out.detectedAt < expiresAt)

/-- The outputs first seen at or after `expiresAt`. -/
def postExpiry (expiresAt : Datetime) (outputs : List WatchedOutput) : List WatchedOutput :=
  outputs.filter (fun out => expiresAt ≤ out.detectedAt)

/-- The earliest first-seen time. -/
def firstSeen (outputs : List WatchedOutput) : Option Datetime :=
  (outputs.map WatchedOutput.detectedAt).min?

/-- The outputs that satisfy the settlement policy. -/
def qualifying (policy : Policy) (outputs : List WatchedOutput) : List WatchedOutput :=
  outputs.filter (fun out => outputQualifies out policy)

def sumDuffs (outputs : List WatchedOutput) : Int := (outputs.map WatchedOutput.duffs).sum

/-- The settlement decision. Outputs first seen after `expiresAt` or after a cancel are
late. -/
def applySettlement (state : DashInvoiceState) (now expiresAt settleDeadlineAt : Datetime)
    (duffsQuoted satsRequested : Int) (policy : Policy) (outputs : List WatchedOutput)
    (canceled : Bool) : Decision :=
  let isCanceled := canceled || state == .CANCELED
  -- after a cancel every output is late, whenever it was first seen
  let pre := if isCanceled then [] else preExpiry expiresAt outputs
  let late := if isCanceled then outputs else postExpiry expiresAt outputs
  let first := firstSeen pre
  let qualSum := sumDuffs (qualifying policy pre)
  let total := sumDuffs outputs
  let tolerance := policy.tolerance duffsQuoted
  let txids := outputs.map txDict
  let latePayment := !late.isEmpty
  if isCanceled then
    { state := .CANCELED, firstSeenAt := none, detectedAt := none, settledAt := none
      duffsReceived := total, satsCredited := none, latePayment, txids }
  else if state = .EXPIRED then
    { state := .EXPIRED, firstSeenAt := none, detectedAt := none, settledAt := none
      duffsReceived := total, satsCredited := none, latePayment, txids }
  -- `OPEN` or `DETECTED`
  else if pre.isEmpty then
    if expiresAt ≤ now then
      { state := .EXPIRED, firstSeenAt := none, detectedAt := none, settledAt := none
        duffsReceived := total, satsCredited := none, latePayment, txids }
    else
      { state := .OPEN, firstSeenAt := none, detectedAt := none, settledAt := none
        duffsReceived := total, satsCredited := none, latePayment := false, txids }
  else if duffsQuoted ≤ qualSum then
    { state := if duffsQuoted < qualSum then .OVERPAID else .SETTLED
      firstSeenAt := first, detectedAt := first, settledAt := some now
      duffsReceived := total, satsCredited := some satsRequested, latePayment, txids }
  -- less than quoted is settled, not overpaid, as long as it is within the tolerance
  else if duffsQuoted - tolerance ≤ qualSum then
    { state := .SETTLED, firstSeenAt := first, detectedAt := first, settledAt := some now
      duffsReceived := total, satsCredited := some satsRequested, latePayment, txids }
  else
    let waitingOnPolicy := pre.any (fun out => !outputQualifies out policy)
    -- an output in time may still get its locks or confirmations after `expiresAt`
    if now < expiresAt || waitingOnPolicy then
      { state := .DETECTED, firstSeenAt := first, detectedAt := first, settledAt := none
        duffsReceived := total, satsCredited := none, latePayment, txids
        stuck := waitingOnPolicy && settleDeadlineAt ≤ now }
    else
      { state := .UNDERPAID, firstSeenAt := first, detectedAt := first, settledAt := none
        duffsReceived := total, satsCredited := none, latePayment, txids }

/-! ## Outputs -/

section Outputs

variable {policy : Policy} {expiresAt : Datetime} {outputs : List WatchedOutput}
  {out : WatchedOutput}

@[simp] theorem mem_preExpiry :
    out ∈ preExpiry expiresAt outputs ↔ out ∈ outputs ∧ out.detectedAt < expiresAt := by
  simp [preExpiry]

@[simp] theorem mem_postExpiry :
    out ∈ postExpiry expiresAt outputs ↔ out ∈ outputs ∧ expiresAt ≤ out.detectedAt := by
  simp [postExpiry]

@[simp] theorem mem_qualifying :
    out ∈ qualifying policy outputs ↔ out ∈ outputs ∧ outputQualifies out policy = true := by
  simp [qualifying]

/-- Nothing was seen in time. -/
theorem preExpiry_eq_nil_iff :
    preExpiry expiresAt outputs = [] ↔ ∀ out ∈ outputs, expiresAt ≤ out.detectedAt := by
  simp [preExpiry]

/-- An output was seen in time. -/
theorem preExpiry_ne_nil :
    preExpiry expiresAt outputs ≠ [] ↔ ∃ out ∈ outputs, out.detectedAt < expiresAt := by
  simp [preExpiry]

/-- An output was seen too late. -/
theorem postExpiry_isEmpty_eq_false :
    (!(postExpiry expiresAt outputs).isEmpty) = true ↔
      ∃ out ∈ outputs, expiresAt ≤ out.detectedAt := by
  simp [postExpiry]

@[simp] theorem sumDuffs_nil : sumDuffs [] = 0 := rfl

@[simp] theorem sumDuffs_cons (out : WatchedOutput) (outputs : List WatchedOutput) :
    sumDuffs (out :: outputs) = out.duffs + sumDuffs outputs := by
  simp [sumDuffs]

theorem sumDuffs_nonneg (h : ∀ out ∈ outputs, 0 ≤ out.duffs) : 0 ≤ sumDuffs outputs := by
  induction outputs with
  | nil => simp
  | cons out rest ih =>
      have hout := h out List.mem_cons_self
      have hrest := ih (fun o ho => h o (List.mem_cons_of_mem _ ho))
      rw [sumDuffs_cons]
      omega

/-- A positive sum of non-negative amounts has a positive summand. -/
theorem sumDuffs_pos_iff (h : ∀ out ∈ outputs, 0 ≤ out.duffs) :
    0 < sumDuffs outputs ↔ ∃ out ∈ outputs, 0 < out.duffs := by
  induction outputs with
  | nil => simp
  | cons out rest ih =>
      have hout := h out List.mem_cons_self
      have hrest : ∀ o ∈ rest, 0 ≤ o.duffs := fun o ho => h o (List.mem_cons_of_mem _ ho)
      have hsum := sumDuffs_nonneg hrest
      rw [sumDuffs_cons, List.exists_mem_cons_iff, ← ih hrest]
      omega

end Outputs

/-! ## What can be decided -/

section Decide

variable (state : DashInvoiceState) (now expiresAt settleDeadlineAt : Datetime)
  (duffsQuoted satsRequested : Int) (policy : Policy) (outputs : List WatchedOutput)

/-- Every decision records all outputs and their total. -/
theorem applySettlement_records (canceled : Bool) :
    (applySettlement state now expiresAt settleDeadlineAt duffsQuoted satsRequested policy
        outputs canceled).txids = outputs.map txDict ∧
    (applySettlement state now expiresAt settleDeadlineAt duffsQuoted satsRequested policy
        outputs canceled).duffsReceived = sumDuffs outputs := by
  unfold applySettlement
  dsimp only
  split_ifs <;> exact ⟨rfl, rfl⟩

theorem applySettlement_canceled :
    applySettlement .CANCELED now expiresAt settleDeadlineAt duffsQuoted satsRequested policy
        outputs true
      = { state := .CANCELED, firstSeenAt := none, detectedAt := none, settledAt := none
          duffsReceived := sumDuffs outputs, satsCredited := none
          latePayment := !outputs.isEmpty, txids := outputs.map txDict } := rfl

theorem applySettlement_expired :
    applySettlement .EXPIRED now expiresAt settleDeadlineAt duffsQuoted satsRequested policy
        outputs false
      = { state := .EXPIRED, firstSeenAt := none, detectedAt := none, settledAt := none
          duffsReceived := sumDuffs outputs, satsCredited := none
          latePayment := !(postExpiry expiresAt outputs).isEmpty
          txids := outputs.map txDict } := rfl

/-- The outcome `d` of deciding an invoice that is `OPEN` or `DETECTED`. -/
inductive Outcome (d : Decision) : Prop
  /-- Nothing in time, and the time is over. -/
  | expired (hpre : preExpiry expiresAt outputs = []) (hnow : expiresAt ≤ now)
      (hstate : d.state = .EXPIRED) (hfirst : d.firstSeenAt = none)
      (hsettled : d.settledAt = none) (hcredit : d.satsCredited = none)
      (hlate : d.latePayment = !(postExpiry expiresAt outputs).isEmpty)
  /-- Nothing in time yet. -/
  | waiting (hpre : preExpiry expiresAt outputs = []) (hnow : now < expiresAt)
      (hstate : d.state = .OPEN) (hfirst : d.firstSeenAt = none)
      (hsettled : d.settledAt = none) (hcredit : d.satsCredited = none)
      (hlate : d.latePayment = false)
  /-- Enough was paid, within the tolerance, by outputs that satisfy the policy. -/
  | credited (hpre : preExpiry expiresAt outputs ≠ [])
      (hsum : duffsQuoted ≤ sumDuffs (qualifying policy (preExpiry expiresAt outputs)) ∨
        duffsQuoted - policy.tolerance duffsQuoted
          ≤ sumDuffs (qualifying policy (preExpiry expiresAt outputs)))
      (hstate : d.state = if duffsQuoted < sumDuffs (qualifying policy (preExpiry expiresAt
        outputs)) then .OVERPAID else .SETTLED)
      (hfirst : d.firstSeenAt = firstSeen (preExpiry expiresAt outputs))
      (hsettled : d.settledAt = some now) (hcredit : d.satsCredited = some satsRequested)
      (hlate : d.latePayment = !(postExpiry expiresAt outputs).isEmpty)
  /-- Something was seen in time, and more may come or be confirmed. -/
  | pending (hpre : preExpiry expiresAt outputs ≠ [])
      (hless : sumDuffs (qualifying policy (preExpiry expiresAt outputs)) < duffsQuoted)
      (hshort : sumDuffs (qualifying policy (preExpiry expiresAt outputs))
        < duffsQuoted - policy.tolerance duffsQuoted)
      (hwait : now < expiresAt ∨
        ∃ out ∈ preExpiry expiresAt outputs, outputQualifies out policy = false)
      (hstate : d.state = .DETECTED)
      (hfirst : d.firstSeenAt = firstSeen (preExpiry expiresAt outputs))
      (hsettled : d.settledAt = none) (hcredit : d.satsCredited = none)
      (hlate : d.latePayment = !(postExpiry expiresAt outputs).isEmpty)
  /-- The time is over, every output in time counts, and they fall short. -/
  | underpaid (hpre : preExpiry expiresAt outputs ≠ [])
      (hless : sumDuffs (qualifying policy (preExpiry expiresAt outputs)) < duffsQuoted)
      (hshort : sumDuffs (qualifying policy (preExpiry expiresAt outputs))
        < duffsQuoted - policy.tolerance duffsQuoted)
      (hnow : expiresAt ≤ now)
      (hall : ∀ out ∈ preExpiry expiresAt outputs, outputQualifies out policy = true)
      (hstate : d.state = .UNDERPAID)
      (hfirst : d.firstSeenAt = firstSeen (preExpiry expiresAt outputs))
      (hsettled : d.settledAt = none) (hcredit : d.satsCredited = none)
      (hlate : d.latePayment = !(postExpiry expiresAt outputs).isEmpty)

theorem applySettlement_watching (hs : state = .OPEN ∨ state = .DETECTED) :
    Outcome now expiresAt duffsQuoted satsRequested policy outputs
      (applySettlement state now expiresAt settleDeadlineAt duffsQuoted satsRequested policy
        outputs false) := by
  have hc : (false || state == DashInvoiceState.CANCELED) = false := by
    rcases hs with rfl | rfl <;> rfl
  have he : state ≠ .EXPIRED := by rcases hs with rfl | rfl <;> decide
  unfold applySettlement
  simp only [hc, Bool.false_eq_true, if_false, if_neg he]
  -- the branches of the source, in its order
  by_cases hpre : preExpiry expiresAt outputs = []
  · rw [if_pos (by rw [hpre]; rfl)]
    by_cases hnow : expiresAt ≤ now
    · rw [if_pos hnow]
      exact .expired hpre hnow rfl rfl rfl rfl rfl
    · rw [if_neg hnow]
      exact .waiting hpre (not_le.mp hnow) rfl rfl rfl rfl rfl
  · rw [if_neg (by simpa using hpre)]
    by_cases hfull : duffsQuoted ≤ sumDuffs (qualifying policy (preExpiry expiresAt outputs))
    · rw [if_pos hfull]
      exact .credited hpre (Or.inl hfull) rfl rfl rfl rfl rfl
    · rw [if_neg hfull]
      by_cases htol : duffsQuoted - policy.tolerance duffsQuoted
          ≤ sumDuffs (qualifying policy (preExpiry expiresAt outputs))
      · rw [if_pos htol]
        exact .credited hpre (Or.inr htol) (by rw [if_neg (by omega)]) rfl rfl rfl rfl
      · rw [if_neg htol]
        by_cases hwait : (decide (now < expiresAt) ||
            (preExpiry expiresAt outputs).any (fun out => !outputQualifies out policy)) = true
        · rw [if_pos hwait]
          exact .pending hpre (not_le.mp hfull) (not_le.mp htol) (by simpa using hwait)
            rfl rfl rfl rfl rfl
        · rw [if_neg hwait]
          simp only [Bool.or_eq_true, decide_eq_true_eq, not_or, not_lt, List.any_eq_true,
            Bool.not_eq_true', not_exists, not_and, Bool.not_eq_false] at hwait
          exact .underpaid hpre (not_le.mp hfull) (not_le.mp htol) hwait.1 hwait.2
            rfl rfl rfl rfl rfl

end Decide

end V4vappDash
