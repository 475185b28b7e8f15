import V4vappDash.Db.WalletState
import V4vappDash.Watcher.Loop

set_option autoImplicit false

/-! # The health endpoint

`api/health.py`. It reads the database, the node and the state of the watcher, and what raises
on the way is a part of its answer.
-/

namespace V4vappDash

def VERSION : String := "0.1.0"

/-- The fields of the answer to `getblockchaininfo` that are shown. -/
structure ChainInfo where
  chain : Option String := none
  blocks : Option Int := none
  headers : Option Int := none
  verificationprogress : Option ℚ := none
  initialblockdownload : Option Bool := none
  pruned : Option Bool := none

/-- What a request for the health finds. A part of the service that was not started is absent. -/
structure HealthInput where
  /-- `ping` and the lookup of the wallet row. -/
  mongo : Option (Except String (Option WalletRow))
  dashd : Option (Except Exn ChainInfo)
  watcher : Option WatcherState
  now : Datetime

inductive HealthStatus
  | ok
  | degraded
  | error
  deriving DecidableEq

structure HealthWallet where
  network : Network
  nextReceiveIndex : Int
  descriptorRangeEnd : Int

inductive HealthDashd
  | error
  | info (info : ChainInfo) (initialblockdownload synced : Bool)

structure HealthWatcher where
  lastTickAgeS : Option ℚ
  openInvoices : Nat
  lastError : Option String

structure HealthOut where
  status : HealthStatus
  version : String
  network : Network
  mongo : Option Bool
  wallet : Option HealthWallet
  dashd : Option HealthDashd
  watcher : Option HealthWatcher

/-- Whether the database answers, when there is to be one. -/
def mongoOk (settings : Settings) : Option (Except String (Option WalletRow)) → Option Bool
  | some (.ok _) => some true
  | some (.error _) => some false
  | none => if settings.mongoUri ≠ "" then some false else none

def healthWallet : Option (Except String (Option WalletRow)) → Option HealthWallet
  | some (.ok (some row)) => some ⟨row.network, row.nextReceiveIndex, row.descriptorRangeEnd⟩
  | _ => none

def healthDashd : Except Exn ChainInfo → HealthDashd
  | .ok info =>
      let ibd := info.initialblockdownload.getD false
      .info info ibd !ibd
  | .error _ => .error

def healthWatcher (now : Datetime) (watcher : WatcherState) : HealthWatcher where
  lastTickAgeS := watcher.lastTickAt.map (fun last => ((now - last : Int) : ℚ) / 1000000)
  openInvoices := watcher.openInvoices
  lastError := watcher.lastError

/-- A text is an error unless it is empty. -/
def errorSet (lastError : Option String) : Bool :=
  match lastError with
  | some message => message ≠ ""
  | none => false

def healthStatus (mongo : Option Bool) (dashd : Option HealthDashd)
    (watcher : Option WatcherState) : HealthStatus :=
  if mongo = some false then .error
  else
    match dashd with
    | some .error => .error
    | some (.info _ true _) => .degraded
    | _ => if watcher.any (fun w => errorSet w.lastError) then .degraded else .ok

def health (settings : Settings) (input : HealthInput) : HealthOut :=
  let mongo := mongoOk settings input.mongo
  let dashd := input.dashd.map healthDashd
  { status := healthStatus mongo dashd input.watcher
    version := VERSION
    network := settings.dashNetwork
    mongo
    wallet := healthWallet input.mongo
    dashd
    watcher := input.watcher.map (healthWatcher input.now) }

/-- The database is up, and the node answers and is not downloading. -/
structure HealthInput.Up (input : HealthInput) : Prop where
  mongo : ∃ row, input.mongo = some (.ok row)
  dashd : ∃ info, input.dashd = some (.ok info) ∧ info.initialblockdownload.getD false = false

/-- **What remains** when the database and the node are up is the last error of the watcher. -/
theorem HealthInput.Up.status {input : HealthInput} (h : input.Up) (settings : Settings) :
    (health settings input).status =
      if input.watcher.any (fun w => errorSet w.lastError) then .degraded else .ok := by
  obtain ⟨row, hmongo⟩ := h.mongo
  obtain ⟨info, hdashd, hibd⟩ := h.dashd
  unfold health healthStatus
  simp only [hmongo, hdashd, mongoOk, Option.map_some, healthDashd, hibd]
  rfl

/-- The database and the node are the only other reasons. -/
theorem HealthInput.Up.degraded_iff {input : HealthInput} (h : input.Up) (settings : Settings)
    {watcher : WatcherState} (hwatcher : input.watcher = some watcher) :
    (health settings input).status = .degraded ↔ errorSet watcher.lastError = true := by
  rw [h.status, hwatcher, Option.any_some]
  cases errorSet watcher.lastError <;> simp

end V4vappDash
