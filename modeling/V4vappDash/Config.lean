import V4vappDash.Lib.Grid

set_option autoImplicit false

/-! # Settings and clocks

The settings the modelled code reads (`config.py`), and the two resolutions of time: the
program computes with microseconds, the database keeps milliseconds.
-/

namespace V4vappDash

/-- A timezone-aware UTC `datetime`: microseconds since the epoch. -/
abbrev Datetime := Int

/-- A `datetime` as MongoDB stores it, floored to the millisecond. -/
abbrev Stamp := GridPoint 1000

/-- Storing a `datetime`. -/
def Datetime.stored (t : Datetime) : Stamp := GridPoint.floor 1000 t

/-- `timedelta(seconds=n)`. -/
def seconds (n : Int) : Int := n * 1000000

/-- `timedelta(hours=n)`. -/
def hours (n : Int) : Int := n * 3600000000

theorem stored_lt_iff (t : Datetime) (s : Stamp) : t.stored.val < s.val ↔ t < s.val :=
  GridPoint.floor_lt_iff (by decide) t s

theorem le_stored_iff (t : Datetime) (s : Stamp) : s.val ≤ t.stored.val ↔ s.val ≤ t :=
  GridPoint.le_floor_iff (by decide) t s

theorem stored_le (t : Datetime) : t.stored.val ≤ t := GridPoint.floor_le (by decide) t

theorem stored_mono {s t : Datetime} (h : s ≤ t) : s.stored.val ≤ t.stored.val :=
  GridPoint.floor_mono (by decide) h

@[simp] theorem stored_val (s : Stamp) : Datetime.stored s.val = s := GridPoint.floor_val s

inductive Network
  | mainnet
  | testnet
  | regtest
  deriving DecidableEq, Repr

inductive SettlePolicy
  | instantsend_or_chainlock
  | conf_n
  deriving DecidableEq, Repr

/-- `config.Settings`, with its defaults. -/
structure Settings where
  dashNetwork : Network := .regtest
  mongoUri : String := ""
  dashRpcUrl : String := "http://dashd:9998"
  dashRpcWallet : String := "watch"
  dashRpcPassword : String := ""
  dashXpubFile : String := ""
  dashXpub : String := ""
  dashMasterFingerprint : String := ""
  dashSettlePolicy : SettlePolicy := .conf_n
  dashMinConf : Int := 1
  dashSettleGraceS : Int := 3600
  dashUnderpayBps : Int := 100
  dashUnderpayDuffs : Int := 50000
  dashDescriptorRangeEnd : Int := 100000
  dashWatchBatch : Nat := 500
  dashDustDuffs : Int := 5460
  deriving DecidableEq

def defaultMinConf : Network → Int
  | .regtest => 1
  | .testnet => 2
  | .mainnet => 6

end V4vappDash
