import V4vappDash.Config
import V4vappDash.Lib.Collection
import V4vappDash.Limits.HiveConfig
import V4vappDash.Quotes

set_option autoImplicit false

/-! # Invoices

The documents of the collection `dash_invoices` (`models/invoice.py`, `models/wallet.py` and
the document built by `create_invoice`). Every stored time is a `Stamp`; a document that has
not been through the database cannot be mistaken for one that has.
-/

namespace V4vappDash

inductive DashInvoiceState
  | OPEN
  | DETECTED
  | SETTLED
  | UNDERPAID
  | OVERPAID
  | EXPIRED
  | CANCELED
  deriving DecidableEq, Repr

/-- A row of `txids`: one output paid to the invoice's address. `τ` is `Datetime` for the row
the program builds and `Stamp` for the row the database holds. -/
structure TxRow (τ : Type) where
  txid : String
  vout : Nat
  duffs : Int
  confirmations : Int
  instantlock : Bool
  chainlock : Bool
  detectedAt : τ
  deriving DecidableEq

/-- The outpoint of a row. -/
def TxRow.key {τ : Type} (row : TxRow τ) : String × Nat := (row.txid, row.vout)

/-- Storing a row. -/
def TxRow.stored (row : TxRow Datetime) : TxRow Stamp :=
  { row with detectedAt := Datetime.stored row.detectedAt }

/-- The settlement policy of an invoice. The watcher reads the first four keys with `.get`
and a default, so each of them may be missing. -/
structure Policy where
  settlePolicy : Option SettlePolicy := none
  underpayToleranceDuffs : Option Int := none
  underpayToleranceBps : Option Int := none
  minConfirmations : Option Int := none
  acceptInstantsend : Bool := false
  acceptChainlock : Bool := false
  deriving DecidableEq

structure Derivation where
  account : Int := 0
  change : Int
  index : Int
  path : String
  deriving DecidableEq

/-- A document of `dash_invoices`, without its `_id`. -/
structure InvoiceDoc where
  externalId : String
  custId : Option String
  memo : Option String
  state : DashInvoiceState
  address : String
  uri : String
  network : Network
  derivation : Derivation
  satsRequested : Int
  satsCollect : Int
  expiresInS : Int
  duffsQuoted : Int
  dashQuoted : String
  fees : InvoiceFees
  duffsReceived : Int
  satsCredited : Option Int
  quote : Quote
  policy : Option Policy
  txids : List (TxRow Stamp)
  createdAt : Stamp
  expiresAt : Stamp
  settleDeadlineAt : Stamp
  firstSeenAt : Option Stamp
  detectedAt : Option Stamp
  settledAt : Option Stamp
  canceledAt : Option Stamp
  latePayment : Bool
  sweptAt : Option Stamp
  updatedAt : Stamp
  deriving DecidableEq

/-- `index`, `path`, `account` and `change` are also stored at the top level of the document,
always with the values of `derivation`. -/
def InvoiceDoc.index (doc : InvoiceDoc) : Int := doc.derivation.index

/-- A MongoDB `ObjectId`; only its order matters. -/
abbrev ObjectId := Nat

/-- The collection `dash_invoices`. -/
abbrev Invoices := Collection ObjectId InvoiceDoc

def paymentUri (address dashQuoted : String) : String :=
  "dash:" ++ address ++ "?amount=" ++ dashQuoted

/-- The amount of a payment URI is determined by the URI and the address. -/
theorem paymentUri_inj {address a b : String} (h : paymentUri address a = paymentUri address b) :
    a = b := by
  rw [paymentUri, paymentUri, String.append_right_inj] at h
  exact h

/-- The integers BSON can hold. Encoding any other raises `OverflowError`. -/
def bsonInt64 (n : Int) : Bool := -2 ^ 63 ≤ n && n < 2 ^ 63

/-! ## The life of an invoice

The states an invoice goes through, on their own: what the document store may do to the
`state` field, whoever writes it. -/

namespace DashInvoiceState

/-- An invoice the watcher no longer loads. -/
def final : DashInvoiceState → Bool
  | SETTLED | OVERPAID | UNDERPAID => true
  | _ => false

/-- The moves of the life cycle. A state in which nothing was seen yet may go anywhere; a
detected payment can only settle or fall short; every other state is kept. -/
inductive Moves : DashInvoiceState → DashInvoiceState → Prop
  | fromOpen (t : DashInvoiceState) : Moves OPEN t
  | detected {t : DashInvoiceState} (h : t = DETECTED ∨ t.final) : Moves DETECTED t
  | keep (s : DashInvoiceState) : Moves s s

theorem Moves.trans {s t u : DashInvoiceState} (h : Moves s t) (h' : Moves t u) : Moves s u := by
  cases h with
  | fromOpen => exact .fromOpen u
  | keep => exact h'
  | detected h =>
      -- `t` is detected or final, and only moves to such states again
      cases h' with
      | fromOpen => simp [final] at h
      | keep => exact .detected h
      | detected h' => exact .detected h'

end DashInvoiceState

end V4vappDash
