import V4vappDash.Api.Errors
import V4vappDash.Models.Invoice

set_option autoImplicit false

/-! # Canceling an invoice

`cancel_invoice` of `api/v1/invoices.py`: one conditional update and, when it matches nothing,
one lookup that says why. The clock is read before either.
-/

namespace V4vappDash

/-- The filter of the update: open, and no funds seen. -/
def cancelable (doc : InvoiceDoc) : Bool := doc.state = .OPEN && doc.firstSeenAt.isNone

/-- The `$set` of the update. -/
def cancelDoc (now : Datetime) (doc : InvoiceDoc) : InvoiceDoc :=
  { doc with
    state := .CANCELED
    canceledAt := some (Datetime.stored now)
    updatedAt := Datetime.stored now }

/-- The conditional update. -/
def cancelUpdate (invoices : Invoices) (id : ObjectId) (now : Datetime) : Invoices :=
  Collection.updateIf invoices id cancelable (cancelDoc now)

def notFound : ApiError :=
  { statusCode := 404, code := "not_found", message := "invoice not found" }

/-- The answer when the update matched nothing. -/
def cancelRefusal (found : Option InvoiceDoc) : ApiError :=
  match found with
  | none => notFound
  | some _ =>
      { statusCode := 409
        code := "invoice_not_cancelable"
        message := "invoice is not OPEN or already has funds" }

/-- `cancel_invoice` without interruption. `id` is `none` for a path parameter that is not an
`ObjectId`. -/
def cancelInvoice (id : Option ObjectId) (now : Datetime) (invoices : Invoices) :
    Invoices × Except ApiError InvoiceDoc :=
  match id with
  | none => (invoices, .error notFound)
  | some id =>
      match invoices.lookup id with
      | some doc =>
          if cancelable doc then (cancelUpdate invoices id now, .ok (cancelDoc now doc))
          else (invoices, .error (cancelRefusal (some doc)))
      | none => (invoices, .error (cancelRefusal none))

theorem cancelInvoice_ok {id : ObjectId} {invoices : Invoices} {doc : InvoiceDoc} (now : Datetime)
    (hdoc : invoices.lookup id = some doc) (hc : cancelable doc = true) :
    cancelInvoice (some id) now invoices
      = (cancelUpdate invoices id now, .ok (cancelDoc now doc)) := by
  simp [cancelInvoice, hdoc, hc]

/-- A refused cancel changes nothing. -/
theorem cancelInvoice_refused {id : ObjectId} {invoices : Invoices} (now : Datetime)
    (h : ∀ doc, invoices.lookup id = some doc → cancelable doc = false) :
    cancelInvoice (some id) now invoices
      = (invoices, .error (cancelRefusal (invoices.lookup id))) := by
  cases hdoc : invoices.lookup id with
  | none => simp [cancelInvoice, hdoc]
  | some doc => simp [cancelInvoice, hdoc, h doc hdoc]

theorem cancelable_iff {doc : InvoiceDoc} :
    cancelable doc = true ↔ doc.state = .OPEN ∧ doc.firstSeenAt = none := by
  simp [cancelable]

@[simp] theorem cancelDoc_state (now : Datetime) (doc : InvoiceDoc) :
    (cancelDoc now doc).state = .CANCELED := rfl

@[simp] theorem cancelDoc_txids (now : Datetime) (doc : InvoiceDoc) :
    (cancelDoc now doc).txids = doc.txids := rfl

end V4vappDash
