import V4vappDash.Api.Create
import V4vappDash.Api.List

set_option autoImplicit false

/-! # Reading an invoice

The document as the API shows it (`InvoiceOut` and `doc_to_out` of `models/invoice.py`), and the
two requests for one invoice (`get_invoice` and `get_by_external` of `api/v1/invoices.py`).
Prices stay numbers, and times stay times; the code shows both as text.
-/

namespace V4vappDash

structure QuoteSnapshot where
  source : String
  fetchedAt : String
  btcUsd : Decimal
  dashUsd : Decimal
  dashBtc : Decimal
  satsPerDash : Decimal
  ttlS : Int
  deriving DecidableEq

/-- The policy with every key there. -/
structure InvoicePolicy where
  settlePolicy : SettlePolicy
  underpayToleranceDuffs : Int
  underpayToleranceBps : Int
  minConfirmations : Int
  acceptInstantsend : Bool
  acceptChainlock : Bool
  deriving DecidableEq

structure InvoiceOut where
  invoiceId : String
  externalId : String
  state : DashInvoiceState
  address : String
  uri : String
  network : Network
  satsRequested : Int
  satsCollect : Int
  duffsQuoted : Int
  dashQuoted : String
  fees : InvoiceFees
  duffsReceived : Int
  satsCredited : Option Int
  expiresAt : Stamp
  settleDeadlineAt : Stamp
  createdAt : Stamp
  firstSeenAt : Option Stamp
  detectedAt : Option Stamp
  settledAt : Option Stamp
  canceledAt : Option Stamp
  expired : Bool
  latePayment : Bool
  quote : QuoteSnapshot
  derivation : Derivation
  policy : InvoicePolicy
  txids : List (TxRow Stamp)
  custId : Option String
  memo : Option String
  deriving DecidableEq

/-- The keys of the policy, read with `[]`: each of them has to be there. -/
def Policy.out (policy : Policy) : Except String InvoicePolicy :=
  match policy.settlePolicy, policy.underpayToleranceDuffs, policy.underpayToleranceBps,
    policy.minConfirmations with
  | some settlePolicy, some duffs, some bps, some minConfirmations =>
      .ok
        { settlePolicy
          underpayToleranceDuffs := duffs
          underpayToleranceBps := bps
          minConfirmations
          acceptInstantsend := policy.acceptInstantsend
          acceptChainlock := policy.acceptChainlock }
  | _, _, _, _ => .error "KeyError"

def Quote.snapshot (quote : Quote) : QuoteSnapshot where
  source := quote.source
  fetchedAt := quote.fetchedAt
  btcUsd := quote.btcUsd
  dashUsd := quote.dashUsd
  dashBtc := quote.dashBtc
  satsPerDash := quote.satsPerDash
  ttlS := quote.ttlS

def docToOut (forms : TextForms) (id : ObjectId) (doc : InvoiceDoc) :
    Except String InvoiceOut :=
  match doc.policy with
  | none => .error "KeyError"
  | some stored =>
      match stored.out with
      | .error message => .error message
      | .ok policy =>
          .ok
            { invoiceId := forms.str id
              externalId := doc.externalId
              state := doc.state
              address := doc.address
              uri := doc.uri
              network := doc.network
              satsRequested := doc.satsRequested
              satsCollect := doc.satsCollect
              duffsQuoted := doc.duffsQuoted
              dashQuoted := doc.dashQuoted
              fees := doc.fees
              duffsReceived := doc.duffsReceived
              satsCredited := doc.satsCredited
              expiresAt := doc.expiresAt
              settleDeadlineAt := doc.settleDeadlineAt
              createdAt := doc.createdAt
              firstSeenAt := doc.firstSeenAt
              detectedAt := doc.detectedAt
              settledAt := doc.settledAt
              canceledAt := doc.canceledAt
              expired := doc.state = .EXPIRED
              latePayment := doc.latePayment
              quote := doc.quote.snapshot
              derivation := doc.derivation
              policy
              txids := doc.txids
              custId := doc.custId
              memo := doc.memo }

/-- `_mongo`. -/
def mongoOr503 (mongo : Option Invoices) : Except Failure Invoices :=
  match mongo with
  | none =>
      .error (.api
        { statusCode := 503
          code := "wallet_unavailable"
          message := "Mongo is not configured" })
  | some invoices => .ok invoices

/-- The answer with what has been found. An exception of `doc_to_out` ends the request. -/
def answerFound (forms : TextForms) (found : Option (ObjectId × InvoiceDoc)) :
    Except Failure InvoiceOut :=
  match found with
  | none => .error (.api notFound)
  | some (id, doc) => (docToOut forms id doc).mapError .crash

def getByExternal (forms : TextForms) (mongo : Option Invoices) (externalId : String) :
    Except Failure InvoiceOut := do
  let invoices ← mongoOr503 mongo
  answerFound forms (Collection.findOne invoices (fun doc => doc.externalId = externalId))

def getInvoice (forms : TextForms) (mongo : Option Invoices) (invoiceId : String) :
    Except Failure InvoiceOut := do
  let invoices ← mongoOr503 mongo
  let id ← (asObjectId forms invoiceId).mapError .api
  answerFound forms ((invoices.lookup id).map (fun doc => (id, doc)))

/-! ## What is shown -/

/-- The fields that a create fixes; the others are reset. -/
def InvoiceOut.fixed (out : InvoiceOut) : InvoiceOut :=
  { out with
    state := .OPEN
    duffsReceived := 0
    satsCredited := none
    firstSeenAt := none
    detectedAt := none
    settledAt := none
    canceledAt := none
    expired := false
    latePayment := false
    txids := [] }

/-- Of these, all but the times. -/
def InvoiceOut.terms (out : InvoiceOut) : InvoiceOut :=
  { out.fixed with
    createdAt := Datetime.stored 0
    expiresAt := Datetime.stored 0
    settleDeadlineAt := Datetime.stored 0 }

/-- The document has a policy with every key, as `create_invoice` stores it. -/
def InvoiceDoc.Shown (doc : InvoiceDoc) : Prop :=
  ∃ policy out, doc.policy = some policy ∧ policy.out = .ok out

theorem shown_newInvoice (settings : Settings) (body : InvoiceCreate) (pricing : Pricing)
    (address : String) (derivation : Derivation) (now : Datetime) :
    (newInvoice settings body pricing address derivation now).Shown :=
  ⟨_, _, rfl, rfl⟩

theorem InvoiceDoc.Shown.out {doc : InvoiceDoc} (h : doc.Shown) (forms : TextForms)
    (id : ObjectId) : ∃ out, docToOut forms id doc = .ok out := by
  obtain ⟨policy, shown, hpolicy, hshown⟩ := h
  unfold docToOut
  rw [hpolicy]
  dsimp only
  rw [hshown]
  exact ⟨_, rfl⟩

/-- An invoice that is stored under its `_id` is what both requests show, as long as no other
invoice has its external id. -/
theorem reads_of_lookup {forms : TextForms} {invoices : Invoices} {id : ObjectId}
    {doc : InvoiceDoc} {out : InvoiceOut} (hdoc : invoices.lookup id = some doc)
    (hout : docToOut forms id doc = .ok out)
    (hunique : ∀ id' doc', invoices.lookup id' = some doc' →
      doc'.externalId = doc.externalId → id' = id) :
    getInvoice forms (some invoices) (forms.str id) = .ok out ∧
      getByExternal forms (some invoices) doc.externalId = .ok out := by
  have hanswer : answerFound forms (some (id, doc)) = .ok out := by
    show (docToOut forms id doc).mapError Failure.crash = .ok out
    rw [hout]
    rfl
  have hfound : Collection.findOne invoices (fun other => other.externalId = doc.externalId)
      = some (id, doc) := by
    cases hfind : Collection.findOne invoices (fun other => other.externalId = doc.externalId) with
    | none =>
        have hnone := List.find?_eq_none.mp hfind (id, doc) (Collection.mem_docs.mpr hdoc)
        simp at hnone
    | some e =>
        have hext : e.2.externalId = doc.externalId := by simpa using List.find?_some hfind
        have hlook := Collection.mem_docs.mp (List.mem_of_find?_eq_some hfind)
        obtain rfl := hunique e.1 e.2 hlook hext
        rw [hdoc] at hlook
        cases hlook
        rfl
  constructor
  · unfold getInvoice asObjectId
    rw [forms.objectId_str]
    show answerFound forms ((invoices.lookup id).map (fun doc => (id, doc))) = .ok out
    rw [hdoc]
    exact hanswer
  · show answerFound forms (Collection.findOne invoices _) = .ok out
    rw [hfound]
    exact hanswer

end V4vappDash
