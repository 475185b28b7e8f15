import V4vappDash.Db.WalletState
import V4vappDash.Limits.Check

set_option autoImplicit false

/-! # Creating an invoice

`create_invoice` of `api/v1/invoices.py`. The handler gives up control at every database call,
so it is modelled as the phases between its calls (`CreatePhase`), with one function for what
happens from one phase to the next. `createInvoice` runs them without interruption.

What a request gets from outside is an argument of the phase that reads it: the contents of the
key file, the answers of the price source and of the Hive status endpoint, the clock, and the
`_id` of the new document.
-/

namespace V4vappDash

/-- The body of `POST /v1/invoices`, after validation. -/
structure InvoiceCreate where
  externalId : String
  sats : Int
  expiresInS : Int
  custId : Option String := none
  memo : Option String := none
  minConfirmations : Option Int := none
  externalId_length : 1 ≤ externalId.length ∧ externalId.length ≤ 128
  one_le_sats : 1 ≤ sats
  expiresInS_mem : 60 ≤ expiresInS ∧ expiresInS ≤ 86400
  memo_length : ∀ m ∈ memo, m.length ≤ 300
  minConfirmations_mem : ∀ n ∈ minConfirmations, 1 ≤ n ∧ n ≤ 100

/-- `_policy`: the policy stored with a new invoice. -/
def invoicePolicy (settings : Settings) (minConfirmations : Option Int) : Policy :=
  let isOrCl := settings.dashSettlePolicy = .instantsend_or_chainlock
  -- the lock policy ignores the `min_confirmations` of the body
  let minConf := if isOrCl then defaultMinConf settings.dashNetwork
    else minConfirmations.getD settings.dashMinConf
  { settlePolicy := some settings.dashSettlePolicy
    underpayToleranceDuffs := some settings.dashUnderpayDuffs
    underpayToleranceBps := some settings.dashUnderpayBps
    minConfirmations := some minConf
    acceptInstantsend := isOrCl
    acceptChainlock := isOrCl }

/-- The fees and the price of a request that passed the amount checks. -/
structure Pricing where
  fees : InvoiceFees
  quote : Quote
  deriving DecidableEq

/-- The document of a new invoice, as the database stores it. -/
def newInvoice (settings : Settings) (body : InvoiceCreate) (pricing : Pricing)
    (address : String) (derivation : Derivation) (now : Datetime) : InvoiceDoc :=
  -- computed in microseconds and stored in milliseconds
  let expiresAt : Datetime := now + seconds body.expiresInS
  let settleDeadlineAt : Datetime := expiresAt + seconds settings.dashSettleGraceS
  { externalId := body.externalId
    custId := body.custId
    memo := body.memo
    state := .OPEN
    address := address
    uri := paymentUri address pricing.quote.dashQuoted
    network := settings.dashNetwork
    derivation := derivation
    satsRequested := body.sats
    satsCollect := pricing.fees.satsCollect
    expiresInS := body.expiresInS
    duffsQuoted := pricing.quote.duffsQuoted
    dashQuoted := pricing.quote.dashQuoted
    fees := pricing.fees
    duffsReceived := 0
    satsCredited := none
    quote := pricing.quote
    policy := some (invoicePolicy settings body.minConfirmations)
    txids := []
    createdAt := Datetime.stored now
    expiresAt := Datetime.stored expiresAt
    settleDeadlineAt := Datetime.stored settleDeadlineAt
    firstSeenAt := none
    detectedAt := none
    settledAt := none
    canceledAt := none
    latePayment := false
    sweptAt := none
    updatedAt := Datetime.stored now }

/-- A request for 100000 sats within the hour, priced at 200000 duffs. -/
def sampleBody : InvoiceCreate where
  externalId := "order-1"
  sats := 100000
  expiresInS := 3600
  externalId_length := by decide
  one_le_sats := by decide
  expiresInS_mem := by decide
  memo_length := by simp
  minConfirmations_mem := by simp

def samplePricing : Pricing where
  fees :=
    { convFeeSats := 2950, routingFeeSats := 300, totalFeeSats := 3250, satsCollect := 103250
      convFeePercent := 29 / 1000, convFeeBaseSats := 50 }
  quote :=
    { source := "coingecko", fetchedAt := "1970-01-01T00:00:00Z", btcUsd := 100000, dashUsd := 50
      dashBtc := 5 / 10000, satsPerDash := 50000, duffsQuoted := 200000
      dashQuoted := "0.00200000" }

/-- The invoice of `sampleBody`, created at the epoch. -/
def sampleInvoice : InvoiceDoc :=
  newInvoice {} sampleBody samplePricing "yAddr"
    { change := 0, index := 0, path := "m/44'/1'/0'/0/0" } 0

/-- The integers of a policy, of the fees and of a derivation. -/
def Policy.ints (policy : Policy) : List Int :=
  policy.underpayToleranceDuffs.toList ++ policy.underpayToleranceBps.toList ++
    policy.minConfirmations.toList

def InvoiceFees.ints (fees : InvoiceFees) : List Int :=
  [fees.convFeeBaseSats, fees.convFeeSats, fees.routingFeeSats, fees.totalFeeSats,
    fees.satsCollect]

def Derivation.ints (derivation : Derivation) : List Int :=
  [derivation.account, derivation.change, derivation.index]

/-- The integers of a new document, which BSON has to hold. -/
def InvoiceDoc.newInts (doc : InvoiceDoc) : List Int :=
  [doc.satsRequested, doc.satsCollect, doc.expiresInS, doc.duffsQuoted, doc.duffsReceived,
    doc.quote.ttlS] ++ doc.derivation.ints ++ doc.fees.ints ++ (doc.policy.getD {}).ints

/-! ## The phases of a request -/

/-- How far a request has come. -/
inductive CreatePhase
  | received
  /-- The key material is loaded; next is the lookup of the external id. -/
  | loaded (material : XpubMaterial)
  /-- No invoice with the external id was found. -/
  | unused (material : XpubMaterial)
  | priced (material : XpubMaterial) (pricing : Pricing)
  /-- The rate limit check has passed; next is the allocation of an index. -/
  | limited (material : XpubMaterial) (pricing : Pricing)
  | allocated (material : XpubMaterial) (pricing : Pricing) (index : Nat)
  /-- The document is built; next is its insertion. -/
  | built (doc : InvoiceDoc)
  /-- Answered with an invoice. -/
  | answered (statusCode : Nat) (id : ObjectId) (doc : InvoiceDoc)
  | failed (failure : Failure)
  deriving DecidableEq

def CreatePhase.refused (statusCode : Nat) (code message : String) : CreatePhase :=
  .failed (.api { statusCode, code, message })

section Phases

variable (settings : Settings) (body : InvoiceCreate)

/-- `_mongo` and `_material_or_503`. -/
def createLoad (file : KeyFile) : CreatePhase :=
  if settings.mongoUri = "" then .refused 503 "wallet_unavailable" "Mongo is not configured"
  else
    match loadXpubMaterial settings file with
    | .error message => .failed (.crash message)
    | .ok none => .refused 503 "wallet_unavailable" "DASH_XPUB is not configured"
    | .ok (some material) => .loaded material

/-- The lookup of the external id. -/
def createLookup (invoices : Invoices) (material : XpubMaterial) : CreatePhase :=
  match Collection.findOne invoices (fun doc => doc.externalId = body.externalId) with
  | none => .unused material
  | some (id, doc) =>
      -- a retry: the same amount and lifetime under the same external id
      if doc.satsRequested = body.sats ∧ doc.expiresInS = body.expiresInS then
        .answered 200 id doc
      else .refused 409 "duplicate_external_id" "external_id already used with different params"

/-- The amount checks and the quote. -/
def createPrice (hive : HiveInvoiceConfig) (fetched : Except Failure Quote)
    (material : XpubMaterial) : CreatePhase :=
  if body.sats < hive.minimumInvoicePaymentSats then
    .refused 422 "amount_too_small"
      ("Minimum invoice is " ++ commaSeparated hive.minimumInvoicePaymentSats ++ " sats")
  else if hive.maximumInvoicePaymentSats < body.sats then
    .refused 422 "amount_too_large"
      ("Maximum invoice is " ++ commaSeparated hive.maximumInvoicePaymentSats ++ " sats")
  else
    let fees := calculateInvoiceFees body.sats hive
    match fetched with
    | .error (.api error) => .failed (.api error)
    -- a `ValueError` of the price source or of the quote below is answered, not raised
    | .error (.crash message) => .refused 422 "quote_unavailable" message
    | .ok rawQuote =>
        match quoteForSats fees.satsCollect rawQuote with
        | .error message => .refused 422 "quote_unavailable" message
        | .ok quote => .priced material { fees, quote }

/-- The rate limit check, for a request that names a customer. -/
def createLimit (invoices : Invoices) (windows : List RateWindow) (now : Datetime)
    (material : XpubMaterial) (pricing : Pricing) : CreatePhase :=
  match checkCustRateLimit invoices windows (body.custId.getD "") body.sats now with
  | .error failure => .failed failure
  | .ok () => .limited material pricing

/-- The allocation of an index. An index past the descriptor range is not given back. -/
def createAllocate (rows : Network → Option WalletRow) (now : Datetime)
    (material : XpubMaterial) (pricing : Pricing) :
    (Network → Option WalletRow) × CreatePhase :=
  match allocateReceiveIndex rows settings.dashNetwork now with
  | .error message => (rows, .refused 503 "wallet_unavailable" message)
  | .ok (index, rows') =>
      if settings.dashDescriptorRangeEnd ≤ index then
        (rows', .refused 503 "index_exhausted" "receive index is past the descriptor range")
      else (rows', .allocated material pricing index)

/-- Derivation of the address and assembly of the document. -/
def createBuild (bip44 : Bip44) (now : Datetime) (material : XpubMaterial) (pricing : Pricing)
    (index : Nat) : CreatePhase :=
  match deriveReceive bip44 material.accountXpub settings.dashNetwork index with
  | .error message => .failed (.crash message)
  | .ok (address, derivation) =>
      .built (newInvoice settings body pricing address derivation now)

end Phases

/-- Some stored document has a key of `doc` in one of the unique indexes. -/
def duplicateKey (invoices : Invoices) (id : ObjectId) (doc : InvoiceDoc) : Bool :=
  (Collection.docs invoices).any (fun e =>
    e.1 = id || e.2.externalId = doc.externalId || e.2.address = doc.address)

/-- `insert_one`. The unique indexes are on `external_id`, on `address` and on `_id`. -/
def createInsert (invoices : Invoices) (id : ObjectId) (doc : InvoiceDoc) :
    Invoices × CreatePhase :=
  if !doc.newInts.all bsonInt64 then (invoices, .failed (.crash "OverflowError"))
  -- the handler does not ask which of the unique indexes refused the document
  else if duplicateKey invoices id doc then
    (invoices, .refused 409 "duplicate_external_id" "external_id already exists")
  else (AList.insert id doc invoices, .answered 201 id doc)

/-- What one request gets from outside. -/
structure CreateInput where
  file : KeyFile
  hive : HiveInvoiceConfig
  quote : Except String Quote
  windows : List RateWindow
  now : Datetime
  id : ObjectId

/-- One phase of a request to the next, with what it does to the database. -/
def createStep (settings : Settings) (bip44 : Bip44) (body : InvoiceCreate) (input : CreateInput)
    (db : Database) : CreatePhase → Database × CreatePhase
  | .received => (db, createLoad settings input.file)
  | .loaded material => (db, createLookup body db.invoices material)
  | .unused material => (db, createPrice body input.hive (fetchQuote input.quote) material)
  | .priced material pricing =>
      (db, createLimit body db.invoices input.windows input.now material pricing)
  | .limited material pricing =>
      let (rows, phase) := createAllocate settings db.walletState input.now material pricing
      ({ db with walletState := rows }, phase)
  | .allocated material pricing index =>
      (db, createBuild settings body bip44 input.now material pricing index)
  | .built doc =>
      let (invoices, phase) := createInsert db.invoices input.id doc
      ({ db with invoices }, phase)
  | .answered statusCode id doc => (db, .answered statusCode id doc)
  | .failed failure => (db, .failed failure)

/-- Several phases in a row, with the same inputs. -/
def createSteps (settings : Settings) (bip44 : Bip44) (body : InvoiceCreate)
    (input : CreateInput) (n : Nat) (s : Database × CreatePhase) : Database × CreatePhase :=
  (fun s : Database × CreatePhase => createStep settings bip44 body input s.1 s.2)^[n] s

/-- `create_invoice` without interruption: at most seven phases follow each other. -/
def createInvoice (settings : Settings) (bip44 : Bip44) (body : InvoiceCreate)
    (input : CreateInput) (db : Database) : Database × CreatePhase :=
  createSteps settings bip44 body input 7 (db, .received)

end V4vappDash
