import V4vappDash.Watcher.Merge

set_option autoImplicit false

/-! # The watcher loop

`watcher/loop.py`: load a batch of invoices, ask the node for their outputs, decide every
invoice and store each decision with one conditional update.

The node, the clock and the faults of the database are inputs of a tick. A tick that raises
keeps what it has written so far, so it returns the state together with its result.
-/

namespace V4vappDash

/-- What a call can raise: the `DashdError` of the RPC client, which the loop catches in two
places, or any other exception, which ends the tick. -/
inductive Exn
  | dashdError (message : String)
  | other (message : String)
  deriving DecidableEq, Repr

def Exn.str : Exn → String
  | .dashdError message => message
  | .other message => message

/-- An entry of the answer to `listunspent`. `amount` is the number that the node writes. -/
structure Utxo where
  txid : String
  vout : Nat
  address : Option String
  amount : Decimal
  confirmations : Option Int := none
  instantlock : Option Bool := none
  chainlock : Option Bool := none
  deriving DecidableEq

/-- What `rpc_dash_to_duffs` counts; `amount` has been read as a float. -/
def Utxo.duffs (utxo : Utxo) : Int :=
  rpcDashToDuffs (decimalOfFloat utxo.amount)

/-- The answer to `gettransaction`. -/
structure Transaction where
  confirmations : Option Int := none
  instantlock : Option Bool := none
  chainlock : Option Bool := none
  deriving DecidableEq

/-- The node during one tick. `gettransaction u` is the answer to the call made for the
output `u`; two outputs of one transaction may get different answers, since the node moves
on between the calls. -/
structure Node where
  listunspent : List String → Except Exn (List Utxo)
  gettransaction : Utxo → Except Exn Transaction

/-- What a tick gets from outside: the node, the clock, and the exceptions the database
raises instead of answering a query or applying an update. -/
structure TickInput where
  node : Node
  now : Datetime
  findError : Option String := none
  updateError : ObjectId → Option String := fun _ => none

structure WatcherState where
  lastTickAt : Option Datetime := none
  lastError : Option String := none
  openInvoices : Nat := 0
  lastId : Option ObjectId := none
  ticks : Nat := 0
  stuck : Nat := 0
  deriving DecidableEq

/-- The collection and the state of the watcher. -/
structure Watch where
  invoices : Invoices
  watcher : WatcherState

/-! ## Loading a batch -/

/-- The watch query: not swept, in a watched state, after the cursor. -/
def watchQuery (after : Option ObjectId) (e : ObjectId × InvoiceDoc) : Bool :=
  e.2.sweptAt.isNone && e.2.state ∈ WATCH_STATES &&
    match after with
    | some last => last < e.1
    | none => true

/-- A limit of `0` is no limit. -/
def loadBatch (invoices : Invoices) (limit : Nat) (after : Option ObjectId) :
    List (ObjectId × InvoiceDoc) :=
  let found := Collection.query invoices (watchQuery after)
  if limit = 0 then found else found.take limit

/-! ## Deciding one invoice -/

def enrich (node : Node) (utxo : Utxo) (duffs : Int) (now : Datetime) :
    Except Exn WatchedOutput :=
  let reported : WatchedOutput :=
    { txid := utxo.txid, vout := utxo.vout, duffs
      confirmations := orInt utxo.confirmations 0
      instantlock := utxo.instantlock.getD false
      chainlock := utxo.chainlock.getD false
      detectedAt := now }
  match node.gettransaction utxo with
  | .ok tx =>
      -- the flags of the transaction replace those of `listunspent`
      .ok { reported with
        instantlock := tx.instantlock.getD false
        chainlock := tx.chainlock.getD false
        confirmations := orInt tx.confirmations reported.confirmations }
  -- the node does not know the transaction: keep what `listunspent` said
  | .error (.dashdError _) => .ok reported
  | .error e => .error e

/-- The first loop of `_apply_invoice`: skip dust, enrich the rest. -/
def freshOutputs (settings : Settings) (node : Node) (now : Datetime) :
    List Utxo → Except Exn (List WatchedOutput)
  | [] => .ok []
  | utxo :: rest =>
      -- dust is not looked up
      if utxo.duffs < settings.dashDustDuffs then freshOutputs settings node now rest
      else
        match enrich node utxo utxo.duffs now with
        | .error e => .error e
        | .ok out =>
            match freshOutputs settings node now rest with
            | .error e => .error e
            | .ok outs => .ok (out :: outs)

/-- The decision taken on the document `inv` as it was read, when the merged outputs are
`outputs`. -/
def settle (inv : InvoiceDoc) (outputs : List WatchedOutput) (now : Datetime) : Decision :=
  applySettlement inv.state now inv.expiresAt.val inv.settleDeadlineAt.val inv.duffsQuoted
    inv.satsRequested (inv.policy.getD {}) outputs (inv.state == .CANCELED)

/-- `_apply_invoice` up to the decision. -/
def decideInvoice (settings : Settings) (node : Node) (inv : InvoiceDoc) (utxos : List Utxo)
    (now : Datetime) : Except Exn Decision :=
  match freshOutputs settings node now utxos with
  | .error e => .error e
  | .ok fresh => .ok (settle inv (mergeOutputs inv.txids fresh) now)

/-! ## Storing a decision -/

/-- The states `_persist` allows a document to be in, from the decision alone. -/
def allowedStates (prev decided : DashInvoiceState) : List DashInvoiceState :=
  match decided with
  | .SETTLED | .OVERPAID => [.OPEN, .DETECTED]
  | .UNDERPAID => [.OPEN, .DETECTED]
  | .EXPIRED => [.OPEN]
  | .DETECTED => [.OPEN, .DETECTED]
  | .OPEN | .CANCELED => [prev]

/-- The filter of `_persist` on the `state` field: a decision that keeps an expired or
canceled invoice as it is only matches the state that was read. -/
def persistFilter (prev decided stored : DashInvoiceState) : Bool :=
  if (decided = .EXPIRED ∨ decided = .CANCELED) ∧ (prev = .EXPIRED ∨ prev = .CANCELED) then
    stored = prev
  else stored ∈ allowedStates prev decided

/-- The `$set` of `_persist`. -/
def Decision.update (d : Decision) (now : Datetime) (doc : InvoiceDoc) : InvoiceDoc :=
  { doc with
    state := d.state
    firstSeenAt := d.firstSeenAt.map Datetime.stored
    detectedAt := d.detectedAt.map Datetime.stored
    settledAt := d.settledAt.map Datetime.stored
    duffsReceived := d.duffsReceived
    satsCredited := d.satsCredited
    latePayment := d.latePayment
    txids := d.txids.map TxRow.stored
    updatedAt := Datetime.stored now }

/-- The integers of the `$set`. -/
def Decision.ints (d : Decision) : List Int :=
  [d.duffsReceived] ++ d.satsCredited.toList ++
    d.txids.flatMap (fun row => [(row.vout : Int), row.duffs, row.confirmations])

/-- The conditional update of `_persist`, on one document. -/
def persistDoc (prev : DashInvoiceState) (d : Decision) (now : Datetime) (doc : InvoiceDoc) :
    InvoiceDoc :=
  if persistFilter prev d.state doc.state then d.update now doc else doc

def persist (invoices : Invoices) (id : ObjectId) (prev : DashInvoiceState) (d : Decision)
    (now : Datetime) : Except Exn Invoices :=
  if d.ints.all bsonInt64 then
    .ok (Collection.updateIf invoices id (fun doc => persistFilter prev d.state doc.state)
      (d.update now))
  else .error (.other "OverflowError")

/-! ## One tick -/

/-- The count of invoices stuck pending settlement. -/
def Watch.countStuck (d : Decision) (w : Watch) : Watch :=
  if d.stuck then { w with watcher := { w.watcher with stuck := w.watcher.stuck + 1 } } else w

def applyInvoice (settings : Settings) (input : TickInput) (id : ObjectId) (inv : InvoiceDoc)
    (utxos : List Utxo) (w : Watch) : Watch × Except Exn Unit :=
  match decideInvoice settings input.node inv utxos input.now with
  | .error e => (w, .error e)
  | .ok d =>
      let w := w.countStuck d
      -- the invoice is counted as stuck even if the update then fails
      match input.updateError id with
      | some message => (w, .error (.other message))
      | none =>
          match persist w.invoices id inv.state d input.now with
          | .error e => (w, .error e)
          | .ok invoices => ({ w with invoices }, .ok ())

/-- The loop over the batch; an exception ends it. -/
def applyBatch (settings : Settings) (input : TickInput) (utxosFor : String → List Utxo) :
    List (ObjectId × InvoiceDoc) → Watch → Watch × Except Exn Unit
  | [], w => (w, .ok ())
  | (id, inv) :: rest, w =>
      match applyInvoice settings input id inv (utxosFor inv.address) w with
      | (w', .ok ()) => applyBatch settings input utxosFor rest w'
      | (w', .error e) => (w', .error e)

/-- The addresses of a batch; an empty one is skipped. -/
def batchAddresses (batch : List (ObjectId × InvoiceDoc)) : List String :=
  (batch.map (fun e => e.2.address)).filter (· ≠ "")

/-- The entries of `raw` paying to `addr`, for the addresses that were asked for. -/
def utxosByAddr (addresses : List String) (raw : List Utxo) (addr : String) : List Utxo :=
  if addr ∈ addresses then raw.filter (fun utxo => utxo.address = some addr) else []

/-- The rotation cursor after loading `batch`. -/
def nextCursor (limit : Nat) (batch : List (ObjectId × InvoiceDoc)) (last : Option ObjectId) :
    Option ObjectId :=
  if batch.length < limit then none
  else match batch.getLast? with
    | some e => some e.1
    | none => last

/-- The watcher after loading `batch`. -/
def Watch.afterLoad (settings : Settings) (batch : List (ObjectId × InvoiceDoc)) (w : Watch) :
    Watch :=
  { w with watcher := { w.watcher with
      lastId := nextCursor settings.dashWatchBatch batch w.watcher.lastId
      openInvoices := batch.countP (fun e => e.2.state = .OPEN ∨ e.2.state = .DETECTED) } }

def askNode (node : Node) (addresses : List String) : Except Exn (List Utxo) :=
  if addresses.isEmpty then .ok [] else node.listunspent addresses

def tick (settings : Settings) (input : TickInput) (w : Watch) : Watch × Except Exn Unit :=
  match input.findError with
  | some message => (w, .error (.other message))
  | none =>
      -- the cursor moves on before the node is asked
      let batch := loadBatch w.invoices settings.dashWatchBatch w.watcher.lastId
      let w := w.afterLoad settings batch
      let addresses := batchAddresses batch
      match askNode input.node addresses with
      -- `listunspent` failed: the tick is over, and not as an error
      | .error (.dashdError message) =>
          ({ w with watcher := { w.watcher with
              lastError := some message
              lastTickAt := some input.now
              ticks := w.watcher.ticks + 1 } }, .ok ())
      | .error e => (w, .error e)
      | .ok raw =>
          match applyBatch settings input (utxosByAddr addresses raw) batch w with
          | (w', .error e) => (w', .error e)
          | (w', .ok ()) =>
              ({ w' with watcher := { w'.watcher with
                  lastTickAt := some input.now
                  ticks := w'.watcher.ticks + 1 } }, .ok ())

/-- One iteration of `run_watcher`, without the wait. -/
def runWatcherOnce (settings : Settings) (input : TickInput) (w : Watch) : Watch :=
  match tick settings input w with
  | (w', .ok ()) => { w' with watcher := { w'.watcher with lastError := none } }
  | (w', .error e) => { w' with watcher := { w'.watcher with lastError := some e.str } }

end V4vappDash
