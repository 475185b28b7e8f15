import V4vappDash.Lib.Ledger
import V4vappDash.System.Indexes
import V4vappDash.System.Outages
import V4vappDash.System.Outpoints
import V4vappDash.System.WatchRange

set_option autoImplicit false

/-! # The books

What all invoices together say they have received is backed by what the chain holds for their
addresses, and the invoices that are credited have received what they are due: `solvent`. Any
number of processes may watch, each with its own settings, and decide on invoices they have read
long ago; all that is asked of the node is that it reports no output that is not there.
-/

namespace V4vappDash

open Machine

/-- The outputs on the chain: the address each pays, and its duffs. -/
abbrev Chain := Ledger (String × Nat) String Int

/-- The least amount that is credited. -/
def InvoiceDoc.due (doc : InvoiceDoc) : Int :=
  min doc.duffsQuoted (doc.duffsQuoted - (doc.policy.getD {}).tolerance doc.duffsQuoted)

/-- The recorded outpoints. -/
def InvoiceDoc.outpoints (doc : InvoiceDoc) : List (String × Nat) := doc.txids.map TxRow.key

/-- An answer of `listunspent` that reports outputs of the chain, each of them once. -/
structure Chain.Answers (chain : Chain) (raw : List Utxo) : Prop where
  distinct : (raw.map Utxo.key).Nodup
  held : ∀ utxo ∈ raw, ∀ a, utxo.address = some a → utxo.key ∈ chain.coins ∧
    chain.owner utxo.key = a ∧ utxo.duffs = chain.value utxo.key

/-- The node of every watcher reports outputs of the chain. -/
def Chain.Told (chain : Chain) (_s : Deployment) : DeploymentAction → Prop
  | .watch _ input => ∀ addresses raw, input.node.listunspent addresses = .ok raw →
      chain.Answers raw
  | _ => True

/-! ## One invoice -/

/-- The books of an invoice are right. -/
structure Chain.Books (chain : Chain) (doc : InvoiceDoc) : Prop where
  claim : chain.Claim doc.address doc.outpoints
  duffs : ∀ row ∈ doc.txids, row.duffs = chain.value row.key
  received : doc.duffsReceived = (doc.txids.map TxRow.duffs).sum
  credited : doc.satsCredited ≠ none → doc.due ≤ doc.duffsReceived

/-- What a tick has looked up for an address. -/
structure Chain.Paid (chain : Chain) (address : String) (utxos : List Utxo) : Prop where
  claim : chain.Claim address (utxos.map Utxo.key)
  duffs : ∀ utxo ∈ utxos, utxo.duffs = chain.value utxo.key

section Invoice

variable {chain : Chain}

theorem Chain.Books.worth {doc : InvoiceDoc} (h : chain.Books doc) :
    doc.duffsReceived = chain.worth doc.outpoints := by
  rw [h.received, Ledger.worth, InvoiceDoc.outpoints, List.map_map]
  exact congrArg List.sum (List.map_congr_left h.duffs)

theorem Chain.books_new (settings : Settings) (body : InvoiceCreate) (pricing : Pricing)
    (address : String) (derivation : Derivation) (now : Datetime) :
    chain.Books (newInvoice settings body pricing address derivation now) where
  claim := .nil address
  duffs := nofun
  received := rfl
  credited := fun h => absurd rfl h

/-- A cancel leaves the books alone. -/
theorem Chain.Books.cancelDoc {doc : InvoiceDoc} (h : chain.Books doc) (now : Datetime) :
    chain.Books (cancelDoc now doc) :=
  ⟨h.claim, h.duffs, h.received, h.credited⟩

theorem Chain.Answers.paid {raw : List Utxo} (h : chain.Answers raw) (addresses : List String)
    (address : String) : chain.Paid address (utxosByAddr addresses raw address) := by
  refine ⟨⟨nodup_utxosByAddr h.distinct addresses address, ?_⟩, ?_⟩
  · intro k hk
    obtain ⟨utxo, hutxo, rfl⟩ := List.mem_map.mp hk
    obtain ⟨-, hmem, haddress⟩ := mem_utxosByAddr.mp hutxo
    obtain ⟨hcoin, howner, -⟩ := h.held utxo hmem address haddress
    exact ⟨hcoin, howner⟩
  · intro utxo hutxo
    obtain ⟨-, hmem, haddress⟩ := mem_utxosByAddr.mp hutxo
    exact (h.held utxo hmem address haddress).2.2

/-- The qualifying outputs in time are worth no more than all outputs. -/
theorem sumDuffs_qualifying_le {outputs : List WatchedOutput} (policy : Policy)
    (expiresAt : Datetime) (h : ∀ out ∈ outputs, 0 ≤ out.duffs) :
    sumDuffs (qualifying policy (preExpiry expiresAt outputs)) ≤ sumDuffs outputs := by
  induction outputs with
  | nil => simp [preExpiry, qualifying]
  | cons out rest ih =>
      have hout := h out List.mem_cons_self
      have hrest := ih (fun o ho => h o (List.mem_cons_of_mem _ ho))
      simp only [preExpiry, qualifying, List.filter_cons] at hrest ⊢
      rw [sumDuffs_cons]
      split_ifs
      · rw [List.filter_cons]
        split_ifs
        · rw [sumDuffs_cons]
          omega
        · omega
      · omega

/-- An invoice is credited only when the outputs are worth what is due. -/
theorem due_le_of_credit {inv : InvoiceDoc} {outputs : List WatchedOutput} {now : Datetime}
    (hwatched : inv.state ∈ WATCH_STATES) (hpos : ∀ out ∈ outputs, 0 ≤ out.duffs)
    (hcredit : (settle inv outputs now).satsCredited ≠ none) : inv.due ≤ sumDuffs outputs := by
  rcases mem_WATCH_STATES.mp hwatched with hopen | hkept
  · have hle := sumDuffs_qualifying_le (inv.policy.getD {}) inv.expiresAt.val hpos
    unfold InvoiceDoc.due
    cases settle_watching outputs now hopen with
    | expired _ _ _ _ _ hnone | waiting _ _ _ _ _ hnone => exact absurd hnone hcredit
    | pending _ _ _ _ _ _ _ hnone => exact absurd hnone hcredit
    | underpaid _ _ _ _ _ _ _ _ hnone => exact absurd hnone hcredit
    | credited _ hsum => omega
  · exact absurd (settle_keeps_credit outputs now hkept) hcredit

/-- The outputs of a merge are outputs of the chain. -/
theorem Chain.Books.merged {inv : InvoiceDoc} (h : chain.Books inv) {settings : Settings}
    {node : Node} {now : Datetime} {utxos : List Utxo} (hpaid : chain.Paid inv.address utxos)
    {fresh : List WatchedOutput} (hfresh : freshOutputs settings node now utxos = .ok fresh)
    {out : WatchedOutput} (hout : out ∈ mergeOutputs inv.txids fresh) :
    (out.key ∈ chain.coins ∧ chain.owner out.key = inv.address) ∧
      out.duffs = chain.value out.key := by
  rcases mem_mergeOutputs.mp hout with ⟨f, hf, rfl⟩ | ⟨row, hget, -, rfl⟩
  · -- a reported output, with the first-seen time it is recorded with
    obtain ⟨utxo, hutxo, -, henrich⟩ := (mem_freshOutputs hfresh f).mp hf
    obtain ⟨hkey, hduffs, -⟩ := enrich_ok henrich
    have hkey : f.key = utxo.key := hkey
    have hsame : (keepFirstSeen (priorRows inv.txids) f).duffs = f.duffs := by
      unfold keepFirstSeen
      split <;> rfl
    rw [keepFirstSeen_key, hsame, hkey, hduffs]
    exact ⟨hpaid.claim.own _ (List.mem_map_of_mem hutxo), hpaid.duffs utxo hutxo⟩
  · obtain ⟨hrow, -⟩ := mem_of_priorRows hget
    exact ⟨h.claim.own _ (List.mem_map_of_mem hrow), h.duffs row hrow⟩

/-- **The step lemma for an update.** The decision may have been taken on an earlier version of the
document. -/
theorem Chain.Books.update {inv stored : InvoiceDoc} (h : chain.Books inv)
    (hwatched : inv.state ∈ WATCH_STATES) (hterms : stored.asCreated = inv.asCreated)
    {settings : Settings} {node : Node} {now : Datetime} {utxos : List Utxo}
    (hpaid : chain.Paid inv.address utxos) {d : Decision}
    (hd : decideInvoice settings node inv utxos now = .ok d) :
    chain.Books (d.update now stored) := by
  obtain ⟨fresh, hfresh, -, rfl⟩ := decideInvoice_ok hd
  have hterm := fun {β : Type} (f : InvoiceDoc → β) => congrArg f hterms
  have haddress : stored.address = inv.address := hterm InvoiceDoc.address
  have hdue : stored.due = inv.due := hterm InvoiceDoc.due
  have hmerged : ∀ out ∈ mergeOutputs inv.txids fresh,
      (out.key ∈ chain.coins ∧ chain.owner out.key = inv.address) ∧
        out.duffs = chain.value out.key := fun _ => h.merged hpaid hfresh
  have hdistinct := nodup_keys_mergeOutputs inv.txids
    (hpaid.claim.distinct.sublist (keys_freshOutputs hfresh))
  have hrecords := (applySettlement_records inv.state now inv.expiresAt.val
    inv.settleDeadlineAt.val inv.duffsQuoted inv.satsRequested (inv.policy.getD {})
    (mergeOutputs inv.txids fresh) (inv.state == .CANCELED)).2
  have hsum : ((settle inv (mergeOutputs inv.txids fresh) now).update now stored).duffsReceived
      = sumDuffs (mergeOutputs inv.txids fresh) := hrecords
  constructor
  · show chain.Claim stored.address (List.map _ (List.map _ _))
    rw [settle_txids, keys_storedRows, haddress]
    refine ⟨hdistinct, ?_⟩
    intro k hk
    obtain ⟨out, hout, rfl⟩ := List.mem_map.mp hk
    exact (hmerged out hout).1
  · rw [update_txids, settle_txids]
    intro row hrow
    obtain ⟨out, hout, rfl⟩ := mem_storedRows.mp hrow
    exact (hmerged out hout).2
  · rw [hsum, update_txids, settle_txids]
    unfold storedRows sumDuffs
    rw [List.map_map]
    rfl
  · intro hcredit
    rw [hsum]
    show stored.due ≤ _
    rw [hdue]
    refine due_le_of_credit hwatched ?_ hcredit
    intro out hout
    obtain ⟨⟨hcoin, -⟩, hduffs⟩ := hmerged out hout
    rw [hduffs]
    exact chain.value_nonneg _ hcoin

end Invoice

/-! ## Runs -/

/-- The books of every stored invoice, and of every invoice a tick has read, are right. -/
structure Booked (chain : Chain) (s : Deployment) : Prop where
  docs : s.service.Docs chain.Books
  distinct : DistinctAddresses s.service.db.invoices
  read : ∀ i, ∀ e ∈ (s.watchers i).2.batch, e.2.state ∈ WATCH_STATES ∧ chain.Books e.2 ∧
    ∃ doc, s.service.db.invoices.lookup e.1 = some doc ∧ doc.asCreated = e.2.asCreated
  answers : ∀ i now utxosFor rest, (s.watchers i).2 = .applying now utxosFor rest →
    ∀ address, chain.Paid address (utxosFor address)

section Runs

variable {chain : Chain} {bip44 : Bip44}

theorem Booked.distinct_act {s : Deployment} (h : Booked chain s) (a : DeploymentAction) :
    DistinctAddresses (s.act bip44 a).service.db.invoices := by
  have hmove := Deployment.act_move bip44 s a
  generalize (s.act bip44 a).service = t at hmove ⊢
  cases hmove with
  | serve a => exact h.distinct.act a
  | update ha hsame => exact h.distinct.update hsame

/-- What the tick of a watcher has read after a step of it. -/
theorem Booked.read_watch {s : Deployment} (h : Booked chain s) {i : Nat} {settings : Settings}
    {input : TickInput} {w : Watch} {phase : TickPhase}
    (hmove : WatchMove settings input (s.watch i) (s.watchers i).2 w phase)
    {e : ObjectId × InvoiceDoc} (he : e ∈ phase.batch) :
    e.2.state ∈ WATCH_STATES ∧ chain.Books e.2 ∧
      ∃ doc, s.service.db.invoices.lookup e.1 = some doc ∧ doc.asCreated = e.2.asCreated := by
  rcases hmove.mem_batch he with hold | ⟨hnew, hstate⟩
  · exact h.read i e hold
  · exact ⟨hstate, h.docs.stored e.1 e.2 hnew, e.2, hnew, rfl⟩

/-- What a step of a watcher writes and looks up, when its node reports outputs of the chain. -/
theorem Booked.watch {s : Deployment} (h : Booked chain s) {i : Nat} {settings : Settings}
    {input : TickInput} {w : Watch} {phase : TickPhase} (htold : chain.Told s (.watch i input))
    (hmove : WatchMove settings input (s.watch i) (s.watchers i).2 w phase) :
    (∀ id doc, w.invoices.lookup id = some doc → chain.Books doc) ∧
      ∀ now utxosFor rest, phase = .applying now utxosFor rest →
        ∀ address, chain.Paid address (utxosFor address) := by
  have hread := h.read i
  have hanswers := h.answers i
  generalize (s.watchers i).2 = before at hmove hread hanswers
  cases hmove with
  | load hfind => exact ⟨h.docs.stored, fun _ _ _ heq => by cases heq⟩
  | @answer batch raw hraw =>
      refine ⟨h.docs.stored, ?_⟩
      intro now utxosFor rest heq address
      cases heq
      have hnil : chain.Answers [] := ⟨List.nodup_nil, nofun⟩
      exact (askNode_ok hnil htold hraw).paid _ address
  | @update now utxosFor id inv rest d w' hd hinvoices hlast =>
      constructor
      · intro j doc hdoc
        rw [hinvoices] at hdoc
        rcases Collection.lookup_updateIf_cases hdoc with hold | ⟨rfl, stored, hstored, -, rfl⟩
        · exact h.docs.stored j doc hold
        -- the document is the one that was read, on the same terms
        · obtain ⟨hstate, hbooks, doc, hdoc, hterms⟩ := hread _ List.mem_cons_self
          obtain rfl : stored = doc := Option.some.inj (hstored.symm.trans hdoc)
          exact hbooks.update hstate hterms (hanswers now utxosFor _ rfl inv.address) hd
      · intro now' utxosFor' rest' heq
        cases heq
        exact hanswers now utxosFor _ rfl
  | finish hphase hinvoices hlast | fail hphase hinvoices hlast =>
      rw [hinvoices]
      exact ⟨h.docs.stored, fun _ _ _ heq => by cases heq⟩

/-- **The step lemma.** -/
theorem Booked.act {s : Deployment} (h : Booked chain s) (a : DeploymentAction)
    (htold : chain.Told s a) : Booked chain (s.act bip44 a) := by
  have hdistinct : DistinctAddresses (s.act bip44 a).service.db.invoices := h.distinct_act a
  -- what was read and is stored stays stored, on the same terms
  have hkept : ∀ e : ObjectId × InvoiceDoc, e.2.state ∈ WATCH_STATES ∧ chain.Books e.2 ∧
        (∃ doc, s.service.db.invoices.lookup e.1 = some doc ∧ doc.asCreated = e.2.asCreated) →
      e.2.state ∈ WATCH_STATES ∧ chain.Books e.2 ∧
        ∃ doc, (s.act bip44 a).service.db.invoices.lookup e.1 = some doc ∧
          doc.asCreated = e.2.asCreated := by
    rintro e ⟨hstate, hbooks, doc, hdoc, hterms⟩
    obtain ⟨doc', hdoc', hsame⟩ := Deployment.lookup_act bip44 s a hdoc
    exact ⟨hstate, hbooks, doc', hdoc', hsame.trans hterms⟩
  cases a with
  | serve a =>
      have hdocs := (Service.act_move bip44 s.service a).docs h.docs
        (fun settings body pricing _ _ address derivation now _ =>
          Chain.books_new settings body pricing address derivation now)
      exact ⟨hdocs, hdistinct, fun i e he => hkept e (h.read i e he), h.answers⟩
  | cancel id now =>
      refine ⟨⟨?_, h.docs.built⟩, hdistinct, fun i e he => hkept e (h.read i e he), h.answers⟩
      intro j doc hdoc
      rcases Collection.lookup_updateIf_cases hdoc with hold | ⟨rfl, old, hold, -, rfl⟩
      · exact h.docs.stored j doc hold
      · exact (h.docs.stored j old hold).cancelDoc now
  | watch i input =>
      cases hruns : s.runs i with
      | none =>
          rw [Deployment.act_watch_none hruns]
          exact h
      | some settings =>
          obtain ⟨w', phase', hmove, hact⟩ := Deployment.act_watch_move bip44 hruns input
          obtain ⟨hdocs, hanswers⟩ := h.watch htold hmove
          rw [hact] at hkept hdistinct ⊢
          refine ⟨⟨hdocs, h.docs.built⟩, hdistinct, ?_, ?_⟩
          · intro j e he
            refine hkept e ?_
            by_cases hj : j = i
            · subst hj
              simp only [Function.update_self] at he
              exact h.read_watch hmove he
            · simp only [Function.update_of_ne hj] at he
              exact h.read j e he
          · intro j
            by_cases hj : j = i
            · subst hj
              simp only [Function.update_self]
              exact hanswers
            · simp only [Function.update_of_ne hj]
              exact h.answers j

theorem booked_empty (chain : Chain) : Booked chain .empty where
  docs := ⟨fun _ _ hdoc => (by cases hdoc), fun _ hr => (by cases hr)⟩
  distinct := fun _ _ _ _ hdoc => (by cases hdoc)
  read := fun _ _ he => (by cases he)
  answers := fun _ _ _ _ heq => (by cases heq)

end Runs

/-- The invoices of a collection that satisfy a test. -/
def invoicesWith (invoices : Invoices) (p : InvoiceDoc → Bool) : List InvoiceDoc :=
  ((Collection.docs invoices).map Prod.snd).filter p

/-- Different invoices of a collection have different addresses. -/
theorem pairwise_invoicesWith {invoices : Invoices} (h : DistinctAddresses invoices)
    (p : InvoiceDoc → Bool) :
    (invoicesWith invoices p).Pairwise (fun doc doc' => doc.address ≠ doc'.address) := by
  have hkeys : (Collection.docs invoices).Pairwise (fun e e' => e.1 ≠ e'.1) :=
    List.pairwise_map.mp (Collection.docs_keys_nodup invoices)
  refine List.Pairwise.filter p (List.pairwise_map.mpr ?_)
  refine hkeys.imp_of_mem ?_
  intro e e' he he' hne heq
  exact hne (h e.1 e'.1 e.2 e'.2 (Collection.mem_docs.mp he) (Collection.mem_docs.mp he') heq)

theorem mem_invoicesWith {invoices : Invoices} {p : InvoiceDoc → Bool} {doc : InvoiceDoc}
    (h : doc ∈ invoicesWith invoices p) :
    (∃ id, invoices.lookup id = some doc) ∧ p doc = true := by
  obtain ⟨hmem, hp⟩ := List.mem_filter.mp h
  obtain ⟨e, he, rfl⟩ := List.mem_map.mp hmem
  exact ⟨⟨e.1, Collection.mem_docs.mp he⟩, hp⟩

/-- **The books are backed.** In every run of the deployment in which no node reports an output
that is not on the chain: whichever invoices one picks, what they say they have received is at
most what the chain holds for their addresses; and what is due for the credited ones is at most
what they have received. -/
theorem solvent (bip44 : Bip44) (chain : Chain) (actions : List DeploymentAction)
    (htold : Along (Deployment.act bip44) chain.Told .empty actions) :
    let invoices := (run (Deployment.act bip44) .empty actions).service.db.invoices
    (∀ p, ((invoicesWith invoices p).map InvoiceDoc.duffsReceived).sum
        ≤ chain.held ((invoicesWith invoices p).map InvoiceDoc.address)) ∧
      ((invoicesWith invoices (fun doc => doc.satsCredited.isSome)).map InvoiceDoc.due).sum
        ≤ ((invoicesWith invoices (fun doc => doc.satsCredited.isSome)).map
          InvoiceDoc.duffsReceived).sum := by
  intro invoices
  have hbooked : Booked chain (run (Deployment.act bip44) .empty actions) :=
    htold.invariant (fun s a hs ha => hs.act a ha) (booked_empty chain)
  have hbooks : ∀ p, ∀ doc ∈ invoicesWith invoices p, chain.Books doc := by
    intro p doc hdoc
    obtain ⟨⟨id, hlook⟩, -⟩ := mem_invoicesWith hdoc
    exact hbooked.docs.stored id doc hlook
  constructor
  · intro p
    have hworth : (invoicesWith invoices p).map InvoiceDoc.duffsReceived
        = (invoicesWith invoices p).map (fun doc => chain.worth doc.outpoints) :=
      List.map_congr_left (fun doc hdoc => (hbooks p doc hdoc).worth)
    rw [hworth]
    exact Ledger.sum_claims_le (pairwise_invoicesWith hbooked.distinct p)
      (fun doc hdoc => (hbooks p doc hdoc).claim)
  · refine List.sum_le_sum ?_
    intro doc hdoc
    have hcredited := (mem_invoicesWith hdoc).2
    exact (hbooks _ doc hdoc).credited (Option.isSome_iff_ne_none.mp hcredited)

/-! ## Two paid invoices

At a thousandth of a bitcoin for a Dash, a request for one sat is quoted at 351000 duffs, of which
50000 are tolerated. One invoice is paid in full, and one within the tolerance. -/

def backedQuote : Quote :=
  { dustQuote with
    btcUsd := 50000, dashBtc := ((1 : Int) : Decimal) * (10 : ℚ) ^ (-3 : Int), satsPerDash := 100000 }

def backedPricing : Pricing where
  fees := dustPricing.fees
  quote := { backedQuote with duffsQuoted := 351000, dashQuoted := dashAmountString 351000 }

theorem createPrice_backed {body : InvoiceCreate} (hsats : body.sats = 1) (material : XpubMaterial) :
    createPrice body DEFAULT_CONFIG (fetchQuote (.ok backedQuote)) material
      = .priced material backedPricing := by
  have hduffs : duffsFromSats 351 backedQuote.dashBtc = .ok 351000 :=
    duffsFromSats_exact (by decide) (by decide) (by decide) (by decide) (by decide) (by norm_num)
  exact createPrice_oneSat hsats hduffs material

def backedInput (id : ObjectId) : CreateInput := { dustInput with quote := .ok backedQuote, id }

def backedFirst : InvoiceDoc :=
  newInvoice (rangeSettings 2) dustBody backedPricing "y0"
    { change := 0, index := 0, path := "m/44'/1'/0'/0/0" } 0

def backedSecond : InvoiceDoc :=
  newInvoice (rangeSettings 2) (rangeBody "top-up") backedPricing "y1"
    { change := 0, index := 1, path := "m/44'/1'/0'/0/1" } 0

def backedRow : WalletRow := newRow .regtest "tpub" "aabbccdd" 2 0

/-- A process has started. -/
def backedStart : Service := run (Service.act dustKeys) .empty (rangeStart 0 2)

/-- It has stored one invoice, and both. -/
def backedDb : Database :=
  { backedStart.db.afterTake .regtest backedRow 0 with invoices := AList.insert 1 backedFirst ∅ }

def backedInvoices : Invoices := AList.insert 2 backedSecond backedDb.invoices

theorem served_backedFirst : Served (rangeSettings 2) dustKeys dustBody (backedInput 1)
    backedStart.db dustMaterial backedPricing backedRow "y0"
    { change := 0, index := 0, path := "m/44'/1'/0'/0/0" } where
  mongo := by decide
  key := rfl
  price := createPrice_backed rfl dustMaterial
  limit := rfl
  found := rfl
  inRange := by decide
  derive := rfl
  ints := by decide
  fresh := rfl

theorem served_backedSecond : Served (rangeSettings 2) dustKeys (rangeBody "top-up")
    (backedInput 2) backedDb dustMaterial backedPricing (backedRow.taken 0) "y1"
    { change := 0, index := 1, path := "m/44'/1'/0'/0/1" } where
  mongo := by decide
  key := rfl
  price := createPrice_backed rfl dustMaterial
  limit := rfl
  found := rfl
  inRange := by decide
  derive := rfl
  ints := by decide
  fresh := rfl

def backedServes : List ServiceAction :=
  rangeStart 0 2 ++ ((.post 0 dustBody :: List.replicate 7 (.create 0 (backedInput 1))) ++
    (.post 0 (rangeBody "top-up") :: List.replicate 7 (.create 1 (backedInput 2))))

/-- The process serves both requests. -/
theorem run_backedServes : ∃ s, run (Service.act dustKeys) .empty backedServes = s ∧
    s.processes = backedStart.processes ∧ s.db.invoices = backedInvoices := by
  obtain ⟨p, hfirst⟩ := served_backedFirst.serve (s := backedStart) (i := 0) rfl
  obtain ⟨q, hsecond⟩ := served_backedSecond.serve (s := backedStart.afterServe 0 (rangeSettings 2)
    dustBody (backedInput 1) backedPricing backedRow "y0"
    { change := 0, index := 0, path := "m/44'/1'/0'/0/0" } p) (i := 0) rfl
  have hrun := (congrArg (run (Service.act dustKeys) · _) hfirst).trans hsecond
  rw [backedStart, ← run_append, ← run_append] at hrun
  exact ⟨_, hrun, rfl, rfl⟩

/-- The payments, which are all the outputs there are. -/
def backedUtxos : List Utxo :=
  [{ sampleUtxo with address := some "y0", amount := ((351000 : Int) : Decimal) / 10 ^ 8 },
    { sampleUtxo with
      txid := "tx-2", address := some "y1", amount := ((340000 : Int) : Decimal) / 10 ^ 8 }]

def backedTick : TickInput where
  node := { sampleNode with listunspent := fun _ => .ok backedUtxos }
  now := 1000000

def backedChain : Chain where
  coins := {("tx-1", 0), ("tx-2", 0)}
  owner := fun key => if key.1 = "tx-1" then "y0" else "y1"
  value := fun key => if key.1 = "tx-1" then 351000 else 340000
  value_nonneg := by decide

theorem answers_backedUtxos : backedChain.Answers backedUtxos where
  distinct := by decide
  held := by
    intro utxo hutxo a haddress
    rcases List.mem_pair.mp hutxo with rfl | rfl
    · exact ⟨by decide, Option.some.inj haddress, Utxo.duffs_eq rfl (by decide)⟩
    · exact ⟨by decide, Option.some.inj haddress, Utxo.duffs_eq rfl (by decide)⟩

def firstBacking : Decision := settle backedFirst [{ sampleOutput with duffs := 351000 }] 1000000

def secondBacking : Decision :=
  settle backedSecond [{ sampleOutput with txid := "tx-2", duffs := 340000 }] 1000000

/-- The documents when a tick has updated both invoices. -/
def backedPaid : Invoices :=
  Collection.updateIf (Collection.updateIf backedInvoices 1
      (fun doc => persistFilter .OPEN firstBacking.state doc.state) (firstBacking.update 1000000)) 2
    (fun doc => persistFilter .OPEN secondBacking.state doc.state) (secondBacking.update 1000000)

theorem watchNext_backed : ((watchNext (rangeSettings 2) backedTick)^[4]
    (⟨backedInvoices, {}⟩, .idle)).1.invoices = backedPaid := by
  have hdecide : ∀ {inv : InvoiceDoc} {utxo : Utxo} {out : WatchedOutput} (duffs : Int),
      utxosByAddr ["y0", "y1"] backedUtxos inv.address = [utxo] → inv.txids = [] →
      utxo.duffs = duffs → (rangeSettings 2).dashDustDuffs ≤ duffs →
      enrich backedTick.node utxo duffs 1000000 = .ok out →
      mergeOutputs [] [out] = [out] →
      decideInvoice (rangeSettings 2) backedTick.node inv
        (utxosByAddr ["y0", "y1"] backedUtxos inv.address) 1000000
        = .ok (settle inv [out] 1000000) := by
    intro inv utxo out duffs hutxos htxids hduffs hdust he hmerge
    rw [hutxos, decideInvoice_fresh _ (freshOutputs_single duffs hduffs hdust he), htxids, hmerge]
  have hfirst : decideInvoice (rangeSettings 2) backedTick.node backedFirst
      (utxosByAddr ["y0", "y1"] backedUtxos backedFirst.address) 1000000 = .ok firstBacking :=
    hdecide 351000 rfl rfl (Utxo.duffs_eq rfl (by decide)) (by decide) rfl rfl
  have hsecond : decideInvoice (rangeSettings 2) backedTick.node backedSecond
      (utxosByAddr ["y0", "y1"] backedUtxos backedSecond.address) 1000000 = .ok secondBacking :=
    hdecide 340000 rfl rfl (Utxo.duffs_eq rfl (by decide)) (by decide) rfl rfl
  let start : Watch := ⟨backedInvoices, {}⟩
  have hload : (watchNext (rangeSettings 2) backedTick)^[2] (start, .idle)
      = (start.afterLoad (rangeSettings 2) [(1, backedFirst), (2, backedSecond)],
        .applying 1000000 (utxosByAddr ["y0", "y1"] backedUtxos)
          [(1, backedFirst), (2, backedSecond)]) := rfl
  rw [Function.iterate_add_apply _ 2 2, hload]
  show (watchStep (rangeSettings 2) backedTick (watchStep (rangeSettings 2) backedTick _ _).1
    (watchStep (rangeSettings 2) backedTick _ _).2).1.invoices = _
  rw [watchStep_applying hfirst (by decide) rfl, watchStep_applying hsecond (by decide) rfl]
  rfl

def backedActions : List DeploymentAction :=
  backedServes.map .serve ++ List.replicate 4 (.watch 0 backedTick)

theorem run_backedActions :
    (run (Deployment.act dustKeys) .empty backedActions).service.db.invoices = backedPaid := by
  obtain ⟨s, hserves, hprocesses, hinvoices⟩ := run_backedServes
  have hstart : run (Deployment.act dustKeys) .empty (backedServes.map .serve)
      = ⟨s, fun _ => ({}, .idle)⟩ := by
    rw [Deployment.run_serve]
    exact congrArg (Deployment.mk · _) hserves
  have hruns : (⟨s, fun _ => ({}, .idle)⟩ : Deployment).runs 0 = some (rangeSettings 2) := by
    unfold Deployment.runs
    dsimp only
    rw [hprocesses]
    rfl
  rw [backedActions, run_append, hstart, Deployment.run_watch hruns]
  show ((watchNext (rangeSettings 2) backedTick)^[4] (⟨s.db.invoices, {}⟩, .idle)).1.invoices = _
  rw [hinvoices, watchNext_backed]

/-- Both are credited, and what is due for them is on the chain. -/
theorem solvent_backed :
    let credited := invoicesWith
      (run (Deployment.act dustKeys) .empty backedActions).service.db.invoices
      (fun doc => doc.satsCredited.isSome)
    credited.map (fun doc => (doc.address, doc.due, doc.duffsReceived))
        = [("y1", 301000, 340000), ("y0", 301000, 351000)] ∧
      (credited.map InvoiceDoc.due).sum ≤ (credited.map InvoiceDoc.duffsReceived).sum ∧
      (credited.map InvoiceDoc.duffsReceived).sum
        ≤ backedChain.held (credited.map InvoiceDoc.address) := by
  intro credited
  have htold : Along (Deployment.act dustKeys) backedChain.Told .empty backedActions := by
    refine along_append.mpr ⟨Deployment.along_serve.mpr (along_of_mem fun _ _ _ => trivial), ?_⟩
    refine along_replicate ?_
    intro k hk addresses raw hraw
    cases hraw
    exact answers_backedUtxos
  obtain ⟨hheld, hdue⟩ := solvent dustKeys backedChain backedActions htold
  refine ⟨?_, hdue, hheld _⟩
  show (invoicesWith _ _).map _ = _
  rw [run_backedActions]
  decide

end V4vappDash
