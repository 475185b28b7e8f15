import V4vappDash.System.History

set_option autoImplicit false

/-! # Paying what the URI asks for

The amount of a payment URI is the quote in duffs, as a numeral. The node reports an output of
that amount as a number that is read as a float; converted and summed it is the quote again, so
the output settles the invoice, provided the watcher does not take it for dust and the float holds
the amount: `uri_payment_settles`.
-/

namespace V4vappDash

open Interleaving

/-! ## The terms of a stored invoice -/

/-- An integer that BSON holds has far fewer than 28 digits. -/
theorem abs_lt_of_bsonInt64 {n : Int} (h : bsonInt64 n = true) : |n| < 10 ^ 28 := by
  rw [bsonInt64, Bool.and_eq_true, decide_eq_true_eq, decide_eq_true_eq] at h
  rw [abs_lt]
  constructor
  · have : (-10 ^ 28 : Int) < -2 ^ 63 := by decide
    omega
  · have : (2 ^ 63 : Int) < 10 ^ 28 := by decide
    omega

section Terms

variable {now : Datetime} {doc : InvoiceDoc}

theorem StoredOk.bsonInt64_satsRequested (h : StoredOk now doc) :
    bsonInt64 doc.satsRequested = true :=
  List.all_eq_true.mp h.ints _ (by simp [InvoiceDoc.newInts, InvoiceDoc.asCreated])

theorem StoredOk.bsonInt64_duffsQuoted (h : StoredOk now doc) :
    bsonInt64 doc.duffsQuoted = true :=
  List.all_eq_true.mp h.ints _ (by simp [InvoiceDoc.newInts, InvoiceDoc.asCreated])

/-- The URI of a stored invoice asks for the quote. -/
theorem StoredOk.uri (h : StoredOk now doc) :
    doc.uri = paymentUri doc.address (dashAmountString doc.duffsQuoted) := by
  obtain ⟨settings, body, pricing, address, derivation, created, hp, heq⟩ := h.created
  have huri : doc.uri = paymentUri address pricing.quote.dashQuoted :=
    congrArg InvoiceDoc.uri heq
  have haddress : doc.address = address := congrArg InvoiceDoc.address heq
  have hduffs : doc.duffsQuoted = pricing.quote.duffsQuoted :=
    congrArg InvoiceDoc.duffsQuoted heq
  calc doc.uri
      = paymentUri address pricing.quote.dashQuoted := huri
    _ = paymentUri address (dashAmountString pricing.quote.duffsQuoted) := by rw [hp]
    _ = paymentUri doc.address (dashAmountString doc.duffsQuoted) := by rw [haddress, hduffs]

/-- The amount in the URI is counted as the quote, unless it is so large that its float is
ambiguous. -/
theorem StoredOk.duffs (h : StoredOk now doc) {text : String} {utxo : Utxo}
    (hquote : |doc.duffsQuoted| < 2 ^ 26 * 10 ^ 8)
    (huri : doc.uri = paymentUri doc.address text)
    (hamount : Numeral.parse text = some utxo.amount) :
    utxo.duffs = doc.duffsQuoted := by
  have habs := abs_lt_of_bsonInt64 h.bsonInt64_duffsQuoted
  have htext : text = dashAmountString doc.duffsQuoted := paymentUri_inj (huri.symm.trans h.uri)
  rw [htext, parse_dashAmountString habs] at hamount
  exact Utxo.duffs_eq (Option.some.inj hamount).symm hquote

end Terms

/-! ## The decision -/

/-- With no recorded rows, the merge is the fresh outputs. -/
theorem mergeOutputs_nil (fresh : List WatchedOutput) : mergeOutputs [] fresh = fresh := by
  have hkeep : fresh.map (keepFirstSeen (priorRows [])) = fresh := by
    have hid : keepFirstSeen (priorRows []) = id := by
      funext out
      rfl
    rw [hid, List.map_id]
  show fresh.map (keepFirstSeen (priorRows [])) ++ [] = fresh
  rw [List.append_nil, hkeep]

/-- An open invoice with one output in time, of the amount of the quote and satisfying the
policy, is settled. -/
theorem settle_exact_payment {inv : InvoiceDoc} {out : WatchedOutput} (now : Datetime)
    (hopen : inv.state = .OPEN) (htime : out.detectedAt < inv.expiresAt.val)
    (hqual : outputQualifies out (inv.policy.getD {}) = true)
    (hduffs : out.duffs = inv.duffsQuoted) :
    (settle inv [out] now).state = .SETTLED ∧
      (settle inv [out] now).satsCredited = some inv.satsRequested := by
  have hpre : preExpiry inv.expiresAt.val [out] = [out] := by simp [preExpiry, htime]
  have hsum : sumDuffs (qualifying (inv.policy.getD {}) (preExpiry inv.expiresAt.val [out]))
      = inv.duffsQuoted := by
    rw [hpre, ← hduffs]
    simp [qualifying, hqual]
  cases settle_watching [out] now (Or.inl hopen) with
  | expired hnil | waiting hnil => rw [hpre] at hnil; cases hnil
  | credited _ _ hstate _ _ hcredit =>
      rw [hsum, if_neg (lt_irrefl _)] at hstate
      exact ⟨hstate, hcredit⟩
  | pending _ hless | underpaid _ hless => exact absurd hsum (ne_of_lt hless)

/-- What is decided on a stored open invoice, when the node reports one output of the amount in
its URI, in time and satisfying the policy. -/
theorem StoredOk.decide_uri_payment {clock now : Datetime} {doc : InvoiceDoc}
    (h : StoredOk clock doc) {settings : Settings} {node : Node} {utxo : Utxo} {text : String}
    {out : WatchedOutput} (hopen : doc.state = .OPEN) (hnow : now < doc.expiresAt.val)
    (hdust : settings.dashDustDuffs ≤ doc.duffsQuoted)
    (hquote : |doc.duffsQuoted| < 2 ^ 26 * 10 ^ 8)
    (huri : doc.uri = paymentUri doc.address text)
    (hamount : Numeral.parse text = some utxo.amount)
    (hout : enrich node utxo doc.duffsQuoted now = .ok out)
    (hqual : outputQualifies out (doc.policy.getD {}) = true)
    (hvout : bsonInt64 out.vout = true) (hconf : bsonInt64 out.confirmations = true) :
    ∃ d, decideInvoice settings node doc [utxo] now = .ok d ∧ d.state = .SETTLED ∧
      d.duffsReceived = doc.duffsQuoted ∧ d.satsCredited = some doc.satsRequested ∧
      d.ints.all bsonInt64 = true := by
  obtain ⟨-, hduffs, hat⟩ := enrich_ok hout
  -- the amount is the quote, so it is not dust
  have hfresh : freshOutputs settings node now [utxo] = .ok [out] :=
    freshOutputs_single _ (h.duffs hquote huri hamount) hdust hout
  have hd : decideInvoice settings node doc [utxo] now = .ok (settle doc [out] now) := by
    -- an open invoice has no recorded rows, so the merge is the one fresh output
    rw [decideInvoice_fresh _ hfresh, (h.timely.coherent.opened hopen).1, mergeOutputs_nil]
  have htime : out.detectedAt < doc.expiresAt.val := by
    rw [hat]
    exact hnow
  obtain ⟨hstate, hcredit⟩ := settle_exact_payment now hopen htime hqual hduffs
  obtain ⟨htxids, hrecorded⟩ : (settle doc [out] now).txids = [txDict out] ∧
      (settle doc [out] now).duffsReceived = sumDuffs [out] :=
    applySettlement_records _ _ _ _ _ _ _ _ _
  have hreceived : (settle doc [out] now).duffsReceived = doc.duffsQuoted := by
    calc (settle doc [out] now).duffsReceived
        = sumDuffs [out] := hrecorded
      _ = out.duffs := by simp
      _ = doc.duffsQuoted := hduffs
  have hints : (settle doc [out] now).ints.all bsonInt64 = true := by
    unfold Decision.ints
    rw [hreceived, hcredit, htxids]
    -- the row holds the quote, the `vout` and the confirmations
    have hrow : bsonInt64 out.duffs = true := by
      rw [hduffs]
      exact h.bsonInt64_duffsQuoted
    simp [txDict, h.bsonInt64_duffsQuoted, h.bsonInt64_satsRequested, hvout, hconf, hrow]
  exact ⟨_, hd, hstate, hreceived, hcredit, hints⟩

/-! ## The tick -/

/-- **Paying what the URI asks for settles.** In every reachable state, when a tick that reaches
an open invoice before `expires_at` gets one output for its address, of the amount in the URI
and satisfying the stored policy, and the quote is at least the dust limit of the watcher and
below `2²⁶` DASH, then the tick stores the invoice as settled, with the quote received and the
requested sats credited. -/
theorem uri_payment_settles {bip44 : Bip44} {settings : Settings} {s : Bridge}
    {c : Config Bridge Actor} (hs : s.Initial) (h : Run (bridge bip44 settings) ⟨s, []⟩ c)
    {input : TickInput} {before after : List (ObjectId × InvoiceDoc)} {id : ObjectId}
    {doc : InvoiceDoc} {raw : List Utxo} {utxo : Utxo} {text : String} {out : WatchedOutput}
    (hopen : doc.state = .OPEN) (hnow : input.now < doc.expiresAt.val)
    (hdust : settings.dashDustDuffs ≤ doc.duffsQuoted)
    (hquote : |doc.duffsQuoted| < 2 ^ 26 * 10 ^ 8)
    (hfind : input.findError = none) (hupdate : input.updateError id = none)
    (hbatch : loadBatch c.shared.db.invoices settings.dashWatchBatch c.shared.watcher.lastId
      = before ++ (id, doc) :: after)
    (hraw : askNode input.node (batchAddresses (before ++ (id, doc) :: after)) = .ok raw)
    (hbefore : (applyBatch settings input
      (utxosByAddr (batchAddresses (before ++ (id, doc) :: after)) raw) before
      (c.shared.watch.afterLoad settings (before ++ (id, doc) :: after))).2 = .ok ())
    (hone : utxosByAddr (batchAddresses (before ++ (id, doc) :: after)) raw doc.address = [utxo])
    (huri : doc.uri = paymentUri doc.address text)
    (hamount : Numeral.parse text = some utxo.amount)
    (hout : enrich input.node utxo doc.duffsQuoted input.now = .ok out)
    (hqual : outputQualifies out (doc.policy.getD {}) = true)
    (hvout : bsonInt64 out.vout = true) (hconf : bsonInt64 out.confirmations = true) :
    ∃ doc', (tick settings input c.shared.watch).1.invoices.lookup id = some doc' ∧
      doc'.state = .SETTLED ∧ doc'.duffsReceived = doc.duffsQuoted ∧
      doc'.satsCredited = some doc.satsRequested := by
  have hmem : (id, doc) ∈ loadBatch c.shared.db.invoices settings.dashWatchBatch
      c.shared.watcher.lastId := by
    rw [hbatch]
    exact List.mem_append_right _ List.mem_cons_self
  have hok : StoredOk c.shared.clock doc :=
    (holds_of_initial hs h).1.docs id doc (mem_loadBatch hmem).1
  obtain ⟨d, hd, hstate, hreceived, hcredit, hints⟩ :=
    hok.decide_uri_payment hopen hnow hdust hquote huri hamount hout hqual hvout hconf
  refine ⟨_, tick_lookup hfind hbatch hraw hbefore (by rw [hone]; exact hd) hints hupdate, ?_⟩
  -- the document is still the open one that was read
  have hfilter : persistFilter doc.state d.state doc.state = true := by
    rw [hopen, hstate]
    decide
  rw [persistDoc, if_pos hfilter]
  exact ⟨hstate, hreceived, hcredit⟩

/-- The payment of `sampleInvoice`. -/
theorem uri_payment_settles_sample :
    ∃ doc', (tick {} sampleInput sampleBridgeLater.watch).1.invoices.lookup 1 = some doc' ∧
      doc'.state = .SETTLED ∧ doc'.duffsReceived = 200000 ∧ doc'.satsCredited = some 100000 := by
  have hamount : Numeral.parse "0.00200000" = some sampleUtxo.amount := by
    have hparse : Numeral.parse (dashAmountString 200000) = some sampleUtxo.amount :=
      parse_dashAmountString (by decide)
    rw [dashAmountString_eq (by decide)] at hparse
    exact hparse
  have hrun : Run (bridge noKeys {}) ⟨sampleBridge, []⟩ ⟨sampleBridgeLater, [.clock]⟩ :=
    .head (.spawn .clock (Or.inl rfl))
      (.single (Step.act (c := ⟨sampleBridge, [Actor.clock]⟩) 0 rfl
        (ActorStep.clock (s := sampleBridge) 1000000 (by decide))))
  have hbatch : loadBatch sampleBridgeLater.db.invoices 500 none
      = [] ++ (1, sampleInvoice) :: [] := rfl
  have hone : utxosByAddr (batchAddresses ([] ++ (1, sampleInvoice) :: [])) [sampleUtxo] "yAddr"
      = [sampleUtxo] := rfl
  have hout : enrich sampleInput.node sampleUtxo 200000 1000000 = .ok sampleOutput := rfl
  exact uri_payment_settles initial_sampleBridge hrun rfl (by decide) (by decide) (by decide) rfl
    rfl hbatch
    rfl rfl hone rfl hamount hout (by decide) (by decide) (by decide)

/-! ## Quotes that are too small or too large

With the default fees a request for one sat collects 351. At a price of one bitcoin for a Dash this
is a quote of 351 duffs, and nothing compares it with the dust limit when the invoice is created.
At a price of 5⁻²¹ bitcoin it is one that the float of the amount does not hold. -/

def dustDb : Database where
  invoices := ∅
  walletState := fun network =>
    if network = .regtest then some (newRow .regtest "tpub" "aabbccdd" 100000 0) else none

/-- The request is priced with this quote. -/
def askedPricing (quote : Quote) (duffs : Int) : Pricing :=
  { dustPricing with
    quote := { quote with duffsQuoted := duffs, dashQuoted := dashAmountString duffs } }

def askedInvoice (quote : Quote) (duffs : Int) : InvoiceDoc :=
  newInvoice dustSettings dustBody (askedPricing quote duffs) "y0"
    { change := 0, index := 0, path := "m/44'/1'/0'/0/0" } 0

def askedInput (quote : Quote) : CreateInput := { dustInput with quote := .ok quote }

/-- The payment of the amount in the URI. -/
def askedUtxo (duffs : Int) : Utxo where
  txid := "tx-1"
  vout := 0
  address := some "y0"
  amount := (duffs : Decimal) / 10 ^ 8

def askedTick (duffs : Int) : TickInput where
  node := { sampleNode with listunspent := fun _ => .ok [askedUtxo duffs] }
  now := 1000000

/-- The request is answered with an invoice, and one output pays the amount in its URI, in time and
satisfying its policy; the next tick stores the invoice in this state. -/
def PaidAsAsked (quote : Quote) (duffs : Int) (state : DashInvoiceState) : Prop :=
  ∃ db doc doc' out, createInvoice dustSettings dustKeys dustBody (askedInput quote) dustDb
      = (db, .answered 201 1 doc) ∧ doc.duffsQuoted = duffs ∧
    (∃ text, doc.uri = paymentUri doc.address text ∧
      Numeral.parse text = some (askedUtxo duffs).amount) ∧
    (askedUtxo duffs).address = some doc.address ∧
    enrich (askedTick duffs).node (askedUtxo duffs) doc.duffsQuoted (askedTick duffs).now = .ok out ∧
    outputQualifies out (doc.policy.getD {}) = true ∧ (askedTick duffs).now < doc.expiresAt.val ∧
    (tick dustSettings (askedTick duffs) ⟨db.invoices, {}⟩).1.invoices.lookup 1 = some doc' ∧
    doc'.state = state

section Asked

variable {quote : Quote} {duffs : Int}

theorem served_asked (hduffs : duffsFromSats 351 quote.dashBtc = .ok duffs)
    (hints : (askedInvoice quote duffs).newInts.all bsonInt64 = true) :
    Served dustSettings dustKeys dustBody (askedInput quote) dustDb dustMaterial
      (askedPricing quote duffs) (newRow .regtest "tpub" "aabbccdd" 100000 0) "y0"
      { change := 0, index := 0, path := "m/44'/1'/0'/0/0" } where
  mongo := by decide
  key := rfl
  price := createPrice_oneSat rfl hduffs dustMaterial
  limit := rfl
  found := rfl
  inRange := by decide
  derive := rfl
  ints := hints
  fresh := rfl

/-- What the tick decides is what is stored. -/
theorem paidAsAsked {d : Decision} (hduffs : duffsFromSats 351 quote.dashBtc = .ok duffs)
    (hints : (askedInvoice quote duffs).newInts.all bsonInt64 = true)
    (hd : decideInvoice dustSettings (askedTick duffs).node (askedInvoice quote duffs)
      [askedUtxo duffs] 1000000 = .ok d)
    (hstored : d.ints.all bsonInt64 = true)
    (hfilter : persistFilter .OPEN d.state (askedInvoice quote duffs).state = true) :
    PaidAsAsked quote duffs d.state := by
  have hbatch : loadBatch (AList.insert 1 (askedInvoice quote duffs) ∅) 500 none
      = [] ++ (1, askedInvoice quote duffs) :: [] := rfl
  have hraw : askNode (askedTick duffs).node
      (batchAddresses ([] ++ (1, askedInvoice quote duffs) :: [])) = .ok [askedUtxo duffs] := rfl
  have hafter : (tick dustSettings (askedTick duffs)
      ⟨AList.insert 1 (askedInvoice quote duffs) ∅, {}⟩).1.invoices.lookup 1
        = some (persistDoc .OPEN d 1000000 (askedInvoice quote duffs)) :=
    tick_lookup rfl hbatch hraw rfl hd hstored rfl
  have habs : |duffs| < 10 ^ 28 :=
    abs_lt_of_bsonInt64 (List.all_eq_true.mp hints _ (by simp [InvoiceDoc.newInts, askedInvoice,
      newInvoice, askedPricing]))
  refine ⟨_, _, _, _, (served_asked hduffs hints).steps 7, rfl,
    ⟨dashAmountString duffs, rfl, parse_dashAmountString habs⟩, rfl, rfl, rfl,
    of_decide_eq_true rfl, hafter, ?_⟩
  rw [persistDoc, if_pos hfilter]
  rfl

end Asked

/-- At the price of 5⁻²¹ bitcoin. -/
def farQuote : Quote :=
  { dustQuote with
    dashBtc := ((2097152 : Int) : Decimal) * (10 : ℚ) ^ (-21 : Int)
    satsPerDash := 2097152 / 10 ^ 13
    duffsQuoted := 476837158203125
    dashQuoted := "4768371.58203125" }

/-- An invoice quoted below the dust limit stays open when it is paid, and one quoted beyond what
a float holds is overpaid by what the float adds. -/
theorem asked_amount_missed :
    PaidAsAsked dustQuote 351 .OPEN ∧ PaidAsAsked farQuote 167369842529296875 .OVERPAID := by
  constructor
  · have hprice : duffsFromSats 351 dustQuote.dashBtc = .ok 351 :=
      duffsFromSats_exact (by decide) (by decide) (by decide) (by decide) (by decide) (by norm_num)
    have hduffs : (askedUtxo 351).duffs = 351 := Utxo.duffs_eq rfl (by decide)
    -- 351 duffs are below the limit of 5460
    have hfresh : freshOutputs dustSettings (askedTick 351).node 1000000 [askedUtxo 351]
        = .ok [] := by
      rw [freshOutputs, hduffs, if_pos (by decide)]
      rfl
    exact paidAsAsked hprice (by decide) (decideInvoice_fresh _ hfresh) (by decide) (by decide)
  · have hprice : duffsFromSats 351 farQuote.dashBtc = .ok 167369842529296875 :=
      duffsFromSats_exact (by decide) (by decide) (by decide) (by decide) (by decide) (by norm_num)
    have hduffs : (askedUtxo 167369842529296875).duffs = 167369842529296880 := by
      decide +kernel
    have hfresh : freshOutputs dustSettings (askedTick 167369842529296875).node 1000000
        [askedUtxo 167369842529296875] = .ok [{ sampleOutput with duffs := 167369842529296880 }] :=
      freshOutputs_single _ hduffs (by decide) rfl
    exact paidAsAsked hprice (by decide) (decideInvoice_fresh _ hfresh) (by decide) (by decide)

end V4vappDash
