import V4vappDash.System.History
import V4vappDash.System.Observed

set_option autoImplicit false

/-! # No payment is counted twice, and none is dropped

The invariants of the recorded outpoints, in runs in which the node is sound: the outpoints of
one answer are distinct, and an outpoint always pays the same address. Every recorded outpoint is
then recorded once for an invoice (`DistinctOk`) and pays its address (`PaymentsOk`), and an
update records every output of the answer that pays the invoice and is not dust
(`UpdateApplies.recorded`).
-/

namespace V4vappDash

open Interleaving

/-- An answer of `listunspent`: its outpoints are distinct and pay the addresses `pays` says. -/
structure SoundAnswer (pays : String × Nat → String) (raw : List Utxo) : Prop where
  distinct : (raw.map Utxo.key).Nodup
  pays : ∀ utxo ∈ raw, ∀ a, utxo.address = some a → pays utxo.key = a

/-- The node gives sound answers. -/
def SoundNode (pays : String × Nat → String) (_ : Observed) (input : TickInput) : Prop :=
  ∀ addresses raw, input.node.listunspent addresses = .ok raw → SoundAnswer pays raw

/-- The recorded outpoints of a document pay its address. -/
def PaidTo (pays : String × Nat → String) (doc : InvoiceDoc) : Prop :=
  ∀ row ∈ doc.txids, pays row.key = doc.address

/-- The outpoints recorded for an invoice are distinct, and so are those a tick looks up for
it. -/
structure DistinctOk (o : Observed) : Prop where
  docs : ∀ id doc, o.bridge.db.invoices.lookup id = some doc → (doc.txids.map TxRow.key).Nodup
  phase : ∀ now utxosFor rest, o.bridge.phase = .applying now utxosFor rest →
    ∀ addr, ((utxosFor addr).map Utxo.key).Nodup

/-- What a tick that is applying its batch holds: the answer of the node by address. -/
structure AnswerOk (pays : String × Nat → String) (answer : List Utxo)
    (utxosFor : String → List Utxo) (rest : List (ObjectId × InvoiceDoc)) : Prop where
  sound : SoundAnswer pays answer
  byAddr : ∃ addresses, utxosFor = utxosByAddr addresses answer ∧
    ∀ e ∈ rest, e.2.address ≠ "" → e.2.address ∈ addresses

structure PaymentsOk (pays : String × Nat → String) (o : Observed) : Prop where
  docs : ∀ id doc, o.bridge.db.invoices.lookup id = some doc → PaidTo pays doc
  phase : ∀ now utxosFor rest, o.bridge.phase = .applying now utxosFor rest →
    AnswerOk pays o.answer utxosFor rest

/-! ## Answers -/

section Answers

variable {pays : String × Nat → String} {raw : List Utxo}

/-- What holds of every answer of `listunspent`, and of the empty one, holds of the answer of a
tick. -/
theorem askNode_ok {P : List Utxo → Prop} {node : Node} {addresses : List String} (hnil : P [])
    (h : ∀ addresses raw, node.listunspent addresses = .ok raw → P raw)
    (hraw : askNode node addresses = .ok raw) : P raw := by
  unfold askNode at hraw
  split at hraw
  · cases hraw
    exact hnil
  · exact h addresses raw hraw

theorem soundAnswer_nil (pays : String × Nat → String) : SoundAnswer pays [] :=
  ⟨List.nodup_nil, fun _ h => nomatch h⟩

/-- The entries a tick looks up for an address. -/
theorem mem_utxosByAddr {addresses : List String} {addr : String} {utxo : Utxo} :
    utxo ∈ utxosByAddr addresses raw addr ↔
      addr ∈ addresses ∧ utxo ∈ raw ∧ utxo.address = some addr := by
  unfold utxosByAddr
  by_cases h : addr ∈ addresses <;> simp [h]

theorem nodup_utxosByAddr (h : (raw.map Utxo.key).Nodup) (addresses : List String)
    (addr : String) : ((utxosByAddr addresses raw addr).map Utxo.key).Nodup := by
  unfold utxosByAddr
  split
  · exact h.sublist (List.filter_sublist.map _)
  · exact List.nodup_nil

theorem keys_storedRows (outputs : List WatchedOutput) :
    (storedRows outputs).map TxRow.key = outputs.map WatchedOutput.key := by
  unfold storedRows
  rw [List.map_map]
  rfl

/-- A decision records outpoints that pay the invoice. -/
theorem PaidTo.decided {settings : Settings} {node : Node} {now : Datetime}
    {inv doc' : InvoiceDoc} {answer : List Utxo} {utxosFor : String → List Utxo}
    {rest : List (ObjectId × InvoiceDoc)} {fresh : List WatchedOutput}
    (hinv : PaidTo pays inv) (hanswer : AnswerOk pays answer utxosFor rest)
    (hfresh : freshOutputs settings node now (utxosFor inv.address) = .ok fresh)
    (htxids : doc'.txids = storedRows (mergeOutputs inv.txids fresh))
    (haddress : doc'.address = inv.address) : PaidTo pays doc' := by
  obtain ⟨addresses, rfl, -⟩ := hanswer.byAddr
  intro row hrow
  rw [htxids] at hrow
  obtain ⟨out, hout, rfl⟩ := mem_storedRows.mp hrow
  show pays out.key = doc'.address
  rw [haddress]
  rcases mem_mergeOutputs.mp hout with ⟨f, hf, rfl⟩ | ⟨row, hget, -, rfl⟩
  -- a reported output: the tick found it under the address of the invoice
  · obtain ⟨utxo, hu, -, he⟩ := (mem_freshOutputs hfresh f).mp hf
    obtain ⟨-, hraw, haddr⟩ := mem_utxosByAddr.mp hu
    rw [keepFirstSeen_key, (enrich_ok he).1]
    exact hanswer.sound.pays utxo hraw _ haddr
  · exact hinv row (mem_of_priorRows hget).1

end Answers

/-! ## Steps -/

/-- The next step of the watcher stores `doc'` for the invoice in front of its batch: the
conditional update applies. -/
inductive UpdateApplies (settings : Settings) (input : TickInput) (s : Bridge) (id : ObjectId)
    (inv : InvoiceDoc) : InvoiceDoc → Prop
  | intro (now : Datetime) (utxosFor : String → List Utxo) (rest : List (ObjectId × InvoiceDoc))
      (d : Decision) (doc : InvoiceDoc)
      (hphase : s.phase = .applying now utxosFor ((id, inv) :: rest))
      (hd : decideInvoice settings input.node inv (utxosFor inv.address) now = .ok d)
      (hints : d.ints.all bsonInt64 = true) (hupdate : input.updateError id = none)
      (hdoc : s.db.invoices.lookup id = some doc)
      (hfilter : persistFilter inv.state d.state doc.state = true) :
      UpdateApplies settings input s id inv (d.update now doc)

section Steps

variable {bip44 : Bip44} {settings : Settings} {pays : String × Nat → String}
  {allowed : Observed → TickInput → Prop} {o o' : Observed} {l l' : Actor}

/-- Distinct answers keep the recorded outpoints distinct. -/
theorem ObservedStep.distinctOk (h : ObservedStep bip44 settings allowed o l o' l')
    (hdistinct : ∀ input, allowed o input → ∀ addresses raw,
      input.node.listunspent addresses = .ok raw → (raw.map Utxo.key).Nodup)
    (hok : BridgeOk o.bridge) (hl : ActorOk o.bridge l) (hd : DistinctOk o) : DistinctOk o' := by
  constructor
  · intro id doc' hdoc'
    cases h.wrote hok hl hdoc' with
    | kept doc hdoc htxids _ =>
        rw [htxids]
        exact hd.docs id doc hdoc
    | new _ htxids =>
        rw [htxids]
        exact List.nodup_nil
    | decided input _ now utxosFor rest inv fresh hphase hdoc hfresh htxids _ =>
        rw [htxids, keys_storedRows]
        exact nodup_keys_mergeOutputs _
          ((hd.phase _ _ _ hphase inv.address).sublist (keys_freshOutputs hfresh))
  · intro now utxosFor rest hphase
    have hhold := h.holding
    rw [hphase] at hhold
    generalize o'.answer = answer at hhold
    cases hhold with
    | same _ hp => exact hd.phase _ _ _ hp
    | answered input hallowed batch raw hp hraw =>
        have hraw' : (answer.map Utxo.key).Nodup :=
          askNode_ok (P := fun raw => (raw.map Utxo.key).Nodup) List.nodup_nil
            (hdistinct input hallowed) hraw
        exact nodup_utxosByAddr hraw' _
    | next now' uf e rest' hp => exact hd.phase _ _ _ hp

/-- Sound answers keep the recorded outpoints with the invoices they pay. -/
theorem ObservedStep.paymentsOk (h : ObservedStep bip44 settings (SoundNode pays) o l o' l')
    (hok : BridgeOk o.bridge) (hl : ActorOk o.bridge l) (hpay : PaymentsOk pays o) :
    PaymentsOk pays o' := by
  constructor
  · intro id doc' hdoc'
    cases h.wrote hok hl hdoc' with
    | kept doc hdoc htxids haddress =>
        unfold PaidTo
        rw [htxids, haddress]
        exact hpay.docs id doc hdoc
    | new _ htxids =>
        unfold PaidTo
        rw [htxids]
        exact fun _ h => nomatch h
    | decided input _ now utxosFor rest inv fresh hphase hdoc hfresh htxids haddress =>
        exact (hpay.docs id inv hdoc).decided (hpay.phase _ _ _ hphase) hfresh htxids haddress
  · intro now utxosFor rest hphase
    have hhold := h.holding
    rw [hphase] at hhold
    generalize o'.answer = answer at hhold
    cases hhold with
    | same _ hp => exact hpay.phase _ _ _ hp
    | answered input hallowed batch raw hp hraw =>
        refine ⟨askNode_ok (soundAnswer_nil pays) hallowed hraw, _, rfl, ?_⟩
        intro e he hne
        exact List.mem_filter.mpr ⟨List.mem_map.mpr ⟨e, he, rfl⟩, by simpa using hne⟩
    | next now' uf e rest' hp =>
        have hanswer := hpay.phase _ _ _ hp
        obtain ⟨addresses, heq, hmem⟩ := hanswer.byAddr
        exact ⟨hanswer.sound, addresses, heq,
          fun e' he' => hmem e' (List.mem_cons_of_mem _ he')⟩

/-- What an update that applies stores. -/
theorem UpdateApplies.lookup {input : TickInput} {s : Bridge} {id : ObjectId}
    {inv doc' : InvoiceDoc} (h : UpdateApplies settings input s id inv doc') :
    (watchStep settings input s.watch s.phase).1.invoices.lookup id = some doc' := by
  obtain ⟨now, utxosFor, rest, d, doc, hphase, hd, hints, hupdate, hdoc, hfilter⟩ := h
  have happly : (applyInvoice settings { input with now } id inv (utxosFor inv.address)
      s.watch).1.invoices.lookup id = (s.watch.invoices.lookup id).map
        (persistDoc inv.state d now) := applyInvoice_lookup hd hints hupdate
  rw [show s.watch.invoices.lookup id = some doc from hdoc, Option.map_some, persistDoc,
    if_pos hfilter] at happly
  rw [hphase, watchStep]
  cases ha : applyInvoice settings { input with now } id inv (utxosFor inv.address) s.watch with
  | mk w' result =>
      rw [ha] at happly
      cases result <;> exact happly

/-- An update that applies records every output of the answer that pays the invoice and is not
dust. -/
theorem UpdateApplies.recorded {input : TickInput} {id : ObjectId} {inv doc' : InvoiceDoc}
    (h : UpdateApplies settings input o.bridge id inv doc') (hpay : PaymentsOk pays o)
    (hpays : ∀ k, pays k ≠ "") {utxo : Utxo} (hmem : utxo ∈ o.answer)
    (haddress : utxo.address = some inv.address)
    (hdust : settings.dashDustDuffs ≤ utxo.duffs) :
    ∃ row ∈ doc'.txids, row.key = utxo.key := by
  obtain ⟨now, utxosFor, rest, d, doc, hphase, hd, -, -, -, -⟩ := h
  have hanswer := hpay.phase _ _ _ hphase
  obtain ⟨addresses, rfl, hasked⟩ := hanswer.byAddr
  have hne : inv.address ≠ "" := by
    rw [← hanswer.sound.pays utxo hmem _ haddress]
    exact hpays utxo.key
  have hlooked : utxo ∈ utxosByAddr addresses o.answer inv.address :=
    mem_utxosByAddr.mpr ⟨hasked (id, inv) List.mem_cons_self hne, hmem, haddress⟩
  obtain ⟨fresh, hfresh, -, rfl⟩ := decideInvoice_ok hd
  obtain ⟨out, hout, hkey⟩ := exists_freshOutput hfresh hlooked hdust
  have hmerge : keepFirstSeen (priorRows inv.txids) out ∈ mergeOutputs inv.txids fresh :=
    mem_mergeOutputs.mpr (Or.inl ⟨out, hout, rfl⟩)
  refine ⟨(txDict (keepFirstSeen (priorRows inv.txids) out)).stored, ?_, ?_⟩
  · rw [update_txids, settle_txids]
    exact mem_storedRows.mpr ⟨_, hmerge, rfl⟩
  · exact (keepFirstSeen_key _ out).trans hkey

end Steps

/-! ## Runs -/

section Run

variable {bip44 : Bip44} {settings : Settings} {pays : String × Nat → String}

/-- A system at rest, as the start of a run. -/
def Bridge.observed (s : Bridge) : Config Observed Actor := ⟨⟨s, []⟩, []⟩

theorem Created.txids_eq {doc : InvoiceDoc} (h : Created doc) : doc.txids = [] := by
  obtain ⟨settings, body, pricing, address, derivation, now, -, rfl⟩ := h
  rfl

theorem Bridge.Initial.not_applying {s : Bridge} (hs : s.Initial) {now : Datetime}
    {utxosFor : String → List Utxo} {rest : List (ObjectId × InvoiceDoc)} :
    s.phase ≠ .applying now utxosFor rest := by
  rw [hs.idle]
  exact TickPhase.noConfusion

theorem Bridge.Initial.distinctOk {s : Bridge} (hs : s.Initial) : DistinctOk ⟨s, []⟩ where
  docs := fun id doc hdoc => by
    rw [(hs.created id doc hdoc).1.txids_eq]
    exact List.nodup_nil
  phase := fun _ _ _ hphase => absurd hphase hs.not_applying

theorem Bridge.Initial.paymentsOk {s : Bridge} (hs : s.Initial) : PaymentsOk pays ⟨s, []⟩ where
  docs := fun id doc hdoc => by
    unfold PaidTo
    rw [(hs.created id doc hdoc).1.txids_eq]
    exact fun _ h => nomatch h
  phase := fun _ _ _ hphase => absurd hphase hs.not_applying

/-- The invariant of the bridge and of the recorded outpoints, when answers are distinct. -/
theorem distinct_inductive (bip44 : Bip44) (settings : Settings)
    {allowed : Observed → TickInput → Prop} (hdistinct : ∀ o input, allowed o input →
      ∀ addresses raw, input.node.listunspent addresses = .ok raw → (raw.map Utxo.key).Nodup) :
    (observed bip44 settings allowed).Inductive (fun o => BridgeOk o.bridge ∧ DistinctOk o)
      (fun o l => ActorOk o.bridge l) :=
  (observed_inductive bip44 settings allowed).strengthen
    (fun {o l o' l'} hok hl hd (h : ObservedStep bip44 settings allowed o l o' l') =>
      h.distinctOk (hdistinct o) hok hl hd)

theorem holds_paymentsOk {s : Bridge} (hs : s.Initial) {c : Config Observed Actor}
    (h : Run (observed bip44 settings (SoundNode pays)) s.observed c) :
    Holds (fun o => (BridgeOk o.bridge ∧ DistinctOk o) ∧ PaymentsOk pays o)
      (fun o l => ActorOk o.bridge l) c := by
  have hdistinct := distinct_inductive bip44 settings
    (fun o input (hsound : SoundNode pays o input) addresses raw hraw =>
      (hsound addresses raw hraw).distinct)
  have hall := hdistinct.strengthen (J := PaymentsOk pays)
    (fun {o l o' l'} hok hl hpay (h : ObservedStep bip44 settings (SoundNode pays) o l o' l') =>
      h.paymentsOk hok.1 hl hpay)
  exact Run.invariant hall h ⟨⟨⟨hs.bridgeOk, hs.distinctOk⟩, hs.paymentsOk⟩,
    fun _ hl => nomatch hl⟩

end Run

/-- **No payment is counted twice, and none is dropped.** In every state reached while the node
is sound: the outpoints recorded for an invoice are distinct and pay its address, and, the
addresses of the invoices being distinct, an outpoint is recorded for one invoice only. When the
conditional update of a tick applies, every output of its answer that pays the invoice and is
not dust is recorded, and stays recorded. -/
theorem outpoints_counted_once {bip44 : Bip44} {settings : Settings}
    {pays : String × Nat → String} (hpays : ∀ k, pays k ≠ "") {s : Bridge} (hs : s.Initial)
    {c : Config Observed Actor}
    (h : Run (observed bip44 settings (SoundNode pays)) s.observed c)
    (hdistinct : ∀ id doc id' doc', c.shared.bridge.db.invoices.lookup id = some doc →
      c.shared.bridge.db.invoices.lookup id' = some doc' → doc.address = doc'.address → id = id') :
    (∀ id doc, c.shared.bridge.db.invoices.lookup id = some doc →
      (doc.txids.map TxRow.key).Nodup ∧
      ∀ row ∈ doc.txids, pays row.key = doc.address ∧
        ∀ id' doc', c.shared.bridge.db.invoices.lookup id' = some doc' →
          ∀ row' ∈ doc'.txids, row'.key = row.key → id' = id) ∧
    (∀ (i : Nat) input id inv doc', c.locals[i]? = some Actor.watcher →
      input.now = c.shared.bridge.clock → SoundNode pays c.shared input →
      UpdateApplies settings input c.shared.bridge id inv doc' →
      ∀ utxo ∈ c.shared.answer, utxo.address = some inv.address →
        settings.dashDustDuffs ≤ utxo.duffs →
        ∀ c', Run (observed bip44 settings (SoundNode pays))
            ⟨c.shared.watched settings input, c.locals⟩ c' →
          ∃ doc'', c'.shared.bridge.db.invoices.lookup id = some doc'' ∧
            ∃ row ∈ doc''.txids, row.key = utxo.key) := by
  obtain ⟨⟨⟨-, hnodup⟩, hpay⟩, -⟩ := holds_paymentsOk hs h
  constructor
  · intro id doc hdoc
    have hpaid := hpay.docs id doc hdoc
    refine ⟨hnodup.docs id doc hdoc, fun row hrow => ⟨hpaid row hrow, ?_⟩⟩
    intro id' doc' hdoc' row' hrow' hkey
    refine hdistinct id' doc' id doc hdoc' hdoc ?_
    calc doc'.address
        = pays row'.key := (hpay.docs id' doc' hdoc' row' hrow').symm
      _ = pays row.key := by rw [hkey]
      _ = doc.address := hpaid row hrow
  · intro i input id inv doc' hi hnow hsound happ utxo hmem haddress hdust c' hrun
    -- the state after the update, and what becomes of it
    obtain ⟨⟨⟨hafter, -⟩, -⟩, hlocals⟩ :=
      holds_paymentsOk hs (h.tail (step_watched hi input hnow hsound))
    have hstored := happ.lookup
    obtain ⟨row, hrow, hkey⟩ := happ.recorded hpay hpays hmem haddress hdust
    obtain ⟨doc'', hdoc'', -, hlater⟩ := later_of_run ⟨hafter, hlocals⟩
      (run_of_observed hrun) id doc' hstored (hafter.docs id doc' hstored)
    obtain ⟨row'', hrow'', hkey''⟩ := hlater.kept row hrow
    exact ⟨doc'', hdoc'', row'', hrow'', hkey''.trans hkey⟩

/-! The tick of `sampleInput`, up to the decision on its only invoice. -/

def answeredSample : Observed :=
  (Observed.watched {} sampleInput ⟨sampleBridgeLater, []⟩).watched {} sampleInput

theorem soundNode_sampleInput (o : Observed) : SoundNode (fun _ => "yAddr") o sampleInput := by
  rintro addresses raw hraw
  obtain rfl := Except.ok.inj hraw
  refine ⟨List.nodup_singleton _, ?_⟩
  intro utxo hu a ha
  obtain rfl := List.mem_singleton.mp hu
  exact Option.some.inj ha

theorem run_answeredSample :
    Run (observed noKeys {} (SoundNode (fun _ => "yAddr"))) sampleBridge.observed
      ⟨answeredSample, [.clock, .watcher]⟩ := by
  refine .head (.spawn .clock (Or.inl rfl)) ?_
  refine .head (.spawn .watcher (Or.inr (Or.inl rfl))) ?_
  refine .head (.act 0 rfl (.other nofun (.clock 1000000 (by decide)))) ?_
  refine .head (step_watched (i := 1) rfl sampleInput rfl (soundNode_sampleInput _)) ?_
  exact .single (step_watched (i := 1) rfl sampleInput rfl (soundNode_sampleInput _))

/-- The payment of the sample invoice is recorded. -/
theorem outpoints_counted_once_sample :
    ∃ doc, (answeredSample.watched {} sampleInput).bridge.db.invoices.lookup 1 = some doc ∧
      ∃ row ∈ doc.txids, row.key = ("tx-1", 0) := by
  have happ : UpdateApplies {} sampleInput answeredSample.bridge 1 sampleInvoice settledInvoice :=
    .intro 1000000 _ [] (settle sampleInvoice [sampleOutput] 1000000) sampleInvoice rfl
      decide_sampleInvoice (by decide) rfl rfl (by decide)
  have hdistinct : ∀ id doc id' doc', answeredSample.bridge.db.invoices.lookup id = some doc →
      answeredSample.bridge.db.invoices.lookup id' = some doc' →
      doc.address = doc'.address → id = id' := by
    intro id doc id' doc' hdoc hdoc' _
    have hmem := List.mem_singleton.mp (Collection.mem_docs.mpr hdoc)
    have hmem' := List.mem_singleton.mp (Collection.mem_docs.mpr hdoc')
    exact (congrArg Prod.fst hmem).trans (congrArg Prod.fst hmem').symm
  exact (outpoints_counted_once (fun _ => by decide) initial_sampleBridge run_answeredSample
    hdistinct).2 1 sampleInput 1 sampleInvoice settledInvoice rfl rfl
    (soundNode_sampleInput _) happ sampleUtxo List.mem_cons_self rfl
    (by rw [show sampleUtxo.duffs = 200000 from Utxo.duffs_eq rfl (by decide)]
        decide) _ .refl

end V4vappDash
