import V4vappDash.System.Outpoints

set_option autoImplicit false

/-! # Recorded locks

The lock flags of a row come from `listunspent`, from `gettransaction`, whose `DashdError` is
swallowed, or from the row stored before. `mergeOutputs` keeps the flags of a stored row only
when its output is not reported any more; for a reported output it keeps the first-seen time and
takes the flags of the tick.

So a lock that was recorded is kept in every run in which each lookup of a locked outpoint is
answered, or its entry in `listunspent` says the lock itself (`locks_kept`), and can be lost
otherwise (`lock_lost`).
-/

namespace V4vappDash

open Interleaving

/-- The node does not retract a lock: an answer about an outpoint has the locks recorded for
it. -/
def NeverRetracts (node : Node) (rows : List (TxRow Stamp)) (utxos : List Utxo) : Prop :=
  ∀ row ∈ rows, ∀ utxo ∈ utxos, utxo.key = row.key →
    ∀ tx, node.gettransaction utxo = .ok tx →
      (row.instantlock = true → tx.instantlock = some true) ∧
      (row.chainlock = true → tx.chainlock = some true)

/-- A lookup that raises `DashdError` is about an outpoint without a recorded lock, or one whose
entry in `listunspent` has the lock. -/
def LockKnown (settings : Settings) (node : Node) (rows : List (TxRow Stamp))
    (utxos : List Utxo) : Prop :=
  ∀ row ∈ rows, ∀ utxo ∈ utxos, utxo.key = row.key →
    settings.dashDustDuffs ≤ utxo.duffs →
    ∀ message, node.gettransaction utxo = .error (.dashdError message) →
      (row.instantlock = true → utxo.instantlock = some true) ∧
      (row.chainlock = true → utxo.chainlock = some true)

/-- The node: the outpoints of one answer are distinct, and it never retracts a lock. -/
structure TrueLocks (o : Observed) (input : TickInput) : Prop where
  distinct : ∀ addresses raw, input.node.listunspent addresses = .ok raw →
    (raw.map Utxo.key).Nodup
  neverRetracts : ∀ now utxosFor id inv rest,
    o.bridge.phase = .applying now utxosFor ((id, inv) :: rest) →
    NeverRetracts input.node inv.txids (utxosFor inv.address)

/-- The lookups for the invoice that is processed next do not lose a lock. -/
def LocksKnown (settings : Settings) (o : Observed) (input : TickInput) : Prop :=
  ∀ now utxosFor id inv rest, o.bridge.phase = .applying now utxosFor ((id, inv) :: rest) →
    LockKnown settings input.node inv.txids (utxosFor inv.address)

/-- The locks of `row` are those of `row'` too. -/
def TxRow.LocksIn {τ : Type} (row row' : TxRow τ) : Prop :=
  (row.instantlock = true → row'.instantlock = true) ∧
  (row.chainlock = true → row'.chainlock = true)

/-- Every recorded outpoint of `doc` is in `doc'`, with its locks. -/
structure LocksLater (doc doc' : InvoiceDoc) : Prop where
  kept : ∀ row ∈ doc.txids, ∃ row' ∈ doc'.txids, row'.key = row.key
  locks : ∀ row ∈ doc.txids, ∀ row' ∈ doc'.txids, row'.key = row.key → row.LocksIn row'

/-! ## One merge -/

theorem TxRow.LocksIn.trans {τ : Type} {row row' row'' : TxRow τ} (h : row.LocksIn row')
    (h' : row'.LocksIn row'') : row.LocksIn row'' :=
  ⟨fun hi => h'.1 (h.1 hi), fun hc => h'.2 (h.2 hc)⟩

theorem LocksLater.refl {doc doc' : InvoiceDoc} (hnodup : (doc.txids.map TxRow.key).Nodup)
    (h : doc'.txids = doc.txids) : LocksLater doc doc' := by
  constructor
  · intro row hrow
    exact ⟨row, by rw [h]; exact hrow, rfl⟩
  · intro row hrow row' hrow' hkey
    rw [h] at hrow'
    obtain rfl := List.inj_on_of_nodup_map hnodup hrow' hrow hkey
    exact ⟨id, id⟩

theorem LocksLater.trans {doc doc' doc'' : InvoiceDoc} (h : LocksLater doc doc')
    (h' : LocksLater doc' doc'') : LocksLater doc doc'' := by
  constructor
  · intro row hrow
    obtain ⟨row', hrow', hkey'⟩ := h.kept row hrow
    obtain ⟨row'', hrow'', hkey''⟩ := h'.kept row' hrow'
    exact ⟨row'', hrow'', hkey''.trans hkey'⟩
  · intro row hrow row'' hrow'' hkey
    obtain ⟨row', hrow', hkey'⟩ := h.kept row hrow
    exact (h.locks row hrow row' hrow' hkey').trans
      (h'.locks row' hrow' row'' hrow'' (hkey.trans hkey'.symm))

/-- The flags of an enriched output: those of the transaction, or those of the entry when the
lookup raised `DashdError`. -/
theorem enrich_locks {node : Node} {utxo : Utxo} {duffs : Int} {now : Datetime}
    {out : WatchedOutput} (h : enrich node utxo duffs now = .ok out) :
    (∃ tx, node.gettransaction utxo = .ok tx ∧ out.instantlock = tx.instantlock.getD false ∧
      out.chainlock = tx.chainlock.getD false) ∨
    (∃ message, node.gettransaction utxo = .error (.dashdError message) ∧
      out.instantlock = utxo.instantlock.getD false ∧
      out.chainlock = utxo.chainlock.getD false) := by
  unfold enrich at h
  cases hg : node.gettransaction utxo with
  | ok tx =>
      rw [hg] at h
      cases h
      exact Or.inl ⟨tx, rfl, rfl, rfl⟩
  | error e =>
      rw [hg] at h
      cases e with
      | dashdError message =>
          cases h
          exact Or.inr ⟨message, rfl, rfl, rfl⟩
      | other message => cases h

/-- A decision keeps the recorded locks. -/
theorem locksLater_decided {settings : Settings} {node : Node} {now : Datetime}
    {inv doc' : InvoiceDoc} {utxos : List Utxo} {fresh : List WatchedOutput}
    (hnodup : (inv.txids.map TxRow.key).Nodup) (hnode : NeverRetracts node inv.txids utxos)
    (hknown : LockKnown settings node inv.txids utxos)
    (hfresh : freshOutputs settings node now utxos = .ok fresh)
    (htxids : doc'.txids = storedRows (mergeOutputs inv.txids fresh)) :
    LocksLater inv doc' := by
  constructor
  · intro row hrow
    obtain ⟨out, hout, hkey⟩ := exists_mem_mergeOutputs fresh hrow
    exact ⟨(txDict out).stored, by rw [htxids]; exact mem_storedRows.mpr ⟨out, hout, rfl⟩, hkey⟩
  · intro row hrow row' hrow' hkey
    rw [htxids] at hrow'
    obtain ⟨out, hout, rfl⟩ := mem_storedRows.mp hrow'
    rcases mem_mergeOutputs.mp hout with ⟨f, hf, rfl⟩ | ⟨r, hget, -, rfl⟩
    · -- reported: the flags are those of this tick
      obtain ⟨utxo, hu, hdust, he⟩ := (mem_freshOutputs hfresh f).mp hf
      have hutxo : utxo.key = row.key :=
        (enrich_ok he).1.symm.trans ((keepFirstSeen_key _ f).symm.trans hkey)
      have hlocks : (row.instantlock = true → f.instantlock = true) ∧
          (row.chainlock = true → f.chainlock = true) := by
        rcases enrich_locks he with ⟨tx, htx, hi, hc⟩ | ⟨message, herr, hi, hc⟩
        · have hkeep := hnode row hrow utxo hu hutxo tx htx
          exact ⟨fun h => by rw [hi, hkeep.1 h]; rfl, fun h => by rw [hc, hkeep.2 h]; rfl⟩
        · have hkeep := hknown row hrow utxo hu hutxo hdust message herr
          exact ⟨fun h => by rw [hi, hkeep.1 h]; rfl, fun h => by rw [hc, hkeep.2 h]; rfl⟩
      unfold TxRow.LocksIn txDict TxRow.stored keepFirstSeen
      split <;> exact hlocks
    · -- not reported: the row as it was
      obtain rfl := List.inj_on_of_nodup_map hnodup (mem_of_priorRows hget).1 hrow hkey
      exact ⟨id, id⟩

/-! ## Runs -/

/-- What a run does to the recorded locks. -/
def KeepsLocks (o o' : Observed) : Prop :=
  ∀ id doc, o.bridge.db.invoices.lookup id = some doc → (doc.txids.map TxRow.key).Nodup →
    ∃ doc', o'.bridge.db.invoices.lookup id = some doc' ∧
      (doc'.txids.map TxRow.key).Nodup ∧ LocksLater doc doc'

section Run

variable {bip44 : Bip44} {settings : Settings} {o o' : Observed} {l l' : Actor}

theorem KeepsLocks.trans {o o' o'' : Observed} (h : KeepsLocks o o') (h' : KeepsLocks o' o'') :
    KeepsLocks o o'' := by
  intro id doc hdoc hnodup
  obtain ⟨doc', hdoc', hnodup', hlater⟩ := h id doc hdoc hnodup
  obtain ⟨doc'', hdoc'', hnodup'', hlater'⟩ := h' id doc' hdoc' hnodup'
  exact ⟨doc'', hdoc'', hnodup'', hlater.trans hlater'⟩

/-- The assumption of the runs below. -/
def LocksAnswered (settings : Settings) (o : Observed) (input : TickInput) : Prop :=
  TrueLocks o input ∧ LocksKnown settings o input

/-- **The step lemma.** -/
theorem ObservedStep.keepsLocks
    (h : ObservedStep bip44 settings (LocksAnswered settings) o l o' l')
    (hok : BridgeOk o.bridge) (hl : ActorOk o.bridge l) (hd' : DistinctOk o') :
    KeepsLocks o o' := by
  intro id doc hdoc hnodup
  obtain ⟨doc', hdoc', -, -⟩ :=
    (h.actorStep.effect hok hl).1.later id doc hdoc (hok.docs id doc hdoc)
  refine ⟨doc', hdoc', hd'.docs id doc' hdoc', ?_⟩
  cases h.wrote hok hl hdoc' with
  | kept doc₀ hdoc₀ htxids _ =>
      obtain rfl := Option.some.inj (hdoc.symm.trans hdoc₀)
      exact .refl hnodup htxids
  | new hnone => rw [hdoc] at hnone; cases hnone
  | decided input hallowed now utxosFor rest inv fresh hphase hinv hfresh htxids _ =>
      obtain rfl := Option.some.inj (hdoc.symm.trans hinv)
      exact locksLater_decided hnodup (hallowed.1.neverRetracts _ _ _ _ _ hphase)
        (hallowed.2 _ _ _ _ _ hphase) hfresh htxids

/-- Recorded locks are kept along a run. -/
theorem keepsLocks_of_run {s : Bridge} (hs : s.Initial) {c c' : Config Observed Actor}
    (h : Run (observed bip44 settings (LocksAnswered settings)) s.observed c)
    (h' : Run (observed bip44 settings (LocksAnswered settings)) c c') :
    KeepsLocks c.shared c'.shared ∧ DistinctOk c.shared := by
  have hall := distinct_inductive bip44 settings
    (fun o input (hlocks : LocksAnswered settings o input) => hlocks.1.distinct)
  have hc := Run.invariant hall h ⟨⟨hs.bridgeOk, hs.distinctOk⟩, fun _ hl => nomatch hl⟩
  refine ⟨Run.guarantee hall (G := KeepsLocks) ?_ KeepsLocks.trans ?_ h' hc, hc.1.2⟩
  · intro o id doc hdoc hnodup
    exact ⟨doc, hdoc, hnodup, .refl hnodup rfl⟩
  · intro o l o' l' hok hl hstep
    have hstep' : ObservedStep bip44 settings (LocksAnswered settings) o l o' l' := hstep
    exact hstep'.keepsLocks hok.1 hl (hall.shared hok hl hstep).2

end Run

/-- **Recorded locks are kept** in every run in which the node never retracts a lock, and every
lookup that raises `DashdError` is about an outpoint without a recorded lock or one whose entry
in `listunspent` has the lock. An output that qualified by a lock still does. -/
theorem locks_kept {bip44 : Bip44} {settings : Settings} {s : Bridge} (hs : s.Initial)
    {c c' : Config Observed Actor}
    (h : Run (observed bip44 settings (LocksAnswered settings)) s.observed c)
    (h' : Run (observed bip44 settings (LocksAnswered settings)) c c') :
    ∀ id doc doc', c.shared.bridge.db.invoices.lookup id = some doc →
      c'.shared.bridge.db.invoices.lookup id = some doc' →
      ∀ row ∈ doc.txids, ∀ row' ∈ doc'.txids, row'.key = row.key →
        (row.instantlock = true → row'.instantlock = true) ∧
        (row.chainlock = true → row'.chainlock = true) ∧
        ∀ policy : Policy,
          policy.settlePolicy.getD .instantsend_or_chainlock = .instantsend_or_chainlock →
          outputQualifies (WatchedOutput.ofRow row) policy = true →
          outputQualifies (WatchedOutput.ofRow row') policy = true := by
  intro id doc doc' hdoc hdoc' row hrow row' hrow' hkey
  obtain ⟨hkeeps, hdistinct⟩ := keepsLocks_of_run hs h h'
  obtain ⟨later, hlater, -, hlocks⟩ := hkeeps id doc hdoc (hdistinct.docs id doc hdoc)
  obtain rfl := Option.some.inj (hdoc'.symm.trans hlater)
  obtain ⟨hinstant, hchain⟩ := hlocks.locks row hrow row' hrow' hkey
  refine ⟨hinstant, hchain, ?_⟩
  intro policy hpolicy hqual
  unfold outputQualifies at hqual ⊢
  simp only [hpolicy, Bool.or_eq_true] at hqual ⊢
  exact hqual.imp hinstant hchain

/-! ## A lookup that fails once -/

/-- Half of the quote, locked. -/
def lockedUtxo : Utxo := { sampleUtxo with amount := ((100000 : Int) : Decimal) / 10 ^ 8 }

def lockedOutput : WatchedOutput :=
  { sampleOutput with duffs := 100000, confirmations := 0, instantlock := true, chainlock := true }

/-- The node knows the locks; one second later it does not answer the lookup, and says the locks
in `listunspent` or does not. -/
def lockingInput : TickInput where
  node := { listunspent := fun _ => .ok [lockedUtxo]
            gettransaction := fun _ => .ok { instantlock := some true, chainlock := some true } }
  now := 1000000

def silentInput : TickInput where
  node := { listunspent := fun _ => .ok [lockedUtxo]
            gettransaction := fun _ => .error (.dashdError "request timed out") }
  now := 2000000

def knownUtxo : Utxo := { lockedUtxo with instantlock := some true, chainlock := some true }

def knownInput : TickInput :=
  { silentInput with node := { silentInput.node with listunspent := fun _ => .ok [knownUtxo] } }

/-- The decisions of the ticks, and what they store. -/
def lockedDecision : Decision := settle sampleInvoice [lockedOutput] 1000000

def lockedInvoice : InvoiceDoc := lockedDecision.update 1000000 sampleInvoice

def unlockedDecision : Decision :=
  settle lockedInvoice [{ lockedOutput with instantlock := false, chainlock := false }] 2000000

def keptDecision : Decision :=
  settle lockedInvoice (mergeOutputs lockedInvoice.txids
    [{ lockedOutput with detectedAt := 2000000 }]) 2000000

def keptInvoice : InvoiceDoc := keptDecision.update 2000000 lockedInvoice

/-- Before and after the first tick decides. -/
def locking : Observed :=
  (Observed.watched {} lockingInput ⟨sampleBridgeLater, []⟩).watched {} lockingInput

def locked : Observed :=
  ⟨locking.bridge.setWatch (⟨AList.singleton 1 lockedInvoice, locking.bridge.watcher⟩,
    .applying 1000000 (utxosByAddr ["yAddr"] [lockedUtxo]) []), [lockedUtxo]⟩

/-- One second later, between the ticks. -/
def rested : Observed :=
  let o := locked.watched {} lockingInput
  ⟨{ o.bridge with clock := 2000000 }, o.answer⟩

/-- Before a second tick decides. -/
def redeciding (input : TickInput) : Observed :=
  (rested.watched {} input).watched {} input

theorem freshOutputs_lockedUtxo {node : Node} {now : Datetime} {out : WatchedOutput}
    (he : enrich node lockedUtxo 100000 now = .ok out) :
    freshOutputs {} node now [lockedUtxo] = .ok [out] :=
  freshOutputs_single 100000 (Utxo.duffs_eq rfl (by decide)) (by decide) he

theorem decide_locking :
    decideInvoice {} lockingInput.node sampleInvoice [lockedUtxo] 1000000
      = .ok lockedDecision :=
  decideInvoice_fresh _ (freshOutputs_lockedUtxo rfl)

theorem watched_locking : locking.watched {} lockingInput = locked := by
  rw [watched_applying (d := lockedDecision) rfl decide_locking (by decide) rfl]
  rfl

theorem decide_unlocking :
    decideInvoice {} silentInput.node lockedInvoice [lockedUtxo] 2000000
      = .ok unlockedDecision := by
  rw [decideInvoice_fresh _ (freshOutputs_lockedUtxo rfl)]
  rfl

theorem decide_keeping :
    decideInvoice {} knownInput.node lockedInvoice [knownUtxo] 2000000 = .ok keptDecision :=
  decideInvoice_fresh _
    (freshOutputs_single 100000 (Utxo.duffs_eq rfl (by decide)) (by decide) rfl)

theorem distinct_single {utxo : Utxo} {raw : List Utxo}
    (h : (Except.ok [utxo] : Except Exn (List Utxo)) = .ok raw) :
    (raw.map Utxo.key).Nodup := by
  obtain rfl := Except.ok.inj h
  exact List.nodup_singleton _

theorem locksAnswered_lockingInput (o : Observed) : LocksAnswered {} o lockingInput := by
  refine ⟨⟨fun _ _ => distinct_single, ?_⟩, ?_⟩
  · intro now utxosFor id inv rest _ row _ utxo _ _ tx htx
    obtain rfl := Except.ok.inj htx
    exact ⟨fun _ => rfl, fun _ => rfl⟩
  · intro now utxosFor id inv rest _ row _ utxo _ _ _ message herr
    cases herr

theorem trueLocks_silentInput (o : Observed) : TrueLocks o silentInput := by
  refine ⟨fun _ _ => distinct_single, ?_⟩
  intro now utxosFor id inv rest _ row _ utxo _ _ tx htx
  cases htx

/-- A lookup that fails about an entry with its locks. -/
theorem locksAnswered_knownInput {o : Observed}
    (h : ∀ now utxosFor batch, o.bridge.phase = .applying now utxosFor batch →
      ∀ address, ∀ utxo ∈ utxosFor address, utxo = knownUtxo) :
    LocksAnswered {} o knownInput := by
  refine ⟨⟨fun _ _ => distinct_single, ?_⟩, ?_⟩
  · intro now utxosFor id inv rest _ row _ utxo _ _ tx htx
    cases htx
  · intro now utxosFor id inv rest hphase row _ utxo hutxo _ _ message _
    rw [h _ _ _ hphase _ utxo hutxo]
    exact ⟨fun _ => rfl, fun _ => rfl⟩

theorem run_locked {allowed : Observed → TickInput → Prop}
    (h : ∀ o, allowed o lockingInput) :
    Run (observed noKeys {} allowed) sampleBridge.observed ⟨locked, [.clock, .watcher]⟩ := by
  refine .head (.spawn .clock (Or.inl rfl)) ?_
  refine .head (.spawn .watcher (Or.inr (Or.inl rfl))) ?_
  refine .head (.act 0 rfl (.other nofun (.clock 1000000 (by decide)))) ?_
  refine .head (step_watched (i := 1) rfl lockingInput rfl (h _)) ?_
  refine .head (step_watched (i := 1) rfl lockingInput rfl (h _)) ?_
  rw [← watched_locking]
  exact .single (step_watched (i := 1) rfl lockingInput rfl (h _))

/-- The first tick ends, and a second one follows. -/
theorem run_redeciding {allowed : Observed → TickInput → Prop} {input : TickInput}
    (hnow : input.now = 2000000) (h : ∀ o, allowed o lockingInput)
    (hload : allowed rested input) (hask : allowed (rested.watched {} input) input)
    (hdecide : allowed (redeciding input) input) :
    Run (observed noKeys {} allowed) ⟨locked, [.clock, .watcher]⟩
      ⟨(redeciding input).watched {} input, [.clock, .watcher]⟩ := by
  refine .head (step_watched (i := 1) rfl lockingInput rfl (h _)) ?_
  refine .head (.act 0 rfl (.other nofun (.clock 2000000 (by decide)))) ?_
  refine .head (step_watched (i := 1) rfl input hnow hload) ?_
  refine .head (step_watched (i := 1) rfl input hnow hask) ?_
  exact .single (step_watched (i := 1) rfl input hnow hdecide)

/-- A second tick, whose lookup fails, leaves the locks where they are. -/
theorem locks_kept_locked :
    locked.bridge.db.invoices.lookup 1 = some lockedInvoice ∧
      ((redeciding knownInput).watched {} knownInput).bridge.db.invoices.lookup 1
        = some keptInvoice ∧
      ∀ row ∈ keptInvoice.txids, row.key = ("tx-1", 0) →
        row.instantlock = true ∧ row.chainlock = true := by
  have h := run_locked locksAnswered_lockingInput
  have h' : Run (observed noKeys {} (LocksAnswered {})) ⟨locked, [.clock, .watcher]⟩
      ⟨(redeciding knownInput).watched {} knownInput, [.clock, .watcher]⟩ := by
    refine run_redeciding rfl locksAnswered_lockingInput (locksAnswered_knownInput ?_)
      (locksAnswered_knownInput ?_) (locksAnswered_knownInput ?_)
    · rintro now utxosFor batch ⟨⟩
    · rintro now utxosFor batch ⟨⟩
    · rintro now utxosFor batch ⟨⟩ address utxo hutxo
      exact List.mem_singleton.mp (mem_utxosByAddr.mp hutxo).2.1
  have hkept : ((redeciding knownInput).watched {} knownInput).bridge.db.invoices.lookup 1
      = some keptInvoice := by
    rw [watched_applying (d := keptDecision) rfl decide_keeping (by decide) rfl]
    rfl
  refine ⟨rfl, hkept, ?_⟩
  intro row hrow hkey
  obtain ⟨hinstant, hchain, -⟩ := locks_kept initial_sampleBridge h h' 1 lockedInvoice keptInvoice
    rfl hkept (txDict lockedOutput).stored List.mem_cons_self row hrow hkey
  exact ⟨hinstant rfl, hchain rfl⟩

/-- The payment has its locks recorded, the next lookup fails, and the locks are gone. -/
theorem lock_lost :
    ¬ ∀ c c' : Config Observed Actor,
      Run (observed noKeys {} TrueLocks) sampleBridge.observed c →
      Run (observed noKeys {} TrueLocks) c c' →
      ∀ id doc doc', c.shared.bridge.db.invoices.lookup id = some doc →
        c'.shared.bridge.db.invoices.lookup id = some doc' →
        ∀ row ∈ doc.txids, ∀ row' ∈ doc'.txids, row'.key = row.key →
          row.instantlock = true → row'.instantlock = true := by
  intro hall
  have h := run_locked (fun o => (locksAnswered_lockingInput o).1)
  have h' : Run (observed noKeys {} TrueLocks) ⟨locked, [.clock, .watcher]⟩
      ⟨(redeciding silentInput).watched {} silentInput, [.clock, .watcher]⟩ :=
    run_redeciding rfl (fun o => (locksAnswered_lockingInput o).1) (trueLocks_silentInput _)
      (trueLocks_silentInput _) (trueLocks_silentInput _)
  have hdoc' : ((redeciding silentInput).watched {} silentInput).bridge.db.invoices.lookup 1
      = some (unlockedDecision.update 2000000 lockedInvoice) := by
    rw [watched_applying (d := unlockedDecision) rfl decide_unlocking (by decide) rfl]
    rfl
  have hlost := hall _ _ h h' 1 lockedInvoice _ rfl hdoc' (txDict lockedOutput).stored
    List.mem_cons_self
    (txDict { lockedOutput with instantlock := false, chainlock := false }).stored
    List.mem_cons_self rfl rfl
  cases hlost

end V4vappDash
