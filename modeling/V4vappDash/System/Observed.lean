import V4vappDash.System.Runs

set_option autoImplicit false

/-! # Runs under assumptions on the node

The bridge together with what `listunspent` answered in the tick under way, in runs whose watcher
only meets inputs that an assumption allows. Without an assumption these are the runs of the
bridge, so everything proved about those holds here (`ObservedStep.actorStep`).

What a step stores is said once: `ObservedStep.wrote` for a document, `ObservedStep.phase` for
what the tick holds.
-/

namespace V4vappDash

open Interleaving

/-- The bridge and the answer of `listunspent` in the tick under way. -/
structure Observed where
  bridge : Bridge
  answer : List Utxo

/-- The answer after a step of the watcher. -/
def Observed.next (o : Observed) (input : TickInput) : List Utxo :=
  match o.bridge.phase with
  | .idle => []
  | .loaded batch =>
      match askNode input.node (batchAddresses batch) with
      | .error _ => []
      | .ok raw => raw
  | .applying _ _ _ => o.answer

/-- The state after a step of the watcher. -/
def Observed.watched (settings : Settings) (input : TickInput) (o : Observed) : Observed where
  bridge := o.bridge.setWatch (watchStep settings input o.bridge.watch o.bridge.phase)
  answer := o.next input

/-- One atomic step of an actor, the watcher's with an input that is `allowed`. -/
inductive ObservedStep (bip44 : Bip44) (settings : Settings)
    (allowed : Observed → TickInput → Prop) : Observed → Actor → Observed → Actor → Prop
  | watch {o : Observed} (input : TickInput) (hnow : input.now = o.bridge.clock)
      (hallowed : allowed o input) :
      ObservedStep bip44 settings allowed o .watcher (o.watched settings input) .watcher
  | restart {o : Observed} :
      ObservedStep bip44 settings allowed o .watcher
        ⟨{ o.bridge with watcher := {}, phase := .idle }, []⟩ .watcher
  | other {o : Observed} {l l' : Actor} {s' : Bridge} (hl : l ≠ .watcher)
      (h : ActorStep bip44 settings o.bridge l s' l') :
      ObservedStep bip44 settings allowed o l ⟨s', o.answer⟩ l'

/-- The bridge under an assumption on the inputs of the watcher. -/
def observed (bip44 : Bip44) (settings : Settings) (allowed : Observed → TickInput → Prop) :
    Family Observed Actor where
  spawn := (bridge bip44 settings).spawn
  step := ObservedStep bip44 settings allowed

/-! ## What a step stores -/

/-- Where the document stored under `id` after a step comes from: its outpoints and its address
are those it had, or it is new, or it was decided in the tick under way. -/
inductive Wrote (settings : Settings) (allowed : Observed → TickInput → Prop) (o : Observed)
    (id : ObjectId) (doc' : InvoiceDoc) : Prop
  | kept (doc : InvoiceDoc) (hdoc : o.bridge.db.invoices.lookup id = some doc)
      (htxids : doc'.txids = doc.txids) (haddress : doc'.address = doc.address)
  | new (hdoc : o.bridge.db.invoices.lookup id = none) (htxids : doc'.txids = [])
  | decided (input : TickInput) (hallowed : allowed o input) (now : Datetime)
      (utxosFor : String → List Utxo) (rest : List (ObjectId × InvoiceDoc)) (inv : InvoiceDoc)
      (fresh : List WatchedOutput)
      (hphase : o.bridge.phase = .applying now utxosFor ((id, inv) :: rest))
      (hdoc : o.bridge.db.invoices.lookup id = some inv)
      (hfresh : freshOutputs settings input.node now (utxosFor inv.address) = .ok fresh)
      (htxids : doc'.txids = storedRows (mergeOutputs inv.txids fresh))
      (haddress : doc'.address = inv.address)

/-- What the watcher holds after a step. -/
inductive Holding (allowed : Observed → TickInput → Prop) (o : Observed) :
    TickPhase → List Utxo → Prop
  | same (phase : TickPhase) (hphase : o.bridge.phase = phase) :
      Holding allowed o phase o.answer
  | idle (answer : List Utxo) : Holding allowed o .idle answer
  | loaded (batch : List (ObjectId × InvoiceDoc)) (answer : List Utxo) :
      Holding allowed o (.loaded batch) answer
  | answered (input : TickInput) (hallowed : allowed o input)
      (batch : List (ObjectId × InvoiceDoc)) (raw : List Utxo)
      (hphase : o.bridge.phase = .loaded batch)
      (hraw : askNode input.node (batchAddresses batch) = .ok raw) :
      Holding allowed o
        (.applying input.now (utxosByAddr (batchAddresses batch) raw) batch) raw
  | next (now : Datetime) (utxosFor : String → List Utxo) (e : ObjectId × InvoiceDoc)
      (rest : List (ObjectId × InvoiceDoc))
      (hphase : o.bridge.phase = .applying now utxosFor (e :: rest)) :
      Holding allowed o (.applying now utxosFor rest) o.answer

section Steps

variable {bip44 : Bip44} {settings : Settings} {allowed : Observed → TickInput → Prop}
  {o o' : Observed} {l l' : Actor}

/-- Forgetting the answer, a step is a step of the bridge. -/
theorem ObservedStep.actorStep (h : ObservedStep bip44 settings allowed o l o' l') :
    ActorStep bip44 settings o.bridge l o'.bridge l' := by
  cases h with
  | watch input hnow => exact .watch input hnow
  | restart => exact .restart
  | other _ h => exact h

/-- A step of anyone but the watcher leaves what the watcher holds alone. -/
theorem ActorStep.phase_eq {s s' : Bridge} (h : ActorStep bip44 settings s l s' l')
    (hl : l ≠ .watcher) : s'.phase = s.phase := by
  cases h with
  | watch | restart => exact absurd rfl hl
  | clock | create | createFails | cancelRead | cancelUpdate | cancelMiss | cancelLookup => rfl

/-- A step of anyone but the watcher leaves the outpoints of every document alone. -/
theorem ActorStep.stored {s s' : Bridge} (h : ActorStep bip44 settings s l s' l')
    (hl : l ≠ .watcher) (hok : ActorOk s l) {id : ObjectId} {doc' : InvoiceDoc}
    (hdoc' : s'.db.invoices.lookup id = some doc') :
    (∃ doc, s.db.invoices.lookup id = some doc ∧ doc'.txids = doc.txids ∧
      doc'.address = doc.address) ∨
    (s.db.invoices.lookup id = none ∧ doc'.txids = []) := by
  cases h with
  | watch | restart => exact absurd rfl hl
  | clock | createFails | cancelRead | cancelMiss | cancelLookup =>
      exact Or.inl ⟨doc', hdoc', rfl, rfl⟩
  | @create own body phase input =>
      have hmove := createStep_move own bip44 body input s.db phase
      rcases hmove.stored hdoc' with hold | ⟨rfl, -, -, hdup⟩
      · exact Or.inl ⟨doc', hold, rfl, rfl⟩
      · obtain ⟨settings', body', pricing, address, derivation, created, -, rfl⟩ :
          Created doc' := hok
        exact Or.inr ⟨(duplicateKey_eq_false hdup).1, rfl⟩
  | @cancelUpdate j now doc hdoc hc =>
      rcases Collection.lookup_updateIf_cases hdoc' with hold | ⟨rfl, old, hold, -, rfl⟩
      · exact Or.inl ⟨doc', hold, rfl, rfl⟩
      · exact Or.inl ⟨old, hold, rfl, rfl⟩

/-- What a step of the watcher stores for a document. -/
theorem watchStep_stored {input : TickInput} (hok : BridgeOk o.bridge)
    (hallowed : allowed o input) {id : ObjectId} {doc' : InvoiceDoc}
    (hdoc' : (watchStep settings input o.bridge.watch o.bridge.phase).1.invoices.lookup id
      = some doc') : Wrote settings allowed o id doc' := by
  rcases watchStep_invoices settings input o.bridge.watch o.bridge.phase with
    hsame | ⟨now, utxosFor, j, inv, rest, d, hp, hd, hupdate⟩
  · rw [hsame] at hdoc'
    exact .kept doc' hdoc' rfl rfl
  · rw [hupdate] at hdoc'
    rcases Collection.lookup_updateIf_cases hdoc' with hold | ⟨rfl, doc, hdoc, hf, rfl⟩
    · exact .kept doc' hold rfl rfl
    · have hphase := hok.phase
      rw [hp] at hphase
      obtain ⟨stored, hstored, hsnap⟩ := hphase.2.snapshot (id, inv) List.mem_cons_self
      obtain rfl : doc = stored := Option.some.inj (hdoc.symm.trans hstored)
      -- an update that matches finds the document that was read
      obtain rfl := hsnap.eq_of_persistFilter hd hf
      obtain ⟨fresh, hfresh, -, rfl⟩ := decideInvoice_ok hd
      refine .decided input hallowed now utxosFor rest doc fresh hp hdoc hfresh ?_ rfl
      rw [update_txids, settle_txids]

/-- **What a step stores for a document.** -/
theorem ObservedStep.wrote (h : ObservedStep bip44 settings allowed o l o' l')
    (hok : BridgeOk o.bridge) (hl : ActorOk o.bridge l) {id : ObjectId} {doc' : InvoiceDoc}
    (hdoc' : o'.bridge.db.invoices.lookup id = some doc') : Wrote settings allowed o id doc' := by
  cases h with
  | watch input _ hallowed => exact watchStep_stored hok hallowed hdoc'
  | restart => exact .kept doc' hdoc' rfl rfl
  | other hne h =>
      rcases h.stored hne hl hdoc' with ⟨doc, hdoc, htxids, haddress⟩ | ⟨hnone, htxids⟩
      · exact .kept doc hdoc htxids haddress
      · exact .new hnone htxids

/-- **What the watcher holds after a step.** -/
theorem ObservedStep.holding (h : ObservedStep bip44 settings allowed o l o' l') :
    Holding allowed o o'.bridge.phase o'.answer := by
  cases h with
  | restart => exact .idle _
  | other hne h =>
      exact .same _ (h.phase_eq hne).symm
  | watch input _ hallowed =>
      show Holding allowed o (watchStep settings input o.bridge.watch o.bridge.phase).2
        (o.next input)
      unfold Observed.next
      cases hp : o.bridge.phase with
      | idle =>
          unfold watchStep
          dsimp only
          split
          · exact .idle _
          · exact .loaded _ _
      | loaded batch =>
          unfold watchStep
          dsimp only
          cases hask : askNode input.node (batchAddresses batch) with
          | error e => cases e <;> exact .idle _
          | ok raw => exact .answered input hallowed batch raw hp hask
      | applying now utxosFor rest =>
          cases rest with
          | nil => exact .idle _
          | cons e rest =>
              obtain ⟨id, inv⟩ := e
              rw [watchStep]
              dsimp only
              cases applyInvoice settings { input with now } id inv (utxosFor inv.address)
                  o.bridge.watch with
              | mk w' result =>
                  cases result with
                  | error e => exact .idle _
                  | ok u => exact .next now utxosFor (id, inv) rest hp

/-- The invariant of the bridge holds in these runs too. -/
theorem observed_inductive (bip44 : Bip44) (settings : Settings)
    (allowed : Observed → TickInput → Prop) :
    (observed bip44 settings allowed).Inductive (fun o => BridgeOk o.bridge)
      (fun o l => ActorOk o.bridge l) where
  spawn := fun hok hl => (bridge_inductive bip44 settings).spawn hok hl
  shared := fun hok hl h => (bridge_inductive bip44 settings).shared hok hl h.actorStep
  own := fun hok hl h => (bridge_inductive bip44 settings).own hok hl h.actorStep
  stable := fun hok hl hm h => (bridge_inductive bip44 settings).stable hok hl hm h.actorStep

/-- The step in which the watcher decides and stores an invoice. -/
theorem watched_applying {input : TickInput} {now : Datetime} {utxosFor : String → List Utxo}
    {id : ObjectId} {inv : InvoiceDoc} {rest : List (ObjectId × InvoiceDoc)} {d : Decision}
    (hphase : o.bridge.phase = .applying now utxosFor ((id, inv) :: rest))
    (hd : decideInvoice settings input.node inv (utxosFor inv.address) now = .ok d)
    (hints : d.ints.all bsonInt64 = true) (hupdate : input.updateError id = none) :
    o.watched settings input
      = ⟨o.bridge.setWatch ({ o.bridge.watch.countStuck d with
          invoices := Collection.updateIf o.bridge.db.invoices id
            (fun doc => persistFilter inv.state d.state doc.state) (d.update now) },
          .applying now utxosFor rest), o.answer⟩ := by
  unfold Observed.watched Observed.next
  rw [hphase, watchStep_applying hd hints hupdate]
  rfl

/-- The watcher takes a step, in a run. -/
theorem step_watched {c : Config Observed Actor} {i : Nat} (hi : c.locals[i]? = some .watcher)
    (input : TickInput) (hnow : input.now = c.shared.bridge.clock)
    (hallowed : allowed c.shared input) :
    Step (observed bip44 settings allowed) c ⟨c.shared.watched settings input, c.locals⟩ := by
  have hstep := Step.act (F := observed bip44 settings allowed) (c := c) i hi
    (.watch input hnow hallowed)
  obtain ⟨hlt, hget⟩ := List.getElem?_eq_some_iff.mp hi
  rw [← hget, List.set_getElem_self] at hstep
  exact hstep

/-- A run under an assumption is a run of the bridge. -/
theorem run_of_observed {c c' : Config Observed Actor}
    (h : Run (observed bip44 settings allowed) c c') :
    Run (bridge bip44 settings) ⟨c.shared.bridge, c.locals⟩ ⟨c'.shared.bridge, c'.locals⟩ :=
  Run.map Observed.bridge (fun hl => hl)
    (fun {_ _ _ _} (hs : ObservedStep bip44 settings allowed _ _ _ _) => hs.actorStep) h

end Steps

end V4vappDash
