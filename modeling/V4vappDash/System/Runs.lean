import V4vappDash.System.Bridge
import V4vappDash.Watcher.Tick

set_option autoImplicit false

/-! # Runs of the bridge

Every step keeps the invariant of `System/Bridge.lean` and only replaces stored documents by
later versions of themselves (`Effect`); so does every run.
-/

namespace V4vappDash

open Interleaving

/-- What a step does to the stored documents: each becomes a later version of itself, and a new
one is as it was created. -/
structure Effect (s s' : Bridge) : Prop where
  clock : s.clock ≤ s'.clock
  later : ∀ id doc, s.db.invoices.lookup id = some doc → StoredOk s.clock doc →
    ∃ doc', s'.db.invoices.lookup id = some doc' ∧ StoredOk s'.clock doc' ∧ Later doc doc'
  new : ∀ id doc', s'.db.invoices.lookup id = some doc' → s.db.invoices.lookup id = none →
    StoredOk s'.clock doc'

/-- The invariant on documents follows from the effect of a step. -/
theorem Effect.docs {s s' : Bridge} (h : Effect s s') (hok : BridgeOk s) :
    ∀ id doc, s'.db.invoices.lookup id = some doc → StoredOk s'.clock doc := by
  intro id doc' hdoc'
  cases hdoc : s.db.invoices.lookup id with
  | none => exact h.new id doc' hdoc' hdoc
  | some doc =>
      obtain ⟨doc'', hdoc'', hstored, -⟩ := h.later id doc hdoc (hok.docs id doc hdoc)
      rw [hdoc'] at hdoc''
      cases hdoc''
      exact hstored

/-- A step that leaves the collection alone. -/
theorem Effect.of_eq {s s' : Bridge} (hclock : s.clock ≤ s'.clock)
    (h : s'.db.invoices = s.db.invoices) : Effect s s' := by
  refine ⟨hclock, ?_, ?_⟩
  · intro id doc hdoc hok
    exact ⟨doc, by rw [h]; exact hdoc, hok.mono hclock, .refl hok.timely⟩
  · intro id doc' hdoc' hnone
    rw [h, hnone] at hdoc'
    cases hdoc'

/-- A step that updates one document under a condition. -/
theorem Effect.of_updateIf {s s' : Bridge} {id : ObjectId} {p : InvoiceDoc → Bool}
    {f : InvoiceDoc → InvoiceDoc} (hclock : s.clock ≤ s'.clock)
    (h : s'.db.invoices = Collection.updateIf s.db.invoices id p f)
    (hdoc : ∀ doc, s.db.invoices.lookup id = some doc → StoredOk s.clock doc →
      StoredOk s'.clock (if p doc then f doc else doc) ∧
        Later doc (if p doc then f doc else doc)) : Effect s s' := by
  refine ⟨hclock, ?_, ?_⟩
  · intro j doc hj hok
    rw [h]
    refine Collection.exists_lookup_updateIf hj ⟨hok.mono hclock, .refl hok.timely⟩ ?_
    rintro rfl hp
    have hupdated := hdoc doc hj hok
    rw [if_pos hp] at hupdated
    exact hupdated
  · intro j doc' hj hnone
    rw [h] at hj
    rcases Collection.lookup_updateIf_cases hj with hold | ⟨rfl, doc, hold, -, -⟩
    · rw [hnone] at hold
      cases hold
    · rw [hnone] at hold
      cases hold

/-! ## Creates -/

/-- A document built by a request with a price is as `create_invoice` makes it. -/
theorem CreateMove.ok {own : Settings} {bip44 : Bip44} {body : InvoiceCreate}
    {input : CreateInput} {db db' : Database} {phase phase' : CreatePhase}
    (h : CreateMove own bip44 body input db phase db' phase') (hok : phase.Ok) : phase'.Ok := by
  cases h with
  | price hpricing => exact hpricing
  | limit | allocate => exact hok
  | build => exact ⟨own, body, _, _, _, input.now, hok, rfl⟩
  | load | unused | found | exhausted | insert | stay | fail => trivial

theorem Created.storedOk {doc : InvoiceDoc} (h : Created doc)
    (hints : doc.newInts.all bsonInt64 = true) (now : Datetime) : StoredOk now doc := by
  obtain ⟨settings, body, pricing, address, derivation, created, hp, rfl⟩ := h
  exact ⟨timely_newInvoice _ _ _ _ _ _ _, ⟨_, _, _, _, _, _, hp, rfl⟩, hints⟩

/-! ## The watcher -/

/-- A batch that has just been loaded. -/
theorem batchOk_loadBatch {s : Bridge} (hok : BridgeOk s) (limit : Nat)
    (after : Option ObjectId) :
    BatchOk s.db.invoices s.clock (loadBatch s.db.invoices limit after) := by
  refine ⟨loadBatch_pairwise _ _ _, ?_⟩
  intro e he
  obtain ⟨id, inv⟩ := e
  obtain ⟨hdoc, -, hwatch⟩ := mem_loadBatch he
  exact ⟨inv, hdoc, hwatch, (hok.docs id inv hdoc).timely, Or.inl rfl⟩

/-- A batch survives what other actors do to its documents. -/
theorem BatchOk.of_lookup {invoices invoices' : Invoices} {now : Datetime}
    {batch : List (ObjectId × InvoiceDoc)} (h : BatchOk invoices now batch)
    (hlookup : ∀ e ∈ batch, ∀ doc, invoices.lookup e.1 = some doc → Snapshot now e.2 doc →
      ∃ doc', invoices'.lookup e.1 = some doc' ∧ Snapshot now e.2 doc') :
    BatchOk invoices' now batch := by
  refine ⟨h.distinct, ?_⟩
  intro e he
  obtain ⟨doc, hdoc, hsnap⟩ := h.snapshot e he
  exact hlookup e he doc hdoc hsnap

theorem BatchOk.tail {invoices : Invoices} {now : Datetime} {e : ObjectId × InvoiceDoc}
    {rest : List (ObjectId × InvoiceDoc)} (h : BatchOk invoices now (e :: rest)) :
    BatchOk invoices now rest :=
  ⟨(List.pairwise_cons.mp h.distinct).2, fun e' he' => h.snapshot e' (List.mem_cons_of_mem _ he')⟩

/-- One invoice of a batch is decided and stored. -/
theorem applyInvoice_effect (settings : Settings) (input : TickInput) (utxos : List Utxo)
    {s s' : Bridge} {id : ObjectId} {inv : InvoiceDoc} {rest : List (ObjectId × InvoiceDoc)}
    (hnow : input.now ≤ s.clock) (hbatch : BatchOk s.db.invoices input.now ((id, inv) :: rest))
    (hclock : s'.clock = s.clock)
    (hs' : s'.db.invoices = (applyInvoice settings input id inv utxos s.watch).1.invoices) :
    Effect s s' ∧ BatchOk s'.db.invoices input.now rest := by
  rcases applyInvoice_invoices settings input id inv utxos s.watch with heq | ⟨d, hd, heq⟩
  · have hsame : s'.db.invoices = s.db.invoices := hs'.trans heq
    exact ⟨.of_eq (le_of_eq hclock.symm) hsame, by rw [hsame]; exact hbatch.tail⟩
  -- the update concerns this invoice only; the rest of the batch is as it was
  · obtain ⟨doc, hdoc, hsnap⟩ := hbatch.snapshot (id, inv) List.mem_cons_self
    have hupd := hs'.trans heq
    refine ⟨.of_updateIf (le_of_eq hclock.symm) hupd ?_, ?_⟩
    · intro doc' hdoc' hok
      obtain rfl : doc = doc' := Option.some.inj (hdoc.symm.trans hdoc')
      show StoredOk s'.clock (persistDoc inv.state d input.now doc) ∧
        Later doc (persistDoc inv.state d input.now doc)
      rw [hclock]
      refine ⟨⟨hsnap.timely_persistDoc hd hnow hok.timely, ?_, ?_⟩,
        hsnap.later_persistDoc hd hok.timely⟩
      · rw [asCreated_persistDoc]; exact hok.created
      · rw [asCreated_persistDoc]; exact hok.ints
    · rw [hupd]
      refine hbatch.tail.of_lookup (fun e he doc' hdoc' hsnap' => ⟨doc', ?_, hsnap'⟩)
      have hne : e.1 ≠ id := ((List.pairwise_cons.mp hbatch.distinct).1 e he).symm
      rw [Collection.lookup_updateIf_of_ne hne]
      exact hdoc'

/-- A step of the watcher keeps the invariant. -/
theorem watchStep_effect {settings : Settings} {input : TickInput} {s : Bridge}
    (hok : BridgeOk s) (hnow : input.now = s.clock) :
    Effect s (s.setWatch (watchStep settings input s.watch s.phase)) ∧
      PhaseOk (watchStep settings input s.watch s.phase).1.invoices s.clock
        (watchStep settings input s.watch s.phase).2 := by
  have hphase := hok.phase
  cases hp : s.phase with
  | idle =>
      unfold watchStep
      dsimp only
      split
      · exact ⟨.of_eq le_rfl rfl, trivial⟩
      · exact ⟨.of_eq le_rfl rfl, batchOk_loadBatch hok _ _⟩
  | loaded batch =>
      rw [hp] at hphase
      unfold watchStep
      dsimp only
      split
      · exact ⟨.of_eq le_rfl rfl, trivial⟩
      · exact ⟨.of_eq le_rfl rfl, trivial⟩
      · exact ⟨.of_eq le_rfl rfl, le_of_eq hnow, by rw [hnow]; exact hphase⟩
  | applying now utxosFor rest =>
      rw [hp] at hphase
      cases rest with
      | nil => exact ⟨.of_eq le_rfl rfl, trivial⟩
      | cons e rest =>
          obtain ⟨id, inv⟩ := e
          obtain ⟨hle, hbatch⟩ := hphase
          rw [watchStep]
          cases ha : applyInvoice settings { input with now } id inv (utxosFor inv.address)
              s.watch with
          | mk w' result =>
              have heffect : Effect s (s.setInvoices w'.invoices) ∧ BatchOk w'.invoices now rest :=
                applyInvoice_effect settings { input with now } (utxosFor inv.address) hle hbatch
                  rfl (by rw [ha]; rfl)
              cases result with
              | error e => exact ⟨⟨le_rfl, heffect.1.later, heffect.1.new⟩, trivial⟩
              | ok u => exact ⟨⟨le_rfl, heffect.1.later, heffect.1.new⟩, hle, heffect.2⟩

/-! ## Steps -/

/-- What a step of another actor leaves of the phase of the watcher. -/
theorem PhaseOk.of_lookup {invoices invoices' : Invoices} {clock later : Datetime}
    {phase : TickPhase} (h : PhaseOk invoices clock phase) (hle : clock ≤ later)
    (hlookup : ∀ id inv now doc, invoices.lookup id = some doc → Snapshot now inv doc →
      ∃ doc', invoices'.lookup id = some doc' ∧ Snapshot now inv doc') :
    PhaseOk invoices' later phase := by
  cases phase with
  | idle => trivial
  | loaded batch =>
      exact BatchOk.mono (BatchOk.of_lookup h (fun e _ doc => hlookup e.1 e.2 _ doc)) hle
  | applying now _ rest =>
      exact ⟨h.1.trans hle, BatchOk.of_lookup h.2 (fun e _ doc => hlookup e.1 e.2 _ doc)⟩

section Step

variable {bip44 : Bip44} {settings : Settings} {s s' : Bridge} {l l' : Actor}

/-- **The step lemma.** -/
theorem ActorStep.effect (h : ActorStep bip44 settings s l s' l') (hok : BridgeOk s)
    (hl : ActorOk s l) : Effect s s' ∧ PhaseOk s'.db.invoices s'.clock s'.phase := by
  cases h with
  | clock now hle =>
      exact ⟨.of_eq hle rfl, hok.phase.of_lookup hle
        (fun id inv now doc hdoc hsnap => ⟨doc, hdoc, hsnap⟩)⟩
  | watch input hnow => exact watchStep_effect hok hnow
  | restart => exact ⟨.of_eq le_rfl rfl, trivial⟩
  -- stored documents stay as they are, and a new one is as `create_invoice` builds it
  | @create own body phase input =>
      have hmove := createStep_move own bip44 body input s.db phase
      refine ⟨⟨le_rfl, ?_, ?_⟩, ?_⟩
      · intro id d hd hstored
        exact ⟨d, hmove.lookup hd, hstored, .refl hstored.timely⟩
      · intro id d hd hno
        rcases hmove.stored hd with hold | ⟨rfl, -, hints, -⟩
        · rw [hno] at hold
          cases hold
        · exact Created.storedOk hl hints _
      -- a request does not touch the invoices of the batch
      · exact hok.phase.of_lookup le_rfl
          (fun id inv now d hd hsnap => ⟨d, hmove.lookup hd, hsnap⟩)
  | createFails | cancelRead | cancelMiss | cancelLookup => exact ⟨.of_eq le_rfl rfl, hok.phase⟩
  -- the clock was read before the update, so the stored time is not in the future
  | @cancelUpdate id now doc hdoc hc =>
      refine ⟨.of_updateIf le_rfl (p := cancelable) (f := cancelDoc now) rfl
        ?_, ?_⟩
      · intro d hd hstored
        by_cases hcd : cancelable d = true
        · rw [if_pos hcd]
          exact ⟨⟨hstored.timely.cancelDoc hcd hl, hstored.created, hstored.ints⟩,
            later_cancelDoc hstored.timely hcd⟩
        · rw [if_neg hcd]
          exact ⟨hstored, .refl hstored.timely⟩
      -- the watcher may hold the document that is canceled here
      · apply hok.phase.of_lookup le_rfl
        intro j inv now' d hd hsnap
        exact Collection.exists_lookup_updateIf hd hsnap (fun _ hcd => hsnap.cancelDoc hcd)

theorem ActorStep.actorOk (h : ActorStep bip44 settings s l s' l') (hl : ActorOk s l) :
    ActorOk s' l' := by
  cases h with
  | create input => exact (createStep_move _ _ _ _ _ _).ok hl
  | cancelRead => exact le_rfl
  | clock | watch | restart | createFails | cancelUpdate | cancelMiss | cancelLookup => trivial

theorem ActorOk.mono (hl : ActorOk s l) (hle : s.clock ≤ s'.clock) : ActorOk s' l := by
  cases l with
  | canceling id now => exact le_trans hl hle
  | create => exact hl
  | clock | watcher | cancel | cancelMissed | cancelAnswered => trivial

theorem ActorStep.bridgeOk (h : ActorStep bip44 settings s l s' l') (hok : BridgeOk s)
    (hl : ActorOk s l) : BridgeOk s' :=
  ⟨(h.effect hok hl).1.docs hok, (h.effect hok hl).2⟩

theorem bridge_inductive (bip44 : Bip44) (settings : Settings) :
    (bridge bip44 settings).Inductive BridgeOk ActorOk where
  spawn := by
    rintro s l - (rfl | rfl | ⟨own, body, rfl⟩ | ⟨id, rfl⟩) <;> trivial
  shared := fun hok hl h => h.bridgeOk hok hl
  own := fun _ hl h => h.actorOk hl
  stable := fun hok hl hm h => hm.mono (h.effect hok hl).1.clock

end Step

/-! ## Runs -/

/-- A system at rest: the watcher has not started, and every stored invoice is as it was
created. The empty collection is one. -/
structure Bridge.Initial (s : Bridge) : Prop where
  idle : s.phase = .idle
  created : ∀ id doc, s.db.invoices.lookup id = some doc →
    Created doc ∧ doc.newInts.all bsonInt64 = true

section Run

variable {bip44 : Bip44} {settings : Settings} {s : Bridge} {c c' : Config Bridge Actor}

theorem Bridge.Initial.bridgeOk (h : s.Initial) : BridgeOk s := by
  refine ⟨?_, by rw [h.idle]; trivial⟩
  intro id doc hdoc
  obtain ⟨hcreated, hints⟩ := h.created id doc hdoc
  exact hcreated.storedOk hints _

theorem holds_of_initial (hs : s.Initial) (h : Run (bridge bip44 settings) ⟨s, []⟩ c) :
    Holds BridgeOk ActorOk c :=
  Run.invariant (bridge_inductive bip44 settings) h ⟨hs.bridgeOk, fun l hl => by cases hl⟩

/-- Along a run every stored document only becomes a later version of itself. -/
theorem later_of_run (hc : Holds BridgeOk ActorOk c) (h : Run (bridge bip44 settings) c c') :
    ∀ id doc, c.shared.db.invoices.lookup id = some doc → StoredOk c.shared.clock doc →
      ∃ doc', c'.shared.db.invoices.lookup id = some doc' ∧ StoredOk c'.shared.clock doc' ∧
        Later doc doc' := by
  refine Run.guarantee (bridge_inductive bip44 settings)
    (G := fun s s' => ∀ id doc, s.db.invoices.lookup id = some doc → StoredOk s.clock doc →
      ∃ doc', s'.db.invoices.lookup id = some doc' ∧ StoredOk s'.clock doc' ∧ Later doc doc')
    (fun s id doc hdoc hok => ⟨doc, hdoc, hok, .refl hok.timely⟩) ?_
    (fun hok hl hs => (hs.effect hok hl).1.later) h hc
  intro s t u hst htu id doc hdoc hok
  obtain ⟨doc', hdoc', hok', hlater⟩ := hst id doc hdoc hok
  obtain ⟨doc'', hdoc'', hok'', hlater'⟩ := htu id doc' hdoc' hok'
  exact ⟨doc'', hdoc'', hok'', hlater.trans hlater'⟩

/-- A family in which the watcher moves as in the bridge: it may take any number of steps with
one input while nobody else moves. -/
theorem run_watchNext {F : Family Bridge Actor} {settings : Settings} {input : TickInput}
    (hF : ∀ s : Bridge, input.now = s.clock →
      F.step s .watcher (s.setWatch (watchStep settings input s.watch s.phase)) .watcher)
    (hnow : input.now = s.clock) {locals : List Actor} {i : Nat}
    (hi : locals[i]? = some .watcher) (n : Nat) :
    Run F ⟨s, locals⟩
      ⟨s.setWatch ((watchNext settings input)^[n] (s.watch, s.phase)), locals⟩ := by
  induction n with
  | zero => exact .refl
  | succ n ih =>
      rw [Function.iterate_succ_apply']
      refine .tail ih ?_
      have hset : locals.set i .watcher = locals := by
        obtain ⟨hlt, hget⟩ := List.getElem?_eq_some_iff.mp hi
        rw [← hget, List.set_getElem_self]
      have hstep := Step.act (F := F)
        (c := ⟨s.setWatch ((watchNext settings input)^[n] (s.watch, s.phase)), locals⟩) i hi
        (hF _ hnow)
      rw [hset] at hstep
      exact hstep

/-- **A tick is a run.** The iteration of `run_watcher` that the source writes as one function
is something the watcher can do when nobody else moves. -/
theorem run_runWatcherOnce {F : Family Bridge Actor} {settings : Settings} {input : TickInput}
    (hF : ∀ s : Bridge, input.now = s.clock →
      F.step s .watcher (s.setWatch (watchStep settings input s.watch s.phase)) .watcher)
    (hidle : s.phase = .idle) (hnow : input.now = s.clock) {locals : List Actor} {i : Nat}
    (hi : locals[i]? = some .watcher) :
    Run F ⟨s, locals⟩ ⟨s.setWatch (runWatcherOnce settings input s.watch, .idle), locals⟩ := by
  obtain ⟨n, hn⟩ := watchStep_runWatcherOnce settings input s.watch
  have hrun := run_watchNext hF hnow hi n
  rw [hidle, hn] at hrun
  exact hrun

/-- **A create is a run.** A request may take any number of its phases while nobody else
moves. -/
theorem run_createSteps {F : Family Bridge Actor} (bip44 : Bip44) {own : Settings}
    {body : InvoiceCreate} {phase : CreatePhase} {input : CreateInput}
    (hF : ∀ (s : Bridge) phase, F.step s (.create own body phase)
      { s with db := (createStep own bip44 body input s.db phase).1 }
      (.create own body (createStep own bip44 body input s.db phase).2))
    {locals : List Actor} {i : Nat} (hi : locals[i]? = some (.create own body phase)) (n : Nat) :
    Run F ⟨s, locals⟩
      ⟨{ s with db := (createSteps own bip44 body input n (s.db, phase)).1 },
        locals.set i (.create own body (createSteps own bip44 body input n (s.db, phase)).2)⟩ := by
  obtain ⟨hlt, hget⟩ := List.getElem?_eq_some_iff.mp hi
  induction n with
  | zero =>
      have hset : locals.set i (.create own body phase) = locals := by
        rw [← hget, List.set_getElem_self]
      show Run _ _ ⟨s, locals.set i (.create own body phase)⟩
      rw [hset]
      exact .refl
  | succ n ih =>
      let before := createSteps own bip44 body input n (s.db, phase)
      have hstep := Step.act (F := F)
        (c := ⟨{ s with db := before.1 }, locals.set i (.create own body before.2)⟩) i
        (List.getElem?_set_self hlt) (hF _ _)
      rw [List.set_set] at hstep
      have hnext : createSteps own bip44 body input (n + 1) (s.db, phase)
          = createStep own bip44 body input before.1 before.2 :=
        Function.iterate_succ_apply' _ _ _
      rw [hnext]
      exact .tail ih hstep

/-- **A cancel is a run.** It reads the clock, updates, and looks the invoice up if the update
matched nothing. -/
theorem run_cancelInvoice (bip44 : Bip44) (settings : Settings) {id : ObjectId}
    {locals : List Actor} {i : Nat} (hi : locals[i]? = some (.cancel id)) :
    Run (bridge bip44 settings) ⟨s, locals⟩
      ⟨s.setInvoices (cancelInvoice (some id) s.clock s.db.invoices).1,
        locals.set i (.cancelAnswered (cancelInvoice (some id) s.clock s.db.invoices).2)⟩ := by
  obtain ⟨hlt, -⟩ := List.getElem?_eq_some_iff.mp hi
  have hread : Step (bridge bip44 settings) ⟨s, locals⟩
      ⟨s, locals.set i (.canceling id s.clock)⟩ := .act i hi .cancelRead
  have hself : ∀ a : Actor, (locals.set i a)[i]? = some a := fun a => List.getElem?_set_self hlt
  by_cases h : ∃ doc, s.db.invoices.lookup id = some doc ∧ cancelable doc = true
  · obtain ⟨doc, hdoc, hc⟩ := h
    have hupdate := Step.act (F := bridge bip44 settings)
      (c := ⟨s, locals.set i (.canceling id s.clock)⟩) i (hself _) (.cancelUpdate doc hdoc hc)
    rw [List.set_set] at hupdate
    rw [cancelInvoice_ok s.clock hdoc hc]
    exact .head hread (.single hupdate)
  · have hnone : ∀ doc, s.db.invoices.lookup id = some doc → cancelable doc = false := by
      intro doc hdoc
      exact eq_false_of_ne_true (fun hc => h ⟨doc, hdoc, hc⟩)
    -- an update that matches nothing is followed by a lookup of the same state
    have hmiss := Step.act (F := bridge bip44 settings)
      (c := ⟨s, locals.set i (.canceling id s.clock)⟩) i (hself _) (.cancelMiss hnone)
    rw [List.set_set] at hmiss
    have hlookup := Step.act (F := bridge bip44 settings)
      (c := ⟨s, locals.set i (.cancelMissed id)⟩) i (hself _) .cancelLookup
    rw [List.set_set] at hlookup
    rw [cancelInvoice_refused s.clock hnone]
    exact .head hread (.head hmiss (.single hlookup))

end Run

end V4vappDash
