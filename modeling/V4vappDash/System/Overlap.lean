import V4vappDash.System.KeyLock
import V4vappDash.System.Progress
import V4vappDash.System.Race

set_option autoImplicit false

/-! # Overlap

The watchers of several processes hold copies of the same invoice while cancels, requests and
boots go on. Seen from one invoice, that is the family of its writers: a copy in the batch of a
watcher is a tick that has read it, an update is its decision and its write, and a cancel is one
step of its own. So every run of the deployment is, invoice by invoice, a run of the family
(`invoice_run_of_writers`), and keeps what every run of the family keeps
(`stored_life_cycle`).
-/

namespace V4vappDash

open Interleaving Machine

/-- What a watcher holds of an invoice and has not decided yet. -/
def TickPhase.held (id : ObjectId) (phase : TickPhase) : Option InvoiceDoc :=
  phase.batch.lookup id

def TickPhase.Distinct (phase : TickPhase) : Prop :=
  phase.batch.Pairwise (fun a b => a.1 ≠ b.1)

/-! ## A step of a watcher, seen from one invoice -/

/-- What a step of a watcher does to an invoice and to what the watcher holds of it. -/
inductive Touch (doc : InvoiceDoc) : Option InvoiceDoc → InvoiceDoc → Option InvoiceDoc → Prop
  | keep (held : Option InvoiceDoc) : Touch doc held doc held
  | read {held : Option InvoiceDoc} (hswept : doc.sweptAt = none)
      (hwatch : doc.state ∈ WATCH_STATES) : Touch doc held doc (some doc)
  | drop {held : Option InvoiceDoc} : Touch doc held doc none
  | decide {settings : Settings} {node : Node} {inv : InvoiceDoc} {utxos : List Utxo}
      {now : Datetime} {d : Decision} (hd : decideInvoice settings node inv utxos now = .ok d)
      (hints : d.ints.all bsonInt64 = true) :
      Touch doc (some inv) (persistDoc inv.state d now doc) none

section Step

variable {settings : Settings} {input : TickInput} {w w' : Watch} {phase phase' : TickPhase}
  {id : ObjectId} {doc : InvoiceDoc}

theorem WatchMove.distinct (h : WatchMove settings input w phase w' phase')
    (hdistinct : phase.Distinct) : phase'.Distinct := by
  cases h with
  | load _ => exact loadBatch_pairwise _ _ _
  | answer _ => exact hdistinct
  | update _ _ _ _ => exact hdistinct.tail
  | finish _ _ _ | fail _ _ _ => exact .nil

theorem WatchMove.touch (h : WatchMove settings input w phase w' phase')
    (hdistinct : phase.Distinct) (hdoc : w.invoices.lookup id = some doc) :
    ∃ doc', w'.invoices.lookup id = some doc' ∧
      Touch doc (phase.held id) doc' (phase'.held id) := by
  cases h with
  | load _ =>
      refine ⟨doc, hdoc, ?_⟩
      cases hheld : (TickPhase.loaded (loadBatch w.invoices settings.dashWatchBatch
        w.watcher.lastId)).held id with
      | none => exact .drop
      | some inv =>
          obtain ⟨before, after, hbatch, -⟩ := List.lookup_eq_some_iff.mp hheld
          have hmem : (id, inv) ∈ (TickPhase.loaded (loadBatch w.invoices settings.dashWatchBatch
              w.watcher.lastId)).batch := by
            rw [hbatch]
            exact List.mem_append_right _ List.mem_cons_self
          obtain ⟨hstored, hswept, hwatch⟩ := mem_loadBatch hmem
          obtain rfl : doc = inv := Option.some.inj (hdoc.symm.trans hstored)
          exact .read hswept hwatch
  | answer _ => exact ⟨doc, hdoc, .keep _⟩
  | @update now utxosFor j inv rest d w' hd hinvoices hlast hints =>
      rw [hinvoices]
      by_cases hj : id = j
      · subst hj
        refine ⟨persistDoc inv.state d now doc, ?_, ?_⟩
        · rw [Collection.lookup_updateIf_self, hdoc]
          rfl
        · have hheld : (TickPhase.applying now utxosFor ((id, inv) :: rest)).held id = some inv :=
            List.lookup_cons_self
          -- the batch holds the invoice once
          have hrest : (TickPhase.applying now utxosFor rest).held id = none := by
            refine List.lookup_eq_none_iff.mpr ?_
            intro e he
            exact bne_iff_ne.mpr (List.rel_of_pairwise_cons hdistinct he)
          rw [hheld, hrest]
          exact .decide hd hints
      · refine ⟨doc, by rw [Collection.lookup_updateIf_of_ne hj, hdoc], ?_⟩
        have hheld : (TickPhase.applying now utxosFor ((j, inv) :: rest)).held id
            = (TickPhase.applying now utxosFor rest).held id := by
          show List.lookup id ((j, inv) :: rest) = List.lookup id rest
          rw [List.lookup_cons, beq_false_of_ne hj]
        rw [hheld]
        exact .keep _
  | finish _ hinvoices _ | fail _ hinvoices _ =>
      rw [hinvoices]
      exact ⟨doc, hdoc, .drop⟩

end Step

/-! ## The writers of an invoice -/

/-- Every copy that a watcher holds has been read by a writer of its own. -/
structure Readers (held : Nat → Option InvoiceDoc) (writing : List Writer) (reader : Nat → Nat) :
    Prop where
  read : ∀ {j inv}, held j = some inv → writing[reader j]? = some (.read inv)
  apart : ∀ {j k inv inv'}, held j = some inv → held k = some inv' → reader j = reader k → j = k

section Readers

variable {held : Nat → Option InvoiceDoc} {writing : List Writer} {reader : Nat → Nat}

theorem update_none_eq_some {i j : Nat} {inv : InvoiceDoc} :
    Function.update held i none j = some inv ↔ j ≠ i ∧ held j = some inv := by
  by_cases hij : j = i
  · subst hij
    simp
  · rw [Function.update_of_ne hij]
    exact (and_iff_right hij).symm

theorem Readers.lt (h : Readers held writing reader) {j : Nat} {inv : InvoiceDoc}
    (hj : held j = some inv) : reader j < writing.length :=
  (List.getElem?_eq_some_iff.mp (h.read hj)).1

/-- More writers do no harm. -/
theorem Readers.append (h : Readers held writing reader) (more : List Writer) :
    Readers held (writing ++ more) reader := by
  refine ⟨?_, h.apart⟩
  intro j inv hj
  rw [List.getElem?_append_left (h.lt hj)]
  exact h.read hj

theorem Readers.drop (h : Readers held writing reader) (i : Nat) :
    Readers (Function.update held i none) writing reader := by
  constructor
  · intro j inv hj
    exact h.read (update_none_eq_some.mp hj).2
  · intro j k inv inv' hj hk
    exact h.apart (update_none_eq_some.mp hj).2 (update_none_eq_some.mp hk).2

/-- A new writer reads for watcher `i`. -/
theorem Readers.concat (h : Readers held writing reader) (i : Nat) (doc : InvoiceDoc) :
    Readers (Function.update held i (some doc)) (writing ++ [.read doc])
      (Function.update reader i writing.length) := by
  constructor
  · intro j inv hj
    by_cases hij : j = i
    · subst hij
      rw [Function.update_self] at hj ⊢
      cases hj
      exact List.getElem?_concat_length
    · rw [Function.update_of_ne hij] at hj ⊢
      exact (h.append _).read hj
  · intro j k inv inv' hj hk heq
    -- the new writer comes after all others
    by_cases hij : j = i <;> by_cases hik : k = i
    · rw [hij, hik]
    · subst hij
      rw [Function.update_of_ne hik] at hk
      rw [Function.update_self, Function.update_of_ne hik] at heq
      exact absurd heq (Nat.ne_of_gt (h.lt hk))
    · subst hik
      rw [Function.update_of_ne hij] at hj
      rw [Function.update_self, Function.update_of_ne hij] at heq
      exact absurd heq (Nat.ne_of_lt (h.lt hj))
    · rw [Function.update_of_ne hij] at hj heq
      rw [Function.update_of_ne hik] at hk heq
      exact h.apart hj hk heq

/-- The writer of watcher `i` moves on, and the watcher holds the invoice no longer. -/
theorem Readers.set (h : Readers held writing reader) {i : Nat} {inv : InvoiceDoc}
    (hi : held i = some inv) (l : Writer) :
    Readers (Function.update held i none) (writing.set (reader i) l) reader := by
  refine ⟨?_, (h.drop i).apart⟩
  intro j inv' hj
  obtain ⟨hij, hj⟩ := update_none_eq_some.mp hj
  have hne : reader i ≠ reader j := by
    intro heq
    exact hij (h.apart hi hj heq).symm
  rw [List.getElem?_set_ne hne]
  exact h.read hj

end Readers

/-- A configuration of the writers of an invoice for what is stored of it and what the watchers
hold. -/
structure Mirrors (doc : InvoiceDoc) (held : Nat → Option InvoiceDoc)
    (c : Config InvoiceDoc Writer) : Prop where
  shared : c.shared = doc
  readers : ∃ reader, Readers held c.locals reader

section Mirrors

variable {doc : InvoiceDoc} {held : Nat → Option InvoiceDoc} {c : Config InvoiceDoc Writer}

theorem mirrors_new (doc : InvoiceDoc) : Mirrors doc (fun _ => none) ⟨doc, []⟩ := by
  refine ⟨rfl, fun _ => 0, ?_, ?_⟩
  · intro j inv h
    cases h
  · intro j k inv inv' h
    cases h

/-- A watcher that loads the invoice is a new tick that reads it. -/
theorem Mirrors.read (h : Mirrors doc held c) (i : Nat) (hswept : doc.sweptAt = none)
    (hwatch : doc.state ∈ WATCH_STATES) : ∃ c', Run writers c c' ∧
      Mirrors doc (Function.update held i (some doc)) c' := by
  obtain ⟨shared, writing⟩ := c
  obtain rfl : shared = doc := h.shared
  obtain ⟨reader, hreaders⟩ := h.readers
  have hread : Step writers ⟨shared, writing ++ [.tick]⟩
      ⟨shared, (writing ++ [Writer.tick]).set writing.length (.read shared)⟩ :=
    .act _ List.getElem?_concat_length (WriterStep.read hswept hwatch)
  rw [List.set_append_right _ _ le_rfl, Nat.sub_self] at hread
  exact ⟨⟨shared, writing ++ [.read shared]⟩, .head (.spawn Writer.tick (Or.inl rfl)) (.single hread),
    rfl, _, hreaders.concat i shared⟩

/-- A watcher that updates the invoice is its writer that decides and writes. -/
theorem Mirrors.decide (h : Mirrors doc held c) {i : Nat} {settings : Settings} {node : Node}
    {inv : InvoiceDoc} {utxos : List Utxo} {now : Datetime} {d : Decision}
    (hi : held i = some inv) (hd : decideInvoice settings node inv utxos now = .ok d)
    (hints : d.ints.all bsonInt64 = true) : ∃ c', Run writers c c' ∧
      Mirrors (persistDoc inv.state d now doc) (Function.update held i none) c' := by
  obtain ⟨shared, writing⟩ := c
  obtain rfl : shared = doc := h.shared
  obtain ⟨reader, hreaders⟩ := h.readers
  have hdecide : Step writers ⟨shared, writing⟩
      ⟨shared, writing.set (reader i) (.decided inv d now)⟩ :=
    .act _ (hreaders.read hi) (WriterStep.decide settings node utxos now hd)
  have hwrite : Step writers ⟨shared, writing.set (reader i) (.decided inv d now)⟩
      ⟨persistDoc inv.state d now shared,
        (writing.set (reader i) (.decided inv d now)).set (reader i) .finished⟩ :=
    .act _ (List.getElem?_set_self (hreaders.lt hi)) (WriterStep.write hints)
  rw [List.set_set] at hwrite
  exact ⟨_, .tail (.single hdecide) hwrite, rfl, reader, hreaders.set hi .finished⟩

/-- The update of a cancel request is one of a new writer, if it matches. -/
theorem Mirrors.cancel (h : Mirrors doc held c) (now : Datetime) : ∃ c', Run writers c c' ∧
    Mirrors (if cancelable doc = true then cancelDoc now doc else doc) held c' := by
  obtain ⟨shared, writing⟩ := c
  obtain rfl : shared = doc := h.shared
  obtain ⟨reader, hreaders⟩ := h.readers
  split_ifs with hc
  · have hcancel : Step writers ⟨shared, writing ++ [.cancel now]⟩
        ⟨cancelDoc now shared, (writing ++ [Writer.cancel now]).set writing.length .canceled⟩ :=
      .act _ List.getElem?_concat_length (WriterStep.cancel hc)
    rw [List.set_append_right _ _ le_rfl, Nat.sub_self] at hcancel
    exact ⟨_, .head (.spawn (Writer.cancel now) (Or.inr ⟨now, rfl⟩)) (.single hcancel), rfl, reader,
      hreaders.append _⟩
  · exact ⟨_, .refl, h⟩

theorem Mirrors.touch (h : Mirrors doc held c) {i : Nat} {doc' : InvoiceDoc}
    {held' : Option InvoiceDoc} (htouch : Touch doc (held i) doc' held') :
    ∃ c', Run writers c c' ∧ Mirrors doc' (Function.update held i held') c' := by
  generalize hi : held i = here at htouch
  cases htouch with
  | keep =>
      rw [← hi, Function.update_eq_self]
      exact ⟨c, .refl, h⟩
  | read hswept hwatch => exact h.read i hswept hwatch
  | drop => exact ⟨c, .refl, h.shared, h.readers.imp (fun _ hr => hr.drop i)⟩
  | decide hd hints => exact h.decide hi hd hints

end Mirrors

/-! ## Runs of the deployment -/

/-- What the watchers of the deployment hold of an invoice. -/
def Deployment.held (id : ObjectId) (s : Deployment) (j : Nat) : Option InvoiceDoc :=
  (s.watchers j).2.held id

def Deployment.Distinct (s : Deployment) : Prop := ∀ j, (s.watchers j).2.Distinct

section Run

variable (bip44 : Bip44) {s : Deployment} {id : ObjectId}

theorem Deployment.distinct_act (h : s.Distinct) (a : DeploymentAction) :
    (s.act bip44 a).Distinct := by
  intro j
  rcases s.watchers_move bip44 a j with hsame | ⟨input, settings, w', -, -, hmove⟩
  · rw [hsame]
    exact h j
  · exact hmove.distinct (h j)

/-- **One step.** What an action does to a stored invoice, and to what is held of it, its writers
can do. -/
theorem Deployment.mirrors_act (hdistinct : s.Distinct) {doc : InvoiceDoc}
    {c : Config InvoiceDoc Writer} (hdoc : s.service.db.invoices.lookup id = some doc)
    (h : Mirrors doc (s.held id) c) (a : DeploymentAction) :
    ∃ doc' c', (s.act bip44 a).service.db.invoices.lookup id = some doc' ∧
      Run writers c c' ∧ Mirrors doc' ((s.act bip44 a).held id) c' := by
  cases a with
  | serve a =>
      refine ⟨doc, c, ?_, .refl, h⟩
      show (s.service.act bip44 a).db.invoices.lookup id = some doc
      exact (Service.act_move bip44 s.service a).lookup hdoc
  | cancel j now =>
      by_cases hj : id = j
      · subst hj
        obtain ⟨c', hrun, h'⟩ := h.cancel now
        refine ⟨_, c', ?_, hrun, h'⟩
        show (cancelUpdate s.service.db.invoices id now).lookup id = _
        unfold cancelUpdate
        rw [Collection.lookup_updateIf_self, hdoc]
        rfl
      · refine ⟨doc, c, ?_, .refl, h⟩
        show (cancelUpdate s.service.db.invoices j now).lookup id = some doc
        unfold cancelUpdate
        rw [Collection.lookup_updateIf_of_ne hj, hdoc]
  | watch i input =>
      cases hruns : s.runs i with
      | none =>
          rw [Deployment.act_watch_none hruns]
          exact ⟨doc, c, hdoc, .refl, h⟩
      | some settings =>
          obtain ⟨w', phase', hmove, hact⟩ := Deployment.act_watch_move bip44 hruns input
          obtain ⟨doc', hdoc', htouch⟩ := hmove.touch (hdistinct i) hdoc
          obtain ⟨c', hrun, h'⟩ := h.touch htouch
          have hheld : (s.act bip44 (.watch i input)).held id
              = Function.update (s.held id) i (phase'.held id) := by
            funext j
            rw [hact]
            exact Function.apply_update
              (fun _ (r : WatcherState × TickPhase) => r.2.held id) s.watchers i _ j
          rw [hheld, hact]
          exact ⟨doc', c', hdoc', hrun, h'⟩

/-- Writers that have come as far as a stored invoice can go on as the deployment does. -/
theorem Deployment.mirrors_run (hdistinct : s.Distinct) {doc : InvoiceDoc}
    {c : Config InvoiceDoc Writer} (hdoc : s.service.db.invoices.lookup id = some doc)
    (h : Mirrors doc (s.held id) c) (actions : List DeploymentAction) :
    ∃ doc' c', (run (Deployment.act bip44) s actions).service.db.invoices.lookup id = some doc' ∧
      Run writers c c' ∧ Mirrors doc' ((run (Deployment.act bip44) s actions).held id) c' := by
  induction actions generalizing s doc c with
  | nil => exact ⟨doc, c, hdoc, .refl, h⟩
  | cons a rest ih =>
      obtain ⟨next, c₁, hnext, hfirst, h₁⟩ := Deployment.mirrors_act bip44 hdistinct hdoc h a
      obtain ⟨doc', c', hdoc', hrest, h'⟩ := ih (Deployment.distinct_act bip44 hdistinct a) hnext h₁
      exact ⟨doc', c', hdoc', hfirst.trans hrest, h'⟩

end Run

/-- Every stored invoice has come about by a run of its writers from a new document. -/
structure Deployment.Written (s : Deployment) : Prop where
  distinct : s.Distinct
  /-- What is held is stored. -/
  holds : ∀ j id inv, (id, inv) ∈ (s.watchers j).2.batch →
    ∃ doc, s.service.db.invoices.lookup id = some doc
  builds : ∀ (n : Nat) r, s.service.requests[n]? = some r → BuildsNew r
  runs : ∀ id doc, s.service.db.invoices.lookup id = some doc →
    ∃ settings body pricing address derivation created c,
      Run writers ⟨newInvoice settings body pricing address derivation created, []⟩ c ∧
        Mirrors doc (s.held id) c

theorem written_empty : Deployment.empty.Written where
  distinct := fun j => .nil
  holds := by
    intro j id inv h
    cases h
  builds := by
    intro n r h
    cases h
  runs := by
    intro id doc h
    cases h

/-- What is held after an action was stored before it. -/
theorem Deployment.Written.stored_of_held (bip44 : Bip44) {s : Deployment} (h : s.Written)
    {a : DeploymentAction} {j : Nat} {id : ObjectId} {inv : InvoiceDoc}
    (hmem : (id, inv) ∈ ((s.act bip44 a).watchers j).2.batch) :
    ∃ doc, s.service.db.invoices.lookup id = some doc := by
  rcases s.watchers_move bip44 a j with hsame | ⟨input, settings, w', -, -, hmove⟩
  · rw [hsame] at hmem
    exact h.holds j id inv hmem
  · rcases hmove.mem_batch hmem with hold | ⟨hnew, -⟩
    · exact h.holds j id inv hold
    · exact ⟨inv, hnew⟩

/-- An invoice that is stored by an action is held by nobody yet. -/
theorem Deployment.Written.held_none (bip44 : Bip44) {s : Deployment} (h : s.Written)
    (a : DeploymentAction) {id : ObjectId} (hnone : s.service.db.invoices.lookup id = none) :
    (s.act bip44 a).held id = fun _ => none := by
  funext j
  cases hheld : (s.act bip44 a).held id j with
  | none => rfl
  | some inv =>
      obtain ⟨before, after, hbatch, -⟩ := List.lookup_eq_some_iff.mp hheld
      have hmem : (id, inv) ∈ ((s.act bip44 a).watchers j).2.batch := by
        rw [hbatch]
        exact List.mem_append_right _ List.mem_cons_self
      obtain ⟨doc, hdoc⟩ := h.stored_of_held bip44 hmem
      rw [hnone] at hdoc
      cases hdoc

theorem Deployment.Written.act (bip44 : Bip44) {s : Deployment} (h : s.Written)
    (a : DeploymentAction) : (s.act bip44 a).Written where
  distinct := Deployment.distinct_act bip44 h.distinct a
  holds := by
    intro j id inv hmem
    obtain ⟨doc, hdoc⟩ := h.stored_of_held bip44 hmem
    obtain ⟨doc', hdoc', -⟩ := Deployment.lookup_act bip44 s a hdoc
    exact ⟨doc', hdoc'⟩
  builds := Deployment.buildsNew_act bip44 s a h.builds
  runs := by
    intro id doc' hdoc'
    cases hlook : s.service.db.invoices.lookup id with
    | some doc =>
        obtain ⟨settings, body, pricing, address, derivation, created, c, hrun, hc⟩ :=
          h.runs id doc hlook
        obtain ⟨next, c', hnext, hstep, hc'⟩ :=
          Deployment.mirrors_act bip44 h.distinct hlook hc a
        obtain rfl : doc' = next := Option.some.inj (hdoc'.symm.trans hnext)
        exact ⟨settings, body, pricing, address, derivation, created, c', hrun.trans hstep, hc'⟩
    | none =>
        rcases Deployment.stored_or_built bip44 s a hdoc' with ⟨old, hold, -⟩ | ⟨n, r, hr, hbuilt⟩
        · rw [hlook] at hold
          cases hold
        -- the document is new, and its first writers are still to come
        · obtain ⟨pricing, address, derivation, created, rfl⟩ := h.builds n r hr doc' hbuilt
          refine ⟨r.settings, r.body, pricing, address, derivation, created, _, .refl, ?_⟩
          rw [h.held_none bip44 a hlook]
          exact mirrors_new _

theorem Deployment.written_run (bip44 : Bip44) (actions : List DeploymentAction) :
    (run (Deployment.act bip44) .empty actions).Written :=
  run_invariant (fun _ a hs => hs.act bip44 a) written_empty actions

/-- **An invoice is what its writers make of it.** In every run of any number of processes, however
requests, boots, watchers and cancels interleave: what is stored of an invoice at one time and at a
later one are the documents of one run of its writers, from the document its request has built. -/
theorem invoice_run_of_writers (bip44 : Bip44) (before rest : List DeploymentAction)
    (id : ObjectId) (doc : InvoiceDoc)
    (hdoc : (run (Deployment.act bip44) .empty before).service.db.invoices.lookup id = some doc) :
    ∃ settings body pricing address derivation created c c',
      Run writers ⟨newInvoice settings body pricing address derivation created, []⟩ c ∧
        c.shared = doc ∧ Run writers c c' ∧
        (run (Deployment.act bip44) .empty (before ++ rest)).service.db.invoices.lookup id
          = some c'.shared := by
  have hwritten := Deployment.written_run bip44 before
  obtain ⟨settings, body, pricing, address, derivation, created, c, hrun, hc⟩ :=
    hwritten.runs id doc hdoc
  obtain ⟨doc', c', hdoc', hrun', hc'⟩ :=
    Deployment.mirrors_run bip44 hwritten.distinct hdoc hc rest
  refine ⟨settings, body, pricing, address, derivation, created, c, c', hrun, hc.shared, hrun', ?_⟩
  rw [run_append, hc'.shared]
  exact hdoc'

/-- An invoice that is created and then canceled. -/
def fileCanceled : List DeploymentAction := fileActions.map .serve ++ [.cancel 1 0]

theorem lookup_fileDeployed :
    (run (Deployment.act fileKeys) .empty (fileActions.map .serve)).service.db.invoices.lookup 1
      = some fileInvoice := by
  rw [Deployment.run_serve]
  exact lookup_fileActions

theorem lookup_fileCanceled :
    (run (Deployment.act fileKeys) .empty fileCanceled).service.db.invoices.lookup 1
      = some (cancelDoc 0 fileInvoice) := by
  rw [fileCanceled, run_append]
  show (cancelUpdate _ 1 0).lookup 1 = _
  unfold cancelUpdate
  rw [Collection.lookup_updateIf_self, lookup_fileDeployed]
  rfl

theorem invoice_run_of_writers_canceled : ∃ c c', c.shared = fileInvoice ∧ Run writers c c' ∧
    c'.shared = cancelDoc 0 fileInvoice := by
  obtain ⟨_, _, _, _, _, _, c, c', -, hc, hrun, hdoc⟩ := invoice_run_of_writers fileKeys
    (fileActions.map .serve) [.cancel 1 0] 1 fileInvoice lookup_fileDeployed
  have hcanceled := lookup_fileCanceled
  rw [fileCanceled, hdoc] at hcanceled
  exact ⟨c, c', hc, hrun, Option.some.inj hcanceled⟩

/-! ## The life of an invoice -/

/-- A document that has been credited is final. -/
def CreditedFinal (doc : InvoiceDoc) : Prop :=
  doc.satsCredited ≠ none → doc.state.final = true

theorem WriterStep.creditedFinal {doc doc' : InvoiceDoc} {l l' : Writer}
    (h : WriterStep doc l doc' l') (hl : WriterOk doc l) (hdoc : CreditedFinal doc) :
    CreditedFinal doc' := by
  cases h with
  | read | skip | decide | abort | fail | refuse => exact hdoc
  | write =>
      unfold persistDoc
      split
      · exact hl.1.final_of_credit
      · exact hdoc
  | cancel hc =>
      -- what is cancelable is open, so nothing has been credited
      intro hcredit
      have hfinal := hdoc hcredit
      rw [(cancelable_iff.mp hc).1] at hfinal
      cases hfinal

theorem creditedFinal_of_run {settings : Settings} {body : InvoiceCreate} {pricing : Pricing}
    {address : String} {derivation : Derivation} {created : Datetime}
    {c : Config InvoiceDoc Writer}
    (h : Run writers ⟨newInvoice settings body pricing address derivation created, []⟩ c) :
    CreditedFinal c.shared := by
  have hstrong := writers_inductive.strengthen (J := CreditedFinal)
    (fun _ hl hdoc hs => hs.creditedFinal hl hdoc)
  refine (Run.invariant hstrong h ⟨⟨docOk_newInvoice .., ?_⟩, ?_⟩).1.2
  · intro hcredit
    exact absurd rfl hcredit
  · intro l hl
    cases hl

/-- In every reachable state, the recorded rows of an invoice agree on first-seen times, and a
detected one has one in time. -/
theorem stored_docOk (bip44 : Bip44) (actions : List DeploymentAction) (id : ObjectId)
    (doc : InvoiceDoc)
    (hdoc : (run (Deployment.act bip44) .empty actions).service.db.invoices.lookup id = some doc) :
    DocOk doc := by
  obtain ⟨settings, body, pricing, address, derivation, created, c, hrun, hc⟩ :=
    (Deployment.written_run bip44 actions).runs id doc hdoc
  rw [← hc.shared]
  exact (holds_of_run (docOk_newInvoice ..) hrun).1

/-- **The life of an invoice.** In every run of any number of processes: what is stored of an invoice
never changes again once it is settled, overpaid, underpaid or credited, so that it is credited at
most once; an expired or canceled one keeps its state and is credited nothing; and a detected one
has an output in time and only ever becomes settled, overpaid or underpaid. -/
theorem stored_life_cycle (bip44 : Bip44) (before rest : List DeploymentAction) (id : ObjectId)
    (doc : InvoiceDoc)
    (hdoc : (run (Deployment.act bip44) .empty before).service.db.invoices.lookup id = some doc) :
    ∃ doc', (run (Deployment.act bip44) .empty (before ++ rest)).service.db.invoices.lookup id
        = some doc' ∧
      (doc.state = .SETTLED ∨ doc.state = .OVERPAID ∨ doc.state = .UNDERPAID ∨
        doc.satsCredited ≠ none → doc' = doc) ∧
      (doc.state = .EXPIRED ∨ doc.state = .CANCELED →
        doc'.state = doc.state ∧ doc'.satsCredited = none) ∧
      (doc.state = .DETECTED → SeenInTime doc.txids doc.expiresAt ∧
        (doc'.state = .DETECTED ∨ doc'.state = .SETTLED ∨ doc'.state = .OVERPAID ∨
          doc'.state = .UNDERPAID)) := by
  have hwritten := Deployment.written_run bip44 before
  obtain ⟨settings, body, pricing, address, derivation, created, c, hrun, hc⟩ :=
    hwritten.runs id doc hdoc
  obtain ⟨doc', c', hdoc', hlater, hc'⟩ :=
    Deployment.mirrors_run bip44 hwritten.distinct hdoc hc rest
  obtain rfl := hc.shared
  obtain rfl := hc'.shared
  have hholds : Holds DocOk WriterOk c := holds_of_run (docOk_newInvoice ..) hrun
  have hadvances : Advances c.shared c'.shared := advances_of_run hholds hlater
  have hmoves := hadvances.moves
  refine ⟨c'.shared, by rw [run_append]; exact hdoc', ?_, ?_, ?_⟩
  · intro hfinal
    refine hadvances.final ?_
    rcases hfinal with hs | hs | hs | hcredit
    · rw [hs]; rfl
    · rw [hs]; rfl
    · rw [hs]; rfl
    · exact creditedFinal_of_run hrun hcredit
  · intro hs
    have hstate : c'.shared.state = c.shared.state := by
      generalize c'.shared.state = state at hmoves
      rcases hs with hs | hs <;> rw [hs] at hmoves ⊢ <;> cases hmoves <;> rfl
    refine ⟨hstate, ?_⟩
    by_contra hcredit
    have hfinal := creditedFinal_of_run (hrun.trans hlater) hcredit
    rw [hstate] at hfinal
    rcases hs with hs | hs <;> rw [hs] at hfinal <;> cases hfinal
  · intro hs
    refine ⟨(stored_docOk bip44 before id _ hdoc).detected hs, ?_⟩
    rw [hs] at hmoves
    generalize c'.shared.state = state at hmoves
    cases hmoves with
    | keep => exact Or.inl rfl
    | detected hd => cases state <;> simp [DashInvoiceState.final] at hd ⊢

theorem stored_life_cycle_canceled : ∃ doc', (run (Deployment.act fileKeys) .empty
      (fileCanceled ++ [.cancel 1 7])).service.db.invoices.lookup 1 = some doc' ∧
    doc'.state = .CANCELED ∧ doc'.satsCredited = none := by
  obtain ⟨doc', hdoc', -, hcanceled, -⟩ :=
    stored_life_cycle fileKeys fileCanceled [.cancel 1 7] 1 _ lookup_fileCanceled
  exact ⟨doc', hdoc', hcanceled (Or.inr rfl)⟩

end V4vappDash
