import V4vappDash.System.Deployment
import V4vappDash.System.History
import V4vappDash.Watcher.Moves
import V4vappDash.Watcher.Rotation

set_option autoImplicit false

/-! # Progress

Requests, boots, cancels and the watchers of other processes interleave with the ticks of one
watcher, and invoices enter and leave the watch set between its pages. As long as the steps of
that one watcher do not fail, every invoice that stays watched is decided after a number of loads
that only depends on how many invoices are watched (`decided_within`). So money that covers the
quote in time is credited (`covered_invoice_credited`), and an invoice without any is expired
(`unpaid_invoice_expired`).
-/

namespace V4vappDash

open Keyset Machine

/-- The settings of the watcher of a process, if it runs one. -/
def Deployment.runs (s : Deployment) (i : Nat) : Option Settings :=
  match s.service.processes[i]? with
  | some ⟨settings, .serving _ _⟩ => if settings.watches then some settings else none
  | _ => none

/-- The collection and the watcher of a process. -/
def Deployment.watch (s : Deployment) (i : Nat) : Watch :=
  ⟨s.service.db.invoices, (s.watchers i).1⟩

/-- The `_id`s of the watch set when the watcher of process `i` loads a batch. -/
def Deployment.loads (i : Nat) (s : Deployment) : DeploymentAction → Option (List ObjectId)
  | .watch j input =>
      if j = i then
        match s.runs i, (s.watchers i).2, input.findError with
        | some _, .idle, none => some (watchSet s.service.db.invoices)
        | _, _, _ => none
      else none
  | _ => none

/-- If the watcher of process `i` takes this step, then it does not fail. -/
def Deployment.GoesOn (i : Nat) (s : Deployment) : DeploymentAction → Prop
  | .watch j input => j = i → ∀ settings ∈ s.runs i,
      (watchStep settings input (s.watch i) (s.watchers i).2).2 = .idle →
        (s.watchers i).2.Finished
  | _ => True

/-! ## A step of a watcher -/

section Step

variable {bip44 : Bip44} {s : Deployment} {i : Nat} {settings : Settings}

theorem Deployment.runs_eq_some (h : s.runs i = some settings) : settings.watches = true ∧
    ∃ material bootstrap,
      s.service.processes[i]? = some ⟨settings, .serving material bootstrap⟩ := by
  unfold Deployment.runs at h
  split at h
  · next own material bootstrap hp =>
      split_ifs at h with hwatches
      cases h
      exact ⟨hwatches, material, bootstrap, hp⟩
  · cases h

theorem Deployment.act_watch (h : s.runs i = some settings) (input : TickInput) :
    s.act bip44 (.watch i input) =
      { service := s.service.setInvoices
          (watchStep settings input (s.watch i) (s.watchers i).2).1.invoices
        watchers := Function.update s.watchers i
          ((watchStep settings input (s.watch i) (s.watchers i).2).1.watcher,
            (watchStep settings input (s.watch i) (s.watchers i).2).2) } := by
  obtain ⟨hwatches, material, bootstrap, hp⟩ := Deployment.runs_eq_some h
  unfold Deployment.act
  simp only [hp, hwatches, if_true]
  rfl

theorem Deployment.act_watch_none (h : s.runs i = none) (input : TickInput) :
    s.act bip44 (.watch i input) = s := by
  unfold Deployment.runs at h
  unfold Deployment.act
  split at h
  · next own material bootstrap hp =>
      split_ifs at h with hwatches
      simp only [hp, hwatches, Bool.false_eq_true, if_false]
  · next hp =>
      dsimp only
      split
      · next own material bootstrap hp' => exact absurd hp' (hp own material bootstrap)
      · rfl

/-- What a step of a watcher does to the deployment. -/
theorem Deployment.act_watch_move (bip44 : Bip44) (h : s.runs i = some settings)
    (input : TickInput) :
    ∃ w' phase', WatchMove settings input (s.watch i) (s.watchers i).2 w' phase' ∧
      s.act bip44 (.watch i input) =
        { service := s.service.setInvoices w'.invoices
          watchers := Function.update s.watchers i (w'.watcher, phase') } :=
  ⟨_, _, watchStep_move settings input (s.watch i) (s.watchers i).2, Deployment.act_watch h input⟩

/-- A step that does not fail ends the tick only when the batch has been decided. -/
theorem Deployment.GoesOn.finished (bip44 : Bip44) {input : TickInput}
    (h : s.GoesOn i (.watch i input)) (hruns : s.runs i = some settings)
    (hidle : ((s.act bip44 (.watch i input)).watchers i).2 = .idle) :
    (s.watchers i).2.Finished := by
  refine h rfl settings hruns ?_
  rw [Deployment.act_watch hruns] at hidle
  simpa only [Function.update_self] using hidle

theorem Deployment.runs_act (h : s.runs i = some settings) (a : DeploymentAction) :
    (s.act bip44 a).runs i = some settings := by
  obtain ⟨hwatches, material, bootstrap, hp⟩ := Deployment.runs_eq_some h
  have hp' : (s.act bip44 a).service.processes[i]?
      = some ⟨settings, .serving material bootstrap⟩ := by
    have hmove := Deployment.act_move bip44 s a
    generalize (s.act bip44 a).service = t at hmove
    cases hmove with
    | serve a => exact (Service.act_move bip44 s.service a).serving hp
    | update _ _ => exact hp
  unfold Deployment.runs
  simp only [hp', hwatches, if_true]

/-- The watcher of one process takes some steps with the same input. -/
theorem Deployment.run_watch (h : s.runs i = some settings) (input : TickInput) (n : Nat) :
    run (Deployment.act bip44) s (List.replicate n (.watch i input)) =
      { service := s.service.setInvoices
          ((watchNext settings input)^[n] (s.watch i, (s.watchers i).2)).1.invoices
        watchers := Function.update s.watchers i
          (((watchNext settings input)^[n] (s.watch i, (s.watchers i).2)).1.watcher,
            ((watchNext settings input)^[n] (s.watch i, (s.watchers i).2)).2) } := by
  induction n generalizing s with
  | zero =>
      show s = { service := s.service, watchers := Function.update s.watchers i (s.watchers i) }
      rw [Function.update_eq_self]
  | succ n ih =>
      have hnext : (s.act bip44 (.watch i input)).runs i = some settings :=
        Deployment.runs_act h _
      rw [List.replicate_succ, run_cons, ih hnext, Function.iterate_succ_apply,
        Deployment.act_watch h]
      unfold Deployment.watch
      simp only [Function.update_self, Function.update_idem]
      rfl

end Step

/-! ## No watched invoice waits for ever -/

section Rank

variable {s : Deployment} {i : Nat} {settings : Settings}

theorem loads_idle (h : s.runs i = some settings) {input : TickInput}
    (hphase : (s.watchers i).2 = .idle) (hfind : input.findError = none) :
    s.loads i (.watch i input) = some (watchSet s.service.db.invoices) := by
  unfold Deployment.loads
  simp only [h, hphase, hfind, if_true]

theorem loads_busy {input : TickInput} (hphase : (s.watchers i).2 ≠ .idle) :
    s.loads i (.watch i input) = none := by
  unfold Deployment.loads
  simp only [if_true]
  split
  · next hidle _ => exact absurd hidle hphase
  · rfl

theorem mem_loads {a : DeploymentAction} {rows : List ObjectId} (h : rows ∈ s.loads i a) :
    rows = watchSet s.service.db.invoices := by
  unfold Deployment.loads at h
  split at h
  · split_ifs at h
    · split at h
      · exact (Option.some.inj h).symm
      · cases h
    · cases h
  · cases h

theorem loads_of_ne {a : DeploymentAction} (h : ∀ input, a ≠ .watch i input) :
    s.loads i a = none := by
  cases a with
  | serve _ | cancel _ _ => rfl
  | watch j input =>
      refine if_neg ?_
      rintro rfl
      exact h input rfl

/-- Only its own steps move the watcher of a process. -/
theorem watchers_act {bip44 : Bip44} {a : DeploymentAction} (h : ∀ input, a ≠ .watch i input) :
    (s.act bip44 a).watchers i = s.watchers i := by
  cases a with
  | serve _ | cancel _ _ => rfl
  | watch j input =>
      have hne : i ≠ j := by
        rintro rfl
        exact h input rfl
      cases hruns : s.runs j with
      | none => rw [Deployment.act_watch_none hruns]
      | some own =>
          rw [Deployment.act_watch hruns]
          exact Function.update_of_ne hne _ _

/-- A watcher stays where it is, or makes a move. -/
theorem Deployment.watchers_move (bip44 : Bip44) (s : Deployment) (a : DeploymentAction) (j : Nat) :
    (s.act bip44 a).watchers j = s.watchers j ∨
      ∃ input settings w', a = .watch j input ∧ s.runs j = some settings ∧
        WatchMove settings input (s.watch j) (s.watchers j).2 w'
          ((s.act bip44 a).watchers j).2 := by
  by_cases hown : ∃ input, a = .watch j input
  · obtain ⟨input, rfl⟩ := hown
    cases hruns : s.runs j with
    | none => exact Or.inl (by rw [Deployment.act_watch_none hruns])
    | some settings =>
        obtain ⟨w', phase', hmove, hact⟩ := Deployment.act_watch_move bip44 hruns input
        refine Or.inr ⟨input, settings, w', rfl, rfl, ?_⟩
        rw [hact]
        simpa only [Function.update_self] using hmove
  · exact Or.inl (watchers_act (fun input heq => hown ⟨input, heq⟩))

/-- The watcher of process `i` is about to decide the invoice. -/
def Deployment.Decides (i : Nat) (id : ObjectId) (s : Deployment) (a : DeploymentAction) : Prop :=
  ∃ input now utxosFor inv rest, a = .watch i input ∧
    (s.watchers i).2 = .applying now utxosFor ((id, inv) :: rest)

/-- How many loads it takes until the invoice is decided: none when it has been read. -/
def Deployment.rank (i limit : Nat) (U : Finset ObjectId) (id : ObjectId) (s : Deployment) : Nat :=
  if id ∈ (s.watchers i).2.batch.map Prod.fst then 0
  else waiting limit U id (s.watchers i).1.lastId + 1

theorem Deployment.rank_of_same {limit : Nat} {U : Finset ObjectId} {id : ObjectId}
    {t : Deployment}
    (hbatch : id ∈ (t.watchers i).2.batch.map Prod.fst ↔ id ∈ (s.watchers i).2.batch.map Prod.fst)
    (hlast : (t.watchers i).1.lastId = (s.watchers i).1.lastId) :
    t.rank i limit U id = s.rank i limit U id := by
  unfold Deployment.rank
  rw [hlast]
  simp only [hbatch]

/-- Loading a batch that does not hold a watched invoice brings the watcher nearer to it. -/
theorem waiting_load {U : Finset ObjectId} {id : ObjectId} (hlimit : 1 ≤ settings.dashWatchBatch)
    (w : Watch) (hid : id ∈ watchSet w.invoices) (hU : ∀ k ∈ watchSet w.invoices, k ∈ U)
    (hnot : id ∉ batchIds w.invoices settings.dashWatchBatch w.watcher.lastId) :
    waiting settings.dashWatchBatch U id
        (w.afterLoad settings
          (loadBatch w.invoices settings.dashWatchBatch w.watcher.lastId)).watcher.lastId + 1
      ≤ waiting settings.dashWatchBatch U id w.watcher.lastId := by
  have hnext : (w.afterLoad settings
      (loadBatch w.invoices settings.dashWatchBatch w.watcher.lastId)).watcher.lastId
        = rotate settings.dashWatchBatch (watchSet w.invoices) w.watcher.lastId :=
    nextCursor_eq hlimit
  rw [hnext]
  refine (isPage_batchIds hlimit w).waiting_lt hlimit ?_ hU hid hnot
  rw [batchIds_eq hlimit]
  exact wrap_full (List.length_take_le _ _)

/-- **One step.** The invoice is decided, or every load leaves fewer to come. -/
theorem Deployment.rank_act (bip44 : Bip44) {U : Finset ObjectId} {id : ObjectId} {a : DeploymentAction}
    (hruns : s.runs i = some settings) (hlimit : 1 ≤ settings.dashWatchBatch)
    (hgoes : s.GoesOn i a)
    (hload : ∀ rows ∈ s.loads i a, id ∈ rows ∧ ∀ k ∈ rows, k ∈ U) :
    s.Decides i id a ∨
      (s.act bip44 a).rank i settings.dashWatchBatch U id + (s.loads i a).toList.length
        ≤ s.rank i settings.dashWatchBatch U id := by
  by_cases hown : ∃ input, a = .watch i input
  · obtain ⟨input, rfl⟩ := hown
    obtain ⟨w', phase', hmove, hact⟩ := Deployment.act_watch_move bip44 hruns input
    have hwatcher : (s.act bip44 (.watch i input)).watchers i = (w'.watcher, phase') := by
      rw [hact]
      exact Function.update_self _ _ _
    have hgoes := hgoes.finished bip44 hruns
    rw [hwatcher] at hgoes
    generalize hphase : (s.watchers i).2 = phase at hgoes hmove
    cases hmove with
    | load hfind =>
        rw [loads_idle hruns hphase hfind] at hload ⊢
        obtain ⟨hid, hU⟩ := hload _ rfl
        right
        have hhere : s.rank i settings.dashWatchBatch U id
            = waiting settings.dashWatchBatch U id (s.watchers i).1.lastId + 1 := by
          unfold Deployment.rank
          rw [hphase]
          exact if_neg nofun
        rw [hhere]
        unfold Deployment.rank
        rw [hwatcher]
        dsimp only [Option.toList, List.length_singleton]
        split_ifs with hread
        · exact Nat.le_add_left _ _
        · exact Nat.succ_le_succ (waiting_load hlimit (s.watch i) hid hU hread)
    | answer hraw =>
        right
        rw [loads_busy (by rw [hphase]; exact nofun), Deployment.rank_of_same (s := s)]
        · exact le_rfl
        · rw [hwatcher, hphase]
          exact Iff.rfl
        · rw [hwatcher]
          exact rfl
    | @update now utxosFor j inv rest d w' hd hinvoices hlast =>
        by_cases hj : j = id
        · subst hj
          exact Or.inl ⟨input, now, utxosFor, inv, rest, rfl, hphase⟩
        · right
          rw [loads_busy (by rw [hphase]; exact nofun), Deployment.rank_of_same (s := s)]
          · exact le_rfl
          · rw [hwatcher, hphase]
            show id ∈ rest.map Prod.fst ↔ id ∈ j :: rest.map Prod.fst
            rw [List.mem_cons, or_iff_right (Ne.symm hj)]
          · rw [hwatcher]
            exact hlast
    | finish hfinished hinvoices hlast =>
        obtain ⟨now, utxosFor, rfl⟩ := hfinished
        right
        rw [loads_busy (by rw [hphase]; exact nofun), Deployment.rank_of_same (s := s)]
        · exact le_rfl
        · rw [hwatcher, hphase]
          exact Iff.rfl
        · rw [hwatcher]
          exact hlast
    | fail hnot _ _ => exact absurd (hgoes rfl) hnot
  · have hne : ∀ input, a ≠ .watch i input := fun input heq => hown ⟨input, heq⟩
    right
    rw [loads_of_ne hne, Deployment.rank_of_same (s := s) (by rw [watchers_act hne])
      (by rw [watchers_act hne])]
    exact le_rfl

end Rank

/-- The number of loads after which every watched invoice has been decided. -/
theorem Deployment.rank_le {s : Deployment} {i limit : Nat} {U : Finset ObjectId} {id : ObjectId}
    (hid : id ∈ U) : s.rank i limit U id ≤ (U.card - 1) / limit + 2 := by
  unfold Deployment.rank
  split_ifs
  · exact Nat.zero_le _
  · exact Nat.succ_le_succ (waiting_le hid _)

/-- The watch sets of a run, load by load. -/
def Deployment.allLoads (bip44 : Bip44) (i : Nat) (s : Deployment)
    (actions : List DeploymentAction) : List (List ObjectId) :=
  outputs (Deployment.act bip44) (Deployment.loads i) s actions

/-- What holds of every watch set of a run holds of each where it is loaded. -/
theorem along_loads {bip44 : Bip44} {s : Deployment} {i : Nat} {actions : List DeploymentAction}
    {P : List ObjectId → Prop} (h : ∀ rows ∈ s.allLoads bip44 i actions, P rows) :
    Along (Deployment.act bip44) (fun t a => ∀ rows ∈ t.loads i a, P rows) s actions := by
  rw [along_iff_split]
  rintro before a after rfl rows hrows
  exact h rows (mem_outputs hrows)

/-- **No watched invoice waits for ever.** In every run of the deployment in which the steps of one
watcher do not fail, whatever boots, requests, cancels and other watchers do in between: an invoice
that is in the watch set at each of its loads is decided by it, at the latest in the tick of the
load whose number is the one in `hmany`. -/
theorem decided_within (bip44 : Bip44) (i : Nat) (settings : Settings) (s : Deployment)
    (hruns : s.runs i = some settings) (hlimit : 1 ≤ settings.dashWatchBatch) (id : ObjectId)
    (U : Finset ObjectId) (actions : List DeploymentAction)
    (hgoes : Along (Deployment.act bip44) (Deployment.GoesOn i) s actions)
    (hwatched : ∀ rows ∈ s.allLoads bip44 i actions, id ∈ rows ∧ ∀ k ∈ rows, k ∈ U)
    (hmany : (U.card - 1) / settings.dashWatchBatch + 2 < (s.allLoads bip44 i actions).length) :
    ∃ before input after now utxosFor inv rest, actions = before ++ .watch i input :: after ∧
      ((run (Deployment.act bip44) s before).watchers i).2
        = .applying now utxosFor ((id, inv) :: rest) := by
  obtain ⟨rows, hrows⟩ := List.exists_mem_of_length_pos (Nat.zero_lt_of_lt hmany)
  have hid : id ∈ U := (hwatched rows hrows).2 id (hwatched rows hrows).1
  have hstep : ∀ (t : Deployment) (a : DeploymentAction), t.runs i = some settings →
      t.GoesOn i a ∧ (∀ rows ∈ t.loads i a, id ∈ rows ∧ ∀ k ∈ rows, k ∈ U) →
      t.Decides i id a ∨ ((t.act bip44 a).runs i = some settings ∧
        (t.act bip44 a).rank i settings.dashWatchBatch U id + (t.loads i a).toList.length
          ≤ t.rank i settings.dashWatchBatch U id) := by
    intro t a ht hok
    rcases Deployment.rank_act bip44 ht hlimit hok.1 hok.2 with hdecides | hrank
    · exact Or.inl hdecides
    · exact Or.inr ⟨Deployment.runs_act ht a, hrank⟩
  obtain ⟨before, a, after, rfl, -, input, now, utxosFor, inv, rest, rfl, hphase⟩ :=
    (hgoes.and (along_loads hwatched)).reaches hstep hruns
      (lt_of_le_of_lt (Deployment.rank_le hid) hmany)
  exact ⟨before, input, after, now, utxosFor, inv, rest, rfl, hphase⟩

/-! ## Verdicts -/

/-- Every version of the invoice in the hands of a watcher is a watched one and as `P` says. -/
def Deployment.Held (id : ObjectId) (P : InvoiceDoc → Prop) (s : Deployment) : Prop :=
  ∀ j inv, (id, inv) ∈ (s.watchers j).2.batch → inv.state ∈ WATCH_STATES ∧ P inv

def Deployment.Stored (id : ObjectId) (P : InvoiceDoc → Prop) (s : Deployment) : Prop :=
  ∃ doc, s.service.db.invoices.lookup id = some doc ∧ P doc

/-- Whenever a watcher comes to decide the invoice as `doc`, the time and the outputs it decides on
are as `ok` says. -/
def Deployment.Sees (id : ObjectId) (doc : InvoiceDoc)
    (ok : Datetime → List WatchedOutput → Prop) (s : Deployment) : DeploymentAction → Prop
  | .watch j input => ∀ settings ∈ s.runs j, ∀ now utxosFor rest,
      (s.watchers j).2 = .applying now utxosFor ((id, doc) :: rest) →
      ∀ fresh, freshOutputs settings input.node now (utxosFor doc.address) = .ok fresh →
        ok now (mergeOutputs doc.txids fresh)
  | _ => True

theorem Deployment.Sees.mono {id : ObjectId} {doc : InvoiceDoc}
    {ok ok' : Datetime → List WatchedOutput → Prop} {s : Deployment} {a : DeploymentAction}
    (h : s.Sees id doc ok a)
    (himp : ∀ now fresh, ok now (mergeOutputs doc.txids fresh) →
      ok' now (mergeOutputs doc.txids fresh)) : s.Sees id doc ok' a := by
  cases a with
  | serve a | cancel j t => trivial
  | watch j input =>
      intro settings hruns now utxosFor rest hphase fresh hfresh
      exact himp now fresh (h settings hruns now utxosFor rest hphase fresh hfresh)

/-- Where the outputs are as `ok` says, a decision on `doc` makes the document one of `Q`, and no
decision afterwards changes that. -/
structure Concludes (doc : InvoiceDoc) (ok : Datetime → List WatchedOutput → Prop)
    (Q : InvoiceDoc → Prop) : Prop where
  make : ∀ now outputs, ok now outputs →
    persistFilter doc.state (settle doc outputs now).state doc.state = true ∧
      Q ((settle doc outputs now).update now doc)
  keep : ∀ now fresh inv stored, inv.state ∈ WATCH_STATES → Q stored →
    (inv = doc ∧ ok now (mergeOutputs inv.txids fresh)) ∨ Q inv →
    persistFilter inv.state (settle inv (mergeOutputs inv.txids fresh) now).state stored.state
      = true →
    Q ((settle inv (mergeOutputs inv.txids fresh) now).update now stored)

section Concludes

variable {s : Deployment} {a : DeploymentAction} {id : ObjectId} {doc : InvoiceDoc}

/-- A tick reads an invoice as it is stored when its batch is loaded. -/
theorem WatchMove.mem_batch {settings : Settings} {input : TickInput} {w w' : Watch}
    {phase phase' : TickPhase} (h : WatchMove settings input w phase w' phase') {inv : InvoiceDoc}
    (hmem : (id, inv) ∈ phase'.batch) : (id, inv) ∈ phase.batch ∨
      (w.invoices.lookup id = some inv ∧ inv.state ∈ WATCH_STATES) := by
  cases h with
  | load _ => exact Or.inr ⟨(mem_loadBatch hmem).1, (mem_loadBatch hmem).2.2⟩
  | answer _ => exact Or.inl hmem
  | update _ _ _ => exact Or.inl (List.mem_cons_of_mem _ hmem)
  | finish _ _ _ | fail _ _ _ => cases hmem

theorem Deployment.held_act (bip44 : Bip44) {P : InvoiceDoc → Prop} (h : s.Held id P)
    (hstored : s.Stored id P) (a : DeploymentAction) : (s.act bip44 a).Held id P := by
  intro k inv hmem
  rcases s.watchers_move bip44 a k with hsame | ⟨input, settings, w', -, -, hmove⟩
  · rw [hsame] at hmem
    exact h k inv hmem
  · rcases hmove.mem_batch hmem with hold | ⟨hnew, hwatched⟩
    · exact h k inv hold
    · obtain ⟨stored, hlook, hP⟩ := hstored
      obtain rfl : stored = inv := Option.some.inj (hlook.symm.trans hnew)
      exact ⟨hwatched, hP⟩

/-- A cancel of the invoice that finds it as `P` says leaves it as `Q` says. -/
def CancelMakes (id : ObjectId) (P Q : InvoiceDoc → Prop) (a : DeploymentAction) : Prop :=
  ∀ t, a = .cancel id t → ∀ stored, P stored → cancelable stored = true → Q (cancelDoc t stored)

theorem CancelMakes.mono {P P' Q Q' : InvoiceDoc → Prop} (h : CancelMakes id P' Q' a)
    (hP : ∀ stored, P stored → P' stored) (hQ : ∀ stored, Q' stored → Q stored) :
    CancelMakes id P Q a :=
  fun t ha stored hstored hc => hQ _ (h t ha stored (hP stored hstored) hc)

theorem CancelMakes.of_ne {P Q : InvoiceDoc → Prop} (h : ∀ t, a ≠ .cancel id t) :
    CancelMakes id P Q a :=
  fun t ha => absurd ha (h t)

/-- What an action makes of a stored invoice: a request and a boot leave it alone, and a watcher may
update it by its decision. -/
theorem Deployment.stored_act (bip44 : Bip44) {P Q : InvoiceDoc → Prop} (h : s.Stored id P)
    (hkept : ∀ stored, P stored → Q stored) (hcancel : CancelMakes id P Q a)
    (hupdate : ∀ j input settings now utxosFor inv rest d stored, a = .watch j input →
      s.runs j = some settings → (s.watchers j).2 = .applying now utxosFor ((id, inv) :: rest) →
      decideInvoice settings input.node inv (utxosFor inv.address) now = .ok d → P stored →
      persistFilter inv.state d.state stored.state = true → Q (d.update now stored)) :
    (s.act bip44 a).Stored id Q := by
  obtain ⟨stored, hlook, hP⟩ := h
  cases a with
  | serve a =>
      refine ⟨stored, ?_, hkept stored hP⟩
      show (s.service.act bip44 a).db.invoices.lookup id = some stored
      exact (Service.act_move bip44 s.service a).lookup hlook
  | cancel j t =>
      show ∃ stored, (cancelUpdate s.service.db.invoices j t).lookup id = some stored ∧ Q stored
      refine Collection.exists_lookup_updateIf hlook (hkept stored hP) ?_
      rintro rfl hc
      exact hcancel t rfl stored hP hc
  | watch j input =>
      cases hruns : s.runs j with
      | none =>
          rw [Deployment.act_watch_none hruns]
          exact ⟨stored, hlook, hkept stored hP⟩
      | some settings =>
          obtain ⟨w', phase', hmove, hact⟩ := Deployment.act_watch_move bip44 hruns input
          rw [hact]
          generalize hphase : (s.watchers j).2 = phase at hmove
          show ∃ stored, w'.invoices.lookup id = some stored ∧ Q stored
          have hsame : w'.invoices = s.service.db.invoices →
              ∃ stored, w'.invoices.lookup id = some stored ∧ Q stored := by
            intro heq
            rw [heq]
            exact ⟨stored, hlook, hkept stored hP⟩
          cases hmove with
          | load _ | answer _ => exact hsame rfl
          | finish _ hinvoices _ | fail _ hinvoices _ => exact hsame hinvoices
          | @update now utxosFor k inv rest d w' hd hinvoices hlast =>
              rw [hinvoices]
              refine Collection.exists_lookup_updateIf hlook (hkept stored hP) ?_
              rintro rfl hfilter
              exact hupdate j input settings now utxosFor inv rest d stored rfl hruns hphase hd hP
                hfilter

/-- The step in which a watcher decides the invoice, when it does not fail. -/
theorem Deployment.act_decides (bip44 : Bip44) {i : Nat} {settings : Settings} {input : TickInput}
    (hruns : s.runs i = some settings) (hgoes : s.GoesOn i (.watch i input)) {now : Datetime}
    {utxosFor : String → List Utxo} {inv : InvoiceDoc} {rest : List (ObjectId × InvoiceDoc)}
    (hphase : (s.watchers i).2 = .applying now utxosFor ((id, inv) :: rest)) :
    ∃ d, decideInvoice settings input.node inv (utxosFor inv.address) now = .ok d ∧
      (s.act bip44 (.watch i input)).service.db.invoices.lookup id
        = (s.service.db.invoices.lookup id).map (persistDoc inv.state d now) := by
  have hgoes := hgoes.finished bip44 hruns
  obtain ⟨w', phase', hmove, hact⟩ := Deployment.act_watch_move bip44 hruns input
  rw [hact] at hgoes ⊢
  simp only [Function.update_self] at hgoes
  rw [hphase] at hgoes hmove
  cases hmove with
  | update hd hinvoices _ =>
      refine ⟨_, hd, ?_⟩
      show w'.invoices.lookup id = _
      rw [hinvoices]
      exact Collection.lookup_updateIf_self ..
  | finish hfinished _ _ =>
      obtain ⟨now', utxosFor', heq⟩ := hfinished
      cases heq
  | fail hnot _ _ => exact absurd (hgoes rfl) hnot

variable {ok : Datetime → List WatchedOutput → Prop} {Q : InvoiceDoc → Prop}

/-- The verdict has been reached. -/
structure Deployment.Reached (id : ObjectId) (doc : InvoiceDoc) (Q : InvoiceDoc → Prop)
    (s : Deployment) : Prop where
  held : s.Held id (fun inv => inv = doc ∨ Q inv)
  stored : s.Stored id Q

/-- The verdict is open: the invoice is stored as `doc`, and read as `doc` by whoever has read it. -/
structure Deployment.Waits (id : ObjectId) (doc : InvoiceDoc) (s : Deployment) : Prop where
  held : s.Held id (fun inv => inv = doc)
  stored : s.Stored id (fun stored => stored = doc)

theorem Concludes.reached_act (bip44 : Bip44) (h : Concludes doc ok Q) (hs : s.Reached id doc Q)
    (hcancel : CancelMakes id Q Q a) (hsees : s.Sees id doc ok a) :
    (s.act bip44 a).Reached id doc Q := by
  have heither : s.Stored id (fun inv => inv = doc ∨ Q inv) := by
    obtain ⟨stored, hlook, hQ⟩ := hs.stored
    exact ⟨stored, hlook, Or.inr hQ⟩
  refine ⟨Deployment.held_act bip44 hs.held heither a, ?_⟩
  refine Deployment.stored_act bip44 hs.stored (fun _ hQ => hQ) hcancel ?_
  rintro j input settings now utxosFor inv rest d stored rfl hruns hphase hd hQ hfilter
  obtain ⟨fresh, hfresh, -, rfl⟩ := decideInvoice_ok hd
  have hmem : (id, inv) ∈ (s.watchers j).2.batch := by
    rw [hphase]
    exact List.mem_cons_self
  obtain ⟨hwatched, hinv⟩ := hs.held j inv hmem
  refine h.keep now _ inv stored hwatched hQ ?_ hfilter
  rcases hinv with rfl | hinv
  · exact Or.inl ⟨rfl, hsees settings hruns now utxosFor rest hphase fresh hfresh⟩
  · exact Or.inr hinv

theorem Concludes.waits_act (bip44 : Bip44) (h : Concludes doc ok Q) (hs : s.Waits id doc)
    (hcancel : CancelMakes id (fun stored => stored = doc) Q a) (hsees : s.Sees id doc ok a) :
    (s.act bip44 a).Waits id doc ∨ (s.act bip44 a).Reached id doc Q := by
  have hheld := Deployment.held_act bip44 hs.held hs.stored a
  have hstored : (s.act bip44 a).Stored id (fun stored => stored = doc ∨ Q stored) := by
    refine Deployment.stored_act bip44 hs.stored (fun _ heq => Or.inl heq)
      (hcancel.mono (fun _ heq => heq) (fun _ => Or.inr)) ?_
    rintro j input settings now utxosFor inv rest d stored rfl hruns hphase hd rfl hfilter
    obtain ⟨fresh, hfresh, -, rfl⟩ := decideInvoice_ok hd
    have hmem : (id, inv) ∈ (s.watchers j).2.batch := by
      rw [hphase]
      exact List.mem_cons_self
    obtain ⟨-, rfl⟩ := hs.held j inv hmem
    exact Or.inr (h.make now _ (hsees settings hruns now utxosFor rest hphase fresh hfresh)).2
  obtain ⟨stored, hlook, rfl | hQ⟩ := hstored
  · exact Or.inl ⟨hheld, stored, hlook, rfl⟩
  · refine Or.inr ⟨?_, stored, hlook, hQ⟩
    intro j inv hmem
    exact ⟨(hheld j inv hmem).1, Or.inl (hheld j inv hmem).2⟩

theorem Concludes.decides_act (bip44 : Bip44) (h : Concludes doc ok Q) (hs : s.Waits id doc) {i : Nat}
    {settings : Settings} (hruns : s.runs i = some settings) (hgoes : s.GoesOn i a)
    (hsees : s.Sees id doc ok a) (hdecides : s.Decides i id a) :
    (s.act bip44 a).Stored id Q := by
  obtain ⟨input, now, utxosFor, inv, rest, rfl, hphase⟩ := hdecides
  have hmem : (id, inv) ∈ (s.watchers i).2.batch := by
    rw [hphase]
    exact List.mem_cons_self
  obtain ⟨-, rfl⟩ := hs.held i inv hmem
  obtain ⟨d, hd, hlook⟩ := Deployment.act_decides bip44 hruns hgoes hphase
  obtain ⟨fresh, hfresh, -, rfl⟩ := decideInvoice_ok hd
  obtain ⟨hfilter, hQ⟩ :=
    h.make now _ (hsees settings hruns now utxosFor rest hphase fresh hfresh)
  obtain ⟨stored, hstored, rfl⟩ := hs.stored
  rw [hstored, Option.map_some, persistDoc, if_pos hfilter] at hlook
  exact ⟨_, hlook, hQ⟩

end Concludes

/-- **A verdict is reached.** -/
theorem Concludes.within {doc : InvoiceDoc} {ok : Datetime → List WatchedOutput → Prop}
    {Q : InvoiceDoc → Prop} (h : Concludes doc ok Q) {bip44 : Bip44} {i : Nat} {settings : Settings}
    {s : Deployment} {id : ObjectId} {U : Finset ObjectId} {actions : List DeploymentAction}
    (hruns : s.runs i = some settings) (hlimit : 1 ≤ settings.dashWatchBatch)
    (hs : s.Waits id doc) (hdoc : doc.state ∈ WATCH_STATES) (hswept : doc.sweptAt = none)
    (hgoes : Along (Deployment.act bip44) (Deployment.GoesOn i) s actions)
    (hcancel : ∀ a ∈ actions, CancelMakes id (fun stored => stored = doc ∨ Q stored) Q a)
    (hsees : Along (Deployment.act bip44) (Deployment.Sees id doc ok) s actions)
    (hid : id ∈ U) (hU : ∀ rows ∈ s.allLoads bip44 i actions, ∀ k ∈ rows, k ∈ U)
    (hmany : (U.card - 1) / settings.dashWatchBatch + 2 < (s.allLoads bip44 i actions).length) :
    (run (Deployment.act bip44) s actions).Stored id Q := by
  have hstep : ∀ (t : Deployment) (a : DeploymentAction),
      t.runs i = some settings ∧ t.Waits id doc →
      ((t.GoesOn i a ∧ ∀ rows ∈ t.loads i a, ∀ k ∈ rows, k ∈ U) ∧
          CancelMakes id (fun stored => stored = doc ∨ Q stored) Q a) ∧ t.Sees id doc ok a →
      (t.act bip44 a).Reached id doc Q ∨
        (((t.act bip44 a).runs i = some settings ∧ (t.act bip44 a).Waits id doc) ∧
          (t.act bip44 a).rank i settings.dashWatchBatch U id + (t.loads i a).toList.length
            ≤ t.rank i settings.dashWatchBatch U id) := by
    rintro t a ⟨ht, hwaits⟩ ⟨⟨⟨hgoes, hU⟩, hcancel⟩, hsees⟩
    have hload : ∀ rows ∈ t.loads i a, id ∈ rows ∧ ∀ k ∈ rows, k ∈ U := by
      intro rows hrows
      obtain ⟨stored, hlook, rfl⟩ := hwaits.stored
      refine ⟨?_, hU rows hrows⟩
      rw [mem_loads hrows]
      exact mem_watchSet.mpr ⟨_, hlook, hswept, hdoc⟩
    rcases h.waits_act bip44 hwaits (hcancel.mono (fun _ => Or.inl) (fun _ hQ => hQ)) hsees with hnext | hreached
    · rcases Deployment.rank_act bip44 ht hlimit hgoes hload with hdecides | hrank
      · -- the watcher decides the invoice in this step
        obtain ⟨stored, hlook, hQ⟩ := h.decides_act bip44 hwaits ht hgoes hsees hdecides
        refine Or.inl ⟨?_, stored, hlook, hQ⟩
        intro j inv hmem
        exact ⟨(hnext.held j inv hmem).1, Or.inl (hnext.held j inv hmem).2⟩
      · exact Or.inr ⟨⟨Deployment.runs_act ht a, hnext⟩, hrank⟩
    · exact Or.inl hreached
  have hcancel : Along (Deployment.act bip44)
      (fun _ a => CancelMakes id (fun stored => stored = doc ∨ Q stored) Q a) s actions :=
    along_of_mem (fun a ha _ => hcancel a ha)
  have hall := ((hgoes.and (along_loads hU)).and hcancel).and hsees
  obtain ⟨before, a, after, rfl, -, hreached⟩ :=
    hall.reaches hstep ⟨hruns, hs⟩ (lt_of_le_of_lt (Deployment.rank_le hid) hmany)
  -- what has been reached stays
  have hstays : ∀ (t : Deployment) (b : DeploymentAction), t.Reached id doc Q →
      CancelMakes id (fun stored => stored = doc ∨ Q stored) Q b ∧ t.Sees id doc ok b →
      (t.act bip44 b).Reached id doc Q :=
    fun t b ht hb => h.reached_act bip44 ht (hb.1.mono (fun _ => Or.inr) (fun _ hQ => hQ)) hb.2
  rw [run_append, run_cons]
  exact ((along_append.mp (hcancel.and hsees)).2.2.invariant hstays hreached).stored

/-! ## Money that covers the quote -/

/-- The outputs first seen in time that satisfy the policy pay the quote, up to the tolerance. -/
structure InvoiceDoc.CoveredBy (doc : InvoiceDoc) (outputs : List WatchedOutput) : Prop where
  inTime : preExpiry doc.expiresAt.val outputs ≠ []
  enough : doc.duffsQuoted - (doc.policy.getD {}).tolerance doc.duffsQuoted
    ≤ sumDuffs (qualifying (doc.policy.getD {}) (preExpiry doc.expiresAt.val outputs))

/-- What is credited for `doc`. -/
structure InvoiceDoc.CreditedAs (doc doc' : InvoiceDoc) : Prop where
  state : doc'.state = .SETTLED ∨ doc'.state = .OVERPAID
  sats : doc'.satsCredited = some doc.satsRequested
  settled : doc'.settledAt.isSome = true

/-- A decision on a watched document is never stored over a final one. -/
theorem persistFilter_final {prev decided stored : DashInvoiceState} (hprev : prev ∈ WATCH_STATES)
    (hstored : stored.final = true) : persistFilter prev decided stored = false := by
  revert hprev hstored
  cases decided <;> cases prev <;> cases stored <;> decide

theorem concludes_credited {doc : InvoiceDoc} (hopen : doc.state = .OPEN ∨ doc.state = .DETECTED) :
    Concludes doc (fun _ outputs => doc.CoveredBy outputs) doc.CreditedAs where
  make := by
    intro now outputs hcovered
    cases settle_watching outputs now hopen with
    | expired hpre | waiting hpre => exact absurd hpre hcovered.inTime
    | pending _ _ hshort | underpaid _ _ hshort => exact absurd hcovered.enough (not_le.mpr hshort)
    | credited _ _ hstate _ hsettled hcredit =>
        have hpaid : (settle doc outputs now).state = .SETTLED ∨
            (settle doc outputs now).state = .OVERPAID := by
          rw [hstate]
          split_ifs
          · exact Or.inr rfl
          · exact Or.inl rfl
        refine ⟨?_, hpaid, hcredit, ?_⟩
        · rcases hpaid with hs | hs <;> rcases hopen with ho | ho <;> rw [hs, ho] <;> decide
        · show ((settle doc outputs now).settledAt.map Datetime.stored).isSome = true
          rw [hsettled]
          rfl
  keep := by
    intro now fresh inv stored hwatched hpaid _ hfilter
    have hfinal : stored.state.final = true := by
      rcases hpaid.state with hs | hs <;> rw [hs] <;> rfl
    rw [persistFilter_final hwatched hfinal] at hfilter
    cases hfilter

/-- **Money that covers the quote is credited.** In every run of the deployment in which the steps
of one watcher do not fail and nobody cancels the invoice: when every watcher that comes to decide
it knows of outputs that cover the quote, it is credited after the loads of `hmany`, and stays so. -/
theorem covered_invoice_credited (bip44 : Bip44) (i : Nat) (settings : Settings) (s : Deployment)
    (hruns : s.runs i = some settings) (hlimit : 1 ≤ settings.dashWatchBatch) (id : ObjectId)
    (doc : InvoiceDoc) (hdoc : s.service.db.invoices.lookup id = some doc)
    (hopen : doc.state = .OPEN ∨ doc.state = .DETECTED) (hswept : doc.sweptAt = none)
    (hread : ∀ j inv, (id, inv) ∈ (s.watchers j).2.batch → inv = doc)
    (U : Finset ObjectId) (hid : id ∈ U) (actions : List DeploymentAction)
    (hgoes : Along (Deployment.act bip44) (Deployment.GoesOn i) s actions)
    (hcancel : ∀ a ∈ actions, ∀ t, a ≠ .cancel id t)
    (hcovered : Along (Deployment.act bip44)
      (Deployment.Sees id doc (fun _ outputs => doc.CoveredBy outputs)) s actions)
    (hU : ∀ rows ∈ s.allLoads bip44 i actions, ∀ k ∈ rows, k ∈ U)
    (hmany : (U.card - 1) / settings.dashWatchBatch + 2 < (s.allLoads bip44 i actions).length) :
    ∃ doc', (run (Deployment.act bip44) s actions).service.db.invoices.lookup id = some doc' ∧
      doc.CreditedAs doc' := by
  have hwatched : doc.state ∈ WATCH_STATES := mem_WATCH_STATES.mpr (Or.inl hopen)
  refine (concludes_credited hopen).within hruns hlimit ⟨?_, doc, hdoc, rfl⟩ hwatched hswept hgoes
    (fun a ha => .of_ne (hcancel a ha)) hcovered hid hU hmany
  intro j inv hmem
  obtain rfl := hread j inv hmem
  exact ⟨hwatched, rfl⟩

/-! ## No money in time -/

/-- What becomes of an invoice that nothing was paid for in time. -/
structure InvoiceDoc.ExpiredAs (doc doc' : InvoiceDoc) : Prop where
  state : doc'.state = .EXPIRED
  sats : doc'.satsCredited = none
  settled : doc'.settledAt = none

theorem concludes_expired {doc : InvoiceDoc} (hopen : doc.state = .OPEN) :
    Concludes doc (fun now outputs => doc.expiresAt.val ≤ now ∧
      preExpiry doc.expiresAt.val outputs = []) doc.ExpiredAs where
  make := by
    rintro now outputs ⟨hnow, hnil⟩
    cases settle_watching outputs now (Or.inl hopen) with
    | expired _ _ hstate _ hsettled hcredit =>
        refine ⟨by rw [hstate, hopen]; decide, hstate, hcredit, ?_⟩
        show (settle doc outputs now).settledAt.map Datetime.stored = none
        rw [hsettled]
        rfl
    | waiting _ hearly => exact absurd hnow (not_le.mpr hearly)
    | pending hpre | underpaid hpre | credited hpre => exact absurd hnil hpre
  keep := by
    rintro now fresh inv stored - hstored (⟨rfl, hnow, hnil⟩ | hinv) hfilter
    · -- a tick that has read the open invoice only expires it while it is open
      cases settle_watching (mergeOutputs inv.txids fresh) now (Or.inl hopen) with
      | expired _ _ hstate =>
          rw [hopen, hstate, hstored.state] at hfilter
          cases hfilter
      | waiting _ hearly => exact absurd hnow (not_le.mpr hearly)
      | pending hpre | underpaid hpre | credited hpre => exact absurd hnil hpre
    · have hkept := settle_keeps (mergeOutputs inv.txids fresh) now (Or.inl hinv.state)
      refine ⟨hkept.trans hinv.state, settle_keeps_credit _ now (Or.inl hinv.state), ?_⟩
      show (settle inv _ now).settledAt.map Datetime.stored = none
      rw [(settle_keeps_times _ now (Or.inl hinv.state)).2]
      rfl

/-- **An invoice without money in time expires.** In every run as above: when every watcher that
comes to decide an open invoice does so at or after `expires_at`, and knows of no output first seen
before, then it is expired after the loads of `hmany`, and stays so. -/
theorem unpaid_invoice_expired (bip44 : Bip44) (i : Nat) (settings : Settings) (s : Deployment)
    (hruns : s.runs i = some settings) (hlimit : 1 ≤ settings.dashWatchBatch) (id : ObjectId)
    (doc : InvoiceDoc) (hdoc : s.service.db.invoices.lookup id = some doc)
    (hopen : doc.state = .OPEN) (hswept : doc.sweptAt = none)
    (hread : ∀ j inv, (id, inv) ∈ (s.watchers j).2.batch → inv = doc)
    (U : Finset ObjectId) (hid : id ∈ U) (actions : List DeploymentAction)
    (hgoes : Along (Deployment.act bip44) (Deployment.GoesOn i) s actions)
    (hcancel : ∀ a ∈ actions, ∀ t, a ≠ .cancel id t)
    (hunpaid : Along (Deployment.act bip44) (Deployment.Sees id doc
      (fun now outputs => doc.expiresAt.val ≤ now ∧ preExpiry doc.expiresAt.val outputs = []))
      s actions)
    (hU : ∀ rows ∈ s.allLoads bip44 i actions, ∀ k ∈ rows, k ∈ U)
    (hmany : (U.card - 1) / settings.dashWatchBatch + 2 < (s.allLoads bip44 i actions).length) :
    ∃ doc', (run (Deployment.act bip44) s actions).service.db.invoices.lookup id = some doc' ∧
      doc.ExpiredAs doc' := by
  have hwatched : doc.state ∈ WATCH_STATES := mem_WATCH_STATES.mpr (Or.inl (Or.inl hopen))
  refine (concludes_expired hopen).within hruns hlimit ⟨?_, doc, hdoc, rfl⟩ hwatched hswept hgoes
    (fun a ha => .of_ne (hcancel a ha)) hunpaid hid hU hmany
  intro j inv hmem
  obtain rfl := hread j inv hmem
  exact ⟨hwatched, rfl⟩

/-! ## One watcher alone -/

/-- A watcher that is alone in the deployment. -/
def alone (settings : Settings) (r : Watch × TickPhase) : Deployment where
  service :=
    { db := ⟨r.1.invoices, fun _ => none⟩
      node := ⟨[], fun _ => []⟩
      processes := [⟨settings, .serving none none⟩]
      requests := [] }
  watchers := Function.update (fun _ => ({}, .idle)) 0 (r.1.watcher, r.2)

section Alone

variable {bip44 : Bip44} {settings : Settings} (r : Watch × TickPhase) (input : TickInput)

theorem runs_alone (h : settings.watches = true) : (alone settings r).runs 0 = some settings := by
  unfold Deployment.runs alone
  dsimp only [List.getElem?_cons_zero]
  rw [if_pos h]

theorem run_alone (h : settings.watches = true) (n : Nat) :
    run (Deployment.act bip44) (alone settings r) (List.replicate n (.watch 0 input))
      = alone settings ((watchNext settings input)^[n] r) := by
  have hstart : ((alone settings r).watch 0, ((alone settings r).watchers 0).2) = r := by
    unfold Deployment.watch alone
    simp only [Function.update_self]
  rw [Deployment.run_watch (runs_alone r h), hstart]
  unfold alone
  simp only [Function.update_idem]
  rfl

theorem goesOn_alone {r : Watch × TickPhase} {input : TickInput} (h : settings.watches = true)
    (hidle : (watchNext settings input r).2 = .idle → r.2.Finished) :
    (alone settings r).GoesOn 0 (.watch 0 input) := by
  intro _ own hruns hnext
  obtain rfl : settings = own := Option.some.inj ((runs_alone r h).symm.trans hruns)
  unfold Deployment.watch alone at hnext
  unfold alone
  simp only [Function.update_self] at hnext ⊢
  exact hidle hnext

theorem sees_alone {r : Watch × TickPhase} {input : TickInput} {id : ObjectId} {doc : InvoiceDoc}
    {ok : Datetime → List WatchedOutput → Prop} (h : settings.watches = true)
    (hsees : ∀ now utxosFor rest, r.2 = .applying now utxosFor ((id, doc) :: rest) →
      ∀ fresh, freshOutputs settings input.node now (utxosFor doc.address) = .ok fresh →
        ok now (mergeOutputs doc.txids fresh)) :
    (alone settings r).Sees id doc ok (.watch 0 input) := by
  intro own hruns now utxosFor rest hphase
  obtain rfl : settings = own := Option.some.inj ((runs_alone r h).symm.trans hruns)
  unfold alone at hphase
  simp only [Function.update_self] at hphase
  exact hsees now utxosFor rest hphase

/-- Steps with the same input that do not fail. -/
theorem goesOn_replicate {r : Watch × TickPhase} {input : TickInput} {n : Nat}
    (h : settings.watches = true)
    (hidle : ∀ k < n, (watchNext settings input ((watchNext settings input)^[k] r)).2 = .idle →
      ((watchNext settings input)^[k] r).2.Finished) :
    Along (Deployment.act bip44) (Deployment.GoesOn 0) (alone settings r)
      (List.replicate n (.watch 0 input)) := by
  apply along_replicate
  intro k hk
  rw [run_alone _ _ h]
  exact goesOn_alone h (hidle k hk)

theorem sees_replicate {r : Watch × TickPhase} {input : TickInput} {id : ObjectId}
    {doc : InvoiceDoc} {ok : Datetime → List WatchedOutput → Prop} {n : Nat}
    (h : settings.watches = true)
    (hsees : ∀ k < n, ∀ now utxosFor rest,
      ((watchNext settings input)^[k] r).2 = .applying now utxosFor ((id, doc) :: rest) →
      ∀ fresh, freshOutputs settings input.node now (utxosFor doc.address) = .ok fresh →
        ok now (mergeOutputs doc.txids fresh)) :
    Along (Deployment.act bip44) (Deployment.Sees id doc ok) (alone settings r)
      (List.replicate n (.watch 0 input)) := by
  apply along_replicate
  intro k hk
  rw [run_alone _ _ h]
  exact sees_alone h (hsees k hk)

end Alone

/-- One invoice to a batch. -/
def aloneSettings : Settings :=
  { dashWatchBatch := 1, mongoUri := "mongodb://localhost", dashRpcPassword := "secret" }

theorem watches_aloneSettings : aloneSettings.watches = true := by decide

def aloneStart : Watch × TickPhase := (⟨AList.singleton 1 sampleInvoice, {}⟩, .idle)

/-- A watcher between two ticks has nothing to decide. -/
theorem alone_read {settings : Settings} {w : Watch} {id : ObjectId} {doc : InvoiceDoc} (j : Nat)
    (inv : InvoiceDoc) (h : (id, inv) ∈ ((alone settings (w, .idle)).watchers j).2.batch) :
    inv = doc := by
  unfold alone at h
  dsimp only at h
  by_cases hj : j = 0
  · subst hj
    rw [Function.update_self] at h
    cases h
  · rw [Function.update_of_ne hj] at h
    cases h

theorem not_cancel_replicate (input : TickInput) (n : Nat) :
    ∀ a ∈ List.replicate n (DeploymentAction.watch 0 input), ∀ t, a ≠ .cancel 1 t := by
  intro a ha t
  rw [List.eq_of_mem_replicate ha]
  exact nofun

/-- Nothing was paid, and the time is over. -/
def lateInput : TickInput := { quietInput with now := sampleInvoice.expiresAt.val }

/-- Two ticks and the load of a third. -/
def lateActions : List DeploymentAction := List.replicate 8 (.watch 0 lateInput)

theorem goesOn_late : Along (Deployment.act noKeys) (Deployment.GoesOn 0)
    (alone aloneSettings aloneStart) lateActions := by
  refine goesOn_replicate watches_aloneSettings ?_
  intro k hk
  match k, hk with
  | 0, _ | 1, _ | 2, _ | 4, _ | 5, _ | 7, _ => exact nofun
  | 3, _ | 6, _ => exact fun _ => ⟨_, _, rfl⟩

theorem allLoads_late :
    (alone aloneSettings aloneStart).allLoads noKeys 0 lateActions = [[1], [1], [1]] := rfl

theorem sees_late : Along (Deployment.act noKeys) (Deployment.Sees 1 sampleInvoice
    (fun now outputs => sampleInvoice.expiresAt.val ≤ now ∧
      preExpiry sampleInvoice.expiresAt.val outputs = []))
    (alone aloneSettings aloneStart) lateActions := by
  refine sees_replicate watches_aloneSettings ?_
  intro k hk
  match k, hk with
  | 0, _ | 1, _ | 3, _ | 4, _ | 5, _ | 6, _ | 7, _ => exact nofun
  | 2, _ =>
      rintro now utxosFor rest hphase fresh hfresh
      cases hphase
      cases hfresh
      exact ⟨le_rfl, rfl⟩

/-- Three invoices are watched, one to a batch. -/
def crowdedStart : Watch × TickPhase :=
  (⟨AList.insert 3 sampleInvoice (AList.insert 2 sampleInvoice (AList.singleton 1 sampleInvoice)),
    {}⟩, .idle)

/-- A tick for each of them, one that starts again from the top, and the load of a fifth. -/
def crowdedActions : List DeploymentAction := List.replicate 16 (.watch 0 lateInput)

theorem goesOn_crowded : Along (Deployment.act noKeys) (Deployment.GoesOn 0)
    (alone aloneSettings crowdedStart) crowdedActions := by
  refine goesOn_replicate watches_aloneSettings ?_
  intro k hk
  match k, hk with
  | 0, _ | 1, _ | 2, _ | 4, _ | 5, _ | 6, _ | 8, _ | 9, _ | 10, _ | 12, _ | 13, _ | 15, _ =>
      exact nofun
  | 3, _ | 7, _ | 11, _ | 14, _ => exact fun _ => ⟨_, _, rfl⟩
  | k + 16, hk => omega

theorem allLoads_crowded : (alone aloneSettings crowdedStart).allLoads noKeys 0 crowdedActions
    = [[1, 2, 3], [1, 2, 3], [1, 2, 3], [1, 2, 3], [1, 2, 3]] := rfl

/-- The last one has its turn after the other two. -/
theorem decided_within_late : ∃ before input after now utxosFor inv rest,
    crowdedActions = before ++ .watch 0 input :: after ∧
      ((run (Deployment.act noKeys) (alone aloneSettings crowdedStart) before).watchers 0).2
        = .applying now utxosFor ((3, inv) :: rest) :=
  decided_within noKeys 0 aloneSettings (alone aloneSettings crowdedStart)
    (runs_alone crowdedStart watches_aloneSettings) (by decide) 3 {1, 2, 3} crowdedActions
    goesOn_crowded (by rw [allLoads_crowded]; decide) (by rw [allLoads_crowded]; decide)

/-- A single invoice is expired. -/
theorem unpaid_invoice_expired_late : ∃ doc',
    (run (Deployment.act noKeys) (alone aloneSettings aloneStart)
      lateActions).service.db.invoices.lookup 1 = some doc' ∧ sampleInvoice.ExpiredAs doc' :=
  unpaid_invoice_expired noKeys 0 aloneSettings (alone aloneSettings aloneStart)
    (runs_alone aloneStart watches_aloneSettings) (by decide) 1 sampleInvoice rfl rfl rfl
    alone_read {1} (by decide) lateActions goesOn_late (not_cancel_replicate lateInput 8)
    sees_late (by rw [allLoads_late]; decide) (by rw [allLoads_late]; decide)

/-- The watcher once it has stored what `sampleInput` pays for `sampleInvoice`. -/
def alonePaid : Watch × TickPhase :=
  (⟨Collection.updateIf (AList.singleton 1 sampleInvoice) 1
      (fun doc => persistFilter .OPEN .SETTLED doc.state)
      ((settle sampleInvoice [sampleOutput] 1000000).update 1000000),
    { openInvoices := 1, lastId := some 1 }⟩,
    .applying 1000000 (utxosByAddr ["yAddr"] [sampleUtxo]) [])

theorem freshOutputs_alone :
    freshOutputs aloneSettings sampleNode 1000000 [sampleUtxo] = .ok [sampleOutput] :=
  freshOutputs_single 200000 (Utxo.duffs_eq rfl (by decide)) (by decide) rfl

theorem watchNext_alonePaid : (watchNext aloneSettings sampleInput)^[3] aloneStart = alonePaid := by
  have hd : decideInvoice aloneSettings sampleNode sampleInvoice [sampleUtxo] 1000000
      = .ok (settle sampleInvoice [sampleOutput] 1000000) :=
    decideInvoice_fresh _ freshOutputs_alone
  -- the first two steps load the invoice and get the answer of the node
  show watchStep aloneSettings sampleInput
    ⟨AList.singleton 1 sampleInvoice, { openInvoices := 1, lastId := some 1 }⟩
    (.applying 1000000 (utxosByAddr ["yAddr"] [sampleUtxo]) ((1, sampleInvoice) :: [])) = alonePaid
  rw [watchStep_applying hd (by decide) rfl]
  rfl

/-- The first tick, up to its update; then the rest of it, a tick that finds nothing to watch, and
the load of a third. -/
def paidActions : List DeploymentAction :=
  List.replicate 3 (.watch 0 sampleInput) ++ List.replicate 5 (.watch 0 sampleInput)

theorem run_alonePaid : run (Deployment.act noKeys) (alone aloneSettings aloneStart)
    (List.replicate 3 (.watch 0 sampleInput)) = alone aloneSettings alonePaid := by
  rw [run_alone _ _ watches_aloneSettings, watchNext_alonePaid]

theorem goesOn_paid : Along (Deployment.act noKeys) (Deployment.GoesOn 0)
    (alone aloneSettings aloneStart) paidActions := by
  refine along_append.mpr ⟨goesOn_replicate watches_aloneSettings ?_, ?_⟩
  · intro k hk
    match k, hk with
    | 0, _ | 1, _ => exact nofun
    | 2, _ =>
        have hnext : watchNext aloneSettings sampleInput
            ((watchNext aloneSettings sampleInput)^[2] aloneStart) = alonePaid :=
          watchNext_alonePaid
        rw [hnext]
        exact nofun
  · rw [run_alonePaid]
    refine goesOn_replicate watches_aloneSettings ?_
    intro k hk
    match k, hk with
    | 0, _ | 3, _ => exact fun _ => ⟨_, _, rfl⟩
    | 1, _ | 2, _ | 4, _ => exact nofun

theorem allLoads_paid :
    (alone aloneSettings aloneStart).allLoads noKeys 0 paidActions = [[1], [], []] := by
  unfold Deployment.allLoads paidActions
  rw [outputs_append, run_alonePaid]
  rfl

theorem sees_paid : Along (Deployment.act noKeys) (Deployment.Sees 1 sampleInvoice
    (fun _ outputs => sampleInvoice.CoveredBy outputs))
    (alone aloneSettings aloneStart) paidActions := by
  refine along_append.mpr ⟨sees_replicate watches_aloneSettings ?_, ?_⟩
  · intro k hk
    match k, hk with
    | 0, _ | 1, _ => exact nofun
    | 2, _ =>
        rintro now utxosFor rest hphase fresh hfresh
        cases hphase
        obtain rfl : [sampleOutput] = fresh := Except.ok.inj (freshOutputs_alone.symm.trans hfresh)
        exact ⟨by decide, by decide⟩
  · rw [run_alonePaid]
    refine sees_replicate watches_aloneSettings ?_
    intro k hk
    match k, hk with
    | 0, _ | 1, _ | 2, _ | 3, _ | 4, _ => exact nofun

theorem covered_invoice_credited_paid : ∃ doc',
    (run (Deployment.act noKeys) (alone aloneSettings aloneStart)
      paidActions).service.db.invoices.lookup 1 = some doc' ∧ sampleInvoice.CreditedAs doc' :=
  covered_invoice_credited noKeys 0 aloneSettings (alone aloneSettings aloneStart)
    (runs_alone aloneStart watches_aloneSettings) (by decide) 1 sampleInvoice rfl (Or.inl rfl) rfl
    alone_read {1} (by decide) paidActions goesOn_paid
    (List.forall_mem_append.mpr
      ⟨not_cancel_replicate sampleInput 3, not_cancel_replicate sampleInput 5⟩)
    sees_paid (by rw [allLoads_paid]; decide) (by rw [allLoads_paid]; decide)

end V4vappDash
