import V4vappDash.Lib.Tickets
import V4vappDash.System.Deployment

set_option autoImplicit false

/-! # Receive indexes

An index is taken before the invoice that will use it is stored, and whatever happens in between
may fail. So the counter, the requests in flight and the stored invoices have to be looked at
together: they are a dispenser of tickets (`Service.tickets`), with a counter for each network,
and tickets that requests hold until they pass them on to the invoice they store. Every action is
a step of the dispenser (`Deployment.act_step`), hence `indexes_used_once`.
-/

namespace V4vappDash

open Machine

/-- Who holds an index. -/
inductive IndexHolder
  | invoice (id : ObjectId)
  | request (i : Nat)
  deriving DecidableEq

/-- The index a request of a network's process holds. -/
def CreatePhase.ticket (network : Network) : CreatePhase → Option (Network × Int)
  | .allocated _ _ index => some (network, index)
  | .built doc => some (doc.network, doc.index)
  | _ => none

def heldBy (invoices : Invoices) (requests : List Request) : IndexHolder → Option (Network × Int)
  | .invoice id => (invoices.lookup id).map (fun doc => (doc.network, doc.index))
  | .request i => requests[i]?.bind (fun r => r.phase.ticket r.settings.dashNetwork)

def nextIndex (rows : Network → Option WalletRow) (network : Network) : Option Int :=
  (rows network).map (fun row => (row.nextReceiveIndex : Int))

/-- The receive indexes as tickets. -/
def Service.tickets (s : Service) : Tickets Network IndexHolder :=
  ⟨nextIndex s.db.walletState, heldBy s.db.invoices s.requests⟩

/-- The index that `allocate_receive_index` hands out in an action, with its network. -/
def Service.handedOut (s : Service) : ServiceAction → Option (Network × Int)
  | .create i input =>
      match s.requests[i]? with
      | some ⟨_, settings, _, _, .limited _ _⟩ =>
          match allocateReceiveIndex s.db.walletState settings.dashNetwork input.now with
          | .ok (index, _) => some (settings.dashNetwork, index)
          | .error _ => none
      | _ => none
  | _ => none

def Deployment.handedOut (s : Deployment) : DeploymentAction → Option (Network × Int)
  | .serve a => s.service.handedOut a
  | _ => none

/-- The row's counter has passed the index. -/
def Database.Spent (db : Database) (network : Network) (index : Int) : Prop :=
  ∃ row, db.walletState network = some row ∧ index < row.nextReceiveIndex

/-- No two stored invoices have the same address. -/
def DistinctAddresses (invoices : Invoices) : Prop :=
  ∀ id id' doc doc', invoices.lookup id = some doc → invoices.lookup id' = some doc' →
    doc.address = doc'.address → id = id'

/-! ## Tickets after an action -/

section Tickets

variable {invoices : Invoices} {requests : List Request}

theorem nextIndex_update (rows : Network → Option WalletRow) (network : Network)
    (row : WalletRow) : nextIndex (Function.update rows network (some row))
      = Function.update (nextIndex rows) network (some (row.nextReceiveIndex : Int)) := by
  funext n
  unfold nextIndex
  by_cases hn : n = network
  · subst hn
    rw [Function.update_self, Function.update_self]
    rfl
  · rw [Function.update_of_ne hn, Function.update_of_ne hn]

theorem spent_tickets {s : Service} {network : Network} {index : Int} :
    s.tickets.Spent (network, index) ↔ s.db.Spent network index := by
  constructor
  · rintro ⟨m, hm, hlt⟩
    obtain ⟨row, hrow, rfl⟩ := Option.map_eq_some_iff.mp hm
    exact ⟨row, hrow, hlt⟩
  · rintro ⟨row, hrow, hlt⟩
    exact ⟨row.nextReceiveIndex, Option.map_eq_some_iff.mpr ⟨row, hrow, rfl⟩, hlt⟩

/-- A request in another phase holds what it holds in that phase. -/
theorem heldBy_set {i : Nat} {r q : Request} (hr : requests[i]? = some r) :
    heldBy invoices (requests.set i q) = Function.update (heldBy invoices requests) (.request i)
      (q.phase.ticket q.settings.dashNetwork) := by
  funext o
  cases o with
  | invoice id =>
      have hne : IndexHolder.invoice id ≠ .request i := nofun
      rw [Function.update_of_ne hne]
      rfl
  | request j =>
      by_cases hj : j = i
      · subst hj
        rw [Function.update_self, heldBy, List.getElem?_set_self (lt_of_getElem? hr)]
        rfl
      · have hne : IndexHolder.request j ≠ .request i := by simpa using hj
        rw [Function.update_of_ne hne, heldBy, heldBy, List.getElem?_set_ne (Ne.symm hj)]

theorem heldBy_insert (id : ObjectId) (doc : InvoiceDoc) :
    heldBy (AList.insert id doc invoices) requests
      = Function.update (heldBy invoices requests) (.invoice id) (some (doc.network, doc.index))
      := by
  funext o
  cases o with
  | invoice j =>
      by_cases hj : j = id
      · subst hj
        rw [Function.update_self, heldBy, AList.lookup_insert]
        rfl
      · have hne : IndexHolder.invoice j ≠ .invoice id := by simpa using hj
        rw [Function.update_of_ne hne, heldBy, heldBy, AList.lookup_insert_ne hj]
  | request i =>
      have hne : IndexHolder.request i ≠ .invoice id := nofun
      rw [Function.update_of_ne hne]
      rfl

/-- A new request holds nothing. -/
theorem heldBy_post {r : Request} (hr : r.phase = .received) :
    heldBy invoices (requests ++ [r]) = heldBy invoices requests := by
  funext o
  cases o with
  | invoice id => rfl
  | request j =>
      unfold heldBy
      dsimp only
      rcases Nat.lt_trichotomy j requests.length with hlt | rfl | hgt
      · rw [List.getElem?_append_left hlt]
      · rw [List.getElem?_concat_length, List.getElem?_eq_none le_rfl, Option.bind_some, hr]
        rfl
      · rw [List.getElem?_eq_none hgt.le, List.getElem?_eq_none]
        rw [List.length_append]
        exact hgt

theorem heldBy_sameTerms {invoices' : Invoices} (h : SameTerms invoices invoices') :
    heldBy invoices' requests = heldBy invoices requests := by
  funext o
  cases o with
  | request i => rfl
  | invoice id =>
      have hterms := congrArg (Option.map (fun doc => (InvoiceDoc.network doc, doc.index))) (h id)
      rw [Option.map_map, Option.map_map] at hterms
      exact hterms

end Tickets

/-- **Every action of a request is a step of the dispenser.** -/
theorem create_step {bip44 : Bip44} {s : Service} {i : Nat} {r : Request} {input : CreateInput}
    {db : Database} {phase : CreatePhase} (hr : s.requests[i]? = some r)
    (h : CreateMove r.settings bip44 r.body input s.db r.phase db phase) :
    Tickets.Step s.tickets (s.handedOut (.create i input))
      (Service.tickets { s with db, requests := s.requests.set i (r.next phase) }) := by
  obtain ⟨process, settings, body, passed, phase₀⟩ := r
  unfold Service.handedOut Service.tickets
  dsimp only at h ⊢
  rw [hr, heldBy_set hr]
  cases h with
  | load | unused | found | price | limit | stay => exact .drop
  | allocate hrow =>
      dsimp only
      rw [nextIndex_update]
      unfold allocateReceiveIndex
      rw [hrow]
      exact .take (Option.map_eq_some_iff.mpr ⟨_, hrow, rfl⟩)
  | exhausted hrow =>
      dsimp only
      rw [nextIndex_update]
      unfold allocateReceiveIndex
      rw [hrow]
      exact .waste (Option.map_eq_some_iff.mpr ⟨_, hrow, rfl⟩)
  | @build material pricing index address derivation hderive =>
      -- the document holds the index the request held
      have hheld : heldBy s.db.invoices s.requests (.request i)
          = some (settings.dashNetwork, (index : Int)) := by
        rw [heldBy, hr]
        rfl
      have hindex := (deriveReceive_ok hderive).2
      have hticket : some (settings.dashNetwork, derivation.index)
          = heldBy s.db.invoices s.requests (.request i) := by
        rw [hheld, hindex]
      show Tickets.Step _ none
        ⟨_, Function.update _ _ (some (settings.dashNetwork, derivation.index))⟩
      rw [hticket, Function.update_eq_self]
      exact .keep
  | @insert doc hints hdup =>
      rw [heldBy_insert, Function.update_comm (by simp)]
      refine .pass ?_
      show s.requests[i]?.bind _ = _
      rw [hr]
      rfl
  | fail hf =>
      cases phase₀ with
      | limited material pricing =>
          dsimp only
          unfold allocateReceiveIndex
          rw [hf.2]
          exact .drop
      | received | loaded | unused | priced | allocated | built | answered | failed =>
          exact .drop

/-- An insertion whose reply is lost passes the index on to the invoice as well. -/
theorem lose_step {bip44 : Bip44} {s : Service} {i : Nat} {r : Request} {input : CreateInput}
    {db : Database} {doc : InvoiceDoc} (message : String) (hr : s.requests[i]? = some r)
    (hphase : r.phase = .built doc)
    (h : CreateMove r.settings bip44 r.body input s.db r.phase db (.answered 201 input.id doc)) :
    Tickets.Step s.tickets none (Service.tickets
      { s with db, requests := s.requests.set i (r.next (.failed (.crash message))) }) := by
  have hstep := create_step hr h
  have hnone : s.handedOut (.create i input) = none := by
    obtain ⟨process, settings, body, passed, phase₀⟩ := r
    cases hphase
    unfold Service.handedOut
    dsimp only
    rw [hr]
  rw [hnone] at hstep
  -- neither an answered nor a failed request holds an index
  unfold Service.tickets at hstep ⊢
  dsimp only at hstep ⊢
  rw [heldBy_set hr] at hstep ⊢
  exact hstep

/-- A start of a process opens a counter at most. -/
theorem boot_step {settings : Settings} {input : BootInput} {s : Service} {db : Database}
    {node node' : WatchNode} {phase phase' : BootPhase} (processes : List Process)
    (h : BootMove settings input s.db node phase db node' phase') :
    Tickets.Step s.tickets none (Service.tickets { s with db, node := node', processes }) := by
  cases h with
  | insert hrow =>
      unfold Service.tickets
      dsimp only
      rw [nextIndex_update]
      refine .start ?_
      show (s.db.walletState _).map _ = none
      rw [hrow]
      rfl
  | load | skip | accept | absent | noBootstrap | bootstrap | raised | stay | fail => exact .keep

theorem Service.act_step (bip44 : Bip44) (s : Service) (a : ServiceAction) :
    Tickets.Step s.tickets (s.handedOut a) (s.act bip44 a).tickets := by
  cases a with
  | create i input =>
      cases hr : s.requests[i]? with
      | none =>
          unfold Service.handedOut Service.act
          dsimp only
          rw [hr]
          exact .keep
      | some r =>
          have hstep := create_step hr
            (createStep_move r.settings bip44 r.body input s.db r.phase)
          unfold Service.act
          dsimp only
          rw [hr]
          exact hstep
  | start settings => exact .keep
  | boot i input =>
      have hmove := s.act_move bip44 (.boot i input)
      generalize s.act bip44 (.boot i input) = s' at hmove ⊢
      cases hmove with
      | idle => exact .keep
      | boot hp hboot => exact boot_step _ hboot
  | post i body =>
      have hmove := s.act_move bip44 (.post i body)
      generalize s.act bip44 (.post i body) = s' at hmove ⊢
      cases hmove with
      | idle => exact .keep
      | post hp =>
          unfold Service.tickets
          dsimp only
          rw [heldBy_post rfl]
          exact .keep
  | raise i message =>
      have hmove := s.act_move bip44 (.raise i message)
      generalize s.act bip44 (.raise i message) = s' at hmove ⊢
      cases hmove with
      | idle => exact .keep
      | raise hr hfin =>
          unfold Service.tickets
          dsimp only
          rw [heldBy_set hr]
          exact .drop
  | lose i input message =>
      have hmove := s.act_move bip44 (.lose i input message)
      generalize s.act bip44 (.lose i input message) = s' at hmove ⊢
      cases hmove with
      | idle => exact .keep
      | lose hr hphase hcreate => exact lose_step message hr hphase hcreate

/-- **Every action is a step of the dispenser.** -/
theorem Deployment.act_step (bip44 : Bip44) (s : Deployment) (a : DeploymentAction) :
    Tickets.Step s.service.tickets (s.handedOut a) (s.act bip44 a).service.tickets := by
  have hmove := s.act_move bip44 a
  generalize (s.act bip44 a).service = s' at hmove ⊢
  cases hmove with
  | serve a => exact s.service.act_step bip44 a
  | @update a invoices ha hterms =>
      have hnone : s.handedOut a = none := by
        cases a with
        | serve b => exact absurd rfl (ha b)
        | watch | cancel => rfl
      rw [hnone]
      unfold Service.tickets Service.setInvoices
      dsimp only
      rw [heldBy_sameTerms hterms]
      exact .keep

/-! ## Addresses -/

/-- An insertion into a collection in which no invoice has the address. -/
theorem DistinctAddresses.create {settings : Settings} {bip44 : Bip44} {body : InvoiceCreate}
    {input : CreateInput} {db db' : Database} {phase phase' : CreatePhase}
    (h : DistinctAddresses db.invoices)
    (hmove : CreateMove settings bip44 body input db phase db' phase') :
    DistinctAddresses db'.invoices := by
  intro id id' doc doc' hdoc hdoc' heq
  rcases hmove.stored hdoc with hold | ⟨hbuilt, hanswer, -, hdup⟩
  · rcases hmove.stored hdoc' with hold' | ⟨-, -, -, hdup'⟩
    · exact h id id' doc doc' hold hold' heq
    · exact absurd heq ((duplicateKey_eq_false hdup').2 id doc hold).2
  · rcases hmove.stored hdoc' with hold' | ⟨-, hanswer', -, -⟩
    · exact absurd heq.symm ((duplicateKey_eq_false hdup).2 id' doc' hold').2
    · -- both are the document that has just been inserted
      rw [hanswer] at hanswer'
      cases hanswer'
      rfl

theorem DistinctAddresses.act {bip44 : Bip44} {s : Service} (h : DistinctAddresses s.db.invoices)
    (a : ServiceAction) : DistinctAddresses (s.act bip44 a).db.invoices := by
  have hmove := s.act_move bip44 a
  generalize s.act bip44 a = s' at hmove ⊢
  cases hmove with
  | idle | start | post | raise => exact h
  | boot hp hboot =>
      have hsame := hboot.invoices
      dsimp only
      rw [hsame]
      exact h
  | create hr hcreate | lose hr hphase hcreate => exact h.create hcreate

theorem DistinctAddresses.update {invoices invoices' : Invoices} (h : DistinctAddresses invoices)
    (hterms : SameTerms invoices invoices') : DistinctAddresses invoices' := by
  intro id id' doc doc' hdoc hdoc' heq
  obtain ⟨old, hold, hsame⟩ := hterms.lookup hdoc
  obtain ⟨old', hold', hsame'⟩ := hterms.lookup hdoc'
  have haddress := congrArg InvoiceDoc.address hsame
  have haddress' := congrArg InvoiceDoc.address hsame'
  exact h id id' old old' hold hold' (haddress.trans (heq.trans haddress'.symm))

/-! ## Runs -/

/-- What holds in every state: tickets are fair and addresses distinct. -/
structure IndexInv (s : Service) : Prop where
  fair : s.tickets.Fair
  addresses : DistinctAddresses s.db.invoices

/-- **The step lemma.** -/
theorem IndexInv.act {bip44 : Bip44} {s : Deployment} (h : IndexInv s.service)
    (a : DeploymentAction) : IndexInv (s.act bip44 a).service := by
  refine ⟨(s.act_step bip44 a).fair h.fair, ?_⟩
  have hmove := s.act_move bip44 a
  generalize (s.act bip44 a).service = s' at hmove ⊢
  cases hmove with
  | serve a => exact h.addresses.act a
  | update ha hterms => exact h.addresses.update hterms

theorem indexInv_empty : IndexInv Service.empty where
  fair :=
    { spent := by
        intro o p ho
        cases o <;> cases ho
      single := by
        intro o o' p ho
        cases o <;> cases ho }
  addresses := by
    intro id id' doc doc' hdoc
    cases hdoc

theorem IndexInv.run {bip44 : Bip44} {s : Deployment} (h : IndexInv s.service)
    (actions : List DeploymentAction) :
    IndexInv (run (Deployment.act bip44) s actions).service :=
  run_invariant (P := fun s : Deployment => IndexInv s.service) (fun _ a hs => hs.act a) h actions

theorem held_of_lookup {s : Service} {id : ObjectId} {doc : InvoiceDoc}
    (hdoc : s.db.invoices.lookup id = some doc) :
    s.tickets.held (.invoice id) = some (doc.network, doc.index) := by
  show (s.db.invoices.lookup id).map _ = _
  rw [hdoc]
  rfl

/-- An index that is spent stays spent, whatever happens. -/
theorem Deployment.spent_run (bip44 : Bip44) {s : Deployment} {network : Network} {index : Int}
    (h : s.service.db.Spent network index) (actions : List DeploymentAction) :
    (run (Deployment.act bip44) s actions).service.db.Spent network index :=
  run_invariant (P := fun s : Deployment => s.service.db.Spent network index)
    (fun s a hs => spent_tickets.mp ((s.act_step bip44 a).spent (spent_tickets.mpr hs))) h actions

/-- **Indexes are used once.** In every run from an empty database, of any number of processes
on any networks, of requests, watchers and cancels: on each network the indexes handed out
increase, an index that was handed out is spent and stays spent, the counter is past the indexes
of all stored invoices, and no two stored invoices share an index or an address. -/
theorem indexes_used_once (bip44 : Bip44) (actions : List DeploymentAction) :
    let s := run (Deployment.act bip44) .empty actions
    let given := outputs (Deployment.act bip44) Deployment.handedOut .empty actions
    given.Pairwise (fun a b => a.1 = b.1 → a.2 < b.2) ∧
    (∀ p ∈ given, s.service.db.Spent p.1 p.2) ∧
    (∀ network index, s.service.db.Spent network index → ∀ more,
      (run (Deployment.act bip44) s more).service.db.Spent network index) ∧
    (∀ id doc, s.service.db.invoices.lookup id = some doc →
      s.service.db.Spent doc.network doc.index) ∧
    (∀ id id' doc doc', s.service.db.invoices.lookup id = some doc →
      s.service.db.invoices.lookup id' = some doc' → doc.network = doc'.network →
      doc.index = doc'.index → id = id') ∧
    (∀ id id' doc doc', s.service.db.invoices.lookup id = some doc →
      s.service.db.invoices.lookup id' = some doc' → doc.address = doc'.address → id = id') := by
  intro s given
  have hinv : IndexInv s.service := IndexInv.run (s := .empty) indexInv_empty actions
  have hkeep : ∀ (s : Deployment) a p, s.service.tickets.Spent p →
      (s.act bip44 a).service.tickets.Spent p := fun s a p hp => (s.act_step bip44 a).spent hp
  have hgiven : given.Pairwise (fun a b => a.1 = b.1 → a.2 < b.2) ∧ ∀ p ∈ given,
      s.service.tickets.Spent p ∧ ∀ q, (Deployment.empty).service.tickets.Spent q →
        q.1 = p.1 → q.2 < p.2 := by
    refine outputs_pairwise hkeep ?_ .empty actions
    intro s a p hp
    have hstep := s.act_step bip44 a
    rw [hp] at hstep
    exact hstep.ticket
  refine ⟨hgiven.1, ?_, ?_, ?_, ?_, hinv.addresses⟩
  · intro p hp
    exact spent_tickets.mp (hgiven.2 p hp).1
  · intro network index hspent more
    exact Deployment.spent_run bip44 hspent more
  · intro id doc hdoc
    exact spent_tickets.mp (hinv.fair.spent _ _ (held_of_lookup hdoc))
  · intro id id' doc doc' hdoc hdoc' hnet hindex
    have hheld : s.service.tickets.held (.invoice id') = some (doc.network, doc.index) := by
      rw [held_of_lookup hdoc', hnet, hindex]
    have howner := hinv.fair.single _ _ _ (held_of_lookup hdoc) hheld
    exact IndexHolder.invoice.inj howner

end V4vappDash
