import V4vappDash.System.Conflicts

set_option autoImplicit false

/-! # Gaps in the receive indexes

A request takes its index before it stores its invoice, and an index is never given back: a
request that fails in between has moved the counter on and leaves a gap. A request whose
insertion is applied and raises nevertheless fails too, and its invoice is stored. What becomes of
every index that was taken is followed through the run (`TicketFate`, `IndexLog`), so gaps have no
other origin (`failed_create`).
-/

namespace V4vappDash

open Machine

/-- A step of a request. -/
def DeploymentAction.ofRequest (i : Nat) : DeploymentAction → Bool
  | .serve (.create j _) => j = i
  | .serve (.raise j _) => j = i
  | .serve (.lose j _ _) => j = i
  | _ => false

/-- The request that takes an index in an action, with the index. -/
def Deployment.taken (s : Deployment) : DeploymentAction → Option (Nat × Network × Int)
  | .serve (.create i input) => (s.service.handedOut (.create i input)).map (fun p => (i, p))
  | _ => none

/-- What has become of an index that a request took; `unanswered` says that an insertion of it was
applied and its reply lost. -/
inductive TicketFate (unanswered : Prop) (s : Service) (r : Request) (p : Network × Int) : Prop
  | inFlight (h : r.phase.ticket r.settings.dashNetwork = some p)
  | stored {statusCode : Nat} {id : ObjectId} {doc : InvoiceDoc}
      (h : r.phase = .answered statusCode id doc) (hheld : s.tickets.held (.invoice id) = some p)
  | untold {failure : Failure} {id : ObjectId} (hlose : unanswered) (h : r.phase = .failed failure)
      (hheld : s.tickets.held (.invoice id) = some p)
  | lost {failure : Failure} (h : r.phase = .failed failure) (hlost : s.tickets.Lost p)

theorem TicketFate.spent {unanswered : Prop} {s : Service} {i : Nat} {r : Request}
    {p : Network × Int} (h : TicketFate unanswered s r p) (hr : s.requests[i]? = some r)
    (hinv : IndexInv s) : s.tickets.Spent p := by
  cases h with
  | inFlight h =>
      refine hinv.fair.spent (.request i) p ?_
      show s.requests[i]?.bind _ = some p
      rw [hr]
      exact h
  | stored h hheld => exact hinv.fair.spent _ p hheld
  | untold hlose h hheld => exact hinv.fair.spent _ p hheld
  | lost h hlost => exact hlost.spent

/-- Nothing has become of an index yet that a request is about to take. -/
theorem TicketFate.not_limited {unanswered : Prop} {s : Service} {r : Request}
    {p : Network × Int} {material : XpubMaterial} {pricing : Pricing}
    (h : TicketFate unanswered s r p) : r.phase ≠ .limited material pricing := by
  intro hphase
  cases h with
  | inFlight h =>
      rw [hphase] at h
      cases h
  | stored h hheld =>
      rw [hphase] at h
      cases h
  | untold hlose h hheld =>
      rw [hphase] at h
      cases h
  | lost h hlost =>
      rw [hphase] at h
      cases h

/-- In this step an insertion of the request is applied, and its reply lost. -/
def LosesReply (bip44 : Bip44) (i : Nat) (s : Deployment) (a : DeploymentAction) : Prop :=
  (∃ input message, a = .serve (.lose i input message)) ∧
    (s.act bip44 a).service.db.invoices ≠ s.service.db.invoices

/-! ## One action -/

section Action

variable {bip44 : Bip44} {unanswered : Prop} {s : Service} {i : Nat} {r : Request}
  {p : Network × Int}

/-- A request that does not move. -/
theorem TicketFate.mono {s' : Service} (h : TicketFate unanswered s r p)
    (hheld : ∀ id, s.tickets.held (.invoice id) = some p →
      s'.tickets.held (.invoice id) = some p)
    (hlost : s.tickets.Lost p → s'.tickets.Lost p) : TicketFate unanswered s' r p := by
  cases h with
  | inFlight h => exact .inFlight h
  | stored h hstored => exact .stored h (hheld _ hstored)
  | untold hlose h hstored => exact .untold hlose h (hheld _ hstored)
  | lost h hl => exact .lost h (hlost hl)

theorem tickets_set {q : Request} (hr : s.requests[i]? = some r) :
    Service.tickets { s with requests := s.requests.set i q }
      = ⟨s.tickets.next, Function.update s.tickets.held (.request i)
          (q.phase.ticket q.settings.dashNetwork)⟩ := by
  unfold Service.tickets
  rw [heldBy_set hr]

theorem held_invoice (s : Service) (id : ObjectId) : s.tickets.held (.invoice id)
    = (s.db.invoices.lookup id).map (fun doc => (doc.network, doc.index)) := rfl

theorem held_request (hr : s.requests[i]? = some r) :
    s.tickets.held (.request i) = r.phase.ticket r.settings.dashNetwork := by
  show s.requests[i]?.bind _ = _
  rw [hr]
  rfl

/-- An insertion changes the collection. -/
theorem CreateMove.invoices_ne {input : CreateInput} {body : InvoiceCreate} {settings : Settings}
    {db db' : Database} {phase : CreatePhase} {statusCode : Nat} {id : ObjectId}
    {doc answered : InvoiceDoc}
    (h : CreateMove settings bip44 body input db phase db' (.answered statusCode id answered))
    (hbuilt : phase = .built doc) : db'.invoices ≠ db.invoices := by
  obtain ⟨hdup, rfl⟩ := h.inserted hbuilt
  intro heq
  have hnone := (duplicateKey_eq_false hdup).1
  rw [← heq, AList.lookup_insert] at hnone
  cases hnone

/-- A request in flight that fails loses its index. -/
theorem IndexInv.lost_of_fail (hinv : IndexInv s) (hr : s.requests[i]? = some r)
    (hp : r.phase.ticket r.settings.dashNetwork = some p) (failure : Failure) :
    TicketFate unanswered { s with requests := s.requests.set i (r.next (.failed failure)) }
      (r.next (.failed failure)) p := by
  refine .lost rfl ?_
  rw [tickets_set hr]
  exact hinv.fair.lost_of_drop ((held_request hr).trans hp)

/-- The request that takes a step. -/
theorem TicketFate.create {input : CreateInput} {db : Database} {phase : CreatePhase}
    (h : TicketFate unanswered s r p) (hinv : IndexInv s) (hr : s.requests[i]? = some r)
    (hmove : CreateMove r.settings bip44 r.body input s.db r.phase db phase) :
    TicketFate unanswered { s with db, requests := s.requests.set i (r.next phase) }
      (r.next phase) p := by
  have hstep := create_step hr hmove
  obtain ⟨process, settings, body, passed, phase₀⟩ := r
  cases h with
  | inFlight hp =>
      dsimp only at hp hmove
      cases hmove with
      | load | unused | found | price | limit | allocate | exhausted | stay => cases hp
      | @build material pricing index address derivation hderive =>
          refine .inFlight ?_
          rw [← hp]
          show some (settings.dashNetwork, derivation.index)
            = some (settings.dashNetwork, (index : Int))
          rw [(deriveReceive_ok hderive).2]
      | @insert doc hints hdup =>
          refine .stored rfl ?_
          show (AList.lookup input.id (AList.insert input.id doc s.db.invoices)).map _ = some p
          rw [AList.lookup_insert]
          exact hp
      | fail hf => exact hinv.lost_of_fail hr hp _
  | stored hphase hheld =>
      dsimp only at hphase hmove
      subst hphase
      cases hmove with
      | stay => exact .stored rfl hheld
      | fail hf => exact hf.elim
  | untold hlose hphase hheld =>
      dsimp only at hphase hmove
      subst hphase
      cases hmove with
      | fail hf => exact .untold hlose rfl hheld
  | lost hphase hlost =>
      dsimp only at hphase hmove
      subst hphase
      cases hmove with
      | fail hf => exact .lost rfl (hstep.lost hlost)

/-- The request whose insertion is applied without an answer. -/
theorem TicketFate.lose {input : CreateInput} {db : Database} {doc : InvoiceDoc}
    (h : TicketFate unanswered s r p) (hinv : IndexInv s) (hr : s.requests[i]? = some r)
    (hmove : CreateMove r.settings bip44 r.body input s.db r.phase db (.answered 201 input.id doc))
    (hlose : unanswered) (failure : Failure) :
    TicketFate unanswered { s with db, requests := s.requests.set i (r.next (.failed failure)) }
      (r.next (.failed failure)) p := by
  -- an answer would have left it with the same invoice
  cases h.create hinv hr hmove with
  | inFlight hticket => cases hticket
  | stored hanswer hheld => exact .untold hlose rfl hheld
  | untold hlose hphase | lost hphase => cases hphase

theorem DeploymentMove.held {a : DeploymentAction} {s' : Service}
    (h : DeploymentMove bip44 s a s') {id : ObjectId}
    (hheld : s.tickets.held (.invoice id) = some p) :
    s'.tickets.held (.invoice id) = some p := by
  cases h with
  | update ha hterms =>
      unfold Service.tickets Service.setInvoices
      dsimp only
      rw [heldBy_sameTerms hterms]
      exact hheld
  | serve a =>
      have hmove := s.act_move bip44 a
      generalize s.act bip44 a = s' at hmove ⊢
      cases hmove with
      | idle | start | post | raise => exact hheld
      | boot hp hboot =>
          rw [held_invoice, hboot.invoices]
          exact hheld
      | create hr hcreate | lose hr hphase hcreate =>
          rw [held_invoice] at hheld ⊢
          obtain ⟨doc, hdoc, heq⟩ := Option.map_eq_some_iff.mp hheld
          exact Option.map_eq_some_iff.mpr ⟨doc, hcreate.lookup hdoc, heq⟩

/-- Every request has a state after an action, and what became of its index is known. -/
theorem Deployment.act_fate {s : Deployment} (hinv : IndexInv s.service)
    (hr : s.service.requests[i]? = some r) (h : TicketFate unanswered s.service r p)
    {a : DeploymentAction} (hlose : LosesReply bip44 i s a → unanswered) :
    ∃ r', (s.act bip44 a).service.requests[i]? = some r' ∧
      TicketFate unanswered (s.act bip44 a).service r' p := by
  have hmove := s.act_move bip44 a
  have hstep := s.act_step bip44 a
  unfold LosesReply at hlose
  generalize (s.act bip44 a).service = s' at hmove hstep hlose ⊢
  have hkept : TicketFate unanswered s' r p := h.mono (fun id hid => hmove.held hid) hstep.lost
  cases hmove with
  | update ha hterms => exact ⟨r, hr, hkept⟩
  | serve a =>
      have hserve := s.service.act_move bip44 a
      generalize s.service.act bip44 a = s' at hserve hkept hlose ⊢
      cases hserve with
      | idle | start | boot => exact ⟨r, hr, hkept⟩
      | post hp =>
          refine ⟨r, ?_, hkept⟩
          rw [List.getElem?_append_left (lt_of_getElem? hr)]
          exact hr
      | @create j input q db phase hq hcreate =>
          by_cases hj : j = i
          · subst hj
            rw [hr] at hq
            cases hq
            exact ⟨_, List.getElem?_set_self (lt_of_getElem? hr), h.create hinv hr hcreate⟩
          · refine ⟨r, ?_, hkept⟩
            rw [List.getElem?_set_ne hj]
            exact hr
      | @raise j message q hq hfin =>
          by_cases hj : j = i
          · subst hj
            rw [hr] at hq
            cases hq
            refine ⟨_, List.getElem?_set_self (lt_of_getElem? hr), ?_⟩
            -- a request that is interrupted is in flight
            cases h with
            | inFlight hp => exact hinv.lost_of_fail hr hp _
            | stored hphase | untold hlose hphase | lost hphase =>
                rw [hphase] at hfin
                cases hfin
          · refine ⟨r, ?_, hkept⟩
            rw [List.getElem?_set_ne hj]
            exact hr
      | @lose j input message q db doc hq hbuilt hcreate =>
          by_cases hj : j = i
          · subst hj
            rw [hr] at hq
            cases hq
            have hnew := hlose ⟨⟨input, message, rfl⟩, hcreate.invoices_ne hbuilt⟩
            exact ⟨_, List.getElem?_set_self (lt_of_getElem? hr), h.lose hinv hr hcreate hnew _⟩
          · refine ⟨r, ?_, hkept⟩
            rw [List.getElem?_set_ne hj]
            exact hr

/-- A request that takes an index has not taken one before, and holds it or loses it. -/
theorem TicketFate.taken {input : CreateInput} {db : Database} {phase : CreatePhase}
    (hinv : IndexInv s) (hr : s.requests[i]? = some r)
    (hmove : CreateMove r.settings bip44 r.body input s.db r.phase db phase)
    (h : s.handedOut (.create i input) = some p) :
    (∃ material pricing, r.phase = .limited material pricing) ∧
      TicketFate unanswered { s with db, requests := s.requests.set i (r.next phase) }
        (r.next phase) p := by
  obtain ⟨process, settings, body, passed, phase₀⟩ := r
  unfold Service.handedOut at h
  dsimp only at h hmove ⊢
  rw [hr] at h
  cases hmove with
  | load | unused | found | price | limit | build | insert | stay => cases h
  | allocate hrow =>
      dsimp only at h
      unfold allocateReceiveIndex at h
      rw [hrow] at h
      cases h
      exact ⟨⟨_, _, rfl⟩, .inFlight rfl⟩
  | @exhausted material pricing row failure hrow hle hdup =>
      dsimp only at h
      unfold allocateReceiveIndex at h
      rw [hrow] at h
      cases h
      refine ⟨⟨_, _, rfl⟩, .lost rfl ?_⟩
      have hnext : s.tickets.next settings.dashNetwork = some (row.nextReceiveIndex : Int) :=
        Option.map_eq_some_iff.mpr ⟨row, hrow, rfl⟩
      unfold Service.tickets
      dsimp only
      rw [nextIndex_update, heldBy_set hr]
      exact hinv.fair.lost_of_waste hnext (.request i)
  | fail hf =>
      cases phase₀ with
      | limited material pricing =>
          dsimp only at h
          unfold allocateReceiveIndex at h
          rw [hf.2] at h
          cases h
      | received | loaded | unused | priced | allocated | built | answered | failed => cases h

theorem Deployment.taken_eq {s : Deployment} {a : DeploymentAction} (h : s.taken a = some (i, p)) :
    ∃ input, a = .serve (.create i input) ∧ s.service.handedOut (.create i input) = some p := by
  cases a with
  | watch | cancel => cases h
  | serve b =>
      cases b with
      | start | boot | post | raise | lose => cases h
      | create j input =>
          obtain ⟨q, hq, heq⟩ := Option.map_eq_some_iff.mp h
          cases heq
          exact ⟨input, rfl, hq⟩

/-- **A request that takes an index.** -/
theorem Deployment.taken_fate (bip44 : Bip44) (unanswered : Prop) {s : Deployment}
    (hinv : IndexInv s.service) {a : DeploymentAction} (h : s.taken a = some (i, p)) :
    (∃ r material pricing, s.service.requests[i]? = some r ∧
      r.phase = .limited material pricing) ∧
    ∃ r, (s.act bip44 a).service.requests[i]? = some r ∧
      TicketFate unanswered (s.act bip44 a).service r p := by
  obtain ⟨input, rfl, hout⟩ := taken_eq h
  show _ ∧ ∃ r, (s.service.act bip44 (.create i input)).requests[i]? = some r ∧
    TicketFate unanswered (s.service.act bip44 (.create i input)) r p
  cases hr : s.service.requests[i]? with
  | none =>
      unfold Service.handedOut at hout
      dsimp only at hout
      rw [hr] at hout
      cases hout
  | some r =>
      unfold Service.act
      dsimp only
      rw [hr]
      have hcreate := createStep_move r.settings bip44 r.body input s.service.db r.phase
      obtain ⟨⟨material, pricing, hphase⟩, hfate⟩ := TicketFate.taken hinv hr hcreate hout
      exact ⟨⟨r, material, pricing, rfl, hphase⟩, _,
        List.getElem?_set_self (lt_of_getElem? hr), hfate⟩

/-- The request that takes an index is a part of what an action hands out. -/
theorem Deployment.handedOut_eq (s : Deployment) (a : DeploymentAction) :
    s.handedOut a = (s.taken a).map Prod.snd := by
  cases a with
  | watch | cancel => rfl
  | serve b =>
      cases b with
      | start | boot | post | raise | lose => rfl
      | create i input =>
          show s.service.handedOut (.create i input) = Option.map Prod.snd (Option.map _ _)
          rw [Option.map_map]
          exact Option.map_id'.symm

end Action

/-! ## Counters that are opened -/

/-- A process that is about to insert a wallet row opens its counter at 0. -/
def FreshRows (processes : List Process) : Prop :=
  ∀ (i : Nat) (p : Process) (material : XpubMaterial) (row : WalletRow),
    processes[i]? = some p → p.phase = .absent material row → row.nextReceiveIndex = 0

theorem BootMove.absent_row {settings : Settings} {input : BootInput} {db db' : Database}
    {node node' : WatchNode} {phase : BootPhase} {material : XpubMaterial} {row : WalletRow}
    (h : BootMove settings input db node phase db' node' (.absent material row)) :
    row.nextReceiveIndex = 0 := by
  cases h
  rfl

section Opened

variable {bip44 : Bip44} {s s' : Service}

theorem FreshRows.act {a : ServiceAction} (h : FreshRows s.processes)
    (hmove : ServiceMove bip44 s a s') : FreshRows s'.processes := by
  cases hmove with
  | idle | post | create | raise | lose => exact h
  | start =>
      intro i p material row hp hphase
      rcases getElem?_concat_cases hp with ⟨-, rfl⟩ | hp
      · cases hphase
      · exact h i p material row hp hphase
  | boot hq hboot =>
      intro i p material row hp hphase
      rcases getElem?_set_cases hp with ⟨-, rfl⟩ | ⟨-, hp⟩
      · dsimp only at hphase
        subst hphase
        exact hboot.absent_row
      · exact h i p material row hp hphase

/-- A counter that an action opens starts at 0. -/
theorem FreshRows.opened {a : ServiceAction} (h : FreshRows s.processes)
    (hmove : ServiceMove bip44 s a s') {network : Network} {n : Int}
    (hnone : s.tickets.next network = none) (hn : s'.tickets.next network = some n) : n = 0 := by
  have hsame : ∀ {rows}, nextIndex rows network = some n → rows = s.db.walletState → n = 0 := by
    rintro rows hrows rfl
    rw [show nextIndex s.db.walletState network = none from hnone] at hrows
    cases hrows
  cases hmove with
  | idle | start | post | raise => exact hsame hn rfl
  | @boot i input p db node phase hp hboot =>
      obtain ⟨settings, phase₀⟩ := p
      dsimp only at hboot
      cases hboot with
      | load | skip | accept | absent | noBootstrap | bootstrap | raised | stay | fail =>
          exact hsame hn rfl
      | @insert material row hrow =>
          have hzero := h i _ material row hp rfl
          replace hn : nextIndex (Function.update s.db.walletState settings.dashNetwork
            (some row)) network = some n := hn
          rw [nextIndex_update] at hn
          by_cases hnet : network = settings.dashNetwork
          · rw [hnet, Function.update_self, hzero] at hn
            cases hn
            rfl
          · rw [Function.update_of_ne hnet] at hn
            exact hsame hn rfl
  | @create i input r db phase hr hcreate =>
      -- a request moves a counter that is open
      have hmoved : ∀ {row : WalletRow}, s.db.walletState r.settings.dashNetwork = some row →
          nextIndex (Function.update s.db.walletState r.settings.dashNetwork
            (some (row.taken input.now))) network = some n → n = 0 := by
        intro row hrow hn
        have hnet : network ≠ r.settings.dashNetwork := by
          rintro rfl
          replace hnone : nextIndex s.db.walletState r.settings.dashNetwork = none := hnone
          unfold nextIndex at hnone
          rw [hrow] at hnone
          cases hnone
        rw [nextIndex_update, Function.update_of_ne hnet] at hn
        exact hsame hn rfl
      obtain ⟨process, settings, body, passed, phase₀⟩ := r
      dsimp only at hcreate hmoved
      cases hcreate with
      | load | unused | found | price | limit | build | insert | stay | fail =>
          exact hsame hn rfl
      | allocate hrow | exhausted hrow => exact hmoved hrow hn
  | lose hr hphase hcreate =>
      rw [hphase] at hcreate
      cases hcreate with
      | insert hints hdup => exact hsame hn rfl

end Opened

/-! ## The log of a run -/

/-- What relates a state to all indexes that were taken on the way to it. -/
structure IndexLog (s : Deployment) (log : List (Nat × Network × Int)) : Prop where
  inv : IndexInv s.service
  rows : FreshRows s.service.processes
  nonneg : ∀ o p, s.service.tickets.held o = some p → 0 ≤ p.2
  complete : ∀ p, 0 ≤ p.2 → s.service.tickets.Spent p → ∃ i, (i, p) ∈ log
  fate : ∀ i p, (i, p) ∈ log → ∃ r, s.service.requests[i]? = some r ∧ TicketFate True s.service r p
  once : (log.map Prod.fst).Nodup
  distinct : (log.map Prod.snd).Nodup

theorem indexLog_empty : IndexLog .empty [] where
  inv := indexInv_empty
  rows := by
    intro i p material row hp
    cases hp
  nonneg := by
    intro o p ho
    cases o <;> cases ho
  complete := by
    rintro p - ⟨m, hm, -⟩
    cases hm
  fate := nofun
  once := List.nodup_nil
  distinct := List.nodup_nil

section Log

variable {bip44 : Bip44} {s : Deployment} {log : List (Nat × Network × Int)}

theorem FreshRows.deployment {a : DeploymentAction} {s s' : Service} (h : FreshRows s.processes)
    (hmove : DeploymentMove bip44 s a s') :
    FreshRows s'.processes ∧ ∀ network n, s.tickets.next network = none →
      s'.tickets.next network = some n → n = 0 := by
  cases hmove with
  | serve a => exact ⟨h.act (s.act_move bip44 a), fun _ _ => h.opened (s.act_move bip44 a)⟩
  | @update a invoices ha hterms =>
      refine ⟨h, ?_⟩
      intro network n hnone hn
      have hsame : (s.setInvoices invoices).tickets.next network = s.tickets.next network := rfl
      rw [hsame, hnone] at hn
      cases hn

/-- Who holds an index has taken it, and no invoice has it. -/
theorem IndexLog.holder (h : IndexLog s log) {i : Nat} {p : Network × Int}
    (hp : s.service.tickets.held (.request i) = some p) : (i, p) ∈ log := by
  obtain ⟨j, hj⟩ := h.complete p (h.nonneg _ p hp) (h.inv.fair.spent _ p hp)
  obtain ⟨r, hr, hfate⟩ := h.fate j p hj
  cases hfate with
  | inFlight hticket =>
      have hholder := h.inv.fair.single _ _ p ((held_request hr).trans hticket) hp
      cases hholder
      exact hj
  | stored hphase hheld | untold hlose hphase hheld =>
      cases h.inv.fair.single _ _ p hheld hp
  | lost hphase hlost => exact absurd hp (hlost.free _)

/-- A log to which at most one entry is added, whose part is in no entry before. -/
theorem nodup_map_append {α β : Type*} {f : α → β} {log : List α} {new : Option α}
    (h : (log.map f).Nodup) (hnew : ∀ x, new = some x → ∀ y ∈ log, f y ≠ f x) :
    ((log ++ new.toList).map f).Nodup := by
  cases new with
  | none => rwa [Option.toList_none, List.append_nil]
  | some x =>
      rw [List.map_append, List.nodup_append]
      refine ⟨h, List.nodup_singleton _, ?_⟩
      intro z hz w hw
      obtain ⟨y, hy, rfl⟩ := List.mem_map.mp hz
      obtain rfl := List.mem_singleton.mp hw
      exact hnew x rfl y hy

/-- **The step lemma.** -/
theorem IndexLog.act (h : IndexLog s log) (a : DeploymentAction) :
    IndexLog (s.act bip44 a) (log ++ (s.taken a).toList) := by
  have hstep := s.act_step bip44 a
  have hrows := h.rows.deployment (s.act_move bip44 a)
  refine ⟨h.inv.act a, hrows.1, ?_, ?_, ?_, ?_, ?_⟩
  · intro o p ho
    rcases hstep.held_cases ho with hout | ⟨o', ho'⟩
    · -- a counter is a natural number
      rw [hout] at hstep
      obtain ⟨row, -, hindex⟩ := Option.map_eq_some_iff.mp hstep.next_eq.1
      exact hindex ▸ Int.natCast_nonneg _
    · exact h.nonneg o' p ho'
  · intro p hp hspent
    rcases hstep.spent_cases hspent with hold | hout | ⟨hnone, n, hn, hlt⟩
    · obtain ⟨i, hi⟩ := h.complete p hp hold
      exact ⟨i, List.mem_append_left _ hi⟩
    · rw [s.handedOut_eq a] at hout
      obtain ⟨⟨i, q⟩, htaken, rfl⟩ := Option.map_eq_some_iff.mp hout
      refine ⟨i, List.mem_append_right _ ?_⟩
      rw [htaken]
      exact List.mem_singleton_self _
    · -- a counter that is opened starts at 0
      have hzero := hrows.2 p.1 n hnone hn
      omega
  · intro i p hmem
    rcases List.mem_append.mp hmem with hold | hnew
    · obtain ⟨r, hr, hfate⟩ := h.fate i p hold
      exact Deployment.act_fate h.inv hr hfate (fun _ => trivial)
    · exact (Deployment.taken_fate bip44 True h.inv (Option.mem_toList.mp hnew)).2
  · refine nodup_map_append h.once ?_
    rintro ⟨j, q⟩ hnew ⟨i, p⟩ hmem rfl
    -- who takes an index has taken none before
    obtain ⟨r, hr, hfate⟩ := h.fate i p hmem
    obtain ⟨r', material, pricing, hr', hphase⟩ :=
      (Deployment.taken_fate bip44 True h.inv hnew).1
    rw [hr] at hr'
    cases hr'
    exact hfate.not_limited hphase
  · refine nodup_map_append h.distinct ?_
    rintro ⟨j, q⟩ hnew ⟨i, p⟩ hmem rfl
    -- an index that was taken is spent
    obtain ⟨r, hr, hfate⟩ := h.fate i p hmem
    have hout : s.handedOut a = some p := by
      rw [s.handedOut_eq a, hnew]
      rfl
    rw [hout] at hstep
    exact Int.lt_irrefl _ (hstep.ticket.2 p (hfate.spent hr h.inv) rfl)

theorem indexLog_run (bip44 : Bip44) (actions : List DeploymentAction) :
    IndexLog (run (Deployment.act bip44) .empty actions)
      (outputs (Deployment.act bip44) Deployment.taken .empty actions) :=
  outputs_invariant (fun _ _ a h => h.act a) indexLog_empty actions

end Log

/-! ## The steps of one request -/

/-- The request has been answered. -/
def Answered (i : Nat) (s : Service) : Prop :=
  ∃ r statusCode id doc, s.requests[i]? = some r ∧ r.phase = .answered statusCode id doc

section Steps

variable {bip44 : Bip44} {s : Deployment} {i : Nat}

theorem Answered.act (h : Answered i s.service) (a : DeploymentAction) :
    Answered i (s.act bip44 a).service := by
  obtain ⟨r, statusCode, id, doc, hr, hphase⟩ := h
  have hmove := s.act_move bip44 a
  generalize (s.act bip44 a).service = s' at hmove ⊢
  cases hmove with
  | update => exact ⟨r, statusCode, id, doc, hr, hphase⟩
  | serve a =>
      have hserve := s.service.act_move bip44 a
      generalize s.service.act bip44 a = s' at hserve ⊢
      cases hserve with
      | idle | start | boot => exact ⟨r, statusCode, id, doc, hr, hphase⟩
      | post =>
          refine ⟨r, statusCode, id, doc, ?_, hphase⟩
          rw [List.getElem?_append_left (lt_of_getElem? hr)]
          exact hr
      | @create j input q db phase hq hcreate =>
          by_cases hj : j = i
          · subst hj
            rw [hr] at hq
            cases hq
            rw [hphase] at hcreate
            cases hcreate with
            | stay =>
                exact ⟨_, statusCode, id, doc, List.getElem?_set_self (lt_of_getElem? hr), rfl⟩
            | fail hf => exact hf.elim
          · refine ⟨r, statusCode, id, doc, ?_, hphase⟩
            rw [List.getElem?_set_ne hj]
            exact hr
      | @raise j message q hq hfin =>
          have hj : j ≠ i := by
            rintro rfl
            rw [hr] at hq
            cases hq
            rw [hphase] at hfin
            cases hfin
          refine ⟨r, statusCode, id, doc, ?_, hphase⟩
          rw [List.getElem?_set_ne hj]
          exact hr
      | @lose j input message q db built hq hbuilt hcreate =>
          have hj : j ≠ i := by
            rintro rfl
            rw [hr] at hq
            cases hq
            rw [hphase] at hbuilt
            cases hbuilt
          refine ⟨r, statusCode, id, doc, ?_, hphase⟩
          rw [List.getElem?_set_ne hj]
          exact hr

/-- What a step of a request does to the invoices and to the counters. -/
structure RequestStep (s s' : Service) (i : Nat) (out : Option (Network × Int)) : Prop where
  invoices : s'.db.invoices = s.db.invoices ∨ Answered i s'
  keeps : out = none → s'.db.walletState = s.db.walletState

theorem RequestStep.idle (s : Service) (i : Nat) : RequestStep s s i none :=
  ⟨Or.inl rfl, fun _ => rfl⟩

theorem CreateMove.requestStep {s : Service} {r : Request} {input : CreateInput} {db : Database}
    {phase : CreatePhase} (hr : s.requests[i]? = some r)
    (hmove : CreateMove r.settings bip44 r.body input s.db r.phase db phase) :
    RequestStep s { s with db, requests := s.requests.set i (r.next phase) } i
      (s.handedOut (.create i input)) := by
  obtain ⟨process, settings, body, passed, phase₀⟩ := r
  unfold Service.handedOut
  dsimp only at hmove ⊢
  rw [hr]
  cases hmove with
  | load | unused | found | price | limit | build | stay | fail =>
      exact ⟨Or.inl rfl, fun _ => rfl⟩
  | allocate hrow | exhausted hrow =>
      dsimp only
      unfold allocateReceiveIndex
      rw [hrow]
      exact ⟨Or.inl rfl, nofun⟩
  | insert =>
      refine ⟨Or.inr ⟨_, _, _, _, List.getElem?_set_self (lt_of_getElem? hr), rfl⟩, ?_⟩
      exact fun _ => rfl

theorem Deployment.requestStep (bip44 : Bip44) (s : Deployment) {a : DeploymentAction}
    (ha : a.ofRequest i = true) (hkept : ¬ LosesReply bip44 i s a) :
    RequestStep s.service (s.act bip44 a).service i (s.handedOut a) := by
  cases a with
  | watch | cancel => cases ha
  | serve b =>
      unfold LosesReply at hkept
      show RequestStep s.service (s.service.act bip44 b) i (s.service.handedOut b)
      replace hkept : ¬ ((∃ input message, DeploymentAction.serve b = .serve (.lose i input message)) ∧
        (s.service.act bip44 b).db.invoices ≠ s.service.db.invoices) := hkept
      cases b with
      | start | boot | post => cases ha
      | create j input =>
          obtain rfl : j = i := of_decide_eq_true ha
          unfold Service.act
          cases hr : s.service.requests[j]? with
          | none =>
              unfold Service.handedOut
              dsimp only
              rw [hr]
              exact .idle s.service j
          | some r =>
              dsimp only
              rw [hr]
              exact (createStep_move r.settings bip44 r.body input s.service.db
                r.phase).requestStep hr
      | raise j message =>
          have hmove := s.service.act_move bip44 (.raise j message)
          generalize s.service.act bip44 (.raise j message) = s' at hmove ⊢
          cases hmove with
          | idle => exact .idle s.service i
          | raise => exact ⟨Or.inl rfl, fun _ => rfl⟩
      | lose j input message =>
          obtain rfl : j = i := of_decide_eq_true ha
          have hmove := s.service.act_move bip44 (.lose j input message)
          generalize s.service.act bip44 (.lose j input message) = s' at hmove hkept ⊢
          cases hmove with
          | idle => exact .idle s.service j
          | lose hr hphase hcreate =>
              exact absurd ⟨⟨input, message, rfl⟩, hcreate.invoices_ne hphase⟩ hkept

/-- A lost reply leaves an invoice behind, at the index that the request held. -/
theorem LosesReply.stores {a : DeploymentAction} (h : LosesReply bip44 i s a) :
    ∃ id doc, s.service.tickets.held (.request i) = some (doc.network, doc.index) ∧
      s.service.db.invoices.lookup id = none ∧
      (s.act bip44 a).service.db = { s.service.db with
        invoices := AList.insert id doc s.service.db.invoices } := by
  obtain ⟨⟨input, message, rfl⟩, hne⟩ := h
  have hmove := s.service.act_move bip44 (.lose i input message)
  show ∃ id doc, _ ∧ _ ∧ (s.service.act bip44 (.lose i input message)).db = _
  replace hne : (s.service.act bip44 (.lose i input message)).db.invoices
    ≠ s.service.db.invoices := hne
  generalize s.service.act bip44 (.lose i input message) = s' at hmove hne ⊢
  cases hmove with
  | idle => exact absurd rfl hne
  | @lose _ _ _ r db doc hr hphase hcreate =>
      obtain ⟨hdup, rfl⟩ := hcreate.inserted hphase
      refine ⟨input.id, doc, ?_, (duplicateKey_eq_false hdup).1, rfl⟩
      rw [held_request hr, hphase]
      rfl

end Steps

/-! ## Runs without a request -/

/-- Two states that differ in one request alone. -/
structure SameBut (i : Nat) (s t : Deployment) : Prop where
  db : s.service.db = t.service.db
  node : s.service.node = t.service.node
  processes : s.service.processes = t.service.processes
  watchers : s.watchers = t.watchers
  length : s.service.requests.length = t.service.requests.length
  others : ∀ j, j ≠ i → s.service.requests[j]? = t.service.requests[j]?

/-- Who takes an index in a step of a request is this request. -/
theorem Deployment.taken_ofRequest {s : Deployment} {a : DeploymentAction} {i j : Nat}
    {p : Network × Int} (h : s.taken a = some (j, p)) (ha : a.ofRequest i = true) : j = i := by
  obtain ⟨input, rfl, -⟩ := taken_eq h
  exact of_decide_eq_true ha

section Omission

variable {bip44 : Bip44} {s t : Deployment} {i : Nat}

/-- A step of the request that leaves the database alone. -/
theorem SameBut.drop (h : SameBut i s t) {a : DeploymentAction} (ha : a.ofRequest i = true)
    (hdb : (s.act bip44 a).service.db = s.service.db) : SameBut i (s.act bip44 a) t := by
  have hset : ∀ q, SameBut i { s with service := { s.service with
      requests := s.service.requests.set i q } } t := by
    intro q
    refine { h with length := ?_, others := ?_ }
    · rw [List.length_set]
      exact h.length
    · intro j hj
      rw [List.getElem?_set_ne (Ne.symm hj)]
      exact h.others j hj
  cases a with
  | watch | cancel => cases ha
  | serve b =>
      have hmove := s.service.act_move bip44 b
      show SameBut i { s with service := s.service.act bip44 b } t
      replace hdb : (s.service.act bip44 b).db = s.service.db := hdb
      generalize s.service.act bip44 b = s' at hmove hdb ⊢
      cases hmove with
      | start | boot | post => cases ha
      | idle => exact h
      | create | lose =>
          obtain rfl := of_decide_eq_true ha
          dsimp only at hdb
          subst hdb
          exact hset _
      | raise =>
          obtain rfl := of_decide_eq_true ha
          exact hset _

/-- A step of anybody else. -/
theorem SameBut.keep (h : SameBut i s t) {a : DeploymentAction} (ha : a.ofRequest i = false) :
    SameBut i (s.act bip44 a) (t.act bip44 a) := by
  obtain ⟨⟨db, node, processes, requests⟩, watchers⟩ := s
  obtain ⟨⟨db', node', processes', requests'⟩, watchers'⟩ := t
  obtain ⟨rfl, rfl, rfl, rfl, hlength, hothers⟩ := h
  dsimp only at hlength hothers
  have hsame : ∀ db node processes watchers, SameBut i ⟨⟨db, node, processes, requests⟩, watchers⟩
      ⟨⟨db, node, processes, requests'⟩, watchers⟩ :=
    fun _ _ _ _ => ⟨rfl, rfl, rfl, rfl, hlength, hothers⟩
  have hset : ∀ j q q', q = q' → ∀ db, SameBut i ⟨⟨db, node, processes, requests.set j q⟩, watchers⟩
      ⟨⟨db, node, processes, requests'.set j q'⟩, watchers⟩ := by
    rintro j q _ rfl db
    refine ⟨rfl, rfl, rfl, rfl, ?_, ?_⟩
    · dsimp only
      rw [List.length_set, List.length_set, hlength]
    · intro k hk
      dsimp only
      rw [List.getElem?_set, List.getElem?_set, hothers k hk, hlength]
  cases a with
  | cancel id now => exact hsame _ _ _ _
  | watch k input =>
      unfold Deployment.act
      dsimp only
      split
      · split
        · exact hsame _ _ _ _
        · exact hsame _ _ _ _
      · exact hsame _ _ _ _
  | serve b =>
      unfold Deployment.act Service.act
      cases b with
      | start settings => exact hsame _ _ _ _
      | boot k input =>
          dsimp only
          cases processes[k]? with
          | none => exact hsame _ _ _ _
          | some p => exact hsame _ _ _ _
      | post k body =>
          dsimp only
          split
          · refine ⟨rfl, rfl, rfl, rfl, ?_, ?_⟩
            · dsimp only
              rw [List.length_append, List.length_append, hlength]
            · intro j hj
              dsimp only
              rw [List.getElem?_append, List.getElem?_append, hothers j hj, hlength]
          · exact hsame _ _ _ _
      | create j input =>
          have hj : j ≠ i := of_decide_eq_false ha
          dsimp only
          rw [hothers j hj]
          cases requests'[j]? with
          | none => exact hsame _ _ _ _
          | some r => exact hset j _ _ rfl _
      | raise j message =>
          have hj : j ≠ i := of_decide_eq_false ha
          dsimp only
          rw [hothers j hj]
          cases requests'[j]? with
          | none => exact hsame _ _ _ _
          | some r =>
              dsimp only
              split
              · exact hsame _ _ _ _
              · exact hset j _ _ rfl _
      | lose j input message =>
          have hj : j ≠ i := of_decide_eq_false ha
          dsimp only
          rw [hothers j hj]
          cases requests'[j]? with
          | none => exact hsame _ _ _ _
          | some r =>
              dsimp only
              split
              · split
                · exact hset j _ _ rfl _
                · exact hsame _ _ _ _
              · exact hsame _ _ _ _

end Omission

/-- The request has failed. -/
def FailedWith (i : Nat) (failure : Failure) (s : Service) : Prop :=
  ∃ r, s.requests[i]? = some r ∧ r.phase = .failed failure

theorem Answered.not_failed {s : Service} {i : Nat} (h : Answered i s) {failure : Failure} :
    ¬ FailedWith i failure s := by
  rintro ⟨r', hr', hfailed⟩
  obtain ⟨r, statusCode, id, doc, hr, hphase⟩ := h
  rw [hr] at hr'
  cases hr'
  rw [hphase] at hfailed
  cases hfailed

/-- In a run from an empty database no reply about an insertion of the request is lost. -/
def RepliesKept (bip44 : Bip44) (i : Nat) (actions : List DeploymentAction) : Prop :=
  Along (Deployment.act bip44) (fun t a => ¬ LosesReply bip44 i t a) .empty actions

section Failed

variable (bip44 : Bip44) {actions : List DeploymentAction} {i : Nat} {failure : Failure}

/-- A request that failed has stored nothing in any of its steps with a reply. -/
theorem invoices_of_failed
    (hfailed : FailedWith i failure (run (Deployment.act bip44) .empty actions).service)
    {before after : List DeploymentAction} {a : DeploymentAction}
    (heq : actions = before ++ a :: after) (ha : a.ofRequest i = true)
    (hkept : ¬ LosesReply bip44 i (run (Deployment.act bip44) .empty before) a) :
    ((run (Deployment.act bip44) .empty before).act bip44 a).service.db.invoices
      = (run (Deployment.act bip44) .empty before).service.db.invoices := by
  rcases (Deployment.requestStep bip44 _ ha hkept).invoices with hsame | hanswered
  · exact hsame
  · -- a request that is answered stays so
    have hlast : Answered i (run (Deployment.act bip44) .empty actions).service := by
      rw [heq, run_append, run_cons]
      exact run_invariant (P := fun t : Deployment => Answered i t.service)
        (fun _ a h => h.act a) hanswered after
    exact absurd hfailed hlast.not_failed

/-- Who loses a reply had taken the index of the invoice that is stored. -/
theorem LosesReply.taken {before after : List DeploymentAction} {a : DeploymentAction}
    (h : LosesReply bip44 i (run (Deployment.act bip44) .empty before) a)
    (heq : actions = before ++ a :: after) :
    ∃ id doc, (i, (doc.network, doc.index)) ∈
        outputs (Deployment.act bip44) Deployment.taken .empty actions ∧
      (run (Deployment.act bip44) .empty before).service.db.invoices.lookup id = none ∧
      ((run (Deployment.act bip44) .empty before).act bip44 a).service.db
        = { (run (Deployment.act bip44) .empty before).service.db with
            invoices := AList.insert id doc
              (run (Deployment.act bip44) .empty before).service.db.invoices } := by
  obtain ⟨id, doc, hheld, hnone, hdb⟩ := h.stores
  refine ⟨id, doc, ?_, hnone, hdb⟩
  rw [heq, outputs_append]
  exact List.mem_append_left _ ((indexLog_run bip44 before).holder hheld)

/-- A request that failed without an index has changed nothing in any of its steps. -/
theorem db_of_failed
    (hfailed : FailedWith i failure (run (Deployment.act bip44) .empty actions).service)
    (hnone : ∀ p, (i, p) ∉ outputs (Deployment.act bip44) Deployment.taken .empty actions) :
    Along (Deployment.act bip44)
      (fun t a => a.ofRequest i = true → (t.act bip44 a).service.db = t.service.db)
      .empty actions := by
  refine along_iff_split.mpr ?_
  intro before a after heq ha
  have hkept : ¬ LosesReply bip44 i (run (Deployment.act bip44) .empty before) a := by
    intro hlose
    obtain ⟨id, doc, htaken, -⟩ := hlose.taken bip44 heq
    exact hnone _ htaken
  have hstep := (run (Deployment.act bip44) .empty before).requestStep bip44 ha hkept
  have htaken : (run (Deployment.act bip44) .empty before).taken a = none := by
    cases ht : (run (Deployment.act bip44) .empty before).taken a with
    | none => rfl
    | some x =>
        obtain ⟨j, p⟩ := x
        obtain rfl := Deployment.taken_ofRequest ht ha
        refine absurd ?_ (hnone p)
        rw [heq]
        exact mem_outputs ht
  have hrows := hstep.keeps (by rw [Deployment.handedOut_eq, htaken]; rfl)
  exact congrArg₂ Database.mk (invoices_of_failed bip44 hfailed heq ha hkept) hrows

/-- Steps of a request that leave the database alone may be left out. -/
theorem run_without
    (h : Along (Deployment.act bip44)
      (fun t a => a.ofRequest i = true → (t.act bip44 a).service.db = t.service.db)
      .empty actions) :
    SameBut i (run (Deployment.act bip44) .empty actions)
      (run (Deployment.act bip44) .empty (actions.filter (fun a => !a.ofRequest i))) := by
  refine h.run_filter (R := SameBut i) ?_ ?_ ⟨rfl, rfl, rfl, rfl, rfl, fun _ _ => rfl⟩
  · intro t u a h ha
    exact h.keep (by simpa using ha)
  · intro t u a h ha hok
    have ha : a.ofRequest i = true := by simpa using ha
    exact h.drop ha (hok ha)

/-- What has become of an index in a run, with the replies lost in it. -/
theorem fate_of_taken {p : Network × Int}
    (hp : (i, p) ∈ outputs (Deployment.act bip44) Deployment.taken .empty actions) :
    ∃ r, (run (Deployment.act bip44) .empty actions).service.requests[i]? = some r ∧
      TicketFate (¬ RepliesKept bip44 i actions)
        (run (Deployment.act bip44) .empty actions).service r p := by
  let unanswered : Prop := ¬ RepliesKept bip44 i actions
  let known (t : Deployment) : Prop := IndexInv t.service ∧
    ∃ r, t.service.requests[i]? = some r ∧ TicketFate unanswered t.service r p
  obtain ⟨before, a, after, heq, htaken⟩ := exists_of_mem_outputs hp
  have hlose : ∀ before a after, actions = before ++ a :: after →
      LosesReply bip44 i (run (Deployment.act bip44) .empty before) a → unanswered :=
    fun before a after heq hl hkept => along_iff_split.mp hkept before a after heq hl
  have hinv := (indexLog_run bip44 before).inv
  have hfirst : known ((run (Deployment.act bip44) .empty before).act bip44 a) :=
    ⟨hinv.act a, (Deployment.taken_fate bip44 unanswered hinv htaken).2⟩
  have hafter : Along (Deployment.act bip44) (fun t b => LosesReply bip44 i t b → unanswered)
      ((run (Deployment.act bip44) .empty before).act bip44 a) after := by
    refine along_iff_split.mpr ?_
    rintro mid b rest rfl hl
    refine hlose (before ++ a :: mid) b rest ?_ ?_
    · rw [heq, List.append_assoc, List.cons_append]
    · rw [run_append, run_cons]
      exact hl
  have hlast := hafter.invariant (P := known) (fun t b hknown hl =>
    ⟨hknown.1.act b, hknown.2.elim (fun r hr => Deployment.act_fate hknown.1 hr.1 hr.2 hl)⟩) hfirst
  have hrun : run (Deployment.act bip44) .empty actions
      = run (Deployment.act bip44) ((run (Deployment.act bip44) .empty before).act bip44 a) after := by
    rw [heq, run_append, run_cons]
  rw [hrun]
  exact hlast.2

/-- The index of a request that failed with all its replies. -/
theorem TicketFate.lost_of_failed {s : Service} {r : Request} {p : Network × Int}
    {unanswered : Prop} (hfate : TicketFate unanswered s r p) (hr : s.requests[i]? = some r)
    (hfailed : FailedWith i failure s) (hkept : ¬ unanswered) : s.tickets.Lost p := by
  obtain ⟨r', hr', hphase⟩ := hfailed
  rw [hr] at hr'
  cases hr'
  cases hfate with
  | inFlight h =>
      rw [hphase] at h
      cases h
  | stored h =>
      rw [hphase] at h
      cases h
  | untold hlose h hheld => exact absurd hlose hkept
  | lost h hlost => exact hlost

/-- What an invoice holds it keeps. -/
theorem held_run {s : Deployment} {id : ObjectId} {p : Network × Int}
    (h : s.service.tickets.held (.invoice id) = some p) (more : List DeploymentAction) :
    (run (Deployment.act bip44) s more).service.tickets.held (.invoice id) = some p :=
  run_invariant (P := fun t : Deployment => t.service.tickets.held (.invoice id) = some p)
    (fun t a h => (t.act_move bip44 a).held h) h more

end Failed

/-- **Failed requests and gaps.** In every run from an empty database: a request that failed
changed no invoice in any of its steps, unless its insertion was applied and the reply lost; then
that one invoice is stored, at an index the request had taken. A request that failed without an
index left the database as it would be without its steps. One that failed with an index took one
only, and the index is lost, no invoice and no request ever has it, or it is that of the invoice
whose reply was lost. Whoever takes an index moves the counter past it, and no index and no request
is there twice. And every index below a counter has been taken by a request, and is held by this
request in flight or by its invoice, or is lost because the request failed. -/
theorem failed_create (bip44 : Bip44) (actions : List DeploymentAction) :
    let s := run (Deployment.act bip44) .empty actions
    let taken := outputs (Deployment.act bip44) Deployment.taken .empty actions
    (∀ i failure, FailedWith i failure s.service →
      (∀ before a after, actions = before ++ a :: after → a.ofRequest i = true →
        let t := run (Deployment.act bip44) .empty before
        (¬ LosesReply bip44 i t a →
          (t.act bip44 a).service.db.invoices = t.service.db.invoices) ∧
        (LosesReply bip44 i t a → ∃ id doc, (i, (doc.network, doc.index)) ∈ taken ∧
          t.service.db.invoices.lookup id = none ∧
          (t.act bip44 a).service.db = { t.service.db with
            invoices := AList.insert id doc t.service.db.invoices })) ∧
      ((∀ p, (i, p) ∉ taken) → s.service.db = (run (Deployment.act bip44) .empty
        (actions.filter (fun a => !a.ofRequest i))).service.db) ∧
      ∀ p, (i, p) ∈ taken → (∀ q, (i, q) ∈ taken → q = p) ∧
        (RepliesKept bip44 i actions → ∀ more,
          (run (Deployment.act bip44) s more).service.tickets.Lost p) ∧
        (¬ RepliesKept bip44 i actions → ∃ id, ∀ more,
          (run (Deployment.act bip44) s more).service.tickets.held (.invoice id) = some p)) ∧
    (taken.map Prod.fst).Nodup ∧ (taken.map Prod.snd).Nodup ∧
    (∀ before a after i p, actions = before ++ a :: after →
      let t := run (Deployment.act bip44) .empty before
      t.taken a = some (i, p) →
        nextIndex t.service.db.walletState p.1 = some p.2 ∧
        nextIndex (t.act bip44 a).service.db.walletState
          = Function.update (nextIndex t.service.db.walletState) p.1 (some (p.2 + 1))) ∧
    (∀ network index, 0 ≤ index → s.service.db.Spent network index →
      ∃ i r, (i, (network, index)) ∈ taken ∧ s.service.requests[i]? = some r ∧
        TicketFate (¬ RepliesKept bip44 i actions) s.service r (network, index)) := by
  intro s taken
  have hlog : IndexLog s taken := indexLog_run bip44 actions
  have honly : ∀ {i p q}, (i, p) ∈ taken → (i, q) ∈ taken → q = p :=
    fun hp hq => congrArg Prod.snd (List.inj_on_of_nodup_map hlog.once hq hp rfl)
  refine ⟨?_, hlog.once, hlog.distinct, ?_, ?_⟩
  · intro i failure hfailed
    refine ⟨?_, ?_, ?_⟩
    · intro before a after heq ha
      exact ⟨invoices_of_failed bip44 hfailed heq ha, fun hlose => hlose.taken bip44 heq⟩
    · intro hnone
      exact (run_without bip44 (db_of_failed bip44 hfailed hnone)).db
    · intro p hp
      refine ⟨fun q hq => honly hp hq, ?_, ?_⟩
      · intro hkept more
        obtain ⟨r, hr, hfate⟩ := fate_of_taken bip44 hp
        exact run_invariant (P := fun t : Deployment => t.service.tickets.Lost p)
          (fun t a h => (t.act_step bip44 a).lost h)
          (hfate.lost_of_failed hr hfailed (not_not.mpr hkept)) more
      · intro hlost
        obtain ⟨before, a, after, heq, hlose⟩ : ∃ before a after, actions = before ++ a :: after ∧
            LosesReply bip44 i (run (Deployment.act bip44) .empty before) a := by
          by_contra hno
          refine hlost (along_iff_split.mpr ?_)
          exact fun before a after heq hlose => hno ⟨before, a, after, heq, hlose⟩
        obtain ⟨id, doc, htaken, -, hdb⟩ := hlose.taken bip44 heq
        have hdoc : (doc.network, doc.index) = p := honly hp htaken
        refine ⟨id, fun more => held_run bip44 ?_ more⟩
        show (run (Deployment.act bip44) .empty actions).service.tickets.held _ = _
        rw [heq, run_append, run_cons]
        refine held_run bip44 ?_ after
        rw [held_invoice, hdb, AList.lookup_insert]
        exact congrArg some hdoc
  · intro before a after i p heq t htaken
    have hstep := t.act_step bip44 a
    rw [t.handedOut_eq, htaken] at hstep
    exact hstep.next_eq
  · intro network index hindex hspent
    obtain ⟨i, hi⟩ := hlog.complete (network, index) hindex (spent_tickets.mpr hspent)
    obtain ⟨r, hr, hfate⟩ := fate_of_taken bip44 hi
    exact ⟨i, r, hi, hr, hfate⟩

/-! ## A gap

The insertion of the first invoice raises. -/

def gapRequest : Request :=
  { process := 0, settings := pairSettings .testnet, body := dustBody }

def gapActions : List ServiceAction :=
  pairStart ++ (.post 0 dustBody :: List.replicate 6 (.create 0 (pairInput 1))) ++
    [.raise 0 "AutoReconnect"]

theorem run_gapActions : ∃ passed, run (Service.act unaryKeys) Service.empty gapActions
    = { pairService with
        db := pairService.db.afterTake .testnet (pairRow .testnet) 0
        requests := [{ gapRequest with passed, phase := .failed (.crash "AutoReconnect") }] } := by
  let posted : Service := { pairService with requests := [gapRequest] }
  obtain ⟨passed, hcreate⟩ :=
    Served.run (s := posted) (i := 0) (r := gapRequest) served_pair rfl rfl 6
  have hpost : pairService.act unaryKeys (.post 0 dustBody) = posted := rfl
  have hserve : run (Service.act unaryKeys) pairService
        (.post 0 dustBody :: List.replicate 6 (.create 0 (pairInput 1)))
      = run (Service.act unaryKeys) posted (List.replicate 6 (.create 0 (pairInput 1))) := by
    rw [run_cons, hpost]
  refine ⟨passed || false, ?_⟩
  rw [gapActions, run_append, run_append, run_pairStart, hserve, hcreate]
  rfl

/-- The index of the request has no invoice, and without the request it would not be taken. -/
theorem gap_of_failed_insert :
    let actions := gapActions.map DeploymentAction.serve
    let s := run (Deployment.act unaryKeys) .empty actions
    let t := run (Deployment.act unaryKeys) .empty (actions.filter (fun a => !a.ofRequest 0))
    FailedWith 0 (.crash "AutoReconnect") s.service ∧
      (∀ r ∈ s.service.requests, r.phase.isFinished = true) ∧
      s.service.db.Spent .testnet 0 ∧
      (∀ id doc, s.service.db.invoices.lookup id = some doc →
        (doc.network, doc.index) ≠ (.testnet, 0)) ∧
      ¬ t.service.db.Spent .testnet 0 := by
  intro actions s t
  obtain ⟨passed, hrun⟩ := run_gapActions
  have hs : s.service = _ := (congrArg Deployment.service
    (Deployment.run_serve unaryKeys .empty gapActions)).trans hrun
  have ht : t.service = { pairService with requests := [gapRequest] } := rfl
  rw [hs, ht]
  refine ⟨?_, ?_, ?_, ?_, ?_⟩
  · exact ⟨_, rfl, rfl⟩
  · intro r hr
    obtain rfl := List.mem_singleton.mp hr
    rfl
  · refine ⟨_, rfl, ?_⟩
    decide
  · intro id doc hdoc
    cases hdoc
  · rintro ⟨row, hrow, hlt⟩
    cases hrow
    exact absurd hlt (by decide)

end V4vappDash
