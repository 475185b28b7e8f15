import V4vappDash.Api.Deps
import V4vappDash.System.KeyLock
import V4vappDash.System.Progress

set_option autoImplicit false

/-! # Who changes what

The deployment with its HTTP requests: a request comes with a header, and gets to its handler only
with a key of the process it is sent to. What the other actions do (boots, the steps of requests
that were let in, watchers) needs no key. Still, everything that is stored was asked for with a key,
and everything that is canceled was canceled with one: `stored_by_key`.
-/

namespace V4vappDash

open Machine

/-- The requests of clients, as opposed to what the processes do by themselves. -/
def DeploymentAction.isRequest : DeploymentAction → Bool
  | .serve (.post _ _) => true
  | .cancel _ _ => true
  | _ => false

inductive HttpAction
  /-- `POST /v1/invoices`. -/
  | create (process : Nat) (key : Option String) (body : InvoiceCreate)
  /-- `POST /v1/invoices/{id}/cancel`; the clock is read behind the check of the key. -/
  | cancel (process : Nat) (key : Option String) (id : ObjectId) (now : Datetime)
  | other (action : DeploymentAction) (notRequest : action.isRequest = false)

/-- What an action does in the deployment, unless it is turned away. -/
def HttpAction.admitted (keys : Nat → ApiKeys) (s : Deployment) :
    HttpAction → Option DeploymentAction
  | .create i key body =>
      match requireApiKey (keys i) key with
      | .error _ => none
      | .ok _ => some (.serve (.post i body))
  | .cancel i key id now =>
      match requireApiKey (keys i) key, s.service.processes[i]? with
      | .ok _, some ⟨settings, .serving _ _⟩ =>
          -- `_mongo`: the process has a database
          if settings.mongoUri = "" then none else some (.cancel id now)
      | _, _ => none
  | .other action _ => some action

def Deployment.http (keys : Nat → ApiKeys) (bip44 : Bip44) (s : Deployment) (a : HttpAction) :
    Deployment :=
  match a.admitted keys s with
  | none => s
  | some action => s.act bip44 action

/-- The requests that were let in. -/
def HttpAction.letIn (keys : Nat → ApiKeys) (s : Deployment) (a : HttpAction) :
    Option HttpAction :=
  ((a.admitted keys s).filter DeploymentAction.isRequest).map (fun _ => a)

/-- The request came with a key of the process it was sent to. -/
def HttpAction.Keyed (keys : Nat → ApiKeys) : HttpAction → Prop
  | .create i key _ | .cancel i key _ _ => ∃ provided, key = some provided ∧ provided ≠ "" ∧
      (provided = (keys i).dashApiKey ∨ provided = (keys i).dashApiKeyPrev)
  | .other _ _ => False

/-- The actions that are not turned away, and what they do. -/
inductive Admitted (keys : Nat → ApiKeys) : HttpAction → DeploymentAction → Prop
  | create {i : Nat} {key : Option String} {body : InvoiceCreate} {provided : String}
      (h : requireApiKey (keys i) key = .ok provided) :
      Admitted keys (.create i key body) (.serve (.post i body))
  | cancel {i : Nat} {key : Option String} {id : ObjectId} {now : Datetime} {provided : String}
      (h : requireApiKey (keys i) key = .ok provided) :
      Admitted keys (.cancel i key id now) (.cancel id now)
  | other {action : DeploymentAction} (h : action.isRequest = false) :
      Admitted keys (.other action h) action

theorem HttpAction.admitted_some {keys : Nat → ApiKeys} {s : Deployment} {a : HttpAction}
    {action : DeploymentAction} (h : a.admitted keys s = some action) : Admitted keys a action := by
  cases a with
  | other action' hnot =>
      cases h
      exact .other hnot
  | create i key body =>
      unfold HttpAction.admitted at h
      dsimp only at h
      cases hkey : requireApiKey (keys i) key with
      | error e =>
          rw [hkey] at h
          cases h
      | ok provided =>
          rw [hkey] at h
          cases h
          exact .create hkey
  | cancel i key id now =>
      unfold HttpAction.admitted at h
      dsimp only at h
      split at h
      · split_ifs at h
        cases h
        exact .cancel ‹_›
      · cases h

/-- A request that was let in was sent with a key. -/
theorem Admitted.keyed {keys : Nat → ApiKeys} {a : HttpAction} {action : DeploymentAction}
    (h : Admitted keys a action) (hrequest : action.isRequest = true) : a.Keyed keys := by
  cases h with
  | create hkey => exact ⟨_, requireApiKey_ok hkey⟩
  | cancel hkey => exact ⟨_, requireApiKey_ok hkey⟩
  | other hnot =>
      rw [hrequest] at hnot
      cases hnot

/-- The invoice is what the body asks for. -/
structure InvoiceDoc.Asks (doc : InvoiceDoc) (body : InvoiceCreate) : Prop where
  externalId : doc.externalId = body.externalId
  custId : doc.custId = body.custId
  memo : doc.memo = body.memo
  sats : doc.satsRequested = body.sats
  expiresInS : doc.expiresInS = body.expiresInS

/-- What there is is accounted for by the requests that were let in. -/
structure Accounted (s : Deployment) (given : List HttpAction) : Prop where
  requests : ∀ (n : Nat) r, s.service.requests[n]? = some r →
    ∃ key, .create r.process key r.body ∈ given
  builds : ∀ (n : Nat) r, s.service.requests[n]? = some r → BuildsNew r
  stored : ∀ id doc, s.service.db.invoices.lookup id = some doc →
    ∃ i key body, .create i key body ∈ given ∧ doc.Asks body
  canceled : ∀ id doc, s.service.db.invoices.lookup id = some doc → doc.state = .CANCELED →
    ∃ i key now, .cancel i key id now ∈ given

section Accounted

variable {bip44 : Bip44} {s : Deployment} {given : List HttpAction}

theorem InvoiceDoc.Asks.sameTerms {doc doc' : InvoiceDoc} {body : InvoiceCreate}
    (h : doc.Asks body) (hterms : doc.asCreated = doc'.asCreated) : doc'.Asks body := by
  have hterm := fun {β : Type} (f : InvoiceDoc → β) => congrArg f hterms
  have hexternal : doc.externalId = doc'.externalId := hterm InvoiceDoc.externalId
  have hcust : doc.custId = doc'.custId := hterm InvoiceDoc.custId
  have hmemo : doc.memo = doc'.memo := hterm InvoiceDoc.memo
  have hsats : doc.satsRequested = doc'.satsRequested := hterm InvoiceDoc.satsRequested
  have hexpires : doc.expiresInS = doc'.expiresInS := hterm InvoiceDoc.expiresInS
  constructor
  · rw [← hexternal, h.externalId]
  · rw [← hcust, h.custId]
  · rw [← hmemo, h.memo]
  · rw [← hsats, h.sats]
  · rw [← hexpires, h.expiresInS]

theorem asks_newInvoice (settings : Settings) (body : InvoiceCreate) (pricing : Pricing)
    (address : String) (derivation : Derivation) (now : Datetime) :
    (newInvoice settings body pricing address derivation now).Asks body :=
  ⟨rfl, rfl, rfl, rfl, rfl⟩

/-- Only a canceled invoice is decided as canceled. -/
theorem settle_canceled {inv : InvoiceDoc} {outputs : List WatchedOutput} {now : Datetime}
    (h : (settle inv outputs now).state = .CANCELED) : inv.state = .CANCELED := by
  by_contra hne
  have hcanceled : (inv.state == .CANCELED) = false := by simpa using hne
  unfold settle applySettlement at h
  simp only [hcanceled, Bool.or_self, Bool.false_eq_true, if_false] at h
  split_ifs at h

/-- A decision does not cancel an invoice that is not canceled. -/
theorem update_not_canceled {inv stored : InvoiceDoc} {outputs : List WatchedOutput}
    {now : Datetime} (hstored : stored.state ≠ .CANCELED)
    (hfilter : persistFilter inv.state (settle inv outputs now).state stored.state = true) :
    ((settle inv outputs now).update now stored).state ≠ .CANCELED := by
  intro hcanceled
  have hdecided : (settle inv outputs now).state = .CANCELED := hcanceled
  have hinv := settle_canceled hdecided
  rw [hdecided, hinv] at hfilter
  exact hstored (persistFilter_kept (Or.inr rfl) hfilter)

/-- What is canceled was canceled before, unless it is canceled in this action. -/
theorem Deployment.canceled_before (a : DeploymentAction) {id : ObjectId} {old doc : InvoiceDoc}
    (hold : s.service.db.invoices.lookup id = some old)
    (hdoc : (s.act bip44 a).service.db.invoices.lookup id = some doc)
    (hcanceled : doc.state = .CANCELED) (hne : ∀ now, a ≠ .cancel id now) :
    old.state = .CANCELED := by
  by_contra hopen
  have hstays : (s.act bip44 a).Stored id (fun doc => doc.state ≠ .CANCELED) := by
    refine Deployment.stored_act bip44 ⟨old, hold, hopen⟩ (fun _ h => h) (.of_ne hne) ?_
    rintro j input settings now utxosFor inv rest d stored - - - hd hstored hfilter
    obtain ⟨fresh, -, -, rfl⟩ := decideInvoice_ok hd
    exact update_not_canceled hstored hfilter
  obtain ⟨doc', hdoc', hnot⟩ := hstays
  rw [hdoc] at hdoc'
  cases hdoc'
  exact hnot hcanceled

theorem Accounted.mono {given' : List HttpAction} (h : Accounted s given)
    (hsub : ∀ a ∈ given, a ∈ given') : Accounted s given' where
  requests n r hr := by
    obtain ⟨key, hkey⟩ := h.requests n r hr
    exact ⟨key, hsub _ hkey⟩
  builds := h.builds
  stored id doc hdoc := by
    obtain ⟨i, key, body, hgiven, hasks⟩ := h.stored id doc hdoc
    exact ⟨i, key, body, hsub _ hgiven, hasks⟩
  canceled id doc hdoc hstate := by
    obtain ⟨i, key, now, hgiven⟩ := h.canceled id doc hdoc hstate
    exact ⟨i, key, now, hsub _ hgiven⟩

/-- A request that is there after an action was there before it, or has just been posted. -/
theorem Deployment.request_act (a : DeploymentAction) {n : Nat} {r : Request}
    (hr : (s.act bip44 a).service.requests[n]? = some r) :
    (∃ r₀, s.service.requests[n]? = some r₀ ∧ r.process = r₀.process ∧ r.body = r₀.body) ∨
      a = .serve (.post r.process r.body) := by
  have hmove := Deployment.act_move bip44 s a
  generalize (s.act bip44 a).service = t at hmove hr
  cases hmove with
  | update _ _ => exact Or.inl ⟨r, hr, rfl, rfl⟩
  | serve a =>
      rcases (s.service.act_move bip44 a).request hr with
        ⟨r₀, hr₀, hprocess, -, hbody⟩ | ⟨hpost, -⟩
      · exact Or.inl ⟨r₀, hr₀, hprocess, hbody⟩
      · exact Or.inr (congrArg DeploymentAction.serve hpost)

/-- An action for which there are the requests that it takes. -/
theorem Accounted.act (h : Accounted s given) (a : DeploymentAction)
    (hpost : ∀ i body, a = .serve (.post i body) → ∃ key, .create i key body ∈ given)
    (hcancel : ∀ id now, a = .cancel id now → ∃ i key, .cancel i key id now ∈ given) :
    Accounted (s.act bip44 a) given where
  requests n r hr := by
    rcases Deployment.request_act a hr with ⟨r₀, hr₀, hprocess, hbody⟩ | hnew
    · rw [hprocess, hbody]
      exact h.requests n r₀ hr₀
    · exact hpost _ _ hnew
  builds := Deployment.buildsNew_act bip44 s a h.builds
  stored id doc hdoc := by
    rcases Deployment.stored_or_built bip44 s a hdoc with ⟨old, hold, hterms⟩ | ⟨n, r, hr, hbuilt⟩
    · obtain ⟨i, key, body, hgiven, hasks⟩ := h.stored id old hold
      exact ⟨i, key, body, hgiven, hasks.sameTerms hterms⟩
    · obtain ⟨key, hgiven⟩ := h.requests n r hr
      obtain ⟨pricing, address, derivation, now, rfl⟩ := h.builds n r hr doc hbuilt
      exact ⟨r.process, key, r.body, hgiven, asks_newInvoice ..⟩
  canceled id doc hdoc hstate := by
    by_cases hnow : ∃ now, a = .cancel id now
    · obtain ⟨now, heq⟩ := hnow
      obtain ⟨i, key, hgiven⟩ := hcancel id now heq
      exact ⟨i, key, now, hgiven⟩
    · rcases Deployment.stored_or_built bip44 s a hdoc with ⟨old, hold, -⟩ | ⟨n, r, hr, hbuilt⟩
      · exact h.canceled id old hold (Deployment.canceled_before a hold hdoc hstate
          (fun now heq => hnow ⟨now, heq⟩))
      -- an invoice is open when it is built
      · obtain ⟨pricing, address, derivation, now, rfl⟩ := h.builds n r hr doc hbuilt
        cases hstate

/-- **The step lemma.** -/
theorem Accounted.http {keys : Nat → ApiKeys} (h : Accounted s given) (a : HttpAction) :
    Accounted (s.http keys bip44 a) (given ++ (a.letIn keys s).toList) := by
  have hmore : Accounted s (given ++ (a.letIn keys s).toList) :=
    h.mono (fun b hb => List.mem_append_left _ hb)
  unfold Deployment.http
  cases hadmitted : a.admitted keys s with
  | none => exact hmore
  | some action =>
      have hthere : action.isRequest = true → a ∈ given ++ (a.letIn keys s).toList := by
        intro hrequest
        unfold HttpAction.letIn
        rw [hadmitted, Option.filter_some_pos hrequest]
        exact List.mem_append_right _ List.mem_cons_self
      have hwhat := HttpAction.admitted_some hadmitted
      refine hmore.act action ?_ ?_
      · rintro i body rfl
        cases hwhat with
        | create _ => exact ⟨_, hthere rfl⟩
        | other hnot => cases hnot
      · rintro id now rfl
        cases hwhat with
        | cancel _ => exact ⟨_, _, hthere rfl⟩
        | other hnot => cases hnot

theorem accounted_empty : Accounted .empty [] := by
  constructor
  · intro n r hr
    cases hr
  · intro n r hr
    cases hr
  · intro id doc hdoc
    cases hdoc
  · intro id doc hdoc
    cases hdoc

theorem HttpAction.letIn_some {keys : Nat → ApiKeys} {a b : HttpAction}
    (h : a.letIn keys s = some b) : a = b ∧ b.Keyed keys := by
  unfold HttpAction.letIn at h
  obtain ⟨action, haction, rfl⟩ := Option.map_eq_some_iff.mp h
  obtain ⟨hadmitted, hrequest⟩ := Option.filter_eq_some_iff.mp haction
  exact ⟨rfl, (HttpAction.admitted_some hadmitted).keyed hrequest⟩

end Accounted

/-- **Everything stored was asked for with a key.** In every run, whatever requests are sent with
whatever headers: every stored invoice is what an earlier create request asks for that was sent
with a key of its process, and every canceled one was canceled by a request for it that was sent
with a key of its process. -/
theorem stored_by_key (keys : Nat → ApiKeys) (bip44 : Bip44) (actions : List HttpAction)
    (id : ObjectId) (doc : InvoiceDoc)
    (hdoc : (run (Deployment.http keys bip44) .empty actions).service.db.invoices.lookup id
      = some doc) :
    (∃ i key body, .create i key body ∈ actions ∧
        (HttpAction.create i key body).Keyed keys ∧ doc.Asks body) ∧
      (doc.state = .CANCELED → ∃ i key now, .cancel i key id now ∈ actions ∧
        (HttpAction.cancel i key id now).Keyed keys) := by
  have haccounted : Accounted (run (Deployment.http keys bip44) .empty actions)
      (outputs (Deployment.http keys bip44) (fun s a => a.letIn keys s) .empty actions) :=
    outputs_invariant (fun s given a hs => hs.http a) accounted_empty actions
  -- a request that was let in is an action of the run
  have hgiven : ∀ b ∈ outputs (Deployment.http keys bip44) (fun s a => a.letIn keys s) .empty
      actions, b ∈ actions ∧ b.Keyed keys := by
    intro b hb
    obtain ⟨before, a, after, rfl, hlet⟩ := exists_of_mem_outputs hb
    obtain ⟨rfl, hkeyed⟩ := HttpAction.letIn_some hlet
    exact ⟨List.mem_append_right _ List.mem_cons_self, hkeyed⟩
  constructor
  · obtain ⟨i, key, body, hmem, hasks⟩ := haccounted.stored id doc hdoc
    obtain ⟨hin, hkeyed⟩ := hgiven _ hmem
    exact ⟨i, key, body, hin, hkeyed, hasks⟩
  · intro hstate
    obtain ⟨i, key, now, hmem⟩ := haccounted.canceled id doc hdoc hstate
    obtain ⟨hin, hkeyed⟩ := hgiven _ hmem
    exact ⟨i, key, now, hin, hkeyed⟩

/-! ## A key that is being replaced -/

def rotatedKeys : Nat → ApiKeys :=
  fun _ => { dashApiKey := "new", dashApiKeyPrev := "old" }

/-- A client creates an invoice with the old key, and one cancels it with the new key. -/
def rotatedActions : List HttpAction :=
  .other (.serve (.start fileSettings)) (by decide) ::
    (List.replicate 4 (.other (.serve (.boot 0 fileBoot)) (by decide)) ++
      (.create 0 (some "old") dustBody ::
        (List.replicate 7 (.other (.serve (.create 0 (fileInput "tpubA"))) (by decide)) ++
          [.cancel 0 (some "new") 1 0])))

theorem run_http_other (keys : Nat → ApiKeys) (bip44 : Bip44) (s : Deployment)
    (action : ServiceAction) (h : (DeploymentAction.serve action).isRequest = false) (n : Nat) :
    run (Deployment.http keys bip44) s (List.replicate n (.other (.serve action) h))
      = { s with service := run (Service.act bip44) s.service (List.replicate n action) } := by
  induction n generalizing s with
  | zero => rfl
  | succ n ih => exact ih (s.act bip44 (.serve action))

theorem lookup_rotated : (run (Deployment.http rotatedKeys fileKeys) .empty
    rotatedActions).service.db.invoices.lookup 1 = some (cancelDoc 0 fileInvoice) := by
  unfold rotatedActions
  rw [run_cons, run_append, run_http_other, run_cons, run_append, run_http_other]
  change (cancelUpdate (run _ fileService _).db.invoices 1 0).lookup 1 = _
  unfold cancelUpdate
  rw [Collection.lookup_updateIf_self, lookup_fileServed]
  rfl

theorem stored_by_key_canceled :
    (∃ i key body, .create i key body ∈ rotatedActions ∧
        (HttpAction.create i key body).Keyed rotatedKeys ∧ (cancelDoc 0 fileInvoice).Asks body) ∧
      ∃ i key now, .cancel i key 1 now ∈ rotatedActions ∧
        (HttpAction.cancel i key 1 now).Keyed rotatedKeys := by
  obtain ⟨hcreated, hcanceled⟩ :=
    stored_by_key rotatedKeys fileKeys rotatedActions 1 _ lookup_rotated
  exact ⟨hcreated, hcanceled rfl⟩

end V4vappDash
