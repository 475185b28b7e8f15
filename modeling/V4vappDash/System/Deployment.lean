import V4vappDash.System.Bridge
import V4vappDash.System.Service

set_option autoImplicit false

/-! # The deployment

The service together with what changes its invoices after they are stored: the watcher of every
process and the cancel requests. Each step of a watcher makes at most one conditional update, a
cancel request makes one (`watchStep`, `cancelUpdate`); neither touches a wallet row or what an
invoice was created with.
-/

namespace V4vappDash

structure Deployment where
  service : Service
  /-- The watcher of each process and where it is in its tick. -/
  watchers : Nat → WatcherState × TickPhase

def Deployment.empty : Deployment := ⟨.empty, fun _ => ({}, .idle)⟩

inductive DeploymentAction
  | serve (action : ServiceAction)
  /-- The watcher of a process takes a step. -/
  | watch (process : Nat) (input : TickInput)
  /-- The update of a cancel request that has read the clock. -/
  | cancel (id : ObjectId) (now : Datetime)

def Service.setInvoices (s : Service) (invoices : Invoices) : Service :=
  { s with db := { s.db with invoices } }

/-- A process starts a watcher when it has both a database and a node. -/
def Settings.watches (settings : Settings) : Bool :=
  settings.mongoUri ≠ "" && rpcConfigured settings.dashRpcPassword settings.dashRpcUrl

def Deployment.act (bip44 : Bip44) (s : Deployment) : DeploymentAction → Deployment
  | .serve action => { s with service := s.service.act bip44 action }
  | .watch i input =>
      match s.service.processes[i]? with
      | some ⟨settings, .serving _ _⟩ =>
          if settings.watches then
            let (watcher, phase) := s.watchers i
            let (w, phase') :=
              watchStep settings input ⟨s.service.db.invoices, watcher⟩ phase
            { service := s.service.setInvoices w.invoices
              watchers := Function.update s.watchers i (w.watcher, phase') }
          else s
      | _ => s
  | .cancel id now =>
      { s with service := s.service.setInvoices (cancelUpdate s.service.db.invoices id now) }

/-! ## Updates -/

/-- The same documents are stored, as far as they were written when they were created. -/
def SameTerms (invoices invoices' : Invoices) : Prop :=
  ∀ id, (invoices'.lookup id).map InvoiceDoc.asCreated
    = (invoices.lookup id).map InvoiceDoc.asCreated

theorem SameTerms.refl (invoices : Invoices) : SameTerms invoices invoices := fun _ => rfl

theorem SameTerms.updateIf (invoices : Invoices) (id : ObjectId) (p : InvoiceDoc → Bool)
    {f : InvoiceDoc → InvoiceDoc} (hf : ∀ doc, (f doc).asCreated = doc.asCreated) :
    SameTerms invoices (Collection.updateIf invoices id p f) := by
  intro j
  by_cases hj : j = id
  · subst hj
    rw [Collection.lookup_updateIf_self]
    cases invoices.lookup j with
    | none => rfl
    | some doc =>
        show some (if p doc = true then f doc else doc).asCreated = some doc.asCreated
        split
        · rw [hf]
        · rfl
  · rw [Collection.lookup_updateIf_of_ne hj]

/-- A document that is stored after an update was stored before it. -/
theorem SameTerms.lookup {invoices invoices' : Invoices} (h : SameTerms invoices invoices')
    {id : ObjectId} {doc : InvoiceDoc} (hdoc : invoices'.lookup id = some doc) :
    ∃ old, invoices.lookup id = some old ∧ old.asCreated = doc.asCreated := by
  have hid := h id
  rw [hdoc] at hid
  exact Option.map_eq_some_iff.mp hid.symm

/-- A document that was stored before an update is stored after it. -/
theorem SameTerms.exists_lookup {invoices invoices' : Invoices}
    (hterms : SameTerms invoices invoices') {id : ObjectId} {doc : InvoiceDoc}
    (hdoc : invoices.lookup id = some doc) :
    ∃ doc', invoices'.lookup id = some doc' ∧ doc'.asCreated = doc.asCreated := by
  have hid := hterms id
  rw [hdoc] at hid
  exact Option.map_eq_some_iff.mp hid

theorem watchStep_sameTerms (settings : Settings) (input : TickInput) (w : Watch)
    (phase : TickPhase) : SameTerms w.invoices (watchStep settings input w phase).1.invoices := by
  rcases watchStep_invoices settings input w phase with
    hsame | ⟨now, utxosFor, id, inv, rest, d, -, -, hupdate⟩
  · rw [hsame]
    exact .refl _
  · rw [hupdate]
    exact .updateIf _ _ _ (fun doc => rfl)

/-! ## What an action can do -/

/-- What an action does to the service. -/
inductive DeploymentMove (bip44 : Bip44) (s : Service) : DeploymentAction → Service → Prop
  | serve (a : ServiceAction) : DeploymentMove bip44 s (.serve a) (s.act bip44 a)
  | update {a : DeploymentAction} {invoices : Invoices} (ha : ∀ b, a ≠ .serve b)
      (h : SameTerms s.db.invoices invoices) : DeploymentMove bip44 s a (s.setInvoices invoices)

theorem Deployment.act_move (bip44 : Bip44) (s : Deployment) (a : DeploymentAction) :
    DeploymentMove bip44 s.service a (s.act bip44 a).service := by
  cases a with
  | serve a => exact .serve a
  | cancel id now =>
      have hterms : ∀ doc, (cancelDoc now doc).asCreated = doc.asCreated := fun doc => rfl
      refine .update ?_ (.updateIf s.service.db.invoices id cancelable hterms)
      intro b hb
      cases hb
  | watch i input =>
      have hne : ∀ b, DeploymentAction.watch i input ≠ .serve b := by
        intro b hb
        cases hb
      have hidle : DeploymentMove bip44 s.service (.watch i input)
          (s.service.setInvoices s.service.db.invoices) := .update hne (.refl _)
      unfold Deployment.act
      dsimp only
      cases s.service.processes[i]? with
      | none => exact hidle
      | some p =>
          obtain ⟨settings, phase⟩ := p
          cases phase with
          | starting | loaded | absent | ensured | failed => exact hidle
          | serving material bootstrap =>
              dsimp only
              cases settings.watches with
              | false => exact hidle
              | true => exact .update hne (watchStep_sameTerms settings input _ _)

/-- An invoice stays, on the terms it was created with. -/
theorem Deployment.lookup_act (bip44 : Bip44) (s : Deployment) (a : DeploymentAction)
    {id : ObjectId} {doc : InvoiceDoc} (hdoc : s.service.db.invoices.lookup id = some doc) :
    ∃ doc', (s.act bip44 a).service.db.invoices.lookup id = some doc' ∧
      doc'.asCreated = doc.asCreated := by
  have hmove := Deployment.act_move bip44 s a
  generalize (s.act bip44 a).service = t at hmove ⊢
  cases hmove with
  | serve a => exact ⟨doc, (Service.act_move bip44 s.service a).lookup hdoc, rfl⟩
  | update ha hsame => exact hsame.exists_lookup hdoc

/-- What was stored at some time of a run stays stored, on the same terms. -/
theorem Deployment.lookup_run (bip44 : Bip44) (s : Deployment) (actions : List DeploymentAction)
    {id : ObjectId} {doc : InvoiceDoc} (hdoc : s.service.db.invoices.lookup id = some doc) :
    ∃ doc', (Machine.run (Deployment.act bip44) s actions).service.db.invoices.lookup id = some doc' ∧
      doc'.asCreated = doc.asCreated := by
  induction actions generalizing s doc with
  | nil => exact ⟨doc, hdoc, rfl⟩
  | cons a rest ih =>
      obtain ⟨next, hnext, hterms⟩ := Deployment.lookup_act bip44 s a hdoc
      obtain ⟨doc', hdoc', hterms'⟩ := ih (s.act bip44 a) hnext
      exact ⟨doc', hdoc', hterms'.trans hterms⟩

/-- What is stored after an action was stored before it, on the same terms, or was built by a
request. -/
theorem Deployment.stored_or_built (bip44 : Bip44) (s : Deployment) (a : DeploymentAction)
    {id : ObjectId} {doc : InvoiceDoc}
    (hdoc : (s.act bip44 a).service.db.invoices.lookup id = some doc) :
    (∃ old, s.service.db.invoices.lookup id = some old ∧ old.asCreated = doc.asCreated) ∨
      ∃ (n : Nat) (r : Request), s.service.requests[n]? = some r ∧ r.phase = .built doc := by
  have hmove := Deployment.act_move bip44 s a
  generalize (s.act bip44 a).service = t at hmove hdoc
  cases hmove with
  | update _ hterms => exact Or.inl (hterms.lookup hdoc)
  | serve a =>
      rcases (s.service.act_move bip44 a).stored_or_built hdoc with hold | hbuilt
      · exact Or.inl ⟨doc, hold, rfl⟩
      · exact Or.inr hbuilt

theorem Deployment.buildsNew_act (bip44 : Bip44) (s : Deployment) (a : DeploymentAction)
    (h : ∀ (n : Nat) r, s.service.requests[n]? = some r → BuildsNew r) (n : Nat) (r : Request)
    (hr : (s.act bip44 a).service.requests[n]? = some r) : BuildsNew r := by
  have hmove := Deployment.act_move bip44 s a
  generalize (s.act bip44 a).service = t at hmove hr
  cases hmove with
  | update _ _ => exact h n r hr
  | serve a => exact (s.service.act_move bip44 a).buildsNew h n r hr

/-- Actions of the service alone. -/
theorem Deployment.run_serve (bip44 : Bip44) (s : Deployment) (actions : List ServiceAction) :
    Machine.run (Deployment.act bip44) s (actions.map .serve)
      = { s with service := Machine.run (Service.act bip44) s.service actions } := by
  induction actions generalizing s with
  | nil => rfl
  | cons a rest ih => exact ih (s.act bip44 (.serve a))

theorem Deployment.along_serve {bip44 : Bip44} {ok : Deployment → DeploymentAction → Prop}
    {s : Deployment} {actions : List ServiceAction} :
    Machine.Along (Deployment.act bip44) ok s (actions.map .serve) ↔
      Machine.Along (Service.act bip44) (fun t a => ok { s with service := t } (.serve a)) s.service
        actions := by
  induction actions generalizing s with
  | nil => exact Iff.rfl
  | cons a rest ih => exact and_congr_right (fun _ => ih)

end V4vappDash
