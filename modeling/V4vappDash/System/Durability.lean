import V4vappDash.Api.Read
import V4vappDash.System.KeyLock
import V4vappDash.System.Outages
import V4vappDash.System.Pagination

set_option autoImplicit false

/-! # Answers last

An invoice that a create request has been answered with, whether the request made it or found it,
is stored for good: from then on both requests for it show it, on the terms of that answer,
whatever boots, creates, ticks and cancels do (`answers_last`). Only what has happened to the
invoice, and what has been paid, is shown differently later.
-/

namespace V4vappDash

open Machine

/-- No two stored invoices have the same external id. -/
def DistinctExternalIds (invoices : Invoices) : Prop :=
  ∀ id id' doc doc', invoices.lookup id = some doc → invoices.lookup id' = some doc' →
    doc.externalId = doc'.externalId → id = id'

/-- The invoice of an answer is stored, on the terms it was created with. -/
def AnswerStored (invoices : Invoices) (r : Request) : Prop :=
  ∀ statusCode id doc, r.phase = .answered statusCode id doc →
    ∃ doc', invoices.lookup id = some doc' ∧ doc'.asCreated = doc.asCreated

structure Durable (s : Service) : Prop where
  docs : s.Docs InvoiceDoc.Shown
  distinct : DistinctExternalIds s.db.invoices
  answers : ∀ r ∈ s.requests, AnswerStored s.db.invoices r

/-! ## Steps -/

section Steps

variable {bip44 : Bip44} {s t : Service} {a : ServiceAction}

theorem DistinctExternalIds.create {settings : Settings} {body : InvoiceCreate}
    {input : CreateInput} {db db' : Database} {phase phase' : CreatePhase}
    (h : DistinctExternalIds db.invoices)
    (hmove : CreateMove settings bip44 body input db phase db' phase') :
    DistinctExternalIds db'.invoices := by
  intro id id' doc doc' hdoc hdoc' heq
  rcases hmove.stored hdoc with hold | ⟨-, hanswer, -, hdup⟩
  · rcases hmove.stored hdoc' with hold' | ⟨-, -, -, hdup'⟩
    · exact h id id' doc doc' hold hold' heq
    · exact absurd heq ((duplicateKey_eq_false hdup').2 id doc hold).1
  · rcases hmove.stored hdoc' with hold' | ⟨-, hanswer', -, -⟩
    · exact absurd heq.symm ((duplicateKey_eq_false hdup).2 id' doc' hold').1
    · rw [hanswer] at hanswer'
      cases hanswer'
      rfl

theorem SameTerms.distinctExternalIds {invoices invoices' : Invoices}
    (hterms : SameTerms invoices invoices') (h : DistinctExternalIds invoices) :
    DistinctExternalIds invoices' := by
  intro id id' doc doc' hdoc hdoc' heq
  obtain ⟨old, hold, hsame⟩ := hterms.lookup hdoc
  obtain ⟨old', hold', hsame'⟩ := hterms.lookup hdoc'
  have hext := congrArg InvoiceDoc.externalId hsame
  have hext' := congrArg InvoiceDoc.externalId hsame'
  exact h id id' old old' hold hold' (hext.trans (heq.trans hext'.symm))

theorem AnswerStored.mono {invoices invoices' : Invoices} {r : Request}
    (h : AnswerStored invoices r)
    (hkept : ∀ id doc, invoices.lookup id = some doc →
      ∃ doc', invoices'.lookup id = some doc' ∧ doc'.asCreated = doc.asCreated) :
    AnswerStored invoices' r := by
  intro statusCode id doc hphase
  obtain ⟨stored, hstored, hterms⟩ := h statusCode id doc hphase
  obtain ⟨doc', hdoc', hterms'⟩ := hkept id stored hstored
  exact ⟨doc', hdoc', hterms'.trans hterms⟩

/-- A request is answered with what it has found or inserted. -/
theorem AnswerStored.create {input : CreateInput} {r : Request} {db db' : Database}
    {phase : CreatePhase} (h : AnswerStored db.invoices r)
    (hmove : CreateMove r.settings bip44 r.body input db r.phase db' phase) :
    AnswerStored db'.invoices (r.next phase) := by
  intro statusCode id doc hphase
  have hphase : phase = .answered statusCode id doc := hphase
  subst hphase
  generalize hbefore : r.phase = before at hmove
  cases hmove with
  | found hdoc _ _ => exact ⟨doc, hdoc, rfl⟩
  | insert _ _ => exact ⟨doc, AList.lookup_insert _, rfl⟩
  | stay => exact h statusCode id doc hbefore

theorem ServiceMove.durable (hmove : ServiceMove bip44 s a t) (h : Durable s) : Durable t := by
  have hdocs := hmove.docs h.docs (fun settings body pricing _ _ address derivation now _ =>
    shown_newInvoice settings body pricing address derivation now)
  have hkept : ∀ id doc, s.db.invoices.lookup id = some doc →
      ∃ doc', t.db.invoices.lookup id = some doc' ∧ doc'.asCreated = doc.asCreated :=
    fun id doc hdoc => ⟨doc, hmove.lookup hdoc, rfl⟩
  have hanswers : ∀ r ∈ s.requests, AnswerStored t.db.invoices r :=
    fun r hr => (h.answers r hr).mono hkept
  cases hmove with
  | idle => exact h
  | start => exact ⟨hdocs, h.distinct, hanswers⟩
  | boot hp hboot =>
      refine ⟨hdocs, ?_, hanswers⟩
      dsimp only
      rw [hboot.invoices]
      exact h.distinct
  | post hp =>
      refine ⟨hdocs, h.distinct, ?_⟩
      intro r hr
      rcases List.mem_append.mp hr with hr | hr
      · exact hanswers r hr
      · rw [List.mem_singleton.mp hr]
        intro statusCode id doc hphase
        cases hphase
  | create hr hcreate =>
      refine ⟨hdocs, h.distinct.create hcreate, ?_⟩
      intro r' hr'
      rcases List.mem_or_eq_of_mem_set hr' with hold | rfl
      · exact hanswers r' hold
      · exact (h.answers _ (List.mem_of_getElem? hr)).create hcreate
  | raise hr hfin =>
      refine ⟨hdocs, h.distinct, ?_⟩
      intro r' hr'
      rcases List.mem_or_eq_of_mem_set hr' with hold | rfl
      · exact hanswers r' hold
      · intro statusCode id doc hphase
        cases hphase
  | lose hr hphase hcreate =>
      refine ⟨hdocs, h.distinct.create hcreate, ?_⟩
      intro r' hr'
      rcases List.mem_or_eq_of_mem_set hr' with hold | rfl
      · exact hanswers r' hold
      · intro statusCode id doc hphase
        cases hphase

/-- **The step lemma.** -/
theorem Durable.act {s : Deployment} (h : Durable s.service) (a : DeploymentAction) :
    Durable (s.act bip44 a).service := by
  have hmove := Deployment.act_move bip44 s a
  generalize (s.act bip44 a).service = t at hmove ⊢
  cases hmove with
  | serve a => exact (Service.act_move bip44 s.service a).durable h
  | update ha hterms =>
      refine ⟨⟨?_, h.docs.built⟩, hterms.distinctExternalIds h.distinct, ?_⟩
      · intro id doc hdoc
        obtain ⟨old, hold, hsame⟩ := hterms.lookup hdoc
        have hpolicy := congrArg InvoiceDoc.policy hsame
        obtain ⟨policy, out, hold, hout⟩ := h.docs.stored id old hold
        exact ⟨policy, out, hpolicy.symm.trans hold, hout⟩
      · exact fun r hr => (h.answers r hr).mono (fun id doc hdoc => hterms.exists_lookup hdoc)

end Steps

/-! ## What is shown later -/

section Shown

variable {forms : TextForms} {id : ObjectId} {doc doc' : InvoiceDoc} {out : InvoiceOut}

theorem docToOut_asCreated (forms : TextForms) (id : ObjectId) (doc : InvoiceDoc) :
    docToOut forms id doc.asCreated = (docToOut forms id doc).map InvoiceOut.fixed := by
  show docToOut forms id { doc.asCreated with policy := doc.policy } = _
  unfold docToOut
  cases doc.policy with
  | none => rfl
  | some stored =>
      dsimp only
      cases stored.out with
      | error message => rfl
      | ok policy => rfl

/-- Documents that were created alike show the same fixed fields. -/
theorem docToOut_fixed (hterms : doc'.asCreated = doc.asCreated)
    (hout : docToOut forms id doc = .ok out) :
    ∃ out', docToOut forms id doc' = .ok out' ∧ out'.fixed = out.fixed := by
  have hmap : (docToOut forms id doc').map InvoiceOut.fixed = .ok out.fixed := by
    rw [← docToOut_asCreated, hterms, docToOut_asCreated, hout]
    rfl
  cases hshown : docToOut forms id doc' with
  | error message =>
      rw [hshown] at hmap
      cases hmap
  | ok out' =>
      rw [hshown] at hmap
      exact ⟨out', rfl, Except.ok.inj hmap⟩

end Shown

theorem durable_empty : Durable Service.empty where
  docs := ⟨fun _ _ hdoc => (by cases hdoc), fun _ hr => (by cases hr)⟩
  distinct := fun _ _ _ _ hdoc => (by cases hdoc)
  answers := fun _ hr => (by cases hr)

theorem durable_run (bip44 : Bip44) (actions : List DeploymentAction) :
    Durable (run (Deployment.act bip44) .empty actions).service :=
  run_invariant (P := fun s : Deployment => Durable s.service) (fun _ a h => h.act a)
    durable_empty actions

/-- **Answers last.** In every run of the deployment: after a create request has been answered
with an invoice, both requests for it, by its `_id` and by its external id, show the same; and
from then on they always show it with the same fixed fields, whose terms are those of the answer.
The times are left out of that last comparison, because the answer to a create shows them as they
were before the database has cut them to milliseconds. -/
theorem answers_last (bip44 : Bip44) (forms : TextForms) (before : List DeploymentAction)
    (r : Request) (hr : r ∈ (run (Deployment.act bip44) .empty before).service.requests)
    (statusCode : Nat) (id : ObjectId) (doc : InvoiceDoc)
    (hphase : r.phase = .answered statusCode id doc) :
    ∃ answer shown, docToOut forms id doc = .ok answer ∧ shown.terms = answer.terms ∧
      ∀ later, ∃ out,
        getInvoice forms (some (run (Deployment.act bip44) .empty
          (before ++ later)).service.db.invoices) (forms.str id) = .ok out ∧
        getByExternal forms (some (run (Deployment.act bip44) .empty
          (before ++ later)).service.db.invoices) doc.externalId = .ok out ∧
        out.fixed = shown := by
  obtain ⟨stored, hstored, hterms⟩ := (durable_run bip44 before).answers r hr statusCode id doc hphase
  obtain ⟨first, hfirst⟩ :=
    ((durable_run bip44 before).docs.stored id stored hstored).out forms id
  obtain ⟨answer, hanswer, hfixed⟩ := docToOut_fixed hterms.symm hfirst
  refine ⟨answer, first.fixed, hanswer, ?_, ?_⟩
  · show InvoiceOut.terms first = InvoiceOut.terms answer
    unfold InvoiceOut.terms
    rw [hfixed]
  · intro later
    obtain ⟨doc', hdoc', hterms'⟩ := Deployment.lookup_run bip44
      (run (Deployment.act bip44) .empty before) later hstored
    rw [← run_append] at hdoc'
    obtain ⟨out, hout, hsame⟩ := docToOut_fixed hterms' hfirst
    have hext : doc'.externalId = doc.externalId := by
      have hcreated := congrArg InvoiceDoc.externalId (hterms'.trans hterms)
      exact hcreated
    have hdistinct := (durable_run bip44 (before ++ later)).distinct
    have hreads := reads_of_lookup hdoc' hout (fun id' other hother heq =>
      hdistinct id' id other doc' hother hdoc' heq)
    rw [hext] at hreads
    exact ⟨out, hreads.1, hreads.2, hsame⟩

/-! ## One answer -/

/-- A process starts and answers a request. -/
def answeredActions : List DeploymentAction :=
  (fileStart ++ List.replicate 7 (ServiceAction.create 0 (fileInput "tpubA"))).map .serve

/-- After a cancel, both requests show the invoice that the request was answered with. -/
theorem answers_last_canceled : ∃ doc answer out,
    docToOut digitForms 1 doc = .ok answer ∧
    getInvoice digitForms (some (run (Deployment.act fileKeys) .empty
      (answeredActions ++ [.cancel 1 0])).service.db.invoices) (digitForms.str 1) = .ok out ∧
    getByExternal digitForms (some (run (Deployment.act fileKeys) .empty
      (answeredActions ++ [.cancel 1 0])).service.db.invoices) doc.externalId = .ok out ∧
    out.fixed.terms = answer.terms := by
  obtain ⟨passed, hrun⟩ := Served.run (i := 0) (r := fileRequest) (served_file "tpubA") rfl rfl 7
  have hservice : (run (Deployment.act fileKeys) .empty answeredActions).service
      = run (Service.act fileKeys) fileService
        (List.replicate 7 (.create 0 (fileInput "tpubA"))) := by
    rw [answeredActions, Deployment.run_serve, run_append]
    exact congrArg (fun s => run (Service.act fileKeys) s _) run_fileStart
  rw [hrun] at hservice
  obtain ⟨answer, shown, hanswer, hterms, hreads⟩ := answers_last fileKeys digitForms
    answeredActions _ (by rw [hservice]; exact List.mem_cons_self) 201 1 _ rfl
  obtain ⟨out, hbyId, hbyExternal, hfixed⟩ := hreads [.cancel 1 0]
  exact ⟨_, answer, out, hanswer, hbyId, hbyExternal, by rw [hfixed, hterms]⟩

end V4vappDash
