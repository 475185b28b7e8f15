import Mathlib.Algebra.BigOperators.Group.Finset.Basic
import Mathlib.Algebra.Order.BigOperators.Group.Finset
import V4vappDash.System.History
import V4vappDash.System.Payment

set_option autoImplicit false

/-! # Rate limits over a run

`check_cust_rate_limit` runs when an invoice is created, and counts what the customer has paid by
then. An invoice that is open at that moment, or not stored yet, is not counted, and may be paid
later. So the sats paid within a window may exceed its limit (`window_exceeded`), but at most by
those of the invoices that were still pending when an invoice of the customer passed its check
(`window_bounded`).

The bound rests on three facts: a paid invoice is never written again, so what was counted at the
check is still there; an invoice that is neither pending nor paid is never paid later; and the
invoice of the request is credited with the sats the request was checked for.
-/

namespace V4vappDash

open Interleaving

/-- The customer has paid the invoice, and it was settled in the window that ends at `t`. -/
def convertedIn (custId : String) (window : RateWindow) (t : Datetime) (e : ObjectId × InvoiceDoc) :
    Bool :=
  settledBy custId (t - hours window.hours) e &&
    match e.2.settledAt with
    | some u => u.val ≤ t
    | none => false

/-- The sum of `sats_credited` over the matches of a query. -/
def creditedSats (invoices : Invoices) (p : ObjectId × InvoiceDoc → Bool) : Int :=
  ((Collection.query invoices p).map (fun e => e.2.satsCredited.getD 0)).sum

/-- The invoice may still be paid: it is open, detected or not stored yet. -/
def pendingIn (invoices : Invoices) (id : ObjectId) : Bool :=
  match invoices.lookup id with
  | none => true
  | some doc => doc.state = .OPEN || doc.state = .DETECTED

/-- Process `i` is a request that passes its rate limit check in this step. -/
def PassesCheck (input : CreateInput) (i : Nat) (own : Settings) (body : InvoiceCreate)
    (c c' : Config Bridge Actor) : Prop :=
  ∃ material pricing, c.locals[i]? = some (.create own body (.priced material pricing)) ∧
    createLimit body c.shared.db.invoices input.windows input.now material pricing
      = .limited material pricing ∧
    c' = ⟨c.shared, c.locals.set i (.create own body (.limited material pricing))⟩

/-! ## Sums -/

/-- What is neither one's own nor pending was counted before, within the limit. -/
theorem sum_le_limit_add_pending {κ : Type*} {entries counted : Finset κ} {amount : κ → Int}
    {limit extra : Int} (own pending : κ → Prop) [DecidablePred own] [DecidablePred pending]
    (hlimit : ∑ e ∈ counted, amount e + extra ≤ limit) (hnonneg : ∀ e ∈ counted, 0 ≤ amount e)
    (hcounted : ∀ e ∈ entries, ¬ own e → ¬ pending e → e ∈ counted)
    (hown : ∑ e ∈ entries with own e, amount e ≤ extra) :
    ∑ e ∈ entries, amount e
      ≤ limit + ∑ e ∈ entries with ¬ own e ∧ pending e, amount e := by
  have hrest : ∑ e ∈ entries with ¬ own e ∧ ¬ pending e, amount e ≤ ∑ e ∈ counted, amount e := by
    refine Finset.sum_le_sum_of_subset_of_nonneg ?_ (fun e he _ => hnonneg e he)
    intro e he
    obtain ⟨hmem, hnot, hdone⟩ := Finset.mem_filter.mp he
    exact hcounted e hmem hnot hdone
  have hother : ∑ e ∈ entries with ¬ own e, amount e
      = ∑ e ∈ entries with ¬ own e ∧ pending e, amount e
        + ∑ e ∈ entries with ¬ own e ∧ ¬ pending e, amount e := by
    rw [← Finset.filter_filter, ← Finset.filter_filter, Finset.sum_filter_add_sum_filter_not]
  calc ∑ e ∈ entries, amount e
      = ∑ e ∈ entries with own e, amount e + ∑ e ∈ entries with ¬ own e, amount e :=
        (Finset.sum_filter_add_sum_filter_not _ _ _).symm
    _ ≤ limit + ∑ e ∈ entries with ¬ own e ∧ pending e, amount e := by
        rw [hother]
        omega

/-- There is at most one entry of one's own. -/
theorem sum_own_le {κ : Type*} {entries : Finset κ} {amount : κ → Int} {own : κ → Prop}
    [DecidablePred own] {mine : κ} (hown : ∀ e ∈ entries, own e → e = mine)
    (hnonneg : 0 ≤ amount mine) : ∑ e ∈ entries with own e, amount e ≤ amount mine := by
  have hsub : ∀ e ∈ entries.filter own, e ∈ ({mine} : Finset κ) := by
    intro e he
    obtain ⟨hmem, hmine⟩ := Finset.mem_filter.mp he
    exact Finset.mem_singleton.mpr (hown e hmem hmine)
  calc ∑ e ∈ entries with own e, amount e
      ≤ ∑ e ∈ {mine}, amount e := by
        refine Finset.sum_le_sum_of_subset_of_nonneg hsub (fun e he _ => ?_)
        rw [Finset.mem_singleton.mp he]
        exact hnonneg
    _ = amount mine := Finset.sum_singleton _ _

theorem creditedSats_eq (invoices : Invoices) (p : ObjectId × InvoiceDoc → Bool) :
    creditedSats invoices p
      = ∑ e ∈ (Collection.query invoices p).toFinset, e.2.satsCredited.getD 0 :=
  (List.sum_toFinset _ (Collection.query_keys_nodup invoices p).of_map).symm

/-- The matches of `p` that satisfy `q` too. -/
theorem creditedSats_and (invoices : Invoices) (p q : ObjectId × InvoiceDoc → Bool) :
    creditedSats invoices (fun e => p e && q e)
      = ∑ e ∈ (Collection.query invoices p).toFinset with q e = true, e.2.satsCredited.getD 0 := by
  rw [creditedSats_eq, ← Collection.filter_query, List.toFinset_filter]

theorem StoredOk.one_le_satsRequested {now : Datetime} {doc : InvoiceDoc} (h : StoredOk now doc) :
    1 ≤ doc.satsRequested := by
  obtain ⟨settings, body, pricing, address, derivation, created, -, hdoc⟩ := h.created
  have hsats : doc.satsRequested = body.sats := congrArg InvoiceDoc.satsRequested hdoc
  rw [hsats]
  exact body.one_le_sats

/-- An invoice is credited with nothing or with the sats it asked for. -/
theorem StoredOk.credited_mem {now : Datetime} {doc : InvoiceDoc} (h : StoredOk now doc) :
    0 ≤ doc.satsCredited.getD 0 ∧ doc.satsCredited.getD 0 ≤ doc.satsRequested := by
  have hone := h.one_le_satsRequested
  cases hcredit : doc.satsCredited with
  | none =>
      rw [Option.getD_none]
      omega
  | some sats =>
      rw [Option.getD_some, h.timely.coherent.credited_eq sats hcredit]
      omega

/-- For a paid invoice, the check counts the sats it was credited with. -/
theorem StoredOk.satsOf_eq {now : Datetime} {doc : InvoiceDoc} (h : StoredOk now doc)
    (hpaid : doc.state ∈ PAID_STATES) : satsOf doc = doc.satsCredited.getD 0 := by
  have hstate : doc.state = .SETTLED ∨ doc.state = .OVERPAID := by
    simpa [PAID_STATES] using hpaid
  have hne := h.timely.coherent.credited_iff_settled.mpr
    (h.timely.coherent.settled_iff.mpr hstate)
  obtain ⟨sats, hsats⟩ := Option.ne_none_iff_exists'.mp hne
  rw [satsOf, hsats]
  rfl

/-- Whatever its state, an invoice counts with the sats it asked for: at least one, and no more
than BSON holds. The rate limit check relies on both. -/
theorem StoredOk.satsOf_mem {now : Datetime} {doc : InvoiceDoc} (h : StoredOk now doc) :
    1 ≤ satsOf doc ∧ bsonInt64 (satsOf doc) = true := by
  have heq : satsOf doc = doc.satsRequested := by
    unfold satsOf
    cases hcredit : doc.satsCredited with
    | none => rfl
    | some sats => exact h.timely.coherent.credited_eq sats hcredit
  rw [heq]
  exact ⟨h.one_le_satsRequested, h.bsonInt64_satsRequested⟩

/-! ## What is paid stays paid -/

section Step

variable {bip44 : Bip44} {settings : Settings} {s s' : Bridge} {l l' : Actor} {id : ObjectId}
  {doc : InvoiceDoc}

theorem watchStep_advances {input : TickInput} (hok : BridgeOk s)
    (hdoc : s.db.invoices.lookup id = some doc) :
    ∃ doc', (watchStep settings input s.watch s.phase).1.invoices.lookup id = some doc' ∧
      Advances doc doc' := by
  rcases watchStep_invoices settings input s.watch s.phase with
    hsame | ⟨now, utxosFor, j, inv, rest, d, hp, hd, hupdate⟩
  · rw [hsame]
    exact ⟨doc, hdoc, .refl doc⟩
  · rw [hupdate]
    refine Collection.exists_lookup_updateIf hdoc (.refl doc) ?_
    rintro rfl hf
    -- the tick holds a snapshot of the document that it updates
    have hphase := hok.phase
    rw [hp] at hphase
    obtain ⟨stored, hstored, hsnap⟩ := hphase.2.snapshot (id, inv) List.mem_cons_self
    obtain rfl := Option.some.inj (hdoc.symm.trans hstored)
    exact (hsnap.writes hd hf).advances now

/-- **The step lemma.** A stored document makes a move of its life cycle, and a final one is
kept. -/
theorem ActorStep.advances (h : ActorStep bip44 settings s l s' l') (hok : BridgeOk s)
    (hdoc : s.db.invoices.lookup id = some doc) :
    ∃ doc', s'.db.invoices.lookup id = some doc' ∧ Advances doc doc' := by
  cases h with
  | watch input hnow => exact watchStep_advances hok hdoc
  | @create own body phase input =>
      exact ⟨doc, (createStep_move own bip44 body input s.db phase).lookup hdoc, .refl doc⟩
  | @cancelUpdate j now found hfound hc =>
      exact Collection.exists_lookup_updateIf hdoc (.refl doc)
        (fun _ hcancel => advances_cancelDoc hcancel)
  | clock | restart | createFails | cancelRead | cancelMiss | cancelLookup =>
      exact ⟨doc, hdoc, .refl doc⟩

theorem exists_advances_of_run {c c' : Config Bridge Actor} (hc : Holds BridgeOk ActorOk c)
    (h : Run (bridge bip44 settings) c c') (hdoc : c.shared.db.invoices.lookup id = some doc) :
    ∃ doc', c'.shared.db.invoices.lookup id = some doc' ∧ Advances doc doc' := by
  have hrun := Run.guarantee (bridge_inductive bip44 settings)
    (G := fun s s' => ∀ id doc, s.db.invoices.lookup id = some doc →
      ∃ doc', s'.db.invoices.lookup id = some doc' ∧ Advances doc doc')
    (fun s id doc hdoc => ⟨doc, hdoc, .refl doc⟩) ?_
    (fun hok _ hs id doc hdoc => hs.advances hok hdoc) h hc
  · exact hrun id doc hdoc
  · intro s t u hst htu id doc hdoc
    obtain ⟨doc', hdoc', hadv⟩ := hst id doc hdoc
    obtain ⟨doc'', hdoc'', hadv'⟩ := htu id doc' hdoc'
    exact ⟨doc'', hdoc'', hadv.trans hadv'⟩

/-- An invoice that is paid was paid before, or may have been paid since. -/
theorem Advances.of_paid {doc doc' : InvoiceDoc} (h : Advances doc doc')
    (hpaid : doc'.state ∈ PAID_STATES) :
    doc' = doc ∨ doc.state = .OPEN ∨ doc.state = .DETECTED := by
  have hmoves := h.moves
  have hfinal : doc'.state.final = true := by
    rcases List.mem_cons.mp hpaid with hs | hs
    · rw [hs]; rfl
    · rw [List.mem_singleton.mp hs]; rfl
  generalize hs : doc.state = before at hmoves
  cases hmoves with
  | fromOpen => exact Or.inr (Or.inl rfl)
  | detected => exact Or.inr (Or.inr rfl)
  | keep => exact Or.inl (h.final (by rw [hs]; exact hfinal))

end Step

/-! ## The invoice of a request -/

/-- The invoice that a request inserts, or is answered with, asks for the sats of its body. -/
def AsksFor (s : Bridge) : Actor → Prop
  | .create _ body (.built doc) => doc.satsRequested = body.sats
  | .create _ body (.answered _ id _) =>
      ∃ doc, s.db.invoices.lookup id = some doc ∧ doc.satsRequested = body.sats
  | _ => True

section AsksFor

variable {bip44 : Bip44} {settings : Settings} {s s' : Bridge} {l l' : Actor}

theorem CreateMove.asksFor {own : Settings} {body : InvoiceCreate} {input : CreateInput}
    {db : Database} {phase phase' : CreatePhase}
    (h : CreateMove own bip44 body input s.db phase db phase')
    (hl : AsksFor s (.create own body phase)) :
    AsksFor { s with db } (.create own body phase') := by
  cases h with
  | found hdoc hext hsame => exact ⟨_, hdoc, hsame.1⟩
  | build => rfl
  | insert => exact ⟨_, AList.lookup_insert _, hl⟩
  | stay => exact hl
  | load | unused | price | limit | allocate | exhausted | fail => trivial

theorem ActorStep.asksFor (h : ActorStep bip44 settings s l s' l') (hl : AsksFor s l) :
    AsksFor s' l' := by
  cases h with
  | create input => exact (createStep_move _ _ _ _ _ _).asksFor hl
  | clock | watch | restart | createFails | cancelRead | cancelUpdate | cancelMiss
  | cancelLookup => trivial

/-- The terms of a stored invoice do not change. -/
theorem AsksFor.later (hl : AsksFor s l) (h : Effect s s') (hok : BridgeOk s) : AsksFor s' l := by
  unfold AsksFor at hl ⊢
  split at hl
  · exact hl
  · obtain ⟨doc, hdoc, hsats⟩ := hl
    obtain ⟨doc', hdoc', -, hlater⟩ := h.later _ doc hdoc (hok.docs _ doc hdoc)
    have hterms := congrArg InvoiceDoc.satsRequested hlater.terms
    exact ⟨doc', hdoc', hterms.trans hsats⟩
  · trivial

theorem asksFor_inductive (bip44 : Bip44) (settings : Settings) :
    (bridge bip44 settings).Inductive BridgeOk (fun s l => ActorOk s l ∧ AsksFor s l) where
  spawn := by
    intro s l hok hl
    refine ⟨(bridge_inductive bip44 settings).spawn hok hl, ?_⟩
    rcases hl with rfl | rfl | ⟨own, body, rfl⟩ | ⟨id, rfl⟩ <;> trivial
  shared := fun hok hl h => h.bridgeOk hok hl.1
  own := fun _ hl h => ⟨h.actorOk hl.1, h.asksFor hl.2⟩
  stable := fun hok hl hm h =>
    ⟨hm.1.mono (h.effect hok hl.1).1.clock, hm.2.later (h.effect hok hl.1).1 hok⟩

end AsksFor

/-! ## The bound -/

/-- Passing the check is a step of the request. -/
theorem PassesCheck.step {F : Family Bridge Actor} (bip44 : Bip44) {own : Settings}
    {input : CreateInput} {i : Nat} {body : InvoiceCreate} {c c' : Config Bridge Actor}
    (hF : ∀ (s : Bridge) phase, F.step s (.create own body phase)
      { s with db := (createStep own bip44 body input s.db phase).1 }
      (.create own body (createStep own bip44 body input s.db phase).2))
    (h : PassesCheck input i own body c c') : Step F c c' := by
  obtain ⟨material, pricing, hi, hlimit, rfl⟩ := h
  have hstep := Step.act (F := F) i hi (hF c.shared (.priced material pricing))
  have hphase : (createStep own bip44 body input c.shared.db (.priced material pricing)).2
      = .limited material pricing := hlimit
  rw [hphase] at hstep
  exact hstep

/-- What was counted at the check, together with the request, is within the limit. -/
theorem PassesCheck.within {own : Settings} {input : CreateInput} {i : Nat} {body : InvoiceCreate}
    {c c' : Config Bridge Actor} (h : PassesCheck input i own body c c') {custId : String}
    (hcust : body.custId = some custId) (hne : custId ≠ "") {window : RateWindow}
    (hwindow : window ∈ input.windows) :
    usedSats c.shared.db.invoices custId input.now window + body.sats ≤ window.sats := by
  obtain ⟨material, pricing, -, hlimit, -⟩ := h
  unfold createLimit at hlimit
  rw [hcust, Option.getD_some] at hlimit
  cases hcheck : checkCustRateLimit c.shared.db.invoices input.windows custId body.sats
      input.now with
  | error failure =>
      rw [hcheck] at hlimit
      cases hlimit
  | ok u => exact checkCustRateLimit_ok hcheck hne hwindow

section Bound

variable {bip44 : Bip44} {settings own : Settings} {s : Bridge} {c₁ c₂ c₃ : Config Bridge Actor}
  {input : CreateInput} {i : Nat} {body : InvoiceCreate} {custId : String} {window : RateWindow}
  {t : Datetime} {id : ObjectId} {doc : InvoiceDoc}

theorem mem_settledBy {since : Datetime} {e : ObjectId × InvoiceDoc}
    (h : settledBy custId since e = true) : e.2.state ∈ PAID_STATES := by
  simp only [settledBy, Bool.and_eq_true, decide_eq_true_eq] at h
  exact h.1.2

theorem settledBy_mono {since since' : Datetime} {e : ObjectId × InvoiceDoc} (hle : since ≤ since')
    (h : settledBy custId since' e = true) : settledBy custId since e = true := by
  unfold settledBy at h ⊢
  cases hs : e.2.settledAt with
  | none => rw [hs] at h; simp at h
  | some u =>
      rw [hs] at h
      simp only [Bool.and_eq_true, decide_eq_true_eq] at h ⊢
      exact ⟨h.1, hle.trans h.2⟩

/-- What the check counts is what the customer's paid invoices were credited with. -/
theorem usedSats_eq {invoices : Invoices} {clock now : Datetime}
    (hdocs : ∀ id doc, invoices.lookup id = some doc → StoredOk clock doc) :
    usedSats invoices custId now window
      = creditedSats invoices (settledBy custId (now - hours window.hours)) := by
  refine congrArg List.sum (List.map_congr_left ?_)
  rintro ⟨k, d⟩ he
  obtain ⟨hd, hsettled⟩ := Collection.mem_query.mp he
  exact (hdocs k d hd).satsOf_eq (mem_settledBy hsettled)

/-- A paid invoice that was stored and not pending was paid already, and settled when it was. -/
theorem settledBy_of_not_pending {since since' : Datetime} {k : ObjectId} {d' : InvoiceDoc}
    (hadv : ∀ id doc, c₁.shared.db.invoices.lookup id = some doc →
      ∃ doc', c₃.shared.db.invoices.lookup id = some doc' ∧ Advances doc doc')
    (hle : since ≤ since') (hd' : c₃.shared.db.invoices.lookup k = some d')
    (hsettled : settledBy custId since' (k, d') = true)
    (hnot : ¬ pendingIn c₁.shared.db.invoices k = true) :
    c₁.shared.db.invoices.lookup k = some d' ∧ settledBy custId since (k, d') = true := by
  unfold pendingIn at hnot
  cases hd : c₁.shared.db.invoices.lookup k with
  | none =>
      rw [hd] at hnot
      exact absurd rfl hnot
  | some d =>
      rw [hd] at hnot
      obtain ⟨d'', hd'', hmove⟩ := hadv k d hd
      obtain rfl := Option.some.inj (hd'.symm.trans hd'')
      rcases hmove.of_paid (mem_settledBy hsettled) with rfl | hs | hs
      · exact ⟨rfl, settledBy_mono hle hsettled⟩
      · simp [hs] at hnot
      · simp [hs] at hnot

/-- **How far a window can be exceeded.** Along every run, for every invoice of a customer that
was created under a limit: the sats credited in a window that ends at or after its check are at
most the limit and those of the customer's other invoices that were pending at the check. -/
theorem window_bounded (hs : s.Initial) (h₁ : Run (bridge bip44 settings) ⟨s, []⟩ c₁)
    (hcheck : PassesCheck input i own body c₁ c₂) (h₃ : Run (bridge bip44 settings) c₂ c₃)
    (hanswered : c₃.locals[i]? = some (.create own body (.answered 201 id doc)))
    (hcust : body.custId = some custId) (hne : custId ≠ "") (hwindow : window ∈ input.windows)
    (ht : input.now ≤ t) :
    creditedSats c₃.shared.db.invoices (convertedIn custId window t)
      ≤ window.sats + creditedSats c₃.shared.db.invoices (fun e => convertedIn custId window t e &&
          (e.1 ≠ id && pendingIn c₁.shared.db.invoices e.1)) := by
  have hc₁ := holds_of_initial hs h₁
  have hrun : Run (bridge bip44 settings) c₁ c₃ :=
    .head (hcheck.step bip44 (fun _ _ => ActorStep.create input)) h₃
  have hasks := Run.invariant (asksFor_inductive bip44 settings) (h₁.trans hrun)
    ⟨hs.bridgeOk, fun l hl => by cases hl⟩
  obtain ⟨stored, hstored, hsats⟩ := (hasks.2 _ (List.mem_of_getElem? hanswered)).2
  let amount := fun e : ObjectId × InvoiceDoc => e.2.satsCredited.getD 0
  let counted := Collection.query c₁.shared.db.invoices
    (settledBy custId (input.now - hours window.hours))
  let entries := Collection.query c₃.shared.db.invoices (convertedIn custId window t)
  have hlimit : ∑ e ∈ counted.toFinset, amount e + body.sats ≤ window.sats := by
    have hwithin := hcheck.within hcust hne hwindow
    rw [usedSats_eq hc₁.1.docs, creditedSats_eq] at hwithin
    exact hwithin
  have hnonneg : ∀ e ∈ counted.toFinset, 0 ≤ amount e := by
    rintro ⟨k, d⟩ he
    exact (hc₁.1.docs k d (Collection.mem_query.mp (List.mem_toFinset.mp he)).1).credited_mem.1
  -- under the `_id` of the answer there is one invoice, for the sats that were checked
  have hown : ∑ e ∈ entries.toFinset with e.1 = id, amount e ≤ body.sats := by
    have hmem := (hasks.1.docs id stored hstored).credited_mem
    have hmine : ∀ e ∈ entries.toFinset, e.1 = id → e = (id, stored) := by
      rintro ⟨k, d⟩ he rfl
      have hd := (Collection.mem_query.mp (List.mem_toFinset.mp he)).1
      rw [Option.some.inj (hstored.symm.trans hd)]
    calc ∑ e ∈ entries.toFinset with e.1 = id, amount e
        ≤ stored.satsCredited.getD 0 := sum_own_le hmine hmem.1
      _ ≤ stored.satsRequested := hmem.2
      _ = body.sats := hsats
  have hcounted : ∀ e ∈ entries.toFinset, ¬ e.1 = id →
      ¬ pendingIn c₁.shared.db.invoices e.1 = true → e ∈ counted.toFinset := by
    rintro ⟨k, d⟩ he - hnot
    obtain ⟨hd, hconverted⟩ := Collection.mem_query.mp (List.mem_toFinset.mp he)
    have hsettled := (Bool.and_eq_true _ _ ▸ hconverted).1
    have hbefore := settledBy_of_not_pending
      (fun _ _ hdoc => exists_advances_of_run hc₁ hrun hdoc)
      (Int.sub_le_sub_right ht (hours window.hours)) hd hsettled hnot
    exact List.mem_toFinset.mpr (Collection.mem_query.mpr hbefore)
  rw [creditedSats_eq, creditedSats_and]
  have hbound := sum_le_limit_add_pending (fun e : ObjectId × InvoiceDoc => e.1 = id)
    (fun e => pendingIn c₁.shared.db.invoices e.1 = true) hlimit hnonneg hcounted hown
  simpa using hbound

end Bound

/-! ## A fixed list of windows -/

def Actor.isCreate : Actor → Bool
  | .create _ _ _ => true
  | _ => false

/-- One atomic step of an actor, when every request is given the same rate windows. -/
inductive LimitedStep (bip44 : Bip44) (settings : Settings) (windows : List RateWindow) :
    Bridge → Actor → Bridge → Actor → Prop
  | create {s : Bridge} {own : Settings} {body : InvoiceCreate} {phase : CreatePhase}
      (input : CreateInput) (hwindows : input.windows = windows) :
      LimitedStep bip44 settings windows s (.create own body phase)
        { s with db := (createStep own bip44 body input s.db phase).1 }
        (.create own body (createStep own bip44 body input s.db phase).2)
  | createFails {s : Bridge} {own : Settings} {body : InvoiceCreate} {phase : CreatePhase}
      (failure : Failure) :
      LimitedStep bip44 settings windows s (.create own body phase) s
        (.create own body (.failed failure))
  | other {s s' : Bridge} {l l' : Actor} (hl : l.isCreate = false)
      (h : ActorStep bip44 settings s l s' l') : LimitedStep bip44 settings windows s l s' l'

def limited (bip44 : Bip44) (settings : Settings) (windows : List RateWindow) :
    Family Bridge Actor where
  spawn := (bridge bip44 settings).spawn
  step := LimitedStep bip44 settings windows

theorem LimitedStep.actorStep {bip44 : Bip44} {settings : Settings} {windows : List RateWindow}
    {s s' : Bridge} {l l' : Actor} (h : LimitedStep bip44 settings windows s l s' l') :
    ActorStep bip44 settings s l s' l' := by
  cases h with
  | create input => exact .create input
  | createFails failure => exact .createFails failure
  | other _ h => exact h

theorem run_of_limited {bip44 : Bip44} {settings : Settings} {windows : List RateWindow}
    {c c' : Config Bridge Actor} (h : Run (limited bip44 settings windows) c c') :
    Run (bridge bip44 settings) c c' :=
  Run.map id (fun {l} (hl : (limited bip44 settings windows).spawn l) =>
      show (bridge bip44 settings).spawn l from hl)
    (fun {_ _ _ _} (hs : LimitedStep bip44 settings windows _ _ _ _) => hs.actorStep) h

/-! ## Two invoices for one window

A limit of one sat an hour. A customer asks for one sat twice before paying, and then pays both
invoices. -/

def oneSatWindow : RateWindow := ⟨1, 1⟩

def oneSatInput (id : ObjectId) : CreateInput := { dustInput with windows := [oneSatWindow], id }

def firstBody : InvoiceCreate := { dustBody with custId := some "alice" }

def secondBody : InvoiceCreate :=
  { firstBody with externalId := "order-2", externalId_length := length_second_order }

def dustRow : WalletRow := newRow .regtest "tpub" "aabbccdd" 100000 0

def firstInvoice : InvoiceDoc :=
  newInvoice dustSettings firstBody dustPricing "y0"
    { change := 0, index := 0, path := "m/44'/1'/0'/0/0" } 0

def secondInvoice : InvoiceDoc :=
  newInvoice dustSettings secondBody dustPricing "y1"
    { change := 0, index := 1, path := "m/44'/1'/0'/0/1" } 0

/-- After the first request, and after the second one. -/
def firstStoredDb : Database :=
  { dustDb.afterTake .regtest dustRow 0 with invoices := AList.insert 1 firstInvoice ∅ }

def bothStoredDb : Database :=
  { firstStoredDb.afterTake .regtest (dustRow.taken 0) 0 with
    invoices := AList.insert 2 secondInvoice firstStoredDb.invoices }

theorem served_first : Served dustSettings dustKeys firstBody (oneSatInput 1) dustDb dustMaterial
    dustPricing dustRow "y0" { change := 0, index := 0, path := "m/44'/1'/0'/0/0" } where
  mongo := by decide
  key := rfl
  price := createPrice_dust rfl dustMaterial
  limit := by decide +kernel
  found := rfl
  inRange := by decide
  derive := rfl
  ints := by decide
  fresh := rfl

/-- The first invoice is open, so it does not count. -/
theorem served_second : Served dustSettings dustKeys secondBody (oneSatInput 2) firstStoredDb
    dustMaterial dustPricing (dustRow.taken 0) "y1"
    { change := 0, index := 1, path := "m/44'/1'/0'/0/1" } where
  mongo := by decide
  key := rfl
  price := createPrice_dust rfl dustMaterial
  limit := by decide +kernel
  found := rfl
  inRange := by decide
  derive := rfl
  ints := by decide
  fresh := rfl

/-- The second request has its price, and then has passed its check. -/
def pricedConfig : Config Bridge Actor :=
  ⟨⟨firstStoredDb, {}, 0, .idle⟩, [.clock, .watcher,
    .create dustSettings firstBody (.answered 201 1 firstInvoice),
    .create dustSettings secondBody (.priced dustMaterial dustPricing)]⟩

def limitedConfig : Config Bridge Actor :=
  ⟨pricedConfig.shared, pricedConfig.locals.set 3
    (.create dustSettings secondBody (.limited dustMaterial dustPricing))⟩

/-- Both invoices are stored, and the clock is one second later. -/
def openBridge : Bridge := ⟨bothStoredDb, {}, 1000000, .idle⟩

/-- The payments of both. -/
def aliceUtxos : List Utxo :=
  [{ sampleUtxo with address := some "y0" },
    { sampleUtxo with txid := "tx-2", address := some "y1" }]

def aliceTick : TickInput where
  node := { sampleNode with listunspent := fun _ => .ok aliceUtxos }
  now := 1000000

/-- What the tick decides. -/
def firstDecision : Decision := settle firstInvoice [sampleOutput] 1000000

def secondDecision : Decision := settle secondInvoice [{ sampleOutput with txid := "tx-2" }] 1000000

/-- The documents when the tick has updated both invoices. -/
def paidInvoices : Invoices :=
  Collection.updateIf (Collection.updateIf bothStoredDb.invoices 1
      (fun doc => persistFilter .OPEN firstDecision.state doc.state)
      (firstDecision.update 1000000)) 2
    (fun doc => persistFilter .OPEN secondDecision.state doc.state)
    (secondDecision.update 1000000)

def paidConfig : Config Bridge Actor :=
  ⟨openBridge.setWatch ((watchNext dustSettings aliceTick)^[4] (openBridge.watch, .idle)),
    [.clock, .watcher, .create dustSettings firstBody (.answered 201 1 firstInvoice),
      .create dustSettings secondBody (.answered 201 2 secondInvoice)]⟩

/-- The decision on an invoice that one of the payments is for. -/
theorem decide_alice {inv : InvoiceDoc} {txid : String} {address : Option String}
    (hutxos : utxosByAddr ["y0", "y1"] aliceUtxos inv.address
      = [{ sampleUtxo with txid, address }]) (htxids : inv.txids = []) :
    decideInvoice dustSettings aliceTick.node inv
        (utxosByAddr ["y0", "y1"] aliceUtxos inv.address) 1000000
      = .ok (settle inv [{ sampleOutput with txid }] 1000000) := by
  have hfresh : freshOutputs dustSettings aliceTick.node 1000000
      [{ sampleUtxo with txid, address }] = .ok [{ sampleOutput with txid }] :=
    freshOutputs_single 200000 (Utxo.duffs_eq rfl (by decide)) (by decide) rfl
  rw [hutxos]
  rw [decideInvoice_fresh _ hfresh, htxids]
  rfl

theorem paidConfig_invoices : paidConfig.shared.db.invoices = paidInvoices := by
  have hfirst : decideInvoice dustSettings aliceTick.node firstInvoice
      (utxosByAddr ["y0", "y1"] aliceUtxos firstInvoice.address) 1000000 = .ok firstDecision :=
    decide_alice rfl rfl
  have hsecond : decideInvoice dustSettings aliceTick.node secondInvoice
      (utxosByAddr ["y0", "y1"] aliceUtxos secondInvoice.address) 1000000 = .ok secondDecision :=
    decide_alice rfl rfl
  have hload : (watchNext dustSettings aliceTick)^[2] (openBridge.watch, .idle)
      = (openBridge.watch.afterLoad dustSettings [(1, firstInvoice), (2, secondInvoice)],
        .applying 1000000 (utxosByAddr ["y0", "y1"] aliceUtxos)
          [(1, firstInvoice), (2, secondInvoice)]) := rfl
  show ((watchNext dustSettings aliceTick)^[4] (openBridge.watch, .idle)).1.invoices = _
  rw [Function.iterate_add_apply _ 2 2, hload]
  show (watchStep dustSettings aliceTick (watchStep dustSettings aliceTick _ _).1
    (watchStep dustSettings aliceTick _ _).2).1.invoices = _
  rw [watchStep_applying hfirst (by decide) rfl, watchStep_applying hsecond (by decide) rfl]
  rfl

/-- Until the second request has its price. -/
theorem run_pricedConfig : Run (limited dustKeys dustSettings [oneSatWindow])
    ⟨⟨dustDb, {}, 0, .idle⟩, []⟩ pricedConfig := by
  refine .head (.spawn .clock (Or.inl rfl)) ?_
  refine .head (.spawn .watcher (Or.inr (Or.inl rfl))) ?_
  refine .head (.spawn (.create dustSettings firstBody .received)
    (Or.inr (Or.inr (Or.inl ⟨_, _, rfl⟩)))) ?_
  refine .head (.spawn (.create dustSettings secondBody .received)
    (Or.inr (Or.inr (Or.inl ⟨_, _, rfl⟩)))) ?_
  have hfirst := run_createSteps (F := limited dustKeys dustSettings [oneSatWindow])
    (s := ⟨dustDb, {}, 0, .idle⟩) dustKeys
    (fun _ _ => LimitedStep.create (oneSatInput 1) rfl) (i := 2)
    (show [Actor.clock, .watcher, .create dustSettings firstBody .received,
      .create dustSettings secondBody .received][2]? = _ from rfl) 7
  rw [served_first.steps 7] at hfirst
  have hsecond := run_createSteps (F := limited dustKeys dustSettings [oneSatWindow])
    (s := ⟨firstStoredDb, {}, 0, .idle⟩) dustKeys
    (fun _ _ => LimitedStep.create (oneSatInput 2) rfl) (i := 3)
    (show [Actor.clock, .watcher, .create dustSettings firstBody (.answered 201 1 firstInvoice),
      .create dustSettings secondBody .received][3]? = _ from rfl) 3
  rw [served_second.steps 3] at hsecond
  exact hfirst.trans hsecond

theorem passesCheck_second : PassesCheck (oneSatInput 2) 3 dustSettings secondBody pricedConfig
    limitedConfig := by
  refine ⟨dustMaterial, dustPricing, rfl, ?_, rfl⟩
  show createLimit secondBody firstStoredDb.invoices [oneSatWindow] 0 dustMaterial dustPricing = _
  have hlimit : checkCustRateLimit firstStoredDb.invoices [oneSatWindow] "alice" 1 0 = .ok () :=
    served_second.limit
  unfold createLimit
  rw [show secondBody.custId.getD "" = "alice" from rfl, show secondBody.sats = 1 from rfl, hlimit]

/-- From there the second request is answered, and both invoices are paid. -/
theorem run_paidConfig :
    Run (limited dustKeys dustSettings [oneSatWindow]) limitedConfig paidConfig := by
  have hsteps : createSteps dustSettings dustKeys secondBody (oneSatInput 2) 3
      (firstStoredDb, .limited dustMaterial dustPricing)
        = (bothStoredDb, .answered 201 2 secondInvoice) := by
    have hseven := served_second.steps 7
    have hfour := served_second.steps 4
    unfold createSteps at hseven hfour ⊢
    rw [Function.iterate_add_apply _ 3 4, hfour] at hseven
    exact hseven
  have hsecond := run_createSteps (F := limited dustKeys dustSettings [oneSatWindow])
    (s := ⟨firstStoredDb, {}, 0, .idle⟩) dustKeys
    (fun _ _ => LimitedStep.create (oneSatInput 2) rfl) (i := 3)
    (show limitedConfig.locals[3]? = _ from rfl) 3
  rw [hsteps] at hsecond
  refine hsecond.trans ?_
  refine .head (.act 0 rfl (.other rfl (.clock 1000000 (by decide)))) ?_
  exact run_watchNext (s := openBridge) (fun _ h => LimitedStep.other rfl (.watch _ h)) rfl
    (i := 1) rfl 4

theorem initial_dustBridge : (⟨dustDb, {}, 0, .idle⟩ : Bridge).Initial := by
  refine ⟨rfl, ?_⟩
  intro id doc hdoc
  cases hdoc

/-- The customer has paid two sats within the hour: the limit, and the sat of the invoice that
was open at the second check. -/
theorem window_bounded_alice :
    creditedSats paidInvoices (convertedIn "alice" oneSatWindow 1000000)
      ≤ 1 + creditedSats paidInvoices (fun e => convertedIn "alice" oneSatWindow 1000000 e &&
        (e.1 ≠ 2 && pendingIn firstStoredDb.invoices e.1)) := by
  have hbound : creditedSats paidConfig.shared.db.invoices
        (convertedIn "alice" oneSatWindow 1000000)
      ≤ oneSatWindow.sats + creditedSats paidConfig.shared.db.invoices
        (fun e => convertedIn "alice" oneSatWindow 1000000 e &&
          (e.1 ≠ 2 && pendingIn pricedConfig.shared.db.invoices e.1)) :=
    window_bounded initial_dustBridge (run_of_limited run_pricedConfig) passesCheck_second
      (run_of_limited run_paidConfig) rfl rfl (by decide) List.mem_cons_self (by decide)
  rw [paidConfig_invoices] at hbound
  exact hbound

/-- Under a fixed limit of one sat an hour, a customer pays two sats at once. -/
theorem window_exceeded :
    ¬ ∀ c : Config Bridge Actor,
      Run (limited dustKeys dustSettings [oneSatWindow]) ⟨⟨dustDb, {}, 0, .idle⟩, []⟩ c →
      ∀ custId, ∀ window ∈ [oneSatWindow], ∀ t,
        creditedSats c.shared.db.invoices (convertedIn custId window t) ≤ window.sats := by
  intro hall
  have hcheck : Step (limited dustKeys dustSettings [oneSatWindow]) pricedConfig limitedConfig :=
    passesCheck_second.step dustKeys (fun _ _ => LimitedStep.create (oneSatInput 2) rfl)
  have hbound := hall paidConfig ((run_pricedConfig.tail hcheck).trans run_paidConfig) "alice"
    oneSatWindow List.mem_cons_self 1000000
  rw [paidConfig_invoices] at hbound
  exact absurd hbound (by decide)

end V4vappDash
