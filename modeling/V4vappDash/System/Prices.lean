import V4vappDash.System.Caches
import V4vappDash.System.Conflicts

set_option autoImplicit false

/-! # Where a price comes from

The fees and the price that a request is given go with it from phase to phase into its invoice, and
nobody changes them there. So the price of a stored invoice is one that some request was given on
the way (`Prices`), and the cache of its process tells how old it was: `stored_quote_fresh`.
-/

namespace V4vappDash

open Machine

/-- What was agreed: what the request asked for, its fees, its price and the amount in duffs. -/
structure Deal where
  externalId : String
  sats : Int
  pricing : Pricing
  duffs : Int

def InvoiceDoc.deal (doc : InvoiceDoc) : Deal :=
  ⟨doc.externalId, doc.satsRequested, ⟨doc.fees, doc.quote⟩, doc.duffsQuoted⟩

/-- The deal of a request, once it has a price and as long as it has not been answered. -/
def Request.deal (r : Request) : Option Deal :=
  let agreed (pricing : Pricing) : Deal :=
    ⟨r.body.externalId, r.body.sats, pricing, pricing.quote.duffsQuoted⟩
  match r.phase with
  | .priced _ pricing => some (agreed pricing)
  | .limited _ pricing => some (agreed pricing)
  | .allocated _ pricing _ => some (agreed pricing)
  | .built doc => some doc.deal
  | _ => none

/-- A request or a stored invoice has the deal. -/
def Service.Carries (s : Service) (deal : Deal) : Prop :=
  (∃ (i : Nat) (r : Request), s.requests[i]? = some r ∧ r.deal = some deal) ∨
    ∃ id doc, s.db.invoices.lookup id = some doc ∧ doc.deal = deal

section Carries

variable {bip44 : Bip44} {s s' : Service} {deal : Deal}

/-- A phase that is not the pricing keeps the deal of the request. -/
theorem CreateMove.agreed {r : Request} {input : CreateInput} {db db' : Database}
    {phase : CreatePhase} (h : CreateMove r.settings bip44 r.body input db r.phase db' phase)
    (hdeal : (r.next phase).deal = some deal) :
    r.deal = some deal ∨ ∃ material, r.phase = .unused material := by
  obtain ⟨process, settings, body, passed, before⟩ := r
  cases h with
  | price => exact Or.inr ⟨_, rfl⟩
  | limit | allocate | build => exact Or.inl hdeal
  | load | unused | found | exhausted | insert | stay | fail => cases hdeal

/-- A request that is put in the place of another one. -/
theorem Service.Carries.advance {s : Deployment} {i : Nat} {r : Request} {phase : CreatePhase}
    (h : (s.advance i r phase).service.Carries deal) :
    s.service.Carries deal ∨ (r.next phase).deal = some deal := by
  rcases h with ⟨j, r', hr', hdeal⟩ | hstored
  · rcases getElem?_set_cases hr' with ⟨-, rfl⟩ | ⟨-, hr'⟩
    · exact Or.inr hdeal
    · exact Or.inl (Or.inl ⟨j, r', hr', hdeal⟩)
  · exact Or.inl (Or.inr hstored)

/-- A deal comes with a request that is given its price. -/
theorem ServiceMove.carries {a : ServiceAction} (h : ServiceMove bip44 s a s')
    (hdeal : s'.Carries deal) : s.Carries deal ∨
      ∃ i input r material, a = .create i input ∧ s.requests[i]? = some r ∧
        r.phase = .unused material := by
  rcases hdeal with ⟨j, r', hr', hdeal⟩ | ⟨id, doc, hdoc, hdeal⟩
  · cases h with
    | idle | start | boot => exact Or.inl (Or.inl ⟨j, r', hr', hdeal⟩)
    | post hp =>
        rcases getElem?_concat_cases hr' with ⟨-, rfl⟩ | hr'
        · cases hdeal
        · exact Or.inl (Or.inl ⟨j, r', hr', hdeal⟩)
    | @create i input r db phase hr hcreate =>
        rcases getElem?_set_cases hr' with ⟨-, rfl⟩ | ⟨-, hr'⟩
        · rcases hcreate.agreed hdeal with hold | ⟨material, hphase⟩
          · exact Or.inl (Or.inl ⟨i, r, hr, hold⟩)
          · exact Or.inr ⟨i, input, r, material, rfl, hr, hphase⟩
        · exact Or.inl (Or.inl ⟨j, r', hr', hdeal⟩)
    | raise hr hfin | lose hr hphase hcreate =>
        rcases getElem?_set_cases hr' with ⟨-, rfl⟩ | ⟨-, hr'⟩
        · cases hdeal
        · exact Or.inl (Or.inl ⟨j, r', hr', hdeal⟩)
  -- an invoice that was not there before is one that a request has built
  · rcases h.stored_or_built hdoc with hold | ⟨i, r, hr, hbuilt⟩
    · exact Or.inl (Or.inr ⟨id, doc, hold, hdeal⟩)
    · refine Or.inl (Or.inl ⟨i, r, hr, ?_⟩)
      unfold Request.deal
      rw [hbuilt, ← hdeal]

/-- Ticks and cancels leave the deals alone. -/
theorem DeploymentMove.carries {a : DeploymentAction} (h : DeploymentMove bip44 s a s')
    (hdeal : s'.Carries deal) : s.Carries deal ∨
      ∃ i input r material, a = .serve (.create i input) ∧ s.requests[i]? = some r ∧
        r.phase = .unused material := by
  cases h with
  | serve a =>
      rcases (s.act_move bip44 a).carries hdeal with hold | ⟨i, input, r, material, rfl, hr, hp⟩
      · exact Or.inl hold
      · exact Or.inr ⟨i, input, r, material, rfl, hr, hp⟩
  | update ha hterms =>
      rcases hdeal with hrequest | ⟨id, doc, hdoc, hdeal⟩
      · exact Or.inl (Or.inl hrequest)
      · obtain ⟨old, hold, hsame⟩ := hterms.lookup hdoc
        have hdeals : old.asCreated.deal = doc.asCreated.deal := congrArg InvoiceDoc.deal hsame
        exact Or.inl (Or.inr ⟨id, old, hold, hdeals.trans hdeal⟩)

end Carries

/-! ## Given a price -/

section Prices

variable (texts : TextNumbers) (sources : Nat → SourceSettings) (bip44 : Bip44)

/-- Request `i` is given the fees and the price of the deal, for the quote `raw`. -/
structure Prices (s : CachedDeployment) (i : Nat) (input : SourceInput) (r : Request)
    (raw : Quote) (deal : Deal) : Prop where
  request : s.deployment.service.requests[i]? = some r
  unused : ∃ material, r.phase = .unused material
  asked : deal.externalId = r.body.externalId ∧ deal.sats = r.body.sats
  fees : input.fees texts (sources r.process) r.body (s.caches r.process) = .ok deal.pricing.fees
  found : (findQuote texts (sources r.process).coinmarketcapApiKey input.quote
    (s.caches r.process).quote).1 = .ok raw
  quote : quoteForSats deal.pricing.fees.satsCollect raw = .ok deal.pricing.quote
  duffs : deal.duffs = deal.pricing.quote.duffsQuoted

/-- The call that an action makes to the quote cache of a process. -/
def quoteCall (process : Nat) (s : CachedDeployment) :
    CachedAction → Option (TtlCache.Call ℚ Quote)
  | .other _ _ => none
  | .create i input =>
      match s.deployment.service.requests[i]? with
      | none => none
      | some r =>
          match r.phase with
          | .unused _ =>
              if r.process = process then
                match input.fees texts (sources process) r.body (s.caches process) with
                | .ok _ => some (input.quote.call texts (sources process).coinmarketcapApiKey)
                | .error _ => none
              else none
          | _ => none

def CachedDeployment.quoteCache (process : Nat) (s : CachedDeployment) : Option QuoteCache :=
  (s.caches process).quote

/-- A process reads a quote from the sources: a request of it is at its pricing, the cache of the
process has nothing for it, and the sources have. -/
def ReadsQuote (s : CachedDeployment) (a : CachedAction) (process : Nat) (raw : Quote) (at_ : ℚ) :
    Prop :=
  ∃ i input, a = .create i input ∧
    let call := input.quote.call texts (sources process).coinmarketcapApiKey
    quoteCall texts sources process s a = some call ∧
      TtlCache.hit call (s.quoteCache process) = none ∧
      input.quote.now = at_ ∧
      input.quote.ask texts (sources process).coinmarketcapApiKey = .ok raw

variable {texts sources bip44}

/-- A request is given a price or fails. -/
theorem priceFrom_cases (source : SourceSettings) (body : InvoiceCreate) (input : SourceInput)
    (caches : Caches) (material : XpubMaterial) :
    (∃ failure, (priceFrom texts source body input caches material).1 = .failed failure) ∨
      ∃ pricing raw, (priceFrom texts source body input caches material).1
          = .priced material pricing ∧
        input.fees texts source body caches = .ok pricing.fees ∧
        (findQuote texts source.coinmarketcapApiKey input.quote caches.quote).1 = .ok raw ∧
        quoteForSats pricing.fees.satsCollect raw = .ok pricing.quote := by
  unfold priceFrom
  cases hfees : input.fees texts source body caches with
  | error failure => exact Or.inl ⟨failure, rfl⟩
  | ok fees =>
      dsimp only
      unfold createQuote fetchQuote
      cases hraw : (findQuote texts source.coinmarketcapApiKey input.quote caches.quote).1 with
      | error lastError => exact Or.inl ⟨_, rfl⟩
      | ok raw =>
          dsimp only
          cases hquote : quoteForSats fees.satsCollect raw with
          | error message => exact Or.inl ⟨_, rfl⟩
          | ok quote => exact Or.inr ⟨⟨fees, quote⟩, raw, rfl, rfl, rfl, hquote⟩

/-- A request passes the rate limit check or fails. -/
theorem limitFrom_cases (source : SourceSettings) (body : InvoiceCreate) (input : SourceInput)
    (caches : Caches) (invoices : Invoices) (material : XpubMaterial) (pricing : Pricing) :
    (∃ failure, (limitFrom texts source body input caches invoices material pricing).1
      = .failed failure) ∨
    (limitFrom texts source body input caches invoices material pricing).1
      = .limited material pricing := by
  unfold limitFrom
  split_ifs
  · exact Or.inr rfl
  · unfold createLimit
    dsimp only
    cases checkCustRateLimit invoices (input.live texts source caches).windows
        (body.custId.getD "") body.sats input.now with
    | error failure => exact Or.inl ⟨failure, rfl⟩
    | ok u => exact Or.inr rfl

/-- A request or a stored invoice has the deal. -/
def CachedDeployment.Carries (s : CachedDeployment) (deal : Deal) : Prop :=
  s.deployment.service.Carries deal

/-- A request is given the deal in this action. -/
def Makes (texts : TextNumbers) (sources : Nat → SourceSettings) (s : CachedDeployment)
    (a : CachedAction) (deal : Deal) : Prop :=
  ∃ i input r raw, a = .create i input ∧ Prices texts sources s i input r raw deal

/-- **The step lemma for deals.** -/
theorem CachedDeployment.act_carries (s : CachedDeployment) (a : CachedAction) (deal : Deal)
    (h : (s.act texts sources bip44 a).Carries deal) :
    s.Carries deal ∨ Makes texts sources s a deal := by
  cases a with
  | other action hother =>
      rcases (s.deployment.act_move bip44 action).carries h with
        hold | ⟨i, input, r, material, rfl, -, -⟩
      · exact Or.inl hold
      · cases hother
  | create i input =>
      unfold CachedDeployment.Carries CachedDeployment.act at h
      dsimp only at h
      cases hr : s.deployment.service.requests[i]? with
      | none => rw [hr] at h; exact Or.inl h
      | some r =>
          rw [hr] at h
          dsimp only at h
          cases hphase : r.phase with
          | unused material =>
              rw [hphase] at h
              rcases h.advance with hold | hdeal
              · exact Or.inl hold
              -- only a request that has got a price has a deal
              · rcases priceFrom_cases (sources r.process) r.body input
                    (s.caches r.process) material with
                  ⟨failure, hfailed⟩ | ⟨pricing, raw, hpriced, hfees, hraw, hquote⟩
                · rw [hfailed] at hdeal
                  cases hdeal
                · rw [hpriced] at hdeal
                  cases hdeal
                  exact Or.inr ⟨i, input, r, raw, rfl, hr, ⟨material, hphase⟩, ⟨rfl, rfl⟩, hfees,
                    hraw, hquote, rfl⟩
          | priced material pricing =>
              rw [hphase] at h
              rcases h.advance with hold | hdeal
              · exact Or.inl hold
              · rcases limitFrom_cases (sources r.process) r.body input
                    (s.caches r.process) s.deployment.service.db.invoices material pricing with
                  ⟨failure, hfailed⟩ | hlimited
                · rw [hfailed] at hdeal
                  cases hdeal
                · rw [hlimited] at hdeal
                  refine Or.inl (Or.inl ⟨i, r, hr, ?_⟩)
                  unfold Request.deal
                  rw [hphase]
                  exact hdeal
          | received | loaded | limited | allocated | built | answered | failed =>
              rw [hphase] at h
              rcases (s.deployment.act_move bip44 _).carries h with
                hold | ⟨j, input', r', material, hcreate, hr', hphase'⟩
              · exact Or.inl hold
              · cases hcreate
                rw [hr] at hr'
                cases hr'
                rw [hphase] at hphase'
                cases hphase'

/-! ## How old a price is -/

/-- The quote cache of a process moves with the calls that its requests make. -/
theorem quote_act (process : Nat) (s : CachedDeployment) (a : CachedAction) :
    (s.act texts sources bip44 a).quoteCache process
      = (quoteCall texts sources process s a).elim (s.quoteCache process)
          (fun c => (TtlCache.fetch 60 c (s.quoteCache process)).2) := by
  unfold CachedDeployment.quoteCache
  cases a with
  | other action hother => rfl
  | create i input =>
      unfold CachedDeployment.act quoteCall
      dsimp only
      cases hr : s.deployment.service.requests[i]? with
      | none => rfl
      | some r =>
          dsimp only
          cases hphase : r.phase with
          | unused material =>
              dsimp only
              by_cases hp : r.process = process
              · subst hp
                rw [if_pos rfl, Function.update_self]
                unfold priceFrom
                cases input.fees texts (sources r.process) r.body (s.caches r.process) with
                | error failure => rfl
                | ok fees => exact congrArg Prod.snd (findQuote_eq input.quote _)
              · rw [if_neg hp, Function.update_of_ne (Ne.symm hp)]
                rfl
          | priced material pricing =>
              dsimp only
              by_cases hp : r.process = process
              · subst hp
                rw [Function.update_self]
                unfold limitFrom
                split_ifs
                · rfl
                · rfl
              · rw [Function.update_of_ne (Ne.symm hp)]
                rfl
          | received | loaded | limited | allocated | built | answered | failed => rfl

/-- The quote cache of a process, after a run from the start. -/
theorem quote_run (process : Nat) (actions : List CachedAction) :
    (run (CachedDeployment.act texts sources bip44) .empty actions).quoteCache process
      = TtlCache.after 60 none (outputs (CachedDeployment.act texts sources bip44)
          (quoteCall texts sources process) .empty actions) :=
  run_component (quote_act process) CachedDeployment.empty actions

/-- Who calls the quote cache of a process. -/
theorem quoteCall_eq_some {process : Nat} {s : CachedDeployment} {a : CachedAction}
    {c : TtlCache.Call ℚ Quote} (h : quoteCall texts sources process s a = some c) :
    ∃ i input r, a = .create i input ∧ s.deployment.service.requests[i]? = some r ∧
      r.process = process ∧ c = input.quote.call texts (sources process).coinmarketcapApiKey := by
  cases a with
  | other action hother => cases h
  | create i input =>
      unfold quoteCall at h
      dsimp only at h
      cases hr : s.deployment.service.requests[i]? with
      | none => rw [hr] at h; cases h
      | some r =>
          rw [hr] at h
          dsimp only at h
          cases hphase : r.phase with
          | unused material =>
              rw [hphase] at h
              dsimp only at h
              by_cases hp : r.process = process
              · rw [if_pos hp] at h
                cases hfees : input.fees texts (sources process) r.body (s.caches process) with
                | error failure => rw [hfees] at h; cases h
                | ok fees =>
                    rw [hfees] at h
                    exact ⟨i, input, r, rfl, hr, hp, (Option.some.inj h).symm⟩
              · rw [if_neg hp] at h
                cases h
          | received | loaded | priced | limited | allocated | built | answered | failed =>
              rw [hphase] at h
              cases h

/-- A call that reads was made by an action that reads. -/
theorem readsQuote_of_quoteCall {process : Nat} {s : CachedDeployment} {a : CachedAction}
    {c : TtlCache.Call ℚ Quote} {raw : Quote} (h : quoteCall texts sources process s a = some c)
    (hread : TtlCache.Reads c (s.quoteCache process) raw) :
    ReadsQuote texts sources s a process raw c.now := by
  obtain ⟨i, input, r, ha, hr, hp, rfl⟩ := quoteCall_eq_some h
  exact ⟨i, input, ha, h, hread.1, rfl, ask_of_call hread.2⟩

theorem ReadsQuote.sound {s : CachedDeployment} {a : CachedAction} {process : Nat} {raw : Quote}
    {at_ : ℚ} (h : ReadsQuote texts sources s a process raw at_) : raw.Sound := by
  obtain ⟨i, input, -, -, -, -, hask⟩ := h
  exact QuoteFetch.ask_sound hask

/-- A request that is given its price calls the cache of its process. -/
theorem Prices.quoteCall_eq {s : CachedDeployment} {i : Nat} {input : SourceInput} {r : Request}
    {raw : Quote} {deal : Deal} (h : Prices texts sources s i input r raw deal) :
    quoteCall texts sources r.process s (.create i input)
      = some (input.quote.call texts (sources r.process).coinmarketcapApiKey) := by
  obtain ⟨material, hphase⟩ := h.unused
  unfold quoteCall
  dsimp only
  rw [h.request]
  dsimp only
  rw [hphase]
  dsimp only
  rw [if_pos rfl, h.fees]

/-- **Prices are fresh.** In every run of any number of processes with their caches, every stored
invoice carries the fees and the price that its request was given on the way; and the quote it was
given was read from a price source by that request, or by another request to the same process less
than 60 seconds before. The quote is sound, and so are the amounts. -/
theorem stored_quote_fresh (texts : TextNumbers) (sources : Nat → SourceSettings) (bip44 : Bip44)
    (actions : List CachedAction) (id : ObjectId) (doc : InvoiceDoc)
    (hdoc : (run (CachedDeployment.act texts sources bip44) .empty
      actions).deployment.service.db.invoices.lookup id = some doc) :
    ∃ before i input after r raw, actions = before ++ .create i input :: after ∧
      Prices texts sources (run (CachedDeployment.act texts sources bip44) .empty before) i input r
        raw doc.deal ∧
      (ReadsQuote texts sources (run (CachedDeployment.act texts sources bip44) .empty before)
          (.create i input) r.process raw input.quote.now ∨
        ∃ first a rest at_, before = first ++ a :: rest ∧
          ReadsQuote texts sources (run (CachedDeployment.act texts sources bip44) .empty first) a
            r.process raw at_ ∧ input.quote.now < at_ + 60) ∧
      raw.Sound ∧ 1 ≤ doc.fees.satsCollect ∧ 1 ≤ doc.duffsQuoted := by
  have hempty : ¬ CachedDeployment.empty.Carries doc.deal := by
    rintro (⟨j, r, hr, -⟩ | ⟨id', doc', hdoc', -⟩)
    · cases hr
    · cases hdoc'
  have hcarries : (run (CachedDeployment.act texts sources bip44) .empty actions).Carries doc.deal :=
    Or.inr ⟨id, doc, hdoc, rfl⟩
  obtain ⟨before, a, after, hactions, i, input, r, raw, rfl, hprices⟩ :=
    run_origin CachedDeployment.act_carries hempty hcarries
  -- what the quote cache of the process holds is what the calls before have left there
  have hfetch : (TtlCache.fetch 60 (input.quote.call texts
      (sources r.process).coinmarketcapApiKey) (TtlCache.after 60 none
        (outputs (CachedDeployment.act texts sources bip44) (quoteCall texts sources r.process)
          .empty before))).1 = some raw := by
    rw [← quote_run r.process before, ← findQuote_eq]
    exact congrArg Except.toOption hprices.found
  obtain ⟨hduffs, -⟩ := quoteForSats_spec hprices.quote
  obtain ⟨hsats, -, hone⟩ := duffsFromSats_ok hduffs
  have hamount : 1 ≤ doc.duffsQuoted := by
    rw [show doc.duffsQuoted = doc.quote.duffsQuoted from hprices.duffs]
    exact hone
  refine ⟨before, i, input, after, r, raw, hactions, hprices, ?_⟩
  rcases TtlCache.fetch_eq_some hfetch with hread | ⟨-, pre, g, post, hcalls, hread, hlt⟩
  · rw [← quote_run r.process before] at hread
    have hreads := readsQuote_of_quoteCall hprices.quoteCall_eq hread
    exact ⟨Or.inl hreads, hreads.sound, hsats, hamount⟩
  · obtain ⟨first, a, rest, hbefore, rfl, hout⟩ := outputs_split hcalls
    rw [← quote_run r.process first] at hread
    have hreads := readsQuote_of_quoteCall hout hread
    exact ⟨Or.inr ⟨first, a, rest, g.now, hbefore, hreads, hlt⟩, hreads.sound, hsats, hamount⟩

end Prices

/-! ## How often the sources are read -/

section Traffic

variable (texts : TextNumbers) (sources : Nat → SourceSettings) (bip44 : Bip44)

/-- The time at which an action reads a quote from the sources into the cache of a process. -/
def quoteReadAt (process : Nat) (s : CachedDeployment) (a : CachedAction) : Option ℚ :=
  (quoteCall texts sources process s a).bind (fun c =>
    if TtlCache.hit c (s.quoteCache process) = none ∧ c.read ≠ none then some c.now else none)

variable {texts sources bip44}

/-- What a read leaves in the cache, and what was there before it has expired. -/
theorem quoteReadAt_eq_some {process : Nat} {s : CachedDeployment} {a : CachedAction} {at_ : ℚ}
    (h : quoteReadAt texts sources process s a = some at_) :
    (∃ quote, (s.act texts sources bip44 a).quoteCache process = some ⟨quote, at_ + 60⟩) ∧
      ∀ e, s.quoteCache process = some e → e.expires ≤ at_ := by
  obtain ⟨c, hcall, h⟩ := Option.bind_eq_some_iff.mp h
  split_ifs at h with hread
  obtain rfl := Option.some.inj h
  obtain ⟨hmiss, hsome⟩ := hread
  obtain ⟨quote, hquote⟩ := Option.ne_none_iff_exists'.mp hsome
  constructor
  · refine ⟨quote, ?_⟩
    rw [quote_act, hcall, Option.elim_some, TtlCache.fetch, hmiss, hquote]
  · intro e he
    obtain ⟨i, input, r, -, -, -, rfl⟩ := quoteCall_eq_some hcall
    rw [he] at hmiss
    exact not_lt.mp (TtlCache.not_lt_of_miss input.quote_force hmiss)

/-- An action that does not read leaves the cache as it is. -/
theorem quoteCache_of_not_read {process : Nat} {s : CachedDeployment} {a : CachedAction}
    (h : quoteReadAt texts sources process s a = none) :
    (s.act texts sources bip44 a).quoteCache process = s.quoteCache process := by
  rw [quote_act]
  cases hcall : quoteCall texts sources process s a with
  | none => rfl
  | some c =>
      rw [Option.elim_some]
      rcases TtlCache.fetch_kept 60 c (s.quoteCache process) with hsame | ⟨v, hv, -⟩
      · exact hsame
      · unfold quoteReadAt at h
        rw [hcall, Option.bind_some, if_pos ⟨hv.1, by rw [hv.2]; exact nofun⟩] at h
        cases h

/-- The quote in the cache does not expire before the minute of a read is over. -/
def QuoteKept (process : Nat) (s : CachedDeployment) (t : ℚ) : Prop :=
  ∃ e, s.quoteCache process = some e ∧ t + 60 ≤ e.expires

def MinuteApart (t t' : ℚ) : Prop := t + 60 ≤ t'

theorem QuoteKept.act {process : Nat} (s : CachedDeployment) (a : CachedAction) (t : ℚ)
    (h : QuoteKept process s t) : QuoteKept process (s.act texts sources bip44 a) t := by
  obtain ⟨e, he, hle⟩ := h
  cases hread : quoteReadAt texts sources process s a with
  | none => exact ⟨e, (quoteCache_of_not_read hread).trans he, hle⟩
  | some at_ =>
      obtain ⟨⟨quote, hnew⟩, hexpired⟩ := quoteReadAt_eq_some hread
      have hlater := hexpired e he
      refine ⟨_, hnew, ?_⟩
      show t + 60 ≤ at_ + 60
      linarith

theorem quoteKept_of_read {process : Nat} (s : CachedDeployment) (a : CachedAction) (t : ℚ)
    (h : quoteReadAt texts sources process s a = some t) :
    QuoteKept process (s.act texts sources bip44 a) t ∧
      ∀ t', QuoteKept process s t' → MinuteApart t' t := by
  obtain ⟨⟨quote, hnew⟩, hexpired⟩ := quoteReadAt_eq_some h
  refine ⟨⟨_, hnew, le_rfl⟩, ?_⟩
  rintro t' ⟨e, he, hle⟩
  exact hle.trans (hexpired e he)

/-- **The price sources are read at most once a minute.** In every run, the times at which a process
reads a quote from them are at least 60 seconds apart, however many requests it prices. -/
theorem quote_reads_apart (texts : TextNumbers) (sources : Nat → SourceSettings) (bip44 : Bip44)
    (actions : List CachedAction) (process : Nat) :
    (outputs (CachedDeployment.act texts sources bip44) (quoteReadAt texts sources process) .empty
      actions).Pairwise MinuteApart :=
  (outputs_pairwise QuoteKept.act quoteKept_of_read _ actions).1

end Traffic

/-! ## A run

One process serves a request for one sat. CoinGecko answers, and the status endpoint does not. -/

/-- One bitcoin for a Dash. -/
def dustPayload : Json :=
  .obj [("dash", .obj [("btc", .number (.int 1)), ("usd", .number (.int 50))]),
    ("bitcoin", .obj [("usd", .number (.int 50))])]

def dustSource : SourceInput where
  file := .missing
  hive := { now := 0, response := none }
  quote :=
    { now := 0, today := 0, coingecko := .ok dustPayload, coinmarketcap := .error "no key" }
  now := 0
  id := 1

theorem readCoingecko_dust : readCoingecko noTexts (nowIso 0) dustPayload = .ok dustQuote := by
  have hunit : ((1 : Int) : ℚ) = ((1 : Int) : Decimal) * (10 : ℚ) ^ (0 : Int) := by norm_num
  have hduffs : duffsFromSats 1 dustQuote.dashBtc = .ok 1 :=
    duffsFromSats_exact (by decide) (by decide) (by decide) (by decide) (by decide) (by norm_num)
  have hmul : Decimal.mul prec (SATS_PER_BTC : Decimal) dustQuote.dashBtc = 100000000 := by
    have hvalue : (SATS_PER_BTC : Decimal) * dustQuote.dashBtc = ((100000000 : Int) : ℚ) := by
      unfold SATS_PER_BTC dustQuote
      norm_num
    rw [Decimal.mul, hvalue, prec, Decimal.roundSig_intCast (by decide)]
    norm_num
  have hamount : dashAmountString 1 = "0.00000001" := by
    rw [dashAmountString_eq (by decide)]
    decide
  have hdate : nowIso 0 = "1970-01-01T00:00:00Z" := by decide +kernel
  have hread : readCoingecko noTexts (nowIso 0) dustPayload
      = buildQuote "coingecko" (nowIso 0) ((50 : Int) : ℚ) ((50 : Int) : ℚ) dustQuote.dashBtc := by
    rw [show dustQuote.dashBtc = ((1 : Int) : ℚ) from hunit.symm]
    rfl
  rw [hread, buildQuote, hduffs, hmul, hdate]
  show Except.ok _ = Except.ok dustQuote
  rw [hamount]
  norm_num [dustQuote]

theorem findQuote_dust : findQuote noTexts "" dustSource.quote none
    = (.ok dustQuote, some ⟨dustQuote, 60⟩) := by
  have hask : dustSource.quote.ask noTexts "" = .ok dustQuote := by
    unfold QuoteFetch.ask
    rw [show dustSource.quote.coingecko.bind (readCoingecko noTexts (nowIso dustSource.quote.today))
      = _ from readCoingecko_dust]
  unfold findQuote refreshQuote
  rw [hask]
  norm_num [dustSource, dustQuote]

theorem priceFrom_dust : priceFrom noTexts {} dustBody dustSource {} dustMaterial
    = (.priced dustMaterial dustPricing, { quote := some ⟨dustQuote, 60⟩ }) := by
  have hfees : dustSource.fees noTexts {} dustBody {} = .ok dustPricing.fees :=
    congrArg Except.ok calculateInvoiceFees_dust
  have hquote : createQuote dustPricing.fees (fetchQuote (.ok dustQuote)) dustMaterial
      = .priced dustMaterial dustPricing := by
    have hlive : createPrice dustBody DEFAULT_CONFIG (fetchQuote (.ok dustQuote)) dustMaterial
        = createQuote (calculateInvoiceFees 1 DEFAULT_CONFIG) (fetchQuote (.ok dustQuote))
          dustMaterial :=
      @createPrice_live (fallbackConfig 300) DEFAULT_CONFIG rfl dustBody _ dustMaterial
    rw [calculateInvoiceFees_dust] at hlive
    rw [← hlive]
    exact createPrice_dust rfl dustMaterial
  unfold priceFrom
  rw [hfees]
  dsimp only
  rw [show findQuote noTexts _ dustSource.quote _ = _ from findQuote_dust]
  dsimp only
  rw [hquote]
  rfl

def dustRequest (phase : CreatePhase) : Request :=
  { process := 0, settings := dustSettings, body := dustBody, phase }

/-- The deployment while the request is served; nothing is stored yet. -/
def dustServing (phase : CreatePhase) (caches : Nat → Caches) : CachedDeployment where
  deployment :=
    { service :=
        { db := ⟨∅, Function.update (fun _ => none) .regtest (some (pairRow .regtest))⟩
          node := ⟨[], fun _ => []⟩
          processes := [⟨dustSettings, .serving (some dustMaterial) none⟩]
          requests := [dustRequest phase] }
      watchers := fun _ => ({}, .idle) }
  caches

/-- The process starts, takes the request and looks up its external id. -/
def dustStart : List CachedAction :=
  .other (.serve (.start dustSettings)) rfl ::
    List.replicate 4 (.other (.serve (.boot 0 pairBoot)) rfl) ++
    .other (.serve (.post 0 dustBody)) rfl :: List.replicate 2 (.create 0 dustSource)

theorem run_dustStart : run (CachedDeployment.act noTexts (fun _ => {}) dustKeys) .empty dustStart
    = dustServing (.unused dustMaterial) (fun _ => {}) := rfl

theorem act_dustServing : (dustServing (.unused dustMaterial) (fun _ => {})).act noTexts
    (fun _ => {}) dustKeys (.create 0 dustSource)
      = dustServing (.priced dustMaterial dustPricing)
          (Function.update (fun _ => {}) 0 { quote := some ⟨dustQuote, 60⟩ }) := by
  unfold CachedDeployment.act
  show CachedDeployment.mk
    (Deployment.advance _ 0 _ (priceFrom noTexts {} dustBody dustSource {} dustMaterial).1)
    (Function.update _ 0 (priceFrom noTexts {} dustBody dustSource {} dustMaterial).2) = _
  rw [priceFrom_dust]
  rfl

/-- The whole run. -/
def dustRun : List CachedAction := dustStart ++ List.replicate 5 (.create 0 dustSource)

theorem lookup_dustRun : (run (CachedDeployment.act noTexts (fun _ => {}) dustKeys) .empty
    dustRun).deployment.service.db.invoices.lookup 1
      = some (newInvoice dustSettings dustBody dustPricing "y0"
          { change := 0, index := 0, path := "m/44'/1'/0'/0/0" } 0) := by
  unfold dustRun
  rw [run_append, run_dustStart, List.replicate_succ, run_cons, act_dustServing]
  rfl

/-- The invoice of the run is priced with a sound quote. -/
theorem stored_quote_fresh_dust : ∃ doc : InvoiceDoc, ∃ raw : Quote,
    doc.externalId = dustBody.externalId ∧ raw.Sound ∧ 1 ≤ doc.duffsQuoted := by
  obtain ⟨before, i, input, after, r, raw, -, -, -, hsound, -, hduffs⟩ :=
    stored_quote_fresh noTexts (fun _ => {}) dustKeys dustRun 1 _ lookup_dustRun
  exact ⟨_, raw, rfl, hsound, hduffs⟩

end V4vappDash
