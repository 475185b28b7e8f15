import V4vappDash.System.Service

set_option autoImplicit false

/-! # Retried requests

A request looks for its external id, and much later inserts an invoice with it; a request that
comes in between does the same, and the slower one of the two is told that its external id
exists. The lookup answers a retry only when the first attempt has stored its invoice. Retries
are safe in a run where requests with one external id take their indexes one after the other,
each after the invoice of the one before is stored and found (`Undisturbed`):
`retries_answered`.
-/

namespace V4vappDash

open Machine

/-- The request has an index and has not stored its invoice yet. -/
def Request.Holds (r : Request) : Prop :=
  match r.phase with
  | .allocated _ _ _ => True
  | .built _ => True
  | _ => False

/-- Request `i` carries the external id and holds an index. -/
def Holder (externalId : String) (requests : List Request) (i : Nat) : Prop :=
  ∃ r, requests[i]? = some r ∧ r.body.externalId = externalId ∧ r.Holds

/-- Request `i` carries the external id and was told that it created an invoice. -/
def Creator (externalId : String) (requests : List Request) (i : Nat) (id : ObjectId)
    (doc : InvoiceDoc) : Prop :=
  ∃ r, requests[i]? = some r ∧ r.body.externalId = externalId ∧ r.phase = .answered 201 id doc

/-- The external id is stored. -/
def StoredAs (externalId : String) (invoices : Invoices) (id : ObjectId) (doc : InvoiceDoc) :
    Prop :=
  invoices.lookup id = some doc ∧ doc.externalId = externalId

/-- All requests with the external id ask for the same. -/
def SamePayload (externalId : String) (sats expiresInS : Int) (_ : Service) :
    ServiceAction → Prop
  | .post _ body => body.externalId = externalId → body.sats = sats ∧ body.expiresInS = expiresInS
  | _ => True

/-- A request with the external id takes an index only while no other one holds an index and no
invoice with the external id is stored. From there on it lacks nothing: there is an index in the
range, it has an address, and BSON and the unique indexes of the database accept the invoice. No
reply about its insertion is lost. -/
def Undisturbed (bip44 : Bip44) (externalId : String) (s : Service) : ServiceAction → Prop
  | .create i input => ∀ r, s.requests[i]? = some r → r.body.externalId = externalId →
      match r.phase with
      | .limited _ _ =>
          (∀ j, Holder externalId s.requests j → j = i) ∧
          (∀ id doc, ¬ StoredAs externalId s.db.invoices id doc) ∧
          ∃ row, s.db.walletState r.settings.dashNetwork = some row ∧
            (row.nextReceiveIndex : Int) < r.settings.dashDescriptorRangeEnd
      | .allocated material _ index =>
          ∃ result, deriveReceive bip44 material.accountXpub r.settings.dashNetwork index
            = .ok result
      | .built doc =>
          doc.newInts.all bsonInt64 = true ∧
          ∀ id' doc', s.db.invoices.lookup id' = some doc' → doc'.externalId ≠ externalId →
            id' ≠ input.id ∧ doc'.address ≠ doc.address
      | _ => True
  | .raise i _ => ∀ r, s.requests[i]? = some r → r.body.externalId = externalId →
      r.passed = false
  | .lose i _ _ => ∀ r, s.requests[i]? = some r → r.body.externalId ≠ externalId
  | _ => True

/-- Retries are safe: at most one invoice is stored, one request created it, every answer is that
invoice, and no request is told that the external id exists. -/
structure Idempotent (externalId : String) (s : Service) : Prop where
  noConflict : ∀ (i : Nat) r failure, s.requests[i]? = some r →
    r.body.externalId = externalId → r.phase = .failed failure → failure.isDuplicate = false
  answered : ∀ (i : Nat) r statusCode id doc, s.requests[i]? = some r →
    r.body.externalId = externalId → r.phase = .answered statusCode id doc →
    StoredAs externalId s.db.invoices id doc ∧ (statusCode = 201 ∨ statusCode = 200)
  unique : ∀ id id' doc doc', StoredAs externalId s.db.invoices id doc →
    StoredAs externalId s.db.invoices id' doc' → id = id'
  created : ∀ id doc, StoredAs externalId s.db.invoices id doc →
    ∃ i, Creator externalId s.requests i id doc
  once : ∀ i j id id' doc doc', Creator externalId s.requests i id doc →
    Creator externalId s.requests j id' doc' → i = j
  /-- A finished request that got past validation, pricing and limits has the invoice. -/
  passed : ∀ id doc, StoredAs externalId s.db.invoices id doc → ∀ (i : Nat) r,
    s.requests[i]? = some r → r.body.externalId = externalId → r.passed = true →
    r.phase.isFinished = true → ∃ statusCode, r.phase = .answered statusCode id doc

/-! ## The invariant -/

/-- What a request with the external id has come to. -/
def RetryPhase (externalId : String) (invoices : Invoices) (passed : Bool) : CreatePhase → Prop
  | .received => passed = false
  | .loaded _ => passed = false
  | .unused _ => passed = false
  | .priced _ _ => passed = false
  | .answered statusCode id doc =>
      StoredAs externalId invoices id doc ∧ (statusCode = 201 ∨ statusCode = 200)
  | .failed failure => failure.isDuplicate = false ∧ passed = false
  | .limited _ _ => True
  | .allocated _ _ _ => True
  | .built _ => True

/-- A document carries the terms of the request it was built for. -/
def HasTerms (body : InvoiceCreate) (doc : InvoiceDoc) : Prop :=
  doc.externalId = body.externalId ∧ doc.satsRequested = body.sats ∧
    doc.expiresInS = body.expiresInS

structure RetryOk (externalId : String) (sats expiresInS : Int) (invoices : Invoices)
    (r : Request) : Prop where
  built : ∀ doc, r.phase = .built doc → HasTerms r.body doc
  payload : r.body.externalId = externalId → r.body.sats = sats ∧ r.body.expiresInS = expiresInS
  phase : r.body.externalId = externalId → RetryPhase externalId invoices r.passed r.phase

structure RetryInv (externalId : String) (sats expiresInS : Int) (s : Service) : Prop where
  requests : ∀ (i : Nat) r, s.requests[i]? = some r →
    RetryOk externalId sats expiresInS s.db.invoices r
  stored : ∀ id doc, StoredAs externalId s.db.invoices id doc →
    doc.satsRequested = sats ∧ doc.expiresInS = expiresInS
  unique : ∀ id id' doc doc', StoredAs externalId s.db.invoices id doc →
    StoredAs externalId s.db.invoices id' doc' → id = id'
  created : ∀ id doc, StoredAs externalId s.db.invoices id doc →
    ∃ i, Creator externalId s.requests i id doc
  once : ∀ i j id id' doc doc', Creator externalId s.requests i id doc →
    Creator externalId s.requests j id' doc' → i = j
  holder : ∀ i j, Holder externalId s.requests i → Holder externalId s.requests j → i = j
  vacant : ∀ i, Holder externalId s.requests i →
    ∀ id doc, ¬ StoredAs externalId s.db.invoices id doc

section Invariant

variable {externalId : String} {sats expiresInS : Int}

theorem RetryInv.idempotent {s : Service} (h : RetryInv externalId sats expiresInS s) :
    Idempotent externalId s where
  noConflict := by
    intro i r failure hr hext hphase
    have := (h.requests i r hr).phase hext
    rw [hphase] at this
    exact this.1
  answered := by
    intro i r statusCode id doc hr hext hphase
    have := (h.requests i r hr).phase hext
    rw [hphase] at this
    exact this
  unique := h.unique
  created := h.created
  once := h.once
  passed := by
    intro id doc hstored i r hr hext hpassed hfin
    have hphase := (h.requests i r hr).phase hext
    -- a finished request has been answered or has failed
    cases hp : r.phase with
    | answered statusCode id' doc' =>
        rw [hp] at hphase
        obtain rfl := h.unique _ _ _ _ hphase.1 hstored
        obtain rfl : doc' = doc := Option.some.inj (hphase.1.1.symm.trans hstored.1)
        exact ⟨statusCode, rfl⟩
    | failed failure =>
        rw [hp] at hphase
        rw [hphase.2] at hpassed
        cases hpassed
    | received | loaded | unused | priced | limited | allocated | built =>
        rw [hp] at hfin
        cases hfin

/-! ## One request -/

theorem RetryOk.mono {invoices invoices' : Invoices} {r : Request}
    (h : RetryOk externalId sats expiresInS invoices r)
    (hlookup : ∀ id doc, invoices.lookup id = some doc → invoices'.lookup id = some doc) :
    RetryOk externalId sats expiresInS invoices' r := by
  refine ⟨h.built, h.payload, ?_⟩
  intro hext
  have hphase := h.phase hext
  cases hp : r.phase with
  | answered statusCode id doc =>
      rw [hp] at hphase
      exact ⟨⟨hlookup id doc hphase.1.1, hphase.1.2⟩, hphase.2⟩
  | received | loaded | unused | priced | limited | allocated | built | failed =>
      rw [hp] at hphase
      exact hphase

theorem exists_of_duplicateKey {invoices : Invoices} {id : ObjectId} {doc : InvoiceDoc}
    (h : duplicateKey invoices id doc = true) : ∃ id' doc', invoices.lookup id' = some doc' ∧
      (id' = id ∨ doc'.externalId = doc.externalId ∨ doc'.address = doc.address) := by
  obtain ⟨⟨id', doc'⟩, hmem, hkey⟩ := List.any_eq_true.mp h
  simp only [Bool.or_eq_true, decide_eq_true_eq] at hkey
  exact ⟨id', doc', Collection.mem_docs.mp hmem, or_assoc.mp hkey⟩

/-- A request that has built its document meets no duplicate key: no invoice with its external
id is stored, and those with another one have other keys. -/
theorem RetryInv.not_duplicateKey {s : Service} {i : Nat} {r : Request} {doc : InvoiceDoc}
    {id : ObjectId} (h : RetryInv externalId sats expiresInS s) (hr : s.requests[i]? = some r)
    (hext : r.body.externalId = externalId) (hp : r.phase = .built doc)
    (hother : ∀ id' doc', s.db.invoices.lookup id' = some doc' → doc'.externalId ≠ externalId →
      id' ≠ id ∧ doc'.address ≠ doc.address) : ¬ duplicateKey s.db.invoices id doc = true := by
  intro hdup
  obtain ⟨id', doc', hdoc', hkey⟩ := exists_of_duplicateKey hdup
  have hholder : Holder externalId s.requests i :=
    ⟨r, hr, hext, by rw [Request.Holds, hp]; trivial⟩
  have hne : doc'.externalId ≠ externalId :=
    fun hsame => h.vacant i hholder id' doc' ⟨hdoc', hsame⟩
  obtain ⟨hid, haddress⟩ := hother id' doc' hdoc' hne
  rcases hkey with hid' | hext' | haddress'
  · exact hid hid'
  · have hterms := (h.requests i r hr).built doc hp
    apply hne
    calc doc'.externalId
        = doc.externalId := hext'
      _ = r.body.externalId := hterms.1
      _ = externalId := hext
  · exact haddress haddress'

/-- Why a request with the external id fails: not because the external id exists, and not once
it has got past the limits. -/
theorem RetryInv.fails {bip44 : Bip44} {s : Service} {i : Nat} {r : Request} {input : CreateInput}
    {failure : Failure} (h : RetryInv externalId sats expiresInS s)
    (hr : s.requests[i]? = some r) (hok : Undisturbed bip44 externalId s (.create i input))
    (hext : r.body.externalId = externalId)
    (hfails : CreateFails r.settings bip44 r.body input s.db r.phase failure) :
    failure.isDuplicate = false ∧ r.passed = false := by
  have hphase := (h.requests i r hr).phase hext
  have hcond := hok r hr hext
  cases hp : r.phase with
  | received =>
      rw [hp] at hphase hfails
      exact ⟨hfails, hphase⟩
  | loaded material =>
      -- a stored invoice with the external id has the terms of this request
      rw [hp] at hfails
      obtain ⟨id, doc, hdoc, hsame, hdiffer⟩ := hfails
      have hterms := h.stored id doc ⟨hdoc, hsame.trans hext⟩
      have hpayload := (h.requests i r hr).payload hext
      exact absurd ⟨hterms.1.trans hpayload.1.symm, hterms.2.trans hpayload.2.symm⟩ hdiffer
  | unused material =>
      rw [hp] at hphase hfails
      exact ⟨hfails, hphase⟩
  | priced material pricing =>
      rw [hp] at hphase hfails
      exact ⟨hfails, hphase⟩
  -- there is a wallet row
  | limited material pricing =>
      rw [hp] at hcond hfails
      obtain ⟨row, hrow, -⟩ := hcond.2.2
      rw [hfails.2] at hrow
      cases hrow
  -- the key derives an address
  | allocated material pricing index =>
      rw [hp] at hcond hfails
      obtain ⟨result, hderive⟩ := hcond
      exact absurd hderive (hfails.2 result)
  | built doc =>
      rw [hp] at hcond hfails
      rcases hfails with ⟨-, hints⟩ | hdup
      · rw [hcond.1] at hints
        cases hints
      · exact absurd hdup (h.not_duplicateKey hr hext hp hcond.2)
  | answered statusCode id doc =>
      rw [hp] at hfails
      exact hfails.elim
  | failed failure' =>
      rw [hp] at hphase hfails
      obtain rfl : failure = failure' := hfails
      exact hphase

/-- A request that moves stays in order. -/
theorem RetryInv.next {bip44 : Bip44} {s : Service} {i : Nat} {r : Request} {input : CreateInput}
    {db : Database} {phase : CreatePhase} (h : RetryInv externalId sats expiresInS s)
    (hr : s.requests[i]? = some r) (hok : Undisturbed bip44 externalId s (.create i input))
    (hmove : CreateMove r.settings bip44 r.body input s.db r.phase db phase) :
    RetryOk externalId sats expiresInS db.invoices (r.next phase) := by
  have hself := h.requests i r hr
  have hfails : ∀ failure, CreateFails r.settings bip44 r.body input s.db r.phase failure →
      r.body.externalId = externalId → failure.isDuplicate = false ∧ r.passed = false :=
    fun failure hf hext => h.fails hr hok hext hf
  have hrange : ∀ material pricing row, r.phase = .limited material pricing →
      r.body.externalId = externalId → s.db.walletState r.settings.dashNetwork = some row →
      (row.nextReceiveIndex : Int) < r.settings.dashDescriptorRangeEnd := by
    intro material pricing row hp hext hrow
    have hcond := hok r hr hext
    rw [hp] at hcond
    obtain ⟨row', hrow', hlt⟩ := hcond.2.2
    rw [hrow] at hrow'
    cases hrow'
    exact hlt
  obtain ⟨process, settings, body, passed, phase₀⟩ := r
  -- a document is built in one move only, from the body of the request
  have hbuilt : ∀ doc, phase = .built doc → HasTerms body doc := by
    rintro doc rfl
    cases hmove
    exact ⟨rfl, rfl, rfl⟩
  refine ⟨hbuilt, hself.payload, ?_⟩
  intro hext
  cases hmove with
  | load | unused | price =>
      have hpassed : passed = false := hself.phase hext
      rw [hpassed]
      rfl
  | limit | allocate | build => trivial
  | found hdoc hsame => exact ⟨⟨hdoc, hsame.trans hext⟩, Or.inr rfl⟩
  | exhausted hrow hle =>
      -- there is an index in the range
      have hlt := hrange _ _ _ rfl hext hrow
      dsimp only at hlt hle
      omega
  | @insert doc =>
      exact ⟨⟨AList.lookup_insert _, (hself.built doc rfl).1.trans hext⟩, Or.inl rfl⟩
  | stay => exact hself.phase hext
  | fail hf =>
      obtain ⟨hdup, hpassed⟩ := hfails _ hf hext
      have hpassed : passed = false := hpassed
      rw [hpassed]
      exact ⟨hdup, rfl⟩

/-! ## Positions -/

section Positions

variable {requests : List Request} {i j : Nat} {r r' : Request} {id : ObjectId} {doc : InvoiceDoc}

theorem Holder.of_set (h : Holder externalId (requests.set i r') j) :
    (j = i ∧ r'.body.externalId = externalId ∧ r'.Holds) ∨
      (j ≠ i ∧ Holder externalId requests j) := by
  obtain ⟨q, hq, hext, hholds⟩ := h
  rcases getElem?_set_cases hq with ⟨rfl, rfl⟩ | ⟨hne, hq⟩
  · exact Or.inl ⟨rfl, hext, hholds⟩
  · exact Or.inr ⟨hne, q, hq, hext, hholds⟩

theorem Creator.of_set (h : Creator externalId (requests.set i r') j id doc) :
    (j = i ∧ r'.body.externalId = externalId ∧ r'.phase = .answered 201 id doc) ∨
      (j ≠ i ∧ Creator externalId requests j id doc) := by
  obtain ⟨q, hq, hext, hphase⟩ := h
  rcases getElem?_set_cases hq with ⟨rfl, rfl⟩ | ⟨hne, hq⟩
  · exact Or.inl ⟨rfl, hext, hphase⟩
  · exact Or.inr ⟨hne, q, hq, hext, hphase⟩

theorem Creator.set (h : Creator externalId requests j id doc) (hne : j ≠ i) :
    Creator externalId (requests.set i r') j id doc := by
  obtain ⟨q, hq, hext, hphase⟩ := h
  exact ⟨q, by rw [List.getElem?_set_ne (Ne.symm hne)]; exact hq, hext, hphase⟩

/-- A request that was not a creator and is none now changes nothing. -/
theorem creator_set_iff (hr : requests[i]? = some r) (hbody : r'.body = r.body)
    (hphase : r.body.externalId = externalId →
      ∀ id doc, r'.phase = .answered 201 id doc ↔ r.phase = .answered 201 id doc) :
    Creator externalId (requests.set i r') j id doc ↔ Creator externalId requests j id doc := by
  constructor
  · intro h
    rcases h.of_set with ⟨rfl, hext, hanswered⟩ | ⟨-, h⟩
    · rw [hbody] at hext
      exact ⟨r, hr, hext, (hphase hext id doc).mp hanswered⟩
    · exact h
  · intro h
    by_cases hij : j = i
    · subst hij
      obtain ⟨q, hq, hext, hanswered⟩ := h
      rw [hr] at hq
      cases hq
      exact ⟨r', List.getElem?_set_self (lt_of_getElem? hr), by rw [hbody]; exact hext,
        (hphase hext id doc).mpr hanswered⟩
    · exact h.set hij

end Positions

/-! ## Actions -/

section Actions

variable {bip44 : Bip44} {s s' : Service}

/-- An action that stores nothing with the external id, and after which nobody holds an index or
has created an invoice who did not before. -/
theorem RetryInv.quiet (h : RetryInv externalId sats expiresInS s)
    (hrequests : ∀ (i : Nat) r, s'.requests[i]? = some r →
      RetryOk externalId sats expiresInS s'.db.invoices r)
    (hstored : ∀ id doc, StoredAs externalId s'.db.invoices id doc ↔
      StoredAs externalId s.db.invoices id doc)
    (hholder : ∀ i, Holder externalId s'.requests i → Holder externalId s.requests i)
    (hcreator : ∀ i id doc, Creator externalId s'.requests i id doc ↔
      Creator externalId s.requests i id doc) : RetryInv externalId sats expiresInS s' where
  requests := hrequests
  stored := fun id doc hdoc => h.stored id doc ((hstored id doc).mp hdoc)
  unique := fun id id' doc doc' hdoc hdoc' =>
    h.unique id id' doc doc' ((hstored id doc).mp hdoc) ((hstored id' doc').mp hdoc')
  created := by
    intro id doc hdoc
    obtain ⟨i, hi⟩ := h.created id doc ((hstored id doc).mp hdoc)
    exact ⟨i, (hcreator i id doc).mpr hi⟩
  once := fun i j id id' doc doc' hi hj =>
    h.once i j id id' doc doc' ((hcreator i id doc).mp hi) ((hcreator j id' doc').mp hj)
  holder := fun i j hi hj => h.holder i j (hholder i hi) (hholder j hj)
  vacant := fun i hi id doc hdoc => h.vacant i (hholder i hi) id doc ((hstored id doc).mp hdoc)

/-- A request with the external id takes an index. -/
theorem RetryInv.allocate {i : Nat} {r : Request} {db : Database}
    (h : RetryInv externalId sats expiresInS s) (hinvoices : db.invoices = s.db.invoices)
    (hrequests : ∀ (j : Nat) q, (s.requests.set i r)[j]? = some q →
      RetryOk externalId sats expiresInS db.invoices q)
    (hcreator : ∀ j id doc, Creator externalId (s.requests.set i r) j id doc ↔
      Creator externalId s.requests j id doc)
    (hrival : ∀ j, Holder externalId s.requests j → j = i)
    (hnone : ∀ id doc, ¬ StoredAs externalId s.db.invoices id doc) :
    RetryInv externalId sats expiresInS { s with db, requests := s.requests.set i r } := by
  have hnone' : ∀ id doc, ¬ StoredAs externalId db.invoices id doc := by
    intro id doc hdoc
    rw [hinvoices] at hdoc
    exact hnone id doc hdoc
  have hholder : ∀ j, Holder externalId (s.requests.set i r) j → j = i := by
    intro j hj
    rcases hj.of_set with ⟨hij, -, -⟩ | ⟨-, hj⟩
    · exact hij
    · exact hrival j hj
  exact
    { requests := hrequests
      stored := fun id doc hdoc => absurd hdoc (hnone' id doc)
      unique := fun id _ doc _ hdoc => absurd hdoc (hnone' id doc)
      created := fun id doc hdoc => absurd hdoc (hnone' id doc)
      once := fun j k id id' doc doc' hj hk =>
        h.once j k id id' doc doc' ((hcreator j id doc).mp hj) ((hcreator k id' doc').mp hk)
      holder := fun j k hj hk => (hholder j hj).trans (hholder k hk).symm
      vacant := fun _ _ => hnone' }

/-- A request with the external id stores its invoice. -/
theorem RetryInv.insert {i : Nat} {r : Request} {id : ObjectId} {doc : InvoiceDoc} {db : Database}
    (h : RetryInv externalId sats expiresInS s) (hr : s.requests[i]? = some r)
    (hext : r.body.externalId = externalId) (hphase : r.phase = .built doc)
    (hinvoices : db.invoices = AList.insert id doc s.db.invoices)
    (hrequests : ∀ (j : Nat) q, (s.requests.set i (r.next (.answered 201 id doc)))[j]? = some q →
      RetryOk externalId sats expiresInS db.invoices q) :
    RetryInv externalId sats expiresInS
      { s with db, requests := s.requests.set i (r.next (.answered 201 id doc)) } := by
  have hself : Holder externalId s.requests i :=
    ⟨r, hr, hext, by rw [Request.Holds, hphase]; trivial⟩
  have hnone := h.vacant i hself
  have hterms := (h.requests i r hr).built doc hphase
  have hpayload := (h.requests i r hr).payload hext
  -- the invoice is the only one with the external id, and the request its only creator
  have hstored : ∀ id' doc', StoredAs externalId db.invoices id' doc' → id' = id ∧ doc' = doc := by
    rintro id' doc' ⟨hdoc', hext'⟩
    rw [hinvoices] at hdoc'
    by_cases hid : id' = id
    · subst hid
      rw [AList.lookup_insert] at hdoc'
      exact ⟨rfl, (Option.some.inj hdoc').symm⟩
    · rw [AList.lookup_insert_ne hid] at hdoc'
      exact absurd ⟨hdoc', hext'⟩ (hnone id' doc')
  have hcreator : ∀ j id' doc',
      Creator externalId (s.requests.set i (r.next (.answered 201 id doc))) j id' doc' → j = i := by
    intro j id' doc' hj
    rcases hj.of_set with ⟨hij, -, -⟩ | ⟨-, q, hq, hext', hphase'⟩
    · exact hij
    · have hold := (h.requests j q hq).phase hext'
      rw [hphase'] at hold
      exact absurd hold.1 (hnone id' doc')
  have hholder : ∀ j,
      ¬ Holder externalId (s.requests.set i (r.next (.answered 201 id doc))) j := by
    intro j hj
    rcases hj.of_set with ⟨-, -, hholds⟩ | ⟨hne, hj⟩
    · exact hholds
    · exact hne (h.holder j i hj hself)
  exact
    { requests := hrequests
      stored := by
        intro id' doc' hdoc'
        obtain ⟨rfl, rfl⟩ := hstored id' doc' hdoc'
        exact ⟨hterms.2.1.trans hpayload.1, hterms.2.2.trans hpayload.2⟩
      unique := fun id₁ id₂ doc₁ doc₂ h₁ h₂ =>
        (hstored id₁ doc₁ h₁).1.trans (hstored id₂ doc₂ h₂).1.symm
      created := by
        intro id' doc' hdoc'
        obtain ⟨rfl, rfl⟩ := hstored id' doc' hdoc'
        exact ⟨i, _, List.getElem?_set_self (lt_of_getElem? hr), hext, rfl⟩
      once := fun j k id₁ id₂ doc₁ doc₂ hj hk =>
        (hcreator j id₁ doc₁ hj).trans (hcreator k id₂ doc₂ hk).symm
      holder := fun j k hj _ => absurd hj (hholder j)
      vacant := fun j hj => absurd hj (hholder j) }

/-- A request with the external id takes a step that stores nothing, after which it holds no
index that it did not hold before. -/
theorem RetryInv.quiet_step {i : Nat} {r r' : Request} {db : Database}
    (h : RetryInv externalId sats expiresInS s) (hr : s.requests[i]? = some r)
    (hbody : r'.body = r.body) (hext : r.body.externalId = externalId)
    (hrequests : ∀ (j : Nat) q, (s.requests.set i r')[j]? = some q →
      RetryOk externalId sats expiresInS db.invoices q)
    (hinvoices : db.invoices = s.db.invoices) (hholds : r'.Holds → r.Holds)
    (hphase : ∀ id doc, r'.phase = .answered 201 id doc ↔ r.phase = .answered 201 id doc) :
    RetryInv externalId sats expiresInS { s with db, requests := s.requests.set i r' } := by
  refine h.quiet hrequests ?_ ?_ ?_
  · intro id doc
    rw [hinvoices]
  · intro j hj
    rcases hj.of_set with ⟨rfl, -, hj⟩ | ⟨-, hj⟩
    · exact ⟨r, hr, hext, hholds hj⟩
    · exact hj
  · intro j id doc
    exact creator_set_iff hr hbody (fun _ => hphase)

/-- A request with another external id takes a step, and goes on to some phase. -/
theorem RetryInv.other_step {i : Nat} {r : Request} {input : CreateInput} {db : Database}
    {phase phase' : CreatePhase} (h : RetryInv externalId sats expiresInS s)
    (hr : s.requests[i]? = some r) (hext : r.body.externalId ≠ externalId)
    (hmove : CreateMove r.settings bip44 r.body input s.db r.phase db phase)
    (hrequests : ∀ (j : Nat) q, (s.requests.set i (r.next phase'))[j]? = some q →
      RetryOk externalId sats expiresInS db.invoices q) :
    RetryInv externalId sats expiresInS
      { s with db, requests := s.requests.set i (r.next phase') } := by
  refine h.quiet hrequests ?_ ?_ ?_
  · intro id doc
    constructor
    · intro hdoc
      rcases hmove.stored hdoc.1 with hold | ⟨hbuilt, -, -, -⟩
      · exact ⟨hold, hdoc.2⟩
      · -- what it stores carries its own external id
        have hterms := (h.requests i r hr).built doc hbuilt
        exact absurd (hterms.1.symm.trans hdoc.2) hext
    · intro hdoc
      exact ⟨hmove.lookup hdoc.1, hdoc.2⟩
  · intro j hj
    rcases hj.of_set with ⟨-, hext', -⟩ | ⟨-, hj⟩
    · exact absurd hext' hext
    · exact hj
  · intro j id doc
    exact creator_set_iff hr rfl (fun hext' => absurd hext' hext)

/-- A step of a request. -/
theorem RetryInv.create {i : Nat} {r : Request} {input : CreateInput} {db : Database}
    {phase : CreatePhase} (h : RetryInv externalId sats expiresInS s)
    (hr : s.requests[i]? = some r) (hok : Undisturbed bip44 externalId s (.create i input))
    (hmove : CreateMove r.settings bip44 r.body input s.db r.phase db phase) :
    RetryInv externalId sats expiresInS
      { s with db, requests := s.requests.set i (r.next phase) } := by
  have hrequests : ∀ (j : Nat) q, (s.requests.set i (r.next phase))[j]? = some q →
      RetryOk externalId sats expiresInS db.invoices q := by
    intro j q hq
    rcases getElem?_set_cases hq with ⟨-, rfl⟩ | ⟨-, hq⟩
    · exact h.next hr hok hmove
    · exact (h.requests j q hq).mono (fun id doc hdoc => hmove.lookup hdoc)
  by_cases hext : r.body.externalId = externalId
  · -- only two moves change who holds an index or what is stored with this external id
    generalize hp : r.phase = phase₀ at hmove
    cases hmove with
    | load | unused | found | price | limit | exhausted =>
        refine h.quiet_step hr rfl hext hrequests rfl False.elim ?_
        intro id doc
        rw [hp]
        simp [Request.next]
    | build =>
        refine h.quiet_step hr rfl hext hrequests rfl ?_ ?_
        · intro _
          rw [Request.Holds, hp]
          trivial
        · intro id doc
          rw [hp]
          simp [Request.next]
    | stay =>
        refine h.quiet_step hr rfl hext hrequests rfl False.elim ?_
        intro id doc
        rw [hp]
        rfl
    | fail hf =>
        refine h.quiet_step hr rfl hext hrequests rfl False.elim ?_
        intro id doc
        constructor
        · intro heq
          cases heq
        · intro heq
          -- an answered request does not fail
          rw [← hp, heq] at hf
          exact hf.elim
    | allocate =>
        have hcond := hok r hr hext
        rw [hp] at hcond
        refine h.allocate rfl hrequests ?_ hcond.1 hcond.2.1
        intro j id doc
        exact creator_set_iff hr rfl (fun _ id doc => by rw [hp]; simp [Request.next])
    | insert => exact h.insert hr hext hp rfl hrequests
  · exact h.other_step hr hext hmove hrequests

/-- A request that is posted. -/
theorem RetryInv.post {i : Nat} {settings : Settings} {body : InvoiceCreate}
    (h : RetryInv externalId sats expiresInS s)
    (hsame : body.externalId = externalId → body.sats = sats ∧ body.expiresInS = expiresInS) :
    RetryInv externalId sats expiresInS
      { s with requests := s.requests ++ [{ process := i, settings, body }] } := by
  refine h.quiet ?_ (fun id doc => Iff.rfl) ?_ ?_
  · intro j q hq
    rcases getElem?_concat_cases hq with ⟨-, rfl⟩ | hq
    · refine ⟨?_, hsame, fun _ => rfl⟩
      intro doc heq
      cases heq
    · exact h.requests j q hq
  · intro j hj
    obtain ⟨q, hq, hext, hholds⟩ := hj
    rcases getElem?_concat_cases hq with ⟨-, rfl⟩ | hq
    · exact hholds.elim
    · exact ⟨q, hq, hext, hholds⟩
  · intro j id doc
    constructor
    · rintro ⟨q, hq, hext, hphase⟩
      rcases getElem?_concat_cases hq with ⟨-, rfl⟩ | hq
      · cases hphase
      · exact ⟨q, hq, hext, hphase⟩
    · rintro ⟨q, hq, hext, hphase⟩
      refine ⟨q, ?_, hext, hphase⟩
      rw [List.getElem?_append_left (lt_of_getElem? hq)]
      exact hq

/-- A request that has not got past the limits raises. -/
theorem RetryInv.raise {i : Nat} {r : Request} {message : String}
    (h : RetryInv externalId sats expiresInS s) (hr : s.requests[i]? = some r)
    (hfin : r.phase.isFinished = false)
    (hpassed : r.body.externalId = externalId → r.passed = false) :
    RetryInv externalId sats expiresInS
      { s with requests := s.requests.set i (r.next (.failed (.crash message))) } := by
  refine h.quiet ?_ (fun id doc => Iff.rfl) ?_ ?_
  · intro j q hq
    rcases getElem?_set_cases hq with ⟨-, rfl⟩ | ⟨-, hq⟩
    · refine ⟨?_, (h.requests i r hr).payload, fun hext => ⟨rfl, ?_⟩⟩
      · intro doc heq
        cases heq
      · show (r.passed || false) = false
        rw [hpassed hext]
        rfl
    · exact h.requests j q hq
  · intro j hj
    rcases hj.of_set with ⟨-, -, hholds⟩ | ⟨-, hj⟩
    · exact hholds.elim
    · exact hj
  · intro j id doc
    refine creator_set_iff hr rfl (fun _ id doc => ⟨?_, ?_⟩)
    · intro heq
      cases heq
    · intro heq
      rw [heq] at hfin
      cases hfin

/-- The reply about an insertion with another external id is lost. -/
theorem RetryInv.lose {i : Nat} {r : Request} {input : CreateInput} {db : Database}
    {phase : CreatePhase} {message : String} (h : RetryInv externalId sats expiresInS s)
    (hr : s.requests[i]? = some r) (hext : r.body.externalId ≠ externalId)
    (hmove : CreateMove r.settings bip44 r.body input s.db r.phase db phase) :
    RetryInv externalId sats expiresInS
      { s with db, requests := s.requests.set i (r.next (.failed (.crash message))) } := by
  refine h.other_step hr hext hmove ?_
  intro j q hq
  rcases getElem?_set_cases hq with ⟨-, rfl⟩ | ⟨-, hq⟩
  · refine ⟨?_, fun hext' => absurd hext' hext, fun hext' => absurd hext' hext⟩
    intro doc heq
    cases heq
  · exact (h.requests j q hq).mono (fun id doc hdoc => hmove.lookup hdoc)

/-- **The step lemma.** -/
theorem RetryInv.act {a : ServiceAction} (h : RetryInv externalId sats expiresInS s)
    (hsame : SamePayload externalId sats expiresInS s a)
    (hok : Undisturbed bip44 externalId s a) :
    RetryInv externalId sats expiresInS (s.act bip44 a) := by
  have hmove := s.act_move bip44 a
  generalize s.act bip44 a = s' at hmove ⊢
  cases hmove with
  | idle => exact h
  | start => exact ⟨h.requests, h.stored, h.unique, h.created, h.once, h.holder, h.vacant⟩
  | boot hp hboot =>
      have hinvoices := hboot.invoices
      refine h.quiet ?_ ?_ (fun j hj => hj)
        (fun j id doc => Iff.rfl)
      · intro j q hq
        dsimp only
        rw [hinvoices]
        exact h.requests j q hq
      · intro id doc
        dsimp only
        rw [hinvoices]
  | post hp => exact h.post hsame
  | create hr hcreate => exact h.create hr hok hcreate
  | raise hr hfin => exact h.raise hr hfin (hok _ hr)
  | lose hr hphase hcreate => exact h.lose hr (hok _ hr) hcreate

end Actions

/-- **Retries.** From a database without an invoice of this external id, in every run in which
all requests with it ask for the same and none is disturbed: the external id is stored at most
once, by one request, which is told so; all other requests that get past validation, pricing and
limits, or find the invoice, are answered with it; and no request is told that the external id
exists. -/
theorem retries_answered (bip44 : Bip44) (externalId : String) (sats expiresInS : Int)
    (s₀ : Service) (hrequests : s₀.requests = [])
    (hstored : ∀ id doc, ¬ StoredAs externalId s₀.db.invoices id doc)
    (actions : List ServiceAction)
    (hsame : Along (Service.act bip44) (SamePayload externalId sats expiresInS) s₀ actions)
    (hok : Along (Service.act bip44) (Undisturbed bip44 externalId) s₀ actions) :
    Idempotent externalId (run (Service.act bip44) s₀ actions) := by
  have hnone : ∀ (i : Nat) r, s₀.requests[i]? ≠ some r := by
    intro i r hr
    rw [hrequests] at hr
    cases hr
  have hinit : RetryInv externalId sats expiresInS s₀ :=
    { requests := fun i r hr => absurd hr (hnone i r)
      stored := fun id doc hdoc => absurd hdoc (hstored id doc)
      unique := fun id _ doc _ hdoc => absurd hdoc (hstored id doc)
      created := fun id doc hdoc => absurd hdoc (hstored id doc)
      once := by
        rintro i j id id' doc doc' ⟨r, hr, -⟩
        exact absurd hr (hnone i r)
      holder := by
        rintro i j ⟨r, hr, -⟩
        exact absurd hr (hnone i r)
      vacant := fun _ _ => hstored }
  exact ((hsame.and hok).invariant (fun s a hs ha => RetryInv.act hs ha.1 ha.2) hinit).idempotent

end Invariant

/-! ## Two requests -/

def retryRow : WalletRow := newRow .regtest "tpub" "aabbccdd" 100000 0

/-- A process that serves requests, before the first one. -/
def retryService : Service where
  db := ⟨∅, Function.update (fun _ => none) .regtest (some retryRow)⟩
  node := ⟨[], fun _ => []⟩
  processes := [⟨dustSettings, .serving (some dustMaterial) none⟩]
  requests := []

def retryRequest : Request := { process := 0, settings := dustSettings, body := dustBody }

def retryInput (id : ObjectId) : CreateInput := { dustInput with id }

theorem served_retry (id : ObjectId) :
    Served dustSettings dustKeys dustBody (retryInput id) retryService.db dustMaterial dustPricing
      retryRow "y0" { change := 0, index := 0, path := "m/44'/1'/0'/0/0" } where
  mongo := by decide
  key := rfl
  price := createPrice_dust rfl _
  limit := rfl
  found := rfl
  inRange := by decide
  derive := rfl
  ints := rfl
  fresh := rfl

/-- The second request comes after the first. -/
def retryActions : List ServiceAction :=
  .post 0 dustBody :: List.replicate 7 (.create 0 (retryInput 1)) ++
    .post 0 dustBody :: List.replicate 2 (.create 1 (retryInput 2))

/-- The second request comes while the first one waits for its price. -/
def overlapActions : List ServiceAction :=
  .post 0 dustBody :: .post 0 dustBody :: List.replicate 2 (.create 0 (retryInput 1)) ++
    List.replicate 7 (.create 1 (retryInput 2)) ++ List.replicate 5 (.create 0 (retryInput 1))

theorem samePayload_of_dust {a : ServiceAction}
    (h : a = .post 0 dustBody ∨ ∃ i id, a = .create i (retryInput id)) (s : Service) :
    SamePayload "order-1" 1 3600 s a := by
  rcases h with rfl | ⟨i, id, rfl⟩
  · exact fun _ => ⟨rfl, rfl⟩
  · trivial

theorem samePayload_retryActions :
    Along (Service.act dustKeys) (SamePayload "order-1" 1 3600) retryService retryActions := by
  refine along_of_mem (fun a ha => samePayload_of_dust ?_)
  simp only [retryActions, List.mem_append, List.mem_cons, List.mem_replicate] at ha
  rcases ha with (rfl | ⟨-, rfl⟩) | (rfl | ⟨-, rfl⟩)
  · exact Or.inl rfl
  · exact Or.inr ⟨_, _, rfl⟩
  · exact Or.inl rfl
  · exact Or.inr ⟨_, _, rfl⟩

theorem samePayload_overlapActions :
    Along (Service.act dustKeys) (SamePayload "order-1" 1 3600) retryService overlapActions := by
  refine along_of_mem (fun a ha => samePayload_of_dust ?_)
  simp only [overlapActions, List.mem_append, List.mem_cons, List.mem_replicate] at ha
  rcases ha with ((rfl | rfl | ⟨-, rfl⟩) | ⟨-, rfl⟩) | ⟨-, rfl⟩
  · exact Or.inl rfl
  · exact Or.inl rfl
  · exact Or.inr ⟨_, _, rfl⟩
  · exact Or.inr ⟨_, _, rfl⟩
  · exact Or.inr ⟨_, _, rfl⟩

/-- The second request finds the invoice of the first. -/
theorem retries_answered_sequential :
    Idempotent "order-1" (run (Service.act dustKeys) retryService retryActions) := by
  have hempty : ∀ id doc, ¬ StoredAs "order-1" retryService.db.invoices id doc := by
    rintro id doc ⟨hdoc, -⟩
    cases hdoc
  have hok : Along (Service.act dustKeys) (Undisturbed dustKeys "order-1") retryService
      retryActions := by
    obtain ⟨passed, hserve⟩ := (served_retry 1).serve (s := retryService) (i := 0) rfl
    refine along_append.mpr ⟨⟨trivial, along_replicate ?_⟩, ?_⟩
    · intro k hk
      obtain ⟨passed, hrun⟩ := Served.run (i := 0) (r := retryRequest)
        (s := retryService.act dustKeys (.post 0 dustBody)) (served_retry 1) rfl rfl k
      rw [hrun]
      intro r hr _
      cases hr
      match k with
      | 4 =>
          refine ⟨?_, hempty, retryRow, rfl, (served_retry 1).inRange⟩
          intro j hj
          rcases hj.of_set with ⟨hij, -, -⟩ | ⟨-, q, hq, -, hholds⟩
          · exact hij
          · have hq : q ∈ [retryRequest] := List.mem_of_getElem? hq
            obtain rfl := List.mem_singleton.mp hq
            exact hholds.elim
      | 5 => exact ⟨_, rfl⟩
      | 6 =>
          refine ⟨rfl, ?_⟩
          intro id' doc' hdoc'
          cases hdoc'
      | 0 | 1 | 2 | 3 | k + 7 => trivial
    · have hserve : run (Service.act dustKeys) retryService
          (.post 0 dustBody :: List.replicate 7 (.create 0 (retryInput 1))) = _ := hserve
      rw [hserve]
      refine ⟨trivial, ?_, ?_, trivial⟩
      · intro r hr _
        cases hr
        trivial
      · intro r hr _
        cases hr
        trivial
  exact retries_answered dustKeys "order-1" 1 3600 retryService rfl hempty retryActions
    samePayload_retryActions hok

/-- What the first request still does when the second one has stored the invoice. -/
theorem createSteps_overlap (db : Database) (hdb : (createSteps dustSettings dustKeys dustBody
      (retryInput 1) 4 (db, .priced dustMaterial dustPricing)).2
      = .refused 409 "duplicate_external_id" "external_id already exists") :
    (createSteps dustSettings dustKeys dustBody (retryInput 1) 5 (db, .unused dustMaterial)).2
      = .refused 409 "duplicate_external_id" "external_id already exists" := by
  have hprice : createStep dustSettings dustKeys dustBody (retryInput 1) db (.unused dustMaterial)
      = (db, .priced dustMaterial dustPricing) :=
    congrArg (Prod.mk db) (createPrice_dust rfl dustMaterial)
  rw [← hdb]
  show (createSteps dustSettings dustKeys dustBody (retryInput 1) 4
    (createStep dustSettings dustKeys dustBody (retryInput 1) db (.unused dustMaterial))).2 = _
  rw [hprice]

/-- The first request is told that its external id exists. -/
theorem overlapping_retry_conflict :
    Along (Service.act dustKeys) (SamePayload "order-1" 1 3600) retryService overlapActions ∧
      ¬ Idempotent "order-1" (run (Service.act dustKeys) retryService overlapActions) := by
  refine ⟨samePayload_overlapActions, ?_⟩
  intro h
  let s₁ : Service := { retryService with requests := [retryRequest, retryRequest] }
  have hpost : run (Service.act dustKeys) retryService [.post 0 dustBody, .post 0 dustBody] = s₁ :=
    rfl
  -- the first request has found nothing when the second one is served
  obtain ⟨p₁, hfirst⟩ :=
    Served.run (s := s₁) (i := 0) (r := retryRequest) (served_retry 1) rfl rfl 2
  let waiting : Request := { retryRequest with passed := p₁, phase := .unused dustMaterial }
  let s₂ : Service := { s₁ with requests := [waiting, retryRequest] }
  obtain ⟨p₂, hsecond⟩ :=
    Served.run (s := s₂) (i := 1) (r := retryRequest) (served_retry 2) rfl rfl 7
  let db := (Served.trace dustSettings dustBody (retryInput 2) s₂.db dustMaterial dustPricing
    retryRow "y0" { change := 0, index := 0, path := "m/44'/1'/0'/0/0" } 7).1
  let answered : Request := { retryRequest with
    passed := p₂
    phase := .answered 201 2 (newInvoice dustSettings dustBody dustPricing "y0"
      { change := 0, index := 0, path := "m/44'/1'/0'/0/0" } 0) }
  let s₃ : Service := { s₂ with db, requests := [waiting, answered] }
  obtain ⟨p₃, hrest⟩ := run_create dustKeys (retryInput 1) (s := s₃) (i := 0) (r := waiting) rfl 5
  have hrefused : (createSteps dustSettings dustKeys dustBody (retryInput 1) 5
      (db, .unused dustMaterial)).2
      = .refused 409 "duplicate_external_id" "external_id already exists" :=
    createSteps_overlap db rfl
  have hrun : run (Service.act dustKeys) retryService overlapActions
      = run (Service.act dustKeys) s₃ (List.replicate 5 (.create 0 (retryInput 1))) := by
    have hfirst : run (Service.act dustKeys) s₁ (List.replicate 2 (.create 0 (retryInput 1)))
        = s₂ := hfirst
    have hsecond : run (Service.act dustKeys) s₂ (List.replicate 7 (.create 1 (retryInput 2)))
        = s₃ := hsecond
    rw [overlapActions, run_append, run_append, run_cons, run_cons]
    have hposted :
        (retryService.act dustKeys (.post 0 dustBody)).act dustKeys (.post 0 dustBody) = s₁ := hpost
    rw [hposted, hfirst, hsecond]
  rw [hrun, hrest] at h
  have hdup := h.noConflict 0 _ _ rfl rfl hrefused
  cases hdup

end V4vappDash
