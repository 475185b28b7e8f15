import V4vappDash.System.Indexes

set_option autoImplicit false

/-! # External ids that are said to exist

An insertion is refused for a key in any of the unique indexes, and the request is told that its
external id exists, whichever it was. On one network no two indexes, and so no two derived
addresses, are the same (`IndexInv`); but two networks of one coin type number their addresses
independently of each other. A request is told so wrongly exactly when an invoice of another
network has its address: `conflicts_real_iff`.
-/

namespace V4vappDash

open Machine

/-- Where an invoice is about to be inserted whose address a stored invoice of its network has, the
two were derived at the same index: of the addresses that have been derived, none came out at two
indexes. -/
def IndexDetermined (bip44 : Bip44) (s : Deployment) : DeploymentAction → Prop
  | .serve (.create i _) => ∀ r doc id other accountXpub accountXpub',
      s.service.requests[i]? = some r → r.phase = .built doc →
      s.service.db.invoices.lookup id = some other → other.network = doc.network →
      deriveAddress bip44 accountXpub doc.network doc.index 0 = .ok doc.address →
      deriveAddress bip44 accountXpub' other.network other.index 0 = .ok other.address →
      other.address = doc.address → other.index = doc.index
  | _ => True

/-- No stored invoice has the external id. -/
def Unused (externalId : String) (invoices : Invoices) : Prop :=
  ∀ id doc, invoices.lookup id = some doc → doc.externalId ≠ externalId

/-- The driver gives a new document an `_id` that is not in use. -/
def FreshId (s : Deployment) : DeploymentAction → Prop
  | .serve (.create i input) => ∀ r doc, s.service.requests[i]? = some r → r.phase = .built doc →
      s.service.db.invoices.lookup input.id = none
  | _ => True

/-- In this action a request is told that its external id exists, and it does not. -/
def FalseConflict (bip44 : Bip44) (s : Deployment) : DeploymentAction → Prop
  | .serve (.create i input) => ∃ r failure, s.service.requests[i]? = some r ∧
      r.phase.isFinished = false ∧ Unused r.body.externalId s.service.db.invoices ∧
      (createStep r.settings bip44 r.body input s.service.db r.phase).2 = .failed failure ∧
      failure.isDuplicate = true
  | _ => False

/-- No invoice of another network has the address of a document that is about to be inserted,
where BSON holds the document and its external id is not in use. -/
def AddressUnshared (s : Deployment) : DeploymentAction → Prop
  | .serve (.create i _) => ∀ r doc, s.service.requests[i]? = some r → r.phase = .built doc →
      Unused r.body.externalId s.service.db.invoices → doc.newInts.all bsonInt64 = true →
      ∀ id other, s.service.db.invoices.lookup id = some other → other.network ≠ doc.network →
        other.address ≠ doc.address
  | _ => True

/-! ## Derived addresses -/

/-- The address of a document is the one at its index under some account key. -/
def Derived (bip44 : Bip44) (doc : InvoiceDoc) : Prop :=
  ∃ accountXpub, deriveAddress bip44 accountXpub doc.network doc.index 0 = .ok doc.address

/-- A request about to insert has derived the address, and inserts under its external id. -/
def BuiltOk (bip44 : Bip44) (r : Request) : Prop :=
  ∀ doc, r.phase = .built doc → Derived bip44 doc ∧ doc.externalId = r.body.externalId

structure ConflictInv (bip44 : Bip44) (s : Service) : Prop where
  indexes : IndexInv s
  stored : ∀ id doc, s.db.invoices.lookup id = some doc → Derived bip44 doc
  requests : ∀ (i : Nat) r, s.requests[i]? = some r → BuiltOk bip44 r

theorem BuiltOk.next {bip44 : Bip44} {r : Request} {input : CreateInput} {db db' : Database}
    {phase : CreatePhase}
    (hmove : CreateMove r.settings bip44 r.body input db r.phase db' phase) :
    BuiltOk bip44 (r.next phase) := by
  obtain ⟨process, settings, body, passed, phase₀⟩ := r
  intro doc hbuilt
  change phase = .built doc at hbuilt
  subst hbuilt
  cases hmove with
  | @build material pricing index address derivation hderive =>
      obtain ⟨haddress, hindex⟩ := deriveReceive_ok hderive
      refine ⟨⟨material.accountXpub, ?_⟩, rfl⟩
      show deriveAddress bip44 material.accountXpub settings.dashNetwork derivation.index 0
        = .ok address
      rw [hindex]
      exact haddress

section Invariant

variable {bip44 : Bip44}

theorem ConflictInv.serve {s : Service} {a : ServiceAction} (h : ConflictInv bip44 s)
    (hindexes : IndexInv (s.act bip44 a)) : ConflictInv bip44 (s.act bip44 a) := by
  have hmove := s.act_move bip44 a
  generalize s.act bip44 a = s' at hmove hindexes ⊢
  refine ⟨hindexes, ?_, ?_⟩
  · intro id doc hdoc
    rcases hmove.stored_or_built hdoc with hold | ⟨i, r, hr, hbuilt⟩
    · exact h.stored id doc hold
    · exact (h.requests i r hr doc hbuilt).1
  · intro j q hq
    cases hmove with
    | idle | start | boot => exact h.requests j q hq
    | post hp =>
        rcases getElem?_concat_cases hq with ⟨-, rfl⟩ | hq
        · intro doc hbuilt
          cases hbuilt
        · exact h.requests j q hq
    | create hr hcreate =>
        rcases getElem?_set_cases hq with ⟨-, rfl⟩ | ⟨-, hq⟩
        · exact BuiltOk.next hcreate
        · exact h.requests j q hq
    | raise hr hfin | lose hr hphase hcreate =>
        rcases getElem?_set_cases hq with ⟨-, rfl⟩ | ⟨-, hq⟩
        · intro doc hbuilt
          cases hbuilt
        · exact h.requests j q hq

/-- **The step lemma.** -/
theorem ConflictInv.act {s : Deployment} (h : ConflictInv bip44 s.service)
    (a : DeploymentAction) : ConflictInv bip44 (s.act bip44 a).service := by
  have hindexes : IndexInv (s.act bip44 a).service := h.indexes.act a
  have hmove := s.act_move bip44 a
  generalize (s.act bip44 a).service = s' at hmove hindexes ⊢
  cases hmove with
  | serve a => exact h.serve hindexes
  | update ha hterms =>
      refine ⟨hindexes, ?_, h.requests⟩
      intro id doc hdoc
      obtain ⟨old, hold, hsame⟩ := hterms.lookup hdoc
      obtain ⟨accountXpub, hderive⟩ := h.stored id old hold
      have hnetwork := congrArg InvoiceDoc.network hsame
      have hindex := congrArg InvoiceDoc.index hsame
      have haddress := congrArg InvoiceDoc.address hsame
      refine ⟨accountXpub, ?_⟩
      calc deriveAddress bip44 accountXpub doc.network doc.index 0
          = deriveAddress bip44 accountXpub old.network old.index 0 := by
            rw [← show old.network = doc.network from hnetwork,
              ← show old.index = doc.index from hindex]
        _ = .ok old.address := hderive
        _ = .ok doc.address := congrArg Except.ok haddress

theorem conflictInv_empty : ConflictInv bip44 Service.empty where
  indexes := indexInv_empty
  stored := by
    intro id doc hdoc
    cases hdoc
  requests := by
    intro i r hr
    cases hr

/-- No stored invoice of its own network has the address of a document in flight. -/
theorem ConflictInv.own_network {s : Deployment} (h : ConflictInv bip44 s.service) {i : Nat}
    {input : CreateInput} (hindex : IndexDetermined bip44 s (.serve (.create i input)))
    {r : Request} {doc other : InvoiceDoc} {id : ObjectId}
    (hr : s.service.requests[i]? = some r) (hbuilt : r.phase = .built doc)
    (hother : s.service.db.invoices.lookup id = some other)
    (hnetwork : other.network = doc.network) : other.address ≠ doc.address := by
  intro haddress
  obtain ⟨accountXpub, hderive⟩ := (h.requests i r hr doc hbuilt).1
  obtain ⟨accountXpub', hderive'⟩ := h.stored id other hother
  -- the same index, then, and both of them hold it
  have hsame := hindex r doc id other _ _ hr hbuilt hother hnetwork hderive hderive' haddress
  have hinvoice := held_of_lookup hother
  have hrequest : s.service.tickets.held (.request i) = some (other.network, other.index) := by
    show s.service.requests[i]?.bind _ = _
    rw [hr, hnetwork, hsame]
    show r.phase.ticket _ = _
    rw [hbuilt]
    rfl
  have hholder := h.indexes.fair.single _ _ _ hinvoice hrequest
  cases hholder

/-- An insertion is refused for a key that some stored invoice has. -/
theorem duplicateKey_iff {invoices : Invoices} {id : ObjectId} {doc : InvoiceDoc}
    (hid : invoices.lookup id = none) (hunused : Unused doc.externalId invoices) :
    duplicateKey invoices id doc = true ↔
      ∃ id' other, invoices.lookup id' = some other ∧ other.address = doc.address := by
  unfold duplicateKey
  rw [List.any_eq_true]
  constructor
  · rintro ⟨⟨id', other⟩, hmem, hkey⟩
    have hother := Collection.mem_docs.mp hmem
    simp only [Bool.or_eq_true, decide_eq_true_eq] at hkey
    rcases hkey with (rfl | hext) | haddress
    · rw [hid] at hother
      cases hother
    · exact absurd hext (hunused id' other hother)
    · exact ⟨id', other, hother, haddress⟩
  · rintro ⟨id', other, hother, haddress⟩
    refine ⟨(id', other), Collection.mem_docs.mpr hother, ?_⟩
    simp only [Bool.or_eq_true, decide_eq_true_eq]
    exact Or.inr haddress

/-- A move tells a request that its external id exists at its lookup, and then rightly, or at its
insertion. -/
theorem CreateMove.duplicate {settings : Settings} {body : InvoiceCreate} {input : CreateInput}
    {db db' : Database} {phase : CreatePhase} {failure : Failure}
    (h : CreateMove settings bip44 body input db phase db' (.failed failure))
    (hfin : phase.isFinished = false) (hdup : failure.isDuplicate = true) :
    (∃ id doc, db.invoices.lookup id = some doc ∧ doc.externalId = body.externalId) ∨
      ∃ doc, phase = .built doc := by
  cases h with
  | exhausted hrow hle hfail =>
      rw [hdup] at hfail
      cases hfail
  | fail hf =>
      cases phase with
      | loaded material =>
          obtain ⟨id, doc, hdoc, hext, -⟩ := hf
          exact Or.inl ⟨id, doc, hdoc, hext⟩
      | built doc => exact Or.inr ⟨doc, rfl⟩
      | received | unused | priced =>
          rw [CreateFails, hdup] at hf
          cases hf
      | limited | allocated =>
          have hfail := hf.1
          rw [hdup] at hfail
          cases hfail
      | answered | failed => cases hfin

/-- An insertion tells so when BSON holds the document and a key of it is in use. -/
theorem createInsert_duplicate {invoices : Invoices} {id : ObjectId} {doc : InvoiceDoc}
    {failure : Failure} (h : (createInsert invoices id doc).2 = .failed failure)
    (hdup : failure.isDuplicate = true) :
    doc.newInts.all bsonInt64 = true ∧ duplicateKey invoices id doc = true := by
  unfold createInsert at h
  cases hints : doc.newInts.all bsonInt64 with
  | false =>
      rw [hints] at h
      cases h
      cases hdup
  | true =>
      refine ⟨rfl, ?_⟩
      rw [hints] at h
      cases hkey : duplicateKey invoices id doc with
      | true => rfl
      | false =>
          rw [hkey] at h
          cases h

/-- **One action.** A request is told so wrongly exactly when its address is shared. -/
theorem falseConflict_iff {s : Deployment} {a : DeploymentAction}
    (h : ConflictInv bip44 s.service) (hindex : IndexDetermined bip44 s a) (hfresh : FreshId s a) :
    ¬ FalseConflict bip44 s a ↔ AddressUnshared s a := by
  cases a with
  | watch | cancel => exact ⟨fun _ => trivial, fun _ hf => hf⟩
  | serve b =>
      cases b with
      | start | boot | post | raise | lose => exact ⟨fun _ => trivial, fun _ hf => hf⟩
      | create i input =>
          constructor
          · intro hnot r doc hr hbuilt hunused hints id other hother hne haddress
            have hext := (h.requests i r hr doc hbuilt).2
            have hdup : duplicateKey s.service.db.invoices input.id doc = true :=
              (duplicateKey_iff (hfresh r doc hr hbuilt) (hext ▸ hunused)).mpr
                ⟨id, other, hother, haddress⟩
            let refusal : ApiError :=
              { statusCode := 409
                code := "duplicate_external_id"
                message := "external_id already exists" }
            refine hnot ⟨r, .api refusal, hr, ?_, hunused, ?_, rfl⟩
            · rw [hbuilt]
              rfl
            · rw [hbuilt]
              show (createInsert s.service.db.invoices input.id doc).2 = _
              rw [createInsert, hints, hdup]
              rfl
          · rintro hshared ⟨r, failure, hr, hfin, hunused, hstep, hfail⟩
            have hmove := createStep_move r.settings bip44 r.body input s.service.db r.phase
            rw [hstep] at hmove
            rcases hmove.duplicate hfin hfail with ⟨id, doc, hdoc, hext⟩ | ⟨doc, hbuilt⟩
            · exact hunused id doc hdoc hext
            · rw [hbuilt] at hstep
              obtain ⟨hints, hdup⟩ := createInsert_duplicate hstep hfail
              have hext := (h.requests i r hr doc hbuilt).2
              obtain ⟨id, other, hother, haddress⟩ :=
                (duplicateKey_iff (hfresh r doc hr hbuilt) (hext ▸ hunused)).mp hdup
              by_cases hnetwork : other.network = doc.network
              · exact h.own_network hindex hr hbuilt hother hnetwork haddress
              · exact hshared r doc hr hbuilt hunused hints id other hother hnetwork haddress

/-- **Conflicts.** In every run from an empty database, of processes on any networks, in which no
address of a network comes out at two indexes: requests are told that their external id exists only
when it does, as long as no invoice of another network has the address of a document
about to be inserted, and no longer than that. -/
theorem conflicts_real_iff (bip44 : Bip44) (actions : List DeploymentAction)
    (hindex : Along (Deployment.act bip44) (IndexDetermined bip44) .empty actions)
    (hfresh : Along (Deployment.act bip44) FreshId .empty actions) :
    Along (Deployment.act bip44) (fun s a => ¬ FalseConflict bip44 s a) .empty actions ↔
      Along (Deployment.act bip44) AddressUnshared .empty actions :=
  Along.congr (P := fun s : Deployment => ConflictInv bip44 s.service)
    (fun _ a hs => hs.act a) (fun _ _ hs ha => falseConflict_iff hs ha.1 ha.2)
    (hindex.and hfresh) conflictInv_empty

end Invariant

/-! ## Two networks

A testnet and a regtest process with the same account key. -/

/-- An address that shows its index in unary. -/
def unaryKeys : Bip44 := fun _ coin _ index =>
  if index < 0 then .error "index must be >= 0"
  else .ok (String.ofList
    ((match coin with | .DASH => 'X' | .DASH_TESTNET => 'y') :: List.replicate index.toNat '1'))

/-- Whatever the account key. -/
theorem index_unaryKeys {accountXpub accountXpub' : String} {network : Network}
    {index index' : Int} {address : String}
    (h : deriveAddress unaryKeys accountXpub network index 0 = .ok address)
    (h' : deriveAddress unaryKeys accountXpub' network index' 0 = .ok address) : index = index' := by
  unfold deriveAddress unaryKeys at h h'
  split_ifs at h h'
  have hsame := (Except.ok.inj h).trans (Except.ok.inj h').symm
  have hlength := congrArg String.length hsame
  simp only [String.length_ofList, List.length_cons, List.length_replicate] at hlength
  omega

theorem indexDetermined_unaryKeys (actions : List DeploymentAction) :
    Along (Deployment.act unaryKeys) (IndexDetermined unaryKeys) .empty actions := by
  refine along_of_mem (fun a _ s => ?_)
  cases a with
  | watch | cancel => trivial
  | serve b =>
      cases b with
      | start | boot | post | raise | lose => trivial
      | create i input =>
          intro r doc id other accountXpub accountXpub' hr hbuilt hother hnetwork h h' haddress
          rw [hnetwork, haddress] at h'
          exact (index_unaryKeys h h').symm

def pairBoot : BootInput where
  file := .missing
  now := 0
  rpc := { getdescriptorinfo := fun _ => .ok {} }

def pairSettings (network : Network) : Settings := { dustSettings with dashNetwork := network }

def pairMaterial (network : Network) : XpubMaterial := { dustMaterial with network }

def pairRow (network : Network) : WalletRow := newRow network "tpub" "aabbccdd" 100000 0

/-- Both processes start. -/
def pairStart : List ServiceAction :=
  .start (pairSettings .testnet) :: List.replicate 4 (.boot 0 pairBoot) ++
    .start (pairSettings .regtest) :: List.replicate 4 (.boot 1 pairBoot)

def pairService : Service where
  db := ⟨∅, Function.update (Function.update (fun _ => none) .testnet (some (pairRow .testnet)))
    .regtest (some (pairRow .regtest))⟩
  node := ⟨[], fun _ => []⟩
  processes := [⟨pairSettings .testnet, .serving (some (pairMaterial .testnet)) none⟩,
    ⟨pairSettings .regtest, .serving (some (pairMaterial .regtest)) none⟩]
  requests := []

theorem run_pairStart : run (Service.act unaryKeys) Service.empty pairStart = pairService := rfl

def pairInput (id : ObjectId) : CreateInput := { dustInput with id }

/-- A request for the same under another external id. -/
def pairBody : InvoiceCreate :=
  { dustBody with externalId := "order-2", externalId_length := length_second_order }

theorem served_pair : Served (pairSettings .testnet) unaryKeys dustBody (pairInput 1)
    pairService.db (pairMaterial .testnet) dustPricing (pairRow .testnet) "y"
    { change := 0, index := 0, path := "m/44'/1'/0'/0/0" } where
  mongo := by decide
  key := rfl
  price := createPrice_dust rfl _
  limit := rfl
  found := rfl
  inRange := by decide
  derive := rfl
  ints := rfl
  fresh := rfl

/-- The testnet process serves a request, and then the regtest process another one. -/
def firstActions : List ServiceAction :=
  .post 0 dustBody :: List.replicate 7 (.create 0 (pairInput 1))

def secondActions : List ServiceAction :=
  .post 1 pairBody :: List.replicate 7 (.create 1 (pairInput 2))

/-- A condition that holds of everything but the steps of a request, and of these as long as
nothing is stored, is met until the first request is served. -/
theorem along_firstActions {ok : Deployment → DeploymentAction → Prop}
    (hother : ∀ s a, (∀ i input, a ≠ ServiceAction.create i input) → ok s (.serve a))
    (hcreate : ∀ s : Deployment, s.service.db.invoices = ∅ →
      ∀ i input, ok s (.serve (.create i input))) :
    Along (Deployment.act unaryKeys) ok .empty ((pairStart ++ firstActions).map .serve) := by
  rw [Deployment.along_serve, along_append]
  constructor
  · refine along_of_mem (fun a ha t => hother _ a ?_)
    rintro i input rfl
    simp [pairStart] at ha
  · have hstart : run (Service.act unaryKeys) (Deployment.empty).service pairStart = pairService :=
      run_pairStart
    rw [hstart]
    have hpost : ∀ i input, ServiceAction.post 0 dustBody ≠ .create i input := by
      intro i input heq
      cases heq
    refine ⟨hother _ _ hpost, along_replicate ?_⟩
    intro k hk
    refine hcreate _ ?_ _ _
    obtain ⟨passed, hrun⟩ := Served.run (i := 0)
      (r := { process := 0, settings := pairSettings .testnet, body := dustBody })
      (s := pairService.act unaryKeys (.post 0 dustBody)) served_pair rfl rfl k
    dsimp only
    rw [hrun]
    match k with
    | 0 | 1 | 2 | 3 | 4 | 5 | 6 => rfl
    | k + 7 => omega

theorem freshId_firstActions : Along (Deployment.act unaryKeys) FreshId .empty
    ((pairStart ++ firstActions).map .serve) := by
  refine along_firstActions ?_ ?_
  · intro s a ha
    cases a with
    | create i input => exact absurd rfl (ha i input)
    | start | boot | post | raise | lose => trivial
  · intro s hempty i input r doc hr hbuilt
    rw [hempty]
    rfl

/-- While nothing else is stored, no address is shared. -/
theorem conflicts_real_iff_first :
    Along (Deployment.act unaryKeys) (fun s a => ¬ FalseConflict unaryKeys s a) .empty
      ((pairStart ++ firstActions).map .serve) := by
  refine (conflicts_real_iff unaryKeys _ (indexDetermined_unaryKeys _) freshId_firstActions).mpr ?_
  refine along_firstActions ?_ ?_
  · intro s a ha
    cases a with
    | create i input => exact absurd rfl (ha i input)
    | start | boot | post | raise | lose => trivial
  · intro s hempty i input r doc hr hbuilt hunused hints id other hother
    rw [hempty] at hother
    cases hother

/-- The database with the testnet invoice. -/
def firstDb : Database :=
  { pairService.db.afterTake .testnet (pairRow .testnet) 0 with
    invoices := AList.insert 1 (newInvoice (pairSettings .testnet) dustBody dustPricing "y"
      { change := 0, index := 0, path := "m/44'/1'/0'/0/0" } 0) ∅ }

def secondRequest : Request :=
  { process := 1, settings := pairSettings .regtest, body := pairBody }

theorem run_firstActions : ∃ answered, run (Service.act unaryKeys) Service.empty
    (pairStart ++ firstActions) = { pairService with db := firstDb, requests := [answered] } := by
  obtain ⟨passed, hserve⟩ := served_pair.serve (s := pairService) (i := 0) rfl
  rw [run_append, run_pairStart]
  exact ⟨_, hserve⟩

/-- What the regtest request has done after `k` steps, up to its insertion. -/
def secondTrace : Nat → Database × CreatePhase :=
  Served.trace (pairSettings .regtest) pairBody (pairInput 2) firstDb (pairMaterial .regtest)
    dustPricing (pairRow .regtest) "y" { change := 0, index := 0, path := "m/44'/1'/0'/0/0" }

theorem second_steps {k : Nat} (hk : k < 7) :
    createSteps (pairSettings .regtest) unaryKeys pairBody (pairInput 2) k (firstDb, .received)
      = secondTrace k := by
  have hprice : createSteps (pairSettings .regtest) unaryKeys pairBody (pairInput 2) 3
      (firstDb, .received) = (firstDb, .priced (pairMaterial .regtest) dustPricing) :=
    congrArg (Prod.mk firstDb) (createPrice_dust rfl _)
  match k with
  | 0 | 1 | 2 => rfl
  | 3 => exact hprice
  | j + 4 =>
      have hsplit : createSteps (pairSettings .regtest) unaryKeys pairBody (pairInput 2) (j + 4)
          (firstDb, .received) = createSteps (pairSettings .regtest) unaryKeys pairBody
            (pairInput 2) (j + 1) (firstDb, .priced (pairMaterial .regtest) dustPricing) := by
        rw [← hprice]
        exact Function.iterate_add_apply _ (j + 1) 3 _
      rw [hsplit]
      match j with
      | 0 | 1 | 2 => rfl
      | j + 3 => omega

/-- Up to the insertion, the new `_id` is not in use. -/
theorem secondTrace_lookup {k : Nat} (hk : k < 7) :
    (secondTrace k).1.invoices.lookup 2 = none := by
  match k with
  | 0 | 1 | 2 | 3 | 4 | 5 | 6 => rfl
  | k + 7 => omega

/-- The service, when the first request has been answered and the second one received. -/
def secondPosted (answered : Request) : Service :=
  { pairService with db := firstDb, requests := [answered, secondRequest] }

theorem run_second (answered : Request) {k : Nat} (hk : k < 7) :
    ∃ passed, run (Service.act unaryKeys) (secondPosted answered)
      (List.replicate k (.create 1 (pairInput 2))) = { secondPosted answered with
        db := (secondTrace k).1
        requests := [answered, { secondRequest with passed, phase := (secondTrace k).2 }] } := by
  obtain ⟨passed, hcreate⟩ := run_create unaryKeys (pairInput 2) (s := secondPosted answered)
    (i := 1) (r := secondRequest) rfl k
  have hsteps : createSteps secondRequest.settings unaryKeys secondRequest.body (pairInput 2) k
      ((secondPosted answered).db, secondRequest.phase) = secondTrace k := second_steps hk
  rw [hsteps] at hcreate
  exact ⟨passed, hcreate⟩

/-- The regtest request is told that its external id exists, for the address of the testnet
invoice. -/
theorem shared_address_conflict :
    let actions := (pairStart ++ firstActions ++ secondActions).map DeploymentAction.serve
    Along (Deployment.act unaryKeys) (IndexDetermined unaryKeys) .empty actions ∧
      Along (Deployment.act unaryKeys) FreshId .empty actions ∧
      ¬ Along (Deployment.act unaryKeys) (fun s a => ¬ FalseConflict unaryKeys s a) .empty
        actions := by
  obtain ⟨answered, hfirst⟩ := run_firstActions
  let before : Service := { pairService with db := firstDb, requests := [answered] }
  have hfirst : run (Service.act unaryKeys) (Deployment.empty).service (pairStart ++ firstActions)
      = before := hfirst
  have hposted : before.act unaryKeys (.post 1 pairBody) = secondPosted answered := rfl
  refine ⟨indexDetermined_unaryKeys _, ?_, ?_⟩
  · rw [List.map_append, along_append]
    refine ⟨freshId_firstActions, ?_⟩
    rw [Deployment.run_serve, hfirst, Deployment.along_serve]
    refine ⟨trivial, ?_⟩
    dsimp only
    rw [hposted]
    apply along_replicate
    intro k hk r doc hr hbuilt
    obtain ⟨passed, hk'⟩ := run_second answered hk
    dsimp only
    rw [hk']
    exact secondTrace_lookup hk
  · intro h
    obtain ⟨passed, hlast⟩ := run_second answered (k := 6) (by omega)
    rw [List.map_append, along_append] at h
    have hsecond := h.2
    rw [Deployment.run_serve, hfirst, Deployment.along_serve] at hsecond
    have hcreate := hsecond.2
    dsimp only at hcreate
    rw [hposted, List.replicate_succ', along_append, hlast] at hcreate
    refine hcreate.2.1 ⟨_, _, rfl, rfl, ?_, rfl, rfl⟩
    -- the only stored invoice has another external id
    intro id doc hdoc
    have hdoc : (AList.insert 1 _ ∅ : Invoices).lookup id = some doc := hdoc
    by_cases hid : id = 1
    · subst hid
      rw [AList.lookup_insert] at hdoc
      cases hdoc
      show "order-1" ≠ "order-2"
      decide
    · rw [AList.lookup_insert_ne hid] at hdoc
      cases hdoc

end V4vappDash
