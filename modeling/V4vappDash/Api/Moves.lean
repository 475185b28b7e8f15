import V4vappDash.Api.Create
import V4vappDash.Limits.Answer

set_option autoImplicit false

/-! # What a request can do

A phase of a request goes on to the next one, answers, or fails for one of the reasons of its
phase. `createStep_move` says so once; everything that holds along the phases of a request is
read off its cases.
-/

namespace V4vappDash

/-- A price and its amount string belong together. -/
def Pricing.Ok (pricing : Pricing) : Prop :=
  pricing.quote.dashQuoted = dashAmountString pricing.quote.duffsQuoted

section Moves

variable (settings : Settings) (bip44 : Bip44) (body : InvoiceCreate) (input : CreateInput)
  (db : Database)

/-- Why a phase fails, and with what. -/
def CreateFails : CreatePhase → Failure → Prop
  | .received, failure => failure.isDuplicate = false
  | .loaded _, _ => ∃ id doc, db.invoices.lookup id = some doc ∧
      doc.externalId = body.externalId ∧
      ¬(doc.satsRequested = body.sats ∧ doc.expiresInS = body.expiresInS)
  | .unused _, failure => failure.isDuplicate = false
  | .priced _ _, failure => failure.isDuplicate = false
  | .limited _ _, failure => failure.isDuplicate = false ∧
      db.walletState settings.dashNetwork = none
  | .allocated material _ index, failure => failure.isDuplicate = false ∧
      ∀ r, deriveReceive bip44 material.accountXpub settings.dashNetwork index ≠ .ok r
  | .built doc, failure =>
      (failure.isDuplicate = false ∧ doc.newInts.all bsonInt64 = false) ∨
        duplicateKey db.invoices input.id doc = true
  | .answered _ _ _, _ => False
  | .failed failure, failure' => failure' = failure

/-- What a phase does to the database, and the phase after it. -/
inductive CreateMove : CreatePhase → Database → CreatePhase → Prop
  | load {material : XpubMaterial}
      (h : loadXpubMaterial settings input.file = .ok (some material)) :
      CreateMove .received db (.loaded material)
  | unused {material : XpubMaterial}
      (h : ∀ id doc, db.invoices.lookup id = some doc → doc.externalId ≠ body.externalId) :
      CreateMove (.loaded material) db (.unused material)
  | found {material : XpubMaterial} {id : ObjectId} {doc : InvoiceDoc}
      (hdoc : db.invoices.lookup id = some doc) (hext : doc.externalId = body.externalId)
      (hsame : doc.satsRequested = body.sats ∧ doc.expiresInS = body.expiresInS) :
      CreateMove (.loaded material) db (.answered 200 id doc)
  | price {material : XpubMaterial} {pricing : Pricing} (h : pricing.Ok) :
      CreateMove (.unused material) db (.priced material pricing)
  | limit {material : XpubMaterial} {pricing : Pricing} :
      CreateMove (.priced material pricing) db (.limited material pricing)
  | allocate {material : XpubMaterial} {pricing : Pricing} {row : WalletRow}
      (hrow : db.walletState settings.dashNetwork = some row)
      (hlt : (row.nextReceiveIndex : Int) < settings.dashDescriptorRangeEnd) :
      CreateMove (.limited material pricing)
        { db with walletState :=
            Function.update db.walletState settings.dashNetwork (some (row.taken input.now)) }
        (.allocated material pricing row.nextReceiveIndex)
  /-- The index is past the descriptor range; it is not given back. -/
  | exhausted {material : XpubMaterial} {pricing : Pricing} {row : WalletRow} {failure : Failure}
      (hrow : db.walletState settings.dashNetwork = some row)
      (hle : settings.dashDescriptorRangeEnd ≤ row.nextReceiveIndex)
      (hdup : failure.isDuplicate = false) :
      CreateMove (.limited material pricing)
        { db with walletState :=
            Function.update db.walletState settings.dashNetwork (some (row.taken input.now)) }
        (.failed failure)
  | build {material : XpubMaterial} {pricing : Pricing} {index : Nat} {address : String}
      {derivation : Derivation}
      (h : deriveReceive bip44 material.accountXpub settings.dashNetwork index
        = .ok (address, derivation)) :
      CreateMove (.allocated material pricing index) db
        (.built (newInvoice settings body pricing address derivation input.now))
  | insert {doc : InvoiceDoc} (hints : doc.newInts.all bsonInt64 = true)
      (hdup : duplicateKey db.invoices input.id doc = false) :
      CreateMove (.built doc) { db with invoices := AList.insert input.id doc db.invoices }
        (.answered 201 input.id doc)
  | stay {statusCode : Nat} {id : ObjectId} {doc : InvoiceDoc} :
      CreateMove (.answered statusCode id doc) db (.answered statusCode id doc)
  | fail {phase : CreatePhase} {failure : Failure}
      (h : CreateFails settings bip44 body input db phase failure) :
      CreateMove phase db (.failed failure)

/-! ## Phase by phase -/

theorem createLoad_move :
    CreateMove settings bip44 body input db .received db (createLoad settings input.file) := by
  unfold createLoad
  split_ifs
  · exact .fail rfl
  · cases hm : loadXpubMaterial settings input.file with
    | error message => exact .fail rfl
    | ok found =>
        cases found with
        | none => exact .fail rfl
        | some material => exact .load hm

theorem createLookup_move (material : XpubMaterial) :
    CreateMove settings bip44 body input db (.loaded material) db
      (createLookup body db.invoices material) := by
  unfold createLookup
  cases hf : Collection.findOne db.invoices (fun doc => doc.externalId = body.externalId) with
  | none =>
      -- `find_one` has looked at every document
      refine .unused ?_
      intro id doc hlook heq
      have hmem := Collection.mem_docs.mpr hlook
      have := List.find?_eq_none.mp hf (id, doc) hmem
      simp [heq] at this
  | some e =>
      obtain ⟨id, doc⟩ := e
      have hmem : (id, doc) ∈ Collection.docs db.invoices := List.mem_of_find?_eq_some hf
      have hdoc := Collection.mem_docs.mp hmem
      have hext : doc.externalId = body.externalId := by simpa using List.find?_some hf
      dsimp only
      by_cases hsame : doc.satsRequested = body.sats ∧ doc.expiresInS = body.expiresInS
      · rw [if_pos hsame]
        exact .found hdoc hext hsame
      · rw [if_neg hsame]
        exact .fail ⟨id, doc, hdoc, hext, hsame⟩

theorem createPrice_move (material : XpubMaterial) :
    CreateMove settings bip44 body input db (.unused material) db
      (createPrice body input.hive (fetchQuote input.quote) material) := by
  unfold createPrice
  split_ifs
  · exact .fail rfl
  · exact .fail rfl
  · cases input.quote with
    | error lastError => exact .fail rfl
    | ok rawQuote =>
        cases hq : quoteForSats (calculateInvoiceFees body.sats input.hive).satsCollect
            rawQuote with
        | error message =>
            simp only [fetchQuote, hq]
            exact .fail rfl
        | ok quote =>
            simp only [fetchQuote, hq]
            exact .price (quoteForSats_ok hq)

theorem createLimit_move (material : XpubMaterial) (pricing : Pricing) :
    CreateMove settings bip44 body input db (.priced material pricing) db
      (createLimit body db.invoices input.windows input.now material pricing) := by
  unfold createLimit
  cases hc : checkCustRateLimit db.invoices input.windows (body.custId.getD "") body.sats
      input.now with
  | error failure => exact .fail (checkCustRateLimit_isDuplicate hc)
  | ok u => exact .limit

theorem createAllocate_move (material : XpubMaterial) (pricing : Pricing) :
    CreateMove settings bip44 body input db (.limited material pricing)
      { db with walletState :=
          (createAllocate settings db.walletState input.now material pricing).1 }
      (createAllocate settings db.walletState input.now material pricing).2 := by
  unfold createAllocate allocateReceiveIndex
  cases hrow : db.walletState settings.dashNetwork with
  | none => exact .fail ⟨rfl, hrow⟩
  | some row =>
      dsimp only
      split_ifs with hrange
      · exact .exhausted hrow hrange rfl
      · exact .allocate hrow (not_le.mp hrange)

theorem createBuild_move (material : XpubMaterial) (pricing : Pricing) (index : Nat) :
    CreateMove settings bip44 body input db (.allocated material pricing index) db
      (createBuild settings body bip44 input.now material pricing index) := by
  unfold createBuild
  cases hd : deriveReceive bip44 material.accountXpub settings.dashNetwork index with
  | error message =>
      refine .fail ⟨rfl, ?_⟩
      intro r hr
      rw [hd] at hr
      cases hr
  | ok r => exact .build hd

theorem createInsert_move (doc : InvoiceDoc) :
    CreateMove settings bip44 body input db (.built doc)
      { db with invoices := (createInsert db.invoices input.id doc).1 }
      (createInsert db.invoices input.id doc).2 := by
  unfold createInsert
  cases hints : doc.newInts.all bsonInt64 with
  | false => exact .fail (Or.inl ⟨rfl, hints⟩)
  | true =>
      cases hdup : duplicateKey db.invoices input.id doc with
      | true => exact .fail (Or.inr hdup)
      | false => exact .insert hints hdup

/-- Every step of a request is a move. -/
theorem createStep_move (phase : CreatePhase) :
    CreateMove settings bip44 body input db phase
      (createStep settings bip44 body input db phase).1
      (createStep settings bip44 body input db phase).2 := by
  cases phase with
  | received => exact createLoad_move settings bip44 body input db
  | loaded material => exact createLookup_move settings bip44 body input db material
  | unused material => exact createPrice_move settings bip44 body input db material
  | priced material pricing => exact createLimit_move settings bip44 body input db material pricing
  | limited material pricing =>
      exact createAllocate_move settings bip44 body input db material pricing
  | allocated material pricing index =>
      exact createBuild_move settings bip44 body input db material pricing index
  | built doc => exact createInsert_move settings bip44 body input db doc
  | answered statusCode id doc => exact .stay
  | failed failure => exact .fail rfl

end Moves

/-! ## Insertions -/

theorem duplicateKey_eq_false {invoices : Invoices} {id : ObjectId} {doc : InvoiceDoc}
    (h : duplicateKey invoices id doc = false) :
    invoices.lookup id = none ∧ ∀ id' doc', invoices.lookup id' = some doc' →
      doc'.externalId ≠ doc.externalId ∧ doc'.address ≠ doc.address := by
  have hall : ∀ id' doc', invoices.lookup id' = some doc' →
      id' ≠ id ∧ doc'.externalId ≠ doc.externalId ∧ doc'.address ≠ doc.address := by
    intro id' doc' hlook
    have := List.any_eq_false.mp h (id', doc') (Collection.mem_docs.mpr hlook)
    simp only [Bool.or_eq_true, decide_eq_true_eq, not_or] at this
    exact ⟨this.1.1, this.1.2, this.2⟩
  refine ⟨?_, fun id' doc' hlook => (hall id' doc' hlook).2⟩
  cases hl : invoices.lookup id with
  | none => rfl
  | some d => exact absurd rfl (hall id d hl).1

section

variable {settings : Settings} {bip44 : Bip44} {body : InvoiceCreate} {input : CreateInput}
  {db db' : Database} {phase phase' : CreatePhase}

/-- A request does not change a stored document. -/
theorem CreateMove.lookup (h : CreateMove settings bip44 body input db phase db' phase')
    {id : ObjectId} {doc : InvoiceDoc} (hdoc : db.invoices.lookup id = some doc) :
    db'.invoices.lookup id = some doc := by
  cases h with
  | insert hints hdup =>
      -- the new `_id` is not in use
      have hne : id ≠ input.id := by
        rintro rfl
        rw [(duplicateKey_eq_false hdup).1] at hdoc
        cases hdoc
      rw [AList.lookup_insert_ne hne]
      exact hdoc
  | load | unused | found | price | limit | allocate | exhausted | build | stay | fail =>
      exact hdoc

theorem CreateMove.locked (h : CreateMove settings bip44 body input db phase db' phase') :
    Locked db.walletState db'.walletState := by
  cases h with
  | allocate hrow | exhausted hrow => exact taken_locked hrow _
  | load | unused | found | price | limit | build | insert | stay | fail => exact .refl _

/-- A document that is stored after a move was stored before or has just been inserted. -/
theorem CreateMove.stored (h : CreateMove settings bip44 body input db phase db' phase')
    {id : ObjectId} {doc : InvoiceDoc} (hdoc : db'.invoices.lookup id = some doc) :
    db.invoices.lookup id = some doc ∨
    (phase = .built doc ∧ phase' = .answered 201 id doc ∧ doc.newInts.all bsonInt64 = true ∧
      duplicateKey db.invoices id doc = false) := by
  cases h with
  | @insert built hints hdup =>
      by_cases hid : id = input.id
      · subst hid
        rw [AList.lookup_insert] at hdoc
        cases hdoc
        exact Or.inr ⟨rfl, rfl, hints, hdup⟩
      · rw [AList.lookup_insert_ne hid] at hdoc
        exact Or.inl hdoc
  | load | unused | found | price | limit | allocate | exhausted | build | stay | fail =>
      exact Or.inl hdoc

/-- A request that had built its document has stored it when it answers. -/
theorem CreateMove.inserted {statusCode : Nat} {id : ObjectId} {doc answered : InvoiceDoc}
    (h : CreateMove settings bip44 body input db phase db' (.answered statusCode id answered))
    (hbuilt : phase = .built doc) :
    duplicateKey db.invoices input.id doc = false ∧
      db' = { db with invoices := AList.insert input.id doc db.invoices } := by
  rw [hbuilt] at h
  cases h with
  | insert hints hdup => exact ⟨hdup, rfl⟩

end

/-! ## A request that nothing interrupts -/

theorem createSteps_succ (settings : Settings) (bip44 : Bip44) (body : InvoiceCreate)
    (input : CreateInput) (n : Nat) (s : Database × CreatePhase) :
    createSteps settings bip44 body input (n + 1) s
      = createStep settings bip44 body input (createSteps settings bip44 body input n s).1
          (createSteps settings bip44 body input n s).2 :=
  Function.iterate_succ_apply' _ n s

/-- A request finds everything it needs. -/
structure Served (settings : Settings) (bip44 : Bip44) (body : InvoiceCreate)
    (input : CreateInput) (db : Database) (material : XpubMaterial) (pricing : Pricing)
    (row : WalletRow) (address : String) (derivation : Derivation) : Prop where
  mongo : settings.mongoUri ≠ ""
  key : loadXpubMaterial settings input.file = .ok (some material)
  price : createPrice body input.hive (fetchQuote input.quote) material = .priced material pricing
  limit : checkCustRateLimit db.invoices input.windows (body.custId.getD "") body.sats input.now
    = .ok ()
  found : db.walletState settings.dashNetwork = some row
  inRange : (row.nextReceiveIndex : Int) < settings.dashDescriptorRangeEnd
  derive : deriveReceive bip44 material.accountXpub settings.dashNetwork row.nextReceiveIndex
    = .ok (address, derivation)
  ints : (newInvoice settings body pricing address derivation input.now).newInts.all bsonInt64
    = true
  fresh : duplicateKey db.invoices input.id
    (newInvoice settings body pricing address derivation input.now) = false

/-- The database after a request has taken its index. -/
def Database.afterTake (db : Database) (network : Network) (row : WalletRow) (now : Datetime) :
    Database :=
  { db with walletState := Function.update db.walletState network (some (row.taken now)) }

namespace Served

variable {settings : Settings} {bip44 : Bip44} {body : InvoiceCreate} {input : CreateInput}
  {db : Database} {material : XpubMaterial} {pricing : Pricing} {row : WalletRow}
  {address : String} {derivation : Derivation}

/-- What the request has done after `n` steps. -/
def trace (settings : Settings) (body : InvoiceCreate) (input : CreateInput) (db : Database)
    (material : XpubMaterial) (pricing : Pricing) (row : WalletRow) (address : String)
    (derivation : Derivation) : Nat → Database × CreatePhase
  | 0 => (db, .received)
  | 1 => (db, .loaded material)
  | 2 => (db, .unused material)
  | 3 => (db, .priced material pricing)
  | 4 => (db, .limited material pricing)
  | 5 => (db.afterTake settings.dashNetwork row input.now,
      .allocated material pricing row.nextReceiveIndex)
  | 6 => (db.afterTake settings.dashNetwork row input.now,
      .built (newInvoice settings body pricing address derivation input.now))
  | _ =>
      let doc := newInvoice settings body pricing address derivation input.now
      ({ db.afterTake settings.dashNetwork row input.now with
          invoices := AList.insert input.id doc db.invoices },
        .answered 201 input.id doc)

/-- The request holds its own key material when it goes on to take an index. -/
theorem trace_limited {n : Nat} {material' : XpubMaterial} {pricing' : Pricing}
    (h : (trace settings body input db material pricing row address derivation n).2
      = .limited material' pricing') :
    material' = material ∧
      (trace settings body input db material pricing row address derivation n).1 = db := by
  match n with
  | 4 =>
      cases h
      exact ⟨rfl, rfl⟩
  | 0 | 1 | 2 | 3 | 5 | 6 | n + 7 => cases h

section

variable (h : Served settings bip44 body input db material pricing row address derivation)

include h

theorem lookup : createLookup body db.invoices material = .unused material := by
  have hnone : Collection.findOne db.invoices (fun doc => doc.externalId = body.externalId)
      = none := by
    apply List.find?_eq_none.mpr
    intro e he
    -- an unused external id at the insertion was unused at the lookup
    have hunused : e.2.externalId ≠ body.externalId :=
      ((duplicateKey_eq_false h.fresh).2 e.1 e.2 (Collection.mem_docs.mp he)).1
    simpa using hunused
  rw [createLookup, hnone]

theorem allocate : createAllocate settings db.walletState input.now material pricing
    = (Function.update db.walletState settings.dashNetwork (some (row.taken input.now)),
        .allocated material pricing row.nextReceiveIndex) := by
  rw [createAllocate, allocateReceiveIndex, h.found]
  exact if_neg (not_le.mpr h.inRange)

theorem insert : createInsert db.invoices input.id
      (newInvoice settings body pricing address derivation input.now)
    = (AList.insert input.id (newInvoice settings body pricing address derivation input.now)
          db.invoices,
        .answered 201 input.id
          (newInvoice settings body pricing address derivation input.now)) := by
  rw [createInsert, h.ints, h.fresh]
  rfl

/-- The request takes its steps one by one, and after seven of them its invoice is stored. -/
theorem steps (n : Nat) : createSteps settings bip44 body input n (db, .received)
    = trace settings body input db material pricing row address derivation n := by
  induction n with
  | zero => rfl
  | succ n ih =>
      rw [createSteps_succ, ih]
      match n with
      | 0 =>
          show (db, createLoad settings input.file) = (db, _)
          rw [createLoad, if_neg h.mongo, h.key]
      | 1 => exact congrArg (Prod.mk db) h.lookup
      | 2 => exact congrArg (Prod.mk db) h.price
      | 3 =>
          show (db, createLimit body db.invoices input.windows input.now material pricing) = _
          rw [createLimit, h.limit]
          rfl
      | 4 => exact congrArg (fun r => (({ db with walletState := r.1 } : Database), r.2)) h.allocate
      | 5 =>
          show (_, createBuild settings body bip44 input.now material pricing
            row.nextReceiveIndex) = _
          rw [createBuild, h.derive]
          rfl
      | 6 =>
          exact congrArg (fun r => (({ db.afterTake settings.dashNetwork row input.now with
            invoices := r.1 } : Database), r.2)) h.insert
      -- an answered request stays as it is
      | n + 7 => rfl

end

end Served

/-! ## A request for one sat

At a price of one bitcoin for a Dash, with the default fees, it is quoted at 351 duffs. -/

def dustSettings : Settings :=
  { mongoUri := "mongodb://db", dashXpub := "tpub", dashMasterFingerprint := "aabbccdd" }

def dustMaterial : XpubMaterial := ⟨.regtest, "tpub", "aabbccdd", by decide⟩

def dustKeys : Bip44 := fun _ _ _ index => .ok ("y" ++ toString index)

def dustBody : InvoiceCreate := { sampleBody with sats := 1, one_le_sats := by decide }

/-- The external id of a second request. -/
theorem length_second_order : 1 ≤ "order-2".length ∧ "order-2".length ≤ 128 := by decide

/-- What the price source answers. -/
def dustQuote : Quote :=
  { source := "coingecko", fetchedAt := "1970-01-01T00:00:00Z", btcUsd := 50, dashUsd := 50
    dashBtc := ((1 : Int) : Decimal) * (10 : ℚ) ^ (0 : Int), satsPerDash := 100000000
    duffsQuoted := 1, dashQuoted := "0.00000001" }

/-- What the request is priced at. -/
def dustPricing : Pricing where
  fees :=
    { convFeeSats := 50, routingFeeSats := 300, totalFeeSats := 350, satsCollect := 351
      convFeePercent := 29 / 1000, convFeeBaseSats := 50 }
  quote := { dustQuote with duffsQuoted := 351, dashQuoted := dashAmountString 351 }

def dustInput : CreateInput where
  file := .missing
  hive := DEFAULT_CONFIG
  quote := .ok dustQuote
  windows := DEFAULT_WINDOWS
  now := 0
  id := 1

theorem calculateInvoiceFees_dust :
    calculateInvoiceFees 1 DEFAULT_CONFIG = dustPricing.fees := by
  have hmul : Decimal.mul prec (29 / 1000 : Decimal) ((1 : Int) : Decimal) = 29 / 1000 := by
    have h : Decimal.roundSig 28 (((29 : Int) : ℚ) * (10 : ℚ) ^ (-3 : Int)) = _ :=
      Decimal.roundSig_eq_self (by decide)
    have heq : ((29 : Int) : ℚ) * (10 : ℚ) ^ (-3 : Int) = 29 / 1000 := by norm_num
    rw [heq] at h
    rw [Decimal.mul, prec, Int.cast_one, mul_one, h]
  have hadd : Decimal.add prec (29 / 1000 : Decimal) ((50 : Int) : Decimal) = 50029 / 1000 := by
    have h : Decimal.roundSig 28 (((50029 : Int) : ℚ) * (10 : ℚ) ^ (-3 : Int)) = _ :=
      Decimal.roundSig_eq_self (by decide)
    have heq : ((50029 : Int) : ℚ) * (10 : ℚ) ^ (-3 : Int) = 50029 / 1000 := by norm_num
    have hsum : (29 / 1000 : ℚ) + ((50 : Int) : ℚ) = 50029 / 1000 := by norm_num
    rw [heq] at h
    rw [Decimal.add, prec, hsum, h]
  have hround : Decimal.roundHalfUp (50029 / 1000 : Decimal) = 50 := by
    have hfloor : ⌊(50029 / 1000 : ℚ) + 1 / 2⌋ = 50 := by
      rw [Int.floor_eq_iff]
      norm_num
    rw [Decimal.roundHalfUp, if_pos (by norm_num), hfloor]
  have hconv : Decimal.roundHalfUp (Decimal.add prec (Decimal.mul prec
      DEFAULT_CONFIG.convFeePercent ((1 : Int) : Decimal)) (DEFAULT_CONFIG.convFeeSats : Decimal))
      = 50 := by
    show Decimal.roundHalfUp (Decimal.add prec (Decimal.mul prec (29 / 1000 : Decimal)
      ((1 : Int) : Decimal)) ((50 : Int) : Decimal)) = 50
    rw [hmul, hadd, hround]
  simp only [calculateInvoiceFees, hconv]
  rfl

/-- A request for one sat at any price. -/
theorem createPrice_oneSat {body : InvoiceCreate} (hsats : body.sats = 1) {quote : Quote}
    {duffs : Int} (hduffs : duffsFromSats 351 quote.dashBtc = .ok duffs) (material : XpubMaterial) :
    createPrice body DEFAULT_CONFIG (fetchQuote (.ok quote)) material
      = .priced material { dustPricing with
          quote := { quote with duffsQuoted := duffs, dashQuoted := dashAmountString duffs } } := by
  have hquote : quoteForSats 351 quote
      = .ok { quote with duffsQuoted := duffs, dashQuoted := dashAmountString duffs } := by
    rw [quoteForSats, hduffs]
    rfl
  have hfees : calculateInvoiceFees body.sats DEFAULT_CONFIG = dustPricing.fees := by
    rw [hsats]
    exact calculateInvoiceFees_dust
  unfold createPrice
  rw [hsats, if_neg (by decide), if_neg (by decide), ← hsats]
  simp only [hfees, fetchQuote]
  rw [show dustPricing.fees.satsCollect = 351 from rfl, hquote]

theorem createPrice_dust {body : InvoiceCreate} (hsats : body.sats = 1) (material : XpubMaterial) :
    createPrice body DEFAULT_CONFIG (fetchQuote (.ok dustQuote)) material
      = .priced material dustPricing := by
  have hduffs : duffsFromSats 351 dustQuote.dashBtc = .ok 351 :=
    duffsFromSats_exact (by decide) (by decide) (by decide) (by decide) (by decide) (by norm_num)
  exact createPrice_oneSat hsats hduffs material

end V4vappDash
