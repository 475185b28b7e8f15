import V4vappDash.System.Service

set_option autoImplicit false

/-! # The locked key

The first process with key material locks it in the wallet row of its network, and a process
with other material does not get past its start. But a request loads the key file again and
does not look at the row's key. The addresses of the stored invoices belong to the locked key
as long as every request that takes an index has loaded that key: `address_of_locked_key`.
-/

namespace V4vappDash

open Machine

/-- The address of a document is the one at its index under the key its network is locked to. -/
def DerivedFrom (bip44 : Bip44) (rows : Network → Option WalletRow) (doc : InvoiceDoc) : Prop :=
  ∃ row, rows doc.network = some row ∧
    deriveAddress bip44 row.accountXpub doc.network doc.derivation.index 0 = .ok doc.address

/-- All stored addresses belong to the locked keys. -/
def AddressesLocked (bip44 : Bip44) (db : Database) : Prop :=
  ∀ id doc, db.invoices.lookup id = some doc → DerivedFrom bip44 db.walletState doc

/-- A request that takes an index inside its range has loaded the key of the row it takes the
index from. -/
def KeyMatches (s : Service) : ServiceAction → Prop
  | .create i _ => ∀ r material pricing row, s.requests[i]? = some r →
      r.phase = .limited material pricing →
      s.db.walletState r.settings.dashNetwork = some row →
      (row.nextReceiveIndex : Int) < r.settings.dashDescriptorRangeEnd →
      material.accountXpub = row.accountXpub
  | _ => True

/-! ## Addresses -/

/-- What a request in flight has to do with the locked key. -/
def RequestKeyed (bip44 : Bip44) (rows : Network → Option WalletRow) (r : Request) : Prop :=
  match r.phase with
  | .allocated material _ _ => ∃ row, rows r.settings.dashNetwork = some row ∧
      material.accountXpub = row.accountXpub
  | .built doc => DerivedFrom bip44 rows doc
  | _ => True

structure KeyInv (bip44 : Bip44) (s : Service) : Prop where
  stored : AddressesLocked bip44 s.db
  requests : ∀ (i : Nat) r, s.requests[i]? = some r → RequestKeyed bip44 s.db.walletState r

section Addresses

variable {bip44 : Bip44} {rows rows' : Network → Option WalletRow}

theorem DerivedFrom.locked {doc : InvoiceDoc} (h : DerivedFrom bip44 rows doc)
    (hlocked : Locked rows rows') : DerivedFrom bip44 rows' doc := by
  obtain ⟨row, hrow, haddress⟩ := h
  obtain ⟨row', hrow', hmaterial⟩ := hlocked _ row hrow
  have hxpub : row'.accountXpub = row.accountXpub := congrArg Prod.fst hmaterial
  exact ⟨row', hrow', by rw [hxpub]; exact haddress⟩

theorem RequestKeyed.locked {r : Request} (h : RequestKeyed bip44 rows r)
    (hlocked : Locked rows rows') : RequestKeyed bip44 rows' r := by
  unfold RequestKeyed at h ⊢
  cases hphase : r.phase with
  | allocated material pricing index =>
      rw [hphase] at h
      obtain ⟨row, hrow, hkey⟩ := h
      obtain ⟨row', hrow', hmaterial⟩ := hlocked _ row hrow
      have hxpub : material.accountXpub = row'.accountXpub := by
        calc material.accountXpub
            = row.accountXpub := hkey
          _ = row'.accountXpub := (congrArg Prod.fst hmaterial).symm
      exact ⟨row', hrow', hxpub⟩
  | built doc =>
      rw [hphase] at h
      exact DerivedFrom.locked h hlocked
  | received | loaded | unused | priced | limited | answered | failed => trivial

/-- A request that moves stays with the locked key. -/
theorem RequestKeyed.next {s : Service} {r : Request} {input : CreateInput} {db : Database}
    {phase : CreatePhase} (h : RequestKeyed bip44 s.db.walletState r)
    (hkey : ∀ material pricing row, r.phase = .limited material pricing →
      s.db.walletState r.settings.dashNetwork = some row →
      (row.nextReceiveIndex : Int) < r.settings.dashDescriptorRangeEnd →
      material.accountXpub = row.accountXpub)
    (hmove : CreateMove r.settings bip44 r.body input s.db r.phase db phase) :
    RequestKeyed bip44 db.walletState (r.next phase) := by
  obtain ⟨process, settings, body, passed, phase₀⟩ := r
  cases hmove with
  | @allocate material pricing row hrow hlt =>
      exact ⟨row.taken input.now, Function.update_self _ _ _,
        hkey material pricing row rfl hrow hlt⟩
  | @build material pricing index address derivation hderive =>
      obtain ⟨row, hrow, hxpub⟩ := h
      obtain ⟨haddress, hindex⟩ := deriveReceive_ok hderive
      refine ⟨row, hrow, ?_⟩
      show deriveAddress bip44 row.accountXpub settings.dashNetwork derivation.index 0
        = .ok address
      -- the address is derived with the loaded key, which is the locked one
      rw [hindex, ← hxpub]
      exact haddress
  | load | unused | found | price | limit | exhausted | insert | stay | fail => trivial

/-- An invoice that was not there before is the one the request has built. -/
theorem KeyInv.inserted {s : Service} {i : Nat} {r : Request} {input : CreateInput} {db : Database}
    {phase : CreatePhase} (h : KeyInv bip44 s) (hr : s.requests[i]? = some r)
    (hmove : CreateMove r.settings bip44 r.body input s.db r.phase db phase) (id : ObjectId)
    (doc : InvoiceDoc) (hdoc : db.invoices.lookup id = some doc) :
    DerivedFrom bip44 db.walletState doc := by
  rcases hmove.stored hdoc with hold | ⟨hbuilt, -, -, -⟩
  · exact (h.stored id doc hold).locked hmove.locked
  · have hkeyed := h.requests i r hr
    unfold RequestKeyed at hkeyed
    rw [hbuilt] at hkeyed
    exact DerivedFrom.locked hkeyed hmove.locked

/-- **The step lemma for addresses.** -/
theorem KeyInv.act {s : Service} {a : ServiceAction} (h : KeyInv bip44 s)
    (hok : KeyMatches s a) : KeyInv bip44 (s.act bip44 a) := by
  have hmove := s.act_move bip44 a
  have hlocked := hmove.locked
  generalize s.act bip44 a = s' at hmove hlocked ⊢
  cases hmove with
  | idle => exact h
  | start => exact ⟨h.stored, h.requests⟩
  | boot hp hboot =>
      refine ⟨?_, fun i r hr => (h.requests i r hr).locked hlocked⟩
      intro id doc hdoc
      have hold := hboot.invoices ▸ hdoc
      exact (h.stored id doc hold).locked hlocked
  | post hp =>
      refine ⟨h.stored, ?_⟩
      intro i r hr
      rcases getElem?_concat_cases hr with ⟨-, rfl⟩ | hr
      · trivial
      · exact h.requests i r hr
  | @create i input r db phase hr hcreate =>
      refine ⟨h.inserted hr hcreate, ?_⟩
      intro j r' hr'
      rcases getElem?_set_cases hr' with ⟨-, rfl⟩ | ⟨-, hr'⟩
      · exact (h.requests i r hr).next (fun material pricing row => hok r material pricing row hr)
          hcreate
      · exact (h.requests j r' hr').locked hlocked
  | lose hr hphase hcreate =>
      refine ⟨h.inserted hr hcreate, ?_⟩
      intro j r' hr'
      rcases getElem?_set_cases hr' with ⟨-, rfl⟩ | ⟨-, hr'⟩
      · trivial
      · exact (h.requests j r' hr').locked hlocked
  | @raise i message r hr hfin =>
      refine ⟨h.stored, ?_⟩
      intro j r' hr'
      rcases getElem?_set_cases hr' with ⟨-, rfl⟩ | ⟨-, hr'⟩
      · trivial
      · exact h.requests j r' hr'

end Addresses

/-! ## Processes -/

/-- The row of a network is locked to this key material. -/
def LockedTo (rows : Network → Option WalletRow) (network : Network) (material : XpubMaterial) :
    Prop :=
  ∃ row, rows network = some row ∧ row.Matches material.accountXpub material.masterFingerprint

/-- What a process in its start has to do with the locked key. -/
def ProcessKeyed (rows : Network → Option WalletRow) (p : Process) : Prop :=
  match p.phase with
  -- a row that is about to be inserted
  | .absent material row => row.Matches material.accountXpub material.masterFingerprint
  | .ensured (some material) | .serving (some material) _ =>
      p.settings.mongoUri ≠ "" → LockedTo rows p.settings.dashNetwork material
  | _ => True

theorem LockedTo.locked {rows rows' : Network → Option WalletRow} {network : Network}
    {material : XpubMaterial} (h : LockedTo rows network material)
    (hlocked : Locked rows rows') : LockedTo rows' network material := by
  obtain ⟨row, hrow, hm⟩ := h
  obtain ⟨row', hrow', hmaterial⟩ := hlocked network row hrow
  exact ⟨row', hrow', hm.of_material hmaterial⟩

theorem ProcessKeyed.locked {rows rows' : Network → Option WalletRow} {p : Process}
    (h : ProcessKeyed rows p) (hlocked : Locked rows rows') : ProcessKeyed rows' p := by
  obtain ⟨settings, phase⟩ := p
  cases phase with
  | ensured material =>
      cases material with
      | none => trivial
      | some m => exact fun huri => (h huri).locked hlocked
  | serving material bootstrap =>
      cases material with
      | none => trivial
      | some m => exact fun huri => (h huri).locked hlocked
  | absent material row => exact h
  | starting | loaded | failed => trivial

theorem ProcessKeyed.next {p : Process} {input : BootInput} {db db' : Database}
    {node node' : WatchNode} {phase : BootPhase} (h : ProcessKeyed db.walletState p)
    (hmove : BootMove p.settings input db node p.phase db' node' phase) :
    ProcessKeyed db'.walletState { p with phase } := by
  obtain ⟨settings, phase₀⟩ := p
  cases hmove with
  | @skip material hskip =>
      cases material with
      | none => trivial
      | some m =>
          intro huri
          rcases hskip with hnone | hempty
          · cases hnone
          · exact absurd hempty huri
  | accept hrow hm => exact fun _ => ⟨_, hrow, hm⟩
  | absent hrow => exact newRow_matches _ _ _ _ _
  | insert hrow => exact fun _ => ⟨_, Function.update_self _ _ _, h⟩
  | @noBootstrap material =>
      cases material with
      | none => trivial
      | some m => exact h
  | bootstrap heq => exact h
  | stay => exact h
  | load | raised | fail => trivial

theorem processKeyed_act {bip44 : Bip44} {s : Service}
    (h : ∀ (i : Nat) p, s.processes[i]? = some p → ProcessKeyed s.db.walletState p)
    (a : ServiceAction) (i : Nat) (p : Process)
    (hp : (s.act bip44 a).processes[i]? = some p) :
    ProcessKeyed (s.act bip44 a).db.walletState p := by
  have hmove := s.act_move bip44 a
  have hlocked := hmove.locked
  generalize s.act bip44 a = s' at hmove hlocked hp ⊢
  cases hmove with
  | idle | post | raise => exact h i p hp
  | start =>
      rcases getElem?_concat_cases hp with ⟨-, rfl⟩ | hp
      · trivial
      · exact h i p hp
  | boot hq hboot =>
      rcases getElem?_set_cases hp with ⟨-, rfl⟩ | ⟨-, hp⟩
      · exact (h _ _ hq).next hboot
      · exact (h i p hp).locked hlocked
  | create hr hcreate | lose hr _ hcreate => exact (h i p hp).locked hlocked

/-- A process with other material than the row's fails. -/
theorem act_boot_mismatch {bip44 : Bip44} {s : Service} {i : Nat} {p : Process}
    {material : XpubMaterial} {row : WalletRow} (hp : s.processes[i]? = some p)
    (hphase : p.phase = .loaded (some material)) (huri : p.settings.mongoUri ≠ "")
    (hrow : s.db.walletState p.settings.dashNetwork = some row)
    (hm : ¬ row.Matches material.accountXpub material.masterFingerprint) (input : BootInput) :
    ∃ message, (s.act bip44 (.boot i input)).processes[i]?
      = some { p with phase := .failed message } := by
  have hmove : BootMove p.settings input s.db s.node p.phase
      (bootStep p.settings input s.db s.node p.phase).1
      (bootStep p.settings input s.db s.node p.phase).2.1
      (bootStep p.settings input s.db s.node p.phase).2.2 := bootStep_move _ _ _ _ _
  have hact : (s.act bip44 (.boot i input)).processes[i]?
      = some { p with phase := (bootStep p.settings input s.db s.node p.phase).2.2 } := by
    unfold Service.act
    simp only [hp]
    exact List.getElem?_set_self (lt_of_getElem? hp)
  rw [hact]
  generalize bootStep p.settings input s.db s.node p.phase = result at hmove
  rw [hphase] at hmove
  obtain ⟨db', node', phase'⟩ := result
  -- what is left of the moves from `loaded`
  cases hmove with
  | skip hskip =>
      rcases hskip with hnone | hempty
      · cases hnone
      · exact absurd hempty huri
  | accept hrow' hm' =>
      rw [hrow] at hrow'
      cases hrow'
      exact absurd hm' hm
  | absent hnone =>
      rw [hrow] at hnone
      cases hnone
  | fail => exact ⟨_, rfl⟩

/-! ## Runs -/

/-- What a run does to the locks: a lock never changes, a process with key material that gets
past its start has the key of the lock, and one with another key fails. -/
structure LockKept (bip44 : Bip44) (s₀ : Service) (actions : List ServiceAction) : Prop where
  locked : ∀ first second, actions = first ++ second →
    Locked (run (Service.act bip44) s₀ first).db.walletState
      (run (Service.act bip44) s₀ actions).db.walletState
  matched : ∀ (i : Nat) p material,
    (run (Service.act bip44) s₀ actions).processes[i]? = some p →
    p.settings.mongoUri ≠ "" →
    p.phase = .ensured (some material) ∨ (∃ result, p.phase = .serving (some material) result) →
    LockedTo (run (Service.act bip44) s₀ actions).db.walletState p.settings.dashNetwork material
  refused : ∀ (i : Nat) p material row input,
    (run (Service.act bip44) s₀ actions).processes[i]? = some p →
    p.phase = .loaded (some material) → p.settings.mongoUri ≠ "" →
    (run (Service.act bip44) s₀ actions).db.walletState p.settings.dashNetwork = some row →
    ¬ row.Matches material.accountXpub material.masterFingerprint →
    ∃ message, ((run (Service.act bip44) s₀ actions).act bip44 (.boot i input)).processes[i]?
      = some { p with phase := .failed message }

/-- **The locked key.** In every run of starts and requests, with any key material and any
contents of the key file, the locks are kept; and if every request that takes an index has
loaded the locked key, every stored address is derived from it. -/
theorem address_of_locked_key (bip44 : Bip44) (s₀ : Service) (hprocesses : s₀.processes = [])
    (hrequests : s₀.requests = []) (hstored : AddressesLocked bip44 s₀.db)
    (actions : List ServiceAction) :
    LockKept bip44 s₀ actions ∧
      (Along (Service.act bip44) KeyMatches s₀ actions →
        AddressesLocked bip44 (run (Service.act bip44) s₀ actions).db) := by
  have hkeyed : ∀ (i : Nat) p, (run (Service.act bip44) s₀ actions).processes[i]? = some p →
      ProcessKeyed (run (Service.act bip44) s₀ actions).db.walletState p := by
    refine run_invariant (P := fun s : Service => ∀ (i : Nat) p, s.processes[i]? = some p →
      ProcessKeyed s.db.walletState p) (fun s a hs => processKeyed_act hs a) ?_ actions
    intro i p hp
    rw [hprocesses] at hp
    cases hp
  refine ⟨⟨?_, ?_, ?_⟩, ?_⟩
  -- a lock is kept by every action after `first`
  · intro first second heq
    rw [heq, run_append]
    exact run_guarantee (G := fun s t : Service => Locked s.db.walletState t.db.walletState)
      (fun s => .refl _) (fun s t u hst htu => hst.trans htu)
      (fun s a => (s.act_move bip44 a).locked) _ second
  · intro i p material hp huri hphase
    have h := hkeyed i p hp
    unfold ProcessKeyed at h
    rcases hphase with hphase | ⟨result, hphase⟩ <;> rw [hphase] at h <;> exact h huri
  · intro i p material row input hp hphase huri hrow hm
    exact act_boot_mismatch hp hphase huri hrow hm input
  · intro hok
    have hinv : KeyInv bip44 s₀ := by
      refine ⟨hstored, ?_⟩
      intro i r hr
      rw [hrequests] at hr
      cases hr
    exact (hok.invariant (fun s a hs ha => KeyInv.act hs ha) hinv).stored

/-! ## A key file that is replaced -/

def fileSettings : Settings := { mongoUri := "mongodb://db", dashXpubFile := "/xpub.json" }

/-- An address that shows the key it comes from. -/
def fileKeys : Bip44 := fun accountXpub _ _ index => .ok (accountXpub ++ "/" ++ toString index)

def fileMaterial (accountXpub : String) : XpubMaterial := { dustMaterial with accountXpub }

def fileBoot : BootInput where
  file := .json .regtest "tpubA" "aabbccdd"
  now := 0
  rpc := { getdescriptorinfo := fun _ => .ok {} }

def fileInput (accountXpub : String) : CreateInput :=
  { dustInput with file := .json .regtest accountXpub "aabbccdd" }

def fileRow : WalletRow := newRow .regtest "tpubA" "aabbccdd" 100000 0

/-- A process locks the key `tpubA` and serves a request. -/
def fileStart : List ServiceAction :=
  [.start fileSettings, .boot 0 fileBoot, .boot 0 fileBoot, .boot 0 fileBoot, .boot 0 fileBoot,
    .post 0 dustBody]

def fileRequest : Request := { process := 0, settings := fileSettings, body := dustBody }

def fileService : Service where
  db := ⟨∅, Function.update (fun _ => none) .regtest (some fileRow)⟩
  node := ⟨[], fun _ => []⟩
  processes := [⟨fileSettings, .serving (some (fileMaterial "tpubA")) none⟩]
  requests := [fileRequest]

theorem run_fileStart : run (Service.act fileKeys) Service.empty fileStart = fileService := rfl

theorem served_file (accountXpub : String) :
    Served fileSettings fileKeys dustBody (fileInput accountXpub) fileService.db
      (fileMaterial accountXpub) dustPricing fileRow (accountXpub ++ "/" ++ "0")
      { change := 0, index := 0, path := "m/44'/1'/0'/0/0" } where
  mongo := by decide
  key := rfl
  price := createPrice_dust rfl _
  limit := rfl
  found := rfl
  inRange := by decide
  derive := rfl
  ints := rfl
  fresh := rfl

/-- With the locked key in the file, the stored address is derived from it. -/
theorem address_of_locked_key_file :
    AddressesLocked fileKeys (run (Service.act fileKeys) Service.empty
      (fileStart ++ List.replicate 7 (.create 0 (fileInput "tpubA")))).db := by
  have hok : Along (Service.act fileKeys) KeyMatches Service.empty
      (fileStart ++ List.replicate 7 (.create 0 (fileInput "tpubA"))) := by
    refine along_append.mpr ⟨⟨trivial, trivial, trivial, trivial, trivial, trivial, trivial⟩, ?_⟩
    rw [run_fileStart]
    apply along_replicate
    intro k _
    obtain ⟨passed, hrun⟩ := Served.run (i := 0) (r := fileRequest) (served_file "tpubA") rfl rfl k
    rw [hrun]
    intro r material pricing row hr hphase hrow _
    cases hr
    obtain ⟨rfl, hdb⟩ := Served.trace_limited hphase
    have hrow : (Served.trace _ _ _ _ _ _ _ _ _ k).1.walletState .regtest = some row := hrow
    rw [hdb] at hrow
    cases hrow
    rfl
  have hempty : AddressesLocked fileKeys Service.empty.db := by
    intro id doc hdoc
    cases hdoc
  exact (address_of_locked_key fileKeys Service.empty rfl rfl hempty _).2 hok

/-- With another key in the file, it is not. -/
theorem replaced_key_file : ¬ AddressesLocked fileKeys (run (Service.act fileKeys) Service.empty
    (fileStart ++ List.replicate 7 (.create 0 (fileInput "tpubB")))).db := by
  intro h
  obtain ⟨passed, hrun⟩ := Served.run (i := 0) (r := fileRequest) (served_file "tpubB") rfl rfl 7
  rw [run_append, run_fileStart, hrun] at h
  obtain ⟨row, hrow, haddress⟩ := h 1 _ rfl
  cases hrow
  exact absurd haddress (by decide)

/-- The invoice of the request. -/
def fileInvoice : InvoiceDoc :=
  newInvoice fileSettings dustBody dustPricing ("tpubA" ++ "/" ++ "0")
    { change := 0, index := 0, path := "m/44'/1'/0'/0/0" } dustInput.now

theorem lookup_fileServed : (run (Service.act fileKeys) fileService
    (List.replicate 7 (.create 0 (fileInput "tpubA")))).db.invoices.lookup 1
      = some fileInvoice := by
  obtain ⟨passed, hrun⟩ := Served.run (i := 0) (r := fileRequest) (served_file "tpubA") rfl rfl 7
  rw [hrun]
  rfl

/-- The process is started, and serves the request. -/
def fileActions : List ServiceAction :=
  fileStart ++ List.replicate 7 (.create 0 (fileInput "tpubA"))

theorem lookup_fileActions :
    (run (Service.act fileKeys) Service.empty fileActions).db.invoices.lookup 1
      = some fileInvoice := by
  rw [fileActions, run_append, run_fileStart]
  exact lookup_fileServed

end V4vappDash
