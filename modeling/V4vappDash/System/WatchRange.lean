import V4vappDash.System.Service

set_option autoImplicit false

/-! # The watched range

An index is handed out if it is below the current `dash_descriptor_range_end`; it is watched if
it is inside a range that some boot has imported. A boot compares descriptors without their
range, so it does not import when only the range has grown, and an import for a smaller range
does not reach the invoices stored under a larger one. What a boot has to find so that every
answer of its process is watched is `RangeCovers`: `answers_watched`.
-/

namespace V4vappDash

open Machine

/-- Processes follow each other: only the one started last acts. -/
def LastProcess (s : Service) : ServiceAction → Prop
  | .boot i _ => i + 1 = s.processes.length
  | .post i _ => i + 1 = s.processes.length
  | .create i _ | .lose i _ _ =>
      ∀ r, s.requests[i]? = some r → r.process + 1 = s.processes.length
  | .start _ => True
  | .raise _ _ => True

/-- The stored indexes are inside the ranges that are imported or about to be imported; and if
nothing is about to be imported, so are the indexes that can still be handed out. -/
structure RangeCovers (s : Service) (settings : Settings) (rpc : BootRpc)
    (recvDesc changeDesc : String) : Prop where
  stored : ∀ id doc, s.db.invoices.lookup id = some doc →
    s.node.Watches settings.dashRpcWallet recvDesc doc.derivation.index ∨
    needImport recvDesc changeDesc (existingDescs settings.dashRpcWallet rpc s.node) = true ∧
      0 ≤ doc.derivation.index ∧ doc.derivation.index ≤ settings.dashDescriptorRangeEnd
  fresh : needImport recvDesc changeDesc (existingDescs settings.dashRpcWallet rpc s.node)
      = false →
    ∀ row, s.db.walletState settings.dashNetwork = some row → ∀ index : Nat,
      row.nextReceiveIndex ≤ index → (index : Int) < settings.dashDescriptorRangeEnd →
      s.node.Watches settings.dashRpcWallet recvDesc index

/-- A bootstrap that is about to return status `ok` finds what it needs. -/
def BootCovered (s : Service) : ServiceAction → Prop
  | .boot i input => ∀ p material watch recvDesc changeDesc, s.processes[i]? = some p →
      p.phase = .ensured (some material) →
      (bootstrapWatchWallet p.settings.dashRpcWallet input.rpc s.node p.settings.dashNetwork
        material.accountXpub material.masterFingerprint
        p.settings.dashDescriptorRangeEnd).2 = .ok (.ok watch) →
      watchDescriptors input.rpc p.settings.dashNetwork material.accountXpub
        material.masterFingerprint = .ok (recvDesc, changeDesc) →
      RangeCovers s p.settings input.rpc recvDesc changeDesc
  | _ => True

/-- Every invoice that a process with status `ok` has answered with is at a watched index. -/
def AnswersWatched (s : Service) : Prop :=
  ∀ (i : Nat) r statusCode id doc, s.requests[i]? = some r →
    r.phase = .answered statusCode id doc →
    ∀ p material watch, s.processes[r.process]? = some p →
      p.phase = .serving material (some (.ok watch)) →
      s.node.Watches watch.wallet watch.receiveDesc doc.derivation.index

/-! ## The invariant -/

/-- The index a request holds is watched. -/
def PhaseWatched (node : WatchNode) (watch : WatchWallet) : CreatePhase → Prop
  | .allocated _ _ index => node.Watches watch.wallet watch.receiveDesc index
  | .built doc => node.Watches watch.wallet watch.receiveDesc doc.derivation.index
  | .answered _ _ doc => node.Watches watch.wallet watch.receiveDesc doc.derivation.index
  | _ => True

def RequestWatched (s : Service) (r : Request) : Prop :=
  ∃ material bootstrap, s.processes[r.process]? = some ⟨r.settings, .serving material bootstrap⟩ ∧
    ∀ watch, bootstrap = some (.ok watch) → PhaseWatched s.node watch r.phase

/-- What a process can answer with, now or later, is watched. -/
structure Covered (db : Database) (node : WatchNode) (settings : Settings)
    (watch : WatchWallet) : Prop where
  stored : ∀ id doc, db.invoices.lookup id = some doc →
    node.Watches watch.wallet watch.receiveDesc doc.derivation.index
  fresh : ∀ row, db.walletState settings.dashNetwork = some row → ∀ index : Nat,
    row.nextReceiveIndex ≤ index → (index : Int) < settings.dashDescriptorRangeEnd →
    node.Watches watch.wallet watch.receiveDesc index

structure WatchInv (s : Service) : Prop where
  last : ∀ (i : Nat) settings material watch, i + 1 = s.processes.length →
    s.processes[i]? = some ⟨settings, .serving material (some (.ok watch))⟩ →
    Covered s.db s.node settings watch
  requests : ∀ (i : Nat) r, s.requests[i]? = some r → RequestWatched s r

theorem PhaseWatched.mono {node node' : WatchNode} {watch : WatchWallet} {phase : CreatePhase}
    (h : PhaseWatched node watch phase) (hgrows : node.Grows node') :
    PhaseWatched node' watch phase := by
  cases phase with
  | allocated | built | answered => exact WatchNode.Watches.mono h hgrows
  | received | loaded | unused | priced | limited | failed => trivial

/-! ## A bootstrap -/

/-- A bootstrap that finds what it needs leaves everything covered. -/
theorem RangeCovers.covered {s : Service} {settings : Settings} {rpc : BootRpc}
    {material : XpubMaterial} {node' : WatchNode} {watch : WatchWallet}
    (hcovers : ∀ recvDesc changeDesc, watchDescriptors rpc settings.dashNetwork
      material.accountXpub material.masterFingerprint = .ok (recvDesc, changeDesc) →
      RangeCovers s settings rpc recvDesc changeDesc)
    (h : bootstrapWatchWallet settings.dashRpcWallet rpc s.node settings.dashNetwork
      material.accountXpub material.masterFingerprint settings.dashDescriptorRangeEnd
      = (node', .ok (.ok watch))) :
    Covered s.db node' settings watch := by
  have hgrows := bootstrap_grows settings.dashRpcWallet rpc s.node settings.dashNetwork
    material.accountXpub material.masterFingerprint settings.dashDescriptorRangeEnd
  obtain ⟨hwallet, hdescs, himported, himport⟩ := bootstrap_ok (congrArg Prod.snd h)
  rw [h] at hgrows himport
  have hc := hcovers _ _ hdescs
  rw [himported] at himport
  -- an index up to the end of the range is watched after an import
  have hrange : needImport watch.receiveDesc watch.changeDesc
      (existingDescs settings.dashRpcWallet rpc s.node) = true → ∀ index : Int, 0 ≤ index →
      index ≤ settings.dashDescriptorRangeEnd →
      node'.Watches settings.dashRpcWallet watch.receiveDesc index :=
    fun hneed index hpos hle => ⟨_, himport hneed, rfl, hpos, hle⟩
  constructor
  · intro id doc hdoc
    rw [hwallet]
    rcases hc.stored id doc hdoc with hwatched | ⟨hneed, hpos, hle⟩
    · exact hwatched.mono hgrows
    · exact hrange hneed _ hpos hle
  · intro row hrow index hnext hlt
    rw [hwallet]
    -- an index of this row is watched by the import, or was watched before
    cases hneed : needImport watch.receiveDesc watch.changeDesc
        (existingDescs settings.dashRpcWallet rpc s.node) with
    | true => exact hrange hneed index (by omega) (by omega)
    | false => exact (hc.fresh hneed row hrow index hnext hlt).mono hgrows

/-- A process that serves, after a bootstrap or before, is covered. -/
theorem BootMove.covered {s : Service} {settings : Settings} {input : BootInput} {db : Database}
    {node : WatchNode} {phase : BootPhase} {material : Option XpubMaterial} {watch : WatchWallet}
    (h : BootMove settings input s.db s.node phase db node
      (.serving material (some (.ok watch))))
    (hserving : phase = .serving material (some (.ok watch)) →
      Covered s.db s.node settings watch)
    (hok : ∀ m recvDesc changeDesc, phase = .ensured (some m) →
      (bootstrapWatchWallet settings.dashRpcWallet input.rpc s.node settings.dashNetwork
        m.accountXpub m.masterFingerprint settings.dashDescriptorRangeEnd).2 = .ok (.ok watch) →
      watchDescriptors input.rpc settings.dashNetwork m.accountXpub m.masterFingerprint
        = .ok (recvDesc, changeDesc) →
      RangeCovers s settings input.rpc recvDesc changeDesc) : Covered db node settings watch := by
  -- only these two moves lead to a process that serves
  cases h with
  | @bootstrap m node' result heq =>
      have hstatus := congrArg Prod.snd heq
      exact RangeCovers.covered (fun recvDesc changeDesc => hok m recvDesc changeDesc rfl hstatus)
        heq
  | stay => exact hserving rfl

/-! ## A request -/

section Create

variable {bip44 : Bip44} {settings : Settings} {body : InvoiceCreate} {input : CreateInput}
  {db db' : Database} {node : WatchNode} {watch : WatchWallet} {phase phase' : CreatePhase}

/-- A request of a covered process holds a watched index. -/
theorem Covered.phaseWatched (hc : Covered db node settings watch)
    (hphase : PhaseWatched node watch phase)
    (h : CreateMove settings bip44 body input db phase db' phase') :
    PhaseWatched node watch phase' := by
  cases h with
  | found hdoc => exact hc.stored _ _ hdoc
  | allocate hrow hlt => exact hc.fresh _ hrow _ le_rfl hlt
  | @build material pricing index address derivation hderive =>
      show node.Watches watch.wallet watch.receiveDesc derivation.index
      rw [(deriveReceive_ok hderive).2]
      exact hphase
  | insert => exact hphase
  | stay => exact hphase
  | load | unused | price | limit | exhausted | fail => trivial

/-- A request leaves its process covered: the row only moves on. -/
theorem Covered.create (hc : Covered db node settings watch)
    (hphase : PhaseWatched node watch phase)
    (h : CreateMove settings bip44 body input db phase db' phase') :
    Covered db' node settings watch := by
  constructor
  · intro id doc hdoc
    rcases h.stored hdoc with hold | ⟨hbuilt, -, -, -⟩
    · exact hc.stored id doc hold
    · rw [hbuilt] at hphase
      exact hphase
  · intro row hrow index hnext hlt
    -- a row whose index has been taken has no smaller next index
    have htaken : ∀ row₀, db.walletState settings.dashNetwork = some row₀ →
        Function.update db.walletState settings.dashNetwork (some (row₀.taken input.now))
          settings.dashNetwork = some row →
        node.Watches watch.wallet watch.receiveDesc index := by
      intro row₀ hrow₀ hupdate
      rw [Function.update_self] at hupdate
      cases hupdate
      have hnext' : row₀.nextReceiveIndex + 1 ≤ index := hnext
      exact hc.fresh row₀ hrow₀ index (by omega) hlt
    cases h with
    | allocate hrow₀ => exact htaken _ hrow₀ hrow
    | exhausted hrow₀ => exact htaken _ hrow₀ hrow
    | load | unused | found | price | limit | build | insert | stay | fail =>
        exact hc.fresh row hrow index hnext hlt

end Create

/-! ## Runs -/

section Actions

variable {bip44 : Bip44} {s : Service}

/-- A process starts: it does not serve yet, and no other one is the last any more. -/
theorem WatchInv.start (h : WatchInv s) (settings : Settings) :
    WatchInv { s with processes := s.processes ++ [⟨settings, .starting⟩] } := by
  constructor
  · intro i settings' material watch hi hp
    rcases getElem?_concat_cases hp with ⟨-, heq⟩ | hp
    · cases heq
    · have hlt := lt_of_getElem? hp
      simp only [List.length_append, List.length_singleton] at hi
      omega
  · intro i r hr
    obtain ⟨material, bootstrap, hp, hphase⟩ := h.requests i r hr
    refine ⟨material, bootstrap, ?_, hphase⟩
    dsimp only
    rw [List.getElem?_append_left (lt_of_getElem? hp)]
    exact hp

/-- The last process takes a step of its start. -/
theorem WatchInv.boot {i : Nat} {input : BootInput} {p : Process} {db : Database}
    {node : WatchNode} {phase : BootPhase} (h : WatchInv s) (hp : s.processes[i]? = some p)
    (hboot : BootMove p.settings input s.db s.node p.phase db node phase)
    (hlast : i + 1 = s.processes.length) (hok : BootCovered s (.boot i input)) :
    WatchInv { s with db, node, processes := s.processes.set i { p with phase } } := by
  have hgrows := hboot.grows
  constructor
  · intro j settings material watch hj hq
    have hij : j = i := by
      rw [List.length_set] at hj
      omega
    subst hij
    rcases getElem?_set_cases hq with ⟨-, heq⟩ | ⟨hne, -⟩
    · obtain ⟨rfl, rfl⟩ := Process.mk.inj heq
      apply hboot.covered
      · intro hserving
        apply h.last j p.settings material watch hlast
        rw [hp, ← hserving]
      · intro m recvDesc changeDesc hensured
        exact hok p m watch recvDesc changeDesc hp hensured
    · exact absurd rfl hne
  · intro j r hr
    obtain ⟨material, bootstrap, hq, hphase⟩ := h.requests j r hr
    refine ⟨material, bootstrap, ?_, fun watch hw => (hphase watch hw).mono hgrows⟩
    by_cases hij : r.process = i
    · -- a process that serves does not move
      rw [hij, hp] at hq
      cases hq
      cases hboot with
      | stay =>
          dsimp only
          rw [hij]
          exact List.getElem?_set_self (lt_of_getElem? hp)
      | fail hne => exact absurd rfl (hne _ _)
    · dsimp only
      rw [List.getElem?_set_ne (Ne.symm hij)]
      exact hq

/-- A serving process takes a request. -/
theorem WatchInv.post {i : Nat} {settings : Settings} {material : Option XpubMaterial}
    {bootstrap : Option BootstrapResult} (h : WatchInv s)
    (hp : s.processes[i]? = some ⟨settings, .serving material bootstrap⟩) (body : InvoiceCreate) :
    WatchInv { s with requests := s.requests ++ [{ process := i, settings, body }] } := by
  refine ⟨h.last, ?_⟩
  intro j r hr
  rcases getElem?_concat_cases hr with ⟨-, rfl⟩ | hr
  · exact ⟨_, _, hp, fun _ _ => trivial⟩
  · exact h.requests j r hr

/-- What a request of the last process does to the database is covered. -/
theorem WatchInv.covered_create {i : Nat} {input : CreateInput} {r : Request} {db : Database}
    {phase : CreatePhase} (h : WatchInv s) (hr : s.requests[i]? = some r)
    (hcreate : CreateMove r.settings bip44 r.body input s.db r.phase db phase)
    (hlast : r.process + 1 = s.processes.length) {j : Nat} {settings : Settings}
    {m : Option XpubMaterial} {watch : WatchWallet} (hj : j + 1 = s.processes.length)
    (hq : s.processes[j]? = some ⟨settings, .serving m (some (.ok watch))⟩) :
    Covered db s.node settings watch := by
  obtain ⟨material, bootstrap, hp, hphase⟩ := h.requests i r hr
  have hij : j = r.process := by omega
  subst hij
  rw [hp] at hq
  cases hq
  exact (h.last r.process r.settings m watch hlast hp).create (hphase watch rfl) hcreate

/-- A request of the last process takes a step. -/
theorem WatchInv.create {i : Nat} {input : CreateInput} {r : Request} {db : Database}
    {phase : CreatePhase} (h : WatchInv s) (hr : s.requests[i]? = some r)
    (hcreate : CreateMove r.settings bip44 r.body input s.db r.phase db phase)
    (hlast : r.process + 1 = s.processes.length) :
    WatchInv { s with db, requests := s.requests.set i (r.next phase) } := by
  obtain ⟨material, bootstrap, hp, hphase⟩ := h.requests i r hr
  refine ⟨fun j settings m watch hj hq => h.covered_create hr hcreate hlast hj hq, ?_⟩
  intro j r' hr'
  rcases getElem?_set_cases hr' with ⟨-, rfl⟩ | ⟨-, hr'⟩
  · refine ⟨material, bootstrap, hp, ?_⟩
    rintro watch rfl
    exact (h.last r.process r.settings material watch hlast hp).phaseWatched (hphase watch rfl)
      hcreate
  · exact h.requests j r' hr'

/-- The reply about an insertion of the last process is lost. -/
theorem WatchInv.lose {i : Nat} {input : CreateInput} {r : Request} {db : Database}
    {phase : CreatePhase} (h : WatchInv s) (hr : s.requests[i]? = some r)
    (hcreate : CreateMove r.settings bip44 r.body input s.db r.phase db phase)
    (hlast : r.process + 1 = s.processes.length) (message : String) :
    WatchInv { s with db, requests := s.requests.set i (r.next (.failed (.crash message))) } := by
  obtain ⟨material, bootstrap, hp, -⟩ := h.requests i r hr
  refine ⟨fun j settings m watch hj hq => h.covered_create hr hcreate hlast hj hq, ?_⟩
  intro j r' hr'
  rcases getElem?_set_cases hr' with ⟨-, rfl⟩ | ⟨-, hr'⟩
  · exact ⟨material, bootstrap, hp, fun _ _ => trivial⟩
  · exact h.requests j r' hr'

/-- A request ends with an exception. -/
theorem WatchInv.raise {i : Nat} {r : Request} (h : WatchInv s) (hr : s.requests[i]? = some r)
    (message : String) :
    WatchInv { s with requests := s.requests.set i (r.next (.failed (.crash message))) } := by
  obtain ⟨material, bootstrap, hp, -⟩ := h.requests i r hr
  refine ⟨h.last, ?_⟩
  intro j r' hr'
  rcases getElem?_set_cases hr' with ⟨-, rfl⟩ | ⟨-, hr'⟩
  · exact ⟨material, bootstrap, hp, fun _ _ => trivial⟩
  · exact h.requests j r' hr'

/-- **The step lemma.** -/
theorem WatchInv.act {a : ServiceAction} (h : WatchInv s) (hlast : LastProcess s a)
    (hok : BootCovered s a) : WatchInv (s.act bip44 a) := by
  have hmove := s.act_move bip44 a
  generalize s.act bip44 a = s' at hmove ⊢
  cases hmove with
  | idle => exact h
  | start => exact h.start _
  | boot hp hboot => exact h.boot hp hboot hlast hok
  | post hp => exact h.post hp _
  | create hr hcreate => exact h.create hr hcreate (hlast _ hr)
  | raise hr => exact h.raise hr _
  | lose hr hphase hcreate => exact h.lose hr hcreate (hlast _ hr) _

end Actions

/-- **The watched range.** In every run of processes that follow each other, whatever their
range ends are: if each bootstrap that returns status `ok` finds the stored indexes inside the
ranges imported by then or about to be imported, and, when it does not import, also the indexes
that it will let requests have, then every answer of such a process is at a watched index. -/
theorem answers_watched (bip44 : Bip44) (s₀ : Service) (hprocesses : s₀.processes = [])
    (hrequests : s₀.requests = []) (actions : List ServiceAction)
    (hlast : Along (Service.act bip44) LastProcess s₀ actions)
    (hok : Along (Service.act bip44) BootCovered s₀ actions) :
    AnswersWatched (run (Service.act bip44) s₀ actions) := by
  have hinit : WatchInv s₀ := by
    constructor
    · intro i settings material watch hi hp
      rw [hprocesses] at hp
      cases hp
    · intro i r hr
      rw [hrequests] at hr
      cases hr
  have hinv := (hlast.and hok).invariant (fun s a hs ha => WatchInv.act hs ha.1 ha.2) hinit
  intro i r statusCode id doc hr hphase p material watch hp hserving
  obtain ⟨m, bootstrap, hq, hwatched⟩ := hinv.requests i r hr
  rw [hp] at hq
  cases hq
  cases hserving
  have := hwatched watch rfl
  rw [hphase] at this
  exact this

/-! ## A range that grows

The first process imports the indexes 0 and 1. A second one finds the descriptors listed and
leaves the range as it is. -/

def rangeSettings (rangeEnd : Int) : Settings :=
  { dustSettings with dashRpcPassword := "secret", dashDescriptorRangeEnd := rangeEnd }

def rangeBoot : BootInput where
  file := .missing
  now := 0
  rpc :=
    { getdescriptorinfo := fun raw =>
        .ok { descriptor := some (raw ++ "#cksum"), checksum := some "cksum" } }

/-- A process starts and bootstraps its watch wallet. -/
def rangeStart (i : Nat) (rangeEnd : Int) : List ServiceAction :=
  .start (rangeSettings rangeEnd) :: List.replicate 4 (.boot i rangeBoot)

def rangeWatch (first : Bool) : WatchWallet where
  wallet := "watch"
  created := first
  imported := first
  receiveDesc := "pkh([aabbccdd/44h/1h/0h]tpub/0/*)#cksum"
  changeDesc := "pkh([aabbccdd/44h/1h/0h]tpub/1/*)#cksum"

def rangeRow : WalletRow := newRow .regtest "tpub" "aabbccdd" 1 0

def rangeNode : WatchNode where
  wallets := ["watch"]
  imported := Function.update (fun _ => []) "watch"
    [importRequest (rangeWatch true).receiveDesc false 1,
      importRequest (rangeWatch true).changeDesc true 1]

def rangeProcess (first : Bool) (rangeEnd : Int) : Process :=
  ⟨rangeSettings rangeEnd, .serving (some dustMaterial) (some (.ok (rangeWatch first)))⟩

/-- After the first start. -/
def rangeFirst : Service where
  db := ⟨∅, Function.update (fun _ => none) .regtest (some rangeRow)⟩
  node := rangeNode
  processes := [rangeProcess true 1]
  requests := []

/-- After a second one. -/
def rangeSecond (rangeEnd : Int) : Service :=
  { rangeFirst with processes := [rangeProcess true 1, rangeProcess false rangeEnd] }

theorem run_rangeFirst : run (Service.act dustKeys) Service.empty (rangeStart 0 1) = rangeFirst :=
  rfl

theorem run_rangeSecond_two :
    run (Service.act dustKeys) rangeFirst (rangeStart 1 2) = rangeSecond 2 := rfl

theorem run_rangeSecond_three :
    run (Service.act dustKeys) rangeFirst (rangeStart 1 3) = rangeSecond 3 := rfl

/-- The same request under another external id. -/
def rangeBody (externalId : String)
    (h : 1 ≤ externalId.length ∧ externalId.length ≤ 128 := by decide) : InvoiceCreate :=
  { dustBody with externalId, externalId_length := h }

def rangeInput (id : ObjectId) : CreateInput := { dustInput with id }

theorem lastProcess_rangeStart : Along (Service.act dustKeys) LastProcess Service.empty
    (rangeStart 0 1 ++ rangeStart 1 2) :=
  ⟨trivial, rfl, rfl, rfl, rfl, trivial, rfl, rfl, rfl, rfl, trivial⟩

/-- Only the bootstrap of the watch wallet is a question. -/
theorem bootCovered_of_phase {s : Service} {i : Nat} {p : Process} (input : BootInput)
    (hp : s.processes[i]? = some p) (hphase : ∀ m, p.phase ≠ .ensured (some m)) :
    BootCovered s (.boot i input) := by
  intro p' m _ _ _ hp' hphase'
  obtain rfl := Option.some.inj (hp.symm.trans hp')
  exact absurd hphase' (hphase m)

/-- The first bootstrap imports; the second finds the indexes 0 and 1 imported. -/
theorem bootCovered_rangeStart : Along (Service.act dustKeys) BootCovered Service.empty
    (rangeStart 0 1 ++ rangeStart 1 2) := by
  refine along_append.mpr ⟨⟨trivial, bootCovered_of_phase _ rfl nofun,
    bootCovered_of_phase _ rfl nofun, bootCovered_of_phase _ rfl nofun, ?_, trivial⟩, ?_⟩
  -- the node lists nothing yet, so this bootstrap imports
  · intro p m watch recvDesc changeDesc hp hphase _ _
    cases hp
    constructor
    · intro id doc hdoc
      cases hdoc
    · intro hneed
      have hneed : needImport recvDesc changeDesc [] = false := hneed
      simp [needImport] at hneed
  · rw [run_rangeFirst]
    refine ⟨trivial, bootCovered_of_phase _ rfl nofun, bootCovered_of_phase _ rfl nofun, ?_,
      bootCovered_of_phase _ rfl nofun, trivial⟩
    -- the second range ends at 2: the indexes 0 and 1 are all it lets out
    intro p m watch recvDesc changeDesc hp hphase _ hdescs
    cases hp
    cases hphase
    cases hdescs
    constructor
    · intro id doc hdoc
      cases hdoc
    · intro _ row hrow index _ hlt
      have hlt : (index : Int) < 2 := hlt
      exact ⟨importRequest (rangeWatch true).receiveDesc false 1, List.mem_cons_self, rfl,
        Int.natCast_nonneg index, Int.lt_add_one_iff.mp hlt⟩

/-- The last process may take a request and serve it. -/
theorem lastProcess_serve {bip44 : Bip44} {s : Service} {i : Nat} {settings : Settings}
    {m : Option XpubMaterial} {b : Option BootstrapResult}
    (hp : s.processes[i]? = some ⟨settings, .serving m b⟩) (hi : i + 1 = s.processes.length)
    (body : InvoiceCreate) (input : CreateInput) :
    Along (Service.act bip44) LastProcess s
      (.post i body :: List.replicate 7 (.create s.requests.length input)) := by
  have hpost : s.act bip44 (.post i body)
      = { s with requests := s.requests ++ [{ process := i, settings, body }] } := by
    unfold Service.act
    simp only [hp]
  refine ⟨hi, ?_⟩
  rw [hpost]
  apply along_replicate
  intro k _
  obtain ⟨passed, hrun⟩ := run_create bip44 input (i := s.requests.length)
    (s := { s with requests := s.requests ++ [{ process := i, settings, body }] })
    List.getElem?_concat_length k
  rw [hrun]
  intro r hr
  rcases getElem?_set_cases hr with ⟨-, rfl⟩ | ⟨hne, -⟩
  · exact hi
  · exact absurd rfl hne

/-- A second process whose range goes one past the imported one answers with a watched index. -/
theorem answers_watched_two :
    AnswersWatched (run (Service.act dustKeys) Service.empty
      (rangeStart 0 1 ++ rangeStart 1 2 ++
        .post 1 dustBody :: List.replicate 7 (.create 0 dustInput))) := by
  have hstart : run (Service.act dustKeys) Service.empty (rangeStart 0 1 ++ rangeStart 1 2)
      = rangeSecond 2 := by
    rw [run_append, run_rangeFirst, run_rangeSecond_two]
  have hlast : Along (Service.act dustKeys) LastProcess Service.empty
      (rangeStart 0 1 ++ rangeStart 1 2 ++
        .post 1 dustBody :: List.replicate 7 (.create 0 dustInput)) := by
    refine along_append.mpr ⟨lastProcess_rangeStart, ?_⟩
    rw [hstart]
    exact lastProcess_serve (s := rangeSecond 2) (i := 1) rfl rfl dustBody dustInput
  have hok : Along (Service.act dustKeys) BootCovered Service.empty
      (rangeStart 0 1 ++ rangeStart 1 2 ++
        .post 1 dustBody :: List.replicate 7 (.create 0 dustInput)) := by
    refine along_append.mpr ⟨bootCovered_rangeStart, trivial, along_replicate (fun k _ => trivial)⟩
  exact answers_watched dustKeys Service.empty rfl rfl _ hlast hok

/-- The actions of the second process for one request. -/
def rangeServe (n : Nat) (body : InvoiceCreate) : List ServiceAction :=
  .post 1 body :: List.replicate 7 (.create n (rangeInput n))

/-- The service after the second process has served its request number `n`. -/
def rangeServed (s : Service) (n : Nat) (body : InvoiceCreate) (row : WalletRow) (passed : Bool) :
    Service :=
  s.afterServe 1 (rangeSettings 3) body (rangeInput n) dustPricing row
    ("y" ++ toString (n : Int))
    { change := 0, index := n, path := "m/44'/1'/0'/0/" ++ toString (n : Int) } passed

/-- The second process serves request number `n` with index `n`. -/
theorem run_rangeServe (s : Service) (n : Nat) (body : InvoiceCreate) (row : WalletRow)
    (hn : s.requests.length = n) (hp : s.processes = (rangeSecond 3).processes)
    (hrow : s.db.walletState .regtest = some row) (hnext : row.nextReceiveIndex = n) (hlt : n < 3)
    (hsats : body.sats = 1) (hcust : body.custId = none)
    (hderive : deriveReceive dustKeys "tpub" .regtest n = .ok ("y" ++ toString (n : Int),
      { change := 0, index := n, path := "m/44'/1'/0'/0/" ++ toString (n : Int) }))
    (hints : (newInvoice (rangeSettings 3) body dustPricing ("y" ++ toString (n : Int))
      { change := 0, index := n, path := "m/44'/1'/0'/0/" ++ toString (n : Int) } 0).newInts.all
      bsonInt64 = true)
    (hfresh : duplicateKey s.db.invoices n (newInvoice (rangeSettings 3) body dustPricing
      ("y" ++ toString (n : Int))
      { change := 0, index := n, path := "m/44'/1'/0'/0/" ++ toString (n : Int) } 0) = false) :
    Along (Service.act dustKeys) LastProcess s (rangeServe n body) ∧
    ∃ passed, run (Service.act dustKeys) s (rangeServe n body)
      = rangeServed s n body row passed := by
  have h : Served (rangeSettings 3) dustKeys body (rangeInput n) s.db dustMaterial dustPricing row
      ("y" ++ toString (n : Int))
      { change := 0, index := n, path := "m/44'/1'/0'/0/" ++ toString (n : Int) } :=
    { mongo := by decide
      key := rfl
      price := createPrice_dust hsats _
      limit := by rw [hcust]; rfl
      found := hrow
      inRange := by rw [hnext]; exact Int.ofNat_lt.mpr hlt
      derive := by rw [hnext]; exact hderive
      ints := hints
      fresh := hfresh }
  have hserving : s.processes[1]? = some (rangeProcess false 3) := by
    rw [hp]
    rfl
  have hlength : 1 + 1 = s.processes.length := by
    rw [hp]
    rfl
  subst hn
  exact ⟨lastProcess_serve hserving hlength body _, h.serve hserving⟩

/-- A first range end of 1 and a second one of 3; then three requests. -/
def rangeActions : List ServiceAction :=
  rangeStart 0 1 ++ (rangeStart 1 3 ++ (rangeServe 0 dustBody ++
    (rangeServe 1 (rangeBody "order-2") ++ rangeServe 2 (rangeBody "order-3"))))

/-- The three requests get the indexes 0, 1 and 2, and the last one is not watched. -/
theorem grown_range_unwatched :
    Along (Service.act dustKeys) LastProcess Service.empty rangeActions ∧
      ¬ AnswersWatched (run (Service.act dustKeys) Service.empty rangeActions) := by
  let row : Nat → WalletRow := fun n => (fun row => WalletRow.taken row 0)^[n] rangeRow
  obtain ⟨hlast₀, p₀, hrun₀⟩ := run_rangeServe (rangeSecond 3) 0 dustBody (row 0)
    rfl rfl rfl rfl (by decide) rfl rfl rfl (by decide) rfl
  let s₁ := rangeServed (rangeSecond 3) 0 dustBody (row 0) p₀
  obtain ⟨hlast₁, p₁, hrun₁⟩ := run_rangeServe s₁ 1 (rangeBody "order-2") (row 1)
    rfl rfl rfl rfl (by decide) rfl rfl rfl (by decide) rfl
  let s₂ := rangeServed s₁ 1 (rangeBody "order-2") (row 1) p₁
  obtain ⟨hlast₂, p₂, hrun₂⟩ := run_rangeServe s₂ 2 (rangeBody "order-3") (row 2)
    rfl rfl rfl rfl (by decide) rfl rfl rfl (by decide) rfl
  have hrun : run (Service.act dustKeys) Service.empty rangeActions
      = rangeServed s₂ 2 (rangeBody "order-3") (row 2) p₂ := by
    rw [rangeActions, run_append, run_rangeFirst, run_append, run_rangeSecond_three, run_append,
      hrun₀, run_append, hrun₁, hrun₂]
  have hstart₀ : Along (Service.act dustKeys) LastProcess Service.empty (rangeStart 0 1) :=
    ⟨trivial, rfl, rfl, rfl, rfl, trivial⟩
  have hstart₁ : Along (Service.act dustKeys) LastProcess rangeFirst (rangeStart 1 3) :=
    ⟨trivial, rfl, rfl, rfl, rfl, trivial⟩
  constructor
  · refine along_append.mpr ⟨hstart₀, ?_⟩
    rw [run_rangeFirst]
    refine along_append.mpr ⟨hstart₁, ?_⟩
    rw [run_rangeSecond_three]
    refine along_append.mpr ⟨hlast₀, ?_⟩
    rw [hrun₀]
    refine along_append.mpr ⟨hlast₁, ?_⟩
    rw [hrun₁]
    exact hlast₂
  -- index 2 is past the imported range
  · rw [hrun]
    intro h
    have hwatched := h 2 _ 201 2 _ rfl rfl (rangeProcess false 3) _ (rangeWatch false) rfl rfl
    have hnot : ¬ rangeNode.Watches "watch" (rangeWatch false).receiveDesc 2 := by decide
    exact hnot hwatched

end V4vappDash
