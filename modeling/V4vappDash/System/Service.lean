import V4vappDash.Api.Moves
import V4vappDash.Lib.Machine
import V4vappDash.Lifespan

set_option autoImplicit false

/-! # The service

Any number of processes, each with its own settings, over one database and one node, and the
requests they serve. Processes start and requests move phase by phase, in any order
(`Service.act`); the key file, the prices, the clock and the answers of the node come with each
action. A process or a request that takes no further action has died.
-/

namespace V4vappDash

/-- A process; its settings are read once. -/
structure Process where
  settings : Settings
  phase : BootPhase

/-- A request, with the settings of the process that serves it. -/
structure Request where
  process : Nat
  settings : Settings
  body : InvoiceCreate
  /-- It has got past validation, pricing and limits. -/
  passed : Bool := false
  phase : CreatePhase := .received

structure Service where
  db : Database
  node : WatchNode
  processes : List Process
  requests : List Request

/-- Nothing stored, nothing imported, nothing running. -/
def Service.empty : Service :=
  ⟨⟨∅, fun _ => none⟩, ⟨[], fun _ => []⟩, [], []⟩

/-- What happens next; processes and requests are named by their position. -/
inductive ServiceAction
  | start (settings : Settings)
  | boot (process : Nat) (input : BootInput)
  | post (process : Nat) (body : InvoiceCreate)
  | create (request : Nat) (input : CreateInput)
  /-- A call of a request raises. -/
  | raise (request : Nat) (message : String)
  /-- The insertion of a request is applied, and raises nevertheless: its reply is lost. -/
  | lose (request : Nat) (input : CreateInput) (message : String)

def CreatePhase.isLimited : CreatePhase → Bool
  | .limited _ _ => true
  | _ => false

def CreatePhase.isFinished : CreatePhase → Bool
  | .answered _ _ _ => true
  | .failed _ => true
  | _ => false

/-- The request in its next phase. -/
def Request.next (r : Request) (phase : CreatePhase) : Request :=
  { r with passed := r.passed || phase.isLimited, phase }

/-- One action. An action that names nothing there is to move changes nothing. -/
def Service.act (bip44 : Bip44) (s : Service) : ServiceAction → Service
  | .start settings => { s with processes := s.processes ++ [⟨settings, .starting⟩] }
  | .boot i input =>
      match s.processes[i]? with
      | none => s
      | some p =>
          let (db, node, phase) := bootStep p.settings input s.db s.node p.phase
          { s with db, node, processes := s.processes.set i { p with phase } }
  | .post i body =>
      match s.processes[i]? with
      -- the request keeps the settings of the process that takes it
      | some ⟨settings, .serving _ _⟩ =>
          { s with requests := s.requests ++ [{ process := i, settings, body }] }
      | _ => s
  | .create i input =>
      match s.requests[i]? with
      | none => s
      | some r =>
          let (db, phase) := createStep r.settings bip44 r.body input s.db r.phase
          { s with db, requests := s.requests.set i (r.next phase) }
  | .raise i message =>
      match s.requests[i]? with
      | none => s
      | some r =>
          if r.phase.isFinished then s
          else { s with requests := s.requests.set i (r.next (.failed (.crash message))) }
  | .lose i input message =>
      match s.requests[i]? with
      | none => s
      | some r =>
          match r.phase with
          | .built doc =>
              match createInsert s.db.invoices input.id doc with
              | (invoices, .answered _ _ _) =>
                  { s with
                    db := { s.db with invoices }
                    requests := s.requests.set i (r.next (.failed (.crash message))) }
              -- the document was refused
              | _ => s
          | _ => s

/-! ## What an action can do -/

/-- What an action does to the service. -/
inductive ServiceMove (bip44 : Bip44) (s : Service) : ServiceAction → Service → Prop
  | idle {a : ServiceAction} : ServiceMove bip44 s a s
  | start {settings : Settings} :
      ServiceMove bip44 s (.start settings)
        { s with processes := s.processes ++ [⟨settings, .starting⟩] }
  | boot {i : Nat} {input : BootInput} {p : Process} {db : Database} {node : WatchNode}
      {phase : BootPhase} (hp : s.processes[i]? = some p)
      (h : BootMove p.settings input s.db s.node p.phase db node phase) :
      ServiceMove bip44 s (.boot i input)
        { s with db, node, processes := s.processes.set i { p with phase } }
  | post {i : Nat} {body : InvoiceCreate} {settings : Settings} {material : Option XpubMaterial}
      {bootstrap : Option BootstrapResult}
      (hp : s.processes[i]? = some ⟨settings, .serving material bootstrap⟩) :
      ServiceMove bip44 s (.post i body)
        { s with requests := s.requests ++ [{ process := i, settings, body }] }
  | create {i : Nat} {input : CreateInput} {r : Request} {db : Database} {phase : CreatePhase}
      (hr : s.requests[i]? = some r)
      (h : CreateMove r.settings bip44 r.body input s.db r.phase db phase) :
      ServiceMove bip44 s (.create i input)
        { s with db, requests := s.requests.set i (r.next phase) }
  | raise {i : Nat} {message : String} {r : Request} (hr : s.requests[i]? = some r)
      (hfin : r.phase.isFinished = false) :
      ServiceMove bip44 s (.raise i message)
        { s with requests := s.requests.set i (r.next (.failed (.crash message))) }
  | lose {i : Nat} {input : CreateInput} {message : String} {r : Request} {db : Database}
      {doc : InvoiceDoc} (hr : s.requests[i]? = some r) (hphase : r.phase = .built doc)
      (h : CreateMove r.settings bip44 r.body input s.db r.phase db (.answered 201 input.id doc)) :
      ServiceMove bip44 s (.lose i input message)
        { s with db, requests := s.requests.set i (r.next (.failed (.crash message))) }

theorem Service.act_move (bip44 : Bip44) (s : Service) (a : ServiceAction) :
    ServiceMove bip44 s a (s.act bip44 a) := by
  cases a with
  | start settings => exact .start
  | boot i input =>
      unfold Service.act
      dsimp only
      cases hp : s.processes[i]? with
      | none => exact .idle
      | some p => exact .boot hp (bootStep_move p.settings input s.db s.node p.phase)
  | post i body =>
      unfold Service.act
      dsimp only
      cases hp : s.processes[i]? with
      | none => exact .idle
      | some p =>
          obtain ⟨settings, phase⟩ := p
          cases phase with
          | serving material bootstrap => exact .post hp
          | starting | loaded | absent | ensured | failed => exact .idle
  | create i input =>
      unfold Service.act
      dsimp only
      cases hr : s.requests[i]? with
      | none => exact .idle
      | some r => exact .create hr (createStep_move r.settings bip44 r.body input s.db r.phase)
  | raise i message =>
      unfold Service.act
      dsimp only
      cases hr : s.requests[i]? with
      | none => exact .idle
      | some r =>
          dsimp only
          split_ifs with hfin
          · exact .idle
          · exact .raise hr (Bool.not_eq_true _ ▸ hfin)
  | lose i input message =>
      unfold Service.act
      dsimp only
      cases hr : s.requests[i]? with
      | none => exact .idle
      | some r =>
          dsimp only
          cases hphase : r.phase with
          | built doc =>
              unfold createInsert
              dsimp only
              cases hints : doc.newInts.all bsonInt64 with
              | false => exact .idle
              | true =>
                  cases hdup : duplicateKey s.db.invoices input.id doc with
                  | true => exact .idle
                  | false => exact .lose hr hphase (hphase ▸ .insert hints hdup)
          | received | loaded | unused | priced | limited | allocated | answered | failed =>
              exact .idle

/-! ## Positions -/

section Positions

variable {α : Type} {l : List α} {i j : Nat} {a b : α}

/-- An element of an updated list is the new one or is where it was. -/
theorem getElem?_set_cases (h : (l.set i a)[j]? = some b) :
    (j = i ∧ b = a) ∨ (j ≠ i ∧ l[j]? = some b) := by
  rw [List.getElem?_set] at h
  split_ifs at h with hij hlt
  · exact Or.inl ⟨hij.symm, (Option.some.inj h).symm⟩
  · exact Or.inr ⟨Ne.symm hij, h⟩

theorem getElem?_concat_cases (h : (l ++ [a])[j]? = some b) :
    (j = l.length ∧ b = a) ∨ l[j]? = some b := by
  rcases Nat.lt_trichotomy j l.length with hlt | heq | hgt
  · rw [List.getElem?_append_left hlt] at h
    exact Or.inr h
  · subst heq
    rw [List.getElem?_concat_length] at h
    exact Or.inl ⟨rfl, (Option.some.inj h).symm⟩
  · rw [List.getElem?_eq_none (by simp; omega)] at h
    cases h

theorem lt_of_getElem? (h : l[i]? = some a) : i < l.length :=
  (List.getElem?_eq_some_iff.mp h).1

end Positions

/-! ## What every action keeps -/

section Keeps

variable {bip44 : Bip44} {s s' : Service} {a : ServiceAction}

theorem ServiceMove.locked (h : ServiceMove bip44 s a s') :
    Locked s.db.walletState s'.db.walletState := by
  cases h with
  | boot hp h => exact h.locked
  | create hr h | lose hr hphase h => exact h.locked
  | idle | start | post | raise => exact .refl _

/-- An action changes no stored invoice. -/
theorem ServiceMove.lookup (h : ServiceMove bip44 s a s') {id : ObjectId} {doc : InvoiceDoc}
    (hdoc : s.db.invoices.lookup id = some doc) :
    s'.db.invoices.lookup id = some doc := by
  cases h with
  | idle | start | post _ | raise _ _ => exact hdoc
  | boot _ h => exact h.invoices ▸ hdoc
  | create _ h | lose _ _ h => exact h.lookup hdoc

/-- A process that serves goes on serving. -/
theorem ServiceMove.serving (h : ServiceMove bip44 s a s') {i : Nat} {own : Settings}
    {material : Option XpubMaterial} {bootstrap : Option BootstrapResult}
    (hp : s.processes[i]? = some ⟨own, .serving material bootstrap⟩) :
    s'.processes[i]? = some ⟨own, .serving material bootstrap⟩ := by
  cases h with
  | idle | post _ | create _ _ | raise _ _ | lose _ _ _ => exact hp
  | start => rw [List.getElem?_append_left (lt_of_getElem? hp), hp]
  | @boot j input p db node phase hq h =>
      dsimp only
      by_cases hj : j = i
      · subst hj
        rw [hp] at hq
        cases hq
        cases h with
        | stay => rw [List.getElem?_set_self (lt_of_getElem? hp)]
        | fail hne => exact absurd rfl (hne _ _)
      · rw [List.getElem?_set_ne hj, hp]

/-- What a process has come to is changed by its own steps only. -/
theorem ServiceMove.other (h : ServiceMove bip44 s a s') {j : Nat}
    (ha : ∀ input, a ≠ .boot j input) {p : Process} (hp : s.processes[j]? = some p) :
    s'.processes[j]? = some p := by
  cases h with
  | idle | post _ | create _ _ | raise _ _ | lose _ _ _ => exact hp
  | start => rw [List.getElem?_append_left (lt_of_getElem? hp), hp]
  | @boot k input q db node phase hq hboot =>
      have hne : k ≠ j := by
        rintro rfl
        exact ha input rfl
      rw [List.getElem?_set_ne hne, hp]

/-- A request that is there after an action was there before it, or has just been posted. -/
theorem ServiceMove.request (h : ServiceMove bip44 s a s') {n : Nat} {r : Request}
    (hr : s'.requests[n]? = some r) :
    (∃ r₀, s.requests[n]? = some r₀ ∧ r.process = r₀.process ∧ r.settings = r₀.settings ∧
      r.body = r₀.body) ∨ (a = .post r.process r.body ∧ r.phase = .received) := by
  cases h with
  | idle | start | boot _ _ => exact Or.inl ⟨r, hr, rfl, rfl, rfl⟩
  | post hp =>
      rcases getElem?_concat_cases hr with ⟨-, rfl⟩ | hr
      · exact Or.inr ⟨rfl, rfl⟩
      · exact Or.inl ⟨r, hr, rfl, rfl, rfl⟩
  | create hr₀ _ | raise hr₀ _ | lose hr₀ _ _ =>
      rcases getElem?_set_cases hr with ⟨rfl, rfl⟩ | ⟨-, hr⟩
      · exact Or.inl ⟨_, hr₀, rfl, rfl, rfl⟩
      · exact Or.inl ⟨r, hr, rfl, rfl, rfl⟩

/-- A request builds a new invoice for its body. -/
def BuildsNew (r : Request) : Prop :=
  ∀ doc, r.phase = .built doc → ∃ pricing address derivation now,
    doc = newInvoice r.settings r.body pricing address derivation now

theorem BuildsNew.next {r : Request} {input : CreateInput} {db db' : Database}
    {phase : CreatePhase}
    (hmove : CreateMove r.settings bip44 r.body input db r.phase db' phase) :
    BuildsNew (r.next phase) := by
  obtain ⟨process, settings, body, passed, phase₀⟩ := r
  intro doc hbuilt
  change phase = .built doc at hbuilt
  subst hbuilt
  cases hmove with
  | build => exact ⟨_, _, _, _, rfl⟩

theorem ServiceMove.buildsNew (h : ServiceMove bip44 s a s')
    (hs : ∀ (n : Nat) r, s.requests[n]? = some r → BuildsNew r) (n : Nat) (r : Request)
    (hr : s'.requests[n]? = some r) : BuildsNew r := by
  cases h with
  | idle | start | boot _ _ => exact hs n r hr
  | post hp =>
      rcases getElem?_concat_cases hr with ⟨-, rfl⟩ | hr
      · exact fun _ hbuilt => by cases hbuilt
      · exact hs n r hr
  | create _ hcreate =>
      rcases getElem?_set_cases hr with ⟨-, rfl⟩ | ⟨-, hr⟩
      · exact BuildsNew.next hcreate
      · exact hs n r hr
  | raise _ _ | lose _ _ _ =>
      rcases getElem?_set_cases hr with ⟨-, rfl⟩ | ⟨-, hr⟩
      · exact fun _ hbuilt => by cases hbuilt
      · exact hs n r hr

/-- What is stored after an action was stored before it, or was built by a request. -/
theorem ServiceMove.stored_or_built (h : ServiceMove bip44 s a s') {id : ObjectId}
    {doc : InvoiceDoc} (hdoc : s'.db.invoices.lookup id = some doc) :
    s.db.invoices.lookup id = some doc ∨
      ∃ (n : Nat) (r : Request), s.requests[n]? = some r ∧ r.phase = .built doc := by
  cases h with
  | idle | start | post _ | raise _ _ => exact Or.inl hdoc
  | boot _ hboot => exact Or.inl (hboot.invoices ▸ hdoc)
  | create hr hcreate | lose hr _ hcreate =>
      rcases hcreate.stored hdoc with hold | ⟨hbuilt, -, -, -⟩
      · exact Or.inl hold
      · exact Or.inr ⟨_, _, hr, hbuilt⟩

end Keeps

/-! ## Uninterrupted requests -/

/-- A request that takes several steps in a row, with the same inputs. -/
theorem run_create (bip44 : Bip44) (input : CreateInput) {s : Service} {i : Nat} {r : Request}
    (hr : s.requests[i]? = some r) (n : Nat) :
    ∃ passed, Machine.run (Service.act bip44) s (List.replicate n (.create i input))
      = { s with
          db := (createSteps r.settings bip44 r.body input n (s.db, r.phase)).1
          requests := s.requests.set i { r with
            passed
            phase := (createSteps r.settings bip44 r.body input n (s.db, r.phase)).2 } } := by
  induction n with
  | zero =>
      refine ⟨r.passed, ?_⟩
      have hset : s.requests.set i r = s.requests := by
        obtain ⟨hi, rfl⟩ := List.getElem?_eq_some_iff.mp hr
        exact List.set_getElem_self hi
      exact congrArg (fun requests => { s with requests }) hset.symm
  | succ n ih =>
      obtain ⟨passed, ih⟩ := ih
      have hi := lt_of_getElem? hr
      rw [List.replicate_succ', Machine.run_append, ih]
      let before := createSteps r.settings bip44 r.body input n (s.db, r.phase)
      let next := createStep r.settings bip44 r.body input before.1 before.2
      refine ⟨passed || next.2.isLimited, ?_⟩
      unfold Machine.run
      simp only [List.foldl_cons, List.foldl_nil, Service.act, List.getElem?_set_self hi,
        createSteps, Function.iterate_succ_apply', Request.next, List.set_set]
      rfl

/-- A request that finds what it needs, after `n` steps. -/
theorem Served.run {bip44 : Bip44} {input : CreateInput} {s : Service} {i : Nat} {r : Request}
    {material : XpubMaterial} {pricing : Pricing} {row : WalletRow} {address : String}
    {derivation : Derivation}
    (h : Served r.settings bip44 r.body input s.db material pricing row address derivation)
    (hr : s.requests[i]? = some r) (hphase : r.phase = .received) (n : Nat) :
    ∃ passed, Machine.run (Service.act bip44) s (List.replicate n (.create i input))
      = { s with
          db := (Served.trace r.settings r.body input s.db material pricing row address
            derivation n).1
          requests := s.requests.set i { r with
            passed
            phase := (Served.trace r.settings r.body input s.db material pricing row address
              derivation n).2 } } := by
  obtain ⟨passed, hrun⟩ := run_create bip44 input hr n
  rw [hphase, h.steps n] at hrun
  exact ⟨passed, hrun⟩

/-- The service after process `i` has served a request in one go. -/
def Service.afterServe (s : Service) (i : Nat) (settings : Settings) (body : InvoiceCreate)
    (input : CreateInput) (pricing : Pricing) (row : WalletRow) (address : String)
    (derivation : Derivation) (passed : Bool) : Service :=
  let doc := newInvoice settings body pricing address derivation input.now
  { s with
    db := { s.db.afterTake settings.dashNetwork row input.now with
      invoices := AList.insert input.id doc s.db.invoices }
    requests := s.requests ++ [⟨i, settings, body, passed, .answered 201 input.id doc⟩] }

/-- A process takes a request and serves it without interruption. -/
theorem Served.serve {bip44 : Bip44} {input : CreateInput} {s : Service} {i : Nat}
    {settings : Settings} {body : InvoiceCreate} {m : Option XpubMaterial}
    {b : Option BootstrapResult} {material : XpubMaterial} {pricing : Pricing} {row : WalletRow}
    {address : String} {derivation : Derivation}
    (h : Served settings bip44 body input s.db material pricing row address derivation)
    (hp : s.processes[i]? = some ⟨settings, .serving m b⟩) :
    ∃ passed, Machine.run (Service.act bip44) s
        (.post i body :: List.replicate 7 (.create s.requests.length input))
      = s.afterServe i settings body input pricing row address derivation passed := by
  let r : Request := { process := i, settings, body }
  have hpost : s.act bip44 (.post i body) = { s with requests := s.requests ++ [r] } := by
    unfold Service.act
    simp only [hp]
    rfl
  have hr : (s.requests ++ [r])[s.requests.length]? = some r := List.getElem?_concat_length
  obtain ⟨passed, hrun⟩ := Served.run (s := { s with requests := s.requests ++ [r] }) (r := r)
    h hr rfl 7
  refine ⟨passed, ?_⟩
  rw [Machine.run_cons, hpost, hrun]
  simp only [List.set_append_right _ _ le_rfl, Nat.sub_self, List.set_cons_zero]
  rfl

end V4vappDash
