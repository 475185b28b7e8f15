import V4vappDash.System.Deployment
import V4vappDash.System.KeyLock
import V4vappDash.System.WatchRange

set_option autoImplicit false

/-! # Starting again

A bootstrap is "safe to call on every boot". A process that has come up with its watch wallet
leaves a wallet row that its key material matches, and a node that has the wallet and both
descriptors (`Settled`); nothing that any process, request, watcher or cancel does takes this
away. So a later start over the same wallet, between whatever else happens, accepts the row,
finds everything on the node, comes up and changes nothing: `reboot_unchanged`.
-/

namespace V4vappDash

open Machine

/-! ## What a start leaves behind -/

section Start

variable {bip44 : Bip44} {s : Service}

theorem Service.act_boot {i : Nat} {p : Process} (hp : s.processes[i]? = some p)
    (input : BootInput) :
    s.act bip44 (.boot i input) = { s with
      db := (bootStep p.settings input s.db s.node p.phase).1
      node := (bootStep p.settings input s.db s.node p.phase).2.1
      processes := s.processes.set i
        { p with phase := (bootStep p.settings input s.db s.node p.phase).2.2 } } := by
  unfold Service.act
  simp only [hp]

/-- Every wallet row is stored under its own network. -/
def RowsNamed (rows : Network → Option WalletRow) : Prop :=
  ∀ network row, rows network = some row → row.network = network

theorem RowsNamed.update {rows : Network → Option WalletRow} (h : RowsNamed rows)
    {network : Network} {row : WalletRow} (hrow : row.network = network) :
    RowsNamed (Function.update rows network (some row)) := by
  intro n r hr
  by_cases hn : n = network
  · subst hn
    rw [Function.update_self] at hr
    cases hr
    exact hrow
  · rw [Function.update_of_ne hn] at hr
    exact h n r hr

theorem RowsNamed.create {settings : Settings} {body : InvoiceCreate} {input : CreateInput}
    {db db' : Database} {phase phase' : CreatePhase} (h : RowsNamed db.walletState)
    (hmove : CreateMove settings bip44 body input db phase db' phase') :
    RowsNamed db'.walletState := by
  cases hmove with
  | @allocate material pricing row hrow hlt =>
      have hnetwork : (row.taken input.now).network = settings.dashNetwork := h _ row hrow
      exact h.update hnetwork
  | @exhausted material pricing row failure hrow hle hdup =>
      have hnetwork : (row.taken input.now).network = settings.dashNetwork := h _ row hrow
      exact h.update hnetwork
  | load | unused | found | price | limit | build | insert | stay | fail => exact h

/-- What a process has made sure of by its phase. -/
def ProcessSettled (node : WatchNode) (p : Process) : Prop :=
  match p.phase with
  | .absent material row => row.network = p.settings.dashNetwork ∧ material.accountXpub ≠ ""
  | .ensured (some material) => p.settings.mongoUri ≠ "" → material.accountXpub ≠ ""
  | .serving (some material) bootstrap =>
      (p.settings.mongoUri ≠ "" → material.accountXpub ≠ "") ∧
        ∀ watch, bootstrap = some (.ok watch) →
          node.Holds p.settings.dashRpcWallet watch.receiveDesc watch.changeDesc
  | _ => True

theorem ProcessSettled.mono {node node' : WatchNode} {p : Process} (h : ProcessSettled node p)
    (hwallets : node.wallets ⊆ node'.wallets) (hgrows : node.Grows node') :
    ProcessSettled node' p := by
  obtain ⟨settings, phase⟩ := p
  cases phase with
  | serving material bootstrap =>
      cases material with
      | none => trivial
      | some m => exact ⟨h.1, fun watch hwatch => (h.2 watch hwatch).mono hwallets hgrows⟩
  | ensured material =>
      cases material with
      | none => trivial
      | some m => exact h
  | starting | loaded | absent | failed => exact h

variable {settings : Settings} {db : Database} {node : WatchNode}

theorem bootEnsure_settled (now : Datetime) (material : Option XpubMaterial) :
    ProcessSettled node ⟨settings, bootEnsure settings db.walletState now material⟩ := by
  cases material with
  | none => trivial
  | some m =>
      unfold bootEnsure
      dsimp only
      by_cases huri : settings.mongoUri = ""
      · rw [if_pos huri]
        exact fun habs => absurd huri habs
      · rw [if_neg huri]
        unfold ensureFind
        by_cases hxpub : m.accountXpub = ""
        · rw [if_pos hxpub]
          trivial
        · rw [if_neg hxpub, if_neg (not_not.mpr m.fingerprint_length)]
          cases db.walletState settings.dashNetwork with
          | none => exact ⟨rfl, hxpub⟩
          | some row =>
              dsimp only
              split_ifs
              · trivial
              · trivial
              · exact fun _ => hxpub

theorem bootDashd_settled {material : Option XpubMaterial} (rpc : BootRpc)
    (h : ProcessSettled node ⟨settings, .ensured material⟩) :
    ProcessSettled (bootDashd settings rpc node material).1
      ⟨settings, (bootDashd settings rpc node material).2⟩ := by
  unfold bootDashd
  cases material with
  | none =>
      split_ifs
      · trivial
      · cases rpc.getblockchaininfo <;> trivial
  | some m =>
      split_ifs
      · exact ⟨h, nofun⟩
      · cases rpc.getblockchaininfo with
        | error message => trivial
        | ok u =>
            dsimp only
            split
            · trivial
            · next node' result heq =>
                refine ⟨h, ?_⟩
                intro watch hwatch
                cases hwatch
                exact bootstrap_holds heq

/-- **The step lemma for a start.** -/
theorem ProcessSettled.next {p : Process} (h : ProcessSettled node p) (input : BootInput) :
    ProcessSettled (bootStep p.settings input db node p.phase).2.1
      { p with phase := (bootStep p.settings input db node p.phase).2.2 } := by
  obtain ⟨settings, phase⟩ := p
  cases phase with
  | starting =>
      show ProcessSettled node ⟨settings, bootLoad settings input.file⟩
      unfold bootLoad
      cases loadXpubMaterial settings input.file <;> trivial
  | loaded material => exact bootEnsure_settled input.now material
  | absent material row =>
      show ProcessSettled node ⟨settings, (bootInsert settings db.walletState material row).2⟩
      unfold bootInsert
      cases insertRow db.walletState settings.dashNetwork row with
      | error message => trivial
      | ok rows => exact fun _ => h.2
  | ensured material => exact bootDashd_settled input.rpc h
  | serving material bootstrap => exact h
  | failed message => trivial

theorem RowsNamed.boot (h : RowsNamed db.walletState) {p : Process} (hp : ProcessSettled node p)
    (input : BootInput) :
    RowsNamed (bootStep p.settings input db node p.phase).1.walletState := by
  obtain ⟨settings, phase⟩ := p
  cases phase with
  | absent material row =>
      show RowsNamed (bootInsert settings db.walletState material row).1
      unfold bootInsert insertRow
      cases db.walletState settings.dashNetwork with
      | none => exact h.update hp.1
      | some row' => exact h
  | starting | loaded | ensured | serving | failed => exact h

theorem bootStep_wallets (input : BootInput) (phase : BootPhase) :
    node.wallets ⊆ (bootStep settings input db node phase).2.1.wallets := by
  cases phase with
  | ensured material =>
      show node.wallets ⊆ (bootDashd settings input.rpc node material).1.wallets
      unfold bootDashd
      split_ifs
      · exact List.Subset.refl _
      · cases input.rpc.getblockchaininfo with
        | error message => exact List.Subset.refl _
        | ok u =>
            cases material with
            | none => exact List.Subset.refl _
            | some m =>
                have hwallets := bootstrap_wallets settings.dashRpcWallet input.rpc node
                  settings.dashNetwork m.accountXpub m.masterFingerprint
                  settings.dashDescriptorRangeEnd
                dsimp only
                split
                · next heq => rw [heq] at hwallets; exact hwallets
                · next heq => rw [heq] at hwallets; exact hwallets
  | starting | loaded | absent | serving | failed => exact List.Subset.refl _

end Start

/-! ## Runs -/

/-- What every reachable state keeps for the starts to come. -/
structure Settled (s : Service) : Prop where
  rows : RowsNamed s.db.walletState
  keyed : ∀ (i : Nat) p, s.processes[i]? = some p → ProcessKeyed s.db.walletState p
  processes : ∀ (i : Nat) p, s.processes[i]? = some p → ProcessSettled s.node p

section Runs

variable {bip44 : Bip44} {s : Service}

/-- The step of a process. -/
theorem Settled.boot (h : Settled s) (i : Nat) (input : BootInput) :
    Settled (s.act bip44 (.boot i input)) := by
  have hkeyed : ∀ j p, (s.act bip44 (.boot i input)).processes[j]? = some p →
      ProcessKeyed (s.act bip44 (.boot i input)).db.walletState p :=
    processKeyed_act h.keyed (.boot i input)
  cases hp : s.processes[i]? with
  | none =>
      have hidle : s.act bip44 (.boot i input) = s := by
        unfold Service.act
        simp only [hp]
      rw [hidle]
      exact h
  | some p =>
      rw [Service.act_boot hp] at hkeyed ⊢
      refine ⟨h.rows.boot (h.processes i p hp) input, hkeyed, ?_⟩
      intro j q hq
      rcases getElem?_set_cases hq with ⟨-, rfl⟩ | ⟨-, hq⟩
      · exact (h.processes i p hp).next input
      -- the other processes keep what the node has
      · exact (h.processes j q hq).mono (bootStep_wallets input p.phase)
          (bootStep_move p.settings input s.db s.node p.phase).grows

/-- **The step lemma for the service.** -/
theorem Settled.act (h : Settled s) (a : ServiceAction) : Settled (s.act bip44 a) := by
  have hkeyed : ∀ i p, (s.act bip44 a).processes[i]? = some p →
      ProcessKeyed (s.act bip44 a).db.walletState p := processKeyed_act h.keyed a
  have hmove := s.act_move bip44 a
  by_cases hboot : ∃ i input, a = .boot i input
  · obtain ⟨i, input, rfl⟩ := hboot
    exact h.boot i input
  · generalize s.act bip44 a = t at hmove hkeyed ⊢
    cases hmove with
    | idle => exact h
    | start =>
        refine ⟨h.rows, hkeyed, ?_⟩
        intro j p hp
        rcases getElem?_concat_cases hp with ⟨-, rfl⟩ | hp
        · trivial
        · exact h.processes j p hp
    | boot hp hstep => exact absurd ⟨_, _, rfl⟩ hboot
    | post hp => exact ⟨h.rows, hkeyed, h.processes⟩
    | create hr hcreate | lose hr hphase hcreate =>
        exact ⟨h.rows.create hcreate, hkeyed, h.processes⟩
    | raise hr hfin => exact ⟨h.rows, hkeyed, h.processes⟩

theorem Settled.deployment {s : Deployment} (h : Settled s.service) (a : DeploymentAction) :
    Settled (s.act bip44 a).service := by
  have hmove := Deployment.act_move bip44 s a
  generalize (s.act bip44 a).service = t at hmove ⊢
  cases hmove with
  | serve a => exact h.act a
  | update ha hterms => exact ⟨h.rows, h.keyed, h.processes⟩

theorem settled_run (bip44 : Bip44) (actions : List DeploymentAction) :
    Settled (run (Deployment.act bip44) .empty actions).service := by
  refine run_invariant (P := fun s : Deployment => Settled s.service)
    (fun s a h => h.deployment a) ?_ actions
  refine ⟨?_, ?_, ?_⟩
  · intro network row hrow
    cases hrow
  · intro i p hp
    cases hp
  · intro i p hp
    cases hp

end Runs

/-! ## A later start -/

/-- A process that starts over the same wallet. Its range end, its limits and its prices may be
others. -/
structure Settings.SameWallet (settings settings' : Settings) : Prop where
  network : settings'.dashNetwork = settings.dashNetwork
  wallet : settings'.dashRpcWallet = settings.dashRpcWallet
  database : settings'.mongoUri ≠ "" → settings.mongoUri ≠ ""
  configured : rpcConfigured settings'.dashRpcPassword settings'.dashRpcUrl = true

/-- What a start gets from outside: the same key, and an answer to each call, with the same
descriptors. -/
structure BootInput.Again (input : BootInput) (settings : Settings) (m : XpubMaterial)
    (watch : WatchWallet) : Prop where
  key : loadXpubMaterial settings input.file = .ok (some m)
  chain : input.rpc.getblockchaininfo = .ok ()
  wallets : input.rpc.listwallets = .ok ()
  listed : input.rpc.listdescriptors = .ok ()
  descriptors : watchDescriptors input.rpc settings.dashNetwork m.accountXpub m.masterFingerprint
    = .ok (watch.receiveDesc, watch.changeDesc)

/-- The phase of a later start after so many steps. -/
def rebootPhase (settings : Settings) (m : XpubMaterial) (watch : WatchWallet) : Nat → BootPhase
  | 0 => .starting
  | 1 => .loaded (some m)
  | 2 => .ensured (some m)
  | _ => .serving (some m)
      (some (.ok ⟨settings.dashRpcWallet, false, false, watch.receiveDesc, watch.changeDesc⟩))

def DeploymentAction.boots (i : Nat) : DeploymentAction → Bool
  | .serve (.boot j _) => j = i
  | _ => false

section Again

variable {bip44 : Bip44} {settings settings' : Settings} {m : XpubMaterial} {watch : WatchWallet}

/-- A row that the key matches is accepted. -/
theorem ensureFind_locked {rows : Network → Option WalletRow} {network : Network}
    (hrows : RowsNamed rows) (hlocked : LockedTo rows network m) (hxpub : m.accountXpub ≠ "")
    (rangeEnd : Int) (now : Datetime) :
    ensureFind rows network m.accountXpub m.masterFingerprint rangeEnd now = .ok none := by
  obtain ⟨row, hrow, hmatches⟩ := hlocked
  have hsame : ¬ (row.accountXpub ≠ m.accountXpub
      ∨ lower row.fingerprint ≠ lower m.masterFingerprint) := by
    rw [not_or, not_not, not_not]
    exact hmatches
  unfold ensureFind
  simp only [hxpub, m.fingerprint_length, hrow, hsame, hrows _ _ hrow, ne_eq, not_true, if_false]

/-- **One step of a later start.** It goes on and changes nothing. -/
theorem bootStep_again {s : Service} (h : Settled s) {i : Nat}
    (hp : s.processes[i]? = some ⟨settings, .serving (some m) (some (.ok watch))⟩)
    (hsame : settings.SameWallet settings') {input : BootInput}
    (hagain : input.Again settings' m watch) (n : Nat) :
    bootStep settings' input s.db s.node (rebootPhase settings' m watch n)
      = (s.db, s.node, rebootPhase settings' m watch (n + 1)) := by
  obtain ⟨hxpub, hholds⟩ := h.processes i _ hp
  match n with
  | 0 =>
      show (s.db, s.node, bootLoad settings' input.file) = _
      unfold bootLoad
      rw [hagain.key]
      rfl
  | 1 =>
      show (s.db, s.node, bootEnsure settings' s.db.walletState input.now (some m)) = _
      unfold bootEnsure
      dsimp only
      by_cases huri : settings'.mongoUri = ""
      · rw [if_pos huri]
        rfl
      · -- the first start has locked the row, or found it locked
        have hlocked : LockedTo s.db.walletState settings'.dashNetwork m := by
          rw [hsame.network]
          exact h.keyed i _ hp (hsame.database huri)
        rw [if_neg huri, ensureFind_locked h.rows hlocked (hxpub (hsame.database huri))]
        rfl
  | 2 =>
      have hnode : s.node.Holds settings'.dashRpcWallet watch.receiveDesc watch.changeDesc := by
        rw [hsame.wallet]
        exact hholds watch rfl
      show (s.db, bootDashd settings' input.rpc s.node (some m)) = _
      unfold bootDashd
      rw [hsame.configured, hagain.chain]
      dsimp only
      rw [bootstrap_again hnode hagain.wallets hagain.listed hagain.descriptors]
      rfl
  | _ + 3 => rfl

/-- The first start is over, and the later one has taken `n` steps. -/
structure Rebooting (settings settings' : Settings) (m : XpubMaterial) (watch : WatchWallet)
    (i j n : Nat) (s : Service) : Prop where
  settled : Settled s
  first : s.processes[i]? = some ⟨settings, .serving (some m) (some (.ok watch))⟩
  later : s.processes[j]? = some ⟨settings', rebootPhase settings' m watch n⟩

theorem Rebooting.boot {s : Service} {i j n : Nat}
    (h : Rebooting settings settings' m watch i j n s) (hsame : settings.SameWallet settings')
    {input : BootInput} (hagain : input.Again settings' m watch) :
    s.act bip44 (.boot j input) = { s with
      processes := s.processes.set j ⟨settings', rebootPhase settings' m watch (n + 1)⟩ } := by
  rw [Service.act_boot h.later, bootStep_again h.settled h.first hsame hagain n]

/-- **The step lemma.** -/
theorem Rebooting.act {s : Deployment} {i j n : Nat}
    (h : Rebooting settings settings' m watch i j n s.service)
    (hsame : settings.SameWallet settings') (a : DeploymentAction)
    (ha : ∀ input, a = .serve (.boot j input) → input.Again settings' m watch) :
    Rebooting settings settings' m watch i j (if a.boots j then n + 1 else n)
      (s.act bip44 a).service := by
  have hsettled : Settled (s.act bip44 a).service := h.settled.deployment a
  have hmove := Deployment.act_move bip44 s a
  by_cases hboots : ∃ input, a = .serve (.boot j input)
  · obtain ⟨input, rfl⟩ := hboots
    have hlater : (s.act bip44 (.serve (.boot j input))).service.processes[j]?
        = some ⟨settings', rebootPhase settings' m watch (n + 1)⟩ := by
      show (s.service.act bip44 (.boot j input)).processes[j]? = _
      rw [h.boot hsame (ha input rfl)]
      exact List.getElem?_set_self (lt_of_getElem? h.later)
    refine ⟨hsettled, (Service.act_move bip44 s.service (.boot j input)).serving h.first, ?_⟩
    rw [hlater]
    simp [DeploymentAction.boots]
  · have hquiet : a.boots j = false := by
      unfold DeploymentAction.boots
      split
      · next k input =>
          rw [decide_eq_false_iff_not]
          rintro rfl
          exact hboots ⟨input, rfl⟩
      · rfl
    rw [hquiet]
    generalize (s.act bip44 a).service = t at hsettled hmove
    cases hmove with
    | serve a =>
        have hother : ∀ input, a ≠ .boot j input := by
          rintro input rfl
          exact hboots ⟨input, rfl⟩
        have hstep := Service.act_move bip44 s.service a
        exact ⟨hsettled, hstep.serving h.first, hstep.other hother h.later⟩
    | update _ _ => exact ⟨hsettled, h.first, h.later⟩

theorem Rebooting.run {s : Deployment} {i j : Nat}
    (h : Rebooting settings settings' m watch i j 0 s.service)
    (hsame : settings.SameWallet settings') (actions : List DeploymentAction)
    (hagain : ∀ input, .serve (.boot j input) ∈ actions → input.Again settings' m watch) :
    Rebooting settings settings' m watch i j (actions.countP (DeploymentAction.boots j))
      (run (Deployment.act bip44) s actions).service := by
  induction actions using List.reverseRecOn with
  | nil => exact h
  | append_singleton actions a ih =>
      have hbefore := ih (fun input hmem => hagain input (List.mem_append_left _ hmem))
      have hstep : Rebooting settings settings' m watch i j _
          ((Machine.run (Deployment.act bip44) s actions).act bip44 a).service :=
        hbefore.act hsame a (fun input heq => hagain input (by simp [heq]))
      rw [run_append, List.countP_append, List.countP_singleton]
      cases ha : a.boots j with
      | true => rw [ha] at hstep; exact hstep
      | false => rw [ha] at hstep; exact hstep

end Again

/-- **Starting again changes nothing.** Once a process has come up with its watch wallet, a start
over the same wallet that gets its calls answered comes up in three steps, whatever other starts,
requests, watchers and cancels do before, after and in between; it reports that it has created
and imported nothing, and no step of it changes the database or the node. -/
theorem reboot_unchanged (bip44 : Bip44) (before : List DeploymentAction)
    (settings settings' : Settings) (m : XpubMaterial) (watch : WatchWallet) (i j : Nat)
    (hfirst : (run (Deployment.act bip44) .empty before).service.processes[i]?
      = some ⟨settings, .serving (some m) (some (.ok watch))⟩)
    (hlater : (run (Deployment.act bip44) .empty before).service.processes[j]?
      = some ⟨settings', .starting⟩)
    (hsame : settings.SameWallet settings') (actions : List DeploymentAction)
    (hagain : ∀ input, .serve (.boot j input) ∈ actions → input.Again settings' m watch) :
    let s := run (Deployment.act bip44) .empty (before ++ actions)
    s.service.processes[j]?
        = some ⟨settings', rebootPhase settings' m watch (actions.countP (·.boots j))⟩ ∧
      ∀ first input after, actions = first ++ .serve (.boot j input) :: after →
        ∃ processes, (run (Deployment.act bip44) .empty (before ++ first)).act bip44
            (.serve (.boot j input))
          = { run (Deployment.act bip44) .empty (before ++ first) with
              service := { (run (Deployment.act bip44) .empty (before ++ first)).service with
                processes } } := by
  have hstart : Rebooting settings settings' m watch i j 0
      (run (Deployment.act bip44) .empty before).service :=
    ⟨settled_run bip44 before, hfirst, hlater⟩
  constructor
  · rw [run_append]
    exact (hstart.run hsame actions hagain).later
  · intro first input after heq
    have hmem : .serve (.boot j input) ∈ actions := by
      rw [heq]
      exact List.mem_append_right _ List.mem_cons_self
    rw [run_append]
    set t := run (Deployment.act bip44) (run (Deployment.act bip44) .empty before) first with ht
    have hthere : Rebooting settings settings' m watch i j _ t.service :=
      hstart.run hsame first (fun input' hmem' =>
        hagain input' (heq ▸ List.mem_append_left _ hmem'))
    have hboot : t.service.act bip44 (.boot j input) = _ :=
      hthere.boot hsame (hagain input hmem)
    exact ⟨_, congrArg (fun service => { t with service }) hboot⟩

/-! ## A second start with a longer range -/

/-- The first process is up and a second one with a longer range has been started. -/
def grownStart : List DeploymentAction :=
  (rangeStart 0 1 ++ [ServiceAction.start (rangeSettings 3)]).map .serve

theorem reboot_unchanged_grown :
    (run (Deployment.act dustKeys) .empty
      (grownStart ++ List.replicate 3 (.serve (.boot 1 rangeBoot)))).service.processes[1]?
        = some (rangeProcess false 3) := by
  have hsame : (rangeSettings 1).SameWallet (rangeSettings 3) := ⟨rfl, rfl, id, by decide⟩
  have hagain : rangeBoot.Again (rangeSettings 3) dustMaterial (rangeWatch true) :=
    ⟨rfl, rfl, rfl, rfl, rfl⟩
  refine (reboot_unchanged dustKeys grownStart (rangeSettings 1) (rangeSettings 3) dustMaterial
    (rangeWatch true) 0 1 rfl rfl hsame (List.replicate 3 (.serve (.boot 1 rangeBoot))) ?_).1
  intro input hmem
  cases List.eq_of_mem_replicate hmem
  exact hagain

end V4vappDash
