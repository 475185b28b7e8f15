import V4vappDash.Dashd.Rpc
import V4vappDash.System.Progress
import V4vappDash.System.Visibility

set_option autoImplicit false

/-! # Outages of the node

What a tick makes of the replies of the node, through the client. Of the replies without a list of
outputs, those that the client refuses end the tick and leave no error (`outage_hidden_iff`): a
wrong password, the error page of a proxy, a node without a wallet. As long as such an outage lasts,
invoices are created and canceled, none of them is settled or expired, and the service reports that
it is well (`silent_outage`).
-/

namespace V4vappDash

open Machine

/-- How the loop reads the outputs and the transactions of the node. -/
structure TickReads where
  utxo : Json → Utxo
  transaction : List (String × Json) → Transaction

/-- The replies of the node to the calls of a tick. -/
structure TickPosts where
  listunspent : RpcPost
  gettransaction : Utxo → RpcPost

/-- The exception as the loop tells it apart. -/
def RpcFailure.exn (e : RpcFailure) : Exn :=
  if e.isDashdError then .dashdError e.str else .other e.str

/-- The node behind the client. -/
def Dashd.node (pyStr : Json → String) (reads : TickReads) (dashd : Dashd) (posts : TickPosts) :
    Node where
  listunspent := fun addresses =>
    match dashd.listunspent pyStr posts.listunspent addresses with
    | .ok items => .ok (items.map reads.utxo)
    | .error e => .error e.exn
  gettransaction := fun utxo =>
    match dashd.gettransaction pyStr (posts.gettransaction utxo) utxo.txid with
    | .ok fields => .ok (reads.transaction fields)
    | .error e => .error e.exn

/-- The loop gets a `DashdError` from `listunspent` for a reply without a list. -/
theorem node_listunspent_iff (pyStr : Json → String) (reads : TickReads) (dashd : Dashd)
    (posts : TickPosts) (addresses : List String) :
    (∃ message, (dashd.node pyStr reads posts).listunspent addresses
        = .error (.dashdError message)) ↔
      ∃ response, posts.listunspent (dashd.unspentRequest addresses) = .ok response ∧
        NoList pyStr response := by
  rw [← listResult_isDashdError pyStr "listunspent"]
  unfold Dashd.node Dashd.listunspent
  dsimp only
  cases listResult pyStr "listunspent" (posts.listunspent (dashd.unspentRequest addresses)) with
  | ok items =>
      refine iff_of_false (by rintro ⟨_, h⟩; cases h) ?_
      rintro ⟨e, h, -⟩
      cases h
  | error e =>
      unfold RpcFailure.exn
      dsimp only
      cases he : e.isDashdError with
      | true =>
          rw [if_pos rfl]
          exact iff_of_true ⟨_, rfl⟩ ⟨e, rfl, he⟩
      | false =>
          rw [if_neg nofun]
          refine iff_of_false (by rintro ⟨_, h⟩; cases h) ?_
          rintro ⟨e', h, he'⟩
          cases h
          rw [he] at he'
          cases he'

/-- What ends a tick that asks the node: what `listunspent` raises, or else no `DashdError`. -/
theorem raised_of_listunspent {settings : Settings} {input : TickInput} {w : Watch}
    (hfind : input.findError = none)
    (haddresses : batchAddresses
      (loadBatch w.invoices settings.dashWatchBatch w.watcher.lastId) ≠ []) :
    (∃ e, input.node.listunspent (batchAddresses
        (loadBatch w.invoices settings.dashWatchBatch w.watcher.lastId)) = .error e ∧
      w.raised settings input = some e) ∨
    (∃ raw, input.node.listunspent (batchAddresses
        (loadBatch w.invoices settings.dashWatchBatch w.watcher.lastId)) = .ok raw ∧
      ∀ e, w.raised settings input = some e → ∃ message, e = .other message) := by
  unfold Watch.raised askNode
  dsimp only
  rw [hfind]
  dsimp only
  rw [if_neg (by simpa using haddresses)]
  cases input.node.listunspent (batchAddresses
      (loadBatch w.invoices settings.dashWatchBatch w.watcher.lastId)) with
  | error e => exact Or.inl ⟨e, rfl, rfl⟩
  | ok raw =>
      refine Or.inr ⟨raw, rfl, ?_⟩
      intro e he
      obtain ⟨entry, -, hentry⟩ := List.exists_of_findSome?_eq_some he
      exact raisedBy_other hentry

/-- **The outages that leave no error.** In every state, for every tick that has loaded a batch with
addresses and whatever the node replies: the tick does not get through its batch and leaves no error
if and only if the request for the outputs was answered and the client refuses the answer: it is not
authorized, not JSON, an RPC error, or without a list. -/
theorem outage_hidden_iff (pyStr : Json → String) (reads : TickReads) (settings : Settings)
    (dashd : Dashd) (posts : TickPosts) (input : TickInput) (w : Watch)
    (hnode : input.node = dashd.node pyStr reads posts) (hfind : input.findError = none)
    (haddresses : batchAddresses
      (loadBatch w.invoices settings.dashWatchBatch w.watcher.lastId) ≠ []) :
    (¬ Processes settings input w ∧
        (runWatcherOnce settings input w).watcher.lastError = none) ↔
      ∃ response, posts.listunspent (dashd.unspentRequest (batchAddresses
          (loadBatch w.invoices settings.dashWatchBatch w.watcher.lastId))) = .ok response ∧
        NoList pyStr response := by
  rw [← node_listunspent_iff pyStr reads, ← hnode, processes_iff, runWatcherOnce_lastError]
  rcases raised_of_listunspent hfind haddresses with ⟨e, hask, hraised⟩ | ⟨raw, hask, hraised⟩
  · rw [hask, hraised]
    cases e with
    | dashdError message => exact iff_of_true ⟨nofun, rfl⟩ ⟨message, rfl⟩
    | other message => exact iff_of_false (by rintro ⟨-, h⟩; cases h) (by rintro ⟨_, h⟩; cases h)
  · rw [hask]
    refine iff_of_false ?_ (by rintro ⟨_, h⟩; cases h)
    rintro ⟨hfailed, hlast⟩
    cases hw : w.raised settings input with
    | none => exact hfailed hw
    | some e =>
        obtain ⟨message, rfl⟩ := hraised e hw
        rw [hw] at hlast
        cases hlast

/-- What dashd says when it runs without a wallet. -/
def disabledReply : RpcResponse where
  statusCode := 404
  body := some (.obj [("result", .null),
    ("error", .obj [("code", .number (.int (-32601))), ("message", .str "Method not found")]),
    ("id", .str "v4vapp-dash")])

theorem noList_disabledReply (pyStr : Json → String) : NoList pyStr disabledReply :=
  Or.inl (.error rfl rfl)

def disabledPosts : TickPosts where
  listunspent := fun _ => .ok disabledReply
  gettransaction := fun _ _ => .ok disabledReply

def sampleReads : TickReads where
  utxo := fun _ => sampleUtxo
  transaction := fun _ => {}

def disabledInput : TickInput where
  node := ({} : Settings).dashd.node (fun _ => "") sampleReads disabledPosts
  now := 0

/-- A tick that has an invoice to look after, and a node without a wallet. -/
theorem outage_hidden_disabled :
    ¬ Processes {} disabledInput ⟨twoInvoices, {}⟩ ∧
      (runWatcherOnce {} disabledInput ⟨twoInvoices, {}⟩).watcher.lastError = none :=
  (outage_hidden_iff (fun _ => "") sampleReads {} ({} : Settings).dashd disabledPosts disabledInput
    ⟨twoInvoices, {}⟩ rfl rfl (by decide)).mpr ⟨disabledReply, rfl, noList_disabledReply _⟩

/-! ## A start without a wallet -/

/-- A bootstrap gives up on the wallet, before it has changed anything, exactly when `listwallets`
says so. -/
theorem bootstrap_walletDisabled_iff (wallet : String) (rpc : BootRpc) (node : WatchNode)
    (network : Network) (accountXpub fingerprint : String) (rangeEnd : Int) :
    let result := bootstrapWatchWallet wallet rpc node network accountXpub fingerprint rangeEnd
    (result.2 = .ok .walletDisabled ↔
        ∃ message, rpc.listwallets = .error (.walletDisabled message)) ∧
      (result.2 = .ok .walletDisabled → result.1 = node) := by
  intro result
  show (result.2 = _ ↔ _) ∧ (result.2 = _ → result.1 = node)
  unfold result bootstrapWatchWallet
  cases rpc.listwallets with
  | error e =>
      cases e with
      | walletDisabled message => exact ⟨iff_of_true rfl ⟨message, rfl⟩, fun _ => rfl⟩
      | other message => exact ⟨iff_of_false nofun (by rintro ⟨_, h⟩; cases h), nofun⟩
  | ok u =>
      dsimp only
      suffices hne : _ ≠ Except.ok BootstrapResult.walletDisabled from
        ⟨iff_of_false hne (by rintro ⟨_, h⟩; cases h), fun h => absurd h hne⟩
      cases ensureWallet wallet rpc node with
      | error message => exact nofun
      | ok r =>
          dsimp only
          cases watchDescriptors rpc network accountXpub fingerprint with
          | error message => exact nofun
          | ok descs =>
              dsimp only
              split_ifs
              · split <;> exact nofun
              · exact nofun

/-- **Starting without a wallet.** Whatever the node replies: a process with key material and an RPC
password comes up without a watch wallet if and only if the node has answered `getblockchaininfo`
with an object and `listwallets` with an error that says that it runs without a wallet. It has then
changed nothing on the node. -/
theorem starts_without_wallet_iff (pyStr : Json → String) (settings : Settings) (file : KeyFile)
    (now : Datetime) (post : RpcPost) (rest : BootRpc) (db : Database) (node : WatchNode)
    (m : XpubMaterial)
    (hrpc : rpcConfigured settings.dashRpcPassword settings.dashRpcUrl = true) :
    let step := bootStep settings ⟨file, now, settings.dashd.bootRpc pyStr post rest⟩ db node
      (.ensured (some m))
    (step.2.2 = .serving (some m) (some .walletDisabled) ↔
      (∃ fields, settings.dashd.getblockchaininfo pyStr post = .ok fields) ∧
        ∃ response, post ⟨settings.dashd.nodeUrl, "listwallets", []⟩ = .ok response ∧
          Disabled pyStr "listwallets" response) ∧
    (step.2.2 = .serving (some m) (some .walletDisabled) → step.2.1 = node) := by
  intro step
  let rpc := settings.dashd.bootRpc pyStr post rest
  have hstep : step = (db, bootDashd settings rpc node (some m)) := rfl
  have hlist := bootRpc_listwallets_iff pyStr settings.dashd post rest
  have hinfo : (∃ fields, settings.dashd.getblockchaininfo pyStr post = .ok fields) ↔
      rpc.getblockchaininfo = .ok () := by
    show _ ↔ (settings.dashd.bootRpc pyStr post rest).getblockchaininfo = .ok ()
    unfold Dashd.bootRpc
    dsimp only
    cases settings.dashd.getblockchaininfo pyStr post with
    | ok fields => exact iff_of_true ⟨fields, rfl⟩ rfl
    | error e => exact iff_of_false (by rintro ⟨_, h⟩; cases h) nofun
  obtain ⟨hboot, hsame⟩ := bootstrap_walletDisabled_iff settings.dashRpcWallet rpc node
    settings.dashNetwork m.accountXpub m.masterFingerprint settings.dashDescriptorRangeEnd
  rw [hinfo, ← hlist, ← hboot, hstep]
  unfold bootDashd
  rw [hrpc]
  simp only [Bool.not_true, Bool.false_eq_true, if_false]
  cases rpc.getblockchaininfo with
  | error message => exact ⟨iff_of_false nofun (fun h => nomatch h.1), nofun⟩
  | ok u =>
      dsimp only
      generalize bootstrapWatchWallet settings.dashRpcWallet rpc node settings.dashNetwork
        m.accountXpub m.masterFingerprint settings.dashDescriptorRangeEnd = result at hsame
      obtain ⟨node', outcome⟩ := result
      cases outcome with
      | error message => exact ⟨iff_of_false nofun (fun h => nomatch h.2), nofun⟩
      | ok outcome =>
          constructor
          · constructor
            · rintro h
              cases h
              exact ⟨rfl, rfl⟩
            · rintro ⟨-, h⟩
              cases h
              rfl
          · intro h
            cases h
            exact hsame rfl

/-- A node without a wallet. -/
def walletlessNode : RpcPost := fun request =>
  if request.method ∈ walletMethods then .ok disabledReply
  else .ok ⟨200, some (.obj [("result", .obj []), ("error", .null), ("id", .str "v4vapp-dash")])⟩

def walletlessSettings : Settings := { dustSettings with dashRpcPassword := "secret" }

theorem starts_without_wallet_walletless :
    (bootStep walletlessSettings ⟨.missing, 0, walletlessSettings.dashd.bootRpc (fun _ => "")
      walletlessNode { getdescriptorinfo := fun _ => .ok {} }⟩ Service.empty.db Service.empty.node
      (.ensured (some dustMaterial))).2.2 = .serving (some dustMaterial) (some .walletDisabled) :=
  (starts_without_wallet_iff (fun _ => "") walletlessSettings .missing 0 walletlessNode
    { getdescriptorinfo := fun _ => .ok {} } Service.empty.db Service.empty.node dustMaterial
    (by decide)).1.mpr ⟨⟨_, rfl⟩, disabledReply, rfl, .intro (by decide) rfl rfl rfl⟩

/-! ## While an outage lasts -/

/-- What holds of the documents that are built, in the store and in the hands of requests. -/
structure Service.Docs (P : InvoiceDoc → Prop) (t : Service) : Prop where
  stored : ∀ id doc, t.db.invoices.lookup id = some doc → P doc
  built : ∀ r ∈ t.requests, ∀ doc, r.phase = .built doc → P doc

/-- Boots and requests keep what holds of every new document. -/
theorem ServiceMove.docs {bip44 : Bip44} {P : InvoiceDoc → Prop} {t t' : Service} {a : ServiceAction}
    (hmove : ServiceMove bip44 t a t') (h : t.Docs P)
    (hnew : ∀ settings body pricing xpub index address derivation now,
      deriveReceive bip44 xpub settings.dashNetwork index = .ok (address, derivation) →
        P (newInvoice settings body pricing address derivation now)) : t'.Docs P := by
  have hset : ∀ (i : Nat) (r : Request) (phase : CreatePhase),
      (∀ doc, phase = .built doc → P doc) →
      ∀ r' ∈ t.requests.set i (r.next phase), ∀ doc, r'.phase = .built doc → P doc := by
    intro i r phase hphase r' hr'
    rcases List.mem_or_eq_of_mem_set hr' with hold | rfl
    · exact h.built r' hold
    · exact hphase
  constructor
  · intro id doc hdoc
    rcases hmove.stored_or_built hdoc with hold | ⟨i, r, hr, hbuilt⟩
    · exact h.stored id doc hold
    · exact h.built r (List.mem_of_getElem? hr) doc hbuilt
  · cases hmove with
    | idle | start | boot => exact h.built
    | post hp =>
        intro r hr doc hphase
        rcases List.mem_append.mp hr with hr | hr
        · exact h.built r hr doc hphase
        · rw [List.mem_singleton.mp hr] at hphase
          cases hphase
    | raise hr hfin | lose hr hphase hcreate =>
        refine hset _ _ _ ?_
        intro doc hphase
        cases hphase
    | @create i input r db phase hr hcreate =>
        refine hset i r phase ?_
        rintro doc rfl
        generalize r.phase = before at hcreate
        cases hcreate with
        | build hderive => exact hnew _ _ _ _ _ _ _ _ hderive

/-- Nothing but its creation and perhaps a cancel has written the document. -/
inductive InvoiceDoc.Untouched (doc : InvoiceDoc) : Prop
  | created (h : doc = doc.asCreated)
  | canceled (now : Datetime) (h : doc = cancelDoc now doc.asCreated)

/-- Whoever asks for the outputs in this step gets a reply without a list. -/
def Outage (pyStr : Json → String) (reads : TickReads) (_s : Deployment) :
    DeploymentAction → Prop
  | .watch _ input => input.findError = none ∧ ∃ dashd posts,
      input.node = Dashd.node pyStr reads dashd posts ∧ ∀ addresses, ∃ response,
        posts.listunspent (dashd.unspentRequest addresses) = .ok response ∧
          NoList pyStr response
  | _ => True

/-- The tick has nothing to decide. -/
inductive TickPhase.Quiet : TickPhase → Prop
  | idle : Quiet .idle
  | loaded {batch : List (ObjectId × InvoiceDoc)} (h : ∀ e ∈ batch, e.2.address ≠ "") :
      Quiet (.loaded batch)
  | finished {now : Datetime} {utxosFor : String → List Utxo} :
      Quiet (.applying now utxosFor [])

structure Quiet (s : Deployment) : Prop where
  docs : s.service.Docs (fun doc => doc.address ≠ "" ∧ doc.Untouched)
  watchers : ∀ i, (s.watchers i).1.lastError = none ∧ (s.watchers i).2.Quiet

section Quiet

/-- A step of a watcher that gets no list writes nothing and leaves no error. -/
theorem watchStep_quiet (settings : Settings) {input : TickInput} {w : Watch} {phase : TickPhase}
    (hfind : input.findError = none)
    (hlist : ∀ addresses, ∃ message, input.node.listunspent addresses
      = .error (.dashdError message))
    (hdocs : ∀ id doc, w.invoices.lookup id = some doc → doc.address ≠ "")
    (hlast : w.watcher.lastError = none) (hphase : phase.Quiet) :
    (watchStep settings input w phase).1.invoices = w.invoices ∧
      (watchStep settings input w phase).1.watcher.lastError = none ∧
      (watchStep settings input w phase).2.Quiet := by
  cases hphase with
  | idle =>
      unfold watchStep
      rw [hfind]
      refine ⟨rfl, hlast, .loaded ?_⟩
      intro e he
      exact hdocs e.1 e.2 (mem_loadBatch he).1
  | @loaded batch hbatch =>
      cases batch with
      | nil => exact ⟨rfl, hlast, .finished⟩
      | cons e rest =>
          -- the batch has an address, so the node is asked
          have hne : batchAddresses (e :: rest) ≠ [] := by
            refine List.ne_nil_of_mem (a := e.2.address) ?_
            unfold batchAddresses
            rw [List.mem_filter]
            exact ⟨List.mem_map_of_mem List.mem_cons_self,
              by simpa using hbatch e List.mem_cons_self⟩
          obtain ⟨message, hask⟩ := hlist (batchAddresses (e :: rest))
          unfold watchStep askNode
          dsimp only
          rw [if_neg (by simpa using hne), hask]
          exact ⟨rfl, rfl, .idle⟩
  | finished => exact ⟨rfl, rfl, .idle⟩

theorem InvoiceDoc.Untouched.cancelDoc {doc : InvoiceDoc} (h : doc.Untouched) (now : Datetime)
    (hc : cancelable doc = true) : (cancelDoc now doc).Untouched := by
  cases h with
  | created h => exact .canceled now (congrArg (V4vappDash.cancelDoc now) h)
  | canceled t h =>
      rw [h] at hc
      cases hc

variable {bip44 : Bip44} {s : Deployment}

theorem Quiet.act {pyStr : Json → String} {reads : TickReads}
    (hbip44 : ∀ xpub coin chain index address, bip44 xpub coin chain index = .ok address →
      address ≠ "") (h : Quiet s) (a : DeploymentAction) (houtage : Outage pyStr reads s a) :
    Quiet (s.act bip44 a) := by
  cases a with
  | serve a =>
      refine ⟨(Service.act_move bip44 s.service a).docs h.docs ?_, h.watchers⟩
      intro settings body pricing xpub index address derivation now hderive
      exact ⟨hbip44 _ _ _ _ _ (deriveReceive_ok hderive).1, .created rfl⟩
  | cancel id now =>
      refine ⟨⟨?_, h.docs.built⟩, h.watchers⟩
      intro j doc hdoc
      rcases Collection.lookup_updateIf_cases hdoc with hold | ⟨rfl, old, hold, hc, rfl⟩
      · exact h.docs.stored j doc hold
      · obtain ⟨haddress, huntouched⟩ := h.docs.stored j old hold
        exact ⟨haddress, huntouched.cancelDoc now hc⟩
  | watch i input =>
      cases hruns : s.runs i with
      | none =>
          rw [Deployment.act_watch_none hruns]
          exact h
      | some settings =>
          obtain ⟨hfind, dashd, posts, hnode, hreplies⟩ := houtage
          have hlist : ∀ addresses, ∃ message, input.node.listunspent addresses
              = .error (.dashdError message) := by
            intro addresses
            rw [hnode]
            exact (node_listunspent_iff pyStr reads dashd posts addresses).mpr
              (hreplies addresses)
          obtain ⟨hlast, hphase⟩ := h.watchers i
          have hdocs : ∀ id doc, (s.watch i).invoices.lookup id = some doc → doc.address ≠ "" :=
            fun id doc hdoc => (h.docs.stored id doc hdoc).1
          obtain ⟨hinvoices, hlast', hphase'⟩ :=
            watchStep_quiet settings hfind hlist hdocs hlast hphase
          rw [Deployment.act_watch hruns, hinvoices]
          refine ⟨⟨h.docs.stored, h.docs.built⟩, ?_⟩
          intro j
          dsimp only
          by_cases hj : j = i
          · subst hj
            rw [Function.update_self]
            exact ⟨hlast', hphase'⟩
          · rw [Function.update_of_ne hj]
            exact h.watchers j

end Quiet

theorem quiet_empty : Quiet .empty :=
  ⟨⟨fun _ _ hdoc => (by cases hdoc), fun _ hr => (by cases hr)⟩, fun _ => ⟨rfl, .idle⟩⟩

/-- **A silent outage.** In every run of the deployment in which no watcher that asks for outputs
gets a list of them, because the client refuses each reply: every stored invoice is as it was
created or as a cancel has left it, no watcher has an error to show, and so the service is well as
long as its database is up and its node answers `getblockchaininfo`. -/
theorem silent_outage (pyStr : Json → String) (reads : TickReads) (bip44 : Bip44)
    (hbip44 : ∀ xpub coin chain index address, bip44 xpub coin chain index = .ok address →
      address ≠ "")
    (actions : List DeploymentAction)
    (houtage : Along (Deployment.act bip44) (Outage pyStr reads) .empty actions) :
    let s := run (Deployment.act bip44) .empty actions
    (∀ id doc, s.service.db.invoices.lookup id = some doc → doc.Untouched) ∧
      ∀ i settings (h : HealthInput), h.Up → h.watcher = some (s.watchers i).1 →
        (s.watchers i).1.lastError = none ∧ (health settings h).status = .ok := by
  intro s
  have hquiet : Quiet s := houtage.invariant (fun _ a hs ha => hs.act hbip44 a ha) quiet_empty
  refine ⟨fun id doc hdoc => (hquiet.docs.stored id doc hdoc).2, ?_⟩
  intro i settings h hup hwatcher
  have hlast := (hquiet.watchers i).1
  refine ⟨hlast, ?_⟩
  rw [hup.status, hwatcher, Option.any_some, hlast]
  rfl

/-- A process starts on a node without a wallet, creates an invoice, watches it for a tick and
cancels it. -/
def outageActions : List DeploymentAction :=
  .serve (.start walletlessSettings) ::
    List.replicate 4 (.serve (.boot 0
      { file := .missing
        now := 0
        rpc :=
          { listwallets := .error (.walletDisabled "Method not found")
            getdescriptorinfo := fun _ => .ok {} } })) ++
    .serve (.post 0 dustBody) :: List.replicate 7 (.serve (.create 0 dustInput)) ++
    List.replicate 2 (.watch 0 disabledInput) ++ [.cancel 1 0]

theorem outage_outageActions :
    Along (Deployment.act dustKeys) (Outage (fun _ => "") sampleReads) .empty outageActions := by
  refine along_of_mem ?_
  intro a ha t
  cases a with
  | serve _ | cancel _ _ => trivial
  | watch i input =>
      obtain rfl : input = disabledInput := by
        unfold outageActions at ha
        simp at ha
        exact ha.2
      refine ⟨rfl, ({} : Settings).dashd, disabledPosts, rfl, ?_⟩
      exact fun _ => ⟨disabledReply, rfl, noList_disabledReply _⟩

theorem silent_outage_disabled :
    let s := run (Deployment.act dustKeys) .empty outageActions
    (∀ id doc, s.service.db.invoices.lookup id = some doc → doc.Untouched) ∧
      (health {} (upHealth (s.watchers 0).1)).status = .ok := by
  have hkeys : ∀ xpub coin chain index address,
      dustKeys xpub coin chain index = .ok address → address ≠ "" := by
    rintro xpub coin chain index address h rfl
    have hlength := congrArg String.length (Except.ok.inj h)
    simp at hlength
  obtain ⟨hdocs, hwell⟩ := silent_outage (fun _ => "") sampleReads dustKeys hkeys outageActions
    outage_outageActions
  exact ⟨hdocs, (hwell 0 {} (upHealth _) (up_upHealth _) rfl).2⟩

end V4vappDash
