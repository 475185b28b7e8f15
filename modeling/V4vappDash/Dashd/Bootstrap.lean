import V4vappDash.Keys

set_option autoImplicit false

/-! # The watch wallet

The watch-only wallet of dashd and its bootstrap (`dashd/bootstrap.py`,
`wallet/descriptors.py`). The node keeps the import requests that succeeded and lists their
descriptors; which calls of a boot fail, and what `getdescriptorinfo` answers, is an input.
-/

namespace V4vappDash

/-! ## Descriptors -/

/-- BIP32 origin after the master fingerprint: 44h/<coin>h/0h. -/
def originPath (network : Network) : String :=
  "44h/" ++ toString (COIN_TYPE network) ++ "h/0h"

/-- Unchecksummed pkh descriptor with origin. -/
def rawDescriptor (fingerprint accountXpub : String) (network : Network) (change : Bool) :
    Except String String :=
  -- `fingerprint.lower()`: the descriptor does not depend on its case
  let fp := lower fingerprint
  if fp.length ≠ 8 then .error "master fingerprint must be 8 hex characters"
  else
    let branch := if change then "1" else "0"
    .ok ("pkh([" ++ fp ++ "/" ++ originPath network ++ "]" ++ accountXpub ++ "/" ++ branch ++ "/*)")

/-- An answer of `getdescriptorinfo`, with the fields that are strings. -/
structure DescriptorInfo where
  descriptor : Option String := none
  checksum : Option String := none

def checksummedDescriptor (info : DescriptorInfo) (raw : String) : Except String String :=
  match info.descriptor.filter (fun desc => desc.toList.contains '#'),
    info.checksum.filter (fun checksum => checksum ≠ "") with
  | some desc, _ => .ok desc
  | none, some checksum => .ok (raw ++ "#" ++ checksum)
  | none, none => .error "getdescriptorinfo did not return a checksum"

structure ImportRequest where
  desc : String
  timestamp : String
  active : Bool
  internal : Bool
  range : Int × Int
  deriving DecidableEq

def importRequest (desc : String) (internal : Bool) (rangeEnd : Int) : ImportRequest where
  desc := desc
  timestamp := "now"
  active := true
  internal := internal
  range := (0, rangeEnd)

/-! ## The node -/

/-- The wallets of a node, and what has been imported into each. -/
structure WatchNode where
  wallets : List String
  imported : String → List ImportRequest

/-- An index is inside a range imported for a descriptor. -/
def WatchNode.Watches (node : WatchNode) (wallet desc : String) (index : Int) : Prop :=
  ∃ request ∈ node.imported wallet, request.desc = desc ∧
    request.range.1 ≤ index ∧ index ≤ request.range.2

instance (node : WatchNode) (wallet desc : String) (index : Int) :
    Decidable (node.Watches wallet desc index) :=
  inferInstanceAs (Decidable (∃ request ∈ node.imported wallet, request.desc = desc ∧
    request.range.1 ≤ index ∧ index ≤ request.range.2))

inductive RpcError
  | walletDisabled (message : String)
  | other (message : String)

/-- How the calls of a boot turn out. -/
structure BootRpc where
  getblockchaininfo : Except String Unit := .ok ()
  listwallets : Except RpcError Unit := .ok ()
  createWatchWallet : Except String Unit := .ok ()
  getdescriptorinfo : String → Except String DescriptorInfo
  listdescriptors : Except String Unit := .ok ()
  /-- The error of each import request that fails, unless the whole call does. -/
  importdescriptors : Except String (ImportRequest → Option String) := .ok (fun _ => none)

/-! ## Bootstrap -/

/-- The result of a bootstrap with status `ok`. -/
structure WatchWallet where
  wallet : String
  created : Bool
  imported : Bool
  receiveDesc : String
  changeDesc : String
  deriving DecidableEq

inductive BootstrapResult
  | walletDisabled
  | ok (watch : WatchWallet)
  deriving DecidableEq

section Bootstrap

variable (wallet : String) (rpc : BootRpc) (node : WatchNode)

/-- Create the wallet unless the node has it; the flag is `created`. -/
def ensureWallet : Except String (WatchNode × Bool) :=
  if wallet ∈ node.wallets then .ok (node, false)
  else do
    rpc.createWatchWallet
    return ({ node with wallets := node.wallets ++ [wallet] }, true)

/-- The receive and the change descriptor, with checksums. -/
def watchDescriptors (network : Network) (accountXpub fingerprint : String) :
    Except String (String × String) := do
  let recvRaw ← rawDescriptor fingerprint accountXpub network false
  let changeRaw ← rawDescriptor fingerprint accountXpub network true
  let recvInfo ← rpc.getdescriptorinfo recvRaw
  let changeInfo ← rpc.getdescriptorinfo changeRaw
  let recvDesc ← checksummedDescriptor recvInfo recvRaw
  let changeDesc ← checksummedDescriptor changeInfo changeRaw
  return (recvDesc, changeDesc)

/-- `_existing_descs`: nothing exists when the call fails. -/
def existingDescs : List String :=
  match rpc.listdescriptors with
  | .error _ => []
  | .ok () => (node.imported wallet).map ImportRequest.desc

/-- The descriptors are compared as strings: a change of the range alone needs no import. -/
def needImport (recvDesc changeDesc : String) (existing : List String) : Bool :=
  recvDesc ∉ existing || changeDesc ∉ existing

/-- `importdescriptors` and `_raise_if_import_failed`. What succeeded stays imported. -/
def importDescriptors (requests : List ImportRequest) : WatchNode × Except String Unit :=
  match rpc.importdescriptors with
  | .error message => (node, .error message)
  | .ok rejects =>
      let imported := node.imported wallet ++ requests.filter (fun r => (rejects r).isNone)
      let node' := { node with imported := Function.update node.imported wallet imported }
      match requests.findSome? rejects with
      -- the requests that were accepted stay, although the boot fails
      | some error => (node', .error ("importdescriptors failed: " ++ error))
      | none => (node', .ok ())

/-- Ensure that the watch wallet exists and has the receive and change descriptors. -/
def bootstrapWatchWallet (network : Network) (accountXpub fingerprint : String)
    (rangeEnd : Int) : WatchNode × Except String BootstrapResult :=
  match rpc.listwallets with
  | .error (.walletDisabled _) => (node, .ok .walletDisabled)
  | .error (.other message) => (node, .error message)
  | .ok () =>
      match ensureWallet wallet rpc node with
      | .error message => (node, .error message)
      | .ok (node', created) =>
          match watchDescriptors rpc network accountXpub fingerprint with
          | .error message => (node', .error message)
          | .ok (recvDesc, changeDesc) =>
              if needImport recvDesc changeDesc (existingDescs wallet rpc node') then
                match importDescriptors wallet rpc node'
                  [importRequest recvDesc false rangeEnd, importRequest changeDesc true rangeEnd]
                with
                | (node'', .error message) => (node'', .error message)
                | (node'', .ok ()) =>
                    (node'', .ok (.ok ⟨wallet, created, true, recvDesc, changeDesc⟩))
              else (node', .ok (.ok ⟨wallet, created, false, recvDesc, changeDesc⟩))

end Bootstrap

/-! ## What a bootstrap leaves -/

/-- Nothing that was imported is lost. -/
def WatchNode.Grows (node node' : WatchNode) : Prop :=
  ∀ wallet, node.imported wallet ⊆ node'.imported wallet

theorem WatchNode.Grows.refl (node : WatchNode) : node.Grows node := fun _ => List.Subset.refl _

theorem WatchNode.Grows.trans {node node' node'' : WatchNode} (h : node.Grows node')
    (h' : node'.Grows node'') : node.Grows node'' :=
  fun wallet => List.Subset.trans (h wallet) (h' wallet)

theorem WatchNode.Watches.mono {node node' : WatchNode} {wallet desc : String} {index : Int}
    (h : node.Watches wallet desc index) (hgrows : node.Grows node') :
    node'.Watches wallet desc index := by
  obtain ⟨request, hmem, hrequest⟩ := h
  exact ⟨request, hgrows wallet hmem, hrequest⟩

section Facts

variable {wallet : String} {rpc : BootRpc} {node : WatchNode}

theorem ensureWallet_imported {node' : WatchNode} {created : Bool}
    (h : ensureWallet wallet rpc node = .ok (node', created)) :
    node'.imported = node.imported := by
  unfold ensureWallet at h
  split_ifs at h
  · cases h
    rfl
  · cases hc : rpc.createWatchWallet with
    | error message => rw [hc] at h; cases h
    | ok u => rw [hc] at h; cases h; rfl

theorem importDescriptors_grows (wallet : String) (rpc : BootRpc) (node : WatchNode)
    (requests : List ImportRequest) :
    node.Grows (importDescriptors wallet rpc node requests).1 := by
  unfold importDescriptors
  cases rpc.importdescriptors with
  | error message => exact .refl node
  | ok rejects =>
      have hgrows : ∀ w, node.imported w ⊆ Function.update node.imported wallet
          (node.imported wallet ++ requests.filter (fun r => (rejects r).isNone)) w := by
        intro w
        by_cases hw : w = wallet
        · subst hw
          rw [Function.update_self]
          exact List.subset_append_left _ _
        · rw [Function.update_of_ne hw]
          exact List.Subset.refl _
      dsimp only
      split
      · exact hgrows
      · exact hgrows

/-- An import that does not raise has imported every request. -/
theorem mem_importDescriptors {requests : List ImportRequest} {node' : WatchNode}
    (h : importDescriptors wallet rpc node requests = (node', .ok ()))
    {request : ImportRequest} (hmem : request ∈ requests) : request ∈ node'.imported wallet := by
  unfold importDescriptors at h
  cases hi : rpc.importdescriptors with
  | error message => rw [hi] at h; cases h
  | ok rejects =>
      rw [hi] at h
      dsimp only at h
      cases hf : requests.findSome? rejects with
      | some error => rw [hf] at h; cases h
      | none =>
          have hnone : rejects request = none := List.findSome?_eq_none_iff.mp hf request hmem
          rw [hf] at h
          cases h
          dsimp only
          rw [Function.update_self]
          apply List.mem_append_right
          rw [List.mem_filter]
          exact ⟨hmem, by rw [hnone]; rfl⟩

variable {network : Network} {accountXpub fingerprint : String} {rangeEnd : Int}

theorem bootstrap_grows (wallet : String) (rpc : BootRpc) (node : WatchNode) (network : Network)
    (accountXpub fingerprint : String) (rangeEnd : Int) :
    node.Grows
      (bootstrapWatchWallet wallet rpc node network accountXpub fingerprint rangeEnd).1 := by
  unfold bootstrapWatchWallet
  cases rpc.listwallets with
  | error e => cases e <;> exact .refl node
  | ok u =>
      cases he : ensureWallet wallet rpc node with
      | error message => exact .refl node
      | ok r =>
          obtain ⟨node', created⟩ := r
          have hgrows : node.Grows node' := by
            intro w
            rw [ensureWallet_imported he]
            exact List.Subset.refl _
          dsimp only
          cases watchDescriptors rpc network accountXpub fingerprint with
          | error message => exact hgrows
          | ok descs =>
              have himport := hgrows.trans (importDescriptors_grows wallet rpc node'
                [importRequest descs.1 false rangeEnd, importRequest descs.2 true rangeEnd])
              dsimp only
              split_ifs
              · split
                · next heq => rw [heq] at himport; exact himport
                · next heq => rw [heq] at himport; exact himport
              · exact hgrows

/-- **Bootstrap.** When it returns status `ok` after an import, the receive range is imported;
it imports if and only if a descriptor was not listed before. -/
theorem bootstrap_ok {watch : WatchWallet}
    (h : (bootstrapWatchWallet wallet rpc node network accountXpub fingerprint rangeEnd).2
      = .ok (.ok watch)) :
    watch.wallet = wallet ∧
    watchDescriptors rpc network accountXpub fingerprint
      = .ok (watch.receiveDesc, watch.changeDesc) ∧
    watch.imported = needImport watch.receiveDesc watch.changeDesc
      (existingDescs wallet rpc node) ∧
    (watch.imported = true → importRequest watch.receiveDesc false rangeEnd ∈
      (bootstrapWatchWallet wallet rpc node network accountXpub fingerprint rangeEnd).1.imported
        wallet) := by
  unfold bootstrapWatchWallet at h ⊢
  cases hl : rpc.listwallets with
  | error e => rw [hl] at h; cases e <;> cases h
  | ok u =>
      rw [hl] at h
      cases he : ensureWallet wallet rpc node with
      | error message => rw [he] at h; cases h
      | ok r =>
          -- a new wallet lists nothing that was not listed before
          obtain ⟨node', created⟩ := r
          have hsame : existingDescs wallet rpc node' = existingDescs wallet rpc node := by
            unfold existingDescs
            rw [ensureWallet_imported he]
          rw [he] at h
          dsimp only at h ⊢
          cases hd : watchDescriptors rpc network accountXpub fingerprint with
          | error message => rw [hd] at h; cases h
          | ok descs =>
              obtain ⟨recvDesc, changeDesc⟩ := descs
              rw [hd] at h
              dsimp only at h ⊢
              by_cases hneed :
                  needImport recvDesc changeDesc (existingDescs wallet rpc node') = true
              · rw [if_pos hneed] at h ⊢
                cases hi : importDescriptors wallet rpc node'
                    [importRequest recvDesc false rangeEnd, importRequest changeDesc true rangeEnd]
                  with
                | mk node'' result =>
                    rw [hi] at h
                    cases result with
                    | error message => cases h
                    | ok u =>
                        cases h
                        -- the import did not raise, so both requests were accepted
                        refine ⟨rfl, rfl, ?_, fun _ => mem_importDescriptors hi List.mem_cons_self⟩
                        rw [← hsame]
                        exact hneed.symm
              · rw [if_neg hneed] at h ⊢
                cases h
                refine ⟨rfl, rfl, ?_, ?_⟩
                · rw [← hsame]
                  exact (Bool.not_eq_true _).mp hneed |>.symm
                · intro habs
                  cases habs

end Facts

/-! ## A second bootstrap -/

/-- The node has the wallet, with both descriptors imported into it. -/
structure WatchNode.Holds (node : WatchNode) (wallet recvDesc changeDesc : String) : Prop where
  known : wallet ∈ node.wallets
  receive : recvDesc ∈ (node.imported wallet).map ImportRequest.desc
  change : changeDesc ∈ (node.imported wallet).map ImportRequest.desc

theorem WatchNode.Holds.mono {node node' : WatchNode} {wallet recvDesc changeDesc : String}
    (h : node.Holds wallet recvDesc changeDesc) (hwallets : node.wallets ⊆ node'.wallets)
    (hgrows : node.Grows node') : node'.Holds wallet recvDesc changeDesc where
  known := hwallets h.known
  receive := List.map_subset _ (hgrows wallet) h.receive
  change := List.map_subset _ (hgrows wallet) h.change

section Again

variable {wallet : String} {rpc : BootRpc} {node : WatchNode}

theorem ensureWallet_wallets {node' : WatchNode} {created : Bool}
    (h : ensureWallet wallet rpc node = .ok (node', created)) :
    node.wallets ⊆ node'.wallets ∧ wallet ∈ node'.wallets := by
  unfold ensureWallet at h
  split_ifs at h with hmem
  · cases h
    exact ⟨List.Subset.refl _, hmem⟩
  · cases hc : rpc.createWatchWallet with
    | error message => rw [hc] at h; cases h
    | ok u =>
        rw [hc] at h
        cases h
        exact ⟨List.subset_append_left _ _, by simp⟩

@[simp] theorem importDescriptors_wallets (wallet : String) (rpc : BootRpc) (node : WatchNode)
    (requests : List ImportRequest) :
    (importDescriptors wallet rpc node requests).1.wallets = node.wallets := by
  unfold importDescriptors
  cases rpc.importdescriptors with
  | error message => rfl
  | ok rejects =>
      dsimp only
      split <;> rfl

variable {network : Network} {accountXpub fingerprint : String} {rangeEnd : Int}

/-- A bootstrap removes no wallet. -/
theorem bootstrap_wallets (wallet : String) (rpc : BootRpc) (node : WatchNode)
    (network : Network) (accountXpub fingerprint : String) (rangeEnd : Int) :
    node.wallets ⊆
      (bootstrapWatchWallet wallet rpc node network accountXpub fingerprint rangeEnd).1.wallets := by
  unfold bootstrapWatchWallet
  cases rpc.listwallets with
  | error e => cases e <;> exact List.Subset.refl _
  | ok u =>
      cases he : ensureWallet wallet rpc node with
      | error message => exact List.Subset.refl _
      | ok r =>
          obtain ⟨node', created⟩ := r
          have hwallets := (ensureWallet_wallets he).1
          dsimp only
          cases watchDescriptors rpc network accountXpub fingerprint with
          | error message => exact hwallets
          | ok descs =>
              have himport := importDescriptors_wallets wallet rpc node'
                [importRequest descs.1 false rangeEnd, importRequest descs.2 true rangeEnd]
              dsimp only
              split_ifs
              · split
                · next heq => rw [heq] at himport; exact himport ▸ hwallets
                · next heq => rw [heq] at himport; exact himport ▸ hwallets
              · exact hwallets

theorem needImport_eq_false {recvDesc changeDesc : String} {existing : List String} :
    needImport recvDesc changeDesc existing = false ↔
      recvDesc ∈ existing ∧ changeDesc ∈ existing := by
  show (decide (recvDesc ∉ existing) || decide (changeDesc ∉ existing)) = false ↔ _
  simp only [Bool.or_eq_false_iff, decide_eq_false_iff_not, not_not]

/-- What is listed has been imported. -/
theorem existingDescs_subset :
    existingDescs wallet rpc node ⊆ (node.imported wallet).map ImportRequest.desc := by
  unfold existingDescs
  cases rpc.listdescriptors with
  | error message => exact List.nil_subset _
  | ok u => exact List.Subset.refl _

/-- After a bootstrap with status `ok` the node has what it watches with. -/
theorem bootstrap_holds {node' : WatchNode} {watch : WatchWallet}
    (h : bootstrapWatchWallet wallet rpc node network accountXpub fingerprint rangeEnd
      = (node', .ok (.ok watch))) :
    node'.Holds wallet watch.receiveDesc watch.changeDesc := by
  unfold bootstrapWatchWallet at h
  cases hl : rpc.listwallets with
  | error e => rw [hl] at h; cases e <;> cases h
  | ok u =>
      rw [hl] at h
      cases he : ensureWallet wallet rpc node with
      | error message => rw [he] at h; cases h
      | ok r =>
          obtain ⟨node₁, created⟩ := r
          have hwallet := (ensureWallet_wallets he).2
          rw [he] at h
          dsimp only at h
          cases hd : watchDescriptors rpc network accountXpub fingerprint with
          | error message => rw [hd] at h; cases h
          | ok descs =>
              obtain ⟨recvDesc, changeDesc⟩ := descs
              rw [hd] at h
              dsimp only at h
              cases hneed : needImport recvDesc changeDesc (existingDescs wallet rpc node₁) with
              | false =>
                  -- nothing was missing
                  obtain ⟨hreceive, hchange⟩ := needImport_eq_false.mp hneed
                  rw [hneed] at h
                  cases h
                  exact ⟨hwallet, existingDescs_subset hreceive, existingDescs_subset hchange⟩
              | true =>
                  rw [hneed, if_pos rfl] at h
                  have hwallets := importDescriptors_wallets wallet rpc node₁
                    [importRequest recvDesc false rangeEnd, importRequest changeDesc true rangeEnd]
                  cases hi : importDescriptors wallet rpc node₁
                      [importRequest recvDesc false rangeEnd,
                        importRequest changeDesc true rangeEnd] with
                  | mk node₂ result =>
                      rw [hi] at h hwallets
                      cases result with
                      | error message => cases h
                      | ok u =>
                          cases h
                          -- both requests were accepted
                          refine ⟨hwallets ▸ hwallet, ?_, ?_⟩
                          · exact List.mem_map_of_mem
                              (mem_importDescriptors hi List.mem_cons_self)
                          · exact List.mem_map_of_mem
                              (mem_importDescriptors hi (List.mem_cons_of_mem _ List.mem_cons_self))

/-- **A second bootstrap.** On a node that has the wallet and its descriptors, a bootstrap whose
calls are answered finds everything there and changes nothing. -/
theorem bootstrap_again {recvDesc changeDesc : String}
    (h : node.Holds wallet recvDesc changeDesc) (hwallets : rpc.listwallets = .ok ())
    (hlisted : rpc.listdescriptors = .ok ())
    (hdescs : watchDescriptors rpc network accountXpub fingerprint = .ok (recvDesc, changeDesc)) :
    bootstrapWatchWallet wallet rpc node network accountXpub fingerprint rangeEnd
      = (node, .ok (.ok ⟨wallet, false, false, recvDesc, changeDesc⟩)) := by
  have hensure : ensureWallet wallet rpc node = .ok (node, false) := if_pos h.known
  have hneed : needImport recvDesc changeDesc (existingDescs wallet rpc node) = false := by
    unfold existingDescs
    rw [hlisted]
    exact needImport_eq_false.mpr ⟨h.receive, h.change⟩
  unfold bootstrapWatchWallet
  simp only [hwallets, hensure, hdescs, hneed, Bool.false_eq_true, if_false]

end Again

end V4vappDash
