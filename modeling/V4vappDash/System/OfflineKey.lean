import V4vappDash.System.Deployment
import V4vappDash.System.KeyLock
import V4vappDash.Wallet.DeriveXpub

set_option autoImplicit false

/-! # The addresses of the offline key

Whoever has the mnemonic gets a list of the first receive addresses from the offline command, to
compare it with a wallet. Where the requests of a network load what the command has printed, its
list is what the service hands out: every stored invoice with an index below the length of the
list is on it, with its path and its address (`printed_addresses_stored`).
-/

namespace V4vappDash

open Machine

/-- The address and the path are the ones at the index of the document under this key. -/
def DerivedAs (bip44 : Bip44) (accountXpub : String) (doc : InvoiceDoc) : Prop :=
  deriveReceive bip44 accountXpub doc.network doc.derivation.index
    = .ok (doc.address, doc.derivation)

/-- A request of the network of `m` has loaded `m`, and derives with its key. -/
def RequestUses (bip44 : Bip44) (m : XpubMaterial) (r : Request) : Prop :=
  r.settings.dashNetwork = m.network →
    match r.phase with
    | .loaded material | .unused material | .priced material _ | .limited material _
    | .allocated material _ _ => material = m
    | .built doc => DerivedAs bip44 m.accountXpub doc
    | .received | .answered _ _ _ | .failed _ => True

structure OfflineInv (bip44 : Bip44) (m : XpubMaterial) (s : Service) : Prop where
  stored : ∀ id doc, s.db.invoices.lookup id = some doc → doc.network = m.network →
    DerivedAs bip44 m.accountXpub doc
  requests : ∀ (i : Nat) r, s.requests[i]? = some r → RequestUses bip44 m r
  builds : ∀ (i : Nat) r, s.requests[i]? = some r → BuildsNew r

/-- A request of the network that the payload is for has been given the payload. -/
def UsesGiven (payload : Payload) (s : Deployment) : DeploymentAction → Prop
  | .serve (.create i input) => ∀ r, s.service.requests[i]? = some r →
      r.settings.dashNetwork = payload.material.network → payload.Given r.settings input.file
  | _ => True

section Invariant

variable {bip44 : Bip44} {m : XpubMaterial}

theorem DerivedAs.sameTerms {accountXpub : String} {doc doc' : InvoiceDoc}
    (h : DerivedAs bip44 accountXpub doc) (hterms : doc.asCreated = doc'.asCreated) :
    DerivedAs bip44 accountXpub doc' := by
  have hnetwork : doc.network = doc'.network :=
    have heq := congrArg InvoiceDoc.network hterms
    heq
  have haddress : doc.address = doc'.address :=
    have heq := congrArg InvoiceDoc.address hterms
    heq
  have hderivation : doc.derivation = doc'.derivation :=
    have heq := congrArg InvoiceDoc.derivation hterms
    heq
  unfold DerivedAs at h ⊢
  rw [← hnetwork, ← haddress, ← hderivation]
  exact h

/-- A request that moves stays with the key. -/
theorem RequestUses.next {r : Request} {input : CreateInput} {db db' : Database}
    {phase : CreatePhase} (h : RequestUses bip44 m r)
    (hload : ∀ material, r.settings.dashNetwork = m.network →
      loadXpubMaterial r.settings input.file = .ok (some material) → material = m)
    (hmove : CreateMove r.settings bip44 r.body input db r.phase db' phase) :
    RequestUses bip44 m (r.next phase) := by
  obtain ⟨process, settings, body, passed, phase₀⟩ := r
  intro hnetwork
  have hthere := h hnetwork
  cases hmove with
  | load hl => exact hload _ hnetwork hl
  | unused | price | limit | allocate => exact hthere
  | @build material pricing index address derivation hderive =>
      obtain rfl : material = m := hthere
      obtain ⟨-, hindex⟩ := deriveReceive_ok hderive
      show deriveReceive bip44 material.accountXpub settings.dashNetwork derivation.index
        = .ok (address, derivation)
      rw [hindex]
      exact hderive
  | found | exhausted | insert | stay | fail => trivial

/-- **The step lemma for the service.** -/
theorem OfflineInv.serve {s : Service} {a : ServiceAction} (h : OfflineInv bip44 m s)
    (hload : ∀ i input r material, a = .create i input → s.requests[i]? = some r →
      r.settings.dashNetwork = m.network →
      loadXpubMaterial r.settings input.file = .ok (some material) → material = m) :
    OfflineInv bip44 m (s.act bip44 a) := by
  have hmove := s.act_move bip44 a
  have hbuilds := hmove.buildsNew h.builds
  generalize s.act bip44 a = s' at hmove hbuilds ⊢
  refine ⟨?_, ?_, hbuilds⟩
  · intro id doc hdoc hnetwork
    -- an invoice that was not there before was built by a request
    rcases hmove.stored_or_built hdoc with hold | ⟨n, r, hr, hbuilt⟩
    · exact h.stored id doc hold hnetwork
    · obtain ⟨pricing, address, derivation, now, rfl⟩ := h.builds n r hr doc hbuilt
      have hderived := h.requests n r hr hnetwork
      rw [hbuilt] at hderived
      exact hderived
  · intro j q hq
    cases hmove with
    | idle | start | boot _ _ => exact h.requests j q hq
    | post hp =>
        rcases getElem?_concat_cases hq with ⟨-, rfl⟩ | hq
        · exact fun _ => trivial
        · exact h.requests j q hq
    | @create i input r db phase hr hcreate =>
        rcases getElem?_set_cases hq with ⟨-, rfl⟩ | ⟨-, hq⟩
        · exact (h.requests i r hr).next (fun material => hload i input r material rfl hr) hcreate
        · exact h.requests j q hq
    | raise hr hfin | lose hr hphase hcreate =>
        rcases getElem?_set_cases hq with ⟨-, rfl⟩ | ⟨-, hq⟩
        · exact fun _ => trivial
        · exact h.requests j q hq

/-- **The step lemma.** -/
theorem OfflineInv.act {payload : Payload} {s : Deployment} {a : DeploymentAction}
    (h : OfflineInv bip44 payload.material s.service) (hgiven : UsesGiven payload s a) :
    OfflineInv bip44 payload.material (s.act bip44 a).service := by
  have hmove := Deployment.act_move bip44 s a
  generalize (s.act bip44 a).service = t at hmove ⊢
  cases hmove with
  | serve a =>
      refine h.serve ?_
      rintro i input r material rfl hr hnetwork hload
      exact (hgiven r hr hnetwork).load hnetwork hload
  | update ha hterms =>
      refine ⟨?_, h.requests, h.builds⟩
      intro id doc hdoc hnetwork
      obtain ⟨old, hold, hsame⟩ := hterms.lookup hdoc
      have hnetwork_old : old.network = payload.material.network :=
        have heq := congrArg InvoiceDoc.network hsame
        heq.trans hnetwork
      exact (h.stored id old hold hnetwork_old).sameTerms hsame

theorem offlineInv_empty : OfflineInv bip44 m Deployment.empty.service := by
  constructor
  · intro id doc hdoc
    cases hdoc
  · intro i r hr
    cases hr
  · intro i r hr
    cases hr

end Invariant

/-- **The printed addresses are the ones handed out.** Whatever is printed for a mnemonic: in every
run in which the requests of the network have been given it, every stored invoice of the network
with an index below the number of printed addresses is on the list. -/
theorem printed_addresses_stored {Seed : Type} (bip39 : Bip39 Seed) (bip44 : Bip44)
    (args : DeriveXpubArgs) (line : String) (payload : Payload)
    (hprinted : deriveXpub bip39 bip44 args line = .printed payload)
    (actions : List DeploymentAction)
    (hgiven : Along (Deployment.act bip44) (UsesGiven payload) .empty actions)
    (id : ObjectId) (doc : InvoiceDoc)
    (hdoc : (run (Deployment.act bip44) .empty actions).service.db.invoices.lookup id = some doc)
    (hnetwork : doc.network = args.network) (hindex : doc.derivation.index < args.addresses) :
    ⟨doc.derivation.index, doc.derivation.path, doc.address⟩ ∈ payload.receiveAddresses := by
  obtain ⟨hfor, hlisted⟩ := deriveXpub_printed hprinted
  have hinv : OfflineInv bip44 payload.material
      (run (Deployment.act bip44) .empty actions).service :=
    hgiven.invariant (P := fun s => OfflineInv bip44 payload.material s.service)
      (fun s a hs ha => hs.act ha) offlineInv_empty
  have hderived : DerivedAs bip44 payload.material.accountXpub doc :=
    hinv.stored id doc hdoc (hnetwork.trans hfor.symm)
  unfold DerivedAs at hderived
  rw [hnetwork] at hderived
  -- nothing is derived at a negative index
  obtain ⟨n, hn⟩ : ∃ n : Nat, doc.derivation.index = n := by
    have hnonneg := deriveReceive_nonneg hderived
    exact ⟨doc.derivation.index.toNat, by omega⟩
  rw [hn] at hderived ⊢
  exact mem_receiveAddresses hlisted (by omega) hderived

/-! ## A printed key that is handed to the server -/

/-- A library that knows one mnemonic. -/
def sampleBip39 : Bip39 String where
  isValid mnemonic := mnemonic = "abandon about"
  seed mnemonic := mnemonic
  fingerPrint _ := "aabbccdd"
  accountXpub _ _ := "tpubA"

def printedArgs : DeriveXpubArgs :=
  { network := .regtest, mnemonic := some " abandon  about ", addresses := 1 }

def printedPayload : Payload where
  material := fileMaterial "tpubA"
  receiveAddresses := [⟨0, "m/44'/1'/0'/0/0", "tpubA/0"⟩]

theorem along_fileActions : Along (Deployment.act fileKeys) (UsesGiven printedPayload) .empty
    (fileActions.map .serve) := by
  rw [Deployment.along_serve]
  refine along_append.mpr ⟨⟨trivial, trivial, trivial, trivial, trivial, trivial, trivial⟩, ?_⟩
  change Along _ _ (run (Service.act fileKeys) Service.empty fileStart) _
  rw [run_fileStart]
  apply along_replicate
  intro k _
  obtain ⟨passed, hrun⟩ := Served.run (i := 0) (r := fileRequest) (served_file "tpubA") rfl rfl k
  rw [hrun]
  intro r hr _
  cases hr
  exact Or.inl ⟨rfl, rfl⟩

theorem printed_addresses_stored_file :
    (⟨0, "m/44'/1'/0'/0/0", "tpubA/0"⟩ : ReceiveAddress) ∈ printedPayload.receiveAddresses := by
  refine printed_addresses_stored sampleBip39 fileKeys printedArgs "" printedPayload rfl
    (fileActions.map .serve) along_fileActions 1 fileInvoice ?_ rfl (by decide)
  rw [Deployment.run_serve]
  exact lookup_fileActions

end V4vappDash
