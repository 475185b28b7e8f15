import V4vappDash.Keys

set_option autoImplicit false

/-! # The offline key

`wallet/derive_xpub.py`, the command that is run where the mnemonic is: it prints the key material
of a network and the first receive addresses. What it prints is the key file of the server
(`Payload.keyFile`), which loads the material again (`Payload.Given.load`).
-/

namespace V4vappDash

/-- What `bip_utils` makes of a mnemonic. The account key is the one of account 0 of the coin. -/
structure Bip39 (Seed : Type) where
  isValid : String → Bool
  seed : String → Seed
  fingerPrint : Seed → String
  accountXpub : Seed → Bip44Coins → String

/-- `str.isspace`, for one character. -/
def isSpace (c : Char) : Bool :=
  let n := c.toNat
  (9 ≤ n && n ≤ 13) || (28 ≤ n && n ≤ 32) || n = 0x85 || n = 0xA0 || n = 0x1680 ||
    (0x2000 ≤ n && n ≤ 0x200A) || n = 0x2028 || n = 0x2029 || n = 0x202F || n = 0x205F ||
    n = 0x3000

/-- `" ".join(mnemonic.split())`. -/
def joinWords (mnemonic : String) : String :=
  " ".intercalate
    (((mnemonic.toList.splitOnP isSpace).filter (fun word => !word.isEmpty)).map String.ofList)

section Command

variable {Seed : Type} (bip39 : Bip39 Seed) (bip44 : Bip44)

def materialFromMnemonic (mnemonic : String) (network : Network) : Except String XpubMaterial :=
  let mnemonic := joinWords mnemonic
  if !bip39.isValid mnemonic then .error "invalid BIP39 mnemonic"
  else
    let seed := bip39.seed mnemonic
    XpubMaterial.validate network (bip39.accountXpub seed (coinForNetwork network))
      (bip39.fingerPrint seed)

structure ReceiveAddress where
  index : Int
  path : String
  address : String
  deriving DecidableEq

/-- What is printed. -/
structure Payload where
  material : XpubMaterial
  receiveAddresses : List ReceiveAddress

def receiveAddress (accountXpub : String) (network : Network) (index : Nat) :
    Except String ReceiveAddress := do
  let (address, derivation) ← deriveReceive bip44 accountXpub network index
  return { index, path := derivation.path, address }

/-- The addresses of the indexes below `n`; the first one that cannot be derived raises. -/
def receiveAddresses (accountXpub : String) (network : Network) (n : Nat) :
    Except String (List ReceiveAddress) :=
  (List.range n).mapM (receiveAddress bip44 accountXpub network)

/-- The arguments, with their defaults. -/
structure DeriveXpubArgs where
  network : Network := .mainnet
  mnemonic : Option String := none
  addresses : Int := 3

inductive DeriveXpubResult
  | printed (payload : Payload)
  /-- The exit code 2, with this message on `stderr`. -/
  | refused (message : String)
  | raised (message : String)

/-- `main`; `line` is what there is to read on `stdin`. -/
def deriveXpub (args : DeriveXpubArgs) (line : String) : DeriveXpubResult :=
  let mnemonic := args.mnemonic.getD line
  if mnemonic.toList.all isSpace then .refused "error: empty mnemonic"
  else
    match materialFromMnemonic bip39 mnemonic args.network with
    | .error message => .refused ("error: " ++ message)
    | .ok material =>
        -- a negative number of addresses is none
        match receiveAddresses bip44 material.accountXpub args.network args.addresses.toNat with
        | .error message => .raised message
        | .ok receiveAddresses => .printed { material, receiveAddresses }

/-! ## What is printed -/

variable {bip39 bip44}

theorem materialFromMnemonic_network {mnemonic : String} {network : Network}
    {material : XpubMaterial} (h : materialFromMnemonic bip39 mnemonic network = .ok material) :
    material.network = network := by
  unfold materialFromMnemonic XpubMaterial.validate at h
  dsimp only at h
  split_ifs at h
  cases h
  rfl

theorem receiveAddresses_succ (accountXpub : String) (network : Network) (n : Nat) :
    receiveAddresses bip44 accountXpub network (n + 1) = do
      let first ← receiveAddresses bip44 accountXpub network n
      let last ← receiveAddress bip44 accountXpub network n
      return first ++ [last] := by
  unfold receiveAddresses
  rw [List.range_succ, List.mapM_append]
  simp

/-- There is no path at a negative index. -/
theorem deriveReceive_nonneg {accountXpub : String} {network : Network} {index : Int}
    {result : String × Derivation}
    (h : deriveReceive bip44 accountXpub network index = .ok result) : 0 ≤ index := by
  unfold deriveReceive derivationPath at h
  cases ha : deriveAddress bip44 accountXpub network index 0 with
  | error message =>
      rw [ha] at h
      cases h
  | ok address =>
      rw [ha] at h
      by_cases hneg : index < 0
      · rw [if_pos hneg] at h
        cases h
      · omega

/-- Every index below the number of addresses is listed, with what is derived at it. -/
theorem mem_receiveAddresses {accountXpub : String} {network : Network} {n i : Nat}
    {listed : List ReceiveAddress} {address : String} {derivation : Derivation}
    (h : receiveAddresses bip44 accountXpub network n = .ok listed) (hi : i < n)
    (hderive : deriveReceive bip44 accountXpub network i = .ok (address, derivation)) :
    ⟨i, derivation.path, address⟩ ∈ listed := by
  induction n generalizing listed with
  | zero => omega
  | succ n ih =>
      rw [receiveAddresses_succ] at h
      cases hfirst : receiveAddresses bip44 accountXpub network n with
      | error message =>
          rw [hfirst] at h
          cases h
      | ok first =>
          rw [hfirst] at h
          cases hlast : receiveAddress bip44 accountXpub network n with
          | error message =>
              rw [hlast] at h
              cases h
          | ok last =>
              rw [hlast] at h
              cases h
              rcases Nat.lt_succ_iff_lt_or_eq.mp hi with hlt | rfl
              · exact List.mem_append_left _ (ih hfirst hlt)
              · unfold receiveAddress at hlast
                rw [hderive] at hlast
                cases hlast
                exact List.mem_append_right _ List.mem_cons_self

/-- What a printed payload is made of. -/
theorem deriveXpub_printed {args : DeriveXpubArgs} {line : String} {payload : Payload}
    (h : deriveXpub bip39 bip44 args line = .printed payload) :
    payload.material.network = args.network ∧
      receiveAddresses bip44 payload.material.accountXpub args.network args.addresses.toNat
        = .ok payload.receiveAddresses := by
  unfold deriveXpub at h
  dsimp only at h
  split_ifs at h
  cases hm : materialFromMnemonic bip39 (args.mnemonic.getD line) args.network with
  | error message =>
      rw [hm] at h
      cases h
  | ok material =>
      rw [hm] at h
      dsimp only at h
      cases ha : receiveAddresses bip44 material.accountXpub args.network args.addresses.toNat with
      | error message =>
          rw [ha] at h
          cases h
      | ok listed =>
          rw [ha] at h
          cases h
          exact ⟨materialFromMnemonic_network hm, ha⟩

end Command

/-! ## The key file of the server -/

/-- The JSON as a key file; the addresses are no field of an `XpubMaterial` and are left out. -/
def Payload.keyFile (payload : Payload) : KeyFile :=
  .json payload.material.network payload.material.accountXpub payload.material.masterFingerprint

/-- The server has been given what was printed, as a file or in the environment. -/
def Payload.Given (payload : Payload) (settings : Settings) (file : KeyFile) : Prop :=
  (settings.dashXpub = "" ∧ file = payload.keyFile) ∨
    (settings.dashXpub ≠ "" ∧ settings.dashXpub = payload.material.accountXpub ∧
      settings.dashMasterFingerprint = payload.material.masterFingerprint)

theorem XpubMaterial.validate_self (m : XpubMaterial) :
    XpubMaterial.validate m.network m.accountXpub m.masterFingerprint = .ok m := by
  unfold XpubMaterial.validate
  rw [dif_pos m.fingerprint_length]

/-- A process that has been given what was printed loads this material or none. -/
theorem Payload.Given.load {payload : Payload} {settings : Settings} {file : KeyFile}
    {material : XpubMaterial} (h : payload.Given settings file)
    (hnetwork : settings.dashNetwork = payload.material.network)
    (hload : loadXpubMaterial settings file = .ok (some material)) :
    material = payload.material := by
  have hself := payload.material.validate_self
  have hlength := payload.material.fingerprint_length
  unfold loadXpubMaterial at hload
  rcases h with ⟨hempty, rfl⟩ | ⟨hne, hxpub, hfingerprint⟩
  · rw [if_neg (fun h => h.1 hempty)] at hload
    unfold Payload.keyFile at hload
    by_cases hfile : settings.dashXpubFile = ""
    · rw [if_neg (not_not.mpr hfile)] at hload
      cases hload
    · rw [if_pos hfile] at hload
      dsimp only at hload
      rw [hself] at hload
      change (if payload.material.network ≠ settings.dashNetwork then _ else _) = _ at hload
      rw [if_neg (fun hne => hne hnetwork.symm)] at hload
      cases hload
      rfl
  · have hfingerprint_ne : settings.dashMasterFingerprint ≠ "" := by
      rw [hfingerprint]
      intro h
      rw [h] at hlength
      cases hlength
    rw [if_pos ⟨hne, hfingerprint_ne⟩, hnetwork, hxpub, hfingerprint, hself] at hload
    cases hload
    rfl

end V4vappDash
