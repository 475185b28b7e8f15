import V4vappDash.Models.Invoice

set_option autoImplicit false

/-! # Key material and derivation

Where the account key comes from (`keys.py`) and how receive addresses follow from it
(`wallet/hd.py`). The environment is fixed for the life of a process; the key file is read
again on every call and may have changed.
-/

namespace V4vappDash

def Network.value : Network → String
  | .mainnet => "mainnet"
  | .testnet => "testnet"
  | .regtest => "regtest"

/-- `str.lower`, on ASCII letters. -/
def lower (s : String) : String := String.ofList (s.toList.map Char.toLower)

theorem lower_lower (s : String) : lower (lower s) = lower s := by
  have hchar : ∀ c : Char, c.toLower.toLower = c.toLower := by
    intro c
    unfold Char.toLower
    grind
  unfold lower
  rw [String.toList_ofList, List.map_map]
  exact congrArg (fun f => String.ofList (s.toList.map f)) (funext hchar)

/-- `models.wallet.XpubMaterial`; validation fixes the length of the fingerprint. -/
structure XpubMaterial where
  network : Network
  accountXpub : String
  masterFingerprint : String
  fingerprint_length : masterFingerprint.length = 8
  deriving DecidableEq

/-- The file at `DASH_XPUB_FILE`. -/
inductive KeyFile
  /-- Not a file. -/
  | missing
  /-- Not JSON, or not the fields of an `XpubMaterial`. -/
  | malformed
  | json (network : Network) (accountXpub masterFingerprint : String)
  deriving DecidableEq

/-- Construction of an `XpubMaterial`; a wrong fingerprint length is a `ValidationError`. -/
def XpubMaterial.validate (network : Network) (accountXpub masterFingerprint : String) :
    Except String XpubMaterial :=
  if h : masterFingerprint.length = 8 then .ok ⟨network, accountXpub, masterFingerprint, h⟩
  else .error "ValidationError"

def loadXpubMaterial (settings : Settings) (file : KeyFile) :
    Except String (Option XpubMaterial) :=
  -- the environment goes before the file
  if settings.dashXpub ≠ "" ∧ settings.dashMasterFingerprint ≠ "" then do
    let material ← XpubMaterial.validate settings.dashNetwork settings.dashXpub
      settings.dashMasterFingerprint
    return some material
  else if settings.dashXpubFile ≠ "" then
    match file with
    | .missing => .ok none
    | .malformed => .error "ValidationError"
    | .json network accountXpub masterFingerprint => do
        let material ← XpubMaterial.validate network accountXpub masterFingerprint
        if material.network ≠ settings.dashNetwork then
          .error ("xpub file network " ++ material.network.value ++ " != DASH_NETWORK "
            ++ settings.dashNetwork.value)
        else return some material
  else .ok none

/-! ## Derivation -/

def COIN_TYPE : Network → Nat
  | .mainnet => 5
  | .testnet => 1
  | .regtest => 1

inductive Bip44Coins
  | DASH
  | DASH_TESTNET
  deriving DecidableEq, Repr

def coinForNetwork : Network → Bip44Coins
  | .mainnet => .DASH
  | .testnet => .DASH_TESTNET
  | .regtest => .DASH_TESTNET

/-- The key derivation of `bip_utils`: account key, coin, chain and index to an address. An
account key it cannot parse raises. -/
abbrev Bip44 := String → Bip44Coins → Int → Int → Except String String

def derivationPath (network : Network) (index change : Int) : Except String String :=
  if index < 0 then .error "index must be >= 0"
  else if change ≠ 0 ∧ change ≠ 1 then .error "change must be 0 (receive) or 1 (change)"
  else .ok ("m/44'/" ++ toString (COIN_TYPE network) ++ "'/0'/" ++ toString change ++ "/"
    ++ toString index)

def deriveAddress (bip44 : Bip44) (accountXpub : String) (network : Network)
    (index change : Int) : Except String String :=
  bip44 accountXpub (coinForNetwork network) change index

def deriveReceive (bip44 : Bip44) (accountXpub : String) (network : Network) (index : Int) :
    Except String (String × Derivation) := do
  let address ← deriveAddress bip44 accountXpub network index 0
  let path ← derivationPath network index 0
  return (address, { account := 0, change := 0, index, path })

theorem deriveReceive_ok {bip44 : Bip44} {accountXpub : String} {network : Network}
    {index : Int} {address : String} {derivation : Derivation}
    (h : deriveReceive bip44 accountXpub network index = .ok (address, derivation)) :
    deriveAddress bip44 accountXpub network index 0 = .ok address ∧ derivation.index = index := by
  unfold deriveReceive at h
  cases ha : deriveAddress bip44 accountXpub network index 0 with
  | error e => rw [ha] at h; cases h
  | ok a =>
      cases hp : derivationPath network index 0 with
      | error e => rw [ha, hp] at h; cases h
      | ok p => rw [ha, hp] at h; cases h; exact ⟨rfl, rfl⟩

end V4vappDash
