import V4vappDash.Keys

set_option autoImplicit false

/-! # Wallet state

The collection `dash_wallet_state`, one row per network (`db/wallet_state.py`).
`ensureWalletState` is two database operations with a gap between them: a lookup, and, when
there is no row, an insert. Each is one step here (`ensureFind`, `insertRow`).
-/

namespace V4vappDash

structure WalletRow where
  network : Network
  fingerprint : String
  accountXpub : String
  nextReceiveIndex : Nat
  nextChangeIndex : Nat
  descriptorRangeEnd : Int
  updatedAt : Stamp
  deriving DecidableEq

/-- The database: the invoices, and the wallet row of each network under its `_id`. -/
structure Database where
  invoices : Invoices
  walletState : Network → Option WalletRow

def brief (value : String) : String :=
  if value.length ≤ 20 then value
  else String.ofList (value.toList.take 12) ++ "…" ++
    String.ofList (value.toList.drop (value.length - 6)) ++ "(" ++ toString value.length ++ ")"

/-- The text of the `WalletStateMismatch` for a row locked to other key material. -/
def mismatchMessage (network : Network) (row : WalletRow) (accountXpub fingerprint : String) :
    String :=
  "dash_wallet_state[" ++ network.value
    ++ "] fingerprint/xpub does not match configured material (stored fp="
    ++ lower row.fingerprint ++ " xpub=" ++ brief row.accountXpub ++ "; env fp="
    ++ lower fingerprint ++ " xpub=" ++ brief accountXpub
    ++ "). First boot locks the xpub for this network; replace the Mongo row "
    ++ "or use the original key material."

/-- The row a first boot inserts. -/
def newRow (network : Network) (accountXpub fingerprint : String) (descriptorRangeEnd : Int)
    (now : Datetime) : WalletRow where
  network := network
  fingerprint := lower fingerprint
  accountXpub := accountXpub
  nextReceiveIndex := 0
  nextChangeIndex := 0
  descriptorRangeEnd := descriptorRangeEnd
  updatedAt := Datetime.stored now

/-- `ensure_wallet_state` up to the insert: raise, accept the row that is there, or go on to
insert a new one. -/
def ensureFind (rows : Network → Option WalletRow) (network : Network)
    (accountXpub fingerprint : String) (descriptorRangeEnd : Int) (now : Datetime) :
    Except String (Option WalletRow) :=
  if accountXpub = "" then .error "DASH_XPUB is required to initialize wallet state"
  else if fingerprint.length ≠ 8 then
    .error "DASH_MASTER_FINGERPRINT must be 8 hex characters"
  else
    match rows network with
    | none => .ok (some (newRow network accountXpub fingerprint descriptorRangeEnd now))
    | some row =>
        -- the account key is compared as it is, the fingerprint without its case
        if row.accountXpub ≠ accountXpub ∨ lower row.fingerprint ≠ lower fingerprint then
          .error (mismatchMessage network row accountXpub fingerprint)
        else if row.network ≠ network then
          .error ("dash_wallet_state[" ++ network.value ++ "] network field '"
            ++ row.network.value ++ "' != _id")
        else .ok none

/-- `insert_one` of a row; a row that is already there is a `DuplicateKeyError`. -/
def insertRow (rows : Network → Option WalletRow) (network : Network) (row : WalletRow) :
    Except String (Network → Option WalletRow) :=
  match rows network with
  -- another process has inserted a row in the meantime
  | some _ => .error "DuplicateKeyError"
  | none => .ok (Function.update rows network (some row))

/-- The row after its current index has been taken. -/
def WalletRow.taken (row : WalletRow) (now : Datetime) : WalletRow :=
  { row with
    nextReceiveIndex := row.nextReceiveIndex + 1
    updatedAt := Datetime.stored now }

/-- Atomically take the current `next_receive_index` and increment it. -/
def allocateReceiveIndex (rows : Network → Option WalletRow) (network : Network)
    (now : Datetime) : Except String (Nat × (Network → Option WalletRow)) :=
  match rows network with
  | none => .error ("dash_wallet_state[" ++ network.value ++ "] is missing")
  | some row =>
      .ok (row.nextReceiveIndex, Function.update rows network (some (row.taken now)))

/-! ## The lock -/

/-- The row is locked to this key material; the case of the fingerprint does not matter. -/
def WalletRow.Matches (row : WalletRow) (accountXpub fingerprint : String) : Prop :=
  row.accountXpub = accountXpub ∧ lower row.fingerprint = lower fingerprint

instance (row : WalletRow) (accountXpub fingerprint : String) :
    Decidable (row.Matches accountXpub fingerprint) :=
  inferInstanceAs (Decidable (_ ∧ _))

theorem newRow_matches (network : Network) (accountXpub fingerprint : String)
    (descriptorRangeEnd : Int) (now : Datetime) :
    (newRow network accountXpub fingerprint descriptorRangeEnd now).Matches accountXpub
      fingerprint :=
  ⟨rfl, lower_lower fingerprint⟩

/-- The key material a row is locked to. -/
def WalletRow.material (row : WalletRow) : String × String := (row.accountXpub, row.fingerprint)

theorem WalletRow.Matches.of_material {row row' : WalletRow} {accountXpub fingerprint : String}
    (h : row.Matches accountXpub fingerprint) (hm : row'.material = row.material) :
    row'.Matches accountXpub fingerprint := by
  obtain ⟨hxpub, hfp⟩ := Prod.ext_iff.mp hm
  exact ⟨hxpub.trans h.1, by rw [← h.2]; exact congrArg lower hfp⟩

/-- A row is never unlocked, replaced or removed. -/
def Locked (rows rows' : Network → Option WalletRow) : Prop :=
  ∀ network row, rows network = some row →
    ∃ row', rows' network = some row' ∧ row'.material = row.material

theorem Locked.refl (rows : Network → Option WalletRow) : Locked rows rows :=
  fun _ row h => ⟨row, h, rfl⟩

theorem Locked.trans {r s t : Network → Option WalletRow} (h : Locked r s) (h' : Locked s t) :
    Locked r t := by
  intro network row hrow
  obtain ⟨row₁, hrow₁, hm₁⟩ := h network row hrow
  obtain ⟨row₂, hrow₂, hm₂⟩ := h' network row₁ hrow₁
  exact ⟨row₂, hrow₂, hm₂.trans hm₁⟩

theorem insert_locked {rows : Network → Option WalletRow} {network : Network}
    (hrow : rows network = none) (row : WalletRow) :
    Locked rows (Function.update rows network (some row)) := by
  intro n r hn
  have hne : n ≠ network := by
    rintro rfl
    rw [hrow] at hn
    cases hn
  exact ⟨r, by rw [Function.update_of_ne hne, hn], rfl⟩

theorem taken_locked {rows : Network → Option WalletRow} {network : Network} {row : WalletRow}
    (hrow : rows network = some row) (now : Datetime) :
    Locked rows (Function.update rows network (some (row.taken now))) := by
  intro n r hn
  by_cases hnn : n = network
  · subst hnn
    rw [hrow] at hn
    cases hn
    exact ⟨_, Function.update_self _ _ _, rfl⟩
  · exact ⟨r, by rw [Function.update_of_ne hnn, hn], rfl⟩

end V4vappDash
