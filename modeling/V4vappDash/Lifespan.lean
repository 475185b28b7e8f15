import V4vappDash.Dashd.Bootstrap
import V4vappDash.Db.WalletState

set_option autoImplicit false

/-! # The start of a process

`lifespan` of `main.py`, up to the point from which the process serves requests: the key
material is loaded, compared with the wallet row or stored in a new one, and its watch wallet is
bootstrapped. Like a request it is modelled by its phases; a phase ends where another process
can come in between.
-/

namespace V4vappDash

/-- `_rpc_configured`. -/
def rpcConfigured (password url : String) : Bool :=
  !(url = "" || password = "" || password = "change-me")

/-- How far a process has come. -/
inductive BootPhase
  | starting
  /-- The key material is loaded, if there is any; next is the lookup of the wallet row. -/
  | loaded (material : Option XpubMaterial)
  /-- There was no wallet row; next is the insertion of this one. -/
  | absent (material : XpubMaterial) (row : WalletRow)
  /-- The wallet row is in order, or none is needed; next is dashd. -/
  | ensured (material : Option XpubMaterial)
  /-- Requests are served. -/
  | serving (material : Option XpubMaterial) (bootstrap : Option BootstrapResult)
  | failed (message : String)
  deriving DecidableEq

/-- What a process gets from outside while it starts. -/
structure BootInput where
  file : KeyFile
  now : Datetime
  rpc : BootRpc

section Phases

variable (settings : Settings)

def bootLoad (file : KeyFile) : BootPhase :=
  match loadXpubMaterial settings file with
  | .error message => .failed message
  | .ok material => .loaded material

/-- The first half of `ensure_wallet_state`, for a process with a database and key material. -/
def bootEnsure (rows : Network → Option WalletRow) (now : Datetime)
    (material : Option XpubMaterial) : BootPhase :=
  match material with
  | none => .ensured none
  | some m =>
      -- without a database nothing is locked
      if settings.mongoUri = "" then .ensured (some m)
      else
        match ensureFind rows settings.dashNetwork m.accountXpub m.masterFingerprint
          settings.dashDescriptorRangeEnd now with
        | .error message => .failed message
        | .ok none => .ensured (some m)
        | .ok (some row) => .absent m row

/-- The second half of `ensure_wallet_state`. -/
def bootInsert (rows : Network → Option WalletRow) (material : XpubMaterial) (row : WalletRow) :
    (Network → Option WalletRow) × BootPhase :=
  match insertRow rows settings.dashNetwork row with
  | .error message => (rows, .failed message)
  | .ok rows' => (rows', .ensured (some material))

/-- The part that needs dashd. -/
def bootDashd (rpc : BootRpc) (node : WatchNode) (material : Option XpubMaterial) :
    WatchNode × BootPhase :=
  if !rpcConfigured settings.dashRpcPassword settings.dashRpcUrl then
    (node, .serving material none)
  else
    -- the node has to answer even when there is no key to watch
    match rpc.getblockchaininfo, material with
    | .error message, _ => (node, .failed message)
    | .ok (), none => (node, .serving none none)
    | .ok (), some m =>
        match bootstrapWatchWallet settings.dashRpcWallet rpc node settings.dashNetwork
          m.accountXpub m.masterFingerprint settings.dashDescriptorRangeEnd with
        | (node', .error message) => (node', .failed message)
        | (node', .ok result) => (node', .serving (some m) (some result))

end Phases

/-- One phase of a start to the next, with what it does to the database and to the node. -/
def bootStep (settings : Settings) (input : BootInput) (db : Database) (node : WatchNode) :
    BootPhase → Database × WatchNode × BootPhase
  | .starting => (db, node, bootLoad settings input.file)
  | .loaded material => (db, node, bootEnsure settings db.walletState input.now material)
  | .absent material row =>
      let (rows, phase) := bootInsert settings db.walletState material row
      ({ db with walletState := rows }, node, phase)
  | .ensured material =>
      let (node', phase) := bootDashd settings input.rpc node material
      (db, node', phase)
  | .serving material bootstrap => (db, node, .serving material bootstrap)
  | .failed message => (db, node, .failed message)

/-! ## What a start can do -/

section Moves

variable (settings : Settings) (input : BootInput) (db : Database) (node : WatchNode)

/-- What a phase does to the database and to the node, and the phase after it. -/
inductive BootMove : BootPhase → Database → WatchNode → BootPhase → Prop
  | load {material : Option XpubMaterial}
      (h : loadXpubMaterial settings input.file = .ok material) :
      BootMove .starting db node (.loaded material)
  /-- Without key material or without a database there is nothing to ensure. -/
  | skip {material : Option XpubMaterial} (h : material = none ∨ settings.mongoUri = "") :
      BootMove (.loaded material) db node (.ensured material)
  | accept {material : XpubMaterial} {row : WalletRow}
      (hrow : db.walletState settings.dashNetwork = some row)
      (hm : row.Matches material.accountXpub material.masterFingerprint) :
      BootMove (.loaded (some material)) db node (.ensured (some material))
  | absent {material : XpubMaterial}
      (hrow : db.walletState settings.dashNetwork = none) :
      BootMove (.loaded (some material)) db node (.absent material
        (newRow settings.dashNetwork material.accountXpub material.masterFingerprint
          settings.dashDescriptorRangeEnd input.now))
  | insert {material : XpubMaterial} {row : WalletRow}
      (hrow : db.walletState settings.dashNetwork = none) :
      BootMove (.absent material row)
        { db with walletState :=
            Function.update db.walletState settings.dashNetwork (some row) }
        node (.ensured (some material))
  | noBootstrap {material : Option XpubMaterial} :
      BootMove (.ensured material) db node (.serving material none)
  | bootstrap {material : XpubMaterial} {node' : WatchNode} {result : BootstrapResult}
      (h : bootstrapWatchWallet settings.dashRpcWallet input.rpc node settings.dashNetwork
        material.accountXpub material.masterFingerprint settings.dashDescriptorRangeEnd
        = (node', .ok result)) :
      BootMove (.ensured (some material)) db node' (.serving (some material) (some result))
  /-- What a bootstrap imported before it raised stays imported. -/
  | raised {material : Option XpubMaterial} {node' : WatchNode} {message : String}
      (h : node.Grows node') :
      BootMove (.ensured material) db node' (.failed message)
  | stay {material : Option XpubMaterial} {bootstrap : Option BootstrapResult} :
      BootMove (.serving material bootstrap) db node (.serving material bootstrap)
  | fail {phase : BootPhase} {message : String} (h : ∀ m b, phase ≠ .serving m b) :
      BootMove phase db node (.failed message)

theorem bootEnsure_move (material : Option XpubMaterial) :
    BootMove settings input db node (.loaded material) db node
      (bootEnsure settings db.walletState input.now material) := by
  cases material with
  | none => exact .skip (Or.inl rfl)
  | some m =>
      unfold bootEnsure
      dsimp only
      by_cases huri : settings.mongoUri = ""
      · rw [if_pos huri]
        exact .skip (Or.inr huri)
      · rw [if_neg huri]
        unfold ensureFind
        by_cases hxpub : m.accountXpub = ""
        · rw [if_pos hxpub]
          exact .fail nofun
        · rw [if_neg hxpub, if_neg (not_not.mpr m.fingerprint_length)]
          cases hrow : db.walletState settings.dashNetwork with
          | none => exact .absent hrow
          | some row =>
              dsimp only
              split_ifs with hne hnet
              · exact .fail nofun
              · exact .fail nofun
              · rw [not_or, not_not, not_not] at hne
                exact .accept hrow hne

theorem bootDashd_move (material : Option XpubMaterial) :
    BootMove settings input db node (.ensured material) db
      (bootDashd settings input.rpc node material).1
      (bootDashd settings input.rpc node material).2 := by
  unfold bootDashd
  split_ifs
  · exact .noBootstrap
  · cases input.rpc.getblockchaininfo with
    | error message => exact .fail nofun
    | ok u =>
        cases material with
        | none => exact .noBootstrap
        | some m =>
            have hgrows := bootstrap_grows settings.dashRpcWallet input.rpc node
              settings.dashNetwork m.accountXpub m.masterFingerprint
              settings.dashDescriptorRangeEnd
            dsimp only
            split
            · next heq => rw [heq] at hgrows; exact .raised hgrows
            · next heq => exact .bootstrap heq

/-- Every step of a start is a move. -/
theorem bootStep_move (phase : BootPhase) :
    BootMove settings input db node phase (bootStep settings input db node phase).1
      (bootStep settings input db node phase).2.1 (bootStep settings input db node phase).2.2 := by
  cases phase with
  | starting =>
      show BootMove settings input db node .starting db node (bootLoad settings input.file)
      unfold bootLoad
      cases hm : loadXpubMaterial settings input.file with
      | error message => exact .fail nofun
      | ok material => exact .load hm
  | loaded material => exact bootEnsure_move settings input db node material
  | absent material row =>
      show BootMove settings input db node (.absent material row)
        { db with walletState := (bootInsert settings db.walletState material row).1 } node
        (bootInsert settings db.walletState material row).2
      unfold bootInsert insertRow
      cases hrow : db.walletState settings.dashNetwork with
      | none => exact .insert hrow
      | some r => exact .fail nofun
  | ensured material => exact bootDashd_move settings input db node material
  | serving material bootstrap => exact .stay
  | failed message => exact .fail nofun

end Moves

section Facts

variable {settings : Settings} {input : BootInput} {db db' : Database} {node node' : WatchNode}
  {phase phase' : BootPhase}

/-- A start stores no invoice. -/
theorem BootMove.invoices (h : BootMove settings input db node phase db' node' phase') :
    db'.invoices = db.invoices := by
  cases h <;> rfl

theorem BootMove.grows (h : BootMove settings input db node phase db' node' phase') :
    node.Grows node' := by
  cases h with
  | @bootstrap material node' result heq =>
      have hgrows := bootstrap_grows settings.dashRpcWallet input.rpc node settings.dashNetwork
        material.accountXpub material.masterFingerprint settings.dashDescriptorRangeEnd
      rw [heq] at hgrows
      exact hgrows
  | raised hgrows => exact hgrows
  | load | skip | accept | absent | insert | noBootstrap | stay | fail => exact .refl node

theorem BootMove.locked (h : BootMove settings input db node phase db' node' phase') :
    Locked db.walletState db'.walletState := by
  cases h with
  | insert hrow => exact insert_locked hrow _
  | load | skip | accept | absent | noBootstrap | bootstrap | raised | stay | fail =>
      exact .refl _

end Facts

end V4vappDash
