import V4vappDash.Dashd.Bootstrap
import V4vappDash.Limits.HiveStatus
import V4vappDash.Watcher.Loop

set_option autoImplicit false

/-! # The RPC client

`dashd/rpc.py`: one `POST` for each call, and what the client makes of the reply. A `DashdError` is
raised for what dashd, or something in front of it, has answered; an exception of the transport
goes through as it is, and so does an HTTP status other than success on a reply without an error.

The texts of the exceptions of httpx for a status are abbreviated to the name of their class.
-/

namespace V4vappDash

structure RpcRequest where
  url : String
  method : String
  params : List Json

/-- A response; `body` is `none` when it is not JSON. -/
structure RpcResponse where
  statusCode : Nat
  body : Option Json

/-- The server and the network: a response, or the text of what the transport raises. -/
abbrev RpcPost := RpcRequest → Except String RpcResponse

/-- What a call raises. `code` is `null` for an error without one. -/
inductive RpcFailure
  | dashdError (message : String) (code : Json)
  | walletDisabled (message : String) (code : Json)
  | other (message : String)

/-- `WalletDisabled` is a `DashdError`. -/
def RpcFailure.isDashdError : RpcFailure → Bool
  | .dashdError _ _ => true
  | .walletDisabled _ _ => true
  | .other _ => false

def RpcFailure.isWalletDisabled : RpcFailure → Bool
  | .walletDisabled _ _ => true
  | _ => false

def RpcFailure.str : RpcFailure → String
  | .dashdError message _ => message
  | .walletDisabled message _ => message
  | .other message => message

/-! ## Reading a reply -/

/-- `type(value).__name__`. -/
def Json.typeName : Json → String
  | .null => "NoneType"
  | .bool _ => "bool"
  | .number (.int _) => "int"
  | .number (.real _) => "float"
  | .str _ => "str"
  | .arr _ => "list"
  | .obj _ => "dict"

/-- `code == -32601`. -/
def isMethodNotFound : Json → Bool
  | .number (.int n) => n = -32601
  | .number (.real q) => Binary64.nearest q = -32601
  | _ => false

def mentions (text pattern : String) : Bool := pattern.toList <:+: text.toList

def walletMethods : List String :=
  ["listwallets", "createwallet", "getwalletinfo", "importdescriptors", "listdescriptors",
    "listunspent", "gettransaction"]

section Call

/-! `str(value)` is an argument here. -/

variable (pyStr : Json → String)

/-- The `message` of an error, which need not be a text. -/
def errorMessage : Json → Json
  | .obj fields => (getField fields "message").getD (.str (pyStr (.obj fields)))
  | error => .str (pyStr error)

def errorCode : Json → Json
  | .obj fields => (getField fields "code").getD .null
  | _ => .null

/-- The error says that dashd runs without a wallet. -/
def saysDisabled (method message : String) (code : Json) : Bool :=
  let lowered := lower message
  method ∈ walletMethods &&
    (isMethodNotFound code || mentions lowered "method not found" ||
      mentions lowered "disablewallet" ||
      (mentions lowered "wallet" && mentions lowered "disable"))

/-- What an error in the reply raises. -/
def raiseError (method : String) (error : Json) : RpcFailure :=
  let code := errorCode error
  match errorMessage pyStr error with
  | .str message =>
      if saysDisabled method message code then .walletDisabled message code
      else .dashdError message code
  | message => .other ("'" ++ message.typeName ++ "' object has no attribute 'lower'")

/-- `_call`, on what the request gives. -/
def readReply (method : String) : Except String RpcResponse → Except RpcFailure Json
  | .error message => .error (.other message)
  | .ok response =>
      -- looked at before the body
      if response.statusCode = 401 then
        .error (.dashdError "dashd RPC unauthorized" (.number (.int 401)))
      else
        match response.body with
        | none =>
            .error (.dashdError
              ("dashd returned non-JSON (" ++ toString response.statusCode ++ ")") .null)
        | some (.obj fields) =>
            let error := (getField fields "error").getD .null
            if error.truthy then .error (raiseError pyStr method error)
            -- `raise_for_status`, once the error has been looked at
            else if response.statusCode < 200 ∨ 300 ≤ response.statusCode then
              .error (.other "HTTPStatusError")
            else .ok ((getField fields "result").getD .null)
        | some body => .error (.other ("'" ++ body.typeName ++ "' object has no attribute 'get'"))

/-- A result that has to be an object. -/
def objectResult (method : String) (reply : Except String RpcResponse) :
    Except RpcFailure (List (String × Json)) :=
  match readReply pyStr method reply with
  | .error e => .error e
  | .ok (.obj fields) => .ok fields
  | .ok _ => .error (.dashdError (method ++ " returned a non-object") .null)

/-- A result that has to be a list. -/
def listResult (method : String) (reply : Except String RpcResponse) :
    Except RpcFailure (List Json) :=
  match readReply pyStr method reply with
  | .error e => .error e
  | .ok (.arr items) => .ok items
  | .ok _ => .error (.dashdError (method ++ " returned a non-list") .null)

end Call

/-! ## The client -/

/-- `Dashd`. Node methods go to `nodeUrl`, wallet methods to `walletUrl`. -/
structure Dashd where
  nodeUrl : String
  walletName : String

/-- `url.rstrip("/")`. -/
def rstripSlashes (url : String) : String :=
  String.ofList (url.toList.reverse.dropWhile (· = '/')).reverse

/-- The client of `lifespan`. -/
def Settings.dashd (settings : Settings) : Dashd :=
  ⟨rstripSlashes settings.dashRpcUrl, settings.dashRpcWallet⟩

def Dashd.walletUrl (dashd : Dashd) : String := dashd.nodeUrl ++ "/wallet/" ++ dashd.walletName

namespace Dashd

variable (pyStr : Json → String) (dashd : Dashd) (post : RpcPost)

def getblockchaininfo : Except RpcFailure (List (String × Json)) :=
  objectResult pyStr "getblockchaininfo" (post ⟨dashd.nodeUrl, "getblockchaininfo", []⟩)

def listwallets : Except RpcFailure (List Json) :=
  listResult pyStr "listwallets" (post ⟨dashd.nodeUrl, "listwallets", []⟩)

def createWatchWallet : Except RpcFailure Json :=
  readReply pyStr "createwallet" (post ⟨dashd.nodeUrl, "createwallet",
    [.str dashd.walletName, .bool true, .bool true, .str "", .bool false, .bool true,
      .bool true]⟩)

/-- Of any number of confirmations, and unsafe ones too. -/
def unspentRequest (addresses : List String) : RpcRequest :=
  ⟨dashd.walletUrl, "listunspent",
    [.number (.int 0), .number (.int 9999999), .arr (addresses.map Json.str), .bool true]⟩

def listunspent (addresses : List String) : Except RpcFailure (List Json) :=
  listResult pyStr "listunspent" (post (dashd.unspentRequest addresses))

def gettransaction (txid : String) : Except RpcFailure (List (String × Json)) :=
  objectResult pyStr "gettransaction" (post ⟨dashd.walletUrl, "gettransaction", [.str txid]⟩)

end Dashd

/-! ## What is raised for what -/

/-- The client refuses the reply with a `DashdError`, whatever its result: it is not authorized, it
is not JSON, or it holds an error whose message is a text. -/
inductive Refused (pyStr : Json → String) : RpcResponse → Prop
  | unauthorized {body : Option Json} : Refused pyStr ⟨401, body⟩
  | notJson {statusCode : Nat} : Refused pyStr ⟨statusCode, none⟩
  | error {statusCode : Nat} {fields : List (String × Json)} {message : String}
      (htruthy : ((getField fields "error").getD .null).truthy = true)
      (hmessage : errorMessage pyStr ((getField fields "error").getD .null) = .str message) :
      Refused pyStr ⟨statusCode, some (.obj fields)⟩

/-- The reply says that dashd runs without a wallet. -/
inductive Disabled (pyStr : Json → String) (method : String) : RpcResponse → Prop
  | intro {statusCode : Nat} {fields : List (String × Json)} {message : String}
      (hauth : statusCode ≠ 401)
      (htruthy : ((getField fields "error").getD .null).truthy = true)
      (hmessage : errorMessage pyStr ((getField fields "error").getD .null) = .str message)
      (htext : saysDisabled method message
        (errorCode ((getField fields "error").getD .null)) = true) :
      Disabled pyStr method ⟨statusCode, some (.obj fields)⟩

/-- The client gets past the error and the status of the reply. -/
structure Accepted (response : RpcResponse) (fields : List (String × Json)) : Prop where
  statusCode : 200 ≤ response.statusCode ∧ response.statusCode < 300
  body : response.body = some (.obj fields)
  noError : ((getField fields "error").getD .null).truthy = false

def Json.isList : Json → Bool
  | .arr _ => true
  | _ => false

/-- A call that asks for a list ends in a `DashdError`. -/
def NoList (pyStr : Json → String) (response : RpcResponse) : Prop :=
  Refused pyStr response ∨ ∃ fields, Accepted response fields ∧
    ((getField fields "result").getD .null).isList = false

section Refused

variable {pyStr : Json → String} {method : String} {response : RpcResponse}

theorem Accepted.not_refused {fields : List (String × Json)} (h : Accepted response fields) :
    ¬ Refused pyStr response := by
  intro hrefused
  obtain ⟨hstatus, hbody, hfalse⟩ := h
  cases hrefused with
  | unauthorized =>
      have hlt : 401 < 300 := hstatus.2
      omega
  | notJson => cases hbody
  | error htruthy _ =>
      cases hbody
      rw [hfalse] at htruthy
      cases htruthy

theorem raiseError_isDashdError {error : Json} :
    (raiseError pyStr method error).isDashdError = true ↔
      ∃ message, errorMessage pyStr error = .str message := by
  unfold raiseError
  dsimp only
  cases errorMessage pyStr error with
  | str message =>
      refine iff_of_true ?_ ⟨message, rfl⟩
      dsimp only
      split_ifs <;> rfl
  | null | bool _ | number _ | arr _ | obj _ => exact iff_of_false nofun (by rintro ⟨_, h⟩; cases h)

theorem raiseError_isWalletDisabled {error : Json} :
    (raiseError pyStr method error).isWalletDisabled = true ↔
      ∃ message, errorMessage pyStr error = .str message ∧
        saysDisabled method message (errorCode error) = true := by
  unfold raiseError
  dsimp only
  cases errorMessage pyStr error with
  | str message =>
      dsimp only
      split_ifs with htext
      · exact iff_of_true rfl ⟨message, rfl, htext⟩
      · refine iff_of_false nofun ?_
        rintro ⟨_, heq, htext'⟩
        cases heq
        exact htext htext'
  | null | bool _ | number _ | arr _ | obj _ =>
      exact iff_of_false nofun (by rintro ⟨_, h, -⟩; cases h)

theorem Disabled.refused (h : Disabled pyStr method response) : Refused pyStr response := by
  cases h with
  | intro _ htruthy hmessage _ => exact .error htruthy hmessage

/-- A call reads the result of an accepted reply and raises for any other one, a `DashdError` when
the reply is refused, and a `WalletDisabled` when it says so. -/
theorem readReply_cases (pyStr : Json → String) (method : String) (response : RpcResponse) :
    (∃ fields, Accepted response fields ∧
      readReply pyStr method (.ok response) = .ok ((getField fields "result").getD .null)) ∨
    ((∀ fields, ¬ Accepted response fields) ∧
      ∃ e, readReply pyStr method (.ok response) = .error e ∧
        (e.isDashdError = true ↔ Refused pyStr response) ∧
        (e.isWalletDisabled = true ↔ Disabled pyStr method response)) := by
  obtain ⟨statusCode, body⟩ := response
  by_cases hauth : statusCode = 401
  · subst hauth
    have hrefused : Refused pyStr ⟨401, body⟩ := .unauthorized
    refine Or.inr ⟨fun _ h => h.not_refused hrefused, _, rfl, iff_of_true rfl hrefused,
      iff_of_false nofun ?_⟩
    intro h
    cases h with
    | intro hauth => exact hauth rfl
  unfold readReply
  dsimp only
  rw [if_neg hauth]
  cases body with
  | none =>
      have hrefused : Refused pyStr ⟨statusCode, none⟩ := .notJson
      exact Or.inr ⟨fun _ h => h.not_refused hrefused, _, rfl, iff_of_true rfl hrefused,
        iff_of_false nofun nofun⟩
  | some body =>
      cases body with
      | obj fields =>
          dsimp only
          cases htruthy : ((getField fields "error").getD .null).truthy with
          | true =>
              rw [if_pos rfl]
              refine Or.inr ⟨?_, _, rfl, raiseError_isDashdError.trans ?_,
                raiseError_isWalletDisabled.trans ?_⟩
              · rintro fields' ⟨-, hbody, hfalse⟩
                cases hbody
                rw [htruthy] at hfalse
                cases hfalse
              · constructor
                · rintro ⟨message, hmessage⟩
                  exact .error htruthy hmessage
                · intro h
                  cases h with
                  | unauthorized => exact absurd rfl hauth
                  | error _ hmessage => exact ⟨_, hmessage⟩
              · constructor
                · rintro ⟨message, hmessage, htext⟩
                  exact .intro hauth htruthy hmessage htext
                · intro h
                  cases h with
                  | intro _ _ hmessage htext => exact ⟨_, hmessage, htext⟩
          | false =>
              have hnot : ¬ Refused pyStr ⟨statusCode, some (.obj fields)⟩ := by
                intro h
                cases h with
                | unauthorized => exact hauth rfl
                | error htrue _ =>
                    rw [htruthy] at htrue
                    cases htrue
              rw [if_neg nofun]
              by_cases hstatus : statusCode < 200 ∨ 300 ≤ statusCode
              · rw [if_pos hstatus]
                refine Or.inr ⟨?_, _, rfl, iff_of_false nofun hnot,
                  iff_of_false nofun (fun h => hnot h.refused)⟩
                rintro fields' ⟨hrange, -, -⟩
                dsimp only at hrange
                omega
              · rw [if_neg hstatus]
                refine Or.inl ⟨fields, ⟨?_, rfl, htruthy⟩, rfl⟩
                dsimp only
                omega
      | null | bool _ | number _ | str _ | arr _ =>
          refine Or.inr ⟨?_, _, rfl, iff_of_false nofun ?_, iff_of_false nofun nofun⟩
          · rintro fields ⟨-, hbody, -⟩
            cases hbody
          · intro h
            cases h
            exact hauth rfl

/-- **The replies without a list.** A call whose result has to be a list raises a `DashdError` for
these replies and for no others. -/
theorem listResult_isDashdError (pyStr : Json → String) (method : String)
    (reply : Except String RpcResponse) :
    (∃ e, listResult pyStr method reply = .error e ∧ e.isDashdError = true) ↔
      ∃ response, reply = .ok response ∧ NoList pyStr response := by
  cases reply with
  | error message =>
      refine iff_of_false ?_ (by rintro ⟨_, h, -⟩; cases h)
      rintro ⟨e, h, he⟩
      cases h
      cases he
  | ok response =>
      have hresponse : (∃ r, Except.ok (ε := String) response = .ok r ∧ NoList pyStr r) ↔
          NoList pyStr response := by
        constructor
        · rintro ⟨r, heq, h⟩
          cases heq
          exact h
        · exact fun h => ⟨response, rfl, h⟩
      rw [hresponse]
      unfold listResult
      rcases readReply_cases pyStr method response with ⟨fields, haccepted, hread⟩ |
        ⟨hnot, e, hread, he, -⟩
      · have hnoList : NoList pyStr response ↔
            ((getField fields "result").getD .null).isList = false := by
          constructor
          · rintro (hrefused | ⟨fields', haccepted', hresult⟩)
            · exact absurd hrefused haccepted.not_refused
            · have hbody := haccepted.body.symm.trans haccepted'.body
              cases hbody
              exact hresult
          · exact fun hresult => Or.inr ⟨fields, haccepted, hresult⟩
        rw [hnoList, hread]
        cases (getField fields "result").getD .null with
        | arr items =>
            refine iff_of_false ?_ nofun
            rintro ⟨e, h, -⟩
            cases h
        | null | bool _ | number _ | str _ | obj _ => exact iff_of_true ⟨_, rfl, rfl⟩ rfl
      · have hnoList : NoList pyStr response ↔ Refused pyStr response := by
          constructor
          · rintro (hrefused | ⟨fields, haccepted, -⟩)
            · exact hrefused
            · exact absurd haccepted (hnot fields)
          · exact Or.inl
        rw [hnoList, hread, ← he]
        constructor
        · rintro ⟨e', h, he'⟩
          cases h
          exact he'
        · exact fun he' => ⟨e, rfl, he'⟩

/-- A call whose result has to be a list raises a `WalletDisabled` for the replies that say so. -/
theorem listResult_isWalletDisabled (pyStr : Json → String) (method : String)
    (reply : Except String RpcResponse) :
    (∃ e, listResult pyStr method reply = .error e ∧ e.isWalletDisabled = true) ↔
      ∃ response, reply = .ok response ∧ Disabled pyStr method response := by
  cases reply with
  | error message =>
      refine iff_of_false ?_ (by rintro ⟨_, h, -⟩; cases h)
      rintro ⟨e, h, he⟩
      cases h
      cases he
  | ok response =>
      have hread := readReply_cases pyStr method response
      unfold listResult
      constructor
      · rintro ⟨e, h, he⟩
        refine ⟨response, rfl, ?_⟩
        rcases hread with ⟨fields, -, hread⟩ | ⟨-, e', hread, -, he'⟩
        · rw [hread] at h
          split at h
          · next h' => cases h'
          · cases h
          · cases h
            cases he
        · rw [hread] at h
          cases h
          exact he'.mp he
      · rintro ⟨_, heq, hdisabled⟩
        cases heq
        rcases hread with ⟨fields, haccepted, -⟩ | ⟨-, e', hread, -, he'⟩
        · exact absurd hdisabled.refused haccepted.not_refused
        · rw [hread]
          exact ⟨e', rfl, he'.mpr hdisabled⟩

end Refused

/-! ## The calls of a start -/

def RpcFailure.bootError : RpcFailure → RpcError
  | .walletDisabled message _ => .walletDisabled message
  | e => .other e.str

/-- How the calls of a start turn out on the replies of the node; what the other calls are answered
is as in `rest`. -/
def Dashd.bootRpc (pyStr : Json → String) (dashd : Dashd) (post : RpcPost) (rest : BootRpc) :
    BootRpc :=
  { rest with
    getblockchaininfo :=
      match dashd.getblockchaininfo pyStr post with
      | .ok _ => .ok ()
      | .error e => .error e.str
    listwallets :=
      match dashd.listwallets pyStr post with
      | .ok _ => .ok ()
      | .error e => .error e.bootError
    createWatchWallet :=
      match dashd.createWatchWallet pyStr post with
      | .ok _ => .ok ()
      | .error e => .error e.str }

theorem bootRpc_listwallets_iff (pyStr : Json → String) (dashd : Dashd) (post : RpcPost)
    (rest : BootRpc) :
    (∃ message, (dashd.bootRpc pyStr post rest).listwallets = .error (.walletDisabled message)) ↔
      ∃ response, post ⟨dashd.nodeUrl, "listwallets", []⟩ = .ok response ∧
        Disabled pyStr "listwallets" response := by
  rw [← listResult_isWalletDisabled]
  unfold Dashd.bootRpc Dashd.listwallets
  dsimp only
  cases listResult pyStr "listwallets" (post ⟨dashd.nodeUrl, "listwallets", []⟩) with
  | ok items => exact iff_of_false (by rintro ⟨_, h⟩; cases h) (by rintro ⟨_, h, -⟩; cases h)
  | error e =>
      cases e with
      | walletDisabled message code => exact iff_of_true ⟨message, rfl⟩ ⟨_, rfl, rfl⟩
      | dashdError _ _ | other _ =>
          refine iff_of_false (by rintro ⟨_, h⟩; cases h) ?_
          rintro ⟨_, h, he⟩
          cases h
          cases he

end V4vappDash
