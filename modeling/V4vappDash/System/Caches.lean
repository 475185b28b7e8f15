import V4vappDash.Limits.Published
import V4vappDash.Quotes.Service
import V4vappDash.System.Deployment

set_option autoImplicit false

/-! # The caches of the processes

In the deployment the price and the configuration that a request gets are inputs. Here each process
has the two caches of the program, and what comes with a request is what the price sources and the
status endpoint would answer it. Every run of this system is a run of the deployment
(`CachedDeployment.run_deployment`), so what holds of the deployment holds here; and in it, where a
price comes from can be told (`stored_quote_fresh`).
-/

namespace V4vappDash

open Machine

/-- The settings that only the sources of prices and limits need. -/
structure SourceSettings where
  coinmarketcapApiKey : String := ""
  dashRoutingFeeSats : Int := 300

/-- What a process keeps of the answers it got. -/
structure Caches where
  quote : Option QuoteCache := none
  hive : Option HiveCache := none

/-- What a phase of a request gets from outside. A request never insists on new answers. -/
structure SourceInput where
  file : KeyFile
  hive : HiveFetch
  quote : QuoteFetch
  now : Datetime
  id : ObjectId
  hive_force : hive.force = false := by rfl
  quote_force : quote.force = false := by rfl

/-! ## The phases that use a cache -/

section Phases

variable (texts : TextNumbers) (source : SourceSettings) (body : InvoiceCreate)
  (input : SourceInput) (caches : Caches)

/-- The configuration that a phase gets. -/
def SourceInput.live : LiveConfig :=
  (fetchHiveConfig texts source.dashRoutingFeeSats input.hive caches.hive).1

/-- The Hive cache after it. -/
def SourceInput.keepHive : Caches :=
  { caches with
    hive := (fetchHiveConfig texts source.dashRoutingFeeSats input.hive caches.hive).2 }

/-- The amount checks and the fees, which come before a price is asked for. -/
def SourceInput.fees : Except Failure InvoiceFees :=
  match checkAmount body.sats (input.live texts source caches) with
  | .error failure => .error failure
  | .ok () => liveFees body.sats (input.live texts source caches)

/-- The price of a request. -/
def priceFrom (material : XpubMaterial) : CreatePhase × Caches :=
  match input.fees texts source body caches with
  | .error failure => (.failed failure, input.keepHive texts source caches)
  | .ok fees =>
      let (answer, quote) :=
        findQuote texts source.coinmarketcapApiKey input.quote caches.quote
      (createQuote fees (fetchQuote answer) material,
        { input.keepHive texts source caches with quote })

/-- The rate limit check; its windows are fetched again. -/
def limitFrom (invoices : Invoices) (material : XpubMaterial) (pricing : Pricing) :
    CreatePhase × Caches :=
  if body.custId.getD "" = "" then (.limited material pricing, caches)
  else
    (createLimit body invoices (input.live texts source caches).windows input.now material pricing,
      input.keepHive texts source caches)

/-- The inputs of a phase that uses no cache. -/
def SourceInput.plain : CreateInput where
  file := input.file
  hive := DEFAULT_CONFIG
  quote := .error ""
  windows := []
  now := input.now
  id := input.id

end Phases

/-! ## The system -/

structure CachedDeployment where
  deployment : Deployment
  caches : Nat → Caches

/-- No caches, and nothing stored or running. -/
def CachedDeployment.empty : CachedDeployment := ⟨.empty, fun _ => {}⟩

def DeploymentAction.isCreate : DeploymentAction → Bool
  | .serve (.create _ _) => true
  | _ => false

inductive CachedAction
  /-- The next phase of a request. -/
  | create (request : Nat) (input : SourceInput)
  | other (action : DeploymentAction) (notCreate : action.isCreate = false)

/-- A request goes on to a phase that does not touch the database. -/
def Deployment.advance (s : Deployment) (i : Nat) (r : Request) (phase : CreatePhase) :
    Deployment :=
  { s with service := { s.service with requests := s.service.requests.set i (r.next phase) } }

section Act

variable (texts : TextNumbers) (sources : Nat → SourceSettings) (bip44 : Bip44)

def CachedDeployment.act (s : CachedDeployment) : CachedAction → CachedDeployment
  | .other action _ => { s with deployment := s.deployment.act bip44 action }
  | .create i input =>
      match s.deployment.service.requests[i]? with
      | none => s
      | some r =>
          match r.phase with
          | .unused material =>
              let (phase, caches) :=
                priceFrom texts (sources r.process) r.body input (s.caches r.process) material
              { deployment := s.deployment.advance i r phase
                caches := Function.update s.caches r.process caches }
          | .priced material pricing =>
              let (phase, caches) :=
                limitFrom texts (sources r.process) r.body input (s.caches r.process)
                  s.deployment.service.db.invoices material pricing
              { deployment := s.deployment.advance i r phase
                caches := Function.update s.caches r.process caches }
          | _ =>
              { s with deployment :=
                  s.deployment.act bip44 (.serve (.create i input.plain)) }

/-! ## The system is the deployment -/

section Deployment

variable {texts : TextNumbers} {sources : Nat → SourceSettings} {bip44 : Bip44}

/-- A request whose phase leaves the database alone. -/
theorem Deployment.act_create {s : Deployment} {i : Nat} {r : Request} {input : CreateInput}
    {phase : CreatePhase} (hr : s.service.requests[i]? = some r)
    (h : createStep r.settings bip44 r.body input s.service.db r.phase
      = (s.service.db, phase)) :
    s.act bip44 (.serve (.create i input)) = s.advance i r phase := by
  unfold Deployment.act Service.act Deployment.advance
  simp only [hr, h]

theorem Deployment.act_create_none {s : Deployment} {i : Nat} {input : CreateInput}
    (hr : s.service.requests[i]? = none) : s.act bip44 (.serve (.create i input)) = s := by
  unfold Deployment.act Service.act
  simp only [hr]

theorem Deployment.act_raise {s : Deployment} {i : Nat} {r : Request} {message : String}
    (hr : s.service.requests[i]? = some r) (hfin : r.phase.isFinished = false) :
    s.act bip44 (.serve (.raise i message)) = s.advance i r (.failed (.crash message)) := by
  unfold Deployment.act Service.act Deployment.advance
  simp only [hr, hfin]
  rfl

/-- A request that gets its price from the caches gets it from some input, or raises. -/
theorem priceFrom_deployment (bip44 : Bip44) (s : Deployment) {i : Nat} {r : Request} {material : XpubMaterial}
    (hr : s.service.requests[i]? = some r) (hphase : r.phase = .unused material)
    (source : SourceSettings) (input : SourceInput) (caches : Caches) :
    ∃ action, s.advance i r (priceFrom texts source r.body input caches material).1
      = s.act bip44 (.serve action) := by
  let live := input.live texts source caches
  let answer := (findQuote texts source.coinmarketcapApiKey input.quote caches.quote).1
  -- the same phase, reached with a configuration and a price that are given
  have hstep : ∀ hive phase, createPrice r.body hive (fetchQuote answer) material = phase →
      s.advance i r phase = s.act bip44 (.serve (.create i
        ⟨input.file, hive, answer, [], input.now, input.id⟩)) := by
    rintro hive phase rfl
    refine (Deployment.act_create hr ?_).symm
    rw [hphase]
    rfl
  cases hconfig : live.config with
  | some hive =>
      refine ⟨_, hstep hive _ ?_⟩
      rw [createPrice_live hconfig]
      unfold priceFrom SourceInput.fees
      cases checkAmount r.body.sats live with
      | error failure => rfl
      | ok u =>
          dsimp only
          cases liveFees r.body.sats live with
          | error failure => rfl
          | ok fees => rfl
  | none =>
      -- with an infinite percentage the checks are made and the fees raise
      have hfees : liveFees r.body.sats live = .error (.crash "OverflowError") := by
        unfold liveFees
        rw [hconfig]
      cases hcheck : checkAmount r.body.sats live with
      | ok u =>
          refine ⟨.raise i "OverflowError", ?_⟩
          rw [Deployment.act_raise hr (by rw [hphase]; rfl)]
          have hphase' : priceFrom texts source r.body input caches material
              = (.failed (.crash "OverflowError"), input.keepHive texts source caches) := by
            unfold priceFrom SourceInput.fees
            rw [show checkAmount r.body.sats (input.live texts source caches) = .ok u from hcheck]
            dsimp only
            rw [show liveFees r.body.sats (input.live texts source caches) = _ from hfees]
          rw [hphase']
      | error failure =>
          refine ⟨_, hstep
            { windows := [], convFeePercent := 0, convFeeSats := 0, routingFeeSats := 0
              minimumInvoicePaymentSats := live.minimumInvoicePaymentSats
              maximumInvoicePaymentSats := live.maximumInvoicePaymentSats } _ ?_⟩
          have hfailed : (priceFrom texts source r.body input caches material).1
              = .failed failure := by
            unfold priceFrom SourceInput.fees
            rw [show checkAmount r.body.sats (input.live texts source caches) = .error failure
              from hcheck]
          rw [hfailed]
          unfold createPrice
          unfold checkAmount at hcheck
          split_ifs at hcheck ⊢ with hsmall hlarge
          · cases hcheck
            rfl
          · cases hcheck
            rfl

/-- A request that gets its windows from the cache gets them from some input. -/
theorem limitFrom_deployment (bip44 : Bip44) (s : Deployment) {i : Nat} {r : Request} {material : XpubMaterial}
    {pricing : Pricing} (hr : s.service.requests[i]? = some r)
    (hphase : r.phase = .priced material pricing) (source : SourceSettings)
    (input : SourceInput) (caches : Caches) :
    ∃ action, s.advance i r
        (limitFrom texts source r.body input caches s.service.db.invoices material pricing).1
      = s.act bip44 (.serve action) := by
  let windows := (input.live texts source caches).windows
  refine ⟨.create i { input.plain with windows }, ?_⟩
  refine (Deployment.act_create hr ?_).symm
  rw [hphase]
  unfold limitFrom createStep
  dsimp only
  split_ifs with hcust
  · unfold createLimit checkCustRateLimit
    rw [if_pos hcust]
  · rfl

/-- **The caches add nothing.** An action of a process with caches is an action of the deployment. -/
theorem CachedDeployment.act_deployment (texts : TextNumbers) (sources : Nat → SourceSettings)
    (bip44 : Bip44) (s : CachedDeployment) (a : CachedAction) :
    ∃ action, (s.act texts sources bip44 a).deployment = s.deployment.act bip44 action := by
  cases a with
  | other action h => exact ⟨action, rfl⟩
  | create i input =>
      unfold CachedDeployment.act
      dsimp only
      cases hr : s.deployment.service.requests[i]? with
      | none => exact ⟨.serve (.create i input.plain), (Deployment.act_create_none hr).symm⟩
      | some r =>
          dsimp only
          cases hphase : r.phase with
          | unused material =>
              obtain ⟨action, haction⟩ := priceFrom_deployment bip44 s.deployment hr hphase
                (sources r.process) input (s.caches r.process)
              exact ⟨.serve action, haction⟩
          | priced material pricing =>
              obtain ⟨action, haction⟩ := limitFrom_deployment bip44 s.deployment hr hphase
                (sources r.process) input (s.caches r.process)
              exact ⟨.serve action, haction⟩
          | received | loaded | limited | allocated | built | answered | failed =>
              exact ⟨.serve (.create i input.plain), rfl⟩

/-- **Every run with caches is a run of the deployment**, action by action. -/
theorem CachedDeployment.run_deployment (s : CachedDeployment) (actions : List CachedAction) :
    ∃ actions' : List DeploymentAction, actions'.length = actions.length ∧
      ∀ n, (run (CachedDeployment.act texts sources bip44) s (actions.take n)).deployment
        = run (Deployment.act bip44) s.deployment (actions'.take n) :=
  run_simulation (CachedDeployment.act_deployment texts sources bip44) s actions

end Deployment

end Act

end V4vappDash
