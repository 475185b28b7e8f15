import V4vappDash.System.Prices

set_option autoImplicit false

/-! # Which configuration a request gets

A request is bounded and charged by the configuration that is fetched when it is priced; when it
names a customer, its rate windows are fetched a second time. Between the two the process may have
read a new configuration, but it never goes back to an older one: `config_moves_forward`.
-/

namespace V4vappDash

open Machine

section Config

variable (texts : TextNumbers) (sources : Nat → SourceSettings)

/-- The call that an action makes to the Hive cache of a process. -/
def hiveCall (process : Nat) (s : CachedDeployment) :
    CachedAction → Option (TtlCache.Call ℚ LiveConfig)
  | .other _ _ => none
  | .create i input =>
      let call := input.hive.call texts (sources process).dashRoutingFeeSats
      match s.deployment.service.requests[i]? with
      | none => none
      | some r =>
          match r.phase with
          | .unused _ => if r.process = process then some call else none
          | .priced _ _ =>
              if r.process = process ∧ r.body.custId.getD "" ≠ "" then some call else none
          | _ => none

def CachedDeployment.hiveCache (process : Nat) (s : CachedDeployment) :
    Option (TtlCache.Entry ℚ LiveConfig) :=
  (s.caches process).hive.map HiveCache.entry

/-- An action of a process gets a configuration. -/
def GetsConfig (s : CachedDeployment) (a : CachedAction) (process : Nat) (live : LiveConfig) :
    Prop :=
  hiveCall texts sources process s a ≠ none ∧
    ∃ i input, a = .create i input ∧ live = input.live texts (sources process) (s.caches process)

/-- A process reads a configuration from the status endpoint: a request of it is at its pricing or
at its limit check, the cache of the process has nothing for it, and the endpoint has. -/
def ReadsConfig (s : CachedDeployment) (a : CachedAction) (process : Nat) (live : LiveConfig) :
    Prop :=
  ∃ i input raw, a = .create i input ∧
    let call := input.hive.call texts (sources process).dashRoutingFeeSats
    hiveCall texts sources process s a = some call ∧
      TtlCache.hit call (s.hiveCache process) = none ∧
      input.hive.Reads texts (sources process).dashRoutingFeeSats raw live

/-- What a call gets when this is in the cache after it. -/
def liveOf (source : SourceSettings) (kept : Option (TtlCache.Entry ℚ LiveConfig)) : LiveConfig :=
  (kept.map TtlCache.Entry.value).getD (fallbackConfig source.dashRoutingFeeSats)

variable {texts sources} {bip44 : Bip44}

theorem keepHive_entry (source : SourceSettings) (input : SourceInput) (caches : Caches) :
    (input.keepHive texts source caches).hive.map HiveCache.entry
      = (TtlCache.fetch 60 (input.hive.call texts source.dashRoutingFeeSats)
          (caches.hive.map HiveCache.entry)).2 :=
  (fetchHiveConfig_eq texts source.dashRoutingFeeSats input.hive caches.hive).1

theorem live_eq (source : SourceSettings) (input : SourceInput) (caches : Caches) :
    input.live texts source caches
      = liveOf source ((input.keepHive texts source caches).hive.map HiveCache.entry) := by
  have hlive := (fetchHiveConfig_eq texts source.dashRoutingFeeSats input.hive caches.hive).2
  unfold SourceInput.live SourceInput.keepHive liveOf
  rw [hlive, Option.map_map]
  rfl

theorem priceFrom_hive (source : SourceSettings) (body : InvoiceCreate) (input : SourceInput)
    (caches : Caches) (material : XpubMaterial) :
    (priceFrom texts source body input caches material).2.hive
      = (input.keepHive texts source caches).hive := by
  unfold priceFrom
  cases input.fees texts source body caches with
  | error failure => rfl
  | ok fees => rfl

/-- The Hive cache of a process moves with the calls that its requests make. -/
theorem hive_act (process : Nat) (s : CachedDeployment) (a : CachedAction) :
    (s.act texts sources bip44 a).hiveCache process
      = (hiveCall texts sources process s a).elim (s.hiveCache process)
          (fun c => (TtlCache.fetch 60 c (s.hiveCache process)).2) := by
  unfold CachedDeployment.hiveCache
  cases a with
  | other action hother => rfl
  | create i input =>
      unfold CachedDeployment.act hiveCall
      dsimp only
      cases hr : s.deployment.service.requests[i]? with
      | none => rfl
      | some r =>
          dsimp only
          cases hphase : r.phase with
          | unused material =>
              dsimp only
              by_cases hp : r.process = process
              · subst hp
                rw [if_pos rfl, Function.update_self, priceFrom_hive]
                exact keepHive_entry _ input _
              · rw [if_neg hp, Function.update_of_ne (Ne.symm hp)]
                rfl
          | priced material pricing =>
              dsimp only
              by_cases hp : r.process = process
              · subst hp
                rw [Function.update_self]
                unfold limitFrom
                by_cases hcust : r.body.custId.getD "" = ""
                · rw [if_pos hcust, if_neg (fun h => h.2 hcust)]
                  rfl
                · rw [if_neg hcust, if_pos ⟨rfl, hcust⟩]
                  exact keepHive_entry _ input _
              · rw [if_neg (fun h => hp h.1), Function.update_of_ne (Ne.symm hp)]
                rfl
          | received | loaded | limited | allocated | built | answered | failed => rfl

/-- The Hive cache of a process, after a run from the start. -/
theorem hive_run (process : Nat) (actions : List CachedAction) :
    (run (CachedDeployment.act texts sources bip44) .empty actions).hiveCache process
      = TtlCache.after 60 none (outputs (CachedDeployment.act texts sources bip44)
          (hiveCall texts sources process) .empty actions) :=
  run_component (hive_act process) CachedDeployment.empty actions

/-- Who calls the Hive cache of a process. -/
theorem hiveCall_eq_some {process : Nat} {s : CachedDeployment} {a : CachedAction}
    {c : TtlCache.Call ℚ LiveConfig} (h : hiveCall texts sources process s a = some c) :
    ∃ i input r, a = .create i input ∧ s.deployment.service.requests[i]? = some r ∧
      r.process = process ∧ c = input.hive.call texts (sources process).dashRoutingFeeSats := by
  cases a with
  | other action hother => cases h
  | create i input =>
      unfold hiveCall at h
      dsimp only at h
      cases hr : s.deployment.service.requests[i]? with
      | none => rw [hr] at h; cases h
      | some r =>
          rw [hr] at h
          dsimp only at h
          cases hphase : r.phase with
          | unused material =>
              rw [hphase] at h
              by_cases hp : r.process = process
              · rw [if_pos hp] at h
                exact ⟨i, input, r, rfl, hr, hp, (Option.some.inj h).symm⟩
              · rw [if_neg hp] at h
                cases h
          | priced material pricing =>
              rw [hphase] at h
              by_cases hp : r.process = process ∧ r.body.custId.getD "" ≠ ""
              · rw [if_pos hp] at h
                exact ⟨i, input, r, rfl, hr, hp.1, (Option.some.inj h).symm⟩
              · rw [if_neg hp] at h
                cases h
          | received | loaded | limited | allocated | built | answered | failed =>
              rw [hphase] at h
              cases h

/-- What an action gets is what is in the cache after it. -/
theorem GetsConfig.live_eq (bip44 : Bip44) {process : Nat} {s : CachedDeployment}
    {a : CachedAction} {live : LiveConfig} (h : GetsConfig texts sources s a process live) :
    live = liveOf (sources process) ((s.act texts sources bip44 a).hiveCache process) := by
  obtain ⟨hcall, i, input, rfl, hlive⟩ := h
  obtain ⟨c, hc⟩ := Option.ne_none_iff_exists'.mp hcall
  obtain ⟨j, input', r, hsame, -, -, rfl⟩ := hiveCall_eq_some hc
  cases hsame
  rw [hive_act, hc, Option.elim_some, hlive, V4vappDash.live_eq]
  exact congrArg (liveOf (sources process)) (keepHive_entry _ input (s.caches process))

/-- A call that reads was made by an action that reads. -/
theorem readsConfig_of_hiveCall {process : Nat} {s : CachedDeployment} {a : CachedAction}
    {c : TtlCache.Call ℚ LiveConfig} {live : LiveConfig}
    (h : hiveCall texts sources process s a = some c)
    (hread : TtlCache.Reads c (s.hiveCache process) live) :
    ReadsConfig texts sources s a process live := by
  obtain ⟨i, input, r, ha, hr, hp, rfl⟩ := hiveCall_eq_some h
  obtain ⟨raw, hraw, hparse⟩ := Option.bind_eq_some_iff.mp hread.2
  exact ⟨i, input, raw, ha, h, hread.1, hraw, hparse⟩

/-- **A process never goes back to an older configuration.** When two actions of a process get a
configuration, one after the other, the second gets the same as the first, or one that an action of
the process has read from the status endpoint after the first. So the windows a request is checked
against are never older than the bounds and the fees it was given. -/
theorem config_moves_forward (texts : TextNumbers) (sources : Nat → SourceSettings)
    (bip44 : Bip44) (process : Nat) (before between : List CachedAction) (a a' : CachedAction)
    (live live' : LiveConfig)
    (hfirst : GetsConfig texts sources
      (run (CachedDeployment.act texts sources bip44) .empty before) a process live)
    (hsecond : GetsConfig texts sources
      (run (CachedDeployment.act texts sources bip44) .empty (before ++ a :: between)) a' process
      live') :
    live' = live ∨ ∃ mid b rest, between ++ [a'] = mid ++ b :: rest ∧
      ReadsConfig texts sources
        (run (CachedDeployment.act texts sources bip44) .empty (before ++ a :: mid)) b process
        live' := by
  have hafter : run (CachedDeployment.act texts sources bip44) .empty (before ++ [a])
      = (run (CachedDeployment.act texts sources bip44) .empty before).act texts sources bip44 a := by
    rw [run_append, run_cons, run_nil]
  have hafter' : run (CachedDeployment.act texts sources bip44) .empty
      ((before ++ [a]) ++ (between ++ [a']))
        = (run (CachedDeployment.act texts sources bip44) .empty (before ++ a :: between)).act texts
            sources bip44 a' := by
    rw [← List.append_assoc, run_append _ _ _ [a'], run_cons, run_nil, List.append_assoc]
    rfl
  have hlive := hfirst.live_eq bip44
  have hlive' := hsecond.live_eq bip44
  rw [← hafter, hive_run] at hlive
  rw [← hafter', hive_run, outputs_append] at hlive'
  rcases TtlCache.after_append 60 none
      (outputs (CachedDeployment.act texts sources bip44) (hiveCall texts sources process) .empty
        (before ++ [a]))
      (outputs (CachedDeployment.act texts sources bip44) (hiveCall texts sources process)
        (run (CachedDeployment.act texts sources bip44) .empty (before ++ [a])) (between ++ [a']))
    with hsame | ⟨pre, g, later, v, hcalls, hread, hnew⟩
  · rw [hsame, ← hlive] at hlive'
    exact Or.inl hlive'
  -- the cache holds what a later call has read
  · rw [hnew] at hlive'
    obtain rfl : live' = v := hlive'
    obtain ⟨mid, b, rest, hsplit, rfl, hout⟩ := outputs_split hcalls
    rw [← outputs_append, ← hive_run] at hread
    rw [← run_append] at hout
    have hreads := readsConfig_of_hiveCall hout hread
    rw [List.append_assoc] at hreads
    exact Or.inr ⟨mid, b, rest, hsplit, hreads⟩

end Config

/-! ## Two requests -/

/-- A minute later the status endpoint answers. -/
def laterSource : SourceInput :=
  { dustSource with hive := { now := 60, response := some (.obj [("config", .obj [])]) } }

/-- A second request comes in. -/
def laterActions : List CachedAction :=
  .other (.serve (.post 0 pairBody)) rfl :: List.replicate 2 (.create 1 laterSource)

theorem run_laterActions : run (CachedDeployment.act noTexts (fun _ => {}) dustKeys) .empty
    (dustStart ++ .create 0 dustSource :: laterActions)
      = run (CachedDeployment.act noTexts (fun _ => {}) dustKeys)
        (dustServing (.priced dustMaterial dustPricing)
          (Function.update (fun _ => {}) 0 { quote := some ⟨dustQuote, 60⟩ })) laterActions := by
  rw [run_append, run_dustStart, run_cons, act_dustServing]

/-- The first request gets the built-in configuration, and the second one what it reads. -/
theorem config_moves_forward_dust : ∃ live,
    GetsConfig noTexts (fun _ => {})
      (run (CachedDeployment.act noTexts (fun _ => {}) dustKeys) .empty
        (dustStart ++ .create 0 dustSource :: laterActions)) (.create 1 laterSource) 0 live ∧
    (live = fallbackConfig 300 ∨ ∃ mid b rest,
      laterActions ++ [.create 1 laterSource] = mid ++ b :: rest ∧
      ReadsConfig noTexts (fun _ => {})
        (run (CachedDeployment.act noTexts (fun _ => {}) dustKeys) .empty
          (dustStart ++ .create 0 dustSource :: mid)) b 0 live) := by
  have hfirst : GetsConfig noTexts (fun _ => {})
      (run (CachedDeployment.act noTexts (fun _ => {}) dustKeys) .empty dustStart)
      (.create 0 dustSource) 0 (fallbackConfig 300) := by
    rw [run_dustStart]
    exact ⟨Option.some_ne_none _, 0, dustSource, rfl, rfl⟩
  obtain ⟨live, hsecond⟩ : ∃ live, GetsConfig noTexts (fun _ => {})
      (run (CachedDeployment.act noTexts (fun _ => {}) dustKeys) .empty
        (dustStart ++ .create 0 dustSource :: laterActions)) (.create 1 laterSource) 0 live := by
    rw [run_laterActions]
    exact ⟨_, Option.some_ne_none _, 1, laterSource, rfl, rfl⟩
  exact ⟨live, hsecond, config_moves_forward noTexts (fun _ => {}) dustKeys 0 dustStart laterActions
    _ _ _ _ hfirst hsecond⟩

end V4vappDash
