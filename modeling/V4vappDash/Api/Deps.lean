import V4vappDash.Api.Errors

set_option autoImplicit false

/-! # API keys

`api/deps.py`. Two keys are accepted, so that clients may go on with the old key while it is being
replaced; one that is not configured matches nothing. Every endpoint but `/health` asks for a key
before anything else.
-/

namespace V4vappDash

/-- The settings `dash_api_key` and `dash_api_key_prev` of a process. -/
structure ApiKeys where
  dashApiKey : String := ""
  dashApiKeyPrev : String := ""

/-- `_matches`: two texts are the same when their encodings are. -/
def matchesKey (provided expected : String) : Bool :=
  if expected = "" then false else provided = expected

/-- `require_api_key`, from the header of a request. -/
def requireApiKey (keys : ApiKeys) (xApiKey : Option String) : Except ApiError String :=
  match xApiKey with
  | none | some "" =>
      .error
        { statusCode := 401, code := "unauthorized", message := "Missing X-API-Key header" }
  | some key =>
      if matchesKey key keys.dashApiKey || matchesKey key keys.dashApiKeyPrev then .ok key
      else .error { statusCode := 401, code := "unauthorized", message := "Invalid API key" }

/-- A header that is let through holds one of the configured keys. -/
theorem requireApiKey_ok {keys : ApiKeys} {xApiKey : Option String} {key : String}
    (h : requireApiKey keys xApiKey = .ok key) :
    xApiKey = some key ∧ key ≠ "" ∧ (key = keys.dashApiKey ∨ key = keys.dashApiKeyPrev) := by
  unfold requireApiKey at h
  split at h
  · cases h
  · cases h
  · rename_i provided hne
    by_cases hmatch : (matchesKey provided keys.dashApiKey ||
        matchesKey provided keys.dashApiKeyPrev) = true
    · rw [if_pos hmatch] at h
      cases h
      refine ⟨rfl, hne, ?_⟩
      unfold matchesKey at hmatch
      rcases Bool.or_eq_true_iff.mp hmatch with hnew | hold
      · split_ifs at hnew
        exact Or.inl (of_decide_eq_true hnew)
      · split_ifs at hold
        exact Or.inr (of_decide_eq_true hold)
    · rw [if_neg hmatch] at h
      cases h

end V4vappDash
