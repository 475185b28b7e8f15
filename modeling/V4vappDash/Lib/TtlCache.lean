import V4vappDash.Lib.Machine

set_option autoImplicit false

/-! # Caches with a time to live

A value that was read from a source is kept until it expires. A call gets the value that is kept,
unless it has expired or the call insists on a new one; then the source is asked. A source that
fails leaves what is kept alone, expired or not; what to make of it is left to the caller.

* `after_eq_some`: what is kept was read by a call, at a time its expiry tells.
* `fetch_eq_some`: what a call gets it has read itself, or a call less than `ttl` before it.
* `after_append`: what is kept is only replaced by what is read later.
* `not_lt_of_miss`: calls that do not insist read the source at least `ttl` apart.
-/

namespace TtlCache

variable {τ β : Type*}

/-- What is kept. -/
structure Entry (τ β : Type*) where
  value : β
  expires : τ
  deriving DecidableEq

/-- A call: its time, whether it insists on a new value, and what the source has for it. -/
structure Call (τ β : Type*) where
  now : τ
  force : Bool := false
  read : Option β

variable [LT τ] [DecidableLT τ] [Add τ] (ttl : τ)

/-- The value that is kept, if the call is content with it. -/
def hit (c : Call τ β) (kept : Option (Entry τ β)) : Option β :=
  kept.bind (fun e => if !c.force && c.now < e.expires then some e.value else none)

/-- What the call gets, and what is kept afterwards. -/
def fetch (c : Call τ β) (kept : Option (Entry τ β)) : Option β × Option (Entry τ β) :=
  match hit c kept with
  | some v => (some v, kept)
  | none =>
      match c.read with
      | some v => (some v, some ⟨v, c.now + ttl⟩)
      | none => (none, kept)

/-- The call asks the source, which answers with `v`. -/
def Reads (c : Call τ β) (kept : Option (Entry τ β)) (v : β) : Prop :=
  hit c kept = none ∧ c.read = some v

/-- What is kept after a number of calls. -/
def after (kept : Option (Entry τ β)) (calls : List (Call τ β)) : Option (Entry τ β) :=
  Machine.run (fun kept c => (fetch ttl c kept).2) kept calls

variable {ttl} {c : Call τ β} {kept : Option (Entry τ β)}

omit [Add τ] in
theorem hit_eq_some {v : β} : hit c kept = some v ↔
    ∃ e, kept = some e ∧ e.value = v ∧ c.force = false ∧ c.now < e.expires := by
  unfold hit
  cases kept with
  | none => simp
  | some e =>
      rw [Option.bind_some]
      by_cases h : (!c.force && c.now < e.expires) = true
      · rw [if_pos h]
        rw [Bool.and_eq_true, decide_eq_true_eq, Bool.not_eq_true'] at h
        constructor
        · intro hv
          exact ⟨e, rfl, Option.some.inj hv, h⟩
        · rintro ⟨e', he, hv, -⟩
          obtain rfl := Option.some.inj he
          rw [hv]
      · rw [if_neg h]
        rw [Bool.and_eq_true, decide_eq_true_eq, Bool.not_eq_true'] at h
        constructor
        · intro hv
          cases hv
        · rintro ⟨e', he, -, hfresh⟩
          obtain rfl := Option.some.inj he
          exact absurd hfresh h

/-- A call is content with what is kept, reads the source, or gets nothing. -/
theorem fetch_cases (ttl : τ) (c : Call τ β) (kept : Option (Entry τ β)) :
    (∃ v, hit c kept = some v ∧ fetch ttl c kept = (some v, kept)) ∨
    (∃ v, Reads c kept v ∧ fetch ttl c kept = (some v, some ⟨v, c.now + ttl⟩)) ∨
    (hit c kept = none ∧ c.read = none ∧ fetch ttl c kept = (none, kept)) := by
  unfold fetch
  cases hhit : hit c kept with
  | some v => exact Or.inl ⟨v, rfl, rfl⟩
  | none =>
      cases hread : c.read with
      | some v => exact Or.inr (Or.inl ⟨v, ⟨hhit, hread⟩, rfl⟩)
      | none => exact Or.inr (Or.inr ⟨rfl, rfl, rfl⟩)

/-- What is kept after a call is what was kept before it, or what it has read. -/
theorem fetch_kept (ttl : τ) (c : Call τ β) (kept : Option (Entry τ β)) :
    (fetch ttl c kept).2 = kept ∨
      ∃ v, Reads c kept v ∧ (fetch ttl c kept).2 = some ⟨v, c.now + ttl⟩ := by
  rcases fetch_cases ttl c kept with ⟨v, -, h⟩ | ⟨v, hv, h⟩ | ⟨-, -, h⟩
  · exact Or.inl (congrArg Prod.snd h)
  · exact Or.inr ⟨v, hv, congrArg Prod.snd h⟩
  · exact Or.inl (congrArg Prod.snd h)

/-! ## Runs of calls -/

theorem after_concat (kept : Option (Entry τ β)) (calls : List (Call τ β)) (c : Call τ β) :
    after ttl kept (calls ++ [c]) = (fetch ttl c (after ttl kept calls)).2 := by
  unfold after
  rw [Machine.run_append, Machine.run_cons, Machine.run_nil]

/-- **What is kept is only replaced by what is read later.** -/
theorem after_append (ttl : τ) (kept : Option (Entry τ β)) (first rest : List (Call τ β)) :
    after ttl kept (first ++ rest) = after ttl kept first ∨
      ∃ before g later v, rest = before ++ g :: later ∧
        Reads g (after ttl kept (first ++ before)) v ∧
        after ttl kept (first ++ rest) = some ⟨v, g.now + ttl⟩ := by
  induction rest using List.reverseRecOn with
  | nil => exact Or.inl (by rw [List.append_nil])
  | append_singleton rest c ih =>
      rw [← List.append_assoc, after_concat]
      rcases fetch_kept ttl c (after ttl kept (first ++ rest)) with hsame | ⟨v, hv, hnew⟩
      · rw [hsame]
        rcases ih with hold | ⟨before, g, later, v, rfl, hread, hkept⟩
        · exact Or.inl hold
        · exact Or.inr ⟨before, g, later ++ [c], v, by simp, hread, hkept⟩
      · exact Or.inr ⟨rest, c, [], v, rfl, hv, hnew⟩

/-- What is kept after calls on an empty cache was read by one of them. -/
theorem after_eq_some {calls : List (Call τ β)} {e : Entry τ β}
    (h : after ttl none calls = some e) : ∃ before g later, calls = before ++ g :: later ∧
      Reads g (after ttl none before) e.value ∧ e.expires = g.now + ttl := by
  have hempty : after ttl (none : Option (Entry τ β)) [] = none := rfl
  rcases after_append ttl none [] calls with
    hnone | ⟨before, g, later, v, rfl, hread, hkept⟩
  · rw [List.nil_append, hempty, h] at hnone
    cases hnone
  · rw [List.nil_append, h] at hkept
    cases hkept
    exact ⟨before, g, later, rfl, hread, rfl⟩

/-- **Freshness.** What a call gets it has read itself, or it was read by an earlier call and less
than `ttl` has passed since. -/
theorem fetch_eq_some {calls : List (Call τ β)} {v : β}
    (h : (fetch ttl c (after ttl none calls)).1 = some v) :
    Reads c (after ttl none calls) v ∨
      (c.force = false ∧ ∃ before g later, calls = before ++ g :: later ∧
        Reads g (after ttl none before) v ∧ c.now < g.now + ttl) := by
  rcases fetch_cases ttl c (after ttl none calls) with
    ⟨w, hw, hfetch⟩ | ⟨w, hw, hfetch⟩ | ⟨-, -, hfetch⟩
  · rw [hfetch] at h
    obtain rfl := Option.some.inj h
    obtain ⟨e, he, rfl, hforce, hlt⟩ := hit_eq_some.mp hw
    obtain ⟨before, g, later, hcalls, hread, hexpires⟩ := after_eq_some he
    rw [hexpires] at hlt
    exact Or.inr ⟨hforce, before, g, later, hcalls, hread, hlt⟩
  · rw [hfetch] at h
    obtain rfl := Option.some.inj h
    exact Or.inl hw
  · rw [hfetch] at h
    cases h

omit [Add τ] in
/-- **Reads are `ttl` apart.** A call that does not insist asks the source only when `ttl` has
passed since the last read. -/
theorem not_lt_of_miss {e : Entry τ β} (hforce : c.force = false) (h : hit c (some e) = none) :
    ¬ c.now < e.expires := by
  intro hlt
  have hhit : hit c (some e) = some e.value := hit_eq_some.mpr ⟨e, rfl, rfl, hforce, hlt⟩
  rw [hhit] at h
  cases h

end TtlCache
