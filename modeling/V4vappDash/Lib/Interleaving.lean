import Mathlib.Logic.Relation

set_option autoImplicit false

/-! # Interleaved processes over a shared state

A *family* of processes acts on one shared state `σ`. Every process carries a local state
`ℓ` (its program counter together with its local variables), and one step of the family is
one atomic step of one process, chosen freely, or the start of a new process. Nothing bounds
the number of processes.

Two rules cover the runs of a family.

* `Run.invariant` is the rely/guarantee rule: an assertion `I` on the shared state and an
  assertion `L` on every local state hold along a run as soon as each process re-establishes
  `I` and its own `L`, and no step of one process destroys the `L` of another
  (`Family.Inductive`).
* `Run.guarantee` lifts a two-state guarantee from steps to runs: what every step may do to
  the shared state, a run may do to it, provided the guarantee is reflexive and transitive.
-/

namespace Interleaving

/-- A family of processes: the local states a process may start in, and the atomic steps
`step s l s' l'` of a process in local state `l` when the shared state is `s`. -/
structure Family (σ ℓ : Type*) where
  spawn : ℓ → Prop
  step : σ → ℓ → σ → ℓ → Prop

/-- The shared state and the local states of the processes started so far. -/
structure Config (σ ℓ : Type*) where
  shared : σ
  locals : List ℓ

variable {σ ℓ : Type*} (F : Family σ ℓ)

/-- One step of the family: a process starts, or process number `i` takes an atomic step. -/
inductive Step : Config σ ℓ → Config σ ℓ → Prop
  | spawn {c : Config σ ℓ} (l : ℓ) (hl : F.spawn l) : Step c ⟨c.shared, c.locals ++ [l]⟩
  | act {c : Config σ ℓ} (i : Nat) {l l' : ℓ} {s' : σ} (hi : c.locals[i]? = some l)
      (h : F.step c.shared l s' l') : Step c ⟨s', c.locals.set i l'⟩

/-- A run of the family: any number of steps. -/
def Run : Config σ ℓ → Config σ ℓ → Prop := Relation.ReflTransGen (Step F)

/-- A run of a family is a run of another one that can start the same processes and can take
the same steps, as far as `f` looks at the shared state. -/
theorem Run.map {σ' : Type*} {F : Family σ ℓ} {F' : Family σ' ℓ} (f : σ → σ')
    (hspawn : ∀ {l}, F.spawn l → F'.spawn l)
    (hstep : ∀ {s l s' l'}, F.step s l s' l' → F'.step (f s) l (f s') l')
    {c c' : Config σ ℓ} (h : Run F c c') :
    Run F' ⟨f c.shared, c.locals⟩ ⟨f c'.shared, c'.locals⟩ := by
  induction h with
  | refl => exact .refl
  | tail _ hs ih =>
      refine .tail ih ?_
      cases hs with
      | spawn l hl => exact .spawn l (hspawn hl)
      | act i hi h => exact .act i hi (hstep h)

/-- The proof obligations of the rely/guarantee rule. -/
structure Family.Inductive (I : σ → Prop) (L : σ → ℓ → Prop) : Prop where
  /-- A process starts in a local state that meets its assertion. -/
  spawn : ∀ {s l}, I s → F.spawn l → L s l
  /-- A step keeps the shared assertion. -/
  shared : ∀ {s l s' l'}, I s → L s l → F.step s l s' l' → I s'
  /-- A step keeps the assertion of the process that takes it. -/
  own : ∀ {s l s' l'}, I s → L s l → F.step s l s' l' → L s' l'
  /-- A step does not interfere with the assertion of another process. -/
  stable : ∀ {s l s' l' m}, I s → L s l → L s m → F.step s l s' l' → L s' m

/-- The assertions `I` and `L` hold in a configuration. -/
def Holds (I : σ → Prop) (L : σ → ℓ → Prop) (c : Config σ ℓ) : Prop :=
  I c.shared ∧ ∀ l ∈ c.locals, L c.shared l

variable {F} {I : σ → Prop} {L : σ → ℓ → Prop}

theorem Step.holds (hF : F.Inductive I L) {c c' : Config σ ℓ} (h : Step F c c')
    (hc : Holds I L c) : Holds I L c' := by
  obtain ⟨hI, hL⟩ := hc
  cases h with
  | spawn l hl =>
      refine ⟨hI, ?_⟩
      intro m hm
      rcases List.mem_append.mp hm with hm | hm
      · exact hL m hm
      · rw [List.mem_singleton.mp hm]; exact hF.spawn hI hl
  | @act i l l' s' hi h =>
      have hl : L c.shared l := hL l (List.mem_of_getElem? hi)
      refine ⟨hF.shared hI hl h, ?_⟩
      intro m hm
      -- `m` is a process that did not move, or what the process that moved has become
      rcases List.mem_or_eq_of_mem_set hm with hm | rfl
      · exact hF.stable hI hl (hL m hm) h
      · exact hF.own hI hl h

/-- **The rely/guarantee rule.** An inductive pair of assertions that holds at the start of a
run holds at its end. -/
theorem Run.invariant (hF : F.Inductive I L) {c c' : Config σ ℓ} (h : Run F c c')
    (hc : Holds I L c) : Holds I L c' := by
  induction h with
  | refl => exact hc
  | tail _ hs ih => exact hs.holds hF ih

/-- An assertion on the shared state may use those already known to be inductive. -/
theorem Family.Inductive.strengthen (hF : F.Inductive I L) {J : σ → Prop}
    (hJ : ∀ {s l s' l'}, I s → L s l → J s → F.step s l s' l' → J s') :
    F.Inductive (fun s => I s ∧ J s) L where
  spawn := fun h hl => hF.spawn h.1 hl
  shared := fun h hl hs => ⟨hF.shared h.1 hl hs, hJ h.1 hl h.2 hs⟩
  own := fun h hl hs => hF.own h.1 hl hs
  stable := fun h hl hm hs => hF.stable h.1 hl hm hs

/-- **The guarantee rule.** If every step of a process keeps the assertions and takes the
shared state along a reflexive and transitive relation `G`, then so does every run. -/
theorem Run.guarantee (hF : F.Inductive I L) {G : σ → σ → Prop} (hrefl : ∀ s, G s s)
    (htrans : ∀ {s t u}, G s t → G t u → G s u)
    (hG : ∀ {s l s' l'}, I s → L s l → F.step s l s' l' → G s s')
    {c c' : Config σ ℓ} (h : Run F c c') (hc : Holds I L c) : G c.shared c'.shared := by
  induction h with
  | refl => exact hrefl _
  | @tail c₁ c₂ hrun hs ih =>
      have h₁ : Holds I L c₁ := Run.invariant hF hrun hc
      apply htrans ih
      cases hs with
      | spawn l hl => exact hrefl _
      | act i hi h => exact hG h₁.1 (h₁.2 _ (List.mem_of_getElem? hi)) h

end Interleaving
