import Mathlib.Data.List.Induction

set_option autoImplicit false

/-! # Machines driven by actions

A machine is a function `act` that takes a state and an action to the next state. A run is a
list of actions; whatever a run does not determine (which process moves next, what it is told
from outside) is part of its actions. A condition on the actions of a run is a predicate on
the action and the state in which it is taken (`Along`).

* `run_invariant`, `Along.invariant`: what every action (that meets the condition) preserves,
  a run preserves.
* `run_guarantee`: where every action takes the state along a reflexive and transitive relation,
  so does every run.
* `Along.run_filter`: actions that leave a relation to the other states alone may be left out.
* `run_simulation`: where every action is seen as an action of a second machine, every run is seen
  as a run of it, step by step.
* `run_origin`: what a state carries, and the first state did not, was made by an action on the way.
* `outputs_split`: where an output was put out, and what was put out before it.
* `outputs_invariant`: the invariant rule for a state together with all that has been put out.
* `outputs_pairwise`: where the state remembers enough about what was put out for every action
  to put its output in order, all outputs of a run are in order.
* `run_component`: a part of the state that moves with the outputs of a run, and only with them,
  runs as a machine of its own.
* `Along.reaches`: where a rank goes down with every output until an action hits, a run with more
  outputs than the rank holds an action that hits.
-/

namespace Machine

variable {σ α : Type*} (act : σ → α → σ)

/-- The state a list of actions leads to. -/
def run (s : σ) (actions : List α) : σ := actions.foldl act s

@[simp] theorem run_nil (s : σ) : run act s [] = s := rfl

@[simp] theorem run_cons (s : σ) (a : α) (rest : List α) :
    run act s (a :: rest) = run act (act s a) rest := rfl

theorem run_append (s : σ) (first second : List α) :
    run act s (first ++ second) = run act (run act s first) second :=
  List.foldl_append

/-- Every action meets `ok` in the state in which it is taken. -/
def Along (ok : σ → α → Prop) : σ → List α → Prop
  | _, [] => True
  | s, a :: rest => ok s a ∧ Along ok (act s a) rest

variable {act} {ok ok' : σ → α → Prop}

theorem along_append {s : σ} {first second : List α} :
    Along act ok s (first ++ second) ↔
      Along act ok s first ∧ Along act ok (run act s first) second := by
  induction first generalizing s with
  | nil => simp [Along]
  | cons a rest ih =>
      rw [List.cons_append, Along, Along, run_cons, ih, and_assoc]

theorem along_of_mem {s : σ} {actions : List α} (h : ∀ a ∈ actions, ∀ t, ok t a) :
    Along act ok s actions := by
  induction actions generalizing s with
  | nil => trivial
  | cons a rest ih =>
      exact ⟨h a List.mem_cons_self s, ih (fun b hb => h b (List.mem_cons_of_mem a hb))⟩

theorem along_replicate {s : σ} {a : α} {n : Nat}
    (h : ∀ k < n, ok (run act s (List.replicate k a)) a) :
    Along act ok s (List.replicate n a) := by
  induction n with
  | zero => trivial
  | succ n ih =>
      rw [List.replicate_succ', along_append]
      refine ⟨ih ?_, h n (by omega), trivial⟩
      intro k hk
      exact h k (by omega)

theorem Along.and {s : σ} {actions : List α} (h : Along act ok s actions)
    (h' : Along act ok' s actions) : Along act (fun s a => ok s a ∧ ok' s a) s actions := by
  induction actions generalizing s with
  | nil => trivial
  | cons a rest ih => exact ⟨⟨h.1, h'.1⟩, ih h.2 h'.2⟩

theorem Along.mono (h : ∀ s a, ok s a → ok' s a) {s : σ} {actions : List α}
    (hok : Along act ok s actions) : Along act ok' s actions := by
  induction actions generalizing s with
  | nil => trivial
  | cons a rest ih => exact ⟨h s a hok.1, ih hok.2⟩

/-- **The invariant rule.** -/
theorem run_invariant {P : σ → Prop} (hstep : ∀ s a, P s → P (act s a)) {s : σ} (hs : P s)
    (actions : List α) : P (run act s actions) := by
  induction actions generalizing s with
  | nil => exact hs
  | cons a rest ih => exact ih (hstep s a hs)

/-- **The invariant rule under a condition.** -/
theorem Along.invariant {P : σ → Prop} (hstep : ∀ s a, P s → ok s a → P (act s a)) {s : σ}
    {actions : List α} (hok : Along act ok s actions) (hs : P s) : P (run act s actions) := by
  induction actions generalizing s with
  | nil => exact hs
  | cons a rest ih => exact ih hok.2 (hstep s a hs hok.1)

/-- Two conditions that come to the same in every state with the invariant are met by the same
runs. -/
theorem Along.congr {P : σ → Prop} {ok₁ ok₂ : σ → α → Prop} (hP : ∀ s a, P s → P (act s a))
    (hiff : ∀ s a, P s → ok s a → (ok₁ s a ↔ ok₂ s a)) {s : σ} {actions : List α}
    (hok : Along act ok s actions) (hs : P s) :
    Along act ok₁ s actions ↔ Along act ok₂ s actions := by
  induction actions generalizing s with
  | nil => exact Iff.rfl
  | cons a rest ih => exact and_congr (hiff s a hs hok.1) (ih hok.2 (hP s a hs))

/-- A condition along a run, action by action. -/
theorem along_iff_split {s : σ} {actions : List α} : Along act ok s actions ↔
    ∀ before a after, actions = before ++ a :: after → ok (run act s before) a := by
  constructor
  · rintro h before a after rfl
    exact (along_append.mp h).2.1
  · intro h
    induction actions generalizing s with
    | nil => trivial
    | cons a rest ih =>
        refine ⟨h [] a rest rfl, ih ?_⟩
        rintro before b after rfl
        exact h (a :: before) b after rfl

/-- **The omission rule.** Where an action of the one kind keeps two states related, and one of the
other kind does so when only the first state takes it, the run without the actions of the other
kind ends in a related state. -/
theorem Along.run_filter {R : σ → σ → Prop} {keep : α → Bool}
    (hkeep : ∀ s t a, R s t → keep a = true → R (act s a) (act t a))
    (hdrop : ∀ s t a, R s t → keep a = false → ok s a → R (act s a) t) {s t : σ}
    {actions : List α} (hok : Along act ok s actions) (h : R s t) :
    R (run act s actions) (run act t (actions.filter keep)) := by
  induction actions generalizing s t with
  | nil => exact h
  | cons a rest ih =>
      cases ha : keep a with
      | true =>
          rw [List.filter_cons_of_pos ha]
          exact ih hok.2 (hkeep s t a h ha)
      | false =>
          rw [List.filter_cons_of_neg (by simp [ha])]
          exact ih hok.2 (hdrop s t a h ha hok.1)

/-- **The guarantee rule.** -/
theorem run_guarantee {G : σ → σ → Prop} (hrefl : ∀ s, G s s)
    (htrans : ∀ s t u, G s t → G t u → G s u) (hstep : ∀ s a, G s (act s a)) (s : σ)
    (actions : List α) : G s (run act s actions) := by
  induction actions generalizing s with
  | nil => exact hrefl s
  | cons a rest ih => exact htrans _ _ _ (hstep s a) (ih (act s a))

/-- **The simulation rule.** -/
theorem run_simulation {τ β : Type*} {act' : τ → β → τ} {view : σ → τ}
    (hstep : ∀ s a, ∃ b, view (act s a) = act' (view s) b) (s : σ) (actions : List α) :
    ∃ actions' : List β, actions'.length = actions.length ∧
      ∀ n, view (run act s (actions.take n)) = run act' (view s) (actions'.take n) := by
  induction actions generalizing s with
  | nil => exact ⟨[], rfl, fun n => by rw [List.take_nil, List.take_nil, run_nil, run_nil]⟩
  | cons a rest ih =>
      obtain ⟨b, hb⟩ := hstep s a
      obtain ⟨rest', hlength, hrest⟩ := ih (act s a)
      refine ⟨b :: rest', by rw [List.length_cons, List.length_cons, hlength], ?_⟩
      intro n
      cases n with
      | zero => rfl
      | succ n =>
          rw [List.take_succ_cons, List.take_succ_cons, run_cons, run_cons, ← hb]
          exact hrest n

/-- **The origin rule.** What is carried after a run that started without it was made by an action
of the run. -/
theorem run_origin {β : Type*} {carries : σ → β → Prop} {makes : σ → α → β → Prop}
    (hstep : ∀ s a b, carries (act s a) b → carries s b ∨ makes s a b) {s : σ} {b : β}
    (hs : ¬ carries s b) {actions : List α} (h : carries (run act s actions) b) :
    ∃ before a after, actions = before ++ a :: after ∧ makes (run act s before) a b := by
  induction actions generalizing s with
  | nil => exact absurd h hs
  | cons a rest ih =>
      by_cases hnext : carries (act s a) b
      · rcases hstep s a b hnext with hold | hmade
        · exact absurd hold hs
        · exact ⟨[], a, rest, rfl, hmade⟩
      · obtain ⟨before, a', after, rfl, hmade⟩ := ih hnext h
        exact ⟨a :: before, a', after, rfl, hmade⟩

/-! ## What a run puts out -/

section Outputs

variable {β : Type*} (act) (out : σ → α → Option β)

/-- The outputs of the actions of a run, in their order. -/
def outputs : σ → List α → List β
  | _, [] => []
  | s, a :: rest => (out s a).toList ++ outputs (act s a) rest

variable {act out} {used : σ → β → Prop} {R : β → β → Prop}

/-- **The output rule.** `used` is what a state remembers: it is never forgotten, and an output
comes after all that is remembered and is remembered itself. -/
theorem outputs_pairwise (hkeep : ∀ s a b, used s b → used (act s a) b)
    (hout : ∀ s a b, out s a = some b → used (act s a) b ∧ ∀ b', used s b' → R b' b)
    (s : σ) (actions : List α) :
    (outputs act out s actions).Pairwise R ∧
      ∀ b ∈ outputs act out s actions, used (run act s actions) b ∧ ∀ b', used s b' → R b' b := by
  induction actions generalizing s with
  | nil => exact ⟨.nil, nofun⟩
  | cons a rest ih =>
      obtain ⟨hpair, hrest⟩ := ih (act s a)
      have hlater : ∀ b ∈ outputs act out (act s a) rest,
          used (run act (act s a) rest) b ∧ ∀ b', used s b' → R b' b :=
        fun b hb => ⟨(hrest b hb).1, fun b' hb' => (hrest b hb).2 b' (hkeep s a b' hb')⟩
      unfold outputs
      rw [run_cons]
      cases ho : out s a with
      | none => exact ⟨hpair, hlater⟩
      | some b =>
          obtain ⟨hused, hbefore⟩ := hout s a b ho
          refine ⟨List.pairwise_cons.mpr ⟨fun b' hb' => (hrest b' hb').2 b hused, hpair⟩, ?_⟩
          intro b' hb'
          rcases List.mem_cons.mp hb' with rfl | hb'
          · exact ⟨run_invariant (P := fun t => used t b') (fun t a => hkeep t a b') hused rest,
              hbefore⟩
          · exact hlater b' hb'

theorem outputs_append (s : σ) (first second : List α) :
    outputs act out s (first ++ second)
      = outputs act out s first ++ outputs act out (run act s first) second := by
  induction first generalizing s with
  | nil => rfl
  | cons a rest ih => rw [List.cons_append, outputs, outputs, ih, List.append_assoc, run_cons]

theorem mem_outputs {s : σ} {before after : List α} {a : α} {b : β}
    (h : out (run act s before) a = some b) :
    b ∈ outputs act out s (before ++ a :: after) := by
  rw [outputs_append, outputs, h]
  exact List.mem_append_right _ List.mem_cons_self

/-- An output of a run was put out by an action of it, after the outputs that come before. -/
theorem outputs_split {s : σ} {actions : List α} {first rest : List β} {b : β}
    (h : outputs act out s actions = first ++ b :: rest) :
    ∃ before a after, actions = before ++ a :: after ∧ outputs act out s before = first ∧
      out (run act s before) a = some b := by
  induction actions generalizing s first with
  | nil => exact absurd h.symm (List.append_ne_nil_of_right_ne_nil _ (List.cons_ne_nil _ _))
  | cons a actions ih =>
      unfold outputs at h
      cases ho : out s a with
      | none =>
          rw [ho] at h
          obtain ⟨before, a', after, rfl, hfirst, hout⟩ := ih h
          refine ⟨a :: before, a', after, rfl, ?_, hout⟩
          rw [outputs, ho]
          exact hfirst
      | some c =>
          rw [ho] at h
          rcases List.cons_eq_append_iff.mp h with ⟨rfl, hb⟩ | ⟨first', rfl, htail⟩
          · cases hb
            exact ⟨[], a, actions, rfl, rfl, ho⟩
          · obtain ⟨before, a', after, rfl, hfirst, hout⟩ := ih htail
            refine ⟨a :: before, a', after, rfl, ?_, hout⟩
            rw [outputs, ho]
            exact congrArg (List.cons c) hfirst

/-- What was put out was put out by an action of the run. -/
theorem exists_of_mem_outputs {s : σ} {actions : List α} {b : β}
    (h : b ∈ outputs act out s actions) :
    ∃ before a after, actions = before ++ a :: after ∧ out (run act s before) a = some b := by
  obtain ⟨first, rest, hsplit⟩ := List.append_of_mem h
  obtain ⟨before, a, after, hactions, -, hout⟩ := outputs_split hsplit
  exact ⟨before, a, after, hactions, hout⟩

/-- **The invariant rule with outputs.** What relates a state to all that has been put out. -/
theorem outputs_invariant {P : σ → List β → Prop}
    (hstep : ∀ s given a, P s given → P (act s a) (given ++ (out s a).toList)) {s : σ}
    (hs : P s []) (actions : List α) :
    P (run act s actions) (outputs act out s actions) := by
  induction actions using List.reverseRecOn with
  | nil => exact hs
  | append_singleton actions a ih =>
      rw [run_append, outputs_append]
      have hnext := hstep _ _ a ih
      rwa [outputs, outputs, List.append_nil]

/-- **The component rule.** A part of the state that an action changes by its output, and leaves
alone without one, is after a run where the outputs of the run have taken it. -/
theorem run_component {γ : Type*} {move : γ → β → γ} {part : σ → γ}
    (hstep : ∀ s a, part (act s a) = (out s a).elim (part s) (move (part s))) (s : σ)
    (actions : List α) :
    part (run act s actions) = run move (part s) (outputs act out s actions) := by
  induction actions generalizing s with
  | nil => rfl
  | cons a rest ih =>
      rw [run_cons, ih (act s a), outputs, run_append, hstep s a]
      cases out s a with
      | none => rfl
      | some b => rfl

/-- **The progress rule.** Until an action hits, the invariant holds and every output lowers the
rank. -/
theorem Along.reaches {inv : σ → Prop} {hit : σ → α → Prop} {rank : σ → Nat}
    {ok : σ → α → Prop}
    (hstep : ∀ s a, inv s → ok s a → hit s a ∨
      (inv (act s a) ∧ rank (act s a) + (out s a).toList.length ≤ rank s))
    {s : σ} {actions : List α} (hok : Along act ok s actions) (hs : inv s)
    (hlong : rank s < (outputs act out s actions).length) :
    ∃ before a after, actions = before ++ a :: after ∧ inv (run act s before) ∧
      hit (run act s before) a := by
  induction actions generalizing s with
  | nil => cases hlong
  | cons a rest ih =>
      rcases hstep s a hs hok.1 with hhit | ⟨hinv, hrank⟩
      · exact ⟨[], a, rest, rfl, hs, hhit⟩
      · rw [outputs, List.length_append] at hlong
        obtain ⟨before, b, after, rfl, hb, hhit⟩ := ih hok.2 hinv (by omega)
        exact ⟨a :: before, b, after, rfl, hb, hhit⟩

end Outputs

end Machine
