import Mathlib.Logic.Function.Basic

set_option autoImplicit false

/-! # Numbered tickets

A number of counters, each of which is opened once and then hands out consecutive numbers. A
ticket is a counter together with a number it has handed out; it is held by at most one owner,
may be passed on, and may be lost. A lost ticket does not come back: its counter has passed the
number and never goes back (`Step.spent`), and hands out nothing it has passed (`Step.ticket`).
-/

/-- The next number of each open counter, and the ticket each owner holds. -/
structure Tickets (κ ω : Type*) where
  next : κ → Option Int
  held : ω → Option (κ × Int)

namespace Tickets

variable {κ ω : Type*} [DecidableEq κ] [DecidableEq ω]

/-- One step, with the ticket it hands out. -/
inductive Step (t : Tickets κ ω) : Option (κ × Int) → Tickets κ ω → Prop
  | keep : Step t none t
  | start {k : κ} {n : Int} (h : t.next k = none) :
      Step t none { t with next := Function.update t.next k (some n) }
  | take {k : κ} {n : Int} {o : ω} (hk : t.next k = some n) :
      Step t (some (k, n)) ⟨Function.update t.next k (some (n + 1)),
        Function.update t.held o (some (k, n))⟩
  /-- A ticket nobody gets to hold. -/
  | waste {k : κ} {n : Int} {o : ω} (hk : t.next k = some n) :
      Step t (some (k, n)) ⟨Function.update t.next k (some (n + 1)),
        Function.update t.held o none⟩
  | pass {o o' : ω} {p : κ × Int} (ho : t.held o = some p) :
      Step t none
        { t with held := Function.update (Function.update t.held o none) o' (some p) }
  | drop {o : ω} : Step t none { t with held := Function.update t.held o none }

/-- The counter has passed the number. -/
def Spent (t : Tickets κ ω) (p : κ × Int) : Prop := ∃ m, t.next p.1 = some m ∧ p.2 < m

/-- Every ticket that is held has been handed out, and nobody else holds it. -/
structure Fair (t : Tickets κ ω) : Prop where
  spent : ∀ o p, t.held o = some p → t.Spent p
  single : ∀ o o' p, t.held o = some p → t.held o' = some p → o = o'

variable {t t' : Tickets κ ω} {l : Option (κ × Int)}

omit [DecidableEq ω] in
/-- A counter that is moved on has still passed what it had passed. -/
theorem Spent.update {p : κ × Int} (h : t.Spent p) {k : κ} {n : Int} (hk : t.next k = some n)
    (held : ω → Option (κ × Int)) :
    Spent ⟨Function.update t.next k (some (n + 1)), held⟩ p := by
  obtain ⟨m, hm, hlt⟩ := h
  by_cases hpk : p.1 = k
  · have hmn : m = n := by
      rw [hpk, hk] at hm
      exact (Option.some.inj hm).symm
    refine ⟨n + 1, ?_, by omega⟩
    show Function.update t.next k (some (n + 1)) p.1 = some (n + 1)
    rw [hpk, Function.update_self]
  · refine ⟨m, ?_, hlt⟩
    show Function.update t.next k (some (n + 1)) p.1 = some m
    rw [Function.update_of_ne hpk]
    exact hm

omit [DecidableEq ω] in
/-- The number a counter hands out is behind it afterwards. -/
theorem spent_update {k : κ} {n : Int} (held : ω → Option (κ × Int)) :
    Spent ⟨Function.update t.next k (some (n + 1)), held⟩ (k, n) :=
  ⟨n + 1, Function.update_self _ _ _, by omega⟩

/-- **A number that is spent stays spent.** -/
theorem Step.spent (h : Step t l t') {p : κ × Int} (hp : t.Spent p) : t'.Spent p := by
  cases h with
  | keep | pass | drop => exact hp
  | take hk | waste hk => exact hp.update hk _
  | @start k n hk =>
      obtain ⟨m, hm, hlt⟩ := hp
      refine ⟨m, ?_, hlt⟩
      show Function.update t.next k (some n) p.1 = some m
      rw [Function.update_of_ne]
      · exact hm
      · rintro rfl
        rw [hk] at hm
        cases hm

/-- **A ticket that is handed out** was not spent before, is spent afterwards, and comes after
all that its counter has handed out. -/
theorem Step.ticket {p : κ × Int} (h : Step t (some p) t') :
    t'.Spent p ∧ ∀ q, t.Spent q → q.1 = p.1 → q.2 < p.2 := by
  have hnew : ∀ {k n}, t.next k = some n → ∀ q, t.Spent q → q.1 = k → q.2 < n := by
    intro k n hk q hq hqk
    obtain ⟨m, hm, hlt⟩ := hq
    rw [hqk, hk] at hm
    cases hm
    exact hlt
  cases h with
  | take hk => exact ⟨spent_update _, hnew hk⟩
  | waste hk => exact ⟨spent_update _, hnew hk⟩

/-- A ticket that is handed out is the next one of its counter, which moves on to the one after
it. -/
theorem Step.next_eq {p : κ × Int} (h : Step t (some p) t') :
    t.next p.1 = some p.2 ∧ t'.next = Function.update t.next p.1 (some (p.2 + 1)) := by
  cases h with
  | take hk => exact ⟨hk, rfl⟩
  | waste hk => exact ⟨hk, rfl⟩

omit [DecidableEq κ] in
/-- Whoever holds a ticket after one owner's hand was changed is this owner, or held it before. -/
theorem held_update_cases {held : ω → Option (κ × Int)} {o o' : ω} {x : Option (κ × Int)}
    {p : κ × Int} (h : Function.update held o x o' = some p) :
    (o' = o ∧ x = some p) ∨ (o' ≠ o ∧ held o' = some p) := by
  by_cases ho : o' = o
  · subst ho
    rw [Function.update_self] at h
    exact Or.inl ⟨rfl, h⟩
  · rw [Function.update_of_ne ho] at h
    exact Or.inr ⟨ho, h⟩

/-- Whoever holds a ticket was given it in the step, or somebody held it before. -/
theorem Step.held_cases (h : Step t l t') {o : ω} {p : κ × Int} (ho : t'.held o = some p) :
    l = some p ∨ ∃ o', t.held o' = some p := by
  cases h with
  | keep | start => exact Or.inr ⟨o, ho⟩
  | take hk =>
      rcases held_update_cases ho with ⟨-, hp⟩ | ⟨-, ho⟩
      · exact Or.inl hp
      · exact Or.inr ⟨o, ho⟩
  | waste hk | drop =>
      rcases held_update_cases ho with ⟨-, hp⟩ | ⟨-, ho⟩
      · cases hp
      · exact Or.inr ⟨o, ho⟩
  | @pass o₁ o₂ q ho₁ =>
      rcases held_update_cases ho with ⟨-, hp⟩ | ⟨-, ho⟩
      · cases hp
        exact Or.inr ⟨o₁, ho₁⟩
      · rcases held_update_cases ho with ⟨-, hp⟩ | ⟨-, ho⟩
        · cases hp
        · exact Or.inr ⟨o, ho⟩

/-- The ticket has been handed out, and nobody holds it. -/
structure Lost (t : Tickets κ ω) (p : κ × Int) : Prop where
  spent : t.Spent p
  free : ∀ o, t.held o ≠ some p

/-- **A lost ticket does not come back.** -/
theorem Step.lost (h : Step t l t') {p : κ × Int} (hp : t.Lost p) : t'.Lost p := by
  refine ⟨h.spent hp.spent, ?_⟩
  intro o ho
  rcases h.held_cases ho with rfl | ⟨o', ho'⟩
  · exact Int.lt_irrefl _ (h.ticket.2 p hp.spent rfl)
  · exact hp.free o' ho'

/-- What is spent after a step was spent before, is handed out in it, or lies before the first
number of a counter that is opened. -/
theorem Step.spent_cases (h : Step t l t') {p : κ × Int} (hp : t'.Spent p) :
    t.Spent p ∨ l = some p ∨ (t.next p.1 = none ∧ ∃ n, t'.next p.1 = some n ∧ p.2 < n) := by
  have hmoved : ∀ {k n held}, t.next k = some n →
      Spent (⟨Function.update t.next k (some (n + 1)), held⟩ : Tickets κ ω) p →
      t.Spent p ∨ some (k, n) = some p := by
    rintro k n held hk ⟨m, hm, hlt⟩
    dsimp only at hm
    by_cases hpk : p.1 = k
    · rw [hpk, Function.update_self] at hm
      cases hm
      rcases Int.lt_or_eq_of_le (Int.lt_add_one_iff.mp hlt) with hlt | heq
      · exact Or.inl ⟨n, by rw [hpk, hk], hlt⟩
      · exact Or.inr (congrArg some (Prod.ext hpk.symm heq.symm))
    · rw [Function.update_of_ne hpk] at hm
      exact Or.inl ⟨m, hm, hlt⟩
  cases h with
  | keep | pass | drop => exact Or.inl hp
  | take hk => exact (hmoved hk hp).imp_right Or.inl
  | waste hk => exact (hmoved hk hp).imp_right Or.inl
  | @start k n hk =>
      obtain ⟨m, hm, hlt⟩ := hp
      by_cases hpk : p.1 = k
      · exact Or.inr (Or.inr ⟨by rw [hpk, hk], m, hm, hlt⟩)
      · dsimp only at hm
        rw [Function.update_of_ne hpk] at hm
        exact Or.inl ⟨m, hm, hlt⟩

omit [DecidableEq ω] in
theorem Fair.advance (h : t.Fair) {k : κ} {n : Int} (hk : t.next k = some n) :
    Fair (⟨Function.update t.next k (some (n + 1)), t.held⟩ : Tickets κ ω) :=
  ⟨fun o p ho => (h.spent o p ho).update hk _, h.single⟩

omit [DecidableEq κ] in
/-- An owner whose hand is emptied does no harm. -/
theorem Fair.drop (h : t.Fair) (o : ω) :
    Fair { t with held := Function.update t.held o none } := by
  constructor
  · intro o₁ p h₁
    rcases held_update_cases h₁ with ⟨-, hp⟩ | ⟨-, h₁⟩
    · cases hp
    · exact h.spent o₁ p h₁
  · intro o₁ o₂ p h₁ h₂
    rcases held_update_cases h₁ with ⟨-, hp⟩ | ⟨-, h₁⟩
    · cases hp
    · rcases held_update_cases h₂ with ⟨-, hp⟩ | ⟨-, h₂⟩
      · cases hp
      · exact h.single o₁ o₂ p h₁ h₂

omit [DecidableEq κ] in
/-- An owner may be given a spent ticket that nobody holds. -/
theorem Fair.give (h : t.Fair) {o : ω} {p : κ × Int} (hp : t.Spent p)
    (hfree : ∀ o', t.held o' ≠ some p) :
    Fair { t with held := Function.update t.held o (some p) } := by
  constructor
  · intro o₁ q h₁
    rcases held_update_cases h₁ with ⟨-, hq⟩ | ⟨-, h₁⟩
    · cases hq
      exact hp
    · exact h.spent o₁ q h₁
  · intro o₁ o₂ q h₁ h₂
    rcases held_update_cases h₁ with ⟨ho₁, hq⟩ | ⟨-, h₁⟩
    · cases hq
      rcases held_update_cases h₂ with ⟨ho₂, -⟩ | ⟨-, h₂⟩
      · exact ho₁.trans ho₂.symm
      · exact absurd h₂ (hfree o₂)
    · rcases held_update_cases h₂ with ⟨-, hq⟩ | ⟨-, h₂⟩
      · cases hq
        exact absurd h₁ (hfree o₁)
      · exact h.single o₁ o₂ q h₁ h₂

omit [DecidableEq κ] in
/-- A ticket that its owner drops is lost. -/
theorem Fair.lost_of_drop (h : t.Fair) {o : ω} {p : κ × Int} (ho : t.held o = some p) :
    Lost { t with held := Function.update t.held o none } p := by
  refine ⟨h.spent o p ho, ?_⟩
  intro o' ho'
  rcases held_update_cases ho' with ⟨-, hp⟩ | ⟨hne, ho'⟩
  · cases hp
  · exact hne (h.single o' o p ho' ho)

/-- A ticket that nobody gets to hold is lost. -/
theorem Fair.lost_of_waste (h : t.Fair) {k : κ} {n : Int} (hk : t.next k = some n) (o : ω) :
    Lost ⟨Function.update t.next k (some (n + 1)), Function.update t.held o none⟩ (k, n) := by
  refine ⟨spent_update _, ?_⟩
  intro o' ho'
  rcases held_update_cases ho' with ⟨-, hp⟩ | ⟨-, ho'⟩
  · cases hp
  · -- what is held is behind the counter
    obtain ⟨m, hm, hlt⟩ := h.spent o' _ ho'
    dsimp only at hm hlt
    rw [hk] at hm
    cases hm
    omega

/-- **Fairness is kept.** -/
theorem Step.fair (h : Step t l t') (hfair : t.Fair) : t'.Fair := by
  have hspent : ∀ o p, t.held o = some p → t'.Spent p :=
    fun o p ho => h.spent (hfair.spent o p ho)
  cases h with
  | keep => exact hfair
  | start hk => exact ⟨hspent, hfair.single⟩
  | @take k n o hk =>
      refine (hfair.advance hk).give (spent_update _) ?_
      intro o' ho'
      -- what is held is spent, and the number handed out was not
      obtain ⟨m, hm, hlt⟩ := hfair.spent o' _ ho'
      dsimp only at hm hlt
      rw [hk] at hm
      cases hm
      omega
  | @waste k n o hk => exact (hfair.advance hk).drop o
  | @pass o o' p ho =>
      refine (hfair.drop o).give (hfair.spent o p ho) ?_
      intro o₁ h₁
      -- the owner who gives the ticket away was the only one to hold it
      rcases held_update_cases h₁ with ⟨-, hp⟩ | ⟨hne, h₁⟩
      · cases hp
      · exact hne (hfair.single o₁ o p h₁ ho)
  | drop => exact hfair.drop _

end Tickets
