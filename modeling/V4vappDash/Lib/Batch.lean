import Mathlib.Data.List.Basic

set_option autoImplicit false

/-! # A batch that ends at the first exception

Items are handled one after another over a shared state, and an exception ends the batch. When
handling an item touches nothing but the cell of its key (`Local`), a cell ends up as handling
its item leaves it, provided everything before it succeeds, and is untouched otherwise
(`runAll_cell`). What two batches that differ in the fate of one item store for another one
follows (`runAll_same_iff`).
-/

namespace Batch

variable {ι κ σ ε α : Type}

/-- Handle the items in order, as far as nothing raises. -/
def runAll (handle : ι → σ → σ × Except ε Unit) : List ι → σ → σ × Except ε Unit
  | [], s => (s, .ok ())
  | i :: rest, s =>
      match handle i s with
      | (s', .ok ()) => runAll handle rest s'
      | (s', .error e) => (s', .error e)

/-- Handling `i` leaves all cells but the one of `i` alone, and raises unless `succeeds`. -/
structure Local (handle : ι → σ → σ × Except ε Unit) (key : ι → κ) (cell : κ → σ → α)
    (i : ι) (succeeds : Prop) : Prop where
  frame : ∀ s k, k ≠ key i → cell k (handle i s).1 = cell k s
  result : ∀ s, (handle i s).2 = .ok () ↔ succeeds

variable {handle handle' : ι → σ → σ × Except ε Unit} {key : ι → κ} {cell : κ → σ → α}
  {succeeds : ι → Prop} {effect : α → α}

theorem runAll_cons (i : ι) (rest : List ι) (s : σ) :
    runAll handle (i :: rest) s = match handle i s with
      | (s', .ok ()) => runAll handle rest s'
      | (s', .error e) => (s', .error e) := rfl

/-- A success goes on with the rest. -/
theorem runAll_cons_of_ok {i : ι} {s : σ} (h : (handle i s).2 = .ok ()) (rest : List ι) :
    runAll handle (i :: rest) s = runAll handle rest (handle i s).1 := by
  rw [runAll_cons]
  cases hi : handle i s with
  | mk s' result =>
      rw [hi] at h
      cases h
      rfl

/-- A failure ends the batch. -/
theorem runAll_cons_of_not_ok {i : ι} {s : σ} (h : (handle i s).2 ≠ .ok ()) (rest : List ι) :
    (runAll handle (i :: rest) s).1 = (handle i s).1 := by
  rw [runAll_cons]
  cases hi : handle i s with
  | mk s' result =>
      cases result with
      | error e => rfl
      | ok u => exact absurd (by rw [hi]) h

/-- A cell whose key is not in the batch is untouched. -/
theorem runAll_frame {items : List ι} {k : κ}
    (hlocal : ∀ i ∈ items, Local handle key cell i (succeeds i))
    (hk : ∀ i ∈ items, k ≠ key i) (s : σ) : cell k (runAll handle items s).1 = cell k s := by
  induction items generalizing s with
  | nil => rfl
  | cons i rest ih =>
      have hframe := (hlocal i List.mem_cons_self).frame s k (hk i List.mem_cons_self)
      by_cases hi : (handle i s).2 = .ok ()
      · rw [runAll_cons_of_ok hi, ih (fun j hj => hlocal j (List.mem_cons_of_mem _ hj))
          (fun j hj => hk j (List.mem_cons_of_mem _ hj)), hframe]
      · rw [runAll_cons_of_not_ok hi, hframe]

/-- **The cell of one item.** It gets the effect of its item if everything before succeeds, and
is untouched otherwise. -/
theorem runAll_cell {before after : List ι} {b : ι}
    (hlocal : ∀ i ∈ before ++ b :: after, Local handle key cell i (succeeds i))
    (heffect : ∀ s, cell (key b) (handle b s).1 = effect (cell (key b) s))
    (hkeys : (before ++ b :: after).Pairwise (fun i j => key i ≠ key j)) (s : σ) :
    ((∀ i ∈ before, succeeds i) →
      cell (key b) (runAll handle (before ++ b :: after) s).1 = effect (cell (key b) s)) ∧
    ((∃ i ∈ before, ¬ succeeds i) →
      cell (key b) (runAll handle (before ++ b :: after) s).1 = cell (key b) s) := by
  induction before generalizing s with
  | nil =>
      have hafter : ∀ i ∈ after, key b ≠ key i := (List.pairwise_cons.mp hkeys).1
      refine ⟨fun _ => ?_, fun h => by simp at h⟩
      rw [List.nil_append]
      by_cases hok : (handle b s).2 = .ok ()
      · rw [runAll_cons_of_ok hok,
          runAll_frame (fun i hi => hlocal i (List.mem_cons_of_mem _ hi)) hafter, heffect]
      · rw [runAll_cons_of_not_ok hok, heffect]
  | cons i rest ih =>
      rw [List.cons_append] at hlocal hkeys ⊢
      obtain ⟨hi, hrest⟩ := List.pairwise_cons.mp hkeys
      have hloc := hlocal i List.mem_cons_self
      have hne : key b ≠ key i := (hi b (List.mem_append_right _ List.mem_cons_self)).symm
      have hframe := hloc.frame s (key b) hne
      by_cases hok : (handle i s).2 = .ok ()
      · have hsucc := (hloc.result s).mp hok
        have hih := ih (fun j hj => hlocal j (List.mem_cons_of_mem _ hj)) hrest (handle i s).1
        rw [hframe] at hih
        rw [runAll_cons_of_ok hok]
        refine ⟨fun h => hih.1 (fun j hj => h j (List.mem_cons_of_mem _ hj)), ?_⟩
        rintro ⟨j, hj, hjf⟩
        rcases List.mem_cons.mp hj with rfl | hj
        · exact absurd hsucc hjf
        · exact hih.2 ⟨j, hj, hjf⟩
      · rw [runAll_cons_of_not_ok hok, hframe]
        exact ⟨fun h => absurd ((hloc.result s).mpr (h i List.mem_cons_self)) hok, fun _ => rfl⟩

/-- **Two batches that differ in the fate of one item**: `a` succeeds in the first and raises in
the second. They store the same for `b` if and only if `b` comes before `a`, or something else
before `b` raises, or handling `b` changes nothing. -/
theorem runAll_same_iff {before after : List ι} {a b : ι} (hne : b ≠ a)
    (hothers : ∀ i ∈ before ++ b :: after, i ≠ a →
      Local handle key cell i (succeeds i) ∧ handle' i = handle i)
    (ha : Local handle key cell a True) (ha' : Local handle' key cell a False)
    (heffect : ∀ s, cell (key b) (handle b s).1 = effect (cell (key b) s))
    (hkeys : (before ++ b :: after).Pairwise (fun i j => key i ≠ key j)) (s : σ) :
    cell (key b) (runAll handle' (before ++ b :: after) s).1
        = cell (key b) (runAll handle (before ++ b :: after) s).1 ↔
      a ∉ before ∨ (∃ c ∈ before, c ≠ a ∧ ¬ succeeds c) ∨
        effect (cell (key b) s) = cell (key b) s := by
  have hlocal : ∀ i ∈ before ++ b :: after, Local handle key cell i (i = a ∨ succeeds i) := by
    intro i hi
    by_cases hia : i = a
    · rw [hia]
      exact ⟨ha.frame, fun s => by simpa using (ha.result s).mpr trivial⟩
    · simpa [hia] using (hothers i hi hia).1
  have hlocal' : ∀ i ∈ before ++ b :: after, Local handle' key cell i (i ≠ a ∧ succeeds i) := by
    intro i hi
    by_cases hia : i = a
    · rw [hia]
      exact ⟨ha'.frame, fun s => by simpa using (ha'.result s).mp⟩
    · obtain ⟨hloc, heq⟩ := hothers i hi hia
      exact ⟨fun s => by rw [heq]; exact hloc.frame s,
        fun s => by simpa [heq, hia] using hloc.result s⟩
  have hmem : b ∈ before ++ b :: after := List.mem_append_right _ List.mem_cons_self
  have hb := runAll_cell hlocal heffect hkeys s
  have hb' := runAll_cell hlocal'
    (fun s => by rw [(hothers b hmem hne).2]; exact heffect s) hkeys s
  by_cases hbefore : a ∈ before
  · -- the second batch ends at `a`, before it reaches `b`
    rw [hb'.2 ⟨a, hbefore, fun h => h.1 rfl⟩]
    by_cases hc : ∃ c ∈ before, c ≠ a ∧ ¬ succeeds c
    · obtain ⟨c, hmem, hca, hcf⟩ := hc
      rw [hb.2 ⟨c, hmem, fun h => h.elim hca hcf⟩]
      exact ⟨fun _ => Or.inr (Or.inl ⟨c, hmem, hca, hcf⟩), fun _ => rfl⟩
    · have hall : ∀ i ∈ before, i = a ∨ succeeds i := by
        intro i hi
        by_contra hcon
        obtain ⟨hia, hif⟩ := not_or.mp hcon
        exact hc ⟨i, hi, hia, hif⟩
      rw [hb.1 hall]
      constructor
      · intro h
        exact Or.inr (Or.inr h.symm)
      · rintro (h | h | h)
        · exact absurd hbefore h
        · exact absurd h hc
        · exact h.symm
  · -- neither batch meets `a` before `b`
    refine ⟨fun _ => Or.inl hbefore, fun _ => ?_⟩
    have hia : ∀ i ∈ before, i ≠ a := fun i hi heq => hbefore (heq ▸ hi)
    by_cases hall : ∀ i ∈ before, succeeds i
    · rw [hb.1 (fun i hi => Or.inr (hall i hi)), hb'.1 (fun i hi => ⟨hia i hi, hall i hi⟩)]
    · obtain ⟨c, hc⟩ := not_forall.mp hall
      obtain ⟨hmem, hcf⟩ := Classical.not_imp.mp hc
      rw [hb.2 ⟨c, hmem, fun h => h.elim (hia c hmem) hcf⟩, hb'.2 ⟨c, hmem, fun h => hcf h.2⟩]

end Batch
