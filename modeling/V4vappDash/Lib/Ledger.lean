import Mathlib.Algebra.BigOperators.Group.Finset.Basic
import Mathlib.Algebra.Order.BigOperators.Group.Finset

set_option autoImplicit false

/-! # Coins and the claims to them

Finitely many coins, each with an owner and a value (`Ledger`). A claim is a list of distinct
coins of one owner. Claims of different owners never meet in a coin, so together they are worth
at most what their owners hold: `sum_claims_le`.
-/

structure Ledger (κ α M : Type*) [Zero M] [LE M] where
  coins : Finset κ
  owner : κ → α
  value : κ → M
  value_nonneg : ∀ k ∈ coins, 0 ≤ value k

namespace Ledger

/-- Distinct coins of one owner. -/
structure Claim {κ α M : Type*} [Zero M] [LE M] (L : Ledger κ α M) (a : α) (keys : List κ) :
    Prop where
  distinct : keys.Nodup
  own : ∀ k ∈ keys, k ∈ L.coins ∧ L.owner k = a

theorem Claim.nil {κ α M : Type*} [Zero M] [LE M] {L : Ledger κ α M} (a : α) : L.Claim a [] :=
  ⟨List.nodup_nil, fun _ h => absurd h List.not_mem_nil⟩

section Sums

variable {κ α M : Type*} [AddCommMonoid M] [LE M] [DecidableEq α] (L : Ledger κ α M)

/-- What these owners hold together. -/
def held (owners : List α) : M := ∑ k ∈ L.coins.filter (fun k => L.owner k ∈ owners), L.value k

/-- The worth of a list of coins. -/
def worth (keys : List κ) : M := (keys.map L.value).sum

variable {L}

@[simp] theorem held_nil : L.held [] = 0 := by simp [held]

/-- Another owner holds other coins. -/
theorem held_cons {a : α} {owners : List α} (ha : a ∉ owners) :
    L.held (a :: owners) = L.held [a] + L.held owners := by
  classical
  have hdisjoint : Disjoint (L.coins.filter (fun k => L.owner k ∈ [a]))
      (L.coins.filter (fun k => L.owner k ∈ owners)) := by
    rw [Finset.disjoint_filter]
    intro k _ hk hmem
    rw [List.mem_singleton.mp hk] at hmem
    exact ha hmem
  unfold held
  rw [← Finset.sum_union hdisjoint, ← Finset.filter_or]
  simp only [List.mem_cons, List.not_mem_nil, or_false]

end Sums

section Order

variable {κ α M : Type*} [AddCommMonoid M] [PartialOrder M] [IsOrderedAddMonoid M]
  [DecidableEq α] {L : Ledger κ α M}

/-- A claim is worth at most what its owner holds. -/
theorem Claim.worth_le {a : α} {keys : List κ} (h : L.Claim a keys) : L.worth keys ≤ L.held [a] := by
  classical
  calc L.worth keys
      = ∑ k ∈ keys.toFinset, L.value k := (List.sum_toFinset L.value h.distinct).symm
    _ ≤ L.held [a] := by
        apply Finset.sum_le_sum_of_subset_of_nonneg
        · intro k hk
          obtain ⟨hcoin, howner⟩ := h.own k (List.mem_toFinset.mp hk)
          simp [hcoin, howner]
        · intro k hk _
          exact L.value_nonneg k (Finset.mem_filter.mp hk).1

/-- **The claims of different owners** are together worth at most what these owners hold. -/
theorem sum_claims_le {ι : Type*} {owner : ι → α} {keys : ι → List κ} {l : List ι}
    (hne : l.Pairwise (fun i j => owner i ≠ owner j))
    (h : ∀ i ∈ l, L.Claim (owner i) (keys i)) :
    (l.map (fun i => L.worth (keys i))).sum ≤ L.held (l.map owner) := by
  induction l with
  | nil => simp
  | cons i rest ih =>
      obtain ⟨hfirst, hrest⟩ := List.pairwise_cons.mp hne
      have hnew : owner i ∉ rest.map owner := by
        intro hmem
        obtain ⟨j, hj, heq⟩ := List.mem_map.mp hmem
        exact hfirst j hj heq.symm
      have hi := (h i List.mem_cons_self).worth_le
      have hsum := ih hrest (fun j hj => h j (List.mem_cons_of_mem _ hj))
      rw [List.map_cons, List.map_cons, List.sum_cons, held_cons hnew]
      exact add_le_add hi hsum

end Order

end Ledger
